import DoctypeInterfaces.Proofs.Json.Text

namespace DoctypeInterfaces.Json

open Text.Scan

variable {bound : Nat} {blanks t rest : List Char} {c : Char}

def EndsValue (rest : List Char) : Prop :=
  ∀ c, rest.head? = some c → c ∈ [' ', '\t', '\n', '\r', ',', ']', '}']

theorem endsValue_nil : EndsValue [] :=
  nofun

theorem endsValue_cons (h : c ∈ [',', ']', '}']) : EndsValue (c :: rest) := by
  intro d hd
  obtain rfl := Option.some.inj hd
  exact List.mem_append_right [' ', '\t', '\n', '\r'] h

theorem EndsValue.blanks_append (h : EndsValue rest) (hb : IsBlanks blanks) :
    EndsValue (blanks ++ rest) := by
  cases blanks with
  | nil => exact h
  | cons d blanks =>
    intro c hc
    obtain rfl := Option.some.inj hc
    exact List.mem_append_left [',', ']', '}'] (hb d List.mem_cons_self)

theorem Items.endsValue {closing : Char} {items : List (List Char)}
    (h : Items closing false items t) (hclosing : closing ∈ [',', ']', '}']) (rest : List Char) :
    EndsValue (t ++ rest) := by
  cases h with
  | closed _ hb =>
    rw [List.append_assoc]
    exact (endsValue_cons hclosing).blanks_append hb
  | next _ _ _ hb _ _ =>
    rw [List.append_assoc]
    exact (endsValue_cons (by simp)).blanks_append hb

/-- Whether a text begins like an item of an array or an object. -/
def StartsItem (t : List Char) : Prop :=
  ∃ c rest, t = c :: rest ∧ isBlank c = false ∧ c ∉ [',', ']', '}']

theorem look_of_startsItem (bound : Nat) {item : List Char} (h : StartsItem item)
    (hb : IsBlanks blanks) (s : List Char) :
    ∃ c, Scan.look bound (blanks ++ (item ++ s)) = .ok (some c, item ++ s) ∧
      c ∉ [',', ']', '}'] := by
  obtain ⟨c, more, rfl, hblank, hclosing⟩ := h
  exact ⟨c, look_of_blanks hb hblank, hclosing⟩

def StartsNoDigit (rest : List Char) : Prop :=
  ∀ c, rest.head? = some c → c.isDigit = false

theorem EndsValue.startsNoDigit (h : EndsValue rest) : StartsNoDigit rest := by
  intro c hc
  have hmem := h c hc
  simp only [List.mem_cons, List.not_mem_nil, or_false] at hmem
  rcases hmem with rfl | rfl | rfl | rfl | rfl | rfl | rfl <;> rfl

theorem spanDigits_append {digits : List Char} (h : ∀ c ∈ digits, c.isDigit = true)
    (hrest : StartsNoDigit rest) : spanDigits (digits ++ rest) = (digits, rest) := by
  rw [spanDigits, List.takeWhile_append_of_pos h, List.dropWhile_append_of_pos h]
  cases rest with
  | nil => simp
  | cons c rest => simp [hrest c rfl]

theorem someDigits_append (bound : Nat) {digits : List Char} (h : IsDigits digits)
    (hrest : StartsNoDigit rest) : someDigits bound (digits ++ rest) = .ok (digits, rest) := by
  have hspan := spanDigits_append h.2 hrest
  obtain ⟨hne, hdigits⟩ := h
  cases digits with
  | nil => exact absurd rfl hne
  | cons c digits =>
    rw [List.cons_append] at hspan ⊢
    rw [someDigits, if_pos (hdigits c List.mem_cons_self), hspan]

theorem wholeDigits_append (bound : Nat) {whole : List Char} (h : IsWhole whole)
    (hrest : StartsNoDigit rest) : wholeDigits bound (whole ++ rest) = .ok (whole, rest) := by
  have hspan := spanDigits_append h.1.2 hrest
  obtain ⟨⟨hne, hdigits⟩, hzero⟩ := h
  cases whole with
  | nil => exact absurd rfl hne
  | cons c whole =>
    unfold wholeDigits
    split
    · next heq => cases heq
    · next heq =>
      obtain ⟨rfl, rfl⟩ := List.cons.inj heq
      obtain rfl := (List.cons.inj (hzero rfl)).2
      cases rest with
      | nil => rfl
      | cons d rest => simp [hrest d rfl]
    · next heq =>
      obtain ⟨rfl, rfl⟩ := List.cons.inj heq
      rw [if_pos (hdigits _ List.mem_cons_self), hspan]

theorem fraction?_append (bound : Nat) {fraction : List Char}
    (h : fraction = [] ∨ IsFraction fraction) (hrest : StartsNoDigit rest)
    (hpoint : rest.head? ≠ some '.') :
    ∃ digits?, fraction? bound (fraction ++ rest) = .ok (digits?, rest) ∧
      (fraction = [] → digits? = none) := by
  rcases h with rfl | ⟨digits, hdigits, rfl⟩
  · refine ⟨none, ?_, fun _ => rfl⟩
    rw [List.nil_append]
    unfold fraction?
    split
    · exact absurd rfl hpoint
    · rfl
  · refine ⟨some digits, ?_, nofun⟩
    simp [fraction?, someDigits_append bound hdigits hrest]

theorem exponentSign_append (bound : Nat) (rest : List Char) {sign : List Char}
    (h : sign ∈ [[], ['+'], ['-']]) (hc : c.isDigit = true) :
    ∃ isNegative, exponentSign bound (sign ++ c :: rest) = .ok (isNegative, c :: rest) := by
  simp only [List.mem_cons, List.not_mem_nil, or_false] at h
  rcases h with rfl | rfl | rfl
  · refine ⟨false, ?_⟩
    rw [List.nil_append]
    unfold exponentSign
    split
    · next heq =>
      obtain ⟨rfl, -⟩ := List.cons.inj heq
      cases hc
    · next heq =>
      obtain ⟨rfl, -⟩ := List.cons.inj heq
      cases hc
    · rfl
  · exact ⟨false, rfl⟩
  · exact ⟨true, rfl⟩

theorem exponent?_append (bound : Nat) {exponent : List Char}
    (h : exponent = [] ∨ IsExponent exponent) (hrest : EndsValue rest) :
    ∃ exponent?, Json.exponent? bound (exponent ++ rest) = .ok (exponent?, rest) ∧
      (exponent = [] → exponent? = none) := by
  rcases h with rfl | ⟨e, sign, digits, he, hsign, hdigits, rfl⟩
  · refine ⟨none, ?_, fun _ => rfl⟩
    rw [List.nil_append]
    cases rest with
    | nil => rfl
    | cons c rest =>
      have hmem := hrest c rfl
      simp only [List.mem_cons, List.not_mem_nil, or_false] at hmem
      rcases hmem with rfl | rfl | rfl | rfl | rfl | rfl | rfl <;> rfl
  · obtain ⟨d, digits, rfl⟩ := List.exists_cons_of_ne_nil hdigits.1
    obtain ⟨isNegative, hread⟩ := exponentSign_append bound (digits ++ rest) hsign
      (hdigits.2 d List.mem_cons_self)
    have hsome := someDigits_append bound hdigits hrest.startsNoDigit
    rw [List.cons_append] at hsome
    refine ⟨some (isNegative, d :: digits), ?_, nofun⟩
    simp only [List.mem_cons, List.not_mem_nil, or_false] at he
    simp only [List.cons_append, List.append_assoc, Json.exponent?, hread, hsome]
    rcases he with rfl | rfl <;> rfl

theorem numberParts_append (bound : Nat) {whole fraction exponent : List Char}
    (hwhole : IsWhole whole) (hfraction : fraction = [] ∨ IsFraction fraction)
    (hexponent : exponent = [] ∨ IsExponent exponent) (hrest : EndsValue rest) :
    ∃ parts, numberParts bound (whole ++ (fraction ++ (exponent ++ rest))) = .ok (parts, rest) ∧
      parts.whole = whole ∧ (fraction = [] → parts.fraction = none) ∧
      (exponent = [] → parts.exponent = none) := by
  have hlast : StartsNoDigit (exponent ++ rest) ∧ (exponent ++ rest).head? ≠ some '.' := by
    rcases hexponent with rfl | ⟨e, sign, digits, he, -, -, rfl⟩
    · refine ⟨hrest.startsNoDigit, fun hpoint => ?_⟩
      have hmem := hrest '.' hpoint
      simp at hmem
    · simp only [List.mem_cons, List.not_mem_nil, or_false] at he
      rcases he with rfl | rfl <;> simp [StartsNoDigit]
  have hmiddle : StartsNoDigit (fraction ++ (exponent ++ rest)) := by
    rcases hfraction with rfl | ⟨digits, -, rfl⟩
    · exact hlast.1
    · simp [StartsNoDigit]
  obtain ⟨digits?, hdigits, hnone⟩ := fraction?_append bound hfraction hlast.1 hlast.2
  obtain ⟨exponent?, hread, hnone'⟩ := exponent?_append bound hexponent hrest
  refine ⟨⟨whole, digits?, exponent?⟩, ?_, rfl, hnone, hnone'⟩
  rw [numberParts, bind_of_ok (wholeDigits_append bound hwhole hmiddle), bind_of_ok hdigits,
    bind_of_ok hread]
  rfl

theorem skipNumber_append (h : IsNumber t) (hrest : EndsValue rest) :
    skipNumber bound (t ++ rest) = .ok ((), rest) := by
  obtain ⟨sign, whole, fraction, exponent, hsign, hwhole, hfraction, hexponent, rfl⟩ := h
  obtain ⟨parts, hread, -⟩ := numberParts_append bound hwhole hfraction hexponent hrest
  obtain ⟨c, digits, rfl⟩ := List.exists_cons_of_ne_nil hwhole.1.1
  have hminus : ¬ (c == '-') = true := by
    rw [beq_iff_eq]
    rintro rfl
    cases hwhole.1.2 '-' List.mem_cons_self
  simp only [List.append_assoc, List.cons_append] at hread ⊢
  simp only [List.mem_cons, List.not_mem_nil, or_false] at hsign
  rcases hsign with rfl | rfl <;> simp [skipNumber, hread, hminus]

theorem IsNumber.exists_cons (h : IsNumber t) :
    ∃ c rest, t = c :: rest ∧ (c == '-' || c.isDigit) = true := by
  obtain ⟨sign, whole, fraction, exponent, hsign, hwhole, -, -, rfl⟩ := h
  obtain ⟨c, digits, rfl⟩ := List.exists_cons_of_ne_nil hwhole.1.1
  simp only [List.mem_cons, List.not_mem_nil, or_false] at hsign
  rcases hsign with rfl | rfl
  · exact ⟨c, _, rfl, by simp [hwhole.1.2 c List.mem_cons_self]⟩
  · exact ⟨'-', _, rfl, rfl⟩

theorem ne_of_number (h : (c == '-' || c.isDigit) = true) :
    c ∉ [' ', '\t', '\n', '\r', ',', ']', '}', '[', '{', '"', 'n', 't', 'f'] := by
  intro hmem
  simp only [List.mem_cons, List.not_mem_nil, or_false] at hmem
  rcases hmem with rfl | rfl | rfl | rfl | rfl | rfl | rfl | rfl | rfl | rfl | rfl | rfl | rfl <;>
    cases h

theorem isBlank_of_number (h : (c == '-' || c.isDigit) = true) : isBlank c = false := by
  have hne := ne_of_number h
  simp only [List.mem_cons, List.not_mem_nil, or_false, not_or] at hne
  simp [isBlank, hne]

theorem IsString.exists_cons (h : IsString t) : ∃ body, t = '"' :: body := by
  obtain ⟨parts, -, rfl⟩ := h
  exact ⟨_, rfl⟩

theorem IsValue.startsItem (h : IsValue t) : StartsItem t := by
  cases h with
  | null => exact ⟨'n', _, rfl, rfl, by decide⟩
  | yes => exact ⟨'t', _, rfl, rfl, by decide⟩
  | no => exact ⟨'f', _, rfl, rfl, by decide⟩
  | number hnumber =>
    obtain ⟨c, rest, rfl, hc⟩ := hnumber.exists_cons
    have hother : [',', ']', '}'] ⊆ [' ', '\t', '\n', '\r', ',', ']', '}', '[', '{', '"', 'n', 't',
      'f'] := by decide
    exact ⟨c, rest, rfl, isBlank_of_number hc, fun hmem => ne_of_number hc (hother hmem)⟩
  | string hstring =>
    obtain ⟨body, rfl⟩ := hstring.exists_cons
    exact ⟨'"', _, rfl, rfl, by decide⟩
  | array => exact ⟨'[', _, rfl, rfl, by decide⟩
  | object => exact ⟨'{', _, rfl, rfl, by decide⟩

theorem IsLabel.startsItem {isKey : List Char → Prop} {label : List Char}
    (h : IsLabel isKey label) (hkey : ∀ key, isKey key → ∃ body, key = '"' :: body)
    (s : List Char) : StartsItem (label ++ s) := by
  obtain ⟨key, _, _, hk, -, -, rfl⟩ := h
  obtain ⟨body, rfl⟩ := hkey key hk
  exact ⟨'"', _, rfl, rfl, by decide⟩

def Bracket.opening : Bracket → Char
  | .square => '['
  | .brace => '{'

/-- Whether a text stands before a value within a bracket. -/
def Bracket.IsLabel : Bracket → List Char → Prop
  | .square, label => label = []
  | .brace, label => Json.IsLabel IsString label

/-- Reads what stands before a value within a bracket. -/
def Bracket.label (bracket : Bracket) (reading : Reading) : Scan Unit :=
  if bracket = .brace then reading.key else pure ()

theorem enter_eq (bracket : Bracket) (brackets : List Bracket) :
    Reading.lenient.enter bracket brackets = (do
      Scan.advance
      if (← Scan.look) = some bracket.closing then
        Scan.advance
        return (.after, brackets)
      else
        bracket.label Reading.lenient
        return (.value, bracket :: brackets)) := by
  cases bracket <;> rfl

theorem afterValue_eq (bracket : Bracket) (brackets : List Bracket) :
    Reading.lenient.afterValue bracket brackets = (do
      match ← Scan.look with
      | none => throw .truncated
      | some c =>
        if c = ',' then
          Scan.advance
          bracket.label Reading.lenient
          return (.value, bracket :: brackets)
        else if c = bracket.closing then
          Scan.advance
          return (.after, brackets)
        else
          throw .malformed) := by
  cases bracket <;> rfl

theorem Bracket.label_append {bracket : Bracket} {label : List Char} (s : List Char)
    (h : bracket.IsLabel label) (hb : IsBlanks blanks)
    (hbound : (blanks ++ (label ++ s)).length ≤ bound) :
    ∃ between, IsBlanks between ∧
      bracket.label Reading.lenient bound (blanks ++ (label ++ s)) = .ok ((), between ++ s) ∧
      (between ++ s).length ≤ (blanks ++ (label ++ s)).length := by
  cases bracket with
  | square =>
    obtain rfl : label = [] := h
    exact ⟨blanks, hb, rfl, le_rfl⟩
  | brace =>
    obtain ⟨key, before, between, hkey, hbefore, hbetween, rfl⟩ := h
    obtain ⟨body, rfl, hskip⟩ := skipText_of_isString hkey
    simp only [List.append_assoc, List.cons_append, List.length_append,
      List.length_cons] at hbound ⊢
    refine ⟨between, hbetween, ?_, by omega⟩
    have hbody : Reading.lenient.text bound (body ++ (before ++ ':' :: (between ++ s))) = _ :=
      hskip bound _ (by
        simp only [List.length_append, List.length_cons]
        omega)
    rw [Bracket.label, if_pos rfl, Reading.key, bind_of_ok (token_of_blanks hb rfl),
      bind_of_ok hbody, token_of_blanks hbefore rfl]

def IsPassedOver (t : List Char) : Prop :=
  ∀ bound brackets blanks rest, IsBlanks blanks → EndsValue rest →
    (blanks ++ (t ++ rest)).length ≤ bound →
    Relation.ReflTransGen (Goes Reading.lenient.step bound)
      ((.value, brackets), blanks ++ (t ++ rest)) ((.after, brackets), rest)

theorem goes_of_beginValue {s s' : List Char} {brackets : List Bracket} {position : Position}
    (h : Reading.lenient.beginValue brackets bound s = .ok (position, s'))
    (hshorter : s'.length < s.length) :
    Goes Reading.lenient.step bound ((.value, brackets), s) (position, s') :=
  ⟨map_of_ok Sum.inl h, hshorter⟩

theorem goes_of_afterValue {s s' : List Char} {bracket : Bracket} {brackets : List Bracket}
    {position : Position}
    (h : Reading.lenient.afterValue bracket brackets bound s = .ok (position, s'))
    (hshorter : s'.length < s.length) :
    Goes Reading.lenient.step bound ((.after, bracket :: brackets), s) (position, s') :=
  ⟨map_of_ok Sum.inl h, hshorter⟩

theorem Bracket.isBlank_closing (bracket : Bracket) : isBlank bracket.closing = false := by
  cases bracket <;> rfl

theorem Bracket.closing_ne_comma (bracket : Bracket) : bracket.closing ≠ ',' := by
  cases bracket <;> decide

theorem Bracket.closing_mem (bracket : Bracket) : bracket.closing ∈ [',', ']', '}'] := by
  cases bracket <;> decide

theorem goes_closing (bracket : Bracket) (brackets : List Bracket) (hb : IsBlanks blanks) :
    Goes Reading.lenient.step bound
      ((.after, bracket :: brackets), blanks ++ bracket.closing :: rest)
      ((.after, brackets), rest) := by
  apply goes_of_afterValue
  · rw [afterValue_eq, bind_of_ok (look_of_blanks hb bracket.isBlank_closing)]
    simp only [bracket.closing_ne_comma, if_false, if_true]
    rfl
  · simp only [List.length_append, List.length_cons]
    omega

/-- The comma after a value is passed over, with what stands before the next value. -/
theorem goes_comma {bracket : Bracket} (brackets : List Bracket) {blanks' label : List Char}
    (s : List Char) (hb : IsBlanks blanks) (hb' : IsBlanks blanks')
    (hlabel : bracket.IsLabel label) (hbound : (blanks' ++ (label ++ s)).length ≤ bound) :
    ∃ between, IsBlanks between ∧ (between ++ s).length ≤ bound ∧
      Goes Reading.lenient.step bound
        ((.after, bracket :: brackets), blanks ++ ',' :: (blanks' ++ (label ++ s)))
        ((.value, bracket :: brackets), between ++ s) := by
  obtain ⟨between, hbetween, hread, hshorter⟩ := Bracket.label_append s hlabel hb' hbound
  refine ⟨between, hbetween, hshorter.trans hbound, goes_of_afterValue ?_ ?_⟩
  · rw [afterValue_eq, bind_of_ok (look_of_blanks hb rfl)]
    simp only [if_true]
    rw [bind_of_ok (advance_cons _ _), bind_of_ok hread]
    rfl
  · simp only [List.length_append, List.length_cons] at hshorter ⊢
    omega

theorem beginValue_opening (bracket : Bracket) (brackets : List Bracket) (hb : IsBlanks blanks) :
    Reading.lenient.beginValue brackets bound (blanks ++ bracket.opening :: rest) =
      Reading.lenient.enter bracket brackets bound (bracket.opening :: rest) := by
  cases bracket <;> exact bind_of_ok (look_of_blanks hb rfl)

theorem goes_empty (bracket : Bracket) (brackets : List Bracket) {inner : List Char}
    (hb : IsBlanks blanks) (hinner : IsBlanks inner) :
    Goes Reading.lenient.step bound
      ((.value, brackets), blanks ++ bracket.opening :: (inner ++ bracket.closing :: rest))
      ((.after, brackets), rest) := by
  apply goes_of_beginValue
  · rw [beginValue_opening bracket brackets hb, enter_eq, bind_of_ok (advance_cons _ _),
      bind_of_ok (look_of_blanks hinner bracket.isBlank_closing), if_pos rfl]
    rfl
  · simp only [List.length_append, List.length_cons]
    omega

/-- An opening bracket is passed over, with what stands before the first value. -/
theorem goes_opening {bracket : Bracket} (brackets : List Bracket) {inner label value : List Char}
    (s : List Char) (hb : IsBlanks blanks) (hinner : IsBlanks inner)
    (hlabel : bracket.IsLabel label) (hstarts : StartsItem (label ++ value))
    (hbound : (label ++ (value ++ s)).length ≤ bound) :
    ∃ between, IsBlanks between ∧ (between ++ (value ++ s)).length ≤ bound ∧
      Goes Reading.lenient.step bound
        ((.value, brackets), blanks ++ bracket.opening :: (inner ++ (label ++ (value ++ s))))
        ((.value, bracket :: brackets), between ++ (value ++ s)) := by
  obtain ⟨c, hlook, hclosing⟩ := look_of_startsItem bound hstarts hinner s
  rw [List.append_assoc] at hlook
  have hne : some c ≠ some bracket.closing :=
    fun heq => hclosing (Option.some.inj heq ▸ bracket.closing_mem)
  obtain ⟨between, hbetween, hread, hshorter⟩ :=
    Bracket.label_append (value ++ s) hlabel isBlanks_nil hbound
  rw [List.nil_append] at hread hshorter
  refine ⟨between, hbetween, hshorter.trans hbound, goes_of_beginValue ?_ ?_⟩
  · rw [beginValue_opening bracket brackets hb, enter_eq, bind_of_ok (advance_cons _ _),
      bind_of_ok hlook, if_neg hne, bind_of_ok hread]
    rfl
  · simp only [List.length_append, List.length_cons] at hshorter ⊢
    omega

/-- What follows a value in a bracket is passed over, up to the end of the bracket. -/
theorem goes_later {bracket : Bracket} {members : List (List Char × List Char)}
    (h : Items bracket.closing false (members.map fun m => m.1 ++ m.2) t)
    (hlabels : ∀ m ∈ members, bracket.IsLabel m.1) (hvalues : ∀ m ∈ members, IsPassedOver m.2)
    (brackets : List Bracket) (hbound : (t ++ rest).length ≤ bound) :
    Relation.ReflTransGen (Goes Reading.lenient.step bound)
      ((.after, bracket :: brackets), t ++ rest) ((.after, brackets), rest) := by
  induction members generalizing t with
  | nil =>
    rw [List.map_nil] at h
    obtain @⟨-, blanks, hb⟩ := h
    rw [List.append_assoc]
    exact .single (goes_closing bracket brackets hb)
  | cons m members ih =>
    obtain ⟨hlabel, hlabels⟩ := List.forall_mem_cons.1 hlabels
    obtain ⟨hvalue, hvalues⟩ := List.forall_mem_cons.1 hvalues
    rw [List.map_cons] at h
    cases h with
    | @next blanks blanks' _ t _ hb hb' hitems =>
      simp only [List.append_assoc, List.cons_append] at hbound ⊢
      rw [List.length_append, List.length_cons] at hbound
      have hnext : (blanks' ++ (m.1 ++ (m.2 ++ (t ++ rest)))).length ≤ bound := by omega
      obtain ⟨between, hbetween, hshorter, hgoes⟩ := goes_comma brackets (m.2 ++ (t ++ rest)) hb
        hb' hlabel hnext
      have hpassed := hvalue bound (bracket :: brackets) between (t ++ rest) hbetween
        (hitems.endsValue bracket.closing_mem rest) hshorter
      refine .head hgoes (hpassed.trans (ih hitems hlabels hvalues ?_))
      simp only [List.length_append] at hbound ⊢
      omega

theorem isPassedOver_bracket (bracket : Bracket) {members : List (List Char × List Char)}
    (h : Items bracket.closing true (members.map fun m => m.1 ++ m.2) t)
    (hlabels : ∀ m ∈ members, bracket.IsLabel m.1) (hvalues : ∀ m ∈ members, IsPassedOver m.2)
    (hstarts : ∀ m ∈ members, StartsItem (m.1 ++ m.2)) :
    IsPassedOver (bracket.opening :: t) := by
  intro bound brackets blanks rest hb _ hbound
  cases members with
  | nil =>
    rw [List.map_nil] at h
    obtain @⟨-, inner, hinner⟩ := h
    rw [List.cons_append, List.append_assoc]
    exact .single (goes_empty bracket brackets hb hinner)
  | cons m members =>
    obtain ⟨hlabel, hlabels⟩ := List.forall_mem_cons.1 hlabels
    obtain ⟨hvalue, hvalues⟩ := List.forall_mem_cons.1 hvalues
    rw [List.map_cons] at h
    cases h with
    | @first inner _ t _ hinner hitems =>
      simp only [List.append_assoc, List.cons_append] at hbound ⊢
      rw [List.length_append, List.length_cons, List.length_append] at hbound
      have hfirst : (m.1 ++ (m.2 ++ (t ++ rest))).length ≤ bound := by omega
      obtain ⟨between, hbetween, hshorter, hgoes⟩ := goes_opening brackets (t ++ rest) hb hinner
        hlabel (hstarts m List.mem_cons_self) hfirst
      have hpassed := hvalue bound (bracket :: brackets) between (t ++ rest) hbetween
        (hitems.endsValue bracket.closing_mem rest) hshorter
      refine .head hgoes (hpassed.trans (goes_later hitems hlabels hvalues brackets ?_))
      simp only [List.length_append] at hfirst ⊢
      omega

theorem isPassedOver_of_beginValue (hne : t ≠ [])
    (h : ∀ bound brackets blanks rest, IsBlanks blanks → EndsValue rest →
      (t ++ rest).length ≤ bound → Reading.lenient.beginValue brackets bound
        (blanks ++ (t ++ rest)) = .ok ((.after, brackets), rest)) : IsPassedOver t := by
  intro bound brackets blanks rest hb hrest hbound
  have hpos := List.length_pos_iff.2 hne
  rw [List.length_append] at hbound
  refine .single (goes_of_beginValue (h bound brackets blanks rest hb hrest (by omega)) ?_)
  simp only [List.length_append]
  omega

theorem isPassedOver_number (h : IsNumber t) : IsPassedOver t := by
  obtain ⟨c, digits, rfl, hc⟩ := h.exists_cons
  apply isPassedOver_of_beginValue (List.cons_ne_nil c digits)
  intro bound brackets blanks rest hb hrest _
  have hnumber : Reading.lenient.number bound (c :: digits ++ rest) = .ok ((), rest) :=
    skipNumber_append h hrest
  have hne := ne_of_number hc
  simp only [List.mem_cons, List.not_mem_nil, or_false, not_or] at hne
  rw [List.cons_append] at hnumber ⊢
  rw [Reading.beginValue, bind_of_ok (look_of_blanks hb (isBlank_of_number hc))]
  generalize hfirst : some c = first
  split
  case h_1 => cases hfirst
  case h_8 =>
    obtain rfl := Option.some.inj hfirst
    rw [if_pos hc]
    exact bind_of_ok hnumber
  -- No other character begins a number.
  all_goals
    obtain rfl := Option.some.inj hfirst
    simp at hne

theorem isPassedOver_string (h : IsString t) : IsPassedOver t := by
  obtain ⟨body, rfl, hskip⟩ := skipText_of_isString h
  apply isPassedOver_of_beginValue (List.cons_ne_nil _ _)
  intro bound brackets blanks rest hb _ hbound
  have hbody : Reading.lenient.text bound (body ++ rest) = .ok ((), rest) :=
    hskip bound rest (Nat.le_of_succ_le hbound)
  rw [List.cons_append, Reading.beginValue, bind_of_ok (look_of_blanks hb rfl)]
  exact (bind_of_ok (advance_cons _ _)).trans (bind_of_ok hbody)

theorem IsValue.isPassedOver (h : IsValue t) : IsPassedOver t := by
  induction h with
  | null =>
    refine isPassedOver_of_beginValue (by decide) fun bound brackets blanks rest hb _ _ => ?_
    exact (bind_of_ok (look_of_blanks hb rfl)).trans (bind_of_ok (word_append "null".toList rest))
  | yes =>
    refine isPassedOver_of_beginValue (by decide) fun bound brackets blanks rest hb _ _ => ?_
    exact (bind_of_ok (look_of_blanks hb rfl)).trans (bind_of_ok (word_append "true".toList rest))
  | no =>
    refine isPassedOver_of_beginValue (by decide) fun bound brackets blanks rest hb _ _ => ?_
    exact (bind_of_ok (look_of_blanks hb rfl)).trans (bind_of_ok (word_append "false".toList rest))
  | number hnumber => exact isPassedOver_number hnumber
  | string hstring => exact isPassedOver_string hstring
  | @array items t hitems h ih =>
    have hmembers : (items.map fun item => (([] : List Char), item)).map (fun m => m.1 ++ m.2) =
        items := by
      simp [Function.comp_def]
    refine isPassedOver_bracket .square (hmembers.symm ▸ h) ?_ ?_ ?_
    · simp [Bracket.IsLabel]
    · simpa using ih
    · simpa using fun item hitem => (hitems item hitem).startsItem
  | @object members t hlabels hvalues h ih =>
    refine isPassedOver_bracket .brace h hlabels ih fun m hm => ?_
    exact (hlabels m hm).startsItem (fun key hkey => hkey.exists_cons) _

/-- Whatever has the form of a value is passed over, up to the end of it. -/
theorem skipValue_append (h : IsValue t) (hb : IsBlanks blanks) (hrest : EndsValue rest)
    (hbound : (blanks ++ (t ++ rest)).length ≤ bound) :
    skipValue bound (blanks ++ (t ++ rest)) = .ok ((), rest) :=
  iterate_of_goes (h.isPassedOver bound [] blanks rest hb hrest hbound) rfl hbound

end DoctypeInterfaces.Json
