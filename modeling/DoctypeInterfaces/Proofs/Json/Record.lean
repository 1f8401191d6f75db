import DoctypeInterfaces.Json.Record
import DoctypeInterfaces.Proofs.Json.Value
import Mathlib.Data.List.Nodup

namespace DoctypeInterfaces.Json

open Text.Scan

variable {α β ρ : Type} {bound : Nat} {blanks t rest : List Char} {a : α} {scan : Scan α}

/-- Whether a scan reads a text as a result, wherever a value may stand. -/
def Reads (scan : Scan α) (t : List Char) (a : α) : Prop :=
  ∀ bound blanks rest, IsBlanks blanks → EndsValue rest → (blanks ++ (t ++ rest)).length ≤ bound →
    scan bound (blanks ++ (t ++ rest)) = .ok (a, rest)

theorem Reads.map {b : β} (h : Reads scan t a) (f : α → β) (hf : f a = b) :
    Reads (scan >>= fun a => pure (f a)) t b := by
  intro bound blanks rest hb hrest hbound
  rw [bind_of_ok (h bound blanks rest hb hrest hbound), hf]
  rfl

theorem WritesString.exists_cons {s : String} (h : WritesString s t) : ∃ body, t = '"' :: body := by
  obtain ⟨parts, -, rfl⟩ := h
  exact ⟨_, rfl⟩

theorem reads_string {s : String} (h : WritesString s t) : Reads string t s := by
  intro bound blanks rest hb _ hbound
  obtain ⟨body, rfl, htext⟩ := text_of_writesString h
  have hbody := htext bound rest (by
    simp only [List.length_append, List.length_cons] at hbound ⊢
    omega)
  rw [List.cons_append, string, bind_of_ok (look_of_blanks hb rfl), if_pos rfl,
    bind_of_ok (advance_cons _ _), hbody]

theorem reads_string? {s? : Option String} (h : WritesString? s? t) : Reads string? t s? := by
  intro bound blanks rest hb hrest hbound
  cases s? with
  | none =>
    obtain rfl : t = "null".toList := h
    exact (bind_of_ok (look_of_blanks hb rfl)).trans (bind_of_ok (word_append "null".toList rest))
  | some s =>
    have hstring : WritesString s t := h
    obtain ⟨body, rfl⟩ := hstring.exists_cons
    have hread := reads_string hstring bound [] rest isBlanks_nil hrest (by
      simp only [List.length_append, List.nil_append] at hbound ⊢
      omega)
    rw [List.cons_append, string?, bind_of_ok (look_of_blanks hb rfl), if_neg (by decide)]
    exact bind_of_ok hread

theorem isWhole_digit {c : Char} (hc : c.isDigit = true) : IsWhole [c] :=
  ⟨⟨List.cons_ne_nil _ _, by simpa using hc⟩, fun h => by rw [Option.some.inj h]⟩

theorem number_digit {c : Char} (hc : c.isDigit = true) (hrest : EndsValue rest) :
    number bound (c :: rest) = .ok (.natural (c.toNat - '0'.toNat), rest) := by
  obtain ⟨⟨_, _, _⟩, hread, rfl, hfraction, hexponent⟩ := numberParts_append bound
    (isWhole_digit hc) (.inl rfl) (.inl rfl) hrest
  obtain rfl := hfraction rfl
  obtain rfl := hexponent rfl
  have hc9 : c.toNat ≤ '9'.toNat := by
    rw [Char.isDigit, Bool.and_eq_true, decide_eq_true_eq, decide_eq_true_eq] at hc
    exact hc.2
  have habsorb : absorb 0 [c] = (c.toNat - '0'.toNat, []) := by
    have hword : '9'.toNat ≤ maxWord := by decide
    rw [absorb, absorb, Nat.zero_mul, Nat.zero_add, if_pos (by omega)]
  have hvalue : NumberParts.value ⟨[c], none, none⟩ false =
      .ok (.natural (c.toNat - '0'.toNat)) := by
    simp [NumberParts.value, habsorb, wholeNumber]
  unfold number
  split
  · next heq =>
    obtain ⟨rfl, -⟩ := List.cons.inj heq
    cases hc
  · simp only [List.nil_append, List.singleton_append] at hread
    rw [hread]
    simp only [hvalue]
    rfl

theorem reads_flag {b : Bool} {levels : Nat} (h : WritesFlag b t) : Reads (flag levels) t b := by
  intro bound blanks rest hb hrest _
  cases b with
  | true =>
    simp only [WritesFlag, if_true, List.mem_cons, List.not_mem_nil, or_false] at h
    rcases h with rfl | rfl
    · exact (bind_of_ok (look_of_blanks hb rfl)).trans
        (bind_of_ok (word_append "true".toList rest))
    · exact (bind_of_ok (look_of_blanks hb rfl)).trans (bind_of_ok (number_digit rfl hrest))
  | false =>
    simp only [WritesFlag, Bool.false_eq_true, if_false, List.mem_cons, List.not_mem_nil,
      or_false] at h
    rcases h with rfl | rfl | rfl
    · exact (bind_of_ok (look_of_blanks hb rfl)).trans
        (bind_of_ok (word_append "false".toList rest))
    · exact (bind_of_ok (look_of_blanks hb rfl)).trans (bind_of_ok (number_digit rfl hrest))
    · exact (bind_of_ok (look_of_blanks hb rfl)).trans
        (bind_of_ok (word_append "null".toList rest))

theorem nextElement_of_closed {isFirst : Bool} (h : Items ']' isFirst [] t) :
    nextElement isFirst bound (t ++ rest) = .ok (false, ']' :: rest) := by
  obtain @⟨-, blanks, hb⟩ := h
  rw [List.append_assoc]
  exact bind_of_ok (look_of_blanks hb rfl)

theorem nextElement_of_item (bound : Nat) (rest : List Char) {isFirst : Bool}
    {item : List Char} {items : List (List Char)}
    (h : Items ']' isFirst (item :: items) t) (hstarts : StartsItem item) :
    ∃ later, Items ']' false items later ∧
      nextElement isFirst bound (t ++ rest) = .ok (true, item ++ (later ++ rest)) ∧
      (item ++ (later ++ rest)).length ≤ (t ++ rest).length := by
  cases h with
  | @first blanks _ later _ hb hitems =>
    obtain ⟨c, hlook, hc⟩ := look_of_startsItem bound hstarts hb (later ++ rest)
    simp only [List.append_assoc, List.length_append]
    refine ⟨later, hitems, ?_, by omega⟩
    rw [nextElement, bind_of_ok hlook]
    generalize hfirst : some c = first
    split
    case h_1 => cases hfirst
    case h_2 =>
      obtain rfl := Option.some.inj hfirst
      simp at hc
    all_goals rfl
  | @next blanks blanks' _ later _ hb hb' hitems =>
    obtain ⟨c, hlook, hc⟩ := look_of_startsItem bound hstarts hb' (later ++ rest)
    simp only [List.append_assoc, List.cons_append, List.length_append, List.length_cons]
    refine ⟨later, hitems, ?_, by omega⟩
    rw [nextElement, bind_of_ok (look_of_blanks hb rfl)]
    simp only [Bool.false_eq_true, if_false]
    rw [bind_of_ok (advance_cons _ _), bind_of_ok hlook]
    generalize hfirst : some c = first
    split
    case h_1 => cases hfirst
    case h_2 =>
      obtain rfl := Option.some.inj hfirst
      simp at hc
    case h_3 => rfl

theorem StartsItem.length_pos (h : StartsItem t) : 0 < t.length := by
  obtain ⟨c, rest, rfl, -⟩ := h
  exact Nat.succ_pos _

theorem goes_elementStep {element : Scan α} {as : List α} {items : List (List Char)}
    (h : List.Forall₂ (fun a item => Reads element item a ∧ StartsItem item) as items)
    (found : List α) (hitems : Items ']' found.isEmpty items t)
    (hbound : (t ++ rest).length ≤ bound) :
    ∃ s, Relation.ReflTransGen (Goes (elementStep element) bound) (found, t ++ rest)
        (as.reverse ++ found, s) ∧
      elementStep element (as.reverse ++ found) bound s =
        .ok (.inr (found.reverse ++ as), rest) := by
  induction h generalizing found t with
  | nil =>
    refine ⟨t ++ rest, .refl, ?_⟩
    rw [elementStep, List.reverse_nil, List.nil_append, List.append_nil,
      bind_of_ok (nextElement_of_closed hitems)]
    exact bind_of_ok (advance_cons _ _)
  | @cons a item as items ha _ ih =>
    obtain ⟨helement, hstarts⟩ := ha
    obtain ⟨later, hlater, hnext, hshorter⟩ := nextElement_of_item bound rest
      hitems hstarts
    have hread : element bound (item ++ (later ++ rest)) = .ok (a, later ++ rest) :=
      helement bound [] (later ++ rest) isBlanks_nil (hlater.endsValue (by decide) rest)
        (hshorter.trans hbound)
    have hpos := hstarts.length_pos
    rw [List.length_append] at hshorter
    obtain ⟨s, hgoes, hlast⟩ := ih (a :: found) hlater (by omega)
    refine ⟨s, ?_, by simpa using hlast⟩
    have hstep : elementStep element found bound (t ++ rest) =
        .ok (.inl (a :: found), later ++ rest) := by
      rw [elementStep, bind_of_ok hnext]
      exact bind_of_ok hread
    rw [List.reverse_cons, List.append_assoc]
    exact .head (b := (a :: found, later ++ rest)) ⟨hstep, by simp only; omega⟩ hgoes

theorem reads_list {element : Scan α} {writes : α → List Char → Prop}
    (helement : ∀ a item, writes a item → Reads element item a ∧ StartsItem item) {as : List α}
    (h : WritesArray writes as t) : Reads (list element) t as := by
  intro bound blanks rest hb _ hbound
  obtain ⟨items, body, hwrites, hitems, rfl⟩ := h
  have hbody : (body ++ rest).length ≤ bound := by
    simp only [List.length_append, List.length_cons] at hbound ⊢
    omega
  obtain ⟨s, hgoes, hlast⟩ := goes_elementStep (hwrites.imp helement) [] hitems hbody
  rw [List.cons_append, list, bind_of_ok (look_of_blanks hb rfl), if_pos rfl,
    bind_of_ok (advance_cons _ _)]
  exact iterate_of_goes hgoes hlast hbody

theorem nextKey_of_closed {isFirst : Bool} (h : Items '}' isFirst [] t) :
    nextKey isFirst bound (t ++ rest) = .ok (none, '}' :: rest) := by
  obtain @⟨-, blanks, hb⟩ := h
  rw [List.append_assoc]
  exact bind_of_ok (look_of_blanks hb rfl)

theorem nextKey_of_item {isFirst : Bool} {key : String} {label value : List Char}
    {items : List (List Char)} (hlabel : IsLabel (WritesString key) label)
    (h : Items '}' isFirst ((label ++ value) :: items) t) (hbound : (t ++ rest).length ≤ bound) :
    ∃ before between later, IsBlanks before ∧ IsBlanks between ∧ Items '}' false items later ∧
      nextKey isFirst bound (t ++ rest) =
        .ok (some key, before ++ ':' :: (between ++ (value ++ (later ++ rest)))) ∧
      (between ++ (value ++ (later ++ rest))).length < (t ++ rest).length := by
  obtain ⟨_, before, between, hkey, hbefore, hbetween, rfl⟩ := hlabel
  obtain ⟨body, rfl, htext⟩ := text_of_writesString hkey
  cases h with
  | @first blanks _ later _ hb hitems =>
    simp only [List.append_assoc, List.cons_append, List.length_append,
      List.length_cons] at hbound ⊢
    refine ⟨before, between, later, hbefore, hbetween, hitems, ?_, by omega⟩
    have hread := htext bound (before ++ ':' :: (between ++ (value ++ (later ++ rest)))) (by
      simp only [List.length_append, List.length_cons]
      omega)
    rw [nextKey, bind_of_ok (look_of_blanks hb rfl)]
    simp only [if_true]
    rw [bind_of_ok (advance_cons _ _)]
    exact bind_of_ok hread
  | @next blanks blanks' _ later _ hb hb' hitems =>
    simp only [List.append_assoc, List.cons_append, List.length_append,
      List.length_cons] at hbound ⊢
    refine ⟨before, between, later, hbefore, hbetween, hitems, ?_, by omega⟩
    have hread := htext bound (before ++ ':' :: (between ++ (value ++ (later ++ rest)))) (by
      simp only [List.length_append, List.length_cons]
      omega)
    rw [nextKey, bind_of_ok (look_of_blanks hb rfl)]
    simp only [Bool.false_eq_true, if_false]
    rw [bind_of_ok (advance_cons _ _), bind_of_ok (token_of_blanks hb' rfl)]
    exact bind_of_ok hread

section Records

def RecordShape.keysIn (shape : RecordShape ρ) (members : List (String × List Char)) :
    List String :=
  (members.map Prod.fst).filter fun key => shape.members.any fun m => m.key == key

/-- Whether a member of an object is read into a record, of which only the members with the given
keys have been read, or is passed over. -/
structure RecordShape.ReadsMember (shape : RecordShape ρ) (after : List String → ρ)
    (written : String × List Char) : Prop where
  known : ∀ m ∈ shape.members, m.key = written.1 → ∀ keys,
    Reads (m.fill (after keys)) written.2 (after (m.key :: keys))
  other : (∀ m ∈ shape.members, m.key ≠ written.1) → IsValue written.2

variable {shape : RecordShape ρ} {after : List String → ρ}

theorem memberStep_of_item {draft : Draft ρ} {label : List Char} {written : String × List Char}
    {items : List (List Char)} (hwritten : shape.ReadsMember after written)
    (hlabel : IsLabel (WritesString written.1) label)
    (h : Items '}' draft.isFirst ((label ++ written.2) :: items) t)
    (hrecord : draft.record = after draft.keys)
    (hfresh : (shape.keysIn [written] ++ draft.keys).Nodup)
    (hbound : (t ++ rest).length ≤ bound) :
    ∃ later, Items '}' false items later ∧
      shape.memberStep draft bound (t ++ rest) =
        .ok (.inl ⟨false, shape.keysIn [written] ++ draft.keys,
          after (shape.keysIn [written] ++ draft.keys)⟩, later ++ rest) ∧
      (later ++ rest).length < (t ++ rest).length := by
  obtain ⟨before, between, later, hbefore, hbetween, hlater, hkey, hshorter⟩ :=
    nextKey_of_item hlabel h hbound
  have hends : EndsValue (later ++ rest) := hlater.endsValue (by decide) rest
  have htoken : Scan.token ':' bound
      (before ++ ':' :: (between ++ (written.2 ++ (later ++ rest)))) =
        .ok ((), between ++ (written.2 ++ (later ++ rest))) := token_of_blanks hbefore rfl
  refine ⟨later, hlater, ?_, ?_⟩
  · rw [RecordShape.memberStep, bind_of_ok hkey]
    cases hfind : shape.members.find? fun m => m.key == written.1 with
    | none =>
      have hother : ∀ m ∈ shape.members, m.key ≠ written.1 := by simpa using hfind
      have hkeys : shape.keysIn [written] = [] := by simpa [RecordShape.keysIn] using hother
      have hskip := skipValue_append (hwritten.other hother) hbetween hends
        (hshorter.le.trans hbound)
      simp only [hfind, hkeys, List.nil_append]
      rw [bind_of_ok htoken, bind_of_ok hskip, hrecord]
      rfl
    | some m =>
      have hm := List.mem_of_find?_eq_some hfind
      have hmkey : m.key = written.1 := by simpa using List.find?_some hfind
      have hkeys : shape.keysIn [written] = [written.1] := by
        simpa [RecordShape.keysIn] using ⟨m, hm, hmkey⟩
      rw [hkeys, List.singleton_append, List.nodup_cons] at hfresh
      have hunread : draft.keys.contains written.1 = false := by simpa using hfresh.1
      have hread := hwritten.known m hm hmkey draft.keys bound between (later ++ rest) hbetween
        hends (hshorter.le.trans hbound)
      rw [hmkey] at hread
      simp only [hfind, hunread, hkeys, List.singleton_append, Bool.false_eq_true, if_false]
      rw [bind_of_ok htoken, hrecord]
      exact bind_of_ok hread
  · simp only [List.length_append] at hshorter ⊢
    omega

theorem RecordShape.reverse_keysIn_cons (shape : RecordShape ρ) (written : String × List Char)
    (members : List (String × List Char)) :
    (shape.keysIn (written :: members)).reverse =
      (shape.keysIn members).reverse ++ shape.keysIn [written] := by
  simp only [keysIn, List.map_cons, List.map_nil, List.filter_cons, List.filter_nil]
  split
  · exact List.reverse_cons
  · exact (List.append_nil _).symm

theorem memberStep_of_closed {draft : Draft ρ} (h : Items '}' draft.isFirst [] t)
    (hrequired : ∀ m ∈ shape.members, m.isRequired = true → m.key ∈ draft.keys) :
    shape.memberStep draft bound (t ++ rest) = .ok (.inr draft.record, rest) := by
  have hfind :
      (shape.members.find? fun m => m.isRequired && !draft.keys.contains m.key) = none := by
    simpa using hrequired
  rw [RecordShape.memberStep, bind_of_ok (nextKey_of_closed h)]
  simp only [hfind]
  exact bind_of_ok (advance_cons _ _)

theorem goes_memberStep {members : List (String × List Char)} {items : List (List Char)}
    (h : List.Forall₂
      (fun m item => ∃ label, IsLabel (WritesString m.1) label ∧ item = label ++ m.2)
      members items)
    (hmembers : ∀ m ∈ members, shape.ReadsMember after m) (draft : Draft ρ)
    (hitems : Items '}' draft.isFirst items t) (hrecord : draft.record = after draft.keys)
    (hfresh : ((shape.keysIn members).reverse ++ draft.keys).Nodup)
    (hrequired : ∀ m ∈ shape.members, m.isRequired = true →
      m.key ∈ (shape.keysIn members).reverse ++ draft.keys)
    (hbound : (t ++ rest).length ≤ bound) :
    ∃ last s, Relation.ReflTransGen (Goes shape.memberStep bound) (draft, t ++ rest) (last, s) ∧
      shape.memberStep last bound s =
        .ok (.inr (after ((shape.keysIn members).reverse ++ draft.keys)), rest) := by
  induction h generalizing t draft with
  | nil => exact ⟨draft, t ++ rest, .refl, hrecord ▸ memberStep_of_closed hitems hrequired⟩
  | @cons written item members items hitem _ ih =>
    obtain ⟨hwritten, hmembers⟩ := List.forall_mem_cons.1 hmembers
    obtain ⟨label, hlabel, rfl⟩ := hitem
    rw [shape.reverse_keysIn_cons, List.append_assoc] at hfresh hrequired ⊢
    obtain ⟨later, hlater, hstep, hshorter⟩ := memberStep_of_item hwritten hlabel hitems hrecord
      (List.nodup_append.1 hfresh).2.1 hbound
    obtain ⟨last, s, hgoes, hlast⟩ := ih hmembers
      ⟨false, shape.keysIn [written] ++ draft.keys, after _⟩ hlater rfl hfresh hrequired
      (hshorter.le.trans hbound)
    exact ⟨last, s, .head ⟨hstep, hshorter⟩ hgoes, hlast⟩

end Records

section Members

variable {members : List (String × List Char)} {key : String} {value : List Char}
  {isValue : List Char → Prop} {mayOmit : Prop}

theorem mem_valuesOf : value ∈ valuesOf key members ↔ (key, value) ∈ members := by
  simp only [valuesOf, List.mem_map, List.mem_filter, beq_iff_eq]
  constructor
  · rintro ⟨m, ⟨hm, rfl⟩, rfl⟩
    exact hm
  · exact fun hm => ⟨_, ⟨hm, rfl⟩, rfl⟩

theorem Holds.imp {isValue' : List Char → Prop} {mayOmit' : Prop}
    (h : Holds members key isValue mayOmit) (hvalue : ∀ value, isValue value → isValue' value)
    (homit : mayOmit → mayOmit') : Holds members key isValue' mayOmit' := by
  rcases h with ⟨value, hvalues, hkind⟩ | ⟨hvalues, hmay⟩
  · exact .inl ⟨value, hvalues, hvalue value hkind⟩
  · exact .inr ⟨hvalues, homit hmay⟩

theorem Holds.length_le (h : Holds members key isValue mayOmit) :
    (valuesOf key members).length ≤ 1 := by
  rcases h with ⟨value, hvalues, -⟩ | ⟨hvalues, -⟩ <;> rw [hvalues] <;> simp

theorem Holds.of_mem (h : Holds members key isValue mayOmit) (hmem : (key, value) ∈ members) :
    isValue value := by
  rw [← mem_valuesOf] at hmem
  rcases h with ⟨_, hvalues, hvalue⟩ | ⟨hvalues, -⟩ <;> rw [hvalues] at hmem
  · rwa [List.mem_singleton.1 hmem]
  · cases hmem

theorem Holds.of_notMem (h : Holds members key isValue mayOmit)
    (hnone : key ∉ members.map Prod.fst) : mayOmit := by
  rcases h with ⟨value, hvalues, -⟩ | ⟨-, hmay⟩
  · have hmem : (key, value) ∈ members := mem_valuesOf.1 (hvalues ▸ List.mem_singleton_self _)
    exact absurd (List.mem_map_of_mem hmem) hnone
  · exact hmay

theorem Holds.ite_eq {keys : List String} {default : α}
    (h : Holds members key isValue (a = default))
    (hkeys : key ∈ keys ↔ key ∈ members.map Prod.fst) :
    (if key ∈ keys then a else default) = a := by
  split
  · rfl
  · next hnone => exact (h.of_notMem fun hmem => hnone (hkeys.2 hmem)).symm

variable {shape : RecordShape ρ} {after : List String → ρ}

theorem mem_keysIn (hkey : key ∈ shape.members.map Member.key) :
    key ∈ (shape.keysIn members).reverse ↔ key ∈ members.map Prod.fst := by
  obtain ⟨m, hm, rfl⟩ := List.mem_map.1 hkey
  rw [List.mem_reverse, RecordShape.keysIn, List.mem_filter]
  exact and_iff_left (List.any_eq_true.2 ⟨m, hm, by simp⟩)

theorem nodup_keysIn (honce : ∀ m ∈ shape.members, (valuesOf m.key members).length ≤ 1) :
    (shape.keysIn members).Nodup := by
  rw [List.nodup_iff_count_le_one]
  intro key
  by_cases hkey : key ∈ shape.keysIn members
  · obtain ⟨m, hm, hmkey⟩ := List.any_eq_true.1 (List.mem_filter.1 hkey).2
    obtain rfl : m.key = key := by simpa using hmkey
    have hcount : (members.map Prod.fst).count m.key = (valuesOf m.key members).length := by
      rw [valuesOf, List.length_map, List.count, List.countP_map, List.countP_eq_length_filter]
      rfl
    exact (List.Sublist.count_le _ List.filter_sublist).trans (hcount ▸ honce m hm)
  · rw [List.count_eq_zero_of_not_mem hkey]
    exact Nat.zero_le 1

theorem reads_record (after : List String → ρ) (h : WritesObject members t)
    (hknown : ∀ m ∈ shape.members, Holds members m.key
      (fun value => ∀ keys, Reads (m.fill (after keys)) value (after (m.key :: keys)))
      (m.isRequired = false))
    (hother : ∀ written ∈ members, (∀ m ∈ shape.members, m.key ≠ written.1) → IsValue written.2) :
    Reads (shape.read (after [])) t (after (shape.keysIn members).reverse) := by
  intro bound blanks rest hb _ hbound
  obtain ⟨items, body, hwrites, hitems, rfl⟩ := h
  have hbody : (body ++ rest).length ≤ bound := by
    simp only [List.length_append, List.length_cons] at hbound ⊢
    omega
  have hreads : ∀ written ∈ members, shape.ReadsMember after written := by
    intro written hwritten
    refine ⟨fun m hm hkey => ?_, hother written hwritten⟩
    exact (hknown m hm).of_mem (hkey ▸ hwritten)
  have hfresh := nodup_keysIn fun m hm => (hknown m hm).length_le
  have hrequired : ∀ m ∈ shape.members, m.isRequired = true →
      m.key ∈ (shape.keysIn members).reverse := by
    intro m hm hmust
    rw [mem_keysIn (List.mem_map_of_mem hm)]
    by_contra hnone
    rw [(hknown m hm).of_notMem hnone] at hmust
    cases hmust
  obtain ⟨last, s, hgoes, hlast⟩ := goes_memberStep hwrites hreads ⟨true, [], after []⟩
    hitems rfl (by simpa [List.nodup_reverse] using hfresh)
    (by simpa using hrequired) hbody
  rw [List.append_nil] at hlast
  rw [List.cons_append, RecordShape.read, bind_of_ok (look_of_blanks hb rfl)]
  exact (bind_of_ok (advance_cons _ _)).trans (iterate_of_goes hgoes hlast hbody)

end Members

end DoctypeInterfaces.Json
