import DoctypeInterfaces.Proofs.Json.Grammar
import DoctypeInterfaces.Proofs.Text.Scan
import Mathlib.Tactic.IntervalCases

namespace DoctypeInterfaces.Json

open Text.Scan

variable {bound n : Nat} {blanks rest part : List Char} {c : Char}

theorem IsBlanks.isBlank (h : IsBlanks blanks) : ∀ c ∈ blanks, isBlank c = true := by
  intro c hc
  have hmem := h c hc
  simp only [List.mem_cons, List.not_mem_nil, or_false] at hmem
  rcases hmem with rfl | rfl | rfl | rfl <;> rfl

theorem skipBlanks_append (h : IsBlanks blanks) (s : List Char) :
    skipBlanks (blanks ++ s) = skipBlanks s :=
  List.dropWhile_append_of_pos h.isBlank

theorem look_of_blanks (h : IsBlanks blanks) (hc : isBlank c = false) :
    Scan.look bound (blanks ++ c :: rest) = .ok (some c, c :: rest) := by
  have hskip : skipBlanks (blanks ++ c :: rest) = c :: rest := by
    rw [skipBlanks_append h, skipBlanks, List.dropWhile_cons_of_neg (by simp [hc])]
  rw [Scan.look, hskip]
  rfl

theorem advance_cons (c : Char) (s : List Char) : Scan.advance bound (c :: s) = .ok ((), s) :=
  rfl

theorem token_of_blanks (h : IsBlanks blanks) (hc : isBlank c = false) :
    Scan.token c bound (blanks ++ c :: rest) = .ok ((), rest) := by
  rw [Scan.token, bind_of_ok (look_of_blanks h hc)]
  simp only [if_true]
  rfl

theorem word_append (w rest : List Char) : Scan.word w bound (w ++ rest) = .ok ((), rest) := by
  induction w with
  | nil => rfl
  | cons c w ih => simpa [Scan.word] using ih

theorem IsHexDigit.lt (h : IsHexDigit n c) : n < 16 := by
  rcases h with h | h <;> exact (List.getElem?_eq_some_iff.1 h).1

theorem hexDigit?_of_isHexDigit (h : IsHexDigit n c) : hexDigit? c = some n := by
  have hlower : ∀ n < 16, "0123456789abcdef".toList[n]?.bind hexDigit? = some n := by decide
  have hupper : ∀ n < 16, "0123456789ABCDEF".toList[n]?.bind hexDigit? = some n := by decide
  rcases h with hc | hc
  · have hvalue := hlower n (IsHexDigit.lt (.inl hc))
    rwa [hc, Option.bind_some] at hvalue
  · have hvalue := hupper n (IsHexDigit.lt (.inr hc))
    rwa [hc, Option.bind_some] at hvalue

theorem fourHex_of_isUnitEscape {t : List Char} (h : IsUnitEscape n t) :
    ∃ digits, t = '\\' :: 'u' :: digits ∧
      ∀ bound rest, fourHex bound (digits ++ rest) = .ok (n, rest) := by
  obtain ⟨a, b, c, d, rfl, ha, hb, hc, hd⟩ := h
  refine ⟨[a, b, c, d], rfl, fun bound rest => ?_⟩
  have hnumber : hexNumber? a b c d = some n := by
    simp only [hexNumber?, hexDigit?_of_isHexDigit ha, hexDigit?_of_isHexDigit hb,
      hexDigit?_of_isHexDigit hc, hexDigit?_of_isHexDigit hd]
    exact congrArg some (by omega)
  have hbytes : hasFourBytes (a :: b :: c :: d :: rest) = true := by
    have hpos := And.intro a.utf8Size_pos (And.intro b.utf8Size_pos
      (And.intro c.utf8Size_pos d.utf8Size_pos))
    simp [hasFourBytes]
    omega
  simp [fourHex, hbytes, hnumber]

def ReadsPart (unicode : Scan Char) (c : Char) (part : List Char) : Prop :=
  ∀ bound found rest,
    textStep unicode found bound (part ++ rest) = .ok (.inl (c :: found), rest)

variable {unicode : Scan Char}

theorem readsPart_plain (hc : 0x20 ≤ c.toNat) (hquote : c ≠ '"') (hslash : c ≠ '\\') :
    ReadsPart unicode c [c] := by
  intro bound found rest
  rw [List.singleton_append]
  unfold textStep
  split
  · next heq => cases heq
  · next heq => exact absurd (List.cons.inj heq).1 hquote
  · next heq => exact absurd (List.cons.inj heq).1 hslash
  · next heq =>
    obtain ⟨rfl, rfl⟩ := List.cons.inj heq
    rw [if_neg (Nat.not_lt.2 hc)]

theorem readsPart_letter {l : Char} (h : (l, c) ∈ escapeLetters) :
    ReadsPart unicode c ['\\', l] := by
  intro bound found rest
  simp only [escapeLetters, List.mem_cons, Prod.mk.injEq, List.not_mem_nil, or_false] at h
  rcases h with ⟨rfl, rfl⟩ | ⟨rfl, rfl⟩ | ⟨rfl, rfl⟩ | ⟨rfl, rfl⟩ | ⟨rfl, rfl⟩ | ⟨rfl, rfl⟩ |
    ⟨rfl, rfl⟩ | ⟨rfl, rfl⟩ <;> rfl

theorem readsPart_unicode {code : List Char}
    (h : ∀ bound rest, unicode bound (code ++ rest) = .ok (c, rest)) :
    ReadsPart unicode c ('\\' :: 'u' :: code) := by
  intro bound found rest
  have hescape : escapeWith unicode bound ('u' :: (code ++ rest)) = .ok (c, rest) := h bound rest
  simp only [List.cons_append, textStep, hescape]

theorem toNat_valid (c : Char) : c.toNat < 0xD800 ∨ 0xDFFF < c.toNat ∧ c.toNat < 0x110000 :=
  c.valid

theorem isLowSurrogate_eq_false (h : n < 0xDC00 ∨ 0xDFFF < n) : isLowSurrogate n = false := by
  simp only [isLowSurrogate, Bool.and_eq_false_iff, decide_eq_false_iff_not]
  omega

theorem isHighSurrogate_eq_false (h : n < 0xD800 ∨ 0xDBFF < n) : isHighSurrogate n = false := by
  simp only [isHighSurrogate, Bool.and_eq_false_iff, decide_eq_false_iff_not]
  omega

theorem unicodeEscape_of_one {digits : List Char}
    (h : ∀ rest, fourHex bound (digits ++ rest) = .ok (c.toNat, rest)) :
    unicodeEscape bound (digits ++ rest) = .ok (c, rest) := by
  have hvalid := toNat_valid c
  rw [unicodeEscape, bind_of_ok (h rest), isLowSurrogate_eq_false (by omega),
    isHighSurrogate_eq_false (by omega)]
  simp only [Bool.false_eq_true, if_false, Char.ofNat_toNat]
  rfl

theorem unicodeEscape_of_two {digits digits' : List Char} (hc : 0x10000 ≤ c.toNat)
    (h : ∀ rest, fourHex bound (digits ++ rest) =
      .ok (0xD800 + (c.toNat - 0x10000) / 0x400, rest))
    (h' : ∀ rest, fourHex bound (digits' ++ rest) =
      .ok (0xDC00 + (c.toNat - 0x10000) % 0x400, rest)) :
    unicodeEscape bound (digits ++ '\\' :: 'u' :: (digits' ++ rest)) = .ok (c, rest) := by
  have hvalid := toNat_valid c
  have hhigh : isHighSurrogate (0xD800 + (c.toNat - 0x10000) / 0x400) = true := by
    simp only [isHighSurrogate, Bool.and_eq_true, decide_eq_true_eq]
    omega
  have hlow : isLowSurrogate (0xDC00 + (c.toNat - 0x10000) % 0x400) = true := by
    simp only [isLowSurrogate, Bool.and_eq_true, decide_eq_true_eq]
    omega
  have hpair : pairChar (0xD800 + (c.toNat - 0x10000) / 0x400)
      (0xDC00 + (c.toNat - 0x10000) % 0x400) = c := by
    rw [pairChar]
    have hsum : 0x10000 + (0xD800 + (c.toNat - 0x10000) / 0x400 - 0xD800) * 0x400 +
        (0xDC00 + (c.toNat - 0x10000) % 0x400 - 0xDC00) = c.toNat := by omega
    rw [hsum, Char.ofNat_toNat]
  rw [unicodeEscape, bind_of_ok (h _), isLowSurrogate_eq_false (by omega), hhigh]
  simp only [Bool.false_eq_true, if_false, if_true]
  have hword : Scan.word ['\\', 'u'] bound ('\\' :: 'u' :: (digits' ++ rest)) =
      .ok ((), digits' ++ rest) := word_append _ _
  rw [bind_of_ok hword, bind_of_ok (h' _), hlow]
  simp only [if_true, hpair]
  rfl

theorem WritesChar.readsPart (h : WritesChar c part) : ReadsPart unicodeEscape c part := by
  cases h with
  | plain hc hquote hslash => exact readsPart_plain hc hquote hslash
  | letter hl => exact readsPart_letter hl
  | unit hunit =>
    obtain ⟨digits, rfl, hdigits⟩ := fourHex_of_isUnitEscape hunit
    exact readsPart_unicode fun bound rest => unicodeEscape_of_one (hdigits bound)
  | pair hc hhigh hlow =>
    obtain ⟨digits, rfl, hdigits⟩ := fourHex_of_isUnitEscape hhigh
    obtain ⟨digits', rfl, hdigits'⟩ := fourHex_of_isUnitEscape hlow
    refine readsPart_unicode fun bound rest => ?_
    have htwo : unicodeEscape bound (digits ++ '\\' :: 'u' :: (digits' ++ rest)) = .ok (c, rest) :=
      unicodeEscape_of_two hc (hdigits bound) (hdigits' bound)
    simpa using htwo

theorem IsStringPart.readsPart (h : IsStringPart part) :
    ∃ c, ReadsPart (fourHex >>= fun _ => pure ' ') c part := by
  cases h with
  | plain hc hquote hslash => exact ⟨_, readsPart_plain hc hquote hslash⟩
  | letter hl => exact ⟨_, readsPart_letter hl⟩
  | unit hunit =>
    obtain ⟨digits, rfl, hdigits⟩ := fourHex_of_isUnitEscape hunit
    exact ⟨' ', readsPart_unicode fun bound rest => bind_of_ok (hdigits bound rest)⟩

theorem ReadsPart.ne_nil (h : ReadsPart unicode c part) : part ≠ [] := by
  rintro rfl
  have hread := h 0 [] []
  cases hread

/-- Parts that are read one by one are read up to the closing quote. -/
theorem iterate_textStep {parts : List (List Char)} {cs : List Char}
    (h : List.Forall₂ (ReadsPart unicode) cs parts)
    (hbound : (parts.flatten ++ '"' :: rest).length ≤ bound) :
    Scan.iterate (textStep unicode) [] bound (parts.flatten ++ '"' :: rest) = .ok (cs, rest) := by
  have hgoes : ∀ found, Relation.ReflTransGen (Goes (textStep unicode) bound)
      (found, parts.flatten ++ '"' :: rest) (cs.reverse ++ found, '"' :: rest) := by
    clear hbound
    induction h with
    | nil => exact fun found => .refl
    | @cons c part cs parts hpart _ ih =>
      intro found
      rw [List.flatten_cons, List.append_assoc]
      have hnonempty := List.length_pos_iff.2 hpart.ne_nil
      refine .head (b := (c :: found, parts.flatten ++ '"' :: rest)) ⟨hpart bound found _, ?_⟩ ?_
      · simp only [List.length_append]
        omega
      · simpa using ih (c :: found)
  have hlast : textStep unicode (cs.reverse ++ []) bound ('"' :: rest) = .ok (.inr cs, rest) := by
    simp [textStep]
  exact iterate_of_goes (hgoes []) hlast hbound

theorem text_of_writesString {s : String} {t : List Char} (h : WritesString s t) :
    ∃ body, t = '"' :: body ∧ ∀ bound rest, (body ++ rest).length ≤ bound →
      text bound (body ++ rest) = .ok (s, rest) := by
  obtain ⟨parts, hparts, rfl⟩ := h
  refine ⟨parts.flatten ++ ['"'], rfl, fun bound rest hbound => ?_⟩
  rw [List.append_assoc, List.singleton_append] at hbound ⊢
  have hreads := hparts.imp fun c part hpart => hpart.readsPart
  rw [text, bind_of_ok (iterate_textStep hreads hbound), String.ofList_toList]
  rfl

theorem skipText_of_isString {t : List Char} (h : IsString t) :
    ∃ body, t = '"' :: body ∧ ∀ bound rest, (body ++ rest).length ≤ bound →
      skipText bound (body ++ rest) = .ok ((), rest) := by
  obtain ⟨parts, hparts, rfl⟩ := h
  refine ⟨parts.flatten ++ ['"'], rfl, fun bound rest hbound => ?_⟩
  rw [List.append_assoc, List.singleton_append] at hbound ⊢
  obtain ⟨cs, hreads⟩ :
      ∃ cs, List.Forall₂ (ReadsPart (fourHex >>= fun _ => pure ' ')) cs parts := by
    clear hbound
    induction parts with
    | nil => exact ⟨[], .nil⟩
    | cons part parts ih =>
      obtain ⟨hpart, hrest⟩ := List.forall_mem_cons.1 hparts
      obtain ⟨c, hc⟩ := hpart.readsPart
      obtain ⟨cs, hcs⟩ := ih hrest
      exact ⟨c :: cs, .cons hc hcs⟩
  exact bind_of_ok (iterate_textStep hreads hbound)

end DoctypeInterfaces.Json
