import DoctypeInterfaces.Text.Utf8
import Mathlib.Tactic.SplitIfs

namespace DoctypeInterfaces.Text

theorem isSecond_iff {lead b : UInt8} :
    isSecond lead b = true ↔ (0x80 ≤ b.toNat ∧ b.toNat ≤ 0xBF) ∧
      (lead.toNat = 0xE0 → 0xA0 ≤ b.toNat) ∧ (lead.toNat = 0xED → b.toNat ≤ 0x9F) ∧
      (lead.toNat = 0xF0 → 0x90 ≤ b.toNat) ∧ (lead.toNat = 0xF4 → b.toNat ≤ 0x8F) := by
  have heq (n : UInt8) : lead = n ↔ lead.toNat = n.toNat := UInt8.toNat_inj.symm
  rw [isSecond, secondRange, Bool.and_eq_true, decide_eq_true_iff, decide_eq_true_iff,
    UInt8.le_iff_toNat_le, UInt8.le_iff_toNat_le]
  simp only [heq, UInt8.reduceToNat]
  split_ifs <;> simp only [UInt8.reduceToNat] <;> omega

theorem isContinuation_iff {b : UInt8} :
    isContinuation b = true ↔ 0x80 ≤ b.toNat ∧ b.toNat ≤ 0xBF := by
  rw [isContinuation, Bool.and_eq_true, decide_eq_true_iff, decide_eq_true_iff,
    UInt8.le_iff_toNat_le, UInt8.le_iff_toNat_le]
  rfl

theorem toNat_ofNat_byte {n : Nat} (h : n < 0x100) : (UInt8.ofNat n).toNat = n := by
  rw [UInt8.toNat_ofNat']
  omega

section Pieces

variable {lead b c d : UInt8} {rest : List UInt8}

theorem nextPiece_one (h : lead.toNat < 0x80) :
    nextPiece lead rest = (.char (Char.ofNat lead.toNat), rest) := by
  have hlead : lead < 0x80 := UInt8.lt_iff_toNat_lt.2 h
  rw [nextPiece.eq_def, if_pos hlead]

theorem not_short_lead (h : 0xC2 ≤ lead.toNat) (h' : lead.toNat ≤ 0xF4) :
    ¬ lead < 0x80 ∧ (decide (lead < 0xC2) || decide (0xF4 < lead)) = false := by
  simp only [UInt8.lt_iff_toNat_lt, UInt8.reduceToNat, Bool.or_eq_false_iff,
    decide_eq_false_iff_not]
  omega

theorem nextPiece_two (h : 0xC2 ≤ lead.toNat) (h' : lead.toNat < 0xE0)
    (hb : isSecond lead b = true) :
    nextPiece lead (b :: rest) = (.char (charOfBits (lead.toNat % 0x20) [b]), rest) := by
  obtain ⟨hlong, hvalid⟩ := not_short_lead h (by omega)
  have htwo : lead < 0xE0 := UInt8.lt_iff_toNat_lt.2 h'
  simp [nextPiece, hlong, hvalid, hb, htwo]

theorem nextPiece_three (h : 0xE0 ≤ lead.toNat) (h' : lead.toNat < 0xF0)
    (hb : isSecond lead b = true) (hc : isContinuation c = true) :
    nextPiece lead (b :: c :: rest) =
      (.char (charOfBits (lead.toNat % 0x10) [b, c]), rest) := by
  obtain ⟨hlong, hvalid⟩ := not_short_lead (show 0xC2 ≤ lead.toNat by omega) (by omega)
  have htwo : ¬ lead < 0xE0 := by
    simp only [UInt8.lt_iff_toNat_lt, UInt8.reduceToNat]
    omega
  have hthree : lead < 0xF0 := UInt8.lt_iff_toNat_lt.2 h'
  simp [nextPiece, hlong, hvalid, hb, hc, htwo, hthree]

theorem nextPiece_four (h : 0xF0 ≤ lead.toNat) (h' : lead.toNat ≤ 0xF4)
    (hb : isSecond lead b = true) (hc : isContinuation c = true) (hd : isContinuation d = true) :
    nextPiece lead (b :: c :: d :: rest) =
      (.char (charOfBits (lead.toNat % 0x08) [b, c, d]), rest) := by
  obtain ⟨hlong, hvalid⟩ := not_short_lead (show 0xC2 ≤ lead.toNat by omega) h'
  have htwo : ¬ lead < 0xE0 := by
    simp only [UInt8.lt_iff_toNat_lt, UInt8.reduceToNat]
    omega
  have hthree : ¬ lead < 0xF0 := by
    simp only [UInt8.lt_iff_toNat_lt, UInt8.reduceToNat]
    omega
  simp [nextPiece, hlong, hvalid, hb, hc, hd, htwo, hthree]

end Pieces

theorem toNat_lt_of_char (c : Char) :
    c.toNat < 0xD800 ∨ 0xDFFF < c.toNat ∧ c.toNat < 0x110000 :=
  c.valid

theorem nextPiece_encodeChar (c : Char) (rest : List UInt8) :
    ∃ lead tail, encodeChar c = lead :: tail ∧ nextPiece lead (tail ++ rest) = (.char c, rest) := by
  have hvalid := toNat_lt_of_char c
  have hself : Char.ofNat c.toNat = c := Char.ofNat_toNat c
  simp only [encodeChar]
  generalize c.toNat = n at hvalid hself ⊢
  have hlast : (UInt8.ofNat (0x80 + n % 0x40)).toNat = 0x80 + n % 0x40 :=
    toNat_ofNat_byte (by omega)
  have hmiddle : (UInt8.ofNat (0x80 + n / 0x40 % 0x40)).toNat = 0x80 + n / 0x40 % 0x40 :=
    toNat_ofNat_byte (by omega)
  have hthird : (UInt8.ofNat (0x80 + n / 0x1000 % 0x40)).toNat = 0x80 + n / 0x1000 % 0x40 :=
    toNat_ofNat_byte (by omega)
  have hcontinuation : isContinuation (UInt8.ofNat (0x80 + n % 0x40)) = true := by
    rw [isContinuation_iff, hlast]
    omega
  have hcontinuation' : isContinuation (UInt8.ofNat (0x80 + n / 0x40 % 0x40)) = true := by
    rw [isContinuation_iff, hmiddle]
    omega
  -- There is one case for each length; `hbits` puts the bits of the bytes together again.
  split
  · have hlead : (UInt8.ofNat n).toNat = n := toNat_ofNat_byte (by omega)
    refine ⟨_, [], rfl, ?_⟩
    rw [List.nil_append, nextPiece_one (by omega), hlead, hself]
  split
  · have hlead : (UInt8.ofNat (0xC0 + n / 0x40)).toNat = 0xC0 + n / 0x40 :=
      toNat_ofNat_byte (by omega)
    have hsecond : isSecond (UInt8.ofNat (0xC0 + n / 0x40)) (UInt8.ofNat (0x80 + n % 0x40)) =
        true := by
      rw [isSecond_iff, hlead, hlast]
      omega
    have hbits : ((0xC0 + n / 0x40) % 0x20) * 0x40 + (0x80 + n % 0x40) % 0x40 = n := by omega
    refine ⟨_, _, rfl, ?_⟩
    rw [List.cons_append, List.nil_append, nextPiece_two (by omega) (by omega) hsecond, charOfBits,
      List.foldl_cons, List.foldl_nil, hlead, hlast, hbits, hself]
  split
  · have hlead : (UInt8.ofNat (0xE0 + n / 0x1000)).toNat = 0xE0 + n / 0x1000 :=
      toNat_ofNat_byte (by omega)
    have hsecond : isSecond (UInt8.ofNat (0xE0 + n / 0x1000))
        (UInt8.ofNat (0x80 + n / 0x40 % 0x40)) = true := by
      rw [isSecond_iff, hlead, hmiddle]
      omega
    have hbits : (((0xE0 + n / 0x1000) % 0x10) * 0x40 + (0x80 + n / 0x40 % 0x40) % 0x40) * 0x40 +
        (0x80 + n % 0x40) % 0x40 = n := by omega
    refine ⟨_, _, rfl, ?_⟩
    rw [List.cons_append, List.cons_append, List.nil_append,
      nextPiece_three (by omega) (by omega) hsecond hcontinuation, charOfBits, List.foldl_cons,
      List.foldl_cons, List.foldl_nil, hlead, hmiddle, hlast, hbits, hself]
  · have hlead : (UInt8.ofNat (0xF0 + n / 0x40000)).toNat = 0xF0 + n / 0x40000 :=
      toNat_ofNat_byte (by omega)
    have hsecond : isSecond (UInt8.ofNat (0xF0 + n / 0x40000))
        (UInt8.ofNat (0x80 + n / 0x1000 % 0x40)) = true := by
      rw [isSecond_iff, hlead, hthird]
      omega
    have hbits : ((((0xF0 + n / 0x40000) % 0x08) * 0x40 + (0x80 + n / 0x1000 % 0x40) % 0x40) *
        0x40 + (0x80 + n / 0x40 % 0x40) % 0x40) * 0x40 + (0x80 + n % 0x40) % 0x40 = n := by omega
    refine ⟨_, _, rfl, ?_⟩
    rw [List.cons_append, List.cons_append, List.cons_append, List.nil_append,
      nextPiece_four (by omega) (by omega) hsecond hcontinuation' hcontinuation, charOfBits,
      List.foldl_cons, List.foldl_cons, List.foldl_cons, List.foldl_nil, hlead, hthird, hmiddle,
      hlast, hbits, hself]

theorem piecesAfter_encode (found : List Utf8Piece) (s : List Char) :
    piecesAfter found (s.flatMap encodeChar) = found.reverse ++ s.map Utf8Piece.char := by
  induction s generalizing found with
  | nil => rw [List.flatMap_nil, piecesAfter, List.map_nil, List.append_nil]
  | cons c s ih =>
    obtain ⟨lead, tail, hbytes, hpiece⟩ := nextPiece_encodeChar c (s.flatMap encodeChar)
    rw [List.flatMap_cons, hbytes, List.cons_append, piecesAfter, hpiece, ih, List.reverse_cons,
      List.map_cons, List.append_assoc, List.singleton_append]

theorem utf8Pieces_encodeUtf8 (s : String) :
    utf8Pieces (encodeUtf8 s) = s.toList.map Utf8Piece.char :=
  piecesAfter_encode [] s.toList

@[simp] theorem decodeUtf8Lossy_encodeUtf8 (s : String) : decodeUtf8Lossy (encodeUtf8 s) = s := by
  have hchar : (s.toList.map Utf8Piece.char).map Utf8Piece.toChar = s.toList := by
    rw [List.map_map]
    exact List.map_id _
  rw [decodeUtf8Lossy, utf8Pieces_encodeUtf8, hchar, String.ofList_toList]

theorem toNat_charOfNat {n : Nat} (h : n < 0xD800 ∨ 0xDFFF < n ∧ n < 0x110000) :
    (Char.ofNat n).toNat = n := by
  have hvalid : n.isValidChar := h
  rw [Char.ofNat, dif_pos hvalid]
  rfl

theorem encodeChar_of_nextPiece {lead : UInt8} {tail rest : List UInt8} {c : Char}
    (h : nextPiece lead tail = (.char c, rest)) :
    encodeChar c ++ rest = lead :: tail := by
  have hlead := lead.toNat_lt
  have hbyte {n : Nat} {b : UInt8} (hn : n = b.toNat) : UInt8.ofNat n = b := by
    rw [hn, UInt8.ofNat_toNat]
  -- There is one case for each length; `hn` says that the bits make a character.
  unfold nextPiece at h
  split at h
  · next hone =>
    obtain ⟨hc, rfl⟩ := Prod.mk.inj h
    have hone : lead.toNat < 0x80 := UInt8.lt_iff_toNat_lt.1 hone
    have hn := toNat_charOfNat (n := lead.toNat) (by omega)
    rw [← Utf8Piece.char.inj hc, encodeChar, hn, if_pos hone, hbyte rfl]
    rfl
  next hnotOne =>
  split at h
  · cases h
  next hrange =>
  simp only [UInt8.lt_iff_toNat_lt, UInt8.reduceToNat, Bool.or_eq_true, decide_eq_true_iff,
    not_or, Nat.not_lt] at hnotOne hrange
  split at h
  · cases h
  next b tail₁ =>
  split at h
  · cases h
  next hsecond =>
  have hsecond := isSecond_iff.1 (by simpa using hsecond)
  split at h
  · next htwo =>
    obtain ⟨hc, rfl⟩ := Prod.mk.inj h
    have htwo : lead.toNat < 0xE0 := UInt8.lt_iff_toNat_lt.1 htwo
    have hn := toNat_charOfNat (n := lead.toNat % 0x20 * 0x40 + b.toNat % 0x40) (by omega)
    rw [← Utf8Piece.char.inj hc, charOfBits, List.foldl_cons, List.foldl_nil, encodeChar, hn,
      if_neg (by omega), if_pos (by omega), hbyte (b := lead) (by omega),
      hbyte (b := b) (by omega)]
    rfl
  next hnotTwo =>
  have hnotTwo : 0xE0 ≤ lead.toNat := by
    simpa [UInt8.lt_iff_toNat_lt] using hnotTwo
  split at h
  · cases h
  next d tail₂ =>
  split at h
  · cases h
  next hthird =>
  have hthird := isContinuation_iff.1 (by simpa using hthird)
  split at h
  · next hthree =>
    obtain ⟨hc, rfl⟩ := Prod.mk.inj h
    have hthree : lead.toNat < 0xF0 := UInt8.lt_iff_toNat_lt.1 hthree
    have hn := toNat_charOfNat
      (n := (lead.toNat % 0x10 * 0x40 + b.toNat % 0x40) * 0x40 + d.toNat % 0x40) (by omega)
    rw [← Utf8Piece.char.inj hc, charOfBits, List.foldl_cons, List.foldl_cons, List.foldl_nil,
      encodeChar, hn, if_neg (by omega), if_neg (by omega), if_pos (by omega),
      hbyte (b := lead) (by omega), hbyte (b := b) (by omega), hbyte (b := d) (by omega)]
    rfl
  next hnotThree =>
  have hnotThree : 0xF0 ≤ lead.toNat := by
    simpa [UInt8.lt_iff_toNat_lt] using hnotThree
  split at h
  · cases h
  next e tail₃ =>
  split at h
  · cases h
  next hfourth =>
  have hfourth := isContinuation_iff.1 (by simpa using hfourth)
  obtain ⟨hc, rfl⟩ := Prod.mk.inj h
  have hn := toNat_charOfNat (n := ((lead.toNat % 0x08 * 0x40 + b.toNat % 0x40) * 0x40 +
    d.toNat % 0x40) * 0x40 + e.toNat % 0x40) (by omega)
  rw [← Utf8Piece.char.inj hc, charOfBits, List.foldl_cons, List.foldl_cons, List.foldl_cons,
    List.foldl_nil, encodeChar, hn, if_neg (by omega), if_neg (by omega), if_neg (by omega),
    hbyte (b := lead) (by omega), hbyte (b := b) (by omega), hbyte (b := d) (by omega),
    hbyte (b := e) (by omega)]
  rfl

theorem textOfPieces_chars (index : Nat) (found s : List Char) :
    textOfPieces index found (s.map Utf8Piece.char) = .ok (String.ofList (found.reverse ++ s)) := by
  induction s generalizing index found with
  | nil => rw [List.map_nil, textOfPieces, List.append_nil]
  | cons c s ih => rw [List.map_cons, textOfPieces, ih, List.reverse_cons, List.append_assoc,
      List.singleton_append]

theorem decodeUtf8_encodeUtf8 (s : String) : decodeUtf8 (encodeUtf8 s) = .ok s := by
  rw [decodeUtf8, utf8Pieces_encodeUtf8, textOfPieces_chars, List.reverse_nil, List.nil_append,
    String.ofList_toList]

theorem eq_chars_of_textOfPieces {index : Nat} {found : List Char} {pieces : List Utf8Piece}
    {s : String} (h : textOfPieces index found pieces = .ok s) :
    ∃ more, pieces = more.map Utf8Piece.char ∧ s.toList = found.reverse ++ more := by
  induction pieces generalizing index found with
  | nil =>
    obtain rfl := Except.ok.inj h
    exact ⟨[], rfl, by rw [String.toList_ofList, List.append_nil]⟩
  | cons piece rest ih =>
    cases piece with
    | char c =>
      obtain ⟨more, rfl, hs⟩ := ih h
      exact ⟨c :: more, rfl, by simpa using hs⟩
    | invalid => cases h
    | unfinished => cases h

theorem exists_pieces (found : List Utf8Piece) (bytes : List UInt8) :
    ∃ pieces, piecesAfter found bytes = found.reverse ++ pieces ∧
      ∀ s : List Char, pieces = s.map Utf8Piece.char → s.flatMap encodeChar = bytes := by
  induction found, bytes using piecesAfter.induct with
  | case1 found =>
    refine ⟨[], by rw [piecesAfter, List.append_nil], fun s hs => ?_⟩
    rw [List.map_eq_nil_iff.1 hs.symm, List.flatMap_nil]
  | case2 found lead tail hrest ih =>
    obtain ⟨pieces, hpieces, hchars⟩ := ih
    refine ⟨(nextPiece lead tail).1 :: pieces, ?_, fun s hs => ?_⟩
    · rw [piecesAfter, hpieces, List.reverse_cons, List.append_assoc, List.singleton_append]
    · obtain ⟨c, more, rfl, hc, hmore⟩ := List.map_eq_cons_iff.1 hs.symm
      rw [List.flatMap_cons, hchars more hmore.symm, encodeChar_of_nextPiece (Prod.ext hc.symm rfl)]

theorem encodeUtf8_of_decodeUtf8 {bytes : List UInt8} {s : String} (h : decodeUtf8 bytes = .ok s) :
    encodeUtf8 s = bytes := by
  obtain ⟨pieces, hpieces, hchars⟩ := exists_pieces [] bytes
  obtain ⟨more, hmore, hs⟩ := eq_chars_of_textOfPieces h
  rw [utf8Pieces, hpieces] at hmore
  rw [encodeUtf8, hs]
  exact hchars more hmore

theorem decodeUtf8_eq_ok_iff {bytes : List UInt8} {s : String} :
    decodeUtf8 bytes = .ok s ↔ bytes = encodeUtf8 s := by
  constructor
  · exact fun h => (encodeUtf8_of_decodeUtf8 h).symm
  · rintro rfl
    exact decodeUtf8_encodeUtf8 s

@[simp] theorem encodeUtf8_inj {s t : String} : encodeUtf8 s = encodeUtf8 t ↔ s = t := by
  constructor
  · intro h
    rw [← decodeUtf8Lossy_encodeUtf8 s, h, decodeUtf8Lossy_encodeUtf8]
  · exact congrArg encodeUtf8

@[simp] theorem encodeUtf8_append (s t : String) :
    encodeUtf8 (s ++ t) = encodeUtf8 s ++ encodeUtf8 t := by
  rw [encodeUtf8, String.toList_append, List.flatMap_append]
  rfl

end DoctypeInterfaces.Text
