namespace DoctypeInterfaces.Text

abbrev CharRange := Nat × Nat

def inRanges (ranges : List CharRange) (c : Char) : Bool :=
  ranges.any fun r => r.1 ≤ c.toNat && c.toNat ≤ r.2

theorem inRanges_eq_true_iff {ranges : List CharRange} {c : Char} :
    inRanges ranges c = true ↔ ∃ r ∈ ranges, r.1 ≤ c.toNat ∧ c.toNat ≤ r.2 := by
  simp [inRanges]

def blankRanges : List CharRange :=
  [(0x9, 0xD), (0x20, 0x20), (0x85, 0x85), (0xA0, 0xA0), (0x1680, 0x1680), (0x2000, 0x200A),
   (0x2028, 0x2029), (0x202F, 0x202F), (0x205F, 0x205F), (0x3000, 0x3000)]

def isBlank (c : Char) : Bool :=
  inRanges blankRanges c

/-- The text without its blank characters. -/
def stripBlanks (s : String) : String :=
  String.ofList (s.toList.filter fun c => !isBlank c)

@[simp] theorem toList_stripBlanks (s : String) :
    (stripBlanks s).toList = s.toList.filter fun c => !isBlank c := by
  simp [stripBlanks]

end DoctypeInterfaces.Text
