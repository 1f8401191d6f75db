import DoctypeInterfaces.Json.Value
import Mathlib.Data.List.Forall2

namespace DoctypeInterfaces.Json

/-- Whether a text may stand between tokens. -/
def IsBlanks (t : List Char) : Prop :=
  ∀ c ∈ t, c ∈ [' ', '\t', '\n', '\r']

instance (t : List Char) : Decidable (IsBlanks t) :=
  List.decidableBAll (· ∈ [' ', '\t', '\n', '\r']) t

theorem isBlanks_nil : IsBlanks [] :=
  nofun

def escapeLetters : List (Char × Char) :=
  [('"', '"'), ('\\', '\\'), ('/', '/'), ('b', '\x08'), ('f', '\x0c'), ('n', '\n'), ('r', '\r'),
    ('t', '\t')]

def IsHexDigit (n : Nat) (c : Char) : Prop :=
  "0123456789abcdef".toList[n]? = some c ∨ "0123456789ABCDEF".toList[n]? = some c

def IsUnitEscape (n : Nat) (t : List Char) : Prop :=
  ∃ a b c d, t = ['\\', 'u', a, b, c, d] ∧ IsHexDigit (n / 0x1000) a ∧
    IsHexDigit (n / 0x100 % 0x10) b ∧ IsHexDigit (n / 0x10 % 0x10) c ∧ IsHexDigit (n % 0x10) d

inductive WritesChar (c : Char) : List Char → Prop where
  | plain : 0x20 ≤ c.toNat → c ≠ '"' → c ≠ '\\' → WritesChar c [c]
  | letter {l : Char} : (l, c) ∈ escapeLetters → WritesChar c ['\\', l]
  | unit {t : List Char} : IsUnitEscape c.toNat t → WritesChar c t
  /-- The two surrogates of a character that takes more than 16 bits. -/
  | pair {t t' : List Char} : 0x10000 ≤ c.toNat →
    IsUnitEscape (0xD800 + (c.toNat - 0x10000) / 0x400) t →
    IsUnitEscape (0xDC00 + (c.toNat - 0x10000) % 0x400) t' → WritesChar c (t ++ t')

inductive IsStringPart : List Char → Prop where
  | plain {c : Char} : 0x20 ≤ c.toNat → c ≠ '"' → c ≠ '\\' → IsStringPart [c]
  | letter {l c : Char} : (l, c) ∈ escapeLetters → IsStringPart ['\\', l]
  | unit {n : Nat} {t : List Char} : IsUnitEscape n t → IsStringPart t

def inQuotes (parts : List (List Char)) : List Char :=
  '"' :: (parts.flatten ++ ['"'])

def WritesString (s : String) (t : List Char) : Prop :=
  ∃ parts, List.Forall₂ WritesChar s.toList parts ∧ t = inQuotes parts

theorem writesString_plain {s : String}
    (h : ∀ c ∈ s.toList, 0x20 ≤ c.toNat ∧ c ≠ '"' ∧ c ≠ '\\') :
    WritesString s ('"' :: (s.toList ++ ['"'])) := by
  refine ⟨s.toList.map fun c => [c], ?_, ?_⟩
  · rw [List.forall₂_map_right_iff, List.forall₂_same]
    exact fun c hc => .plain (h c hc).1 (h c hc).2.1 (h c hc).2.2
  · rw [inQuotes, ← List.flatMap_def, List.flatMap_singleton']

def IsString (t : List Char) : Prop :=
  ∃ parts, (∀ part ∈ parts, IsStringPart part) ∧ t = inQuotes parts

def IsDigits (t : List Char) : Prop :=
  t ≠ [] ∧ ∀ c ∈ t, c.isDigit = true

/-- Whether a text is the part of a number before the point, which has no zero in front of other
digits. -/
def IsWhole (t : List Char) : Prop :=
  IsDigits t ∧ (t.head? = some '0' → t = ['0'])

def IsFraction (t : List Char) : Prop :=
  ∃ digits, IsDigits digits ∧ t = '.' :: digits

def IsExponent (t : List Char) : Prop :=
  ∃ e sign digits, e ∈ ['e', 'E'] ∧ sign ∈ [[], ['+'], ['-']] ∧ IsDigits digits ∧
    t = e :: (sign ++ digits)

def IsNumber (t : List Char) : Prop :=
  ∃ sign whole fraction exponent, sign ∈ [[], ['-']] ∧ IsWhole whole ∧
    (fraction = [] ∨ IsFraction fraction) ∧ (exponent = [] ∨ IsExponent exponent) ∧
    t = sign ++ (whole ++ (fraction ++ exponent))

/-- The texts of items with commas between them, up to the closing bracket; the first item has no
comma in front. -/
inductive Items (closing : Char) : Bool → List (List Char) → List Char → Prop where
  | closed {isFirst : Bool} (blanks : List Char) :
    IsBlanks blanks → Items closing isFirst [] (blanks ++ [closing])
  | first (blanks item : List Char) {t : List Char} {items : List (List Char)} :
    IsBlanks blanks → Items closing false items t →
      Items closing true (item :: items) (blanks ++ (item ++ t))
  | next (blanks blanks' item : List Char) {t : List Char} {items : List (List Char)} :
    IsBlanks blanks → IsBlanks blanks' → Items closing false items t →
      Items closing false (item :: items) (blanks ++ ',' :: (blanks' ++ (item ++ t)))

/-- Whether a text is a key of a kind with the colon after it. -/
def IsLabel (isKey : List Char → Prop) (t : List Char) : Prop :=
  ∃ key blanks blanks', isKey key ∧ IsBlanks blanks ∧ IsBlanks blanks' ∧
    t = key ++ (blanks ++ ':' :: blanks')

theorem isLabel_plain {key : String} (h : ∀ c ∈ key.toList, 0x20 ≤ c.toNat ∧ c ≠ '"' ∧ c ≠ '\\') :
    IsLabel (WritesString key) ('"' :: (key.toList ++ ['"', ':'])) :=
  ⟨_, [], [], writesString_plain h, isBlanks_nil, isBlanks_nil, by simp⟩

/-- The texts of any value. Arrays and objects may nest to any depth. -/
inductive IsValue : List Char → Prop where
  | null : IsValue "null".toList
  | yes : IsValue "true".toList
  | no : IsValue "false".toList
  | number {t : List Char} : IsNumber t → IsValue t
  | string {t : List Char} : IsString t → IsValue t
  | array (items : List (List Char)) {t : List Char} :
    (∀ item ∈ items, IsValue item) → Items ']' true items t → IsValue ('[' :: t)
  | object (members : List (List Char × List Char)) {t : List Char} :
    (∀ m ∈ members, IsLabel IsString m.1) → (∀ m ∈ members, IsValue m.2) →
      Items '}' true (members.map fun m => m.1 ++ m.2) t → IsValue ('{' :: t)

def WritesString? : Option String → List Char → Prop
  | none, t => t = "null".toList
  | some s, t => WritesString s t

/-- The texts of a yes or a no; of a no, null is one. -/
def WritesFlag (b : Bool) (t : List Char) : Prop :=
  t ∈ if b then ["true".toList, ['1']] else ["false".toList, ['0'], "null".toList]

def WritesArray {α : Type} (writes : α → List Char → Prop) (as : List α) (t : List Char) : Prop :=
  ∃ items body, List.Forall₂ writes as items ∧ Items ']' true items body ∧ t = '[' :: body

def WritesObject (members : List (String × List Char)) (t : List Char) : Prop :=
  ∃ items body,
    List.Forall₂ (fun m item => ∃ label, IsLabel (WritesString m.1) label ∧ item = label ++ m.2)
      members items ∧
    Items '}' true items body ∧ t = '{' :: body

def valuesOf (key : String) (members : List (String × List Char)) : List (List Char) :=
  (members.filter fun m => m.1 == key).map Prod.snd

/-- Whether an object holds one value of a kind under a key, or none, if it may be left out. -/
def Holds (members : List (String × List Char)) (key : String) (isValue : List Char → Prop)
    (mayOmit : Prop) : Prop :=
  (∃ value, valuesOf key members = [value] ∧ isValue value) ∨
    (valuesOf key members = [] ∧ mayOmit)

end DoctypeInterfaces.Json
