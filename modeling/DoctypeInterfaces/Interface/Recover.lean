import DoctypeInterfaces.Interface.Set
import DoctypeInterfaces.Text.WordChar

namespace DoctypeInterfaces

namespace Text

def dropStart? (start s : List Char) : Option (List Char) :=
  if start.isPrefixOf s then some (s.drop start.length) else none

def dropBlanks? (s : List Char) : Option (List Char) :=
  match s with
  | c :: rest => if isBlank c then some (rest.dropWhile isBlank) else none
  | [] => none

def word? (s : List Char) : Option (List Char × List Char) :=
  match s with
  | c :: _ => if isWordChar c then some (s.takeWhile isWordChar, s.dropWhile isWordChar) else none
  | [] => none

end Text

def markerTime? (line : List Char) : Option (List Char) := do
  let time ← Text.dropStart? markerStart.toList line
  if time = [] || time.contains '\n' then none else return time

def declaredName? (line : List Char) : Option (List Char) := do
  let s ← Text.dropStart? "export interface".toList line
  let s ← Text.dropBlanks? s
  let (name, s) ← Text.word? s
  let s ← Text.dropBlanks? s
  let s ← Text.dropStart? "extends".toList s
  let s ← Text.dropBlanks? s
  let (_, s) ← Text.word? s
  let s ← Text.dropBlanks? s
  if s = ['\x7b'] then return name else none

/-- Whether a line closes a block: it holds a closing brace and nothing else before its end. -/
def isClosingLine : List Char → Bool
  | ['\x7d'] => true
  | ['\x7d', '\n'] => true
  | ['\x7d', '\r', '\n'] => true
  | _ => false

/-- The time and the name in the two lines that open a block. -/
def blockHeader? (marker declaration : List Char) : Option (List Char × List Char) := do
  let time ← markerTime? (Text.chomp marker)
  let name ← declaredName? (Text.chomp declaration)
  return (time, name)

/-- The lines up to and with the first closing line, and the lines after it. -/
def splitAtClosing? (lines : List (List Char)) : Option (List (List Char) × List (List Char)) :=
  match lines.dropWhile fun line => !isClosingLine line with
  | [] => none
  | closing :: rest => some ((lines.takeWhile fun line => !isClosingLine line) ++ [closing], rest)

theorem length_of_splitAtClosing? {lines body rest : List (List Char)}
    (h : splitAtClosing? lines = some (body, rest)) : rest.length < lines.length := by
  unfold splitAtClosing? at h
  split at h
  · simp at h
  · next closing r hd =>
    have hlen : (lines.dropWhile fun line => !isClosingLine line).length ≤ lines.length :=
      (List.dropWhile_sublist _).length_le
    rw [hd] at hlen
    simp only [Option.some.injEq, Prod.mk.injEq] at h
    rw [← h.2]
    exact Nat.lt_of_lt_of_le (Nat.lt_succ_self _) hlen

def interfaceOfLines (time name : List Char) (lines : List (List Char)) : Interface :=
  ⟨String.ofList name, String.ofList time, String.ofList (Text.endLine lines.flatten)⟩

def recoverLines (set : InterfaceSet) : List (List Char) → InterfaceSet
  | marker :: declaration :: lines =>
    match blockHeader? marker declaration with
    | none => recoverLines set (declaration :: lines)
    | some (time, name) =>
      match h : splitAtClosing? lines with
      | none => recoverLines set (declaration :: lines)
      | some (body, rest) =>
        have := length_of_splitAtClosing? h
        recoverLines (set.insert (interfaceOfLines time name (marker :: declaration :: body))) rest
  | _ => set
termination_by lines => lines.length
decreasing_by all_goals simp only [List.length_cons]; omega

/-- The interfaces of an earlier output. -/
def InterfaceSet.ofOutput (output : String) : InterfaceSet :=
  recoverLines .empty (Text.lines output.toList)

end DoctypeInterfaces
