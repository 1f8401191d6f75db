import DoctypeInterfaces.Json.Number
import DoctypeInterfaces.Json.Text

namespace DoctypeInterfaces.Json

inductive Bracket where
  | square
  | brace
  deriving DecidableEq, Repr

def Bracket.closing : Bracket → Char
  | .square => ']'
  | .brace => '}'

structure Reading where
  text : Scan Unit
  number : Scan Unit
  /-- How many brackets may be open at once, if that is limited. -/
  levels : Option Nat

/-- A value that is passed over: only the grammar counts. -/
def Reading.lenient : Reading :=
  ⟨skipText, skipNumber, none⟩

/-- A value that is read: texts hold characters only, numbers are in range, and the depth is
limited. -/
def Reading.strict (levels : Nat) : Reading :=
  ⟨discard Json.text, discard Json.number, some levels⟩

inductive Next where
  | value
  | after
  deriving DecidableEq, Repr

/-- What is being read: what stands next, and the open brackets, the innermost first. -/
abbrev Position := Next × List Bracket

/-- Reads a key and the colon after it. -/
def Reading.key (reading : Reading) : Scan Unit := do
  Scan.token '"'
  reading.text
  Scan.token ':'

def Reading.mayOpen (reading : Reading) (brackets : List Bracket) : Bool :=
  reading.levels.all fun n => brackets.length < n

/-- Reads an opening bracket and, inside of it, up to the first value. -/
def Reading.enter (reading : Reading) (bracket : Bracket) (brackets : List Bracket) :
    Scan Position := do
  if reading.mayOpen brackets then
    Scan.advance
    if (← Scan.look) = some bracket.closing then
      Scan.advance
      return (.after, brackets)
    if bracket = .brace then
      reading.key
    return (.value, bracket :: brackets)
  else
    throw .malformed

def Reading.beginValue (reading : Reading) (brackets : List Bracket) : Scan Position := do
  match ← Scan.look with
  | none => throw .truncated
  | some '[' => reading.enter .square brackets
  | some '{' => reading.enter .brace brackets
  | some 'n' => Scan.word ['n', 'u', 'l', 'l']; return (.after, brackets)
  | some 't' => Scan.word ['t', 'r', 'u', 'e']; return (.after, brackets)
  | some 'f' => Scan.word ['f', 'a', 'l', 's', 'e']; return (.after, brackets)
  | some '"' => Scan.advance; reading.text; return (.after, brackets)
  | some c =>
    if c == '-' || c.isDigit then
      reading.number
      return (.after, brackets)
    else
      throw .malformed

def Reading.afterValue (reading : Reading) (bracket : Bracket) (brackets : List Bracket) :
    Scan Position := do
  match ← Scan.look with
  | none => throw .truncated
  | some c =>
    if c = ',' then
      Scan.advance
      if bracket = .brace then
        reading.key
      return (.value, bracket :: brackets)
    else if c = bracket.closing then
      Scan.advance
      return (.after, brackets)
    else
      throw .malformed

/-- Reads one token and what belongs to it, until no bracket is open after a value. -/
def Reading.step (reading : Reading) : Position → Scan (Position ⊕ Unit)
  | (.value, brackets) => Sum.inl <$> reading.beginValue brackets
  | (.after, []) => pure (.inr ())
  | (.after, bracket :: brackets) => Sum.inl <$> reading.afterValue bracket brackets

def Reading.value (reading : Reading) : Scan Unit :=
  Scan.iterate reading.step (.value, [])

def skipValue : Scan Unit :=
  Reading.lenient.value

/-- Reads a value that may stand for a yes or a no: whether it is a yes. Null, false, zero, the
empty text and the text of a zero are a no; all else is a yes. -/
def flag (levels : Nat) : Scan Bool := do
  match ← Scan.look with
  | some 'n' => Scan.word ['n', 'u', 'l', 'l']; return false
  | some 't' => Scan.word ['t', 'r', 'u', 'e']; return true
  | some 'f' => Scan.word ['f', 'a', 'l', 's', 'e']; return false
  | some '"' =>
    Scan.advance
    let s ← text
    return s != "" && s != "0"
  | some c =>
    if c == '-' || c.isDigit then
      return (← number).isNonzero
    else
      (Reading.strict levels).value
      return true
  | none => throw .truncated

/-- Reads what stands in the place of a value of another kind, and fails. Of an array or an object
only the opening bracket is looked at. -/
def unexpected {α : Type} (expected : String) : Scan α := do
  let mismatch (found : Found) : Scan α := throw (.mismatch (.wrongType found expected))
  match ← Scan.look with
  | some 'n' => Scan.word ['n', 'u', 'l', 'l']; mismatch .null
  | some 't' => Scan.word ['t', 'r', 'u', 'e']; mismatch (.boolean true)
  | some 'f' => Scan.word ['f', 'a', 'l', 's', 'e']; mismatch (.boolean false)
  | some '"' => Scan.advance; mismatch (.text (← text))
  | some '[' => mismatch .sequence
  | some '{' => mismatch .map
  | some c =>
    if c == '-' || c.isDigit then
      mismatch (← number).found
    else
      throw .malformed
  | none => throw .truncated

def string : Scan String := do
  if (← Scan.look) = some '"' then
    Scan.advance
    text
  else
    unexpected "a string"

def string? : Scan (Option String) := do
  if (← Scan.look) = some 'n' then
    Scan.word ['n', 'u', 'l', 'l']
    return none
  else
    return some (← string)

end DoctypeInterfaces.Json
