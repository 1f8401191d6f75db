import DoctypeInterfaces.Toml.Table
import DoctypeInterfaces.Toml.Text

namespace DoctypeInterfaces.Toml

def isKeyChar (c : Char) : Bool :=
  c.isAlphanum || c == '_' || c == '-'

def simpleKey : Scan String := do
  match ← Text.Scan.peek with
  | some '"' => lineString '"'
  | some '\'' => lineString '\''
  | _ =>
    let key ← Text.Scan.takeWhile isKeyChar
    if key.isEmpty then refuse else return String.ofList key

def maxParts : Nat := 80

/-- Reads a key of one part or more, with dots between them. -/
def key : Scan (List String) := do
  let step (found : List String) : Scan (List String ⊕ List String) := do
    blanks
    let found := (← simpleKey) :: found
    blanks
    if (← Text.Scan.peek) = some '.' then
      Text.Scan.advance
      return .inl found
    else
      return .inr found.reverse
  let found ← iterate step []
  if maxParts < found.length then refuse else return found

/-- Reads a number, a date, a time or a truth value. -/
def scalar : Scan Value := fun _ s =>
  match splitScalar s with
  | (run, rest) =>
    match scalar? run with
    | some v => .ok (v, rest)
    | none => .error ()

def elements (element : Scan Value) : Scan (List Value) :=
  let step (found : List Value) : Scan (List Value ⊕ List Value) := do
    space
    if (← Text.Scan.peek) = some ']' then
      Text.Scan.advance
      return .inr found.reverse
    else
      let found := (← element) :: found
      space
      match ← Text.Scan.peek with
      | some ',' => Text.Scan.advance; return .inl found
      | some ']' => return .inl found
      | _ => refuse
  iterate step []

/-- Adds a value under a key to the table that the key is written in. -/
def addEntry (entries : Entries) (path : List String) (v : Value) : Option Entries :=
  entries.add v (path.length == 1) path

/-- Reads the entries of an inline table and its closing brace. A line may end around every key,
value, equals sign and comma. -/
def inlineEntries (element : Scan Value) : Scan Entries :=
  let step (found : Entries) : Scan (Entries ⊕ Entries) := do
    space
    if (← Text.Scan.peek) = some '\x7d' then
      Text.Scan.advance
      return .inr found
    else
      let path ← key
      space
      word ['=']
      space
      let v ← element
      match addEntry found path v with
      | none => refuse
      | some found =>
        space
        match ← Text.Scan.peek with
        | some ',' => Text.Scan.advance; return .inl found
        | some '\x7d' => return .inl found
        | _ => refuse
  iterate step []

/-- Reads a value; the values inside of it are read as given, if there may be any brackets. -/
def valueWith (inner : Option (Scan Value)) : Scan Value := do
  match ← Text.Scan.peek, inner with
  | some '"', _ => return .string (← string '"')
  | some '\'', _ => return .string (← string '\'')
  | some '[', some inner =>
    Text.Scan.advance
    return .array (← elements inner)
  | some '\x7b', some inner =>
    Text.Scan.advance
    return .table (Item.entriesValue (← inlineEntries inner))
  | _, _ => scalar

/-- Reads a value within which arrays and inline tables nest to the given depth. -/
def value : Nat → Scan Value
  | 0 => valueWith none
  | depth + 1 => valueWith (some (value depth))

def maxDepth : Nat := 80

/-- A document that is being read: the entries of its root, and the path of the open table. -/
structure Document where
  root : Entries
  path : List String

def Document.openTable (document : Document) (path : List String) : Option Document :=
  match path.getLast? with
  | none => none
  | some key => (document.root.alter (Entries.openTable key) path.dropLast).map (⟨·, path⟩)

/-- Opens one more table in the list of tables at a path of keys. -/
def Document.openNext (document : Document) (path : List String) : Option Document :=
  match path.getLast? with
  | none => none
  | some key => (document.root.alter (Entries.openNext key) path.dropLast).map (⟨·, path⟩)

def Document.add (document : Document) (path : List String) (v : Value) : Option Document :=
  (document.root.alter (fun entries => addEntry entries path v) document.path).map
    (⟨·, document.path⟩)

def require {α : Type} : Option α → Scan α
  | some a => return a
  | none => refuse

def header (document : Document) : Scan Document := do
  if (← Text.Scan.peek) = some '[' then
    Text.Scan.advance
    let path ← key
    word [']', ']']
    require (document.openNext path)
  else
    let path ← key
    word [']']
    require (document.openTable path)

/-- Reads one line, with the lines that a value on it takes, or the end of the text. -/
def line (document : Document) : Scan (Document ⊕ Document) := do
  blanks
  match ← Text.Scan.peek with
  | none => return .inr document
  | some '[' =>
    Text.Scan.advance
    let document ← header document
    endLine
    return .inl document
  | some c =>
    if c == '#' || c == '\n' || c == '\r' then
      endLine
      return .inl document
    else
      let path ← key
      word ['=']
      blanks
      let document ← require (document.add path (← value maxDepth))
      endLine
      return .inl document

/-- Reads the text of a document, which may begin with a byte order mark, as its root table. -/
def parse (text : String) : Option (List (String × Value)) :=
  let body := match text.toList with
    | '\ufeff' :: rest => rest
    | s => s
  match (iterate line ⟨[], []⟩).start body with
  | .ok (document, _) => some (Item.entriesValue document.root)
  | .error _ => none

end DoctypeInterfaces.Toml
