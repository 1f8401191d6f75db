import DoctypeInterfaces.Json.Value

namespace DoctypeInterfaces.Json

structure Member (ρ : Type) where
  key : String
  isRequired : Bool
  fill : ρ → Scan ρ

structure RecordShape (ρ : Type) where
  name : String
  members : List (Member ρ)

/-- A record that is being read as an object: whether no member has been read yet, the keys of the
members so far, and the record so far. -/
structure Draft (ρ : Type) where
  isFirst : Bool
  keys : List String
  record : ρ

/-- Reads up to the next key of an object; nothing at its end, where the bracket stays unread. -/
def nextKey (isFirst : Bool) : Scan (Option String) := do
  match ← Scan.look with
  | none => throw .truncated
  | some '}' => return none
  | some '"' =>
    if isFirst then
      Scan.advance
      return some (← text)
    else
      throw .malformed
  | some ',' =>
    if isFirst then
      throw .malformed
    else
      Scan.advance
      Scan.token '"'
      return some (← text)
  | some _ => throw .malformed

def RecordShape.memberStep {ρ : Type} (shape : RecordShape ρ) (draft : Draft ρ) :
    Scan (Draft ρ ⊕ ρ) := do
  match ← nextKey draft.isFirst with
  | none =>
    match shape.members.find? fun m => m.isRequired && !draft.keys.contains m.key with
    | some m => throw (.mismatch (.missing m.key))
    | none =>
      Scan.advance
      return .inr draft.record
  | some key =>
    match shape.members.find? fun m => m.key == key with
    | none =>
      Scan.token ':'
      skipValue
      return .inl ⟨false, draft.keys, draft.record⟩
    | some m =>
      if draft.keys.contains key then
        throw (.mismatch (.duplicate key))
      else
        Scan.token ':'
        return .inl ⟨false, key :: draft.keys, ← m.fill draft.record⟩

/-- Whether an array goes on with another element, up to which it reads; at its end the bracket
stays unread. -/
def nextElement (isFirst : Bool) : Scan Bool := do
  match ← Scan.look with
  | none => throw .truncated
  | some ']' => return false
  | some ',' =>
    if isFirst then
      return true
    else
      Scan.advance
      match ← Scan.look with
      | none => throw .truncated
      | some ']' => throw .malformed
      | some _ => return true
  | some _ => if isFirst then return true else throw .malformed

/-- Reads the members by position from the given index on. -/
def RecordShape.fillFrom {ρ : Type} (shape : RecordShape ρ) (record : ρ) (index : Nat) :
    List (Member ρ) → Scan ρ
  | [] => return record
  | m :: ms => do
    if ← nextElement (index == 0) then
      shape.fillFrom (← m.fill record) (index + 1) ms
    else if m.isRequired then
      throw (.mismatch (.tooShort index shape.name shape.members.length))
    else
      shape.fillFrom record (index + 1) ms

/-- Reads a record that starts out with the given defaults. -/
def RecordShape.read {ρ : Type} (shape : RecordShape ρ) (defaults : ρ) : Scan ρ := do
  match ← Scan.look with
  | some '{' =>
    Scan.advance
    Scan.iterate shape.memberStep ⟨true, [], defaults⟩
  | some '[' =>
    Scan.advance
    let record ← shape.fillFrom defaults 0 shape.members
    Scan.token ']'
    return record
  | _ => unexpected shape.name

/-- Reads one element of a list after those found so far, the last one first, or the end. -/
def elementStep {α : Type} (element : Scan α) (found : List α) : Scan (List α ⊕ List α) := do
  if ← nextElement found.isEmpty then
    return .inl ((← element) :: found)
  else
    Scan.advance
    return .inr found.reverse

/-- Reads a list of elements. -/
def list {α : Type} (element : Scan α) : Scan (List α) := do
  if (← Scan.look) = some '[' then
    Scan.advance
    Scan.iterate (elementStep element) []
  else
    unexpected "a sequence"

/-- Reads a text that holds one value and nothing else. -/
def read {α : Type} (value : Scan α) (s : String) : Except Error α :=
  match value.start s.toList with
  | .error e => .error e
  | .ok (a, rest) => if skipBlanks rest = [] then .ok a else .error .malformed

end DoctypeInterfaces.Json
