import DoctypeInterfaces.Json.Error
import DoctypeInterfaces.Text.Scan

namespace DoctypeInterfaces.Json

/-- A computation that reads JSON from the front of a text. -/
abbrev Scan := Text.Scan Error

def isBlank (c : Char) : Bool :=
  c == ' ' || c == '\t' || c == '\n' || c == '\r'

def skipBlanks (s : List Char) : List Char :=
  s.dropWhile isBlank

namespace Scan

/-- The first character after blanks, which stays unread. -/
def look : Scan (Option Char) := fun _ s =>
  .ok ((skipBlanks s).head?, skipBlanks s)

def advance : Scan Unit :=
  Text.Scan.advance

def word : List Char → Scan Unit
  | [] => pure ()
  | w :: ws => fun bound s =>
    match s with
    | [] => .error .truncated
    | c :: rest => if c = w then word ws bound rest else .error .malformed

/-- Reads the given character after blanks. -/
def token (c : Char) : Scan Unit := do
  match ← look with
  | none => throw .truncated
  | some d => if d = c then advance else throw .malformed

/-- Repeats a step, which must read something, until it gives a result. -/
def iterate {σ α : Type} (step : σ → Scan (σ ⊕ α)) (state : σ) : Scan α :=
  Text.Scan.iterate .malformed step state

end Scan

end DoctypeInterfaces.Json
