import DoctypeInterfaces.Decimal.Text
import DoctypeInterfaces.Text.Printable

namespace DoctypeInterfaces.Json

inductive Found where
  | null
  | boolean (b : Bool)
  | integer (n : Int)
  | float (f : Float)
  | text (s : String)
  | sequence
  | map

def Found.description : Found → String
  | .null => "null"
  | .boolean b => s!"boolean `{b}`"
  | .integer n => s!"integer `{n}`"
  | .float f => s!"floating point `{Decimal.floatText f}`"
  | .text s => s!"string {Text.quoted s}"
  | .sequence => "sequence"
  | .map => "map"

inductive Mismatch where
  | wrongType (found : Found) (expected : String)
  | missing (key : String)
  | duplicate (key : String)
  /-- A record written by position that ends before a required member. -/
  | tooShort (count : Nat) (record : String) (size : Nat)

def Mismatch.message : Mismatch → String
  | .wrongType found expected => s!"invalid type: {found.description}, expected {expected}"
  | .missing key => s!"missing field `{key}`"
  | .duplicate key => s!"duplicate field `{key}`"
  | .tooShort count record size =>
    s!"invalid length {count}, expected {record} with {size} elements"

inductive Error where
  /-- The text ends too early. -/
  | truncated
  /-- The text breaks the grammar, or a limit of it. -/
  | malformed
  /-- The text holds something else than was asked for. -/
  | mismatch (cause : Mismatch)

def Error.message : Error → String
  | .truncated => "the text ends too early"
  | .malformed => "the text is not JSON"
  | .mismatch cause => cause.message

end DoctypeInterfaces.Json
