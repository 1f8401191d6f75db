import DoctypeInterfaces.Field.Kind
import DoctypeInterfaces.Schema.Basic
import DoctypeInterfaces.Text.Lines

namespace DoctypeInterfaces

/-- A member of an interface. -/
structure InterfaceMember where
  name : String
  type : String
  /-- The comment before the member, with its delimiters. -/
  doc : String
  isOptional : Bool
  /-- The child doctype whose rows the member holds. -/
  related : Option String
  deriving DecidableEq, Repr

def literalType (choice : List Char) : List Char :=
  '\'' :: choice ++ ['\'']

def unionType (choices : String) : String :=
  String.ofList
    ([' ', '|', ' '].intercalate ((Text.splitOn '\n' choices.toList).map literalType))

namespace FieldSchema

/-- The kind of a field. -/
def kind (field : FieldSchema) : FieldKind :=
  .ofName field.fieldtype

/-- The child doctype whose rows a field holds. -/
def childDoctype (field : FieldSchema) : Option String :=
  if field.kind.isTable then field.effectiveOptions else none

def memberType (field : FieldSchema) : String :=
  match field.effectiveOptions with
  | none => field.kind.baseType
  | some options =>
    if field.kind = .select then unionType options
    else if field.kind.isTable then Text.stripBlanks options ++ "[]"
    else field.kind.baseType

def namedDoctype (field : FieldSchema) : Option String :=
  if field.kind.isRelational then field.effectiveOptions else none

/-- The comment on a field: its label and kind, and the other doctype it leads to. -/
def memberDoc (field : FieldSchema) : String :=
  match field.namedDoctype with
  | none => s!"/** {field.label}: {field.fieldtype} */"
  | some doctype => s!"/** {field.label}: {field.fieldtype} ({doctype}) */"

/-- The member that declares a field; a field that is layout only has none. A check is never
absent, and neither is a required field. -/
def member? (field : FieldSchema) : Option InterfaceMember :=
  if field.kind.isLayout then
    none
  else
    some {
      name := field.fieldname
      type := field.memberType
      doc := field.memberDoc
      isOptional := !(field.required || field.kind = .check)
      related := field.childDoctype }

end FieldSchema

def InterfaceMember.declaration (m : InterfaceMember) : String :=
  m.name ++ (if m.isOptional then "?" else "") ++ ": " ++ m.type ++ ";"

/-- The lines of a member, with the given indentation. -/
def InterfaceMember.lines (m : InterfaceMember) (indent : String) : List String :=
  [indent ++ m.doc, indent ++ m.declaration]

/-- The text of a member, with the given indentation. -/
def InterfaceMember.render (m : InterfaceMember) (indent : String) : String :=
  String.join ((m.lines indent).map (· ++ "\n"))

end DoctypeInterfaces
