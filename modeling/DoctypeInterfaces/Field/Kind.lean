namespace DoctypeInterfaces

inductive FieldKind where
  | sectionBreak
  | columnBreak
  | tabBreak
  | html
  | button
  | data
  | textEditor
  | link
  | dynamicLink
  | datetime
  | date
  | attachImage
  | smallText
  | color
  | text
  | autocomplete
  | password
  | code
  | readOnly
  | percent
  | int
  | float
  | check
  | select
  | table
  | tableMultiSelect
  /-- A kind that is not known here, by its name. -/
  | other (name : String)
  deriving DecidableEq, Repr

namespace FieldKind

def ofName : String → FieldKind
  | "Section Break" => sectionBreak
  | "Column Break" => columnBreak
  | "Tab Break" => tabBreak
  | "HTML" => html
  | "Button" => button
  | "Data" => data
  | "Text Editor" => textEditor
  | "Link" => link
  | "Dynamic Link" => dynamicLink
  | "Datetime" => datetime
  | "Date" => date
  | "Attach Image" => attachImage
  | "Small Text" => smallText
  | "Color" => color
  | "Text" => text
  | "Autocomplete" => autocomplete
  | "Password" => password
  | "Code" => code
  | "Read Only" => readOnly
  | "Percent" => percent
  | "Int" => int
  | "Float" => float
  | "Check" => check
  | "Select" => select
  | "Table" => table
  | "Table MultiSelect" => tableMultiSelect
  | name => other name

/-- Whether a kind only shapes the form and holds nothing. -/
def isLayout : FieldKind → Bool
  | sectionBreak | columnBreak | tabBreak | html | button => true
  | _ => false

/-- Whether a kind holds rows of a child doctype. -/
def isTable : FieldKind → Bool
  | table | tableMultiSelect => true
  | _ => false

/-- Whether the options of a field of this kind name another doctype. -/
def isRelational : FieldKind → Bool
  | table | tableMultiSelect | link | dynamicLink => true
  | _ => false

/-- The type of the values of a kind, whatever the options of the field. -/
def baseType : FieldKind → String
  | data | textEditor | link | dynamicLink | datetime | date | attachImage | smallText | color
  | text | autocomplete | password | code | readOnly => "string"
  | percent | int | float => "number"
  | check => "0 | 1"
  | table | tableMultiSelect => "any[]"
  | _ => "any"

theorem isRelational_of_isTable {kind : FieldKind} (h : kind.isTable = true) :
    kind.isRelational = true := by
  cases kind <;> first | rfl | simp [isTable] at h

end FieldKind

end DoctypeInterfaces
