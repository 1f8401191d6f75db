import DoctypeInterfaces.Text.CharClass
import DoctypeInterfaces.Text.Lowercase

namespace DoctypeInterfaces

/-- A field of a doctype. -/
structure FieldSchema where
  fieldname : String
  /-- The kind of the field, such as `Data` or `Table`. -/
  fieldtype : String
  label : String
  /-- The choices of a select field, one a line, or the name of a related doctype. -/
  options : Option String
  required : Bool
  deriving DecidableEq, Repr

/-- A doctype. -/
structure DoctypeSchema where
  /-- The name shown to people, such as `Sales Invoice Item`. -/
  name : String
  /-- The time of the last modification, which tells whether an interface is current. -/
  modified : String
  isTable : Bool
  fields : List FieldSchema
  deriving DecidableEq, Repr

/-- The options of a field, of which an empty text is none. -/
def FieldSchema.effectiveOptions (field : FieldSchema) : Option String :=
  field.options.filter fun o => o != ""

/-- The name of the interface of a doctype: its own name without blanks. -/
def DoctypeSchema.interfaceName (schema : DoctypeSchema) : String :=
  Text.stripBlanks schema.name

/-- The directory of a doctype: its name in lowercase, with underscores for spaces. -/
def doctypeDirName (name : String) : String :=
  String.ofList ((Text.lowercase name).toList.map fun c => if c = ' ' then '_' else c)

end DoctypeInterfaces
