import DoctypeInterfaces.Field.Member

namespace DoctypeInterfaces

/-- An interface as it stands in the output. -/
structure Interface where
  name : String
  lastUpdated : String
  /-- The text of the block, to the line feed at its end. -/
  block : String
  deriving DecidableEq, Repr

def markerStart : String := "// Last updated: "

def markerLine (modified : String) : String :=
  markerStart ++ modified

def baseInterfaces : String :=
  "interface DocType \x7b\n  name: string;\n  creation: string;\n  modified: string;\n" ++
  "  owner: string;\n  modified_by: string;\n\x7d\n\n" ++
  "interface ChildDocType extends DocType \x7b\n  parent?: string;\n  parentfield?: string;\n" ++
  "  parenttype?: string;\n  idx?: number;\n\x7d\n"

def memberIndent : String := "  "

namespace DoctypeSchema

def baseName (schema : DoctypeSchema) : String :=
  if schema.isTable then "ChildDocType" else "DocType"

def declarationLine (schema : DoctypeSchema) : String :=
  "export interface " ++ schema.interfaceName ++ " extends " ++ schema.baseName ++ " \x7b"

/-- The members of the interface, in the order of the fields. -/
def members (schema : DoctypeSchema) : List InterfaceMember :=
  schema.fields.filterMap FieldSchema.member?

def blockLines (schema : DoctypeSchema) : List String :=
  [markerLine schema.modified, schema.declarationLine] ++
    schema.members.flatMap (fun m => m.lines memberIndent) ++ ["\x7d"]

/-- The interface of a doctype. -/
def toInterface (schema : DoctypeSchema) : Interface where
  name := schema.interfaceName
  lastUpdated := schema.modified
  block := String.join (schema.blockLines.map (· ++ "\n"))

/-- The child doctypes of a doctype, by name, in the order of the fields. -/
def related (schema : DoctypeSchema) : List String :=
  schema.members.filterMap InterfaceMember.related

end DoctypeSchema

end DoctypeInterfaces
