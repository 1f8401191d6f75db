import DoctypeInterfaces.Failure
import DoctypeInterfaces.Json.Record
import DoctypeInterfaces.Schema.Basic
import DoctypeInterfaces.Storage.Program

namespace DoctypeInterfaces

open Json Storage

def maxDepth : Nat := 127

/-- The members of a field; its own depth is three. -/
def FieldSchema.shape : RecordShape FieldSchema where
  name := "struct FieldSchema"
  members := [
    ⟨"fieldname", true, fun field => return { field with fieldname := ← string }⟩,
    ⟨"fieldtype", true, fun field => return { field with fieldtype := ← string }⟩,
    ⟨"label", false, fun field => return { field with label := (← string?).getD "" }⟩,
    ⟨"options", false, fun field => return { field with options := ← string? }⟩,
    ⟨"reqd", false, fun field => return { field with required := ← flag (maxDepth - 3) }⟩]

def FieldSchema.blank : FieldSchema :=
  ⟨"", "", "", none, false⟩

def DoctypeSchema.shape : RecordShape DoctypeSchema where
  name := "struct DoctypeSchema"
  members := [
    ⟨"name", true, fun schema => return { schema with name := ← string }⟩,
    ⟨"modified", true, fun schema => return { schema with modified := ← string }⟩,
    ⟨"istable", false, fun schema => return { schema with isTable := ← flag (maxDepth - 1) }⟩,
    ⟨"fields", false, fun schema => return { schema with
      fields := ← list (FieldSchema.shape.read FieldSchema.blank) }⟩]

def DoctypeSchema.blank : DoctypeSchema :=
  ⟨"", "", false, []⟩

/-- Reads a doctype from the text of its schema. -/
def DoctypeSchema.ofJson (s : String) : Except Json.Error DoctypeSchema :=
  Json.read (DoctypeSchema.shape.read DoctypeSchema.blank) s

def loadSchema (path : Path) : Program (Except Failure DoctypeSchema) := do
  match ← readText path with
  | .error e => return .error (.schemaRead path e)
  | .ok s => return (DoctypeSchema.ofJson s).mapError (.schemaDecode path)

end DoctypeInterfaces
