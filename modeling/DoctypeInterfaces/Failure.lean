import DoctypeInterfaces.Json.Error
import DoctypeInterfaces.Storage.Program

namespace DoctypeInterfaces

inductive Failure where
  /-- A directory could not be listed during a search. -/
  | search (dir : Path) (cause : IoError)
  | schemaRead (path : Path) (cause : IoError)
  | schemaDecode (path : Path) (cause : Json.Error)
  /-- A configuration file is not TOML, or of the wrong shape. -/
  | configDecode (path : Path)
  /-- A configuration asks for something that makes no sense. -/
  | configValue (key reason : String)
  | configRead (path : Path) (cause : IoError)
  | outputRead (path : Path) (cause : IoError)
  | outputDir (path : Path) (cause : IoError)
  | outputWrite (path : Path) (cause : IoError)
  | watchStart (reason : String)
  | outOfDate (count : Nat) (output : Path)
  | configExists
  | configWrite (cause : IoError)
  /-- A search or a resolution took more steps than it was allowed. -/
  | unfinished

namespace Failure

def message : Failure → String
  | .search dir cause =>
    s!"Failed to locate doctype: IO error scanning {dir.text}: {cause.message}"
  | .schemaRead path cause =>
    s!"Failed to load schema: Failed to read {path.text}: {cause.message}"
  | .schemaDecode path cause =>
    s!"Failed to load schema: Invalid JSON in {path.text}: {cause.message}"
  | .configDecode path =>
    s!"Failed to load configuration: Invalid TOML in {path.text}: the text is not a configuration"
  | .configValue key reason =>
    s!"Failed to load configuration: Invalid configuration value for '{key}': {reason}"
  | .configRead path cause =>
    s!"Failed to load configuration: Failed to read config {path.text}: {cause.message}"
  | .outputRead path cause =>
    s!"Failed to write output: Failed to read existing output {path.text}: {cause.message}"
  | .outputDir path cause =>
    s!"Failed to write output: Failed to create directory {path.text}: {cause.message}"
  | .outputWrite path cause =>
    s!"Failed to write output: Failed to write file {path.text}: {cause.message}"
  | .watchStart reason => s!"Watch error: Failed to initialize file watcher: {reason}"
  | .outOfDate count output =>
    s!"Validation failed: {count} interface(s) out of date in {output.text}"
  | .configExists => "Validation failed: Configuration file already exists"
  | .configWrite cause => s!"IO error: {cause.message}"
  | .unfinished => "The search took more steps than it was allowed"

def isVerdict : Failure → Bool
  | .outOfDate _ _ => true
  | .configExists => true
  | _ => false

end Failure

end DoctypeInterfaces
