import DoctypeInterfaces.Config.Basic
import DoctypeInterfaces.Toml.Document

namespace DoctypeInterfaces

open Storage

def Toml.Value.string? : Toml.Value → Option String
  | .string s => some s
  | _ => none

def Toml.Value.strings? : Toml.Value → Option (List String)
  | .array elements => elements.mapM Toml.Value.string?
  | _ => none

def pathOr (fallback : Path) : Option Toml.Value → Option Path
  | none => some fallback
  | some v => v.string?.map Path.ofText

def decodePaths (config : Config) : Toml.Value → Option Config
  | .table entries => do
    guard (Toml.Value.entriesFit entries)
    let appsPath ← pathOr config.appsPath (entries.lookup "apps")
    let outputPath ← pathOr config.outputPath (entries.lookup "output")
    return { config with appsPath := appsPath, outputPath := outputPath }
  | .array elements => do
    let appsPath ← pathOr config.appsPath elements[0]?
    let outputPath ← pathOr config.outputPath elements[1]?
    return { config with appsPath := appsPath, outputPath := outputPath }
  | .datetime _ => some config
  | _ => none

def decodeApps (config : Config) : Toml.Value → Option Config
  | .table entries => do
    let apps ← entries.mapM fun entry => do return (entry.1, ← entry.2.strings?)
    return { config with roots := .ofList apps }
  | _ => none

def decodeMember (decode : Config → Toml.Value → Option Config) (config : Config) :
    Option Toml.Value → Option Config
  | none => some config
  | some v => decode config v

def Config.ofToml (text : String) : Option Config := do
  let entries ← Toml.parse text
  guard (Toml.Value.entriesFit (entries.filter (·.1 != "paths")))
  let config ← decodeMember decodePaths .default (entries.lookup "paths")
  decodeMember decodeApps config (entries.lookup "apps")

/-- The text of a configuration file; bytes that are no text are an error. -/
def configText (bytes : Bytes) : Except IoError String :=
  (Text.decodeUtf8 bytes).mapError fun _ => ⟨.invalidData, "stream did not contain valid UTF-8"⟩

/-- Reads a configuration file. Without one, everything has its default. -/
def loadConfig (path : Option Path) : Program (Except Failure Config) := do
  let path := path.getD configFileName
  if ← isPresent path then
    match (← read path).bind configText with
    | .error e => return .error (.configRead path e)
    | .ok text =>
      match Config.ofToml text with
      | some config => return .ok config
      | none => return .error (.configDecode path)
  else
    return .ok .default

end DoctypeInterfaces
