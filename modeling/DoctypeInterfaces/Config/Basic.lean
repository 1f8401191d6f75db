import DoctypeInterfaces.Failure
import DoctypeInterfaces.Generation

namespace DoctypeInterfaces

def configFileName : Path := .ofText "doctype-ts.toml"

/-- A configuration. -/
structure Config where
  appsPath : Path
  outputPath : Path
  roots : Roots
  deriving DecidableEq

/-- What is given on the command line. -/
structure Overrides where
  appsPath : Option Path
  outputPath : Option Path
  /-- Applications and doctypes that are requested besides the configured ones. -/
  doctypes : List (String × String)
  deriving DecidableEq, Repr

namespace Config

def default : Config :=
  ⟨.ofText "./apps", .ofText "./types/doctypes.ts", .empty⟩

/-- Fails when there is nothing to generate. -/
def validate (config : Config) : Except Failure Unit :=
  if config.roots.isVoid then
    .error (.configValue "apps"
      "no doctypes requested; add an [apps] entry or pass --doctype APP:NAME")
  else
    .ok ()

/-- What a run works on. -/
def options (config : Config) (dryRun : Bool) : GenerationOptions :=
  ⟨config.appsPath, config.outputPath, dryRun⟩

/-- The configuration with what is given on the command line: paths replace the configured ones, and
doctypes are added to them. -/
def merge (config : Config) (given : Overrides) : Config where
  appsPath := given.appsPath.getD config.appsPath
  outputPath := given.outputPath.getD config.outputPath
  roots := given.doctypes.foldl (fun roots root => roots.add root.1 root.2) config.roots

def template : String :=
  "# doctype-ts configuration file\n\n" ++
  "[paths]\n# Directory containing one subdirectory per application\n" ++
  "apps = \"./apps\"\n\n" ++
  "# Generated TypeScript file (rewritten only when a doctype changed)\n" ++
  "output = \"./types/doctypes.ts\"\n\n" ++
  "[apps]\n# Root doctypes to compile, per application, using their directory names.\n" ++
  "# Child doctypes referenced by Table fields are compiled automatically.\n" ++
  "# erpnext = [\"sales_invoice\", \"item\"]\n# frappe = [\"user\"]\n"

end Config

/-- Reads an application and a doctype with a colon between them, neither of them empty. -/
def parseRoot? (s : String) : Option (String × String) :=
  let app := s.toList.takeWhile (· != ':')
  match s.toList.dropWhile (· != ':') with
  | ':' :: doctype =>
    if app.isEmpty || doctype.isEmpty then none
    else some (String.ofList app, String.ofList doctype)
  | _ => none

/-- The error about a text that is no application with a doctype. -/
def rootExpected (s : String) : String :=
  s!"expected APP:DOCTYPE, got '{s}'"

end DoctypeInterfaces
