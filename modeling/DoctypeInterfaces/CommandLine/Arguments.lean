import DoctypeInterfaces.CommandLine.Option
import DoctypeInterfaces.Config.Basic

namespace DoctypeInterfaces.CommandLine

/-- What `generate` and `check` both work on. -/
structure Input where
  config : Option Path
  overrides : Overrides
  deriving DecidableEq, Repr

inductive Command where
  /-- Generates interfaces, and generates them again when schemas change if `watch` is set. -/
  | generate (input : Input) (watch dryRun verbose : Bool)
  | init (output : Path) (force : Bool)
  /-- Tells whether the output is up to date. -/
  | check (input : Input)
  deriving DecidableEq, Repr

inductive Request where
  | run (command : Command)
  | version
  | help
  | refused
  deriving DecidableEq, Repr

def flag (name : String) (letter : Option Char) : OptionSpec :=
  ⟨name, letter, false, false⟩

def single (name : String) (letter : Char) : OptionSpec :=
  ⟨name, some letter, true, false⟩

def commonFlags : List OptionSpec :=
  [flag "verbose" (some 'v'), flag "help" (some 'h')]

def frontTable : OptionTable :=
  ⟨flag "version" (some 'V') :: commonFlags, ["help", "version"]⟩

def inputSpecs : List OptionSpec :=
  [single "apps" 'a', single "output" 'o', ⟨"doctype", some 'd', true, true⟩, single "config" 'c']

def generateTable : OptionTable :=
  ⟨[flag "watch" (some 'w'), flag "dry-run" none] ++ inputSpecs ++ commonFlags, ["help"]⟩

def initTable : OptionTable :=
  ⟨[single "output" 'o', flag "force" none] ++ commonFlags, ["help"]⟩

def checkTable : OptionTable :=
  ⟨inputSpecs ++ commonFlags, ["help"]⟩

/-- The path that is given with an option; an empty one is refused. -/
def path? (given : List Given) (name : String) : Option (Option Path) :=
  match (values given name).head? with
  | none => some none
  | some "" => none
  | some s => some (some (.ofText s))

def input? (given : List Given) : Option Input := do
  let appsPath ← path? given "apps"
  let outputPath ← path? given "output"
  let config ← path? given "config"
  let doctypes ← (values given "doctype").mapM parseRoot?
  return ⟨config, appsPath, outputPath, doctypes⟩

def Request.ofCommand? : Option Command → Request
  | some command => .run command
  | none => .refused

/-- Reads the options of a command, after which there may only be two dashes. Help is given only if
the options before it could be those of a command. -/
def readCommand (table : OptionTable) (command? : List Given → Option Command)
    (words : List String) : Request :=
  match table.read words with
  | .options given rest =>
    if table.allows given && (rest = [] || rest = ["--"]) then
      .ofCommand? (command? given)
    else
      .refused
  | .refused => .refused
  | .instead given _ => if table.allows given && (command? given).isSome then .help else .refused

/-- Reads the arguments. -/
def read (arguments : List String) : Request :=
  match frontTable.read arguments with
  | .refused => .refused
  | .instead front name =>
    if frontTable.allows front then (if name = "version" then .version else .help) else .refused
  | .options front words =>
    if frontTable.allows front then
      match words with
      | "generate" :: words =>
        readCommand generateTable
          (fun given => do
            let input ← input? given
            return .generate input (has given "watch") (has given "dry-run")
              (has front "verbose" || has given "verbose"))
          words
      | "init" :: words =>
        readCommand initTable
          (fun given => do
            return .init ((← path? given "output").getD configFileName) (has given "force"))
          words
      | "check" :: words =>
        readCommand checkTable (fun given => do return .check (← input? given)) words
      | ["help"] => .help
      | ["help", name] =>
        if ["generate", "init", "check", "help"].contains name then .help else .refused
      | _ => .refused
    else
      .refused

end DoctypeInterfaces.CommandLine
