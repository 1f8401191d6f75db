import DoctypeInterfaces.Change
import DoctypeInterfaces.CommandLine.Arguments
import DoctypeInterfaces.Config.Decode
import DoctypeInterfaces.Scheduling

namespace DoctypeInterfaces.CommandLine

open Storage Scheduling

structure Watch where
  config : Config
  dryRun : Bool
  verbose : Bool
  deriving DecidableEq

/-- What a command has printed, how it ended, and what is watched from then on. -/
structure Execution where
  printed : String
  failure : Option Failure
  watch : Option Watch

def Execution.success (printed : String) : Execution :=
  ⟨printed, none, none⟩

def Execution.failed (printed : String) (failure : Failure) : Execution :=
  ⟨printed, some failure, none⟩

/-- The execution after something else was printed. -/
def Execution.after (printed : String) (execution : Execution) : Execution :=
  { execution with printed := printed ++ execution.printed }

def Execution.exitCode (execution : Execution) : Nat :=
  match execution.failure with
  | none => 0
  | some failure => if failure.isVerdict then 2 else 1

def Execution.errors (execution : Execution) : String :=
  match execution.failure with
  | none => ""
  | some failure => s!"Error: {failure.message}\n"

/-- A status message as it is printed; progress is only printed on demand. -/
def statusLine (verbose : Bool) (message : StatusKind × String) : String :=
  match message.1 with
  | .update => if verbose then s!"  {message.2}\n" else ""
  | .succeed => s!"✓ {message.2}\n"
  | .info => s!"ℹ {message.2}\n"

def statusLines (verbose : Bool) (messages : StatusLog) : String :=
  String.join (messages.map (statusLine verbose))

/-- The warning about doctypes without a schema file. -/
def missingWarning (doctypes : List String) : String :=
  let names := ", ".intercalate doctypes
  if doctypes.isEmpty then "" else s!"Warning: {doctypes.length} doctype(s) not found: {names}\n"

/-- The line around an output that is only shown. -/
def ruler : String :=
  String.ofList (List.replicate 60 '─') ++ "\n"

def preview : Option WriteResult → String
  | some (.dryRun path content) =>
    s!"[dry-run] Would write to {path.text}:\n" ++ ruler ++ content ++ "\n" ++ ruler
  | _ => ""

def generationHeader (config : Config) : String :=
  s!"Generating interfaces for {config.roots.count} root doctype(s) from {config.appsPath.text}\n"

def runGeneration (schedule : Schedule) (bound : Nat) (w : Watch) : Program Execution := do
  let resolving := schedule.resolve bound w.config.roots
  let (report, messages) ← generate resolving (w.config.options w.dryRun)
  let printed := generationHeader w.config ++ statusLines w.verbose messages
  match report with
  | .error failure => return .failed printed failure
  | .ok report =>
    return .success (printed ++ missingWarning report.notFound ++ preview report.write)

def watchHeader (config : Config) : String :=
  s!"Starting watch mode...\n  Watching: {config.appsPath.text}\n  Press Ctrl+C to stop\n\n"

def waiting : String :=
  "\nWatching for changes...\n"

/-- Generates interfaces and begins to watch the apps directory, which must exist. -/
def runWatch (schedule : Schedule) (bound : Nat) (w : Watch) : Program Execution := do
  let first := (← runGeneration schedule bound w).after (watchHeader w.config)
  if first.failure.isSome then
    return first
  else if ← isPresent w.config.appsPath then
    return { first with printed := first.printed ++ waiting, watch := some w }
  else
    return .failed first.printed (.watchStart "No such file or directory (os error 2)")

def changeLine (change : SchemaChange) : String :=
  let label := if change.removed then "Schema removed:" else "Schema changed:"
  s!"{label} {change.app}:{change.doctype}\n"

/-- Generates interfaces again after changes, and gives what is printed. A failure is printed too,
and the watch goes on. -/
def runAgain (schedule : Schedule) (bound : Nat) (w : Watch) (changes : List SchemaChange) :
    Program String := do
  let execution ← runGeneration schedule bound w
  let failure := match execution.failure with
    | none => ""
    | some failure => s!"Generation error: {failure.message}\n"
  return "\n" ++ String.join (changes.map changeLine) ++ execution.printed ++ failure ++ waiting

/-- Reads the configuration and merges what is given on the command line. -/
def configOf (input : Input) : Program (Except Failure Config) := do
  match ← loadConfig input.config with
  | .error failure => return .error failure
  | .ok config =>
    let merged := config.merge input.overrides
    return merged.validate.map fun _ => merged

def runCheck (schedule : Schedule) (bound : Nat) (config : Config) : Program Execution := do
  let resolving := schedule.resolve bound config.roots
  let (report, messages) ← generate resolving (config.options true)
  let printed := "Checking generated interfaces...\n" ++ statusLines false messages
  match report with
  | .error failure => return .failed printed failure
  | .ok report =>
    if report.hasChanges then
      return .failed
        (printed ++ "✗ Interfaces are out of date\n  Run 'doctype-ts generate' to update\n")
        (.outOfDate report.changed config.outputPath)
    else
      return .success (printed ++ "✓ Interfaces are up-to-date\n")

def runInit (output : Path) (force : Bool) : Program Execution := do
  if (← isPresent output) && !force then
    return .failed
      (s!"Error: Configuration file already exists: {output.text}\n" ++
        "  Use --force to overwrite\n")
      .configExists
  else
    match ← overwrite output (Text.encodeUtf8 Config.template) with
    | .error e => return .failed "" (.configWrite e)
    | .ok () => return .success s!"✓ Created configuration file: {output.text}\n"

/-- Carries out a command. A walk lists at most `bound` directories, and at most so many doctypes
are being resolved within one another. -/
def Command.execute (schedule : Schedule) (bound : Nat) : Command → Program Execution
  | .generate input watch dryRun verbose => do
    match ← configOf input with
    | .error failure => return .failed "" failure
    | .ok config =>
      if watch then runWatch schedule bound ⟨config, dryRun, verbose⟩
      else runGeneration schedule bound ⟨config, dryRun, verbose⟩
  | .init output force => runInit output force
  | .check input => do
    match ← configOf input with
    | .error failure => return .failed "" failure
    | .ok config => runCheck schedule bound config

def versionLine : String :=
  "doctype-ts 0.1.0\n"

def usage : String :=
  "Usage: doctype-ts [-v] generate [-a APPS] [-o OUTPUT] [-d APP:DOCTYPE]... [-c CONFIG] [-w]" ++
  " [--dry-run]\n" ++
  "       doctype-ts [-v] init [-o OUTPUT] [--force]\n" ++
  "       doctype-ts [-v] check [-a APPS] [-o OUTPUT] [-d APP:DOCTYPE]... [-c CONFIG]\n"

end DoctypeInterfaces.CommandLine
