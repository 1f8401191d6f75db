import DoctypeInterfaces.Locator
import DoctypeInterfaces.Output
import DoctypeInterfaces.Roots
import DoctypeInterfaces.Schema.Decode

namespace DoctypeInterfaces

open Storage

inductive StatusKind where
  /-- Progress, which the next message of the kind makes obsolete. -/
  | update
  /-- The outcome of a run that changed the output. -/
  | succeed
  /-- The outcome of a run that left the output as it was. -/
  | info
  deriving DecidableEq, Repr

abbrev StatusLog := List (StatusKind × String)

def StatusLog.last? (log : StatusLog) (kind : StatusKind) : Option String :=
  (log.findRev? fun message => message.1 = kind).map (·.2)

inductive Outcome where
  | updated
  | skipped
  | notFound
  deriving DecidableEq, Repr

def Outcome.text : Outcome → String
  | .updated => "updated"
  | .skipped => "skipped"
  | .notFound => "not found"

def progressMessage (doctype : String) (outcome : Outcome) : StatusKind × String :=
  (.update, s!"Processing: {doctype} [{outcome.text}]")

/-- What a run works on. -/
structure GenerationOptions where
  appsPath : Path
  outputPath : Path
  dryRun : Bool
  deriving DecidableEq, Repr

structure Progress where
  /-- The doctypes that have been resolved or are being resolved, the last one first. -/
  processed : List String
  interfaces : InterfaceSet
  /-- The doctypes without a schema file, in the order of discovery. -/
  notFound : List String
  /-- The number of interfaces emitted and inserted. -/
  changed : Nat
  /-- The number of interfaces found current. -/
  skipped : Nat
  messages : StatusLog
  locator : Locator

/-- A run that has done nothing yet. -/
def Progress.start (appsPath : Path) : Progress :=
  ⟨[], .empty, [], 0, 0, [], .new appsPath⟩

/-- A run that has done nothing but read the earlier output. -/
def Progress.onOutput (appsPath : Path) (earlier : InterfaceSet) : Progress :=
  { Progress.start appsPath with interfaces := earlier }

namespace Progress

variable (progress : Progress)

def told (message : StatusKind × String) : Progress :=
  { progress with messages := progress.messages ++ [message] }

/-- The progress when a doctype has been marked as processed. -/
def entered (doctype : String) : Progress :=
  { progress with processed := doctype :: progress.processed }

/-- The progress when a doctype is found to have no schema file. -/
def missed (doctype : String) : Progress :=
  { progress.told (progressMessage doctype .notFound) with
    notFound := progress.notFound ++ [doctype] }

/-- The progress when the interface of a doctype is found current. -/
def passed (doctype : String) : Progress :=
  { progress.told (progressMessage doctype .skipped) with skipped := progress.skipped + 1 }

/-- The progress when the interface of a doctype is going to be emitted. -/
def announced (doctype : String) : Progress :=
  progress.told (progressMessage doctype .updated)

/-- The progress when an interface has been emitted. -/
def emitted (interface : Interface) : Progress :=
  { progress with
    interfaces := progress.interfaces.insert interface
    changed := progress.changed + 1 }

end Progress

/-- What a run has come to. -/
structure Report where
  changed : Nat
  skipped : Nat
  notFound : List String
  total : Nat
  /-- What became of the output, if there was something new to write. -/
  write : Option WriteResult
  deriving DecidableEq, Repr

def Report.hasChanges (report : Report) : Bool :=
  0 < report.changed

/-- A part of a run: a program that moves the progress on and may fail. -/
abbrev Resolution := ExceptT Failure (StateT Progress Program)

namespace Resolution

def ofProgram {α : Type} (program : Program (Except Failure α)) : Resolution α :=
  ExceptT.mk do return ← program

def say (message : StatusKind × String) : Resolution Unit :=
  modify (·.told message)

def enter (doctype : String) : Resolution Bool := do
  let progress ← get
  if progress.processed.contains doctype then
    return false
  else
    set (progress.entered doctype)
    return true

/-- Finds the schema file of a doctype. -/
def locate (bound : Nat) (app doctype : String) : Resolution (Option Path) :=
  ExceptT.mk do
    let progress ← get
    let (found, locator) ← (progress.locator.locate bound app doctype : Program _)
    set { progress with locator := locator }
    return found

def missing (doctype : String) : Resolution Unit :=
  modify (·.missed doctype)

def skip (doctype : String) : Resolution Unit :=
  modify (·.passed doctype)

def announce (doctype : String) : Resolution Unit :=
  modify (·.announced doctype)

def emit (interface : Interface) : Resolution Unit :=
  modify (·.emitted interface)

/-- Resolves a doctype and then its child doctypes, unless it has been processed. The doctypes that
are being resolved within one another are at most `depth`. -/
def resolve (bound : Nat) (app : String) (depth : Nat) (doctype : String) : Resolution Unit := do
  if ← enter doctype then
    match ← locate bound app doctype with
    | none => missing doctype
    | some path =>
      let schema ← ofProgram (loadSchema path)
      if (← get).interfaces.isCurrent schema.interfaceName schema.modified then
        skip doctype
      else
        announce doctype
        match depth with
        | 0 => throw .unfinished
        | depth + 1 =>
          (schema.related.map doctypeDirName).forM (resolve bound app depth)
          emit schema.toInterface
termination_by structural depth

def resolveRoots (bound : Nat) (roots : Roots) : Resolution Unit :=
  roots.pairs.forM fun root => resolve bound root.1 bound root.2

def outcomeMessage (changed : Nat) (result : WriteResult) : StatusKind × String :=
  let plural := if changed = 1 then "" else "s"
  if result.wasWritten then
    (.succeed, s!"Updated {changed} interface{plural}. Output file updated.")
  else
    (.info, s!"Would update {changed} interface{plural}.")

def finish (options : GenerationOptions) : Resolution (Option WriteResult) := do
  let progress ← get
  if progress.changed = 0 then
    say (.info, "No new schema changes.")
    return none
  else
    let result ← ofProgram
      (writeOutput options.dryRun options.outputPath progress.interfaces.render)
    say (outcomeMessage progress.changed result)
    return some result

end Resolution

/-- A run, given how it resolves the requested doctypes. -/
def generationBy (resolving : Resolution Unit) (options : GenerationOptions) :
    Resolution Report := do
  let earlier ← Resolution.ofProgram (loadOutput options.outputPath)
  modify fun progress => { progress with interfaces := earlier }
  resolving
  let resolved ← get
  let write ← Resolution.finish options
  return {
    changed := resolved.changed
    skipped := resolved.skipped
    notFound := resolved.notFound
    total := resolved.interfaces.size
    write := write }

/-- A run for the requested doctypes, one after the other. A walk lists at most `bound` directories,
and at most so many doctypes are being resolved within one another. -/
def generation (bound : Nat) (options : GenerationOptions) (roots : Roots) :
    Resolution Report :=
  generationBy (Resolution.resolveRoots bound roots) options

/-- A whole run: its report or failure, and the messages it has given. -/
def generate (resolving : Resolution Unit) (options : GenerationOptions) :
    Program (Except Failure Report × StatusLog) := do
  let (report, progress) ← (generationBy resolving options).run.run (.start options.appsPath)
  return (report, progress.messages)

end DoctypeInterfaces
