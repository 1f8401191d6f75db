import DoctypeInterfaces.CommandLine.Execution

namespace DoctypeInterfaces.Main

open Storage CommandLine

def ioKindOf (e : IO.Error) : IoKind :=
  match e with
  | .noFileOrDirectory .. => .notFound
  | .alreadyExists .. => .alreadyExists
  | .permissionDenied .. => .permissionDenied
  | .resourceBusy .. => .resourceBusy
  | .interrupted .. => .interrupted
  | .timeExpired .. => .timedOut
  | .inappropriateType _ code _ => if code = 21 then .isADirectory else .notADirectory
  | .invalidArgument _ code _ =>
    if code = 36 then .invalidFilename
    else if code = 40 then .filesystemLoop
    else .invalidInput
  | _ => .other "Other"

def systemText? (e : IO.Error) : Option String :=
  match e with
  | .noFileOrDirectory _ code details => some s!"{details} (os error {code})"
  | .alreadyExists _ code details => some s!"{details} (os error {code})"
  | .permissionDenied _ code details => some s!"{details} (os error {code})"
  | .resourceBusy code details => some s!"{details} (os error {code})"
  | .inappropriateType _ code details => some s!"{details} (os error {code})"
  | .invalidArgument _ code details => some s!"{details} (os error {code})"
  | .resourceExhausted _ code details => some s!"{details} (os error {code})"
  | .otherError code details => some s!"{details} (os error {code})"
  | _ => none

def ioErrorOf (e : IO.Error) : IoError :=
  ⟨ioKindOf e, (systemText? e).getD e.toString⟩

def guarded {α : Type} (path : Path) (action : IO α) : IO (Except IoError α) := do
  if path.bytes.contains 0 then
    return .error ⟨.invalidInput, "file name contained an unexpected NUL byte"⟩
  else
    try
      return .ok (← action)
    catch e =>
      return .error (ioErrorOf e)

def entryAt (path : Path) : IO.FS.DirEntry where
  root := path.text
  fileName := ""

/-- Whether an entry of a directory is one itself. A link that leads nowhere is none. -/
def isDirectory (path : Path) : IO Bool := do
  try
    return (← (entryAt path).root.metadata).type == .dir
  catch
    | .noFileOrDirectory .. => return false
    | e => throw e

def entries (path : Path) : IO (List DirEntry) := do
  (← (entryAt path).root.readDir).toList.mapM fun entry => do
    let child := path.join (.ofText entry.fileName)
    return ⟨child, ← isDirectory child⟩

/-- Puts a file in the place of another one: it is written beside it and then moved. -/
def replaceFile (path : Path) (contents : Bytes) : IO Unit := do
  IO.FS.writeBinFile path.temporary.text ⟨contents.toArray⟩
  try
    IO.FS.rename path.temporary.text path.text
  catch e =>
    try
      IO.FS.removeFile path.temporary.text
    catch _ =>
      pure ()
    throw e

/-- Answers a storage call on the file system. -/
def answer : (c : Call) → IO c.Answer
  | .read path => guarded path do return (← IO.FS.readBinFile path.text).toList
  | .listDir path => guarded path (entries path)
  | .createDirAll path => guarded path (IO.FS.createDirAll path.text)
  | .writeAtomic path contents => guarded path (replaceFile path contents)
  | .isPresent path => do
    match ← guarded path (entryAt path).root.metadata with
    | .ok _ => return true
    | .error _ => return false
  | .overwrite path contents => guarded path (IO.FS.writeBinFile path.text ⟨contents.toArray⟩)

/-- No file system holds more directories, or longer chains of doctypes. -/
def bound : Nat := 0x10000000000000000

/-- The requests wait for the file system, and so they are resolved in turns. -/
def schedule : Scheduling.Schedule :=
  .inTurns bound Scheduling.promptTurn

partial def modifications (dir : Path) : IO (List (Path × IO.FS.SystemTime)) := do
  let mut found := []
  for entry in ← (entryAt dir).root.readDir do
    let path := dir.join (.ofText entry.fileName)
    try
      let metadata ← entry.path.symlinkMetadata
      if metadata.type == .dir then
        found := found ++ (← modifications path)
      else
        found := (path, metadata.modified) :: found
    catch _ =>
      pure ()
  return found

/-- The files that differ between two states of a directory. -/
def differences (before after : List (Path × IO.FS.SystemTime)) : List Path :=
  (after.filter fun file => !before.contains file).map (·.1) ++
    (before.filter fun file => !(after.map (·.1)).contains file.1).map (·.1)

partial def watch (w : Watch) (before : List (Path × IO.FS.SystemTime)) : IO Unit := do
  IO.sleep 500
  let after ← modifications w.config.appsPath
  let isPresent (path : Path) : Bool := (after.map (·.1)).contains path
  let changes := collectChanges isPresent w.config.appsPath (differences before after)
  if !changes.isEmpty then
    IO.print (← (runAgain schedule bound w changes).run answer)
    (← IO.getStdout).flush
  watch w after

/-- Carries out what the command line asks for, and gives the exit code. -/
def carryOut : Request → IO UInt32
  | .refused => do
    IO.eprint usage
    return 2
  | .help => do
    IO.print usage
    return 0
  | .version => do
    IO.print versionLine
    return 0
  | .run command => do
    let execution ← (command.execute schedule bound).run answer
    IO.print execution.printed
    IO.eprint execution.errors
    match execution.watch with
    | none => return execution.exitCode.toUInt32
    | some w => do
      (← IO.getStdout).flush
      watch w (← modifications w.config.appsPath)
      return 0

end DoctypeInterfaces.Main

def main (arguments : List String) : IO UInt32 :=
  DoctypeInterfaces.Main.carryOut (DoctypeInterfaces.CommandLine.read arguments)
