import DoctypeInterfaces.Failure
import DoctypeInterfaces.Interface.Recover
import DoctypeInterfaces.Storage.Program
import DoctypeInterfaces.Text.Utf8

namespace DoctypeInterfaces

open Storage

/-- Reads the interfaces of an output file; a file that does not exist has none. -/
def loadOutput (path : Path) : Program (Except Failure InterfaceSet) := do
  match ← read path with
  | .ok bytes => return .ok (.ofOutput (Text.decodeUtf8Lossy bytes))
  | .error e =>
    if e.kind = .notFound then return .ok .empty else return .error (.outputRead path e)

inductive WriteResult where
  | written (path : Path) (size : Nat)
  | dryRun (path : Path) (content : String)
  deriving DecidableEq, Repr

def WriteResult.wasWritten : WriteResult → Bool
  | .written _ _ => true
  | .dryRun _ _ => false

def ensureOutputDir (path : Path) : Program (Except Failure Unit) :=
  match path.dir? with
  | none => return .ok ()
  | some dir => do return (← createDirAll dir).mapError (.outputDir dir)

/-- Puts a new output file in the place of the old one. -/
def replaceOutput (path : Path) (content : String) : Program (Except Failure WriteResult) := do
  match ← ensureOutputDir path with
  | .error e => return .error e
  | .ok () =>
    let bytes := Text.encodeUtf8 content
    match ← writeAtomic path bytes with
    | .error e => return .error (.outputWrite path e)
    | .ok () => return .ok (.written path bytes.length)

/-- Writes an output file, or only tells what would be written. -/
def writeOutput (dryRun : Bool) (path : Path) (content : String) :
    Program (Except Failure WriteResult) :=
  if dryRun then return .ok (.dryRun path content) else replaceOutput path content

end DoctypeInterfaces
