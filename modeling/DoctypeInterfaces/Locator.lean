import DoctypeInterfaces.Failure
import DoctypeInterfaces.Storage.Program

namespace DoctypeInterfaces

open Storage

/-- What the path of the schema file of a doctype ends with. -/
def schemaSuffix (doctype : String) : Path :=
  ((Path.ofText "doctype").join (.ofText doctype)).join (.ofText (doctype ++ ".json"))

namespace Locator

/-- The next entry of a walk that is a directory or ends with `target`, and what is pending after
it: the rest of its directory, then those of the directories above. -/
def nextStop (target : Path) :
    List (List DirEntry) → Option (DirEntry × List (List DirEntry))
  | [] => none
  | level :: above =>
    match level.dropWhile fun entry => !(entry.isDir || entry.path.endsWith target) with
    | [] => nextStop target above
    | entry :: rest => some (entry, rest :: above)

/-- Walks on through the pending entries, with at most `bound` listings. -/
def walkPending (target : Path) (bound : Nat) (pending : List (List DirEntry)) :
    Program (Except Failure (Option Path)) :=
  match nextStop target pending with
  | none => return .ok none
  | some (entry, rest) =>
    if entry.isDir then
      match bound with
      | 0 => return .error .unfinished
      | bound + 1 => do
        match ← listDir entry.path with
        | .ok children => walkPending target bound (children :: rest)
        | .error e => return .error (.search entry.path e)
    else
      return .ok (some entry.path)
termination_by structural bound

/-- Walks through a directory for the first entry, not a directory, that ends with `target`. If the
directory does not exist there is none. -/
def walk (bound : Nat) (root target : Path) : Program (Except Failure (Option Path)) := do
  match ← listDir root with
  | .ok entries => walkPending target bound [entries]
  | .error e => if e.kind = .notFound then return .ok none else return .error (.search root e)

end Locator

/-- A locator: the directory of the applications, what it has found for an application and a
doctype, and how many walks it has made. -/
structure Locator where
  appsPath : Path
  found : List ((String × String) × Option Path)
  walks : Nat
  deriving Repr

namespace Locator

/-- A locator that has found nothing yet. -/
def new (appsPath : Path) : Locator :=
  ⟨appsPath, [], 0⟩

/-- What the locator remembers of an application and a doctype. -/
def remembered? (locator : Locator) (app doctype : String) : Option (Option Path) :=
  locator.found.lookup (app, doctype)

/-- Finds the schema file of a doctype of an application. A walk lists at most `bound` directories
below the one it starts in. -/
def locate (bound : Nat) (locator : Locator) (app doctype : String) :
    Program (Except Failure (Option Path) × Locator) :=
  match locator.remembered? app doctype with
  | some path => return (.ok path, locator)
  | none => do
    let walked := { locator with walks := locator.walks + 1 }
    match ← walk bound (locator.appsPath.join (.ofText app)) (schemaSuffix doctype) with
    | .error e => return (.error e, walked)
    | .ok path =>
      return (.ok path, { walked with found := ((app, doctype), path) :: locator.found })

end Locator

end DoctypeInterfaces
