import DoctypeInterfaces.Generation

namespace DoctypeInterfaces

open Storage

namespace Progress

variable (progress : Progress)

def searching : Progress :=
  { progress with locator := { progress.locator with walks := progress.locator.walks + 1 } }

def remembering (app doctype : String) (path? : Option Path) : Progress :=
  { progress with locator := { progress.locator with
      found := ((app, doctype), path?) :: progress.locator.found } }

end Progress

namespace Scheduling

inductive Stage where
  | requested
  /-- It waits for the answer to a call of the walk for its schema file. -/
  | searching (c : Call) (next : c.Answer → Program (Except Failure (Option Path)))
  /-- It waits for the answer to a call that reads its schema. -/
  | loading (c : Call) (next : c.Answer → Program (Except Failure DoctypeSchema))
  | awaiting (schema : DoctypeSchema)
  /-- It has ended; without an outcome if its doctype had been processed before it began. -/
  | ended (outcome : Option Outcome)

def Stage.isRequested : Stage → Bool
  | .requested => true
  | _ => false

def Stage.isEnded : Stage → Bool
  | .ended _ => true
  | _ => false

structure Job where
  parent : Option Nat
  app : String
  doctype : String
  stage : Stage

structure Move where
  progress : Progress
  stage : Stage
  children : List String

section Moves

variable (bound : Nat) (progress : Progress) (app doctype : String)

/-- Goes on to read the schema of a doctype, and settles the doctype. -/
def loadMove : Program (Except Failure DoctypeSchema) → Except Failure Move
  | .call c next => .ok ⟨progress, .loading c next, []⟩
  | .done (.error failure) => .error failure
  | .done (.ok schema) =>
    if progress.interfaces.isCurrent schema.interfaceName schema.modified then
      .ok ⟨progress.passed doctype, .ended (some .skipped), []⟩
    else
      .ok ⟨progress.announced doctype, .awaiting schema, schema.related.map doctypeDirName⟩

def foundMove : Option Path → Except Failure Move
  | none => .ok ⟨progress.missed doctype, .ended (some .notFound), []⟩
  | some path => loadMove progress doctype (loadSchema path)

def searchMove : Program (Except Failure (Option Path)) → Except Failure Move
  | .call c next => .ok ⟨progress, .searching c next, []⟩
  | .done (.error failure) => .error failure
  | .done (.ok path?) => foundMove (progress.remembering app doctype path?) doctype path?

def beginMove : Except Failure Move :=
  if progress.processed.contains doctype then
    .ok ⟨progress, .ended none, []⟩
  else
    match progress.locator.remembered? app doctype with
    | some path? => foundMove (progress.entered doctype) doctype path?
    | none =>
      searchMove (progress.entered doctype).searching app doctype
        (Locator.walk bound (progress.locator.appsPath.join (.ofText app)) (schemaSuffix doctype))

/-- What a job does when it is not waiting for its child jobs, and has not ended: it begins, or goes
on with the answer that it has waited for. -/
def resume (job : Job) : Option (Program (Except Failure Move)) :=
  match job.stage with
  | .requested => some (.done (beginMove bound progress job.app job.doctype))
  | .searching c next =>
    some (.call c fun answer => .done (searchMove progress job.app job.doctype (next answer)))
  | .loading c next =>
    some (.call c fun answer => .done (loadMove progress job.doctype (next answer)))
  | .awaiting _ => none
  | .ended _ => none

end Moves

def requestedBy (parent : Option Nat) (requests : List (String × String)) : List Job :=
  requests.map fun request => ⟨parent, request.1, request.2, .requested⟩

/-- The jobs when one of them has moved on to a stage and has requested child doctypes. -/
def moved (front : List Job) (job : Job) (back : List Job) (stage : Stage)
    (children : List String) : List Job :=
  front ++ { job with stage := stage } ::
    (back ++ requestedBy (some front.length) (children.map fun child => (job.app, child)))

section Turns

variable (bound : Nat)

def goOn (front : List Job) (job : Job) (back : List Job) : Resolution (List Job) := do
  match job.stage with
  | .awaiting schema =>
    if (front ++ job :: back).all fun child =>
        child.parent != some front.length || child.stage.isEnded then
      Resolution.emit schema.toInterface
      return moved front job back (.ended (some .updated)) []
    else
      return front ++ job :: back
  | _ =>
    match resume bound (← get) job with
    | none => return front ++ job :: back
    | some program =>
      let move ← Resolution.ofProgram program
      set move.progress
      return moved front job back move.stage move.children

def takeTurn (position : Nat) (jobs : List Job) : Resolution (List Job) :=
  match jobs.drop position with
  | [] => return jobs
  | job :: back => goOn bound (jobs.take position) job back

/-- The jobs go on in turns, at most so often, until all of them have ended. The position of the one
whose turn it is may depend on the jobs and on how many turns are left. -/
def proceed (turnOf : Nat → List Job → Nat) : Nat → List Job → Resolution Unit
  | 0, jobs => if jobs.all (·.stage.isEnded) then return () else throw .unfinished
  | turns + 1, jobs => do
    if jobs.all (·.stage.isEnded) then
      return ()
    else
      proceed turnOf turns (← takeTurn bound (turnOf turns jobs) jobs)

end Turns

/-- The position of the job whose turn it is if jobs begin as soon as they have been requested. -/
def promptTurn (turn : Nat) (jobs : List Job) : Nat :=
  (jobs.findIdx? (·.stage.isRequested)).getD (turn % jobs.length)

/-- The order in which the requested doctypes are resolved. -/
inductive Schedule where
  /-- One after the other, each with its child doctypes, as on a storage that answers at once. -/
  | depthFirst
  /-- By jobs that go on in turns, at most so often. -/
  | inTurns (turns : Nat) (turnOf : Nat → List Job → Nat)

/-- Resolves all requested doctypes. -/
def Schedule.resolve (schedule : Schedule) (bound : Nat) (roots : Roots) : Resolution Unit :=
  match schedule with
  | .depthFirst => Resolution.resolveRoots bound roots
  | .inTurns turns turnOf => proceed bound turnOf turns (requestedBy none roots.pairs)

end Scheduling

end DoctypeInterfaces
