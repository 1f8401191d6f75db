import DoctypeInterfaces.Proofs.Generation.Fresh
import DoctypeInterfaces.Proofs.Scheduling.Turns

namespace DoctypeInterfaces.Scheduling

open Storage

/-- What does not change while jobs run. -/
structure Setting where
  view : (c : Call) → c.Answer
  bound : Nat
  appsPath : Path
  app : String

variable (setting : Setting)

def Setting.walk (doctype : String) : Program (Except Failure (Option Path)) :=
  Locator.walk setting.bound (setting.appsPath.join (.ofText setting.app)) (schemaSuffix doctype)

def advance (progress : Progress) (job : Job) : Option (Except Failure Move) :=
  (resume setting.bound progress job).map (·.result setting.view)

/-- A run, with its jobs in the order in which they were requested. -/
inductive State where
  | running (progress : Progress) (jobs : List Job)
  | failed (failure : Failure)

/-- The run when one of its jobs has made a move. -/
def State.after (front : List Job) (job : Job) (back : List Job) : Except Failure Move → State
  | .error failure => .failed failure
  | .ok move => .running move.progress (moved front job back move.stage move.children)

/-- The run when the requested doctypes have been listed. -/
def State.start (earlier : InterfaceSet) (roots : List String) : State :=
  .running (.onOutput setting.appsPath earlier)
    (requestedBy none (roots.map fun root => (setting.app, root)))

/-- One job goes on. -/
inductive Step : State → State → Prop where
  | advanced {progress : Progress} {front back : List Job} {job : Job}
    {result : Except Failure Move} :
    advance setting progress job = some result →
    Step (.running progress (front ++ job :: back)) (.after front job back result)
  | joined {progress : Progress} {front back : List Job} {job : Job} {schema : DoctypeSchema} :
    job.stage = .awaiting schema →
    (∀ child ∈ front ++ job :: back, child.parent = some front.length → child.HasEnded) →
    Step (.running progress (front ++ job :: back))
      (.running (progress.emitted schema.toInterface)
        (moved front job back (.ended (some .updated)) []))

abbrev Runs : State → State → Prop :=
  Relation.ReflTransGen (Step setting)

/-- Whether a run can end like this: no job can go on. -/
def Finishes (start final : State) : Prop :=
  Runs setting start final ∧ ∀ next, ¬ Step setting final next

variable {setting} {before after progress : Progress} {front back jobs afterJobs : List Job}
  {job : Job} {events : List Event}

section Advance

variable {c : Call}

theorem advance_requested (h : job.stage = .requested) :
    advance setting progress job =
      some (beginMove setting.bound progress job.app job.doctype) := by
  rw [advance, resume, h]
  rfl

theorem advance_searching {next : c.Answer → Program (Except Failure (Option Path))}
    (h : job.stage = .searching c next) :
    advance setting progress job =
      some (searchMove progress job.app job.doctype (next (setting.view c))) := by
  rw [advance, resume, h]
  rfl

theorem advance_loading {next : c.Answer → Program (Except Failure DoctypeSchema)}
    (h : job.stage = .loading c next) :
    advance setting progress job =
      some (loadMove progress job.doctype (next (setting.view c))) := by
  rw [advance, resume, h]
  rfl

end Advance

inductive GoesOn (setting : Setting) (progress : Progress) (front : List Job) (job : Job)
    (back : List Job) : State → Prop where
  | advanced {result : Except Failure Move} :
    advance setting progress job = some result →
    GoesOn setting progress front job back (.after front job back result)
  | joined {schema : DoctypeSchema} :
    job.stage = .awaiting schema →
    (∀ child ∈ front ++ job :: back, child.parent = some front.length → child.HasEnded) →
    GoesOn setting progress front job back
      (.running (progress.emitted schema.toInterface)
        (moved front job back (.ended (some .updated)) []))

theorem GoesOn.step {next : State} (h : GoesOn setting progress front job back next) :
    Step setting (.running progress (front ++ job :: back)) next := by
  cases h with
  | advanced hadvance => exact .advanced hadvance
  | joined hstage hchildren => exact .joined hstage hchildren

theorem GoesOn.of_turn (h : Turn setting.bound before front job back events after afterJobs)
    (hview : ∀ e ∈ events, e.answer = setting.view e.call) :
    GoesOn setting before front job back (.running after afterJobs) := by
  cases h with
  | @advanced _ program move hresume hexecution =>
    have hadvance : advance setting before job = some (.ok move) := by
      rw [advance, hresume, Option.map_some, Program.result_eq_iff.2 ⟨events, hexecution, hview⟩]
    exact .advanced hadvance
  | joined hstage hchildren => exact .joined hstage hchildren

theorem runs_of_turns (h : Turns setting.bound before jobs events after afterJobs)
    (hview : ∀ e ∈ events, e.answer = setting.view e.call) :
    Runs setting (.running before jobs) (.running after afterJobs) := by
  induction h with
  | refl => exact .refl
  | head hturn _ ih =>
    obtain ⟨hfirst, hrest⟩ := List.forall_mem_append.1 hview
    exact .head (GoesOn.of_turn hturn hfirst).step (ih hrest)

theorem not_step_of_ended (hended : ∀ job ∈ jobs, job.HasEnded) (next : State) :
    ¬ Step setting (.running progress jobs) next := by
  intro hstep
  cases hstep with
  | @advanced _ front back job result hadvance =>
    obtain ⟨outcome, hstage⟩ := hended job (by simp)
    simp [advance, resume, hstage] at hadvance
  | @joined _ front back job schema hstage =>
    obtain ⟨outcome, hother⟩ := hended job (by simp)
    rw [hstage] at hother
    cases hother

end DoctypeInterfaces.Scheduling
