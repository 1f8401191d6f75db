import DoctypeInterfaces.Proofs.Generation.Mishaps
import DoctypeInterfaces.Proofs.Generation.Writing
import DoctypeInterfaces.Proofs.Storage.Faults

namespace DoctypeInterfaces

open Storage

namespace Resolution

def prepare (resolving : Resolution Unit) (outputPath : Path) : Resolution Progress := do
  let earlier ← ofProgram (loadOutput outputPath)
  modify fun progress => { progress with interfaces := earlier }
  resolving
  get

def reportOf (resolved : Progress) (write : Option WriteResult) : Report where
  changed := resolved.changed
  skipped := resolved.skipped
  notFound := resolved.notFound
  total := resolved.interfaces.size
  write := write

variable {resolving : Resolution Unit} {options : GenerationOptions} {events : List Event}
  {before after : Progress}

theorem generationBy_eq_bind (resolving : Resolution Unit) (options : GenerationOptions) :
    generationBy resolving options =
      prepare resolving options.outputPath >>= fun resolved =>
        finish options >>= fun write => pure (reportOf resolved write) := by
  simp only [generationBy, prepare, bind_assoc]
  rfl

theorem obeys_prepare {rule : Rule} {outputPath : Path}
    (hload : Obeys rule (ofProgram (loadOutput outputPath))) (hresolve : Obeys rule resolving) :
    Obeys rule (prepare resolving outputPath) := by
  apply hload.bind
  intro earlier
  apply (obeys_modify _).bind
  intro _
  apply hresolve.bind
  intro _
  exact obeys_get

theorem looks_prepare (hlooks : Obeys lookRule resolving) (outputPath : Path) :
    Obeys lookRule (prepare resolving outputPath) :=
  obeys_prepare (obeys_ofProgram (looks_loadOutput outputPath)) hlooks

theorem mishaps_prepare (hmishaps : Obeys mishapRule resolving) (outputPath : Path) :
    Obeys mishapRule (prepare resolving outputPath) :=
  obeys_prepare (obeys_mishapRule_ofProgram (failsByMishap_loadOutput outputPath)) hmishaps

theorem eq_of_ends_prepare {outputPath : Path} {resolved : Progress}
    (h : Ends (prepare resolving outputPath) before events (.ok resolved) after) :
    resolved = after := by
  obtain ⟨_, _, _, _, _, hrest, rfl⟩ := ends_bind_ok.1 h
  rw [ends_modify_bind] at hrest
  obtain ⟨_, _, _, _, _, hlast, rfl⟩ := ends_bind_ok.1 hrest
  obtain ⟨-, hresolved, rfl⟩ := ends_get.1 hlast
  exact Except.ok.inj hresolved

theorem ends_conclude_iff {result : Except Failure Report} {resolved : Progress} :
    Ends (finish options >>= fun write => pure (reportOf resolved write)) before events result
        after ↔
      ∃ write, Ends (finish options) before events write after ∧
        result = write.map (reportOf resolved) := by
  rw [ends_bind]
  constructor
  · rintro (⟨write, first, middle, rest, hfinish, hpure, rfl⟩ | ⟨e, hfinish, rfl⟩)
    · obtain ⟨rfl, rfl, rfl⟩ := ends_pure.1 hpure
      rw [List.append_nil]
      exact ⟨.ok write, hfinish, rfl⟩
    · exact ⟨.error e, hfinish, rfl⟩
  · rintro ⟨write, hfinish, rfl⟩
    cases write with
    | ok write =>
      exact .inl ⟨write, events, after, [], hfinish, ends_pure.2 ⟨rfl, rfl, rfl⟩,
        (List.append_nil _).symm⟩
    | error e => exact .inr ⟨e, hfinish, rfl⟩

/-- The end of a dry run never fails, and makes no calls. -/
theorem exists_ends_dry_finish (appsPath outputPath : Path) (resolved : Progress) :
    ∃ after, Ends (finish ⟨appsPath, outputPath, true⟩) resolved []
      (.ok (if resolved.changed = 0 then none
        else some (.dryRun outputPath resolved.interfaces.render))) after := by
  by_cases hchanged : resolved.changed = 0
  · simp only [ends_finish_ok_iff, if_pos hchanged]
    exact ⟨_, trivial, trivial, rfl⟩
  · simp only [ends_finish_ok_iff, if_neg hchanged]
    exact ⟨_, _, rfl, execution_writeOutput_ok_iff.2 ⟨rfl, rfl⟩, rfl⟩

end Resolution

open Resolution

/-- What the result of a dry run tells of the real one: the events of the dry run are `looking`, and
those of the real one are `events`. -/
inductive Foretells (path : Path) (looking : List Event) :
    Except Failure Report → Except Failure Report → List Event → Prop where
  | failed (failure : Failure) : failure.isVerdict = false →
    Foretells path looking (.error failure) (.error failure) looking
  | unchanged (report : Report) : report.changed = 0 → report.write = none →
    Foretells path looking (.ok report) (.ok report) looking
  | changed (resolved : Progress) (writing : List Event) (written : Except Failure WriteResult) :
    resolved.changed ≠ 0 → Replaced path resolved.interfaces.render writing written →
    Foretells path looking
      (.ok (reportOf resolved (some (.dryRun path resolved.interfaces.render))))
      (written.map fun write => reportOf resolved (some write)) (looking ++ writing)

section Parts

variable {resolving : Resolution Unit} {appsPath outputPath : Path} {events : List Event}
  {before after : Progress} {result : Except Failure Report}

theorem foretells_of_ends_finish {resolved : Progress} {looking : List Event}
    {write : Except Failure (Option WriteResult)}
    (h : Ends (finish ⟨appsPath, outputPath, false⟩) resolved events write after) :
    Foretells outputPath looking
      (.ok (reportOf resolved (if resolved.changed = 0 then none
        else some (.dryRun outputPath resolved.interfaces.render))))
      (write.map (reportOf resolved)) (looking ++ events) := by
  cases write with
  | error failure =>
    obtain ⟨hchanged, -, -, hreplaced⟩ := ends_finish_error h
    rw [if_neg hchanged]
    exact .changed resolved events (.error failure) hchanged hreplaced
  | ok write =>
    rw [ends_finish_ok_iff] at h
    split at h
    · next hchanged =>
      obtain ⟨rfl, rfl, -⟩ := h
      rw [if_pos hchanged, List.append_nil]
      exact .unchanged (reportOf resolved none) hchanged rfl
    · next hchanged =>
      obtain ⟨result, rfl, hwrite, -⟩ := h
      rw [if_neg hchanged]
      exact .changed resolved events (.ok result) hchanged (replaced_of_execution hwrite)

/-- A dry run looks at the storage as the real run does, and foretells it. -/
theorem exists_dry_of_ends (hlooks : Obeys lookRule resolving)
    (hmishaps : Obeys mishapRule resolving)
    (h : Ends (generationBy resolving ⟨appsPath, outputPath, false⟩) before events result after) :
    ∃ looking dry dryAfter,
      Ends (generationBy resolving ⟨appsPath, outputPath, true⟩) before looking dry dryAfter ∧
      (∀ e ∈ looking, e.call.observes = true) ∧ looking <+: events ∧
      Foretells outputPath looking dry result events := by
  rw [generationBy_eq_bind] at h
  rcases ends_bind.1 h with ⟨resolved, looking, middle, writing, hprepare, hconclude, rfl⟩ |
    ⟨failure, hprepare, rfl⟩
  · obtain rfl := eq_of_ends_prepare hprepare
    obtain ⟨write, hfinish, rfl⟩ := ends_conclude_iff.1 hconclude
    obtain ⟨dryAfter, hdry⟩ := exists_ends_dry_finish appsPath outputPath resolved
    refine ⟨looking, _, dryAfter, ?_, looks_prepare hlooks _ _ _ _ _ hprepare,
      List.prefix_append _ _, foretells_of_ends_finish hfinish⟩
    rw [generationBy_eq_bind]
    exact ends_bind.2 (.inl ⟨resolved, looking, resolved, [], hprepare,
      ends_conclude_iff.2 ⟨_, hdry, rfl⟩, (List.append_nil _).symm⟩)
  · refine ⟨events, .error failure, after, ?_, looks_prepare hlooks _ _ _ _ _ hprepare,
      List.prefix_rfl, .failed failure (mishaps_prepare hmishaps _ _ _ _ _ hprepare failure rfl)⟩
    rw [generationBy_eq_bind]
    exact ends_bind.2 (.inr ⟨failure, hprepare, rfl⟩)

end Parts

/-- Whether a failure is one of writing the output. -/
def Failure.isOfWriting : Failure → Bool
  | .outputDir _ _ => true
  | .outputWrite _ _ => true
  | _ => false

def Report.figures (report : Report) : Report :=
  { report with write := none }

section Runs

variable {σ : Type} {reached : (c : Call) → StateM σ c.Answer} {memory : σ → Memory} {storage : σ}
  {resolving : Resolution Unit} {appsPath outputPath : Path} {dry real : RecordedRun σ}

/-- Whether a dry run agrees with a real one: it comes to the same, leaves the storage alone, and
tells what the real one has written. -/
structure DryRunAgrees (memory : σ → Memory) (storage : σ) (path : Path)
    (dry real : RecordedRun σ) : Prop where
  result : dry.result.map Report.figures = real.result.map Report.figures
  looks : ∀ e ∈ dry.events, e.call.observes = true
  untouched : (memory dry.storage).tree = (memory storage).tree
  kind : ∀ told report, dry.result = .ok told → real.result = .ok report →
    ((∃ p content, told.write = some (.dryRun p content)) ↔
      ∃ p size, report.write = some (.written p size))
  content : ∀ told p content, dry.result = .ok told → told.write = some (.dryRun p content) →
    p = path ∧
      (memory real.storage).tree.files.get? path = some (Text.encodeUtf8 content)

theorem get?_of_writeEvents {path : Path} {content : String} {s s' : σ}
    (hmemory : IsBehind memory reached)
    (h : Transcript reached s (writeEvents path content) s') :
    (memory s').tree.files.get? path = some (Text.encodeUtf8 content) := by
  rw [writeEvents] at h
  obtain ⟨middle, -, hlast⟩ := Transcript.append_iff.1 h
  obtain ⟨hok, rfl⟩ := Transcript.singleton_iff.1 hlast
  exact hmemory.get?_of_writeAtomic hok.symm

section Agreement

variable (hlooks : Obeys lookRule resolving) (hmishaps : Obeys mishapRule resolving)
  (hdry : dry = recordBy reached storage ⟨appsPath, outputPath, true⟩ resolving)
  (hreal : real = recordBy reached storage ⟨appsPath, outputPath, false⟩ resolving)

include hlooks hmishaps hdry hreal

/-- A dry run foretells the real run on the same storage. -/
theorem foretells_of_recordBy :
    (∀ e ∈ dry.events, e.call.observes = true) ∧
      Foretells outputPath dry.events dry.result real.result real.events := by
  obtain ⟨hends, htranscript⟩ := recordBy_eq_iff.1 hreal.symm
  obtain ⟨looking, told, after, hdryEnds, hlooked, ⟨writing, hwriting⟩, hforetells⟩ :=
    exists_dry_of_ends hlooks hmishaps hends
  rw [← hwriting] at htranscript
  obtain ⟨middle, hlooking, -⟩ := Transcript.append_iff.1 htranscript
  have hrun : recordBy reached storage ⟨appsPath, outputPath, true⟩ resolving =
      ⟨told, after, middle, looking⟩ := recordBy_eq_iff.2 ⟨hdryEnds, hlooking⟩
  rw [hdry, hrun]
  exact ⟨hlooked, hforetells⟩

theorem dryRunAgrees_of_recordBy (hmemory : IsBehind memory reached)
    (hwriting : ∀ failure, real.result = .error failure → failure.isOfWriting = false) :
    DryRunAgrees memory storage outputPath dry real := by
  obtain ⟨hlooked, hforetells⟩ := foretells_of_recordBy hlooks hmishaps hdry hreal
  obtain ⟨-, hdryTranscript⟩ := recordBy_eq_iff.1 hdry.symm
  obtain ⟨-, htranscript⟩ := recordBy_eq_iff.1 hreal.symm
  have huntouched := hmemory.tree_eq_of_transcript hdryTranscript hlooked
  generalize hdryResult : dry.result = told at hforetells
  generalize hrealResult : real.result = result at hforetells hwriting
  generalize real.events = events at hforetells htranscript
  cases hforetells with
  | failed failure =>
    constructor
    case result => rw [hdryResult, hrealResult]
    case looks => exact hlooked
    case untouched => exact huntouched
    case kind =>
      intro told report htold
      rw [hdryResult] at htold
      cases htold
    case content =>
      intro told p content htold
      rw [hdryResult] at htold
      cases htold
  | unchanged report _ hnone =>
    constructor
    case result => rw [hdryResult, hrealResult]
    case looks => exact hlooked
    case untouched => exact huntouched
    case kind =>
      intro told report' htold hreport
      rw [hdryResult] at htold
      rw [hrealResult] at hreport
      obtain rfl := Except.ok.inj htold
      obtain rfl := Except.ok.inj hreport
      simp [hnone]
    case content =>
      intro told p content htold hwrite
      rw [hdryResult] at htold
      obtain rfl := Except.ok.inj htold
      rw [hnone] at hwrite
      cases hwrite
  | changed resolved writing written _ hreplaced =>
    cases hreplaced with
    | dirFailed dir e => cases hwriting _ rfl
    | writeFailed e => cases hwriting _ rfl
    | written =>
      obtain ⟨middle, -, hwritten⟩ := Transcript.append_iff.1 htranscript
      constructor
      case result =>
        rw [hdryResult, hrealResult]
        rfl
      case looks => exact hlooked
      case untouched => exact huntouched
      case kind =>
        intro told report htold hreport
        rw [hdryResult] at htold
        rw [hrealResult] at hreport
        obtain rfl := Except.ok.inj htold
        obtain rfl := Except.ok.inj hreport
        exact iff_of_true ⟨_, _, rfl⟩ ⟨_, _, rfl⟩
      case content =>
        intro told p content htold hwrite
        rw [hdryResult] at htold
        obtain rfl := Except.ok.inj htold
        obtain ⟨rfl, rfl⟩ := WriteResult.dryRun.inj (Option.some.inj hwrite)
        exact ⟨rfl, get?_of_writeEvents hmemory hwritten⟩

end Agreement

end Runs

end DoctypeInterfaces
