import DoctypeInterfaces.CommandLine.Execution
import DoctypeInterfaces.Proofs.Generation.AllOrNothing
import DoctypeInterfaces.Proofs.Generation.DryRun
import DoctypeInterfaces.Proofs.Scheduling.Tally

namespace DoctypeInterfaces

open Storage Scheduling

theorem failsByMishap_loadConfig (path : Option Path) : (loadConfig path).FailsByMishap := by
  rw [loadConfig]
  apply Program.failsByMishap_bind
  intro found
  split
  · apply Program.failsByMishap_bind
    intro answer
    split
    · exact Program.failsByMishap_done_error rfl
    · split
      · exact Program.failsByMishap_done_ok _
      · exact Program.failsByMishap_done_error rfl
  · exact Program.failsByMishap_done_ok _

theorem looks_loadConfig (path : Option Path) : (loadConfig path).Looks := by
  rw [loadConfig]
  apply Program.Looks.bind
  · exact Program.looks_call rfl fun _ => Program.looks_done _
  · intro found
    split
    · apply Program.Looks.bind
      · exact Program.looks_call rfl fun _ => Program.looks_done _
      · intro answer
        split
        · exact Program.looks_done _
        · split
          · exact Program.looks_done _
          · exact Program.looks_done _
    · exact Program.looks_done _

namespace CommandLine

theorem failsByMishap_configOf (input : Input) : (configOf input).FailsByMishap := by
  intro events failure h
  rw [configOf] at h
  obtain ⟨loaded, first, rest, hload, hrest, -⟩ := Storage.Execution.bind_iff.1 h
  cases loaded with
  | error e =>
    rw [Except.error.inj (Storage.Execution.done_iff.1 hrest).2]
    exact failsByMishap_loadConfig input.config first e hload
  | ok config =>
    have hresult := (Storage.Execution.done_iff.1 hrest).2
    rw [Config.validate] at hresult
    split at hresult
    · rw [Except.error.inj hresult]
      rfl
    · cases hresult

theorem looks_configOf (input : Input) : (configOf input).Looks := by
  rw [configOf]
  apply (looks_loadConfig input.config).bind
  intro loaded
  cases loaded with
  | error e => exact Program.looks_done _
  | ok config => exact Program.looks_done _

section Commands

variable {schedule : Schedule} {bound : Nat} {config : Config} {verbose : Bool}
  {events : List Event} {execution : Execution} {resolving : Resolution Unit}

def checkFailure? (output : Path) : Except Failure Report → Option Failure
  | .error failure => some failure
  | .ok report => if report.changed = 0 then none else some (.outOfDate report.changed output)

theorem exists_ends_of_generate {options : GenerationOptions}
    {outcome : Except Failure Report × StatusLog}
    (h : Storage.Execution (DoctypeInterfaces.generate resolving options) events outcome) :
    ∃ after, Resolution.Ends (generationBy resolving options) (.start options.appsPath) events
      outcome.1 after := by
  rw [DoctypeInterfaces.generate, bind_pure_comp, Storage.Execution.map_iff] at h
  obtain ⟨⟨result, after⟩, hends, rfl⟩ := h
  exact ⟨after, hends⟩

/-- What follows a generation and makes no calls fails as the result of the generation says. -/
theorem exists_ends_of_generate_bind {options : GenerationOptions}
    {next : Except Failure Report × StatusLog → Storage.Program Execution}
    {failureOf : Except Failure Report → Option Failure}
    (h : Storage.Execution (DoctypeInterfaces.generate resolving options >>= next) events execution)
    (hnext : ∀ outcome, ∃ ended : Execution, next outcome = .done ended ∧
      ended.failure = failureOf outcome.1) :
    ∃ result after, Resolution.Ends (generationBy resolving options) (.start options.appsPath)
      events result after ∧ execution.failure = failureOf result := by
  rw [Storage.Execution.bind_iff] at h
  obtain ⟨⟨result, messages⟩, first, rest, hgenerate, hrest, rfl⟩ := h
  obtain ⟨after, hends⟩ := exists_ends_of_generate hgenerate
  obtain ⟨ended, hdone, hfailure⟩ := hnext (result, messages)
  rw [hdone] at hrest
  obtain ⟨rfl, rfl⟩ := Storage.Execution.done_iff.1 hrest
  rw [List.append_nil]
  exact ⟨result, after, hends, hfailure⟩

theorem exists_ends_of_runGeneration
    (h : Storage.Execution (runGeneration schedule bound ⟨config, false, verbose⟩) events
      execution) :
    ∃ result after, Resolution.Ends
        (generationBy (schedule.resolve bound config.roots) (config.options false))
        (.start config.appsPath) events result after ∧ execution.failure = failure? result := by
  rw [runGeneration] at h
  refine exists_ends_of_generate_bind h fun ⟨result, messages⟩ => ?_
  cases result with
  | error failure => exact ⟨_, rfl, rfl⟩
  | ok report => exact ⟨_, rfl, rfl⟩

theorem exists_ends_of_runCheck
    (h : Storage.Execution (runCheck schedule bound config) events execution) :
    ∃ result after, Resolution.Ends
        (generationBy (schedule.resolve bound config.roots) (config.options true))
        (.start config.appsPath) events result after ∧
      execution.failure = checkFailure? config.outputPath result := by
  rw [runCheck] at h
  refine exists_ends_of_generate_bind h fun ⟨result, messages⟩ => ?_
  cases result with
  | error failure => exact ⟨_, rfl, rfl⟩
  | ok report =>
    dsimp only
    split
    · next hchanges =>
      have hchanged : report.changed ≠ 0 := Nat.ne_of_gt (of_decide_eq_true hchanges)
      rw [checkFailure?, if_neg hchanged]
      exact ⟨_, rfl, rfl⟩
    · next hchanges =>
      have hchanged : report.changed = 0 := by simpa [Report.hasChanges] using hchanges
      rw [checkFailure?, if_pos hchanged]
      exact ⟨_, rfl, rfl⟩

end Commands

section Recording

variable {σ : Type} {reached : (c : Call) → StateM σ c.Answer} {memory : σ → Memory} {storage : σ}
  {schedule : Schedule} {bound : Nat} {input : Input} {verbose : Bool}

/-- A command as it went on a storage: what it has come to, what is left, and its calls. -/
def recordCommand (reached : (c : Call) → StateM σ c.Answer) (storage : σ) (schedule : Schedule)
    (bound : Nat) (command : Command) : Execution × Recorded σ :=
  ((command.execute schedule bound).run (Recorded.answer reached)).run ⟨storage, []⟩

theorem recordCommand_iff {command : Command} {recorded : Execution × Recorded σ} :
    recordCommand reached storage schedule bound command = recorded ↔
      Storage.Execution (command.execute schedule bound) recorded.2.events recorded.1 ∧
        Transcript reached storage recorded.2.events recorded.2.storage :=
  Program.run_recorded_iff

/-- What a check tells of generating with the configuration `loaded`: it fails before it writes, has
nothing to write, or writes its output in the end. -/
inductive CheckForetells (loaded : Except Failure Config) (checked generated : Execution) :
    List Event → Prop where
  | failed (failure : Failure) {events : List Event} : failure.isVerdict = false →
    checked.failure = some failure → generated.failure = some failure →
    (∀ e ∈ events, e.call.observes = true) → CheckForetells loaded checked generated events
  | upToDate {events : List Event} : checked.failure = none → generated.failure = none →
    (∀ e ∈ events, e.call.observes = true) → CheckForetells loaded checked generated events
  | outOfDate (config : Config) (count : Nat) (looking : List Event) (content : String) :
    loaded = .ok config → checked.failure = some (.outOfDate count config.outputPath) →
    generated.failure = none →
    CheckForetells loaded checked generated (looking ++ writeEvents config.outputPath content)

def configOn (reached : (c : Call) → StateM σ c.Answer) (storage : σ) (input : Input) :
    Except Failure Config :=
  (((configOf input).run reached).run storage).1

theorem configOn_eq {loaded : Except Failure Config} {events : List Event} {after : σ}
    (h : Storage.Execution (configOf input) events loaded)
    (htranscript : Transcript reached storage events after) :
    configOn reached storage input = loaded := by
  rw [configOn, Program.run_eq_iff.2 ⟨events, h, htranscript⟩]

theorem checkForetells_of_runs {config : Config} {loaded : Except Failure Config}
    {first checking generating : List Event} {checked generated : Execution} {after dryAfter : σ}
    (hloaded : loaded = .ok config) (hfirst : ∀ e ∈ first, e.call.observes = true)
    (hcheck : Storage.Execution (runCheck schedule bound config) checking checked)
    (hchecked : Transcript reached storage checking dryAfter)
    (hgenerate : Storage.Execution (runGeneration schedule bound ⟨config, false, verbose⟩)
      generating generated)
    (hgenerated : Transcript reached storage generating after)
    (hwriting : ∀ failure, generated.failure = some failure → failure.isOfWriting = false) :
    (∀ e ∈ checking, e.call.observes = true) ∧
      CheckForetells loaded checked generated (first ++ generating) := by
  obtain ⟨told, toldAfter, htold, hcheckFailure⟩ := exists_ends_of_runCheck hcheck
  obtain ⟨result, resultAfter, hresult, hfailure⟩ := exists_ends_of_runGeneration hgenerate
  obtain ⟨looking, dry, dryProgress, hdry, hlooks, ⟨writing, hprefix⟩, hforetells⟩ :=
    exists_dry_of_ends (obeys_lookRule_resolve _ _ _) (obeys_mishapRule_resolve _ _ _) hresult
  have hlooked := hgenerated
  rw [← hprefix] at hlooked
  obtain ⟨middle, hlooked, -⟩ := Transcript.append_iff.1 hlooked
  obtain ⟨rfl, hsame, -⟩ := Storage.Execution.unique_of_transcript hdry hlooked htold hchecked
  obtain ⟨rfl, -⟩ := Prod.mk.inj hsame
  have hall : ∀ e ∈ first ++ checking, e.call.observes = true :=
    List.forall_mem_append.2 ⟨hfirst, hlooks⟩
  refine ⟨hlooks, ?_⟩
  cases hforetells with
  | failed failure hmishap => exact .failed failure hmishap hcheckFailure hfailure hall
  | unchanged report hunchanged _ =>
    rw [checkFailure?, if_pos hunchanged] at hcheckFailure
    exact .upToDate hcheckFailure hfailure hall
  | changed resolved writing written hchanged hreplaced =>
    have hcount : (Resolution.reportOf resolved
      (some (.dryRun config.outputPath resolved.interfaces.render))).changed ≠ 0 := hchanged
    rw [checkFailure?] at hcheckFailure
    cases hreplaced with
    | dirFailed dir e => cases hwriting _ hfailure
    | writeFailed e => cases hwriting _ hfailure
    | written =>
      rw [← List.append_assoc]
      exact .outOfDate config _ _ _ hloaded (hcheckFailure.trans (if_neg hcount)) hfailure

theorem checkForetells_of_recordCommand {checked generated : Execution × Recorded σ}
    (hchecked : checked = recordCommand reached storage schedule bound (.check input))
    (hgenerated : generated =
      recordCommand reached storage schedule bound (.generate input false false verbose))
    (hwriting : ∀ failure, generated.1.failure = some failure → failure.isOfWriting = false) :
    (∀ e ∈ checked.2.events, e.call.observes = true) ∧
      CheckForetells (configOn reached storage input) checked.1 generated.1
        generated.2.events := by
  obtain ⟨hcheck, hcheckTranscript⟩ := recordCommand_iff.1 hchecked.symm
  obtain ⟨hgenerate, hgenerateTranscript⟩ := recordCommand_iff.1 hgenerated.symm
  rw [Command.execute] at hcheck
  rw [Command.execute] at hgenerate
  obtain ⟨loaded, first, rest, hload, hrest, hevents⟩ := Storage.Execution.bind_iff.1 hgenerate
  obtain ⟨loaded', first', rest', hload', hrest', hevents'⟩ :=
    Storage.Execution.bind_iff.1 hcheck
  rw [hevents] at hgenerateTranscript
  rw [hevents'] at hcheckTranscript
  obtain ⟨middle, hfirst, hlater⟩ := Transcript.append_iff.1 hgenerateTranscript
  obtain ⟨middle', hfirst', hlater'⟩ := Transcript.append_iff.1 hcheckTranscript
  obtain ⟨rfl, rfl, rfl⟩ :=
    Storage.Execution.unique_of_transcript hload hfirst hload' hfirst'
  have hlooks := looks_configOf input first' loaded' hload
  rw [configOn_eq hload hfirst, hevents, hevents']
  cases loaded' with
  | error failure =>
    obtain ⟨rfl, hended⟩ := Storage.Execution.done_iff.1 hrest
    obtain ⟨rfl, hended'⟩ := Storage.Execution.done_iff.1 hrest'
    rw [List.append_nil, hended, hended']
    exact ⟨hlooks, .failed failure (failsByMishap_configOf input _ _ hload) rfl rfl hlooks⟩
  | ok config =>
    obtain ⟨hcheckLooks, hforetells⟩ :=
      checkForetells_of_runs rfl hlooks hrest' hlater' hrest hlater hwriting
    exact ⟨List.forall_mem_append.2 ⟨hlooks, hcheckLooks⟩, hforetells⟩

/-- Whether the exit code of a check is what generating would come to. -/
structure CheckAgrees (memory : σ → Memory) (reached : (c : Call) → StateM σ c.Answer)
    (storage : σ) (input : Input) (checked generated : Execution × Recorded σ) : Prop where
  looks : ∀ e ∈ checked.2.events, e.call.observes = true
  upToDate : checked.1.exitCode = 0 ↔
    generated.1.failure = none ∧ ∀ e ∈ generated.2.events, e.call.observes = true
  outOfDate : checked.1.exitCode = 2 ↔
    generated.1.failure = none ∧ ∃ e ∈ generated.2.events, e.call.kind = .writeAtomic
  failed : checked.1.exitCode = 1 ↔
    generated.1.failure.isSome = true ∧ ∀ e ∈ generated.2.events, e.call.observes = true
  untouched : checked.1.exitCode ≠ 2 → (memory generated.2.storage).tree = (memory storage).tree
  rewritten : checked.1.exitCode = 2 → ∃ config content,
    configOn reached storage input = .ok config ∧
    generated.2.events.getLast? =
      some ⟨.writeAtomic config.outputPath (Text.encodeUtf8 content), .ok ()⟩ ∧
    (memory generated.2.storage).tree.files.get? config.outputPath =
      some (Text.encodeUtf8 content)

theorem exitCode_of_none {execution : Execution} (h : execution.failure = none) :
    execution.exitCode = 0 := by
  rw [Execution.exitCode, h]

theorem exitCode_of_some {execution : Execution} {failure : Failure}
    (h : execution.failure = some failure) :
    execution.exitCode = if failure.isVerdict then 2 else 1 := by
  rw [Execution.exitCode, h]

theorem checkAgrees_of_foretells {checked generated : Execution × Recorded σ}
    (hmemory : IsBehind memory reached)
    (htranscript : Transcript reached storage generated.2.events generated.2.storage)
    (hlooks : ∀ e ∈ checked.2.events, e.call.observes = true)
    (h : CheckForetells (configOn reached storage input) checked.1 generated.1
      generated.2.events) :
    CheckAgrees memory reached storage input checked generated := by
  have hunwritten : (∀ e ∈ generated.2.events, e.call.observes = true) →
      ¬ ∃ e ∈ generated.2.events, e.call.kind = .writeAtomic := by
    rintro hobserves ⟨e, he, hkind⟩
    exact kind_ne_of_observes (hobserves e he) hkind
  generalize hevents : generated.2.events = events at h htranscript hunwritten
  cases h with
  | failed failure hmishap hchecked hgenerated hobserves =>
    have hcode : checked.1.exitCode = 1 := by
      rw [exitCode_of_some hchecked, hmishap]
      rfl
    constructor
    case looks => exact hlooks
    case upToDate => simp [hcode, hgenerated]
    case outOfDate => simp [hcode, hgenerated]
    case failed =>
      rw [hcode, hgenerated, hevents]
      exact iff_of_true rfl ⟨rfl, hobserves⟩
    case untouched => exact fun _ => hmemory.tree_eq_of_transcript htranscript hobserves
    case rewritten => simp [hcode]
  | upToDate hchecked hgenerated hobserves =>
    have hcode : checked.1.exitCode = 0 := exitCode_of_none hchecked
    constructor
    case looks => exact hlooks
    case upToDate =>
      rw [hcode, hgenerated, hevents]
      exact iff_of_true rfl ⟨rfl, hobserves⟩
    case outOfDate =>
      rw [hcode, hevents]
      exact iff_of_false (by decide) fun h => hunwritten hobserves h.2
    case failed => simp [hcode, hgenerated]
    case untouched => exact fun _ => hmemory.tree_eq_of_transcript htranscript hobserves
    case rewritten => simp [hcode]
  | outOfDate config count looking content hconfig hchecked hgenerated =>
    have hcode : checked.1.exitCode = 2 := by
      rw [exitCode_of_some hchecked]
      rfl
    have hlast : (looking ++ writeEvents config.outputPath content).getLast? =
        some ⟨.writeAtomic config.outputPath (Text.encodeUtf8 content), .ok ()⟩ := by
      rw [writeEvents, ← List.append_assoc, List.getLast?_concat]
    have hwrote := List.mem_of_getLast? hlast
    have hnotLooking : ¬ ∀ e ∈ looking ++ writeEvents config.outputPath content,
        e.call.observes = true := fun hobserves => Bool.false_ne_true (hobserves _ hwrote)
    obtain ⟨middle, -, hwriting⟩ := Transcript.append_iff.1 htranscript
    constructor
    case looks => exact hlooks
    case upToDate =>
      rw [hcode, hevents]
      exact iff_of_false (by decide) fun h => hnotLooking h.2
    case outOfDate =>
      rw [hcode, hgenerated, hevents]
      exact iff_of_true rfl ⟨rfl, _, hwrote, rfl⟩
    case failed => simp [hcode, hgenerated]
    case untouched => exact fun hne => absurd hcode hne
    case rewritten =>
      intro _
      rw [hevents]
      exact ⟨config, content, hconfig, hlast, get?_of_writeEvents hmemory hwriting⟩

/-- Dry runs agree with real runs, and so does checking with generating, wherever the real run does
not fail in writing its output. -/
theorem dry_run_and_check_agree (hmemory : IsBehind memory reached) (storage : σ)
    (schedule : Schedule) (bound : Nat) :
    (∀ (appsPath outputPath : Path) (roots : Roots) (dry real : RecordedRun σ),
      dry = recordBy reached storage ⟨appsPath, outputPath, true⟩ (schedule.resolve bound roots) →
      real = recordBy reached storage ⟨appsPath, outputPath, false⟩
        (schedule.resolve bound roots) →
      (∀ failure, real.result = .error failure → failure.isOfWriting = false) →
      DryRunAgrees memory storage outputPath dry real) ∧
    ∀ (input : Input) (verbose : Bool) (checked generated : Execution × Recorded σ),
      checked = recordCommand reached storage schedule bound (.check input) →
      generated =
        recordCommand reached storage schedule bound (.generate input false false verbose) →
      (∀ failure, generated.1.failure = some failure → failure.isOfWriting = false) →
      CheckAgrees memory reached storage input checked generated := by
  constructor
  · intro appsPath outputPath roots dry real hdry hreal hwriting
    exact dryRunAgrees_of_recordBy (obeys_lookRule_resolve _ _ _) (obeys_mishapRule_resolve _ _ _)
      hdry hreal hmemory hwriting
  · intro input verbose checked generated hchecked hgenerated hwriting
    obtain ⟨hlooks, hforetells⟩ := checkForetells_of_recordCommand hchecked hgenerated hwriting
    obtain ⟨-, htranscript⟩ := recordCommand_iff.1 hgenerated.symm
    exact checkAgrees_of_foretells hmemory htranscript hlooks hforetells

end Recording

section Bills

def billInput : Input :=
  ⟨none, ⟨some (.ofText "/"), some (.ofText "/t"), [("s", "b")]⟩⟩

theorem billGeneration :
    (recordCommand Memory.answer billStorage billSchedule 4
        (.generate billInput false false false)).1.failure.isNone = true ∧
      (recordCommand Memory.answer billStorage billSchedule 4
        (.generate billInput false false false)).2.events.any (fun e =>
          e.call.kind = .writeAtomic) = true ∧
      (recordBy Memory.answer billStorage billOptions
        (billSchedule.resolve 4 billRoots)).result.toOption.isSome = true := by
  decide +kernel

/-- The bills are not up to date, since generating them writes an output. -/
theorem bills_out_of_date :
    DryRunAgrees id billStorage (.ofText "/t")
        (recordBy Memory.answer billStorage { billOptions with dryRun := true }
          (billSchedule.resolve 4 billRoots))
        (recordBy Memory.answer billStorage billOptions (billSchedule.resolve 4 billRoots)) ∧
      (recordCommand Memory.answer billStorage billSchedule 4
        (.check billInput)).1.exitCode = 2 := by
  obtain ⟨hrun, hcheck⟩ := dry_run_and_check_agree Memory.isBehind billStorage billSchedule 4
  constructor
  · obtain ⟨report, hok⟩ := exists_report billGeneration.2.2
    apply hrun _ _ _ _ _ rfl rfl
    intro failure hfailure
    cases hok.symm.trans hfailure
  · obtain ⟨hnone, hwrote, -⟩ := billGeneration
    have hfailure := Option.isNone_iff_eq_none.1 hnone
    have hagrees := hcheck billInput false _ _ rfl rfl (by simp [hfailure])
    apply hagrees.outOfDate.2
    obtain ⟨e, he, hkind⟩ := List.any_eq_true.1 hwrote
    exact ⟨hfailure, e, he, of_decide_eq_true hkind⟩

end Bills

end CommandLine

end DoctypeInterfaces
