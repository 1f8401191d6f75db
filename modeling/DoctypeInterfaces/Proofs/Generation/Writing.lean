import DoctypeInterfaces.Proofs.Generation.Effects
import DoctypeInterfaces.Proofs.Generation.Looking
import DoctypeInterfaces.Proofs.Generation.Run

namespace DoctypeInterfaces

open Storage

section Parts

variable {bound : Nat} {options : GenerationOptions} {roots : Roots} {events : List Event}
  {before after : Progress} {path : Path} {content : String}

/-- The call that creates the directory of an output, answered without error. -/
def dirEvents (path : Path) : List Event :=
  (path.dir?.map fun dir => ⟨.createDirAll dir, .ok ()⟩).toList

/-- How an output is replaced, with the result of that. -/
inductive Replaced (path : Path) (content : String) :
    List Event → Except Failure WriteResult → Prop where
  | dirFailed (dir : Path) (e : IoError) : path.dir? = some dir →
    Replaced path content [⟨.createDirAll dir, .error e⟩] (.error (.outputDir dir e))
  | writeFailed (e : IoError) :
    Replaced path content
      (dirEvents path ++ [⟨.writeAtomic path (Text.encodeUtf8 content), .error e⟩])
      (.error (.outputWrite path e))
  | written :
    Replaced path content (writeEvents path content)
      (.ok (.written path (Text.encodeUtf8 content).length))

theorem execution_ensureOutputDir_error {failure : Failure}
    (h : Execution (ensureOutputDir path) events (.error failure)) :
    ∃ dir e, path.dir? = some dir ∧ events = [⟨.createDirAll dir, .error e⟩] ∧
      failure = .outputDir dir e := by
  rw [ensureOutputDir] at h
  cases hdir : path.dir? with
  | none =>
    rw [hdir] at h
    cases (Execution.done_iff.1 h).2
  | some dir =>
    rw [hdir] at h
    dsimp only at h
    rw [createDirAll, Program.ask_bind] at h
    obtain ⟨answer, rest, rfl, hrest⟩ := Execution.call_iff.1 h
    obtain ⟨rfl, hfailure⟩ := Execution.done_iff.1 hrest
    cases answer with
    | ok => cases hfailure
    | error e => exact ⟨dir, e, rfl, rfl, Except.error.inj hfailure⟩

theorem replaced_of_execution {result : Except Failure WriteResult}
    (h : Execution (replaceOutput path content) events result) :
    Replaced path content events result := by
  cases result with
  | ok written =>
    obtain ⟨rfl, rfl⟩ := execution_replaceOutput_ok_iff.1 h
    exact .written
  | error failure =>
    rw [replaceOutput] at h
    obtain ⟨ensured, first, rest, hensured, hrest, rfl⟩ := Execution.bind_iff.1 h
    cases ensured with
    | error failure' =>
      obtain ⟨rfl, hfailure⟩ := Execution.done_iff.1 hrest
      obtain ⟨dir, e, hdir, rfl, rfl⟩ := execution_ensureOutputDir_error hensured
      rw [Except.error.inj hfailure, List.append_nil]
      exact .dirFailed dir e hdir
    | ok =>
      obtain rfl := execution_ensureOutputDir_ok_iff.1 hensured
      dsimp only at hrest
      rw [writeAtomic, Program.ask_bind] at hrest
      obtain ⟨answer, later, rfl, hlater⟩ := Execution.call_iff.1 hrest
      cases answer with
      | ok =>
        cases (Execution.done_iff.1 hlater).2
      | error e =>
        obtain ⟨rfl, hfailure⟩ := Execution.done_iff.1 hlater
        rw [Except.error.inj hfailure]
        exact .writeFailed e

namespace Resolution

theorem ends_finish_error {failure : Failure}
    (h : Ends (finish options) before events (.error failure) after) :
    before.changed ≠ 0 ∧ options.dryRun = false ∧ after = before ∧
      Replaced options.outputPath before.interfaces.render events (.error failure) := by
  rw [finish, ends_get_bind] at h
  split at h
  · rw [say, ends_modify_bind] at h
    cases (ends_pure.1 h).2.1
  · next hchanged =>
    rcases ends_bind_error.1 h with ⟨_, _, _, _, _, hsay, rfl⟩ | hwritten
    · rw [say, ends_modify_bind] at hsay
      cases (ends_pure.1 hsay).2.1
    · obtain ⟨hwrite, rfl⟩ := ends_ofProgram.1 hwritten
      rw [writeOutput] at hwrite
      split at hwrite
      · cases (Execution.done_iff.1 hwrite).2
      · next hreal =>
        exact ⟨hchanged, Bool.eq_false_iff.2 hreal, rfl, replaced_of_execution hwrite⟩

/-- Where a run fails: in reading the earlier output, in resolving the requests, or at its end. -/
theorem cases_of_ends_generation_error {failure : Failure}
    (h : Ends (generation bound options roots) before events (.error failure) after) :
    Execution (loadOutput options.outputPath) events (.error failure) ∨
      ∃ earlier reading rest,
        Execution (loadOutput options.outputPath) reading (.ok earlier) ∧
        events = reading ++ rest ∧
        (Ends (resolveRoots bound roots) { before with interfaces := earlier } rest
            (.error failure) after ∨
          ∃ resolved resolving writing,
            Ends (resolveRoots bound roots) { before with interfaces := earlier } resolving (.ok ())
              resolved ∧
            Ends (finish options) resolved writing (.error failure) after ∧
            rest = resolving ++ writing) := by
  rw [generation, generationBy] at h
  rcases ends_bind_error.1 h with ⟨earlier, reading, _, _, hreading, hresolve, rfl⟩ | hfailed
  · obtain ⟨hearlier, rfl⟩ := ends_ofProgram.1 hreading
    rw [ends_modify_bind] at hresolve
    refine .inr ⟨earlier, reading, _, hearlier, rfl, ?_⟩
    rcases ends_bind_error.1 hresolve with ⟨_, resolving, resolved, _, hresolving, hlast, rfl⟩ |
      hfailed
    · rw [ends_get_bind] at hlast
      rcases ends_bind_error.1 hlast with ⟨_, _, _, _, _, hpure, rfl⟩ | hfinish
      · cases (ends_pure.1 hpure).2.1
      · exact .inr ⟨resolved, resolving, _, hresolving, hfinish, rfl⟩
    · exact .inl hfailed
  · exact .inl (ends_ofProgram.1 hfailed).1

theorem ends_generation_error {failure : Failure}
    (h : Ends (generation bound options roots) before events (.error failure) after) :
    (∀ e ∈ events, e.call.observes = true) ∨
      ∃ earlier resolved reading resolving writing,
        Execution (loadOutput options.outputPath) reading (.ok earlier) ∧
        Ends (resolveRoots bound roots) { before with interfaces := earlier } resolving (.ok ())
          resolved ∧
        Ends (finish options) resolved writing (.error failure) after ∧
        events = reading ++ (resolving ++ writing) := by
  have hload := looks_loadOutput options.outputPath
  rcases cases_of_ends_generation_error h with hfailed |
    ⟨earlier, reading, rest, hearlier, rfl, hfailed | ⟨resolved, resolving, writing, hresolving,
      hfinish, rfl⟩⟩
  · exact .inl (hload _ _ hfailed)
  · left
    exact List.forall_mem_append.2 ⟨hload _ _ hearlier,
      (looks_resolveRoots bound roots).observes hfailed⟩
  · exact .inr ⟨earlier, resolved, reading, resolving, writing, hearlier, hresolving, hfinish, rfl⟩

end Resolution

end Parts

section Runs

variable {σ : Type} {reached : (c : Call) → StateM σ c.Answer} {storage : σ} {bound : Nat}
  {options : GenerationOptions} {roots : Roots} {run : RecordedRun σ}

/-- Whether a run upon the earlier interfaces has resolved all its requests, and has emitted these
schemas for that. -/
def RecordedRun.Emits (run : RecordedRun σ) (bound : Nat) (options : GenerationOptions)
    (roots : Roots) (earlier : InterfaceSet) (emitted : List DoctypeSchema) : Prop :=
  ∃ resolved lookups messages,
    Resolved (.onOutput options.appsPath earlier) roots.pairs lookups emitted resolved ∧
    (∀ lookup ∈ lookups, lookup.Holds bound options.appsPath) ∧
    lookups.flatMap Lookup.events <+: run.events.tail ∧
    run.progress = { resolved with messages := messages }

namespace RecordedRun.Emits

variable {earlier : InterfaceSet} {emitted : List DoctypeSchema}

theorem interfaces_eq (h : run.Emits bound options roots earlier emitted) :
    run.progress.interfaces = earlier.insertAll (emitted.map DoctypeSchema.toInterface) := by
  obtain ⟨resolved, lookups, messages, hresolved, -, -, hprogress⟩ := h
  rw [hprogress]
  exact hresolved.interfaces_eq

theorem mem_loaded (h : run.Emits bound options roots earlier emitted) :
    ∀ schema ∈ emitted, schema ∈ run.loaded := by
  obtain ⟨resolved, lookups, messages, hresolved, hholds, hevents, -⟩ := h
  intro schema hschema
  have hread := hresolved.mem_of_mem_emitted schema hschema
  rw [← filterMap_schema?_flatMap hholds] at hread
  exact (hevents.sublist.filterMap _).subset hread

end RecordedRun.Emits

/-- How a run goes that writes its output, or fails in doing so. -/
structure RecordedRun.Writes (run : RecordedRun σ) (bound : Nat) (options : GenerationOptions)
    (roots : Roots) (earlier : InterfaceSet) (looking writing : List Event)
    (written : Except Failure WriteResult) : Prop where
  events : run.events = looking ++ writing
  observes : ∀ e ∈ looking, e.call.observes = true
  emits : ∃ emitted, emitted ≠ [] ∧ run.Emits bound options roots earlier emitted
  real : options.dryRun = false
  replaced : Replaced options.outputPath run.progress.interfaces.render writing written
  result : run.result.map Report.write = written.map some

theorem Resolved.ne_nil_of_changed {before after : Progress} {requests : List (String × String)}
    {lookups : List Lookup} {emitted : List DoctypeSchema}
    (h : Resolved before requests lookups emitted after) (hbefore : before.changed = 0)
    (hafter : after.changed ≠ 0) : emitted ≠ [] := by
  intro hnone
  rw [h.changed_eq, hbefore, hnone] at hafter
  exact hafter rfl

theorem writes_of_resolved {earlier : InterfaceSet} {resolved : Progress} {lookups : List Lookup}
    {emitted : List DoctypeSchema} {messages : StatusLog} {answer : Except IoError Bytes}
    {writing : List Event} {written : Except Failure WriteResult}
    (hresolved : Resolved (.onOutput options.appsPath earlier) roots.pairs lookups emitted resolved)
    (hholds : ∀ lookup ∈ lookups, lookup.Holds bound options.appsPath)
    (hevents : run.events =
      ⟨.read options.outputPath, answer⟩ :: (lookups.flatMap Lookup.events ++ writing))
    (hprogress : run.progress = { resolved with messages := messages })
    (hchanged : resolved.changed ≠ 0) (hreal : options.dryRun = false)
    (hreplaced : Replaced options.outputPath resolved.interfaces.render writing written)
    (hresult : run.result.map Report.write = written.map some) :
    run.Writes bound options roots earlier
      (⟨.read options.outputPath, answer⟩ :: lookups.flatMap Lookup.events) writing written := by
  have hprefix : lookups.flatMap Lookup.events <+: run.events.tail := by
    rw [hevents]
    exact List.prefix_append _ _
  constructor
  case events => exact hevents
  case observes => exact List.forall_mem_cons.2 ⟨rfl, observes_of_mem_flatMap hholds⟩
  case emits =>
    exact ⟨emitted, hresolved.ne_nil_of_changed rfl hchanged, resolved, lookups, messages,
      hresolved, hholds, hprefix, hprogress⟩
  case real => exact hreal
  case replaced =>
    rw [hprogress]
    exact hreplaced
  case result => exact hresult

/-- A run that succeeds has only looked at the storage, or has written its output. -/
theorem looks_or_writes_of_ok {report : Report}
    (hrun : run = recordRun reached storage bound options roots) (hok : run.result = .ok report) :
    (∀ e ∈ run.events, e.call.observes = true) ∧
        (∀ write ∈ report.write, write.wasWritten = false) ∨
      ∃ looking writing written, run.Writes bound options roots
        (earlierInterfaces reached storage options) looking writing written := by
  rw [hrun] at hok
  obtain ⟨resolved, lookups, emitted, write, writing, hresolved, hholds, hfinish, rfl, hevents⟩ :=
    resolved_of_recordRun hok
  rw [← hrun] at hok hfinish hevents
  obtain ⟨messages, hprogress⟩ := progress_of_finish hfinish
  have hlooking : writing = [] → ∀ e ∈ run.events, e.call.observes = true := by
    intro hnone
    rw [hevents, hnone, List.append_nil]
    exact List.forall_mem_cons.2 ⟨rfl, observes_of_mem_flatMap hholds⟩
  rw [Resolution.ends_finish_ok_iff] at hfinish
  split at hfinish
  · obtain ⟨hnone, rfl, -⟩ := hfinish
    exact .inl ⟨hlooking hnone, by simp⟩
  · next hchanged =>
    obtain ⟨result, rfl, hwrite, -⟩ := hfinish
    rw [execution_writeOutput_ok_iff] at hwrite
    split at hwrite
    · obtain ⟨hnone, rfl⟩ := hwrite
      exact .inl ⟨hlooking hnone, by simp [WriteResult.wasWritten]⟩
    · next hreal =>
      obtain ⟨rfl, rfl⟩ := hwrite
      have hresult : run.result.map Report.write = (Except.ok (WriteResult.written
          options.outputPath (Text.encodeUtf8 resolved.interfaces.render).length)).map some := by
        rw [hok]
        rfl
      exact .inr ⟨_, _, _, writes_of_resolved hresolved hholds hevents hprogress hchanged
        (Bool.eq_false_iff.2 hreal) .written hresult⟩

/-- A run that fails has only looked at the storage, or has failed in writing its output. -/
theorem looks_or_writes_of_error {failure : Failure}
    (hrun : run = recordRun reached storage bound options roots)
    (herror : run.result = .error failure) :
    (∀ e ∈ run.events, e.call.observes = true) ∨
      ∃ looking writing written, run.Writes bound options roots
        (earlierInterfaces reached storage options) looking writing written := by
  obtain ⟨hends, htranscript⟩ := recordRun_eq_iff.1 hrun.symm
  rw [herror] at hends
  rcases Resolution.ends_generation_error hends with hlooking | ⟨earlier, resolved, reading,
    resolving, writing, hload, hresolving, hfinish, hevents⟩
  · exact .inl hlooking
  · right
    rw [hevents] at htranscript
    obtain ⟨rfl, rfl⟩ := reading_of_loadOutput hload htranscript
    obtain ⟨lookups, emitted, hresolved, hholds, rfl⟩ := resolves_of_ends_resolveRoots hresolving
    obtain ⟨hchanged, hreal, hprogress, hreplaced⟩ := Resolution.ends_finish_error hfinish
    have hresult : run.result.map Report.write =
        (Except.error failure : Except Failure WriteResult).map some := by
      rw [herror]
      rfl
    exact ⟨_, _, _, writes_of_resolved hresolved hholds hevents hprogress hchanged hreal hreplaced
      hresult⟩

end Runs

end DoctypeInterfaces
