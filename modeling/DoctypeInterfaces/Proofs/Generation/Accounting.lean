import DoctypeInterfaces.Proofs.Scheduling.Tally

namespace DoctypeInterfaces

open Storage

section Reads

def Storage.Call.readPath? : Call → Option Path
  | .read path => some path
  | _ => none

theorem Storage.Memory.readLog_answer (memory : Memory) (c : Call) :
    ((answer c).run memory).2.readLog = memory.readLog ++ c.readPath?.toList := by
  cases c with
  | read path => rfl
  | listDir path => exact (List.append_nil _).symm
  | createDirAll path => exact (List.append_nil _).symm
  | writeAtomic path bytes =>
    simp only [answer, StateT.run, Call.readPath?, Option.toList_none, List.append_nil]
    split <;> rfl
  | isPresent path => exact (List.append_nil _).symm
  | overwrite path bytes =>
    simp only [answer, StateT.run, Call.readPath?, Option.toList_none, List.append_nil]
    split <;> rfl

theorem Storage.Memory.readLog_of_transcript {memory after : Memory} {events : List Event}
    (h : Transcript answer memory events after) :
    after.readLog = memory.readLog ++ events.filterMap fun e => e.call.readPath? := by
  induction h with
  | nil => exact (List.append_nil _).symm
  | cons c _ ih =>
    rw [ih, readLog_answer, List.append_assoc, List.filterMap_cons]
    dsimp only
    cases c.readPath? <;> rfl

variable {bound : Nat} {appsPath : Path} {options : GenerationOptions}

theorem Lookup.Holds.filterMap_readPath? {lookup : Lookup} (h : lookup.Holds bound appsPath) :
    lookup.events.filterMap (fun e => e.call.readPath?) = lookup.path?.toList := by
  obtain ⟨first, rest, hevents, hwalk, hrest⟩ := execution_findSchema_ok_iff.1 h
  have hfirst : first.filterMap (fun e => e.call.readPath?) = [] := by
    rw [List.filterMap_eq_nil_iff]
    intro e he
    obtain ⟨dir, hdir⟩ := Locator.call_eq_listDir_of_walk hwalk e he
    rw [hdir]
    rfl
  rw [hevents, List.filterMap_append, hfirst, List.nil_append, path?]
  cases hfound : lookup.found with
  | none =>
    simp only [hfound] at hrest
    rw [hrest]
    rfl
  | some found =>
    simp only [hfound] at hrest
    obtain ⟨bytes, rfl, -⟩ := execution_loadSchema_ok_iff.1 hrest
    rfl

theorem filterMap_readPath?_flatMap {lookups : List Lookup}
    (h : ∀ lookup ∈ lookups, lookup.Holds bound appsPath) :
    (lookups.flatMap Lookup.events).filterMap (fun e => e.call.readPath?) =
      lookups.filterMap Lookup.path? := by
  induction lookups with
  | nil => rfl
  | cons lookup lookups ih =>
    obtain ⟨hfirst, hrest⟩ := List.forall_mem_cons.1 h
    rw [List.flatMap_cons, List.filterMap_append, hfirst.filterMap_readPath?, ih hrest,
      List.filterMap_cons]
    cases lookup.path? <;> rfl

theorem readPath?_eq_none_of_finish {before after : Progress} {write : Option WriteResult}
    {events : List Event}
    (h : Resolution.Ends (Resolution.finish options) before events (.ok write) after) :
    ∀ e ∈ events, e.call.readPath? = none := by
  rw [Resolution.ends_finish_ok_iff] at h
  split at h
  · obtain ⟨rfl, -, -⟩ := h
    simp
  obtain ⟨result, -, hwrite, -⟩ := h
  rw [execution_writeOutput_ok_iff] at hwrite
  split at hwrite
  · obtain ⟨rfl, -⟩ := hwrite
    simp
  obtain ⟨rfl, -⟩ := hwrite
  rw [writeEvents]
  cases options.outputPath.dir? <;> simp [Call.readPath?]

end Reads

namespace RecordedRun.Settled

variable {σ : Type} {run : RecordedRun σ} {earlier : InterfaceSet} {roots : Roots}
  {findings : List Finding} {inserted : List DoctypeSchema}

theorem card_outcome (h : run.Settled earlier roots findings inserted) (outcome : Outcome) :
    ((run.requested roots).filter fun doctype => run.outcome doctype = outcome).card =
      findings.countP fun finding => finding.outcome = outcome := by
  have hfilter : ((run.requested roots).filter fun doctype => run.outcome doctype = outcome) =
      ((findings.map Finding.doctype).filter fun doctype =>
        run.outcome doctype = outcome).toFinset := by
    ext doctype
    simp [h.requested_eq]
  rw [hfilter, List.toFinset_card_of_nodup (h.nodup.filter _), List.filter_map, List.length_map,
    ← List.countP_eq_length_filter]
  apply List.countP_congr
  intro finding hfinding
  rw [Function.comp_apply, h.outcome_eq finding hfinding]

theorem card_requested (h : run.Settled earlier roots findings inserted) :
    (run.requested roots).card = findings.length := by
  rw [h.requested_eq, List.toFinset_card_of_nodup h.nodup, List.length_map]

theorem changed_eq (h : run.Settled earlier roots findings inserted) :
    run.progress.changed = findings.countP fun finding => finding.outcome = .updated := by
  rw [h.figures.changed, h.inserted.length_eq, List.length_map, Finding.countP_updated]

theorem length_notFound (h : run.Settled earlier roots findings inserted) :
    run.progress.notFound.length =
      findings.countP fun finding => finding.outcome = .notFound := by
  rw [h.figures.notFound, List.length_map, List.countP_eq_length_filter]

theorem length_loaded (h : run.Settled earlier roots findings inserted) :
    run.loaded.length = run.progress.changed + run.progress.skipped := by
  rw [h.loaded, Finding.length_schemas, h.changed_eq, h.figures.skipped]

end RecordedRun.Settled

section Memory

variable {memory : Memory} {bound : Nat} {options : GenerationOptions} {roots : Roots}
  {run : RecordedRun Memory} {report : Report}

/-- A run in memory reads the earlier output and then every schema file that it has located. -/
theorem reads_of_recordRun (hrun : run = recordRun Memory.answer memory bound options roots)
    (hok : run.result = .ok report) :
    ∃ paths : List Path, run.progress.locator.found.reverse.filterMap Prod.snd = paths ∧
      run.storage.readLog = memory.readLog ++ options.outputPath :: paths ∧
      paths.length = run.loaded.length ∧
      run.progress.locator.walks = run.progress.processed.length := by
  subst hrun
  obtain ⟨-, htranscript⟩ := recordRun_eq_iff.1
    (rfl : recordRun Memory.answer memory bound options roots = _)
  obtain ⟨resolved, lookups, emitted, write, writing, hresolved, hholds, hfinish, -, hevents⟩ :=
    resolved_of_recordRun hok
  obtain ⟨messages, hprogress⟩ := progress_of_finish hfinish
  have hlater : (lookups.flatMap Lookup.events ++ writing).filterMap (fun e => e.call.readPath?) =
      lookups.filterMap Lookup.path? := by
    rw [List.filterMap_append, filterMap_readPath?_flatMap hholds,
      List.filterMap_eq_nil_iff.2 (readPath?_eq_none_of_finish hfinish), List.append_nil]
  refine ⟨lookups.filterMap Lookup.path?, ?_, ?_, ?_, ?_⟩
  · rw [hprogress, hresolved.found_eq, List.reverse_append, List.reverse_reverse,
      List.filterMap_append, List.filterMap_map]
    rfl
  · rw [Memory.readLog_of_transcript htranscript, hevents, List.filterMap_cons, hlater]
    rfl
  · rw [RecordedRun.loaded_eq hevents hholds hfinish, List.length_filterMap_eq_countP,
      List.length_filterMap_eq_countP]
    apply List.countP_congr
    intro lookup _
    cases hfound : lookup.found <;> simp [Lookup.path?, Lookup.schema?, hfound]
  · have hwalks : resolved.locator.walks = 0 + lookups.length := hresolved.walks_eq
    have hprocessed : resolved.processed = (lookups.map Lookup.doctype).reverse ++ [] :=
      hresolved.processed_eq
    rw [hprogress, hwalks, hprocessed, List.append_nil, List.length_reverse, List.length_map,
      Nat.zero_add]

/-- Whether a successful run has accounted for every requested doctype once. -/
structure RecordedRun.Accounted (run : RecordedRun Memory) (memory : Memory)
    (options : GenerationOptions) (roots : Roots) (report : Report) : Prop where
  total : report.changed + report.skipped + report.notFound.length = (run.requested roots).card
  changed : report.changed =
    ((run.requested roots).filter fun doctype => run.outcome doctype = .updated).card
  skipped : report.skipped =
    ((run.requested roots).filter fun doctype => run.outcome doctype = .skipped).card
  notFound_nodup : report.notFound.Nodup
  mem_notFound_iff : ∀ doctype, doctype ∈ report.notFound ↔
    doctype ∈ run.requested roots ∧ run.outcome doctype = .notFound
  messages : ∃ (doctypes : List String) (closing : StatusKind × String),
    doctypes.Nodup ∧ doctypes.toFinset = run.requested roots ∧ closing.1 ≠ .update ∧
      run.progress.messages =
        (doctypes.map fun doctype => progressMessage doctype (run.outcome doctype)) ++ [closing]
  inserted : ∃ order : List DoctypeSchema, order.Perm (run.emitted.map Prod.snd) ∧
    run.progress.interfaces = (earlierInterfaces Memory.answer memory options).insertAll
      (order.map DoctypeSchema.toInterface)
  reads : ∃ paths : List Path, paths.length = report.changed + report.skipped ∧
    run.progress.locator.found.reverse.filterMap Prod.snd = paths ∧
    run.storage.readLog = memory.readLog ++ options.outputPath :: paths
  walks : run.progress.locator.walks = (run.requested roots).card

theorem accounted_of_recordRun {run : RecordedRun Memory} {report : Report}
    (hrun : run = recordRun Memory.answer memory bound options roots)
    (hok : run.result = .ok report) : run.Accounted memory options roots report := by
  have hschedule : run = recordBy Memory.answer memory options
      (Scheduling.Schedule.depthFirst.resolve bound roots) := hrun
  obtain ⟨findings, inserted, h, hreport⟩ := settled_of_recordBy hschedule hok
  obtain ⟨paths, hfound, hreads, hlength, hwalks⟩ := reads_of_recordRun hrun hok
  rw [hreport]
  constructor
  case total =>
    rw [h.card_requested, h.changed_eq, h.figures.skipped, h.length_notFound]
    exact Finding.countP_outcomes findings
  case changed =>
    rw [h.card_outcome]
    exact h.changed_eq
  case skipped =>
    rw [h.card_outcome]
    exact h.figures.skipped
  case notFound_nodup =>
    rw [h.figures.notFound]
    exact h.nodup.sublist (List.filter_sublist.map _)
  case mem_notFound_iff =>
    intro doctype
    rw [h.figures.notFound, h.requested_eq, List.mem_toFinset]
    constructor
    · intro hmem
      obtain ⟨finding, hfinding, rfl⟩ := List.mem_map.1 hmem
      obtain ⟨hfinding, houtcome⟩ := List.mem_filter.1 hfinding
      rw [h.outcome_eq finding hfinding]
      exact ⟨List.mem_map_of_mem hfinding, of_decide_eq_true houtcome⟩
    · rintro ⟨hmem, houtcome⟩
      obtain ⟨finding, hfinding, rfl⟩ := List.mem_map.1 hmem
      rw [h.outcome_eq finding hfinding] at houtcome
      exact List.mem_map_of_mem (List.mem_filter.2 ⟨hfinding, decide_eq_true houtcome⟩)
  case messages =>
    obtain ⟨closing, hclosing, hmessages⟩ := h.messages
    refine ⟨findings.map Finding.doctype, closing, h.nodup, h.requested_eq.symm, hclosing, ?_⟩
    rw [hmessages, List.map_map]
    congr 1
    apply List.map_congr_left
    intro finding hfinding
    rw [Function.comp_apply, h.outcome_eq finding hfinding]
    rfl
  case inserted => exact ⟨inserted, h.inserted_perm, h.figures.interfaces⟩
  case reads => exact ⟨paths, hlength.trans h.length_loaded, hfound, hreads⟩
  case walks => rw [hwalks, ← h.processed.length_eq, List.length_map, h.card_requested]

def strayRoots : Roots :=
  billRoots.add "s" "x"

theorem strayRun :
    (recordRun Memory.answer earlierStorage 4 billOptions strayRoots).result.toOption.map
      (fun report => (report.changed, report.skipped, report.notFound)) = some (1, 1, ["x"]) := by
  decide +kernel

/-- The bill is emitted, its item is skipped, and the doctype that does not exist is not found. -/
theorem stray_accounted :
    ∃ report : Report, (report.changed, report.skipped, report.notFound) = (1, 1, ["x"]) ∧
      (recordRun Memory.answer earlierStorage 4 billOptions strayRoots).Accounted earlierStorage
        billOptions strayRoots report := by
  obtain ⟨report, hsome, hreport⟩ := Option.map_eq_some_iff.1 strayRun
  cases hresult : (recordRun Memory.answer earlierStorage 4 billOptions strayRoots).result with
  | error e =>
    rw [hresult] at hsome
    cases hsome
  | ok told =>
    rw [hresult] at hsome
    obtain rfl : told = report := Option.some.inj hsome
    exact ⟨told, hreport, accounted_of_recordRun rfl hresult⟩

end Memory

end DoctypeInterfaces
