import DoctypeInterfaces.Proofs.Generation.Resolved
import DoctypeInterfaces.Proofs.Interface.Recover

namespace DoctypeInterfaces

open Storage

def InterfaceSet.ofAnswer : Except IoError Bytes → InterfaceSet
  | .ok bytes => .ofOutput (Text.decodeUtf8Lossy bytes)
  | .error _ => .empty

/-- A run as it went: what it came to, what is left, and the calls it has made with their
answers. -/
structure RecordedRun (σ : Type) where
  result : Except Failure Report
  progress : Progress
  storage : σ
  events : List Event

section Recording

variable {σ : Type} (reached : (c : Call) → StateM σ c.Answer) (storage : σ) (bound : Nat)
  (options : GenerationOptions) (roots : Roots) (resolving : Resolution Unit)

/-- A run on a storage that resolves the requested doctypes in some way. -/
def recordBy : RecordedRun σ :=
  let ((result, progress), recorded) :=
    (((generationBy resolving options).run.run (.start options.appsPath)).run
      (Recorded.answer reached)).run ⟨storage, []⟩
  ⟨result, progress, recorded.storage, recorded.events⟩

/-- The run for the requested doctypes on a storage that answers at once. -/
def recordRun : RecordedRun σ :=
  recordBy reached storage options (Resolution.resolveRoots bound roots)

/-- The schemas that a run has read, in the order in which it has read them. -/
def RecordedRun.loaded (run : RecordedRun σ) : List DoctypeSchema :=
  run.events.tail.filterMap Event.schema?

/-- The interfaces of the output that stands in a storage. -/
def earlierInterfaces : InterfaceSet :=
  .ofAnswer ((reached (.read options.outputPath)).run storage).1

variable {reached storage bound options roots resolving}

theorem recordBy_eq_iff {run : RecordedRun σ} :
    recordBy reached storage options resolving = run ↔
      Resolution.Ends (generationBy resolving options) (.start options.appsPath) run.events
          run.result run.progress ∧
        Transcript reached storage run.events run.storage := by
  rw [Resolution.Ends, ← Program.run_recorded_iff, recordBy]
  generalize ((generationBy resolving options).run.run (.start options.appsPath)).run
    (Recorded.answer reached) = program
  rcases hrun : program.run ⟨storage, []⟩ with ⟨⟨result, progress⟩, ⟨after, events⟩⟩
  constructor
  · rintro rfl
    rfl
  · intro h
    cases h
    rfl

theorem recordRun_eq_iff {run : RecordedRun σ} :
    recordRun reached storage bound options roots = run ↔
      Resolution.Ends (generation bound options roots) (.start options.appsPath) run.events
          run.result run.progress ∧
        Transcript reached storage run.events run.storage :=
  recordBy_eq_iff

theorem isDelimited_of_mem_earlierInterfaces :
    ∀ interface ∈ (earlierInterfaces reached storage options).toList, interface.IsDelimited := by
  rw [earlierInterfaces]
  cases ((reached (.read options.outputPath)).run storage).1 with
  | ok bytes => exact isDelimited_of_mem_ofOutput
  | error =>
    intro interface hinterface
    cases hinterface

theorem generate_run_eq :
    ((generate resolving options).run reached).run storage =
      (((recordBy reached storage options resolving).result,
          (recordBy reached storage options resolving).progress.messages),
        (recordBy reached storage options resolving).storage) := by
  obtain ⟨hends, htranscript⟩ := recordBy_eq_iff.1
    (rfl : recordBy reached storage options resolving = _)
  rw [Program.run_eq_iff]
  refine ⟨_, ?_, htranscript⟩
  rw [generate, bind_pure_comp, Execution.map_iff]
  exact ⟨_, hends, rfl⟩

end Recording

section Parts

variable {bound : Nat} {options : GenerationOptions} {roots : Roots} {events : List Event}
  {before after : Progress}

theorem execution_loadOutput_ok_iff {path : Path} {earlier : InterfaceSet} :
    Execution (loadOutput path) events (.ok earlier) ↔
      ∃ answer, events = [⟨.read path, answer⟩] ∧ earlier = .ofAnswer answer ∧
        ∀ e, answer = .error e → e.kind = .notFound := by
  rw [loadOutput, Storage.read, Program.ask_bind, Execution.call_iff]
  constructor
  · rintro ⟨answer, rest, rfl, h⟩
    cases answer with
    | ok bytes =>
      obtain ⟨rfl, hearlier⟩ := Execution.done_iff.1 h
      exact ⟨_, rfl, Except.ok.inj hearlier, by simp⟩
    | error e =>
      dsimp only at h
      split at h
      · next hkind =>
        obtain ⟨rfl, hearlier⟩ := Execution.done_iff.1 h
        refine ⟨_, rfl, Except.ok.inj hearlier, fun e' he' => ?_⟩
        cases he'
        exact hkind
      · simp at h
  · rintro ⟨answer, rfl, rfl, hkind⟩
    refine ⟨answer, [], rfl, ?_⟩
    cases answer with
    | ok bytes => exact .done _
    | error e =>
      dsimp only
      rw [if_pos (hkind e rfl)]
      exact .done _

/-- The calls that write an output file, all of them answered without error. -/
def writeEvents (path : Path) (content : String) : List Event :=
  (path.dir?.map fun dir => ⟨.createDirAll dir, .ok ()⟩).toList ++
    [⟨.writeAtomic path (Text.encodeUtf8 content), .ok ()⟩]

theorem execution_ensureOutputDir_ok_iff {path : Path} :
    Execution (ensureOutputDir path) events (.ok ()) ↔
      events = (path.dir?.map fun dir => ⟨.createDirAll dir, .ok ()⟩).toList := by
  rw [ensureOutputDir]
  cases path.dir? with
  | none => simp
  | some dir =>
    dsimp only
    rw [createDirAll, Program.ask_bind, Execution.call_iff]
    constructor
    · rintro ⟨answer, rest, rfl, h⟩
      obtain ⟨rfl, hok⟩ := Execution.done_iff.1 h
      cases answer with
      | ok => rfl
      | error e => cases hok
    · rintro rfl
      exact ⟨.ok (), [], rfl, .done _⟩

theorem execution_replaceOutput_ok_iff {path : Path} {content : String} {result : WriteResult} :
    Execution (replaceOutput path content) events (.ok result) ↔
      events = writeEvents path content ∧
        result = .written path (Text.encodeUtf8 content).length := by
  rw [replaceOutput, Execution.bind_iff]
  constructor
  · rintro ⟨ensured, first, rest, hensured, hwrite, rfl⟩
    cases ensured with
    | error e => simp at hwrite
    | ok =>
      obtain rfl := execution_ensureOutputDir_ok_iff.1 hensured
      dsimp only at hwrite
      rw [writeAtomic, Program.ask_bind, Execution.call_iff] at hwrite
      obtain ⟨answer, later, rfl, hlater⟩ := hwrite
      cases answer with
      | error e => simp at hlater
      | ok =>
        obtain ⟨rfl, hresult⟩ := Execution.done_iff.1 hlater
        exact ⟨rfl, Except.ok.inj hresult⟩
  · rintro ⟨rfl, rfl⟩
    refine ⟨.ok (), _, _, execution_ensureOutputDir_ok_iff.2 rfl, ?_, rfl⟩
    dsimp only
    rw [writeAtomic, Program.ask_bind]
    exact .call (.done _)

theorem execution_writeOutput_ok_iff {dryRun : Bool} {path : Path} {content : String}
    {result : WriteResult} :
    Execution (writeOutput dryRun path content) events (.ok result) ↔
      if dryRun then events = [] ∧ result = .dryRun path content
      else events = writeEvents path content ∧
        result = .written path (Text.encodeUtf8 content).length := by
  cases dryRun with
  | true =>
    change Execution (.done _) _ _ ↔ _
    simp
  | false => exact execution_replaceOutput_ok_iff

theorem schema?_eq_none_of_mem_writeEvents {path : Path} {content : String} {e : Event}
    (h : e ∈ writeEvents path content) : e.schema? = none := by
  rcases List.mem_append.1 h with h | h
  · obtain ⟨dir, -, rfl⟩ := Option.map_eq_some_iff.1 (Option.mem_toList.1 h)
    rfl
  · rw [List.mem_singleton.1 h]
    rfl

namespace Resolution

theorem ends_finish_ok_iff {write : Option WriteResult} :
    Ends (finish options) before events (.ok write) after ↔
      if before.changed = 0 then
        events = [] ∧ write = none ∧ after = before.told (.info, "No new schema changes.")
      else
        ∃ result, write = some result ∧
          Execution (writeOutput options.dryRun options.outputPath before.interfaces.render) events
            (.ok result) ∧
          after = before.told (outcomeMessage before.changed result) := by
  rw [finish, ends_get_bind]
  by_cases hchanged : before.changed = 0
  · rw [if_pos hchanged, if_pos hchanged, say, ends_modify_bind, ends_pure, Except.ok.injEq]
  · rw [if_neg hchanged, if_neg hchanged, ends_bind_ok]
    constructor
    · intro h
      obtain ⟨result, written, _, _, hwritten, hlast, rfl⟩ := h
      obtain ⟨hexecution, rfl⟩ := ends_ofProgram.1 hwritten
      rw [say, ends_modify_bind] at hlast
      obtain ⟨rfl, hwrite, rfl⟩ := ends_pure.1 hlast
      rw [List.append_nil]
      exact ⟨result, Except.ok.inj hwrite, hexecution, rfl⟩
    · intro h
      obtain ⟨result, rfl, hexecution, rfl⟩ := h
      refine ⟨result, events, before, [], ends_ofProgram.2 ⟨hexecution, rfl⟩, ?_,
        (List.append_nil _).symm⟩
      rw [say, ends_modify_bind]
      exact ends_pure.2 ⟨rfl, rfl, rfl⟩

theorem ends_generationBy_ok_iff {resolving : Resolution Unit} {report : Report} :
    Ends (generationBy resolving options) before events (.ok report) after ↔
      ∃ earlier resolved write reading looking writing,
        Execution (loadOutput options.outputPath) reading (.ok earlier) ∧
        Ends resolving { before with interfaces := earlier } looking (.ok ()) resolved ∧
        Ends (finish options) resolved writing (.ok write) after ∧
        report = ⟨resolved.changed, resolved.skipped, resolved.notFound, resolved.interfaces.size,
          write⟩ ∧
        events = reading ++ (looking ++ writing) := by
  rw [generationBy, ends_bind_ok]
  constructor
  · intro h
    obtain ⟨earlier, reading, _, _, hreading, hrest, rfl⟩ := h
    obtain ⟨hload, rfl⟩ := ends_ofProgram.1 hreading
    rw [ends_modify_bind] at hrest
    obtain ⟨_, looking, resolved, _, hresolving, hlast, rfl⟩ := ends_bind_ok.1 hrest
    rw [ends_get_bind] at hlast
    obtain ⟨write, writing, _, _, hwriting, hpure, rfl⟩ := ends_bind_ok.1 hlast
    obtain ⟨rfl, hreport, rfl⟩ := ends_pure.1 hpure
    rw [List.append_nil]
    exact ⟨earlier, resolved, write, reading, looking, writing, hload, hresolving, hwriting,
      Except.ok.inj hreport, rfl⟩
  · intro h
    obtain ⟨earlier, resolved, write, reading, looking, writing, hload, hresolving, hwriting,
      rfl, rfl⟩ := h
    refine ⟨earlier, reading, before, _, ends_ofProgram.2 ⟨hload, rfl⟩, ?_, rfl⟩
    rw [ends_modify_bind]
    refine ends_bind_ok.2 ⟨(), looking, resolved, writing, hresolving, ?_, rfl⟩
    rw [ends_get_bind]
    exact ends_bind_ok.2 ⟨write, writing, after, [], hwriting, ends_pure.2 ⟨rfl, rfl, rfl⟩,
      (List.append_nil _).symm⟩

end Resolution

end Parts

section Runs

variable {σ : Type} {reached : (c : Call) → StateM σ c.Answer} {storage : σ} {bound : Nat}
  {options : GenerationOptions} {roots : Roots}

theorem resolves_of_ends_resolveRoots {appsPath : Path} {earlier : InterfaceSet}
    {resolved : Progress} {events : List Event}
    (h : Resolution.Ends (Resolution.resolveRoots bound roots) (.onOutput appsPath earlier) events
      (.ok ()) resolved) :
    Resolution.Resolves bound appsPath (.onOutput appsPath earlier) roots.pairs events
      resolved := by
  have hstart : (Progress.onOutput appsPath earlier).Consistent appsPath :=
    Progress.consistent_start
  exact Resolution.resolves_of_ends_forM
    (fun hconsistent => Resolution.resolves_of_ends_resolve hconsistent) hstart h

theorem reading_of_loadOutput {earlier : InterfaceSet} {reading rest : List Event} {after : σ}
    (h : Execution (loadOutput options.outputPath) reading (.ok earlier))
    (htranscript : Transcript reached storage (reading ++ rest) after) :
    reading = [⟨.read options.outputPath, ((reached (.read options.outputPath)).run storage).1⟩] ∧
      earlier = earlierInterfaces reached storage options := by
  obtain ⟨answer, rfl, rfl, -⟩ := execution_loadOutput_ok_iff.1 h
  obtain ⟨hanswer, -⟩ := Transcript.cons_iff.1 htranscript
  obtain rfl : answer = ((reached (.read options.outputPath)).run storage).1 := hanswer
  exact ⟨rfl, rfl⟩

/-- A successful run resolves its requests, upon the interfaces of the earlier output. -/
theorem resolved_of_recordRun {report : Report}
    (h : (recordRun reached storage bound options roots).result = .ok report) :
    ∃ resolved lookups emitted write writing,
      Resolved (.onOutput options.appsPath (earlierInterfaces reached storage options))
        roots.pairs lookups emitted resolved ∧
      (∀ lookup ∈ lookups, lookup.Holds bound options.appsPath) ∧
      Resolution.Ends (Resolution.finish options) resolved writing (.ok write)
        (recordRun reached storage bound options roots).progress ∧
      report = ⟨resolved.changed, resolved.skipped, resolved.notFound, resolved.interfaces.size,
        write⟩ ∧
      (recordRun reached storage bound options roots).events =
        ⟨.read options.outputPath, ((reached (.read options.outputPath)).run storage).1⟩ ::
          (lookups.flatMap Lookup.events ++ writing) := by
  obtain ⟨hends, htranscript⟩ := recordRun_eq_iff.1
    (rfl : recordRun reached storage bound options roots = _)
  rw [h] at hends
  obtain ⟨earlier, resolved, write, reading, resolving, writing, hload, hresolving, hwriting,
    hreport, hevents⟩ := Resolution.ends_generationBy_ok_iff.1 hends
  rw [hevents] at htranscript ⊢
  obtain ⟨rfl, rfl⟩ := reading_of_loadOutput hload htranscript
  obtain ⟨lookups, emitted, hresolved, hholds, rfl⟩ := resolves_of_ends_resolveRoots hresolving
  exact ⟨resolved, lookups, emitted, write, writing, hresolved, hholds, hwriting, hreport, rfl⟩

theorem schema?_eq_none_of_finish {before after : Progress} {write : Option WriteResult}
    {events : List Event}
    (h : Resolution.Ends (Resolution.finish options) before events (.ok write) after) :
    ∀ e ∈ events, e.schema? = none := by
  intro e he
  rw [Resolution.ends_finish_ok_iff] at h
  split at h
  · obtain ⟨rfl, -, -⟩ := h
    cases he
  · obtain ⟨result, -, hwrite, -⟩ := h
    rw [execution_writeOutput_ok_iff] at hwrite
    split at hwrite
    · obtain ⟨rfl, -⟩ := hwrite
      cases he
    · obtain ⟨rfl, -⟩ := hwrite
      exact schema?_eq_none_of_mem_writeEvents he

/-- The end of a run only adds a message, which is not about a doctype. -/
theorem messages_of_finish {before after : Progress} {write : Option WriteResult}
    {events : List Event}
    (h : Resolution.Ends (Resolution.finish options) before events (.ok write) after) :
    ∃ closing : StatusKind × String, closing.1 ≠ .update ∧
      after = { before with messages := before.messages ++ [closing] } := by
  rw [Resolution.ends_finish_ok_iff] at h
  split at h
  · exact ⟨_, by simp, h.2.2⟩
  · obtain ⟨result, -, -, hafter⟩ := h
    refine ⟨_, ?_, hafter⟩
    rw [Resolution.outcomeMessage]
    split <;> simp

theorem progress_of_finish {before after : Progress} {write : Option WriteResult}
    {events : List Event}
    (h : Resolution.Ends (Resolution.finish options) before events (.ok write) after) :
    ∃ messages, after = { before with messages := messages } := by
  obtain ⟨closing, -, hafter⟩ := messages_of_finish h
  exact ⟨_, hafter⟩

theorem interfaces_of_finish {before after : Progress} {write : Option WriteResult}
    {events : List Event}
    (h : Resolution.Ends (Resolution.finish options) before events (.ok write) after) :
    after.interfaces = before.interfaces := by
  obtain ⟨messages, rfl⟩ := progress_of_finish h
  rfl

theorem filterMap_schema?_flatMap {appsPath : Path} {lookups : List Lookup}
    (h : ∀ lookup ∈ lookups, lookup.Holds bound appsPath) :
    (lookups.flatMap Lookup.events).filterMap Event.schema? =
      lookups.filterMap Lookup.schema? := by
  induction lookups with
  | nil => rfl
  | cons lookup lookups ih =>
    rw [List.flatMap_cons, List.filterMap_append, (h lookup List.mem_cons_self).filterMap_schema?,
      ih fun l hl => h l (List.mem_cons_of_mem _ hl), List.filterMap_cons]
    cases lookup.schema? <;> rfl

theorem observes_of_mem_flatMap {appsPath : Path} {lookups : List Lookup}
    (h : ∀ lookup ∈ lookups, lookup.Holds bound appsPath) :
    ∀ e ∈ lookups.flatMap Lookup.events, e.call.observes = true := by
  intro e he
  obtain ⟨lookup, hlookup, he⟩ := List.mem_flatMap.1 he
  exact (h lookup hlookup).observes e he

theorem RecordedRun.loaded_eq {run : RecordedRun σ} {appsPath : Path} {first : Event}
    {lookups : List Lookup} {before after : Progress} {write : Option WriteResult}
    {writing : List Event}
    (hevents : run.events = first :: (lookups.flatMap Lookup.events ++ writing))
    (hholds : ∀ lookup ∈ lookups, lookup.Holds bound appsPath)
    (hfinish : Resolution.Ends (Resolution.finish options) before writing (.ok write) after) :
    run.loaded = lookups.filterMap Lookup.schema? := by
  rw [loaded, hevents, List.tail_cons, List.filterMap_append, filterMap_schema?_flatMap hholds,
    List.filterMap_eq_nil_iff.2 (schema?_eq_none_of_finish hfinish), List.append_nil]

end Runs

theorem Roots.pairs_of_toList {roots : Roots} {app : String} {doctypes : List String}
    (h : roots.toList = [(app, doctypes)]) :
    roots.pairs = doctypes.map fun doctype => (app, doctype) := by
  rw [pairs, h]
  simp

/-- On a storage in memory, all that a run reads is there from the start, and only the end of the
run changes what the storage holds. -/
theorem Storage.Memory.view_of_transcript {memory after : Memory} {bound : Nat} {appsPath : Path}
    {first : Event} {lookups : List Lookup} {writing : List Event}
    (h : Transcript answer memory (first :: (lookups.flatMap Lookup.events ++ writing)) after)
    (hfirst : first.call.observes = true)
    (hholds : ∀ lookup ∈ lookups, lookup.Holds bound appsPath) :
    ∃ middle, memory.Alike middle ∧ Transcript answer middle writing after ∧
      ∀ lookup ∈ lookups, ∀ e ∈ lookup.events, e.answer = memory.view e.call := by
  have hobserves : ∀ e ∈ first :: lookups.flatMap Lookup.events, e.call.observes = true :=
    List.forall_mem_cons.2 ⟨hfirst, observes_of_mem_flatMap hholds⟩
  rw [← List.cons_append] at h
  obtain ⟨middle, hreading, hwriting⟩ := Transcript.append_iff.1 h
  refine ⟨middle, alike_of_transcript hreading hobserves, hwriting, ?_⟩
  intro lookup hlookup e he
  apply answer_eq_view hreading hobserves
  exact List.mem_cons_of_mem _ (List.mem_flatMap.2 ⟨lookup, hlookup, he⟩)

/-- Of two doctypes that have different interface names, only one has a given interface name. -/
theorem eq_of_distinct_names {schema? : String → Option DoctypeSchema} {x y : String}
    {first second : DoctypeSchema} (hx : schema? x = some first) (hy : schema? y = some second)
    (hdistinct : first.interfaceName ≠ second.interfaceName) {a b : String} (ha : a ∈ [x, y])
    (hb : b ∈ [x, y]) {s t : DoctypeSchema} (hs : schema? a = some s) (ht : schema? b = some t)
    (hname : s.interfaceName = t.interfaceName) : a = b := by
  rcases List.mem_pair.1 ha with rfl | rfl <;> rcases List.mem_pair.1 hb with rfl | rfl
  · rfl
  · obtain rfl := Option.some.inj (hx.symm.trans hs)
    obtain rfl := Option.some.inj (hy.symm.trans ht)
    exact absurd hname hdistinct
  · obtain rfl := Option.some.inj (hy.symm.trans hs)
    obtain rfl := Option.some.inj (hx.symm.trans ht)
    exact absurd hname.symm hdistinct
  · rfl

section Bills

def billSchema : DoctypeSchema :=
  ⟨"B", "1", false, [⟨"i", "Table", "", some "I", false⟩]⟩

def itemSchema : DoctypeSchema :=
  ⟨"I", "2", true, [⟨"b", "Table", "", some "B", false⟩]⟩

section Lookups

variable {schema? : String → Option DoctypeSchema} (hbill : schema? "b" = some billSchema)
  (hitem : schema? "i" = some itemSchema) {a b : String} (ha : a ∈ ["b", "i"])

include hbill hitem ha

theorem mem_bills_of_child (hb : b ∈ ((schema? a).map DoctypeSchema.childDoctypes).getD []) :
    b ∈ ["b", "i"] := by
  have hbillChildren : billSchema.childDoctypes = ["i"] := by decide
  have hitemChildren : itemSchema.childDoctypes = ["b"] := by decide
  rw [List.mem_pair]
  rcases List.mem_pair.1 ha with rfl | rfl
  · rw [hbill, Option.map_some, Option.getD_some, hbillChildren] at hb
    exact .inr (List.mem_singleton.1 hb)
  · rw [hitem, Option.map_some, Option.getD_some, hitemChildren] at hb
    exact .inl (List.mem_singleton.1 hb)

end Lookups

def billStorage : Memory where
  tree := {
    files := [
      (.ofText "/s/doctype/b/b.json",
        Text.encodeUtf8 "[\"B\",\"1\",0,[[\"i\",\"Table\",\"\",\"I\"]]]"),
      (.ofText "/s/doctype/i/i.json",
        Text.encodeUtf8 "[\"I\",\"2\",1,[[\"b\",\"Table\",\"\",\"B\"]]]")]
    dirs := ["/", "/s", "/s/doctype", "/s/doctype/b", "/s/doctype/i"].map .ofText }
  failing := []
  readLog := []
  listings := 0
  writes := 0

def earlierItem : String :=
  "// Last updated: 2\nexport interface I extends ChildDocType \x7b\n\x7d\n"

def earlierStorage : Memory :=
  billStorage.insert (.ofText "/t") (Text.encodeUtf8 earlierItem)

def billOptions : GenerationOptions :=
  ⟨(.ofText "/"), (.ofText "/t"), false⟩

def billRoots : Roots :=
  Roots.empty.add "s" "b"

theorem exists_report {result : Except Failure Report} (h : result.toOption.isSome = true) :
    ∃ report, result = .ok report := by
  cases result with
  | ok report => exact ⟨report, rfl⟩
  | error e => cases h

theorem billRun :
    (recordRun Memory.answer billStorage 4 billOptions billRoots).result.toOption.isSome = true ∧
      (recordRun Memory.answer billStorage 4 billOptions billRoots).loaded =
        [billSchema, itemSchema] := by
  decide +kernel

theorem earlierRun :
    (recordRun Memory.answer earlierStorage 4 billOptions billRoots).result.toOption.isSome =
        true ∧
      (recordRun Memory.answer earlierStorage 4 billOptions billRoots).loaded =
        [billSchema, itemSchema] := by
  decide +kernel

end Bills

end DoctypeInterfaces
