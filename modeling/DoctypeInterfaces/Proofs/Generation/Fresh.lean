import DoctypeInterfaces.Proofs.Generation.Effects
import DoctypeInterfaces.Proofs.Generation.Run
import DoctypeInterfaces.Proofs.Generation.Traversal

namespace DoctypeInterfaces

open Storage

/-- The schema of a doctype, if its interface is not current in the earlier output. -/
def outdated? (earlier : InterfaceSet) (schema? : String → Option DoctypeSchema)
    (doctype : String) : Option DoctypeSchema :=
  (schema? doctype).filter earlier.isOutdated

/-- The doctypes that are visited from a doctype: the child doctypes, if it is emitted. -/
def visitedFrom (earlier : InterfaceSet) (schema? : String → Option DoctypeSchema)
    (doctype : String) : List String :=
  ((outdated? earlier schema? doctype).map DoctypeSchema.childDoctypes).getD []

section Visits

variable {earlier : InterfaceSet} {schema? : String → Option DoctypeSchema} {doctype : String}
  {schema : DoctypeSchema}

theorem outdated?_of_none (h : schema? doctype = none) :
    outdated? earlier schema? doctype = none := by
  rw [outdated?, h]
  rfl

theorem outdated?_of_current (h : schema? doctype = some schema)
    (hcurrent : earlier.isOutdated schema = false) :
    outdated? earlier schema? doctype = none := by
  rw [outdated?, h, Option.filter_some, if_neg (Bool.eq_false_iff.1 hcurrent)]

theorem outdated?_of_outdated (h : schema? doctype = some schema)
    (houtdated : earlier.isOutdated schema = true) :
    outdated? earlier schema? doctype = some schema := by
  rw [outdated?, h, Option.filter_some, if_pos houtdated]

theorem visitedFrom_of_none (h : outdated? earlier schema? doctype = none) :
    visitedFrom earlier schema? doctype = [] := by
  rw [visitedFrom, h]
  rfl

theorem visitedFrom_of_some (h : outdated? earlier schema? doctype = some schema) :
    visitedFrom earlier schema? doctype = schema.childDoctypes := by
  rw [visitedFrom, h]
  rfl

/-- Resolving requests for one application is a depth-first traversal of the emitted doctypes. -/
theorem Resolved.depthFirst {before after : Progress} {requests : List (String × String)}
    {lookups : List Lookup} {emitted : List DoctypeSchema} {app : String} {doctypes : List String}
    (h : Resolved before requests lookups emitted after)
    (hrequests : doctypes.map (fun doctype => (app, doctype)) = requests)
    (hread : ∀ lookup ∈ lookups, lookup.schema? = schema? lookup.doctype)
    (hnodup : ((lookups.filterMap Lookup.schema?).map DoctypeSchema.interfaceName).Nodup)
    (hagree : ∀ schema ∈ lookups.filterMap Lookup.schema?,
      before.interfaces.get? schema.interfaceName = earlier.get? schema.interfaceName) :
    ∃ finished, DepthFirst (visitedFrom earlier schema?) before.processed.reverse doctypes
        (lookups.map Lookup.doctype) finished ∧
      emitted = finished.filterMap (outdated? earlier schema?) := by
  induction h generalizing doctypes with
  | done =>
    rw [List.map_eq_nil_iff.1 hrequests]
    exact ⟨[], .done _, rfl⟩
  | known hold _ ih =>
    obtain ⟨_, doctypes, rfl, hfirst, hrest⟩ := List.map_eq_cons_iff.1 hrequests
    obtain ⟨rfl, rfl⟩ := Prod.mk.inj hfirst
    obtain ⟨finished, htraversal, hemitted⟩ := ih hrest hread hnodup hagree
    exact ⟨finished, .again (List.mem_reverse.2 hold) htraversal, hemitted⟩
  | missing lookup hnew hnone _ ih =>
    obtain ⟨_, doctypes, rfl, hfirst, hrest⟩ := List.map_eq_cons_iff.1 hrequests
    obtain ⟨rfl, rfl⟩ := Prod.mk.inj hfirst
    have hschema : lookup.schema? = none := Lookup.schema?_eq_none hnone
    rw [List.filterMap_cons_none hschema] at hnodup hagree
    have houtdated : outdated? earlier schema? lookup.doctype = none :=
      outdated?_of_none ((hread lookup List.mem_cons_self).symm.trans hschema)
    obtain ⟨finished, htraversal, hemitted⟩ := ih hrest
      (fun l hl => hread l (List.mem_cons_of_mem _ hl)) hnodup hagree
    refine ⟨lookup.doctype :: finished, ?_, ?_⟩
    · apply DepthFirst.leaf (by simpa using hnew) (visitedFrom_of_none houtdated)
      simpa [Progress.lookedUp, Progress.missed, Progress.told] using htraversal
    · rw [List.filterMap_cons_none houtdated, hemitted]
  | current lookup schema hnew hschema hcurrent _ ih =>
    obtain ⟨_, doctypes, rfl, hfirst, hrest⟩ := List.map_eq_cons_iff.1 hrequests
    obtain ⟨rfl, rfl⟩ := Prod.mk.inj hfirst
    rw [List.filterMap_cons_some hschema] at hnodup hagree
    have hskip : earlier.isOutdated schema = false := by
      rw [← InterfaceSet.isOutdated_congr (hagree schema List.mem_cons_self),
        InterfaceSet.isOutdated, hcurrent]
      rfl
    have houtdated : outdated? earlier schema? lookup.doctype = none :=
      outdated?_of_current ((hread lookup List.mem_cons_self).symm.trans hschema) hskip
    obtain ⟨finished, htraversal, hemitted⟩ := ih hrest
      (fun l hl => hread l (List.mem_cons_of_mem _ hl)) (List.nodup_cons.1 hnodup).2
      fun s hs => hagree s (List.mem_cons_of_mem _ hs)
    refine ⟨lookup.doctype :: finished, ?_, ?_⟩
    · apply DepthFirst.leaf (by simpa using hnew) (visitedFrom_of_none houtdated)
      simpa [Progress.lookedUp, Progress.passed, Progress.told] using htraversal
    · rw [List.filterMap_cons_none houtdated, hemitted]
  | @emitted before middle after _ inner later _ _ lookup schema hnew hschema hcurrent hinner _
      ihInner ihLater =>
    obtain ⟨_, doctypes, rfl, hfirst, hrest⟩ := List.map_eq_cons_iff.1 hrequests
    obtain ⟨rfl, rfl⟩ := Prod.mk.inj hfirst
    rw [List.filterMap_cons_some hschema, List.filterMap_append] at hnodup hagree
    have hparts := (List.nodup_cons.1 hnodup).2
    rw [List.map_append, List.nodup_append] at hparts
    have hemit : earlier.isOutdated schema = true := by
      rw [← InterfaceSet.isOutdated_congr (hagree schema List.mem_cons_self),
        InterfaceSet.isOutdated, hcurrent]
      rfl
    have houtdated : outdated? earlier schema? lookup.doctype = some schema :=
      outdated?_of_outdated ((hread lookup List.mem_cons_self).symm.trans hschema) hemit
    obtain ⟨finished, htraversal, hinnerEmitted⟩ := ihInner rfl
      (fun l hl => hread l (List.mem_cons_of_mem _ (List.mem_append_left _ hl))) hparts.1
      fun s hs => hagree s (List.mem_cons_of_mem _ (List.mem_append_left _ hs))
    -- What has been inserted below has other names, so the later schemas are judged as before.
    obtain ⟨laterFinished, hlaterTraversal, hlaterEmitted⟩ := ihLater hrest
      (fun l hl => hread l (List.mem_cons_of_mem _ (List.mem_append_right _ hl))) hparts.2.1
      fun s hs => (hinner.get?_emitted hnodup s hs).trans
        (hagree s (List.mem_cons_of_mem _ (List.mem_append_right _ hs)))
    have hmiddle : middle.processed =
        (inner.map Lookup.doctype).reverse ++ lookup.doctype :: before.processed :=
      hinner.processed_eq
    refine ⟨finished ++ lookup.doctype :: laterFinished, ?_, ?_⟩
    · rw [List.map_cons, List.map_append]
      apply DepthFirst.visit (by simpa using hnew)
      · rw [visitedFrom_of_some houtdated]
        simpa [Progress.lookedUp, Progress.announced, Progress.told] using htraversal
      · simpa [Progress.emitted, hmiddle] using hlaterTraversal
    · rw [List.filterMap_append, List.filterMap_cons_some houtdated, hinnerEmitted,
        hlaterEmitted]

end Visits

/-- The doctypes that follow a doctype in a storage. -/
def Storage.Memory.childDoctypes (memory : Memory) (bound : Nat) (appsPath : Path)
    (app doctype : String) : List String :=
  ((memory.schema? bound appsPath app doctype).map DoctypeSchema.childDoctypes).getD []

section Fresh

variable {bound : Nat} {options : GenerationOptions} {roots : Roots} {memory : Memory}
  {app : String} {doctypes : List String}

theorem outdated?_empty (schema? : String → Option DoctypeSchema) (doctype : String) :
    outdated? .empty schema? doctype = schema? doctype := by
  rw [outdated?]
  cases schema? doctype <;> rfl

theorem earlierInterfaces_of_fresh (h : memory.tree.files.get? options.outputPath = none) :
    earlierInterfaces Memory.answer memory options = .empty := by
  have hread : ((Memory.answer (.read options.outputPath)).run memory).1 =
      .error (Memory.notFound options.outputPath) := by
    change memory.contents options.outputPath = _
    rw [Memory.contents, h]
  rw [earlierInterfaces, hread]
  rfl

/-- A run without an earlier output emits the doctypes that can be reached from the requested ones,
in the order in which the visits of a depth-first traversal finish. -/
theorem fresh_run_depthFirst {run : RecordedRun Memory} {report : Report}
    (hrun : run = recordRun Memory.answer memory bound options roots)
    (hroots : roots.toList = [(app, doctypes)])
    (hfresh : memory.tree.files.get? options.outputPath = none)
    (hok : run.result = .ok report)
    (hnodup : (run.loaded.map DoctypeSchema.interfaceName).Nodup) :
    ∃ visited finished,
      DepthFirst (memory.childDoctypes bound options.appsPath app) [] doctypes visited finished ∧
      (∀ doctype, doctype ∈ visited ↔ ∃ root ∈ doctypes,
        DepthFirst.Reaches (memory.childDoctypes bound options.appsPath app) root doctype) ∧
      (∀ doctype ∈ visited, ∀ child ∈ memory.childDoctypes bound options.appsPath app doctype,
        StandsBefore child doctype finished ∨
          DepthFirst.Reaches (memory.childDoctypes bound options.appsPath app) child doctype) ∧
      run.progress.interfaces.toList =
        (finished.filterMap (memory.schema? bound options.appsPath app)).map
          DoctypeSchema.toInterface ∧
      report.notFound = visited.filter (fun doctype =>
        (memory.schema? bound options.appsPath app doctype).isNone) ∧
      report.skipped = 0 ∧
      report.changed = (visited.filter fun doctype =>
        (memory.schema? bound options.appsPath app doctype).isSome).length ∧
      report.total = report.changed := by
  subst hrun
  obtain ⟨-, htranscript⟩ := recordRun_eq_iff.1
    (rfl : recordRun Memory.answer memory bound options roots = _)
  obtain ⟨resolved, lookups, emitted, write, writing, hresolved, hholds, hfinish, rfl, hevents⟩ :=
    resolved_of_recordRun hok
  rw [RecordedRun.loaded_eq hevents hholds hfinish] at hnodup
  rw [hevents] at htranscript
  obtain ⟨-, -, -, hview⟩ := Memory.view_of_transcript htranscript rfl hholds
  rw [earlierInterfaces_of_fresh hfresh, Roots.pairs_of_toList hroots] at hresolved
  have hread : ∀ lookup ∈ lookups, lookup.schema? =
      memory.schema? bound options.appsPath app lookup.doctype := by
    intro lookup hlookup
    have happ : lookup.app = app := hresolved.app_eq (by simp) lookup hlookup
    rw [← happ, Memory.schema?,
      Memory.schemaFile?_eq_of_holds (hholds lookup hlookup) (hview lookup hlookup), Lookup.schema?]
  have hagree : ∀ schema ∈ lookups.filterMap Lookup.schema?,
      (Progress.onOutput options.appsPath .empty).interfaces.get? schema.interfaceName =
        InterfaceSet.empty.get? schema.interfaceName := fun _ _ => rfl
  obtain ⟨finished, hvisits, hemitted⟩ := hresolved.depthFirst rfl hread hnodup hagree
  have hnext : visitedFrom .empty (memory.schema? bound options.appsPath app) =
      memory.childDoctypes bound options.appsPath app := by
    funext doctype
    rw [visitedFrom, outdated?_empty, Memory.childDoctypes]
  have htraversal : DepthFirst (memory.childDoctypes bound options.appsPath app) [] doctypes
      (lookups.map Lookup.doctype) finished := hnext ▸ hvisits
  rw [funext (outdated?_empty _)] at hemitted
  have hall : ∀ schema ∈ lookups.filterMap Lookup.schema?,
      InterfaceSet.empty.isOutdated schema = true := fun _ _ => rfl
  have hperm := hresolved.emitted_perm hnodup hagree
  rw [List.filter_eq_self.2 hall] at hperm
  have hlength : emitted.length = ((lookups.map Lookup.doctype).filter fun doctype =>
      (memory.schema? bound options.appsPath app doctype).isSome).length := by
    rw [hemitted, List.length_filterMap_eq_countP, htraversal.finished_perm.countP_eq,
      List.countP_eq_length_filter]
  have hinterfaces : resolved.interfaces.toList = emitted.map DoctypeSchema.toInterface := by
    rw [hresolved.interfaces_eq]
    apply InterfaceSet.toList_insertAll_of_new
    · rw [List.map_map]
      exact (hperm.map DoctypeSchema.interfaceName).nodup_iff.2 hnodup
    · exact fun _ _ => List.not_mem_nil
  have hchanged : resolved.changed = emitted.length := by
    rw [hresolved.changed_eq]
    exact Nat.zero_add _
  refine ⟨lookups.map Lookup.doctype, finished, htraversal, fun _ => htraversal.mem_visited_iff,
    fun _ ha _ hb => htraversal.child_first ha hb, ?_, ?_, ?_, ?_, ?_⟩
  · rw [interfaces_of_finish hfinish, hinterfaces, hemitted]
  · rw [hresolved.notFound_eq, List.filter_map]
    refine (List.nil_append _).trans (congrArg _ (List.filter_congr fun lookup hlookup => ?_))
    rw [hread lookup hlookup, Function.comp_apply]
  · have hskipped := hresolved.skipped_eq
    rw [← hperm.length_eq] at hskipped
    exact Nat.add_right_cancel hskipped
  · exact hchanged.trans hlength
  · dsimp only
    rw [InterfaceSet.size, hinterfaces, List.length_map, hchanged]

theorem bill_run_depthFirst :
    ∃ visited finished,
      DepthFirst (billStorage.childDoctypes 4 billOptions.appsPath "s") [] ["b"] visited
        finished ∧
      (recordRun Memory.answer billStorage 4 billOptions billRoots).progress.interfaces.toList =
        (finished.filterMap (billStorage.schema? 4 billOptions.appsPath "s")).map
          DoctypeSchema.toInterface := by
  obtain ⟨hsome, hloaded⟩ := billRun
  obtain ⟨report, hok⟩ := exists_report hsome
  have hnodup : ((recordRun Memory.answer billStorage 4 billOptions billRoots).loaded.map
      DoctypeSchema.interfaceName).Nodup := by
    rw [hloaded]
    decide
  have hroots : billRoots.toList = [("s", ["b"])] := by decide
  have hfresh : billStorage.tree.files.get? billOptions.outputPath = none := by decide
  obtain ⟨visited, finished, hvisits, -, -, hinterfaces, -⟩ :=
    fresh_run_depthFirst rfl hroots hfresh hok hnodup
  exact ⟨visited, finished, hvisits, hinterfaces⟩

end Fresh

end DoctypeInterfaces
