import DoctypeInterfaces.Proofs.Generation.Fresh

namespace DoctypeInterfaces

open Storage

namespace Resolved

variable {before after : Progress} {requests : List (String × String)} {lookups : List Lookup}
  {emitted : List DoctypeSchema}

/-- Where nothing is emitted, the requested doctypes alone are looked up, and all are current. -/
theorem current_of_unchanged (h : Resolved before requests lookups emitted after)
    (hunchanged : emitted = []) :
    ∀ lookup ∈ lookups, (lookup.app, lookup.doctype) ∈ requests ∧
      ∀ schema, lookup.schema? = some schema →
        before.interfaces.isCurrent schema.interfaceName schema.modified = true := by
  induction h with
  | done =>
    intro lookup hlookup
    cases hlookup
  | known _ _ ih =>
    intro lookup hlookup
    obtain ⟨hrequested, hcurrent⟩ := ih hunchanged lookup hlookup
    exact ⟨List.mem_cons_of_mem _ hrequested, hcurrent⟩
  | missing first _ hnone _ ih =>
    intro lookup hlookup
    rcases List.mem_cons.1 hlookup with rfl | hlookup
    · refine ⟨List.mem_cons_self, ?_⟩
      intro schema hschema
      rw [Lookup.schema?_eq_none hnone] at hschema
      cases hschema
    · obtain ⟨hrequested, hcurrent⟩ := ih hunchanged lookup hlookup
      exact ⟨List.mem_cons_of_mem _ hrequested, hcurrent⟩
  | current first read _ hread hcurrent _ ih =>
    intro lookup hlookup
    rcases List.mem_cons.1 hlookup with rfl | hlookup
    · refine ⟨List.mem_cons_self, ?_⟩
      intro schema hschema
      rw [hread] at hschema
      obtain rfl := Option.some.inj hschema
      exact hcurrent
    · obtain ⟨hrequested, hlater⟩ := ih hunchanged lookup hlookup
      exact ⟨List.mem_cons_of_mem _ hrequested, hlater⟩
  | emitted => simp at hunchanged

theorem unchanged_of_current (h : Resolved before requests lookups emitted after)
    (hcurrent : ∀ lookup ∈ lookups, (lookup.app, lookup.doctype) ∈ requests →
      ∀ schema, lookup.schema? = some schema →
        before.interfaces.isCurrent schema.interfaceName schema.modified = true) :
    emitted = [] := by
  induction h with
  | done => rfl
  | known _ _ ih =>
    apply ih
    intro lookup hlookup hrequested
    exact hcurrent lookup hlookup (List.mem_cons_of_mem _ hrequested)
  | missing _ _ _ _ ih =>
    apply ih
    intro lookup hlookup hrequested
    exact hcurrent lookup (List.mem_cons_of_mem _ hlookup) (List.mem_cons_of_mem _ hrequested)
  | current _ _ _ _ _ _ ih =>
    apply ih
    intro lookup hlookup hrequested
    exact hcurrent lookup (List.mem_cons_of_mem _ hlookup) (List.mem_cons_of_mem _ hrequested)
  | emitted first schema _ hschema houtdated =>
    have hfirst := hcurrent first List.mem_cons_self List.mem_cons_self schema hschema
    rw [houtdated] at hfirst
    cases hfirst

theorem schema?_eq_of_app {memory : Memory} {bound : Nat} {appsPath : Path} {app : String}
    (h : Resolved before requests lookups emitted after)
    (hrequests : ∀ request ∈ requests, request.1 = app)
    (hholds : ∀ lookup ∈ lookups, lookup.Holds bound appsPath)
    (hview : ∀ lookup ∈ lookups, ∀ e ∈ lookup.events, e.answer = memory.view e.call) :
    ∀ lookup ∈ lookups,
      lookup.schema? = memory.schema? bound appsPath app lookup.doctype := by
  intro lookup hlookup
  have happ : lookup.app = app := h.app_eq hrequests lookup hlookup
  rw [← happ, Memory.schema?,
    Memory.schemaFile?_eq_of_holds (hholds lookup hlookup) (hview lookup hlookup), Lookup.schema?]

end Resolved

/-- Whether no two of the doctypes that can be reached from `roots` have one interface name. -/
def Storage.Memory.ReachesNamesApart (memory : Memory) (bound : Nat) (appsPath : Path)
    (app : String) (roots : List String) : Prop :=
  ∀ a b : String, (∃ root ∈ roots,
      DepthFirst.Reaches (memory.childDoctypes bound appsPath app) root a) →
    (∃ root ∈ roots, DepthFirst.Reaches (memory.childDoctypes bound appsPath app) root b) →
    ∀ s t, memory.schema? bound appsPath app a = some s →
      memory.schema? bound appsPath app b = some t → s.interfaceName = t.interfaceName → a = b

section Verdicts

variable {bound : Nat} {options : GenerationOptions} {roots : Roots} {memory : Memory}
  {app : String} {doctypes : List String}

/-- A run changes nothing exactly if the interfaces of the requested doctypes are current in the
earlier output, and then it has looked up no other doctype. -/
theorem unchanged_iff_requested_current {run : RecordedRun Memory} {report : Report}
    (hrun : run = recordRun Memory.answer memory bound options roots)
    (hroots : roots.toList = [(app, doctypes)]) (hok : run.result = .ok report) :
    (report.changed = 0 ↔ ∀ doctype ∈ doctypes, ∀ schema,
      memory.schema? bound options.appsPath app doctype = some schema →
        (earlierInterfaces Memory.answer memory options).isCurrent schema.interfaceName
          schema.modified = true) ∧
    (report.changed = 0 → ∀ doctype, doctype ∈ run.progress.processed ↔ doctype ∈ doctypes) := by
  subst hrun
  obtain ⟨-, htranscript⟩ := recordRun_eq_iff.1
    (rfl : recordRun Memory.answer memory bound options roots = _)
  obtain ⟨resolved, lookups, emitted, write, writing, hresolved, hholds, hfinish, rfl, hevents⟩ :=
    resolved_of_recordRun hok
  rw [hevents] at htranscript
  obtain ⟨-, -, -, hview⟩ := Memory.view_of_transcript htranscript rfl hholds
  rw [Roots.pairs_of_toList hroots] at hresolved
  have happ : ∀ request ∈ doctypes.map fun doctype => (app, doctype), request.1 = app := by simp
  have hread := hresolved.schema?_eq_of_app happ hholds hview
  have hrequested : ∀ lookup : Lookup,
      (lookup.app, lookup.doctype) ∈ doctypes.map (fun doctype => (app, doctype)) →
        lookup.doctype ∈ doctypes := by
    intro lookup hlookup
    obtain ⟨doctype, hdoctype, hpair⟩ := List.mem_map.1 hlookup
    rw [← (Prod.mk.inj hpair).2]
    exact hdoctype
  have hchanged : resolved.changed = 0 ↔ emitted = [] := by
    rw [hresolved.changed_eq]
    change 0 + emitted.length = 0 ↔ _
    rw [Nat.zero_add, List.length_eq_zero_iff]
  have hprocessed : resolved.processed = (lookups.map Lookup.doctype).reverse := by
    rw [hresolved.processed_eq]
    exact List.append_nil _
  obtain ⟨messages, hprogress⟩ := progress_of_finish hfinish
  rw [hprogress]
  refine ⟨⟨?current_of_unchanged, ?unchanged_of_current⟩, ?processed⟩
  case current_of_unchanged =>
    intro hunchanged doctype hdoctype schema hschema
    obtain ⟨lookup, hlookup, hfound⟩ :=
      hresolved.exists_lookup rfl (List.mem_map_of_mem hdoctype)
    dsimp only at hfound
    rw [← hfound, ← hread lookup hlookup] at hschema
    exact (hresolved.current_of_unchanged (hchanged.1 hunchanged) lookup hlookup).2 schema hschema
  case unchanged_of_current =>
    intro hcurrent
    apply hchanged.2
    apply hresolved.unchanged_of_current
    intro lookup hlookup hrequest schema hschema
    rw [hread lookup hlookup] at hschema
    exact hcurrent lookup.doctype (hrequested lookup hrequest) schema hschema
  case processed =>
    intro hunchanged doctype
    constructor
    · intro hdoctype
      rw [hprocessed, List.mem_reverse] at hdoctype
      obtain ⟨lookup, hlookup, rfl⟩ := List.mem_map.1 hdoctype
      exact hrequested lookup
        (hresolved.current_of_unchanged (hchanged.1 hunchanged) lookup hlookup).1
    · intro hdoctype
      exact hresolved.mem_processed (app, doctype) (List.mem_map_of_mem hdoctype)

end Verdicts

section Bills

def earlierBill : String :=
  "// Last updated: 1\nexport interface B extends DocType \x7b\n\x7d\n"

/-- The bills, with an output that has the interface of the bill only. -/
def lonelyStorage : Memory :=
  billStorage.insert (.ofText "/t") (Text.encodeUtf8 earlierBill)

theorem lonelyRun :
    (recordRun Memory.answer lonelyStorage 4 billOptions billRoots).result.toOption.map
        Report.changed = some 0 ∧
      lonelyStorage.schema? 4 (.ofText "/") "s" "b" = some billSchema ∧
      lonelyStorage.schema? 4 (.ofText "/") "s" "i" = some itemSchema ∧
      (earlierInterfaces Memory.answer lonelyStorage billOptions).isCurrent "I" "2" = false := by
  decide +kernel

theorem exists_unchanged {result : Except Failure Report}
    (h : result.toOption.map Report.changed = some 0) :
    ∃ report, result = .ok report ∧ report.changed = 0 := by
  cases result with
  | error e => cases h
  | ok report => exact ⟨report, rfl, Option.some.inj h⟩

/-- Nothing but the bill has been looked up, and the interface of the bill is current. -/
theorem lonely_requested_current :
    (earlierInterfaces Memory.answer lonelyStorage billOptions).isCurrent "B" "1" = true ∧
      ∀ doctype, doctype ∈ (recordRun Memory.answer lonelyStorage 4 billOptions
        billRoots).progress.processed ↔ doctype ∈ ["b"] := by
  obtain ⟨hresult, hbill, -, -⟩ := lonelyRun
  obtain ⟨report, hok, hunchanged⟩ := exists_unchanged hresult
  have hroots : billRoots.toList = [("s", ["b"])] := by decide
  obtain ⟨hcurrent, hprocessed⟩ := unchanged_iff_requested_current rfl hroots hok
  exact ⟨hcurrent.1 hunchanged "b" (List.mem_singleton_self _) billSchema hbill,
    hprocessed hunchanged⟩

theorem lonelyStorage_reaches {doctype : String}
    (h : ∃ root ∈ ["b"],
      DepthFirst.Reaches (lonelyStorage.childDoctypes 4 (.ofText "/") "s") root doctype) :
    doctype ∈ ["b", "i"] := by
  obtain ⟨root, hroot, hreaches⟩ := h
  obtain ⟨-, hbill, hitem, -⟩ := lonelyRun
  refine DepthFirst.mem_of_reaches ?_ ?_ hreaches
  · intro a ha b hb
    exact mem_bills_of_child hbill hitem ha hb
  · exact List.mem_pair.2 (.inl (List.mem_singleton.1 hroot))

theorem lonelyStorage_namesApart :
    lonelyStorage.ReachesNamesApart 4 (.ofText "/") "s" ["b"] := by
  intro a b ha hb s t hs ht hname
  obtain ⟨-, hbill, hitem, -⟩ := lonelyRun
  exact eq_of_distinct_names hbill hitem (by decide) (lonelyStorage_reaches ha)
    (lonelyStorage_reaches hb) hs ht hname

/-- A run may change nothing although the interface of a child doctype is missing. -/
theorem unchanged_with_outdated_child :
    ¬ ∀ (memory : Memory) (bound : Nat) (options : GenerationOptions) (roots : Roots)
      (app : String) (doctypes : List String) (report : Report),
      roots.toList = [(app, doctypes)] →
      memory.ReachesNamesApart bound options.appsPath app doctypes →
      (recordRun Memory.answer memory bound options roots).result = .ok report →
      report.changed = 0 →
      ∀ doctype schema,
        (∃ root ∈ doctypes, DepthFirst.Reaches
          (memory.childDoctypes bound options.appsPath app) root doctype) →
        memory.schema? bound options.appsPath app doctype = some schema →
        (earlierInterfaces Memory.answer memory options).isCurrent schema.interfaceName
          schema.modified = true := by
  intro h
  obtain ⟨hresult, hbill, hitem, hmissing⟩ := lonelyRun
  obtain ⟨report, hok, hunchanged⟩ := exists_unchanged hresult
  have hroots : billRoots.toList = [("s", ["b"])] := by decide
  have hchild : "i" ∈ lonelyStorage.childDoctypes 4 (.ofText "/") "s" "b" := by
    rw [Memory.childDoctypes, hbill]
    decide
  have hreaches : ∃ root ∈ ["b"],
      DepthFirst.Reaches (lonelyStorage.childDoctypes 4 (.ofText "/") "s") root "i" :=
    ⟨"b", List.mem_singleton_self _, .single hchild⟩
  have hcurrent := h lonelyStorage 4 billOptions billRoots "s" ["b"] report hroots
    lonelyStorage_namesApart hok hunchanged "i" itemSchema hreaches hitem
  exact Bool.false_ne_true (hmissing.symm.trans hcurrent)

end Bills

end DoctypeInterfaces
