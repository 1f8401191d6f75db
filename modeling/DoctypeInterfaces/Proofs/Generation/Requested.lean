import DoctypeInterfaces.Proofs.Generation.Effects
import DoctypeInterfaces.Proofs.Generation.Run

namespace DoctypeInterfaces

open Storage

namespace Storage.Memory

/-- Whether a file of a storage is the schema file of some doctype, with the given schema. -/
def StoresSchema (memory : Memory) (path : Path) (schema : DoctypeSchema) : Prop :=
  (∃ doctype, path.endsWith (schemaSuffix doctype) = true) ∧
    ∃ bytes, memory.tree.files.get? path = some bytes ∧ schemaOfBytes? bytes = some schema

/-- Whether no two schema files of a storage have the same interface name. -/
def NamesApart (memory : Memory) : Prop :=
  ∀ p q s t, memory.StoresSchema p s → memory.StoresSchema q t →
    s.interfaceName = t.interfaceName → p.same q = true

variable {memory : Memory} {bound : Nat} {appsPath p q : Path} {s t : DoctypeSchema}

theorem files_get?_congr {files : PathMap Bytes} (h : p.same q = true) :
    files.get? p = files.get? q := by
  have hsame : (fun entry : Path × Bytes => entry.1.same p) = fun entry => entry.1.same q := by
    funext entry
    rw [Path.same, Path.same, Path.same_iff.1 h]
  rw [PathMap.get?, PathMap.get?, hsame]

theorem NamesApart.eq (h : memory.NamesApart) (hs : memory.StoresSchema p s)
    (ht : memory.StoresSchema q t) (hname : s.interfaceName = t.interfaceName) : s = t := by
  have hsame := h p q s t hs ht hname
  obtain ⟨-, bytes, hp, hbytes⟩ := hs
  obtain ⟨-, bytes', hq, hbytes'⟩ := ht
  rw [files_get?_congr hsame, hq] at hp
  obtain rfl := Option.some.inj hp
  rw [hbytes] at hbytes'
  exact Option.some.inj hbytes'

/-- Files of different interface names tell schema files of different interface names. -/
theorem namesApart_of_files
    (h : memory.tree.files.Pairwise fun a b => ∀ s ∈ schemaOfBytes? a.2,
      ∀ t ∈ schemaOfBytes? b.2, s.interfaceName ≠ t.interfaceName) : memory.NamesApart := by
  have hsymm : Std.Symm fun a b : Path × Bytes => ∀ s ∈ schemaOfBytes? a.2,
      ∀ t ∈ schemaOfBytes? b.2, s.interfaceName ≠ t.interfaceName :=
    ⟨fun a b hab s hs t ht => (hab t ht s hs).symm⟩
  have hentry : ∀ path schema, memory.StoresSchema path schema → ∃ entry ∈ memory.tree.files,
      entry.1.same path = true ∧ schemaOfBytes? entry.2 = some schema := by
    intro path schema hstores
    obtain ⟨-, bytes, hget, hschema⟩ := hstores
    obtain ⟨entry, hfind, rfl⟩ := Option.map_eq_some_iff.1 hget
    have hsame : entry.1.same path = true := by simpa using List.find?_some hfind
    exact ⟨entry, List.mem_of_find?_eq_some hfind, hsame, hschema⟩
  intro p q s t hs ht hname
  obtain ⟨a, ha, hap, has⟩ := hentry p s hs
  obtain ⟨b, hb, hbq, hbt⟩ := hentry q t ht
  have hab : a = b := by
    by_contra hne
    exact h.forall ha hb hne s has t hbt hname
  rw [Path.same_iff] at hap hbq ⊢
  rw [← hap, hab, hbq]

theorem storesSchema_of_holds {lookup : Lookup} (h : lookup.Holds bound appsPath)
    (hview : ∀ e ∈ lookup.events, e.answer = memory.view e.call)
    (hfound : lookup.found = some (p, s)) : memory.StoresSchema p s := by
  obtain ⟨first, rest, hevents, hwalk, hrest⟩ := execution_findSchema_ok_iff.1 h
  simp only [hfound] at hwalk hrest
  obtain ⟨bytes, rfl, hschema⟩ := execution_loadSchema_ok_iff.1 hrest
  refine ⟨⟨lookup.doctype, Locator.endsWith_of_walk hwalk⟩, bytes, ?_, hschema⟩
  have hread : Except.ok bytes = memory.contents p :=
    hview ⟨.read p, .ok bytes⟩ (by simp [hevents])
  rw [contents] at hread
  split at hread
  · next stored hstored =>
    rw [hstored, Except.ok.inj hread]
  · cases hread

end Storage.Memory

theorem exists_found_of_mem {lookups : List Lookup} {schema : DoctypeSchema}
    (h : schema ∈ lookups.filterMap Lookup.schema?) :
    ∃ lookup ∈ lookups, ∃ path, lookup.found = some (path, schema) := by
  obtain ⟨lookup, hlookup, hschema⟩ := List.mem_filterMap.1 h
  obtain ⟨⟨path, read⟩, hfound, rfl⟩ := Option.map_eq_some_iff.1 hschema
  exact ⟨lookup, hlookup, path, hfound⟩

theorem mem_filterMap_of_found {lookups : List Lookup} {lookup : Lookup} {path : Path}
    {schema : DoctypeSchema} (h : lookup ∈ lookups) (hfound : lookup.found = some (path, schema)) :
    schema ∈ lookups.filterMap Lookup.schema? :=
  List.mem_filterMap.2 ⟨lookup, h, by rw [Lookup.schema?, hfound]; rfl⟩

namespace Resolved

variable {before after : Progress} {requests : List (String × String)} {lookups : List Lookup}
  {emitted : List DoctypeSchema} {memory : Memory} {path : Path} {schema : DoctypeSchema}

/-- The interface of a stored schema is current exactly if the schema has been read or the interface
was current before. -/
theorem isCurrent_iff_of_stored (h : Resolved before requests lookups emitted after)
    (hapart : memory.NamesApart) (hschema : memory.StoresSchema path schema)
    (hstored : ∀ lookup ∈ lookups, ∀ p s, lookup.found = some (p, s) → memory.StoresSchema p s) :
    after.interfaces.isCurrent schema.interfaceName schema.modified = true ↔
      schema ∈ lookups.filterMap Lookup.schema? ∨
        before.interfaces.isCurrent schema.interfaceName schema.modified = true := by
  have hread : ∀ s ∈ lookups.filterMap Lookup.schema?, ∃ p, memory.StoresSchema p s := by
    intro s hs
    obtain ⟨lookup, hlookup, p, hfound⟩ := exists_found_of_mem hs
    exact ⟨p, hstored lookup hlookup p s hfound⟩
  have heq : ∀ s ∈ lookups.filterMap Lookup.schema?,
      s.interfaceName = schema.interfaceName → s = schema := by
    intro s hs hname
    obtain ⟨p, hp⟩ := hread s hs
    exact hapart.eq hp hschema hname
  have hsame : ∀ s ∈ lookups.filterMap Lookup.schema?, ∀ t ∈ lookups.filterMap Lookup.schema?,
      s.interfaceName = t.interfaceName → s.modified = t.modified := by
    intro s hs t ht hname
    obtain ⟨p, hp⟩ := hread s hs
    obtain ⟨q, hq⟩ := hread t ht
    rw [hapart.eq hp hq hname]
  by_cases hmem : schema ∈ lookups.filterMap Lookup.schema?
  · exact iff_of_true (h.isCurrent_of_read hsame schema hmem) (.inl hmem)
  · have hname : schema.interfaceName ∉
        (emitted.map DoctypeSchema.toInterface).map Interface.name := by
      rw [List.map_map]
      intro hname
      obtain ⟨s, hs, hsame⟩ := List.mem_map.1 hname
      have hloaded := h.mem_of_mem_emitted s hs
      exact hmem (heq s hloaded hsame ▸ hloaded)
    rw [or_iff_right hmem, h.interfaces_eq, InterfaceSet.isCurrent, InterfaceSet.isCurrent,
      InterfaceSet.get?_insertAll_of_notMem hname]

theorem exists_searched {appsPath : Path} {earlier : InterfaceSet} {app doctype : String}
    (h : Resolved (.onOutput appsPath earlier) requests lookups emitted after)
    (hrequest : (app, doctype) ∈ requests) :
    ∃ lookup ∈ lookups, lookup.doctype = doctype ∧
      ∀ other, (after.locator.remembered? other doctype).isSome = true ↔ other = lookup.app := by
  have hnodup : (lookups.map Lookup.doctype).Nodup := h.nodup_lookups rfl
  obtain ⟨lookup, hlookup, rfl⟩ := h.exists_lookup rfl hrequest
  refine ⟨lookup, hlookup, rfl, fun other => ?_⟩
  have hfound : after.locator.found =
      (lookups.map fun lookup => ((lookup.app, lookup.doctype), lookup.path?)).reverse := by
    rw [h.found_eq]
    exact List.append_nil _
  rw [Locator.remembered?, hfound, List.lookup_isSome_iff]
  constructor
  · rintro ⟨entry, hentry, hkey⟩
    obtain ⟨l, hl, rfl⟩ := List.mem_map.1 (List.mem_reverse.1 hentry)
    obtain ⟨hother, hdoctype⟩ := Prod.mk.inj (eq_of_beq hkey)
    rw [hother, List.inj_on_of_nodup_map hnodup hl hlookup hdoctype.symm]
  · rintro rfl
    exact ⟨_, List.mem_reverse.2 (List.mem_map_of_mem hlookup), beq_self_eq_true _⟩

end Resolved

section Requests

variable {memory : Memory} {bound bound' : Nat} {options : GenerationOptions} {roots : Roots}
  {app doctype : String} {path : Path} {schema : DoctypeSchema}

/-- A requested doctype is current in the output exactly if its schema has been read or its
interface was current before. It has been read if the doctype was looked up for its application,
and a doctype is looked up for one application only. -/
theorem requested_isCurrent_iff {run : RecordedRun Memory} {report : Report}
    (hrun : run = recordRun Memory.answer memory bound options roots)
    (hapart : memory.NamesApart) (hok : run.result = .ok report)
    (hroot : (app, doctype) ∈ roots.pairs)
    (hfound : memory.schemaFile? bound' options.appsPath app doctype = some (path, schema)) :
    (run.progress.interfaces.isCurrent schema.interfaceName schema.modified = true ↔
      schema ∈ run.loaded ∨ (earlierInterfaces Memory.answer memory options).isCurrent
        schema.interfaceName schema.modified = true) ∧
    (∃ searched, (∀ other, (run.progress.locator.remembered? other doctype).isSome = true ↔
        other = searched) ∧
      (app = searched → schema ∈ run.loaded)) ∧
    ((∀ root ∈ roots.pairs, root.1 = app) → schema ∈ run.loaded) := by
  subst hrun
  obtain ⟨-, htranscript⟩ := recordRun_eq_iff.1
    (rfl : recordRun Memory.answer memory bound options roots = _)
  obtain ⟨resolved, lookups, emitted, write, writing, hresolved, hholds, hfinish, -, hevents⟩ :=
    resolved_of_recordRun hok
  rw [RecordedRun.loaded_eq hevents hholds hfinish]
  rw [hevents] at htranscript
  obtain ⟨-, -, -, hview⟩ := Memory.view_of_transcript htranscript rfl hholds
  obtain ⟨fresh, rfl, rfl, hfresh, hfreshHolds, hfreshView⟩ := Memory.holds_of_schemaFile? hfound
  have hread : ∀ lookup ∈ lookups, lookup.app = fresh.app → lookup.doctype = fresh.doctype →
      schema ∈ lookups.filterMap Lookup.schema? := by
    intro lookup hlookup happ hdoctype
    have heq : lookup = fresh := hfreshHolds.unique (hholds lookup hlookup) happ hdoctype
      hfreshView (hview lookup hlookup)
    exact mem_filterMap_of_found hlookup (heq ▸ hfresh)
  have hstored : ∀ lookup ∈ lookups, ∀ p s, lookup.found = some (p, s) →
      memory.StoresSchema p s := fun lookup hlookup p s =>
    Memory.storesSchema_of_holds (hholds lookup hlookup) (hview lookup hlookup)
  have hschema : memory.StoresSchema path schema :=
    Memory.storesSchema_of_holds hfreshHolds hfreshView hfresh
  obtain ⟨searched, hsearched, hdoctype, hunique⟩ := hresolved.exists_searched hroot
  obtain ⟨messages, hprogress⟩ := progress_of_finish hfinish
  rw [hprogress]
  refine ⟨hresolved.isCurrent_iff_of_stored hapart hschema hstored,
    ⟨searched.app, hunique, fun happ => hread searched hsearched happ.symm hdoctype⟩, ?_⟩
  intro hroots
  exact hread searched hsearched (hresolved.app_eq hroots searched hsearched) hdoctype

def sharedStorage : Memory where
  tree := {
    files := [
      (.ofText "/a/doctype/x/x.json", Text.encodeUtf8 "[\"A\",\"1\"]"),
      (.ofText "/b/doctype/x/x.json", Text.encodeUtf8 "[\"B\",\"1\"]")]
    dirs := ["/", "/a", "/a/doctype", "/a/doctype/x", "/b", "/b/doctype", "/b/doctype/x"].map
      .ofText }
  failing := []
  readLog := []
  listings := 0
  writes := 0

def sharedRoots : Roots :=
  (Roots.empty.add "a" "x").add "b" "x"

theorem sharedStorage_namesApart : sharedStorage.NamesApart :=
  Memory.namesApart_of_files (by decide +kernel)

theorem sharedRun :
    (recordRun Memory.answer sharedStorage 4 billOptions sharedRoots).result.toOption.isSome =
        true ∧
      (recordRun Memory.answer sharedStorage 4 billOptions
        sharedRoots).progress.interfaces.isCurrent "B" "1" = false ∧
      sharedStorage.schemaFile? 4 billOptions.appsPath "b" "x" =
        some ((.ofText "/b/doctype/x/x.json"), ⟨"B", "1", false, []⟩) := by
  decide +kernel

theorem shared_isCurrent_iff :
    (recordRun Memory.answer sharedStorage 4 billOptions sharedRoots).progress.interfaces.isCurrent
        "B" "1" = true ↔
      ⟨"B", "1", false, []⟩ ∈
          (recordRun Memory.answer sharedStorage 4 billOptions sharedRoots).loaded ∨
        (earlierInterfaces Memory.answer sharedStorage billOptions).isCurrent "B" "1" = true := by
  obtain ⟨hsome, -, hfound⟩ := sharedRun
  obtain ⟨report, hok⟩ := exists_report hsome
  have hroot : ("b", "x") ∈ sharedRoots.pairs := by decide
  exact (requested_isCurrent_iff rfl sharedStorage_namesApart hok hroot hfound).1

/-- A doctype that is requested for two applications is lost for the second one. -/
theorem shared_doctype_lost :
    ¬ ∀ (memory : Memory) (bound : Nat) (options : GenerationOptions) (roots : Roots)
      (report : Report) (app doctype : String) (path : Path) (schema : DoctypeSchema),
      memory.NamesApart →
      (recordRun Memory.answer memory bound options roots).result = .ok report →
      (app, doctype) ∈ roots.pairs →
      memory.schemaFile? bound options.appsPath app doctype = some (path, schema) →
      (recordRun Memory.answer memory bound options roots).progress.interfaces.isCurrent
        schema.interfaceName schema.modified = true := by
  intro h
  obtain ⟨hsome, hlost, hfound⟩ := sharedRun
  obtain ⟨report, hok⟩ := exists_report hsome
  have hroot : ("b", "x") ∈ sharedRoots.pairs := by decide
  have hcurrent := h sharedStorage 4 billOptions sharedRoots report "b" "x" _ _
    sharedStorage_namesApart hok hroot hfound
  exact Bool.false_ne_true (hlost.symm.trans hcurrent)

end Requests

end DoctypeInterfaces
