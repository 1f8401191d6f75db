import DoctypeInterfaces.Proofs.Scheduling.Tally

namespace DoctypeInterfaces

open Storage

/-- Whether a set is what the merge of read schemas into the earlier interfaces has to give. -/
structure Merges (earlier : InterfaceSet) (loaded : List DoctypeSchema) (final : InterfaceSet) :
    Prop where
  names_earlier : earlier.names <+: final.names
  of_loaded : ∀ schema ∈ loaded, final.get? schema.interfaceName =
    if earlier.isOutdated schema then some schema.toInterface
    else earlier.get? schema.interfaceName
  kept : ∀ interface ∈ earlier.toList,
    interface.name ∉ loaded.map DoctypeSchema.interfaceName → interface ∈ final.toList
  nothing_else : ∀ interface ∈ final.toList,
    interface.name ∈ earlier.names ∨ interface.name ∈ loaded.map DoctypeSchema.interfaceName

/-- Inserting the outdated ones among the read schemas, in whatever order, is the merge. -/
theorem merges_insertAll {earlier : InterfaceSet} {loaded emitted : List DoctypeSchema}
    (hnodup : (loaded.map DoctypeSchema.interfaceName).Nodup)
    (hperm : emitted.Perm (loaded.filter earlier.isOutdated)) :
    Merges earlier loaded (earlier.insertAll (emitted.map DoctypeSchema.toInterface)) := by
  have hmem : ∀ schema ∈ emitted, schema ∈ loaded ∧ earlier.isOutdated schema = true :=
    fun schema hschema => List.mem_filter.1 (hperm.mem_iff.1 hschema)
  have hnames : (emitted.map DoctypeSchema.toInterface).map Interface.name =
      emitted.map DoctypeSchema.interfaceName := by
    rw [List.map_map]
    rfl
  have hsubset : ∀ name ∈ emitted.map DoctypeSchema.interfaceName,
      name ∈ loaded.map DoctypeSchema.interfaceName := by
    intro name hname
    obtain ⟨schema, hschema, rfl⟩ := List.mem_map.1 hname
    exact List.mem_map_of_mem (hmem schema hschema).1
  constructor
  case names_earlier => exact InterfaceSet.names_isPrefix_insertAll
  case of_loaded =>
    intro schema hschema
    split
    · next houtdated =>
      have hemitted : schema ∈ emitted := hperm.mem_iff.2 (List.mem_filter.2 ⟨hschema, houtdated⟩)
      have hsame : ∀ interface ∈ emitted.map DoctypeSchema.toInterface,
          interface.name = schema.toInterface.name → interface = schema.toInterface := by
        intro interface hinterface hname
        obtain ⟨other, hother, rfl⟩ := List.mem_map.1 hinterface
        rw [List.inj_on_of_nodup_map hnodup (hmem other hother).1 hschema hname]
      exact InterfaceSet.get?_insertAll_of_mem hsame (List.mem_map_of_mem hemitted)
    · next hcurrent =>
      refine InterfaceSet.get?_insertAll_of_notMem ?_
      rw [hnames]
      intro hname
      obtain ⟨other, hother, hsame⟩ := List.mem_map.1 hname
      obtain ⟨hloaded, houtdated⟩ := hmem other hother
      rw [List.inj_on_of_nodup_map hnodup hloaded hschema hsame] at houtdated
      exact hcurrent houtdated
  case kept =>
    intro interface hinterface hname
    have hget : (earlier.insertAll (emitted.map DoctypeSchema.toInterface)).get? interface.name =
        earlier.get? interface.name := by
      refine InterfaceSet.get?_insertAll_of_notMem ?_
      rw [hnames]
      exact fun h => hname (hsubset _ h)
    exact (InterfaceSet.get?_eq_some_iff.1
      (hget.trans (InterfaceSet.get?_eq_some_iff.2 ⟨hinterface, rfl⟩))).1
  case nothing_else =>
    intro interface hinterface
    rcases InterfaceSet.mem_names_insertAll.1 (InterfaceSet.mem_names_of_mem hinterface) with h | h
    · exact .inl h
    · rw [hnames] at h
      exact .inr (hsubset _ h)

section Runs

variable {σ : Type} {reached : (c : Call) → StateM σ c.Answer} {storage : σ} {bound : Nat}
  {options : GenerationOptions} {roots : Roots} {schedule : Scheduling.Schedule}

/-- What a successful run does to the interfaces of the earlier output, whatever the order in which
it resolves the requested doctypes. -/
theorem merges_of_recordBy {run : RecordedRun σ} {report : Report}
    (hrun : run = recordBy reached storage options (schedule.resolve bound roots))
    (hok : run.result = .ok report)
    (hnodup : (run.loaded.map DoctypeSchema.interfaceName).Nodup) :
    Merges (earlierInterfaces reached storage options) run.loaded run.progress.interfaces ∧
      report.changed =
        (run.loaded.filter (earlierInterfaces reached storage options).isOutdated).length ∧
      report.total = run.progress.interfaces.size := by
  obtain ⟨findings, inserted, h, hreport⟩ := settled_of_recordBy hrun hok
  rw [h.loaded] at hnodup ⊢
  have hperm := h.inserted
  rw [h.figures.outdated hnodup] at hperm
  rw [hreport, h.figures.interfaces]
  refine ⟨merges_insertAll hnodup hperm, ?_, rfl⟩
  rw [h.figures.changed]
  exact hperm.length_eq

/-- The item of the earlier output stays as it is, and the bill stands after it, although both are
in progress at the same time. -/
theorem earlier_merges :
    Merges (earlierInterfaces Memory.answer earlierStorage billOptions) [billSchema, itemSchema]
      (recordBy Memory.answer earlierStorage billOptions
        (billSchedule.resolve 4 bothRoots)).progress.interfaces := by
  obtain ⟨hsome, hloaded⟩ := bothRun
  obtain ⟨report, hok⟩ := exists_report hsome
  have hnodup : ((recordBy Memory.answer earlierStorage billOptions
      (billSchedule.resolve 4 bothRoots)).loaded.map DoctypeSchema.interfaceName).Nodup := by
    rw [hloaded]
    decide
  have hmerges := (merges_of_recordBy rfl hok hnodup).1
  rw [hloaded] at hmerges
  exact hmerges

end Runs

end DoctypeInterfaces
