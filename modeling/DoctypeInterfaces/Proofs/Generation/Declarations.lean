import DoctypeInterfaces.Proofs.Generation.Retention
import DoctypeInterfaces.Proofs.Interface.Headers

namespace DoctypeInterfaces

open Storage Text

theorem flatMap_eq_flatMap_filter {α β : Type} {l : List α} {keep : α → Bool}
    {f : α → List β} (h : ∀ a ∈ l, keep a = false → f a = []) :
    l.flatMap f = (l.filter keep).flatMap f := by
  induction l with
  | nil => rfl
  | cons a l ih =>
    have hrest := ih fun b hb => h b (List.mem_cons_of_mem _ hb)
    cases hkeep : keep a with
    | true => rw [List.filter_cons_of_pos hkeep, List.flatMap_cons, List.flatMap_cons, hrest]
    | false =>
      rw [List.filter_cons_of_neg (by simp [hkeep]), List.flatMap_cons,
        h a List.mem_cons_self hkeep, hrest, List.nil_append]

namespace InterfaceSet

variable {earlier : InterfaceSet} {emitted : List DoctypeSchema}

theorem isHeaded_of_mem_insertAll
    (hearlier : ∀ interface ∈ earlier.toList, interface.IsDelimited)
    (hflat : ∀ schema ∈ emitted, schema.IsFlat) :
    ∀ interface ∈ (earlier.insertAll (emitted.map DoctypeSchema.toInterface)).toList,
      interface.IsHeaded := by
  intro interface hinterface
  rcases mem_of_mem_insertAll hinterface with hemitted | hold
  · obtain ⟨schema, hschema, rfl⟩ := List.mem_map.1 hemitted
    exact (hflat schema hschema).isHeaded
  · exact (hearlier interface hold).isHeaded

/-- Nested headers stand in the blocks that are kept, and nowhere else. -/
theorem flatMap_nestedNames_insertAll (hflat : ∀ schema ∈ emitted, schema.IsFlat) :
    (earlier.insertAll (emitted.map DoctypeSchema.toInterface)).toList.flatMap
        Interface.nestedNames =
      (earlier.keptBeside emitted).flatMap Interface.nestedNames := by
  rw [keptBeside, ← filter_insertAll decide_notMem_of_emitted]
  apply flatMap_eq_flatMap_filter
  intro interface hinterface hemitted
  have hname : interface.name ∈ (emitted.map DoctypeSchema.toInterface).map Interface.name := by
    rw [List.map_map]
    exact not_not.1 (of_decide_eq_false hemitted)
  obtain ⟨schema, hschema, rfl⟩ :=
    List.mem_map.1 (mem_of_name_mem_insertAll hinterface hname)
  exact (hflat schema hschema).nestedNames_eq_nil

/-- The headers of a merged output: those of the interfaces, one for each at most, and the nested
ones of the blocks that are kept. -/
theorem headerNames_render_insertAll
    (hearlier : ∀ interface ∈ earlier.toList, interface.IsDelimited)
    (hflat : ∀ schema ∈ emitted, schema.IsFlat) :
    ∃ own : List String,
      own.Sublist (earlier.insertAll (emitted.map DoctypeSchema.toInterface)).names ∧
      (headerNames (lines
        (earlier.insertAll (emitted.map DoctypeSchema.toInterface)).render.toList)).Perm
          (own ++ (earlier.keptBeside emitted).flatMap Interface.nestedNames) := by
  rw [← flatMap_nestedNames_insertAll hflat]
  exact headerNames_render_perm (isHeaded_of_mem_insertAll hearlier hflat)

end InterfaceSet

section Runs

variable {σ : Type} {reached : (c : Call) → StateM σ c.Answer} {storage : σ} {bound : Nat}
  {options : GenerationOptions} {roots : Roots} {schedule : Scheduling.Schedule}
  {run : RecordedRun σ} {report : Report} {path : Path} {size : Nat}

/-- A run that writes its output declares in it each interface once at most, but for the names in
the headers that are nested in the blocks it has kept from the earlier output. -/
theorem declared_once_of_recordBy {nested : List String}
    (hrun : run = recordBy reached storage options (schedule.resolve bound roots))
    (hok : run.result = .ok report) (hwritten : report.write = some (.written path size))
    (hflat : ∀ schema ∈ run.loaded, schema.IsFlat)
    (hnested : nested = ((earlierInterfaces reached storage options).keptBeside
      (run.emitted.map Prod.snd)).flatMap Interface.nestedNames) :
    ∃ bytes, run.events.getLast? = some ⟨.writeAtomic options.outputPath bytes, .ok ()⟩ ∧
      (∃ own : List String, own.Sublist run.progress.interfaces.names ∧
        (headerNames (lines (decodeUtf8Lossy bytes).toList)).Perm (own ++ nested)) ∧
      ∀ name ∉ nested, (headerNames (lines (decodeUtf8Lossy bytes).toList)).count name ≤ 1 := by
  obtain ⟨findings, inserted, h, -⟩ := settled_of_recordBy hrun hok
  have hflatInserted : ∀ schema ∈ inserted, schema.IsFlat := fun schema hschema =>
    hflat schema (h.mem_loaded schema hschema)
  obtain ⟨own, hown, hperm⟩ := InterfaceSet.headerNames_render_insertAll
    isDelimited_of_mem_earlierInterfaces hflatInserted
  rw [← h.figures.interfaces, InterfaceSet.keptBeside_perm h.inserted_perm, ← hnested] at hperm
  rw [← h.figures.interfaces] at hown
  refine ⟨_, getLast?_events_of_written hrun hok hwritten, ?_⟩
  rw [decodeUtf8Lossy_encodeUtf8]
  refine ⟨⟨own, hown, hperm⟩, ?_⟩
  intro name hname
  have hnodup : own.Nodup := hown.nodup (InterfaceSet.nodup _)
  rw [hperm.count_eq, List.count_append, List.count_eq_zero_of_not_mem hname]
  exact List.nodup_iff_count_le_one.1 hnodup name

end Runs

section Nested

def unclosedText : String :=
  "// Last updated: 7\nexport interface K extends DocType \x7b\n" ++ earlierItem

/-- The bills, with an output in which the item stands inside another block. -/
def nestedStorage : Memory :=
  billStorage.insert (.ofText "/t") (encodeUtf8 unclosedText)

theorem nestedRun :
    ((recordRun Memory.answer nestedStorage 4 billOptions billRoots).result.toOption.bind
        Report.write).any WriteResult.wasWritten = true ∧
      (recordRun Memory.answer nestedStorage 4 billOptions billRoots).loaded =
        [billSchema, itemSchema] ∧
      (earlierInterfaces Memory.answer nestedStorage billOptions).toList.flatMap
        Interface.nestedNames = ["I"] ∧
      (recordRun Memory.answer nestedStorage 4 billOptions
        billRoots).progress.interfaces.toList.flatMap Interface.headers = ["K", "I", "I", "B"] := by
  decide +kernel

theorem nested_isFlat :
    ∀ schema ∈ (recordRun Memory.answer nestedStorage 4 billOptions billRoots).loaded,
      schema.IsFlat := by
  obtain ⟨-, hloaded, -, -⟩ := nestedRun
  rw [hloaded]
  decide

theorem nestedRun_depthFirst :
    recordRun Memory.answer nestedStorage 4 billOptions billRoots =
      recordBy Memory.answer nestedStorage billOptions
        (Scheduling.Schedule.depthFirst.resolve 4 billRoots) := rfl

theorem nested_bill_declared_once :
    ∃ bytes, (recordRun Memory.answer nestedStorage 4 billOptions billRoots).events.getLast? =
        some ⟨.writeAtomic (.ofText "/t") bytes, .ok ()⟩ ∧
      (headerNames (lines (decodeUtf8Lossy bytes).toList)).count "B" ≤ 1 := by
  obtain ⟨hwrote, -, hnested, -⟩ := nestedRun
  obtain ⟨report, path, size, hok, hwritten⟩ := exists_written hwrote
  obtain ⟨bytes, hlast, -, hdeclared⟩ :=
    declared_once_of_recordBy nestedRun_depthFirst hok hwritten nested_isFlat rfl
  refine ⟨bytes, hlast, hdeclared "B" ?_⟩
  intro hname
  obtain ⟨interface, hkept, hname⟩ := List.mem_flatMap.1 hname
  have hmem := List.mem_flatMap.2 ⟨interface, (List.mem_filter.1 hkept).1, hname⟩
  rw [hnested] at hmem
  exact absurd hmem (by decide)

/-- A run may declare an interface that stands in a block of the earlier output once more. -/
theorem declared_twice_beside_nested :
    ¬ ∀ (memory : Memory) (bound : Nat) (options : GenerationOptions) (roots : Roots)
      (report : Report) (path : Path) (size : Nat) (bytes : Bytes) (name : String),
      (recordRun Memory.answer memory bound options roots).result = .ok report →
      report.write = some (.written path size) →
      (∀ schema ∈ (recordRun Memory.answer memory bound options roots).loaded, schema.IsFlat) →
      (recordRun Memory.answer memory bound options roots).events.getLast? =
        some ⟨.writeAtomic options.outputPath bytes, .ok ()⟩ →
      (headerNames (lines (decodeUtf8Lossy bytes).toList)).count name ≤ 1 := by
  intro h
  obtain ⟨hwrote, -, -, hheaders⟩ := nestedRun
  obtain ⟨report, path, size, hok, hwritten⟩ := exists_written hwrote
  have hlast := getLast?_events_of_written nestedRun_depthFirst hok hwritten
  obtain ⟨findings, inserted, hsettled, -⟩ := settled_of_recordBy nestedRun_depthFirst hok
  have hearlier : ∀ interface ∈
      (earlierInterfaces Memory.answer nestedStorage billOptions).toList, interface.IsDelimited :=
    isDelimited_of_mem_earlierInterfaces
  have hheaded := InterfaceSet.isHeaded_of_mem_insertAll hearlier fun schema hschema =>
    nested_isFlat schema (hsettled.mem_loaded schema hschema)
  rw [← hsettled.figures.interfaces] at hheaded
  have hcount := h nestedStorage 4 billOptions billRoots report path size _ "I" hok hwritten
    nested_isFlat hlast
  rw [decodeUtf8Lossy_encodeUtf8, InterfaceSet.headerNames_render hheaded, hheaders] at hcount
  exact absurd hcount (by decide)

end Nested

end DoctypeInterfaces
