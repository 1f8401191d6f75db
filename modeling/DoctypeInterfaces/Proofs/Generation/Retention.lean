import DoctypeInterfaces.Proofs.Interface.Reread
import DoctypeInterfaces.Proofs.Scheduling.Tally
import DoctypeInterfaces.Proofs.Text.Utf8

namespace DoctypeInterfaces

open Storage

theorem decide_notMem_of_emitted {emitted : List DoctypeSchema} :
    ∀ new ∈ emitted.map DoctypeSchema.toInterface, ∀ interface : Interface,
      interface.name = new.name →
      decide (interface.name ∉ emitted.map DoctypeSchema.interfaceName) = false := by
  intro new hnew interface hname
  obtain ⟨schema, hschema, rfl⟩ := List.mem_map.1 hnew
  have hmem : interface.name ∈ emitted.map DoctypeSchema.interfaceName :=
    List.mem_map.2 ⟨schema, hschema, hname.symm⟩
  simp [hmem]

/-- The interfaces of an earlier output that are kept beside the emitted ones. -/
def InterfaceSet.keptBeside (earlier : InterfaceSet) (emitted : List DoctypeSchema) :
    List Interface :=
  earlier.toList.filter fun interface => interface.name ∉ emitted.map DoctypeSchema.interfaceName

theorem InterfaceSet.keptBeside_perm {earlier : InterfaceSet} {emitted other : List DoctypeSchema}
    (h : emitted.Perm other) : earlier.keptBeside emitted = earlier.keptBeside other := by
  apply List.filter_congr
  intro interface _
  exact decide_eq_decide.2 (not_congr (h.map DoctypeSchema.interfaceName).mem_iff)

theorem InterfaceSet.keptBeside_sublist_ofOutput_insertAll {earlier : InterfaceSet}
    {emitted : List DoctypeSchema} (hearlier : ∀ interface ∈ earlier.toList, interface.IsDelimited)
    (hflat : ∀ schema ∈ emitted, schema.IsFlat) :
    (earlier.keptBeside emitted).Sublist
      (ofOutput (earlier.insertAll (emitted.map DoctypeSchema.toInterface)).render).toList := by
  rw [keptBeside, ← filter_insertAll decide_notMem_of_emitted]
  apply filter_sublist_ofOutput_render
  · intro interface hinterface
    rcases mem_of_mem_insertAll hinterface with hemitted | hold
    · obtain ⟨schema, hschema, rfl⟩ := List.mem_map.1 hemitted
      exact (hflat schema hschema).isContained
    · exact (hearlier interface hold).isContained
  · intro interface hinterface hkeep
    rcases mem_of_mem_insertAll hinterface with hemitted | hold
    · rw [decide_notMem_of_emitted interface hemitted interface rfl] at hkeep
      cases hkeep
    · exact hearlier interface hold

section Runs

variable {σ : Type} {reached : (c : Call) → StateM σ c.Answer} {storage : σ} {bound : Nat}
  {options : GenerationOptions} {roots : Roots} {schedule : Scheduling.Schedule}
  {run : RecordedRun σ} {report : Report} {path : Path} {size : Nat}

theorem getLast?_events_of_written
    (hrun : run = recordBy reached storage options (schedule.resolve bound roots))
    (hok : run.result = .ok report) (hwritten : report.write = some (.written path size)) :
    run.events.getLast? = some ⟨.writeAtomic options.outputPath
      (Text.encodeUtf8 run.progress.interfaces.render), .ok ()⟩ := by
  obtain ⟨hends, -⟩ := recordBy_eq_iff.1 hrun.symm
  rw [hok] at hends
  obtain ⟨earlier, resolved, write, reading, looking, writing, -, -, hfinish, rfl, hevents⟩ :=
    Resolution.ends_generationBy_ok_iff.1 hends
  obtain rfl : write = some (.written path size) := hwritten
  rw [hevents, interfaces_of_finish hfinish]
  rw [Resolution.ends_finish_ok_iff] at hfinish
  split at hfinish
  · cases hfinish.2.1
  obtain ⟨result, hresult, hwrites, -⟩ := hfinish
  obtain rfl := Option.some.inj hresult
  rw [execution_writeOutput_ok_iff] at hwrites
  split at hwrites
  · cases hwrites.2
  rw [hwrites.1, writeEvents, ← List.append_assoc, ← List.append_assoc, List.getLast?_concat]

/-- A run that writes its output retains in it the earlier interfaces of other names than those that
it has emitted. -/
theorem retains_of_recordBy
    (hrun : run = recordBy reached storage options (schedule.resolve bound roots))
    (hok : run.result = .ok report) (hwritten : report.write = some (.written path size))
    (hflat : ∀ schema ∈ run.loaded, schema.IsFlat) :
    ∃ bytes, run.events.getLast? = some ⟨.writeAtomic options.outputPath bytes, .ok ()⟩ ∧
      (∃ inserted : List DoctypeSchema, inserted.Perm (run.emitted.map Prod.snd) ∧
        run.progress.interfaces = (earlierInterfaces reached storage options).insertAll
          (inserted.map DoctypeSchema.toInterface)) ∧
      ((earlierInterfaces reached storage options).keptBeside (run.emitted.map Prod.snd)).Sublist
        (InterfaceSet.ofOutput (Text.decodeUtf8Lossy bytes)).toList := by
  obtain ⟨findings, inserted, h, -⟩ := settled_of_recordBy hrun hok
  refine ⟨_, getLast?_events_of_written hrun hok hwritten,
    ⟨inserted, h.inserted_perm, h.figures.interfaces⟩, ?_⟩
  rw [Text.decodeUtf8Lossy_encodeUtf8, h.figures.interfaces,
    ← InterfaceSet.keptBeside_perm h.inserted_perm]
  apply InterfaceSet.keptBeside_sublist_ofOutput_insertAll isDelimited_of_mem_earlierInterfaces
  exact fun schema hschema => hflat schema (h.mem_loaded schema hschema)

end Runs

section Kept

def keptInterface : Interface :=
  ⟨"K", "7", "// Last updated: 7\nexport interface K extends ChildDocType \x7b\n\x7d\n"⟩

/-- The bills, with an output that holds that interface only. -/
def keptStorage : Memory :=
  billStorage.insert (.ofText "/t") (Text.encodeUtf8 keptInterface.block)

theorem keptRun :
    ((recordBy Memory.answer keptStorage billOptions
        (billSchedule.resolve 4 bothRoots)).result.toOption.bind
        Report.write).any WriteResult.wasWritten = true ∧
      (recordBy Memory.answer keptStorage billOptions
        (billSchedule.resolve 4 bothRoots)).loaded = [billSchema, itemSchema] ∧
      (recordBy Memory.answer keptStorage billOptions
        (billSchedule.resolve 4 bothRoots)).emitted = [("b", billSchema), ("i", itemSchema)] ∧
      (earlierInterfaces Memory.answer keptStorage billOptions).toList = [keptInterface] := by
  decide +kernel

theorem exists_written {result : Except Failure Report}
    (h : (result.toOption.bind Report.write).any WriteResult.wasWritten = true) :
    ∃ report path size, result = .ok report ∧ report.write = some (.written path size) := by
  cases result with
  | error => cases h
  | ok report =>
    obtain ⟨write, hwrite, hwas⟩ := (Option.any_eq_true _ _).1 h
    cases write with
    | dryRun => cases hwas
    | written path size => exact ⟨report, path, size, rfl, hwrite⟩

/-- The interface made by hand is still found when the bills have been written with it. -/
theorem kept_retained :
    ∃ bytes, (recordBy Memory.answer keptStorage billOptions
        (billSchedule.resolve 4 bothRoots)).events.getLast? =
        some ⟨.writeAtomic (.ofText "/t") bytes, .ok ()⟩ ∧
      keptInterface ∈ (InterfaceSet.ofOutput (Text.decodeUtf8Lossy bytes)).toList := by
  obtain ⟨hwrote, hloaded, hemitted, hearlier⟩ := keptRun
  obtain ⟨report, path, size, hok, hwritten⟩ := exists_written hwrote
  have hflat : ∀ schema ∈ (recordBy Memory.answer keptStorage billOptions
      (billSchedule.resolve 4 bothRoots)).loaded, schema.IsFlat := by
    rw [hloaded]
    decide
  obtain ⟨bytes, hlast, -, hretains⟩ := retains_of_recordBy rfl hok hwritten hflat
  refine ⟨bytes, hlast, hretains.subset ?_⟩
  rw [hemitted, InterfaceSet.keptBeside, hearlier]
  decide

end Kept

end DoctypeInterfaces
