import DoctypeInterfaces.Proofs.Generation.Writing
import DoctypeInterfaces.Proofs.Storage.Faults

namespace DoctypeInterfaces

open Storage

section Events

theorem kind_ne_of_observes {c : Call} (h : c.observes = true) : c.kind ≠ .writeAtomic := by
  intro hkind
  cases c with
  | writeAtomic => cases h
  | read | listDir | createDirAll | isPresent | overwrite => cases hkind

theorem kind_ne_of_mem_dirEvents {path : Path} :
    ∀ e ∈ dirEvents path, e.call.kind ≠ .writeAtomic := by
  intro e he
  obtain ⟨dir, -, rfl⟩ := Option.map_eq_some_iff.1 (Option.mem_toList.1 he)
  intro hkind
  cases hkind

variable {front : List Event} {last : Event}

theorem countP_writeAtomic_concat_le (h : ∀ e ∈ front, e.call.kind ≠ .writeAtomic) :
    (front ++ [last]).countP (fun e => e.call.kind = .writeAtomic) ≤ 1 := by
  have hfront : front.countP (fun e => e.call.kind = .writeAtomic) = 0 := by
    rw [List.countP_eq_zero]
    intro e he
    simpa using h e he
  rw [List.countP_append, hfront, Nat.zero_add]
  exact List.countP_le_length

theorem eq_of_mem_concat (h : ∀ e ∈ front, e.call.kind ≠ .writeAtomic) :
    ∀ e ∈ front ++ [last], e.call.kind = .writeAtomic → e = last := by
  intro e he hkind
  rcases List.mem_append.1 he with he | he
  · exact absurd hkind (h e he)
  · exact List.mem_singleton.1 he

end Events

section Runs

variable {σ : Type} {reached : (c : Call) → StateM σ c.Answer} {memory : σ → Memory} {storage : σ}
  {bound : Nat} {options : GenerationOptions} {roots : Roots} {run : RecordedRun σ}
  {earlier : InterfaceSet}

/-- Whether a run has written its output once, in the end and for something new, or has left the
files of the storage as they were. -/
structure RecordedRun.AllOrNothing (run : RecordedRun σ) (memory : σ → Memory) (storage : σ)
    (bound : Nat) (options : GenerationOptions) (roots : Roots) (earlier : InterfaceSet) :
    Prop where
  once : run.events.countP (fun e => e.call.kind = .writeAtomic) ≤ 1
  last : ∀ e ∈ run.events, e.call.kind = .writeAtomic →
    run.events.getLast? = some e ∧ e.call.path = options.outputPath
  reason : ∀ e ∈ run.events, e.call.kind = .writeAtomic →
    options.dryRun = false ∧
      ∃ emitted, emitted ≠ [] ∧ run.Emits bound options roots earlier emitted
  failed : ∀ failure, run.result = .error failure →
    (memory run.storage).tree.files = (memory storage).tree.files ∧
      (memory storage).tree.dirs <+: (memory run.storage).tree.dirs
  unattempted : ∀ failure, run.result = .error failure →
    (∀ e ∈ run.events, e.call.kind ≠ .writeAtomic) →
      (memory run.storage).tree = (memory storage).tree
  unwritten : ∀ report, run.result = .ok report →
    (∀ write ∈ report.write, write.wasWritten = false) →
      (memory run.storage).tree = (memory storage).tree

theorem allOrNothing_of_unattempted (htree : (memory run.storage).tree = (memory storage).tree)
    (hnone : ∀ e ∈ run.events, e.call.kind ≠ .writeAtomic) :
    run.AllOrNothing memory storage bound options roots earlier := by
  constructor
  case once =>
    have hzero : run.events.countP (fun e => e.call.kind = .writeAtomic) = 0 := by
      rw [List.countP_eq_zero]
      intro e he
      simpa using hnone e he
    rw [hzero]
    exact Nat.zero_le 1
  case last => exact fun e he hkind => absurd hkind (hnone e he)
  case reason => exact fun e he hkind => absurd hkind (hnone e he)
  case failed =>
    intro failure _
    rw [htree]
    exact ⟨rfl, List.prefix_rfl⟩
  case unattempted => exact fun _ _ _ => htree
  case unwritten => exact fun _ _ _ => htree

theorem files_eq_of_dirEvents {path : Path} {s s' : σ} (hmemory : IsBehind memory reached)
    (h : Transcript reached s (dirEvents path) s') :
    (memory s').tree.files = (memory s).tree.files ∧
      (memory s).tree.dirs <+: (memory s').tree.dirs := by
  rw [dirEvents] at h
  cases hdir : path.dir? with
  | none =>
    rw [hdir] at h
    cases h
    exact ⟨rfl, List.prefix_rfl⟩
  | some dir =>
    rw [hdir] at h
    obtain ⟨-, rfl⟩ := Transcript.singleton_iff.1 h
    exact hmemory.files_eq_of_createDirAll

theorem allOrNothing_of_attempted {front : List Event} {bytes : Bytes}
    {answer : Except IoError Unit}
    (hevents : run.events = front ++ [⟨.writeAtomic options.outputPath bytes, answer⟩])
    (hfront : ∀ e ∈ front, e.call.kind ≠ .writeAtomic) (hreal : options.dryRun = false)
    (hemits : ∃ emitted, emitted ≠ [] ∧ run.Emits bound options roots earlier emitted)
    (hfailed : ∀ failure, run.result = .error failure →
      (memory run.storage).tree.files = (memory storage).tree.files ∧
        (memory storage).tree.dirs <+: (memory run.storage).tree.dirs)
    (hwritten : ∀ report, run.result = .ok report → ∃ write ∈ report.write,
      write.wasWritten = true) :
    run.AllOrNothing memory storage bound options roots earlier := by
  constructor
  case once =>
    rw [hevents]
    exact countP_writeAtomic_concat_le hfront
  case last =>
    intro e he hkind
    rw [hevents] at he
    rw [eq_of_mem_concat hfront e he hkind, hevents, List.getLast?_concat]
    exact ⟨rfl, rfl⟩
  case reason => exact fun _ _ _ => ⟨hreal, hemits⟩
  case failed => exact hfailed
  case unattempted =>
    intro failure _ hnone
    rw [hevents] at hnone
    exact absurd rfl (hnone _ (List.mem_append_right front (List.mem_singleton_self _)))
  case unwritten =>
    intro report hok hnone
    obtain ⟨write, hwrite, hwas⟩ := hwritten report hok
    rw [hnone write hwrite] at hwas
    cases hwas

theorem allOrNothing_of_writes {looking writing : List Event}
    {written : Except Failure WriteResult} (hmemory : IsBehind memory reached)
    (htranscript : Transcript reached storage run.events run.storage)
    (h : run.Writes bound options roots earlier looking writing written) :
    run.AllOrNothing memory storage bound options roots earlier := by
  have hevents := h.events
  have hreplaced := h.replaced
  have hresult := h.result
  have hlooking : ∀ e ∈ looking, e.call.kind ≠ .writeAtomic := fun e he =>
    kind_ne_of_observes (h.observes e he)
  have hfront : ∀ e ∈ looking ++ dirEvents options.outputPath, e.call.kind ≠ .writeAtomic :=
    List.forall_mem_append.2 ⟨hlooking, kind_ne_of_mem_dirEvents⟩
  rw [hevents] at htranscript
  obtain ⟨middle, hlooked, hwriting⟩ := Transcript.append_iff.1 htranscript
  have hmiddle := hmemory.tree_eq_of_transcript hlooked h.observes
  cases hreplaced with
  | dirFailed dir e hdir =>
    have hnone : ∀ e ∈ run.events, e.call.kind ≠ .writeAtomic := by
      rw [hevents]
      apply List.forall_mem_append.2 ⟨hlooking, _⟩
      simp [Call.kind]
    obtain ⟨hfailed, hafter⟩ := Transcript.singleton_iff.1 hwriting
    have htree : (memory run.storage).tree = (memory middle).tree := by
      rw [hafter]
      exact hmemory.tree_eq_of_failure hfailed.symm
    exact allOrNothing_of_unattempted (htree.trans hmiddle) hnone
  | writeFailed e =>
    obtain ⟨created, hcreating, hlast⟩ := Transcript.append_iff.1 hwriting
    obtain ⟨hfailed, hafter⟩ := Transcript.singleton_iff.1 hlast
    have hcreated := files_eq_of_dirEvents hmemory hcreating
    have htree : (memory run.storage).tree = (memory created).tree := by
      rw [hafter]
      exact hmemory.tree_eq_of_failure hfailed.symm
    rw [← List.append_assoc] at hevents
    apply allOrNothing_of_attempted hevents hfront h.real h.emits
    · intro failure _
      rw [htree, ← hmiddle]
      exact hcreated
    · intro report hok
      rw [hok] at hresult
      cases hresult
  | written =>
    rw [writeEvents, ← dirEvents, ← List.append_assoc] at hevents
    apply allOrNothing_of_attempted hevents hfront h.real h.emits
    · intro failure herror
      rw [herror] at hresult
      cases hresult
    · intro report hok
      rw [hok] at hresult
      exact ⟨_, Except.ok.inj hresult, rfl⟩

/-- On a storage whose calls may fail, a run does all or nothing. -/
theorem allOrNothing_of_recordRun (hmemory : IsBehind memory reached)
    (hrun : run = recordRun reached storage bound options roots) :
    run.AllOrNothing memory storage bound options roots
      (earlierInterfaces reached storage options) := by
  obtain ⟨-, htranscript⟩ := recordRun_eq_iff.1 hrun.symm
  have hcases : (∀ e ∈ run.events, e.call.observes = true) ∨
      ∃ looking writing written, run.Writes bound options roots
        (earlierInterfaces reached storage options) looking writing written := by
    cases hresult : run.result with
    | ok report => exact (looks_or_writes_of_ok hrun hresult).imp_left And.left
    | error failure => exact looks_or_writes_of_error hrun hresult
  rcases hcases with hlooking | ⟨looking, writing, written, hwrites⟩
  · have htree := hmemory.tree_eq_of_transcript htranscript hlooking
    exact allOrNothing_of_unattempted htree fun e he => kind_ne_of_observes (hlooking e he)
  · exact allOrNothing_of_writes hmemory htranscript hwrites

end Runs

section Faulty

def faultyOptions : GenerationOptions :=
  ⟨(.ofText "/"), (.ofText "/o/t"), false⟩

/-- The bills, where the output cannot be put in its place. -/
def faultyStorage : Observed Memory :=
  ⟨billStorage, [⟨.writeAtomic, (.ofText "/o/t"), ⟨.timedOut, ""⟩⟩], []⟩

theorem faultyRun :
    (recordRun (Observed.answer Memory.answer) faultyStorage 4 faultyOptions
        billRoots).result.toOption.isNone = true ∧
      (recordRun (Observed.answer Memory.answer) faultyStorage 4 faultyOptions
        billRoots).storage.storage.tree.dirs = billStorage.tree.dirs ++ [(.ofText "/o")] := by
  decide +kernel

/-- A run that could not put its output in its place has only created the directory for it. -/
theorem faulty_run_keeps_files :
    (recordRun (Observed.answer Memory.answer) faultyStorage 4 faultyOptions
        billRoots).storage.storage.tree.files = billStorage.tree.files ∧
      (recordRun (Observed.answer Memory.answer) faultyStorage 4 faultyOptions
        billRoots).storage.storage.tree.dirs = billStorage.tree.dirs ++ [(.ofText "/o")] := by
  obtain ⟨hnone, hdirs⟩ := faultyRun
  cases hresult : (recordRun (Observed.answer Memory.answer) faultyStorage 4 faultyOptions
      billRoots).result with
  | ok report =>
    rw [hresult] at hnone
    cases hnone
  | error failure =>
    have hrun := allOrNothing_of_recordRun Observed.isBehind (rfl : recordRun (Observed.answer
      Memory.answer) faultyStorage 4 faultyOptions billRoots = _)
    exact ⟨(hrun.failed failure hresult).1, hdirs⟩

end Faulty

end DoctypeInterfaces
