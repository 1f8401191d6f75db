import DoctypeInterfaces.Proofs.Storage.Frame
import DoctypeInterfaces.Storage.Observed

namespace DoctypeInterfaces.Storage

namespace Memory

variable {memory : Memory} {c : Call} {e : IoError}

theorem tree_eq_of_view_failure (h : memory.view c = c.failure e) :
    ((answer c).run memory).2.tree = memory.tree := by
  cases c with
  | read p => rfl
  | listDir p => rfl
  | createDirAll p => cases h
  | writeAtomic p bytes =>
    simp only [view, Call.failure, answer, StateT.run] at h ⊢
    split at h
    · cases h
    · rfl
  | isPresent p => rfl
  | overwrite p bytes =>
    simp only [view, Call.failure, answer, StateT.run] at h ⊢
    split at h
    · cases h
    · rfl

theorem get?_of_view_writeAtomic {p : Path} {bytes : Bytes}
    (h : memory.view (.writeAtomic p bytes) = .ok ()) :
    ((answer (.writeAtomic p bytes)).run memory).2.tree.files.get? p = some bytes := by
  simp only [view, answer, StateT.run] at h ⊢
  cases hwriting : memory.writing p bytes with
  | error e =>
    rw [hwriting] at h
    cases h
  | ok tree =>
    rw [writing] at hwriting
    split at hwriting
    · cases hwriting
    · rw [← Except.ok.inj hwriting]
      exact PathMap.get?_put_self

end Memory

section Behind

variable {σ : Type} {reached : (c : Call) → StateM σ c.Answer} {memory : σ → Memory} {s s' : σ}

/-- Whether each call to a storage is answered by the memory behind it, or fails before it gets
there. -/
def IsBehind (memory : σ → Memory) (reached : (c : Call) → StateM σ c.Answer) : Prop :=
  ∀ c s, ((reached c).run s).1 = (memory s).view c ∧
      memory ((reached c).run s).2 = ((Memory.answer c).run (memory s)).2 ∨
    (∃ e, ((reached c).run s).1 = c.failure e) ∧ memory ((reached c).run s).2 = memory s

theorem Observed.isBehind : IsBehind Observed.storage (Observed.answer Memory.answer) := by
  intro c observed
  simp only [Observed.answer, StateT.run]
  split
  · next fault hfault => exact .inr ⟨⟨fault.error, rfl⟩, rfl⟩
  · exact .inl ⟨rfl, rfl⟩

theorem Memory.isBehind : IsBehind id Memory.answer :=
  fun _ _ => .inl ⟨rfl, rfl⟩

namespace IsBehind

theorem get?_of_writeAtomic {p : Path} {bytes : Bytes} (h : IsBehind memory reached)
    (hok : ((reached (.writeAtomic p bytes)).run s).1 = .ok ()) :
    (memory ((reached (.writeAtomic p bytes)).run s).2).tree.files.get? p = some bytes := by
  rcases h (.writeAtomic p bytes) s with ⟨hanswer, hnext⟩ | ⟨⟨e, hfailed⟩, -⟩
  · rw [hnext]
    exact Memory.get?_of_view_writeAtomic (hanswer.symm.trans hok)
  · rw [hok] at hfailed
    cases hfailed

theorem tree_eq_of_observes {c : Call} (h : IsBehind memory reached) (hc : c.observes = true) :
    (memory ((reached c).run s).2).tree = (memory s).tree := by
  rcases h c s with ⟨-, hnext⟩ | ⟨-, hnext⟩
  · rw [hnext]
    exact ((memory s).alike_of_observes hc).1
  · rw [hnext]

theorem tree_eq_of_failure {c : Call} {e : IoError} (h : IsBehind memory reached)
    (hfailed : ((reached c).run s).1 = c.failure e) :
    (memory ((reached c).run s).2).tree = (memory s).tree := by
  rcases h c s with ⟨hanswer, hnext⟩ | ⟨-, hnext⟩
  · rw [hnext]
    exact Memory.tree_eq_of_view_failure (hanswer.symm.trans hfailed)
  · rw [hnext]

theorem files_eq_of_createDirAll {dir : Path} (h : IsBehind memory reached) :
    (memory ((reached (.createDirAll dir)).run s).2).tree.files = (memory s).tree.files ∧
      (memory s).tree.dirs <+: (memory ((reached (.createDirAll dir)).run s).2).tree.dirs := by
  rcases h (.createDirAll dir) s with ⟨-, hnext⟩ | ⟨-, hnext⟩
  · obtain ⟨created, hdirs, -⟩ := (memory s).tree.dirs_createDirAll dir
    rw [hnext]
    exact ⟨rfl, created, hdirs.symm⟩
  · rw [hnext]
    exact ⟨rfl, List.prefix_rfl⟩

theorem tree_eq_of_transcript {events : List Event} (h : IsBehind memory reached)
    (htranscript : Transcript reached s events s')
    (hobserves : ∀ e ∈ events, e.call.observes = true) :
    (memory s').tree = (memory s).tree := by
  induction htranscript with
  | nil => rfl
  | cons c _ ih =>
    rw [ih fun e he => hobserves e (List.mem_cons_of_mem _ he)]
    exact h.tree_eq_of_observes (hobserves _ List.mem_cons_self)

/-- While a storage is only looked at, its calls are answered by the memory that was behind it from
the start, or fail. -/
theorem answers_of_transcript {events : List Event} (h : IsBehind memory reached)
    (htranscript : Transcript reached s events s')
    (hobserves : ∀ e ∈ events, e.call.observes = true) :
    ∀ e ∈ events, (memory s).Answers e := by
  have hall : ∀ other : Memory, other.Alike (memory s) → ∀ e ∈ events, other.Answers e := by
    induction htranscript with
    | nil => simp
    | @cons s _ _ c _ ih =>
      obtain ⟨hc, hrest⟩ := List.forall_mem_cons.1 hobserves
      intro other halike
      rcases h c s with ⟨hanswer, hnext⟩ | ⟨hfailed, hnext⟩
      · refine List.forall_mem_cons.2 ⟨.inl (hanswer.trans (halike.view_eq c)), ?_⟩
        apply ih hrest
        rw [hnext]
        exact halike.trans (Memory.alike_of_observes _ hc)
      · refine List.forall_mem_cons.2 ⟨.inr hfailed, ?_⟩
        apply ih hrest
        rw [hnext]
        exact halike
  exact hall _ (.refl _)

end IsBehind

end Behind

end DoctypeInterfaces.Storage
