import DoctypeInterfaces.Proofs.Storage.Execution
import DoctypeInterfaces.Storage.Memory

namespace DoctypeInterfaces.Storage

/-- Whether a call only looks at a storage. -/
def Call.observes : Call → Bool
  | .read _ => true
  | .listDir _ => true
  | .createDirAll _ => false
  | .writeAtomic _ _ => false
  | .isPresent _ => true
  | .overwrite _ _ => false

namespace Memory

/-- What a storage answers to a call. -/
def view (memory : Memory) (c : Call) : c.Answer :=
  ((answer c).run memory).1

def Answers (memory : Memory) (e : Event) : Prop :=
  e.answer = memory.view e.call ∨ ∃ error, e.answer = e.call.failure error

theorem Answers.view_listDir {memory : Memory} {dir : Path} {entries : List DirEntry}
    (h : memory.Answers ⟨.listDir dir, .ok entries⟩) :
    memory.view (.listDir dir) = .ok entries := by
  rcases h with hview | ⟨error, hfailed⟩
  · exact hview.symm
  · cases hfailed

theorem Answers.view_read {memory : Memory} {path : Path} {bytes : Bytes}
    (h : memory.Answers ⟨.read path, .ok bytes⟩) : memory.view (.read path) = .ok bytes := by
  rcases h with hview | ⟨error, hfailed⟩
  · exact hview.symm
  · cases hfailed

theorem mem_files_of_read {memory : Memory} {path : Path} {bytes : Bytes}
    (h : memory.view (.read path) = .ok bytes) : bytes ∈ memory.tree.files.map Prod.snd := by
  have hcontents : memory.contents path = .ok bytes := h
  rw [contents] at hcontents
  split at hcontents
  · next stored hget =>
    obtain rfl := Except.ok.inj hcontents
    obtain ⟨entry, hentry, rfl⟩ := Option.map_eq_some_iff.1 hget
    exact List.mem_map_of_mem (List.mem_of_find?_eq_some hentry)
  · cases hcontents

def Alike (memory other : Memory) : Prop :=
  other.tree = memory.tree ∧ other.failing = memory.failing

variable {memory other later : Memory} {c : Call} {events : List Event}

theorem Alike.refl (memory : Memory) : memory.Alike memory :=
  ⟨rfl, rfl⟩

theorem Alike.trans (h : memory.Alike other) (h' : other.Alike later) : memory.Alike later :=
  ⟨h'.1.trans h.1, h'.2.trans h.2⟩

theorem Alike.view_eq (h : memory.Alike other) (c : Call) : other.view c = memory.view c := by
  obtain ⟨htree, hfailing⟩ := h
  cases c with
  | read p => simp only [view, answer, StateT.run, contents, htree]
  | listDir p => simp only [view, answer, StateT.run, listing, htree, hfailing]
  | createDirAll p => rfl
  | writeAtomic p bytes =>
    simp only [view, answer, StateT.run, writing, htree]
    split <;> rfl
  | isPresent p => simp only [view, answer, StateT.run, htree]
  | overwrite p bytes =>
    simp only [view, answer, StateT.run, writing, htree]
    split <;> rfl

theorem alike_of_observes (memory : Memory) (h : c.observes = true) :
    memory.Alike ((answer c).run memory).2 := by
  cases c with
  | read p => exact ⟨rfl, rfl⟩
  | listDir p => exact ⟨rfl, rfl⟩
  | createDirAll p => cases h
  | writeAtomic p bytes => cases h
  | isPresent p => exact ⟨rfl, rfl⟩
  | overwrite p bytes => cases h

theorem alike_of_transcript (h : Transcript answer memory events other)
    (hobserves : ∀ e ∈ events, e.call.observes = true) : memory.Alike other := by
  induction h with
  | nil => exact .refl _
  | @cons s _ _ c _ ih =>
    have hfirst := alike_of_observes s (hobserves _ List.mem_cons_self)
    exact hfirst.trans (ih fun e he => hobserves e (List.mem_cons_of_mem _ he))

theorem answer_eq_view (h : Transcript answer memory events other)
    (hobserves : ∀ e ∈ events, e.call.observes = true) :
    ∀ e ∈ events, e.answer = memory.view e.call := by
  induction h with
  | nil => simp
  | @cons s _ _ c _ ih =>
    intro e he
    rcases List.mem_cons.1 he with rfl | he
    · rfl
    · have hfirst := alike_of_observes s (hobserves _ List.mem_cons_self)
      rw [ih (fun e he => hobserves e (List.mem_cons_of_mem _ he)) e he]
      exact hfirst.view_eq e.call

theorem transcript_of_view (hobserves : ∀ e ∈ events, e.call.observes = true)
    (hview : ∀ e ∈ events, e.answer = memory.view e.call) :
    ∃ after, Transcript answer memory events after ∧ memory.Alike after := by
  induction events generalizing memory with
  | nil => exact ⟨memory, .nil _, .refl _⟩
  | cons e events ih =>
    obtain ⟨c, a⟩ := e
    obtain rfl : a = memory.view c := hview _ List.mem_cons_self
    have hfirst := alike_of_observes memory (hobserves _ List.mem_cons_self)
    obtain ⟨after, hafter, halike⟩ := ih (fun e he => hobserves e (List.mem_cons_of_mem _ he))
      fun e he => (hview e (List.mem_cons_of_mem _ he)).trans (hfirst.view_eq e.call).symm
    exact ⟨after, .cons c hafter, hfirst.trans halike⟩

end Memory

end DoctypeInterfaces.Storage
