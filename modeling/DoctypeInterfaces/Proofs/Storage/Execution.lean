import DoctypeInterfaces.Storage.Program

namespace DoctypeInterfaces.Storage

structure Event where
  call : Call
  answer : call.Answer

/-- What a program does and gives when its calls are answered in a certain way. -/
inductive Execution {α : Type} : Program α → List Event → α → Prop where
  | done (a : α) : Execution (.done a) [] a
  | call {c : Call} {next : c.Answer → Program α} {answer : c.Answer} {events : List Event}
      {a : α} :
    Execution (next answer) events a → Execution (.call c next) (⟨c, answer⟩ :: events) a

namespace Execution

variable {α β : Type} {a : α} {b : β} {c : Call} {events : List Event} {program : Program α}

@[simp] theorem done_iff {a' : α} : Execution (.done a') events a ↔ events = [] ∧ a = a' := by
  constructor
  · intro h
    cases h
    exact ⟨rfl, rfl⟩
  · rintro ⟨rfl, rfl⟩
    exact .done _

theorem call_iff {next : c.Answer → Program α} :
    Execution (.call c next) events a ↔
      ∃ answer rest, events = ⟨c, answer⟩ :: rest ∧ Execution (next answer) rest a := by
  constructor
  · intro h
    cases h with
    | call h => exact ⟨_, _, rfl, h⟩
  · rintro ⟨answer, rest, rfl, h⟩
    exact .call h

theorem bind {next : α → Program β} {first rest : List Event} (h : Execution program first a)
    (hnext : Execution (next a) rest b) : Execution (program >>= next) (first ++ rest) b := by
  induction h with
  | done => exact hnext
  | call _ ih => exact .call (ih hnext)

theorem bind_iff {next : α → Program β} :
    Execution (program >>= next) events b ↔
      ∃ a first rest, Execution program first a ∧ Execution (next a) rest b ∧
        events = first ++ rest := by
  constructor
  · intro h
    induction program generalizing events with
    | done a => exact ⟨a, [], events, .done a, h, rfl⟩
    | call c following ih =>
      obtain ⟨answer, later, rfl, hlater⟩ := call_iff.1 h
      obtain ⟨a, first, rest, hfirst, hrest, rfl⟩ := ih answer hlater
      exact ⟨a, _, rest, .call hfirst, hrest, rfl⟩
  · rintro ⟨a, first, rest, hfirst, hrest, rfl⟩
    exact hfirst.bind hrest

theorem map_iff {f : α → β} :
    Execution (f <$> program) events b ↔ ∃ a, Execution program events a ∧ b = f a := by
  rw [← bind_pure_comp, bind_iff]
  constructor
  · rintro ⟨a, first, rest, h, hb, rfl⟩
    obtain ⟨rfl, rfl⟩ := done_iff.1 hb
    exact ⟨a, by simpa using h, rfl⟩
  · rintro ⟨a, h, rfl⟩
    exact ⟨a, events, [], h, .done _, (List.append_nil _).symm⟩

/-- Two executions in which equal calls have equal answers are the same execution. -/
theorem unique {a' : α} {events' : List Event} {view : (c : Call) → c.Answer}
    (h : Execution program events a) (h' : Execution program events' a')
    (hview : ∀ e ∈ events, e.answer = view e.call)
    (hview' : ∀ e ∈ events', e.answer = view e.call) : events' = events ∧ a' = a := by
  induction h generalizing events' with
  | done => exact done_iff.1 h'
  | @call c next answer rest a h ih =>
    obtain ⟨answer', rest', rfl, hrest⟩ := call_iff.1 h'
    have ha : answer' = answer :=
      (hview' _ List.mem_cons_self).trans (hview _ List.mem_cons_self).symm
    subst ha
    obtain ⟨rfl, rfl⟩ := ih hrest (fun e he => hview e (List.mem_cons_of_mem _ he))
      fun e he => hview' e (List.mem_cons_of_mem _ he)
    exact ⟨rfl, rfl⟩

end Execution

namespace Program

variable {α : Type} {view : (c : Call) → c.Answer} {a : α} {program : Program α}

/-- What a program comes to on a storage that does not change. -/
def result (view : (c : Call) → c.Answer) : Program α → α
  | .done a => a
  | .call c next => (next (view c)).result view

theorem result_eq_iff :
    program.result view = a ↔
      ∃ events, Execution program events a ∧ ∀ e ∈ events, e.answer = view e.call := by
  constructor
  · rintro rfl
    induction program with
    | done a => exact ⟨[], .done a, by simp⟩
    | call c next ih =>
      obtain ⟨events, hexecution, hview⟩ := ih (view c)
      exact ⟨⟨c, view c⟩ :: events, .call hexecution, List.forall_mem_cons.2 ⟨rfl, hview⟩⟩
  · rintro ⟨events, hexecution, hview⟩
    induction hexecution with
    | done a => rfl
    | @call c next answer events a _ ih =>
      obtain ⟨hanswer, hrest⟩ := List.forall_mem_cons.1 hview
      obtain rfl : answer = view c := hanswer
      exact ih hrest

end Program

section Storages

variable {σ α : Type} {reached : (c : Call) → StateM σ c.Answer} {s s' : σ}
  {events : List Event} {a : α} {program : Program α}

inductive Transcript (reached : (c : Call) → StateM σ c.Answer) : σ → List Event → σ → Prop where
  | nil (s : σ) : Transcript reached s [] s
  | cons {s s' : σ} {events : List Event} (c : Call) :
    Transcript reached ((reached c).run s).2 events s' →
      Transcript reached s (⟨c, ((reached c).run s).1⟩ :: events) s'

theorem Transcript.cons_iff {e : Event} :
    Transcript reached s (e :: events) s' ↔
      e.answer = ((reached e.call).run s).1 ∧
        Transcript reached ((reached e.call).run s).2 events s' := by
  constructor
  · intro h
    cases h with
    | cons c h => exact ⟨rfl, h⟩
  · intro h
    obtain ⟨c, answer⟩ := e
    obtain ⟨hanswer, hrest⟩ := h
    obtain rfl : answer = ((reached c).run s).1 := hanswer
    exact .cons c hrest

theorem Transcript.singleton_iff {e : Event} :
    Transcript reached s [e] s' ↔
      e.answer = ((reached e.call).run s).1 ∧ s' = ((reached e.call).run s).2 := by
  rw [Transcript.cons_iff]
  apply and_congr_right
  intro _
  constructor
  · intro h
    cases h
    rfl
  · intro h
    rw [h]
    exact .nil _

theorem Transcript.append_iff {first rest : List Event} :
    Transcript reached s (first ++ rest) s' ↔
      ∃ middle, Transcript reached s first middle ∧ Transcript reached middle rest s' := by
  induction first generalizing s with
  | nil =>
    constructor
    · exact fun h => ⟨s, .nil s, h⟩
    · rintro ⟨middle, hfirst, hrest⟩
      cases hfirst
      exact hrest
  | cons e first ih =>
    constructor
    · intro h
      cases h with
      | cons c h =>
        obtain ⟨middle, hfirst, hrest⟩ := ih.1 h
        exact ⟨middle, .cons c hfirst, hrest⟩
    · rintro ⟨middle, hfirst, hrest⟩
      cases hfirst with
      | cons c hfirst => exact .cons c (ih.2 ⟨middle, hfirst, hrest⟩)

theorem Program.run_eq_iff :
    (program.run reached).run s = (a, s') ↔
      ∃ events, Execution program events a ∧ Transcript reached s events s' := by
  induction program generalizing s with
  | done a' =>
    constructor
    · intro h
      cases h
      exact ⟨[], .done _, .nil _⟩
    · rintro ⟨events, he, ht⟩
      obtain ⟨rfl, rfl⟩ := Execution.done_iff.1 he
      cases ht
      rfl
  | call c next ih =>
    refine (ih ((reached c).run s).1).trans ?_
    constructor
    · rintro ⟨events, he, ht⟩
      exact ⟨_, .call he, .cons c ht⟩
    · rintro ⟨events, he, ht⟩
      cases he with
      | call he =>
        cases ht with
        | cons c ht => exact ⟨_, he, ht⟩

/-- A storage and the calls that it has answered. -/
structure Recorded (σ : Type) where
  storage : σ
  events : List Event

/-- Answers a call as the storage does, and records it. -/
def Recorded.answer (reached : (c : Call) → StateM σ c.Answer) (c : Call) :
    StateM (Recorded σ) c.Answer := fun recorded =>
  let (a, storage) := (reached c).run recorded.storage
  (a, ⟨storage, recorded.events ++ [⟨c, a⟩]⟩)

theorem Transcript.recorded_iff {earlier after : List Event} {es : List Event} :
    Transcript (Recorded.answer reached) ⟨s, earlier⟩ es ⟨s', after⟩ ↔
      Transcript reached s es s' ∧ after = earlier ++ es := by
  induction es generalizing s earlier with
  | nil =>
    constructor
    · intro h
      cases h
      exact ⟨.nil _, (List.append_nil _).symm⟩
    · rintro ⟨h, rfl⟩
      cases h
      rw [List.append_nil]
      exact .nil _
  | cons e es ih =>
    constructor
    · intro h
      cases h with
      | cons c h =>
        obtain ⟨ht, rfl⟩ := ih.1 h
        exact ⟨.cons c ht, List.append_assoc _ _ _⟩
    · rintro ⟨h, rfl⟩
      cases h with
      | cons c h => exact .cons c (ih.2 ⟨h, by simp [StateT.run]⟩)

theorem Program.run_recorded_iff :
    (program.run (Recorded.answer reached)).run ⟨s, []⟩ = (a, ⟨s', events⟩) ↔
      Execution program events a ∧ Transcript reached s events s' := by
  rw [Program.run_eq_iff]
  constructor
  · rintro ⟨es, he, ht⟩
    obtain ⟨ht, rfl⟩ := Transcript.recorded_iff.1 ht
    exact ⟨he, ht⟩
  · rintro ⟨he, ht⟩
    exact ⟨events, he, Transcript.recorded_iff.2 ⟨ht, rfl⟩⟩

theorem Execution.unique_of_transcript {a' : α} {s'' : σ} {events' : List Event}
    (h : Execution program events a) (htranscript : Transcript reached s events s')
    (h' : Execution program events' a') (htranscript' : Transcript reached s events' s'') :
    events' = events ∧ a' = a ∧ s'' = s' := by
  have hrun := Program.run_recorded_iff.2 ⟨h, htranscript⟩
  rw [Program.run_recorded_iff.2 ⟨h', htranscript'⟩] at hrun
  obtain ⟨ha, hrecorded⟩ := Prod.mk.inj hrun
  obtain ⟨hs, hevents⟩ := Recorded.mk.inj hrecorded
  exact ⟨hevents, ha, hs⟩

end Storages

end DoctypeInterfaces.Storage
