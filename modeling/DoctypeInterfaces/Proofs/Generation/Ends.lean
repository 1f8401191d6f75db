import DoctypeInterfaces.Generation
import DoctypeInterfaces.Proofs.Storage.Execution

namespace DoctypeInterfaces.Resolution

open Storage

variable {α β : Type} {before after : Progress} {events : List Event}

/-- A part of a run that begins at `before` has these events and this result, and ends at
`after`. -/
def Ends (part : Resolution α) (before : Progress) (events : List Event)
    (result : Except Failure α) (after : Progress) : Prop :=
  Execution (part.run.run before) events (result, after)

theorem ends_pure {a : α} {result : Except Failure α} :
    Ends (pure a) before events result after ↔ events = [] ∧ result = .ok a ∧ after = before := by
  simp only [Ends, ExceptT.run_pure, StateT.run_pure, Program.pure_eq_done, Execution.done_iff,
    Prod.mk.injEq]

theorem ends_throw {e : Failure} {result : Except Failure α} :
    Ends (throw e) before events result after ↔
      events = [] ∧ result = .error e ∧ after = before := by
  simp only [Ends, ExceptT.run_throw, StateT.run_pure, Program.pure_eq_done, Execution.done_iff,
    Prod.mk.injEq]

theorem ends_bind {part : Resolution α} {next : α → Resolution β} {result : Except Failure β} :
    Ends (part >>= next) before events result after ↔
      (∃ a first middle rest, Ends part before first (.ok a) middle ∧
        Ends (next a) middle rest result after ∧ events = first ++ rest) ∨
      ∃ e, Ends part before events (.error e) after ∧ result = .error e := by
  simp only [Ends, ExceptT.run_bind, StateT.run_bind, Execution.bind_iff]
  constructor
  · rintro ⟨⟨r, middle⟩, first, rest, hfirst, hrest, rfl⟩
    cases r with
    | ok a => exact .inl ⟨a, first, middle, rest, hfirst, hrest, rfl⟩
    | error e =>
      simp only [StateT.run_pure, Program.pure_eq_done, Execution.done_iff,
        Prod.mk.injEq] at hrest
      obtain ⟨rfl, rfl, rfl⟩ := hrest
      exact .inr ⟨e, by simpa using hfirst, rfl⟩
  · rintro (⟨a, first, middle, rest, hfirst, hrest, rfl⟩ | ⟨e, h, rfl⟩)
    · exact ⟨_, first, rest, hfirst, hrest, rfl⟩
    · exact ⟨_, events, [], h, by simp, (List.append_nil _).symm⟩

theorem ends_bind_ok {part : Resolution α} {next : α → Resolution β} {b : β} :
    Ends (part >>= next) before events (.ok b) after ↔
      ∃ a first middle rest, Ends part before first (.ok a) middle ∧
        Ends (next a) middle rest (.ok b) after ∧ events = first ++ rest := by
  simp only [ends_bind, reduceCtorEq, and_false, exists_false, or_false]

theorem ends_bind_error {part : Resolution α} {next : α → Resolution β} {e : Failure} :
    Ends (part >>= next) before events (.error e) after ↔
      (∃ a first middle rest, Ends part before first (.ok a) middle ∧
        Ends (next a) middle rest (.error e) after ∧ events = first ++ rest) ∨
      Ends part before events (.error e) after := by
  simp only [ends_bind, Except.error.injEq, exists_eq_right']

theorem ends_modify {f : Progress → Progress} {result : Except Failure Unit} :
    Ends (modify f) before events result after ↔
      events = [] ∧ result = .ok () ∧ after = f before := by
  change Execution (.done (.ok (), f before)) events (result, after) ↔ _
  rw [Execution.done_iff, Prod.mk.injEq]

theorem ends_get {result : Except Failure Progress} :
    Ends get before events result after ↔ events = [] ∧ result = .ok before ∧ after = before := by
  change Execution (.done (.ok before, before)) events (result, after) ↔ _
  rw [Execution.done_iff, Prod.mk.injEq]

theorem ends_get_bind {next : Progress → Resolution α} {result : Except Failure α} :
    Ends (get >>= next) before events result after ↔
      Ends (next before) before events result after :=
  Iff.rfl

theorem ends_modify_bind {f : Progress → Progress} {next : Unit → Resolution α}
    {result : Except Failure α} :
    Ends (modify f >>= next) before events result after ↔
      Ends (next ()) (f before) events result after :=
  Iff.rfl

theorem ends_set_bind {progress : Progress} {next : PUnit → Resolution α}
    {result : Except Failure α} :
    Ends (set progress >>= next) before events result after ↔
      Ends (next ⟨⟩) progress events result after :=
  Iff.rfl

theorem ends_ofProgram {program : Program (Except Failure α)} {result : Except Failure α} :
    Ends (ofProgram program) before events result after ↔
      Execution program events result ∧ after = before := by
  change Execution ((fun r => (r, before)) <$> program) events (result, after) ↔ _
  rw [Execution.map_iff]
  simp only [Prod.mk.injEq]
  constructor
  · rintro ⟨r, h, rfl, rfl⟩
    exact ⟨h, rfl⟩
  · rintro ⟨h, rfl⟩
    exact ⟨result, h, rfl, rfl⟩

theorem ends_enter {doctype : String} {result : Except Failure Bool} :
    Ends (enter doctype) before events result after ↔
      events = [] ∧
        if doctype ∈ before.processed then result = .ok false ∧ after = before
        else result = .ok true ∧
          after = before.entered doctype := by
  have hrun : (enter doctype).run.run before =
      if before.processed.contains doctype then .done (.ok false, before)
      else .done (.ok true, before.entered doctype) := by
    change (ExceptT.run (if before.processed.contains doctype then
      (pure false : Resolution Bool) else _)).run before = _
    split <;> rfl
  rw [Ends, hrun]
  simp only [List.contains_iff_mem]
  split <;> rw [Execution.done_iff, Prod.mk.injEq]

theorem ends_locate {bound : Nat} {app doctype : String} {result : Except Failure (Option Path)} :
    Ends (locate bound app doctype) before events result after ↔
      ∃ locator, Execution (before.locator.locate bound app doctype) events (result, locator) ∧
        after = { before with locator := locator } := by
  have hrun : (locate bound app doctype).run.run before =
      (fun found => (found.1, { before with locator := found.2 })) <$>
        before.locator.locate bound app doctype := by
    simp [locate]
    rfl
  rw [Ends, hrun, Execution.map_iff]
  constructor
  · rintro ⟨⟨found, locator⟩, h, heq⟩
    obtain ⟨rfl, rfl⟩ := Prod.mk.inj heq
    exact ⟨locator, h, rfl⟩
  · rintro ⟨locator, h, rfl⟩
    exact ⟨_, h, rfl⟩

end DoctypeInterfaces.Resolution
