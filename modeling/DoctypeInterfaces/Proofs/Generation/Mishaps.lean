import DoctypeInterfaces.Proofs.Generation.Looking

namespace DoctypeInterfaces

open Storage

namespace Storage.Program

variable {α β : Type}

def FailsByMishap (program : Program (Except Failure α)) : Prop :=
  ∀ events failure, Execution program events (.error failure) → failure.isVerdict = false

theorem failsByMishap_done_ok (a : α) : FailsByMishap (done (.ok a)) := by
  intro events failure h
  cases (Execution.done_iff.1 h).2

theorem failsByMishap_done_error {failure : Failure} (h : failure.isVerdict = false) :
    FailsByMishap (done (.error failure) : Program (Except Failure α)) := by
  intro events failure' h'
  rw [Except.error.inj (Execution.done_iff.1 h').2]
  exact h

theorem failsByMishap_bind {program : Program β} {next : β → Program (Except Failure α)}
    (h : ∀ b, (next b).FailsByMishap) : FailsByMishap (program >>= next) := by
  intro events failure hfailed
  obtain ⟨b, first, rest, -, hrest, -⟩ := Execution.bind_iff.1 hfailed
  exact h b rest failure hrest

end Storage.Program

open Storage.Program

theorem failsByMishap_loadOutput (path : Path) : (loadOutput path).FailsByMishap := by
  rw [loadOutput]
  apply failsByMishap_bind
  intro answer
  cases answer with
  | ok bytes => exact failsByMishap_done_ok _
  | error e =>
    dsimp only
    split
    · exact failsByMishap_done_ok _
    · exact failsByMishap_done_error rfl

theorem failsByMishap_loadSchema (path : Path) : (loadSchema path).FailsByMishap := by
  rw [loadSchema]
  apply failsByMishap_bind
  intro text
  cases text with
  | error e => exact failsByMishap_done_error rfl
  | ok s =>
    dsimp only
    cases DoctypeSchema.ofJson s with
    | ok schema => exact failsByMishap_done_ok schema
    | error e => exact failsByMishap_done_error rfl

namespace Locator

theorem Walked.failsByMishap {target : Path} {bound : Nat} {pending : List (List DirEntry)}
    {events : List Event} {result : Except Failure (Option Path)}
    (h : Walked target bound pending events result) :
    ∀ failure ∈ failure? result, failure.isVerdict = false := by
  induction h with
  | exhausted => simp [failure?]
  | found => simp [failure?]
  | unfinished => simp [failure?, Failure.isVerdict]
  | failed => simp [failure?, Failure.isVerdict]
  | entered _ _ _ ih => exact ih

theorem failsByMishap_walk (bound : Nat) (root target : Path) :
    (walk bound root target).FailsByMishap := by
  rw [walk]
  apply failsByMishap_bind
  intro answer
  cases answer with
  | ok entries =>
    intro events failure h
    exact (walked_of_execution h).failsByMishap failure rfl
  | error e =>
    dsimp only
    split
    · exact failsByMishap_done_ok _
    · exact failsByMishap_done_error rfl

theorem isVerdict_of_locate {bound : Nat} {locator after : Locator} {app doctype : String}
    {events : List Event} {failure : Failure}
    (h : Execution (locator.locate bound app doctype) events (.error failure, after)) :
    failure.isVerdict = false := by
  rw [locate] at h
  split at h
  · cases (Execution.done_iff.1 h).2
  · obtain ⟨found, first, rest, hwalk, hrest, -⟩ := Execution.bind_iff.1 h
    cases found with
    | ok path => cases (Execution.done_iff.1 hrest).2
    | error e =>
      have hsame := (Prod.mk.inj (Execution.done_iff.1 hrest).2).1
      rw [Except.error.inj hsame]
      exact failsByMishap_walk _ _ _ first e hwalk

end Locator

namespace Resolution

/-- To fail by mishap only, whatever is done to the storage. -/
def mishapRule : Rule where
  holds _ failure := ∀ e ∈ failure, e.isVerdict = false
  nil := by simp
  append _ hrest := hrest

variable {α : Type} {bound : Nat}

theorem obeys_mishapRule_ofProgram {program : Program (Except Failure α)}
    (h : program.FailsByMishap) : Obeys mishapRule (ofProgram program) := by
  apply obeys_ofProgram
  intro events result hresult e he
  cases result with
  | ok a => cases he
  | error failure =>
    rw [← Option.some.inj he]
    exact h events failure hresult

theorem obeys_mishapRule_resolveRoots (bound : Nat) (roots : Roots) :
    Obeys mishapRule (resolveRoots bound roots) := by
  apply obeys_resolveRoots
  · intro app doctype before events result after hends e he
    obtain ⟨locator, hlocate, -⟩ := ends_locate.1 hends
    cases result with
    | ok path => cases he
    | error failure =>
      rw [← Option.some.inj he]
      exact Locator.isVerdict_of_locate hlocate
  · exact fun path => obeys_mishapRule_ofProgram (failsByMishap_loadSchema path)
  · intro e he
    rw [← Option.some.inj he]
    rfl

end Resolution

end DoctypeInterfaces
