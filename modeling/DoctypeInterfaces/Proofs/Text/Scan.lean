import DoctypeInterfaces.Text.Scan
import Mathlib.Logic.Relation

namespace DoctypeInterfaces.Text.Scan

variable {ε α β σ : Type} {bound : Nat} {scan : Scan ε α} {next : α → Scan ε β} {post : α → Prop}

/-- Whether a scan gives only results with a property, where the whole text is at most as long as
`bound`. -/
def Gives (bound : Nat) (scan : Scan ε α) (post : α → Prop) : Prop :=
  ∀ s a rest, scan bound s = .ok (a, rest) → post a

theorem gives_pure {a : α} (h : post a) : Gives bound (pure a : Scan ε α) post := by
  intro s b rest hb
  obtain rfl : a = b := (Prod.mk.inj (Except.ok.inj hb)).1
  exact h

theorem gives_throw (e : ε) : Gives bound (throw e : Scan ε α) post := by
  intro s a rest h
  cases h

theorem Gives.bind {post' : β → Prop} (h : Gives bound scan post)
    (hnext : ∀ a, post a → Gives bound (next a) post') : Gives bound (scan >>= next) post' := by
  intro s b rest hb
  change (scan bound s >>= fun p => next p.1 bound p.2) = _ at hb
  cases hscan : scan bound s with
  | error e =>
    rw [hscan] at hb
    cases hb
  | ok p =>
    rw [hscan] at hb
    exact hnext p.1 (h s p.1 p.2 hscan) p.2 b rest hb

theorem gives_bind {post' : β → Prop} (hnext : ∀ a, Gives bound (next a) post') :
    Gives bound (scan >>= next) post' := by
  have hscan : Gives bound scan fun _ => True := fun _ _ _ _ => True.intro
  exact hscan.bind fun a _ => hnext a

/-- An invariant of the state and the number of steps that are left is carried through a
repetition. -/
theorem gives_repeatAtMost {stuck : ε} {step : σ → Scan ε (σ ⊕ α)} (inv : Nat → σ → Prop)
    (hstep : ∀ n state, inv (n + 1) state → Gives bound (step state) (Sum.elim (inv n) post))
    {n : Nat} {state : σ} (hstate : inv n state) :
    Gives bound (repeatAtMost stuck step n state) post := by
  induction n generalizing state with
  | zero =>
    intro s a rest h
    cases h
  | succ n ih =>
    intro s a rest h
    cases hfirst : step state bound s with
    | error e =>
      rw [repeatAtMost_of_error hfirst] at h
      cases h
    | ok p =>
      obtain ⟨outcome, later⟩ := p
      have houtcome := hstep n state hstate s outcome later hfirst
      cases outcome with
      | inl following =>
        rw [repeatAtMost_of_step hfirst] at h
        exact ih houtcome later a rest h
      | inr result =>
        rw [repeatAtMost_of_result hfirst] at h
        obtain rfl : result = a := (Prod.mk.inj (Except.ok.inj h)).1
        exact houtcome

theorem gives_iterate {stuck : ε} {step : σ → Scan ε (σ ⊕ α)} (inv : Nat → σ → Prop)
    (hstep : ∀ n state, inv (n + 1) state → Gives bound (step state) (Sum.elim (inv n) post))
    {state : σ} (hstate : inv (bound + 1) state) :
    Gives bound (iterate stuck step state) post :=
  fun s a rest h => gives_repeatAtMost inv hstep hstate s a rest h

variable {s rest : List Char} {a : α}

theorem bind_of_ok (h : scan bound s = .ok (a, rest)) :
    (scan >>= next) bound s = next a bound rest := by
  change (scan bound s >>= fun p => next p.1 bound p.2) = _
  rw [h]
  rfl

theorem map_of_ok (f : α → β) (h : scan bound s = .ok (a, rest)) :
    (f <$> scan) bound s = .ok (f a, rest) := by
  change (scan bound s >>= fun p => pure (f p.1, p.2)) = _
  rw [h]
  rfl

/-- Whether a step goes from a state and a text to others, and so reads something. -/
def Goes (step : σ → Scan ε (σ ⊕ α)) (bound : Nat) (here there : σ × List Char) : Prop :=
  step here.1 bound here.2 = .ok (.inl there.1, there.2) ∧ there.2.length < here.2.length

/-- The steps of a repetition, and the last one, make up the repetition. -/
theorem iterate_of_goes {stuck : ε} {step : σ → Scan ε (σ ⊕ α)} {state last : σ}
    {s s' : List Char} (h : Relation.ReflTransGen (Goes step bound) (state, s) (last, s'))
    (hlast : step last bound s' = .ok (.inr a, rest)) (hbound : s.length ≤ bound) :
    iterate stuck step state bound s = .ok (a, rest) := by
  suffices hsteps : ∀ here : σ × List Char,
      Relation.ReflTransGen (Goes step bound) here (last, s') → ∀ n, here.2.length ≤ n →
        repeatAtMost stuck step (n + 1) here.1 bound here.2 = .ok (a, rest) by
    exact hsteps (state, s) h bound hbound
  intro here hgoes
  induction hgoes using Relation.ReflTransGen.head_induction_on with
  | refl => exact fun n _ => repeatAtMost_of_result hlast
  | head hstep _ ih =>
    obtain ⟨hgo, hshorter⟩ := hstep
    intro n hn
    obtain ⟨m, rfl⟩ := Nat.exists_eq_add_of_lt (Nat.lt_of_lt_of_le hshorter hn)
    rw [repeatAtMost_of_step hgo]
    exact ih _ (Nat.le_add_right _ _)

end DoctypeInterfaces.Text.Scan
