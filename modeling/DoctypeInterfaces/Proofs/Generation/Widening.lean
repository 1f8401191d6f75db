import DoctypeInterfaces.Proofs.Generation.Run

namespace DoctypeInterfaces

open Storage

theorem Locator.execution_locate_mono {locator after : Locator} {bound bound' : Nat}
    {app doctype : String} {events : List Event} {result : Except Failure (Option Path)}
    (h : Execution (locator.locate bound app doctype) events (result, after))
    (hfinished : result ≠ .error .unfinished) (hle : bound ≤ bound') :
    Execution (locator.locate bound' app doctype) events (result, after) := by
  cases hknown : locator.remembered? app doctype with
  | some path =>
    rw [locate, hknown] at h ⊢
    exact h
  | none =>
    obtain ⟨hwalk, hafter⟩ := (execution_locate_iff hknown).1 h
    exact (execution_locate_iff hknown).2 ⟨execution_walk_mono hwalk hfinished hle, hafter⟩

namespace Resolution

variable {α β : Type} {part wider : Resolution α} {bound bound' depth depth' : Nat}
  {app doctype : String}

/-- Whether a part of a run goes as another one does, unless that is given up. -/
def Extends (part wider : Resolution α) : Prop :=
  ∀ before events result after, Ends part before events result after →
    result ≠ .error .unfinished → Ends wider before events result after

theorem extends_refl (part : Resolution α) : Extends part part :=
  fun _ _ _ _ hends _ => hends

theorem extends_unfinished : Extends (throw .unfinished) wider := by
  intro before events result after hends hfinished
  exact absurd (ends_throw.1 hends).2.1 hfinished

theorem Extends.bind {next widerNext : α → Resolution β} (h : Extends part wider)
    (hnext : ∀ a, Extends (next a) (widerNext a)) :
    Extends (part >>= next) (wider >>= widerNext) := by
  intro before events result after hends hfinished
  rw [ends_bind] at hends ⊢
  rcases hends with ⟨a, first, middle, rest, hfirst, hrest, rfl⟩ | ⟨e, hfailed, rfl⟩
  · have hwider := h before first (.ok a) middle hfirst nofun
    exact .inl ⟨a, first, middle, rest, hwider, hnext a _ _ _ _ hrest hfinished, rfl⟩
  · exact .inr ⟨e, h before events (.error e) after hfailed fun he => hfinished (by cases he; rfl),
      rfl⟩

theorem extends_forM {part wider : β → Resolution Unit} {list : List β}
    (h : ∀ b, Extends (part b) (wider b)) : Extends (list.forM part) (list.forM wider) := by
  induction list with
  | nil => exact extends_refl _
  | cons b list ih => exact (h b).bind fun _ => ih

theorem extends_locate (hle : bound ≤ bound') :
    Extends (locate bound app doctype) (locate bound' app doctype) := by
  intro before events result after hends hfinished
  obtain ⟨locator, hlocate, rfl⟩ := ends_locate.1 hends
  exact ends_locate.2 ⟨locator, Locator.execution_locate_mono hlocate hfinished hle, rfl⟩

theorem extends_settle {schema : DoctypeSchema} (hdepth : depth ≤ depth')
    (h : ∀ inner inner', inner ≤ inner' → depth = inner + 1 → ∀ child,
      Extends (resolve bound app inner child) (resolve bound' app inner' child)) :
    Extends (settle bound app depth doctype schema) (settle bound' app depth' doctype schema) := by
  unfold settle
  apply (extends_refl get).bind
  intro progress
  split
  · exact extends_refl _
  · apply (extends_refl _).bind
    intro _
    cases depth with
    | zero => exact extends_unfinished
    | succ inner =>
      cases depth' with
      | zero => omega
      | succ inner' =>
        have hinner := h inner inner' (Nat.le_of_succ_le_succ hdepth) rfl
        exact (extends_forM hinner).bind fun _ => extends_refl _

theorem extends_resolve_of_settle (hbound : bound ≤ bound')
    (h : ∀ schema, Extends (settle bound app depth doctype schema)
      (settle bound' app depth' doctype schema)) :
    Extends (resolve bound app depth doctype) (resolve bound' app depth' doctype) := by
  rw [resolve_eq, resolve_eq]
  apply (extends_refl _).bind
  intro entered
  split
  · apply (extends_locate hbound).bind
    intro path?
    cases path? with
    | none => exact extends_refl _
    | some path => exact (extends_refl _).bind h
  · exact extends_refl _

theorem extends_resolve (hbound : bound ≤ bound') (hdepth : depth ≤ depth') (doctype : String) :
    Extends (resolve bound app depth doctype) (resolve bound' app depth' doctype) := by
  induction depth generalizing depth' doctype with
  | zero =>
    apply extends_resolve_of_settle hbound
    intro schema
    apply extends_settle hdepth
    intro inner inner' _ hinner
    cases hinner
  | succ depth ih =>
    apply extends_resolve_of_settle hbound
    intro schema
    apply extends_settle hdepth
    intro inner inner' hle hinner
    obtain rfl := Nat.succ.inj hinner
    exact ih hle

theorem extends_resolveRoots (hle : bound ≤ bound') (roots : Roots) :
    Extends (resolveRoots bound roots) (resolveRoots bound' roots) :=
  extends_forM fun root => extends_resolve hle hle root.2

theorem extends_generation (hle : bound ≤ bound') (options : GenerationOptions) (roots : Roots) :
    Extends (generation bound options roots) (generation bound' options roots) := by
  unfold generation generationBy
  apply (extends_refl _).bind
  intro earlier
  apply (extends_refl _).bind
  intro _
  apply (extends_resolveRoots hle roots).bind
  intro _
  exact extends_refl _

end Resolution

theorem recordRun_eq_of_le {σ : Type} {reached : (c : Call) → StateM σ c.Answer} {storage : σ}
    {bound bound' : Nat} {options : GenerationOptions} {roots : Roots} (hle : bound ≤ bound')
    (hfinished : (recordRun reached storage bound options roots).result ≠ .error .unfinished) :
    recordRun reached storage bound' options roots =
      recordRun reached storage bound options roots := by
  obtain ⟨hends, htranscript⟩ := recordRun_eq_iff.1
    (rfl : recordRun reached storage bound options roots = _)
  exact recordRun_eq_iff.2
    ⟨Resolution.extends_generation hle options roots _ _ _ _ hends hfinished, htranscript⟩

end DoctypeInterfaces
