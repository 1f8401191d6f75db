import DoctypeInterfaces.Proofs.Path.Components

namespace DoctypeInterfaces.Path

variable {p q : Path} {front : List Component} {c : Component}

theorem frontComponents_ne_nil (first : Bytes) : frontComponents first ≠ [] := by
  unfold frontComponents firstComponent? innerComponent?
  split
  · exact List.cons_ne_nil _ _
  · split <;> simp_all
    split <;> simp_all

theorem isEmpty_iff : p.isEmpty = true ↔ p.components = [] := by
  rw [isEmpty, List.isEmpty_iff]
  constructor
  · intro hbytes
    obtain rfl : p = ⟨[]⟩ := congrArg Path.mk hbytes
    decide
  · intro hcomponents
    cases hs : p.segments with
    | nil => exact absurd hs (Text.splitOn_ne_nil _ _)
    | cons first rest =>
      by_cases hne : first = [] ∧ rest = []
      · obtain ⟨rfl, rfl⟩ := hne
        exact bytes_of_segments hs
      · rw [components_of_segments hs hne] at hcomponents
        exact absurd (List.append_eq_nil_iff.1 hcomponents).1 (frontComponents_ne_nil first)

theorem length_components_of_parent?_eq_none (h : p.parent? = none) :
    p.components.length ≤ 1 := by
  cases hs : p.segments with
  | nil => exact absurd hs (Text.splitOn_ne_nil _ _)
  | cons first rest =>
    simp only [parent?, hs] at h
    split at h
    · next htrim =>
      have hinner := filterMap_trimSegments rest
      rw [htrim, List.filterMap_nil] at hinner
      by_cases hne : first = [] ∧ rest = []
      · obtain ⟨rfl, rfl⟩ := hne
        have hbytes : p.bytes = [] := bytes_of_segments hs
        rw [isEmpty_iff.1 (by rw [isEmpty, hbytes]; rfl)]
        exact Nat.zero_le _
      · split at h
        · next hfirst =>
          rw [components_of_segments hs hne, ← hinner, frontComponents, if_pos hfirst]
          exact Nat.le_refl _
        · cases h
    · cases h

theorem exists_parent? (h : p.components = front ++ [c]) (hne : front ≠ []) :
    ∃ q, p.parent? = some q ∧ q.components = front := by
  cases hparent : p.parent? with
  | none =>
    have hlength := length_components_of_parent?_eq_none hparent
    rw [h, List.length_append, List.length_singleton] at hlength
    exact absurd (List.eq_nil_of_length_eq_zero (by omega)) hne
  | some q =>
    obtain ⟨d, hd⟩ := components_of_parent? hparent
    exact ⟨q, rfl, (List.append_inj' (h.symm.trans hd) rfl).1.symm⟩

/-- More than the beginning of a path has a last component after it. -/
theorem exists_eq_concat_of_isPrefix {components : List Component} (hfront : front <+: components)
    (hproper : front ≠ components) : ∃ between c, components = (front ++ between) ++ [c] := by
  obtain ⟨more, rfl⟩ := hfront
  rcases List.eq_nil_or_concat more with rfl | ⟨between, c, rfl⟩
  · exact absurd (List.append_nil _).symm hproper
  · exact ⟨between, c, by rw [List.concat_eq_append, List.append_assoc]⟩

theorem exists_ancestorWithin {n : Nat} (hn : p.components.length ≤ n) (hne : front ≠ [])
    (hfront : front <+: p.components) (hproper : front ≠ p.components) :
    ∃ q ∈ (ancestorsWithin n p).takeWhile fun q => !q.isEmpty, q.components = front := by
  induction n generalizing p with
  | zero =>
    have hnone := List.eq_nil_of_length_eq_zero (Nat.le_zero.1 hn)
    exact absurd (List.prefix_nil.1 (hnone ▸ hfront)) hne
  | succ n ih =>
    obtain ⟨between, c, hp⟩ := exists_eq_concat_of_isPrefix hfront hproper
    have hbetween : front ++ between ≠ [] := fun h => hne (List.append_eq_nil_iff.1 h).1
    obtain ⟨q, hparent, hq⟩ := exists_parent? hp hbetween
    have hnonempty : (!q.isEmpty) = true := by
      rw [Bool.not_eq_true', Bool.eq_false_iff]
      exact fun h => hbetween (hq ▸ isEmpty_iff.1 h)
    simp only [ancestorsWithin, hparent, List.takeWhile_cons, hnonempty, if_true]
    by_cases heq : front = q.components
    · exact ⟨q, List.mem_cons_self, heq.symm⟩
    · have hlength : q.components.length ≤ n := by
        rw [hp, ← hq, List.length_append, List.length_singleton] at hn
        omega
      obtain ⟨ancestor, hmem, hancestor⟩ := ih hlength ⟨between, hq.symm⟩ heq
      exact ⟨ancestor, List.mem_cons_of_mem _ hmem, hancestor⟩

/-- Each proper beginning of a path, but for the empty one, is among the directories that are
created for it. -/
theorem exists_ancestor (hne : front ≠ []) (hfront : front <+: p.components)
    (hproper : front ≠ p.components) :
    ∃ q ∈ p.ancestors.takeWhile fun q => !q.isEmpty, q.components = front :=
  exists_ancestorWithin le_rfl hne hfront hproper

end DoctypeInterfaces.Path
