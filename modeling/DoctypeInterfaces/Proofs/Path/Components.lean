import Mathlib.Data.List.Infix
import Mathlib.Data.List.TakeWhile
import DoctypeInterfaces.Path.Basic
import DoctypeInterfaces.Proofs.Text.Lines

namespace DoctypeInterfaces.Path

theorem same_iff {p q : Path} : p.same q = true ↔ p.components = q.components := by
  rw [same, beq_iff_eq]

theorem same_refl (p : Path) : p.same p = true :=
  same_iff.2 rfl

theorem same_comm (p q : Path) : p.same q = q.same p :=
  BEq.comm

def frontComponents (first : Bytes) : List Component :=
  if first.isEmpty then [.root] else (firstComponent? first).toList

theorem bytes_of_segments {p : Path} {first : Bytes} {rest : List Bytes}
    (h : p.segments = first :: rest) : p.bytes = [slash].intercalate (first :: rest) := by
  rw [segments, Text.splitOn_eq_splitOn] at h
  rw [← h, List.intercalate_splitOn]

theorem segments_of_bytes {p : Path} {first : Bytes} {rest : List Bytes}
    (h : p.bytes = [slash].intercalate (first :: rest)) (hfirst : slash ∉ first)
    (hrest : ∀ s ∈ rest, slash ∉ s) : p.segments = first :: rest := by
  rw [segments, h, Text.splitOn_eq_splitOn]
  refine List.splitOn_intercalate slash ?_ (List.cons_ne_nil _ _)
  intro s hs
  rcases List.mem_cons.1 hs with rfl | hs
  · exact hfirst
  · exact hrest s hs

theorem isAbsolute_of_segments {p : Path} {first : Bytes} {rest : List Bytes}
    (h : p.segments = first :: rest) (hne : ¬ (first = [] ∧ rest = [])) :
    p.isAbsolute = first.isEmpty := by
  have hfirst : slash ∉ first := Text.notMem_of_mem_splitOn (h ▸ List.mem_cons_self)
  rw [isAbsolute, bytes_of_segments h]
  cases first with
  | nil =>
    cases rest with
    | nil => exact absurd ⟨rfl, rfl⟩ hne
    | cons second rest => simp [List.intercalate]
  | cons c first =>
    have hc : c ≠ slash := fun hc => hfirst (hc ▸ List.mem_cons_self)
    cases rest <;> simpa [List.intercalate] using hc

theorem components_of_segments {p : Path} {first : Bytes} {rest : List Bytes}
    (h : p.segments = first :: rest) (hne : ¬ (first = [] ∧ rest = [])) :
    p.components = frontComponents first ++ rest.filterMap innerComponent? := by
  rw [components, isAbsolute_of_segments h hne, h, frontComponents]
  split <;> rfl

theorem components_ofSegments {first : Bytes} {rest : List Bytes} (hfirst : slash ∉ first)
    (hrest : ∀ s ∈ rest, slash ∉ s) :
    (ofSegments first rest).components =
      frontComponents first ++ rest.filterMap innerComponent? := by
  by_cases hne : first = [] ∧ rest = []
  · obtain ⟨rfl, rfl⟩ := hne
    decide
  · have htext : ofSegments first rest = ⟨[slash].intercalate (first :: rest)⟩ := by
      rw [ofSegments, if_neg]
      simpa using hne
    refine components_of_segments (segments_of_bytes ?_ hfirst hrest) hne
    rw [htext]

theorem exists_trimSegments_append (segments : List Bytes) :
    ∃ trailing, segments = trimSegments segments ++ trailing ∧
      ∀ s ∈ trailing, innerComponent? s = none := by
  refine ⟨(segments.reverse.takeWhile fun s => (innerComponent? s).isNone).reverse, ?_, ?_⟩
  · rw [trimSegments, ← List.reverse_append, List.takeWhile_append_dropWhile, List.reverse_reverse]
  · intro s hs
    simpa using List.mem_takeWhile_imp (List.mem_reverse.1 hs)

theorem filterMap_trimSegments (segments : List Bytes) :
    (trimSegments segments).filterMap innerComponent? = segments.filterMap innerComponent? := by
  obtain ⟨trailing, heq, hnone⟩ := exists_trimSegments_append segments
  conv_rhs => rw [heq, List.filterMap_append, List.filterMap_eq_nil_iff.2 hnone, List.append_nil]

theorem mem_of_mem_trimSegments {segments : List Bytes} {s : Bytes}
    (h : s ∈ trimSegments segments) : s ∈ segments := by
  obtain ⟨trailing, heq, -⟩ := exists_trimSegments_append segments
  rw [heq]
  exact List.mem_append_left _ h

theorem innerComponent?_getLast_trimSegments {segments : List Bytes}
    (h : trimSegments segments ≠ []) :
    (innerComponent? ((trimSegments segments).getLast h)).isSome = true := by
  have hne : segments.reverse.dropWhile (fun s => (innerComponent? s).isNone) ≠ [] := by
    simpa [trimSegments] using h
  have hhead := List.head_dropWhile_not (fun s => (innerComponent? s).isNone) hne
  simpa [trimSegments, List.getLast_reverse, Option.isSome_iff_ne_none] using hhead

theorem components_of_parent? {p q : Path} (h : p.parent? = some q) :
    ∃ c, p.components = q.components ++ [c] := by
  cases hs : p.segments with
  | nil => simp [parent?, hs] at h
  | cons first rest =>
    have hmem : ∀ s ∈ first :: rest, slash ∉ s := fun s hs' => Text.notMem_of_mem_splitOn (hs ▸ hs')
    have hrest := filterMap_trimSegments rest
    simp only [parent?, hs] at h
    by_cases ht : trimSegments rest = []
    · rw [ht, List.filterMap_nil] at hrest
      simp only [ht] at h
      split at h
      · cases h
      · next hfirst =>
        obtain rfl := (Option.some.inj h).symm
        rw [components_of_segments hs (fun hn => hfirst (by simp [hn.1])), frontComponents,
          if_neg hfirst, ← hrest, List.append_nil]
        obtain ⟨c, hc⟩ : ∃ c, firstComponent? first = some c := by
          unfold firstComponent? innerComponent?
          split <;> simp_all
          split <;> simp_all
        exact ⟨c, by rw [hc]; rfl⟩
    · have hlast := innerComponent?_getLast_trimSegments ht
      obtain ⟨c, hc⟩ := Option.isSome_iff_exists.1 hlast
      have hinit : ∀ s ∈ trimSegments (trimSegments rest).dropLast, slash ∉ s := fun s hs' =>
        hmem s (List.mem_cons_of_mem _ (mem_of_mem_trimSegments
          (List.mem_of_mem_dropLast (mem_of_mem_trimSegments hs'))))
      have hq : q = ofSegments first (trimSegments (trimSegments rest).dropLast) := by
        split at h
        · next hnil => exact absurd hnil ht
        · exact (Option.some.inj h).symm
      have hne : ¬ (first = [] ∧ rest = []) := fun hn => ht (by rw [hn.2]; rfl)
      refine ⟨c, ?_⟩
      rw [components_of_segments hs hne, hq,
        components_ofSegments (hmem first List.mem_cons_self) hinit, filterMap_trimSegments,
        List.append_assoc, ← hrest]
      congr 1
      conv_lhs => rw [← List.dropLast_append_getLast ht, List.filterMap_append]
      simp [hc]

/-- A path lies below another one if it has the components of that one and more. -/
def LiesBelow (p q : Path) : Prop :=
  ∃ c rest, p.components = q.components ++ c :: rest

theorem LiesBelow.isPrefix {p q : Path} (h : p.LiesBelow q) : q.components <+: p.components := by
  obtain ⟨c, rest, h⟩ := h
  exact ⟨c :: rest, h.symm⟩

theorem liesBelow_of_isPrefix {p q : Path} (h : q.components <+: p.components)
    (hne : q.components ≠ p.components) : p.LiesBelow q := by
  obtain ⟨_ | ⟨c, rest⟩, hp⟩ := h
  · exact absurd ((List.append_nil _).symm.trans hp) hne
  · exact ⟨c, rest, hp.symm⟩

theorem LiesBelow.of_isPrefix_left {p q r : Path} (h : p.LiesBelow q)
    (hr : p.components <+: r.components) : r.LiesBelow q := by
  obtain ⟨c, rest, h⟩ := h
  obtain ⟨more, hr⟩ := hr
  exact ⟨c, rest ++ more, by rw [← hr, h, List.append_assoc, List.cons_append]⟩

theorem LiesBelow.of_isPrefix_right {p q r : Path} (h : p.LiesBelow q)
    (hr : r.components <+: q.components) : p.LiesBelow r := by
  obtain ⟨c, rest, h⟩ := h
  obtain ⟨more, hr⟩ := hr
  rw [← hr, List.append_assoc] at h
  cases more with
  | nil => exact ⟨c, rest, h⟩
  | cons d more => exact ⟨d, more ++ c :: rest, h⟩

theorem liesBelow_of_parent? {p q : Path} (h : p.parent? = some q) : p.LiesBelow q := by
  obtain ⟨c, h⟩ := components_of_parent? h
  exact ⟨c, [], h⟩

theorem liesBelow_of_dir? {p q : Path} (h : p.dir? = some q) : p.LiesBelow q :=
  liesBelow_of_parent? (Option.eq_some_of_filter_eq_some h)

theorem liesBelow_of_mem_ancestorsWithin {n : Nat} {p q : Path} (h : q ∈ ancestorsWithin n p) :
    p.LiesBelow q := by
  induction n generalizing p with
  | zero => simp [ancestorsWithin] at h
  | succ n ih =>
    rw [ancestorsWithin] at h
    split at h
    · simp at h
    · next parent hparent =>
      have hp := liesBelow_of_parent? hparent
      rcases List.mem_cons.1 h with rfl | h
      · exact hp
      · exact hp.of_isPrefix_right (ih h).isPrefix

end DoctypeInterfaces.Path
