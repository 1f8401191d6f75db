import DoctypeInterfaces.Proofs.Path.Ancestors

namespace DoctypeInterfaces

namespace Path

def IsName (s : Bytes) : Prop :=
  (Path.mk s).components = [.name s]

instance (s : Bytes) : Decidable (IsName s) :=
  inferInstanceAs (Decidable ((Path.mk s).components = [.name s]))

variable {p q : Path} {s : Bytes}

theorem innerComponent?_eq_some_name {piece : Bytes}
    (h : innerComponent? piece = some (.name s)) : piece = s := by
  unfold innerComponent? at h
  split at h
  · cases h
  split at h
  · cases h
  · exact Component.name.inj (Option.some.inj h)

theorem firstComponent?_eq_some_name {piece : Bytes}
    (h : firstComponent? piece = some (.name s)) : innerComponent? piece = some (.name s) := by
  unfold firstComponent? at h
  split at h
  · cases h
  · exact h

theorem IsName.segment (h : IsName s) :
    (Path.mk s).segments = [s] ∧ innerComponent? s = some (.name s) := by
  rw [IsName] at h
  cases hs : (Path.mk s).segments with
  | nil => exact absurd hs (Text.splitOn_ne_nil _ _)
  | cons first rest =>
    have hne : ¬ (first = [] ∧ rest = []) := by
      rintro ⟨rfl, rfl⟩
      obtain rfl : s = [] := bytes_of_segments hs
      exact absurd h (by decide)
    have hfront := frontComponents_ne_nil first
    rw [components_of_segments hs hne] at h
    rw [frontComponents] at h hfront
    split at h
    · cases h
    · next hfirst =>
      rw [if_neg hfirst] at hfront
      obtain ⟨c, hc⟩ : ∃ c, firstComponent? first = some c :=
        Option.ne_none_iff_exists'.1 fun hnone => hfront (by rw [hnone]; rfl)
      rw [hc] at h
      obtain rfl : c = .name s := (List.cons.inj h).1
      have hinner := firstComponent?_eq_some_name hc
      obtain rfl := innerComponent?_eq_some_name hinner
      have hnotMem : slash ∉ first := Text.notMem_of_mem_splitOn (hs ▸ List.mem_cons_self)
      have hone : (Path.mk first).segments = [first] :=
        segments_of_bytes (by simp [List.intercalate]) hnotMem (by simp)
      exact ⟨hs.symm.trans hone, hinner⟩

theorem IsName.notMem (h : IsName s) : slash ∉ s := by
  have hmem : s ∈ (Path.mk s).segments := h.segment.1 ▸ List.mem_singleton_self _
  exact Text.notMem_of_mem_splitOn hmem

theorem isName_iff : IsName s ↔ slash ∉ s ∧ s ≠ [] ∧ s ≠ dot ∧ s ≠ dots := by
  constructor
  · intro h
    have hinner := h.segment.2
    refine ⟨h.notMem, ?_, ?_, ?_⟩ <;> rintro rfl <;> exact absurd hinner (by decide)
  · rintro ⟨hslash, hempty, hdot, hdots⟩
    have hsegments : (Path.mk s).segments = [s] :=
      segments_of_bytes (by simp [List.intercalate]) hslash (by simp)
    have hfirst : firstComponent? s = some (.name s) := by
      rw [firstComponent?, if_neg hdot, innerComponent?, if_neg (not_or.2 ⟨hempty, hdot⟩),
        if_neg hdots]
    rw [IsName, components_of_segments hsegments (fun h => hempty h.1), frontComponents,
      if_neg (by simpa using hempty), hfirst]
    rfl

/-- What a name ends with can be long enough to make a name of anything in front of it. -/
theorem isName_append {t : Bytes} (hs : slash ∉ s) (ht : slash ∉ t) (hlength : 2 < t.length) :
    IsName (s ++ t) := by
  have hlong : 2 < (s ++ t).length := by
    rw [List.length_append]
    omega
  rw [isName_iff]
  refine ⟨?_, ?_, ?_, ?_⟩
  · rw [List.mem_append, not_or]
    exact ⟨hs, ht⟩
  · intro hempty
    rw [hempty] at hlong
    exact absurd hlong (by decide)
  · intro hdot
    rw [hdot] at hlong
    exact absurd hlong (by decide)
  · intro hdots
    rw [hdots] at hlong
    exact absurd hlong (by decide)

theorem notMem_of_mem_components (h : .name s ∈ p.components) : slash ∉ s := by
  have hsegment : ∃ piece ∈ p.segments, innerComponent? piece = some (.name s) := by
    rw [components] at h
    split at h
    · have hrest := (List.mem_cons.1 h).resolve_left fun heq => by cases heq
      obtain ⟨piece, hpiece, hname⟩ := List.mem_filterMap.1 hrest
      exact ⟨piece, List.mem_of_mem_tail hpiece, hname⟩
    · rcases List.mem_append.1 h with hfirst | hrest
      · obtain ⟨piece, hpiece, hname⟩ := Option.bind_eq_some_iff.1 (Option.mem_toList.1 hfirst)
        exact ⟨piece, List.mem_of_mem_head? hpiece, firstComponent?_eq_some_name hname⟩
      · obtain ⟨piece, hpiece, hname⟩ := List.mem_filterMap.1 hrest
        exact ⟨piece, List.mem_of_mem_tail hpiece, hname⟩
  obtain ⟨piece, hpiece, hname⟩ := hsegment
  rw [← innerComponent?_eq_some_name hname]
  exact Text.notMem_of_mem_splitOn hpiece

theorem mem_components_of_fileName? (h : p.fileName? = some s) : .name s ∈ p.components := by
  rw [fileName?] at h
  split at h
  · next name hlast =>
    rw [← Option.some.inj h]
    exact List.mem_of_getLast? hlast
  · cases h

theorem IsName.isAbsolute (h : IsName s) : (Path.mk s).isAbsolute = false := by
  have hnotMem := h.notMem
  rw [Path.isAbsolute]
  cases s with
  | nil => rfl
  | cons b bytes =>
    rw [List.mem_cons, not_or] at hnotMem
    simpa using Ne.symm hnotMem.1

/-- The segments of a path below another one follow those of that path, but for an empty one at its
end. -/
theorem exists_segments_join (hp : p.isEmpty = false) (hq : q.isAbsolute = false) :
    ∃ first front trailing, p.segments = first :: (front ++ trailing) ∧
      (∀ piece ∈ trailing, piece = []) ∧ (p.join q).segments = first :: (front ++ q.segments) := by
  rw [join, hq, hp, Bool.or_self, if_neg Bool.false_ne_true]
  split
  · next hslash =>
    obtain ⟨body, hbody⟩ : ∃ body, p.bytes = body ++ [slash] :=
      List.getLast?_eq_some_iff.1 (by simpa using hslash)
    obtain ⟨first, front, hfront⟩ := List.exists_cons_of_ne_nil (Text.splitOn_ne_nil slash body)
    refine ⟨first, front, [[]], ?_, by simp, ?_⟩
    · rw [segments, hbody, Text.splitOn_append_cons, hfront]
      rfl
    · rw [segments, hbody, List.append_assoc, List.singleton_append, Text.splitOn_append_cons,
        hfront]
      rfl
  · obtain ⟨first, front, hfront⟩ :=
      List.exists_cons_of_ne_nil (Text.splitOn_ne_nil slash p.bytes)
    refine ⟨first, front, [], ?_, by simp, ?_⟩
    · rw [segments, hfront, List.append_nil]
    · rw [segments, Text.splitOn_append_cons, hfront]
      rfl

theorem components_join (hp : p.isEmpty = false) (hq : q.isAbsolute = false) :
    (p.join q).components = p.components ++ q.segments.filterMap innerComponent? := by
  obtain ⟨first, front, trailing, hsegments, htrailing, hjoined⟩ := exists_segments_join hp hq
  have hne : ¬ (first = [] ∧ front ++ q.segments = []) := fun h =>
    Text.splitOn_ne_nil _ _ (List.append_eq_nil_iff.1 h.2).2
  have hnone : trailing.filterMap innerComponent? = [] := by
    rw [List.filterMap_eq_nil_iff]
    intro piece hpiece
    rw [htrailing piece hpiece]
    rfl
  have hnonempty : ¬ (first = [] ∧ front ++ trailing = []) := by
    rintro ⟨rfl, hrest⟩
    rw [hrest] at hsegments
    have hbytes : p.bytes = [] := bytes_of_segments hsegments
    rw [isEmpty, hbytes] at hp
    cases hp
  rw [components_of_segments hjoined hne, components_of_segments hsegments hnonempty,
    List.filterMap_append, List.filterMap_append, hnone, List.append_nil, List.append_assoc]

theorem components_join_name (hp : p.isEmpty = false) (hs : IsName s) :
    (p.join ⟨s⟩).components = p.components ++ [.name s] := by
  obtain ⟨hsegments, hinner⟩ := hs.segment
  rw [components_join hp hs.isAbsolute, hsegments, List.filterMap_cons_some hinner]
  rfl

end Path

end DoctypeInterfaces
