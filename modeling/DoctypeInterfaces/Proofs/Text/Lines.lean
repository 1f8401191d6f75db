import Mathlib.Data.List.SplitBy
import DoctypeInterfaces.Text.Lines

namespace DoctypeInterfaces.Text

section Pieces

variable {α : Type} [DecidableEq α]

theorem splitOn_eq_splitOn (separator : α) (s : List α) :
    splitOn separator s = s.splitOn separator := by
  induction s with
  | nil => rfl
  | cons c s ih =>
    rw [List.splitOn_cons_eq_if_modifyHead, ← ih]
    simp only [splitOn, List.foldr_cons, beq_iff_eq]
    split
    · rfl
    · split
      · next h => rw [h]; rfl
      · next h => exact absurd h (splitOn_ne_nil separator s)

theorem splitOn_cons_of_ne {separator c : α} {s piece : List α} {rest : List (List α)}
    (hne : c ≠ separator) (h : splitOn separator s = piece :: rest) :
    splitOn separator (c :: s) = (c :: piece) :: rest := by
  rw [splitOn_eq_splitOn] at h
  rw [splitOn_eq_splitOn, List.splitOn_cons_eq_if_modifyHead, h]
  simp [hne]

theorem splitOn_append_cons (separator : α) (s t : List α) :
    splitOn separator (s ++ separator :: t) = splitOn separator s ++ splitOn separator t := by
  induction s with
  | nil => simp
  | cons c s ih =>
    by_cases hc : c = separator
    · subst hc
      rw [List.cons_append, splitOn_cons_self, splitOn_cons_self, ih, List.cons_append]
    · cases hs : splitOn separator s with
      | nil => exact absurd hs (splitOn_ne_nil separator s)
      | cons piece rest =>
        rw [hs] at ih
        rw [List.cons_append, splitOn_cons_of_ne hc ih, splitOn_cons_of_ne hc hs]
        rfl

theorem notMem_of_mem_splitOn {separator : α} {s piece : List α}
    (h : piece ∈ splitOn separator s) : separator ∉ piece := by
  induction s generalizing piece with
  | nil =>
    rw [splitOn_nil, List.mem_singleton] at h
    simp [h]
  | cons c s ih =>
    by_cases hc : c = separator
    · subst hc
      rw [splitOn_cons_self, List.mem_cons] at h
      rcases h with rfl | h
      · simp
      · exact ih h
    · cases hs : splitOn separator s with
      | nil => exact absurd hs (splitOn_ne_nil separator s)
      | cons first rest =>
        rw [splitOn_cons_of_ne hc hs, List.mem_cons] at h
        rcases h with rfl | h
        · rw [List.mem_cons, not_or]
          exact ⟨Ne.symm hc, ih (hs ▸ List.mem_cons_self)⟩
        · exact ih (hs ▸ List.mem_cons_of_mem _ h)

end Pieces

theorem mem_of_mem_intercalate {c : Char} {separator : List Char} {pieces : List (List Char)}
    (h : c ∈ separator.intercalate pieces) : c ∈ separator ∨ ∃ piece ∈ pieces, c ∈ piece := by
  induction pieces with
  | nil => simp [List.intercalate] at h
  | cons piece rest ih =>
    cases rest with
    | nil =>
      right
      exact ⟨piece, List.mem_singleton_self _, by simpa [List.intercalate] using h⟩
    | cons next rest =>
      rw [List.intercalate_cons_cons, List.mem_append, List.mem_append] at h
      rcases h with (h | h) | h
      · exact .inr ⟨piece, List.mem_cons_self, h⟩
      · exact .inl h
      · rcases ih h with h | ⟨other, hother, h⟩
        · exact .inl h
        · exact .inr ⟨other, List.mem_cons_of_mem _ hother, h⟩

theorem mem_of_mem_splitOn {separator c : Char} {s piece : List Char}
    (h : piece ∈ splitOn separator s) (hc : c ∈ piece) : c ∈ s := by
  induction s generalizing piece with
  | nil =>
    rw [splitOn_nil, List.mem_singleton] at h
    rwa [h] at hc
  | cons d s ih =>
    by_cases hd : d = separator
    · subst hd
      rw [splitOn_cons_self, List.mem_cons] at h
      rcases h with rfl | h
      · cases hc
      · exact List.mem_cons_of_mem _ (ih h hc)
    · cases hs : splitOn separator s with
      | nil => exact absurd hs (splitOn_ne_nil separator s)
      | cons first rest =>
        rw [splitOn_cons_of_ne hd hs, List.mem_cons] at h
        rcases h with rfl | h
        · rcases List.mem_cons.1 hc with rfl | hc
          · exact List.mem_cons_self
          · exact List.mem_cons_of_mem _ (ih (hs ▸ List.mem_cons_self) hc)
        · exact List.mem_cons_of_mem _ (ih (hs ▸ List.mem_cons_of_mem _ h) hc)

theorem exists_mem_splitOn {separator c : Char} {s : List Char} (h : c ∈ s) (hne : c ≠ separator) :
    ∃ piece ∈ splitOn separator s, c ∈ piece := by
  have hs : [separator].intercalate (splitOn separator s) = s := by
    rw [splitOn_eq_splitOn, List.intercalate_splitOn]
  rw [← hs] at h
  rcases mem_of_mem_intercalate h with h | h
  · exact absurd (List.mem_singleton.1 h) hne
  · exact h

def IsLine (l : List Char) : Prop :=
  ∃ r, '\n' ∉ r ∧ l = r ++ ['\n']

theorem IsLine.getLast? {l : List Char} (h : IsLine l) : l.getLast? = some '\n' := by
  obtain ⟨r, -, rfl⟩ := h
  exact List.getLast?_concat

theorem isChain_of_notMem {r : List Char} (h : '\n' ∉ r) :
    r.IsChain fun a _ => (a != '\n') = true := by
  apply List.Pairwise.isChain
  rw [List.pairwise_iff_forall_sublist]
  intro a b hab
  have ha : a ∈ r := hab.subset List.mem_cons_self
  have hne : a ≠ '\n' := fun heq => h (heq ▸ ha)
  simpa using hne

theorem lines_of_notMem {r : List Char} (h : '\n' ∉ r) (hne : r ≠ []) : lines r = [r] :=
  List.splitBy_of_isChain hne (isChain_of_notMem h)

theorem mem_of_mem_lines {c : Char} {l s : List Char} (hl : l ∈ lines s) (hc : c ∈ l) : c ∈ s := by
  rw [← List.flatten_splitBy (fun c _ => c != '\n') s]
  exact List.mem_flatten.2 ⟨l, hl, hc⟩

theorem chomp_isPrefix (l : List Char) : chomp l <+: l := by
  unfold chomp
  split
  · next r hr => exact ⟨['\r', '\n'], by simpa using (congrArg List.reverse hr).symm⟩
  · next r _ hr => exact ⟨['\n'], by simpa using (congrArg List.reverse hr).symm⟩
  · exact List.prefix_rfl

theorem mem_of_mem_chomp {c : Char} {l : List Char} (h : c ∈ chomp l) : c ∈ l :=
  (chomp_isPrefix l).subset h

theorem chomp_append_return (l : List Char) : chomp (l ++ ['\r', '\n']) = l := by
  simp [chomp]

theorem lines_append {s rest : List Char} (h : s.getLast? = some '\n') :
    lines (s ++ rest) = lines s ++ lines rest := by
  apply List.splitBy_append
  intro c hc
  obtain rfl : '\n' = c := Option.some.inj (h.symm.trans hc)
  exact fun _ _ => rfl

theorem IsLine.lines_eq {l : List Char} (h : IsLine l) : lines l = [l] := by
  obtain ⟨r, hr, rfl⟩ := h
  apply List.splitBy_of_isChain (by simp)
  rw [List.isChain_append]
  refine ⟨isChain_of_notMem hr, List.isChain_singleton _, ?_⟩
  intro a ha b _
  have hmem : a ∈ r := List.mem_of_getLast? ha
  have hne : a ≠ '\n' := fun heq => hr (heq ▸ hmem)
  simpa using hne

theorem IsLine.lines_append {l rest : List Char} (h : IsLine l) :
    lines (l ++ rest) = l :: lines rest := by
  rw [Text.lines_append h.getLast?, h.lines_eq, List.singleton_append]

theorem IsLine.eq_of_append_eq {l l' rest rest' : List Char} (hl : IsLine l) (hl' : IsLine l')
    (h : l ++ rest = l' ++ rest') : l = l' := by
  have hlines := congrArg lines h
  rw [hl.lines_append, hl'.lines_append] at hlines
  exact (List.cons.inj hlines).1

theorem lines_flatten_append {ls : List (List Char)} (h : ∀ l ∈ ls, IsLine l) (rest : List Char) :
    lines (ls.flatten ++ rest) = ls ++ lines rest := by
  induction ls with
  | nil => rfl
  | cons l ls ih =>
    rw [List.flatten_cons, List.append_assoc, (h l List.mem_cons_self).lines_append,
      ih fun l hl => h l (List.mem_cons_of_mem _ hl), List.cons_append]

inductive Lined : List (List Char) → Prop where
  | none : Lined []
  | last {r : List Char} : '\n' ∉ r → r ≠ [] → Lined [r]
  | line {l : List Char} {ls : List (List Char)} : IsLine l → Lined ls → Lined (l :: ls)

theorem Lined.isLine {l next : List Char} {ls : List (List Char)} (h : Lined (l :: next :: ls)) :
    IsLine l := by
  cases h with
  | line hl _ => exact hl

theorem Lined.tail {l : List Char} {ls : List (List Char)} (h : Lined (l :: ls)) : Lined ls := by
  cases h with
  | last => exact .none
  | line _ hrest => exact hrest

theorem Lined.of_append {front ls : List (List Char)} (h : Lined (front ++ ls)) : Lined ls := by
  induction front with
  | nil => exact h
  | cons l front ih => exact ih h.tail

theorem Lined.isLine_of_append {front ls : List (List Char)} (h : Lined (front ++ ls))
    (hne : ls ≠ []) : ∀ l ∈ front, IsLine l := by
  induction front with
  | nil => simp
  | cons first front ih =>
    intro l hl
    rcases List.mem_cons.1 hl with rfl | hl
    · obtain ⟨next, rest, hrest⟩ := List.exists_cons_of_ne_nil
        (List.append_ne_nil_of_right_ne_nil front hne)
      rw [List.cons_append, hrest] at h
      exact h.isLine
    · exact ih h.tail l hl

theorem lined_lines (s : List Char) : Lined (lines s) := by
  induction hn : s.length using Nat.strongRecOn generalizing s with
  | ind n ih =>
  by_cases hmem : '\n' ∈ s
  · obtain ⟨r, rest, rfl, hr⟩ := List.eq_append_cons_of_mem hmem
    have hline : IsLine (r ++ ['\n']) := ⟨r, hr, rfl⟩
    have hsplit : r ++ '\n' :: rest = (r ++ ['\n']) ++ rest := by simp
    rw [hsplit, hline.lines_append]
    refine .line hline (ih rest.length ?_ rest rfl)
    rw [← hn, List.length_append, List.length_cons]
    omega
  · by_cases hs : s = []
    · rw [hs]
      exact .none
    · rw [lines_of_notMem hmem hs]
      exact .last hmem hs

end DoctypeInterfaces.Text
