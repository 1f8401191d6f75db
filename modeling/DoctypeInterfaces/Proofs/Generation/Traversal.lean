import Mathlib.Data.List.Nodup
import Mathlib.Data.List.Perm.Basic
import Mathlib.Logic.Relation

namespace DoctypeInterfaces

variable {α : Type}

/-- A traversal when the nodes in `seen` have been visited: the nodes in the order in which their
visits begin, and in the order in which they finish. -/
inductive DepthFirst (next : α → List α) : List α → List α → List α → List α → Prop where
  | done (seen : List α) : DepthFirst next seen [] [] []
  | again {seen requests visited finished : List α} {a : α} :
    a ∈ seen → DepthFirst next seen requests visited finished →
    DepthFirst next seen (a :: requests) visited finished
  | visit {seen requests visited finished laterVisited laterFinished : List α} {a : α} :
    a ∉ seen → DepthFirst next (seen ++ [a]) (next a) visited finished →
    DepthFirst next (seen ++ a :: visited) requests laterVisited laterFinished →
    DepthFirst next seen (a :: requests) (a :: (visited ++ laterVisited))
      (finished ++ a :: laterFinished)

/-- Whether a node stands before another one in a list. -/
def StandsBefore (a b : α) (l : List α) : Prop :=
  ∃ front back, l = front ++ b :: back ∧ a ∈ front

theorem StandsBefore.append_right {a b : α} {l : List α} (h : StandsBefore a b l)
    (later : List α) : StandsBefore a b (l ++ later) := by
  obtain ⟨front, back, rfl, ha⟩ := h
  exact ⟨front, back ++ later, by simp, ha⟩

theorem StandsBefore.append_left {a b : α} {l : List α} (h : StandsBefore a b l)
    (earlier : List α) : StandsBefore a b (earlier ++ l) := by
  obtain ⟨front, back, rfl, ha⟩ := h
  exact ⟨earlier ++ front, back, by simp, List.mem_append_right _ ha⟩

theorem StandsBefore.mem_of_isPrefix {a b : α} {first l : List α} (h : StandsBefore a b l)
    (hnodup : l.Nodup) (hfirst : first <+: l) (hb : b ∈ first) : a ∈ first := by
  obtain ⟨front, back, rfl, ha⟩ := h
  obtain ⟨rest, hrest⟩ := hfirst
  rcases List.append_eq_append_iff.1 hrest with ⟨middle, rfl, -⟩ | ⟨middle, rfl, -⟩
  · have hnot := (List.nodup_cons.1 (List.nodup_middle.1 hnodup)).1
    exact absurd (List.mem_append_left _ (List.mem_append_left _ hb)) hnot
  · exact List.mem_append_left _ ha

theorem standsBefore_append {a b : α} {earlier later : List α} (ha : a ∈ earlier)
    (hb : b ∈ later) : StandsBefore a b (earlier ++ later) := by
  obtain ⟨front, back, rfl⟩ := List.append_of_mem hb
  exact ⟨earlier ++ front, back, by simp, List.mem_append_left _ ha⟩

namespace DepthFirst

variable {next : α → List α} {seen requests visited finished : List α} {a b : α}

theorem leaf (hnew : a ∉ seen) (hnext : next a = [])
    (h : DepthFirst next (seen ++ [a]) requests visited finished) :
    DepthFirst next seen (a :: requests) (a :: visited) (a :: finished) := by
  have hinner : DepthFirst next (seen ++ [a]) (next a) [] [] := by
    rw [hnext]
    exact .done _
  exact .visit hnew hinner h

theorem unique {visited' finished' : List α} (h : DepthFirst next seen requests visited finished)
    (h' : DepthFirst next seen requests visited' finished') :
    visited' = visited ∧ finished' = finished := by
  induction h generalizing visited' finished' with
  | done =>
    cases h'
    exact ⟨rfl, rfl⟩
  | again hseen _ ih =>
    cases h' with
    | again _ hrest => exact ih hrest
    | visit hnew => exact absurd hseen hnew
  | visit hnew _ _ ihInner ihLater =>
    cases h' with
    | again hseen => exact absurd hseen hnew
    | visit _ hinner hlater =>
      obtain ⟨rfl, rfl⟩ := ihInner hinner
      obtain ⟨rfl, rfl⟩ := ihLater hlater
      exact ⟨rfl, rfl⟩

theorem finished_perm (h : DepthFirst next seen requests visited finished) :
    finished.Perm visited := by
  induction h with
  | done => exact .nil
  | again _ _ ih => exact ih
  | visit _ _ _ ihInner ihLater =>
    exact List.perm_middle.trans (.cons _ (ihInner.append ihLater))

theorem notMem_seen (h : DepthFirst next seen requests visited finished) :
    ∀ a ∈ visited, a ∉ seen := by
  induction h with
  | done => simp
  | again _ _ ih => exact ih
  | visit hnew _ _ ihInner ihLater =>
    intro a ha
    rcases List.mem_cons.1 ha with rfl | ha
    · exact hnew
    · rcases List.mem_append.1 ha with ha | ha
      · exact fun hseen => ihInner a ha (List.mem_append_left _ hseen)
      · exact fun hseen => ihLater a ha (List.mem_append_left _ hseen)

theorem nodup (h : DepthFirst next seen requests visited finished) : visited.Nodup := by
  induction h with
  | done => exact .nil
  | again _ _ ih => exact ih
  | @visit seen requests visited finished laterVisited laterFinished a _ hinner hlater ihInner
      ihLater =>
    rw [List.nodup_cons, List.mem_append, List.nodup_append]
    refine ⟨?_, ihInner, ihLater, ?_⟩
    · rintro (ha | ha)
      · exact hinner.notMem_seen a ha (by simp)
      · exact hlater.notMem_seen a ha (by simp)
    · rintro b hb _ hb' rfl
      exact hlater.notMem_seen b hb' (by simp [hb])

theorem mem_requests (h : DepthFirst next seen requests visited finished) :
    ∀ a ∈ requests, a ∈ seen ∨ a ∈ visited := by
  induction h with
  | done => simp
  | again hseen _ ih =>
    intro a ha
    rcases List.mem_cons.1 ha with rfl | ha
    · exact .inl hseen
    · exact ih a ha
  | visit _ _ _ _ ihLater =>
    intro b hb
    rcases List.mem_cons.1 hb with rfl | hb
    · exact .inr List.mem_cons_self
    · have hlater := ihLater b hb
      simp only [List.mem_append, List.mem_cons] at hlater ⊢
      tauto

/-- What follows a visited node is visited, if it was not seen before. -/
theorem mem_next (h : DepthFirst next seen requests visited finished) :
    ∀ a ∈ visited, ∀ b ∈ next a, b ∈ seen ∨ b ∈ visited := by
  induction h with
  | done => simp
  | again _ _ ih => exact ih
  | visit _ hinner _ ihInner ihLater =>
    intro b hb c hc
    rcases List.mem_cons.1 hb with rfl | hb
    · have hrequest := hinner.mem_requests c hc
      simp only [List.mem_append, List.mem_cons, List.not_mem_nil] at hrequest ⊢
      tauto
    · rcases List.mem_append.1 hb with hb | hb
      · have hnext := ihInner b hb c hc
        simp only [List.mem_append, List.mem_cons, List.not_mem_nil] at hnext ⊢
        tauto
      · have hnext := ihLater b hb c hc
        simp only [List.mem_append, List.mem_cons] at hnext ⊢
        tauto

/-- Whether a node can be reached from another one. -/
abbrev Reaches (next : α → List α) : α → α → Prop :=
  Relation.ReflTransGen fun a b => b ∈ next a

theorem mem_of_reaches {nodes : List α} (hclosed : ∀ a ∈ nodes, ∀ b ∈ next a, b ∈ nodes)
    (ha : a ∈ nodes) (h : Reaches next a b) : b ∈ nodes := by
  induction h with
  | refl => exact ha
  | tail _ hnext ih => exact hclosed _ ih _ hnext

theorem reaches_of_mem_visited (h : DepthFirst next seen requests visited finished) :
    ∀ a ∈ visited, ∃ root ∈ requests, Reaches next root a := by
  induction h with
  | done => simp
  | again _ _ ih =>
    intro a ha
    obtain ⟨root, hroot, hreaches⟩ := ih a ha
    exact ⟨root, List.mem_cons_of_mem _ hroot, hreaches⟩
  | visit _ _ _ ihInner ihLater =>
    intro b hb
    rcases List.mem_cons.1 hb with rfl | hb
    · exact ⟨b, List.mem_cons_self, .refl⟩
    · rcases List.mem_append.1 hb with hb | hb
      · obtain ⟨child, hchild, hreaches⟩ := ihInner b hb
        exact ⟨_, List.mem_cons_self, .head hchild hreaches⟩
      · obtain ⟨root, hroot, hreaches⟩ := ihLater b hb
        exact ⟨root, List.mem_cons_of_mem _ hroot, hreaches⟩

theorem mem_visited_iff (h : DepthFirst next [] requests visited finished) :
    a ∈ visited ↔ ∃ root ∈ requests, Reaches next root a := by
  constructor
  · exact h.reaches_of_mem_visited a
  · rintro ⟨root, hroot, hreaches⟩
    have hrootVisited : root ∈ visited := (h.mem_requests root hroot).resolve_left List.not_mem_nil
    induction hreaches with
    | refl => exact hrootVisited
    | tail _ hnext ih => exact (h.mem_next _ ih _ hnext).resolve_left List.not_mem_nil

/-- What follows a visited node finishes before it, has been finished before, or leads back to it:
the nodes whose visits are going on lead to all that is requested. -/
theorem next_finished (h : DepthFirst next seen requests visited finished) (earlier : List α)
    (hseen : ∀ s ∈ seen, s ∈ earlier ∨ ∀ r ∈ requests, Reaches next s r) :
    ∀ a ∈ visited, ∀ b ∈ next a,
      b ∈ earlier ∨ StandsBefore b a finished ∨ Reaches next b a := by
  induction h generalizing earlier with
  | done => simp
  | again _ _ ih =>
    refine ih earlier fun s hs => (hseen s hs).imp_right fun hreaches r hr => ?_
    exact hreaches r (List.mem_cons_of_mem _ hr)
  | @visit seen requests visited finished laterVisited laterFinished a _ hinner hlater ihInner
      ihLater =>
    intro b hb c hc
    rcases List.mem_cons.1 hb with rfl | hb
    · rcases hinner.mem_requests c hc with hmem | hmem
      · rcases List.mem_append.1 hmem with hmem | hmem
        · rcases hseen c hmem with hmem | hreaches
          · exact .inl hmem
          · exact .inr (.inr (hreaches b List.mem_cons_self))
        · rw [List.mem_singleton.1 hmem]
          exact .inr (.inr .refl)
      · exact .inr (.inl (standsBefore_append (hinner.finished_perm.mem_iff.2 hmem)
          List.mem_cons_self))
    · rcases List.mem_append.1 hb with hb | hb
      · -- What is being visited leads to `a`, and so to all that is requested below it.
        have hinnerSeen : ∀ s ∈ seen ++ [a], s ∈ earlier ∨ ∀ r ∈ next a, Reaches next s r := by
          intro s hs
          rcases List.mem_append.1 hs with hs | hs
          · exact (hseen s hs).imp_right fun hreaches r hr =>
              (hreaches a List.mem_cons_self).tail hr
          · rw [List.mem_singleton.1 hs]
            exact .inr fun r hr => .single hr
        rcases ihInner earlier hinnerSeen b hb c hc with h | h | h
        · exact .inl h
        · exact .inr (.inl (h.append_right _))
        · exact .inr (.inr h)
      · -- What has been visited by now has finished, and stands before all that finishes later.
        have hlaterSeen : ∀ s ∈ seen ++ a :: visited,
            s ∈ earlier ++ (finished ++ [a]) ∨ ∀ r ∈ requests, Reaches next s r := by
          intro s hs
          rcases List.mem_append.1 hs with hs | hs
          · rcases hseen s hs with hs | hreaches
            · exact .inl (List.mem_append_left _ hs)
            · exact .inr fun r hr => hreaches r (List.mem_cons_of_mem _ hr)
          · refine .inl (List.mem_append_right _ ?_)
            rcases List.mem_cons.1 hs with rfl | hs
            · simp
            · exact List.mem_append_left _ (hinner.finished_perm.mem_iff.2 hs)
        have hfinished : finished ++ a :: laterFinished = (finished ++ [a]) ++ laterFinished := by
          simp
        rcases ihLater _ hlaterSeen b hb c hc with h | h | h
        · rcases List.mem_append.1 h with h | h
          · exact .inl h
          · rw [hfinished]
            exact .inr (.inl (standsBefore_append h (hlater.finished_perm.mem_iff.2 hb)))
        · rw [hfinished]
          exact .inr (.inl (h.append_left _))
        · exact .inr (.inr h)

/-- From the start, what follows a node finishes before it, except along a cycle. -/
theorem child_first (h : DepthFirst next [] requests visited finished) (ha : a ∈ visited)
    (hb : b ∈ next a) : StandsBefore b a finished ∨ Reaches next b a :=
  (h.next_finished [] (by simp) a ha b hb).resolve_left List.not_mem_nil

end DepthFirst

end DoctypeInterfaces
