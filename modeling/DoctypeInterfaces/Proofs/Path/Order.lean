import DoctypeInterfaces.Path.Order
import DoctypeInterfaces.Proofs.Path.Components
import Mathlib.Data.List.Lex

namespace DoctypeInterfaces.Path

def Component.rank : Component → Nat
  | .root => 0
  | .current => 1
  | .parent => 2
  | .name _ => 3

/-- Whether a component stands before another one: names by their bytes, after all else. -/
def Component.Before : Component → Component → Prop
  | .name s, .name t => s < t
  | c, d => c.rank < d.rank

/-- Whether a path stands before another one, component by component. -/
def Before (p q : Path) : Prop :=
  List.Lex Component.Before p.components q.components

theorem lexLe_cons {a b : Nat} {as bs : List Nat} :
    lexLe (a :: as) (b :: bs) = true ↔ a < b ∨ a = b ∧ lexLe as bs = true := by
  simp [lexLe]

theorem lexLe_append (front as bs : List Nat) :
    lexLe (front ++ as) (front ++ bs) = lexLe as bs := by
  induction front with
  | nil => rfl
  | cons n front ih => simp [lexLe, ih]

theorem lexLe_total (as bs : List Nat) : lexLe as bs = true ∨ lexLe bs as = true := by
  induction as generalizing bs with
  | nil => exact .inl rfl
  | cons a as ih =>
    cases bs with
    | nil => exact .inr rfl
    | cons b bs =>
      rw [lexLe_cons, lexLe_cons]
      rcases Nat.lt_trichotomy a b with hlt | rfl | hgt
      · exact .inl (.inl hlt)
      · exact (ih bs).imp (fun h => .inr ⟨rfl, h⟩) fun h => .inr ⟨rfl, h⟩
      · exact .inr (.inl hgt)

theorem lexLe_trans {as bs cs : List Nat} (h : lexLe as bs = true) (h' : lexLe bs cs = true) :
    lexLe as cs = true := by
  induction as generalizing bs cs with
  | nil => rfl
  | cons a as ih =>
    match bs, cs with
    | [], _ => cases h
    | _ :: _, [] => cases h'
    | b :: bs, c :: cs =>
      rw [lexLe_cons] at h h' ⊢
      rcases h with hlt | ⟨rfl, hle⟩
      · omega
      · exact h'.imp_right fun h' => ⟨h'.1, ih hle h'.2⟩

/-- The end of a name stands before all bytes, so what follows different names does not
count. -/
theorem lt_of_lexLe_bytes {s t : Bytes} {as bs : List Nat} (hne : s ≠ t)
    (h : lexLe (s.map (fun b => b.toNat + 1) ++ 0 :: as)
      (t.map (fun b => b.toNat + 1) ++ 0 :: bs) = true) : s < t := by
  induction s generalizing t with
  | nil =>
    cases t with
    | nil => exact absurd rfl hne
    | cons d t => exact .nil
  | cons c s ih =>
    cases t with
    | nil =>
      rw [List.map_cons, List.cons_append, List.map_nil, List.nil_append, lexLe_cons] at h
      omega
    | cons d t =>
      rw [List.map_cons, List.map_cons, List.cons_append, List.cons_append, lexLe_cons] at h
      rw [List.cons_lt_cons_iff]
      rcases h with hlt | ⟨heq, hle⟩
      · exact .inl (UInt8.lt_iff_toNat_lt.2 (Nat.lt_of_succ_lt_succ hlt))
      · obtain rfl : c = d := UInt8.toNat_inj.1 (Nat.succ.inj heq)
        exact .inr ⟨rfl, ih (fun hst => hne (hst ▸ rfl)) hle⟩

theorem Component.before_of_rank_lt {c d : Component} (h : c.rank < d.rank) : c.Before d := by
  cases c <;> cases d <;> first | exact h | exact absurd h (Nat.lt_irrefl _)

/-- The keys of different components tell their order, whatever follows them. -/
theorem Component.before_of_lexLe {c d : Component} {as bs : List Nat} (hne : c ≠ d)
    (h : lexLe (c.key ++ as) (d.key ++ bs) = true) : c.Before d := by
  have hrank : ∀ c : Component, ∃ more, c.key = c.rank :: more := by
    intro c
    cases c <;> exact ⟨_, rfl⟩
  obtain ⟨more, hc⟩ := hrank c
  obtain ⟨more', hd⟩ := hrank d
  have hranks := h
  rw [hc, hd, List.cons_append, List.cons_append, lexLe_cons] at hranks
  rcases hranks with hlt | ⟨heq, -⟩
  · exact before_of_rank_lt hlt
  · cases c <;> cases d <;> first | exact absurd rfl hne | cases heq
    -- Two names are left.
    next s t =>
    have hst : s ≠ t := fun hst => hne (by rw [hst])
    simp only [key, List.cons_append, List.append_assoc, List.nil_append, lexLe_cons] at h
    exact lt_of_lexLe_bytes hst (by simpa using h)

theorem lex_of_lexLe {cs ds : List Component}
    (h : lexLe (cs.flatMap Component.key) (ds.flatMap Component.key) = true) (hne : cs ≠ ds) :
    List.Lex Component.Before cs ds := by
  induction cs generalizing ds with
  | nil =>
    cases ds with
    | nil => exact absurd rfl hne
    | cons d ds => exact .nil
  | cons c cs ih =>
    cases ds with
    | nil => cases c <;> cases h
    | cons d ds =>
      rw [List.flatMap_cons, List.flatMap_cons] at h
      by_cases hcd : c = d
      · subst hcd
        rw [lexLe_append] at h
        exact .cons (ih h fun heq => hne (heq ▸ rfl))
      · exact .rel (Component.before_of_lexLe hcd h)

theorem before_of_le {p q : Path} (h : p.le q = true) (hne : p.components ≠ q.components) :
    p.Before q :=
  lex_of_lexLe h hne

def WhollyBefore (p q : Path) : Prop :=
  ∀ below below', List.Lex Component.Before (p.components ++ below) (q.components ++ below')

theorem WhollyBefore.before {p q r s : Path} (h : p.WhollyBefore q)
    (hr : p.components <+: r.components) (hs : q.components <+: s.components) : r.Before s := by
  obtain ⟨below, hr⟩ := hr
  obtain ⟨below', hs⟩ := hs
  rw [Before, ← hr, ← hs]
  exact h below below'

theorem lex_append_of_length_eq {r : Component → Component → Prop} {cs ds : List Component}
    (h : List.Lex r cs ds) (hlength : cs.length = ds.length) (more more' : List Component) :
    List.Lex r (cs ++ more) (ds ++ more') := by
  induction h with
  | nil => cases hlength
  | rel hr => exact .rel hr
  | cons _ ih => exact .cons (ih (Nat.succ.inj hlength))

theorem whollyBefore_of_le {p q : Path} (h : p.le q = true)
    (hlength : p.components.length = q.components.length) (hne : p.same q = false) :
    p.WhollyBefore q := by
  have hcomponents : p.components ≠ q.components := by
    intro heq
    rw [same_iff.2 heq] at hne
    cases hne
  exact lex_append_of_length_eq (before_of_le h hcomponents) hlength

theorem le_of_components_eq {p q : Path} (h : p.components = q.components) : p.le q = true := by
  rw [le, key, key, h]
  exact (lexLe_total _ _).elim id id

/-- Whether two items are in path order, those of the same path in an order of their own. -/
def OrderedBy {α : Type} (path : α → Path) (r : α → α → Prop) (a b : α) : Prop :=
  (path a).le (path b) = true ∧ ((path a).components = (path b).components → r a b)

theorem pairwise_insertBy {α : Type} {path : α → Path} {r : α → α → Prop} {item : α}
    {items : List α} (hitem : ∀ a ∈ items, (path item).components = (path a).components → r item a)
    (h : items.Pairwise (OrderedBy path r)) :
    (insertBy path item items).Pairwise (OrderedBy path r) := by
  induction items with
  | nil => exact List.pairwise_singleton _ _
  | cons first rest ih =>
    rw [List.forall_mem_cons] at hitem
    obtain ⟨hfirst, hrest⟩ := List.pairwise_cons.1 h
    rw [insertBy]
    split
    · next hle =>
      refine List.pairwise_cons.2 ⟨List.forall_mem_cons.2 ⟨⟨hle, hitem.1⟩, ?_⟩, h⟩
      exact fun a ha => ⟨lexLe_trans hle (hfirst a ha).1, hitem.2 a ha⟩
    · next hnot =>
      refine List.pairwise_cons.2 ⟨?_, ih hitem.2 hrest⟩
      intro a ha
      rcases mem_insertBy.1 ha with rfl | ha
      · refine ⟨(lexLe_total _ _).resolve_right hnot, fun heq => ?_⟩
        exact absurd (le_of_components_eq heq.symm) hnot
      · exact hfirst a ha

theorem pairwise_orderedBy_sortBy {α : Type} {path : α → Path} {r : α → α → Prop} {items : List α}
    (h : items.Pairwise fun a b => (path a).components = (path b).components → r a b) :
    (sortBy path items).Pairwise (OrderedBy path r) := by
  induction items with
  | nil => exact .nil
  | cons item items ih =>
    obtain ⟨hitem, hitems⟩ := List.pairwise_cons.1 h
    exact pairwise_insertBy (fun a ha => hitem a (mem_sortBy.1 ha)) (ih hitems)

theorem pairwise_sortBy {α : Type} (path : α → Path) (items : List α) :
    (sortBy path items).Pairwise fun a b => (path a).le (path b) = true := by
  have hitems : items.Pairwise fun a b => (path a).components = (path b).components → True :=
    List.pairwise_of_forall fun _ _ _ => trivial
  exact (pairwise_orderedBy_sortBy hitems).imp And.left

end DoctypeInterfaces.Path
