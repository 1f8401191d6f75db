import DoctypeInterfaces.Path.Basic

namespace DoctypeInterfaces.Path

/-- The rank of a component among those of other kinds, the bytes of a name, and an end that stands
before every byte. -/
def Component.key : Component → List Nat
  | .root => [0]
  | .current => [1]
  | .parent => [2]
  | .name s => 3 :: s.map (fun b => b.toNat + 1) ++ [0]

/-- What paths are ordered by. -/
def key (p : Path) : List Nat :=
  p.components.flatMap Component.key

/-- Whether a list stands before another one in the order of dictionaries, or is the same. -/
def lexLe : List Nat → List Nat → Bool
  | [], _ => true
  | _ :: _, [] => false
  | a :: as, b :: bs => a < b || (a == b && lexLe as bs)

def le (p q : Path) : Bool :=
  lexLe p.key q.key

/-- The sorted items with one more, before those of the same path. -/
def insertBy {α : Type} (path : α → Path) (item : α) : List α → List α
  | [] => [item]
  | first :: rest =>
    if (path item).le (path first) then item :: first :: rest
    else first :: insertBy path item rest

/-- The items in the order of their paths; items of the same path keep their order. -/
def sortBy {α : Type} (path : α → Path) (items : List α) : List α :=
  items.foldr (insertBy path) []

theorem insertBy_perm {α : Type} (path : α → Path) (item : α) (items : List α) :
    (insertBy path item items).Perm (item :: items) := by
  induction items with
  | nil => exact .refl _
  | cons first rest ih =>
    rw [insertBy]
    split
    · exact .refl _
    · exact (ih.cons first).trans (.swap item first rest)

theorem sortBy_perm {α : Type} (path : α → Path) (items : List α) :
    (sortBy path items).Perm items := by
  induction items with
  | nil => exact .refl _
  | cons item items ih => exact (insertBy_perm path item _).trans (ih.cons item)

theorem mem_insertBy {α : Type} {path : α → Path} {item a : α} {items : List α} :
    a ∈ insertBy path item items ↔ a = item ∨ a ∈ items := by
  rw [(insertBy_perm path item items).mem_iff, List.mem_cons]

theorem mem_sortBy {α : Type} {path : α → Path} {a : α} {items : List α} :
    a ∈ sortBy path items ↔ a ∈ items :=
  (sortBy_perm path items).mem_iff

end DoctypeInterfaces.Path
