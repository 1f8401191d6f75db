import DoctypeInterfaces.Interface.Basic

namespace DoctypeInterfaces

/-- The interfaces with `new` in the place of the one of its name, or at the end. -/
def replaceOrAppend (new : Interface) : List Interface → List Interface
  | [] => [new]
  | old :: rest => if old.name = new.name then new :: rest else old :: replaceOrAppend new rest

theorem mem_map_name_replaceOrAppend {new : Interface} {l : List Interface} {name : String} :
    name ∈ (replaceOrAppend new l).map Interface.name ↔
      name = new.name ∨ name ∈ l.map Interface.name := by
  induction l with
  | nil => simp [replaceOrAppend]
  | cons old rest ih =>
    simp only [replaceOrAppend]
    split
    · next h => simp [h]
    · simp only [List.map_cons, List.mem_cons, ih]
      exact or_left_comm

theorem nodup_map_name_replaceOrAppend {new : Interface} {l : List Interface}
    (h : (l.map Interface.name).Nodup) :
    ((replaceOrAppend new l).map Interface.name).Nodup := by
  induction l with
  | nil => simp [replaceOrAppend]
  | cons old rest ih =>
    simp only [List.map_cons, List.nodup_cons] at h
    simp only [replaceOrAppend]
    split
    · next hn => simpa [← hn] using h
    · next hn =>
      simp only [List.map_cons, List.nodup_cons, mem_map_name_replaceOrAppend, not_or]
      exact ⟨⟨hn, h.1⟩, ih h.2⟩

/-- Interfaces with distinct names, in order. -/
structure InterfaceSet where
  toList : List Interface
  nodup : (toList.map Interface.name).Nodup := by simp
  deriving DecidableEq

namespace InterfaceSet

/-- The set without interfaces. -/
def empty : InterfaceSet := ⟨[], by simp⟩

instance : Inhabited InterfaceSet := ⟨empty⟩

/-- The set with one more interface, or with another one in the place of the one of its name. -/
def insert (set : InterfaceSet) (interface : Interface) : InterfaceSet :=
  ⟨replaceOrAppend interface set.toList, nodup_map_name_replaceOrAppend set.nodup⟩

@[simp] theorem toList_empty : empty.toList = [] := rfl

@[simp] theorem toList_insert (set : InterfaceSet) (interface : Interface) :
    (set.insert interface).toList = replaceOrAppend interface set.toList := rfl

/-- The set that results when interfaces are inserted one by one. -/
def ofList (interfaces : List Interface) : InterfaceSet :=
  interfaces.foldl insert empty

/-- The interface of a name. -/
def get? (set : InterfaceSet) (name : String) : Option Interface :=
  set.toList.find? fun interface => interface.name = name

/-- Whether the interface of a name was made at the time `modified`. -/
def isCurrent (set : InterfaceSet) (name modified : String) : Bool :=
  (set.get? name).any fun interface => interface.lastUpdated = modified

/-- The number of interfaces. -/
def size (set : InterfaceSet) : Nat :=
  set.toList.length

/-- The names in order. -/
def names (set : InterfaceSet) : List String :=
  set.toList.map Interface.name

/-- The text of the output: the base declarations and the blocks, with an empty line between two. -/
def render (set : InterfaceSet) : String :=
  String.intercalate "\n" (baseInterfaces :: set.toList.map Interface.block)

end InterfaceSet

end DoctypeInterfaces
