import DoctypeInterfaces.Proofs.Interface.Set
import Mathlib.Data.Finmap
import Mathlib.Data.Finset.Card

namespace DoctypeInterfaces

def lastNamed (interfaces : List Interface) (name : String) : Option Interface :=
  (interfaces.filter fun interface => interface.name = name).getLast?

theorem lastNamed_concat (interfaces : List Interface) (last : Interface) (name : String) :
    lastNamed (interfaces ++ [last]) name =
      if name = last.name then some last else lastNamed interfaces name := by
  rw [lastNamed, List.filter_append, List.filter_singleton]
  by_cases h : name = last.name
  · simp [h]
  · have h' : last.name ≠ name := fun heq => h heq.symm
    simp [h, h', lastNamed]

namespace InterfaceSet

variable {set : InterfaceSet} {interface : Interface} {interfaces : List Interface}

/-- What insertions make of the empty set. -/
structure IsInsertionOrdered (set : InterfaceSet) (interfaces : List Interface) : Prop where
  names_eq : set.names = (interfaces.map Interface.name).eraseDups
  /-- Under a name stands what was inserted last. -/
  get?_eq : ∀ name, set.get? name = lastNamed interfaces name
  toList_eq : set.toList.map some =
    (interfaces.map Interface.name).eraseDups.map (lastNamed interfaces)
  /-- As many interfaces are there as names were inserted. -/
  size_eq : set.size = (interfaces.map Interface.name).toFinset.card
  /-- The output is made of the base declarations and the last block of each name. -/
  render_eq : set.render = "\n".intercalate (baseInterfaces ::
    (interfaces.map Interface.name).eraseDups.filterMap fun name =>
      (lastNamed interfaces name).map Interface.block)

theorem ofList_concat : ofList (interfaces ++ [interface]) = (ofList interfaces).insert interface :=
  List.foldl_concat _ _ _ _

theorem names_ofList (interfaces : List Interface) :
    (ofList interfaces).names = (interfaces.map Interface.name).eraseDups := by
  induction interfaces using List.reverseRecOn with
  | nil => rfl
  | append_singleton interfaces last ih =>
    rw [ofList_concat, names_insert, ih, List.map_append, List.map_singleton,
      List.eraseDups_append, List.removeAll, List.filter_singleton]
    by_cases h : last.name ∈ interfaces.map Interface.name
    · rw [if_pos (List.mem_eraseDups.2 h)]
      simp [h]
    · rw [if_neg (mt List.mem_eraseDups.1 h)]
      simp [h, List.eraseDups_cons]

theorem get?_ofList (interfaces : List Interface) (name : String) :
    (ofList interfaces).get? name = lastNamed interfaces name := by
  induction interfaces using List.reverseRecOn with
  | nil => rfl
  | append_singleton interfaces last ih => rw [ofList_concat, get?_insert, ih, lastNamed_concat]

theorem map_some_toList (set : InterfaceSet) : set.toList.map some = set.names.map set.get? := by
  rw [names, List.map_map]
  refine List.map_congr_left fun interface hmem => ?_
  exact (get?_eq_some_iff.2 ⟨hmem, rfl⟩).symm

/-- To look up the names in order gives the interfaces in order. -/
theorem filterMap_get?_names (set : InterfaceSet) : set.names.filterMap set.get? = set.toList := by
  have h := congrArg (List.filterMap id) set.map_some_toList
  rw [List.filterMap_map, List.filterMap_map, Function.id_comp, Function.id_comp,
    List.filterMap_some] at h
  exact h.symm

theorem size_ofList (interfaces : List Interface) :
    (ofList interfaces).size = (interfaces.map Interface.name).toFinset.card := by
  have hnames : (interfaces.map Interface.name).toFinset = (ofList interfaces).names.toFinset := by
    ext name
    rw [names_ofList, List.mem_toFinset, List.mem_toFinset, List.mem_eraseDups]
  rw [hnames, size, ← List.length_map (f := Interface.name)]
  exact (List.toFinset_card_of_nodup (ofList interfaces).nodup).symm

theorem isInsertionOrdered_ofList (interfaces : List Interface) :
    (ofList interfaces).IsInsertionOrdered interfaces where
  names_eq := names_ofList interfaces
  get?_eq := get?_ofList interfaces
  toList_eq := by
    rw [map_some_toList, names_ofList, funext (get?_ofList interfaces)]
  size_eq := size_ofList interfaces
  render_eq := by
    have hlast : lastNamed interfaces = (ofList interfaces).get? :=
      (funext (get?_ofList interfaces)).symm
    rw [render, ← names_ofList, hlast, ← List.map_filterMap, filterMap_get?_names]

end InterfaceSet

/-- Interfaces in two collections: the names in order, and the interfaces by name. -/
structure InterfaceTable where
  order : List String
  entries : Finmap fun _ : String => Interface

namespace InterfaceTable

/-- The table without interfaces. -/
def empty : InterfaceTable := ⟨[], ∅⟩

/-- The table with an interface under its name, which comes last in the order if it is new. -/
def insert (table : InterfaceTable) (interface : Interface) : InterfaceTable where
  order := if interface.name ∈ table.entries then table.order else table.order ++ [interface.name]
  entries := table.entries.insert interface.name interface

/-- The table that results when interfaces are inserted one by one. -/
def ofList (interfaces : List Interface) : InterfaceTable :=
  interfaces.foldl insert empty

/-- The interfaces in order; a name without an interface is passed over. -/
def toList (table : InterfaceTable) : List Interface :=
  table.order.filterMap fun name => table.entries.lookup name

/-- Whether the two collections of a table are in step. -/
structure InStep (table : InterfaceTable) : Prop where
  /-- No name stands in the order twice. -/
  nodup : table.order.Nodup
  keys_eq : table.order.toFinset = table.entries.keys
  /-- Each interface stands under its own name. -/
  named : ∀ name interface, table.entries.lookup name = some interface → interface.name = name
  mem_toList : ∀ name interface, table.entries.lookup name = some interface →
    interface ∈ table.toList
  map_name_toList : table.toList.map Interface.name = table.order

/-- Whether a table holds the interfaces of a set in their order. -/
structure Represents (table : InterfaceTable) (set : InterfaceSet) : Prop where
  order_eq : table.order = set.names
  lookup_eq : ∀ name, table.entries.lookup name = set.get? name

variable {table : InterfaceTable} {set : InterfaceSet} {interfaces : List Interface}

theorem Represents.mem_entries_iff (h : table.Represents set) {name : String} :
    name ∈ table.entries ↔ name ∈ set.names := by
  rw [Finmap.mem_iff, InterfaceSet.mem_names_iff]
  simp only [h.lookup_eq]

theorem Represents.insert (h : table.Represents set) (interface : Interface) :
    (table.insert interface).Represents (set.insert interface) where
  order_eq := by
    rw [InterfaceTable.insert, InterfaceSet.names_insert, h.order_eq]
    simp only [h.mem_entries_iff]
  lookup_eq name := by
    change (table.entries.insert interface.name interface).lookup name = _
    rw [InterfaceSet.get?_insert]
    split
    · next heq => rw [heq, Finmap.lookup_insert]
    · next hne => rw [Finmap.lookup_insert_of_ne _ hne, h.lookup_eq]

theorem Represents.foldl_insert (h : table.Represents set) (interfaces : List Interface) :
    (interfaces.foldl InterfaceTable.insert table).Represents (set.insertAll interfaces) := by
  induction interfaces generalizing table set with
  | nil => exact h
  | cons first rest ih => exact ih (h.insert first)

theorem represents_ofList (interfaces : List Interface) :
    (ofList interfaces).Represents (InterfaceSet.ofList interfaces) :=
  Represents.foldl_insert ⟨rfl, fun _ => rfl⟩ interfaces

theorem Represents.toList_eq (h : table.Represents set) : table.toList = set.toList := by
  rw [toList, h.order_eq, funext h.lookup_eq, InterfaceSet.filterMap_get?_names]

theorem Represents.inStep (h : table.Represents set) : table.InStep where
  nodup := h.order_eq ▸ set.nodup
  keys_eq := by
    ext name
    rw [List.mem_toFinset, Finmap.mem_keys, h.mem_entries_iff, h.order_eq]
  named name interface hlookup := by
    rw [h.lookup_eq] at hlookup
    exact (InterfaceSet.get?_eq_some_iff.1 hlookup).2
  mem_toList name interface hlookup := by
    rw [h.lookup_eq] at hlookup
    rw [h.toList_eq]
    exact (InterfaceSet.get?_eq_some_iff.1 hlookup).1
  map_name_toList := by rw [h.toList_eq, h.order_eq, InterfaceSet.names]

end InterfaceTable

/-- Insertions into the empty set make a map in the order of insertion, and keep its two collections
in step. -/
theorem ofList_insertion_ordered (interfaces : List Interface) :
    (InterfaceSet.ofList interfaces).IsInsertionOrdered interfaces ∧
      (InterfaceTable.ofList interfaces).InStep ∧
      (InterfaceTable.ofList interfaces).Represents (InterfaceSet.ofList interfaces) ∧
      (InterfaceTable.ofList interfaces).toList = (InterfaceSet.ofList interfaces).toList :=
  have h := InterfaceTable.represents_ofList interfaces
  ⟨InterfaceSet.isInsertionOrdered_ofList interfaces, h.inStep, h, h.toList_eq⟩

example : (InterfaceSet.ofList [⟨"A", "1", "a\n"⟩, ⟨"B", "1", "b\n"⟩, ⟨"A", "2", "c\n"⟩]).toList =
    [⟨"A", "2", "c\n"⟩, ⟨"B", "1", "b\n"⟩] := by
  decide

end DoctypeInterfaces
