import DoctypeInterfaces.Interface.Set
import Mathlib.Data.List.Nodup

namespace DoctypeInterfaces

theorem map_name_replaceOrAppend (new : Interface) (l : List Interface) :
    (replaceOrAppend new l).map Interface.name =
      if new.name ∈ l.map Interface.name then l.map Interface.name
      else l.map Interface.name ++ [new.name] := by
  induction l with
  | nil => simp [replaceOrAppend]
  | cons old rest ih =>
    rw [replaceOrAppend]
    by_cases h : old.name = new.name
    · simp [h]
    · have h' : new.name ≠ old.name := fun he => h he.symm
      simp only [if_neg h, List.map_cons, ih, List.mem_cons, h', false_or]
      split <;> rfl

theorem find?_replaceOrAppend (new : Interface) (l : List Interface) (name : String) :
    ((replaceOrAppend new l).find? fun interface => interface.name = name) =
      if name = new.name then some new
      else l.find? fun interface => interface.name = name := by
  induction l with
  | nil =>
    by_cases h : name = new.name
    · simp [replaceOrAppend, h]
    · have h' : new.name ≠ name := fun he => h he.symm
      simp [replaceOrAppend, h, h']
  | cons old rest ih =>
    rw [replaceOrAppend]
    by_cases hold : old.name = new.name
    · rw [if_pos hold, List.find?_cons, List.find?_cons, hold]
      by_cases h : name = new.name
      · simp [h]
      · have h' : new.name ≠ name := fun he => h he.symm
        simp [h, h']
    · rw [if_neg hold, List.find?_cons, List.find?_cons, ih]
      by_cases h : old.name = name
      · have h' : name ≠ new.name := fun he => hold (h.trans he)
        simp [h, h']
      · simp [h]

theorem replaceOrAppend_of_notMem {new : Interface} {l : List Interface}
    (h : new.name ∉ l.map Interface.name) : replaceOrAppend new l = l ++ [new] := by
  induction l with
  | nil => rfl
  | cons old rest ih =>
    obtain ⟨hne, hrest⟩ : new.name ≠ old.name ∧ new.name ∉ rest.map Interface.name := by
      simpa using h
    rw [replaceOrAppend, if_neg fun he => hne he.symm, ih hrest, List.cons_append]

/-- Selecting interfaces by names other than the one that is inserted does not see the insertion. -/
theorem filter_replaceOrAppend {keep : Interface → Bool} {new : Interface} {l : List Interface}
    (hnew : ∀ interface : Interface, interface.name = new.name → keep interface = false) :
    (replaceOrAppend new l).filter keep = l.filter keep := by
  have hskip : keep new = false := hnew new rfl
  induction l with
  | nil => simp [replaceOrAppend, hskip]
  | cons old rest ih =>
    rw [replaceOrAppend]
    split
    · next hname =>
      have hold : keep old = false := hnew old hname
      simp [hskip, hold]
    · rw [List.filter_cons, List.filter_cons, ih]

namespace InterfaceSet

variable {set : InterfaceSet} {interface : Interface} {interfaces : List Interface} {name : String}

theorem eq_of_toList_eq {other : InterfaceSet} (h : set.toList = other.toList) : set = other := by
  cases set
  cases other
  simpa only [mk.injEq] using h

theorem mem_names_of_mem (h : interface ∈ set.toList) : interface.name ∈ set.names :=
  List.mem_map_of_mem h

theorem get?_eq_some_iff :
    set.get? name = some interface ↔ interface ∈ set.toList ∧ interface.name = name := by
  constructor
  · intro h
    exact ⟨List.mem_of_find?_eq_some h, by simpa using List.find?_some h⟩
  · rintro ⟨hmem, rfl⟩
    obtain ⟨found, hfound⟩ := Option.isSome_iff_exists.1
      (List.find?_isSome (p := fun i => decide (i.name = interface.name)) |>.2
        ⟨interface, hmem, by simp⟩)
    have hname : found.name = interface.name := by simpa using List.find?_some hfound
    have heq := List.inj_on_of_nodup_map set.nodup (List.mem_of_find?_eq_some hfound) hmem hname
    exact hfound.trans (congrArg some heq)

theorem mem_names_iff : name ∈ set.names ↔ ∃ interface, set.get? name = some interface := by
  simp only [names, List.mem_map, get?_eq_some_iff]

theorem size_eq_of_get?_eq {other : InterfaceSet}
    (h : ∀ name, set.get? name = other.get? name) : set.size = other.size := by
  have hperm : set.names.Perm other.names := by
    apply (List.perm_ext_iff_of_nodup set.nodup other.nodup).2
    intro name
    exact mem_names_iff.trans ((h name).symm ▸ mem_names_iff.symm)
  simpa [names, size] using hperm.length_eq

@[simp] theorem get?_empty : empty.get? name = none := rfl

@[simp] theorem names_empty : empty.names = [] := rfl

theorem names_insert :
    (set.insert interface).names =
      if interface.name ∈ set.names then set.names else set.names ++ [interface.name] :=
  map_name_replaceOrAppend interface set.toList

theorem mem_names_insert :
    name ∈ (set.insert interface).names ↔ name = interface.name ∨ name ∈ set.names :=
  mem_map_name_replaceOrAppend

theorem get?_insert :
    (set.insert interface).get? name =
      if name = interface.name then some interface else set.get? name :=
  find?_replaceOrAppend interface set.toList name

theorem isCurrent_iff {modified : String} :
    set.isCurrent name modified = true ↔
      ∃ interface, set.get? name = some interface ∧ interface.lastUpdated = modified := by
  rw [isCurrent, Option.any_eq_true]
  simp

/-- The set that results when interfaces are inserted one by one into another set. -/
def insertAll (set : InterfaceSet) (interfaces : List Interface) : InterfaceSet :=
  interfaces.foldl insert set

@[simp] theorem insertAll_nil : set.insertAll [] = set := rfl

@[simp] theorem insertAll_cons :
    set.insertAll (interface :: interfaces) = (set.insert interface).insertAll interfaces := rfl

theorem insertAll_append {later : List Interface} :
    set.insertAll (interfaces ++ later) = (set.insertAll interfaces).insertAll later :=
  List.foldl_append

theorem names_isPrefix_insert : set.names <+: (set.insert interface).names := by
  rw [names_insert]
  split
  · exact List.prefix_rfl
  · exact List.prefix_append _ _

theorem names_isPrefix_insertAll : set.names <+: (set.insertAll interfaces).names := by
  induction interfaces generalizing set with
  | nil => exact List.prefix_rfl
  | cons first rest ih => exact names_isPrefix_insert.trans ih

theorem mem_names_insertAll :
    name ∈ (set.insertAll interfaces).names ↔
      name ∈ set.names ∨ name ∈ interfaces.map Interface.name := by
  induction interfaces generalizing set with
  | nil => simp
  | cons first rest ih =>
    rw [insertAll_cons, ih, mem_names_insert, List.map_cons, List.mem_cons, or_assoc, or_left_comm]

theorem get?_insertAll_of_notMem (h : name ∉ interfaces.map Interface.name) :
    (set.insertAll interfaces).get? name = set.get? name := by
  induction interfaces generalizing set with
  | nil => rfl
  | cons first rest ih =>
    obtain ⟨hne, hrest⟩ : name ≠ first.name ∧ name ∉ rest.map Interface.name := by simpa using h
    rw [insertAll_cons, ih hrest, get?_insert, if_neg hne]

theorem get?_insertAll_of_mem
    (hsame : ∀ i ∈ interfaces, i.name = interface.name → i = interface)
    (h : interface ∈ interfaces) :
    (set.insertAll interfaces).get? interface.name = some interface := by
  induction interfaces generalizing set with
  | nil => cases h
  | cons first rest ih =>
    have hrest : ∀ i ∈ rest, i.name = interface.name → i = interface := fun i hi =>
      hsame i (List.mem_cons_of_mem _ hi)
    by_cases hmem : interface ∈ rest
    · exact ih hrest hmem
    · obtain rfl : interface = first := (List.mem_cons.1 h).resolve_right hmem
      have hname : interface.name ∉ rest.map Interface.name := by
        intro hname
        obtain ⟨i, hi, hin⟩ := List.mem_map.1 hname
        exact hmem (hrest i hi hin ▸ hi)
      rw [insertAll_cons, get?_insertAll_of_notMem hname, get?_insert, if_pos rfl]

/-- The order in which interfaces are inserted does not matter to what stands under a name, where
those of one name are the same. -/
theorem get?_insertAll_perm {later : List Interface}
    (hsame : ∀ i ∈ interfaces, ∀ j ∈ interfaces, i.name = j.name → i = j)
    (h : interfaces.Perm later) :
    (set.insertAll interfaces).get? name = (set.insertAll later).get? name := by
  by_cases hname : name ∈ interfaces.map Interface.name
  · obtain ⟨interface, hmem, rfl⟩ := List.mem_map.1 hname
    rw [get?_insertAll_of_mem (fun i hi => hsame i hi interface hmem) hmem,
      get?_insertAll_of_mem (fun i hi => hsame i (h.mem_iff.2 hi) interface hmem)
        (h.mem_iff.1 hmem)]
  · have hlater : name ∉ later.map Interface.name := fun hmem =>
      hname ((h.map Interface.name).mem_iff.2 hmem)
    rw [get?_insertAll_of_notMem hname, get?_insertAll_of_notMem hlater]

/-- An interface stays current when those that are inserted under its name are of the same time. -/
theorem isCurrent_insertAll {modified : String} (h : set.isCurrent name modified = true)
    (hsame : ∀ i ∈ interfaces, i.name = name → i.lastUpdated = modified) :
    (set.insertAll interfaces).isCurrent name modified = true := by
  induction interfaces generalizing set with
  | nil => exact h
  | cons first rest ih =>
    have hrest : ∀ i ∈ rest, i.name = name → i.lastUpdated = modified := fun i hi =>
      hsame i (List.mem_cons_of_mem _ hi)
    apply ih _ hrest
    rw [isCurrent_iff]
    by_cases hname : name = first.name
    · exact ⟨first, by rw [get?_insert, if_pos hname], hsame first List.mem_cons_self hname.symm⟩
    · obtain ⟨interface, hget, hmodified⟩ := isCurrent_iff.1 h
      exact ⟨interface, by rw [get?_insert, if_neg hname, hget], hmodified⟩

theorem filter_insertAll {keep : Interface → Bool}
    (h : ∀ new ∈ interfaces, ∀ interface : Interface, interface.name = new.name →
      keep interface = false) :
    (set.insertAll interfaces).toList.filter keep = set.toList.filter keep := by
  induction interfaces generalizing set with
  | nil => rfl
  | cons first rest ih =>
    have hrest : ∀ new ∈ rest, ∀ interface : Interface, interface.name = new.name →
        keep interface = false := fun new hnew => h new (List.mem_cons_of_mem _ hnew)
    rw [insertAll_cons, ih hrest]
    exact filter_replaceOrAppend (h first List.mem_cons_self)

theorem mem_of_mem_insert {new : Interface} (h : interface ∈ (set.insert new).toList) :
    interface = new ∨ interface ∈ set.toList := by
  rw [toList_insert] at h
  generalize set.toList = l at h
  induction l with
  | nil =>
    left
    simpa [replaceOrAppend] using h
  | cons old rest ih =>
    rw [replaceOrAppend] at h
    split at h
    · rcases List.mem_cons.1 h with h | h
      · exact .inl h
      · exact .inr (List.mem_cons_of_mem _ h)
    · rcases List.mem_cons.1 h with h | h
      · exact .inr (h ▸ List.mem_cons_self)
      · exact (ih h).imp_right (List.mem_cons_of_mem _)

theorem mem_of_mem_insertAll (h : interface ∈ (set.insertAll interfaces).toList) :
    interface ∈ interfaces ∨ interface ∈ set.toList := by
  induction interfaces generalizing set with
  | nil => exact .inr h
  | cons first rest ih =>
    rcases ih h with h | h
    · exact .inl (List.mem_cons_of_mem _ h)
    · rcases mem_of_mem_insert h with rfl | h
      · exact .inl List.mem_cons_self
      · exact .inr h

theorem mem_of_name_mem_insertAll (h : interface ∈ (set.insertAll interfaces).toList)
    (hname : interface.name ∈ interfaces.map Interface.name) : interface ∈ interfaces := by
  induction interfaces generalizing set with
  | nil => cases hname
  | cons first rest ih =>
    by_cases hrest : interface.name ∈ rest.map Interface.name
    · exact List.mem_cons_of_mem _ (ih h hrest)
    · have hfirst : interface.name = first.name := (List.mem_cons.1 hname).resolve_right hrest
      have hget : (set.insertAll (first :: rest)).get? interface.name = some interface :=
        get?_eq_some_iff.2 ⟨h, rfl⟩
      rw [insertAll_cons, get?_insertAll_of_notMem hrest, get?_insert, if_pos hfirst] at hget
      rw [Option.some.inj hget]
      exact List.mem_cons_self

theorem toList_insertAll_of_new
    (hnodup : (interfaces.map Interface.name).Nodup)
    (hnew : ∀ i ∈ interfaces, i.name ∉ set.names) :
    (set.insertAll interfaces).toList = set.toList ++ interfaces := by
  induction interfaces generalizing set with
  | nil => simp
  | cons first rest ih =>
    obtain ⟨hfirst, hrest⟩ := List.nodup_cons.1 hnodup
    have hnotMem : first.name ∉ set.names := hnew first List.mem_cons_self
    have hinsert : (set.insert first).toList = set.toList ++ [first] :=
      replaceOrAppend_of_notMem hnotMem
    have hnewRest : ∀ i ∈ rest, i.name ∉ (set.insert first).names := by
      intro i hi
      rw [names_insert, if_neg hnotMem, List.mem_append, List.mem_singleton]
      rintro (hold | hname)
      · exact hnew i (List.mem_cons_of_mem _ hi) hold
      · exact hfirst (hname ▸ List.mem_map_of_mem hi)
    rw [insertAll_cons, ih hrest hnewRest, hinsert, List.append_assoc, List.singleton_append]

end InterfaceSet

end DoctypeInterfaces
