import DoctypeInterfaces.Proofs.Path.Ancestors
import DoctypeInterfaces.Proofs.Path.Order
import DoctypeInterfaces.Proofs.Storage.Directories

namespace DoctypeInterfaces

theorem PathMap.map_fst_put_eq {α : Type} {map : PathMap α} {p : Path} {value : α} :
    (put p value map).map Prod.fst = Path.addTo (map.map Prod.fst) p := by
  induction map with
  | nil => rfl
  | cons entry rest ih =>
    rw [put, Path.addTo, List.map_cons, List.any_cons]
    split
    · next h => simp [h]
    · next h =>
      rw [Bool.eq_false_iff.2 h, Bool.false_or, List.map_cons, ih, Path.addTo]
      split <;> rfl

namespace Storage

theorem subset_addTo (paths : List Path) (p : Path) : paths ⊆ Path.addTo paths p := by
  rw [Path.addTo]
  split
  · exact List.Subset.refl _
  · exact List.subset_append_left _ _

theorem mem_or_eq_of_mem_addTo {paths : List Path} {p q : Path} (h : q ∈ Path.addTo paths p) :
    q ∈ paths ∨ q = p := by
  rw [Path.addTo] at h
  split at h
  · exact .inl h
  · exact (List.mem_append.1 h).imp_right List.mem_singleton.1

theorem exists_mem_addTo {paths : List Path} {p q : Path} (h : q ∈ paths ∨ q = p) :
    ∃ r ∈ Path.addTo paths p, r.components = q.components := by
  rw [Path.addTo]
  split
  · next hany =>
    rcases h with hq | rfl
    · exact ⟨q, hq, rfl⟩
    · obtain ⟨r, hr, hsame⟩ := List.any_eq_true.1 hany
      exact ⟨r, hr, Path.same_iff.1 hsame⟩
  · exact ⟨q, List.mem_append.2 (h.imp_right List.mem_singleton.2), rfl⟩

theorem exists_mem_foldl_addTo {paths more : List Path} {q : Path} (h : q ∈ paths ∨ q ∈ more) :
    ∃ r ∈ more.foldl Path.addTo paths, r.components = q.components := by
  induction more generalizing paths q with
  | nil => exact ⟨q, h.resolve_right List.not_mem_nil, rfl⟩
  | cons p more ih =>
    rw [List.mem_cons, ← or_assoc] at h
    rcases h with hfirst | hmore
    · obtain ⟨r, hr, hcomponents⟩ := exists_mem_addTo hfirst
      obtain ⟨s, hs, hsame⟩ := ih (.inl hr)
      exact ⟨s, hs, hsame.trans hcomponents⟩
    · exact ih (.inr hmore)

namespace MemoryTree

variable {tree other : MemoryTree} {p q : Path}

/-- The paths of the files and the directories. -/
def paths (tree : MemoryTree) : List Path :=
  tree.files.map Prod.fst ++ tree.dirs

def Houses (tree : MemoryTree) (p : Path) : Prop :=
  ∀ front, front ≠ [] → front <+: p.components → front ≠ p.components →
    ∃ dir ∈ tree.dirs, dir.components = front

structure IsHierarchy (tree : MemoryTree) : Prop where
  dirs : tree.DistinctDirs
  files : (tree.files.map Prod.fst).Pairwise fun p q => p.same q = false
  houses : ∀ p ∈ tree.paths, tree.Houses p

theorem Houses.mono (h : tree.Houses p) (hdirs : tree.dirs ⊆ other.dirs) : other.Houses p := by
  intro front hne hfront hproper
  obtain ⟨dir, hdir, hcomponents⟩ := h front hne hfront hproper
  exact ⟨dir, hdirs hdir, hcomponents⟩

theorem Houses.of_liesBelow (h : tree.Houses p) (hq : p.LiesBelow q) : tree.Houses q := by
  intro front hne hfront hproper
  obtain ⟨c, rest, hp⟩ := hq
  refine h front hne (hp ▸ hfront.trans (List.prefix_append _ _)) fun heq => ?_
  have hlength := hfront.length_le
  rw [heq, hp, List.length_append, List.length_cons] at hlength
  omega

theorem houses_addParents (tree : MemoryTree) (p : Path) : (tree.addParents p).Houses p := by
  intro front hne hfront hproper
  obtain ⟨q, hq, rfl⟩ := Path.exists_ancestor hne hfront hproper
  exact exists_mem_foldl_addTo (.inr hq)

/-- If the directory right above a path is kept, all of those above it are. -/
theorem IsHierarchy.houses_of_dir? (h : tree.IsHierarchy)
    (hdir : ∀ dir, p.dir? = some dir → tree.isDir dir = true) : tree.Houses p := by
  intro front hne hfront hproper
  obtain ⟨between, c, hp⟩ := Path.exists_eq_concat_of_isPrefix hfront hproper
  have hbetween : front ++ between ≠ [] := fun heq => hne (List.append_eq_nil_iff.1 heq).1
  obtain ⟨q, hparent, hq⟩ := Path.exists_parent? hp hbetween
  have hnonempty : ¬ q.isEmpty = true := fun h => hbetween (hq ▸ Path.isEmpty_iff.1 h)
  have hq? : p.dir? = some q := by
    rw [Path.dir?, hparent]
    simp [hnonempty]
  obtain ⟨dir, hmem, hsame⟩ := List.any_eq_true.1 (hdir q hq?)
  rw [Path.same_iff, hq] at hsame
  by_cases heq : front = dir.components
  · exact ⟨dir, hmem, heq.symm⟩
  · exact h.houses dir (List.mem_append_right _ hmem) front hne ⟨between, hsame.symm⟩ heq

theorem isHierarchy_empty : empty.IsHierarchy :=
  ⟨.nil, .nil, by simp [paths, empty]⟩

theorem IsHierarchy.addFile (h : tree.IsHierarchy) (hp : tree.Houses p) (contents : Bytes) :
    ({ tree with files := tree.files.put p contents } : MemoryTree).IsHierarchy := by
  constructor
  case dirs => exact h.dirs
  case files =>
    rw [PathMap.map_fst_put_eq]
    exact Path.pairwise_addTo h.files p
  case houses =>
    intro q hq
    rw [paths, PathMap.map_fst_put_eq] at hq
    rcases List.mem_append.1 hq with hfile | hdir
    · rcases mem_or_eq_of_mem_addTo hfile with hold | rfl
      · exact h.houses q (List.mem_append_left _ hold)
      · exact hp
    · exact h.houses q (List.mem_append_right _ hdir)

theorem IsHierarchy.addDir (h : tree.IsHierarchy) (hp : tree.Houses p) :
    ({ tree with dirs := Path.addTo tree.dirs p } : MemoryTree).IsHierarchy := by
  have hdirs := subset_addTo tree.dirs p
  constructor
  case dirs => exact Path.pairwise_addTo h.dirs p
  case files => exact h.files
  case houses =>
    intro q hq
    rcases List.mem_append.1 hq with hfile | hdir
    · exact (h.houses q (List.mem_append_left _ hfile)).mono hdirs
    · rcases mem_or_eq_of_mem_addTo hdir with hold | rfl
      · exact (h.houses q (List.mem_append_right _ hold)).mono hdirs
      · exact hp.mono hdirs

theorem IsHierarchy.addParents (h : tree.IsHierarchy) (p : Path) :
    (tree.addParents p).IsHierarchy := by
  obtain ⟨extra, hextra, hancestors⟩ := foldl_addTo_eq_append tree.dirs
    (p.ancestors.takeWhile fun q => !q.isEmpty)
  have hdirs : (tree.addParents p).dirs = tree.dirs ++ extra := hextra
  have hsubset : tree.dirs ⊆ (tree.addParents p).dirs := hdirs ▸ List.subset_append_left _ _
  constructor
  case dirs => exact Path.pairwise_foldl_addTo h.dirs _
  case files => exact h.files
  case houses =>
    intro q hq
    rw [paths, hdirs, ← List.append_assoc] at hq
    rcases List.mem_append.1 hq with hold | hnew
    · exact (h.houses q hold).mono hsubset
    · have hancestor := (List.takeWhile_sublist _).subset (hancestors q hnew)
      have hbelow := Path.liesBelow_of_mem_ancestorsWithin hancestor
      exact (houses_addParents tree p).of_liesBelow hbelow

theorem IsHierarchy.insert (h : tree.IsHierarchy) (p : Path) (contents : Bytes) :
    (tree.insert p contents).IsHierarchy :=
  (h.addParents p).addFile (houses_addParents tree p) contents

theorem IsHierarchy.createDirAll (h : tree.IsHierarchy) (p : Path) :
    (tree.createDirAll p).IsHierarchy :=
  (h.addParents p).addDir (houses_addParents tree p)

theorem IsHierarchy.eq_of_files (h : tree.IsHierarchy) (hp : p ∈ tree.files.map Prod.fst)
    (hq : q ∈ tree.files.map Prod.fst) (heq : p.components = q.components) : p = q := by
  have hsymm : Std.Symm fun p q : Path => p.same q = false :=
    ⟨fun p q hpq => (Path.same_comm q p).trans hpq⟩
  by_contra hne
  have hdistinct := h.files.forall hp hq hne
  rw [Path.same_iff.2 heq] at hdistinct
  cases hdistinct

/-- Whether no path is both that of a file and that of a directory. -/
def Unmixed (tree : MemoryTree) : Prop :=
  ∀ file ∈ tree.files, tree.isDir file.1 = false

theorem Unmixed.components_ne (h : tree.Unmixed) (hp : p ∈ tree.files.map Prod.fst)
    (hq : q ∈ tree.dirs) : q.components ≠ p.components := by
  obtain ⟨file, hfile, rfl⟩ := List.mem_map.1 hp
  have hnone := h file hfile
  rw [isDir, List.any_eq_false] at hnone
  exact fun heq => hnone q hq (Path.same_iff.2 heq)

theorem mem_children_iff {dir : Path} {entry : DirEntry} :
    entry ∈ tree.children dir ↔ isChild dir entry.path = true ∧
      entry.path ∈ if entry.isDir then tree.dirs else tree.files.map Prod.fst := by
  obtain ⟨p, isDir⟩ := entry
  rw [children_eq, Path.mem_sortBy, List.mem_append]
  cases isDir <;> simp [and_comm]

theorem isChild_of_components {dir : Path} {c : Path.Component} (hne : dir.components ≠ [])
    (h : p.components = dir.components ++ [c]) : isChild dir p = true := by
  obtain ⟨q, hparent, hq⟩ := Path.exists_parent? h hne
  rw [isChild, hparent]
  exact Path.same_iff.2 hq

theorem IsHierarchy.exists_dir {dir : Path} (h : tree.IsHierarchy)
    (hp : p ∈ tree.files.map Prod.fst) (hbelow : p.LiesBelow dir) (hne : dir.components ≠ []) :
    ∃ q ∈ tree.dirs, q.components = dir.components := by
  obtain ⟨c, rest, hcomponents⟩ := hbelow
  refine h.houses p (List.mem_append_left _ hp) _ hne ⟨c :: rest, hcomponents.symm⟩ ?_
  simp [hcomponents]

/-- What lies below a directory lies at or below one of its entries. -/
theorem IsHierarchy.exists_child {dir : Path} (h : tree.IsHierarchy)
    (hp : p ∈ tree.files.map Prod.fst) (hbelow : p.LiesBelow dir) (hne : dir.components ≠ []) :
    ∃ entry ∈ tree.children dir, entry.path.components <+: p.components := by
  obtain ⟨c, rest, hcomponents⟩ := hbelow
  rcases rest with _ | ⟨d, rest⟩
  · have hchild := isChild_of_components hne hcomponents
    exact ⟨⟨p, false⟩, mem_children_iff.2 ⟨hchild, hp⟩, List.prefix_rfl⟩
  · have hfront : dir.components ++ [c] <+: p.components := ⟨d :: rest, by simp [hcomponents]⟩
    obtain ⟨between, hbetween, hq⟩ := h.houses p (List.mem_append_left _ hp) _ (by simp) hfront
      (by simp [hcomponents])
    have hchild := isChild_of_components hne hq
    exact ⟨⟨between, true⟩, mem_children_iff.2 ⟨hchild, hbetween⟩, hq ▸ hfront⟩

theorem IsHierarchy.pairwise_children (h : tree.IsHierarchy) (hunmixed : tree.Unmixed)
    (dir : Path) :
    (tree.children dir).Pairwise fun a b => a.path.same b.path = false := by
  rw [children_eq, (Path.sortBy_perm _ _).pairwise_iff fun hab => (Path.same_comm _ _).trans hab,
    List.pairwise_append, List.pairwise_map, List.pairwise_map]
  refine ⟨h.dirs.filter _, h.files.filter _, ?_⟩
  intro a ha b hb
  obtain ⟨q, hq, rfl⟩ := List.mem_map.1 ha
  obtain ⟨r, hr, rfl⟩ := List.mem_map.1 hb
  rw [Bool.eq_false_iff, ne_eq, Path.same_iff]
  exact hunmixed.components_ne (List.mem_of_mem_filter hr) (List.mem_of_mem_filter hq)

theorem IsHierarchy.ordered_children (h : tree.IsHierarchy) (hunmixed : tree.Unmixed)
    (dir : Path) : (tree.children dir).Pairwise fun a b => a.path.WhollyBefore b.path := by
  have hsorted : (tree.children dir).Pairwise fun a b => a.path.le b.path = true :=
    Path.pairwise_sortBy _ _
  refine (hsorted.and (h.pairwise_children hunmixed dir)).imp_of_mem ?_
  rintro a b ha hb ⟨hle, hne⟩
  refine Path.whollyBefore_of_le hle ?_ hne
  rw [components_length_of_isChild (mem_children_iff.1 ha).1,
    components_length_of_isChild (mem_children_iff.1 hb).1]

end MemoryTree

namespace Memory

variable {memory : Memory}

theorem isHierarchy_of_writing {p : Path} {contents : Bytes} {tree : MemoryTree}
    (h : memory.tree.IsHierarchy) (hwriting : memory.writing p contents = .ok tree) :
    tree.IsHierarchy := by
  rw [writing] at hwriting
  split at hwriting
  · cases hwriting
  · next hnone =>
    rw [← Except.ok.inj hwriting]
    apply h.addFile
    apply h.houses_of_dir?
    intro dir hdir
    simpa [hdir] using hnone

theorem isHierarchy_answer (h : memory.tree.IsHierarchy) (c : Call) :
    ((answer c).run memory).2.tree.IsHierarchy := by
  cases c with
  | read p => exact h
  | listDir p => exact h
  | createDirAll p => exact h.createDirAll p
  | writeAtomic p contents =>
    simp only [answer, StateT.run]
    split
    · next hwriting => exact isHierarchy_of_writing h hwriting
    · exact h
  | isPresent p => exact h
  | overwrite p contents =>
    simp only [answer, StateT.run]
    split
    · next hwriting => exact isHierarchy_of_writing h hwriting
    · exact h

theorem listing_eq (hfailing : memory.failing = []) (p : Path) :
    memory.listing p =
      if memory.tree.isDir p = true then .ok (memory.tree.children p) else .error (notFound p) := by
  rw [listing, hfailing]
  rfl

theorem listing_of_mem_dirs {p : Path} (hfailing : memory.failing = [])
    (h : p ∈ memory.tree.dirs) : memory.listing p = .ok (memory.tree.children p) := by
  have hdir : memory.tree.isDir p = true := List.any_eq_true.2 ⟨p, h, Path.same_refl p⟩
  rw [listing_eq hfailing, if_pos hdir]

theorem kind_of_listing_error {p : Path} {e : IoError} (hfailing : memory.failing = [])
    (h : memory.listing p = .error e) : memory.tree.isDir p = false ∧ e.kind = .notFound := by
  rw [listing_eq hfailing] at h
  split at h
  · cases h
  · next hdir => exact ⟨Bool.eq_false_iff.2 hdir, Except.error.inj h ▸ rfl⟩

/-- Whether a storage has come about, from an empty one, by files that were inserted, calls, and
listings that were made to fail. -/
inductive Reachable : Memory → Prop where
  | empty : Reachable .empty
  | insert {memory : Memory} (p : Path) (contents : Bytes) :
    Reachable memory → Reachable (memory.insert p contents)
  | call {memory : Memory} (c : Call) :
    Reachable memory → Reachable ((answer c).run memory).2
  | failListing {memory : Memory} (p : Path) (kind : IoKind) :
    Reachable memory → Reachable (memory.failListing p kind)

theorem Reachable.isHierarchy (h : memory.Reachable) : memory.tree.IsHierarchy := by
  induction h with
  | empty => exact MemoryTree.isHierarchy_empty
  | insert p contents _ ih => exact ih.insert p contents
  | call c _ ih => exact isHierarchy_answer ih c
  | failListing p kind _ ih => exact ih

end Memory

end Storage

end DoctypeInterfaces
