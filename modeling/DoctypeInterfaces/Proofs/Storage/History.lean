import DoctypeInterfaces.Proofs.Storage.Hierarchy

namespace DoctypeInterfaces.Storage

namespace MemoryTree

variable {tree : MemoryTree} {dir p : Path}

def LiesIn (p dir : Path) : Prop :=
  p.parent?.map Path.components = some dir.components

instance (p dir : Path) : Decidable (LiesIn p dir) :=
  inferInstanceAs (Decidable (_ = _))

theorem isChild_iff : isChild dir p = true ↔ LiesIn p dir := by
  simp [isChild, LiesIn, Path.same_iff, Option.any_eq_true]

/-- Whether an entry stands before another one. A directory stands before a file of the same
path. -/
def EntryBefore (a b : DirEntry) : Prop :=
  a.path.Before b.path ∨
    a.path.components = b.path.components ∧ a.isDir = true ∧ b.isDir = false

structure IsListing (tree : MemoryTree) (dir : Path) (entries : List DirEntry) : Prop where
  ordered : entries.Pairwise EntryBefore
  dirs : ((entries.filter fun entry => entry.isDir).map DirEntry.path).Perm
    (tree.dirs.filter fun p => LiesIn p dir)
  files : ((entries.filter fun entry => !entry.isDir).map DirEntry.path).Perm
    ((tree.files.map Prod.fst).filter fun p => LiesIn p dir)

theorem filter_isChild (paths : List Path) (dir : Path) :
    paths.filter (isChild dir) = paths.filter fun p => LiesIn p dir :=
  List.filter_congr fun p _ => by rw [Bool.eq_iff_iff, isChild_iff, decide_eq_true_iff]

theorem filter_children (tree : MemoryTree) (dir : Path) :
    (((tree.children dir).filter fun entry => entry.isDir).map DirEntry.path).Perm
      (tree.dirs.filter fun p => LiesIn p dir) ∧
    (((tree.children dir).filter fun entry => !entry.isDir).map DirEntry.path).Perm
      ((tree.files.map Prod.fst).filter fun p => LiesIn p dir) := by
  rw [children_eq, filter_isChild, filter_isChild]
  constructor
  all_goals
    refine (((Path.sortBy_perm _ _).filter _).map _).trans (.of_eq ?_)
    simp [List.filter_append, List.filter_map, Function.comp_def]

theorem pairwise_entries {paths : List Path} (h : paths.Pairwise fun p q => p.same q = false)
    (isDir : Bool) :
    (paths.map fun p => DirEntry.mk p isDir).Pairwise fun a b =>
      a.path.components = b.path.components → a.isDir = true ∧ b.isDir = false := by
  refine List.pairwise_map.2 (h.imp fun hne heq => ?_)
  rw [Path.same_iff.2 heq] at hne
  cases hne

theorem IsHierarchy.pairwise_entryBefore (h : tree.IsHierarchy) (dir : Path) :
    (tree.children dir).Pairwise EntryBefore := by
  have hdirs := pairwise_entries (h.dirs.filter (isChild dir)) true
  have hfiles := pairwise_entries (h.files.filter (isChild dir)) false
  rw [children_eq]
  refine (Path.pairwise_orderedBy_sortBy (List.pairwise_append.2 ⟨hdirs, hfiles, ?_⟩)).imp ?_
  · intro a ha b hb _
    obtain ⟨q, -, rfl⟩ := List.mem_map.1 ha
    obtain ⟨r, -, rfl⟩ := List.mem_map.1 hb
    exact ⟨rfl, rfl⟩
  · rintro a b ⟨hle, hsame⟩
    by_cases heq : a.path.components = b.path.components
    · exact .inr ⟨heq, hsame heq⟩
    · exact .inl (Path.before_of_le hle heq)

theorem IsHierarchy.isListing_children (h : tree.IsHierarchy) (dir : Path) :
    tree.IsListing dir (tree.children dir) :=
  ⟨h.pairwise_entryBefore dir, (filter_children tree dir).1, (filter_children tree dir).2⟩

theorem IsHierarchy.isDir_of_liesBelow (h : tree.IsHierarchy) (hp : p ∈ tree.paths)
    (hbelow : p.LiesBelow dir) (hne : dir.isEmpty = false) : tree.isDir dir = true := by
  obtain ⟨c, rest, hcomponents⟩ := hbelow
  have hfront : dir.components ≠ [] := fun hnil =>
    Bool.eq_false_iff.1 hne (Path.isEmpty_iff.2 hnil)
  have hproper : dir.components ≠ p.components := by
    rw [hcomponents]
    simp
  obtain ⟨q, hq, hsame⟩ := h.houses p hp _ hfront ⟨c :: rest, hcomponents.symm⟩ hproper
  exact List.any_eq_true.2 ⟨q, hq, Path.same_iff.2 hsame⟩

end MemoryTree

namespace Memory

variable {memory : Memory}

/-- Whether a storage holds a tree of directories, and answers calls as one. -/
structure IsTree (memory : Memory) : Prop where
  /-- Whatever is above a file or a directory is a directory. -/
  above : ∀ p ∈ memory.tree.paths, ∀ dir, p.LiesBelow dir → dir.isEmpty = false →
    memory.tree.isDir dir = true
  lists : ∀ dir, memory.tree.isDir dir = true → ∃ entries,
    ((answer (.listDir dir)).run memory).1 = .ok entries ∧ memory.tree.IsListing dir entries
  misses : ∀ p, memory.tree.isDir p = false → ∃ e,
    ((answer (.listDir p)).run memory).1 = .error e ∧ e.kind = .notFound
  refuses : ∀ p contents e, ((answer (.writeAtomic p contents)).run memory).1 = .error e →
    ((answer (.writeAtomic p contents)).run memory).2.tree = memory.tree

theorem tree_of_writeAtomic_error {p : Path} {contents : Bytes} {e : IoError}
    (h : ((answer (.writeAtomic p contents)).run memory).1 = .error e) :
    ((answer (.writeAtomic p contents)).run memory).2.tree = memory.tree := by
  simp only [answer, StateT.run] at h ⊢
  split at h
  · cases h
  · rfl

theorem isTree_of_isHierarchy (h : memory.tree.IsHierarchy) (hfailing : memory.failing = []) :
    memory.IsTree := by
  constructor
  case above => exact fun p hp dir hbelow hne => h.isDir_of_liesBelow hp hbelow hne
  case lists =>
    intro dir hdir
    have hlisting : memory.listing dir = .ok (memory.tree.children dir) := by
      rw [listing_eq hfailing, if_pos hdir]
    exact ⟨_, hlisting, h.isListing_children dir⟩
  case misses =>
    intro p hmissing
    have hlisting : memory.listing p = .error (notFound p) := by
      rw [listing_eq hfailing, if_neg (Bool.eq_false_iff.1 hmissing)]
    exact ⟨_, hlisting, rfl⟩
  case refuses => exact fun p contents e herror => tree_of_writeAtomic_error herror

/-- What changes a storage. -/
inductive Update where
  /-- Stores a file and the directories above it. -/
  | insert (path : Path) (contents : Bytes)
  /-- Creates a directory and the missing ones above it. -/
  | createDirAll (path : Path)
  | writeAtomic (path : Path) (contents : Bytes)
  deriving DecidableEq, Repr

def update (memory : Memory) : Update → Memory
  | .insert p contents => memory.insert p contents
  | .createDirAll p => ((answer (.createDirAll p)).run memory).2
  | .writeAtomic p contents => ((answer (.writeAtomic p contents)).run memory).2

/-- An empty storage after updates. -/
def after (updates : List Update) : Memory :=
  updates.foldl update empty

theorem Reachable.update (h : memory.Reachable) (u : Update) : (memory.update u).Reachable := by
  cases u with
  | insert p contents => exact h.insert p contents
  | createDirAll p => exact h.call (.createDirAll p)
  | writeAtomic p contents => exact h.call (.writeAtomic p contents)

@[simp] theorem failing_update (memory : Memory) (u : Update) :
    (memory.update u).failing = memory.failing := by
  cases u with
  | insert p contents => rfl
  | createDirAll p => rfl
  | writeAtomic p contents =>
    simp only [update, answer, StateT.run]
    split <;> rfl

theorem Reachable.foldl_update (h : memory.Reachable) (updates : List Update) :
    (updates.foldl Memory.update memory).Reachable ∧
      (updates.foldl Memory.update memory).failing = memory.failing := by
  induction updates generalizing memory with
  | nil => exact ⟨h, rfl⟩
  | cons u updates ih =>
    obtain ⟨hreachable, hfailing⟩ := ih (h.update u)
    exact ⟨hreachable, hfailing.trans (failing_update memory u)⟩

/-- A storage is a tree after any updates. -/
theorem isTree_after (updates : List Update) : (after updates).IsTree := by
  obtain ⟨hreachable, hfailing⟩ := Reachable.empty.foldl_update updates
  exact isTree_of_isHierarchy hreachable.isHierarchy hfailing

example :
    let memory := after [.writeAtomic (.ofText "a/c") [], .insert (.ofText "a/b") [],
      .createDirAll (.ofText "a/b/")]
    memory.listing (.ofText "a") = .ok [⟨.ofText "a/b/", true⟩, ⟨.ofText "a/b", false⟩] := by
  decide +kernel

end Memory

end DoctypeInterfaces.Storage
