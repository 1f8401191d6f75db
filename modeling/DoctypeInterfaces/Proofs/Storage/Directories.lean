import DoctypeInterfaces.Proofs.Storage.Frame

namespace DoctypeInterfaces

namespace Path

variable {p q r : Path}

def Apart (p q : Path) : Prop :=
  ¬ p.components <+: q.components ∧ ¬ q.components <+: p.components

theorem Apart.symm (h : p.Apart q) : q.Apart p :=
  ⟨h.2, h.1⟩

theorem Apart.of_isPrefix (h : p.Apart q) (hr : p.components <+: r.components) : r.Apart q := by
  constructor
  · exact fun hrq => h.1 (hr.trans hrq)
  · intro hqr
    rcases List.prefix_or_prefix_of_prefix hr hqr with hpq | hqp
    · exact h.1 hpq
    · exact h.2 hqp

theorem apart_of_length_eq (hlength : p.components.length = q.components.length)
    (hne : p.same q = false) : p.Apart q := by
  have hcomponents : p.components ≠ q.components := by
    intro heq
    rw [same_iff.2 heq] at hne
    cases hne
  constructor
  · exact fun hbegins => hcomponents (hbegins.eq_of_length hlength)
  · exact fun hbegins => hcomponents (hbegins.eq_of_length hlength.symm).symm

theorem pairwise_addTo {paths : List Path}
    (h : paths.Pairwise fun p q => p.same q = false) (p : Path) :
    (addTo paths p).Pairwise fun p q => p.same q = false := by
  rw [addTo]
  split
  · exact h
  · next hnew =>
    rw [List.pairwise_append]
    refine ⟨h, List.pairwise_singleton _ _, ?_⟩
    intro q hq r hr
    rw [List.mem_singleton.1 hr]
    simpa using List.any_eq_false.1 (Bool.eq_false_iff.2 hnew) q hq

theorem pairwise_foldl_addTo {paths : List Path}
    (h : paths.Pairwise fun p q => p.same q = false) (more : List Path) :
    (more.foldl addTo paths).Pairwise fun p q => p.same q = false := by
  induction more generalizing paths with
  | nil => exact h
  | cons p more ih => exact ih (pairwise_addTo h p)

end Path

namespace Storage

namespace MemoryTree

variable {tree : MemoryTree} {p q dir : Path}

/-- Whether no directory is kept twice. -/
def DistinctDirs (tree : MemoryTree) : Prop :=
  tree.dirs.Pairwise fun p q => p.same q = false

theorem components_length_of_isChild (h : isChild dir p = true) :
    p.components.length = dir.components.length + 1 := by
  obtain ⟨parent, hparent, hsame⟩ := (Option.any_eq_true _ _).1 h
  obtain ⟨c, hcomponents⟩ := Path.components_of_parent? hparent
  rw [hcomponents, ← Path.same_iff.1 hsame, List.length_append]
  rfl

theorem mem_dirs_of_mem_children {entry : DirEntry} (h : entry ∈ tree.children dir)
    (hdir : entry.isDir = true) : entry.path ∈ tree.dirs := by
  rw [children_eq, Path.mem_sortBy, List.mem_append] at h
  rcases h with h | h
  · obtain ⟨q, hq, rfl⟩ := List.mem_map.1 h
    exact List.mem_of_mem_filter hq
  · obtain ⟨q, -, rfl⟩ := List.mem_map.1 h
    cases hdir

theorem DistinctDirs.pairwise_children (h : tree.DistinctDirs) (dir : Path) :
    ((tree.children dir).filter DirEntry.isDir).Pairwise fun a b => a.path.Apart b.path := by
  have hperm : ((tree.children dir).filter DirEntry.isDir).Perm
      ((tree.dirs.filter (isChild dir)).map fun q => ⟨q, true⟩) := by
    rw [children_eq]
    refine ((Path.sortBy_perm _ _).filter _).trans (.of_eq ?_)
    rw [List.filter_append, List.filter_map, List.filter_map]
    simp [Function.comp_def]
  rw [hperm.pairwise_iff fun hab => hab.symm, List.pairwise_map]
  refine (h.filter _).imp_of_mem ?_
  intro p q hp hq hne
  refine Path.apart_of_length_eq ?_ hne
  rw [components_length_of_isChild (List.mem_filter.1 hp).2,
    components_length_of_isChild (List.mem_filter.1 hq).2]

end MemoryTree

end Storage

end DoctypeInterfaces
