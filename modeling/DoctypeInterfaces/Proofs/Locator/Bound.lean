import DoctypeInterfaces.Proofs.Locator.Walk
import DoctypeInterfaces.Proofs.Storage.Directories
import Mathlib.Data.Finset.Card

namespace DoctypeInterfaces.Locator

open Storage

/-- The directories of a tree that are pending in a walk, or lie below a pending one. -/
def directoriesAhead (tree : MemoryTree) (entries : List DirEntry) : Finset Path :=
  tree.dirs.toFinset.filter fun q =>
    ∃ entry ∈ entries, entry.isDir = true ∧ entry.path.components <+: q.components

/-- Whether the directories among the pending entries are stored, and lie apart. -/
structure Spread (tree : MemoryTree) (entries : List DirEntry) : Prop where
  stored : ∀ entry ∈ entries, entry.isDir = true → entry.path ∈ tree.dirs
  apart : (entries.filter DirEntry.isDir).Pairwise fun a b => a.path.Apart b.path

variable {tree : MemoryTree} {entries rest : List DirEntry} {entry : DirEntry} {q : Path}

theorem mem_directoriesAhead :
    q ∈ directoriesAhead tree entries ↔ q ∈ tree.dirs ∧
      ∃ entry ∈ entries, entry.isDir = true ∧ entry.path.components <+: q.components := by
  rw [directoriesAhead, Finset.mem_filter, List.mem_toFinset]

theorem spread_children (h : tree.DistinctDirs) (dir : Path) : Spread tree (tree.children dir) :=
  ⟨fun _ hentry => MemoryTree.mem_dirs_of_mem_children hentry, h.pairwise_children dir⟩

theorem Spread.of_append {passed : List DirEntry} (h : Spread tree (passed ++ entries)) :
    Spread tree entries := by
  constructor
  case stored => exact fun entry hentry => h.stored entry (List.mem_append_right _ hentry)
  case apart => exact h.apart.sublist ((List.sublist_append_right _ _).filter _)

theorem Spread.apart_of_mem (h : Spread tree (entry :: rest)) (hdir : entry.isDir = true) :
    ∀ other ∈ rest, other.isDir = true → entry.path.Apart other.path := by
  intro other hother hotherDir
  have hapart := h.apart
  rw [List.filter_cons_of_pos hdir, List.pairwise_cons] at hapart
  exact hapart.1 other (List.mem_filter.2 ⟨hother, hotherDir⟩)

theorem Spread.enter (h : Spread tree (entry :: rest)) (hdistinct : tree.DistinctDirs)
    (hdir : entry.isDir = true) : Spread tree (tree.children entry.path ++ rest) := by
  have hchildren := spread_children hdistinct entry.path
  have hrest : Spread tree rest := (show Spread tree ([entry] ++ rest) from h).of_append
  constructor
  case stored =>
    exact List.forall_mem_append.2 ⟨hchildren.stored, hrest.stored⟩
  case apart =>
    rw [List.filter_append, List.pairwise_append]
    refine ⟨hchildren.apart, hrest.apart, fun child hchild other hother => ?_⟩
    obtain ⟨hother, hotherDir⟩ := List.mem_filter.1 hother
    have hbelow := MemoryTree.liesBelow_of_mem_children (List.mem_of_mem_filter hchild)
    exact (h.apart_of_mem hdir other hother hotherDir).of_isPrefix hbelow.isPrefix

theorem Spread.card_directoriesAhead_lt (h : Spread tree (entry :: rest))
    (hdir : entry.isDir = true) :
    (directoriesAhead tree (tree.children entry.path ++ rest)).card <
      (directoriesAhead tree (entry :: rest)).card := by
  have hmem : entry.path ∈ directoriesAhead tree (entry :: rest) :=
    mem_directoriesAhead.2 ⟨h.stored entry List.mem_cons_self hdir, entry, List.mem_cons_self, hdir,
      List.prefix_rfl⟩
  have hnotMem : entry.path ∉ directoriesAhead tree (tree.children entry.path ++ rest) := by
    intro hahead
    obtain ⟨-, other, hother, hotherDir, hbegins⟩ := mem_directoriesAhead.1 hahead
    rcases List.mem_append.1 hother with hchild | hother
    · obtain ⟨c, more, hbelow⟩ := MemoryTree.liesBelow_of_mem_children hchild
      have hlength := hbegins.length_le
      rw [hbelow, List.length_append, List.length_cons] at hlength
      omega
    · exact (h.apart_of_mem hdir other hother hotherDir).2 hbegins
  apply Finset.card_lt_card
  rw [Finset.ssubset_iff_of_subset]
  · exact ⟨entry.path, hmem, hnotMem⟩
  · intro q hq
    obtain ⟨hstored, other, hother, hotherDir, hbegins⟩ := mem_directoriesAhead.1 hq
    refine mem_directoriesAhead.2 ⟨hstored, ?_⟩
    rcases List.mem_append.1 hother with hchild | hother
    · have hbelow := (MemoryTree.liesBelow_of_mem_children hchild).isPrefix
      exact ⟨entry, List.mem_cons_self, hdir, hbelow.trans hbegins⟩
    · exact ⟨other, List.mem_cons_of_mem _ hother, hotherDir, hbegins⟩

theorem card_directoriesAhead_append_le (tree : MemoryTree) (passed entries : List DirEntry) :
    (directoriesAhead tree entries).card ≤ (directoriesAhead tree (passed ++ entries)).card := by
  apply Finset.card_le_card
  intro q hq
  obtain ⟨hstored, entry, hentry, hdir⟩ := mem_directoriesAhead.1 hq
  exact mem_directoriesAhead.2 ⟨hstored, entry, List.mem_append_right _ hentry, hdir⟩

theorem card_directoriesAhead_le (tree : MemoryTree) (entries : List DirEntry) :
    (directoriesAhead tree entries).card ≤ tree.dirs.length :=
  (Finset.card_filter_le _ _).trans (List.toFinset_card_le _)

section Walks

variable {memory : Memory} {target root : Path} {bound : Nat} {pending : List (List DirEntry)}
  {events : List Event} {result : Except Failure (Option Path)}

theorem Walked.finishes (h : Walked target bound pending events result)
    (hdistinct : memory.tree.DistinctDirs)
    (hanswers : ∀ e ∈ events, memory.Answers e)
    (hspread : Spread memory.tree pending.flatten)
    (hbound : (directoriesAhead memory.tree pending.flatten).card ≤ bound) :
    result ≠ .error .unfinished := by
  induction h with
  | exhausted => exact nofun
  | found => exact nofun
  | @unfinished pending rest entry hstop hdir =>
    obtain ⟨passed, hpassed⟩ := flatten_of_nextStop hstop
    rw [hpassed] at hspread hbound
    have hfewer := hspread.of_append.card_directoriesAhead_lt hdir
    have hpart := card_directoriesAhead_append_le memory.tree passed
      (entry :: rest.flatten)
    omega
  | failed => exact nofun
  | @entered bound pending rest entry children events result hstop hdir _ ih =>
    obtain ⟨passed, hpassed⟩ := flatten_of_nextStop hstop
    rw [hpassed] at hspread hbound
    obtain ⟨hlisted, hlater⟩ := List.forall_mem_cons.1 hanswers
    obtain rfl := Memory.children_of_view hlisted.view_listDir
    have hfewer := hspread.of_append.card_directoriesAhead_lt hdir
    have hpart := card_directoriesAhead_append_le memory.tree passed
      (entry :: rest.flatten)
    apply ih hlater
    · exact hspread.of_append.enter hdistinct hdir
    · rw [List.flatten_cons]
      omega

/-- A walk in memory, some of whose listings may fail, comes to an end if it may list as many
directories as there are. -/
theorem walk_finishes (h : Execution (walk bound root target) events result)
    (hdistinct : memory.tree.DistinctDirs)
    (hanswers : ∀ e ∈ events, memory.Answers e)
    (hbound : memory.tree.dirs.length ≤ bound) : result ≠ .error .unfinished := by
  rcases execution_walk_iff.1 h with ⟨e, rfl, rfl⟩ | ⟨entries, later, rfl, hwalked⟩
  · split <;> exact nofun
  · obtain ⟨hlisted, hlater⟩ := List.forall_mem_cons.1 hanswers
    obtain rfl := Memory.children_of_view hlisted.view_listDir
    apply hwalked.finishes hdistinct hlater
    · rw [List.flatten_singleton]
      exact spread_children hdistinct root
    · exact (card_directoriesAhead_le _ _).trans hbound

end Walks

end DoctypeInterfaces.Locator
