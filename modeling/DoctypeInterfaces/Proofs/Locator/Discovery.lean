import DoctypeInterfaces.Proofs.Locator.First

namespace DoctypeInterfaces.Locator

open Storage

/-- Whether a path, if there is one, is among those wanted, and none is wanted otherwise. -/
def Finds (wanted : Path → Prop) : Option Path → Prop
  | none => ∀ p, ¬ wanted p
  | some p => wanted p

section Wanted

variable {wanted first later : Path → Prop} {found : Option Path} {p : Path}

theorem Finds.congr (h : Finds wanted found) (hwanted : ∀ q, first q ↔ wanted q) :
    Finds first found := by
  rwa [show first = wanted from funext fun q => propext (hwanted q)]

theorem Finds.append_none (h : Finds first none) (hlater : Finds later found) :
    Finds (fun q => first q ∨ later q) found :=
  hlater.congr fun q => or_iff_right (h q)

theorem Finds.append_some (h : Finds first (some p)) (later : Path → Prop) :
    Finds (fun q => first q ∨ later q) (some p) :=
  Or.inl h

theorem Finds.isSome (h : Finds wanted found) (hp : wanted p) : found.isSome = true := by
  cases found with
  | none => exact absurd hp (h p)
  | some q => rfl

end Wanted

/-- Whether a path is that of a file that ends with `target`, and is one of the entries or lies
below a directory among them. -/
def MatchesWithin (tree : MemoryTree) (target : Path) (entries : List DirEntry) (p : Path) : Prop :=
  p ∈ tree.files.map Prod.fst ∧ p.endsWith target = true ∧
    ∃ entry ∈ entries, if entry.isDir then p.LiesBelow entry.path else p = entry.path

structure Stored (tree : MemoryTree) (entries : List DirEntry) : Prop where
  stored : ∀ entry ∈ entries,
    entry.path ∈ if entry.isDir then tree.dirs else tree.files.map Prod.fst
  nonempty : ∀ entry ∈ entries, entry.path.components ≠ []

section Trees

variable {tree : MemoryTree} {target dir p : Path} {entry : DirEntry} {entries rest : List DirEntry}

theorem stored_children (tree : MemoryTree) (dir : Path) : Stored tree (tree.children dir) := by
  constructor
  case stored => exact fun entry hentry => (MemoryTree.mem_children_iff.1 hentry).2
  case nonempty =>
    intro entry hentry
    obtain ⟨c, more, hbelow⟩ := MemoryTree.liesBelow_of_mem_children hentry
    simp [hbelow]

theorem Stored.of_cons (h : Stored tree (entry :: rest)) : Stored tree rest :=
  ⟨fun e he => h.stored e (List.mem_cons_of_mem _ he),
    fun e he => h.nonempty e (List.mem_cons_of_mem _ he)⟩

theorem liesBelow_of_entry (h : entry.path.LiesBelow dir)
    (hp : if entry.isDir then p.LiesBelow entry.path else p = entry.path) : p.LiesBelow dir := by
  split at hp
  · exact hp.of_isPrefix_right h.isPrefix
  · rwa [hp]

/-- A file below a directory is one of its entries, or lies below a directory among them. -/
theorem exists_entry (h : tree.IsHierarchy) (hp : p ∈ tree.files.map Prod.fst)
    (hbelow : p.LiesBelow dir) (hne : dir.components ≠ []) :
    ∃ entry ∈ tree.children dir,
      if entry.isDir then p.LiesBelow entry.path else p = entry.path := by
  obtain ⟨c, rest, hcomponents⟩ := hbelow
  cases rest with
  | nil =>
    have hchild := MemoryTree.isChild_of_components hne hcomponents
    exact ⟨⟨p, false⟩, MemoryTree.mem_children_iff.2 ⟨hchild, hp⟩, rfl⟩
  | cons d rest =>
    have hfront : dir.components ++ [c] <+: p.components := ⟨d :: rest, by simp [hcomponents]⟩
    obtain ⟨between, hbetween, hq⟩ := h.houses p (List.mem_append_left _ hp) _ (by simp) hfront
      (by simp [hcomponents])
    have hchild := MemoryTree.isChild_of_components hne hq
    exact ⟨⟨between, true⟩, MemoryTree.mem_children_iff.2 ⟨hchild, hbetween⟩, d, rest,
      by simp [hcomponents, hq]⟩

theorem matchesWithin_cons :
    MatchesWithin tree target (entry :: rest) p ↔
      (p ∈ tree.files.map Prod.fst ∧ p.endsWith target = true ∧
        if entry.isDir then p.LiesBelow entry.path else p = entry.path) ∨
      MatchesWithin tree target rest p := by
  simp only [MatchesWithin, List.exists_mem_cons_iff]
  tauto

theorem matchesWithin_cons_file (hstored : Stored tree (entry :: rest))
    (hfile : entry.isDir = false) :
    MatchesWithin tree target (entry :: rest) p ↔
      (p = entry.path ∧ p.endsWith target = true) ∨ MatchesWithin tree target rest p := by
  have hmem := hstored.stored entry List.mem_cons_self
  rw [hfile, if_neg Bool.false_ne_true] at hmem
  rw [matchesWithin_cons, hfile, if_neg Bool.false_ne_true]
  refine or_congr_left ⟨fun h => ⟨h.2.2, h.2.1⟩, ?_⟩
  rintro ⟨rfl, hends⟩
  exact ⟨hmem, hends, rfl⟩

/-- What lies below a directory is one of its entries, or lies below one of them. -/
theorem matchesWithin_cons_dir (h : tree.IsHierarchy) (hstored : Stored tree (entry :: rest))
    (hdir : entry.isDir = true) :
    MatchesWithin tree target (entry :: rest) p ↔
      MatchesWithin tree target (tree.children entry.path) p ∨
        MatchesWithin tree target rest p := by
  rw [matchesWithin_cons, if_pos hdir]
  refine or_congr_left ⟨?_, ?_⟩
  · rintro ⟨hp, hends, hbelow⟩
    exact ⟨hp, hends, exists_entry h hp hbelow (hstored.nonempty entry List.mem_cons_self)⟩
  · rintro ⟨hp, hends, child, hchild, hwithin⟩
    exact ⟨hp, hends, liesBelow_of_entry (MemoryTree.liesBelow_of_mem_children hchild) hwithin⟩

end Trees

section Memories

variable {memory : Memory} {target root : Path} {entries : List DirEntry} {events : List Event}
  {result : Except Failure (Option Path)} {bound : Nat}

theorem Searched.finds (h : Searched target entries events result)
    (hierarchy : memory.tree.IsHierarchy) (hfailing : memory.failing = [])
    (hstored : Stored memory.tree entries)
    (hview : ∀ e ∈ events, e.answer = memory.view e.call) :
    ∃ found, result = .ok found ∧ Finds (MatchesWithin memory.tree target entries) found := by
  induction h with
  | exhausted => exact ⟨none, rfl, by simp [Finds, MatchesWithin]⟩
  | @found entry rest hfile hends =>
    exact ⟨_, rfl, (matchesWithin_cons_file hstored hfile).2 (.inl ⟨rfl, hends⟩)⟩
  | @passed entry rest events result hfile hends _ ih =>
    obtain ⟨found, rfl, hfound⟩ := ih hstored.of_cons hview
    have hentry : Finds (fun p => p = entry.path ∧ p.endsWith target = true) none := by
      rintro p ⟨rfl, hmatch⟩
      rw [hends] at hmatch
      cases hmatch
    exact ⟨found, rfl, (hentry.append_none hfound).congr fun q =>
      matchesWithin_cons_file hstored hfile⟩
  | @failed entry rest e hdir =>
    have hmem := hstored.stored entry List.mem_cons_self
    rw [if_pos hdir] at hmem
    have hlisting := Memory.listing_of_mem_dirs hfailing hmem
    cases (hview _ (List.mem_singleton_self _)).trans hlisting
  | @stopped entry rest children events result hdir _ hstop ih =>
    obtain ⟨hchildren, hlater⟩ := List.forall_mem_cons.1 hview
    obtain rfl := Memory.children_of_view hchildren.symm
    obtain ⟨found, rfl, hfound⟩ := ih (stored_children _ _) hlater
    obtain ⟨p, rfl⟩ := Option.ne_none_iff_exists'.1 fun hnone => hstop (hnone ▸ rfl)
    exact ⟨_, rfl, (hfound.append_some _).congr fun q =>
      matchesWithin_cons_dir hierarchy hstored hdir⟩
  | @searched entry rest children events later result hdir _ _ ihChildren ihRest =>
    obtain ⟨hchildren, hlater⟩ := List.forall_mem_cons.1 hview
    obtain rfl := Memory.children_of_view hchildren.symm
    obtain ⟨hinner, hrest⟩ := List.forall_mem_append.1 hlater
    obtain ⟨inner, hnone, hempty⟩ := ihChildren (stored_children _ _) hinner
    obtain rfl := Except.ok.inj hnone
    obtain ⟨found, rfl, hfound⟩ := ihRest hstored.of_cons hrest
    exact ⟨found, rfl, (hempty.append_none hfound).congr fun q =>
      matchesWithin_cons_dir hierarchy hstored hdir⟩

theorem matchesBelow_iff_within {tree : MemoryTree} {p : Path} (h : tree.IsHierarchy)
    (hne : root.components ≠ []) :
    MatchesBelow tree target root p ↔ MatchesWithin tree target (tree.children root) p := by
  have hends : target.components <:+ p.components ↔ p.endsWith target = true :=
    List.isSuffixOf_iff_suffix.symm
  constructor
  · rintro ⟨hp, hbelow, hsuffix⟩
    exact ⟨hp, hends.1 hsuffix, exists_entry h hp hbelow hne⟩
  · rintro ⟨hp, hmatch, child, hchild, hwithin⟩
    have hbelow := liesBelow_of_entry (MemoryTree.liesBelow_of_mem_children hchild) hwithin
    exact ⟨hp, hbelow, hends.2 hmatch⟩

theorem walk_finds (h : Execution (walk bound root target) events result)
    (hierarchy : memory.tree.IsHierarchy) (hfailing : memory.failing = [])
    (hroot : root.components ≠ []) (hview : ∀ e ∈ events, e.answer = memory.view e.call)
    (hbound : memory.tree.dirs.length ≤ bound) :
    ∃ found, result = .ok found ∧ Finds (MatchesBelow memory.tree target root) found := by
  rcases search_or_none_of_walk h hierarchy hfailing hroot hview hbound with
    ⟨later, hsearched, hlater⟩ | ⟨hnone, hempty⟩
  · obtain ⟨found, hfound, hfinds⟩ := hsearched.finds hierarchy hfailing (stored_children _ root)
      hlater
    exact ⟨found, hfound, hfinds.congr fun p => matchesBelow_iff_within hierarchy hroot⟩
  · exact ⟨none, hnone, hempty⟩

/-- A locator that has found nothing yet finds a schema file of a doctype below the directory of
the application exactly if there is one. -/
theorem locate_finds (appsPath : Path) (app doctype : String) (h : memory.Reachable)
    (hfailing : memory.failing = []) (hroot : (appsPath.join (.ofText app)).components ≠ [])
    (hbound : memory.tree.dirs.length ≤ bound) :
    ∃ found,
      ((((new appsPath).locate bound app doctype).run Memory.answer).run memory).1.1 = .ok found ∧
      Finds (MatchesBelow memory.tree (schemaSuffix doctype) (appsPath.join (.ofText app)))
        found := by
  obtain ⟨events, hlocate, htranscript⟩ := Program.run_eq_iff.1
    (rfl : (((new appsPath).locate bound app doctype).run Memory.answer).run memory = _)
  obtain ⟨hwalk, -⟩ := (execution_locate_iff rfl).1 hlocate
  exact walk_finds hwalk h.isHierarchy hfailing hroot
    (Memory.answer_eq_view htranscript (observes_of_walk hwalk)) hbound

end Memories

end DoctypeInterfaces.Locator
