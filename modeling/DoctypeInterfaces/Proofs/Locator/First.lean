import DoctypeInterfaces.Proofs.Locator.Bound
import DoctypeInterfaces.Proofs.Locator.Search
import DoctypeInterfaces.Proofs.Storage.Hierarchy

namespace DoctypeInterfaces.Locator

open Storage

/-- Whether a path, if there is one, is the first one of those wanted, and none is wanted
otherwise. -/
def IsFirst (wanted : Path → Prop) : Option Path → Prop
  | none => ∀ p, ¬ wanted p
  | some p => wanted p ∧ ∀ q, wanted q → q = p ∨ p.Before q

section Wanted

variable {wanted first later : Path → Prop} {found : Option Path} {p : Path}

theorem IsFirst.congr (h : IsFirst wanted found) (hwanted : ∀ q, first q ↔ wanted q) :
    IsFirst first found := by
  rwa [show first = wanted from funext fun q => propext (hwanted q)]

theorem IsFirst.append_none (h : IsFirst first none) (hlater : IsFirst later found) :
    IsFirst (fun q => first q ∨ later q) found :=
  hlater.congr fun q => or_iff_right (h q)

theorem IsFirst.append_some (h : IsFirst first (some p)) (hlater : ∀ q, later q → p.Before q) :
    IsFirst (fun q => first q ∨ later q) (some p) := by
  refine ⟨.inl h.1, fun q hq => ?_⟩
  rcases hq with hfirst | hq
  · exact h.2 q hfirst
  · exact .inr (hlater q hq)

theorem IsFirst.isSome_iff (h : IsFirst wanted found) : found.isSome = true ↔ ∃ p, wanted p := by
  cases found with
  | none => simpa using not_exists.2 h
  | some p => simpa using ⟨p, h.1⟩

end Wanted

/-- Whether a path is that of a file that ends with `target` and lies at or below an entry. -/
def MatchesUnder (tree : MemoryTree) (target : Path) (entries : List DirEntry) (p : Path) : Prop :=
  p ∈ tree.files.map Prod.fst ∧ p.endsWith target = true ∧
    ∃ entry ∈ entries, entry.path.components <+: p.components

structure Listed (tree : MemoryTree) (entries : List DirEntry) : Prop where
  stored : ∀ entry ∈ entries,
    entry.path ∈ if entry.isDir then tree.dirs else tree.files.map Prod.fst
  nonempty : ∀ entry ∈ entries, entry.path.components ≠ []
  ordered : entries.Pairwise fun a b => a.path.WhollyBefore b.path

section Trees

variable {tree : MemoryTree} {target dir p : Path} {entry : DirEntry} {entries rest : List DirEntry}

theorem listed_children (h : tree.IsHierarchy) (hunmixed : tree.Unmixed) (dir : Path) :
    Listed tree (tree.children dir) := by
  constructor
  case stored => exact fun entry hentry => (MemoryTree.mem_children_iff.1 hentry).2
  case nonempty =>
    intro entry hentry
    obtain ⟨c, more, hbelow⟩ := MemoryTree.liesBelow_of_mem_children hentry
    simp [hbelow]
  case ordered => exact h.ordered_children hunmixed dir

theorem Listed.of_cons (h : Listed tree (entry :: rest)) : Listed tree rest :=
  ⟨fun e he => h.stored e (List.mem_cons_of_mem _ he),
    fun e he => h.nonempty e (List.mem_cons_of_mem _ he), (List.pairwise_cons.1 h.ordered).2⟩

theorem Listed.mem_dirs (h : Listed tree (entry :: rest)) (hdir : entry.isDir = true) :
    entry.path ∈ tree.dirs := by
  have hstored := h.stored entry List.mem_cons_self
  rwa [if_pos hdir] at hstored

theorem Listed.mem_files (h : Listed tree (entry :: rest)) (hfile : entry.isDir = false) :
    entry.path ∈ tree.files.map Prod.fst := by
  have hstored := h.stored entry List.mem_cons_self
  rwa [if_neg (Bool.eq_false_iff.1 hfile)] at hstored

/-- The matches under the rest of the entries stand after what lies at or below the first one. -/
theorem Listed.before (h : Listed tree (entry :: rest))
    (hp : entry.path.components <+: p.components) (q : Path)
    (hq : MatchesUnder tree target rest q) : p.Before q := by
  obtain ⟨-, -, other, hother, hbelow⟩ := hq
  exact ((List.pairwise_cons.1 h.ordered).1 other hother).before hp hbelow

theorem matchesUnder_cons :
    MatchesUnder tree target (entry :: rest) p ↔
      (p ∈ tree.files.map Prod.fst ∧ p.endsWith target = true ∧
        entry.path.components <+: p.components) ∨ MatchesUnder tree target rest p := by
  simp only [MatchesUnder, List.exists_mem_cons_iff]
  tauto

theorem matchesUnder_cons_file (h : tree.IsHierarchy) (hunmixed : tree.Unmixed)
    (hlisted : Listed tree (entry :: rest)) (hfile : entry.isDir = false) :
    MatchesUnder tree target (entry :: rest) p ↔
      (p = entry.path ∧ p.endsWith target = true) ∨ MatchesUnder tree target rest p := by
  have hstored := hlisted.mem_files hfile
  rw [matchesUnder_cons]
  refine or_congr_left ⟨?_, ?_⟩
  · rintro ⟨hp, hends, hbelow⟩
    refine ⟨?_, hends⟩
    by_cases hsame : entry.path.components = p.components
    · exact h.eq_of_files hp hstored hsame.symm
    · obtain ⟨dir, hdir, heq⟩ := h.houses p (List.mem_append_left _ hp) _
        (hlisted.nonempty entry List.mem_cons_self) hbelow hsame
      exact absurd heq (hunmixed.components_ne hstored hdir)
  · rintro ⟨rfl, hends⟩
    exact ⟨hstored, hends, List.prefix_rfl⟩

/-- The files at or below a directory lie at or below its entries. -/
theorem matchesUnder_cons_dir (h : tree.IsHierarchy) (hunmixed : tree.Unmixed)
    (hlisted : Listed tree (entry :: rest)) (hdir : entry.isDir = true) :
    MatchesUnder tree target (entry :: rest) p ↔
      MatchesUnder tree target (tree.children entry.path) p ∨
        MatchesUnder tree target rest p := by
  rw [matchesUnder_cons]
  refine or_congr_left ⟨?_, ?_⟩
  · rintro ⟨hp, hends, hprefix⟩
    have hbelow := Path.liesBelow_of_isPrefix hprefix
      (hunmixed.components_ne hp (hlisted.mem_dirs hdir))
    exact ⟨hp, hends, h.exists_child hp hbelow (hlisted.nonempty entry List.mem_cons_self)⟩
  · rintro ⟨hp, hends, child, hchild, hbelow⟩
    have hprefix := (MemoryTree.liesBelow_of_mem_children hchild).isPrefix
    exact ⟨hp, hends, hprefix.trans hbelow⟩

theorem isPrefix_of_matchesUnder_children (h : MatchesUnder tree target (tree.children dir) p) :
    dir.components <+: p.components := by
  obtain ⟨-, -, child, hchild, hbelow⟩ := h
  exact (MemoryTree.liesBelow_of_mem_children hchild).isPrefix.trans hbelow

end Trees

section Memories

variable {memory : Memory} {target root : Path} {entries : List DirEntry} {events : List Event}
  {result : Except Failure (Option Path)}

/-- A search through entries in memory finds the first match at or below them. -/
theorem Searched.isFirst (h : Searched target entries events result)
    (hierarchy : memory.tree.IsHierarchy) (hunmixed : memory.tree.Unmixed)
    (hfailing : memory.failing = []) (hlisted : Listed memory.tree entries)
    (hview : ∀ e ∈ events, e.answer = memory.view e.call) :
    ∃ found, result = .ok found ∧ IsFirst (MatchesUnder memory.tree target entries) found := by
  induction h with
  | exhausted => exact ⟨none, rfl, by simp [IsFirst, MatchesUnder]⟩
  | @found entry rest hfile hends =>
    have hentry : IsFirst (fun p => p = entry.path ∧ p.endsWith target = true) (some entry.path) :=
      ⟨⟨rfl, hends⟩, fun q hq => .inl hq.1⟩
    exact ⟨_, rfl, (hentry.append_some (hlisted.before List.prefix_rfl)).congr fun q =>
      matchesUnder_cons_file hierarchy hunmixed hlisted hfile⟩
  | @passed entry rest events result hfile hends _ ih =>
    obtain ⟨found, rfl, hfound⟩ := ih hlisted.of_cons hview
    have hentry : IsFirst (fun p => p = entry.path ∧ p.endsWith target = true) none := by
      rintro p ⟨rfl, hmatch⟩
      rw [hends] at hmatch
      cases hmatch
    exact ⟨found, rfl, (hentry.append_none hfound).congr fun q =>
      matchesUnder_cons_file hierarchy hunmixed hlisted hfile⟩
  | @failed entry rest e hdir =>
    have hlisting := Memory.listing_of_mem_dirs hfailing (hlisted.mem_dirs hdir)
    cases (hview _ (List.mem_singleton_self _)).trans hlisting
  | @stopped entry rest children events result hdir _ hstop ih =>
    -- What is found lies below the first entry, and all matches under the other ones come later.
    obtain ⟨hchildren, hlater⟩ := List.forall_mem_cons.1 hview
    obtain rfl := Memory.children_of_view hchildren.symm
    obtain ⟨found, rfl, hfound⟩ := ih (listed_children hierarchy hunmixed _) hlater
    obtain ⟨p, rfl⟩ := Option.ne_none_iff_exists'.1 fun hnone => hstop (hnone ▸ rfl)
    have hbelow := isPrefix_of_matchesUnder_children hfound.1
    exact ⟨_, rfl, (hfound.append_some (hlisted.before hbelow)).congr fun q =>
      matchesUnder_cons_dir hierarchy hunmixed hlisted hdir⟩
  | @searched entry rest children events later result hdir _ _ ihChildren ihRest =>
    obtain ⟨hchildren, hlater⟩ := List.forall_mem_cons.1 hview
    obtain rfl := Memory.children_of_view hchildren.symm
    obtain ⟨hinner, hrest⟩ := List.forall_mem_append.1 hlater
    obtain ⟨inner, hnone, hempty⟩ := ihChildren (listed_children hierarchy hunmixed _) hinner
    obtain rfl := Except.ok.inj hnone
    obtain ⟨found, rfl, hfound⟩ := ihRest hlisted.of_cons hrest
    exact ⟨found, rfl, (hempty.append_none hfound).congr fun q =>
      matchesUnder_cons_dir hierarchy hunmixed hlisted hdir⟩

theorem exists_search_of_walk {bound : Nat} (h : Execution (walk bound root target) events result)
    (hdistinct : memory.tree.DistinctDirs)
    (hview : ∀ e ∈ events, e.answer = memory.view e.call)
    (hbound : memory.tree.dirs.length ≤ bound) :
    ∃ depth, Execution (search depth root target) events result ∧ result ≠ .error .unfinished := by
  have hfinished := walk_finishes h hdistinct (fun e he => .inl (hview e he)) hbound
  obtain ⟨depth, hdepth⟩ := (finiteBelow_memory memory root).exists_depth_search target
  obtain ⟨events', hsearch, hview'⟩ := Program.result_eq_iff.1
    (rfl : (search depth root target).result (listingView memory.listing) = _)
  have hwalk' := execution_walk_of_search hsearch (hdepth depth le_rfl events' _ hsearch hview')
    (le_max_right bound events'.length)
  have hwalk := execution_walk_mono h hfinished (le_max_left bound events'.length)
  have hlistings : ∀ e ∈ events, e.answer = listingView memory.listing e.call := by
    intro e he
    obtain ⟨dir, hdir⟩ := call_eq_listDir_of_walk h e he
    obtain ⟨c, answer⟩ := e
    subst hdir
    exact hview _ he
  obtain ⟨rfl, hresult⟩ := Execution.unique hwalk hwalk' hlistings hview'
  exact ⟨depth, hresult ▸ hsearch, hfinished⟩

/-- Whether a path is that of a file below `root` whose components end with those of `target`. -/
def MatchesBelow (tree : MemoryTree) (target root p : Path) : Prop :=
  p ∈ tree.files.map Prod.fst ∧ p.LiesBelow root ∧ target.components <:+ p.components

theorem matchesBelow_iff {tree : MemoryTree} {p : Path} (h : tree.IsHierarchy)
    (hne : root.components ≠ []) :
    MatchesBelow tree target root p ↔ MatchesUnder tree target (tree.children root) p := by
  have hends : target.components <:+ p.components ↔ p.endsWith target = true :=
    List.isSuffixOf_iff_suffix.symm
  constructor
  · rintro ⟨hp, hbelow, hsuffix⟩
    exact ⟨hp, hends.1 hsuffix, h.exists_child hp hbelow hne⟩
  · rintro ⟨hp, hmatch, child, hchild, hprefix⟩
    have hbelow := MemoryTree.liesBelow_of_mem_children hchild
    exact ⟨hp, hbelow.of_isPrefix_left hprefix, hends.2 hmatch⟩

/-- A walk in memory searches the entries of the directory it starts in, or finds nothing as there
is nothing below. -/
theorem search_or_none_of_walk {bound : Nat}
    (h : Execution (walk bound root target) events result)
    (hierarchy : memory.tree.IsHierarchy) (hfailing : memory.failing = [])
    (hroot : root.components ≠ []) (hview : ∀ e ∈ events, e.answer = memory.view e.call)
    (hbound : memory.tree.dirs.length ≤ bound) :
    (∃ later, Searched target (memory.tree.children root) later result ∧
        ∀ e ∈ later, e.answer = memory.view e.call) ∨
      result = .ok none ∧ ∀ p, ¬ MatchesBelow memory.tree target root p := by
  obtain ⟨depth, hsearch, hfinished⟩ := exists_search_of_walk h hierarchy.dirs hview hbound
  rcases execution_search_iff.1 hsearch with ⟨e, rfl, rfl⟩ | ⟨entries, later, rfl, hentries⟩
  · obtain ⟨hdir, hkind⟩ := Memory.kind_of_listing_error hfailing
      (hview _ (List.mem_singleton_self _)).symm
    refine .inr ⟨if_pos hkind, fun p hp => ?_⟩
    obtain ⟨dir, hmem, hsame⟩ := hierarchy.exists_dir hp.1 hp.2.1 hroot
    exact List.any_eq_false.1 hdir dir hmem (Path.same_iff.2 hsame)
  · obtain ⟨hlisted, hlater⟩ := List.forall_mem_cons.1 hview
    obtain rfl := Memory.children_of_view hlisted.symm
    exact .inl ⟨later, searched_of_execution hentries hfinished, hlater⟩

/-- In memory, a walk finds the first match below the directory it starts in. -/
theorem walk_isFirst {bound : Nat} (h : Execution (walk bound root target) events result)
    (hierarchy : memory.tree.IsHierarchy) (hunmixed : memory.tree.Unmixed)
    (hfailing : memory.failing = []) (hroot : root.components ≠ [])
    (hview : ∀ e ∈ events, e.answer = memory.view e.call)
    (hbound : memory.tree.dirs.length ≤ bound) :
    ∃ found, result = .ok found ∧ IsFirst (MatchesBelow memory.tree target root) found := by
  rcases search_or_none_of_walk h hierarchy hfailing hroot hview hbound with
    ⟨later, hsearched, hlater⟩ | ⟨hnone, hempty⟩
  · obtain ⟨found, hfound, hfirst⟩ := hsearched.isFirst hierarchy hunmixed hfailing
      (listed_children hierarchy hunmixed root) hlater
    exact ⟨found, hfound, hfirst.congr fun p => matchesBelow_iff hierarchy hroot⟩
  · exact ⟨none, hnone, hempty⟩

/-- A locator that has found nothing yet finds the schema file of a doctype that stands first
below the directory of the application, and none if there is none. -/
theorem locate_isFirst (appsPath : Path) (app doctype : String) {bound : Nat}
    (h : memory.Reachable) (hunmixed : memory.tree.Unmixed) (hfailing : memory.failing = [])
    (hroot : (appsPath.join (.ofText app)).isEmpty = false)
    (hbound : memory.tree.dirs.length ≤ bound) :
    ∃ found,
      ((((new appsPath).locate bound app doctype).run Memory.answer).run memory).1.1 = .ok found ∧
      (found.isSome = true ↔
        ∃ p, MatchesBelow memory.tree (schemaSuffix doctype) (appsPath.join (.ofText app)) p) ∧
      ∀ p, found = some p →
        MatchesBelow memory.tree (schemaSuffix doctype) (appsPath.join (.ofText app)) p ∧
        ∀ q, MatchesBelow memory.tree (schemaSuffix doctype) (appsPath.join (.ofText app)) q →
          q = p ∨ p.Before q := by
  obtain ⟨events, hlocate, htranscript⟩ := Program.run_eq_iff.1
    (rfl : (((new appsPath).locate bound app doctype).run Memory.answer).run memory = _)
  obtain ⟨hwalk, -⟩ := (execution_locate_iff rfl).1 hlocate
  have hobserves : ∀ e ∈ events, e.call.observes = true := by
    intro e he
    obtain ⟨dir, hdir⟩ := call_eq_listDir_of_walk hwalk e he
    rw [hdir]
    rfl
  have hnonempty : (appsPath.join (.ofText app)).components ≠ [] := by
    intro hnone
    rw [Path.isEmpty_iff.2 hnone] at hroot
    cases hroot
  obtain ⟨found, hresult, hfound⟩ := walk_isFirst hwalk h.isHierarchy hunmixed hfailing hnonempty
    (Memory.answer_eq_view htranscript hobserves) hbound
  refine ⟨found, hresult, hfound.isSome_iff, ?_⟩
  rintro p rfl
  exact hfound

def twinStorage : Memory :=
  (Memory.empty.insert (.ofText "s/b/doctype/i/i.json") []).insert
    (.ofText "s/a/doctype/i/i.json") []

theorem twinStorage_evaluated :
    (∀ file ∈ twinStorage.tree.files, twinStorage.tree.isDir file.1 = false) ∧
      twinStorage.tree.dirs.length ≤ 7 ∧ (Path.ofText "").join (.ofText "s") = .ofText "s" ∧
      (((((new (.ofText "")).locate 7 "s" "i").run Memory.answer).run twinStorage).1.1).toOption =
        some (some (.ofText "s/a/doctype/i/i.json")) := by
  decide +kernel

theorem twin_file_located :
    ((((new (.ofText "")).locate 7 "s" "i").run Memory.answer).run twinStorage).1.1 =
        .ok (some (.ofText "s/a/doctype/i/i.json")) ∧
      ∀ q, MatchesBelow twinStorage.tree (schemaSuffix "i") (.ofText "s") q →
        q = .ofText "s/a/doctype/i/i.json" ∨ Path.Before (.ofText "s/a/doctype/i/i.json") q := by
  have hreachable : twinStorage.Reachable := .insert _ _ (.insert _ _ .empty)
  obtain ⟨hunmixed, hbound, hroot, hrun⟩ := twinStorage_evaluated
  obtain ⟨found, hlocate, -, hfirst⟩ := locate_isFirst (.ofText "") "s" "i" hreachable hunmixed rfl
    (hroot ▸ rfl) hbound
  rw [hlocate] at hrun
  obtain rfl := Option.some.inj hrun
  rw [hroot] at hfirst
  exact ⟨hlocate, (hfirst _ rfl).2⟩

end Memories

end DoctypeInterfaces.Locator
