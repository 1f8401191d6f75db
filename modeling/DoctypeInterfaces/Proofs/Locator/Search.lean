import DoctypeInterfaces.Proofs.Locator.Walk
import DoctypeInterfaces.Proofs.Storage.Directories
import Mathlib.Data.Finset.Lattice.Fold

namespace DoctypeInterfaces.Locator

open Storage

/-- Searches through entries, each directory by `enter`, for the first entry, not a directory, that
ends with `target`. -/
def searchEntries (target : Path) (enter : Path → Program (Except Failure (Option Path))) :
    List DirEntry → Program (Except Failure (Option Path))
  | [] => return .ok none
  | entry :: rest =>
    if entry.isDir then do
      match ← enter entry.path with
      | .ok none => searchEntries target enter rest
      | .ok (some path) => return .ok (some path)
      | .error e => return .error e
    else if entry.path.endsWith target then
      return .ok (some entry.path)
    else
      searchEntries target enter rest

/-- Searches through a directory and at most `depth` levels of directories below it. -/
def searchDir (target : Path) : Nat → Path → Program (Except Failure (Option Path))
  | 0, _ => return .error .unfinished
  | depth + 1, dir => do
    match ← listDir dir with
    | .ok entries => searchEntries target (searchDir target depth) entries
    | .error e => return .error (.search dir e)

/-- Searches through a directory, which need not exist, and at most `depth` levels of directories
below it. -/
def search (depth : Nat) (root target : Path) : Program (Except Failure (Option Path)) := do
  match ← listDir root with
  | .ok entries => searchEntries target (searchDir target depth) entries
  | .error e => if e.kind = .notFound then return .ok none else return .error (.search root e)

variable {target root dir : Path} {depth bound : Nat} {entry : DirEntry}
  {entries rest : List DirEntry} {events : List Event} {result : Except Failure (Option Path)}

inductive Searched (target : Path) :
    List DirEntry → List Event → Except Failure (Option Path) → Prop where
  | exhausted : Searched target [] [] (.ok none)
  | found {entry : DirEntry} {rest : List DirEntry} :
    entry.isDir = false → entry.path.endsWith target = true →
    Searched target (entry :: rest) [] (.ok (some entry.path))
  | passed {entry : DirEntry} {rest : List DirEntry} {events : List Event}
    {result : Except Failure (Option Path)} :
    entry.isDir = false → entry.path.endsWith target = false →
    Searched target rest events result → Searched target (entry :: rest) events result
  | failed {entry : DirEntry} {rest : List DirEntry} (e : IoError) :
    entry.isDir = true →
    Searched target (entry :: rest) [⟨.listDir entry.path, .error e⟩]
      (.error (.search entry.path e))
  | stopped {entry : DirEntry} {rest children : List DirEntry} {events : List Event}
    {result : Except Failure (Option Path)} :
    entry.isDir = true → Searched target children events result → result ≠ .ok none →
    Searched target (entry :: rest) (⟨.listDir entry.path, .ok children⟩ :: events) result
  | searched {entry : DirEntry} {rest children : List DirEntry} {events later : List Event}
    {result : Except Failure (Option Path)} :
    entry.isDir = true → Searched target children events (.ok none) →
    Searched target rest later result →
    Searched target (entry :: rest) (⟨.listDir entry.path, .ok children⟩ :: (events ++ later))
      result

/-- How a search goes through a directory, if it is not given up. -/
def SearchedDir (target dir : Path) (events : List Event)
    (result : Except Failure (Option Path)) : Prop :=
  (∃ e, events = [⟨.listDir dir, .error e⟩] ∧ result = .error (.search dir e)) ∨
    ∃ children inner, events = ⟨.listDir dir, .ok children⟩ :: inner ∧
      Searched target children inner result

section Entries

variable {enter : Path → Program (Except Failure (Option Path))}

theorem execution_searchEntries_cons (hdir : entry.isDir = true)
    (h : Execution (searchEntries target enter (entry :: rest)) events result) :
    (Execution (enter entry.path) events result ∧ result ≠ .ok none) ∨
      ∃ first later, events = first ++ later ∧ Execution (enter entry.path) first (.ok none) ∧
        Execution (searchEntries target enter rest) later result := by
  rw [searchEntries, if_pos hdir, Execution.bind_iff] at h
  obtain ⟨found, first, later, hfirst, hlater, rfl⟩ := h
  match found with
  | .ok none => exact .inr ⟨first, later, rfl, hfirst, hlater⟩
  | .ok (some path) =>
    obtain ⟨rfl, rfl⟩ := Execution.done_iff.1 hlater
    exact .inl ⟨by rwa [List.append_nil], nofun⟩
  | .error e =>
    obtain ⟨rfl, rfl⟩ := Execution.done_iff.1 hlater
    exact .inl ⟨by rwa [List.append_nil], nofun⟩

theorem searched_of_searchedDir (hdir : entry.isDir = true) (hstop : result ≠ .ok none)
    (h : SearchedDir target entry.path events result) :
    Searched target (entry :: rest) events result := by
  rcases h with ⟨e, rfl, rfl⟩ | ⟨children, inner, rfl, hinner⟩
  · exact .failed e hdir
  · exact .stopped hdir hinner hstop

theorem searched_of_enter
    (henter : ∀ dir events result, Execution (enter dir) events result →
      result ≠ .error .unfinished → SearchedDir target dir events result)
    (h : Execution (searchEntries target enter entries) events result)
    (hfinished : result ≠ .error .unfinished) : Searched target entries events result := by
  induction entries generalizing events with
  | nil =>
    obtain ⟨rfl, rfl⟩ := Execution.done_iff.1 h
    exact .exhausted
  | cons entry rest ih =>
    cases hdir : entry.isDir with
    | true =>
      rcases execution_searchEntries_cons hdir h with
        ⟨hentered, hstop⟩ | ⟨first, later, rfl, hfirst, hlater⟩
      · exact searched_of_searchedDir hdir hstop (henter _ _ _ hentered hfinished)
      · obtain ⟨e, -, hnone⟩ | ⟨children, inner, rfl, hinner⟩ := henter _ _ _ hfirst nofun
        · cases hnone
        · exact .searched hdir hinner (ih hlater)
    | false =>
      rw [searchEntries, if_neg (Bool.eq_false_iff.1 hdir)] at h
      split at h
      · next hends =>
        obtain ⟨rfl, rfl⟩ := Execution.done_iff.1 h
        exact .found hdir hends
      · next hends => exact .passed hdir (Bool.eq_false_iff.2 hends) (ih h)

end Entries

theorem searchedDir_of_execution (h : Execution (searchDir target depth dir) events result)
    (hfinished : result ≠ .error .unfinished) : SearchedDir target dir events result := by
  induction depth generalizing dir events result with
  | zero =>
    obtain ⟨-, rfl⟩ := Execution.done_iff.1 h
    exact absurd rfl hfinished
  | succ depth ih =>
    rw [searchDir, listDir, Program.ask_bind] at h
    obtain ⟨answer, inner, rfl, hinner⟩ := Execution.call_iff.1 h
    cases answer with
    | error e =>
      obtain ⟨rfl, rfl⟩ := Execution.done_iff.1 hinner
      exact .inl ⟨e, rfl, rfl⟩
    | ok children =>
      exact .inr ⟨children, inner, rfl, searched_of_enter (fun _ _ _ => ih) hinner hfinished⟩

theorem searched_of_execution
    (h : Execution (searchEntries target (searchDir target depth) entries) events result)
    (hfinished : result ≠ .error .unfinished) : Searched target entries events result :=
  searched_of_enter (fun _ _ _ => searchedDir_of_execution) h hfinished

theorem execution_search_iff :
    Execution (search depth root target) events result ↔
      (∃ e, events = [⟨.listDir root, .error e⟩] ∧
        result = if e.kind = .notFound then .ok none else .error (.search root e)) ∨
      ∃ entries later, events = ⟨.listDir root, .ok entries⟩ :: later ∧
        Execution (searchEntries target (searchDir target depth) entries) later result :=
  execution_listing_iff

theorem Walked.congr {pending pending' : List (List DirEntry)}
    (h : Walked target bound pending events result)
    (hstop : nextStop target pending' = nextStop target pending) :
    Walked target bound pending' events result := by
  cases h with
  | exhausted hnone => exact .exhausted (hstop.trans hnone)
  | found hnext hdir => exact .found (hstop.trans hnext) hdir
  | unfinished hnext hdir => exact .unfinished (hstop.trans hnext) hdir
  | failed e hnext hdir => exact .failed e (hstop.trans hnext) hdir
  | entered hnext hdir hlater => exact .entered (hstop.trans hnext) hdir hlater

theorem nextStop_nil_cons (target : Path) (above : List (List DirEntry)) :
    nextStop target ([] :: above) = nextStop target above :=
  rfl

theorem nextStop_cons_of_stop (above : List (List DirEntry))
    (h : (entry.isDir || entry.path.endsWith target) = true) :
    nextStop target ((entry :: rest) :: above) = some (entry, rest :: above) := by
  rw [nextStop, List.dropWhile_cons_of_neg (by simp [h])]

theorem nextStop_cons_of_pass (above : List (List DirEntry)) (hdir : entry.isDir = false)
    (hends : entry.path.endsWith target = false) :
    nextStop target ((entry :: rest) :: above) = nextStop target (rest :: above) := by
  rw [nextStop, List.dropWhile_cons_of_pos (by simp [hdir, hends]), nextStop]

/-- What is left to do when entries have been searched: to go on with what is pending above them if
nothing was found, and nothing else. -/
def GoesOn (target : Path) (bound : Nat) (above : List (List DirEntry)) (later : List Event)
    (final : Except Failure (Option Path)) : Except Failure (Option Path) → Prop
  | .ok none => Walked target bound above later final
  | stopped => later = [] ∧ final = stopped

theorem goesOn_of_stop {above : List (List DirEntry)} (h : result ≠ .ok none) :
    GoesOn target bound above [] result result := by
  match result with
  | .ok none => exact absurd rfl h
  | .ok (some path) => exact ⟨rfl, rfl⟩
  | .error e => exact ⟨rfl, rfl⟩

theorem eq_of_goesOn {above : List (List DirEntry)} {later : List Event}
    {final : Except Failure (Option Path)} (h : GoesOn target bound above later final result)
    (hstop : result ≠ .ok none) : later = [] ∧ final = result := by
  match result with
  | .ok none => exact absurd rfl hstop
  | .ok (some path) => exact h
  | .error e => exact h

/-- A walk goes through the entries on top of its stack as a search does, and then goes on. -/
theorem Searched.walked {above : List (List DirEntry)} {later : List Event}
    {final : Except Failure (Option Path)} (h : Searched target entries events result)
    (hnext : GoesOn target bound above later final result) :
    Walked target (bound + events.length) (entries :: above) (events ++ later) final := by
  induction h generalizing bound above later final with
  | exhausted => exact Walked.congr hnext (nextStop_nil_cons target above)
  | found hdir hends =>
    obtain ⟨rfl, rfl⟩ := hnext
    exact .found (nextStop_cons_of_stop above (by simp [hends])) hdir
  | passed hdir hends _ ih => exact (ih hnext).congr (nextStop_cons_of_pass above hdir hends)
  | failed e hdir =>
    obtain ⟨rfl, rfl⟩ := hnext
    exact .failed e (nextStop_cons_of_stop above (by simp [hdir])) hdir
  | @stopped entry rest children events result hdir _ hstop ih =>
    obtain ⟨rfl, rfl⟩ := eq_of_goesOn hnext hstop
    exact .entered (nextStop_cons_of_stop above (by simp [hdir])) hdir (ih (goesOn_of_stop hstop))
  | @searched entry rest children events after result hdir _ _ ihChildren ihRest =>
    have hrest : Walked target (bound + after.length) (rest :: above) (after ++ later) final :=
      ihRest hnext
    have hchildren : Walked target (bound + after.length + events.length)
        (children :: rest :: above) (events ++ (after ++ later)) final := ihChildren hrest
    rw [List.length_cons, List.length_append, List.cons_append, List.append_assoc]
    rw [Nat.add_comm events.length, ← Nat.add_assoc, ← Nat.add_assoc]
    exact .entered (nextStop_cons_of_stop above (by simp [hdir])) hdir hchildren

theorem execution_walk_of_search (h : Execution (search depth root target) events result)
    (hfinished : result ≠ .error .unfinished) (hbound : events.length ≤ bound) :
    Execution (walk bound root target) events result := by
  rw [execution_walk_iff]
  rcases execution_search_iff.1 h with hroot | ⟨entries, later, rfl, hentries⟩
  · exact .inl hroot
  · refine .inr ⟨entries, later, rfl, ?_⟩
    have hnext : GoesOn target 0 [] [] result result := by
      by_cases hnone : result = .ok none
      · rw [hnone]
        exact .exhausted rfl
      · exact goesOn_of_stop hnone
    have hwalked := (searched_of_execution hentries hfinished).walked hnext
    rw [List.append_nil, Nat.zero_add] at hwalked
    rw [List.length_cons] at hbound
    exact hwalked.mono hfinished (by omega)

/-- Whether a match has been found in a directory that was listed, and all that was listed after
that directory was listed to search what stands before the match. -/
def FoundWithin (target : Path) (events : List Event) (path : Path) : Prop :=
  ∃ earlier dir before after later,
    events = earlier ++ ⟨.listDir dir, .ok (before ++ ⟨path, false⟩ :: after)⟩ :: later ∧
      Searched target before later (.ok none)

/-- Whether nothing has been listed after the match or the failure that ends a search. -/
def StopsAtOnce (target : Path) (events : List Event) : Except Failure (Option Path) → Prop
  | .ok none => True
  | .ok (some path) => FoundWithin target events path
  | .error failure => ∃ earlier dir e, events = earlier ++ [⟨.listDir dir, .error e⟩] ∧
    failure = .search dir e

theorem FoundWithin.append {path : Path} (h : FoundWithin target events path)
    (more : List Event) : FoundWithin target (more ++ events) path := by
  obtain ⟨earlier, dir, before, after, later, rfl, hbefore⟩ := h
  exact ⟨more ++ earlier, dir, before, after, later, (List.append_assoc _ _ _).symm, hbefore⟩

theorem Searched.found_among {path : Path}
    (h : Searched target entries events (.ok (some path))) :
    (∃ before after, entries = before ++ ⟨path, false⟩ :: after ∧
        Searched target before events (.ok none)) ∨ FoundWithin target events path := by
  generalize hfound : (Except.ok (some path) : Except Failure (Option Path)) = found at h
  induction h with
  | exhausted => cases hfound
  | @found entry rest hdir hends =>
    cases hfound
    obtain ⟨path, isDir⟩ := entry
    obtain rfl : isDir = false := hdir
    exact .inl ⟨[], rest, rfl, .exhausted⟩
  | @passed entry rest events result hdir hends _ ih =>
    rcases ih hfound with ⟨before, after, rfl, hbefore⟩ | hwithin
    · exact .inl ⟨entry :: before, after, rfl, .passed hdir hends hbefore⟩
    · exact .inr hwithin
  | failed => cases hfound
  | @stopped entry rest children events result hdir _ _ ih =>
    right
    rcases ih hfound with ⟨before, after, rfl, hbefore⟩ | hwithin
    · exact ⟨[], entry.path, before, after, events, rfl, hbefore⟩
    · exact hwithin.append [_]
  | @searched entry rest children events later result hdir hchildren _ _ ih =>
    rcases ih hfound with ⟨before, after, rfl, hbefore⟩ | hwithin
    · exact .inl ⟨entry :: before, after, rfl, .searched hdir hchildren hbefore⟩
    · exact .inr (hwithin.append (_ :: events))

theorem Searched.getLast_of_error {failure : Failure}
    (h : Searched target entries events (.error failure)) :
    ∃ earlier dir e, events = earlier ++ [⟨.listDir dir, .error e⟩] ∧
      failure = .search dir e := by
  generalize hfailed : (Except.error failure : Except Failure (Option Path)) = failed at h
  induction h with
  | exhausted => cases hfailed
  | found => cases hfailed
  | passed _ _ _ ih => exact ih hfailed
  | @failed entry rest e hdir =>
    cases hfailed
    exact ⟨[], entry.path, e, rfl, rfl⟩
  | stopped _ _ _ ih =>
    obtain ⟨earlier, dir, e, rfl, hsearch⟩ := ih hfailed
    exact ⟨_ :: earlier, dir, e, rfl, hsearch⟩
  | @searched entry rest children events later result _ _ _ _ ih =>
    obtain ⟨earlier, dir, e, rfl, hsearch⟩ := ih hfailed
    exact ⟨⟨.listDir entry.path, .ok children⟩ :: (events ++ earlier), dir, e, by simp, hsearch⟩

theorem stopsAtOnce_of_search (h : Execution (search depth root target) events result)
    (hfinished : result ≠ .error .unfinished) : StopsAtOnce target events result := by
  rcases execution_search_iff.1 h with ⟨e, rfl, rfl⟩ | ⟨entries, later, rfl, hentries⟩
  · split
    · trivial
    · exact ⟨[], root, e, rfl, rfl⟩
  · have hsearched := searched_of_execution hentries hfinished
    match result with
    | .ok none => trivial
    | .ok (some path) =>
      rcases hsearched.found_among with ⟨before, after, rfl, hbefore⟩ | hwithin
      · exact ⟨[], root, before, after, later, rfl, hbefore⟩
      · exact hwithin.append [_]
    | .error failure =>
      obtain ⟨earlier, dir, e, rfl, hsearch⟩ := hsearched.getLast_of_error
      exact ⟨_ :: earlier, dir, e, rfl, hsearch⟩

/-- Whether there is an end to the directories at and below a directory. -/
inductive FiniteBelow (list : Path → Except IoError (List DirEntry)) : Path → Prop where
  | intro {dir : Path} :
    (∀ entries, list dir = .ok entries → ∀ entry ∈ entries, entry.isDir = true →
      FiniteBelow list entry.path) → FiniteBelow list dir

/-- There is an end if each directory has a greater rank than the one it is listed in, and the rank
of a directory that can be listed is bounded. -/
theorem finiteBelow_of_rank {list : Path → Except IoError (List DirEntry)} (rank : Path → Nat)
    (greatest : Nat)
    (h : ∀ dir entries, list dir = .ok entries → ∀ entry ∈ entries, entry.isDir = true →
      rank dir ≤ greatest ∧ rank dir < rank entry.path) (dir : Path) : FiniteBelow list dir := by
  have hlevels : ∀ levels (dir : Path), greatest < rank dir + levels → FiniteBelow list dir := by
    intro levels
    induction levels with
    | zero =>
      refine fun dir hdir => .intro fun entries hlist entry hentry hentryDir => ?_
      have hbounds := h dir entries hlist entry hentry hentryDir
      omega
    | succ levels ih =>
      refine fun dir hdir => .intro fun entries hlist entry hentry hentryDir => ?_
      have hbounds := h dir entries hlist entry hentry hentryDir
      exact ih entry.path (by omega)
  exact hlevels (greatest + 1) dir (by omega)

/-- Whether a storage answers each listing in the same way, whatever has been listed before. -/
def ListsAs {σ : Type} (reached : (c : Call) → StateM σ c.Answer) (s : σ)
    (list : Path → Except IoError (List DirEntry)) : Prop :=
  ∀ events s', Transcript reached s events s' → (∀ e ∈ events, ∃ dir, e.call = .listDir dir) →
    ∀ dir, ((reached (.listDir dir)).run s').1 = list dir

section Listings

variable {σ : Type} {reached : (c : Call) → StateM σ c.Answer} {s : σ}
  {list : Path → Except IoError (List DirEntry)}

theorem ListsAs.next (h : ListsAs reached s list) (dir : Path) :
    ListsAs reached ((reached (.listDir dir)).run s).2 list := by
  intro events s' htranscript hevents
  exact h _ s' (.cons (.listDir dir) htranscript) (List.forall_mem_cons.2 ⟨⟨dir, rfl⟩, hevents⟩)

theorem ListsAs.transcript (h : ListsAs reached s list)
    (hevents : ∀ e ∈ events, ∃ dir, e = ⟨.listDir dir, list dir⟩) :
    ∃ s', Transcript reached s events s' := by
  induction events generalizing s with
  | nil => exact ⟨s, .nil s⟩
  | cons e events ih =>
    obtain ⟨⟨dir, rfl⟩, hlater⟩ := List.forall_mem_cons.1 hevents
    obtain ⟨s', htranscript⟩ := ih (h.next dir) hlater
    rw [← h [] s (.nil s) (by simp) dir]
    exact ⟨s', .cons (.listDir dir) htranscript⟩

/-- The storage that gives these listings, and fails otherwise. -/
def listingView (list : Path → Except IoError (List DirEntry)) : (c : Call) → c.Answer
  | .listDir dir => list dir
  | c => c.failure ⟨.notFound, ""⟩

/-- Whether a program is not given up, when directories are listed like this. -/
def FinishesOn (list : Path → Except IoError (List DirEntry))
    (program : Program (Except Failure (Option Path))) : Prop :=
  ∀ events result, Execution program events result →
    (∀ e ∈ events, e.answer = listingView list e.call) → result ≠ .error .unfinished

theorem finishesOn_searchEntries {enter : Path → Program (Except Failure (Option Path))}
    (henter : ∀ entry ∈ entries, entry.isDir = true → FinishesOn list (enter entry.path)) :
    FinishesOn list (searchEntries target enter entries) := by
  intro events result h hview
  induction entries generalizing events with
  | nil =>
    obtain ⟨-, rfl⟩ := Execution.done_iff.1 h
    exact nofun
  | cons entry rest ih =>
    obtain ⟨hentry, hrest⟩ := List.forall_mem_cons.1 henter
    cases hdir : entry.isDir with
    | true =>
      rcases execution_searchEntries_cons hdir h with
        ⟨hentered, -⟩ | ⟨first, later, rfl, -, hlater⟩
      · exact hentry hdir _ _ hentered hview
      · exact ih hrest later hlater (List.forall_mem_append.1 hview).2
    | false =>
      rw [searchEntries, if_neg (Bool.eq_false_iff.1 hdir)] at h
      split at h
      · obtain ⟨-, rfl⟩ := Execution.done_iff.1 h
        exact nofun
      · exact ih hrest events h hview

theorem exists_depth_of_forall {P : Nat → DirEntry → Prop}
    (h : ∀ entry ∈ entries, ∃ enough, ∀ depth, enough ≤ depth → P depth entry) :
    ∃ enough, ∀ depth, enough ≤ depth → ∀ entry ∈ entries, P depth entry := by
  induction entries with
  | nil => exact ⟨0, by simp⟩
  | cons entry rest ih =>
    obtain ⟨⟨first, hfirst⟩, hrest⟩ := List.forall_mem_cons.1 h
    obtain ⟨other, hother⟩ := ih hrest
    refine ⟨max first other, fun depth hdepth => List.forall_mem_cons.2 ⟨?_, ?_⟩⟩
    · exact hfirst depth (le_trans (le_max_left _ _) hdepth)
    · exact hother depth (le_trans (le_max_right _ _) hdepth)

theorem finishesOn_searchDir_succ
    (h : ∀ entries, list dir = .ok entries →
      FinishesOn list (searchEntries target (searchDir target depth) entries)) :
    FinishesOn list (searchDir target (depth + 1) dir) := by
  intro events result hexecution hview
  rw [searchDir, listDir, Program.ask_bind] at hexecution
  obtain ⟨answer, inner, rfl, hinner⟩ := Execution.call_iff.1 hexecution
  obtain ⟨hanswer, hlater⟩ := List.forall_mem_cons.1 hview
  cases answer with
  | error e =>
    obtain ⟨-, rfl⟩ := Execution.done_iff.1 hinner
    simp
  | ok entries => exact h entries hanswer.symm inner result hinner hlater

theorem FiniteBelow.exists_depth (h : FiniteBelow list dir) (target : Path) :
    ∃ enough, ∀ depth, enough ≤ depth → ∀ entries, list dir = .ok entries →
      FinishesOn list (searchEntries target (searchDir target depth) entries) := by
  induction h with
  | @intro dir _ ih =>
    cases hlist : list dir with
    | error e => exact ⟨0, fun _ _ _ => nofun⟩
    | ok entries =>
      have hdeep : ∀ entry ∈ entries, ∃ enough, ∀ depth, enough ≤ depth →
          entry.isDir = true → FinishesOn list (searchDir target depth entry.path) := by
        intro entry hentry
        cases hdir : entry.isDir with
        | false => exact ⟨0, fun _ _ => nofun⟩
        | true =>
          obtain ⟨enough, hfinishes⟩ := ih entries hlist entry hentry hdir
          refine ⟨enough + 1, fun depth hdepth _ => ?_⟩
          obtain ⟨depth, rfl⟩ := Nat.exists_eq_add_of_le' (Nat.le_of_add_left_le hdepth)
          exact finishesOn_searchDir_succ (hfinishes depth (Nat.le_of_succ_le_succ hdepth))
      obtain ⟨enough, hfinishes⟩ := exists_depth_of_forall hdeep
      refine ⟨enough, fun depth hdepth found hfound => ?_⟩
      obtain rfl := Except.ok.inj hfound
      exact finishesOn_searchEntries (hfinishes depth hdepth)

theorem FiniteBelow.exists_depth_search (h : FiniteBelow list root) (target : Path) :
    ∃ enough, ∀ depth, enough ≤ depth → FinishesOn list (search depth root target) := by
  obtain ⟨enough, hfinishes⟩ := h.exists_depth target
  refine ⟨enough, fun depth hdepth events result hexecution hview => ?_⟩
  rcases execution_search_iff.1 hexecution with ⟨e, -, rfl⟩ | ⟨entries, later, rfl, hentries⟩
  · split <;> exact nofun
  · obtain ⟨hroot, hlater⟩ := List.forall_mem_cons.1 hview
    exact hfinishes depth hdepth entries hroot.symm later result hentries hlater

/-- On a storage whose listings stay the same and have an end below the root, a walk makes the
calls of the recursive search, one after the other, and gives its result. Nothing is listed after
the match or the failure. -/
theorem walk_eq_search (hlists : ListsAs reached s list) (hfinite : FiniteBelow list root)
    (target : Path) :
    ∃ enough result later events,
      (∀ depth, enough ≤ depth →
        ((search depth root target).run (Recorded.answer reached)).run ⟨s, []⟩ =
          (result, ⟨later, events⟩)) ∧
      (∀ bound, enough ≤ bound →
        ((walk bound root target).run (Recorded.answer reached)).run ⟨s, []⟩ =
          (result, ⟨later, events⟩)) ∧
      result ≠ .error .unfinished ∧ StopsAtOnce target events result := by
  obtain ⟨deep, hfinishes⟩ := hfinite.exists_depth_search target
  obtain ⟨events, hsearch, hview⟩ := Program.result_eq_iff.1
    (rfl : (search deep root target).result (listingView list) = _)
  have hfinished := hfinishes deep le_rfl events _ hsearch hview
  have hwalk : ∀ bound, events.length ≤ bound → Execution (walk bound root target) events _ :=
    fun bound => execution_walk_of_search hsearch hfinished
  have hlistings : ∀ e ∈ events, ∃ dir, e = ⟨.listDir dir, list dir⟩ := by
    intro e he
    obtain ⟨dir, hdir⟩ := call_eq_listDir_of_walk (hwalk _ le_rfl) e he
    obtain ⟨c, answer⟩ := e
    subst hdir
    obtain rfl : answer = list dir := hview _ he
    exact ⟨dir, rfl⟩
  obtain ⟨later, htranscript⟩ := hlists.transcript hlistings
  refine ⟨max deep events.length, _, later, events, fun depth hdepth => ?_,
    fun bound hbound => ?_, hfinished, stopsAtOnce_of_search hsearch hfinished⟩
  · -- A walk that may list enough for both depths tells that they do the same.
    obtain ⟨events', hsearch', hview'⟩ := Program.result_eq_iff.1
      (rfl : (search depth root target).result (listingView list) = _)
    have hfinished' := hfinishes depth (le_trans (le_max_left _ _) hdepth) events' _ hsearch' hview'
    have hwalk' := execution_walk_of_search hsearch' hfinished'
      (le_max_right events.length events'.length)
    obtain ⟨rfl, hresult⟩ := Execution.unique (hwalk _ (le_max_left _ _)) hwalk' hview hview'
    rw [hresult] at hsearch'
    exact Program.run_recorded_iff.2 ⟨hsearch', htranscript⟩
  · exact Program.run_recorded_iff.2 ⟨hwalk bound (le_trans (le_max_right _ _) hbound), htranscript⟩

end Listings

section InMemory

theorem listsAs_memory (memory : Memory) : ListsAs Memory.answer memory memory.listing := by
  intro events after htranscript hevents dir
  have halike : memory.Alike after := by
    apply Memory.alike_of_transcript htranscript
    intro e he
    obtain ⟨dir, hdir⟩ := hevents e he
    rw [hdir]
    rfl
  exact halike.view_eq (.listDir dir)

theorem finiteBelow_memory (memory : Memory) (dir : Path) : FiniteBelow memory.listing dir := by
  refine finiteBelow_of_rank (fun q => q.components.length)
    (memory.tree.dirs.toFinset.sup fun q => q.components.length) ?_ dir
  intro dir entries hlist entry hentry hentryDir
  obtain rfl := Memory.children_of_view hlist
  obtain ⟨c, rest, hbelow⟩ := MemoryTree.liesBelow_of_mem_children hentry
  have hstored := MemoryTree.mem_dirs_of_mem_children hentry hentryDir
  have hdeepest := Finset.le_sup (f := fun q => q.components.length) (List.mem_toFinset.2 hstored)
  rw [hbelow, List.length_append, List.length_cons] at hdeepest ⊢
  omega

def guardedStorage : Memory :=
  { Memory.empty with
    tree := (MemoryTree.empty.insert (.ofText "/s/doctype/i/i.json") []).createDirAll
      (.ofText "/s/x")
    failing := [(.ofText "/s/x", .notFound)] }

theorem guarded_walk_eq_search :
    ∃ enough, ∀ bound depth, enough ≤ bound → enough ≤ depth →
      ((walk bound (.ofText "/s") (schemaSuffix "b")).run (Recorded.answer Memory.answer)).run
          ⟨guardedStorage, []⟩ =
        ((search depth (.ofText "/s") (schemaSuffix "b")).run (Recorded.answer Memory.answer)).run
          ⟨guardedStorage, []⟩ := by
  obtain ⟨enough, result, later, events, hsearch, hwalk, -, -⟩ := walk_eq_search
    (listsAs_memory guardedStorage) (finiteBelow_memory guardedStorage (.ofText "/s"))
    (schemaSuffix "b")
  exact ⟨enough, fun bound depth hbound hdepth =>
    (hwalk bound hbound).trans (hsearch depth hdepth).symm⟩

end InMemory

end DoctypeInterfaces.Locator
