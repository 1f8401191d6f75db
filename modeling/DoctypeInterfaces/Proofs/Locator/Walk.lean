import DoctypeInterfaces.Locator
import DoctypeInterfaces.Proofs.Path.Components
import DoctypeInterfaces.Proofs.Storage.Observation

namespace DoctypeInterfaces.Locator

open Storage

variable {target : Path} {bound : Nat} {pending rest : List (List DirEntry)} {entry : DirEntry}
  {events : List Event} {result : Except Failure (Option Path)}

theorem flatten_of_nextStop (h : nextStop target pending = some (entry, rest)) :
    ∃ passed, pending.flatten = passed ++ entry :: rest.flatten := by
  induction pending with
  | nil => cases h
  | cons level above ih =>
    rw [nextStop] at h
    have hlevel := List.takeWhile_append_dropWhile
      (p := fun entry : DirEntry => !(entry.isDir || entry.path.endsWith target)) (l := level)
    split at h
    · obtain ⟨passed, hpassed⟩ := ih h
      exact ⟨level ++ passed, by rw [List.flatten_cons, hpassed, List.append_assoc]⟩
    · next first others hd =>
      obtain ⟨rfl, rfl⟩ := Prod.mk.inj (Option.some.inj h)
      rw [hd] at hlevel
      exact ⟨_, by rw [List.flatten_cons, List.flatten_cons, ← List.cons_append,
        ← List.append_assoc, hlevel]⟩

theorem endsWith_of_nextStop (h : nextStop target pending = some (entry, rest))
    (hdir : entry.isDir = false) : entry.path.endsWith target = true := by
  induction pending with
  | nil => cases h
  | cons level above ih =>
    rw [nextStop] at h
    split at h
    · exact ih h
    · next first others hd =>
      obtain ⟨rfl, rfl⟩ := Prod.mk.inj (Option.some.inj h)
      have hne : level.dropWhile
          (fun entry => !(entry.isDir || entry.path.endsWith target)) ≠ [] := by
        rw [hd]
        exact List.cons_ne_nil _ _
      have hhead := List.head_dropWhile_not _ hne
      simp only [hd, List.head_cons, hdir, Bool.false_or, Bool.not_eq_eq_eq_not] at hhead
      exact hhead

inductive Walked (target : Path) :
    Nat → List (List DirEntry) → List Event → Except Failure (Option Path) → Prop where
  | exhausted {bound : Nat} {pending : List (List DirEntry)} :
    nextStop target pending = none → Walked target bound pending [] (.ok none)
  | found {bound : Nat} {pending rest : List (List DirEntry)} {entry : DirEntry} :
    nextStop target pending = some (entry, rest) → entry.isDir = false →
    Walked target bound pending [] (.ok (some entry.path))
  | unfinished {pending rest : List (List DirEntry)} {entry : DirEntry} :
    nextStop target pending = some (entry, rest) → entry.isDir = true →
    Walked target 0 pending [] (.error .unfinished)
  | failed {bound : Nat} {pending rest : List (List DirEntry)} {entry : DirEntry} (e : IoError) :
    nextStop target pending = some (entry, rest) → entry.isDir = true →
    Walked target (bound + 1) pending [⟨.listDir entry.path, .error e⟩]
      (.error (.search entry.path e))
  | entered {bound : Nat} {pending rest : List (List DirEntry)} {entry : DirEntry}
    {children : List DirEntry} {events : List Event} {result : Except Failure (Option Path)} :
    nextStop target pending = some (entry, rest) → entry.isDir = true →
    Walked target bound (children :: rest) events result →
    Walked target (bound + 1) pending (⟨.listDir entry.path, .ok children⟩ :: events) result

theorem Walked.execution (h : Walked target bound pending events result) :
    Execution (walkPending target bound pending) events result := by
  induction h with
  | exhausted hstop =>
    rw [walkPending, hstop]
    exact .done _
  | found hstop hdir =>
    rw [walkPending, hstop]
    simp only [hdir]
    exact .done _
  | unfinished hstop hdir =>
    rw [walkPending, hstop]
    simp only [hdir]
    exact .done _
  | failed e hstop hdir =>
    rw [walkPending, hstop]
    simp only [hdir]
    exact .call (.done _)
  | entered hstop hdir _ ih =>
    rw [walkPending, hstop]
    simp only [hdir]
    exact .call ih

theorem walked_of_execution (h : Execution (walkPending target bound pending) events result) :
    Walked target bound pending events result := by
  induction bound generalizing pending events with
  | zero =>
    rw [walkPending] at h
    split at h
    · next hstop =>
      obtain ⟨rfl, rfl⟩ := Execution.done_iff.1 h
      exact .exhausted hstop
    · next entry rest hstop =>
      split at h
      · next hdir =>
        obtain ⟨rfl, rfl⟩ := Execution.done_iff.1 h
        exact .unfinished hstop hdir
      · next hdir =>
        obtain ⟨rfl, rfl⟩ := Execution.done_iff.1 h
        exact .found hstop (Bool.eq_false_iff.2 hdir)
  | succ bound ih =>
    rw [walkPending] at h
    split at h
    · next hstop =>
      obtain ⟨rfl, rfl⟩ := Execution.done_iff.1 h
      exact .exhausted hstop
    · next entry rest hstop =>
      split at h
      · next hdir =>
        obtain ⟨answer, later, rfl, hlater⟩ := Execution.call_iff.1 h
        cases answer with
        | ok children => exact .entered hstop hdir (ih hlater)
        | error e =>
          obtain ⟨rfl, rfl⟩ := Execution.done_iff.1 hlater
          exact .failed e hstop hdir
      · next hdir =>
        obtain ⟨rfl, rfl⟩ := Execution.done_iff.1 h
        exact .found hstop (Bool.eq_false_iff.2 hdir)

theorem Walked.call_eq_listDir (h : Walked target bound pending events result) :
    ∀ e ∈ events, ∃ dir, e.call = .listDir dir := by
  induction h with
  | exhausted => simp
  | found => simp
  | unfinished => simp
  | @failed bound pending rest entry e =>
    intro e he
    exact ⟨entry.path, by rw [List.mem_singleton.1 he]⟩
  | @entered bound pending rest entry children events result _ _ _ ih =>
    intro e he
    rcases List.mem_cons.1 he with rfl | he
    · exact ⟨entry.path, rfl⟩
    · exact ih e he

theorem Walked.endsWith {path : Path} (h : Walked target bound pending events (.ok (some path))) :
    path.endsWith target = true := by
  generalize hr : (Except.ok (some path) : Except Failure (Option Path)) = r at h
  induction h with
  | exhausted => cases hr
  | found hstop hdir =>
    cases hr
    exact endsWith_of_nextStop hstop hdir
  | unfinished => cases hr
  | failed => cases hr
  | entered _ _ _ ih => exact ih hr

theorem Walked.mono {bound' : Nat} (h : Walked target bound pending events result)
    (hfinished : result ≠ .error .unfinished) (hle : bound ≤ bound') :
    Walked target bound' pending events result := by
  induction h generalizing bound' with
  | exhausted hstop => exact .exhausted hstop
  | found hstop hdir => exact .found hstop hdir
  | unfinished => exact absurd rfl hfinished
  | failed e hstop hdir =>
    cases bound' with
    | zero => omega
    | succ bound' => exact .failed e hstop hdir
  | entered hstop hdir _ ih =>
    cases bound' with
    | zero => omega
    | succ bound' => exact .entered hstop hdir (ih hfinished (Nat.le_of_succ_le_succ hle))

def ListsBelow : Event → Prop
  | ⟨.listDir dir, .ok entries⟩ => ∀ entry ∈ entries, entry.path.LiesBelow dir
  | _ => True

theorem Walked.lists_below (root : Path) (h : Walked target bound pending events result)
    (hevents : ∀ e ∈ events, ListsBelow e)
    (hpending : ∀ entry ∈ pending.flatten, entry.path.LiesBelow root) :
    (∀ e ∈ events, e.call.path.LiesBelow root) ∧
      ∀ path, result = .ok (some path) → path.LiesBelow root := by
  have hentry {pending rest : List (List DirEntry)} {entry : DirEntry}
      (hpending : ∀ entry ∈ pending.flatten, entry.path.LiesBelow root)
      (hstop : nextStop target pending = some (entry, rest)) :
      entry.path.LiesBelow root ∧ ∀ entry ∈ rest.flatten, entry.path.LiesBelow root := by
    obtain ⟨passed, hpassed⟩ := flatten_of_nextStop hstop
    rw [hpassed] at hpending
    exact ⟨hpending _ (by simp), fun e he => hpending e (by simp [he])⟩
  induction h with
  | exhausted => exact ⟨by simp, by simp⟩
  | found hstop =>
    refine ⟨by simp, fun path hpath => ?_⟩
    cases hpath
    exact (hentry hpending hstop).1
  | unfinished => exact ⟨by simp, by simp⟩
  | failed e hstop =>
    refine ⟨fun e he => ?_, by simp⟩
    rw [List.mem_singleton.1 he]
    exact (hentry hpending hstop).1
  | entered hstop hdir _ ih =>
    obtain ⟨hdirBelow, hrest⟩ := hentry hpending hstop
    have hchildren := hevents _ List.mem_cons_self
    obtain ⟨hcalls, hfound⟩ := ih (fun e he => hevents e (List.mem_cons_of_mem _ he)) (by
      intro entry he
      rw [List.flatten_cons, List.mem_append] at he
      rcases he with he | he
      · exact (hchildren entry he).of_isPrefix_right hdirBelow.isPrefix
      · exact hrest entry he)
    refine ⟨fun e he => ?_, hfound⟩
    rcases List.mem_cons.1 he with rfl | he
    · exact hdirBelow
    · exact hcalls e he

/-- To go on with the entries of a directory, which need not exist, is to list it first. -/
theorem execution_listing_iff {root : Path}
    {next : List DirEntry → Program (Except Failure (Option Path))} :
    Execution (do
      match ← listDir root with
      | .ok entries => next entries
      | .error e => if e.kind = .notFound then return .ok none else return .error (.search root e))
      events result ↔
      (∃ e, events = [⟨.listDir root, .error e⟩] ∧
        result = if e.kind = .notFound then .ok none else .error (.search root e)) ∨
      ∃ entries later, events = ⟨.listDir root, .ok entries⟩ :: later ∧
        Execution (next entries) later result := by
  rw [listDir, Program.ask_bind, Execution.call_iff]
  constructor
  · rintro ⟨answer, later, rfl, h⟩
    cases answer with
    | ok entries => exact .inr ⟨entries, later, rfl, h⟩
    | error e =>
      left
      refine ⟨e, ?_⟩
      dsimp only at h
      split at h
      all_goals
        next hkind =>
        obtain ⟨rfl, rfl⟩ := Execution.done_iff.1 h
        simp [hkind]
  · rintro (⟨e, rfl, rfl⟩ | ⟨entries, later, rfl, h⟩)
    · refine ⟨.error e, [], rfl, ?_⟩
      dsimp only
      split <;> exact .done _
    · exact ⟨.ok entries, later, rfl, h⟩

theorem execution_walk_iff {root : Path} :
    Execution (walk bound root target) events result ↔
      (∃ e, events = [⟨.listDir root, .error e⟩] ∧
        result = if e.kind = .notFound then .ok none else .error (.search root e)) ∨
      ∃ entries later, events = ⟨.listDir root, .ok entries⟩ :: later ∧
        Walked target bound [entries] later result := by
  refine execution_listing_iff.trans (or_congr_right ?_)
  constructor
  · rintro ⟨entries, later, rfl, h⟩
    exact ⟨entries, later, rfl, walked_of_execution h⟩
  · rintro ⟨entries, later, rfl, h⟩
    exact ⟨entries, later, rfl, h.execution⟩

section Walk

variable {root : Path}

theorem call_eq_listDir_of_walk (h : Execution (walk bound root target) events result) :
    ∀ e ∈ events, ∃ dir, e.call = .listDir dir := by
  intro e he
  rcases execution_walk_iff.1 h with ⟨error, rfl, -⟩ | ⟨entries, later, rfl, hwalk⟩
  · exact ⟨root, by rw [List.mem_singleton.1 he]⟩
  · rcases List.mem_cons.1 he with rfl | he
    · exact ⟨root, rfl⟩
    · exact hwalk.call_eq_listDir e he

theorem observes_of_walk (h : Execution (walk bound root target) events result) :
    ∀ e ∈ events, e.call.observes = true := by
  intro e he
  obtain ⟨dir, hdir⟩ := call_eq_listDir_of_walk h e he
  rw [hdir]
  rfl

theorem endsWith_of_walk {path : Path}
    (h : Execution (walk bound root target) events (.ok (some path))) :
    path.endsWith target = true := by
  rcases execution_walk_iff.1 h with ⟨error, rfl, hr⟩ | ⟨entries, later, rfl, hwalk⟩
  · split at hr <;> cases hr
  · exact hwalk.endsWith

theorem execution_walk_mono {bound' : Nat}
    (h : Execution (walk bound root target) events result)
    (hfinished : result ≠ .error .unfinished) (hle : bound ≤ bound') :
    Execution (walk bound' root target) events result := by
  rw [execution_walk_iff] at h ⊢
  rcases h with h | ⟨entries, later, rfl, hwalk⟩
  · exact .inl h
  · exact .inr ⟨entries, later, rfl, hwalk.mono hfinished hle⟩

theorem walk_below (h : Execution (walk bound root target) events result)
    (hevents : ∀ e ∈ events, ListsBelow e) :
    (∀ e ∈ events, root.components <+: e.call.path.components) ∧
      ∀ path, result = .ok (some path) → path.LiesBelow root := by
  rcases execution_walk_iff.1 h with ⟨error, rfl, rfl⟩ | ⟨entries, later, rfl, hwalk⟩
  · refine ⟨fun e he => ?_, fun path hpath => ?_⟩
    · rw [List.mem_singleton.1 he]
      exact List.prefix_rfl
    · split at hpath <;> cases hpath
  · have hroot := hevents _ List.mem_cons_self
    obtain ⟨hcalls, hfound⟩ := hwalk.lists_below root
      (fun e he => hevents e (List.mem_cons_of_mem _ he)) (by simpa [ListsBelow] using hroot)
    refine ⟨fun e he => ?_, hfound⟩
    rcases List.mem_cons.1 he with rfl | he
    · exact List.prefix_rfl
    · exact (hcalls e he).isPrefix

end Walk

/-- A locator that has walked for a doctype of an application. -/
def walked (locator : Locator) (app doctype : String) : Except Failure (Option Path) → Locator
  | .ok path => ⟨locator.appsPath, ((app, doctype), path) :: locator.found, locator.walks + 1⟩
  | .error _ => ⟨locator.appsPath, locator.found, locator.walks + 1⟩

theorem execution_locate_iff {locator after : Locator} {app doctype : String}
    (h : locator.remembered? app doctype = none) :
    Execution (locator.locate bound app doctype) events (result, after) ↔
      Execution (walk bound (locator.appsPath.join (.ofText app)) (schemaSuffix doctype)) events
          result ∧
        after = locator.walked app doctype result := by
  have hrun : locator.locate bound app doctype =
      (fun result => (result, locator.walked app doctype result)) <$>
        walk bound (locator.appsPath.join (.ofText app)) (schemaSuffix doctype) := by
    simp only [locate, h, ← bind_pure_comp]
    refine bind_congr fun result => ?_
    cases result <;> rfl
  rw [hrun, Execution.map_iff]
  constructor
  · rintro ⟨r, h, heq⟩
    obtain ⟨rfl, rfl⟩ := Prod.mk.inj heq
    exact ⟨h, rfl⟩
  · rintro ⟨h, rfl⟩
    exact ⟨result, h, rfl⟩

end DoctypeInterfaces.Locator
