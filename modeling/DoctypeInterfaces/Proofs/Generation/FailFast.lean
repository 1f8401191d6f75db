import DoctypeInterfaces.Proofs.Generation.Finishing
import DoctypeInterfaces.Proofs.Generation.Interrupted

namespace DoctypeInterfaces

open Storage

def Failure.path? : Failure → Option Path
  | .search dir _ => some dir
  | .schemaRead path _ => some path
  | .schemaDecode path _ => some path
  | .outputRead path _ => some path
  | .outputDir dir _ => some dir
  | .outputWrite path _ => some path
  | _ => none

namespace Storage.Event

/-- Whether a call makes a run fail: it has failed itself, or what it has read is no text or holds
no schema. -/
inductive Causes : Event → Failure → Prop where
  | search (dir : Path) (e : IoError) : Causes ⟨.listDir dir, .error e⟩ (.search dir e)
  | unread (path : Path) (e : IoError) : Causes ⟨.read path, .error e⟩ (.schemaRead path e)
  | noText {bytes : Bytes} {e : IoError} (path : Path) : textOfBytes bytes = .error e →
    Causes ⟨.read path, .ok bytes⟩ (.schemaRead path e)
  | noSchema {bytes : Bytes} {s : String} {e : Json.Error} (path : Path) :
    textOfBytes bytes = .ok s → DoctypeSchema.ofJson s = .error e →
    Causes ⟨.read path, .ok bytes⟩ (.schemaDecode path e)
  | outputRead {e : IoError} (path : Path) : e.kind ≠ .notFound →
    Causes ⟨.read path, .error e⟩ (.outputRead path e)
  | outputDir (dir : Path) (e : IoError) :
    Causes ⟨.createDirAll dir, .error e⟩ (.outputDir dir e)
  | outputWrite (path : Path) (bytes : Bytes) (e : IoError) :
    Causes ⟨.writeAtomic path bytes, .error e⟩ (.outputWrite path e)

/-- Whether a run that looks for schemas, for applications in the given directories, goes on after a
call: it has succeeded, and what it has read is a schema, or it was to list one of these directories
and there is none. -/
inductive Passes (dirs : List Path) : Event → Prop where
  | listed (dir : Path) (entries : List DirEntry) : Passes dirs ⟨.listDir dir, .ok entries⟩
  | absent {dir : Path} {e : IoError} : dir ∈ dirs → e.kind = .notFound →
    Passes dirs ⟨.listDir dir, .error e⟩
  | decoded {bytes : Bytes} {schema : DoctypeSchema} (path : Path) :
    schemaOfBytes? bytes = some schema → Passes dirs ⟨.read path, .ok bytes⟩
  | created (dir : Path) : Passes dirs ⟨.createDirAll dir, .ok ()⟩

theorem Causes.path_eq {e : Event} {failure : Failure} (h : e.Causes failure) :
    failure.path? = some e.call.path := by
  cases h <;> rfl

theorem Causes.failed_or_unreadable {e : Event} {failure : Failure} (h : e.Causes failure) :
    (∃ error, e.answer = e.call.failure error) ∨
      ∃ path bytes, e = ⟨.read path, .ok bytes⟩ ∧ schemaOfBytes? bytes = none := by
  cases h with
  | search dir e => exact .inl ⟨e, rfl⟩
  | unread path e => exact .inl ⟨e, rfl⟩
  | noText path htext => exact .inr ⟨path, _, rfl, by rw [schemaOfBytes?, htext]; rfl⟩
  | noSchema path htext hjson =>
    refine .inr ⟨path, _, rfl, ?_⟩
    rw [schemaOfBytes?, htext]
    change (DoctypeSchema.ofJson _).toOption = none
    rw [hjson]
    rfl
  | outputRead path hkind => exact .inl ⟨_, rfl⟩
  | outputDir dir e => exact .inl ⟨e, rfl⟩
  | outputWrite path bytes e => exact .inl ⟨e, rfl⟩

end Storage.Event

/-- Whether the last of the events causes the failure, and a run goes on after each of the
others. -/
def FailsLast (dirs : List Path) (events : List Event) (failure : Failure) : Prop :=
  ∃ front last, events = front ++ [last] ∧ last.Causes failure ∧ ∀ e ∈ front, e.Passes dirs

section Parts

variable {dirs : List Path} {events first : List Event} {failure : Failure} {bound : Nat}

theorem failsLast_singleton {e : Event} (h : e.Causes failure) : FailsLast dirs [e] failure :=
  ⟨[], e, rfl, h, by simp⟩

theorem FailsLast.append (hfirst : ∀ e ∈ first, e.Passes dirs) (h : FailsLast dirs events failure) :
    FailsLast dirs (first ++ events) failure := by
  obtain ⟨front, last, rfl, hlast, hfront⟩ := h
  exact ⟨first ++ front, last, (List.append_assoc _ _ _).symm, hlast,
    List.forall_mem_append.2 ⟨hfirst, hfront⟩⟩

namespace Locator

variable {target : Path} {pending : List (List DirEntry)} {found : Option Path}

theorem Walked.passes (h : Walked target bound pending events (.ok found)) :
    ∀ e ∈ events, e.Passes dirs := by
  generalize hresult : (Except.ok found : Except Failure (Option Path)) = result at h
  induction h with
  | exhausted => simp
  | found => simp
  | unfinished => cases hresult
  | failed => cases hresult
  | entered _ _ _ ih => exact List.forall_mem_cons.2 ⟨.listed _ _, ih hresult⟩

theorem Walked.failsLast (hfinished : failure ≠ .unfinished)
    (h : Walked target bound pending events (.error failure)) : FailsLast dirs events failure := by
  generalize hresult : (Except.error failure : Except Failure (Option Path)) = result at h
  induction h with
  | exhausted => cases hresult
  | found => cases hresult
  | unfinished => exact absurd (Except.error.inj hresult) hfinished
  | failed e =>
    rw [Except.error.inj hresult]
    exact failsLast_singleton (.search _ e)
  | @entered _ _ _ entry children later _ _ _ _ ih =>
    have hlisted : ∀ e ∈ [(⟨.listDir entry.path, .ok children⟩ : Event)], e.Passes dirs :=
      List.forall_mem_singleton.2 (.listed _ _)
    exact (ih hresult).append hlisted

variable {root : Path}

theorem passes_of_walk (hroot : root ∈ dirs)
    (h : Execution (walk bound root target) events (.ok found)) : ∀ e ∈ events, e.Passes dirs := by
  rcases execution_walk_iff.1 h with ⟨e, rfl, hfound⟩ | ⟨entries, later, rfl, hwalked⟩
  · split at hfound
    · next hkind => exact List.forall_mem_singleton.2 (.absent hroot hkind)
    · cases hfound
  · exact List.forall_mem_cons.2 ⟨.listed _ _, hwalked.passes⟩

theorem failsLast_of_walk (hfinished : failure ≠ .unfinished)
    (h : Execution (walk bound root target) events (.error failure)) :
    FailsLast dirs events failure := by
  rcases execution_walk_iff.1 h with ⟨e, rfl, hfailure⟩ | ⟨entries, later, rfl, hwalked⟩
  · split at hfailure
    · cases hfailure
    · rw [Except.error.inj hfailure]
      exact failsLast_singleton (.search _ e)
  · have hlisted : ∀ e ∈ [(⟨.listDir root, .ok entries⟩ : Event)], e.Passes dirs :=
      List.forall_mem_singleton.2 (.listed _ _)
    exact (hwalked.failsLast hfinished).append hlisted

end Locator

theorem failsLast_of_loadSchema {path : Path}
    (h : Execution (loadSchema path) events (.error failure)) : FailsLast dirs events failure := by
  rw [loadSchema] at h
  obtain ⟨text, read, rest, hread, hrest, rfl⟩ := Execution.bind_iff.1 h
  obtain ⟨answer, rfl, rfl⟩ := execution_readText_iff.1 hread
  cases answer with
  | error e =>
    obtain ⟨rfl, hfailure⟩ := Execution.done_iff.1 hrest
    rw [Except.error.inj hfailure]
    exact failsLast_singleton (.unread path e)
  | ok bytes =>
    dsimp only [Except.bind] at hrest
    cases htext : textOfBytes bytes with
    | error e =>
      rw [htext] at hrest
      obtain ⟨rfl, hfailure⟩ := Execution.done_iff.1 hrest
      rw [Except.error.inj hfailure]
      exact failsLast_singleton (.noText path htext)
    | ok s =>
      rw [htext] at hrest
      obtain ⟨rfl, hdecoded⟩ := Execution.done_iff.1 hrest
      cases hjson : DoctypeSchema.ofJson s with
      | ok schema =>
        rw [hjson] at hdecoded
        cases hdecoded
      | error e =>
        rw [hjson] at hdecoded
        rw [Except.error.inj hdecoded]
        exact failsLast_singleton (.noSchema path htext hjson)

section Lookups

variable {appsPath : Path} {app doctype : String}

theorem Lookup.Holds.passes {lookup : Lookup} (h : lookup.Holds bound appsPath)
    (hdir : appsPath.join (.ofText lookup.app) ∈ dirs) : ∀ e ∈ lookup.events, e.Passes dirs := by
  obtain ⟨walked, read, hevents, hwalk, hread⟩ := execution_findSchema_ok_iff.1 h
  have hwalked := Locator.passes_of_walk hdir hwalk
  rw [hevents]
  refine List.forall_mem_append.2 ⟨hwalked, ?_⟩
  cases hfound : lookup.found with
  | none =>
    simp only [hfound] at hread
    simp [hread]
  | some found =>
    simp only [hfound] at hread
    obtain ⟨bytes, rfl, hschema⟩ := execution_loadSchema_ok_iff.1 hread
    exact List.forall_mem_singleton.2 (.decoded _ hschema)

theorem failsLast_of_findSchema (hfinished : failure ≠ .unfinished)
    (hdir : appsPath.join (.ofText app) ∈ dirs)
    (h : Execution (findSchema bound appsPath app doctype) events (.error failure)) :
    FailsLast dirs events failure := by
  rcases execution_findSchema_error_iff.1 h with hwalk | ⟨path, walked, read, hwalk, hload, rfl⟩
  · exact Locator.failsLast_of_walk hfinished hwalk
  · exact (failsLast_of_loadSchema hload).append (Locator.passes_of_walk hdir hwalk)

theorem passes_flatMap {lookups : List Lookup}
    (hholds : ∀ lookup ∈ lookups, lookup.Holds bound appsPath)
    (hdirs : ∀ lookup ∈ lookups, appsPath.join (.ofText lookup.app) ∈ dirs) :
    ∀ e ∈ lookups.flatMap Lookup.events, e.Passes dirs := by
  intro e he
  obtain ⟨lookup, hlookup, he⟩ := List.mem_flatMap.1 he
  exact (hholds lookup hlookup).passes (hdirs lookup hlookup) e he

end Lookups

theorem failsLast_of_replaced {path : Path} {content : String}
    (h : Replaced path content events (.error failure)) : FailsLast dirs events failure := by
  cases h with
  | dirFailed dir e => exact failsLast_singleton (.outputDir dir e)
  | writeFailed e =>
    refine (failsLast_singleton (.outputWrite path _ e)).append ?_
    intro event hevent
    obtain ⟨dir, -, rfl⟩ := Option.map_eq_some_iff.1 (Option.mem_toList.1 hevent)
    exact .created dir

end Parts

/-- How a run fails: in reading the earlier output, in a lookup after it has completed those before
it, depth first, or in writing the output after it has completed all of them. -/
inductive CutShort (bound : Nat) (options : GenerationOptions) (roots : Roots) :
    List Event → Failure → Prop where
  | reading {e : IoError} : e.kind ≠ .notFound →
    CutShort bound options roots [⟨.read options.outputPath, .error e⟩]
      (.outputRead options.outputPath e)
  | resolving {answer : Except IoError Bytes} {lookups : List Lookup} {app doctype : String}
    {failing : List Event} {failure : Failure} :
    (∀ e, answer = .error e → e.kind = .notFound) →
    Interrupted (.onOutput options.appsPath (.ofAnswer answer)) roots.pairs lookups
      (app, doctype) →
    (∀ lookup ∈ lookups, lookup.Holds bound options.appsPath) →
    Execution (findSchema bound options.appsPath app doctype) failing (.error failure) →
    CutShort bound options roots
      (⟨.read options.outputPath, answer⟩ :: (lookups.flatMap Lookup.events ++ failing)) failure
  | writing {answer : Except IoError Bytes} {resolved : Progress} {lookups : List Lookup}
    {emitted : List DoctypeSchema} {failing : List Event} {failure : Failure} :
    (∀ e, answer = .error e → e.kind = .notFound) →
    Resolved (.onOutput options.appsPath (.ofAnswer answer)) roots.pairs lookups emitted resolved →
    (∀ lookup ∈ lookups, lookup.Holds bound options.appsPath) → options.dryRun = false →
    Replaced options.outputPath resolved.interfaces.render failing (.error failure) →
    CutShort bound options roots
      (⟨.read options.outputPath, answer⟩ :: (lookups.flatMap Lookup.events ++ failing)) failure

section Runs

variable {bound : Nat} {options : GenerationOptions} {roots : Roots} {events : List Event}
  {failure : Failure} {after : Progress}

theorem execution_loadOutput_error {path : Path}
    (h : Execution (loadOutput path) events (.error failure)) :
    ∃ e, e.kind ≠ .notFound ∧ events = [⟨.read path, .error e⟩] ∧ failure = .outputRead path e := by
  rw [loadOutput, Storage.read, Program.ask_bind] at h
  obtain ⟨answer, rest, rfl, hrest⟩ := Execution.call_iff.1 h
  cases answer with
  | ok bytes => cases (Execution.done_iff.1 hrest).2
  | error e =>
    dsimp only at hrest
    split at hrest
    · cases (Execution.done_iff.1 hrest).2
    · next hkind =>
      obtain ⟨rfl, hfailure⟩ := Execution.done_iff.1 hrest
      exact ⟨e, hkind, rfl, Except.error.inj hfailure⟩

theorem cutShort_of_ends (hfinished : failure ≠ .unfinished)
    (h : Resolution.Ends (generation bound options roots) (.start options.appsPath) events
      (.error failure) after) : CutShort bound options roots events failure := by
  rcases Resolution.cases_of_ends_generation_error h with hfailed |
    ⟨earlier, reading, rest, hearlier, rfl, hrest⟩
  · obtain ⟨e, hkind, rfl, rfl⟩ := execution_loadOutput_error hfailed
    exact .reading hkind
  · obtain ⟨answer, rfl, rfl, hanswer⟩ := execution_loadOutput_ok_iff.1 hearlier
    have hstart : (Progress.onOutput options.appsPath (.ofAnswer answer)).Consistent
        options.appsPath := Progress.consistent_start
    rcases hrest with hresolving | ⟨resolved, resolving, writing, hresolving, hfinish, rfl⟩
    · have hone : ∀ {app doctype before events after}, before.Consistent options.appsPath →
          Resolution.Ends (Resolution.resolve bound app bound doctype) before events
            (.error failure) after →
          Resolution.Interrupts bound options.appsPath before [(app, doctype)] events failure :=
        fun hbefore => Resolution.interrupts_of_ends_resolve hfinished hbefore
      obtain ⟨lookups, app, doctype, failing, hinterrupted, hholds, hfailing, rfl⟩ :=
        Resolution.interrupts_of_ends_forM hone hstart hresolving
      exact .resolving hanswer hinterrupted hholds hfailing
    · obtain ⟨lookups, emitted, hresolved, hholds, rfl⟩ := resolves_of_ends_resolveRoots hresolving
      obtain ⟨-, hreal, -, hreplaced⟩ := Resolution.ends_finish_error hfinish
      exact .writing hanswer hresolved hholds hreal hreplaced

def appDirs (options : GenerationOptions) (roots : Roots) : List Path :=
  roots.pairs.map fun root => options.appsPath.join (.ofText root.1)

/-- Whether the last call of a run causes the failure, and is about the path that the failure names,
while the first call has read the earlier output, or has found none, and a run goes on after each
call between them. -/
structure FailsFast (options : GenerationOptions) (roots : Roots) (failure : Failure)
    (front : List Event) (last : Event) : Prop where
  causes : last.Causes failure
  failed : (∃ error, last.answer = last.call.failure error) ∨
    ∃ path bytes, last = ⟨.read path, .ok bytes⟩ ∧ schemaOfBytes? bytes = none
  path : failure.path? = some last.call.path
  first : ∀ e ∈ front.head?, ∃ answer, e = ⟨.read options.outputPath, answer⟩ ∧
    ∀ error, answer = .error error → error.kind = .notFound
  passed : ∀ e ∈ front.tail, e.Passes (appDirs options roots)

theorem FailsLast.failsFast {answer : Except IoError Bytes}
    (hanswer : ∀ e, answer = .error e → e.kind = .notFound)
    (h : FailsLast (appDirs options roots) events failure) :
    ∃ front last, ⟨.read options.outputPath, answer⟩ :: events = front ++ [last] ∧
      FailsFast options roots failure front last := by
  obtain ⟨passed, last, rfl, hlast, hpassed⟩ := h
  refine ⟨⟨.read options.outputPath, answer⟩ :: passed, last, rfl, hlast,
    hlast.failed_or_unreadable, hlast.path_eq, ?_, hpassed⟩
  intro e he
  obtain rfl := Option.some.inj he
  exact ⟨answer, rfl, hanswer⟩

/-- A run that is cut short ends with the call that causes its failure. -/
theorem CutShort.failsFast (hfinished : failure ≠ .unfinished)
    (h : CutShort bound options roots events failure) :
    ∃ front last, events = front ++ [last] ∧ FailsFast options roots failure front last := by
  have hroots : ∀ root ∈ roots.pairs,
      options.appsPath.join (.ofText root.1) ∈ appDirs options roots :=
    fun root hroot => List.mem_map_of_mem hroot
  cases h with
  | reading hkind =>
    exact ⟨[], _, rfl, .outputRead _ hkind, .inl ⟨_, rfl⟩, rfl, by simp, by simp⟩
  | resolving hanswer hinterrupted hholds hfailing =>
    obtain ⟨hdirs, hdir⟩ := hinterrupted.forall_app
      (p := fun app => options.appsPath.join (.ofText app) ∈ appDirs options roots) hroots
    have hfails := failsLast_of_findSchema hfinished hdir hfailing
    exact (hfails.append (passes_flatMap hholds hdirs)).failsFast hanswer
  | writing hanswer hresolved hholds _ hreplaced =>
    have hdirs := hresolved.forall_app
      (p := fun app => options.appsPath.join (.ofText app) ∈ appDirs options roots) hroots
    have hfails : FailsLast (appDirs options roots) _ failure := failsLast_of_replaced hreplaced
    exact (hfails.append (passes_flatMap hholds hdirs)).failsFast hanswer

/-- In memory, where listings and other calls may fail, a run that fails has been cut short by the
call that causes the failure, and makes no call after that. -/
theorem failsFast_of_recordRun {observed : Observed Memory} {run : RecordedRun (Observed Memory)}
    (hrun : run = recordRun (Observed.answer Memory.answer) observed bound options roots)
    (hdistinct : observed.storage.tree.DistinctDirs) (hle : observed.storage.extent ≤ bound)
    (hfailed : run.result = .error failure) :
    CutShort bound options roots run.events failure ∧
      ∃ front last, run.events = front ++ [last] ∧
        FailsFast options roots failure front last := by
  have hdirs := observed.storage.dirs_length_le_extent
  have hlinked := observed.storage.card_linkedDoctypes_lt_extent
  obtain ⟨hends, -⟩ := recordRun_eq_iff.1 hrun.symm
  obtain ⟨hresult, -, -⟩ := finishes_of_isBehind Observed.isBehind hrun hdistinct
    (hdirs.trans hle) (hlinked.trans_le hle)
  have hfinished : failure ≠ .unfinished := by
    rintro rfl
    exact hresult hfailed
  rw [hfailed] at hends
  have hcut := cutShort_of_ends hfinished hends
  exact ⟨hcut, hcut.failsFast hfinished⟩

end Runs

section Slow

/-- The bills, where the schema of the item cannot be read. -/
def slowStorage : Observed Memory :=
  ⟨billStorage, [⟨.read, (.ofText "/s/doctype/i/i.json"), ⟨.timedOut, ""⟩⟩], []⟩

def slowRoots : Roots :=
  billRoots.add "s" "z"

theorem slowRun :
    billStorage.extent ≤ 100 ∧
      (failure? (recordRun (Observed.answer Memory.answer) slowStorage 100 billOptions
        slowRoots).result).bind Failure.path? = some (.ofText "/s/doctype/i/i.json") := by
  decide +kernel

/-- The bill leads to the item, whose schema cannot be read, so nothing is looked up after it. -/
theorem slow_item_fails_fast :
    ∃ failure front last,
      (recordRun (Observed.answer Memory.answer) slowStorage 100 billOptions slowRoots).result =
        .error failure ∧
      (recordRun (Observed.answer Memory.answer) slowStorage 100 billOptions slowRoots).events =
        front ++ [last] ∧
      FailsFast billOptions slowRoots failure front last ∧
      last.call.path = (.ofText "/s/doctype/i/i.json") := by
  obtain ⟨hextent, hpath⟩ := slowRun
  have hdistinct : slowStorage.storage.tree.DistinctDirs := by
    rw [MemoryTree.DistinctDirs]
    decide
  cases hresult : (recordRun (Observed.answer Memory.answer) slowStorage 100 billOptions
      slowRoots).result with
  | ok report =>
    rw [hresult] at hpath
    cases hpath
  | error failure =>
    rw [hresult] at hpath
    obtain ⟨-, front, last, hevents, hfails⟩ := failsFast_of_recordRun (rfl : recordRun
      (Observed.answer Memory.answer) slowStorage 100 billOptions slowRoots = _) hdistinct hextent
      hresult
    have hlast : some last.call.path = some (.ofText "/s/doctype/i/i.json") :=
      hfails.path.symm.trans hpath
    exact ⟨failure, front, last, rfl, hevents, hfails, Option.some.inj hlast⟩

end Slow

end DoctypeInterfaces
