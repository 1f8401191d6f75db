import DoctypeInterfaces.Proofs.Scheduling.Jobs

namespace DoctypeInterfaces.Scheduling

open Storage

variable {bound : Nat} {appsPath : Path} {progress before middle after : Progress}
  {front back : List Job} {job : Job} {events rest : List Event} {lookup : Lookup}
  {requests later : List (String × String)}

section Lookups

variable {last : Move}

/-- Whether a job that moves in one way first comes to another move in turns. -/
def LeadsTo (bound : Nat) (front : List Job) (job : Job) (back : List Job)
    (first : Except Failure Move) (events : List Event) (last : Move) : Prop :=
  ∃ move, first = .ok move ∧
    Turns bound move.progress (moved front job back move.stage move.children) events
      last.progress (moved front job back last.stage last.children)

theorem LeadsTo.of_eq {first : Except Failure Move} (h : first = .ok last) :
    LeadsTo bound front job back first [] last :=
  ⟨last, h, .refl _ _⟩

theorem LeadsTo.head {stage : Stage} {program : Program (Except Failure Move)}
    {first : Except Failure Move} {e : Event}
    (hresume : resume bound progress { job with stage := stage } = some program)
    (hprogram : Execution program [e] first)
    (h : LeadsTo bound front job back first events last) :
    LeadsTo bound front job back (.ok ⟨progress, stage, []⟩) (e :: events) last := by
  obtain ⟨move, rfl, hturns⟩ := h
  have hall := Turns.head (.advanced hresume hprogram) hturns
  rw [← moved_nil] at hall
  exact ⟨_, rfl, hall⟩

theorem leadsTo_search {program : Program (Except Failure (Option Path))} {path? : Option Path}
    (h : Execution program events (.ok path?))
    (hlast : LeadsTo bound front job back
      (foundMove (progress.remembering job.app job.doctype path?) job.doctype path?) rest last) :
    LeadsTo bound front job back (searchMove progress job.app job.doctype program)
      (events ++ rest) last := by
  induction program generalizing events with
  | done result =>
    obtain ⟨rfl, rfl⟩ := Execution.done_iff.1 h
    exact hlast
  | call c next ih =>
    obtain ⟨answer, events, rfl, hnext⟩ := Execution.call_iff.1 h
    exact .head rfl (.call (.done _)) (ih answer hnext)

theorem leadsTo_load {program : Program (Except Failure DoctypeSchema)} {schema : DoctypeSchema}
    (h : Execution program events (.ok schema))
    (hlast : LeadsTo bound front job back
      (loadMove progress job.doctype (.done (.ok schema))) rest last) :
    LeadsTo bound front job back (loadMove progress job.doctype program) (events ++ rest)
      last := by
  induction program generalizing events with
  | done result =>
    obtain ⟨rfl, rfl⟩ := Execution.done_iff.1 h
    exact hlast
  | call c next ih =>
    obtain ⟨answer, events, rfl, hnext⟩ := Execution.call_iff.1 h
    exact .head rfl (.call (.done _)) (ih answer hnext)

def lookedUpMove (progress : Progress) (doctype : String) :
    Option DoctypeSchema → Except Failure Move
  | none => foundMove progress doctype none
  | some schema => loadMove progress doctype (.done (.ok schema))

theorem turns_lookup (hholds : lookup.Holds bound appsPath)
    (hconsistent : before.Consistent appsPath) (hnew : lookup.doctype ∉ before.processed)
    (hlast : lookedUpMove (before.lookedUp lookup) lookup.doctype lookup.schema? = .ok last)
    (parent : Option Nat) (front back : List Job) :
    Turns bound before (front ++ ⟨parent, lookup.app, lookup.doctype, .requested⟩ :: back)
      lookup.events last.progress
      (moved front ⟨parent, lookup.app, lookup.doctype, .requested⟩ back last.stage
        last.children) := by
  obtain ⟨app, doctype, found, events⟩ := lookup
  obtain ⟨walked, read, rfl, hwalk, hread⟩ := execution_findSchema_ok_iff.1 hholds
  have hbegin : beginMove bound before app doctype =
      searchMove (before.entered doctype).searching app doctype
        (Locator.walk bound (appsPath.join (.ofText app)) (schemaSuffix doctype)) := by
    rw [beginMove, if_neg fun h => hnew (List.contains_iff_mem.1 h), hconsistent.2 _ _ hnew,
      hconsistent.1]
  have hleads : LeadsTo bound front ⟨parent, app, doctype, .requested⟩ back
      (beginMove bound before app doctype) (walked ++ read) last := by
    rw [hbegin]
    refine leadsTo_search hwalk ?_
    cases found with
    | none =>
      obtain rfl : read = [] := hread
      exact .of_eq hlast
    | some found =>
      have hload : LeadsTo bound front ⟨parent, app, doctype, .requested⟩ back
          (loadMove (before.lookedUp ⟨app, doctype, some found, walked ++ read⟩) doctype
            (loadSchema found.1)) (read ++ []) last := leadsTo_load hread (.of_eq hlast)
      rw [List.append_nil] at hload
      exact hload
  obtain ⟨move, hmove, hturns⟩ := hleads
  have hfirst : Execution (.done (beginMove bound before app doctype)) [] (.ok move) := by
    rw [hmove]
    exact .done _
  have hall := Turns.head (.advanced rfl hfirst) hturns
  exact hall

end Lookups

def RequestedAmong (count : Nat) (jobs : List Job) : Prop :=
  ∀ job ∈ jobs, ¬ job.HasEnded → ∀ index, job.parent = some index → index < count

section RequestedAmong

variable {count : Nat} {jobs later : List Job}

theorem requestedAmong_append :
    RequestedAmong count (jobs ++ later) ↔ RequestedAmong count jobs ∧ RequestedAmong count later :=
  List.forall_mem_append

theorem RequestedAmong.mono (h : RequestedAmong count jobs) {larger : Nat} (hle : count ≤ larger) :
    RequestedAmong larger jobs := by
  intro job hjob hwaiting index hindex
  exact (h job hjob hwaiting index hindex).trans_le hle

theorem requestedAmong_of_ended (h : ∀ job ∈ jobs, job.HasEnded) : RequestedAmong count jobs := by
  intro job hjob hwaiting
  exact absurd (h job hjob) hwaiting

theorem requestedAmong_requestedBy {parent : Option Nat}
    (h : ∀ index, parent = some index → index < count) :
    RequestedAmong count (requestedBy parent requests) := by
  intro job hjob _
  obtain ⟨request, -, rfl⟩ := List.mem_map.1 hjob
  exact h

theorem RequestedAmong.awaiting {parent : Option Nat} {app doctype : String}
    (h : RequestedAmong count (requestedBy parent [(app, doctype)])) (schema : DoctypeSchema) :
    RequestedAmong count [⟨parent, app, doctype, .awaiting schema⟩] := by
  intro job hjob _
  obtain rfl := List.mem_singleton.1 hjob
  refine h ⟨parent, app, doctype, .requested⟩ (List.mem_singleton_self _) ?_
  rintro ⟨outcome, hended⟩
  cases hended

end RequestedAmong

/-- Whether requests, by whichever job, can be resolved before any other job goes on. No other job
waits for the new ones, as the jobs that have not ended come from jobs in front. -/
def Completes (bound : Nat) (before : Progress) (requests : List (String × String))
    (events : List Event) (after : Progress) : Prop :=
  ∀ (parent : Option Nat) (front back : List Job),
    RequestedAmong front.length (front ++ (requestedBy parent requests ++ back)) →
    ∃ done later, (∀ job ∈ done ++ later, job.HasEnded) ∧
      Turns bound before (front ++ (requestedBy parent requests ++ back)) events after
        (front ++ (done ++ (back ++ later)))

/-- A job waits until its child jobs have ended. -/
theorem turns_joined {schema : DoctypeSchema} (hstage : job.stage = .awaiting schema)
    (hamong : RequestedAmong front.length (front ++ job :: back))
    (hinner : Completes bound before (schema.childDoctypes.map fun child => (job.app, child)) events
      middle) :
    ∃ later, (∀ other ∈ later, other.HasEnded) ∧
      Turns bound before (moved front job back job.stage schema.childDoctypes) events
        (middle.emitted schema.toInterface)
        (front ++ { job with stage := .ended (some .updated) } :: (back ++ later)) := by
  have hlt : front.length < (front ++ job :: back).length := by
    rw [List.length_append, List.length_cons]
    omega
  have hchildren : RequestedAmong (front ++ job :: back).length
      (requestedBy (some front.length)
        (schema.childDoctypes.map fun child => (job.app, child))) :=
    requestedAmong_requestedBy fun index hindex => Option.some.inj hindex ▸ hlt
  obtain ⟨done, later, hended, hturns⟩ := hinner (some front.length) (front ++ job :: back) [] (by
    rw [List.append_nil, requestedAmong_append]
    exact ⟨hamong.mono hlt.le, hchildren⟩)
  -- Only the new jobs have been requested by this one, and they have ended.
  have hjoined : ∀ child ∈ front ++ job :: (back ++ (done ++ later)),
      child.parent = some front.length → child.HasEnded := by
    intro child hchild hparent
    by_contra hwaiting
    rw [← List.cons_append, ← List.append_assoc] at hchild
    have hall := requestedAmong_append.2 ⟨hamong, requestedAmong_of_ended hended⟩
    exact lt_irrefl _ (hall child hchild hwaiting front.length hparent)
  have hlast : Turns bound middle _ [] _ _ := .single (.joined hstage hjoined)
  rw [moved_nil] at hlast
  refine ⟨done ++ later, hended, ?_⟩
  simp only [moved, List.append_assoc, List.cons_append, List.nil_append, List.append_nil]
    at hturns ⊢
  have hall := hturns.trans hlast
  rwa [List.append_nil] at hall

namespace Completes

theorem nil (progress : Progress) : Completes bound progress [] [] progress := by
  intro parent front back _
  refine ⟨[], [], by simp, ?_⟩
  rw [List.append_nil]
  exact .refl _ _

theorem append (h : Completes bound before requests events middle)
    (hlater : Completes bound middle later rest after) :
    Completes bound before (requests ++ later) (events ++ rest) after := by
  intro parent front back hamong
  have hrequested : requestedBy parent (requests ++ later) =
      requestedBy parent requests ++ requestedBy parent later := List.map_append
  rw [hrequested, List.append_assoc] at hamong ⊢
  obtain ⟨done, new, hended, hturns⟩ := h parent front _ hamong
  obtain ⟨hdone, hnew⟩ := List.forall_mem_append.1 hended
  simp only [requestedAmong_append] at hamong
  obtain ⟨hfront, -, hrest, hback⟩ := hamong
  have hle : front.length ≤ (front ++ done).length := by
    rw [List.length_append]
    exact Nat.le_add_right _ _
  have hmore : RequestedAmong (front ++ done).length
      ((front ++ done) ++ (requestedBy parent later ++ (back ++ new))) := by
    simp only [requestedAmong_append]
    exact ⟨⟨hfront.mono hle, requestedAmong_of_ended hdone⟩, hrest.mono hle, hback.mono hle,
      requestedAmong_of_ended hnew⟩
  obtain ⟨moreDone, moreNew, hmoreEnded, hmoreTurns⟩ := hlater parent _ _ hmore
  obtain ⟨hmoreDone, hmoreNew⟩ := List.forall_mem_append.1 hmoreEnded
  refine ⟨done ++ moreDone, new ++ moreNew, ?_, ?_⟩
  · simp only [List.forall_mem_append]
    exact ⟨⟨hdone, hmoreDone⟩, hnew, hmoreNew⟩
  · simp only [List.append_assoc] at hturns hmoreTurns ⊢
    exact hturns.trans hmoreTurns

theorem of_turns {app doctype : String} {outcome : Option Outcome}
    (h : ∀ (parent : Option Nat) (front back : List Job),
      Turns bound before (front ++ ⟨parent, app, doctype, .requested⟩ :: back) events after
        (moved front ⟨parent, app, doctype, .requested⟩ back (.ended outcome) [])) :
    Completes bound before [(app, doctype)] events after := by
  intro parent front back _
  refine ⟨[⟨parent, app, doctype, .ended outcome⟩], [], ?_, ?_⟩
  · intro job hjob
    obtain rfl := List.mem_singleton.1 hjob
    exact ⟨outcome, rfl⟩
  · have hturns := h parent front back
    rw [moved_nil] at hturns
    rw [List.append_nil]
    exact hturns

theorem known {app doctype : String} (h : doctype ∈ before.processed) :
    Completes bound before [(app, doctype)] [] before := by
  apply of_turns
  intro parent front back
  have hbegin : Execution (.done (beginMove bound before app doctype)) []
      (.ok ⟨before, .ended none, []⟩) := by
    rw [beginMove, if_pos (List.contains_iff_mem.2 h)]
    exact .done _
  exact .single (.advanced rfl hbegin)

section Lookups

variable (hholds : lookup.Holds bound appsPath) (hconsistent : before.Consistent appsPath)
  (hnew : lookup.doctype ∉ before.processed)

include hholds hconsistent hnew

theorem missing (hnone : lookup.found = none) :
    Completes bound before [(lookup.app, lookup.doctype)] lookup.events
      ((before.lookedUp lookup).missed lookup.doctype) := by
  have hmove : lookedUpMove (before.lookedUp lookup) lookup.doctype lookup.schema? =
      .ok ⟨(before.lookedUp lookup).missed lookup.doctype, .ended (some .notFound), []⟩ := by
    rw [Lookup.schema?_eq_none hnone]
    rfl
  exact of_turns (turns_lookup hholds hconsistent hnew hmove)

variable {schema : DoctypeSchema} (hschema : lookup.schema? = some schema)

include hschema

theorem current
    (hcurrent : before.interfaces.isCurrent schema.interfaceName schema.modified = true) :
    Completes bound before [(lookup.app, lookup.doctype)] lookup.events
      ((before.lookedUp lookup).passed lookup.doctype) := by
  have hmove : lookedUpMove (before.lookedUp lookup) lookup.doctype lookup.schema? =
      .ok ⟨(before.lookedUp lookup).passed lookup.doctype, .ended (some .skipped), []⟩ := by
    rw [hschema]
    exact if_pos hcurrent
  exact of_turns (turns_lookup hholds hconsistent hnew hmove)

theorem emitted
    (hcurrent : before.interfaces.isCurrent schema.interfaceName schema.modified = false)
    (hinner : Completes bound ((before.lookedUp lookup).announced lookup.doctype)
      (schema.childDoctypes.map fun child => (lookup.app, child)) events middle) :
    Completes bound before [(lookup.app, lookup.doctype)] (lookup.events ++ events)
      (middle.emitted schema.toInterface) := by
  intro parent front back hamong
  simp only [requestedAmong_append] at hamong
  obtain ⟨hfront, hjob, hback⟩ := hamong
  have hmove : lookedUpMove (before.lookedUp lookup) lookup.doctype lookup.schema? =
      .ok ⟨(before.lookedUp lookup).announced lookup.doctype, .awaiting schema,
        schema.childDoctypes⟩ := by
    rw [hschema, ← schema.map_related]
    exact if_neg (Bool.eq_false_iff.1 hcurrent)
  have hturns := turns_lookup hholds hconsistent hnew hmove parent front back
  have hwaiting : RequestedAmong front.length
      (front ++ ⟨parent, lookup.app, lookup.doctype, .awaiting schema⟩ :: back) :=
    requestedAmong_append.2 ⟨hfront, requestedAmong_append.2 ⟨hjob.awaiting schema, hback⟩⟩
  obtain ⟨later, hended, hjoined⟩ := turns_joined rfl hwaiting hinner
  refine ⟨[⟨parent, lookup.app, lookup.doctype, .ended (some .updated)⟩], later, ?_, ?_⟩
  · rw [List.forall_mem_append]
    refine ⟨?_, hended⟩
    intro job hmem
    obtain rfl := List.mem_singleton.1 hmem
    exact ⟨some .updated, rfl⟩
  · exact hturns.trans hjoined

end Lookups

end Completes

theorem completes_of_resolved {lookups : List Lookup} {emitted : List DoctypeSchema}
    (h : Resolved before requests lookups emitted after) (hconsistent : before.Consistent appsPath)
    (hholds : ∀ lookup ∈ lookups, lookup.Holds bound appsPath) :
    Completes bound before requests (lookups.flatMap Lookup.events) after := by
  induction h with
  | done progress => exact .nil progress
  | known hold _ ih => exact (Completes.known hold).append (ih hconsistent hholds)
  | missing lookup hnew hnone _ ih =>
    obtain ⟨hlookup, hlater⟩ := List.forall_mem_cons.1 hholds
    exact (Completes.missing hlookup hconsistent hnew hnone).append
      (ih (hconsistent.lookedUp lookup) hlater)
  | current lookup schema hnew hschema hcurrent _ ih =>
    obtain ⟨hlookup, hlater⟩ := List.forall_mem_cons.1 hholds
    exact (Completes.current hlookup hconsistent hnew hschema hcurrent).append
      (ih (hconsistent.lookedUp lookup) hlater)
  | @emitted before _ _ _ _ _ _ _ lookup schema hnew hschema hcurrent hinner _ ihInner ihLater =>
    obtain ⟨hlookup, hothers⟩ := List.forall_mem_cons.1 hholds
    obtain ⟨hinnerHolds, hlaterHolds⟩ := List.forall_mem_append.1 hothers
    have hannounced : ((before.lookedUp lookup).announced lookup.doctype).Consistent appsPath :=
      hconsistent.lookedUp lookup
    have hchildren := ihInner hannounced hinnerHolds
    have hlater := ihLater (hinner.consistent hannounced) hlaterHolds
    have hall := (Completes.emitted hlookup hconsistent hnew hschema hcurrent hchildren).append
      hlater
    rwa [List.append_assoc, ← List.flatMap_append] at hall

theorem exists_turns_of_resolved {earlier : InterfaceSet} {lookups : List Lookup}
    {emitted : List DoctypeSchema} {resolved : Progress}
    (h : Resolved (.onOutput appsPath earlier) requests lookups emitted resolved)
    (hholds : ∀ lookup ∈ lookups, lookup.Holds bound appsPath) :
    ∃ jobs, Turns bound (.onOutput appsPath earlier) (requestedBy none requests)
        (lookups.flatMap Lookup.events) resolved jobs ∧ ∀ job ∈ jobs, job.HasEnded := by
  have hamong : RequestedAmong 0 ([] ++ (requestedBy none requests ++ [])) := by
    rw [List.nil_append, List.append_nil]
    apply requestedAmong_requestedBy
    intro index hindex
    cases hindex
  have hstart : (Progress.onOutput appsPath earlier).Consistent appsPath :=
    Progress.consistent_start
  obtain ⟨done, later, hended, hturns⟩ := completes_of_resolved h hstart hholds none [] [] hamong
  rw [List.append_nil] at hturns
  exact ⟨_, hturns, hended⟩

theorem turns_of_resolve {earlier : InterfaceSet} {roots : Roots} {events : List Event}
    {resolved : Progress} {schedule : Schedule}
    (h : Resolution.Ends (schedule.resolve bound roots) (.onOutput appsPath earlier) events
      (.ok ()) resolved) :
    ∃ jobs, Turns bound (.onOutput appsPath earlier) (requestedBy none roots.pairs) events
        resolved jobs ∧ ∀ job ∈ jobs, job.HasEnded := by
  cases schedule with
  | depthFirst =>
    obtain ⟨lookups, emitted, hresolved, hholds, rfl⟩ := resolves_of_ends_resolveRoots h
    exact exists_turns_of_resolved hresolved hholds
  | inTurns turns turnOf => exact turns_of_proceed h

/-- A run that succeeds in resolving the requests one after the other is a run of jobs in turns. -/
theorem exists_schedule_of_recordRun {σ : Type} {reached : (c : Call) → StateM σ c.Answer}
    {storage : σ} {options : GenerationOptions} {roots : Roots} {report : Report}
    (hok : (recordRun reached storage bound options roots).result = .ok report) :
    ∃ turns turnOf,
      recordBy reached storage options ((Schedule.inTurns turns turnOf).resolve bound roots) =
        recordRun reached storage bound options roots := by
  obtain ⟨hends, htranscript⟩ := recordRun_eq_iff.1
    (rfl : recordRun reached storage bound options roots = _)
  rw [hok] at hends
  obtain ⟨earlier, resolved, write, reading, looking, writing, hload, hresolving, hwriting,
    hreport, hevents⟩ := Resolution.ends_generationBy_ok_iff.1 hends
  have hdepthFirst : Resolution.Ends (Schedule.depthFirst.resolve bound roots) _ _ _ _ := hresolving
  obtain ⟨jobs, hturns, hended⟩ := turns_of_resolve hdepthFirst
  obtain ⟨turns, turnOf, hproceed⟩ := exists_proceed_of_turns hturns hended
  refine ⟨turns, turnOf, recordBy_eq_iff.2 ⟨?_, htranscript⟩⟩
  rw [hok]
  exact Resolution.ends_generationBy_ok_iff.2
    ⟨earlier, resolved, write, reading, _, writing, hload, hproceed, hwriting, hreport, hevents⟩

def memorySetting (memory : Memory) (bound : Nat) (appsPath : Path) (app : String) : Setting :=
  ⟨memory.view, bound, appsPath, app⟩

theorem finishes_of_recordRun {memory : Memory} {options : GenerationOptions} {roots : Roots}
    {app : String} {doctypes : List String} {report : Report}
    (hroots : roots.toList = [(app, doctypes)])
    (hok : (recordRun Memory.answer memory bound options roots).result = .ok report) :
    ∃ progress jobs, Finishes (memorySetting memory bound options.appsPath app)
        (.start (memorySetting memory bound options.appsPath app)
          (earlierInterfaces Memory.answer memory options) doctypes) (.running progress jobs) ∧
      report = ⟨progress.changed, progress.skipped, progress.notFound, progress.interfaces.size,
        report.write⟩ := by
  obtain ⟨-, htranscript⟩ := recordRun_eq_iff.1
    (rfl : recordRun Memory.answer memory bound options roots = _)
  obtain ⟨resolved, lookups, emitted, write, writing, hresolved, hholds, -, rfl, hevents⟩ :=
    resolved_of_recordRun hok
  rw [hevents] at htranscript
  obtain ⟨-, -, -, hview⟩ := Memory.view_of_transcript htranscript rfl hholds
  rw [Roots.pairs_of_toList hroots] at hresolved
  obtain ⟨jobs, hturns, hended⟩ := exists_turns_of_resolved hresolved hholds
  refine ⟨resolved, jobs, ⟨runs_of_turns hturns ?_, not_step_of_ended hended⟩, rfl⟩
  intro e he
  obtain ⟨lookup, hlookup, he⟩ := List.mem_flatMap.1 he
  exact hview lookup hlookup e he

end DoctypeInterfaces.Scheduling
