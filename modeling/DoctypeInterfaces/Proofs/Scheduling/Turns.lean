import DoctypeInterfaces.Proofs.Generation.Mishaps
import DoctypeInterfaces.Scheduling

namespace DoctypeInterfaces

open Storage

namespace Storage.Program

variable {α : Type} {c : Call} {next : c.Answer → Program α}

def Lists (program : Program α) : Prop :=
  ∀ events a, Execution program events a → ∀ e ∈ events, ∃ dir, e.call = .listDir dir

theorem exists_execution (program : Program α) : ∃ events a, Execution program events a := by
  have hresult : program.result (Call.failure ⟨.notFound, ""⟩) =
      program.result (Call.failure ⟨.notFound, ""⟩) := rfl
  obtain ⟨events, h, -⟩ := result_eq_iff.1 hresult
  exact ⟨events, _, h⟩

theorem Lists.exists_dir (h : (call c next).Lists) : ∃ dir, c = .listDir dir := by
  obtain ⟨events, a, hnext⟩ := exists_execution (next (c.failure ⟨.notFound, ""⟩))
  exact h _ a (.call hnext) _ List.mem_cons_self

theorem Lists.rest (h : (call c next).Lists) (answer : c.Answer) : (next answer).Lists :=
  fun _ a hnext e he => h _ a (.call hnext) e (List.mem_cons_of_mem _ he)

theorem FailsByMishap.rest {next : c.Answer → Program (Except Failure α)}
    (h : (call c next).FailsByMishap) (answer : c.Answer) : (next answer).FailsByMishap :=
  fun _ failure hnext => h _ failure (.call hnext)

end Storage.Program

theorem exists_loadSchema_eq (path : Path) :
    ∃ result : Except IoError Bytes → Except Failure DoctypeSchema,
      loadSchema path = .call (.read path) fun answer => .done (result answer) := by
  refine ⟨fun answer => ((answer.bind textOfBytes).mapError (.schemaRead path)).bind fun s =>
    (DoctypeSchema.ofJson s).mapError (.schemaDecode path), ?_⟩
  rw [loadSchema, readText, Storage.read, bind_assoc, Program.ask_bind]
  congr 1
  funext answer
  simp only [Program.pure_eq_done, Program.done_bind]
  cases answer.bind textOfBytes <;> rfl

namespace Scheduling

def Job.HasEnded (job : Job) : Prop :=
  ∃ outcome, job.stage = .ended outcome

theorem Job.hasEnded_iff {job : Job} : job.HasEnded ↔ job.stage.isEnded = true := by
  obtain ⟨parent, app, doctype, stage⟩ := job
  cases stage <;> simp [Job.HasEnded, Stage.isEnded]

def Stage.isPending : Stage → Bool
  | .searching _ _ => true
  | .loading _ _ => true
  | _ => false

/-- Whether a job goes on with the rest of a walk, or reads a schema. -/
def Stage.IsProper : Stage → Prop
  | .searching c next => (Program.call c next).Lists ∧ (Program.call c next).FailsByMishap
  | .loading c next => ∃ path, loadSchema path = .call c next
  | _ => True

def named (keep : Stage → Bool) (jobs : List Job) : List String :=
  (jobs.filter fun job => keep job.stage).map Job.doctype

section Moved

variable {keep : Stage → Bool} {front back : List Job} {job : Job} {stage : Stage}
  {children : List String}

theorem moved_nil (front : List Job) (job : Job) (back : List Job) (stage : Stage) :
    moved front job back stage [] = front ++ { job with stage := stage } :: back := by
  rw [moved, List.map_nil, requestedBy, List.map_nil, List.append_nil]

theorem named_append (front back : List Job) :
    named keep (front ++ back) = named keep front ++ named keep back := by
  rw [named, List.filter_append, List.map_append]
  rfl

theorem named_cons_of_pos (h : keep job.stage = true) :
    named keep (job :: back) = job.doctype :: named keep back := by
  simp [named, h]

theorem named_cons_of_neg (h : keep job.stage = false) :
    named keep (job :: back) = named keep back := by
  simp [named, h]

theorem mem_named_iff {jobs : List Job} {doctype : String} :
    doctype ∈ named keep jobs ↔ ∃ job ∈ jobs, keep job.stage = true ∧ job.doctype = doctype := by
  simp [named, and_assoc]

theorem named_requestedBy (h : keep .requested = false) (parent : Option Nat)
    (requests : List (String × String)) : named keep (requestedBy parent requests) = [] := by
  induction requests with
  | nil => rfl
  | cons request requests ih => exact (named_cons_of_neg h).trans ih

theorem named_split_of_pos (h : keep job.stage = true) :
    (named keep (front ++ job :: back)).Perm (job.doctype :: named keep (front ++ back)) := by
  rw [named_append, named_append, named_cons_of_pos h]
  exact List.perm_middle

theorem named_split_of_neg (h : keep job.stage = false) :
    named keep (front ++ job :: back) = named keep (front ++ back) := by
  rw [named_append, named_append, named_cons_of_neg h]

theorem named_moved_of_pos (hrequested : keep .requested = false) (h : keep stage = true) :
    (named keep (moved front job back stage children)).Perm
      (job.doctype :: named keep (front ++ back)) := by
  rw [moved, named_append, named_append, named_cons_of_pos h, named_append,
    named_requestedBy hrequested, List.append_nil]
  exact List.perm_middle

theorem named_moved_of_neg (hrequested : keep .requested = false) (h : keep stage = false) :
    named keep (moved front job back stage children) = named keep (front ++ back) := by
  rw [moved, named_append, named_append, named_cons_of_neg h, named_append,
    named_requestedBy hrequested, List.append_nil]

theorem named_moved (hrequested : keep .requested = false) (h : keep stage = keep job.stage) :
    named keep (moved front job back stage children) = named keep (front ++ job :: back) := by
  cases hkeep : keep job.stage with
  | true =>
    rw [moved, named_append, named_append, named_cons_of_pos (h.trans hkeep),
      named_cons_of_pos hkeep, named_append, named_requestedBy hrequested, List.append_nil]
  | false => rw [named_moved_of_neg hrequested (h.trans hkeep), named_split_of_neg hkeep]

theorem named_moved_perm (hrequested : keep .requested = false) (hbefore : keep job.stage = false)
    (hafter : keep stage = true) :
    (named keep (moved front job back stage children)).Perm
      (job.doctype :: named keep (front ++ job :: back)) := by
  rw [named_split_of_neg hbefore]
  exact named_moved_of_pos hrequested hafter

theorem mem_moved {other : Job} (h : other ∈ moved front job back stage children) :
    other = { job with stage := stage } ∨ other ∈ front ++ job :: back ∨
      ∃ child ∈ children, other = ⟨some front.length, job.app, child, .requested⟩ := by
  simp only [moved, requestedBy, List.map_map, List.mem_append, List.mem_cons, List.mem_map]
    at h ⊢
  rcases h with h | rfl | h | ⟨child, hchild, rfl⟩
  · exact .inr (.inl (.inl h))
  · exact .inl rfl
  · exact .inr (.inl (.inr (.inr h)))
  · exact .inr (.inr ⟨child, hchild, rfl⟩)

theorem getElem?_moved_self :
    (moved front job back stage children)[front.length]? = some { job with stage := stage } := by
  rw [moved, List.getElem?_append_right le_rfl, Nat.sub_self]
  rfl

theorem getElem?_moved_of_ne {index : Nat} {other : Job} (hne : index ≠ front.length)
    (h : (front ++ job :: back)[index]? = some other) :
    (moved front job back stage children)[index]? = some other := by
  rw [moved]
  rcases Nat.lt_or_gt_of_ne hne with hlt | hlt
  · rw [List.getElem?_append_left hlt] at h ⊢
    exact h
  · obtain ⟨offset, rfl⟩ := Nat.exists_eq_add_of_lt hlt
    rw [List.getElem?_append_right (by omega), Nat.add_assoc, Nat.add_sub_cancel_left,
      List.getElem?_cons_succ] at h ⊢
    obtain ⟨hlt, -⟩ := List.getElem?_eq_some_iff.1 h
    rw [List.getElem?_append_left hlt]
    exact h

theorem map_doctype_requestedBy (parent : Option Nat) (requests : List (String × String)) :
    (requestedBy parent requests).map Job.doctype = requests.map Prod.snd := by
  rw [requestedBy, List.map_map]
  rfl

theorem map_doctype_moved :
    (moved front job back stage children).map Job.doctype =
      (front ++ job :: back).map Job.doctype ++ children := by
  simp [moved, requestedBy, Function.comp_def]

theorem map_parent_moved :
    (moved front job back stage children).map Job.parent =
      (front ++ job :: back).map Job.parent ++ children.map fun _ => some front.length := by
  simp [moved, requestedBy, Function.comp_def]

theorem isProper_moved (h : ∀ other ∈ front ++ job :: back, other.stage.IsProper)
    (hstage : stage.IsProper) :
    ∀ other ∈ moved front job back stage children, other.stage.IsProper := by
  intro other hother
  rcases mem_moved hother with rfl | hold | ⟨child, -, rfl⟩
  · exact hstage
  · exact h other hold
  · trivial

end Moved

inductive Turn (bound : Nat) (before : Progress) (front : List Job) (job : Job)
    (back : List Job) : List Event → Progress → List Job → Prop where
  | advanced {events : List Event} {program : Program (Except Failure Move)} {move : Move} :
    resume bound before job = some program → Execution program events (.ok move) →
    Turn bound before front job back events move.progress
      (moved front job back move.stage move.children)
  -- A job that joins its child jobs need not do so right when the last of them has ended.
  | joined {schema : DoctypeSchema} :
    job.stage = .awaiting schema →
    (∀ child ∈ front ++ job :: back, child.parent = some front.length → child.HasEnded) →
    Turn bound before front job back [] (before.emitted schema.toInterface)
      (moved front job back (.ended (some .updated)) [])

inductive Turns (bound : Nat) : Progress → List Job → List Event → Progress → List Job → Prop where
  | refl (progress : Progress) (jobs : List Job) : Turns bound progress jobs [] progress jobs
  | head {before middle after : Progress} {front back middleJobs afterJobs : List Job} {job : Job}
    {first rest : List Event} :
    Turn bound before front job back first middle middleJobs →
    Turns bound middle middleJobs rest after afterJobs →
    Turns bound before (front ++ job :: back) (first ++ rest) after afterJobs

namespace Turns

variable {bound : Nat} {before middle after : Progress}
  {front back jobs middleJobs afterJobs : List Job} {job : Job} {events first rest : List Event}

theorem single (h : Turn bound before front job back events after afterJobs) :
    Turns bound before (front ++ job :: back) events after afterJobs := by
  have hturns := Turns.head h (.refl after afterJobs)
  rwa [List.append_nil] at hturns

theorem trans (h : Turns bound before jobs first middle middleJobs)
    (hrest : Turns bound middle middleJobs rest after afterJobs) :
    Turns bound before jobs (first ++ rest) after afterJobs := by
  induction h with
  | refl => exact hrest
  | head hturn _ ih =>
    rw [List.append_assoc]
    exact .head hturn (ih hrest)

end Turns

section Moves

variable {bound : Nat} {progress start : Progress} {job : Job} {events : List Event}

/-- What a job that searches or reads goes on from: it has just begun, or it has an answer. -/
inductive Starts (progress : Progress) (job : Job) : List Event → Progress → Prop where
  | begun : job.stage = .requested → job.doctype ∉ progress.processed →
    Starts progress job [] (progress.entered job.doctype)
  | answered (e : Event) : job.stage.isPending = true → (∃ dir, e.call = .listDir dir) →
    Starts progress job [e] progress

/-- What a job can do in its turn, but for joining its child jobs. The locator apart, the progress
is told in full. -/
inductive Goes (progress : Progress) (job : Job) : List Event → Except Failure Move → Prop where
  | repeated : job.stage = .requested → job.doctype ∈ progress.processed →
    Goes progress job [] (.ok ⟨progress, .ended none, []⟩)
  | failed (e : Event) (failure : Failure) : job.stage.isPending = true →
    e.call.observes = true → failure.isVerdict = false →
    Goes progress job [e] (.error failure)
  | pending {start : Progress} {events : List Event} {locator : Locator} {stage : Stage} :
    Starts progress job events start → stage.isPending = true → stage.IsProper →
    Goes progress job events (.ok ⟨{ start with locator := locator }, stage, []⟩)
  | missing {start : Progress} {events : List Event} {locator : Locator} :
    Starts progress job events start →
    Goes progress job events
      (.ok ⟨{ start with locator := locator }.missed job.doctype, .ended (some .notFound), []⟩)
  | current (e : Event) (schema : DoctypeSchema) : job.stage.isPending = true →
    e.call.observes = true → e.schema? = some schema →
    progress.interfaces.isCurrent schema.interfaceName schema.modified = true →
    Goes progress job [e] (.ok ⟨progress.passed job.doctype, .ended (some .skipped), []⟩)
  | outdated (e : Event) (schema : DoctypeSchema) : job.stage.isPending = true →
    e.call.observes = true → e.schema? = some schema →
    progress.interfaces.isCurrent schema.interfaceName schema.modified = false →
    Goes progress job [e]
      (.ok ⟨progress.announced job.doctype, .awaiting schema, schema.childDoctypes⟩)

theorem goes_found {locator : Locator} (hstart : Starts progress job events start)
    (path? : Option Path) :
    Goes progress job events
      (foundMove { start with locator := locator } job.doctype path?) := by
  cases path? with
  | none => exact .missing hstart
  | some path =>
    obtain ⟨result, hload⟩ := exists_loadSchema_eq path
    rw [foundMove, hload]
    exact .pending hstart rfl ⟨path, hload⟩

theorem goes_begin (hrequested : job.stage = .requested) :
    Goes progress job [] (beginMove bound progress job.app job.doctype) := by
  rw [beginMove]
  split
  · next hprocessed => exact .repeated hrequested (List.contains_iff_mem.1 hprocessed)
  · next hprocessed =>
    have hstart : Starts progress job [] (progress.entered job.doctype) :=
      .begun hrequested fun h => hprocessed (List.contains_iff_mem.2 h)
    split
    · exact goes_found hstart _
    · -- A walk begins with a call.
      refine .pending hstart rfl ⟨?_, ?_⟩
      · exact fun _ _ h => Locator.call_eq_listDir_of_walk h
      · exact Locator.failsByMishap_walk bound _ _

theorem goes_search {e : Event} {program : Program (Except Failure (Option Path))}
    (hpending : job.stage.isPending = true) (hdir : ∃ dir, e.call = .listDir dir)
    (hlists : program.Lists) (hmishap : program.FailsByMishap) :
    Goes progress job [e] (searchMove progress job.app job.doctype program) := by
  cases program with
  | call c next => exact .pending (.answered e hpending hdir) rfl ⟨hlists, hmishap⟩
  | done result =>
    cases result with
    | error failure =>
      refine .failed e failure hpending ?_ (hmishap [] failure (.done _))
      obtain ⟨dir, hdir⟩ := hdir
      rw [hdir]
      rfl
    | ok path? => exact goes_found (.answered e hpending hdir) path?

theorem goes_load {path : Path} {e : Event} {result : Except Failure DoctypeSchema}
    (hpending : job.stage.isPending = true) (hload : Execution (loadSchema path) [e] result) :
    Goes progress job [e] (loadMove progress job.doctype (.done result)) := by
  have hobserves := looks_loadSchema path _ _ hload e List.mem_cons_self
  cases result with
  | error failure =>
    exact .failed e failure hpending hobserves (failsByMishap_loadSchema path _ _ hload)
  | ok schema =>
    have hschema : e.schema? = some schema := by
      obtain ⟨bytes, hevents, hschema⟩ := execution_loadSchema_ok_iff.1 hload
      obtain ⟨rfl, -⟩ := List.cons.inj hevents
      exact hschema
    rw [loadMove]
    split
    · next hcurrent => exact .current e schema hpending hobserves hschema hcurrent
    · next hcurrent =>
      rw [schema.map_related]
      exact .outdated e schema hpending hobserves hschema (Bool.eq_false_iff.2 hcurrent)

theorem goes_of_resume {program : Program (Except Failure Move)} {result : Except Failure Move}
    (hproper : job.stage.IsProper) (hresume : resume bound progress job = some program)
    (h : Execution program events result) : Goes progress job events result := by
  rw [resume] at hresume
  split at hresume
  · next hstage =>
    obtain rfl := Option.some.inj hresume
    obtain ⟨rfl, rfl⟩ := Execution.done_iff.1 h
    exact goes_begin hstage
  · next c next hstage =>
    obtain rfl := Option.some.inj hresume
    rw [hstage] at hproper
    obtain ⟨hlists, hmishap⟩ := hproper
    obtain ⟨answer, rest, rfl, hdone⟩ := Execution.call_iff.1 h
    obtain ⟨rfl, rfl⟩ := Execution.done_iff.1 hdone
    exact goes_search (by rw [hstage]; rfl) hlists.exists_dir (hlists.rest answer)
      (hmishap.rest answer)
  · next c next hstage =>
    obtain rfl := Option.some.inj hresume
    rw [hstage] at hproper
    obtain ⟨path, hload⟩ := hproper
    obtain ⟨answer, rest, rfl, hdone⟩ := Execution.call_iff.1 h
    obtain ⟨rfl, rfl⟩ := Execution.done_iff.1 hdone
    obtain ⟨read, hread⟩ := exists_loadSchema_eq path
    rw [hread] at hload
    cases hload
    have hexecution : Execution (loadSchema path) [⟨.read path, answer⟩] (read answer) := by
      rw [hread]
      exact .call (.done _)
    exact goes_load (by rw [hstage]; rfl) hexecution
  · cases hresume
  · cases hresume

theorem Starts.observes (h : Starts progress job events start) :
    ∀ e ∈ events, e.call.observes = true := by
  cases h with
  | begun => simp
  | answered e _ hdir =>
    obtain ⟨dir, hdir⟩ := hdir
    rw [List.forall_mem_singleton, hdir]
    rfl

theorem Goes.observes {result : Except Failure Move} (h : Goes progress job events result) :
    ∀ e ∈ events, e.call.observes = true := by
  cases h with
  | repeated => simp
  | failed e failure _ hobserves => simpa using hobserves
  | pending hstart => exact hstart.observes
  | missing hstart => exact hstart.observes
  | current e schema _ hobserves => simpa using hobserves
  | outdated e schema _ hobserves => simpa using hobserves

theorem Goes.isProper {move : Move} (h : Goes progress job events (.ok move)) :
    move.stage.IsProper := by
  cases h with
  | pending _ _ hproper => exact hproper
  | repeated => trivial
  | missing => trivial
  | current => trivial
  | outdated => trivial

theorem Goes.isVerdict {failure : Failure} (h : Goes progress job events (.error failure)) :
    failure.isVerdict = false := by
  cases h with
  | failed _ _ _ _ hmishap => exact hmishap

end Moves

theorem Turn.isProper {bound : Nat} {before after : Progress} {front back afterJobs : List Job}
    {job : Job} {events : List Event} (h : Turn bound before front job back events after afterJobs)
    (hproper : ∀ other ∈ front ++ job :: back, other.stage.IsProper) :
    ∀ other ∈ afterJobs, other.stage.IsProper := by
  cases h with
  | advanced hresume hexecution =>
    exact isProper_moved hproper (goes_of_resume (hproper _ (by simp)) hresume hexecution).isProper
  | joined => exact isProper_moved hproper trivial

theorem isProper_requestedBy {parent : Option Nat} {requests : List (String × String)} :
    ∀ job ∈ requestedBy parent requests, job.stage.IsProper := by
  intro job hjob
  obtain ⟨request, -, rfl⟩ := List.mem_map.1 hjob
  trivial

section Ends

open Resolution

variable {bound : Nat} {before after : Progress} {front back jobs afterJobs : List Job} {job : Job}
  {events : List Event} {turnOf : Nat → List Job → Nat} {turns : Nat}

theorem all_ended_iff :
    (jobs.all fun job => job.stage.isEnded) = true ↔ ∀ job ∈ jobs, job.HasEnded := by
  simp only [List.all_eq_true, Job.hasEnded_iff]

theorem all_joined_iff {position : Nat} :
    (jobs.all fun child => child.parent != some position || child.stage.isEnded) = true ↔
      ∀ child ∈ jobs, child.parent = some position → child.HasEnded := by
  simp only [List.all_eq_true, Bool.or_eq_true, bne_iff_ne, Job.hasEnded_iff, ne_eq,
    ← imp_iff_not_or]

inductive GivesTurn (bound : Nat) (before : Progress) (front : List Job) (job : Job)
    (back : List Job) : List Event → Except Failure (List Job) → Progress → Prop where
  | turned {events : List Event} {after : Progress} {afterJobs : List Job} :
    Turn bound before front job back events after afterJobs →
    GivesTurn bound before front job back events (.ok afterJobs) after
  | waited : GivesTurn bound before front job back [] (.ok (front ++ job :: back)) before
  | failed {events : List Event} {program : Program (Except Failure Move)} {failure : Failure} :
    resume bound before job = some program → Execution program events (.error failure) →
    GivesTurn bound before front job back events (.error failure) before

theorem givesTurn_of_goOn {result : Except Failure (List Job)}
    (h : Ends (goOn bound front job back) before events result after) :
    GivesTurn bound before front job back events result after := by
  rw [goOn] at h
  split at h
  · next schema hstage =>
    split at h
    · next hchildren =>
      rw [emit, ends_modify_bind] at h
      obtain ⟨rfl, rfl, rfl⟩ := ends_pure.1 h
      exact .turned (.joined hstage (all_joined_iff.1 hchildren))
    · obtain ⟨rfl, rfl, rfl⟩ := ends_pure.1 h
      exact .waited
  · rw [ends_get_bind] at h
    split at h
    · obtain ⟨rfl, rfl, rfl⟩ := ends_pure.1 h
      exact .waited
    · next program hresume =>
      rcases ends_bind.1 h with ⟨move, first, middle, rest, hmove, hset, rfl⟩ |
        ⟨failure, hfailed, rfl⟩
      · obtain ⟨hexecution, rfl⟩ := ends_ofProgram.1 hmove
        rw [ends_set_bind] at hset
        obtain ⟨rfl, rfl, rfl⟩ := ends_pure.1 hset
        rw [List.append_nil]
        exact .turned (.advanced hresume hexecution)
      · obtain ⟨hexecution, rfl⟩ := ends_ofProgram.1 hfailed
        exact .failed hresume hexecution

theorem cases_of_takeTurn {position : Nat} {result : Except Failure (List Job)}
    (h : Ends (takeTurn bound position jobs) before events result after) :
    (events = [] ∧ result = .ok jobs ∧ after = before) ∨
      ∃ front job back, front = jobs.take position ∧ jobs.drop position = job :: back ∧
        jobs = front ++ job :: back ∧
        GivesTurn bound before front job back events result after := by
  rw [takeTurn] at h
  split at h
  · exact .inl (ends_pure.1 h)
  · next job back hdrop =>
    refine .inr ⟨_, job, back, rfl, hdrop, ?_, givesTurn_of_goOn h⟩
    rw [← hdrop, List.take_append_drop]

theorem ends_takeTurn_of_turn (h : Turn bound before front job back events after afterJobs) :
    Ends (takeTurn bound front.length (front ++ job :: back)) before events (.ok afterJobs)
      after := by
  have htake : takeTurn bound front.length (front ++ job :: back) = goOn bound front job back := by
    simp [takeTurn]
  rw [htake, goOn]
  cases h with
  | advanced hresume hexecution =>
    split
    · next schema hstage =>
      rw [resume, hstage] at hresume
      cases hresume
    · rw [ends_get_bind, hresume]
      refine ends_bind_ok.2 ⟨_, events, before, [], ends_ofProgram.2 ⟨hexecution, rfl⟩, ?_,
        (List.append_nil _).symm⟩
      exact ends_set_bind.2 (ends_pure.2 ⟨rfl, rfl, rfl⟩)
  | joined hstage hchildren =>
    rw [hstage]
    dsimp only
    rw [if_pos (all_joined_iff.2 hchildren), emit, ends_modify_bind]
    exact ends_pure.2 ⟨rfl, rfl, rfl⟩

theorem Turn.not_hasEnded (h : Turn bound before front job back events after afterJobs) :
    ¬ job.HasEnded := by
  rintro ⟨outcome, hended⟩
  cases h with
  | advanced hresume _ =>
    rw [resume, hended] at hresume
    cases hresume
  | joined hstage _ => cases hended.symm.trans hstage

theorem turns_of_proceed (h : Ends (proceed bound turnOf turns jobs) before events (.ok ()) after) :
    ∃ afterJobs, Turns bound before jobs events after afterJobs ∧
      ∀ job ∈ afterJobs, job.HasEnded := by
  induction turns generalizing jobs before events with
  | zero =>
    rw [proceed] at h
    split at h
    · next hended =>
      obtain ⟨rfl, -, rfl⟩ := ends_pure.1 h
      exact ⟨jobs, .refl _ jobs, all_ended_iff.1 hended⟩
    · cases (ends_throw.1 h).2.1
  | succ turns ih =>
    rw [proceed] at h
    split at h
    · next hended =>
      obtain ⟨rfl, -, rfl⟩ := ends_pure.1 h
      exact ⟨jobs, .refl _ jobs, all_ended_iff.1 hended⟩
    · obtain ⟨middleJobs, first, middle, rest, hturn, hrest, rfl⟩ := ends_bind_ok.1 h
      obtain ⟨afterJobs, hturns, hended⟩ := ih hrest
      rcases cases_of_takeTurn hturn with
        ⟨rfl, hsame, rfl⟩ | ⟨front, job, back, -, -, rfl, hgives⟩
      · obtain rfl := Except.ok.inj hsame
        exact ⟨afterJobs, hturns, hended⟩
      · cases hgives with
        | turned hturn => exact ⟨afterJobs, .head hturn hturns, hended⟩
        | waited => exact ⟨afterJobs, hturns, hended⟩

theorem proceed_congr {other : Nat → List Job → Nat}
    (h : ∀ turn, turn < turns → ∀ jobs, turnOf turn jobs = other turn jobs) (jobs : List Job) :
    proceed bound turnOf turns jobs = proceed bound other turns jobs := by
  induction turns generalizing jobs with
  | zero => rfl
  | succ turns ih =>
    have hrest : proceed bound turnOf turns = proceed bound other turns :=
      funext (ih fun turn hturn => h turn (hturn.trans turns.lt_succ_self))
    rw [proceed, proceed, h turns turns.lt_succ_self, hrest]

theorem exists_proceed_of_turns (h : Turns bound before jobs events after afterJobs)
    (hended : ∀ job ∈ afterJobs, job.HasEnded) :
    ∃ turns turnOf, Ends (proceed bound turnOf turns jobs) before events (.ok ()) after := by
  induction h with
  | refl progress jobs =>
    refine ⟨0, fun _ _ => 0, ?_⟩
    rw [proceed, if_pos (all_ended_iff.2 hended)]
    exact ends_pure.2 ⟨rfl, rfl, rfl⟩
  | @head before middle after front back middleJobs afterJobs job first rest hturn _ ih =>
    obtain ⟨turns, turnOf, hrest⟩ := ih hended
    have hwaiting : ¬ (front ++ job :: back).all (fun job => job.stage.isEnded) = true :=
      fun hall => hturn.not_hasEnded (all_ended_iff.1 hall job (by simp))
    refine ⟨turns + 1, fun turn jobs => if turn = turns then front.length else turnOf turn jobs, ?_⟩
    rw [proceed, if_neg hwaiting, if_pos rfl]
    refine ends_bind_ok.2 ⟨middleJobs, first, middle, rest, ends_takeTurn_of_turn hturn, ?_, rfl⟩
    rw [proceed_congr fun turn hturn _ => if_neg (Nat.ne_of_lt hturn)]
    exact hrest

section Rules

variable {rule : Rule} (hgoes : ∀ progress job events (result : Except Failure Move),
  Goes progress job events result → rule.holds events (failure? result))

include hgoes

theorem holds_of_takeTurn {position : Nat} {result : Except Failure (List Job)}
    (hproper : ∀ job ∈ jobs, job.stage.IsProper)
    (h : Ends (takeTurn bound position jobs) before events result after) :
    rule.holds events (failure? result) ∧
      ∀ afterJobs, result = .ok afterJobs → ∀ job ∈ afterJobs, job.stage.IsProper := by
  rcases cases_of_takeTurn h with ⟨rfl, rfl, rfl⟩ | ⟨front, job, back, -, -, rfl, hgives⟩
  · exact ⟨rule.nil, fun _ hsame => Except.ok.inj hsame ▸ hproper⟩
  cases hgives with
  | turned hturn =>
    refine ⟨?_, fun _ hsame => Except.ok.inj hsame ▸ hturn.isProper hproper⟩
    cases hturn with
    | advanced hresume hexecution =>
      exact hgoes _ _ _ _ (goes_of_resume (hproper _ (by simp)) hresume hexecution)
    | joined => exact rule.nil
  | waited => exact ⟨rule.nil, fun _ hsame => Except.ok.inj hsame ▸ hproper⟩
  | failed hresume hexecution =>
    exact ⟨hgoes _ _ _ _ (goes_of_resume (hproper _ (by simp)) hresume hexecution), nofun⟩

/-- Jobs that go on in turns keep to a rule if each of them does in whatever it can do. -/
theorem holds_of_proceed (hunfinished : rule.holds [] (some .unfinished))
    {result : Except Failure Unit} (hproper : ∀ job ∈ jobs, job.stage.IsProper)
    (h : Ends (proceed bound turnOf turns jobs) before events result after) :
    rule.holds events (failure? result) := by
  induction turns generalizing jobs before events with
  | zero =>
    rw [proceed] at h
    split at h
    · exact obeys_pure () _ _ _ _ h
    · exact obeys_throw hunfinished _ _ _ _ h
  | succ turns ih =>
    rw [proceed] at h
    split at h
    · exact obeys_pure () _ _ _ _ h
    · rcases ends_bind.1 h with ⟨middleJobs, first, middle, rest, hturn, hrest, rfl⟩ |
        ⟨failure, hturn, rfl⟩
      · obtain ⟨hfirst, hmiddle⟩ := holds_of_takeTurn hgoes hproper hturn
        exact rule.append hfirst (ih (hmiddle _ rfl) hrest)
      · exact (holds_of_takeTurn hgoes hproper hturn).1

end Rules

end Ends

section Schedules

open Resolution

variable (schedule : Schedule) (bound : Nat) (roots : Roots)

theorem obeys_lookRule_resolve : Obeys lookRule (schedule.resolve bound roots) := by
  cases schedule with
  | depthFirst => exact obeys_lookRule_resolveRoots bound roots
  | inTurns turns turnOf =>
    intro before events result after h
    apply holds_of_proceed ?_ lookRule.nil isProper_requestedBy h
    exact fun _ _ _ _ hgoes => hgoes.observes

theorem obeys_mishapRule_resolve : Obeys mishapRule (schedule.resolve bound roots) := by
  cases schedule with
  | depthFirst => exact obeys_mishapRule_resolveRoots bound roots
  | inTurns turns turnOf =>
    intro before events result after h
    refine holds_of_proceed ?_ ?_ isProper_requestedBy h
    · intro progress job events result hgoes failure hfailure
      cases result with
      | ok move => cases hfailure
      | error e =>
        obtain rfl := Option.some.inj hfailure
        exact hgoes.isVerdict
    · intro failure hfailure
      obtain rfl := Option.some.inj hfailure
      rfl

end Schedules

end Scheduling

end DoctypeInterfaces
