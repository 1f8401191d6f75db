import DoctypeInterfaces.Proofs.Generation.Findings
import DoctypeInterfaces.Proofs.Scheduling.Sequential

namespace DoctypeInterfaces

open Storage Scheduling

/-- The progress when something has been found out about a doctype. -/
def Progress.found (progress : Progress) : Finding → Progress
  | .missing doctype => progress.missed doctype
  | .current doctype _ => progress.passed doctype
  | .outdated doctype _ => progress.announced doctype

namespace Finding

def stage : Finding → Stage
  | missing _ => .ended (some .notFound)
  | current _ _ => .ended (some .skipped)
  | outdated _ schema => .awaiting schema

def children : Finding → List String
  | missing _ => []
  | current _ _ => []
  | outdated _ schema => schema.childDoctypes

/-- Whether a schema is found outdated exactly if there is no current interface of it. -/
def Judges (interfaces : InterfaceSet) : Finding → Prop
  | missing _ => True
  | current _ schema => interfaces.isOutdated schema = false
  | outdated _ schema => interfaces.isOutdated schema = true

variable {finding : Finding} {progress : Progress}

theorem messages_found : (progress.found finding).messages =
    progress.messages ++ [finding.message] := by
  cases finding <;> rfl

theorem processed_found : (progress.found finding).processed = progress.processed := by
  cases finding <;> rfl

theorem interfaces_found : (progress.found finding).interfaces = progress.interfaces := by
  cases finding <;> rfl

theorem isProper_stage : finding.stage.IsProper := by
  cases finding <;> trivial

theorem flatMap_emitted (findings : List Finding) :
    ((findings.filterMap emitted?).flatMap fun load => load.2.childDoctypes) =
      findings.flatMap children := by
  induction findings with
  | nil => rfl
  | cons finding findings ih =>
    cases finding with
    | missing => exact ih
    | current => exact ih
    | outdated doctype schema => exact congrArg (schema.childDoctypes ++ ·) ih

theorem isPending_stage : finding.stage.isPending = false := by
  cases finding <;> rfl

end Finding

/-- Whether findings tell the counts and the interfaces of a run that has inserted certain schemas
into the earlier interfaces. -/
structure Figures (earlier : InterfaceSet) (findings : List Finding)
    (inserted : List DoctypeSchema) (progress : Progress) : Prop where
  notFound : progress.notFound =
    (findings.filter fun finding => finding.outcome = .notFound).map Finding.doctype
  skipped : progress.skipped = findings.countP fun finding => finding.outcome = .skipped
  changed : progress.changed = inserted.length
  interfaces : progress.interfaces = earlier.insertAll (inserted.map DoctypeSchema.toInterface)
  current : ∀ doctype schema, .current doctype schema ∈ findings →
    schema.interfaceName ∈ progress.interfaces.names
  outdated : ((findings.filterMap Finding.schema?).map DoctypeSchema.interfaceName).Nodup →
    (findings.filterMap Finding.emitted?).map Prod.snd =
      (findings.filterMap Finding.schema?).filter earlier.isOutdated

namespace Figures

variable {earlier : InterfaceSet} {findings : List Finding} {inserted : List DoctypeSchema}
  {progress : Progress} {finding : Finding} {schema : DoctypeSchema}

/-- A schema whose interface name has not been read before is judged by the earlier interfaces. -/
theorem isOutdated_eq (h : Figures earlier findings inserted progress)
    (hinserted : ∀ s ∈ inserted, s ∈ findings.filterMap Finding.schema?)
    (hnew : schema.interfaceName ∉
      (findings.filterMap Finding.schema?).map DoctypeSchema.interfaceName) :
    progress.interfaces.isOutdated schema = earlier.isOutdated schema := by
  apply InterfaceSet.isOutdated_congr
  rw [h.interfaces]
  apply InterfaceSet.get?_insertAll_of_notMem
  rw [List.map_map]
  intro hmem
  obtain ⟨other, hother, hsame⟩ := List.mem_map.1 hmem
  exact hnew (hsame ▸ List.mem_map_of_mem (hinserted other hother))

theorem outdated_found (h : Figures earlier findings inserted progress)
    (hinserted : ∀ s ∈ inserted, s ∈ findings.filterMap Finding.schema?)
    (hjudges : finding.Judges progress.interfaces)
    (hnodup : (((findings ++ [finding]).filterMap Finding.schema?).map
      DoctypeSchema.interfaceName).Nodup) :
    ((findings ++ [finding]).filterMap Finding.emitted?).map Prod.snd =
      ((findings ++ [finding]).filterMap Finding.schema?).filter earlier.isOutdated := by
  rw [List.filterMap_append, List.map_append] at hnodup
  obtain ⟨hnodup, -, hnew⟩ := List.nodup_append.1 hnodup
  rw [List.filterMap_append, List.filterMap_append, List.map_append, List.filter_append,
    h.outdated hnodup]
  congr 1
  -- The earlier findings leave the judgement on the last one to the earlier interfaces.
  have hjudged : ∀ schema, finding.schema? = some schema →
      progress.interfaces.isOutdated schema = earlier.isOutdated schema := by
    intro schema hschema
    apply h.isOutdated_eq hinserted
    rw [List.filterMap_cons_some hschema, List.filterMap_nil] at hnew
    exact fun hmem => hnew _ hmem _ (List.mem_singleton_self _) rfl
  cases finding with
  | missing => rfl
  | current doctype schema =>
    have hcurrent : earlier.isOutdated schema = false := (hjudged schema rfl).symm.trans hjudges
    change [] = [schema].filter earlier.isOutdated
    rw [List.filter_cons_of_neg (Bool.eq_false_iff.1 hcurrent), List.filter_nil]
  | outdated doctype schema =>
    have houtdated : earlier.isOutdated schema = true := (hjudged schema rfl).symm.trans hjudges
    change [schema] = [schema].filter earlier.isOutdated
    rw [List.filter_cons_of_pos houtdated, List.filter_nil]

theorem found (h : Figures earlier findings inserted progress)
    (hinserted : ∀ s ∈ inserted, s ∈ findings.filterMap Finding.schema?)
    (hjudges : finding.Judges progress.interfaces) :
    Figures earlier (findings ++ [finding]) inserted (progress.found finding) := by
  constructor
  case notFound =>
    rw [List.filter_append, List.map_append, ← h.notFound]
    cases finding with
    | missing => rfl
    | current => exact (List.append_nil _).symm
    | outdated => exact (List.append_nil _).symm
  case skipped =>
    rw [List.countP_append, ← h.skipped]
    cases finding <;> rfl
  case changed =>
    rw [← h.changed]
    cases finding <;> rfl
  case interfaces => rw [Finding.interfaces_found, h.interfaces]
  case current =>
    rw [Finding.interfaces_found]
    intro doctype schema hmem
    rcases List.mem_append.1 hmem with hmem | hmem
    · exact h.current doctype schema hmem
    · obtain rfl := List.mem_singleton.1 hmem
      have hcurrent : progress.interfaces.isOutdated schema = false := hjudges
      rw [InterfaceSet.isOutdated, Bool.not_eq_false', InterfaceSet.isCurrent_iff] at hcurrent
      obtain ⟨interface, hget, -⟩ := hcurrent
      exact InterfaceSet.mem_names_iff.2 ⟨interface, hget⟩
  case outdated => exact h.outdated_found hinserted hjudges

theorem relocated (h : Figures earlier findings inserted progress) (processed : List String)
    (messages : StatusLog) (locator : Locator) :
    Figures earlier findings inserted
      { progress with processed := processed, messages := messages, locator := locator } :=
  ⟨h.notFound, h.skipped, h.changed, h.interfaces, h.current, h.outdated⟩

theorem emitted (h : Figures earlier findings inserted progress) :
    Figures earlier findings (inserted ++ [schema]) (progress.emitted schema.toInterface) := by
  constructor
  case notFound => exact h.notFound
  case skipped => exact h.skipped
  case changed =>
    rw [List.length_append, ← h.changed]
    rfl
  case interfaces =>
    rw [List.map_append, InterfaceSet.insertAll_append, ← h.interfaces]
    rfl
  case current =>
    intro doctype other hmem
    exact InterfaceSet.mem_names_insert.2 (.inr (h.current doctype other hmem))
  case outdated => exact h.outdated

end Figures

namespace Scheduling

def Stage.awaited? : Stage → Option DoctypeSchema
  | .awaiting schema => some schema
  | _ => none

/-- The schemas that are going to be emitted when the child jobs have ended. -/
def awaited (jobs : List Job) : List DoctypeSchema :=
  jobs.filterMap fun job => job.stage.awaited?

section Jobs

variable {front back : List Job} {job : Job} {stage : Stage} {children : List String}

theorem Stage.awaited?_eq_none (h : stage.isPending = true) : stage.awaited? = none := by
  cases stage with
  | awaiting => cases h
  | requested => rfl
  | searching => rfl
  | loading => rfl
  | ended => rfl

theorem awaited_requestedBy (parent : Option Nat) (requests : List (String × String)) :
    awaited (requestedBy parent requests) = [] := by
  rw [awaited, List.filterMap_eq_nil_iff]
  intro job hjob
  obtain ⟨request, -, rfl⟩ := List.mem_map.1 hjob
  rfl

theorem awaited_moved : awaited (moved front job back stage children) =
    awaited front ++ (stage.awaited?.toList ++ awaited back) := by
  rw [moved, awaited, List.filterMap_append, ← List.singleton_append, List.filterMap_append,
    List.filterMap_append]
  change _ ++ (_ ++ (_ ++ awaited (requestedBy _ _))) = _
  rw [awaited_requestedBy, List.append_nil]
  cases h : stage.awaited? <;> simp [awaited, h]

theorem awaited_split : awaited (front ++ job :: back) =
    awaited front ++ (job.stage.awaited?.toList ++ awaited back) := by
  have hmoved : awaited (moved front job back job.stage []) = _ := awaited_moved
  rwa [moved_nil] at hmoved

theorem awaited_eq_nil {jobs : List Job} (h : ∀ job ∈ jobs, job.HasEnded) : awaited jobs = [] := by
  rw [awaited, List.filterMap_eq_nil_iff]
  intro job hjob
  obtain ⟨outcome, hended⟩ := h job hjob
  rw [hended]
  rfl

theorem named_isPending_eq_nil {jobs : List Job} (h : ∀ job ∈ jobs, job.HasEnded) :
    named Stage.isPending jobs = [] := by
  rw [named, List.map_eq_nil_iff, List.filter_eq_nil_iff]
  intro job hjob
  obtain ⟨outcome, hended⟩ := h job hjob
  rw [hended]
  exact Bool.false_ne_true

end Jobs

/-- Whether jobs are those that findings have led to, and these tell of all doctypes that have been
looked up. -/
structure Tracks (requests : List (String × String)) (findings : List Finding)
    (inserted : List DoctypeSchema) (processed : List String) (jobs : List Job) : Prop where
  proper : ∀ job ∈ jobs, job.stage.IsProper
  begun : ∀ job ∈ jobs, job.stage.isRequested = false → job.doctype ∈ processed
  requested : jobs.map Job.doctype = requests.map Prod.snd ++ findings.flatMap Finding.children
  looked : (named Stage.isPending jobs ++ findings.map Finding.doctype).Perm processed
  known : ∀ finding ∈ findings, finding.doctype ∈ jobs.map Job.doctype
  nodup : processed.Nodup
  inserted : (inserted ++ awaited jobs).Perm
    ((findings.filterMap Finding.emitted?).map Prod.snd)

namespace Tracks

variable {requests : List (String × String)} {findings : List Finding}
  {inserted : List DoctypeSchema} {processed later : List String} {front back jobs : List Job}
  {job : Job} {stage : Stage} {finding : Finding} {schema : DoctypeSchema}

theorem requestedBy_self (requests : List (String × String)) :
    Tracks requests [] [] [] (requestedBy none requests) := by
  constructor
  case proper => exact isProper_requestedBy
  case begun =>
    intro job hjob hbegun
    obtain ⟨request, -, rfl⟩ := List.mem_map.1 hjob
    cases hbegun
  case requested => rw [map_doctype_requestedBy, List.flatMap_nil, List.append_nil]
  case looked =>
    rw [named_requestedBy rfl]
    exact .nil
  case known => exact nofun
  case nodup => exact .nil
  case inserted =>
    rw [awaited_requestedBy]
    exact .nil

theorem mem_schemas_of_mem_inserted (h : Tracks requests findings inserted processed jobs) :
    ∀ s ∈ inserted, s ∈ findings.filterMap Finding.schema? := fun _ hs =>
  Finding.mem_schemas_of_mem_emitted (h.inserted.subset (List.mem_append_left _ hs))

structure LooksUp (findings : List Finding) (processed later : List String) (front : List Job)
    (job : Job) (back : List Job) : Prop where
  looked : (job.doctype ::
    (named Stage.isPending (front ++ back) ++ findings.map Finding.doctype)).Perm later
  kept : ∀ doctype ∈ processed, doctype ∈ later
  nodup : later.Nodup
  idle : job.stage.awaited? = none

theorem looksUp_of_requested
    (h : Tracks requests findings inserted processed (front ++ job :: back))
    (hstage : job.stage = .requested) (hnew : job.doctype ∉ processed) :
    LooksUp findings processed (job.doctype :: processed) front job back := by
  have hidle : job.stage.isPending = false := by
    rw [hstage]
    rfl
  constructor
  case looked =>
    rw [← named_split_of_neg hidle]
    exact .cons _ h.looked
  case kept => exact fun _ hmem => List.mem_cons_of_mem _ hmem
  case nodup => exact h.nodup.cons hnew
  case idle =>
    rw [hstage]
    rfl

theorem looksUp_of_isPending
    (h : Tracks requests findings inserted processed (front ++ job :: back))
    (hstage : job.stage.isPending = true) :
    LooksUp findings processed processed front job back := by
  constructor
  case looked => exact ((named_split_of_pos hstage).symm.append_right _).trans h.looked
  case kept => exact fun _ hmem => hmem
  case nodup => exact h.nodup
  case idle => exact Stage.awaited?_eq_none hstage

theorem begun_moved (h : Tracks requests findings inserted processed (front ++ job :: back))
    (hkept : ∀ doctype ∈ processed, doctype ∈ later) (hself : job.doctype ∈ later)
    {children : List String} :
    ∀ other ∈ moved front job back stage children, other.stage.isRequested = false →
      other.doctype ∈ later := by
  intro other hother hbegun
  rcases mem_moved hother with rfl | hold | ⟨child, -, rfl⟩
  · exact hself
  · exact hkept _ (h.begun other hold hbegun)
  · cases hbegun

theorem pending (h : Tracks requests findings inserted processed (front ++ job :: back))
    (hlooks : LooksUp findings processed later front job back)
    (hpending : stage.isPending = true) (hproper : stage.IsProper) :
    Tracks requests findings inserted later (moved front job back stage []) := by
  have hself : job.doctype ∈ later := hlooks.looked.subset List.mem_cons_self
  constructor
  case proper => exact isProper_moved h.proper hproper
  case begun => exact h.begun_moved hlooks.kept hself
  case requested => rw [map_doctype_moved, List.append_nil, h.requested]
  case looked =>
    exact ((named_moved_of_pos rfl hpending).append_right _).trans hlooks.looked
  case known =>
    rw [map_doctype_moved, List.append_nil]
    exact h.known
  case nodup => exact hlooks.nodup
  case inserted =>
    have hinserted := h.inserted
    rw [awaited_split, hlooks.idle] at hinserted
    rw [awaited_moved, Stage.awaited?_eq_none hpending]
    exact hinserted

/-- A job that looks something up makes its finding. -/
theorem found (h : Tracks requests findings inserted processed (front ++ job :: back))
    (hlooks : LooksUp findings processed later front job back)
    (hdoctype : finding.doctype = job.doctype) :
    Tracks requests (findings ++ [finding]) inserted later
      (moved front job back finding.stage finding.children) := by
  have hself : job.doctype ∈ later := hlooks.looked.subset List.mem_cons_self
  constructor
  case proper => exact isProper_moved h.proper finding.isProper_stage
  case begun => exact h.begun_moved hlooks.kept hself
  case requested =>
    rw [map_doctype_moved, h.requested, List.flatMap_append, List.flatMap_singleton,
      List.append_assoc]
  case looked =>
    rw [named_moved_of_neg rfl finding.isPending_stage, List.map_append, List.map_singleton,
      hdoctype, ← List.append_assoc]
    exact (List.perm_append_singleton _ _).trans hlooks.looked
  case known =>
    rw [map_doctype_moved]
    intro other hother
    apply List.mem_append_left
    rcases List.mem_append.1 hother with hother | hother
    · exact h.known other hother
    · rw [List.mem_singleton.1 hother, hdoctype]
      exact List.mem_map_of_mem (by simp)
  case nodup => exact hlooks.nodup
  case inserted =>
    have hinserted := h.inserted
    rw [awaited_split, hlooks.idle, Option.toList_none, List.nil_append] at hinserted
    have hstage : finding.stage.awaited?.toList =
        ([finding].filterMap Finding.emitted?).map Prod.snd := by
      cases finding <;> rfl
    rw [awaited_moved, hstage, List.filterMap_append, List.map_append]
    refine .trans ?_ (hinserted.append_right _)
    rw [List.append_assoc, List.append_assoc]
    exact .append_left _ (.append_left _ List.perm_append_comm)

/-- A job that looks nothing up may end with more schemas emitted. -/
theorem ended {outcome : Option Outcome} {more : List DoctypeSchema}
    (h : Tracks requests findings inserted processed (front ++ job :: back))
    (hidle : job.stage.isPending = false) (hknown : job.doctype ∈ processed)
    (hmore : (more ++ awaited (moved front job back (.ended outcome) [])).Perm
      ((findings.filterMap Finding.emitted?).map Prod.snd)) :
    Tracks requests findings more processed (moved front job back (.ended outcome) []) := by
  constructor
  case proper => exact isProper_moved h.proper trivial
  case begun => exact h.begun_moved (fun _ hmem => hmem) hknown
  case requested => rw [map_doctype_moved, List.append_nil, h.requested]
  case looked =>
    rw [named_moved rfl hidle.symm]
    exact h.looked
  case known =>
    rw [map_doctype_moved, List.append_nil]
    exact h.known
  case nodup => exact h.nodup
  case inserted => exact hmore

theorem repeated (h : Tracks requests findings inserted processed (front ++ job :: back))
    (hstage : job.stage = .requested) (hknown : job.doctype ∈ processed) :
    Tracks requests findings inserted processed (moved front job back (.ended none) []) := by
  have hinserted := h.inserted
  rw [awaited_split, hstage] at hinserted
  apply h.ended (by rw [hstage]; rfl) hknown
  rw [awaited_moved]
  exact hinserted

/-- A job emits its schema when it joins its child jobs. -/
theorem joined (h : Tracks requests findings inserted processed (front ++ job :: back))
    (hstage : job.stage = .awaiting schema) :
    Tracks requests findings (inserted ++ [schema]) processed
      (moved front job back (.ended (some .updated)) []) := by
  have hself : job.doctype ∈ processed := h.begun job (by simp) (by rw [hstage]; rfl)
  have hinserted := h.inserted
  rw [awaited_split, hstage] at hinserted
  have hmiddle : (schema :: (awaited front ++ awaited back)).Perm
      (awaited front ++ schema :: awaited back) := List.perm_middle.symm
  apply h.ended (by rw [hstage]; rfl) hself
  rw [awaited_moved, List.append_assoc]
  exact (hmiddle.append_left inserted).trans hinserted

end Tracks

theorem Starts.schema?_eq_none {progress start : Progress} {job : Job} {events : List Event}
    (h : Starts progress job events start) : events.filterMap Event.schema? = [] := by
  cases h with
  | begun => rfl
  | answered e _ hdir =>
    obtain ⟨c, answer⟩ := e
    obtain ⟨dir, hdir⟩ := hdir
    cases hdir
    rfl

structure Tally (earlier : InterfaceSet) (requests : List (String × String)) (events : List Event)
    (findings : List Finding) (inserted : List DoctypeSchema) (progress : Progress)
    (jobs : List Job) : Prop where
  figures : Figures earlier findings inserted progress
  tracks : Tracks requests findings inserted progress.processed jobs
  messages : progress.messages = findings.map Finding.message
  read : events.filterMap Event.schema? = findings.filterMap Finding.schema?

namespace Tally

variable {bound : Nat} {earlier : InterfaceSet} {requests : List (String × String)}
  {events more : List Event} {findings : List Finding} {inserted : List DoctypeSchema}
  {before start after : Progress} {front back jobs afterJobs : List Job} {job : Job}
  {stage : Stage} {finding : Finding}

theorem onOutput (appsPath : Path) (earlier : InterfaceSet) (requests : List (String × String)) :
    Tally earlier requests [] [] [] (.onOutput appsPath earlier) (requestedBy none requests) := by
  constructor
  case figures => exact ⟨rfl, rfl, rfl, rfl, nofun, fun _ => rfl⟩
  case tracks => exact .requestedBy_self requests
  case messages => rfl
  case read => rfl

theorem looksUp_of_starts
    (h : Tally earlier requests events findings inserted before (front ++ job :: back))
    (hstart : Starts before job more start) :
    Tracks.LooksUp findings before.processed start.processed front job back ∧
      start = { before with processed := start.processed } := by
  cases hstart with
  | begun hstage hnew => exact ⟨h.tracks.looksUp_of_requested hstage hnew, rfl⟩
  | answered e hstage _ => exact ⟨h.tracks.looksUp_of_isPending hstage, rfl⟩

theorem found (h : Tally earlier requests events findings inserted before (front ++ job :: back))
    (hlooks : Tracks.LooksUp findings before.processed start.processed front job back)
    (hstart : start = { before with processed := start.processed }) (locator : Locator)
    (hdoctype : finding.doctype = job.doctype) (hjudges : finding.Judges before.interfaces)
    (hread : more.filterMap Event.schema? = finding.schema?.toList) :
    Tally earlier requests (events ++ more) (findings ++ [finding]) inserted
      ({ start with locator := locator }.found finding)
      (moved front job back finding.stage finding.children) := by
  rw [hstart]
  constructor
  case figures =>
    exact (h.figures.relocated start.processed before.messages locator).found
      h.tracks.mem_schemas_of_mem_inserted hjudges
  case tracks =>
    rw [Finding.processed_found]
    exact h.tracks.found hlooks hdoctype
  case messages =>
    rw [Finding.messages_found, List.map_append]
    exact congrArg (· ++ [finding.message]) h.messages
  case read =>
    rw [List.filterMap_append, List.filterMap_append, h.read, hread]
    cases finding <;> rfl

theorem pending (h : Tally earlier requests events findings inserted before (front ++ job :: back))
    (hlooks : Tracks.LooksUp findings before.processed start.processed front job back)
    (hstart : start = { before with processed := start.processed }) (locator : Locator)
    (hpending : stage.isPending = true) (hproper : stage.IsProper)
    (hread : more.filterMap Event.schema? = []) :
    Tally earlier requests (events ++ more) findings inserted { start with locator := locator }
      (moved front job back stage []) := by
  rw [hstart]
  constructor
  case figures => exact h.figures.relocated start.processed before.messages locator
  case tracks => exact h.tracks.pending hlooks hpending hproper
  case messages => exact h.messages
  case read => rw [List.filterMap_append, h.read, hread, List.append_nil]

theorem turn (h : Tally earlier requests events findings inserted before (front ++ job :: back))
    (hturn : Turn bound before front job back more after afterJobs) :
    ∃ found joined, Tally earlier requests (events ++ more) (findings ++ found)
      (inserted ++ joined) after afterJobs := by
  cases hturn with
  | @joined schema hstage _ =>
    refine ⟨[], [schema], ?_⟩
    rw [List.append_nil, List.append_nil]
    exact ⟨h.figures.emitted, h.tracks.joined hstage, h.messages, h.read⟩
  | advanced hresume hexecution =>
    have hproper : job.stage.IsProper := h.tracks.proper job (by simp)
    cases goes_of_resume hproper hresume hexecution with
    | repeated hstage hknown =>
      refine ⟨[], [], ?_⟩
      rw [List.append_nil, List.append_nil, List.append_nil]
      exact ⟨h.figures, h.tracks.repeated hstage hknown, h.messages, h.read⟩
    | pending hstart hpending hstage =>
      obtain ⟨hlooks, hsame⟩ := h.looksUp_of_starts hstart
      refine ⟨[], [], ?_⟩
      rw [List.append_nil, List.append_nil]
      exact h.pending hlooks hsame _ hpending hstage hstart.schema?_eq_none
    | missing hstart =>
      obtain ⟨hlooks, hsame⟩ := h.looksUp_of_starts hstart
      refine ⟨[.missing job.doctype], [], ?_⟩
      rw [List.append_nil]
      exact h.found hlooks hsame _ rfl trivial hstart.schema?_eq_none
    | current e schema hpending _ hschema hcurrent =>
      have hjudges : before.interfaces.isOutdated schema = false := by
        rw [InterfaceSet.isOutdated, hcurrent]
        rfl
      refine ⟨[.current job.doctype schema], [], ?_⟩
      rw [List.append_nil]
      exact h.found (h.tracks.looksUp_of_isPending hpending) rfl before.locator rfl hjudges
        (List.filterMap_cons_some hschema)
    | outdated e schema hpending _ hschema hcurrent =>
      have hjudges : before.interfaces.isOutdated schema = true := by
        rw [InterfaceSet.isOutdated, hcurrent]
        rfl
      refine ⟨[.outdated job.doctype schema], [], ?_⟩
      rw [List.append_nil]
      exact h.found (h.tracks.looksUp_of_isPending hpending) rfl before.locator rfl hjudges
        (List.filterMap_cons_some hschema)

theorem turns (h : Tally earlier requests events findings inserted before jobs)
    (hturns : Turns bound before jobs more after afterJobs) :
    ∃ found joined, Tally earlier requests (events ++ more) (findings ++ found)
      (inserted ++ joined) after afterJobs := by
  induction hturns generalizing events findings inserted with
  | refl progress jobs =>
    refine ⟨[], [], ?_⟩
    rw [List.append_nil, List.append_nil, List.append_nil]
    exact h
  | head hturn _ ih =>
    obtain ⟨found, joined, hmiddle⟩ := h.turn hturn
    obtain ⟨later, laterJoined, hafter⟩ := ih hmiddle
    refine ⟨found ++ later, joined ++ laterJoined, ?_⟩
    rw [← List.append_assoc, ← List.append_assoc, ← List.append_assoc]
    exact hafter

/-- When all jobs have ended, the findings tell of all doctypes that have been processed, and all
outdated schemas have been inserted. -/
theorem ended (h : Tally earlier requests events findings inserted before jobs)
    (hended : ∀ job ∈ jobs, job.HasEnded) :
    (findings.map Finding.doctype).Perm before.processed ∧
      inserted.Perm ((findings.filterMap Finding.emitted?).map Prod.snd) ∧
      ∀ doctype, doctype ∈ findings.map Finding.doctype ↔
        doctype ∈ requests.map Prod.snd ++ findings.flatMap Finding.children := by
  have hlooked := h.tracks.looked
  have hinserted := h.tracks.inserted
  rw [named_isPending_eq_nil hended, List.nil_append] at hlooked
  rw [awaited_eq_nil hended, List.append_nil] at hinserted
  refine ⟨hlooked, hinserted, ?_⟩
  intro doctype
  rw [← h.tracks.requested]
  constructor
  · intro hmem
    obtain ⟨finding, hfinding, rfl⟩ := List.mem_map.1 hmem
    exact h.tracks.known finding hfinding
  · intro hmem
    obtain ⟨job, hjob, rfl⟩ := List.mem_map.1 hmem
    obtain ⟨outcome, hstage⟩ := hended job hjob
    exact hlooked.mem_iff.2 (h.tracks.begun job hjob (by rw [hstage]; rfl))

end Tally

end Scheduling

/-- Whether findings tell what a successful run upon the earlier interfaces has done, which has
inserted certain schemas. -/
structure RecordedRun.Settled {σ : Type} (run : RecordedRun σ) (earlier : InterfaceSet)
    (roots : Roots) (findings : List Finding) (inserted : List DoctypeSchema) : Prop where
  figures : Figures earlier findings inserted run.progress
  messages : ∃ closing : StatusKind × String, closing.1 ≠ .update ∧
    run.progress.messages = findings.map Finding.message ++ [closing]
  loaded : run.loaded = findings.filterMap Finding.schema?
  processed : (findings.map Finding.doctype).Perm run.progress.processed
  nodup : (findings.map Finding.doctype).Nodup
  requested : ∀ doctype, doctype ∈ findings.map Finding.doctype ↔
    doctype ∈ roots.pairs.map Prod.snd ++ findings.flatMap Finding.children
  inserted : inserted.Perm ((findings.filterMap Finding.emitted?).map Prod.snd)

namespace RecordedRun.Settled

variable {σ : Type} {run : RecordedRun σ} {earlier : InterfaceSet} {roots : Roots}
  {findings : List Finding} {inserted : List DoctypeSchema}

theorem loads_eq (h : run.Settled earlier roots findings inserted) :
    run.loads = findings.filterMap Finding.load? := by
  obtain ⟨closing, hclosing, hmessages⟩ := h.messages
  apply RecordedRun.loads_eq hmessages hclosing
  · intro finding hfinding
    exact h.processed.subset (List.mem_map_of_mem hfinding)
  · exact h.loaded

theorem emitted_eq (h : run.Settled earlier roots findings inserted) :
    run.emitted = findings.filterMap Finding.emitted? := by
  obtain ⟨closing, hclosing, hmessages⟩ := h.messages
  exact RecordedRun.emitted_eq h.loads_eq h.nodup hmessages hclosing

theorem inserted_perm (h : run.Settled earlier roots findings inserted) :
    inserted.Perm (run.emitted.map Prod.snd) :=
  h.emitted_eq ▸ h.inserted

theorem mem_loaded (h : run.Settled earlier roots findings inserted) :
    ∀ schema ∈ inserted, schema ∈ run.loaded := by
  intro schema hschema
  rw [h.loaded]
  exact Finding.mem_schemas_of_mem_emitted (h.inserted.subset hschema)

theorem outcome_eq (h : run.Settled earlier roots findings inserted) :
    ∀ finding ∈ findings, run.outcome finding.doctype = finding.outcome :=
  RecordedRun.outcome_eq h.emitted_eq h.nodup h.figures.notFound

theorem requested_eq (h : run.Settled earlier roots findings inserted) :
    run.requested roots = (findings.map Finding.doctype).toFinset := by
  ext doctype
  rw [RecordedRun.requested, h.emitted_eq, Finding.flatMap_emitted, List.mem_toFinset,
    List.mem_toFinset, h.requested]

end RecordedRun.Settled

section Runs

variable {σ : Type} {reached : (c : Call) → StateM σ c.Answer} {storage : σ} {bound : Nat}
  {options : GenerationOptions} {roots : Roots} {schedule : Schedule}

theorem settled_of_recordBy {run : RecordedRun σ} {report : Report}
    (hrun : run = recordBy reached storage options (schedule.resolve bound roots))
    (hok : run.result = .ok report) :
    ∃ findings inserted,
      run.Settled (earlierInterfaces reached storage options) roots findings inserted ∧
      report = ⟨run.progress.changed, run.progress.skipped, run.progress.notFound,
        run.progress.interfaces.size, report.write⟩ := by
  obtain ⟨hends, htranscript⟩ := recordBy_eq_iff.1 hrun.symm
  rw [hok] at hends
  obtain ⟨earlier, resolved, write, reading, looking, writing, hload, hresolving, hwriting,
    hreport, hevents⟩ := Resolution.ends_generationBy_ok_iff.1 hends
  rw [hevents] at htranscript
  obtain ⟨hreading, rfl⟩ := reading_of_loadOutput hload htranscript
  obtain ⟨jobs, hturns, hended⟩ := turns_of_resolve hresolving
  obtain ⟨findings, inserted, h⟩ := (Tally.onOutput options.appsPath
    (earlierInterfaces reached storage options) roots.pairs).turns hturns
  rw [List.nil_append, List.nil_append, List.nil_append] at h
  obtain ⟨hprocessed, hinserted, hrequested⟩ := h.ended hended
  obtain ⟨closing, hclosing, hprogress⟩ := messages_of_finish hwriting
  refine ⟨findings, inserted, ?_, ?_⟩
  · constructor
    case figures =>
      rw [hprogress]
      exact h.figures.relocated _ _ _
    case messages =>
      refine ⟨closing, hclosing, ?_⟩
      rw [hprogress, ← h.messages]
    case loaded =>
      rw [RecordedRun.loaded, hevents, hreading, List.singleton_append, List.tail_cons,
        List.filterMap_append, h.read,
        List.filterMap_eq_nil_iff.2 (schema?_eq_none_of_finish hwriting), List.append_nil]
    case processed =>
      rw [hprogress]
      exact hprocessed
    case nodup => exact hprocessed.nodup_iff.2 h.tracks.nodup
    case requested => exact hrequested
    case inserted => exact hinserted
  · rw [hreport, hprogress]

end Runs

section Bills

def bothRoots : Roots :=
  billRoots.add "s" "i"

def billSchedule : Schedule :=
  .inTurns 40 promptTurn

theorem bothRun :
    (recordBy Memory.answer earlierStorage billOptions
        (billSchedule.resolve 4 bothRoots)).result.toOption.isSome = true ∧
      (recordBy Memory.answer earlierStorage billOptions
        (billSchedule.resolve 4 bothRoots)).loaded = [billSchema, itemSchema] := by
  decide +kernel

end Bills

end DoctypeInterfaces
