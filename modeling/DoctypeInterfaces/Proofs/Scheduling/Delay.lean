import DoctypeInterfaces.Proofs.Scheduling.Order

namespace DoctypeInterfaces.Scheduling

open Storage

variable {setting : Setting} {earlier : InterfaceSet} {roots : List String}
  {progress later : Progress} {front back jobs laterJobs : List Job} {job : Job} {stage : Stage}
  {children : List String} {paused : Job → Prop} {state next : State}

def Job.request (job : Job) : Option Nat × String :=
  (job.parent, job.doctype)

theorem map_request_moved :
    (moved front job back stage children).map Job.request =
      (front ++ job :: back).map Job.request ++
        children.map fun child => (some front.length, child) := by
  simp [moved, requestedBy, Job.request, Function.comp_def]

/-- Whether a job waits for the storage on behalf of one of the given doctypes. -/
def Job.IsHeld (held : String → Prop) (job : Job) : Prop :=
  job.stage.isPending = true ∧ held job.doctype

theorem Job.IsHeld.begun {held : String → Prop} (h : job.IsHeld held) :
    job.stage ≠ .requested := by
  intro hrequested
  have hpending := h.1
  rw [hrequested] at hpending
  cases hpending

/-- Whether a doctype is requested for the sake of given ones alone: it is a root, or a child of a
doctype that no other ones lead to. -/
def Setting.RequestedVia (setting : Setting) (roots : List String) (going : String → Prop)
    (child : String) : Prop :=
  child ∈ roots ∨ ∃ requester, setting.Requestable .empty roots requester ∧
    child ∈ visitedFrom .empty setting.schema? requester ∧
      ∀ doctype, setting.LeadsTo doctype requester → going doctype

section Begun

variable (h : Valid setting earlier roots progress jobs)

include h

theorem Valid.exists_spawned_of_processed {doctype : String}
    (hprocessed : doctype ∈ progress.processed)
    (hupdated : setting.outcome earlier doctype = .updated)
    (hopen : ∀ job ∈ jobs, job.doctype = doctype → job.stage.isPending = false) :
    ∃ job ∈ jobs, job.doctype = doctype ∧ job.stage.hasSpawned = true := by
  obtain ⟨job, hjob, howns, rfl⟩ := h.exists_owner hprocessed
  refine ⟨job, hjob, rfl, ?_⟩
  have hnot := hopen job hjob rfl
  have hfaithful := h.faithful job hjob
  cases hstage : job.stage with
  | requested =>
    rw [hstage] at howns
    cases howns
  | searching c next =>
    rw [hstage] at hnot
    cases hnot
  | loading c next =>
    rw [hstage] at hnot
    cases hnot
  | awaiting schema => rfl
  | ended outcome =>
    rw [hstage] at hfaithful howns
    cases outcome with
    | none => cases howns
    | some outcome =>
      obtain ⟨houtcome, -⟩ := hfaithful
      rw [← houtcome, hupdated]
      rfl

/-- When all jobs have begun, a doctype with child doctypes has requested them, provided that no
job on the way to it waits for the storage. -/
theorem Valid.exists_spawned (hbegun : ∀ job ∈ jobs, job.stage ≠ .requested)
    {target child : String} (htarget : setting.Requestable earlier roots target)
    (hchild : child ∈ visitedFrom earlier setting.schema? target)
    (hopen : ∀ job ∈ jobs,
      DepthFirst.Reaches (visitedFrom earlier setting.schema?) job.doctype target →
        job.stage.isPending = false) :
    ∃ job ∈ jobs, job.doctype = target ∧ job.stage.hasSpawned = true := by
  have hjobs : ∀ doctype ∈ jobs.map Job.doctype, doctype ∈ progress.processed := by
    intro doctype hdoctype
    obtain ⟨job, hjob, rfl⟩ := List.mem_map.1 hdoctype
    exact h.mem_processed_of_begun hjob (hbegun job hjob)
  obtain ⟨root, hroot, hreaches⟩ := htarget
  have hprocessed : ∀ doctype,
      DepthFirst.Reaches (visitedFrom earlier setting.schema?) root doctype →
      DepthFirst.Reaches (visitedFrom earlier setting.schema?) doctype target →
        doctype ∈ progress.processed := by
    intro doctype hfrom
    -- Along the way from the root, each doctype has been processed and has requested the next one.
    induction hfrom with
    | refl => exact fun _ => hjobs root (h.wired.roots root hroot)
    | @tail parent doctype _ hnext ih =>
      intro hto
      have hparent := ih (.head hnext hto)
      obtain ⟨job, hjob, rfl, hspawned⟩ := h.exists_spawned_of_processed hparent
        (Setting.outcome_of_mem_visitedFrom hnext)
        fun job hjob hdoctype => hopen job hjob (hdoctype ▸ .head hnext hto)
      exact hjobs doctype (h.wired.spawned job hjob hspawned doctype hnext)
  exact h.exists_spawned_of_processed (hprocessed target hreaches .refl)
    (Setting.outcome_of_mem_visitedFrom hchild)
    fun job hjob hdoctype => hopen job hjob (hdoctype ▸ .refl)

end Begun

theorem Valid.index_eq_of_owns (h : Valid setting earlier roots progress jobs) {i j : Nat}
    {other : Job} (hi : jobs[i]? = some job) (hj : jobs[j]? = some other)
    (howns : job.stage.owns = true) (hotherOwns : other.stage.owns = true)
    (hsame : job.doctype = other.doctype) : i = j := by
  have hnodup : (named Stage.owns jobs).Nodup := h.accounts.processed.nodup_iff.2 h.accounts.nodup
  rw [named, List.Nodup, List.pairwise_map, List.pairwise_filter, List.pairwise_iff_getElem]
    at hnodup
  obtain ⟨hilt, rfl⟩ := List.getElem?_eq_some_iff.1 hi
  obtain ⟨hjlt, rfl⟩ := List.getElem?_eq_some_iff.1 hj
  rcases Nat.lt_trichotomy i j with hlt | heq | hlt
  · exact absurd hsame (hnodup i j hilt hjlt hlt howns hotherOwns)
  · exact heq
  · exact absurd hsame.symm (hnodup j i hjlt hilt hlt hotherOwns howns)

theorem Valid.goesOn (h : Valid setting .empty roots progress (front ++ job :: back))
    (hapart : setting.NamesApart .empty roots)
    (hgoesOn : GoesOn setting progress front job back (.running later laterJobs)) :
    ∃ stage children, laterJobs = moved front job back stage children ∧
      (stage.hasSpawned = true → job.stage.isPending = true ∨ job.stage.hasSpawned = true) ∧
      progress.interfaces.names <+: later.interfaces.names := by
  generalize hnext : State.running later laterJobs = next at hgoesOn
  cases hgoesOn with
  | @advanced result hadvance =>
    cases result with
    | error failure => cases hnext
    | ok move =>
      obtain ⟨rfl, rfl⟩ := State.running.inj hnext
      obtain ⟨-, hinterfaces, -, hspawned, -⟩ := (h.advanced_of_advance hapart hadvance).effect
      refine ⟨move.stage, move.children, rfl, fun hstage => .inl (hspawned hstage), ?_⟩
      rw [hinterfaces]
  | @joined schema hstage _ =>
    obtain ⟨rfl, rfl⟩ := State.running.inj hnext
    refine ⟨_, _, rfl, fun _ => .inr ?_, ?_⟩
    · rw [hstage]
      rfl
    · exact InterfaceSet.names_isPrefix_insert

section Runs

variable (hapart : setting.NamesApart .empty roots)

include hapart

theorem orderly_of_promptRuns (h : state.Orderly setting roots)
    (hruns : PromptRuns setting paused state next) : next.Orderly setting roots := by
  induction hruns with
  | refl => exact h
  | tail _ hstep ih => exact orderly_of_step hapart ih hstep.step

/-- What each move of a job that is not paused keeps, a whole run keeps. -/
theorem kept_of_promptRuns (keeps : Progress → List Job → Prop)
    (hkeeps : ∀ {progress later : Progress} {front back laterJobs : List Job} {job : Job},
      Valid setting .empty roots progress (front ++ job :: back) → ¬ paused job →
      GoesOn setting progress front job back (.running later laterJobs) →
      keeps progress (front ++ job :: back) → keeps later laterJobs)
    (h : (State.running progress jobs).Orderly setting roots) (hstart : keeps progress jobs)
    (hruns : PromptRuns setting paused (.running progress jobs) (.running later laterJobs)) :
    keeps later laterJobs := by
  generalize hlast : State.running later laterJobs = last at hruns
  induction hruns generalizing later laterJobs with
  | refl =>
    obtain ⟨rfl, rfl⟩ := State.running.inj hlast
    exact hstart
  | tail hruns hstep ih =>
    subst hlast
    have hvalid := (orderly_of_promptRuns hapart h hruns).sound
    cases hstep with
    | goesOn hgoing _ _ hgoesOn => exact hkeeps hvalid hgoing hgoesOn (ih rfl)

theorem extends_of_promptRuns (h : (State.running progress jobs).Orderly setting roots)
    (hruns : PromptRuns setting paused (.running progress jobs) (.running later laterJobs)) :
    jobs.map Job.request <+: laterJobs.map Job.request ∧
      progress.interfaces.names <+: later.interfaces.names := by
  let keeps (progress' : Progress) (jobs' : List Job) : Prop :=
    jobs.map Job.request <+: jobs'.map Job.request ∧
      progress.interfaces.names <+: progress'.interfaces.names
  refine kept_of_promptRuns hapart keeps ?_ h ⟨List.prefix_rfl, List.prefix_rfl⟩ hruns
  rintro progress' later' front back _ job hvalid - hgoesOn ⟨hrequests, hnames⟩
  obtain ⟨stage, children, rfl, -, hmore⟩ := hvalid.goesOn hapart hgoesOn
  refine ⟨hrequests.trans ?_, hnames.trans hmore⟩
  rw [map_request_moved]
  exact List.prefix_append _ _

theorem paused_of_promptRuns {index : Nat} (hpaused : paused job)
    (h : (State.running progress jobs).Orderly setting roots) (hindex : jobs[index]? = some job)
    (hruns : PromptRuns setting paused (.running progress jobs) (.running later laterJobs)) :
    laterJobs[index]? = some job := by
  refine kept_of_promptRuns hapart (fun _ jobs => jobs[index]? = some job) ?_ h hindex hruns
  intro progress' later' front back _ other hvalid hgoing hgoesOn hindex
  obtain ⟨stage, children, rfl, -, -⟩ := hvalid.goesOn hapart hgoesOn
  refine getElem?_moved_of_ne ?_ hindex
  rintro rfl
  have hself : (front ++ other :: back)[front.length]? = some other := by simp
  obtain rfl := Option.some.inj (hself.symm.trans hindex)
  exact hgoing hpaused

/-- While the jobs are paused that wait for the storage on behalf of other doctypes, only the given
doctypes request child doctypes. -/
theorem spawned_of_promptRuns {going : String → Prop}
    (h : (State.running progress jobs).Orderly setting roots)
    (hstart : ∀ job ∈ jobs, job.stage.hasSpawned = true → going job.doctype)
    (hruns : PromptRuns setting (Job.IsHeld fun doctype => ¬ going doctype)
      (.running progress jobs) (.running later laterJobs)) :
    ∀ job ∈ laterJobs, job.stage.hasSpawned = true → going job.doctype := by
  let keeps (_ : Progress) (jobs : List Job) : Prop :=
    ∀ job ∈ jobs, job.stage.hasSpawned = true → going job.doctype
  refine kept_of_promptRuns hapart keeps ?_ h hstart hruns
  intro progress' later' front back _ job hvalid hgoing hgoesOn hspawned other hother hstage
  obtain ⟨stage, children, rfl, hbefore, -⟩ := hvalid.goesOn hapart hgoesOn
  rcases mem_moved hother with rfl | hold | ⟨child, -, rfl⟩
  · rcases hbefore hstage with hpending | hearlier
    · exact not_not.1 fun hnot => hgoing ⟨hpending, hnot⟩
    · exact hspawned job (by simp) hearlier
  · exact hspawned other hold hstage
  · cases hstage

end Runs

section Succeeding

variable {doctypes : Finset String} (hapart : setting.NamesApart .empty roots)
  (hdoctypes : ∀ doctype, setting.Requestable .empty roots doctype → doctype ∈ doctypes)
  (hnone : setting.NoneFails roots)

include hapart hdoctypes hnone

theorem exists_running (paused : Job → Prop) (h : state.Orderly setting roots) :
    ∃ progress jobs, PromptRuns setting paused state (.running progress jobs) ∧
      (State.running progress jobs).Orderly setting roots ∧
      ∀ next, ¬ PromptStep setting paused (.running progress jobs) next := by
  obtain ⟨last, hruns, hstuck⟩ := exists_stuck hapart hdoctypes paused h.sound
  have horderly := orderly_of_promptRuns hapart h hruns
  cases last with
  | running progress jobs => exact ⟨progress, jobs, hruns, horderly, hstuck⟩
  | failed failure =>
    obtain ⟨doctype, hrequestable, herror⟩ := horderly
    exact absurd herror (hnone doctype hrequestable failure)

variable {going : String → Prop} {child : String} {t : DoctypeSchema}

/-- The job that sees to a child doctype can be held up before any but the given doctypes have
requested child doctypes, if these lead to a request for it. -/
theorem exists_held (ht : setting.schema? child = some t) (hnot : ¬ going child)
    (hvia : setting.RequestedVia roots going child) :
    ∃ progress jobs, PromptRuns setting (fun _ => False) (.start setting .empty roots)
        (.running progress jobs) ∧
      (State.running progress jobs).Orderly setting roots ∧
      (∃ owner ∈ jobs, owner.doctype = child ∧ owner.stage.isPending = true) ∧
      ∀ job ∈ jobs, job.stage.hasSpawned = true → going job.doctype := by
  have hstart : (State.start setting .empty roots).Orderly setting roots :=
    orderly_of_run hapart .refl
  obtain ⟨progress, jobs, hruns, horderly, hstuck⟩ :=
    exists_running hapart hdoctypes hnone (Job.IsHeld fun doctype => ¬ going doctype) hstart
  have hvalid : Valid setting .empty roots progress jobs := horderly.sound
  have hbegun := begun_of_stuck (fun _ => Job.IsHeld.begun) hstuck
  have hspawned : ∀ job ∈ jobs, job.stage.hasSpawned = true → going job.doctype := by
    refine spawned_of_promptRuns hapart hstart ?_ hruns
    intro job hjob hstage
    obtain ⟨doctype, -, rfl⟩ := List.mem_map.1 hjob
    cases hstage
  have hjobs : child ∈ jobs.map Job.doctype := by
    rcases hvia with hroot | ⟨requester, hrequester, hchild, hgoing⟩
    · exact hvalid.wired.roots child hroot
    · obtain ⟨job, hjob, rfl, hstage⟩ := hvalid.exists_spawned hbegun hrequester hchild
        fun job hjob hleads => isPending_eq_false_of_stuck (fun _ => Job.IsHeld.begun) hstuck hjob
          fun h => h.2 (hgoing job.doctype hleads)
      exact hvalid.wired.spawned job hjob hstage child hchild
  have hprocessed : child ∈ progress.processed := by
    obtain ⟨job, hjob, rfl⟩ := List.mem_map.1 hjobs
    exact hvalid.mem_processed_of_begun hjob (hbegun job hjob)
  refine ⟨progress, jobs, ?_, horderly, ?_, hspawned⟩
  · exact promptRuns_resumed hruns
  · by_contra hidle
    push Not at hidle
    obtain ⟨job, hjob, rfl, hstage⟩ := hvalid.exists_spawned_of_processed hprocessed
      (outcome_of_schema? ht) fun job hjob hdoctype => by simpa using hidle job hjob hdoctype
    exact hnot (hspawned job hjob hstage)

end Succeeding

theorem request_eq_of_isPrefix (h : jobs.map Job.request <+: laterJobs.map Job.request)
    {index : Nat} {other : Job} (hjob : jobs[index]? = some job)
    (hother : laterJobs[index]? = some other) : job.request = other.request := by
  obtain ⟨rest, hrest⟩ := h
  obtain ⟨hlt, -⟩ := List.getElem?_eq_some_iff.1 hjob
  have hlater : (laterJobs.map Job.request)[index]? = some job.request := by
    rw [← hrest, List.getElem?_append_left (by rw [List.length_map]; exact hlt),
      List.getElem?_map, hjob]
    rfl
  rw [List.getElem?_map, hother] at hlater
  exact (Option.some.inj hlater).symm

section Held

variable {going : String → Prop} {owner : Job} {index : Nat}

/-- The jobs that wait for a job that is held up are those that did so when it was first held up,
for it has no child jobs. -/
theorem going_of_waiting (hlinked : Linked setting .empty roots jobs)
    (hspawned : ∀ job ∈ jobs, job.stage.hasSpawned = true → going job.doctype)
    (hrequests : jobs.map Job.request <+: laterJobs.map Job.request)
    (hvalid : Valid setting .empty roots later laterJobs)
    (hlt : index < jobs.length) (howner : laterJobs[index]? = some owner)
    (hpending : owner.stage.isPending = true)
    (hstuck : ∀ next, ¬ PromptStep setting (Job.IsHeld (· = owner.doctype))
      (.running later laterJobs) next)
    {position : Nat} (hposition : laterJobs[position]? = some job) (hwaiting : ¬ job.HasEnded) :
    position < jobs.length ∧ (position = index ∨ going job.doctype) := by
  -- From the last job to the first: a job waits for jobs behind it.
  induction hgap : laterJobs.length - position using Nat.strong_induction_on
    generalizing position job with
  | _ gap ih =>
    by_cases hheld : job.IsHeld (· = owner.doctype)
    · have hsame := hvalid.index_eq_of_owns hposition howner (Stage.owns_of_isPending hheld.1)
        (Stage.owns_of_isPending hpending) hheld.2
      exact ⟨hsame ▸ hlt, .inl hsame⟩
    · obtain ⟨-, child, hchild, hparent, hchildWaiting⟩ :=
        waits_of_stuck (fun _ => Job.IsHeld.begun) hstuck hposition hwaiting hheld
      obtain ⟨place, hplace⟩ := List.mem_iff_getElem?.1 hchild
      have hbehind : position < place := by
        apply hvalid.wired.parents place position
        rw [List.getElem?_map, hplace, Option.map_some, hparent]
      obtain ⟨hplaceLt, -⟩ := List.getElem?_eq_some_iff.1 hplace
      obtain ⟨hearly, -⟩ := ih _ (by omega) hplace hchildWaiting rfl
      obtain ⟨old, hold⟩ : ∃ old, jobs[place]? = some old :=
        ⟨_, List.getElem?_eq_getElem hearly⟩
      have hchildRequest := Prod.mk.inj (request_eq_of_isPrefix hrequests hold hplace)
      obtain ⟨parent, hparents, hstage, -⟩ :=
        hlinked.child old (List.mem_of_getElem? hold) position (hchildRequest.1.trans hparent)
      have hparentRequest := Prod.mk.inj (request_eq_of_isPrefix hrequests hparents hposition)
      obtain ⟨hpositionLt, -⟩ := List.getElem?_eq_some_iff.1 hparents
      refine ⟨hpositionLt, .inr ?_⟩
      rw [← hparentRequest.2]
      exact hspawned parent (List.mem_of_getElem? hparents) hstage

end Held

section Late

variable {doctypes : Finset String} (hapart : setting.NamesApart .empty roots)
  (hdoctypes : ∀ doctype, setting.Requestable .empty roots doctype → doctype ∈ doctypes)
  (hnone : setting.NoneFails roots)
  {going : String → Prop} {parent child : String} {s t : DoctypeSchema}
  (hparent : setting.Requestable .empty roots parent)
  (hchild : child ∈ visitedFrom .empty setting.schema? parent)
  (hleads : ¬ setting.LeadsTo child parent)
  (hs : setting.schema? parent = some s) (ht : setting.schema? child = some t)
  (hnotParent : ¬ going parent)

include hapart hparent hchild hleads hs ht hnotParent

/-- While a child doctype is held up that another doctype has requested, its parent is emitted. -/
theorem emitted_while_held (hlinked : Linked setting .empty roots jobs)
    (hspawned : ∀ job ∈ jobs, job.stage.hasSpawned = true → going job.doctype)
    (hrequests : jobs.map Job.request <+: laterJobs.map Job.request)
    (hvalid : Valid setting .empty roots later laterJobs) {owner : Job} {index : Nat}
    (hlt : index < jobs.length) (howner : laterJobs[index]? = some owner)
    (hdoctype : owner.doctype = child) (hpending : owner.stage.isPending = true)
    (hstuck : ∀ next, ¬ PromptStep setting (Job.IsHeld (· = owner.doctype))
      (.running later laterJobs) next) :
    s.interfaceName ∈ later.interfaces.names ∧ t.interfaceName ∉ later.interfaces.names := by
  subst hdoctype
  have hne : owner.doctype ≠ parent := by
    intro heq
    rw [heq] at hleads
    exact hleads .refl
  obtain ⟨job, hjob, rfl, hstage⟩ :=
    hvalid.exists_spawned (begun_of_stuck (fun _ => Job.IsHeld.begun) hstuck) hparent hchild
      fun job hjob hto => isPending_eq_false_of_stuck (fun _ => Job.IsHeld.begun) hstuck hjob
        fun h => hleads (h.2 ▸ hto)
  have hended : job.HasEnded := by
    by_contra hwaiting
    obtain ⟨position, hposition⟩ := List.mem_iff_getElem?.1 hjob
    obtain ⟨-, rfl | hgoing⟩ := going_of_waiting hlinked hspawned hrequests hvalid hlt howner
      hpending hstuck hposition hwaiting
    · obtain rfl := Option.some.inj (howner.symm.trans hposition)
      exact hne rfl
    · exact hnotParent hgoing
  constructor
  · exact hvalid.mem_names_iff.2 ⟨job, hjob, updated_of_hasSpawned hstage hended, s, hs, rfl⟩
  · intro hname
    obtain ⟨other, hother, hupdated, schema, hschema, hsame⟩ := hvalid.mem_names_iff.1 hname
    have hownerMem := List.mem_of_getElem? howner
    have heq := hapart _ _ (hvalid.requestable hother) (hvalid.requestable hownerMem) _ _
      hschema ht hsame
    obtain ⟨position, hposition⟩ := List.mem_iff_getElem?.1 hother
    obtain rfl := hvalid.index_eq_of_owns hposition howner (by rw [hupdated]; rfl)
      (Stage.owns_of_isPending hpending) heq
    obtain rfl := Option.some.inj (hposition.symm.trans howner)
    rw [hupdated] at hpending
    cases hpending

include hdoctypes hnone

/-- A child doctype that others lead to stands behind its parent in some run. -/
theorem exists_late (hnotChild : ¬ going child)
    (hvia : setting.RequestedVia roots going child) :
    ∃ progress jobs, PromptFinishes setting (.start setting .empty roots)
        (.running progress jobs) ∧
      ¬ StandsBefore t.interfaceName s.interfaceName progress.interfaces.names := by
  -- First the child doctype comes to be held up, then its parent is emitted, then all jobs end.
  obtain ⟨first, jobs, hfirst, hfirstOrderly, ⟨owner, howner, rfl, hpending⟩, hspawned⟩ :=
    exists_held hapart hdoctypes hnone ht hnotChild hvia
  obtain ⟨index, hindex⟩ := List.mem_iff_getElem?.1 howner
  obtain ⟨hlt, -⟩ := List.getElem?_eq_some_iff.1 hindex
  obtain ⟨second, secondJobs, hsecond, hsecondOrderly, hstuck⟩ :=
    exists_running hapart hdoctypes hnone (Job.IsHeld (· = owner.doctype)) hfirstOrderly
  obtain ⟨hrequests, -⟩ := extends_of_promptRuns hapart hfirstOrderly hsecond
  have hheld : secondJobs[index]? = some owner :=
    paused_of_promptRuns hapart ⟨hpending, rfl⟩ hfirstOrderly hindex hsecond
  obtain ⟨hthere, hnotThere⟩ := emitted_while_held hapart hparent hchild hleads hs ht hnotParent
    hfirstOrderly.2.1 hspawned hrequests hsecondOrderly.1 hlt hheld rfl hpending hstuck
  obtain ⟨last, lastJobs, hlast, hlastOrderly, hover⟩ :=
    exists_running hapart hdoctypes hnone (fun _ => False) hsecondOrderly
  refine ⟨last, lastJobs, ⟨?_, ?_⟩, ?_⟩
  · exact hfirst.trans ((promptRuns_resumed hsecond).trans hlast)
  · exact not_step_of_stuck hover
  · intro hstands
    obtain ⟨-, hnames⟩ := extends_of_promptRuns hapart hsecondOrderly hlast
    exact hnotThere (hstands.mem_of_isPrefix last.interfaces.nodup hnames hthere)

end Late

end DoctypeInterfaces.Scheduling
