import DoctypeInterfaces.Proofs.Scheduling.Agreement
import DoctypeInterfaces.Proofs.Scheduling.Prompt

namespace DoctypeInterfaces.Scheduling

open Storage

namespace Setting

variable (setting : Setting) (roots : List String)

abbrev LeadsTo : String → String → Prop :=
  DepthFirst.Reaches (visitedFrom .empty setting.schema?)

/-- Whether no reference leads back to where it comes from. -/
def Acyclic : Prop :=
  ∀ parent, setting.Requestable .empty roots parent →
    ∀ child ∈ visitedFrom .empty setting.schema? parent, ¬ setting.LeadsTo child parent

/-- Whether no doctype that can be requested fails. -/
def NoneFails : Prop :=
  ∀ doctype, setting.Requestable .empty roots doctype →
    ∀ failure, setting.seen doctype ≠ .error failure

/-- Whether the interface of each child doctype stands in front of those of its parents. -/
def DeclaresChildrenFirst (set : InterfaceSet) : Prop :=
  ∀ parent, setting.Requestable .empty roots parent →
    ∀ child ∈ visitedFrom .empty setting.schema? parent,
      ∀ s t, setting.schema? parent = some s → setting.schema? child = some t →
        StandsBefore t.interfaceName s.interfaceName set.names

/-- Whether a child doctype that has a schema is neither a root nor a child of another doctype. -/
def RequestsOnce : Prop :=
  ∀ parent, setting.Requestable .empty roots parent →
    ∀ child ∈ visitedFrom .empty setting.schema? parent, (setting.schema? child).isSome = true →
      child ∉ roots ∧ ∀ other, setting.Requestable .empty roots other →
        child ∈ visitedFrom .empty setting.schema? other → other = parent

end Setting

variable {setting : Setting} {earlier : InterfaceSet} {roots : List String} {progress : Progress}
  {front back jobs : List Job} {job : Job}

theorem endedWith_iff {outcome : Outcome} {stage : Stage} :
    stage.endedWith outcome = true ↔ stage = .ended (some outcome) := by
  cases stage <;> simp [Stage.endedWith, Stage.outcome?]

/-- Where a job comes from: it is for a root, or a child of the doctype of the job that has
requested it. -/
structure Linked (setting : Setting) (earlier : InterfaceSet) (roots : List String)
    (jobs : List Job) : Prop where
  root : ∀ job ∈ jobs, job.parent = none → job.doctype ∈ roots
  child : ∀ job ∈ jobs, ∀ index, job.parent = some index →
    ∃ parent, jobs[index]? = some parent ∧ parent.stage.hasSpawned = true ∧
      job.doctype ∈ visitedFrom earlier setting.schema? parent.doctype

/-- Whether the interfaces of jobs that have joined their child jobs stand behind theirs. -/
def Ordered (setting : Setting) (set : InterfaceSet) (jobs : List Job) : Prop :=
  ∀ child ∈ jobs, ∀ index parent, child.parent = some index → jobs[index]? = some parent →
    parent.stage = .ended (some .updated) →
    child.HasEnded ∧ (child.stage = .ended (some .updated) →
      ∀ s t, setting.schema? parent.doctype = some s → setting.schema? child.doctype = some t →
        StandsBefore t.interfaceName s.interfaceName set.names)

theorem of_getElem?_moved {stage : Stage} {children : List String} {index : Nat} {other : Job}
    (hne : index ≠ front.length)
    (h : (moved front job back stage children)[index]? = some other) :
    (front ++ job :: back)[index]? = some other ∨ other.stage = .requested := by
  by_cases hlt : index < (front ++ job :: back).length
  · have hold : (moved front job back stage children)[index]? =
        some (front ++ job :: back)[index] :=
      getElem?_moved_of_ne hne (List.getElem?_eq_getElem hlt)
    rw [h] at hold
    rw [hold, List.getElem?_eq_getElem hlt]
    exact .inl rfl
  · right
    have happend : moved front job back stage children =
        (front ++ { job with stage := stage } :: back) ++
          requestedBy (some front.length) (children.map fun child => (job.app, child)) := by
      simp [moved]
    rw [happend, List.getElem?_append_right (by simpa using hlt)] at h
    obtain ⟨child, -, rfl⟩ := List.mem_map.1 (List.mem_of_getElem? h)
    rfl

theorem Linked.start (roots : List String) :
    Linked setting earlier roots
      (requestedBy none (roots.map fun root => (setting.app, root))) := by
  refine ⟨?_, ?_⟩
  · intro job hjob _
    obtain ⟨request, hrequest, rfl⟩ := List.mem_map.1 hjob
    obtain ⟨root, hroot, rfl⟩ := List.mem_map.1 hrequest
    exact hroot
  · intro job hjob index hparent
    obtain ⟨request, -, rfl⟩ := List.mem_map.1 hjob
    cases hparent

theorem Ordered.start (set : InterfaceSet) (requests : List (String × String)) :
    Ordered setting set (requestedBy none requests) := by
  intro job hjob index parent hparent
  obtain ⟨request, -, rfl⟩ := List.mem_map.1 hjob
  cases hparent

theorem Linked.moved (h : Linked setting earlier roots (front ++ job :: back)) {stage : Stage}
    {children : List String} (hkept : job.stage.hasSpawned = true → stage.hasSpawned = true)
    (hchildren : ∀ child ∈ children, stage.hasSpawned = true ∧
      child ∈ visitedFrom earlier setting.schema? job.doctype) :
    Linked setting earlier roots (moved front job back stage children) := by
  have hself : (front ++ job :: back)[front.length]? = some job := by simp
  have hold : ∀ other ∈ front ++ job :: back, ∀ index, other.parent = some index →
      ∃ parent, (Scheduling.moved front job back stage children)[index]? = some parent ∧
        parent.stage.hasSpawned = true ∧
        other.doctype ∈ visitedFrom earlier setting.schema? parent.doctype := by
    intro other hother index hindex
    obtain ⟨parent, hparent, hspawned, hchild⟩ := h.child other hother index hindex
    by_cases hne : index = front.length
    · subst hne
      obtain rfl := Option.some.inj (hparent.symm.trans hself)
      exact ⟨_, getElem?_moved_self, hkept hspawned, hchild⟩
    · exact ⟨parent, getElem?_moved_of_ne hne hparent, hspawned, hchild⟩
  have hmem : job ∈ front ++ job :: back := by simp
  refine ⟨?_, ?_⟩
  · intro other hother hnone
    rcases mem_moved hother with rfl | hother | ⟨child, -, rfl⟩
    · exact h.root job hmem hnone
    · exact h.root other hother hnone
    · cases hnone
  · intro other hother index hindex
    rcases mem_moved hother with rfl | hother | ⟨child, hchild, rfl⟩
    · exact hold job hmem index hindex
    · exact hold other hother index hindex
    · obtain rfl := Option.some.inj hindex
      obtain ⟨hspawned, hvisited⟩ := hchildren child hchild
      exact ⟨_, getElem?_moved_self, hspawned, hvisited⟩

theorem Advanced.effect {move : Move} (h : Advanced setting earlier progress job (.ok move)) :
    (job.stage = .requested ∨ job.stage.isPending = true) ∧
      move.progress.interfaces = progress.interfaces ∧ move.stage ≠ .ended (some .updated) ∧
      (move.stage.hasSpawned = true → job.stage.isPending = true) ∧
      ∀ child ∈ move.children, move.stage.hasSpawned = true ∧
        child ∈ visitedFrom earlier setting.schema? job.doctype := by
  cases h with
  | repeated hrequested _ =>
    exact ⟨.inl hrequested, rfl, by simp, by simp [Stage.hasSpawned], by simp⟩
  | entered hrequested _ hpending _ _ =>
    refine ⟨.inl hrequested, rfl, ?_, ?_, by simp⟩
    · rintro rfl
      cases hpending
    · intro hspawned
      rw [Stage.hasSpawned_of_isPending hpending] at hspawned
      cases hspawned
  | settled hpending hsettled =>
    refine ⟨.inr hpending, ?_⟩
    cases hsettled with
    | pending _ hstage _ =>
      refine ⟨rfl, ?_, fun _ => hpending, by simp⟩
      rintro rfl
      cases hstage
    | missing _ _ => exact ⟨rfl, by simp, fun _ => hpending, by simp⟩
    | current _ _ _ _ => exact ⟨rfl, by simp, fun _ => hpending, by simp⟩
    | outdated schema _ hseen houtdated =>
      refine ⟨rfl, by simp, fun _ => hpending, fun child hchild => ⟨rfl, ?_⟩⟩
      rw [Setting.visitedFrom_of_outdated hseen houtdated]
      exact hchild

theorem not_hasEnded_of_going (h : job.stage = .requested ∨ job.stage.isPending = true) :
    ¬ job.HasEnded := by
  rintro ⟨outcome, hended⟩
  rw [hended] at h
  rcases h with h | h <;> cases h

theorem hasSpawned_of_going (h : job.stage = .requested ∨ job.stage.isPending = true) :
    job.stage.hasSpawned = false := by
  rcases h with h | h
  · rw [h]
    rfl
  · exact Stage.hasSpawned_of_isPending h

/-- A job with child jobs ends when it has joined them. -/
theorem updated_of_hasSpawned (h : job.stage.hasSpawned = true) (hended : job.HasEnded) :
    job.stage = .ended (some .updated) := by
  obtain ⟨outcome, hstage⟩ := hended
  rw [hstage] at h ⊢
  cases outcome with
  | none => cases h
  | some outcome =>
    cases outcome with
    | updated => rfl
    | notFound => cases h
    | skipped => cases h

namespace Ordered

theorem extended (h : Ordered setting progress.interfaces jobs) (interface : Interface) :
    Ordered setting (progress.emitted interface).interfaces jobs := by
  intro child hchild index parent hparent hindex hstage
  obtain ⟨hended, hstands⟩ := h child hchild index parent hparent hindex hstage
  refine ⟨hended, fun hupdated s t hs ht => ?_⟩
  obtain ⟨rest, hrest⟩ : progress.interfaces.names <+:
      (progress.emitted interface).interfaces.names := InterfaceSet.names_isPrefix_insert
  rw [← hrest]
  exact (hstands hupdated s t hs ht).append_right rest

/-- The jobs keep in order when a job that has not ended moves on to a stage, provided that its
child jobs are in order with it in case it has been joined. -/
theorem moved {set : InterfaceSet} (h : Ordered setting set (front ++ job :: back))
    (hwaiting : ¬ job.HasEnded) {stage : Stage} {children : List String}
    (hjoined : stage = .ended (some .updated) → children = [] ∧
      ∀ child ∈ front ++ job :: back, child.parent = some front.length →
        child.HasEnded ∧ (child.stage = .ended (some .updated) →
          ∀ s t, setting.schema? job.doctype = some s → setting.schema? child.doctype = some t →
            StandsBefore t.interfaceName s.interfaceName set.names)) :
    Ordered setting set (moved front job back stage children) := by
  have hself : (front ++ job :: back)[front.length]? = some job := by simp
  -- The job itself is no child of a job that has joined its child jobs.
  have hfree : ∀ index parent, job.parent = some index →
      (front ++ job :: back)[index]? = some parent → parent.stage ≠ .ended (some .updated) := by
    intro index parent hparent hindex hstage
    exact hwaiting (h job (by simp) index parent hparent hindex hstage).1
  intro child hchild index parent hparent hindex hstage
  by_cases hne : index = front.length
  · subst hne
    obtain rfl := Option.some.inj (getElem?_moved_self.symm.trans hindex)
    obtain ⟨rfl, hchildren⟩ := hjoined hstage
    rcases mem_moved hchild with rfl | hchild | ⟨_, hnil, -⟩
    · exact absurd (hchildren job (by simp) hparent).1 hwaiting
    · exact hchildren child hchild hparent
    · cases hnil
  · have hparents : (front ++ job :: back)[index]? = some parent := by
      refine (of_getElem?_moved hne hindex).resolve_right ?_
      rw [hstage]
      exact nofun
    rcases mem_moved hchild with rfl | hchild | ⟨_, -, rfl⟩
    · exact absurd hstage (hfree index parent hparent hparents)
    · exact h child hchild index parent hparent hparents hstage
    · exact absurd (Option.some.inj hparent).symm hne

end Ordered

namespace Valid

variable (h : Valid setting .empty roots progress jobs)

include h in
/-- What stands in the set are the interfaces of the jobs that have joined their child jobs. -/
theorem mem_names_iff {name : String} :
    name ∈ progress.interfaces.names ↔ ∃ job ∈ jobs, job.stage = .ended (some .updated) ∧
      ∃ schema, setting.schema? job.doctype = some schema ∧ schema.interfaceName = name := by
  obtain ⟨emitted, hperm, hinterfaces⟩ := h.accounts.interfaces
  have hemitted : ∀ doctype, doctype ∈ emitted ↔
      ∃ job ∈ jobs, job.stage = .ended (some .updated) ∧ job.doctype = doctype := by
    intro doctype
    rw [← hperm.mem_iff, mem_named_iff]
    simp only [endedWith_iff]
  rw [hinterfaces, InterfaceSet.mem_names_insertAll, InterfaceSet.names_empty]
  simp only [List.not_mem_nil, false_or, List.map_map, List.mem_map, List.mem_filterMap, hemitted]
  constructor
  · rintro ⟨schema, ⟨_, ⟨job, hjob, hstage, rfl⟩, hschema⟩, hname⟩
    exact ⟨job, hjob, hstage, schema, hschema, hname⟩
  · rintro ⟨job, hjob, hstage, schema, hschema, hname⟩
    exact ⟨schema, ⟨_, ⟨job, hjob, hstage, rfl⟩, hschema⟩, hname⟩

/-- The interface of a doctype is not there before the job has ended that sees to it. -/
theorem notMem_names (h : Valid setting .empty roots progress (front ++ job :: back))
    (hapart : setting.NamesApart .empty roots) (howns : job.stage.owns = true)
    (houtcome : job.stage.outcome? = none) {schema : DoctypeSchema}
    (hschema : setting.schema? job.doctype = some schema) :
    schema.interfaceName ∉ progress.interfaces.names := by
  intro hname
  obtain ⟨other, hother, hstage, otherSchema, hotherSchema, hsame⟩ := h.mem_names_iff.1 hname
  have heq : other.doctype = job.doctype :=
    hapart _ _ (h.requestable hother) (h.requestable (by simp)) _ _ hotherSchema hschema hsame
  apply h.accounts.notMem_named_endedWith howns houtcome .updated
  rw [← heq]
  exact mem_named_iff.2 ⟨other, hother, endedWith_iff.2 hstage, rfl⟩

end Valid

/-- What holds at any time of a run without an earlier output. -/
def State.Orderly (setting : Setting) (roots : List String) : State → Prop
  | .running progress jobs => Valid setting .empty roots progress jobs ∧
      Linked setting .empty roots jobs ∧ Ordered setting progress.interfaces jobs
  | .failed failure => (State.failed failure).Sound setting .empty roots

theorem State.Orderly.sound {state : State} (h : state.Orderly setting roots) :
    state.Sound setting .empty roots := by
  cases state with
  | running progress jobs => exact h.1
  | failed failure => exact h

theorem orderly_of_step (hapart : setting.NamesApart .empty roots) {state next : State}
    (h : state.Orderly setting roots) (hstep : Step setting state next) :
    next.Orderly setting roots := by
  have hsound := sound_of_step hapart h.sound hstep
  cases hstep with
  | @advanced progress front back job result hadvance =>
    obtain ⟨hvalid, hlinked, hordered⟩ := h
    cases result with
    | error failure => exact hsound
    | ok move =>
      obtain ⟨hgoing, hinterfaces, hstage, -, hchildren⟩ :=
        (hvalid.advanced_of_advance hapart hadvance).effect
      have hspawned := hasSpawned_of_going hgoing
      refine ⟨hsound, hlinked.moved ?_ hchildren, ?_⟩
      · intro hbefore
        rw [hspawned] at hbefore
        cases hbefore
      · rw [hinterfaces]
        exact hordered.moved (not_hasEnded_of_going hgoing) fun hjoined => absurd hjoined hstage
  | @joined progress front back job schema hawaiting hjoined =>
    obtain ⟨hvalid, hlinked, hordered⟩ := h
    have hmem : job ∈ front ++ job :: back := by simp
    have hfaithful := hvalid.faithful job hmem
    rw [hawaiting] at hfaithful
    have hschema := Setting.schema?_of_seen hfaithful.1
    have hnew : schema.interfaceName ∉ progress.interfaces.names := by
      apply hvalid.notMem_names hapart _ _ hschema
      all_goals rw [hawaiting]
      all_goals rfl
    refine ⟨hsound, hlinked.moved (fun _ => rfl) (by simp), ?_⟩
    apply (hordered.extended schema.toInterface).moved
    · rintro ⟨outcome, hended⟩
      rw [hawaiting] at hended
      cases hended
    · refine fun _ => ⟨rfl, fun child hchild hparent => ⟨hjoined child hchild hparent, ?_⟩⟩
      intro hupdated s t hs ht
      obtain rfl := Option.some.inj (hschema.symm.trans hs)
      -- The interface of the child is there, and that of the parent comes last as it is new.
      have hthere : t.interfaceName ∈ progress.interfaces.names :=
        hvalid.mem_names_iff.2 ⟨child, hchild, hupdated, t, ht, rfl⟩
      have hnames : (progress.emitted schema.toInterface).interfaces.names =
          progress.interfaces.names ++ [schema.interfaceName] := by
        change (progress.interfaces.insert schema.toInterface).names = _
        rw [InterfaceSet.names_insert]
        exact if_neg hnew
      rw [hnames]
      exact standsBefore_append hthere (List.mem_singleton_self _)

theorem orderly_of_run (hapart : setting.NamesApart .empty roots) {state : State}
    (h : Runs setting (.start setting .empty roots) state) : state.Orderly setting roots := by
  induction h with
  | refl => exact ⟨.start setting .empty roots, .start roots, .start .empty _⟩
  | tail _ hstep ih => exact orderly_of_step hapart ih hstep

theorem outcome_of_schema? {doctype : String} {schema : DoctypeSchema}
    (h : setting.schema? doctype = some schema) : setting.outcome .empty doctype = .updated := by
  rw [Setting.outcome_of_some (Setting.seen_of_schema? h)]
  rfl

theorem Valid.exists_updated (h : Valid setting .empty roots progress jobs)
    (hended : ∀ job ∈ jobs, job.HasEnded) {doctype : String} {schema : DoctypeSchema}
    (hrequestable : setting.Requestable .empty roots doctype)
    (hschema : setting.schema? doctype = some schema) :
    ∃ job ∈ jobs, job.stage = .ended (some .updated) ∧ job.doctype = doctype := by
  obtain ⟨job, hjob, hstage, hdoctype, -⟩ :=
    h.exists_ended hended ((h.mem_processed_iff hended).2 hrequestable)
  rw [outcome_of_schema? hschema] at hstage
  exact ⟨job, hjob, hstage, hdoctype⟩

theorem declaresChildrenFirst_of_requestsOnce (hapart : setting.NamesApart .empty roots)
    (honce : setting.RequestsOnce roots)
    (h : Finishes setting (.start setting .empty roots) (.running progress jobs)) :
    setting.DeclaresChildrenFirst roots progress.interfaces := by
  obtain ⟨hvalid, hlinked, hordered⟩ := orderly_of_run hapart h.1
  have hended := hasEnded_of_stuck hvalid.wired h.2
  -- The job that has seen to a child doctype can only have been requested by the parent.
  intro parent hparent child hchild s t hs ht
  obtain ⟨job, hjob, hstage, rfl⟩ := hvalid.exists_updated hended (hparent.tail hchild) ht
  obtain ⟨hroot, hother⟩ := honce parent hparent job.doctype hchild (by rw [ht]; rfl)
  cases hrequester : job.parent with
  | none => exact absurd (hlinked.root job hjob hrequester) hroot
  | some index =>
    obtain ⟨requester, hindex, hspawned, hvisited⟩ := hlinked.child job hjob index hrequester
    have hmem := List.mem_of_getElem? hindex
    have hsame := hother requester.doctype (hvalid.requestable hmem) hvisited
    have hjoined := updated_of_hasSpawned hspawned (hended requester hmem)
    rw [← hsame] at hs
    exact (hordered job hjob index requester hrequester hindex hjoined).2 hstage s t hs ht

end DoctypeInterfaces.Scheduling
