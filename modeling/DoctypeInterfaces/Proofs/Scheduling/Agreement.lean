import DoctypeInterfaces.Proofs.Scheduling.Soundness

namespace DoctypeInterfaces

/-- Whether two runs have come to the same, but for the order in which they have come to it. -/
structure Progress.Agrees (progress other : Progress) : Prop where
  processed : progress.processed.Perm other.processed
  changed : progress.changed = other.changed
  skipped : progress.skipped = other.skipped
  total : progress.interfaces.size = other.interfaces.size
  notFound : progress.notFound.Perm other.notFound
  interfaces : ∀ name, progress.interfaces.get? name = other.interfaces.get? name

namespace Scheduling

open Storage

variable {setting : Setting} {earlier : InterfaceSet} {roots : List String} {progress : Progress}
  {front back jobs : List Job} {job : Job}

/-- Two runs that have both failed, or have both succeeded and agree. -/
inductive State.Agrees : State → State → Prop where
  | failed (failure other : Failure) : Agrees (.failed failure) (.failed other)
  | succeeded {progress other : Progress} {jobs otherJobs : List Job} :
    (∀ job ∈ jobs, job.HasEnded) → (∀ job ∈ otherJobs, job.HasEnded) → progress.Agrees other →
    Agrees (.running progress jobs) (.running other otherJobs)

theorem ended_or_exists_last (jobs : List Job) :
    (∀ job ∈ jobs, job.HasEnded) ∨
      ∃ front job back, jobs = front ++ job :: back ∧ ¬ job.HasEnded ∧
        ∀ later ∈ back, later.HasEnded := by
  induction jobs with
  | nil => exact .inl fun job hjob => absurd hjob List.not_mem_nil
  | cons first rest ih =>
    rcases ih with hrest | ⟨front, job, back, rfl, hjob, hback⟩
    · by_cases hfirst : first.HasEnded
      · exact .inl (List.forall_mem_cons.2 ⟨hfirst, hrest⟩)
      · exact .inr ⟨[], first, rest, rfl, hfirst, hrest⟩
    · exact .inr ⟨first :: front, job, back, rfl, hjob, hback⟩

theorem Wired.mem_back_of_parent (h : Wired setting earlier roots (front ++ job :: back))
    {child : Job} (hchild : child ∈ front ++ job :: back)
    (hparent : child.parent = some front.length) : child ∈ back := by
  obtain ⟨index, hindex⟩ := List.mem_iff_getElem?.1 hchild
  have hlater : front.length < index := by
    apply h.parents index front.length
    rw [List.getElem?_map, hindex, Option.map_some, hparent]
  rw [List.getElem?_append_right hlater.le] at hindex
  obtain ⟨offset, hoffset⟩ := Nat.exists_eq_succ_of_ne_zero (Nat.sub_ne_zero_of_lt hlater)
  rw [hoffset, List.getElem?_cons_succ] at hindex
  exact List.mem_of_getElem? hindex

theorem hasEnded_of_stuck (hwired : Wired setting earlier roots jobs)
    (hstuck : ∀ next, ¬ Step setting (.running progress jobs) next) :
    ∀ job ∈ jobs, job.HasEnded := by
  rcases ended_or_exists_last jobs with hended | ⟨front, job, back, rfl, hjob, hback⟩
  · exact hended
  -- The child jobs of the last job that has not ended come after it, so that it waits for none.
  exfalso
  have hmove : ∀ result, advance setting progress job ≠ some result :=
    fun result hresult => hstuck _ (.advanced hresult)
  cases hstage : job.stage with
  | requested => exact hmove _ (advance_requested hstage)
  | searching c next => exact hmove _ (advance_searching hstage)
  | loading c next => exact hmove _ (advance_loading hstage)
  | awaiting schema =>
    apply hstuck _ (.joined hstage _)
    intro child hchild hparent
    exact hback child (hwired.mem_back_of_parent hchild hparent)
  | ended outcome => exact hjob ⟨outcome, hstage⟩

namespace Valid

variable (h : Valid setting earlier roots progress jobs) (hended : ∀ job ∈ jobs, job.HasEnded)

include h in
theorem exists_owner {doctype : String} (hprocessed : doctype ∈ progress.processed) :
    ∃ job ∈ jobs, job.stage.owns = true ∧ job.doctype = doctype :=
  mem_named_iff.1 (h.accounts.processed.mem_iff.2 hprocessed)

include h in
theorem mem_processed_of_begun (hjob : job ∈ jobs) (hbegun : job.stage ≠ .requested) :
    job.doctype ∈ progress.processed := by
  have hfaithful := h.faithful job hjob
  cases hstage : job.stage with
  | requested => exact absurd hstage hbegun
  | ended outcome =>
    cases outcome with
    | none =>
      rw [hstage] at hfaithful
      exact hfaithful
    | some outcome => exact h.mem_processed hjob (by rw [hstage]; rfl)
  | _ => exact h.mem_processed hjob (by rw [hstage]; rfl)

include h hended

theorem exists_ended {doctype : String} (hprocessed : doctype ∈ progress.processed) :
    ∃ job ∈ jobs, job.stage = .ended (some (setting.outcome earlier doctype)) ∧
      job.doctype = doctype ∧ ∃ found, setting.seen doctype = .ok found := by
  obtain ⟨job, hjob, howns, rfl⟩ := h.exists_owner hprocessed
  have hfaithful := h.faithful job hjob
  obtain ⟨outcome, hstage⟩ := hended job hjob
  rw [hstage] at hfaithful howns
  cases outcome with
  | none => cases howns
  | some outcome =>
    obtain ⟨rfl, hfound⟩ := hfaithful
    exact ⟨job, hjob, hstage, rfl, hfound⟩

theorem mem_processed_of_job {doctype : String} (hdoctype : doctype ∈ jobs.map Job.doctype) :
    doctype ∈ progress.processed := by
  obtain ⟨job, hjob, rfl⟩ := List.mem_map.1 hdoctype
  obtain ⟨outcome, hstage⟩ := hended job hjob
  apply h.mem_processed_of_begun hjob
  rw [hstage]
  exact nofun

theorem mem_processed_iff {doctype : String} :
    doctype ∈ progress.processed ↔ setting.Requestable earlier roots doctype := by
  constructor
  · intro hprocessed
    obtain ⟨job, hjob, -, rfl⟩ := h.exists_owner hprocessed
    exact h.requestable hjob
  · rintro ⟨root, hroot, hreaches⟩
    induction hreaches with
    | refl => exact h.mem_processed_of_job hended (h.wired.roots root hroot)
    | @tail parent child _ hchild ih =>
      obtain ⟨job, hjob, hstage, rfl, -⟩ := h.exists_ended hended ih
      rw [Setting.outcome_of_mem_visitedFrom hchild] at hstage
      have hspawned : job.stage.hasSpawned = true := by
        rw [hstage]
        rfl
      exact h.mem_processed_of_job hended (h.wired.spawned job hjob hspawned child hchild)

theorem named_endedWith_perm (outcome : Outcome) :
    (named (Stage.endedWith outcome) jobs).Perm
      (progress.processed.filter fun doctype => setting.outcome earlier doctype = outcome) := by
  have hnamed : named (Stage.endedWith outcome) jobs =
      (named Stage.owns jobs).filter fun doctype => setting.outcome earlier doctype = outcome := by
    rw [named, named, List.filter_map, List.filter_filter]
    congr 1
    apply List.filter_congr
    intro job hjob
    obtain ⟨ended, hstage⟩ := hended job hjob
    have hfaithful := h.faithful job hjob
    rw [hstage] at hfaithful ⊢
    cases ended with
    | none => exact (Bool.and_false _).symm
    | some ended =>
      obtain ⟨rfl, -⟩ := hfaithful
      exact (Bool.and_true _).symm
  rw [hnamed]
  exact h.accounts.processed.filter _

end Valid

/-- Two runs that have succeeded agree, if their roots lead to the same doctypes. -/
theorem Valid.agrees {other : Progress} {otherRoots : List String} {otherJobs : List Job}
    (hapart : setting.NamesApart earlier roots)
    (hsame : ∀ doctype, setting.Requestable earlier roots doctype ↔
      setting.Requestable earlier otherRoots doctype)
    (h : Valid setting earlier roots progress jobs) (hended : ∀ job ∈ jobs, job.HasEnded)
    (hother : Valid setting earlier otherRoots other otherJobs)
    (hotherEnded : ∀ job ∈ otherJobs, job.HasEnded) : progress.Agrees other := by
  have hprocessed : progress.processed.Perm other.processed := by
    rw [List.perm_ext_iff_of_nodup h.accounts.nodup hother.accounts.nodup]
    intro doctype
    rw [h.mem_processed_iff hended, hother.mem_processed_iff hotherEnded, hsame]
  have hnamed : ∀ outcome, (named (Stage.endedWith outcome) jobs).Perm
      (named (Stage.endedWith outcome) otherJobs) := fun outcome =>
    (h.named_endedWith_perm hended outcome).trans
      ((hprocessed.filter _).trans (hother.named_endedWith_perm hotherEnded outcome).symm)
  have hinterfaces : ∀ name, progress.interfaces.get? name = other.interfaces.get? name := by
    intro name
    obtain ⟨emitted, hemitted, hset⟩ := h.accounts.interfaces
    obtain ⟨otherEmitted, hotherEmitted, hotherSet⟩ := hother.accounts.interfaces
    have hperm : emitted.Perm otherEmitted :=
      hemitted.symm.trans ((hnamed .updated).trans hotherEmitted)
    rw [hset, hotherSet]
    apply InterfaceSet.get?_insertAll_perm
    · intro i hi j hj hname
      obtain ⟨s, hs, rfl⟩ := List.mem_map.1 hi
      obtain ⟨t, ht, rfl⟩ := List.mem_map.1 hj
      obtain ⟨a, ha, has⟩ := List.mem_filterMap.1 hs
      obtain ⟨b, hb, hbt⟩ := List.mem_filterMap.1 ht
      have hrequestable : ∀ doctype ∈ emitted, setting.Requestable earlier roots doctype := by
        intro doctype hdoctype
        obtain ⟨job, hjob, -, rfl⟩ := mem_named_iff.1 (hemitted.mem_iff.2 hdoctype)
        exact h.requestable hjob
      obtain rfl := hapart a b (hrequestable a ha) (hrequestable b hb) s t has hbt hname
      rw [has] at hbt
      rw [Option.some.inj hbt]
    · exact (hperm.filterMap _).map _
  refine ⟨hprocessed, ?_, ?_, InterfaceSet.size_eq_of_get?_eq hinterfaces, ?_, hinterfaces⟩
  · rw [← h.accounts.changed, ← hother.accounts.changed, (hnamed .updated).length_eq]
  · rw [← h.accounts.skipped, ← hother.accounts.skipped, (hnamed .skipped).length_eq]
  · exact h.accounts.notFound.symm.trans ((hnamed .notFound).trans hother.accounts.notFound)

theorem Valid.not_seen_error (h : Valid setting earlier roots progress jobs)
    (hended : ∀ job ∈ jobs, job.HasEnded) {doctype : String} {failure : Failure}
    (hrequestable : setting.Requestable earlier roots doctype) :
    setting.seen doctype ≠ .error failure := by
  intro hseen
  obtain ⟨job, -, -, -, found, hfound⟩ :=
    h.exists_ended hended ((h.mem_processed_iff hended).2 hrequestable)
  rw [hseen] at hfound
  cases hfound

theorem Setting.requestable_of_perm {otherRoots : List String} (h : roots.Perm otherRoots)
    (doctype : String) :
    setting.Requestable earlier roots doctype ↔
      setting.Requestable earlier otherRoots doctype := by
  simp only [Requestable, h.mem_iff]

/-- Any two maximal runs agree, for any two orders of the same roots. -/
theorem agrees_of_finishes {otherRoots : List String} {final otherFinal : State}
    (hroots : roots.Perm otherRoots) (hapart : setting.NamesApart earlier roots)
    (h : Finishes setting (.start setting earlier roots) final)
    (hother : Finishes setting (.start setting earlier otherRoots) otherFinal) :
    final.Agrees otherFinal := by
  have hsame : ∀ doctype, setting.Requestable earlier roots doctype ↔
      setting.Requestable earlier otherRoots doctype := Setting.requestable_of_perm hroots
  have hotherApart : setting.NamesApart earlier otherRoots := by
    intro a b ha hb
    exact hapart a b ((hsame a).2 ha) ((hsame b).2 hb)
  have hsound := sound_of_run hapart h.1
  have hotherSound := sound_of_run hotherApart hother.1
  cases final with
  | failed failure =>
    cases otherFinal with
    | failed otherFailure => exact .failed failure otherFailure
    | running other otherJobs =>
      obtain ⟨doctype, hrequestable, hseen⟩ := hsound
      have hvalid : Valid setting earlier otherRoots other otherJobs := hotherSound
      have hended := hasEnded_of_stuck hvalid.wired hother.2
      exact absurd hseen (hvalid.not_seen_error hended ((hsame doctype).1 hrequestable))
  | running progress jobs =>
    have hvalid : Valid setting earlier roots progress jobs := hsound
    have hended := hasEnded_of_stuck hvalid.wired h.2
    cases otherFinal with
    | failed otherFailure =>
      obtain ⟨doctype, hrequestable, hseen⟩ := hotherSound
      exact absurd hseen (hvalid.not_seen_error hended ((hsame doctype).2 hrequestable))
    | running other otherJobs =>
      have hotherValid : Valid setting earlier otherRoots other otherJobs := hotherSound
      have hotherEnded := hasEnded_of_stuck hotherValid.wired hother.2
      have hagrees := hvalid.agrees hapart hsame hended hotherValid hotherEnded
      exact .succeeded hended hotherEnded hagrees

end Scheduling

end DoctypeInterfaces
