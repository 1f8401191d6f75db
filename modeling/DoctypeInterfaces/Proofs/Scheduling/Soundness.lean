import DoctypeInterfaces.Proofs.Scheduling.Invariant

namespace DoctypeInterfaces.Scheduling

open Storage

variable {setting : Setting} {earlier : InterfaceSet} {roots : List String} {progress : Progress}
  {front back jobs : List Job} {job : Job}

def State.Sound (setting : Setting) (earlier : InterfaceSet) (roots : List String) : State → Prop
  | .running progress jobs => Valid setting earlier roots progress jobs
  | .failed failure => ∃ doctype, setting.Requestable earlier roots doctype ∧
      setting.seen doctype = .error failure

namespace Valid

theorem mem_processed (h : Valid setting earlier roots progress jobs) (hjob : job ∈ jobs)
    (howns : job.stage.owns = true) : job.doctype ∈ progress.processed :=
  h.accounts.mem_processed hjob howns

theorem requestable (h : Valid setting earlier roots progress jobs) (hjob : job ∈ jobs) :
    setting.Requestable earlier roots job.doctype :=
  h.wired.requestable job.doctype (List.mem_map_of_mem hjob)

theorem settled (h : Valid setting earlier roots progress (front ++ job :: back))
    (hpending : job.stage.isPending = true) {result : Except Failure Move}
    (hsettled : Settled setting earlier progress job.doctype result) :
    (State.after front job back result).Sound setting earlier roots := by
  have hrequestable : setting.Requestable earlier roots job.doctype := h.requestable (by simp)
  have howns := Stage.owns_of_isPending hpending
  have houtcome := Stage.outcome?_of_isPending hpending
  cases hsettled with
  | failed failure hseen => exact ⟨job.doctype, hrequestable, hseen⟩
  | @pending locator stage hconsistent hstage hfaithful =>
    refine ⟨hconsistent, faithful_moved h.faithful (fun _ hd => hd) hfaithful, ?_, ?_⟩
    · apply h.wired.moved (by simp)
      intro hspawned
      rw [Stage.hasSpawned_of_isPending hstage] at hspawned
      cases hspawned
    · refine (h.accounts.relocated locator progress.messages).kept ?_ ?_
      · rw [howns, Stage.owns_of_isPending hstage]
      · rw [houtcome, Stage.outcome?_of_isPending hstage]
  | @missing locator hconsistent hseen =>
    refine ⟨hconsistent, faithful_moved h.faithful (fun _ hd => hd) ?_, ?_, ?_⟩
    · exact ⟨Setting.outcome_of_none hseen, none, hseen⟩
    · exact h.wired.moved (by simp) (by simp [Stage.hasSpawned])
    · have haccounts := h.accounts.relocated locator progress.messages
      exact (haccounts.missed job.doctype).ended howns houtcome
  | @current locator schema hconsistent hseen hcurrent =>
    refine ⟨hconsistent, faithful_moved h.faithful (fun _ hd => hd) ?_, ?_, ?_⟩
    · refine ⟨?_, some schema, hseen⟩
      rw [Setting.outcome_of_some hseen, hcurrent]
      rfl
    · exact h.wired.moved (by simp) (by simp [Stage.hasSpawned])
    · have haccounts := h.accounts.relocated locator progress.messages
      exact (haccounts.passed job.doctype).ended howns houtcome
  | @outdated locator schema hconsistent hseen houtdated =>
    have hchildren := Setting.visitedFrom_of_outdated hseen houtdated
    refine ⟨hconsistent, faithful_moved h.faithful (fun _ hd => hd) ⟨hseen, houtdated⟩, ?_, ?_⟩
    · refine h.wired.moved ?_ fun _ => .inr hchildren
      intro child hchild
      exact hrequestable.tail (hchildren ▸ hchild)
    · exact (h.accounts.relocated locator _).kept howns.symm houtcome.symm

theorem advanced (h : Valid setting earlier roots progress (front ++ job :: back))
    {result : Except Failure Move} (hadvanced : Advanced setting earlier progress job result) :
    (State.after front job back result).Sound setting earlier roots := by
  cases hadvanced with
  | repeated hrequested hprocessed =>
    refine ⟨h.consistent, faithful_moved h.faithful (fun _ hd => hd) hprocessed, ?_, ?_⟩
    · exact h.wired.moved (by simp) (by simp [Stage.hasSpawned])
    · exact h.accounts.kept (by rw [hrequested]; rfl) (by rw [hrequested]; rfl)
  | @entered stage hrequested hnew hpending hfaithful hconsistent =>
    have hsubset : ∀ doctype ∈ progress.processed, doctype ∈ job.doctype :: progress.processed :=
      fun _ => List.mem_cons_of_mem _
    refine ⟨hconsistent, faithful_moved h.faithful hsubset (hfaithful.mono hsubset), ?_, ?_⟩
    · apply h.wired.moved (by simp)
      intro hspawned
      rw [Stage.hasSpawned_of_isPending hpending] at hspawned
      cases hspawned
    · exact h.accounts.begun hrequested hnew hpending
  | settled hpending hsettled => exact h.settled hpending hsettled

theorem advanced_of_advance (h : Valid setting earlier roots progress (front ++ job :: back))
    (hapart : setting.NamesApart earlier roots) {result : Except Failure Move}
    (hadvance : advance setting progress job = some result) :
    Advanced setting earlier progress job result := by
  have hmem : job ∈ front ++ job :: back := by simp
  refine Scheduling.advanced_of_advance h.consistent (h.wired.apps job hmem)
    (h.faithful job hmem) ?_ ?_ hadvance
  · intro hpending
    exact h.mem_processed hmem (Stage.owns_of_isPending hpending)
  · intro hpending schema hseen
    exact h.isOutdated_eq hapart (Stage.owns_of_isPending hpending)
      (Stage.outcome?_of_isPending hpending) hseen

theorem joined (h : Valid setting earlier roots progress (front ++ job :: back))
    {schema : DoctypeSchema} (hstage : job.stage = .awaiting schema) :
    Valid setting earlier roots (progress.emitted schema.toInterface)
      (moved front job back (.ended (some .updated)) []) := by
  have hfaithful := h.faithful job (by simp)
  rw [hstage] at hfaithful
  obtain ⟨hseen, houtdated⟩ := hfaithful
  have howns : job.stage.owns = true := by
    rw [hstage]
    rfl
  have houtcome : job.stage.outcome? = none := by
    rw [hstage]
    rfl
  have hspawned : job.stage.hasSpawned = true := by
    rw [hstage]
    rfl
  refine ⟨h.consistent, faithful_moved h.faithful (fun _ hd => hd) ?_, ?_, ?_⟩
  · refine ⟨?_, some schema, hseen⟩
    rw [Setting.outcome_of_some hseen, if_pos houtdated]
  · exact h.wired.moved (by simp) fun _ => .inl hspawned
  · exact (h.accounts.emitted (Setting.schema?_of_seen hseen)).ended howns houtcome

end Valid

theorem sound_of_step (hapart : setting.NamesApart earlier roots) {state next : State}
    (h : state.Sound setting earlier roots) (hstep : Step setting state next) :
    next.Sound setting earlier roots := by
  cases hstep with
  | @advanced progress front back job result hadvance =>
    have hvalid : Valid setting earlier roots progress (front ++ job :: back) := h
    exact hvalid.advanced (hvalid.advanced_of_advance hapart hadvance)
  | joined hstage _ => exact Valid.joined h hstage

theorem sound_of_run (hapart : setting.NamesApart earlier roots) {state : State}
    (h : Runs setting (.start setting earlier roots) state) :
    state.Sound setting earlier roots := by
  induction h with
  | refl => exact Valid.start setting earlier roots
  | tail _ hstep ih => exact sound_of_step hapart ih hstep

end DoctypeInterfaces.Scheduling
