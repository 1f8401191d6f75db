import DoctypeInterfaces.Proofs.Scheduling.Moves

namespace DoctypeInterfaces.Scheduling

open Storage

def Stage.endedWith (outcome : Outcome) (stage : Stage) : Bool :=
  stage.outcome? == some outcome

theorem Stage.owns_of_endedWith {outcome : Outcome} {stage : Stage}
    (h : stage.endedWith outcome = true) : stage.owns = true := by
  cases stage with
  | ended outcome =>
    cases outcome with
    | none => cases h
    | some outcome => rfl
  | requested => cases h
  | searching c next => cases h
  | loading c next => cases h
  | awaiting schema => cases h

section Moved

variable {front back : List Job} {job : Job} {stage : Stage} {children : List String}

theorem named_endedWith_moved (outcome : Outcome) (h : stage.outcome? = job.stage.outcome?) :
    named (Stage.endedWith outcome) (moved front job back stage children) =
      named (Stage.endedWith outcome) (front ++ job :: back) := by
  apply named_moved rfl
  rw [Stage.endedWith, Stage.endedWith, h]

/-- The doctypes of each outcome when one more has come to an outcome. -/
def settle (settled : Outcome → List String) (outcome : Outcome) (doctype : String) :
    Outcome → List String :=
  Function.update settled outcome (doctype :: settled outcome)

theorem named_endedWith_ended {outcome : Outcome} (h : job.stage.outcome? = none)
    (other : Outcome) :
    (named (Stage.endedWith other)
        (moved front job back (.ended (some outcome)) children)).Perm
      (settle (fun other => named (Stage.endedWith other) (front ++ job :: back)) outcome
        job.doctype other) := by
  by_cases hne : other = outcome
  · subst hne
    rw [settle, Function.update_self]
    apply named_moved_perm rfl
    · rw [Stage.endedWith, h]
      rfl
    · exact beq_self_eq_true _
  · rw [settle, Function.update_of_ne hne]
    apply List.Perm.of_eq
    apply named_moved rfl
    rw [Stage.endedWith, Stage.endedWith, h]
    exact beq_eq_false_iff_ne.2 fun heq => hne (Option.some.inj heq).symm

end Moved

structure Wired (setting : Setting) (earlier : InterfaceSet) (roots : List String)
    (jobs : List Job) : Prop where
  apps : ∀ job ∈ jobs, job.app = setting.app
  requestable : ∀ doctype ∈ jobs.map Job.doctype, setting.Requestable earlier roots doctype
  roots : ∀ root ∈ roots, root ∈ jobs.map Job.doctype
  spawned : ∀ job ∈ jobs, job.stage.hasSpawned = true →
    ∀ child ∈ visitedFrom earlier setting.schema? job.doctype, child ∈ jobs.map Job.doctype
  parents : ∀ index parent : Nat,
    (jobs.map Job.parent)[index]? = some (some parent) → parent < index

/-- Whether a progress is what the doctypes make of it that jobs see to, and that have come to each
of the outcomes. -/
structure Accounts (setting : Setting) (earlier : InterfaceSet) (progress : Progress)
    (owned : List String) (settled : Outcome → List String) : Prop where
  nodup : progress.processed.Nodup
  processed : owned.Perm progress.processed
  notFound : (settled .notFound).Perm progress.notFound
  skipped : (settled .skipped).length = progress.skipped
  changed : (settled .updated).length = progress.changed
  interfaces : ∃ emitted, (settled .updated).Perm emitted ∧ progress.interfaces =
    earlier.insertAll ((emitted.filterMap setting.schema?).map DoctypeSchema.toInterface)

abbrev JobAccounts (setting : Setting) (earlier : InterfaceSet) (progress : Progress)
    (jobs : List Job) : Prop :=
  Accounts setting earlier progress (named Stage.owns jobs) fun outcome =>
    named (Stage.endedWith outcome) jobs

structure Valid (setting : Setting) (earlier : InterfaceSet) (roots : List String)
    (progress : Progress) (jobs : List Job) : Prop where
  consistent : progress.Consistent setting.appsPath
  faithful : ∀ job ∈ jobs, job.stage.IsFaithful setting earlier progress.processed job.doctype
  wired : Wired setting earlier roots jobs
  accounts : JobAccounts setting earlier progress jobs

variable {setting : Setting} {earlier : InterfaceSet} {roots : List String} {progress : Progress}
  {front back jobs : List Job} {job : Job}

theorem Wired.moved (h : Wired setting earlier roots (front ++ job :: back)) {stage : Stage}
    {children : List String} (hchildren : ∀ child ∈ children,
      setting.Requestable earlier roots child)
    (hspawned : stage.hasSpawned = true → job.stage.hasSpawned = true ∨
      visitedFrom earlier setting.schema? job.doctype = children) :
    Wired setting earlier roots (moved front job back stage children) := by
  have hmono : ∀ doctype ∈ (front ++ job :: back).map Job.doctype,
      doctype ∈ (Scheduling.moved front job back stage children).map Job.doctype := by
    intro doctype hdoctype
    rw [map_doctype_moved]
    exact List.mem_append_left _ hdoctype
  have hmem : job ∈ front ++ job :: back := by simp
  refine ⟨?_, ?_, fun root hroot => hmono root (h.roots root hroot), ?_, ?_⟩
  · intro other hother
    rcases mem_moved hother with rfl | hold | ⟨_, -, rfl⟩
    · exact h.apps job hmem
    · exact h.apps other hold
    · exact h.apps job hmem
  · intro doctype hdoctype
    rw [map_doctype_moved, List.mem_append] at hdoctype
    rcases hdoctype with hold | hnew
    · exact h.requestable doctype hold
    · exact hchildren doctype hnew
  · intro other hother hstage child hchild
    rcases mem_moved hother with rfl | hold | ⟨_, -, rfl⟩
    · rcases hspawned hstage with hbefore | heq
      · exact hmono child (h.spawned job hmem hbefore child hchild)
      · rw [map_doctype_moved, ← heq]
        exact List.mem_append_right _ hchild
    · exact hmono child (h.spawned other hold hstage child hchild)
    · cases hstage
  · intro index parent hindex
    rw [map_parent_moved] at hindex
    by_cases hlength : index < ((front ++ job :: back).map Job.parent).length
    · rw [List.getElem?_append_left hlength] at hindex
      exact h.parents index parent hindex
    · rw [List.getElem?_append_right (Nat.le_of_not_lt hlength), List.getElem?_map,
        Option.map_eq_some_iff] at hindex
      obtain ⟨child, -, hparent⟩ := hindex
      obtain rfl := Option.some.inj hparent
      simp only [List.length_map, List.length_append, List.length_cons] at hlength
      omega

theorem Wired.start (roots : List String) :
    Wired setting earlier roots
      (requestedBy none (roots.map fun root => (setting.app, root))) := by
  have hdoctypes : (requestedBy none (roots.map fun root => (setting.app, root))).map
      Job.doctype = roots := by
    rw [map_doctype_requestedBy, List.map_map]
    exact List.map_id roots
  refine ⟨?_, ?_, ?_, ?_, ?_⟩
  · intro job hjob
    obtain ⟨request, hrequest, rfl⟩ := List.mem_map.1 hjob
    obtain ⟨root, -, rfl⟩ := List.mem_map.1 hrequest
    rfl
  · intro doctype hdoctype
    rw [hdoctypes] at hdoctype
    exact ⟨doctype, hdoctype, .refl⟩
  · intro root hroot
    rw [hdoctypes]
    exact hroot
  · intro job hjob hstage
    obtain ⟨request, -, rfl⟩ := List.mem_map.1 hjob
    cases hstage
  · intro index parent hindex
    rw [requestedBy, List.map_map, List.getElem?_map, Option.map_eq_some_iff] at hindex
    obtain ⟨request, -, hparent⟩ := hindex
    cases hparent

namespace Accounts

theorem start (appsPath : Path) (requests : List (String × String)) :
    JobAccounts setting earlier (.onOutput appsPath earlier) (requestedBy none requests) := by
  refine ⟨.nil, ?_, ?_, ?_, ?_, [], ?_, rfl⟩
  all_goals rw [named_requestedBy rfl]
  all_goals rfl

section Changes

variable {owned : List String} {settled : Outcome → List String} {doctype : String}

theorem perm (h : Accounts setting earlier progress owned settled) {owned' : List String}
    {settled' : Outcome → List String} (howned : owned'.Perm owned)
    (hsettled : ∀ outcome, (settled' outcome).Perm (settled outcome)) :
    Accounts setting earlier progress owned' settled' := by
  obtain ⟨emitted, hemitted, hinterfaces⟩ := h.interfaces
  exact ⟨h.nodup, howned.trans h.processed, (hsettled _).trans h.notFound,
    (hsettled _).length_eq.trans h.skipped, (hsettled _).length_eq.trans h.changed, emitted,
    (hsettled _).trans hemitted, hinterfaces⟩

theorem relocated (h : Accounts setting earlier progress owned settled) (locator : Locator)
    (messages : StatusLog) :
    Accounts setting earlier { progress with locator := locator, messages := messages } owned
      settled :=
  ⟨h.nodup, h.processed, h.notFound, h.skipped, h.changed, h.interfaces⟩

theorem entered (h : Accounts setting earlier progress owned settled)
    (hnew : doctype ∉ progress.processed) :
    Accounts setting earlier (progress.entered doctype).searching (doctype :: owned) settled :=
  ⟨List.nodup_cons.2 ⟨hnew, h.nodup⟩, h.processed.cons doctype, h.notFound, h.skipped, h.changed,
    h.interfaces⟩

theorem missed (h : Accounts setting earlier progress owned settled) (doctype : String) :
    Accounts setting earlier (progress.missed doctype) owned
      (settle settled .notFound doctype) :=
  have hnotFound : (doctype :: settled .notFound).Perm (progress.notFound ++ [doctype]) :=
    (h.notFound.cons doctype).trans (List.perm_append_singleton _ _).symm
  ⟨h.nodup, h.processed, hnotFound, h.skipped, h.changed, h.interfaces⟩

theorem passed (h : Accounts setting earlier progress owned settled) (doctype : String) :
    Accounts setting earlier (progress.passed doctype) owned (settle settled .skipped doctype) :=
  ⟨h.nodup, h.processed, h.notFound, congrArg Nat.succ h.skipped, h.changed, h.interfaces⟩

theorem emitted (h : Accounts setting earlier progress owned settled) {schema : DoctypeSchema}
    (hschema : setting.schema? doctype = some schema) :
    Accounts setting earlier (progress.emitted schema.toInterface) owned
      (settle settled .updated doctype) := by
  obtain ⟨emitted, hperm, hinterfaces⟩ := h.interfaces
  refine ⟨h.nodup, h.processed, h.notFound, h.skipped, congrArg Nat.succ h.changed,
    emitted ++ [doctype], ?_, ?_⟩
  · exact (hperm.cons doctype).trans (List.perm_append_singleton _ _).symm
  · rw [List.filterMap_append, List.filterMap_cons_some hschema, List.filterMap_nil,
      List.map_append, InterfaceSet.insertAll_append, ← hinterfaces]
    rfl

end Changes

section Moves

variable {stage : Stage} {children : List String} {outcome : Outcome}

/-- The accounts stay as they are when a job moves on that neither begins to see to its doctype nor
ends. -/
theorem kept (h : JobAccounts setting earlier progress (front ++ job :: back))
    (howns : stage.owns = job.stage.owns) (houtcome : stage.outcome? = job.stage.outcome?) :
    JobAccounts setting earlier progress (moved front job back stage children) := by
  apply h.perm
  · rw [named_moved rfl howns]
  · intro outcome
    rw [named_endedWith_moved outcome houtcome]

theorem begun (h : JobAccounts setting earlier progress (front ++ job :: back))
    (hrequested : job.stage = .requested) (hnew : job.doctype ∉ progress.processed)
    (hpending : stage.isPending = true) :
    JobAccounts setting earlier (progress.entered job.doctype).searching
      (moved front job back stage children) := by
  apply (h.entered hnew).perm
  · apply named_moved_perm rfl
    · rw [hrequested]
      rfl
    · exact Stage.owns_of_isPending hpending
  · intro outcome
    rw [named_endedWith_moved]
    rw [Stage.outcome?_of_isPending hpending, hrequested]
    rfl

theorem ended
    (h : Accounts setting earlier progress (named Stage.owns (front ++ job :: back))
      (settle (fun other => named (Stage.endedWith other) (front ++ job :: back)) outcome
        job.doctype))
    (howns : job.stage.owns = true) (houtcome : job.stage.outcome? = none) :
    JobAccounts setting earlier progress
      (moved front job back (.ended (some outcome)) children) := by
  apply h.perm
  · rw [named_moved rfl howns.symm]
  · exact named_endedWith_ended houtcome

end Moves

theorem mem_processed (h : JobAccounts setting earlier progress jobs) (hjob : job ∈ jobs)
    (howns : job.stage.owns = true) : job.doctype ∈ progress.processed :=
  h.processed.mem_iff.1 (mem_named_iff.2 ⟨job, hjob, howns, rfl⟩)

theorem notMem_named_endedWith
    (h : JobAccounts setting earlier progress (front ++ job :: back))
    (howns : job.stage.owns = true) (houtcome : job.stage.outcome? = none) (outcome : Outcome) :
    job.doctype ∉ named (Stage.endedWith outcome) (front ++ job :: back) := by
  have hnodup := h.processed.nodup_iff.2 h.nodup
  rw [named_append, named_cons_of_pos howns, List.nodup_middle, List.nodup_cons, ← named_append]
    at hnodup
  intro hmem
  obtain ⟨other, hother, hended, hdoctype⟩ := mem_named_iff.1 hmem
  have hotherOwns := Stage.owns_of_endedWith hended
  rcases List.mem_append.1 hother with hfront | hback
  · exact hnodup.1 (mem_named_iff.2 ⟨other, List.mem_append_left _ hfront, hotherOwns, hdoctype⟩)
  · rcases List.mem_cons.1 hback with rfl | hback
    · rw [Stage.endedWith, houtcome] at hended
      cases hended
    · exact hnodup.1 (mem_named_iff.2 ⟨other, List.mem_append_right _ hback, hotherOwns, hdoctype⟩)

end Accounts

section Steps

variable {stage : Stage} {children : List String}

theorem faithful_moved {processed processed' : List String}
    (h : ∀ other ∈ front ++ job :: back,
      other.stage.IsFaithful setting earlier processed other.doctype)
    (hsubset : ∀ doctype ∈ processed, doctype ∈ processed')
    (hstage : stage.IsFaithful setting earlier processed' job.doctype) :
    ∀ other ∈ moved front job back stage children,
      other.stage.IsFaithful setting earlier processed' other.doctype := by
  intro other hother
  rcases mem_moved hother with rfl | hold | ⟨child, -, rfl⟩
  · exact hstage
  · exact (h other hold).mono hsubset
  · exact trivial

namespace Valid

theorem start (setting : Setting) (earlier : InterfaceSet) (roots : List String) :
    Valid setting earlier roots (.onOutput setting.appsPath earlier)
      (requestedBy none (roots.map fun root => (setting.app, root))) := by
  refine ⟨Progress.consistent_start, ?_, .start roots, .start setting.appsPath _⟩
  intro job hjob
  obtain ⟨request, -, rfl⟩ := List.mem_map.1 hjob
  exact trivial

/-- What other jobs have inserted has nothing to do with a doctype that is not settled yet. -/
theorem isOutdated_eq (h : Valid setting earlier roots progress (front ++ job :: back))
    (hapart : setting.NamesApart earlier roots) (howns : job.stage.owns = true)
    (houtcome : job.stage.outcome? = none) {schema : DoctypeSchema}
    (hseen : setting.seen job.doctype = .ok (some schema)) :
    progress.interfaces.isOutdated schema = earlier.isOutdated schema := by
  obtain ⟨emitted, hperm, hinterfaces⟩ := h.accounts.interfaces
  apply InterfaceSet.isOutdated_congr
  rw [hinterfaces]
  apply InterfaceSet.get?_insertAll_of_notMem
  intro hname
  obtain ⟨interface, hinterface, hname⟩ := List.mem_map.1 hname
  obtain ⟨other, hother, rfl⟩ := List.mem_map.1 hinterface
  obtain ⟨doctype, hdoctype, hschema⟩ := List.mem_filterMap.1 hother
  have hended := hperm.mem_iff.2 hdoctype
  obtain ⟨ended, hmem, -, rfl⟩ := mem_named_iff.1 hended
  -- An interface of the same name would come from the same doctype, which no other job sees to.
  have heq : ended.doctype = job.doctype :=
    hapart _ _ (h.wired.requestable _ (List.mem_map_of_mem hmem))
      (h.wired.requestable _ (by simp)) other schema hschema (Setting.schema?_of_seen hseen) hname
  rw [heq] at hended
  exact h.accounts.notMem_named_endedWith howns houtcome .updated hended

end Valid

end Steps

end DoctypeInterfaces.Scheduling
