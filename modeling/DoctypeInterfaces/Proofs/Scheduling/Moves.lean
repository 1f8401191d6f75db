import DoctypeInterfaces.Proofs.Scheduling.Jobs

namespace DoctypeInterfaces.Scheduling

open Storage

namespace Setting

variable (setting : Setting) (earlier : InterfaceSet) (roots : List String)

def schemaIn : Except Failure (Option Path) → Except Failure (Option DoctypeSchema)
  | .error failure => .error failure
  | .ok none => .ok none
  | .ok (some path) => ((loadSchema path).result setting.view).map some

def seen (doctype : String) : Except Failure (Option DoctypeSchema) :=
  setting.schemaIn ((setting.walk doctype).result setting.view)

def schema? (doctype : String) : Option DoctypeSchema :=
  (setting.seen doctype).toOption.join

/-- What becomes of a doctype upon the earlier interfaces. -/
def outcome (doctype : String) : Outcome :=
  match setting.schema? doctype with
  | none => .notFound
  | some schema => if earlier.isOutdated schema then .updated else .skipped

/-- The doctypes that can be requested in a run: the roots, and what emitted doctypes lead to. -/
def Requestable (doctype : String) : Prop :=
  ∃ root ∈ roots, DepthFirst.Reaches (visitedFrom earlier setting.schema?) root doctype

/-- Whether different doctypes that can be requested have different interface names. -/
def NamesApart : Prop :=
  ∀ a b, setting.Requestable earlier roots a → setting.Requestable earlier roots b →
    ∀ s t, setting.schema? a = some s → setting.schema? b = some t →
      s.interfaceName = t.interfaceName → a = b

variable {setting earlier roots} {doctype : String} {schema : DoctypeSchema}

theorem schema?_of_seen {found : Option DoctypeSchema} (h : setting.seen doctype = .ok found) :
    setting.schema? doctype = found := by
  rw [schema?, h]
  cases found <;> rfl

theorem seen_of_schema? (h : setting.schema? doctype = some schema) :
    setting.seen doctype = .ok (some schema) := by
  rw [schema?] at h
  cases hseen : setting.seen doctype with
  | error failure =>
    rw [hseen] at h
    cases h
  | ok found =>
    rw [hseen] at h
    obtain rfl : found = some schema := h
    rfl

theorem outcome_of_none (h : setting.seen doctype = .ok none) :
    setting.outcome earlier doctype = .notFound := by
  rw [outcome, schema?_of_seen h]

theorem outcome_of_some (h : setting.seen doctype = .ok (some schema)) :
    setting.outcome earlier doctype =
      if earlier.isOutdated schema then .updated else .skipped := by
  rw [outcome, schema?_of_seen h]

theorem visitedFrom_of_outdated (h : setting.seen doctype = .ok (some schema))
    (houtdated : earlier.isOutdated schema = true) :
    visitedFrom earlier setting.schema? doctype = schema.childDoctypes :=
  visitedFrom_of_some (outdated?_of_outdated (schema?_of_seen h) houtdated)

theorem exists_schema_of_mem_visitedFrom {child : String}
    (h : child ∈ visitedFrom earlier setting.schema? doctype) :
    ∃ schema, setting.seen doctype = .ok (some schema) ∧ earlier.isOutdated schema = true ∧
      child ∈ schema.childDoctypes := by
  rw [visitedFrom] at h
  cases houtdated : outdated? earlier setting.schema? doctype with
  | none =>
    rw [houtdated] at h
    cases h
  | some schema =>
    rw [houtdated] at h
    obtain ⟨hschema, hemitted⟩ := Option.filter_eq_some_iff.1 houtdated
    exact ⟨schema, seen_of_schema? hschema, hemitted, h⟩

theorem outcome_of_mem_visitedFrom {child : String}
    (h : child ∈ visitedFrom earlier setting.schema? doctype) :
    setting.outcome earlier doctype = .updated := by
  obtain ⟨schema, hseen, houtdated, -⟩ := exists_schema_of_mem_visitedFrom h
  rw [outcome_of_some hseen, if_pos houtdated]

theorem Requestable.tail {child : String} (h : setting.Requestable earlier roots doctype)
    (hchild : child ∈ visitedFrom earlier setting.schema? doctype) :
    setting.Requestable earlier roots child := by
  obtain ⟨root, hroot, hreaches⟩ := h
  exact ⟨root, hroot, hreaches.tail hchild⟩

end Setting

namespace Stage

def owns : Stage → Bool
  | .requested => false
  | .ended none => false
  | _ => true

def hasSpawned : Stage → Bool
  | .awaiting _ => true
  | .ended (some .updated) => true
  | _ => false

def outcome? : Stage → Option Outcome
  | .ended outcome => outcome
  | _ => none

theorem exists_of_isPending {stage : Stage} (h : stage.isPending = true) :
    (∃ c next, stage = .searching c next) ∨ ∃ c next, stage = .loading c next := by
  cases stage with
  | searching c next => exact .inl ⟨c, next, rfl⟩
  | loading c next => exact .inr ⟨c, next, rfl⟩
  | requested => cases h
  | awaiting schema => cases h
  | ended outcome => cases h

theorem owns_of_isPending {stage : Stage} (h : stage.isPending = true) : stage.owns = true := by
  obtain ⟨c, next, rfl⟩ | ⟨c, next, rfl⟩ := exists_of_isPending h <;> rfl

theorem outcome?_of_isPending {stage : Stage} (h : stage.isPending = true) :
    stage.outcome? = none := by
  obtain ⟨c, next, rfl⟩ | ⟨c, next, rfl⟩ := exists_of_isPending h <;> rfl

theorem hasSpawned_of_isPending {stage : Stage} (h : stage.isPending = true) :
    stage.hasSpawned = false := by
  obtain ⟨c, next, rfl⟩ | ⟨c, next, rfl⟩ := exists_of_isPending h <;> rfl

/-- Whether a job is on the way to what is seen of its doctype, or has come there. -/
def IsFaithful (setting : Setting) (earlier : InterfaceSet) (processed : List String)
    (doctype : String) : Stage → Prop
  | .requested => True
  | .searching c next =>
    setting.schemaIn ((next (setting.view c)).result setting.view) = setting.seen doctype
  | .loading c next =>
    ((next (setting.view c)).result setting.view).map some = setting.seen doctype
  | .awaiting schema =>
    setting.seen doctype = .ok (some schema) ∧ earlier.isOutdated schema = true
  | .ended none => doctype ∈ processed
  | .ended (some outcome) =>
    setting.outcome earlier doctype = outcome ∧ ∃ found, setting.seen doctype = .ok found

theorem IsFaithful.mono {setting : Setting} {earlier : InterfaceSet}
    {processed processed' : List String} {doctype : String} {stage : Stage}
    (h : stage.IsFaithful setting earlier processed doctype)
    (hsubset : ∀ d ∈ processed, d ∈ processed') :
    stage.IsFaithful setting earlier processed' doctype := by
  cases stage with
  | requested => exact h
  | searching c next => exact h
  | loading c next => exact h
  | awaiting schema => exact h
  | ended outcome =>
    cases outcome with
    | none => exact hsubset doctype h
    | some outcome => exact h

end Stage

inductive Settled (setting : Setting) (earlier : InterfaceSet) (progress : Progress)
    (doctype : String) : Except Failure Move → Prop where
  | failed (failure : Failure) : setting.seen doctype = .error failure →
    Settled setting earlier progress doctype (.error failure)
  | pending {locator : Locator} {stage : Stage} :
    { progress with locator := locator }.Consistent setting.appsPath →
    stage.isPending = true →
    stage.IsFaithful setting earlier progress.processed doctype →
    Settled setting earlier progress doctype
      (.ok ⟨{ progress with locator := locator }, stage, []⟩)
  | missing {locator : Locator} :
    { progress with locator := locator }.Consistent setting.appsPath →
    setting.seen doctype = .ok none →
    Settled setting earlier progress doctype
      (.ok ⟨{ progress with locator := locator }.missed doctype, .ended (some .notFound), []⟩)
  | current {locator : Locator} (schema : DoctypeSchema) :
    { progress with locator := locator }.Consistent setting.appsPath →
    setting.seen doctype = .ok (some schema) → earlier.isOutdated schema = false →
    Settled setting earlier progress doctype
      (.ok ⟨{ progress with locator := locator }.passed doctype, .ended (some .skipped), []⟩)
  | outdated {locator : Locator} (schema : DoctypeSchema) :
    { progress with locator := locator }.Consistent setting.appsPath →
    setting.seen doctype = .ok (some schema) → earlier.isOutdated schema = true →
    Settled setting earlier progress doctype
      (.ok ⟨{ progress with locator := locator }.announced doctype, .awaiting schema,
        schema.childDoctypes⟩)

inductive Advanced (setting : Setting) (earlier : InterfaceSet) (progress : Progress) (job : Job) :
    Except Failure Move → Prop where
  | repeated : job.stage = .requested → job.doctype ∈ progress.processed →
    Advanced setting earlier progress job (.ok ⟨progress, .ended none, []⟩)
  | entered {stage : Stage} : job.stage = .requested → job.doctype ∉ progress.processed →
    stage.isPending = true →
    stage.IsFaithful setting earlier progress.processed job.doctype →
    (progress.entered job.doctype).searching.Consistent setting.appsPath →
    Advanced setting earlier progress job
      (.ok ⟨(progress.entered job.doctype).searching, stage, []⟩)
  | settled {result : Except Failure Move} : job.stage.isPending = true →
    Settled setting earlier progress job.doctype result →
    Advanced setting earlier progress job result

section Moves

variable {setting : Setting} {earlier : InterfaceSet} {progress : Progress} {doctype : String}

theorem isOutdated_eq_false_iff {set : InterfaceSet} {schema : DoctypeSchema} :
    set.isOutdated schema = false ↔
      set.isCurrent schema.interfaceName schema.modified = true := by
  rw [InterfaceSet.isOutdated, Bool.not_eq_false']

theorem settled_load {program : Program (Except Failure DoctypeSchema)}
    (hconsistent : progress.Consistent setting.appsPath)
    (hsame : ∀ schema, setting.seen doctype = .ok (some schema) →
      progress.interfaces.isOutdated schema = earlier.isOutdated schema)
    (h : (program.result setting.view).map some = setting.seen doctype) :
    Settled setting earlier progress doctype (loadMove progress doctype program) := by
  cases program with
  | call c next => exact .pending hconsistent rfl h
  | done result =>
    cases result with
    | error failure => exact .failed failure h.symm
    | ok schema =>
      have hseen : setting.seen doctype = .ok (some schema) := h.symm
      rw [loadMove]
      split
      · next hcurrent =>
        refine .current schema hconsistent hseen ?_
        rw [← hsame schema hseen]
        exact isOutdated_eq_false_iff.2 hcurrent
      · next hcurrent =>
        rw [schema.map_related]
        refine .outdated schema hconsistent hseen ?_
        rw [← hsame schema hseen, ← Bool.not_eq_false]
        exact fun houtdated => hcurrent (isOutdated_eq_false_iff.1 houtdated)

theorem Settled.of_remembering {app : String} {path? : Option Path}
    {result : Except Failure Move}
    (h : Settled setting earlier (progress.remembering app doctype path?) doctype result) :
    Settled setting earlier progress doctype result := by
  cases h with
  | failed failure hseen => exact .failed failure hseen
  | pending hconsistent hpending hfaithful => exact .pending hconsistent hpending hfaithful
  | missing hconsistent hseen => exact .missing hconsistent hseen
  | current schema hconsistent hseen hcurrent => exact .current schema hconsistent hseen hcurrent
  | outdated schema hconsistent hseen houtdated =>
    exact .outdated schema hconsistent hseen houtdated

theorem consistent_remembering {app : String} {path? : Option Path}
    (h : progress.Consistent setting.appsPath) (hprocessed : doctype ∈ progress.processed) :
    (progress.remembering app doctype path?).Consistent setting.appsPath := by
  refine ⟨h.1, ?_⟩
  intro other d hnew
  have hne : d ≠ doctype := fun heq => hnew (heq ▸ hprocessed)
  have hkey : ((other, d) == (app, doctype)) = false := by simp [hne]
  change List.lookup (other, d) (_ :: progress.locator.found) = none
  rw [List.lookup_cons, hkey]
  exact h.2 other d hnew

theorem settled_search {app : String} {program : Program (Except Failure (Option Path))}
    (hconsistent : progress.Consistent setting.appsPath)
    (hprocessed : doctype ∈ progress.processed)
    (hsame : ∀ schema, setting.seen doctype = .ok (some schema) →
      progress.interfaces.isOutdated schema = earlier.isOutdated schema)
    (h : setting.schemaIn (program.result setting.view) = setting.seen doctype) :
    Settled setting earlier progress doctype (searchMove progress app doctype program) := by
  cases program with
  | call c next => exact .pending hconsistent rfl h
  | done result =>
    cases result with
    | error failure => exact .failed failure h.symm
    | ok path? =>
      have hremembering :
          (progress.remembering app doctype path?).Consistent setting.appsPath :=
        consistent_remembering hconsistent hprocessed
      cases path? with
      | none => exact .missing hremembering h.symm
      | some path => exact (settled_load hremembering hsame h).of_remembering

theorem exists_call_of_walk (setting : Setting) (doctype : String) :
    ∃ next, setting.walk doctype =
      .call (.listDir (setting.appsPath.join (.ofText setting.app))) next :=
  ⟨_, rfl⟩

theorem advanced_begin {job : Job} (hconsistent : progress.Consistent setting.appsPath)
    (happ : job.app = setting.app) (hrequested : job.stage = .requested) :
    Advanced setting earlier progress job
      (beginMove setting.bound progress job.app job.doctype) := by
  rw [beginMove]
  split
  · next hprocessed => exact .repeated hrequested (List.contains_iff_mem.1 hprocessed)
  · next hprocessed =>
    have hnew : job.doctype ∉ progress.processed := fun h =>
      hprocessed (List.contains_iff_mem.2 h)
    obtain ⟨next, hwalk⟩ := exists_call_of_walk setting job.doctype
    have hfaithful : setting.schemaIn
        ((next (setting.view (.listDir (setting.appsPath.join (.ofText setting.app))))).result
          setting.view) = setting.seen job.doctype := by
      rw [Setting.seen, hwalk]
      rfl
    have hentered : (progress.entered job.doctype).searching.Consistent setting.appsPath := by
      refine ⟨hconsistent.1, ?_⟩
      intro app doctype hother
      exact hconsistent.2 app doctype fun h => hother (List.mem_cons_of_mem _ h)
    rw [hconsistent.2 _ _ hnew, hconsistent.1, happ, ← Setting.walk, hwalk]
    exact .entered hrequested hnew rfl hfaithful hentered

theorem advanced_of_advance {job : Job} {result : Except Failure Move}
    (hconsistent : progress.Consistent setting.appsPath) (happ : job.app = setting.app)
    (hfaithful : job.stage.IsFaithful setting earlier progress.processed job.doctype)
    (hprocessed : job.stage.isPending = true → job.doctype ∈ progress.processed)
    (hsame : job.stage.isPending = true → ∀ schema,
      setting.seen job.doctype = .ok (some schema) →
        progress.interfaces.isOutdated schema = earlier.isOutdated schema)
    (h : advance setting progress job = some result) :
    Advanced setting earlier progress job result := by
  obtain ⟨parent, app, doctype, stage⟩ := job
  cases stage with
  | requested =>
    obtain rfl := Option.some.inj h
    exact advanced_begin hconsistent happ rfl
  | searching c next =>
    obtain rfl := Option.some.inj h
    exact .settled rfl (settled_search hconsistent (hprocessed rfl) (hsame rfl) hfaithful)
  | loading c next =>
    obtain rfl := Option.some.inj h
    exact .settled rfl (settled_load hconsistent (hsame rfl) hfaithful)
  | awaiting schema => cases h
  | ended outcome => cases h

end Moves

end DoctypeInterfaces.Scheduling
