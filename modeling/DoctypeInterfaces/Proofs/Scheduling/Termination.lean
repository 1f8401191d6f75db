import DoctypeInterfaces.Proofs.Scheduling.Soundness
import Mathlib.Algebra.BigOperators.Group.Finset.Basic
import Mathlib.Data.List.Chain

namespace DoctypeInterfaces

open Storage

def Storage.Program.calls {α : Type} (view : (c : Call) → c.Answer) : Program α → Nat
  | .done _ => 0
  | .call c next => (next (view c)).calls view + 1

namespace Scheduling

section Costs

variable (setting : Setting)

/-- The steps of a job that goes on to read its schema, and the first ones of its child jobs. -/
def Setting.loadCost (program : Program (Except Failure DoctypeSchema)) : Nat :=
  program.calls setting.view +
    match program.result setting.view with
    | .error _ => 0
    | .ok schema => schema.childDoctypes.length + 1

def Setting.foundCost : Option Path → Nat
  | none => 0
  | some path => setting.loadCost (loadSchema path)

def Setting.searchCost (program : Program (Except Failure (Option Path))) : Nat :=
  program.calls setting.view +
    match program.result setting.view with
    | .error _ => 0
    | .ok path? => setting.foundCost path?

def Stage.cost : Stage → Nat
  | .requested => 1
  | .searching c next => setting.searchCost (.call c next)
  | .loading c next => setting.loadCost (.call c next)
  | .awaiting _ => 1
  | .ended _ => 0

def Move.cost (move : Move) : Nat :=
  move.stage.cost setting + move.children.length

def jobsCost : List Job → Nat
  | [] => 0
  | job :: jobs => job.stage.cost setting + jobsCost jobs

def Setting.openCost (doctypes : Finset String) (processed : List String) : Nat :=
  ∑ doctype ∈ doctypes \ processed.toFinset, setting.searchCost (setting.walk doctype)

/-- The steps that a run can still make, if no other doctypes can be requested. -/
def State.budget (doctypes : Finset String) : State → Nat
  | .failed _ => 0
  | .running progress jobs =>
    jobsCost setting jobs + setting.openCost doctypes progress.processed

end Costs

variable {setting : Setting} {earlier : InterfaceSet} {roots : List String} {progress : Progress}
  {front back jobs : List Job} {job : Job} {doctype : String} {move : Move}

variable (setting) in
theorem loadMove_bounds {program : Program (Except Failure DoctypeSchema)}
    (h : loadMove progress doctype program = .ok move) :
    move.progress.processed = progress.processed ∧
      move.cost setting ≤ setting.loadCost program := by
  cases program with
  | call c next =>
    obtain rfl := Except.ok.inj h
    exact ⟨rfl, le_rfl⟩
  | done result =>
    cases result with
    | error failure => cases h
    | ok schema =>
      rw [loadMove] at h
      split at h
      · obtain rfl := Except.ok.inj h
        exact ⟨rfl, Nat.zero_le _⟩
      · obtain rfl := Except.ok.inj h
        refine ⟨rfl, ?_⟩
        rw [schema.map_related]
        change 1 + schema.childDoctypes.length ≤ 0 + (schema.childDoctypes.length + 1)
        omega

variable (setting) in
theorem foundMove_bounds {path? : Option Path}
    (h : foundMove progress doctype path? = .ok move) :
    move.progress.processed = progress.processed ∧
      move.cost setting ≤ setting.foundCost path? := by
  cases path? with
  | none =>
    obtain rfl := Except.ok.inj h
    exact ⟨rfl, le_rfl⟩
  | some path =>
    have hload : loadMove progress doctype (loadSchema path) = .ok move := h
    exact loadMove_bounds setting hload

variable (setting) in
theorem searchMove_bounds {app : String} {program : Program (Except Failure (Option Path))}
    (h : searchMove progress app doctype program = .ok move) :
    move.progress.processed = progress.processed ∧
      move.cost setting ≤ setting.searchCost program := by
  cases program with
  | call c next =>
    obtain rfl := Except.ok.inj h
    exact ⟨rfl, le_rfl⟩
  | done result =>
    cases result with
    | error failure => cases h
    | ok path? =>
      obtain ⟨hprocessed, hcost⟩ := foundMove_bounds setting h
      refine ⟨hprocessed, hcost.trans ?_⟩
      exact Nat.le_add_left _ _

theorem jobsCost_append (front back : List Job) :
    jobsCost setting (front ++ back) = jobsCost setting front + jobsCost setting back := by
  induction front with
  | nil => exact (Nat.zero_add _).symm
  | cons job front ih => rw [List.cons_append, jobsCost, jobsCost, ih, Nat.add_assoc]

theorem jobsCost_requestedBy (parent : Option Nat) (requests : List (String × String)) :
    jobsCost setting (requestedBy parent requests) = requests.length := by
  induction requests with
  | nil => rfl
  | cons request requests ih =>
    rw [List.length_cons, ← ih, Nat.add_comm]
    rfl

variable (setting) in
theorem jobsCost_moved (front back : List Job) (job : Job) (stage : Stage)
    (children : List String) :
    jobsCost setting (moved front job back stage children) + job.stage.cost setting =
      jobsCost setting (front ++ job :: back) + (stage.cost setting + children.length) := by
  rw [moved, jobsCost_append, jobsCost_append, jobsCost, jobsCost, jobsCost_append,
    jobsCost_requestedBy, List.length_map]
  dsimp only
  omega

variable (setting) in
theorem cost_le_jobsCost (front back : List Job) (job : Job) :
    job.stage.cost setting ≤ jobsCost setting (front ++ job :: back) := by
  have h : _ + _ = _ + (0 + 0) := jobsCost_moved setting front back job (.ended none) []
  omega

theorem openCost_cons {doctypes : Finset String} {processed : List String}
    (hmem : doctype ∈ doctypes) (hnew : doctype ∉ processed) :
    setting.openCost doctypes (doctype :: processed) + setting.searchCost (setting.walk doctype) =
      setting.openCost doctypes processed := by
  rw [Setting.openCost, Setting.openCost, List.toFinset_cons, Finset.sdiff_insert]
  apply Finset.sum_erase_add
  rw [Finset.mem_sdiff, List.mem_toFinset]
  exact ⟨hmem, hnew⟩

theorem searchCost_call {c : Call} {next : c.Answer → Program (Except Failure (Option Path))} :
    setting.searchCost (.call c next) = setting.searchCost (next (setting.view c)) + 1 :=
  Nat.add_right_comm _ _ _

theorem loadCost_call {c : Call} {next : c.Answer → Program (Except Failure DoctypeSchema)} :
    setting.loadCost (.call c next) = setting.loadCost (next (setting.view c)) + 1 :=
  Nat.add_right_comm _ _ _

/-- What a job does costs it something, or the doctype that it begins to see to. -/
theorem advance_bounds (hconsistent : progress.Consistent setting.appsPath)
    (happ : job.app = setting.app)
    (h : advance setting progress job = some (.ok move)) :
    (move.progress.processed = progress.processed ∧
        move.cost setting < job.stage.cost setting) ∨
      (job.doctype ∉ progress.processed ∧
        move.progress.processed = job.doctype :: progress.processed ∧
        move.cost setting ≤ setting.searchCost (setting.walk job.doctype)) := by
  cases hstage : job.stage with
  | requested =>
    have hbegin := Option.some.inj ((advance_requested hstage).symm.trans h)
    rw [beginMove] at hbegin
    split at hbegin
    · obtain rfl := Except.ok.inj hbegin
      exact .inl ⟨rfl, Nat.zero_lt_one⟩
    · next hprocessed =>
      have hnew : job.doctype ∉ progress.processed := fun hmem =>
        hprocessed (List.contains_iff_mem.2 hmem)
      rw [hconsistent.2 _ _ hnew, hconsistent.1, happ] at hbegin
      obtain ⟨hmove, hcost⟩ := searchMove_bounds setting hbegin
      exact .inr ⟨hnew, hmove, hcost⟩
  | searching c next =>
    rw [advance_searching hstage] at h
    obtain ⟨hprocessed, hcost⟩ := searchMove_bounds setting (Option.some.inj h)
    left
    rw [Stage.cost, searchCost_call]
    exact ⟨hprocessed, Nat.lt_succ_of_le hcost⟩
  | loading c next =>
    rw [advance_loading hstage] at h
    obtain ⟨hprocessed, hcost⟩ := loadMove_bounds setting (Option.some.inj h)
    left
    rw [Stage.cost, loadCost_call]
    exact ⟨hprocessed, Nat.lt_succ_of_le hcost⟩
  | awaiting schema => simp [advance, resume, hstage] at h
  | ended outcome => simp [advance, resume, hstage] at h

theorem cost_pos_of_advance {result : Except Failure Move}
    (h : advance setting progress job = some result) : 0 < job.stage.cost setting := by
  cases hstage : job.stage with
  | requested => exact Nat.zero_lt_one
  | searching c next =>
    rw [Stage.cost, searchCost_call]
    exact Nat.succ_pos _
  | loading c next =>
    rw [Stage.cost, loadCost_call]
    exact Nat.succ_pos _
  | awaiting schema => simp [advance, resume, hstage] at h
  | ended outcome => simp [advance, resume, hstage] at h

theorem budget_lt_of_step {doctypes : Finset String}
    (hdoctypes : ∀ doctype, setting.Requestable earlier roots doctype → doctype ∈ doctypes)
    {state next : State} (h : state.Sound setting earlier roots) (hstep : Step setting state next) :
    next.budget setting doctypes < state.budget setting doctypes := by
  cases hstep with
  | @advanced progress front back job result hadvance =>
    have hvalid : Valid setting earlier roots progress (front ++ job :: back) := h
    have hpos := cost_pos_of_advance hadvance
    have hle := cost_le_jobsCost setting front back job
    cases result with
    | error failure =>
      change 0 < jobsCost setting (front ++ job :: back) + setting.openCost doctypes _
      omega
    | ok move =>
      have happ : job.app = setting.app := hvalid.wired.apps job (by simp)
      have hmoved := jobsCost_moved setting front back job move.stage move.children
      change jobsCost setting (moved front job back move.stage move.children) +
          setting.openCost doctypes move.progress.processed <
        jobsCost setting (front ++ job :: back) + setting.openCost doctypes progress.processed
      rcases advance_bounds hvalid.consistent happ hadvance with
        ⟨hsame, hcost⟩ | ⟨hnew, hentered, hcost⟩
      · rw [hsame]
        rw [Move.cost] at hcost
        omega
      · have hmem : job.doctype ∈ doctypes := hdoctypes job.doctype (hvalid.requestable (by simp))
        have hopen : setting.openCost doctypes (job.doctype :: progress.processed) + _ = _ :=
          openCost_cons hmem hnew
        rw [hentered]
        rw [Move.cost] at hcost
        omega
  | @joined progress front back job schema hstage _ =>
    have hmoved := jobsCost_moved setting front back job (.ended (some .updated)) []
    rw [hstage] at hmoved
    simp only [Stage.cost, List.length_nil] at hmoved
    change jobsCost setting (moved front job back (.ended (some .updated)) []) +
        setting.openCost doctypes progress.processed <
      jobsCost setting (front ++ job :: back) + setting.openCost doctypes progress.processed
    omega

/-- A run makes at most so many steps as its budget tells. -/
theorem length_le_budget {doctypes : Finset String}
    (hapart : setting.NamesApart earlier roots)
    (hdoctypes : ∀ doctype, setting.Requestable earlier roots doctype → doctype ∈ doctypes)
    {state : State} {states : List State} (h : state.Sound setting earlier roots)
    (hchain : (state :: states).IsChain (Step setting)) :
    states.length ≤ state.budget setting doctypes := by
  induction states generalizing state with
  | nil => exact Nat.zero_le _
  | cons next states ih =>
    obtain ⟨hstep, hrest⟩ := List.isChain_cons_cons.1 hchain
    have hnext := ih (sound_of_step hapart h hstep) hrest
    have hlt := budget_lt_of_step hdoctypes h hstep
    rw [List.length_cons]
    omega

theorem exists_bytes_of_seen {schema : DoctypeSchema}
    (h : setting.seen doctype = .ok (some schema)) :
    ∃ path bytes, setting.view (.read path) = .ok bytes ∧ schemaOfBytes? bytes = some schema := by
  rw [Setting.seen] at h
  cases hwalk : (setting.walk doctype).result setting.view with
  | error failure =>
    rw [hwalk] at h
    cases h
  | ok path? =>
    rw [hwalk] at h
    cases path? with
    | none => cases h
    | some path =>
      have hload : (loadSchema path).result setting.view = .ok schema := by
        rw [Setting.schemaIn] at h
        cases hresult : (loadSchema path).result setting.view with
        | error failure =>
          rw [hresult] at h
          cases h
        | ok loaded =>
          rw [hresult] at h
          rw [Option.some.inj (Except.ok.inj h)]
      obtain ⟨events, hexecution, hview⟩ := Program.result_eq_iff.1 hload
      obtain ⟨bytes, rfl, hschema⟩ := execution_loadSchema_ok_iff.1 hexecution
      exact ⟨path, bytes, (hview _ List.mem_cons_self).symm, hschema⟩

/-- Where the files have finitely many contents, finitely many doctypes can be requested. -/
theorem exists_requestable {contents : List Bytes}
    (hcontents : ∀ path bytes, setting.view (.read path) = .ok bytes → bytes ∈ contents)
    (earlier : InterfaceSet) (roots : List String) :
    ∃ doctypes : Finset String, ∀ doctype, setting.Requestable earlier roots doctype →
      doctype ∈ doctypes := by
  refine ⟨(roots ++ (contents.filterMap schemaOfBytes?).flatMap
    DoctypeSchema.childDoctypes).toFinset, ?_⟩
  rintro doctype ⟨root, hroot, hreaches⟩
  rw [List.mem_toFinset, List.mem_append]
  cases hreaches with
  | refl => exact .inl hroot
  | tail _ hchild =>
    obtain ⟨schema, hseen, -, hmem⟩ := Setting.exists_schema_of_mem_visitedFrom hchild
    obtain ⟨path, bytes, hread, hschema⟩ := exists_bytes_of_seen hseen
    right
    rw [List.mem_flatMap]
    exact ⟨schema, List.mem_filterMap.2 ⟨bytes, hcontents path bytes hread, hschema⟩, hmem⟩

end Scheduling

end DoctypeInterfaces
