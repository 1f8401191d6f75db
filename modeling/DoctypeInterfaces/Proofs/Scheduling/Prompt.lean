import DoctypeInterfaces.Proofs.Scheduling.Sequential
import DoctypeInterfaces.Proofs.Scheduling.Termination

namespace DoctypeInterfaces.Scheduling

open Storage

variable {setting : Setting} {earlier : InterfaceSet} {roots : List String} {progress : Progress}
  {front back jobs : List Job} {job : Job} {paused : Job → Prop} {state next : State}

/-- One job goes on that is not paused. The jobs that have been requested begin before any other one
goes on, in their order. -/
inductive PromptStep (setting : Setting) (paused : Job → Prop) : State → State → Prop where
  | goesOn {progress : Progress} {front back : List Job} {job : Job} {next : State} :
    ¬ paused job →
    (∀ other ∈ front, other.stage ≠ .requested) →
    (job.stage ≠ .requested → ∀ other ∈ back, other.stage ≠ .requested) →
    GoesOn setting progress front job back next →
    PromptStep setting paused (.running progress (front ++ job :: back)) next

abbrev PromptRuns (setting : Setting) (paused : Job → Prop) : State → State → Prop :=
  Relation.ReflTransGen (PromptStep setting paused)

/-- Whether a run can end like this in which no job is paused. -/
def PromptFinishes (setting : Setting) (start final : State) : Prop :=
  PromptRuns setting (fun _ => False) start final ∧ ∀ next, ¬ Step setting final next

theorem PromptStep.step (h : PromptStep setting paused state next) : Step setting state next := by
  cases h with
  | goesOn _ _ _ hgoesOn => exact hgoesOn.step

theorem PromptStep.resumed (h : PromptStep setting paused state next) :
    PromptStep setting (fun _ => False) state next := by
  cases h with
  | goesOn _ hfront hback hgoesOn => exact .goesOn id hfront hback hgoesOn

theorem promptRuns_resumed (h : PromptRuns setting paused state next) :
    PromptRuns setting (fun _ => False) state next :=
  Relation.ReflTransGen.mono (fun _ _ => PromptStep.resumed) _ _ h

theorem PromptFinishes.finishes (h : PromptFinishes setting state next) :
    Finishes setting state next :=
  ⟨Relation.ReflTransGen.mono (fun _ _ => PromptStep.step) _ _ h.1, h.2⟩

section Turns

theorem isRequested_iff {stage : Stage} : stage.isRequested = true ↔ stage = .requested := by
  cases stage <;> simp [Stage.isRequested]

/-- Before the job whose turn it is stands none that has not begun, and behind it only if it has not
begun itself. -/
theorem begun_of_promptTurn {turn : Nat}
    (hdrop : jobs.drop (promptTurn turn jobs) = job :: back) :
    (∀ other ∈ jobs.take (promptTurn turn jobs), other.stage ≠ .requested) ∧
      (job.stage ≠ .requested → ∀ other ∈ back, other.stage ≠ .requested) := by
  cases hfind : jobs.findIdx? fun job => job.stage.isRequested with
  | none =>
    have hall : ∀ other ∈ jobs, other.stage ≠ .requested := by
      intro other hother hrequested
      have hnot := List.findIdx?_eq_none_iff.1 hfind other hother
      rw [isRequested_iff.2 hrequested] at hnot
      cases hnot
    refine ⟨fun other hother => hall other (List.mem_of_mem_take hother), fun _ other hother => ?_⟩
    apply hall other
    apply List.mem_of_mem_drop
    rw [hdrop]
    exact List.mem_cons_of_mem _ hother
  | some index =>
    have hturn : promptTurn turn jobs = index := by rw [promptTurn, hfind, Option.getD_some]
    obtain ⟨hlt, hrequested, hfirst⟩ := List.findIdx?_eq_some_iff_getElem.1 hfind
    rw [hturn] at hdrop ⊢
    constructor
    · intro other hother hstage
      obtain ⟨position, hposition, rfl⟩ := List.mem_take_iff_getElem.1 hother
      exact hfirst position (by omega) (isRequested_iff.2 hstage)
    · intro hbegun
      rw [List.drop_eq_getElem_cons hlt] at hdrop
      obtain ⟨rfl, -⟩ := List.cons.inj hdrop
      exact absurd (isRequested_iff.1 hrequested) hbegun

theorem promptRuns_of_takeTurn {turn : Nat} {before after : Progress} {afterJobs : List Job}
    {events : List Event}
    (h : Resolution.Ends (takeTurn setting.bound (promptTurn turn jobs) jobs) before events
      (.ok afterJobs) after)
    (hview : ∀ e ∈ events, e.answer = setting.view e.call) :
    PromptRuns setting (fun _ => False) (.running before jobs) (.running after afterJobs) := by
  rcases cases_of_takeTurn h with ⟨-, hsame, rfl⟩ | ⟨front, job, back, rfl, hdrop, hjobs, hgives⟩
  · obtain rfl := Except.ok.inj hsame
    exact .refl
  obtain ⟨hfront, hback⟩ := begun_of_promptTurn hdrop
  rw [hjobs]
  cases hgives with
  | turned hturn => exact .single (.goesOn id hfront hback (.of_turn hturn hview))
  | waited => exact .refl

/-- Jobs that begin in turns as soon as they have been requested lead to the end of such a run. -/
theorem promptFinishes_of_proceed {turns : Nat} {before after : Progress} {events : List Event}
    (h : Resolution.Ends (proceed setting.bound promptTurn turns jobs) before events (.ok ()) after)
    (hview : ∀ e ∈ events, e.answer = setting.view e.call) :
    ∃ afterJobs, PromptFinishes setting (.running before jobs) (.running after afterJobs) := by
  induction turns generalizing jobs before events with
  | zero =>
    rw [proceed] at h
    split at h
    · next hended =>
      obtain ⟨-, -, rfl⟩ := Resolution.ends_pure.1 h
      exact ⟨jobs, .refl, not_step_of_ended (all_ended_iff.1 hended)⟩
    · cases (Resolution.ends_throw.1 h).2.1
  | succ turns ih =>
    rw [proceed] at h
    split at h
    · next hended =>
      obtain ⟨-, -, rfl⟩ := Resolution.ends_pure.1 h
      exact ⟨jobs, .refl, not_step_of_ended (all_ended_iff.1 hended)⟩
    · obtain ⟨middleJobs, first, middle, rest, hturn, hrest, rfl⟩ := Resolution.ends_bind_ok.1 h
      obtain ⟨hfirstView, hrestView⟩ := List.forall_mem_append.1 hview
      obtain ⟨afterJobs, hruns, hstuck⟩ := ih hrest hrestView
      exact ⟨afterJobs, (promptRuns_of_takeTurn hturn hfirstView).trans hruns, hstuck⟩

end Turns

/-- However jobs are paused, the others come to a point where none of them can go on. -/
theorem exists_stuck {doctypes : Finset String} (hapart : setting.NamesApart earlier roots)
    (hdoctypes : ∀ doctype, setting.Requestable earlier roots doctype → doctype ∈ doctypes)
    (paused : Job → Prop) (h : state.Sound setting earlier roots) :
    ∃ last, PromptRuns setting paused state last ∧
      ∀ next, ¬ PromptStep setting paused last next := by
  induction hbudget : state.budget setting doctypes using Nat.strong_induction_on
    generalizing state with
  | _ budget ih =>
    by_cases hstuck : ∀ next, ¬ PromptStep setting paused state next
    · exact ⟨state, .refl, hstuck⟩
    · push Not at hstuck
      obtain ⟨next, hstep⟩ := hstuck
      have hlt := budget_lt_of_step hdoctypes h hstep.step
      obtain ⟨last, hruns, hlast⟩ := ih _ (hbudget ▸ hlt) (sound_of_step hapart h hstep.step) rfl
      exact ⟨last, .head hstep hruns, hlast⟩

section Stuck

variable (hpaused : ∀ job, paused job → job.stage ≠ .requested)
  (hstuck : ∀ next, ¬ PromptStep setting paused (.running progress jobs) next)

include hpaused hstuck

theorem begun_of_stuck : ∀ job ∈ jobs, job.stage ≠ .requested := by
  by_contra hsome
  push Not at hsome
  obtain ⟨job, hjob, hrequested⟩ := hsome
  have hfound : (jobs.find? fun job => job.stage.isRequested).isSome = true :=
    List.find?_isSome.2 ⟨job, hjob, isRequested_iff.2 hrequested⟩
  obtain ⟨first, hfirst⟩ := Option.isSome_iff_exists.1 hfound
  obtain ⟨hstage, front, back, rfl, hfront⟩ := List.find?_eq_some_iff_append.1 hfirst
  have hstage : first.stage = .requested := isRequested_iff.1 hstage
  have hbegins : advance setting progress first = some _ := advance_requested hstage
  refine hstuck _ (.goesOn (fun h => hpaused first h hstage) ?_ (absurd hstage) (.advanced hbegins))
  intro other hother hrequested
  have hnot := hfront other hother
  rw [isRequested_iff.2 hrequested] at hnot
  cases hnot

/-- A job that has not ended is paused then, or it waits for a child job that has not ended. -/
theorem waits_of_stuck {index : Nat} (hindex : jobs[index]? = some job) (hnot : ¬ job.HasEnded)
    (hgoing : ¬ paused job) :
    (∃ schema, job.stage = .awaiting schema) ∧
      ∃ child ∈ jobs, child.parent = some index ∧ ¬ child.HasEnded := by
  have hbegun := begun_of_stuck hpaused hstuck
  obtain ⟨hlt, rfl⟩ := List.getElem?_eq_some_iff.1 hindex
  have hsplit : jobs.take index ++ jobs[index] :: jobs.drop (index + 1) = jobs := by
    rw [← List.drop_eq_getElem_cons hlt, List.take_append_drop]
  have hlength : (jobs.take index).length = index := List.length_take_of_le hlt.le
  have hmove : ∀ next, ¬ GoesOn setting progress (jobs.take index) jobs[index]
      (jobs.drop (index + 1)) next := by
    intro next hgoesOn
    apply hstuck next
    rw [← hsplit]
    refine .goesOn hgoing ?_ ?_ hgoesOn
    · exact fun other hother => hbegun other (List.mem_of_mem_take hother)
    · exact fun _ other hother => hbegun other (List.mem_of_mem_drop hother)
  cases hstage : jobs[index].stage with
  | requested => exact absurd hstage (hbegun _ (List.getElem_mem hlt))
  | searching c next => exact absurd (.advanced (advance_searching hstage)) (hmove _)
  | loading c next => exact absurd (.advanced (advance_loading hstage)) (hmove _)
  | awaiting schema =>
    refine ⟨⟨schema, rfl⟩, ?_⟩
    by_contra hnone
    push Not at hnone
    refine hmove _ (.joined hstage ?_)
    rw [hsplit, hlength]
    exact hnone
  | ended outcome => exact absurd ⟨outcome, hstage⟩ hnot

theorem isPending_eq_false_of_stuck (hjob : job ∈ jobs) (hgoing : ¬ paused job) :
    job.stage.isPending = false := by
  by_contra hpending
  rw [Bool.not_eq_false] at hpending
  obtain ⟨index, hindex⟩ := List.mem_iff_getElem?.1 hjob
  have hnot : ¬ job.HasEnded := by
    rintro ⟨outcome, hstage⟩
    rw [hstage] at hpending
    cases hpending
  obtain ⟨⟨schema, hstage⟩, -⟩ := waits_of_stuck hpaused hstuck hindex hnot hgoing
  rw [hstage] at hpending
  cases hpending

end Stuck

theorem not_step_of_stuck
    (hstuck : ∀ next, ¬ PromptStep setting (fun _ => False) (.running progress jobs) next)
    (next : State) : ¬ Step setting (.running progress jobs) next := by
  have hbegun := begun_of_stuck nofun hstuck
  have hmove : ∀ {front back : List Job} {job : Job}, jobs = front ++ job :: back →
      ¬ GoesOn setting progress front job back next := by
    rintro front back job rfl hgoesOn
    refine hstuck _ (.goesOn id ?_ ?_ hgoesOn)
    · exact fun other hother => hbegun other (List.mem_append_left _ hother)
    · exact fun _ other hother =>
        hbegun other (List.mem_append_right _ (List.mem_cons_of_mem _ hother))
  intro hstep
  cases hstep with
  | advanced hadvance => exact hmove rfl (.advanced hadvance)
  | joined hstage hchildren => exact hmove rfl (.joined hstage hchildren)

end DoctypeInterfaces.Scheduling
