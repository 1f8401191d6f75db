import DoctypeInterfaces.Proofs.Scheduling.Agreement
import DoctypeInterfaces.Proofs.Scheduling.Sequential
import DoctypeInterfaces.Proofs.Scheduling.Termination

namespace DoctypeInterfaces.Scheduling

open Storage

/-- All runs for the same roots end, and wherever no job can go on they have all failed, or they
have all succeeded and agree, if different doctypes have different interface names. -/
theorem executions_agree {setting : Setting} {earlier : InterfaceSet}
    {roots otherRoots : List String} (hroots : roots.Perm otherRoots)
    (hapart : setting.NamesApart earlier roots) :
    (∀ final otherFinal, Finishes setting (.start setting earlier roots) final →
      Finishes setting (.start setting earlier otherRoots) otherFinal →
        final.Agrees otherFinal) ∧
    ∀ contents : List Bytes,
      (∀ path bytes, setting.view (.read path) = .ok bytes → bytes ∈ contents) →
      ∃ limit, ∀ states : List State,
        (State.start setting earlier roots :: states).IsChain (Step setting) →
          states.length ≤ limit := by
  constructor
  · intro final otherFinal h hother
    exact agrees_of_finishes hroots hapart h hother
  · intro contents hcontents
    obtain ⟨doctypes, hdoctypes⟩ := exists_requestable hcontents earlier roots
    refine ⟨(State.start setting earlier roots).budget setting doctypes, ?_⟩
    intro states hchain
    exact length_le_budget hapart hdoctypes (Valid.start setting earlier roots) hchain

section Memory

variable {memory : Memory} {bound : Nat} {options : GenerationOptions} {roots : Roots}
  {app : String} {doctypes requested : List String} {report : Report} {final : State}

/-- What a successful run of the library reports is what the jobs come to in any order. -/
theorem agrees_of_recordRun (hroots : roots.toList = [(app, doctypes)])
    (hok : (recordRun Memory.answer memory bound options roots).result = .ok report)
    (hapart : (memorySetting memory bound options.appsPath app).NamesApart
      (earlierInterfaces Memory.answer memory options) doctypes)
    (hrequested : doctypes.Perm requested)
    (h : Finishes (memorySetting memory bound options.appsPath app)
      (.start (memorySetting memory bound options.appsPath app)
        (earlierInterfaces Memory.answer memory options) requested) final) :
    ∃ progress jobs, final = .running progress jobs ∧ report.changed = progress.changed ∧
      report.skipped = progress.skipped ∧ report.notFound.Perm progress.notFound ∧
      report.total = progress.interfaces.size := by
  obtain ⟨progress, jobs, hfinishes, hreport⟩ := finishes_of_recordRun hroots hok
  have hagrees := agrees_of_finishes hrequested hapart hfinishes h
  cases hagrees with
  | @succeeded _ other _ otherJobs _ _ hagrees =>
    rw [hreport]
    exact ⟨other, otherJobs, rfl, hagrees.changed, hagrees.skipped, hagrees.notFound, hagrees.total⟩

end Memory

section Bills

def billSetting : Setting :=
  memorySetting billStorage 4 (.ofText "/") "s"

def billFirst : Roots :=
  billRoots.add "s" "i"

def itemFirst : Roots :=
  (Roots.empty.add "s" "i").add "s" "b"

theorem billSetting_runs :
    (recordRun Memory.answer billStorage 4 billOptions billFirst).result.toOption.isSome =
        true ∧
      (recordRun Memory.answer billStorage 4 billOptions itemFirst).result.toOption.isSome =
        true ∧
      billSetting.schema? "b" = some billSchema ∧ billSetting.schema? "i" = some itemSchema := by
  decide +kernel

theorem billSetting_requestable {doctype : String}
    (h : billSetting.Requestable .empty ["b", "i"] doctype) : doctype ∈ ["b", "i"] := by
  obtain ⟨root, hroot, hreaches⟩ := h
  obtain ⟨-, -, hbill, hitem⟩ := billSetting_runs
  refine DepthFirst.mem_of_reaches ?_ hroot hreaches
  intro a ha b hb
  rw [visitedFrom, outdated?_empty] at hb
  exact mem_bills_of_child hbill hitem ha hb

theorem billSetting_namesApart : billSetting.NamesApart .empty ["b", "i"] := by
  intro a b ha hb s t hs ht hname
  obtain ⟨-, -, hbill, hitem⟩ := billSetting_runs
  exact eq_of_distinct_names hbill hitem (by decide) (billSetting_requestable ha)
    (billSetting_requestable hb) hs ht hname

theorem bill_executions_agree :
    (∃ final otherFinal, Finishes billSetting (.start billSetting .empty ["b", "i"]) final ∧
      Finishes billSetting (.start billSetting .empty ["i", "b"]) otherFinal ∧
        final.Agrees otherFinal) ∧
    ∃ limit, ∀ states : List State,
      (State.start billSetting .empty ["b", "i"] :: states).IsChain (Step billSetting) →
        states.length ≤ limit := by
  obtain ⟨hbillFirst, hitemFirst, -, -⟩ := billSetting_runs
  have hfresh : earlierInterfaces Memory.answer billStorage billOptions = .empty :=
    earlierInterfaces_of_fresh (by decide)
  obtain ⟨report, hok⟩ := exists_report hbillFirst
  obtain ⟨otherReport, hotherOk⟩ := exists_report hitemFirst
  have hroots : billFirst.toList = [("s", ["b", "i"])] := by decide
  have hotherRoots : itemFirst.toList = [("s", ["i", "b"])] := by decide
  obtain ⟨progress, jobs, hfinishes, -⟩ := finishes_of_recordRun hroots hok
  obtain ⟨other, otherJobs, hotherFinishes, -⟩ := finishes_of_recordRun hotherRoots hotherOk
  rw [hfresh] at hfinishes hotherFinishes
  have hperm : ["b", "i"].Perm ["i", "b"] := by decide
  obtain ⟨hagree, hlimit⟩ := executions_agree hperm billSetting_namesApart
  exact ⟨⟨_, _, hfinishes, hotherFinishes, hagree _ _ hfinishes hotherFinishes⟩,
    hlimit _ fun path bytes hread => Memory.mem_files_of_read hread⟩

end Bills

end DoctypeInterfaces.Scheduling
