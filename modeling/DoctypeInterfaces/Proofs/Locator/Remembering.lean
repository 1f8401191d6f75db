import DoctypeInterfaces.Proofs.Locator.Walk
import DoctypeInterfaces.Storage.Memory
import DoctypeInterfaces.Storage.Observed
import Mathlib.Data.Finset.Card

namespace DoctypeInterfaces.Locator

open Storage

/-- A call of a locator: what it is asked for and on which storage, what it answers, the storage
calls that it makes for that, and the storage after them. -/
structure Inquiry (σ : Type) where
  bound : Nat
  app : String
  doctype : String
  storage : σ
  result : Except Failure (Option Path)
  events : List Event
  later : σ

section Inquiries

variable {σ : Type} {reached : (c : Call) → StateM σ c.Answer} {appsPath : Path}
  {earlier : List (Inquiry σ)} {inquiry : Inquiry σ} {locator after : Locator}

/-- What an answer is remembered by. -/
def Inquiry.key (inquiry : Inquiry σ) : String × String :=
  (inquiry.app, inquiry.doctype)

/-- Whether an inquiry goes like this when the locator is asked. -/
def Inquiry.Made (reached : (c : Call) → StateM σ c.Answer) (locator : Locator)
    (inquiry : Inquiry σ) (after : Locator) : Prop :=
  ((locator.locate inquiry.bound inquiry.app inquiry.doctype).run (Recorded.answer reached)).run
    ⟨inquiry.storage, []⟩ = ((inquiry.result, after), ⟨inquiry.later, inquiry.events⟩)

/-- What a locator may have been asked, the first inquiry first. Each inquiry has a storage of its
own, so anything may have happened to the storage between two of them. -/
inductive History (reached : (c : Call) → StateM σ c.Answer) (appsPath : Path) :
    List (Inquiry σ) → Locator → Prop where
  | start : History reached appsPath [] (.new appsPath)
  | next {earlier : List (Inquiry σ)} {inquiry : Inquiry σ} {locator after : Locator} :
    History reached appsPath earlier locator → inquiry.Made reached locator after →
    History reached appsPath (earlier ++ [inquiry]) after

def Answered (inquiries : List (Inquiry σ)) (key : String × String) (path : Option Path) : Prop :=
  ∃ past ∈ inquiries, past.key = key ∧ past.result = .ok path

/-- The applications and doctypes that have been answered. -/
def answeredKeys (inquiries : List (Inquiry σ)) : Finset (String × String) :=
  ((inquiries.filter fun inquiry => inquiry.result.isOk).map Inquiry.key).toFinset

/-- The number of inquiries that have failed. -/
def failureCount (inquiries : List (Inquiry σ)) : Nat :=
  inquiries.countP fun inquiry => !inquiry.result.isOk

theorem answered_concat {key : String × String} {path : Option Path} :
    Answered (earlier ++ [inquiry]) key path ↔
      Answered earlier key path ∨ inquiry.key = key ∧ inquiry.result = .ok path := by
  simp [Answered, or_and_right, exists_or]

theorem answered_concat_error {key : String × String} {path : Option Path} {e : Failure}
    (h : inquiry.result = .error e) :
    Answered (earlier ++ [inquiry]) key path ↔ Answered earlier key path := by
  simp [answered_concat, h]

theorem mem_answeredKeys {key : String × String} {inquiries : List (Inquiry σ)} :
    key ∈ answeredKeys inquiries ↔ ∃ path, Answered inquiries key path := by
  rw [answeredKeys, List.mem_toFinset, List.mem_map]
  constructor
  · rintro ⟨past, hpast, rfl⟩
    obtain ⟨hmem, hok⟩ := List.mem_filter.1 hpast
    cases hresult : past.result with
    | ok path => exact ⟨path, past, hmem, rfl, hresult⟩
    | error e => simp [hresult, Except.isOk, Except.toBool] at hok
  · rintro ⟨path, past, hmem, rfl, hresult⟩
    exact ⟨past, List.mem_filter.2 ⟨hmem, by simp [hresult, Except.isOk, Except.toBool]⟩, rfl⟩

theorem answeredKeys_concat_ok {path : Option Path} (h : inquiry.result = .ok path) :
    answeredKeys (earlier ++ [inquiry]) = insert inquiry.key (answeredKeys earlier) := by
  ext key
  simp [mem_answeredKeys, answered_concat, exists_or, h, or_comm, eq_comm]

theorem answeredKeys_concat_error {e : Failure} (h : inquiry.result = .error e) :
    answeredKeys (earlier ++ [inquiry]) = answeredKeys earlier := by
  ext key
  simp [mem_answeredKeys, answered_concat_error h]

theorem failureCount_concat_ok {path : Option Path} (h : inquiry.result = .ok path) :
    failureCount (earlier ++ [inquiry]) = failureCount earlier := by
  simp [failureCount, h, Except.isOk, Except.toBool]

theorem failureCount_concat_error {e : Failure} (h : inquiry.result = .error e) :
    failureCount (earlier ++ [inquiry]) = failureCount earlier + 1 := by
  simp [failureCount, h, Except.isOk, Except.toBool]

theorem made_iff_of_remembered {path : Option Path}
    (h : locator.remembered? inquiry.app inquiry.doctype = some path) :
    inquiry.Made reached locator after ↔
      inquiry.result = .ok path ∧ inquiry.events = [] ∧ inquiry.later = inquiry.storage ∧
        after = locator := by
  have hlocate : locator.locate inquiry.bound inquiry.app inquiry.doctype =
      .done (.ok path, locator) := by
    rw [locate, h]
    rfl
  rw [Inquiry.Made, hlocate]
  constructor
  · intro hrun
    obtain ⟨hanswer, hrecorded⟩ := Prod.mk.inj hrun
    obtain ⟨hresult, hafter⟩ := Prod.mk.inj hanswer
    obtain ⟨hlater, hevents⟩ := Recorded.mk.inj hrecorded
    exact ⟨hresult.symm, hevents.symm, hlater.symm, hafter.symm⟩
  · rintro ⟨hresult, hevents, hlater, rfl⟩
    rw [hresult, hevents, hlater]
    rfl

theorem made_iff_of_unknown (h : locator.remembered? inquiry.app inquiry.doctype = none) :
    inquiry.Made reached locator after ↔
      ((walk inquiry.bound (locator.appsPath.join (.ofText inquiry.app))
        (schemaSuffix inquiry.doctype)).run (Recorded.answer reached)).run ⟨inquiry.storage, []⟩ =
          (inquiry.result, ⟨inquiry.later, inquiry.events⟩) ∧
        after = locator.walked inquiry.app inquiry.doctype inquiry.result := by
  rw [Inquiry.Made, Program.run_recorded_iff, Program.run_recorded_iff, execution_locate_iff h]
  exact and_right_comm

theorem remembered?_walked_ok (locator : Locator) (app doctype other otherDoctype : String)
    (path : Option Path) :
    (locator.walked app doctype (.ok path)).remembered? other otherDoctype =
      if (other, otherDoctype) = (app, doctype) then some path
      else locator.remembered? other otherDoctype := by
  rw [remembered?, walked, List.lookup_cons]
  split
  · next h => rw [if_pos (eq_of_beq h)]
  · next h => rw [if_neg (fun heq => by simp [heq] at h), remembered?]

structure Remembers (appsPath : Path) (earlier : List (Inquiry σ)) (locator : Locator) :
    Prop where
  appsPath : locator.appsPath = appsPath
  answer : ∀ app doctype path,
    locator.remembered? app doctype = some path ↔ Answered earlier (app, doctype) path
  walks : locator.walks = (answeredKeys earlier).card + failureCount earlier

theorem Remembers.notMem_answeredKeys (h : Remembers appsPath earlier locator)
    {app doctype : String} (hnone : locator.remembered? app doctype = none) :
    (app, doctype) ∉ answeredKeys earlier := by
  intro hmem
  obtain ⟨path, hanswered⟩ := mem_answeredKeys.1 hmem
  have hsome := (h.answer app doctype path).2 hanswered
  rw [hnone] at hsome
  cases hsome

theorem Remembers.concat_remembered {path : Option Path} (h : Remembers appsPath earlier locator)
    (hfound : locator.remembered? inquiry.app inquiry.doctype = some path)
    (hresult : inquiry.result = .ok path) :
    Remembers appsPath (earlier ++ [inquiry]) locator := by
  have hanswered : Answered earlier inquiry.key path := (h.answer _ _ _).1 hfound
  constructor
  case appsPath => exact h.appsPath
  case answer =>
    intro app doctype other
    rw [h.answer, answered_concat, iff_self_or]
    rintro ⟨hkey, hother⟩
    obtain rfl := Except.ok.inj (hresult.symm.trans hother)
    exact hkey ▸ hanswered
  case walks =>
    rw [answeredKeys_concat_ok hresult, failureCount_concat_ok hresult,
      Finset.insert_eq_of_mem (mem_answeredKeys.2 ⟨path, hanswered⟩), h.walks]

theorem Remembers.concat_found {path : Option Path} (h : Remembers appsPath earlier locator)
    (hunknown : locator.remembered? inquiry.app inquiry.doctype = none)
    (hresult : inquiry.result = .ok path) :
    Remembers appsPath (earlier ++ [inquiry])
      (locator.walked inquiry.app inquiry.doctype (.ok path)) := by
  have hnew : inquiry.key ∉ answeredKeys earlier := h.notMem_answeredKeys hunknown
  constructor
  case appsPath => exact h.appsPath
  case answer =>
    intro app doctype other
    rw [remembered?_walked_ok, answered_concat, hresult]
    split
    · next hsame =>
      have hkey : inquiry.key = (app, doctype) := hsame.symm
      have hnone : ¬ Answered earlier (app, doctype) other := fun hanswered =>
        hnew (mem_answeredKeys.2 ⟨other, hkey.symm ▸ hanswered⟩)
      rw [or_iff_right hnone, and_iff_right hkey, Option.some.injEq, Except.ok.injEq]
    · next hkey =>
      rw [h.answer, or_iff_left]
      exact fun hother => hkey hother.1.symm
  case walks =>
    rw [answeredKeys_concat_ok hresult, failureCount_concat_ok hresult,
      Finset.card_insert_of_notMem hnew, walked, h.walks, Nat.add_right_comm]

theorem Remembers.concat_failed {e : Failure} (h : Remembers appsPath earlier locator)
    (hresult : inquiry.result = .error e) :
    Remembers appsPath (earlier ++ [inquiry])
      (locator.walked inquiry.app inquiry.doctype (.error e)) := by
  constructor
  case appsPath => exact h.appsPath
  case answer =>
    intro app doctype other
    rw [answered_concat_error hresult]
    exact h.answer app doctype other
  case walks =>
    rw [answeredKeys_concat_error hresult, failureCount_concat_error hresult, walked, h.walks,
      Nat.add_assoc]

theorem Remembers.concat (h : Remembers appsPath earlier locator)
    (hmade : inquiry.Made reached locator after) :
    Remembers appsPath (earlier ++ [inquiry]) after := by
  cases hfound : locator.remembered? inquiry.app inquiry.doctype with
  | some path =>
    obtain ⟨hresult, -, -, rfl⟩ := (made_iff_of_remembered hfound).1 hmade
    exact h.concat_remembered hfound hresult
  | none =>
    obtain ⟨-, rfl⟩ := (made_iff_of_unknown hfound).1 hmade
    cases hresult : inquiry.result with
    | ok path => exact h.concat_found hfound hresult
    | error e => exact h.concat_failed hresult

theorem remembers_of_history (h : History reached appsPath earlier locator) :
    Remembers appsPath earlier locator := by
  induction h with
  | start => exact ⟨rfl, by simp [remembered?, new, Answered], rfl⟩
  | next _ hmade ih => exact ih.concat hmade

/-- A locator that has been asked before gives the answer that it gave then and makes no storage
call; otherwise it answers as a new locator does on the storage at that moment, and counts one walk
more. Its walks are those for the answered applications and doctypes, one each, and the failed
ones. -/
theorem inquiry_of_history (h : History reached appsPath earlier locator)
    (hmade : inquiry.Made reached locator after) :
    (∀ past ∈ earlier, past.key = inquiry.key → ∀ path, past.result = .ok path →
      inquiry.result = .ok path ∧ inquiry.events = [] ∧ inquiry.later = inquiry.storage ∧
        after = locator) ∧
    ((∀ past ∈ earlier, past.key = inquiry.key → ∃ e, past.result = .error e) →
      (∃ fresh, inquiry.Made reached (.new appsPath) fresh) ∧
        after.walks = locator.walks + 1) ∧
    locator.walks = (answeredKeys earlier).card + failureCount earlier := by
  have hremembers := remembers_of_history h
  refine ⟨fun past hpast hkey path hresult => ?_, fun hfailed => ?_, hremembers.walks⟩
  · have hfound := (hremembers.answer inquiry.app inquiry.doctype path).2
      ⟨past, hpast, hkey, hresult⟩
    exact (made_iff_of_remembered hfound).1 hmade
  · have hunknown : locator.remembered? inquiry.app inquiry.doctype = none := by
      rw [Option.eq_none_iff_forall_ne_some]
      intro path hfound
      obtain ⟨past, hpast, hkey, hresult⟩ := (hremembers.answer _ _ _).1 hfound
      obtain ⟨e, herror⟩ := hfailed past hpast hkey
      rw [hresult] at herror
      cases herror
    obtain ⟨hwalk, rfl⟩ := (made_iff_of_unknown hunknown).1 hmade
    rw [hremembers.appsPath] at hwalk
    refine ⟨⟨_, (made_iff_of_unknown rfl).2 ⟨hwalk, rfl⟩⟩, ?_⟩
    cases inquiry.result <;> rfl

/-- What a locator answers when it is asked, and the locator after that. -/
def ask (reached : (c : Call) → StateM σ c.Answer) (bound : Nat) (storage : σ)
    (app doctype : String) (locator : Locator) : Inquiry σ × Locator :=
  let ran := ((locator.locate bound app doctype).run (Recorded.answer reached)).run ⟨storage, []⟩
  (⟨bound, app, doctype, storage, ran.1.1, ran.2.events, ran.2.storage⟩, ran.1.2)

theorem made_ask (bound : Nat) (storage : σ) (app doctype : String) (locator : Locator) :
    (locator.ask reached bound storage app doctype).1.Made reached locator
      (locator.ask reached bound storage app doctype).2 :=
  rfl

end Inquiries

section Items

def itemStorage : Memory :=
  { Memory.empty with tree := MemoryTree.empty.insert (.ofText "/s/doctype/i/i.json") [] }

/-- A locator that could not list the directory of the application at first. -/
def failedInquiry : Inquiry (Observed Memory) × Locator :=
  (new (.ofText "/")).ask (Observed.answer Memory.answer) 4
    ⟨itemStorage, [⟨.listDir, .ofText "/s", ⟨.timedOut, ""⟩⟩], []⟩ "s" "i"

def foundInquiry : Inquiry (Observed Memory) × Locator :=
  failedInquiry.2.ask (Observed.answer Memory.answer) 4 (.ofStorage itemStorage) "s" "i"

/-- It is asked once more when the file is gone. -/
def lateInquiry : Inquiry (Observed Memory) × Locator :=
  foundInquiry.2.ask (Observed.answer Memory.answer) 4 (.ofStorage .empty) "s" "i"

theorem itemInquiries :
    failedInquiry.1.result.toOption = none ∧
      foundInquiry.1.result.toOption = some (some (.ofText "/s/doctype/i/i.json")) := by
  decide +kernel

theorem item_remembered :
    (∃ fresh, foundInquiry.1.Made (Observed.answer Memory.answer) (.new (.ofText "/")) fresh) ∧
      lateInquiry.1.result = .ok (some (.ofText "/s/doctype/i/i.json")) ∧
      lateInquiry.1.events = [] ∧ lateInquiry.2.walks = 2 := by
  obtain ⟨hnone, hsome⟩ := itemInquiries
  obtain ⟨e, hfailed⟩ : ∃ e, failedInquiry.1.result = .error e := by
    cases hresult : failedInquiry.1.result with
    | error e => exact ⟨e, rfl⟩
    | ok path => simp [hresult, Except.toOption] at hnone
  have hfound : foundInquiry.1.result = .ok (some (.ofText "/s/doctype/i/i.json")) := by
    cases hresult : foundInquiry.1.result with
    | error e => simp [hresult, Except.toOption] at hsome
    | ok path => simpa [hresult, Except.toOption] using hsome
  have hfoundMade : foundInquiry.1.Made (Observed.answer Memory.answer) failedInquiry.2
      foundInquiry.2 := made_ask _ _ _ _ _
  have hlateMade : lateInquiry.1.Made (Observed.answer Memory.answer) foundInquiry.2
      lateInquiry.2 := made_ask _ _ _ _ _
  have hfirst : History (Observed.answer Memory.answer) (.ofText "/") ([] ++ [failedInquiry.1])
      failedInquiry.2 := .next .start (made_ask _ _ _ _ _)
  obtain ⟨-, hagain, -⟩ := inquiry_of_history hfirst hfoundMade
  obtain ⟨hfresh, -⟩ := hagain fun past hpast _ => by
    rw [List.mem_singleton.1 hpast]
    exact ⟨e, hfailed⟩
  obtain ⟨hremembered, -, hwalks⟩ := inquiry_of_history (hfirst.next hfoundMade) hlateMade
  obtain ⟨hlate, hevents, -, hsame⟩ := hremembered foundInquiry.1
    (List.mem_append_right _ (List.mem_singleton_self _)) rfl _ hfound
  refine ⟨hfresh, hlate, hevents, ?_⟩
  rw [hsame, hwalks, answeredKeys_concat_ok hfound, answeredKeys_concat_error hfailed,
    failureCount_concat_ok hfound, failureCount_concat_error hfailed, answeredKeys, failureCount]
  simp

end Items

end DoctypeInterfaces.Locator
