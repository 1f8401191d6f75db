import DoctypeInterfaces.Proofs.Generation.Run
import Mathlib.Data.Finset.Card

namespace DoctypeInterfaces

open Storage

theorem Outcome.eq_of_append_text {first rest : List Char} {a b : Outcome}
    (h : first ++ (a.text.toList ++ "]".toList) = rest ++ (b.text.toList ++ "]".toList)) :
    a = b := by
  have hreverse := congrArg List.reverse h
  cases a <;> cases b <;> simp [Outcome.text] at hreverse ⊢

theorem progressMessage_inj {a b : String} {o p : Outcome} :
    progressMessage a o = progressMessage b p ↔ a = b ∧ o = p := by
  constructor
  · intro h
    have htext : "Processing: " ++ a ++ " [" ++ o.text ++ "]" =
        "Processing: " ++ b ++ " [" ++ p.text ++ "]" := (Prod.mk.inj h).2
    have hlist := congrArg String.toList htext
    simp only [String.toList_append, List.append_assoc, List.append_right_inj] at hlist
    simp only [← List.append_assoc _ " [".toList] at hlist
    obtain rfl := Outcome.eq_of_append_text hlist
    exact ⟨String.toList_injective (by simpa using hlist), rfl⟩
  · rintro ⟨rfl, rfl⟩
    rfl

/-- What has been found out about a doctype that was looked up. -/
inductive Finding where
  | missing (doctype : String)
  | current (doctype : String) (schema : DoctypeSchema)
  | outdated (doctype : String) (schema : DoctypeSchema)

namespace Finding

def doctype : Finding → String
  | missing doctype => doctype
  | current doctype _ => doctype
  | outdated doctype _ => doctype

def schema? : Finding → Option DoctypeSchema
  | missing _ => none
  | current _ schema => some schema
  | outdated _ schema => some schema

def outcome : Finding → Outcome
  | missing _ => .notFound
  | current _ _ => .skipped
  | outdated _ _ => .updated

def message (finding : Finding) : StatusKind × String :=
  progressMessage finding.doctype finding.outcome

def load? (finding : Finding) : Option (String × DoctypeSchema) :=
  finding.schema?.map fun schema => (finding.doctype, schema)

def emitted? : Finding → Option (String × DoctypeSchema)
  | missing _ => none
  | current _ _ => none
  | outdated doctype schema => some (doctype, schema)

variable {finding : Finding} {findings : List Finding} {doctype : String} {schema : DoctypeSchema}

theorem mem_emitted_iff : (doctype, schema) ∈ findings.filterMap emitted? ↔
    outdated doctype schema ∈ findings := by
  rw [List.mem_filterMap]
  constructor
  · rintro ⟨finding, hfinding, h⟩
    cases finding with
    | missing => cases h
    | current => cases h
    | outdated =>
      cases h
      exact hfinding
  · exact fun h => ⟨_, h, rfl⟩

theorem mem_schemas_of_mem_emitted (h : schema ∈ (findings.filterMap emitted?).map Prod.snd) :
    schema ∈ findings.filterMap schema? := by
  obtain ⟨⟨doctype, _⟩, hemitted, rfl⟩ := List.mem_map.1 h
  exact List.mem_filterMap.2 ⟨_, mem_emitted_iff.1 hemitted, rfl⟩

theorem zip_loads (findings : List Finding) :
    (findings.filterMap fun finding => finding.load?.map Prod.fst).zip
        (findings.filterMap schema?) =
      findings.filterMap load? := by
  induction findings with
  | nil => rfl
  | cons finding findings ih =>
    cases finding with
    | missing => exact ih
    | current doctype schema => exact congrArg ((doctype, schema) :: ·) ih
    | outdated doctype schema => exact congrArg ((doctype, schema) :: ·) ih

theorem countP_outcomes (findings : List Finding) :
    (findings.countP fun finding => finding.outcome = .updated) +
        (findings.countP fun finding => finding.outcome = .skipped) +
        (findings.countP fun finding => finding.outcome = .notFound) = findings.length := by
  induction findings with
  | nil => rfl
  | cons finding findings ih =>
    rw [List.countP_cons, List.countP_cons, List.countP_cons, List.length_cons]
    cases finding.outcome <;> simp <;> omega

theorem countP_updated (findings : List Finding) :
    (findings.countP fun finding => finding.outcome = .updated) =
      (findings.filterMap emitted?).length := by
  rw [List.length_filterMap_eq_countP]
  apply List.countP_congr
  intro finding _
  cases finding <;> simp [outcome, emitted?]

theorem length_schemas (findings : List Finding) :
    (findings.filterMap schema?).length =
      (findings.countP fun finding => finding.outcome = .updated) +
        (findings.countP fun finding => finding.outcome = .skipped) := by
  induction findings with
  | nil => rfl
  | cons finding findings ih =>
    rw [List.countP_cons, List.countP_cons]
    cases finding with
    | missing => exact ih
    | current => exact (congrArg (· + 1) ih).trans (Nat.add_assoc _ _ 1)
    | outdated => exact (congrArg (· + 1) ih).trans (Nat.add_right_comm _ _ 1)

end Finding

namespace RecordedRun

section Definitions

variable {σ : Type} (run : RecordedRun σ) (roots : Roots)

def readDoctype? (message : StatusKind × String) : Option String :=
  run.progress.processed.find? fun doctype =>
    message = progressMessage doctype .updated ∨ message = progressMessage doctype .skipped

/-- The schemas that a run has read, each with the doctype that was looked up. -/
def loads : List (String × DoctypeSchema) :=
  (run.progress.messages.filterMap run.readDoctype?).zip run.loaded

/-- The schemas that a run has emitted, each with the doctype that was looked up: those that it has
given the message about. -/
def emitted : List (String × DoctypeSchema) :=
  run.loads.filter fun load => progressMessage load.1 .updated ∈ run.progress.messages

/-- The doctypes that are requested in a run, by its roots or by a schema that it has emitted. -/
def requested : Finset String :=
  (roots.pairs.map Prod.snd ++ run.emitted.flatMap fun load => load.2.childDoctypes).toFinset

def outcome (doctype : String) : Outcome :=
  if doctype ∈ run.progress.notFound then .notFound
  else if doctype ∈ run.emitted.map Prod.fst then .updated
  else .skipped

end Definitions

variable {σ : Type} {run : RecordedRun σ} {findings : List Finding}
  {closing : StatusKind × String}

theorem readDoctype?_message {finding : Finding} (h : finding.doctype ∈ run.progress.processed) :
    run.readDoctype? finding.message = finding.load?.map Prod.fst := by
  have hfind : run.progress.processed.find? (fun doctype => finding.doctype = doctype) =
      some finding.doctype := by
    have hsome : (run.progress.processed.find? fun doctype => finding.doctype = doctype).isSome :=
      List.find?_isSome.2 ⟨finding.doctype, h, decide_eq_true rfl⟩
    obtain ⟨doctype, hdoctype⟩ := Option.isSome_iff_exists.1 hsome
    have hsame : finding.doctype = doctype := by simpa using List.find?_some hdoctype
    rw [hdoctype, hsame]
  simp only [readDoctype?, Finding.message, progressMessage_inj]
  cases finding with
  | missing => simp [Finding.outcome, Finding.load?, Finding.schema?]
  | current => simpa [Finding.outcome, Finding.load?, Finding.schema?] using hfind
  | outdated => simpa [Finding.outcome, Finding.load?, Finding.schema?] using hfind

theorem readDoctype?_closing (h : closing.1 ≠ .update) : run.readDoctype? closing = none := by
  rw [readDoctype?, List.find?_eq_none]
  intro doctype _ hmessage
  rcases of_decide_eq_true hmessage with rfl | rfl <;> exact h rfl

theorem loads_eq (hmessages : run.progress.messages = findings.map Finding.message ++ [closing])
    (hclosing : closing.1 ≠ .update)
    (hprocessed : ∀ finding ∈ findings, finding.doctype ∈ run.progress.processed)
    (hloaded : run.loaded = findings.filterMap Finding.schema?) :
    run.loads = findings.filterMap Finding.load? := by
  rw [loads, hmessages, List.filterMap_append,
    List.filterMap_cons_none (readDoctype?_closing hclosing), List.filterMap_nil, List.append_nil,
    List.filterMap_map, hloaded, ← Finding.zip_loads]
  congr 1
  exact List.filterMap_congr fun finding hfinding =>
    readDoctype?_message (hprocessed finding hfinding)

theorem mem_messages_iff (hnodup : (findings.map Finding.doctype).Nodup)
    (hmessages : run.progress.messages = findings.map Finding.message ++ [closing])
    (hclosing : closing.1 ≠ .update) :
    ∀ finding ∈ findings, ∀ outcome, progressMessage finding.doctype outcome ∈
      run.progress.messages ↔ finding.outcome = outcome := by
  intro finding hfinding outcome
  rw [hmessages, List.mem_append, List.mem_singleton]
  constructor
  · rintro (hmem | rfl)
    · obtain ⟨other, hother, hmessage⟩ := List.mem_map.1 hmem
      obtain ⟨hdoctype, rfl⟩ := progressMessage_inj.1 hmessage
      rw [List.inj_on_of_nodup_map hnodup hother hfinding hdoctype]
    · exact absurd rfl hclosing
  · rintro rfl
    exact .inl (List.mem_map_of_mem hfinding)

theorem emitted_eq (hloads : run.loads = findings.filterMap Finding.load?)
    (hnodup : (findings.map Finding.doctype).Nodup)
    (hmessages : run.progress.messages = findings.map Finding.message ++ [closing])
    (hclosing : closing.1 ≠ .update) : run.emitted = findings.filterMap Finding.emitted? := by
  rw [emitted, hloads, List.filter_filterMap]
  apply List.filterMap_congr
  intro finding hfinding
  have htold := mem_messages_iff hnodup hmessages hclosing finding hfinding .updated
  cases finding with
  | missing => rfl
  | current =>
    simp only [Finding.doctype, Finding.outcome] at htold
    simp [Finding.load?, Finding.schema?, Finding.emitted?, Finding.doctype, Option.filter, htold]
  | outdated =>
    simp only [Finding.doctype, Finding.outcome] at htold
    simp [Finding.load?, Finding.schema?, Finding.emitted?, Finding.doctype, Option.filter, htold]

theorem outcome_eq (hemitted : run.emitted = findings.filterMap Finding.emitted?)
    (hnodup : (findings.map Finding.doctype).Nodup)
    (hnotFound : run.progress.notFound =
      (findings.filter fun finding => finding.outcome = .notFound).map Finding.doctype) :
    ∀ finding ∈ findings, run.outcome finding.doctype = finding.outcome := by
  intro finding hfinding
  have heq : ∀ other ∈ findings, other.doctype = finding.doctype → other = finding :=
    fun other hother => List.inj_on_of_nodup_map hnodup hother hfinding
  have hmem : finding.doctype ∈ run.progress.notFound ↔ finding.outcome = .notFound := by
    rw [hnotFound, List.mem_map]
    constructor
    · rintro ⟨other, hother, hdoctype⟩
      obtain ⟨hother, houtcome⟩ := List.mem_filter.1 hother
      rw [← heq other hother hdoctype]
      exact of_decide_eq_true houtcome
    · exact fun houtcome => ⟨finding, List.mem_filter.2 ⟨hfinding, decide_eq_true houtcome⟩, rfl⟩
  have hupdated : finding.doctype ∈ run.emitted.map Prod.fst ↔ finding.outcome = .updated := by
    rw [hemitted, List.mem_map]
    constructor
    · rintro ⟨⟨doctype, schema⟩, hload, hdoctype⟩
      rw [← heq _ (Finding.mem_emitted_iff.1 hload) hdoctype]
      rfl
    · intro houtcome
      cases finding with
      | missing => cases houtcome
      | current => cases houtcome
      | outdated doctype schema =>
        exact ⟨(doctype, schema), Finding.mem_emitted_iff.2 hfinding, rfl⟩
  rw [outcome]
  simp only [hmem, hupdated]
  cases finding.outcome <;> rfl

end RecordedRun

end DoctypeInterfaces
