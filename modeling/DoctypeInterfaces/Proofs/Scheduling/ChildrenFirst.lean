import DoctypeInterfaces.Proofs.Scheduling.Delay
import DoctypeInterfaces.Proofs.Scheduling.Independence

namespace DoctypeInterfaces.Scheduling

open Storage

section Iff

variable {setting : Setting} {roots : List String}

theorem Setting.Acyclic.not_leadsTo (h : setting.Acyclic roots) {a b : String}
    (ha : setting.Requestable .empty roots a) (hne : a ≠ b) (hleads : setting.LeadsTo a b) :
    ¬ setting.LeadsTo b a := by
  intro hback
  rcases Relation.ReflTransGen.cases_head hleads with heq | ⟨child, hchild, hrest⟩
  · exact hne heq
  · exact h a ha child hchild (hrest.trans hback)

section Requests

variable {doctypes : Finset String} (hapart : setting.NamesApart .empty roots)
  (hacyclic : setting.Acyclic roots)
  (hdoctypes : ∀ doctype, setting.Requestable .empty roots doctype → doctype ∈ doctypes)
  (hnone : setting.NoneFails roots)
  (h : ∀ progress jobs,
    PromptFinishes setting (.start setting .empty roots) (.running progress jobs) →
      setting.DeclaresChildrenFirst roots progress.interfaces)

include hapart hacyclic hdoctypes hnone h

/-- If all runs declare child doctypes in front of their parents, a child doctype that is requested
for the sake of given doctypes alone is one of them, or each of its parents is. -/
theorem going_of_requestedVia (going : String → Prop) {parent child : String}
    (hparent : setting.Requestable .empty roots parent)
    (hchild : child ∈ visitedFrom .empty setting.schema? parent)
    (hsome : (setting.schema? child).isSome = true)
    (hvia : setting.RequestedVia roots going child) : going parent ∨ going child := by
  by_contra hnot
  obtain ⟨hnotParent, hnotChild⟩ := not_or.1 hnot
  obtain ⟨s, hseen, -, -⟩ := Setting.exists_schema_of_mem_visitedFrom hchild
  obtain ⟨t, ht⟩ := Option.isSome_iff_exists.1 hsome
  have hs := Setting.schema?_of_seen hseen
  obtain ⟨progress, jobs, hfinishes, hlate⟩ := exists_late hapart hdoctypes hnone hparent hchild
    (hacyclic parent hparent child hchild) hs ht hnotParent hnotChild hvia
  exact hlate (h progress jobs hfinishes parent hparent child hchild s t hs ht)

theorem requestsOnce_of_declaresChildrenFirst : setting.RequestsOnce roots := by
  intro parent hparent child hchild hsome
  have hgoing := @going_of_requestedVia setting roots doctypes hapart hacyclic hdoctypes hnone h
  constructor
  · intro hroot
    exact (hgoing (fun _ => False) hparent hchild hsome (.inl hroot)).elim id id
  · intro other hother hvisited
    by_contra hne
    -- One of the two parents does not lead to the other one, and is late if the other one is first.
    by_cases hleads : setting.LeadsTo parent other
    · rcases hgoing (fun doctype => setting.LeadsTo doctype parent) hother hvisited hsome
        (.inr ⟨parent, hparent, hchild, fun _ => id⟩) with hback | hback
      · exact hacyclic.not_leadsTo hparent (Ne.symm hne) hleads hback
      · exact hacyclic parent hparent child hchild hback
    · rcases hgoing (fun doctype => setting.LeadsTo doctype other) hparent hchild hsome
        (.inr ⟨other, hother, hvisited, fun _ => id⟩) with hto | hback
      · exact hleads hto
      · exact hacyclic other hother child hvisited hback

end Requests

/-- All runs without an earlier output that succeed declare child doctypes in front of their parents
if and only if no child doctype with a schema is requested twice. The same holds of the runs in
which jobs begin as soon as they have been requested. -/
theorem declaresChildrenFirst_iff {contents : List Bytes}
    (hcontents : ∀ path bytes, setting.view (.read path) = .ok bytes → bytes ∈ contents)
    (hapart : setting.NamesApart .empty roots) (hacyclic : setting.Acyclic roots) :
    ((∀ progress jobs, Finishes setting (.start setting .empty roots) (.running progress jobs) →
        setting.DeclaresChildrenFirst roots progress.interfaces) ↔
      (setting.NoneFails roots → setting.RequestsOnce roots)) ∧
    ((∀ progress jobs,
        PromptFinishes setting (.start setting .empty roots) (.running progress jobs) →
          setting.DeclaresChildrenFirst roots progress.interfaces) ↔
      (setting.NoneFails roots → setting.RequestsOnce roots)) := by
  obtain ⟨doctypes, hdoctypes⟩ := exists_requestable hcontents .empty roots
  have hall (honce : setting.NoneFails roots → setting.RequestsOnce roots)
      (progress : Progress) (jobs : List Job)
      (hfinishes : Finishes setting (.start setting .empty roots) (.running progress jobs)) :
      setting.DeclaresChildrenFirst roots progress.interfaces := by
    have hvalid : Valid setting .empty roots progress jobs := sound_of_run hapart hfinishes.1
    have hended := hasEnded_of_stuck hvalid.wired hfinishes.2
    have hnone : setting.NoneFails roots := fun doctype hrequestable failure =>
      hvalid.not_seen_error hended hrequestable
    exact declaresChildrenFirst_of_requestsOnce hapart (honce hnone) hfinishes
  constructor
  · refine ⟨fun h hnone => ?_, hall⟩
    apply requestsOnce_of_declaresChildrenFirst hapart hacyclic hdoctypes hnone
    exact fun progress jobs hfinishes => h progress jobs hfinishes.finishes
  · refine ⟨fun h hnone => ?_, fun honce progress jobs hfinishes => ?_⟩
    · exact requestsOnce_of_declaresChildrenFirst hapart hacyclic hdoctypes hnone h
    · exact hall honce progress jobs hfinishes.finishes

end Iff

section Line

/-- An application with a bill and an item that leads to no other doctype. -/
def lineStorage : Memory :=
  billStorage.insert (.ofText "/s/doctype/i/i.json") (Text.encodeUtf8 "[\"I\",\"2\",1]")

def lineSetting : Setting :=
  memorySetting lineStorage 4 (.ofText "/") "s"

def lineSchema : DoctypeSchema :=
  ⟨"I", "2", true, []⟩

theorem lineSetting_schemas :
    lineSetting.schema? "b" = some billSchema ∧ lineSetting.schema? "i" = some lineSchema := by
  decide +kernel

theorem lineSetting_visited {doctype child : String} (hdoctype : doctype ∈ ["b", "i"])
    (hchild : child ∈ visitedFrom .empty lineSetting.schema? doctype) :
    doctype = "b" ∧ child = "i" := by
  obtain ⟨hbill, hitem⟩ := lineSetting_schemas
  have hbillChildren : billSchema.childDoctypes = ["i"] := by decide
  rw [visitedFrom, outdated?_empty] at hchild
  rcases List.mem_pair.1 hdoctype with rfl | rfl
  · rw [hbill, Option.map_some, Option.getD_some, hbillChildren] at hchild
    exact ⟨rfl, List.mem_singleton.1 hchild⟩
  · rw [hitem] at hchild
    cases hchild

section Requests

variable {roots : List String} (hroots : ∀ root ∈ roots, root ∈ ["b", "i"])

include hroots

theorem lineSetting_requestable {doctype : String}
    (h : lineSetting.Requestable .empty roots doctype) : doctype ∈ ["b", "i"] := by
  obtain ⟨root, hroot, hreaches⟩ := h
  refine DepthFirst.mem_of_reaches ?_ (hroots root hroot) hreaches
  intro a ha b hb
  rw [(lineSetting_visited ha hb).2]
  decide

theorem lineSetting_namesApart : lineSetting.NamesApart .empty roots := by
  intro a b ha hb s t hs ht hname
  obtain ⟨hbill, hitem⟩ := lineSetting_schemas
  exact eq_of_distinct_names hbill hitem (by decide) (lineSetting_requestable hroots ha)
    (lineSetting_requestable hroots hb) hs ht hname

theorem lineSetting_acyclic : lineSetting.Acyclic roots := by
  intro parent hparent child hchild hleads
  obtain ⟨rfl, rfl⟩ := lineSetting_visited (lineSetting_requestable hroots hparent) hchild
  rcases Relation.ReflTransGen.cases_head hleads with heq | ⟨next, hnext, -⟩
  · exact absurd heq (by decide)
  · obtain ⟨heq, -⟩ := lineSetting_visited (by decide) hnext
    exact absurd heq (by decide)

end Requests

/-- The names of the interfaces when the jobs have gone on in turns, if all of them have ended. -/
def Setting.promptNames? (setting : Setting) (turns : Nat) (roots : List String) :
    Option (List String) :=
  let requests := roots.map fun root => (setting.app, root)
  let resolving := proceed setting.bound promptTurn turns (requestedBy none requests)
  match (resolving.run.run (.onOutput setting.appsPath .empty)).result setting.view with
  | (.ok (), progress) => some progress.interfaces.names
  | (.error _, _) => none

theorem exists_promptFinishes {setting : Setting} {turns : Nat} {roots names : List String}
    (h : setting.promptNames? turns roots = some names) :
    ∃ progress jobs, PromptFinishes setting (.start setting .empty roots) (.running progress jobs) ∧
      progress.interfaces.names = names := by
  rw [Setting.promptNames?] at h
  split at h
  · next progress hresult =>
    obtain ⟨events, hends, hview⟩ := Program.result_eq_iff.1 hresult
    obtain ⟨jobs, hfinishes⟩ := promptFinishes_of_proceed hends hview
    exact ⟨progress, jobs, hfinishes, Option.some.inj h⟩
  · cases h

theorem lineSetting_turns :
    lineSetting.promptNames? 20 ["b"] = some ["I", "B"] ∧
      lineSetting.promptNames? 20 ["i", "b"] = some ["B", "I"] := by
  decide +kernel

theorem item_before_bill :
    ∃ progress jobs,
      PromptFinishes lineSetting (.start lineSetting .empty ["b"]) (.running progress jobs) ∧
        progress.interfaces.names = ["I", "B"] ∧
        lineSetting.DeclaresChildrenFirst ["b"] progress.interfaces := by
  have hroots : ∀ root ∈ ["b"], root ∈ ["b", "i"] := by decide
  have honce : lineSetting.RequestsOnce ["b"] := by
    intro parent hparent child hchild _
    obtain ⟨rfl, rfl⟩ := lineSetting_visited (lineSetting_requestable hroots hparent) hchild
    refine ⟨by decide, fun other hother hvisited => ?_⟩
    exact (lineSetting_visited (lineSetting_requestable hroots hother) hvisited).1
  obtain ⟨progress, jobs, hfinishes, hnames⟩ := exists_promptFinishes lineSetting_turns.1
  obtain ⟨-, -, hall⟩ := declaresChildrenFirst_iff
    (fun path bytes hread => Memory.mem_files_of_read hread)
    (lineSetting_namesApart hroots) (lineSetting_acyclic hroots)
  exact ⟨progress, jobs, hfinishes, hnames, hall (fun _ => honce) progress jobs hfinishes⟩

/-- When the item is requested, too, the bill can be declared in front of it. -/
theorem bill_before_item :
    earlierInterfaces Memory.answer lineStorage billOptions = .empty ∧
      lineSetting.NamesApart .empty ["i", "b"] ∧ lineSetting.Acyclic ["i", "b"] ∧
      ∃ progress jobs,
        PromptFinishes lineSetting (.start lineSetting .empty ["i", "b"])
          (.running progress jobs) ∧
        progress.interfaces.names = ["B", "I"] ∧
        ¬ lineSetting.DeclaresChildrenFirst ["i", "b"] progress.interfaces := by
  have hroots : ∀ root ∈ ["i", "b"], root ∈ ["b", "i"] := by decide
  obtain ⟨hbill, hitem⟩ := lineSetting_schemas
  obtain ⟨progress, jobs, hfinishes, hnames⟩ := exists_promptFinishes lineSetting_turns.2
  refine ⟨earlierInterfaces_of_fresh (by decide), lineSetting_namesApart hroots,
    lineSetting_acyclic hroots, progress, jobs, hfinishes, hnames, ?_⟩
  intro hfirst
  have hrequestable : lineSetting.Requestable .empty ["i", "b"] "b" := ⟨"b", by decide, .refl⟩
  have hchild : "i" ∈ visitedFrom .empty lineSetting.schema? "b" := by
    rw [visitedFrom, outdated?_empty, hbill]
    decide
  have hstands : StandsBefore "I" "B" ["B", "I"] :=
    hnames ▸ hfirst "b" hrequestable "i" hchild _ _ hbill hitem
  have hmem : "I" ∈ ["B"] := hstands.mem_of_isPrefix (by decide) ⟨["I"], rfl⟩ (by decide)
  exact absurd hmem (by decide)

end Line

end DoctypeInterfaces.Scheduling
