import DoctypeInterfaces.Proofs.Generation.Effects

namespace DoctypeInterfaces

open Storage

/-- How far the requests are resolved when a lookup fails: the lookups before it, and the
application and the doctype that it was for. -/
inductive Interrupted :
    Progress → List (String × String) → List Lookup → String × String → Prop where
  | here {before : Progress} {requests : List (String × String)} {app doctype : String} :
    doctype ∉ before.processed →
    Interrupted before ((app, doctype) :: requests) [] (app, doctype)
  | known {before : Progress} {requests : List (String × String)} {app doctype : String}
    {lookups : List Lookup} {failed : String × String} :
    doctype ∈ before.processed → Interrupted before requests lookups failed →
    Interrupted before ((app, doctype) :: requests) lookups failed
  | missing {before : Progress} {requests : List (String × String)} {lookups : List Lookup}
    {failed : String × String} (lookup : Lookup) :
    lookup.doctype ∉ before.processed → lookup.found = none →
    Interrupted ((before.lookedUp lookup).missed lookup.doctype) requests lookups failed →
    Interrupted before ((lookup.app, lookup.doctype) :: requests) (lookup :: lookups) failed
  | current {before : Progress} {requests : List (String × String)} {lookups : List Lookup}
    {failed : String × String} (lookup : Lookup) (schema : DoctypeSchema) :
    lookup.doctype ∉ before.processed → lookup.schema? = some schema →
    before.interfaces.isCurrent schema.interfaceName schema.modified = true →
    Interrupted ((before.lookedUp lookup).passed lookup.doctype) requests lookups failed →
    Interrupted before ((lookup.app, lookup.doctype) :: requests) (lookup :: lookups) failed
  /-- A lookup fails among those for the child doctypes of the first request. -/
  | within {before : Progress} {requests : List (String × String)} {inner : List Lookup}
    {failed : String × String} (lookup : Lookup) (schema : DoctypeSchema) :
    lookup.doctype ∉ before.processed → lookup.schema? = some schema →
    before.interfaces.isCurrent schema.interfaceName schema.modified = false →
    Interrupted ((before.lookedUp lookup).announced lookup.doctype)
      (schema.childDoctypes.map fun child => (lookup.app, child)) inner failed →
    Interrupted before ((lookup.app, lookup.doctype) :: requests) (lookup :: inner) failed
  | emitted {before middle : Progress} {requests : List (String × String)}
    {inner later : List Lookup} {innerEmitted : List DoctypeSchema} {failed : String × String}
    (lookup : Lookup) (schema : DoctypeSchema) :
    lookup.doctype ∉ before.processed → lookup.schema? = some schema →
    before.interfaces.isCurrent schema.interfaceName schema.modified = false →
    Resolved ((before.lookedUp lookup).announced lookup.doctype)
      (schema.childDoctypes.map fun child => (lookup.app, child)) inner innerEmitted middle →
    Interrupted (middle.emitted schema.toInterface) requests later failed →
    Interrupted before ((lookup.app, lookup.doctype) :: requests) (lookup :: (inner ++ later))
      failed

namespace Interrupted

variable {before middle : Progress} {requests later : List (String × String)}
  {lookups laterLookups : List Lookup} {emitted : List DoctypeSchema} {failed : String × String}

theorem append (h : Interrupted before requests lookups failed) :
    Interrupted before (requests ++ later) lookups failed := by
  induction h with
  | here hnew => exact .here hnew
  | known hold _ ih => exact .known hold ih
  | missing lookup hnew hnone _ ih => exact .missing lookup hnew hnone ih
  | current lookup schema hnew hschema hcurrent _ ih =>
    exact .current lookup schema hnew hschema hcurrent ih
  | within lookup schema hnew hschema hcurrent hinner _ =>
    exact .within lookup schema hnew hschema hcurrent hinner
  | emitted lookup schema hnew hschema hcurrent hinner _ ih =>
    exact .emitted lookup schema hnew hschema hcurrent hinner ih

theorem of_resolved (h : Resolved before requests lookups emitted middle)
    (hlater : Interrupted middle later laterLookups failed) :
    Interrupted before (requests ++ later) (lookups ++ laterLookups) failed := by
  induction h with
  | done => exact hlater
  | known hold _ ih => exact .known hold (ih hlater)
  | missing lookup hnew hnone _ ih => exact .missing lookup hnew hnone (ih hlater)
  | current lookup schema hnew hschema hcurrent _ ih =>
    exact .current lookup schema hnew hschema hcurrent (ih hlater)
  | emitted lookup schema hnew hschema hcurrent hinner _ _ ih =>
    simp only [List.append_assoc, List.cons_append]
    exact .emitted lookup schema hnew hschema hcurrent hinner (ih hlater)

theorem forall_app {p : String → Prop} (h : Interrupted before requests lookups failed)
    (hrequests : ∀ request ∈ requests, p request.1) :
    (∀ lookup ∈ lookups, p lookup.app) ∧ p failed.1 := by
  induction h with
  | here => exact ⟨by simp, hrequests _ List.mem_cons_self⟩
  | known _ _ ih => exact ih (List.forall_mem_cons.1 hrequests).2
  | missing lookup _ _ _ ih =>
    obtain ⟨hfirst, hrest⟩ := List.forall_mem_cons.1 hrequests
    obtain ⟨hlookups, hfailed⟩ := ih hrest
    exact ⟨List.forall_mem_cons.2 ⟨hfirst, hlookups⟩, hfailed⟩
  | current lookup _ _ _ _ _ ih =>
    obtain ⟨hfirst, hrest⟩ := List.forall_mem_cons.1 hrequests
    obtain ⟨hlookups, hfailed⟩ := ih hrest
    exact ⟨List.forall_mem_cons.2 ⟨hfirst, hlookups⟩, hfailed⟩
  | within lookup schema _ _ _ _ ih =>
    have hfirst := hrequests _ List.mem_cons_self
    have hchildren : ∀ request ∈ schema.childDoctypes.map fun child => (lookup.app, child),
        p request.1 := by
      simpa using fun _ _ => hfirst
    obtain ⟨hlookups, hfailed⟩ := ih hchildren
    exact ⟨List.forall_mem_cons.2 ⟨hfirst, hlookups⟩, hfailed⟩
  | emitted lookup schema _ _ _ hinner _ ih =>
    obtain ⟨hfirst, hrest⟩ := List.forall_mem_cons.1 hrequests
    have hchildren : ∀ request ∈ schema.childDoctypes.map fun child => (lookup.app, child),
        p request.1 := by
      simpa using fun _ _ => hfirst
    obtain ⟨hlookups, hfailed⟩ := ih hrest
    have hwithin := hinner.forall_app hchildren
    exact ⟨List.forall_mem_cons.2 ⟨hfirst, List.forall_mem_append.2 ⟨hwithin, hlookups⟩⟩, hfailed⟩

end Interrupted

section Lookups

variable {bound : Nat} {appsPath : Path} {app doctype : String} {events : List Event}
  {failure : Failure}

theorem execution_findSchema_error_iff :
    Execution (findSchema bound appsPath app doctype) events (.error failure) ↔
      Execution (Locator.walk bound (appsPath.join (.ofText app)) (schemaSuffix doctype)) events
          (.error failure) ∨
        ∃ path walked read,
          Execution (Locator.walk bound (appsPath.join (.ofText app)) (schemaSuffix doctype)) walked
            (.ok (some path)) ∧
          Execution (loadSchema path) read (.error failure) ∧ events = walked ++ read := by
  rw [findSchema, Execution.bind_iff]
  constructor
  · rintro ⟨⟨result, locator⟩, walked, read, hlocate, h, rfl⟩
    obtain ⟨hwalk, -⟩ := (Locator.execution_locate_iff rfl).1 hlocate
    rcases result with e | _ | path
    case error =>
      obtain ⟨rfl, hfailure⟩ := Execution.done_iff.1 h
      rw [List.append_nil, Except.error.inj hfailure]
      exact .inl hwalk
    case ok.none => cases (Execution.done_iff.1 h).2
    case ok.some =>
      dsimp only at h
      rw [bind_pure_comp, Execution.map_iff] at h
      obtain ⟨loaded, hload, hfailure⟩ := h
      cases loaded with
      | ok schema => cases hfailure
      | error e =>
        rw [Except.error.inj hfailure]
        exact .inr ⟨path, walked, read, hwalk, hload, rfl⟩
  · rintro (hwalk | ⟨path, walked, read, hwalk, hload, rfl⟩)
    · exact ⟨_, events, [], (Locator.execution_locate_iff rfl).2 ⟨hwalk, rfl⟩, .done _,
        (List.append_nil _).symm⟩
    · refine ⟨_, walked, read, (Locator.execution_locate_iff rfl).2 ⟨hwalk, rfl⟩, ?_, rfl⟩
      dsimp only
      rw [bind_pure_comp, Execution.map_iff]
      exact ⟨_, hload, rfl⟩

end Lookups

namespace Resolution

variable {bound depth : Nat} {app doctype : String} {before after : Progress}
  {events : List Event} {failure : Failure}

theorem ends_settle_error {schema : DoctypeSchema} (hfinished : failure ≠ .unfinished)
    (h : Ends (settle bound app depth doctype schema) before events (.error failure) after) :
    before.interfaces.isCurrent schema.interfaceName schema.modified = false ∧
      ∃ inner, depth = inner + 1 ∧
        Ends (schema.childDoctypes.forM (resolve bound app inner)) (before.announced doctype) events
          (.error failure) after := by
  unfold settle at h
  rw [ends_get_bind] at h
  split at h
  · cases (ends_skip.1 h).2.1
  · next houtdated =>
    refine ⟨Bool.eq_false_iff.2 houtdated, ?_⟩
    rw [announce, ends_modify_bind] at h
    cases depth with
    | zero => exact absurd (Except.error.inj (ends_throw.1 h).2.1) hfinished
    | succ inner =>
      refine ⟨inner, rfl, ?_⟩
      dsimp only at h
      rw [schema.map_related] at h
      rcases ends_bind_error.1 h with ⟨_, _, _, _, _, hemit, rfl⟩ | hchildren
      · cases (ends_emit.1 hemit).2.1
      · exact hchildren

/-- A doctype whose resolution fails could not be looked up, or not be settled. -/
theorem ends_resolve_error (hnew : doctype ∉ before.processed)
    (hunknown : before.locator.remembered? app doctype = none)
    (h : Ends (resolve bound app depth doctype) before events (.error failure) after) :
    Execution (findSchema bound before.locator.appsPath app doctype) events (.error failure) ∨
      ∃ (lookup : Lookup) (schema : DoctypeSchema) (rest : List Event), lookup.app = app ∧
        lookup.doctype = doctype ∧ lookup.Holds bound before.locator.appsPath ∧
        lookup.schema? = some schema ∧ events = lookup.events ++ rest ∧
        Ends (settle bound app depth doctype schema) (before.lookedUp lookup) rest
          (.error failure) after := by
  rw [resolve_eq] at h
  rcases ends_bind_error.1 h with ⟨entered, first, middle, rest, henter, hbody, rfl⟩ | hfailed
  · obtain ⟨rfl, hentering⟩ := ends_enter.1 henter
    rw [if_neg hnew] at hentering
    obtain ⟨hentered, rfl⟩ := hentering
    obtain rfl := Except.ok.inj hentered
    rw [if_pos rfl] at hbody
    rcases ends_bind_error.1 hbody with ⟨path?, walked, _, later, hlocated, hlater, rfl⟩ | hfailed
    · obtain ⟨locator, hlocate, rfl⟩ := ends_locate.1 hlocated
      obtain ⟨hwalk, rfl⟩ := (Locator.execution_locate_iff hunknown).1 hlocate
      cases path? with
      | none => cases (ends_missing.1 hlater).2.1
      | some path =>
        rcases ends_bind_error.1 hlater with ⟨schema, read, _, settling, hread, hsettle, rfl⟩ |
          hfailed
        · obtain ⟨hload, rfl⟩ := ends_ofProgram.1 hread
          right
          exact ⟨⟨app, doctype, some (path, schema), walked ++ read⟩, schema, settling, rfl, rfl,
            execution_findSchema_ok_iff.2 ⟨walked, read, rfl, hwalk, hload⟩, rfl, by simp, hsettle⟩
        · obtain ⟨hload, -⟩ := ends_ofProgram.1 hfailed
          left
          exact execution_findSchema_error_iff.2 (.inr ⟨path, walked, later, hwalk, hload, rfl⟩)
    · obtain ⟨locator, hlocate, -⟩ := ends_locate.1 hfailed
      obtain ⟨hwalk, -⟩ := (Locator.execution_locate_iff hunknown).1 hlocate
      left
      exact execution_findSchema_error_iff.2 (.inl hwalk)
  · have hentered := (ends_enter.1 hfailed).2
    rw [if_neg hnew] at hentered
    cases hentered.1

/-- Whether resolving requests fails like this, in lookups that the events tell of. -/
def Interrupts (bound : Nat) (appsPath : Path) (before : Progress)
    (requests : List (String × String)) (events : List Event) (failure : Failure) : Prop :=
  ∃ lookups app doctype failing, Interrupted before requests lookups (app, doctype) ∧
    (∀ lookup ∈ lookups, lookup.Holds bound appsPath) ∧
    Execution (findSchema bound appsPath app doctype) failing (.error failure) ∧
    events = lookups.flatMap Lookup.events ++ failing

variable {appsPath : Path} {requests later : List (String × String)}

theorem Interrupts.append (h : Interrupts bound appsPath before requests events failure) :
    Interrupts bound appsPath before (requests ++ later) events failure := by
  obtain ⟨lookups, app, doctype, failing, hinterrupted, hrest⟩ := h
  exact ⟨lookups, app, doctype, failing, hinterrupted.append, hrest⟩

theorem Interrupts.of_resolves {middle : Progress} {rest : List Event}
    (h : Resolves bound appsPath before requests events middle)
    (hlater : Interrupts bound appsPath middle later rest failure) :
    Interrupts bound appsPath before (requests ++ later) (events ++ rest) failure := by
  obtain ⟨lookups, emitted, hresolved, hholds, rfl⟩ := h
  obtain ⟨laterLookups, app, doctype, failing, hinterrupted, hlaterHolds, hfailing, rfl⟩ := hlater
  exact ⟨lookups ++ laterLookups, app, doctype, failing, .of_resolved hresolved hinterrupted,
    List.forall_mem_append.2 ⟨hholds, hlaterHolds⟩, hfailing, by simp⟩

theorem interrupts_of_ends_forM
    (hone : ∀ {app doctype before events after}, before.Consistent appsPath →
      Ends (resolve bound app depth doctype) before events (.error failure) after →
      Interrupts bound appsPath before [(app, doctype)] events failure)
    (hbefore : before.Consistent appsPath)
    (h : Ends (requests.forM fun request => resolve bound request.1 depth request.2) before events
      (.error failure) after) :
    Interrupts bound appsPath before requests events failure := by
  induction requests generalizing before events with
  | nil => cases (ends_pure.1 h).2.1
  | cons request requests ih =>
    rcases ends_bind_error.1 h with ⟨_, first, middle, rest, hfirst, hrest, rfl⟩ | hfirst
    · have hrequest := resolves_of_ends_resolve hbefore hfirst
      exact .of_resolves hrequest (ih (hrequest.consistent hbefore) hrest)
    · exact (hone hbefore hfirst).append

theorem interrupts_of_ends_resolve (hfinished : failure ≠ .unfinished)
    (hbefore : before.Consistent appsPath)
    (h : Ends (resolve bound app depth doctype) before events (.error failure) after) :
    Interrupts bound appsPath before [(app, doctype)] events failure := by
  induction depth using Nat.strongRecOn generalizing app doctype before events after with
  | ind depth ih =>
  by_cases hold : doctype ∈ before.processed
  · cases ((ends_resolve_of_mem hold).1 h).2.1
  rcases ends_resolve_error hold (hbefore.2 app doctype hold) h with hfailing |
    ⟨lookup, schema, rest, rfl, rfl, hholds, hschema, rfl, hsettle⟩
  · rw [hbefore.1] at hfailing
    exact ⟨[], app, doctype, events, .here hold, by simp, hfailing, rfl⟩
  · rw [hbefore.1] at hholds
    obtain ⟨houtdated, inner, rfl, hchildren⟩ := ends_settle_error hfinished hsettle
    have hannounced : ((before.lookedUp lookup).announced lookup.doctype).Consistent appsPath :=
      hbefore.lookedUp lookup
    have hmap : Ends ((schema.childDoctypes.map fun child => (lookup.app, child)).forM
        fun request => resolve bound request.1 inner request.2)
        ((before.lookedUp lookup).announced lookup.doctype) rest (.error failure) after := by
      rw [List.forM_eq_forM, List.forM_map]
      exact hchildren
    obtain ⟨lookups, app, doctype, failing, hinterrupted, hall, hfailing, rfl⟩ :=
      interrupts_of_ends_forM (ih inner inner.lt_succ_self) hannounced hmap
    exact ⟨lookup :: lookups, app, doctype, failing,
      .within lookup schema hold hschema houtdated hinterrupted,
      List.forall_mem_cons.2 ⟨hholds, hall⟩, hfailing, by simp⟩

end Resolution

end DoctypeInterfaces
