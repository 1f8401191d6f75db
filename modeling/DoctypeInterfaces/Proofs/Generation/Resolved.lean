import DoctypeInterfaces.Proofs.Field.Member
import DoctypeInterfaces.Proofs.Generation.Ends
import DoctypeInterfaces.Proofs.Generation.Lookup

namespace DoctypeInterfaces

open Storage

/-- The doctypes that the table fields of a doctype lead to, as directories. -/
def DoctypeSchema.childDoctypes (schema : DoctypeSchema) : List String :=
  (schema.fields.filterMap FieldSchema.childDoctype).map doctypeDirName

theorem DoctypeSchema.map_related (schema : DoctypeSchema) :
    schema.related.map doctypeDirName = schema.childDoctypes := by
  rw [related_eq, childDoctypes]

namespace Progress

variable (progress : Progress)

def lookedUp (lookup : Lookup) : Progress :=
  { progress with
    processed := lookup.doctype :: progress.processed
    locator := progress.locator.walked lookup.app lookup.doctype (.ok lookup.path?) }

/-- Whether the locator searches in the given directory, and knows nothing of doctypes that have not
been processed. -/
def Consistent (appsPath : Path) (progress : Progress) : Prop :=
  progress.locator.appsPath = appsPath ∧
    ∀ app doctype, doctype ∉ progress.processed →
      progress.locator.remembered? app doctype = none

variable {progress} {appsPath : Path}

theorem consistent_start : (Progress.start appsPath).Consistent appsPath :=
  ⟨rfl, fun _ _ _ => rfl⟩

theorem Consistent.lookedUp (h : progress.Consistent appsPath) (lookup : Lookup) :
    (progress.lookedUp lookup).Consistent appsPath := by
  refine ⟨h.1, fun app doctype hnew => ?_⟩
  obtain ⟨hne, hold⟩ : doctype ≠ lookup.doctype ∧ doctype ∉ progress.processed := by
    simpa [Progress.lookedUp] using hnew
  have hkey : ((app, doctype) == (lookup.app, lookup.doctype)) = false := by simp [hne]
  change List.lookup (app, doctype) (_ :: progress.locator.found) = none
  rw [List.lookup_cons, hkey]
  exact h.2 app doctype hold

end Progress

/-- What resolving requests one after the other leads to: the lookups in the order in which they are
made, and the schemas emitted in the order in which their interfaces are inserted. -/
inductive Resolved :
    Progress → List (String × String) → List Lookup → List DoctypeSchema → Progress → Prop where
  | done (progress : Progress) : Resolved progress [] [] [] progress
  | known {before after : Progress} {app doctype : String} {requests : List (String × String)}
    {lookups : List Lookup} {emitted : List DoctypeSchema} :
    doctype ∈ before.processed → Resolved before requests lookups emitted after →
    Resolved before ((app, doctype) :: requests) lookups emitted after
  | missing {before after : Progress} {requests : List (String × String)} {lookups : List Lookup}
    {emitted : List DoctypeSchema} (lookup : Lookup) :
    lookup.doctype ∉ before.processed → lookup.found = none →
    Resolved ((before.lookedUp lookup).missed lookup.doctype) requests lookups emitted after →
    Resolved before ((lookup.app, lookup.doctype) :: requests) (lookup :: lookups) emitted after
  | current {before after : Progress} {requests : List (String × String)} {lookups : List Lookup}
    {emitted : List DoctypeSchema} (lookup : Lookup) (schema : DoctypeSchema) :
    lookup.doctype ∉ before.processed → lookup.schema? = some schema →
    before.interfaces.isCurrent schema.interfaceName schema.modified = true →
    Resolved ((before.lookedUp lookup).passed lookup.doctype) requests lookups emitted after →
    Resolved before ((lookup.app, lookup.doctype) :: requests) (lookup :: lookups) emitted after
  | emitted {before middle after : Progress} {requests : List (String × String)}
    {inner later : List Lookup} {innerEmitted laterEmitted : List DoctypeSchema} (lookup : Lookup)
    (schema : DoctypeSchema) :
    lookup.doctype ∉ before.processed → lookup.schema? = some schema →
    before.interfaces.isCurrent schema.interfaceName schema.modified = false →
    Resolved ((before.lookedUp lookup).announced lookup.doctype)
      (schema.childDoctypes.map fun child => (lookup.app, child)) inner innerEmitted middle →
    Resolved (middle.emitted schema.toInterface) requests later laterEmitted after →
    Resolved before ((lookup.app, lookup.doctype) :: requests) (lookup :: (inner ++ later))
      (innerEmitted ++ schema :: laterEmitted) after

namespace Resolved

variable {before middle after : Progress} {requests later : List (String × String)}
  {lookups laterLookups : List Lookup} {emitted laterEmitted : List DoctypeSchema}

theorem append (h : Resolved before requests lookups emitted middle)
    (hlater : Resolved middle later laterLookups laterEmitted after) :
    Resolved before (requests ++ later) (lookups ++ laterLookups) (emitted ++ laterEmitted)
      after := by
  induction h with
  | done => exact hlater
  | known hold _ ih => exact .known hold (ih hlater)
  | missing lookup hnew hnone _ ih => exact .missing lookup hnew hnone (ih hlater)
  | current lookup schema hnew hschema hcurrent _ ih =>
    exact .current lookup schema hnew hschema hcurrent (ih hlater)
  | emitted lookup schema hnew hschema hcurrent hinner _ _ ih =>
    simp only [List.append_assoc, List.cons_append]
    exact .emitted lookup schema hnew hschema hcurrent hinner (ih hlater)

theorem consistent {appsPath : Path} (h : Resolved before requests lookups emitted after)
    (hbefore : before.Consistent appsPath) : after.Consistent appsPath := by
  induction h with
  | done => exact hbefore
  | known _ _ ih => exact ih hbefore
  | missing lookup _ _ _ ih => exact ih (hbefore.lookedUp lookup)
  | current lookup _ _ _ _ _ ih => exact ih (hbefore.lookedUp lookup)
  | emitted lookup _ _ _ _ _ _ ihInner ihLater => exact ihLater (ihInner (hbefore.lookedUp lookup))

end Resolved

namespace Resolution

variable {bound depth : Nat} {app doctype : String} {before after : Progress}
  {events : List Event}

theorem ends_missing {result : Except Failure Unit} :
    Ends (missing doctype) before events result after ↔
      events = [] ∧ result = .ok () ∧ after = before.missed doctype :=
  ends_modify

theorem ends_skip {result : Except Failure Unit} :
    Ends (skip doctype) before events result after ↔
      events = [] ∧ result = .ok () ∧ after = before.passed doctype :=
  ends_modify

theorem ends_announce {result : Except Failure Unit} :
    Ends (announce doctype) before events result after ↔
      events = [] ∧ result = .ok () ∧ after = before.announced doctype :=
  ends_modify

theorem ends_emit {interface : Interface} {result : Except Failure Unit} :
    Ends (emit interface) before events result after ↔
      events = [] ∧ result = .ok () ∧ after = before.emitted interface :=
  ends_modify

def settle (bound : Nat) (app : String) (depth : Nat) (doctype : String) (schema : DoctypeSchema) :
    Resolution Unit := do
  if (← get).interfaces.isCurrent schema.interfaceName schema.modified then
    skip doctype
  else
    announce doctype
    match depth with
    | 0 => throw .unfinished
    | depth + 1 =>
      (schema.related.map doctypeDirName).forM (resolve bound app depth)
      emit schema.toInterface

theorem resolve_eq (bound : Nat) (app : String) (depth : Nat) (doctype : String) :
    resolve bound app depth doctype =
      (do
        if ← enter doctype then
          match ← locate bound app doctype with
          | none => missing doctype
          | some path => ofProgram (loadSchema path) >>= settle bound app depth doctype) := by
  unfold resolve
  rfl

theorem ends_settle_of_current {schema : DoctypeSchema} {result : Except Failure Unit}
    (h : before.interfaces.isCurrent schema.interfaceName schema.modified = true) :
    Ends (settle bound app depth doctype schema) before events result after ↔
      events = [] ∧ result = .ok () ∧ after = before.passed doctype := by
  have hrun : (settle bound app depth doctype schema).run.run before =
      (skip doctype).run.run before := by
    change (ExceptT.run (if before.interfaces.isCurrent schema.interfaceName schema.modified
      then skip doctype else _)).run before = _
    rw [if_pos h]
  rw [Ends, hrun]
  exact ends_skip

theorem ends_settle_of_outdated {schema : DoctypeSchema}
    (h : before.interfaces.isCurrent schema.interfaceName schema.modified = false) :
    Ends (settle bound app depth doctype schema) before events (.ok ()) after ↔
      ∃ inner middle, depth = inner + 1 ∧
        Ends (schema.childDoctypes.forM (resolve bound app inner)) (before.announced doctype) events
          (.ok ()) middle ∧
        after = middle.emitted schema.toInterface := by
  have hrun : (settle bound app depth doctype schema).run.run before =
      (do
        announce doctype
        match depth with
        | 0 => throw .unfinished
        | depth + 1 =>
          (schema.related.map doctypeDirName).forM (resolve bound app depth)
          emit schema.toInterface : Resolution Unit).run.run before := by
    change (ExceptT.run (if before.interfaces.isCurrent schema.interfaceName schema.modified
      then skip doctype else _)).run before = _
    rw [h]
    rfl
  rw [Ends, hrun, ← Ends, ends_bind_ok, schema.map_related]
  constructor
  · rintro ⟨_, _, _, rest, hsaid, hrest, rfl⟩
    obtain ⟨rfl, -, rfl⟩ := ends_announce.1 hsaid
    cases depth with
    | zero => simp [ends_throw] at hrest
    | succ inner =>
      obtain ⟨_, children, middle, _, hchildren, hemit, rfl⟩ := ends_bind_ok.1 hrest
      obtain ⟨rfl, -, rfl⟩ := ends_emit.1 hemit
      exact ⟨inner, middle, rfl, by simpa using hchildren, rfl⟩
  · rintro ⟨inner, middle, rfl, hchildren, rfl⟩
    exact ⟨(), [], _, events, ends_announce.2 ⟨rfl, rfl, rfl⟩,
      ends_bind_ok.2 ⟨(), events, middle, [], hchildren, ends_emit.2 ⟨rfl, rfl, rfl⟩, by simp⟩, rfl⟩

/-- What a part of a run that looks a doctype up and settles it leads to. -/
theorem ends_resolve_of_mem {result : Except Failure Unit} (h : doctype ∈ before.processed) :
    Ends (resolve bound app depth doctype) before events result after ↔
      events = [] ∧ result = .ok () ∧ after = before := by
  rw [resolve_eq]
  simp only [ends_bind, ends_enter, h, if_true]
  constructor
  · rintro (⟨_, _, _, rest, ⟨rfl, hentered, rfl⟩, hrest, rfl⟩ | ⟨e, ⟨-, he, -⟩, -⟩)
    · obtain rfl := Except.ok.inj hentered
      exact ends_pure.1 hrest
    · cases he
  · rintro ⟨rfl, rfl, rfl⟩
    exact .inl ⟨false, [], _, [], ⟨rfl, rfl, rfl⟩, ends_pure.2 ⟨rfl, rfl, rfl⟩, rfl⟩

theorem ends_resolve_of_notMem (hnew : doctype ∉ before.processed)
    (hunknown : before.locator.remembered? app doctype = none) :
    Ends (resolve bound app depth doctype) before events (.ok ()) after ↔
      ∃ (lookup : Lookup) (rest : List Event), lookup.app = app ∧ lookup.doctype = doctype ∧
        lookup.Holds bound before.locator.appsPath ∧ events = lookup.events ++ rest ∧
        match lookup.schema? with
        | none => rest = [] ∧ after = (before.lookedUp lookup).missed doctype
        | some schema =>
          Ends (settle bound app depth doctype schema) (before.lookedUp lookup) rest (.ok ())
            after := by
  rw [resolve_eq, ends_bind_ok]
  simp only [ends_enter, hnew, if_false]
  constructor
  · rintro ⟨_, _, _, _, ⟨rfl, hentered, rfl⟩, hbody, rfl⟩
    obtain rfl := Except.ok.inj hentered
    obtain ⟨path?, walked, _, rest, hlocated, hrest, rfl⟩ := ends_bind_ok.1 hbody
    obtain ⟨locator, hlocate, rfl⟩ := ends_locate.1 hlocated
    obtain ⟨hwalk, rfl⟩ := (Locator.execution_locate_iff hunknown).1 hlocate
    cases path? with
    | none =>
      obtain ⟨rfl, -, rfl⟩ := ends_missing.1 hrest
      exact ⟨⟨app, doctype, none, walked⟩, [], rfl, rfl,
        execution_findSchema_ok_iff.2 ⟨walked, [], by simp, hwalk, rfl⟩, by simp, rfl, rfl⟩
    | some path =>
      obtain ⟨schema, read, _, later, hread, hsettle, rfl⟩ := ends_bind_ok.1 hrest
      obtain ⟨hload, rfl⟩ := ends_ofProgram.1 hread
      exact ⟨⟨app, doctype, some (path, schema), walked ++ read⟩, later, rfl, rfl,
        execution_findSchema_ok_iff.2 ⟨walked, read, rfl, hwalk, hload⟩, by simp, hsettle⟩
  · rintro ⟨⟨_, _, found, _⟩, rest, rfl, rfl, hholds, rfl, h⟩
    obtain ⟨walked, read, rfl, hwalk, hread⟩ := execution_findSchema_ok_iff.1 hholds
    refine ⟨true, [], _, _, ⟨rfl, rfl, rfl⟩, ?_, rfl⟩
    refine ends_bind_ok.2 ⟨found.map Prod.fst, walked, _, read ++ rest,
      ends_locate.2 ⟨_, (Locator.execution_locate_iff hunknown).2 ⟨hwalk, rfl⟩, rfl⟩, ?_, by simp⟩
    match found with
    | none =>
      obtain ⟨rfl, rfl⟩ := h
      rw [show read = [] from hread]
      exact ends_missing.2 ⟨rfl, rfl, rfl⟩
    | some (path, schema) =>
      exact ends_bind_ok.2 ⟨schema, read, _, rest, ends_ofProgram.2 ⟨hread, rfl⟩, h, rfl⟩

/-- Whether resolving requests goes like this, in lookups that the events tell of. -/
def Resolves (bound : Nat) (appsPath : Path) (before : Progress)
    (requests : List (String × String)) (events : List Event) (after : Progress) : Prop :=
  ∃ lookups emitted, Resolved before requests lookups emitted after ∧
    (∀ lookup ∈ lookups, lookup.Holds bound appsPath) ∧ events = lookups.flatMap Lookup.events

variable {appsPath : Path} {requests : List (String × String)}

theorem Resolves.consistent (h : Resolves bound appsPath before requests events after)
    (hbefore : before.Consistent appsPath) : after.Consistent appsPath := by
  obtain ⟨lookups, emitted, hresolved, -, -⟩ := h
  exact hresolved.consistent hbefore

theorem Resolves.append {middle : Progress} {later : List (String × String)} {rest : List Event}
    (h : Resolves bound appsPath before requests events middle)
    (hlater : Resolves bound appsPath middle later rest after) :
    Resolves bound appsPath before (requests ++ later) (events ++ rest) after := by
  obtain ⟨lookups, emitted, hresolved, hholds, rfl⟩ := h
  obtain ⟨laterLookups, laterEmitted, hlaterResolved, hlaterHolds, rfl⟩ := hlater
  refine ⟨_, _, hresolved.append hlaterResolved, fun lookup hlookup => ?_, by simp⟩
  rcases List.mem_append.1 hlookup with hlookup | hlookup
  · exact hholds lookup hlookup
  · exact hlaterHolds lookup hlookup

theorem resolves_of_ends_forM
    (hone : ∀ {app doctype before events after}, before.Consistent appsPath →
      Ends (resolve bound app depth doctype) before events (.ok ()) after →
      Resolves bound appsPath before [(app, doctype)] events after)
    (hbefore : before.Consistent appsPath)
    (h : Ends (requests.forM fun request => resolve bound request.1 depth request.2) before events
      (.ok ()) after) :
    Resolves bound appsPath before requests events after := by
  induction requests generalizing before events with
  | nil =>
    obtain ⟨rfl, -, rfl⟩ := ends_pure.1 h
    exact ⟨[], [], .done _, by simp, rfl⟩
  | cons request requests ih =>
    obtain ⟨_, first, middle, rest, hfirst, hrest, rfl⟩ := ends_bind_ok.1 h
    have hrequest := hone hbefore hfirst
    exact hrequest.append (ih (hrequest.consistent hbefore) hrest)

theorem resolves_of_ends_resolve (hbefore : before.Consistent appsPath)
    (h : Ends (resolve bound app depth doctype) before events (.ok ()) after) :
    Resolves bound appsPath before [(app, doctype)] events after := by
  induction depth using Nat.strongRecOn generalizing app doctype before events after with
  | ind depth ih =>
  by_cases hold : doctype ∈ before.processed
  · obtain ⟨rfl, -, rfl⟩ := (ends_resolve_of_mem hold).1 h
    exact ⟨[], [], .known hold (.done _), by simp, rfl⟩
  obtain ⟨lookup, rest, rfl, rfl, hholds, rfl, hsettle⟩ :=
    (ends_resolve_of_notMem hold (hbefore.2 app doctype hold)).1 h
  rw [hbefore.1] at hholds
  cases hschema : lookup.schema? with
  | none =>
    simp only [hschema] at hsettle
    obtain ⟨rfl, rfl⟩ := hsettle
    exact ⟨[lookup], [], .missing lookup hold (Option.map_eq_none_iff.1 hschema) (.done _),
      by simpa using hholds, by simp⟩
  | some schema =>
    simp only [hschema] at hsettle
    cases hcurrent : (before.lookedUp lookup).interfaces.isCurrent schema.interfaceName
      schema.modified with
    | true =>
      obtain ⟨rfl, -, rfl⟩ := (ends_settle_of_current hcurrent).1 hsettle
      exact ⟨[lookup], [], .current lookup schema hold hschema hcurrent (.done _),
        by simpa using hholds, by simp⟩
    | false =>
      obtain ⟨inner, middle, rfl, hchildren, rfl⟩ := (ends_settle_of_outdated hcurrent).1 hsettle
      have hannounced : ((before.lookedUp lookup).announced lookup.doctype).Consistent appsPath :=
        hbefore.lookedUp lookup
      have hmap : Ends ((schema.childDoctypes.map fun child => (lookup.app, child)).forM
          fun request => resolve bound request.1 inner request.2)
          ((before.lookedUp lookup).announced lookup.doctype) rest (.ok ()) middle := by
        rw [List.forM_eq_forM, List.forM_map]
        exact hchildren
      obtain ⟨lookups, emitted, hresolved, hall, rfl⟩ :=
        resolves_of_ends_forM (ih inner inner.lt_succ_self) hannounced hmap
      refine ⟨lookup :: (lookups ++ []), emitted ++ schema :: [],
        .emitted lookup schema hold hschema hcurrent hresolved (.done _), ?_, by simp⟩
      simpa using ⟨hholds, hall⟩

end Resolution

end DoctypeInterfaces
