import DoctypeInterfaces.Generation
import DoctypeInterfaces.Proofs.Locator.Walk
import DoctypeInterfaces.Proofs.Storage.Observation

namespace DoctypeInterfaces

open Storage

def schemaOfBytes? (bytes : Bytes) : Option DoctypeSchema :=
  (textOfBytes bytes).toOption.bind fun s => (DoctypeSchema.ofJson s).toOption

/-- The schema that has been read by a call. -/
def Storage.Event.schema? : Event → Option DoctypeSchema
  | ⟨.read _, .ok bytes⟩ => schemaOfBytes? bytes
  | _ => none

def findSchema (bound : Nat) (appsPath : Path) (app doctype : String) :
    Program (Except Failure (Option (Path × DoctypeSchema))) := do
  match (← (Locator.new appsPath).locate bound app doctype).1 with
  | .error e => return .error e
  | .ok none => return .ok none
  | .ok (some path) => return (← loadSchema path).map fun schema => some (path, schema)

variable {bound : Nat} {appsPath path : Path} {app doctype : String} {events : List Event}
  {schema : DoctypeSchema}

theorem execution_readText_iff {result : Except IoError String} :
    Execution (readText path) events result ↔
      ∃ answer, events = [⟨.read path, answer⟩] ∧ result = answer.bind textOfBytes := by
  rw [readText, Storage.read, Program.ask_bind, Execution.call_iff]
  constructor
  · rintro ⟨answer, rest, rfl, h⟩
    obtain ⟨rfl, rfl⟩ := Execution.done_iff.1 h
    exact ⟨answer, rfl, rfl⟩
  · rintro ⟨answer, rfl, rfl⟩
    exact ⟨answer, [], rfl, .done _⟩

theorem execution_loadSchema_ok_iff :
    Execution (loadSchema path) events (.ok schema) ↔
      ∃ bytes, events = [⟨.read path, .ok bytes⟩] ∧ schemaOfBytes? bytes = some schema := by
  rw [loadSchema, Execution.bind_iff]
  constructor
  · rintro ⟨text, first, rest, hread, h, rfl⟩
    obtain ⟨answer, rfl, rfl⟩ := execution_readText_iff.1 hread
    cases answer with
    | error e => simp [Except.bind] at h
    | ok bytes =>
      dsimp only [Except.bind] at h
      cases htext : textOfBytes bytes with
      | error e => simp [htext] at h
      | ok s =>
        rw [htext] at h
        obtain ⟨rfl, hdecoded⟩ := Execution.done_iff.1 h
        refine ⟨bytes, rfl, ?_⟩
        cases hjson : DoctypeSchema.ofJson s with
        | error e => simp [hjson, Except.mapError] at hdecoded
        | ok decoded =>
          simp only [hjson, Except.mapError, Except.ok.injEq] at hdecoded
          simp [schemaOfBytes?, htext, hjson, hdecoded, Except.toOption]
  · rintro ⟨bytes, rfl, h⟩
    refine ⟨textOfBytes bytes, _, [], execution_readText_iff.2 ⟨.ok bytes, rfl, rfl⟩, ?_, rfl⟩
    cases htext : textOfBytes bytes with
    | error e => simp [schemaOfBytes?, htext, Except.toOption] at h
    | ok s =>
      cases hjson : DoctypeSchema.ofJson s with
      | error e => simp [schemaOfBytes?, htext, hjson, Except.toOption] at h
      | ok decoded =>
        simp only [schemaOfBytes?, htext, hjson, Except.toOption, Option.bind_some,
          Option.some.injEq] at h
        simp [Except.mapError, h, hjson]

theorem execution_findSchema_ok_iff {found : Option (Path × DoctypeSchema)} :
    Execution (findSchema bound appsPath app doctype) events (.ok found) ↔
      ∃ first rest, events = first ++ rest ∧
        Execution (Locator.walk bound (appsPath.join (.ofText app)) (schemaSuffix doctype)) first
          (.ok (found.map Prod.fst)) ∧
        match found with
        | none => rest = []
        | some (path, schema) => Execution (loadSchema path) rest (.ok schema) := by
  rw [findSchema, Execution.bind_iff]
  constructor
  · rintro ⟨⟨result, locator⟩, first, rest, hlocate, h, rfl⟩
    obtain ⟨hwalk, -⟩ := (Locator.execution_locate_iff rfl).1 hlocate
    refine ⟨first, rest, rfl, ?_⟩
    match result with
    | .error e => simp at h
    | .ok none =>
      obtain ⟨rfl, hfound⟩ := Execution.done_iff.1 h
      obtain rfl := Except.ok.inj hfound
      exact ⟨hwalk, rfl⟩
    | .ok (some path) =>
      dsimp only at h
      rw [bind_pure_comp, Execution.map_iff] at h
      obtain ⟨loaded, hload, hfound⟩ := h
      cases loaded with
      | error e => cases hfound
      | ok schema =>
        obtain rfl := Except.ok.inj hfound
        exact ⟨hwalk, hload⟩
  · rintro ⟨first, rest, rfl, hwalk, h⟩
    refine ⟨_, first, rest, (Locator.execution_locate_iff rfl).2 ⟨hwalk, rfl⟩, ?_, rfl⟩
    match found with
    | none =>
      subst h
      exact .done _
    | some (path, schema) =>
      dsimp only [Option.map]
      rw [bind_pure_comp, Execution.map_iff]
      exact ⟨_, h, rfl⟩

/-- A doctype of an application that has been looked up: its schema and the file of that, if there
is one, and the events that tell so. -/
structure Lookup where
  app : String
  doctype : String
  found : Option (Path × DoctypeSchema)
  events : List Event

namespace Lookup

def path? (lookup : Lookup) : Option Path :=
  lookup.found.map Prod.fst

def schema? (lookup : Lookup) : Option DoctypeSchema :=
  lookup.found.map Prod.snd

theorem schema?_eq_none {lookup : Lookup} (h : lookup.found = none) : lookup.schema? = none := by
  rw [schema?, h]
  rfl

/-- Whether a lookup can have gone like this, with at most `bound` listings below the directory of
the application. -/
def Holds (bound : Nat) (appsPath : Path) (lookup : Lookup) : Prop :=
  Execution (findSchema bound appsPath lookup.app lookup.doctype) lookup.events (.ok lookup.found)

theorem Holds.filterMap_schema? {lookup : Lookup} (h : lookup.Holds bound appsPath) :
    lookup.events.filterMap Event.schema? = lookup.schema?.toList := by
  obtain ⟨first, rest, hevents, hwalk, hrest⟩ := execution_findSchema_ok_iff.1 h
  have hfirst : first.filterMap Event.schema? = [] := by
    rw [List.filterMap_eq_nil_iff]
    intro e he
    obtain ⟨dir, hdir⟩ := Locator.call_eq_listDir_of_walk hwalk e he
    obtain ⟨c, answer⟩ := e
    subst hdir
    rfl
  rw [hevents, List.filterMap_append, hfirst, List.nil_append, schema?]
  cases hfound : lookup.found with
  | none =>
    simp only [hfound] at hrest
    rw [hrest]
    rfl
  | some found =>
    simp only [hfound] at hrest
    obtain ⟨bytes, rfl, hschema⟩ := execution_loadSchema_ok_iff.1 hrest
    simp [Event.schema?, hschema]

theorem Holds.observes {lookup : Lookup} (h : lookup.Holds bound appsPath) :
    ∀ e ∈ lookup.events, e.call.observes = true := by
  obtain ⟨first, rest, hevents, hwalk, hrest⟩ := execution_findSchema_ok_iff.1 h
  intro e he
  rw [hevents, List.mem_append] at he
  rcases he with he | he
  · exact Locator.observes_of_walk hwalk e he
  · cases hfound : lookup.found with
    | none =>
      simp only [hfound] at hrest
      simp [hrest] at he
    | some found =>
      simp only [hfound] at hrest
      obtain ⟨bytes, rfl, -⟩ := execution_loadSchema_ok_iff.1 hrest
      rw [List.mem_singleton.1 he]
      rfl

theorem Holds.mono {lookup : Lookup} {bound' : Nat} (h : lookup.Holds bound appsPath)
    (hle : bound ≤ bound') : lookup.Holds bound' appsPath := by
  obtain ⟨first, rest, hevents, hwalk, hrest⟩ := execution_findSchema_ok_iff.1 h
  exact execution_findSchema_ok_iff.2
    ⟨first, rest, hevents, Locator.execution_walk_mono hwalk nofun hle, hrest⟩

/-- Lookups of one doctype that see the same storage are the same, whatever bounds them. -/
theorem Holds.unique {lookup other : Lookup} {bound' : Nat} {view : (c : Call) → c.Answer}
    (h : lookup.Holds bound appsPath) (h' : other.Holds bound' appsPath)
    (happ : other.app = lookup.app) (hdoctype : other.doctype = lookup.doctype)
    (hview : ∀ e ∈ lookup.events, e.answer = view e.call)
    (hview' : ∀ e ∈ other.events, e.answer = view e.call) : other = lookup := by
  have hfirst := h.mono (Nat.le_max_left bound bound')
  have hsecond := h'.mono (Nat.le_max_right bound bound')
  rw [Holds, happ, hdoctype] at hsecond
  obtain ⟨hevents, hfound⟩ := Execution.unique hfirst hsecond hview hview'
  obtain ⟨app, doctype, found, events⟩ := other
  obtain rfl : found = lookup.found := Except.ok.inj hfound
  subst happ hdoctype hevents
  rfl

end Lookup

namespace Storage.Memory

/-- The schema file of a doctype of an application, and the schema in it. -/
def schemaFile? (memory : Memory) (bound : Nat) (appsPath : Path) (app doctype : String) :
    Option (Path × DoctypeSchema) :=
  match (((findSchema bound appsPath app doctype).run answer).run memory).1 with
  | .ok found => found
  | .error _ => none

/-- The schema of a doctype of an application. -/
def schema? (memory : Memory) (bound : Nat) (appsPath : Path) (app doctype : String) :
    Option DoctypeSchema :=
  (memory.schemaFile? bound appsPath app doctype).map Prod.snd

theorem schemaFile?_eq_of_holds {memory : Memory} {lookup : Lookup}
    (h : lookup.Holds bound appsPath)
    (hview : ∀ e ∈ lookup.events, e.answer = memory.view e.call) :
    memory.schemaFile? bound appsPath lookup.app lookup.doctype = lookup.found := by
  obtain ⟨after, htranscript, -⟩ := transcript_of_view h.observes hview
  have hrun := Program.run_eq_iff.2 ⟨_, h, htranscript⟩
  rw [schemaFile?, hrun]

theorem holds_of_schemaFile? {memory : Memory} {found : Path × DoctypeSchema}
    (h : memory.schemaFile? bound appsPath app doctype = some found) :
    ∃ lookup : Lookup, lookup.app = app ∧ lookup.doctype = doctype ∧ lookup.found = some found ∧
      lookup.Holds bound appsPath ∧ ∀ e ∈ lookup.events, e.answer = memory.view e.call := by
  obtain ⟨result, after, hrun⟩ : ∃ result after,
      ((findSchema bound appsPath app doctype).run answer).run memory = (result, after) :=
    ⟨_, _, rfl⟩
  rw [schemaFile?, hrun] at h
  cases result with
  | error e => cases h
  | ok found' =>
    obtain rfl : found' = some found := h
    obtain ⟨events, hexecution, htranscript⟩ := Program.run_eq_iff.1 hrun
    have hholds : (Lookup.mk app doctype (some found) events).Holds bound appsPath := hexecution
    exact ⟨_, rfl, rfl, rfl, hholds, answer_eq_view htranscript hholds.observes⟩

end Storage.Memory

end DoctypeInterfaces
