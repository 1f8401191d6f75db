import DoctypeInterfaces.Proofs.Generation.Effects
import DoctypeInterfaces.Proofs.Generation.Run
import DoctypeInterfaces.Proofs.Interface.Block
import DoctypeInterfaces.Proofs.Storage.Frame
import DoctypeInterfaces.Proofs.Text.Utf8

namespace DoctypeInterfaces

open Storage

section Current

variable {bound depth : Nat} {appsPath : Path} {before : Progress} {memory : Memory}
  {set : InterfaceSet}

/-- Whether a lookup can be made on a storage, and finds a current interface if it finds one. -/
structure Lookup.IsSettled (memory : Memory) (bound : Nat) (appsPath : Path) (set : InterfaceSet)
    (lookup : Lookup) : Prop where
  holds : lookup.Holds bound appsPath
  view : ∀ e ∈ lookup.events, e.answer = memory.view e.call
  current : ∀ schema, lookup.schema? = some schema →
    set.isCurrent schema.interfaceName schema.modified = true

/-- Whether a part of a run has only looked at a storage, and has left the interfaces as they
are. -/
structure LeavesAll (memory : Memory) (before : Progress) (events : List Event)
    (after : Progress) : Prop where
  observes : ∀ e ∈ events, e.call.observes = true
  view : ∀ e ∈ events, e.answer = memory.view e.call
  interfaces : after.interfaces = before.interfaces
  changed : after.changed = before.changed

theorem LeavesAll.refl (memory : Memory) (progress : Progress) :
    LeavesAll memory progress [] progress :=
  ⟨by simp, by simp, rfl, rfl⟩

theorem LeavesAll.trans {middle after : Progress} {first rest : List Event}
    (h : LeavesAll memory before first middle) (h' : LeavesAll memory middle rest after) :
    LeavesAll memory before (first ++ rest) after := by
  constructor
  case observes => exact List.forall_mem_append.2 ⟨h.observes, h'.observes⟩
  case view => exact List.forall_mem_append.2 ⟨h.view, h'.view⟩
  case interfaces => exact h'.interfaces.trans h.interfaces
  case changed => exact h'.changed.trans h.changed

theorem ends_resolve_of_settled {lookup : Lookup} (hconsistent : before.Consistent appsPath)
    (h : lookup.IsSettled memory bound appsPath before.interfaces) :
    ∃ events after,
      Resolution.Ends (Resolution.resolve bound lookup.app depth lookup.doctype) before events
        (.ok ()) after ∧
      after.Consistent appsPath ∧ LeavesAll memory before events after := by
  by_cases hold : lookup.doctype ∈ before.processed
  · have hends : Resolution.Ends (Resolution.resolve bound lookup.app depth lookup.doctype) before
        [] (.ok ()) before := (Resolution.ends_resolve_of_mem hold).2 ⟨rfl, rfl, rfl⟩
    exact ⟨[], before, hends, hconsistent, .refl memory before⟩
  · have hunknown := hconsistent.2 lookup.app lookup.doctype hold
    have hholds := h.holds
    rw [← hconsistent.1] at hholds
    have hlooked := hconsistent.lookedUp lookup
    cases hschema : lookup.schema? with
    | none =>
      have hends : Resolution.Ends (Resolution.resolve bound lookup.app depth lookup.doctype)
          before lookup.events (.ok ()) ((before.lookedUp lookup).missed lookup.doctype) := by
        apply (Resolution.ends_resolve_of_notMem hold hunknown).2
        refine ⟨lookup, [], rfl, rfl, hholds, (List.append_nil _).symm, ?_⟩
        rw [hschema]
        exact ⟨rfl, rfl⟩
      exact ⟨_, _, hends, hlooked, h.holds.observes, h.view, rfl, rfl⟩
    | some schema =>
      have hcurrent : (before.lookedUp lookup).interfaces.isCurrent schema.interfaceName
          schema.modified = true := h.current schema hschema
      have hends : Resolution.Ends (Resolution.resolve bound lookup.app depth lookup.doctype)
          before lookup.events (.ok ()) ((before.lookedUp lookup).passed lookup.doctype) := by
        apply (Resolution.ends_resolve_of_notMem hold hunknown).2
        refine ⟨lookup, [], rfl, rfl, hholds, (List.append_nil _).symm, ?_⟩
        rw [hschema]
        exact (Resolution.ends_settle_of_current hcurrent).2 ⟨rfl, rfl, rfl⟩
      exact ⟨_, _, hends, hlooked, h.holds.observes, h.view, rfl, rfl⟩

/-- Requests whose interfaces are all current are resolved without any change. -/
theorem ends_forM_of_settled {requests : List (String × String)}
    (hconsistent : before.Consistent appsPath)
    (hrequests : ∀ request ∈ requests, ∃ lookup : Lookup, lookup.app = request.1 ∧
      lookup.doctype = request.2 ∧ lookup.IsSettled memory bound appsPath before.interfaces) :
    ∃ events after,
      Resolution.Ends (requests.forM fun request =>
        Resolution.resolve bound request.1 depth request.2) before events (.ok ()) after ∧
      LeavesAll memory before events after := by
  induction requests generalizing before with
  | nil => exact ⟨[], before, Resolution.ends_pure.2 ⟨rfl, rfl, rfl⟩, .refl memory before⟩
  | cons request requests ih =>
    obtain ⟨lookup, happ, hdoctype, hsettled⟩ := hrequests request List.mem_cons_self
    obtain ⟨first, middle, hfirst, hmiddle, hleaves⟩ :=
      ends_resolve_of_settled hconsistent hsettled
    rw [happ, hdoctype] at hfirst
    have hrest : ∀ r ∈ requests, ∃ lookup : Lookup, lookup.app = r.1 ∧
        lookup.doctype = r.2 ∧ lookup.IsSettled memory bound appsPath middle.interfaces := by
      intro r hr
      rw [hleaves.interfaces]
      exact hrequests r (List.mem_cons_of_mem request hr)
    obtain ⟨rest, after, hends, hlast⟩ := ih hmiddle hrest
    have hall : Resolution.Ends ((request :: requests).forM fun request =>
        Resolution.resolve bound request.1 depth request.2) before (first ++ rest) (.ok ())
        after := Resolution.ends_bind_ok.2 ⟨(), first, middle, rest, hfirst, hends, rfl⟩
    exact ⟨first ++ rest, after, hall, hleaves.trans hlast⟩

end Current

section Seen

variable {bound : Nat} {appsPath : Path} {memory other : Memory}

theorem Storage.Memory.listsBelow_of_view {e : Event} (h : e.answer = memory.view e.call) :
    Locator.ListsBelow e := by
  obtain ⟨c, answer⟩ := e
  cases c with
  | listDir p =>
    cases answer with
    | error => exact True.intro
    | ok entries =>
      intro entry hentry
      rw [Memory.children_of_view h.symm] at hentry
      exact MemoryTree.liesBelow_of_mem_children hentry
  | read | createDirAll | writeAtomic | isPresent | overwrite => exact True.intro

theorem Lookup.Holds.view_of_agreesBelow {lookup : Lookup} (h : lookup.Holds bound appsPath)
    (hview : ∀ e ∈ lookup.events, e.answer = memory.view e.call)
    (hagrees : Memory.AgreesBelow (appsPath.join (.ofText lookup.app)) memory other) :
    ∀ e ∈ lookup.events, e.answer = other.view e.call := by
  obtain ⟨first, rest, hevents, hwalk, hrest⟩ := execution_findSchema_ok_iff.1 h
  have hlists : ∀ e ∈ first, Locator.ListsBelow e := by
    intro e he
    apply Memory.listsBelow_of_view (hview e _)
    rw [hevents]
    exact List.mem_append_left rest he
  obtain ⟨hcalls, hpath⟩ := Locator.walk_below hwalk hlists
  intro e he
  rw [hview e he]
  rw [hevents] at he
  rcases List.mem_append.1 he with he | he
  · have hcall := hcalls e he
    obtain ⟨dir, hdir⟩ := Locator.call_eq_listDir_of_walk hwalk e he
    rw [hdir] at hcall ⊢
    exact (hagrees.listing dir hcall).symm
  · cases hfound : lookup.found with
    | none =>
      rw [hfound] at hrest
      rw [hrest] at he
      cases he
    | some found =>
      rw [hfound] at hrest hpath
      obtain ⟨bytes, hread, -⟩ := execution_loadSchema_ok_iff.1 hrest
      rw [hread] at he
      rw [List.mem_singleton.1 he]
      exact (hagrees.contents found.1 (hpath found.1 rfl)).symm

end Seen

section Written

variable {memory after : Memory} {root out : Path} {content : String}

theorem createDirAll_dirs_agree (hout : ¬ out.LiesBelow root)
    (h : Transcript Memory.answer memory
      (out.dir?.map fun dir => ⟨.createDirAll dir, .ok ()⟩).toList after) :
    Memory.AgreesBelow root memory after := by
  cases hdir : out.dir? with
  | none =>
    rw [hdir] at h
    cases h
    exact (Memory.Alike.refl memory).agreesBelow
  | some dir =>
    rw [hdir] at h
    obtain ⟨-, hrest⟩ := Transcript.cons_iff.1 h
    cases hrest
    exact Memory.agreesBelow_createDirAll (Path.liesBelow_of_dir? hdir) hout

/-- A file that is written holds what is written, and what does not lie with it is left alone. -/
theorem Storage.Memory.contents_of_writeEvents (hout : ¬ out.LiesBelow root)
    (h : Transcript Memory.answer memory (writeEvents out content) after) :
    after.contents out = .ok (Text.encodeUtf8 content) ∧
      Memory.AgreesBelow root memory after := by
  obtain ⟨middle, hcreated, hwritten⟩ := Transcript.append_iff.1 h
  have hmiddle := createDirAll_dirs_agree hout hcreated
  obtain ⟨hok, hdone⟩ := Transcript.cons_iff.1 hwritten
  have hafter : after = { middle with
      tree := { middle.tree with files := middle.tree.files.put out (Text.encodeUtf8 content) }
      writes := middle.writes + 1 } := by
    cases hdone
    exact middle.writeAtomic_eq_ok hok.symm
  have hput : Memory.AgreesBelow root middle after := by
    apply Memory.agreesBelow_put hout
    · rw [hafter]
    · rw [hafter]
  constructor
  · rw [hafter, Memory.contents, PathMap.get?_put_self]
  · exact hmiddle.trans hput

variable {options : GenerationOptions}

theorem earlierInterfaces_of_contents {set : InterfaceSet}
    (hcontents : memory.contents options.outputPath = .ok (Text.encodeUtf8 set.render))
    (hset : ∀ interface ∈ set.toList, interface.IsDelimited) :
    earlierInterfaces Memory.answer memory options = set := by
  have hread : ((Memory.answer (.read options.outputPath)).run memory).1 =
      .ok (Text.encodeUtf8 set.render) := hcontents
  rw [earlierInterfaces, hread]
  dsimp only [InterfaceSet.ofAnswer]
  rw [Text.decodeUtf8Lossy_encodeUtf8]
  exact InterfaceSet.ofOutput_render hset

/-- After the end of a real run, the output holds the interfaces of that run. -/
theorem earlierInterfaces_of_finish {before progress : Progress} {write : Option WriteResult}
    {events : List Event}
    (h : Resolution.Ends (Resolution.finish options) before events (.ok write) progress)
    (hreal : options.dryRun = false) (hout : ¬ options.outputPath.LiesBelow root)
    (htranscript : Transcript Memory.answer memory events after)
    (hset : ∀ interface ∈ before.interfaces.toList, interface.IsDelimited)
    (hsame : before.changed = 0 →
      before.interfaces = earlierInterfaces Memory.answer memory options) :
    earlierInterfaces Memory.answer after options = before.interfaces ∧
      Memory.AgreesBelow root memory after := by
  rw [Resolution.ends_finish_ok_iff] at h
  split at h
  · next hchanged =>
    obtain ⟨rfl, -, -⟩ := h
    cases htranscript
    exact ⟨(hsame hchanged).symm, (Memory.Alike.refl memory).agreesBelow⟩
  · obtain ⟨result, -, hwrite, -⟩ := h
    rw [hreal, execution_writeOutput_ok_iff] at hwrite
    obtain ⟨rfl, -⟩ := hwrite
    obtain ⟨hcontents, hagrees⟩ := Memory.contents_of_writeEvents hout htranscript
    exact ⟨earlierInterfaces_of_contents hcontents hset, hagrees⟩

end Written

section Again

/-- The interfaces of a run are delimited where the earlier ones are and its schemas are regular. -/
theorem Resolved.isDelimited {before after : Progress} {requests : List (String × String)}
    {lookups : List Lookup} {emitted : List DoctypeSchema}
    (h : Resolved before requests lookups emitted after)
    (hbefore : ∀ interface ∈ before.interfaces.toList, interface.IsDelimited)
    (hregular : ∀ schema ∈ lookups.filterMap Lookup.schema?, schema.IsRegular) :
    ∀ interface ∈ after.interfaces.toList, interface.IsDelimited := by
  intro interface hinterface
  rw [h.interfaces_eq] at hinterface
  rcases InterfaceSet.mem_of_mem_insertAll hinterface with hnew | hold
  · obtain ⟨schema, hschema, rfl⟩ := List.mem_map.1 hnew
    exact (hregular schema (h.mem_of_mem_emitted schema hschema)).isDelimited
  · exact hbefore interface hold

variable {memory : Memory} {bound bound' : Nat} {options : GenerationOptions} {roots : Roots}

theorem recordRun_of_settled
    (hrequests : ∀ request ∈ roots.pairs, ∃ lookup : Lookup, lookup.app = request.1 ∧
      lookup.doctype = request.2 ∧ lookup.IsSettled memory bound options.appsPath
        (earlierInterfaces Memory.answer memory options)) :
    ∃ report, (recordRun Memory.answer memory bound options roots).result = .ok report ∧
      report.changed = 0 ∧ report.write = none ∧
      (∀ e ∈ (recordRun Memory.answer memory bound options roots).events,
        e.call.observes = true) ∧
      memory.Alike (recordRun Memory.answer memory bound options roots).storage := by
  have hconsistent : (Progress.onOutput options.appsPath
      (earlierInterfaces Memory.answer memory options)).Consistent options.appsPath :=
    Progress.consistent_start
  obtain ⟨resolving, resolved, hresolving, hleaves⟩ : ∃ resolving resolved,
      Resolution.Ends (Resolution.resolveRoots bound roots) (.onOutput options.appsPath
        (earlierInterfaces Memory.answer memory options)) resolving (.ok ()) resolved ∧
      LeavesAll memory _ resolving resolved := ends_forM_of_settled hconsistent hrequests
  have hload : Execution (loadOutput options.outputPath)
      [⟨.read options.outputPath, memory.view (.read options.outputPath)⟩]
      (.ok (earlierInterfaces Memory.answer memory options)) := by
    apply execution_loadOutput_ok_iff.2
    refine ⟨_, rfl, rfl, ?_⟩
    intro e he
    have hcontents : memory.contents options.outputPath = .error e := he
    rw [Memory.contents] at hcontents
    split at hcontents
    · cases hcontents
    · rw [← Except.error.inj hcontents]
      rfl
  have hchanged : resolved.changed = 0 := hleaves.changed
  obtain ⟨after, hfinish⟩ : ∃ after,
      Resolution.Ends (Resolution.finish options) resolved [] (.ok none) after := by
    simp [Resolution.ends_finish_ok_iff, hchanged]
  have hends := Resolution.ends_generationBy_ok_iff.2
    ⟨_, resolved, none, _, resolving, [], hload, hresolving, hfinish, rfl, rfl⟩
  rw [List.append_nil] at hends
  have hobserves : ∀ e ∈ [⟨.read options.outputPath, memory.view (.read options.outputPath)⟩] ++
      resolving, e.call.observes = true := List.forall_mem_cons.2 ⟨rfl, hleaves.observes⟩
  have hview : ∀ e ∈ [⟨.read options.outputPath, memory.view (.read options.outputPath)⟩] ++
      resolving, e.answer = memory.view e.call := List.forall_mem_cons.2 ⟨rfl, hleaves.view⟩
  obtain ⟨storage, htranscript, halike⟩ := Memory.transcript_of_view hobserves hview
  have hrun : recordRun Memory.answer memory bound options roots =
      ⟨.ok _, after, storage, _⟩ := recordRun_eq_iff.2 ⟨hends, htranscript⟩
  rw [hrun]
  exact ⟨_, rfl, hchanged, rfl, hobserves, halike⟩

/-- A second run for the same doctypes of one application finds everything current. -/
theorem rerun_changes_nothing {app : String} {doctypes : List String}
    {run again : RecordedRun Memory} {report : Report}
    (hrun : run = recordRun Memory.answer memory bound options roots)
    (hagain : again = recordRun Memory.answer run.storage bound' options roots)
    (hle : bound ≤ bound') (hroots : roots.toList = [(app, doctypes)])
    (hreal : options.dryRun = false) (hok : run.result = .ok report)
    (hout : ¬ options.outputPath.LiesBelow (options.appsPath.join (.ofText app)))
    (hnodup : (run.loaded.map DoctypeSchema.interfaceName).Nodup)
    (hregular : ∀ schema ∈ run.loaded, schema.IsRegular) :
    ∃ second, again.result = .ok second ∧ second.changed = 0 ∧ second.write = none ∧
      (∀ e ∈ again.events, e.call.observes = true) ∧
      again.storage.tree = run.storage.tree ∧
      again.storage.contents? options.outputPath = run.storage.contents? options.outputPath := by
  subst hagain
  obtain ⟨-, htranscript⟩ := recordRun_eq_iff.1 hrun.symm
  rw [hrun] at hok
  obtain ⟨resolved, lookups, emitted, write, writing, hresolved, hholds, hfinish, -, hevents⟩ :=
    resolved_of_recordRun hok
  rw [← hrun] at hfinish hevents
  rw [RecordedRun.loaded_eq hevents hholds hfinish] at hnodup hregular
  rw [hevents] at htranscript
  obtain ⟨middle, hmiddle, hwriting, hview⟩ := Memory.view_of_transcript htranscript rfl hholds
  have hearlier : earlierInterfaces Memory.answer middle options =
      earlierInterfaces Memory.answer memory options :=
    congrArg InterfaceSet.ofAnswer (hmiddle.view_eq (.read options.outputPath))
  have hdelimited := hresolved.isDelimited isDelimited_of_mem_earlierInterfaces hregular
  -- A run that has emitted nothing does not write: what it has read is still there.
  have hsame : resolved.changed = 0 →
      resolved.interfaces = earlierInterfaces Memory.answer middle options := by
    intro hchanged
    rw [hearlier]
    exact hresolved.interfaces_of_unchanged hchanged
  obtain ⟨hlater, hagrees⟩ :=
    earlierInterfaces_of_finish hfinish hreal hout hwriting hdelimited hsame
  have hbelow := hmiddle.agreesBelow.trans hagrees
  have happ : ∀ lookup ∈ lookups, lookup.app = app := by
    apply hresolved.app_eq
    rw [Roots.pairs_of_toList hroots]
    simp
  have hcurrent := hresolved.isCurrent_of_read fun s hs t ht hname =>
    congrArg DoctypeSchema.modified (List.inj_on_of_nodup_map hnodup hs ht hname)
  have hsettled : ∀ lookup ∈ lookups, lookup.IsSettled run.storage bound' options.appsPath
      (earlierInterfaces Memory.answer run.storage options) := by
    intro lookup hlookup
    constructor
    case holds => exact (hholds lookup hlookup).mono hle
    case view =>
      apply (hholds lookup hlookup).view_of_agreesBelow (hview lookup hlookup)
      rw [happ lookup hlookup]
      exact hbelow
    case current =>
      intro schema hschema
      rw [hlater]
      exact hcurrent schema (List.mem_filterMap.2 ⟨lookup, hlookup, hschema⟩)
  have hrequests : ∀ request ∈ roots.pairs, ∃ lookup : Lookup, lookup.app = request.1 ∧
      lookup.doctype = request.2 ∧ lookup.IsSettled run.storage bound' options.appsPath
        (earlierInterfaces Memory.answer run.storage options) := by
    intro request hrequest
    obtain ⟨lookup, hlookup, hdoctype⟩ := hresolved.exists_lookup rfl hrequest
    have hrequestApp : request.1 = app := by
      rw [Roots.pairs_of_toList hroots] at hrequest
      obtain ⟨doctype, -, rfl⟩ := List.mem_map.1 hrequest
      rfl
    exact ⟨lookup, (happ lookup hlookup).trans hrequestApp.symm, hdoctype,
      hsettled lookup hlookup⟩
  obtain ⟨second, hsecond, hchanged, hwrite, hobserves, halike⟩ := recordRun_of_settled hrequests
  refine ⟨second, hsecond, hchanged, hwrite, hobserves, halike.1, ?_⟩
  rw [Memory.contents?, Memory.contents?, halike.1]

theorem earlier_rerun_changes_nothing :
    ∃ second, (recordRun Memory.answer (recordRun Memory.answer earlierStorage 4 billOptions
        billRoots).storage 4 billOptions billRoots).result = .ok second ∧ second.changed = 0 ∧
      second.write = none := by
  obtain ⟨hsome, hloaded⟩ := earlierRun
  obtain ⟨report, hok⟩ := exists_report hsome
  have hroots : billRoots.toList = [("s", ["b"])] := by decide
  have hout : ¬ billOptions.outputPath.LiesBelow (billOptions.appsPath.join (.ofText "s")) := by
    intro h
    exact absurd h.isPrefix (by decide)
  have hnodup : ((recordRun Memory.answer earlierStorage 4 billOptions billRoots).loaded.map
      DoctypeSchema.interfaceName).Nodup := by
    rw [hloaded]
    decide
  have hregular : ∀ schema ∈ (recordRun Memory.answer earlierStorage 4 billOptions
      billRoots).loaded, schema.IsRegular := by
    rw [hloaded]
    decide
  obtain ⟨second, hsecond, hchanged, hwrite, -⟩ := rerun_changes_nothing rfl rfl (Nat.le_refl 4)
    hroots rfl hok hout hnodup hregular
  exact ⟨second, hsecond, hchanged, hwrite⟩

end Again

end DoctypeInterfaces
