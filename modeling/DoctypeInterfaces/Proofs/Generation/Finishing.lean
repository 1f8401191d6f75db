import DoctypeInterfaces.Proofs.Generation.DryRun
import DoctypeInterfaces.Proofs.Generation.Widening
import DoctypeInterfaces.Proofs.Locator.Bound
import DoctypeInterfaces.Proofs.Storage.Faults
import DoctypeInterfaces.Proofs.Schema.Size
import Mathlib.Algebra.GroupWithZero.Nat

namespace DoctypeInterfaces

open Storage

theorem DoctypeSchema.length_childDoctypes_le {bytes : Bytes} {schema : DoctypeSchema}
    (h : schemaOfBytes? bytes = some schema) : schema.childDoctypes.length ≤ bytes.length := by
  have hfields : schema.childDoctypes.length ≤ schema.fields.length := by
    rw [childDoctypes, List.length_map]
    exact List.length_filterMap_le _ _
  rw [schemaOfBytes?, textOfBytes] at h
  cases htext : Text.decodeUtf8 bytes with
  | error e =>
    rw [htext] at h
    cases h
  | ok s =>
    rw [htext] at h
    have hread : (ofJson s).toOption = some schema := h
    cases hjson : ofJson s with
    | error e =>
      rw [hjson] at hread
      cases hread
    | ok read =>
      rw [hjson] at hread
      obtain rfl := Option.some.inj hread
      exact hfields.trans ((length_fields_le hjson).trans (Text.length_le_of_decodeUtf8 htext))

namespace Storage.Memory

/-- The schemas in the files of a storage. -/
def schemas (memory : Memory) : List DoctypeSchema :=
  memory.tree.files.filterMap fun file => schemaOfBytes? file.2

/-- The doctypes that the table fields in the files of a storage lead to. -/
def linkedDoctypes (memory : Memory) : Finset String :=
  (memory.schemas.flatMap DoctypeSchema.childDoctypes).toFinset

theorem extent_eq (memory : Memory) :
    memory.extent = memory.tree.dirs.length + 1 +
      (memory.tree.files.map fun file => file.2.length).sum := by
  have hfold : ∀ (files : PathMap Bytes) (n : Nat),
      files.foldl (fun n file => n + file.2.length) n =
        n + (files.map fun file => file.2.length).sum := by
    intro files
    induction files with
    | nil => exact fun n => rfl
    | cons file files ih =>
      intro n
      rw [List.foldl_cons, ih, List.map_cons, List.sum_cons, Nat.add_assoc]
  exact hfold _ _

theorem dirs_length_le_extent (memory : Memory) : memory.tree.dirs.length ≤ memory.extent := by
  rw [extent_eq]
  omega

theorem card_linkedDoctypes_lt_extent (memory : Memory) :
    memory.linkedDoctypes.card < memory.extent := by
  have hfiles : ∀ files : PathMap Bytes,
      ((files.filterMap fun file => schemaOfBytes? file.2).flatMap
        DoctypeSchema.childDoctypes).length ≤ (files.map fun file => file.2.length).sum := by
    intro files
    induction files with
    | nil => exact Nat.le_refl 0
    | cons file files ih =>
      rw [List.map_cons, List.sum_cons, List.filterMap_cons]
      cases hschema : schemaOfBytes? file.2 with
      | none => exact ih.trans (Nat.le_add_left _ _)
      | some schema =>
        have hfirst := DoctypeSchema.length_childDoctypes_le hschema
        simp only [List.flatMap_cons, List.length_append]
        omega
  have hcard : memory.linkedDoctypes.card ≤ _ := List.toFinset_card_le _
  have hlength := hfiles memory.tree.files
  rw [extent_eq]
  rw [schemas] at hcard
  omega

theorem childDoctypes_subset_linkedDoctypes {memory : Memory} {path : Path} {bytes : Bytes}
    {schema : DoctypeSchema} (h : memory.view (.read path) = .ok bytes)
    (hschema : schemaOfBytes? bytes = some schema) :
    ∀ child ∈ schema.childDoctypes, child ∈ memory.linkedDoctypes := by
  intro child hchild
  obtain ⟨file, hfile, rfl⟩ := List.mem_map.1 (mem_files_of_read h)
  rw [linkedDoctypes, List.mem_toFinset, List.mem_flatMap]
  exact ⟨schema, List.mem_filterMap.2 ⟨file, hfile, hschema⟩, hchild⟩

end Storage.Memory

namespace Progress

/-- Whether only given doctypes have been processed between two points of a run. -/
structure GrowsWithin (names : Finset String) (before after : Progress) : Prop where
  old : ∀ doctype ∈ before.processed, doctype ∈ after.processed
  new : ∀ doctype ∈ after.processed, doctype ∈ before.processed ∨ doctype ∈ names
  nodup : before.processed.Nodup → after.processed.Nodup

variable {names more : Finset String} {before middle after : Progress}

theorem growsWithin_of_processed_eq (h : after.processed = before.processed) :
    before.GrowsWithin names after := by
  constructor
  case old => exact fun doctype hdoctype => h ▸ hdoctype
  case new => exact fun doctype hdoctype => .inl (h ▸ hdoctype)
  case nodup => exact fun hnodup => h ▸ hnodup

theorem GrowsWithin.trans (h : before.GrowsWithin names middle)
    (h' : middle.GrowsWithin names after) : before.GrowsWithin names after := by
  constructor
  case old => exact fun doctype hdoctype => h'.old doctype (h.old doctype hdoctype)
  case new => exact fun doctype hdoctype => (h'.new doctype hdoctype).elim (h.new doctype) .inr
  case nodup => exact fun hnodup => h'.nodup (h.nodup hnodup)

theorem GrowsWithin.mono (h : before.GrowsWithin names after) (hsubset : names ⊆ more) :
    before.GrowsWithin more after :=
  ⟨h.old, fun doctype hdoctype => (h.new doctype hdoctype).imp_right fun hname => hsubset hname,
    h.nodup⟩

/-- The doctypes among given ones that have not been processed. -/
def unprocessed (progress : Progress) (names : Finset String) : Finset String :=
  names.filter fun doctype => doctype ∉ progress.processed

theorem GrowsWithin.card_unprocessed_le (h : before.GrowsWithin names after)
    (more : Finset String) : (after.unprocessed more).card ≤ (before.unprocessed more).card := by
  apply Finset.card_le_card
  intro doctype hdoctype
  obtain ⟨hname, hnew⟩ := Finset.mem_filter.1 hdoctype
  exact Finset.mem_filter.2 ⟨hname, fun hold => hnew (h.old doctype hold)⟩

/-- When a doctype is marked as processed, there is one less that has not been. -/
theorem card_unprocessed_lt {doctype : String} (hnew : doctype ∉ before.processed)
    (hafter : after.processed = doctype :: before.processed) :
    (after.unprocessed names).card < (before.unprocessed (insert doctype names)).card := by
  apply Finset.card_lt_card
  rw [Finset.ssubset_iff_of_subset]
  · refine ⟨doctype, Finset.mem_filter.2 ⟨Finset.mem_insert_self _ _, hnew⟩, ?_⟩
    intro hmem
    have hnotMem := (Finset.mem_filter.1 hmem).2
    rw [hafter] at hnotMem
    exact hnotMem List.mem_cons_self
  · intro other hother
    obtain ⟨hname, hnotMem⟩ := Finset.mem_filter.1 hother
    rw [hafter, List.mem_cons, not_or] at hnotMem
    exact Finset.mem_filter.2 ⟨Finset.mem_insert_of_mem hname, hnotMem.2⟩

end Progress

theorem finishes_loadOutput {path : Path} {events : List Event}
    {result : Except Failure InterfaceSet} (h : Execution (loadOutput path) events result) :
    result ≠ .error .unfinished := by
  rw [loadOutput, Storage.read, Program.ask_bind] at h
  obtain ⟨answer, rest, -, hrest⟩ := Execution.call_iff.1 h
  intro hunfinished
  cases answer with
  | ok bytes => cases hunfinished.symm.trans (Execution.done_iff.1 hrest).2
  | error e =>
    dsimp only at hrest
    split at hrest
    · cases hunfinished.symm.trans (Execution.done_iff.1 hrest).2
    · cases hunfinished.symm.trans (Execution.done_iff.1 hrest).2

theorem finishes_loadSchema {path : Path} {events : List Event}
    {result : Except Failure DoctypeSchema} (h : Execution (loadSchema path) events result) :
    result ≠ .error .unfinished := by
  rw [loadSchema] at h
  obtain ⟨text, first, rest, -, hrest, -⟩ := Execution.bind_iff.1 h
  intro hunfinished
  cases text with
  | error e => cases hunfinished.symm.trans (Execution.done_iff.1 hrest).2
  | ok s =>
    have hresult := hunfinished.symm.trans (Execution.done_iff.1 hrest).2
    cases hjson : DoctypeSchema.ofJson s with
    | error e =>
      rw [hjson] at hresult
      cases hresult
    | ok schema =>
      rw [hjson] at hresult
      cases hresult

namespace Resolution

variable {α β : Type} {memory : Memory} {names more : Finset String} {bound depth : Nat}
  {app doctype : String} {part : Resolution α} {before : Progress}

/-- Whether a part of a run on a storage, some of whose calls may fail, is not given up, and
processes given doctypes only. -/
def FinishesWithin (memory : Memory) (names : Finset String) (part : Resolution α)
    (before : Progress) : Prop :=
  ∀ events result after, Ends part before events result after →
    (∀ e ∈ events, memory.Answers e) →
    result ≠ .error .unfinished ∧ before.GrowsWithin names after

theorem FinishesWithin.mono (h : FinishesWithin memory names part before) (hsubset : names ⊆ more) :
    FinishesWithin memory more part before := by
  intro events result after hends hanswers
  obtain ⟨hfinished, hgrows⟩ := h events result after hends hanswers
  exact ⟨hfinished, hgrows.mono hsubset⟩

theorem FinishesWithin.bind {next : α → Resolution β} (h : FinishesWithin memory names part before)
    (hnext : ∀ a first middle, Ends part before first (.ok a) middle →
      (∀ e ∈ first, memory.Answers e) → before.GrowsWithin names middle →
      FinishesWithin memory names (next a) middle) :
    FinishesWithin memory names (part >>= next) before := by
  intro events result after hends hanswers
  rcases ends_bind.1 hends with ⟨a, first, middle, rest, hfirst, hrest, rfl⟩ | ⟨e, hfailed, rfl⟩
  · obtain ⟨hfirstAnswers, hrestAnswers⟩ := List.forall_mem_append.1 hanswers
    obtain ⟨-, hgrows⟩ := h first (.ok a) middle hfirst hfirstAnswers
    obtain ⟨hfinished, hlater⟩ :=
      hnext a first middle hfirst hfirstAnswers hgrows rest result after hrest hrestAnswers
    exact ⟨hfinished, hgrows.trans hlater⟩
  · obtain ⟨hfinished, hgrows⟩ := h events (.error e) after hfailed hanswers
    refine ⟨?_, hgrows⟩
    rintro hunfinished
    cases hunfinished
    exact hfinished rfl

theorem finishesWithin_pure (a : α) : FinishesWithin memory names (pure a) before := by
  intro events result after hends _
  obtain ⟨-, rfl, rfl⟩ := ends_pure.1 hends
  exact ⟨nofun, Progress.growsWithin_of_processed_eq rfl⟩

theorem finishesWithin_modify {f : Progress → Progress}
    (hf : (f before).processed = before.processed) :
    FinishesWithin memory names (modify f) before := by
  intro events result after hends _
  obtain ⟨-, rfl, rfl⟩ := ends_modify.1 hends
  exact ⟨nofun, Progress.growsWithin_of_processed_eq hf⟩

theorem finishesWithin_get : FinishesWithin memory names get before := by
  intro events result after hends _
  obtain ⟨-, rfl, rfl⟩ := ends_get.1 hends
  exact ⟨nofun, Progress.growsWithin_of_processed_eq rfl⟩

theorem finishesWithin_ofProgram {program : Program (Except Failure α)}
    (h : ∀ events result, Execution program events result → result ≠ .error .unfinished) :
    FinishesWithin memory names (ofProgram program) before := by
  intro events result after hends _
  obtain ⟨hexecution, rfl⟩ := ends_ofProgram.1 hends
  exact ⟨h events result hexecution, Progress.growsWithin_of_processed_eq rfl⟩

theorem finishesWithin_enter (hdoctype : doctype ∈ names) :
    FinishesWithin memory names (enter doctype) before := by
  intro events result after hends _
  obtain ⟨-, hentered⟩ := ends_enter.1 hends
  split at hentered
  · obtain ⟨rfl, rfl⟩ := hentered
    exact ⟨nofun, Progress.growsWithin_of_processed_eq rfl⟩
  · next hnew =>
    obtain ⟨rfl, rfl⟩ := hentered
    refine ⟨nofun, fun other hold => List.mem_cons_of_mem _ hold, fun other hother => ?_,
      fun hnodup => hnodup.cons hnew⟩
    rcases List.mem_cons.1 hother with rfl | hold
    · exact .inr hdoctype
    · exact .inl hold

theorem finishesWithin_missing : FinishesWithin memory names (missing doctype) before := by
  intro events result after hends _
  obtain ⟨-, rfl, rfl⟩ := ends_missing.1 hends
  exact ⟨nofun, Progress.growsWithin_of_processed_eq rfl⟩

theorem finishesWithin_skip : FinishesWithin memory names (skip doctype) before := by
  intro events result after hends _
  obtain ⟨-, rfl, rfl⟩ := ends_skip.1 hends
  exact ⟨nofun, Progress.growsWithin_of_processed_eq rfl⟩

/-- A loop finishes if each of its rounds does, from wherever the rounds before it have come. -/
theorem finishesWithin_forM {body : β → Resolution Unit} {list : List β}
    (h : ∀ b ∈ list, ∀ middle, before.GrowsWithin names middle →
      FinishesWithin memory names (body b) middle) :
    FinishesWithin memory names (list.forM body) before := by
  induction list generalizing before with
  | nil => exact finishesWithin_pure ()
  | cons b list ih =>
    obtain ⟨hfirst, hrest⟩ := List.forall_mem_cons.1 h
    apply (hfirst before (Progress.growsWithin_of_processed_eq rfl)).bind
    intro _ _ middle _ _ hmiddle
    apply ih
    intro c hc later hlater
    exact hrest c hc later (hmiddle.trans hlater)

section Resolve

variable (hdistinct : memory.tree.DistinctDirs) (hdirs : memory.tree.dirs.length ≤ bound)

include hdistinct hdirs in
theorem finishesWithin_locate :
    FinishesWithin memory names (locate bound app doctype) before := by
  intro events result after hends hanswers
  obtain ⟨locator, hlocate, rfl⟩ := ends_locate.1 hends
  refine ⟨?_, Progress.growsWithin_of_processed_eq rfl⟩
  cases hknown : before.locator.remembered? app doctype with
  | some path =>
    rw [Locator.locate, hknown] at hlocate
    have hresult := (Prod.mk.inj (Execution.done_iff.1 hlocate).2).1
    intro hunfinished
    cases hunfinished.symm.trans hresult
  | none =>
    obtain ⟨hwalk, -⟩ := (Locator.execution_locate_iff hknown).1 hlocate
    exact Locator.walk_finishes hwalk hdistinct hanswers hdirs

/-- Settling a doctype finishes if its children can be resolved one level deeper, of which there are
more than doctypes that have not been processed. -/
theorem finishesWithin_settle {schema : DoctypeSchema}
    (hchildren : ∀ child ∈ schema.childDoctypes, child ∈ names)
    (hdepth : (before.unprocessed names).card < depth)
    (h : ∀ inner, depth = inner + 1 → ∀ child ∈ names, ∀ progress : Progress,
      (progress.unprocessed names).card ≤ inner →
        FinishesWithin memory names (resolve bound app inner child) progress) :
    FinishesWithin memory names (settle bound app depth doctype schema) before := by
  unfold settle
  intro events result after hends hanswers
  rw [ends_get_bind] at hends
  revert events result after
  split
  · exact finishesWithin_skip
  · refine (finishesWithin_modify rfl).bind ?_
    intro _ _ middle _ _ hmiddle
    cases depth with
    | zero => omega
    | succ inner =>
      dsimp only
      rw [schema.map_related]
      refine (finishesWithin_forM ?_).bind fun _ _ _ _ _ _ => finishesWithin_modify rfl
      intro child hchild later hlater
      apply h inner rfl child (hchildren child hchild)
      have hfewer := (hmiddle.trans hlater).card_unprocessed_le names
      omega

include hdistinct hdirs

theorem finishesWithin_resolve_of_settle
    (hdepth : (before.unprocessed (insert doctype memory.linkedDoctypes)).card ≤ depth)
    (h : ∀ (schema : DoctypeSchema) (progress : Progress),
      (∀ child ∈ schema.childDoctypes, child ∈ memory.linkedDoctypes) →
      (progress.unprocessed memory.linkedDoctypes).card < depth →
        FinishesWithin memory memory.linkedDoctypes (settle bound app depth doctype schema)
          progress) :
    FinishesWithin memory (insert doctype memory.linkedDoctypes) (resolve bound app depth doctype)
      before := by
  rw [resolve_eq]
  apply (finishesWithin_enter (Finset.mem_insert_self _ _)).bind
  intro entered _ middle hentered _ _
  obtain ⟨-, hentered⟩ := ends_enter.1 hentered
  cases entered with
  | false => exact finishesWithin_pure ()
  | true =>
    have hfewer : (middle.unprocessed memory.linkedDoctypes).card < depth := by
      split at hentered
      · cases hentered.1
      · next hnew =>
        rw [hentered.2]
        exact (Progress.card_unprocessed_lt hnew rfl).trans_le hdepth
    apply (finishesWithin_locate hdistinct hdirs).bind
    intro path? _ later _ _ hlater
    cases path? with
    | none => exact finishesWithin_missing
    | some path =>
      apply (finishesWithin_ofProgram fun _ _ => finishes_loadSchema).bind
      intro schema events last hload hanswers hlast
      obtain ⟨hload, -⟩ := ends_ofProgram.1 hload
      obtain ⟨bytes, rfl, hschema⟩ := execution_loadSchema_ok_iff.1 hload
      have hread := (hanswers _ List.mem_cons_self).view_read
      have hlinked := Memory.childDoctypes_subset_linkedDoctypes hread hschema
      have hcard := (hlater.trans hlast).card_unprocessed_le memory.linkedDoctypes
      exact (h schema last hlinked (hcard.trans_lt hfewer)).mono (Finset.subset_insert _ _)

/-- A resolution finishes if it may go as deep as there are doctypes that it can come to and that
have not been processed. -/
theorem finishesWithin_resolve
    (hdepth : (before.unprocessed (insert doctype memory.linkedDoctypes)).card ≤ depth) :
    FinishesWithin memory (insert doctype memory.linkedDoctypes) (resolve bound app depth doctype)
      before := by
  induction depth generalizing doctype before with
  | zero =>
    apply finishesWithin_resolve_of_settle hdistinct hdirs hdepth
    intro schema progress hchildren hfewer
    apply finishesWithin_settle hchildren hfewer
    intro inner hinner
    cases hinner
  | succ depth ih =>
    apply finishesWithin_resolve_of_settle hdistinct hdirs hdepth
    intro schema progress hchildren hfewer
    apply finishesWithin_settle hchildren hfewer
    intro inner hinner child hchild later hlater
    obtain rfl := Nat.succ.inj hinner
    have hsame := Finset.insert_eq_of_mem hchild
    rw [← hsame] at hlater
    exact (ih hlater).mono hsame.subset

theorem finishesWithin_resolveRoots (hbound : memory.linkedDoctypes.card < bound) (roots : Roots) :
    FinishesWithin memory ((roots.pairs.map Prod.snd).toFinset ∪ memory.linkedDoctypes)
      (resolveRoots bound roots) before := by
  apply finishesWithin_forM
  intro root hroot middle _
  have hmem : root.2 ∈ (roots.pairs.map Prod.snd).toFinset :=
    List.mem_toFinset.2 (List.mem_map_of_mem hroot)
  have hsubset : insert root.2 memory.linkedDoctypes ⊆
      (roots.pairs.map Prod.snd).toFinset ∪ memory.linkedDoctypes :=
    Finset.insert_subset (Finset.mem_union_left _ hmem) Finset.subset_union_right
  refine (finishesWithin_resolve hdistinct hdirs ?_).mono hsubset
  have hcard : (middle.unprocessed (insert root.2 memory.linkedDoctypes)).card ≤ _ :=
    Finset.card_filter_le _ _
  have hinsert := Finset.card_insert_le root.2 memory.linkedDoctypes
  omega

theorem finishesWithin_prepare (hbound : memory.linkedDoctypes.card < bound) (outputPath : Path)
    (roots : Roots) :
    FinishesWithin memory ((roots.pairs.map Prod.snd).toFinset ∪ memory.linkedDoctypes)
      (prepare (resolveRoots bound roots) outputPath) before := by
  apply (finishesWithin_ofProgram fun _ _ => finishes_loadOutput).bind
  intro earlier _ middle _ _ _
  refine FinishesWithin.bind (finishesWithin_modify rfl) ?_
  intro _ _ later _ _ _
  apply (finishesWithin_resolveRoots hdistinct hdirs hbound roots).bind
  exact fun _ _ _ _ _ _ => finishesWithin_get

end Resolve

theorem finishes_finish {options : GenerationOptions} {events : List Event}
    {result : Except Failure (Option WriteResult)} {after : Progress}
    (h : Ends (finish options) before events result after) :
    result ≠ .error .unfinished ∧ after.processed = before.processed := by
  cases result with
  | ok write =>
    obtain ⟨messages, rfl⟩ := progress_of_finish h
    exact ⟨nofun, rfl⟩
  | error failure =>
    obtain ⟨-, -, rfl, hreplaced⟩ := ends_finish_error h
    refine ⟨?_, rfl⟩
    cases hreplaced <;> exact nofun

end Resolution

section Runs

variable {memory : Memory} {bound : Nat} {options : GenerationOptions} {roots : Roots}

/-- A run in memory, some of whose calls may fail, is not given up if its bound is large enough, and
processes only doctypes that are requested at first or that a file leads to, each of them once. -/
theorem finishes_of_isBehind {σ : Type} {reached : (c : Call) → StateM σ c.Answer}
    {behind : σ → Memory} {storage : σ} {run : RecordedRun σ} (hbehind : IsBehind behind reached)
    (hrun : run = recordRun reached storage bound options roots)
    (hdistinct : (behind storage).tree.DistinctDirs)
    (hdirs : (behind storage).tree.dirs.length ≤ bound)
    (hbound : (behind storage).linkedDoctypes.card < bound) :
    run.result ≠ .error .unfinished ∧ run.progress.processed.Nodup ∧
      ∀ doctype ∈ run.progress.processed,
        doctype ∈ (roots.pairs.map Prod.snd).toFinset ∪ (behind storage).linkedDoctypes := by
  obtain ⟨hends, htranscript⟩ := recordRun_eq_iff.1 hrun.symm
  rw [generation, Resolution.generationBy_eq_bind] at hends
  -- Only what comes before the output is written can be left unfinished, and that part only looks.
  have hprepared : ∀ first rest middle (result : Except Failure Progress),
      Resolution.Ends (Resolution.prepare (Resolution.resolveRoots bound roots) options.outputPath)
        (.start options.appsPath) first result middle →
      run.events = first ++ rest → result ≠ .error .unfinished ∧
        (Progress.start options.appsPath).GrowsWithin
          ((roots.pairs.map Prod.snd).toFinset ∪ (behind storage).linkedDoctypes) middle := by
    intro first rest middle result hprepare hevents
    rw [hevents] at htranscript
    obtain ⟨after, hfirst, -⟩ := Transcript.append_iff.1 htranscript
    have hlooks := Resolution.looks_prepare (Resolution.obeys_lookRule_resolveRoots bound roots)
      _ _ _ _ _ hprepare
    exact Resolution.finishesWithin_prepare hdistinct hdirs hbound _ _ _ _ _ hprepare
      (hbehind.answers_of_transcript hfirst hlooks)
  have hwithin : ∀ progress : Progress, (Progress.start options.appsPath).GrowsWithin
      ((roots.pairs.map Prod.snd).toFinset ∪ (behind storage).linkedDoctypes) progress →
      progress.processed.Nodup ∧ ∀ doctype ∈ progress.processed,
        doctype ∈ (roots.pairs.map Prod.snd).toFinset ∪ (behind storage).linkedDoctypes := by
    intro progress hgrows
    refine ⟨hgrows.nodup .nil, fun doctype hdoctype => ?_⟩
    exact (hgrows.new doctype hdoctype).resolve_left List.not_mem_nil
  rcases Resolution.ends_bind.1 hends with
    ⟨resolved, first, middle, rest, hprepare, hconclude, hevents⟩ | ⟨failure, hprepare, hresult⟩
  · obtain ⟨write, hfinish, hresult⟩ := Resolution.ends_conclude_iff.1 hconclude
    obtain ⟨-, hgrows⟩ := hprepared first rest middle _ hprepare hevents
    obtain ⟨hfinished, hprocessed⟩ := Resolution.finishes_finish hfinish
    rw [hprocessed]
    refine ⟨?_, hwithin middle hgrows⟩
    rw [hresult]
    intro hunfinished
    cases write with
    | ok write => cases hunfinished
    | error failure =>
      cases hunfinished
      exact hfinished rfl
  · obtain ⟨hfinished, hgrows⟩ := hprepared run.events [] _ _ hprepare (List.append_nil _).symm
    refine ⟨?_, hwithin _ hgrows⟩
    rw [hresult]
    intro hunfinished
    cases hunfinished
    exact hfinished rfl

theorem finishes_of_bound {run : RecordedRun Memory}
    (hrun : run = recordRun Memory.answer memory bound options roots)
    (hdistinct : memory.tree.DistinctDirs) (hdirs : memory.tree.dirs.length ≤ bound)
    (hbound : memory.linkedDoctypes.card < bound) :
    run.result ≠ .error .unfinished ∧ run.progress.processed.Nodup ∧
      ∀ doctype ∈ run.progress.processed,
        doctype ∈ (roots.pairs.map Prod.snd).toFinset ∪ memory.linkedDoctypes := by
  -- The goal must not be unified first: it would leave open which storage stands behind.
  have hfinishes := finishes_of_isBehind Memory.isBehind hrun hdistinct hdirs hbound
  exact hfinishes

/-- Every run in memory comes to an end, whatever its schemas refer to: from some bound on it is not
given up and does not depend on the bound. It processes at most as many doctypes as there are roots
and doctypes that a file leads to. -/
theorem terminates_of_extent_le {run : RecordedRun Memory}
    (hrun : run = recordRun Memory.answer memory bound options roots)
    (hdistinct : memory.tree.DistinctDirs) (hle : memory.extent ≤ bound) :
    run.result ≠ .error .unfinished ∧
      run = recordRun Memory.answer memory memory.extent options roots ∧
      run.progress.processed.Nodup ∧
      (∀ doctype ∈ run.progress.processed,
        doctype ∈ roots.pairs.map Prod.snd ∨ doctype ∈ memory.linkedDoctypes) ∧
      run.progress.processed.length ≤
        (roots.pairs.map Prod.snd).toFinset.card + memory.linkedDoctypes.card := by
  obtain ⟨hfinished, hnodup, hmem⟩ := finishes_of_bound
    (rfl : _ = recordRun Memory.answer memory memory.extent options roots) hdistinct
    memory.dirs_length_le_extent memory.card_linkedDoctypes_lt_extent
  obtain rfl := hrun.trans (recordRun_eq_of_le hle hfinished)
  refine ⟨hfinished, rfl, hnodup, fun doctype hdoctype => ?_, ?_⟩
  · exact (Finset.mem_union.1 (hmem doctype hdoctype)).imp_left List.mem_toFinset.1
  · rw [← List.toFinset_card_of_nodup hnodup]
    have hsubset := Finset.card_le_card fun doctype hdoctype =>
      hmem doctype (List.mem_toFinset.1 hdoctype)
    exact hsubset.trans (Finset.card_union_le _ _)

theorem bills_terminate :
    (recordRun Memory.answer billStorage 100 billOptions billRoots).result ≠ .error .unfinished ∧
      (recordRun Memory.answer billStorage 100 billOptions billRoots).progress.processed.length ≤
        (billRoots.pairs.map Prod.snd).toFinset.card + billStorage.linkedDoctypes.card := by
  have hdistinct : billStorage.tree.DistinctDirs := by
    rw [MemoryTree.DistinctDirs]
    decide
  have hextent : billStorage.extent ≤ 100 := by decide
  obtain ⟨hfinished, -, -, -, hlength⟩ := terminates_of_extent_le
    (rfl : _ = recordRun Memory.answer billStorage 100 billOptions billRoots) hdistinct hextent
  exact ⟨hfinished, hlength⟩

end Runs

end DoctypeInterfaces
