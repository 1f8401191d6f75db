import DoctypeInterfaces.Proofs.Change.Shape
import Mathlib.Data.List.Nodup

namespace DoctypeInterfaces

namespace Path

variable {p : Path}

def IsSchemaFile (p root : Path) : Prop :=
  ∃ app doctype, p.IsSchemaFileOf root app doctype

/-- Whether a path has the shape of that of a schema file below a directory, by names that need not
be text. -/
def HasSchemaShape (p root : Path) : Prop :=
  ∃ (app doctype : Bytes) (between : List Bytes), p.components = root.components ++
    .name app :: (between.map Component.name ++
      [.ofText "doctype", .name doctype, .name (doctype ++ Text.encodeUtf8 ".json")])

/-- The number of paths in front of the first one that has the components of `p`. -/
def rankIn (p : Path) (paths : List Path) : Nat :=
  paths.findIdx fun q => q.same p

theorem rankIn_cons_of_same {q : Path} {paths : List Path} (h : q.same p = true) :
    p.rankIn (q :: paths) = 0 := by
  rw [rankIn, List.findIdx_cons, h, cond_true]

theorem rankIn_cons_of_not_same {q : Path} {paths : List Path} (h : q.same p = false) :
    p.rankIn (q :: paths) = p.rankIn paths + 1 := by
  rw [rankIn, List.findIdx_cons, h, cond_false, rankIn]

end Path

/-- Whether no change among others is one of the same path. -/
def SchemaChange.isNewTo (change : SchemaChange) (changes : List SchemaChange) : Bool :=
  !changes.any fun old => old.path.same change.path

/-- The changes of the schema files among paths. -/
structure IsBatch (isPresent : Path → Bool) (root : Path) (paths : List Path)
    (changes : List SchemaChange) : Prop where
  once : ∀ p ∈ paths, p.IsSchemaFile root →
    ∃ change, (changes.filter fun other => other.path.same p) = [change]
  first : ∀ change ∈ changes, (paths.find? fun p => p.same change.path) = some change.path
  /-- A change is what its path says of the file. -/
  described : ∀ change ∈ changes, change.path.IsSchemaFileOf root change.app change.doctype ∧
    change.removed = !isPresent change.path
  ordered : changes.Pairwise fun change later =>
    change.path.rankIn paths < later.path.rankIn paths

section Adding

variable {change : SchemaChange} {changes old : List SchemaChange}

theorem isNewTo_iff : change.isNewTo changes = true ↔
    ∀ other ∈ changes, other.path.components ≠ change.path.components := by
  simp [SchemaChange.isNewTo, Path.same]

theorem isNewTo_append {later : List SchemaChange} :
    change.isNewTo (changes ++ later) = (change.isNewTo changes && change.isNewTo later) := by
  simp [SchemaChange.isNewTo]

theorem addChange_eq :
    addChange changes change = changes ++ [change].filter fun new => new.isNewTo changes := by
  rw [addChange, List.filter_singleton, SchemaChange.isNewTo]
  cases changes.any fun other => other.path.same change.path <;> simp

theorem isNewTo_filter (h : change.isNewTo old = true) :
    change.isNewTo (changes.filter fun other => other.isNewTo old) = change.isNewTo changes := by
  rw [Bool.eq_iff_iff, isNewTo_iff, isNewTo_iff]
  constructor
  · intro hnew other hother heq
    refine hnew other (List.mem_filter.2 ⟨hother, ?_⟩) heq
    rw [isNewTo_iff] at h ⊢
    exact fun first hfirst => heq ▸ h first hfirst
  · exact fun hnew other hother => hnew other (List.mem_filter.1 hother).1

theorem foldl_addChange (old new : List SchemaChange) :
    new.foldl addChange old =
      old ++ (new.foldl addChange []).filter fun change => change.isNewTo old := by
  -- The last change is added to what the other ones have become, so the induction is on the end.
  induction new using List.reverseRecOn with
  | nil => simp
  | append_singleton new last ih =>
    rw [List.foldl_concat, List.foldl_concat, ih, addChange_eq, addChange_eq, List.filter_append,
      List.append_assoc, List.filter_filter]
    congr 2
    refine List.filter_congr fun change _ => ?_
    rw [isNewTo_append]
    cases hold : change.isNewTo old with
    | false => rw [Bool.false_and, Bool.false_and]
    | true => rw [isNewTo_filter hold]

end Adding

section Batches

variable {isPresent : Path → Bool} {root p : Path} {paths more : List Path}
  {change : SchemaChange} {changes : List SchemaChange}

theorem isSchemaFile_iff :
    p.IsSchemaFile root ↔ ∃ change, SchemaChange.ofPath? isPresent root p = some change := by
  constructor
  · rintro ⟨app, doctype, hshape⟩
    exact ⟨⟨app, doctype, p, !isPresent p⟩, ofPath?_eq_some_iff.2 ⟨rfl, rfl, hshape⟩⟩
  · rintro ⟨change, hchange⟩
    exact ⟨_, _, (ofPath?_eq_some_iff.1 hchange).2.2⟩

theorem map_encodeUtf8_of_map_ofText {names : List Bytes} {texts : List String}
    (h : texts.map Path.Component.ofText = names.map Path.Component.name) :
    texts.map Text.encodeUtf8 = names := by
  have hcomponents : (texts.map Text.encodeUtf8).map Path.Component.name =
      names.map Path.Component.name := by
    rw [← h, List.map_map]
    rfl
  exact List.map_injective_iff.2 (fun _ _ hname => Path.Component.name.inj hname) hcomponents

theorem Path.isSchemaFile_iff_namedBelow :
    p.IsSchemaFile root ↔ p.HasSchemaShape root ∧ p.NamedBelow root := by
  constructor
  · rintro ⟨app, doctype, between, hcomponents⟩
    refine ⟨⟨Text.encodeUtf8 app, Text.encodeUtf8 doctype, between.map Text.encodeUtf8, ?_⟩,
      ⟨app :: (between ++ ["doctype", doctype, doctype ++ ".json"]), ?_⟩⟩
    · rw [hcomponents, List.map_map, ← Text.encodeUtf8_append]
      rfl
    · rw [hcomponents, List.map_cons, List.map_append]
      rfl
  · rintro ⟨⟨app, doctype, between, hcomponents⟩, ⟨texts, htexts⟩⟩
    rw [htexts, List.append_cancel_left_eq] at hcomponents
    have hnames : texts.map Text.encodeUtf8 = app :: (between ++
        [Text.encodeUtf8 "doctype", doctype, doctype ++ Text.encodeUtf8 ".json"]) := by
      apply map_encodeUtf8_of_map_ofText
      rw [hcomponents, List.map_cons, List.map_append]
      rfl
    obtain ⟨first, rest, rfl, -, hrest⟩ := List.map_eq_cons_iff.1 hnames
    obtain ⟨inner, last, rfl, -, hlast⟩ := List.map_eq_append_iff.1 hrest
    obtain ⟨marker, others, rfl, hmarker, hothers⟩ := List.map_eq_cons_iff.1 hlast
    obtain ⟨name, files, rfl, rfl, hfiles⟩ := List.map_eq_cons_iff.1 hothers
    obtain ⟨file, none, rfl, hfile, hnone⟩ := List.map_eq_cons_iff.1 hfiles
    obtain rfl := List.map_eq_nil_iff.1 hnone
    rw [← Text.encodeUtf8_append] at hfile
    obtain rfl := Text.encodeUtf8_inj.1 hmarker
    obtain rfl := Text.encodeUtf8_inj.1 hfile
    refine ⟨first, name, inner, ?_⟩
    rw [htexts, List.map_cons, List.map_append]
    rfl

theorem Path.IsSchemaFile.of_same {q : Path} (h : p.IsSchemaFile root) (hsame : q.same p = true) :
    q.IsSchemaFile root := by
  obtain ⟨app, doctype, between, hcomponents⟩ := h
  exact ⟨app, doctype, between, (Path.same_iff.1 hsame).trans hcomponents⟩

theorem collectChanges_append : collectChanges isPresent root (paths ++ more) =
    collectChanges isPresent root paths ++ (collectChanges isPresent root more).filter
      fun change => change.isNewTo (collectChanges isPresent root paths) := by
  rw [collectChanges, List.filterMap_append, List.foldl_append, foldl_addChange]
  rfl

theorem collectChanges_cons_of_none (h : SchemaChange.ofPath? isPresent root p = none) :
    collectChanges isPresent root (p :: paths) = collectChanges isPresent root paths := by
  rw [collectChanges, List.filterMap_cons_none h]
  rfl

theorem collectChanges_cons_of_some (h : SchemaChange.ofPath? isPresent root p = some change) :
    collectChanges isPresent root (p :: paths) = change ::
      (collectChanges isPresent root paths).filter fun later => later.isNewTo [change] := by
  rw [collectChanges, List.filterMap_cons_some h, List.foldl_cons, foldl_addChange]
  rfl

/-- A path that is not that of a schema file differs from every path that is. -/
theorem same_eq_false_of_none {q : Path} (hp : SchemaChange.ofPath? isPresent root p = none)
    (hq : SchemaChange.ofPath? isPresent root q = some change) : p.same q = false := by
  rw [Bool.eq_false_iff]
  intro hsame
  have hschema : p.IsSchemaFile root := (isSchemaFile_iff.2 ⟨change, hq⟩).of_same hsame
  obtain ⟨found, hfound⟩ := isSchemaFile_iff.1 hschema
  rw [hp] at hfound
  cases hfound

/-- The changes in a batch are those of the first path of every schema file. -/
theorem mem_collectChanges_iff : change ∈ collectChanges isPresent root paths ↔
    (paths.find? fun p => p.same change.path) = some change.path ∧
      SchemaChange.ofPath? isPresent root change.path = some change := by
  induction paths with
  | nil => simp [collectChanges]
  | cons p paths ih =>
    cases hp : SchemaChange.ofPath? isPresent root p with
    | none =>
      rw [collectChanges_cons_of_none hp, ih]
      refine and_congr_left fun hchange => ?_
      rw [List.find?_cons, same_eq_false_of_none hp hchange]
    | some found =>
      obtain ⟨rfl, -, -⟩ := ofPath?_eq_some_iff.1 hp
      rw [collectChanges_cons_of_some hp, List.mem_cons, List.mem_filter, ih, List.find?_cons,
        SchemaChange.isNewTo, List.any_cons, List.any_nil, Bool.or_false]
      cases hsame : found.path.same change.path with
      | true =>
        constructor
        · rintro (rfl | ⟨-, hnew⟩)
          · exact ⟨rfl, hp⟩
          · cases hnew
        · rintro ⟨hpath, hchange⟩
          rw [← Option.some.inj hpath, hp] at hchange
          exact .inl (Option.some.inj hchange).symm
      | false =>
        constructor
        · rintro (rfl | ⟨hmem, -⟩)
          · rw [Path.same_refl] at hsame
            cases hsame
          · exact hmem
        · exact fun hmem => .inr ⟨hmem, rfl⟩

/-- The order of paths stays when another path is put in front of them. -/
theorem pairwise_rankIn_cons (hne : ∀ change ∈ changes, p.same change.path = false)
    (h : changes.Pairwise fun change later => change.path.rankIn paths < later.path.rankIn paths) :
    changes.Pairwise fun change later =>
      change.path.rankIn (p :: paths) < later.path.rankIn (p :: paths) := by
  refine h.imp_of_mem fun {change later} hchange hlater hlt => ?_
  rw [Path.rankIn_cons_of_not_same (hne change hchange),
    Path.rankIn_cons_of_not_same (hne later hlater)]
  exact Nat.succ_lt_succ hlt

theorem collectChanges_ordered : (collectChanges isPresent root paths).Pairwise fun change later =>
    change.path.rankIn paths < later.path.rankIn paths := by
  induction paths with
  | nil => exact .nil
  | cons p paths ih =>
    cases hp : SchemaChange.ofPath? isPresent root p with
    | none =>
      rw [collectChanges_cons_of_none hp]
      refine pairwise_rankIn_cons (fun change hchange => ?_) ih
      exact same_eq_false_of_none hp (mem_collectChanges_iff.1 hchange).2
    | some found =>
      obtain ⟨rfl, -, -⟩ := ofPath?_eq_some_iff.1 hp
      have hne : ∀ later ∈ (collectChanges isPresent root paths).filter
          fun later => later.isNewTo [found], found.path.same later.path = false := by
        intro later hlater
        simpa [SchemaChange.isNewTo] using (List.mem_filter.1 hlater).2
      rw [collectChanges_cons_of_some hp, List.pairwise_cons]
      refine ⟨fun later hlater => ?_, pairwise_rankIn_cons hne (ih.filter _)⟩
      rw [Path.rankIn_cons_of_same (Path.same_refl _),
        Path.rankIn_cons_of_not_same (hne later hlater)]
      exact Nat.succ_pos _

theorem nodup_of_ordered (h : changes.Pairwise fun change later =>
    change.path.rankIn paths < later.path.rankIn paths) : changes.Nodup := by
  refine h.imp fun {change later} hlt heq => ?_
  rw [heq] at hlt
  exact Nat.lt_irrefl _ hlt

/-- The first path with the components of another one is the same for all paths with these
components. -/
theorem find?_same_congr {q : Path} (h : p.components = q.components) :
    (paths.find? fun r => r.same p) = paths.find? fun r => r.same q := by
  simp only [Path.same, h]

theorem exists_filter_collectChanges (hmem : p ∈ paths) (hp : p.IsSchemaFile root) :
    ∃ change, ((collectChanges isPresent root paths).filter fun other => other.path.same p) =
      [change] := by
  obtain ⟨q, hq⟩ := Option.isSome_iff_exists.1
    (List.find?_isSome (p := fun q : Path => q.same p) |>.2 ⟨p, hmem, Path.same_refl p⟩)
  have hsame : q.same p = true := by simpa using List.find?_some hq
  obtain ⟨change, hchange⟩ := isSchemaFile_iff.1 (hp.of_same hsame)
  obtain ⟨rfl, -, -⟩ := ofPath?_eq_some_iff.1 hchange
  -- No change is there twice, so it is enough that this one alone is of the path.
  refine ⟨change, List.Perm.eq_singleton ?_⟩
  rw [List.perm_ext_iff_of_nodup ((nodup_of_ordered collectChanges_ordered).filter _)
    (List.nodup_singleton _)]
  intro other
  rw [List.mem_filter, List.mem_singleton, mem_collectChanges_iff]
  constructor
  · rintro ⟨⟨hfirst, hother⟩, hothersame⟩
    rw [find?_same_congr (Path.same_iff.1 hothersame), hq] at hfirst
    rw [← Option.some.inj hfirst, hchange] at hother
    exact (Option.some.inj hother).symm
  · rintro rfl
    rw [find?_same_congr (Path.same_iff.1 hsame)]
    exact ⟨⟨hq, hchange⟩, hsame⟩

theorem isBatch_collectChanges : IsBatch isPresent root paths (collectChanges isPresent root paths)
    where
  once _ hmem hp := exists_filter_collectChanges hmem hp
  first _ hchange := (mem_collectChanges_iff.1 hchange).1
  described _ hchange :=
    have hdescribed := ofPath?_eq_some_iff.1 (mem_collectChanges_iff.1 hchange).2
    ⟨hdescribed.2.2, hdescribed.2.1⟩
  ordered := collectChanges_ordered

theorem IsBatch.ofPath? (h : IsBatch isPresent root paths changes) (hchange : change ∈ changes) :
    SchemaChange.ofPath? isPresent root change.path = some change :=
  ofPath?_eq_some_iff.2 ⟨rfl, (h.described change hchange).2, (h.described change hchange).1⟩

theorem IsBatch.mem_iff (h : IsBatch isPresent root paths changes) :
    change ∈ changes ↔ (paths.find? fun p => p.same change.path) = some change.path ∧
      SchemaChange.ofPath? isPresent root change.path = some change := by
  constructor
  · exact fun hchange => ⟨h.first change hchange, h.ofPath? hchange⟩
  · rintro ⟨hfirst, hchange⟩
    obtain ⟨found, hfound⟩ := h.once change.path (List.mem_of_find?_eq_some hfirst)
      (isSchemaFile_iff.2 ⟨change, hchange⟩)
    obtain ⟨hmem, hsame⟩ := List.mem_filter.1 (hfound ▸ List.mem_singleton_self found)
    have hpath := h.first found hmem
    rw [find?_same_congr (Path.same_iff.1 hsame), hfirst] at hpath
    have heq := h.ofPath? hmem
    rw [← Option.some.inj hpath, hchange] at heq
    rw [Option.some.inj heq]
    exact hmem

theorem IsBatch.unique {others : List SchemaChange} (h : IsBatch isPresent root paths changes)
    (h' : IsBatch isPresent root paths others) : changes = others := by
  have hperm : changes.Perm others :=
    (List.perm_ext_iff_of_nodup (nodup_of_ordered h.ordered) (nodup_of_ordered h'.ordered)).2
      fun _ => h.mem_iff.trans h'.mem_iff.symm
  exact hperm.eq_of_pairwise (fun _ _ _ _ hlt hgt => absurd hlt (Nat.lt_asymm hgt)) h.ordered
    h'.ordered

end Batches

/-- The changes that are collected from paths are the batch of these paths, and with more paths come
the changes of those files that had none. -/
theorem collectChanges_names_each_once (isPresent : Path → Bool) (root : Path)
    (paths more : List Path) :
    (∀ changes, IsBatch isPresent root paths changes ↔
      changes = collectChanges isPresent root paths) ∧
    collectChanges isPresent root (paths ++ more) =
      collectChanges isPresent root paths ++ (collectChanges isPresent root more).filter
        fun change => change.isNewTo (collectChanges isPresent root paths) := by
  refine ⟨fun changes => ⟨fun h => h.unique isBatch_collectChanges, ?_⟩, collectChanges_append⟩
  rintro rfl
  exact isBatch_collectChanges

/-- A path of the shape of that of a schema file has no change if one of its names is no text. -/
theorem unnamed_file_has_no_change :
    let unnamed := ((Path.ofText "/apps/erp").join ⟨[0xFF]⟩).join (.ofText "doctype/item/item.json")
    unnamed.HasSchemaShape (.ofText "/apps") ∧
      collectChanges (fun _ => true) (.ofText "/apps") [unnamed] = [] := by
  refine ⟨⟨Text.encodeUtf8 "erp", Text.encodeUtf8 "item", [[0xFF]], ?_⟩, ?_⟩
  · decide +kernel
  · decide +kernel

example : collectChanges (fun _ => true) (.ofText "/apps/")
    (["/apps//erp/m/doctype/item/item.json", "/apps/erp/../doctype/item/item.json",
      "/apps/crm/doctype/lead/lead.json", "/apps/erp/./m/doctype/item/item.json"].map .ofText) =
    [⟨"erp", "item", .ofText "/apps//erp/m/doctype/item/item.json", false⟩,
      ⟨"crm", "lead", .ofText "/apps/crm/doctype/lead/lead.json", false⟩] := by
  decide +kernel

end DoctypeInterfaces
