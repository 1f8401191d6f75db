import DoctypeInterfaces.Proofs.Change.Shape
import DoctypeInterfaces.Proofs.Locator.Discovery

namespace DoctypeInterfaces

open Storage

namespace Path

variable {root suffix p : Path}

/-- Whether what leads from a directory to a path ends with the components of `suffix`. -/
def EndsBelow (p root suffix : Path) : Prop :=
  ∃ rest, p.components = root.components ++ rest ∧ suffix.components <:+ rest

theorem EndsBelow.isSuffix (h : p.EndsBelow root suffix) : suffix.components <:+ p.components := by
  obtain ⟨rest, hp, hsuffix⟩ := h
  rw [hp]
  exact hsuffix.trans (List.suffix_append _ _)

theorem EndsBelow.liesBelow (h : p.EndsBelow root suffix) (hne : suffix.components ≠ []) :
    p.LiesBelow root := by
  obtain ⟨rest, hp, hsuffix⟩ := h
  cases rest with
  | nil => exact absurd (List.suffix_nil.1 hsuffix) hne
  | cons c rest => exact ⟨c, rest, hp⟩

end Path

section Shapes

variable {isPresent : Path → Bool} {appsPath p : Path} {app doctype : String}
  {change : SchemaChange}

/-- Whether a text is a single name. -/
def IsTextName (s : String) : Prop :=
  Path.IsName (Text.encodeUtf8 s)

instance (s : String) : Decidable (IsTextName s) :=
  inferInstanceAs (Decidable (Path.IsName _))

theorem components_join_ofText (happs : appsPath.isEmpty = false) (happ : IsTextName app) :
    (appsPath.join (.ofText app)).components = appsPath.components ++ [.ofText app] :=
  Path.components_join_name happs happ

theorem isTextName_jsonFile (h : IsTextName doctype) : IsTextName (doctype ++ ".json") := by
  rw [IsTextName, Text.encodeUtf8_append]
  exact Path.isName_append h.notMem (by decide) (by decide)

theorem schemaSuffix_components (h : IsTextName doctype) :
    (schemaSuffix doctype).components = schemaComponents doctype := by
  have hmarker : (Path.ofText "doctype").components = [.ofText "doctype"] := by decide
  have hdir := components_join_ofText (rfl : (Path.ofText "doctype").isEmpty = false) h
  have hnonempty : ((Path.ofText "doctype").join (.ofText doctype)).isEmpty = false := by
    rw [Bool.eq_false_iff, Ne, Path.isEmpty_iff, hdir]
    simp
  rw [schemaSuffix, components_join_ofText hnonempty (isTextName_jsonFile h), hdir, hmarker]
  rfl

/-- Whether the directory of an application ends with none of what the path of the schema file of a
doctype ends with. -/
def StandsApart (appsPath : Path) (app doctype : String) : Prop :=
  app ≠ "doctype" ∧ ¬ (app = doctype ∧ appsPath.components.getLast? = some (.ofText "doctype"))

/-- A match that lies too close to the directory of the application takes the marker from the path
of that directory. -/
theorem endsBelow_of_matchesBelow {tree : MemoryTree} (happs : appsPath.isEmpty = false)
    (happ : IsTextName app) (hdoctype : IsTextName doctype)
    (hapart : StandsApart appsPath app doctype)
    (h : Locator.MatchesBelow tree (schemaSuffix doctype) (appsPath.join (.ofText app)) p) :
    p.EndsBelow (appsPath.join (.ofText app)) (schemaSuffix doctype) := by
  obtain ⟨-, ⟨c, rest, hp⟩, hsuffix⟩ := h
  obtain ⟨hmarker, hname⟩ := hapart
  refine ⟨c :: rest, hp, ?_⟩
  rw [hp, components_join_ofText happs happ, schemaSuffix_components hdoctype] at hsuffix
  rw [schemaSuffix_components hdoctype]
  match rest with
  | [] =>
    obtain ⟨front, heq⟩ := hsuffix
    have hsplit : (front ++ [.ofText "doctype"]) ++
        [.ofText doctype, .ofText (doctype ++ ".json")] =
          appsPath.components ++ [.ofText app, c] := by
      simpa [schemaComponents] using heq
    obtain ⟨hlast, hsame⟩ := List.append_inj' hsplit rfl
    refine absurd ⟨?_, ?_⟩ hname
    · simpa using (List.cons.inj hsame).1.symm
    · rw [← hlast, List.getLast?_concat]
  | [d] =>
    obtain ⟨front, heq⟩ := hsuffix
    have hsplit : front ++ schemaComponents doctype =
        appsPath.components ++ [.ofText app, c, d] := by simpa using heq
    obtain ⟨-, hsame⟩ := List.append_inj' hsplit rfl
    refine absurd ?_ hmarker
    simpa using (List.cons.inj hsame).1.symm
  | d :: e :: rest =>
    refine List.suffix_of_suffix_length_le hsuffix (List.suffix_append _ _) ?_
    simp [schemaComponents]

theorem matchesBelow_of_ofPath? {tree : MemoryTree} (happs : appsPath.isEmpty = false)
    (happ : IsTextName change.app) (hdoctype : IsTextName change.doctype)
    (hp : p ∈ tree.files.map Prod.fst)
    (h : SchemaChange.ofPath? isPresent appsPath p = some change) :
    Locator.MatchesBelow tree (schemaSuffix change.doctype) (appsPath.join (.ofText change.app))
      p := by
  obtain ⟨-, -, between, hcomponents⟩ := ofPath?_eq_some_iff.1 h
  have hends : p.EndsBelow (appsPath.join (.ofText change.app)) (schemaSuffix change.doctype) := by
    rw [Path.EndsBelow, schemaSuffix_components hdoctype, components_join_ofText happs happ]
    refine ⟨between.map .ofText ++ schemaComponents change.doctype, ?_, List.suffix_append _ _⟩
    rw [hcomponents, List.append_assoc, List.singleton_append]
  have hne : (schemaSuffix change.doctype).components ≠ [] := by
    rw [schemaSuffix_components hdoctype]
    exact List.cons_ne_nil _ _
  exact ⟨hp, hends.liesBelow hne, hends.isSuffix⟩

/-- A path whose shape shows below the directory of an application is that of a schema file exactly
if only names lead to it. -/
theorem ofPath?_eq_some_iff_namedBelow (happs : appsPath.isEmpty = false)
    (happ : IsTextName app) (hdoctype : IsTextName doctype)
    (hends : p.EndsBelow (appsPath.join (.ofText app)) (schemaSuffix doctype)) :
    SchemaChange.ofPath? isPresent appsPath p = some ⟨app, doctype, p, !isPresent p⟩ ↔
      p.NamedBelow appsPath := by
  rw [ofPath?_eq_some_iff]
  constructor
  · rintro ⟨-, -, between, hcomponents⟩
    exact ⟨app :: (between ++ ["doctype", doctype, doctype ++ ".json"]), by
      simp [hcomponents, schemaComponents]⟩
  · rintro ⟨names, hnames⟩
    obtain ⟨rest, hrest, front, rfl⟩ := hends
    rw [schemaSuffix_components hdoctype, components_join_ofText happs happ,
      List.append_assoc, hnames, List.append_cancel_left_eq] at hrest
    -- What precedes the marker is among the names, so it consists of names as well.
    obtain ⟨first, more, rfl, hfirst, hmore⟩ := List.map_eq_append_iff.1 hrest
    obtain ⟨between, last, rfl, hbetween, hlast⟩ := List.map_eq_append_iff.1 hmore
    refine ⟨rfl, rfl, between, ?_⟩
    rw [hnames, List.map_append, List.map_append, hfirst, hlast]
    rfl

end Shapes

/-- What a locator finds in memory is the changed path of a schema file of the application and the
doctype exactly if only names lead to it, where the marker stands below the directory of the
application; and it finds something if the path of a file is that of such a schema file. -/
theorem locate_recognises (isPresent : Path → Bool) (appsPath : Path) (app doctype : String)
    {memory : Memory} {bound : Nat} (h : memory.Reachable) (hfailing : memory.failing = [])
    (happs : appsPath.isEmpty = false) (happ : IsTextName app) (hdoctype : IsTextName doctype)
    (hbound : memory.tree.dirs.length ≤ bound) :
    ∃ found,
      ((((Locator.new appsPath).locate bound app doctype).run Memory.answer).run memory).1.1 =
        .ok found ∧
      (∀ p, found = some p →
        StandsApart appsPath app doctype ∨
          p.EndsBelow (appsPath.join (.ofText app)) (schemaSuffix doctype) →
        (SchemaChange.ofPath? isPresent appsPath p = some ⟨app, doctype, p, !isPresent p⟩ ↔
          p.NamedBelow appsPath)) ∧
      ∀ q ∈ memory.tree.files.map Prod.fst, ∀ change,
        SchemaChange.ofPath? isPresent appsPath q = some change → change.app = app →
        change.doctype = doctype → found.isSome = true := by
  have hroot : (appsPath.join (.ofText app)).components ≠ [] := by
    rw [components_join_ofText happs happ]
    simp
  obtain ⟨found, hlocate, hfound⟩ :=
    Locator.locate_finds appsPath app doctype h hfailing hroot hbound
  refine ⟨found, hlocate, ?_, ?_⟩
  · rintro p rfl hbelow
    apply ofPath?_eq_some_iff_namedBelow happs happ hdoctype
    rcases hbelow with hapart | hends
    · exact endsBelow_of_matchesBelow happs happ hdoctype hapart hfound
    · exact hends
  · rintro q hq change hchange rfl rfl
    exact hfound.isSome (matchesBelow_of_ofPath? happs happ hdoctype hq hchange)

/-- A storage with schema files of one doctype for two applications. -/
def pairedStorage : Memory :=
  (Memory.empty.insert (.ofText "apps/r/doctype/i/i.json") []).insert
    (.ofText "apps/s/m/doctype/i/i.json") []

theorem pairedStorage_evaluated :
    IsTextName "s" ∧ IsTextName "i" ∧ pairedStorage.tree.dirs.length ≤ 8 ∧
      (Path.ofText "apps/s/m/doctype/i/i.json").components =
        (Path.ofText "apps/").components ++ ["s", "m", "doctype", "i", "i.json"].map .ofText ∧
      (((((Locator.new (.ofText "apps/")).locate 8 "s" "i").run Memory.answer).run
        pairedStorage).1.1).toOption = some (some (.ofText "apps/s/m/doctype/i/i.json")) := by
  decide +kernel

theorem paired_file_recognised :
    ((((Locator.new (.ofText "apps/")).locate 8 "s" "i").run Memory.answer).run
        pairedStorage).1.1 = .ok (some (.ofText "apps/s/m/doctype/i/i.json")) ∧
      SchemaChange.ofPath? (fun _ => true) (.ofText "apps/") (.ofText "apps/s/m/doctype/i/i.json") =
        some ⟨"s", "i", .ofText "apps/s/m/doctype/i/i.json", false⟩ := by
  have hreachable : pairedStorage.Reachable := .insert _ _ (.insert _ _ .empty)
  obtain ⟨happ, hdoctype, hbound, hnames, hfound⟩ := pairedStorage_evaluated
  obtain ⟨found, hlocate, hrecognised, -⟩ := locate_recognises (fun _ => true) (.ofText "apps/")
    "s" "i" hreachable rfl rfl happ hdoctype hbound
  rw [hlocate] at hfound
  obtain rfl := Option.some.inj hfound
  have hapart : StandsApart (.ofText "apps/") "s" "i" := ⟨by decide, by decide⟩
  exact ⟨hlocate, (hrecognised _ rfl (.inl hapart)).2 ⟨_, hnames⟩⟩

/-- A storage with schema files whose path leaves the directory of an application again, leads over
a name that is no text, and lies below the directory of an application named like the marker. -/
def strayFilesStorage : Memory :=
  ((Memory.empty.insert (.ofText "/apps/a/../b/doctype/x/x.json") []).insert
    (((Path.ofText "/apps/c").join ⟨[0xFF]⟩).join (.ofText "doctype/x/x.json")) []).insert
      (.ofText "/apps/doctype/x/x.json") []

theorem located_without_recognition :
    let apps := Path.ofText "/apps"
    let located := fun app => ((((Locator.new apps).locate 20 app "x").run Memory.answer).run
      strayFilesStorage).1.1.toOption
    let unnamed := ((Path.ofText "/apps/c").join ⟨[0xFF]⟩).join (.ofText "doctype/x/x.json")
    strayFilesStorage.Reachable ∧ strayFilesStorage.failing = [] ∧ IsTextName "a" ∧
      IsTextName "c" ∧ IsTextName "doctype" ∧ IsTextName "x" ∧
      located "a" = some (some (.ofText "/apps/a/../b/doctype/x/x.json")) ∧
      SchemaChange.ofPath? (fun _ => true) apps (.ofText "/apps/a/../b/doctype/x/x.json") = none ∧
      located "c" = some (some unnamed) ∧
      SchemaChange.ofPath? (fun _ => true) apps unnamed = none ∧
      located "doctype" = some (some (.ofText "/apps/doctype/x/x.json")) ∧
      SchemaChange.ofPath? (fun _ => true) apps (.ofText "/apps/doctype/x/x.json") = none := by
  refine ⟨.insert _ _ (.insert _ _ (.insert _ _ .empty)), ?_⟩
  decide +kernel

end DoctypeInterfaces
