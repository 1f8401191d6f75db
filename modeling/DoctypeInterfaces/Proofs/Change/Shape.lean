import DoctypeInterfaces.Change
import DoctypeInterfaces.Proofs.Path.Join
import DoctypeInterfaces.Proofs.Text.Utf8

namespace DoctypeInterfaces

theorem Path.below?_eq_some_iff {root p : Path} {rest : List Path.Component} :
    root.below? p = some rest ↔ p.components = root.components ++ rest := by
  rw [Path.below?]
  constructor
  · intro h
    split at h
    · next hprefix =>
      rw [← Option.some.inj h]
      exact List.prefix_iff_eq_append.1 (List.isPrefixOf_iff_prefix.1 hprefix) |>.symm
    · cases h
  · intro h
    rw [if_pos (List.isPrefixOf_iff_prefix.2 ⟨rest, h.symm⟩), h, List.drop_left]

/-- The component whose name is a text. -/
def Path.Component.ofText (s : String) : Path.Component :=
  .name (Text.encodeUtf8 s)

@[simp] theorem Path.Component.ofText_inj {s t : String} :
    Path.Component.ofText s = .ofText t ↔ s = t := by
  rw [ofText, ofText, name.injEq, Text.encodeUtf8_inj]

theorem Path.Component.text?_eq_some_iff {c : Path.Component} {s : String} :
    c.text? = some s ↔ c = .ofText s := by
  cases c with
  | name bytes =>
    rw [text?, ofText, name.injEq, ← Text.decodeUtf8_eq_ok_iff]
    cases Text.decodeUtf8 bytes <;> simp [Except.toOption]
  | _ => exact iff_of_false nofun nofun

theorem mapM_text?_eq_some_iff {components : List Path.Component} {names : List String} :
    components.mapM Path.Component.text? = some names ↔
      components = names.map Path.Component.ofText := by
  induction components generalizing names with
  | nil => cases names <;> simp
  | cons c components ih =>
    rw [List.mapM_cons]
    simp only [Option.bind_eq_bind, Option.bind_eq_some_iff, Path.Component.text?_eq_some_iff, ih,
      Option.pure_def, Option.some.injEq]
    constructor
    · rintro ⟨s, rfl, rest, rfl, rfl⟩
      rfl
    · intro h
      cases names with
      | nil => cases h
      | cons s names =>
        obtain ⟨rfl, rfl⟩ := List.cons.inj h
        exact ⟨s, rfl, names, rfl, rfl⟩

theorem schemaOfNames?_eq_some_iff {names : List String} {app doctype : String} :
    schemaOfNames? names = some (app, doctype) ↔
      ∃ between, names = app :: (between ++ ["doctype", doctype, doctype ++ ".json"]) := by
  constructor
  · intro h
    unfold schemaOfNames? at h
    split at h
    · cases h
    · next first rest =>
      split at h
      · next file name marker above hrest =>
        split at h
        · next hshape =>
          obtain ⟨rfl, rfl⟩ : marker = "doctype" ∧ file = name ++ ".json" := by simpa using hshape
          obtain ⟨rfl, rfl⟩ := Prod.mk.inj (Option.some.inj h)
          refine ⟨above.reverse, ?_⟩
          rw [← List.reverse_reverse rest, hrest]
          simp
        · cases h
      · cases h
  · rintro ⟨between, rfl⟩
    simp [schemaOfNames?]

def schemaComponents (doctype : String) : List Path.Component :=
  [.ofText "doctype", .ofText doctype, .ofText (doctype ++ ".json")]

def Path.IsSchemaFileOf (p root : Path) (app doctype : String) : Prop :=
  ∃ between : List String, p.components = root.components ++
    .ofText app :: (between.map Component.ofText ++ schemaComponents doctype)

/-- Whether only names that are text lead from a directory to a path. -/
def Path.NamedBelow (p root : Path) : Prop :=
  ∃ names : List String, p.components = root.components ++ names.map Component.ofText

theorem ofPath?_eq_some_iff {isPresent : Path → Bool} {root p : Path} {change : SchemaChange} :
    SchemaChange.ofPath? isPresent root p = some change ↔
      change.path = p ∧ change.removed = !isPresent p ∧
        p.IsSchemaFileOf root change.app change.doctype := by
  obtain ⟨app, doctype, path, removed⟩ := change
  simp only [SchemaChange.ofPath?, Option.bind_eq_bind, Option.bind_eq_some_iff,
    Path.below?_eq_some_iff, mapM_text?_eq_some_iff, Prod.exists, Option.pure_def,
    Option.some.injEq, SchemaChange.mk.injEq, schemaOfNames?_eq_some_iff]
  constructor
  · rintro ⟨rest, hp, names, rfl, app', doctype', ⟨between, rfl⟩, rfl, rfl, rfl, rfl⟩
    exact ⟨rfl, rfl, between, by simp [hp, schemaComponents]⟩
  · rintro ⟨rfl, rfl, between, hp⟩
    exact ⟨_, hp, app :: (between ++ ["doctype", doctype, doctype ++ ".json"]),
      by simp [schemaComponents], app, doctype, ⟨between, rfl⟩, rfl, rfl, rfl, rfl⟩

end DoctypeInterfaces
