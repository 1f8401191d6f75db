import DoctypeInterfaces.Interface.Basic
import DoctypeInterfaces.Proofs.Text.Lines

namespace DoctypeInterfaces

open Text

theorem FieldSchema.bind_related (field : FieldSchema) :
    field.member?.bind InterfaceMember.related = field.childDoctype := by
  rw [member?]
  split
  · next hlayout =>
    have htable : field.kind.isTable = false := by
      cases hkind : field.kind <;> simp_all [FieldKind.isLayout, FieldKind.isTable]
    rw [childDoctype, htable]
    rfl
  · rfl

theorem DoctypeSchema.related_eq (schema : DoctypeSchema) :
    schema.related = schema.fields.filterMap FieldSchema.childDoctype := by
  rw [related, members, List.filterMap_filterMap]
  simp only [FieldSchema.bind_related]

section Unions

variable {choice s t : List Char} {choices others : List (List Char)}

/-- What stands between the choices of a union: the end of a literal, a bar, and the start of the
next literal. -/
def literalBreak : List Char :=
  ['\'', ' ', '|', ' ', '\'']

/-- The choices that are written one a line, with a break between literals for each line feed. -/
def withBreaks (choices : List Char) : List Char :=
  choices.flatMap fun c => if c = '\n' then literalBreak else [c]

theorem withBreaks_cons_lineFeed (s : List Char) :
    withBreaks ('\n' :: s) = literalBreak ++ withBreaks s :=
  rfl

theorem withBreaks_cons_of_ne {c : Char} (h : c ≠ '\n') (s : List Char) :
    withBreaks (c :: s) = c :: withBreaks s := by
  rw [withBreaks, List.flatMap_cons, if_neg h]
  rfl

theorem intercalate_splitOn (s : List Char) :
    literalBreak.intercalate (splitOn '\n' s) = withBreaks s := by
  induction s with
  | nil => rfl
  | cons c s ih =>
    by_cases hc : c = '\n'
    · subst hc
      rw [splitOn_cons_self, List.intercalate_cons_of_ne_nil (splitOn_ne_nil _ _), ih,
        withBreaks_cons_lineFeed, List.nil_append]
    · cases hs : splitOn '\n' s with
      | nil => exact absurd hs (splitOn_ne_nil _ _)
      | cons piece rest =>
        rw [splitOn_cons_of_ne hc hs, List.intercalate_cons_cons_left, ← hs, ih,
          withBreaks_cons_of_ne hc]

/-- A union is its choices with breaks between them, from the first quote to the last. -/
theorem intercalate_literalType (hne : choices ≠ []) :
    [' ', '|', ' '].intercalate (choices.map literalType) =
      '\'' :: (literalBreak.intercalate choices ++ ['\'']) := by
  induction choices with
  | nil => exact absurd rfl hne
  | cons choice rest ih =>
    by_cases hrest : rest = []
    · subst hrest
      simp [literalType]
    · rw [List.map_cons, List.intercalate_cons_of_ne_nil (by simpa using hrest), ih hrest,
        List.intercalate_cons_of_ne_nil hrest]
      simp [literalType, literalBreak]

theorem toList_unionType (options : String) :
    (unionType options).toList = '\'' :: (withBreaks options.toList ++ ['\'']) := by
  rw [unionType, String.toList_ofList, intercalate_literalType (splitOn_ne_nil _ _),
    intercalate_splitOn]

theorem unionType_eq_iff {options other : String} :
    unionType options = unionType other ↔
      withBreaks options.toList = withBreaks other.toList := by
  rw [← String.toList_inj, toList_unionType, toList_unionType, List.cons_inj_right,
    List.append_left_inj]

/-- A quote and a bar, with which all but the last character of a break is made. -/
def quoteBar : List Char :=
  ['\'', ' ', '|', ' ']

theorem isPrefix_of_isPrefix_withBreaks {front : List Char} (hquote : '\'' ∉ front)
    (h : front <+: withBreaks s) : front <+: s := by
  induction front generalizing s with
  | nil => exact List.nil_prefix
  | cons c front ih =>
    obtain ⟨hc, hfront⟩ := List.ne_and_not_mem_of_not_mem_cons hquote
    cases s with
    | nil => cases List.prefix_nil.1 h
    | cons d s =>
      by_cases hd : d = '\n'
      · subst hd
        exact absurd (List.cons_prefix_cons.1 h).1.symm hc
      · rw [withBreaks_cons_of_ne hd, List.cons_prefix_cons] at h
        exact List.cons_prefix_cons.2 ⟨h.1, ih hfront h.2⟩

/-- Where no quote stands before a bar, a break is a line feed. -/
theorem exists_of_withBreaks_eq (ht : ¬ quoteBar <:+: t) (h : literalBreak ++ s = withBreaks t) :
    ∃ rest, t = '\n' :: rest ∧ s = withBreaks rest := by
  cases t with
  | nil => cases h
  | cons c rest =>
    by_cases hc : c = '\n'
    · subst hc
      exact ⟨rest, rfl, List.append_cancel_left h⟩
    · rw [withBreaks_cons_of_ne hc] at h
      obtain ⟨rfl, hrest⟩ := List.cons.inj h
      have hbar : [' ', '|', ' '] <+: withBreaks rest := ⟨'\'' :: s, hrest⟩
      have hfront := isPrefix_of_isPrefix_withBreaks (by decide) hbar
      exact absurd (List.cons_prefix_cons.2 ⟨rfl, hfront⟩).isInfix ht

theorem eq_of_withBreaks_eq (hs : ¬ quoteBar <:+: s) (ht : ¬ quoteBar <:+: t)
    (h : withBreaks s = withBreaks t) : s = t := by
  have htail {c : Char} {u : List Char} (hu : ¬ quoteBar <:+: c :: u) : ¬ quoteBar <:+: u :=
    fun hmem => hu (hmem.trans (List.suffix_cons c u).isInfix)
  induction s generalizing t with
  | nil =>
    cases t with
    | nil => rfl
    | cons d t =>
      by_cases hd : d = '\n'
      · subst hd
        cases h
      · rw [withBreaks_cons_of_ne hd] at h
        cases h
  | cons c s ih =>
    by_cases hc : c = '\n'
    · subst hc
      obtain ⟨rest, rfl, hrest⟩ := exists_of_withBreaks_eq ht h
      rw [ih (htail hs) (htail ht) hrest]
    · cases t with
      | nil =>
        rw [withBreaks_cons_of_ne hc] at h
        cases h
      | cons d t =>
        by_cases hd : d = '\n'
        · subst hd
          obtain ⟨rest, hrest, -⟩ := exists_of_withBreaks_eq hs h.symm
          exact absurd (List.head_eq_of_cons_eq hrest) hc
        · rw [withBreaks_cons_of_ne hc, withBreaks_cons_of_ne hd] at h
          obtain ⟨rfl, hrest⟩ := List.cons.inj h
          rw [ih (htail hs) (htail ht) hrest]

/-- Whether a text is a union with a literal for each choice, of which none holds a quote. -/
inductive IsUnion : List (List Char) → List Char → Prop where
  | single {choice : List Char} : '\'' ∉ choice → IsUnion [choice] (literalType choice)
  | more {choice s : List Char} {choices : List (List Char)} : '\'' ∉ choice → IsUnion choices s →
    IsUnion (choice :: choices) (literalType choice ++ ' ' :: '|' :: ' ' :: s)

theorem IsUnion.notMem (h : IsUnion choices s) : ∀ choice ∈ choices, '\'' ∉ choice := by
  induction h with
  | single hchoice => simpa using hchoice
  | more hchoice _ ih => exact List.forall_mem_cons.2 ⟨hchoice, ih⟩

theorem eq_of_append_quote_eq {front other rest later : List Char} (hfront : '\'' ∉ front)
    (hother : '\'' ∉ other) (h : front ++ '\'' :: rest = other ++ '\'' :: later) :
    front = other ∧ rest = later := by
  induction front generalizing other with
  | nil =>
    cases other with
    | nil => exact ⟨rfl, List.tail_eq_of_cons_eq h⟩
    | cons c other => exact absurd (List.head_eq_of_cons_eq h ▸ List.mem_cons_self) hother
  | cons c front ih =>
    cases other with
    | nil => exact absurd (List.head_eq_of_cons_eq h ▸ List.mem_cons_self) hfront
    | cons d other =>
      obtain ⟨rfl, hrest⟩ := List.cons.inj h
      obtain ⟨rfl, rfl⟩ := ih (fun hmem => hfront (List.mem_cons_of_mem _ hmem))
        (fun hmem => hother (List.mem_cons_of_mem _ hmem)) hrest
      exact ⟨rfl, rfl⟩

theorem IsUnion.exists_cons (h : IsUnion choices s) :
    ∃ choice rest more, choices = choice :: rest ∧ '\'' ∉ choice ∧
      s = '\'' :: (choice ++ '\'' :: more) ∧
      ((rest = [] ∧ more = []) ∨ ∃ t, more = ' ' :: '|' :: ' ' :: t ∧ IsUnion rest t) := by
  cases h with
  | @single choice hchoice => exact ⟨choice, [], [], rfl, hchoice, rfl, .inl ⟨rfl, rfl⟩⟩
  | @more choice t rest hchoice hrest =>
    refine ⟨choice, rest, ' ' :: '|' :: ' ' :: t, rfl, hchoice, ?_, .inr ⟨t, rfl, hrest⟩⟩
    simp [literalType]

theorem IsUnion.unique (h : IsUnion choices s) (h' : IsUnion others s) : choices = others := by
  induction h generalizing others with
  | @single choice hchoice =>
    obtain ⟨other, rest, more, rfl, hother, hs, hmore⟩ := h'.exists_cons
    obtain ⟨rfl, rfl⟩ := eq_of_append_quote_eq hchoice hother (List.tail_eq_of_cons_eq hs)
    rcases hmore with ⟨rfl, -⟩ | ⟨t, ht, -⟩
    · rfl
    · cases ht
  | @more choice s choices hchoice _ ih =>
    obtain ⟨other, rest, more, rfl, hother, hs, hmore⟩ := h'.exists_cons
    have htext : choice ++ '\'' :: ' ' :: '|' :: ' ' :: s = other ++ '\'' :: more := by
      simpa [literalType] using hs
    obtain ⟨rfl, rfl⟩ := eq_of_append_quote_eq hchoice hother htext
    rcases hmore with ⟨-, hnone⟩ | ⟨t, ht, hrest⟩
    · cases hnone
    · cases ht
      rw [ih hrest]

theorem isUnion_intercalate (hne : choices ≠ []) (h : ∀ choice ∈ choices, '\'' ∉ choice) :
    IsUnion choices ([' ', '|', ' '].intercalate (choices.map literalType)) := by
  induction choices with
  | nil => exact absurd rfl hne
  | cons choice rest ih =>
    obtain ⟨hchoice, hrest⟩ := List.forall_mem_cons.1 h
    by_cases hnil : rest = []
    · subst hnil
      rw [List.map_singleton, List.intercalate_singleton]
      exact .single hchoice
    · rw [List.map_cons, List.intercalate_cons_of_ne_nil (by simpa using hnil), List.append_assoc]
      exact .more hchoice (ih hnil hrest)

/-- The type of choices is a union with a literal for each of them exactly if none of them holds a
quote. -/
theorem isUnion_unionType_iff (options : String) :
    IsUnion (splitOn '\n' options.toList) (unionType options).toList ↔
      '\'' ∉ options.toList := by
  constructor
  · intro h hquote
    obtain ⟨choice, hchoice, hmem⟩ := exists_mem_splitOn hquote (show '\'' ≠ '\n' by decide)
    exact h.notMem choice hchoice hmem
  · intro h
    rw [unionType, String.toList_ofList]
    apply isUnion_intercalate (splitOn_ne_nil _ _)
    intro choice hchoice hquote
    exact h (mem_of_mem_splitOn hchoice hquote)

end Unions

namespace FieldSchema

variable {field other : FieldSchema} {choices others : String}

theorem exists_member_of_select (hkind : field.kind = .select)
    (hoptions : field.options = some choices) (hne : choices ≠ "") :
    ∃ m, field.member? = some m ∧ m.type = unionType choices := by
  have heffective : field.effectiveOptions = some choices := by
    rw [effectiveOptions, hoptions, Option.filter_some, if_pos (by simpa using hne)]
  refine ⟨_, by rw [member?, hkind]; rfl, ?_⟩
  change field.memberType = _
  rw [memberType, heffective]
  exact if_pos hkind

/-- Two select fields have the same type exactly if their choices are the same once each line feed
is written as a break between literals, which tells the choices where none of them holds a quote
before a bar. The type can be read as a union of the choices, and of nothing else, exactly if none
of them holds a quote. -/
theorem select_type_eq_iff (hkind : field.kind = .select) (hkind' : other.kind = .select)
    (hoptions : field.options = some choices) (hoptions' : other.options = some others)
    (hne : choices ≠ "") (hne' : others ≠ "") :
    ∃ m n, field.member? = some m ∧ other.member? = some n ∧
      (m.type = n.type ↔ withBreaks choices.toList = withBreaks others.toList) ∧
      (¬ quoteBar <:+: choices.toList → ¬ quoteBar <:+: others.toList → m.type = n.type →
        choices = others) ∧
      ((∀ read, IsUnion read m.type.toList ↔ read = splitOn '\n' choices.toList) ↔
        '\'' ∉ choices.toList) := by
  obtain ⟨m, hm, htype⟩ := exists_member_of_select hkind hoptions hne
  obtain ⟨n, hn, htype'⟩ := exists_member_of_select hkind' hoptions' hne'
  refine ⟨m, n, hm, hn, ?_, ?_, ?_⟩
  · rw [htype, htype', unionType_eq_iff]
  · intro hchoices hothers h
    rw [htype, htype', unionType_eq_iff] at h
    exact String.toList_inj.1 (eq_of_withBreaks_eq hchoices hothers h)
  · rw [htype]
    constructor
    · intro h
      exact (isUnion_unionType_iff choices).1 ((h _).2 rfl)
    · intro hquote read
      have hunion := (isUnion_unionType_iff choices).2 hquote
      exact ⟨fun hread => hread.unique hunion, fun hread => hread ▸ hunion⟩

def withChoices (choices : String) : FieldSchema :=
  ⟨"x", "Select", "", some choices, false⟩

theorem listed_choices_read :
    ∃ m n, (withChoices "a\nb").member? = some m ∧ (withChoices "a' | 'b").member? = some n ∧
      m.type = n.type ∧ ∀ read, IsUnion read m.type.toList ↔ read = [['a'], ['b']] := by
  obtain ⟨m, n, hm, hn, htype, -, hread⟩ := @select_type_eq_iff (withChoices "a\nb")
    (withChoices "a' | 'b") _ _ rfl rfl rfl rfl (by decide) (by decide)
  exact ⟨m, n, hm, hn, htype.2 (by decide), hread.2 (by decide)⟩

/-- A choice that holds a break is taken for two choices, so the type does not tell the choices. -/
theorem select_type_not_injective :
    ¬ ∀ (field other : FieldSchema) (choices others : String) (m n : InterfaceMember),
      field.kind = .select → other.kind = .select → field.options = some choices →
      other.options = some others → choices ≠ "" → others ≠ "" → field.member? = some m →
      other.member? = some n → m.type = n.type → choices = others := by
  intro h
  have hsame := h (withChoices "a' | 'b") (withChoices "a\nb") _ _ _ _ rfl rfl rfl rfl (by decide)
    (by decide) rfl rfl (by decide)
  exact absurd hsame (by decide)

end FieldSchema

end DoctypeInterfaces
