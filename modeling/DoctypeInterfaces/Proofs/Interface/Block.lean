import DoctypeInterfaces.Proofs.Interface.Recover

namespace DoctypeInterfaces

open Text

/-- Whether no part of a field that its member shows as it is holds a line feed. -/
structure FieldSchema.IsFlat (field : FieldSchema) : Prop where
  fieldname : '\n' ∉ field.fieldname.toList
  fieldtype : '\n' ∉ field.fieldtype.toList
  label : '\n' ∉ field.label.toList
  options : field.kind.isRelational = true → ∀ options ∈ field.options, '\n' ∉ options.toList

/-- Whether no part of a doctype that its block shows as it is holds a line feed. -/
structure DoctypeSchema.IsFlat (schema : DoctypeSchema) : Prop where
  modified : '\n' ∉ schema.modified.toList
  fields : ∀ field ∈ schema.fields, field.IsFlat

/-- Whether the block of a doctype can be recovered. -/
structure DoctypeSchema.IsRegular (schema : DoctypeSchema) : Prop where
  name_ne : schema.interfaceName ≠ ""
  name_word : ∀ c ∈ schema.interfaceName.toList, isWordChar c = true
  modified_ne : schema.modified ≠ ""
  modified_flat : '\n' ∉ schema.modified.toList
  modified_end : schema.modified.toList.getLast? ≠ some '\r'
  fields : ∀ field ∈ schema.fields, field.IsFlat

instance (field : FieldSchema) : Decidable field.IsFlat :=
  decidable_of_iff
    ('\n' ∉ field.fieldname.toList ∧ '\n' ∉ field.fieldtype.toList ∧ '\n' ∉ field.label.toList ∧
      (field.kind.isRelational = true → ∀ options ∈ field.options, '\n' ∉ options.toList))
    ⟨fun h => ⟨h.1, h.2.1, h.2.2.1, h.2.2.2⟩,
      fun h => ⟨h.fieldname, h.fieldtype, h.label, h.options⟩⟩

instance (schema : DoctypeSchema) : Decidable schema.IsFlat :=
  decidable_of_iff ('\n' ∉ schema.modified.toList ∧ ∀ field ∈ schema.fields, field.IsFlat)
    ⟨fun h => ⟨h.1, h.2⟩, fun h => ⟨h.modified, h.fields⟩⟩

instance (schema : DoctypeSchema) : Decidable schema.IsRegular :=
  decidable_of_iff
    (schema.interfaceName ≠ "" ∧ schema.interfaceName.toList.all isWordChar = true ∧
      schema.modified ≠ "" ∧ '\n' ∉ schema.modified.toList ∧
      schema.modified.toList.getLast? ≠ some '\r' ∧ ∀ field ∈ schema.fields, field.IsFlat)
    ⟨fun h => ⟨h.1, List.all_eq_true.1 h.2.1, h.2.2.1, h.2.2.2.1, h.2.2.2.2.1, h.2.2.2.2.2⟩,
      fun h => ⟨h.name_ne, List.all_eq_true.2 h.name_word, h.modified_ne, h.modified_flat,
        h.modified_end, h.fields⟩⟩

section Scanning

theorem isBlank_eq_false_of_isWordChar {c : Char} (h : isWordChar c = true) :
    isBlank c = false := by
  have hdisjoint : ∀ blank ∈ blankRanges, ∀ word ∈ wordRanges,
      blank.2 < word.1 ∨ word.2 < blank.1 := by
    decide +kernel
  obtain ⟨word, hword, hle, hge⟩ := inRanges_eq_true_iff.1 h
  rw [isBlank, Bool.eq_false_iff, Ne, inRanges_eq_true_iff]
  rintro ⟨blank, hblank, hle', hge'⟩
  have hapart := hdisjoint blank hblank word hword
  omega

theorem isWordChar_eq_false_of_isBlank {c : Char} (h : isBlank c = true) :
    isWordChar c = false := by
  cases hword : isWordChar c with
  | false => rfl
  | true =>
    rw [isBlank_eq_false_of_isWordChar hword] at h
    cases h

theorem chomp_line {l : List Char} (h : l.getLast? ≠ some '\r') : chomp (l ++ ['\n']) = l := by
  rw [chomp, List.reverse_append, List.reverse_singleton, List.singleton_append]
  cases hl : l.reverse with
  | nil => simpa using hl.symm
  | cons c r =>
    have hlast : l.getLast? = some c := by
      rw [← List.reverse_reverse l, hl, List.reverse_cons, List.getLast?_concat]
    have hc : c ≠ '\r' := fun hc => h (hc ▸ hlast)
    split
    · next heq =>
      obtain ⟨rfl, -⟩ := List.cons.inj (List.cons.inj heq).2
      exact absurd rfl hc
    · next heq =>
      rw [← (List.cons.inj heq).2, ← hl, List.reverse_reverse]
    · next hnone => exact absurd rfl (hnone _)

theorem dropStart?_append (start s : List Char) : dropStart? start (start ++ s) = some s := by
  rw [dropStart?, if_pos (by simp), List.drop_left]

theorem dropBlanks?_space {c : Char} {s : List Char} (h : isBlank c = false) :
    dropBlanks? (' ' :: c :: s) = some (c :: s) := by
  have hblank : isBlank ' ' = true := by decide
  rw [dropBlanks?, if_pos hblank, List.dropWhile_cons_of_neg (by simp [h])]

theorem dropBlanks?_word {w rest : List Char} (hne : w ≠ [])
    (hw : ∀ c ∈ w, isWordChar c = true) : dropBlanks? (' ' :: (w ++ rest)) = some (w ++ rest) := by
  obtain ⟨c, w, rfl⟩ := List.exists_cons_of_ne_nil hne
  exact dropBlanks?_space (isBlank_eq_false_of_isWordChar (hw c List.mem_cons_self))

theorem word?_append {w rest : List Char} (hne : w ≠ []) (hw : ∀ c ∈ w, isWordChar c = true) :
    word? (w ++ ' ' :: rest) = some (w, ' ' :: rest) := by
  have hspace : isWordChar ' ' = false := isWordChar_eq_false_of_isBlank (by decide)
  obtain ⟨c, w', rfl⟩ := List.exists_cons_of_ne_nil hne
  have hfirst : isWordChar c = true := hw c List.mem_cons_self
  have htake : ((c :: w') ++ ' ' :: rest).takeWhile isWordChar = c :: w' := by
    rw [List.takeWhile_append_of_pos hw]
    simp [hspace]
  have hdrop : ((c :: w') ++ ' ' :: rest).dropWhile isWordChar = ' ' :: rest := by
    rw [List.dropWhile_append_of_pos hw]
    simp [hspace]
  change (if isWordChar c = true then some (((c :: w') ++ ' ' :: rest).takeWhile isWordChar,
    ((c :: w') ++ ' ' :: rest).dropWhile isWordChar) else none) = _
  rw [if_pos hfirst, htake, hdrop]

end Scanning

section Members

variable {field : FieldSchema} {schema : DoctypeSchema}

theorem lineFeed_notMem_unionType (choices : String) : '\n' ∉ (unionType choices).toList := by
  rw [unionType, String.toList_ofList]
  intro h
  rcases mem_of_mem_intercalate h with h | ⟨piece, hpiece, h⟩
  · exact absurd h (by decide)
  · obtain ⟨choice, hchoice, rfl⟩ := List.mem_map.1 hpiece
    have hnotMem := notMem_of_mem_splitOn hchoice
    simp [literalType] at h
    exact hnotMem h

theorem lineFeed_notMem_baseType (kind : FieldKind) : '\n' ∉ kind.baseType.toList := by
  cases kind <;> simp only [FieldKind.baseType] <;> decide

namespace FieldSchema

theorem IsFlat.notMem_options (h : field.IsFlat) (hkind : field.kind.isRelational = true)
    {options : String} (hoptions : field.effectiveOptions = some options) :
    '\n' ∉ options.toList :=
  h.options hkind options (Option.eq_some_of_filter_eq_some hoptions)

theorem IsFlat.memberType (h : field.IsFlat) : '\n' ∉ field.memberType.toList := by
  rw [FieldSchema.memberType]
  split
  · exact lineFeed_notMem_baseType _
  · next options hoptions =>
    split
    · exact lineFeed_notMem_unionType options
    · split
      · next htable =>
        have hflat := h.notMem_options (FieldKind.isRelational_of_isTable htable) hoptions
        rw [String.toList_append, toList_stripBlanks, List.mem_append, not_or]
        exact ⟨fun hmem => hflat (List.mem_of_mem_filter hmem), by decide⟩
      · exact lineFeed_notMem_baseType _

theorem IsFlat.memberDoc (h : field.IsFlat) : '\n' ∉ field.memberDoc.toList := by
  rw [FieldSchema.memberDoc]
  split
  · change '\n' ∉ ("/** " ++ field.label ++ ": " ++ field.fieldtype ++ " */").toList
    simp [h.label, h.fieldtype]
  · next doctype hdoctype =>
    have hflat : '\n' ∉ doctype.toList := by
      rw [namedDoctype] at hdoctype
      split at hdoctype
      · next hkind => exact h.notMem_options hkind hdoctype
      · cases hdoctype
    change '\n' ∉ ("/** " ++ field.label ++ ": " ++ field.fieldtype ++ " (" ++ doctype ++
      ") */").toList
    simp [h.label, h.fieldtype, hflat]

end FieldSchema

theorem lineFeed_notMem_lines (h : field.IsFlat) {m : InterfaceMember}
    (hm : field.member? = some m) : ∀ l ∈ m.lines memberIndent, '\n' ∉ l.toList := by
  rw [FieldSchema.member?] at hm
  split at hm
  · cases hm
  · obtain rfl := Option.some.inj hm
    intro l hl
    simp only [InterfaceMember.lines, List.mem_cons, List.not_mem_nil, or_false] at hl
    rcases hl with rfl | rfl
    · simp [memberIndent, h.memberDoc]
    · dsimp only [InterfaceMember.declaration]
      split <;> simp [memberIndent, h.fieldname, h.memberType]

theorem not_closing_of_mem_lines {m : InterfaceMember} :
    ∀ l ∈ m.lines memberIndent, isClosingLine (l.toList ++ ['\n']) = false := by
  intro l hl
  simp only [InterfaceMember.lines, List.mem_cons, List.not_mem_nil, or_false] at hl
  rcases hl with rfl | rfl <;> simp [memberIndent, isClosingLine]

end Members

section Header

variable {schema : DoctypeSchema}

theorem markerTime?_markerLine {modified : String} (hne : modified ≠ "")
    (hflat : '\n' ∉ modified.toList) :
    markerTime? (markerLine modified).toList = some modified.toList := by
  have hnil : modified.toList ≠ [] := by simpa using hne
  rw [markerTime?, markerLine, String.toList_append, dropStart?_append]
  change (if (modified.toList = [] || modified.toList.contains '\n') = true then none
    else some modified.toList) = _
  rw [if_neg (by simp [hnil, hflat])]

theorem toList_declaration (name base : String) :
    ("export interface " ++ name ++ " extends " ++ base ++ " \x7b").toList =
      "export interface".toList ++ ' ' :: (name.toList ++ ' ' :: ("extends".toList ++
        ' ' :: (base.toList ++ ' ' :: ['\x7b']))) := by
  simp

theorem toList_declarationLine (schema : DoctypeSchema) :
    schema.declarationLine.toList = "export interface".toList ++
      ' ' :: (schema.interfaceName.toList ++ ' ' :: ("extends".toList ++
        ' ' :: (schema.baseName.toList ++ ' ' :: ['\x7b']))) := by
  unfold DoctypeSchema.declarationLine
  exact toList_declaration _ _

theorem getLast?_declarationLine (schema : DoctypeSchema) :
    schema.declarationLine.toList.getLast? = some '\x7b' := by
  unfold DoctypeSchema.declarationLine
  rw [String.toList_append, List.getLast?_append_of_ne_nil _ (by decide)]
  rfl

theorem baseName_word (schema : DoctypeSchema) :
    schema.baseName.toList ≠ [] ∧ ∀ c ∈ schema.baseName.toList, isWordChar c = true := by
  rw [DoctypeSchema.baseName]
  split <;> exact ⟨by decide, List.all_eq_true.1 (by decide)⟩

theorem extends_word : "extends".toList ≠ [] ∧ ∀ c ∈ "extends".toList, isWordChar c = true :=
  ⟨by decide, List.all_eq_true.1 (by decide)⟩

theorem declaredName?_declarationLine (hne : schema.interfaceName ≠ "")
    (hword : ∀ c ∈ schema.interfaceName.toList, isWordChar c = true) :
    declaredName? schema.declarationLine.toList = some schema.interfaceName.toList := by
  have hname : schema.interfaceName.toList ≠ [] := by simpa using hne
  obtain ⟨hextends, hextendsWord⟩ := extends_word
  obtain ⟨hbase, hbaseWord⟩ := baseName_word schema
  have hbrace : dropBlanks? (' ' :: ['\x7b']) = some ['\x7b'] := dropBlanks?_space (by decide)
  rw [declaredName?, toList_declarationLine, dropStart?_append]
  generalize "extends".toList = word at hextends hextendsWord ⊢
  generalize schema.baseName.toList = base at hbase hbaseWord ⊢
  simp only [Option.bind_eq_bind, Option.bind_some, dropBlanks?_word hname hword,
    word?_append hname hword, dropBlanks?_word hextends hextendsWord, dropStart?_append,
    dropBlanks?_word hbase hbaseWord, word?_append hbase hbaseWord, hbrace, if_true]
  rfl

end Header

namespace DoctypeSchema

variable {schema : DoctypeSchema}

def memberLines (schema : DoctypeSchema) : List (List Char) :=
  (schema.members.flatMap fun m => m.lines memberIndent).map fun l => l.toList ++ ['\n']

def writtenLines (schema : DoctypeSchema) : List (List Char) :=
  ((markerLine schema.modified).toList ++ ['\n']) :: (schema.declarationLine.toList ++ ['\n']) ::
    (schema.memberLines ++ [['\x7d', '\n']])

theorem toList_block (schema : DoctypeSchema) :
    schema.toInterface.block.toList = schema.writtenLines.flatten := by
  simp [toInterface, blockLines, writtenLines, memberLines, List.flatMap_map,
    List.flatten_eq_flatMap]

theorem lineFeed_notMem_declarationLine (schema : DoctypeSchema) :
    '\n' ∉ schema.declarationLine.toList := by
  have hname : '\n' ∉ schema.interfaceName.toList := by
    rw [interfaceName, toList_stripBlanks, List.mem_filter]
    intro h
    exact absurd h.2 (by decide)
  have hbase : '\n' ∉ schema.baseName.toList := by
    rw [baseName]
    split <;> decide
  rw [toList_declarationLine]
  generalize schema.interfaceName.toList = name at hname ⊢
  generalize schema.baseName.toList = base at hbase ⊢
  simp [hname, hbase]

theorem IsFlat.isLine (h : schema.IsFlat) : ∀ l ∈ schema.writtenLines, IsLine l := by
  have hmarker : '\n' ∉ (markerLine schema.modified).toList := by
    simp [markerLine, markerStart, h.modified]
  have hmembers : ∀ m ∈ schema.members, ∀ l ∈ m.lines memberIndent, '\n' ∉ l.toList := by
    intro m hm
    obtain ⟨field, hfield, hmember⟩ := List.mem_filterMap.1 hm
    exact lineFeed_notMem_lines (h.fields field hfield) hmember
  intro l hl
  simp only [writtenLines, memberLines, List.mem_cons, List.mem_append, List.mem_map,
    List.mem_flatMap, List.not_mem_nil, or_false] at hl
  rcases hl with hl | hl | ⟨line, ⟨m, hm, hline⟩, hl⟩ | hl
  · exact ⟨_, hmarker, hl⟩
  · exact ⟨_, schema.lineFeed_notMem_declarationLine, hl⟩
  · exact ⟨_, hmembers m hm line hline, hl.symm⟩
  · exact ⟨['\x7d'], by decide, hl⟩

theorem not_closing_of_mem_memberLines :
    ∀ l ∈ schema.memberLines, isClosingLine l = false := by
  intro l hl
  obtain ⟨line, hline, rfl⟩ := List.mem_map.1 hl
  obtain ⟨m, -, hline⟩ := List.mem_flatMap.1 hline
  exact not_closing_of_mem_lines line hline

/-- What the first two lines of a block tell, the block delimits. -/
theorem IsFlat.isDelimited {time name : List Char} (h : schema.IsFlat)
    (hheader : blockHeader? ((markerLine schema.modified).toList ++ ['\n'])
      (schema.declarationLine.toList ++ ['\n']) = some (time, name)) :
    (Interface.mk (String.ofList name) (String.ofList time)
      schema.toInterface.block).IsDelimited := by
  refine ⟨_, _, schema.memberLines, _, schema.toList_block, h.isLine, ?_,
    not_closing_of_mem_memberLines, rfl⟩
  simpa using hheader

namespace IsRegular

theorem isFlat (h : schema.IsRegular) : schema.IsFlat :=
  ⟨h.modified_flat, h.fields⟩

theorem blockHeader? (h : schema.IsRegular) :
    DoctypeInterfaces.blockHeader? ((markerLine schema.modified).toList ++ ['\n'])
        (schema.declarationLine.toList ++ ['\n']) =
      some (schema.modified.toList, schema.interfaceName.toList) := by
  have hmodified : schema.modified.toList ≠ [] := by simpa using h.modified_ne
  have hmarker : (markerLine schema.modified).toList.getLast? ≠ some '\r' := by
    rw [markerLine, String.toList_append, List.getLast?_append_of_ne_nil _ hmodified]
    exact h.modified_end
  have hdeclaration : schema.declarationLine.toList.getLast? ≠ some '\r' := by
    rw [getLast?_declarationLine]
    decide
  rw [DoctypeInterfaces.blockHeader?, chomp_line hmarker, chomp_line hdeclaration,
    markerTime?_markerLine h.modified_ne h.modified_flat,
    declaredName?_declarationLine h.name_ne h.name_word]
  rfl

theorem isDelimited (h : schema.IsRegular) : schema.toInterface.IsDelimited := by
  have hself := h.isFlat.isDelimited h.blockHeader?
  rw [String.ofList_toList, String.ofList_toList] at hself
  exact hself

end IsRegular

end DoctypeSchema

end DoctypeInterfaces
