import DoctypeInterfaces.Proofs.Field.Member
import DoctypeInterfaces.Proofs.Interface.Block

namespace DoctypeInterfaces

section Texts

/-- Lines that each end with a line feed have nothing after the last one. -/
theorem toList_join_lines (lines : List String) :
    (String.join (lines.map (· ++ "\n"))).toList =
      ['\n'].intercalate (lines.map String.toList ++ [[]]) := by
  induction lines with
  | nil => rfl
  | cons line lines ih =>
    rw [List.map_cons, String.join_cons, String.toList_append, ih, List.map_cons, List.cons_append,
      List.intercalate_cons_of_ne_nil (by simp), String.toList_append]
    rfl

theorem splitOn_join_lines {lines : List String} (h : ∀ line ∈ lines, '\n' ∉ line.toList) :
    (String.join (lines.map (· ++ "\n"))).toList.splitOn '\n' =
      lines.map String.toList ++ [[]] := by
  rw [toList_join_lines]
  apply List.splitOn_intercalate
  · intro piece hpiece
    rcases List.mem_append.1 hpiece with hpiece | hpiece
    · obtain ⟨line, hline, rfl⟩ := List.mem_map.1 hpiece
      exact h line hline
    · simp [List.mem_singleton.1 hpiece]
  · simp

variable {α β : Type} {f g : α → β}

theorem getElem?_concat_eq_some_iff {xs : List α} {x : α} (h : x ∉ xs) {i : Nat} :
    (xs ++ [x])[i]? = some x ↔ i = xs.length := by
  rcases Nat.lt_trichotomy i xs.length with hlt | rfl | hgt
  · rw [List.getElem?_append_left hlt]
    exact iff_of_false (fun hget => h (List.mem_of_getElem? hget)) hlt.ne
  · simp
  · have hlength : (xs ++ [x]).length ≤ i := by
      rw [List.length_append]
      exact hgt
    rw [List.getElem?_eq_none hlength]
    exact iff_of_false (fun hget => by cases hget) hgt.ne'

theorem getElem?_flatMap_pair_even (xs : List α) (j : Nat) :
    (xs.flatMap fun x => [f x, g x])[2 * j]? = xs[j]?.map f := by
  induction xs generalizing j with
  | nil => simp
  | cons x xs ih =>
    cases j with
    | zero => rfl
    | succ j => exact ih j

theorem getElem?_flatMap_pair_odd (xs : List α) (j : Nat) :
    (xs.flatMap fun x => [f x, g x])[2 * j + 1]? = xs[j]?.map g := by
  induction xs generalizing j with
  | nil => simp
  | cons x xs ih =>
    cases j with
    | zero => rfl
    | succ j => exact ih j

end Texts

namespace FieldSchema

variable {field : FieldSchema} {m : InterfaceMember}

def docLine (field : FieldSchema) : String :=
  "  /** " ++ field.label ++ ": " ++ field.fieldtype ++
    (field.namedDoctype.elim "" fun doctype => " (" ++ doctype ++ ")") ++ " */"

def memberLine (field : FieldSchema) : String :=
  "  " ++ field.fieldname ++ (if field.required = true ∨ field.kind = .check then "" else "?") ++
    ": " ++ field.memberType ++ ";"

theorem docLine_eq (field : FieldSchema) : field.docLine = memberIndent ++ field.memberDoc := by
  rw [docLine, memberDoc]
  cases field.namedDoctype with
  | none =>
    change "  /** " ++ field.label ++ ": " ++ field.fieldtype ++ "" ++ " */" =
      "  " ++ ("/** " ++ field.label ++ ": " ++ field.fieldtype ++ " */")
    simp [← String.toList_inj]
  | some doctype =>
    change "  /** " ++ field.label ++ ": " ++ field.fieldtype ++ (" (" ++ doctype ++ ")") ++ " */" =
      "  " ++ ("/** " ++ field.label ++ ": " ++ field.fieldtype ++ " (" ++ doctype ++ ") */")
    simp [← String.toList_inj]

theorem member?_of_isLayout (h : field.kind.isLayout = true) : field.member? = none := by
  rw [member?, if_pos h]

theorem exists_member (h : field.kind.isLayout = false) :
    ∃ m, field.member? = some m ∧ m.lines memberIndent = [field.docLine, field.memberLine] ∧
      m.related = field.childDoctype := by
  refine ⟨_, by rw [member?, if_neg (Bool.eq_false_iff.1 h)], ?_, rfl⟩
  rw [InterfaceMember.lines, docLine_eq, InterfaceMember.declaration, memberLine]
  by_cases hneeded : field.required = true ∨ field.kind = .check
  · have hrequired : (field.required || decide (field.kind = .check)) = true := by
      simpa using hneeded
    simp only [hrequired, if_pos hneeded]
    simp [memberIndent, String.append_assoc]
  · have hoptional : (field.required || decide (field.kind = .check)) = false := by
      simpa using hneeded
    simp only [hoptional, if_neg hneeded]
    simp [memberIndent, String.append_assoc]

theorem docLine_head (field : FieldSchema) : field.docLine.toList.head? = some ' ' := by
  simp [docLine]

theorem memberLine_head (field : FieldSchema) : field.memberLine.toList.head? = some ' ' := by
  simp [memberLine]

end FieldSchema

namespace DoctypeSchema

variable {schema : DoctypeSchema}

def shownFields (schema : DoctypeSchema) : List FieldSchema :=
  schema.fields.filter fun field => !field.kind.isLayout

def fieldLines (schema : DoctypeSchema) : List String :=
  schema.shownFields.flatMap fun field => [field.docLine, field.memberLine]

theorem members_lines (schema : DoctypeSchema) :
    schema.members.flatMap (fun m => m.lines memberIndent) = schema.fieldLines := by
  rw [members, fieldLines, shownFields]
  induction schema.fields with
  | nil => rfl
  | cons field fields ih =>
    cases hlayout : field.kind.isLayout with
    | true =>
      rw [List.filterMap_cons_none (FieldSchema.member?_of_isLayout hlayout), ih,
        List.filter_cons_of_neg (by simp [hlayout])]
    | false =>
      obtain ⟨m, hm, hlines, -⟩ := FieldSchema.exists_member hlayout
      rw [List.filterMap_cons_some hm, List.flatMap_cons, ih, hlines,
        List.filter_cons_of_pos (by simp [hlayout]), List.flatMap_cons]

theorem blockLines_eq (schema : DoctypeSchema) :
    schema.blockLines = markerLine schema.modified :: schema.declarationLine ::
      (schema.fieldLines ++ ["\x7d"]) := by
  rw [blockLines, members_lines]
  rfl

theorem length_fieldLines (schema : DoctypeSchema) :
    schema.fieldLines.length = 2 * schema.shownFields.length := by
  rw [fieldLines]
  induction schema.shownFields with
  | nil => rfl
  | cons field fields ih =>
    rw [List.flatMap_cons, List.length_append, ih, List.length_cons, List.length_cons]
    simp only [List.length_cons, List.length_nil]
    omega

theorem head_of_mem_fieldLines {line : String} (h : line ∈ schema.fieldLines) :
    line.toList.head? = some ' ' := by
  obtain ⟨field, -, hline⟩ := List.mem_flatMap.1 h
  rcases List.mem_pair.1 hline with rfl | rfl
  · exact field.docLine_head
  · exact field.memberLine_head

theorem writtenLines_eq (schema : DoctypeSchema) :
    schema.writtenLines = schema.blockLines.map fun line => line.toList ++ ['\n'] := by
  rw [writtenLines, memberLines, members_lines, blockLines_eq]
  simp

theorem IsFlat.lineFeed_notMem_blockLines (h : schema.IsFlat) :
    ∀ line ∈ schema.blockLines, '\n' ∉ line.toList := by
  intro line hline
  have hwritten : line.toList ++ ['\n'] ∈ schema.writtenLines := by
    rw [writtenLines_eq]
    exact List.mem_map_of_mem hline
  obtain ⟨r, hr, heq⟩ := h.isLine _ hwritten
  rwa [List.append_cancel_right heq]

/-- Whether lines are those of the block of a doctype: the marker and the declaration, two lines for
each field that holds something, and a closing brace, which no other line is. -/
structure IsWritten (schema : DoctypeSchema) (lines : List String) : Prop where
  length : lines.length = 2 * schema.shownFields.length + 3
  marker : lines[0]? = some ("// Last updated: " ++ schema.modified)
  declaration : lines[1]? = some ("export interface " ++ schema.interfaceName ++ " extends " ++
    (if schema.isTable then "ChildDocType" else "DocType") ++ " \x7b")
  fields : ∀ j field, schema.shownFields[j]? = some field →
    lines[2 * j + 2]? = some field.docLine ∧ lines[2 * j + 3]? = some field.memberLine
  closing : ∀ i, lines[i]? = some "\x7d" ↔ i = 2 * schema.shownFields.length + 2
  opening : ∀ i, (∃ line, lines[i]? = some line ∧ markerStart.toList <+: line.toList) ↔ i = 0

theorem markerLine_head (modified : String) : (markerLine modified).toList.head? = some '/' := by
  simp [markerLine, markerStart]

theorem declarationLine_head (schema : DoctypeSchema) :
    schema.declarationLine.toList.head? = some 'e' := by
  rw [toList_declarationLine]
  rfl

theorem ne_closing {line : String} {c : Char} (hhead : line.toList.head? = some c)
    (hne : c ≠ '\x7d') : "\x7d" ≠ line := by
  rintro rfl
  exact hne (Option.some.inj hhead).symm

theorem closing_iff (schema : DoctypeSchema) (i : Nat) :
    schema.blockLines[i]? = some "\x7d" ↔ i = 2 * schema.shownFields.length + 2 := by
  have hfront : "\x7d" ∉
      markerLine schema.modified :: schema.declarationLine :: schema.fieldLines := by
    rw [List.mem_cons, List.mem_cons, not_or, not_or]
    refine ⟨ne_closing (markerLine_head _) (by decide),
      ne_closing schema.declarationLine_head (by decide), fun hmem => ?_⟩
    exact ne_closing (head_of_mem_fieldLines hmem) (by decide) rfl
  rw [blockLines_eq, ← List.cons_append, ← List.cons_append, getElem?_concat_eq_some_iff hfront,
    List.length_cons, List.length_cons, length_fieldLines]

theorem opening_iff (schema : DoctypeSchema) (i : Nat) :
    (∃ line, schema.blockLines[i]? = some line ∧ markerStart.toList <+: line.toList) ↔ i = 0 := by
  have hlater : ∀ line ∈ schema.declarationLine :: (schema.fieldLines ++ ["\x7d"]),
      line.toList.head? ≠ some '/' := by
    intro line hline
    rcases List.mem_cons.1 hline with rfl | hline
    · rw [schema.declarationLine_head]
      decide
    · rcases List.mem_append.1 hline with hline | hline
      · rw [head_of_mem_fieldLines hline]
        decide
      · rw [List.mem_singleton.1 hline]
        decide
  rw [blockLines_eq]
  constructor
  · rintro ⟨line, hline, hstart⟩
    cases i with
    | zero => rfl
    | succ k =>
      obtain ⟨more, hmore⟩ := hstart
      rw [List.getElem?_cons_succ] at hline
      refine absurd ?_ (hlater line (List.mem_of_getElem? hline))
      rw [← hmore]
      rfl
  · rintro rfl
    exact ⟨_, rfl, by simp [markerLine]⟩

theorem isWritten_blockLines (schema : DoctypeSchema) : schema.IsWritten schema.blockLines := by
  constructor
  case length =>
    rw [blockLines_eq]
    simp [length_fieldLines]
  case marker =>
    rw [blockLines_eq]
    rfl
  case declaration =>
    rw [blockLines_eq]
    rfl
  case fields =>
    intro j field hfield
    have hdoc : schema.fieldLines[2 * j]? = some field.docLine := by
      rw [fieldLines, getElem?_flatMap_pair_even, hfield]
      rfl
    have hmember : schema.fieldLines[2 * j + 1]? = some field.memberLine := by
      rw [fieldLines, getElem?_flatMap_pair_odd, hfield]
      rfl
    have hdocLt := (List.getElem?_eq_some_iff.1 hdoc).1
    have hmemberLt := (List.getElem?_eq_some_iff.1 hmember).1
    rw [blockLines_eq]
    constructor
    · rw [List.getElem?_cons_succ, List.getElem?_cons_succ, List.getElem?_append_left hdocLt, hdoc]
    · rw [List.getElem?_cons_succ, List.getElem?_cons_succ, List.getElem?_append_left hmemberLt,
        hmember]
  case closing => exact schema.closing_iff
  case opening => exact schema.opening_iff

theorem related_eq_filter (schema : DoctypeSchema) :
    schema.related = (schema.fields.filter fun field => field.kind.isTable).filterMap
      FieldSchema.effectiveOptions := by
  rw [related_eq, List.filterMap_filter]
  rfl

/-- The block of a doctype without line feeds in its parts ends with a line feed and has the lines
that its fields tell, and its interface leads to the doctypes that its table fields name. -/
theorem splitOn_block (h : schema.IsFlat) :
    schema.toInterface.block.toList.getLast? = some '\n' ∧
      (∃ lines, schema.toInterface.block.toList.splitOn '\n' = lines.map String.toList ++ [[]] ∧
        schema.IsWritten lines) ∧
      schema.related = (schema.fields.filter fun field => field.kind.isTable).filterMap
        FieldSchema.effectiveOptions := by
  refine ⟨?_, ⟨schema.blockLines, ?_, schema.isWritten_blockLines⟩, schema.related_eq_filter⟩
  · rw [toList_block, writtenLines, ← List.cons_append, ← List.cons_append, List.flatten_append,
      List.getLast?_append]
    rfl
  · exact splitOn_join_lines h.lineFeed_notMem_blockLines

/-- A child doctype with a field that is layout only, a choice and rows of another doctype. -/
def sheetSchema : DoctypeSchema :=
  ⟨"S", "1", true, [⟨"a", "Section Break", "", none, false⟩,
    ⟨"k", "Select", "K", some "x\ny", false⟩, ⟨"r", "Table", "R", some "B C", true⟩]⟩

theorem sheet_lines :
    sheetSchema.IsFlat ∧
      (∃ lines : List String,
        sheetSchema.toInterface.block.toList.splitOn '\n' = lines.map String.toList ++ [[]] ∧
        lines.length = 7 ∧ lines[3]? = some "  k?: 'x' | 'y';" ∧
        lines[4]? = some "  /** R: Table (B C) */" ∧ lines[6]? = some "\x7d") ∧
      sheetSchema.related = ["B C"] := by
  have hflat : sheetSchema.IsFlat := by decide
  obtain ⟨-, ⟨lines, hlines, hwritten⟩, hrelated⟩ := splitOn_block hflat
  have hshown : sheetSchema.shownFields = sheetSchema.fields.tail := by decide
  have hchoice := hwritten.fields 0 _ (by rw [hshown]; rfl)
  have hrows := hwritten.fields 1 _ (by rw [hshown]; rfl)
  have hclosing := hwritten.closing 6
  have hlength := hwritten.length
  rw [hshown] at hclosing hlength
  exact ⟨hflat, ⟨lines, hlines, hlength, hchoice.2, hrows.1, hclosing.2 rfl⟩, hrelated⟩

end DoctypeSchema

end DoctypeInterfaces
