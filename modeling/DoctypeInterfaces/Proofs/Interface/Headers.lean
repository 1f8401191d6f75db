import DoctypeInterfaces.Proofs.Interface.Reread
import Mathlib.Data.List.Perm.Basic

namespace DoctypeInterfaces

open Text

/-- The names in the headers that stand in lines. -/
def headerNames : List (List Char) → List String
  | marker :: declaration :: lines =>
    ((blockHeader? marker declaration).map fun header => String.ofList header.2).toList ++
      headerNames (declaration :: lines)
  | _ => []

def Interface.headers (interface : Interface) : List String :=
  headerNames (lines interface.block.toList)

/-- The names in the headers of a block that stand behind its first one. -/
def Interface.nestedNames (interface : Interface) : List String :=
  interface.headers.tail

section Lines

variable {line marker declaration time name : List Char} {front rest : List (List Char)}

@[simp] theorem headerNames_nil : headerNames [] = [] := rfl

@[simp] theorem headerNames_singleton : headerNames [line] = [] := rfl

theorem headerNames_of_header (h : blockHeader? marker declaration = some (time, name)) :
    headerNames (marker :: declaration :: rest) =
      String.ofList name :: headerNames (declaration :: rest) := by
  rw [headerNames, h]
  rfl

theorem headerNames_of_no_header (h : blockHeader? marker declaration = none) :
    headerNames (marker :: declaration :: rest) = headerNames (declaration :: rest) := by
  rw [headerNames, h]
  rfl

theorem headerNames_of_no_marker (h : markerTime? (chomp line) = none) :
    headerNames (line :: rest) = headerNames rest := by
  cases rest with
  | nil => rfl
  | cons declaration rest =>
    apply headerNames_of_no_header
    rw [blockHeader?, h]
    rfl

theorem headerNames_append_of_no_marker (h : ∀ l ∈ front, markerTime? (chomp l) = none) :
    headerNames (front ++ rest) = headerNames rest := by
  induction front with
  | nil => rfl
  | cons l front ih =>
    rw [List.cons_append, headerNames_of_no_marker (h l List.mem_cons_self)]
    exact ih fun l hl => h l (List.mem_cons_of_mem _ hl)

theorem headerNames_append (h : markerTime? (chomp line) = none) :
    headerNames (front ++ line :: rest) = headerNames (front ++ [line]) ++ headerNames rest := by
  induction front with
  | nil => exact headerNames_of_no_marker h
  | cons marker front ih =>
    obtain ⟨declaration, later, hlater⟩ := List.exists_cons_of_ne_nil
      (List.append_ne_nil_of_right_ne_nil front (List.cons_ne_nil line rest))
    obtain ⟨declaration', later', hlater'⟩ := List.exists_cons_of_ne_nil
      (List.append_ne_nil_of_right_ne_nil front (List.cons_ne_nil line []))
    have hsame : declaration' = declaration := by
      cases front <;> simp_all
    subst hsame
    rw [List.cons_append, List.cons_append, hlater, hlater', headerNames, headerNames, ← hlater,
      ← hlater', ih, List.append_assoc]

theorem markerTime?_of_closing (h : isClosingLine line = true) :
    markerTime? (chomp line) = none := by
  unfold isClosingLine at h
  split at h
  · exact markerTime?_chomp_of_head_ne (by decide)
  · exact markerTime?_chomp_of_head_ne (by decide)
  · exact markerTime?_chomp_of_head_ne (by decide)
  · cases h

theorem headerNames_lines_append {closing : List Char} (hline : ∀ l ∈ front ++ [closing], IsLine l)
    (hclosing : isClosingLine closing = true) (text : List Char) :
    headerNames (lines ((front ++ [closing]).flatten ++ text)) =
      headerNames (front ++ [closing]) ++ headerNames (lines text) := by
  rw [lines_flatten_append hline, List.append_assoc, List.singleton_append]
  exact headerNames_append (markerTime?_of_closing hclosing)

end Lines

/-- Whether the headers of a block are told by the block alone, and the first one, if there is one,
declares the interface. -/
structure Interface.IsHeaded (interface : Interface) : Prop where
  apart : ∀ text, headerNames (lines (interface.block.toList ++ text)) =
    interface.headers ++ headerNames (lines text)
  own : (interface.headers.take 1).Sublist [interface.name]

section Blocks

variable {interface : Interface} {schema : DoctypeSchema}

theorem Interface.headers_eq_append (interface : Interface) :
    interface.headers.take 1 ++ interface.nestedNames = interface.headers := by
  rw [nestedNames, ← List.drop_one, List.take_append_drop]

theorem Interface.headers_of_lines {front : List (List Char)} {closing : List Char}
    (hblock : interface.block.toList = (front ++ [closing]).flatten)
    (hline : ∀ l ∈ front ++ [closing], IsLine l) (hclosing : isClosingLine closing = true) :
    interface.headers = headerNames (front ++ [closing]) := by
  have hlines := headerNames_lines_append hline hclosing []
  rw [List.append_nil] at hlines
  rw [headers, hblock, hlines]
  exact List.append_nil _

theorem Interface.IsDelimited.isHeaded (h : interface.IsDelimited) : interface.IsHeaded := by
  obtain ⟨marker, declaration, inner, closing, hblock, hline, hheader, -, hclosing⟩ := h
  rw [← List.cons_append, ← List.cons_append] at hblock hline
  have hheaders := headers_of_lines hblock hline hclosing
  constructor
  case apart =>
    intro text
    rw [hheaders, hblock]
    exact headerNames_lines_append hline hclosing text
  case own =>
    rw [hheaders, List.cons_append, List.cons_append, headerNames_of_header hheader,
      String.ofList_toList]
    exact List.Sublist.refl _

theorem DoctypeSchema.toList_block_eq (schema : DoctypeSchema) :
    schema.toInterface.block.toList =
      ((((markerLine schema.modified).toList ++ ['\n']) ::
        (schema.declarationLine.toList ++ ['\n']) :: schema.memberLines) ++
          [['\x7d', '\n']]).flatten :=
  schema.toList_block

theorem DoctypeSchema.IsFlat.headers_sublist (h : schema.IsFlat) :
    schema.toInterface.headers.Sublist [schema.interfaceName] := by
  have hlater : headerNames ((schema.declarationLine.toList ++ ['\n']) ::
      (schema.memberLines ++ [['\x7d', '\n']])) = [] := by
    rw [← List.append_nil (_ :: _)]
    exact headerNames_append_of_no_marker markerTime?_of_mem_later_lines
  rw [Interface.headers_of_lines schema.toList_block_eq h.isLine rfl, List.cons_append,
    List.cons_append]
  cases hheader : blockHeader? ((markerLine schema.modified).toList ++ ['\n'])
      (schema.declarationLine.toList ++ ['\n']) with
  | none =>
    rw [headerNames_of_no_header hheader, hlater]
    exact List.nil_sublist _
  | some header =>
    obtain ⟨time, name⟩ := header
    obtain ⟨-, hname⟩ := of_blockHeader?_eq_some hheader
    have hend : schema.declarationLine.toList.getLast? ≠ some '\r' := by
      rw [getLast?_declarationLine]
      decide
    rw [chomp_line hend] at hname
    rw [headerNames_of_header hheader, hlater, eq_of_declaredName?_declarationLine hname,
      String.ofList_toList]

theorem DoctypeSchema.IsFlat.isHeaded (h : schema.IsFlat) : schema.toInterface.IsHeaded := by
  constructor
  case apart =>
    intro text
    rw [Interface.headers_of_lines schema.toList_block_eq h.isLine rfl, schema.toList_block_eq]
    exact headerNames_lines_append h.isLine rfl text
  case own => exact (List.take_sublist _ _).trans h.headers_sublist

theorem DoctypeSchema.IsFlat.nestedNames_eq_nil (h : schema.IsFlat) :
    schema.toInterface.nestedNames = [] := by
  have htail := h.headers_sublist.tail
  rw [List.tail_cons] at htail
  exact List.sublist_nil.1 htail

end Blocks

namespace InterfaceSet

variable {set : InterfaceSet}

theorem headerNames_blocks {interfaces : List Interface}
    (h : ∀ interface ∈ interfaces, interface.IsHeaded) :
    headerNames (lines (interfaces.flatMap fun interface => '\n' :: interface.block.toList)) =
      interfaces.flatMap Interface.headers := by
  induction interfaces with
  | nil => rfl
  | cons first rest ih =>
    have hline : IsLine ['\n'] := ⟨[], List.not_mem_nil, rfl⟩
    have hempty : markerTime? (chomp ['\n']) = none := by decide
    have hlines (text : List Char) : lines ('\n' :: text) = ['\n'] :: lines text :=
      hline.lines_append
    rw [List.flatMap_cons, List.cons_append, hlines, headerNames_of_no_marker hempty,
      (h first List.mem_cons_self).apart, List.flatMap_cons,
      ih fun i hi => h i (List.mem_cons_of_mem _ hi)]

theorem headerNames_render (h : ∀ interface ∈ set.toList, interface.IsHeaded) :
    headerNames (lines set.render.toList) = set.toList.flatMap Interface.headers := by
  rw [toList_render, lines_append getLast?_baseInterfaces, headerNames_append_of_no_marker,
    headerNames_blocks h]
  intro l hl
  apply markerTime?_of_notMem
  intro hslash
  exact slash_notMem_baseInterfaces (mem_of_mem_lines hl (mem_of_mem_chomp hslash))

theorem flatMap_take_sublist_names (h : ∀ interface ∈ set.toList, interface.IsHeaded) :
    (set.toList.flatMap fun interface => interface.headers.take 1).Sublist set.names := by
  rw [names]
  generalize set.toList = interfaces at h
  induction interfaces with
  | nil => exact .slnil
  | cons first rest ih =>
    have hfirst := (h first List.mem_cons_self).own
    have hrest := ih fun i hi => h i (List.mem_cons_of_mem _ hi)
    exact hfirst.append hrest

/-- Every interface has one header of its own at most; the other ones are nested in blocks. -/
theorem headerNames_render_perm (h : ∀ interface ∈ set.toList, interface.IsHeaded) :
    ∃ own : List String, own.Sublist set.names ∧
      (headerNames (lines set.render.toList)).Perm
        (own ++ set.toList.flatMap Interface.nestedNames) := by
  refine ⟨_, flatMap_take_sublist_names h, ?_⟩
  rw [headerNames_render h]
  have hsplit := List.flatMap_append_perm set.toList (fun interface => interface.headers.take 1)
    Interface.nestedNames
  simp only [Interface.headers_eq_append] at hsplit
  exact hsplit.symm

end InterfaceSet

end DoctypeInterfaces
