import DoctypeInterfaces.Interface.Recover
import DoctypeInterfaces.Proofs.Interface.Set
import DoctypeInterfaces.Proofs.Text.Lines
import Mathlib.Data.List.TakeWhile

namespace DoctypeInterfaces

open Text

section Steps

variable {set : InterfaceSet} {marker declaration time name line : List Char}
  {lines body rest : List (List Char)}

@[simp] theorem recoverLines_nil : recoverLines set [] = set := by
  rw [recoverLines]
  simp

@[simp] theorem recoverLines_singleton : recoverLines set [line] = set := by
  rw [recoverLines]
  simp

theorem recoverLines_of_no_header (h : blockHeader? marker declaration = none) :
    recoverLines set (marker :: declaration :: lines) =
      recoverLines set (declaration :: lines) := by
  rw [recoverLines, h]

theorem recoverLines_of_unclosed (h : splitAtClosing? lines = none) :
    recoverLines set (marker :: declaration :: lines) =
      recoverLines set (declaration :: lines) := by
  rw [recoverLines]
  split
  · rfl
  · split
    · rfl
    · next hsome => simp [h] at hsome

theorem recoverLines_of_block (hheader : blockHeader? marker declaration = some (time, name))
    (hclosing : splitAtClosing? lines = some (body, rest)) :
    recoverLines set (marker :: declaration :: lines) =
      recoverLines (set.insert (interfaceOfLines time name (marker :: declaration :: body)))
        rest := by
  rw [recoverLines, hheader]
  simp only
  split
  · next hnone => simp [hclosing] at hnone
  · next body' rest' hsome =>
    rw [hclosing] at hsome
    obtain ⟨rfl, rfl⟩ := Prod.mk.inj (Option.some.inj hsome)
    rfl

theorem recoverLines_of_no_marker (h : markerTime? (chomp line) = none) :
    recoverLines set (line :: rest) = recoverLines set rest := by
  cases rest with
  | nil => rw [recoverLines_singleton, recoverLines_nil]
  | cons declaration rest =>
    apply recoverLines_of_no_header
    rw [blockHeader?, h]
    rfl

theorem recoverLines_append_of_no_marker {front : List (List Char)}
    (h : ∀ l ∈ front, markerTime? (chomp l) = none) :
    recoverLines set (front ++ rest) = recoverLines set rest := by
  induction front with
  | nil => rfl
  | cons l front ih =>
    rw [List.cons_append, recoverLines_of_no_marker (h l List.mem_cons_self)]
    exact ih fun l hl => h l (List.mem_cons_of_mem _ hl)

theorem splitAtClosing?_append {closing : List Char}
    (hbody : ∀ l ∈ body, isClosingLine l = false) (hclosing : isClosingLine closing = true) :
    splitAtClosing? (body ++ closing :: rest) = some (body ++ [closing], rest) := by
  have hdrop : (body ++ closing :: rest).dropWhile (fun line => !isClosingLine line) =
      closing :: rest := by
    rw [List.dropWhile_append_of_pos fun l hl => by simp [hbody l hl]]
    simp [hclosing]
  have htake : (body ++ closing :: rest).takeWhile (fun line => !isClosingLine line) = body := by
    rw [List.takeWhile_append_of_pos fun l hl => by simp [hbody l hl]]
    simp [hclosing]
  rw [splitAtClosing?, hdrop, htake]

theorem exists_of_splitAtClosing? (h : splitAtClosing? lines = some (body, rest)) :
    ∃ inner closing, body = inner ++ [closing] ∧ lines = inner ++ closing :: rest ∧
      (∀ l ∈ inner, isClosingLine l = false) ∧ isClosingLine closing = true := by
  have hlines := List.takeWhile_append_dropWhile
    (p := fun line => !isClosingLine line) (l := lines)
  unfold splitAtClosing? at h
  split at h
  · cases h
  · next closing later hdrop =>
    obtain ⟨rfl, rfl⟩ := Prod.mk.inj (Option.some.inj h)
    have hne : lines.dropWhile (fun line => !isClosingLine line) ≠ [] := by
      rw [hdrop]
      exact List.cons_ne_nil _ _
    have hhead := List.head_dropWhile_not (fun line => !isClosingLine line) hne
    rw [hdrop] at hlines
    refine ⟨_, closing, rfl, hlines.symm, ?_, by simpa [hdrop] using hhead⟩
    intro l hl
    simpa using List.mem_takeWhile_imp hl

end Steps

/-- Whether the block of an interface is told by its own lines: they end with line feeds, the first
two tell the time and the name, and the last one is the first that closes the block. -/
def Interface.IsDelimited (interface : Interface) : Prop :=
  ∃ marker declaration inner closing,
    interface.block.toList = (marker :: declaration :: (inner ++ [closing])).flatten ∧
    (∀ l ∈ marker :: declaration :: (inner ++ [closing]), IsLine l) ∧
    blockHeader? marker declaration =
      some (interface.lastUpdated.toList, interface.name.toList) ∧
    (∀ l ∈ inner, isClosingLine l = false) ∧ isClosingLine closing = true

theorem endLine_of_isLine_getLast (ls : List (List Char)) {l : List Char} (h : IsLine l) :
    endLine (ls ++ [l]).flatten = (ls ++ [l]).flatten := by
  obtain ⟨r, -, rfl⟩ := h
  rw [endLine, if_pos]
  simp

theorem Interface.IsDelimited.recoverLines {interface : Interface} (h : interface.IsDelimited)
    (set : InterfaceSet) (rest : List Char) :
    recoverLines set (lines (interface.block.toList ++ rest)) =
      recoverLines (set.insert interface) (lines rest) := by
  obtain ⟨marker, declaration, inner, closing, hblock, hlines, hheader, hinner, hclosing⟩ := h
  have hclosingLine : IsLine closing := hlines closing (by simp)
  have hend : endLine (marker :: declaration :: (inner ++ [closing])).flatten =
      interface.block.toList := by
    rw [hblock]
    exact endLine_of_isLine_getLast (marker :: declaration :: inner) hclosingLine
  have hinterface : interfaceOfLines interface.lastUpdated.toList interface.name.toList
      (marker :: declaration :: (inner ++ [closing])) = interface := by
    rw [interfaceOfLines, hend]
    simp
  rw [hblock, lines_flatten_append hlines, List.cons_append, List.cons_append, List.append_assoc,
    List.singleton_append,
    recoverLines_of_block hheader (splitAtClosing?_append hinner hclosing), hinterface]

theorem toList_intercalate_lineFeed (s : String) (l : List String) :
    (String.intercalate "\n" (s :: l)).toList =
      s.toList ++ l.flatMap fun t => '\n' :: t.toList := by
  induction l generalizing s with
  | nil => simp
  | cons t l ih =>
    rw [String.intercalate_cons_cons, String.toList_append, String.toList_append, ih]
    simp

theorem recoverLines_lines_lineFeed (set : InterfaceSet) (s : List Char) :
    recoverLines set (lines ('\n' :: s)) = recoverLines set (lines s) := by
  have hline : IsLine ['\n'] := ⟨[], List.not_mem_nil, rfl⟩
  have hlines : lines ('\n' :: s) = ['\n'] :: lines s := hline.lines_append
  rw [hlines, recoverLines_of_no_marker (by decide)]

theorem markerTime?_of_notMem {line : List Char} (h : '/' ∉ line) : markerTime? line = none := by
  have hslash : '/' ∈ markerStart.toList := by decide
  have hdrop : dropStart? markerStart.toList line = none := by
    rw [dropStart?, if_neg]
    intro hprefix
    exact h ((List.isPrefixOf_iff_prefix.1 hprefix).subset hslash)
  rw [markerTime?, hdrop]
  rfl

theorem notMem_toList_append {c : Char} {s t : String} (hs : c ∉ s.toList) (ht : c ∉ t.toList) :
    c ∉ (s ++ t).toList := by
  rw [String.toList_append, List.mem_append]
  exact fun h => h.elim hs ht

theorem getLast?_toList_append {c : Char} {s t : String} (h : t.toList.getLast? = some c) :
    (s ++ t).toList.getLast? = some c := by
  rw [String.toList_append, List.getLast?_append, h, Option.some_or]

-- The kernel goes through one literal at a time: a text is decoded in quadratic time.
theorem slash_notMem_baseInterfaces : '/' ∉ baseInterfaces.toList := by
  unfold baseInterfaces
  apply notMem_toList_append
  · apply notMem_toList_append
    · apply notMem_toList_append
      · decide +kernel
      · decide +kernel
    · decide +kernel
  · decide +kernel

theorem getLast?_baseInterfaces : baseInterfaces.toList.getLast? = some '\n' := by
  unfold baseInterfaces
  apply getLast?_toList_append
  decide

theorem recoverLines_baseInterfaces (set : InterfaceSet) (s : List Char) :
    recoverLines set (lines (baseInterfaces.toList ++ s)) = recoverLines set (lines s) := by
  rw [lines_append getLast?_baseInterfaces]
  apply recoverLines_append_of_no_marker
  intro l hl
  apply markerTime?_of_notMem
  intro hslash
  exact slash_notMem_baseInterfaces (mem_of_mem_lines hl (mem_of_mem_chomp hslash))

theorem recoverLines_blocks {interfaces : List Interface}
    (h : ∀ interface ∈ interfaces, interface.IsDelimited) (set : InterfaceSet) :
    recoverLines set (lines (interfaces.flatMap fun interface =>
      '\n' :: interface.block.toList)) = set.insertAll interfaces := by
  induction interfaces generalizing set with
  | nil =>
    have hnil : lines [] = [] := rfl
    rw [List.flatMap_nil, hnil, recoverLines_nil, InterfaceSet.insertAll_nil]
  | cons first rest ih =>
    rw [List.flatMap_cons, List.cons_append, recoverLines_lines_lineFeed,
      (h first List.mem_cons_self).recoverLines, InterfaceSet.insertAll_cons]
    exact ih (fun i hi => h i (List.mem_cons_of_mem _ hi)) _

namespace InterfaceSet

theorem toList_render (set : InterfaceSet) :
    set.render.toList = baseInterfaces.toList ++
      set.toList.flatMap fun interface => '\n' :: interface.block.toList := by
  rw [render, toList_intercalate_lineFeed, List.flatMap_map]

theorem ofOutput_render {set : InterfaceSet}
    (h : ∀ interface ∈ set.toList, interface.IsDelimited) : ofOutput set.render = set := by
  have hnew : ∀ interface ∈ set.toList, interface.name ∉ empty.names := by simp
  rw [ofOutput, toList_render, recoverLines_baseInterfaces, recoverLines_blocks h]
  exact eq_of_toList_eq (toList_insertAll_of_new set.nodup hnew)

end InterfaceSet

section Recovered

variable {set : InterfaceSet} {interface : Interface}

theorem exists_endLine_closing {closing : List Char} (h : isClosingLine closing = true) :
    ∃ closing', IsLine closing' ∧ isClosingLine closing' = true ∧
      ∀ s, endLine (s ++ closing) = s ++ closing' := by
  unfold isClosingLine at h
  split at h
  · refine ⟨['\x7d', '\n'], ⟨['\x7d'], by decide, rfl⟩, rfl, fun s => ?_⟩
    rw [endLine, if_neg (by simp)]
    simp
  · refine ⟨['\x7d', '\n'], ⟨['\x7d'], by decide, rfl⟩, rfl, fun s => ?_⟩
    rw [endLine, if_pos (by simp)]
  · refine ⟨['\x7d', '\r', '\n'], ⟨['\x7d', '\r'], by decide, rfl⟩, rfl, fun s => ?_⟩
    rw [endLine, if_pos (by simp)]
  · cases h

theorem isDelimited_interfaceOfLines {marker declaration time name : List Char}
    {lines body rest : List (List Char)} (hlined : Lined (marker :: declaration :: lines))
    (hheader : blockHeader? marker declaration = some (time, name))
    (hclosing : splitAtClosing? lines = some (body, rest)) :
    (interfaceOfLines time name (marker :: declaration :: body)).IsDelimited := by
  obtain ⟨inner, closing, rfl, rfl, hinner, hclosed⟩ := exists_of_splitAtClosing? hclosing
  obtain ⟨closing', hline, hclosed', hend⟩ := exists_endLine_closing hclosed
  have hlined' : Lined ((marker :: declaration :: inner) ++ closing :: rest) := hlined
  have hfront := hlined'.isLine_of_append (List.cons_ne_nil _ _)
  refine ⟨marker, declaration, inner, closing', ?_, ?_, ?_, hinner, hclosed'⟩
  · have hflatten := hend (marker :: declaration :: inner).flatten
    simpa [interfaceOfLines] using hflatten
  · intro l hl
    simp only [List.mem_cons, List.mem_append, List.not_mem_nil, or_false] at hl hfront
    rcases hl with hl | hl | hl | rfl
    · exact hfront l (.inl hl)
    · exact hfront l (.inr (.inl hl))
    · exact hfront l (.inr (.inr hl))
    · exact hline
  · simpa [interfaceOfLines] using hheader

theorem isDelimited_of_mem_recoverLines {lines : List (List Char)} (hlined : Lined lines)
    (hset : ∀ interface ∈ set.toList, interface.IsDelimited) :
    ∀ interface ∈ (recoverLines set lines).toList, interface.IsDelimited := by
  induction set, lines using recoverLines.induct with
  | case1 set marker declaration lines hheader ih =>
    rw [recoverLines_of_no_header hheader]
    exact ih hlined.tail hset
  | case2 set marker declaration lines time name hheader hopen ih =>
    rw [recoverLines_of_unclosed hopen]
    exact ih hlined.tail hset
  | case3 set marker declaration lines time name hheader body rest hclosing hlt ih =>
    rw [recoverLines_of_block hheader hclosing]
    obtain ⟨inner, closing, -, hlines, -, -⟩ := exists_of_splitAtClosing? hclosing
    have hrest : Lined rest := by
      rw [hlines] at hlined
      exact hlined.tail.tail.of_append.tail
    apply ih hrest
    intro interface hinterface
    rcases InterfaceSet.mem_of_mem_insert hinterface with rfl | hinterface
    · exact isDelimited_interfaceOfLines hlined hheader hclosing
    · exact hset interface hinterface
  | case4 set lines hshort =>
    have hlines : recoverLines set lines = set := by
      match lines with
      | [] => exact recoverLines_nil
      | [line] => exact recoverLines_singleton
      | marker :: declaration :: rest => exact absurd rfl (hshort marker declaration rest)
    rw [hlines]
    exact hset

theorem isDelimited_of_mem_ofOutput {output : String} :
    ∀ interface ∈ (InterfaceSet.ofOutput output).toList, interface.IsDelimited :=
  isDelimited_of_mem_recoverLines (lined_lines output.toList) (by simp)

end Recovered

end DoctypeInterfaces
