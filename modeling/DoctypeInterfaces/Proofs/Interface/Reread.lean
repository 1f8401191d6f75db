import DoctypeInterfaces.Proofs.Interface.RoundTrip

namespace DoctypeInterfaces

open Text

/-- Whether the block of an interface is recovered as another interface, or as none, wherever it
stands. -/
def Interface.RereadAs (interface : Interface) (found : Option Interface) : Prop :=
  ∀ (set : InterfaceSet) (rest : List Char),
    recoverLines set (lines (interface.block.toList ++ rest)) =
      recoverLines (set.insertAll found.toList) (lines rest)

def Interface.IsContained (interface : Interface) : Prop :=
  ∃ found, interface.RereadAs found ∧ ∀ other ∈ found, other.name = interface.name

theorem Interface.IsDelimited.rereadAs {interface : Interface} (h : interface.IsDelimited) :
    interface.RereadAs (some interface) := by
  intro set rest
  exact h.recoverLines set rest

theorem Interface.IsDelimited.isContained {interface : Interface} (h : interface.IsDelimited) :
    interface.IsContained := by
  refine ⟨some interface, h.rereadAs, ?_⟩
  intro other hother
  rw [Option.some.inj hother]

section Names

variable {s rest name : List Char}

theorem of_dropBlanks?_eq_some (h : dropBlanks? s = some rest) :
    ∃ c tail, s = c :: tail ∧ isBlank c = true := by
  cases s with
  | nil => cases h
  | cons c tail =>
    rw [dropBlanks?] at h
    split at h
    · next hc => exact ⟨c, tail, rfl, hc⟩
    · cases h

theorem dropBlanks?_spaces : dropBlanks? (' ' :: ' ' :: s) = dropBlanks? (' ' :: s) := by
  have hspace : isBlank ' ' = true := by decide
  rw [dropBlanks?, dropBlanks?, if_pos hspace, if_pos hspace, List.dropWhile_cons_of_pos hspace]

theorem takeWhile_append_of_blank {c : Char} (hname : ∀ d ∈ name, isBlank d = false)
    (hc : isBlank c = true) : (name ++ c :: rest).takeWhile (fun d => !isBlank d) = name := by
  rw [List.takeWhile_append_of_pos fun d hd => by simp [hname d hd]]
  simp [hc]

variable {schema : DoctypeSchema}

theorem not_isBlank_of_mem_interfaceName :
    ∀ c ∈ schema.interfaceName.toList, isBlank c = false := by
  intro c hc
  rw [DoctypeSchema.interfaceName, toList_stripBlanks, List.mem_filter] at hc
  simpa using hc.2

theorem dropStart?_baseName (schema : DoctypeSchema) (rest : List Char) :
    dropStart? "extends".toList (schema.baseName.toList ++ rest) = none := by
  rw [DoctypeSchema.baseName]
  split <;> rfl

/-- Without a name, the word after which a declaration goes on is taken for the name, and nothing
goes on after it. -/
theorem declaredName?_of_no_name (hnone : schema.interfaceName.toList = []) :
    declaredName? schema.declarationLine.toList = none := by
  obtain ⟨hextends, hextendsWord⟩ := extends_word
  obtain ⟨hbase, hbaseWord⟩ := baseName_word schema
  have hstart := dropStart?_baseName schema
  rw [declaredName?, toList_declarationLine, hnone, dropStart?_append]
  generalize "extends".toList = word at hextends hextendsWord hstart ⊢
  generalize schema.baseName.toList = base at hbase hbaseWord hstart ⊢
  simp only [Option.bind_eq_bind, Option.bind_some, List.nil_append, dropBlanks?_spaces,
    dropBlanks?_word hextends hextendsWord, word?_append hextends hextendsWord,
    dropBlanks?_word hbase hbaseWord, hstart, Option.bind_none]

theorem eq_of_declaredName?_declarationLine
    (h : declaredName? schema.declarationLine.toList = some name) :
    name = schema.interfaceName.toList := by
  have hblank : ∀ c ∈ schema.interfaceName.toList, isBlank c = false :=
    not_isBlank_of_mem_interfaceName
  cases hname : schema.interfaceName.toList with
  | nil =>
    rw [declaredName?_of_no_name hname] at h
    cases h
  | cons c tail =>
    obtain ⟨spaced, named, after, _, _, hspaced, hnamed, hword, hafter, _⟩ :=
      exists_of_declaredName? h
    have hline := eq_append_of_dropStart? hspaced
    rw [toList_declarationLine, hname] at hline
    obtain rfl := List.append_cancel_left hline
    rw [hname] at hblank
    have hc : isBlank c = false := hblank c List.mem_cons_self
    rw [List.cons_append, dropBlanks?_space hc, ← List.cons_append] at hnamed
    obtain ⟨hsplit, _, hchars⟩ := of_word?_eq_some hword
    obtain ⟨d, rest, rfl, hd⟩ := of_dropBlanks?_eq_some hafter
    have hword' : ∀ e ∈ name, isBlank e = false := by
      intro e he
      exact isBlank_eq_false_of_isWordChar (hchars e he)
    have hspace : isBlank ' ' = true := by decide
    -- Neither name holds a blank, and a blank follows both.
    have htake := congrArg (List.takeWhile fun d => !isBlank d)
      ((Option.some.inj hnamed).trans hsplit)
    rw [takeWhile_append_of_blank hblank hspace, takeWhile_append_of_blank hword' hd] at htake
    exact htake.symm

end Names

section Passing

variable {schema : DoctypeSchema}

theorem markerTime?_chomp_of_head_ne {c : Char} {tail : List Char} (h : c ≠ '/') :
    markerTime? (chomp (c :: tail)) = none := by
  cases htime : markerTime? (chomp (c :: tail)) with
  | none => rfl
  | some time =>
    obtain ⟨hline, -, -⟩ := markerTime?_eq_some_iff.1 htime
    obtain ⟨ending, hending⟩ := chomp_isPrefix (c :: tail)
    have hhead : (markerStart.toList ++ time ++ ending).head? = some c := by
      rw [← hline, hending]
      rfl
    exact absurd (Option.some.inj hhead).symm h

theorem markerTime?_of_mem_memberLines :
    ∀ l ∈ schema.memberLines, markerTime? (chomp l) = none := by
  intro l hl
  obtain ⟨line, hline, rfl⟩ := List.mem_map.1 hl
  obtain ⟨m, -, hm⟩ := List.mem_flatMap.1 hline
  simp only [InterfaceMember.lines, List.mem_cons, List.not_mem_nil, or_false] at hm
  have hindent : memberIndent.toList = [' ', ' '] := rfl
  rcases hm with rfl | rfl
  · rw [String.toList_append, hindent]
    exact markerTime?_chomp_of_head_ne (by decide)
  · rw [String.toList_append, hindent]
    exact markerTime?_chomp_of_head_ne (by decide)

theorem markerTime?_declarationLine (schema : DoctypeSchema) :
    markerTime? (chomp (schema.declarationLine.toList ++ ['\n'])) = none := by
  rw [toList_declarationLine]
  exact markerTime?_chomp_of_head_ne (by decide)

theorem markerTime?_of_mem_later_lines :
    ∀ l ∈ (schema.declarationLine.toList ++ ['\n']) :: (schema.memberLines ++ [['\x7d', '\n']]),
      markerTime? (chomp l) = none := by
  intro l hl
  rcases List.mem_cons.1 hl with hl | hl
  · rw [hl]
    exact markerTime?_declarationLine schema
  rcases List.mem_append.1 hl with hl | hl
  · exact markerTime?_of_mem_memberLines l hl
  · rw [List.mem_singleton.1 hl]
    exact markerTime?_chomp_of_head_ne (by decide)

theorem DoctypeSchema.IsFlat.isContained (h : schema.IsFlat) :
    schema.toInterface.IsContained := by
  cases hheader : blockHeader? ((markerLine schema.modified).toList ++ ['\n'])
      (schema.declarationLine.toList ++ ['\n']) with
  | none =>
    -- No later line of the block is a marker, so the search goes on behind the block.
    refine ⟨none, ?_, by simp⟩
    intro set rest
    rw [schema.toList_block, lines_flatten_append h.isLine, writtenLines, List.cons_append,
      List.cons_append, recoverLines_of_no_header hheader]
    exact recoverLines_append_of_no_marker markerTime?_of_mem_later_lines
  | some header =>
    obtain ⟨time, name⟩ := header
    refine ⟨_, (h.isDelimited hheader).rereadAs, ?_⟩
    intro other hother
    obtain ⟨-, hname⟩ := of_blockHeader?_eq_some hheader
    have hend : schema.declarationLine.toList.getLast? ≠ some '\r' := by
      rw [getLast?_declarationLine]
      decide
    rw [chomp_line hend] at hname
    rw [← Option.some.inj hother, eq_of_declaredName?_declarationLine hname]
    exact String.ofList_toList

end Passing

section Selecting

variable {keep : Interface → Bool} {interfaces : List Interface}

/-- What is recovered from contained blocks has no new name, and includes those that are selected
and delimited. -/
theorem exists_recovered (hall : ∀ interface ∈ interfaces, interface.IsContained)
    (hkeep : ∀ interface ∈ interfaces, keep interface = true → interface.IsDelimited) :
    ∃ found : List Interface,
      (∀ set, recoverLines set (lines (interfaces.flatMap fun interface =>
        '\n' :: interface.block.toList)) = set.insertAll found) ∧
      (found.map Interface.name).Sublist (interfaces.map Interface.name) ∧
      (interfaces.filter keep).Sublist found := by
  induction interfaces with
  | nil =>
    refine ⟨[], ?_, .slnil, .slnil⟩
    intro set
    exact recoverLines_nil
  | cons first rest ih =>
    obtain ⟨found, hfound, hnames, hselected⟩ :=
      ih (fun i hi => hall i (List.mem_cons_of_mem _ hi))
        fun i hi => hkeep i (List.mem_cons_of_mem _ hi)
    have hblocks (set : InterfaceSet) (read : Option Interface) (hread : first.RereadAs read) :
        recoverLines set (lines ((first :: rest).flatMap fun interface =>
          '\n' :: interface.block.toList)) = set.insertAll (read.toList ++ found) := by
      rw [List.flatMap_cons, List.cons_append, recoverLines_lines_lineFeed, hread, hfound,
        InterfaceSet.insertAll_append]
    cases hfirst : keep first with
    | true =>
      have hdelimited := hkeep first List.mem_cons_self hfirst
      refine ⟨first :: found, fun set => hblocks set _ hdelimited.rereadAs, hnames.cons_cons _, ?_⟩
      rw [List.filter_cons_of_pos hfirst]
      exact hselected.cons_cons first
    | false =>
      obtain ⟨read, hread, hname⟩ := hall first List.mem_cons_self
      rw [List.filter_cons_of_neg (by simp [hfirst])]
      cases read with
      | none => exact ⟨found, fun set => hblocks set _ hread, hnames.cons _, hselected⟩
      | some other =>
        refine ⟨other :: found, fun set => hblocks set _ hread, ?_, hselected.cons other⟩
        rw [List.map_cons, List.map_cons, hname other rfl]
        exact hnames.cons_cons _

/-- Selected interfaces whose blocks are delimited are recovered from an output in their order,
whatever the other ones are, as long as their blocks are contained. -/
theorem InterfaceSet.filter_sublist_ofOutput_render {set : InterfaceSet}
    (hall : ∀ interface ∈ set.toList, interface.IsContained)
    (hkeep : ∀ interface ∈ set.toList, keep interface = true → interface.IsDelimited) :
    (set.toList.filter keep).Sublist (ofOutput set.render).toList := by
  obtain ⟨found, hfound, hnames, hselected⟩ := exists_recovered hall hkeep
  have hnew : ∀ interface ∈ found, interface.name ∉ empty.names := by simp
  rw [ofOutput, toList_render, recoverLines_baseInterfaces, hfound,
    toList_insertAll_of_new (hnames.nodup set.nodup) hnew]
  exact hselected

end Selecting

end DoctypeInterfaces
