import DoctypeInterfaces.Proofs.Interface.Block

namespace DoctypeInterfaces

open Text

section Headers

variable {start line s rest time name : List Char}

theorem eq_append_of_dropStart? (h : dropStart? start s = some rest) : s = start ++ rest := by
  rw [dropStart?] at h
  split at h
  · next hstart =>
    obtain ⟨after, rfl⟩ := List.isPrefixOf_iff_prefix.1 hstart
    rw [List.drop_left] at h
    rw [Option.some.inj h]
  · cases h

theorem markerTime?_eq_some_iff :
    markerTime? line = some time ↔
      line = markerStart.toList ++ time ∧ time ≠ [] ∧ '\n' ∉ time := by
  constructor
  · intro h
    rw [markerTime?] at h
    obtain ⟨after, hafter, h⟩ := Option.bind_eq_some_iff.1 h
    split at h
    · cases h
    · next hgood =>
      obtain rfl := Option.some.inj h
      simp only [Bool.or_eq_true, decide_eq_true_eq, List.contains_iff_mem, not_or] at hgood
      exact ⟨eq_append_of_dropStart? hafter, hgood⟩
  · intro h
    obtain ⟨rfl, hne, hflat⟩ := h
    rw [markerTime?, dropStart?_append]
    change (if (time = [] || time.contains '\n') = true then none else some time) = _
    rw [if_neg (by simp [hne, hflat])]

theorem of_word?_eq_some (h : word? s = some (name, rest)) :
    s = name ++ rest ∧ name ≠ [] ∧ ∀ c ∈ name, isWordChar c = true := by
  cases s with
  | nil => cases h
  | cons c tail =>
    rw [word?] at h
    split at h
    · next hc =>
      obtain ⟨rfl, rfl⟩ := Prod.mk.inj (Option.some.inj h)
      refine ⟨List.takeWhile_append_dropWhile.symm, by simp [hc], ?_⟩
      intro d hd
      exact List.mem_takeWhile_imp hd
    · cases h

theorem exists_of_declaredName? (h : declaredName? line = some name) :
    ∃ spaced named after next base, dropStart? "export interface".toList line = some spaced ∧
      dropBlanks? spaced = some named ∧ word? named = some (name, after) ∧
      dropBlanks? after = some next ∧ dropStart? "extends".toList next = some base := by
  rw [declaredName?] at h
  obtain ⟨spaced, hspaced, h⟩ := Option.bind_eq_some_iff.1 h
  obtain ⟨named, hnamed, h⟩ := Option.bind_eq_some_iff.1 h
  obtain ⟨⟨word, after⟩, hword, h⟩ := Option.bind_eq_some_iff.1 h
  obtain ⟨next, hnext, h⟩ := Option.bind_eq_some_iff.1 h
  obtain ⟨base, hbase, h⟩ := Option.bind_eq_some_iff.1 h
  obtain ⟨_, _, h⟩ := Option.bind_eq_some_iff.1 h
  obtain ⟨⟨_, _⟩, _, h⟩ := Option.bind_eq_some_iff.1 h
  obtain ⟨_, _, h⟩ := Option.bind_eq_some_iff.1 h
  split at h
  · obtain rfl := Option.some.inj h
    exact ⟨spaced, named, after, next, base, hspaced, hnamed, hword, hnext, hbase⟩
  · cases h

theorem word_of_declaredName? (h : declaredName? line = some name) :
    name ≠ [] ∧ ∀ c ∈ name, isWordChar c = true := by
  obtain ⟨_, _, _, _, _, _, _, hword, _⟩ := exists_of_declaredName? h
  exact (of_word?_eq_some hword).2

theorem of_blockHeader?_eq_some {marker declaration : List Char}
    (h : blockHeader? marker declaration = some (time, name)) :
    markerTime? (chomp marker) = some time ∧ declaredName? (chomp declaration) = some name := by
  rw [blockHeader?] at h
  obtain ⟨time', htime, h⟩ := Option.bind_eq_some_iff.1 h
  obtain ⟨name', hname, h⟩ := Option.bind_eq_some_iff.1 h
  obtain ⟨rfl, rfl⟩ := Prod.mk.inj (Option.some.inj h)
  exact ⟨htime, hname⟩

end Headers

namespace InterfaceSet

theorem ofOutput_render_eq_iff {set : InterfaceSet} :
    ofOutput set.render = set ↔ ∀ interface ∈ set.toList, interface.IsDelimited := by
  constructor
  · intro h
    rw [← h]
    exact isDelimited_of_mem_ofOutput
  · exact ofOutput_render

/-- What is recovered from a text is recovered again from what is rendered from it. -/
theorem ofOutput_render_ofOutput (output : String) :
    ofOutput (ofOutput output).render = ofOutput output ∧
      (ofOutput (ofOutput output).render).render = (ofOutput output).render := by
  have h : ofOutput (ofOutput output).render = ofOutput output :=
    ofOutput_render isDelimited_of_mem_ofOutput
  exact ⟨h, congrArg render h⟩

end InterfaceSet

namespace DoctypeSchema

variable {schema : DoctypeSchema}

theorem getLast?_modified_of_isDelimited (h : schema.toInterface.IsDelimited)
    (hflat : '\n' ∉ schema.modified.toList) : schema.modified.toList.getLast? ≠ some '\r' := by
  obtain ⟨marker, declaration, inner, closing, hblock, hlines, hheader, -, -⟩ := h
  obtain ⟨htime, -⟩ := of_blockHeader?_eq_some hheader
  have hmarker : IsLine ((markerLine schema.modified).toList ++ ['\n']) := by
    refine ⟨_, ?_, rfl⟩
    simp [markerLine, markerStart, hflat]
  have hfirst : marker = (markerLine schema.modified).toList ++ ['\n'] := by
    rw [schema.toList_block] at hblock
    exact ((hlines marker List.mem_cons_self).eq_of_append_eq hmarker hblock.symm)
  intro hlast
  -- The return would be taken for the end of the marker line, and the time would lack it.
  obtain ⟨front, hfront⟩ := List.getLast?_eq_some_iff.1 hlast
  have hchomp : chomp marker = markerStart.toList ++ front := by
    rw [hfirst, markerLine, String.toList_append, hfront]
    have happend : markerStart.toList ++ (front ++ ['\r']) ++ ['\n'] =
        (markerStart.toList ++ front) ++ ['\r', '\n'] := by simp
    rw [happend, chomp_append_return]
  obtain ⟨hwhole, -, -⟩ := markerTime?_eq_some_iff.1 htime
  rw [hchomp] at hwhole
  have hsame : front = schema.modified.toList := List.append_cancel_left hwhole
  rw [hfront] at hsame
  simp at hsame

/-- The interface of a doctype with flat fields is told by its block only if the doctype is
regular. -/
theorem isDelimited_iff (hfields : ∀ field ∈ schema.fields, field.IsFlat) :
    schema.toInterface.IsDelimited ↔ schema.IsRegular := by
  constructor
  · intro h
    obtain ⟨marker, declaration, -, -, -, -, hheader, -, -⟩ := id h
    obtain ⟨htime, hname⟩ := of_blockHeader?_eq_some hheader
    obtain ⟨-, hmodified, hflat⟩ := markerTime?_eq_some_iff.1 htime
    obtain ⟨hne, hword⟩ := word_of_declaredName? hname
    have hnameNe : schema.interfaceName ≠ "" := by
      intro hempty
      apply hne
      change schema.interfaceName.toList = []
      rw [hempty]
      rfl
    have hmodifiedNe : schema.modified ≠ "" := by
      intro hempty
      apply hmodified
      change schema.modified.toList = []
      rw [hempty]
      rfl
    exact ⟨hnameNe, hword, hmodifiedNe, hflat, getLast?_modified_of_isDelimited h hflat, hfields⟩
  · intro h
    exact h.isDelimited

end DoctypeSchema

namespace InterfaceSet

theorem mem_of_mem_ofList {interfaces : List Interface} {interface : Interface}
    (h : interface ∈ (ofList interfaces).toList) : interface ∈ interfaces := by
  have hset : interface ∈ (empty.insertAll interfaces).toList := h
  rcases mem_of_mem_insertAll hset with h | h
  · exact h
  · cases h

/-- The interfaces of doctypes are recovered from their output exactly if each of them has a name
that is a word, and a time that can stand at the end of a line. -/
theorem ofOutput_render_ofList_iff {schemas : List DoctypeSchema}
    (hfields : ∀ schema ∈ schemas, ∀ field ∈ schema.fields, field.IsFlat) :
    ofOutput (ofList (schemas.map DoctypeSchema.toInterface)).render =
        ofList (schemas.map DoctypeSchema.toInterface) ↔
      ∀ interface ∈ (ofList (schemas.map DoctypeSchema.toInterface)).toList,
        interface.name ≠ "" ∧ (∀ c ∈ interface.name.toList, isWordChar c = true) ∧
          interface.lastUpdated ≠ "" ∧ '\n' ∉ interface.lastUpdated.toList ∧
          interface.lastUpdated.toList.getLast? ≠ some '\r' := by
  rw [ofOutput_render_eq_iff]
  apply forall₂_congr
  intro interface hinterface
  obtain ⟨schema, hschema, rfl⟩ := List.mem_map.1 (mem_of_mem_ofList hinterface)
  have hflat := hfields schema hschema
  rw [schema.isDelimited_iff hflat]
  constructor
  · intro h
    exact ⟨h.name_ne, h.name_word, h.modified_ne, h.modified_flat, h.modified_end⟩
  · intro h
    obtain ⟨hname, hword, hmodified, hline, hend⟩ := h
    exact ⟨hname, hword, hmodified, hline, hend, hflat⟩

def noteSchema : DoctypeSchema :=
  ⟨"N", "1", false, [⟨"a", "Select", "", some "x\ny", false⟩]⟩

def returnSchema : DoctypeSchema :=
  ⟨"R", "1\r", false, []⟩

/-- The interface of the note is recovered from its output, but not along with the other one, the
time of which is taken for the end of its line. -/
theorem note_recovered_without_return :
    ofOutput (ofList ([noteSchema].map DoctypeSchema.toInterface)).render =
        ofList ([noteSchema].map DoctypeSchema.toInterface) ∧
      ofOutput (ofList ([noteSchema, returnSchema].map DoctypeSchema.toInterface)).render ≠
        ofList ([noteSchema, returnSchema].map DoctypeSchema.toInterface) := by
  constructor
  · apply (ofOutput_render_ofList_iff (by decide)).2
    intro interface hinterface
    have hnote : interface = noteSchema.toInterface :=
      List.mem_singleton.1 (mem_of_mem_ofList hinterface)
    rw [hnote]
    exact ⟨by decide, List.all_eq_true.1 (by decide), by decide, by decide, by decide⟩
  · intro hrecovered
    have hreturn : returnSchema.toInterface ∈
        (ofList ([noteSchema, returnSchema].map DoctypeSchema.toInterface)).toList := by
      decide
    have hall := (ofOutput_render_ofList_iff (by decide)).1 hrecovered _ hreturn
    obtain ⟨-, -, -, -, hend⟩ := hall
    exact hend (by decide)

end InterfaceSet

end DoctypeInterfaces
