import DoctypeInterfaces.Proofs.Scheduling.Tally

namespace DoctypeInterfaces

open Storage

namespace FieldSchema

variable {field : FieldSchema} {options : String}

theorem memberType_of_childDoctype (h : field.childDoctype = some options) :
    field.memberType = Text.stripBlanks options ++ "[]" := by
  rw [childDoctype] at h
  split at h
  · next htable =>
    have hselect : field.kind ≠ .select := by
      intro hkind
      rw [hkind] at htable
      cases htable
    rw [memberType, h]
    dsimp only
    rw [if_neg hselect, if_pos htable]
  · cases h

theorem member?_of_childDoctype (h : field.childDoctype = some options) :
    ∃ member, field.member? = some member ∧ member.name = field.fieldname ∧
      member.type = Text.stripBlanks options ++ "[]" := by
  have hbind : field.member?.bind InterfaceMember.related = some options :=
    field.bind_related.trans h
  obtain ⟨member, hmember, -⟩ := Option.bind_eq_some_iff.1 hbind
  refine ⟨member, hmember, ?_⟩
  rw [member?] at hmember
  split at hmember
  · cases hmember
  · obtain rfl := Option.some.inj hmember
    exact ⟨rfl, memberType_of_childDoctype h⟩

end FieldSchema

section Runs

variable {σ : Type} {reached : (c : Call) → StateM σ c.Answer} {storage : σ} {bound : Nat}
  {options : GenerationOptions} {roots : Roots} {schedule : Scheduling.Schedule}
  {run : RecordedRun σ} {report : Report}

theorem RecordedRun.Settled.interfaceName_mem_names {earlier : InterfaceSet}
    {findings : List Finding} {inserted : List DoctypeSchema}
    (h : run.Settled earlier roots findings inserted) :
    ∀ finding ∈ findings, ∀ schema, finding.schema? = some schema →
      schema.interfaceName ∈ run.progress.interfaces.names := by
  intro finding hfinding schema hschema
  cases finding with
  | missing => cases hschema
  | current doctype read =>
    obtain rfl := Option.some.inj hschema
    exact h.figures.current doctype read hfinding
  | outdated doctype read =>
    obtain rfl := Option.some.inj hschema
    have hinserted : read ∈ inserted := h.inserted.mem_iff.2
      (List.mem_map_of_mem (Finding.mem_emitted_iff.2 hfinding))
    rw [h.figures.interfaces, InterfaceSet.mem_names_insertAll, List.map_map]
    exact .inr (List.mem_map_of_mem hinserted)

theorem notFound_or_load_of_child
    (hrun : run = recordBy reached storage options (schedule.resolve bound roots))
    (hok : run.result = .ok report) :
    ∀ parent ∈ run.emitted, ∀ child ∈ parent.2.childDoctypes, child ∈ report.notFound ∨
      ∃ schema, (child, schema) ∈ run.loads ∧
        schema.interfaceName ∈ run.progress.interfaces.names := by
  obtain ⟨findings, inserted, h, hreport⟩ := settled_of_recordBy hrun hok
  intro parent hparent child hchild
  have hfound : child ∈ findings.map Finding.doctype := by
    rw [h.requested, ← Finding.flatMap_emitted, ← h.emitted_eq]
    exact List.mem_append_right _ (List.mem_flatMap.2 ⟨parent, hparent, hchild⟩)
  obtain ⟨finding, hfinding, rfl⟩ := List.mem_map.1 hfound
  cases hread : finding.schema? with
  | none =>
    have houtcome : finding.outcome = .notFound := by
      cases finding with
      | missing => rfl
      | current => cases hread
      | outdated => cases hread
    left
    rw [hreport, h.figures.notFound]
    exact List.mem_map_of_mem (List.mem_filter.2 ⟨hfinding, decide_eq_true houtcome⟩)
  | some schema =>
    right
    refine ⟨schema, ?_, h.interfaceName_mem_names finding hfinding schema hread⟩
    rw [h.loads_eq]
    exact List.mem_filterMap.2 ⟨finding, hfinding, by rw [Finding.load?, hread]; rfl⟩

/-- Where every schema that is read has the interface name that the options leading to it give, the
row type of each emitted member is declared, unless its doctype is not found. -/
theorem row_type_declared_of_recordBy
    (hrun : run = recordBy reached storage options (schedule.resolve bound roots))
    (hok : run.result = .ok report)
    (hnames : ∀ load ∈ run.loads, ∀ parent ∈ run.emitted, ∀ field ∈ parent.2.fields,
      ∀ child ∈ field.childDoctype, doctypeDirName child = load.1 →
        load.2.interfaceName = Text.stripBlanks child) :
    ∀ parent ∈ run.emitted, ∀ field ∈ parent.2.fields, ∀ child ∈ field.childDoctype,
      (∃ member ∈ parent.2.members, member.name = field.fieldname ∧
        member.type = Text.stripBlanks child ++ "[]") ∧
      (doctypeDirName child ∈ report.notFound ∨
        Text.stripBlanks child ∈ run.progress.interfaces.names) := by
  intro parent hparent field hfield child hchild
  constructor
  · obtain ⟨member, hmember, hname, htype⟩ := FieldSchema.member?_of_childDoctype hchild
    exact ⟨member, List.mem_filterMap.2 ⟨field, hfield, hmember⟩, hname, htype⟩
  · have hdir : doctypeDirName child ∈ parent.2.childDoctypes :=
      List.mem_map_of_mem (List.mem_filterMap.2 ⟨field, hfield, hchild⟩)
    rcases notFound_or_load_of_child hrun hok parent hparent _ hdir with
      hnone | ⟨schema, hload, hname⟩
    · exact .inl hnone
    · rw [hnames _ hload parent hparent field hfield child hchild rfl] at hname
      exact .inr hname

theorem bothLoads :
    (recordBy Memory.answer earlierStorage billOptions
        (billSchedule.resolve 4 bothRoots)).loads = [("b", billSchema), ("i", itemSchema)] ∧
      (recordBy Memory.answer earlierStorage billOptions
        (billSchedule.resolve 4 bothRoots)).emitted = [("b", billSchema)] := by
  decide +kernel

/-- The rows of the bill are items. Their interface stays as it is in the earlier output, which is
found out by another job than the one that asks for it. -/
theorem item_rows_declared :
    ∃ report, (recordBy Memory.answer earlierStorage billOptions
        (billSchedule.resolve 4 bothRoots)).result = .ok report ∧
      ("i" ∈ report.notFound ∨ "I" ∈ (recordBy Memory.answer earlierStorage billOptions
        (billSchedule.resolve 4 bothRoots)).progress.interfaces.names) := by
  obtain ⟨report, hok⟩ := exists_report bothRun.1
  obtain ⟨hloads, hemitted⟩ := bothLoads
  have hrows := row_type_declared_of_recordBy rfl hok (by rw [hloads, hemitted]; decide)
    ("b", billSchema) (by rw [hemitted]; exact List.mem_cons_self)
    ⟨"i", "Table", "", some "I", false⟩ List.mem_cons_self "I" (by decide)
  have hnames : doctypeDirName "I" = "i" ∧ Text.stripBlanks "I" = "I" := by decide
  rw [hnames.1, hnames.2] at hrows
  exact ⟨report, hok, hrows.2⟩

end Runs

end DoctypeInterfaces
