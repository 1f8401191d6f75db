import DoctypeInterfaces.Proofs.Json.Record
import DoctypeInterfaces.Schema.Decode

namespace DoctypeInterfaces

open Json

def FieldSchema.WritesLabel (label : String) (t : List Char) : Prop :=
  WritesString label t ∨ (label = "" ∧ t = "null".toList)

structure FieldSchema.HasMembers (field : FieldSchema) (members : List (String × List Char)) :
    Prop where
  fieldname : Holds members "fieldname" (WritesString field.fieldname) False
  fieldtype : Holds members "fieldtype" (WritesString field.fieldtype) False
  label : Holds members "label" (WritesLabel field.label) (field.label = "")
  options : Holds members "options" (WritesString? field.options) (field.options = none)
  reqd : Holds members "reqd" (WritesFlag field.required) (field.required = false)
  other : ∀ m ∈ members, m.1 ∉ ["fieldname", "fieldtype", "label", "options", "reqd"] → IsValue m.2

/-- The texts of a field. -/
def FieldSchema.Writes (field : FieldSchema) (t : List Char) : Prop :=
  ∃ members, field.HasMembers members ∧ WritesObject members t

structure DoctypeSchema.HasMembers (schema : DoctypeSchema)
    (members : List (String × List Char)) : Prop where
  name : Holds members "name" (WritesString schema.name) False
  modified : Holds members "modified" (WritesString schema.modified) False
  istable : Holds members "istable" (WritesFlag schema.isTable) (schema.isTable = false)
  fields : Holds members "fields" (WritesArray FieldSchema.Writes schema.fields)
    (schema.fields = [])
  other : ∀ m ∈ members, m.1 ∉ ["name", "modified", "istable", "fields"] → IsValue m.2

/-- The texts of a doctype. -/
def DoctypeSchema.Writes (schema : DoctypeSchema) (t : List Char) : Prop :=
  ∃ members, schema.HasMembers members ∧ WritesObject members t

variable {members : List (String × List Char)} {t : List Char}

namespace FieldSchema

variable {field : FieldSchema}

/-- A field of which only the members with the given keys have been read. -/
def filled (field : FieldSchema) (keys : List String) : FieldSchema where
  fieldname := if "fieldname" ∈ keys then field.fieldname else ""
  fieldtype := if "fieldtype" ∈ keys then field.fieldtype else ""
  label := if "label" ∈ keys then field.label else ""
  options := if "options" ∈ keys then field.options else none
  required := if "reqd" ∈ keys then field.required else false

theorem reads_label {label : String} (h : WritesLabel label t) :
    ∃ s?, Reads string? t s? ∧ s?.getD "" = label := by
  rcases h with hstring | ⟨rfl, hnull⟩
  · exact ⟨some label, reads_string? hstring, rfl⟩
  · exact ⟨none, reads_string? hnull, rfl⟩

theorem reads_member (h : field.HasMembers members) :
    ∀ m ∈ shape.members, Holds members m.key
      (fun value => ∀ keys,
        Reads (m.fill (field.filled keys)) value (field.filled (m.key :: keys)))
      (m.isRequired = false) := by
  intro m hm
  simp only [shape, List.mem_cons, List.not_mem_nil, or_false] at hm
  rcases hm with rfl | rfl | rfl | rfl | rfl
  · refine h.fieldname.imp (fun value hvalue keys => ?_) False.elim
    refine (reads_string hvalue).map (fun s => { field.filled keys with fieldname := s }) ?_
    simp [filled]
  · refine h.fieldtype.imp (fun value hvalue keys => ?_) False.elim
    refine (reads_string hvalue).map (fun s => { field.filled keys with fieldtype := s }) ?_
    simp [filled]
  · refine h.label.imp (fun value hvalue keys => ?_) fun _ => rfl
    obtain ⟨s?, hread, hlabel⟩ := reads_label hvalue
    refine hread.map (fun s? => { field.filled keys with label := s?.getD "" }) ?_
    simp [filled, hlabel]
  · refine h.options.imp (fun value hvalue keys => ?_) fun _ => rfl
    refine (reads_string? hvalue).map (fun s? => { field.filled keys with options := s? }) ?_
    simp [filled]
  · refine h.reqd.imp (fun value hvalue keys => ?_) fun _ => rfl
    refine (reads_flag hvalue).map (fun b => { field.filled keys with required := b }) ?_
    simp [filled]

theorem filled_keysIn (h : field.HasMembers members) :
    field.filled (shape.keysIn members).reverse = field := by
  rw [filled,
    (h.fieldname.imp (fun _ => id) False.elim).ite_eq (mem_keysIn (by simp [shape])),
    (h.fieldtype.imp (fun _ => id) False.elim).ite_eq (mem_keysIn (by simp [shape])),
    h.label.ite_eq (mem_keysIn (by simp [shape])), h.options.ite_eq (mem_keysIn (by simp [shape])),
    h.reqd.ite_eq (mem_keysIn (by simp [shape]))]

theorem reads_of_writes (h : field.Writes t) : Reads (shape.read blank) t field := by
  obtain ⟨members, hmembers, hobject⟩ := h
  have hread := reads_record field.filled hobject (reads_member hmembers)
    fun m hm hother => hmembers.other m hm (by simpa [shape, eq_comm] using hother)
  rwa [filled_keysIn hmembers] at hread

end FieldSchema

namespace DoctypeSchema

variable {schema : DoctypeSchema}

/-- A doctype of which only the members with the given keys have been read. -/
def filled (schema : DoctypeSchema) (keys : List String) : DoctypeSchema where
  name := if "name" ∈ keys then schema.name else ""
  modified := if "modified" ∈ keys then schema.modified else ""
  isTable := if "istable" ∈ keys then schema.isTable else false
  fields := if "fields" ∈ keys then schema.fields else []

theorem reads_fields {fields : List FieldSchema} (h : WritesArray FieldSchema.Writes fields t) :
    Reads (list (FieldSchema.shape.read FieldSchema.blank)) t fields := by
  refine reads_list (fun field item hfield => ⟨FieldSchema.reads_of_writes hfield, ?_⟩) h
  obtain ⟨members, -, items, body, -, -, rfl⟩ := hfield
  exact ⟨'{', body, rfl, rfl, by decide⟩

theorem reads_member (h : schema.HasMembers members) :
    ∀ m ∈ shape.members, Holds members m.key
      (fun value => ∀ keys,
        Reads (m.fill (schema.filled keys)) value (schema.filled (m.key :: keys)))
      (m.isRequired = false) := by
  intro m hm
  simp only [shape, List.mem_cons, List.not_mem_nil, or_false] at hm
  rcases hm with rfl | rfl | rfl | rfl
  · refine h.name.imp (fun value hvalue keys => ?_) False.elim
    refine (reads_string hvalue).map (fun s => { schema.filled keys with name := s }) ?_
    simp [filled]
  · refine h.modified.imp (fun value hvalue keys => ?_) False.elim
    refine (reads_string hvalue).map (fun s => { schema.filled keys with modified := s }) ?_
    simp [filled]
  · refine h.istable.imp (fun value hvalue keys => ?_) fun _ => rfl
    refine (reads_flag hvalue).map (fun b => { schema.filled keys with isTable := b }) ?_
    simp [filled]
  · refine h.fields.imp (fun value hvalue keys => ?_) fun _ => rfl
    refine (reads_fields hvalue).map (fun fields => { schema.filled keys with fields }) ?_
    simp [filled]

theorem filled_keysIn (h : schema.HasMembers members) :
    schema.filled (shape.keysIn members).reverse = schema := by
  rw [filled,
    (h.name.imp (fun _ => id) False.elim).ite_eq (mem_keysIn (by simp [shape])),
    (h.modified.imp (fun _ => id) False.elim).ite_eq (mem_keysIn (by simp [shape])),
    h.istable.ite_eq (mem_keysIn (by simp [shape])), h.fields.ite_eq (mem_keysIn (by simp [shape]))]

theorem reads_of_writes (h : schema.Writes t) : Reads (shape.read blank) t schema := by
  obtain ⟨members, hmembers, hobject⟩ := h
  have hread := reads_record schema.filled hobject (reads_member hmembers)
    fun m hm hother => hmembers.other m hm (by simpa [shape, eq_comm] using hother)
  rwa [filled_keysIn hmembers] at hread

/-- Each text of a doctype, with blanks around it, is read as that doctype. -/
theorem ofJson_of_writes (blanks blanks' : List Char) {s : String} (h : schema.Writes t)
    (hb : IsBlanks blanks) (hb' : IsBlanks blanks') (hs : s.toList = blanks ++ (t ++ blanks')) :
    ofJson s = .ok schema := by
  have hends : EndsValue blanks' := by
    simpa using endsValue_nil.blanks_append hb'
  have hread := reads_of_writes h s.toList.length blanks blanks' hb hends (hs ▸ le_rfl)
  have hnothing : skipBlanks blanks' = [] := by
    rw [← List.append_nil blanks', skipBlanks_append hb']
    rfl
  rw [← hs] at hread
  rw [ofJson, Json.read, Text.Scan.start, hread]
  exact if_pos hnothing

theorem escaped_name : WritesString "name" "\"n\\u0061me\"".toList := by
  refine ⟨[['n'], ['\\', 'u', '0', '0', '6', '1'], ['m'], ['e']], ?_, rfl⟩
  change List.Forall₂ WritesChar ['n', 'a', 'm', 'e'] _
  have ha : IsUnitEscape 'a'.toNat ['\\', 'u', '0', '0', '6', '1'] :=
    ⟨'0', '0', '6', '1', rfl, .inl rfl, .inl rfl, .inl rfl, .inl rfl⟩
  refine .cons (.plain ?_ ?_ ?_) (.cons (.unit ha) (.cons (.plain ?_ ?_ ?_)
    (.cons (.plain ?_ ?_ ?_) .nil)))
  all_goals decide

def amountText : List Char :=
  "\x7b\"label\":null,\"reqd\":1,\"fieldtype\":\"D\",\"fieldname\":\"a\"\x7d".toList

theorem writes_amountText : FieldSchema.Writes ⟨"a", "D", "", none, true⟩ amountText := by
  refine ⟨[("label", "null".toList), ("reqd", ['1']), ("fieldtype", "\"D\"".toList),
    ("fieldname", "\"a\"".toList)], ?_, ?_⟩
  · constructor
    case fieldname => exact .inl ⟨_, rfl, writesString_plain (by simp)⟩
    case fieldtype => exact .inl ⟨_, rfl, writesString_plain (by simp)⟩
    case label => exact .inl ⟨_, rfl, .inr ⟨rfl, rfl⟩⟩
    case options => exact .inr ⟨rfl, rfl⟩
    case reqd => exact .inl ⟨_, rfl, by simp [WritesFlag]⟩
    case other => simp
  · have hitems : Items '}' true _ _ := .first [] "\"label\":null".toList isBlanks_nil
      (.next [] [] "\"reqd\":1".toList isBlanks_nil isBlanks_nil
      (.next [] [] "\"fieldtype\":\"D\"".toList isBlanks_nil isBlanks_nil
      (.next [] [] "\"fieldname\":\"a\"".toList isBlanks_nil isBlanks_nil
      (.closed [] isBlanks_nil))))
    refine ⟨_, _, ?_, hitems, rfl⟩
    exact .cons ⟨_, isLabel_plain (by simp), rfl⟩ (.cons ⟨_, isLabel_plain (by simp), rfl⟩
      (.cons ⟨_, isLabel_plain (by simp), rfl⟩ (.cons ⟨_, isLabel_plain (by simp), rfl⟩ .nil)))

def noteText : List Char :=
  "\x7b\"x\":[\x7b\x7d],\"fields\":[".toList ++ amountText ++
    "] ,\n\"n\\u0061me\" : \"N\",\"modified\":\"\"\x7d".toList

theorem writes_noteText :
    Writes ⟨"N", "", false, [⟨"a", "D", "", none, true⟩]⟩ noteText := by
  have hfields : WritesArray FieldSchema.Writes [⟨"a", "D", "", none, true⟩]
      ('[' :: (amountText ++ [']'])) :=
    ⟨[amountText], _, .cons writes_amountText .nil,
      .first [] _ isBlanks_nil (.closed [] isBlanks_nil), rfl⟩
  have hempty : IsValue "\x7b\x7d".toList :=
    .object [] (by simp) (by simp) (.closed [] isBlanks_nil)
  have hother : IsValue "[\x7b\x7d]".toList :=
    .array ["\x7b\x7d".toList] (by simpa using hempty)
      (.first [] _ isBlanks_nil (.closed [] isBlanks_nil))
  refine ⟨[("x", "[\x7b\x7d]".toList), ("fields", '[' :: (amountText ++ [']'])),
    ("name", "\"N\"".toList), ("modified", "\"\"".toList)], ?_, ?_⟩
  · constructor
    case name => exact .inl ⟨_, rfl, writesString_plain (by simp)⟩
    case modified => exact .inl ⟨_, rfl, writesString_plain (by simp)⟩
    case istable => exact .inr ⟨rfl, rfl⟩
    case fields => exact .inl ⟨_, rfl, hfields⟩
    case other => simpa using hother
  · have hspace : IsBlanks [' '] := by decide
    have hline : IsBlanks ['\n'] := by decide
    have hitems : Items '}' true _ _ := .first [] "\"x\":[\x7b\x7d]".toList isBlanks_nil
      (.next [] [] ("\"fields\":[".toList ++ (amountText ++ [']'])) isBlanks_nil isBlanks_nil
      (.next [' '] ['\n'] "\"n\\u0061me\" : \"N\"".toList hspace hline
      (.next [] [] "\"modified\":\"\"".toList isBlanks_nil isBlanks_nil
      (.closed [] isBlanks_nil))))
    refine ⟨_, _, ?_, hitems, rfl⟩
    exact .cons ⟨_, isLabel_plain (by simp), rfl⟩ (.cons ⟨_, isLabel_plain (by simp), rfl⟩
      (.cons ⟨_, ⟨_, [' '], [' '], escaped_name, hspace, hspace, rfl⟩, rfl⟩
      (.cons ⟨_, isLabel_plain (by simp), rfl⟩ .nil)))

theorem noteText_read :
    ofJson (String.ofList (noteText ++ ['\n'])) =
      .ok ⟨"N", "", false, [⟨"a", "D", "", none, true⟩]⟩ :=
  ofJson_of_writes [] ['\n'] writes_noteText isBlanks_nil (by decide)
    String.toList_ofList

end DoctypeSchema

end DoctypeInterfaces
