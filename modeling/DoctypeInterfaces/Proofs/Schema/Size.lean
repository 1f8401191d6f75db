import DoctypeInterfaces.Proofs.Text.Scan
import DoctypeInterfaces.Schema.Decode

namespace DoctypeInterfaces

namespace Text

theorem length_piecesAfter_le (found : List Utf8Piece) (bytes : List UInt8) :
    (piecesAfter found bytes).length ≤ found.length + bytes.length := by
  induction found, bytes using piecesAfter.induct with
  | case1 found => simp [piecesAfter]
  | case2 found lead tail hrest ih =>
    rw [piecesAfter]
    rw [List.length_cons] at ih ⊢
    omega

theorem length_le_of_textOfPieces {index : Nat} {found : List Char} {pieces : List Utf8Piece}
    {s : String} (h : textOfPieces index found pieces = .ok s) :
    s.toList.length ≤ found.length + pieces.length := by
  induction pieces generalizing index found with
  | nil =>
    obtain rfl := Except.ok.inj h
    simp
  | cons piece rest ih =>
    cases piece with
    | char c =>
      have hrest := ih h
      rw [List.length_cons] at hrest ⊢
      omega
    | invalid => cases h
    | unfinished => cases h

theorem length_le_of_decodeUtf8 {bytes : List UInt8} {s : String} (h : decodeUtf8 bytes = .ok s) :
    s.toList.length ≤ bytes.length := by
  have htext := length_le_of_textOfPieces h
  have hpieces := length_piecesAfter_le [] bytes
  rw [List.length_nil, Nat.zero_add] at htext hpieces
  exact Nat.le_trans htext hpieces

end Text

namespace Json

open Text.Scan

variable {α ρ : Type} {bound : Nat} {post : α → Prop}

theorem gives_unexpected (expected : String) :
    Gives bound (unexpected expected : Scan α) post := by
  unfold unexpected
  apply gives_bind
  intro c
  split
  · exact gives_bind fun _ => gives_throw _
  · exact gives_bind fun _ => gives_throw _
  · exact gives_bind fun _ => gives_throw _
  · exact gives_bind fun _ => gives_bind fun _ => gives_throw _
  · exact gives_throw _
  · exact gives_throw _
  · split
    · exact gives_bind fun _ => gives_throw _
    · exact gives_throw _
  · exact gives_throw _

theorem gives_list (element : Scan α) :
    Gives bound (list element) fun l => l.length ≤ bound := by
  unfold list
  apply gives_bind
  intro first
  split
  · apply gives_bind
    intro _
    -- Each step takes one from the steps that are left and adds one element.
    refine gives_iterate (fun n (found : List α) => found.length + n ≤ bound + 1) ?_ ?_
    · intro n found hfound
      unfold elementStep
      apply gives_bind
      intro more
      split
      · apply gives_bind
        intro a
        apply gives_pure
        change (a :: found).length + n ≤ bound + 1
        rw [List.length_cons]
        omega
      · apply gives_bind
        intro _
        apply gives_pure
        change found.reverse.length ≤ bound
        rw [List.length_reverse]
        omega
    · simp
  · exact gives_unexpected _

section Records

variable {shape : RecordShape ρ} {inv : ρ → Prop}
  (hfill : ∀ m ∈ shape.members, ∀ record, inv record → Gives bound (m.fill record) inv)

include hfill

theorem gives_fillFrom (members : List (Member ρ)) (hmembers : ∀ m ∈ members, m ∈ shape.members)
    (record : ρ) (index : Nat) (hrecord : inv record) :
    Gives bound (shape.fillFrom record index members) inv := by
  induction members generalizing record index with
  | nil => exact gives_pure hrecord
  | cons m members ih =>
    obtain ⟨hm, hmembers⟩ := List.forall_mem_cons.1 hmembers
    unfold RecordShape.fillFrom
    apply gives_bind
    intro more
    split
    · exact (hfill m hm record hrecord).bind fun filled hfilled =>
        ih hmembers filled (index + 1) hfilled
    · split
      · exact gives_throw _
      · exact ih hmembers record (index + 1) hrecord

theorem gives_memberStep (draft : Draft ρ) (hdraft : inv draft.record) :
    Gives bound (shape.memberStep draft) (Sum.elim (fun later => inv later.record) inv) := by
  unfold RecordShape.memberStep
  apply gives_bind
  intro key
  cases key with
  | none =>
    dsimp only
    split
    · exact gives_throw _
    · exact gives_bind fun _ => gives_pure hdraft
  | some key =>
    dsimp only
    split
    · exact gives_bind fun _ => gives_bind fun _ => gives_pure hdraft
    · next m hm =>
      split
      · exact gives_throw _
      · apply gives_bind
        intro _
        exact (hfill m (List.mem_of_find?_eq_some hm) draft.record hdraft).bind fun _ hfilled =>
          gives_pure hfilled

theorem gives_record {defaults : ρ} (hdefaults : inv defaults) :
    Gives bound (shape.read defaults) inv := by
  unfold RecordShape.read
  apply gives_bind
  intro first
  split
  · apply gives_bind
    intro _
    exact gives_iterate (fun _ draft => inv draft.record)
      (fun _ draft hdraft => gives_memberStep hfill draft hdraft) hdefaults
  · apply gives_bind
    intro _
    refine (gives_fillFrom hfill shape.members (fun _ => id) defaults 0 hdefaults).bind ?_
    intro record hrecord
    exact gives_bind fun _ => gives_pure hrecord
  · exact gives_unexpected _

end Records

end Json

open Text.Scan

theorem DoctypeSchema.gives_shape (bound : Nat) :
    Gives bound (shape.read blank) fun schema => schema.fields.length ≤ bound := by
  apply Json.gives_record
  · intro m hm schema hschema
    simp only [shape, List.mem_cons, List.not_mem_nil, or_false] at hm
    rcases hm with rfl | rfl | rfl | rfl
    · exact gives_bind fun _ => gives_pure hschema
    · exact gives_bind fun _ => gives_pure hschema
    · exact gives_bind fun _ => gives_pure hschema
    · exact (Json.gives_list _).bind fun _ hfields => gives_pure hfields
  · exact Nat.zero_le _

theorem DoctypeSchema.length_fields_le {s : String} {schema : DoctypeSchema}
    (h : ofJson s = .ok schema) : schema.fields.length ≤ s.toList.length := by
  rw [ofJson, Json.read] at h
  split at h
  · cases h
  · next read rest hread =>
    split at h
    · obtain rfl := Except.ok.inj h
      exact gives_shape _ _ _ _ hread
    · cases h

end DoctypeInterfaces
