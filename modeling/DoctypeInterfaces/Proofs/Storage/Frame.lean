import DoctypeInterfaces.Proofs.Path.Components
import DoctypeInterfaces.Proofs.Storage.Observation

namespace DoctypeInterfaces

namespace PathMap

variable {α : Type} {map : PathMap α} {p q : Path} {value : α}

theorem get?_put_self : PathMap.get? (put p value map) p = some value := by
  induction map with
  | nil => simp [put, get?, Path.same_refl]
  | cons entry rest ih =>
    rw [put]
    split
    · next h => simp [get?, h]
    · next h =>
      rw [get?, List.find?_cons_of_neg (by simpa using h)]
      exact ih

theorem get?_put_of_not_same (h : p.same q = false) :
    PathMap.get? (put p value map) q = PathMap.get? map q := by
  induction map with
  | nil => simp [put, get?, h]
  | cons entry rest ih =>
    rw [put]
    split
    · next hentry =>
      have hq : entry.1.same q = false := by
        rw [Path.same, Path.same_iff.1 hentry]
        exact h
      rw [get?, get?, List.find?_cons_of_neg (by simp [hq]), List.find?_cons_of_neg (by simp [hq])]
    · rw [get?, get?, List.find?_cons, List.find?_cons]
      split
      · rfl
      · exact ih

theorem map_fst_put :
    (put p value map).map Prod.fst = map.map Prod.fst ∨
      (put p value map).map Prod.fst = map.map Prod.fst ++ [p] := by
  induction map with
  | nil => exact .inr rfl
  | cons entry rest ih =>
    rw [put]
    split
    · exact .inl rfl
    · rcases ih with ih | ih
      · exact .inl (congrArg (entry.1 :: ·) ih)
      · exact .inr (congrArg (entry.1 :: ·) ih)

end PathMap

namespace Storage

theorem foldl_addTo_eq_append (dirs paths : List Path) :
    ∃ extra, paths.foldl Path.addTo dirs = dirs ++ extra ∧ ∀ q ∈ extra, q ∈ paths := by
  induction paths generalizing dirs with
  | nil => exact ⟨[], (List.append_nil _).symm, by simp⟩
  | cons p paths ih =>
    obtain ⟨extra, hextra, hmem⟩ := ih (Path.addTo dirs p)
    rw [List.foldl_cons, hextra, Path.addTo]
    split
    · exact ⟨extra, rfl, fun q hq => List.mem_cons_of_mem _ (hmem q hq)⟩
    · refine ⟨p :: extra, by simp, fun q hq => ?_⟩
      rcases List.mem_cons.1 hq with rfl | hq
      · exact List.mem_cons_self
      · exact List.mem_cons_of_mem _ (hmem q hq)

namespace MemoryTree

variable {tree : MemoryTree} {p q root : Path}

theorem dirs_createDirAll (tree : MemoryTree) (p : Path) :
    ∃ extra, (tree.createDirAll p).dirs = tree.dirs ++ extra ∧
      ∀ q ∈ extra, q = p ∨ p.LiesBelow q := by
  obtain ⟨parents, hparents, hmem⟩ := foldl_addTo_eq_append tree.dirs
    (p.ancestors.takeWhile fun q => !q.isEmpty)
  obtain ⟨last, hlast, hmemLast⟩ := foldl_addTo_eq_append (tree.dirs ++ parents) [p]
  refine ⟨parents ++ last, ?_, fun q hq => ?_⟩
  · rw [← List.append_assoc, ← hlast, ← hparents]
    rfl
  · rcases List.mem_append.1 hq with hq | hq
    · have hancestor := (List.takeWhile_sublist _).subset (hmem q hq)
      exact .inr (Path.liesBelow_of_mem_ancestorsWithin hancestor)
    · exact .inl (List.mem_singleton.1 (hmemLast q hq))

theorem liesBelow_of_isChild (h : isChild p q = true) : q.LiesBelow p := by
  obtain ⟨parent, hparent, hsame⟩ := (Option.any_eq_true _ _).1 h
  obtain ⟨c, rest, hcomponents⟩ := Path.liesBelow_of_parent? hparent
  exact ⟨c, rest, by rw [hcomponents, Path.same_iff.1 hsame]⟩

theorem isChild_eq_false (hroot : root.components <+: p.components) (h : ¬ q.LiesBelow root) :
    isChild p q = false := by
  rw [Bool.eq_false_iff]
  exact fun hchild => h ((liesBelow_of_isChild hchild).of_isPrefix_right hroot)

theorem children_eq (tree : MemoryTree) (p : Path) :
    tree.children p = Path.sortBy DirEntry.path
      ((tree.dirs.filter (isChild p)).map (fun q => ⟨q, true⟩) ++
        ((tree.files.map Prod.fst).filter (isChild p)).map (fun q => ⟨q, false⟩)) := by
  rw [children, List.filter_map, List.map_map]
  rfl

theorem liesBelow_of_mem_children {entry : DirEntry} (h : entry ∈ tree.children p) :
    entry.path.LiesBelow p := by
  rw [children_eq, Path.mem_sortBy] at h
  rcases List.mem_append.1 h with h | h
  · obtain ⟨q, hq, rfl⟩ := List.mem_map.1 h
    exact liesBelow_of_isChild (List.mem_filter.1 hq).2
  · obtain ⟨q, hq, rfl⟩ := List.mem_map.1 h
    exact liesBelow_of_isChild (List.mem_filter.1 hq).2

/-- Directories and files that do not lie below a directory change no listing there. -/
theorem children_eq_of_append {other : MemoryTree} {extra : List Path} {out : Path}
    (hroot : root.components <+: p.components)
    (hdirs : other.dirs = tree.dirs ++ extra) (hextra : ∀ q ∈ extra, ¬ q.LiesBelow root)
    (hfiles : other.files.map Prod.fst = tree.files.map Prod.fst ∨
      other.files.map Prod.fst = tree.files.map Prod.fst ++ [out])
    (hout : ¬ out.LiesBelow root) : other.children p = tree.children p := by
  have hnone : extra.filter (isChild p) = [] := by
    rw [List.filter_eq_nil_iff]
    intro q hq
    rw [isChild_eq_false hroot (hextra q hq)]
    exact Bool.false_ne_true
  have hkeys : (other.files.map Prod.fst).filter (isChild p) =
      (tree.files.map Prod.fst).filter (isChild p) := by
    rcases hfiles with h | h
    · rw [h]
    · have hlast : [out].filter (isChild p) = [] := by
        rw [List.filter_eq_nil_iff]
        intro q hq
        rw [List.mem_singleton.1 hq, isChild_eq_false hroot hout]
        exact Bool.false_ne_true
      rw [h, List.filter_append, hlast, List.append_nil]
  rw [children_eq, children_eq, hdirs, List.filter_append, hnone, List.append_nil, hkeys]

theorem isDir_eq_of_append {other : MemoryTree} {extra : List Path}
    (hdirs : other.dirs = tree.dirs ++ extra) (hextra : ∀ q ∈ extra, q.same p = false) :
    other.isDir p = tree.isDir p := by
  have hnone : (extra.any fun q => q.same p) = false := by
    rw [List.any_eq_false]
    intro q hq
    rw [hextra q hq]
    exact Bool.false_ne_true
  rw [isDir, isDir, hdirs, List.any_append, hnone, Bool.or_false]

end MemoryTree

namespace Memory

structure AgreesBelow (root : Path) (memory other : Memory) : Prop where
  listing : ∀ p, root.components <+: p.components → other.listing p = memory.listing p
  contents : ∀ p, p.LiesBelow root → other.contents p = memory.contents p

variable {memory other later : Memory} {root out dir : Path} {bytes : Bytes}

theorem Alike.agreesBelow (h : memory.Alike other) : AgreesBelow root memory other :=
  ⟨fun p _ => h.view_eq (.listDir p), fun p _ => h.view_eq (.read p)⟩

theorem AgreesBelow.trans (h : AgreesBelow root memory other) (h' : AgreesBelow root other later) :
    AgreesBelow root memory later :=
  ⟨fun p hp => (h'.listing p hp).trans (h.listing p hp),
    fun p hp => (h'.contents p hp).trans (h.contents p hp)⟩

theorem children_of_view {memory : Memory} {dir : Path} {entries : List DirEntry}
    (h : memory.view (.listDir dir) = .ok entries) : entries = memory.tree.children dir := by
  have hlisting : memory.listing dir = .ok entries := h
  rw [listing] at hlisting
  split at hlisting
  · cases hlisting
  · split at hlisting
    · exact (Except.ok.inj hlisting).symm
    · cases hlisting

theorem listing_congr {p : Path} (hfailing : other.failing = memory.failing)
    (hisDir : other.tree.isDir p = memory.tree.isDir p)
    (hchildren : other.tree.children p = memory.tree.children p) :
    other.listing p = memory.listing p := by
  rw [listing, listing, hfailing, hisDir, hchildren]

theorem agreesBelow_createDirAll (hdir : out.LiesBelow dir) (hout : ¬ out.LiesBelow root) :
    AgreesBelow root memory ((answer (.createDirAll dir)).run memory).2 := by
  obtain ⟨extra, hdirs, hextra⟩ := memory.tree.dirs_createDirAll dir
  have habove : ∀ q ∈ extra, out.LiesBelow q := by
    intro q hq
    rcases hextra q hq with rfl | hq
    · exact hdir
    · exact hdir.of_isPrefix_right hq.isPrefix
  constructor
  case listing =>
    intro p hp
    have hbelow : ∀ q ∈ extra, ¬ q.LiesBelow root := fun q hq hroot =>
      hout ((habove q hq).of_isPrefix_right hroot.isPrefix)
    have hsame : ∀ q ∈ extra, q.same p = false := by
      intro q hq
      rw [Bool.eq_false_iff]
      intro hsame
      have hroot : root.components <+: q.components := by
        rw [Path.same_iff.1 hsame]
        exact hp
      exact hout ((habove q hq).of_isPrefix_right hroot)
    exact listing_congr rfl (MemoryTree.isDir_eq_of_append hdirs hsame)
      (MemoryTree.children_eq_of_append hp hdirs hbelow (.inl rfl) hout)
  case contents =>
    exact fun _ _ => rfl

theorem writeAtomic_eq_ok (memory : Memory)
    (h : memory.view (.writeAtomic out bytes) = .ok ()) :
    ((answer (.writeAtomic out bytes)).run memory).2 =
      { memory with
        tree := { memory.tree with files := memory.tree.files.put out bytes }
        writes := memory.writes + 1 } := by
  rw [view] at h
  simp only [answer, StateT.run, writing] at h ⊢
  split at h
  · next tree htree =>
    split at htree
    · cases htree
    · rw [← Except.ok.inj htree]
  · cases h

theorem agreesBelow_put (hout : ¬ out.LiesBelow root)
    (hfailing : other.failing = memory.failing)
    (htree : other.tree = { memory.tree with files := memory.tree.files.put out bytes }) :
    AgreesBelow root memory other := by
  constructor
  case listing =>
    intro p hp
    have hdirs : other.tree.dirs = memory.tree.dirs ++ [] := by
      rw [htree, List.append_nil]
    have hfiles : other.tree.files.map Prod.fst = memory.tree.files.map Prod.fst ∨
        other.tree.files.map Prod.fst = memory.tree.files.map Prod.fst ++ [out] := by
      rw [htree]
      exact PathMap.map_fst_put
    exact listing_congr hfailing (MemoryTree.isDir_eq_of_append hdirs (by simp))
      (MemoryTree.children_eq_of_append hp hdirs (by simp) hfiles hout)
  case contents =>
    intro p hp
    have hsame : out.same p = false := by
      rw [Bool.eq_false_iff]
      intro hsame
      obtain ⟨c, rest, hcomponents⟩ := hp
      exact hout ⟨c, rest, (Path.same_iff.1 hsame).trans hcomponents⟩
    rw [contents, contents, htree, PathMap.get?_put_of_not_same hsame]

end Memory

end Storage

end DoctypeInterfaces
