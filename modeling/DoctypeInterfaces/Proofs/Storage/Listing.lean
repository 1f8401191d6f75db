import DoctypeInterfaces.Proofs.Storage.Resolution

namespace DoctypeInterfaces.Storage

section Traversal

variable {α β ε : Type} {f : α → Except ε β} {items : List α} {results : List β}

theorem mapM_eq_ok_iff :
    items.mapM f = .ok results ↔ List.Forall₂ (fun a b => f a = .ok b) items results := by
  induction items generalizing results with
  | nil =>
    rw [List.mapM_nil, List.forall₂_nil_left_iff]
    exact ⟨fun h => (Except.ok.inj h).symm, fun h => congrArg Except.ok h.symm⟩
  | cons a rest ih =>
    rw [List.mapM_cons, List.forall₂_cons_left_iff]
    cases ha : f a with
    | error e => simp [bind, Except.bind]
    | ok b =>
      cases hrest : rest.mapM f with
      | error e =>
        rw [hrest] at ih
        simp only [bind, Except.bind, reduceCtorEq, false_iff]
        rintro ⟨b', bs, -, hbs, -⟩
        cases ih.2 hbs
      | ok bs =>
        rw [hrest] at ih
        simp only [bind, Except.bind, pure, Except.pure, Except.ok.injEq]
        constructor
        · rintro rfl
          exact ⟨b, bs, rfl, ih.1 rfl, rfl⟩
        · rintro ⟨b', bs', rfl, hbs, rfl⟩
          rw [Except.ok.inj (ih.2 hbs)]

theorem exists_mapM_eq_ok_iff :
    (∃ results, items.mapM f = .ok results) ↔ ∀ a ∈ items, ∃ b, f a = .ok b := by
  simp only [mapM_eq_ok_iff]
  induction items with
  | nil => simp
  | cons a rest ih =>
    rw [List.forall_mem_cons, ← ih]
    constructor
    · rintro ⟨results, h⟩
      obtain ⟨b, bs, hb, hbs, -⟩ := List.forall₂_cons_left_iff.1 h
      exact ⟨⟨b, hb⟩, bs, hbs⟩
    · rintro ⟨⟨b, hb⟩, bs, hbs⟩
      exact ⟨b :: bs, .cons hb hbs⟩

theorem exists_of_mem_mapM {b : β} (h : items.mapM f = .ok results) (hb : b ∈ results) :
    ∃ a ∈ items, f a = .ok b := by
  rw [mapM_eq_ok_iff] at h
  induction h with
  | nil => cases hb
  | @cons a b' items results ha _ ih =>
    rcases List.mem_cons.1 hb with rfl | hb
    · exact ⟨a, List.mem_cons_self, ha⟩
    · obtain ⟨a', ha', hfa⟩ := ih hb
      exact ⟨a', List.mem_cons_of_mem _ ha', hfa⟩

theorem exists_of_mapM_eq_error {e : ε} (h : items.mapM f = .error e) :
    ∃ a ∈ items, f a = .error e := by
  induction items with
  | nil => cases h
  | cons a rest ih =>
    rw [List.mapM_cons] at h
    cases ha : f a with
    | error e' =>
      rw [ha] at h
      cases h
      exact ⟨a, List.mem_cons_self, ha⟩
    | ok b =>
      cases hrest : rest.mapM f with
      | error e' =>
        rw [ha, hrest] at h
        cases h
        obtain ⟨a', ha', hfa⟩ := ih hrest
        exact ⟨a', List.mem_cons_of_mem _ ha', hfa⟩
      | ok bs =>
        rw [ha, hrest] at h
        cases h

end Traversal

namespace Disk

structure IsEntryName (name : Bytes) : Prop where
  isName : Path.IsName name
  noNul : 0 ∉ name
  size_le : name.length ≤ maxName

instance (name : Bytes) : Decidable (IsEntryName name) :=
  decidable_of_iff (Path.IsName name ∧ 0 ∉ name ∧ name.length ≤ maxName)
    ⟨fun h => ⟨h.1, h.2.1, h.2.2⟩, fun h => ⟨h.isName, h.noNul, h.size_le⟩⟩

/-- Whether a disk is a file tree: one thing stands at each location, and names lead to it. -/
structure IsTree (disk : Disk) : Prop where
  distinct : (disk.nodes.map Prod.fst).Nodup
  names : ∀ entry ∈ disk.nodes, ∀ name ∈ entry.1, IsEntryName name

variable {system : System} {disk : Disk} {dir : Location} {node : DiskNode} {name : Bytes}
  {p : Path} {steps : List Step}

theorem mem_nodes_iff (h : disk.IsTree) :
    (name :: dir, node) ∈ disk.nodes ↔ disk.get? (name :: dir) = some node := by
  change _ ↔ disk.nodes.lookup (name :: dir) = some node
  rw [List.lookup_eq_some_iff]
  constructor
  · intro hentry
    obtain ⟨front, rest, hnodes⟩ := List.append_of_mem hentry
    refine ⟨front, rest, hnodes, fun other hother => ?_⟩
    have hdistinct := h.distinct
    rw [hnodes, List.map_append, List.map_cons] at hdistinct
    rw [bne_iff_ne]
    intro heq
    exact (List.nodup_append.1 hdistinct).2.2 _ (List.mem_map_of_mem hother) _ List.mem_cons_self
      heq.symm
  · rintro ⟨front, rest, hnodes, -⟩
    rw [hnodes]
    exact List.mem_append_right _ List.mem_cons_self

theorem IsTree.isEntryName (h : disk.IsTree) (hget : disk.get? (name :: dir) = some node) :
    IsEntryName name :=
  h.names _ ((mem_nodes_iff h).2 hget) name List.mem_cons_self

theorem mem_entriesAt_iff (h : disk.IsTree) :
    (name, node) ∈ disk.entriesAt dir ↔ disk.get? (name :: dir) = some node := by
  rw [← mem_nodes_iff h, entriesAt, List.mem_filterMap]
  constructor
  · rintro ⟨⟨other, node'⟩, hentry, hsome⟩
    cases other with
    | nil => cases hsome
    | cons name' dir' =>
      change (if dir' = dir then some (name', node') else none) = some (name, node) at hsome
      split at hsome
      · next hdir =>
        cases hsome
        rw [hdir] at hentry
        exact hentry
      · cases hsome
  · intro hentry
    exact ⟨_, hentry, if_pos rfl⟩

theorem exists_bytes_join (hp : p.isEmpty = false) (hn : Path.IsName name) :
    ∃ between, (p.join ⟨name⟩).bytes = p.bytes ++ (between ++ name) ∧ 0 ∉ between := by
  rw [Path.join, hn.isAbsolute, hp, Bool.or_self, if_neg Bool.false_ne_true]
  split
  · exact ⟨[], rfl, by decide⟩
  · exact ⟨[Path.slash], rfl, by decide⟩

theorem Arrives.join (h : disk.Arrives p steps dir) (hn : IsEntryName name)
    (hsize : (p.join ⟨name⟩).bytes.length ≤ maxPath) :
    disk.Arrives (p.join ⟨name⟩) steps dir := by
  obtain ⟨hsound, left, hreaches⟩ := h
  have hne : p.bytes ≠ [] := fun hempty => by
    have hnonempty := hsound.nonempty
    rw [Path.isEmpty, hempty] at hnonempty
    cases hnonempty
  obtain ⟨between, hbytes, hbetween⟩ := exists_bytes_join hsound.nonempty hn.isName
  refine ⟨?_, left, ?_⟩
  · constructor
    case noNul =>
      rw [hbytes, List.mem_append, List.mem_append]
      rintro (hnul | hnul | hnul)
      · exact hsound.noNul hnul
      · exact hbetween hnul
      · exact hn.noNul hnul
    case nonempty =>
      rw [Path.isEmpty, hbytes, List.isEmpty_eq_false_iff]
      exact List.append_ne_nil_of_left_ne_nil hne _
    case size_le => exact hsize
  · have hstart : disk.startOf (p.join ⟨name⟩) = disk.startOf p := by
      rw [startOf, startOf, Path.isAbsolute, hbytes, List.head?_append_of_ne_nil _ hne]
      rfl
    rw [hstart]
    exact hreaches

theorem isDir_eq_ok_true_iff :
    disk.isDir p = .ok true ↔ ∃ dir, disk.lookUp p = .ok (dir, .dir) := by
  simp only [isDir, bind, Except.bind, pure, Except.pure]
  cases disk.lookUp p with
  | error e => simp
  | ok found =>
    obtain ⟨dir, node⟩ := found
    simp

/-- What is called a directory in a listing is one, unless its path is too long. -/
theorem isDir_of_entryIsDir (h : disk.IsTree) (hdir : disk.lookUp p = .ok (dir, .dir))
    (hget : disk.get? (name :: dir) = some node)
    (hentry : disk.entryIsDir (p.join ⟨name⟩) node = .ok true)
    (hsize : (p.join ⟨name⟩).bytes.length ≤ maxPath) :
    disk.isDir (p.join ⟨name⟩) = .ok true := by
  cases node with
  | file number => cases hentry
  | link number target =>
    simp only [entryIsDir] at hentry
    split at hentry
    · next hisDir => exact hisDir.trans hentry
    · cases hentry
    · cases hentry
  | dir =>
    have hname := h.isEntryName hget
    have hsteps : stepsOf (p.join ⟨name⟩) = _ := stepsOf_join hname.isName
    have hat : disk.leadsTo? .entry (p.join ⟨name⟩) = some (name :: dir) := by
      rw [leadsTo?_entry_iff hsteps]
      exact ⟨dir, (arrives_of_lookUp hdir).join hname hsize, hname.size_le, rfl⟩
    exact isDir_eq_ok_true_iff.2 ⟨name :: dir, lookUp_of_leadsTo? hsteps hat hget nofun⟩

theorem listing_eq_mapM (h : disk.lookUp p = .ok (dir, .dir)) :
    disk.listing system p =
      (system.arrange
        ((disk.entriesAt dir).map fun entry => (p.join ⟨entry.1⟩, entry.2))).mapM
          fun entry => (DirEntry.mk entry.1) <$> disk.entryIsDir entry.1 entry.2 := by
  rw [listing, h]
  rfl

theorem exists_map_eq_ok {α β ε : Type} {g : α → β} {x : Except ε α} :
    (∃ b, g <$> x = .ok b) ↔ ∃ a, x = .ok a := by
  cases x with
  | error e => simp [Functor.map, Except.map]
  | ok a => simp [Functor.map, Except.map]

theorem exists_listing_iff (h : disk.IsTree) (hdir : disk.lookUp p = .ok (dir, .dir)) :
    (∃ entries, disk.listing system p = .ok entries) ↔
      ∀ name node, disk.get? (name :: dir) = some node →
        ∃ isDir, disk.entryIsDir (p.join ⟨name⟩) node = .ok isDir := by
  rw [listing_eq_mapM hdir, exists_mapM_eq_ok_iff]
  constructor
  · intro hall name node hget
    have hmem := List.mem_map_of_mem (f := fun entry => (p.join ⟨entry.1⟩, entry.2))
      ((mem_entriesAt_iff h).2 hget)
    exact exists_map_eq_ok.1 (hall _ ((system.perm_arrange _).mem_iff.2 hmem))
  · intro hall entry hentry
    obtain ⟨⟨name, node⟩, hmem, rfl⟩ := List.mem_map.1 ((system.perm_arrange _).mem_iff.1 hentry)
    exact exists_map_eq_ok.2 (hall name node ((mem_entriesAt_iff h).1 hmem))

theorem lookUp_of_listing {entries : List DirEntry} (h : disk.listing system p = .ok entries) :
    ∃ dir, disk.lookUp p = .ok (dir, .dir) := by
  simp only [listing, bind, Except.bind] at h
  split at h
  · cases h
  · next found hfound =>
    split at h
    · next dir => exact ⟨dir, hfound⟩
    · cases h

theorem mem_listing {entries : List DirEntry} {entry : DirEntry} (h : disk.IsTree)
    (hentries : disk.listing system p = .ok entries) (hentry : entry ∈ entries) :
    ∃ dir name node, disk.lookUp p = .ok (dir, .dir) ∧ disk.get? (name :: dir) = some node ∧
      entry.path = p.join ⟨name⟩ ∧ disk.entryIsDir (p.join ⟨name⟩) node = .ok entry.isDir := by
  obtain ⟨dir, hdir⟩ := lookUp_of_listing hentries
  rw [listing_eq_mapM hdir] at hentries
  obtain ⟨item, hitem, hresult⟩ := exists_of_mem_mapM hentries hentry
  obtain ⟨⟨name, node⟩, hmem, rfl⟩ := List.mem_map.1 ((system.perm_arrange _).mem_iff.1 hitem)
  refine ⟨dir, name, node, hdir, (mem_entriesAt_iff h).1 hmem, ?_⟩
  cases hentryDir : disk.entryIsDir (p.join ⟨name⟩) node with
  | error e =>
    rw [hentryDir] at hresult
    cases hresult
  | ok isDir =>
    rw [hentryDir] at hresult
    cases hresult
    exact ⟨rfl, rfl⟩

/-- Whether a directory cannot be listed though it is one: its path is too long, or it holds a link
that leads somewhere that can neither be looked up nor is missing. -/
def Obstructed (disk : Disk) (p : Path) : Prop :=
  maxPath < p.bytes.length ∨ ∃ dir name number target kind,
    disk.lookUp p = .ok (dir, .dir) ∧ disk.get? (name :: dir) = some (.link number target) ∧
      disk.isDir (p.join ⟨name⟩) = .error kind ∧ kind ≠ .notFound

theorem size_le_of_isDir {isDir : Bool} (h : disk.isDir p = .ok isDir) :
    p.bytes.length ≤ maxPath := by
  cases hplace : disk.resolve .target p with
  | error e =>
    simp only [Disk.isDir, lookUp, hplace, bind, Except.bind] at h
    cases h
  | ok place => exact (resolve_eq_ok_iff.1 hplace).1.size_le

theorem entryIsDir_link_eq_error_iff {number : Nat} {target : Path} {kind : IoKind} :
    disk.entryIsDir p (.link number target) = .error kind ↔
      disk.isDir p = .error kind ∧ kind ≠ .notFound := by
  simp only [entryIsDir]
  split
  · next isDir hisDir =>
    rw [hisDir]
    exact iff_of_false nofun fun h => nomatch h.1
  · next hmissing =>
    rw [hmissing]
    exact iff_of_false nofun fun h => h.2 (Except.error.inj h.1).symm
  · next e hother he =>
    rw [he]
    constructor
    · intro h
      cases h
      exact ⟨rfl, fun hkind => hother hkind⟩
    · exact fun h => congrArg Except.error (Except.error.inj h.1)

theorem exists_listing_iff_not_obstructed (h : disk.IsTree) (hdir : disk.isDir p = .ok true) :
    (∃ entries, disk.listing system p = .ok entries) ↔ ¬ disk.Obstructed p := by
  have hsize := size_le_of_isDir hdir
  obtain ⟨dir, hlook⟩ := isDir_eq_ok_true_iff.1 hdir
  rw [exists_listing_iff h hlook]
  constructor
  · rintro hall (hlong | ⟨dir', name, number, target, kind, hlook', hget, hkind, hne⟩)
    · exact absurd hsize (Nat.not_le.2 hlong)
    · cases hlook.symm.trans hlook'
      obtain ⟨isDir, hentry⟩ := hall name _ hget
      cases hentry.symm.trans (entryIsDir_link_eq_error_iff.2 ⟨hkind, hne⟩)
  · intro hclear name node hget
    cases hentry : disk.entryIsDir (p.join ⟨name⟩) node with
    | ok isDir => exact ⟨isDir, rfl⟩
    | error kind =>
      cases node with
      | file number => cases hentry
      | dir => cases hentry
      | link number target =>
        obtain ⟨hkind, hne⟩ := entryIsDir_link_eq_error_iff.1 hentry
        exact absurd (.inr ⟨dir, name, number, target, kind, hlook, hget, hkind, hne⟩) hclear

theorem listing_eq_notFound_iff :
    disk.listing system p = .error .notFound ↔ disk.lookUp p = .error .notFound := by
  cases hlook : disk.lookUp p with
  | error e =>
    rw [listing, hlook]
    exact ⟨fun h => congrArg Except.error (Except.error.inj h),
      fun h => congrArg Except.error (Except.error.inj h)⟩
  | ok found =>
    obtain ⟨dir, node⟩ := found
    refine iff_of_false ?_ nofun
    intro hmissing
    cases node with
    | file number =>
      rw [listing, hlook] at hmissing
      cases hmissing
    | link number target =>
      rw [listing, hlook] at hmissing
      cases hmissing
    | dir =>
      rw [listing_eq_mapM hlook] at hmissing
      obtain ⟨⟨q, node⟩, -, hentry⟩ := exists_of_mapM_eq_error hmissing
      cases hnode : disk.entryIsDir q node with
      | ok isDir =>
        rw [hnode] at hentry
        cases hentry
      | error kind =>
        rw [hnode] at hentry
        cases hentry
        cases node with
        | file number => cases hnode
        | dir => cases hnode
        | link number target => exact (entryIsDir_link_eq_error_iff.1 hnode).2 rfl

theorem lookUp_ne_notFound (h : maxPath < p.bytes.length) :
    disk.lookUp p ≠ .error .notFound := by
  have hresolve : disk.resolve .target p = .error .invalidInput ∨
      disk.resolve .target p = .error .invalidFilename := by
    have hempty : ¬ p.isEmpty = true := by
      rw [Path.isEmpty, List.isEmpty_iff]
      intro hempty
      rw [hempty] at h
      exact absurd h (by decide)
    rw [resolve, if_neg hempty, if_pos h]
    split
    · exact .inl rfl
    · exact .inr rfl
  rw [lookUp]
  intro hlook
  rcases hresolve with hresolve | hresolve
  · rw [hresolve] at hlook
    cases hlook
  · rw [hresolve] at hlook
    cases hlook

theorem not_obstructed_of_notFound (h : disk.lookUp p = .error .notFound) :
    ¬ disk.Obstructed p := by
  rintro (hlong | ⟨dir, name, number, target, kind, hlook, -⟩)
  · exact lookUp_ne_notFound hlong h
  · cases h.symm.trans hlook

end Disk

end DoctypeInterfaces.Storage
