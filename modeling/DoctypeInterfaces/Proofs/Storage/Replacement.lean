import DoctypeInterfaces.Proofs.Storage.Resolution

namespace DoctypeInterfaces.Storage.Disk

def isLink (disk : Disk) (path : Path) : Bool :=
  (disk.leadsTo? .entry path).any fun l => disk.get? l matches some (.link _ _)

variable {system : System} {disk written after other : Disk} {l k dir goal : Location}
  {node : DiskNode} {name : Bytes} {steps : List Step} {p source target : Path}
  {contents held : Bytes} {number : Nat}

theorem get?_of_ne_nil (h : l ≠ []) : disk.get? l = disk.nodes.lookup l := by
  cases l with
  | nil => exact absurd rfl h
  | cons name dir => rfl

theorem lookup_map_self {nodes : List (Location × DiskNode)} (h : (nodes.lookup l).isSome = true) :
    (nodes.map fun entry => if entry.1 = l then (l, node) else entry).lookup l = some node := by
  induction nodes with
  | nil => cases h
  | cons entry rest ih =>
    by_cases hentry : entry.1 = l
    · rw [List.map_cons, if_pos hentry, List.lookup_cons_self]
    · have hne : (l == entry.1) = false := beq_eq_false_iff_ne.2 (Ne.symm hentry)
      rw [List.lookup_cons, hne] at h
      rw [List.map_cons, if_neg hentry, List.lookup_cons, hne]
      exact ih h

theorem lookup_map_of_ne {nodes : List (Location × DiskNode)} (h : k ≠ l) :
    (nodes.map fun entry => if entry.1 = l then (l, node) else entry).lookup k =
      nodes.lookup k := by
  induction nodes with
  | nil => rfl
  | cons entry rest ih =>
    by_cases hentry : entry.1 = l
    · have hne : (k == l) = false := beq_eq_false_iff_ne.2 h
      rw [List.map_cons, if_pos hentry, List.lookup_cons, List.lookup_cons, hentry, hne]
      exact ih
    · rw [List.map_cons, if_neg hentry, List.lookup_cons, List.lookup_cons, ih]

theorem lookup_filter {α β : Type} [BEq α] [LawfulBEq α] [DecidableEq α]
    {entries : List (α × β)} {key other : α} :
    (entries.filter fun entry => entry.1 ≠ key).lookup other =
      if other = key then none else entries.lookup other := by
  induction entries with
  | nil => exact (ite_self none).symm
  | cons entry rest ih =>
    by_cases hentry : entry.1 = key
    · rw [List.filter_cons_of_neg (by simpa using hentry), ih, List.lookup_cons, hentry]
      split
      · rfl
      · next hne => rw [beq_eq_false_iff_ne.2 hne]
    · rw [List.filter_cons_of_pos (by simpa using hentry), List.lookup_cons, List.lookup_cons, ih]
      split
      · next hsame =>
        rw [← eq_of_beq hsame] at hentry
        rw [if_neg hentry]
      · rfl

theorem get?_put_self (h : l ≠ []) : (disk.put l node).get? l = some node := by
  rw [get?_of_ne_nil h, put]
  split
  · next hsome => exact lookup_map_self hsome
  · next hnone =>
    rw [Option.not_isSome_iff_eq_none] at hnone
    rw [List.lookup_append, hnone, List.lookup_cons_self]
    rfl

theorem get?_put_of_ne (h : k ≠ l) : (disk.put l node).get? k = disk.get? k := by
  cases k with
  | nil => rfl
  | cons name dir =>
    have hne : name :: dir ≠ [] := List.cons_ne_nil _ _
    rw [get?_of_ne_nil hne, get?_of_ne_nil hne, put]
    split
    · exact lookup_map_of_ne h
    · rw [List.lookup_append, List.lookup_cons, beq_eq_false_iff_ne.2 h]
      exact Option.or_none

theorem get?_erase_self (h : l ≠ []) : (disk.erase l).get? l = none := by
  rw [get?_of_ne_nil h]
  exact lookup_filter.trans (if_pos rfl)

theorem get?_erase_of_ne (h : k ≠ l) : (disk.erase l).get? k = disk.get? k := by
  cases k with
  | nil => rfl
  | cons name dir =>
    have hne : name :: dir ≠ [] := List.cons_ne_nil _ _
    rw [get?_of_ne_nil hne, get?_of_ne_nil hne]
    exact lookup_filter.trans (if_neg h)

theorem get?_setBytes : (disk.setBytes number contents).get? l = disk.get? l := by
  cases l <;> rfl

theorem bytesOf_setBytes_self : (disk.setBytes number contents).bytesOf number = contents := by
  rw [bytesOf, setBytes, List.lookup_cons_self]
  rfl

theorem bytesOf_setBytes_of_ne {other : Nat} (h : other ≠ number) :
    (disk.setBytes number contents).bytesOf other = disk.bytesOf other := by
  rw [bytesOf, setBytes, List.lookup_cons, beq_eq_false_iff_ne.2 h]
  simp only [lookup_filter, if_neg h]
  rfl

theorem bytesOf_put : (disk.put l node).bytesOf number = disk.bytesOf number := by
  rw [put]
  split <;> rfl

theorem working_put : (disk.put l node).working = disk.working := by
  rw [put]
  split <;> rfl

theorem ne_nil_of_get? (h : disk.get? l = some (.file number)) : l ≠ [] := by
  rintro rfl
  cases h

theorem get?_ne_of_freshNumber : disk.get? l ≠ some (.file disk.freshNumber) := by
  intro h
  have hle : ∀ entry ∈ disk.nodes,
      entry.2.number ≤ disk.nodes.foldr (fun entry n => max entry.2.number n) 0 := by
    induction disk.nodes with
    | nil => simp
    | cons first rest ih =>
      refine List.forall_mem_cons.2 ⟨Nat.le_max_left _ _, fun entry hentry => ?_⟩
      exact (ih entry hentry).trans (Nat.le_max_right _ _)
  rw [get?_of_ne_nil (ne_nil_of_get? h), List.lookup_eq_some_iff] at h
  obtain ⟨front, rest, hnodes, -⟩ := h
  have hlast := hle (l, .file disk.freshNumber) (by rw [hnodes]; simp)
  exact absurd hlast (Nat.not_le.2 (Nat.lt_succ_self _))

theorem isLink_iff (h : disk.leadsTo? .entry p = some l) :
    disk.isLink p = true ↔ ∃ number target, disk.get? l = some (.link number target) := by
  rw [isLink, h, Option.any_some]
  cases disk.get? l with
  | none => simp
  | some node => cases node <;> simp

theorem get?_ne_link (h : disk.isLink p = false) (hentry : disk.leadsTo? .entry p = some l)
    (number : Nat) (target : Path) : disk.get? l ≠ some (.link number target) := by
  intro hget
  rw [(isLink_iff hentry).2 ⟨number, target, hget⟩] at h
  cases h

theorem exists_eq_file (hentry : disk.leadsTo? .entry p = some l) (hlink : disk.isLink p = false)
    (hdir : disk.isDirAt l = false) (hget : disk.get? l = some node) :
    ∃ number, node = .file number := by
  cases node with
  | file number => exact ⟨number, rfl⟩
  | dir =>
    rw [isDirAt_iff.2 hget] at hdir
    cases hdir
  | link number target => exact absurd hget (get?_ne_link hlink hentry number target)

def IsFileFor (disk : Disk) (goal : Location) (number : Nat) : Prop :=
  disk.get? goal = some (.file number) ∨
    disk.get? goal = none ∧ ∀ l, disk.get? l ≠ some (.file number)

structure Written (disk written : Disk) (goal : Location) (number : Nat) (held : Bytes) : Prop where
  isFileFor : disk.IsFileFor goal number
  file : written.get? goal = some (.file number)
  entries : ∀ l, l ≠ goal → written.get? l = disk.get? l
  holds : written.bytesOf number = held
  others : ∀ other, other ≠ number → written.bytesOf other = disk.bytesOf other
  working : written.working = disk.working

theorem Written.keeps (h : disk.Written written goal number held) : disk.Keeps written := by
  intro l node hget hnode
  by_cases hl : l = goal
  · subst hl
    rcases h.isFileFor with hfile | ⟨hnone, -⟩
    · exact absurd (Option.some.inj (hget.symm.trans hfile)) (hnode number)
    · cases hget.symm.trans hnone
  · rw [h.entries l hl, hget]

theorem Written.keeps_symm (h : disk.Written written goal number held) : written.Keeps disk := by
  intro l node hget hnode
  by_cases hl : l = goal
  · subst hl
    exact absurd (Option.some.inj (hget.symm.trans h.file)) (hnode number)
  · rw [← h.entries l hl, hget]

theorem Written.isDirAt_eq (h : disk.Written written goal number held) :
    written.isDirAt l = disk.isDirAt l := by
  rw [Bool.eq_iff_iff]
  exact ⟨h.keeps_symm.isDirAt, h.keeps.isDirAt⟩

theorem written_of_openFile {opened : Disk}
    (h : disk.openFile system p = .ok (goal, number, opened)) :
    disk.leadsTo? .file p = some goal ∧
      ∀ held, disk.Written (opened.setBytes number held) goal number held := by
  have hopened : ∃ place, disk.resolve .file p = .ok place ∧ place.location = goal ∧
      disk.IsFileFor goal number ∧ opened.get? goal = some (.file number) ∧
      (∀ l, l ≠ goal → opened.get? l = disk.get? l) ∧
      (∀ other, other ≠ number → opened.bytesOf other = disk.bytesOf other) ∧
      opened.working = disk.working := by
    simp only [openFile, bind, Except.bind, pure, Except.pure] at h
    split at h
    · cases h
    next place hplace =>
    refine ⟨place, hplace, ?_⟩
    split at h
    · cases h
    split at h
    · next dir name =>
      cases h
      have hvacant := get?_of_walkLinks_vacant (resolve_eq_ok_iff.1 hplace).2
      refine ⟨rfl, .inr ⟨hvacant, fun l => get?_ne_of_freshNumber⟩, ?_, fun l hl => ?_,
        fun other hne => ?_, working_put⟩
      · rw [get?_setBytes, get?_put_self (List.cons_ne_nil _ _)]
      · rw [get?_setBytes, get?_put_of_ne hl]
      · rw [bytesOf_setBytes_of_ne hne, bytesOf_put]
    · next location =>
      split at h
      · next number' hget =>
        cases h
        exact ⟨rfl, .inl hget, get?_setBytes.trans hget, fun l _ => get?_setBytes,
          fun other hne => bytesOf_setBytes_of_ne hne, rfl⟩
      · cases h
      · cases h
  obtain ⟨place, hplace, rfl, hfileFor, hfile, hentries, hothers, hworking⟩ := hopened
  refine ⟨leadsTo?_of_resolve hplace, fun held => ?_⟩
  constructor
  case isFileFor => exact hfileFor
  case file => rw [get?_setBytes, hfile]
  case entries => exact fun l hl => get?_setBytes.trans (hentries l hl)
  case holds => exact bytesOf_setBytes_self
  case others => exact fun other hne => (bytesOf_setBytes_of_ne hne).trans (hothers other hne)
  case working => exact hworking

/-- How writing a file ends: it is not opened, writing breaks off, or the file is written. -/
inductive Overwriting (disk : Disk) (p : Path) (contents : Bytes) :
    Disk → Except IoKind Unit → Prop where
  | refused (e : IoKind) : Overwriting disk p contents disk (.error e)
  | brokenOff (e : IoKind) (size : Nat) {written : Disk} {goal : Location} {number : Nat} :
    disk.leadsTo? .file p = some goal →
    disk.Written written goal number (contents.take size) →
    Overwriting disk p contents written (.error e)
  | finished {written : Disk} {goal : Location} {number : Nat} :
    disk.leadsTo? .file p = some goal → disk.Written written goal number contents →
    Overwriting disk p contents written (.ok ())

theorem overwriting (system : System) (disk : Disk) (p : Path) (contents : Bytes) :
    Overwriting disk p contents (disk.overwrite system p contents).1
      (disk.overwrite system p contents).2 := by
  rw [overwrite]
  split
  · exact .refused _
  next goal number opened hopen =>
  obtain ⟨hgoal, hwritten⟩ := written_of_openFile hopen
  split
  · exact .brokenOff _ _ hgoal (hwritten _)
  · exact .finished hgoal (hwritten _)

theorem exists_stepsOf_of_endsWithName (hends : endsWithName p = true)
    (hslash : endsWithSlash p = false) :
    ∃ steps name, stepsOf p = steps ++ [.enter name] := by
  rw [endsWithName, filter_stepsOf] at hends
  rw [endsWithSlash, decide_eq_false_iff_not] at hslash
  cases hlast : (nameSteps p).getLast? with
  | none =>
    rw [hlast] at hends
    cases hends
  | some step =>
    obtain ⟨steps, hsteps⟩ := List.getLast?_eq_some_iff.1 hlast
    cases step with
    | enter name =>
      refine ⟨steps, name, ?_⟩
      rcases stepsOf_eq p with heq | heq
      · rw [heq, hsteps]
      · rw [heq, List.getLast?_concat] at hslash
        exact absurd rfl hslash
    | stay =>
      rw [hlast] at hends
      cases hends
    | up =>
      rw [hlast] at hends
      cases hends
    | slash =>
      rw [hlast] at hends
      cases hends

theorem rename_eq_ok (h : disk.rename system source target = .ok after) :
    ∃ old node steps name dir, disk.resolve .entry source = .ok (.found old) ∧
      disk.get? old = some node ∧ stepsOf target = steps ++ [.enter name] ∧
      disk.Arrives target steps dir ∧ name.length ≤ maxName ∧
      disk.isDirAt (name :: dir) = false ∧
      after = if disk.get? (name :: dir) = some node then disk
        else (disk.erase old).put (name :: dir) node := by
  simp only [rename, bind, Except.bind, pure, Except.pure] at h
  split at h
  · cases h
  next hsource =>
  split at h
  · cases h
  next old =>
  split at h
  case h_2 => cases h
  next node hget =>
  split at h
  · cases h
  next place hplace =>
  split at h
  · cases h
  next hends =>
  split at h
  · cases h
  next hslash =>
  obtain ⟨steps, name, hsteps⟩ := exists_stepsOf_of_endsWithName (by simpa using hends)
    (by simpa using hslash)
  obtain ⟨dir, harrives, hname, rfl⟩ := (resolve_eq_ok_iff_placeAt hsteps (by nofun)).1 hplace
  rw [location_placeAt] at h
  split at h
  · cases h
  next hdir =>
  refine ⟨old, node, steps, name, dir, hsource, hget, hsteps, harrives, hname,
    Bool.eq_false_iff.2 hdir, ?_⟩
  split at h
  · next hsame =>
    rw [if_pos hsame]
    exact (Except.ok.inj h).symm
  next hother =>
  rw [if_neg hother]
  split at h
  · cases h
  · exact (Except.ok.inj h).symm

/-- What becomes of a disk when what stands at one entry is moved to another. -/
structure Moved (disk after : Disk) (old new : Location) (node : DiskNode) : Prop where
  others : ∀ l, l ≠ new → l ≠ old → after.get? l = disk.get? l
  arrived : after.get? new = some node
  gone : disk.get? new ≠ some node → after.get? old = none
  same : disk.get? new = some node → after = disk
  bytes : ∀ number, after.bytesOf number = disk.bytesOf number
  working : after.working = disk.working

theorem moved_of_eq (hk : k ≠ []) (hl : l ≠ []) (hne : l ≠ k)
    (h : after = if disk.get? l = some node then disk else (disk.erase k).put l node) :
    disk.Moved after k l node := by
  subst h
  split
  · next hsame =>
    exact ⟨fun _ _ _ => rfl, hsame, fun hdiffer => absurd hsame hdiffer, fun _ => rfl,
      fun _ => rfl, rfl⟩
  · next hdiffer =>
    constructor
    case others =>
      exact fun other hother hgone => (get?_put_of_ne hother).trans (get?_erase_of_ne hgone)
    case arrived => exact get?_put_self hl
    case gone => exact fun _ => (get?_put_of_ne (Ne.symm hne)).trans (get?_erase_self hk)
    case same => exact fun hsame => absurd hsame hdiffer
    case bytes => exact fun _ => bytesOf_put
    case working => exact working_put

theorem leadsTo?_entry_of_keeps (hsteps : stepsOf p = steps ++ [.enter name])
    (h : disk.leadsTo? .entry p = some l) (hkeeps : disk.Keeps other)
    (hworking : other.working = disk.working) : other.leadsTo? .entry p = some l := by
  obtain ⟨dir, harrives, hname, rfl⟩ := (leadsTo?_entry_iff hsteps).1 h
  exact (leadsTo?_entry_iff hsteps).2 ⟨dir, harrives.of_keeps hkeeps hworking, hname, rfl⟩

theorem resolve_entry_of_get? (hsteps : stepsOf p = steps ++ [.enter name])
    (h : disk.leadsTo? .entry p = some l) (hget : disk.get? l = some node) :
    disk.resolve .entry p = .ok (.found l) := by
  obtain ⟨dir, harrives, hname, rfl⟩ := (leadsTo?_entry_iff hsteps).1 h
  rw [resolve_eq_ok_iff_placeAt hsteps (by nofun)]
  exact ⟨dir, harrives, hname, (placeAt_of_isSome (Option.isSome_of_eq_some hget)).symm⟩

theorem contents_of_leadsTo? (hsteps : stepsOf p = steps ++ [.enter name])
    (hentry : disk.leadsTo? .entry p = some l) (hget : disk.get? l = some (.file number)) :
    disk.contents p = .ok (disk.bytesOf number) := by
  have hlook := lookUp_of_leadsTo? hsteps hentry hget nofun
  simp only [Disk.contents, hlook, bind, Except.bind]
  rfl

variable {side : Bytes} {own beside : Location}

/-- Where writing to a path goes: to its own entry, or to where a link leads that stands there. -/
structure WritesTo (disk : Disk) (p : Path) (entry goal : Location) : Prop where
  leadsTo_entry : disk.leadsTo? .entry p = some entry
  leadsTo_goal : disk.leadsTo? .file p = some goal
  eq_of_isLink : disk.isLink p = false → goal = entry

theorem writesTo_of_leadsTo? (hsteps : stepsOf p = steps ++ [.enter name])
    (hgoal : disk.leadsTo? .file p = some goal) : ∃ dir, disk.WritesTo p (name :: dir) goal := by
  obtain ⟨place, hplace⟩ : ∃ place, disk.resolve .file p = .ok place := by
    rw [leadsTo?] at hgoal
    split at hgoal
    · next place hplace => exact ⟨place, hplace⟩
    · cases hgoal
  obtain ⟨dir, hentry⟩ := exists_leadsTo?_entry hsteps (by decide) hplace
  refine ⟨dir, hentry, hgoal, fun hlink => ?_⟩
  have hat : ∀ dir, disk.Arrives p steps dir → name.length ≤ maxName →
      disk.leadsTo? .entry p = some (name :: dir) := fun dir harrives hname =>
    (leadsTo?_entry_iff hsteps).2 ⟨dir, harrives, hname, rfl⟩
  obtain ⟨goalDir, harrives, hname, hlocation⟩ := (leadsTo?_eq_some_iff hsteps
    fun dir harrives hname _ => get?_ne_link hlink (hat dir harrives hname)).1 hgoal
  rw [hlocation]
  exact Option.some.inj ((hat goalDir harrives hname).symm.trans hentry)

/-- What stands at the entry after the file is written: the file, or the link that led to it. -/
theorem Written.get?_entry (h : disk.Written written goal number held)
    (hto : disk.WritesTo p beside goal) :
    (disk.isLink p = false ∧ written.get? beside = some (.file number)) ∨
      (disk.isLink p = true ∧ goal ≠ beside ∧ written.get? beside = disk.get? beside ∧
        ∃ number target, disk.get? beside = some (.link number target)) := by
  cases hlink : disk.isLink p with
  | false => exact .inl ⟨rfl, hto.eq_of_isLink hlink ▸ h.file⟩
  | true =>
    obtain ⟨other, target, hget⟩ := (isLink_iff hto.leadsTo_entry).1 hlink
    have hne : goal ≠ beside := by
      rintro rfl
      rcases h.isFileFor with hfile | ⟨hnone, -⟩
      · cases hget.symm.trans hfile
      · cases hget.symm.trans hnone
    exact .inr ⟨rfl, hne, h.entries beside hne.symm, other, target, hget⟩

/-- What becomes of a disk when a file is put in the place of another one: the entry of the path is
what was written beside it, that is the file unless a link stood there. Nothing is left beside it,
unless the same file, or the same link, stood at both. -/
structure Replaced (disk after : Disk) (p : Path) (contents : Bytes)
    (own beside goal : Location) (number : Nat) : Prop where
  leadsTo_own : disk.leadsTo? .entry p = some own
  writesTo : disk.WritesTo p.temporary beside goal
  isFileFor : disk.IsFileFor goal number
  noDir : disk.isDirAt own = false ∧ disk.isDirAt beside = false
  frame : ∀ l, l ≠ own → l ≠ beside → l ≠ goal → after.get? l = disk.get? l
  written : goal ≠ own → goal ≠ beside → after.get? goal = some (.file number)
  file : disk.isLink p.temporary = false → after.get? own = some (.file number)
  linked : disk.isLink p.temporary = true → after.get? own = disk.get? beside
  gone : disk.get? own ≠ disk.get? beside ∨ disk.get? beside = none → after.get? beside = none
  same : disk.get? own = disk.get? beside → after.get? beside = disk.get? beside
  holds : after.bytesOf number = contents
  others : ∀ other, other ≠ number → after.bytesOf other = disk.bytesOf other
  contents : disk.isLink p.temporary = false → disk.isLink p = false →
    after.contents p = .ok contents

/-- What becomes of a disk when a file cannot be put in the place of another one: the entry beside
it may be gone, or there may be a new file where writing to it leads, and the file there may hold a
beginning of the contents. -/
structure Spent (disk after : Disk) (p : Path) (contents : Bytes) : Prop where
  entries : ∀ l, after.get? l = disk.get? l ∨
    disk.leadsTo? .entry p.temporary = some l ∧ disk.isDirAt l = false ∧ after.get? l = none ∨
    disk.leadsTo? .file p.temporary = some l ∧ disk.get? l = none ∧
      ∃ number, after.get? l = some (.file number)
  files : ∀ number, after.bytesOf number = disk.bytesOf number ∨
    ∃ goal size, disk.leadsTo? .file p.temporary = some goal ∧ disk.IsFileFor goal number ∧
      after.bytesOf number = contents.take size

theorem spent_self : disk.Spent disk p contents :=
  ⟨fun _ => .inl rfl, fun _ => .inl rfl⟩

/-- Writing alone leaves a beginning of the contents, and perhaps a new file. -/
theorem Written.spent {size : Nat} (h : disk.Written written goal number (contents.take size))
    (hgoal : disk.leadsTo? .file p.temporary = some goal) : disk.Spent written p contents := by
  constructor
  case entries =>
    intro l
    by_cases hl : l = goal
    · subst hl
      rcases h.isFileFor with hfile | ⟨hnone, -⟩
      · exact .inl (h.file.trans hfile.symm)
      · exact .inr (.inr ⟨hgoal, hnone, number, h.file⟩)
    · exact .inl (h.entries l hl)
  case files =>
    intro other
    by_cases hother : other = number
    · subst hother
      exact .inr ⟨goal, size, hgoal, h.isFileFor, h.holds⟩
    · exact .inl (h.others other hother)

/-- Removing the entry beside the path takes away nothing else. -/
theorem Spent.erase (h : disk.Spent after p contents)
    (hbeside : disk.leadsTo? .entry p.temporary = some beside) (hne : beside ≠ [])
    (hdir : disk.isDirAt beside = false) : disk.Spent (after.erase beside) p contents := by
  refine ⟨fun l => ?_, h.files⟩
  by_cases hl : l = beside
  · subst hl
    exact .inr (.inl ⟨hbeside, hdir, get?_erase_self hne⟩)
  · rw [get?_erase_of_ne hl]
    exact h.entries l

theorem Written.isDirAt_entry (h : disk.Written written goal number held)
    (hto : disk.WritesTo p beside goal) : disk.isDirAt beside = false := by
  rw [← h.isDirAt_eq, isDirAt, decide_eq_false_iff_not]
  intro hdir
  rcases h.get?_entry hto with ⟨-, hfile⟩ | ⟨-, -, hsame, _, _, hlink⟩
  · cases hdir.symm.trans hfile
  · cases hdir.symm.trans (hsame.trans hlink)

/-- The same stands at two entries after a file was written exactly if it did before. -/
theorem Written.get?_eq_iff (h : disk.Written written goal number held)
    (hto : disk.WritesTo p beside goal) (hne : own ≠ beside) :
    written.get? own = written.get? beside ↔
      disk.get? own = disk.get? beside ∧ disk.get? beside ≠ none := by
  rcases h.get?_entry hto with ⟨hlink, hfile⟩ | ⟨-, -, hsame, _, _, hget⟩
  · obtain rfl := hto.eq_of_isLink hlink
    rw [hfile, h.entries own hne]
    rcases h.isFileFor with hold | ⟨hnone, hfresh⟩
    · rw [hold, and_iff_left (Option.some_ne_none _)]
    · exact iff_of_false (hfresh own) fun hboth => hboth.2 hnone
  · rw [hsame, hget, and_iff_left (Option.some_ne_none _)]
    by_cases hown : own = goal
    · subst hown
      rw [h.file]
      rcases h.isFileFor with hold | ⟨hnone, -⟩
      · rw [hold]
      · rw [hnone]
        exact iff_of_false nofun nofun
    · rw [h.entries own hown]

/-- If neither entry is a link, the move takes nothing but files from the ways of paths. -/
theorem Written.keeps_moved (h : disk.Written written goal number held)
    (hto : disk.WritesTo p.temporary beside goal) (hmoved : written.Moved after beside own node)
    (hown : disk.leadsTo? .entry p = some own) (hdir : disk.isDirAt own = false)
    (hlink : disk.isLink p.temporary = false) (hownLink : disk.isLink p = false) :
    disk.Keeps after := by
  intro l kept hget hkept
  by_cases hl : l = own
  · subst hl
    obtain ⟨number, rfl⟩ := exists_eq_file hown hownLink hdir hget
    exact absurd rfl (hkept number)
  by_cases hlBeside : l = beside
  · subst hlBeside
    obtain ⟨number, rfl⟩ := exists_eq_file hto.leadsTo_entry hlink (h.isDirAt_entry hto) hget
    exact absurd rfl (hkept number)
  rw [hmoved.others l hl hlBeside]
  exact h.keeps l kept hget hkept

/-- What a disk becomes when the entry beside a path is moved to the entry of the path. -/
theorem Written.replaced (h : disk.Written written goal number contents)
    (hto : disk.WritesTo p.temporary beside goal) (hnode : written.get? beside = some node)
    (hmoved : written.Moved after beside own node) (hsteps : stepsOf p = steps ++ [.enter name])
    (hown : disk.leadsTo? .entry p = some own) (hdir : disk.isDirAt own = false)
    (hne : own ≠ beside) : disk.Replaced after p contents own beside goal number := by
  have hsame : written.get? own = some node ↔
      disk.get? own = disk.get? beside ∧ disk.get? beside ≠ none := by
    rw [← hnode]
    exact h.get?_eq_iff hto hne
  have hgone : disk.get? own ≠ disk.get? beside ∨ disk.get? beside = none →
      after.get? beside = none := by
    intro hdiffer
    apply hmoved.gone
    rw [Ne, hsame]
    rintro ⟨heq, hsome⟩
    exact hdiffer.elim (fun hne => hne heq) hsome
  have hentry := h.get?_entry hto
  have hfile : disk.isLink p.temporary = false → node = .file number := by
    intro hlink
    rcases hentry with ⟨-, hfile⟩ | ⟨hlink', -⟩
    · exact Option.some.inj (hnode.symm.trans hfile)
    · rw [hlink] at hlink'
      cases hlink'
  have hself : disk.isLink p.temporary = false → after.get? own = some (.file number) :=
    fun hlink => hmoved.arrived.trans (congrArg some (hfile hlink))
  have hholds : after.bytesOf number = contents := (hmoved.bytes number).trans h.holds
  constructor
  case leadsTo_own => exact hown
  case writesTo => exact hto
  case isFileFor => exact h.isFileFor
  case noDir => exact ⟨hdir, h.isDirAt_entry hto⟩
  case frame =>
    intro l hl hlBeside hlGoal
    rw [hmoved.others l hl hlBeside, h.entries l hlGoal]
  case written =>
    exact fun hgoal hgoalBeside => (hmoved.others _ hgoal hgoalBeside).trans h.file
  case file => exact hself
  case linked =>
    intro hlink
    rcases hentry with ⟨hlink', -⟩ | ⟨-, -, hkept, -⟩
    · rw [hlink] at hlink'
      cases hlink'
    · rw [hmoved.arrived, ← hnode, hkept]
  case gone => exact hgone
  case same =>
    intro heq
    by_cases hnone : disk.get? beside = none
    · rw [hgone (.inr hnone), hnone]
    · rw [hmoved.same (hsame.2 ⟨heq, hnone⟩)]
      rcases hentry with ⟨hlink, hfile⟩ | ⟨-, -, hkept, -⟩
      · obtain rfl := hto.eq_of_isLink hlink
        rw [hfile, h.isFileFor.resolve_right fun hfresh => hnone hfresh.1]
      · exact hkept
  case holds => exact hholds
  case others => exact fun other hother => (hmoved.bytes other).trans (h.others other hother)
  case contents =>
    intro hlink hownLink
    have hkeeps := h.keeps_moved hto hmoved hown hdir hlink hownLink
    have hat := leadsTo?_entry_of_keeps hsteps hown hkeeps (hmoved.working.trans h.working)
    rw [contents_of_leadsTo? hsteps hat (hself hlink), hholds]

theorem Written.resolve_entry (h : disk.Written written goal number held)
    (hsteps : stepsOf p = steps ++ [.enter name]) (hto : disk.WritesTo p beside goal) :
    ∃ node, written.get? beside = some node ∧ written.resolve .entry p = .ok (.found beside) := by
  have hentry := leadsTo?_entry_of_keeps hsteps hto.leadsTo_entry h.keeps h.working
  rcases h.get?_entry hto with ⟨-, hfile⟩ | ⟨-, -, hkept, _, _, hlink⟩
  · exact ⟨_, hfile, resolve_entry_of_get? hsteps hentry hfile⟩
  · exact ⟨_, hkept.trans hlink, resolve_entry_of_get? hsteps hentry (hkept.trans hlink)⟩

theorem Written.exists_replaced (h : disk.Written written goal number contents)
    (hsteps : stepsOf p.temporary = steps ++ [.enter side])
    (hto : disk.WritesTo p.temporary (side :: dir) goal) (hname : p.fileName? = some name)
    (hside : name ≠ side) (hmove : written.rename system p.temporary p = .ok after) :
    ∃ own, disk.Replaced after p contents own (side :: dir) goal number := by
  obtain ⟨node, hnode, hfound⟩ := h.resolve_entry hsteps hto
  obtain ⟨old, node', steps', name', own, hold, hget, hsteps', harrives, hsize, hdir, hafter⟩ :=
    rename_eq_ok hmove
  cases hfound.symm.trans hold
  cases hnode.symm.trans hget
  cases hname.symm.trans (fileName?_of_nameSteps (stepsOf_eq_of_concat hsteps'))
  have hown : disk.leadsTo? .entry p = some (name :: own) :=
    (leadsTo?_entry_iff hsteps').2
      ⟨own, harrives.of_keeps h.keeps_symm h.working.symm, hsize, rfl⟩
  have hne : name :: own ≠ side :: dir := fun heq => hside (List.cons.inj heq).1
  have hmoved := moved_of_eq (List.cons_ne_nil _ _) (List.cons_ne_nil _ _) hne hafter
  exact ⟨name :: own, h.replaced hto hnode hmoved hsteps' hown (h.isDirAt_eq ▸ hdir) hne⟩

theorem Written.spent_removeFile (h : disk.Written written goal number contents)
    (hsteps : stepsOf p.temporary = steps ++ [.enter side])
    (hto : disk.WritesTo p.temporary (side :: dir) goal) :
    disk.Spent (written.removeFile system p.temporary) p contents := by
  obtain ⟨-, -, hfound⟩ := h.resolve_entry hsteps hto
  have hall : disk.Written written goal number (contents.take contents.length) := by
    rwa [List.take_length]
  have hspent := hall.spent hto.leadsTo_goal
  rw [removeFile, hfound]
  dsimp only
  split
  · exact hspent
  · exact hspent.erase hto.leadsTo_entry (List.cons_ne_nil _ _) (h.isDirAt_entry hto)

theorem length_encodeUtf8_tmp : (Text.encodeUtf8 ".tmp").length = 4 := by
  decide

inductive Replacing (disk : Disk) (p : Path) (contents : Bytes) :
    Disk → Except IoKind Unit → Prop where
  | failed (e : IoKind) {after : Disk} : disk.Spent after p contents →
    Replacing disk p contents after (.error e)
  | done {after : Disk} {own beside goal : Location} {number : Nat} :
    disk.Replaced after p contents own beside goal number →
    Replacing disk p contents after (.ok ())

theorem replacing_writeAtomic (system : System) (hname : p.fileName? = some name) :
    Replacing disk p contents (disk.writeAtomic system p contents).1
      (disk.writeAtomic system p contents).2 := by
  obtain ⟨steps, hsteps⟩ := exists_stepsOf_temporary hname
  have hside : name ≠ name ++ Text.encodeUtf8 ".tmp" := by
    intro heq
    have hlength := congrArg List.length heq
    rw [List.length_append, length_encodeUtf8_tmp] at hlength
    omega
  have hwriting := overwriting system disk p.temporary contents
  rw [writeAtomic]
  generalize disk.overwrite system p.temporary contents = outcome at hwriting ⊢
  obtain ⟨written, outcome⟩ := outcome
  dsimp only at hwriting
  cases hwriting with
  | refused e => exact .failed e spent_self
  | brokenOff e size hgoal hwritten => exact .failed e (hwritten.spent hgoal)
  | finished hgoal hwritten =>
    obtain ⟨dir, hto⟩ := writesTo_of_leadsTo? hsteps hgoal
    cases hmove : written.rename system p.temporary p with
    | error e =>
      simp only [hmove]
      exact .failed e (hwritten.spent_removeFile hsteps hto)
    | ok moved =>
      simp only [hmove]
      obtain ⟨own, hreplaced⟩ := hwritten.exists_replaced hsteps hto hname hside hmove
      exact .done hreplaced

/-- Putting a file in the place of another one changes nothing but the entry of the path, the one
beside it, and where a link leads that stood there. If it fails, it may have cost the entry beside
the path, or have left one there, and what was held by the file that writing to it leads to. This
holds whatever the system refuses, and of files that stand at several places. -/
theorem writeAtomic_frame (system : System) {result : Except IoError Unit}
    (hname : p.fileName?.isSome = true)
    (h : (answer system (.writeAtomic p contents)).run disk = (result, after)) :
    (result = .ok () → ∃ own beside goal number,
      disk.Replaced after p contents own beside goal number) ∧
    ∀ e, result = .error e → disk.Spent after p contents := by
  obtain ⟨name, hname⟩ := Option.isSome_iff_exists.1 hname
  obtain ⟨hresult, rfl⟩ : (disk.writeAtomic system p contents).2.mapError error = result ∧
      (disk.writeAtomic system p contents).1 = after := Prod.mk.inj h
  have hreplacing : Replacing disk p contents _ _ := replacing_writeAtomic system hname
  generalize (disk.writeAtomic system p contents).1 = after at hreplacing ⊢
  generalize (disk.writeAtomic system p contents).2 = outcome at hreplacing hresult
  cases hreplacing with
  | failed e hspent =>
    subst hresult
    exact ⟨nofun, fun _ _ => hspent⟩
  | done hreplaced =>
    subst hresult
    exact ⟨fun _ => ⟨_, _, _, _, hreplaced⟩, nofun⟩

/-- A directory `d` with the files `x` and `x.tmp`, which also stand at `kept` and `spare`, and a
link to the directory. -/
def sharedDisk : Disk :=
  let files := (empty.insert (.ofText "d/x") [1]).insert (.ofText "d/x.tmp") [2]
  let named := (files.put (.ofTexts ["kept", "work"]) (.file 1)).put (.ofTexts ["spare", "work"])
    (.file 2)
  named.symlink (.ofText "s") (.ofText "d")

theorem sharedDisk_evaluated :
    (Path.ofText "s/x").fileName?.isSome = true ∧
      sharedDisk.isLink (Path.ofText "s/x").temporary = false ∧
      sharedDisk.isLink (.ofText "s/x") = false ∧
      ((answer .plain (.writeAtomic (.ofText "s/x") [3])).run sharedDisk).1.isOk = true ∧
      sharedDisk.leadsTo? .entry (.ofText "s/x") = some (.ofTexts ["x", "d", "work"]) ∧
      sharedDisk.leadsTo? .entry (Path.ofText "s/x").temporary =
        some (.ofTexts ["x.tmp", "d", "work"]) ∧
      sharedDisk.get? (.ofTexts ["x.tmp", "d", "work"]) = some (.file 2) ∧
      sharedDisk.get? (.ofTexts ["x", "d", "work"]) = some (.file 1) ∧
      sharedDisk.bytesOf 1 = [1] := by
  decide +kernel

theorem file_replaced_through_link :
    ∃ after, (answer .plain (.writeAtomic (.ofText "s/x") [3])).run sharedDisk = (.ok (), after) ∧
      after.contents (.ofText "s/x") = .ok [3] ∧
      after.get? (.ofTexts ["x.tmp", "d", "work"]) = none ∧
      (∀ l, l ≠ .ofTexts ["x", "d", "work"] → l ≠ .ofTexts ["x.tmp", "d", "work"] →
        after.get? l = sharedDisk.get? l) ∧
      after.bytesOf 1 = [1] ∧ after.bytesOf 2 = [3] := by
  obtain ⟨hname, hlink, hownLink, hok, hown, hbeside, hspare, hkept, hbytes⟩ := sharedDisk_evaluated
  cases hrun : (answer .plain (.writeAtomic (.ofText "s/x") [3])).run sharedDisk with
  | mk result after =>
    rw [hrun] at hok
    cases result with
    | error e => cases hok
    | ok =>
      obtain ⟨hreplaced, -⟩ := writeAtomic_frame .plain hname hrun
      obtain ⟨own, beside, goal, number, hreplaced⟩ := hreplaced rfl
      cases hown.symm.trans hreplaced.leadsTo_own
      cases hbeside.symm.trans hreplaced.writesTo.leadsTo_entry
      cases hreplaced.writesTo.eq_of_isLink hlink
      have hnumber : number = 2 := by
        rcases hreplaced.isFileFor with hfile | ⟨hnone, -⟩
        · exact (DiskNode.file.inj (Option.some.inj (hspare.symm.trans hfile))).symm
        · cases hspare.symm.trans hnone
      subst hnumber
      refine ⟨after, rfl, hreplaced.contents hlink hownLink, hreplaced.gone (.inl ?_),
        fun l hl hlBeside => hreplaced.frame l hl hlBeside hlBeside,
        (hreplaced.others 1 (by decide)).trans hbytes, hreplaced.holds⟩
      rw [hkept, hspare]
      decide

/-- Writing to a path can cost the file beside it, also when nothing is written, and the file that a
link beside it leads to. On a full disk it leaves there what could be written. -/
theorem file_beside_lost :
    let spare := empty.insert (.ofText "x.tmp") [1]
    let blocked := (spare.createDirAll (.ofText "x")).1
    let linked := (empty.insert (.ofText "y") [1]).symlink (.ofText "x.tmp") (.ofText "y")
    let full := { System.plain with breaksOff := fun _ => some (1, .other "StorageFull") }
    (((answer .plain (.writeAtomic (.ofText "x") [2])).run spare).1.isOk = true ∧
      spare.contents (.ofText "x.tmp") = .ok [1] ∧
      ((answer .plain (.writeAtomic (.ofText "x") [2])).run spare).2.get?
        (.ofTexts ["x.tmp", "work"]) = none) ∧
    (((answer .plain (.writeAtomic (.ofText "x") [2])).run blocked).1.isOk = false ∧
      blocked.contents (.ofText "x.tmp") = .ok [1] ∧
      ((answer .plain (.writeAtomic (.ofText "x") [2])).run blocked).2.get?
        (.ofTexts ["x.tmp", "work"]) = none) ∧
    (((answer .plain (.writeAtomic (.ofText "x") [2])).run linked).1.isOk = true ∧
      linked.contents (.ofText "y") = .ok [1] ∧
      ((answer .plain (.writeAtomic (.ofText "x") [2])).run linked).2.contents (.ofText "y") =
        .ok [2]) ∧
    ((answer full (.writeAtomic (.ofText "x") [2, 3])).run spare).1.isOk = false ∧
      ((answer full (.writeAtomic (.ofText "x") [2, 3])).run spare).2.contents (.ofText "x.tmp") =
        .ok [2] := by
  decide +kernel

end DoctypeInterfaces.Storage.Disk
