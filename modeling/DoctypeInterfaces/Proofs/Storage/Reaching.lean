import DoctypeInterfaces.Storage.Disk

namespace DoctypeInterfaces.Storage.Disk

def linkStart (target : Path) (dir : Location) : Location :=
  if target.isAbsolute then [] else dir

/-- Whether steps lead from one location to a directory, with at most so many links that are
followed, and with so many of these left. -/
inductive Reaches (disk : Disk) : Nat → Location → List Step → Nat → Location → Prop where
  | here {links : Nat} {l : Location} : disk.isDirAt l = true → Reaches disk links l [] links l
  | stay {links left : Nat} {l dir : Location} {rest : List Step} : disk.isDirAt l = true →
    Reaches disk links l rest left dir → Reaches disk links l (.stay :: rest) left dir
  | slash {links left : Nat} {l dir : Location} {rest : List Step} : disk.isDirAt l = true →
    Reaches disk links l rest left dir → Reaches disk links l (.slash :: rest) left dir
  | up {links left : Nat} {l dir : Location} {rest : List Step} : disk.isDirAt l = true →
    Reaches disk links l.tail rest left dir → Reaches disk links l (.up :: rest) left dir
  | enter {links left : Nat} {l dir : Location} {rest : List Step} {name : Bytes} :
    disk.isDirAt l = true → name.length ≤ maxName → disk.get? (name :: l) = some .dir →
    Reaches disk links (name :: l) rest left dir →
    Reaches disk links l (.enter name :: rest) left dir
  | follow {links left number : Nat} {l dir : Location} {rest : List Step} {name : Bytes}
      {target : Path} :
    disk.isDirAt l = true → name.length ≤ maxName →
    disk.get? (name :: l) = some (.link number target) →
    Reaches disk links (linkStart target l) (stepsOf target ++ rest) left dir →
    Reaches disk (links + 1) l (.enter name :: rest) left dir

variable {disk other : Disk} {ending : Ending} {links left : Nat} {l dir : Location}
  {steps rest : List Step} {name : Bytes} {place : Place}
  {follow : Location → List Step → Except IoKind Place}

theorem isDirAt_iff : disk.isDirAt l = true ↔ disk.get? l = some .dir := by
  rw [isDirAt, decide_eq_true_iff]

theorem Reaches.isDirAt_start (h : disk.Reaches links l steps left dir) :
    disk.isDirAt l = true := by
  cases h <;> assumption

theorem Reaches.isDirAt (h : disk.Reaches links l steps left dir) : disk.isDirAt dir = true := by
  induction h with
  | here hdir => exact hdir
  | stay _ _ ih => exact ih
  | slash _ _ ih => exact ih
  | up _ _ ih => exact ih
  | enter _ _ _ _ ih => exact ih
  | follow _ _ _ _ ih => exact ih

theorem isDirAt_of_walk {step : Step} (h : walk disk ending follow l (step :: rest) = .ok place) :
    disk.isDirAt l = true := by
  cases hdir : disk.isDirAt l with
  | true => rfl
  | false =>
    unfold walk at h
    rw [hdir] at h
    cases h

theorem walk_stay (hdir : disk.isDirAt l = true) :
    walk disk ending follow l (.stay :: rest) = walk disk ending follow l rest := by
  rw [walk, hdir]
  rfl

theorem walk_slash (hdir : disk.isDirAt l = true) :
    walk disk ending follow l (.slash :: rest) = walk disk ending follow l rest := by
  rw [walk, hdir]
  rfl

theorem walk_up (hdir : disk.isDirAt l = true) :
    walk disk ending follow l (.up :: rest) = walk disk ending follow l.tail rest := by
  rw [walk, hdir]
  rfl

theorem walk_enter (hdir : disk.isDirAt l = true) (hrest : rest ≠ []) (hslash : rest ≠ [.slash]) :
    walk disk ending follow l (.enter name :: rest) =
      if maxName < name.length then .error .invalidFilename
      else
        match disk.get? (name :: l) with
        | none => .error .notFound
        | some (.link _ target) => follow (linkStart target l) (stepsOf target ++ rest)
        | some _ => walk disk ending follow (name :: l) rest := by
  have hempty : rest.isEmpty = false := by simpa using hrest
  rw [walk, hdir]
  simp only [Bool.not_true, Bool.false_eq_true, if_false, hslash, decide_false, Bool.and_false,
    hempty, Bool.false_and, linkStart]
  split
  · rfl
  · cases disk.get? (name :: l) with
    | none => rfl
    | some node =>
      cases node with
      | file number => rfl
      | dir => rfl
      | link number target =>
        dsimp only
        split <;> rfl

def placeAt (disk : Disk) (dir : Location) (name : Bytes) : Place :=
  if (disk.get? (name :: dir)).isSome then .found (name :: dir) else .vacant dir name

theorem walk_enter_last (hdir : disk.isDirAt l = true)
    (hlink : name.length ≤ maxName → ending.followsLink = true →
      ∀ number target, disk.get? (name :: l) ≠ some (.link number target)) :
    walk disk ending follow l [.enter name] =
      if maxName < name.length then .error .invalidFilename
      else .ok (disk.placeAt l name) := by
  rw [walk, hdir]
  simp only [Bool.not_true, Bool.false_eq_true, if_false, List.nil_eq, reduceCtorEq, decide_false,
    Bool.and_false, List.isEmpty_nil, Bool.true_and, if_true]
  split
  · rfl
  · next hname =>
    rw [placeAt]
    cases hget : disk.get? (name :: l) with
    | none => rfl
    | some node =>
      cases node with
      | file number => rfl
      | dir => rfl
      | link number target =>
        have hends : ending.followsLink = false := by
          rw [Bool.eq_false_iff]
          exact fun hfollows => hlink (Nat.not_lt.1 hname) hfollows number target hget
        rw [hends]
        rfl

theorem exists_walkLinks_eq (disk : Disk) (ending : Ending) (links : Nat) :
    ∃ follow, walkLinks disk ending links = walk disk ending follow := by
  cases links with
  | zero => exact ⟨_, rfl⟩
  | succ links => exact ⟨_, rfl⟩

theorem append_enter_ne_slash (steps : List Step) (name : Bytes) :
    steps ++ [.enter name] ≠ [.slash] := by
  intro h
  have hlast := congrArg List.getLast? h
  rw [List.getLast?_concat] at hlast
  cases hlast

/-- The steps before a name lead to a directory, and the way goes on from there. -/
theorem Reaches.walkLinks_append (h : disk.Reaches links l steps left dir) :
    walkLinks disk ending links l (steps ++ [.enter name]) =
      walkLinks disk ending left dir [.enter name] := by
  induction h with
  | here => rfl
  | @stay links left l dir rest hdir _ ih =>
    obtain ⟨follow, hfollow⟩ := exists_walkLinks_eq disk ending links
    rw [hfollow] at ih ⊢
    rw [List.cons_append, walk_stay hdir, ih]
  | @slash links left l dir rest hdir _ ih =>
    obtain ⟨follow, hfollow⟩ := exists_walkLinks_eq disk ending links
    rw [hfollow] at ih ⊢
    rw [List.cons_append, walk_slash hdir, ih]
  | @up links left l dir rest hdir _ ih =>
    obtain ⟨follow, hfollow⟩ := exists_walkLinks_eq disk ending links
    rw [hfollow] at ih ⊢
    rw [List.cons_append, walk_up hdir, ih]
  | @enter links left l dir rest entered hdir hname hget _ ih =>
    obtain ⟨follow, hfollow⟩ := exists_walkLinks_eq disk ending links
    rw [hfollow] at ih ⊢
    rw [List.cons_append, walk_enter hdir (by simp) (append_enter_ne_slash _ _),
      if_neg (Nat.not_lt.2 hname), hget]
    exact ih
  | @follow links left number l dir rest entered target hdir hname hget _ ih =>
    rw [List.append_assoc] at ih
    rw [← ih]
    change walk disk ending (walkLinks disk ending links) l _ = _
    rw [List.cons_append, walk_enter hdir (by simp) (append_enter_ne_slash _ _),
      if_neg (Nat.not_lt.2 hname), hget]

/-- Whether the way to a name leads over a directory that is reached by following links. -/
def GoesOver (disk : Disk) (ending : Ending) (links : Nat) (l : Location) (steps : List Step)
    (name : Bytes) (place : Place) : Prop :=
  ∃ left dir, disk.Reaches links l steps left dir ∧
    walkLinks disk ending left dir [.enter name] = .ok place

theorem goesOver_of_walk (hwalk : walkLinks disk ending links = walk disk ending follow)
    (hfollow : ∀ l steps, follow l (steps ++ [.enter name]) = .ok place →
      ∃ fewer, links = fewer + 1 ∧ disk.GoesOver ending fewer l steps name place)
    (h : walk disk ending follow l (steps ++ [.enter name]) = .ok place) :
    disk.GoesOver ending links l steps name place := by
  induction steps generalizing l with
  | nil =>
    have hdir := isDirAt_of_walk h
    exact ⟨links, l, .here hdir, by rw [hwalk]; exact h⟩
  | cons step rest ih =>
    rw [List.cons_append] at h
    have hdir := isDirAt_of_walk h
    cases step with
    | stay =>
      rw [walk_stay hdir] at h
      obtain ⟨left, dir, hreaches, hlast⟩ := ih h
      exact ⟨left, dir, .stay hdir hreaches, hlast⟩
    | slash =>
      rw [walk_slash hdir] at h
      obtain ⟨left, dir, hreaches, hlast⟩ := ih h
      exact ⟨left, dir, .slash hdir hreaches, hlast⟩
    | up =>
      rw [walk_up hdir] at h
      obtain ⟨left, dir, hreaches, hlast⟩ := ih h
      exact ⟨left, dir, .up hdir hreaches, hlast⟩
    | enter entered =>
      rw [walk_enter hdir (by simp) (append_enter_ne_slash _ _)] at h
      split at h
      · cases h
      · next hname =>
        have hname := Nat.not_lt.1 hname
        split at h
        · cases h
        · next number target hget =>
          rw [← List.append_assoc] at h
          obtain ⟨fewer, rfl, left, dir, hreaches, hlast⟩ := hfollow _ _ h
          exact ⟨left, dir, .follow hdir hname hget hreaches, hlast⟩
        · next node hlink hget =>
          obtain ⟨left, dir, hreaches, hlast⟩ := ih h
          have hentered := isDirAt_iff.1 hreaches.isDirAt_start
          exact ⟨left, dir, .enter hdir hname hentered hreaches, hlast⟩

/-- A path that ends with a name leads over the directory that the steps before it reach. -/
theorem walkLinks_append_iff :
    walkLinks disk ending links l (steps ++ [.enter name]) = .ok place ↔
      disk.GoesOver ending links l steps name place := by
  constructor
  · intro h
    induction links generalizing l steps with
    | zero => exact goesOver_of_walk rfl (fun _ _ hnone => by cases hnone) h
    | succ fewer ih => exact goesOver_of_walk rfl (fun _ _ hnext => ⟨fewer, rfl, ih hnext⟩) h
  · rintro ⟨left, dir, hreaches, hlast⟩
    rw [hreaches.walkLinks_append, hlast]

/-- The name at the end of a path leads to its entry, where no link is followed. -/
theorem walkLinks_enter_iff (hdir : disk.isDirAt dir = true)
    (hlink : name.length ≤ maxName → ending.followsLink = true →
      ∀ number target, disk.get? (name :: dir) ≠ some (.link number target)) :
    walkLinks disk ending left dir [.enter name] = .ok place ↔
      name.length ≤ maxName ∧ place = disk.placeAt dir name := by
  obtain ⟨follow, hfollow⟩ := exists_walkLinks_eq disk ending left
  rw [hfollow, walk_enter_last hdir hlink]
  split
  · next hlong => simp [Nat.not_le.2 hlong]
  · next hname =>
    rw [and_iff_right (Nat.not_lt.1 hname), Except.ok.injEq, eq_comm]

theorem walk_enter_target (hdir : disk.isDirAt l = true) :
    walk disk .target follow l (.enter name :: rest) =
      if maxName < name.length then .error .invalidFilename
      else
        match disk.get? (name :: l) with
        | none => if rest.isEmpty then .ok (.vacant l name) else .error .notFound
        | some (.link _ target) => follow (linkStart target l) (stepsOf target ++ rest)
        | some _ => walk disk .target follow (name :: l) rest := by
  rw [walk, hdir]
  simp only [Bool.not_true, Bool.false_eq_true, if_false, reduceCtorEq, decide_false,
    Bool.false_and, Ending.followsLink, Bool.and_false, linkStart]
  split
  · rfl
  · cases disk.get? (name :: l) with
    | none => rfl
    | some node =>
      cases node with
      | file number => rfl
      | dir => rfl
      | link number target =>
        dsimp only
        split <;> rfl

theorem reaches_of_walk
    (hfollow : ∀ l steps, follow l steps = .ok (.found dir) →
      ∃ fewer left, links = fewer + 1 ∧ disk.Reaches fewer l steps left dir)
    (hend : disk.isDirAt dir = true)
    (h : walk disk .target follow l steps = .ok (.found dir)) :
    ∃ left, disk.Reaches links l steps left dir := by
  induction steps generalizing l with
  | nil =>
    cases h
    exact ⟨links, .here hend⟩
  | cons step rest ih =>
    have hdir := isDirAt_of_walk h
    cases step with
    | stay =>
      rw [walk_stay hdir] at h
      obtain ⟨left, hreaches⟩ := ih h
      exact ⟨left, .stay hdir hreaches⟩
    | slash =>
      rw [walk_slash hdir] at h
      obtain ⟨left, hreaches⟩ := ih h
      exact ⟨left, .slash hdir hreaches⟩
    | up =>
      rw [walk_up hdir] at h
      obtain ⟨left, hreaches⟩ := ih h
      exact ⟨left, .up hdir hreaches⟩
    | enter entered =>
      rw [walk_enter_target hdir] at h
      split at h
      · cases h
      · next hname =>
        have hname := Nat.not_lt.1 hname
        split at h
        · split at h <;> cases h
        · next number target hget =>
          obtain ⟨fewer, left, rfl, hreaches⟩ := hfollow _ _ h
          exact ⟨left, .follow hdir hname hget hreaches⟩
        · next node hlink hget =>
          obtain ⟨left, hreaches⟩ := ih h
          exact ⟨left, .enter hdir hname (isDirAt_iff.1 hreaches.isDirAt_start) hreaches⟩

theorem reaches_of_walkLinks (hend : disk.isDirAt dir = true)
    (h : walkLinks disk .target links l steps = .ok (.found dir)) :
    ∃ left, disk.Reaches links l steps left dir := by
  induction links generalizing l steps with
  | zero => exact reaches_of_walk (fun _ _ hnone => by cases hnone) hend h
  | succ fewer ih =>
    refine reaches_of_walk (fun l steps hnext => ?_) hend h
    obtain ⟨left, hreaches⟩ := ih hnext
    exact ⟨fewer, left, rfl, hreaches⟩

theorem Reaches.of_append_slash (h : disk.Reaches links l (steps ++ [.slash]) left dir) :
    disk.Reaches links l steps left dir := by
  generalize hall : steps ++ [.slash] = all at h
  induction h generalizing steps with
  | here => exact absurd hall (List.append_ne_nil_of_right_ne_nil _ (List.cons_ne_nil _ _))
  | stay hdir _ ih =>
    cases steps with
    | nil => cases hall
    | cons step steps =>
      obtain ⟨rfl, hrest⟩ := List.cons.inj hall
      exact .stay hdir (ih hrest)
  | slash hdir hlater ih =>
    cases steps with
    | nil =>
      obtain ⟨-, rfl⟩ := List.cons.inj hall
      exact hlater
    | cons step steps =>
      obtain ⟨rfl, hrest⟩ := List.cons.inj hall
      exact .slash hdir (ih hrest)
  | up hdir _ ih =>
    cases steps with
    | nil => cases hall
    | cons step steps =>
      obtain ⟨rfl, hrest⟩ := List.cons.inj hall
      exact .up hdir (ih hrest)
  | enter hdir hname hget _ ih =>
    cases steps with
    | nil => cases hall
    | cons step steps =>
      obtain ⟨rfl, hrest⟩ := List.cons.inj hall
      exact .enter hdir hname hget (ih hrest)
  | follow hdir hname hget _ ih =>
    cases steps with
    | nil => cases hall
    | cons step steps =>
      obtain ⟨rfl, rfl⟩ := List.cons.inj hall
      exact .follow hdir hname hget (ih (List.append_assoc _ _ _))

def Keeps (disk other : Disk) : Prop :=
  ∀ l node, disk.get? l = some node → (∀ number, node ≠ .file number) →
    other.get? l = some node

theorem Keeps.isDirAt (h : disk.Keeps other) (hdir : disk.isDirAt l = true) :
    other.isDirAt l = true :=
  isDirAt_iff.2 (h l .dir (isDirAt_iff.1 hdir) nofun)

theorem Reaches.of_keeps (h : disk.Reaches links l steps left dir) (hkeeps : disk.Keeps other) :
    other.Reaches links l steps left dir := by
  induction h with
  | here hdir => exact .here (hkeeps.isDirAt hdir)
  | stay hdir _ ih => exact .stay (hkeeps.isDirAt hdir) ih
  | slash hdir _ ih => exact .slash (hkeeps.isDirAt hdir) ih
  | up hdir _ ih => exact .up (hkeeps.isDirAt hdir) ih
  | enter hdir hname hget _ ih =>
    exact .enter (hkeeps.isDirAt hdir) hname (hkeeps _ _ hget nofun) ih
  | follow hdir hname hget _ ih =>
    exact .follow (hkeeps.isDirAt hdir) hname (hkeeps _ _ hget nofun) ih

theorem get?_of_walk_vacant
    (hfollow : ∀ l steps, follow l steps = .ok (.vacant dir name) →
      disk.get? (name :: dir) = none)
    (h : walk disk ending follow l steps = .ok (.vacant dir name)) :
    disk.get? (name :: dir) = none := by
  induction steps generalizing l with
  | nil => cases h
  | cons step rest ih =>
    have hdir := isDirAt_of_walk h
    cases step with
    | stay => exact ih ((walk_stay hdir).symm.trans h)
    | slash => exact ih ((walk_slash hdir).symm.trans h)
    | up => exact ih ((walk_up hdir).symm.trans h)
    | enter entered =>
      rw [walk, hdir] at h
      simp only [Bool.not_true, Bool.false_eq_true, if_false] at h
      split at h
      · cases h
      split at h
      · cases h
      split at h
      · next hget =>
        split at h
        · cases h
          exact hget
        · cases h
      · split at h
        · cases h
        split at h
        · exact hfollow _ _ h
        · exact hfollow _ _ h
      · exact ih h

theorem get?_of_walkLinks_vacant
    (h : walkLinks disk ending links l steps = .ok (.vacant dir name)) :
    disk.get? (name :: dir) = none := by
  induction links generalizing l steps with
  | zero => exact get?_of_walk_vacant (fun _ _ hnone => by cases hnone) h
  | succ fewer ih => exact get?_of_walk_vacant (fun _ _ hnext => ih hnext) h

theorem size_le_of_walkLinks (h : walkLinks disk ending links l [.enter name] = .ok place) :
    name.length ≤ maxName := by
  obtain ⟨follow, hfollow⟩ := exists_walkLinks_eq disk ending links
  rw [hfollow] at h
  have hdir := isDirAt_of_walk h
  rw [walk, hdir] at h
  simp only [Bool.not_true, Bool.false_eq_true, if_false] at h
  split at h
  · cases h
  split at h
  · cases h
  next hname => exact Nat.not_lt.1 hname

end DoctypeInterfaces.Storage.Disk
