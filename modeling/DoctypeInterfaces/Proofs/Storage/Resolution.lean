import DoctypeInterfaces.Proofs.Path.Join
import DoctypeInterfaces.Proofs.Storage.Reaching

namespace DoctypeInterfaces.Storage.Disk

variable {disk other : Disk} {ending : Ending} {l dir : Location} {steps : List Step}
  {name : Bytes} {place : Place} {node : DiskNode} {p path : Path}

def nameSteps (path : Path) : List Step :=
  path.segments.filterMap stepOf?

theorem slash_notMem_nameSteps (path : Path) : Step.slash ∉ nameSteps path := by
  intro hmem
  obtain ⟨piece, -, hpiece⟩ := List.mem_filterMap.1 hmem
  unfold stepOf? at hpiece
  repeat' split at hpiece
  all_goals cases hpiece

theorem stepsOf_eq (path : Path) :
    stepsOf path = nameSteps path ∨ stepsOf path = nameSteps path ++ [.slash] := by
  rw [stepsOf, nameSteps]
  split
  · exact .inr rfl
  · exact .inl rfl

theorem filter_stepsOf (path : Path) : (stepsOf path).filter (· ≠ .slash) = nameSteps path := by
  have hnames : (nameSteps path).filter (· ≠ .slash) = nameSteps path := by
    rw [List.filter_eq_self]
    intro step hstep
    exact decide_eq_true fun hslash => slash_notMem_nameSteps path (hslash ▸ hstep)
  rcases stepsOf_eq path with hsteps | hsteps
  · rw [hsteps, hnames]
  · rw [hsteps, List.filter_append, hnames]
    exact List.append_nil _

theorem stepsOf_eq_of_concat {path : Path} (h : stepsOf path = steps ++ [.enter name]) :
    nameSteps path = steps ++ [.enter name] := by
  rcases stepsOf_eq path with hsteps | hsteps
  · rw [← hsteps, h]
  · have hlast := congrArg List.getLast? (h.symm.trans hsteps)
    rw [List.getLast?_concat, List.getLast?_concat] at hlast
    cases hlast

theorem stepOf?_eq_some_enter {piece : Bytes} (h : stepOf? piece = some (.enter name)) :
    Path.innerComponent? piece = some (.name name) ∧
      Path.firstComponent? piece = some (.name name) := by
  unfold stepOf? at h
  split at h
  · cases h
  next hempty =>
  split at h
  · cases h
  next hdot =>
  split at h
  · cases h
  next hdots =>
  rw [← Step.enter.inj (Option.some.inj h)]
  have hinner : Path.innerComponent? piece = some (.name piece) := by
    rw [Path.innerComponent?, if_neg (not_or.2 ⟨hempty, hdot⟩), if_neg hdots]
  exact ⟨hinner, by rw [Path.firstComponent?, if_neg hdot, hinner]⟩

theorem innerComponent?_eq_none_of_stepOf? {piece : Bytes} (h : stepOf? piece = none) :
    Path.innerComponent? piece = none := by
  unfold stepOf? at h
  split at h
  · next hempty => rw [Path.innerComponent?, if_pos (.inl hempty)]
  split at h
  · cases h
  split at h
  · cases h
  · cases h

theorem fileName?_of_nameSteps (h : nameSteps p = steps ++ [.enter name]) :
    p.fileName? = some name := by
  obtain ⟨front, later, hsegments, -, hlater⟩ := List.filterMap_eq_append_iff.1 h
  obtain ⟨before, piece, trailing, rfl, -, hpiece, htrailing⟩ :=
    List.filterMap_eq_cons_iff.1 hlater
  obtain ⟨hinner, hfirst⟩ := stepOf?_eq_some_enter hpiece
  have hnone : trailing.filterMap Path.innerComponent? = [] := by
    rw [List.filterMap_eq_nil_iff] at htrailing ⊢
    exact fun other hother => innerComponent?_eq_none_of_stepOf? (htrailing other hother)
  have hlast : ∃ init, p.components = init ++ [.name name] := by
    rw [← List.append_assoc] at hsegments
    cases hfront : front ++ before with
    | nil =>
      rw [hfront] at hsegments
      have hne : piece ≠ [] := by
        rintro rfl
        cases hfirst
      refine ⟨[], ?_⟩
      rw [Path.components_of_segments hsegments (fun hempty => hne hempty.1), hnone,
        Path.frontComponents, if_neg (by simpa using hne), hfirst]
      rfl
    | cons first rest =>
      rw [hfront] at hsegments
      refine ⟨Path.frontComponents first ++ rest.filterMap Path.innerComponent?, ?_⟩
      rw [List.cons_append] at hsegments
      rw [Path.components_of_segments hsegments (by simp), List.filterMap_append,
        List.filterMap_cons_some hinner, hnone, List.append_assoc]
  obtain ⟨init, hcomponents⟩ := hlast
  rw [Path.fileName?, hcomponents, List.getLast?_concat]

theorem stepOf?_eq_enter (h : Path.IsName name) : stepOf? name = some (.enter name) := by
  obtain ⟨-, hempty, hdot, hdots⟩ := Path.isName_iff.1 h
  rw [stepOf?, if_neg hempty, if_neg hdot, if_neg hdots]

theorem stepsOf_of_isName (h : Path.IsName name) : stepsOf ⟨name⟩ = [.enter name] := by
  rw [stepsOf, h.segment.1, List.filterMap_cons_some (stepOf?_eq_enter h)]
  rfl

/-- The last step on the way of a path with a name put below it goes to that name. -/
theorem stepsOf_join (h : Path.IsName name) :
    stepsOf (p.join ⟨name⟩) = nameSteps p ++ [.enter name] := by
  cases hp : p.isEmpty with
  | true =>
    have hbytes : p = ⟨[]⟩ := congrArg Path.mk (List.isEmpty_iff.1 hp)
    rw [Path.join, hp, Bool.or_true, if_pos rfl, stepsOf_of_isName h, hbytes]
    rfl
  | false =>
    obtain ⟨first, front, trailing, hsegments, htrailing, hjoined⟩ :=
      Path.exists_segments_join hp h.isAbsolute
    have hnone : trailing.filterMap stepOf? = [] := by
      rw [List.filterMap_eq_nil_iff]
      intro piece hpiece
      rw [htrailing piece hpiece]
      rfl
    have hlast : (p.join ⟨name⟩).segments.getLast? = some name := by
      rw [hjoined, h.segment.1, ← List.cons_append, List.getLast?_concat]
    have hsteps : nameSteps (p.join ⟨name⟩) = nameSteps p ++ [.enter name] := by
      rw [nameSteps, nameSteps, hjoined, hsegments, h.segment.1, ← List.cons_append,
        ← List.cons_append, List.filterMap_append, List.filterMap_append, hnone, List.append_nil,
        List.filterMap_cons_some (stepOf?_eq_enter h)]
      rfl
    rw [← hsteps, stepsOf, hlast, nameSteps]
    simp [(Path.isName_iff.1 h).2.1]

theorem exists_stepsOf_temporary (h : p.fileName? = some name) :
    ∃ steps, stepsOf p.temporary = steps ++ [.enter (name ++ Text.encodeUtf8 ".tmp")] := by
  have hname : Path.IsName (name ++ Text.encodeUtf8 ".tmp") :=
    Path.isName_append (Path.notMem_of_mem_components (Path.mem_components_of_fileName? h))
      (by decide) (by decide)
  rw [Path.temporary, Path.withFileName, h]
  split
  · exact ⟨_, stepsOf_join hname⟩
  · exact ⟨_, stepsOf_join hname⟩

def startOf (disk : Disk) (path : Path) : Location :=
  if path.isAbsolute then [] else disk.working

structure IsSound (path : Path) : Prop where
  noNul : 0 ∉ path.bytes
  nonempty : path.isEmpty = false
  size_le : path.bytes.length ≤ maxPath

def Arrives (disk : Disk) (path : Path) (steps : List Step) (dir : Location) : Prop :=
  IsSound path ∧ ∃ left, disk.Reaches maxLinks (disk.startOf path) steps left dir

theorem Arrives.of_keeps (h : disk.Arrives path steps dir) (hkeeps : disk.Keeps other)
    (hworking : other.working = disk.working) : other.Arrives path steps dir := by
  obtain ⟨hsound, left, hreaches⟩ := h
  refine ⟨hsound, left, ?_⟩
  rw [startOf, hworking]
  exact hreaches.of_keeps hkeeps

theorem resolve_eq_ok_iff :
    disk.resolve ending path = .ok place ↔ IsSound path ∧
      walkLinks disk ending maxLinks (disk.startOf path)
        (if ending = .place then nameSteps path else stepsOf path) = .ok place := by
  rw [resolve]
  split
  · next hnul =>
    rw [List.contains_iff_mem] at hnul
    exact iff_of_false nofun fun h => h.1.noNul hnul
  · next hnul =>
    split
    · next hempty => exact iff_of_false nofun fun h => by rw [h.1.nonempty] at hempty; cases hempty
    · next hempty =>
      split
      · next hlong => exact iff_of_false nofun fun h => Nat.not_lt.2 h.1.size_le hlong
      · next hsize =>
        have hsound : IsSound path := by
          constructor
          case noNul => exact fun hmem => hnul (List.contains_iff_mem.2 hmem)
          case nonempty => exact Bool.eq_false_iff.2 hempty
          case size_le => exact Nat.not_lt.1 hsize
        rw [and_iff_right hsound, ← filter_stepsOf]
        rfl

/-- A path that ends with a name leads to the entry of that name in the directory that the steps
before it lead to, where no link is followed. -/
theorem resolve_eq_ok_iff_placeAt
    (hsteps : stepsOf path = steps ++ [.enter name])
    (hlink : ∀ dir, disk.Arrives path steps dir → name.length ≤ maxName →
      ending.followsLink = true → ∀ number target,
        disk.get? (name :: dir) ≠ some (.link number target)) :
    disk.resolve ending path = .ok place ↔ ∃ dir, disk.Arrives path steps dir ∧
      name.length ≤ maxName ∧ place = disk.placeAt dir name := by
  have hway : (if ending = .place then nameSteps path else stepsOf path) =
      steps ++ [.enter name] := by
    split
    · exact stepsOf_eq_of_concat hsteps
    · exact hsteps
  rw [resolve_eq_ok_iff, hway, walkLinks_append_iff]
  constructor
  · rintro ⟨hsound, left, dir, hreaches, hlast⟩
    have harrives : disk.Arrives path steps dir := ⟨hsound, left, hreaches⟩
    exact ⟨dir, harrives, (walkLinks_enter_iff hreaches.isDirAt (hlink dir harrives)).1 hlast⟩
  · rintro ⟨dir, harrives, hplace⟩
    have ⟨hsound, left, hreaches⟩ := harrives
    exact ⟨hsound, left, dir, hreaches,
      (walkLinks_enter_iff hreaches.isDirAt (hlink dir harrives)).2 hplace⟩

def leadsTo? (disk : Disk) (ending : Ending) (path : Path) : Option Location :=
  match disk.resolve ending path with
  | .ok place => some place.location
  | .error _ => none

theorem location_placeAt (disk : Disk) (dir : Location) (name : Bytes) :
    (disk.placeAt dir name).location = name :: dir := by
  rw [placeAt]
  split <;> rfl

theorem placeAt_of_isSome (h : (disk.get? (name :: dir)).isSome = true) :
    disk.placeAt dir name = .found (name :: dir) :=
  if_pos h

theorem leadsTo?_of_resolve (h : disk.resolve ending p = .ok place) :
    disk.leadsTo? ending p = some place.location := by
  rw [leadsTo?, h]

/-- The last step of a path goes to the entry of its name, where no link is followed. -/
theorem leadsTo?_eq_some_iff (hsteps : stepsOf p = steps ++ [.enter name])
    (hlink : ∀ dir, disk.Arrives p steps dir → name.length ≤ maxName →
      ending.followsLink = true → ∀ number target,
        disk.get? (name :: dir) ≠ some (.link number target)) :
    disk.leadsTo? ending p = some l ↔ ∃ dir, disk.Arrives p steps dir ∧
      name.length ≤ maxName ∧ l = name :: dir := by
  have hresolve : ∀ place, disk.resolve ending p = .ok place ↔ ∃ dir,
      disk.Arrives p steps dir ∧ name.length ≤ maxName ∧ place = disk.placeAt dir name :=
    fun place => resolve_eq_ok_iff_placeAt hsteps hlink
  constructor
  · intro h
    rw [leadsTo?] at h
    split at h
    · next place hplace =>
      obtain ⟨dir, harrives, hname, rfl⟩ := (hresolve place).1 hplace
      rw [location_placeAt] at h
      exact ⟨dir, harrives, hname, (Option.some.inj h).symm⟩
    · cases h
  · rintro ⟨dir, harrives, hname, rfl⟩
    rw [leadsTo?_of_resolve ((hresolve _).2 ⟨dir, harrives, hname, rfl⟩), location_placeAt]

theorem leadsTo?_entry_iff (hsteps : stepsOf p = steps ++ [.enter name]) :
    disk.leadsTo? .entry p = some l ↔ ∃ dir, disk.Arrives p steps dir ∧
      name.length ≤ maxName ∧ l = name :: dir :=
  leadsTo?_eq_some_iff hsteps nofun

theorem exists_leadsTo?_entry (hsteps : stepsOf p = steps ++ [.enter name])
    (hending : ending ≠ .place) (h : disk.resolve ending p = .ok place) :
    ∃ dir, disk.leadsTo? .entry p = some (name :: dir) := by
  obtain ⟨hsound, hwalk⟩ := resolve_eq_ok_iff.1 h
  rw [if_neg hending, hsteps] at hwalk
  obtain ⟨left, dir, hreaches, hlast⟩ := walkLinks_append_iff.1 hwalk
  exact ⟨dir, (leadsTo?_entry_iff hsteps).2
    ⟨dir, ⟨hsound, left, hreaches⟩, size_le_of_walkLinks hlast, rfl⟩⟩

/-- The steps of a path to a directory lead there, with or without the slash at the end. -/
theorem arrives_of_lookUp (h : disk.lookUp path = .ok (dir, .dir)) :
    disk.Arrives path (nameSteps path) dir := by
  simp only [lookUp, bind, Except.bind] at h
  split at h
  · cases h
  next place hplace =>
  split at h
  · cases h
  next found =>
  split at h
  · cases h
  next node hget =>
  cases h
  obtain ⟨hsound, hwalk⟩ := resolve_eq_ok_iff.1 hplace
  obtain ⟨left, hreaches⟩ := reaches_of_walkLinks (isDirAt_iff.2 hget) hwalk
  refine ⟨hsound, left, ?_⟩
  change disk.Reaches maxLinks (disk.startOf path) (stepsOf path) left dir at hreaches
  rcases stepsOf_eq path with hsteps | hsteps
  · rw [← hsteps]
    exact hreaches
  · rw [hsteps] at hreaches
    exact hreaches.of_append_slash

theorem lookUp_of_leadsTo? (hsteps : stepsOf p = steps ++ [.enter name])
    (h : disk.leadsTo? .entry p = some l) (hget : disk.get? l = some node)
    (hnode : ∀ number target, node ≠ .link number target) : disk.lookUp p = .ok (l, node) := by
  have hnoLink : ∀ dir, disk.Arrives p steps dir → name.length ≤ maxName →
      Ending.target.followsLink = true →
      ∀ number target, disk.get? (name :: dir) ≠ some (.link number target) := by
    intro dir harrives hname _ number target hlink
    have hentry := (leadsTo?_entry_iff hsteps).2 ⟨dir, harrives, hname, rfl⟩
    cases h.symm.trans hentry
    exact hnode number target (Option.some.inj (hget.symm.trans hlink))
  obtain ⟨dir, harrives, hname, rfl⟩ := (leadsTo?_entry_iff hsteps).1 h
  have hplace : disk.resolve .target p = .ok (.found (name :: dir)) := by
    rw [resolve_eq_ok_iff_placeAt hsteps hnoLink]
    exact ⟨dir, harrives, hname, (placeAt_of_isSome (Option.isSome_of_eq_some hget)).symm⟩
  simp only [lookUp, hplace, bind, Except.bind, hget]
  rfl

end DoctypeInterfaces.Storage.Disk
