import DoctypeInterfaces.Proofs.Locator.Search
import DoctypeInterfaces.Proofs.Storage.Listing

namespace DoctypeInterfaces

namespace Storage.Disk

def listings (system : System) (disk : Disk) (dir : Path) : Except IoError (List DirEntry) :=
  (disk.listing system dir).mapError error

variable {system : System} {disk later : Disk} {dir : Path} {entries : List DirEntry}
  {events : List Event}

theorem listings_eq_ok_iff :
    disk.listings system dir = .ok entries ↔ disk.listing system dir = .ok entries := by
  rw [listings]
  cases disk.listing system dir with
  | error e => exact iff_of_false nofun nofun
  | ok found =>
    exact ⟨fun h => congrArg Except.ok (Except.ok.inj h),
      fun h => congrArg Except.ok (Except.ok.inj h)⟩

theorem eq_of_transcript (h : Transcript (answer system) disk events later)
    (hevents : ∀ e ∈ events, ∃ dir, e.call = .listDir dir) :
    later = disk ∧ ∀ e ∈ events, ∃ dir, e = ⟨.listDir dir, disk.listings system dir⟩ := by
  induction h with
  | nil => exact ⟨rfl, by simp⟩
  | cons c _ ih =>
    obtain ⟨⟨dir, hdir⟩, hlater⟩ := List.forall_mem_cons.1 hevents
    obtain rfl : c = .listDir dir := hdir
    obtain ⟨hsame, hanswers⟩ := ih hlater
    exact ⟨hsame, List.forall_mem_cons.2 ⟨⟨dir, rfl⟩, hanswers⟩⟩

theorem kind_error (kind : IoKind) : (error kind).kind = kind := by
  cases kind <;> rfl

theorem size_lt_of_mem_listing {entry : DirEntry} (h : disk.IsTree)
    (hentries : disk.listing system dir = .ok entries) (hentry : entry ∈ entries) :
    dir.bytes.length ≤ maxPath ∧ dir.bytes.length < entry.path.bytes.length := by
  obtain ⟨location, name, node, hlook, hget, hpath, -⟩ := mem_listing h hentries hentry
  have hname := h.isEntryName hget
  obtain ⟨hsound, -⟩ := arrives_of_lookUp hlook
  obtain ⟨between, hbytes, -⟩ := exists_bytes_join hsound.nonempty hname.isName
  have hlong : 0 < name.length := List.length_pos_of_ne_nil (Path.isName_iff.1 hname.isName).2.1
  rw [hpath, hbytes, List.length_append, List.length_append]
  exact ⟨hsound.size_le, by omega⟩

end Storage.Disk

namespace Locator

open Storage

variable {system : Disk.System} {disk : Disk} {target dir : Path} {entries : List DirEntry}
  {events : List Event} {result : Except Failure (Option Path)}

/-- What holds of all directories that are listed in other ones holds of those that a search
lists. -/
theorem Searched.forall_call {P : Path → Prop} (h : Searched target entries events result)
    (hevents : ∀ dir children, ⟨.listDir dir, .ok children⟩ ∈ events → ∀ entry ∈ children,
      entry.isDir = true → P entry.path)
    (hentries : ∀ entry ∈ entries, entry.isDir = true → P entry.path) :
    ∀ e ∈ events, P e.call.path := by
  induction h with
  | exhausted => simp
  | found => simp
  | passed _ _ _ ih => exact ih hevents (List.forall_mem_cons.1 hentries).2
  | @failed entry rest e hdir =>
    intro event hevent
    rw [List.mem_singleton.1 hevent]
    exact hentries entry List.mem_cons_self hdir
  | @stopped entry rest children events result hdir _ _ ih =>
    refine List.forall_mem_cons.2 ⟨hentries entry List.mem_cons_self hdir, ?_⟩
    exact ih (fun dir found hmem => hevents dir found (List.mem_cons_of_mem _ hmem))
      (hevents _ children List.mem_cons_self)
  | @searched entry rest children events later result hdir _ _ ihChildren ihRest =>
    refine List.forall_mem_cons.2 ⟨hentries entry List.mem_cons_self hdir, ?_⟩
    refine List.forall_mem_append.2 ⟨?_, ?_⟩
    · apply ihChildren
      · exact fun dir found hmem =>
          hevents dir found (List.mem_cons_of_mem _ (List.mem_append_left _ hmem))
      · exact hevents _ children List.mem_cons_self
    · apply ihRest
      · exact fun dir found hmem =>
          hevents dir found (List.mem_cons_of_mem _ (List.mem_append_right _ hmem))
      · exact (List.forall_mem_cons.1 hentries).2

theorem Searched.exists_ok_iff (h : Searched target entries events result) :
    (∃ found, result = .ok found) ↔
      ∀ e ∈ events, ∃ dir children, e = ⟨.listDir dir, .ok children⟩ := by
  induction h with
  | exhausted => simp
  | found => simp
  | passed _ _ _ ih => exact ih
  | failed e hdir => simp
  | @stopped entry rest children events result _ _ _ ih =>
    rw [List.forall_mem_cons, ih]
    exact (and_iff_right ⟨_, _, rfl⟩).symm
  | @searched entry rest children events later result _ _ _ ihChildren ihRest =>
    rw [List.forall_mem_cons, List.forall_mem_append, ← ihRest,
      and_iff_right ⟨_, _, rfl⟩, and_iff_right (ihChildren.1 ⟨none, rfl⟩)]

theorem listsAs_disk (system : Disk.System) (disk : Disk) :
    ListsAs (Disk.answer system) disk (disk.listings system) := by
  intro events later htranscript hevents dir
  obtain ⟨rfl, -⟩ := Disk.eq_of_transcript htranscript hevents
  rfl

theorem finiteBelow_disk (h : disk.IsTree) (dir : Path) :
    FiniteBelow (disk.listings system) dir := by
  refine finiteBelow_of_rank (fun q => q.bytes.length) Disk.maxPath ?_ dir
  intro dir entries hentries entry hentry _
  exact Disk.size_lt_of_mem_listing h (Disk.listings_eq_ok_iff.1 hentries) hentry

/-- Whether a path leads to a directory, unless it is too long. -/
def Enterable (disk : Disk) (dir : Path) : Prop :=
  dir.bytes.length ≤ Disk.maxPath → disk.isDir dir = .ok true

theorem enterable_of_mem_listings (h : disk.IsTree)
    (hentries : disk.listings system dir = .ok entries) :
    ∀ entry ∈ entries, entry.isDir = true → Enterable disk entry.path := by
  intro entry hentry hdir hsize
  obtain ⟨location, name, node, hlook, hget, hpath, hentryDir⟩ :=
    Disk.mem_listing h (Disk.listings_eq_ok_iff.1 hentries) hentry
  rw [hpath] at hsize ⊢
  rw [hdir] at hentryDir
  exact Disk.isDir_of_entryIsDir h hlook hget hentryDir hsize

theorem exists_listings_iff (system : Disk.System) (h : disk.IsTree) (hdir : Enterable disk dir) :
    (∃ entries, disk.listings system dir = .ok entries) ↔ ¬ disk.Obstructed dir := by
  simp only [Disk.listings_eq_ok_iff]
  by_cases hsize : dir.bytes.length ≤ Disk.maxPath
  · exact Disk.exists_listing_iff_not_obstructed h (hdir hsize)
  · refine iff_of_false ?_ (not_not_intro (.inl (Nat.not_le.1 hsize)))
    rintro ⟨entries, hentries⟩
    obtain ⟨location, hlook⟩ := Disk.lookUp_of_listing hentries
    exact hsize (Disk.arrives_of_lookUp hlook).1.size_le

/-- Whether a path leads to a directory, or to nothing at all. -/
def IsDirOrMissing (disk : Disk) (dir : Path) : Prop :=
  disk.isDir dir = .ok true ∨ disk.lookUp dir = .error .notFound

theorem root_not_listed_iff {e : IoError} (h : disk.IsTree)
    (he : disk.listings system dir = .error e) :
    e.kind = .notFound ↔ IsDirOrMissing disk dir ∧ ¬ disk.Obstructed dir := by
  have hnone : ¬ ∃ entries, disk.listings system dir = .ok entries := by
    rintro ⟨entries, hentries⟩
    cases he.symm.trans hentries
  have hkind : e.kind = .notFound ↔ disk.listing system dir = .error .notFound := by
    rw [Disk.listings] at he
    cases hlisting : disk.listing system dir with
    | ok entries =>
      rw [hlisting] at he
      cases he
    | error kind =>
      rw [hlisting] at he
      rw [← Except.error.inj he, Disk.kind_error, Except.error.injEq]
  rw [hkind, Disk.listing_eq_notFound_iff]
  constructor
  · exact fun hmissing => ⟨.inr hmissing, Disk.not_obstructed_of_notFound hmissing⟩
  · rintro ⟨hdir | hmissing, hclear⟩
    · exact absurd ((exists_listings_iff system h fun _ => hdir).2 hclear) hnone
    · exact hmissing

/-- A search on a disk finds the first match, or that there is none, if it starts in a directory or
nowhere, and comes to no directory that is obstructed. -/
theorem exists_found_iff {depth : Nat} {root : Path} (h : disk.IsTree)
    (hsearch : Execution (search depth root target) events result)
    (hfinished : result ≠ .error .unfinished)
    (hanswers : ∀ e ∈ events, ∃ dir, e = ⟨.listDir dir, disk.listings system dir⟩) :
    (∃ found, result = .ok found) ↔
      IsDirOrMissing disk root ∧ ∀ e ∈ events, ¬ disk.Obstructed e.call.path := by
  have hlisting : ∀ dir answer, (⟨.listDir dir, answer⟩ : Event) ∈ events →
      disk.listings system dir = answer := by
    intro dir answer hmem
    obtain ⟨dir', heq⟩ := hanswers _ hmem
    cases heq
    rfl
  rcases execution_search_iff.1 hsearch with ⟨e, rfl, rfl⟩ | ⟨entries, later, rfl, hentries⟩
  · rw [List.forall_mem_singleton]
    refine Iff.trans ?_ (root_not_listed_iff h (hlisting root (.error e) List.mem_cons_self))
    split
    · next hmissing => exact iff_of_true ⟨none, rfl⟩ hmissing
    · next hother => exact iff_of_false nofun hother
  · have hroot := hlisting root (.ok entries) List.mem_cons_self
    have hsearched := searched_of_execution hentries hfinished
    have hdir : disk.isDir root = .ok true := by
      obtain ⟨location, hlook⟩ := Disk.lookUp_of_listing (Disk.listings_eq_ok_iff.1 hroot)
      exact Disk.isDir_eq_ok_true_iff.2 ⟨location, hlook⟩
    have hclear : ¬ disk.Obstructed root :=
      (exists_listings_iff system h fun _ => hdir).1 ⟨_, hroot⟩
    have henterable : ∀ e ∈ later, Enterable disk e.call.path := by
      apply hsearched.forall_call (P := Enterable disk)
      · exact fun dir children hmem =>
          enterable_of_mem_listings h (hlisting dir (.ok children) (List.mem_cons_of_mem _ hmem))
      · exact enterable_of_mem_listings h hroot
    rw [hsearched.exists_ok_iff, and_iff_right (show IsDirOrMissing disk root from .inl hdir),
      List.forall_mem_cons]
    refine Iff.trans ?_ (and_iff_right hclear).symm
    refine forall₂_congr fun e he => ?_
    obtain ⟨dir, rfl⟩ := hanswers e (List.mem_cons_of_mem _ he)
    refine Iff.trans ?_ (exists_listings_iff system h (henterable _ he))
    constructor
    · rintro ⟨dir', children, heq⟩
      obtain ⟨hcall, hanswer⟩ := Event.mk.inj heq
      cases hcall
      exact ⟨children, eq_of_heq hanswer⟩
    · rintro ⟨children, hchildren⟩
      exact ⟨dir, children,
        congrArg (fun answer => (⟨.listDir dir, answer⟩ : Event)) hchildren⟩

/-- On disk, a locator makes the calls of the recursive search through the directory of the
application, and stops at the first match. It finds that match, or that there is none, exactly if
that directory is one or is missing, and none of the directories that it lists is obstructed. -/
theorem locate_ok_iff_not_obstructed (system : Disk.System) (h : disk.IsTree) (appsPath : Path)
    (app doctype : String) :
    ∃ enough result events,
      (∀ bound, enough ≤ bound →
        (((new appsPath).locate bound app doctype).run (Recorded.answer (Disk.answer system))).run
            ⟨disk, []⟩ =
          ((result, (new appsPath).walked app doctype result), ⟨disk, events⟩)) ∧
      (∀ depth, enough ≤ depth →
        ((search depth (appsPath.join (.ofText app)) (schemaSuffix doctype)).run
            (Recorded.answer (Disk.answer system))).run ⟨disk, []⟩ = (result, ⟨disk, events⟩)) ∧
      result ≠ .error .unfinished ∧ StopsAtOnce (schemaSuffix doctype) events result ∧
      ((∃ found, result = .ok found) ↔ IsDirOrMissing disk (appsPath.join (.ofText app)) ∧
        ∀ e ∈ events, ¬ disk.Obstructed e.call.path) := by
  obtain ⟨enough, result, later, events, hsearch, hwalk, hfinished, hstops⟩ := walk_eq_search
    (listsAs_disk system disk) (finiteBelow_disk h (appsPath.join (.ofText app)))
    (schemaSuffix doctype)
  obtain ⟨hexecution, htranscript⟩ := Program.run_recorded_iff.1 (hsearch enough le_rfl)
  obtain ⟨hwalked, -⟩ := Program.run_recorded_iff.1 (hwalk enough le_rfl)
  obtain ⟨rfl, hanswers⟩ := Disk.eq_of_transcript htranscript (call_eq_listDir_of_walk hwalked)
  refine ⟨enough, result, events, fun bound hbound => ?_, hsearch, hfinished, hstops,
    exists_found_iff h hexecution hfinished hanswers⟩
  obtain ⟨hlocated, -⟩ := Program.run_recorded_iff.1 (hwalk bound hbound)
  rw [Program.run_recorded_iff, execution_locate_iff rfl]
  exact ⟨⟨hlocated, rfl⟩, htranscript⟩

theorem result_eq_of_locate {σ : Type} {reached : (c : Call) → StateM σ c.Answer} {s s' : σ}
    {appsPath : Path} {app doctype : String} {bound bound' : Nat} {path : Option Path}
    {after : Locator}
    (hfound : ((((new appsPath).locate bound app doctype).run reached).run s).1.1.toOption =
      some path) (hle : bound ≤ bound')
    (h : (((new appsPath).locate bound' app doctype).run (Recorded.answer reached)).run ⟨s, []⟩ =
      ((result, after), ⟨s', events⟩)) : result = .ok path := by
  cases hrun : (((new appsPath).locate bound app doctype).run reached).run s with
  | mk located later =>
    obtain ⟨found, other⟩ := located
    rw [hrun] at hfound
    obtain ⟨events', hexecution', htranscript'⟩ := Program.run_eq_iff.1 hrun
    obtain ⟨hexecution, htranscript⟩ := Program.run_recorded_iff.1 h
    obtain ⟨hwalked', -⟩ := (execution_locate_iff rfl).1 hexecution'
    obtain ⟨hwalked, -⟩ := (execution_locate_iff rfl).1 hexecution
    cases found with
    | error e => cases hfound
    | ok found =>
      obtain ⟨-, hsame, -⟩ := hwalked.unique_of_transcript htranscript
        (execution_walk_mono hwalked' nofun hle) htranscript'
      rw [← hsame]
      exact congrArg Except.ok (Option.some.inj hfound)

/-- A disk with a schema file that is reached over one link, and another link that leads nowhere. -/
def linkedDisk : Disk :=
  let files := (Disk.empty.insert (.ofText "apps/t/doctype/x/x.json") []).insert
    (.ofText "apps/s/f") []
  (files.symlink (.ofText "apps/s/a") (.ofText "../t")).symlink (.ofText "apps/s/b")
    (.ofText "nowhere")

theorem linkedDisk_evaluated :
    ((linkedDisk.nodes.map Prod.fst).Nodup ∧
      ∀ entry ∈ linkedDisk.nodes, ∀ name ∈ entry.1, Disk.IsEntryName name) ∧
    ((((new (.ofText "apps")).locate 9 "s" "x").run (Disk.answer .plain)).run
      linkedDisk).1.1.toOption = some (some (.ofText "apps/s/a/doctype/x/x.json")) := by
  decide +kernel

theorem linked_file_located :
    linkedDisk.IsTree ∧ ∃ enough events,
      (∀ bound, enough ≤ bound → ∃ after,
        (((new (.ofText "apps")).locate bound "s" "x").run
          (Recorded.answer (Disk.answer .plain))).run ⟨linkedDisk, []⟩ =
            ((.ok (some (.ofText "apps/s/a/doctype/x/x.json")), after), ⟨linkedDisk, events⟩)) ∧
      ∀ e ∈ events, ¬ linkedDisk.Obstructed e.call.path := by
  obtain ⟨⟨hdistinct, hnames⟩, hfound⟩ := linkedDisk_evaluated
  have htree : linkedDisk.IsTree := ⟨hdistinct, hnames⟩
  obtain ⟨enough, result, events, hlocate, -, -, -, hclear⟩ :=
    locate_ok_iff_not_obstructed .plain htree (.ofText "apps") "s" "x"
  obtain rfl := result_eq_of_locate hfound (le_max_right enough 9)
    (hlocate (max enough 9) (le_max_left _ _))
  exact ⟨htree, enough, events, fun bound hbound => ⟨_, hlocate bound hbound⟩,
    (hclear.1 ⟨_, rfl⟩).2⟩

/-- A link on whose way a file stands hides the schema file beside it. -/
theorem link_through_file_hides_application :
    let files := (Disk.empty.insert (.ofText "apps/s/doctype/x/x.json") []).insert
      (.ofText "apps/s/f") []
    let disk := files.symlink (.ofText "apps/s/a") (.ofText "f/x")
    disk.isDir (.ofText "apps/s") = .ok true ∧
      disk.contents (.ofText "apps/s/doctype/x/x.json") = .ok [] ∧
      disk.isDir (.ofText "apps/s/a") = .error .notADirectory ∧
      ((((new (.ofText "apps")).locate 9 "s" "x").run (Disk.answer .plain)).run disk).1.1 matches
        .error (.search _ ⟨.notADirectory, _⟩) := by
  decide +kernel

end Locator

end DoctypeInterfaces
