namespace DoctypeInterfaces

abbrev AppRoots := String × List String

def addDoctype (doctypes : List String) (doctype : String) : List String :=
  if doctypes.contains doctype then doctypes else doctypes ++ [doctype]

def updateApp (app : String) (f : List String → List String) : List AppRoots → List AppRoots
  | [] => [(app, f [])]
  | entry :: rest =>
    if app = entry.1 then (app, f entry.2) :: rest
    else if app < entry.1 then (app, f []) :: entry :: rest
    else entry :: updateApp app f rest

theorem mem_updateApp {app : String} {f : List String → List String} {entries : List AppRoots}
    {entry : AppRoots} (h : entry ∈ updateApp app f entries) : entry.1 = app ∨ entry ∈ entries := by
  induction entries with
  | nil => simp only [updateApp, List.mem_singleton] at h; exact .inl (by rw [h])
  | cons first rest ih =>
    simp only [updateApp] at h
    split at h
    · rcases List.mem_cons.1 h with h | h
      · exact .inl (by rw [h])
      · exact .inr (List.mem_cons_of_mem _ h)
    · split at h
      · rcases List.mem_cons.1 h with h | h
        · exact .inl (by rw [h])
        · exact .inr h
      · rcases List.mem_cons.1 h with h | h
        · exact .inr (h ▸ List.mem_cons_self)
        · exact (ih h).imp id (List.mem_cons_of_mem _)

theorem sorted_updateApp {app : String} {f : List String → List String} {entries : List AppRoots}
    (h : entries.Pairwise fun a b => a.1 < b.1) :
    (updateApp app f entries).Pairwise fun a b => a.1 < b.1 := by
  induction entries with
  | nil => simp [updateApp]
  | cons first rest ih =>
    obtain ⟨hfirst, hrest⟩ := List.pairwise_cons.1 h
    simp only [updateApp]
    split
    · next he => exact List.pairwise_cons.2 ⟨fun b hb => he ▸ hfirst b hb, hrest⟩
    · next he =>
      split
      · next hlt =>
        refine List.pairwise_cons.2 ⟨fun b hb => ?_, h⟩
        rcases List.mem_cons.1 hb with rfl | hb
        · exact hlt
        · exact String.lt_trans hlt (hfirst b hb)
      · next hlt =>
        refine List.pairwise_cons.2 ⟨fun b hb => ?_, ih hrest⟩
        rcases mem_updateApp hb with hb | hb
        · rw [hb]
          exact Decidable.byContradiction fun hn =>
            he (String.le_antisymm (String.not_lt.1 hn) (String.not_lt.1 hlt))
        · exact hfirst b hb

/-- The requested doctypes by application. -/
structure Roots where
  toList : List AppRoots
  sorted : toList.Pairwise (fun a b => a.1 < b.1) := by simp
  deriving DecidableEq

namespace Roots

/-- No request. -/
def empty : Roots := ⟨[], by simp⟩

instance : Inhabited Roots := ⟨empty⟩

def update (roots : Roots) (app : String) (f : List String → List String) : Roots :=
  ⟨updateApp app f roots.toList, sorted_updateApp roots.sorted⟩

def insert (roots : Roots) (app : String) (doctypes : List String) : Roots :=
  roots.update app fun _ => doctypes

/-- The roots with one more doctype for an application, unless it is requested already. -/
def add (roots : Roots) (app doctype : String) : Roots :=
  roots.update app fun doctypes => addDoctype doctypes doctype

/-- The roots with the given applications and doctypes. -/
def ofList (entries : List AppRoots) : Roots :=
  entries.foldl (fun roots entry => roots.insert entry.1 entry.2) empty

/-- The doctypes of an application, of which there are none if it is not there. -/
def get (roots : Roots) (app : String) : List String :=
  (roots.toList.lookup app).getD []

/-- The applications in order. -/
def apps (roots : Roots) : List String :=
  roots.toList.map (·.1)

def isVoid (roots : Roots) : Bool :=
  roots.toList.all fun entry => entry.2.isEmpty

/-- Every application with each of its doctypes, in order. -/
def pairs (roots : Roots) : List (String × String) :=
  roots.toList.flatMap fun entry => entry.2.map fun doctype => (entry.1, doctype)

/-- The number of requested doctypes. -/
def count (roots : Roots) : Nat :=
  roots.pairs.length

end Roots

end DoctypeInterfaces
