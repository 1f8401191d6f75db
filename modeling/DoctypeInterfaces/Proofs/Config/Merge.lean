import DoctypeInterfaces.Config.Basic
import Mathlib.Logic.Basic

namespace DoctypeInterfaces

section Entries

variable {app other : String} {f : List String → List String} {entries : List AppRoots}
  {doctypes : List String}

theorem lookup_eq_none_of_lt (h : ∀ entry ∈ entries, app < entry.1) :
    entries.lookup app = none := by
  rw [List.lookup_eq_none_iff]
  intro entry hentry
  have hne : app ≠ entry.1 := fun heq => String.lt_irrefl _ (heq ▸ h entry hentry)
  simpa using hne

theorem lookup_updateApp_self (h : entries.Pairwise fun a b => a.1 < b.1) :
    (updateApp app f entries).lookup app = some (f ((entries.lookup app).getD [])) := by
  induction entries with
  | nil => simp [updateApp]
  | cons first rest ih =>
    obtain ⟨hfirst, hrest⟩ := List.pairwise_cons.1 h
    rw [updateApp]
    split
    · next heq =>
      rw [List.lookup_cons_self, List.lookup_cons, heq, beq_self_eq_true]
      rfl
    · next hne =>
      split
      · next hlt =>
        have hnone : (first :: rest).lookup app = none := by
          apply lookup_eq_none_of_lt
          intro entry hentry
          rcases List.mem_cons.1 hentry with rfl | hentry
          · exact hlt
          · exact String.lt_trans hlt (hfirst entry hentry)
        rw [List.lookup_cons_self, hnone]
        rfl
      · have hbeq : (app == first.1) = false := by simpa using hne
        rw [List.lookup_cons, List.lookup_cons, hbeq]
        exact ih hrest

theorem lookup_updateApp_of_ne (h : other ≠ app) :
    (updateApp app f entries).lookup other = entries.lookup other := by
  have hbeq : (other == app) = false := by simpa using h
  induction entries with
  | nil => simp [updateApp, List.lookup_cons, hbeq]
  | cons first rest ih =>
    rw [updateApp]
    split
    · next heq => rw [List.lookup_cons, List.lookup_cons, ← heq, hbeq]
    · split
      · rw [List.lookup_cons, hbeq]
      · rw [List.lookup_cons, List.lookup_cons, ih]

theorem updateApp_of_lookup (hdoctypes : entries.lookup app = some doctypes)
    (hf : f doctypes = doctypes) (h : entries.Pairwise fun a b => a.1 < b.1) :
    updateApp app f entries = entries := by
  induction entries with
  | nil => cases hdoctypes
  | cons first rest ih =>
    obtain ⟨hfirst, hrest⟩ := List.pairwise_cons.1 h
    rw [updateApp]
    split
    · next heq =>
      rw [List.lookup_cons, heq, beq_self_eq_true] at hdoctypes
      obtain rfl := Option.some.inj hdoctypes
      rw [hf, heq]
    · next hne =>
      have hbeq : (app == first.1) = false := by simpa using hne
      rw [List.lookup_cons, hbeq] at hdoctypes
      split
      · next hlt =>
        have hnone := lookup_eq_none_of_lt fun entry hentry =>
          String.lt_trans hlt (hfirst entry hentry)
        rw [hnone] at hdoctypes
        cases hdoctypes
      · rw [ih hdoctypes hrest]

end Entries

namespace Roots

variable {roots : Roots} {app other doctype : String} {f : List String → List String}

theorem eq_of_toList_eq {first second : Roots} (h : first.toList = second.toList) :
    first = second := by
  cases first
  cases second
  cases h
  rfl

theorem mem_apps_iff : app ∈ roots.apps ↔ (roots.toList.lookup app).isSome = true := by
  rw [apps, List.mem_map, List.lookup_isSome_iff]
  simp only [beq_iff_eq, eq_comm (a := app)]

theorem lookup_of_mem {entry : AppRoots} (h : entry ∈ roots.toList) :
    roots.toList.lookup entry.1 = some entry.2 := by
  obtain ⟨front, back, hentries⟩ := List.append_of_mem h
  have hsorted := roots.sorted
  rw [hentries, List.pairwise_append] at hsorted
  rw [List.lookup_eq_some_iff]
  refine ⟨front, back, hentries, ?_⟩
  intro earlier hearlier
  have hlt := hsorted.2.2 earlier hearlier entry List.mem_cons_self
  have hne : entry.1 ≠ earlier.1 := fun heq => String.lt_irrefl _ (heq ▸ hlt)
  simpa using hne

theorem get_update_self : (roots.update app f).get app = f (roots.get app) := by
  rw [get, update, lookup_updateApp_self roots.sorted]
  rfl

theorem get_update_of_ne (h : other ≠ app) : (roots.update app f).get other = roots.get other := by
  rw [get, get, update, lookup_updateApp_of_ne h]

theorem mem_apps_update : other ∈ (roots.update app f).apps ↔ other = app ∨ other ∈ roots.apps := by
  rw [mem_apps_iff, mem_apps_iff, update]
  by_cases h : other = app
  · rw [h, lookup_updateApp_self roots.sorted]
    simp
  · rw [lookup_updateApp_of_ne h]
    simp [h]

theorem exists_lookup_of_mem_get (h : doctype ∈ roots.get app) :
    ∃ doctypes, roots.toList.lookup app = some doctypes ∧ doctype ∈ doctypes := by
  rw [get] at h
  cases hlookup : roots.toList.lookup app with
  | none =>
    rw [hlookup] at h
    cases h
  | some doctypes =>
    rw [hlookup] at h
    exact ⟨doctypes, rfl, h⟩

theorem add_of_mem (h : doctype ∈ roots.get app) : roots.add app doctype = roots := by
  obtain ⟨doctypes, hdoctypes, hmem⟩ := exists_lookup_of_mem_get h
  apply eq_of_toList_eq
  apply updateApp_of_lookup hdoctypes _ roots.sorted
  rw [addDoctype, if_pos (by simpa using hmem)]

theorem isVoid_iff : roots.isVoid = true ↔ ∀ app, roots.get app = [] := by
  rw [isVoid, List.all_eq_true]
  constructor
  · intro h app
    rw [List.eq_nil_iff_forall_not_mem]
    intro doctype hdoctype
    obtain ⟨doctypes, hlookup, hmem⟩ := exists_lookup_of_mem_get hdoctype
    obtain ⟨front, back, hentries, -⟩ := List.lookup_eq_some_iff.1 hlookup
    have hentry : (app, doctypes) ∈ roots.toList :=
      hentries ▸ List.mem_append_right _ List.mem_cons_self
    have hempty : doctypes = [] := List.isEmpty_iff.1 (h _ hentry)
    rw [hempty] at hmem
    cases hmem
  · intro h entry hentry
    have hget := h entry.1
    rw [get, lookup_of_mem hentry] at hget
    exact List.isEmpty_iff.2 hget

def addAll (roots : Roots) (requests : List (String × String)) : Roots :=
  requests.foldl (fun roots request => roots.add request.1 request.2) roots

variable {requests more : List (String × String)} {request : String × String}

theorem addAll_append : roots.addAll (requests ++ more) = (roots.addAll requests).addAll more :=
  List.foldl_append

/-- The doctypes that are requested for an application, in order. -/
def doctypesFor (app : String) (requests : List (String × String)) : List String :=
  (requests.filter fun request => request.1 = app).map Prod.snd

theorem mem_doctypesFor : doctype ∈ doctypesFor app requests ↔ (app, doctype) ∈ requests := by
  simp [doctypesFor]

theorem doctypesFor_cons_self :
    doctypesFor app ((app, doctype) :: requests) = doctype :: doctypesFor app requests := by
  simp [doctypesFor]

theorem doctypesFor_cons_of_ne (h : app ≠ other) :
    doctypesFor other ((app, doctype) :: requests) = doctypesFor other requests := by
  simp [doctypesFor, h]

/-- The doctypes of an application are those it had, and after them each new one once, where it
comes first. -/
theorem get_addAll (roots : Roots) (requests : List (String × String)) (app : String) :
    (roots.addAll requests).get app = roots.get app ++
      ((doctypesFor app requests).filter fun doctype => doctype ∉ roots.get app).eraseDups := by
  induction requests generalizing roots with
  | nil => simp [addAll, doctypesFor]
  | cons request requests ih =>
    obtain ⟨requested, doctype⟩ := request
    change ((roots.add requested doctype).addAll requests).get app = _
    rw [ih]
    by_cases happ : requested = app
    · subst happ
      rw [doctypesFor_cons_self]
      by_cases hmem : doctype ∈ roots.get requested
      · rw [add_of_mem hmem, List.filter_cons_of_neg (by simp [hmem])]
      · have hget : (roots.add requested doctype).get requested =
            roots.get requested ++ [doctype] := by
          rw [add, get_update_self, addDoctype, if_neg (by simpa using hmem)]
        rw [hget, List.filter_cons_of_pos (by simp [hmem]), List.eraseDups_cons,
          List.filter_filter, List.append_assoc, List.singleton_append]
        congr 3
        apply List.filter_congr
        intro later _
        rw [Bool.eq_iff_iff]
        simp [and_comm]
    · rw [doctypesFor_cons_of_ne happ, add, get_update_of_ne (Ne.symm happ)]

theorem mem_apps_addAll :
    app ∈ (roots.addAll requests).apps ↔
      app ∈ roots.apps ∨ ∃ doctype, (app, doctype) ∈ requests := by
  induction requests generalizing roots with
  | nil => simp [addAll]
  | cons request requests ih =>
    obtain ⟨requested, doctype⟩ := request
    change app ∈ ((roots.add requested doctype).addAll requests).apps ↔ _
    rw [ih, add, mem_apps_update]
    simp only [List.mem_cons, Prod.mk.injEq, exists_or, exists_and_left, exists_eq, and_true]
    rw [or_assoc, or_left_comm]

theorem mem_get_addAll (h : (app, doctype) ∈ requests) :
    doctype ∈ (roots.addAll requests).get app := by
  rw [get_addAll, List.mem_append]
  by_cases hmem : doctype ∈ roots.get app
  · exact .inl hmem
  · right
    rw [List.mem_eraseDups, List.mem_filter]
    exact ⟨mem_doctypesFor.2 h, by simpa using hmem⟩

theorem addAll_of_mem (h : ∀ request ∈ requests, request.2 ∈ roots.get request.1) :
    roots.addAll requests = roots := by
  induction requests with
  | nil => rfl
  | cons request requests ih =>
    change (roots.add request.1 request.2).addAll requests = roots
    rw [add_of_mem (h request List.mem_cons_self)]
    exact ih fun later hlater => h later (List.mem_cons_of_mem _ hlater)

theorem addAll_addAll_self (roots : Roots) (requests : List (String × String)) :
    (roots.addAll requests).addAll requests = roots.addAll requests :=
  addAll_of_mem fun _ hrequest => mem_get_addAll hrequest

theorem isVoid_addAll :
    (roots.addAll requests).isVoid = true ↔ roots.isVoid = true ∧ requests = [] := by
  rw [isVoid_iff, isVoid_iff]
  constructor
  · intro h
    have hroots : ∀ app, roots.get app = [] := by
      intro app
      have hget := h app
      rw [get_addAll] at hget
      exact (List.append_eq_nil_iff.1 hget).1
    refine ⟨hroots, ?_⟩
    rw [List.eq_nil_iff_forall_not_mem]
    intro request hrequest
    have hmem : request.2 ∈ (roots.addAll requests).get request.1 := mem_get_addAll hrequest
    rw [h request.1] at hmem
    cases hmem
  · rintro ⟨h, rfl⟩
    exact h

end Roots

/-- What is given by two command lines together: where both give a path, the later one counts. -/
def Overrides.followedBy (given later : Overrides) : Overrides :=
  ⟨later.appsPath.or given.appsPath, later.outputPath.or given.outputPath,
    given.doctypes ++ later.doctypes⟩

namespace Config

variable {config : Config} {given later : Overrides}

theorem roots_merge : (config.merge given).roots = config.roots.addAll given.doctypes :=
  rfl

theorem validate_eq_ok_iff : config.validate = .ok () ↔ config.roots.isVoid = false := by
  rw [validate]
  split
  · next h => simp [h]
  · next h => simpa using h

theorem merge_merge_self (config : Config) (given : Overrides) :
    (config.merge given).merge given = config.merge given := by
  have happs : given.appsPath.getD (given.appsPath.getD config.appsPath) =
      given.appsPath.getD config.appsPath := by
    cases given.appsPath <;> rfl
  have houtput : given.outputPath.getD (given.outputPath.getD config.outputPath) =
      given.outputPath.getD config.outputPath := by
    cases given.outputPath <;> rfl
  have hroots := config.roots.addAll_addAll_self given.doctypes
  rw [merge, merge, Config.mk.injEq]
  exact ⟨happs, houtput, hroots⟩

theorem merge_merge (config : Config) (given later : Overrides) :
    (config.merge given).merge later = config.merge (given.followedBy later) := by
  have happs : later.appsPath.getD (given.appsPath.getD config.appsPath) =
      (later.appsPath.or given.appsPath).getD config.appsPath := by
    cases later.appsPath <;> rfl
  have houtput : later.outputPath.getD (given.outputPath.getD config.outputPath) =
      (later.outputPath.or given.outputPath).getD config.outputPath := by
    cases later.outputPath <;> rfl
  have hroots : (config.roots.addAll given.doctypes).addAll later.doctypes =
      config.roots.addAll (given.doctypes ++ later.doctypes) := Roots.addAll_append.symm
  rw [merge, merge, Config.mk.injEq]
  exact ⟨happs, houtput, hroots⟩

theorem validate_merge :
    (config.merge given).validate = .ok () ↔
      config.validate = .ok () ∨ given.doctypes ≠ [] := by
  rw [validate_eq_ok_iff, validate_eq_ok_iff, roots_merge, ← Bool.not_eq_true,
    Roots.isVoid_addAll, not_and_or, Bool.not_eq_true]

/-- What is given on a command line is added to a configuration: the doctypes of an application are
those configured and then each new one, where it is first given. To give the same again changes
nothing, to give more is to give all of it at once, and there is something to generate if something
is configured or given. -/
theorem merge_adds (config : Config) (given : Overrides) :
    (∀ app, (config.merge given).roots.get app = config.roots.get app ++
      ((Roots.doctypesFor app given.doctypes).filter fun doctype =>
        doctype ∉ config.roots.get app).eraseDups) ∧
    (∀ app, app ∈ (config.merge given).roots.apps ↔
      app ∈ config.roots.apps ∨ ∃ doctype, (app, doctype) ∈ given.doctypes) ∧
    (config.merge given).merge given = config.merge given ∧
    (∀ later, (config.merge given).merge later = config.merge (given.followedBy later)) ∧
    ((config.merge given).validate = .ok () ↔
      config.validate = .ok () ∨ given.doctypes ≠ []) :=
  ⟨config.roots.get_addAll given.doctypes, fun _ => Roots.mem_apps_addAll,
    merge_merge_self config given, merge_merge config given, validate_merge⟩

end Config

end DoctypeInterfaces
