import DoctypeInterfaces.Proofs.Generation.Resolved

namespace DoctypeInterfaces

open Storage

namespace Storage.Program

variable {α β : Type}

/-- Whether a program only looks at a storage, whatever the answers are. -/
def Looks (program : Program α) : Prop :=
  ∀ events a, Execution program events a → ∀ e ∈ events, e.call.observes = true

theorem looks_done (a : α) : (done a).Looks := by
  intro events b h
  obtain ⟨rfl, -⟩ := Execution.done_iff.1 h
  simp

theorem looks_call {c : Call} {next : c.Answer → Program α} (hc : c.observes = true)
    (hnext : ∀ answer, (next answer).Looks) : (call c next).Looks := by
  intro events a h
  obtain ⟨answer, rest, rfl, hrest⟩ := Execution.call_iff.1 h
  exact List.forall_mem_cons.2 ⟨hc, hnext answer rest a hrest⟩

theorem Looks.bind {program : Program α} {next : α → Program β} (h : program.Looks)
    (hnext : ∀ a, (next a).Looks) : (program >>= next).Looks := by
  intro events b hb
  obtain ⟨a, first, rest, hfirst, hrest, rfl⟩ := Execution.bind_iff.1 hb
  exact List.forall_mem_append.2 ⟨h first a hfirst, hnext a rest b hrest⟩

end Storage.Program

open Storage.Program

theorem looks_loadOutput (path : Path) : (loadOutput path).Looks := by
  rw [loadOutput, Storage.read, ask_bind]
  apply looks_call rfl
  intro answer
  cases answer with
  | ok bytes => exact looks_done _
  | error e =>
    dsimp only
    split
    · exact looks_done _
    · exact looks_done _

theorem looks_loadSchema (path : Path) : (loadSchema path).Looks := by
  have hread : (readText path).Looks := by
    rw [readText, Storage.read, ask_bind]
    exact looks_call rfl fun answer => looks_done _
  rw [loadSchema]
  apply hread.bind
  intro text
  cases text with
  | ok s => exact looks_done _
  | error e => exact looks_done _

namespace Locator

theorem looks_walk (bound : Nat) (root target : Path) : (walk bound root target).Looks :=
  fun _ _ h => observes_of_walk h

theorem looks_locate (bound : Nat) (locator : Locator) (app doctype : String) :
    (locator.locate bound app doctype).Looks := by
  rw [locate]
  split
  · exact looks_done _
  · apply (looks_walk _ _ _).bind
    intro found
    cases found with
    | ok path => exact looks_done _
    | error e => exact looks_done _

end Locator

def failure? {α : Type} : Except Failure α → Option Failure
  | .ok _ => none
  | .error failure => some failure

/-- A condition on the events and the failure of a part of a run that holds of parts one after the
other where it holds of each. -/
structure Rule where
  holds : List Event → Option Failure → Prop
  nil : holds [] none
  append : ∀ {first rest : List Event} {failure : Option Failure},
    holds first none → holds rest failure → holds (first ++ rest) failure

namespace Resolution

variable {α β : Type} {rule : Rule} {bound : Nat} {app : String}

/-- Whether a part of a run keeps to a rule, whatever the answers are. -/
def Obeys (rule : Rule) (part : Resolution α) : Prop :=
  ∀ before events result after, Ends part before events result after →
    rule.holds events (failure? result)

theorem Obeys.bind {part : Resolution α} {next : α → Resolution β} (h : Obeys rule part)
    (hnext : ∀ a, Obeys rule (next a)) : Obeys rule (part >>= next) := by
  intro before events result after hends
  rcases ends_bind.1 hends with ⟨a, first, middle, rest, hfirst, hrest, rfl⟩ | ⟨e, hfirst, rfl⟩
  · exact rule.append (h _ _ _ _ hfirst) (hnext a _ _ _ _ hrest)
  · exact h _ _ _ _ hfirst

theorem obeys_pure (a : α) : Obeys rule (pure a) := by
  intro before events result after hends
  obtain ⟨rfl, rfl, -⟩ := ends_pure.1 hends
  exact rule.nil

theorem obeys_throw {e : Failure} (h : rule.holds [] (some e)) :
    Obeys rule (throw e : Resolution α) := by
  intro before events result after hends
  obtain ⟨rfl, rfl, -⟩ := ends_throw.1 hends
  exact h

theorem obeys_get : Obeys rule get := by
  intro before events result after hends
  obtain ⟨rfl, rfl, -⟩ := ends_get.1 hends
  exact rule.nil

theorem obeys_modify (f : Progress → Progress) : Obeys rule (modify f) := by
  intro before events result after hends
  obtain ⟨rfl, rfl, -⟩ := ends_modify.1 hends
  exact rule.nil

theorem obeys_ofProgram {program : Program (Except Failure α)}
    (h : ∀ events result, Execution program events result → rule.holds events (failure? result)) :
    Obeys rule (ofProgram program) := by
  intro before events result after hends
  exact h events result (ends_ofProgram.1 hends).1

theorem obeys_enter (doctype : String) : Obeys rule (enter doctype) := by
  intro before events result after hends
  obtain ⟨rfl, hentered⟩ := ends_enter.1 hends
  split at hentered
  · rw [hentered.1]
    exact rule.nil
  · rw [hentered.1]
    exact rule.nil

theorem obeys_forM {part : β → Resolution Unit} {list : List β} (h : ∀ b, Obeys rule (part b)) :
    Obeys rule (list.forM part) := by
  induction list with
  | nil => exact obeys_pure ()
  | cons b list ih => exact (h b).bind fun _ => ih

theorem obeys_settle {depth : Nat} {doctype : String} {schema : DoctypeSchema}
    (hunfinished : rule.holds [] (some .unfinished))
    (h : ∀ inner, depth = inner + 1 → ∀ child, Obeys rule (resolve bound app inner child)) :
    Obeys rule (settle bound app depth doctype schema) := by
  unfold settle
  apply obeys_get.bind
  intro progress
  split
  · exact obeys_modify _
  · apply (obeys_modify _).bind
    intro _
    cases depth with
    | zero => exact obeys_throw hunfinished
    | succ inner => exact (obeys_forM (h inner rfl)).bind fun _ => obeys_modify _

theorem obeys_resolve_of_settle {depth : Nat} {doctype : String}
    (hlocate : ∀ doctype, Obeys rule (locate bound app doctype))
    (hload : ∀ path, Obeys rule (ofProgram (loadSchema path)))
    (h : ∀ schema, Obeys rule (settle bound app depth doctype schema)) :
    Obeys rule (resolve bound app depth doctype) := by
  rw [resolve_eq]
  apply (obeys_enter doctype).bind
  intro entered
  split
  · apply (hlocate doctype).bind
    intro path?
    cases path? with
    | none => exact obeys_modify _
    | some path => exact (hload path).bind h
  · exact obeys_pure ()

theorem obeys_resolve (hlocate : ∀ doctype, Obeys rule (locate bound app doctype))
    (hload : ∀ path, Obeys rule (ofProgram (loadSchema path)))
    (hunfinished : rule.holds [] (some .unfinished)) (depth : Nat) (doctype : String) :
    Obeys rule (resolve bound app depth doctype) := by
  induction depth generalizing doctype with
  | zero =>
    apply obeys_resolve_of_settle hlocate hload
    intro schema
    apply obeys_settle hunfinished
    intro inner hinner
    cases hinner
  | succ depth ih =>
    apply obeys_resolve_of_settle hlocate hload
    intro schema
    apply obeys_settle hunfinished
    intro inner hinner
    obtain rfl := Nat.succ.inj hinner
    exact ih

/-- Resolving requests keeps to a rule if finding and reading schemas does. -/
theorem obeys_resolveRoots (hlocate : ∀ app doctype, Obeys rule (locate bound app doctype))
    (hload : ∀ path, Obeys rule (ofProgram (loadSchema path)))
    (hunfinished : rule.holds [] (some .unfinished)) (roots : Roots) :
    Obeys rule (resolveRoots bound roots) :=
  obeys_forM fun root => obeys_resolve (hlocate root.1) hload hunfinished bound root.2

def Looks (part : Resolution α) : Prop :=
  ∀ before, (part.run.run before).Looks

theorem Looks.observes {part : Resolution α} {before after : Progress} {events : List Event}
    {result : Except Failure α} (h : Looks part) (hends : Ends part before events result after) :
    ∀ e ∈ events, e.call.observes = true :=
  h before events _ hends

def lookRule : Rule where
  holds events _ := ∀ e ∈ events, e.call.observes = true
  nil := by simp
  append hfirst hrest := List.forall_mem_append.2 ⟨hfirst, hrest⟩

theorem looks_of_obeys {part : Resolution α} (h : Obeys lookRule part) : Looks part := by
  intro before events ⟨result, after⟩ hends
  exact h before events result after hends

theorem obeys_lookRule_resolveRoots (bound : Nat) (roots : Roots) :
    Obeys lookRule (resolveRoots bound roots) := by
  apply obeys_resolveRoots
  · intro app doctype before events result after hends
    obtain ⟨locator, hlocate, -⟩ := ends_locate.1 hends
    exact Locator.looks_locate bound before.locator app doctype events _ hlocate
  · exact fun path => obeys_ofProgram (looks_loadSchema path)
  · exact lookRule.nil

theorem looks_resolveRoots (bound : Nat) (roots : Roots) : Looks (resolveRoots bound roots) :=
  looks_of_obeys (obeys_lookRule_resolveRoots bound roots)

end Resolution

end DoctypeInterfaces
