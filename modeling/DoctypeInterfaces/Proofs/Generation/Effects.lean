import DoctypeInterfaces.Proofs.Generation.Resolved
import DoctypeInterfaces.Proofs.Interface.Set

namespace DoctypeInterfaces

namespace InterfaceSet

/-- Whether a set has no interface of a doctype, or one that was made at another time. -/
def isOutdated (set : InterfaceSet) (schema : DoctypeSchema) : Bool :=
  !set.isCurrent schema.interfaceName schema.modified

theorem isOutdated_congr {set set' : InterfaceSet} {schema : DoctypeSchema}
    (h : set.get? schema.interfaceName = set'.get? schema.interfaceName) :
    set.isOutdated schema = set'.isOutdated schema := by
  rw [isOutdated, isOutdated, isCurrent, isCurrent, h]

end InterfaceSet

namespace Resolved

variable {before after : Progress} {requests : List (String × String)} {lookups : List Lookup}
  {emitted : List DoctypeSchema} {earlier : InterfaceSet}

theorem interfaces_eq (h : Resolved before requests lookups emitted after) :
    after.interfaces = before.interfaces.insertAll (emitted.map DoctypeSchema.toInterface) := by
  induction h with
  | done => rfl
  | known _ _ ih => exact ih
  | missing _ _ _ _ ih => exact ih
  | current _ _ _ _ _ _ ih => exact ih
  | emitted lookup schema _ _ _ _ _ ihInner ihLater =>
    rw [List.map_append, InterfaceSet.insertAll_append, List.map_cons,
      InterfaceSet.insertAll_cons, ihLater]
    change InterfaceSet.insertAll (InterfaceSet.insert _ _) _ = _
    rw [ihInner]
    rfl

theorem changed_eq (h : Resolved before requests lookups emitted after) :
    after.changed = before.changed + emitted.length := by
  induction h with
  | done => rfl
  | known _ _ ih => exact ih
  | missing _ _ _ _ ih => exact ih
  | current _ _ _ _ _ _ ih => exact ih
  | @emitted before middle after _ _ _ innerEmitted laterEmitted _ _ _ _ _ _ _ ihInner ihLater =>
    have hinner : middle.changed = before.changed + innerEmitted.length := ihInner
    have hlater : after.changed = middle.changed + 1 + laterEmitted.length := ihLater
    rw [List.length_append, List.length_cons]
    omega

theorem mem_of_mem_emitted (h : Resolved before requests lookups emitted after) :
    ∀ schema ∈ emitted, schema ∈ lookups.filterMap Lookup.schema? := by
  induction h with
  | done => simp
  | known _ _ ih => exact ih
  | missing lookup _ hnone _ ih =>
    rw [List.filterMap_cons_none (Lookup.schema?_eq_none hnone)]
    exact ih
  | current lookup read _ hread _ _ ih =>
    intro schema hschema
    rw [List.filterMap_cons_some hread]
    exact List.mem_cons_of_mem _ (ih schema hschema)
  | emitted lookup read _ hread _ _ _ ihInner ihLater =>
    intro schema hschema
    rw [List.filterMap_cons_some hread, List.filterMap_append, List.mem_cons, List.mem_append]
    rcases List.mem_append.1 hschema with hinner | hlater
    · exact .inr (.inl (ihInner schema hinner))
    · rcases List.mem_cons.1 hlater with rfl | hlater
      · exact .inl rfl
      · exact .inr (.inr (ihLater schema hlater))

/-- What is told by the processed doctypes and by the locator, and grows by one entry with each
lookup, has the entries of all lookups in the end. -/
theorem log_eq {α : Type} (log : List String → Locator → List α) {entry : Lookup → α}
    (hlog : ∀ (progress : Progress) lookup,
      log (progress.lookedUp lookup).processed (progress.lookedUp lookup).locator =
        entry lookup :: log progress.processed progress.locator)
    (h : Resolved before requests lookups emitted after) :
    log after.processed after.locator =
      (lookups.map entry).reverse ++ log before.processed before.locator := by
  induction h with
  | done => rfl
  | known _ _ ih => exact ih
  | @missing before _ _ _ _ lookup _ _ _ ih =>
    rw [List.map_cons, List.reverse_cons, List.append_assoc, List.singleton_append, ← hlog]
    exact ih
  | @current before _ _ _ _ lookup _ _ _ _ _ ih =>
    rw [List.map_cons, List.reverse_cons, List.append_assoc, List.singleton_append, ← hlog]
    exact ih
  | @emitted before middle after _ inner later _ _ lookup _ _ _ _ _ _ ihInner ihLater =>
    have hmiddle : log middle.processed middle.locator = (inner.map entry).reverse ++
        entry lookup :: log before.processed before.locator := hlog before lookup ▸ ihInner
    have hafter : log after.processed after.locator =
        (later.map entry).reverse ++ log middle.processed middle.locator := ihLater
    rw [hafter, hmiddle]
    simp

theorem processed_eq (h : Resolved before requests lookups emitted after) :
    after.processed = (lookups.map Lookup.doctype).reverse ++ before.processed :=
  log_eq (fun processed _ => processed) (fun _ _ => rfl) h

/-- What holds of the applications of the requests holds of those of all lookups. -/
theorem forall_app {p : String → Prop} (h : Resolved before requests lookups emitted after)
    (hrequests : ∀ request ∈ requests, p request.1) : ∀ lookup ∈ lookups, p lookup.app := by
  induction h with
  | done => simp
  | known _ _ ih => exact ih fun request hrequest => hrequests request (.tail _ hrequest)
  | missing lookup _ _ _ ih =>
    have hfirst : p lookup.app := hrequests _ List.mem_cons_self
    have hrest := ih fun request hrequest => hrequests request (.tail _ hrequest)
    simpa using ⟨hfirst, hrest⟩
  | current lookup _ _ _ _ _ ih =>
    have hfirst : p lookup.app := hrequests _ List.mem_cons_self
    have hrest := ih fun request hrequest => hrequests request (.tail _ hrequest)
    simpa using ⟨hfirst, hrest⟩
  | emitted lookup schema _ _ _ _ _ ihInner ihLater =>
    have hfirst : p lookup.app := hrequests _ List.mem_cons_self
    have hinner := ihInner (by simp [hfirst])
    have hlater := ihLater fun request hrequest => hrequests request (.tail _ hrequest)
    intro l hl
    rcases List.mem_cons.1 hl with rfl | hl
    · exact hfirst
    · exact (List.mem_append.1 hl).elim (hinner l) (hlater l)

theorem app_eq {app : String} (h : Resolved before requests lookups emitted after)
    (hrequests : ∀ request ∈ requests, request.1 = app) : ∀ lookup ∈ lookups, lookup.app = app :=
  forall_app (p := fun other => other = app) h hrequests

theorem notFound_eq (h : Resolved before requests lookups emitted after) :
    after.notFound = before.notFound ++
      (lookups.filter fun lookup => lookup.schema?.isNone).map Lookup.doctype := by
  induction h with
  | done => simp
  | known _ _ ih => exact ih
  | @missing before _ _ _ _ lookup _ hnone _ ih =>
    have hread : lookup.schema? = none := Lookup.schema?_eq_none hnone
    rw [ih]
    change before.notFound ++ [lookup.doctype] ++ _ = _
    simp [hread]
  | @current before _ _ _ _ lookup _ _ hread _ _ ih =>
    rw [ih]
    change before.notFound ++ _ = _
    simp [hread]
  | @emitted before middle _ _ inner _ _ _ lookup _ _ hread _ _ _ ihInner ihLater =>
    have hmiddle : middle.notFound = before.notFound ++
        (inner.filter fun lookup => lookup.schema?.isNone).map Lookup.doctype := ihInner
    rw [ihLater]
    change middle.notFound ++ _ = _
    rw [hmiddle]
    simp [hread]

theorem skipped_eq (h : Resolved before requests lookups emitted after) :
    after.skipped + emitted.length =
      before.skipped + (lookups.filterMap Lookup.schema?).length := by
  induction h with
  | done => rfl
  | known _ _ ih => exact ih
  | missing lookup _ hnone _ ih =>
    rw [List.filterMap_cons_none (Lookup.schema?_eq_none hnone)]
    exact ih
  | @current before after _ _ emitted lookup _ _ hread _ _ ih =>
    have hrest : after.skipped + emitted.length = before.skipped + 1 + _ := ih
    rw [List.filterMap_cons_some hread, List.length_cons]
    omega
  | @emitted before middle after _ _ _ innerEmitted laterEmitted lookup _ _ hread _ _ _ ihInner
      ihLater =>
    have hinner : middle.skipped + innerEmitted.length = before.skipped + _ := ihInner
    have hlater : after.skipped + laterEmitted.length = middle.skipped + _ := ihLater
    rw [List.filterMap_cons_some hread, List.filterMap_append, List.length_append,
      List.length_cons, List.length_cons, List.length_append]
    omega

theorem nodup_processed (h : Resolved before requests lookups emitted after)
    (hbefore : before.processed.Nodup) : after.processed.Nodup := by
  induction h with
  | done => exact hbefore
  | known _ _ ih => exact ih hbefore
  | missing _ hnew _ _ ih => exact ih (hbefore.cons hnew)
  | current _ _ hnew _ _ _ ih => exact ih (hbefore.cons hnew)
  | emitted _ _ hnew _ _ _ _ ihInner ihLater => exact ihLater (ihInner (hbefore.cons hnew))

theorem nodup_lookups (h : Resolved before requests lookups emitted after)
    (hbefore : before.processed = []) : (lookups.map Lookup.doctype).Nodup := by
  have hprocessed : after.processed.Nodup := h.nodup_processed (by rw [hbefore]; exact .nil)
  rw [h.processed_eq, hbefore, List.append_nil] at hprocessed
  exact List.nodup_reverse.1 hprocessed

theorem mem_processed_of_mem {doctype : String}
    (h : Resolved before requests lookups emitted after) (hold : doctype ∈ before.processed) :
    doctype ∈ after.processed := by
  rw [h.processed_eq]
  exact List.mem_append_right _ hold

theorem mem_processed (h : Resolved before requests lookups emitted after) :
    ∀ request ∈ requests, request.2 ∈ after.processed := by
  induction h with
  | done => simp
  | known hold hrest ih =>
    intro request hrequest
    rcases List.mem_cons.1 hrequest with rfl | hrequest
    · exact hrest.mem_processed_of_mem hold
    · exact ih request hrequest
  | missing lookup _ _ hrest ih =>
    intro request hrequest
    rcases List.mem_cons.1 hrequest with rfl | hrequest
    · exact hrest.mem_processed_of_mem List.mem_cons_self
    · exact ih request hrequest
  | current lookup _ _ _ _ hrest ih =>
    intro request hrequest
    rcases List.mem_cons.1 hrequest with rfl | hrequest
    · exact hrest.mem_processed_of_mem List.mem_cons_self
    · exact ih request hrequest
  | @emitted before middle _ _ _ _ _ _ lookup _ _ _ _ hinner hlater _ ihLater =>
    intro request hrequest
    rcases List.mem_cons.1 hrequest with rfl | hrequest
    · have hmiddle : lookup.doctype ∈ middle.processed :=
        hinner.mem_processed_of_mem List.mem_cons_self
      exact hlater.mem_processed_of_mem hmiddle
    · exact ihLater request hrequest

/-- Where nothing was processed before, every requested doctype has been looked up. -/
theorem exists_lookup {request : String × String}
    (h : Resolved before requests lookups emitted after) (hbefore : before.processed = [])
    (hrequest : request ∈ requests) : ∃ lookup ∈ lookups, lookup.doctype = request.2 := by
  have hprocessed := h.mem_processed request hrequest
  rw [h.processed_eq, hbefore, List.append_nil, List.mem_reverse] at hprocessed
  exact List.mem_map.1 hprocessed

theorem interfaces_of_unchanged (h : Resolved before requests lookups emitted after)
    (hchanged : after.changed = before.changed) : after.interfaces = before.interfaces := by
  have hempty : emitted = [] := by
    rw [h.changed_eq] at hchanged
    exact List.eq_nil_of_length_eq_zero (Nat.left_eq_add.1 hchanged.symm)
  rw [h.interfaces_eq, hempty]
  rfl

theorem found_eq (h : Resolved before requests lookups emitted after) :
    after.locator.found =
      (lookups.map fun lookup => ((lookup.app, lookup.doctype), lookup.path?)).reverse ++
        before.locator.found :=
  log_eq (fun _ locator => locator.found) (fun _ _ => rfl) h

theorem walks_eq (h : Resolved before requests lookups emitted after) :
    after.locator.walks = before.locator.walks + lookups.length := by
  induction h with
  | done => rfl
  | known _ _ ih => exact ih
  | @missing before after _ _ _ _ _ _ _ ih =>
    have hafter : after.locator.walks = before.locator.walks + 1 + _ := ih
    rw [hafter, List.length_cons]
    omega
  | @current before after _ _ _ _ _ _ _ _ _ ih =>
    have hafter : after.locator.walks = before.locator.walks + 1 + _ := ih
    rw [hafter, List.length_cons]
    omega
  | @emitted before middle after _ _ _ _ _ _ _ _ _ _ _ _ ihInner ihLater =>
    have hmiddle : middle.locator.walks = before.locator.walks + 1 + _ := ihInner
    have hafter : after.locator.walks = middle.locator.walks + _ := ihLater
    rw [hafter, hmiddle, List.length_cons, List.length_append]
    omega

theorem isCurrent_of_isCurrent {name modified : String}
    (h : Resolved before requests lookups emitted after)
    (hbefore : before.interfaces.isCurrent name modified = true)
    (hsame : ∀ s ∈ lookups.filterMap Lookup.schema?, s.interfaceName = name →
      s.modified = modified) :
    after.interfaces.isCurrent name modified = true := by
  rw [h.interfaces_eq]
  apply InterfaceSet.isCurrent_insertAll hbefore
  intro interface hinterface hname
  obtain ⟨s, hs, rfl⟩ := List.mem_map.1 hinterface
  exact hsame s (h.mem_of_mem_emitted s hs) hname

/-- Where read schemas of one interface name are of one time, the interface of each of them is
current in the end. -/
theorem isCurrent_of_read (h : Resolved before requests lookups emitted after)
    (hsame : ∀ s ∈ lookups.filterMap Lookup.schema?, ∀ t ∈ lookups.filterMap Lookup.schema?,
      s.interfaceName = t.interfaceName → s.modified = t.modified) :
    ∀ s ∈ lookups.filterMap Lookup.schema?,
      after.interfaces.isCurrent s.interfaceName s.modified = true := by
  induction h with
  | done => simp
  | known _ _ ih => exact ih hsame
  | missing lookup _ hnone _ ih =>
    rw [List.filterMap_cons_none (Lookup.schema?_eq_none hnone)] at hsame ⊢
    exact ih hsame
  | current lookup schema _ hread hcurrent hrest ih =>
    rw [List.filterMap_cons_some hread] at hsame ⊢
    intro s hs
    rcases List.mem_cons.1 hs with rfl | hs
    · apply hrest.isCurrent_of_isCurrent hcurrent
      exact fun t ht => hsame t (List.mem_cons_of_mem _ ht) s List.mem_cons_self
    · exact ih (fun t ht u hu => hsame t (List.mem_cons_of_mem _ ht) u
        (List.mem_cons_of_mem _ hu)) s hs
  | @emitted _ middle _ _ inner later _ _ lookup schema _ hread _ _ hlater ihInner ihLater =>
    rw [List.filterMap_cons_some hread, List.filterMap_append] at hsame ⊢
    have hinnerMem : ∀ t ∈ inner.filterMap Lookup.schema?, t ∈ schema ::
        (inner.filterMap Lookup.schema? ++ later.filterMap Lookup.schema?) := fun t ht =>
      List.mem_cons_of_mem _ (List.mem_append_left _ ht)
    have hlaterMem : ∀ t ∈ later.filterMap Lookup.schema?, t ∈ schema ::
        (inner.filterMap Lookup.schema? ++ later.filterMap Lookup.schema?) := fun t ht =>
      List.mem_cons_of_mem _ (List.mem_append_right _ ht)
    intro s hs
    -- What is current once the schema has been emitted stays so, as later schemas agree with it.
    have hstays : (middle.emitted schema.toInterface).interfaces.isCurrent s.interfaceName
        s.modified = true → _ := fun hemitted =>
      hlater.isCurrent_of_isCurrent hemitted fun t ht => hsame t (hlaterMem t ht) s hs
    rcases List.mem_cons.1 hs with rfl | hread
    · apply hstays
      rw [InterfaceSet.isCurrent_iff]
      exact ⟨s.toInterface, InterfaceSet.get?_insert.trans (if_pos rfl), rfl⟩
    · rcases List.mem_append.1 hread with hread | hread
      · apply hstays
        have hmiddle := ihInner (fun t ht u hu => hsame t (hinnerMem t ht) u (hinnerMem u hu)) s
          hread
        have hone : ∀ i ∈ [schema.toInterface], i.name = s.interfaceName →
            i.lastUpdated = s.modified := by
          intro i hi hname
          rw [List.mem_singleton.1 hi] at hname ⊢
          exact hsame schema List.mem_cons_self s hs hname
        exact InterfaceSet.isCurrent_insertAll hmiddle hone
      · exact ihLater (fun t ht u hu => hsame t (hlaterMem t ht) u (hlaterMem u hu)) s hread

/-- Where no two read schemas share an interface name, the interfaces of those that are still to be
read are as they were before a doctype was resolved with its children. -/
theorem get?_emitted {before middle : Progress} {requests : List (String × String)}
    {inner : List Lookup} {emitted loaded : List DoctypeSchema} {schema : DoctypeSchema}
    (h : Resolved before requests inner emitted middle)
    (hnodup : ((schema :: (inner.filterMap Lookup.schema? ++ loaded)).map
      DoctypeSchema.interfaceName).Nodup) :
    ∀ s ∈ loaded, (middle.emitted schema.toInterface).interfaces.get? s.interfaceName =
      before.interfaces.get? s.interfaceName := by
  rw [List.map_cons, List.map_append, List.nodup_cons, List.nodup_append] at hnodup
  obtain ⟨hfresh, -, -, hdisjoint⟩ := hnodup
  intro s hs
  have hname : s.interfaceName ∈ loaded.map DoctypeSchema.interfaceName := List.mem_map_of_mem hs
  have hself : s.interfaceName ≠ schema.toInterface.name := by
    intro hsame
    rw [hsame] at hname
    exact hfresh (List.mem_append_right _ hname)
  have hothers : s.interfaceName ∉
      (emitted.map DoctypeSchema.toInterface).map Interface.name := by
    rw [List.map_map]
    intro hmem
    obtain ⟨other, hother, hsame⟩ := List.mem_map.1 hmem
    exact hdisjoint _ (List.mem_map_of_mem (h.mem_of_mem_emitted other hother)) _ hname hsame
  change (middle.interfaces.insert schema.toInterface).get? _ = _
  rw [InterfaceSet.get?_insert, if_neg hself, h.interfaces_eq,
    InterfaceSet.get?_insertAll_of_notMem hothers]

/-- The schemas that are emitted are those whose interfaces are not current in the earlier output,
as long as no two schemas share an interface name. -/
theorem emitted_perm (h : Resolved before requests lookups emitted after)
    (hnodup : ((lookups.filterMap Lookup.schema?).map DoctypeSchema.interfaceName).Nodup)
    (hagree : ∀ schema ∈ lookups.filterMap Lookup.schema?,
      before.interfaces.get? schema.interfaceName = earlier.get? schema.interfaceName) :
    emitted.Perm ((lookups.filterMap Lookup.schema?).filter earlier.isOutdated) := by
  induction h with
  | done => exact .nil
  | known _ _ ih => exact ih hnodup hagree
  | missing lookup _ hnone _ ih =>
    have hread : lookup.schema? = none := Lookup.schema?_eq_none hnone
    rw [List.filterMap_cons_none hread] at hnodup hagree ⊢
    exact ih hnodup hagree
  | current lookup schema _ hread hcurrent _ ih =>
    rw [List.filterMap_cons_some hread] at hnodup hagree ⊢
    have hskip : earlier.isOutdated schema = false := by
      rw [← InterfaceSet.isOutdated_congr (hagree schema List.mem_cons_self),
        InterfaceSet.isOutdated, hcurrent]
      rfl
    rw [List.filter_cons_of_neg (Bool.eq_false_iff.1 hskip)]
    exact ih (List.nodup_cons.1 hnodup).2 fun s hs => hagree s (List.mem_cons_of_mem _ hs)
  | emitted lookup schema _ hread hcurrent hinner _ ihInner ihLater =>
    rw [List.filterMap_cons_some hread, List.filterMap_append] at hnodup hagree ⊢
    have hrest := (List.nodup_cons.1 hnodup).2
    rw [List.map_append, List.nodup_append] at hrest
    have hemit : earlier.isOutdated schema = true := by
      rw [← InterfaceSet.isOutdated_congr (hagree schema List.mem_cons_self),
        InterfaceSet.isOutdated, hcurrent]
      rfl
    rw [List.filter_cons_of_pos hemit, List.filter_append]
    refine List.perm_middle.trans (.cons _ (.append ?_ ?_))
    · exact ihInner hrest.1 fun s hs =>
        hagree s (List.mem_cons_of_mem _ (List.mem_append_left _ hs))
    · exact ihLater hrest.2.1 fun s hs => (hinner.get?_emitted hnodup s hs).trans
        (hagree s (List.mem_cons_of_mem _ (List.mem_append_right _ hs)))

end Resolved

end DoctypeInterfaces
