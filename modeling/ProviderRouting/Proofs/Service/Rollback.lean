import ProviderRouting.Proofs.Service.Reachable

/-!
# A failed edit changes nothing

Every call of the rule editor checks and plans before it writes, and writes once, last; so a
call that is refused, that steps past the 32-bit priorities, or whose store call fails leaves the
store and the cache as they were. A creation before an anchor is the one call that writes twice:
it moves later rules up, then stores the new rule, and when that fails it writes the moved rules'
old priorities and times back. The values it writes back come from the cache, so the undo gives
the store back exactly when the store holds what the cache holds (`Mirrors`): over a store changed
behind the service's back it writes the cached values instead.
-/

namespace ProviderRouting

/-! ## Writing priorities to the rows -/

def Row.assign (w : Row) (a : Assignment) : Row :=
  if w.id = a.id then { w with priority := a.priority, updatedAt := a.stamp } else w

@[simp] theorem Row.assign_id (w : Row) (a : Assignment) : (w.assign a).id = w.id := by
  unfold Row.assign
  split <;> rfl

@[simp] theorem foldl_assign_id (w : Row) (plan : List Assignment) :
    (plan.foldl Row.assign w).id = w.id := by
  induction plan generalizing w with
  | nil => rfl
  | cons a plan ih => rw [List.foldl_cons, ih, Row.assign_id]

theorem writeAssignments_eq_ok_iff : ∀ {st st' : Store} {plan : List Assignment},
    writeAssignments st plan = .ok st' ↔ (∀ a ∈ plan, ∃ w ∈ st.rules, w.id = a.id) ∧
      st' = { st with rules := st.rules.map fun w => plan.foldl Row.assign w }
  | st, st', [] => by
    simp only [writeAssignments, List.not_mem_nil, false_implies, implies_true, true_and,
      List.foldl_nil, List.map_id', Except.ok.injEq]
    exact eq_comm
  | st, st', a :: plan => by
    have hu : st.updatePriority a.id a.priority a.stamp =
        ({ st with rules := st.rules.map (·.assign a) }, (st.rules.filter (·.id == a.id)).length) :=
      rfl
    have hn : (st.rules.filter (·.id == a.id)).length = 0 ↔ ¬∃ w ∈ st.rules, w.id = a.id := by
      simp [List.filter_eq_nil_iff]
    unfold writeAssignments
    rw [hu]
    dsimp only
    by_cases h0 : (st.rules.filter (·.id == a.id)).length = 0
    · simp only [h0, if_true, reduceCtorEq, false_iff, not_and]
      exact fun hall => absurd (hall a List.mem_cons_self) (hn.1 h0)
    · -- the row of `a` changes and every id stays, so the rest of the batch sees the same rows
      have ha : ∃ w ∈ st.rules, w.id = a.id := not_not.1 (mt hn.2 h0)
      rw [if_neg h0, writeAssignments_eq_ok_iff]
      simp only [List.forall_mem_cons, List.mem_map, List.foldl_cons, List.map_map,
        Function.comp_def, ha, true_and]
      simp

theorem foldl_assign_ofRule (r : Rule) : ∀ {plan : List Assignment}, (plan.map (·.id)).Nodup →
    plan.foldl Row.assign (Row.ofRule r) = Row.ofRule (reassign plan r)
  | [], _ => by rw [List.foldl_nil, reassign_of_not_mem List.not_mem_nil]
  | a :: plan, hp => by
    obtain ⟨ha, hp⟩ := List.nodup_cons.1 hp
    rw [List.foldl_cons, reassign_cons ha]
    have hrow : Row.assign (Row.ofRule r) a = Row.ofRule
        (if r.id = a.id then { r with priority := a.priority, updatedAt := a.stamp } else r) := by
      by_cases h : r.id = a.id
      · rw [Row.assign, if_pos (show (Row.ofRule r).id = a.id from h), if_pos h]
        rfl
      · rw [Row.assign, if_neg (show ¬(Row.ofRule r).id = a.id from h), if_neg h]
    rw [hrow, foldl_assign_ofRule _ hp]

theorem writeAssignments_restore {st st' : Store} {snap : List Rule} {plan : List Assignment}
    (hm : Mirrors st snap) (hk : Keyed snap) (hp : (plan.map (·.id)).Nodup)
    (hw : writeAssignments st plan = .ok st') :
    writeAssignments st' (originalPriorities snap plan) = .ok st := by
  obtain ⟨hall, rfl⟩ := writeAssignments_eq_ok_iff.1 hw
  have hsub := ids_originalPriorities snap plan
  refine writeAssignments_eq_ok_iff.2 ⟨fun b hb => ?_, ?_⟩
  · -- the undo names only moved rules, whose rows are still there
    obtain ⟨a, ha, e⟩ := List.mem_map.1 (hsub.subset (List.mem_map_of_mem hb))
    obtain ⟨w, hw, hid⟩ := hall a ha
    exact ⟨_, List.mem_map_of_mem hw, by rw [foldl_assign_id, hid, e]⟩
  · -- each row is a cached rule's, and gets that rule's priority and time back
    have hback : (st.rules.map fun w => plan.foldl Row.assign w).map
        (fun w => (originalPriorities snap plan).foldl Row.assign w) = st.rules := by
      rw [List.map_map]
      conv_rhs => rw [← List.map_id st.rules]
      refine List.map_congr_left fun w hw => ?_
      obtain ⟨x, hx, rfl⟩ := List.mem_map.1 (hm.subset hw)
      rw [Function.comp_apply, id, foldl_assign_ofRule x hp,
        foldl_assign_ofRule _ (hsub.nodup hp), reassign_originalPriorities hk hx]
    dsimp only
    rw [hback]

/-! ## Runs that leave the rules alone -/

def Unchanged (s t : Service) : Prop := t.store = s.store ∧ t.cache = s.cache

section Calls

variable {s : Service}

theorem ends_persistAssignments_of_ok {ok : Unit → Service → Prop} {err : Failure → Service → Prop}
    {plan : List Assignment} {st : Store} (hf : s.failsNext false = false)
    (hw : writeAssignments s.store plan = .ok st)
    (hok : ok () { s.tick with store := st, cache := applyAssignments s.cache plan }) :
    Ends (persistAssignments plan) ok err s := by
  unfold persistAssignments
  rw [ends_bind, ends_lift, ends_reorderRules, if_neg (by simp [hf])]
  split
  · rename_i st' h
    rw [hw] at h
    cases h
    rw [ends_bind, ends_snapshot, ends_setCache]
    exact hok
  · rename_i h
    rw [hw] at h
    cases h

theorem delete_rollback (id : String) :
    Ends (delete id) (fun _ _ => True) (fun _ => Unchanged s) s :=
  ends_delete id (fun _ => ⟨rfl, rfl⟩) (fun _ _ _ _ => ⟨rfl, rfl⟩) fun _ _ _ =>
    ends_persistDelete id (fun _ => trivial) fun _ => ⟨rfl, rfl⟩

theorem reorder_rollback (ids : List String) :
    Ends (reorder ids) (fun _ _ => True) (fun _ => Unchanged s) s :=
  ends_reorder ids (fun _ _ _ => ⟨rfl, rfl⟩) (fun _ _ => trivial) fun _ _ _ _ =>
    ends_persistAssignments _ (fun _ _ => trivial) fun _ => ⟨rfl, rfl⟩

theorem duplicate_rollback (id : String) :
    Ends (duplicate id) (fun _ _ => True) (fun _ => Unchanged s) s :=
  ends_duplicate id (fun _ => ⟨rfl, rfl⟩) (fun _ _ _ _ => ⟨rfl, rfl⟩) (fun _ _ _ _ => ⟨rfl, rfl⟩)
    (fun _ _ _ _ _ => ⟨rfl, rfl⟩) fun _ _ _ _ _ _ _ =>
      ends_persistCreate _ (fun _ _ => trivial) fun _ => ⟨rfl, rfl⟩

theorem update_rollback (id : String) (p : Patch) :
    Ends (update id p) (fun _ _ => True) (fun _ => Unchanged s) s :=
  -- a rule moved to another scope goes past its end, which may step out of range
  ends_update id p (fun _ => ⟨rfl, rfl⟩) (fun _ _ _ _ => ⟨rfl, rfl⟩) (fun _ _ _ _ => ⟨rfl, rfl⟩)
    (fun _ _ _ _ _ _ => ends_persistUpdate _ (fun _ _ => trivial) fun _ => ⟨rfl, rfl⟩)
    (fun _ _ _ _ _ _ _ => ⟨rfl, rfl⟩)
    fun _ _ _ _ _ _ _ _ => ends_persistUpdate _ (fun _ _ => trivial) fun _ => ⟨rfl, rfl⟩

theorem setDefault_rollback (g : Group) (edit : DefaultEdit) :
    Ends (setDefault g edit) (fun _ _ => True) (fun _ => Unchanged s) s :=
  ends_setDefault g edit (fun _ => ⟨rfl, rfl⟩) (fun _ _ _ _ _ _ => ⟨rfl, rfl⟩)
    (fun _ _ _ _ _ _ => ⟨rfl, rfl⟩) fun _ _ _ _ =>
    ends_persistUpdate _ (fun _ _ => trivial) fun _ => ⟨rfl, rfl⟩

theorem storeNew_rollback {snap : List Rule} {r : Rule} {shifted : List Assignment}
    (hm : Mirrors s.store s.cache) (hk : Keyed s.cache) (hsnap : s.cache = snap)
    (hp : (shifted.map (·.id)).Nodup) (hc : shifted ≠ [] → s.tick.tick.failsNext false = false) :
    Ends (storeNew snap r shifted) (fun _ _ => True) (fun _ => Unchanged s) s := by
  subst hsnap
  refine ends_storeNew (fun _ => ends_persistCreate r (fun _ _ => trivial) fun _ => ⟨rfl, rfl⟩)
    fun hne => ?_
  refine ends_persistAssignments shifted (fun st hw => ?_) fun _ => ⟨rfl, rfl⟩
  refine ends_persistCreate r (fun _ _ => trivial) fun e => ?_
  -- the insert failed: the third store call writes the moved rules' old values back
  exact ends_persistAssignments_of_ok (hc hne) (writeAssignments_restore hm hk hp hw)
    ⟨rfl, applyAssignments_originalPriorities hk hp⟩

theorem placeNew_nodup {snap : List Rule} {n : NewRule} {t : Time.Instant} {p : Int}
    {shifted : List Assignment} (hk : Keyed snap) (h : placeNew snap n t = .ok (p, shifted)) :
    (shifted.map (·.id)).Nodup ∧ (n.position = .last → shifted = []) := by
  unfold placeNew at h
  split at h
  · obtain ⟨q, -, h⟩ := bind_eq_ok h
    obtain ⟨rfl, rfl⟩ := Prod.mk.inj (Except.ok.inj h)
    exact ⟨List.nodup_nil, fun _ => rfl⟩
  · rename_i hpos
    exact ⟨(planInsertBefore_keepsApart hk h).nodup, fun e => by rw [hpos] at e; cases e⟩

theorem create_rollback (hm : Mirrors s.store s.cache) (hk : Keyed s.cache) (n : NewRule)
    (hc : n.position ≠ .last → s.tick.tick.failsNext false = false) :
    Ends (create n) (fun _ _ => True) (fun _ => Unchanged s) s := by
  refine ends_create n (fun _ _ => ⟨rfl, rfl⟩) (fun _ _ => ⟨rfl, rfl⟩) (fun _ _ _ _ => ⟨rfl, rfl⟩)
    fun _ _ _ _ _ _ hpl => ?_
  obtain ⟨hp, hlast⟩ := placeNew_nodup hk hpl
  -- only a creation before an anchor moves rules, and so has anything to undo
  exact storeNew_rollback hm hk rfl hp fun hne => hc fun e => hne (hlast e)

end Calls

/-! ## Calls of the rule editor -/

/-- A call of the rule editor. -/
inductive Edit where
  | create (n : NewRule)
  | update (id : String) (p : Patch)
  | delete (id : String)
  | duplicate (id : String)
  | reorder (ids : List String)
  | setDefault (g : Group) (edit : DefaultEdit)

def Edit.run : Edit → ServiceM Unit
  | .create n => discard (ProviderRouting.create n)
  | .update id p => discard (ProviderRouting.update id p)
  | .delete id => ProviderRouting.delete id
  | .duplicate id => discard (ProviderRouting.duplicate id)
  | .reorder ids => ProviderRouting.reorder ids
  | .setDefault g edit => discard (ProviderRouting.setDefault g edit)

def Edit.insertsBefore : Edit → Bool
  | .create n => n.position != .last
  | _ => false

theorem edit_rollback {s : Service} (hm : Mirrors s.store s.cache) (hk : Keyed s.cache)
    (c : Edit) (hc : c.insertsBefore = true → s.tick.tick.failsNext false = false) :
    Ends c.run (fun _ _ => True) (fun _ => Unchanged s) s := by
  cases c with
  | create n =>
    rw [Edit.run, ends_discard]
    exact create_rollback hm hk n fun hpos => hc (by simpa [Edit.insertsBefore] using hpos)
  | update id p =>
    rw [Edit.run, ends_discard]
    exact update_rollback id p
  | delete id => exact delete_rollback id
  | duplicate id =>
    rw [Edit.run, ends_discard]
    exact duplicate_rollback id
  | reorder ids => exact reorder_rollback ids
  | setDefault g edit =>
    rw [Edit.run, ends_discard]
    exact setDefault_rollback g edit

/-- Over a store that holds the cached rules, no two of one id, a call of the rule editor that
fails, whether refused, past the 32-bit priorities or stopped by a store call, leaves the store
and the cache as they were; a creation before an anchor does so as long as the store call that
puts the moved rules back, the third of the call, is not set to fail. -/
theorem failed_edit_leaves_rules {s : Service} {e : Failure} (hm : Mirrors s.store s.cache)
    (hk : Keyed s.cache) (c : Edit)
    (hc : c.insertsBefore = true → s.tick.tick.failsNext false = false)
    (hfail : (c.run.run.run s).1 = .error e) :
    (s.after c.run).store = s.store ∧ (s.after c.run).cache = s.cache :=
  (edit_rollback hm hk c hc).of_error hfail

/-- A rule stored at an anchor's priority 1 and a creation before it whose insert fails: the
moved anchor is put back. -/
theorem insert_before_undone :
    let at2025 : Time.Instant := ⟨1735689600, 0⟩
    let anchor : Rule :=
      { id := "a", kind := .path, group := .openai, provider := "p1", pattern := "/v1/x",
        rewrite := none, priority := 1, enabled := true, createdAt := at2025,
        updatedAt := at2025 }
    let s : Service :=
      { store := { rules := [Row.ofRule anchor] }, registry := .fixed [{ id := "p1", name := "p1" }],
        cache := [anchor], faults := { create := true } }
    let c : Edit := .create
      { kind := .path, group := .openai, provider := "p1", pattern := "/v1/y",
        position := .before "a" }
    (c.run.run.run s).1 = .error (.error (.storage injected)) ∧
      (s.after c.run).store = s.store ∧ (s.after c.run).cache = s.cache := by
  intro at2025 anchor s c
  have hfail : (c.run.run.run s).1 = .error (.error (.storage injected)) := by decide +kernel
  have hm : Mirrors s.store s.cache := List.Perm.refl _
  have hk : Keyed s.cache := by unfold Keyed; decide
  exact ⟨hfail, failed_edit_leaves_rules hm hk c (fun _ => rfl) hfail⟩

/-- Over a store changed behind the service's back the undo writes the cached values: the store
holds priority 5 for the anchor, the cache 1, and after a creation before it whose insert fails
the store holds 1, though the call that writes it back was not set to fail. -/
theorem insert_before_rewrites_stale_store :
    let at2025 : Time.Instant := ⟨1735689600, 0⟩
    let anchor (p : Int) : Rule :=
      { id := "a", kind := .path, group := .openai, provider := "p1", pattern := "/v1/x",
        rewrite := none, priority := p, enabled := true, createdAt := at2025,
        updatedAt := at2025 }
    let s : Service :=
      { store := { rules := [Row.ofRule (anchor 5)] },
        registry := .fixed [{ id := "p1", name := "p1" }], cache := [anchor 1],
        faults := { create := true } }
    let c : Edit := .create
      { kind := .path, group := .openai, provider := "p1", pattern := "/v1/y",
        position := .before "a" }
    s.tick.tick.failsNext false = false ∧
      (c.run.run.run s).1 = .error (.error (.storage injected)) ∧
      (s.after c.run).store.rules ≠ s.store.rules := by
  decide +kernel

end ProviderRouting
