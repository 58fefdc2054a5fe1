import ProviderRouting.Service.Providers

/-!
# Running service operations

`Ends m ok err s` says where a run of `m` from `s` ends: in `ok` of its result and final state
when it succeeds, in `err` of its failure and final state when it fails. Each building block of
the service gets one rule, so an operation is taken apart step by step.

A store call first uses up its queued outcome (`Service.tick`); a call that fails changes
nothing else.
-/

namespace ProviderRouting

def Ends {ε α : Type} (m : ExceptT ε (StateM Service) α) (ok : α → Service → Prop)
    (err : ε → Service → Prop) (s : Service) : Prop :=
  match m.run.run s with
  | (.ok a, s') => ok a s'
  | (.error e, s') => err e s'

def Service.tick (s : Service) : Service :=
  { s with faults := { s.faults with queue := s.faults.queue.tail } }

@[simp] theorem Service.tick_store (s : Service) : s.tick.store = s.store := rfl

@[simp] theorem Service.tick_cache (s : Service) : s.tick.cache = s.cache := rfl

def Service.providers (s : Service) : List Provider :=
  match s.readProviders with
  | .ok ps => ps
  | .error _ => []

theorem Service.providers_of_read {s : Service} {ps : List Provider}
    (h : s.readProviders = .ok ps) : s.providers = ps := by
  rw [Service.providers, h]

theorem Service.readProviders_of_mem {s : Service} {p : Provider} (hp : p ∈ s.providers) :
    s.readProviders = .ok s.providers := by
  cases h : s.readProviders with
  | ok ps => rw [Service.providers_of_read h]
  | error e =>
    rw [Service.providers, h] at hp
    cases hp

def Service.failsNext (s : Service) (createCall : Bool) : Bool :=
  s.faults.queue.head? = some true || s.faults.all || (createCall && s.faults.create)

section Monad

variable {ε α β : Type} {ok : β → Service → Prop} {err : ε → Service → Prop} {s : Service}

theorem ends_bind (x : ExceptT ε (StateM Service) α) (f : α → ExceptT ε (StateM Service) β) :
    Ends (x >>= f) ok err s = Ends x (fun a s' => Ends (f a) ok err s') err s := by
  unfold Ends
  show (match (x >>= f).run.run s with | (.ok a, s') => ok a s' | (.error e, s') => err e s') = _
  simp only [ExceptT.run_bind]
  rcases h : x.run.run s with ⟨_ | a, s'⟩ <;> simp [StateT.run_bind, h] <;> rfl

theorem ends_pure (b : β) : Ends (pure b : ExceptT ε (StateM Service) β) ok err s = ok b s := rfl

theorem ends_throw (e : ε) : Ends (throw e : ExceptT ε (StateM Service) β) ok err s = err e s :=
  rfl

theorem ends_get {ok : Service → Service → Prop} :
    Ends (get : ExceptT ε (StateM Service) Service) ok err s = ok s s := rfl

theorem ends_set {ok : PUnit → Service → Prop} (s' : Service) :
    Ends (set s' : ExceptT ε (StateM Service) PUnit) ok err s = ok ⟨⟩ s' := rfl

theorem ends_modify {ok : PUnit → Service → Prop} (f : Service → Service) :
    Ends (modify f : ExceptT ε (StateM Service) PUnit) ok err s = ok ⟨⟩ (f s) := rfl

theorem ends_tryCatch (x : ExceptT ε (StateM Service) β) (h : ε → ExceptT ε (StateM Service) β) :
    Ends (tryCatch x h) ok err s = Ends x ok (fun e s' => Ends (h e) ok err s') s := by
  unfold Ends
  have : (tryCatch x h).run.run s = match x.run.run s with
      | (.ok a, s') => (.ok a, s') | (.error e, s') => (h e).run.run s' := by
    show (ExceptT.tryCatch x h).run.run s = _
    simp only [ExceptT.tryCatch, ExceptT.run_mk, StateT.run_bind]
    rcases hx : x.run.run s with ⟨e | a, s'⟩ <;> (change StateT.run x s = _ at hx) <;>
      simp [hx] <;> rfl
  rw [this]
  rcases x.run.run s with ⟨e | a, s'⟩ <;> rfl

theorem ends_map (f : α → β) (x : ExceptT ε (StateM Service) α) :
    Ends (f <$> x) ok err s = Ends x (fun a => ok (f a)) err s := by
  rw [← bind_pure_comp, ends_bind]
  rfl

theorem ends_ite (c : Prop) [Decidable c] (x y : ExceptT ε (StateM Service) β) :
    Ends (if c then x else y) ok err s = if c then Ends x ok err s else Ends y ok err s := by
  split <;> rfl

theorem Ends.mono {m : ExceptT ε (StateM Service) β} {ok' : β → Service → Prop}
    {err' : ε → Service → Prop} (h : Ends m ok err s) (hok : ∀ b t, ok b t → ok' b t)
    (herr : ∀ e t, err e t → err' e t) : Ends m ok' err' s := by
  unfold Ends at *
  revert h
  rcases m.run.run s with ⟨_ | b, t⟩
  · exact herr _ _
  · exact hok _ _

theorem ends_monadLift (x : StateM Service β) :
    Ends (monadLift x : ExceptT ε (StateM Service) β) ok err s = ok (x.run s).1 (x.run s).2 := rfl

theorem ends_run (m : ExceptT ε (StateM Service) α) (s : Service) :
    Ends m (fun a t => m.run.run s = (.ok a, t)) (fun e t => m.run.run s = (.error e, t)) s := by
  unfold Ends
  split <;> assumption

end Monad

/-! ## Loops

A loop's invariant is indexed by the items still to go, so that a step may rely on what is
left. -/

section Loops

variable {ε α β : Type} {err : ε → Service → Prop}

theorem ends_mapM {f : α → ExceptT ε (StateM Service) β} (I : List α → Service → Prop)
    (hstep : ∀ a l s, I (a :: l) s → Ends (f a) (fun _ => I l) err s) :
    ∀ (l : List α) {s : Service}, I l s → Ends (l.mapM f) (fun _ => I []) err s
  | [], _, h => h
  | a :: l, s, h => by
    rw [List.mapM_cons, ends_bind]
    refine (hstep a l s h).mono (fun _ t ht => ?_) fun _ _ h => h
    rw [ends_bind]
    exact (ends_mapM I hstep l ht).mono (fun _ _ h => h) fun _ _ h => h

theorem ends_foldlM {f : β → α → ExceptT ε (StateM Service) β}
    (I : List α → β → Service → Prop)
    (hstep : ∀ a l b s, I (a :: l) b s → Ends (f b a) (I l) err s) :
    ∀ (l : List α) {b : β} {s : Service}, I l b s → Ends (l.foldlM f b) (I []) err s
  | [], _, _, h => h
  | a :: l, b, s, h => by
    rw [List.foldlM_cons, ends_bind]
    exact (hstep a l b s h).mono (fun _ _ ht => ends_foldlM I hstep l ht) fun _ _ h => h

theorem ends_forM {f : α → ExceptT ε (StateM Service) PUnit}
    (I : List α → Service → Prop)
    (hstep : ∀ a l s, I (a :: l) s → Ends (f a) (fun _ => I l) err s) :
    ∀ (l : List α) {s : Service}, I l s → Ends (l.forM f) (fun _ => I []) err s
  | [], _, h => h
  | a :: l, s, h => by
    rw [List.forM_eq_forM, List.forM_cons, ends_bind]
    exact (hstep a l s h).mono (fun _ _ ht => ends_forM I hstep l ht) fun _ _ h => h

end Loops

section Service

variable {β : Type} {err : Failure → Service → Prop} {s : Service}

theorem ends_lift {ok : β → Service → Prop} (m : StoreM β) :
    Ends m.lift ok err s = Ends m ok (fun e => err (.error (.storage e))) s := by
  unfold Ends StoreM.lift
  simp only [ExceptT.run_mk, StateT.run_bind]
  rcases h : m.run.run s with ⟨e | a, s'⟩ <;> (change StateT.run m s = _ at h) <;> simp <;> rfl

theorem ends_refuse {ok : β → Service → Prop} (r : Except RouterError β) :
    Ends (refuse r) ok err s = match r with
      | .ok b => ok b s
      | .error e => err (.error e) s := by
  cases r <;> rfl

theorem ends_planned {ok : β → Service → Prop} (r : Except Failure β) :
    Ends (planned r) ok err s = match r with
      | .ok b => ok b s
      | .error e => err e s := by
  cases r <;> rfl

theorem ends_snapshot {ok : List Rule → Service → Prop} :
    Ends snapshot ok err s = ok s.cache s := rfl

theorem ends_setCache {ok : Unit → Service → Prop} (rules : List Rule) :
    Ends (setCache rules) ok err s = ok () { s with cache := rules } := rfl

theorem ends_listProviders {ok : List Provider → Service → Prop} :
    Ends listProviders ok err s = match s.readProviders with
      | .ok _ => ok s.providers s
      | .error e => err (.error (.storage e)) s := by
  unfold listProviders
  rw [ends_bind, ends_get]
  unfold Service.providers
  cases s.readProviders <;> rfl

theorem ends_listProviders_of {ok : List Provider → Service → Prop}
    (hunread : ∀ e, s.readProviders = .error e → err (.error (.storage e)) s)
    (hread : s.readProviders = .ok s.providers → ok s.providers s) :
    Ends listProviders ok err s := by
  rw [ends_listProviders]
  split
  · rename_i ps hps
    exact hread (hps.trans (congrArg Except.ok (Service.providers_of_read hps).symm))
  · exact hunread _ ‹_›

theorem ends_findIn {ok : Rule → Service → Prop} (rules : List Rule) (id : String) :
    Ends (findIn rules id) ok err s = match rules.find? (·.id == id) with
      | some r => ok r s
      | none => err (.error (.notFound id)) s := by
  unfold findIn
  cases rules.find? (·.id == id) <;> rfl

theorem ends_now {ok : Time.Instant → Service → Prop}
    (h : ∀ t, ok t { s with clock := s.clock + 1 }) : Ends now ok err s := h _

theorem ends_freshId {ok : String → Service → Prop}
    (h : ∀ id, ok id { s with minted := s.minted + 1 }) : Ends freshId ok err s := h _

end Service

/-! ## Store calls -/

section Store

variable {e : StoreError → Service → Prop} {s : Service}

theorem ends_checkFaults {ok : Unit → Service → Prop} (c : Bool) :
    Ends (checkFaults c) ok e s = if s.failsNext c then e injected s.tick else ok () s.tick := by
  unfold checkFaults
  rw [ends_bind, ends_get, ends_bind, ends_set]
  rw [ends_ite]
  rfl

theorem ends_createRule {ok : Rule → Service → Prop} (r : Rule) :
    Ends (createRule r) ok e s = if s.failsNext true then e injected s.tick else
      match s.store.insertRule r with
      | .ok st => ok r { s.tick with store := st }
      | .error x => e x s.tick := by
  unfold createRule
  rw [ends_bind, ends_checkFaults]
  split
  · rfl
  · rw [ends_bind, ends_get, Service.tick_store]
    cases s.store.insertRule r <;> rfl

theorem ends_deleteRule {ok : Unit → Service → Prop} (id : String) :
    Ends (deleteRule id) ok e s = if s.failsNext false then e injected s.tick else
      if (s.store.deleteRule id).2 = 0 then e (.missingRecord id) s.tick
      else ok () { s.tick with store := (s.store.deleteRule id).1 } := by
  unfold deleteRule
  rw [ends_bind, ends_checkFaults]
  split
  · rfl
  · rw [ends_bind, ends_get, Service.tick_store]
    rcases s.store.deleteRule id with ⟨st, n⟩
    by_cases hn : n = 0
    · simp only [hn, if_true]
      rfl
    · simp only [hn, if_false]
      rfl

theorem ends_updateRule {ok : Rule → Service → Prop} (id : String) (r : Rule) :
    Ends (updateRule id r) ok e s = if s.failsNext false then e injected s.tick else
      if (s.store.updateRule id r).2 = 0 then
        e (.missingRecord id) { s.tick with store := (s.store.updateRule id r).1 }
      else match (s.store.updateRule id r).1.ruleById id with
        | .ok (some r') => ok r' { s.tick with store := (s.store.updateRule id r).1 }
        | .ok none => e (.missingRecord id) { s.tick with store := (s.store.updateRule id r).1 }
        | .error x => e x { s.tick with store := (s.store.updateRule id r).1 } := by
  unfold updateRule
  rw [ends_bind, ends_checkFaults]
  split
  · rfl
  · rw [ends_bind, ends_get, Service.tick_store]
    rcases s.store.updateRule id r with ⟨st, n⟩
    rw [ends_bind, ends_set]
    by_cases hn : n = 0
    · simp only [hn, if_true]
      rfl
    · simp only [hn, if_false]
      rcases st.ruleById id with x | _ | r' <;> rfl

theorem ends_reorderRules {ok : Unit → Service → Prop} (plan : List Assignment) :
    Ends (reorderRules plan) ok e s = if s.failsNext false then e injected s.tick else
      match writeAssignments s.store plan with
      | .ok st => ok () { s.tick with store := st }
      | .error x => e x s.tick := by
  unfold reorderRules
  rw [ends_bind, ends_checkFaults]
  split
  · rfl
  · rw [ends_bind, ends_get, Service.tick_store]
    cases writeAssignments s.store plan <;> rfl

theorem ends_listRules {ok : List Rule → Service → Prop} :
    Ends listRules ok e s = if s.failsNext false then e injected s.tick else
      match s.store.allRules with
      | .ok rs => ok rs s.tick
      | .error x => e x s.tick := by
  unfold listRules
  rw [ends_bind, ends_checkFaults]
  split
  · rfl
  · rw [ends_bind, ends_get, Service.tick_store]
    cases s.store.allRules <;> rfl

end Store

/-! ## The rule table -/

section Table

variable {st : Store} {id : String} {r : Rule} {w : Row}

theorem changeRows_eq_self {f : Row → Row} (h : st.rules.find? (·.id == id) = none) :
    (st.changeRows id f).1 = st := by
  have hnone := List.find?_eq_none.1 h
  have : st.rules.map (fun w => if w.id = id then f w else w) = st.rules :=
    (List.map_congr_left fun w hw => if_neg (by simpa using hnone w hw)).trans (List.map_id _)
  simp only [Store.changeRows, this]

theorem changeRows_count_eq_zero {f : Row → Row} :
    (st.changeRows id f).2 = 0 ↔ st.rules.find? (·.id == id) = none := by
  simp [Store.changeRows, List.find?_eq_none, List.filter_eq_nil_iff]

theorem find?_changeRows {f : Row → Row} (hf : ∀ w, (f w).id = w.id) :
    (st.changeRows id f).1.rules.find? (·.id == id) = (st.rules.find? (·.id == id)).map f := by
  have hp : ((·.id == id) ∘ fun w : Row => if w.id = id then f w else w) = (·.id == id) := by
    funext w
    by_cases h : w.id = id <;> simp [h, hf]
  simp only [Store.changeRows, List.find?_map, hp]
  cases h : st.rules.find? (·.id == id) with
  | none => rfl
  | some w =>
    have : w.id = id := by simpa using List.find?_some h
    simp [this]

theorem ruleById_updateRule (h : st.rules.find? (·.id == id) = some w) :
    (st.updateRule id r).1.ruleById id =
      .ok (some { r with id := w.id, createdAt := w.createdAt }) := by
  unfold Store.ruleById Store.updateRule
  rw [find?_changeRows, h, Option.map_some]
  · show some <$> (Row.ofRule { r with id := w.id, createdAt := w.createdAt }).toRule = _
    rw [Row.toRule_ofRule]
    rfl
  · intro
    rfl

end Table

/-! ## Writes through the cache -/

section Persist

variable {err : Failure → Service → Prop} {s : Service}

theorem ends_persistCreate {ok : Rule → Service → Prop} (r : Rule)
    (hok : ∀ st, s.store.insertRule r = .ok st →
      ok r { s.tick with store := st, cache := s.cache ++ [r] })
    (herr : ∀ x, err (.error (.storage x)) s.tick) : Ends (persistCreate r) ok err s := by
  unfold persistCreate
  rw [ends_bind, ends_lift, ends_createRule]
  split
  · exact herr _
  · split
    · rename_i st h
      rw [ends_bind, ends_snapshot, ends_bind, ends_setCache, ends_pure]
      exact hok st h
    · exact herr _

theorem ends_persistDelete {ok : Unit → Service → Prop} (id : String)
    (hok : (s.store.deleteRule id).2 ≠ 0 → ok ()
      { s.tick with store := (s.store.deleteRule id).1, cache := s.cache.filter (·.id != id) })
    (herr : ∀ x, err (.error (.storage x)) s.tick) : Ends (persistDelete id) ok err s := by
  unfold persistDelete
  rw [ends_bind, ends_lift, ends_deleteRule]
  split
  · exact herr _
  · split
    · exact herr _
    · rename_i h
      rw [ends_bind, ends_snapshot, ends_setCache]
      exact hok h

theorem ends_persistAssignments {ok : Unit → Service → Prop} (plan : List Assignment)
    (hok : ∀ st, writeAssignments s.store plan = .ok st →
      ok () { s.tick with store := st, cache := applyAssignments s.cache plan })
    (herr : ∀ x, err (.error (.storage x)) s.tick) : Ends (persistAssignments plan) ok err s := by
  unfold persistAssignments
  rw [ends_bind, ends_lift, ends_reorderRules]
  split
  · exact herr _
  · split
    · rename_i st h
      rw [ends_bind, ends_snapshot, ends_setCache]
      exact hok st h
    · exact herr _

theorem ends_persistUpdate {ok : Rule → Service → Prop} (r : Rule)
    (hok : ∀ w, s.store.rules.find? (·.id == r.id) = some w →
      ok { r with createdAt := w.createdAt }
        { s.tick with
          store := (s.store.updateRule r.id r).1
          cache := replaceFirst { r with createdAt := w.createdAt } s.cache })
    (herr : ∀ x, err (.error (.storage x)) s.tick) : Ends (persistUpdate r) ok err s := by
  unfold persistUpdate
  rw [ends_bind, ends_lift, ends_updateRule]
  split
  · exact herr _
  · cases hw : s.store.rules.find? (·.id == r.id) with
    | none =>
      rw [if_pos (show (s.store.updateRule r.id r).2 = 0 from changeRows_count_eq_zero.2 hw)]
      simp only [Store.updateRule, changeRows_eq_self hw]
      exact herr _
    | some w =>
      have hid : w.id = r.id := by simpa using List.find?_some hw
      have hn : (s.store.updateRule r.id r).2 ≠ 0 := fun h => by
        rw [changeRows_count_eq_zero.1 h] at hw
        cases hw
      rw [if_neg hn, ruleById_updateRule hw]
      dsimp only
      rw [ends_bind, ends_snapshot, ends_bind, ends_setCache, ends_pure, hid]
      exact hok w hw

end Persist

end ProviderRouting
