import ProviderRouting.Proofs.Service.Run

/-!
# The service's operations, step by step

Each operation of the service is opened here once, into one hypothesis for each way it can
end: refused before any write, stopped by a priority past the 32-bit range, or carried on to its
store calls. Proofs about every run of an operation say what each way leaves and never unfold
it; only a proof that follows one known path walks the operation itself.
-/

namespace ProviderRouting

open ProviderRouting.Text

/-! ## Editing rules -/

section Edits

variable {err : Failure → Service → Prop} {s : Service}

/-- Storing a new rule: with no rule moved it is one insert. Otherwise the moves are written
first, and where the insert then fails the moved rules' old priorities are written back, the
failure being returned however that ends. -/
theorem ends_storeNew {ok : Rule → Service → Prop} {snap : List Rule} {r : Rule}
    {shifted : List Assignment}
    (hdirect : shifted = [] → Ends (persistCreate r) ok err s)
    (hmoved : shifted ≠ [] → Ends (persistAssignments shifted) (fun _ => Ends (persistCreate r) ok
      fun e => Ends (persistAssignments (originalPriorities snap shifted)) (fun _ => err e)
        fun _ => err e) err s) :
    Ends (storeNew snap r shifted) ok err s := by
  unfold storeNew
  dsimp only
  rw [ends_ite]
  split
  · rename_i hne
    rw [ends_bind]
    refine (hmoved (by simpa using hne)).mono (fun _ t ht => ?_) fun _ _ h => h
    rw [ends_tryCatch]
    refine ht.mono (fun _ _ h => h) fun e u hu => ?_
    -- the insert failed: the moves are put back, and the failure is returned however that ends
    rw [ends_bind, ends_tryCatch]
    exact hu.mono (fun _ _ h => h) fun _ _ h => h
  · rename_i hnil
    rw [ends_tryCatch]
    exact (hdirect (by simpa using hnil)).mono (fun _ _ h => h) fun _ _ h => h

/-- A creation reads the providers, a failed read stopping it, and checks the new rule against
the cache and the providers, a refusal stopping it, then places it at a new clock reading, a
failed placement stopping it too. Otherwise the rule, its pattern trimmed and a blank rewrite
dropped, is stored under a new id and clock reading after the moves that make room for it. -/
theorem ends_create {ok : Rule → Service → Prop} (n : NewRule)
    (hunread : ∀ e, s.readProviders = .error e → err (.error (.storage e)) s)
    (hrefused : ∀ e, Guard.checkCreate ⟨s.cache, s.providers⟩ n = .error e → err (.error e) s)
    (hunplaced : ∀ now e, Guard.checkCreate ⟨s.cache, s.providers⟩ n = .ok () →
      placeNew s.cache n now = .error e → err e { s with clock := s.clock + 1 })
    (hplaced : ∀ now p shifted id t, Guard.checkCreate ⟨s.cache, s.providers⟩ n = .ok () →
      placeNew s.cache n now = .ok (p, shifted) →
      Ends (storeNew s.cache
          { id := id, kind := n.kind, group := n.group, provider := n.provider,
            pattern := trimBlank n.pattern, rewrite := n.rewrite.filter (!isAllBlank ·),
            priority := p, enabled := n.enabled, createdAt := t, updatedAt := t } shifted)
        ok err { s with clock := s.clock + 1 + 1, minted := s.minted + 1 }) :
    Ends (create n) ok err s := by
  unfold create
  rw [ends_bind, ends_snapshot, ends_bind]
  refine ends_listProviders_of hunread fun _ => ?_
  rw [ends_bind, ends_refuse]
  split
  · rename_i hc
    rw [ends_bind]
    refine ends_now fun now => ?_
    rw [ends_bind, ends_planned]
    split
    · rename_i pl hpl
      obtain ⟨p, shifted⟩ := pl
      rw [ends_bind]
      refine ends_freshId fun id => ?_
      rw [ends_bind]
      exact ends_now fun t => hplaced now p shifted id t hc hpl
    · exact hunplaced now _ hc ‹_›
  · exact hrefused _ ‹_›

/-- An update finds the rule, reads the providers and checks the patch, each able to stop it. A
rule that keeps its scope keeps its priority; one moved to another scope goes past that scope's
end, which stops it where that steps out of range. The rule is then written at a new clock
reading. -/
theorem ends_update {ok : Rule → Service → Prop} (id : String) (p : Patch)
    (hmissing : s.cache.find? (·.id == id) = none → err (.error (.notFound id)) s)
    (hunread : ∀ x e, s.cache.find? (·.id == id) = some x → s.readProviders = .error e →
      err (.error (.storage e)) s)
    (hrefused : ∀ x e, s.cache.find? (·.id == id) = some x →
      Guard.checkUpdate ⟨s.cache, s.providers⟩ x p = .error e → err (.error e) s)
    (hkept : ∀ x c t, s.cache.find? (·.id == id) = some x →
      Guard.checkUpdate ⟨s.cache, s.providers⟩ x p = .ok c → c.scope = x.scope →
      Ends (persistUpdate { c with updatedAt := t }) ok err { s with clock := s.clock + 1 })
    (hfull : ∀ x c e, s.cache.find? (·.id == id) = some x →
      Guard.checkUpdate ⟨s.cache, s.providers⟩ x p = .ok c → c.scope ≠ x.scope →
      nextPriority s.cache c.scope = .error e → err e s)
    (hmoved : ∀ x c q t, s.cache.find? (·.id == id) = some x →
      Guard.checkUpdate ⟨s.cache, s.providers⟩ x p = .ok c → c.scope ≠ x.scope →
      nextPriority s.cache c.scope = .ok q →
      Ends (persistUpdate { c with priority := q, updatedAt := t }) ok err
        { s with clock := s.clock + 1 }) :
    Ends (update id p) ok err s := by
  unfold update
  rw [ends_bind, ends_snapshot, ends_bind, ends_findIn]
  split
  · rename_i x hx
    rw [ends_bind]
    refine ends_listProviders_of (hunread x · hx) fun _ => ?_
    rw [ends_bind, ends_refuse]
    split
    · rename_i c hc
      dsimp only
      rw [ends_ite]
      split
      · rename_i hscope
        rw [ends_bind, ends_pure, ends_bind]
        exact ends_now fun t => hkept x c t hx hc hscope
      · rename_i hscope
        rw [ends_bind, ends_planned]
        split
        · rename_i q hq
          rw [ends_bind, ends_pure, ends_bind]
          exact ends_now fun t => hmoved x c q t hx hc hscope hq
        · exact hfull x c _ hx hc hscope ‹_›
    · exact hrefused x _ hx ‹_›
  · exact hmissing ‹_›

theorem ends_delete {ok : Unit → Service → Prop} (id : String)
    (hmissing : s.cache.find? (·.id == id) = none → err (.error (.notFound id)) s)
    (hrefused : ∀ x e, s.cache.find? (·.id == id) = some x → Guard.checkDelete x = .error e →
      err (.error e) s)
    (hdeleted : ∀ x, s.cache.find? (·.id == id) = some x → Guard.checkDelete x = .ok () →
      Ends (persistDelete id) ok err s) :
    Ends (delete id) ok err s := by
  unfold delete
  rw [ends_bind, ends_snapshot, ends_bind, ends_findIn]
  split
  · rename_i x hx
    rw [ends_bind, ends_refuse]
    split
    · exact hdeleted x hx ‹_›
    · exact hrefused x _ hx ‹_›
  · exact hmissing ‹_›

/-- A copy finds its source, reads the providers and checks the source, each able to stop it,
and goes past the end of the source's scope, which stops it where that steps out of range. It is
then stored enabled, under a new id and clock reading. -/
theorem ends_duplicate {ok : Rule → Service → Prop} (id : String)
    (hmissing : s.cache.find? (·.id == id) = none → err (.error (.notFound id)) s)
    (hunread : ∀ x e, s.cache.find? (·.id == id) = some x → s.readProviders = .error e →
      err (.error (.storage e)) s)
    (hrefused : ∀ x e, s.cache.find? (·.id == id) = some x →
      Guard.checkDuplicate ⟨s.cache, s.providers⟩ x = .error e → err (.error e) s)
    (hfull : ∀ x e, s.cache.find? (·.id == id) = some x →
      Guard.checkDuplicate ⟨s.cache, s.providers⟩ x = .ok () →
      nextPriority s.cache x.scope = .error e → err e s)
    (hcopied : ∀ x q id' t, s.cache.find? (·.id == id) = some x →
      Guard.checkDuplicate ⟨s.cache, s.providers⟩ x = .ok () →
      nextPriority s.cache x.scope = .ok q →
      Ends (persistCreate
          { x with id := id', priority := q, enabled := true, createdAt := t, updatedAt := t })
        ok err { s with minted := s.minted + 1, clock := s.clock + 1 }) :
    Ends (duplicate id) ok err s := by
  unfold duplicate
  rw [ends_bind, ends_snapshot, ends_bind, ends_findIn]
  split
  · rename_i x hx
    rw [ends_bind]
    refine ends_listProviders_of (hunread x · hx) fun _ => ?_
    rw [ends_bind, ends_refuse]
    split
    · rename_i hc
      rw [ends_bind, ends_planned]
      split
      · rename_i q hq
        rw [ends_bind]
        refine ends_freshId fun id' => ?_
        rw [ends_bind]
        exact ends_now fun t => hcopied x q id' t hx hc hq
      · exact hfull x _ hx hc ‹_›
    · exact hrefused x _ hx ‹_›
  · exact hmissing ‹_›

theorem ends_reorder {ok : Unit → Service → Prop} (ids : List String)
    (hrefused : ∀ now e, planReorder s.cache ids now = .error e →
      err (.error e) { s with clock := s.clock + 1 })
    (hidle : ∀ now, planReorder s.cache ids now = .ok [] → ok () { s with clock := s.clock + 1 })
    (hwritten : ∀ now plan, planReorder s.cache ids now = .ok plan → plan ≠ [] →
      Ends (persistAssignments plan) ok err { s with clock := s.clock + 1 }) :
    Ends (reorder ids) ok err s := by
  unfold reorder
  rw [ends_bind, ends_snapshot, ends_bind]
  refine ends_now fun now => ?_
  rw [ends_bind, ends_refuse]
  split
  · rename_i plan hplan
    rw [ends_ite]
    split
    · rename_i hne
      exact hwritten now plan hplan (by simpa using hne)
    · rename_i hnil
      obtain rfl : plan = [] := by simpa using hnil
      exact hidle now hplan
  · exact hrefused now _ ‹_›

/-- A change of a group's default finds the default, a missing one stopping it. Where the edit
names a provider it reads the providers and checks that one, a failed read or a refusal stopping
it too. The default is then written with the provider and the enabled flag the edit gives, at a
new clock reading. -/
theorem ends_setDefault {ok : Rule → Service → Prop} (g : Group) (edit : DefaultEdit)
    (hmissing : s.cache.find? (isDefaultOf g) = none → err (.error (.notFound g.catchAll)) s)
    (hunread : ∀ x p e, s.cache.find? (isDefaultOf g) = some x → edit.provider = some p →
      s.readProviders = .error e → err (.error (.storage e)) s)
    (hrefused : ∀ x p e, s.cache.find? (isDefaultOf g) = some x → edit.provider = some p →
      Guard.checkProvider ⟨s.cache, s.providers⟩ p = .error e → err (.error e) s)
    (hwritten : ∀ x t, s.cache.find? (isDefaultOf g) = some x →
      (∀ p, edit.provider = some p → Guard.checkProvider ⟨s.cache, s.providers⟩ p = .ok ()) →
      Ends (persistUpdate
          { x with
            provider := edit.provider.getD x.provider
            enabled := edit.enabled.getD x.enabled
            updatedAt := t })
        ok err { s with clock := s.clock + 1 }) :
    Ends (setDefault g edit) ok err s := by
  unfold setDefault
  rw [ends_bind, ends_snapshot]
  dsimp only
  split
  · rename_i x hx
    split
    · rename_i p hp
      rw [ends_bind]
      refine ends_listProviders_of (hunread x p · hx hp) fun _ => ?_
      rw [ends_bind, ends_refuse]
      split
      · rename_i hc
        rw [ends_bind, ends_pure, ends_bind]
        refine ends_now fun t => ?_
        have h := hwritten x t hx fun p' hp' => by
          rw [hp] at hp'
          cases hp'
          exact hc
        rw [hp] at h
        exact h
      · exact hrefused x p _ hx hp ‹_›
    · rename_i hp
      rw [ends_bind, ends_pure, ends_bind]
      refine ends_now fun t => ?_
      have h := hwritten x t hx fun p' hp' => by
        rw [hp] at hp'
        cases hp'
      rw [hp] at h
      exact h
  · rename_i hnone
    exact hmissing (Option.eq_none_iff_forall_ne_some.2 fun x hx => hnone x hx)

end Edits

/-! ## Loading -/

section Load

variable {err : Failure → Service → Prop} {s : Service}

/-- A renumbering plans the tie-break at a new clock reading. A plan that fails stops it, and an
empty plan keeps the rules; otherwise its one store call writes the plan, or fails and leaves
the rules as they were, the failure returned beside them. -/
theorem ends_renumberTies {rules : List Rule}
    {ok : List Rule × Except Failure Unit → Service → Prop}
    (hkept : ∀ now, planTieBreak rules now = .ok [] →
      ok (rules, .ok ()) { s with clock := s.clock + 1 })
    (hwritten : ∀ now plan st, planTieBreak rules now = .ok plan → plan ≠ [] →
      writeAssignments s.store plan = .ok st →
      ok (applyAssignments rules plan, .ok ()) { { s with clock := s.clock + 1 }.tick with store := st })
    (hfailed : ∀ now plan x, planTieBreak rules now = .ok plan → plan ≠ [] →
      ok (rules, .error (.error (.storage x))) { s with clock := s.clock + 1 }.tick)
    (herr : ∀ now e, planTieBreak rules now = .error e → err e { s with clock := s.clock + 1 }) :
    Ends (renumberTies rules) ok err s := by
  unfold renumberTies
  rw [ends_bind]
  refine ends_now fun now => ?_
  rw [ends_bind, ends_planned]
  split
  · rename_i plan hplan
    rw [ends_ite]
    split
    · rename_i hnil
      exact hkept now (List.isEmpty_iff.1 hnil ▸ hplan)
    · rename_i hnil
      have hne : plan ≠ [] := fun h => hnil (List.isEmpty_iff.2 h)
      rw [ends_bind, ends_monadLift]
      have hrun := ends_run (reorderRules plan) { s with clock := s.clock + 1 }
      rw [ends_reorderRules] at hrun
      split at hrun
      · rw [hrun]
        exact hfailed now plan _ hplan hne
      · split at hrun
        · rename_i st hw
          rw [hrun]
          exact hwritten now plan st hplan hne hw
        · rw [hrun]
          exact hfailed now plan _ hplan hne
  · exact herr now _ ‹_›

/-- A bootstrap reads the providers and plans from the cache and the providers; a failed read or
a plan that fails stops it before any store call, and otherwise the planned defaults are stored
one by one. -/
theorem ends_bootstrap {ok : List Rule → Service → Prop} :
    Ends bootstrap ok err s = match s.readProviders with
      | .ok _ => match planBootstrap s.cache s.providers with
        | .ok plan => Ends (plan.mapM fun p => do
            let id ← freshId
            persistCreate (p.toRule id (← now))) ok err s
        | .error e => err e s
      | .error e => err (.error (.storage e)) s := by
  unfold bootstrap
  rw [ends_bind, ends_snapshot, ends_bind, ends_listProviders]
  cases s.readProviders with
  | ok _ =>
    dsimp only
    rw [ends_bind, ends_planned]
    cases planBootstrap s.cache s.providers <;> rfl
  | error e => rfl

theorem ends_storeDefaults (I : List DefaultPlan → Service → Prop)
    (hstep : ∀ d l t id now, I (d :: l) t →
      Ends (persistCreate (d.toRule id now)) (fun _ => I l) err
        { t with minted := t.minted + 1, clock := t.clock + 1 })
    (plan : List DefaultPlan) {t : Service} (h : I plan t) :
    Ends (plan.mapM fun p => do
      let id ← freshId
      persistCreate (p.toRule id (← now))) (fun _ => I []) err t := by
  refine ends_mapM I (fun d l t ht => ?_) plan h
  rw [ends_bind]
  refine ends_freshId fun id => ?_
  rw [ends_bind]
  exact ends_now fun now => hstep d l t id now ht

/-- A load reads the rules, and a failed read stops it. It then deletes the duplicate defaults
one by one; where a delete fails it caches the rules left and fails. Otherwise it renumbers the
ties, caches the rules and returns a failed renumbering; and then, with auto-bootstrap on, it
bootstraps, a missing provider counting as nothing to do. -/
theorem ends_reload {ok : Unit → Service → Prop}
    (hread : ∀ x, s.failsNext false = true ∨ s.store.allRules = .error x →
      err (.error (.storage x)) s.tick)
    (hloaded : ∀ rs, s.failsNext false = false → s.store.allRules = .ok rs →
      match (dropDefaults (duplicateDefaults rs) rs).run s.tick with
      | ((rest, .error e), t) => err (.error (.storage e)) { t with cache := rest }
      | ((rest, .ok _), t) => Ends (renumberTies rest) (fun out t' =>
          match out.2 with
          | .error e => err e { t' with cache := out.1 }
          | .ok _ => if t'.autoBootstrap then
              Ends (unlessNoProvider bootstrap) ok err { t' with cache := out.1 }
            else ok () { t' with cache := out.1 }) err t) :
    Ends reload ok err s := by
  unfold reload
  rw [ends_bind, ends_lift, ends_listRules]
  split
  · exact hread _ (.inl ‹_›)
  · split
    · rename_i hfails _ rs hrs
      have h := hloaded rs (by simpa using hfails) hrs
      dsimp only
      rw [ends_bind, ends_monadLift]
      revert h
      rcases (dropDefaults (duplicateDefaults rs) rs).run s.tick with ⟨⟨rest, res⟩, t⟩
      intro h
      cases res with
      | error e =>
        rw [ends_bind, ends_pure, ends_bind, ends_setCache, ends_bind, ends_planned]
        exact h
      | ok u =>
        rw [ends_bind]
        refine h.mono (fun out t' hout => ?_) fun _ _ h => h
        rw [ends_bind, ends_setCache, ends_bind, ends_planned]
        revert hout
        cases out.2 with
        | error e => exact id
        | ok u =>
          intro hout
          rw [ends_bind, ends_get, ends_ite]
          exact hout
    · exact hread _ (.inr ‹_›)

end Load

/-! ## Runs that drop their result or their error -/

theorem ends_discard {α : Type} {m : ServiceM α} {s : Service} {ok : PUnit → Service → Prop}
    {err : Failure → Service → Prop} : Ends (discard m) ok err s = Ends m (fun _ => ok ⟨⟩) err s := by
  show Ends (Functor.mapConst ⟨⟩ m) ok err s = _
  rw [LawfulFunctor.map_const, Function.comp_apply, ends_map]

theorem ends_unlessNoProvider_eq {α : Type} {m : ServiceM α} {s : Service}
    {ok : Unit → Service → Prop} {err : Failure → Service → Prop} :
    Ends (unlessNoProvider m) ok err s = Ends m (fun _ => ok ())
      (fun e t => if e = .error .noProviderAvailable then ok () t else err e t) s := by
  unfold unlessNoProvider
  rw [ends_tryCatch, ends_discard]
  congr
  funext e t
  split
  · rw [if_pos rfl]
    rfl
  · rename_i hne
    rw [if_neg hne]
    rfl

theorem ends_unlessNoProvider {α : Type} {m : ServiceM α} {P : Service → Prop} {s : Service}
    (h : Ends m (fun _ => P) (fun _ => P) s) :
    Ends (unlessNoProvider m) (fun _ => P) (fun _ => P) s := by
  rw [ends_unlessNoProvider_eq]
  exact h.mono (fun _ _ ht => ht) fun _ _ ht => by split <;> exact ht

theorem ends_quietly {α : Type} {m : ServiceM α} {P : Service → Prop} {s : Service}
    {err : Failure → Service → Prop} (h : Ends m (fun _ => P) (fun _ => P) s) :
    Ends (quietly m) (fun _ => P) err s := by
  unfold quietly
  rw [ends_tryCatch, ends_discard]
  exact h.mono (fun _ _ ht => ht) fun _ _ ht => ht

/-! ## Following the registry -/

section Registry

variable {err : Failure → Service → Prop} {s : Service}

theorem ends_removeOne {ok : Report → Service → Prop} (fallback : Option Provider)
    (snap : List Rule) (report : Report) (id : String)
    (hskipped : snap.find? (·.id == id) = none → ok report s)
    (hhanded : ∀ rule p t, snap.find? (·.id == id) = some rule → fallback = some p →
      rule.locked = true →
      Ends (persistUpdate { rule with provider := p.id, updatedAt := t })
        (fun r => ok { report with reassigned := report.reassigned ++ [r.id] }) err
        { s with clock := s.clock + 1 })
    (hdropped : ∀ rule, snap.find? (·.id == id) = some rule →
      (rule.locked && fallback.isSome) = false →
      Ends (persistDelete id) (fun _ => ok { report with dropped := report.dropped ++ [id] }) err
        s) :
    Ends (removeOne fallback snap report id) ok err s := by
  unfold removeOne
  split
  · exact hskipped ‹_›
  · rename_i rule hr
    split
    · rename_i p
      rw [ends_ite]
      split
      · rename_i hl
        rw [ends_bind]
        refine ends_now fun t => ?_
        rw [ends_bind]
        exact hhanded rule p t hr rfl hl
      · rename_i hl
        rw [ends_bind]
        exact hdropped rule hr (by simpa using hl)
    · rw [ends_bind]
      exact hdropped rule hr (by simp)

/-- A removal reads the providers, a failed read stopping it. It then takes each named rule
once, in the order first named, through `removeOne` with the first other listed provider as the
fallback, and reports the rules left pointing at the removed provider or at no provider listed
when it started. -/
theorem ends_applyRemoval {ok : Report → Service → Prop} (rm : Removal) :
    Ends (applyRemoval rm) ok err s = match s.readProviders with
      | .ok _ =>
        Ends ((rm.rulesToDrop.foldl (fun acc id => if id ∈ acc then acc else acc ++ [id]) []).foldlM
            (removeOne (s.providers.find? (·.id != rm.provider)) s.cache) {})
          (fun report t => ok { report with
            dangling := (t.cache.filter fun r =>
              r.provider == rm.provider || !s.providers.any (·.id == r.provider)).map (·.id) } t)
          err s
      | .error e => err (.error (.storage e)) s := by
  unfold applyRemoval
  rw [ends_bind, ends_snapshot, ends_bind, ends_listProviders]
  cases s.readProviders with
  | ok _ =>
    dsimp only
    rw [ends_bind]
    rfl
  | error e => rfl

theorem ends_reconcile {ok : Report → Service → Prop} (provider : String) :
    Ends (reconcile provider) ok err s = Ends (applyRemoval (match s.policy with
      | .cascade => ⟨provider, (s.cache.filter (·.provider == provider)).map (·.id)⟩
      | .flag => ⟨provider, []⟩)) ok err s := by
  unfold reconcile planRemoval
  rw [ends_bind, ends_get, ends_bind]
  cases s.policy <;> rfl

/-- A listener that fell behind the channel reloads, and then handles the events the channel
kept one by one, each step's error dropped. An invariant of the events still to handle that
holds at the start, that the reload keeps, and that handling one event passes on to the rest,
holds at the end. -/
theorem ends_watch (capacity : Nat) (events : List Event) (I : List Event → Service → Prop)
    (hstart : I (events.drop (events.length - powerOfTwoAtLeast capacity)) s)
    (hreload : Ends reload (fun _ => I (events.drop (events.length - powerOfTwoAtLeast capacity)))
      (fun _ => I (events.drop (events.length - powerOfTwoAtLeast capacity))) s)
    (hstep : ∀ e l t, I (e :: l) t → Ends (handleEvent e) (fun _ => I l) (fun _ => I l) t) :
    Ends (watch capacity events) (fun _ => I []) err s := by
  unfold watch
  dsimp only
  rw [ends_ite]
  have hevents : ∀ t, I (events.drop (events.length - powerOfTwoAtLeast capacity)) t →
      Ends ((events.drop (events.length - powerOfTwoAtLeast capacity)).forM
        fun e => quietly (handleEvent e)) (fun _ => I []) err t :=
    fun _ ht => ends_forM I (fun e l t ht => ends_quietly (hstep e l t ht)) _ ht
  split
  · rw [ends_bind]
    exact (ends_quietly hreload).mono (fun _ t ht => hevents t ht) fun _ _ ht => ht
  · exact hevents s hstart

end Registry

end ProviderRouting
