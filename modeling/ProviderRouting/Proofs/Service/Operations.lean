import ProviderRouting.Proofs.Plan.Shift
import ProviderRouting.Proofs.Service.Sound
import ProviderRouting.Proofs.Service.Steps
import ProviderRouting.Service.Providers


/-!
# Every operation keeps the rule invariant

From a sound service, each operation of the rule editor ends in a sound service whether it
returns or fails, and leaves every locked default in its place (`Safe`). The failure paths are
those of the operations: a store call that fails leaves the store and the cache as the writes
before it left them, and a creation before an anchor whose insert fails puts the shifted
priorities back.

Removing a provider's rules keeps the invariant too; it keeps the locked defaults in place as
long as another provider is listed to take them over.
-/

namespace ProviderRouting

/-! ## Undoing a plan -/

theorem ids_originalPriorities (snap : List Rule) : ∀ plan : List Assignment,
    ((originalPriorities snap plan).map (·.id)).Sublist (plan.map (·.id))
  | [] => List.Sublist.slnil
  | a :: plan => by
    have ih := ids_originalPriorities snap plan
    simp only [originalPriorities, List.filterMap_cons] at ih ⊢
    cases h : snap.find? (·.id == a.id) with
    | none => simpa using ih.cons a.id
    | some r =>
      have e : r.id = a.id := by simpa using List.find?_some h
      simpa [e] using ih.cons_cons a.id

theorem find?_originalPriorities {snap : List Rule} {plan : List Assignment} (hk : Keyed snap)
    {r : Rule} (hr : r ∈ snap) (hin : r.id ∈ plan.map (·.id)) :
    (originalPriorities snap plan).find? (·.id == r.id) = some ⟨r.id, r.priority, r.updatedAt⟩ := by
  have hentry : ∀ c ∈ originalPriorities snap plan, c.id = r.id →
      c = ⟨r.id, r.priority, r.updatedAt⟩ := by
    intro c hc hcid
    obtain ⟨a, -, ha⟩ := List.mem_filterMap.1 hc
    obtain ⟨r', hr', rfl⟩ := Option.map_eq_some_iff.1 ha
    have hr'm := List.mem_of_find?_eq_some hr'
    rw [hk.eq_of_id hr'm hr hcid]
  cases h : (originalPriorities snap plan).find? (·.id == r.id) with
  | some c =>
    obtain ⟨hc, hcid⟩ := mem_of_find?_id h
    rw [hentry c hc hcid]
  | none =>
    obtain ⟨b, hb, hbid⟩ := List.mem_map.1 hin
    have hfind : snap.find? (·.id == b.id) = some r := hbid ▸ hk.find?_eq hr
    have : (⟨r.id, r.priority, r.updatedAt⟩ : Assignment) ∈ originalPriorities snap plan :=
      List.mem_filterMap.2 ⟨b, hb, by simp [hfind]⟩
    exact absurd (List.find?_eq_none.1 h _ this) (by simp)

theorem reassign_originalPriorities {snap : List Rule} {plan : List Assignment} (hk : Keyed snap)
    {r : Rule} (hr : r ∈ snap) : reassign (originalPriorities snap plan) (reassign plan r) = r := by
  have hsub := ids_originalPriorities snap plan
  cases fr : plan.find? (·.id == r.id) with
  | none =>
    have hout := find?_id_eq_none.1 fr
    rw [reassign_of_not_mem hout, reassign_of_not_mem fun h => hout (hsub.subset h)]
  | some b =>
    have hin : r.id ∈ plan.map (·.id) := List.mem_map.2 ⟨b, (mem_of_find?_id fr).1,
      (mem_of_find?_id fr).2⟩
    have hf : (originalPriorities snap plan).find?
        (·.id == ({ r with priority := b.priority, updatedAt := b.stamp } : Rule).id) =
        some ⟨r.id, r.priority, r.updatedAt⟩ := find?_originalPriorities hk hr hin
    rw [reassign_of_find? fr, reassign_of_find? hf]

theorem applyAssignments_originalPriorities {snap : List Rule} {plan : List Assignment}
    (hk : Keyed snap) (hp : (plan.map (·.id)).Nodup) :
    applyAssignments (applyAssignments snap plan) (originalPriorities snap plan) = snap := by
  rw [applyAssignments_eq_map hk hp, applyAssignments_eq_map (keyed_map_reassign plan hk)
    ((ids_originalPriorities snap plan).nodup hp), List.map_map]
  conv_rhs => rw [← List.map_id snap]
  exact List.map_congr_left fun r hr => reassign_originalPriorities hk hr

/-! ## Creating a rule -/

theorem keepsApart_nil (rules : List Rule) : KeepsApart rules [] :=
  ⟨List.nodup_nil, fun _ h => absurd h List.not_mem_nil, fun _ h => absurd h List.not_mem_nil⟩

theorem placeNew_spec {snap : List Rule} {n : NewRule} {t : Time.Instant} {p : Int}
    {shifted : List Assignment} (hk : Keyed snap) (hs : Separated snap)
    (h : placeNew snap n t = .ok (p, shifted)) :
    KeepsApart snap shifted ∧ (∀ a ∈ shifted, ∀ x ∈ snap, x.id = a.id → x.locked = false) ∧
      ∀ x ∈ applyAssignments snap shifted, x.scope = n.scope → x.priority ≠ p := by
  unfold placeNew at h
  split at h
  · obtain ⟨q, hq, h⟩ := bind_eq_ok h
    obtain ⟨rfl, rfl⟩ := Prod.mk.inj (Except.ok.inj h)
    exact ⟨keepsApart_nil snap, fun _ h => absurd h List.not_mem_nil,
      fun x hx hxs => Int.ne_of_lt (lt_nextPriority hq x hx hxs)⟩
  · exact ⟨planInsertBefore_keepsApart hk h, fun a ha x hx e => (planInsertBefore_moved hk h a ha
      x hx e).2, planInsertBefore_free hk hs h⟩

theorem storeNew_safe {s : Service} {snap : List Rule} {r : Rule} {shifted : List Assignment}
    (h : Sound s) (hsnap : s.cache = snap) (hp : KeepsApart snap shifted)
    (hl : ∀ a ∈ shifted, ∀ x ∈ snap, x.id = a.id → x.locked = false)
    (hfit : Fits (applyAssignments snap shifted) r) :
    Ends (storeNew snap r shifted) (fun _ => Safe s) (fun _ => Safe s) s := by
  subst hsnap
  refine ends_storeNew (fun hnil => ?_) fun _ => ?_
  · subst hnil
    exact persistCreate_safe h hfit
  refine (persistAssignments_sound h hp.nodup (h.separated_of_keepsApart hp)).mono
    (fun _ t ⟨ht, hc⟩ => ?_) fun _ _ ⟨ht, hc⟩ => ⟨ht, hc ▸ Retains.refl _⟩
  have hsafe : Safe s t := ⟨ht, hc ▸ retains_applyAssignments h.keyed hp.nodup hl⟩
  refine (persistCreate_sound ht (hc ▸ hfit)).mono (fun _ u ⟨hu, hcu⟩ => hsafe.trans
    ⟨hu, hcu ▸ retains_of_subset fun _ hx => List.mem_append_left _ hx⟩) fun e u ⟨hu, hcu⟩ => ?_
  -- storing the rule failed: the moves are put back, as far as the store allows
  have hundo := applyAssignments_originalPriorities h.keyed hp.nodup
  refine (persistAssignments_sound hu ((ids_originalPriorities s.cache shifted).nodup hp.nodup)
    (by rw [hcu, hc, hundo]; exact h.separated)).mono
    (fun _ v ⟨hv, hcv⟩ => ⟨hv, by rw [hcv, hcu, hc, hundo]; exact Retains.refl _⟩)
    fun _ v ⟨hv, hcv⟩ => ⟨hv, by rw [hcv, hcu]; exact hsafe.retains⟩

/-! ## Creating the defaults -/

def DefaultPlan.Free (d : DefaultPlan) (rules : List Rule) : Prop :=
  ∀ x ∈ rules, (x.scope = ⟨d.group, .path⟩ → x.priority ≠ d.priority) ∧
    (x.locked = true → x.group = d.group → x.pattern ≠ d.group.catchAll)

theorem DefaultPlan.Free.fits {d : DefaultPlan} {rules : List Rule} (h : d.Free rules)
    (id : String) (now : Time.Instant) : Fits rules (d.toRule id now) :=
  fun x hx _ => ⟨(h x hx).1, fun hxl _ hg => (h x hx).2 hxl hg⟩

theorem planBootstrap_free {rules : List Rule} {providers : List Provider}
    {plan : List DefaultPlan} (h : planBootstrap rules providers = .ok plan) :
    ∀ d ∈ plan, d.Free rules := by
  obtain ⟨hgroups, hnext⟩ := planBootstrap_spec h
  intro d hd x hx
  have hmiss := mem_missingDefaults (hgroups ▸ List.mem_map_of_mem hd : d.group ∈ _)
  refine ⟨fun hs => Int.ne_of_lt (lt_nextPriority (hnext d hd) x hx hs), fun hxl hg hp => ?_⟩
  have : hasDefault rules d.group = true :=
    List.any_eq_true.2 ⟨x, hx, by simp [hg, hxl, hp]⟩
  rw [hmiss] at this
  cases this

/-! ## Removing a provider's rules -/

def Stays (before after : List Rule) : Prop := ∀ y ∈ after, ∃ x ∈ before, KeepsPlace x y

theorem mem_replaceFirst {r y : Rule} : ∀ {rules : List Rule}, y ∈ replaceFirst r rules →
    y = r ∨ y ∈ rules
  | [], hy => absurd hy List.not_mem_nil
  | x :: xs, hy => by
    unfold replaceFirst at hy
    split at hy
    · rcases List.mem_cons.1 hy with rfl | hy
      · exact Or.inl rfl
      · exact Or.inr (List.mem_cons_of_mem _ hy)
    · rcases List.mem_cons.1 hy with rfl | hy
      · exact Or.inr List.mem_cons_self
      · exact (mem_replaceFirst hy).imp_right (List.mem_cons_of_mem _)

/-- What holds while the rules named by a removal go: the invariant, every rule in the place it
had in `snap`, and, when `keep` holds, every locked rule of `snap`. -/
structure Removing (snap : List Rule) (keep : Prop) (t : Service) : Prop where
  sound : Sound t
  stays : Stays snap t.cache
  retains : keep → Retains snap t.cache

theorem Removing.of_cache {snap : List Rule} {keep : Prop} {t u : Service}
    (h : Removing snap keep t) (hu : Sound u) (hc : u.cache = t.cache) : Removing snap keep u :=
  ⟨hu, hc ▸ h.stays, hc ▸ h.retains⟩

theorem removeOne_removing {snap : List Rule} {fallback : Option Provider} {t : Service}
    (hk : Keyed snap) (ht : Removing snap (fallback.isSome = true) t) (report : Report)
    (id : String) :
    Ends (removeOne fallback snap report id) (fun _ => Removing snap (fallback.isSome = true))
      (fun _ => Removing snap (fallback.isSome = true)) t := by
  have hcached : ∀ rule, snap.find? (·.id == id) = some rule →
      ∀ x ∈ t.cache, x.id = rule.id → KeepsPlace rule x := fun rule hr x hx e => by
    obtain ⟨z, hz, hzx⟩ := ht.stays x hx
    rw [hk.eq_of_id hz (List.mem_of_find?_eq_some hr) (hzx.id.symm.trans e)] at hzx
    exact hzx
  refine ends_removeOne fallback snap report id (fun _ => ht) (fun rule p now hr _ _ => ?_)
    fun rule hr hdrop => ?_
  · -- a locked rule is handed over, in its place
    refine Ends.mono (persistUpdate_inPlace (ht.sound.congr rfl rfl) fun x hx e => ?_)
      (fun _ u ⟨hu, hcu⟩ => ?_) fun _ _ ⟨hu, hcu⟩ => ht.of_cache hu.sound hcu
    · exact (hcached rule hr x hx e).symm.trans ⟨rfl, rfl, rfl, rfl, rfl, rfl⟩
    refine ⟨hu.sound, fun y hy => ?_, fun hkeep => (ht.retains hkeep).trans hu.retains⟩
    rcases mem_replaceFirst (hcu ▸ hy) with rfl | hy
    · exact ⟨rule, List.mem_of_find?_eq_some hr, rfl, rfl, rfl, rfl, rfl, rfl⟩
    · exact ht.stays y hy
  · -- deleting the id keeps every other rule, and a locked one whenever the rule is unlocked
    have hrid : rule.id = id := by simpa using List.find?_some hr
    exact (persistDelete_sound ht.sound id).mono
      (fun _ u ⟨hu, hcu⟩ => ⟨hu, fun y hy => ht.stays y (List.mem_filter.1 (hcu ▸ hy)).1,
        fun hkeep => (ht.retains hkeep).trans (hcu ▸ retains_filter fun x hx e =>
          (hcached rule hr x hx (e.trans hrid.symm)).locked.trans (by simpa [hkeep] using hdrop))⟩)
      fun _ _ ⟨hu, hcu⟩ => ht.of_cache hu hcu

theorem applyRemoval_removing {s : Service} (h : Sound s) (rm : Removal) :
    Ends (applyRemoval rm) (fun _ => Removing s.cache (∃ p ∈ s.providers, p.id ≠ rm.provider))
      (fun _ => Removing s.cache (∃ p ∈ s.providers, p.id ≠ rm.provider)) s := by
  have hkeep : (∃ p ∈ s.providers, p.id ≠ rm.provider) ↔
      (s.providers.find? (·.id != rm.provider)).isSome = true := by
    simp [List.find?_isSome]
  have hstart : Removing s.cache ((s.providers.find? (·.id != rm.provider)).isSome = true) s :=
    ⟨h, fun y hy => ⟨y, hy, KeepsPlace.refl y⟩, fun _ => Retains.refl _⟩
  rw [hkeep, ends_applyRemoval]
  split
  · exact ends_foldlM (fun _ _ => Removing s.cache _)
      (fun id _ report _ ht => removeOne_removing h.keyed ht report id) _ hstart
  · exact hstart

/-! ## Loading -/

theorem dropDefaults_nil (rules : List Rule) (s : Service) :
    (dropDefaults [] rules).run s = ((rules, .ok ()), s) := rfl

theorem dropDefaults_keeps (I : List Rule → Service → Prop)
    (htick : ∀ rules s, I rules s → I rules s.tick)
    (hdelete : ∀ rules s id, I rules s → (s.store.deleteRule id).2 ≠ 0 →
      I (rules.filter (·.id != id)) { s.tick with store := (s.store.deleteRule id).1 }) :
    ∀ (ids : List String) (rules : List Rule) (s : Service)
      {rest : List Rule} {res : Except StoreError Unit} {t : Service},
      I rules s → (dropDefaults ids rules).run s = ((rest, res), t) → I rest t
  | [], rules, s, _, _, _, h, hd => by
    cases hd
    exact h
  | id :: ids, rules, s, rest, res, t, h, hd => by
    have hdel := ends_run (deleteRule id) s
    rw [ends_deleteRule] at hdel
    unfold dropDefaults at hd
    rw [StateT.run_bind] at hd
    split_ifs at hdel with hf hn
    · rw [hdel] at hd
      cases hd
      exact htick _ _ h
    · rw [hdel] at hd
      cases hd
      exact htick _ _ h
    · rw [hdel] at hd
      exact dropDefaults_keeps I htick hdelete ids _ _ (hdelete _ _ id h hn) hd

theorem renumberTies_of_separated {rules : List Rule} {s : Service}
    {ok : List Rule × Except Failure Unit → Service → Prop} {err : Failure → Service → Prop}
    (hs : Separated rules) (h : ok (rules, .ok ()) { s with clock := s.clock + 1 }) :
    Ends (renumberTies rules) ok err s := by
  unfold renumberTies
  rw [ends_bind]
  refine ends_now fun t => ?_
  rw [ends_bind, ends_planned, planTieBreak_eq_nil hs]
  exact h

section Ops

variable {s : Service}

theorem delete_safe (h : Sound s) (id : String) :
    Ends (delete id) (fun _ => Safe s) (fun _ => Safe s) s := by
  refine ends_delete id (fun _ => Safe.refl h) (fun _ _ _ _ => Safe.refl h) fun x hx hc => ?_
  have hl : ∀ y ∈ s.cache, y.id = id → y.locked = false := fun y hy e => by
    rw [h.keyed.eq_of_find? hx hy e]
    exact checkDelete_unlocked hc
  exact (persistDelete_sound h id).mono
    (fun _ t ht => ⟨ht.1, ht.2 ▸ retains_filter hl⟩)
    (fun _ t ht => ⟨ht.1, ht.2 ▸ Retains.refl _⟩)

theorem reorder_safe (h : Sound s) (ids : List String) :
    Ends (reorder ids) (fun _ => Safe s) (fun _ => Safe s) s := by
  have h' : Sound { s with clock := s.clock + 1 } := h.congr rfl rfl
  refine ends_reorder ids (fun _ _ _ => Safe.of_same h rfl rfl) (fun _ _ => Safe.of_same h rfl rfl)
    fun _ plan hplan _ => ?_
  have hp := planReorder_keepsApart h.keyed hplan
  exact (persistAssignments_sound h' hp.nodup (h'.separated_of_keepsApart hp)).mono
    (fun _ t ht => ⟨ht.1, ht.2 ▸ retains_applyAssignments h.keyed hp.nodup
      (planReorder_unlocked h.keyed hplan)⟩)
    (fun _ t ht => ⟨ht.1, ht.2 ▸ Retains.refl _⟩)

theorem duplicate_safe (h : Sound s) (id : String) :
    Ends (duplicate id) (fun _ => Safe s) (fun _ => Safe s) s := by
  refine ends_duplicate id (fun _ => Safe.of_same h rfl rfl) (fun _ _ _ _ => Safe.of_same h rfl rfl)
    (fun _ _ _ _ => Safe.of_same h rfl rfl) (fun _ _ _ _ _ => Safe.of_same h rfl rfl) fun x p _ _ _ hc hp => ?_
  refine Ends.after_same h rfl rfl fun h' => persistCreate_safe h' ?_
  refine fits_next hp (by simp [Rule.scope]) rfl fun _ _ _ _ hc' => ?_
  have hsrc : x.locked = true := by simpa [Rule.locked] using hc'
  rw [checkDuplicate_unlocked hc] at hsrc
  cases hsrc

theorem update_safe (h : Sound s) (id : String) (p : Patch) :
    Ends (update id p) (fun _ => Safe s) (fun _ => Safe s) s := by
  refine ends_update id p (fun _ => Safe.of_same h rfl rfl) (fun _ _ _ _ => Safe.of_same h rfl rfl)
    (fun _ _ _ _ => Safe.of_same h rfl rfl) (fun x c _ hx hc hscope => ?_)
    (fun _ _ _ _ _ _ _ => Safe.of_same h rfl rfl) fun x c q _ hx hc hscope hq => ?_
  · have hxm := List.mem_of_find?_eq_some hx
    obtain ⟨rfl, hcand, hlocked⟩ := checkUpdate_spec hc
    refine Ends.after_same h rfl rfl fun h' => persistUpdate_safe h' ?_ ?_
    · -- in its own scope the rule keeps its priority
      intro y hy hne
      have hne' : y.id ≠ x.id := hne
      have hyx : Apart y x := h.separated.apart hy hxm hne'
      exact ⟨fun hys => hyx (hys.trans hscope),
        checkCandidate_defaultsApart hcand rfl rfl rfl y hy (by simpa using hne')⟩
    · intro y hy e hl
      rw [h.keyed.eq_of_id hy hxm e] at hl ⊢
      obtain ⟨hk, hg, hp⟩ := hlocked hl
      exact ⟨rfl, hg, hk, hp, rfl, rfl⟩
  · have hxm := List.mem_of_find?_eq_some hx
    obtain ⟨rfl, hcand, hlocked⟩ := checkUpdate_spec hc
    refine Ends.after_same h rfl rfl fun h' => persistUpdate_safe h' ?_ ?_
    · -- in another scope it goes past the end
      exact fits_next hq rfl rfl fun y hy hne =>
        checkCandidate_defaultsApart hcand rfl rfl rfl y hy (by simpa using hne)
    · -- a locked rule keeps its scope, so it is not this one
      intro y hy e hl
      rw [h.keyed.eq_of_id hy hxm e] at hl
      obtain ⟨hk, hg, -⟩ := hlocked hl
      exact absurd (by simp [Rule.scope, hk, hg]) hscope

theorem setDefault_safe (h : Sound s) (g : Group) (edit : DefaultEdit) :
    Ends (setDefault g edit) (fun _ => Safe s) (fun _ => Safe s) s := by
  refine ends_setDefault g edit (fun _ => Safe.of_same h rfl rfl)
    (fun _ _ _ _ _ _ => Safe.of_same h rfl rfl) (fun _ _ _ _ _ _ => Safe.of_same h rfl rfl) fun x _ hx _ => ?_
  have hxm := List.mem_of_find?_eq_some hx
  exact Ends.after_same h rfl rfl fun h' => persistUpdate_placed h' hxm ⟨rfl, rfl, rfl, rfl, rfl, rfl⟩

theorem create_safe (h : Sound s) (n : NewRule) :
    Ends (create n) (fun _ => Safe s) (fun _ => Safe s) s := by
  refine ends_create n (fun _ _ => Safe.of_same h rfl rfl) (fun _ _ => Safe.of_same h rfl rfl)
    (fun _ _ _ _ => Safe.of_same h rfl rfl) fun _ p shifted _ _ hc hpl => ?_
  obtain ⟨hp, hl, hfree⟩ := placeNew_spec h.keyed h.separated hpl
  refine Ends.after_same h rfl rfl fun h' => storeNew_safe h' rfl hp hl ?_
  intro y hy _
  refine ⟨hfree y hy, ?_⟩
  rw [applyAssignments_eq_map h.keyed hp.nodup] at hy
  obtain ⟨z, hz, rfl⟩ := List.mem_map.1 hy
  intro hzl hrl hg
  have hzl' : z.locked = true := by simpa [Rule.locked] using hzl
  have hg' : z.group = n.group := by simpa using hg
  simpa using checkCreate_no_rival hc hrl z hz hg' hzl'

theorem bootstrap_safe (h : Sound s) :
    Ends bootstrap (fun _ => Safe s) (fun _ => Safe s) s := by
  rw [ends_bootstrap]
  split
  · split
    · rename_i plan hplan
      -- the defaults still to make are of different groups, and free in the rules made so far
      refine (ends_storeDefaults (fun l t => Safe s t ∧ (l.map (·.group)).Nodup ∧ ∀ d ∈ l, d.Free t.cache)
        (fun d l t id now ⟨hst, hnd, hfree⟩ => ?_) plan ⟨Safe.refl h,
          (planBootstrap_spec hplan).1 ▸ nodup_missingDefaults _, planBootstrap_free hplan⟩).mono
        (fun _ _ ht => ht.1) fun _ _ ht => ht
      obtain ⟨hd, hnd⟩ := List.nodup_cons.1 hnd
      refine Ends.mono (persistCreate_sound ?_ ((hfree d List.mem_cons_self).fits id now))
        (fun _ u ⟨hu, hcu⟩ => ?_) fun _ u ⟨hu, hcu⟩ => hst.trans ⟨hu, hcu ▸ Retains.refl _⟩
      · exact hst.sound.congr rfl rfl
      refine ⟨hst.trans ⟨hu, hcu ▸ retains_of_subset fun _ hx => List.mem_append_left _ hx⟩, hnd,
        fun d' hd' x hx => ?_⟩
      rw [hcu] at hx
      rcases List.mem_append.1 hx with hx | hx
      · exact hfree d' (List.mem_cons_of_mem _ hd') x hx
      · -- the default just made is of another group
        rw [List.mem_singleton.1 hx]
        have hne : d.group ≠ d'.group := fun e => hd (List.mem_map.2 ⟨d', hd', e.symm⟩)
        exact ⟨fun hs => absurd (congrArg Scope.group hs) hne, fun _ hg => absurd hg hne⟩
    · exact Safe.refl h
  · exact Safe.refl h

theorem reload_safe (h : Sound s) :
    Ends reload (fun _ => Safe s) (fun _ => Safe s) s := by
  refine ends_reload (fun _ _ => Safe.of_same h rfl rfl) fun rs _ hrs => ?_
  obtain ⟨rs', hrs', hperm, hm⟩ := h.mirrors.allRules
  obtain rfl : rs = rs' := Except.ok.inj (hrs.symm.trans hrs')
  have hsafe : Safe s { s with cache := rs } := h.reread hperm hm rfl rfl
  rw [duplicateDefaults_eq_nil hsafe.sound.oneDefault, dropDefaults_nil]
  refine renumberTies_of_separated hsafe.sound.separated ?_
  dsimp only
  have hread : Safe s { s.tick with clock := s.tick.clock + 1, cache := rs } :=
    h.reread hperm hm rfl rfl
  split
  · exact Ends.after hread (ends_unlessNoProvider (bootstrap_safe hread.sound))
  · exact hread

theorem applyRemoval_sound (h : Sound s) (rm : Removal) :
    Ends (applyRemoval rm) (fun _ => Sound) (fun _ => Sound) s :=
  (applyRemoval_removing h rm).mono (fun _ _ ht => ht.sound) fun _ _ ht => ht.sound

theorem reconcile_sound (h : Sound s) (provider : String) :
    Ends (reconcile provider) (fun _ => Sound) (fun _ => Sound) s := by
  rw [ends_reconcile]
  exact applyRemoval_sound h _

theorem handleEvent_sound (h : Sound s) (e : Event) :
    Ends (handleEvent e) (fun _ => Sound) (fun _ => Sound) s := by
  cases e with
  | added _ =>
    exact ends_unlessNoProvider ((bootstrap_safe h).mono (fun _ _ ht => ht.sound)
      fun _ _ ht => ht.sound)
  | deleted r =>
    rw [handleEvent, ends_discard]
    exact applyRemoval_sound h r

def Event.removes : Event → Bool
  | .added _ => false
  | .deleted _ => true

theorem handleEvent_safe (h : Sound s) (e : Event) (he : e.removes = false) :
    Ends (handleEvent e) (fun _ => Safe s) (fun _ => Safe s) s := by
  cases e with
  | added _ => exact ends_unlessNoProvider (bootstrap_safe h)
  | deleted _ => cases he

theorem watch_safe (h : Sound s) (capacity : Nat) (events : List Event)
    (he : ∀ e ∈ events, e.removes = false) :
    Ends (watch capacity events) (fun _ => Safe s) (fun _ => Safe s) s := by
  have hkept : ∀ e ∈ events.drop (events.length - powerOfTwoAtLeast capacity), e.removes = false :=
    fun e he' => he e (List.mem_of_mem_drop he')
  -- the invariant of the loop: safe so far, and every event still to come adds a provider
  refine (ends_watch capacity events (fun l t => Safe s t ∧ ∀ e ∈ l, e.removes = false)
    ⟨Safe.refl h, hkept⟩ ((reload_safe h).mono (fun _ _ ht => ⟨ht, hkept⟩) fun _ _ ht => ⟨ht, hkept⟩)
    fun e l t ⟨ht, hl⟩ => ?_).mono (fun _ _ ht => ht.1) fun _ _ ht => ht
  have hrest : ∀ e' ∈ l, e'.removes = false := fun e' he' => hl e' (List.mem_cons_of_mem e he')
  exact ((handleEvent_safe ht.sound e (hl e List.mem_cons_self)).after ht).mono
    (fun _ _ hu => ⟨hu, hrest⟩) fun _ _ hu => ⟨hu, hrest⟩

theorem watch_sound (h : Sound s) (capacity : Nat) (events : List Event) :
    Ends (watch capacity events) (fun _ => Sound) (fun _ => Sound) s :=
  ends_watch capacity events (fun _ => Sound) h
    ((reload_safe h).mono (fun _ _ ht => ht.sound) fun _ _ ht => ht.sound)
    fun e _ _ ht => handleEvent_sound ht e

end Ops

end ProviderRouting
