import ProviderRouting.Proofs.Service.Oldest
import ProviderRouting.Proofs.Service.Rollback
import Mathlib.Data.List.Forall2

/-!
# What a load does

A load reads the stored rules back, deletes the locked rules that `loadKeeps` does not keep,
renumbers the ties of what is left by the tie-break plan, caches the result and, when the service
bootstraps, makes the missing defaults. `reload_spec` says what the cache then holds, step by
step, and `load_tidies_store` collects it with the invariant. A second load right after deletes
and renumbers nothing and makes nothing: it leaves the store as it is and caches the same rules,
but in the order the store reads them, so the defaults the first load appended may change places.
-/

namespace ProviderRouting

/-! ## What a load leaves alone -/

/-- `t` lists providers from where `s` does, reads them as `s` does, and bootstraps as `s`
does. -/
structure Setup (s t : Service) : Prop where
  registry : t.registry = s.registry
  providers : t.store.providers = s.store.providers
  autoBootstrap : t.autoBootstrap = s.autoBootstrap
  registryFault : t.faults.registry = s.faults.registry

theorem Setup.refl (s : Service) : Setup s s := ⟨rfl, rfl, rfl, rfl⟩

theorem Setup.trans {s t u : Service} (h₁ : Setup s t) (h₂ : Setup t u) : Setup s u :=
  ⟨h₂.registry.trans h₁.registry, h₂.providers.trans h₁.providers,
    h₂.autoBootstrap.trans h₁.autoBootstrap, h₂.registryFault.trans h₁.registryFault⟩

theorem Setup.readProviders_eq {s t : Service} (h : Setup s t) :
    t.readProviders = s.readProviders := by
  unfold Service.readProviders Store.listProviders
  rw [h.registry, h.providers, h.registryFault]

theorem Setup.providers_eq {s t : Service} (h : Setup s t) : t.providers = s.providers := by
  unfold Service.providers
  rw [h.readProviders_eq]

theorem Store.insertRule_providers {st st' : Store} {r : Rule} (h : st.insertRule r = .ok st') :
    st'.providers = st.providers := by
  unfold Store.insertRule at h
  split at h
  · cases h
  · cases h
    rfl

theorem dropDefaults_setup (ids : List String) (rules : List Rule) (s : Service)
    {rest : List Rule} {res : Except StoreError Unit} {t : Service}
    (h : (dropDefaults ids rules).run s = ((rest, res), t)) : Setup s t :=
  -- a delete writes rule rows only, and using up a store outcome writes nothing
  dropDefaults_keeps (fun _ t => Setup s t)
    (fun _ _ h => ⟨h.registry, h.providers, h.autoBootstrap, h.registryFault⟩)
    (fun _ _ _ h _ => ⟨h.registry, h.providers, h.autoBootstrap, h.registryFault⟩) ids rules s
    (Setup.refl s) h

theorem writeAssignments_providers {st st' : Store} {plan : List Assignment}
    (h : writeAssignments st plan = .ok st') : st'.providers = st.providers := by
  obtain ⟨-, rfl⟩ := writeAssignments_eq_ok_iff.1 h
  rfl

/-! ## The steps of a load -/

theorem renumberTies_plan {rules : List Rule} {s : Service} :
    Ends (renumberTies rules)
      (fun out t => out.2 = .ok () → Setup s t ∧
        ∃ now plan, planTieBreak rules now = .ok plan ∧ out.1 = applyAssignments rules plan)
      (fun _ _ => True) s := by
  refine ends_renumberTies (fun now hplan _ => ?_) (fun now plan _ hplan _ hw _ => ?_)
    (fun _ _ _ _ _ h => by cases h) fun _ _ _ => trivial
  · exact ⟨⟨rfl, rfl, rfl, rfl⟩, now, [], hplan, rfl⟩
  · exact ⟨⟨rfl, writeAssignments_providers hw, rfl, rfl⟩, now, plan, hplan, rfl⟩

/-- The defaults a load makes: none when it does not bootstrap; when it does, one rule for each
default the bootstrap plan lists, in its order, or none when there is no provider to send them
to. -/
inductive Bootstrapped (rules : List Rule) (providers : List Provider) : Bool → List Rule → Prop
  | off : Bootstrapped rules providers false []
  | made {plan : List DefaultPlan} {created : List Rule}
      (hp : planBootstrap rules providers = .ok plan)
      (hc : List.Forall₂ (fun d r => ∃ id now, r = d.toRule id now) plan created) :
      Bootstrapped rules providers true created
  | noProvider (hp : planBootstrap rules providers = .error (.error .noProviderAvailable)) :
      Bootstrapped rules providers true []

/-- Bootstrapping reads the providers and appends to the cache one rule for each default
planned, in order; it fails before any write when the plan does, and otherwise only on the read
or a store call. -/
theorem bootstrap_spec {s : Service} :
    Ends bootstrap
      (fun _ t => s.readProviders = .ok s.providers ∧
        (∃ plan created, planBootstrap s.cache s.providers = .ok plan ∧
          List.Forall₂ (fun d r => ∃ id now, r = d.toRule id now) plan created ∧
          t.cache = s.cache ++ created) ∧ Setup s t)
      (fun e t => (s.readProviders = .ok s.providers ∧ planBootstrap s.cache s.providers = .error e ∧
          t = s) ∨ ∃ x, e = .error (.storage x)) s := by
  rw [ends_bootstrap]
  split
  · rename_i ps hps
    have hread : s.readProviders = .ok s.providers := by rw [Service.providers_of_read hps, hps]
    split
    · rename_i plan hplan
      -- the defaults made so far are those planned before the ones left
      refine (ends_storeDefaults (fun l t => ∃ pre made, pre ++ l = plan ∧
          List.Forall₂ (fun d r => ∃ id now, r = d.toRule id now) pre made ∧
          t.cache = s.cache ++ made ∧ Setup s t)
        (fun d l t id now ⟨pre, made, hpre, hmade, hc, hst⟩ => ?_) plan
        ⟨[], [], rfl, .nil, by simp, Setup.refl s⟩).mono
        (fun _ t ⟨pre, made, hpre, hmade, hc, hst⟩ => ⟨hread, ⟨plan, made, hplan,
          by simpa [← hpre] using hmade, hc⟩, hst⟩) fun _ _ h => h
      refine ends_persistCreate _ (fun st hst' => ⟨pre ++ [d], made ++ [d.toRule id now],
        by simp [← hpre], List.rel_append hmade (.cons ⟨id, now, rfl⟩ .nil), by simp [hc],
        ?_⟩)
        fun x => .inr ⟨x, rfl⟩
      exact ⟨hst.registry, (Store.insertRule_providers hst').trans hst.providers,
        hst.autoBootstrap, hst.registryFault⟩
    · exact .inl ⟨hread, ‹_›, rfl⟩
  · exact .inr ⟨_, rfl⟩


theorem unlessNoProvider_bootstrap {s : Service} :
    Ends (unlessNoProvider bootstrap)
      (fun _ t => s.readProviders = .ok s.providers ∧ ∃ created,
        Bootstrapped s.cache s.providers true created ∧ t.cache = s.cache ++ created ∧ Setup s t)
      (fun _ _ => True) s := by
  rw [ends_unlessNoProvider_eq]
  refine bootstrap_spec.mono (fun _ t ⟨hread, ⟨plan, created, hp, hc, hcache⟩, hst⟩ =>
    ⟨hread, created, .made hp hc, hcache, hst⟩) fun e t he => ?_
  split
  · -- only the plan fails for want of a provider, and then nothing was written
    rename_i hno
    subst hno
    rcases he with ⟨hread, hp, rfl⟩ | ⟨x, hx⟩
    · exact ⟨hread, [], .noProvider hp, by simp, Setup.refl _⟩
    · cases hx
  · trivial

/-- A load from a store whose rows have distinct ids, when it returns: it keeps the rules
`loadKeeps` picks of those the store reads back, applies the tie-break plan of some instant to
them, and then makes the defaults `Bootstrapped` describes. -/
theorem reload_spec {s : Service} (hk : (s.store.rules.map (·.id)).Nodup) :
    Ends reload
      (fun _ u => ∃ rs, s.store.allRules = .ok rs ∧ ∃ now plan created,
        planTieBreak (loadKeeps rs) now = .ok plan ∧
        u.cache = applyAssignments (loadKeeps rs) plan ++ created ∧
        Bootstrapped (applyAssignments (loadKeeps rs) plan) s.providers s.autoBootstrap created ∧
        Setup s u ∧ (s.autoBootstrap = true → s.readProviders = .ok s.providers))
      (fun _ _ => True) s := by
  refine ends_reload (fun _ _ => trivial) fun rs _ hrs => ?_
  have hkr := (mirrors_of_allRules hrs).keyed hk
  rcases hd : (dropDefaults (duplicateDefaults rs) rs).run s.tick with ⟨⟨rest, res⟩, t⟩
  have hst : Setup s t := (⟨rfl, rfl, rfl, rfl⟩ : Setup s s.tick).trans (dropDefaults_setup _ _ _ hd)
  obtain ⟨-, hrest⟩ := dropDefaults_spec _ _ s.tick (mirrors_of_allRules hrs) hd
  cases res with
  | error e => trivial
  | ok u =>
    cases u
    rw [hrest rfl, filter_duplicateDefaults hkr]
    refine renumberTies_plan.mono (fun out t' hout => ?_) fun _ _ _ => trivial
    split
    · trivial
    · rename_i hok
      obtain ⟨hst', now, plan, hplan, hout⟩ := hout hok
      have hset : Setup s { t' with cache := out.1 } := (hst.trans hst').trans ⟨rfl, rfl, rfl, rfl⟩
      split
      · rename_i hon
        refine unlessNoProvider_bootstrap.mono (fun _ u ⟨hread, created, hb, hc, hsu⟩ => ?_)
          fun _ _ _ => trivial
        refine ⟨rs, hrs, now, plan, created, hplan, by rw [hc, hout], ?_, hset.trans hsu,
          fun _ => by rw [← hset.readProviders_eq, hread, hset.providers_eq]⟩
        rw [← hset.providers_eq, ← hset.autoBootstrap, hon, ← hout]
        exact hb
      · rename_i hoff
        have hb : s.autoBootstrap = false := by
          rw [← hset.autoBootstrap]
          simpa using hoff
        refine ⟨rs, hrs, now, plan, [], hplan, by simp [hout], ?_, hset, fun hon => ?_⟩
        · rw [hb]
          exact .off
        · rw [hb] at hon
          cases hon


/-! ## What is left to bootstrap -/

theorem exists_of_forall₂ {α β : Type} {R : α → β → Prop} :
    ∀ {l₁ : List α} {l₂ : List β}, List.Forall₂ R l₁ l₂ →
      ∀ {a : α}, a ∈ l₁ → ∃ b ∈ l₂, R a b
  | _, _, .nil, _, ha => absurd ha List.not_mem_nil
  | _, _, .cons hab hrest, _, ha => by
    rcases List.mem_cons.1 ha with rfl | ha
    · exact ⟨_, List.mem_cons_self, hab⟩
    · obtain ⟨b, hb, h⟩ := exists_of_forall₂ hrest ha
      exact ⟨b, List.mem_cons_of_mem _ hb, h⟩

theorem mapM_ne_error {α β ε : Type} {f : α → Except ε β} {e : ε}
    (hf : ∀ a, f a ≠ .error e) :
    ∀ l : List α, l.mapM f ≠ .error e
  | [] => fun h => by cases h
  | a :: l => by
    rw [List.mapM_cons]
    cases ha : f a with
    | error e' =>
      intro h
      cases h
      exact hf a ha
    | ok b =>
      cases hl : l.mapM f with
      | error e' =>
        intro h
        cases h
        exact mapM_ne_error hf l hl
      | ok bs => exact fun h => by cases h

theorem nextPriority_eq_error {rules : List Rule} {sc : Scope} {e : Failure}
    (h : nextPriority rules sc = .error e) : e = .overflow := by
  unfold nextPriority stepUp at h
  split at h
  · cases h
  · exact (Except.error.inj h).symm

theorem planBootstrap_noProvider {rules : List Rule} {providers : List Provider}
    (h : planBootstrap rules providers = .error (.error .noProviderAvailable)) :
    providers = [] := by
  unfold planBootstrap at h
  split at h
  · cases h
  · split at h
    · rfl
    · -- a planned default fails only past the 32-bit priorities
      refine absurd h (mapM_ne_error (fun g hg => ?_) _)
      cases hq : nextPriority rules ⟨g, .path⟩ with
      | ok q =>
        rw [hq] at hg
        cases hg
      | error e =>
        rw [hq] at hg
        cases hg
        cases nextPriority_eq_error hq

theorem planBootstrap_eq_nil {rules : List Rule} {providers : List Provider}
    (h : missingDefaults rules = [] ∨ providers = []) {plan : List DefaultPlan}
    (hp : planBootstrap rules providers = .ok plan) : plan = [] := by
  unfold planBootstrap at hp
  split at hp
  · exact (Except.ok.inj hp).symm
  · rename_i hm
    rcases h with h | rfl
    · exact absurd h hm
    · cases hp

theorem missingDefaults_append_made {base created : List Rule} {providers : List Provider}
    {plan : List DefaultPlan} (hp : planBootstrap base providers = .ok plan)
    (hc : List.Forall₂ (fun d r => ∃ id now, r = d.toRule id now) plan created) :
    missingDefaults (base ++ created) = [] := by
  obtain ⟨hgroups, -⟩ := planBootstrap_spec hp
  refine List.filter_eq_nil_iff.2 fun g _ => ?_
  simp only [Bool.not_eq_eq_eq_not, Bool.not_true, Bool.not_eq_false]
  by_cases hg : hasDefault base g = true
  · simp only [hasDefault, List.any_append, Bool.or_eq_true] at hg ⊢
    exact .inl hg
  · -- a missing default is planned, and the rule made for it is one
    have hm : g ∈ missingDefaults base :=
      List.mem_filter.2 ⟨by assumption, by simpa using hg⟩
    rw [← hgroups] at hm
    obtain ⟨d, hd, rfl⟩ := List.mem_map.1 hm
    obtain ⟨r, hr, id, now, rfl⟩ := exists_of_forall₂ hc hd
    simp only [hasDefault, List.any_append, Bool.or_eq_true, List.any_eq_true]
    have hl := DefaultPlan.toRule_locked d id now
    exact .inr ⟨_, hr, by simp only [hl]; simp [DefaultPlan.toRule]⟩

theorem Bootstrapped.missing {base created : List Rule} {providers : List Provider} {b : Bool}
    (h : Bootstrapped base providers b created) (hb : b = true) :
    missingDefaults (base ++ created) = [] ∨ providers = [] := by
  cases h with
  | off => cases hb
  | noProvider hp => exact .inr (planBootstrap_noProvider hp)
  | made hp hc => exact .inl (missingDefaults_append_made hp hc)


/-! ## A second load -/

theorem unlessNoProvider_bootstrap_idle {v : Service} (hread : v.readProviders = .ok v.providers)
    (h : missingDefaults v.cache = [] ∨ v.providers = []) :
    Ends (unlessNoProvider bootstrap) (fun _ u => u = v) (fun _ _ => False) v := by
  rw [ends_unlessNoProvider_eq, ends_bootstrap, hread]
  dsimp only
  split
  · rename_i plan hplan
    obtain rfl := planBootstrap_eq_nil h hplan
    rfl
  · rename_i e hplan
    -- the plan fails only for want of a provider, and that failure is caught
    have he : e = .error .noProviderAvailable := by
      unfold planBootstrap at hplan
      rcases h with hm | hp
      · rw [hm] at hplan
        cases hplan
      · rw [hp] at hplan
        split at hplan
        · cases hplan
        · exact (Except.error.inj hplan).symm
    rw [if_pos he]

theorem missingDefaults_perm {rs rs' : List Rule} (h : rs.Perm rs') :
    missingDefaults rs = missingDefaults rs' := by
  unfold missingDefaults hasDefault
  simp only [h.any_eq]

/-- A load from a store that reads back sound rules with no default to make: it deletes,
renumbers and makes nothing, and caches the rules as the store reads them. It fails only when
the read itself is set to fail, and then keeps the store and the cache. -/
theorem reload_of_tidy {t : Service} {rs : List Rule} (hrs : t.store.allRules = .ok rs)
    (h : Sound { t with cache := rs })
    (hb : t.autoBootstrap = true →
      t.readProviders = .ok t.providers ∧ (missingDefaults rs = [] ∨ t.providers = [])) :
    Ends reload (fun _ u => u.store = t.store ∧ u.cache = rs)
      (fun _ u => t.failsNext false = true ∧ u.store = t.store ∧ u.cache = t.cache) t := by
  refine ends_reload (fun _ hx => ?_) fun rs' _ hrs' => ?_
  · -- the read fails only where it is set to fail
    rcases hx with hf | hx
    · exact ⟨hf, rfl, rfl⟩
    · rw [hrs] at hx
      cases hx
  · obtain rfl : rs' = rs := Except.ok.inj (hrs'.symm.trans hrs)
    rw [duplicateDefaults_eq_nil h.oneDefault, dropDefaults_nil]
    refine renumberTies_of_separated h.separated ?_
    dsimp only
    split
    · rename_i hon
      refine (unlessNoProvider_bootstrap_idle ?_ ?_).mono (fun _ u hu => ?_) fun _ _ hu => hu.elim
      · exact (hb hon).1
      · exact (hb hon).2
      · rw [hu]
        exact ⟨rfl, rfl⟩
    · exact ⟨rfl, rfl⟩

theorem reload_rereads {t : Service} (h : Sound t)
    (hb : t.autoBootstrap = true →
      t.readProviders = .ok t.providers ∧ (missingDefaults t.cache = [] ∨ t.providers = [])) :
    Ends reload (fun _ u => u.store = t.store ∧ t.store.allRules = .ok u.cache)
      (fun _ u => u.store = t.store ∧
        (t.failsNext false = true ∧ u.cache = t.cache ∨ t.store.allRules = .ok u.cache)) t := by
  obtain ⟨rs, hrs, hperm, hm⟩ := h.mirrors.allRules
  refine (reload_of_tidy hrs (h.reread (t := { t with cache := rs }) hperm hm rfl rfl).sound
    fun hon => ⟨(hb hon).1, missingDefaults_perm hperm ▸ (hb hon).2⟩).mono
    (fun _ _ hu => ⟨hu.1, hu.2 ▸ hrs⟩) fun _ _ hu => ⟨hu.2.1, .inl ⟨hu.1, hu.2.2⟩⟩

theorem reload_reads_back {t : Service} (h : Sound t)
    (hb : t.autoBootstrap = true →
      t.readProviders = .ok t.providers ∧ (missingDefaults t.cache = [] ∨ t.providers = [])) :
    (t.after reload).store = t.store ∧ (t.failsNext false = true ∧
      (t.after reload).cache = t.cache ∨ t.store.allRules = .ok (t.after reload).cache) :=
  Ends.final (P := fun u => u.store = t.store ∧
      (t.failsNext false = true ∧ u.cache = t.cache ∨ t.store.allRules = .ok u.cache))
    ((reload_rereads h hb).mono (fun _ _ hu => ⟨hu.1, .inr hu.2⟩) fun _ _ hu => hu)

theorem reload_keeps_rules {t : Service} (h : Sound t)
    (hb : t.autoBootstrap = true →
      t.readProviders = .ok t.providers ∧ (missingDefaults t.cache = [] ∨ t.providers = [])) :
    (t.after reload).store = t.store ∧ (t.after reload).cache.Perm t.cache := by
  obtain ⟨rs, hrs, hperm, -⟩ := h.mirrors.allRules
  obtain ⟨hstore, ⟨-, hc⟩ | hc⟩ := reload_reads_back h hb
  · exact ⟨hstore, hc ▸ List.Perm.refl _⟩
  · -- the store reads back a permutation of the cache
    rw [hrs] at hc
    cases hc
    exact ⟨hstore, hperm⟩

/-! ## Loading -/

/-- A load from a store whose rows have distinct ids, when it returns. Of the rules the store
reads back it keeps every unlocked one and, of the locked ones of each group and pattern,
exactly one, the one made first (`loadKeeps`); it renumbers those by the tie-break plan, so that
no two rules of a scope share a priority, and writes them to the store; it then makes the
missing defaults as the bootstrap plan lists them, when it bootstraps; and a load right after
leaves the store as it is and caches the same rules, in the order the store reads them. -/
theorem load_tidies_store {s : Service} (hk : (s.store.rules.map (·.id)).Nodup)
    (hok : s.load.1 = .ok ()) :
    ∃ rs, s.store.allRules = .ok rs ∧
      (∀ x ∈ rs, x.locked = true →
        ∃! y, y ∈ loadKeeps rs ∧ y.locked = true ∧ y.group = x.group ∧
          y.pattern = x.pattern) ∧
      ∃ now plan created, planTieBreak (loadKeeps rs) now = .ok plan ∧
        s.load.2.cache = applyAssignments (loadKeeps rs) plan ++ created ∧
        Bootstrapped (applyAssignments (loadKeeps rs) plan) s.providers s.autoBootstrap created ∧
        Mirrors s.load.2.store s.load.2.cache ∧ Separated s.load.2.cache ∧
        s.load.2.load.2.store = s.load.2.store ∧ s.load.2.load.2.cache.Perm s.load.2.cache := by
  obtain ⟨rs, hrs, now, plan, created, hplan, hcache, hboot, hset, hread⟩ :=
    (reload_spec hk).of_ok hok
  change s.load.2.cache = _ at hcache
  change Setup s s.load.2 at hset
  have hsound : Sound s.load.2 := (reload_sound hk).of_ok hok
  have hkr : Keyed rs := (mirrors_of_allRules hrs).keyed hk
  have hidle : s.load.2.autoBootstrap = true → s.load.2.readProviders = .ok s.load.2.providers ∧
      (missingDefaults s.load.2.cache = [] ∨ s.load.2.providers = []) := fun hon => by
    rw [hcache, hset.providers_eq, hset.readProviders_eq]
    exact ⟨hread (hset.autoBootstrap ▸ hon), hboot.missing (hset.autoBootstrap ▸ hon)⟩
  obtain ⟨hstore, hperm⟩ := reload_keeps_rules hsound hidle
  exact ⟨rs, hrs, fun x hx hl => existsUnique_loadKeeps hkr hx hl, now, plan, created, hplan,
    hcache, hboot, hsound.mirrors, hsound.separated, hstore, hperm⟩


/-- A store with two locked OpenAI defaults and a custom OpenAI path rule that ties with the
older one: the load keeps the older default, moves the custom rule past the tie, and makes the
missing Anthropic default. -/
theorem tied_store_load_tidied :
    let at1 : Time.Instant := ⟨1735689600, 0⟩
    let at2 : Time.Instant := ⟨1735776000, 0⟩
    let old : Rule :=
      { id := "d1", kind := .path, group := .openai, provider := "p1", pattern := "/api/openai/*",
        rewrite := none, priority := 1, enabled := true, createdAt := at1, updatedAt := at1 }
    let young : Rule := { old with id := "d2", priority := 5, createdAt := at2, updatedAt := at2 }
    let custom : Rule :=
      { old with id := "c", pattern := "/v1/chat", createdAt := at2, updatedAt := at2 }
    let s : Service :=
      { store := { rules := [young, custom, old].map Row.ofRule },
        registry := .fixed [{ id := "p1", name := "p1" }] }
    (s.store.rules.map (·.id)).Nodup ∧ s.load.1 = .ok () ∧
    ∃ rs, s.store.allRules = .ok rs ∧
      (∀ x ∈ rs, x.locked = true →
        ∃! y, y ∈ loadKeeps rs ∧ y.locked = true ∧ y.group = x.group ∧
          y.pattern = x.pattern) ∧
      ∃ now plan created, planTieBreak (loadKeeps rs) now = .ok plan ∧
        s.load.2.cache = applyAssignments (loadKeeps rs) plan ++ created ∧
        Bootstrapped (applyAssignments (loadKeeps rs) plan) s.providers s.autoBootstrap created ∧
        Mirrors s.load.2.store s.load.2.cache ∧ Separated s.load.2.cache ∧
        s.load.2.load.2.store = s.load.2.store ∧ s.load.2.load.2.cache.Perm s.load.2.cache := by
  intro at1 at2 old young custom s
  have hok : s.load.1 = .ok () := by decide +kernel
  exact ⟨by decide, hok, load_tidies_store (by decide) hok⟩

/-- A second load may change the order of the cache. Loading an empty store with one provider
makes the OpenAI default, then the Anthropic one, and caches them in that order; a load right
after caches them in the order the store reads them, by group name, Anthropic first. -/
theorem second_load_reorders_cache :
    let s : Service := { store := {}, registry := .fixed [{ id := "p1", name := "p1" }] }
    (s.store.rules.map (·.id)).Nodup ∧ s.load.1 = .ok () ∧
      s.load.2.load.2.cache ≠ s.load.2.cache := by
  intro s
  exact ⟨by decide, by decide +kernel, by decide +kernel⟩

end ProviderRouting
