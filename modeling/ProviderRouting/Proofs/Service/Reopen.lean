import ProviderRouting.Service.Open
import ProviderRouting.Proofs.Store.Folders
import ProviderRouting.Proofs.Service.Patterns
import ProviderRouting.Proofs.Service.Load

/-!
# Opening a service again

An opening that returns leaves nothing for a second opening to do. The database opens again
over the disk the first opening left (`Disk.openDatabase_again`). The settings file is not read
again: the first import marked the store, or found no file, and a load writes rule rows only, so
the mark stays (`Store.importFrom_again`). The first load left the store tidy: the
second deletes, renumbers and makes nothing (`reload_of_tidy`), and caches the rules the store
reads back. Those are the first cache in another order, perhaps, which the listing sorts back
into the same order (`mergeSort_listsBefore_perm`).
-/

namespace ProviderRouting

/-! ## The import -/

namespace Store

variable {st st' : Store}

theorem keyed_insertRule {r : Rule} (h : st.insertRule r = .ok st')
    (hk : (st.rules.map (·.id)).Nodup) : (st'.rules.map (·.id)).Nodup := by
  unfold Store.insertRule at h
  split at h
  · cases h
  · rename_i hfresh
    cases h
    rw [List.map_append, List.nodup_append]
    refine ⟨hk, List.nodup_singleton _, ?_⟩
    simp only [List.map_cons, List.map_nil, List.mem_singleton, List.mem_map]
    rintro _ ⟨w, hw, rfl⟩ _ rfl he
    exact hfresh (List.any_eq_true.2 ⟨w, hw, by simpa [Row.ofRule] using he⟩)

theorem importLegacy_marks {file : SettingsFile} {stamp : Int} {n : Nat}
    (h : st.importLegacy file stamp = (.ok n, st')) :
    st'.imported = true ∨ file = .missing ∧ st' = st := by
  unfold Store.importLegacy at h
  split at h
  · cases h
    exact .inl ‹_›
  · dsimp only at h
    split at h
    · rename_i hread
      cases h
      refine .inr ⟨?_, rfl⟩
      cases file with
      | missing => rfl
      | text t => cases hread
      | unreadable e => cases hread
    · split at h
      · cases h
      · cases h
        exact .inl rfl

theorem importLegacy_idle {file : SettingsFile} (stamp : Int)
    (h : st.imported = true ∨ file = .missing) : st.importLegacy file stamp = (.ok 0, st) := by
  unfold Store.importLegacy
  rcases h with h | rfl
  · rw [if_pos h]
  · split <;> rfl

theorem importLegacy_text {l : Legacy} (hfresh : st.imported = false) (hnil : st.rules = [])
    {text : String} (hp : Legacy.parse text = .ok l) (stamp : Int) :
    st.importLegacy (.text text) stamp = match st.importSettings l stamp with
      | .error e => (.error e, st)
      | .ok (st₁, n) => (.ok n, { st₁ with imported := true }) := by
  unfold Store.importLegacy
  rcases h : st.importSettings l stamp with e | ⟨st₁, n⟩ <;>
    simp [hfresh, hnil, hp, h, bind, Except.bind]

theorem importFrom_again {st₂ : Store} {legacyPath : Option String} {d : Disk} {stamp : Int}
    {n : Nat} (h : st.importFrom legacyPath d stamp = (.ok n, st'))
    (hmark : st₂.imported = st'.imported) (stamp₂ : Int) :
    st₂.importFrom legacyPath d stamp₂ = (.ok 0, st₂) := by
  cases legacyPath with
  | none => rfl
  | some p =>
    refine importLegacy_idle stamp₂ ?_
    rcases importLegacy_marks h with hm | ⟨hf, -⟩
    · exact .inl (hmark.trans hm)
    · exact .inr hf

theorem importFrom_keyed (st : Store) (legacyPath : Option String) (d : Disk) (stamp : Int)
    (hk : (st.rules.map (·.id)).Nodup) :
    ((st.importFrom legacyPath d stamp).2.rules.map (·.id)).Nodup := by
  cases legacyPath with
  | none => exact hk
  | some p =>
    exact importLegacy_keeps (fun st : Store => (st.rules.map Row.id).Nodup) (fun _ _ h => h)
      (fun _ _ _ _ hins h => keyed_insertRule hins h) (fun _ h => h) st _ stamp hk

/-! ## A load writes rule rows only -/

/-- `st'` keeps the providers and the import mark of `st`, whatever its rule rows. -/
structure OnlyRows (st st' : Store) : Prop where
  providers : st'.providers = st.providers
  imported : st'.imported = st.imported

namespace OnlyRows

variable {st'' : Store}

theorem refl (st : Store) : OnlyRows st st := ⟨rfl, rfl⟩

theorem trans (h₁ : OnlyRows st st') (h₂ : OnlyRows st' st'') : OnlyRows st st'' :=
  ⟨h₂.providers.trans h₁.providers, h₂.imported.trans h₁.imported⟩

theorem of_insertRule {r : Rule} (h : st.insertRule r = .ok st') : OnlyRows st st' := by
  unfold Store.insertRule at h
  split at h
  · cases h
  · cases h
    exact ⟨rfl, rfl⟩

theorem of_deleteRule (st : Store) (id : String) : OnlyRows st (st.deleteRule id).1 := ⟨rfl, rfl⟩

theorem of_writeAssignments {plan : List Assignment} (h : writeAssignments st plan = .ok st') :
    OnlyRows st st' := by
  obtain ⟨-, rfl⟩ := writeAssignments_eq_ok_iff.1 h
  exact ⟨rfl, rfl⟩

end OnlyRows

end Store

section Load

variable (st₀ : Store)

theorem renumberTies_onlyRows {rules : List Rule} {s : Service} (h : st₀.OnlyRows s.store) :
    Ends (renumberTies rules) (fun _ t => st₀.OnlyRows t.store)
      (fun _ t => st₀.OnlyRows t.store) s :=
  ends_renumberTies (fun _ _ => h) (fun _ _ _ _ _ hw => h.trans (.of_writeAssignments hw))
    (fun _ _ _ _ _ => h) fun _ _ _ => h

theorem bootstrap_onlyRows {s : Service} (h : st₀.OnlyRows s.store) :
    Ends bootstrap (fun _ t => st₀.OnlyRows t.store) (fun _ t => st₀.OnlyRows t.store) s := by
  rw [ends_bootstrap]
  split
  · split
    · refine ends_storeDefaults (fun _ t => st₀.OnlyRows t.store) (fun d _ t id now ht => ?_) _ h
      exact ends_persistCreate _ (fun _ hins => ht.trans (.of_insertRule hins)) fun _ => ht
    · exact h
  · exact h

theorem reload_onlyRows {s : Service} (h : st₀.OnlyRows s.store) :
    Ends reload (fun _ t => st₀.OnlyRows t.store) (fun _ t => st₀.OnlyRows t.store) s := by
  refine ends_reload (fun _ _ => h) fun rs _ _ => ?_
  rcases hd : (dropDefaults (duplicateDefaults rs) rs).run s.tick with ⟨⟨rest, res⟩, t⟩
  have ht : st₀.OnlyRows t.store := dropDefaults_keeps (fun _ t => st₀.OnlyRows t.store)
    (fun _ _ h => h) (fun _ u id h _ => h.trans (.of_deleteRule u.store id)) _ _ s.tick h hd
  cases res with
  | error e => exact ht
  | ok u =>
    refine (renumberTies_onlyRows st₀ ht).mono (fun out t' ht' => ?_) fun _ _ ht' => ht'
    split
    · exact ht'
    · split
      · exact ends_unlessNoProvider (bootstrap_onlyRows st₀ ht')
      · exact ht'

end Load

/-! ## The listing order -/

theorem Time.Instant.compare_ne_gt {a b : Time.Instant} :
    Ord.compare a b ≠ .gt ↔ a.key ≤ b.key := by
  rw [le_iff_lt_or_eq, ← compare_eq_lt, key_injective.eq_iff, ← compare_eq_eq]
  cases Ord.compare a b <;> simp

theorem Scope.rank_injective : Function.Injective Scope.rank := by
  rintro ⟨g, k⟩ ⟨g', k'⟩ h
  cases g <;> cases g' <;> cases k <;> cases k' <;>
    simp_all [Scope.rank, Group.rank, RuleKind.rank]

def Rule.listKey (r : Rule) : Lex (Nat × Lex (Int × Lex (Int × Nat))) :=
  toLex (r.scope.rank, toLex (r.priority, r.createdAt.key))

theorem listsBefore_iff {a b : Rule} : listsBefore a b = true ↔ a.listKey ≤ b.listKey := by
  unfold listsBefore Rule.listKey
  rw [Prod.Lex.toLex_le_toLex]
  dsimp only
  rw [Prod.Lex.toLex_le_toLex]
  by_cases hr : a.scope.rank = b.scope.rank
  · by_cases hp : a.priority = b.priority
    · simp [hr, hp, Time.Instant.compare_ne_gt]
    · simp [hr, hp]
  · simp [hr]

theorem Rule.listKey_eq {a b : Rule} (h : a.listKey = b.listKey) :
    a.scope = b.scope ∧ a.priority = b.priority := by
  unfold Rule.listKey at h
  obtain ⟨hr, h⟩ := Prod.mk.inj (toLex.injective h)
  exact ⟨Scope.rank_injective hr, (Prod.mk.inj (toLex.injective h)).1⟩

theorem mergeSort_listsBefore_perm {l₁ l₂ : List Rule} (hp : l₁.Perm l₂) (hs : Separated l₁) :
    l₁.mergeSort listsBefore = l₂.mergeSort listsBefore := by
  have htrans : ∀ a b c, listsBefore a b = true → listsBefore b c = true →
      listsBefore a c = true := fun _ _ _ hab hbc =>
    listsBefore_iff.2 ((listsBefore_iff.1 hab).trans (listsBefore_iff.1 hbc))
  have htotal : ∀ a b, (listsBefore a b || listsBefore b a) = true := fun a b => by
    rcases le_total a.listKey b.listKey with h | h
    · simp [listsBefore_iff.2 h]
    · simp [listsBefore_iff.2 h]
  refine List.Perm.eq_of_pairwise (fun a b ha hb hab hba => ?_)
    (List.pairwise_mergeSort htrans htotal l₁) (List.pairwise_mergeSort htrans htotal l₂)
    ((List.mergeSort_perm _ _).trans (hp.trans (List.mergeSort_perm _ _).symm))
  -- two rules listed each before the other share scope and priority, which no two rules of a
  -- separated list do
  obtain ⟨hscope, hprio⟩ := Rule.listKey_eq
    (le_antisymm (listsBefore_iff.1 hab) (listsBefore_iff.1 hba))
  by_contra hne
  exact hs.forall ((List.mergeSort_perm _ _).subset ha)
    (hp.symm.subset ((List.mergeSort_perm _ _).subset hb)) hne hscope hprio

/-! ## Loading again -/

theorem load_leaves_tidy {t : Service} (hok : t.load.1 = .ok ())
    (hk : (t.store.rules.map (·.id)).Nodup) :
    Sound t.load.2 ∧ Setup t t.load.2 ∧ t.store.OnlyRows t.load.2.store ∧
      (t.load.2.autoBootstrap = true → t.load.2.readProviders = .ok t.load.2.providers ∧
        (missingDefaults t.load.2.cache = [] ∨ t.load.2.providers = [])) := by
  obtain ⟨rs, -, now, plan, created, -, hcache, hboot, hset, hread⟩ := (reload_spec hk).of_ok hok
  change t.load.2.cache = _ at hcache
  change Setup t t.load.2 at hset
  refine ⟨(reload_sound hk).of_ok hok, hset,
    (reload_onlyRows t.store (Store.OnlyRows.refl _)).of_ok hok, fun hon => ?_⟩
  rw [hcache, hset.providers_eq, hset.readProviders_eq]
  exact ⟨hread (hset.autoBootstrap ▸ hon), hboot.missing (hset.autoBootstrap ▸ hon)⟩

/-- Loading again after such a load returns, writes nothing, and caches the rules the store
reads back, the cached ones perhaps in another order. The second load may start from any cache;
it needs the same store, providers and bootstrap switch, and no read set to fail. -/
theorem load_again {u t : Service} (h : Sound u)
    (hidle : u.autoBootstrap = true →
      u.readProviders = .ok u.providers ∧ (missingDefaults u.cache = [] ∨ u.providers = []))
    (hstore : t.store = u.store) (hset : Setup u t) (hfault : t.failsNext false = false) :
    t.load.1 = .ok () ∧ t.load.2.store = u.store ∧ t.load.2.cache.Perm u.cache := by
  obtain ⟨rs, hrs, hperm, hm⟩ := h.mirrors.allRules
  have hsound : Sound { t with cache := rs } :=
    (h.reread (t := { t with cache := rs }) hperm hm hstore rfl).sound
  have hb : t.autoBootstrap = true →
      t.readProviders = .ok t.providers ∧ (missingDefaults rs = [] ∨ t.providers = []) :=
    fun hon => by
      rw [missingDefaults_perm hperm, hset.providers_eq, hset.readProviders_eq]
      exact hidle (hset.autoBootstrap ▸ hon)
  have hreload := reload_of_tidy (t := t) (hstore ▸ hrs) hsound hb
  unfold Ends at hreload
  change (reload.run.run t).1 = _ ∧ (reload.run.run t).2.store = _ ∧
    (reload.run.run t).2.cache.Perm _
  rcases hl : reload.run.run t with ⟨_ | ⟨⟩, v⟩ <;> rw [hl] at hreload
  · obtain ⟨hf, -⟩ := hreload
    rw [hfault] at hf
    cases hf
  · obtain ⟨hv, hc⟩ := hreload
    rw [hc]
    exact ⟨rfl, hv.trans hstore, hperm⟩

/-! ## Opening again -/

/-- An opening loads exactly when the database opens and the import returns. It then loads the
store the import left, from an empty cache, with the configured bootstrap switch and no store
call set to fail, and takes the configured deletion policy. -/
theorem openService_eq_loaded {config : RouterConfig} {legacyPath : Option String}
    {d d₁ : Disk} {s s₁ : Service} {result : Except Failure Unit} :
    openService config legacyPath d s = (.loaded result, d₁, s₁) ↔
      d.openDatabase (config.databasePath.getD defaultDatabasePath) = .ok d₁ ∧
      ∃ n st, s.store.importFrom legacyPath d₁ (clockInstant s.clock).secs = (.ok n, st) ∧
        ∃ u, Service.load { s with cache := [], autoBootstrap := config.bootstrap,
                                   faults := {}, store := st } = (result, u) ∧
          s₁ = { u with policy := config.deletion } := by
  constructor
  · intro h
    unfold openService at h
    split at h
    · cases h
    · rename_i d' hdb
      dsimp only at h
      split at h
      · cases h
      · rename_i n st himp
        simp only [Prod.mk.injEq, Opening.loaded.injEq] at h
        obtain ⟨rfl, rfl, rfl⟩ := h
        exact ⟨hdb, n, st, himp, _, rfl, rfl⟩
  · rintro ⟨hdb, n, st, himp, u, hl, rfl⟩
    unfold openService
    rw [hdb]
    dsimp only
    rw [himp]
    dsimp only
    rw [hl]

/-- Opening a service again changes nothing. When an opening over a store whose rows have
distinct ids returns, a second opening with the same configuration and settings path returns
too, over the disk the first left and from a service with the store and providers the first
left: it finds the disk as it is, writes nothing to the store, and lists the rules, field for
field and in order, as the first service lists them. -/
theorem reopen_changes_nothing {config : RouterConfig} {legacyPath : Option String}
    {d d₁ : Disk} {s s₁ : Service} (hk : (s.store.rules.map (·.id)).Nodup)
    (h : openService config legacyPath d s = (.loaded (.ok ()), d₁, s₁))
    (s' : Service) (hstore : s'.store = s₁.store) (hreg : s'.registry = s₁.registry) :
    ∃ s₂, openService config legacyPath d₁ s' = (.loaded (.ok ()), d₁, s₂) ∧
      s₂.store = s₁.store ∧ ((list none).run.run s₂).1 = ((list none).run.run s₁).1 := by
  obtain ⟨hdb, n, st, himp, u, hload, rfl⟩ := openService_eq_loaded.1 h
  have hk₀ : (st.rules.map (·.id)).Nodup := by
    have := Store.importFrom_keyed s.store legacyPath d₁ (clockInstant s.clock).secs hk
    rwa [himp] at this
  -- the first load left a sound store with nothing to bootstrap, and kept the import mark
  obtain ⟨hsound, hset, hrows, hidle⟩ := load_leaves_tidy (congrArg Prod.fst hload) hk₀
  rw [hload] at hsound hset hrows hidle
  dsimp only at hsound hset hrows hidle
  -- the second opening finds the database, imports nothing, and loads that store again
  have himp₂ := Store.importFrom_again himp (hstore ▸ hrows.imported) (clockInstant s'.clock).secs
  let t₁ : Service := { s' with cache := [], autoBootstrap := config.bootstrap, faults := {},
                                store := s'.store }
  obtain ⟨hok₂, hstore₂, hperm₂⟩ := load_again (t := t₁) hsound hidle hstore
    ⟨hreg, congrArg Store.providers hstore, hset.autoBootstrap.symm, hset.registryFault.symm⟩ rfl
  refine ⟨_, openService_eq_loaded.2 ⟨Disk.openDatabase_again hdb, 0, s'.store, himp₂, _,
    Prod.ext hok₂ rfl, rfl⟩, hstore₂, ?_⟩
  rw [list_none_run, list_none_run]
  exact congrArg Except.ok (mergeSort_listsBefore_perm hperm₂.symm hsound.separated).symm

/-- An opening over a database with no rules that imports a settings file holding two OpenAI
defaults, one a repeat of the other, and a custom rule tied at priority 1 with the older default.
The load keeps one default of each group, and opening again changes nothing. -/
theorem reopened_defaults_unchanged :
    let rule (id pattern priority day : String) : String :=
      "\x7b\"id\":\"" ++ id ++ "\",\"ruleType\":\"path\",\"apiGroup\":\"openai\"," ++
        "\"providerId\":\"p1\",\"matchPattern\":\"" ++ pattern ++ "\",\"priority\":" ++
        priority ++ ",\"enabled\":true,\"createdAt\":\"2025-01-" ++ day ++
        "T00:00:00Z\",\"updatedAt\":\"2025-01-" ++ day ++ "T00:00:00Z\"\x7d"
    let text : String :=
      "\x7b\"providers\":[\x7b\"id\":\"p1\",\"name\":\"P1\"\x7d],\"routingRules\":[" ++
        rule "d2" "/api/openai/*" "5" "02" ++ "," ++ rule "c" "/v1/chat" "1" "02" ++ "," ++
        rule "d1" "/api/openai/*" "1" "01" ++ "]\x7d"
    let d : Disk :=
      { made := [([".routecast"], .folder), ([".routecast", "routecast.db"], .database),
          (["settings.json"], .text text)] }
    let s : Service := { store := {}, registry := .stored }
    ∃ s₁, (s.store.rules.map (·.id)).Nodup ∧
      openService {} (some "settings.json") d s = (.loaded (.ok ()), d, s₁) ∧
      (s₁.cache.filter (·.locked)).length = 2 ∧
      ∃ s₂, openService {} (some "settings.json") d s₁ = (.loaded (.ok ()), d, s₂) ∧
        s₂.store = s₁.store ∧ ((list none).run.run s₂).1 = ((list none).run.run s₁).1 := by
  intro rule text d s
  let row (id pattern : String) (priority : Int) (t : Time.Instant) : Rule :=
    { id := id, kind := .path, group := .openai, provider := "p1", pattern := pattern,
      rewrite := none, priority := priority, enabled := true, createdAt := t, updatedAt := t }
  -- the text is split into short pieces before the kernel reads it, since turning one long
  -- literal into characters costs the square of its length
  have hp : Legacy.parse text = .ok ⟨[("p1", "P1")], [row "d2" "/api/openai/*" 5 ⟨1735776000, 0⟩,
      row "c" "/v1/chat" 1 ⟨1735776000, 0⟩, row "d1" "/api/openai/*" 1 ⟨1735689600, 0⟩]⟩ := by
    simp only [text, rule]
    rw [Legacy.parse, Json.readText, Json.Cursor.start]
    repeat rw [String.toList_append]
    decide +kernel
  have hfile : d.settingsAt "settings.json" = .text text := rfl
  have hfrom := s.store.importLegacy_text rfl rfl hp (clockInstant s.clock).secs
  have hk : (s.store.rules.map (·.id)).Nodup := List.nodup_nil
  have h : openService {} (some "settings.json") d s = (.loaded (.ok ()), d, _) :=
    openService_eq_loaded.2 ⟨rfl, 3, _,
      Prod.fst_eq_iff.1 (by rw [Store.importFrom, hfile, hfrom]; decide +kernel), _,
      Prod.fst_eq_iff.1 (by rw [Store.importFrom, hfile, hfrom]; decide +kernel), rfl⟩
  exact ⟨_, hk, h, by rw [Store.importFrom, hfile, hfrom]; decide +kernel,
    reopen_changes_nothing hk h _ rfl rfl⟩

end ProviderRouting
