import ProviderRouting.Proofs.Service.Load
import ProviderRouting.Proofs.Service.Consistency
import ProviderRouting.Proofs.Plan.Chain

/-!
# Provisioning the default rules

`planBootstrap` plans nothing exactly when the OpenAI and Anthropic groups both have their
catch-all path rule (`DefaultsComplete`), whatever the providers. With a default missing it is
refused for want of a provider exactly when no provider is listed; otherwise it plans one
default per missing group, OpenAI first, each sent to the first provider and placed one past the
last priority of its group's path scope (`DefaultFor`). Priorities are 32-bit, so a missing
group whose path scope already holds the largest one stops the plan with an overflow instead
(`full_scope_default_overflows`).

A service with at most one default per group and pattern that bootstraps ends with exactly one
default in each of the two groups, and a second bootstrap then finds nothing to do: it makes
nothing and changes nothing, whatever providers the registry lists by then. A registry that
cannot be read stops every bootstrap, the second one too.
-/

namespace ProviderRouting

/-! ## Which defaults are missing -/

theorem Group.catchAll_protected (g : Group) : g.catchAll ∈ protectedPatterns := by
  cases g <;> decide

def DefaultsComplete (rules : List Rule) : Prop :=
  ∀ g ∈ bootstrapGroups, ∃ r ∈ rules, isDefaultOf g r = true

theorem hasDefault_eq_true_iff {rules : List Rule} {g : Group} :
    hasDefault rules g = true ↔ ∃ r ∈ rules, isDefaultOf g r = true := by
  simp only [hasDefault, isDefaultOf, List.any_eq_true, Bool.and_eq_true, beq_iff_eq]
  refine exists_congr fun r => and_congr_right fun _ => ?_
  constructor
  · rintro ⟨⟨hg, hl⟩, hp⟩
    simp only [Rule.locked, isProtected, Bool.and_eq_true, beq_iff_eq] at hl
    exact ⟨⟨hg, hl.1⟩, hp⟩
  · rintro ⟨⟨hg, hk⟩, hp⟩
    exact ⟨⟨hg, Rule.locked_of_path g.catchAll_protected hk hp⟩, hp⟩

theorem missingDefaults_eq_nil_iff {rules : List Rule} :
    missingDefaults rules = [] ↔ DefaultsComplete rules := by
  simp only [missingDefaults, List.filter_eq_nil_iff, Bool.not_eq_eq_eq_not, Bool.not_true,
    Bool.not_eq_false, DefaultsComplete, hasDefault_eq_true_iff]

/-! ## The plan -/

def OnePastLast (rules : List Rule) (s : Scope) (v : Int) : Prop :=
  (∀ r ∈ rules, r.scope = s → r.priority < v) ∧
    ((∃ r ∈ rules, r.scope = s ∧ v = r.priority + 1) ∨ ((∀ r ∈ rules, r.scope ≠ s) ∧ v = 1))

theorem mem_scopePriorities {rules : List Rule} {s : Scope} {r : Rule} (hr : r ∈ rules)
    (hs : r.scope = s) : r.priority ∈ scopePriorities rules s :=
  List.mem_map_of_mem (List.mem_filter.2 ⟨hr, by simp [hs]⟩)

theorem nextPriority_onePastLast {rules : List Rule} {s : Scope}
    (h : ∀ r ∈ rules, r.scope = s → r.priority < Priority.max) :
    ∃ v, nextPriority rules s = .ok v ∧ OnePastLast rules s v := by
  unfold nextPriority
  cases hm : (scopePriorities rules s).max? with
  | none =>
    have hempty : ∀ r ∈ rules, r.scope ≠ s := fun r hr hs => by
      have := mem_scopePriorities hr hs
      rw [List.max?_eq_none_iff.1 hm] at this
      cases this
    exact ⟨1, rfl, fun r hr hs => absurd hs (hempty r hr), .inr ⟨hempty, rfl⟩⟩
  | some m =>
    obtain ⟨hmem, hle⟩ := List.max?_eq_some_iff.1 hm
    obtain ⟨r, hr, rfl⟩ := List.mem_map.1 hmem
    obtain ⟨hrm, hrs⟩ := List.mem_filter.1 hr
    have hrs : r.scope = s := by simpa using hrs
    have hlt := h r hrm hrs
    refine ⟨r.priority + 1, by simp [stepUp, Priority.succ?, hlt], fun x hx hxs => ?_,
      .inl ⟨r, hrm, hrs, rfl⟩⟩
    have := hle x.priority (mem_scopePriorities hx hxs)
    omega

/-- What a planned default makes: the enabled catch-all path rule of the group, sent to the
provider, one past the last priority of the group's path scope. -/
structure DefaultFor (rules : List Rule) (provider : String) (g : Group) (r : Rule) : Prop where
  group : r.group = g
  kind : r.kind = .path
  pattern : r.pattern = g.catchAll
  enabled : r.enabled = true
  sentTo : r.provider = provider
  priority : OnePastLast rules ⟨g, .path⟩ r.priority

theorem planBootstrap_eq_nil_iff {rules : List Rule} {providers : List Provider} :
    planBootstrap rules providers = .ok [] ↔ missingDefaults rules = [] := by
  constructor
  · intro h
    simpa using (planBootstrap_spec h).1.symm
  · intro h
    unfold planBootstrap
    rw [h]

theorem planBootstrap_noProvider_iff {rules : List Rule} {providers : List Provider}
    (hm : missingDefaults rules ≠ []) :
    planBootstrap rules providers = .error (.error .noProviderAvailable) ↔ providers = [] := by
  refine ⟨planBootstrap_noProvider, fun h => ?_⟩
  subst h
  unfold planBootstrap
  split
  · contradiction
  · rfl

theorem planBootstrap_defaults {rules : List Rule} (p : Provider) (ps : List Provider)
    (hroom : ∀ g ∈ missingDefaults rules, ∀ r ∈ rules, r.scope = ⟨g, .path⟩ →
      r.priority < Priority.max) :
    ∃ plan, planBootstrap rules (p :: ps) = .ok plan ∧
      List.Forall₂ (fun g d => ∀ id now, DefaultFor rules p.id g (d.toRule id now))
        (missingDefaults rules) plan := by
  obtain ⟨plan, hplan, hrel⟩ := exists_mapM_forall₂
    (f := fun g => do pure (⟨g, p.id, ← nextPriority rules ⟨g, .path⟩⟩ : DefaultPlan))
    (R := fun g d => ∀ id now, DefaultFor rules p.id g (d.toRule id now)) fun g hg => by
      obtain ⟨v, hv, hpast⟩ := nextPriority_onePastLast (hroom g hg)
      exact ⟨⟨g, p.id, v⟩, by rw [hv]; rfl, fun _ _ => ⟨rfl, rfl, rfl, rfl, rfl, hpast⟩⟩
  refine ⟨plan, ?_, hrel⟩
  unfold planBootstrap
  split
  · rename_i hm
    rw [hm] at hplan
    exact hplan
  · exact hplan

/-! ## When the plan overflows -/

def ScopeFull (rules : List Rule) (s : Scope) : Prop :=
  (scopePriorities rules s).max? = some Priority.max

theorem nextPriority_eq_overflow_iff {rules : List Rule} {s : Scope}
    (hmax : ∀ r ∈ rules, r.priority ≤ Priority.max) :
    nextPriority rules s = .error .overflow ↔ ScopeFull rules s := by
  unfold nextPriority ScopeFull
  rw [stepUp_eq_error_iff]
  cases hm : (scopePriorities rules s).max? with
  | none => simp [Priority.max]
  | some m =>
    obtain ⟨r, hr, rfl⟩ := List.mem_map.1 (List.max?_eq_some_iff.1 hm).1
    have hle := hmax r (List.mem_filter.1 hr).1
    simp only [Option.getD_some, and_true, Option.some.injEq]
    omega

theorem mapM_eq_error_iff {α β ε : Type} {f : α → Except ε β} {e : ε}
    (hf : ∀ a e', f a = .error e' → e' = e) :
    ∀ l : List α, l.mapM f = .error e ↔ ∃ a ∈ l, f a = .error e
  | [] => by simp [List.mapM_nil, pure, Except.pure]
  | a :: l => by
    rw [List.mapM_cons]
    simp only [List.mem_cons, or_and_right, exists_or, exists_eq_left, ← mapM_eq_error_iff hf l]
    cases ha : f a with
    | error e' =>
      obtain rfl := hf a e' ha
      simp [bind, Except.bind]
    | ok b =>
      cases l.mapM f <;> simp [bind, Except.bind, pure, Except.pure]

theorem planBootstrap_eq_overflow_iff {rules : List Rule} {providers : List Provider}
    (hmax : ∀ r ∈ rules, r.priority ≤ Priority.max) :
    planBootstrap rules providers = .error .overflow ↔
      providers ≠ [] ∧ ∃ g ∈ missingDefaults rules, ScopeFull rules ⟨g, .path⟩ := by
  unfold planBootstrap
  split
  · rename_i hm
    simp [hm]
  · cases providers with
    | nil => simp
    | cons p ps =>
      dsimp only
      rw [mapM_eq_error_iff fun g e' h => ?_]
      · simp only [ne_eq, reduceCtorEq, not_false_eq_true, true_and]
        refine exists_congr fun g => and_congr_right fun _ => ?_
        rw [← nextPriority_eq_overflow_iff hmax]
        cases nextPriority rules ⟨g, .path⟩ <;> simp [bind, Except.bind, pure, Except.pure]
      · -- a default fails only where its scope's next priority does, by an overflow
        cases hq : nextPriority rules ⟨g, .path⟩ with
        | error e =>
          rw [hq] at h
          cases h
          exact nextPriority_eq_error hq
        | ok q =>
          rw [hq] at h
          cases h

/-! ## Bootstrapping a service -/

theorem isDefaultOf_toRule (d : DefaultPlan) (id : String) (now : Time.Instant) :
    isDefaultOf d.group (d.toRule id now) = true := by
  simp [isDefaultOf, DefaultPlan.toRule]

theorem made_groups {plan : List DefaultPlan} {made : List Rule}
    (h : List.Forall₂ (fun d r => ∃ id now, r = d.toRule id now) plan made) :
    made.map (·.group) = plan.map (·.group) ∧ ∀ r ∈ made, isDefaultOf r.group r = true := by
  induction h with
  | nil => simp
  | cons hd _ ih =>
    obtain ⟨id, now, rfl⟩ := hd
    refine ⟨by simp [ih.1, DefaultPlan.toRule], fun r hr => ?_⟩
    rcases List.mem_cons.1 hr with rfl | hr
    · exact isDefaultOf_toRule _ id now
    · exact ih.2 r hr

theorem length_filter_isDefaultOf {made : List Rule}
    (h : ∀ r ∈ made, isDefaultOf r.group r = true) (g : Group) :
    (made.filter (isDefaultOf g)).length = (made.map (·.group)).count g := by
  rw [List.count, List.countP_map, List.countP_eq_length_filter]
  congr 1
  refine List.filter_congr fun r hr => ?_
  by_cases hg : r.group = g
  · simp [← hg, h r hr]
  · have hne : (r.group == g) = false := by simpa using hg
    simp [isDefaultOf, hne]

theorem length_filter_isDefaultOf_eq_one {rules : List Rule} (h : OneDefault rules) {g : Group}
    (hg : hasDefault rules g = true) : (rules.filter (isDefaultOf g)).length = 1 := by
  have hle : (rules.filter (isDefaultOf g)).length ≤ 1 :=
    h.length_filter_le g g.catchAll_protected
  obtain ⟨r, hr, hd⟩ := hasDefault_eq_true_iff.1 hg
  have hpos : 0 < (rules.filter (isDefaultOf g)).length :=
    List.length_pos_of_mem (List.mem_filter.2 ⟨hr, hd⟩)
  omega

theorem bootstrap_one_default_each {s : Service} (h : OneDefault s.cache) {made : List Rule}
    (hok : (bootstrap.run.run s).1 = .ok made) :
    ∀ g ∈ bootstrapGroups, ((s.after bootstrap).cache.filter (isDefaultOf g)).length = 1 := by
  obtain ⟨-, ⟨plan, created, hplan, hmade, hcache⟩, -⟩ := bootstrap_spec.of_ok hok
  obtain ⟨hgroups, hdef⟩ := made_groups hmade
  intro g hg
  rw [hcache, List.filter_append, List.length_append, length_filter_isDefaultOf hdef,
    hgroups, (planBootstrap_spec hplan).1]
  have hnodup := nodup_missingDefaults s.cache
  cases hd : hasDefault s.cache g with
  | true =>
    -- the group keeps its default and gets none
    have hout : g ∉ missingDefaults s.cache := fun hm => by
      rw [mem_missingDefaults hm] at hd
      cases hd
    rw [length_filter_isDefaultOf_eq_one h hd, List.count_eq_zero_of_not_mem hout]
  | false =>
    -- the group had none and gets one
    have hin : g ∈ missingDefaults s.cache := List.mem_filter.2 ⟨hg, by simp [hd]⟩
    have hnone : s.cache.filter (isDefaultOf g) = [] := List.filter_eq_nil_iff.2 fun r hr hr' =>
      absurd (hasDefault_eq_true_iff.2 ⟨r, hr, hr'⟩) (by simp [hd])
    rw [hnone, List.count_eq_one_of_mem hnodup hin]
    rfl

theorem bootstrap_run_of_complete {u : Service} {ps : List Provider}
    (hread : u.readProviders = .ok ps) (h : missingDefaults u.cache = []) :
    bootstrap.run.run u = (.ok [], u) := by
  have hplan : planBootstrap u.cache u.providers = .ok [] := planBootstrap_eq_nil_iff.2 h
  have hrun := ends_run bootstrap u
  rw [ends_bootstrap, hread] at hrun
  dsimp only at hrun
  rw [hplan] at hrun
  exact hrun

theorem bootstrap_again {s : Service} {made : List Rule}
    (hok : (bootstrap.run.run s).1 = .ok made) {u : Service}
    (hu : u.cache = (s.after bootstrap).cache) {ps : List Provider}
    (hread : u.readProviders = .ok ps) : bootstrap.run.run u = (.ok [], u) := by
  obtain ⟨-, ⟨plan, created, hplan, hmade, hcache⟩, -⟩ := bootstrap_spec.of_ok hok
  refine bootstrap_run_of_complete hread ?_
  rw [hu, hcache]
  exact missingDefaults_append_made hplan hmade

/-! ## Provisioning -/

/-- Bootstrapping provisions exactly the missing defaults. The plan is empty exactly when both
groups have their default, whatever the providers; with one missing it is refused for want of a
provider exactly when none is listed, and otherwise, where no scope it fills holds the largest
priority, it makes one default per missing group, OpenAI first; with priorities in the 32-bit
range it overflows exactly when a provider is listed and a scope it fills holds the largest. A
bootstrap that returns, from at most one default per group and pattern, leaves exactly one
default in each group, and a second one then makes nothing and changes nothing, whatever
providers the registry lists. -/
theorem bootstrap_provisions_missing :
    (∀ (rules : List Rule) (providers : List Provider),
      (planBootstrap rules providers = .ok [] ↔ DefaultsComplete rules) ∧
      (¬ DefaultsComplete rules →
        (planBootstrap rules providers = .error (.error .noProviderAvailable) ↔
          providers = [])) ∧
      (∀ p ps, (∀ g ∈ missingDefaults rules, ∀ r ∈ rules, r.scope = ⟨g, .path⟩ →
          r.priority < Priority.max) →
        ∃ plan, planBootstrap rules (p :: ps) = .ok plan ∧
          List.Forall₂ (fun g d => ∀ id now, DefaultFor rules p.id g (d.toRule id now))
            (missingDefaults rules) plan) ∧
      ((∀ r ∈ rules, r.priority ≤ Priority.max) →
        (planBootstrap rules providers = .error .overflow ↔
          providers ≠ [] ∧ ∃ g ∈ missingDefaults rules, ScopeFull rules ⟨g, .path⟩))) ∧
    ∀ s : Service, OneDefault s.cache → ∀ made, (bootstrap.run.run s).1 = .ok made →
      (∀ g ∈ bootstrapGroups, ((s.after bootstrap).cache.filter (isDefaultOf g)).length = 1) ∧
      ∀ u : Service, u.cache = (s.after bootstrap).cache → ∀ ps, u.readProviders = .ok ps →
        bootstrap.run.run u = (.ok [], u) :=
  ⟨fun _ _ => ⟨planBootstrap_eq_nil_iff.trans missingDefaults_eq_nil_iff,
      fun hc => planBootstrap_noProvider_iff (mt missingDefaults_eq_nil_iff.1 hc),
      fun p ps hroom => planBootstrap_defaults p ps hroom, planBootstrap_eq_overflow_iff⟩,
    fun _ h _ hok => ⟨bootstrap_one_default_each h hok, fun _ hu _ => bootstrap_again hok hu⟩⟩

/-- An empty service with one provider: no default is there, the plan makes both, and
bootstrapping leaves one of each. -/
theorem empty_service_provisioned :
    let p : Provider := { id := "p1", name := "p1" }
    let s : Service := { store := {}, registry := .fixed [p] }
    (¬ DefaultsComplete [] ∧
      (planBootstrap [] [] = .error (.error .noProviderAvailable) ↔ ([] : List Provider) = [])) ∧
    (∃ plan, planBootstrap [] [p] = .ok plan ∧
      List.Forall₂ (fun g d => ∀ id now, DefaultFor [] p.id g (d.toRule id now))
        (missingDefaults []) plan) ∧
    (planBootstrap [] [p] = .error .overflow ↔
      [p] ≠ [] ∧ ∃ g ∈ missingDefaults [], ScopeFull [] ⟨g, .path⟩) ∧
    OneDefault s.cache ∧ ∃ made, (bootstrap.run.run s).1 = .ok made ∧
      ∀ g ∈ bootstrapGroups, ((s.after bootstrap).cache.filter (isDefaultOf g)).length = 1 := by
  intro p s
  have hnone : ¬ DefaultsComplete ([] : List Rule) := fun h => by
    obtain ⟨r, hr, -⟩ := h .openai (by decide)
    cases hr
  have hok : (bootstrap.run.run s).1.toBool = true := by decide +kernel
  cases hrun : (bootstrap.run.run s).1 with
  | error e =>
    rw [hrun] at hok
    cases hok
  | ok made =>
    exact ⟨⟨hnone, (bootstrap_provisions_missing.1 [] []).2.1 hnone⟩,
      (bootstrap_provisions_missing.1 [] [p]).2.2.1 p [] fun _ _ _ hr => absurd hr List.not_mem_nil,
      (bootstrap_provisions_missing.1 [] [p]).2.2.2 fun _ hr => absurd hr List.not_mem_nil,
      List.Pairwise.nil, made, rfl, (bootstrap_provisions_missing.2 s List.Pairwise.nil made hrun).1⟩

/-- A missing default whose path scope already holds the largest priority cannot be placed past
it: though a provider is listed, the plan stops with an overflow. -/
theorem full_scope_default_overflows :
    let at2025 : Time.Instant := ⟨1735689600, 0⟩
    let top : Rule :=
      { id := "a", kind := .path, group := .openai, provider := "p1", pattern := "/v1/x",
        rewrite := none, priority := Priority.max, enabled := true, createdAt := at2025,
        updatedAt := at2025 }
    missingDefaults [top] = [.openai, .anthropic] ∧
      planBootstrap [top] [{ id := "p1", name := "p1" }] = .error .overflow := by
  decide +kernel

end ProviderRouting
