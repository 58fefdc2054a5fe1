import ProviderRouting.Proofs.Service.Provision
import ProviderRouting.Proofs.Route.Winner
import ProviderRouting.Proofs.Plan.Chain

/-!
# New rules go to the end of their scope

Four operations place a rule after every rule of its scope: a creation at the end, a copy, an
update that moves a rule to another scope, and the bootstrap of the defaults. Each gives the rule
the priority one past the last of its scope as the cache held it (`1` in an empty scope), so
every unlocked rule of the scope is matched before it (`Appended`). A copy is enabled, has an id
no stored rule has, and keeps its source's kind, group, provider, pattern and rewrite.

Priorities are 32-bit. Once its checks have passed, each of these operations stops with an
overflow exactly when the scope it fills already holds the largest priority (`ScopeFull`), and it
stops before any store call, so the store and the cache are as they were (`StopsOnFull`).
`appended_past_scope_end` collects the four.
-/

namespace ProviderRouting

/-! ## One past the last priority -/

section Next

variable {rules : List Rule} {s : Scope}

theorem onePastLast_of_nextPriority {v : Int} (h : nextPriority rules s = .ok v) :
    OnePastLast rules s v := by
  unfold nextPriority at h
  cases hm : (scopePriorities rules s).max? with
  | none =>
    rw [hm, Option.getD_none] at h
    have hv : v = 1 := by simpa using stepUp_eq_ok h
    have hempty : ∀ r ∈ rules, r.scope ≠ s := fun r hr hs => by
      have := mem_scopePriorities hr hs
      rw [List.max?_eq_none_iff.1 hm] at this
      cases this
    exact ⟨fun r hr hs => absurd hs (hempty r hr), .inr ⟨hempty, hv⟩⟩
  | some m =>
    rw [hm, Option.getD_some] at h
    obtain ⟨hmem, hle⟩ := List.max?_eq_some_iff.1 hm
    obtain ⟨r, hr, rfl⟩ := List.mem_map.1 hmem
    obtain ⟨hrm, hrs⟩ := List.mem_filter.1 hr
    have hrs : r.scope = s := by simpa using hrs
    rw [stepUp_eq_ok h]
    exact ⟨fun x hx hxs => Int.lt_add_one_of_le (hle x.priority (mem_scopePriorities hx hxs)),
      .inl ⟨r, hrm, hrs, rfl⟩⟩

theorem nextPriority_cases (hmax : ∀ r ∈ rules, r.priority ≤ Priority.max) :
    (ScopeFull rules s ∧ nextPriority rules s = .error .overflow) ∨
      (¬ ScopeFull rules s ∧ ∃ v, nextPriority rules s = .ok v ∧ OnePastLast rules s v) := by
  cases h : nextPriority rules s with
  | error e =>
    obtain rfl := nextPriority_eq_error h
    exact .inl ⟨(nextPriority_eq_overflow_iff hmax).1 h, rfl⟩
  | ok v =>
    refine .inr ⟨fun hf => ?_, v, rfl, onePastLast_of_nextPriority h⟩
    rw [← nextPriority_eq_overflow_iff hmax, h] at hf
    cases hf

end Next

/-- `r` goes after every rule of its scope in `rules`: its priority is one past their last, `1`
in an empty scope, so every unlocked rule of the scope is matched before it. -/
structure Appended (rules : List Rule) (r : Rule) : Prop where
  past : OnePastLast rules r.scope r.priority
  after : ∀ x ∈ rules, x.scope = r.scope → x.locked = false → Outranks x r

theorem Appended.of_past {rules : List Rule} {r : Rule} (h : OnePastLast rules r.scope r.priority) :
    Appended rules r := by
  refine ⟨h, fun x hx hs hl => ?_⟩
  have hlt := h.1 x hx hs
  unfold Outranks
  cases hr : r.locked
  · exact .inr ⟨by rw [hl], hlt⟩
  · exact .inl ⟨hl, rfl⟩

def StopsOnFull (full : Prop) (s : Service) (e : Failure) (t : Service) : Prop :=
  (e = .overflow ↔ full) ∧ (e = .overflow → Unchanged s t)

theorem StopsOnFull.of_storage {full : Prop} {s t : Service} (h : ¬ full) (x : StoreError) :
    StopsOnFull full s (.error (.storage x)) t := by
  have hne : Failure.error (.storage x) ≠ .overflow := by simp
  exact ⟨⟨fun e => absurd e hne, fun hf => absurd hf h⟩, fun e => absurd e hne⟩

theorem StopsOnFull.of_overflow {full : Prop} {s t : Service} (h : full) (ht : Unchanged s t) :
    StopsOnFull full s .overflow t :=
  ⟨⟨fun _ => h, fun _ => rfl⟩, fun _ => ht⟩

theorem StopsOnFull.run {α : Type} {m : ServiceM α} {ok : α → Service → Prop} {full : Prop}
    {s : Service} (h : Ends m ok (StopsOnFull full s) s) (hok : ∀ a t, ok a t → ¬ full)
    (hf : full) : (m.run.run s).1 = .error .overflow ∧ Unchanged s (s.after m) := by
  rcases hr : (m.run.run s).1 with e | a
  · have he := h.of_error hr
    obtain rfl := he.1.2 hf
    exact ⟨rfl, he.2 rfl⟩
  · exact absurd hf (hok a _ (h.of_ok hr))

theorem Store.insertRule_fresh {st st' : Store} {r : Rule} (h : st.insertRule r = .ok st') :
    ∀ w ∈ st.rules, w.id ≠ r.id := by
  unfold Store.insertRule at h
  split at h
  · cases h
  · rename_i hfresh
    intro w hw e
    exact hfresh (List.any_eq_true.2 ⟨w, hw, by simp [e]⟩)

/-! ## The four operations -/

section Ops

variable {s : Service}

theorem Ends.storeNew_nil {ok : Rule → Service → Prop} {err : Failure → Service → Prop}
    {snap : List Rule} {r : Rule} (h : Ends (persistCreate r) ok err s) :
    Ends (storeNew snap r []) ok err s := by
  unfold storeNew
  dsimp only
  rw [ends_ite, if_neg (by simp), ends_tryCatch]
  refine h.mono (fun _ _ h => h) fun e t h => ?_
  rw [ends_ite, if_neg (by simp), ends_throw]
  exact h

theorem placeNew_of_last {snap : List Rule} {n : NewRule} {t : Time.Instant}
    (h : n.position = .last) :
    placeNew snap n t = (nextPriority snap n.scope).map fun p => (p, []) := by
  unfold placeNew
  rw [h]
  cases nextPriority snap n.scope <;> rfl

theorem create_last_appends (hmax : ∀ r ∈ s.cache, r.priority ≤ Priority.max) {n : NewRule}
    (hlast : n.position = .last) (hc : Guard.checkCreate ⟨s.cache, s.providers⟩ n = .ok ()) :
    Ends (create n) (fun r _ => r.scope = n.scope ∧ ¬ ScopeFull s.cache n.scope ∧ Appended s.cache r)
      (StopsOnFull (ScopeFull s.cache n.scope) s) s := by
  -- a checked creation names a listed provider, so the registry was read
  obtain ⟨_, hp, -⟩ := checkCandidate_listed hc
  unfold create
  rw [ends_bind, ends_snapshot, ends_bind, ends_listProviders, Service.readProviders_of_mem hp]
  dsimp only
  rw [ends_bind, ends_refuse, hc]
  dsimp only
  rw [ends_bind]
  refine ends_now fun t => ?_
  rw [ends_bind, ends_planned, placeNew_of_last hlast]
  rcases nextPriority_cases hmax with ⟨hfull, hnext⟩ | ⟨hfull, v, hnext, hpast⟩
  · rw [hnext]
    exact StopsOnFull.of_overflow hfull ⟨rfl, rfl⟩
  · rw [hnext]
    dsimp only [Except.map]
    rw [ends_bind]
    refine ends_freshId fun _ => ?_
    rw [ends_bind]
    refine ends_now fun _ => ?_
    exact Ends.storeNew_nil (ends_persistCreate _ (fun _ _ => ⟨rfl, hfull, Appended.of_past hpast⟩)
      fun x => StopsOnFull.of_storage hfull x)

/-- `r` copies `x`: the same kind, group, provider, pattern and rewrite. -/
structure Copies (x r : Rule) : Prop where
  kind : r.kind = x.kind
  group : r.group = x.group
  provider : r.provider = x.provider
  pattern : r.pattern = x.pattern
  rewrite : r.rewrite = x.rewrite

/-- A copy is enabled, has an id no stored rule has, copies its source and goes past the last
priority of the source's scope; once checked, the copy overflows exactly when that scope is
full, and then writes nothing. -/
theorem duplicate_appends (hmax : ∀ r ∈ s.cache, r.priority ≤ Priority.max) {id : String}
    {x : Rule} (hx : s.cache.find? (·.id == id) = some x)
    (hc : Guard.checkDuplicate ⟨s.cache, s.providers⟩ x = .ok ()) :
    Ends (duplicate id)
      (fun r _ => Copies x r ∧ r.enabled = true ∧ (∀ w ∈ s.store.rules, w.id ≠ r.id) ∧
        ¬ ScopeFull s.cache x.scope ∧ Appended s.cache r)
      (StopsOnFull (ScopeFull s.cache x.scope) s) s := by
  obtain ⟨_, hp, -⟩ := checkDuplicate_listed hc
  unfold duplicate
  rw [ends_bind, ends_snapshot, ends_bind, ends_findIn, hx]
  dsimp only
  rw [ends_bind, ends_listProviders, Service.readProviders_of_mem hp]
  dsimp only
  rw [ends_bind, ends_refuse, hc]
  dsimp only
  rw [ends_bind, ends_planned]
  rcases nextPriority_cases hmax with ⟨hfull, hnext⟩ | ⟨hfull, v, hnext, hpast⟩
  · rw [hnext]
    exact StopsOnFull.of_overflow hfull ⟨rfl, rfl⟩
  · rw [hnext]
    dsimp only
    rw [ends_bind]
    refine ends_freshId fun _ => ?_
    rw [ends_bind]
    refine ends_now fun _ => ?_
    exact ends_persistCreate _ (fun _ hi => ⟨⟨rfl, rfl, rfl, rfl, rfl⟩, rfl,
      Store.insertRule_fresh hi, hfull, Appended.of_past hpast⟩) fun e => StopsOnFull.of_storage hfull e

/-- An update that moves a rule to another scope puts it past the last priority of that scope,
and one that keeps its scope keeps its priority; once checked, the update overflows exactly when
it moves the rule into a full scope, and then writes nothing. -/
theorem update_appends (hmax : ∀ r ∈ s.cache, r.priority ≤ Priority.max) {id : String}
    {p : Patch} {x c : Rule} (hx : s.cache.find? (·.id == id) = some x)
    (hc : Guard.checkUpdate ⟨s.cache, s.providers⟩ x p = .ok c) :
    Ends (update id p)
      (fun r _ => r.scope = c.scope ∧ (c.scope = x.scope → r.priority = x.priority) ∧
        (c.scope ≠ x.scope → ¬ ScopeFull s.cache c.scope ∧ Appended s.cache r))
      (StopsOnFull (c.scope ≠ x.scope ∧ ScopeFull s.cache c.scope) s) s := by
  obtain ⟨rfl, hcand, -⟩ := checkUpdate_spec hc
  obtain ⟨_, hp, -⟩ := checkCandidate_listed hcand
  unfold update
  rw [ends_bind, ends_snapshot, ends_bind, ends_findIn, hx]
  dsimp only
  rw [ends_bind, ends_listProviders, Service.readProviders_of_mem hp]
  dsimp only
  rw [ends_bind, ends_refuse, hc]
  dsimp only
  rw [ends_ite]
  split
  · rename_i hscope
    -- a rule that keeps its scope keeps its priority, and no step can overflow
    rw [ends_bind, ends_pure, ends_bind]
    refine ends_now fun _ => ?_
    exact ends_persistUpdate _ (fun _ _ => ⟨rfl, fun _ => rfl, fun h => absurd hscope h⟩)
      fun e => StopsOnFull.of_storage (fun h => h.1 hscope) e
  · rename_i hscope
    rw [ends_bind, ends_planned]
    rcases nextPriority_cases hmax with ⟨hfull, hnext⟩ | ⟨hfull, v, hnext, hpast⟩
    · rw [hnext]
      exact StopsOnFull.of_overflow ⟨hscope, hfull⟩ ⟨rfl, rfl⟩
    · rw [hnext]
      dsimp only
      rw [ends_bind, ends_pure, ends_bind]
      refine ends_now fun _ => ?_
      exact ends_persistUpdate _ (fun _ _ => ⟨rfl, fun h => absurd h hscope,
        fun _ => ⟨hfull, Appended.of_past hpast⟩⟩) fun e => StopsOnFull.of_storage (fun h => hfull h.2) e

/-- The defaults a bootstrap makes go past the last priority of their scopes; the bootstrap
overflows exactly when a provider is listed and the path scope of a group missing its default is
full, and then writes nothing. -/
theorem bootstrap_appends (hmax : ∀ r ∈ s.cache, r.priority ≤ Priority.max) :
    Ends bootstrap
      (fun _ t => ¬ (s.providers ≠ [] ∧ ∃ g ∈ missingDefaults s.cache, ScopeFull s.cache ⟨g, .path⟩) ∧
        ∃ made, t.cache = s.cache ++ made ∧ ∀ r ∈ made, Appended s.cache r)
      (StopsOnFull (s.providers ≠ [] ∧
        ∃ g ∈ missingDefaults s.cache, ScopeFull s.cache ⟨g, .path⟩) s) s := by
  have hiff : planBootstrap s.cache s.providers = .error .overflow ↔ _ :=
    planBootstrap_eq_overflow_iff hmax
  by_cases hf : s.providers ≠ [] ∧ ∃ g ∈ missingDefaults s.cache, ScopeFull s.cache ⟨g, .path⟩
  · -- a provider is listed, so the registry was read, and the plan overflows before any store call
    obtain ⟨p, hp⟩ := List.exists_mem_of_ne_nil _ hf.1
    rw [ends_bootstrap, Service.readProviders_of_mem hp]
    dsimp only
    rw [hiff.2 hf]
    exact StopsOnFull.of_overflow hf ⟨rfl, rfl⟩
  · refine bootstrap_spec.mono (fun _ t ⟨_, ⟨plan, made, hplan, hmade, hcache⟩, _⟩ => ?_)
      fun e t h => ?_
    · refine ⟨hf, made, hcache, fun r hr => ?_⟩
      obtain ⟨d, hd, id, now, rfl⟩ := exists_of_forall₂ hmade.flip hr
      exact Appended.of_past (onePastLast_of_nextPriority ((planBootstrap_spec hplan).2 d hd))
    · rcases h with ⟨-, hplan, rfl⟩ | ⟨x, rfl⟩
      · exact ⟨by rw [← hiff, hplan, Except.error.injEq], fun _ => ⟨rfl, rfl⟩⟩
      · exact StopsOnFull.of_storage hf x

end Ops

/-- Creating at the end, copying, moving to another scope and bootstrapping each put the rule
past the last priority of its scope, after every unlocked rule there; once their checks pass,
each overflows exactly when that scope is full, and then writes nothing. -/
theorem appended_past_scope_end (s : Service) (hmax : ∀ r ∈ s.cache, r.priority ≤ Priority.max) :
    (∀ n : NewRule, n.position = .last → Guard.checkCreate ⟨s.cache, s.providers⟩ n = .ok () →
      Ends (create n)
        (fun r _ => r.scope = n.scope ∧ ¬ ScopeFull s.cache n.scope ∧ Appended s.cache r)
        (StopsOnFull (ScopeFull s.cache n.scope) s) s) ∧
    (∀ id x, s.cache.find? (·.id == id) = some x →
      Guard.checkDuplicate ⟨s.cache, s.providers⟩ x = .ok () →
      Ends (duplicate id)
        (fun r _ => Copies x r ∧ r.enabled = true ∧ (∀ w ∈ s.store.rules, w.id ≠ r.id) ∧
          ¬ ScopeFull s.cache x.scope ∧ Appended s.cache r)
        (StopsOnFull (ScopeFull s.cache x.scope) s) s) ∧
    (∀ id p x c, s.cache.find? (·.id == id) = some x →
      Guard.checkUpdate ⟨s.cache, s.providers⟩ x p = .ok c →
      Ends (update id p)
        (fun r _ => r.scope = c.scope ∧ (c.scope = x.scope → r.priority = x.priority) ∧
          (c.scope ≠ x.scope → ¬ ScopeFull s.cache c.scope ∧ Appended s.cache r))
        (StopsOnFull (c.scope ≠ x.scope ∧ ScopeFull s.cache c.scope) s) s) ∧
    Ends bootstrap
      (fun _ t => ¬ (s.providers ≠ [] ∧ ∃ g ∈ missingDefaults s.cache, ScopeFull s.cache ⟨g, .path⟩) ∧
        ∃ made, t.cache = s.cache ++ made ∧ ∀ r ∈ made, Appended s.cache r)
      (StopsOnFull (s.providers ≠ [] ∧
        ∃ g ∈ missingDefaults s.cache, ScopeFull s.cache ⟨g, .path⟩) s) s :=
  ⟨fun _ hlast hc => create_last_appends hmax hlast hc,
    fun _ _ hx hc => duplicate_appends hmax hx hc,
    fun _ _ _ _ hx hc => update_appends hmax hx hc,
    bootstrap_appends hmax⟩

/-- A model rule at the largest priority fills its scope: a rule created after it overflows, and
the store and the cache stay as they were. -/
theorem full_scope_append_overflows :
    let at2025 : Time.Instant := ⟨1735689600, 0⟩
    let top : Rule :=
      { id := "a", kind := .model, group := .openai, provider := "p1", pattern := "gpt-*",
        rewrite := none, priority := Priority.max, enabled := true, createdAt := at2025,
        updatedAt := at2025 }
    let s : Service :=
      { store := { rules := [Row.ofRule top] }, registry := .fixed [{ id := "p1", name := "p1" }],
        cache := [top] }
    let n : NewRule :=
      { kind := .model, group := .openai, provider := "p1", pattern := "o1-*", position := .last }
    ((create n).run.run s).1 = .error .overflow ∧ Unchanged s (s.after (create n)) := by
  intro at2025 top s n
  have hmax : ∀ r ∈ s.cache, r.priority ≤ Priority.max := by simp [s, top]
  have hc : Guard.checkCreate ⟨s.cache, s.providers⟩ n = .ok () := by decide +kernel
  have hfull : ScopeFull s.cache n.scope := by
    unfold ScopeFull
    decide +kernel
  exact StopsOnFull.run ((appended_past_scope_end s hmax).1 n rfl hc) (fun _ _ h => h.2.1) hfull

end ProviderRouting
