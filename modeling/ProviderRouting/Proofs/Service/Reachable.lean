import ProviderRouting.Proofs.Service.Operations
import ProviderRouting.Requests.Session

/-!
# Reachable services

A service is reachable when it was loaded from a store whose rule rows have distinct ids, the
load returned, and then any operations ran on it, each returning or failing: those of the rule
editor, reloads, provider removals and registry events, changes to the provider registry, and
the switches that make store calls fail. Edits of the store behind the service's back are not
among them.

In a reachable service no two rules of one group and kind share a priority, and the store reads
back the rules of the cache. An operation that removes no provider keeps every locked default in
its place, and so does a removal while another provider is listed to take the defaults over.
-/

namespace ProviderRouting

/-! ## Loading -/

theorem dropDefaults_spec : ∀ (ids : List String) (rules : List Rule) (s : Service)
    {rest : List Rule} {res : Except StoreError Unit} {t : Service},
    Mirrors s.store rules → (dropDefaults ids rules).run s = ((rest, res), t) →
    Mirrors t.store rest ∧ (res = .ok () → rest = rules.filter fun r => r.id ∉ ids)
  | [], rules, s, _, _, _, hm, h => by
    cases h
    exact ⟨hm, fun _ => by simp⟩
  | id :: ids, rules, s, rest, res, t, hm, h => by
    have hd := ends_run (deleteRule id) s
    rw [ends_deleteRule] at hd
    unfold dropDefaults at h
    rw [StateT.run_bind] at h
    split_ifs at hd
    · rw [hd] at h
      cases h
      exact ⟨hm, fun e => by cases e⟩
    · rw [hd] at h
      cases h
      exact ⟨hm, fun e => by cases e⟩
    · rw [hd] at h
      obtain ⟨hm', hrest⟩ := dropDefaults_spec ids _ _ (hm.delete id) h
      refine ⟨hm', fun hres => ?_⟩
      rw [hrest hres, List.filter_filter]
      congr 1
      funext r
      by_cases e : r.id = id <;> simp [e]

theorem keyed_applyAssignments {rules : List Rule} (plan : List Assignment) (hk : Keyed rules) :
    Keyed (applyAssignments rules plan) := by
  induction plan generalizing rules with
  | nil => exact hk
  | cons a plan ih =>
    show Keyed (applyAssignments (applyAssignment a rules) plan)
    refine ih ?_
    unfold Keyed
    rw [map_id_applyAssignment]
    exact hk

theorem oneDefault_applyAssignments {rules : List Rule} (plan : List Assignment) (hk : Keyed rules)
    (h : OneDefault rules) : OneDefault (applyAssignments rules plan) := by
  induction plan generalizing rules with
  | nil => exact h
  | cons a plan ih =>
    show OneDefault (applyAssignments (applyAssignment a rules) plan)
    refine ih (keyed_applyAssignments [a] hk) ?_
    rw [applyAssignment_eq_map a hk]
    refine List.pairwise_map.2 (h.imp fun {x y} hd => ?_)
    by_cases hx : x.id = a.id <;> by_cases hy : y.id = a.id <;>
      simpa [hx, hy, DefaultsApart, Rule.locked] using hd

theorem renumberTies_spec {rules : List Rule} {s : Service} (hm : Mirrors s.store rules)
    (hk : Keyed rules) :
    Ends (renumberTies rules)
      (fun out t => out.2 = .ok () → Mirrors t.store out.1 ∧ Keyed out.1 ∧ Separated out.1 ∧
        (OneDefault rules → OneDefault out.1))
      (fun _ _ => True) s := by
  refine ends_renumberTies (fun _ hplan _ => ?_) (fun _ plan _ hplan _ hw _ => ?_)
    (fun _ _ _ _ _ h => by cases h) fun _ _ _ => trivial
  · -- an empty plan: the rules were separated already
    exact ⟨hm, hk, separated_tieBreak hk hplan, id⟩
  · exact ⟨hm.writeAssignments plan hk hw, keyed_applyAssignments plan hk,
      separated_tieBreak hk hplan, oneDefault_applyAssignments plan hk⟩

theorem reload_sound {s : Service} (hk : (s.store.rules.map (·.id)).Nodup) :
    Ends reload (fun _ => Sound) (fun _ _ => True) s := by
  refine ends_reload (fun _ _ => trivial) fun rs _ hrs => ?_
  have hm := mirrors_of_allRules hrs
  have hkr := hm.keyed hk
  rcases hd : (dropDefaults (duplicateDefaults rs) rs).run s.tick with ⟨⟨rest, res⟩, t⟩
  obtain ⟨hm', hrest⟩ := dropDefaults_spec _ _ s.tick hm hd
  cases res with
  | error e => trivial
  | ok u =>
    cases u
    obtain rfl := hrest rfl
    refine (renumberTies_spec hm' (hkr.sublist List.filter_sublist)).mono
      (fun out t' hout => ?_) fun _ _ _ => trivial
    split
    · trivial
    · rename_i hok
      obtain ⟨hm'', hk'', hs'', ho''⟩ := hout hok
      have hsound : Sound { t' with cache := out.1 } :=
        ⟨hm'', hk'', hs'', ho'' (oneDefault_filter_duplicateDefaults hkr)⟩
      split
      · exact (ends_unlessNoProvider ((bootstrap_safe hsound).mono (fun _ _ h => h.sound)
          fun _ _ h => h.sound)).mono (fun _ _ h => h) fun _ _ _ => trivial
      · exact hsound


/-! ## Operations -/

/-- What a caller can do to a service. -/
inductive Op where
  | create (n : NewRule)
  | update (id : String) (p : Patch)
  | delete (id : String)
  | duplicate (id : String)
  | reorder (ids : List String)
  | bootstrap
  | setDefault (g : Group) (edit : DefaultEdit)
  | applyRemoval (removal : Removal)
  | reconcile (provider : String)
  | event (e : Event)
  | watch (capacity : Nat) (events : List Event)
  | reload
  | faults (f : Faults)
  | addProvider (p : Provider)
  | removeProvider (id : String)

def Service.after {ε α : Type} (s : Service) (m : ExceptT ε (StateM Service) α) : Service :=
  (m.run.run s).2

def perform : Op → Service → Service
  | .create n, s => s.after (create n)
  | .update id p, s => s.after (update id p)
  | .delete id, s => s.after (delete id)
  | .duplicate id, s => s.after (duplicate id)
  | .reorder ids, s => s.after (reorder ids)
  | .bootstrap, s => s.after bootstrap
  | .setDefault g edit, s => s.after (setDefault g edit)
  | .applyRemoval rm, s => s.after (applyRemoval rm)
  | .reconcile provider, s => s.after (reconcile provider)
  | .event e, s => s.after (handleEvent e)
  | .watch capacity events, s => s.after (watch capacity events)
  | .reload, s => s.after reload
  | .faults f, s => { s with faults := f }
  | .addProvider p, s => s.after (Requests.addProvider p)
  | .removeProvider id, s => s.after (Requests.removeProvider id)

def Op.removes : Op → Bool
  | .applyRemoval _ | .reconcile _ => true
  | .event e => e.removes
  | .watch _ events => events.any Event.removes
  | _ => false

section Step

variable {ε α : Type} {m : ExceptT ε (StateM Service) α} {s : Service}

theorem ends_iff_after {ok : α → Service → Prop} {err : ε → Service → Prop} :
    Ends m ok err s ↔ match (m.run.run s).1 with
      | .ok a => ok a (s.after m)
      | .error e => err e (s.after m) := by
  unfold Ends Service.after
  rcases m.run.run s with ⟨_ | a, t⟩ <;> exact Iff.rfl

theorem Ends.final {P : Service → Prop} (h : Ends m (fun _ => P) (fun _ => P) s) :
    P (s.after m) := by
  rw [ends_iff_after] at h
  split at h <;> exact h

theorem Ends.of_ok {ok : α → Service → Prop} {err : ε → Service → Prop} (h : Ends m ok err s)
    {a : α} (hok : (m.run.run s).1 = .ok a) : ok a (s.after m) := by
  rw [ends_iff_after, hok] at h
  exact h

theorem Ends.of_error {ok : α → Service → Prop} {err : ε → Service → Prop} (h : Ends m ok err s)
    {e : ε} (he : (m.run.run s).1 = .error e) : err e (s.after m) := by
  rw [ends_iff_after, he] at h
  exact h

theorem perform_safe (h : Sound s) (o : Op) (ho : o.removes = false) : Safe s (perform o s) := by
  cases o with
  | create n => exact (create_safe h n).final
  | update id p => exact (update_safe h id p).final
  | delete id => exact (delete_safe h id).final
  | duplicate id => exact (duplicate_safe h id).final
  | reorder ids => exact (reorder_safe h ids).final
  | bootstrap => exact (bootstrap_safe h).final
  | setDefault g edit => exact (setDefault_safe h g edit).final
  | applyRemoval _ => cases ho
  | reconcile _ => cases ho
  | event e => exact (handleEvent_safe h e ho).final
  | watch capacity events =>
    have he : ∀ e ∈ events, e.removes = false := by simpa [Op.removes] using ho
    exact (watch_safe h capacity events he).final
  | reload => exact (reload_safe h).final
  | faults f => exact Safe.of_same h rfl rfl
  | addProvider p =>
    refine Ends.final (m := Requests.addProvider p) ?_
    unfold Requests.addProvider
    rw [ends_modify]
    split <;> exact Safe.of_same h rfl rfl
  | removeProvider id =>
    refine Ends.final (m := Requests.removeProvider id) ?_
    unfold Requests.removeProvider
    rw [ends_bind, ends_get]
    split
    · rw [ends_bind, ends_set, ends_pure]
      exact Safe.of_same h rfl rfl
    · split
      · rw [ends_pure]
        exact Safe.refl h
      · rw [ends_bind, ends_set, ends_pure]
        exact Safe.of_same h rfl rfl

theorem perform_sound (h : Sound s) (o : Op) : Sound (perform o s) := by
  cases ho : o.removes with
  | false => exact (perform_safe h o ho).sound
  | true =>
    cases o
    case applyRemoval rm => exact (applyRemoval_sound h rm).final
    case reconcile provider => exact (reconcile_sound h provider).final
    case event e => exact (handleEvent_sound h e).final
    case watch capacity events => exact (watch_sound h capacity events).final
    all_goals cases ho

end Step

/-! ## Reachable services -/

/-- The services a caller can reach: a load that returned, from a store whose rule rows have
distinct ids, and then any operations, each returning or failing. -/
inductive Reachable : Service → Prop
  | load {s : Service} (hk : (s.store.rules.map (·.id)).Nodup) (hok : s.load.1 = .ok ()) :
      Reachable s.load.2
  | step {s : Service} (o : Op) : Reachable s → Reachable (perform o s)

theorem Reachable.sound {s : Service} (h : Reachable s) : Sound s := by
  induction h with
  | load hk hok => exact (reload_sound hk).of_ok hok
  | step o _ ih => exact perform_sound ih o

/-- In every reachable service no two rules of one group and kind share a priority, and the
store reads back the rules of the cache. -/
theorem reachable_priorities_distinct {s : Service} (h : Reachable s) :
    s.cache.Pairwise (fun a b => a.group = b.group → a.kind = b.kind → a.priority ≠ b.priority) ∧
      ∃ rules, s.store.allRules = .ok rules ∧ rules.Perm s.cache := by
  have hs := h.sound
  obtain ⟨rules, hread, hperm, -⟩ := hs.mirrors.allRules
  refine ⟨hs.separated.imp fun {a b} hab hg hk => hab ?_, rules, hread, hperm⟩
  simp [Rule.scope, hg, hk]

/-- A custom OpenAI path rule created after loading an empty store with one provider: it shares
its scope with the OpenAI default the load made. -/
theorem loaded_priorities_distinct :
    let n : NewRule := { kind := .path, group := .openai, provider := "p1", pattern := "/v1/chat" }
    let s : Service := perform (.create n)
      ({ store := {}, registry := .fixed [{ id := "p1", name := "p1" }] } : Service).load.2
    (s.cache.filter (·.scope == ⟨.openai, .path⟩)).length = 2 ∧
    s.cache.Pairwise (fun a b => a.group = b.group → a.kind = b.kind → a.priority ≠ b.priority) ∧
      ∃ rules, s.store.allRules = .ok rules ∧ rules.Perm s.cache :=
  ⟨by decide +kernel,
    reachable_priorities_distinct (.step _ (.load (by decide) (by decide +kernel)))⟩

/-- In every reachable service, an operation that removes no provider, or a removal while
another provider is listed, leaves every locked default locked and in its place. -/
theorem locked_rules_kept {s : Service} (h : Reachable s) (o : Op)
    (hkeep : o.removes = false ∨
      ∃ rm, o = .applyRemoval rm ∧ ∃ p ∈ s.providers, p.id ≠ rm.provider) :
    ∀ r ∈ s.cache, r.locked = true →
      ∃ r' ∈ (perform o s).cache, r'.locked = true ∧ KeepsPlace r r' := by
  intro r hr hl
  have hs := h.sound
  have hretains : Retains s.cache (perform o s).cache := by
    rcases hkeep with ho | ⟨rm, rfl, hfallback⟩
    · exact (perform_safe hs o ho).retains
    · exact ((applyRemoval_removing hs rm).final.retains hfallback)
  obtain ⟨r', hr', hp⟩ := hretains r hr hl
  exact ⟨r', hr', hp.locked.trans hl, hp⟩

/-- Loading an empty store with one provider makes the two locked defaults; disabling the OpenAI
one writes it, and both stay locked and in place. -/
theorem loaded_locked_rules_kept :
    let s : Service :=
      ({ store := {}, registry := .fixed [{ id := "p1", name := "p1" }] } : Service).load.2
    let o : Op := .setDefault .openai { enabled := some false }
    (s.cache.filter (·.locked)).length = 2 ∧
    ((perform o s).cache.filter fun r => r.locked && !r.enabled).length = 1 ∧
    ∀ r ∈ s.cache, r.locked = true →
      ∃ r' ∈ (perform o s).cache, r'.locked = true ∧ KeepsPlace r r' :=
  ⟨by decide +kernel, by decide +kernel,
    locked_rules_kept (.load (by decide) (by decide +kernel)) _ (.inl rfl)⟩

end ProviderRouting
