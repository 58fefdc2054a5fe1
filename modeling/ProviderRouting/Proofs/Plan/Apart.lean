import ProviderRouting.Plan.Priority
import Mathlib.Data.List.Pairwise
import Mathlib.Data.List.Nodup

/-!
# Priorities kept apart

`Separated rules`: no two rules of one scope share a priority. `Keyed rules`: no two share an
id. A plan is applied rule by rule (`applyAssignments_eq_map`), so it keeps rules separated when
it moves each rule at most once, to a priority that no rule it leaves in place holds in that
scope, and moves no two rules of a scope to one priority (`KeepsApart`).

`nextPriority` gives a priority past every rule of its scope, and `planReorder` a plan that
keeps rules apart and moves no locked rule.
-/

namespace ProviderRouting

theorem bind_eq_ok {ε α β : Type} {x : Except ε α} {f : α → Except ε β} {b : β}
    (h : (x >>= f) = .ok b) : ∃ a, x = .ok a ∧ f a = .ok b := by
  cases x with
  | error e => cases h
  | ok a => exact ⟨a, rfl, h⟩

theorem map_eq_ok {ε α β : Type} {x : Except ε α} {f : α → β} {b : β}
    (h : x.map f = .ok b) : ∃ a, x = .ok a ∧ f a = b := by
  cases x with
  | error e => cases h
  | ok a => exact ⟨a, rfl, Except.ok.inj h⟩

theorem map_eq_error {ε α β : Type} {x : Except ε α} {f : α → β} {e : ε}
    (h : x.map f = .error e) : x = .error e := by
  cases x with
  | error e' =>
    cases h
    rfl
  | ok a => cases h

theorem stepUp_eq_ok {p q : Int} (h : stepUp p = .ok q) : q = p + 1 := by
  unfold stepUp Priority.succ? at h
  by_cases hp : p < Priority.max
  · simp only [hp, if_true, Except.ok.injEq] at h
    exact h.symm
  · simp [hp] at h

/-! ## Separated and keyed rules -/

def Apart (a b : Rule) : Prop := a.scope = b.scope → a.priority ≠ b.priority

instance : Std.Symm Apart := ⟨fun _ _ h hs hp => h hs.symm hp.symm⟩

def Separated (rules : List Rule) : Prop := rules.Pairwise Apart

def Keyed (rules : List Rule) : Prop := (rules.map (·.id)).Nodup

theorem Keyed.eq_of_id {rules : List Rule} (hk : Keyed rules) {a b : Rule} (ha : a ∈ rules)
    (hb : b ∈ rules) (h : a.id = b.id) : a = b :=
  List.inj_on_of_nodup_map hk ha hb h

theorem Keyed.pairwise {rules : List Rule} {R : Rule → Rule → Prop} (hk : Keyed rules)
    (h : ∀ a ∈ rules, ∀ b ∈ rules, a.id ≠ b.id → R a b) : rules.Pairwise R :=
  (List.pairwise_map.1 hk).imp_of_mem fun ha hb hne => h _ ha _ hb hne

theorem Keyed.find?_eq {rules : List Rule} (hk : Keyed rules) {r : Rule} (hr : r ∈ rules) :
    rules.find? (·.id == r.id) = some r := by
  cases h : rules.find? (·.id == r.id) with
  | none => exact absurd (List.find?_eq_none.1 h r hr) (by simp)
  | some r' =>
    have e : r'.id = r.id := by simpa using List.find?_some h
    rw [hk.eq_of_id (List.mem_of_find?_eq_some h) hr e]

theorem Keyed.eq_of_find? {rules : List Rule} (hk : Keyed rules) {id : String} {x y : Rule}
    (hx : rules.find? (·.id == id) = some x) (hy : y ∈ rules) (e : y.id = id) : y = x := by
  have hxid : x.id = id := by simpa using List.find?_some hx
  exact hk.eq_of_id hy (List.mem_of_find?_eq_some hx) (e.trans hxid.symm)

theorem Keyed.sublist {l₁ l₂ : List Rule} (h : l₁.Sublist l₂) (hk : Keyed l₂) : Keyed l₁ :=
  (h.map _).nodup hk

theorem Separated.apart {rules : List Rule} (hs : Separated rules) {a b : Rule} (ha : a ∈ rules)
    (hb : b ∈ rules) (h : a.id ≠ b.id) : Apart a b :=
  hs.forall ha hb fun e => h (congrArg Rule.id e)

theorem Separated.append {rules : List Rule} {r : Rule} (hs : Separated rules)
    (hr : ∀ x ∈ rules, Apart x r) : Separated (rules ++ [r]) :=
  List.pairwise_append.2 ⟨hs, List.pairwise_singleton _ _, fun x hx y hy => by
    rw [List.mem_singleton] at hy
    exact hy ▸ hr x hx⟩

/-! ## Applying a plan -/

def reassign (plan : List Assignment) (r : Rule) : Rule :=
  match plan.find? (·.id == r.id) with
  | some a => { r with priority := a.priority, updatedAt := a.stamp }
  | none => r

theorem reassign_of_find? {plan : List Assignment} {r : Rule} {a : Assignment}
    (h : plan.find? (·.id == r.id) = some a) :
    reassign plan r = { r with priority := a.priority, updatedAt := a.stamp } := by
  rw [reassign, h]

theorem find?_id_eq_none {plan : List Assignment} {id : String} :
    plan.find? (·.id == id) = none ↔ id ∉ plan.map (·.id) := by
  simp [List.find?_eq_none]

theorem reassign_of_not_mem {plan : List Assignment} {r : Rule} (h : r.id ∉ plan.map (·.id)) :
    reassign plan r = r := by
  rw [reassign, find?_id_eq_none.2 h]

theorem mem_of_find?_id {plan : List Assignment} {id : String} {a : Assignment}
    (h : plan.find? (·.id == id) = some a) : a ∈ plan ∧ a.id = id :=
  ⟨List.mem_of_find?_eq_some h, by simpa using List.find?_some h⟩

@[simp] theorem reassign_id (plan : List Assignment) (r : Rule) : (reassign plan r).id = r.id := by
  unfold reassign; split <;> rfl

@[simp] theorem reassign_scope (plan : List Assignment) (r : Rule) :
    (reassign plan r).scope = r.scope := by
  unfold reassign; split <;> rfl

@[simp] theorem reassign_group (plan : List Assignment) (r : Rule) :
    (reassign plan r).group = r.group := by
  unfold reassign; split <;> rfl

@[simp] theorem reassign_kind (plan : List Assignment) (r : Rule) :
    (reassign plan r).kind = r.kind := by
  unfold reassign; split <;> rfl

@[simp] theorem reassign_pattern (plan : List Assignment) (r : Rule) :
    (reassign plan r).pattern = r.pattern := by
  unfold reassign; split <;> rfl

@[simp] theorem reassign_createdAt (plan : List Assignment) (r : Rule) :
    (reassign plan r).createdAt = r.createdAt := by
  unfold reassign; split <;> rfl

theorem applyAssignment_eq_map (a : Assignment) : ∀ {rules : List Rule}, Keyed rules →
    applyAssignment a rules = rules.map fun r =>
      if r.id = a.id then { r with priority := a.priority, updatedAt := a.stamp } else r
  | [], _ => rfl
  | r :: rs, hk => by
    obtain ⟨hr, hk⟩ := List.nodup_cons.1 hk
    by_cases h : r.id = a.id
    · -- no later rule has the id, so the first match is the only one
      have hrest : ∀ x ∈ rs, x.id ≠ a.id := fun x hx e => hr (by
        show r.id ∈ rs.map (·.id)
        rw [h, ← e]; exact List.mem_map_of_mem hx)
      simp only [applyAssignment, h, if_true, List.map_cons]
      rw [List.map_congr_left fun x hx => if_neg (hrest x hx), List.map_id']
    · simp only [applyAssignment, h, if_false, List.map_cons, applyAssignment_eq_map a hk]

theorem map_id_applyAssignment (a : Assignment) :
    ∀ rules : List Rule, (applyAssignment a rules).map (·.id) = rules.map (·.id)
  | [] => rfl
  | r :: rs => by
    unfold applyAssignment
    split
    · rfl
    · simp only [List.map_cons, map_id_applyAssignment a rs]

theorem reassign_cons {a : Assignment} {plan : List Assignment} (ha : a.id ∉ plan.map (·.id))
    (r : Rule) : reassign (a :: plan) r = reassign plan
      (if r.id = a.id then { r with priority := a.priority, updatedAt := a.stamp } else r) := by
  by_cases h : r.id = a.id
  · have hfind : (a :: plan).find? (·.id == r.id) = some a :=
      List.find?_cons_of_pos (by simp [h])
    rw [if_pos h, reassign_of_find? hfind, reassign_of_not_mem (h ▸ ha)]
  · rw [if_neg h]
    unfold reassign
    rw [List.find?_cons_of_neg (by simp only [beq_iff_eq]; exact fun e => h e.symm)]

theorem applyAssignments_eq_map : ∀ {rules : List Rule} {plan : List Assignment}, Keyed rules →
    (plan.map (·.id)).Nodup → applyAssignments rules plan = rules.map (reassign plan)
  | rules, [], _, _ => by
    rw [applyAssignments, List.foldl_nil, List.map_congr_left fun r _ => reassign_of_not_mem
      (List.not_mem_nil), List.map_id']
  | rules, a :: plan, hk, hp => by
    obtain ⟨ha, hp⟩ := List.nodup_cons.1 hp
    have hk' : Keyed (applyAssignment a rules) := by
      unfold Keyed; rw [map_id_applyAssignment]; exact hk
    change applyAssignments (applyAssignment a rules) plan = _
    rw [applyAssignments_eq_map hk' hp, applyAssignment_eq_map a hk, List.map_map]
    exact List.map_congr_left fun r _ => (reassign_cons ha r).symm

theorem keyed_map_reassign {rules : List Rule} (plan : List Assignment) (hk : Keyed rules) :
    Keyed (rules.map (reassign plan)) := by
  unfold Keyed at hk ⊢
  rw [List.map_map]
  simpa [Function.comp_def] using hk

/-! ## Plans that keep rules apart -/

/-- A plan that names each rule at most once, moves a rule only to a priority that no rule it
leaves in place holds in the rule's scope, and moves no two rules of one scope to one
priority. -/
structure KeepsApart (rules : List Rule) (plan : List Assignment) : Prop where
  nodup : (plan.map (·.id)).Nodup
  free : ∀ a ∈ plan, ∀ r ∈ rules, r.id = a.id → ∀ x ∈ rules, x.id ∉ plan.map (·.id) →
    x.scope = r.scope → x.priority ≠ a.priority
  apart : ∀ a ∈ plan, ∀ b ∈ plan, a ≠ b → ∀ ra ∈ rules, ra.id = a.id → ∀ rb ∈ rules,
    rb.id = b.id → ra.scope = rb.scope → a.priority ≠ b.priority

theorem separated_applyAssignments {rules : List Rule} {plan : List Assignment} (hk : Keyed rules)
    (hp : KeepsApart rules plan)
    (hs : ∀ x ∈ rules, ∀ y ∈ rules, x.id ≠ y.id → x.id ∉ plan.map (·.id) →
      y.id ∉ plan.map (·.id) → Apart x y) :
    Separated (applyAssignments rules plan) := by
  rw [applyAssignments_eq_map hk hp.nodup]
  apply (keyed_map_reassign plan hk).pairwise
  simp only [List.mem_map]
  rintro _ ⟨x, hx, rfl⟩ _ ⟨y, hy, rfl⟩ hne hscope
  simp only [reassign_id, reassign_scope] at hne hscope
  cases fx : plan.find? (·.id == x.id) with
  | none =>
    cases fy : plan.find? (·.id == y.id) with
    | none =>
      rw [reassign_of_not_mem (find?_id_eq_none.1 fx), reassign_of_not_mem (find?_id_eq_none.1 fy)]
      exact hs x hx y hy hne (find?_id_eq_none.1 fx) (find?_id_eq_none.1 fy) hscope
    | some b =>
      obtain ⟨hb, hby⟩ := mem_of_find?_id fy
      rw [reassign_of_not_mem (find?_id_eq_none.1 fx), reassign_of_find? fy]
      exact hp.free b hb y hy hby.symm x hx (find?_id_eq_none.1 fx) hscope
  | some a =>
    obtain ⟨ha, hax⟩ := mem_of_find?_id fx
    cases fy : plan.find? (·.id == y.id) with
    | none =>
      rw [reassign_of_find? fx, reassign_of_not_mem (find?_id_eq_none.1 fy)]
      exact Ne.symm (hp.free a ha x hx hax.symm y hy (find?_id_eq_none.1 fy) hscope.symm)
    | some b =>
      obtain ⟨hb, hby⟩ := mem_of_find?_id fy
      rw [reassign_of_find? fx, reassign_of_find? fy]
      have hab : a ≠ b := fun e => hne (hax ▸ hby ▸ congrArg Assignment.id e)
      exact hp.apart a ha b hb hab x hx hax.symm y hy hby.symm hscope

/-! ## A priority past the end -/

theorem lt_nextPriority {rules : List Rule} {s : Scope} {p : Int}
    (h : nextPriority rules s = .ok p) : ∀ x ∈ rules, x.scope = s → x.priority < p := by
  intro x hx hs
  have hmem : x.priority ∈ scopePriorities rules s :=
    List.mem_map_of_mem (List.mem_filter.2 ⟨hx, by simp [hs]⟩)
  obtain ⟨m, hm⟩ := Option.isSome_iff_exists.1 (List.isSome_max?_of_mem hmem)
  rw [nextPriority, hm, Option.getD_some] at h
  rw [stepUp_eq_ok h]
  have := (List.max?_eq_some_iff.1 hm).2 _ hmem
  omega

/-! ## Plans made of one block per scope -/

theorem Keyed.scope_eq {rules : List Rule} (hk : Keyed rules) {r x : Rule} (hr : r ∈ rules)
    (hx : x ∈ rules) (h : r.id = x.id) : r.scope = x.scope := by
  rw [hk.eq_of_id hr hx h]

theorem pairwise_rel_of_ne {α : Type} {R : α → α → Prop} (hR : ∀ a b, R a b → R b a)
    {l : List α} (h : l.Pairwise R) {a b : α} (ha : a ∈ l) (hb : b ∈ l) (hab : a ≠ b) : R a b :=
  haveI : Std.Symm R := ⟨hR⟩
  h.forall ha hb hab

theorem ne_of_pairwise_lt {l : List Assignment} (h : l.Pairwise (·.priority < ·.priority))
    {a b : Assignment} (ha : a ∈ l) (hb : b ∈ l) (hab : a ≠ b) : a.priority ≠ b.priority :=
  pairwise_rel_of_ne (fun _ _ h => Ne.symm h) (h.imp Int.ne_of_lt) ha hb hab

section Blocks

variable {rules : List Rule} {scopes : List Scope} {block : Scope → List Assignment}

def BlocksIn (rules : List Rule) (scopes : List Scope) (block : Scope → List Assignment) : Prop :=
  ∀ s ∈ scopes, ∀ a ∈ block s, ∃ r ∈ rules, r.id = a.id ∧ r.scope = s

theorem BlocksIn.scope_eq (hk : Keyed rules) (hin : BlocksIn rules scopes block) {s : Scope}
    (hs : s ∈ scopes) {a : Assignment} (ha : a ∈ block s) {r : Rule} (hr : r ∈ rules)
    (hid : r.id = a.id) : r.scope = s := by
  obtain ⟨r', hr', hid', rfl⟩ := hin s hs a ha
  exact hk.scope_eq hr hr' (hid.trans hid'.symm)

theorem nodup_ids_flatMap (hk : Keyed rules) (hs : scopes.Nodup) (hin : BlocksIn rules scopes block)
    (hb : ∀ s ∈ scopes, ((block s).map (·.id)).Nodup) :
    ((scopes.flatMap block).map (·.id)).Nodup := by
  rw [List.map_flatMap, List.nodup_flatMap]
  refine ⟨hb, (List.pairwise_iff_forall_sublist.2 ?_)⟩
  intro s t hst x hxs hxt
  have hs' := hst.subset (List.mem_cons_self)
  have ht' := hst.subset (List.mem_cons_of_mem _ List.mem_cons_self)
  obtain ⟨a, ha, rfl⟩ := List.mem_map.1 hxs
  obtain ⟨b, hb, hab⟩ := List.mem_map.1 hxt
  obtain ⟨r, hr, hrid, rfl⟩ := hin s hs' a ha
  have := hin.scope_eq hk ht' hb hr (hrid.trans hab.symm)
  exact (List.nodup_iff_sublist.1 hs r.scope) (this ▸ hst)

/-- A plan of one block per scope keeps rules apart when each block names rules of its scope,
each once, and moves them to increasing priorities that no rule of the scope left in place
holds. -/
theorem keepsApart_flatMap (hk : Keyed rules) (hs : scopes.Nodup)
    (hin : BlocksIn rules scopes block) (hb : ∀ s ∈ scopes, ((block s).map (·.id)).Nodup)
    (hsorted : ∀ s ∈ scopes, (block s).Pairwise (·.priority < ·.priority))
    (hfree : ∀ s ∈ scopes, ∀ a ∈ block s, ∀ x ∈ rules, x.scope = s →
      x.id ∉ (scopes.flatMap block).map (·.id) → x.priority ≠ a.priority) :
    KeepsApart rules (scopes.flatMap block) where
  nodup := nodup_ids_flatMap hk hs hin hb
  free := by
    intro a ha r hr hid x hx hxid hscope
    obtain ⟨s, hs', ha'⟩ := List.mem_flatMap.1 ha
    exact hfree s hs' a ha' x hx (hscope.trans (hin.scope_eq hk hs' ha' hr hid)) hxid
  apart := by
    intro a ha b hb hab ra hra hida rb hrb hidb hscope
    obtain ⟨s, hs', ha'⟩ := List.mem_flatMap.1 ha
    obtain ⟨t, ht', hb'⟩ := List.mem_flatMap.1 hb
    have hst : s = t := by
      rw [← hin.scope_eq hk hs' ha' hra hida, ← hin.scope_eq hk ht' hb' hrb hidb, hscope]
    subst hst
    exact ne_of_pairwise_lt (hsorted s hs') ha' hb' hab

end Blocks

/-! ## Reordering -/

theorem reorderListed_spec {rules : List Rule} : ∀ {seen ids : List String} {listed : List Rule},
    reorderListed rules seen ids = .ok listed →
    (∀ r ∈ listed, r ∈ rules ∧ r.locked = false ∧ r.id ∉ seen) ∧ (listed.map (·.id)).Nodup
  | _, [], _, h => by
    cases h
    simp
  | seen, id :: ids, listed, h => by
    unfold reorderListed at h
    split at h
    · exact reorderListed_spec h
    · rename_i hid
      split at h
      · cases h
      · rename_i r hr
        obtain ⟨rest, hrest, h⟩ := bind_eq_ok h
        obtain ⟨hl, hn⟩ := reorderListed_spec hrest
        have hrid : r.id = id := by simpa using List.find?_some hr
        have hmem : r ∈ rules := List.mem_of_find?_eq_some hr
        have hrest' : ∀ x ∈ rest, x ∈ rules ∧ x.locked = false ∧ x.id ∉ seen :=
          fun x hx => ⟨(hl x hx).1, (hl x hx).2.1, fun e => (hl x hx).2.2 (List.mem_cons_of_mem _ e)⟩
        cases Except.ok.inj h
        cases hlock : r.locked
        · simp only [Bool.false_eq_true, if_false]
          refine ⟨?_, List.nodup_cons.2 ⟨?_, hn⟩⟩
          · intro x hx
            rcases List.mem_cons.1 hx with rfl | hx
            · exact ⟨hmem, hlock, hrid ▸ hid⟩
            · exact hrest' x hx
          · intro hm
            obtain ⟨x, hx, e⟩ := List.mem_map.1 hm
            exact (hl x hx).2.2 (e.trans hrid ▸ List.mem_cons_self)
        · simp only [if_true]
          exact ⟨hrest', hn⟩

theorem foldl_firsts {α β : Type} [DecidableEq β] (key : α → β) : ∀ (l : List α) (acc : List β),
    (∀ b, b ∈ l.foldl (fun acc x => if key x ∈ acc then acc else acc ++ [key x]) acc ↔
      b ∈ acc ∨ b ∈ l.map key) ∧
    (acc.Nodup → (l.foldl (fun acc x => if key x ∈ acc then acc else acc ++ [key x]) acc).Nodup)
  | [], acc => by simp
  | a :: l, acc => by
    obtain ⟨hmem, hnodup⟩ := foldl_firsts key l (if key a ∈ acc then acc else acc ++ [key a])
    refine ⟨fun b => ?_, fun hacc => hnodup ?_⟩
    · rw [List.foldl_cons, hmem, List.map_cons, List.mem_cons]
      by_cases h : key a ∈ acc
      · rw [if_pos h]
        constructor
        · rintro (hb | hb)
          exacts [Or.inl hb, Or.inr (Or.inr hb)]
        · rintro (hb | rfl | hb)
          exacts [Or.inl hb, Or.inl h, Or.inr hb]
      · rw [if_neg h, List.mem_append, List.mem_singleton]
        constructor
        · rintro ((hb | rfl) | hb)
          exacts [Or.inl hb, Or.inr (Or.inl rfl), Or.inr (Or.inr hb)]
        · rintro (hb | rfl | hb)
          exacts [Or.inl (Or.inl hb), Or.inl (Or.inr rfl), Or.inr hb]
    · split
      · exact hacc
      · rename_i h
        exact List.nodup_append.2 ⟨hacc, List.nodup_singleton _, fun b hb c hc e => by
          rw [List.mem_singleton] at hc
          exact h (hc ▸ e ▸ hb)⟩

theorem scopesInOrder_fold : ∀ (rules : List Rule) (acc : List Scope),
    (∀ s, s ∈ rules.foldl (fun acc r => if r.scope ∈ acc then acc else acc ++ [r.scope]) acc ↔
      s ∈ acc ∨ s ∈ rules.map (·.scope)) ∧
    (acc.Nodup → (rules.foldl (fun acc r => if r.scope ∈ acc then acc else acc ++ [r.scope])
      acc).Nodup) :=
  foldl_firsts Rule.scope

theorem mem_scopesInOrder {rules : List Rule} {s : Scope} :
    s ∈ scopesInOrder rules ↔ s ∈ rules.map (·.scope) := by
  rw [scopesInOrder, (scopesInOrder_fold rules []).1]
  simp

theorem nodup_scopesInOrder (rules : List Rule) : (scopesInOrder rules).Nodup :=
  (scopesInOrder_fold rules []).2 List.nodup_nil

theorem not_forall_run_mem (held : List Int) (p : Int) :
    ¬ ∀ i : Nat, i ≤ held.length → p + i ∈ held := by
  intro h
  let run := (List.range (held.length + 1)).map fun i : Nat => p + i
  have hnodup : run.Nodup := List.nodup_range.map fun i j e => by omega
  have hsub : run ⊆ held := by
    intro x hx
    obtain ⟨i, hi, rfl⟩ := List.mem_map.1 hx
    exact h i (Nat.lt_succ_iff.1 (List.mem_range.1 hi))
  have := hnodup.length_le_of_subset hsub
  simp only [run, List.length_map, List.length_range] at this
  omega

theorem lt_freeAfter (held : List Int) : ∀ (n : Nat) (slot : Int), slot < freeAfter held n slot
  | 0, slot => by
    unfold freeAfter
    omega
  | n + 1, slot => by
    unfold freeAfter
    split
    · have := lt_freeAfter held n (slot + 1)
      omega
    · omega

theorem freeAfter_cases (held : List Int) : ∀ (n : Nat) (slot : Int),
    freeAfter held n slot ∉ held ∨ ∀ i : Nat, i ≤ n → slot + 1 + i ∈ held
  | 0, slot => by
    by_cases h : slot + 1 ∈ held
    · exact Or.inr fun i hi => by simpa [Nat.le_zero.1 hi] using h
    · exact Or.inl h
  | n + 1, slot => by
    unfold freeAfter
    split
    · rename_i h
      rcases freeAfter_cases held n (slot + 1) with hv | hrun
      · exact Or.inl hv
      · refine Or.inr fun i hi => ?_
        cases i with
        | zero => simpa using h
        | succ j =>
          have := hrun j (by omega)
          rwa [show slot + 1 + 1 + (j : Int) = slot + 1 + ((j + 1 : Nat) : Int) by omega] at this
    · rename_i h
      exact Or.inl h

theorem freeAfter_not_mem (held : List Int) (slot : Int) :
    freeAfter held held.length slot ∉ held :=
  (freeAfter_cases held held.length slot).resolve_right (not_forall_run_mem held (slot + 1))

theorem assignSlots_ids (held : List Int) (now : Time.Instant) :
    ∀ (slot : Int) (rs : List Rule), (assignSlots held now slot rs).map (·.id) = rs.map (·.id)
  | _, [] => rfl
  | slot, r :: rs => by simp [assignSlots, assignSlots_ids held now _ rs]

theorem assignSlots_bounds (held : List Int) (now : Time.Instant) :
    ∀ (slot : Int) (rs : List Rule), ∀ a ∈ assignSlots held now slot rs,
      slot < a.priority ∧ a.priority ∉ held
  | _, [] => by simp [assignSlots]
  | slot, r :: rs => by
    intro a ha
    simp only [assignSlots, List.mem_cons] at ha
    rcases ha with rfl | ha
    · exact ⟨lt_freeAfter held _ slot, freeAfter_not_mem held slot⟩
    · have := assignSlots_bounds held now _ rs a ha
      exact ⟨Int.lt_trans (lt_freeAfter held _ slot) this.1, this.2⟩

theorem assignSlots_sorted (held : List Int) (now : Time.Instant) :
    ∀ (slot : Int) (rs : List Rule),
      (assignSlots held now slot rs).Pairwise (·.priority < ·.priority)
  | _, [] => List.Pairwise.nil
  | slot, r :: rs => by
    simp only [assignSlots]
    exact List.pairwise_cons.2 ⟨fun a ha => (assignSlots_bounds held now _ rs a ha).1,
      assignSlots_sorted held now _ rs⟩

theorem BlocksIn.of_filter {rules listed : List Rule} (hl : ∀ r ∈ listed, r ∈ rules)
    {scopes : List Scope} {block : Scope → List Assignment}
    (hb : ∀ s ∈ scopes, (block s).map (·.id) = (listed.filter (·.scope == s)).map (·.id)) :
    BlocksIn rules scopes block := by
  intro s hs a ha
  have : a.id ∈ (listed.filter (·.scope == s)).map (·.id) := hb s hs ▸ List.mem_map_of_mem ha
  obtain ⟨r, hr, e⟩ := List.mem_map.1 this
  rw [List.mem_filter, beq_iff_eq] at hr
  exact ⟨r, hl r hr.1, e, hr.2⟩

theorem planReorder_spec {rules : List Rule} {ids : List String} {now : Time.Instant}
    {plan : List Assignment} (h : planReorder rules ids now = .ok plan) :
    ∃ listed, reorderListed rules [] ids = .ok listed ∧
      plan = (scopesInOrder listed).flatMap fun s =>
        assignSlots ((rules.filter fun r => r.scope == s &&
          !(r.id ∈ listed.map (·.id))).map (·.priority)) now 0 (listed.filter (·.scope == s)) := by
  unfold planReorder at h
  obtain ⟨listed, hl, h⟩ := bind_eq_ok h
  exact ⟨listed, hl, (Except.ok.inj h).symm⟩

theorem planReorder_keepsApart {rules : List Rule} {ids : List String} {now : Time.Instant}
    {plan : List Assignment} (hk : Keyed rules) (h : planReorder rules ids now = .ok plan) :
    KeepsApart rules plan := by
  obtain ⟨listed, hl, rfl⟩ := planReorder_spec h
  obtain ⟨hlisted, hnodup⟩ := reorderListed_spec hl
  have hids : ∀ s ∈ scopesInOrder listed,
      (assignSlots ((rules.filter fun r => r.scope == s && !(r.id ∈ listed.map (·.id))).map
        (·.priority)) now 0 (listed.filter (·.scope == s))).map (·.id) =
      (listed.filter (·.scope == s)).map (·.id) := fun s _ => assignSlots_ids _ _ _ _
  have hin := BlocksIn.of_filter (fun r hr => (hlisted r hr).1) hids
  apply keepsApart_flatMap hk (nodup_scopesInOrder listed) hin
  · intro s hs
    rw [hids s hs]
    exact (List.filter_sublist.map _).nodup hnodup
  · exact fun s _ => assignSlots_sorted _ _ _ _
  · intro s _ a ha x hx hscope hxid
    have hnot : x.id ∉ listed.map (·.id) := by
      intro hm
      obtain ⟨r, hr, e⟩ := List.mem_map.1 hm
      have hs' : r.scope ∈ scopesInOrder listed := mem_scopesInOrder.2 (List.mem_map_of_mem hr)
      have : r.id ∈ (listed.filter (·.scope == r.scope)).map (·.id) :=
        List.mem_map_of_mem (List.mem_filter.2 ⟨hr, by simp⟩)
      rw [← hids _ hs'] at this
      obtain ⟨b, hb, e'⟩ := List.mem_map.1 this
      exact hxid (List.mem_map.2 ⟨b, List.mem_flatMap.2 ⟨_, hs', hb⟩, e'.trans e⟩)
    refine fun e => (assignSlots_bounds _ _ _ _ a ha).2 (List.mem_map.2 ⟨x, ?_, e⟩)
    exact List.mem_filter.2 ⟨hx, by simp [hscope, hnot]⟩

theorem planReorder_unlocked {rules : List Rule} {ids : List String} {now : Time.Instant}
    {plan : List Assignment} (hk : Keyed rules) (h : planReorder rules ids now = .ok plan) :
    ∀ a ∈ plan, ∀ r ∈ rules, r.id = a.id → r.locked = false := by
  obtain ⟨listed, hl, rfl⟩ := planReorder_spec h
  obtain ⟨hlisted, -⟩ := reorderListed_spec hl
  intro a ha r hr hid
  obtain ⟨s, hs, ha⟩ := List.mem_flatMap.1 ha
  have : a.id ∈ (listed.filter (·.scope == s)).map (·.id) :=
    assignSlots_ids _ _ _ _ ▸ List.mem_map_of_mem ha
  obtain ⟨r', hr', e⟩ := List.mem_map.1 this
  have hr'l := (List.mem_filter.1 hr').1
  rw [hk.eq_of_id hr (hlisted r' hr'l).1 (hid.trans e.symm)]
  exact (hlisted r' hr'l).2.1

end ProviderRouting
