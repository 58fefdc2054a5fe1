import ProviderRouting.Proofs.Route.Winner
import ProviderRouting.Proofs.Plan.Apart
import Mathlib.Data.Bool.Basic
import Mathlib.Data.Prod.Lex

/-!
# How the route table files rules

`RouteTable.ofRules` files the enabled rules by scope. Its scopes are exactly those with an
enabled rule, in scope order (`Scope.Precedes`: by group, then path before model), and each
scope's rules are those rules stably sorted by their matching key, unlocked before locked and
then lower priority first (`StablySorted`). The table's size is the number of enabled rules.

A stable sort is determined by what it sorts (`StablySorted.unique`). When no two enabled rules of
a scope share a matching key, as in a service whose rules of a scope hold distinct priorities,
the order the rules come in decides nothing: every permutation files them into the same table,
which then routes every request the same way (`route_table_layout`).
-/

namespace ProviderRouting

/-! ## Stable sorting -/

section Stable

variable {α β : Type} [LinearOrder β] {key : α → β}

/-- `l` is `src` stably sorted by `key`: the same members, in order of `key`, and the members of
one key in the order they have in `src`. -/
structure StablySorted (key : α → β) (src l : List α) : Prop where
  perm : l.Perm src
  sorted : l.Pairwise fun a b => key a ≤ key b
  stable : ∀ k, l.filter (fun a => key a = k) = src.filter (fun a => key a = k)

theorem eq_of_sorted_of_fibers : ∀ {l₁ l₂ : List α},
    l₁.Pairwise (fun a b => key a ≤ key b) → l₂.Pairwise (fun a b => key a ≤ key b) →
    (∀ k, l₁.filter (fun a => key a = k) = l₂.filter (fun a => key a = k)) → l₁ = l₂
  | [], l₂, _, _, h => by
    cases l₂ with
    | nil => rfl
    | cons y r₂ =>
      have := h (key y)
      simp at this
  | x :: r₁, l₂, h₁, h₂, h => by
    have hx : x ∈ l₂ := by
      have := h (key x)
      rw [List.filter_cons_of_pos (by simp)] at this
      exact (List.mem_filter.1 (this ▸ List.mem_cons_self)).1
    cases l₂ with
    | nil => cases hx
    | cons y r₂ =>
      have hy : y ∈ x :: r₁ := by
        have := h (key y)
        rw [List.filter_cons_of_pos (l := r₂) (by simp)] at this
        exact (List.mem_filter.1 (this.symm ▸ List.mem_cons_self)).1
      have hxy : key x ≤ key y := by
        rcases List.mem_cons.1 hy with rfl | hy
        · exact le_refl _
        · exact List.rel_of_pairwise_cons h₁ hy
      have hyx : key y ≤ key x := by
        rcases List.mem_cons.1 hx with rfl | hx
        · exact le_refl _
        · exact List.rel_of_pairwise_cons h₂ hx
      have hkey : key y = key x := le_antisymm hyx hxy
      have hhead := h (key x)
      rw [List.filter_cons_of_pos (by simp), List.filter_cons_of_pos (by simp [hkey])] at hhead
      obtain ⟨rfl, -⟩ := List.cons.inj hhead
      have htail : ∀ k, r₁.filter (fun a => key a = k) = r₂.filter (fun a => key a = k) := by
        intro k
        have hk := h k
        by_cases e : key x = k
        · rw [List.filter_cons_of_pos (by simp [e]), List.filter_cons_of_pos (by simp [e])] at hk
          exact (List.cons.inj hk).2
        · rwa [List.filter_cons_of_neg (by simp [e]), List.filter_cons_of_neg (by simp [e])] at hk
      rw [eq_of_sorted_of_fibers h₁.of_cons h₂.of_cons htail]

theorem StablySorted.unique {src l₁ l₂ : List α} (h₁ : StablySorted key src l₁)
    (h₂ : StablySorted key src l₂) : l₁ = l₂ :=
  eq_of_sorted_of_fibers h₁.sorted h₂.sorted fun k => (h₁.stable k).trans (h₂.stable k).symm

theorem stablySorted_mergeSort {le : α → α → Bool} (hle : ∀ a b, le a b = true ↔ key a ≤ key b)
    (src : List α) : StablySorted key src (src.mergeSort le) := by
  have trans : ∀ a b c, le a b = true → le b c = true → le a c = true := fun a b c hab hbc =>
    (hle a c).2 (le_trans ((hle a b).1 hab) ((hle b c).1 hbc))
  have total : ∀ a b, (le a b || le b a) = true := fun a b => by
    rw [Bool.or_eq_true, hle, hle]
    exact le_total _ _
  refine ⟨List.mergeSort_perm src le, (List.pairwise_mergeSort trans total src).imp
    fun h => (hle _ _).1 h, fun k => ?_⟩
  -- the members of key `k` are sorted already, so the merge sort keeps them in their order
  set fiber := src.filter fun a => key a = k
  have hkeys : ∀ a ∈ fiber, key a = k := fun a ha => by simpa using (List.mem_filter.1 ha).2
  have hsorted : fiber.Pairwise fun a b => le a b = true :=
    List.Pairwise.imp_of_mem (fun ha hb _ => (hle _ _).2 (by rw [hkeys _ ha, hkeys _ hb]))
      (List.pairwise_of_forall fun _ _ => trivial)
  have hsub : fiber.Sublist ((src.mergeSort le).filter fun a => key a = k) := by
    have := (List.sublist_mergeSort trans total hsorted List.filter_sublist).filter
      (fun a => decide (key a = k))
    rwa [List.filter_eq_self.2 fun a ha => by simp [hkeys a ha]] at this
  exact (hsub.eq_of_length ((List.mergeSort_perm src le).filter _).length_eq.symm).symm

theorem StablySorted.of_perm {src src' l : List α} (h : StablySorted key src l)
    (hp : src'.Perm src) (hd : src.Pairwise fun a b => key a ≠ key b) :
    StablySorted key src' l := by
  refine ⟨h.perm.trans hp.symm, h.sorted, fun k => ?_⟩
  -- each key holds at most one member, and a list of at most one member has one order
  have hfib : (src.filter fun a => key a = k).Pairwise fun a b => key a ≠ key b :=
    hd.sublist List.filter_sublist
  have hperm : (src'.filter fun a => key a = k).Perm (src.filter fun a => key a = k) :=
    hp.filter _
  rw [h.stable k]
  match e : src.filter fun a => key a = k, hfib, hperm with
  | [], _, hperm => exact (List.perm_nil.1 hperm).symm
  | [a], _, hperm => exact (List.perm_singleton.1 hperm).symm
  | a :: b :: _, hfib, _ =>
    have ha : a ∈ src.filter fun a => key a = k := by rw [e]; exact List.mem_cons_self
    have hb : b ∈ src.filter fun a => key a = k := by
      rw [e]; exact List.mem_cons_of_mem a List.mem_cons_self
    have hab : key a = key b :=
      (of_decide_eq_true (List.mem_filter.1 ha).2).trans (of_decide_eq_true (List.mem_filter.1 hb).2).symm
    exact absurd hab (List.rel_of_pairwise_cons hfib List.mem_cons_self)

end Stable

/-! ## Matching keys -/

def Rule.matchKey (r : Rule) : Lex (Bool × Int) := toLex (r.locked, r.priority)

theorem matchOrder_iff_matchKey (a b : Rule) :
    matchOrder a b = true ↔ a.matchKey ≤ b.matchKey := by
  unfold matchOrder Rule.matchKey
  rw [Prod.Lex.toLex_le_toLex]
  cases a.locked <;> cases b.locked <;> simp

def KeysApart (rules : List Rule) : Prop :=
  (rules.filter (·.enabled)).Pairwise fun a b => a.scope = b.scope → a.matchKey ≠ b.matchKey

theorem Separated.keysApart {rules : List Rule} (h : Separated rules) : KeysApart rules :=
  (h.sublist List.filter_sublist).imp fun hab hs e => hab hs (congrArg (fun k => (ofLex k).2) e)

/-! ## Scope order -/

def Scope.Precedes (a b : Scope) : Prop :=
  a.group.rank < b.group.rank ∨ a.group = b.group ∧ a.kind.rank < b.kind.rank

theorem Scope.all_precedes : Scope.all.Pairwise Scope.Precedes := by
  simp [Scope.all, Scope.Precedes, Group.rank, RuleKind.rank]

/-! ## The table -/

def enabledIn (rules : List Rule) (s : Scope) : List Rule :=
  rules.filter fun r => r.enabled && r.scope == s

theorem mem_enabledIn {rules : List Rule} {s : Scope} {r : Rule} :
    r ∈ enabledIn rules s ↔ r ∈ rules ∧ r.enabled = true ∧ r.scope = s := by
  simp [enabledIn]

theorem enabledIn_sublist (rules : List Rule) (s : Scope) :
    (enabledIn rules s).Sublist (rules.filter (·.enabled)) := by
  have hsplit : enabledIn rules s = (rules.filter (·.enabled)).filter (·.scope == s) := by
    rw [List.filter_filter, enabledIn]
    exact List.filter_congr fun r _ => Bool.and_comm _ _
  rw [hsplit]
  exact List.filter_sublist

theorem ofRules_partitions (rules : List Rule) :
    (RouteTable.ofRules rules).partitions = Scope.all.filterMap fun s =>
      match (enabledIn rules s).mergeSort matchOrder with
      | [] => none
      | rs => some (s, rs) := rfl

theorem keys_ofRules (rules : List Rule) :
    (RouteTable.ofRules rules).partitions.map (·.1) =
      Scope.all.filter fun s => !(enabledIn rules s).isEmpty := by
  rw [ofRules_partitions, List.map_filterMap, ← List.filterMap_eq_filter]
  refine List.filterMap_congr fun s _ => ?_
  -- an entry is made exactly for a scope with enabled rules, which the sort keeps
  cases h : (enabledIn rules s).mergeSort matchOrder with
  | nil =>
    have : enabledIn rules s = [] := List.eq_nil_of_length_eq_zero (by
      rw [← (List.mergeSort_perm _ matchOrder).length_eq, h, List.length_nil])
    simp [Option.guard, this]
  | cons r rs =>
    have : enabledIn rules s ≠ [] := fun e => by simp [e] at h
    simp [Option.guard, this]

theorem mem_keys_ofRules {rules : List Rule} {s : Scope} :
    s ∈ (RouteTable.ofRules rules).partitions.map (·.1) ↔
      ∃ r ∈ rules, r.enabled = true ∧ r.scope = s := by
  rw [keys_ofRules, List.mem_filter]
  simp [Scope.mem_all, List.eq_nil_iff_forall_not_mem, mem_enabledIn]

theorem stablySorted_of_mem_ofRules {rules : List Rule} {p : Scope × List Rule}
    (hp : p ∈ (RouteTable.ofRules rules).partitions) :
    StablySorted Rule.matchKey (enabledIn rules p.1) p.2 := by
  rw [ofRules_partitions, List.mem_filterMap] at hp
  obtain ⟨s, -, hs⟩ := hp
  split at hs
  · cases hs
  · cases hs
    exact stablySorted_mergeSort matchOrder_iff_matchKey _

theorem length_flatMap_enabledIn (rules : List Rule) :
    (Scope.all.flatMap (enabledIn rules)).length = (rules.filter (·.enabled)).length := by
  induction rules with
  | nil => simp [enabledIn, Scope.all]
  | cons r rules ih =>
    simp only [Scope.all, List.flatMap_cons, List.flatMap_nil, List.append_nil,
      List.length_append, enabledIn, List.filter_cons] at ih ⊢
    rcases hs : r.scope with ⟨g, k⟩
    cases r.enabled <;> cases g <;> cases k <;> simp <;> omega

theorem foldl_add_length (ps : List (Scope × List Rule)) (n : Nat) :
    ps.foldl (fun n p => n + p.2.length) n = n + (ps.flatMap (·.2)).length := by
  induction ps generalizing n with
  | nil => simp
  | cons p ps ih => simp [ih]; omega

theorem length_flatMap_entries (rules : List Rule) (l : List Scope) :
    ((l.filterMap fun s =>
      match (enabledIn rules s).mergeSort matchOrder with
      | [] => none
      | rs => some (s, rs)).flatMap (·.2)).length = (l.flatMap (enabledIn rules)).length := by
  induction l with
  | nil => rfl
  | cons s l ih =>
    rw [List.filterMap_cons, List.flatMap_cons, List.length_append, ← ih,
      ← (List.mergeSort_perm (enabledIn rules s) matchOrder).length_eq]
    cases (enabledIn rules s).mergeSort matchOrder with
    | nil => simp
    | cons r rs => simp; omega

theorem size_ofRules (rules : List Rule) :
    (RouteTable.ofRules rules).size = (rules.filter (·.enabled)).length := by
  rw [RouteTable.size, foldl_add_length, ofRules_partitions, Nat.zero_add, length_flatMap_entries,
    length_flatMap_enabledIn]

theorem ofRules_perm {rules rules' : List Rule} (hp : rules'.Perm rules) (hk : KeysApart rules) :
    RouteTable.ofRules rules' = RouteTable.ofRules rules := by
  suffices h : ∀ s, (enabledIn rules' s).mergeSort matchOrder =
      (enabledIn rules s).mergeSort matchOrder by
    rw [RouteTable.mk.injEq, ofRules_partitions, ofRules_partitions]
    exact List.filterMap_congr fun s _ => by rw [h s]
  intro s
  have hd : (enabledIn rules s).Pairwise fun a b => a.matchKey ≠ b.matchKey :=
    (hk.sublist (enabledIn_sublist rules s)).imp_of_mem fun ha hb h =>
      h ((mem_enabledIn.1 ha).2.2.trans (mem_enabledIn.1 hb).2.2.symm)
  have hsort := stablySorted_mergeSort matchOrder_iff_matchKey
  exact (((hsort _).of_perm (hp.filter _) hd).unique (hsort _)).symm

/-- How the route table files rules. Its scopes are exactly those with an enabled rule, in scope
order; each scope holds its enabled rules stably sorted by matching key, unlocked before locked
and then lower priority first; its size is the number of enabled rules. When no two enabled rules
of a scope share a matching key (as when they hold distinct priorities), every permutation of the
rules gives the same table and so routes every request the same way. -/
theorem route_table_layout (rules : List Rule) :
    let t := RouteTable.ofRules rules
    (t.partitions.map (·.1)).Pairwise Scope.Precedes ∧
    (∀ s, s ∈ t.partitions.map (·.1) ↔ ∃ r ∈ rules, r.enabled = true ∧ r.scope = s) ∧
    (∀ p ∈ t.partitions, StablySorted Rule.matchKey (enabledIn rules p.1) p.2) ∧
    t.size = (rules.filter (·.enabled)).length ∧
    (Separated rules → KeysApart rules) ∧
    ∀ rules', rules'.Perm rules → KeysApart rules →
      RouteTable.ofRules rules' = t ∧
        ∀ g path model, (RouteTable.ofRules rules').route g path model = t.route g path model := by
  intro t
  refine ⟨?_, fun _ => mem_keys_ofRules, fun _ => stablySorted_of_mem_ofRules,
    size_ofRules rules, Separated.keysApart, fun rules' hp hk => ?_⟩
  · rw [keys_ofRules]
    exact Scope.all_precedes.sublist List.filter_sublist
  · have h := ofRules_perm hp hk
    exact ⟨h, fun g path model => by rw [h]⟩

/-- Two enabled rules of one scope with different priorities are filed and routed alike in either
order. -/
theorem swapped_rules_filed_alike :
    let at2025 : Time.Instant := ⟨1735689600, 0⟩
    let a : Rule :=
      { id := "a", kind := .model, group := .openai, provider := "p1", pattern := "gpt-*",
        rewrite := none, priority := 1, enabled := true, createdAt := at2025,
        updatedAt := at2025 }
    let b : Rule := { a with id := "b", pattern := "gpt-4*", priority := 2 }
    [b, a].Perm [a, b] ∧ Separated [a, b] ∧ KeysApart [a, b] ∧
      RouteTable.ofRules [b, a] = RouteTable.ofRules [a, b] := by
  intro at2025 a b
  have hsep : Separated [a, b] := List.pairwise_pair.2 fun _ => by decide
  have hk : KeysApart [a, b] := (route_table_layout [a, b]).2.2.2.2.1 hsep
  exact ⟨List.Perm.swap a b [], hsep, hk,
    ((route_table_layout [a, b]).2.2.2.2.2 [b, a] (List.Perm.swap a b []) hk).1⟩

end ProviderRouting
