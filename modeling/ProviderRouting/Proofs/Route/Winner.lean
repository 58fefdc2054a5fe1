import ProviderRouting.Route.Table

/-!
# Routing picks the winner

A request of group `g` tries its `tiers` in order: the group's model rules against the model
name (when the request names one), the group's path rules against the path, and then, for a
group other than the generic one, the same two for the generic group. A rule `Catches` the
request in a tier when it is enabled, of the tier's scope, and its pattern matches the tier's
text. Rules compare by tier, then unlocked before locked, then by priority (`Outranks`), then by
their place in the list; the least is the one that `Wins`.

`route_selects_winner` says that `RouteTable.route` over `RouteTable.ofRules` answers with the
winner, and with nothing exactly when no rule catches the request. The step that carries it is
`find?_mergeSort_eq_some_iff`: a stable sort followed by a search finds the element that
`FirstBy` describes, whatever the ties.
-/

namespace ProviderRouting

/-! ## A stable sort, then a search -/

section
variable {α : Type} (le : α → α → Bool) (q : α → Bool)

/-- `x`, at its place in `l`, is the first element satisfying `q` in the stable order of `l` by
`le`: the elements before it that satisfy `q` come strictly after it, and those after it do not
come before it. -/
def FirstBy (l : List α) (x : α) : Prop :=
  ∃ l₁ l₂, l = l₁ ++ x :: l₂ ∧ q x = true ∧ (∀ y ∈ l₁, q y = true → le y x = false) ∧
    ∀ y ∈ l₂, q y = true → le x y = true

variable {le q}

theorem mem_of_split_lt {l₁ l₂ m₁ m₂ : List α} {x y : α} (h : l₁ ++ x :: l₂ = m₁ ++ y :: m₂)
    (hlt : l₁.length < m₁.length) : y ∈ l₂ ∧ x ∈ m₁ := by
  obtain ⟨k, rfl, hk⟩ | ⟨k, rfl, hk⟩ := List.append_eq_append_iff.1 h
  · cases k with
    | nil =>
      simp only [List.append_nil] at hlt
      omega
    | cons z k =>
      simp only [List.cons_append, List.cons.injEq] at hk
      obtain ⟨rfl, rfl⟩ := hk
      exact ⟨List.mem_append_right _ List.mem_cons_self, List.mem_append_right _ List.mem_cons_self⟩
  · simp only [List.length_append] at hlt
    omega

theorem firstBy_unique {l : List α} {x y : α} (hx : FirstBy le q l x) (hy : FirstBy le q l y) :
    x = y := by
  obtain ⟨l₁, l₂, rfl, hqx, hbx, hax⟩ := hx
  obtain ⟨m₁, m₂, h, hqy, hby, hay⟩ := hy
  rcases Nat.lt_trichotomy l₁.length m₁.length with hlt | heq | hgt
  · obtain ⟨hyl, hxm⟩ := mem_of_split_lt h hlt
    have hyx := hby x hxm hqx
    rw [hax y hyl hqy] at hyx
    cases hyx
  · have := (List.append_inj h heq).2
    exact (List.cons.inj this).1
  · obtain ⟨hxm, hyl⟩ := mem_of_split_lt h.symm hgt
    have hxy := hbx y hyl hqy
    rw [hay x hxm hqx] at hxy
    cases hxy

section
variable (trans : ∀ a b c, le a b = true → le b c = true → le a c = true)
  (total : ∀ a b, (le a b || le b a) = true)
include trans total

theorem firstBy_of_find?_mergeSort {l : List α} {x : α} (h : (l.mergeSort le).find? q = some x) :
    FirstBy le q l x := by
  induction l with
  | nil => simp at h
  | cons a l ih =>
    obtain ⟨k₁, k₂, hsort, hrest, hk₁⟩ := List.mergeSort_cons trans total a l
    have hperm := List.mergeSort_perm l le
    rw [hsort, List.find?_append] at h
    cases h₁ : k₁.find? q with
    | some z =>
      rw [h₁, Option.some_or] at h
      have hz : (l.mergeSort le).find? q = some x := by
        rw [hrest, List.find?_append, h₁, Option.some_or, h]
      obtain ⟨l₁, l₂, rfl, hq, hb, ha⟩ := ih hz
      refine ⟨a :: l₁, l₂, rfl, hq, ?_, ha⟩
      intro y hy hqy
      rcases List.mem_cons.1 hy with rfl | hy
      · simpa using hk₁ _ (List.mem_of_find?_eq_some (h₁.trans h))
      · exact hb y hy hqy
    | none =>
      rw [h₁, Option.none_or, List.find?_cons] at h
      have hnone := List.find?_eq_none.1 h₁
      cases hqa : q a
      · rw [hqa] at h
        have hz : (l.mergeSort le).find? q = some x := by
          rw [hrest, List.find?_append, h₁, Option.none_or]; exact h
        obtain ⟨l₁, l₂, rfl, hq, hb, ha⟩ := ih hz
        refine ⟨a :: l₁, l₂, rfl, hq, ?_, ha⟩
        intro y hy hqy
        rcases List.mem_cons.1 hy with rfl | hy
        · rw [hqa] at hqy; cases hqy
        · exact hb y hy hqy
      · rw [hqa] at h
        dsimp only at h
        rw [← Option.some.inj h]
        refine ⟨[], l, rfl, hqa, by simp, ?_⟩
        intro y hy hqy
        have hy' : y ∈ k₁ ++ k₂ := by rw [← hrest]; exact (hperm.mem_iff).2 hy
        rcases List.mem_append.1 hy' with hy₁ | hy₂
        · exact absurd hqy (by simpa using hnone y hy₁)
        · have hsorted := List.pairwise_mergeSort trans total (a :: l)
          rw [hsort] at hsorted
          exact List.rel_of_pairwise_cons (List.pairwise_append.1 hsorted).2.1 hy₂

theorem find?_mergeSort_eq_some_iff {l : List α} {x : α} :
    (l.mergeSort le).find? q = some x ↔ FirstBy le q l x := by
  constructor
  · exact firstBy_of_find?_mergeSort trans total
  · intro hx
    obtain ⟨l₁, l₂, hl, hq, -, -⟩ := id hx
    have hmem : x ∈ l.mergeSort le := (List.mergeSort_perm l le).mem_iff.2 (by simp [hl])
    obtain ⟨y, hy⟩ := Option.isSome_iff_exists.1 (List.find?_isSome.2 ⟨x, hmem, hq⟩)
    rw [hy, firstBy_unique (firstBy_of_find?_mergeSort trans total hy) hx]

end

theorem firstBy_filter {p : α → Bool} {l : List α} {x : α} (h : FirstBy le q (l.filter p) x) :
    ∃ l₁ l₂, l = l₁ ++ x :: l₂ ∧ p x = true ∧ q x = true ∧
      (∀ y ∈ l₁, p y = true → q y = true → le y x = false) ∧
      ∀ y ∈ l₂, p y = true → q y = true → le x y = true := by
  obtain ⟨L₁, L₂, hL, hq, hb, ha⟩ := h
  obtain ⟨a, b, rfl, rfl, hb'⟩ := List.filter_eq_append_iff.1 hL
  obtain ⟨c, d, rfl, hc, hpx, rfl⟩ := List.filter_eq_cons_iff.1 hb'
  refine ⟨a ++ c, d, by simp, hpx, hq, ?_, ?_⟩
  · intro y hy hpy hqy
    rcases List.mem_append.1 hy with hy | hy
    · exact hb y (List.mem_filter.2 ⟨hy, hpy⟩) hqy
    · exact absurd hpy (hc y hy)
  · intro y hy hpy hqy
    exact ha y (List.mem_filter.2 ⟨hy, hpy⟩) hqy

end

/-! ## Matching order -/

def Outranks (a b : Rule) : Prop :=
  (a.locked = false ∧ b.locked = true) ∨ (a.locked = b.locked ∧ a.priority < b.priority)

theorem matchOrder_eq_true_iff {a b : Rule} : matchOrder a b = true ↔ ¬ Outranks b a := by
  unfold matchOrder Outranks
  cases ha : a.locked <;> cases hb : b.locked <;> simp

theorem matchOrder_eq_false_iff {a b : Rule} : matchOrder a b = false ↔ Outranks b a := by
  rw [← Bool.not_eq_true, matchOrder_eq_true_iff, Classical.not_not]

theorem matchOrder_trans (a b c : Rule) (hab : matchOrder a b = true)
    (hbc : matchOrder b c = true) : matchOrder a c = true := by
  rw [matchOrder_eq_true_iff] at *
  unfold Outranks at *
  cases ha : a.locked <;> cases hb : b.locked <;> cases hc : c.locked <;> simp_all <;> omega

theorem matchOrder_total (a b : Rule) : (matchOrder a b || matchOrder b a) = true := by
  rw [Bool.or_eq_true, matchOrder_eq_true_iff, matchOrder_eq_true_iff]
  unfold Outranks
  cases ha : a.locked <;> cases hb : b.locked <;> simp <;> omega

/-! ## The table -/

theorem Scope.mem_all (s : Scope) : s ∈ Scope.all := by
  obtain ⟨g, k⟩ := s
  cases g <;> cases k <;> simp [Scope.all]

theorem find?_entry (l : List Scope) (s : Scope) (hs : s ∈ l)
    (E : Scope → Option (Scope × List Rule)) (hE : ∀ a p, E a = some p → p.1 = a) :
    (l.find? fun a => (E a).any (·.1 == s)).bind E = E s := by
  have hkey : ∀ a, (E a).any (·.1 == s) = true → a = s := by
    intro a ha
    cases he : E a with
    | none => simp [he] at ha
    | some p =>
      simp only [he, Option.any_some, beq_iff_eq] at ha
      rw [← hE a p he, ha]
  cases h : l.find? fun a => (E a).any (·.1 == s) with
  | none =>
    cases hs' : E s with
    | none => rfl
    | some p =>
      have := List.find?_eq_none.1 h s hs
      simp [hs', hE s p hs'] at this
  | some a =>
    rw [hkey a (List.find?_some (p := fun a => (E a).any (·.1 == s)) h)]
    rfl

theorem partition_ofRules (rules : List Rule) (s : Scope) :
    (RouteTable.ofRules rules).partition s =
      (rules.filter fun r => r.enabled && r.scope == s).mergeSort matchOrder := by
  simp only [RouteTable.partition, RouteTable.ofRules, List.find?_filterMap]
  rw [find?_entry Scope.all s (Scope.mem_all s)]
  · split <;> simp_all
  · intro a p hp
    split at hp
    · cases hp
    · cases hp; rfl

/-! ## The winner of a request -/

/-- The scopes a request tries within group `g`, each with the text matched against their
patterns: model rules against the model name when there is one, then path rules against the
path. -/
def groupTiers (g : Group) (path : String) (model : Option String) : List (Scope × String) :=
  (model.map fun m => (⟨g, .model⟩, m)).toList ++ [(⟨g, .path⟩, path)]

def tiers (g : Group) (path : String) (model : Option String) : List (Scope × String) :=
  groupTiers g path model ++ if g = .generic then [] else groupTiers .generic path model

def RouteTable.firstIn (t : RouteTable) (ts : List (Scope × String)) : Option Rule :=
  ts.findSome? fun (s, x) => (t.partition s).find? fun r => Glob.accepts r.pattern x

def Catches (ts : List (Scope × String)) (r : Rule) (i : Nat) : Prop :=
  r.enabled = true ∧ ∃ x, ts[i]? = some (r.scope, x) ∧ Glob.accepts r.pattern x = true

def Ahead (i : Nat) (a : Rule) (j : Nat) (b : Rule) : Prop := i < j ∨ i = j ∧ Outranks a b

/-- `r`, at its place in `rules`, wins in tier `i`: it catches the request there, every rule
before it that catches the request comes strictly after it, and no rule after it comes strictly
before it. -/
def Wins (ts : List (Scope × String)) (rules : List Rule) (r : Rule) (i : Nat) : Prop :=
  ∃ l₁ l₂, rules = l₁ ++ r :: l₂ ∧ Catches ts r i ∧
    (∀ x ∈ l₁, ∀ j, Catches ts x j → Ahead i r j x) ∧ ∀ x ∈ l₂, ∀ j, Catches ts x j → ¬ Ahead j x i r

section
variable {rules : List Rule} {s : Scope} {x : String} {r : Rule}

theorem tier_eq_none_iff :
    ((RouteTable.ofRules rules).partition s).find? (fun r => Glob.accepts r.pattern x) = none ↔
      ∀ y ∈ rules, y.enabled = true → y.scope = s → Glob.accepts y.pattern x = false := by
  rw [partition_ofRules, List.find?_eq_none]
  constructor
  · intro h y hy he hs
    simpa using h y (List.mem_mergeSort.2 (List.mem_filter.2 ⟨hy, by simp [he, hs]⟩))
  · intro h y hy
    obtain ⟨hy, hp⟩ := List.mem_filter.1 (List.mem_mergeSort.1 hy)
    simp only [Bool.and_eq_true, beq_iff_eq] at hp
    simp [h y hy hp.1 hp.2]

theorem tier_eq_some
    (h : ((RouteTable.ofRules rules).partition s).find? (fun r => Glob.accepts r.pattern x) = some r) :
    ∃ l₁ l₂, rules = l₁ ++ r :: l₂ ∧ r.enabled = true ∧ r.scope = s ∧
      Glob.accepts r.pattern x = true ∧
      (∀ y ∈ l₁, y.enabled = true → y.scope = s → Glob.accepts y.pattern x = true → Outranks r y) ∧
      ∀ y ∈ l₂, y.enabled = true → y.scope = s → Glob.accepts y.pattern x = true → ¬ Outranks y r := by
  rw [partition_ofRules, find?_mergeSort_eq_some_iff matchOrder_trans matchOrder_total] at h
  obtain ⟨l₁, l₂, rfl, hp, hq, hb, ha⟩ := firstBy_filter h
  simp only [Bool.and_eq_true, beq_iff_eq] at hp
  refine ⟨l₁, l₂, rfl, hp.1, hp.2, hq, ?_, ?_⟩
  · intro y hy he hs hx
    exact matchOrder_eq_false_iff.1 (hb y hy (by simp [he, hs]) hx)
  · intro y hy he hs hx
    exact matchOrder_eq_true_iff.1 (ha y hy (by simp [he, hs]) hx)

theorem tier_ne_none_of_catches {ts : List (Scope × String)} {i : Nat} (hr : r ∈ rules)
    (hc : Catches ts r i) {p : Scope × String} (hp : ts[i]? = some p) :
    ((RouteTable.ofRules rules).partition p.1).find? (fun r => Glob.accepts r.pattern p.2) ≠ none := by
  obtain ⟨he, x, hx, ha⟩ := hc
  rw [hx] at hp
  cases hp
  intro h
  have := tier_eq_none_iff.1 h r hr he rfl
  rw [ha] at this
  cases this

theorem firstIn_eq_some {ts : List (Scope × String)}
    (h : (RouteTable.ofRules rules).firstIn ts = some r) : ∃ i, Wins ts rules r i := by
  obtain ⟨T₁, ⟨s, x⟩, T₂, rfl, hs, hT₁⟩ := List.findSome?_eq_some_iff.1 h
  obtain ⟨l₁, l₂, rfl, he, hrs, hx, hb, ha⟩ := tier_eq_some hs
  have hi : (T₁ ++ (s, x) :: T₂)[T₁.length]? = some (s, x) := by simp
  have hnot : ∀ y ∈ l₁ ++ r :: l₂, ∀ j < T₁.length, ¬ Catches (T₁ ++ (s, x) :: T₂) y j := by
    intro y hy j hj hc
    have hj' : (T₁ ++ (s, x) :: T₂)[j]? = some T₁[j] := by
      rw [List.getElem?_append_left hj, List.getElem?_eq_getElem hj]
    exact tier_ne_none_of_catches hy hc hj' (hT₁ _ (List.getElem_mem hj))
  have hsame : ∀ y, Catches (T₁ ++ (s, x) :: T₂) y T₁.length →
      y.enabled = true ∧ y.scope = s ∧ Glob.accepts y.pattern x = true := by
    rintro y ⟨hye, x', hx', hya⟩
    rw [hi] at hx'
    obtain ⟨h1, h2⟩ := Prod.mk.inj (Option.some.inj hx')
    exact ⟨hye, h1.symm, h2 ▸ hya⟩
  refine ⟨T₁.length, l₁, l₂, rfl, ⟨he, x, by rw [hi, hrs], hx⟩, ?_, ?_⟩
  · intro y hy j hc
    rcases Nat.lt_trichotomy T₁.length j with hlt | rfl | hgt
    · exact .inl hlt
    · obtain ⟨hye, hys, hya⟩ := hsame y hc
      exact .inr ⟨rfl, hb y hy hye hys hya⟩
    · exact absurd hc (hnot y (by simp [hy]) j hgt)
  · intro y hy j hc hahead
    rcases hahead with hlt | ⟨rfl, hout⟩
    · exact hnot y (by simp [hy]) j hlt hc
    · obtain ⟨hye, hys, hya⟩ := hsame y hc
      exact ha y hy hye hys hya hout

theorem wins_unique {ts : List (Scope × String)} {r r' : Rule} {i i' : Nat}
    (h : Wins ts rules r i) (h' : Wins ts rules r' i') : r = r' := by
  obtain ⟨l₁, l₂, rfl, hc, hb, ha⟩ := h
  obtain ⟨m₁, m₂, hsplit, hc', hb', ha'⟩ := h'
  rcases Nat.lt_trichotomy l₁.length m₁.length with hlt | heq | hgt
  · obtain ⟨hr', hr⟩ := mem_of_split_lt hsplit hlt
    exact absurd (hb' r hr i hc) (ha r' hr' i' hc')
  · exact (List.cons.inj (List.append_inj hsplit heq).2).1
  · obtain ⟨hr, hr'⟩ := mem_of_split_lt hsplit.symm hgt
    exact absurd (hb r' hr' i' hc') (ha' r hr i hc)

theorem firstIn_ne_none {ts : List (Scope × String)} {i : Nat} (hr : r ∈ rules)
    (hc : Catches ts r i) : (RouteTable.ofRules rules).firstIn ts ≠ none := by
  intro h
  obtain ⟨-, x, hx, -⟩ := id hc
  have hmem : (r.scope, x) ∈ ts := List.mem_of_getElem? hx
  exact tier_ne_none_of_catches hr hc hx (List.findSome?_eq_none_iff.1 h _ hmem)

theorem firstIn_eq_some_iff {ts : List (Scope × String)} :
    (RouteTable.ofRules rules).firstIn ts = some r ↔ ∃ i, Wins ts rules r i := by
  constructor
  · exact firstIn_eq_some
  · rintro ⟨i, hw⟩
    obtain ⟨l₁, l₂, hl, hc, -, -⟩ := id hw
    obtain ⟨r', hr'⟩ := Option.ne_none_iff_exists'.1 (firstIn_ne_none (show r ∈ rules by rw [hl]; simp) hc)
    obtain ⟨i', hw'⟩ := firstIn_eq_some hr'
    rw [hr', wins_unique hw' hw]

end

/-! ## Routing -/

section
variable {rules : List Rule} {g : Group} {path : String} {model : Option String} {r : Rule}

theorem matchIn_eq_firstIn (t : RouteTable) (g : Group) (path : String) (model : Option String) :
    t.matchIn g path model = t.firstIn (groupTiers g path model) := by
  unfold RouteTable.matchIn RouteTable.firstIn groupTiers
  cases model with
  | none => simp
  | some m =>
    simp only [Option.map_some, Option.toList_some, List.singleton_append, List.findSome?_cons]
    cases (t.partition ⟨g, .model⟩).find? fun r => Glob.accepts r.pattern m with
    | some r => rfl
    | none => cases (t.partition ⟨g, .path⟩).find? fun r => Glob.accepts r.pattern path <;> rfl

theorem group_of_mem_groupTiers {p : Scope × String} (h : p ∈ groupTiers g path model) :
    p.1.group = g := by
  cases model <;> simp [groupTiers] at h <;> rcases h with rfl | rfl <;> rfl

theorem group_of_firstIn {g' : Group} (h : (RouteTable.ofRules rules).firstIn (groupTiers g' path model) = some r) :
    r.group = g' := by
  obtain ⟨i, -, -, -, ⟨-, x, hx, -⟩, -, -⟩ := firstIn_eq_some h
  exact group_of_mem_groupTiers (List.mem_of_getElem? hx)

theorem lt_groupTiers_iff {i : Nat} (hc : Catches (tiers g path model) r i) :
    i < (groupTiers g path model).length ↔ r.group = g := by
  obtain ⟨-, x, hx, -⟩ := hc
  unfold tiers at hx
  by_cases hi : i < (groupTiers g path model).length
  · rw [List.getElem?_append_left hi] at hx
    exact ⟨fun _ => group_of_mem_groupTiers (List.mem_of_getElem? hx), fun _ => hi⟩
  · rw [List.getElem?_append_right (Nat.le_of_not_lt hi)] at hx
    by_cases hg : g = .generic
    · simp [hg] at hx
    · rw [if_neg hg] at hx
      have := group_of_mem_groupTiers (List.mem_of_getElem? hx)
      simp only at this
      exact ⟨fun h => absurd h hi, fun h => absurd (this.symm.trans h) (Ne.symm hg)⟩

theorem firstIn_tiers (t : RouteTable) (g : Group) (path : String) (model : Option String) :
    t.firstIn (tiers g path model) = (t.firstIn (groupTiers g path model)).or
      (if g = .generic then none else t.firstIn (groupTiers .generic path model)) := by
  unfold RouteTable.firstIn tiers
  rw [List.findSome?_append]
  split <;> rfl

theorem route_eq_none_iff :
    (RouteTable.ofRules rules).route g path model = none ↔
      ∀ r ∈ rules, ∀ i, ¬ Catches (tiers g path model) r i := by
  have hfound : (RouteTable.ofRules rules).route g path model = none ↔
      (RouteTable.ofRules rules).firstIn (tiers g path model) = none := by
    unfold RouteTable.route
    rw [matchIn_eq_firstIn, matchIn_eq_firstIn, firstIn_tiers]
    cases (RouteTable.ofRules rules).firstIn (groupTiers g path model) with
    | some r => simp
    | none => by_cases hg : g = .generic <;> simp [hg]
  rw [hfound]
  constructor
  · intro h r hr i hc
    exact firstIn_ne_none hr hc h
  · intro h
    cases hf : (RouteTable.ofRules rules).firstIn (tiers g path model) with
    | none => rfl
    | some r =>
      obtain ⟨i, l₁, l₂, hl, hc, -, -⟩ := firstIn_eq_some hf
      exact absurd hc (h r (by rw [hl]; simp) i)

theorem viaGeneric_eq {i : Nat} (hw : Wins (tiers g path model) rules r i) :
    decide ((groupTiers g path model).length ≤ i) = !decide (r.group = g) := by
  obtain ⟨-, -, -, hc, -, -⟩ := hw
  have := lt_groupTiers_iff hc
  by_cases h : r.group = g
  · simp [h, this.2 h]
  · have : ¬ i < (groupTiers g path model).length := fun hi => h (this.1 hi)
    simp [h]; omega

theorem hit_eq_iff_of_firstIn {r₀ : Rule} {via : Bool} (hit : RouteHit)
    (htiers : (RouteTable.ofRules rules).firstIn (tiers g path model) = some r₀)
    (hvia : via = !decide (r₀.group = g)) :
    ({ ruleId := r₀.id, provider := r₀.provider,
       finalModel := model.map fun m => r₀.rewrite.getD m,
       rewritten := r₀.rewrite.isSome && model.isSome, viaGeneric := via } : RouteHit) = hit ↔
      ∃ r i, Wins (tiers g path model) rules r i ∧
        hit = { ruleId := r.id, provider := r.provider,
                finalModel := model.map fun m => r.rewrite.getD m,
                rewritten := r.rewrite.isSome && model.isSome,
                viaGeneric := decide ((groupTiers g path model).length ≤ i) } := by
  constructor
  · rintro rfl
    obtain ⟨i, hw⟩ := firstIn_eq_some htiers
    exact ⟨r₀, i, hw, by rw [viaGeneric_eq hw, hvia]⟩
  · rintro ⟨r, i, hw, rfl⟩
    obtain rfl : r₀ = r := Option.some.inj (htiers.symm.trans (firstIn_eq_some_iff.2 ⟨i, hw⟩))
    rw [viaGeneric_eq hw, hvia]

theorem no_winner_of_firstIn {ts : List (Scope × String)}
    (h : (RouteTable.ofRules rules).firstIn ts = none) : ¬ ∃ r i, Wins ts rules r i := by
  rintro ⟨r, i, hw⟩
  cases h.symm.trans (firstIn_eq_some_iff.2 ⟨i, hw⟩)

theorem route_eq_some_iff (hit : RouteHit) :
    (RouteTable.ofRules rules).route g path model = some hit ↔
      ∃ r i, Wins (tiers g path model) rules r i ∧
        hit = { ruleId := r.id, provider := r.provider,
                finalModel := model.map fun m => r.rewrite.getD m,
                rewritten := r.rewrite.isSome && model.isSome,
                viaGeneric := decide ((groupTiers g path model).length ≤ i) } := by
  have htiers := firstIn_tiers (RouteTable.ofRules rules) g path model
  unfold RouteTable.route
  rw [matchIn_eq_firstIn, matchIn_eq_firstIn]
  cases hA : (RouteTable.ofRules rules).firstIn (groupTiers g path model) with
  | some r₀ =>
    -- the request's own group has a match: it wins, and not through the generic group
    rw [hA, Option.some_or] at htiers
    have hg₀ := group_of_firstIn hA
    simp only [Option.map_some, Option.some.injEq]
    exact hit_eq_iff_of_firstIn hit htiers (by simp [hg₀])
  | none =>
    rw [hA, Option.none_or] at htiers
    by_cases hg : g = .generic
    · -- the generic group has no fallback
      rw [if_pos hg] at htiers
      simp only [if_pos hg, Option.map_none, reduceCtorEq, false_iff]
      rintro ⟨r, i, hw, -⟩
      exact no_winner_of_firstIn htiers ⟨r, i, hw⟩
    · rw [if_neg hg] at htiers
      simp only [if_neg hg]
      cases hB : (RouteTable.ofRules rules).firstIn (groupTiers .generic path model) with
      | none =>
        simp only [Option.map_none, reduceCtorEq, false_iff]
        rintro ⟨r, i, hw, -⟩
        exact no_winner_of_firstIn (htiers.trans hB) ⟨r, i, hw⟩
      | some r₀ =>
        -- the generic group's match wins, through the fallback
        rw [hB] at htiers
        have hne : r₀.group ≠ g := fun h => hg (h.symm.trans (group_of_firstIn hB))
        simp only [Option.map_some, Option.some.injEq]
        exact hit_eq_iff_of_firstIn hit htiers (by simp [hne])

/-- Routing picks the winner: a request goes nowhere exactly when no rule catches it in any of
its tiers, and otherwise to the rule that wins, with that rule's provider, its rewrite of the
model name if the request named one, and whether it came from the generic fallback. -/
theorem route_selects_winner (rules : List Rule) (g : Group) (path : String)
    (model : Option String) :
    ((RouteTable.ofRules rules).route g path model = none ↔
      ∀ r ∈ rules, ∀ i, ¬ Catches (tiers g path model) r i) ∧
    ∀ hit, (RouteTable.ofRules rules).route g path model = some hit ↔
      ∃ r i, Wins (tiers g path model) rules r i ∧
        hit = { ruleId := r.id, provider := r.provider,
                finalModel := model.map fun m => r.rewrite.getD m,
                rewritten := r.rewrite.isSome && model.isSome,
                viaGeneric := decide ((groupTiers g path model).length ≤ i) } :=
  ⟨route_eq_none_iff, route_eq_some_iff⟩

theorem wins_unlocked_of_catches {ts : List (Scope × String)} {i : Nat} {y : Rule}
    (hw : Wins ts rules r i) (hy : y ∈ rules) (hc : Catches ts y i) (hu : y.locked = false) :
    r.locked = false := by
  obtain ⟨l₁, l₂, rfl, -, hb, ha⟩ := hw
  rcases List.mem_append.1 hy with hy | hy
  · rcases hb y hy i hc with h | ⟨-, h | h⟩
    · exact absurd h (Nat.lt_irrefl i)
    · exact h.1
    · exact h.1.trans hu
  · rcases List.mem_cons.1 hy with rfl | hy
    · exact hu
    · cases hr : r.locked
      · rfl
      · exact absurd (.inr ⟨rfl, .inl ⟨hu, hr⟩⟩) (ha y hy i hc)

theorem wins_group {i : Nat} (hw : Wins (tiers g path model) rules r i) :
    r.group = g ∨ r.group = .generic := by
  obtain ⟨-, -, -, ⟨-, x, hx, -⟩, -, -⟩ := hw
  rcases List.mem_append.1 (List.mem_of_getElem? hx) with h | h
  · exact .inl (group_of_mem_groupTiers h)
  · split at h
    · cases h
    · exact .inr (group_of_mem_groupTiers h)

end

end ProviderRouting
