import ProviderRouting.Proofs.Service.Run
import ProviderRouting.Proofs.Service.Defaults
import Mathlib.Data.List.Perm.Basic

/-!
# The service's invariant

A service is `Sound` when its store holds exactly the cached rules, one row each (`Mirrors`), no
two rules share an id, rules of one scope hold different priorities (`Separated`) and no group
has two locked rules of one pattern (`OneDefault`). Each write through the cache keeps it, given
what the write's guard or plan establishes: a new or changed rule `Fits` the rules of other ids,
and a plan leaves the rules separated. A store call that fails changes neither store nor cache.

Locked rules are followed by `Retains before after`: each locked rule of `before` stands in
`after` in its place (`KeepsPlace`), changed at most in its provider, flag, rewrite and update
time. `Safe s t` joins the two for a run from `s` to `t`.
-/

namespace ProviderRouting

/-! ## Rows of rules -/

@[simp] theorem Row.ofRule_id (r : Rule) : (Row.ofRule r).id = r.id := rfl

theorem Row.ofRule_injective : Function.Injective Row.ofRule := fun a b h => by
  have := Row.toRule_ofRule a
  rw [h, Row.toRule_ofRule] at this
  exact (Except.ok.inj this).symm

theorem RuleKind.name_of_ofName? {s : String} {k : RuleKind} (h : RuleKind.ofName? s = some k) :
    k.name = s := by
  unfold RuleKind.ofName? at h
  split_ifs at h with h1 h2 <;> cases h
  · exact h1.symm
  · exact h2.symm

theorem Group.name_of_ofName? {s : String} {g : Group} (h : Group.ofName? s = some g) :
    g.name = s := by
  unfold Group.ofName? at h
  split_ifs at h with h1 h2 h3 <;> cases h
  · exact h1.symm
  · exact h2.symm
  · exact h3.symm

theorem Row.ofRule_of_toRule {w : Row} {r : Rule} (h : w.toRule = .ok r) : Row.ofRule r = w := by
  unfold Row.toRule at h
  cases hk : RuleKind.ofName? w.kind with
  | none =>
    rw [hk] at h
    cases h
  | some k =>
    cases hg : Group.ofName? w.group with
    | none =>
      rw [hk, hg] at h
      cases h
    | some g =>
      rw [hk, hg] at h
      cases Except.ok.inj h
      simp [Row.ofRule, RuleKind.name_of_ofName? hk, Group.name_of_ofName? hg]

/-! ## The store holds the cached rules -/

def Mirrors (st : Store) (rules : List Rule) : Prop := st.rules.Perm (rules.map Row.ofRule)

section Mirrors

variable {st st' : Store} {rules : List Rule}

theorem Mirrors.ids (h : Mirrors st rules) : (st.rules.map (·.id)).Perm (rules.map (·.id)) := by
  have := h.map Row.id
  rwa [List.map_map] at this

theorem Mirrors.insert {r : Rule} (h : Mirrors st rules) (hi : st.insertRule r = .ok st') :
    Mirrors st' (rules ++ [r]) ∧ r.id ∉ rules.map (·.id) := by
  unfold Store.insertRule at hi
  split at hi
  · cases hi
  · rename_i hfresh
    cases Except.ok.inj hi
    refine ⟨by simpa [Mirrors] using h.append_right [Row.ofRule r], fun hm => hfresh ?_⟩
    obtain ⟨w, hw, e⟩ := List.mem_map.1 (h.ids.symm.subset hm)
    exact List.any_eq_true.2 ⟨w, hw, by simp [e]⟩

theorem Mirrors.delete (h : Mirrors st rules) (id : String) :
    Mirrors (st.deleteRule id).1 (rules.filter (·.id != id)) := by
  have := h.filter fun w => w.id != id
  simpa [Mirrors, Store.deleteRule, List.filter_map, Function.comp_def] using this

theorem Mirrors.applyAssignment (h : Mirrors st rules) (hk : Keyed rules) (a : Assignment) :
    Mirrors (st.updatePriority a.id a.priority a.stamp).1 (applyAssignment a rules) := by
  have := h.map fun w => if w.id = a.id then { w with priority := a.priority, updatedAt := a.stamp }
    else w
  rw [List.map_map] at this
  rw [applyAssignment_eq_map a hk]
  simp only [Mirrors, Store.updatePriority, Store.changeRows, List.map_map]
  refine this.trans (List.Perm.of_eq (List.map_congr_left fun r _ => ?_))
  by_cases e : r.id = a.id <;> simp [e, Row.ofRule]

theorem Mirrors.writeAssignments : ∀ {st st' : Store} {rules : List Rule} (plan : List Assignment),
    Mirrors st rules → Keyed rules → writeAssignments st plan = .ok st' →
    Mirrors st' (applyAssignments rules plan)
  | _, _, _, [], h, _, hw => by
    cases Except.ok.inj hw
    exact h
  | st, _, rules, a :: plan, h, hk, hw => by
    unfold ProviderRouting.writeAssignments at hw
    have hm := h.applyAssignment hk a
    rcases hu : st.updatePriority a.id a.priority a.stamp with ⟨st₁, n⟩
    rw [hu] at hw hm
    dsimp only at hw hm
    by_cases hn : n = 0
    · rw [if_pos hn] at hw
      cases hw
    · rw [if_neg hn] at hw
      have hk' : Keyed (ProviderRouting.applyAssignment a rules) := by
        unfold Keyed
        rw [map_id_applyAssignment]
        exact hk
      exact Mirrors.writeAssignments plan hm hk' hw

theorem replaceFirst_eq_map (r : Rule) : ∀ {rules : List Rule}, Keyed rules →
    replaceFirst r rules = rules.map fun x => if x.id = r.id then r else x
  | [], _ => rfl
  | x :: xs, hk => by
    obtain ⟨hx, hk⟩ := List.nodup_cons.1 hk
    by_cases h : x.id = r.id
    · -- no later rule has the id, so the first match is the only one
      have hrest : ∀ y ∈ xs, y.id ≠ r.id := fun y hy e => hx (by
        show x.id ∈ xs.map (·.id)
        rw [h, ← e]; exact List.mem_map_of_mem hy)
      simp only [replaceFirst, h, if_true, List.map_cons]
      rw [List.map_congr_left fun y hy => if_neg (hrest y hy), List.map_id']
    · simp only [replaceFirst, h, if_false, List.map_cons, replaceFirst_eq_map r hk]

theorem Mirrors.updateRule {r : Rule} {w : Row} (h : Mirrors st rules) (hk : Keyed rules)
    (hw : st.rules.find? (·.id == r.id) = some w) :
    Mirrors (st.updateRule r.id r).1 (replaceFirst { r with createdAt := w.createdAt } rules) := by
  obtain ⟨x₀, hx₀, rfl⟩ := List.mem_map.1 (h.subset (List.mem_of_find?_eq_some hw))
  have hid : x₀.id = r.id := by simpa using List.find?_some hw
  unfold Store.updateRule Store.changeRows Mirrors
  rw [replaceFirst_eq_map _ hk]
  refine (h.map _).trans (List.Perm.of_eq ?_)
  rw [List.map_map, List.map_map]
  refine List.map_congr_left fun x hx => ?_
  by_cases e : x.id = r.id
  · -- the one rule of the id takes the new columns and keeps its creation time
    rw [hk.eq_of_id hx hx₀ (e.trans hid.symm)]
    simp [Row.ofRule, hid]
  · simp [e, Row.ofRule]

theorem exists_mapM_forall₂ {α β ε : Type} {f : α → Except ε β} {R : α → β → Prop} :
    ∀ {l : List α}, (∀ a ∈ l, ∃ b, f a = .ok b ∧ R a b) →
      ∃ bs, l.mapM f = .ok bs ∧ List.Forall₂ R l bs
  | [], _ => ⟨[], rfl, .nil⟩
  | a :: l, h => by
    obtain ⟨b, hb, hr⟩ := h a List.mem_cons_self
    obtain ⟨bs, hbs, hrs⟩ := exists_mapM_forall₂ fun x hx => h x (List.mem_cons_of_mem _ hx)
    exact ⟨b :: bs, by rw [List.mapM_cons, hb, hbs]; rfl, .cons hr hrs⟩

theorem exists_mapM_eq_ok {α β ε : Type} {f : α → Except ε β} {l : List α}
    (h : ∀ a ∈ l, ∃ b, f a = .ok b) : ∃ bs, l.mapM f = .ok bs := by
  obtain ⟨bs, hbs, -⟩ := exists_mapM_forall₂ (R := fun _ _ => True) fun a ha => by
    obtain ⟨b, hb⟩ := h a ha
    exact ⟨b, hb, trivial⟩
  exact ⟨bs, hbs⟩

theorem Store.sortedRows_perm (st : Store) : st.sortedRows.Perm st.rules := by
  rw [Store.sortedRows, stableSort_eq]
  exact List.mergeSort_perm _ _

theorem mirrors_of_allRules {rs : List Rule} (h : st.allRules = .ok rs) : Mirrors st rs := by
  have hmap := (mapM_eq_ok (g := Row.ofRule) (P := fun _ => True)
    (fun w r hw => ⟨Row.ofRule_of_toRule hw, trivial⟩) h).1
  unfold Mirrors
  rw [hmap]
  exact st.sortedRows_perm.symm

theorem Mirrors.allRules (h : Mirrors st rules) :
    ∃ rs, st.allRules = .ok rs ∧ rs.Perm rules ∧ Mirrors st rs := by
  obtain ⟨rs, hrs⟩ := exists_mapM_eq_ok (f := Row.toRule) (l := st.sortedRows) fun w hw => by
    obtain ⟨r, -, rfl⟩ := List.mem_map.1 (h.subset (st.sortedRows_perm.subset hw))
    exact ⟨r, Row.toRule_ofRule r⟩
  have hm := mirrors_of_allRules hrs
  exact ⟨rs, hrs, (List.map_perm_map_iff Row.ofRule_injective).1 (hm.symm.trans h), hm⟩

theorem Mirrors.keyed (h : Mirrors st rules) (hn : (st.rules.map (·.id)).Nodup) : Keyed rules :=
  h.ids.nodup_iff.1 hn

end Mirrors

/-! ## The invariant -/

/-- What holds of a service between operations: the store holds the cached rules, no two share
an id, rules of one scope hold different priorities, and a group has one locked rule of each
pattern at most. -/
structure Sound (s : Service) : Prop where
  mirrors : Mirrors s.store s.cache
  keyed : Keyed s.cache
  separated : Separated s.cache
  oneDefault : OneDefault s.cache

def Fits (rules : List Rule) (r : Rule) : Prop :=
  ∀ x ∈ rules, x.id ≠ r.id → Apart x r ∧ DefaultsApart x r

theorem pairwise_append_single {R : Rule → Rule → Prop} {rules : List Rule} {r : Rule}
    (h : rules.Pairwise R) (hr : ∀ x ∈ rules, R x r) : (rules ++ [r]).Pairwise R :=
  List.pairwise_append.2 ⟨h, List.pairwise_singleton _ _, fun x hx y hy => by
    rw [List.mem_singleton] at hy
    exact hy ▸ hr x hx⟩

theorem pairwise_replace {R : Rule → Rule → Prop} (hR : ∀ a b, R a b → R b a)
    {rules : List Rule} {r : Rule} (hk : Keyed rules) (h : rules.Pairwise R)
    (hr : ∀ x ∈ rules, x.id ≠ r.id → R x r) :
    (rules.map fun x => if x.id = r.id then r else x).Pairwise R := by
  refine List.pairwise_map.2 (hk.pairwise fun a ha b hb hne => ?_)
  by_cases hb' : b.id = r.id
  · have ha' : a.id ≠ r.id := fun e => hne (e.trans hb'.symm)
    rw [if_neg ha', if_pos hb']
    exact hr a ha ha'
  · by_cases ha' : a.id = r.id
    · rw [if_pos ha', if_neg hb']
      exact hR _ _ (hr b hb hb')
    · rw [if_neg ha', if_neg hb']
      exact pairwise_rel_of_ne hR h ha hb fun e => hne (congrArg Rule.id e)

theorem keyed_replaceFirst {rules : List Rule} {r : Rule} (hk : Keyed rules) :
    Keyed (replaceFirst r rules) := by
  unfold Keyed at hk ⊢
  rw [replaceFirst_eq_map r hk, List.map_map]
  refine (List.map_congr_left fun x _ => ?_).symm ▸ hk
  by_cases e : x.id = r.id <;> simp [e]

theorem OneDefault.apart {rules : List Rule} (h : OneDefault rules) {a b : Rule} (ha : a ∈ rules)
    (hb : b ∈ rules) (hne : a.id ≠ b.id) : DefaultsApart a b :=
  pairwise_rel_of_ne (fun _ _ => Std.Symm.symm _ _) h ha hb fun e => hne (congrArg Rule.id e)

theorem fits_next {rules : List Rule} {r : Rule} {sc : Scope} {p : Int}
    (hn : nextPriority rules sc = .ok p) (hs : r.scope = sc) (hp : r.priority = p)
    (hd : ∀ x ∈ rules, x.id ≠ r.id → DefaultsApart x r) : Fits rules r :=
  fun x hx hne => ⟨fun e => hp ▸ Int.ne_of_lt (lt_nextPriority hn x hx (e.trans hs)), hd x hx hne⟩

section Writes

variable {s : Service} {r : Rule}

theorem Sound.tick (h : Sound s) : Sound s.tick := ⟨h.mirrors, h.keyed, h.separated, h.oneDefault⟩

theorem Sound.congr {t : Service} (h : Sound s) (hst : t.store.rules = s.store.rules)
    (hc : t.cache = s.cache) : Sound t := by
  obtain ⟨hm, hk, hs, ho⟩ := h
  have hm' : Mirrors t.store t.cache := by
    unfold Mirrors
    rw [hst, hc]
    exact hm
  exact ⟨hm', hc ▸ hk, hc ▸ hs, hc ▸ ho⟩

theorem Sound.create {st : Store} (h : Sound s) (hfit : Fits s.cache r)
    (hi : s.store.insertRule r = .ok st) :
    Sound { s.tick with store := st, cache := s.cache ++ [r] } := by
  obtain ⟨hm, hfresh⟩ := h.mirrors.insert hi
  have hne : ∀ x ∈ s.cache, x.id ≠ r.id := fun x hx e => hfresh (e ▸ List.mem_map_of_mem hx)
  refine ⟨hm, ?_, h.separated.append fun x hx => (hfit x hx (hne x hx)).1,
    pairwise_append_single h.oneDefault fun x hx => (hfit x hx (hne x hx)).2⟩
  show ((s.cache ++ [r]).map (·.id)).Nodup
  rw [List.map_append, List.map_singleton]
  exact List.nodup_append.2 ⟨h.keyed, List.nodup_singleton _, fun a ha b hb e => by
    rw [List.mem_singleton] at hb
    exact hfresh (hb ▸ e ▸ ha)⟩

theorem Sound.delete (h : Sound s) (id : String) :
    Sound { s.tick with
      store := (s.store.deleteRule id).1
      cache := s.cache.filter (·.id != id) } :=
  ⟨h.mirrors.delete id, h.keyed.sublist List.filter_sublist,
    h.separated.sublist List.filter_sublist, h.oneDefault.sublist List.filter_sublist⟩

theorem Sound.assign {st : Store} {plan : List Assignment} (h : Sound s)
    (hp : (plan.map (·.id)).Nodup) (hsep : Separated (applyAssignments s.cache plan))
    (hw : writeAssignments s.store plan = .ok st) :
    Sound { s.tick with store := st, cache := applyAssignments s.cache plan } := by
  have heq := applyAssignments_eq_map h.keyed hp
  refine ⟨h.mirrors.writeAssignments plan h.keyed hw, heq ▸ keyed_map_reassign plan h.keyed,
    hsep, ?_⟩
  -- a plan moves priorities only, so the locked rules stay what they were
  show OneDefault (applyAssignments s.cache plan)
  rw [heq]
  exact List.pairwise_map.2 (h.oneDefault.imp fun hd => by
    simpa [DefaultsApart, Rule.locked] using hd)

theorem Sound.separated_of_keepsApart {plan : List Assignment} (h : Sound s)
    (hp : KeepsApart s.cache plan) : Separated (applyAssignments s.cache plan) :=
  separated_applyAssignments h.keyed hp fun _ hx _ hy hne _ _ => h.separated.apart hx hy hne

theorem Sound.update {w : Row} (h : Sound s) (hfit : Fits s.cache r)
    (hw : s.store.rules.find? (·.id == r.id) = some w) :
    Sound { s.tick with
      store := (s.store.updateRule r.id r).1
      cache := replaceFirst { r with createdAt := w.createdAt } s.cache } := by
  have heq := replaceFirst_eq_map { r with createdAt := w.createdAt } h.keyed
  refine ⟨h.mirrors.updateRule h.keyed hw, keyed_replaceFirst h.keyed, ?_, ?_⟩
  · show Separated (replaceFirst _ s.cache)
    rw [heq]
    exact pairwise_replace (fun _ _ => Std.Symm.symm _ _) h.keyed h.separated
      fun x hx hne => (hfit x hx hne).1
  · show OneDefault (replaceFirst _ s.cache)
    rw [heq]
    exact pairwise_replace (fun _ _ => Std.Symm.symm _ _) h.keyed h.oneDefault
      fun x hx hne => (hfit x hx hne).2

end Writes

/-! ## Locked rules stay in place -/

/-- `r'` stands where `r` stood: same id, group, kind, pattern, priority and creation time; its
provider, flag, rewrite and update time may differ. -/
structure KeepsPlace (r r' : Rule) : Prop where
  id : r'.id = r.id
  group : r'.group = r.group
  kind : r'.kind = r.kind
  pattern : r'.pattern = r.pattern
  priority : r'.priority = r.priority
  createdAt : r'.createdAt = r.createdAt

theorem KeepsPlace.refl (r : Rule) : KeepsPlace r r := ⟨rfl, rfl, rfl, rfl, rfl, rfl⟩

theorem KeepsPlace.trans {r r' r'' : Rule} (h₁ : KeepsPlace r r') (h₂ : KeepsPlace r' r'') :
    KeepsPlace r r'' :=
  ⟨h₂.id.trans h₁.id, h₂.group.trans h₁.group, h₂.kind.trans h₁.kind,
    h₂.pattern.trans h₁.pattern, h₂.priority.trans h₁.priority, h₂.createdAt.trans h₁.createdAt⟩

theorem KeepsPlace.locked {r r' : Rule} (h : KeepsPlace r r') : r'.locked = r.locked := by
  simp only [Rule.locked, h.kind, h.pattern]

theorem KeepsPlace.symm {r r' : Rule} (h : KeepsPlace r r') : KeepsPlace r' r :=
  ⟨h.id.symm, h.group.symm, h.kind.symm, h.pattern.symm, h.priority.symm, h.createdAt.symm⟩

theorem KeepsPlace.scope {r r' : Rule} (h : KeepsPlace r r') : r'.scope = r.scope := by
  simp only [Rule.scope, h.group, h.kind]

def Retains (before after : List Rule) : Prop :=
  ∀ r ∈ before, r.locked = true → ∃ r' ∈ after, KeepsPlace r r'

section Retains

variable {rules rules' rules'' : List Rule}

theorem Retains.refl (rules : List Rule) : Retains rules rules :=
  fun r hr _ => ⟨r, hr, KeepsPlace.refl r⟩

theorem Retains.trans (h₁ : Retains rules rules') (h₂ : Retains rules' rules'') :
    Retains rules rules'' := fun r hr hl => by
  obtain ⟨r', hr', hp⟩ := h₁ r hr hl
  obtain ⟨r'', hr'', hp'⟩ := h₂ r' hr' (hp.locked.trans hl)
  exact ⟨r'', hr'', hp.trans hp'⟩

theorem retains_of_subset (h : ∀ x ∈ rules, x ∈ rules') : Retains rules rules' :=
  fun r hr _ => ⟨r, h r hr, KeepsPlace.refl r⟩

theorem retains_filter {id : String} (h : ∀ x ∈ rules, x.id = id → x.locked = false) :
    Retains rules (rules.filter (·.id != id)) := fun r hr hl => by
  refine ⟨r, List.mem_filter.2 ⟨hr, ?_⟩, KeepsPlace.refl r⟩
  simpa using fun e => absurd hl (by simp [h r hr e])

theorem retains_applyAssignments {plan : List Assignment} (hk : Keyed rules)
    (hp : (plan.map (·.id)).Nodup) (h : ∀ a ∈ plan, ∀ x ∈ rules, x.id = a.id → x.locked = false) :
    Retains rules (applyAssignments rules plan) := fun r hr hl => by
  rw [applyAssignments_eq_map hk hp]
  have hout : r.id ∉ plan.map (·.id) := fun hm => by
    obtain ⟨a, ha, e⟩ := List.mem_map.1 hm
    rw [h a ha r hr e.symm] at hl
    cases hl
  exact ⟨r, List.mem_map.2 ⟨r, hr, reassign_of_not_mem hout⟩, KeepsPlace.refl r⟩

theorem retains_replaceFirst {r : Rule} (hk : Keyed rules)
    (h : ∀ x ∈ rules, x.id = r.id → x.locked = true → KeepsPlace x r) :
    Retains rules (replaceFirst r rules) := fun x hx hl => by
  rw [replaceFirst_eq_map r hk]
  refine ⟨_, List.mem_map_of_mem hx, ?_⟩
  by_cases e : x.id = r.id
  · rw [if_pos e]
    exact h x hx e hl
  · rw [if_neg e]
    exact KeepsPlace.refl x

end Retains

/-! ## Safe runs -/

/-- What a run keeps from where it starts, `s`, to where it ends, `t`: the invariant, and every
locked rule in its place. -/
structure Safe (s t : Service) : Prop where
  sound : Sound t
  retains : Retains s.cache t.cache

theorem Safe.refl {s : Service} (h : Sound s) : Safe s s := ⟨h, Retains.refl _⟩

theorem Safe.trans {s t u : Service} (h₁ : Safe s t) (h₂ : Safe t u) : Safe s u :=
  ⟨h₂.sound, h₁.retains.trans h₂.retains⟩

theorem Safe.of_same {s t : Service} (h : Sound s) (hst : t.store.rules = s.store.rules)
    (hc : t.cache = s.cache) : Safe s t :=
  ⟨h.congr hst hc, hc ▸ Retains.refl _⟩

theorem Ends.after {α : Type} {m : ServiceM α} {s s' : Service} (h₁ : Safe s s')
    (h : Ends m (fun _ => Safe s') (fun _ => Safe s') s') :
    Ends m (fun _ => Safe s) (fun _ => Safe s) s' :=
  h.mono (fun _ _ => h₁.trans) fun _ _ => h₁.trans

theorem Ends.after_same {α : Type} {m : ServiceM α} {s t : Service} (h : Sound s)
    (hst : t.store.rules = s.store.rules) (hc : t.cache = s.cache)
    (hm : Sound t → Ends m (fun _ => Safe t) (fun _ => Safe t) t) :
    Ends m (fun _ => Safe s) (fun _ => Safe s) t :=
  Ends.after (Safe.of_same h hst hc) (hm (h.congr hst hc))

/-! ## Writes through the cache -/

section Persist

variable {s : Service} {r : Rule}

theorem persistCreate_sound (h : Sound s) (hfit : Fits s.cache r) :
    Ends (persistCreate r) (fun _ t => Sound t ∧ t.cache = s.cache ++ [r])
      (fun _ t => Sound t ∧ t.cache = s.cache) s :=
  ends_persistCreate r (fun _ hi => ⟨h.create hfit hi, rfl⟩) fun _ => ⟨h.tick, rfl⟩

theorem persistDelete_sound (h : Sound s) (id : String) :
    Ends (persistDelete id) (fun _ t => Sound t ∧ t.cache = s.cache.filter (·.id != id))
      (fun _ t => Sound t ∧ t.cache = s.cache) s :=
  ends_persistDelete id (fun _ => ⟨h.delete id, rfl⟩) fun _ => ⟨h.tick, rfl⟩

theorem persistAssignments_sound {plan : List Assignment} (h : Sound s)
    (hp : (plan.map (·.id)).Nodup) (hsep : Separated (applyAssignments s.cache plan)) :
    Ends (persistAssignments plan)
      (fun _ t => Sound t ∧ t.cache = applyAssignments s.cache plan)
      (fun _ t => Sound t ∧ t.cache = s.cache) s :=
  ends_persistAssignments plan (fun _ hw => ⟨h.assign hp hsep hw, rfl⟩) fun _ => ⟨h.tick, rfl⟩

theorem persistUpdate_sound (h : Sound s) (hfit : Fits s.cache r) :
    Ends (persistUpdate r)
      (fun _ t => Sound t ∧ ∃ x ∈ s.cache, x.id = r.id ∧
        t.cache = replaceFirst { r with createdAt := x.createdAt } s.cache)
      (fun _ t => Sound t ∧ t.cache = s.cache) s := by
  refine ends_persistUpdate r (fun w hw => ⟨h.update hfit hw, ?_⟩) fun _ => ⟨h.tick, rfl⟩
  obtain ⟨x, hx, rfl⟩ := List.mem_map.1 (h.mirrors.subset (List.mem_of_find?_eq_some hw))
  exact ⟨x, hx, by simpa using List.find?_some hw, rfl⟩

end Persist

/-! ## Safe writes -/

section Safe

variable {s : Service} {r : Rule}

theorem persistCreate_safe (h : Sound s) (hfit : Fits s.cache r) :
    Ends (persistCreate r) (fun _ => Safe s) (fun _ => Safe s) s :=
  (persistCreate_sound h hfit).mono
    (fun _ _ ht => ⟨ht.1, ht.2 ▸ retains_of_subset fun _ hx => List.mem_append_left _ hx⟩)
    (fun _ _ ht => ⟨ht.1, ht.2 ▸ Retains.refl _⟩)

theorem persistUpdate_safe (h : Sound s) (hfit : Fits s.cache r)
    (hplace : ∀ x ∈ s.cache, x.id = r.id → x.locked = true →
      KeepsPlace x { r with createdAt := x.createdAt }) :
    Ends (persistUpdate r) (fun _ => Safe s) (fun _ => Safe s) s := by
  refine (persistUpdate_sound h hfit).mono (fun _ t ⟨ht, x, hx, hid, hc⟩ => ⟨ht, ?_⟩)
    fun _ _ ht => ⟨ht.1, ht.2 ▸ Retains.refl _⟩
  rw [hc]
  refine retains_replaceFirst h.keyed fun y hy e hl => ?_
  rw [h.keyed.eq_of_id hy hx (e.trans hid.symm)] at hl ⊢
  exact hplace x hx hid hl

theorem fits_of_keepsPlace {x : Rule} (h : Sound s) (hx : x ∈ s.cache)
    (hp : KeepsPlace x r) : Fits s.cache r := by
  intro y hy hne
  have hne' : y.id ≠ x.id := hp.id ▸ hne
  have hyx : Apart y x := h.separated.apart hy hx hne'
  have hdx : DefaultsApart y x := h.oneDefault.apart hy hx hne'
  refine ⟨fun hs => hp.priority ▸ hyx (hs.trans hp.scope), fun hyl hrl hg => ?_⟩
  rw [hp.pattern]
  exact hdx hyl (hp.locked ▸ hrl) (hg.trans hp.group)

theorem persistUpdate_inPlace (h : Sound s)
    (hp : ∀ x ∈ s.cache, x.id = r.id → KeepsPlace x r) :
    Ends (persistUpdate r) (fun _ t => Safe s t ∧ t.cache = replaceFirst r s.cache)
      (fun _ t => Safe s t ∧ t.cache = s.cache) s := by
  refine ends_persistUpdate r (fun w hw => ?_) fun _ => ⟨Safe.of_same h rfl rfl, rfl⟩
  obtain ⟨x, hx, rfl⟩ := List.mem_map.1 (h.mirrors.subset (List.mem_of_find?_eq_some hw))
  have hpx := hp x hx (by simpa using List.find?_some hw)
  have hr : ({ r with createdAt := (Row.ofRule x).createdAt } : Rule) = r := by
    rw [show (Row.ofRule x).createdAt = r.createdAt from hpx.createdAt.symm]
  have hs := h.update (fits_of_keepsPlace h hx hpx) hw
  rw [hr] at hs ⊢
  refine ⟨⟨hs, retains_replaceFirst h.keyed fun _ hy e _ => ?_⟩, rfl⟩
  rw [h.keyed.eq_of_id hy hx (e.trans hpx.id)]
  exact hpx

theorem persistUpdate_placed {x : Rule} (h : Sound s) (hx : x ∈ s.cache)
    (hp : KeepsPlace x r) : Ends (persistUpdate r) (fun _ => Safe s) (fun _ => Safe s) s :=
  (persistUpdate_inPlace h fun _ hy e => h.keyed.eq_of_id hy hx (e.trans hp.id) ▸ hp).mono
    (fun _ _ ht => ht.1) fun _ _ ht => ht.1

theorem Sound.reread {t : Service} {rs : List Rule} (h : Sound s) (hperm : rs.Perm s.cache)
    (hm : Mirrors s.store rs) (hst : t.store = s.store) (hc : t.cache = rs) : Safe s t := by
  have hsymm : ∀ {R : Rule → Rule → Prop} [Std.Symm R], s.cache.Pairwise R → rs.Pairwise R :=
    fun hp => (hperm.pairwise_iff fun hab => Std.Symm.symm _ _ hab).2 hp
  refine ⟨⟨hst ▸ hc ▸ hm, hc ▸ (hperm.map _).nodup_iff.2 h.keyed, hc ▸ hsymm h.separated,
    hc ▸ hsymm h.oneDefault⟩, hc ▸ retains_of_subset fun _ hx => hperm.symm.subset hx⟩

end Safe

end ProviderRouting
