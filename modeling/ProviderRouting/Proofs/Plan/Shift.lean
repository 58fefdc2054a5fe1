import ProviderRouting.Proofs.Plan.Apart

/-!
# Making room, and breaking ties

`planInsertBefore` moves the anchor and the unlocked rules after it up, one slot each past the
slots locked rules hold, until a gap takes the shift (`shiftUp_spec`). The rules it moves end on
increasing priorities above the anchor's and below every rule it leaves in place, so the plan
keeps rules apart and leaves the anchor's priority free for the new rule.

`planTieBreak` keeps, in each scope, the first rule of each priority and sends every other past
the largest priority of the scope; on separated rules it plans nothing.
-/

namespace ProviderRouting

/-! ## Skipping held slots -/

theorem skipHeld_spec (held : List Int) : ∀ (n : Nat) (p v : Int), skipHeld held n p = .ok v →
    p ≤ v ∧ (v ∉ held ∨ ∀ i : Nat, i ≤ n → p + i ∈ held)
  | 0, p, v, h => by
    unfold skipHeld at h
    cases Except.ok.inj h
    by_cases hp : p ∈ held
    · exact ⟨Int.le_refl p, Or.inr fun i hi => by simpa [Nat.le_zero.1 hi] using hp⟩
    · exact ⟨Int.le_refl p, Or.inl hp⟩
  | n + 1, p, v, h => by
    unfold skipHeld at h
    split at h
    · rename_i hp
      obtain ⟨q, hq, h⟩ := bind_eq_ok h
      have hq := stepUp_eq_ok hq
      obtain ⟨hle, hv⟩ := skipHeld_spec held n q v h
      refine ⟨by omega, hv.imp_right fun hrun i hi => ?_⟩
      cases i with
      | zero => simpa using hp
      | succ j =>
        have := hrun j (by omega)
        rwa [hq, show p + 1 + (j : Int) = p + ((j + 1 : Nat) : Int) by omega] at this
    · rename_i hp
      cases Except.ok.inj h
      exact ⟨Int.le_refl p, Or.inl hp⟩

theorem skipHeld_not_mem {held : List Int} {p v : Int} (h : skipHeld held held.length p = .ok v) :
    v ∉ held :=
  (skipHeld_spec held _ p v h).2.resolve_right (not_forall_run_mem held p)

/-! ## Shifting rules up -/

/-- What `shiftUp` does to rules sorted by priority: it moves a prefix of them, to increasing
priorities above the cursor that no locked rule holds, and every rule after the prefix lies
above the cursor and above every moved rule. -/
theorem shiftUp_spec (held : List Int) (now : Time.Instant) : ∀ (c : Int) (rs : List Rule)
    (plan : List Assignment), rs.Pairwise (·.priority ≤ ·.priority) →
    shiftUp held now c rs = .ok plan →
    plan.map (·.id) = (rs.take plan.length).map (·.id) ∧
    (∀ a ∈ plan, c < a.priority ∧ a.priority ∉ held) ∧
    plan.Pairwise (·.priority < ·.priority) ∧
    ∀ r ∈ rs.drop plan.length, c < r.priority ∧ ∀ a ∈ plan, a.priority < r.priority
  | _, [], plan, _, h => by
    cases Except.ok.inj h
    simp
  | c, r :: rs, plan, hsorted, h => by
    obtain ⟨hr, hsorted⟩ := List.pairwise_cons.1 hsorted
    unfold shiftUp at h
    obtain ⟨q, hq, h⟩ := bind_eq_ok h
    obtain ⟨next, hnext, h⟩ := bind_eq_ok h
    have hcq := stepUp_eq_ok hq
    have hqn := (skipHeld_spec held _ q next hnext).1
    have hfree := skipHeld_not_mem hnext
    split at h
    · -- `r` already lies beyond the next slot: nothing moves
      rename_i hle
      cases Except.ok.inj h
      refine ⟨rfl, by simp, List.Pairwise.nil, fun x hx => ⟨?_, by simp⟩⟩
      rcases List.mem_cons.1 hx with rfl | hx
      · omega
      · have := hr x hx
        omega
    · rename_i hlt
      obtain ⟨rest, hrest, h⟩ := bind_eq_ok h
      cases Except.ok.inj h
      obtain ⟨hids, hbounds, hinc, hafter⟩ := shiftUp_spec held now next rs rest hsorted hrest
      refine ⟨by simp [hids], ?_, ?_, ?_⟩
      · intro a ha
        rcases List.mem_cons.1 ha with rfl | ha
        · exact ⟨show c < next by omega, hfree⟩
        · have := hbounds a ha
          exact ⟨by omega, this.2⟩
      · exact List.pairwise_cons.2 ⟨fun a ha => (hbounds a ha).1, hinc⟩
      · intro x hx
        obtain ⟨hnx, hax⟩ := hafter x (by simpa using hx)
        refine ⟨by omega, fun a ha => ?_⟩
        rcases List.mem_cons.1 ha with rfl | ha
        · exact hnx
        · exact hax a ha

/-! ## Insertion before an anchor -/

section Insert

variable {rules : List Rule} {s : Scope} {anchor : String} {now : Time.Instant} {p : Int}
  {shifted : List Assignment}

def laterThan (rules : List Rule) (s : Scope) (a : Rule) : List Rule :=
  (rules.filter fun r => r.scope == s && !r.locked && a.priority ≤ r.priority)
    |>.mergeSort fun x y => x.priority ≤ y.priority

theorem mem_laterThan {a x : Rule} : x ∈ laterThan rules s a ↔
    x ∈ rules ∧ x.scope = s ∧ x.locked = false ∧ a.priority ≤ x.priority := by
  simp [laterThan, List.mem_mergeSort, and_assoc]

theorem laterThan_sorted (a : Rule) :
    (laterThan rules s a).Pairwise (·.priority ≤ ·.priority) := by
  have := @List.pairwise_mergeSort Rule (fun x y => decide (x.priority ≤ y.priority))
    (fun x y z hxy hyz => by simp only [decide_eq_true_eq] at *; omega)
    (fun x y => by simp only [Bool.or_eq_true, decide_eq_true_eq]; omega)
    (rules.filter fun r => r.scope == s && !r.locked && a.priority ≤ r.priority)
  exact this.imp fun h => by simpa using h

theorem Keyed.laterThan (hk : Keyed rules) (a : Rule) : Keyed (laterThan rules s a) :=
  ((List.mergeSort_perm _ _).map _).nodup_iff.2 (Keyed.sublist List.filter_sublist hk)

theorem planInsertBefore_spec (h : planInsertBefore rules s anchor now = .ok (p, shifted)) :
    ∃ a, rules.find? (fun r => r.id == anchor && r.scope == s) = some a ∧ a.locked = false ∧
      p = a.priority ∧
      shiftUp ((rules.filter fun r => r.scope == s && r.locked).map (·.priority)) now a.priority
        (laterThan rules s a) = .ok shifted := by
  unfold planInsertBefore at h
  cases ha : rules.find? (fun r => r.id == anchor && r.scope == s) with
  | none =>
    simp only [ha] at h
    cases h
  | some a =>
    simp only [ha] at h
    cases hlock : a.locked
    · rw [hlock, if_neg Bool.false_ne_true] at h
      obtain ⟨plan, hplan, h⟩ := bind_eq_ok h
      obtain ⟨rfl, rfl⟩ := Prod.mk.inj (Except.ok.inj h)
      exact ⟨a, rfl, hlock, rfl, hplan⟩
    · simp only [hlock] at h
      cases h

theorem mem_drop_of_not_mem_ids {rs : List Rule} {plan : List Assignment}
    (hids : plan.map (·.id) = (rs.take plan.length).map (·.id)) {x : Rule} (hx : x ∈ rs)
    (hn : x.id ∉ plan.map (·.id)) : x ∈ rs.drop plan.length := by
  rw [← List.take_append_drop plan.length rs, List.mem_append] at hx
  exact hx.resolve_left fun ht => hn (hids ▸ List.mem_map_of_mem ht)

theorem exists_of_mem_ids {rs : List Rule} {plan : List Assignment}
    (hids : plan.map (·.id) = (rs.take plan.length).map (·.id)) {b : Assignment} (hb : b ∈ plan) :
    ∃ r ∈ rs, r.id = b.id := by
  have : b.id ∈ (rs.take plan.length).map (·.id) := hids ▸ List.mem_map_of_mem hb
  obtain ⟨r, hr, e⟩ := List.mem_map.1 this
  exact ⟨r, List.mem_of_mem_take hr, e⟩

theorem planInsertBefore_moved (hk : Keyed rules)
    (h : planInsertBefore rules s anchor now = .ok (p, shifted)) :
    ∀ b ∈ shifted, ∀ r ∈ rules, r.id = b.id → r.scope = s ∧ r.locked = false := by
  obtain ⟨a, -, -, -, hplan⟩ := planInsertBefore_spec h
  obtain ⟨hids, -⟩ := shiftUp_spec _ _ _ _ _ (laterThan_sorted a) hplan
  intro b hb r hr hid
  obtain ⟨r', hr', e⟩ := exists_of_mem_ids hids hb
  obtain ⟨hr'm, hscope, hlock, -⟩ := mem_laterThan.1 hr'
  rw [hk.eq_of_id hr hr'm (hid.trans e.symm)]
  exact ⟨hscope, hlock⟩

theorem planInsertBefore_keepsApart (hk : Keyed rules)
    (h : planInsertBefore rules s anchor now = .ok (p, shifted)) : KeepsApart rules shifted := by
  obtain ⟨a, -, -, -, hplan⟩ := planInsertBefore_spec h
  obtain ⟨hids, hbounds, hinc, hafter⟩ := shiftUp_spec _ _ _ _ _ (laterThan_sorted a) hplan
  have hmoved := planInsertBefore_moved hk h
  refine ⟨?_, ?_, fun b hb c hc hbc _ _ _ _ _ _ _ => ne_of_pairwise_lt hinc hb hc hbc⟩
  · rw [hids]
    exact ((List.take_sublist _ _).map _).nodup (hk.laterThan a)
  · intro b hb r hr hid x hx hxid hscope
    obtain ⟨hrs, -⟩ := hmoved b hb r hr hid
    by_cases hlock : x.locked = true
    · -- a locked rule holds its priority, which no move takes
      exact fun e => (hbounds b hb).2 (List.mem_map.2 ⟨x, List.mem_filter.2
        ⟨hx, by simp [hscope.trans hrs, hlock]⟩, e⟩)
    · by_cases hle : a.priority ≤ x.priority
      · have hlater : x ∈ laterThan rules s a :=
          mem_laterThan.2 ⟨hx, hscope.trans hrs, by simpa using hlock, hle⟩
        exact Int.ne_of_gt ((hafter x (mem_drop_of_not_mem_ids hids hlater hxid)).2 b hb)
      · have := (hbounds b hb).1
        omega

theorem planInsertBefore_free (hk : Keyed rules) (hs : Separated rules)
    (h : planInsertBefore rules s anchor now = .ok (p, shifted)) :
    ∀ x ∈ applyAssignments rules shifted, x.scope = s → x.priority ≠ p := by
  obtain ⟨a, ha, hlock, rfl, hplan⟩ := planInsertBefore_spec h
  have ham := List.mem_of_find?_eq_some ha
  have has : a.scope = s := by
    have := List.find?_some ha
    simp only [Bool.and_eq_true, beq_iff_eq] at this
    exact this.2
  obtain ⟨hids, hbounds, -, hafter⟩ := shiftUp_spec _ _ _ _ _ (laterThan_sorted a) hplan
  rw [applyAssignments_eq_map hk (planInsertBefore_keepsApart hk h).nodup]
  rintro _ hx' hscope
  obtain ⟨y, hy, rfl⟩ := List.mem_map.1 hx'
  rw [reassign_scope] at hscope
  cases fy : shifted.find? (·.id == y.id) with
  | some b =>
    rw [reassign_of_find? fy]
    exact Int.ne_of_gt ((hbounds b (mem_of_find?_id fy).1).1)
  | none =>
    rw [reassign_of_not_mem (find?_id_eq_none.1 fy)]
    by_cases hylock : y.locked = true
    · -- a locked rule is not the anchor, so it holds another priority
      have hne : y.id ≠ a.id := fun e => by
        rw [hk.eq_of_id hy ham e, hlock] at hylock
        cases hylock
      exact hs.apart hy ham hne (hscope.trans has.symm)
    · by_cases hle : a.priority ≤ y.priority
      · have hlater : y ∈ laterThan rules s a :=
          mem_laterThan.2 ⟨hy, hscope, by simpa using hylock, hle⟩
        exact Int.ne_of_gt (hafter y (mem_drop_of_not_mem_ids hids hlater
          (find?_id_eq_none.1 fy))).1
      · omega

end Insert

/-! ## Breaking ties -/

/-- What `pushTies` does: it moves some of the rules, each to a priority past `top`, in
increasing order, and the rules it keeps hold priorities not seen before and different from
each other. -/
theorem pushTies_spec (now : Time.Instant) : ∀ (seen : List Int) (top : Int) (rs : List Rule)
    (plan : List Assignment), pushTies now seen top rs = .ok plan →
    (plan.map (·.id)).Sublist (rs.map (·.id)) ∧ (∀ a ∈ plan, top < a.priority) ∧
    plan.Pairwise (·.priority < ·.priority) ∧
    (∀ x ∈ rs, x.id ∉ plan.map (·.id) → x.priority ∉ seen) ∧
    rs.Pairwise fun x y => x.id ∉ plan.map (·.id) → y.id ∉ plan.map (·.id) →
      x.priority ≠ y.priority
  | _, _, [], plan, h => by
    cases Except.ok.inj h
    simp
  | seen, top, r :: rs, plan, h => by
    unfold pushTies at h
    split at h
    · -- an earlier rule holds the priority: `r` goes past the end
      rename_i hr
      obtain ⟨top', htop, h⟩ := bind_eq_ok h
      obtain ⟨rest, hrest, h⟩ := bind_eq_ok h
      cases Except.ok.inj h
      have htop := stepUp_eq_ok htop
      obtain ⟨hsub, hbig, hinc, hkept, hpair⟩ := pushTies_spec now seen top' rs rest hrest
      have hrid : r.id ∈ (⟨r.id, top', now⟩ :: rest : List Assignment).map (·.id) := by simp
      have hrest' : ∀ {x : String}, x ∉ (⟨r.id, top', now⟩ :: rest : List Assignment).map (·.id) →
          x ∉ rest.map (·.id) := fun hx e => hx (by simp [e])
      refine ⟨by simpa using hsub.cons_cons r.id, ?_, ?_, ?_, ?_⟩
      · intro a ha
        rcases List.mem_cons.1 ha with rfl | ha
        · show top < top'
          omega
        · have := hbig a ha
          omega
      · exact List.pairwise_cons.2 ⟨fun a ha => htop ▸ hbig a ha, hinc⟩
      · intro x hx hxid
        rcases List.mem_cons.1 hx with rfl | hx
        · exact absurd hrid hxid
        · exact hkept x hx (hrest' hxid)
      · exact List.pairwise_cons.2 ⟨fun _ _ h => absurd hrid h,
          hpair.imp fun h hx hy => h (hrest' hx) (hrest' hy)⟩
    · -- the first rule of its priority keeps it
      rename_i hr
      obtain ⟨hsub, hbig, hinc, hkept, hpair⟩ := pushTies_spec now (r.priority :: seen) top rs plan h
      refine ⟨by simpa using hsub.cons r.id, hbig, hinc, ?_, ?_⟩
      · intro x hx hxid
        rcases List.mem_cons.1 hx with rfl | hx
        · exact hr
        · exact fun e => hkept x hx hxid (List.mem_cons_of_mem _ e)
      · exact List.pairwise_cons.2 ⟨fun y hy _ hyid e => hkept y hy hyid (e ▸ List.mem_cons_self),
          hpair⟩

theorem pushTies_eq_nil (now : Time.Instant) : ∀ (seen : List Int) (top : Int) (rs : List Rule),
    (rs.map (·.priority)).Nodup → (∀ x ∈ rs, x.priority ∉ seen) → pushTies now seen top rs = .ok []
  | _, _, [], _, _ => rfl
  | seen, top, r :: rs, hn, hs => by
    obtain ⟨hr, hn⟩ := List.nodup_cons.1 hn
    unfold pushTies
    rw [if_neg (hs r List.mem_cons_self)]
    refine pushTies_eq_nil now _ _ _ hn fun x hx hmem => ?_
    rcases List.mem_cons.1 hmem with e | e
    · exact hr (by show r.priority ∈ _; rw [← e]; exact List.mem_map_of_mem hx)
    · exact hs x (List.mem_cons_of_mem _ hx) e

theorem flatMapM_eq_ok {α β ε : Type} {f : α → Except ε (List β)} :
    ∀ {l : List α} {out : List β}, l.flatMapM f = .ok out →
      (∀ x ∈ l, f x = .ok ((f x).toOption.getD [])) ∧
        out = l.flatMap fun x => (f x).toOption.getD []
  | [], out, h => by
    cases Except.ok.inj h
    simp
  | a :: l, out, h => by
    rw [List.flatMapM_cons] at h
    obtain ⟨bs, hbs, h⟩ := bind_eq_ok h
    obtain ⟨bs', hbs', h⟩ := bind_eq_ok h
    cases Except.ok.inj h
    obtain ⟨hl, rfl⟩ := flatMapM_eq_ok hbs'
    refine ⟨fun x hx => ?_, by simp [hbs, Except.toOption]⟩
    rcases List.mem_cons.1 hx with rfl | hx
    · simp [hbs, Except.toOption]
    · exact hl x hx

theorem flatMapM_eq_nil {α β ε : Type} {f : α → Except ε (List β)} :
    ∀ {l : List α}, (∀ x ∈ l, f x = .ok []) → l.flatMapM f = .ok []
  | [], _ => rfl
  | a :: l, h => by
    rw [List.flatMapM_cons, h a List.mem_cons_self,
      flatMapM_eq_nil fun x hx => h x (List.mem_cons_of_mem _ hx)]
    rfl

section TieBreak

variable {rules : List Rule} {now : Time.Instant} {plan : List Assignment}

def tieOrder (rules : List Rule) (s : Scope) : List Rule :=
  (rules.filter (·.scope == s)).mergeSort keepsFirst

theorem mem_tieOrder {s : Scope} {x : Rule} : x ∈ tieOrder rules s ↔ x ∈ rules ∧ x.scope = s := by
  simp [tieOrder]

theorem planTieBreak_eq_tieOrder (rules : List Rule) (now : Time.Instant) :
    planTieBreak rules now = (scopesInOrder rules).flatMapM fun s =>
      pushTies now [] (((tieOrder rules s).map (·.priority)).max?.getD 0) (tieOrder rules s) := by
  simp only [planTieBreak, stableSort_eq]
  rfl

theorem le_top_tieOrder {s : Scope} {x : Rule} (hx : x ∈ tieOrder rules s) :
    x.priority ≤ ((tieOrder rules s).map (·.priority)).max?.getD 0 := by
  have hmem := List.mem_map_of_mem (f := (·.priority)) hx
  obtain ⟨m, hm⟩ := Option.isSome_iff_exists.1 (List.isSome_max?_of_mem hmem)
  rw [hm, Option.getD_some]
  exact (List.max?_eq_some_iff.1 hm).2 _ hmem

theorem separated_tieBreak (hk : Keyed rules) (h : planTieBreak rules now = .ok plan) :
    Separated (applyAssignments rules plan) := by
  rw [planTieBreak_eq_tieOrder] at h
  obtain ⟨hblocks, rfl⟩ := flatMapM_eq_ok h
  have spec := fun s hs => pushTies_spec now [] _ (tieOrder rules s) _ (hblocks s hs)
  have hkt : ∀ s, Keyed (tieOrder rules s) := fun s =>
    ((List.mergeSort_perm _ _).map _).nodup_iff.2 (Keyed.sublist List.filter_sublist hk)
  have hin : BlocksIn rules (scopesInOrder rules)
      (fun s => (pushTies now [] (((tieOrder rules s).map (·.priority)).max?.getD 0)
        (tieOrder rules s)).toOption.getD []) := by
    intro s hs a ha
    obtain ⟨r, hr, e⟩ := List.mem_map.1 ((spec s hs).1.subset (List.mem_map_of_mem ha))
    exact ⟨r, (mem_tieOrder.1 hr).1, e, (mem_tieOrder.1 hr).2⟩
  refine separated_applyAssignments hk (keepsApart_flatMap hk (nodup_scopesInOrder rules) hin
    (fun s hs => (spec s hs).1.nodup (hkt s)) (fun s hs => (spec s hs).2.2.1) ?_) ?_
  · -- a moved rule goes past every priority of its scope
    intro s hs a ha x hx hscope _
    exact Int.ne_of_lt (Int.lt_of_le_of_lt (le_top_tieOrder (mem_tieOrder.2 ⟨hx, hscope⟩))
      ((spec s hs).2.1 a ha))
  · -- two kept rules of a scope were kept by the same block, which keeps priorities apart
    intro x hx y hy hne hxid hyid hscope
    have hs : x.scope ∈ scopesInOrder rules := mem_scopesInOrder.2 (List.mem_map_of_mem hx)
    have hxt : x ∈ tieOrder rules x.scope := mem_tieOrder.2 ⟨hx, rfl⟩
    have hyt : y ∈ tieOrder rules x.scope := mem_tieOrder.2 ⟨hy, hscope.symm⟩
    have hblock : ∀ {z : String}, z ∉ ((scopesInOrder rules).flatMap fun s =>
        (pushTies now [] (((tieOrder rules s).map (·.priority)).max?.getD 0)
          (tieOrder rules s)).toOption.getD []).map (·.id) →
        z ∉ ((pushTies now [] (((tieOrder rules x.scope).map (·.priority)).max?.getD 0)
          (tieOrder rules x.scope)).toOption.getD []).map (·.id) := fun hz hm => hz (by
        obtain ⟨a, ha, e⟩ := List.mem_map.1 hm
        exact List.mem_map.2 ⟨a, List.mem_flatMap.2 ⟨_, hs, ha⟩, e⟩)
    exact pairwise_rel_of_ne (fun _ _ h ha hb => (h hb ha).symm) (spec x.scope hs).2.2.2.2 hxt hyt
      (fun e => hne (congrArg Rule.id e)) (hblock hxid) (hblock hyid)

theorem planTieBreak_eq_nil (hs : Separated rules) : planTieBreak rules now = .ok [] := by
  rw [planTieBreak_eq_tieOrder]
  refine flatMapM_eq_nil fun s _ => pushTies_eq_nil now _ _ _ ?_ (by simp)
  have hsep : (rules.filter (·.scope == s)).Pairwise fun x y => x.priority ≠ y.priority :=
    (List.Pairwise.sublist List.filter_sublist hs).imp_of_mem fun hx hy h => h (by
      rw [beq_iff_eq.1 (List.mem_filter.1 hx).2, beq_iff_eq.1 (List.mem_filter.1 hy).2])
  exact List.pairwise_map.2 ((List.mergeSort_perm _ _).symm.pairwise hsep Ne.symm)

end TieBreak

end ProviderRouting
