import ProviderRouting.Proofs.Plan.Apart
import ProviderRouting.Proofs.Service.Steps

/-!
# A reorder takes the lowest free slots

A reorder names rules by id. It places the unlocked rules named, each once, in the order first
named (`reorderTargets`); an unknown id refuses the whole reorder, naming the first unknown id.
Within a scope, the `j`th placed rule takes the `j`th positive value that no other rule of the
scope holds (`NthFree`, counted by `freeBelow`), where the other rules are the unplaced ones:
unnamed or locked (`heldOutside`).

`reorder_takes_free_slots` states this of `planReorder` and reads off the consequences: the placed
rules of a scope rise in the order named, clash with no other rule of the scope, stay within
`1 … |scope|`, and a full reorder of a scope whose locked rules sit above it numbers the rules
`1, 2, …` in the order named. The service's `reorder` writes that plan in one batch.
-/

namespace ProviderRouting

/-! ## Free values -/

section Free

variable {held : List Int}

def freeBelow (held : List Int) (v : Int) : Nat :=
  ((List.range v.toNat).filter fun k : Nat => 0 < k ∧ (k : Int) ∉ held).length

def NthFree (held : List Int) (j : Nat) (v : Int) : Prop :=
  0 < v ∧ v ∉ held ∧ freeBelow held v = j

theorem freeBelow_one : freeBelow held 1 = 0 := rfl

theorem freeBelow_succ {w : Int} (hw : 0 ≤ w) :
    freeBelow held (w + 1) = freeBelow held w + if 0 < w ∧ w ∉ held then 1 else 0 := by
  have hn : (w + 1).toNat = w.toNat + 1 := by omega
  have hc : ((w.toNat : Nat) : Int) = w := Int.toNat_of_nonneg hw
  have hpos : 0 < w.toNat ↔ 0 < w := by omega
  unfold freeBelow
  rw [hn, List.range_succ, List.filter_append, List.length_append, List.filter_singleton, hc]
  by_cases h : 0 < w ∧ w ∉ held
  · simp [hpos, h.1, h.2]
  · rw [if_neg h]
    simp only [hpos, h, decide_false, cond_false, List.length_nil]

theorem freeBelow_mono (held : List Int) {a b : Int} (hab : a ≤ b) :
    freeBelow held a ≤ freeBelow held b :=
  (List.range_sublist.2 (by omega)).filter _ |>.length_le

theorem freeBelow_succ_of_free {v : Int} (hv : 0 < v) (hfree : v ∉ held) :
    freeBelow held (v + 1) = freeBelow held v + 1 := by
  rw [freeBelow_succ (Int.le_of_lt hv), if_pos ⟨hv, hfree⟩]

theorem freeBelow_of_held {a : Int} (ha : 0 ≤ a) :
    ∀ k : Nat, (∀ w, a < w → w < a + 1 + k → w ∈ held) →
      freeBelow held (a + 1 + k) = freeBelow held (a + 1)
  | 0, _ => by simp
  | k + 1, h => by
    have hw : a + 1 + k ∈ held := h _ (by omega) (by omega)
    rw [show a + 1 + ((k + 1 : Nat) : Int) = a + 1 + k + 1 by omega,
      freeBelow_succ (by omega), if_neg fun hf => hf.2 hw, Nat.add_zero]
    exact freeBelow_of_held ha k fun w h1 h2 => h w h1 (by omega)

theorem freeAfter_min : ∀ (n : Nat) (slot w : Int), slot < w → w < freeAfter held n slot →
    w ∈ held
  | 0, slot, w, h1, h2 => by
    unfold freeAfter at h2
    omega
  | n + 1, slot, w, h1, h2 => by
    unfold freeAfter at h2
    split at h2
    · rename_i hs
      by_cases hw : w = slot + 1
      · exact hw ▸ hs
      · exact freeAfter_min n (slot + 1) w (by omega) h2
    · omega

theorem freeBelow_freeAfter {slot : Int} (hslot : 0 ≤ slot) :
    freeBelow held (freeAfter held held.length slot) = freeBelow held (slot + 1) := by
  have hlt := lt_freeAfter held held.length slot
  obtain ⟨k, hk⟩ : ∃ k : Nat, freeAfter held held.length slot = slot + 1 + k :=
    ⟨(freeAfter held held.length slot - slot - 1).toNat, by omega⟩
  rw [hk]
  exact freeBelow_of_held hslot k fun w h1 h2 =>
    freeAfter_min _ slot w h1 (hk ▸ h2)

theorem assignSlots_nthFree (now : Time.Instant) :
    ∀ (slot : Int) (rs : List Rule) (c : Nat), 0 ≤ slot → freeBelow held (slot + 1) = c →
      ∀ j r, rs[j]? = some r → ∃ v, (assignSlots held now slot rs)[j]? = some ⟨r.id, v, now⟩ ∧
        NthFree held (c + j) v
  | _, [], _, _, _, j, r, h => by simp at h
  | slot, x :: rs, c, hslot, hc, j, r, h => by
    have hpos : 0 < freeAfter held held.length slot := by
      have := lt_freeAfter held held.length slot
      omega
    have hfree := freeAfter_not_mem held slot
    have hcount : freeBelow held (freeAfter held held.length slot) = c := by
      rw [freeBelow_freeAfter hslot, hc]
    cases j with
    | zero =>
      cases Option.some.inj h
      exact ⟨_, rfl, hpos, hfree, hcount⟩
    | succ j =>
      obtain ⟨v, hv, hn⟩ := assignSlots_nthFree now (freeAfter held held.length slot) rs (c + 1)
        (Int.le_of_lt hpos) (by rw [freeBelow_succ_of_free hpos hfree, hcount]) j r
        (by simpa using h)
      refine ⟨v, by simpa [assignSlots] using hv, ?_⟩
      rwa [Nat.add_assoc, Nat.add_comm 1 j] at hn

theorem NthFree.lt_of_lt {j k : Nat} {v w : Int} (hv : NthFree held j v) (hw : NthFree held k w)
    (hjk : j < k) : v < w := by
  obtain ⟨hv0, hvf, hvc⟩ := hv
  obtain ⟨hw0, hwf, hwc⟩ := hw
  by_contra hle
  have hne : w ≠ v := fun e => by
    rw [e, hvc] at hwc
    omega
  have := freeBelow_mono held (show w + 1 ≤ v by omega)
  rw [freeBelow_succ_of_free hw0 hwf, hwc, hvc] at this
  omega

theorem NthFree.unique {j : Nat} {v w : Int} (hv : NthFree held j v) (hw : NthFree held j w) :
    v = w := by
  by_contra hne
  rcases Int.lt_or_gt_of_ne hne with h | h
  · have := freeBelow_mono held (show v + 1 ≤ w by omega)
    rw [freeBelow_succ_of_free hv.1 hv.2.1, hv.2.2, hw.2.2] at this
    omega
  · have := freeBelow_mono held (show w + 1 ≤ v by omega)
    rw [freeBelow_succ_of_free hw.1 hw.2.1, hw.2.2, hv.2.2] at this
    omega

theorem NthFree.le {j : Nat} {v : Int} (hv : NthFree held j v) :
    v ≤ j + 1 + held.length := by
  have hsplit := @List.length_eq_length_filter_add _ (List.range v.toNat)
    (fun k : Nat => decide (0 < k ∧ (k : Int) ∉ held))
  rw [List.length_range] at hsplit
  have hrest :
      ((List.range v.toNat).filter fun k : Nat => !decide (0 < k ∧ (k : Int) ∉ held)).length
        ≤ held.length + 1 := by
    have hsub : ((List.range v.toNat).filter fun k : Nat => !decide (0 < k ∧ (k : Int) ∉ held)).map
        (fun k : Nat => (k : Int)) ⊆ 0 :: held := by
      intro x hx
      obtain ⟨k, hk, rfl⟩ := List.mem_map.1 hx
      have := (List.mem_filter.1 hk).2
      simp only [Bool.not_eq_true', decide_eq_false_iff_not, not_and, not_not] at this
      by_cases hk0 : k = 0
      · simp [hk0]
      · exact List.mem_cons_of_mem _ (this (by omega))
    have hnd : (((List.range v.toNat).filter fun k : Nat => !decide (0 < k ∧ (k : Int) ∉ held)).map
        (fun k : Nat => (k : Int))).Nodup :=
      (List.nodup_range.filter _).map fun a b e => Int.ofNat.inj e
    simpa using hnd.length_le_of_subset hsub
  have hcount : freeBelow held v = j := hv.2.2
  unfold freeBelow at hcount
  omega

theorem nthFree_of_free_upto {n j : Nat} (hfree : ∀ v : Int, 1 ≤ v → v ≤ n → v ∉ held)
    (hj : j < n) : NthFree held j (j + 1) := by
  refine ⟨by omega, hfree _ (by omega) (by omega), ?_⟩
  have : ∀ i : Nat, i ≤ j → freeBelow held (i + 1) = i := by
    intro i hi
    induction i with
    | zero => exact freeBelow_one
    | succ i ih =>
      rw [show ((i + 1 : Nat) : Int) + 1 = (i + 1 : Int) + 1 by omega,
        freeBelow_succ_of_free (by omega) (hfree _ (by omega) (by omega)), ih (by omega)]
  exact this j (Nat.le_refl j)

end Free

/-! ## The rules a reorder places -/

def reorderTargets (rules : List Rule) (ids : List String) : List Rule :=
  (ids.eraseDups.filterMap fun id => rules.find? (·.id == id)).filter (!·.locked)

def targetsIn (rules : List Rule) (ids : List String) (s : Scope) : List Rule :=
  (reorderTargets rules ids).filter (·.scope == s)

def heldOutside (rules targets : List Rule) (s : Scope) : List Int :=
  (rules.filter fun r => r.scope == s && !(r.id ∈ targets.map (·.id))).map (·.priority)

def firstUnknown (rules : List Rule) (ids : List String) : Option String :=
  ids.find? fun id => !rules.any (·.id == id)

section Targets

variable {rules : List Rule}

theorem filter_not_mem_cons (seen : List String) (id : String) (ids : List String) :
    (ids.filter fun x => x ∉ seen).filter (fun x => !x == id) =
      ids.filter fun x => x ∉ id :: seen := by
  rw [List.filter_filter]
  refine List.filter_congr fun x _ => ?_
  by_cases h : x = id <;> simp [h]

theorem reorderListed_of_known :
    ∀ (seen ids : List String), (∀ id ∈ ids, ∃ r ∈ rules, r.id = id) →
      reorderListed rules seen ids =
        .ok (((ids.filter fun x => x ∉ seen).eraseDups.filterMap fun id =>
          rules.find? (·.id == id)).filter (!·.locked))
  | _, [], _ => rfl
  | seen, id :: ids, hknown => by
    have hrest : ∀ x ∈ ids, ∃ r ∈ rules, r.id = x := fun x hx =>
      hknown x (List.mem_cons_of_mem _ hx)
    unfold reorderListed
    by_cases hs : id ∈ seen
    · rw [if_pos hs, List.filter_cons_of_neg (by simpa using hs)]
      exact reorderListed_of_known seen ids hrest
    · rw [if_neg hs]
      obtain ⟨r, hr⟩ : ∃ r, rules.find? (·.id == id) = some r := by
        obtain ⟨x, hx, e⟩ := hknown id List.mem_cons_self
        exact Option.isSome_iff_exists.1 (List.find?_isSome.2 ⟨x, hx, by simp [e]⟩)
      simp only [hr]
      rw [reorderListed_of_known (id :: seen) ids hrest,
        List.filter_cons_of_pos (by simpa using hs), List.eraseDups_cons, filter_not_mem_cons]
      simp only [List.filterMap_cons, hr, List.filter_cons]
      cases r.locked <;> rfl

theorem reorderListed_of_unknown :
    ∀ (seen ids : List String) (x : String), (∀ id ∈ seen, ∃ r ∈ rules, r.id = id) →
      ids.find? (fun id => !rules.any (·.id == id)) = some x →
      reorderListed rules seen ids = .error (.notFound x)
  | _, [], _, _, h => by cases h
  | seen, id :: ids, x, hseen, h => by
    unfold reorderListed
    by_cases hid : rules.any (·.id == id) = true
    · rw [List.find?_cons_of_neg (by simpa using hid)] at h
      split
      · exact reorderListed_of_unknown seen ids x hseen h
      · split
        · rename_i hnone
          obtain ⟨r, hr, e⟩ := List.any_eq_true.1 hid
          exact absurd (List.find?_eq_none.1 hnone r hr) (by simpa using e)
        · rename_i r hr
          have hid' : ∀ y ∈ id :: seen, ∃ r ∈ rules, r.id = y := by
            intro y hy
            rcases List.mem_cons.1 hy with rfl | hy
            · exact ⟨r, List.mem_of_find?_eq_some hr, by simpa using List.find?_some hr⟩
            · exact hseen y hy
          rw [reorderListed_of_unknown (id :: seen) ids x hid' h]
          rfl
    · -- the first id names no rule: it is the one reported
      rw [List.find?_cons_of_pos (by simpa using hid)] at h
      cases Option.some.inj h
      have hnot : id ∉ seen := fun hs => by
        obtain ⟨r, hr, e⟩ := hseen id hs
        exact hid (List.any_eq_true.2 ⟨r, hr, by simp [e]⟩)
      rw [if_neg hnot, List.find?_eq_none.2 fun r hr e => hid (List.any_eq_true.2 ⟨r, hr, e⟩)]

theorem known_of_firstUnknown {ids : List String} (h : firstUnknown rules ids = none) :
    ∀ id ∈ ids, ∃ r ∈ rules, r.id = id := by
  intro id hid
  have := List.find?_eq_none.1 h id hid
  simp only [Bool.not_eq_true', List.any_eq_false, beq_iff_eq, not_forall, not_not] at this
  obtain ⟨r, hr, e⟩ := this
  exact ⟨r, hr, e⟩

theorem reorderListed_eq_targets {ids : List String} (h : firstUnknown rules ids = none) :
    reorderListed rules [] ids = .ok (reorderTargets rules ids) := by
  rw [reorderListed_of_known [] ids (known_of_firstUnknown h)]
  simp [reorderTargets]

theorem mem_reorderTargets {ids : List String} {r : Rule} :
    r ∈ reorderTargets rules ids ↔ (∃ id ∈ ids, rules.find? (·.id == id) = some r) ∧
      r.locked = false := by
  simp [reorderTargets, List.mem_eraseDups]

theorem eraseDups_of_nodup {α : Type} [DecidableEq α] : ∀ {l : List α}, l.Nodup → l.eraseDups = l
  | [], _ => rfl
  | a :: l, h => by
    obtain ⟨ha, hl⟩ := List.nodup_cons.1 h
    have hne : ∀ b ∈ l, (!b == a) = true := fun b hb => by
      rw [Bool.not_eq_true', beq_eq_false_iff_ne]
      exact fun e => ha (e ▸ hb)
    rw [List.eraseDups_cons, List.filter_eq_self.2 hne, eraseDups_of_nodup hl]

end Targets

/-! ## The plan -/

def reorderPlan (rules : List Rule) (ids : List String) (now : Time.Instant) : List Assignment :=
  (scopesInOrder (reorderTargets rules ids)).flatMap fun s =>
    assignSlots (heldOutside rules (reorderTargets rules ids) s) now 0 (targetsIn rules ids s)

section Plan

variable {rules : List Rule} {ids : List String} {now : Time.Instant}

theorem planReorder_of_known (h : firstUnknown rules ids = none) :
    planReorder rules ids now = .ok (reorderPlan rules ids now) := by
  unfold planReorder
  rw [reorderListed_eq_targets h]
  rfl

theorem reorderTargets_spec (h : firstUnknown rules ids = none) :
    (∀ r ∈ reorderTargets rules ids, r ∈ rules ∧ r.locked = false) ∧
      ((reorderTargets rules ids).map (·.id)).Nodup := by
  obtain ⟨hl, hn⟩ := reorderListed_spec (reorderListed_eq_targets h)
  exact ⟨fun r hr => ⟨(hl r hr).1, (hl r hr).2.1⟩, hn⟩

theorem find?_of_mem {plan : List Assignment} (hp : (plan.map (·.id)).Nodup) {a : Assignment}
    (ha : a ∈ plan) : plan.find? (·.id == a.id) = some a := by
  cases h : plan.find? (·.id == a.id) with
  | none => exact absurd (List.find?_eq_none.1 h a ha) (by simp)
  | some b =>
    obtain ⟨hb, e⟩ := mem_of_find?_id h
    rw [List.inj_on_of_nodup_map hp hb ha e]

theorem mem_targets_of_mem_reorderPlan {a : Assignment} (ha : a ∈ reorderPlan rules ids now) :
    a.id ∈ (reorderTargets rules ids).map (·.id) := by
  obtain ⟨s, -, ha⟩ := List.mem_flatMap.1 ha
  have : a.id ∈ (targetsIn rules ids s).map (·.id) :=
    assignSlots_ids _ _ _ _ ▸ List.mem_map_of_mem ha
  obtain ⟨r, hr, e⟩ := List.mem_map.1 this
  exact List.mem_map.2 ⟨r, (List.mem_filter.1 hr).1, e⟩

theorem reassign_reorderPlan_of_not_mem {r : Rule}
    (hr : r.id ∉ (reorderTargets rules ids).map (·.id)) :
    reassign (reorderPlan rules ids now) r = r := by
  refine reassign_of_not_mem fun hm => ?_
  obtain ⟨a, ha, e⟩ := List.mem_map.1 hm
  exact hr (e ▸ mem_targets_of_mem_reorderPlan ha)

theorem reassign_reorderPlan_slot (now : Time.Instant) (hk : Keyed rules)
    (h : firstUnknown rules ids = none)
    {s : Scope} {j : Nat} {r : Rule} (hj : (targetsIn rules ids s)[j]? = some r) :
    ∃ v, NthFree (heldOutside rules (reorderTargets rules ids) s) j v ∧
      reassign (reorderPlan rules ids now) r = { r with priority := v, updatedAt := now } := by
  have hr := List.mem_filter.1 (List.mem_of_getElem? hj)
  have hs : s ∈ scopesInOrder (reorderTargets rules ids) := by
    rw [mem_scopesInOrder]
    exact List.mem_map.2 ⟨r, hr.1, by simpa using hr.2⟩
  obtain ⟨v, hv, hn⟩ := assignSlots_nthFree now 0 (targetsIn rules ids s) 0 (Int.le_refl 0)
    freeBelow_one j r hj
  have ha : (⟨r.id, v, now⟩ : Assignment) ∈ reorderPlan rules ids now :=
    List.mem_flatMap.2 ⟨s, hs, List.mem_of_getElem? hv⟩
  have hnodup :=
    (planReorder_keepsApart hk (planReorder_of_known h : planReorder rules ids now = _)).nodup
  refine ⟨v, by simpa using hn, ?_⟩
  exact reassign_of_find? (find?_of_mem hnodup ha)

theorem exists_index_targetsIn {r : Rule} (hr : r ∈ reorderTargets rules ids) :
    ∃ j : Nat, (targetsIn rules ids r.scope)[j]? = some r :=
  List.mem_iff_getElem?.1 (List.mem_filter.2 ⟨hr, by simp⟩ : r ∈ targetsIn rules ids r.scope)

theorem length_targetsIn_add_le (h : firstUnknown rules ids = none) (s : Scope) :
    (targetsIn rules ids s).length + (heldOutside rules (reorderTargets rules ids) s).length ≤
      (rules.filter (·.scope == s)).length := by
  obtain ⟨hT, hn⟩ := reorderTargets_spec h
  have hsplit := @List.length_eq_length_filter_add _ (rules.filter (·.scope == s))
    (fun r => decide (r.id ∈ (reorderTargets rules ids).map (·.id)))
  rw [List.filter_filter, List.filter_filter] at hsplit
  have hin : (targetsIn rules ids s).length ≤
      (rules.filter fun r => decide (r.id ∈ (reorderTargets rules ids).map (·.id)) &&
        r.scope == s).length := by
    refine ((hn.of_map _).sublist List.filter_sublist).length_le_of_subset fun r hr => ?_
    have hr' := List.mem_filter.1 hr
    exact List.mem_filter.2 ⟨(hT r hr'.1).1, by simp [List.mem_map_of_mem hr'.1, hr'.2]⟩
  have hout : (heldOutside rules (reorderTargets rules ids) s).length =
      (rules.filter fun r => !decide (r.id ∈ (reorderTargets rules ids).map (·.id)) &&
        r.scope == s).length := by
    rw [heldOutside, List.length_map]
    congr 1
    exact List.filter_congr fun r _ => Bool.and_comm _ _
  omega

end Plan

/-! ## What a reorder does -/

/-- What a reorder's plan does to the rules: it changes only the priority and stamp of the
placed rules; the `j`th placed rule of a scope takes the `j`th free value of the scope; so the
placed rules of a scope rise in the order named, clash with no other rule of the scope and stay
within `1 … |scope|`; and a reorder naming exactly the unlocked rules of a scope, whose locked
rules hold no value in `1 … n`, gives the `i`th named rule priority `i + 1`. -/
structure Reordered (rules : List Rule) (ids : List String) (now : Time.Instant)
    (plan : List Assignment) : Prop where
  applied : applyAssignments rules plan = rules.map (reassign plan)
  frame : ∀ r ∈ rules, r.id ∉ (reorderTargets rules ids).map (·.id) → reassign plan r = r
  slots : ∀ s j r, (targetsIn rules ids s)[j]? = some r →
    ∃ v, NthFree (heldOutside rules (reorderTargets rules ids) s) j v ∧
      reassign plan r = { r with priority := v, updatedAt := now }
  rising : ∀ s (i j : Nat) ri rj, i < j → (targetsIn rules ids s)[i]? = some ri →
    (targetsIn rules ids s)[j]? = some rj →
      (reassign plan ri).priority < (reassign plan rj).priority
  apart : ∀ r ∈ reorderTargets rules ids, ∀ x ∈ rules, x.scope = r.scope → x.id ≠ r.id →
    (reassign plan x).priority ≠ (reassign plan r).priority
  bounded : ∀ r ∈ reorderTargets rules ids, 1 ≤ (reassign plan r).priority ∧
    (reassign plan r).priority ≤ (rules.filter (·.scope == r.scope)).length
  dense : ∀ s, ids.Perm ((rules.filter fun r => r.scope == s && !r.locked).map (·.id)) →
    (∀ x ∈ rules, x.scope = s → x.locked = true → x.priority < 1 ∨ ids.length < x.priority) →
    ∀ (i : Nat) (hi : i < ids.length), ∀ r ∈ rules, r.id = ids[i] →
      (reassign plan r).priority = i + 1

section Reordered

variable {rules : List Rule} {ids : List String} {now : Time.Instant}

theorem reorderPlan_rising (hk : Keyed rules) (h : firstUnknown rules ids = none) {s : Scope}
    {i j : Nat} {ri rj : Rule} (hij : i < j) (hi : (targetsIn rules ids s)[i]? = some ri)
    (hj : (targetsIn rules ids s)[j]? = some rj) :
    (reassign (reorderPlan rules ids now) ri).priority <
      (reassign (reorderPlan rules ids now) rj).priority := by
  obtain ⟨v, hv, hri⟩ := reassign_reorderPlan_slot now hk h hi
  obtain ⟨w, hw, hrj⟩ := reassign_reorderPlan_slot now hk h hj
  rw [hri, hrj]
  exact hv.lt_of_lt hw hij

theorem reorderPlan_apart (hk : Keyed rules) (h : firstUnknown rules ids = none) {r : Rule}
    (hr : r ∈ reorderTargets rules ids) {x : Rule} (hx : x ∈ rules) (hs : x.scope = r.scope)
    (hne : x.id ≠ r.id) :
    (reassign (reorderPlan rules ids now) x).priority ≠
      (reassign (reorderPlan rules ids now) r).priority := by
  obtain ⟨j, hj⟩ := exists_index_targetsIn hr
  obtain ⟨v, hv, hrv⟩ := reassign_reorderPlan_slot now hk h hj
  rw [hrv]
  show _ ≠ v
  by_cases hxT : x.id ∈ (reorderTargets rules ids).map (·.id)
  · -- `x` is placed too, at another place of the scope
    obtain ⟨y, hy, e⟩ := List.mem_map.1 hxT
    obtain rfl : y = x := hk.eq_of_id ((reorderTargets_spec h).1 y hy).1 hx e
    obtain ⟨i, hi⟩ := exists_index_targetsIn hy
    rw [hs] at hi
    obtain ⟨w, hw, hyw⟩ := reassign_reorderPlan_slot now hk h hi
    rw [hyw]
    have hij : i ≠ j := by
      rintro rfl
      rw [hi] at hj
      exact hne (congrArg Rule.id (Option.some.inj hj))
    rcases Nat.lt_or_gt_of_ne hij with hlt | hlt
    · exact Int.ne_of_lt (hw.lt_of_lt hv hlt)
    · exact Int.ne_of_gt (hv.lt_of_lt hw hlt)
  · -- `x` stays, at a priority the scope's free values avoid
    rw [reassign_reorderPlan_of_not_mem hxT]
    intro e
    exact hv.2.1 (e ▸ List.mem_map_of_mem (List.mem_filter.2 ⟨hx, by simp [hs, hxT]⟩))

theorem reorderPlan_bounded (hk : Keyed rules) (h : firstUnknown rules ids = none) {r : Rule}
    (hr : r ∈ reorderTargets rules ids) :
    1 ≤ (reassign (reorderPlan rules ids now) r).priority ∧
      (reassign (reorderPlan rules ids now) r).priority ≤
        (rules.filter (·.scope == r.scope)).length := by
  obtain ⟨j, hj⟩ := exists_index_targetsIn hr
  obtain ⟨v, hv, hrv⟩ := reassign_reorderPlan_slot now hk h hj
  rw [hrv]
  have hlen : j < (targetsIn rules ids r.scope).length := (List.getElem?_eq_some_iff.1 hj).1
  have hle := hv.le
  have hsum := length_targetsIn_add_le h r.scope
  exact ⟨hv.1, by dsimp only; omega⟩

theorem map_id_filterMap_find (hk : Keyed rules) :
    ∀ {l : List String}, (∀ id ∈ l, ∃ u ∈ rules, u.id = id ∧ u.locked = false) →
      (((l.filterMap fun id => rules.find? (·.id == id)).filter (!·.locked)).map (·.id)) = l
  | [], _ => rfl
  | id :: l, hl => by
    obtain ⟨u, hu, e, hul⟩ := hl id List.mem_cons_self
    have hf : rules.find? (·.id == id) = some u := e ▸ hk.find?_eq hu
    simp only [List.filterMap_cons, hf, List.filter_cons, hul, Bool.not_false, if_true,
      List.map_cons, e]
    rw [map_id_filterMap_find hk fun x hx => hl x (List.mem_cons_of_mem _ hx)]

theorem reorderPlan_dense (hk : Keyed rules) {s : Scope}
    (hperm : ids.Perm ((rules.filter fun r => r.scope == s && !r.locked).map (·.id)))
    (hlock : ∀ x ∈ rules, x.scope = s → x.locked = true → x.priority < 1 ∨ ids.length < x.priority)
    (i : Nat) (hi : i < ids.length) {r : Rule} (hr : r ∈ rules) (e : r.id = ids[i]) :
    (reassign (reorderPlan rules ids now) r).priority = i + 1 := by
  have hU : ∀ id ∈ ids, ∃ u ∈ rules, u.id = id ∧ u.scope = s ∧ u.locked = false := by
    intro id hid
    obtain ⟨u, hu, rfl⟩ := List.mem_map.1 (hperm.subset hid)
    obtain ⟨hu, hus⟩ := List.mem_filter.1 hu
    simp only [Bool.and_eq_true, beq_iff_eq, Bool.not_eq_true'] at hus
    exact ⟨u, hu, rfl, hus⟩
  have hnd : ids.Nodup := hperm.nodup_iff.2 ((List.filter_sublist.map _).nodup hk)
  have h : firstUnknown rules ids = none := List.find?_eq_none.2 fun id hid => by
    obtain ⟨u, hu, rfl, -⟩ := hU id hid
    simpa using ⟨u, hu, rfl⟩
  have hmap : (reorderTargets rules ids).map (·.id) = ids := by
    rw [reorderTargets, eraseDups_of_nodup hnd]
    exact map_id_filterMap_find hk fun id hid => by
      obtain ⟨u, hu, hid, -, hul⟩ := hU id hid
      exact ⟨u, hu, hid, hul⟩
  have hall : targetsIn rules ids s = reorderTargets rules ids := by
    refine List.filter_eq_self.2 fun t ht => ?_
    obtain ⟨u, hu, hid, hus, -⟩ := hU t.id (hmap ▸ List.mem_map_of_mem ht)
    rw [hk.eq_of_id ((reorderTargets_spec h).1 t ht).1 hu hid.symm, hus]
    simp
  have hri : (targetsIn rules ids s)[i]? = some r := by
    have hget : ((reorderTargets rules ids).map (·.id))[i]? = some ids[i] := by
      rw [hmap]
      exact List.getElem?_eq_getElem hi
    rw [List.getElem?_map] at hget
    obtain ⟨t, ht, htid⟩ := Option.map_eq_some_iff.1 hget
    rw [hall, ht, hk.eq_of_id ((reorderTargets_spec h).1 t (List.mem_of_getElem? ht)).1 hr
      (htid.trans e.symm)]
  have hfree : ∀ v : Int, 1 ≤ v → v ≤ ids.length →
      v ∉ heldOutside rules (reorderTargets rules ids) s := by
    intro v h1 h2 hv
    obtain ⟨x, hx, rfl⟩ := List.mem_map.1 hv
    obtain ⟨hx, hxs⟩ := List.mem_filter.1 hx
    simp only [Bool.and_eq_true, beq_iff_eq, Bool.not_eq_true', decide_eq_false_iff_not] at hxs
    cases hxl : x.locked
    · -- an unlocked rule of the scope is named, hence placed
      have hxid : x.id ∈ ids := hperm.symm.subset
        (List.mem_map_of_mem (List.mem_filter.2 ⟨hx, by simp [hxs.1, hxl]⟩))
      exact hxs.2 (by rw [hmap]; exact hxid)
    · rcases hlock x hx hxs.1 hxl with hlt | hlt <;> omega
  obtain ⟨v, hv, hrv⟩ := reassign_reorderPlan_slot now hk h hri
  rw [hrv, (nthFree_of_free_upto hfree hi).unique hv]

theorem reorderPlan_reordered (hk : Keyed rules) (h : firstUnknown rules ids = none) :
    Reordered rules ids now (reorderPlan rules ids now) where
  applied := applyAssignments_eq_map hk (planReorder_keepsApart hk (planReorder_of_known h)).nodup
  frame _ _ hr := reassign_reorderPlan_of_not_mem hr
  slots _ _ _ hj := reassign_reorderPlan_slot now hk h hj
  rising _ _ _ _ _ hij hi hj := reorderPlan_rising hk h hij hi hj
  apart _ hr _ hx hs hne := reorderPlan_apart hk h hr hx hs hne
  bounded _ hr := reorderPlan_bounded hk h hr
  dense _ hperm hlock i hi _ hr e := reorderPlan_dense hk hperm hlock i hi hr e

end Reordered

/-! ## The service's reorder -/

theorem reorder_writes_plan (s : Service) (ids : List String) :
    Ends (reorder ids)
      (fun _ t => ∃ now plan, planReorder s.cache ids now = .ok plan ∧
        t.cache = applyAssignments s.cache plan ∧
        (plan = [] ∧ t.store = s.store ∨ writeAssignments s.store plan = .ok t.store))
      (fun _ t => t.store = s.store ∧ t.cache = s.cache) s := by
  refine ends_reorder ids (fun _ _ _ => ⟨rfl, rfl⟩)
    (fun now hplan => ⟨now, [], hplan, rfl, .inl ⟨rfl, rfl⟩⟩) fun now plan hplan _ => ?_
  exact ends_persistAssignments plan (fun _ hw => ⟨now, plan, hplan, rfl, .inr hw⟩)
    fun _ => ⟨rfl, rfl⟩

/-- Reordering rules with distinct ids: an unknown id refuses the reorder, naming the first
unknown id; otherwise the plan places the unlocked rules named, each once, in the order first
named, the `j`th of a scope at the `j`th positive value no rule left in place holds, with the
consequences `Reordered` lists; and the service writes that plan in one batch. -/
theorem reorder_takes_free_slots (rules : List Rule) (ids : List String) (now : Time.Instant)
    (hk : Keyed rules) :
    (∀ x, firstUnknown rules ids = some x → planReorder rules ids now = .error (.notFound x)) ∧
    (firstUnknown rules ids = none →
      ∃ plan, planReorder rules ids now = .ok plan ∧ Reordered rules ids now plan) ∧
    ∀ s : Service, Ends (reorder ids)
      (fun _ t => ∃ now plan, planReorder s.cache ids now = .ok plan ∧
        t.cache = applyAssignments s.cache plan ∧
        (plan = [] ∧ t.store = s.store ∨ writeAssignments s.store plan = .ok t.store))
      (fun _ t => t.store = s.store ∧ t.cache = s.cache) s := by
  refine ⟨fun x hx => ?_, fun h => ⟨_, planReorder_of_known h, reorderPlan_reordered hk h⟩,
    fun s => reorder_writes_plan s ids⟩
  unfold planReorder
  rw [reorderListed_of_unknown [] ids x (by simp) hx]
  rfl

/-- A locked default at 1 among unlocked rules at 2 and 3, reordered with the default named
first: the default is passed over and the other two take the free values 2 and 3. -/
theorem reorder_passes_locked :
    let at2025 : Time.Instant := ⟨1735689600, 0⟩
    let mk (id pattern : String) (priority : Int) : Rule :=
      { id := id, kind := .path, group := .openai, provider := "p1", pattern := pattern,
        rewrite := none, priority := priority, enabled := true, createdAt := at2025,
        updatedAt := at2025 }
    let rules := [mk "locked" "/api/openai/*" 1, mk "x" "/x" 2, mk "y" "/y" 3]
    Keyed rules ∧ firstUnknown rules ["locked", "y", "x"] = none ∧
      ∃ plan, planReorder rules ["locked", "y", "x"] at2025 = .ok plan ∧
        Reordered rules ["locked", "y", "x"] at2025 plan := by
  intro at2025 mk rules
  have hk : Keyed rules := by unfold Keyed; decide
  have hknown : firstUnknown rules ["locked", "y", "x"] = none := by decide
  exact ⟨hk, hknown, (reorder_takes_free_slots rules _ at2025 hk).2.1 hknown⟩

end ProviderRouting
