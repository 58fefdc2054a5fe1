import ProviderRouting.Proofs.Plan.Chain
import ProviderRouting.Proofs.Plan.Reorder
import ProviderRouting.Proofs.Service.Oldest
import Mathlib.Data.List.Dedup
import Mathlib.Data.Finset.Max

/-!
# Breaking ties

Rules of a scope that share a priority are told apart by `Rule.tieKey`: the priority, then locked
before unlocked, then the creation instant, then the id; `keepsFirst` is the order of that key
(`keepsFirst_iff`). Of the rules of a scope holding one priority, the one of least key
`KeepsPriority`; `planTieBreak` leaves it in place and sends every other rule of the scope past
the scope's largest priority (`topOf`), one slot each, in the order of their keys (`pushRank`).

`tieBreak_renumbers_past_top` gathers what the plan does (`BreaksTies`) and when it fails: with an
overflow, exactly when some scope has more tied rules than slots above its top.
-/

namespace ProviderRouting

open Time

/-! ## The order ties are broken in -/

def Rule.tieKey (r : Rule) : Lex (Int × Lex (Bool × Lex (Lex (Int × Nat) × String))) :=
  toLex (r.priority, toLex (!r.locked, r.madeKey))

theorem keepsFirst_iff {a b : Rule} : keepsFirst a b = true ↔ a.tieKey ≤ b.tieKey := by
  rw [Rule.tieKey, Rule.tieKey, Prod.Lex.toLex_le_toLex, Prod.Lex.toLex_le_toLex,
    ← Rule.madeFirst_iff]
  unfold keepsFirst
  by_cases hp : a.priority = b.priority
  · by_cases hl : a.locked = b.locked
    · -- one priority and one lock: the creation order decides
      rw [if_neg (not_not.2 hp), if_neg (not_not.2 hl)]
      split
      · simp [hp, hl, Rule.MadeFirst.of_compare_lt ‹_›]
      · simp [hp, hl, Rule.not_madeFirst_of_compare_gt ‹_›]
      · simp [hp, hl, Rule.madeFirst_iff_of_compare_eq ‹_›]
    · rw [if_neg (not_not.2 hp), if_pos hl]
      cases ha : a.locked <;> cases hb : b.locked <;> simp_all
  · rw [if_pos hp]
    simp [hp]

theorem keepsFirst_trans (a b c : Rule) (hab : keepsFirst a b = true)
    (hbc : keepsFirst b c = true) : keepsFirst a c = true :=
  keepsFirst_iff.2 ((keepsFirst_iff.1 hab).trans (keepsFirst_iff.1 hbc))

theorem keepsFirst_total (a b : Rule) : (keepsFirst a b || keepsFirst b a) = true := by
  rw [Bool.or_eq_true, keepsFirst_iff, keepsFirst_iff]
  exact le_total _ _

theorem Rule.id_eq_of_tieKey {a b : Rule} (h : a.tieKey = b.tieKey) : a.id = b.id :=
  congrArg (fun k => (ofLex (ofLex (ofLex k).2).2).2) h

section Order

variable {rules : List Rule}

theorem Keyed.tieOrder (hk : Keyed rules) (s : Scope) : Keyed (tieOrder rules s) :=
  ((List.mergeSort_perm _ _).map _).nodup_iff.2 (Keyed.sublist List.filter_sublist hk)

theorem tieOrder_sorted (hk : Keyed rules) (s : Scope) :
    (tieOrder rules s).Pairwise (·.tieKey < ·.tieKey) := by
  have hle : (tieOrder rules s).Pairwise fun a b => keepsFirst a b = true :=
    List.pairwise_mergeSort keepsFirst_trans keepsFirst_total _
  refine (hle.and (List.pairwise_map.1 (hk.tieOrder s))).imp fun ⟨hab, hne⟩ =>
    lt_of_le_of_ne (keepsFirst_iff.1 hab) fun e => hne (Rule.id_eq_of_tieKey e)

end Order

/-! ## The top of a scope -/

def topOf (rules : List Rule) (s : Scope) : Int := (scopePriorities rules s).max?.getD 0

theorem max?_eq_of_perm {l₁ l₂ : List Int} (h : l₁.Perm l₂) : l₁.max? = l₂.max? := by
  cases h₁ : l₁.max? with
  | none =>
    rw [List.max?_eq_none_iff] at h₁
    subst h₁
    rw [List.nil_perm.1 h, List.max?_nil]
  | some m =>
    rw [List.max?_eq_some_iff] at h₁
    exact (List.max?_eq_some_iff.2 ⟨h.subset h₁.1, fun b hb => h₁.2 b (h.symm.subset hb)⟩).symm

section Top

variable {rules : List Rule}

theorem topOf_eq_tieOrder (s : Scope) :
    topOf rules s = ((tieOrder rules s).map (·.priority)).max?.getD 0 := by
  rw [topOf, scopePriorities, tieOrder, max?_eq_of_perm ((List.mergeSort_perm _ _).map _).symm]

theorem topOf_le {b : Int} (h0 : 0 ≤ b) (hb : ∀ r ∈ rules, r.priority ≤ b) (s : Scope) :
    topOf rules s ≤ b := by
  rw [topOf]
  cases hm : (scopePriorities rules s).max? with
  | none => exact h0
  | some m =>
    obtain ⟨r, hr, rfl⟩ := List.mem_map.1 (List.max?_eq_some_iff.1 hm).1
    exact hb r (List.mem_filter.1 hr).1

end Top

/-! ## What `pushTies` sends past the top -/

def repeats : List Int → List Rule → List Rule
  | _, [] => []
  | seen, r :: rs =>
    if r.priority ∈ seen then r :: repeats seen rs else repeats (r.priority :: seen) rs

theorem repeats_sublist : ∀ (seen : List Int) (rs : List Rule), (repeats seen rs).Sublist rs
  | _, [] => .slnil
  | seen, r :: rs => by
    unfold repeats
    split
    · exact (repeats_sublist seen rs).cons_cons r
    · exact (repeats_sublist _ rs).cons r

theorem pushTies_eq (now : Instant) : ∀ (seen : List Int) (top : Int) (rs : List Rule),
    top ≤ Priority.max → pushTies now seen top rs =
      if top + (repeats seen rs).length ≤ Priority.max then
        .ok ((repeats seen rs).mapIdx fun k r => ⟨r.id, top + k + 1, now⟩)
      else .error .overflow
  | _, top, [], htop => by simp [pushTies, repeats, htop]
  | seen, top, r :: rs, htop => by
    unfold pushTies repeats
    by_cases hr : r.priority ∈ seen
    · rw [if_pos hr, if_pos hr, List.length_cons]
      by_cases hlt : top < Priority.max
      · -- a slot is free: the other repeats start from the next one
        rw [stepUp_eq_ok_iff.2 ⟨hlt, rfl⟩]
        simp only [bind, Except.bind]
        rw [pushTies_eq now seen (top + 1) rs (by omega)]
        by_cases hfit : top + 1 + (repeats seen rs).length ≤ Priority.max
        · rw [if_pos hfit, if_pos (by omega), List.mapIdx_cons]
          simp only [pure, Except.pure, Except.ok.injEq, List.cons.injEq]
          refine ⟨by simp, ?_⟩
          congr 1
          funext k x
          congr 1
          push_cast
          omega
        · rw [if_neg hfit, if_neg (by omega)]
      · rw [(stepUp_eq_error_iff.2 ⟨by omega, rfl⟩ : stepUp top = .error .overflow),
          if_neg (by omega)]
        rfl
    · rw [if_neg hr, if_neg hr]
      exact pushTies_eq now _ top rs htop

theorem mem_repeats_iff : ∀ (seen : List Int) {rs : List Rule},
    rs.Pairwise (·.tieKey < ·.tieKey) → ∀ {x : Rule}, x ∈ rs →
      (x ∈ repeats seen rs ↔
        x.priority ∈ seen ∨ ∃ y ∈ rs, y.priority = x.priority ∧ y.tieKey < x.tieKey)
  | _, [], _, _, hx => absurd hx List.not_mem_nil
  | seen, r :: rs, hs, x, hx => by
    obtain ⟨hr, hs⟩ := List.pairwise_cons.1 hs
    have hrx : r ∉ rs := fun h => lt_irrefl _ (hr r h)
    unfold repeats
    rcases List.mem_cons.1 hx with rfl | hx
    · by_cases hp : x.priority ∈ seen
      · simp [hp]
      · -- the first rule of a new priority is no repeat
        rw [if_neg hp]
        simp only [hp, false_or, List.mem_cons]
        constructor
        · intro h
          exact absurd ((repeats_sublist _ rs).subset h) hrx
        · rintro ⟨y, rfl | hy, -, hlt⟩
          · exact absurd hlt (lt_irrefl _)
          · exact absurd (hr y hy) (not_lt.2 hlt.le)
    · have hlt := hr x hx
      have hxr : x ≠ r := fun e => hrx (e ▸ hx)
      by_cases hp : r.priority ∈ seen
      · rw [if_pos hp, List.mem_cons, mem_repeats_iff seen hs hx]
        constructor
        · rintro (e | h | ⟨y, hy, h⟩)
          · exact absurd e hxr
          · exact .inl h
          · exact .inr ⟨y, List.mem_cons_of_mem _ hy, h⟩
        · rintro (h | ⟨y, hy, hyp, hyk⟩)
          · exact .inr (.inl h)
          rcases List.mem_cons.1 hy with rfl | hy
          · exact .inr (.inl (hyp ▸ hp))
          · exact .inr (.inr ⟨y, hy, hyp, hyk⟩)
      · rw [if_neg hp, mem_repeats_iff _ hs hx, List.mem_cons]
        constructor
        · rintro ((e | h) | ⟨y, hy, h⟩)
          · exact .inr ⟨r, List.mem_cons_self, e.symm, hlt⟩
          · exact .inl h
          · exact .inr ⟨y, List.mem_cons_of_mem _ hy, h⟩
        · rintro (h | ⟨y, hy, hyp, hyk⟩)
          · exact .inl (.inr h)
          rcases List.mem_cons.1 hy with rfl | hy
          · exact .inl (.inl hyp.symm)
          · exact .inr ⟨y, hy, hyp, hyk⟩

theorem countP_lt_of_getElem? {α β : Type} [LinearOrder β] (f : α → β) :
    ∀ {l : List α}, l.Pairwise (f · < f ·) → ∀ {k : Nat} {r : α}, l[k]? = some r →
      l.countP (fun y => decide (f y < f r)) = k
  | [], _, _, _, h => by simp at h
  | a :: l, hs, k, r, h => by
    obtain ⟨ha, hs⟩ := List.pairwise_cons.1 hs
    cases k with
    | zero =>
      cases List.getElem?_cons_zero ▸ h
      rw [List.countP_cons, List.countP_eq_zero.2 fun y hy => by simpa using (ha y hy).le]
      simp
    | succ k =>
      have hr : r ∈ l := List.mem_of_getElem? h
      rw [List.countP_cons, countP_lt_of_getElem? f hs h]
      simp [ha r hr]

theorem length_eq_of_mem_iff {α : Type} {l₁ l₂ : List α} (h₁ : l₁.Nodup) (h₂ : l₂.Nodup)
    (h : ∀ x, x ∈ l₁ ↔ x ∈ l₂) : l₁.length = l₂.length :=
  ((List.perm_ext_iff_of_nodup h₁ h₂).2 h).length_eq

/-! ## The rule that keeps a priority -/

def KeepsPriority (rules : List Rule) (r : Rule) : Prop :=
  ∀ y ∈ rules, y.scope = r.scope → y.priority = r.priority → r.tieKey ≤ y.tieKey

instance (rules : List Rule) : DecidablePred (KeepsPriority rules) := fun _ =>
  inferInstanceAs (Decidable (∀ y ∈ rules, _))

def tiedIn (rules : List Rule) (s : Scope) : Nat :=
  (rules.filter (·.scope == s)).length - (scopePriorities rules s).dedup.length

def pushRank (rules : List Rule) (r : Rule) : Nat :=
  rules.countP fun y => decide (y.scope = r.scope ∧ ¬KeepsPriority rules y ∧ y.tieKey < r.tieKey)

section Keepers

variable {rules : List Rule}

theorem KeepsPriority.eq (hk : Keyed rules) {x y : Rule} (hx : x ∈ rules) (hy : y ∈ rules)
    (hs : x.scope = y.scope) (hp : x.priority = y.priority) (hkx : KeepsPriority rules x)
    (hky : KeepsPriority rules y) : x = y :=
  hk.eq_of_id hx hy (Rule.id_eq_of_tieKey
    (le_antisymm (hkx y hy hs.symm hp.symm) (hky x hx hs hp)))

theorem exists_keepsPriority {s : Scope} {v : Int} (hv : v ∈ scopePriorities rules s) :
    ∃ x ∈ rules, x.scope = s ∧ x.priority = v ∧ KeepsPriority rules x := by
  obtain ⟨r, hr, rfl⟩ := List.mem_map.1 hv
  have hne : (rules.filter fun y => y.scope == s && y.priority == r.priority).toFinset.Nonempty :=
    ⟨r, by simpa using (List.mem_filter.1 hr)⟩
  obtain ⟨x, hx, hmin⟩ := Finset.exists_min_image _ Rule.tieKey hne
  simp only [List.mem_toFinset, List.mem_filter, Bool.and_eq_true, beq_iff_eq] at hx hmin
  obtain ⟨hx, hxs, hxp⟩ := hx
  refine ⟨x, hx, hxs, hxp, fun y hy hys hyp => hmin y ⟨hy, hys.trans hxs, hyp.trans hxp⟩⟩

def pushedIn (rules : List Rule) (s : Scope) : List Rule := repeats [] (tieOrder rules s)

theorem mem_pushedIn (hk : Keyed rules) {s : Scope} {x : Rule} :
    x ∈ pushedIn rules s ↔ x ∈ rules ∧ x.scope = s ∧ ¬KeepsPriority rules x := by
  constructor
  · intro h
    have hx := (repeats_sublist _ _).subset h
    obtain ⟨hxr, hxs⟩ := mem_tieOrder.1 hx
    refine ⟨hxr, hxs, fun hkeep => ?_⟩
    obtain ⟨y, hy, hp, hlt⟩ :=
      ((mem_repeats_iff [] (tieOrder_sorted hk s) hx).1 h).resolve_left List.not_mem_nil
    obtain ⟨hyr, hys⟩ := mem_tieOrder.1 hy
    exact not_le.2 hlt (hkeep y hyr (hys.trans hxs.symm) hp)
  · rintro ⟨hx, rfl, hkeep⟩
    refine (mem_repeats_iff [] (tieOrder_sorted hk _) (mem_tieOrder.2 ⟨hx, rfl⟩)).2 (.inr ?_)
    simp only [KeepsPriority, not_forall, not_le] at hkeep
    obtain ⟨y, hy, hs, hp, hlt⟩ := hkeep
    exact ⟨y, mem_tieOrder.2 ⟨hy, hs⟩, hp, hlt⟩

theorem pushedIn_sorted (hk : Keyed rules) (s : Scope) :
    (pushedIn rules s).Pairwise (·.tieKey < ·.tieKey) :=
  (tieOrder_sorted hk s).sublist (repeats_sublist _ _)

theorem Keyed.pushedIn (hk : Keyed rules) (s : Scope) : Keyed (pushedIn rules s) :=
  Keyed.sublist (repeats_sublist _ _) (hk.tieOrder s)

theorem length_keepers (hk : Keyed rules) (s : Scope) :
    ((tieOrder rules s).filter fun x => decide (KeepsPriority rules x)).length =
      (scopePriorities rules s).dedup.length := by
  have hnd : (tieOrder rules s).Nodup := List.Nodup.of_map _ (hk.tieOrder s)
  rw [← List.length_map (f := (·.priority))]
  refine length_eq_of_mem_iff ?_ (List.nodup_dedup _) fun v => ?_
  · refine (hnd.filter _).map_on fun x hx y hy hp => ?_
    obtain ⟨hx, hkx⟩ := List.mem_filter.1 hx
    obtain ⟨hy, hky⟩ := List.mem_filter.1 hy
    obtain ⟨hxr, hxs⟩ := mem_tieOrder.1 hx
    obtain ⟨hyr, hys⟩ := mem_tieOrder.1 hy
    exact KeepsPriority.eq hk hxr hyr (hxs.trans hys.symm) hp (of_decide_eq_true hkx)
      (of_decide_eq_true hky)
  · rw [List.mem_dedup, List.mem_map]
    constructor
    · rintro ⟨x, hx, rfl⟩
      obtain ⟨hx, -⟩ := List.mem_filter.1 hx
      obtain ⟨hxr, hxs⟩ := mem_tieOrder.1 hx
      exact List.mem_map.2 ⟨x, List.mem_filter.2 ⟨hxr, by simp [hxs]⟩, rfl⟩
    · intro hv
      obtain ⟨x, hx, hxs, rfl, hkx⟩ := exists_keepsPriority hv
      exact ⟨x, List.mem_filter.2 ⟨mem_tieOrder.2 ⟨hx, hxs⟩, decide_eq_true hkx⟩, rfl⟩

theorem length_pushedIn (hk : Keyed rules) (s : Scope) :
    (pushedIn rules s).length = tiedIn rules s := by
  have hmoved : (pushedIn rules s).length =
      ((tieOrder rules s).filter fun x => !decide (KeepsPriority rules x)).length := by
    refine length_eq_of_mem_iff (List.Nodup.of_map _ (hk.pushedIn s))
      ((List.Nodup.of_map _ (hk.tieOrder s)).filter _) fun x => ?_
    rw [mem_pushedIn hk, List.mem_filter, mem_tieOrder]
    simp [and_assoc]
  have hlen : (tieOrder rules s).length = (rules.filter (·.scope == s)).length :=
    List.length_mergeSort _
  have hsplit := @List.length_eq_length_filter_add _ (tieOrder rules s)
    (fun x => decide (KeepsPriority rules x))
  rw [tiedIn, ← hlen, hmoved, ← length_keepers hk s]
  omega

theorem pushRank_eq (hk : Keyed rules) {k : Nat} {r : Rule}
    (h : (pushedIn rules r.scope)[k]? = some r) : pushRank rules r = k := by
  rw [← countP_lt_of_getElem? Rule.tieKey (pushedIn_sorted hk r.scope) h, pushRank,
    List.countP_eq_length_filter, List.countP_eq_length_filter]
  refine length_eq_of_mem_iff ((List.Nodup.of_map _ hk).filter _)
    ((List.Nodup.of_map _ (hk.pushedIn _)).filter _) fun x => ?_
  rw [List.mem_filter, List.mem_filter, mem_pushedIn hk]
  simp [and_assoc]

end Keepers

/-! ## The plan -/

def pushBlock (rules : List Rule) (now : Instant) (s : Scope) : List Assignment :=
  (pushedIn rules s).mapIdx fun k r => ⟨r.id, topOf rules s + k + 1, now⟩

theorem flatMapM_eq_error {α β ε : Type} {f : α → Except ε (List β)} {e : ε} :
    ∀ {l : List α}, l.flatMapM f = .error e → ∃ x ∈ l, f x = .error e
  | [], h => by cases h
  | a :: l, h => by
    rw [List.flatMapM_cons] at h
    cases ha : f a with
    | error e' =>
      rw [ha] at h
      cases h
      exact ⟨a, List.mem_cons_self, ha⟩
    | ok bs =>
      rw [ha] at h
      cases hl : l.flatMapM f with
      | error e' =>
        rw [hl] at h
        cases h
        obtain ⟨x, hx, hf⟩ := flatMapM_eq_error hl
        exact ⟨x, List.mem_cons_of_mem _ hx, hf⟩
      | ok out =>
        rw [hl] at h
        cases h

theorem flatMapM_error_iff {α β ε : Type} {f : α → Except ε (List β)} {l : List α} :
    (∃ e, l.flatMapM f = .error e) ↔ ∃ x ∈ l, ∃ e, f x = .error e := by
  constructor
  · rintro ⟨e, h⟩
    obtain ⟨x, hx, hf⟩ := flatMapM_eq_error h
    exact ⟨x, hx, e, hf⟩
  · rintro ⟨x, hx, e, hf⟩
    cases h : l.flatMapM f with
    | error e' => exact ⟨e', rfl⟩
    | ok out =>
      have := (flatMapM_eq_ok h).1 x hx
      rw [hf] at this
      cases this

section Plan

variable {rules : List Rule} {now : Instant} {plan : List Assignment}

theorem planTieBreak_eq (now : Instant) (hmax : ∀ r ∈ rules, r.priority ≤ Priority.max) :
    planTieBreak rules now = (scopesInOrder rules).flatMapM fun s =>
      if topOf rules s + (pushedIn rules s).length ≤ Priority.max then .ok (pushBlock rules now s)
      else .error .overflow := by
  rw [planTieBreak_eq_tieOrder]
  refine congrArg (fun f => List.flatMapM f (scopesInOrder rules)) (funext fun s => ?_)
  rw [← topOf_eq_tieOrder, pushTies_eq now [] _ _ (topOf_le (by decide) hmax s)]
  rfl

theorem planTieBreak_eq_flatMap (hmax : ∀ r ∈ rules, r.priority ≤ Priority.max)
    (h : planTieBreak rules now = .ok plan) :
    plan = (scopesInOrder rules).flatMap (pushBlock rules now) := by
  rw [planTieBreak_eq now hmax] at h
  obtain ⟨hall, rfl⟩ := flatMapM_eq_ok h
  refine List.flatMap_congr fun s hs => ?_
  have := hall s hs
  by_cases hc : topOf rules s + (pushedIn rules s).length ≤ Priority.max
  · simp only [if_pos hc]
    rfl
  · simp only [if_neg hc] at this
    cases this

theorem mem_pushBlock {s : Scope} {a : Assignment} :
    a ∈ pushBlock rules now s ↔
      ∃ (k : Nat) (r : Rule), (pushedIn rules s)[k]? = some r ∧
        a = ⟨r.id, topOf rules s + k + 1, now⟩ := by
  rw [pushBlock, List.mem_iff_getElem?]
  simp only [List.getElem?_mapIdx, Option.map_eq_some_iff]
  constructor
  · rintro ⟨k, r, hr, rfl⟩
    exact ⟨k, r, hr, rfl⟩
  · rintro ⟨k, r, hr, rfl⟩
    exact ⟨k, r, hr, rfl⟩

theorem blocksIn_pushBlock (hk : Keyed rules) :
    BlocksIn rules (scopesInOrder rules) (pushBlock rules now) := by
  intro s _ a ha
  obtain ⟨k, r, hr, rfl⟩ := mem_pushBlock.1 ha
  obtain ⟨hr, hrs, -⟩ := (mem_pushedIn hk).1 (List.mem_of_getElem? hr)
  exact ⟨r, hr, rfl, hrs⟩

theorem map_id_pushBlock (s : Scope) :
    (pushBlock rules now s).map (·.id) = (pushedIn rules s).map (·.id) := by
  apply List.ext_getElem?
  intro i
  simp only [pushBlock, List.getElem?_map, List.getElem?_mapIdx]
  cases (pushedIn rules s)[i]? <;> rfl

theorem planTieBreak_named (hk : Keyed rules) (hmax : ∀ r ∈ rules, r.priority ≤ Priority.max)
    (h : planTieBreak rules now = .ok plan) :
    ∀ a ∈ plan, ∃ r ∈ rules, r.id = a.id ∧ ¬KeepsPriority rules r := by
  rw [planTieBreak_eq_flatMap hmax h]
  intro a ha
  obtain ⟨s, -, ha⟩ := List.mem_flatMap.1 ha
  obtain ⟨k, r, hr, rfl⟩ := mem_pushBlock.1 ha
  obtain ⟨hr, -, hkeep⟩ := (mem_pushedIn hk).1 (List.mem_of_getElem? hr)
  exact ⟨r, hr, rfl, hkeep⟩

theorem planTieBreak_nodup (hk : Keyed rules) (hmax : ∀ r ∈ rules, r.priority ≤ Priority.max)
    (h : planTieBreak rules now = .ok plan) : (plan.map (·.id)).Nodup := by
  rw [planTieBreak_eq_flatMap hmax h]
  refine nodup_ids_flatMap hk (nodup_scopesInOrder rules) (blocksIn_pushBlock hk) fun s _ => ?_
  rw [map_id_pushBlock]
  exact hk.pushedIn s

theorem planTieBreak_kept (hk : Keyed rules) (hmax : ∀ r ∈ rules, r.priority ≤ Priority.max)
    (h : planTieBreak rules now = .ok plan) {r : Rule} (hr : r ∈ rules)
    (hkeep : KeepsPriority rules r) : r.id ∉ plan.map (·.id) := by
  intro hmem
  obtain ⟨a, ha, e⟩ := List.mem_map.1 hmem
  obtain ⟨x, hx, hxa, hkx⟩ := planTieBreak_named hk hmax h a ha
  exact hkx (hk.eq_of_id hx hr (hxa.trans e) ▸ hkeep)

theorem planTieBreak_pushed (hk : Keyed rules) (hmax : ∀ r ∈ rules, r.priority ≤ Priority.max)
    (h : planTieBreak rules now = .ok plan) {r : Rule} (hr : r ∈ rules)
    (hkeep : ¬KeepsPriority rules r) :
    reassign plan r =
      { r with priority := topOf rules r.scope + pushRank rules r + 1, updatedAt := now } := by
  obtain ⟨k, hrk⟩ := List.mem_iff_getElem?.1 ((mem_pushedIn hk).2 ⟨hr, rfl, hkeep⟩)
  have ha : (⟨r.id, topOf rules r.scope + k + 1, now⟩ : Assignment) ∈ plan := by
    rw [planTieBreak_eq_flatMap hmax h]
    exact List.mem_flatMap.2 ⟨r.scope, mem_scopesInOrder.2 (List.mem_map_of_mem hr),
      mem_pushBlock.2 ⟨k, r, hrk, rfl⟩⟩
  rw [reassign_of_find? (find?_of_mem (planTieBreak_nodup hk hmax h) ha), pushRank_eq hk hrk]

end Plan

/-- What a tie-break plan does to the rules: each priority of a scope stays with the rule that
keeps it, every other rule of the scope goes past the scope's top, one slot each in the order of
the keys, and nothing else moves; after it no two rules of a scope share a priority, so a second
tie-break plans nothing. -/
structure BreaksTies (rules : List Rule) (now : Instant) (plan : List Assignment) : Prop where
  applied : applyAssignments rules plan = rules.map (reassign plan)
  separated : Separated (applyAssignments rules plan)
  kept : ∀ r ∈ rules, KeepsPriority rules r → r.id ∉ plan.map (·.id)
  pushed : ∀ r ∈ rules, ¬KeepsPriority rules r →
    reassign plan r =
      { r with priority := topOf rules r.scope + pushRank rules r + 1, updatedAt := now }
  named : ∀ a ∈ plan, ∃ r ∈ rules, r.id = a.id ∧ ¬KeepsPriority rules r
  untied : ∀ s, (scopePriorities rules s).Nodup → ∀ r ∈ rules, r.scope = s →
    r.id ∉ plan.map (·.id)
  empty : plan = [] ↔ Separated rules
  settled : ∀ later, planTieBreak (applyAssignments rules plan) later = .ok []

section Main

variable {rules : List Rule} {now : Instant} {plan : List Assignment}

theorem keepsPriority_of_nodup {r : Rule} (hr : r ∈ rules)
    (hn : (scopePriorities rules r.scope).Nodup) : KeepsPriority rules r := by
  intro y hy hys hyp
  have hmem : ∀ {z : Rule}, z ∈ rules → z.scope = r.scope →
      z ∈ rules.filter (·.scope == r.scope) := fun hz hzs => List.mem_filter.2 ⟨hz, by simp [hzs]⟩
  rw [List.inj_on_of_nodup_map hn (hmem hy hys) (hmem hr rfl) hyp]

theorem planTieBreak_breaksTies (hk : Keyed rules) (hmax : ∀ r ∈ rules, r.priority ≤ Priority.max)
    (h : planTieBreak rules now = .ok plan) : BreaksTies rules now plan where
  applied := applyAssignments_eq_map hk (planTieBreak_nodup hk hmax h)
  separated := separated_tieBreak hk h
  kept _ hr hkeep := planTieBreak_kept hk hmax h hr hkeep
  pushed _ hr hkeep := planTieBreak_pushed hk hmax h hr hkeep
  named := planTieBreak_named hk hmax h
  untied := by
    rintro s hn r hr rfl
    exact planTieBreak_kept hk hmax h hr (keepsPriority_of_nodup hr hn)
  empty := by
    constructor
    · rintro rfl
      exact separated_tieBreak hk h
    · intro hs
      rw [planTieBreak_eq_nil hs] at h
      exact (Except.ok.inj h).symm
  settled _ := planTieBreak_eq_nil (separated_tieBreak hk h)

theorem planTieBreak_error_iff (hk : Keyed rules) (hmax : ∀ r ∈ rules, r.priority ≤ Priority.max) :
    (∃ e, planTieBreak rules now = .error e) ↔
      ∃ s, Priority.max < topOf rules s + tiedIn rules s := by
  rw [planTieBreak_eq now hmax, flatMapM_error_iff]
  constructor
  · rintro ⟨s, -, e, he⟩
    split at he
    · cases he
    · exact ⟨s, by rw [← length_pushedIn hk]; omega⟩
  · rintro ⟨s, hs⟩
    have hin : s ∈ scopesInOrder rules := by
      by_contra hout
      have hnil : rules.filter (·.scope == s) = [] := List.filter_eq_nil_iff.2 fun r hr e =>
        hout (mem_scopesInOrder.2 (List.mem_map.2 ⟨r, hr, by simpa using e⟩))
      have htop := topOf_le (by decide) hmax s
      simp [tiedIn, hnil] at hs
      omega
    refine ⟨s, hin, .overflow, ?_⟩
    rw [if_neg (by rw [length_pushedIn hk]; omega)]

theorem planTieBreak_error_overflow (hmax : ∀ r ∈ rules, r.priority ≤ Priority.max) {e : Failure}
    (h : planTieBreak rules now = .error e) : e = .overflow := by
  rw [planTieBreak_eq now hmax] at h
  obtain ⟨s, -, he⟩ := flatMapM_eq_error h
  split at he
  · cases he
  · exact (Except.error.inj he).symm

end Main

/-- For rules with distinct ids and priorities in range, a tie-break fails, with an overflow,
exactly when some scope has more tied rules than slots above its top; otherwise its plan keeps in
each scope one rule per priority, the first by key, and sends the others past the scope's top in
the order of their keys. -/
theorem tieBreak_renumbers_past_top (rules : List Rule) (now : Instant) (hk : Keyed rules)
    (hmax : ∀ r ∈ rules, r.priority ≤ Priority.max) :
    ((∃ e, planTieBreak rules now = .error e) ↔
      ∃ s, Priority.max < topOf rules s + tiedIn rules s) ∧
    (∀ e, planTieBreak rules now = .error e → e = .overflow) ∧
    ∀ plan, planTieBreak rules now = .ok plan → BreaksTies rules now plan :=
  ⟨planTieBreak_error_iff hk hmax, fun _ => planTieBreak_error_overflow hmax,
    fun _ => planTieBreak_breaksTies hk hmax⟩

/-- Of two rules tied at priority 5, the locked default keeps it and the older custom rule moves
past it, to 6. -/
theorem locked_default_keeps_tie :
    let custom : Rule :=
      { id := "custom", kind := .path, group := .openai, provider := "p1",
        pattern := "/api/openai/x", rewrite := none, priority := 5, enabled := true,
        createdAt := ⟨0, 0⟩, updatedAt := ⟨0, 0⟩ }
    let locked : Rule :=
      { custom with id := "locked", pattern := "/api/openai/*", createdAt := ⟨5, 0⟩ }
    Keyed [custom, locked] ∧ ∃ plan, planTieBreak [custom, locked] ⟨9, 0⟩ = .ok plan ∧
      reassign plan locked = locked ∧
      reassign plan custom = { custom with priority := 6, updatedAt := ⟨9, 0⟩ } := by
  intro custom locked
  have hk : Keyed [custom, locked] := by unfold Keyed; decide
  have hmax : ∀ r ∈ [custom, locked], r.priority ≤ Priority.max := by decide
  obtain ⟨herr, -, hok⟩ := tieBreak_renumbers_past_top [custom, locked] ⟨9, 0⟩ hk hmax
  have hfits : ¬∃ s, Priority.max < topOf [custom, locked] s + tiedIn [custom, locked] s := by
    rintro ⟨⟨g, k⟩, h⟩
    revert h
    cases g <;> cases k <;> decide
  have hkeys : locked.tieKey < custom.tieKey := by
    rw [Rule.tieKey, Rule.tieKey, Prod.Lex.toLex_lt_toLex]
    exact .inr ⟨rfl, Prod.Lex.toLex_lt_toLex.2 (.inl (by decide))⟩
  have hkeep : KeepsPriority [custom, locked] locked := by
    intro y hy _ _
    rcases List.mem_pair.1 hy with rfl | rfl
    · exact hkeys.le
    · exact le_rfl
  have hmove : ¬KeepsPriority [custom, locked] custom := fun h =>
    not_le.2 hkeys (h locked (by simp) rfl rfl)
  cases h : planTieBreak [custom, locked] ⟨9, 0⟩ with
  | error e => exact absurd (herr.1 ⟨e, h⟩) hfits
  | ok plan =>
    have hb := hok plan h
    refine ⟨hk, plan, rfl, reassign_of_not_mem (hb.kept locked (by simp) hkeep), ?_⟩
    have hrank : pushRank [custom, locked] custom = 0 := by
      refine List.countP_eq_zero.2 fun y hy => ?_
      rcases List.mem_pair.1 hy with rfl | rfl
      · simp
      · simp [hkeep]
    rw [hb.pushed custom (by simp) hmove, hrank]
    rfl

end ProviderRouting
