import ProviderRouting.Proofs.Plan.Shift

/-!
# The chain an insertion shifts

A rule put before an anchor takes the anchor's priority `t`. Each priority above `t` is held by a
locked rule of the scope, by an unlocked one, or by none. The anchor moves to the first value
above `t` that no locked rule holds; a rule that held that value moves on in the same way, and so
on, until a value that no rule holds takes the last move. So the rules that move are the anchor
and the unlocked rules whose priorities the chain reaches without a gap (`shiftUp_moved_iff`),
each to the first value above its own priority that no locked rule holds (`shiftUp_moves`).

The 32-bit range ends the chain early only when every value above `t` up to the largest priority
is held (`shiftUp_error`, `shiftUp_error_of_covered`): then the last move has nowhere to go and
the plan overflows. `insertBefore_shifts_chain` puts it together for `planInsertBefore`.
-/

namespace ProviderRouting

/-! ## Stepping past held values -/

theorem stepUp_eq_ok_iff {p q : Int} : stepUp p = .ok q ↔ p < Priority.max ∧ q = p + 1 := by
  unfold stepUp Priority.succ?
  by_cases hp : p < Priority.max
  · simp [hp, eq_comm]
  · simp [hp]

theorem stepUp_eq_error_iff {p : Int} {e : Failure} :
    stepUp p = .error e ↔ Priority.max ≤ p ∧ e = .overflow := by
  unfold stepUp Priority.succ?
  by_cases hp : p < Priority.max
  · simp only [hp, if_true, reduceCtorEq, false_iff, not_and]
    intro h
    omega
  · simp [hp, eq_comm]
    omega

def FirstFreeAbove (held : List Int) (p v : Int) : Prop :=
  p < v ∧ v ∉ held ∧ ∀ w, p < w → w < v → w ∈ held

theorem FirstFreeAbove.le_of_free {held : List Int} {p v w : Int} (h : FirstFreeAbove held p v)
    (hw : w ∉ held) (hpw : p < w) : v ≤ w := by
  by_contra hlt
  exact hw (h.2.2 w hpw (by omega))

theorem skipHeld_ok (held : List Int) : ∀ (n : Nat) (p v : Int), p ≤ Priority.max →
    skipHeld held n p = .ok v → p ≤ v ∧ v ≤ Priority.max ∧ ∀ w, p ≤ w → w < v → w ∈ held
  | 0, p, v, hp, h => by
    unfold skipHeld at h
    cases Except.ok.inj h
    exact ⟨Int.le_refl p, hp, fun w h₁ h₂ => absurd h₂ (by omega)⟩
  | n + 1, p, v, hp, h => by
    unfold skipHeld at h
    split at h
    · rename_i hheld
      obtain ⟨q, hq, h⟩ := bind_eq_ok h
      obtain ⟨hlt, rfl⟩ := stepUp_eq_ok_iff.1 hq
      obtain ⟨hle, hmax, hrun⟩ := skipHeld_ok held n (p + 1) v (by omega) h
      refine ⟨by omega, hmax, fun w hw hwv => ?_⟩
      rcases Int.lt_or_eq_of_le hw with hw | rfl
      · exact hrun w (by omega) hwv
      · exact hheld
    · cases Except.ok.inj h
      exact ⟨Int.le_refl p, hp, fun w h₁ h₂ => absurd h₂ (by omega)⟩

theorem skipHeld_error (held : List Int) : ∀ (n : Nat) (p : Int) (e : Failure),
    skipHeld held n p = .error e → e = .overflow ∧ ∀ w, p ≤ w → w ≤ Priority.max → w ∈ held
  | 0, _, _, h => by
    unfold skipHeld at h
    cases h
  | n + 1, p, e, h => by
    unfold skipHeld at h
    split at h
    · rename_i hheld
      cases hs : stepUp p with
      | error e' =>
        rw [hs] at h
        cases h
        obtain ⟨hmax, rfl⟩ := stepUp_eq_error_iff.1 hs
        refine ⟨rfl, fun w hw hwm => ?_⟩
        rw [show w = p by omega]
        exact hheld
      | ok q =>
        rw [hs] at h
        obtain ⟨hlt, rfl⟩ := stepUp_eq_ok_iff.1 hs
        obtain ⟨he, hrun⟩ := skipHeld_error held n (p + 1) e h
        refine ⟨he, fun w hw hwm => ?_⟩
        rcases Int.lt_or_eq_of_le hw with hw | rfl
        · exact hrun w (by omega) hwm
        · exact hheld
    · cases h

theorem nextFree_ok {held : List Int} {c v : Int}
    (h : (stepUp c >>= skipHeld held held.length) = .ok v) :
    FirstFreeAbove held c v ∧ v ≤ Priority.max := by
  obtain ⟨q, hq, h⟩ := bind_eq_ok h
  obtain ⟨hlt, rfl⟩ := stepUp_eq_ok_iff.1 hq
  obtain ⟨hle, hmax, hrun⟩ := skipHeld_ok held _ _ v (by omega) h
  exact ⟨⟨by omega, skipHeld_not_mem h, fun w h₁ h₂ => hrun w h₁ h₂⟩, hmax⟩

theorem nextFree_error {held : List Int} {c : Int} {e : Failure}
    (h : (stepUp c >>= skipHeld held held.length) = .error e) :
    e = .overflow ∧ ∀ w, c < w → w ≤ Priority.max → w ∈ held := by
  cases hs : stepUp c with
  | error e' =>
    rw [hs] at h
    cases h
    obtain ⟨hmax, rfl⟩ := stepUp_eq_error_iff.1 hs
    exact ⟨rfl, fun w h₁ h₂ => absurd h₂ (by omega)⟩
  | ok q =>
    rw [hs] at h
    obtain ⟨-, rfl⟩ := stepUp_eq_ok_iff.1 hs
    obtain ⟨he, hrun⟩ := skipHeld_error held _ _ e h
    exact ⟨he, fun w h₁ h₂ => hrun w h₁ h₂⟩

theorem shiftUp_cons (held : List Int) (now : Time.Instant) (c : Int) (r : Rule)
    (rs : List Rule) :
    shiftUp held now c (r :: rs) = (stepUp c >>= skipHeld held held.length) >>= fun next =>
      if next ≤ r.priority then pure []
      else (shiftUp held now next rs).map (⟨r.id, next, now⟩ :: ·) := by
  simp only [shiftUp, bind_assoc]
  congr

/-! ## One step of the shift -/

/-- What `shiftUp` is given from an anchor on: rules by strictly increasing priority, none of
them held, none below the cursor and none past the largest priority; the cursor is a free
priority too. -/
structure ChainFrom (held : List Int) (c : Int) (rs : List Rule) : Prop where
  sorted : rs.Pairwise (·.priority < ·.priority)
  free : ∀ r ∈ rs, r.priority ∉ held
  above : ∀ r ∈ rs, c ≤ r.priority
  bounded : ∀ r ∈ rs, r.priority ≤ Priority.max
  cursorFree : c ∉ held
  cursorBounded : c ≤ Priority.max

section Step

variable {held : List Int} {c : Int} {r : Rule} {rs : List Rule}

/-- The three ways one step of the shift goes. The head rule sits at the cursor and every value
above it is held: the step overflows. The head rule lies above the cursor: nothing moves. Or
the head rule sits at the cursor and moves to the first free value above it, and the shift goes
on from there. -/
theorem shiftUp_cons_cases (now : Time.Instant) (h : ChainFrom held c (r :: rs)) :
    (r.priority = c ∧ (∀ w, c < w → w ≤ Priority.max → w ∈ held) ∧
      shiftUp held now c (r :: rs) = .error .overflow) ∨
    (c < r.priority ∧ shiftUp held now c (r :: rs) = .ok []) ∨
    (r.priority = c ∧ ∃ v, FirstFreeAbove held c v ∧ ChainFrom held v rs ∧
      shiftUp held now c (r :: rs) = (shiftUp held now v rs).map (⟨r.id, v, now⟩ :: ·)) := by
  have hrmax := h.bounded r List.mem_cons_self
  have hrfree := h.free r List.mem_cons_self
  have hstep := shiftUp_cons held now c r rs
  cases hn : (stepUp c >>= skipHeld held held.length) with
  | error e =>
    rw [hn] at hstep
    obtain ⟨rfl, hall⟩ := nextFree_error hn
    -- every value above the cursor is held, so the free head rule sits at the cursor
    have hrc : r.priority = c := by
      have := h.above r List.mem_cons_self
      by_contra hne
      exact hrfree (hall _ (by omega) hrmax)
    exact .inl ⟨hrc, hall, hstep⟩
  | ok v =>
    rw [hn] at hstep
    obtain ⟨hfirst, hvmax⟩ := nextFree_ok hn
    by_cases hle : v ≤ r.priority
    · exact .inr (.inl ⟨by have := hfirst.1; omega, hstep.trans (if_pos hle)⟩)
    · -- the head rule lies below the first free value, so it sits at the cursor
      have hrc : r.priority = c := by
        have := h.above r List.mem_cons_self
        by_contra hne
        exact hrfree (hfirst.2.2 _ (by omega) (by omega))
      obtain ⟨hsorted, hrest⟩ := List.pairwise_cons.1 h.sorted
      refine .inr (.inr ⟨hrc, v, hfirst, ⟨hrest, fun x hx => h.free x (List.mem_cons_of_mem _ hx),
        fun x hx => ?_, fun x hx => h.bounded x (List.mem_cons_of_mem _ hx), hfirst.2.1,
        hvmax⟩, hstep.trans (if_neg hle)⟩)
      exact hfirst.le_of_free (h.free x (List.mem_cons_of_mem _ hx)) (hrc ▸ hsorted x hx)

end Step

/-! ## The whole shift -/

def Covered (held : List Int) (rs : List Rule) (v : Int) : Prop :=
  v ∈ held ∨ v ∈ rs.map (·.priority)

section Run

variable {held : List Int} {now : Time.Instant}

theorem Covered.of_cons {r : Rule} {rs : List Rule} {v : Int} (h : Covered held (r :: rs) v)
    (hv : v ≠ r.priority) : Covered held rs v := by
  rcases h with h | h
  · exact .inl h
  · rcases List.mem_cons.1 h with e | h
    · exact absurd e hv
    · exact .inr h

theorem Covered.cons {rs : List Rule} {v : Int} (r : Rule) (h : Covered held rs v) :
    Covered held (r :: rs) v :=
  h.imp_right (List.mem_cons_of_mem _)

theorem covered_head (r : Rule) (rs : List Rule) : Covered held (r :: rs) r.priority :=
  .inr List.mem_cons_self

theorem ChainFrom.not_covered {c : Int} {r : Rule} {rs : List Rule}
    (h : ChainFrom held c (r :: rs)) (hlt : c < r.priority) : ¬ Covered held (r :: rs) c := by
  rintro (hc | hc)
  · exact h.cursorFree hc
  · obtain ⟨x, hx, hxc⟩ := List.mem_map.1 hc
    rcases List.mem_cons.1 hx with rfl | hx
    · omega
    · have := List.rel_of_pairwise_cons h.sorted hx
      omega

theorem shiftUp_error : ∀ {c : Int} {rs : List Rule}, ChainFrom held c rs → ∀ {e : Failure},
    shiftUp held now c rs = .error e →
      e = .overflow ∧ ∀ v, c ≤ v → v ≤ Priority.max → Covered held rs v
  | _, [], _, _, h => by cases h
  | c, r :: rs, hc, e, h => by
    rcases shiftUp_cons_cases now hc with ⟨hrc, hall, heq⟩ | ⟨-, heq⟩ |
      ⟨hrc, v, hfirst, hv, heq⟩
    · rw [heq] at h
      cases h
      refine ⟨rfl, fun w hw hwm => ?_⟩
      rcases Int.lt_or_eq_of_le hw with hw | rfl
      · exact .inl (hall w hw hwm)
      · exact hrc ▸ covered_head r rs
    · rw [heq] at h
      cases h
    · rw [heq] at h
      obtain ⟨rfl, hall⟩ := shiftUp_error hv (map_eq_error h)
      refine ⟨rfl, fun w hw hwm => ?_⟩
      -- below the first free value everything is held; from it on the rest covers it
      by_cases hwv : v ≤ w
      · exact (hall w hwv hwm).cons r
      · rcases Int.lt_or_eq_of_le hw with hw | rfl
        · exact .inl (hfirst.2.2 w hw (by omega))
        · exact hrc ▸ covered_head r rs

theorem shiftUp_error_of_covered (now : Time.Instant) :
    ∀ {c : Int} {rs : List Rule}, ChainFrom held c rs →
    (∀ v, c ≤ v → v ≤ Priority.max → Covered held rs v) → ∃ e, shiftUp held now c rs = .error e
  | c, [], hc, hall => by
    rcases hall c (Int.le_refl c) hc.cursorBounded with h | h
    · exact absurd h hc.cursorFree
    · cases h
  | c, r :: rs, hc, hall => by
    rcases shiftUp_cons_cases now hc with ⟨-, -, heq⟩ | ⟨hlt, -⟩ |
      ⟨hrc, v, hfirst, hv, heq⟩
    · exact ⟨_, heq⟩
    · exact absurd (hall c (Int.le_refl c) hc.cursorBounded) (hc.not_covered hlt)
    · -- the head rule takes the cursor, so the rest covers everything from the next free value
      obtain ⟨e, he⟩ := shiftUp_error_of_covered now hv fun w hw hwm =>
        (hall w (by have := hfirst.1; omega) hwm).of_cons (by have := hfirst.1; omega)
      exact ⟨e, by rw [heq, he]; rfl⟩

theorem shiftUp_moves : ∀ {c : Int} {rs : List Rule}, ChainFrom held c rs →
    ∀ {plan : List Assignment}, shiftUp held now c rs = .ok plan →
      ∀ b ∈ plan, ∃ x ∈ rs, x.id = b.id ∧ FirstFreeAbove held x.priority b.priority
  | _, [], _, _, h => by
    cases h
    simp
  | c, r :: rs, hc, plan, h => by
    rcases shiftUp_cons_cases now hc with ⟨-, -, heq⟩ | ⟨-, heq⟩ |
      ⟨hrc, v, hfirst, hv, heq⟩
    · rw [heq] at h
      cases h
    · rw [heq] at h
      cases h
      simp
    · rw [heq] at h
      obtain ⟨rest, hrest, rfl⟩ := map_eq_ok h
      intro b hb
      rcases List.mem_cons.1 hb with rfl | hb
      · exact ⟨r, List.mem_cons_self, rfl, hrc ▸ hfirst⟩
      · obtain ⟨x, hx, hid, hx'⟩ := shiftUp_moves hv hrest b hb
        exact ⟨x, List.mem_cons_of_mem _ hx, hid, hx'⟩

theorem shiftUp_moved_iff : ∀ {c : Int} {rs : List Rule}, ChainFrom held c rs →
    ∀ {plan : List Assignment}, shiftUp held now c rs = .ok plan →
      ∀ x ∈ rs, x ∈ rs.take plan.length ↔ ∀ v, c ≤ v → v ≤ x.priority → Covered held rs v
  | _, [], _, _, _ => by simp
  | c, r :: rs, hc, plan, h => by
    rcases shiftUp_cons_cases now hc with ⟨-, -, heq⟩ | ⟨hlt, heq⟩ |
      ⟨hrc, v, hfirst, hv, heq⟩
    · rw [heq] at h
      cases h
    · -- nothing moves, and the cursor itself is not covered
      rw [heq] at h
      cases h
      intro x hx
      simp only [List.length_nil, List.take_zero, List.not_mem_nil, false_iff]
      exact fun hall => hc.not_covered hlt (hall c (Int.le_refl c) (hc.above x hx))
    · rw [heq] at h
      obtain ⟨rest, hrest, rfl⟩ := map_eq_ok h
      intro x hx
      rw [List.length_cons, List.take_succ_cons]
      rcases List.mem_cons.1 hx with rfl | hx
      · refine iff_of_true List.mem_cons_self fun w hw hwx => ?_
        rw [show w = x.priority by omega]
        exact covered_head x rs
      · have hrx : r.priority < x.priority := List.rel_of_pairwise_cons hc.sorted hx
        have hne : x ≠ r := fun e => by rw [e] at hrx; omega
        rw [List.mem_cons, or_iff_right hne, shiftUp_moved_iff hv hrest x hx]
        constructor
        · intro hall w hw hwx
          by_cases hwv : v ≤ w
          · exact (hall w hwv hwx).cons r
          · rcases Int.lt_or_eq_of_le hw with hw | rfl
            · exact .inl (hfirst.2.2 w hw (by omega))
            · exact hrc ▸ covered_head r rs
        · intro hall w hw hwx
          exact (hall w (by have := hfirst.1; omega) hwx).of_cons
            (by have := hfirst.1; omega)

end Run

/-! ## Insertion before an anchor -/

def SeparatedIn (rules : List Rule) (s : Scope) : Prop :=
  rules.Pairwise fun x y => x.scope = s → y.scope = s → x.priority ≠ y.priority

def Holds (rules : List Rule) (s : Scope) (v : Int) : Prop :=
  ∃ r ∈ rules, r.scope = s ∧ r.priority = v

def lockedIn (rules : List Rule) (s : Scope) : List Int :=
  (rules.filter fun r => r.scope == s && r.locked).map (·.priority)

instance (rules : List Rule) : Decidable (Keyed rules) :=
  inferInstanceAs (Decidable (rules.map (·.id)).Nodup)

instance (rules : List Rule) (s : Scope) : Decidable (SeparatedIn rules s) :=
  inferInstanceAs (Decidable (rules.Pairwise _))

instance (rules : List Rule) (s : Scope) (v : Int) : Decidable (Holds rules s v) :=
  inferInstanceAs (Decidable (∃ r ∈ rules, _))

theorem SeparatedIn.ne {rules : List Rule} {s : Scope} (h : SeparatedIn rules s) {x y : Rule}
    (hx : x ∈ rules) (hy : y ∈ rules) (hxy : x ≠ y) (hxs : x.scope = s) (hys : y.scope = s) :
    x.priority ≠ y.priority :=
  pairwise_rel_of_ne (fun _ _ h hb ha => (h ha hb).symm) h hx hy hxy hxs hys

theorem mem_lockedIn {rules : List Rule} {s : Scope} {v : Int} :
    v ∈ lockedIn rules s ↔ ∃ r ∈ rules, r.scope = s ∧ r.locked = true ∧ r.priority = v := by
  simp [lockedIn, and_assoc]

/-- An anchor to insert before: an unlocked rule of scope `s`, among rules with distinct ids and,
within `s`, distinct 32-bit priorities. -/
structure Anchored (rules : List Rule) (s : Scope) (a : Rule) : Prop where
  keyed : Keyed rules
  separated : SeparatedIn rules s
  bounded : ∀ r ∈ rules, r.scope = s → r.priority ≤ Priority.max
  mem : a ∈ rules
  scope : a.scope = s
  unlocked : a.locked = false

/-- What an insertion before anchor `a` leaves, once its moves are applied and a new rule takes
`a`'s old priority: the scope stays separated; locked rules and other scopes stay as they were;
the unlocked rules of the scope keep their order, with the anchor the first of them above the new
rule; and the rules that move are the anchor and the unlocked rules the chain reaches without a
gap, each to the first value above it that no locked rule holds. -/
structure InsertedBefore (rules : List Rule) (s : Scope) (a : Rule) (shifted : List Assignment) :
    Prop where
  applied : applyAssignments rules shifted = rules.map (reassign shifted)
  separated : ∀ n : Rule, n.scope = s → n.priority = a.priority →
    SeparatedIn (applyAssignments rules shifted ++ [n]) s
  frame : ∀ r ∈ rules, r.locked = true ∨ r.scope ≠ s → reassign shifted r = r
  order : ∀ x ∈ rules, ∀ y ∈ rules, x.scope = s → y.scope = s → x.locked = false →
    y.locked = false → x.priority < y.priority →
      (reassign shifted x).priority < (reassign shifted y).priority
  precedes : a.priority < (reassign shifted a).priority ∧ ∀ x ∈ rules, x.scope = s →
    x.locked = false → a.priority < (reassign shifted x).priority →
      (reassign shifted a).priority ≤ (reassign shifted x).priority
  moved : ∀ x ∈ rules, x.id ∈ shifted.map (·.id) ↔ x.scope = s ∧ x.locked = false ∧
    a.priority ≤ x.priority ∧ ∀ v, a.priority < v → v ≤ x.priority → Holds rules s v
  moves : ∀ x ∈ rules, x.id ∈ shifted.map (·.id) →
    FirstFreeAbove (lockedIn rules s) x.priority (reassign shifted x).priority

section Insert

variable {rules : List Rule} {s : Scope} {a : Rule}

theorem Anchored.not_mem_lockedIn (h : Anchored rules s a) {x : Rule} (hx : x ∈ rules)
    (hxs : x.scope = s) (hxl : x.locked = false) : x.priority ∉ lockedIn rules s := by
  intro hv
  obtain ⟨y, hy, hys, hyl, hyx⟩ := mem_lockedIn.1 hv
  exact h.separated.ne hy hx (fun e => by rw [e, hxl] at hyl; cases hyl) hys hxs hyx

theorem Anchored.chainFrom (h : Anchored rules s a) :
    ChainFrom (lockedIn rules s) a.priority (laterThan rules s a) where
  sorted := by
    have hne : (laterThan rules s a).Pairwise (·.priority ≠ ·.priority) :=
      (List.pairwise_map.1 (h.keyed.laterThan a)).imp_of_mem fun hx hy hid => by
        obtain ⟨hx, hxs, -⟩ := mem_laterThan.1 hx
        obtain ⟨hy, hys, -⟩ := mem_laterThan.1 hy
        exact h.separated.ne hx hy (fun e => hid (congrArg Rule.id e)) hxs hys
    exact ((laterThan_sorted a).and hne).imp fun ⟨hle, hne⟩ => by omega
  free x hx := by
    obtain ⟨hx, hxs, hxl, -⟩ := mem_laterThan.1 hx
    exact h.not_mem_lockedIn hx hxs hxl
  above x hx := (mem_laterThan.1 hx).2.2.2
  bounded x hx := h.bounded x (mem_laterThan.1 hx).1 (mem_laterThan.1 hx).2.1
  cursorFree := h.not_mem_lockedIn h.mem h.scope h.unlocked
  cursorBounded := h.bounded a h.mem h.scope

theorem covered_iff_holds {v : Int} (hv : a.priority ≤ v) :
    Covered (lockedIn rules s) (laterThan rules s a) v ↔ Holds rules s v := by
  constructor
  · rintro (hl | hl)
    · obtain ⟨r, hr, hrs, -, hrv⟩ := mem_lockedIn.1 hl
      exact ⟨r, hr, hrs, hrv⟩
    · obtain ⟨r, hr, hrv⟩ := List.mem_map.1 hl
      obtain ⟨hr, hrs, -⟩ := mem_laterThan.1 hr
      exact ⟨r, hr, hrs, hrv⟩
  · rintro ⟨r, hr, hrs, rfl⟩
    cases hrl : r.locked
    · exact .inr (List.mem_map_of_mem (mem_laterThan.2 ⟨hr, hrs, hrl, hv⟩))
    · exact .inl (mem_lockedIn.2 ⟨r, hr, hrs, hrl, rfl⟩)

theorem Anchored.covered_upto_iff (h : Anchored rules s a) (w : Int) :
    (∀ v, a.priority ≤ v → v ≤ w → Covered (lockedIn rules s) (laterThan rules s a) v) ↔
      ∀ v, a.priority < v → v ≤ w → Holds rules s v := by
  constructor
  · intro hall v hv hvw
    exact (covered_iff_holds (Int.le_of_lt hv)).1 (hall v (Int.le_of_lt hv) hvw)
  · intro hall v hv hvw
    refine (covered_iff_holds hv).2 ?_
    rcases Int.lt_or_eq_of_le hv with hv | rfl
    · exact hall v hv hvw
    · exact ⟨a, h.mem, h.scope, rfl⟩

variable {now : Time.Instant} {shifted : List Assignment}

theorem moved_lt_unmoved
    (hplan : shiftUp (lockedIn rules s) now a.priority (laterThan rules s a) = .ok shifted)
    {x y : Rule} (hm : x.id ∈ shifted.map (·.id))
    (hy : y ∈ laterThan rules s a) (hym : y.id ∉ shifted.map (·.id)) :
    (reassign shifted x).priority < y.priority := by
  obtain ⟨hids, -, -, hafter⟩ := shiftUp_spec _ _ _ _ _ (laterThan_sorted a) hplan
  cases fb : shifted.find? (·.id == x.id) with
  | none => exact absurd hm (find?_id_eq_none.1 fb)
  | some b =>
    rw [reassign_of_find? fb]
    exact (hafter y (mem_drop_of_not_mem_ids hids hy hym)).2 b (mem_of_find?_id fb).1

section Shifted

variable (h : Anchored rules s a)
  (hplan : shiftUp (lockedIn rules s) now a.priority (laterThan rules s a) = .ok shifted)
include h hplan

theorem Anchored.nodup : (shifted.map (·.id)).Nodup := by
  obtain ⟨hids, -⟩ := shiftUp_spec _ _ _ _ _ (laterThan_sorted a) hplan
  rw [hids]
  exact ((List.take_sublist _ _).map _).nodup (h.keyed.laterThan a)

theorem Anchored.moved_iff {x : Rule} (hx : x ∈ rules) :
    x.id ∈ shifted.map (·.id) ↔ x ∈ laterThan rules s a ∧
      ∀ v, a.priority < v → v ≤ x.priority → Holds rules s v := by
  obtain ⟨hids, -⟩ := shiftUp_spec _ _ _ _ _ (laterThan_sorted a) hplan
  rw [hids, ← h.covered_upto_iff]
  constructor
  · intro hm
    obtain ⟨y, hy, hyx⟩ := List.mem_map.1 hm
    have hyl := List.mem_of_mem_take hy
    obtain rfl : y = x := h.keyed.eq_of_id (mem_laterThan.1 hyl).1 hx hyx
    exact ⟨hyl, (shiftUp_moved_iff h.chainFrom hplan y hyl).1 hy⟩
  · rintro ⟨hxl, hall⟩
    exact List.mem_map_of_mem ((shiftUp_moved_iff h.chainFrom hplan x hxl).2 hall)

theorem Anchored.reassign_moved {x : Rule} (hx : x ∈ rules) (hm : x.id ∈ shifted.map (·.id)) :
    FirstFreeAbove (lockedIn rules s) x.priority (reassign shifted x).priority := by
  cases fb : shifted.find? (·.id == x.id) with
  | none => exact absurd hm (find?_id_eq_none.1 fb)
  | some b =>
    obtain ⟨hb, hbx⟩ := mem_of_find?_id fb
    obtain ⟨y, hy, hyb, hfree⟩ := shiftUp_moves h.chainFrom hplan b hb
    obtain rfl : y = x := h.keyed.eq_of_id (mem_laterThan.1 hy).1 hx (hyb.trans hbx)
    rw [reassign_of_find? fb]
    exact hfree

theorem Anchored.anchor_moved : a.id ∈ shifted.map (·.id) :=
  (h.moved_iff hplan h.mem).2 ⟨mem_laterThan.2 ⟨h.mem, h.scope, h.unlocked, Int.le_refl _⟩,
    fun _ hv hva => absurd hva (by omega)⟩

theorem Anchored.le_reassign {x : Rule} (hx : x ∈ rules) :
    x.priority ≤ (reassign shifted x).priority := by
  by_cases hm : x.id ∈ shifted.map (·.id)
  · exact Int.le_of_lt (h.reassign_moved hplan hx hm).1
  · exact Int.le_of_eq (by rw [reassign_of_not_mem hm])

theorem Anchored.frame {r : Rule} (hr : r ∈ rules) (hrs : r.locked = true ∨ r.scope ≠ s) :
    reassign shifted r = r := by
  refine reassign_of_not_mem fun hm => ?_
  obtain ⟨-, hrs', hrl, -⟩ := mem_laterThan.1 ((h.moved_iff hplan hr).1 hm).1
  rcases hrs with hrl' | hrs
  · rw [hrl] at hrl'
    cases hrl'
  · exact hrs hrs'

theorem Anchored.reassign_free {x : Rule} (hx : x ∈ rules) (hxs : x.scope = s)
    (hxl : x.locked = false) : (reassign shifted x).priority ∉ lockedIn rules s := by
  by_cases hm : x.id ∈ shifted.map (·.id)
  · exact (h.reassign_moved hplan hx hm).2.1
  · rw [reassign_of_not_mem hm]
    exact h.not_mem_lockedIn hx hxs hxl

theorem Anchored.order {x y : Rule} (hx : x ∈ rules) (hy : y ∈ rules) (hys : y.scope = s)
    (hyl : y.locked = false) (hxy : x.priority < y.priority) :
    (reassign shifted x).priority < (reassign shifted y).priority := by
  by_cases hxm : x.id ∈ shifted.map (·.id)
  · by_cases hym : y.id ∈ shifted.map (·.id)
    · -- `x` ends on the first free value above it, and `y`'s own priority is one
      have hle := (h.reassign_moved hplan hx hxm).le_of_free (h.not_mem_lockedIn hy hys hyl) hxy
      have hy' := (h.reassign_moved hplan hy hym).1
      omega
    · -- `y` stays, after the anchor and above every moved rule
      have hax := (mem_laterThan.1 ((h.moved_iff hplan hx).1 hxm).1).2.2.2
      have hyl' : y ∈ laterThan rules s a := mem_laterThan.2 ⟨hy, hys, hyl, by omega⟩
      rw [reassign_of_not_mem hym]
      exact moved_lt_unmoved hplan hxm hyl' hym
  · rw [reassign_of_not_mem hxm]
    have := h.le_reassign hplan hy
    omega

theorem Anchored.reassign_ne_anchor {x : Rule} (hx : x ∈ rules) (hxs : x.scope = s) :
    (reassign shifted x).priority ≠ a.priority := by
  by_cases hm : x.id ∈ shifted.map (·.id)
  · -- a moved rule ends above its priority, which is at least the anchor's
    have h1 := (h.reassign_moved hplan hx hm).1
    have h2 := (mem_laterThan.1 ((h.moved_iff hplan hx).1 hm).1).2.2.2
    omega
  · -- the anchor moves, so a rule that stays is another rule of the scope
    have hne : x ≠ a := fun e => hm (by rw [e]; exact h.anchor_moved hplan)
    rw [reassign_of_not_mem hm]
    exact h.separated.ne hx h.mem hne hxs h.scope

theorem Anchored.reassign_ne {x y : Rule} (hx : x ∈ rules) (hy : y ∈ rules) (hxy : x ≠ y)
    (hxs : x.scope = s) (hys : y.scope = s) :
    (reassign shifted x).priority ≠ (reassign shifted y).priority := by
  cases hxl : x.locked <;> cases hyl : y.locked
  · -- both unlocked: the moves keep their order
    rcases Int.lt_or_gt_of_ne (h.separated.ne hx hy hxy hxs hys) with hlt | hlt
    · exact Int.ne_of_lt (h.order hplan hx hy hys hyl hlt)
    · exact Int.ne_of_gt (h.order hplan hy hx hxs hxl hlt)
  · -- a locked rule keeps a priority that no unlocked one ends on
    rw [h.frame hplan hy (.inl hyl)]
    exact fun e => h.reassign_free hplan hx hxs hxl (by rw [e]; exact mem_lockedIn.2 ⟨y, hy, hys, hyl, rfl⟩)
  · rw [h.frame hplan hx (.inl hxl)]
    exact fun e => h.reassign_free hplan hy hys hyl (by rw [← e]; exact mem_lockedIn.2 ⟨x, hx, hxs, hxl, rfl⟩)
  · rw [h.frame hplan hx (.inl hxl), h.frame hplan hy (.inl hyl)]
    exact h.separated.ne hx hy hxy hxs hys

theorem Anchored.insertedBefore : InsertedBefore rules s a shifted where
  applied := applyAssignments_eq_map h.keyed (h.nodup hplan)
  separated n hns hnt := by
    rw [applyAssignments_eq_map h.keyed (h.nodup hplan), SeparatedIn, List.pairwise_append]
    refine ⟨?_, List.pairwise_singleton _ _, ?_⟩
    · rw [List.pairwise_map]
      exact h.keyed.pairwise fun x hx y hy hid hxs hys => h.reassign_ne hplan hx hy
        (fun e => hid (congrArg Rule.id e)) (by simpa using hxs) (by simpa using hys)
    · intro x' hx' n' hn' hxs _
      obtain ⟨x, hx, rfl⟩ := List.mem_map.1 hx'
      rw [List.mem_singleton.1 hn', hnt]
      exact h.reassign_ne_anchor hplan hx (by simpa using hxs)
  frame _ hr hrs := h.frame hplan hr hrs
  order _ hx _ hy _ hys _ hyl hxy := h.order hplan hx hy hys hyl hxy
  precedes := ⟨(h.reassign_moved hplan h.mem (h.anchor_moved hplan)).1,
    fun _ hx hxs hxl hax => (h.reassign_moved hplan h.mem (h.anchor_moved hplan)).le_of_free
      (h.reassign_free hplan hx hxs hxl) hax⟩
  moved x hx := by
    rw [h.moved_iff hplan hx, mem_laterThan]
    simp only [hx, true_and, and_assoc]
  moves _ hx hm := h.reassign_moved hplan hx hm

end Shifted

theorem Anchored.overflow_iff (h : Anchored rules s a) :
    (shiftUp (lockedIn rules s) now a.priority (laterThan rules s a)).map (a.priority, ·) =
        .error .overflow ↔
      ∀ v, a.priority ≤ v → v ≤ Priority.max → Covered (lockedIn rules s) (laterThan rules s a) v := by
  constructor
  · intro he
    exact (shiftUp_error h.chainFrom (map_eq_error he)).2
  · intro hall
    obtain ⟨e, he⟩ := shiftUp_error_of_covered now h.chainFrom hall
    obtain ⟨rfl, -⟩ := shiftUp_error h.chainFrom he
    rw [he]
    rfl

theorem Anchored.inserts (h : Anchored rules s a)
    (hfree : ¬ ∀ v, a.priority ≤ v → v ≤ Priority.max →
      Covered (lockedIn rules s) (laterThan rules s a) v) :
    ∃ shifted, (shiftUp (lockedIn rules s) now a.priority (laterThan rules s a)).map
      (a.priority, ·) = .ok (a.priority, shifted) ∧ InsertedBefore rules s a shifted := by
  cases hs : shiftUp (lockedIn rules s) now a.priority (laterThan rules s a) with
  | error e => exact absurd (shiftUp_error h.chainFrom hs).2 hfree
  | ok shifted => exact ⟨shifted, rfl, h.insertedBefore hs⟩

end Insert

/-! ## The insertion plan -/

section Plan

variable {rules : List Rule} {s : Scope} {anchor : String} {now : Time.Instant} {a : Rule}

theorem find?_anchor (hk : Keyed rules) (ha : a ∈ rules) (has : a.scope = s) :
    rules.find? (fun r => r.id == a.id && r.scope == s) = some a := by
  cases hf : rules.find? (fun r => r.id == a.id && r.scope == s) with
  | none => exact absurd (List.find?_eq_none.1 hf a ha) (by simp [has])
  | some b =>
    have hb := List.find?_some hf
    simp only [Bool.and_eq_true, beq_iff_eq] at hb
    rw [hk.eq_of_id (List.mem_of_find?_eq_some hf) ha hb.1]

theorem planInsertBefore_of_absent (h : ∀ r ∈ rules, r.scope = s → r.id ≠ anchor) :
    planInsertBefore rules s anchor now = .error (.error (.notFound anchor)) := by
  have hnone : rules.find? (fun r => r.id == anchor && r.scope == s) = none :=
    List.find?_eq_none.2 fun r hr => by simpa using fun hid hrs => h r hr hrs hid
  unfold planInsertBefore
  rw [hnone]
  rfl

theorem planInsertBefore_of_locked
    (hfind : rules.find? (fun r => r.id == anchor && r.scope == s) = some a)
    (hl : a.locked = true) :
    planInsertBefore rules s anchor now = .error (.error (.locked anchor .reorder)) := by
  unfold planInsertBefore
  rw [hfind]
  simp only [hl, if_true]
  rfl

theorem planInsertBefore_of_unlocked
    (hfind : rules.find? (fun r => r.id == anchor && r.scope == s) = some a)
    (hl : a.locked = false) :
    planInsertBefore rules s anchor now =
      (shiftUp (lockedIn rules s) now a.priority (laterThan rules s a)).map (a.priority, ·) := by
  unfold planInsertBefore
  rw [hfind]
  simp only [hl, Bool.false_eq_true, if_false]
  change (shiftUp (lockedIn rules s) now a.priority (laterThan rules s a) >>= fun shifted =>
    pure (a.priority, shifted)) = _
  cases shiftUp (lockedIn rules s) now a.priority (laterThan rules s a) <;> rfl

end Plan

/-- Inserting before an anchor, among rules with distinct ids and distinct 32-bit priorities in
scope `s`: it is refused when no rule of `s` has the anchor's id or the anchor is locked; it
overflows exactly when every value above the anchor's priority up to the largest one is held in
`s`; and otherwise it gives the anchor's priority to the new rule and shifts the chain above. -/
theorem insertBefore_shifts_chain (rules : List Rule) (s : Scope) (anchor : String)
    (now : Time.Instant) (hk : Keyed rules) (hsep : SeparatedIn rules s)
    (hmax : ∀ r ∈ rules, r.scope = s → r.priority ≤ Priority.max) :
    ((∀ r ∈ rules, r.scope = s → r.id ≠ anchor) →
      planInsertBefore rules s anchor now = .error (.error (.notFound anchor))) ∧
    ∀ a ∈ rules, a.scope = s → a.id = anchor →
      (a.locked = true →
        planInsertBefore rules s anchor now = .error (.error (.locked anchor .reorder))) ∧
      (a.locked = false →
        (planInsertBefore rules s anchor now = .error .overflow ↔
          ∀ v, a.priority < v → v ≤ Priority.max → Holds rules s v) ∧
        ((¬ ∀ v, a.priority < v → v ≤ Priority.max → Holds rules s v) →
          ∃ shifted, planInsertBefore rules s anchor now = .ok (a.priority, shifted) ∧
            InsertedBefore rules s a shifted)) := by
  refine ⟨planInsertBefore_of_absent, ?_⟩
  rintro a ha has rfl
  have hfind := find?_anchor hk ha has
  refine ⟨planInsertBefore_of_locked hfind, fun hal => ?_⟩
  have h : Anchored rules s a := ⟨hk, hsep, hmax, ha, has, hal⟩
  rw [planInsertBefore_of_unlocked hfind hal, ← h.covered_upto_iff]
  exact ⟨h.overflow_iff, h.inserts⟩

/-- A locked default at 2 between unlocked rules at 1, 3 and 5: inserting before the rule at 1
moves it past the locked one to 3, the rule there to 4, and stops at the gap. -/
theorem insertBefore_skips_locked :
    let at2025 : Time.Instant := ⟨1735689600, 0⟩
    let mk (id pattern : String) (priority : Int) : Rule :=
      { id := id, kind := .path, group := .openai, provider := "p1", pattern := pattern,
        rewrite := none, priority := priority, enabled := true, createdAt := at2025,
        updatedAt := at2025 }
    let rules := [mk "b" "/v1/b" 1, mk "default" "/api/openai/*" 2, mk "c" "/v1/c" 3,
      mk "d" "/v1/d" 5]
    ∃ shifted, planInsertBefore rules ⟨.openai, .path⟩ "b" at2025 = .ok (1, shifted) ∧
      InsertedBefore rules ⟨.openai, .path⟩ (mk "b" "/v1/b" 1) shifted := by
  intro at2025 mk rules
  have hall := insertBefore_shifts_chain rules ⟨.openai, .path⟩ "b" at2025 (by decide)
    (by decide) (by decide)
  exact ((hall.2 (mk "b" "/v1/b" 1) List.mem_cons_self rfl rfl).2 rfl).2
    fun hheld => absurd (hheld 4 (by decide) (by decide)) (by decide)

end ProviderRouting
