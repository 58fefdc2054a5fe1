import ProviderRouting.Proofs.Glob.Backtrack

/-!
# The matching loop stays in bounds and ends

Written over indices, the matcher is a loop with four variables: `p` into the pattern, `v` into
the value, the place `star` of the latest star, and the end `starEnd` of what that star has
taken. A star sets `starEnd := v` and moves past itself; a byte that agrees moves both indices;
any other byte sends the scan back to just after the latest star, which takes one byte more;
with no star seen the match fails. Once the value is used up, the rest of the pattern must be
all stars.

`Loop.step` is one turn of that loop. Its reads are checked: a read or a slice past the end of
its bytes is `Turn.outOfRange`. `Loop.Bounds` is the loop's invariant, `starEnd ≤ v ≤ |value|`,
`p ≤ |pattern|` and the latest star inside the pattern. From a state within bounds a turn
never goes out of range (`step_ne_outOfRange`), and a turn that goes round again keeps the
bounds (`Bounds.move`) and lowers the pair `(|value| - starEnd, (|pattern| - p) + (|value| - v))`
lexicographically (`measure_move`). So the loop returns, and it returns what `scan` answers
(`returns_scan`): `scan` is this loop with each index replaced by the suffix it points at.
-/

namespace ProviderRouting.Glob

/-! ## The loop -/

/-- The variables of the matching loop. -/
structure Loop where
  p : Nat
  v : Nat
  lastStar : Option Nat
  starEnd : Nat
  deriving Repr, DecidableEq

def Loop.start : Loop := ⟨0, 0, none, 0⟩

/-- How a turn ends: the loop goes round again, the matcher returns, or a read or slice lies
past the end of its bytes. -/
inductive Turn where
  | next (s : Loop)
  | done (b : Bool)
  | outOfRange
  deriving Repr, DecidableEq

def Loop.backtrack (s : Loop) : Turn :=
  match s.lastStar with
  | some sp => .next { s with starEnd := s.starEnd + 1, v := s.starEnd + 1, p := sp + 1 }
  | none => .done false

/-- One turn of the loop. It goes round while `value[v]` exists, testing the pattern's byte at
`p` (when there is one) first for a star and then against `value[v]`; once the value is used up,
the pattern's rest `pattern[p..]`, a slice that fails past the end, must be all stars. -/
def Loop.step (pattern value : List UInt8) (s : Loop) : Turn :=
  match value[s.v]? with
  | none =>
    if s.p ≤ pattern.length then .done ((pattern.drop s.p).all (· == star)) else .outOfRange
  | some c =>
    if pattern[s.p]? = some star then
      .next { s with lastStar := some s.p, starEnd := s.v, p := s.p + 1 }
    else if pattern[s.p]? = some c then .next { s with p := s.p + 1, v := s.v + 1 }
    else s.backtrack

/-- The turns that go round again. -/
inductive Loop.Moves (pattern value : List UInt8) : Loop → Loop → Prop
  | star {s : Loop} {c : UInt8} : value[s.v]? = some c → pattern[s.p]? = some star →
      Moves pattern value s { s with lastStar := some s.p, starEnd := s.v, p := s.p + 1 }
  | agree {s : Loop} {c : UInt8} : value[s.v]? = some c → pattern[s.p]? ≠ some star →
      pattern[s.p]? = some c → Moves pattern value s { s with p := s.p + 1, v := s.v + 1 }
  | back {s : Loop} {c : UInt8} {sp : Nat} : value[s.v]? = some c →
      pattern[s.p]? ≠ some star → pattern[s.p]? ≠ some c → s.lastStar = some sp →
      Moves pattern value s { s with starEnd := s.starEnd + 1, v := s.starEnd + 1, p := sp + 1 }

/-- `Returns pattern value s b`: from `s`, the loop returns `b` after finitely many turns. -/
inductive Loop.Returns (pattern value : List UInt8) : Loop → Bool → Prop
  | done {s : Loop} {b : Bool} : Loop.step pattern value s = .done b → Returns pattern value s b
  | next {s s' : Loop} {b : Bool} : Loop.step pattern value s = .next s' →
      Returns pattern value s' b → Returns pattern value s b

/-- The states the loop passes through from its start. -/
inductive Loop.Reaches (pattern value : List UInt8) : Loop → Prop
  | start : Reaches pattern value Loop.start
  | next {s s' : Loop} : Reaches pattern value s → Loop.step pattern value s = .next s' →
      Reaches pattern value s'

structure Loop.Bounds (pattern value : List UInt8) (s : Loop) : Prop where
  starEnd_le : s.starEnd ≤ s.v
  v_le : s.v ≤ value.length
  p_le : s.p ≤ pattern.length
  lastStar_lt : ∀ sp, s.lastStar = some sp → sp < pattern.length

def Loop.measure (pattern value : List UInt8) (s : Loop) : Nat × Nat :=
  (value.length - s.starEnd, (pattern.length - s.p) + (value.length - s.v))

def Loop.back (pattern value : List UInt8) (s : Loop) : Option (List UInt8 × List UInt8) :=
  s.lastStar.map fun sp => (pattern.drop (sp + 1), (value.drop s.starEnd).take (s.v - s.starEnd))

namespace Loop

variable {pattern value : List UInt8} {s s' : Loop}

/-! ## What a turn can do -/

theorem backtrack_cases (s : Loop) :
    (∃ sp, s.lastStar = some sp ∧
      s.backtrack = .next { s with starEnd := s.starEnd + 1, v := s.starEnd + 1, p := sp + 1 }) ∨
    (s.lastStar = none ∧ s.backtrack = .done false) := by
  unfold backtrack
  split
  · rename_i sp hsp
    exact .inl ⟨sp, hsp, rfl⟩
  · rename_i hsp
    exact .inr ⟨hsp, rfl⟩

theorem moves_of_step (h : step pattern value s = .next s') : Moves pattern value s s' := by
  unfold step at h
  split at h
  · split at h <;> cases h
  · rename_i c hc
    by_cases hs : pattern[s.p]? = some star
    · rw [if_pos hs] at h
      cases h
      exact .star hc hs
    rw [if_neg hs] at h
    by_cases hd : pattern[s.p]? = some c
    · rw [if_pos hd] at h
      cases h
      exact .agree hc hs hd
    rw [if_neg hd] at h
    rcases backtrack_cases s with ⟨sp, hsp, hb⟩ | ⟨-, hb⟩ <;> rw [hb] at h <;> cases h
    exact .back hc hs hd hsp

theorem done_cases {b : Bool} (h : step pattern value s = .done b) :
    (value[s.v]? = none ∧ s.p ≤ pattern.length ∧ b = (pattern.drop s.p).all (· == star)) ∨
    (∃ c, value[s.v]? = some c ∧ pattern[s.p]? ≠ some star ∧ pattern[s.p]? ≠ some c ∧
      s.lastStar = none ∧ b = false) := by
  unfold step at h
  split at h
  · rename_i hv
    split at h
    · rename_i hp
      cases h
      exact .inl ⟨hv, hp, rfl⟩
    · cases h
  · rename_i c hc
    by_cases hs : pattern[s.p]? = some star
    · rw [if_pos hs] at h
      cases h
    rw [if_neg hs] at h
    by_cases hd : pattern[s.p]? = some c
    · rw [if_pos hd] at h
      cases h
    rw [if_neg hd] at h
    rcases backtrack_cases s with ⟨sp, -, hb⟩ | ⟨hsp, hb⟩ <;> rw [hb] at h <;> cases h
    exact .inr ⟨c, hc, hs, hd, hsp, rfl⟩

theorem outOfRange_cases (h : step pattern value s = .outOfRange) :
    value[s.v]? = none ∧ pattern.length < s.p := by
  unfold step at h
  split at h
  · rename_i hv
    split at h
    · cases h
    · exact ⟨hv, by omega⟩
  · split at h
    · cases h
    split at h
    · cases h
    rcases backtrack_cases s with ⟨sp, -, hb⟩ | ⟨-, hb⟩ <;> rw [hb] at h <;> cases h

/-! ## Bounds and the measure -/

theorem Bounds.start : Bounds pattern value Loop.start :=
  ⟨Nat.le_refl 0, Nat.zero_le _, Nat.zero_le _, fun _ h => by cases h⟩

theorem lt_length_of_getElem? {α : Type} {l : List α} {i : Nat} {a : α} (h : l[i]? = some a) :
    i < l.length :=
  (List.getElem?_eq_some_iff.1 h).1

theorem Bounds.move (hb : Bounds pattern value s) (hm : Moves pattern value s s') :
    Bounds pattern value s' := by
  obtain ⟨hsv, hv, hp, hstar⟩ := hb
  cases hm with
  | star hc hd =>
    have := lt_length_of_getElem? hd
    refine ⟨Nat.le_refl _, hv, by simp; omega, ?_⟩
    rintro sp ⟨⟩
    exact this
  | agree hc _ hd =>
    have := lt_length_of_getElem? hc
    have := lt_length_of_getElem? hd
    exact ⟨by simp; omega, by simp; omega, by simp; omega, hstar⟩
  | back hc _ _ hsp =>
    have := lt_length_of_getElem? hc
    have := hstar _ hsp
    exact ⟨Nat.le_refl _, by simp; omega, by simp; omega, hstar⟩

theorem step_ne_outOfRange (hb : Bounds pattern value s) : step pattern value s ≠ .outOfRange :=
  fun h => absurd hb.p_le (Nat.not_le.2 (outOfRange_cases h).2)

/-- A turn that goes round again lowers the measure: a star step lowers the first part unless
the star took nothing, and then the second; a byte that agrees lowers the second; a step back
lowers the first. -/
theorem measure_move (hb : Bounds pattern value s) (hm : Moves pattern value s s') :
    Prod.Lex (· < ·) (· < ·) (measure pattern value s') (measure pattern value s) := by
  obtain ⟨hsv, hv, hp, hstar⟩ := hb
  cases hm with
  | star hc hd =>
    have := lt_length_of_getElem? hc
    have := lt_length_of_getElem? hd
    simp only [measure, Prod.lex_def]
    omega
  | agree hc _ hd =>
    have := lt_length_of_getElem? hc
    have := lt_length_of_getElem? hd
    simp only [measure, Prod.lex_def, true_and]
    omega
  | back hc _ _ _ =>
    have := lt_length_of_getElem? hc
    simp only [measure, Prod.lex_def]
    omega

theorem Reaches.bounds (h : Reaches pattern value s) : Bounds pattern value s := by
  induction h with
  | start => exact Bounds.start
  | next _ hs ih => exact ih.move (moves_of_step hs)

/-! ## The loop computes `scan` -/

theorem drop_of_getElem? {l : List UInt8} {i : Nat} {a : UInt8} (h : l[i]? = some a) :
    l.drop i = a :: l.drop (i + 1) := by
  obtain ⟨hi, rfl⟩ := List.getElem?_eq_some_iff.1 h
  exact List.drop_eq_getElem_cons hi

theorem taken_append (hsv : s.starEnd ≤ s.v) :
    (value.drop s.starEnd).take (s.v - s.starEnd) ++ value.drop s.v = value.drop s.starEnd := by
  have : value.drop s.v = (value.drop s.starEnd).drop (s.v - s.starEnd) := by
    rw [List.drop_drop]; congr 1; omega
  rw [this, List.take_append_drop]

theorem taken_succ {c : UInt8} (hsv : s.starEnd ≤ s.v) (hc : value[s.v]? = some c) :
    (value.drop s.starEnd).take (s.v - s.starEnd) ++ [c] =
      (value.drop s.starEnd).take (s.v + 1 - s.starEnd) := by
  have hget : (value.drop s.starEnd)[s.v - s.starEnd]? = some c := by
    rw [List.getElem?_drop, ← hc]; congr 1; omega
  rw [show s.v + 1 - s.starEnd = s.v - s.starEnd + 1 by omega, List.take_add_one, hget]
  rfl

theorem scan_move (hb : Bounds pattern value s) (hm : Moves pattern value s s') :
    scan (pattern.drop s'.p) (value.drop s'.v) (back pattern value s') =
      scan (pattern.drop s.p) (value.drop s.v) (back pattern value s) := by
  cases hm with
  | star hc hd =>
    rw [drop_of_getElem? hd, drop_of_getElem? hc, scan, if_pos (beq_self_eq_true star)]
    simp [back]
  | @agree c hc hs hd =>
    have hcs : ¬ (c == star) = true := fun h => hs (beq_iff_eq.1 h ▸ hd)
    rw [drop_of_getElem? hd, drop_of_getElem? hc, scan, if_neg hcs, if_pos (beq_self_eq_true _)]
    simp only [back, Option.map_map]
    congr 1
    cases s.lastStar <;> simp [taken_succ hb.starEnd_le hc]
  | back hc hs hd hsp =>
    have hhead : (pattern.drop s.p).head? = pattern[s.p]? := by simp
    rw [drop_of_getElem? hc, scan_mismatch (by rwa [hhead]) (by rwa [hhead])]
    simp only [back, hsp, Option.map_some, restart, Nat.sub_self, List.take_zero]
    rw [← drop_of_getElem? hc, taken_append hb.starEnd_le, List.tail_drop]

theorem scan_done {b : Bool} (h : step pattern value s = .done b) :
    scan (pattern.drop s.p) (value.drop s.v) (back pattern value s) = b := by
  rcases done_cases h with ⟨hv, -, rfl⟩ | ⟨c, hc, hs, hd, hsp, rfl⟩
  · have : value.drop s.v = [] := List.drop_eq_nil_of_le (List.getElem?_eq_none_iff.1 hv)
    rw [this, scan]
  · have hhead : (pattern.drop s.p).head? = pattern[s.p]? := by simp
    rw [drop_of_getElem? hc, scan_mismatch (by rwa [hhead]) (by rwa [hhead])]
    simp [back, hsp, restart]

theorem returns_scan (s : Loop) (hb : Bounds pattern value s) :
    Returns pattern value s (scan (pattern.drop s.p) (value.drop s.v) (back pattern value s)) := by
  match h : step pattern value s with
  | .done b => exact .done (h.trans (congrArg _ (scan_done h).symm))
  | .next s' =>
    have hm := moves_of_step h
    rw [← scan_move hb hm]
    exact .next h (returns_scan s' (hb.move hm))
  | .outOfRange => exact absurd h (step_ne_outOfRange hb)
termination_by measure pattern value s
decreasing_by exact measure_move hb hm

end Loop

/-- The matching loop over any pattern and value bytes: every state it reaches is within bounds,
no turn reads or slices past the end, every turn that goes round again lowers the measure
lexicographically, and the loop returns, with `scan`'s answer. -/
theorem loop_keeps_bounds_and_returns (pattern value : List UInt8) :
    (∀ s, Loop.Reaches pattern value s →
      Loop.Bounds pattern value s ∧ Loop.step pattern value s ≠ .outOfRange ∧
      ∀ s', Loop.step pattern value s = .next s' →
        Prod.Lex (· < ·) (· < ·) (Loop.measure pattern value s') (Loop.measure pattern value s)) ∧
    Loop.Returns pattern value Loop.start (scan pattern value none) := by
  refine ⟨fun s hs => ?_, Loop.returns_scan Loop.start Loop.Bounds.start⟩
  have hb := hs.bounds
  exact ⟨hb, Loop.step_ne_outOfRange hb,
    fun s' h => Loop.measure_move hb (Loop.moves_of_step h)⟩

end ProviderRouting.Glob
