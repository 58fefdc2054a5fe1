import ProviderRouting.Text.Glob

/-!
# The backtracking scan is glob matching

`Fits w p v` says that the text `v` matches the pattern `p`, in which the symbol `w` stands for
any run of symbols and every other symbol for itself. Two readings of it are proved equal:
cutting the text into the pattern's literal pieces (`fits_iff_spelled`), and `Glob.scan`
(`scan_iff`).

The scan remembers only the latest star. That loses nothing because a later star subsumes an
earlier one: once the scan has reached a star, anything the earlier star could still take is
taken by the later one too (`fits_of_later_star`). The invariant that carries this is
`Aligned`: the pattern left is the pattern after the latest star less a literal run exactly as
long as the bytes read since that star's restart.
-/

namespace ProviderRouting.Glob

section
variable {α : Type} (w : α)

/-- `Fits w p v`: the text `v` matches the pattern `p`, in which `w` stands for any run of
symbols and every other symbol for itself. -/
inductive Fits : List α → List α → Prop
  | nil : Fits [] []
  | lit {a : α} {ps vs : List α} : a ≠ w → Fits ps vs → Fits (a :: ps) (a :: vs)
  | stop {ps vs : List α} : Fits ps vs → Fits (w :: ps) vs
  | take {ps vs : List α} (a : α) : Fits (w :: ps) vs → Fits (w :: ps) (a :: vs)

variable {w}

theorem fits_nil_iff {v : List α} : Fits w [] v ↔ v = [] := by
  constructor
  · intro h; cases h; rfl
  · rintro rfl; exact .nil

theorem fits_lit_iff {a : α} (ha : a ≠ w) {ps v : List α} :
    Fits w (a :: ps) v ↔ ∃ vs, v = a :: vs ∧ Fits w ps vs := by
  constructor
  · intro h
    cases h with
    | lit _ h => exact ⟨_, rfl, h⟩
    | stop => exact absurd rfl ha
    | take => exact absurd rfl ha
  · rintro ⟨vs, rfl, h⟩; exact .lit ha h

theorem fits_star_append {ps u : List α} (h : Fits w (w :: ps) u) :
    ∀ t, Fits w (w :: ps) (t ++ u)
  | [] => h
  | a :: t => .take a (fits_star_append h t)

theorem fits_star_iff {ps v : List α} :
    Fits w (w :: ps) v ↔ ∃ t u, v = t ++ u ∧ Fits w ps u := by
  constructor
  · intro h
    generalize hp : w :: ps = p at h
    induction h with
    | nil => cases hp
    | lit ha _ _ => cases hp; exact absurd rfl ha
    | stop h _ => cases hp; exact ⟨[], _, rfl, h⟩
    | take a _ ih =>
      obtain ⟨t, u, rfl, hu⟩ := ih hp
      exact ⟨a :: t, u, rfl, hu⟩
  · rintro ⟨t, u, rfl, hu⟩
    exact fits_star_append (.stop hu) t

theorem fits_star_cons_iff {ps : List α} {a : α} {v : List α} :
    Fits w (w :: ps) (a :: v) ↔ Fits w ps (a :: v) ∨ Fits w (w :: ps) v := by
  constructor
  · intro h
    cases h with
    | lit ha _ => exact absurd rfl ha
    | stop h => exact .inl h
    | take _ h => exact .inr h
  · rintro (h | h)
    · exact .stop h
    · exact .take a h

theorem fits_literal_append_iff {l ps v : List α} (hl : w ∉ l) :
    Fits w (l ++ ps) v ↔ ∃ v', v = l ++ v' ∧ Fits w ps v' := by
  induction l generalizing v with
  | nil => simp
  | cons a l ih =>
    have ha : a ≠ w := fun h => hl (h ▸ List.mem_cons_self)
    rw [List.cons_append, fits_lit_iff ha]
    constructor
    · rintro ⟨vs, rfl, h⟩
      obtain ⟨v', rfl, h'⟩ := (ih (fun h => hl (List.mem_cons_of_mem _ h))).1 h
      exact ⟨v', rfl, h'⟩
    · rintro ⟨v', rfl, h'⟩
      exact ⟨l ++ v', rfl, (ih (fun h => hl (List.mem_cons_of_mem _ h))).2 ⟨v', rfl, h'⟩⟩

theorem fits_nil_right_iff {p : List α} : Fits w p [] ↔ ∀ a ∈ p, a = w := by
  induction p with
  | nil => simp [fits_nil_iff]
  | cons a p ih =>
    by_cases ha : a = w
    · subst ha
      rw [fits_star_iff, List.forall_mem_cons, ← ih]
      constructor
      · rintro ⟨t, u, h, hu⟩
        obtain ⟨rfl, rfl⟩ := List.append_eq_nil_iff.1 h.symm
        exact ⟨rfl, hu⟩
      · rintro ⟨-, h⟩
        exact ⟨[], [], rfl, h⟩
    · rw [fits_lit_iff ha]
      simp [ha]

theorem fits_star_iff_tail {ps v : List α} :
    Fits w (w :: ps) v ↔ Fits w ps v ∨ Fits w (w :: ps) v.tail := by
  cases v with
  | nil =>
    constructor
    · intro h; exact .inr h
    · rintro (h | h)
      · exact .stop h
      · exact h
  | cons a v => exact fits_star_cons_iff

/-! ## Pieces -/

def Spelled : List (List α) → List α → Prop
  | [], _ => False
  | [l], v => v = l
  | l :: m :: ls, v => ∃ s rest, v = l ++ s ++ rest ∧ Spelled (m :: ls) rest

theorem spelled_nil_cons {m : List α} {ls : List (List α)} {v : List α} :
    Spelled ([] :: m :: ls) v ↔ ∃ s rest, v = s ++ rest ∧ Spelled (m :: ls) rest := by
  simp [Spelled]

theorem spelled_cons_cons {a : α} {l : List α} {ls : List (List α)} {v : List α} :
    Spelled ((a :: l) :: ls) v ↔ ∃ v', v = a :: v' ∧ Spelled (l :: ls) v' := by
  cases ls with
  | nil => simp [Spelled]
  | cons m ls =>
    simp only [Spelled, List.cons_append]
    constructor
    · rintro ⟨s, rest, rfl, h⟩
      exact ⟨_, rfl, s, rest, rfl, h⟩
    · rintro ⟨v', rfl, s, rest, rfl, h⟩
      exact ⟨s, rest, rfl, h⟩

theorem fits_iff_spelled [DecidableEq α] {p v : List α} : Fits w p v ↔ Spelled (p.splitOn w) v := by
  induction p generalizing v with
  | nil => simp [Spelled, fits_nil_iff]
  | cons a p ih =>
    obtain ⟨m, ls, hm⟩ := List.exists_cons_of_ne_nil (List.splitOn_ne_nil w p)
    rw [List.splitOn_cons_eq_if_modifyHead, hm]
    by_cases ha : a = w
    · subst ha
      simp only [beq_self_eq_true, if_true, spelled_nil_cons, fits_star_iff, ih, hm]
    · rw [if_neg (by simpa using ha), List.modifyHead_cons, spelled_cons_cons, fits_lit_iff ha]
      simp only [ih, hm]

end

/-! ## The scan -/

def Later (back : Option (List UInt8 × List UInt8)) (val : List UInt8) : Prop :=
  match back with
  | none => False
  | some (q, pre) => Fits star (star :: q) (pre ++ val).tail

def Aligned (back : Option (List UInt8 × List UInt8)) (pat : List UInt8) : Prop :=
  match back with
  | none => True
  | some (q, pre) => ∃ l, q = l ++ pat ∧ l.length = pre.length ∧ star ∉ l

theorem aligned_restart (q : List UInt8) : Aligned (some (q, [])) q := ⟨[], rfl, rfl, by simp⟩

theorem aligned_read {back : Option (List UInt8 × List UInt8)} {d c : UInt8} {ps : List UInt8}
    (hd : d ≠ star) (h : Aligned back (d :: ps)) :
    Aligned (back.map fun (q, pre) => (q, pre ++ [c])) ps := by
  cases back with
  | none => trivial
  | some b =>
    obtain ⟨q, pre⟩ := b
    obtain ⟨l, rfl, hlen, hl⟩ := h
    refine ⟨l ++ [d], by simp, by simp [hlen], ?_⟩
    simp only [List.mem_append, List.mem_singleton, not_or]
    exact ⟨hl, fun h => hd h.symm⟩

theorem later_read {back : Option (List UInt8 × List UInt8)} {c : UInt8} {vs : List UInt8} :
    Later (back.map fun (q, pre) => (q, pre ++ [c])) vs ↔ Later back (c :: vs) := by
  cases back with
  | none => exact Iff.rfl
  | some b => simp [Later]

theorem later_restart {back : Option (List UInt8 × List UInt8)} {c : UInt8} {vs q rest : List UInt8}
    (h : restart back c vs = some (q, rest)) : Later back (c :: vs) ↔ Fits star (star :: q) rest := by
  cases back with
  | none => simp [restart] at h
  | some b =>
    obtain ⟨q', pre⟩ := b
    simp only [restart, Option.some.injEq, Prod.mk.injEq] at h
    obtain ⟨rfl, rfl⟩ := h
    exact Iff.rfl

theorem later_of_restart_none {back : Option (List UInt8 × List UInt8)} {c : UInt8}
    {vs : List UInt8} (h : restart back c vs = none) : ¬ Later back (c :: vs) := by
  cases back with
  | none => exact id
  | some b => simp [restart] at h

theorem fits_of_later_nil {back : Option (List UInt8 × List UInt8)} {pat : List UInt8}
    (ha : Aligned back pat) (h : Later back []) : Fits star pat [] := by
  cases back with
  | none => exact h.elim
  | some b =>
    obtain ⟨q, pre⟩ := b
    obtain ⟨l, rfl, hlen, hl⟩ := ha
    obtain ⟨t, u, ht, hu⟩ := fits_star_iff.1 h
    obtain ⟨u', rfl, hu'⟩ := (fits_literal_append_iff hl).1 hu
    have hlen' := congrArg List.length ht
    simp only [List.append_nil, List.length_tail, List.length_append] at hlen'
    have : u' = [] := List.eq_nil_of_length_eq_zero (by omega)
    exact this ▸ hu'

theorem fits_of_later_star {back : Option (List UInt8 × List UInt8)} {ps : List UInt8}
    {c : UInt8} {vs : List UInt8} (ha : Aligned back (star :: ps)) (h : Later back (c :: vs)) :
    Fits star (star :: ps) vs := by
  cases back with
  | none => exact h.elim
  | some b =>
    obtain ⟨q, pre⟩ := b
    obtain ⟨l, rfl, hlen, hl⟩ := ha
    obtain ⟨t, u, ht, hu⟩ := fits_star_iff.1 h
    obtain ⟨u', rfl, hu'⟩ := (fits_literal_append_iff hl).1 hu
    have hlen' := congrArg List.length ht
    simp only [List.length_tail, List.length_append, List.length_cons] at hlen'
    have hsuf : u' <:+ (pre ++ c :: vs).tail := ⟨t ++ l, by rw [ht, List.append_assoc]⟩
    have hvs : vs <:+ (pre ++ c :: vs).tail := by
      cases pre with
      | nil => exact List.suffix_refl vs
      | cons x pre => exact ⟨pre ++ [c], by simp⟩
    obtain ⟨t', rfl⟩ := List.suffix_of_suffix_length_le hsuf hvs (by omega)
    exact fits_star_append hu' t'

theorem not_fits_cons {d c : UInt8} {ps vs : List UInt8} (hd : d ≠ star) (hc : d ≠ c) :
    ¬ Fits star (d :: ps) (c :: vs) := by
  rw [fits_lit_iff hd]
  rintro ⟨_, h, _⟩
  exact hc (List.cons.inj h).1.symm

theorem scan_mismatch {pat vs : List UInt8} {c : UInt8}
    {back : Option (List UInt8 × List UInt8)}
    (hs : pat.head? ≠ some star) (hd : pat.head? ≠ some c) :
    scan pat (c :: vs) back =
      match restart back c vs with
      | some (q, rest) => scan q rest (some (q, []))
      | none => false := by
  cases pat with
  | nil =>
    rw [scan]
    split <;> rename_i h <;> simp only [h]
  | cons d ps =>
    have hs : d ≠ star := by simpa using hs
    have hd : d ≠ c := by simpa using hd
    rw [scan, if_neg (by simpa using hs), if_neg (by simpa using hd)]
    split <;> rename_i h <;> simp only [h]

theorem scan_iff {pat val : List UInt8} {back : Option (List UInt8 × List UInt8)}
    (ha : Aligned back pat) : scan pat val back = true ↔ Fits star pat val ∨ Later back val := by
  induction pat, val, back using scan.induct with
  | case1 pat back =>
    rw [scan, List.all_eq_true, fits_nil_right_iff]
    simp only [beq_iff_eq]
    exact ⟨.inl, fun h => h.elim id fun h => fits_nil_right_iff.1 (fits_of_later_nil ha h)⟩
  | case2 back c vs d ps hd ih =>
    rw [scan, if_pos hd, ih (aligned_restart ps)]
    obtain rfl : d = star := beq_iff_eq.1 hd
    rw [fits_star_cons_iff]
    constructor
    · rintro (h | h)
      · exact .inl (.inl h)
      · exact .inl (.inr h)
    · rintro ((h | h) | h)
      · exact .inl h
      · exact .inr h
      · exact .inr (fits_of_later_star ha h)
  | case3 back c vs d ps hd hc ih =>
    rw [scan, if_neg hd, if_pos hc]
    have hd : d ≠ star := fun h => hd (beq_iff_eq.2 h)
    obtain rfl : d = c := beq_iff_eq.1 hc
    rw [ih (aligned_read hd ha), later_read, fits_lit_iff hd]
    simp
  | case4 back c vs d ps hd hc q rest hr ih =>
    -- a mismatch: only what the latest star allows is left
    rw [scan_mismatch (by simpa using hd) (by simpa using hc), hr]
    dsimp only
    rw [ih (aligned_restart _), later_restart hr, fits_star_iff_tail]
    simp [Later, not_fits_cons (fun h => hd (beq_iff_eq.2 h)) (fun h => hc (beq_iff_eq.2 h))]
  | case5 back c vs d ps hd hc hr =>
    rw [scan_mismatch (by simpa using hd) (by simpa using hc), hr]
    simp [later_of_restart_none hr,
      not_fits_cons (fun h => hd (beq_iff_eq.2 h)) (fun h => hc (beq_iff_eq.2 h))]
  | case6 back c vs q rest hr ih =>
    -- the pattern is used up with bytes left: likewise
    rw [scan_mismatch (by simp) (by simp), hr]
    dsimp only
    rw [ih (aligned_restart _), later_restart hr, fits_star_iff_tail]
    simp [Later, fits_nil_iff]
  | case7 back c vs hr =>
    rw [scan_mismatch (by simp) (by simp), hr]
    simp [later_of_restart_none hr, fits_nil_iff]

end ProviderRouting.Glob
