import ProviderRouting.Time.Instant

/-!
# Times written in RFC 3339 read back

`Instant.rfc3339` writes an instant as `YYYY-MM-DDTHH:MM:SS[.fff]Z`, a leap second as second
60, and `Instant.parse` reads such texts. For every instant a date and time value can hold
whose year is between 0 and 9999, reading what is written gives the instant back
(`parse_rfc3339`).

Three facts carry it. Every field is written by `padded`, and `numberField` reads those digits
back and stops at the next separator (`numberField_padded`); a fraction, when one is written,
is read back by `fractionField` (`fractionField_fractionText`). The date is the civil date of
the day count: `civilOfDays_spec` shows it is a real date, month and day in range, which
`daysOfCivil` sends back to the same day.
-/

namespace ProviderRouting.Time

open ProviderRouting.Text

def Instant.Holdable (t : Instant) : Prop :=
  t.nanos < 2000000000 ∧ (1000000000 ≤ t.nanos → t.secs % 60 = 59)

def Instant.year (t : Instant) : Int := (civilOfDays (t.secs / 86400)).1

/-! ## Digit fields -/

theorem padded_toList (w n : Nat) :
    (padded w n).toList = List.replicate (w - (Nat.toDigits 10 n).length) '0' ++ Nat.toDigits 10 n := by
  simp [padded, String.toList_append, Nat.repr_eq_ofList_toDigits]

theorem isDigit_of_mem_padded {w n : Nat} {c : Char} (h : c ∈ (padded w n).toList) : c.isDigit := by
  rw [padded_toList, List.mem_append, List.mem_replicate] at h
  rcases h with ⟨-, rfl⟩ | h
  · rfl
  · exact Nat.isDigit_of_mem_toDigits (by decide) (by decide) h

theorem length_padded {w n : Nat} (hw : 0 < w) (hn : n < Nat.pow 10 w) :
    (padded w n).toList.length = w := by
  have : (Nat.toDigits 10 n).length ≤ w := (Nat.length_toDigits_le_iff (by decide) hw).2 hn
  rw [padded_toList, List.length_append, List.length_replicate]
  omega

theorem ofDigitChars_padded (w n : Nat) : Nat.ofDigitChars 10 (padded w n).toList 0 = n := by
  rw [padded_toList, Nat.ofDigitChars_append, Nat.ofDigitChars_replicate_zero, Nat.mul_zero,
    Nat.ofDigitChars_ten_toDigits]

theorem le_ofDigitChars (l : List Char) (n : Nat) : n ≤ Nat.ofDigitChars 10 l n := by
  rw [Nat.ofDigitChars_eq_ofDigitChars_zero]
  have : 1 ≤ 10 ^ l.length := Nat.one_le_pow _ _ (by decide)
  have := Nat.le_mul_of_pos_left n this
  omega

theorem digitsIn_go_digits (lo : Nat) :
    ∀ (ds rest : List Char) (k i n : Nat), (∀ c ∈ ds, c.isDigit) → ds.length ≤ k →
      (ds.length = k ∨ ∀ c ∈ rest.head?, c.isDigit = false) → lo ≤ i + ds.length →
      Nat.ofDigitChars 10 ds n < Nat.pow 2 63 →
      digitsIn.go lo k (ds ++ rest) i n = .ok (Nat.ofDigitChars 10 ds n, rest)
  | [], rest, 0, i, n, _, _, _, _, _ => by simp [digitsIn.go]
  | [], [], k + 1, i, n, _, _, _, _, _ => by simp [digitsIn.go]
  | [], c :: rest, k + 1, i, n, _, _, hstop, hlo, _ => by
    have hc : c.isDigit = false := by
      rcases hstop with h | h
      · simp at h
      · exact h c rfl
    have : ¬ i < lo := by simp at hlo; omega
    simp [digitsIn.go, hc, this]
  | d :: ds, rest, 0, i, n, _, hlen, _, _, _ => by simp at hlen
  | d :: ds, rest, k + 1, i, n, hdig, hlen, hstop, hlo, hval => by
    have hd : d.isDigit = true := hdig d List.mem_cons_self
    rw [Nat.ofDigitChars_cons] at hval ⊢
    have hstep : n * 10 + (d.toNat - 48) = 10 * n + (d.toNat - '0'.toNat) := by
      rw [Nat.mul_comm]; rfl
    -- the running value only grows, so it is below the bound at every digit
    have hsmall : ¬ n * 10 + (d.toNat - 48) ≥ Nat.pow 2 63 := by
      have := le_ofDigitChars ds (10 * n + (d.toNat - '0'.toNat))
      omega
    simp only [List.cons_append, digitsIn.go, hd, if_true, hsmall, if_false]
    rw [hstep]
    exact digitsIn_go_digits lo ds rest k (i + 1) _ (fun c hc => hdig c (List.mem_cons_of_mem _ hc))
      (by simp at hlen; omega) (by simpa using hstop) (by simp at hlo; omega) hval

theorem isBlank_of_isDigit {c : Char} (h : c.isDigit = true) : isBlank c = false := by
  simp only [Char.isDigit, Bool.and_eq_true, decide_eq_true_eq] at h
  have h1 : 48 ≤ c.toNat := h.1
  have h2 : c.toNat ≤ 57 := h.2
  simp only [isBlank, Bool.or_eq_false_iff, Bool.and_eq_false_iff, decide_eq_false_iff_not,
    beq_eq_false_iff_ne, ne_eq]
  omega

theorem trimBlankStartList_cons {c : Char} (h : isBlank c = false) (rest : List Char) :
    trimBlankStartList (c :: rest) = c :: rest := by
  simp [trimBlankStartList, h]

theorem numberField_of_isDigit {d : Char} (hd : d.isDigit = true) (w : Nat) (signed : Bool)
    (tl : List Char) : numberField w signed (d :: tl) = digitsIn 1 w (d :: tl) := by
  have hne1 : d ≠ '-' := by rintro rfl; simp at hd
  have hne2 : d ≠ '+' := by rintro rfl; simp at hd
  simp only [numberField, trimBlankStartList_cons (isBlank_of_isDigit hd)]
  split
  · rename_i h; exact absurd (List.cons.inj h).1 hne1
  · rename_i h; exact absurd (List.cons.inj h).1 hne2
  · rfl

theorem numberField_padded {w n : Nat} (signed : Bool) (hw : 0 < w) (hw18 : w ≤ 18)
    (hn : n < Nat.pow 10 w) (rest : List Char) :
    numberField w signed ((padded w n).toList ++ rest) = .ok (n, rest) := by
  have hlen := length_padded hw hn
  have hval : Nat.ofDigitChars 10 (padded w n).toList 0 < Nat.pow 2 63 := by
    rw [ofDigitChars_padded]
    have : Nat.pow 10 w ≤ Nat.pow 10 18 := Nat.pow_le_pow_right (by decide) hw18
    have : Nat.pow 10 18 < Nat.pow 2 63 := by decide
    omega
  have hgo := digitsIn_go_digits 1 _ rest w 0 0 (fun c hc => isDigit_of_mem_padded hc) (by omega)
    (.inl hlen) (by omega) hval
  rw [ofDigitChars_padded] at hgo
  obtain ⟨d, ds, hds⟩ := List.exists_cons_of_length_pos (by omega : 0 < (padded w n).toList.length)
  have hd : d.isDigit = true := isDigit_of_mem_padded (hds ▸ List.mem_cons_self)
  rw [hds, List.cons_append, numberField_of_isDigit hd, ← List.cons_append, ← hds]
  simp only [digitsIn, List.length_append, hlen]
  rw [if_neg (by omega), hgo]

theorem numberField_two {n : Nat} (hn : n < 100) (rest : List Char) :
    numberField 2 false ((padded 2 n).toList ++ rest) = .ok (n, rest) :=
  numberField_padded false (by decide) (by decide) hn rest

theorem literal_cons (c : Char) (rest : List Char) : literal c (c :: rest) = .ok rest := by
  simp [literal]

theorem inRange_natCast {lo hi : Int} {n : Nat} (h : lo ≤ n ∧ (n : Int) ≤ hi) :
    inRange lo hi n = .ok n := by
  simp [inRange, h]

theorem offsetField_zulu (rest : List Char) : offsetField ('Z' :: rest) = .ok (0, rest) := by
  simp [offsetField]

/-! ## The fraction -/

theorem fractionField_padded {k v : Nat} (hk : 0 < k) (hk9 : k ≤ 9) (hv : v < Nat.pow 10 k)
    (rest : List Char) :
    fractionField ((padded k v).toList ++ 'Z' :: rest) = .ok (v * Nat.pow 10 (9 - k), 'Z' :: rest) := by
  have hlen := length_padded hk hv
  have hval : Nat.ofDigitChars 10 (padded k v).toList 0 < Nat.pow 2 63 := by
    rw [ofDigitChars_padded]
    have : Nat.pow 10 k ≤ Nat.pow 10 9 := Nat.pow_le_pow_right (by decide) hk9
    have : Nat.pow 10 9 < Nat.pow 2 63 := by decide
    omega
  have hgo := digitsIn_go_digits 1 _ ('Z' :: rest) 9 0 0 (fun c hc => isDigit_of_mem_padded hc)
    (by omega) (.inr (by simp)) (by omega) hval
  rw [ofDigitChars_padded] at hgo
  simp only [fractionField, digitsIn, List.length_append, hlen, List.length_cons]
  rw [if_neg (by omega), hgo]
  simp

theorem fractionText_cases {f : Nat} (hf : f < 1000000000) :
    (fractionText f = "" ∧ f = 0) ∨
      ∃ k v, 0 < k ∧ k ≤ 9 ∧ v < Nat.pow 10 k ∧ f = v * Nat.pow 10 (9 - k) ∧
        fractionText f = "." ++ padded k v := by
  unfold fractionText
  by_cases h0 : f = 0
  · exact .inl ⟨if_pos h0, h0⟩
  · rw [if_neg h0]
    right
    by_cases h6 : f % 1000000 = 0
    · exact ⟨3, f / 1000000, by decide, by decide, show f / 1000000 < 1000 by omega,
        show f = f / 1000000 * 1000000 by omega, if_pos h6⟩
    · rw [if_neg h6]
      by_cases h3 : f % 1000 = 0
      · exact ⟨6, f / 1000, by decide, by decide, show f / 1000 < 1000000 by omega,
          show f = f / 1000 * 1000 by omega, if_pos h3⟩
      · exact ⟨9, f, by decide, by decide, hf, show f = f * 1 by omega, if_neg h3⟩

theorem fractionField_fractionText {f : Nat} (hf : f < 1000000000) (h0 : f ≠ 0) (rest : List Char) :
    ∃ l, (fractionText f).toList = '.' :: l ∧ fractionField (l ++ 'Z' :: rest) = .ok (f, 'Z' :: rest) := by
  rcases fractionText_cases hf with ⟨-, h⟩ | ⟨k, v, hk, hk9, hv, hfv, hft⟩
  · exact absurd h h0
  · refine ⟨(padded k v).toList, by rw [hft, String.toList_append]; rfl, ?_⟩
    rw [fractionField_padded hk hk9 hv, ← hfv]

theorem leap_fold {n f r : Nat} (hf : n % 1000000000 = f) (hn : n < 2000000000)
    (hleap : 1000000000 ≤ n → r % 60 = 59) :
    (if r % 60 + (if n ≥ 1000000000 then 1 else 0) = 60 then (59, f + 1000000000)
      else (r % 60 + (if n ≥ 1000000000 then 1 else 0), f)) = (r % 60, n) := by
  by_cases h : n ≥ 1000000000
  · have := hleap h
    rw [if_pos h, if_pos (by omega)]
    simp only [Prod.mk.injEq]
    omega
  · rw [if_neg h, Nat.add_zero, if_neg (by omega)]
    simp only [Prod.mk.injEq, true_and]
    omega

/-! ## The calendar

`civilOfDays` splits a day count into 400-year eras of 146097 days. Inside an era, the day
`A` is `36524 c + 1461 t + u`: `c` whole centuries, `t` whole four-year cycles and `u` days
into the cycle. The year of the era and the day of that year follow from this split, and the
month from the day of a year that starts in March.
-/

theorem era_split (A : Int) (h0 : 0 ≤ A) (h1 : A < 146097) :
    ∃ c t u, A = 36524 * c + 1461 * t + u ∧ 0 ≤ c ∧ c ≤ 3 ∧ 0 ≤ t ∧ t ≤ 24 ∧ 0 ≤ u ∧ u ≤ 1460 ∧
      (t = 24 → u = 1460 → c = 3) ∧ A / 36524 - A / 146096 = c := by
  refine ⟨A / 36524 - A / 146096, (A - 36524 * (A / 36524 - A / 146096)) / 1461,
    (A - 36524 * (A / 36524 - A / 146096)) % 1461, ?_⟩
  omega

theorem scaled_eq {A c t u : Int} (hA : A = 36524 * c + 1461 * t + u)
    (hg : A / 36524 - A / 146096 = c) :
    A - A / 1460 + A / 36524 - A / 146096 = 36500 * c + 1460 * t + u - (24 * c + t + u) / 1460 := by
  have hd : A / 1460 = 25 * c + t + (24 * c + t + u) / 1460 := by omega
  omega

theorem year_of_era {c t u : Int} (hc : 0 ≤ c ∧ c ≤ 3) (ht : 0 ≤ t ∧ t ≤ 24)
    (hu : 0 ≤ u ∧ u ≤ 1460) (hlast : t = 24 → u = 1460 → c = 3) (yoe : Int)
    (hyoe : yoe = (36500 * c + 1460 * t + u - (24 * c + t + u) / 1460) / 365) :
    let doy := 36524 * c + 1461 * t + u - (365 * yoe + yoe / 4 - yoe / 100)
    0 ≤ yoe ∧ yoe ≤ 399 ∧ 0 ≤ doy ∧ doy ≤ 365 ∧
      (doy = 365 → (yoe + 1) % 4 = 0 ∧ ((yoe + 1) % 100 ≠ 0 ∨ (yoe + 1) % 400 = 0)) := by
  intro doy
  obtain ⟨δ, hδ, hδ01⟩ : ∃ δ, (24 * c + t + u) / 1460 = δ ∧ (δ = 0 ∨ δ = 1) := ⟨_, rfl, by omega⟩
  obtain ⟨k, hk, hk0, hk3⟩ : ∃ k, (u - δ) / 365 = k ∧ 0 ≤ k ∧ k ≤ 3 := ⟨_, rfl, by omega⟩
  have hy : yoe = 100 * c + 4 * t + k := by omega
  have hdoy : doy = u - 365 * k := by
    have h4 : yoe / 4 = 25 * c + t := by omega
    have h100 : yoe / 100 = c := by omega
    omega
  refine ⟨by omega, by omega, by omega, by omega, fun h365 => ?_⟩
  have hlastDay : k = 3 ∧ u = 1460 := by omega
  omega

theorem month_of_day (doy : Int) (h0 : 0 ≤ doy) (h1 : doy ≤ 365) :
    let mp := (5 * doy + 2) / 153
    let m := if mp < 10 then mp + 3 else mp - 9
    let dd := doy - (153 * mp + 2) / 5 + 1
    1 ≤ m ∧ m ≤ 12 ∧ 1 ≤ dd ∧ dd ≤ 31 ∧ (m = 4 ∨ m = 6 ∨ m = 9 ∨ m = 11 → dd ≤ 30) ∧
      (m = 2 → dd ≤ 28 ∨ doy = 365) ∧
      (153 * (if m > 2 then m - 3 else m + 9) + 2) / 5 + dd - 1 = doy := by
  intro mp m dd
  have hmp : 0 ≤ mp ∧ mp ≤ 11 := by omega
  by_cases h : mp < 10
  · have hm : m = mp + 3 := if_pos h
    have hback : (if m > 2 then m - 3 else m + 9) = mp := by rw [if_pos (by omega)]; omega
    rw [hback]
    omega
  · have hm : m = mp - 9 := if_neg h
    have hback : (if m > 2 then m - 3 else m + 9) = mp := by rw [if_neg (by omega)]; omega
    rw [hback]
    omega

theorem leapYear_iff (y : Int) : leapYear y = true ↔ y % 4 = 0 ∧ (y % 100 ≠ 0 ∨ y % 400 = 0) := by
  simp [leapYear]

theorem monthDays_le (y : Int) (m : Nat) : monthDays y m ≤ 31 := by
  unfold monthDays
  split
  · split <;> omega
  · split <;> omega

theorem civilOfDays_spec {z y : Int} {m d : Nat} (h : civilOfDays z = (y, m, d)) :
    1 ≤ m ∧ m ≤ 12 ∧ 1 ≤ d ∧ d ≤ monthDays y m ∧ daysOfCivil y m d = z := by
  simp only [civilOfDays, Prod.mk.injEq] at h
  obtain ⟨hy, hm, hd⟩ := h
  generalize hera : (z + 719468) / 146097 = era at hy hm hd
  generalize hA : z + 719468 - era * 146097 = A at hy hm hd
  have hA0 : 0 ≤ A ∧ A < 146097 := by omega
  clear hera
  obtain ⟨c, t, u, hsplit, hc0, hc3, ht0, ht24, hu0, hu1460, hlast, hg⟩ := era_split A hA0.1 hA0.2
  rw [scaled_eq hsplit hg] at hy hm hd
  generalize hyoe : (36500 * c + 1460 * t + u - (24 * c + t + u) / 1460) / 365 = yoe at hy hm hd
  obtain ⟨hyoe0, hyoe399, hdoy0, hdoy365, hleap⟩ :=
    year_of_era ⟨hc0, hc3⟩ ⟨ht0, ht24⟩ ⟨hu0, hu1460⟩ hlast yoe hyoe.symm
  rw [← hsplit] at hdoy0 hdoy365 hleap
  -- the split has served; omega is slow with its divisions still in sight
  clear hyoe hg hlast hsplit hc0 hc3 ht0 ht24 hu0 hu1460 hA0
  generalize hdoy : A - (365 * yoe + yoe / 4 - yoe / 100) = doy at hy hm hd hdoy0 hdoy365 hleap
  obtain ⟨hm1, hm12, hd1, hd31, hd30, hfeb, hback⟩ := month_of_day doy hdoy0 hdoy365
  generalize (if (5 * doy + 2) / 153 < 10 then (5 * doy + 2) / 153 + 3
    else (5 * doy + 2) / 153 - 9) = mi at hy hm hd hm1 hm12 hd1 hd31 hd30 hfeb hback
  generalize doy - (153 * ((5 * doy + 2) / 153) + 2) / 5 + 1 = di at hd hd1 hd31 hd30 hfeb hback
  subst hm hd
  refine ⟨by omega, by omega, by omega, ?_, ?_⟩
  · unfold monthDays
    by_cases h2 : mi.toNat = 2
    · -- February: the 29th only in a leap year, and the year counts from March
      rw [if_pos h2]
      have hy' : y = yoe + era * 400 + 1 := by rw [← hy, if_pos (by omega)]
      split
      · omega
      · rename_i hnl
        rw [leapYear_iff] at hnl
        rcases hfeb (by omega) with h | h
        · omega
        · have := hleap h
          omega
    · rw [if_neg h2]
      split <;> omega
  · unfold daysOfCivil
    have hy' : (if mi.toNat ≤ 2 then y - 1 else y) = yoe + era * 400 := by
      rw [← hy]; split <;> split <;> omega
    have hmp : (if mi.toNat > 2 then ((mi.toNat : Nat) : Int) - 3 else ((mi.toNat : Nat) : Int) + 9) =
        (if mi > 2 then mi - 3 else mi + 9) := by
      split <;> split <;> omega
    simp only [hy', hmp]
    have hera' : (yoe + era * 400) / 400 = era := by omega
    rw [hera']
    have hdoe : (yoe + era * 400 - era * 400) = yoe := by omega
    rw [hdoe]
    omega

theorem daysOfCivil_bounds {y : Int} {m d : Nat} (hy : 0 ≤ y ∧ y ≤ 9999) (hm : 1 ≤ m ∧ m ≤ 12)
    (hd : d ≤ 31) : -800000 ≤ daysOfCivil y m d ∧ daysOfCivil y m d ≤ 3000000 := by
  unfold daysOfCivil
  simp only
  split <;> split <;> omega

/-! ## Reading a written instant -/

theorem rfc3339_toList (t : Instant) {y : Int} {m d : Nat}
    (hc : civilOfDays (t.secs / 86400) = (y, m, d)) :
    t.rfc3339.toList = (yearText y).toList ++ '-' :: ((padded 2 m).toList ++ '-' ::
      ((padded 2 d).toList ++ 'T' ::
      ((padded 2 ((t.secs - t.secs / 86400 * 86400).toNat / 3600)).toList ++ ':' ::
      ((padded 2 ((t.secs - t.secs / 86400 * 86400).toNat / 60 % 60)).toList ++ ':' ::
      ((padded 2 ((t.secs - t.secs / 86400 * 86400).toNat % 60 +
          (if t.nanos ≥ 1000000000 then 1 else 0))).toList ++
      ((fractionText (t.nanos % 1000000000)).toList ++ ['Z'])))))) := by
  simp [Instant.rfc3339, hc, String.toList_append]

theorem parse_rfc3339 (t : Instant) (ht : t.Holdable) (hy : 0 ≤ t.year ∧ t.year ≤ 9999) :
    Instant.parse t.rfc3339 = .ok t := by
  obtain ⟨y, m, d, hc⟩ : ∃ y m d, civilOfDays (t.secs / 86400) = (y, m, d) := ⟨_, _, _, rfl⟩
  have hyy : t.year = y := by simp [Instant.year, hc]
  rw [hyy] at hy
  obtain ⟨hm1, hm12, hd1, hdm, hdays⟩ := civilOfDays_spec hc
  have hd31 := Nat.le_trans hdm (monthDays_le y m)
  have hyt : yearText y = padded 4 y.toNat := if_pos hy
  have hyear : ((y.toNat : Nat) : Int) = y := Int.toNat_of_nonneg hy.1
  have hy4 : y.toNat < Nat.pow 10 4 := by show y.toNat < 10000; omega
  have hy31 : ¬ (y < -((Nat.pow 2 31 : Nat) : Int) ∨ y ≥ ((Nat.pow 2 31 : Nat) : Int)) := by
    show ¬ (y < -2147483648 ∨ y ≥ 2147483648); omega
  generalize hrem : (t.secs - t.secs / 86400 * 86400).toNat = rem
  have hrem60 : rem < 86400 := by omega
  have hsec : rem % 60 + (if t.nanos ≥ 1000000000 then 1 else 0) ≤ 60 := by split <;> omega
  have hleap : 1000000000 ≤ t.nanos → rem % 60 = 59 := fun h => by have := ht.2 h; omega
  have hS : daysOfCivil y m d * 86400 + ((rem / 3600 : Nat) : Int) * 3600 +
      ((rem / 60 % 60 : Nat) : Int) * 60 + ((rem % 60 : Nat) : Int) - 0 = t.secs := by
    rw [hdays]; omega
  have hb : ¬ (t.secs < earliestSecs ∨ t.secs > latestSecs) := by
    have := daysOfCivil_bounds hy ⟨hm1, hm12⟩ hd31
    have : earliestSecs < -800000 * 86400 := by decide
    have : latestSecs > 3000001 * 86400 := by decide
    omega
  have hdm' : ¬ d > monthDays y m := by omega
  have hyr : ¬ (y < -262143 ∨ y > 262142) := by omega
  have hoff : ¬ (Int.natAbs 0 ≥ 86400) := by decide
  have htrim : trimBlankStartList [] = [] := rfl
  have hZ : ¬ ('Z' = '.') := by decide
  simp only [Instant.parse, rfc3339_toList t hc, hyt, hrem,
    numberField_padded true (by decide) (by decide) hy4, numberField_two (by omega : m < 100),
    numberField_two (by omega : d < 100), numberField_two (by omega : rem / 3600 < 100),
    numberField_two (by omega : rem / 60 % 60 < 100),
    numberField_two (by omega : rem % 60 + (if t.nanos ≥ 1000000000 then 1 else 0) < 100),
    trimBlankStartList_cons (show isBlank '-' = false by decide),
    trimBlankStartList_cons (show isBlank ':' = false by decide), literal_cons, hyear, hy31, if_false,
    inRange_natCast (show (1 : Int) ≤ m ∧ (m : Int) ≤ 12 by omega),
    inRange_natCast (show (1 : Int) ≤ d ∧ (d : Int) ≤ 31 by omega),
    inRange_natCast (show (0 : Int) ≤ ((rem / 3600 : Nat) : Int) ∧ ((rem / 3600 : Nat) : Int) ≤ 23 by omega),
    inRange_natCast (show (0 : Int) ≤ ((rem / 60 % 60 : Nat) : Int) ∧ ((rem / 60 % 60 : Nat) : Int) ≤ 59 by omega),
    inRange_natCast ⟨Int.natCast_nonneg _,
      (by omega : ((rem % 60 + (if t.nanos ≥ 1000000000 then 1 else 0) : Nat) : Int) ≤ 60)⟩, hdm', hyr, hoff,
    true_or, if_true, bind, Except.bind, pure, Except.pure]
  -- what is left reads the fraction, if one was written, and the zone
  by_cases h0 : t.nanos % 1000000000 = 0
  · have hft : fractionText (t.nanos % 1000000000) = "" := by simp [fractionText, h0]
    simp only [hft, String.toList_empty, List.nil_append, List.cons.injEq, hZ, false_and, false_implies,
      implies_true, trimBlankStartList_cons (show isBlank 'Z' = false by decide), offsetField_zulu, htrim,
      List.isEmpty_nil, Bool.not_true, Bool.false_eq_true, if_false, hoff, leap_fold h0 ht.1 hleap, hS, hb]
  · obtain ⟨l, hl, hfield⟩ := fractionField_fractionText (by omega) h0 []
    simp only [hl, List.cons_append, hfield, trimBlankStartList_cons (show isBlank 'Z' = false by decide),
      offsetField_zulu, htrim, List.isEmpty_nil, Bool.not_true, Bool.false_eq_true, if_false, hoff,
      leap_fold rfl ht.1 hleap, hS, hb]

end ProviderRouting.Time
