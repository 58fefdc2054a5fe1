/-!
# Code point ranges

A character class of the Unicode standard is kept as a list of ranges of code points, both ends
included, sorted and disjoint. `inRanges` looks a code point up in such a list; it stops at the
first range that starts above the code point, so a sorted table is read only up to the place the
code point would go.

`inRanges_sound` says a code point found lies in one of the ranges.
-/

namespace ProviderRouting.Text

def inRanges (n : Nat) : List (Nat × Nat) → Bool
  | [] => false
  | (lo, hi) :: rest => if n < lo then false else n ≤ hi || inRanges n rest

theorem inRanges_sound (n : Nat) :
    ∀ rs : List (Nat × Nat), inRanges n rs = true → ∃ r ∈ rs, r.1 ≤ n ∧ n ≤ r.2
  | [], h => by simp [inRanges] at h
  | (lo, hi) :: rest, h => by
    simp only [inRanges] at h
    by_cases hlo : n < lo
    · simp [hlo] at h
    · simp only [hlo, if_false, Bool.or_eq_true, decide_eq_true_eq] at h
      rcases h with h | h
      · exact ⟨(lo, hi), List.mem_cons_self, Nat.le_of_not_lt hlo, h⟩
      · obtain ⟨r, hr, hr'⟩ := inRanges_sound n rest h
        exact ⟨r, List.mem_cons_of_mem _ hr, hr'⟩

end ProviderRouting.Text
