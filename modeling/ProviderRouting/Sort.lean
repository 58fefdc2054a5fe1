/-!
# A stable sort that evaluates

Core's `List.mergeSort` recurses on the lengths of the halves it splits, by well-founded
recursion, so `decide` cannot run it on a concrete list. `stableSort` is the same merge sort
recursing on a fuel, the input's length, and `stableSort_eq` says it is the same function: the
service sorts with it, and every fact about `List.mergeSort` holds of it.
-/

namespace ProviderRouting

def mergeBy {α : Type} (le : α → α → Bool) (xs ys : List α) : List α :=
  match xs, ys with
  | [], ys => ys
  | xs, [] => xs
  | x :: xs, y :: ys =>
    if le x y then x :: mergeBy le xs (y :: ys) else y :: mergeBy le (x :: xs) ys
termination_by xs.length + ys.length

theorem mergeBy_eq {α : Type} (le : α → α → Bool) (xs ys : List α) :
    mergeBy le xs ys = xs.merge ys le := by
  induction xs generalizing ys with
  | nil => simp [mergeBy]
  | cons x xs ih =>
    induction ys with
    | nil => simp [mergeBy]
    | cons y ys ihy =>
      rw [mergeBy, List.cons_merge_cons]
      split <;> simp_all

def stableSort {α : Type} (xs : List α) (le : α → α → Bool) : List α := go le xs.length xs
where
  go (le : α → α → Bool) : Nat → List α → List α
    | 0, xs => xs
    | _ + 1, [] => []
    | _ + 1, [x] => [x]
    | fuel + 1, x :: y :: xs =>
      let all := x :: y :: xs
      let half := (all.length + 1) / 2
      mergeBy le (go le fuel (all.take half)) (go le fuel (all.drop half))

-- the fuel runs out only on the empty list, since each half is shorter than the list
private theorem stableSort_go_eq {α : Type} (le : α → α → Bool) (fuel : Nat) (xs : List α)
    (h : xs.length ≤ fuel) : stableSort.go le fuel xs = xs.mergeSort le := by
  induction fuel generalizing xs with
  | zero =>
    obtain rfl : xs = [] := List.eq_nil_of_length_eq_zero (Nat.le_zero.1 h)
    simp [stableSort.go]
  | succ fuel ih =>
    match xs with
    | [] => simp [stableSort.go]
    | [x] => simp [stableSort.go]
    | x :: y :: xs =>
      rw [stableSort.go, List.mergeSort]
      simp only [List.MergeSort.Internal.splitInTwo_fst, List.MergeSort.Internal.splitInTwo_snd]
      rw [ih _ (by simp only [List.length_take, List.length_cons] at *; omega),
        ih _ (by simp only [List.length_drop, List.length_cons] at *; omega), mergeBy_eq]

@[simp] theorem stableSort_eq {α : Type} (xs : List α) (le : α → α → Bool) :
    stableSort xs le = xs.mergeSort le :=
  stableSort_go_eq le xs.length xs (Nat.le_refl _)

example : stableSort [3, 1, 2, 1] (fun a b => decide (a ≤ b)) = [1, 1, 2, 3] := by decide +kernel

end ProviderRouting
