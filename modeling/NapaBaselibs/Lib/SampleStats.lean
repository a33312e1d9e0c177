import Mathlib.Algebra.BigOperators.Group.List.Basic
import Mathlib.Algebra.Field.Basic
import Mathlib.Algebra.CharZero.Defs
import Mathlib.Data.Nat.Cast.Field
import Mathlib.Order.Defs.LinearOrder
import Mathlib.Order.Lattice
import Mathlib.Tactic.Ring
import Mathlib.Tactic.FieldSimp

/-
  Statistics of a sample, and how one more element changes
  them.

  The mean follows from the mean before and the count.  The
  squared deviations from the new mean follow from the ones
  before and the distance of the new element from the new
  mean, which is the recurrence of the variance.

  Key definitions include:
    * `SampleStats.mean`, `SampleStats.squares`
    * `SampleStats.variance`

  Key theorems include:
    * `SampleStats.mean_concat`
    * `SampleStats.variance_concat`
    * `SampleStats.foldl_isLeast`,
      `SampleStats.foldl_isGreatest`
-/

------------------------------------------------------------
-- Mean And Variance
------------------------------------------------------------

namespace SampleStats

section Field

variable {K : Type}
variable [Field K]

/- The arithmetic mean. -/
def mean (xs : List K) : K :=
  xs.sum / xs.length

/- The sum of the squared distances from a value. -/
def squares
    (xs : List K)
    (c : K) : K :=
  (xs.map (fun x => (x - c) ^ 2)).sum

/- The unbiased variance of the elements. -/
def variance (xs : List K) : K :=
  squares xs (mean xs) / (xs.length - 1)

theorem squares_concat
    (xs : List K)
    (x c : K) :
    squares (xs ++ [x]) c = squares xs c + (x - c) ^ 2 := by
  simp [squares]

/- The squares from a value, by the two sums. -/
theorem squares_eq
    (xs : List K)
    (c : K) :
    squares xs c =
      squares xs 0 - 2 * c * xs.sum + xs.length * c ^ 2 := by
  induction xs with
  | nil => simp [squares]
  | cons x xs ih =>
      have hCons :
          ∀ d : K,
            squares (x :: xs) d =
              (x - d) ^ 2 + squares xs d := by
        intro d
        simp [squares]
      rw [hCons, hCons, ih]
      push_cast [List.length_cons, List.sum_cons]
      ring

/- One element has no squares from its mean. -/
theorem variance_singleton
    (x : K) :
    variance [x] = 0 := by
  simp [variance, squares, mean]

/- The order of the elements does not matter. -/
theorem squares_reverse
    (xs : List K)
    (c : K) :
    squares xs.reverse c = squares xs c := by
  simp only [squares, List.map_reverse, List.sum_reverse]

variable [CharZero K]

/- The mean with one more element. -/
theorem mean_concat
    (xs : List K)
    (x : K) :
    mean (xs ++ [x]) =
      (xs.length * mean xs + x) / (xs.length + 1) := by
  have hSum : xs.length * mean xs = xs.sum := by
    cases xs with
    | nil => simp
    | cons y ys =>
        have hLength : ((y :: ys).length : K) ≠ 0 :=
          Nat.cast_ne_zero.mpr (Nat.succ_ne_zero _)
        exact mul_div_cancel₀ _ hLength
  rw [hSum]
  simp [mean]

/-
  The squares from the mean with one more element, by its
  distance from the new mean.
-/
theorem squares_mean_concat
    (xs : List K)
    (x : K)
    (hSome : xs ≠ []) :
    squares (xs ++ [x]) (mean (xs ++ [x])) =
      squares xs (mean xs) +
        (xs.length + 1) / xs.length *
          (x - mean (xs ++ [x])) ^ 2 := by
  have hLength : (xs.length : K) ≠ 0 :=
    Nat.cast_ne_zero.mpr
      (by simpa [List.length_eq_zero_iff] using hSome)
  have hNext : (xs.length : K) + 1 ≠ 0 := by
    exact_mod_cast Nat.succ_ne_zero xs.length
  have hSum : xs.sum = xs.length * mean xs :=
    (mul_div_cancel₀ _ hLength).symm
  rw [squares_concat, squares_eq xs (mean (xs ++ [x])),
    squares_eq xs (mean xs), mean_concat, hSum]
  field_simp
  ring

/-
  The variance with one more element: the recurrence over
  the count `n` after it.
-/
theorem variance_concat
    (xs : List K)
    (x : K)
    (hSome : xs ≠ []) :
    variance (xs ++ [x]) =
      variance xs * (xs.length - 1) / xs.length +
        (xs.length + 1) / xs.length ^ 2 *
          (x - mean (xs ++ [x])) ^ 2 := by
  have hLength : (xs.length : K) ≠ 0 :=
    Nat.cast_ne_zero.mpr
      (by simpa [List.length_eq_zero_iff] using hSome)
  have hBefore :
      variance xs * (xs.length - 1) =
        squares xs (mean xs) := by
    by_cases hOne : (xs.length : K) - 1 = 0
    · have hLengthOne : xs.length = 1 := by
        have hCast : (xs.length : K) = (1 : Nat) := by
          rw [Nat.cast_one]
          exact sub_eq_zero.mp hOne
        exact Nat.cast_injective hCast
      rcases List.length_eq_one_iff.mp hLengthOne with ⟨y, rfl⟩
      simp [squares, mean]
    · exact div_mul_cancel₀ _ hOne
  rw [hBefore, variance, squares_mean_concat xs x hSome]
  simp only [List.length_append, List.length_singleton,
    Nat.cast_add, Nat.cast_one, add_sub_cancel_right]
  field_simp

end Field

------------------------------------------------------------
-- The Least And The Greatest
------------------------------------------------------------

section Order

variable {α : Type}
variable [LinearOrder α]

/- A scan keeps the least of what it starts from and sees. -/
theorem foldl_isLeast
    (xs : List α)
    (start : α) :
    IsLeast {x | x ∈ start :: xs}
      (xs.foldl
        (fun least x => if x < least then x else least)
        start) := by
  induction xs generalizing start with
  | nil => simp [IsLeast, lowerBounds]
  | cons y ys ih =>
      rcases ih (if y < start then y else start) with
        ⟨hIn, hLower⟩
      have hStart :
          (if y < start then y else start) = min start y := by
        grind
      rw [List.foldl_cons]
      rw [hStart] at hIn hLower ⊢
      have hFirst :=
        hLower (List.mem_cons_self (a := min start y))
      refine ⟨?_, ?_⟩
      · rcases List.mem_cons.mp hIn with hMin | hLater
        · simp only [Set.mem_ofPred_eq, List.mem_cons]
          rcases min_choice start y with hLeft | hRight
          · exact .inl (hMin.trans hLeft)
          · exact .inr (.inl (hMin.trans hRight))
        · exact List.mem_cons_of_mem _
            (List.mem_cons_of_mem _ hLater)
      · intro x hMem
        rcases List.mem_cons.mp hMem with rfl | hTail
        · exact hFirst.trans (min_le_left _ _)
        · rcases List.mem_cons.mp hTail with rfl | hLater
          · exact hFirst.trans (min_le_right _ _)
          · exact hLower (List.mem_cons_of_mem _ hLater)

/- A scan keeps the greatest of what it starts from and sees. -/
theorem foldl_isGreatest
    (xs : List α)
    (start : α) :
    IsGreatest {x | x ∈ start :: xs}
      (xs.foldl
        (fun greatest x =>
          if greatest < x then x else greatest)
        start) := by
  have hDual := @foldl_isLeast αᵒᵈ _ xs start
  exact hDual

end Order

end SampleStats
