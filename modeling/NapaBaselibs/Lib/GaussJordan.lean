import Mathlib

/-
  The inversion of a matrix in the place where it stands.

  A system of equations `y = A x` is solved for one unknown
  after the other.  The column of an unknown that is solved
  for is not needed any more; it is used for the coefficients
  of the side that comes in for it.

  Key definitions include:
    * `GaussJordan.scaleRow`, `GaussJordan.clearRows`
    * `GaussJordan.Represents`

  Key theorems include:
    * `Represents.swapRows`, `Represents.exchange`
    * `Represents.mul_eq_one`
    * `Represents.not_invertible`
-/

------------------------------------------------------------
-- Steps
------------------------------------------------------------

namespace GaussJordan

variable {ι K : Type*} [DecidableEq ι] [Field K]

/- The row of the pivot, divided by the pivot. -/
def scaleRow
    (S : Matrix ι ι K)
    (p : ι) : Matrix ι ι K :=
  fun i j =>
    if i = p then (S p p)⁻¹ * (if j = p then 1 else S p j)
    else S i j

/- The row of the pivot is taken from the others. -/
def clearRows
    (S : Matrix ι ι K)
    (p : ι) : Matrix ι ι K :=
  fun i j =>
    if i = p then S p j
    else (if j = p then 0 else S i j) - S i p * S p j

/- Two rows, exchanged. -/
def swapRows
    (S : Matrix ι ι K)
    (r c : ι) : Matrix ι ι K :=
  fun i j => S (Equiv.swap r c i) j

------------------------------------------------------------
-- What the Place Holds
------------------------------------------------------------

variable [Fintype ι]
variable {A S : Matrix ι ι K}
variable {σ : Equiv.Perm ι}
variable {P : Finset ι}

/- Unknowns, and sides in the place of those solved for. -/
def side
    (A : Matrix ι ι K)
    (σ : Equiv.Perm ι)
    (P : Finset ι)
    (x : ι → K) : ι → K :=
  fun j => if j ∈ P then -(A.mulVec x (σ j)) else x j

/-
  The equations after some of the unknowns are solved for.
  The permutation tells which side a row belongs to.
-/
def Represents
    (A : Matrix ι ι K)
    (σ : Equiv.Perm ι)
    (P : Finset ι)
    (S : Matrix ι ι K) : Prop :=
  ∀ x i,
    ∑ j, S i j * side A σ P x j =
      if i ∈ P then -(x i) else A.mulVec x (σ i)

/- At first nothing is solved for. -/
theorem represents_self :
    Represents A 1 ∅ A := by
  intro x i
  simp [side, Matrix.mulVec, dotProduct]

/- Rows that are not solved for may be exchanged. -/
theorem Represents.swapRows
    (hRep : Represents A σ P S)
    {r c : ι}
    (hRow : r ∉ P)
    (hCol : c ∉ P) :
    Represents A (σ * Equiv.swap r c) P (swapRows S r c) := by
  have hFixed : ∀ j ∈ P, Equiv.swap r c j = j := by
    intro j hMem
    exact
      Equiv.swap_apply_of_ne_of_ne
        (fun h => hRow (h ▸ hMem)) (fun h => hCol (h ▸ hMem))
  have hOutside : ∀ i ∉ P, Equiv.swap r c i ∉ P := by
    intro i hNotMem hMem
    have hBack := hFixed _ hMem
    rw [Equiv.swap_apply_self] at hBack
    exact hNotMem (hBack ▸ hMem)
  have hSide :
      ∀ x, side A (σ * Equiv.swap r c) P x = side A σ P x := by
    intro x
    funext j
    rw [side, side]
    split_ifs with hMem
    · rw [Equiv.Perm.mul_apply, hFixed j hMem]
    · rfl
  intro x i
  have hEquation := hRep x (Equiv.swap r c i)
  rw [hSide]
  by_cases hMem : i ∈ P
  · rw [hFixed i hMem, if_pos hMem] at hEquation
    rw [if_pos hMem, ← hEquation]
    simp only [GaussJordan.swapRows, hFixed i hMem]
  · rw [if_neg (hOutside i hMem)] at hEquation
    rw [if_neg hMem]
    exact hEquation

/- The side for the unknown that is solved for comes in. -/
theorem side_insert
    {p : ι}
    (x : ι → K)
    {j : ι}
    (hOther : j ≠ p) :
    side A σ (insert p P) x j = side A σ P x j := by
  simp only [side, Finset.mem_insert, hOther, false_or]

/- A sum of which one term changes. -/
theorem sum_replace
    {f g : ι → K}
    {p : ι}
    (hSame : ∀ j, j ≠ p → g j = f j) :
    ∑ j, g j = ∑ j, f j - f p + g p := by
  rw [← Finset.add_sum_erase _ f (Finset.mem_univ p),
    ← Finset.add_sum_erase _ g (Finset.mem_univ p),
    Finset.sum_congr rfl
      fun j hMem => hSame j (Finset.ne_of_mem_erase hMem)]
  ring

/-
  An equation with a pivot is solved for its unknown, and the
  unknown replaced in the others.
-/
theorem Represents.exchange
    (hRep : Represents A σ P S)
    {p : ι}
    (hNew : p ∉ P)
    (hPivot : S p p ≠ 0) :
    Represents A σ (insert p P) (clearRows (scaleRow S p) p) := by
  intro x i
  have hSide : side A σ P x p = x p := if_neg hNew
  have hSide' :
      side A σ (insert p P) x p = -(A.mulVec x (σ p)) :=
    if_pos (Finset.mem_insert_self p P)
  have hRow :
      ∑ j, scaleRow S p p j * side A σ (insert p P) x j =
        -(x p) := by
    have hEquation := hRep x p
    rw [if_neg hNew] at hEquation
    have hScaled :
        ∑ j, (S p p)⁻¹ * (S p j * side A σ P x j) =
          (S p p)⁻¹ * A.mulVec x (σ p) := by
      rw [← Finset.mul_sum, hEquation]
    rw [sum_replace (p := p)
      (f := fun j => (S p p)⁻¹ * (S p j * side A σ P x j)),
      hScaled]
    · simp only [scaleRow, if_true, hSide, hSide']
      field_simp
      ring
    · intro j hOther
      simp only [scaleRow, if_true, if_neg hOther,
        side_insert x hOther]
      ring
  by_cases hIs : i = p
  · subst hIs
    rw [if_pos (Finset.mem_insert_self i P), ← hRow]
    simp only [clearRows, if_true]
  · have hRest :
        ∑ j, clearRows (scaleRow S p) p i j *
            side A σ (insert p P) x j =
          ∑ j, (if j = p then 0 else S i j) *
              side A σ (insert p P) x j -
            S i p * ∑ j, scaleRow S p p j *
              side A σ (insert p P) x j := by
      rw [Finset.mul_sum, ← Finset.sum_sub_distrib]
      refine Finset.sum_congr rfl fun j _ => ?_
      simp only [clearRows, scaleRow, if_neg hIs]
      ring
    have hOthers :
        ∑ j, (if j = p then 0 else S i j) *
            side A σ (insert p P) x j =
          ∑ j, S i j * side A σ P x j - S i p * x p := by
      rw [sum_replace (p := p)
        (f := fun j => S i j * side A σ P x j)]
      · simp only [if_true, zero_mul, add_zero, hSide]
      · intro j hOther
        simp only [if_neg hOther, side_insert x hOther]
    rw [hRest, hRow, hOthers, hRep x i]
    simp only [Finset.mem_insert, hIs, false_or]
    ring

/- With all solved for, the inverse stands there. -/
theorem Represents.mul_eq_one
    (hRep : Represents A σ Finset.univ S) :
    S.submatrix id σ.symm * A = 1 := by
  apply Matrix.ext_of_mulVec_single
  intro k
  funext i
  rw [← Matrix.mulVec_mulVec, Matrix.one_mulVec]
  have hEquation := hRep (Pi.single k 1) i
  rw [if_pos (Finset.mem_univ i)] at hEquation
  rw [← neg_inj, ← hEquation, Matrix.mulVec, dotProduct,
    ← Equiv.sum_comp σ]
  simp [side, Finset.sum_neg_distrib]

/-
  Equations without a pivot say that a side depends on the
  others, which those of an invertible matrix do not.
-/
theorem Represents.not_invertible
    (hRep : Represents A σ P S)
    {r : ι}
    (hRow : r ∉ P)
    (hZero : ∀ j, j ∉ P → S r j = 0)
    (B : Matrix ι ι K) :
    A * B ≠ 1 := by
  intro hInverse
  have hEquation := hRep (B.mulVec (Pi.single (σ r) 1)) r
  rw [if_neg hRow] at hEquation
  simp only [side, Matrix.mulVec_mulVec, hInverse,
    Matrix.one_mulVec, Pi.single_eq_same] at hEquation
  apply zero_ne_one (α := K)
  rw [← hEquation]
  symm
  refine Finset.sum_eq_zero fun j _ => ?_
  split_ifs with hMem
  · have hOther : σ j ≠ σ r := by
      intro hSame
      exact hRow (σ.injective hSame ▸ hMem)
    rw [Pi.single_eq_of_ne hOther, neg_zero, mul_zero]
  · rw [hZero j hMem, zero_mul]

end GaussJordan
