import Mathlib
import NapaBaselibs.FEC.InvertMat

/-
  The fast inversion of a Vandermonde matrix.

  `invert_vdm` multiplies out the polynomial whose roots are
  the points, and divides it by each of its factors.  The loop
  that multiplies leaves the constant coefficient out in each
  turn, the first one included, where it may not be zero.

  Key definitions include:
    * `vdmFactor`, `vdmCoeffs`
    * `vdmDivide`, `invertVdm`
    * `monicAt`

  Key theorems include:
    * `monicAt_vdmCoeffs`
    * `add_mul_quotientAt`
    * `invert_vdm_exact_iff`
-/

------------------------------------------------------------
-- The Algorithm
------------------------------------------------------------

namespace NapaBaselibs

namespace FEC

variable {k : Nat}

/- The points of the matrix: its second column. -/
def vdmPoints
    (src : GfMatrix k)
    (hSize : 1 < k)
    (i : Nat) : Gf :=
  if hInside : i < k then src ⟨i, hInside⟩ ⟨1, hSize⟩ else 0

/- The inner loop, over the coefficients there are so far. -/
def vdmMultiply
    (pI : Gf)
    (c : Nat → Gf)
    (j : Nat) : Nat → Gf :=
  Function.update c j (c j + pI * c (j + 1))

/- A turn of the loop that multiplies by `x - p_i`. -/
def vdmFactor
    (k : Nat)
    (p : Nat → Gf)
    (c : Nat → Gf)
    (i : Nat) : Nat → Gf :=
  let c :=
    (List.range' (k - 1 - (i - 1)) (i - 1)).foldl
      (vdmMultiply (p i)) c
  Function.update c (k - 1) (c (k - 1) + p i)

/- The coefficients `c`, after all factors. -/
def vdmCoeffs
    (k : Nat)
    (p : Nat → Gf) : Nat → Gf :=
  (List.range' 1 (k - 1)).foldl (vdmFactor k p)
    (Function.update (fun _ => 0) (k - 1) (p 0))

/- The synthetic division, from the index before `i` down. -/
def vdmDivide
    (c : Nat → Gf)
    (xx : Gf) :
    Nat → (Nat → Gf) → Gf → (Nat → Gf) × Gf
  | 0, b, t => (b, t)
  | i + 1, b, t =>
      let b := Function.update b i (c (i + 1) + xx * b (i + 1))
      vdmDivide c xx i b (xx * t + b i)

/- The division of a row, with `b[k-1]` and `t` set to one. -/
def vdmRow
    (k : Nat)
    (c : Nat → Gf)
    (xx : Gf) : (Nat → Gf) × Gf :=
  vdmDivide c xx (k - 1)
    (Function.update (fun _ => 0) (k - 1) 1) 1

/- `invert_vdm`. -/
def invertVdm
    (src : GfMatrix k) : GfMatrix k :=
  if hSize : 1 < k then
    let p := vdmPoints src hSize
    let c := vdmCoeffs k p
    fun col row =>
      (vdmRow k c (p row)).2⁻¹ * (vdmRow k c (p row)).1 col
  else src

------------------------------------------------------------
-- The Coefficients
------------------------------------------------------------

/-
  The loop goes up, so each coefficient is changed with the
  one above it before that changes.
-/
theorem foldl_vdmMultiply
    (pI : Gf)
    (c : Nat → Gf)
    (first n : Nat)
    (j : Nat) :
    (List.range' first n).foldl (vdmMultiply pI) c j =
      if first ≤ j ∧ j < first + n then c j + pI * c (j + 1)
      else c j := by
  induction n generalizing j with
  | zero =>
      rw [if_neg (by omega)]
      rfl
  | succ n ih =>
      rw [List.range'_concat, List.foldl_append, List.foldl_cons,
        List.foldl_nil, vdmMultiply, Function.update_apply]
      split_ifs with hLast hIn hIn
      · rw [ih, ih, if_neg (by omega), if_neg (by omega), hLast]
      · omega
      · rw [ih, if_pos (by omega)]
      · rw [ih, if_neg (by omega)]

/- The coefficients with the leading one, which is implicit. -/
def monic
    (k : Nat)
    (c : Nat → Gf)
    (j : Nat) : Gf :=
  if j = k then 1 else c j

/- The value of the polynomial at a point. -/
def monicAt
    (k : Nat)
    (c : Nat → Gf)
    (y : Gf) : Gf :=
  ∑ j ∈ Finset.range (k + 1), monic k c j * y ^ j

/- What the coefficients are after the factors up to one. -/
structure HasFactors
    (k : Nat)
    (p : Nat → Gf)
    (c : Nat → Gf)
    (i : Nat) : Prop where
  low : ∀ j, j + i < k → c j = 0
  value :
    ∀ y, monicAt k c y * y ^ (i - 1) =
      y ^ (k - 1) * (y + p 0 + p 1) *
        ∏ m ∈ Finset.Ico 2 (i + 1), (y + p m)

theorem vdmFactor_apply
    (p c : Nat → Gf)
    {i : Nat}
    (hPos : 0 < i)
    (hBelow : i < k)
    (j : Nat) :
    vdmFactor k p c i j =
      if j = k - 1 then c j + p i
      else if k ≤ j + i ∧ j < k - 1 then c j + p i * c (j + 1)
      else c j := by
  simp only [vdmFactor, Function.update_apply, foldl_vdmMultiply]
  split_ifs <;> first | rfl | omega | (subst_vars; rfl)

/- The first turn, where there is one coefficient only. -/
theorem hasFactors_one
    (p : Nat → Gf)
    (hSize : 1 < k) :
    HasFactors k p
      (vdmFactor k p
        (Function.update (fun _ => 0) (k - 1) (p 0)) 1) 1 := by
  have hEntry :
      ∀ j, vdmFactor k p
          (Function.update (fun _ => 0) (k - 1) (p 0)) 1 j =
        if j = k - 1 then p 0 + p 1 else 0 := by
    intro j
    rw [vdmFactor_apply _ _ Nat.one_pos hSize]
    simp only [Function.update_apply]
    split_ifs <;> first | rfl | omega
  constructor
  · intro j hLow
    rw [hEntry, if_neg (by omega)]
  · intro y
    have hSum :
        monicAt k
            (vdmFactor k p
              (Function.update (fun _ => 0) (k - 1) (p 0)) 1) y =
          y ^ k + (p 0 + p 1) * y ^ (k - 1) := by
      obtain ⟨n, rfl⟩ := Nat.exists_eq_add_of_le' hSize.le
      rw [Nat.add_sub_cancel] at hEntry ⊢
      rw [monicAt, Finset.sum_range_succ, Finset.sum_range_succ,
        Finset.sum_eq_zero]
      · rw [monic, monic, if_pos rfl, if_neg (by omega), hEntry,
          if_pos rfl]
        ring
      · intro j hMem
        have hLow := Finset.mem_range.mp hMem
        rw [monic, if_neg (by omega), hEntry, if_neg (by omega),
          zero_mul]
    rw [hSum, Nat.sub_self, pow_zero, mul_one, Finset.Ico_self,
      Finset.prod_empty, mul_one]
    obtain ⟨n, rfl⟩ := Nat.exists_eq_add_of_le' hSize.le
    rw [Nat.add_sub_cancel]
    ring

/-
  A coefficient and the one above it, of a polynomial without
  a constant: it is multiplied by the factor.
-/
theorem mul_monicAt_of_step
    {c c' : Nat → Gf}
    {pI : Gf}
    (hPos : 0 < k)
    (hConstant : c 0 = 0)
    (hStep :
      ∀ j < k, monic k c' j = monic k c j + pI * monic k c (j + 1))
    (y : Gf) :
    monicAt k c' y * y = monicAt k c y * (y + pI) := by
  have hShift :
      (∑ j ∈ Finset.range k, monic k c (j + 1) * y ^ j) * y =
        monicAt k c y := by
    rw [monicAt, Finset.sum_range_succ', monic, if_neg hPos.ne,
      hConstant, zero_mul, add_zero, Finset.sum_mul]
    refine Finset.sum_congr rfl fun j _ => ?_
    rw [mul_assoc, ← pow_succ]
  have hSum :
      monicAt k c' y =
        monicAt k c y +
          pI * ∑ j ∈ Finset.range k, monic k c (j + 1) * y ^ j := by
    have hTop : monic k c' k = monic k c k := by
      rw [monic, monic, if_pos rfl, if_pos rfl]
    rw [monicAt, monicAt, Finset.sum_range_succ,
      Finset.sum_range_succ (fun j => monic k c j * y ^ j), hTop,
      Finset.mul_sum]
    rw [Finset.sum_congr rfl
      fun j hMem => by rw [hStep j (Finset.mem_range.mp hMem)]]
    simp only [add_mul, Finset.sum_add_distrib, mul_assoc]
    ring
  rw [hSum, add_mul, mul_assoc pI, hShift]
  ring

/- Later turns have no constant coefficient to leave out. -/
theorem HasFactors.step
    {p c : Nat → Gf}
    {i : Nat}
    (hFactors : HasFactors k p c i)
    (hPos : 0 < i)
    (hBelow : i + 1 < k) :
    HasFactors k p (vdmFactor k p c (i + 1)) (i + 1) := by
  have hEntry := vdmFactor_apply p c (Nat.succ_pos i) hBelow
  constructor
  · intro j hLow
    rw [hEntry, if_neg (by omega), if_neg (by omega),
      hFactors.low j (by omega)]
  · intro y
    have hStep :
        ∀ j < k, monic k (vdmFactor k p c (i + 1)) j =
          monic k c j + p (i + 1) * monic k c (j + 1) := by
      intro j hInside
      simp only [monic, hEntry, if_neg hInside.ne]
      split_ifs with hLast hTop hUsed hTop hTop
      · rw [mul_one]
      · omega
      · omega
      · rfl
      · omega
      · rw [hFactors.low (j + 1) (by omega), mul_zero, add_zero]
    have hSome : 0 < k := by omega
    have hTimes :=
      mul_monicAt_of_step hSome (hFactors.low 0 (by omega)) hStep y
    have hPower : y ^ (i + 1 - 1) = y * y ^ (i - 1) := by
      rw [← pow_succ']
      congr 1
      omega
    rw [hPower, ← mul_assoc, hTimes, mul_assoc,
      mul_comm (y + p (i + 1)), ← mul_assoc, hFactors.value,
      Finset.prod_Ico_succ_top (show 2 ≤ i + 1 by omega)
        (fun m => y + p m)]
    ring

theorem hasFactors_all
    (p : Nat → Gf)
    (n : Nat)
    (hBelow : n + 1 < k) :
    HasFactors k p
      ((List.range' 1 (n + 1)).foldl (vdmFactor k p)
        (Function.update (fun _ => 0) (k - 1) (p 0)))
      (n + 1) := by
  induction n with
  | zero => exact hasFactors_one p hBelow
  | succ n ih =>
      rw [List.range'_concat, List.foldl_append, List.foldl_cons,
        List.foldl_nil, Nat.one_mul, Nat.add_comm 1]
      exact (ih (by omega)).step (Nat.succ_pos n) hBelow

/-
  The polynomial that the loop multiplies out: the product of
  the first two points is missing from it.
-/
theorem monicAt_vdmCoeffs
    (p : Nat → Gf)
    (hSize : 1 < k)
    (y : Gf) :
    monicAt k (vdmCoeffs k p) y =
      y * (y + p 0 + p 1) * ∏ m ∈ Finset.Ico 2 k, (y + p m) := by
  obtain ⟨n, rfl⟩ := Nat.exists_eq_add_of_le' hSize
  have hFactors := hasFactors_all p n (k := n + 2) (by omega)
  have hLow : vdmCoeffs (n + 2) p 0 = 0 :=
    hFactors.low 0 (by omega)
  have hValue :
      monicAt (n + 2) (vdmCoeffs (n + 2) p) y * y ^ n =
        y ^ (n + 1) * (y + p 0 + p 1) *
          ∏ m ∈ Finset.Ico 2 (n + 2), (y + p m) :=
    hFactors.value y
  by_cases hZero : y = 0
  · rw [hZero, zero_mul, zero_mul, monicAt, Finset.sum_range_succ',
      monic, if_neg (by omega), hLow, zero_mul, add_zero]
    refine Finset.sum_eq_zero fun j _ => ?_
    rw [zero_pow (Nat.succ_ne_zero j), mul_zero]
  · apply mul_right_cancel₀ (pow_ne_zero n hZero)
    rw [hValue]
    ring

------------------------------------------------------------
-- The Division
------------------------------------------------------------

/- The coefficients of the quotient, from an index on. -/
def IsQuotientFrom
    (k : Nat)
    (c b : Nat → Gf)
    (xx : Gf)
    (i : Nat) : Prop :=
  b (k - 1) = 1 ∧
    ∀ j, i ≤ j → j + 1 < k → b j = c (j + 1) + xx * b (j + 1)

/- The value of the quotient at a point, from an index on. -/
def quotientFrom
    (k : Nat)
    (b : Nat → Gf)
    (i : Nat)
    (y : Gf) : Gf :=
  ∑ j ∈ Finset.range (k - i), b (i + j) * y ^ j

theorem quotientFrom_succ
    (b : Nat → Gf)
    {i : Nat}
    (hBelow : i < k)
    (y : Gf) :
    quotientFrom k b i y = y * quotientFrom k b (i + 1) y + b i := by
  obtain ⟨n, rfl⟩ := Nat.exists_eq_add_of_lt hBelow
  have hLeft : i + n + 1 - i = n + 1 := by omega
  have hRest : i + n + 1 - (i + 1) = n := by omega
  rw [quotientFrom, quotientFrom, hLeft, hRest,
    Finset.sum_range_succ', Finset.mul_sum, pow_zero, mul_one,
    Nat.add_zero]
  congr 1
  refine Finset.sum_congr rfl fun j _ => ?_
  rw [Nat.add_right_comm i 1 j, Nat.add_assoc i j 1]
  ring

/- A coefficient that is written is not one of those above. -/
theorem quotientFrom_update
    (b : Nat → Gf)
    (i : Nat)
    (x y : Gf) :
    quotientFrom k (Function.update b i x) (i + 1) y =
      quotientFrom k b (i + 1) y := by
  refine Finset.sum_congr rfl fun j _ => ?_
  rw [Function.update_of_ne (by omega)]

/- The division, from an index with those above done. -/
theorem vdmDivide_spec
    (c : Nat → Gf)
    (xx : Gf)
    (i : Nat)
    (b : Nat → Gf)
    (t : Gf)
    (hBelow : i < k)
    (hAbove : IsQuotientFrom k c b xx i)
    (hValue : t = quotientFrom k b i xx) :
    IsQuotientFrom k c (vdmDivide c xx i b t).1 xx 0 ∧
      (vdmDivide c xx i b t).2 =
        quotientFrom k (vdmDivide c xx i b t).1 0 xx := by
  induction i generalizing b t with
  | zero => exact ⟨hAbove, hValue⟩
  | succ i ih =>
      rw [vdmDivide]
      apply ih _ _ (by omega)
      · refine ⟨?_, ?_⟩
        · rw [Function.update_of_ne (by omega)]
          exact hAbove.1
        · intro j hFrom hInside
          rw [Function.update_of_ne (by omega : j + 1 ≠ i)]
          by_cases hIs : j = i
          · rw [hIs, Function.update_self]
          · rw [Function.update_of_ne hIs]
            exact hAbove.2 j (by omega) hInside
      · rw [quotientFrom_succ _ (by omega), quotientFrom_update,
          hValue]

theorem vdmRow_spec
    (c : Nat → Gf)
    (xx : Gf)
    (hPos : 0 < k) :
    IsQuotientFrom k c (vdmRow k c xx).1 xx 0 ∧
      (vdmRow k c xx).2 =
        quotientFrom k (vdmRow k c xx).1 0 xx := by
  apply vdmDivide_spec c xx (k - 1) _ _ (by omega)
  · refine ⟨Function.update_self _ _ _, ?_⟩
    intro j hFrom hInside
    omega
  · have hOne : k - (k - 1) = 1 := by omega
    rw [quotientFrom, hOne, Finset.sum_range_one, Nat.add_zero,
      Function.update_self, pow_zero, mul_one]

/-
  The quotient times the factor is the polynomial but for a
  constant, which is what the division leaves.
-/
theorem add_mul_quotientFrom
    {c b : Nat → Gf}
    {xx : Gf}
    (hPos : 0 < k)
    (hQuotient : IsQuotientFrom k c b xx 0)
    (y : Gf) :
    (y + xx) * quotientFrom k b 0 y =
      monicAt k c y + (monic k c 0 + xx * b 0) := by
  obtain ⟨n, rfl⟩ := Nat.exists_eq_add_of_le' hPos
  have hTop : b n = monic (n + 1) c (n + 1) := by
    rw [monic, if_pos rfl]
    exact hQuotient.1
  have hStep :
      ∀ j ∈ Finset.range n,
        (b j + xx * b (j + 1)) * y ^ (j + 1) =
          monic (n + 1) c (j + 1) * y ^ (j + 1) := by
    intro j hMem
    have hInside := Finset.mem_range.mp hMem
    rw [hQuotient.2 j (Nat.zero_le j) (by omega), add_assoc,
      CharTwo.add_self_eq_zero, add_zero, monic,
      if_neg (by omega)]
  have hTimes :
      y * quotientFrom (n + 1) b 0 y =
        ∑ j ∈ Finset.range n, b j * y ^ (j + 1) +
          b n * y ^ (n + 1) := by
    rw [quotientFrom, Nat.sub_zero, Finset.mul_sum,
      ← Finset.sum_range_succ (fun j => b j * y ^ (j + 1))]
    refine Finset.sum_congr rfl fun j _ => ?_
    rw [Nat.zero_add]
    ring
  have hPoint :
      xx * quotientFrom (n + 1) b 0 y =
        ∑ j ∈ Finset.range n, xx * b (j + 1) * y ^ (j + 1) +
          xx * b 0 := by
    rw [quotientFrom, Nat.sub_zero, Finset.sum_range_succ',
      mul_add, Finset.mul_sum, pow_zero, mul_one, Nat.zero_add]
    congr 1
    refine Finset.sum_congr rfl fun j _ => ?_
    rw [Nat.zero_add]
    ring
  have hBoth :
      ∑ j ∈ Finset.range n, b j * y ^ (j + 1) +
          ∑ j ∈ Finset.range n, xx * b (j + 1) * y ^ (j + 1) =
        ∑ j ∈ Finset.range n,
          monic (n + 1) c (j + 1) * y ^ (j + 1) := by
    rw [← Finset.sum_add_distrib, ← Finset.sum_congr rfl hStep]
    refine Finset.sum_congr rfl fun j _ => ?_
    ring
  rw [add_mul, hTimes, hPoint, monicAt, Finset.sum_range_succ,
    Finset.sum_range_succ', ← hBoth, hTop, pow_zero, mul_one]
  linear_combination
    -CharTwo.add_self_eq_zero (monic (n + 1) c 0)

/- Two values of the polynomial differ by that of a quotient. -/
theorem add_mul_vdmRow
    (c : Nat → Gf)
    (xx y : Gf)
    (hPos : 0 < k) :
    (y + xx) * quotientFrom k (vdmRow k c xx).1 0 y =
      monicAt k c y + monicAt k c xx := by
  have hQuotient := (vdmRow_spec c xx hPos).1
  have hAtPoint := add_mul_quotientFrom hPos hQuotient xx
  rw [CharTwo.add_self_eq_zero, zero_mul] at hAtPoint
  have hLeft :
      monic k c 0 + xx * (vdmRow k c xx).1 0 = monicAt k c xx :=
    (CharTwo.add_eq_zero.mp hAtPoint.symm).symm
  rw [add_mul_quotientFrom hPos hQuotient y, hLeft]

------------------------------------------------------------
-- The Inverse
------------------------------------------------------------

/- The matrix of the powers of some points. -/
def vdmMatrix
    (k : Nat)
    (p : Nat → Gf) : GfMatrix k :=
  Matrix.vandermonde fun i : Fin k => p i

theorem vdmPoints_vdmMatrix
    (p : Nat → Gf)
    (hSize : 1 < k)
    {i : Nat}
    (hInside : i < k) :
    vdmPoints (vdmMatrix k p) hSize i = p i := by
  rw [vdmPoints, dif_pos hInside, vdmMatrix,
    Matrix.vandermonde_apply, pow_one]

/- Points that the algorithm is given. -/
def Distinct
    (k : Nat)
    (p : Nat → Gf) : Prop :=
  ∀ i < k, ∀ j < k, p i = p j → i = j

theorem det_vdmMatrix_ne_zero
    {p : Nat → Gf}
    (hDistinct : Distinct k p) :
    (vdmMatrix k p).det ≠ 0 := by
  rw [vdmMatrix, Matrix.det_vandermonde_ne_zero_iff]
  intro i j hSame
  exact Fin.ext (hDistinct i i.isLt j j.isLt hSame)

theorem sum_pow_mul
    (p : Nat → Gf)
    (b : Nat → Gf)
    (i : Fin k) :
    ∑ col : Fin k, vdmMatrix k p i col * b col =
      quotientFrom k b 0 (p i) := by
  rw [quotientFrom, Nat.sub_zero,
    ← Fin.sum_univ_eq_sum_range
      (fun j => b (0 + j) * p i ^ j) k]
  refine Finset.sum_congr rfl fun col _ => ?_
  rw [vdmMatrix, Matrix.vandermonde_apply, Nat.zero_add, mul_comm]

theorem invertVdm_apply
    (src : GfMatrix k)
    (hSize : 1 < k)
    (col row : Fin k) :
    let c := vdmCoeffs k (vdmPoints src hSize)
    let xx := vdmPoints src hSize row
    invertVdm src col row =
      (vdmRow k c xx).2⁻¹ * (vdmRow k c xx).1 col := by
  intro c xx
  have hDone : invertVdm src = _ := dif_pos hSize
  rw [hDone]

/- An element of the product is a quotient of two values. -/
theorem mul_invertVdm_apply
    (p : Nat → Gf)
    (hSize : 1 < k)
    (i row : Fin k) :
    let c := vdmCoeffs k (vdmPoints (vdmMatrix k p) hSize)
    let b := (vdmRow k c (p row)).1
    (vdmMatrix k p * invertVdm (vdmMatrix k p)) i row =
      (quotientFrom k b 0 (p row))⁻¹ *
        quotientFrom k b 0 (p i) := by
  intro c b
  have hPoint :
      vdmPoints (vdmMatrix k p) hSize row = p row :=
    vdmPoints_vdmMatrix p hSize row.isLt
  have hEntry :
      ∀ col, invertVdm (vdmMatrix k p) col row =
        (quotientFrom k b 0 (p row))⁻¹ * b col := by
    intro col
    rw [invertVdm_apply _ hSize, hPoint,
      (vdmRow_spec c (p row) (by omega)).2]
  rw [Matrix.mul_apply, ← sum_pow_mul p b i, Finset.mul_sum]
  refine Finset.sum_congr rfl fun col _ => ?_
  rw [hEntry]
  ring

/- No quotient is zero at all points, as one of its coefficients is not. -/
theorem quotientFrom_row_ne_zero
    {p : Nat → Gf}
    (hDistinct : Distinct k p)
    (c : Nat → Gf)
    (row : Fin k)
    (hOthers :
      ∀ i : Fin k, i ≠ row →
        quotientFrom k (vdmRow k c (p row)).1 0 (p i) = 0) :
    quotientFrom k (vdmRow k c (p row)).1 0 (p row) ≠ 0 := by
  intro hZero
  have hPos : 0 < k := by
    have := row.isLt
    omega
  have hVec :
      (vdmMatrix k p).mulVec
        (fun col => (vdmRow k c (p row)).1 col) = 0 := by
    funext i
    rw [Matrix.mulVec, dotProduct, sum_pow_mul, Pi.zero_apply]
    by_cases hIs : i = row
    · rw [hIs, hZero]
    · exact hOthers i hIs
  have hNone :=
    Matrix.eq_zero_of_mulVec_eq_zero
      (det_vdmMatrix_ne_zero hDistinct) hVec
  have hLast := congrFun hNone ⟨k - 1, by omega⟩
  have hOne := (vdmRow_spec c (p row) hPos).1.1
  exact one_ne_zero (hOne.symm.trans hLast)

/-
  All points but the first two are roots of the polynomial;
  at these it has what was left out, times the other factors.
-/
theorem value_at_points
    {p : Nat → Gf}
    {f : Gf → Gf}
    (hValue :
      ∀ y, f y =
        y * (y + p 0 + p 1) * ∏ m ∈ Finset.Ico 2 k, (y + p m))
    (i : Nat)
    (hInside : i < k) :
    f (p i) =
      if i < 2 then
        p 0 * p 1 * ∏ m ∈ Finset.Ico 2 k, (p i + p m)
      else 0 := by
  rw [hValue]
  split_ifs with hFirst
  · congr 1
    obtain rfl | rfl : i = 0 ∨ i = 1 := by omega
    · rw [CharTwo.add_self_eq_zero, zero_add]
    · rw [add_right_comm, CharTwo.add_self_eq_zero, zero_add,
        mul_comm]
  · have hMem : i ∈ Finset.Ico 2 k :=
      Finset.mem_Ico.mpr ⟨by omega, hInside⟩
    rw [Finset.prod_eq_zero hMem (CharTwo.add_self_eq_zero (p i)),
      mul_zero]

/- The polynomial that `invert_vdm` divides, for some points. -/
def vdmValue
    (k : Nat)
    (p : Nat → Gf)
    (hSize : 1 < k) : Gf → Gf :=
  monicAt k (vdmCoeffs k (vdmPoints (vdmMatrix k p) hSize))

theorem vdmValue_eq
    (p : Nat → Gf)
    (hSize : 1 < k)
    (y : Gf) :
    vdmValue k p hSize y =
      y * (y + p 0 + p 1) *
        ∏ m ∈ Finset.Ico 2 k, (y + p m) := by
  rw [vdmValue, monicAt_vdmCoeffs _ hSize,
    vdmPoints_vdmMatrix p hSize (by omega),
    vdmPoints_vdmMatrix p hSize hSize]
  congr 1
  refine Finset.prod_congr rfl fun m hMem => ?_
  rw [vdmPoints_vdmMatrix p hSize (Finset.mem_Ico.mp hMem).2]

/- If the values at all points are the same, it is right. -/
theorem mul_invertVdm_of_value_eq
    {p : Nat → Gf}
    (hSize : 1 < k)
    (hDistinct : Distinct k p)
    (hEqual :
      ∀ i < k, ∀ j < k,
        vdmValue k p hSize (p i) = vdmValue k p hSize (p j)) :
    vdmMatrix k p * invertVdm (vdmMatrix k p) = 1 := by
  have hPos : 0 < k := by omega
  have hEntry := mul_invertVdm_apply p hSize
  have hOthers :
      ∀ row i : Fin k, i ≠ row →
        quotientFrom k
          (vdmRow k
            (vdmCoeffs k (vdmPoints (vdmMatrix k p) hSize))
            (p row)).1 0 (p i) = 0 := by
    intro row i hOther
    have hTimes :=
      add_mul_vdmRow
        (vdmCoeffs k (vdmPoints (vdmMatrix k p) hSize))
        (p row) (p i) hPos
    have hSame := hEqual i i.isLt row row.isLt
    rw [vdmValue] at hSame
    rw [hSame, CharTwo.add_self_eq_zero] at hTimes
    refine (mul_eq_zero.mp hTimes).resolve_left fun hZero => ?_
    exact
      hOther
        (Fin.ext
          (hDistinct i i.isLt row row.isLt
            (CharTwo.add_eq_zero.mp hZero)))
  refine Matrix.ext fun i row => ?_
  rw [hEntry i row]
  by_cases hIs : i = row
  · subst hIs
    rw [Matrix.one_apply_eq]
    exact
      inv_mul_cancel₀
        (quotientFrom_row_ne_zero hDistinct _ i (hOthers i))
  · rw [Matrix.one_apply_ne hIs, hOthers row i hIs, mul_zero]

/- If it is right, the values at two points are the same. -/
theorem value_eq_of_mul_invertVdm
    {p : Nat → Gf}
    (hSize : 1 < k)
    (hInverse : vdmMatrix k p * invertVdm (vdmMatrix k p) = 1)
    {i row : Fin k}
    (hOther : i ≠ row) :
    vdmValue k p hSize (p i) = vdmValue k p hSize (p row) := by
  have hEntry := mul_invertVdm_apply p hSize
  have hDiagonal := hEntry row row
  rw [hInverse, Matrix.one_apply_eq] at hDiagonal
  have hOff := hEntry i row
  rw [hInverse, Matrix.one_apply_ne hOther] at hOff
  have hRoot :=
    (mul_eq_zero.mp hOff.symm).resolve_left
      (left_ne_zero_of_mul_eq_one hDiagonal.symm)
  have hPos : 0 < k := Nat.lt_trans Nat.zero_lt_one hSize
  have hTimes :=
    add_mul_vdmRow
      (vdmCoeffs k (vdmPoints (vdmMatrix k p) hSize))
      (p row) (p i) hPos
  rw [hRoot, mul_zero] at hTimes
  exact CharTwo.add_eq_zero.mp hTimes.symm

/- A zero among the first two points is enough. -/
theorem mul_invertVdm_eq_one
    {p : Nat → Gf}
    (hPos : 0 < k)
    (hDistinct : Distinct k p)
    (hCondition : k ≤ 2 ∨ p 0 = 0 ∨ p 1 = 0) :
    vdmMatrix k p * invertVdm (vdmMatrix k p) = 1 := by
  by_cases hSize : 1 < k
  · apply mul_invertVdm_of_value_eq hSize hDistinct
    intro i hI j hJ
    have hRoots := value_at_points (vdmValue_eq p hSize)
    rw [hRoots i hI, hRoots j hJ]
    rcases hCondition with hTwo | hFirst | hSecond
    · have hK : k = 2 := by omega
      subst hK
      rw [if_pos hI, if_pos hJ, Finset.Ico_self,
        Finset.prod_empty, Finset.prod_empty]
    · simp [hFirst]
    · simp [hSecond]
  · have hOne : k = 1 := by omega
    subst hOne
    have hNop : invertVdm (vdmMatrix 1 p) = vdmMatrix 1 p :=
      dif_neg hSize
    rw [hNop]
    ext i j
    fin_cases i
    fin_cases j
    simp [vdmMatrix, Matrix.mul_apply]

/-
  The fast inversion is right for points of which one of the
  first two is zero, as in the matrix of the code, or if there
  are no more than two; for all others it is wrong.
-/
theorem invert_vdm_exact_iff
    (p : Nat → Gf)
    (hPos : 0 < k)
    (hDistinct : Distinct k p) :
    vdmMatrix k p * invertVdm (vdmMatrix k p) = 1 ↔
      k ≤ 2 ∨ p 0 = 0 ∨ p 1 = 0 := by
  refine ⟨?_, mul_invertVdm_eq_one hPos hDistinct⟩
  intro hInverse
  by_contra hNone
  push Not at hNone
  obtain ⟨hThree, hFirst, hSecond⟩ := hNone
  have hSize : 1 < k := by omega
  have hRoots := value_at_points (vdmValue_eq p hSize)
  let i : Fin k := ⟨2, hThree⟩
  let row : Fin k := ⟨0, hPos⟩
  have hOther : i ≠ row := by
    intro h
    have hIndex := congrArg Fin.val h
    simp only [i, row] at hIndex
    omega
  have hEqual := value_eq_of_mul_invertVdm hSize hInverse hOther
  rw [hRoots 2 hThree, if_neg (by decide), hRoots 0 hPos,
    if_pos (by decide)] at hEqual
  have hFactors :
      ∏ m ∈ Finset.Ico 2 k, (p 0 + p m) ≠ 0 := by
    refine Finset.prod_ne_zero_iff.mpr fun m hMem => ?_
    obtain ⟨hFrom, hInside⟩ := Finset.mem_Ico.mp hMem
    intro hZero
    have hSame := hDistinct 0 hPos m hInside
      (CharTwo.add_eq_zero.mp hZero)
    omega
  exact
    mul_ne_zero (mul_ne_zero hFirst hSecond) hFactors hEqual.symm

/- Three points of which the second is zero, and three without. -/
theorem second_point_zero :
    let p : Nat → Gf := fun i => ⟨UInt8.ofNat (i + 1) - 2⟩
    let q : Nat → Gf := fun i => ⟨UInt8.ofNat (i + 1)⟩
    vdmMatrix 3 p * invertVdm (vdmMatrix 3 p) = 1 ∧
      vdmMatrix 3 q * invertVdm (vdmMatrix 3 q) ≠ 1 := by
  intro p q
  have hP : Distinct 3 p := by
    unfold Distinct
    decide
  have hQ : Distinct 3 q := by
    unfold Distinct
    decide
  exact
    ⟨(invert_vdm_exact_iff p (by decide) hP).mpr (by decide),
      mt (invert_vdm_exact_iff q (by decide) hQ).mp (by decide)⟩

end FEC

end NapaBaselibs
