import Mathlib

/-
  Products that add the exponents of a generator.

  A sum is given, and the multiplication by one element, the
  generator.  If its powers are all that is not zero, every
  product that adds exponents has the laws of a field.

  Key definitions include:
    * `PowerField.Generator`, `Generator.power`
    * `Generator.comesTo`
    * `PowerField.AddsExponents`, `PowerField.Inverts`

  Key theorems include:
    * `Generator.covers_of_first_return`
    * `AddsExponents.power_mul`
    * `AddsExponents.mul_comm`, `AddsExponents.mul_assoc`
    * `AddsExponents.mul_add`, `Inverts.mul_inv_cancel`
-/

------------------------------------------------------------
-- Generators
------------------------------------------------------------

namespace PowerField

variable {A : Type*} [AddCommGroup A]

/-
  The multiplication by an element whose powers repeat after
  a period and are all of the elements but zero.
-/
structure Generator (A : Type*) [AddCommGroup A] where
  times : A →+ A
  one : A
  period : Nat
  one_ne_zero : one ≠ 0
  iterate_period : times^[period] one = one
  covers : ∀ x, x ≠ 0 → ∃ i < period, times^[i] one = x

namespace Generator

variable (g : Generator A)

/- A power of the generator. -/
def power (i : Nat) : A :=
  g.times^[i] g.one

@[simp] theorem power_zero :
    g.power 0 = g.one := rfl

theorem power_succ (i : Nat) :
    g.power (i + 1) = g.times (g.power i) :=
  Function.iterate_succ_apply' _ _ _

theorem power_add (i j : Nat) :
    g.power (i + j) = g.times^[i] (g.power j) :=
  Function.iterate_add_apply _ _ _ _

@[simp] theorem power_period :
    g.power g.period = g.one :=
  g.iterate_period

theorem power_add_period (i : Nat) :
    g.power (i + g.period) = g.power i := by
  rw [power_add, power_period]
  rfl

theorem power_mul_period (n : Nat) :
    g.power (n * g.period) = g.one := by
  induction n with
  | zero => simp
  | succ n ih => rw [Nat.succ_mul, power_add_period, ih]

/- Exponents count modulo the period. -/
theorem power_mod (i : Nat) :
    g.power (i % g.period) = g.power i := by
  conv => rhs; rw [← Nat.mod_add_div i g.period]
  rw [power_add, Nat.mul_comm, power_mul_period]
  rfl

theorem exists_power
    {x : A}
    (hNonzero : x ≠ 0) :
    ∃ i < g.period, g.power i = x :=
  g.covers x hNonzero

theorem period_pos : 0 < g.period := by
  obtain ⟨i, hBelow, _⟩ := g.exists_power g.one_ne_zero
  omega

/-
  A power that were zero would stay zero, but the powers come
  back to one.
-/
theorem power_ne_zero (i : Nat) :
    g.power i ≠ 0 := by
  intro hZero
  have hLater : i ≤ i * g.period :=
    Nat.le_mul_of_pos_right i g.period_pos
  have hBack := g.power_mul_period i
  rw [← Nat.sub_add_cancel hLater, power_add, hZero,
    iterate_map_zero] at hBack
  exact g.one_ne_zero hBack.symm

/- Whether a function comes to an element after some steps. -/
def comesTo
    {α : Type*} [DecidableEq α]
    (f : α → α)
    (goal : α) : Nat → α → Bool
  | 0, x => x == goal
  | n + 1, x => x != goal && comesTo f goal n (f x)

theorem comesTo_iff
    {α : Type*} [DecidableEq α]
    (f : α → α)
    (goal : α)
    (n : Nat)
    (x : α) :
    comesTo f goal n x = true ↔
      f^[n] x = goal ∧ ∀ i < n, f^[i] x ≠ goal := by
  induction n generalizing x with
  | zero => simp [comesTo]
  | succ n ih =>
      rw [comesTo, Bool.and_eq_true, bne_iff_ne, ih]
      constructor
      · rintro ⟨hFirst, hEnd, hBefore⟩
        refine ⟨hEnd, ?_⟩
        rintro (_ | i) hLess
        · exact hFirst
        · exact hBefore i (by omega)
      · rintro ⟨hEnd, hBefore⟩
        exact
          ⟨hBefore 0 (by omega), hEnd,
            fun i hLess => hBefore (i + 1) (by omega)⟩

/-
  If no power is one again before the period, those below it
  differ: what is between two equal ones could be left out.
-/
theorem iterate_ne_of_first_return
    {α : Type*}
    {f : α → α}
    {one : α}
    {period : Nat}
    (hReturn : f^[period] one = one)
    (hFirst : ∀ i, 0 < i → i < period → f^[i] one ≠ one)
    {i j : Nat}
    (hLess : i < j)
    (hBelow : j < period) :
    f^[i] one ≠ f^[j] one := by
  intro hEqual
  apply hFirst (period - j + i) (by omega) (by omega)
  rw [Function.iterate_add_apply, hEqual,
    ← Function.iterate_add_apply, Nat.sub_add_cancel hBelow.le,
    hReturn]

/- Powers that differ fill a type of the right size. -/
theorem covers_of_first_return
    [Finite A]
    {times : A →+ A}
    {one : A}
    {period : Nat}
    (hCard : Nat.card A = period + 1)
    (hOne : one ≠ 0)
    (hReturn : times^[period] one = one)
    (hFirst : ∀ i, 0 < i → i < period → times^[i] one ≠ one)
    {x : A}
    (hNonzero : x ≠ 0) :
    ∃ i < period, times^[i] one = x := by
  have hApart :
      ∀ i j, i < j → j < period →
        times^[i] one ≠ times^[j] one :=
    fun i j => iterate_ne_of_first_return hReturn hFirst
  have hZero : ∀ i < period, times^[i] one ≠ 0 := by
    intro i hBelow hIs
    apply hOne
    rw [← hReturn, ← Nat.sub_add_cancel hBelow.le,
      Function.iterate_add_apply, hIs, iterate_map_zero]
  let f : Fin (period + 1) → A :=
    fun i => if i.val = period then 0 else times^[i.val] one
  have hInjective : Function.Injective f := by
    intro i j hEqual
    have hI := i.isLt
    have hJ := j.isLt
    simp only [f] at hEqual
    apply Fin.ext
    split_ifs at hEqual with hILast hJLast hJLast
    · omega
    · exact absurd hEqual.symm (hZero j.val (by omega))
    · exact absurd hEqual (hZero i.val (by omega))
    · rcases Nat.lt_trichotomy i.val j.val with h | h | h
      · exact absurd hEqual (hApart _ _ h (by omega))
      · exact h
      · exact absurd hEqual.symm (hApart _ _ h (by omega))
  have hSame : Nat.card (Fin (period + 1)) = Nat.card A := by
    rw [hCard, Nat.card_eq_fintype_card, Fintype.card_fin]
  obtain ⟨i, hImage⟩ :=
    ((Nat.bijective_iff_injective_and_card f).mpr
      ⟨hInjective, hSame⟩).surjective x
  have hBound := i.isLt
  simp only [f] at hImage
  split_ifs at hImage with hLast
  · exact absurd hImage.symm hNonzero
  · exact ⟨i.val, by omega, hImage⟩

end Generator

------------------------------------------------------------
-- Products
------------------------------------------------------------

/- The product of two powers is the power of the sum. -/
structure AddsExponents
    (g : Generator A)
    (mul : A → A → A) : Prop where
  zero_left : ∀ y, mul 0 y = 0
  zero_right : ∀ x, mul x 0 = 0
  powers : ∀ i j, mul (g.power i) (g.power j) = g.power (i + j)

namespace AddsExponents

variable {g : Generator A} {mul : A → A → A}
variable (hMul : AddsExponents g mul)

include hMul

/- To multiply by a power is to multiply repeatedly. -/
theorem power_mul
    (i : Nat)
    (y : A) :
    mul (g.power i) y = g.times^[i] y := by
  by_cases hZero : y = 0
  · rw [hZero, hMul.zero_right, iterate_map_zero]
  · obtain ⟨j, _, rfl⟩ := g.exists_power hZero
    rw [hMul.powers, g.power_add]

theorem one_mul (y : A) :
    mul g.one y = y :=
  hMul.power_mul 0 y

theorem mul_comm (x y : A) :
    mul x y = mul y x := by
  by_cases hX : x = 0
  · rw [hX, hMul.zero_left, hMul.zero_right]
  by_cases hY : y = 0
  · rw [hY, hMul.zero_left, hMul.zero_right]
  obtain ⟨i, _, rfl⟩ := g.exists_power hX
  obtain ⟨j, _, rfl⟩ := g.exists_power hY
  rw [hMul.powers, hMul.powers, Nat.add_comm]

theorem mul_assoc (x y z : A) :
    mul (mul x y) z = mul x (mul y z) := by
  by_cases hX : x = 0
  · rw [hX]
    simp only [hMul.zero_left]
  by_cases hY : y = 0
  · rw [hY]
    simp only [hMul.zero_left, hMul.zero_right]
  obtain ⟨i, _, rfl⟩ := g.exists_power hX
  obtain ⟨j, _, rfl⟩ := g.exists_power hY
  rw [hMul.powers]
  simp only [hMul.power_mul]
  exact Function.iterate_add_apply _ _ _ _

/- The multiplication by the generator is additive. -/
theorem mul_add (x y z : A) :
    mul x (y + z) = mul x y + mul x z := by
  by_cases hX : x = 0
  · rw [hX]
    simp only [hMul.zero_left, add_zero]
  · obtain ⟨i, _, rfl⟩ := g.exists_power hX
    simp only [hMul.power_mul, iterate_map_add]

theorem add_mul (x y z : A) :
    mul (x + y) z = mul x z + mul y z := by
  rw [hMul.mul_comm, hMul.mul_add, hMul.mul_comm z, hMul.mul_comm z]

end AddsExponents

------------------------------------------------------------
-- Inverses
------------------------------------------------------------

/- The inverse of a power has what is left of the period. -/
structure Inverts
    (g : Generator A)
    (inv : A → A) : Prop where
  powers :
    ∀ i < g.period, inv (g.power i) = g.power (g.period - i)

theorem Inverts.mul_inv_cancel
    {g : Generator A}
    {mul : A → A → A} {inv : A → A}
    (hMul : AddsExponents g mul)
    (hInv : Inverts g inv)
    {x : A}
    (hNonzero : x ≠ 0) :
    mul x (inv x) = g.one := by
  obtain ⟨i, hBelow, rfl⟩ := g.exists_power hNonzero
  rw [hInv.powers i hBelow, hMul.powers, Nat.add_sub_cancel' hBelow.le,
    g.power_period]

end PowerField
