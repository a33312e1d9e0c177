import Mathlib.Data.List.Basic
import Mathlib.Algebra.Order.Ring.Nat
import Mathlib.Tactic.Ring

/-
  Numerals in a base: written without a zero in front, and
  read digit by digit.

  Key definitions include:
    * `Numeral.value`

  Key theorems include:
    * `Numeral.written_induction`
    * `Numeral.value_toDigits`
-/

------------------------------------------------------------
-- Writing
------------------------------------------------------------

namespace Numeral

variable {b : Nat}

/- A written numeral with one more digit. -/
theorem toDigits_append
    (hBase : 1 < b)
    {n d : Nat}
    (hPos : 0 < n)
    (hDigit : d < b) :
    Nat.toDigits b (b * n + d) =
      Nat.toDigits b n ++ [Nat.digitChar d] := by
  rw [← Nat.toDigits_append_toDigits hBase hPos hDigit,
    Nat.toDigits_of_lt_base hDigit]

/- What holds of one digit, and is kept by one digit more. -/
theorem written_induction
    {motive : Nat → List Char → Prop}
    (hBase : 1 < b)
    (hDigit : ∀ d, d < b → motive d [Nat.digitChar d])
    (hAppend :
      ∀ n d text, 0 < n → d < b → motive n text →
        motive (b * n + d) (text ++ [Nat.digitChar d]))
    (n : Nat) :
    motive n (Nat.toDigits b n) := by
  induction n using Nat.strong_induction_on with
  | _ n ih =>
      by_cases hSmall : n < b
      · rw [Nat.toDigits_of_lt_base hSmall]
        exact hDigit n hSmall
      · have hPos : 0 < n / b :=
          Nat.div_pos (Nat.le_of_not_lt hSmall) (by omega)
        have hLess : n / b < n :=
          Nat.div_lt_self (by omega) hBase
        have hLast : n % b < b := Nat.mod_lt n (by omega)
        have hWritten :=
          hAppend (n / b) (n % b) _ hPos hLast (ih _ hLess)
        rw [← toDigits_append hBase hPos hLast,
          Nat.div_add_mod] at hWritten
        exact hWritten

------------------------------------------------------------
-- Reading
------------------------------------------------------------

variable (digit : Char → Option Nat)

/- The value of digits that come behind those of `n`. -/
def value
    (b : Nat)
    (n : Nat)
    (text : List Char) : Nat :=
  text.foldl (fun n c => b * n + (digit c).getD 0) n

theorem value_cons
    (n : Nat)
    (c : Char)
    (text : List Char) :
    value digit b n (c :: text) =
      value digit b (b * n + (digit c).getD 0) text :=
  rfl

theorem value_append
    (n : Nat)
    (text rest : List Char) :
    value digit b n (text ++ rest) =
      value digit b (value digit b n text) rest :=
  List.foldl_append

variable {digit}

/- What is written is read as what it was. -/
theorem value_toDigits
    (hBase : 1 < b)
    (hRead : ∀ d, d < b → digit (Nat.digitChar d) = some d)
    (n : Nat) :
    value digit b 0 (Nat.toDigits b n) = n := by
  apply written_induction (motive := fun n text =>
    value digit b 0 text = n) hBase
  · intro d hDigit
    rw [value_cons, hRead d hDigit]
    simp [value]
  · intro n d text _ hDigit ih
    rw [value_append, ih, value_cons, hRead d hDigit]
    rfl

/- Every character that is written is a digit. -/
theorem isSome_of_mem_toDigits
    (hBase : 1 < b)
    (hRead : ∀ d, d < b → digit (Nat.digitChar d) = some d)
    (n : Nat) :
    ∀ c ∈ Nat.toDigits b n, (digit c).isSome := by
  apply written_induction (motive := fun _ text =>
    ∀ c ∈ text, (digit c).isSome) hBase
  · intro d hDigit c hMem
    rw [List.mem_singleton.mp hMem, hRead d hDigit]
    rfl
  · intro n d text _ hDigit ih c hMem
    rcases List.mem_append.mp hMem with hOld | hNew
    · exact ih c hOld
    · rw [List.mem_singleton.mp hNew, hRead d hDigit]
      rfl

end Numeral
