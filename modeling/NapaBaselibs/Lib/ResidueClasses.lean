import Mathlib.Data.List.Induction
import Mathlib.Data.Nat.ModEq

/-
  Numbers that arrive in increasing order, by their residue
  classes.

  The latest number of a class stands for what a window with
  one slot for each class holds of it; a class that was never
  seen holds 0, the number from which the others count.  The
  number one window below a new one was seen exactly if it is
  the latest of its class.

  Key definitions include:
    * `ResidueClasses.latest`

  Key theorems include:
    * `ResidueClasses.window_le_sub_latest`
    * `ResidueClasses.sub_latest_eq_iff`
-/

------------------------------------------------------------
-- The Latest Of A Class
------------------------------------------------------------

namespace ResidueClasses

/- The latest number of a class, or 0. -/
def latest
    (w c : Nat)
    (seen : List Nat) : Nat :=
  seen.foldl (fun last d => if d % w = c then d else last) 0

theorem latest_concat
    (w c : Nat)
    (seen : List Nat)
    (d : Nat) :
    latest w c (seen ++ [d]) =
      if d % w = c then d else latest w c seen := by
  simp [latest]

/- The latest number was seen, in its class. -/
theorem latest_mem
    (w c : Nat)
    (seen : List Nat) :
    latest w c seen = 0 ∨
      latest w c seen ∈ seen ∧ latest w c seen % w = c := by
  induction seen using List.reverseRecOn with
  | nil => exact .inl rfl
  | append_singleton seen d ih =>
      rw [latest_concat]
      split
      case isTrue hClass =>
        exact .inr ⟨by simp, hClass⟩
      case isFalse hOther =>
        rcases ih with hZero | ⟨hSeen, hClass⟩
        · exact .inl hZero
        · exact .inr ⟨List.mem_append_left _ hSeen, hClass⟩

/- No number of the class is later. -/
theorem le_latest
    {w c : Nat}
    {seen : List Nat}
    {d : Nat}
    (hIncreasing : seen.Pairwise (· < ·))
    (hSeen : d ∈ seen)
    (hClass : d % w = c) :
    d ≤ latest w c seen := by
  induction seen using List.reverseRecOn with
  | nil => cases hSeen
  | append_singleton seen e ih =>
      rcases List.pairwise_append.mp hIncreasing with
        ⟨hBefore, -, hBelow⟩
      rw [latest_concat]
      rcases List.mem_append.mp hSeen with hOld | hNew
      · split
        · exact (hBelow d hOld e (by simp)).le
        · exact ih hBefore hOld
      · rw [List.mem_singleton] at hNew
        subst hNew
        rw [if_pos hClass]

/- What was seen is below a new number. -/
theorem latest_lt
    {w c : Nat}
    {seen : List Nat}
    {d : Nat}
    (hPositive : 0 < d)
    (hNew : ∀ e ∈ seen, e < d) :
    latest w c seen < d := by
  rcases latest_mem w c seen with hZero | ⟨hSeen, -⟩
  · rw [hZero]
    exact hPositive
  · exact hNew _ hSeen

------------------------------------------------------------
-- One Window Below
------------------------------------------------------------

section Window

variable {w : Nat}
variable {seen : List Nat}
variable {d : Nat}

/- The latest of the class is at least one window below. -/
theorem window_le_sub_latest
    (hFull : w ≤ d)
    (hPositive : 0 < d)
    (hNew : ∀ e ∈ seen, e < d) :
    w ≤ d - latest w (d % w) seen := by
  have hBelow := @latest_lt w (d % w) _ _ hPositive hNew
  rcases latest_mem w (d % w) seen with hZero | ⟨-, hClass⟩
  · rw [hZero]
    exact hFull
  · have hMultiple :
        w ∣ d - latest w (d % w) seen :=
      (Nat.modEq_iff_dvd' hBelow.le).mp hClass
    exact Nat.le_of_dvd (by omega) hMultiple

/- It is one window below if that number was seen. -/
theorem sub_latest_eq_iff
    (hIncreasing : seen.Pairwise (· < ·))
    (hFirst : 0 ∈ seen)
    (hFull : w ≤ d)
    (hPositive : 0 < d)
    (hNew : ∀ e ∈ seen, e < d) :
    d - latest w (d % w) seen = w ↔ d - w ∈ seen := by
  have hBelow := @latest_lt w (d % w) _ _ hPositive hNew
  have hAtLeast := window_le_sub_latest hFull hPositive hNew
  constructor
  · intro hWindow
    have hIs : d - w = latest w (d % w) seen := by omega
    rw [hIs]
    rcases latest_mem w (d % w) seen with hZero | ⟨hSeen, -⟩
    · rw [hZero]
      exact hFirst
    · exact hSeen
  · intro hSeen
    have hClass : (d - w) % w = d % w :=
      (Nat.mod_eq_sub_mod hFull).symm
    have hLatest := le_latest hIncreasing hSeen hClass
    omega

end Window

end ResidueClasses
