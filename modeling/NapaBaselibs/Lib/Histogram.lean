import NapaBaselibs.Lib.KeyRuns
import Mathlib.Algebra.Order.Field.Basic
import Mathlib.Algebra.Order.Floor.Ring

/-
  Bins of one width, and how many numbers lie in each.

  A bin holds its lower end and not its upper one, except
  that nothing is above the last bin.  The key of a number
  says how many widths it is above the lowest bin; a bin but
  the last holds the numbers with one key, and the last those
  with its key or a greater one.

  Key definitions include:
    * `Bins`
    * `Bins.Mem`, `Bins.count`, `Bins.Mode`

  Key theorems include:
    * `Bins.le_key_iff`
    * `Bins.mode_iff_of_longest`
-/

------------------------------------------------------------
-- Bins
------------------------------------------------------------

structure Bins
    (K : Type)
    [Zero K]
    [LT K] where
  low : K
  width : K
  number : ℕ
  width_pos : 0 < width

namespace Bins

variable {K : Type}
variable [Field K] [LinearOrder K]

/- A number is in a bin. -/
def Mem
    (b : Bins K)
    (k : ℕ)
    (x : K) : Prop :=
  b.low + k * b.width ≤ x ∧
    (x < b.low + (k + 1) * b.width ∨ k + 1 = b.number)

instance
    (b : Bins K)
    (k : ℕ)
    (x : K) :
    Decidable (b.Mem k x) :=
  inferInstanceAs (Decidable (_ ∧ _))

/- How many are in a bin. -/
def count
    (b : Bins K)
    (l : List K)
    (k : ℕ) : ℕ :=
  l.countP (fun x => b.Mem k x)

/- The number is in a bin that holds as many as any other. -/
def Mode
    (b : Bins K)
    (l : List K)
    (x : K) : Prop :=
  ∃ k < b.number,
    b.Mem k x ∧ ∀ k' < b.number, b.count l k' ≤ b.count l k

------------------------------------------------------------
-- Keys
------------------------------------------------------------

variable [FloorRing K]

/- How many widths a number is above the lowest bin. -/
def key
    (b : Bins K)
    (x : K) : ℤ :=
  ⌊(x - b.low) / b.width⌋

/- How many of the last bin have a key below this one. -/
def lastBelow
    (b : Bins K)
    (l : List K)
    (top : ℤ) : ℕ :=
  l.countP (fun x => b.Mem (b.number - 1) x ∧ b.key x < top)

variable [IsStrictOrderedRing K]
variable {b : Bins K}
variable {l : List K}
variable {x y : K}
variable {k : ℕ}

theorem le_key_iff
    (b : Bins K)
    (k : ℤ)
    (x : K) :
    k ≤ b.key x ↔ b.low + k * b.width ≤ x := by
  rw [key, Int.le_floor, le_div_iff₀ b.width_pos,
    le_sub_iff_add_le, add_comm]

theorem key_lt_iff
    (b : Bins K)
    (k : ℤ)
    (x : K) :
    b.key x < k ↔ x < b.low + k * b.width := by
  rw [← not_le, ← not_le, le_key_iff]

/- Keys grow with the numbers. -/
theorem key_le_key
    (b : Bins K)
    (hLe : x ≤ y) :
    b.key x ≤ b.key y := by
  rw [le_key_iff]
  exact ((b.le_key_iff _ x).mp le_rfl).trans hLe

theorem mem_iff_key
    (hInner : k + 1 ≠ b.number) :
    b.Mem k x ↔ b.key x = k := by
  have hFrom := b.le_key_iff k x
  have hTo := b.key_lt_iff (k + 1) x
  push_cast at hFrom hTo
  rw [Mem, or_iff_left hInner, ← hFrom, ← hTo]
  omega

theorem mem_last_iff
    (hLast : k + 1 = b.number) :
    b.Mem k x ↔ (k : ℤ) ≤ b.key x := by
  have hFrom := b.le_key_iff k x
  push_cast at hFrom
  rw [Mem, hFrom]
  exact and_iff_left (.inr hLast)

theorem count_eq_size
    (l : List K)
    (hInner : k + 1 ≠ b.number) :
    b.count l k = KeyRuns.size b.key l k := by
  apply List.countP_congr
  intro x hIn
  simpa using mem_iff_key hInner

/- The run of the last bin's own key is part of it. -/
theorem size_le_count
    (l : List K)
    (k : ℕ) :
    KeyRuns.size b.key l k ≤ b.count l k := by
  by_cases hInner : k + 1 = b.number
  · apply List.countP_mono_left
    intro x hIn hKey
    have hSame : b.key x = k := by simpa using hKey
    have hMem := (mem_last_iff hInner).mpr hSame.ge
    simpa using hMem
  · exact (count_eq_size l hInner).ge

------------------------------------------------------------
-- The Longest Run
------------------------------------------------------------

/-
  The first of the longest runs below the top key is in a bin
  that holds as many as any other, exactly if that is so of a
  bin before the last one, or what the last bin has below the
  top key is more than what any other bin has.
-/
theorem mode_iff_of_longest
    {s : KeyRuns.Scan}
    {top c : ℤ}
    (hLongest : KeyRuns.Longest b.key l top c s)
    (hNumber : top ≤ b.number)
    (hTop : (b.number : ℤ) ≤ top + 1)
    (hNonneg : ∀ y ∈ l, 0 ≤ b.key y)
    (hKey : b.key x = c) :
    b.Mode l x ↔
      (∃ k, k + 1 < b.number ∧
          ∀ k' < b.number, b.count l k' ≤ b.count l k) ∨
        ∀ k, k + 1 < b.number → b.count l k < b.lastBelow l top := by
  have hClosed := hLongest.closed
  have hBest := hLongest.best
  have hPositive := hLongest.positive
  -- the run is that of a member, so its key is not negative
  have hSome : 0 ≤ c := by
    have hSize : 0 < KeyRuns.size b.key l c := by omega
    rcases List.countP_pos_iff.mp hSize with ⟨y, hIn, hSame⟩
    have hIs : b.key y = c := by simpa using hSame
    rw [← hIs]
    exact hNonneg y hIn
  rcases Int.eq_ofNat_of_zero_le hSome with ⟨i, hIs⟩
  have hIndex : i < b.number := by omega
  have hMem : b.Mem i x := by
    by_cases hInner : i + 1 = b.number
    · exact (mem_last_iff hInner).mpr (by omega)
    · exact (mem_iff_key hInner).mpr (by omega)
  have hUnique : ∀ k < b.number, b.Mem k x → k = i := by
    intro k hBelow hIn
    by_cases hInner : k + 1 = b.number
    · have hLe := (mem_last_iff hInner).mp hIn
      omega
    · have hSame := (mem_iff_key hInner).mp hIn
      omega
  have hRun : KeyRuns.size b.key l i = s.best := by
    rw [← hIs]
    exact hBest.symm
  have hRuns :
      ∀ k, k + 1 < b.number → (b.count l k : ℤ) ≤ s.best := by
    intro k hInner
    rw [count_eq_size l hInner.ne]
    exact hLongest.longest k (by omega)
  constructor
  · rintro ⟨k, hBelow, hIn, hMost⟩
    have hSame := hUnique k hBelow hIn
    subst hSame
    by_cases hInner : k + 1 = b.number
    · refine .inr (fun k' hOther => ?_)
      have hPart :
          KeyRuns.size b.key l k ≤ b.lastBelow l top := by
        apply List.countP_mono_left
        intro y hMember hKeyIs
        have hEqual : b.key y = k := by simpa using hKeyIs
        have hLast : b.number - 1 = k := by omega
        rw [hLast]
        have hMemLast := (mem_last_iff hInner).mpr hEqual.ge
        simp only [decide_eq_true_eq]
        exact ⟨hMemLast, by omega⟩
      have hLess := hLongest.first k' (by omega)
      rw [← count_eq_size l hOther.ne] at hLess
      omega
    · exact .inl ⟨k, by omega, hMost⟩
  · intro hCond
    refine ⟨i, hIndex, hMem, ?_⟩
    have hAtLeast : KeyRuns.size b.key l i ≤ b.count l i :=
      size_le_count l i
    rcases hCond with ⟨k, hInner, hMost⟩ | hLast
    · intro k' hBelow
      have hOne := hMost k' hBelow
      have hTwo := hRuns k hInner
      omega
    · by_cases hInner : i + 1 = b.number
      · intro k' hBelow
        by_cases hSame : k' + 1 = b.number
        · have hEqual : k' = i := by omega
          rw [hEqual]
        · have hOne := hRuns k' (by omega)
          omega
      · -- the last bin has no more below the top than its run
        exfalso
        have hLess := hLast i (by omega)
        rw [count_eq_size l hInner] at hLess
        have hPart :
            b.lastBelow l top ≤
              KeyRuns.size b.key l ((b.number - 1 : ℕ) : ℤ) := by
          apply List.countP_mono_left
          intro y hMember hBoth
          have hSplit :
              b.Mem (b.number - 1) y ∧ b.key y < top := by
            simpa using hBoth
          have hFrom :=
            (mem_last_iff (by omega)).mp hSplit.1
          simp only [decide_eq_true_eq]
          omega
        have hSomeLast : 0 < b.lastBelow l top := by omega
        rcases List.countP_pos_iff.mp hSomeLast with
          ⟨y, hMember, hBoth⟩
        have hSplit :
            b.Mem (b.number - 1) y ∧ b.key y < top := by
          simpa using hBoth
        have hFrom := (mem_last_iff (by omega)).mp hSplit.1
        have hBound :=
          hLongest.longest ((b.number - 1 : ℕ) : ℤ) (by omega)
        omega

end Bins
