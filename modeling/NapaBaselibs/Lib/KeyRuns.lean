import Mathlib.Data.List.Basic
import Mathlib.Algebra.Order.Group.Int
import Mathlib.Algebra.Order.Group.Nat

/-
  Runs of equal keys in a list that is sorted by key.

  A scan counts the run at the end of what it has seen.  When
  a greater key comes it closes the run, and remembers it if
  it is longer than those before.  The run at the end of the
  list is never closed.

  Key definitions include:
    * `KeyRuns.Scan`
    * `KeyRuns.step`
    * `KeyRuns.Covers`

  Key theorems include:
    * `KeyRuns.Covers.step`
    * `KeyRuns.key_getElem_lt_iff`
    * `KeyRuns.key_of_run`
-/

------------------------------------------------------------
-- The Scan
------------------------------------------------------------

namespace KeyRuns

variable {α : Type}
variable (key : α → ℤ)

/-
  The length of the current run, the longest run closed so
  far (or -1) with its first index, and the least key that
  closes the current run.
-/
structure Scan where
  count : ℤ
  best : ℤ
  start : ℤ
  next : ℤ

/- One more element, at an index. -/
def step
    (i : ℕ)
    (x : α)
    (s : Scan) : Scan :=
  if s.next ≤ key x then
    if s.best < s.count then
      { count := 1
        best := s.count
        start := i - s.count
        next := key x + 1 }
    else
      { s with
        count := 1
        next := key x + 1 }
  else { s with count := s.count + 1 }

/- The elements with a key. -/
def size
    (l : List α)
    (k : ℤ) : ℕ :=
  l.countP (fun x => key x = k)

/- The elements with a key below. -/
def below
    (l : List α)
    (k : ℤ) : ℕ :=
  l.countP (fun x => key x < k)

variable {key}
variable {l seen : List α}
variable {x : α}
variable {k last : ℤ}

theorem size_concat
    (seen : List α)
    (x : α)
    (k : ℤ) :
    size key (seen ++ [x]) k =
      size key seen k + if key x = k then 1 else 0 := by
  simp [size, List.countP_singleton]

theorem below_concat
    (seen : List α)
    (x : α)
    (k : ℤ) :
    below key (seen ++ [x]) k =
      below key seen k + if key x < k then 1 else 0 := by
  simp [below, List.countP_singleton]

/- A greater bound lets in the elements with the key. -/
theorem below_succ
    (l : List α)
    (k : ℤ) :
    below key l (k + 1) = below key l k + size key l k := by
  induction l with
  | nil => rfl
  | cons x l ih =>
      simp only [below, size, List.countP_cons,
        decide_eq_true_eq] at ih ⊢
      split_ifs <;> omega

theorem below_of_top
    (hTop : ∀ x ∈ l, key x ≤ last)
    (hAbove : last < k) :
    below key l k = l.length := by
  rw [below, List.countP_eq_length]
  intro x hIn
  have hLe := hTop x hIn
  simpa using lt_of_le_of_lt hLe hAbove

theorem size_of_top
    (hTop : ∀ x ∈ l, key x ≤ last)
    (hAbove : last < k) :
    size key l k = 0 := by
  rw [size, List.countP_eq_zero]
  intro x hIn hEqual
  have hLe := hTop x hIn
  have hKey : key x = k := by simpa using hEqual
  omega

------------------------------------------------------------
-- What Is Remembered
------------------------------------------------------------

/- The first of the longest runs with keys below `last`. -/
structure Longest
    (key : α → ℤ)
    (seen : List α)
    (last b : ℤ)
    (s : Scan) : Prop where
  closed : b < last
  start : s.start = below key seen b
  best : s.best = size key seen b
  positive : 0 < s.best
  longest : ∀ k < last, (size key seen k : ℤ) ≤ s.best
  first : ∀ k < b, (size key seen k : ℤ) < s.best

theorem Longest.perm
    {l' : List α}
    {b : ℤ}
    {s : Scan}
    (hLongest : Longest key l last b s)
    (hPerm : l.Perm l') :
    Longest key l' last b s := by
  have hSize : ∀ k, size key l' k = size key l k :=
    fun k => (hPerm.countP_eq _).symm
  have hBelow : below key l' b = below key l b :=
    (hPerm.countP_eq _).symm
  refine ⟨hLongest.closed, ?_, ?_, hLongest.positive, ?_, ?_⟩
  · rw [hBelow]
    exact hLongest.start
  · rw [hSize]
    exact hLongest.best
  · intro k hLess
    rw [hSize]
    exact hLongest.longest k hLess
  · intro k hLess
    rw [hSize]
    exact hLongest.first k hLess

/- The state of a scan of sorted elements. -/
structure Covers
    (key : α → ℤ)
    (seen : List α)
    (last : ℤ)
    (s : Scan) : Prop where
  next : s.next = last + 1
  top : ∀ x ∈ seen, key x ≤ last
  count : s.count = size key seen last
  positive : 0 < s.count
  best :
    (s.best = -1 ∧ s.start = 0 ∧ ∀ x ∈ seen, key x = last) ∨
      ∃ b, Longest key seen last b s

/- The state after the first element. -/
theorem Covers.start
    (x : α) :
    Covers key [x] (key x)
      { count := 1
        best := -1
        start := 0
        next := key x + 1 } where
  next := rfl
  top := by simp
  count := by simp [size]
  positive := one_pos
  best := .inl ⟨rfl, rfl, by simp⟩

/- The run at the end is one element longer. -/
theorem Covers.step_same
    {s : Scan}
    (hCovers : Covers key seen last s)
    (hSame : key x = last) :
    Covers key (seen ++ [x]) last (step key seen.length x s) := by
  have hOpen : ¬ s.next ≤ key x := by
    rw [hCovers.next]
    omega
  rw [step, if_neg hOpen]
  refine ⟨hCovers.next, ?_, ?_, ?_, ?_⟩
  · intro y hIn
    rcases List.mem_append.mp hIn with hOld | hNew
    · exact hCovers.top y hOld
    · rw [List.mem_singleton.mp hNew, hSame]
  · rw [size_concat, if_pos hSame]
    push_cast
    rw [← hCovers.count]
  · have hPositive := hCovers.positive
    simp only
    omega
  · rcases hCovers.best with ⟨hNone, hStart, hAll⟩ | ⟨b, hLongest⟩
    · refine .inl ⟨hNone, hStart, ?_⟩
      intro y hIn
      rcases List.mem_append.mp hIn with hOld | hNew
      · exact hAll y hOld
      · rw [List.mem_singleton.mp hNew, hSame]
    · have hClosed := hLongest.closed
      have hStay :
          ∀ k < last, size key (seen ++ [x]) k = size key seen k := by
        intro k hBelow
        rw [size_concat, if_neg (by omega), Nat.add_zero]
      refine .inr ⟨b, hClosed, ?_, ?_, hLongest.positive, ?_, ?_⟩
      · rw [below_concat, if_neg (by omega), Nat.add_zero]
        exact hLongest.start
      · rw [hStay b hClosed]
        exact hLongest.best
      · intro k hBelow
        rw [hStay k hBelow]
        exact hLongest.longest k hBelow
      · intro k hBelow
        rw [hStay k (hBelow.trans hClosed)]
        exact hLongest.first k hBelow

/- A greater key closes the run at the end. -/
theorem Covers.step_greater
    {s : Scan}
    (hCovers : Covers key seen last s)
    (hGreater : last < key x) :
    Covers key (seen ++ [x]) (key x)
      (step key seen.length x s) := by
  have hCloses : s.next ≤ key x := by
    rw [hCovers.next]
    omega
  have hTop :
      ∀ y ∈ seen ++ [x], key y ≤ key x := by
    intro y hIn
    rcases List.mem_append.mp hIn with hOld | hNew
    · exact (hCovers.top y hOld).trans hGreater.le
    · rw [List.mem_singleton.mp hNew]
  have hNewSize : size key (seen ++ [x]) (key x) = 1 := by
    rw [size_concat, if_pos rfl, size_of_top hCovers.top hGreater]
  have hStay :
      ∀ k < key x, size key (seen ++ [x]) k = size key seen k := by
    intro k hBelow
    rw [size_concat, if_neg (by omega), Nat.add_zero]
  have hBelowStay :
      ∀ k ≤ key x, below key (seen ++ [x]) k = below key seen k := by
    intro k hBelow
    rw [below_concat, if_neg (by omega), Nat.add_zero]
  -- keys between the last one and the new one do not occur
  have hBetween :
      ∀ k, last < k → size key seen k = 0 :=
    fun k hAbove => size_of_top hCovers.top hAbove
  have hCount := hCovers.count
  have hPositive := hCovers.positive
  rw [step, if_pos hCloses]
  by_cases hLonger : s.best < s.count
  · rw [if_pos hLonger]
    refine ⟨rfl, hTop, by rw [hNewSize]; rfl, one_pos,
      .inr ⟨last, hGreater, ?_, ?_, hPositive, ?_, ?_⟩⟩
    · have hAll :=
        below_of_top hCovers.top (Int.lt_succ last)
      rw [below_succ] at hAll
      rw [hBelowStay last hGreater.le]
      simp only
      omega
    · rw [hStay last hGreater]
      exact hCount
    · intro k hBelow
      rw [hStay k hBelow]
      simp only
      rcases lt_trichotomy k last with hLess | hEqual | hMore
      · rcases hCovers.best with ⟨-, -, hAll⟩ | ⟨b, hLongest⟩
        · have hZero : size key seen k = 0 := by
            rw [size, List.countP_eq_zero]
            intro y hIn hKey
            have hIs : key y = k := by simpa using hKey
            have hLast := hAll y hIn
            omega
          omega
        · have hLe := hLongest.longest k hLess
          omega
      · rw [hEqual]
        omega
      · have hZero := hBetween k hMore
        omega
    · intro k hBelow
      rw [hStay k (hBelow.trans hGreater)]
      simp only
      rcases hCovers.best with ⟨-, -, hAll⟩ | ⟨b, hLongest⟩
      · have hZero : size key seen k = 0 := by
          rw [size, List.countP_eq_zero]
          intro y hIn hKey
          have hIs : key y = k := by simpa using hKey
          have hLast := hAll y hIn
          omega
        omega
      · have hLe := hLongest.longest k hBelow
        omega
  · rw [if_neg hLonger]
    rcases hCovers.best with ⟨hNone, -, -⟩ | ⟨b, hLongest⟩
    · omega
    · have hClosed := hLongest.closed
      refine ⟨rfl, hTop, by rw [hNewSize]; rfl, one_pos,
        .inr ⟨b, hClosed.trans hGreater, ?_, ?_,
          hLongest.positive, ?_, ?_⟩⟩
      · rw [hBelowStay b (hClosed.trans hGreater).le]
        exact hLongest.start
      · rw [hStay b (hClosed.trans hGreater)]
        exact hLongest.best
      · intro k hBelow
        rw [hStay k hBelow]
        simp only
        rcases lt_trichotomy k last with hLess | hEqual | hMore
        · exact hLongest.longest k hLess
        · rw [hEqual]
          omega
        · have hZero := hBetween k hMore
          have hBest := hLongest.positive
          omega
      · intro k hBelow
        rw [hStay k (hBelow.trans (hClosed.trans hGreater))]
        exact hLongest.first k hBelow

/- One more element whose key is not below the last one. -/
theorem Covers.step
    {s : Scan}
    (hCovers : Covers key seen last s)
    (hSorted : last ≤ key x) :
    Covers key (seen ++ [x]) (key x)
      (step key seen.length x s) := by
  rcases hSorted.eq_or_lt with hSame | hGreater
  · have hStep := hCovers.step_same hSame.symm
    rw [hSame] at hStep
    exact hStep
  · exact hCovers.step_greater hGreater

------------------------------------------------------------
-- Positions
------------------------------------------------------------

/- In a sorted list the elements below a key come first. -/
theorem key_getElem_lt_iff
    (hSorted : l.Pairwise (fun x y => key x ≤ key y))
    {j : ℕ}
    (hIndex : j < l.length)
    (k : ℤ) :
    key l[j] < k ↔ j < below key l k := by
  induction l generalizing j with
  | nil => cases hIndex
  | cons x l ih =>
      rcases List.pairwise_cons.mp hSorted with ⟨hHead, hTail⟩
      by_cases hBelow : key x < k
      · have hMore : below key (x :: l) k = below key l k + 1 := by
          simp [below, hBelow]
        rw [hMore]
        cases j with
        | zero => simpa using hBelow
        | succ j =>
            have hRest :=
              ih hTail (Nat.lt_of_succ_lt_succ hIndex)
            rw [List.getElem_cons_succ, hRest]
            omega
      · have hNone : below key (x :: l) k = 0 := by
          rw [below, List.countP_eq_zero]
          intro y hIn
          rcases List.mem_cons.mp hIn with hFirst | hLater
          · rw [hFirst]
            simpa using hBelow
          · have hLe := hHead y hLater
            simp only [decide_eq_true_eq]
            omega
        have hIn : (x :: l)[j] ∈ x :: l := List.getElem_mem hIndex
        have hNot : ¬ key (x :: l)[j] < k := by
          rcases List.mem_cons.mp hIn with hFirst | hLater
          · rw [hFirst]
            exact hBelow
          · have hLe := hHead _ hLater
            omega
        rw [hNone]
        simpa using hNot

/- The run of a key is found behind those below it. -/
theorem key_of_run
    (hSorted : l.Pairwise (fun x y => key x ≤ key y))
    {j : ℕ}
    (hIndex : j < l.length)
    (hFrom : below key l k ≤ j)
    (hTo : j < below key l k + size key l k) :
    key l[j] = k := by
  have hNotBelow :=
    (not_congr (key_getElem_lt_iff hSorted hIndex k)).mpr
      (not_lt.mpr hFrom)
  have hNotAbove :=
    (key_getElem_lt_iff hSorted hIndex (k + 1)).mpr
      (by rw [below_succ]; exact hTo)
  omega

end KeyRuns
