import NapaBaselibs.Lib.RingBuffer
import NapaBaselibs.Lib.SampleStats
import NapaBaselibs.MONL.ResultBuffer
import Mathlib.Data.Rat.Defs
import Mathlib.Algebra.Field.Rat
import Mathlib.Algebra.Order.Ring.Unbundled.Rat
import Mathlib.Algebra.CharZero.Defs
import Mathlib.Data.Rat.Cast.CharZero
import Mathlib.Tactic.Linarith

/-
  The window of a result buffer.

  A buffer represents a list of samples if its circular
  buffer holds them up to the position that is written next
  and its window sum is theirs.  Each operation is described
  by what it does to that list: a sample is put at its end
  and may push out the first one, a resize keeps the last
  ones, and a publication changes nothing.  The statistics
  of the window are then those of the list.

  Key definitions include:
    * `Totals`, `ResultBuffer.Represents`

  Key theorems include:
    * `Represents.newSampleWin`, `Represents.resizeBuffer`
    * `Represents.updateStats`
-/

------------------------------------------------------------
-- Publications Keep The Samples
------------------------------------------------------------

namespace NapaBaselibs

namespace MONL

open RingBuffer SampleStats

namespace ResultBuffer

namespace SameSamples

theorem ite
    {b b' b'' : ResultBuffer}
    (p : Prop)
    [Decidable p]
    (hThen : SameSamples b b')
    (hElse : SameSamples b b'') :
    SameSamples b (if p then b' else b'') := by
  split
  · exact hThen
  · exact hElse

theorem foldl
    {ι : Type}
    {f : ResultBuffer → ι → ResultBuffer}
    (hStep : ∀ b i, SameSamples b (f b i))
    (is : List ι)
    (b : ResultBuffer) :
    SameSamples b (is.foldl f b) := by
  induction is generalizing b with
  | nil => exact refl b
  | cons i is ih => exact (hStep b i).trans (ih (f b i))

/- One more statistic is computed. -/
theorem derive
    {b b' : ResultBuffer}
    {st : StatType}
    (r : Result)
    (hSame : SameSamples b b')
    (hDerived : Derived st := by simp [Derived]) :
    SameSamples b (b'.setStat st r) :=
  hSame.trans (setStat b' r hDerived)

theorem scanCell
    (b : ResultBuffer)
    (i : Nat) :
    SameSamples b (b.scanCell i) := by
  unfold ResultBuffer.scanCell
  extract_lets r b₁ b₂
  have hMin : SameSamples b b₁ :=
    ite _ ((refl b).derive _) (refl b)
  have hMax : SameSamples b b₂ :=
    ite _ (hMin.derive _) hMin
  exact hMax.derive _

theorem updateStats
    (b : ResultBuffer) :
    SameSamples b b.updateStats := by
  unfold ResultBuffer.updateStats
  extract_lets b₁ b₂ b₃ b₄ b₅
  have hStart : SameSamples b b₄ :=
    ((((refl b).derive _).derive _).derive _).derive _
  have hScanned : SameSamples b b₅ :=
    hStart.trans (foldl scanCell _ _)
  exact ite _ (hScanned.derive _) (hScanned.derive _)

theorem publishResults
    (m : HostMeasure)
    (out : Surroundings)
    (b : ResultBuffer) :
    SameSamples b (publishResults m out b).1 := by
  unfold ResultBuffer.publishResults
  extract_lets timer b₁ b₂ b₃ published
  have hData :
      SameSamples b { b with newData := false } :=
    ⟨⟨rfl, rfl, rfl, rfl, rfl⟩, ⟨rfl, rfl, rfl, rfl, rfl⟩⟩
  have hUpdated : SameSamples b b₁ :=
    hData.trans (updateStats _)
  have hRate : SameSamples b b₂ :=
    ite _ (hUpdated.derive _) hUpdated
  have hReset : SameSamples b b₃ :=
    hRate.trans
      ⟨⟨rfl, rfl, rfl, rfl, rfl⟩, ⟨rfl, rfl, rfl, rfl, rfl⟩⟩
  split_ifs
  · exact refl b
  · exact refl b
  · exact hUpdated
  · exact hUpdated
  · exact hReset.derive _

end SameSamples

------------------------------------------------------------
-- Sums
------------------------------------------------------------

/- A sum that may be no number before the first sample. -/
def Totals
    (r : Result)
    (xs : List ℚ) : Prop :=
  r = some xs.sum ∨ xs = [] ∧ r = none

theorem Totals.eq_some
    {r : Result}
    {xs : List ℚ}
    (hTotals : Totals r xs)
    (hSome : xs ≠ []) :
    r = some xs.sum := by
  rcases hTotals with hSum | ⟨hNone, -⟩
  · exact hSum
  · exact absurd hNone hSome

theorem Totals.accumulate
    {r : Result}
    {xs : List ℚ}
    (x : ℚ)
    (hTotals : Totals r xs) :
    accumulate r (some x) = some (xs ++ [x]).sum := by
  rcases hTotals with rfl | ⟨rfl, rfl⟩
  · simp [MONL.accumulate, plus, arith]
  · simp [MONL.accumulate]

------------------------------------------------------------
-- One Sample In The Window
------------------------------------------------------------

@[simp] theorem newSampleWin_size
    (b : ResultBuffer)
    (r : Result) :
    (b.newSampleWin r).size = b.size := by
  unfold newSampleWin
  split <;> rfl

@[simp] theorem newSampleWin_samples
    (b : ResultBuffer)
    (r : Result) :
    (b.newSampleWin r).samples = b.samples := by
  unfold newSampleWin
  split <;> rfl

theorem newSampleWin_circularBuffer
    (b : ResultBuffer)
    (r : Result) :
    (b.newSampleWin r).circularBuffer =
      b.circularBuffer.set b.pos r := by
  unfold newSampleWin
  split <;> rfl

theorem newSampleWin_pos
    (b : ResultBuffer)
    (r : Result) :
    (b.newSampleWin r).pos = advance b.size b.pos := by
  unfold newSampleWin
  split <;> rfl

theorem newSampleWin_nSamples
    (b : ResultBuffer)
    (r : Result) :
    (b.newSampleWin r).nSamples =
      if b.nSamples < b.size then b.nSamples + 1
      else b.nSamples := by
  unfold newSampleWin
  split <;> rfl

/- Only the sum of the window changes. -/
theorem newSampleWin_stats
    (b : ResultBuffer)
    (r : Result)
    {st : StatType}
    (hOther : st ≠ .winSum) :
    (b.newSampleWin r).stats st = b.stats st := by
  unfold newSampleWin
  split <;> simp [hOther]

------------------------------------------------------------
-- Represented Samples
------------------------------------------------------------

/- The buffer holds the samples, the oldest first. -/
structure Represents
    (b : ResultBuffer)
    (w : List ℚ) : Prop where
  length : b.circularBuffer.length = b.size
  pos_lt : b.pos < b.size
  count : b.nSamples = w.length
  count_le : w.length ≤ b.size
  cells :
    window b.circularBuffer b.pos w.length = w.map some
  winSum : Totals (b.stats .winSum) w

namespace Represents

variable {b b' : ResultBuffer}
variable {w : List ℚ}

/- What the buffer holds only depends on its window. -/
theorem of_same
    (hHolds : Represents b w)
    (hSame : SameWindow b b') :
    Represents b' w where
  length := by
    rw [hSame.circularBuffer, hSame.size]
    exact hHolds.length
  pos_lt := by
    rw [hSame.pos, hSame.size]
    exact hHolds.pos_lt
  count := hSame.nSamples.trans hHolds.count
  count_le := by
    rw [hSame.size]
    exact hHolds.count_le
  cells := by
    rw [hSame.circularBuffer, hSame.pos]
    exact hHolds.cells
  winSum := by
    rw [hSame.winSum]
    exact hHolds.winSum

/- The cell read backwards from the position. -/
theorem cell_wrapped
    (hHolds : Represents b w)
    {back : Nat}
    (hFirst : 1 ≤ back)
    (hBack : back ≤ w.length) :
    b.cell (wrapped b.size (b.pos - back)) =
      w[w.length - back]? := by
  have hLength := hHolds.length
  have hPos := hHolds.pos_lt
  have hCount := hHolds.count_le
  have hIndex :
      (wrapped b.size (b.pos - back)).toNat =
        if b.pos < back then
          b.pos + b.circularBuffer.length - back
        else b.pos - back := by
    rw [hLength, wrapped]
    split <;> split <;> omega
  have hRead :=
    @window_get _ b.circularBuffer b.pos _ _
      (by omega) (by omega) hFirst hBack
  rw [cell, hIndex, ← hRead, hHolds.cells,
    List.getElem?_map]
  cases w[w.length - back]? <;> rfl

/- The first sample is in the cell that is written next. -/
theorem cell_pos
    {y : ℚ}
    {ys : List ℚ}
    (hHolds : Represents b (y :: ys))
    (hFull : b.size ≤ (y :: ys).length) :
    b.cell b.pos = some y := by
  have hCount := hHolds.count_le
  have hPos := hHolds.pos_lt
  have hRead :=
    @cell_wrapped b _ hHolds b.size (by omega) hFull
  have hIndex :
      wrapped b.size (b.pos - b.size) = (b.pos : Int) := by
    rw [wrapped, if_pos (by omega)]
    omega
  rw [hIndex] at hRead
  rw [hRead, Nat.sub_eq_zero_of_le hCount]
  rfl

/- The window sum after a sample. -/
theorem winSum_newSampleWin
    (hHolds : Represents b w)
    (x : ℚ) :
    (b.newSampleWin (some x)).stats .winSum =
      some (lastN b.size (w ++ [x])).sum := by
  have hCount := hHolds.count
  unfold ResultBuffer.newSampleWin
  extract_lets b₁ b₂
  have hStat :
      b₂.stats .winSum =
        accumulate (b₁.stats .winSum) (some x) := by
    simp only [b₂, setStat_stats, if_true]
  change b₂.stats .winSum = _
  rw [hStat]
  by_cases hRoom : b.nSamples < b.size
  · have hShort : (w ++ [x]).length ≤ b.size := by
      rw [List.length_append, List.length_singleton]
      omega
    have hSame : b₁.stats .winSum = b.stats .winSum := by
      simp only [b₁, if_pos hRoom]
    rw [hSame, hHolds.winSum.accumulate,
      lastN_of_length_le hShort]
  · cases w with
    | nil =>
        have hPos := hHolds.pos_lt
        rw [List.length_nil] at hCount
        omega
    | cons y ys =>
        have hFull : b.size ≤ (y :: ys).length := by omega
        have hLess :
            b₁.stats .winSum = some ys.sum := by
          simp only [b₁, if_neg hRoom, setStat_stats,
            if_true]
          rw [hHolds.winSum.eq_some (List.cons_ne_nil y ys),
            hHolds.cell_pos hFull]
          simp [minus, arith]
        have hKept :
            lastN b.size (y :: ys ++ [x]) = ys ++ [x] := by
          have hCountLe := hHolds.count_le
          rw [List.length_cons] at hFull hCountLe
          rw [List.cons_append, lastN_cons y (by simp; omega),
            lastN_of_length_le (by simp; omega)]
        rw [hLess, hKept]
        exact Totals.accumulate x (.inl rfl)

/- A sample is put at the end of the window. -/
theorem newSampleWin
    (hHolds : Represents b w)
    (x : ℚ) :
    Represents (b.newSampleWin (some x))
      (lastN b.size (w ++ [x])) := by
  have hLength := hHolds.length
  have hPos := hHolds.pos_lt
  have hCount := hHolds.count
  have hCountLe := hHolds.count_le
  have hKept :
      (lastN b.size (w ++ [x])).length =
        min (w.length + 1) b.circularBuffer.length := by
    rw [length_lastN, List.length_append,
      List.length_singleton, hLength, Nat.min_comm]
  constructor
  case length =>
    rw [newSampleWin_circularBuffer, List.length_set,
      newSampleWin_size]
    exact hLength
  case pos_lt =>
    rw [newSampleWin_pos, newSampleWin_size]
    exact advance_lt hPos
  case count =>
    rw [newSampleWin_nSamples, hKept]
    split <;> omega
  case count_le =>
    rw [newSampleWin_size, hKept]
    omega
  case cells =>
    rw [newSampleWin_circularBuffer, newSampleWin_pos, hKept,
      ← hLength, window_push (some x) (by omega),
      hHolds.cells, map_lastN, List.map_append]
    rfl
  case winSum =>
    exact .inl (hHolds.winSum_newSampleWin x)

/- Samples that fit are put at the end one by one. -/
theorem foldl_newSampleWin
    (xs : List ℚ)
    (hHolds : Represents b w)
    (hFit : w.length + xs.length ≤ b.size) :
    Represents
      ((xs.map some).foldl ResultBuffer.newSampleWin b)
      (w ++ xs) := by
  induction xs generalizing b w with
  | nil => simpa using hHolds
  | cons x xs ih =>
      rw [List.length_cons] at hFit
      have hNext := hHolds.newSampleWin x
      rw [lastN_of_length_le (by simp; omega)] at hNext
      rw [List.map_cons, List.foldl_cons,
        List.append_cons]
      exact ih hNext (by simp; omega)

------------------------------------------------------------
-- Resizing
------------------------------------------------------------

/- The cells that a resize reads are the last samples. -/
theorem cells_resized
    (hHolds : Represents b w)
    {n : Nat}
    (hFew : n ≤ w.length) :
    (List.range n).map
        (fun i : Nat =>
          b.cell (wrapped b.size (b.pos - n + i))) =
      (lastN n w).map some := by
  apply List.ext_getElem?
  intro i
  rw [List.getElem?_map, List.getElem?_map]
  by_cases hIn : i < n
  · have hBack :
        ((b.pos : Int) - n + i) = b.pos - (n - i : Nat) := by
      omega
    have hIndex : w.length - (n - i) = w.length - n + i := by
      omega
    have hIs : w.length - n + i < w.length := by omega
    rw [List.getElem?_range hIn, Option.map_some, hBack,
      hHolds.cell_wrapped (by omega) (by omega), hIndex,
      lastN, List.getElem?_drop, List.getElem?_eq_getElem hIs]
    rfl
  · have hLength := length_lastN n w
    rw [List.getElem?_eq_none (by simpa using hIn),
      List.getElem?_eq_none (by omega)]
    rfl

/- A resize keeps the last samples that fit. -/
theorem resizeBuffer
    (hHolds : Represents b w)
    (s : Nat)
    (memory : Nat → Result)
    (hSize : 1 ≤ s) :
    Represents (b.resizeBuffer s memory) (lastN s w) := by
  have hCount := hHolds.count
  have hCountLe := hHolds.count_le
  unfold ResultBuffer.resizeBuffer
  split
  case isTrue hSame =>
    rw [lastN_of_length_le (by omega)]
    exact hHolds
  case isFalse hOther =>
    extract_lets nSam emptied
    have hFew : nSam = min s w.length := by omega
    have hEmpty :
        Represents (emptied.setStat .winSum (some 0)) [] := by
      constructor
      case length => simp [emptied]
      case pos_lt => exact hSize
      case count => rfl
      case count_le => exact Nat.zero_le _
      case cells => rw [List.length_nil, window_zero]; rfl
      case winSum => exact .inl rfl
    have hFilled :=
      hEmpty.foldl_newSampleWin (lastN nSam w) (by
        rw [length_lastN]
        change 0 + min nSam w.length ≤ s
        omega)
    rw [← hHolds.cells_resized (by omega),
      List.foldl_map, List.nil_append, hFew,
      lastN_min_length] at hFilled
    rw [hFew]
    exact hFilled

end Represents

------------------------------------------------------------
-- The Scan Of The Window
------------------------------------------------------------

/- What one cell does to the statistics of the window. -/
theorem scanCell_stats
    {b : ResultBuffer}
    {i : Nat}
    {x least greatest v c : ℚ}
    (hCell : b.cell (wrapped b.size (b.pos - i)) = some x)
    (hMin : b.stats .winMin = some least)
    (hMax : b.stats .winMax = some greatest)
    (hVar : b.stats .winVar = some v)
    (hAvg : b.stats .winAvg = some c) :
    (b.scanCell i).stats .winMin =
        some (if x < least then x else least) ∧
      (b.scanCell i).stats .winMax =
        some (if greatest < x then x else greatest) ∧
      (b.scanCell i).stats .winVar =
        some (v + (x - c) ^ 2) ∧
      (b.scanCell i).stats .winAvg = some c := by
  have hSquare : (c - x) * (c - x) = (x - c) ^ 2 := by ring
  unfold scanCell
  rw [hCell]
  extract_lets r b₁ b₂
  have hFirst :
      b₁.stats .winMin = some (if x < least then x else least) ∧
        b₁.stats .winMax = some greatest ∧
        b₁.stats .winVar = some v ∧
        b₁.stats .winAvg = some c := by
    by_cases hLess : x < least
    · simp [b₁, r, hMin, hMax, hVar, hAvg, less, hLess]
    · simp [b₁, r, hMin, hMax, hVar, hAvg, less, hLess]
  rcases hFirst with ⟨hMin₁, hMax₁, hVar₁, hAvg₁⟩
  have hSecond :
      b₂.stats .winMin = b₁.stats .winMin ∧
        b₂.stats .winMax =
          some (if greatest < x then x else greatest) ∧
        b₂.stats .winVar = some v ∧
        b₂.stats .winAvg = some c := by
    by_cases hLess : greatest < x
    · simp [b₂, r, hMax₁, hVar₁, hAvg₁, less, hLess]
    · simp [b₂, r, hMax₁, hVar₁, hAvg₁, less, hLess]
  rcases hSecond with ⟨hMin₂, hMax₂, hVar₂, hAvg₂⟩
  simp [hMin₂, hMin₁, hMax₂, hVar₂, hAvg₂, r, plus, minus,
    times, squared, arith, hSquare]

/- The statistics after a scan of some cells. -/
theorem scan_stats
    {is : List Nat}
    {xs : List ℚ}
    {b : ResultBuffer}
    {least greatest v c : ℚ}
    (hCells :
      is.map (fun i : Nat =>
        b.cell (wrapped b.size (b.pos - i))) = xs.map some)
    (hMin : b.stats .winMin = some least)
    (hMax : b.stats .winMax = some greatest)
    (hVar : b.stats .winVar = some v)
    (hAvg : b.stats .winAvg = some c) :
    (is.foldl scanCell b).stats .winMin =
        some (xs.foldl
          (fun least x => if x < least then x else least)
          least) ∧
      (is.foldl scanCell b).stats .winMax =
        some (xs.foldl
          (fun greatest x =>
            if greatest < x then x else greatest)
          greatest) ∧
      (is.foldl scanCell b).stats .winVar =
        some (v + squares xs c) ∧
      (is.foldl scanCell b).stats .winAvg = some c := by
  induction is generalizing xs b least greatest v with
  | nil =>
      cases xs with
      | nil => simp [hMin, hMax, hVar, hAvg, squares]
      | cons x xs => cases hCells
  | cons i is ih =>
      cases xs with
      | nil => cases hCells
      | cons x xs =>
          rw [List.map_cons, List.map_cons] at hCells
          injection hCells with hCell hRest
          rcases scanCell_stats hCell hMin hMax hVar hAvg with
            ⟨hMin', hMax', hVar', hAvg'⟩
          have hSame := SameSamples.scanCell b i
          have hRead :
              ∀ j : Int, (b.scanCell i).cell j = b.cell j := by
            intro j
            rw [cell, cell, hSame.circularBuffer]
          have hCells' :
              is.map (fun i' : Nat =>
                  (b.scanCell i).cell
                    (wrapped (b.scanCell i).size
                      ((b.scanCell i).pos - i'))) =
                xs.map some := by
            simp only [hRead, hSame.size, hSame.pos]
            exact hRest
          have hTail := ih hCells' hMin' hMax' hVar' hAvg'
          have hSum :
              v + (x - c) ^ 2 + squares xs c =
                v + squares (x :: xs) c := by
            simp [squares, add_assoc]
          rw [hSum] at hTail
          exact hTail

/- The scan reads the samples of the window backwards. -/
theorem Represents.cells_scanned
    {b : ResultBuffer}
    {w : List ℚ}
    (hHolds : Represents b w) :
    (List.range' 1 w.length).map
        (fun i : Nat => b.cell (wrapped b.size (b.pos - i))) =
      w.reverse.map some := by
  apply List.ext_getElem?
  intro i
  rw [List.getElem?_map, List.getElem?_map]
  by_cases hIn : i < w.length
  · have hIndex : w.length - 1 - i = w.length - (1 + i) := by
      omega
    have hIs : w.length - (1 + i) < w.length := by omega
    rw [List.getElem?_range' hIn, Option.map_some,
      Nat.one_mul, hHolds.cell_wrapped (by omega) (by omega),
      List.getElem?_reverse hIn, hIndex,
      List.getElem?_eq_getElem hIs]
    rfl
  · rw [List.getElem?_eq_none (by simpa using hIn),
      List.getElem?_eq_none (by simpa using hIn)]
    rfl

/- What `updateStats` makes of the samples of the window. -/
structure Summarised
    (b : ResultBuffer)
    (w : List ℚ) : Prop where
  winSum : b.stats .winSum = some w.sum
  winAvg : b.stats .winAvg = some (mean w)
  winMin :
    ∃ least,
      b.stats .winMin = some least ∧
        IsLeast {x | x ∈ w} least
  winMax :
    ∃ greatest,
      b.stats .winMax = some greatest ∧
        IsGreatest {x | x ∈ w} greatest
  winVar :
    1 < w.length → b.stats .winVar = some (variance w)

/- The statistics of the window are those of its samples. -/
theorem Represents.updateStats
    {b : ResultBuffer}
    {w : List ℚ}
    {x : ℚ}
    (hHolds : Represents b w)
    (hIn : x ∈ w)
    (hLast : b.stats .last = some x) :
    Summarised b.updateStats w := by
  have hSome := List.ne_nil_of_mem hIn
  have hLength : (w.length : ℚ) ≠ 0 := by
    simpa [List.length_eq_zero_iff] using hSome
  have hSum := hHolds.winSum.eq_some hSome
  have hCount := hHolds.count
  have hSameEnd := SameSamples.updateStats b
  have hAvg :
      quotient (b.stats .winSum) (some b.nSamples) =
        some (mean w) := by
    simp [quotient, arith, hSum, hCount, hLength, mean]
  -- the scan visits the samples from the newest on
  have hMembers :
      {y | y ∈ x :: w.reverse} = {y | y ∈ w} := by
    ext y
    simp only [Set.mem_ofPred_eq, List.mem_cons,
      List.mem_reverse]
    constructor
    · rintro (rfl | hMem)
      · exact hIn
      · exact hMem
    · exact .inr
  have hLeast := foldl_isLeast w.reverse x
  have hGreatest := foldl_isGreatest w.reverse x
  rw [hMembers] at hLeast hGreatest
  revert hSameEnd
  unfold ResultBuffer.updateStats
  extract_lets b₁ b₂ b₃ b₄ b₅
  intro hSameEnd
  have hSame₄ : SameSamples b b₄ :=
    (((SameSamples.refl b).derive _).derive _).derive _
      |>.derive _
  have hCount₄ : b₄.nSamples = w.length :=
    hSame₄.nSamples.trans hCount
  have hCells := (hHolds.of_same hSame₄.toSameWindow).cells_scanned
  rw [← hCount₄] at hCells
  have hMin₄ : b₄.stats .winMin = some x := by
    simp [b₄, b₃, b₂, b₁, hLast]
  have hMax₄ : b₄.stats .winMax = some x := by
    simp [b₄, b₃, b₂, b₁, hLast]
  have hVar₄ : b₄.stats .winVar = some 0 := by
    simp [b₄]
  have hAvg₄ : b₄.stats .winAvg = some (mean w) := by
    simp [b₄, b₃, b₂, b₁, hAvg]
  rcases scan_stats hCells hMin₄ hMax₄ hVar₄ hAvg₄ with
    ⟨hMin, hMax, hVar, hAvg₅⟩
  have hCount₅ : b₅.nSamples = w.length :=
    (SameSamples.foldl SameSamples.scanCell _ b₄).nSamples.trans
      hCount₄
  rw [zero_add, squares_reverse] at hVar
  constructor
  case winSum =>
    rw [hSameEnd.winSum]
    exact hSum
  case winAvg =>
    split <;> simpa using hAvg₅
  case winMin =>
    refine ⟨_, ?_, hLeast⟩
    split <;> simpa using hMin
  case winMax =>
    refine ⟨_, ?_, hGreatest⟩
    split <;> simpa using hMax
  case winVar =>
    intro hMany
    have hFactor : (w.length : ℚ) - 1 ≠ 0 := by
      have hCast : (1 : ℚ) < w.length := by exact_mod_cast hMany
      linarith
    rw [if_pos (by omega), setStat_stats, if_pos rfl, hCount₅]
    change quotient (b₅.stats .winVar) _ = _
    rw [hVar]
    simp [quotient, arith, variance, hFactor]

end ResultBuffer

end MONL

end NapaBaselibs
