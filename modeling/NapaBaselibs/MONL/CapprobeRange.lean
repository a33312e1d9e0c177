import NapaBaselibs.MONL.Capprobe
import Mathlib.Algebra.Order.Floor.Ring
import Mathlib.Data.List.ReduceOption
import Mathlib.Data.Rat.Floor
import Mathlib.Tactic.FieldSimp
import Mathlib.Tactic.Linarith
import Mathlib.Tactic.NormNum
import Mathlib.Tactic.Positivity

/-
  `computeCapacity` ends, and reads a sample that is there.

  The samples lie between `min_ipd` and `max_ipd` in every
  state that is reached.  If these two differ, the threshold
  is above all samples after as many intervals as there are,
  and the index that is chosen lies in a run of samples that
  was counted.  If they are equal, the interval is 0 and the
  threshold never gets past the first sample.

  Key definitions include:
    * `CapprobeMeasure.Ranged`
    * `CapprobeMeasure.gaps`, `CapprobeMeasure.Spread`

  Key theorems include:
    * `CapprobeMeasure.Reachable.ranged`
    * `CapprobeMeasure.pdfLoop_index`
    * `capacity_in_range_iff`
-/

------------------------------------------------------------
-- The Range Of The Samples
------------------------------------------------------------

namespace NapaBaselibs

namespace MONL

namespace CapprobeMeasure

variable {fuel : Nat}
variable {p : CapprobeParams}
variable {r : CapprobeResults}
variable {m m' : CapprobeMeasure}
variable {delay1 delay2 ipg size cap : Result}

/-
  There are no extremes and no samples, or the samples lie
  between the extremes.
-/
def Ranged (m : CapprobeMeasure) : Prop :=
  (m.minIpd = none ∧ m.maxIpd = none ∧ m.samples = []) ∨
    ∃ lo hi,
      m.minIpd = some lo ∧ m.maxIpd = some hi ∧ lo ≤ hi ∧
        ∀ sample ∈ m.samples, lo ≤ sample ∧ sample ≤ hi

/- The least so far, with one more. -/
theorem addGap_minIpd
    (m : CapprobeMeasure)
    (gap : ℚ) :
    (m.addGap gap).minIpd =
      some (m.minIpd.elim gap (min · gap)) := by
  unfold addGap
  cases hLeast : m.minIpd with
  | none => simp
  | some lo =>
      by_cases hLess : gap < lo
      · simp [less, hLess, min_eq_right hLess.le]
      · simp [less, hLess, min_eq_left (not_lt.mp hLess)]

/- The greatest so far, with one more. -/
theorem addGap_maxIpd
    (m : CapprobeMeasure)
    (gap : ℚ) :
    (m.addGap gap).maxIpd =
      some (m.maxIpd.elim gap (max · gap)) := by
  unfold addGap
  cases hGreatest : m.maxIpd with
  | none => simp
  | some hi =>
      by_cases hLess : hi < gap
      · simp [less, hLess, max_eq_right hLess.le]
      · simp [less, hLess, max_eq_left (not_lt.mp hLess)]

theorem Ranged.addGap
    (hRanged : Ranged m)
    (gap : ℚ) :
    Ranged (m.addGap gap) := by
  refine .inr
    ⟨_, _, addGap_minIpd m gap, addGap_maxIpd m gap, ?_⟩
  rw [addGap_samples]
  rcases hRanged with ⟨hMin, hMax, hNone⟩ | ⟨lo, hi, hMin, hMax,
    hOrder, hSamples⟩
  · rw [hMin, hMax, hNone]
    simp
  · rw [hMin, hMax]
    refine ⟨(min_le_right lo gap).trans (le_max_right hi gap), ?_⟩
    intro sample hIn
    rcases List.mem_append.mp hIn with hOld | hNew
    · rcases hSamples sample hOld with ⟨hLower, hUpper⟩
      exact ⟨(min_le_left lo gap).trans hLower,
        hUpper.trans (le_max_left hi gap)⟩
    · rw [List.mem_singleton.mp hNew]
      exact ⟨min_le_right lo gap, le_max_right hi gap⟩

theorem Ranged.collect
    (hRanged : Ranged m)
    (p : CapprobeParams)
    (delay1 delay2 ipg : Result) :
    Ranged (m.collect p delay1 delay2 ipg) := by
  unfold CapprobeMeasure.collect
  cases m.entering p delay1 delay2 ipg with
  | none => exact hRanged
  | some gap => exact hRanged.addGap gap

theorem Ranged.computeCapacity
    (hRanged : Ranged m)
    (hOk :
      m.computeCapacity fuel p delay1 delay2 ipg size =
        .ok (m', cap)) :
    Ranged m' := by
  rcases computeCapacity_cases hOk with
    ⟨-, hAfter⟩ | ⟨-, hAfter⟩
  · rw [hAfter]
    exact .inl ⟨rfl, rfl, rfl⟩
  · rw [hAfter]
    exact hRanged.collect p delay1 delay2 ipg

theorem Ranged.receive
    {pn : Result}
    (hRanged : Ranged m)
    (hOk : m.receive fuel p pn size r = .ok (m', cap)) :
    Ranged m' := by
  have hNoted : Ranged (m.noteDelay r) := hRanged
  simp only [CapprobeMeasure.receive] at hOk
  split at hOk
  · next after value hComputed =>
      injection hOk with hPair
      injection hPair with hState hCap
      rw [← hState]
      split at hComputed
      · have hAfter : Ranged after :=
          hNoted.computeCapacity hComputed
        exact hAfter
      · injection hComputed with hPair
        injection hPair with hSame
        rw [← hSame]
        exact hNoted
  · cases hOk

theorem Ranged.step
    {e : Event}
    (hRanged : Ranged m)
    (hOk : m.step fuel e = .ok (m', cap)) :
    Ranged m' := by
  cases e with
  | paramChange change =>
      injection hOk with hPair
      injection hPair with hState hCap
      rw [← hState]
      cases change with
      | pktTh =>
          rcases hRanged with ⟨hMin, hMax, -⟩ | ⟨lo, hi, hMin, hMax,
            hOrder, -⟩
          · exact .inl ⟨hMin, hMax, rfl⟩
          · refine .inr ⟨lo, hi, hMin, hMax, hOrder, ?_⟩
            intro sample hIn
            cases hIn
      | payloadSize memory => exact hRanged
  | packet handler p r =>
      cases handler with
      | receiveOobData => exact hRanged.receive hOk
      | rxPkt =>
          simp only [CapprobeMeasure.step, rxPkt] at hOk
          split at hOk
          · next after value hReceived =>
              injection hOk with hPair
              injection hPair with hState hCap
              rw [← hState]
              have hAfter : Ranged after :=
                hRanged.receive hReceived
              exact hAfter
          · cases hOk

/- In every state that is reached. -/
theorem Reachable.ranged
    (hReach : Reachable m) : Ranged m := by
  induction hReach with
  | init memory m => exact .inl ⟨rfl, rfl, rfl⟩
  | step hBefore hStep ih => exact ih.step hStep

------------------------------------------------------------
-- The Threshold
------------------------------------------------------------

/- An interval of 0 gets the threshold nowhere. -/
theorem advance_zero
    {sample threshold : ℚ}
    (fuel : Nat)
    (hReached : threshold ≤ sample) :
    advance (some 0) sample fuel (some threshold) = none := by
  induction fuel with
  | zero => rfl
  | succ fuel ih =>
      have hAtLeast :
          atLeast (some sample) (some threshold) = true := by
        simpa [atLeast] using hReached
      rw [advance, if_pos hAtLeast]
      simpa [plus, arith] using ih

/- Otherwise it gets above the sample. -/
theorem advance_spec
    {w sample threshold : ℚ}
    (fuel : Nat)
    (hEnough : sample < threshold + fuel * w) :
    ∃ k : Nat,
      advance (some w) sample (fuel + 1) (some threshold) =
          some (some (threshold + k * w)) ∧
        sample < threshold + k * w ∧
        (k ≠ 0 → threshold + k * w ≤ sample + w) := by
  induction fuel generalizing threshold with
  | zero =>
      have hBelow : sample < threshold := by simpa using hEnough
      refine ⟨0, ?_, by simpa using hBelow,
        fun hZero => absurd rfl hZero⟩
      simp [advance, atLeast, not_le.mpr hBelow]
  | succ fuel ih =>
      by_cases hReached : threshold ≤ sample
      · have hAtLeast :
            atLeast (some sample) (some threshold) = true := by
          simpa [atLeast] using hReached
        have hNext : sample < threshold + w + fuel * w := by
          push_cast at hEnough
          linarith
        rcases ih hNext with ⟨k, hAdvance, hAbove, hNear⟩
        have hSum :
            threshold + w + k * w =
              threshold + ((k + 1 : Nat) : ℚ) * w := by
          push_cast
          ring
        rw [hSum] at hAdvance hAbove hNear
        refine ⟨k + 1, ?_, hAbove, fun _ => ?_⟩
        · rw [advance, if_pos hAtLeast]
          exact hAdvance
        · cases k with
          | zero =>
              push_cast
              linarith
          | succ k => exact hNear (Nat.succ_ne_zero k)
      · have hBelow := not_le.mp hReached
        refine ⟨0, ?_, by simpa using hBelow,
          fun hZero => absurd rfl hZero⟩
        simp [advance, atLeast, hReached]

------------------------------------------------------------
-- The Index
------------------------------------------------------------

/-
  The counters before the sample with index `i`: the current
  run ends there, and the remembered run lies before it.
-/
structure PdfScan.Inside
    (s : PdfScan)
    (i : Nat) : Prop where
  c : 0 ≤ s.c ∧ s.c ≤ i
  best :
    (s.maxC = -1 ∧ s.iMax = 0) ∨
      (0 ≤ s.maxC ∧ 0 ≤ s.iMax ∧ s.iMax + s.maxC < i)

/- A sample keeps that, and the threshold does not go back. -/
theorem pdfStep_spec
    {w low hi sample threshold : ℚ}
    {i : Nat}
    {s : PdfScan}
    (hPositive : 0 < w)
    (hInside : s.Inside i)
    (hThreshold : s.threshold = some threshold)
    (hLow : low ≤ threshold)
    (hSample : sample ≤ hi)
    (hEnough : hi < low + fuel * w) :
    ∃ s' threshold',
      pdfStep (fuel + 1) (some w) i sample s = some s' ∧
        s'.Inside (i + 1) ∧
        s'.threshold = some threshold' ∧ low ≤ threshold' := by
  have hCount := hInside.c
  have hBest := hInside.best
  unfold pdfStep
  by_cases hReached :
      atLeast (some sample) s.threshold = true
  · have hAbove : sample < threshold + fuel * w := by linarith
    rcases advance_spec fuel hAbove with
      ⟨k, hAdvance, hPast, -⟩
    have hStay : low ≤ threshold + k * w := by
      have hNonneg : (0 : ℚ) ≤ k * w := by positivity
      linarith
    rw [if_pos hReached]
    by_cases hLonger : s.maxC < s.c
    · simp only [if_pos hLonger, hThreshold, hAdvance,
        Option.map_some]
      refine ⟨_, _, rfl, ⟨⟨by simp, by simp⟩, .inr ?_⟩, rfl,
        hStay⟩
      simp only
      push_cast
      omega
    · simp only [if_neg hLonger, hThreshold, hAdvance,
        Option.map_some]
      refine ⟨_, _, rfl, ⟨⟨by simp, by simp⟩, ?_⟩, rfl, hStay⟩
      simp only
      push_cast
      omega
  · rw [if_neg hReached]
    refine ⟨_, threshold, rfl, ⟨?_, ?_⟩, hThreshold, hLow⟩
    · simp only
      push_cast
      omega
    · simp only
      push_cast
      omega

/- The whole loop returns. -/
theorem pdfLoop_spec
    {w low hi threshold : ℚ}
    {samples : List ℚ}
    {i : Nat}
    {s : PdfScan}
    (hPositive : 0 < w)
    (hInside : s.Inside i)
    (hThreshold : s.threshold = some threshold)
    (hLow : low ≤ threshold)
    (hSamples : ∀ sample ∈ samples, sample ≤ hi)
    (hEnough : hi < low + fuel * w) :
    ∃ s',
      pdfLoop (fuel + 1) (some w) i samples s = some s' ∧
        s'.Inside (i + samples.length) := by
  induction samples generalizing i s threshold with
  | nil => exact ⟨s, rfl, hInside⟩
  | cons sample samples ih =>
      rcases pdfStep_spec hPositive hInside hThreshold hLow
          (hSamples sample (List.mem_cons_self ..)) hEnough with
        ⟨s', threshold', hStep, hInside', hThreshold', hLow'⟩
      rcases ih hInside' hThreshold' hLow'
          (fun x hIn => hSamples x (List.mem_cons_of_mem _ hIn))
        with ⟨s'', hLoop, hInside''⟩
      refine ⟨s'', ?_, ?_⟩
      · rw [pdfLoop, hStep]
        exact hLoop
      · rw [List.length_cons]
        have hSum :
            i + (samples.length + 1) = i + 1 + samples.length := by
          omega
        rw [hSum]
        exact hInside''

/- The index of a scan lies among the samples. -/
theorem PdfScan.Inside.index
    {s : PdfScan}
    {n : Nat}
    (hInside : s.Inside n)
    (hSome : 0 < n) :
    0 ≤ s.iMax + s.maxC.tdiv 2 ∧ s.iMax + s.maxC.tdiv 2 < n := by
  rcases hInside.best with ⟨hMax, hIndex⟩ | ⟨hMax, hIndex, hEnd⟩
  · rw [hMax, hIndex]
    have hHalf : (-1 : Int).tdiv 2 = 0 := by decide
    rw [hHalf]
    omega
  · rw [Int.tdiv_eq_ediv_of_nonneg hMax]
    omega

/- The interval of a range. -/
theorem interval_eq
    {lo hi : ℚ}
    (hLo : m.minIpd = some lo)
    (hHi : m.maxIpd = some hi)
    (hIntervals : 1 ≤ p.numIntervals) :
    m.interval p = some ((hi - lo) / p.numIntervals) := by
  have hNonzero : p.numIntervals ≠ 0 := by linarith
  rw [interval, hLo, hHi]
  simp [quotient, minus, arith, hNonzero]

/- With two different extremes the filter 0 finds an index. -/
theorem pdfLoop_index
    {lo hi : ℚ}
    {samples : List ℚ}
    (hLo : m.minIpd = some lo)
    (hHi : m.maxIpd = some hi)
    (hSpread : lo < hi)
    (hSamples : ∀ sample ∈ samples, sample ≤ hi)
    (hSome : samples ≠ [])
    (hIntervals : 1 ≤ p.numIntervals) :
    ∃ fuel j,
      m.pdfIndex fuel p samples = some j ∧
        0 ≤ j ∧ j < samples.length := by
  have hPositiveN : 0 < p.numIntervals := by linarith
  have hPositive : 0 < (hi - lo) / p.numIntervals :=
    div_pos (by linarith) hPositiveN
  have hWhole :
      (hi - lo) / p.numIntervals * p.numIntervals = hi - lo :=
    div_mul_cancel₀ _ hPositiveN.ne'
  have hCeil : p.numIntervals ≤ (⌈p.numIntervals⌉₊ : ℚ) :=
    Nat.le_ceil _
  have hEnough :
      hi <
        lo + (hi - lo) / p.numIntervals +
          ⌈p.numIntervals⌉₊ * ((hi - lo) / p.numIntervals) := by
    have hMore :=
      mul_le_mul_of_nonneg_right hCeil hPositive.le
    linarith
  have hStart :
      PdfScan.Inside
        { c := 0
          maxC := -1
          iMax := 0
          threshold :=
            some (lo + (hi - lo) / p.numIntervals) } 0 :=
    ⟨by simp, .inl ⟨rfl, rfl⟩⟩
  rcases pdfLoop_spec hPositive hStart rfl le_rfl hSamples
      hEnough with
    ⟨s, hLoop, hInside⟩
  rw [Nat.zero_add] at hInside
  refine ⟨⌈p.numIntervals⌉₊ + 1, _, ?_,
    hInside.index (List.length_pos_iff.mpr hSome)⟩
  rw [pdfIndex, interval_eq hLo hHi hIntervals, hLo]
  simp only [plus, arith]
  rw [hLoop]
  rfl

/- With equal extremes the first sample is never passed. -/
theorem pdfIndex_none
    {lo sample : ℚ}
    {samples : List ℚ}
    (fuel : Nat)
    (hLo : m.minIpd = some lo)
    (hHi : m.maxIpd = some lo)
    (hSample : lo ≤ sample)
    (hIntervals : 1 ≤ p.numIntervals) :
    m.pdfIndex fuel p (sample :: samples) = none := by
  rw [pdfIndex, interval_eq hLo hHi hIntervals, hLo]
  simp only [plus, arith, sub_self, zero_div, add_zero]
  have hAtLeast : atLeast (some sample) (some lo) = true := by
    simpa [atLeast] using hSample
  rw [pdfLoop, pdfStep]
  simp [hAtLeast, advance_zero fuel hSample]

/- The index of the filter 1. -/
theorem medianIndex_index
    {samples : List ℚ}
    (hSome : samples ≠ []) :
    0 ≤ medianIndex samples ∧
      medianIndex samples < samples.length := by
  have hLength : 0 < samples.length :=
    List.length_pos_iff.mpr hSome
  have hNonneg : (0 : ℚ) ≤ samples.length * (1 / 10) := by
    positivity
  have hFloor : 0 ≤ ⌊(samples.length : ℚ) * (1 / 10)⌋ :=
    Int.floor_nonneg.mpr hNonneg
  have hUpper :
      ⌊(samples.length : ℚ) * (1 / 10)⌋ ≤ samples.length := by
    have hCast :
        (⌊(samples.length : ℚ) * (1 / 10)⌋ : ℚ) ≤
          (samples.length : Int) := by
      have hLe := Int.floor_le ((samples.length : ℚ) * (1 / 10))
      have hSmall :
          (samples.length : ℚ) * (1 / 10) ≤ samples.length := by
        have hPos : (0 : ℚ) ≤ samples.length := by positivity
        linarith
      push_cast
      linarith
    exact_mod_cast hCast
  rw [medianIndex, truncated_eq_floor hNonneg,
    Int.tdiv_eq_ediv_of_nonneg hFloor]
  omega

/- A sample that is there is read. -/
theorem sampleAt_of_index
    {samples : List ℚ}
    {j : Int}
    (hNonneg : 0 ≤ j)
    (hBelow : j < samples.length) :
    ∃ sample, sampleAt samples j = .ok sample := by
  have hIndex : j.toNat < samples.length := by omega
  refine ⟨samples[j.toNat], ?_⟩
  rw [sampleAt, if_pos hNonneg, List.getElem?_eq_getElem hIndex]

/- The setting of the filter is 0 below 1. -/
theorem filter_cases
    (p : CapprobeParams) :
    (p.filter ≠ 1 ∧ truncated p.filter = 0) ∨
      (p.filter = 1 ∧ truncated p.filter = 1) := by
  rcases lt_or_eq_of_le p.filter_max with hBelow | hOne
  · refine .inl ⟨hBelow.ne, ?_⟩
    rw [truncated_eq_floor p.filter_min, Int.floor_eq_zero_iff]
    exact ⟨p.filter_min, hBelow⟩
  · refine .inr ⟨hOne, ?_⟩
    rw [hOne]
    decide

------------------------------------------------------------
-- The Call
------------------------------------------------------------

/- The gaps collected, with the one of the call. -/
def gaps
    (p : CapprobeParams)
    (delay1 delay2 ipg : Result)
    (m : CapprobeMeasure) : List ℚ :=
  m.samples ++ (m.entering p delay1 delay2 ipg).toList

/- Among the extremes and the gap of the call two differ. -/
def Spread
    (p : CapprobeParams)
    (delay1 delay2 ipg : Result)
    (m : CapprobeMeasure) : Prop :=
  let values :=
    [m.minIpd, m.maxIpd,
      m.entering p delay1 delay2 ipg].reduceOption
  ∃ x ∈ values, ∃ y ∈ values, x ≠ y

/- The extremes after the gap of a call is collected. -/
theorem Ranged.collect_extremes
    (hRanged : Ranged m)
    (hGaps : m.gaps p delay1 delay2 ipg ≠ []) :
    let collected := m.collect p delay1 delay2 ipg
    ∃ lo hi,
      collected.minIpd = some lo ∧ collected.maxIpd = some hi ∧
        (∀ sample ∈ m.gaps p delay1 delay2 ipg,
          lo ≤ sample ∧ sample ≤ hi) ∧
        lo ≤ hi ∧
        (lo ≠ hi ↔ m.Spread p delay1 delay2 ipg) := by
  intro collected
  have hSamples :
      collected.samples = m.gaps p delay1 delay2 ipg :=
    collect_samples p delay1 delay2 ipg m
  rcases hRanged.collect p delay1 delay2 ipg with
    ⟨-, -, hNone⟩ | ⟨lo, hi, hMin, hMax, hOrder, hBounds⟩
  · rw [hSamples] at hNone
    exact absurd hNone hGaps
  · rw [hSamples] at hBounds
    refine ⟨lo, hi, hMin, hMax, hBounds, hOrder, ?_⟩
    unfold Spread
    unfold CapprobeMeasure.collect at hMin hMax
    cases hEntering : m.entering p delay1 delay2 ipg with
    | none =>
        rw [hEntering] at hMin hMax
        rw [hMin, hMax]
        simp [List.reduceOption]
        grind
    | some gap =>
        rw [hEntering] at hMin hMax
        simp only [addGap_minIpd, addGap_maxIpd,
          Option.some.injEq] at hMin hMax
        rcases hRanged with ⟨hNoMin, hNoMax, -⟩ | ⟨lower, upper,
          hLower, hUpper, hBelow, -⟩
        · rw [hNoMin] at hMin
          rw [hNoMax] at hMax
          simp only [Option.elim_none] at hMin hMax
          simp [hNoMin, hNoMax, List.reduceOption, ← hMin, ← hMax]
        · rw [hLower] at hMin
          rw [hUpper] at hMax
          simp only [Option.elim_some] at hMin hMax
          rw [hLower, hUpper, ← hMin, ← hMax]
          simp [List.reduceOption]
          grind

/- What is selected, by the setting of the filter. -/
theorem selected_of_enough
    (hRanged : Ranged m)
    (hGaps : m.gaps p delay1 delay2 ipg ≠ [])
    (hIntervals : 1 ≤ p.numIntervals)
    (hSetting : p.filter = 1 ∨ m.Spread p delay1 delay2 ipg) :
    ∃ fuel sample,
      (m.collect p delay1 delay2 ipg).selected fuel p =
        .ok sample := by
  have hSamples := collect_samples p delay1 delay2 ipg m
  have hSome :
      (m.collect p delay1 delay2 ipg).samples.insertionSort
        (· ≤ ·) ≠ [] := by
    intro hNil
    have hLength := congrArg List.length hNil
    rw [List.length_insertionSort, hSamples] at hLength
    exact hGaps (List.length_eq_zero_iff.mp hLength)
  unfold selected
  rcases filter_cases p with ⟨hZero, hFilter⟩ | ⟨-, hFilter⟩
  · have hSpread := hSetting.resolve_left hZero
    rcases hRanged.collect_extremes hGaps with
      ⟨lo, hi, hMin, hMax, hBounds, hOrder, hDiffer⟩
    have hBelow :
        ∀ sample ∈
            (m.collect p delay1 delay2 ipg).samples.insertionSort
              (· ≤ ·),
          sample ≤ hi := by
      intro sample hIn
      rw [List.mem_insertionSort, hSamples] at hIn
      exact (hBounds sample hIn).2
    rcases pdfLoop_index hMin hMax
        (lt_of_le_of_ne hOrder (hDiffer.mpr hSpread)) hBelow
        hSome hIntervals with
      ⟨fuel, j, hIndex, hNonneg, hLess⟩
    rcases sampleAt_of_index hNonneg hLess with
      ⟨sample, hSample⟩
    refine ⟨fuel, sample, ?_⟩
    simp only [selectIndex, hFilter, hIndex]
    exact hSample
  · rcases medianIndex_index hSome with ⟨hNonneg, hLess⟩
    rcases sampleAt_of_index hNonneg hLess with
      ⟨sample, hSample⟩
    refine ⟨0, sample, ?_⟩
    simp only [selectIndex, hFilter]
    exact hSample

/- Without samples, or without an interval, nothing is. -/
theorem not_selected
    (hRanged : Ranged m)
    (hIntervals : 1 ≤ p.numIntervals)
    (hSetting :
      m.gaps p delay1 delay2 ipg = [] ∨
        (p.filter ≠ 1 ∧ ¬ m.Spread p delay1 delay2 ipg))
    (fuel : Nat)
    (sample : ℚ) :
    (m.collect p delay1 delay2 ipg).selected fuel p ≠
      .ok sample := by
  have hSamples :
      (m.collect p delay1 delay2 ipg).samples =
        m.gaps p delay1 delay2 ipg :=
    collect_samples p delay1 delay2 ipg m
  by_cases hGaps : m.gaps p delay1 delay2 ipg = []
  · rw [selected, hSamples, hGaps, List.insertionSort_nil]
    have hMedian : medianIndex [] = 0 := by
      simp [medianIndex, truncated]
    rcases filter_cases p with ⟨-, hFilter⟩ | ⟨-, hFilter⟩
    · simp [selectIndex, hFilter, pdfIndex, pdfLoop, sampleAt]
    · simp [selectIndex, hFilter, hMedian, sampleAt]
  · rcases hSetting.resolve_left hGaps with ⟨hOther, hNarrow⟩
    rcases hRanged.collect_extremes hGaps with
      ⟨lo, hi, hMin, hMax, hBounds, -, hDiffer⟩
    have hSame : hi = lo := by
      by_contra hNot
      exact hNarrow (hDiffer.mp (fun hEq => hNot hEq.symm))
    subst hSame
    have hFilter : truncated p.filter = 0 := by
      rcases filter_cases p with ⟨-, hFilter⟩ | ⟨hOne, -⟩
      · exact hFilter
      · exact absurd hOne hOther
    rw [selected, hSamples]
    cases hSorted :
        (m.gaps p delay1 delay2 ipg).insertionSort (· ≤ ·) with
    | nil =>
        have hLength := congrArg List.length hSorted
        rw [List.length_insertionSort] at hLength
        exact absurd (List.length_eq_zero_iff.mp hLength) hGaps
    | cons first rest =>
        have hIn : first ∈ m.gaps p delay1 delay2 ipg := by
          rw [← List.mem_insertionSort (· ≤ ·), hSorted]
          exact List.mem_cons_self ..
        simp [selectIndex, hFilter,
          pdfIndex_none fuel hMin hMax (hBounds first hIn).1
            hIntervals]

/- When a call has a result. -/
theorem computeCapacity_ok_iff
    (hRanged : Ranged m)
    (hIntervals : 1 ≤ p.numIntervals) :
    (∃ fuel result,
        m.computeCapacity fuel p delay1 delay2 ipg size =
          .ok result) ↔
      ((m.gaps p delay1 delay2 ipg).length : ℚ) < p.pktTh ∨
        (m.gaps p delay1 delay2 ipg ≠ [] ∧
          (p.filter = 1 ∨ m.Spread p delay1 delay2 ipg)) := by
  have hSamples :
      (m.collect p delay1 delay2 ipg).samples =
        m.gaps p delay1 delay2 ipg :=
    collect_samples p delay1 delay2 ipg m
  constructor
  · rintro ⟨fuel, result, hOk⟩
    by_contra hNot
    push Not at hNot
    rcases hNot with ⟨hEnough, hSetting⟩
    simp only [computeCapacity, hSamples, if_pos hEnough] at hOk
    split at hOk
    · next sample hSelected =>
        refine not_selected hRanged hIntervals ?_ fuel sample
          hSelected
        by_cases hGaps : m.gaps p delay1 delay2 ipg = []
        · exact .inl hGaps
        · exact .inr (hSetting hGaps)
    · cases hOk
  · intro hCond
    by_cases hEnough :
        p.pktTh ≤ (m.gaps p delay1 delay2 ipg).length
    · rcases hCond.resolve_left (not_lt.mpr hEnough) with
        ⟨hGaps, hSetting⟩
      rcases selected_of_enough hRanged hGaps hIntervals
          hSetting with
        ⟨fuel, sample, hSelected⟩
      refine ⟨fuel, ?_⟩
      simp only [computeCapacity, hSamples, if_pos hEnough,
        hSelected]
      exact ⟨_, rfl⟩
    · refine ⟨0, ?_⟩
      simp only [computeCapacity, hSamples, if_neg hEnough]
      exact ⟨_, rfl⟩

end CapprobeMeasure

------------------------------------------------------------
-- Calls
------------------------------------------------------------

open CapprobeMeasure

/-
  A call by a handler ends, with an index among the samples
  where it makes an estimate, exactly if there are too few
  gaps for one, or there is a gap and, unless the filter is
  the median, two of the extremes and the new gap differ.
-/
theorem capacity_in_range_iff
    {m : CapprobeMeasure}
    {p : CapprobeParams}
    (hReach : Reachable m)
    (hIntervals : 1 ≤ p.numIntervals)
    (r : CapprobeResults)
    (delay1 delay2 ipg size : Result) :
    (∃ fuel result,
        (m.noteDelay r).computeCapacity fuel p delay1 delay2 ipg
          size = .ok result) ↔
      (((m.noteDelay r).gaps p delay1 delay2 ipg).length : ℚ) <
          p.pktTh ∨
        ((m.noteDelay r).gaps p delay1 delay2 ipg ≠ [] ∧
          (p.filter = 1 ∨
            (m.noteDelay r).Spread p delay1 delay2 ipg)) :=
  computeCapacity_ok_iff
    (show Ranged (m.noteDelay r) from hReach.ranged) hIntervals

/- An estimate for each gap, by the filter of this setting. -/
def everyGap
    (filter : ℚ)
    (hMin : 0 ≤ filter)
    (hMax : filter ≤ 1) : CapprobeParams where
  pktTh := 1
  delayTh := -1
  headerSize := 66
  filter := filter
  numIntervals := 1000
  pktTh_min := one_in_bounds
  delayTh_min := delayTh_off
  headerSize_min := headerSize_default
  filter_min := hMin
  filter_max := hMax
  numIntervals_min := numIntervals_default

/- The measure as it starts. -/
def startedCapprobe : CapprobeMeasure :=
  init 0
    { pkt := 0
      minDelay := none
      minIpd := none
      maxIpd := none
      lastRx := none
      lastRxDelay := none
      lastRxPn := none
      lastSize := none
      maxSize := some 0
      samples := [] }

/- The second packet of a pair, one second after the first. -/
def secondOfPair : CapprobeResults where
  size := some 1300
  receiveTime := some 2
  correctedDelay := some (1 / 20)
  initialTtl := some 64
  dataId := some 0

/- An estimate for every two gaps, by their most frequent. -/
def everyTwoGaps : CapprobeParams :=
  { everyGap 0 le_rfl zero_le_one with
    pktTh := 2
    pktTh_min := by decide }

/- The measure once it has collected a gap of one second. -/
def oneGap : CapprobeMeasure where
  pkt := 0
  minDelay := some 64
  minIpd := some 1
  maxIpd := some 1
  lastRx := some 2
  lastRxDelay := some (1 / 20)
  lastRxPn := some 0
  lastSize := some 1300
  maxSize := some 0
  samples := [1]

theorem oneGap_reachable : Reachable oneGap := by
  have hFirst :
      startedCapprobe.step 0
          (.packet .rxPkt everyTwoGaps
            { secondOfPair with receiveTime := some 1 }) =
        .ok
          ({ oneGap with
              minIpd := none
              maxIpd := none
              lastRx := some 1
              samples := [] }, none) := by
    rfl
  have hSecond :
      CapprobeMeasure.step 0
          (.packet .rxPkt everyTwoGaps secondOfPair)
          { oneGap with
            minIpd := none
            maxIpd := none
            lastRx := some 1
            samples := [] } =
        .ok (oneGap, none) := by
    norm_num [CapprobeMeasure.step, rxPkt, receive, noteDelay,
      computeCapacity, collect, entering, passes, addGap,
      less, sameNumber, everyTwoGaps, everyGap, minus, arith,
      oneGap, secondOfPair]
  exact .step (.step (.init ..) hFirst) hSecond

/- A gap of two seconds joins that of one, and both are binned. -/
theorem mode_of_two_gaps :
    ∃ fuel result,
      (oneGap.noteDelay secondOfPair).computeCapacity fuel
          everyTwoGaps (some (1 / 20)) (some (1 / 20))
          (some 2) (some 1300) =
        .ok result := by
  refine
    (capacity_in_range_iff oneGap_reachable
      (by norm_num [everyTwoGaps, everyGap]) secondOfPair _ _ _
      _).mpr
      (.inr ⟨?_, .inr ⟨1, ?_, 2, ?_, ?_⟩⟩)
  · simp [gaps, oneGap, noteDelay]
  · simp [entering, passes, everyTwoGaps, everyGap, oneGap,
      noteDelay, List.reduceOption]
  · simp [entering, passes, everyTwoGaps, everyGap, oneGap,
      noteDelay, List.reduceOption]
  · norm_num

/- One gap has no interval, and the loop does not end. -/
theorem one_gap_never_ends :
    ¬ ∀ (m : CapprobeMeasure)
        (p : CapprobeParams),
      Reachable m → 1 ≤ p.numIntervals →
        ∀ (r : CapprobeResults)
          (delay1 delay2 ipg size : Result),
          ∃ fuel result,
            (m.noteDelay r).computeCapacity fuel p delay1 delay2
              ipg size = .ok result := by
  intro hAll
  have hEnds :=
    hAll startedCapprobe (everyGap 0 le_rfl zero_le_one)
      (.init ..) (by norm_num [everyGap]) secondOfPair
      (some (1 / 20)) (some (1 / 20)) (some 1) (some 1300)
  rw [computeCapacity_ok_iff (.inl ⟨rfl, rfl, rfl⟩)
    (by norm_num [everyGap])] at hEnds
  simp [gaps, entering, passes, everyGap, Spread, noteDelay,
    startedCapprobe, init, List.reduceOption] at hEnds

end MONL

end NapaBaselibs
