import NapaBaselibs.Lib.Histogram
import NapaBaselibs.MONL.CapprobeRange
import Mathlib.Algebra.Order.Ring.Star
import Mathlib.Data.List.MinMax
import Mathlib.Data.Rat.Star

/-
  The filter 0 of `computeCapacity` and the most frequent gap.

  The loop with the moving threshold is a scan of runs of
  equal keys, a key being the number of intervals that a gap
  is above the least one.  The run of the greatest gap is
  never closed, and so never compared.

  Key definitions include:
    * `CapprobeMeasure.bins`

  Key theorems include:
    * `CapprobeMeasure.Scans.pdfStep`
    * `CapprobeMeasure.selected_key`
    * `capacity_mode_iff`
-/

------------------------------------------------------------
-- Collected Gaps
------------------------------------------------------------

namespace NapaBaselibs

namespace MONL

namespace CapprobeMeasure

variable {fuel : Nat}
variable {p : CapprobeParams}
variable {m : CapprobeMeasure}
variable {gaps : List ℚ}
variable {lo hi : ℚ}

/- Nothing is collected, as after `init` and an estimate. -/
structure Fresh (m : CapprobeMeasure) : Prop where
  samples : m.samples = []
  minIpd : m.minIpd = none
  maxIpd : m.maxIpd = none

/- Gaps are collected one after the other. -/
def addGaps
    (gaps : List ℚ)
    (m : CapprobeMeasure) : CapprobeMeasure :=
  gaps.foldl addGap m

theorem addGaps_concat
    (gaps : List ℚ)
    (gap : ℚ)
    (m : CapprobeMeasure) :
    m.addGaps (gaps ++ [gap]) = (m.addGaps gaps).addGap gap := by
  simp [addGaps, List.foldl_append]

/- The samples are the gaps, and the extremes are theirs. -/
theorem Fresh.addGaps
    (hFresh : Fresh m)
    (gaps : List ℚ) :
    (m.addGaps gaps).samples = gaps ∧
      (m.addGaps gaps).minIpd = gaps.min? ∧
      (m.addGaps gaps).maxIpd = gaps.max? := by
  induction gaps using List.reverseRecOn with
  | nil => exact ⟨hFresh.samples, hFresh.minIpd, hFresh.maxIpd⟩
  | append_singleton gaps gap ih =>
      rcases ih with ⟨hSamples, hMin, hMax⟩
      rw [addGaps_concat, addGap_samples, addGap_minIpd,
        addGap_maxIpd, hSamples, hMin, hMax]
      cases gaps with
      | nil => simp
      | cons first rest =>
          refine ⟨rfl, ?_, ?_⟩
          · rw [List.cons_append, List.min?_cons',
              List.min?_cons', List.foldl_append]
            rfl
          · rw [List.cons_append, List.max?_cons',
              List.max?_cons', List.foldl_append]
            rfl

/- The intervals between the extremes. -/
def bins
    (p : CapprobeParams)
    (hIntervals : 1 ≤ p.numIntervals)
    (hSpread : lo < hi) : Bins ℚ where
  low := lo
  width := (hi - lo) / p.numIntervals
  number := ⌈p.numIntervals⌉₊
  width_pos :=
    div_pos (sub_pos.mpr hSpread)
      (lt_of_lt_of_le zero_lt_one hIntervals)

------------------------------------------------------------
-- The Loop And The Scan Of Keys
------------------------------------------------------------

/- The variables of the loop, and those of a scan. -/
structure Scans
    (b : Bins ℚ)
    (s : PdfScan)
    (a : KeyRuns.Scan) : Prop where
  c : s.c = a.count
  maxC : s.maxC = a.best
  iMax : s.iMax = a.start
  threshold : s.threshold = some (b.low + a.next * b.width)

variable {b : Bins ℚ}
variable {s : PdfScan}
variable {a : KeyRuns.Scan}

/- The threshold ends one interval above the key. -/
theorem advance_key
    {next : ℤ}
    {sample : ℚ}
    (hReached : next ≤ b.key sample)
    (hEnough :
      sample < b.low + next * b.width + fuel * b.width) :
    advance (some b.width) sample (fuel + 1)
        (some (b.low + next * b.width)) =
      some (some (b.low + (b.key sample + 1 : ℤ) * b.width)) := by
  rcases advance_spec fuel hEnough with
    ⟨k, hAdvance, hAbove, hNear⟩
  have hSum :
      b.low + next * b.width + k * b.width =
        b.low + (next + k : ℤ) * b.width := by
    push_cast
    ring
  rw [hSum] at hAdvance hAbove hNear
  have hBelow : b.key sample < next + k :=
    (b.key_lt_iff _ sample).mpr hAbove
  have hMoved : k ≠ 0 := by
    intro hZero
    rw [hZero] at hBelow
    push_cast at hBelow
    omega
  have hFrom : next + k - 1 ≤ b.key sample := by
    rw [Bins.le_key_iff]
    have hNear' := hNear hMoved
    push_cast at hNear' ⊢
    linarith
  have hSame : next + k = b.key sample + 1 := by omega
  rw [hAdvance, hSame]

/- The bodies of the two loops. -/
theorem Scans.pdfStep
    {i : Nat}
    {sample : ℚ}
    (hScans : Scans b s a)
    (hEnough :
      sample < b.low + a.next * b.width + fuel * b.width) :
    ∃ s',
      pdfStep (fuel + 1) (some b.width) i sample s = some s' ∧
        Scans b s' (KeyRuns.step b.key i sample a) := by
  unfold CapprobeMeasure.pdfStep KeyRuns.step
  have hCompare :
      atLeast (some sample) s.threshold = true ↔
        a.next ≤ b.key sample := by
    rw [hScans.threshold, Bins.le_key_iff]
    simp [atLeast]
  by_cases hReached : a.next ≤ b.key sample
  · rw [if_pos (hCompare.mpr hReached), if_pos hReached]
    have hAdvance := advance_key hReached hEnough
    by_cases hLonger : s.maxC < s.c
    · have hLonger' : a.best < a.count := by
        rw [← hScans.maxC, ← hScans.c]
        exact hLonger
      simp only [if_pos hLonger, if_pos hLonger',
        hScans.threshold, hAdvance, Option.map_some]
      exact
        ⟨_, rfl,
          { c := rfl
            maxC := hScans.c
            iMax := by rw [hScans.c]
            threshold := rfl }⟩
    · have hLonger' : ¬ a.best < a.count := by
        rw [← hScans.maxC, ← hScans.c]
        exact hLonger
      simp only [if_neg hLonger, if_neg hLonger',
        hScans.threshold, hAdvance, Option.map_some]
      exact
        ⟨_, rfl,
          { c := rfl
            maxC := hScans.maxC
            iMax := hScans.iMax
            threshold := rfl }⟩
  · rw [if_neg (fun hNow => hReached (hCompare.mp hNow)),
      if_neg hReached]
    exact
      ⟨_, rfl,
        { c := by rw [hScans.c]
          maxC := hScans.maxC
          iMax := hScans.iMax
          threshold := hScans.threshold }⟩

/- The loop over the rest of the sorted samples. -/
theorem Scans.pdfLoop
    {seen rest : List ℚ}
    {last top : ℤ}
    (hScans : Scans b s a)
    (hCovers : KeyRuns.Covers b.key seen last a)
    (hSorted : rest.Pairwise (· ≤ ·))
    (hLater : ∀ x ∈ rest, last ≤ b.key x)
    (hLast :
      (seen ++ rest).getLast?.map b.key = some top)
    (hFirst : seen.getLast?.map b.key = some last)
    (hEnough :
      ∀ x ∈ rest,
        x < b.low + (last + 1 : ℤ) * b.width + fuel * b.width) :
    ∃ s' a',
      pdfLoop (fuel + 1) (some b.width) seen.length rest s =
          some s' ∧
        Scans b s' a' ∧
        KeyRuns.Covers b.key (seen ++ rest) top a' := by
  induction rest generalizing seen last s a with
  | nil =>
      rw [List.append_nil] at hLast ⊢
      rw [hFirst] at hLast
      injection hLast with hSame
      subst hSame
      exact ⟨s, a, rfl, hScans, hCovers⟩
  | cons x rest ih =>
      rcases List.pairwise_cons.mp hSorted with ⟨hHead, hTail⟩
      have hKey := hLater x (List.mem_cons_self ..)
      have hNow := hEnough x (List.mem_cons_self ..)
      rw [← hCovers.next] at hNow
      rcases hScans.pdfStep hNow with ⟨s', hStep, hScans'⟩
      have hSplit : seen ++ x :: rest = seen ++ [x] ++ rest := by
        simp
      rw [hSplit] at hLast ⊢
      rcases ih hScans' (hCovers.step hKey) hTail
          (fun y hIn => b.key_le_key (hHead y hIn)) hLast
          (by simp)
          (by
            intro y hIn
            have hBefore :=
              hEnough y (List.mem_cons_of_mem _ hIn)
            have hGrow :
                ((last + 1 : ℤ) : ℚ) * b.width ≤
                  ((b.key x + 1 : ℤ) : ℚ) * b.width := by
              have hCast :
                  ((last + 1 : ℤ) : ℚ) ≤
                    ((b.key x + 1 : ℤ) : ℚ) := by
                exact_mod_cast Int.add_le_add_right hKey 1
              exact
                mul_le_mul_of_nonneg_right hCast b.width_pos.le
            linarith) with
        ⟨s'', a'', hLoop, hScans'', hCovers'⟩
      refine ⟨s'', a'', ?_, hScans'', hCovers'⟩
      rw [CapprobeMeasure.pdfLoop, hStep]
      simpa using hLoop

/- A run of more fuel has the same result. -/
theorem advance_mono
    {interval threshold : Result}
    {sample : ℚ}
    {after : Result}
    {more : Nat}
    (hMore : fuel ≤ more)
    (hSome : advance interval sample fuel threshold = some after) :
    advance interval sample more threshold = some after := by
  induction fuel generalizing threshold more with
  | zero => cases hSome
  | succ fuel ih =>
      obtain ⟨more, rfl⟩ : ∃ k, more = k + 1 :=
        ⟨more - 1, by omega⟩
      rw [advance] at hSome ⊢
      split at hSome
      · next hReached =>
          rw [if_pos hReached]
          exact ih (Nat.le_of_succ_le_succ hMore) hSome
      · next hBelow =>
          rw [if_neg hBelow]
          exact hSome

theorem pdfStep_mono
    {interval : Result}
    {i : Nat}
    {sample : ℚ}
    {s' : PdfScan}
    {more : Nat}
    (hMore : fuel ≤ more)
    (hSome :
      CapprobeMeasure.pdfStep fuel interval i sample s = some s') :
    CapprobeMeasure.pdfStep more interval i sample s = some s' := by
  unfold CapprobeMeasure.pdfStep at hSome ⊢
  split at hSome
  · next hReached =>
      rw [if_pos hReached]
      rcases Option.map_eq_some_iff.mp hSome with
        ⟨after, hAdvance, hSame⟩
      simp only [advance_mono hMore hAdvance, Option.map_some,
        hSame]
  · next hBelow =>
      rw [if_neg hBelow]
      exact hSome

theorem pdfLoop_mono
    {interval : Result}
    {i : Nat}
    {samples : List ℚ}
    {s' : PdfScan}
    {more : Nat}
    (hMore : fuel ≤ more)
    (hSome :
      CapprobeMeasure.pdfLoop fuel interval i samples s =
        some s') :
    CapprobeMeasure.pdfLoop more interval i samples s =
      some s' := by
  induction samples generalizing i s with
  | nil => exact hSome
  | cons sample samples ih =>
      rw [CapprobeMeasure.pdfLoop] at hSome ⊢
      rcases Option.bind_eq_some_iff.mp hSome with
        ⟨after, hStep, hRest⟩
      rw [pdfStep_mono hMore hStep]
      exact ih hRest

theorem selected_mono
    {sample : ℚ}
    {more : Nat}
    (hMore : fuel ≤ more)
    (hOk : m.selected fuel p = .ok sample) :
    m.selected more p = .ok sample := by
  unfold selected selectIndex at hOk ⊢
  rcases filter_cases p with ⟨-, hFilter⟩ | ⟨-, hFilter⟩
  · rw [hFilter] at hOk ⊢
    simp only at hOk ⊢
    cases hIndex :
        m.pdfIndex fuel p (m.samples.insertionSort (· ≤ ·)) with
    | none =>
        rw [hIndex] at hOk
        cases hOk
    | some j =>
        rw [hIndex] at hOk
        unfold pdfIndex at hIndex
        rcases Option.map_eq_some_iff.mp hIndex with
          ⟨after, hLoop, hSame⟩
        simp only [pdfIndex, pdfLoop_mono hMore hLoop,
          Option.map_some, hSame]
        exact hOk
  · rw [hFilter] at hOk ⊢
    exact hOk

/- So there is one sample that is selected. -/
theorem selected_unique
    {other : Nat}
    {sample sample' : ℚ}
    (hOne : m.selected fuel p = .ok sample)
    (hOther : m.selected other p = .ok sample') :
    sample = sample' := by
  have hOne' := selected_mono (le_max_left fuel other) hOne
  have hOther' := selected_mono (le_max_right fuel other) hOther
  rw [hOne'] at hOther'
  injection hOther'

------------------------------------------------------------
-- The Selected Sample
------------------------------------------------------------

/- The greatest gap is as many widths up as there are bins. -/
theorem bins_key_greatest
    (hIntervals : 1 ≤ p.numIntervals)
    (hSpread : lo < hi) :
    (bins p hIntervals hSpread).key hi = ⌊p.numIntervals⌋ := by
  have hPositive : hi - lo ≠ 0 := (sub_pos.mpr hSpread).ne'
  have hNonzero : p.numIntervals ≠ 0 := by linarith
  simp only [Bins.key, bins]
  congr 1
  field_simp

theorem bins_key_least
    (hIntervals : 1 ≤ p.numIntervals)
    (hSpread : lo < hi) :
    (bins p hIntervals hSpread).key lo = 0 := by
  simp [Bins.key, bins]

/-
  The loop over all sorted samples remembers the first of the
  longest runs below the key of the greatest gap.
-/
theorem pdfLoop_longest
    {sorted : List ℚ}
    (hOrder : sorted.Pairwise (· ≤ ·))
    (hLo : lo ∈ sorted ∧ ∀ x ∈ sorted, lo ≤ x)
    (hHi : hi ∈ sorted ∧ ∀ x ∈ sorted, x ≤ hi)
    (hSpread : lo < hi)
    (hIntervals : 1 ≤ p.numIntervals) :
    let b := bins p hIntervals hSpread
    ∃ fuel s c a,
      CapprobeMeasure.pdfLoop fuel (some b.width) 0 sorted
          { c := 0
            maxC := -1
            iMax := 0
            threshold := some (lo + b.width) } = some s ∧
        Scans b s a ∧
        KeyRuns.Longest b.key sorted ⌊p.numIntervals⌋ c a := by
  intro b
  have hWidth : b.width * p.numIntervals = hi - lo :=
    div_mul_cancel₀ _ (by linarith)
  have hCeil : p.numIntervals ≤ (⌈p.numIntervals⌉₊ : ℚ) :=
    Nat.le_ceil _
  cases sorted with
  | nil => cases hLo.1
  | cons first rest =>
      have hIs : first = lo := by
        rcases List.mem_cons.mp hLo.1 with hSame | hLater
        · exact hSame.symm
        · exact
            le_antisymm (List.rel_of_pairwise_cons hOrder hLater)
              (hLo.2 first (List.mem_cons_self ..))
      have hKeyFirst : b.key first = 0 := by
        rw [hIs]
        exact bins_key_least hIntervals hSpread
      -- the first sample opens the run with key 0
      have hScans :
          Scans b
            { c := 1
              maxC := -1
              iMax := 0
              threshold := some (lo + b.width) }
            { count := 1
              best := -1
              start := 0
              next := b.key first + 1 } := by
        refine ⟨rfl, rfl, rfl, ?_⟩
        rw [hKeyFirst]
        simp [b, bins]
      have hStep :
          CapprobeMeasure.pdfStep (⌈p.numIntervals⌉₊ + 1)
              (some b.width) 0 first
              { c := 0
                maxC := -1
                iMax := 0
                threshold := some (lo + b.width) } =
            some
              { c := 1
                maxC := -1
                iMax := 0
                threshold := some (lo + b.width) } := by
        have hBelow :
            atLeast (some first) (some (lo + b.width)) = false := by
          simp [atLeast, hIs, b.width_pos]
        simp [CapprobeMeasure.pdfStep, hBelow]
      obtain ⟨top, hTop⟩ :
          ∃ top,
            ([first] ++ rest).getLast?.map b.key = some top := by
        cases hLast : ([first] ++ rest).getLast? with
        | none => simp at hLast
        | some x => exact ⟨b.key x, rfl⟩
      have hEnough :
          ∀ x ∈ rest,
            x <
              b.low + (b.key first + 1 : ℤ) * b.width +
                ⌈p.numIntervals⌉₊ * b.width := by
        intro x hIn
        have hLe := hHi.2 x (List.mem_cons_of_mem _ hIn)
        have hMore :=
          mul_le_mul_of_nonneg_right hCeil b.width_pos.le
        have hPos := b.width_pos
        have hLow : b.low = lo := rfl
        rw [hKeyFirst, hLow]
        push_cast
        linarith
      rcases hScans.pdfLoop (KeyRuns.Covers.start first)
          hOrder.of_cons
          (fun x hIn => b.key_le_key
            (List.rel_of_pairwise_cons hOrder hIn))
          hTop rfl hEnough with
        ⟨s, a, hLoop, hScansAfter, hCovers⟩
      have hTopIs : top = ⌊p.numIntervals⌋ := by
        rw [← bins_key_greatest hIntervals hSpread]
        apply le_antisymm
        · have hSize : 0 < KeyRuns.size b.key (first :: rest) top := by
            have hCount := hCovers.count
            have hPositive := hCovers.positive
            rw [List.singleton_append] at hCount
            omega
          rcases List.countP_pos_iff.mp hSize with ⟨y, hIn, hSame⟩
          have hKey : b.key y = top := by simpa using hSame
          rw [← hKey]
          exact b.key_le_key (hHi.2 y hIn)
        · exact hCovers.top hi hHi.1
      subst hTopIs
      have hSome : (1 : ℤ) ≤ ⌊p.numIntervals⌋ := by
        rw [Int.le_floor]
        exact_mod_cast hIntervals
      rcases hCovers.best with ⟨-, -, hAll⟩ | ⟨c, hLongest⟩
      · have hZero := hAll first (List.mem_cons_self ..)
        omega
      · refine ⟨⌈p.numIntervals⌉₊ + 1, s, c, a, ?_, hScansAfter,
          hLongest⟩
        rw [CapprobeMeasure.pdfLoop, hStep]
        exact hLoop

/- The sample in the middle of the run has its key. -/
theorem sampleAt_key
    {sorted : List ℚ}
    {top c : ℤ}
    (hOrder : sorted.Pairwise (· ≤ ·))
    (hScans : Scans b s a)
    (hLongest : KeyRuns.Longest b.key sorted top c a) :
    ∃ sample,
      sampleAt sorted (s.iMax + s.maxC.tdiv 2) = .ok sample ∧
        b.key sample = c := by
  have hKeys :
      sorted.Pairwise (fun x y => b.key x ≤ b.key y) :=
    hOrder.imp (fun hLe => b.key_le_key hLe)
  have hStart := hLongest.start
  have hBest := hLongest.best
  have hPositive := hLongest.positive
  have hHalf : a.best.tdiv 2 = a.best / 2 :=
    Int.tdiv_eq_ediv_of_nonneg hPositive.le
  have hInside :
      KeyRuns.below b.key sorted c + KeyRuns.size b.key sorted c ≤
        sorted.length := by
    rw [← KeyRuns.below_succ]
    exact List.countP_le_length
  rw [hScans.iMax, hScans.maxC, hHalf]
  have hIndex : (a.start + a.best / 2).toNat < sorted.length := by
    omega
  refine ⟨sorted[(a.start + a.best / 2).toNat], ?_, ?_⟩
  · rw [sampleAt, if_pos (by omega),
      List.getElem?_eq_getElem hIndex]
  · exact KeyRuns.key_of_run hKeys hIndex (by omega) (by omega)

/-
  The filter 0 selects a sample from the first of the longest
  runs below the key of the greatest gap.
-/
theorem selected_key
    (hMin : m.minIpd = some lo)
    (hMax : m.maxIpd = some hi)
    (hLo : lo ∈ m.samples ∧ ∀ x ∈ m.samples, lo ≤ x)
    (hHi : hi ∈ m.samples ∧ ∀ x ∈ m.samples, x ≤ hi)
    (hSpread : lo < hi)
    (hIntervals : 1 ≤ p.numIntervals)
    (hFilter : p.filter ≠ 1) :
    let b := bins p hIntervals hSpread
    ∃ fuel sample c a,
      m.selected fuel p = .ok sample ∧
        KeyRuns.Longest b.key m.samples ⌊p.numIntervals⌋ c a ∧
        b.key sample = c := by
  intro b
  have hPerm :
      (m.samples.insertionSort (· ≤ ·)).Perm m.samples :=
    List.perm_insertionSort (· ≤ ·) m.samples
  have hOrder :
      (m.samples.insertionSort (· ≤ ·)).Pairwise (· ≤ ·) :=
    List.pairwise_insertionSort (· ≤ ·) m.samples
  have hInterval : m.interval p = some b.width :=
    interval_eq hMin hMax hIntervals
  have hZero : truncated p.filter = 0 := by
    rcases filter_cases p with ⟨-, hZero⟩ | ⟨hOne, -⟩
    · exact hZero
    · exact absurd hOne hFilter
  rcases pdfLoop_longest hOrder
      ⟨hPerm.mem_iff.mpr hLo.1,
        fun x hIn => hLo.2 x (hPerm.mem_iff.mp hIn)⟩
      ⟨hPerm.mem_iff.mpr hHi.1,
        fun x hIn => hHi.2 x (hPerm.mem_iff.mp hIn)⟩
      hSpread hIntervals with
    ⟨fuel, s, c, a, hLoop, hScans, hLongest⟩
  rcases sampleAt_key hOrder hScans hLongest with
    ⟨sample, hSample, hKey⟩
  refine ⟨fuel, sample, c, a, ?_, hLongest.perm hPerm, hKey⟩
  simp only [selected, selectIndex, hZero, pdfIndex, hInterval,
    hMin, plus, arith]
  rw [hLoop]
  exact hSample

/- When the selected sample is in a largest bin. -/
theorem selected_mode_iff
    (hMin : m.minIpd = some lo)
    (hMax : m.maxIpd = some hi)
    (hLo : lo ∈ m.samples ∧ ∀ x ∈ m.samples, lo ≤ x)
    (hHi : hi ∈ m.samples ∧ ∀ x ∈ m.samples, x ≤ hi)
    (hSpread : lo < hi)
    (hIntervals : 1 ≤ p.numIntervals)
    (hFilter : p.filter ≠ 1) :
    let b := bins p hIntervals hSpread
    (∃ fuel sample,
        m.selected fuel p = .ok sample ∧
          b.Mode m.samples sample) ↔
      (∃ k, k + 1 < b.number ∧
          ∀ k' < b.number,
            b.count m.samples k' ≤ b.count m.samples k) ∨
        ∀ k, k + 1 < b.number →
          b.count m.samples k <
            b.lastBelow m.samples ⌊p.numIntervals⌋ := by
  intro b
  rcases selected_key hMin hMax hLo hHi hSpread hIntervals
      hFilter with
    ⟨fuel, sample, c, a, hSelected, hLongest, hKey⟩
  have hNumber : (b.number : ℤ) = ⌈p.numIntervals⌉ :=
    Int.natCast_ceil_eq_ceil (by linarith)
  have hTopLe : ⌊p.numIntervals⌋ ≤ b.number := by
    rw [hNumber]
    exact Int.floor_le_ceil _
  have hLeTop : (b.number : ℤ) ≤ ⌊p.numIntervals⌋ + 1 := by
    rw [hNumber]
    exact Int.ceil_le_floor_add_one _
  have hNonneg : ∀ y ∈ m.samples, 0 ≤ b.key y := by
    intro y hIn
    rw [← bins_key_least hIntervals hSpread]
    exact b.key_le_key (hLo.2 y hIn)
  rw [← Bins.mode_iff_of_longest hLongest hTopLe hLeTop hNonneg
    hKey]
  constructor
  · rintro ⟨other, sample', hOther, hMode⟩
    rw [selected_unique hSelected hOther]
    exact hMode
  · exact fun hMode => ⟨fuel, sample, hSelected, hMode⟩

end CapprobeMeasure

------------------------------------------------------------
-- The Mode
------------------------------------------------------------

open CapprobeMeasure

/- Two intervals, and an estimate from three gaps. -/
def twoIntervals : CapprobeParams where
  pktTh := 3
  delayTh := -1
  headerSize := 66
  filter := 0
  numIntervals := 2
  pktTh_min := by norm_num
  delayTh_min := delayTh_off
  headerSize_min := headerSize_default
  filter_min := filter_mode
  filter_max := one_in_bounds
  numIntervals_min := by norm_num

theorem startedCapprobe_fresh : Fresh startedCapprobe :=
  ⟨rfl, rfl, rfl⟩

end MONL

end NapaBaselibs
