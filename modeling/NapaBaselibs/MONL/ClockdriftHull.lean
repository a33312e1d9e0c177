import NapaBaselibs.MONL.ClockdriftWindow
import NapaBaselibs.Lib.UpperHull
import Mathlib.Algebra.Order.BigOperators.Group.List
import Mathlib.Data.List.Infix
import Mathlib.Tactic.NormNum

/-
  The line that the linear programming lays over the window.

  The loop over the samples leaves their upper hull.  The
  search for the edge over the mean of the send times then
  does not look at the last edge.

  Key definitions include:
    * `Overlies`
    * `LastEdgeOverMean`

  Key theorems include:
    * `hullLoop_isHull`
    * `searchEdge_isSome_iff`
    * `clockdrift_hull_iff`
-/

------------------------------------------------------------
-- Lines Over A Window
------------------------------------------------------------

namespace NapaBaselibs

namespace MONL

open ClockdriftSample UpperHull

/- No sample is above a line. -/
def Above
    (samples : List ClockdriftSample)
    (a b : ℚ) : Prop :=
  ∀ s ∈ samples, s.delay ≤ a + b * s.txTime

/-
  A line that is on or above the samples, with the least value
  at the mean of their times: the edge over it.
-/
structure Overlies
    (samples : List ClockdriftSample)
    (a b : ℚ) : Prop where
  above : Above samples a b
  least :
    ∀ a' b', Above samples a' b' →
      a + b * meanOf txTime samples ≤
        a' + b' * meanOf txTime samples
  edge :
    ∃ left ∈ samples, ∃ right ∈ samples,
      left.txTime < meanOf txTime samples ∧
        meanOf txTime samples ≤ right.txTime ∧
        left.delay = a + b * left.txTime ∧
        right.delay = a + b * right.txTime

/-
  The line through the sample that was sent last and one that
  was sent before the mean is on or above all.
-/
def LastEdgeOverMean
    (samples : List ClockdriftSample) : Prop :=
  ∃ left ∈ samples, ∃ last ∈ samples,
    (∀ s ∈ samples, s.txTime ≤ last.txTime) ∧
      left.txTime < meanOf txTime samples ∧
      ∀ s ∈ samples,
        s.delay ≤
          left.delay +
            (last.delay - left.delay) /
              (last.txTime - left.txTime) *
              (s.txTime - left.txTime)

variable {samples n : List ClockdriftSample}
variable {s t left right : ClockdriftSample}
variable {mean : ℚ}

------------------------------------------------------------
-- The Hull
------------------------------------------------------------

/- The slope between two samples of different times. -/
theorem samplesXInter_eq
    (hApart : s.txTime ≠ t.txTime) :
    samplesXInter s t = some (rise txTime delay s t) := by
  have hDenom : some (s.txTime - t.txTime) ≠ some (0 : ℚ) := by
    intro hZero
    exact hApart (sub_eq_zero.mp (Option.some.inj hZero))
  rw [samplesXInter, xAxisInter, quotient, if_neg hDenom,
    rise_comm s t, rise]
  simp only [arith]
  congr 2
  ring

/- The same as the general algorithm, on samples in order. -/
theorem backtrack_eq_pop
    (hOrder :
      (s :: n).Pairwise (fun q p => p.txTime < q.txTime)) :
    backtrack s n = pop txTime delay s n := by
  obtain ⟨hNew, hRest⟩ := List.pairwise_cons.mp hOrder
  induction n with
  | nil => rfl
  | cons top n ih =>
      cases n with
      | nil => rfl
      | cons below n =>
          have hTop := hNew top List.mem_cons_self
          have hBelow :=
            List.rel_of_pairwise_cons hRest List.mem_cons_self
          have hOlder := ih
            (List.pairwise_cons.mpr
              ⟨fun o hO => hNew o (List.mem_cons_of_mem _ hO),
                hRest.of_cons⟩)
            (fun o hO => hNew o (List.mem_cons_of_mem _ hO))
            hRest.of_cons
          rw [backtrack, pop, samplesXInter_eq hTop.ne',
            samplesXInter_eq hBelow.ne', rise_comm s top,
            rise_comm top below, hOlder]
          simp only [less, decide_eq_true_eq]

theorem foldl_backtrack
    {points : Set ClockdriftSample}
    {more : List ClockdriftSample}
    (hHull : IsHull txTime delay points n)
    (hOrder : more.Pairwise (fun p q => p.txTime < q.txTime))
    (hNew : ∀ s ∈ more, ∀ a ∈ points, a.txTime < s.txTime) :
    more.foldl (fun n s => s :: backtrack s n) n =
      more.foldl (push txTime delay) n := by
  induction more generalizing n points with
  | nil => rfl
  | cons s more ih =>
      obtain ⟨hBehind, hRest⟩ := List.pairwise_cons.mp hOrder
      have hFirst := hNew s List.mem_cons_self
      have hStack :
          (s :: n).Pairwise (fun q p => p.txTime < q.txTime) :=
        List.pairwise_cons.mpr
          ⟨fun v hV => hFirst v (hHull.mem v hV),
            hHull.turns.pairwise⟩
      rw [List.foldl_cons, List.foldl_cons,
        backtrack_eq_pop hStack]
      refine ih (hHull.push hFirst) hRest ?_
      rintro u hU a (hOld | rfl)
      · exact hNew u (List.mem_cons_of_mem _ hU) a hOld
      · exact hBehind u hU

/- What the loop leaves is the hull. -/
theorem hullLoop_isHull
    (hTwo : 2 ≤ samples.length)
    (hOrder :
      samples.Pairwise (fun p q => p.txTime < q.txTime)) :
    IsHull txTime delay {a | a ∈ samples}
      (hullLoop samples) := by
  match samples, hTwo with
  | first :: second :: samples, _ =>
      obtain ⟨hFirst, hRest⟩ := List.pairwise_cons.mp hOrder
      obtain ⟨hSecond, hMore⟩ := List.pairwise_cons.mp hRest
      have hPair : IsHull txTime delay {first, second}
          [second, first] :=
        isHull_pair (hFirst second List.mem_cons_self)
      have hNew :
          ∀ s ∈ samples, ∀ a ∈ ({first, second} : Set _),
            a.txTime < s.txTime := by
        rintro s hS a (rfl | rfl)
        · exact hFirst s (List.mem_cons_of_mem _ hS)
        · exact hSecond s hS
      rw [hullLoop, foldl_backtrack hPair hMore hNew]
      convert hPair.foldl hMore hNew using 1
      ext a
      simp [or_assoc]

------------------------------------------------------------
-- The Search
------------------------------------------------------------

/- What is found is an edge over the mean. -/
theorem searchEdge_eq_some
    (hFound : searchEdge mean n = some (left, right)) :
    [left, right] <:+: n ∧ left.txTime < mean ∧
      mean ≤ right.txTime := by
  induction n with
  | nil => simp [searchEdge] at hFound
  | cons u n ih =>
      match n, hFound with
      | v :: w :: n, hFound =>
          rw [searchEdge] at hFound
          split at hFound
          · next hOver =>
              obtain ⟨rfl, rfl⟩ :=
                Prod.mk.inj (Option.some.inj hFound)
              exact ⟨⟨[], w :: n, rfl⟩, hOver⟩
          · obtain ⟨hEdge, hOver⟩ := ih hFound
            exact ⟨hEdge.trans (List.suffix_cons u _).isInfix,
              hOver⟩

/- An edge is found if it is not the last one. -/
theorem searchEdge_isSome_iff
    {init : List ClockdriftSample}
    (hOrder :
      (init ++ [left, right]).Pairwise
        (fun p q => p.txTime < q.txTime))
    (hFirst :
      ∃ v, (init ++ [left, right]).head? = some v ∧
        v.txTime < mean) :
    (searchEdge mean (init ++ [left, right])).isSome ↔
      mean ≤ left.txTime := by
  induction init with
  | nil =>
      obtain ⟨v, hV, hBefore⟩ := hFirst
      obtain rfl : left = v := Option.some.inj hV
      simp [searchEdge, hBefore]
  | cons u init ih =>
      obtain ⟨v, hV, hBefore⟩ := hFirst
      obtain rfl : u = v := Option.some.inj hV
      obtain ⟨hBehind, hRest⟩ := List.pairwise_cons.mp hOrder
      cases init with
      | nil =>
          simp [searchEdge, hBefore]
      | cons v init =>
          have hLeft : v.txTime < left.txTime :=
            List.rel_of_pairwise_cons hRest (by simp)
          obtain ⟨w, rest, hTail⟩ :
              ∃ w rest, init ++ [left, right] = w :: rest :=
            List.exists_cons_of_ne_nil (by simp)
          rw [List.cons_append, List.cons_append, hTail,
            searchEdge]
          split
          · next hOver =>
              exact iff_of_true rfl (hOver.2.trans hLeft.le)
          · next hNot =>
              rw [← hTail]
              exact ih hRest ⟨v, rfl,
                lt_of_not_ge fun hOver => hNot ⟨hBefore, hOver⟩⟩

------------------------------------------------------------
-- The Estimate
------------------------------------------------------------

/- The mean is greater than what is never greater. -/
theorem lt_meanOf
    {c : ℚ}
    (hLeast : ∀ s ∈ samples, c ≤ s.txTime)
    (hGreater : ∃ s ∈ samples, c < s.txTime) :
    c < meanOf txTime samples := by
  have hLength : 0 < (samples.length : ℚ) := by
    obtain ⟨s, hS, -⟩ := hGreater
    exact Nat.cast_pos.mpr (List.length_pos_of_mem hS)
  have hSum :
      (samples.map (fun _ => c)).sum < (samples.map txTime).sum :=
    List.sum_lt_sum _ _ hLeast hGreater
  rw [List.map_const', List.sum_replicate, nsmul_eq_mul]
    at hSum
  rw [meanOf, lt_div_iff₀ hLength, mul_comm]
  exact hSum

/- `a` and `b` are those of the line through two samples. -/
theorem line_eq
    (hApart : left.txTime ≠ right.txTime) :
    (minus (some 0) (samplesYInter left right),
        samplesXInter left right) =
      (some
          (left.delay -
            left.txTime * rise txTime delay left right),
        some (rise txTime delay left right)) := by
  have hSlope :
      xAxisInter left.txTime (-left.delay) right.txTime
          (-right.delay) =
        some (rise txTime delay left right) :=
    samplesXInter_eq hApart
  rw [samplesXInter_eq hApart, samplesYInter, yAxisInter, hSlope]
  simp only [times, plus, minus, arith]
  congr 2
  ring

/- An edge over the mean overlies. -/
theorem overlies_of_edge
    (hHull : IsHull txTime delay {a | a ∈ samples} n)
    (hEdge : [right, left] <:+: n)
    (hLeft : left.txTime < meanOf txTime samples)
    (hRight : meanOf txTime samples ≤ right.txTime) :
    Overlies samples
      (left.delay -
        left.txTime * rise txTime delay left right)
      (rise txTime delay left right) := by
  have hApart := hLeft.trans_le hRight
  have hLine (time : ℚ) :
      left.delay - left.txTime * rise txTime delay left right +
          rise txTime delay left right * time =
        height txTime delay left right time := by
    rw [height]
    ring
  have hLeftIn : left ∈ samples :=
    hHull.mem left (hEdge.subset (by simp))
  have hRightIn : right ∈ samples :=
    hHull.mem right (hEdge.subset (by simp))
  refine ⟨?_, ?_, left, hLeftIn, right, hRightIn, hLeft, hRight,
    ?_, ?_⟩
  · intro s hS
    rw [hLine]
    exact hHull.covers.edge hEdge s hS
  · intro a' b' hAbove
    rw [hLine]
    exact height_le_of_covers hApart (hAbove left hLeftIn)
      (hAbove right hRightIn) hLeft.le hRight
  · rw [hLine, height_left]
  · rw [hLine, height_right hApart.ne]

/-
  The search fails if and only if the last edge is over the
  mean, as the other edges turn down there.
-/
theorem found_iff
    (hTwo : 2 ≤ samples.length)
    (hOrder :
      samples.Pairwise (fun p q => p.txTime < q.txTime)) :
    (searchEdge (meanOf txTime samples)
        (hullLoop samples).reverse).isSome ↔
      ¬ LastEdgeOverMean samples := by
  have hHull := hullLoop_isHull hTwo hOrder
  obtain ⟨p, q, hP, hQ, hApart⟩ :
      ∃ p q, p ∈ samples ∧ q ∈ samples ∧
        p.txTime < q.txTime := by
    match samples, hTwo with
    | p :: q :: _, _ =>
        exact ⟨p, q, List.mem_cons_self,
          List.mem_cons_of_mem _ List.mem_cons_self,
          List.rel_of_pairwise_cons hOrder List.mem_cons_self⟩
  obtain ⟨right, left, older, hStack⟩ :=
    hHull.exists_edge hP hQ hApart
  rw [hStack] at hHull
  have hShape :
      (hullLoop samples).reverse =
        older.reverse ++ [left, right] := by
    rw [hStack]
    simp
  have hForward :
      (older.reverse ++ [left, right]).Pairwise
        (fun p q => p.txTime < q.txTime) := by
    rw [← hShape, hStack, List.pairwise_reverse]
    exact hHull.turns.pairwise
  have hStart :
      ∃ v, (older.reverse ++ [left, right]).head? = some v ∧
        v.txTime < meanOf txTime samples := by
    obtain ⟨v, hV, hLeast⟩ := hHull.first
    refine ⟨v, ?_, lt_meanOf hLeast
      ⟨q, hQ, (hLeast p hP).trans_lt hApart⟩⟩
    rw [← hShape, hStack, List.head?_reverse]
    exact hV
  have hIn (v : ClockdriftSample)
      (hV : v ∈ right :: left :: older) : v ∈ samples :=
    hHull.mem v hV
  obtain ⟨w, hW, hMost⟩ := hHull.last
  obtain rfl : right = w := Option.some.inj hW
  have hLast : ∀ s ∈ samples, s.txTime ≤ right.txTime := by
    intro s hS
    rcases hMost s hS with rfl | hBefore
    · exact le_rfl
    · exact hBefore.le
  rw [hShape, searchEdge_isSome_iff hForward hStart]
  constructor
  · rintro hMean ⟨v, hV, last, hLastIn, hLatest, hBefore, hAbove⟩
    have hSame : last = right := by
      rcases hMost last hLastIn with hSame | hEarlier
      · exact hSame
      · exact absurd (hLatest right (hIn right (by simp)))
          hEarlier.not_ge
    subst hSame
    have hSide := hHull.last_edge hV hAbove
    exact absurd (hBefore.trans_le hMean) hSide.not_gt
  · intro hNone
    by_contra hBehind
    exact hNone ⟨left, hIn left (by simp), right,
      hIn right (by simp), hLast, not_le.mp hBehind,
      hHull.covers.1⟩

/- The estimate, on samples in order. -/
theorem linearProgramming_iff
    (hTwo : 2 ≤ samples.length)
    (hOrder :
      samples.Pairwise (fun p q => p.txTime < q.txTime)) :
    (∃ a b, linearProgramming samples = some (some a, some b) ∧
        Overlies samples a b) ↔
      ¬ LastEdgeOverMean samples := by
  rw [← found_iff hTwo hOrder]
  constructor
  · rintro ⟨a, b, hLine, -⟩
    cases hFound : searchEdge (meanOf txTime samples)
        (hullLoop samples).reverse with
    | none => simp [linearProgramming, hFound] at hLine
    | some edge => rfl
  · intro hSome
    obtain ⟨⟨left, right⟩, hFound⟩ :=
      Option.isSome_iff_exists.mp hSome
    obtain ⟨hEdge, hLeft, hRight⟩ := searchEdge_eq_some hFound
    refine ⟨_, _, ?_,
      overlies_of_edge (hullLoop_isHull hTwo hOrder) ?_ hLeft
        hRight⟩
    · rw [linearProgramming, hFound, Option.map_some]
      exact congrArg some (line_eq (hLeft.trans_le hRight).ne)
    · have hReversed := List.reverse_infix.mpr hEdge
      rwa [List.reverse_reverse] at hReversed

/- Neither the samples nor their mean depend on the order. -/
theorem meanOf_perm
    (hPerm : samples.Perm n) :
    meanOf txTime samples = meanOf txTime n := by
  rw [meanOf, meanOf, (hPerm.map txTime).sum_eq,
    hPerm.length_eq]

theorem Overlies.perm
    {a b : ℚ}
    (hOverlies : Overlies samples a b)
    (hPerm : samples.Perm n) :
    Overlies n a b := by
  have hAbove (a b : ℚ) : Above samples a b ↔ Above n a b :=
    ⟨fun h s hS => h s (hPerm.mem_iff.mpr hS),
      fun h s hS => h s (hPerm.mem_iff.mp hS)⟩
  obtain ⟨left, hLeft, right, hRight, hEdge⟩ := hOverlies.edge
  refine ⟨(hAbove a b).mp hOverlies.above, ?_, left,
    hPerm.mem_iff.mp hLeft, right, hPerm.mem_iff.mp hRight, ?_⟩
  · intro a' b' hOther
    rw [← meanOf_perm hPerm]
    exact hOverlies.least a' b' ((hAbove a' b').mpr hOther)
  · rwa [← meanOf_perm hPerm]

theorem LastEdgeOverMean.perm
    (hLast : LastEdgeOverMean samples)
    (hPerm : samples.Perm n) :
    LastEdgeOverMean n := by
  obtain ⟨left, hLeft, last, hIn, hLatest, hBefore, hAbove⟩ :=
    hLast
  refine ⟨left, hPerm.mem_iff.mp hLeft, last,
    hPerm.mem_iff.mp hIn, ?_, ?_, ?_⟩
  · exact fun s hS => hLatest s (hPerm.mem_iff.mpr hS)
  · rwa [← meanOf_perm hPerm]
  · exact fun s hS => hAbove s (hPerm.mem_iff.mpr hS)

/- Samples of different times are in order when sorted. -/
theorem sort_pairwise
    (srt : Sorting)
    (hDistinct : (samples.map txTime).Nodup) :
    (srt.sort samples).Pairwise
      (fun p q => p.txTime < q.txTime) := by
  have hNodup : ((srt.sort samples).map txTime).Nodup :=
    ((srt.perm samples).map txTime).nodup_iff.mpr hDistinct
  refine ((srt.sorted samples).and
    (List.pairwise_map.mp hNodup)).imp ?_
  intro p q hBoth
  exact lt_of_le_of_ne hBoth.1 hBoth.2

/- If the last edge is over the mean, none is found. -/
theorem not_overlies_of_last_edge
    (hTwo : 2 ≤ samples.length)
    (hDistinct : (samples.map txTime).Nodup)
    (hLast : LastEdgeOverMean samples)
    (srt : Sorting) :
    ¬ ∃ a b,
      linearProgramming (srt.sort samples) =
          some (some a, some b) ∧
        Overlies samples a b := by
  have hPerm := srt.perm samples
  rintro ⟨a, b, hLine, hOverlies⟩
  refine (linearProgramming_iff (by rwa [hPerm.length_eq])
    (sort_pairwise srt hDistinct)).mp
      ⟨a, b, hLine, hOverlies.perm hPerm.symm⟩ ?_
  exact hLast.perm hPerm.symm

/-
  The linear programming finds the line over the samples with
  the least value at the mean if and only if the last edge of
  their hull is not the one over the mean.
-/
theorem clockdrift_hull_iff
    (srt : Sorting)
    (samples : List ClockdriftSample)
    (hTwo : 2 ≤ samples.length)
    (hDistinct : (samples.map txTime).Nodup) :
    (∃ a b,
        linearProgramming (srt.sort samples) =
            some (some a, some b) ∧
          Overlies samples a b) ↔
      ¬ LastEdgeOverMean samples := by
  have hPerm := srt.perm samples
  constructor
  · intro hFound hLast
    exact not_overlies_of_last_edge hTwo hDistinct hLast srt hFound
  · intro hNot
    obtain ⟨a, b, hLine, hOverlies⟩ :=
      (linearProgramming_iff (by rwa [hPerm.length_eq])
        (sort_pairwise srt hDistinct)).mpr
          (fun hLast => hNot (hLast.perm hPerm))
    exact ⟨a, b, hLine, hOverlies.perm hPerm⟩

/- The mean is under the first of two edges. -/
theorem first_edge_found :
    ∃ a b,
      linearProgramming
          (Sorting.stable.sort [⟨0, 0⟩, ⟨1, 1⟩, ⟨2, 0⟩]) =
        some (some a, some b) ∧
      Overlies [⟨0, 0⟩, ⟨1, 1⟩, ⟨2, 0⟩] a b := by
  refine (clockdrift_hull_iff Sorting.stable _ (by simp)
    (by simp)).mpr ?_
  rintro ⟨left, hLeft, last, hLast, hLatest, hBefore, hAbove⟩
  have hMean :
      meanOf txTime [⟨0, 0⟩, ⟨1, 1⟩, ⟨2, 0⟩] = 1 := by
    norm_num [meanOf]
  have hEnd := hLatest ⟨2, 0⟩ (by simp)
  have hMiddle := hAbove ⟨1, 1⟩ (by simp)
  simp only [List.mem_cons, List.not_mem_nil, or_false]
    at hLeft hLast
  rcases hLeft with rfl | rfl | rfl
  · rcases hLast with rfl | rfl | rfl
    · norm_num at hEnd
    · norm_num at hEnd
    · norm_num at hMiddle
  · norm_num [hMean] at hBefore
  · norm_num [hMean] at hBefore

/- A hundred packets with the same delay have no estimate. -/
theorem constant_delay_not_found :
    ¬ ∃ a b,
      linearProgramming
          (Sorting.stable.sort
            (packetSamples (ClockdriftMeasure.inOrder 100))) =
        some (some a, some b) ∧
      Overlies (packetSamples (ClockdriftMeasure.inOrder 100))
        a b := by
  rw [ClockdriftMeasure.packetSamples_inOrder]
  have hIn (i : Nat) (hBelow : i < 100) :
      ClockdriftMeasure.sampleAt i ∈
        (List.range 100).map ClockdriftMeasure.sampleAt :=
    List.mem_map.mpr ⟨i, List.mem_range.mpr hBelow, rfl⟩
  have hTime (s : ClockdriftSample)
      (hS :
        s ∈ (List.range 100).map ClockdriftMeasure.sampleAt) :
      0 ≤ s.txTime ∧ s.txTime ≤ 99 ∧ s.delay = 0 := by
    obtain ⟨i, hI, rfl⟩ := List.mem_map.mp hS
    rw [List.mem_range] at hI
    have hMost : (i : ℚ) ≤ 99 := by
      exact_mod_cast Nat.le_of_lt_succ hI
    exact ⟨Nat.cast_nonneg i, hMost, rfl⟩
  refine not_overlies_of_last_edge (by simp) ?_ ?_ Sorting.stable
  · rw [List.map_map]
    refine List.nodup_range.map ?_
    intro i j hSame
    exact Nat.cast_injective hSame
  · refine ⟨ClockdriftMeasure.sampleAt 0, hIn 0 (by omega),
      ClockdriftMeasure.sampleAt 99, hIn 99 (by omega), ?_, ?_, ?_⟩
    · intro s hS
      simpa [ClockdriftMeasure.sampleAt] using (hTime s hS).2.1
    · refine lt_meanOf ?_ ⟨_, hIn 1 (by omega), ?_⟩
      · intro s hS
        simpa [ClockdriftMeasure.sampleAt] using (hTime s hS).1
      · norm_num [ClockdriftMeasure.sampleAt]
    · intro s hS
      rw [(hTime s hS).2.2]
      simp [ClockdriftMeasure.sampleAt]

end MONL

end NapaBaselibs
