import NapaBaselibs.MONL.Capprobe
import Mathlib.Data.List.ReduceOption
import Mathlib.Data.List.MinMax
import Mathlib.Tactic.Linarith
import Mathlib.Tactic.NormNum

/-
  The filter on delays of `capprobe_measure.cpp`.

  A run is followed with the delays of the packets since the
  last estimate.  A packet that is a new minimum stores
  `r[P_CAPPROBE_FILTER]`, so that the minimum is right as
  long as that field agrees with the delay.

  Key definitions include:
    * `least`
    * `CapprobeMeasure.Point`, `CapprobeMeasure.points`
    * `CapprobeMeasure.Point.Filtered`,
      `CapprobeMeasure.Point.Sound`

  Key theorems include:
    * `CapprobeMeasure.Point.filtered_iff`
    * `CapprobeMeasure.step_minDelay`
    * `delay_filter_right_iff`
-/

------------------------------------------------------------
-- The Least Number
------------------------------------------------------------

namespace NapaBaselibs

namespace MONL

/- The minimum of the results that are numbers. -/
def least (results : List Result) : Result :=
  results.reduceOption.min?

/- It is below what is known so far, or the first. -/
def NewLeast
    (results : List Result)
    (r : Result) : Prop :=
  less r (least results) = true ∨ least results = none

instance
    (results : List Result)
    (r : Result) :
    Decidable (NewLeast results r) :=
  inferInstanceAs (Decidable (_ ∨ _))

@[simp] theorem least_nil : least [] = none := by
  rfl

theorem least_concat_none
    (results : List Result) :
    least (results ++ [none]) = least results := by
  simp [least, List.reduceOption_append]

theorem least_concat_some
    (results : List Result)
    (q : ℚ) :
    least (results ++ [some q]) =
      match least results with
      | none => some q
      | some v => some (min v q) := by
  unfold least
  rw [List.reduceOption_append]
  cases hNumbers : results.reduceOption with
  | nil => simp [List.reduceOption]
  | cons v vs =>
      have hSingle : [some q].reduceOption = [q] := by
        rfl
      rw [hSingle, List.cons_append, List.min?_cons',
        List.min?_cons', List.foldl_append]
      rfl

/- One more result: it is the minimum, or that stays. -/
theorem least_concat
    (results : List Result)
    (r : Result) :
    least (results ++ [r]) =
      if NewLeast results r then r else least results := by
  cases r with
  | none =>
      rw [least_concat_none]
      split
      · next hNew =>
          rcases hNew with hLess | hNone
          · cases least results <;> cases hLess
          · exact hNone
      · rfl
  | some q =>
      rw [least_concat_some]
      cases hLeast : least results with
      | none => simp [NewLeast, hLeast]
      | some v =>
          by_cases hLess : q < v
          · rw [if_pos (.inl (by simpa [less, hLeast] using hLess))]
            simp [min_eq_right hLess.le]
          · rw [if_neg (by simpa [NewLeast, less, hLeast] using hLess)]
            simp [min_eq_left (not_lt.mp hLess)]

/- No number of the list is below its minimum. -/
theorem least_concat_le
    (results : List Result)
    (q : ℚ) :
    ∃ v, least (results ++ [some q]) = some v ∧ v ≤ q := by
  rw [least_concat_some]
  cases least results with
  | none => exact ⟨q, rfl, le_refl q⟩
  | some v => exact ⟨min v q, rfl, min_le_right v q⟩

------------------------------------------------------------
-- Packets Of A Run
------------------------------------------------------------

namespace CapprobeMeasure

/-
  A packet of a run, with the state it meets and the delays
  of the packets before it since the last estimate.
-/
structure Point where
  handler : Handler
  p : CapprobeParams
  r : CapprobeResults
  before : CapprobeMeasure
  since : List Result

namespace Point

/- The delays since the last estimate, with this one. -/
def delays (pt : Point) : List Result :=
  pt.since ++ [pt.r.correctedDelay]

/- The state that the filter looks at. -/
def noted (pt : Point) : CapprobeMeasure :=
  pt.before.noteDelay pt.r

/- The number that the handler compares. -/
def pairNumber (pt : Point) : Result :=
  match pt.handler with
  | .receiveOobData => some pt.before.pkt.toNat
  | .rxPkt => pt.r.dataId

/- The packet has the number of the one before it. -/
def follows (pt : Point) : Bool :=
  sameNumber pt.pairNumber pt.before.lastRxPn

def gap (pt : Point) : Result :=
  minus pt.r.receiveTime pt.before.lastRx

/- The gap that enters the samples, if one does. -/
def entered (pt : Point) : Option ℚ :=
  if pt.follows then
    pt.noted.entering pt.p pt.before.lastRxDelay
      pt.r.correctedDelay pt.gap
  else none

/- An estimate is made. -/
def estimates (pt : Point) : Bool :=
  pt.follows &&
    decide
      (pt.p.pktTh ≤
        (pt.noted.collect pt.p pt.before.lastRxDelay
          pt.r.correctedDelay pt.gap).samples.length)

/- The delays since the last estimate, after the packet. -/
def sinceAfter (pt : Point) : List Result :=
  if pt.estimates then [] else pt.delays

/- A delay is within the threshold of the minimum. -/
def Within
    (pt : Point)
    (delay : Result) : Prop :=
  less delay
    (plus (least pt.delays) (some (pt.p.delayTh / 1000000))) =
      true

/-
  The minimum is that of the delays since the last estimate,
  before the packet and when it is filtered, and a gap enters
  only with two delays within the threshold.
-/
structure Filtered (pt : Point) : Prop where
  before : pt.before.minDelay = least pt.since
  noted : pt.noted.minDelay = least pt.delays
  entered :
    ∀ gap, pt.entered = some gap →
      pt.Within pt.before.lastRxDelay ∧
        pt.Within pt.r.correctedDelay

/-
  The field that is stored agrees with the delay if that is a
  new minimum; and while the threshold is negative, which is
  no filter, there is no gap.
-/
structure Sound (pt : Point) : Prop where
  field :
    NewLeast pt.since pt.r.correctedDelay →
      pt.r.initialTtl = pt.r.correctedDelay
  filterOn :
    0 ≤ pt.p.delayTh ∨ pt.follows = false ∨ pt.gap = none

end Point

/- The packet of an event. -/
def pointAt
    (m : CapprobeMeasure)
    (since : List Result) : Event → Option Point
  | .packet handler p r => some ⟨handler, p, r, m, since⟩
  | .paramChange _ => none

/- The packets of a run, as long as the handlers return. -/
def points
    (fuel : Nat) :
    List Event → CapprobeMeasure → List Result → List Point
  | [], _, _ => []
  | e :: es, m, since =>
      let point := m.pointAt since e
      point.toList ++
        match m.step fuel e with
        | .ok (m, _) =>
            points fuel es m
              (point.elim since Point.sinceAfter)
        | .error _ => []

------------------------------------------------------------
-- One Packet
------------------------------------------------------------

namespace Point

variable {pt : Point}

/- The minimum is right after a packet if its field is. -/
theorem noted_iff
    (hBefore : pt.before.minDelay = least pt.since) :
    pt.noted.minDelay = least pt.delays ↔
      (NewLeast pt.since pt.r.correctedDelay →
        pt.r.initialTtl = pt.r.correctedDelay) := by
  have hNoted :
      pt.noted.minDelay =
        if NewLeast pt.since pt.r.correctedDelay then
          pt.r.initialTtl
        else least pt.since := by
    simp only [noted, noteDelay, hBefore]
    rfl
  rw [hNoted, delays, least_concat]
  by_cases hNew : NewLeast pt.since pt.r.correctedDelay
  · rw [if_pos hNew, if_pos hNew]
    exact ⟨fun hSame _ => hSame, fun hSame => hSame hNew⟩
  · rw [if_neg hNew, if_neg hNew]
    exact ⟨fun _ hAbsurd => absurd hAbsurd hNew, fun _ => rfl⟩

/- With the right minimum a negative threshold lets none in. -/
theorem not_within_of_negative
    (hNegative : pt.p.delayTh < 0) :
    ¬ pt.Within pt.r.correctedDelay := by
  intro hWithin
  unfold Within at hWithin
  cases hDelay : pt.r.correctedDelay with
  | none =>
      rw [hDelay] at hWithin
      cases hWithin
  | some q =>
      rcases least_concat_le pt.since q with ⟨v, hLeast, hLe⟩
      rw [delays, hDelay, hLeast] at hWithin
      have hLess : q < v + pt.p.delayTh / 1000000 := by
        simpa [less, plus, arith] using hWithin
      linarith

/- The filter is right at a packet if the packet is sound. -/
theorem filtered_iff
    (hBefore : pt.before.minDelay = least pt.since) :
    pt.Filtered ↔ pt.Sound := by
  constructor
  · intro hFiltered
    refine ⟨(noted_iff hBefore).mp hFiltered.noted, ?_⟩
    by_contra hOpen
    push Not at hOpen
    rcases hOpen with ⟨hNegative, hFollows, hGap⟩
    rcases Option.ne_none_iff_exists'.mp hGap with ⟨gap, hSome⟩
    have hEntered : pt.entered = some gap := by
      have hPasses :
          pt.noted.passes pt.p pt.before.lastRxDelay
            pt.r.correctedDelay = true := by
        simp [passes, hNegative]
      rw [entered, if_pos (by simpa using hFollows), entering,
        if_pos hPasses, hSome]
    exact not_within_of_negative hNegative
      (hFiltered.entered gap hEntered).2
  · intro hSound
    have hNoted := (noted_iff hBefore).mpr hSound.field
    refine ⟨hBefore, hNoted, ?_⟩
    intro gap hEntered
    rw [entered] at hEntered
    by_cases hFollows : pt.follows = true
    · rw [if_pos hFollows, entering] at hEntered
      by_cases hPasses :
          pt.noted.passes pt.p pt.before.lastRxDelay
            pt.r.correctedDelay = true
      · rw [if_pos hPasses] at hEntered
        have hOn : ¬ pt.p.delayTh < 0 := by
          rcases hSound.filterOn with hOn | hAlone | hNaN
          · exact not_lt.mpr hOn
          · rw [hFollows] at hAlone
            cases hAlone
          · rw [hNaN] at hEntered
            cases hEntered
        simpa [passes, hOn, hNoted, Within] using hPasses
      · rw [if_neg hPasses] at hEntered
        cases hEntered
    · rw [if_neg hFollows] at hEntered
      cases hEntered

end Point

------------------------------------------------------------
-- Runs
------------------------------------------------------------

variable {fuel : Nat}
variable {m m' : CapprobeMeasure}
variable {cap : Result}
variable {since : List Result}
variable {handler : Handler}
variable {p : CapprobeParams}
variable {r : CapprobeResults}

/- A call of `receive` and its point. -/
theorem receive_minDelay
    {size : Result}
    (hOk :
      m.receive fuel p
          (Point.pairNumber ⟨handler, p, r, m, since⟩) size r =
        .ok (m', cap)) :
    m'.minDelay =
      if Point.estimates ⟨handler, p, r, m, since⟩ then none
      else (m.noteDelay r).minDelay := by
  simp only [receive] at hOk
  by_cases hFollows :
      Point.follows ⟨handler, p, r, m, since⟩ = true
  · have hCompared := hFollows
    simp only [Point.follows] at hCompared
    rw [show (m.noteDelay r).lastRxPn = m.lastRxPn from rfl,
      if_pos hCompared] at hOk
    cases hComputed :
        (m.noteDelay r).computeCapacity fuel p
          (m.noteDelay r).lastRxDelay r.correctedDelay
          (minus r.receiveTime (m.noteDelay r).lastRx) size with
    | error fault =>
        rw [hComputed] at hOk
        cases hOk
    | ok result =>
        rcases result with ⟨after, value⟩
        rw [hComputed] at hOk
        injection hOk with hPair
        injection hPair with hState hCap
        rw [← hState]
        rcases computeCapacity_cases hComputed with
          ⟨hEnough, hAfter⟩ | ⟨hShort, hAfter⟩
        · rw [if_pos (by
            simp only [Point.estimates, hFollows, Bool.true_and]
            exact decide_eq_true hEnough)]
          rw [hAfter]
        · rw [if_neg (by
            simp only [Point.estimates, hFollows, Bool.true_and,
              decide_eq_true_eq]
            exact hShort)]
          rw [hAfter]
          exact collect_minDelay ..
  · have hCompared := hFollows
    simp only [Point.follows] at hCompared
    rw [show (m.noteDelay r).lastRxPn = m.lastRxPn from rfl,
      if_neg hCompared] at hOk
    injection hOk with hPair
    injection hPair with hState hCap
    rw [if_neg (by simp [Point.estimates, hFollows]), ← hState]

/-
  After a step the minimum is that of the delays since the
  last estimate, if it was so for the filter.
-/
theorem step_minDelay
    {e : Event}
    (hOk : m.step fuel e = .ok (m', cap))
    (hBefore : m.minDelay = least since)
    (hPoint : ∀ pt ∈ m.pointAt since e, pt.Filtered) :
    m'.minDelay =
      least ((m.pointAt since e).elim since Point.sinceAfter) := by
  cases e with
  | paramChange change =>
      simp only [step] at hOk
      injection hOk with hPair
      injection hPair with hState hCap
      rw [← hState]
      cases change <;> exact hBefore
  | packet handler p r =>
      have hFiltered :
          Point.Filtered ⟨handler, p, r, m, since⟩ :=
        hPoint _ rfl
      have hMin :
          m'.minDelay =
            if Point.estimates ⟨handler, p, r, m, since⟩ then none
            else (m.noteDelay r).minDelay := by
        cases handler with
        | receiveOobData =>
            simp only [step, receiveOobData] at hOk
            exact receive_minDelay hOk
        | rxPkt =>
            simp only [step, rxPkt] at hOk
            cases hReceived :
                m.receive fuel p r.dataId m.lastSize r with
            | error fault =>
                rw [hReceived] at hOk
                cases hOk
            | ok result =>
                rcases result with ⟨after, value⟩
                rw [hReceived] at hOk
                injection hOk with hPair
                injection hPair with hState hCap
                have hAfter :
                    after.minDelay =
                      if Point.estimates ⟨.rxPkt, p, r, m, since⟩
                      then none
                      else (m.noteDelay r).minDelay :=
                  receive_minDelay hReceived
                rw [← hState]
                exact hAfter
      rw [hMin]
      simp only [pointAt, Option.elim_some, Point.sinceAfter]
      split
      · rfl
      · exact hFiltered.noted

/- All packets of a run are filtered if all are sound. -/
theorem points_filtered_iff
    (fuel : Nat)
    (events : List Event)
    (hBefore : m.minDelay = least since) :
    (∀ pt ∈ points fuel events m since, pt.Filtered) ↔
      ∀ pt ∈ points fuel events m since, pt.Sound := by
  induction events generalizing m since with
  | nil => simp [points]
  | cons e es ih =>
      have hHead :
          (∀ pt ∈ m.pointAt since e, pt.Filtered) ↔
            ∀ pt ∈ m.pointAt since e, pt.Sound := by
        cases e with
        | paramChange change => simp [pointAt]
        | packet handler p r =>
            have hPoint :
                Point.Filtered ⟨handler, p, r, m, since⟩ ↔
                  Point.Sound ⟨handler, p, r, m, since⟩ :=
              Point.filtered_iff hBefore
            simpa [pointAt] using hPoint
      simp only [points, List.forall_mem_append,
        Option.mem_toList]
      cases hStep : m.step fuel e with
      | error fault => simpa using hHead
      | ok result =>
          rcases result with ⟨after, cap⟩
          have hRest :
              (∀ pt ∈ m.pointAt since e, pt.Filtered) →
                ((∀ pt ∈ points fuel es after
                    ((m.pointAt since e).elim since
                      Point.sinceAfter), pt.Filtered) ↔
                  ∀ pt ∈ points fuel es after
                    ((m.pointAt since e).elim since
                      Point.sinceAfter), pt.Sound) :=
            fun hPoint => ih (step_minDelay hStep hBefore hPoint)
          constructor
          · rintro ⟨hFirst, hLater⟩
            exact ⟨hHead.mp hFirst, (hRest hFirst).mp hLater⟩
          · rintro ⟨hFirst, hLater⟩
            have hFiltered := hHead.mpr hFirst
            exact ⟨hFiltered, (hRest hFiltered).mpr hLater⟩

end CapprobeMeasure

------------------------------------------------------------
-- The Filter On Delays
------------------------------------------------------------

open CapprobeMeasure

/-
  In every run the minimum is that of the delays since the
  last estimate, and only gaps between packets near to it
  enter, exactly if each new minimum comes with the same
  value in `r[P_CAPPROBE_FILTER]` and no gap comes while the
  threshold is negative.
-/
theorem delay_filter_right_iff
    (fuel : Nat)
    (memory : BitVec 32)
    (m : CapprobeMeasure)
    (events : List CapprobeMeasure.Event) :
    (∀ pt ∈ points fuel events (m.init memory) [],
        pt.Filtered) ↔
      ∀ pt ∈ points fuel events (m.init memory) [],
        pt.Sound :=
  points_filtered_iff fuel events rfl

/- The parameters by default. -/
def defaultCapprobeParams : CapprobeParams where
  pktTh := 100
  delayTh := 100
  headerSize := 66
  filter := 0
  numIntervals := 1000
  pktTh_min := by norm_num
  delayTh_min := by norm_num
  headerSize_min := headerSize_default
  filter_min := filter_mode
  filter_max := one_in_bounds
  numIntervals_min := numIntervals_default

/- Two packets of a pair, with delays of 0.05 s and 10 s. -/
def slowPair : List CapprobeMeasure.Event :=
  [.packet .receiveOobData defaultCapprobeParams
      ⟨some 1300, some 1, some (1 / 20), some 64, some 0⟩,
    .packet .receiveOobData defaultCapprobeParams
      ⟨some 1300, some 11, some 10, some 64, some 0⟩]

/-
  64 is taken for the first delay, and so the gap of the pair
  enters although the second is far from it.
-/
theorem slow_pair_enters :
    ¬ ∀ (fuel : Nat)
        (memory : BitVec 32)
        (m : CapprobeMeasure)
        (events : List CapprobeMeasure.Event),
      ∀ pt ∈ points fuel events (m.init memory) [],
        pt.Filtered := by
  intro hAll
  have hFiltered :=
    hAll 0 0 ⟨0, none, none, none, none, none, none, none, none, []⟩
      slowPair ⟨.receiveOobData, defaultCapprobeParams,
        ⟨some 1300, some 1, some (1 / 20), some 64, some 0⟩,
        ⟨0, none, none, none, none, none, none, none, none, []⟩,
        []⟩ (by
          simp [slowPair, points, pointAt, init])
  have hNoted : some (64 : ℚ) = some (1 / 20) :=
    hFiltered.noted
  norm_num at hNoted

end MONL

end NapaBaselibs
