import NapaBaselibs.MONL.ResultBuffer
import Mathlib.Data.List.Sort

/-
  `capprobe_measure.cpp`: the capacity of a path from the
  gaps between packets that follow each other.

  This is the side that receives.  A minimum of the delays is
  kept, and a gap is collected if the delays of its packets
  are near to it.  Once there are enough gaps, one of them is
  chosen and the collection starts again.  The loops take
  fuel, and a call has no result if it does not return or if
  it reads a sample that is not there.

  Key definitions include:
    * `CapprobeParams`, `CapprobeMeasure`
    * `CapprobeMeasure.computeCapacity`
    * `CapprobeMeasure.receiveOobData`,
      `CapprobeMeasure.rxPkt`
    * `CapprobeMeasure.Reachable`
-/

------------------------------------------------------------
-- The Measure
------------------------------------------------------------

namespace NapaBaselibs

namespace MONL

/- `a >= b`, which is false of NaN. -/
def atLeast : Result → Result → Bool
  | some a, some b => decide (b ≤ a)
  | _, _ => false

/- `a == b`, which is false of NaN. -/
def sameNumber : Result → Result → Bool
  | some a, some b => decide (a = b)
  | _, _ => false

/-
  The parameters that are read here, with what the plugin
  admits for each.
-/
structure CapprobeParams where
  pktTh : ℚ
  delayTh : ℚ
  headerSize : ℚ
  filter : ℚ
  numIntervals : ℚ
  pktTh_min : 0 ≤ pktTh
  delayTh_min : -1 ≤ delayTh
  headerSize_min : 0 ≤ headerSize
  filter_min : 0 ≤ filter
  filter_max : filter ≤ 1
  numIntervals_min : 0 ≤ numIntervals

/- Values of the settings that are in their bounds. -/
theorem headerSize_default : (0 : ℚ) ≤ 66 := by
  decide

theorem delayTh_off : (-1 : ℚ) ≤ -1 := by
  decide

theorem filter_mode : (0 : ℚ) ≤ 0 := by
  decide

theorem one_in_bounds : (0 : ℚ) ≤ 1 := by
  decide

theorem numIntervals_default : (0 : ℚ) ≤ 1000 := by
  decide

/-
  The results of a packet that are read.  `P_CAPPROBE_FILTER`
  is the number 14, which as an index of a list of packets is
  that of `R_INITIAL_TTL`.
-/
structure CapprobeResults where
  size : Result
  receiveTime : Result
  correctedDelay : Result
  initialTtl : Result
  dataId : Result

/-
  `CapprobeMeasure`.  Of `pkt`, which only the other side
  writes, the four bytes that are read as a pair number.
-/
structure CapprobeMeasure where
  pkt : BitVec 32
  minDelay : Result
  minIpd : Result
  maxIpd : Result
  lastRx : Result
  lastRxDelay : Result
  lastRxPn : Result
  lastSize : Result
  maxSize : Result
  samples : List ℚ

/- How a call fails. -/
inductive CapprobeFault where
  | noReturn
  | unsetIndex
  | sampleIndex
deriving DecidableEq, Repr

namespace CapprobeMeasure

/- `CapprobeMeasure::init`; `pkt` is what was in its memory. -/
def init
    (memory : BitVec 32)
    (m : CapprobeMeasure) : CapprobeMeasure :=
  { m with
    samples := []
    pkt := memory
    minDelay := none
    minIpd := none
    lastRx := none
    lastRxPn := none
    maxIpd := none
    lastSize := none }

/- The changes of parameters that change more than those. -/
inductive Change where
  | pktTh
  | payloadSize (memory : BitVec 32)

/- `CapprobeMeasure::paramChange`. -/
def paramChange
    (change : Change)
    (m : CapprobeMeasure) : CapprobeMeasure :=
  match change with
  | .pktTh => { m with samples := [] }
  | .payloadSize memory => { m with pkt := memory }

------------------------------------------------------------
-- Collecting Gaps
------------------------------------------------------------

/- The filter on `min_delay`; a negative threshold is none. -/
def passes
    (p : CapprobeParams)
    (delay1 delay2 : Result)
    (m : CapprobeMeasure) : Bool :=
  let bound := plus m.minDelay (some (p.delayTh / 1000000))
  (less delay1 bound && less delay2 bound) ||
    decide (p.delayTh < 0)

/- A gap that is a number joins the samples. -/
def addGap
    (m : CapprobeMeasure)
    (ipg : ℚ) : CapprobeMeasure :=
  { m with
    samples := m.samples ++ [ipg]
    minIpd :=
      if less (some ipg) m.minIpd ∨ m.minIpd = none then some ipg
      else m.minIpd
    maxIpd :=
      if less m.maxIpd (some ipg) ∨ m.maxIpd = none then some ipg
      else m.maxIpd }

/- The gap that is collected, if one is. -/
def entering
    (p : CapprobeParams)
    (delay1 delay2 ipg : Result)
    (m : CapprobeMeasure) : Option ℚ :=
  if m.passes p delay1 delay2 then ipg else none

/- The first part of `computeCapacity`. -/
def collect
    (p : CapprobeParams)
    (delay1 delay2 ipg : Result)
    (m : CapprobeMeasure) : CapprobeMeasure :=
  match m.entering p delay1 delay2 ipg with
  | some gap => m.addGap gap
  | none => m

------------------------------------------------------------
-- Choosing A Gap
------------------------------------------------------------

/- The variables of the loop over the samples. -/
structure PdfScan where
  c : Int
  maxC : Int
  iMax : Int
  threshold : Result

/- `while(samples[i] >= threshold) threshold += interval;` -/
def advance
    (interval : Result)
    (sample : ℚ) : Nat → Result → Option Result
  | 0, _ => none
  | fuel + 1, threshold =>
      if atLeast (some sample) threshold then
        advance interval sample fuel (plus threshold interval)
      else some threshold

/- The body of the loop over the samples. -/
def pdfStep
    (fuel : Nat)
    (interval : Result)
    (i : Nat)
    (sample : ℚ)
    (s : PdfScan) : Option PdfScan :=
  if atLeast (some sample) s.threshold then
    let s :=
      if s.maxC < s.c then
        { s with
          maxC := s.c
          iMax := i - s.c }
      else s
    (advance interval sample fuel s.threshold).map
      (fun threshold =>
        { s with
          threshold := threshold
          c := 1 })
  else some { s with c := s.c + 1 }

/- The loop, from an index on. -/
def pdfLoop
    (fuel : Nat)
    (interval : Result) :
    Nat → List ℚ → PdfScan → Option PdfScan
  | _, [], s => some s
  | i, sample :: samples, s =>
      (pdfStep fuel interval i sample s).bind
        (pdfLoop fuel interval (i + 1) samples)

/- `interval`. -/
def interval
    (p : CapprobeParams)
    (m : CapprobeMeasure) : Result :=
  quotient (minus m.maxIpd m.minIpd) (some p.numIntervals)

/- `j` of the filter 0. -/
def pdfIndex
    (fuel : Nat)
    (p : CapprobeParams)
    (samples : List ℚ)
    (m : CapprobeMeasure) : Option Int :=
  (pdfLoop fuel (m.interval p) 0 samples
    { c := 0
      maxC := -1
      iMax := 0
      threshold := plus m.minIpd (m.interval p) }).map
    (fun s => s.iMax + s.maxC.tdiv 2)

/- `j` of the filter 1; the loop before it has no effect. -/
def medianIndex (samples : List ℚ) : Int :=
  (truncated (samples.length * (1 / 10))).tdiv 2

/- `j` after the switch. -/
def selectIndex
    (fuel : Nat)
    (p : CapprobeParams)
    (samples : List ℚ)
    (m : CapprobeMeasure) : Except CapprobeFault Int :=
  match truncated p.filter with
  | 0 =>
      match m.pdfIndex fuel p samples with
      | some j => .ok j
      | none => .error .noReturn
  | 1 => .ok (medianIndex samples)
  | _ => .error .unsetIndex

/- `samples[j]`. -/
def sampleAt
    (samples : List ℚ)
    (j : Int) : Except CapprobeFault ℚ :=
  if 0 ≤ j then
    match samples[j.toNat]? with
    | some sample => .ok sample
    | none => .error .sampleIndex
  else .error .sampleIndex

/- `std::sort`, and the sample that is divided by. -/
def selected
    (fuel : Nat)
    (p : CapprobeParams)
    (m : CapprobeMeasure) : Except CapprobeFault ℚ :=
  let samples := m.samples.insertionSort (· ≤ ·)
  match m.selectIndex fuel p samples with
  | .ok j => sampleAt samples j
  | .error fault => .error fault

/- `CapprobeMeasure::computeCapacity`. -/
def computeCapacity
    (fuel : Nat)
    (p : CapprobeParams)
    (delay1 delay2 ipg size : Result)
    (m : CapprobeMeasure) :
    Except CapprobeFault (CapprobeMeasure × Result) :=
  let m := m.collect p delay1 delay2 ipg
  if p.pktTh ≤ m.samples.length then
    let maxSize :=
      if less m.maxSize size ∨ m.maxSize = none then size
      else m.maxSize
    match m.selected fuel p with
    | .ok sample =>
        .ok
          ({ m with
              samples := []
              minDelay := none
              minIpd := none
              maxIpd := none
              maxSize := none },
            quotient
              (times (plus maxSize (some p.headerSize)) (some 8))
              (some sample))
    | .error fault => .error fault
  else .ok (m, none)

------------------------------------------------------------
-- Received Packets
------------------------------------------------------------

/- "look for min delay". -/
def noteDelay
    (r : CapprobeResults)
    (m : CapprobeMeasure) : CapprobeMeasure :=
  { m with
    minDelay :=
      if less r.correctedDelay m.minDelay ∨ m.minDelay = none then
        r.initialTtl
      else m.minDelay }

/- What both handlers do with their pair number and size. -/
def receive
    (fuel : Nat)
    (p : CapprobeParams)
    (pn size : Result)
    (r : CapprobeResults)
    (m : CapprobeMeasure) :
    Except CapprobeFault (CapprobeMeasure × Result) :=
  let m := m.noteDelay r
  let computed :=
    if sameNumber pn m.lastRxPn then
      m.computeCapacity fuel p m.lastRxDelay r.correctedDelay
        (minus r.receiveTime m.lastRx) size
    else .ok (m, none)
  match computed with
  | .ok (m, cap) =>
      .ok
        ({ m with
            lastRx := r.receiveTime
            lastRxDelay := r.correctedDelay
            lastRxPn := pn }, cap)
  | .error fault => .error fault

/- `CapprobeMeasure::receiveOobData`. -/
def receiveOobData
    (fuel : Nat)
    (p : CapprobeParams)
    (r : CapprobeResults)
    (m : CapprobeMeasure) :
    Except CapprobeFault (CapprobeMeasure × Result) :=
  m.receive fuel p (some m.pkt.toNat) r.size r

/- `CapprobeMeasure::RxPkt`. -/
def rxPkt
    (fuel : Nat)
    (p : CapprobeParams)
    (r : CapprobeResults)
    (m : CapprobeMeasure) :
    Except CapprobeFault (CapprobeMeasure × Result) :=
  match m.receive fuel p r.dataId m.lastSize r with
  | .ok (m, cap) => .ok ({ m with lastSize := r.size }, cap)
  | .error fault => .error fault

/- The two handlers of packets. -/
inductive Handler where
  | receiveOobData
  | rxPkt

/- What happens, with the parameters at that time. -/
inductive Event where
  | packet
      (handler : Handler)
      (p : CapprobeParams)
      (r : CapprobeResults)
  | paramChange (change : Change)

/- An event, and what a handler computes. -/
def step
    (fuel : Nat) :
    Event → CapprobeMeasure →
      Except CapprobeFault (CapprobeMeasure × Result)
  | .packet .receiveOobData p r, m => m.receiveOobData fuel p r
  | .packet .rxPkt p r, m => m.rxPkt fuel p r
  | .paramChange change, m => .ok (m.paramChange change, none)

/- The states after some events. -/
inductive Reachable : CapprobeMeasure → Prop where
  | init
      (memory : BitVec 32)
      (m : CapprobeMeasure) :
      Reachable (m.init memory)
  | step
      {fuel : Nat}
      {e : Event}
      {m m' : CapprobeMeasure}
      {cap : Result}
      (hBefore : Reachable m)
      (hStep : m.step fuel e = .ok (m', cap)) :
      Reachable m'

------------------------------------------------------------
-- What The Parts Do
------------------------------------------------------------

variable {fuel : Nat}
variable {p : CapprobeParams}
variable {r : CapprobeResults}
variable {m m' : CapprobeMeasure}
variable {delay1 delay2 ipg size cap : Result}

@[simp] theorem addGap_minDelay
    (m : CapprobeMeasure)
    (gap : ℚ) :
    (m.addGap gap).minDelay = m.minDelay := by
  rfl

@[simp] theorem addGap_samples
    (m : CapprobeMeasure)
    (gap : ℚ) :
    (m.addGap gap).samples = m.samples ++ [gap] := by
  rfl

@[simp] theorem collect_minDelay
    (p : CapprobeParams)
    (delay1 delay2 ipg : Result)
    (m : CapprobeMeasure) :
    (m.collect p delay1 delay2 ipg).minDelay = m.minDelay := by
  unfold collect
  cases m.entering p delay1 delay2 ipg with
  | none => rfl
  | some gap => rfl

/- The samples and the gap that is collected. -/
theorem collect_samples
    (p : CapprobeParams)
    (delay1 delay2 ipg : Result)
    (m : CapprobeMeasure) :
    (m.collect p delay1 delay2 ipg).samples =
      m.samples ++ (m.entering p delay1 delay2 ipg).toList := by
  unfold collect
  cases m.entering p delay1 delay2 ipg with
  | none => simp
  | some gap => rfl

/-
  A call that returns has either made an estimate and starts
  again, or has collected what it was given.
-/
theorem computeCapacity_cases
    (hOk :
      m.computeCapacity fuel p delay1 delay2 ipg size =
        .ok (m', cap)) :
    let collected := m.collect p delay1 delay2 ipg
    (p.pktTh ≤ collected.samples.length ∧
        m' =
          { collected with
            samples := []
            minDelay := none
            minIpd := none
            maxIpd := none
            maxSize := none }) ∨
      (¬ p.pktTh ≤ collected.samples.length ∧
        m' = collected) := by
  intro collected
  simp only [computeCapacity] at hOk
  by_cases hEnough : p.pktTh ≤ collected.samples.length
  · rw [if_pos hEnough] at hOk
    cases hSelected : collected.selected fuel p with
    | error fault =>
        rw [hSelected] at hOk
        cases hOk
    | ok sample =>
        rw [hSelected] at hOk
        injection hOk with hPair
        injection hPair with hState hCap
        exact .inl ⟨hEnough, hState.symm⟩
  · rw [if_neg hEnough] at hOk
    injection hOk with hPair
    injection hPair with hState hCap
    exact .inr ⟨hEnough, hState.symm⟩

end CapprobeMeasure

end MONL

end NapaBaselibs
