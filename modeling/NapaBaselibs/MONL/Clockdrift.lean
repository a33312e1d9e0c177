import NapaBaselibs.MONL.ResultBuffer
import Mathlib.Algebra.BigOperators.Group.List.Basic
import Mathlib.Data.List.Sort

/-
  `clockdrift_measure.cpp`: the drift of two clocks, from the
  delays of packets.

  The delays are kept with the times they were sent at, in
  memory that is addressed as an array of window size
  elements.  Each time some more packets were received, a line
  is laid through or over what is in the window.

  Key definitions include:
    * `ClockdriftParams`, `ClockdriftMeasure`
    * `linearRegression`, `linearProgramming`
    * `ClockdriftMeasure.arrive`, `ClockdriftMeasure.used`
    * `ClockdriftMeasure.rxPkt`
-/

------------------------------------------------------------
-- Samples
------------------------------------------------------------

namespace NapaBaselibs

namespace MONL

/- `struct clockdrift_sample`. -/
structure ClockdriftSample where
  txTime : ℚ
  delay : ℚ
deriving DecidableEq

/-
  The parameters, with what the plugin admits for each.
-/
structure ClockdriftParams where
  algorithm : ℚ
  pktTh : ℚ
  winSize : ℚ
  algorithm_min : 0 ≤ algorithm
  algorithm_max : algorithm ≤ 3
  pktTh_min : 100 ≤ pktTh
  winSize_min : 100 ≤ winSize

namespace ClockdriftParams

/- `(int)param_values[P_CLOCKDRIFT_PKT_TH]`. -/
def threshold (p : ClockdriftParams) : Nat :=
  (truncated p.pktTh).toNat

/- `(int)param_values[P_CLOCKDRIFT_WIN_SIZE]`. -/
def window (p : ClockdriftParams) : Nat :=
  (truncated p.winSize).toNat

/- The linear regression over the window is computed. -/
def Regresses (p : ClockdriftParams) : Prop :=
  p.algorithm = 2 ∨ p.algorithm = 0
deriving Decidable

/- The linear programming, which sorts, is. -/
def Sorts (p : ClockdriftParams) : Prop :=
  p.algorithm = 3 ∨ p.algorithm = 0
deriving Decidable

/- The linear regression over all packets is. -/
def Interactive (p : ClockdriftParams) : Prop :=
  p.algorithm = 1 ∨ p.algorithm = 0
deriving Decidable

end ClockdriftParams

/-
  `std::sort` by `clockdrift_sort_function`.  In which order
  samples of the same time come is not said.
-/
structure Sorting where
  sort : List ClockdriftSample → List ClockdriftSample
  perm (samples : List ClockdriftSample) :
    (sort samples).Perm samples
  sorted (samples : List ClockdriftSample) :
    (sort samples).Pairwise
      (fun s t => s.txTime ≤ t.txTime)

/- One that leaves such samples as they were. -/
def Sorting.stable : Sorting where
  sort samples :=
    samples.insertionSort (fun s t => s.txTime ≤ t.txTime)
  perm samples :=
    List.perm_insertionSort
      (fun s t : ClockdriftSample => s.txTime ≤ t.txTime)
      samples
  sorted samples :=
    haveI : Std.Total
        (fun s t : ClockdriftSample => s.txTime ≤ t.txTime) :=
      ⟨fun s t => le_total s.txTime t.txTime⟩
    haveI : IsTrans ClockdriftSample
        (fun s t => s.txTime ≤ t.txTime) :=
      ⟨fun _ _ _ => le_trans⟩
    List.pairwise_insertionSort
      (fun s t : ClockdriftSample => s.txTime ≤ t.txTime)
      samples

------------------------------------------------------------
-- Lines
------------------------------------------------------------

/- `ClockdriftMeasure::x_axis_inter`. -/
def xAxisInter (a1 b1 a2 b2 : ℚ) : Result :=
  quotient (some (b2 - b1)) (some (a1 - a2))

/- `ClockdriftMeasure::y_axis_inter`. -/
def yAxisInter (a1 b1 a2 b2 : ℚ) : Result :=
  plus (times (some a1) (xAxisInter a1 b1 a2 b2)) (some b1)

/- `x_axis_inter` of two samples, as it is always called. -/
def samplesXInter (s t : ClockdriftSample) : Result :=
  xAxisInter s.txTime (-s.delay) t.txTime (-t.delay)

/- `y_axis_inter` of two samples. -/
def samplesYInter (s t : ClockdriftSample) : Result :=
  yAxisInter s.txTime (-s.delay) t.txTime (-t.delay)

/- The mean of a column of the samples. -/
def meanOf
    (column : ClockdriftSample → ℚ)
    (samples : List ClockdriftSample) : ℚ :=
  (samples.map column).sum / samples.length

/- The second algorithm: `a` and `b`. -/
def linearRegression
    (samples : List ClockdriftSample) : Result × Result :=
  let mT := meanOf ClockdriftSample.txTime samples
  let mD := meanOf ClockdriftSample.delay samples
  let vT := (samples.map (fun s => (s.txTime - mT) ^ 2)).sum
  let vTD :=
    (samples.map
      (fun s => (s.txTime - mT) * (s.delay - mD))).sum
  let b := quotient (some vTD) (some vT)
  (minus (some mD) (times b (some mT)), b)

------------------------------------------------------------
-- Linear Programming
------------------------------------------------------------

/-
  The loop over `j`.  The list is the samples at `n[j]`, …,
  `n[0]`, and what is left of it is below the new `n[k]`.
-/
def backtrack
    (s : ClockdriftSample) :
    List ClockdriftSample → List ClockdriftSample
  | top :: below :: rest =>
      if less (samplesXInter s top) (samplesXInter top below) then
        top :: below :: rest
      else backtrack s (below :: rest)
  | n => n

/-
  The samples at `n[k]`, …, `n[0]` after the loop over `i`.
  There are always two samples, as a packet threshold and a
  window size are at least 100.
-/
def hullLoop :
    List ClockdriftSample → List ClockdriftSample
  | first :: second :: samples =>
      samples.foldl (fun n s => s :: backtrack s n)
        [second, first]
  | samples => samples

/-
  The search, in the samples at `n[i]`, …, `n[k]`.  As
  `i < k - 1`, there is one behind `n[i + 1]`.
-/
def searchEdge
    (mean : ℚ) :
    List ClockdriftSample →
      Option (ClockdriftSample × ClockdriftSample)
  | left :: right :: next :: rest =>
      if left.txTime < mean ∧ mean ≤ right.txTime then
        some (left, right)
      else searchEdge mean (right :: next :: rest)
  | _ => none

/- The third algorithm on sorted samples: `a` and `b`. -/
def linearProgramming
    (samples : List ClockdriftSample) :
    Option (Result × Result) :=
  (searchEdge (meanOf ClockdriftSample.txTime samples)
      (hullLoop samples).reverse).map
    (fun (left, right) =>
      (minus (some 0) (samplesYInter left right),
        samplesXInter left right))

------------------------------------------------------------
-- The Measure
------------------------------------------------------------

/- The sums over all packets. -/
structure ClockdriftSums where
  t : ℚ
  d : ℚ
  tV : ℚ
  dV : ℚ
  tdV : ℚ

/-
  `ClockdriftMeasure`.  Of `n` only whether it is allocated
  outlives a call.  Behind the window `samples` is other
  memory.  The two `int`s are counted without a bound.
-/
structure ClockdriftMeasure where
  pos : Nat
  allocated : Bool
  pnum : Nat
  sums : ClockdriftSums
  a : Result
  b : Result
  firstTx : Result
  samples : Nat → ClockdriftSample

/- The results of a packet that are read. -/
structure ClockdriftResults where
  sendTime : ℚ
  receiveTime : ℚ
  clockdrift : Result

namespace ClockdriftMeasure

/- What `init` and some changes of parameters do. -/
def restart (m : ClockdriftMeasure) : ClockdriftMeasure :=
  { m with
    firstTx := none
    pos := 0
    pnum := 0
    sums := ⟨0, 0, 0, 0, 0⟩ }

/- `ClockdriftMeasure::init`. -/
def init (m : ClockdriftMeasure) : ClockdriftMeasure :=
  m.restart

/-
  The changes of parameters, with the memory that is reserved
  then.
-/
inductive Change where
  | algorithm
      (value : ℚ)
      (memory : Nat → ClockdriftSample)
  | winSize
      (memory : Nat → ClockdriftSample)
  | pktTh

/- `ClockdriftMeasure::paramChange`. -/
def paramChange
    (change : Change)
    (m : ClockdriftMeasure) : ClockdriftMeasure :=
  match change with
  | .algorithm value memory =>
      if value ≠ 1 then
        if m.allocated then m
        else
          { m.restart with
            allocated := true
            samples := memory }
      else { m with allocated := false }
  | .winSize memory =>
      if m.allocated then { m.restart with samples := memory }
      else m.restart
  | .pktTh => m

/- The sums of a packet. -/
def addSums
    (txTime delay : ℚ)
    (pnum : Nat)
    (sums : ClockdriftSums) : ClockdriftSums :=
  let t := sums.t + txTime
  let d := sums.d + delay
  { t := t
    tV := sums.tV + (txTime - t / pnum) ^ 2
    d := d
    dV := sums.dV + (delay - d / pnum) ^ 2
    tdV :=
      sums.tdV + (delay - d / pnum) * (txTime - t / pnum) }

/- The sample of a packet. -/
def sampleOf
    (firstTx : ℚ)
    (r : ClockdriftResults) : ClockdriftSample where
  txTime := r.sendTime - firstTx
  delay := |r.sendTime - r.receiveTime|

/- `RxPkt` up to `pos++`. -/
def arrive
    (p : ClockdriftParams)
    (r : ClockdriftResults)
    (m : ClockdriftMeasure) : ClockdriftMeasure :=
  let firstTx := m.firstTx.getD r.sendTime
  let sample := sampleOf firstTx r
  let pnum := m.pnum + 1
  { m with
    firstTx := some firstTx
    pnum := pnum
    sums :=
      if p.Interactive then
        addSums sample.txTime sample.delay pnum m.sums
      else m.sums
    samples :=
      if p.algorithm ≠ 1 then
        Function.update m.samples m.pos sample
      else m.samples
    pos := m.pos + 1 }

/- `end`. -/
def windowEnd
    (p : ClockdriftParams)
    (m : ClockdriftMeasure) : Nat :=
  if p.window < m.pnum then p.window else m.pos

/- The samples below `end`. -/
def used
    (p : ClockdriftParams)
    (m : ClockdriftMeasure) : List ClockdriftSample :=
  (List.range (m.windowEnd p)).map m.samples

/- The first algorithm: `a` and `b`. -/
def interactive (m : ClockdriftMeasure) : Result × Result :=
  let b := quotient (some m.sums.tdV) (some m.sums.tV)
  (minus (some (m.sums.d / m.pnum))
    (quotient (times b (some m.sums.t)) (some m.pnum)), b)

/- `a`, `b` and `r[R_CLOCKDRIFT]` are set. -/
def assign
    (line : Result × Result)
    (m : ClockdriftMeasure × Result) :
    ClockdriftMeasure × Result :=
  ({ m.1 with
      a := line.1
      b := line.2 }, line.2)

/- `std::sort(samples.begin(), samples.begin() + end, …)`. -/
def sortUsed
    (srt : Sorting)
    (p : ClockdriftParams)
    (m : ClockdriftMeasure) : ClockdriftMeasure :=
  { m with
    samples := fun j =>
      ((srt.sort (m.used p))[j]?).getD (m.samples j) }

/- What is done each `P_CLOCKDRIFT_PKT_TH` packets. -/
def estimate
    (srt : Sorting)
    (p : ClockdriftParams)
    (m : ClockdriftMeasure)
    (clockdrift : Result) : ClockdriftMeasure × Result :=
  let m := (m, clockdrift)
  let m :=
    if p.Interactive then assign m.1.interactive m else m
  let m :=
    if p.Regresses then
      assign (linearRegression (m.1.used p)) m
    else m
  if p.Sorts then
    let m := (m.1.sortUsed srt p, m.2)
    match linearProgramming (m.1.used p) with
    | some line => assign line m
    | none => m
  else m

/- `if(pos == …) pos = 0`, where an `int` is a `double`. -/
def wrap
    (p : ClockdriftParams)
    (m : ClockdriftMeasure) : ClockdriftMeasure :=
  if (m.pos : ℚ) = p.winSize then { m with pos := 0 } else m

/-
  `ClockdriftMeasure::RxPkt`: the measure, `r[R_CLOCKDRIFT]`
  and what is returned.
-/
def rxPkt
    (srt : Sorting)
    (p : ClockdriftParams)
    (r : ClockdriftResults)
    (m : ClockdriftMeasure) :
    ClockdriftMeasure × Result × Result :=
  let m := m.arrive p r
  if m.pos % p.threshold = 0 then
    let (m, clockdrift) := m.estimate srt p r.clockdrift
    (m.wrap p, clockdrift, clockdrift)
  else (m.wrap p, r.clockdrift, none)

/- The measure after some packets. -/
def receiveAll
    (srt : Sorting)
    (p : ClockdriftParams)
    (m : ClockdriftMeasure)
    (packets : List ClockdriftResults) : ClockdriftMeasure :=
  packets.foldl (fun m r => (m.rxPkt srt p r).1) m

end ClockdriftMeasure

end MONL

end NapaBaselibs
