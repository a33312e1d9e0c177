import NapaBaselibs.MONL.Measure
import Mathlib.Data.Rat.Cast.Defs
import Mathlib.Data.Rat.Floor

/-
  `result_buffer.cpp`: the statistics of a measure.

  Results are rational numbers, and NaN is the absence of
  one.  A quotient by zero is no number either.  What the
  buffer reads of its measure, and what it gets from the
  clock, from `rand` and from the messaging layer, is an
  argument.

  Key definitions include:
    * `ResultBuffer.init`, `ResultBuffer.resizeBuffer`
    * `ResultBuffer.newSample`, `ResultBuffer.newSampleWin`
    * `ResultBuffer.updateStats`
    * `ResultBuffer.publishResults`
-/

------------------------------------------------------------
-- Results
------------------------------------------------------------

namespace NapaBaselibs

namespace MONL

/- `result`. -/
abbrev Result := Option ℚ

/- NaN where an operand is. -/
def arith
    (op : ℚ → ℚ → ℚ) : Result → Result → Result
  | some a, some b => some (op a b)
  | _, _ => none

def plus : Result → Result → Result :=
  arith (fun a b => a + b)

def minus : Result → Result → Result :=
  arith (fun a b => a - b)

def times : Result → Result → Result :=
  arith (fun a b => a * b)

def quotient
    (a b : Result) : Result :=
  if b = some 0 then none else arith (fun a b => a / b) a b

/- `pow(r, 2)`. -/
def squared (r : Result) : Result :=
  times r r

/- `a < b`, which is false of NaN. -/
def less : Result → Result → Bool
  | some a, some b => decide (a < b)
  | _, _ => false

/- `s += r`, from nothing if `s` is NaN. -/
def accumulate
    (s r : Result) : Result :=
  if s = none then r else plus s r

/- The conversion to an integer. -/
def truncated (q : ℚ) : Int :=
  q.num.tdiv q.den

theorem truncated_eq_floor
    {q : ℚ}
    (hNonneg : 0 ≤ q) :
    truncated q = ⌊q⌋ := by
  have hNum : 0 ≤ q.num := Rat.num_nonneg.mpr hNonneg
  rw [truncated, Int.tdiv_eq_ediv_of_nonneg hNum]
  exact (Rat.floor_def q).symm

/- `enum stat_types`. -/
inductive StatType where
  | last
  | avg
  | winAvg
  | var
  | winVar
  | min
  | winMin
  | max
  | winMax
  | sum
  | winSum
  | rate
  | periodSum
deriving DecidableEq, Repr

/- `stat_suffixes`. -/
def StatType.suffix : StatType → String
  | last => "_last"
  | avg => "_avg"
  | winAvg => "_win_avg"
  | var => "_var"
  | winVar => "_win_var"
  | min => "_min"
  | winMin => "_win_min"
  | max => "_max"
  | winMax => "_win_max"
  | sum => "_sum"
  | winSum => "_win_sum"
  | rate => "_rate"
  | periodSum => "_period_sum"

/- `errors.h`. -/
def efailed : Int := 7

------------------------------------------------------------
-- The Buffer
------------------------------------------------------------

/-
  `ResultBuffer`.  The pointers to the measure and to the
  repository are arguments where they are used.
-/
structure ResultBuffer where
  circularBuffer : List Result
  size : Nat
  pos : Nat
  newData : Bool
  lastPublish : ℚ
  samples : Nat
  nSamples : Nat
  rateSumSamples : Result
  defaultName : String
  publishName : String
  publish : List StatType
  stats : StatType → Result

/- What the buffer reads of its measure. -/
structure HostMeasure where
  status : MeasurementStatus
  flags : Capabilities
  publishingPktTimeBased : ℚ
  publishingRate : ℚ
  publishingTimeSpread : ℚ
  publishingNewAll : ℚ
  initNanZero : ℚ

/-
  What a publication gets from elsewhere: `rand`, the clock,
  whether there are strings of the socket IDs it names, and
  whether it has a repository.
-/
structure Surroundings where
  random : ℚ
  now : ℚ
  localString : Bool
  dstString : Bool
  repoClient : Bool

/- What a publication starts. -/
inductive BufferOutput where
  | schedulePublish (seconds : Int)
  | repPublish (publishedName : String) (value now : ℚ)
deriving DecidableEq

namespace ResultBuffer

/- `stats[st] = r`. -/
def setStat
    (b : ResultBuffer)
    (st : StatType)
    (r : Result) : ResultBuffer :=
  { b with
    stats := fun other => if other = st then r else b.stats other }

/- `ResultBuffer::init`. -/
def init
    (m : HostMeasure)
    (b : ResultBuffer) : ResultBuffer :=
  { b with
    nSamples := 0
    samples := 0
    rateSumSamples := some 0
    pos := 0
    stats := fun _ =>
      if m.initNanZero = 0 then none else some 0
    circularBuffer := List.replicate b.size none }

/- The constructor. -/
def new
    (s : Nat)
    (pname : String)
    (m : HostMeasure) : ResultBuffer :=
  init m
    { circularBuffer := []
      size := s
      pos := 0
      newData := false
      lastPublish := 0
      samples := 0
      nSamples := 0
      rateSumSamples := some 0
      defaultName := pname
      publishName := pname
      publish := []
      stats := fun _ => none }

/- `circular_buffer[j]`. -/
def cell
    (b : ResultBuffer)
    (j : Int) : Result :=
  (b.circularBuffer[j.toNat]?).join

/- `ResultBuffer::newSampleWin`. -/
def newSampleWin
    (b : ResultBuffer)
    (r : Result) : ResultBuffer :=
  let b :=
    if b.nSamples < b.size then
      { b with nSamples := b.nSamples + 1 }
    else
      b.setStat .winSum (minus (b.stats .winSum) (b.cell b.pos))
  let b := b.setStat .winSum (accumulate (b.stats .winSum) r)
  { b with
    circularBuffer := b.circularBuffer.set b.pos r
    pos :=
      if b.size ≤ b.pos + 1 then b.pos + 1 - b.size
      else b.pos + 1 }

/- An index that may have gone below the first cell. -/
def wrapped
    (size : Nat)
    (j : Int) : Int :=
  if j < 0 then j + size else j

/-
  `ResultBuffer::resizeBuffer`.  The new cells hold what was
  in their memory.
-/
def resizeBuffer
    (s : Nat)
    (memory : Nat → Result)
    (b : ResultBuffer) : ResultBuffer :=
  if s = b.size then b
  else
    let nSam := min s (min b.size b.nSamples)
    let emptied :=
      { b with
        circularBuffer := (List.range s).map memory
        nSamples := 0
        pos := 0
        size := s }
    (List.range nSam).foldl
      (fun new (i : Nat) =>
        new.newSampleWin
          (b.cell (wrapped b.size (b.pos - nSam + i))))
      (emptied.setStat .winSum (some 0))

/- The body of the loop in `updateStats`. -/
def scanCell
    (b : ResultBuffer)
    (i : Nat) : ResultBuffer :=
  let r := b.cell (wrapped b.size (b.pos - i))
  let b :=
    if less r (b.stats .winMin) then b.setStat .winMin r else b
  let b :=
    if less (b.stats .winMax) r then b.setStat .winMax r else b
  b.setStat .winVar
    (plus (b.stats .winVar) (squared (minus (b.stats .winAvg) r)))

/- `ResultBuffer::updateStats`. -/
def updateStats (b : ResultBuffer) : ResultBuffer :=
  let b :=
    b.setStat .winAvg (quotient (b.stats .winSum) (some b.nSamples))
  let b := b.setStat .winMax (b.stats .last)
  let b := b.setStat .winMin (b.stats .winMax)
  let b := b.setStat .winVar (some 0)
  let b := (List.range' 1 b.nSamples).foldl scanCell b
  if 1 < b.nSamples then
    b.setStat .winVar
      (quotient (b.stats .winVar) (some (b.nSamples - 1)))
  else b.setStat .winVar none

/- When a time based publication runs next. -/
def nextPublish
    (m : HostMeasure)
    (random : ℚ) : Int :=
  let delta := m.publishingRate * m.publishingTimeSpread / 100
  truncated (m.publishingRate - delta + 2 * delta * random)

/- The records of the statistics that are published. -/
def records
    (b : ResultBuffer)
    (now : ℚ) : List BufferOutput :=
  b.publish.filterMap (fun st =>
    (b.stats st).map (fun value =>
      .repPublish (b.publishName ++ st.suffix) value now))

/- `ResultBuffer::publishResults`. -/
def publishResults
    (m : HostMeasure)
    (out : Surroundings)
    (b : ResultBuffer) :
    ResultBuffer × List BufferOutput × Int :=
  let timer :=
    if m.publishingPktTimeBased = 1 then
      [.schedulePublish (nextPublish m out.random)]
    else []
  if m.status ≠ .running then (b, timer, eok)
  else if b.newData = false ∧ m.publishingNewAll = 0 then
    (b, timer, eok)
  else
    let b := updateStats { b with newData := false }
    if b.publish = [] then (b, timer, eok)
    else if out.localString = false ∨ out.dstString = false then
      (b, timer, -efailed)
    else
      let b :=
        if b.lastPublish ≠ 0 then
          b.setStat .rate
            (quotient b.rateSumSamples
              (some (out.now - b.lastPublish)))
        else b
      let b :=
        { b with
          lastPublish := out.now
          rateSumSamples := some 0 }
      let published :=
        if out.repoClient then b.records out.now else []
      (b.setStat .periodSum none, timer ++ published, eok)

/- The sums and the mean of `newSample`. -/
def updateSums
    (b : ResultBuffer)
    (r : Result) : ResultBuffer :=
  let b := b.setStat .last r
  let b := b.setStat .sum (accumulate (b.stats .sum) r)
  let b :=
    b.setStat .periodSum (accumulate (b.stats .periodSum) r)
  let b := { b with rateSumSamples := plus b.rateSumSamples r }
  let b :=
    if b.stats .avg = none then b.setStat .avg (some 0) else b
  b.setStat .avg
    (quotient
      (plus (times (some (b.samples - 1)) (b.stats .avg)) r)
      (some b.samples))

/- The variance of `newSample`, after the mean. -/
def updateVariance
    (b : ResultBuffer)
    (r : Result) : ResultBuffer :=
  let n : ℚ := b.samples
  if b.samples < 2 then b.setStat .var (some 0)
  else
    b.setStat .var
      (plus
        (quotient (times (b.stats .var) (some (n - 2)))
          (some (n - 1)))
        (times (quotient (some n) (some ((n - 1) ^ 2)))
          (squared (minus r (b.stats .avg)))))

/- The least and the greatest sample of `newSample`. -/
def updateExtremes
    (b : ResultBuffer)
    (r : Result) : ResultBuffer :=
  let b :=
    if less r (b.stats .min) ∨ b.stats .min = none then
      b.setStat .min r
    else b
  if less (b.stats .max) r ∨ b.stats .max = none then
    b.setStat .max r
  else b

/- Everything of `newSample` but the publication. -/
def addSample
    (b : ResultBuffer)
    (r : Result) : ResultBuffer :=
  let b := { b with samples := b.samples + 1 }
  let b := b.updateSums r
  let b := b.updateVariance r
  let b := b.updateExtremes r
  let b := b.newSampleWin r
  { b with newData := true }

/- It is time to publish; the rate is not below 1. -/
def publicationDue
    (m : HostMeasure)
    (samples : Nat) : Bool :=
  m.publishingPktTimeBased = 0 ∧
    (samples : Int).tmod (truncated m.publishingRate) = 0 ∧
    hasFlag m.flags remote = false

/- `ResultBuffer::newSample`. -/
def newSample
    (m : HostMeasure)
    (out : Surroundings)
    (r : Result)
    (b : ResultBuffer) :
    ResultBuffer × List BufferOutput × Int :=
  let b := b.addSample r
  if publicationDue m b.samples then publishResults m out b
  else (b, [], eok)

/- `ResultBuffer::setPublishStatisticalType`. -/
def setPublishStatisticalType
    (name : Option String)
    (st : List StatType)
    (m : HostMeasure)
    (out : Surroundings)
    (b : ResultBuffer) :
    ResultBuffer × List BufferOutput × Int :=
  publishResults m out
    { b with
      publishName :=
        (name.getD b.defaultName).map
          (fun c => if c = ' ' then '_' else c)
      publish := st }

------------------------------------------------------------
-- What The Parts Leave Alone
------------------------------------------------------------

@[simp] theorem setStat_stats
    (b : ResultBuffer)
    (st other : StatType)
    (r : Result) :
    (b.setStat st r).stats other =
      if other = st then r else b.stats other := by
  rfl

@[simp] theorem setStat_circularBuffer
    (b : ResultBuffer)
    (st : StatType)
    (r : Result) :
    (b.setStat st r).circularBuffer = b.circularBuffer := by
  rfl

@[simp] theorem setStat_size
    (b : ResultBuffer)
    (st : StatType)
    (r : Result) :
    (b.setStat st r).size = b.size := by
  rfl

@[simp] theorem setStat_pos
    (b : ResultBuffer)
    (st : StatType)
    (r : Result) :
    (b.setStat st r).pos = b.pos := by
  rfl

@[simp] theorem setStat_samples
    (b : ResultBuffer)
    (st : StatType)
    (r : Result) :
    (b.setStat st r).samples = b.samples := by
  rfl

@[simp] theorem setStat_nSamples
    (b : ResultBuffer)
    (st : StatType)
    (r : Result) :
    (b.setStat st r).nSamples = b.nSamples := by
  rfl

/- The same window: the cells and their sum. -/
structure SameWindow (b b' : ResultBuffer) : Prop where
  circularBuffer : b'.circularBuffer = b.circularBuffer
  size : b'.size = b.size
  pos : b'.pos = b.pos
  nSamples : b'.nSamples = b.nSamples
  winSum : b'.stats .winSum = b.stats .winSum

theorem SameWindow.trans
    {b b' b'' : ResultBuffer}
    (hFirst : SameWindow b b')
    (hSecond : SameWindow b' b'') :
    SameWindow b b'' where
  circularBuffer :=
    hSecond.circularBuffer.trans hFirst.circularBuffer
  size := hSecond.size.trans hFirst.size
  pos := hSecond.pos.trans hFirst.pos
  nSamples := hSecond.nSamples.trans hFirst.nSamples
  winSum := hSecond.winSum.trans hFirst.winSum

/-
  The same record: the number of the samples, and what is
  kept of them from sample to sample.
-/
structure SameRecord (b b' : ResultBuffer) : Prop where
  samples : b'.samples = b.samples
  last : b'.stats .last = b.stats .last
  avg : b'.stats .avg = b.stats .avg
  var : b'.stats .var = b.stats .var
  sum : b'.stats .sum = b.stats .sum

theorem SameRecord.trans
    {b b' b'' : ResultBuffer}
    (hFirst : SameRecord b b')
    (hSecond : SameRecord b' b'') :
    SameRecord b b'' where
  samples := hSecond.samples.trans hFirst.samples
  last := hSecond.last.trans hFirst.last
  avg := hSecond.avg.trans hFirst.avg
  var := hSecond.var.trans hFirst.var
  sum := hSecond.sum.trans hFirst.sum

/- Both. -/
structure SameSamples (b b' : ResultBuffer) : Prop
    extends SameWindow b b', SameRecord b b'

theorem SameSamples.refl
    (b : ResultBuffer) : SameSamples b b :=
  ⟨⟨rfl, rfl, rfl, rfl, rfl⟩, ⟨rfl, rfl, rfl, rfl, rfl⟩⟩

theorem SameSamples.trans
    {b b' b'' : ResultBuffer}
    (hFirst : SameSamples b b')
    (hSecond : SameSamples b' b'') :
    SameSamples b b'' where
  toSameWindow :=
    hFirst.toSameWindow.trans hSecond.toSameWindow
  toSameRecord :=
    hFirst.toSameRecord.trans hSecond.toSameRecord

/- The statistics that are only computed to be read. -/
def Derived (st : StatType) : Prop :=
  st = .winAvg ∨ st = .winVar ∨ st = .winMin ∨ st = .winMax ∨
    st = .rate ∨ st = .periodSum

theorem SameSamples.setStat
    (b : ResultBuffer)
    {st : StatType}
    (r : Result)
    (hDerived : Derived st) :
    SameSamples b (b.setStat st r) := by
  rcases hDerived with rfl | rfl | rfl | rfl | rfl | rfl <;>
    exact
      ⟨⟨rfl, rfl, rfl, rfl, rfl⟩, ⟨rfl, rfl, rfl, rfl, rfl⟩⟩

end ResultBuffer

end MONL

end NapaBaselibs
