import NapaBaselibs.MONL.Clockdrift
import NapaBaselibs.Lib.RingBuffer
import Mathlib.Algebra.Order.Floor.Ring
import Mathlib.Data.List.GetD
import Mathlib.Tactic.Linarith
import Mathlib.Tactic.NormNum
import Mathlib.Tactic.SplitIfs
import Mathlib.Data.Rat.Star
import Mathlib.Algebra.Order.Ring.Star

/-
  Which samples an estimate of the clock drift uses.

  The samples are written around the window.  If the window
  is sorted in place, the position that is written next is no
  longer that of the oldest sample.  This shows once there is
  an estimate before all of the window is written again.

  Key definitions include:
    * `packetSamples`, `UsesWindow`
    * `ClockdriftParams.WindowFits`
    * `ClockdriftMeasure.Kept`

  Key theorems include:
    * `ClockdriftMeasure.Kept.rxPkt`
    * `clockdrift_window_iff`
-/

------------------------------------------------------------
-- What Is Used
------------------------------------------------------------

namespace NapaBaselibs

namespace MONL

open RingBuffer

/- The samples of packets, from the first sending on. -/
def packetSamples :
    List ClockdriftResults → List ClockdriftSample
  | [] => []
  | first :: packets =>
      (first :: packets).map
        (ClockdriftMeasure.sampleOf first.sendTime)

/-
  If there is an estimate with a packet, what it reads are
  the last samples, each of them once.
-/
def UsesWindow
    (srt : Sorting)
    (p : ClockdriftParams)
    (m : ClockdriftMeasure)
    (packets : List ClockdriftResults)
    (r : ClockdriftResults) : Prop :=
  let m := (m.receiveAll srt p packets).arrive p r
  let last := lastN p.window (packetSamples (packets ++ [r]))
  m.pos % p.threshold = 0 →
    (p.Regresses → (m.used p).Perm last) ∧
      (p.Sorts → ((m.sortUsed srt p).used p).Perm last)

/- The measure has just started, or its window was changed. -/
inductive Started : ClockdriftMeasure → Prop where
  | init
      (m : ClockdriftMeasure) :
      Started m.init
  | winSize
      (memory : Nat → ClockdriftSample)
      (m : ClockdriftMeasure) :
      Started (m.paramChange (.winSize memory))

namespace ClockdriftParams

/-
  The window is a number of samples, and if it is sorted,
  there is one estimate each time it is written.
-/
def WindowFits (p : ClockdriftParams) : Prop :=
  (p.Regresses ∨ p.Sorts → p.winSize = p.window) ∧
    (p.Sorts → p.window < 2 * p.threshold)

variable {p : ClockdriftParams}

theorem toNat_truncated_ge
    {q : ℚ}
    (hMin : 100 ≤ q) :
    100 ≤ (truncated q).toNat := by
  rw [truncated_eq_floor (by linarith)]
  have hFloor : (100 : Int) ≤ ⌊q⌋ := by
    rw [Int.le_floor]
    exact_mod_cast hMin
  omega

theorem threshold_min (p : ClockdriftParams) :
    100 ≤ p.threshold :=
  toNat_truncated_ge p.pktTh_min

theorem window_min (p : ClockdriftParams) :
    100 ≤ p.window :=
  toNat_truncated_ge p.winSize_min

end ClockdriftParams

theorem packetSamples_concat
    (packets : List ClockdriftResults)
    (r : ClockdriftResults) :
    packetSamples (packets ++ [r]) =
      packetSamples packets ++
        [ClockdriftMeasure.sampleOf
          ((packets.head?.map ClockdriftResults.sendTime).getD
            r.sendTime) r] := by
  cases packets with
  | nil => rfl
  | cons first packets => simp [packetSamples]

@[simp]
theorem length_packetSamples
    (packets : List ClockdriftResults) :
    (packetSamples packets).length = packets.length := by
  cases packets with
  | nil => rfl
  | cons first packets => simp [packetSamples]

------------------------------------------------------------
-- One Packet
------------------------------------------------------------

namespace ClockdriftMeasure

variable {srt : Sorting}
variable {p : ClockdriftParams}
variable {m : ClockdriftMeasure}
variable {packets : List ClockdriftResults}
variable {r : ClockdriftResults}
variable {size first : Nat}

/- Of all this, an estimate changes only the samples. -/
theorem estimate_keeps
    (srt : Sorting)
    (p : ClockdriftParams)
    (m : ClockdriftMeasure)
    (clockdrift : Result) :
    let m' := (m.estimate srt p clockdrift).1
    m'.pos = m.pos ∧ m'.pnum = m.pnum ∧
      m'.firstTx = m.firstTx ∧
      m'.samples =
        if p.Sorts then (m.sortUsed srt p).samples
        else m.samples := by
  intro m'
  by_cases hSorts : p.Sorts
  · simp only [m', estimate, if_pos hSorts]
    split <;> split_ifs <;> exact ⟨rfl, rfl, rfl, rfl⟩
  · simp only [m', estimate, if_neg hSorts]
    split_ifs <;> exact ⟨rfl, rfl, rfl, rfl⟩

theorem wrap_pos
    (p : ClockdriftParams)
    (m : ClockdriftMeasure) :
    (m.wrap p).pos =
      if (m.pos : ℚ) = p.winSize then 0 else m.pos := by
  unfold wrap
  split <;> rfl

/- What a packet does to what decides about the samples. -/
theorem rxPkt_keeps
    (srt : Sorting)
    (p : ClockdriftParams)
    (r : ClockdriftResults)
    (m : ClockdriftMeasure) :
    let m₁ := m.arrive p r
    let m₂ := (m.rxPkt srt p r).1
    m₂.pos = (if (m₁.pos : ℚ) = p.winSize then 0 else m₁.pos) ∧
      m₂.pnum = m₁.pnum ∧ m₂.firstTx = m₁.firstTx ∧
      m₂.samples =
        if m₁.pos % p.threshold = 0 ∧ p.Sorts then
          (m₁.sortUsed srt p).samples
        else m₁.samples := by
  have hWrap (n : ClockdriftMeasure) :
      (n.wrap p).pnum = n.pnum ∧
        (n.wrap p).firstTx = n.firstTx ∧
        (n.wrap p).samples = n.samples := by
    unfold wrap
    split <;> exact ⟨rfl, rfl, rfl⟩
  intro m₁ m₂
  by_cases hEstimate : m₁.pos % p.threshold = 0
  · obtain ⟨hPos, hPnum, hFirst, hSamples⟩ :=
      estimate_keeps srt p m₁ r.clockdrift
    have hAfter :
        m₂ = ((m₁.estimate srt p r.clockdrift).1).wrap p := by
      simp only [m₂, rxPkt]
      rw [if_pos hEstimate]
    obtain ⟨hPnum', hFirst', hSamples'⟩ :=
      hWrap (m₁.estimate srt p r.clockdrift).1
    rw [hAfter, wrap_pos, hPnum', hFirst', hSamples', hPos,
      hPnum, hFirst, hSamples]
    simp [hEstimate]
  · have hAfter : m₂ = m₁.wrap p := by
      simp only [m₂, rxPkt]
      rw [if_neg hEstimate]
    obtain ⟨hPnum', hFirst', hSamples'⟩ := hWrap m₁
    rw [hAfter, wrap_pos, hPnum', hFirst', hSamples']
    simp [hEstimate]

/- All are sorted, and then they are used. -/
theorem used_sortUsed
    (srt : Sorting)
    (p : ClockdriftParams)
    (m : ClockdriftMeasure) :
    (m.sortUsed srt p).used p = srt.sort (m.used p) := by
  have hLength :
      (srt.sort (m.used p)).length = m.windowEnd p := by
    rw [(srt.perm _).length_eq, used, List.length_map,
      List.length_range]
  refine List.ext_getElem? fun j => ?_
  change ((List.range (m.windowEnd p)).map _)[j]? = _
  rw [List.getElem?_map]
  by_cases hIn : j < m.windowEnd p
  · rw [List.getElem?_range hIn, Option.map_some,
      List.getElem?_eq_getElem (by omega)]
    simp only [sortUsed]
    rw [List.getElem?_eq_getElem (by omega), Option.getD_some]
  · rw [List.getElem?_eq_none (by simp; omega),
      List.getElem?_eq_none (by omega), Option.map_none]

theorem used_sortUsed_perm
    (srt : Sorting)
    (p : ClockdriftParams)
    (m : ClockdriftMeasure) :
    ((m.sortUsed srt p).used p).Perm (m.used p) := by
  rw [used_sortUsed]
  exact srt.perm _

/- Sorting what is sorted changes nothing. -/
theorem sortUsed_of_eq
    (hSorted : srt.sort (m.used p) = m.used p) :
    (m.sortUsed srt p).samples = m.samples := by
  funext j
  change ((srt.sort (m.used p))[j]?).getD (m.samples j) = _
  rw [hSorted, used, List.getElem?_map]
  by_cases hIn : j < m.windowEnd p
  · rw [List.getElem?_range hIn, Option.map_some,
      Option.getD_some]
  · rw [List.getElem?_eq_none (by simp; omega),
      Option.map_none, Option.getD_none]

------------------------------------------------------------
-- What Is Kept
------------------------------------------------------------

/-
  What a ring of a size holds after some packets.  What came
  before an index need not be where it was written.
-/
structure Kept
    (size first : Nat)
    (packets : List ClockdriftResults)
    (m : ClockdriftMeasure) : Prop where
  pos : m.pos = packets.length % size
  pnum : m.pnum = packets.length
  firstTx :
    m.firstTx = packets.head?.map ClockdriftResults.sendTime
  held : Holds m.samples size first (packetSamples packets)

/- Nothing was received yet. -/
theorem Started.kept
    (hStart : Started m)
    (size : Nat) :
    Kept size 0 [] m := by
  cases hStart with
  | init m =>
      exact ⟨(Nat.zero_mod size).symm, rfl, rfl, holds_nil _ _ _⟩
  | winSize memory m =>
      cases hAllocated : m.allocated <;>
        simp only [paramChange, hAllocated] <;>
        exact ⟨(Nat.zero_mod size).symm, rfl, rfl,
          holds_nil _ _ _⟩

/- A packet is written in the next cell. -/
theorem Kept.arrive
    (hKept : Kept size first packets m)
    (hAlgorithm : p.algorithm ≠ 1)
    (r : ClockdriftResults) :
    let m' := m.arrive p r
    m'.pos = packets.length % size + 1 ∧
      m'.pnum = (packets ++ [r]).length ∧
      m'.firstTx =
        (packets ++ [r]).head?.map ClockdriftResults.sendTime ∧
      Holds m'.samples size first
        (packetSamples (packets ++ [r])) := by
  refine ⟨?_, ?_, ?_, ?_⟩
  · simp [ClockdriftMeasure.arrive, hKept.pos]
  · simp [ClockdriftMeasure.arrive, hKept.pnum]
  · cases packets with
    | nil => simp [ClockdriftMeasure.arrive, hKept.firstTx]
    | cons head packets =>
        simp [ClockdriftMeasure.arrive, hKept.firstTx]
  · have hPush := hKept.held.push
      (sampleOf (m.firstTx.getD r.sendTime) r)
    rw [length_packetSamples, ← hKept.pos] at hPush
    rw [packetSamples_concat, ← hKept.firstTx]
    simpa [ClockdriftMeasure.arrive, hAlgorithm] using hPush

/- What is kept after a packet. -/
theorem Kept.rxPkt
    {later : Nat}
    (hKept : Kept size first packets m)
    (hAlgorithm : p.algorithm ≠ 1)
    (hWrap :
      (if (((m.arrive p r).pos : Nat) : ℚ) = p.winSize then 0
        else (m.arrive p r).pos) =
          (packets ++ [r]).length % size)
    (hHeld :
      Holds (m.rxPkt srt p r).1.samples size later
        (packetSamples (packets ++ [r]))) :
    Kept size later (packets ++ [r]) (m.rxPkt srt p r).1 := by
  obtain ⟨hPos, hPnum, hFirst, -⟩ := rxPkt_keeps srt p r m
  obtain ⟨-, hPnum', hFirst', -⟩ := hKept.arrive hAlgorithm r
  exact ⟨hPos.trans hWrap, hPnum.trans hPnum',
    hFirst.trans hFirst', hHeld⟩

------------------------------------------------------------
-- Windows That Fit
------------------------------------------------------------

theorem receiveAll_concat
    (srt : Sorting)
    (p : ClockdriftParams)
    (m : ClockdriftMeasure)
    (packets : List ClockdriftResults)
    (r : ClockdriftResults) :
    m.receiveAll srt p (packets ++ [r]) =
      ((m.receiveAll srt p packets).rxPkt srt p r).1 := by
  simp [receiveAll]

/- A ring of window size wraps where it should. -/
theorem wrap_whole
    (hWhole : p.winSize = p.window)
    (n : Nat) :
    (if ((n % p.window + 1 : Nat) : ℚ) = p.winSize then 0
      else n % p.window + 1) = (n + 1) % p.window := by
  have hWindow := p.window_min
  have hLt := Nat.mod_lt n (by omega : 0 < p.window)
  rw [hWhole, ← Nat.mod_add_mod]
  split
  · next hEnd => rw [Nat.cast_inj.mp hEnd, Nat.mod_self]
  · next hInside =>
      rw [Nat.cast_inj] at hInside
      exact (Nat.mod_eq_of_lt (by omega)).symm

/- How many samples there are below `end`. -/
theorem windowEnd_whole
    {n : Nat}
    (hPnum : m.pnum = n + 1)
    (hPos : m.pos = n % p.window + 1) :
    m.windowEnd p = min p.window (n + 1) := by
  unfold windowEnd
  rw [hPnum, hPos]
  split
  · omega
  · rw [Nat.mod_eq_of_lt (by omega)]
    omega

/-
  At an estimate, the last time that the window was sorted is
  a whole lap ago.
-/
theorem lap_of_estimate
    {n : Nat}
    (hFits : p.window < 2 * p.threshold)
    (hEstimate : (n % p.window + 1) % p.threshold = 0)
    (hFirst :
      first = 0 ∨
        (first % p.window = p.threshold % p.window ∧
          first ≤ n)) :
    (n + 1) % p.window = p.threshold % p.window ∧
      (first = 0 ∨ first + p.window ≤ n + 1) := by
  have hWindow := p.window_min
  have hThreshold := p.threshold_min
  have hLt := Nat.mod_lt n (by omega : 0 < p.window)
  obtain ⟨laps, hLaps⟩ := Nat.dvd_of_mod_eq_zero hEstimate
  have hOne : laps = 1 := by
    rcases Nat.lt_or_ge laps 2 with hFew | hMany
    · rcases Nat.eq_zero_or_pos laps with hZero | hPos
      · rw [hZero, Nat.mul_zero] at hLaps
        omega
      · omega
    · have hMul := Nat.mul_le_mul_left p.threshold hMany
      omega
  have hPos : n % p.window + 1 = p.threshold := by
    rw [hLaps, hOne, Nat.mul_one]
  have hMod : (n + 1) % p.window = p.threshold % p.window := by
    rw [← hPos, Nat.mod_add_mod]
  refine ⟨hMod, hFirst.imp_right ?_⟩
  rintro ⟨hSame, hLe⟩
  by_contra hNear
  exact mod_ne_of_near (by omega : first < n + 1) (by omega)
    (hSame.trans hMod.symm)

/- The state of a run whose window fits. -/
def Fitting
    (p : ClockdriftParams)
    (packets : List ClockdriftResults)
    (m : ClockdriftMeasure) : Prop :=
  ∃ first,
    Kept p.window first packets m ∧
      (first = 0 ∨
        (p.Sorts ∧
          first % p.window = p.threshold % p.window ∧
          first ≤ packets.length))

/- At an estimate, all that should be there is. -/
theorem Fitting.used_perm
    (hFitting : Fitting p packets m)
    (hAlgorithm : p.algorithm ≠ 1)
    (hFits : p.Sorts → p.window < 2 * p.threshold)
    (hEstimate :
      (m.arrive p r).pos % p.threshold = 0) :
    ((m.arrive p r).used p).Perm
      (lastN p.window (packetSamples (packets ++ [r]))) := by
  obtain ⟨first, hKept, hFirst⟩ := hFitting
  obtain ⟨hPos, hPnum, -, hHeld⟩ := hKept.arrive hAlgorithm r
  rw [hPos] at hEstimate
  rw [List.length_append, List.length_singleton] at hPnum
  have hLap :
      first = 0 ∨ first + p.window ≤ packets.length + 1 := by
    rcases hFirst with hZero | ⟨hSorts, hMod, hLe⟩
    · exact .inl hZero
    · exact (lap_of_estimate (hFits hSorts) hEstimate
        (.inr ⟨hMod, hLe⟩)).2
  have hPerm := hHeld.perm_lastN (by simpa using hLap)
  rw [length_packetSamples, List.length_append,
    List.length_singleton] at hPerm
  rwa [used, windowEnd_whole hPnum hPos]

/- A packet in such a run. -/
theorem Fitting.rxPkt
    (hFitting : Fitting p packets m)
    (hAlgorithm : p.algorithm ≠ 1)
    (hWhole : p.winSize = p.window)
    (hFits : p.Sorts → p.window < 2 * p.threshold)
    (srt : Sorting)
    (r : ClockdriftResults) :
    Fitting p (packets ++ [r]) (m.rxPkt srt p r).1 := by
  obtain ⟨first, hKept, hFirst⟩ := hFitting
  obtain ⟨hPos, -, -, hHeld⟩ := hKept.arrive hAlgorithm r
  obtain ⟨-, -, -, hSamples⟩ := rxPkt_keeps srt p r m
  have hWrap :
      (if (((m.arrive p r).pos : Nat) : ℚ) = p.winSize then 0
        else (m.arrive p r).pos) =
          (packets ++ [r]).length % p.window := by
    rw [hPos, List.length_append]
    exact wrap_whole hWhole packets.length
  by_cases hSort :
      (m.arrive p r).pos % p.threshold = 0 ∧ p.Sorts
  · -- Nothing is known of where the sorted samples are.
    refine ⟨(packets ++ [r]).length,
      hKept.rxPkt hAlgorithm hWrap ?_, .inr ⟨hSort.2, ?_, le_rfl⟩⟩
    · rw [← length_packetSamples (packets ++ [r])]
      exact holds_length _ _ _
    · rw [List.length_append, List.length_singleton]
      refine (lap_of_estimate (hFits hSort.2) ?_ (.inl rfl)).1
      rw [← hPos]
      exact hSort.1
  · refine ⟨first, hKept.rxPkt hAlgorithm hWrap ?_,
      hFirst.imp_right ?_⟩
    · rw [hSamples, if_neg hSort]
      exact hHeld
    · rintro ⟨hSorts, hMod, hLe⟩
      refine ⟨hSorts, hMod, hLe.trans ?_⟩
      simp

/- The whole run. -/
theorem fitting_receiveAll
    (hStart : Started m)
    (hAlgorithm : p.algorithm ≠ 1)
    (hWhole : p.winSize = p.window)
    (hFits : p.Sorts → p.window < 2 * p.threshold)
    (srt : Sorting)
    (packets : List ClockdriftResults) :
    Fitting p packets (m.receiveAll srt p packets) := by
  induction packets using List.reverseRecOn with
  | nil => exact ⟨0, Started.kept hStart p.window, .inl rfl⟩
  | append_singleton packets r ih =>
      rw [receiveAll_concat]
      exact ih.rxPkt hAlgorithm hWhole hFits srt r

/- What fits is used. -/
theorem usesWindow_of_fits
    (hStart : Started m)
    (hAlgorithm : p.algorithm ≠ 1)
    (hFits : p.WindowFits)
    (srt : Sorting)
    (packets : List ClockdriftResults)
    (r : ClockdriftResults) :
    UsesWindow srt p m packets r := by
  intro hEstimate
  have hFitting (hReads : p.Regresses ∨ p.Sorts) :
      Fitting p packets (m.receiveAll srt p packets) :=
    fitting_receiveAll hStart hAlgorithm (hFits.1 hReads)
      hFits.2 srt packets
  refine ⟨fun hRegresses => ?_, fun hSorts => ?_⟩
  · exact (hFitting (.inl hRegresses)).used_perm hAlgorithm
      hFits.2 hEstimate
  · exact (used_sortUsed_perm srt p _).trans
      ((hFitting (.inr hSorts)).used_perm hAlgorithm hFits.2
        hEstimate)

------------------------------------------------------------
-- Packets In Order
------------------------------------------------------------

/- A packet of an exchange in which nothing drifts. -/
def packetAt (i : Nat) : ClockdriftResults where
  sendTime := i
  receiveTime := i
  clockdrift := none

def inOrder (n : Nat) : List ClockdriftResults :=
  (List.range n).map packetAt

def sampleAt (i : Nat) : ClockdriftSample where
  txTime := i
  delay := 0

@[simp]
theorem length_inOrder (n : Nat) :
    (inOrder n).length = n := by
  simp [inOrder]

theorem inOrder_succ (n : Nat) :
    inOrder (n + 1) = inOrder n ++ [packetAt n] := by
  simp [inOrder, List.range_succ]

theorem packetSamples_inOrder (n : Nat) :
    packetSamples (inOrder n) =
      (List.range n).map sampleAt := by
  induction n with
  | zero => rfl
  | succ n ih =>
      rw [inOrder_succ, packetSamples_concat, ih,
        List.range_succ, List.map_append]
      congr 1
      cases n with
      | zero => simp [inOrder, sampleOf, packetAt, sampleAt]
      | succ n =>
          simp [inOrder, List.range_succ_eq_map, sampleOf,
            packetAt, sampleAt]

/- What is in order stays when it is sorted. -/
theorem sort_inOrder
    (srt : Sorting)
    {samples : List ClockdriftSample}
    (start count : Nat)
    (hPerm :
      samples.Perm ((List.range' start count).map sampleAt)) :
    srt.sort samples =
      (List.range' start count).map sampleAt := by
  refine List.Perm.eq_of_pairwise ?_ (srt.sorted samples) ?_
    ((srt.perm samples).trans hPerm)
  · intro s t hS hT hLe hGe
    obtain ⟨i, -, rfl⟩ := List.mem_map.mp
      (((srt.perm samples).trans hPerm).mem_iff.mp hS)
    obtain ⟨j, -, rfl⟩ := List.mem_map.mp hT
    have hSame : i = j := by
      simp only [sampleAt, Nat.cast_le] at hLe hGe
      exact le_antisymm hLe hGe
    rw [hSame]
  · rw [List.pairwise_map]
    have hRange :
        (List.range' start count).Pairwise (· < ·) :=
      List.pairwise_lt_range'
    refine hRange.imp ?_
    intro i j hLt
    simp only [sampleAt, Nat.cast_le]
    exact hLt.le

/- The last samples are those that were sent last. -/
theorem lastN_inOrder
    (size n : Nat) :
    lastN size (packetSamples (inOrder n)) =
      (List.range' (n - size) (n - (n - size))).map
        sampleAt := by
  rw [lastN, length_packetSamples, length_inOrder,
    packetSamples_inOrder, ← List.map_drop,
    List.range_eq_range', List.drop_range']
  simp

theorem le_of_mem_lastN
    {i n : Nat}
    (hIn :
      sampleAt i ∈ lastN size (packetSamples (inOrder n))) :
    n - size ≤ i := by
  rw [lastN_inOrder] at hIn
  obtain ⟨j, hJ, hSame⟩ := List.mem_map.mp hIn
  have hCast : (j : ℚ) = i :=
    congrArg ClockdriftSample.txTime hSame
  have hEq : j = i := by exact_mod_cast hCast
  rw [List.mem_range'_1] at hJ
  omega

theorem Kept.arrive_inOrder
    {n : Nat}
    (hKept : Kept size 0 (inOrder n) m)
    (hAlgorithm : p.algorithm ≠ 1) :
    let m' := m.arrive p (packetAt n)
    m'.pos = n % size + 1 ∧ m'.pnum = n + 1 ∧
      Holds m'.samples size 0
        (packetSamples (inOrder (n + 1))) := by
  obtain ⟨hPos, hPnum, -, hHeld⟩ :=
    hKept.arrive hAlgorithm (packetAt n)
  rw [← inOrder_succ] at hPnum hHeld
  rw [length_inOrder] at hPos hPnum
  exact ⟨hPos, hPnum, hHeld⟩

/- What is held of packets in order. -/
theorem samples_inOrder
    {n j : Nat}
    (hHeld :
      Holds m.samples size 0 (packetSamples (inOrder n)))
    (hBelow : j < n)
    (hNear : n ≤ j + size) :
    m.samples (j % size) = sampleAt j := by
  have hCell := hHeld j (Nat.zero_le j) (by simpa) (by simpa)
  rw [packetSamples_inOrder, List.getElem?_map,
    List.getElem?_range hBelow] at hCell
  exact (Option.some.inj hCell).symm

/- In the first lap, sorting changes nothing. -/
theorem sortUsed_first_lap
    {n : Nat}
    (hHeld :
      Holds m.samples size 0 (packetSamples (inOrder n)))
    (hLap : n ≤ size)
    (hEnd : m.windowEnd p ≤ n)
    (srt : Sorting) :
    (m.sortUsed srt p).samples = m.samples := by
  have hUsed :
      m.used p =
        (List.range' 0 (m.windowEnd p)).map sampleAt := by
    rw [used, List.range_eq_range']
    refine List.map_congr_left fun j hJ => ?_
    rw [List.mem_range'_1] at hJ
    rw [← samples_inOrder hHeld (by omega : j < n) (by omega),
      Nat.mod_eq_of_lt (by omega)]
  refine sortUsed_of_eq ?_
  rw [hUsed]
  exact sort_inOrder srt 0 _ (List.Perm.refl _)

/- One more packet in order, which is not sorted away. -/
theorem Kept.rxPkt_inOrder
    {n : Nat}
    (hKept : Kept size 0 (inOrder n) m)
    (hAlgorithm : p.algorithm ≠ 1)
    (hWrap :
      (if ((n % size + 1 : Nat) : ℚ) = p.winSize then 0
        else n % size + 1) = (n + 1) % size)
    (hLap :
      (n % size + 1) % p.threshold = 0 → n + 1 ≤ size)
    (srt : Sorting) :
    Kept size 0 (inOrder (n + 1))
      (m.rxPkt srt p (packetAt n)).1 := by
  obtain ⟨hPos, hPnum, hHeld⟩ := hKept.arrive_inOrder hAlgorithm
  obtain ⟨-, -, -, hSamples⟩ := rxPkt_keeps srt p (packetAt n) m
  have hEnd : (m.arrive p (packetAt n)).windowEnd p ≤ n + 1 := by
    have hMod := Nat.mod_le n size
    unfold windowEnd
    rw [hPnum, hPos]
    split <;> omega
  have hSame :
      (m.rxPkt srt p (packetAt n)).1.samples =
        (m.arrive p (packetAt n)).samples := by
    rw [hSamples]
    split
    · next hSort =>
        rw [hPos] at hSort
        exact sortUsed_first_lap hHeld (hLap hSort.1) hEnd srt
    · rfl
  rw [inOrder_succ]
  refine hKept.rxPkt hAlgorithm ?_ ?_
  · rw [hPos, List.length_append, length_inOrder]
    exact hWrap
  · rw [hSame, ← inOrder_succ]
    exact hHeld

------------------------------------------------------------
-- Windows That Are No Number Of Samples
------------------------------------------------------------

/- Only a whole number is ever reached. -/
theorem whole_of_cast
    {k : Nat}
    (hReached : (k : ℚ) = p.winSize) :
    p.winSize = p.window := by
  rw [ClockdriftParams.window, ← hReached]
  simp [truncated]

/- The position just grows. -/
theorem kept_without_wrap
    {n : Nat}
    (hStart : Started m)
    (hAlgorithm : p.algorithm ≠ 1)
    (hNot : p.winSize ≠ p.window)
    (hBelow : n < size)
    (srt : Sorting) :
    Kept size 0 (inOrder n)
      (m.receiveAll srt p (inOrder n)) := by
  induction n with
  | zero => exact Started.kept hStart size
  | succ n ih =>
      rw [inOrder_succ, receiveAll_concat, ← inOrder_succ]
      refine (ih (by omega)).rxPkt_inOrder hAlgorithm ?_
        (fun _ => hBelow.le) srt
      rw [if_neg fun hReached => hNot (whole_of_cast hReached),
        Nat.mod_eq_of_lt (by omega : n < size),
        Nat.mod_eq_of_lt hBelow]

/-
  The first sample is still used at the first estimate behind
  the window.
-/
theorem not_usesWindow_of_not_whole
    (hStart : Started m)
    (hAlgorithm : p.algorithm ≠ 1)
    (hReads : p.Regresses ∨ p.Sorts)
    (hNot : p.winSize ≠ p.window)
    (srt : Sorting) :
    ∃ n, ¬ UsesWindow srt p m (inOrder n) (packetAt n) := by
  have hWindow := p.window_min
  have hThreshold := p.threshold_min
  have hLaps := Nat.div_add_mod p.window p.threshold
  have hMod := Nat.mod_lt p.window (by omega : 0 < p.threshold)
  obtain ⟨n, hN⟩ :
      ∃ n, p.threshold * (p.window / p.threshold + 1) = n + 1 :=
    ⟨_, (Nat.succ_pred_eq_of_pos (by positivity)).symm⟩
  have hBehind : p.window < n + 1 := by
    rw [Nat.mul_add, Nat.mul_one] at hN
    omega
  refine ⟨n, fun hUses => ?_⟩
  have hKept : Kept (n + 2) 0 (inOrder n) _ :=
    kept_without_wrap hStart hAlgorithm hNot (by omega) srt
  obtain ⟨hPos, hPnum, hHeld⟩ := hKept.arrive_inOrder hAlgorithm
  rw [Nat.mod_eq_of_lt (by omega)] at hPos
  have hFirst :
      sampleAt 0 ∈
        ((m.receiveAll srt p (inOrder n)).arrive p
          (packetAt n)).used p := by
    rw [used, windowEnd, hPnum, if_pos hBehind]
    refine List.mem_map.mpr ⟨0, List.mem_range.mpr (by omega), ?_⟩
    exact samples_inOrder hHeld (Nat.succ_pos n) (by omega)
  obtain ⟨hRegresses, hSorts⟩ := hUses (by
    rw [hPos, ← hN, Nat.mul_mod_right])
  have hLast :
      sampleAt 0 ∈ lastN p.window
        (packetSamples (inOrder (n + 1))) := by
    rw [inOrder_succ]
    rcases hReads with hReads | hReads
    · exact (hRegresses hReads).mem_iff.mp hFirst
    · refine (hSorts hReads).mem_iff.mp ?_
      exact (used_sortUsed_perm srt p _).mem_iff.mpr hFirst
  have hOld := le_of_mem_lastN hLast
  omega

------------------------------------------------------------
-- Windows That Are Sorted Too Often
------------------------------------------------------------

/- Up to one packet threshold behind the first lap. -/
theorem kept_to_second_lap
    {n : Nat}
    (hStart : Started m)
    (hAlgorithm : p.algorithm ≠ 1)
    (hWhole : p.winSize = p.window)
    (hOften : 2 * p.threshold ≤ p.window)
    (hBelow : n < p.window + p.threshold)
    (srt : Sorting) :
    Kept p.window 0 (inOrder n)
      (m.receiveAll srt p (inOrder n)) := by
  induction n with
  | zero => exact Started.kept hStart p.window
  | succ n ih =>
      rw [inOrder_succ, receiveAll_concat, ← inOrder_succ]
      refine (ih (by omega)).rxPkt_inOrder hAlgorithm
        (wrap_whole hWhole n) ?_ srt
      intro hEstimate
      by_contra hSecond
      rw [Nat.mod_eq_sub_mod (by omega : p.window ≤ n),
        Nat.mod_eq_of_lt (by omega : n - p.window < p.window),
        Nat.mod_eq_of_lt (by omega)] at hEstimate
      omega

/- The samples of the second lap, after the first sorting. -/
structure Stale
    (p : ClockdriftParams)
    (i : Nat)
    (m : ClockdriftMeasure) : Prop where
  pos : m.pos = p.threshold + i
  pnum : m.pnum = p.window + p.threshold + i
  sample : m.samples 0 = sampleAt p.threshold

/- The oldest sample is sorted to where one was just written. -/
theorem stale_after_sort
    (hStart : Started m)
    (hAlgorithm : p.algorithm ≠ 1)
    (hSorts : p.Sorts)
    (hWhole : p.winSize = p.window)
    (hOften : 2 * p.threshold ≤ p.window)
    (srt : Sorting) :
    Stale p 0
      (m.receiveAll srt p
        (inOrder (p.window + p.threshold))) := by
  have hWindow := p.window_min
  have hThreshold := p.threshold_min
  obtain ⟨n, hN⟩ : ∃ n, p.window + p.threshold = n + 1 :=
    ⟨p.window + p.threshold - 1, by omega⟩
  have hKept : Kept p.window 0 (inOrder n) _ :=
    kept_to_second_lap hStart hAlgorithm hWhole hOften
      (by omega) srt
  obtain ⟨hPos, hPnum, hHeld⟩ := hKept.arrive_inOrder hAlgorithm
  have hEnd :
      ((m.receiveAll srt p (inOrder n)).arrive p
        (packetAt n)).windowEnd p = min p.window (n + 1) :=
    windowEnd_whole hPnum hPos
  have hMod : n % p.window + 1 = p.threshold := by
    rw [Nat.mod_eq_sub_mod (by omega : p.window ≤ n),
      Nat.mod_eq_of_lt (by omega : n - p.window < p.window)]
    omega
  rw [hMod] at hPos
  obtain ⟨hPos', hPnum', -, hSamples'⟩ :=
    rxPkt_keeps srt p (packetAt n)
      (m.receiveAll srt p (inOrder n))
  have hPerm := hHeld.perm_lastN (.inl rfl)
  rw [length_packetSamples, length_inOrder, lastN_inOrder,
    ← hN, Nat.add_sub_cancel_left, Nat.add_sub_cancel_right,
    min_eq_left (Nat.le_add_right _ _)] at hPerm
  rw [← hN, min_eq_left (Nat.le_add_right _ _)] at hEnd
  rw [hN, inOrder_succ, receiveAll_concat]
  refine ⟨?_, ?_, ?_⟩
  · have hInside : (p.threshold : ℚ) ≠ p.winSize := by
      rw [hWhole, Ne, Nat.cast_inj]
      omega
    rw [hPos', hPos, if_neg hInside, Nat.add_zero]
  · rw [hPnum', hPnum, hN, Nat.add_zero]
  · rw [hSamples', if_pos ⟨by rw [hPos, Nat.mod_self], hSorts⟩]
    simp only [sortUsed, used, hEnd]
    rw [sort_inOrder srt _ _ hPerm, List.getElem?_map,
      List.getElem?_range' (by omega)]
    simp

/- What the next packet finds. -/
theorem Stale.arrive
    {i : Nat}
    (hStale : Stale p i m)
    (r : ClockdriftResults) :
    let m' := m.arrive p r
    m'.pos = p.threshold + i + 1 ∧
      m'.pnum = p.window + p.threshold + i + 1 ∧
      m'.samples 0 = sampleAt p.threshold := by
  have hThreshold := p.threshold_min
  have hPos := hStale.pos
  refine ⟨?_, ?_, ?_⟩
  · simp only [ClockdriftMeasure.arrive, hPos]
  · simp only [ClockdriftMeasure.arrive, hStale.pnum]
  · rw [← hStale.sample]
    simp only [ClockdriftMeasure.arrive]
    split
    · rw [Function.update_of_ne (by omega)]
    · rfl

/- It stays there while the other positions are written. -/
theorem Stale.rxPkt
    {i : Nat}
    (hStale : Stale p i m)
    (hOften : 2 * p.threshold ≤ p.window)
    (hWhole : p.winSize = p.window)
    (hBelow : i + 1 < p.threshold)
    (srt : Sorting)
    (r : ClockdriftResults) :
    Stale p (i + 1) (m.rxPkt srt p r).1 := by
  obtain ⟨hPos, hPnum, -, hSamples⟩ := rxPkt_keeps srt p r m
  obtain ⟨hPos', hPnum', hSample'⟩ := hStale.arrive r
  have hNo :
      (p.threshold + i + 1) % p.threshold ≠ 0 := by
    rw [Nat.add_assoc, Nat.add_mod_left, Nat.mod_eq_of_lt hBelow]
    omega
  refine ⟨?_, ?_, ?_⟩
  · have hInside :
        ((p.threshold + i + 1 : Nat) : ℚ) ≠ p.winSize := by
      rw [hWhole, Ne, Nat.cast_inj]
      omega
    rw [hPos, hPos', if_neg hInside, Nat.add_assoc]
  · rw [hPnum, hPnum', Nat.add_assoc]
  · rw [hSamples, hPos', if_neg fun hSort => hNo hSort.1,
      hSample']

theorem stale_receiveAll
    {i : Nat}
    (hStart : Started m)
    (hAlgorithm : p.algorithm ≠ 1)
    (hSorts : p.Sorts)
    (hWhole : p.winSize = p.window)
    (hOften : 2 * p.threshold ≤ p.window)
    (hBelow : i < p.threshold)
    (srt : Sorting) :
    Stale p i
      (m.receiveAll srt p
        (inOrder (p.window + p.threshold + i))) := by
  induction i with
  | zero =>
      exact stale_after_sort hStart hAlgorithm hSorts hWhole
        hOften srt
  | succ i ih =>
      rw [← Nat.add_assoc, inOrder_succ, receiveAll_concat]
      exact (ih (by omega)).rxPkt hOften hWhole hBelow srt _

/- A sample that is no longer among the last is used. -/
theorem not_usesWindow_of_often
    (hStart : Started m)
    (hAlgorithm : p.algorithm ≠ 1)
    (hSorts : p.Sorts)
    (hWhole : p.winSize = p.window)
    (hOften : 2 * p.threshold ≤ p.window)
    (srt : Sorting) :
    ¬ UsesWindow srt p m
      (inOrder (p.window + 2 * p.threshold - 1))
      (packetAt (p.window + 2 * p.threshold - 1)) := by
  intro hUses
  have hWindow := p.window_min
  have hThreshold := p.threshold_min
  obtain ⟨i, hI⟩ : ∃ i, p.threshold = i + 1 :=
    ⟨p.threshold - 1, by omega⟩
  have hCount :
      p.window + 2 * p.threshold - 1 =
        p.window + p.threshold + i := by omega
  rw [hCount] at hUses
  have hStale :=
    stale_receiveAll hStart hAlgorithm hSorts hWhole hOften
      (by omega : i < p.threshold) srt
  have hArrived :=
    hStale.arrive (packetAt (p.window + p.threshold + i))
  have hPos : _ = p.threshold * 2 :=
    hArrived.1.trans (by omega)
  obtain ⟨-, hPerm⟩ := hUses (by
    rw [hPos, Nat.mul_mod_right])
  have hUsed :
      sampleAt p.threshold ∈
        ((m.receiveAll srt p
          (inOrder (p.window + p.threshold + i))).arrive p
            (packetAt (p.window + p.threshold + i))).used p := by
    rw [used, windowEnd, hArrived.2.1, if_pos (by omega)]
    exact List.mem_map.mpr
      ⟨0, List.mem_range.mpr (by omega), hArrived.2.2⟩
  have hLast :
      sampleAt p.threshold ∈ lastN p.window
        (packetSamples
          (inOrder (p.window + p.threshold + i + 1))) := by
    rw [inOrder_succ]
    refine (hPerm hSorts).mem_iff.mp ?_
    exact (used_sortUsed_perm srt p _).mem_iff.mpr hUsed
  have hOld := le_of_mem_lastN hLast
  omega

end ClockdriftMeasure

open ClockdriftMeasure

/-
  With an algorithm that keeps samples, each estimate uses the
  last ones if and only if the window size is a whole number
  and the window, if it is sorted, is less than two packet
  thresholds.
-/
theorem clockdrift_window_iff
    (srt : Sorting)
    (p : ClockdriftParams)
    (hAlgorithm : p.algorithm ≠ 1)
    (m : ClockdriftMeasure)
    (hStart : Started m) :
    (∀ packets r, UsesWindow srt p m packets r) ↔
      p.WindowFits := by
  constructor
  · intro hUses
    have hWhole (hReads : p.Regresses ∨ p.Sorts) :
        p.winSize = p.window := by
      by_contra hNot
      obtain ⟨n, hFails⟩ :=
        not_usesWindow_of_not_whole hStart hAlgorithm hReads
          hNot srt
      exact hFails (hUses _ _)
    refine ⟨hWhole, fun hSorts => ?_⟩
    by_contra hOften
    exact not_usesWindow_of_often hStart hAlgorithm hSorts
      (hWhole (.inr hSorts)) (not_lt.mp hOften) srt (hUses _ _)
  · intro hFits packets r
    exact usesWindow_of_fits hStart hAlgorithm hFits srt
      packets r

/- Parameters of an algorithm, the others as they come. -/
def clockdriftDefaults
    (algorithm : ℚ)
    (hMin : 0 ≤ algorithm)
    (hMax : algorithm ≤ 3) : ClockdriftParams where
  algorithm := algorithm
  pktTh := 100
  winSize := 1000
  algorithm_min := hMin
  algorithm_max := hMax
  pktTh_min := by norm_num
  winSize_min := by norm_num

/- A measure before its first packet. -/
def newClockdrift : ClockdriftMeasure where
  pos := 0
  allocated := true
  pnum := 0
  sums := ⟨0, 0, 0, 0, 0⟩
  a := some 0
  b := some 0
  firstTx := some 0
  samples := fun _ => ⟨0, 0⟩

/- The linear regression uses the window. -/
theorem regression_uses_window :
    UsesWindow Sorting.stable
      (clockdriftDefaults 2 (by norm_num) (by norm_num))
      newClockdrift.init (inOrder 1199) (packetAt 1199) := by
  refine (clockdrift_window_iff Sorting.stable _ ?_
    newClockdrift.init (.init _)).mpr ⟨fun _ => ?_, ?_⟩ _ _
  · change (2 : ℚ) ≠ 1
    norm_num
  · simp [clockdriftDefaults, ClockdriftParams.window, truncated]
  · rintro (hSorts | hSorts)
    · change (2 : ℚ) = 3 at hSorts
      norm_num at hSorts
    · change (2 : ℚ) = 0 at hSorts
      norm_num at hSorts

/-
  The linear programming does not, with the 1200th packet of
  an exchange in order.
-/
theorem sorted_window_keeps_old :
    ¬ UsesWindow Sorting.stable
      (clockdriftDefaults 3 (by norm_num) (by norm_num))
      newClockdrift.init (inOrder 1199) (packetAt 1199) := by
  refine not_usesWindow_of_often (.init newClockdrift) ?_
    (.inl rfl) ?_ ?_ Sorting.stable
  · change (3 : ℚ) ≠ 1
    norm_num
  · simp [clockdriftDefaults, ClockdriftParams.window, truncated]
  · simp [clockdriftDefaults, ClockdriftParams.window,
      ClockdriftParams.threshold, truncated]

end MONL

end NapaBaselibs
