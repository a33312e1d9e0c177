import NapaBaselibs.Lib.ResidueClasses
import NapaBaselibs.MONL.ResultBuffer
import Mathlib.Data.Rat.Floor
import Mathlib.Tactic.Linarith

/-
  `seqwin_measure.cpp` and `loss_measure.cpp`: losses from a
  window of sequence numbers.

  Both measures run on the result list of received packets,
  the window first.  The window has a slot for each distance
  from the first packet, modulo its size; on a trace without
  reordering a slot holds the latest packet of its class, or
  the first packet.  The measure of losses then decides for
  the packet one window below.

  Key definitions include:
    * `SeqWinMeasure.rxPkt`, `LossMeasure.rxPkt`
    * `Trace`, `LossState.decisions`

  Key theorems include:
    * `LossState.Slots.receive`
    * `loss_decisions_right`
-/

------------------------------------------------------------
-- The Window Of Sequence Numbers
------------------------------------------------------------

namespace NapaBaselibs

namespace MONL

open ResidueClasses

/- The results of a list that the two measures use. -/
structure RxResults where
  seqNum : BitVec 32
  seqWin : Result
  loss : Result

/- `P_SEQN_WIN_SIZE` and `P_SEQN_WIN_OVERFLOW_TH`. -/
structure SeqWinParams where
  winSize : ℚ
  winOverflowTh : ℚ

/- `SeqWinMeasure`. -/
structure SeqWinMeasure where
  winValid : Bool
  largestSn : BitVec 32
  initialSn : BitVec 32
  snWin : List (BitVec 32)
  pnum : Nat

namespace SeqWinMeasure

/- `SeqWinMeasure::init`. -/
def init (m : SeqWinMeasure) : SeqWinMeasure :=
  { m with pnum := 0 }

/- The cells of `sn_win`. -/
def cells (p : SeqWinParams) : Nat :=
  (truncated p.winSize).toNat

/- `SeqWinMeasure::RxPkt`; the result is NaN. -/
def rxPkt
    (p : SeqWinParams)
    (r : RxResults)
    (m : SeqWinMeasure) : SeqWinMeasure × RxResults × Result :=
  let pSn := r.seqNum
  -- the first packet
  if m.pnum = 0 then
    ({ winValid := false
       largestSn := pSn
       initialSn := pSn
       snWin := List.replicate (cells p) pSn
       pnum := 1 }, r, none)
  else
    let distance := (pSn - m.initialSn).toNat
    let winValid := m.winValid || decide (p.winSize ≤ distance)
    let ind := distance % cells p
    let deltaSnWin := (pSn - m.snWin.getD ind 0).toNat
    let largestSn :=
      if (pSn - m.largestSn).toNat < p.winOverflowTh then pSn
      else m.largestSn
    let snWin :=
      if winValid = false ∨ deltaSnWin < p.winOverflowTh then
        m.snWin.set ind pSn
      else m.snWin
    let seqWin :=
      if deltaSnWin = 0 then some 0
      else if winValid = true then some (deltaSnWin : ℚ)
      else r.seqWin
    ({ m with
        winValid := winValid
        largestSn := largestSn
        snWin := snWin },
      { r with seqWin := seqWin }, none)

end SeqWinMeasure

------------------------------------------------------------
-- Losses
------------------------------------------------------------

/- What `LossMeasure` needs to average. -/
structure LossMeasure where
  rxCnt : Nat
  measSum : Result
  measCnt : Nat
  txEvery : Nat

namespace LossMeasure

/-
  `MonMeasure::every`: it adds the result, and each time
  replaces and returns it, or returns NaN.
-/
def every
    (r : Result)
    (m : LossMeasure) : LossMeasure × Result × Result :=
  let measSum := plus m.measSum r
  let measCnt := m.measCnt + 1
  if m.rxCnt % m.txEvery ≠ 0 then
    ({ m with
        rxCnt := m.rxCnt + 1
        measSum := measSum
        measCnt := measCnt }, r, none)
  else
    let mean := quotient measSum (some measCnt)
    ({ m with
        rxCnt := m.rxCnt + 1
        measSum := some 0
        measCnt := 0 }, mean, mean)

/- What `RxPkt` assigns to `R_LOSS`, if anything. -/
def decision
    (p : SeqWinParams)
    (seqWin : Result) : Option ℚ :=
  match seqWin with
  | none => none
  | some d =>
      if p.winSize < d ∧ d < p.winOverflowTh then some 1
      else if d = p.winSize then some 0
      else none

/-
  `LossMeasure::RxPkt`, with the parameters of the measure
  `SEQWIN` of the execution list, if it has one.
-/
def rxPkt
    (seqWin : Option SeqWinParams)
    (r : RxResults)
    (m : LossMeasure) : LossMeasure × RxResults × Result :=
  if r.seqWin = none then (m, r, none)
  else
    match seqWin with
    | none => (m, r, none)
    | some p =>
        let loss :=
          match decision p r.seqWin with
          | some v => some v
          | none => r.loss
        let (m, loss, result) := every loss m
        (m, { r with loss := loss }, result)

end LossMeasure

------------------------------------------------------------
-- Received Packets
------------------------------------------------------------

/- The two measures, and the result list of a peer. -/
structure LossState where
  seqWin : SeqWinMeasure
  loss : LossMeasure
  r : RxResults

namespace LossState

/- Both measures start, with nothing in the list yet. -/
def start
    (seqWin : SeqWinMeasure)
    (loss : LossMeasure)
    (r : RxResults) : LossState where
  seqWin := seqWin.init
  loss := loss
  r := { r with seqWin := none }

/- One packet: the measures run in the order of their ids. -/
def receive
    (p : SeqWinParams)
    (s : LossState)
    (sn : BitVec 32) : LossState :=
  let (seqWin, r, _) :=
    s.seqWin.rxPkt p { s.r with seqNum := sn }
  let (loss, r, _) := s.loss.rxPkt (some p) r
  ⟨seqWin, loss, r⟩

/- What is assigned to `R_LOSS` for a packet. -/
def decisionOf
    (p : SeqWinParams)
    (s : LossState)
    (sn : BitVec 32) : Option ℚ :=
  LossMeasure.decision p
    (s.seqWin.rxPkt p { s.r with seqNum := sn }).2.1.seqWin

/- What is assigned for the packets of a trace. -/
def decisions
    (p : SeqWinParams) :
    LossState → List (BitVec 32) → List (Option ℚ)
  | _, [] => []
  | s, sn :: sns =>
      s.decisionOf p sn :: decisions p (s.receive p sn) sns

end LossState

------------------------------------------------------------
-- Traces Without Reordering
------------------------------------------------------------

/-
  A trace by its first sequence number and the distances of
  its packets from there.  In each class of distances modulo
  the window, two packets that follow each other are closer
  than the threshold; the first packet of the trace stands
  for the classes that have none yet.
-/
structure Trace
    (w : Nat)
    (th : ℚ) where
  first : BitVec 32
  later : List Nat
  window : 1 ≤ w
  threshold : (w : ℚ) < th
  increasing : (0 :: later).Pairwise (· < ·)
  span : ∀ d ∈ later, d < 2 ^ 32
  close :
    ∀ before d after,
      0 :: later = before ++ d :: after →
        ((d - latest w (d % w) before : Nat) : ℚ) < th

namespace Trace

variable {w : Nat}
variable {th : ℚ}

def distances (t : Trace w th) : List Nat :=
  0 :: t.later

/- The sequence number at a distance from the first one. -/
def numberAt
    (t : Trace w th)
    (d : Nat) : BitVec 32 :=
  t.first + BitVec.ofNat 32 d

def numbers (t : Trace w th) : List (BitVec 32) :=
  t.distances.map t.numberAt

/- What should be decided for a packet. -/
def expected
    (t : Trace w th)
    (d : Nat) : Option ℚ :=
  if d < w then none
  else if d - w ∈ t.distances then some 0
  else some 1

/- The parameters of a trace. -/
def params (_t : Trace w th) : SeqWinParams where
  winSize := w
  winOverflowTh := th

theorem cells_params
    (t : Trace w th) :
    SeqWinMeasure.cells t.params = w := by
  simp [SeqWinMeasure.cells, params, truncated]

theorem numberAt_zero
    (t : Trace w th) :
    t.numberAt 0 = t.first := by
  simp [numberAt]

/- Differences of sequence numbers are those of distances. -/
theorem numberAt_sub
    (t : Trace w th)
    {d e : Nat}
    (hOrder : e ≤ d)
    (hSpan : d < 2 ^ 32) :
    (t.numberAt d - t.numberAt e).toNat = d - e := by
  have hFirst := t.first.isLt
  simp only [numberAt, BitVec.toNat_sub, BitVec.toNat_add,
    BitVec.toNat_ofNat]
  omega

end Trace

------------------------------------------------------------
-- The Slots Of The Window
------------------------------------------------------------

namespace LossState

variable {w : Nat}
variable {th : ℚ}
variable {t : Trace w th}
variable {s : LossState}
variable {seen after : List Nat}
variable {d : Nat}

/- The window after some packets of a trace. -/
structure Slots
    (t : Trace w th)
    (s : LossState)
    (seen : List Nat) : Prop where
  pnum : s.seqWin.pnum ≠ 0
  initialSn : s.seqWin.initialSn = t.first
  length : s.seqWin.snWin.length = w
  slot :
    ∀ c < w,
      s.seqWin.snWin.getD c 0 = t.numberAt (latest w c seen)
  winValid :
    s.seqWin.winValid = true → ∃ e ∈ seen, w ≤ e
  first : 0 ∈ seen
  unset : (∀ e ∈ seen, e < w) → s.r.seqWin = none

/- A packet that comes next in a trace. -/
structure Next
    (t : Trace w th)
    (seen : List Nat)
    (d : Nat) : Prop where
  increasing : seen.Pairwise (· < ·)
  new : ∀ e ∈ seen, e < d
  span : d < 2 ^ 32
  close : ((d - latest w (d % w) seen : Nat) : ℚ) < th

theorem Next.of_split
    (hSplit : t.distances = seen ++ d :: after)
    (hSome : seen ≠ []) :
    Next t seen d := by
  have hPairwise := t.increasing
  have hZero : 0 :: t.later = seen ++ d :: after := hSplit
  rw [hZero] at hPairwise
  rcases List.pairwise_append.mp hPairwise with
    ⟨hBefore, -, hBelow⟩
  refine ⟨hBefore,
    fun e hIn => hBelow e hIn d (List.mem_cons_self ..), ?_,
    t.close seen d after hZero⟩
  cases seen with
  | nil => exact absurd rfl hSome
  | cons e es =>
      injection hZero with _ hLater
      apply t.span
      rw [hLater]
      exact List.mem_append_right _ (List.mem_cons_self ..)

/- What is below a packet came before it. -/
theorem mem_distances_iff
    (hSplit : t.distances = seen ++ d :: after)
    {e : Nat}
    (hBelow : e < d) :
    e ∈ t.distances ↔ e ∈ seen := by
  have hPairwise : t.distances.Pairwise (· < ·) := t.increasing
  rw [hSplit] at hPairwise ⊢
  rcases List.pairwise_append.mp hPairwise with ⟨-, hTail, -⟩
  constructor
  · intro hIn
    rcases List.mem_append.mp hIn with hSeen | hLater
    · exact hSeen
    · rcases List.mem_cons.mp hLater with hSame | hAfter
      · omega
      · have hAbove := List.rel_of_pairwise_cons hTail hAfter
        omega
  · exact List.mem_append_left _

/- What the window makes of the next packet. -/
theorem Slots.rxPkt_spec
    (hSlots : Slots t s seen)
    (hNext : Next t seen d) :
    let last := latest w (d % w) seen
    let after :=
      s.seqWin.rxPkt t.params { s.r with seqNum := t.numberAt d }
    last < d ∧
      after.1.pnum = s.seqWin.pnum ∧
      after.1.initialSn = t.first ∧
      after.1.snWin =
        s.seqWin.snWin.set (d % w) (t.numberAt d) ∧
      (after.1.winValid = true ↔
        s.seqWin.winValid = true ∨ w ≤ d) ∧
      after.2.1.seqWin =
        if after.1.winValid = true then some ((d - last : Nat) : ℚ)
        else s.r.seqWin := by
  intro last after
  have hPositive : 0 < d :=
    hNext.new 0 hSlots.first
  have hBelow : last < d :=
    latest_lt hPositive hNext.new
  have hClass : d % w < w := Nat.mod_lt _ t.window
  have hDistance : (t.numberAt d - t.first).toNat = d := by
    rw [← t.numberAt_zero, t.numberAt_sub (Nat.zero_le d) hNext.span,
      Nat.sub_zero]
  have hDelta :
      (t.numberAt d -
        s.seqWin.snWin.getD (d % w) 0).toNat = d - last := by
    rw [hSlots.slot _ hClass]
    exact t.numberAt_sub hBelow.le hNext.span
  have hAhead : d - last ≠ 0 := by omega
  have hClose := hNext.close
  simp only [after, SeqWinMeasure.rxPkt, hSlots.pnum, if_false,
    hSlots.initialSn, hDistance, t.cells_params, hDelta]
  refine ⟨hBelow, trivial, trivial, ?_, ?_, ?_⟩
  · rw [if_pos (.inr hClose)]
  · simp [Trace.params]
  · rw [if_neg hAhead]

/- The next packet makes the window valid if it is behind it. -/
theorem Slots.winValid_next
    (hSlots : Slots t s seen)
    (hNext : Next t seen d)
    (hValid : s.seqWin.winValid = true ∨ w ≤ d) :
    w ≤ d := by
  rcases hValid with hBefore | hNow
  · rcases hSlots.winValid hBefore with ⟨e, hSeen, hFull⟩
    exact hFull.trans (hNext.new e hSeen).le
  · exact hNow

/-
  The value for the next packet: none before the window is
  full, and then whether the packet one window below came.
-/
theorem Slots.decisionOf_eq
    (hSlots : Slots t s seen)
    (hNext : Next t seen d)
    (hSplit : t.distances = seen ++ d :: after) :
    s.decisionOf t.params (t.numberAt d) = t.expected d := by
  rcases hSlots.rxPkt_spec hNext with
    ⟨hBelow, -, -, -, hValid, hResult⟩
  have hPositive : 0 < d := hNext.new 0 hSlots.first
  rw [decisionOf, hResult]
  by_cases hFull : w ≤ d
  · have hAtLeast :=
      window_le_sub_latest hFull hPositive hNext.new
    have hWindow :=
      sub_latest_eq_iff hNext.increasing hSlots.first hFull
        hPositive hNext.new
    have hSeen :=
      mem_distances_iff hSplit (show d - w < d by
        have hWindowPos := t.window
        omega)
    rw [if_pos (hValid.mpr (.inr hFull)), Trace.expected,
      if_neg (by omega)]
    by_cases hEqual : d - latest w (d % w) seen = w
    · rw [if_pos (hSeen.mpr (hWindow.mp hEqual)), hEqual]
      simp [LossMeasure.decision, Trace.params]
    · have hMore : w < d - latest w (d % w) seen := by omega
      have hMoreCast :
          (w : ℚ) < (d - latest w (d % w) seen : Nat) := by
        exact_mod_cast hMore
      rw [if_neg (fun hIn => hEqual (hWindow.mpr (hSeen.mp hIn)))]
      exact if_pos ⟨hMoreCast, hNext.close⟩
  · have hEarlier : ∀ e ∈ seen, e < w := by
      intro e hIn
      have hNew := hNext.new e hIn
      omega
    rw [if_neg (fun hNow =>
        hFull (hSlots.winValid_next hNext (hValid.mp hNow))),
      hSlots.unset hEarlier, Trace.expected,
      if_pos (by omega)]
    rfl

/- The measure of losses leaves the window alone. -/
theorem receive_seqWin
    (p : SeqWinParams)
    (s : LossState)
    (sn : BitVec 32) :
    (s.receive p sn).seqWin =
        (s.seqWin.rxPkt p { s.r with seqNum := sn }).1 ∧
      (s.receive p sn).r.seqWin =
        (s.seqWin.rxPkt p
          { s.r with seqNum := sn }).2.1.seqWin := by
  unfold receive LossMeasure.rxPkt
  generalize s.seqWin.rxPkt p { s.r with seqNum := sn } = result
  rcases result with ⟨m, r, x⟩
  by_cases hNaN : r.seqWin = none
  · simp [hNaN]
  · simp [hNaN]

/- The slots after one more packet. -/
theorem Slots.receive
    (hSlots : Slots t s seen)
    (hNext : Next t seen d) :
    Slots t (s.receive t.params (t.numberAt d))
      (seen ++ [d]) := by
  rcases hSlots.rxPkt_spec hNext with
    ⟨hBelow, hPnum, hInitial, hCells, hValid, hResult⟩
  rcases receive_seqWin t.params s (t.numberAt d) with
    ⟨hSeqWin, hList⟩
  have hClass : d % w < w := Nat.mod_lt _ t.window
  constructor
  case pnum =>
    rw [hSeqWin, hPnum]
    exact hSlots.pnum
  case initialSn => rw [hSeqWin, hInitial]
  case length =>
    rw [hSeqWin, hCells, List.length_set]
    exact hSlots.length
  case slot =>
    intro c hBound
    rw [hSeqWin, hCells, latest_concat]
    by_cases hSame : d % w = c
    · subst hSame
      rw [if_pos rfl, List.getD_eq_getElem?_getD,
        List.getElem?_set_self (by rw [hSlots.length]; exact hClass),
        Option.getD_some]
    · rw [if_neg hSame, List.getD_eq_getElem?_getD,
        List.getElem?_set_ne hSame,
        ← List.getD_eq_getElem?_getD]
      exact hSlots.slot c hBound
  case winValid =>
    rw [hSeqWin]
    intro hNow
    exact ⟨d, by simp,
      hSlots.winValid_next hNext (hValid.mp hNow)⟩
  case first => exact List.mem_append_left _ hSlots.first
  case unset =>
    intro hEarlier
    have hShort : d < w := hEarlier d (by simp)
    rw [hList, hResult, if_neg (fun hNow => by
      have hFull := hSlots.winValid_next hNext (hValid.mp hNow)
      omega)]
    exact hSlots.unset
      (fun e hIn => hEarlier e (List.mem_append_left _ hIn))

/- The slots after the first packet. -/
theorem Slots.start
    (t : Trace w th)
    (seqWin : SeqWinMeasure)
    (loss : LossMeasure)
    (r : RxResults) :
    Slots t
      ((LossState.start seqWin loss r).receive t.params
        (t.numberAt 0)) [0] := by
  rcases receive_seqWin t.params
      (LossState.start seqWin loss r) (t.numberAt 0) with
    ⟨hSeqWin, hList⟩
  have hFirst :
      (LossState.start seqWin loss r).seqWin.rxPkt t.params
          { (LossState.start seqWin loss r).r with
            seqNum := t.numberAt 0 } =
        ({ winValid := false
           largestSn := t.first
           initialSn := t.first
           snWin := List.replicate w t.first
           pnum := 1 },
          { r with seqNum := t.first, seqWin := none }, none) := by
    rw [t.numberAt_zero]
    simp [LossState.start, SeqWinMeasure.init,
      SeqWinMeasure.rxPkt, t.cells_params]
  rw [hFirst] at hSeqWin hList
  constructor
  case pnum => simp [hSeqWin]
  case initialSn => simp [hSeqWin]
  case length => simp [hSeqWin]
  case slot =>
    intro c hBound
    have hLatest : latest w c [0] = 0 := by
      simp only [latest, List.foldl_cons, List.foldl_nil]
      exact ite_self 0
    rw [hSeqWin, hLatest, t.numberAt_zero]
    simp [hBound]
  case winValid => simp [hSeqWin]
  case first => simp
  case unset => exact fun _ => hList

/- The rest of a trace is decided as it should be. -/
theorem Slots.decisions_eq
    (hSlots : Slots t s seen)
    (hSplit : t.distances = seen ++ after) :
    s.decisions t.params (after.map t.numberAt) =
      after.map t.expected := by
  induction after generalizing s seen with
  | nil => rfl
  | cons d after ih =>
      have hNext :=
        Next.of_split hSplit
          (List.ne_nil_of_mem hSlots.first)
      have hRest :=
        ih (hSlots.receive hNext) (by simpa using hSplit)
      rw [List.map_cons, decisions, List.map_cons, hRest,
        hSlots.decisionOf_eq hNext hSplit]

end LossState

------------------------------------------------------------
-- Decisions
------------------------------------------------------------

/-
  Before averaging, `R_LOSS` gets 0 for a packet whose
  predecessor by one window was received and 1 if it was not,
  and nothing for the packets before the window is full.
-/
theorem loss_decisions_right
    {w : Nat}
    {th : ℚ}
    (t : Trace w th)
    (seqWin : SeqWinMeasure)
    (loss : LossMeasure)
    (r : RxResults) :
    (LossState.start seqWin loss r).decisions t.params
        t.numbers =
      t.distances.map (fun d =>
        if d < w then none
        else if d - w ∈ t.distances then some 0
        else some 1) := by
  have hFirst :
      (LossState.start seqWin loss r).decisionOf t.params
        (t.numberAt 0) = t.expected 0 := by
    have hWindow := t.window
    rw [Trace.expected, if_pos (by omega)]
    simp [LossState.decisionOf, LossState.start,
      SeqWinMeasure.init, SeqWinMeasure.rxPkt,
      LossMeasure.decision]
  have hRest :=
    (LossState.Slots.start t seqWin loss r).decisions_eq
      (rfl : t.distances = [0] ++ t.later)
  change LossState.decisions t.params _
    (t.numberAt 0 :: t.later.map t.numberAt) =
      t.expected 0 :: t.later.map t.expected
  rw [LossState.decisions, hFirst, hRest]

/- Three packets around the end of the numbers, one lost. -/
def lossyTrace : Trace 1 (5 / 2) where
  first := 0xFFFFFFFF
  later := [1, 3]
  window := Nat.le_refl 1
  threshold := by norm_num
  increasing := by decide
  span := by decide
  close := by
    intro before d after hSplit
    rcases before with _ | ⟨a, _ | ⟨b, _ | ⟨c, before⟩⟩⟩
    · simp at hSplit
      simp [← hSplit.1, latest]
    · simp at hSplit
      simp [← hSplit.1, ← hSplit.2.1, latest]
      norm_num
    · simp at hSplit
      simp [← hSplit.1, ← hSplit.2.1, ← hSplit.2.2.1, latest]
      norm_num
    · simp at hSplit

theorem lossyTrace_decisions :
    (LossState.start ⟨true, 0, 0, [], 1⟩ ⟨0, some 0, 0, 10⟩
        ⟨0, none, none⟩).decisions lossyTrace.params
        [0xFFFFFFFF, 0, 2] =
      [none, some 0, some 1] := by
  have hDecided :=
    loss_decisions_right lossyTrace ⟨true, 0, 0, [], 1⟩
      ⟨0, some 0, 0, 10⟩ ⟨0, none, none⟩
  have hNumbers :
      lossyTrace.numbers = [0xFFFFFFFF, 0, 2] := by
    decide
  rw [hNumbers] at hDecided
  rw [hDecided]
  decide

end MONL

end NapaBaselibs
