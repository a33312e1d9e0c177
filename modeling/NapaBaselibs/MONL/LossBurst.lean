import NapaBaselibs.MONL.LossSamples
import Mathlib.Data.List.ReduceOption
import Mathlib.Tactic.FieldSimp

/-
  `loss_burst_measure.cpp`: bursts of losses.

  The measure reads `R_LOSS` behind the measure of losses,
  which gives it to `every` by reference: each tenth time it
  is the mean of ten samples.  It counts what is not 0, and
  with a 0 it stores the count in `R_LOSS_BURST`, which it
  also returns for all packets until the next 0.

  Key definitions include:
    * `LossBurstMeasure.rxPkt`
    * `BurstState.receive`, `BurstState.reports`
    * `lossRuns`, `BurstState.Meets`

  Key theorems include:
    * `BurstState.Counts.receive`
    * `loss_bursts_are_runs`
-/

------------------------------------------------------------
-- The Measure
------------------------------------------------------------

namespace NapaBaselibs

namespace MONL

/- `LossBurstMeasure`. -/
structure LossBurstMeasure where
  burst : BitVec 32

namespace LossBurstMeasure

/- `LossBurstMeasure::init`. -/
def init (_m : LossBurstMeasure) : LossBurstMeasure where
  burst := 0

/-
  `LossBurstMeasure::RxPkt`, from `R_LOSS` and what is in
  `R_LOSS_BURST`, which it may set.
-/
def rxPkt
    (loss lossBurst : Result)
    (m : LossBurstMeasure) :
    LossBurstMeasure × Result × Result :=
  match loss with
  | none => (m, lossBurst, none)
  | some l =>
      if l ≠ 0 then
        ({ burst := m.burst + 1 }, lossBurst, lossBurst)
      else
        ({ burst := 0 }, some m.burst.toNat, some m.burst.toNat)

end LossBurstMeasure

/- The three measures of a peer, and `R_LOSS_BURST`. -/
structure BurstState where
  losses : LossState
  measure : LossBurstMeasure
  lossBurst : Result

namespace BurstState

/- The measures start, with nothing in the list. -/
def start
    (seqWin : SeqWinMeasure)
    (measure : LossBurstMeasure)
    (seqNum : BitVec 32) : BurstState where
  losses :=
    LossState.start seqWin
      { rxCnt := 0
        measSum := some 0
        measCnt := 0
        txEvery := 10 }
      { seqNum := seqNum
        seqWin := none
        loss := none }
  measure := measure.init
  lossBurst := none

/- One packet: the measures run in the order of their ids. -/
def receive
    (p : SeqWinParams)
    (s : BurstState)
    (sn : BitVec 32) : BurstState × Result :=
  let losses := s.losses.receive p sn
  let (measure, lossBurst, result) :=
    s.measure.rxPkt losses.r.loss s.lossBurst
  (⟨losses, measure, lossBurst⟩, result)

/- What the measure of bursts returns for each packet. -/
def reports
    (p : SeqWinParams) :
    BurstState → List (BitVec 32) → List Result
  | _, [] => []
  | s, sn :: sns =>
      (s.receive p sn).2 :: reports p (s.receive p sn).1 sns

end BurstState

------------------------------------------------------------
-- Runs Of Losses
------------------------------------------------------------

/- The samples that are not 0. -/
def nonzeroSamples (results : List Result) : List ℚ :=
  results.reduceOption.filter (· ≠ 0)

/-
  The decisions that are made are split at the packets that
  were not lost.  What lies behind the last of them has not
  ended yet.
-/
def lossRuns (decisions : List (Option ℚ)) : List ℚ :=
  ((decisions.reduceOption.splitOn 0).dropLast.filter
    (· ≠ [])).map (fun run => (run.length : ℚ))

/- The runs, when some losses come first. -/
def runsFrom
    (n : Nat)
    (decisions : List (Option ℚ)) : List ℚ :=
  lossRuns (List.replicate n (some 1) ++ decisions)

theorem reduceOption_replicate_one
    (n : Nat) :
    (List.replicate n (some (1 : ℚ))).reduceOption =
      List.replicate n 1 := by
  induction n with
  | zero => rfl
  | succ n ih =>
      rw [List.replicate_succ, List.reduceOption_cons_of_some,
        ih, List.replicate_succ]

theorem runsFrom_nil
    (n : Nat) :
    runsFrom n [] = [] := by
  have hNot : (0 : ℚ) ∉ List.replicate n (1 : ℚ) := by
    intro hIn
    exact zero_ne_one (List.eq_of_mem_replicate hIn)
  rw [runsFrom, lossRuns, List.append_nil,
    reduceOption_replicate_one, List.splitOn_eq_singleton hNot]
  rfl

/- Undecided packets are no part of the runs. -/
theorem runsFrom_none
    (n : Nat)
    (decisions : List (Option ℚ)) :
    runsFrom n (none :: decisions) = runsFrom n decisions := by
  simp [runsFrom, lossRuns, List.reduceOption_append]

theorem runsFrom_one
    (n : Nat)
    (decisions : List (Option ℚ)) :
    runsFrom n (some 1 :: decisions) =
      runsFrom (n + 1) decisions := by
  rw [runsFrom, runsFrom, List.replicate_succ',
    List.append_assoc]
  rfl

/- A packet that is not lost ends a run. -/
theorem runsFrom_zero
    (n : Nat)
    (decisions : List (Option ℚ)) :
    runsFrom n (some 0 :: decisions) =
      (if n = 0 then [] else [(n : ℚ)]) ++
        runsFrom 0 decisions := by
  have hNot : (0 : ℚ) ∉ List.replicate n (1 : ℚ) := by
    intro hIn
    exact zero_ne_one (List.eq_of_mem_replicate hIn)
  have hSome :
      decisions.reduceOption.splitOn (0 : ℚ) ≠ [] :=
    List.splitOn_ne_nil 0 decisions.reduceOption
  rw [runsFrom, runsFrom, lossRuns, lossRuns,
    List.reduceOption_append, List.reduceOption_cons_of_some,
    reduceOption_replicate_one, List.splitOn_append_cons_self,
    List.splitOn_eq_singleton hNot, List.singleton_append,
    List.dropLast_cons_of_ne_nil hSome]
  cases n with
  | zero => simp
  | succ n => simp [List.replicate_succ]

------------------------------------------------------------
-- Steps That Are Right
------------------------------------------------------------

namespace BurstState

variable {p : SeqWinParams}
variable {s : BurstState}
variable {sn : BitVec 32}
variable {n : Nat}

/- This call of `every` averages. -/
def Averages (s : BurstState) : Prop :=
  s.losses.loss.rxCnt % s.losses.loss.txEvery = 0

instance (s : BurstState) : Decidable s.Averages :=
  inferInstanceAs (Decidable (_ = _))

/-
  A sample as the measure of bursts sees it, but for a factor
  that is not 0: itself, or the sum that it completes.
-/
def shown
    (s : BurstState)
    (sample : Result) : Result :=
  if s.Averages then plus s.losses.loss.measSum sample
  else sample

/-
  A packet that is not lost shows 0, or no number while no
  burst is open; a lost one shows a number, and nothing but 0
  is in `R_LOSS_BURST`, that is, the last packet that was not
  lost ended no burst; one that is not decided shows no
  number, or 0 while no burst is open.
-/
structure Meets
    (p : SeqWinParams)
    (s : BurstState)
    (sn : BitVec 32) : Prop where
  received :
    s.losses.decisionOf p sn = some 0 →
      s.shown (some 0) = some 0 ∨
        (s.shown (some 0) = none ∧ s.measure.burst = 0)
  lost :
    s.losses.decisionOf p sn = some 1 →
      s.shown (some 1) ≠ none ∧
        (s.lossBurst = none ∨ s.lossBurst = some 0) ∧
        s.measure.burst.toNat + 1 < 2 ^ 32
  undecided :
    ∀ sample,
      s.losses.decisionOf p sn = none →
        s.losses.sampleOf p sn = some sample →
          s.shown sample = none ∨
            (s.shown sample = some 0 ∧ s.measure.burst = 0)

/- All packets of a trace do. -/
def AllMeet
    (p : SeqWinParams) :
    BurstState → List (BitVec 32) → Prop
  | _, [] => True
  | s, sn :: sns =>
      s.Meets p sn ∧ AllMeet p (s.receive p sn).1 sns

/- A result that is a number is not negative. -/
def NonnegResult (r : Result) : Prop :=
  ∀ q, r = some q → 0 ≤ q

/- What holds between the packets, with a run of `n` losses. -/
structure Counts
    (n : Nat)
    (s : BurstState) : Prop where
  burst : s.measure.burst.toNat = n
  unset : s.losses.r.seqWin = none → s.losses.r.loss = none
  loss : NonnegResult s.losses.r.loss
  measSum : NonnegResult s.losses.loss.measSum

/- The start. -/
theorem Counts.start
    (seqWin : SeqWinMeasure)
    (measure : LossBurstMeasure)
    (seqNum : BitVec 32) :
    Counts 0 (start seqWin measure seqNum) where
  burst := rfl
  unset := fun _ => rfl
  loss := by
    intro q hSome
    cases hSome
  measSum := by
    intro q hSome
    injection hSome with hZero
    rw [← hZero]

/- What is in `R_LOSS` for the measure of bursts. -/
theorem receive_r_loss
    (p : SeqWinParams)
    (s : LossState)
    (sn : BitVec 32) :
    (s.receive p sn).r.loss =
      match s.sampleOf p sn with
      | some sample => (LossMeasure.every sample s.loss).2.1
      | none => s.r.loss :=
  (LossState.receive_every p s sn).2

/- The mean is a number, or 0, if the sum is. -/
theorem every_shown
    (s : BurstState)
    (sample : Result) :
    ((LossMeasure.every sample s.losses.loss).2.1 = none ↔
        s.shown sample = none) ∧
      ((LossMeasure.every sample s.losses.loss).2.1 = some 0 ↔
        s.shown sample = some 0) := by
  unfold LossMeasure.every shown Averages
  by_cases hCall :
      s.losses.loss.rxCnt % s.losses.loss.txEvery = 0
  · simp only [hCall, ne_eq, not_true_eq_false, if_false,
      if_true]
    have hCount : ((s.losses.loss.measCnt : ℚ) + 1) ≠ 0 := by
      positivity
    cases plus s.losses.loss.measSum sample with
    | none => simp [quotient, arith, hCount]
    | some q => simp [quotient, arith, hCount]
  · simp [hCall]

/- A sum of numbers that are not negative. -/
theorem NonnegResult.plus
    {a b : Result}
    (hFirst : NonnegResult a)
    (hSecond : NonnegResult b) :
    NonnegResult (plus a b) := by
  intro q hSome
  cases a with
  | none => cases hSome
  | some x =>
      cases b with
      | none => cases hSome
      | some y =>
          injection hSome with hSum
          rw [← hSum]
          exact add_nonneg (hFirst x rfl) (hSecond y rfl)

/- `every` keeps that. -/
theorem every_nonneg
    {sample : Result}
    {m : LossMeasure}
    (hSum : NonnegResult m.measSum)
    (hSample : NonnegResult sample) :
    NonnegResult (LossMeasure.every sample m).1.measSum ∧
      NonnegResult (LossMeasure.every sample m).2.1 := by
  have hTotal := hSum.plus hSample
  unfold LossMeasure.every
  by_cases hCall : m.rxCnt % m.txEvery ≠ 0
  · simp only [if_pos hCall]
    exact ⟨hTotal, hSample⟩
  · simp only [if_neg hCall]
    refine ⟨?_, ?_⟩
    · intro q hSome
      injection hSome with hZero
      rw [← hZero]
    · intro q hSome
      cases hPlus : NapaBaselibs.MONL.plus m.measSum sample with
      | none =>
          rw [hPlus] at hSome
          unfold quotient arith at hSome
          split at hSome <;> cases hSome
      | some total =>
          rw [hPlus] at hSome hTotal
          have hNonneg := hTotal total rfl
          have hCount : ((m.measCnt : ℚ) + 1) ≠ 0 := by
            positivity
          simp only [quotient, arith, Nat.cast_add, Nat.cast_one,
            Option.some.injEq, hCount, if_false] at hSome
          rw [← hSome]
          positivity

/- What can be decided. -/
theorem decision_cases
    (p : SeqWinParams)
    (seqWin : Result) :
    LossMeasure.decision p seqWin = none ∨
      LossMeasure.decision p seqWin = some 0 ∨
        LossMeasure.decision p seqWin = some 1 := by
  unfold LossMeasure.decision
  cases seqWin with
  | none => exact .inl rfl
  | some d =>
      simp only
      split
      · exact .inr (.inr rfl)
      · split
        · exact .inr (.inl rfl)
        · exact .inl rfl

/- Without a sample nothing is decided, as nothing was before. -/
theorem of_sampleOf_none
    {s : LossState}
    (hNone : s.sampleOf p sn = none) :
    s.decisionOf p sn = none ∧ s.r.seqWin = none ∧
      (s.receive p sn).r.seqWin = none := by
  have hResult :
      (s.seqWin.rxPkt p
        { s.r with seqNum := sn }).2.1.seqWin = none := by
    unfold LossState.sampleOf at hNone
    by_contra hSome
    rw [if_neg hSome] at hNone
    cases hNone
  refine ⟨?_, ?_, ?_⟩
  · rw [LossState.decisionOf, hResult]
    rfl
  · unfold SeqWinMeasure.rxPkt at hResult
    split at hResult
    · exact hResult
    · simp only at hResult
      split at hResult
      · cases hResult
      · split at hResult
        · cases hResult
        · exact hResult
  · rw [(LossState.receive_seqWin p s sn).2]
    exact hResult

/- The sample of a packet is what it decides, or is old. -/
theorem sampleOf_some
    {s : LossState}
    {sample : Result}
    (hSome : s.sampleOf p sn = some sample) :
    sample =
        (match s.decisionOf p sn with
          | some v => some v
          | none => s.r.loss) ∧
      (s.receive p sn).r.seqWin ≠ none := by
  unfold LossState.sampleOf at hSome
  have hLoss :
      (s.seqWin.rxPkt p { s.r with seqNum := sn }).2.1.loss =
        s.r.loss := by
    unfold SeqWinMeasure.rxPkt
    split <;> rfl
  dsimp only at hSome
  split at hSome
  · cases hSome
  · next hResult =>
      injection hSome with hSample
      rw [hLoss] at hSample
      refine ⟨hSample.symm, ?_⟩
      rw [(LossState.receive_seqWin p s sn).2]
      exact hResult

/- The measure of losses after a packet with a sample. -/
theorem Counts.losses
    {sample : Result}
    (hCounts : Counts n s)
    (hSome : s.losses.sampleOf p sn = some sample) :
    NonnegResult (s.losses.receive p sn).r.loss ∧
      NonnegResult (s.losses.receive p sn).loss.measSum ∧
      ((s.losses.receive p sn).r.loss = none ↔
        s.shown sample = none) ∧
      ((s.losses.receive p sn).r.loss = some 0 ↔
        s.shown sample = some 0) := by
  have hList := receive_r_loss p s.losses sn
  have hMeasure := LossState.receive_loss p s.losses sn
  rw [hSome] at hList hMeasure
  have hSample : NonnegResult sample := by
    rw [(sampleOf_some hSome).1]
    have hCases :
        s.losses.decisionOf p sn = none ∨
          s.losses.decisionOf p sn = some 0 ∨
            s.losses.decisionOf p sn = some 1 :=
      decision_cases p _
    rcases hCases with hNone | hZero | hOne
    · rw [hNone]
      exact hCounts.loss
    · rw [hZero]
      intro q hIs
      injection hIs with hValue
      rw [← hValue]
    · rw [hOne]
      intro q hIs
      injection hIs with hValue
      rw [← hValue]
      exact zero_le_one
  have hNonneg := every_nonneg hCounts.measSum hSample
  have hShown := every_shown s sample
  rw [hList, hMeasure]
  exact ⟨hNonneg.2, hNonneg.1, hShown.1, hShown.2⟩

/- A lost packet shows more than 0. -/
theorem Counts.shown_one
    (hCounts : Counts n s) :
    s.shown (some 1) ≠ some 0 := by
  unfold shown
  split
  · intro hZero
    cases hSum : s.losses.loss.measSum with
    | none =>
        rw [hSum] at hZero
        cases hZero
    | some total =>
        rw [hSum] at hZero
        have hNonneg := hCounts.measSum total hSum
        injection hZero with hValue
        have hTotal : total + 1 = 0 := hValue
        linarith
  · intro hZero
    injection hZero with hValue
    exact one_ne_zero hValue

/-
  One packet that meets the conditions: what is reported and
  the run that is open continue the runs of losses.
-/
theorem Counts.receive
    (hCounts : Counts n s)
    (hMeets : s.Meets p sn) :
    ∃ n',
      Counts n' (s.receive p sn).1 ∧
        ∀ decisions,
          runsFrom n (s.losses.decisionOf p sn :: decisions) =
            nonzeroSamples [(s.receive p sn).2] ++
              runsFrom n' decisions := by
  have hBurst := hCounts.burst
  cases hSampled : s.losses.sampleOf p sn with
  | none =>
      rcases of_sampleOf_none hSampled with
        ⟨hDecision, hUnset, hAfter⟩
      have hLoss : (s.losses.receive p sn).r.loss = none := by
        rw [receive_r_loss, hSampled]
        exact hCounts.unset hUnset
      have hMeasure :
          (s.losses.receive p sn).loss = s.losses.loss := by
        rw [LossState.receive_loss, hSampled]
      refine ⟨n, ⟨?_, ?_, ?_, ?_⟩, ?_⟩
      · simp only [BurstState.receive, hLoss,
          LossBurstMeasure.rxPkt]
        exact hBurst
      · exact fun _ => hLoss
      · change NonnegResult (s.losses.receive p sn).r.loss
        rw [hLoss]
        intro q hSome
        cases hSome
      · change NonnegResult (s.losses.receive p sn).loss.measSum
        rw [hMeasure]
        exact hCounts.measSum
      · intro decisions
        rw [hDecision, runsFrom_none]
        simp [BurstState.receive, hLoss, LossBurstMeasure.rxPkt,
          nonzeroSamples]
  | some sample =>
      rcases sampleOf_some hSampled with ⟨hSample, hAfter⟩
      rcases hCounts.losses hSampled with
        ⟨hNonneg, hSum, hNone, hZero⟩
      have hCases :
          s.losses.decisionOf p sn = none ∨
            s.losses.decisionOf p sn = some 0 ∨
              s.losses.decisionOf p sn = some 1 :=
        decision_cases p _
      -- the state of the losses is the same in all cases
      have hState :
          ∀ {n' : Nat},
            (s.receive p sn).1.measure.burst.toNat = n' →
              Counts n' (s.receive p sn).1 :=
        fun hCount =>
          { burst := hCount
            unset := fun hUnset => absurd hUnset hAfter
            loss := hNonneg
            measSum := hSum }
      rcases hCases with hDecision | hDecision | hDecision
      · rcases hMeets.undecided sample hDecision hSampled with
          hShown | ⟨hShown, hClosed⟩
        · have hLoss := hNone.mpr hShown
          refine ⟨n, hState ?_, ?_⟩
          · simp only [BurstState.receive, hLoss,
              LossBurstMeasure.rxPkt]
            exact hBurst
          · intro decisions
            rw [hDecision, runsFrom_none]
            simp [BurstState.receive, hLoss,
              LossBurstMeasure.rxPkt, nonzeroSamples]
        · have hLoss := hZero.mpr hShown
          have hOpen : n = 0 := by
            rw [← hBurst, hClosed]
            rfl
          refine ⟨0, hState ?_, ?_⟩
          · simp [BurstState.receive, hLoss,
              LossBurstMeasure.rxPkt]
          · intro decisions
            rw [hDecision, runsFrom_none, hOpen]
            simp [BurstState.receive, hLoss,
              LossBurstMeasure.rxPkt, nonzeroSamples, hClosed]
      · have hIs : sample = some 0 := by
          rw [hSample, hDecision]
        rw [hIs] at hNone hZero
        rcases hMeets.received hDecision with
          hShown | ⟨hShown, hClosed⟩
        · have hLoss := hZero.mpr hShown
          refine ⟨0, hState ?_, ?_⟩
          · simp [BurstState.receive, hLoss,
              LossBurstMeasure.rxPkt]
          · intro decisions
            rw [hDecision, runsFrom_zero]
            congr 1
            simp only [BurstState.receive, hLoss,
              LossBurstMeasure.rxPkt, hBurst]
            by_cases hOpen : n = 0
            · simp [nonzeroSamples, hOpen]
            · simp [nonzeroSamples, hOpen]
        · have hLoss := hNone.mpr hShown
          have hOpen : n = 0 := by
            rw [← hBurst, hClosed]
            rfl
          refine ⟨0, hState ?_, ?_⟩
          · simp [BurstState.receive, hLoss,
              LossBurstMeasure.rxPkt, hClosed]
          · intro decisions
            rw [hDecision, runsFrom_zero, hOpen]
            simp [BurstState.receive, hLoss,
              LossBurstMeasure.rxPkt, nonzeroSamples]
      · have hIs : sample = some 1 := by
          rw [hSample, hDecision]
        rw [hIs] at hNone hZero
        rcases hMeets.lost hDecision with
          ⟨hNumber, hNothing, hBelow⟩
        cases hLoss : (s.losses.receive p sn).r.loss with
        | none => exact absurd (hNone.mp hLoss) hNumber
        | some l =>
            have hMore : l ≠ 0 := by
              intro hIsZero
              rw [hIsZero] at hLoss
              exact hCounts.shown_one (hZero.mp hLoss)
            refine ⟨n + 1, hState ?_, ?_⟩
            · have hOne : (1 : BitVec 32).toNat = 1 := rfl
              simp only [BurstState.receive, hLoss,
                LossBurstMeasure.rxPkt, if_pos hMore,
                BitVec.toNat_add, hOne]
              omega
            · intro decisions
              rw [hDecision, runsFrom_one]
              simp only [BurstState.receive, hLoss,
                LossBurstMeasure.rxPkt, if_pos hMore]
              rcases hNothing with hUnset | hEnded
              · simp [nonzeroSamples, hUnset]
              · simp [nonzeroSamples, hEnded]

/- A whole trace. -/
theorem Counts.reports
    (hCounts : Counts n s)
    {sns : List (BitVec 32)}
    (hMeet : AllMeet p s sns) :
    nonzeroSamples (s.reports p sns) =
      runsFrom n (s.losses.decisions p sns) := by
  induction sns generalizing n s with
  | nil =>
      rw [LossState.decisions, runsFrom_nil]
      rfl
  | cons sn sns ih =>
      rcases hMeet with ⟨hNow, hLater⟩
      rcases hCounts.receive hNow with ⟨n', hNext, hRuns⟩
      have hRest := ih hNext hLater
      have hSplit :
          nonzeroSamples (s.reports p (sn :: sns)) =
            nonzeroSamples [(s.receive p sn).2] ++
              nonzeroSamples
                ((s.receive p sn).1.reports p sns) := by
        rw [BurstState.reports, nonzeroSamples, nonzeroSamples,
          nonzeroSamples, ← List.filter_append,
          ← List.reduceOption_append]
        rfl
      rw [hSplit, hRest, LossState.decisions, hRuns]
      rfl

end BurstState

------------------------------------------------------------
-- Bursts
------------------------------------------------------------

open BurstState

/-
  In a trace whose packets all meet the conditions, what is
  reported besides 0 are the lengths of the runs of losses
  that have ended, each once and in their order.
-/
theorem loss_bursts_are_runs
    {p : SeqWinParams}
    {seqWin : SeqWinMeasure}
    {measure : LossBurstMeasure}
    {seqNum : BitVec 32}
    {trace : List (BitVec 32)}
    (hMeet :
      AllMeet p (BurstState.start seqWin measure seqNum) trace) :
    nonzeroSamples
        ((BurstState.start seqWin measure seqNum).reports p
          trace) =
      lossRuns
        ((BurstState.start seqWin measure seqNum).losses.decisions
          p trace) :=
  (Counts.start seqWin measure seqNum).reports hMeet

/- The measures as they start, with a window of one packet. -/
def burstStart : BurstState :=
  BurstState.start ⟨false, 0, 0, [], 0⟩ ⟨0⟩ 0

/- They have received the packet 0. -/
theorem burstStart_one :
    burstStart.receive (windowParams 1 10) 0 =
      ({ losses :=
          { seqWin := ⟨false, 0, 0, [0], 1⟩
            loss := ⟨0, some 0, 0, 10⟩
            r := ⟨0, none, none⟩ }
         measure := ⟨0⟩
         lossBurst := none }, none) := by
  rfl

/- They have received the packets 0 and 1. -/
theorem burstStart_two :
    (burstStart.receive (windowParams 1 10) 0).1.receive
        (windowParams 1 10) 1 =
      ({ losses :=
          { seqWin := ⟨true, 1, 0, [1], 1⟩
            loss := ⟨1, some 0, 0, 10⟩
            r := ⟨1, some 1, some 0⟩ }
         measure := ⟨0⟩
         lossBurst := some 0 }, some 0) := by
  rw [burstStart_one]
  simp [receive, LossState.receive, SeqWinMeasure.rxPkt,
    windowParams, SeqWinMeasure.cells, truncated,
    LossMeasure.rxPkt, LossMeasure.decision, LossMeasure.every,
    LossBurstMeasure.rxPkt, plus, quotient, arith]

/- One packet is lost, and reported with the next but one. -/
theorem single_loss_reported :
    nonzeroSamples
        ((BurstState.start ⟨false, 0, 0, [], 0⟩ ⟨0⟩ 0).reports
          (windowParams 1 10) [0, 1, 3, 4]) =
      lossRuns
        ((BurstState.start ⟨false, 0, 0, [], 0⟩ ⟨0⟩
          0).losses.decisions (windowParams 1 10)
          [0, 1, 3, 4]) := by
  apply loss_bursts_are_runs
  change AllMeet (windowParams 1 10) burstStart [0, 1, 3, 4]
  refine ⟨⟨by decide, by decide, ?_⟩, ⟨?_, by decide, ?_⟩, ?_⟩
  · intro sample hNone hSampled
    cases hSampled
  · intro _
    left
    rw [burstStart_one]
    simp [shown, Averages, plus, arith]
  · intro sample hNone
    exact absurd hNone (by decide)
  · rw [burstStart_two]
    refine ⟨⟨by decide, by decide, ?_⟩, ⟨by decide, by decide, ?_⟩,
      trivial⟩
    · intro sample hNone
      exact absurd hNone (by decide)
    · intro sample hNone
      exact absurd hNone (by decide)

/-
  Two packets are lost, with one between them that comes: the
  length of the first burst is reported once more.
-/
theorem burst_reported_twice :
    ¬ ∀ (p : SeqWinParams)
        (seqWin : SeqWinMeasure)
        (measure : LossBurstMeasure)
        (seqNum : BitVec 32)
        (trace : List (BitVec 32)),
      nonzeroSamples
          ((BurstState.start seqWin measure seqNum).reports p
            trace) =
        lossRuns
          ((BurstState.start seqWin measure
            seqNum).losses.decisions p trace) := by
  intro hAll
  have hSame :=
    hAll (windowParams 1 10) ⟨false, 0, 0, [], 0⟩ ⟨0⟩ 0
      [0, 1, 3, 4, 6]
  have hReports :
      burstStart.reports (windowParams 1 10) [0, 1, 3, 4, 6] =
        [none, some 0, some 0, some 1, some 1] := by
    rw [reports, reports, burstStart_two, burstStart_one]
    decide
  have hDecisions :
      burstStart.losses.decisions (windowParams 1 10)
          [0, 1, 3, 4, 6] =
        [none, some 0, some 1, some 0, some 1] := by
    decide
  have hRuns :
      runsFrom 0 [none, some 0, some 1, some 0, some 1] =
        [1] := by
    rw [runsFrom_none, runsFrom_zero, runsFrom_one,
      runsFrom_zero, runsFrom_one, runsFrom_nil]
    simp
  have hEqual :
      nonzeroSamples [none, some 0, some 0, some 1, some 1] =
        runsFrom 0 [none, some 0, some 1, some 0, some 1] := by
    rw [← hReports, ← hDecisions]
    exact hSame
  rw [hRuns] at hEqual
  exact absurd hEqual (by decide)

end MONL

end NapaBaselibs
