import NapaBaselibs.MONL.SeqWinStep

/-
  What `LossMeasure` averages when packets come twice or late.

  `every` adds whatever is in `R_LOSS` as soon as there is
  any result of the window.  Two traces are compared, one
  with its duplicates and late packets and one without them:
  whenever the second adds a sample for a packet, so does the
  first, and the first adds one for each packet that the
  second does not have.

  Key definitions include:
    * `LossState.sampleOf`, `LossState.samples`
    * `Dropped`, `clean`

  Key theorems include:
    * `LossState.receive_loss`
    * `LossState.Compared.step_kept`,
      `LossState.Compared.step_dropped`
    * `loss_samples_clean_iff`
-/

------------------------------------------------------------
-- Samples
------------------------------------------------------------

namespace NapaBaselibs

namespace MONL

namespace LossState

/- What is given to `every` for a packet, if it is called. -/
def sampleOf
    (p : SeqWinParams)
    (s : LossState)
    (sn : BitVec 32) : Option Result :=
  let r := (s.seqWin.rxPkt p { s.r with seqNum := sn }).2.1
  if r.seqWin = none then none
  else
    some
      (match LossMeasure.decision p r.seqWin with
        | some v => some v
        | none => r.loss)

/- The samples for the packets of a trace. -/
def samples
    (p : SeqWinParams) :
    LossState → List (BitVec 32) → List Result
  | _, [] => []
  | s, sn :: sns =>
      (s.sampleOf p sn).toList ++ samples p (s.receive p sn) sns

/- What `every` does with a sample, and no sample does not. -/
theorem receive_every
    (p : SeqWinParams)
    (s : LossState)
    (sn : BitVec 32) :
    ((s.receive p sn).loss =
        match s.sampleOf p sn with
        | some sample => (LossMeasure.every sample s.loss).1
        | none => s.loss) ∧
      (s.receive p sn).r.loss =
        match s.sampleOf p sn with
        | some sample => (LossMeasure.every sample s.loss).2.1
        | none => s.r.loss := by
  unfold receive sampleOf LossMeasure.rxPkt
  have hLoss :
      (s.seqWin.rxPkt p { s.r with seqNum := sn }).2.1.loss =
        s.r.loss := by
    unfold SeqWinMeasure.rxPkt
    split <;> rfl
  generalize s.seqWin.rxPkt p { s.r with seqNum := sn } = result
    at hLoss ⊢
  rcases result with ⟨m, r, x⟩
  by_cases hNaN : r.seqWin = none
  · simpa [hNaN] using hLoss
  · cases hDecision : LossMeasure.decision p r.seqWin <;>
      simp [hNaN, hDecision]

/- The average is fed with the samples, and nothing else. -/
theorem receive_loss
    (p : SeqWinParams)
    (s : LossState)
    (sn : BitVec 32) :
    (s.receive p sn).loss =
      match s.sampleOf p sn with
      | some sample => (LossMeasure.every sample s.loss).1
      | none => s.loss :=
  (receive_every p s sn).1

/- There is a sample if there is a result of the window. -/
theorem sampleOf_length
    (p : SeqWinParams)
    (s : LossState)
    (sn : BitVec 32) :
    (s.sampleOf p sn).toList.length =
      if (s.receive p sn).r.seqWin = none then 0 else 1 := by
  rw [(receive_seqWin p s sn).2]
  unfold sampleOf
  split
  · next hNone => simp [hNone]
  · next hSome => simp [hSome]

end LossState

------------------------------------------------------------
-- Duplicates And Late Packets
------------------------------------------------------------

/-
  A packet that came before, or that is a window or more
  behind one that came before.
-/
def Dropped
    (w : Nat)
    (seen : List (BitVec 32))
    (sn : BitVec 32) : Prop :=
  sn ∈ seen ∨
    ∃ other ∈ seen,
      w ≤ (other - sn).toNat ∧ (other - sn).toNat < 2 ^ 31

instance
    (w : Nat)
    (seen : List (BitVec 32))
    (sn : BitVec 32) :
    Decidable (Dropped w seen sn) :=
  inferInstanceAs (Decidable (_ ∨ _))

/- A trace without such packets, after those seen. -/
def clean
    (w : Nat) :
    List (BitVec 32) → List (BitVec 32) → List (BitVec 32)
  | _, [] => []
  | seen, sn :: sns =>
      if Dropped w seen sn then clean w (seen ++ [sn]) sns
      else sn :: clean w (seen ++ [sn]) sns

variable {w : Nat}
variable {th : ℚ}
variable {seen sns : List (BitVec 32)}
variable {sn : BitVec 32}

theorem clean_length_le
    (w : Nat)
    (seen sns : List (BitVec 32)) :
    (clean w seen sns).length ≤ sns.length := by
  induction sns generalizing seen with
  | nil => exact le_rfl
  | cons sn sns ih =>
      have hRest := ih (seen ++ [sn])
      rw [clean]
      split
      · exact hRest.trans (Nat.le_succ _)
      · exact Nat.succ_le_succ hRest

/- Nothing is taken out if the length stays. -/
theorem clean_eq_self
    (hLength : (clean w seen sns).length = sns.length) :
    clean w seen sns = sns := by
  induction sns generalizing seen with
  | nil => rfl
  | cons sn sns ih =>
      have hRest := clean_length_le w (seen ++ [sn]) sns
      rw [clean] at hLength ⊢
      split at hLength
      · rw [List.length_cons] at hLength
        omega
      · next hKept =>
          rw [if_neg hKept, ih (by simpa using hLength)]

/- A trace is clean if no packet of it is to be dropped. -/
theorem clean_eq_self_iff
    (w : Nat)
    (seen sns : List (BitVec 32)) :
    clean w seen sns = sns ↔
      ∀ before sn after, sns = before ++ sn :: after →
        ¬ Dropped w (seen ++ before) sn := by
  induction sns generalizing seen with
  | nil => simp [clean]
  | cons first sns ih =>
      have hLe := clean_length_le w (seen ++ [first]) sns
      constructor
      · intro hSame before sn after hSplit
        rw [clean] at hSame
        split at hSame
        · have hLength := congrArg List.length hSame
          rw [List.length_cons] at hLength
          omega
        · next hKept =>
            injection hSame with _ hRest
            cases before with
            | nil =>
                injection hSplit with hFirst _
                rw [List.append_nil, ← hFirst]
                exact hKept
            | cons b before =>
                injection hSplit with hFirst hLater
                have hAll := (ih (seen ++ [first])).mp hRest
                rw [← hFirst]
                have hNot := hAll before sn after hLater
                rw [List.append_assoc] at hNot
                exact hNot
      · intro hAll
        have hKept : ¬ Dropped w seen first := by
          have hNot := hAll [] first sns rfl
          rw [List.append_nil] at hNot
          exact hNot
        rw [clean, if_neg hKept, (ih (seen ++ [first])).mpr]
        intro before sn after hSplit
        have hNot :=
          hAll (first :: before) sn after (by rw [hSplit]; rfl)
        rw [List.append_assoc]
        exact hNot

------------------------------------------------------------
-- Two Traces
------------------------------------------------------------

namespace LossState

/-
  The window of the trace with all packets.  As long as it is
  not valid, all distances are less than a window, and each
  packet is in the slot of its distance.
-/
structure Holds
    (w : Nat)
    (seen : List (BitVec 32))
    (s : LossState) : Prop extends Running w s where
  short :
    s.seqWin.winValid = false →
      ∀ y ∈ seen,
        s.seqWin.distance y < w ∧
          s.seqWin.snWin.getD (s.seqWin.distance y) 0 = y
  result :
    s.seqWin.winValid = true → s.r.seqWin ≠ none

/- The state with all packets, and the one without. -/
structure Compared
    (w : Nat)
    (seen : List (BitVec 32))
    (s s' : LossState) : Prop where
  all : Holds w seen s
  kept : Running w s'
  initialSn : s'.seqWin.initialSn = s.seqWin.initialSn
  cells : ∀ y ∈ s'.seqWin.snWin, y ∈ seen
  valid : s'.seqWin.winValid = true → s.seqWin.winValid = true
  result : s'.r.seqWin ≠ none → s.r.seqWin ≠ none

variable {s s' : LossState}

/- A packet that is dropped still has a result. -/
theorem Holds.result_of_dropped
    (hHolds : Holds w seen s)
    (hInt : w < 2 ^ 31)
    (hDropped : Dropped w seen sn) :
    s.seqWin.delta w sn = 0 ∨ s.seqWin.validWith w sn := by
  by_cases hValid : s.seqWin.validWith w sn
  · exact .inr hValid
  · rw [SeqWinMeasure.validWith, not_or, Bool.not_eq_true,
      not_le] at hValid
    rcases hValid with ⟨hInvalid, hNear⟩
    left
    rcases hDropped with hTwice | ⟨other, hSeen, hBehind, hHalf⟩
    · rcases hHolds.short hInvalid sn hTwice with ⟨-, hSlot⟩
      rw [SeqWinMeasure.delta, Nat.mod_eq_of_lt hNear, hSlot]
      simp
    · -- a late packet would be a window away from the first
      rcases hHolds.short hInvalid other hSeen with ⟨hShort, -⟩
      exfalso
      have hSn := sn.isLt
      have hOther := other.isLt
      have hInitial := s.seqWin.initialSn.isLt
      simp only [SeqWinMeasure.distance, BitVec.toNat_sub]
        at hNear hShort hBehind hHalf
      omega

/- One more packet in the trace with all. -/
theorem Holds.receive
    (hHolds : Holds w seen s)
    (sn : BitVec 32) :
    Holds w (seen ++ [sn]) (s.receive (windowParams w th) sn) := by
  rcases receive_seqWin (windowParams w th) s sn with
    ⟨hSeqWin, hList⟩
  rcases SeqWinMeasure.rxPkt_spec hHolds.pnum s.r with
    ⟨-, hInitial, hValid, hSet, -, hResult⟩
  rcases hHolds.toRunning.receive sn with ⟨hRunning, -⟩
  refine ⟨hRunning, ?_, ?_⟩
  · intro hInvalid
    rw [hSeqWin, ← Bool.not_eq_true, hValid,
      SeqWinMeasure.validWith, not_or, Bool.not_eq_true, not_le]
      at hInvalid
    rcases hInvalid with ⟨hBefore, hNear⟩
    have hCells :=
      hSet (.inl (by
        rw [SeqWinMeasure.validWith, not_or, not_le, hBefore]
        exact ⟨Bool.false_ne_true, hNear⟩))
    rw [Nat.mod_eq_of_lt hNear] at hCells
    have hIn : s.seqWin.distance sn < s.seqWin.snWin.length := by
      rw [hHolds.length]
      exact hNear
    intro y hMember
    have hDistance :
        (s.receive (windowParams w th) sn).seqWin.distance y =
          s.seqWin.distance y := by
      rw [hSeqWin, SeqWinMeasure.distance, hInitial]
      rfl
    rw [hDistance, hSeqWin, hCells]
    by_cases hSame : y = sn
    · subst hSame
      refine ⟨hNear, ?_⟩
      rw [List.getD_eq_getElem?_getD, List.getElem?_set_self hIn]
      rfl
    · have hSeen : y ∈ seen := by
        rcases List.mem_append.mp hMember with hOld | hNew
        · exact hOld
        · exact absurd (List.mem_singleton.mp hNew) hSame
      rcases hHolds.short hBefore y hSeen with ⟨hShort, hSlot⟩
      have hOther :
          s.seqWin.distance sn ≠ s.seqWin.distance y := by
        intro hEqual
        have hDiff := BitVec.eq_of_toNat_eq hEqual
        exact hSame ((BitVec.sub_left_inj _).mp hDiff).symm
      refine ⟨hShort, ?_⟩
      rw [List.getD_eq_getElem?_getD,
        List.getElem?_set_ne hOther,
        ← List.getD_eq_getElem?_getD]
      exact hSlot
  · intro hNow
    rw [hSeqWin, hValid] at hNow
    rw [hList, hResult hNow]
    exact Option.some_ne_none _

/- A packet that only the first trace has adds a sample. -/
theorem Compared.step_dropped
    (hCompared : Compared w seen s s')
    (hInt : w < 2 ^ 31)
    (hDropped : Dropped w seen sn) :
    Compared w (seen ++ [sn])
        (s.receive (windowParams w th) sn) s' ∧
      (s.receive (windowParams w th) sn).r.seqWin ≠ none := by
  rcases receive_seqWin (windowParams w th) s sn with
    ⟨hSeqWin, hList⟩
  rcases SeqWinMeasure.rxPkt_spec hCompared.all.pnum s.r with
    ⟨-, hInitial, hValid, -, -, -⟩
  have hResult :
      (s.receive (windowParams w th) sn).r.seqWin ≠ none := by
    rw [hList]
    exact
      (SeqWinMeasure.seqWin_ne_none_iff th hCompared.all.pnum s.r
        sn).mpr
        (.inr (hCompared.all.result_of_dropped hInt hDropped))
  refine
    ⟨{ all := hCompared.all.receive sn
       kept := hCompared.kept
       initialSn := ?_
       cells := fun y hIn =>
        List.mem_append_left _ (hCompared.cells y hIn)
       valid := ?_
       result := fun _ => hResult }, hResult⟩
  · rw [hSeqWin, hInitial]
    exact hCompared.initialSn
  · intro hNow
    rw [hSeqWin, hValid]
    exact .inl (hCompared.valid hNow)

/- A packet that both have adds a sample to the first. -/
theorem Compared.step_kept
    (hCompared : Compared w seen s s')
    (hWindow : 1 ≤ w)
    (hKept : ¬ Dropped w seen sn) :
    Compared w (seen ++ [sn])
      (s.receive (windowParams w th) sn)
      (s'.receive (windowParams w th) sn) := by
  rcases receive_seqWin (windowParams w th) s sn with
    ⟨hSeqWin, hList⟩
  rcases receive_seqWin (windowParams w th) s' sn with
    ⟨hSeqWin', hList'⟩
  rcases SeqWinMeasure.rxPkt_spec hCompared.all.pnum s.r with
    ⟨-, hInitial, hValid, -, -, -⟩
  rcases SeqWinMeasure.rxPkt_spec hCompared.kept.pnum s'.r with
    ⟨-, hInitial', hValid', hSet', hSame', -⟩
  have hDistance :
      s'.seqWin.distance sn = s.seqWin.distance sn := by
    rw [SeqWinMeasure.distance, SeqWinMeasure.distance,
      hCompared.initialSn]
  have hValidWith :
      s'.seqWin.validWith w sn → s.seqWin.validWith w sn := by
    rintro (hBefore | hNow)
    · exact .inl (hCompared.valid hBefore)
    · exact .inr (hDistance ▸ hNow)
  refine
    { all := hCompared.all.receive sn
      kept := (hCompared.kept.receive sn).1
      initialSn := ?_
      cells := ?_
      valid := ?_
      result := ?_ }
  · rw [hSeqWin, hSeqWin', hInitial, hInitial']
    exact hCompared.initialSn
  · rw [hSeqWin']
    intro y hIn
    by_cases hUpdates : s'.seqWin.Updates w th sn
    · rw [hSet' hUpdates] at hIn
      rcases List.mem_or_eq_of_mem_set hIn with hOld | hNew
      · exact List.mem_append_left _ (hCompared.cells y hOld)
      · rw [hNew]
        exact List.mem_append_right _ (List.mem_singleton_self sn)
    · rw [hSame' hUpdates] at hIn
      exact List.mem_append_left _ (hCompared.cells y hIn)
  · rw [hSeqWin, hSeqWin', hValid, hValid']
    exact hValidWith
  · rw [hList, hList']
    intro hResult'
    apply
      (SeqWinMeasure.seqWin_ne_none_iff th hCompared.all.pnum s.r
        sn).mpr
    rcases (SeqWinMeasure.seqWin_ne_none_iff th
        hCompared.kept.pnum s'.r sn).mp hResult' with
      hBefore | hZero | hNow
    · exact .inl (hCompared.result hBefore)
    · -- a slot that holds the packet has it from the trace
      exfalso
      have hIndex :
          s'.seqWin.distance sn % w < s'.seqWin.snWin.length := by
        rw [hCompared.kept.length]
        exact Nat.mod_lt _ hWindow
      have hMember :=
        List.getElem_mem hIndex
      rw [SeqWinMeasure.delta, List.getD_eq_getElem?_getD,
        List.getElem?_eq_getElem hIndex, Option.getD_some,
        BitVec.toNat_sub] at hZero
      have hEqual :
          sn = s'.seqWin.snWin[s'.seqWin.distance sn % w] := by
        have hSn := sn.isLt
        have hCell :=
          (s'.seqWin.snWin[s'.seqWin.distance sn % w]).isLt
        apply BitVec.eq_of_toNat_eq
        omega
      exact hKept (.inl (hCompared.cells sn (hEqual ▸ hMember)))
    · exact .inr (.inr (hValidWith hNow))

/-
  There are at least as many samples, and one more for each
  packet that is dropped.
-/
theorem Compared.samples_length
    (hCompared : Compared w seen s s')
    (hWindow : 1 ≤ w)
    (hInt : w < 2 ^ 31)
    (th : ℚ)
    (sns : List (BitVec 32)) :
    (s'.samples (windowParams w th) (clean w seen sns)).length +
        sns.length ≤
      (s.samples (windowParams w th) sns).length +
        (clean w seen sns).length := by
  induction sns generalizing seen s s' with
  | nil => simp [samples, clean]
  | cons sn sns ih =>
      rw [samples, List.length_append, sampleOf_length, clean]
      by_cases hDropped : Dropped w seen sn
      · rw [if_pos hDropped]
        rcases hCompared.step_dropped hInt hDropped with
          ⟨hNext, hResult⟩
        have hRest := ih hNext
        rw [if_neg hResult, List.length_cons]
        omega
      · rw [if_neg hDropped, samples, List.length_append,
          sampleOf_length, List.length_cons, List.length_cons]
        have hNext :
            Compared w (seen ++ [sn])
              (s.receive (windowParams w th) sn)
              (s'.receive (windowParams w th) sn) :=
          hCompared.step_kept hWindow hDropped
        have hRest := ih hNext
        by_cases hNone :
            (s.receive (windowParams w th) sn).r.seqWin = none
        · have hNone' :
              (s'.receive (windowParams w th) sn).r.seqWin =
                none := by
            by_contra hSome
            exact hNext.result hSome hNone
          rw [if_pos hNone, if_pos hNone']
          omega
        · rw [if_neg hNone]
          split <;> omega

/- Both traces start with the same packet. -/
theorem Compared.first
    (hWindow : 1 ≤ w)
    (th : ℚ)
    (seqWin : SeqWinMeasure)
    (loss : LossMeasure)
    (r : RxResults)
    (sn : BitVec 32) :
    Compared w [sn]
      ((start seqWin loss r).receive (windowParams w th) sn)
      ((start seqWin loss r).receive (windowParams w th) sn) := by
  rcases receive_seqWin (windowParams w th)
      (start seqWin loss r) sn with
    ⟨hSeqWin, -⟩
  have hFirst :
      ((start seqWin loss r).receive
          (windowParams w th) sn).seqWin =
        ⟨false, sn, sn, List.replicate w sn, 1⟩ := by
    rw [hSeqWin]
    simp [start, SeqWinMeasure.init,
      SeqWinMeasure.rxPkt]
  have hRunning :
      Running w
        ((start seqWin loss r).receive (windowParams w th) sn) := by
    constructor
    · rw [hFirst]
      exact one_ne_zero
    · rw [hFirst, List.length_replicate]
  refine
    { all := ⟨hRunning, ?_, ?_⟩
      kept := hRunning
      initialSn := rfl
      cells := ?_
      valid := id
      result := id }
  · intro _ y hIn
    rw [List.mem_singleton.mp hIn, hFirst]
    simp [SeqWinMeasure.distance, Nat.lt_of_succ_le hWindow]
  · rw [hFirst]
    intro hAbsurd
    cases hAbsurd
  · rw [hFirst]
    intro y hIn
    rw [List.eq_of_mem_replicate hIn]
    exact List.mem_singleton_self sn

/- When the samples are those of the clean trace. -/
theorem samples_eq_clean_iff
    (hWindow : 1 ≤ w)
    (hInt : w < 2 ^ 31)
    (th : ℚ)
    (seqWin : SeqWinMeasure)
    (loss : LossMeasure)
    (r : RxResults)
    (trace : List (BitVec 32)) :
    (start seqWin loss r).samples (windowParams w th) trace =
        (start seqWin loss r).samples (windowParams w th)
          (clean w [] trace) ↔
      ∀ before sn after, trace = before ++ sn :: after →
        ¬ Dropped w before sn := by
  have hClean := clean_eq_self_iff w [] trace
  simp only [List.nil_append] at hClean
  rw [← hClean]
  constructor
  · intro hSamples
    cases trace with
    | nil => rfl
    | cons sn sns =>
        have hKept : ¬ Dropped w [] sn := by
          rintro (hIn | ⟨other, hIn, -⟩) <;> cases hIn
        rw [clean, if_neg hKept] at hSamples ⊢
        have hLength := congrArg List.length hSamples
        rw [samples, samples, List.length_append,
          List.length_append] at hLength
        have hCount :=
          (Compared.first hWindow th seqWin loss r sn).samples_length
            hWindow hInt th sns
        have hLe := clean_length_le w [sn] sns
        rw [List.nil_append] at hLength ⊢
        rw [clean_eq_self (by omega)]
  · intro hSame
    rw [hSame]

end LossState

------------------------------------------------------------
-- The Samples Of A Trace
------------------------------------------------------------

open LossState

/-
  The samples are those of the trace without duplicates and
  late packets exactly if there are no such packets in it.
-/
theorem loss_samples_clean_iff
    {w : Nat}
    (hWindow : 1 ≤ w)
    (hInt : w < 2 ^ 31)
    (th : ℚ)
    (seqWin : SeqWinMeasure)
    (loss : LossMeasure)
    (r : RxResults)
    (trace : List (BitVec 32)) :
    (start seqWin loss r).samples (windowParams w th) trace =
        (start seqWin loss r).samples (windowParams w th)
          (clean w [] trace) ↔
      ∀ before sn after, trace = before ++ sn :: after →
        ¬ Dropped w before sn :=
  samples_eq_clean_iff hWindow hInt th seqWin loss r trace

/- Three packets, none of them twice or late. -/
theorem three_packets_sampled :
    (start ⟨false, 0, 0, [], 0⟩ ⟨0, some 0, 0, 10⟩
        ⟨0, none, none⟩).samples (windowParams 1 10) [0, 1, 2] =
      (start ⟨false, 0, 0, [], 0⟩ ⟨0, some 0, 0, 10⟩
        ⟨0, none, none⟩).samples (windowParams 1 10)
          (clean 1 [] [0, 1, 2]) := by
  apply
    (loss_samples_clean_iff le_rfl (by norm_num) 10
      ⟨false, 0, 0, [], 0⟩ ⟨0, some 0, 0, 10⟩ ⟨0, none, none⟩
      [0, 1, 2]).mpr
  intro before sn after hSplit
  rcases before with _ | ⟨a, _ | ⟨b, _ | ⟨c, before⟩⟩⟩
  · simp at hSplit
    simp [← hSplit.1, Dropped]
  · simp at hSplit
    simp [← hSplit.1, ← hSplit.2.1, Dropped]
  · simp at hSplit
    simp [← hSplit.1, ← hSplit.2.1, ← hSplit.2.2.1, Dropped]
  · simp at hSplit

/- The packet 1 comes twice, and adds a sample for that. -/
theorem duplicate_sampled :
    ¬ ∀ (w : Nat)
        (th : ℚ)
        (seqWin : SeqWinMeasure)
        (loss : LossMeasure)
        (r : RxResults)
        (trace : List (BitVec 32)),
      1 ≤ w → w < 2 ^ 31 →
        (start seqWin loss r).samples (windowParams w th) trace =
          (start seqWin loss r).samples (windowParams w th)
            (clean w [] trace) := by
  intro hAll
  have hInt : (1 : ℕ) < 2 ^ 31 := by norm_num
  have hSame :=
    hAll 1 10 ⟨false, 0, 0, [], 0⟩ ⟨0, some 0, 0, 10⟩
      ⟨0, none, none⟩ [0, 1, 1] le_rfl hInt
  have hClean :=
    (samples_eq_clean_iff le_rfl hInt 10 _ _ _ _).mp hSame
  exact hClean [0, 1] 1 [] rfl (.inl (by simp))

end MONL

end NapaBaselibs
