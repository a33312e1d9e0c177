import NapaBaselibs.ML.EntryRules
import NapaBaselibs.ML.Sample

/-
  When a connection attempt gives up.

  The retry timer counts the trials with one packet size,
  then lowers the size, and gives up when no size is left.
  `MSGLEN` lowers the size too.  If it does so in the last
  trial with the smallest size, the timer finds all trials
  used and no size left, lowers "no size" to the smallest
  size once more, and the attempt starts over.

  Key definitions include:
    * `ConnectData.sizesLeft`, `ConnectData.triesLeft`
    * `ConnectData.Revives`
    * `Firings`, `GivesUpAt`

  Key theorems include:
    * `pmtuTimeoutCb_fires`
    * `NodeStep.trialsInRange`
    * `gives_up_iff`
    * `late_msglen_never_gives_up`
-/

------------------------------------------------------------
-- Sizes That Are Left
------------------------------------------------------------

namespace NapaBaselibs

namespace ML

variable {σ α : Type}
variable {p : Platform}
variable {T : Transport σ α}

/- How often a packet size can be lowered. -/
def sizesLeft (pmtusize : Int) : Nat :=
  if pmtusize = pmtuError then 0
  else if pmtusize = pmtuMin then 1
  else if pmtusize = pmtuDsl then 4
  else if pmtusize = pmtuDslMedium then 3
  else if pmtusize = pmtuMax then 3
  else 2

theorem sizesLeft_le (pmtusize : Int) :
    sizesLeft pmtusize ≤ 4 := by
  unfold sizesLeft
  repeat' split
  all_goals omega

/- Only "no size" is not followed by a smaller size. -/
theorem sizesLeft_pmtuDecrement
    {pmtusize : Int}
    (hSize : pmtusize ≠ pmtuError) :
    sizesLeft (pmtuDecrement pmtusize) <
      sizesLeft pmtusize := by
  unfold sizesLeft pmtuDecrement
  unfold pmtuError at *
  unfold pmtuMax pmtuDsl pmtuDslMedium pmtuDslSlim
    pmtuBelowDsl pmtuMin
  repeat' split
  all_goals omega

/-
  What sending does to an attempt: status and trials stay,
  and the packet size, unless there was none, is not raised.
-/
structure ConnectData.Sent
    (con con' : ConnectData) : Prop where
  status : con'.status = con.status
  internalConnect :
    con'.internalConnect = con.internalConnect
  trials : con'.trials = con.trials
  sizesLeft :
    con.pmtusize ≠ pmtuError →
      sizesLeft con'.pmtusize ≤ sizesLeft con.pmtusize

theorem sendPasses_sent
    {job : SendJob}
    {input : SendInput α}
    {con con' : ConnectData}
    {net net' : σ}
    {outputs : List Output}
    (hPasses :
      sendPasses T job input con net =
        .ok (con', net', outputs)) :
    con.Sent con' := by
  induction input generalizing con net con' net'
      outputs with
  | nil => simp [sendPasses] at hPasses
  | cons pass rest ih =>
      simp only [sendPasses] at hPasses
      split at hPasses
      · cases hPasses
      · split at hPasses
        · rename_i hPositive
          split at hPasses
          · cases hPasses
          · rename_i hRest
            cases hPasses
            have hSent := ih hRest
            refine
              ⟨hSent.status, hSent.internalConnect,
                hSent.trials, fun hSize => ?_⟩
            have hFirst := sizesLeft_pmtuDecrement hSize
            have hLater :=
              hSent.sizesLeft (by
                change pmtuDecrement con.pmtusize ≠ _
                unfold pmtuError
                omega)
            change _ ≤ ML.sizesLeft
              (pmtuDecrement con.pmtusize) at hLater
            omega
        · cases hPasses
          exact
            ⟨rfl, rfl, rfl, fun hSize =>
              Nat.le_of_lt (sizesLeft_pmtuDecrement hSize)⟩
      · cases hPasses
        exact ⟨rfl, rfl, rfl, fun _ => Nat.le_refl _⟩

/- Over a live entry, `send_msg` leaves a sent entry. -/
theorem sendMsg_sent
    {input : SendInput α}
    {s s' : Endpoint σ}
    {conId : ConId}
    {con : ConnectData}
    {msgType : UInt8}
    {msg : List UInt8}
    {msgLen : Int}
    {truncable : Bool}
    {outputs : List Output}
    (hCon : s.connectbuf conId = some con)
    (hSend :
      sendMsg T input s conId msgType msg msgLen truncable =
        .ok (s', outputs)) :
    ∃ con' net,
      s' = s.setConNet conId con' net ∧ con.Sent con' := by
  unfold sendMsg at hSend
  simp only [hCon] at hSend
  split at hSend
  · cases hSend
  · rename_i con' net _ hPasses
    cases hSend
    have hSent := sendPasses_sent hPasses
    exact
      ⟨con', net, rfl,
        ⟨hSent.status, hSent.internalConnect, hSent.trials,
          hSent.sizesLeft⟩⟩

theorem sendConnMsg_entry
    {input : SendInput α}
    {s s' : Endpoint σ}
    {conId : ConId}
    {con : ConnectData}
    {bufSize : Int}
    {command : ConMsgType}
    {outputs : List Output}
    (hCon : s.connectbuf conId = some con)
    (hSend :
      sendConnMsg p T input s conId bufSize command =
        .ok (s', outputs)) :
    ∃ con' net,
      s' = s.setConNet conId con' net ∧ con.Sent con' := by
  unfold sendConnMsg derefCon at hSend
  split at hSend
  · cases hSend
    exact
      ⟨con, s.net, (Endpoint.setConNet_eq_self hCon).symm,
        ⟨rfl, rfl, rfl, fun _ => Nat.le_refl _⟩⟩
  · simp only [hCon] at hSend
    split at hSend
    · cases hSend
    · rcases sendMsg_sent (SlotTable.set_self ..) hSend with
        ⟨con', net, rfl, hSent⟩
      exact
        ⟨con', net, Endpoint.setCon_setConNet ..,
          ⟨hSent.status, hSent.internalConnect,
            hSent.trials, hSent.sizesLeft⟩⟩

theorem sendAndReschedule_entry
    {input : SendInput α}
    {s s' : Endpoint σ}
    {conId : ConId}
    {con : ConnectData}
    {bufSize : Int}
    {command : ConMsgType}
    {outputs : List Output}
    (hCon : s.connectbuf conId = some con)
    (hSend :
      sendAndReschedule p T input s conId bufSize command =
        .ok (s', outputs)) :
    ∃ con' net,
      s' = s.setConNet conId con' net ∧ con.Sent con' := by
  unfold sendAndReschedule at hSend
  split at hSend
  · cases hSend
  · rename_i hFirst
    rcases sendConnMsg_entry hCon hFirst with
      ⟨con₁, net, rfl, hSent⟩
    simp only [rescheduleConnMsg, derefCon,
      Endpoint.setConNet_connectbuf, SlotTable.set_self,
      Endpoint.setConNet_setCon] at hSend
    cases hSend
    exact
      ⟨_, net, rfl,
        ⟨hSent.status, hSent.internalConnect, hSent.trials,
          hSent.sizesLeft⟩⟩

/- A first message is trial 1. -/
theorem sendConnMsgWithPmtuDiscovery_entry
    {input : SendInput α}
    {s s' : Endpoint σ}
    {conId : ConId}
    {con : ConnectData}
    {bufSize : Int}
    {command : ConMsgType}
    {outputs : List Output}
    (hCon : s.connectbuf conId = some con)
    (hSend :
      sendConnMsgWithPmtuDiscovery p T input s conId bufSize
          command = .ok (s', outputs)) :
    ∃ con' net,
      s' = s.setConNet conId con' net ∧
        ({ con with trials := 1 }).Sent con' := by
  simp only [sendConnMsgWithPmtuDiscovery, derefCon, hCon]
    at hSend
  rcases
    sendAndReschedule_entry (SlotTable.set_self ..) hSend with
    ⟨con', net, rfl, hSent⟩
  exact ⟨con', net, Endpoint.setCon_setConNet .., hSent⟩

/- A message sent again is the next trial. -/
theorem resendConnMsg_entry
    {input : SendInput α}
    {s s' : Endpoint σ}
    {conId : ConId}
    {con : ConnectData}
    {outputs : List Output}
    (hCon : s.connectbuf conId = some con)
    (hSend :
      resendConnMsg p T input s conId =
        .ok (s', outputs)) :
    ∃ con' net,
      s' = s.setConNet conId con' net ∧
        ({ con with trials := con.trials + 1 }).Sent con' := by
  simp only [resendConnMsg, derefCon, hCon] at hSend
  rcases
    sendAndReschedule_entry (SlotTable.set_self ..) hSend with
    ⟨con', net, rfl, hSent⟩
  exact ⟨con', net, Endpoint.setCon_setConNet .., hSent⟩

------------------------------------------------------------
-- Trials
------------------------------------------------------------

/- The timer compares `trials` with `MAX_TRIALS` only. -/
def ConnectData.TrialsInRange (con : ConnectData) : Prop :=
  0 ≤ con.trials ∧ con.trials ≤ maxTrials

def Endpoint.TrialsInRange (s : Endpoint σ) : Prop :=
  ∀ i con, s.connectbuf i = some con → con.TrialsInRange

theorem Endpoint.Initial.trialsInRange
    {s : Endpoint σ}
    (hInitial : s.Initial) :
    s.TrialsInRange := by
  intro i con hCon
  rw [hInitial.connectbuf] at hCon
  cases hCon

------------------------------------------------------------
-- One Firing Of The Timer
------------------------------------------------------------

/-
  How many firings an attempt has before it gives up: the
  trials left with this size, three for every smaller size,
  and six more when it falls back to the other address.
-/
def ConnectData.triesLeft (con : ConnectData) : Nat :=
  (if con.internalConnect then 6 else 0) +
    3 * sizesLeft con.pmtusize +
    (maxTrials - con.trials).toNat

/-
  All trials are used and no size is left: the timer lowers
  `P_ERROR`, which yields the smallest size.
-/
def ConnectData.Revives (con : ConnectData) : Prop :=
  con.trials = maxTrials ∧ con.pmtusize = pmtuError

theorem ConnectData.triesLeft_le
    {con : ConnectData}
    (hTrials : con.TrialsInRange) :
    con.triesLeft ≤ 21 := by
  have hSizes := sizesLeft_le con.pmtusize
  rcases hTrials with ⟨hLow, hHigh⟩
  unfold maxTrials at hHigh
  unfold triesLeft maxTrials
  split <;> omega

theorem ConnectData.backOff_of_eq
    {con : ConnectData}
    (hTrials : con.trials = maxTrials) :
    con.backOff.status = con.status ∧
      con.backOff.internalConnect = con.internalConnect ∧
      con.backOff.trials = 0 ∧
      con.backOff.pmtusize = pmtuDecrement con.pmtusize := by
  unfold backOff
  rw [if_pos hTrials]
  split
  · exact ⟨rfl, rfl, rfl, rfl⟩
  · exact ⟨rfl, rfl, rfl, rfl⟩

theorem ConnectData.backOff_of_ne
    {con : ConnectData}
    (hTrials : con.trials ≠ maxTrials) :
    con.backOff.status = con.status ∧
      con.backOff.internalConnect = con.internalConnect ∧
      con.backOff.trials = con.trials ∧
      con.backOff.pmtusize = con.pmtusize := by
  unfold backOff
  rw [if_neg hTrials]
  split
  · exact ⟨rfl, rfl, rfl, rfl⟩
  · exact ⟨rfl, rfl, rfl, rfl⟩

/- After backing off there is a trial left. -/
theorem ConnectData.trials_backOff
    {con : ConnectData}
    (hTrials : con.TrialsInRange) :
    0 ≤ con.backOff.trials ∧
      con.backOff.trials < maxTrials := by
  rcases hTrials with ⟨hLow, hHigh⟩
  by_cases hEq : con.trials = maxTrials
  · rw [(backOff_of_eq hEq).2.2.1]
    decide
  · rw [(backOff_of_ne hEq).2.2.1]
    omega

/- Unless the size is revived, backing off gains nothing. -/
theorem ConnectData.triesLeft_backOff
    {con : ConnectData}
    (hRevives : ¬ con.Revives) :
    con.backOff.triesLeft ≤ con.triesLeft := by
  unfold triesLeft
  by_cases hEq : con.trials = maxTrials
  · have hLower :=
      sizesLeft_pmtuDecrement
        (fun hSize => hRevives ⟨hEq, hSize⟩)
    rcases backOff_of_eq hEq with
      ⟨_, hInternal, hTrials, hSize⟩
    rw [hInternal, hTrials, hSize, hEq]
    unfold maxTrials
    omega
  · rcases backOff_of_ne hEq with
      ⟨_, hInternal, hTrials, hSize⟩
    rw [hInternal, hTrials, hSize]

/- Falling back uses up what was reserved for it. -/
theorem ConnectData.triesLeft_external
    {con : ConnectData}
    (hInternal : con.internalConnect = true)
    (hSize : con.pmtusize = pmtuError) :
    ({ con with
        internalConnect := false
        pmtusize := pmtuDslSlim }).triesLeft =
      con.triesLeft := by
  unfold triesLeft
  rw [hInternal, hSize]
  have hSlim : sizesLeft pmtuDslSlim = 2 := by decide
  have hNone : sizesLeft pmtuError = 0 := by decide
  simp only [hSlim, hNone, Bool.false_eq_true, if_false,
    if_true]

/- What a firing that does not give up does to the entry. -/
structure ConnectData.Fires
    (con con' : ConnectData) : Prop where
  status : con'.status = con.status
  trialsInRange : con'.TrialsInRange
  triesLeft :
    ¬ con.Revives → con'.triesLeft < con.triesLeft

/- Sending again takes one of the tries. -/
theorem ConnectData.Sent.triesLeft_lt
    {con con' : ConnectData}
    (hLow : 0 ≤ con.trials)
    (hHigh : con.trials < maxTrials)
    (hSize : con.pmtusize ≠ pmtuError)
    (hSent :
      ({ con with trials := con.trials + 1 }).Sent con') :
    con'.TrialsInRange ∧ con'.triesLeft < con.triesLeft := by
  have hTrials : con'.trials = con.trials + 1 :=
    hSent.trials
  have hInternal :
      con'.internalConnect = con.internalConnect :=
    hSent.internalConnect
  have hSizes :
      ML.sizesLeft con'.pmtusize ≤
        ML.sizesLeft con.pmtusize :=
    hSent.sizesLeft hSize
  unfold TrialsInRange triesLeft
  rw [hTrials, hInternal]
  unfold maxTrials at *
  refine ⟨⟨?_, ?_⟩, ?_⟩
  · omega
  · omega
  · omega

/- The packets of a message sent again are quiet. -/
theorem resendConnMsg_quiet
    {input : SendInput α}
    {s s' : Endpoint σ}
    {conId : ConId}
    {con : ConnectData}
    {outputs : List Output}
    (hCon : s.connectbuf conId = some con)
    (hSend :
      resendConnMsg p T input s conId =
        .ok (s', outputs)) :
    Quiet outputs := by
  intro output hMem
  rcases
    (resendConnMsg_sent hCon hSend).2 output hMem with
    ⟨pkt, answer, rfl, _⟩
  trivial

/-
  The timer of an attempt gives up, or sends once more and
  takes one of the tries that were left.
-/
theorem pmtuTimeoutCb_fires
    {input : SendInput α}
    {s s' : Endpoint σ}
    {conId : ConId}
    {con : ConnectData}
    {outputs : List Output}
    (hCon : s.connectbuf conId = some con)
    (hStatus : con.status ≠ .ready)
    (hTrials : con.TrialsInRange)
    (hTimer :
      pmtuTimeoutCb p T input s conId =
        .ok (s', outputs)) :
    (s' = { s with
          connectbuf := s.connectbuf.free conId } ∧
        outputs =
          if s.failedConnectionCb then
            [.failedConnection conId]
          else
            []) ∨
      ∃ con' net,
        s' = s.setConNet conId con' net ∧
          con.Fires con' ∧ Quiet outputs := by
  rcases con.trials_backOff hTrials with ⟨hLow, hHigh⟩
  have hLink := con.sameLink_backOff
  unfold pmtuTimeoutCb at hTimer
  simp only [hCon, hStatus, if_false] at hTimer
  split at hTimer
  · rename_i hSize
    split at hTimer
    · rename_i hInternal
      rcases
        resendConnMsg_entry (SlotTable.set_self ..)
          hTimer with
        ⟨con', net, rfl, hSent⟩
      have hQuiet :=
        resendConnMsg_quiet (SlotTable.set_self ..) hTimer
      have hStatus' : con'.status = con.status :=
        hSent.status.trans hLink.1.status
      have hTakes :
          con'.TrialsInRange ∧
            con'.triesLeft <
              ConnectData.triesLeft
                { con.backOff with
                  internalConnect := false
                  pmtusize := pmtuDslSlim } :=
        ConnectData.Sent.triesLeft_lt hLow hHigh
          (show pmtuDslSlim ≠ pmtuError by decide) hSent
      rcases hTakes with ⟨hRange, hLess⟩
      rw [ConnectData.triesLeft_external hInternal hSize]
        at hLess
      refine
        Or.inr
          ⟨con', net, Endpoint.setCon_setConNet ..,
            ⟨hStatus', hRange, fun hRevives => ?_⟩, hQuiet⟩
      exact
        Nat.lt_of_lt_of_le hLess
          (ConnectData.triesLeft_backOff hRevives)
    · cases hTimer
      exact Or.inl ⟨rfl, rfl⟩
  · rename_i hSize
    rcases
      resendConnMsg_entry (SlotTable.set_self ..) hTimer with
      ⟨con', net, rfl, hSent⟩
    have hQuiet :=
      resendConnMsg_quiet (SlotTable.set_self ..) hTimer
    rcases hSent.triesLeft_lt hLow hHigh hSize with
      ⟨hRange, hLess⟩
    refine
      Or.inr
        ⟨con', net, Endpoint.setCon_setConNet ..,
          ⟨hSent.status.trans hLink.1.status, hRange,
            fun hRevives => ?_⟩, hQuiet⟩
    exact
      Nat.lt_of_lt_of_le hLess
        (ConnectData.triesLeft_backOff hRevives)

/- Sending, opening and retrying keep the trials in range. -/
theorem trialsRules :
    EntryRules p T ConnectData.TrialsInRange where
  congr hOld hSame := by
    unfold ConnectData.TrialsInRange
    rw [hSame.trials]
    exact hOld
  sent hPasses hOld := by
    unfold ConnectData.TrialsInRange
    rw [(sendPasses_sent hPasses).trials]
    exact hOld
  allocated _ _ _ hOld := hOld
  started _ := by
    change (0 : Int) ≤ 1 ∧ (1 : Int) ≤ maxTrials
    decide
  opened _ _ _ _ := by
    change (0 : Int) ≤ 0 ∧ (0 : Int) ≤ maxTrials
    decide
  retried hOld _ := by
    rcases ConnectData.trials_backOff hOld with ⟨hLow, hHigh⟩
    unfold ConnectData.TrialsInRange
    simp only
    omega
  external hOld _ := by
    rcases ConnectData.trials_backOff hOld with ⟨hLow, hHigh⟩
    unfold ConnectData.TrialsInRange
    simp only
    omega

/- Every step keeps the trials of all entries in range. -/
theorem NodeStep.trialsInRange
    {s s' : Endpoint σ}
    {e : Event α}
    {outputs : List Output}
    (hInv : s.TrialsInRange)
    (hStep : NodeStep p T s e outputs s') :
    s'.TrialsInRange := by
  refine trialsRules.nodeStep hInv ?_ hStep
  cases e with
  | recvPkg input r =>
      intro _ _
      change (0 : Int) ≤ 0 ∧ (0 : Int) ≤ maxTrials
      decide
  | openConnection | closeConnection | sendData
  | pmtuTimeout | keepalive | recvTimeout | pktRecvTimeout
  | lastPktRecvTimeout => trivial

------------------------------------------------------------
-- The Timer Chain
------------------------------------------------------------

/- Two entries that are the same to the retry timer. -/
structure ConnectData.SameAttempt
    (con con' : ConnectData) : Prop where
  status : con'.status = con.status
  internalConnect :
    con'.internalConnect = con.internalConnect
  trials : con'.trials = con.trials
  pmtusize : con'.pmtusize = con.pmtusize

/-
  The timer of one connection fires again and again, with
  whatever answers of the output queue.  Between two firings
  the rest of the node may change, but nothing is received
  for the connection and nothing is sent over it.
-/
structure Firings
    (p : Platform)
    (T : Transport σ α)
    (conId : ConId)
    (before after : ℕ → Endpoint σ)
    (outputs : ℕ → List Output) : Prop where
  fires :
    ∀ k, ∃ input,
      pmtuTimeoutCb p T input (before k) conId =
        .ok (after k, outputs k)
  waits :
    ∀ k, Option.Rel ConnectData.SameAttempt
      ((after k).connectbuf conId)
      ((before (k + 1)).connectbuf conId)

/- The entry is live and not yet `READY`. -/
def Attempting
    (s : Endpoint σ)
    (conId : ConId) : Prop :=
  ∃ con, s.connectbuf conId = some con ∧
    con.status ≠ .ready

/- The firing finds an entry whose size it revives. -/
def RevivesAt
    (s : Endpoint σ)
    (conId : ConId) : Prop :=
  ∃ con, s.connectbuf conId = some con ∧ con.Revives

/-
  The firing that gives up: it frees the entry and calls the
  callback, if there is one; no other firing calls one.
-/
structure GivesUpAt
    (conId : ConId)
    (before after : ℕ → Endpoint σ)
    (outputs : ℕ → List Output)
    (n : ℕ) : Prop where
  live : Attempting (before n) conId
  freed :
    ∀ k, n ≤ k → (after k).connectbuf conId = none
  reported :
    outputs n =
      if (before n).failedConnectionCb then
        [.failedConnection conId]
      else
        []
  once : ∀ k, k ≠ n → Quiet (outputs k)

namespace Firings

variable {conId : ConId}
variable {before after : ℕ → Endpoint σ}
variable {outputs : ℕ → List Output}

/- An attempt with its trials in range. -/
def Trying
    (s : Endpoint σ)
    (conId : ConId)
    (con : ConnectData) : Prop :=
  s.connectbuf conId = some con ∧ con.status ≠ .ready ∧
    con.TrialsInRange

/- The firings an attempt may still need to be gone. -/
def triesBefore
    (before : ℕ → Endpoint σ)
    (conId : ConId)
    (k : ℕ) : ℕ :=
  match (before k).connectbuf conId with
  | some con => con.triesLeft + 1
  | none => 0

/- Nothing makes an entry while the timer waits. -/
theorem gone_next
    (hFirings : Firings p T conId before after outputs)
    {k : ℕ}
    (hGone : (after k).connectbuf conId = none) :
    (before (k + 1)).connectbuf conId = none := by
  have hWaits := hFirings.waits k
  rw [hGone] at hWaits
  generalize (before (k + 1)).connectbuf conId = later at *
  cases hWaits
  rfl

/- An entry that is gone stays so and calls nothing. -/
theorem of_gone
    (hFirings : Firings p T conId before after outputs)
    {k : ℕ}
    (hGone : (before k).connectbuf conId = none) :
    (after k).connectbuf conId = none ∧ outputs k = [] ∧
      (before (k + 1)).connectbuf conId = none := by
  rcases hFirings.fires k with ⟨input, hTimer⟩
  unfold pmtuTimeoutCb at hTimer
  simp only [hGone] at hTimer
  rcases Prod.mk.inj (Except.ok.inj hTimer) with
    ⟨hAfter, hOutputs⟩
  have hNone : (after k).connectbuf conId = none := by
    rw [← hAfter]
    exact hGone
  exact ⟨hNone, hOutputs.symm, hFirings.gone_next hNone⟩

theorem gone_of_le
    (hFirings : Firings p T conId before after outputs)
    {k n : ℕ}
    (hLe : k ≤ n)
    (hGone : (before k).connectbuf conId = none) :
    (before n).connectbuf conId = none := by
  induction n, hLe using Nat.le_induction with
  | base => exact hGone
  | succ n _ ih => exact (hFirings.of_gone ih).2.2

/-
  A firing of an attempt either frees the entry or leaves an
  attempt, with fewer tries left unless the size is revived.
-/
theorem of_trying
    (hFirings : Firings p T conId before after outputs)
    {k : ℕ}
    {con : ConnectData}
    (hTrying : Trying (before k) conId con) :
    ((before (k + 1)).connectbuf conId = none ∧
        outputs k =
          if (before k).failedConnectionCb then
            [.failedConnection conId]
          else
            []) ∨
      (∃ con',
        Trying (before (k + 1)) conId con' ∧
          Quiet (outputs k) ∧
          (¬ con.Revives →
            con'.triesLeft < con.triesLeft)) := by
  rcases hTrying with ⟨hCon, hStatus, hRange⟩
  rcases hFirings.fires k with ⟨input, hTimer⟩
  rcases
    pmtuTimeoutCb_fires hCon hStatus hRange hTimer with
    ⟨hAfter, hOutputs⟩ | ⟨con₁, net, hAfter, hFires, hQuiet⟩
  · refine Or.inl ⟨hFirings.gone_next ?_, hOutputs⟩
    rw [hAfter]
    exact SlotTable.free_self ..
  · refine Or.inr ?_
    have hWaits := hFirings.waits k
    rw [hAfter, Endpoint.setConNet_connectbuf,
      SlotTable.set_self] at hWaits
    unfold Trying
    generalize (before (k + 1)).connectbuf conId = later
      at *
    cases hWaits with
    | @some _ con₂ hSame =>
        refine
          ⟨con₂, ⟨rfl, ?_, ?_⟩, hQuiet, fun hRevives => ?_⟩
        · rw [hSame.status, hFires.status]
          exact hStatus
        · unfold ConnectData.TrialsInRange
          rw [hSame.trials]
          exact hFires.trialsInRange
        · have hLess := hFires.triesLeft hRevives
          unfold ConnectData.triesLeft at *
          rw [hSame.internalConnect, hSame.pmtusize,
            hSame.trials]
          exact hLess

/- Before every firing the entry is an attempt or gone. -/
theorem gone_or_trying
    (hFirings : Firings p T conId before after outputs)
    (hStart : ∃ con, Trying (before 0) conId con)
    (k : ℕ) :
    (before k).connectbuf conId = none ∨
      ∃ con, Trying (before k) conId con := by
  induction k with
  | zero => exact Or.inr hStart
  | succ k ih =>
      rcases ih with hGone | ⟨con, hTrying⟩
      · exact Or.inl (hFirings.of_gone hGone).2.2
      · rcases hFirings.of_trying hTrying with
          ⟨hGone, _⟩ | ⟨con', hNext, _⟩
        · exact Or.inl hGone
        · exact Or.inr ⟨con', hNext⟩

/- The last firing before the entry is gone gives up. -/
theorem givesUpAt_of_gone
    (hFirings : Firings p T conId before after outputs)
    (hStart : ∃ con, Trying (before 0) conId con)
    {n : ℕ}
    (hGone : (before n).connectbuf conId = none) :
    ∃ k, k < n ∧
      GivesUpAt conId before after outputs k := by
  induction n with
  | zero =>
      rcases hStart with ⟨con, hCon, _⟩
      rw [hGone] at hCon
      cases hCon
  | succ n ih =>
      rcases hFirings.gone_or_trying hStart n with
        hEarlier | ⟨con, hTrying⟩
      · rcases ih hEarlier with ⟨k, hLess, hGivesUp⟩
        exact ⟨k, by omega, hGivesUp⟩
      · rcases hFirings.of_trying hTrying with
          ⟨_, hOutputs⟩ | ⟨con', ⟨hNext, _⟩, _⟩
        · refine
            ⟨n, Nat.lt_succ_self n,
              ⟨con, hTrying.1, hTrying.2.1⟩, ?_, hOutputs,
              ?_⟩
          · intro k hLe
            have hWaits := hFirings.waits k
            rw [hFirings.gone_of_le (Nat.succ_le_succ hLe)
              hGone] at hWaits
            generalize (after k).connectbuf conId = post at *
            cases hWaits
            rfl
          · intro k hNe
            rcases Nat.lt_or_gt_of_ne hNe with hBelow | hAbove
            · rcases hFirings.gone_or_trying hStart k with
                hNone | ⟨con₁, hEarlier⟩
              · have hNow :=
                  hFirings.gone_of_le (Nat.le_of_lt hBelow)
                    hNone
                rw [hTrying.1] at hNow
                cases hNow
              · rcases hFirings.of_trying hEarlier with
                  ⟨hNone, _⟩ | ⟨_, _, hQuiet, _⟩
                · have hNow :=
                    hFirings.gone_of_le hBelow hNone
                  rw [hTrying.1] at hNow
                  cases hNow
                · exact hQuiet
            · have hNone :=
                hFirings.gone_of_le hAbove hGone
              rw [(hFirings.of_gone hNone).2.1]
              exact quiet_nil
        · rw [hGone] at hNext
          cases hNext

/- From where no size is revived, 22 firings are enough. -/
theorem exists_gone
    (hFirings : Firings p T conId before after outputs)
    (hStart : ∃ con, Trying (before 0) conId con)
    {m : ℕ}
    (hNever : ∀ k, m ≤ k → ¬ RevivesAt (before k) conId) :
    ∃ n, n ≤ m + 22 ∧
      (before n).connectbuf conId = none := by
  have hBound : triesBefore before conId m ≤ 22 := by
    unfold triesBefore
    rcases hFirings.gone_or_trying hStart m with
      hGone | ⟨con, hCon, _, hRange⟩
    · simp only [hGone]
      omega
    · simp only [hCon]
      exact
        Nat.succ_le_succ (ConnectData.triesLeft_le hRange)
  rcases
    exists_of_descends
      (fun k => (before k).connectbuf conId = none)
      (triesBefore before conId) m
      (fun k hLe hLive => by
        rcases hFirings.gone_or_trying hStart k with
          hGone | ⟨con, hTrying⟩
        · exact absurd hGone hLive
        · have hKeeps : ¬ con.Revives :=
            fun hRevives =>
              hNever k hLe ⟨con, hTrying.1, hRevives⟩
          rcases hFirings.of_trying hTrying with
            ⟨hNext, _⟩ | ⟨con', hNext, _, hLess⟩
          · unfold triesBefore
            simp only [hTrying.1, hNext]
            exact Nat.succ_pos _
          · unfold triesBefore
            simp only [hTrying.1, hNext.1]
            exact Nat.succ_lt_succ (hLess hKeeps)) with
    ⟨n, _, hLe, hGone⟩
  exact ⟨n, by omega, hGone⟩

end Firings

/-
  An attempt that can be reached gives up if and only if its
  size is revived finitely often, and then at most 22 firings
  after the last time: the entry is freed and the callback
  called in one firing and in no other.
-/
theorem gives_up_iff
    {s₀ : Endpoint σ}
    {trace : List (Transition (Endpoint σ) (Event α) Output)}
    {conId : ConId}
    {before after : ℕ → Endpoint σ}
    {outputs : ℕ → List Output}
    (hInitial : s₀.Initial)
    (hRun : Run (NodeStep p T) s₀ trace (before 0))
    (hLive : Attempting (before 0) conId)
    (hFirings : Firings p T conId before after outputs) :
    ((∃ n, GivesUpAt conId before after outputs n) ↔
        ∃ m, ∀ k, m ≤ k → ¬ RevivesAt (before k) conId) ∧
      ∀ m, (∀ k, m ≤ k → ¬ RevivesAt (before k) conId) →
        ∃ n, n < m + 22 ∧
          GivesUpAt conId before after outputs n := by
  have hRange : (before 0).TrialsInRange :=
    hRun.invariant
      (fun _ _ _ _ hStep hInv =>
        NodeStep.trialsInRange hInv hStep)
      hInitial.trialsInRange
  have hStart : ∃ con, Firings.Trying (before 0) conId con := by
    rcases hLive with ⟨con, hCon, hStatus⟩
    exact ⟨con, hCon, hStatus, hRange conId con hCon⟩
  have hBounded (m : ℕ)
      (hNever : ∀ k, m ≤ k → ¬ RevivesAt (before k) conId) :
      ∃ n, n < m + 22 ∧
        GivesUpAt conId before after outputs n := by
    rcases hFirings.exists_gone hStart hNever with
      ⟨n, hLe, hGone⟩
    rcases hFirings.givesUpAt_of_gone hStart hGone with
      ⟨k, hLess, hGivesUp⟩
    exact ⟨k, by omega, hGivesUp⟩
  refine ⟨⟨?_, ?_⟩, hBounded⟩
  · rintro ⟨n, hGivesUp⟩
    refine ⟨n + 1, fun k hLe hRevives => ?_⟩
    rcases hRevives with ⟨con, hCon, _⟩
    have hGone :=
      hFirings.gone_next (hGivesUp.freed n (Nat.le_refl n))
    have hNow := hFirings.gone_of_le hLe hGone
    rw [hCon] at hNow
    cases hNow
  · rintro ⟨m, hNever⟩
    rcases hBounded m hNever with ⟨n, _, hGivesUp⟩
    exact ⟨n, hGivesUp⟩

------------------------------------------------------------
-- An Attempt That Is Not Answered
------------------------------------------------------------

namespace Sample

/- One packet without monitoring headers, and its answer. -/
def answering (answer : ErrorCode) : SendInput ErrorCode :=
  [⟨MonHeader.none, [⟨MonHeader.none, fun _ => 0, answer⟩]⟩]

/- The size that one answered packet leaves. -/
def sizeAfter
    (answer : ErrorCode)
    (pmtusize : Int) : Int :=
  if answer = .msglen then pmtuError else pmtusize

/- `MSGLEN` is answered with the smallest size only. -/
def Answered
    (answer : ErrorCode)
    (pmtusize : Int) : Prop :=
  (answer = .ok ∧
      (pmtusize = pmtuDslSlim ∨ pmtusize = pmtuMin)) ∨
    (answer = .msglen ∧ pmtusize = pmtuMin)

theorem sendMsg_answering
    {answer : ErrorCode}
    {s : Endpoint Unit}
    {conId : ConId}
    {con : ConnectData}
    (msgType : UInt8)
    (msg : List UInt8)
    {msgLen : Int}
    (hCon : s.connectbuf conId = some con)
    (hAnswered : Answered answer con.pmtusize)
    (hLen : 0 ≤ msgLen) :
    ∃ outputs,
      sendMsg Transport.scripted (answering answer) s conId
          msgType msg msgLen true =
        .ok
          (s.setConNet conId
            { con with
              seqnr := con.seqnr + 1
              pmtusize := sizeAfter answer con.pmtusize } (),
            outputs) := by
  have hNotNegative (pmtusize : Int)
      (hSize : pmtusize = pmtuDslSlim ∨ pmtusize = pmtuMin) :
      ¬ (con.sendJob conId msgType msg msgLen true).pktLen
        pmtusize 0 0 0 < 0 := by
    unfold SendJob.pktLen ConnectData.sendJob msgHeaderSize
    rcases hSize with rfl | rfl
    · rw [toCInt_eq_self (by decide) (by decide)]
      simp only [pmtuDslSlim]
      omega
    · rw [toCInt_eq_self (by decide) (by decide)]
      simp only [pmtuMin]
      omega
  unfold sendMsg answering
  rcases hAnswered with ⟨rfl, hSize⟩ | ⟨rfl, hSize⟩
  · simp only [hCon, sendPasses, sendPass, MonHeader.none,
      MonHeader.length, List.length_nil,
      hNotNegative con.pmtusize hSize, if_false,
      Transport.scripted, ConnectData.sendJob_truncable,
      Bool.true_eq_false, and_false]
    exact ⟨_, rfl⟩
  · simp only [hCon, hSize, sendPasses, sendPass,
      MonHeader.none, MonHeader.length, List.length_nil,
      hNotNegative pmtuMin (Or.inr rfl), if_false,
      Transport.scripted]
    exact ⟨_, rfl⟩

/- One more trial, and the size that the answer leaves. -/
structure Resent
    (answer : ErrorCode)
    (con con' : ConnectData) : Prop where
  status : con'.status = con.status
  trials : con'.trials = con.trials + 1
  pmtusize :
    con'.pmtusize = sizeAfter answer con.pmtusize

theorem resendConnMsg_answering
    {p : Platform}
    {answer : ErrorCode}
    {s : Endpoint Unit}
    {conId : ConId}
    {con : ConnectData}
    (hCon : s.connectbuf conId = some con)
    (hAnswered : Answered answer con.pmtusize) :
    ∃ con' outputs,
      resendConnMsg p Transport.scripted (answering answer) s
          conId =
        .ok (s.setConNet conId con' (), outputs) ∧
        Resent answer con con' := by
  have hSize : (connMsgSize : Int) ≤ con.pmtusize := by
    rcases hAnswered with ⟨_, hSize | hSize⟩ | ⟨_, hSize⟩
    · rw [hSize]
      decide
    · rw [hSize]
      decide
    · rw [hSize]
      decide
  have hNotSmall :
      ¬ (0 ≤ con.pmtusize ∧
        con.pmtusize < connMsgSize) := by
    omega
  have hPositive : 0 ≤ con.pmtusize := by
    unfold connMsgSize at hSize
    omega
  have hNotNegative : ¬ con.pmtusize < 0 := by
    omega
  have hBuf :
      ∃ buf,
        ({ con with trials := con.trials + 1 }).ctrlBuf
          con.pmtusize = .ok buf := by
    unfold ConnectData.ctrlBuf
    split
    · exact ⟨_, rfl⟩
    · exact ⟨_, if_neg hNotNegative⟩
  rcases hBuf with ⟨buf, hBuf⟩
  unfold resendConnMsg sendAndReschedule sendConnMsg
  simp only [derefCon, hCon, Endpoint.setCon_connectbuf,
    SlotTable.set_self, hNotSmall, if_false, hBuf,
    Endpoint.setCon_setCon]
  generalize ByteSeq.overlay buf 0 _ = msg
  rcases
    sendMsg_answering
      (s := s.setCon conId
        { con with
          trials := con.trials + 1
          ctrlMsgBuf := some msg })
      mlConMsg msg (SlotTable.set_self _ conId _) hAnswered
      hPositive with
    ⟨outputs, hSend⟩
  rw [hSend]
  simp only [rescheduleConnMsg, derefCon,
    Endpoint.setCon_setConNet, Endpoint.setConNet_connectbuf,
    SlotTable.set_self, Endpoint.setConNet_setCon]
  exact ⟨_, outputs, rfl, ⟨rfl, rfl, rfl⟩⟩

/- A firing that sends over the backed off entry. -/
theorem pmtuTimeoutCb_answering
    {p : Platform}
    {answer : ErrorCode}
    {s : Endpoint Unit}
    {conId : ConId}
    {con : ConnectData}
    (hCon : s.connectbuf conId = some con)
    (hStatus : con.status ≠ .ready)
    (hAnswered : Answered answer con.backOff.pmtusize) :
    ∃ con' outputs,
      pmtuTimeoutCb p Transport.scripted (answering answer) s
          conId =
        .ok (s.setConNet conId con' (), outputs) ∧
        Resent answer con.backOff con' := by
  have hSize : con.backOff.pmtusize ≠ pmtuError := by
    rcases hAnswered with ⟨_, hSize | hSize⟩ | ⟨_, hSize⟩
    · rw [hSize]
      decide
    · rw [hSize]
      decide
    · rw [hSize]
      decide
  unfold pmtuTimeoutCb
  simp only [hCon, hStatus, if_false, hSize]
  rcases
    resendConnMsg_answering (p := p)
      (s := s.setCon conId con.backOff)
      (SlotTable.set_self _ conId _) hAnswered with
    ⟨con', outputs, hSend, hResent⟩
  rw [hSend, Endpoint.setCon_setConNet]
  exact ⟨con', outputs, rfl, hResent⟩

/- The application opens a connection to host 2. -/
theorem exists_opened :
    ∃ s outputs con,
      NodeStep platform Transport.scripted node
          (.openConnection once (socketID 2) ⟨0, 0⟩ 0)
          outputs s ∧
        s.connectbuf first = some con ∧
        con.status = .invite ∧ con.trials = 1 ∧
        con.pmtusize = pmtuDslSlim := by
  have hEmpty : node.connectionOf platform (socketID 2) =
      none :=
    SlotTable.find?_empty _
  generalize hNew :
    ConnectData.ofOpen platform node.localSocketID
      (socketID 2) ⟨0, 0⟩ 0 = new
  have hStatus : new.status = .invite := by
    rw [← hNew]
    rfl
  have hPmtu : new.pmtusize = pmtuDslSlim := by
    rw [← hNew]
    rfl
  have hCon :
      (node.setCon first new).connectbuf first = some new :=
    SlotTable.set_self node.connectbuf first new
  have hSize : (connMsgSize : Int) ≤ pmtuDslSlim := by
    decide
  rcases
    sendConnMsgWithPmtuDiscovery_once (p := platform) .invite
      hCon
      (by rw [hPmtu]; decide)
      (by rw [hPmtu]; decide) hSize with
    ⟨con, pkt, hSend, _, hSame⟩
  rcases sendConnMsgWithPmtuDiscovery_entry hCon hSend with
    ⟨con', net, hSet, hSent⟩
  have hEntry : con = con' := by
    have hAt := congrArg (fun s => s.connectbuf first) hSet
    simp only [Endpoint.setConNet_connectbuf,
      SlotTable.set_self, Option.some.injEq] at hAt
    exact hAt
  rw [← hEntry] at hSent
  refine
    ⟨node.setConNet first con (),
      new.setupKeepalive ++ [.packet pkt .ok], con,
      ⟨trivial, ?_⟩,
      SlotTable.set_self node.connectbuf first con,
      hSent.status.trans hStatus, hSent.trials,
      hSame.trans hPmtu⟩
  unfold exec mlOpenConnection
  simp only [hEmpty]
  rw [show node.connectbuf.firstFree? = some first from
    firstFree?_connectbuf]
  simp only [hNew, hPmtu, hSend, Endpoint.setCon_setConNet]
  rfl

/- A firing that finds trials left keeps the size. -/
theorem exists_again
    {answer : ErrorCode}
    {s : Endpoint Unit}
    {con : ConnectData}
    (hCon : s.connectbuf first = some con)
    (hStatus : con.status = .invite)
    (hTrials : con.trials ≠ maxTrials)
    (hAnswered : Answered answer con.pmtusize) :
    ∃ s' outputs con',
      pmtuTimeoutCb platform Transport.scripted
          (answering answer) s first = .ok (s', outputs) ∧
        s'.connectbuf first = some con' ∧
        con'.status = .invite ∧
        con'.trials = con.trials + 1 ∧
        con'.pmtusize = sizeAfter answer con.pmtusize := by
  rcases ConnectData.backOff_of_ne hTrials with
    ⟨hStatus', _, hTrials', hSize'⟩
  rcases
    pmtuTimeoutCb_answering (p := platform) hCon
      (by rw [hStatus]; decide)
      (by rw [hSize']; exact hAnswered) with
    ⟨con', outputs, hTimer, hResent⟩
  refine
    ⟨_, outputs, con', hTimer,
      SlotTable.set_self s.connectbuf first con', ?_, ?_, ?_⟩
  · rw [hResent.status, hStatus', hStatus]
  · rw [hResent.trials, hTrials']
  · rw [hResent.pmtusize, hSize']

/- A firing that finds no trial left starts the next size. -/
theorem exists_smaller
    {s : Endpoint Unit}
    {con : ConnectData}
    (hCon : s.connectbuf first = some con)
    (hStatus : con.status = .invite)
    (hTrials : con.trials = maxTrials)
    (hSize : pmtuDecrement con.pmtusize = pmtuMin) :
    ∃ s' outputs con',
      pmtuTimeoutCb platform Transport.scripted
          (answering .ok) s first = .ok (s', outputs) ∧
        s'.connectbuf first = some con' ∧
        con'.status = .invite ∧
        con'.trials = 1 ∧ con'.pmtusize = pmtuMin := by
  rcases ConnectData.backOff_of_eq hTrials with
    ⟨hStatus', _, hTrials', hSize'⟩
  rw [hSize] at hSize'
  have hAnswered : Answered .ok con.backOff.pmtusize := by
    rw [hSize']
    exact Or.inl ⟨rfl, Or.inr rfl⟩
  rcases
    pmtuTimeoutCb_answering (p := platform) hCon
      (by rw [hStatus]; decide) hAnswered with
    ⟨con', outputs, hTimer, hResent⟩
  refine
    ⟨_, outputs, con', hTimer,
      SlotTable.set_self s.connectbuf first con', ?_, ?_, ?_⟩
  · rw [hResent.status, hStatus', hStatus]
  · rw [hResent.trials, hTrials']
    rfl
  · rw [hResent.pmtusize, hSize']
    rfl

/-
  The script of the unending attempt: from the second size on
  every third packet of a size is answered `MSGLEN`.
-/
def lateAnswer (k : ℕ) : ErrorCode :=
  if 3 ≤ k ∧ k % 3 = 1 then .msglen else .ok

/- The size found by each firing under this script. -/
def lateSize (k : ℕ) : Int :=
  if k < 3 then pmtuDslSlim
  else if k % 3 = 2 then pmtuError
  else pmtuMin

theorem sizeAfter_lateAnswer
    {k : ℕ}
    (hLast : k % 3 ≠ 2) :
    sizeAfter (lateAnswer k) (lateSize k) =
      lateSize (k + 1) := by
  unfold sizeAfter lateAnswer lateSize
  rw [if_neg hLast]
  by_cases hEarly : k < 3
  · rw [if_neg (show ¬ (3 ≤ k ∧ k % 3 = 1) by omega),
      if_pos hEarly, if_pos (show k + 1 < 3 by omega)]
    rfl
  · rw [if_neg hEarly, if_neg (show ¬ k + 1 < 3 by omega)]
    by_cases hMiddle : k % 3 = 1
    · rw [if_pos (show 3 ≤ k ∧ k % 3 = 1 by omega),
        if_pos (show (k + 1) % 3 = 2 by omega)]
      rfl
    · rw [if_neg (show ¬ (3 ≤ k ∧ k % 3 = 1) by omega),
        if_neg (show ¬ (k + 1) % 3 = 2 by omega)]
      rfl

/- Before each firing the attempt is at this point. -/
def LatePhase
    (k : ℕ)
    (s : Endpoint Unit) : Prop :=
  ∃ con, s.connectbuf first = some con ∧
    con.status = .invite ∧ con.trials = (k % 3 : ℕ) + 1 ∧
    con.pmtusize = lateSize k

theorem LatePhase.next
    (k : ℕ)
    (s : Endpoint Unit)
    (hPhase : LatePhase k s) :
    ∃ s',
      (∃ outputs,
        pmtuTimeoutCb platform Transport.scripted
            (answering (lateAnswer k)) s first =
          .ok (s', outputs)) ∧
        LatePhase (k + 1) s' := by
  rcases hPhase with ⟨con, hCon, hStatus, hTrials, hSize⟩
  by_cases hLast : k % 3 = 2
  · have hAnswer : lateAnswer k = .ok :=
      if_neg (by omega)
    have hDecrement :
        pmtuDecrement con.pmtusize = pmtuMin := by
      rw [hSize]
      unfold lateSize
      rw [if_pos hLast]
      split
      · rfl
      · rfl
    rw [hAnswer]
    rcases
      exists_smaller hCon hStatus
        (by rw [hTrials, hLast]; rfl) hDecrement with
      ⟨s', outputs, con', hTimer, hCon', hStatus', hTrials',
        hSize'⟩
    refine
      ⟨s', ⟨outputs, hTimer⟩, con', hCon', hStatus', ?_, ?_⟩
    · rw [hTrials', show (k + 1) % 3 = 0 by omega]
      rfl
    · rw [hSize']
      unfold lateSize
      rw [if_neg (by omega), if_neg (by omega)]
  · have hAnswered :
        Answered (lateAnswer k) con.pmtusize := by
      rw [hSize]
      unfold lateAnswer lateSize
      by_cases hEarly : k < 3
      · rw [if_neg (by omega), if_pos hEarly]
        exact Or.inl ⟨rfl, Or.inl rfl⟩
      · rw [if_neg hEarly, if_neg hLast]
        split
        · exact Or.inr ⟨rfl, rfl⟩
        · exact Or.inl ⟨rfl, Or.inr rfl⟩
    rcases
      exists_again hCon hStatus
        (by rw [hTrials]; unfold maxTrials; omega)
        hAnswered with
      ⟨s', outputs, con', hTimer, hCon', hStatus', hTrials',
        hSize'⟩
    refine
      ⟨s', ⟨outputs, hTimer⟩, con', hCon', hStatus', ?_, ?_⟩
    · rw [hTrials', hTrials]
      omega
    · rw [hSize', hSize, sizeAfter_lateAnswer hLast]

/-
  All packets accepted: before each firing the attempt has a
  size and trials in range, or it is gone.
-/
def QuietPhase
    (_ : ℕ)
    (s : Endpoint Unit) : Prop :=
  s.connectbuf first = none ∨
    ∃ con, s.connectbuf first = some con ∧
      con.status = .invite ∧
      (con.pmtusize = pmtuDslSlim ∨
        con.pmtusize = pmtuMin)

theorem QuietPhase.next
    (k : ℕ)
    (s : Endpoint Unit)
    (hPhase : QuietPhase k s) :
    ∃ s',
      (∃ outputs,
        pmtuTimeoutCb platform Transport.scripted
            (answering .ok) s first = .ok (s', outputs)) ∧
        QuietPhase (k + 1) s' := by
  rcases hPhase with hGone | ⟨con, hCon, hStatus, hSize⟩
  · refine ⟨s, ⟨[], ?_⟩, Or.inl hGone⟩
    unfold pmtuTimeoutCb
    simp only [hGone]
  · by_cases hTrials : con.trials = maxTrials
    · rcases hSize with hSlim | hMin
      · rcases
          exists_smaller hCon hStatus hTrials
            (by rw [hSlim]; rfl) with
          ⟨s', outputs, con', hTimer, hCon', hStatus', _,
            hSize'⟩
        exact
          ⟨s', ⟨outputs, hTimer⟩,
            Or.inr ⟨con', hCon', hStatus', Or.inr hSize'⟩⟩
      · rcases ConnectData.backOff_of_eq hTrials with
          ⟨hStatus', _, _, hSize'⟩
        have hNone : con.backOff.pmtusize = pmtuError := by
          rw [hSize', hMin]
          rfl
        by_cases hInternal :
            con.backOff.internalConnect = true
        · have hAnswered : Answered .ok pmtuDslSlim :=
            Or.inl ⟨rfl, Or.inl rfl⟩
          have hCon₁ :
              (s.setCon first
                { con.backOff with
                  internalConnect := false
                  pmtusize := pmtuDslSlim }).connectbuf
                  first =
                some
                  { con.backOff with
                    internalConnect := false
                    pmtusize := pmtuDslSlim } :=
            SlotTable.set_self s.connectbuf first _
          rcases
            resendConnMsg_answering (p := platform) hCon₁
              hAnswered with
            ⟨con', outputs, hSend, hResent⟩
          refine
            ⟨s.setConNet first con' (), ⟨outputs, ?_⟩,
              Or.inr
                ⟨con', SlotTable.set_self s.connectbuf first
                  con',
                  hResent.status.trans
                    (hStatus'.trans hStatus),
                  Or.inl hResent.pmtusize⟩⟩
          unfold pmtuTimeoutCb
          rw [Endpoint.setCon_setConNet] at hSend
          simp only [hCon, hStatus, reduceCtorEq, if_false,
            hNone, hInternal, if_true]
          exact hSend
        · refine
            ⟨{ s with
                connectbuf := s.connectbuf.free first },
              ⟨if s.failedConnectionCb then
                  [.failedConnection first]
                else
                  [], ?_⟩,
              Or.inl (SlotTable.free_self s.connectbuf first)⟩
          unfold pmtuTimeoutCb
          simp only [hCon, hStatus, reduceCtorEq, if_false,
            hNone, hInternal, if_true]
    · rcases
        exists_again hCon hStatus hTrials
          (Or.inl ⟨rfl, hSize⟩) with
        ⟨s', outputs, con', hTimer, hCon', hStatus', _,
          hSize'⟩
      refine
        ⟨s', ⟨outputs, hTimer⟩,
          Or.inr ⟨con', hCon', hStatus', ?_⟩⟩
      rw [hSize']
      exact hSize

end Sample

open Sample in
/-
  The packets of an `INVITE` are accepted, except that the
  last trial of each size from the second on is answered
  `MSGLEN`: no firing ever gives up.
-/
theorem late_msglen_never_gives_up :
    ∃ (trace :
        List (Transition (Endpoint Unit) (Event ErrorCode)
          Output))
      (before after : ℕ → Endpoint Unit)
      (outputs : ℕ → List Output),
      node.Initial ∧
        Run (NodeStep platform Transport.scripted) node trace
          (before 0) ∧
        Attempting (before 0) first ∧
        Firings platform Transport.scripted first before
          after outputs ∧
        (∀ n, Attempting (before n) first) ∧
        ¬ ∃ n, GivesUpAt first before after outputs n := by
  rcases exists_opened with
    ⟨s, opening, con, hStep, hCon, hStatus, hTrials, hSize⟩
  have hStart : LatePhase 0 s :=
    ⟨con, hCon, hStatus, hTrials, hSize⟩
  rcases exists_sequence LatePhase.next hStart with
    ⟨states, hZero, hStates⟩
  choose outputs hTimer using fun k => (hStates k).2
  have hAttempting (n : ℕ) : Attempting (states n) first := by
    rcases (hStates n).1 with ⟨con', hCon', hStatus', _⟩
    exact ⟨con', hCon', by rw [hStatus']; decide⟩
  have hRun := Run.cons hStep (Run.nil s)
  rw [← hZero] at hRun
  refine
    ⟨_, states, fun k => states (k + 1), outputs,
      node_initial, hRun, hAttempting 0,
      ⟨fun k => ⟨_, hTimer k⟩, fun k => ?_⟩, hAttempting, ?_⟩
  · cases (states (k + 1)).connectbuf first with
    | none => exact Option.Rel.none
    | some con' => exact Option.Rel.some ⟨rfl, rfl, rfl, rfl⟩
  · rintro ⟨n, hGivesUp⟩
    rcases hAttempting (n + 1) with ⟨con', hCon', _⟩
    have hGone := hGivesUp.freed n (Nat.le_refl n)
    rw [hCon'] at hGone
    cases hGone

open Sample in
/- With every packet accepted, an attempt gives up in time. -/
theorem unanswered_invite_gives_up :
    ∃ (before after : ℕ → Endpoint Unit)
      (outputs : ℕ → List Output),
      Attempting (before 0) first ∧
        Firings platform Transport.scripted first before
          after outputs ∧
        ∃ n, n < 22 ∧
          GivesUpAt first before after outputs n := by
  rcases exists_opened with
    ⟨s, opening, con, hStep, hCon, hStatus, _, hSize⟩
  have hStart : QuietPhase 0 s :=
    Or.inr ⟨con, hCon, hStatus, Or.inl hSize⟩
  rcases exists_sequence QuietPhase.next hStart with
    ⟨states, hZero, hStates⟩
  choose outputs hTimer using fun k => (hStates k).2
  have hLive : Attempting (states 0) first := by
    rw [hZero]
    exact ⟨con, hCon, by rw [hStatus]; decide⟩
  have hFirings :
      Firings platform Transport.scripted first states
        (fun k => states (k + 1)) outputs := by
    refine ⟨fun k => ⟨_, hTimer k⟩, fun k => ?_⟩
    cases (states (k + 1)).connectbuf first with
    | none => exact Option.Rel.none
    | some con' => exact Option.Rel.some ⟨rfl, rfl, rfl, rfl⟩
  have hNever (k : ℕ) : ¬ RevivesAt (states k) first := by
    rintro ⟨con', hCon', _, hError⟩
    rcases (hStates k).1 with
      hGone | ⟨con₁, hCon₁, _, hSlim | hMin⟩
    · rw [hGone] at hCon'
      cases hCon'
    · rw [hCon', Option.some.injEq] at hCon₁
      rw [← hCon₁, hError] at hSlim
      cases hSlim
    · rw [hCon', Option.some.injEq] at hCon₁
      rw [← hCon₁, hError] at hMin
      cases hMin
  have hRun := Run.cons hStep (Run.nil s)
  rw [← hZero] at hRun
  rcases
    (gives_up_iff node_initial hRun hLive hFirings).2 0
      (fun k _ => hNever k) with
    ⟨n, hLess, hGivesUp⟩
  exact
    ⟨states, _, outputs, hLive, hFirings, n, by omega,
      hGivesUp⟩

end ML

end NapaBaselibs
