import NapaBaselibs.ML.Node

/-
  A rule for properties of the entries of the connection
  table that speak of the packet size, the message buffer and
  the trials: what to check about sending, opening and
  retrying so that no step of the node breaks the property.

  Key definitions include:
    * `Endpoint.EachEntry`
    * `EntryRules`

  Key theorems include:
    * `sendConnMsgWithPmtuDiscovery_size`
    * `EntryRules.nodeStep`, `EntryRules.run`
    * `sizeInRange`
-/

------------------------------------------------------------
-- The Rule
------------------------------------------------------------

namespace NapaBaselibs

namespace ML

variable {σ α : Type}

/- A property of every entry. -/
def Endpoint.EachEntry
    (P : ConnectData → Prop)
    (s : Endpoint σ) : Prop :=
  ∀ i con, s.connectbuf i = some con → P con

/- The fields that such a property may depend on. -/
structure ConnectData.SameSending
    (con con' : ConnectData) : Prop where
  pmtusize : con'.pmtusize = con.pmtusize
  ctrlMsgBuf : con'.ctrlMsgBuf = con.ctrlMsgBuf
  trials : con'.trials = con.trials

theorem ConnectData.sameSending_status
    (con : ConnectData)
    (status : ConMsgType) :
    con.SameSending { con with status := status } :=
  ⟨rfl, rfl, rfl⟩

/-
  What has to be checked.  An entry made for an `INVITE`
  depends on the datagram, so it is checked for each step.
-/
structure EntryRules
    (p : Platform)
    (T : Transport σ α)
    (P : ConnectData → Prop) : Prop where
  congr
    {con con' : ConnectData} :
    P con → con.SameSending con' → P con'
  sent
    {job : SendJob}
    {input : SendInput α}
    {con con' : ConnectData}
    {net net' : σ}
    {outputs : List Output} :
    sendPasses T job input con net =
        .ok (con', net', outputs) →
      P con → P con'
  allocated
    {con : ConnectData}
    {bufSize : Int}
    {buf msg : List UInt8} :
    ¬ (0 ≤ bufSize ∧ bufSize < connMsgSize) →
      con.ctrlBuf bufSize = .ok buf →
        msg.length = connMsgSize →
          P con →
            P { con with
              ctrlMsgBuf :=
                some (ByteSeq.overlay buf 0 msg) }
  started
    {con : ConnectData} :
    P con → P { con with trials := 1 }
  opened
    (localSocketID externalSocketID : SocketID)
    (cb : ConnectionCb)
    (keepalive : Int) :
    P (ConnectData.ofOpen p localSocketID externalSocketID cb
      keepalive)
  retried
    {con : ConnectData} :
    P con → con.backOff.pmtusize ≠ pmtuError →
      P { con.backOff with trials := con.backOff.trials + 1 }
  external
    {con : ConnectData} :
    P con → con.backOff.pmtusize = pmtuError →
      P { con.backOff with
        internalConnect := false
        pmtusize := pmtuDslSlim
        trials := con.backOff.trials + 1 }

------------------------------------------------------------
-- Entries That Are Stored
------------------------------------------------------------

section Stores

variable {P : ConnectData → Prop}
variable {s : Endpoint σ}

/- One entry is written, all others are kept. -/
theorem Endpoint.EachEntry.of_set
    {s' : Endpoint σ}
    {conId : ConId}
    {con : ConnectData}
    (hEach : s.EachEntry P)
    (hSet : s'.connectbuf = s.connectbuf.set conId con)
    (hCon : P con) :
    s'.EachEntry P := by
  intro i other hOther
  rw [hSet] at hOther
  rcases SlotTable.set_eq_some_cases hOther with
    ⟨_, rfl⟩ | ⟨_, hOld⟩
  · exact hCon
  · exact hEach i other hOld

theorem Endpoint.EachEntry.setCon
    {conId : ConId}
    {con : ConnectData}
    (hEach : s.EachEntry P)
    (hCon : P con) :
    (s.setCon conId con).EachEntry P :=
  hEach.of_set rfl hCon

theorem Endpoint.EachEntry.free
    (hEach : s.EachEntry P)
    (conId : ConId) :
    Endpoint.EachEntry P
      { s with connectbuf := s.connectbuf.free conId } :=
  fun i con hCon =>
    hEach i con (SlotTable.free_eq_some hCon).2

theorem Endpoint.EachEntry.of_connectbuf_eq
    {s' : Endpoint σ}
    (hEach : s.EachEntry P)
    (hSame : s'.connectbuf = s.connectbuf) :
    s'.EachEntry P := by
  intro i con hCon
  rw [hSame] at hCon
  exact hEach i con hCon

theorem Endpoint.Initial.eachEntry
    (hInitial : s.Initial) :
    s.EachEntry P := by
  intro i con hCon
  rw [hInitial.connectbuf] at hCon
  cases hCon

theorem of_derefCon
    {conId : ConId}
    {con : ConnectData}
    (hDeref : derefCon s conId = .ok con) :
    s.connectbuf conId = some con := by
  unfold derefCon at hDeref
  split at hDeref
  · rename_i hCon
    cases hDeref
    exact hCon
  · cases hDeref

end Stores

------------------------------------------------------------
-- Sending
------------------------------------------------------------

section Sending

variable {p : Platform}
variable {T : Transport σ α}
variable {P : ConnectData → Prop}
variable {input : SendInput α}
variable {s s' : Endpoint σ}
variable {conId : ConId}
variable {outputs : List Output}

theorem EntryRules.sendMsg
    {msgType : UInt8}
    {msg : List UInt8}
    {msgLen : Int}
    {truncable : Bool}
    (hRules : EntryRules p T P)
    (hEach : s.EachEntry P)
    (hSend :
      sendMsg T input s conId msgType msg msgLen truncable =
        .ok (s', outputs)) :
    s'.EachEntry P := by
  unfold ML.sendMsg at hSend
  split at hSend
  · cases hSend
  · rename_i con hCon
    simp only at hSend
    split at hSend
    · cases hSend
    · rename_i con' net sent hPasses
      cases hSend
      have hCounted : P { con with seqnr := con.seqnr + 1 } :=
        hRules.congr (hEach conId con hCon) ⟨rfl, rfl, rfl⟩
      exact hEach.of_set rfl (hRules.sent hPasses hCounted)

theorem EntryRules.sendConnMsg
    {bufSize : Int}
    {command : ConMsgType}
    (hRules : EntryRules p T P)
    (hEach : s.EachEntry P)
    (hSend :
      sendConnMsg p T input s conId bufSize command =
        .ok (s', outputs)) :
    s'.EachEntry P := by
  unfold ML.sendConnMsg at hSend
  split at hSend
  · cases hSend
    exact hEach
  · rename_i hProceeds
    split at hSend
    · cases hSend
    · rename_i con hDeref
      split at hSend
      · cases hSend
      · rename_i buf hBuf
        have hOld := hEach conId con (of_derefCon hDeref)
        refine hRules.sendMsg (hEach.setCon ?_) hSend
        exact
          hRules.allocated hProceeds hBuf
            (ConnMsg.length_encode ..) hOld

theorem EntryRules.sendAndReschedule
    {bufSize : Int}
    {command : ConMsgType}
    (hRules : EntryRules p T P)
    (hEach : s.EachEntry P)
    (hSend :
      sendAndReschedule p T input s conId bufSize command =
        .ok (s', outputs)) :
    s'.EachEntry P := by
  unfold ML.sendAndReschedule at hSend
  split at hSend
  · cases hSend
  · rename_i s₁ sent hFirst
    have hEach₁ := hRules.sendConnMsg hEach hFirst
    unfold rescheduleConnMsg at hSend
    split at hSend
    · cases hSend
    · rename_i s₂ hTimer
      split at hTimer
      · cases hTimer
      · rename_i con hDeref
        cases hTimer
        cases hSend
        have hOld := hEach₁ conId con (of_derefCon hDeref)
        exact
          hEach₁.setCon (hRules.congr hOld ⟨rfl, rfl, rfl⟩)

/- The first message of an attempt, whatever entry it has. -/
theorem EntryRules.withPmtuDiscovery
    {con : ConnectData}
    {bufSize : Int}
    {command : ConMsgType}
    (hRules : EntryRules p T P)
    (hEach : s.EachEntry P)
    (hCon : P con)
    (hSend :
      sendConnMsgWithPmtuDiscovery p T input
          (s.setCon conId con) conId bufSize command =
        .ok (s', outputs)) :
    s'.EachEntry P := by
  unfold sendConnMsgWithPmtuDiscovery at hSend
  simp only [derefCon, Endpoint.setCon_connectbuf,
    SlotTable.set_self, Endpoint.setCon_setCon] at hSend
  exact
    hRules.sendAndReschedule
      (hEach.setCon (hRules.started hCon)) hSend

/- A message sent again, as the next trial. -/
theorem EntryRules.resendConnMsg
    {con : ConnectData}
    (hRules : EntryRules p T P)
    (hEach : s.EachEntry P)
    (hCon : P { con with trials := con.trials + 1 })
    (hSend :
      resendConnMsg p T input (s.setCon conId con) conId =
        .ok (s', outputs)) :
    s'.EachEntry P := by
  unfold ML.resendConnMsg at hSend
  simp only [derefCon, Endpoint.setCon_connectbuf,
    SlotTable.set_self, Endpoint.setCon_setCon] at hSend
  exact hRules.sendAndReschedule (hEach.setCon hCon) hSend

/-
  A buffer is allocated with a size that is not negative.
-/
theorem sendConnMsgWithPmtuDiscovery_size
    {con : ConnectData}
    {bufSize : Int}
    {command : ConMsgType}
    (hNoBuf : con.ctrlMsgBuf = none)
    (hSend :
      sendConnMsgWithPmtuDiscovery p T input
          (s.setCon conId con) conId bufSize command =
        .ok (s', outputs)) :
    0 ≤ bufSize := by
  by_contra hNegative
  rw [Int.not_le] at hNegative
  have hProceeds :
      ¬ (0 ≤ bufSize ∧ bufSize < connMsgSize) := by
    omega
  unfold sendConnMsgWithPmtuDiscovery
    ML.sendAndReschedule ML.sendConnMsg at hSend
  simp only [derefCon, Endpoint.setCon_connectbuf,
    SlotTable.set_self, hProceeds, if_false,
    ConnectData.ctrlBuf, hNoBuf, hNegative, if_true] at hSend
  cases hSend

------------------------------------------------------------
-- Steps Of The Node
------------------------------------------------------------

/-
  What has to be checked about the entry an `INVITE` makes.
  A negative size is excluded: no message can be sent then.
-/
def InviteRule
    (p : Platform)
    (P : ConnectData → Prop)
    (r : Reception) : Prop :=
  r.command p = some .invite →
    0 ≤ toCInt (r.conMsg p).pmtuSize.toNat →
      P (ConnectData.ofInvite p r.msgH (r.conMsg p) r.recvAddr)

theorem EntryRules.recvInvite
    {msgH : MsgHeader}
    {conMsg : ConnMsg}
    {recvAddr : SockaddrStorage}
    (hRules : EntryRules p T P)
    (hEach : s.EachEntry P)
    (hNew :
      0 ≤ toCInt conMsg.pmtuSize.toNat →
        P (ConnectData.ofInvite p msgH conMsg recvAddr))
    (hRecv :
      recvInvite p T input s msgH conMsg recvAddr =
        .ok (s', outputs)) :
    s'.EachEntry P := by
  unfold ML.recvInvite at hRecv
  simp only at hRecv
  split at hRecv
  · rename_i conId con hFind
    have hOld :=
      hEach conId con (Endpoint.of_connectionOf_eq_some hFind).1
    refine hRules.withPmtuDiscovery hEach ?_ hRecv
    exact hRules.congr hOld ⟨rfl, rfl, rfl⟩
  · split at hRecv
    · cases hRecv
      exact hEach
    · have hSize :
          0 ≤ toCInt conMsg.pmtuSize.toNat := by
        refine sendConnMsgWithPmtuDiscovery_size ?_ hRecv
        rfl
      have hInvited :=
        hRules.congr (hNew hSize)
          (ConnectData.sameSending_status _ .connect)
      exact hRules.withPmtuDiscovery hEach hInvited hRecv

theorem EntryRules.recvConnect
    {msgH : MsgHeader}
    {conMsg : ConnMsg}
    (hRules : EntryRules p T P)
    (hEach : s.EachEntry P)
    (hRecv :
      recvConnect p T input s msgH conMsg =
        .ok (s', outputs)) :
    s'.EachEntry P := by
  unfold ML.recvConnect at hRecv
  simp only at hRecv
  split at hRecv
  · cases hRecv
  · rename_i conId hIndex
    split at hRecv
    · cases hRecv
      exact hEach
    · rename_i con hCon
      have hOld := hEach conId con hCon
      split at hRecv
      · split at hRecv
        · cases hRecv
        · rename_i s₁ sent hSend
          have hEach₁ : s₁.EachEntry P := by
            refine hRules.withPmtuDiscovery hEach ?_ hSend
            exact hRules.congr hOld ⟨rfl, rfl, rfl⟩
          split at hRecv
          · cases hRecv
          · rename_i con₁ hDeref
            cases hRecv
            have hOld₁ :=
              hEach₁ conId con₁ (of_derefCon hDeref)
            exact
              hEach₁.setCon
                (hRules.congr hOld₁ ⟨rfl, rfl, rfl⟩)
      · have hSame : s.setCon conId con = s :=
          Endpoint.setConNet_eq_self hCon
        rw [← hSame] at hRecv
        exact hRules.withPmtuDiscovery hEach hOld hRecv

theorem EntryRules.recvReady
    {msgH : MsgHeader}
    (hRules : EntryRules p T P)
    (hEach : s.EachEntry P)
    (hRecv : recvReady s msgH = .ok (s', outputs)) :
    s'.EachEntry P := by
  unfold ML.recvReady at hRecv
  split at hRecv
  · cases hRecv
  · rename_i conId hIndex
    split at hRecv
    · cases hRecv
      exact hEach
    · rename_i con hCon
      split at hRecv
      · cases hRecv
        have hOld := hEach conId con hCon
        exact
          hEach.setCon (hRules.congr hOld ⟨rfl, rfl, rfl⟩)
      · cases hRecv
        exact hEach

theorem EntryRules.recvPkg
    {r : Reception}
    (hRules : EntryRules p T P)
    (hEach : s.EachEntry P)
    (hInvite : InviteRule p P r)
    (hRecv : recvPkg p T input s r = .ok (s', outputs)) :
    s'.EachEntry P := by
  by_cases hClass : r.classify = .connection
  · rw [recvPkg_connection hClass] at hRecv
    split at hRecv
    · rename_i hCommand
      exact hRules.recvInvite hEach (hInvite hCommand) hRecv
    · exact hRules.recvConnect hEach hRecv
    · exact hRules.recvReady hEach hRecv
    · cases hRecv
      exact hEach
  · cases recvPkg_effect hRecv with
    | dropped => exact hEach
    | stun _ hStun =>
        unfold recvStunMsg at hStun
        split at hStun
        · cases hStun
          exact hEach
        · cases hStun
          exact hEach.of_connectbuf_eq rfl
    | connection hConn _ => exact absurd hConn hClass
    | nack _ => exact hEach
    | data _ hData =>
        rcases recvDataMsg_cases hData with
          ⟨rfl, _⟩ | ⟨_, _, _, _, _, _, _, hEnter⟩
        · exact hEach
        · rcases Endpoint.enterPacket_cases hEnter with
            ⟨_, rfl, _⟩ |
            ⟨_, _, _, _, _, _, _, _, rfl, _⟩
          · exact hEach
          · exact hEach.of_connectbuf_eq rfl

theorem EntryRules.mlOpenConnection
    {externalSocketID : SocketID}
    {cb : ConnectionCb}
    {keepalive result : Int}
    (hRules : EntryRules p T P)
    (hEach : s.EachEntry P)
    (hOpen :
      mlOpenConnection p T input s externalSocketID cb
          keepalive = .ok (result, s', outputs)) :
    s'.EachEntry P := by
  unfold ML.mlOpenConnection at hOpen
  split at hOpen
  · cases hOpen
    exact hEach
  · split at hOpen
    · rename_i conId con hFind
      have hOld :=
        hEach conId con
          (Endpoint.of_connectionOf_eq_some hFind).1
      simp only at hOpen
      split at hOpen
      · cases hOpen
        exact
          hEach.setCon (hRules.congr hOld ⟨rfl, rfl, rfl⟩)
      · cases hOpen
        exact
          hEach.setCon (hRules.congr hOld ⟨rfl, rfl, rfl⟩)
    · split at hOpen
      · cases hOpen
        exact hEach
      · simp only at hOpen
        split at hOpen
        · cases hOpen
        · rename_i hSend
          cases hOpen
          exact
            hRules.withPmtuDiscovery hEach
              (hRules.opened ..) hSend

theorem EntryRules.pmtuTimeoutCb
    (hRules : EntryRules p T P)
    (hEach : s.EachEntry P)
    (hTimer :
      pmtuTimeoutCb p T input s conId = .ok (s', outputs)) :
    s'.EachEntry P := by
  unfold ML.pmtuTimeoutCb at hTimer
  split at hTimer
  · cases hTimer
    exact hEach
  · rename_i con hCon
    have hOld := hEach conId con hCon
    simp only at hTimer
    split at hTimer
    · cases hTimer
      exact hEach.setCon (hRules.congr hOld ⟨rfl, rfl, rfl⟩)
    · split at hTimer
      · rename_i hSize
        split at hTimer
        · exact
            hRules.resendConnMsg hEach
              (hRules.external hOld hSize) hTimer
        · cases hTimer
          exact hEach.free conId
      · rename_i hSize
        exact
          hRules.resendConnMsg hEach
            (hRules.retried hOld hSize) hTimer

/- What has to be checked about the event of a step. -/
def EventRule
    (p : Platform)
    (P : ConnectData → Prop) : Event α → Prop
| .recvPkg _ r => InviteRule p P r
| _ => True

/- A step keeps a property that follows the rules. -/
theorem EntryRules.nodeStep
    {e : Event α}
    (hRules : EntryRules p T P)
    (hEach : s.EachEntry P)
    (hEvent : EventRule p P e)
    (hStep : NodeStep p T s e outputs s') :
    s'.EachEntry P := by
  rcases hStep with ⟨_, hExec⟩
  cases e with
  | recvPkg input r =>
      exact hRules.recvPkg hEach hEvent hExec
  | openConnection input externalSocketID cb keepalive =>
      unfold exec at hExec
      simp only at hExec
      split at hExec
      · cases hExec
      · rename_i hOpen
        cases hExec
        exact hRules.mlOpenConnection hEach hOpen
  | closeConnection connectionID =>
      unfold exec mlCloseConnection at hExec
      simp only at hExec
      cases hIndex : connectbufAt connectionID with
      | error fault =>
          simp only [hIndex] at hExec
          cases hExec
      | ok conId =>
          simp only [hIndex] at hExec
          cases hExec
          exact hEach.free conId
  | sendData input connectionID sendbuf bufsize msgtype =>
      rcases mlSendData_cases hExec with
        ⟨rfl, rfl⟩ | ⟨conId, con, _, _, _, hSend⟩
      · exact hEach
      · exact hRules.sendMsg hEach hSend
  | pmtuTimeout input conId =>
      exact hRules.pmtuTimeoutCb hEach hExec
  | keepalive input peer =>
      rcases keepaliveFn_cases hExec with
        ⟨rfl, _⟩ | ⟨conId, con, sent, hCon, _, hSend, rfl⟩
      · exact hEach
      · have hOld := hEach conId con hCon
        refine hRules.sendMsg (hEach.setCon ?_) hSend
        exact hRules.congr hOld ⟨rfl, rfl, rfl⟩
  | recvTimeout recvId =>
      cases hExec
      exact hEach.of_connectbuf_eq rfl
  | pktRecvTimeout input arg =>
      unfold exec pktRecvTimeoutCb at hExec
      simp only at hExec
      split at hExec
      · cases hExec
        exact hEach
      · split at hExec
        · cases hExec
          exact hEach
        · split at hExec
          · cases hExec
            exact hEach
          · split at hExec
            · cases hExec
            · rename_i hSend
              split at hExec
              · cases hExec
                exact hRules.sendMsg hEach hSend
              · cases hExec
                exact hRules.sendMsg hEach hSend
  | lastPktRecvTimeout input recvId =>
      unfold exec lastPktRecvTimeoutCb at hExec
      simp only at hExec
      split at hExec
      · cases hExec
        exact hEach
      · split at hExec
        · cases hExec
          exact hEach.of_connectbuf_eq rfl
        · refine hRules.sendMsg ?_ hExec
          exact hEach.of_connectbuf_eq rfl

/- It holds of every entry that a run makes. -/
theorem EntryRules.run
    {trace :
      List (Transition (Endpoint σ) (Event α) Output)}
    (hRules : EntryRules p T P)
    (hInitial : s.Initial)
    (hRun : Run (NodeStep p T) s trace s')
    (hEvents :
      ∀ transition ∈ trace, EventRule p P transition.event) :
    s'.EachEntry P :=
  (hRun.invariant_of_steps (Endpoint.EachEntry P)
    (fun transition => EventRule p P transition.event)
    (fun _ hStep hEvent hEach =>
      hRules.nodeStep hEach hEvent hStep)
    hEvents hInitial.eachEntry).1

------------------------------------------------------------
-- Packet Sizes
------------------------------------------------------------

/- The size after `send_msg` is the old one or a lowered one. -/
theorem sendPasses_size
    {job : SendJob}
    {input : SendInput α}
    {con con' : ConnectData}
    {net net' : σ}
    {outputs : List Output}
    (hPasses :
      sendPasses T job input con net =
        .ok (con', net', outputs)) :
    con'.pmtusize = con.pmtusize ∨
      ∃ size, con'.pmtusize = pmtuDecrement size := by
  induction input generalizing con net outputs with
  | nil => cases hPasses
  | cons pass rest ih =>
      simp only [sendPasses] at hPasses
      split at hPasses
      · cases hPasses
      · split at hPasses
        · split at hPasses
          · cases hPasses
          · rename_i hRest
            cases hPasses
            rcases ih hRest with hSame | hLowered
            · exact Or.inr ⟨con.pmtusize, hSame⟩
            · exact Or.inr hLowered
        · cases hPasses
          exact Or.inr ⟨con.pmtusize, rfl⟩
      · cases hPasses
        exact Or.inl rfl

/- The size after backing off is one of these, too. -/
theorem ConnectData.backOff_size
    (con : ConnectData) :
    con.backOff.pmtusize = con.pmtusize ∨
      ∃ size, con.backOff.pmtusize = pmtuDecrement size := by
  unfold backOff
  split <;> split
  · exact Or.inr ⟨con.pmtusize, rfl⟩
  · exact Or.inl rfl
  · exact Or.inr ⟨con.pmtusize, rfl⟩
  · exact Or.inl rfl

/- Backing off leaves the buffer alone. -/
theorem ConnectData.ctrlMsgBuf_backOff
    (con : ConnectData) :
    con.backOff.ctrlMsgBuf = con.ctrlMsgBuf := by
  unfold backOff
  split <;> split <;> rfl

theorem toCInt_bounds (n : Int) :
    -2 ^ 31 ≤ toCInt n ∧ toCInt n < 2 ^ 31 := by
  unfold toCInt
  rw [Int.bmod_def]
  split <;> omega

theorem pmtuDecrement_range (size : Int) :
    pmtuError ≤ pmtuDecrement size ∧
      pmtuDecrement size ≤ pmtuMax := by
  unfold pmtuDecrement
  unfold pmtuMin pmtuMax pmtuDsl pmtuDslMedium pmtuDslSlim
    pmtuBelowDsl pmtuError
  repeat' split
  all_goals omega

/-
  In every run a packet size is an `int`, and negative only
  when no size is left.
-/
theorem sizeInRange_rules :
    EntryRules p T (fun con =>
      pmtuError ≤ con.pmtusize ∧ con.pmtusize < 2 ^ 31) := by
  have hLowered (size : Int) :
      pmtuError ≤ pmtuDecrement size ∧
        pmtuDecrement size < 2 ^ 31 := by
    have hRange := pmtuDecrement_range size
    unfold pmtuMax at hRange
    omega
  refine
    { congr := ?_, sent := ?_, allocated := ?_
      started := ?_, opened := ?_, retried := ?_
      external := ?_ }
  · intro con con' hOld hSame
    rw [hSame.pmtusize]
    exact hOld
  · intro job input con con' net net' outputs hPasses hOld
    rcases sendPasses_size hPasses with hSame | ⟨size, hSize⟩
    · rw [hSame]
      exact hOld
    · rw [hSize]
      exact hLowered size
  · intro con bufSize buf msg _ _ _ hOld
    exact hOld
  · intro con hOld
    exact hOld
  · intro _ _ _ _
    change pmtuError ≤ pmtuDslSlim ∧ pmtuDslSlim < 2 ^ 31
    decide
  · intro con hOld _
    simp only
    rcases con.backOff_size with hSame | ⟨size, hSize⟩
    · rw [hSame]
      exact hOld
    · rw [hSize]
      exact hLowered size
  · intro con _ _
    change pmtuError ≤ pmtuDslSlim ∧ pmtuDslSlim < 2 ^ 31
    decide

theorem sizeInRange
    {s t : Endpoint σ}
    {trace :
      List (Transition (Endpoint σ) (Event α) Output)}
    (hInitial : s.Initial)
    (hRun : Run (NodeStep p T) s trace t) :
    t.EachEntry (fun con =>
      pmtuError ≤ con.pmtusize ∧ con.pmtusize < 2 ^ 31) := by
  refine sizeInRange_rules.run hInitial hRun ?_
  intro transition _
  cases transition.event with
  | recvPkg input r =>
      intro _ hSize
      have hHigh := (toCInt_bounds (r.conMsg p).pmtuSize.toNat).2
      unfold ConnectData.ofInvite pmtuError
      simp only
      omega
  | openConnection | closeConnection | sendData
  | pmtuTimeout | keepalive | recvTimeout | pktRecvTimeout
  | lastPktRecvTimeout => trivial

end Sending

end ML

end NapaBaselibs
