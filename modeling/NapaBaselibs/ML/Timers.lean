import NapaBaselibs.ML.SendMsg
import NapaBaselibs.ML.RecvData

/-
  The three timers of a reception slot and the answer to a
  negative acknowledgement.

  Key definitions include:
    * `recvTimeoutCb`
    * `pktRecvTimeoutCb`, `lastPktRecvTimeoutCb`
    * `recvNackMsg`

  Key theorems include:
    * `sendNack_cases`
    * `pktRecvTimeoutCb_cases`
    * `lastPktRecvTimeoutCb_cases`
-/

------------------------------------------------------------
-- Asking For Missing Bytes
------------------------------------------------------------

namespace NapaBaselibs

namespace ML

variable {σ α : Type}

/- The negative acknowledgement for a range of a message. -/
def RecvData.nack
    (slot : RecvData)
    (offsetFrom offsetTo : Nat) : NackMsg where
  conId := slot.txConnectionID
  msgSeqNum := slot.seqnr
  offsetFrom := UInt32.ofNat offsetFrom
  offsetTo := UInt32.ofNat offsetTo

/- Send it over the connection the slot was created for. -/
def sendNack
    (p : Platform)
    (T : Transport σ α)
    (input : SendInput α)
    (s : Endpoint σ)
    (slot : RecvData)
    (offsetFrom offsetTo : Nat) : StepResult σ :=
  sendMsg T input s slot.connectionID mlNackMsg
    ((slot.nack offsetFrom offsetTo).encode p.bigEndian)
    nackMsgSize true

/-
  `pkt_recv_timeout_cb`.  The gap is looked up in an array of
  `RTX_MAX_GAPS` elements, zero beyond those recorded.
-/
def pktRecvTimeoutCb
    (p : Platform)
    (T : Transport σ α)
    (input : SendInput α)
    (s : Endpoint σ)
    (arg : PktRecvTimeoutArg) : StepResult σ :=
  match s.recvdatabuf arg.recvId with
  | none => .ok (s, [])
  | some slot =>
      let gap := slot.gapArray.getD arg.gap ⟨0, 0⟩
      if slot.seqnr ≠ arg.seqnr then
        .ok (s, [])
      else if gap.offsetFrom = gap.offsetTo then
        .ok (s, [])
      else
        match sendNack p T input s slot gap.offsetFrom
            gap.offsetTo with
        | .error fault => .error fault
        | .ok (s', outputs) =>
            let retry := arg.retry - 1
            if 0 < retry then
              .ok (s', outputs ++
                [.pktRecvTimer { arg with retry := retry }])
            else
              .ok (s', outputs)

/- `last_pkt_recv_timeout_cb`. -/
def lastPktRecvTimeoutCb
    (p : Platform)
    (T : Transport σ α)
    (input : SendInput α)
    (s : Endpoint σ)
    (recvId : RecvId) : StepResult σ :=
  match s.recvdatabuf recvId with
  | none => .ok (s, [])
  | some slot =>
      let s₁ :=
        s.setSlot recvId
          { slot with lastPktTimeoutEvent := false }
      if slot.expectedOffset + slot.monitoringDataHeaderLen =
          slot.bufsize then
        .ok (s₁, [])
      else
        sendNack p T input s₁ slot slot.expectedOffset
          (slot.bufsize - slot.monitoringDataHeaderLen)

------------------------------------------------------------
-- Giving Up A Slot
------------------------------------------------------------

/-
  `recv_timeout_cb`.  The callback for an incomplete message
  is commented out in the source, so the slot is emptied and
  nothing is reported.
-/
def recvTimeoutCb
    (s : Endpoint σ)
    (recvId : RecvId) : Endpoint σ :=
  { s with recvdatabuf := s.recvdatabuf.free recvId }

------------------------------------------------------------
-- Answering A Negative Acknowledgement
------------------------------------------------------------

/-
  `recv_nack_msg`.  The message is read from where the packet
  says, without a look at how many bytes are left, so what
  lies behind the datagram is part of the input.
-/
def recvNackMsg
    (p : Platform)
    (T : Transport σ α)
    (s : Endpoint σ)
    (msgH : MsgHeader)
    (msgbuf : List UInt8) : StepResult σ :=
  let nack :=
    NackMsg.decode p.bigEndian
      (msgbuf.drop msgH.lenMonDataHdr.toNat)
  match T.rtxPacketsFromTo nack.conId nack.msgSeqNum
      nack.offsetFrom.toInt32 nack.offsetTo.toInt32
      s.net with
  | none => .error .noReturn
  | some pkts => .ok (s, pkts.map .retransmit)

------------------------------------------------------------
-- Effect On The State
------------------------------------------------------------

/-
  What a step that sends over a connection may change: the
  sequence number, the packet size and the delay flag of that
  connection, and the state of the output queue.
-/
def SentOver
    (s s' : Endpoint σ)
    (conId : ConId) : Prop :=
  ∃ con pmtusize delay net,
    s.connectbuf conId = some con ∧
      s' = s.setConNet conId
        { con with
          seqnr := con.seqnr + 1
          pmtusize := pmtusize
          delay := delay }
        net

/- A negative acknowledgement goes to the slot's connection. -/
theorem sendNack_cases
    {p : Platform}
    {T : Transport σ α}
    {input : SendInput α}
    {s s' : Endpoint σ}
    {slot : RecvData}
    {offsetFrom offsetTo : Nat}
    {outputs : List Output}
    (hSend :
      sendNack p T input s slot offsetFrom offsetTo =
        .ok (s', outputs)) :
    SentOver s s' slot.connectionID ∧ Quiet outputs := by
  rcases sendMsg_ok hSend with
    ⟨con, pmtusize, delay, net, hCon, rfl, hPackets⟩
  refine ⟨⟨con, pmtusize, delay, net, hCon, rfl⟩, ?_⟩
  intro output hMem
  rcases hPackets output hMem with ⟨pkt, answer, rfl, _⟩
  trivial

/-
  The gap timer does nothing, or sends over the connection of
  the slot it belongs to.
-/
theorem pktRecvTimeoutCb_cases
    {p : Platform}
    {T : Transport σ α}
    {input : SendInput α}
    {s s' : Endpoint σ}
    {arg : PktRecvTimeoutArg}
    {outputs : List Output}
    (hTimer :
      pktRecvTimeoutCb p T input s arg =
        .ok (s', outputs)) :
    Quiet outputs ∧
      (s' = s ∨
        ∃ slot, s.recvdatabuf arg.recvId = some slot ∧
          SentOver s s' slot.connectionID) := by
  unfold pktRecvTimeoutCb at hTimer
  split at hTimer
  · cases hTimer
    exact ⟨quiet_nil, Or.inl rfl⟩
  · rename_i slot hSlot
    simp only at hTimer
    split at hTimer
    · cases hTimer
      exact ⟨quiet_nil, Or.inl rfl⟩
    · split at hTimer
      · cases hTimer
        exact ⟨quiet_nil, Or.inl rfl⟩
      · split at hTimer
        · cases hTimer
        · rename_i hSend
          rcases sendNack_cases hSend with ⟨hOver, hQuiet⟩
          split at hTimer
          · cases hTimer
            refine
              ⟨quiet_append hQuiet ?_,
                Or.inr ⟨slot, hSlot, hOver⟩⟩
            intro output hMem
            rw [List.mem_singleton] at hMem
            rw [hMem]
            trivial
          · cases hTimer
            exact ⟨hQuiet, Or.inr ⟨slot, hSlot, hOver⟩⟩

/-
  The last-packet timer clears its event; it may then send
  over the connection of the slot.
-/
theorem lastPktRecvTimeoutCb_cases
    {p : Platform}
    {T : Transport σ α}
    {input : SendInput α}
    {s s' : Endpoint σ}
    {recvId : RecvId}
    {outputs : List Output}
    (hTimer :
      lastPktRecvTimeoutCb p T input s recvId =
        .ok (s', outputs)) :
    Quiet outputs ∧
      (s' = s ∨
        ∃ slot s₁, s.recvdatabuf recvId = some slot ∧
          s₁ = s.setSlot recvId
            { slot with lastPktTimeoutEvent := false } ∧
          (s' = s₁ ∨ SentOver s₁ s' slot.connectionID)) := by
  unfold lastPktRecvTimeoutCb at hTimer
  split at hTimer
  · cases hTimer
    exact ⟨quiet_nil, Or.inl rfl⟩
  · rename_i slot hSlot
    simp only at hTimer
    split at hTimer
    · cases hTimer
      exact
        ⟨quiet_nil,
          Or.inr ⟨slot, _, hSlot, rfl, Or.inl rfl⟩⟩
    · rcases sendNack_cases hTimer with ⟨hOver, hQuiet⟩
      exact
        ⟨hQuiet,
          Or.inr ⟨slot, _, hSlot, rfl, Or.inr hOver⟩⟩

end ML

end NapaBaselibs
