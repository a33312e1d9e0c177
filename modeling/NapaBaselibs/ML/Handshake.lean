import NapaBaselibs.ML.SendMsg

/-
  Connection establishment: sending, resending and receiving
  `INVITE`, `CONNECT` and `READY`, and the timer that retries
  them with smaller packets.

  The callbacks of the application are outputs: a callback
  that calls back into the library is a later event.

  Key definitions include:
    * `sendConnMsg`, `sendConnMsgWithPmtuDiscovery`
    * `resendConnMsg`
    * `recvConnMsg`
    * `mlCloseConnection`, `pmtuTimeoutCb`
    * `RecvConnMsgEffect`, `PmtuTimeoutEffect`

  Key theorems include:
    * `sendConnMsg_sent`
    * `recvConnMsg_effect`
    * `pmtuTimeoutCb_effect`
-/

------------------------------------------------------------
-- Sending Connection Messages
------------------------------------------------------------

namespace NapaBaselibs

namespace ML

variable {σ α : Type}
variable (p : Platform)
variable (T : Transport σ α)

/-
  The buffer for connection messages of a connection.  It is
  allocated, and zeroed, when it is first needed.
-/
def ConnectData.ctrlBuf
    (con : ConnectData)
    (bufSize : Int) : Except Fault (List UInt8) :=
  match con.ctrlMsgBuf with
  | some buf => .ok buf
  | none =>
      if bufSize < 0 then
        .error .nullBuffer
      else
        .ok (List.replicate bufSize.toNat 0)

/-
  `send_conn_msg`.  The size is compared without sign, so a
  negative size is not too small.
-/
def sendConnMsg
    (input : SendInput α)
    (s : Endpoint σ)
    (conId : ConId)
    (bufSize : Int)
    (command : ConMsgType) : StepResult σ :=
  if 0 ≤ bufSize ∧ bufSize < connMsgSize then
    .ok (s, [])
  else
    match derefCon s conId with
    | .error fault => .error fault
    | .ok con =>
        match con.ctrlBuf bufSize with
        | .error fault => .error fault
        | .ok buf =>
            let msg :=
              ConnMsg.encode p
                { comandType := command.code
                  pmtuSize := toUInt32 con.pmtusize
                  sockId := s.localSocketID }
            let buf' := ByteSeq.overlay buf 0 msg
            sendMsg T input
              (s.setCon conId
                { con with ctrlMsgBuf := some buf' })
              conId mlConMsg buf' bufSize true

/- `reschedule_conn_msg`. -/
def rescheduleConnMsg
    (s : Endpoint σ)
    (conId : ConId) : Except Fault (Endpoint σ) :=
  match derefCon s conId with
  | .error fault => .error fault
  | .ok con =>
      .ok (s.setCon conId { con with timeoutEvent := true })

/- Send a connection message and start its timer. -/
def sendAndReschedule
    (input : SendInput α)
    (s : Endpoint σ)
    (conId : ConId)
    (bufSize : Int)
    (command : ConMsgType) : StepResult σ :=
  match sendConnMsg p T input s conId bufSize command with
  | .error fault => .error fault
  | .ok (s', outputs) =>
      match rescheduleConnMsg s' conId with
      | .error fault => .error fault
      | .ok s'' => .ok (s'', outputs)

/- `send_conn_msg_with_pmtu_discovery`. -/
def sendConnMsgWithPmtuDiscovery
    (input : SendInput α)
    (s : Endpoint σ)
    (conId : ConId)
    (bufSize : Int)
    (command : ConMsgType) : StepResult σ :=
  match derefCon s conId with
  | .error fault => .error fault
  | .ok con =>
      sendAndReschedule p T input
        (s.setCon conId { con with trials := 1 })
        conId bufSize command

/- `resend_conn_msg`. -/
def resendConnMsg
    (input : SendInput α)
    (s : Endpoint σ)
    (conId : ConId) : StepResult σ :=
  match derefCon s conId with
  | .error fault => .error fault
  | .ok con =>
      sendAndReschedule p T input
        (s.setCon conId { con with trials := con.trials + 1 })
        conId con.pmtusize con.status

------------------------------------------------------------
-- Receiving Connection Messages
------------------------------------------------------------

/- The first entry of a peer, with its index. -/
def Endpoint.connectionOf
    (s : Endpoint σ)
    (socketID : SocketID) : Option (ConId × ConnectData) :=
  s.connectbuf.find? (fun con =>
    decide (SamePeer p con.externalSocketID socketID))

/- The entry made for a peer that invites. -/
def ConnectData.ofInvite
    (msgH : MsgHeader)
    (conMsg : ConnMsg)
    (recvAddr : SockaddrStorage) : ConnectData where
  externalSocketID := conMsg.sockId
  externalConnectionID := msgH.localConId
  pmtusize := toCInt conMsg.pmtuSize.toNat
  delay := false
  trials := 0
  ctrlMsgBuf := none
  status := .invite
  seqnr := 0
  timeoutEvent := false
  internalConnect :=
    mlCompareAddr p conMsg.sockId.internalAddr recvAddr = 0
  connectionCbs := []
  keepalive := 0
  keepaliveSeq := 0

/- The callbacks when a connection becomes ready. -/
def Endpoint.announce
    (s : Endpoint σ)
    (conId : ConId)
    (con : ConnectData) : List Output :=
  (if s.receiveConnectionCb then
    [Output.receiveConnection conId]
  else
    []) ++
    con.connectionCbs.map (fun cb =>
      .connectionCb cb conId)

/-
  `INVITE`: find the entry of the peer or make one, and
  answer whatever the status of the entry was.
-/
def recvInvite
    (input : SendInput α)
    (s : Endpoint σ)
    (msgH : MsgHeader)
    (conMsg : ConnMsg)
    (recvAddr : SockaddrStorage) : StepResult σ :=
  let bufSize := toCInt conMsg.pmtuSize.toNat
  match s.connectionOf p conMsg.sockId with
  | some (conId, con) =>
      sendConnMsgWithPmtuDiscovery p T input
        (s.setCon conId
          { con with
            externalConnectionID := msgH.localConId
            status := .connect })
        conId bufSize .connect
  | none =>
      match s.connectbuf.firstFree? with
      | none => .ok (s, [])
      | some conId =>
          sendConnMsgWithPmtuDiscovery p T input
            (s.setCon conId
              { ConnectData.ofInvite p msgH conMsg
                  recvAddr with
                status := .connect })
            conId bufSize .connect

/-
  `CONNECT`: the answer to an `INVITE`, or a repeated one.
  An id of `-1` is not tested before it is used.
-/
def recvConnect
    (input : SendInput α)
    (s : Endpoint σ)
    (msgH : MsgHeader)
    (conMsg : ConnMsg) : StepResult σ :=
  let bufSize := toCInt conMsg.pmtuSize.toNat
  match connectbufAt msgH.remoteConId.toInt with
  | .error fault => .error fault
  | .ok conId =>
      match s.connectbuf conId with
      | none => .ok (s, [])
      | some con =>
          if con.status = .invite then
            match sendConnMsgWithPmtuDiscovery p T input
                (s.setCon conId
                  { con with
                    externalConnectionID := msgH.localConId
                    status := .ready })
                conId bufSize .ready with
            | .error fault => .error fault
            | .ok (s', sent) =>
                match derefCon s' conId with
                | .error fault => .error fault
                | .ok con' =>
                    .ok
                      (s'.setCon conId
                        { con' with connectionCbs := [] },
                        sent ++ s'.announce conId con')
          else
            sendConnMsgWithPmtuDiscovery p T input s conId
              bufSize .ready

/- `READY`: the answer to a `CONNECT`. -/
def recvReady
    (s : Endpoint σ)
    (msgH : MsgHeader) : StepResult σ :=
  match connectbufAt msgH.remoteConId.toInt with
  | .error fault => .error fault
  | .ok conId =>
      match s.connectbuf conId with
      | none => .ok (s, [])
      | some con =>
          if con.status = .connect then
            .ok
              (s.setCon conId
                { con with
                  status := .ready
                  connectionCbs := [] },
                s.announce conId con)
          else
            .ok (s, [])

/-
  The command of a connection message that passes the tests
  of `recv_conn_msg`: it is long enough, compared without
  sign, and one of the addresses it claims is the one it came
  from.
-/
def acceptedCommand
    (conMsg : ConnMsg)
    (msgSize : Int)
    (recvAddr : SockaddrStorage) : Option ConMsgType :=
  if 0 ≤ msgSize ∧ msgSize < connMsgSize then
    none
  else if
      mlCompareAddr p conMsg.sockId.internalAddr recvAddr ≠
          0 ∧
        mlCompareAddr p conMsg.sockId.externalAddr recvAddr ≠
          0 then
    none
  else
    ConMsgType.ofCode? conMsg.comandType

/-
  `recv_conn_msg`.  `msgSize` bytes of `msgbuf` are left in
  the datagram; the message is decoded before that number is
  looked at.
-/
def recvConnMsg
    (input : SendInput α)
    (s : Endpoint σ)
    (msgH : MsgHeader)
    (msgbuf : List UInt8)
    (msgSize : Int)
    (recvAddr : SockaddrStorage) : StepResult σ :=
  let lenMonDataHdr := msgH.lenMonDataHdr.toNat
  let conMsg := ConnMsg.decode p (msgbuf.drop lenMonDataHdr)
  match acceptedCommand p conMsg (msgSize - lenMonDataHdr)
      recvAddr with
  | some .invite =>
      recvInvite p T input s msgH conMsg recvAddr
  | some .connect => recvConnect p T input s msgH conMsg
  | some .ready => recvReady s msgH
  | none => .ok (s, [])

------------------------------------------------------------
-- Closing And Retrying
------------------------------------------------------------

/- `mlCloseConnection`. -/
def mlCloseConnection
    (s : Endpoint σ)
    (connectionID : Int) : Except Fault (Endpoint σ) :=
  match connectbufAt connectionID with
  | .error fault => .error fault
  | .ok conId =>
      .ok { s with connectbuf := s.connectbuf.free conId }

/- `MAX_TRIALS`: trials with one packet size. -/
def maxTrials : Int := 3

/-
  The part of `pmtu_timeout_cb` that picks the next packet
  size.  The timeout value it also computes is not modelled:
  a timer may fire at any time.
-/
def ConnectData.backOff (con : ConnectData) : ConnectData :=
  let rested : ConnectData :=
    if con.delay then
      { con with delay := false, timeoutEvent := true }
    else
      con
  if con.trials = maxTrials then
    { rested with
      pmtusize := pmtuDecrement con.pmtusize
      trials := 0 }
  else
    rested

/- `pmtu_timeout_cb`. -/
def pmtuTimeoutCb
    (input : SendInput α)
    (s : Endpoint σ)
    (conId : ConId) : StepResult σ :=
  match s.connectbuf conId with
  | none => .ok (s, [])
  | some con =>
      if con.status = .ready then
        .ok
          (s.setCon conId { con with timeoutEvent := false },
            [])
      else
        let con₁ := con.backOff
        if con₁.pmtusize = pmtuError then
          if con₁.internalConnect then
            resendConnMsg p T input
              (s.setCon conId
                { con₁ with
                  internalConnect := false
                  pmtusize := pmtuDslSlim })
              conId
          else
            .ok
              ({ s with
                  connectbuf := s.connectbuf.free conId },
                if s.failedConnectionCb then
                  [.failedConnection conId]
                else
                  [])
        else
          resendConnMsg p T input (s.setCon conId con₁) conId

------------------------------------------------------------
-- What Sending A Connection Message Does
------------------------------------------------------------

/-
  Two states of a connection between which only sending has
  happened: peer, ids, status and callbacks are the same.
-/
structure ConnectData.SameLink
    (con con' : ConnectData) : Prop where
  externalSocketID :
    con'.externalSocketID = con.externalSocketID
  externalConnectionID :
    con'.externalConnectionID = con.externalConnectionID
  status : con'.status = con.status
  connectionCbs : con'.connectionCbs = con.connectionCbs

/-
  A packet of a connection message: the ids of the connection
  in its header and, unless it is cut short, the command and
  the local socket ID at the start of its payload.
-/
structure ConnPacket
    (p : Platform)
    (localSocketID : SocketID)
    (conId : ConId)
    (externalConnectionID : Int32)
    (command : ConMsgType)
    (pkt : Packet) : Prop where
  localConId : pkt.header.localConId = Int32.ofInt conId
  remoteConId : pkt.header.remoteConId = externalConnectionID
  msgType : pkt.header.msgType = mlConMsg
  lenMonDataHdr :
    pkt.header.lenMonDataHdr.toNat = pkt.monDataHdr.length
  lenMonPacketHdr :
    pkt.header.lenMonPacketHdr.toNat = pkt.monPktHdr.length
  payload :
    pkt.payload.length < connMsgSize ∨
      ∃ pmtuSize rest,
        pkt.payload =
          ConnMsg.encode p
            { comandType := command.code
              pmtuSize := pmtuSize
              sockId := localSocketID } ++ rest

/-
  The entry of one connection is now `con`, as far as peer,
  ids, status and callbacks go; besides it only the output
  queue has changed.
-/
def Stored
    (s s' : Endpoint σ)
    (conId : ConId)
    (con : ConnectData) : Prop :=
  ∃ con' net,
    s' = s.setConNet conId con' net ∧ con.SameLink con'

/- All outputs are packets of one connection message. -/
def ConnPackets
    (p : Platform)
    (localSocketID : SocketID)
    (conId : ConId)
    (externalConnectionID : Int32)
    (command : ConMsgType)
    (outputs : List Output) : Prop :=
  ∀ output ∈ outputs, ∃ pkt answer,
    output = .packet pkt answer ∧
      ConnPacket p localSocketID conId externalConnectionID
        command pkt

/-
  The effect of sending a connection message over the entry
  `con` of a connection.
-/
def ConnSent
    (p : Platform)
    (s s' : Endpoint σ)
    (conId : ConId)
    (con : ConnectData)
    (command : ConMsgType)
    (outputs : List Output) : Prop :=
  Stored s s' conId con ∧
    ConnPackets p s.localSocketID conId
      con.externalConnectionID command outputs

theorem ConnectData.SameLink.refl
    (con : ConnectData) :
    con.SameLink con :=
  ⟨rfl, rfl, rfl, rfl⟩

theorem ConnectData.SameLink.trans
    {con₁ con₂ con₃ : ConnectData}
    (hFirst : con₁.SameLink con₂)
    (hSecond : con₂.SameLink con₃) :
    con₁.SameLink con₃ :=
  ⟨hSecond.externalSocketID.trans hFirst.externalSocketID,
    hSecond.externalConnectionID.trans
      hFirst.externalConnectionID,
    hSecond.status.trans hFirst.status,
    hSecond.connectionCbs.trans hFirst.connectionCbs⟩

variable {p T}

/- The entry found for a peer belongs to it. -/
theorem Endpoint.of_connectionOf_eq_some
    {s : Endpoint σ}
    {socketID : SocketID}
    {conId : ConId}
    {con : ConnectData}
    (hFind :
      s.connectionOf p socketID = some (conId, con)) :
    s.connectbuf conId = some con ∧
      SamePeer p con.externalSocketID socketID := by
  rcases SlotTable.of_find?_eq_some hFind with
    ⟨hCon, hPeer⟩
  exact ⟨hCon, of_decide_eq_true hPeer⟩

/- When none is found, no entry belongs to the peer. -/
theorem Endpoint.of_connectionOf_eq_none
    {s : Endpoint σ}
    {socketID : SocketID}
    (hFind : s.connectionOf p socketID = none) :
    ∀ j con, s.connectbuf j = some con →
      ¬ SamePeer p con.externalSocketID socketID := by
  intro j con hCon
  exact
    of_decide_eq_false
      (SlotTable.find?_eq_none_iff.mp hFind j con hCon)

/- A monitoring header's length fits the header field. -/
theorem MonHeader.toNat_ofNat_length
    (header : MonHeader) :
    (UInt8.ofNat header.length).toNat =
      header.bytes.length := by
  have hBound := header.length_le
  unfold monHeaderSpace at hBound
  rw [UInt8.toNat_ofNat']
  unfold MonHeader.length
  omega

/- The packets of a buffer that starts with the message. -/
theorem connPacket_of_isWholePacket
    {con : ConnectData}
    {conId : ConId}
    {command : ConMsgType}
    {pmtuSize : UInt32}
    {localSocketID : SocketID}
    {msg buf : List UInt8}
    {bufSize : Int}
    {pkt : Packet}
    (hMsg :
      msg =
        ConnMsg.encode p
          { comandType := command.code
            pmtuSize := pmtuSize
            sockId := localSocketID })
    (hWhole :
      (con.sendJob conId mlConMsg
        (ByteSeq.overlay buf 0 msg) bufSize
          true).IsWholePacket pkt) :
    ConnPacket p localSocketID conId
      con.externalConnectionID command pkt := by
  rcases hWhole with ⟨header, attempt, len, rfl⟩
  refine
    ⟨rfl, rfl, rfl, header.toNat_ofNat_length,
      attempt.monPktHdr.toNat_ofNat_length, ?_⟩
  by_cases hShort : len < connMsgSize
  · exact Or.inl (by simpa [SendJob.packet] using hShort)
  · have hLong : msg.length ≤ len := by
      rw [hMsg, ConnMsg.length_encode]
      omega
    rcases
      exists_readBlock_append msg (buf.drop msg.length)
        attempt.beyond hLong with
      ⟨tail, hTail⟩
    refine Or.inr ⟨pmtuSize, tail, ?_⟩
    rw [← hMsg, ← hTail, ← ByteSeq.overlay_zero]
    rfl

/- What `send_conn_msg` does to the entry it is called for. -/
theorem sendConnMsg_sent
    {input : SendInput α}
    {s s' : Endpoint σ}
    {conId : ConId}
    {con : ConnectData}
    {bufSize : Int}
    {command : ConMsgType}
    {outputs : List Output}
    (hCon : s.connectbuf conId = some con)
    (hSend :
      sendConnMsg p T input s conId bufSize command =
        .ok (s', outputs)) :
    ConnSent p s s' conId con command outputs := by
  unfold sendConnMsg derefCon at hSend
  split at hSend
  · cases hSend
    exact
      ⟨⟨con, s.net, (Endpoint.setConNet_eq_self hCon).symm,
        .refl con⟩, fun _ hMem => absurd hMem (by simp)⟩
  · simp only [hCon] at hSend
    split at hSend
    · cases hSend
    · rename_i buf hBuf
      have hStored :
          (s.setCon conId
            { con with
              ctrlMsgBuf :=
                some (ByteSeq.overlay buf 0
                  (ConnMsg.encode p
                    { comandType := command.code
                      pmtuSize := toUInt32 con.pmtusize
                      sockId := s.localSocketID })) }
            ).connectbuf conId = some _ :=
        SlotTable.set_self ..
      have hWhole := sendMsg_truncable hStored hSend
      rcases sendMsg_ok hSend with
        ⟨con₁, pmtusize, delay, net, hCon₁, rfl, _⟩
      rw [hStored, Option.some.injEq] at hCon₁
      subst hCon₁
      refine
        ⟨⟨_, net, Endpoint.setCon_setConNet ..,
          ⟨rfl, rfl, rfl, rfl⟩⟩, ?_⟩
      intro output hMem
      rcases hWhole output hMem with
        ⟨pkt, answer, hOutput, hPkt⟩
      exact
        ⟨pkt, answer, hOutput,
          connPacket_of_isWholePacket rfl hPkt⟩

/- A write to the entry before it is sent over is lost. -/
theorem ConnSent.of_setCon
    {s s' : Endpoint σ}
    {conId : ConId}
    {con con₀ : ConnectData}
    {command : ConMsgType}
    {outputs : List Output}
    (hSent :
      ConnSent p (s.setCon conId con₀) s' conId con command
        outputs) :
    ConnSent p s s' conId con command outputs := by
  rcases hSent with ⟨⟨con', net, rfl, hLink⟩, hPackets⟩
  exact
    ⟨⟨con', net, Endpoint.setCon_setConNet .., hLink⟩,
      hPackets⟩

theorem ConnSent.of_sameLink
    {s s' : Endpoint σ}
    {conId : ConId}
    {con con₀ : ConnectData}
    {command : ConMsgType}
    {outputs : List Output}
    (hSent : ConnSent p s s' conId con₀ command outputs)
    (hSame : con.SameLink con₀) :
    ConnSent p s s' conId con command outputs := by
  rcases hSent with ⟨⟨con', net, rfl, hLink⟩, hPackets⟩
  rw [hSame.externalConnectionID] at hPackets
  exact ⟨⟨con', net, rfl, hSame.trans hLink⟩, hPackets⟩

/- The timer started afterwards is not part of the link. -/
theorem sendAndReschedule_sent
    {input : SendInput α}
    {s s' : Endpoint σ}
    {conId : ConId}
    {con : ConnectData}
    {bufSize : Int}
    {command : ConMsgType}
    {outputs : List Output}
    (hCon : s.connectbuf conId = some con)
    (hSend :
      sendAndReschedule p T input s conId bufSize command =
        .ok (s', outputs)) :
    ConnSent p s s' conId con command outputs := by
  unfold sendAndReschedule at hSend
  split at hSend
  · cases hSend
  · rename_i s₁ sent hFirst
    rcases sendConnMsg_sent hCon hFirst with
      ⟨⟨con₁, net, rfl, hLink⟩, hPackets⟩
    simp only [rescheduleConnMsg, derefCon,
      Endpoint.setConNet_connectbuf, SlotTable.set_self,
      Endpoint.setConNet_setCon] at hSend
    cases hSend
    exact
      ⟨⟨_, net, rfl,
        hLink.trans ⟨rfl, rfl, rfl, rfl⟩⟩, hPackets⟩

theorem sendConnMsgWithPmtuDiscovery_sent
    {input : SendInput α}
    {s s' : Endpoint σ}
    {conId : ConId}
    {con : ConnectData}
    {bufSize : Int}
    {command : ConMsgType}
    {outputs : List Output}
    (hCon : s.connectbuf conId = some con)
    (hSend :
      sendConnMsgWithPmtuDiscovery p T input s conId bufSize
          command = .ok (s', outputs)) :
    ConnSent p s s' conId con command outputs := by
  simp only [sendConnMsgWithPmtuDiscovery, derefCon, hCon]
    at hSend
  have hSent :=
    sendAndReschedule_sent (SlotTable.set_self ..) hSend
  exact hSent.of_setCon.of_sameLink ⟨rfl, rfl, rfl, rfl⟩

/- The message sent again is the one of the status. -/
theorem resendConnMsg_sent
    {input : SendInput α}
    {s s' : Endpoint σ}
    {conId : ConId}
    {con : ConnectData}
    {outputs : List Output}
    (hCon : s.connectbuf conId = some con)
    (hSend :
      resendConnMsg p T input s conId =
        .ok (s', outputs)) :
    ConnSent p s s' conId con con.status outputs := by
  simp only [resendConnMsg, derefCon, hCon] at hSend
  have hSent :=
    sendAndReschedule_sent (SlotTable.set_self ..) hSend
  exact hSent.of_setCon.of_sameLink ⟨rfl, rfl, rfl, rfl⟩

------------------------------------------------------------
-- Ways To Fail
------------------------------------------------------------

theorem sendConnMsg_error
    {input : SendInput α}
    {s : Endpoint σ}
    {conId : ConId}
    {con : ConnectData}
    {bufSize : Int}
    {command : ConMsgType}
    {fault : Fault}
    (hCon : s.connectbuf conId = some con)
    (hSend :
      sendConnMsg p T input s conId bufSize command =
        .error fault) :
    fault.IsSend := by
  unfold sendConnMsg derefCon ConnectData.ctrlBuf at hSend
  split at hSend
  · cases hSend
  · simp only [hCon] at hSend
    split at hSend
    · rename_i hBuf
      cases hSend
      split at hBuf
      · cases hBuf
      · split at hBuf
        · cases hBuf
          trivial
        · cases hBuf
    · exact sendMsg_error (SlotTable.set_self ..) hSend

theorem sendAndReschedule_error
    {input : SendInput α}
    {s : Endpoint σ}
    {conId : ConId}
    {con : ConnectData}
    {bufSize : Int}
    {command : ConMsgType}
    {fault : Fault}
    (hCon : s.connectbuf conId = some con)
    (hSend :
      sendAndReschedule p T input s conId bufSize command =
        .error fault) :
    fault.IsSend := by
  unfold sendAndReschedule at hSend
  split at hSend
  · rename_i hFirst
    cases hSend
    exact sendConnMsg_error hCon hFirst
  · rename_i hFirst
    rcases sendConnMsg_sent hCon hFirst with
      ⟨⟨con₁, net, rfl, _⟩, _⟩
    simp [rescheduleConnMsg, derefCon] at hSend

theorem sendConnMsgWithPmtuDiscovery_error
    {input : SendInput α}
    {s : Endpoint σ}
    {conId : ConId}
    {con : ConnectData}
    {bufSize : Int}
    {command : ConMsgType}
    {fault : Fault}
    (hCon : s.connectbuf conId = some con)
    (hSend :
      sendConnMsgWithPmtuDiscovery p T input s conId bufSize
          command = .error fault) :
    fault.IsSend := by
  simp only [sendConnMsgWithPmtuDiscovery, derefCon, hCon]
    at hSend
  exact sendAndReschedule_error (SlotTable.set_self ..) hSend

theorem recvInvite_error
    {input : SendInput α}
    {s : Endpoint σ}
    {msgH : MsgHeader}
    {conMsg : ConnMsg}
    {recvAddr : SockaddrStorage}
    {fault : Fault}
    (hRecv :
      recvInvite p T input s msgH conMsg recvAddr =
        .error fault) :
    fault.IsSend := by
  unfold recvInvite at hRecv
  simp only at hRecv
  split at hRecv
  · exact
      sendConnMsgWithPmtuDiscovery_error
        (SlotTable.set_self ..) hRecv
  · split at hRecv
    · cases hRecv
    · exact
        sendConnMsgWithPmtuDiscovery_error
          (SlotTable.set_self ..) hRecv

/- With an id inside the table, `CONNECT` fails in sending. -/
theorem recvConnect_error
    {input : SendInput α}
    {s : Endpoint σ}
    {msgH : MsgHeader}
    {conMsg : ConnMsg}
    {conId : ConId}
    {fault : Fault}
    (hId :
      connectbufAt msgH.remoteConId.toInt = .ok conId)
    (hRecv :
      recvConnect p T input s msgH conMsg = .error fault) :
    fault.IsSend := by
  unfold recvConnect at hRecv
  simp only [hId] at hRecv
  split at hRecv
  · cases hRecv
  · rename_i con hCon
    split at hRecv
    · split at hRecv
      · rename_i hSend
        cases hRecv
        exact
          sendConnMsgWithPmtuDiscovery_error
            (SlotTable.set_self ..) hSend
      · rename_i hSend
        rcases
          sendConnMsgWithPmtuDiscovery_sent
            (SlotTable.set_self ..) hSend with
          ⟨⟨con₁, net, rfl, _⟩, _⟩
        simp [derefCon] at hRecv
    · exact sendConnMsgWithPmtuDiscovery_error hCon hRecv

/- With an id inside the table, `READY` does not fail. -/
theorem recvReady_ok
    {s : Endpoint σ}
    {msgH : MsgHeader}
    {conId : ConId}
    (hId :
      connectbufAt msgH.remoteConId.toInt = .ok conId) :
    ∃ result, recvReady s msgH = .ok result := by
  unfold recvReady
  simp only [hId]
  split
  · exact ⟨_, rfl⟩
  · split
    · exact ⟨_, rfl⟩
    · exact ⟨_, rfl⟩

/- A connection message fails in sending or by its id. -/
theorem recvConnMsg_error
    {input : SendInput α}
    {s : Endpoint σ}
    {msgH : MsgHeader}
    {msgbuf : List UInt8}
    {msgSize : Int}
    {recvAddr : SockaddrStorage}
    {fault : Fault}
    (hRecv :
      recvConnMsg p T input s msgH msgbuf msgSize recvAddr =
        .error fault) :
    fault.IsSend ∨
      fault = .connectbufIndex msgH.remoteConId.toInt := by
  unfold recvConnMsg at hRecv
  simp only at hRecv
  split at hRecv
  · exact Or.inl (recvInvite_error hRecv)
  · cases hId : connectbufAt msgH.remoteConId.toInt with
    | ok conId => exact Or.inl (recvConnect_error hId hRecv)
    | error other =>
        unfold recvConnect at hRecv
        simp only [hId] at hRecv
        cases hRecv
        exact Or.inr (connectbufAt_error hId)
  · cases hId : connectbufAt msgH.remoteConId.toInt with
    | ok conId =>
        rcases recvReady_ok (s := s) hId with ⟨result, hOk⟩
        rw [hOk] at hRecv
        cases hRecv
    | error other =>
        unfold recvReady at hRecv
        simp only [hId] at hRecv
        cases hRecv
        exact Or.inr (connectbufAt_error hId)
  · cases hRecv

------------------------------------------------------------
-- What Receiving A Connection Message Does
------------------------------------------------------------

/-
  Everything that a connection message can do, one case for
  each way through the handlers.
-/
inductive RecvConnMsgEffect
    (p : Platform)
    (s : Endpoint σ)
    (msgH : MsgHeader)
    (conMsg : ConnMsg)
    (msgSize : Int)
    (recvAddr : SockaddrStorage) :
    Endpoint σ → List Output → Prop where
  | ignored :
      RecvConnMsgEffect p s msgH conMsg msgSize recvAddr s []
  | invited
      {s' : Endpoint σ}
      {outputs : List Output}
      {conId : ConId}
      {con : ConnectData}
      (hCommand :
        acceptedCommand p conMsg msgSize recvAddr =
          some .invite)
      (hFind :
        s.connectionOf p conMsg.sockId = some (conId, con))
      (hSent :
        ConnSent p s s' conId
          { con with
            externalConnectionID := msgH.localConId
            status := .connect }
          .connect outputs) :
      RecvConnMsgEffect p s msgH conMsg msgSize recvAddr s' outputs
  | invitedNew
      {s' : Endpoint σ}
      {outputs : List Output}
      {conId : ConId}
      (hCommand :
        acceptedCommand p conMsg msgSize recvAddr =
          some .invite)
      (hFree : s.connectbuf conId = none)
      (hNone :
        ∀ j con, s.connectbuf j = some con →
          ¬ SamePeer p con.externalSocketID conMsg.sockId)
      (hSent :
        ConnSent p s s' conId
          { ConnectData.ofInvite p msgH conMsg recvAddr with
            status := .connect }
          .connect outputs) :
      RecvConnMsgEffect p s msgH conMsg msgSize recvAddr s' outputs
  | connected
      {s' : Endpoint σ}
      {sent : List Output}
      {conId : ConId}
      {con : ConnectData}
      (hCommand :
        acceptedCommand p conMsg msgSize recvAddr =
          some .connect)
      (hId : msgH.remoteConId.toInt = (conId : Nat))
      (hCon : s.connectbuf conId = some con)
      (hStatus : con.status = .invite)
      (hStored :
        Stored s s' conId
          { con with
            externalConnectionID := msgH.localConId
            status := .ready
            connectionCbs := [] })
      (hPackets :
        ConnPackets p s.localSocketID conId msgH.localConId
          .ready sent) :
      RecvConnMsgEffect p s msgH conMsg msgSize recvAddr s'
        (sent ++ s.announce conId con)
  | reconnected
      {s' : Endpoint σ}
      {outputs : List Output}
      {conId : ConId}
      {con : ConnectData}
      (hCommand :
        acceptedCommand p conMsg msgSize recvAddr =
          some .connect)
      (hId : msgH.remoteConId.toInt = (conId : Nat))
      (hCon : s.connectbuf conId = some con)
      (hStatus : con.status ≠ .invite)
      (hSent :
        ConnSent p s s' conId con .ready outputs) :
      RecvConnMsgEffect p s msgH conMsg msgSize recvAddr s' outputs
  | readied
      {conId : ConId}
      {con : ConnectData}
      (hCommand :
        acceptedCommand p conMsg msgSize recvAddr =
          some .ready)
      (hId : msgH.remoteConId.toInt = (conId : Nat))
      (hCon : s.connectbuf conId = some con)
      (hStatus : con.status = .connect) :
      RecvConnMsgEffect p s msgH conMsg msgSize recvAddr
        (s.setCon conId
          { con with
            status := .ready
            connectionCbs := [] })
        (s.announce conId con)

theorem recvInvite_effect
    {input : SendInput α}
    {s s' : Endpoint σ}
    {msgH : MsgHeader}
    {conMsg : ConnMsg}
    {msgSize : Int}
    {recvAddr : SockaddrStorage}
    {outputs : List Output}
    (hCommand :
      acceptedCommand p conMsg msgSize recvAddr =
        some .invite)
    (hRecv :
      recvInvite p T input s msgH conMsg recvAddr =
        .ok (s', outputs)) :
    RecvConnMsgEffect p s msgH conMsg msgSize recvAddr s'
      outputs := by
  unfold recvInvite at hRecv
  simp only at hRecv
  split at hRecv
  · rename_i conId con hFind
    exact
      .invited hCommand hFind
        (sendConnMsgWithPmtuDiscovery_sent
          (SlotTable.set_self ..) hRecv).of_setCon
  · rename_i hFind
    split at hRecv
    · cases hRecv
      exact .ignored
    · rename_i conId hFree
      exact
        .invitedNew hCommand
          (SlotTable.free_of_firstFree? hFree)
          (Endpoint.of_connectionOf_eq_none hFind)
          (sendConnMsgWithPmtuDiscovery_sent
            (SlotTable.set_self ..) hRecv).of_setCon

theorem recvConnect_effect
    {input : SendInput α}
    {s s' : Endpoint σ}
    {msgH : MsgHeader}
    {conMsg : ConnMsg}
    {msgSize : Int}
    {recvAddr : SockaddrStorage}
    {outputs : List Output}
    (hCommand :
      acceptedCommand p conMsg msgSize recvAddr =
        some .connect)
    (hRecv :
      recvConnect p T input s msgH conMsg =
        .ok (s', outputs)) :
    RecvConnMsgEffect p s msgH conMsg msgSize recvAddr s'
      outputs := by
  unfold recvConnect at hRecv
  simp only at hRecv
  split at hRecv
  · cases hRecv
  · rename_i conId hIndex
    have hId := eq_of_connectbufAt hIndex
    split at hRecv
    · cases hRecv
      exact .ignored
    · rename_i con hCon
      split at hRecv
      · rename_i hStatus
        split at hRecv
        · cases hRecv
        · rename_i s₁ sent hSend
          rcases
            (sendConnMsgWithPmtuDiscovery_sent
              (SlotTable.set_self ..) hSend).of_setCon with
            ⟨⟨con₁, net, rfl, hLink⟩, hPackets⟩
          simp only [derefCon,
            Endpoint.setConNet_connectbuf,
            SlotTable.set_self, Endpoint.setConNet_setCon]
            at hRecv
          cases hRecv
          have hAnnounce :
              (s.setConNet conId con₁ net).announce conId
                con₁ = s.announce conId con := by
            unfold Endpoint.announce
            rw [hLink.connectionCbs]
            rfl
          rw [hAnnounce]
          exact
            .connected hCommand hId hCon hStatus
              ⟨_, net, rfl,
                ⟨hLink.externalSocketID,
                  hLink.externalConnectionID,
                  hLink.status, rfl⟩⟩
              hPackets
      · rename_i hStatus
        exact
          .reconnected hCommand hId hCon hStatus
            (sendConnMsgWithPmtuDiscovery_sent hCon hRecv)

theorem recvReady_effect
    {s s' : Endpoint σ}
    {msgH : MsgHeader}
    {conMsg : ConnMsg}
    {msgSize : Int}
    {recvAddr : SockaddrStorage}
    {outputs : List Output}
    (hCommand :
      acceptedCommand p conMsg msgSize recvAddr =
        some .ready)
    (hRecv : recvReady s msgH = .ok (s', outputs)) :
    RecvConnMsgEffect p s msgH conMsg msgSize recvAddr s'
      outputs := by
  unfold recvReady at hRecv
  split at hRecv
  · cases hRecv
  · rename_i conId hIndex
    split at hRecv
    · cases hRecv
      exact .ignored
    · rename_i con hCon
      split at hRecv
      · rename_i hStatus
        cases hRecv
        exact
          .readied hCommand (eq_of_connectbufAt hIndex) hCon
            hStatus
      · cases hRecv
        exact .ignored

/- A received connection message has one of the effects. -/
theorem recvConnMsg_effect
    {input : SendInput α}
    {s s' : Endpoint σ}
    {msgH : MsgHeader}
    {msgbuf : List UInt8}
    {msgSize : Int}
    {recvAddr : SockaddrStorage}
    {outputs : List Output}
    (hRecv :
      recvConnMsg p T input s msgH msgbuf msgSize recvAddr =
        .ok (s', outputs)) :
    RecvConnMsgEffect p s msgH
      (ConnMsg.decode p
        (msgbuf.drop msgH.lenMonDataHdr.toNat))
      (msgSize - msgH.lenMonDataHdr.toNat)
      recvAddr s' outputs := by
  unfold recvConnMsg at hRecv
  simp only at hRecv
  split at hRecv
  · rename_i hCommand
    exact recvInvite_effect hCommand hRecv
  · rename_i hCommand
    exact recvConnect_effect hCommand hRecv
  · rename_i hCommand
    exact recvReady_effect hCommand hRecv
  · cases hRecv
    exact .ignored

------------------------------------------------------------
-- What The Retry Timer Does
------------------------------------------------------------

/- Everything that the retry timer can do. -/
inductive PmtuTimeoutEffect
    (p : Platform)
    (s : Endpoint σ)
    (conId : ConId) :
    Endpoint σ → List Output → Prop where
  | gone
      (hFree : s.connectbuf conId = none) :
      PmtuTimeoutEffect p s conId s []
  | done
      {con : ConnectData}
      (hCon : s.connectbuf conId = some con)
      (hStatus : con.status = .ready) :
      PmtuTimeoutEffect p s conId
        (s.setCon conId { con with timeoutEvent := false })
        []
  | retried
      {s' : Endpoint σ}
      {outputs : List Output}
      {con : ConnectData}
      (hCon : s.connectbuf conId = some con)
      (hStatus : con.status ≠ .ready)
      (hSent :
        ConnSent p s s' conId con con.status outputs) :
      PmtuTimeoutEffect p s conId s' outputs
  | gaveUp
      {outputs : List Output}
      {con : ConnectData}
      (hCon : s.connectbuf conId = some con)
      (hStatus : con.status ≠ .ready)
      (hSize : con.backOff.pmtusize = pmtuError)
      (hExternal : con.internalConnect = false)
      (hOutputs :
        outputs = [] ∨
          outputs = [.failedConnection conId]) :
      PmtuTimeoutEffect p s conId
        { s with connectbuf := s.connectbuf.free conId }
        outputs

/- Backing off changes the size and the timer only. -/
theorem ConnectData.sameLink_backOff
    (con : ConnectData) :
    con.SameLink con.backOff ∧
      con.backOff.internalConnect = con.internalConnect := by
  unfold backOff
  by_cases hDelay : con.delay <;>
    by_cases hTrials : con.trials = maxTrials <;>
      simp only [hDelay, hTrials, if_true, if_false,
        Bool.false_eq_true, and_true] <;>
      exact ⟨rfl, rfl, rfl, rfl⟩

/- The retry timer has one of the effects. -/
theorem pmtuTimeoutCb_effect
    {input : SendInput α}
    {s s' : Endpoint σ}
    {conId : ConId}
    {outputs : List Output}
    (hTimer :
      pmtuTimeoutCb p T input s conId =
        .ok (s', outputs)) :
    PmtuTimeoutEffect p s conId s' outputs := by
  unfold pmtuTimeoutCb at hTimer
  split at hTimer
  · rename_i hFree
    cases hTimer
    exact .gone hFree
  · rename_i con hCon
    rcases con.sameLink_backOff with ⟨hLink, hInternal⟩
    split at hTimer
    · rename_i hStatus
      cases hTimer
      exact .done hCon hStatus
    · rename_i hStatus
      simp only at hTimer
      split at hTimer
      · rename_i hSize
        split at hTimer
        · have hSent :=
            resendConnMsg_sent (SlotTable.set_self ..) hTimer
          refine .retried hCon hStatus ?_
          rw [← hLink.status]
          exact
            hSent.of_setCon.of_sameLink
              (hLink.trans ⟨rfl, rfl, rfl, rfl⟩)
        · rename_i hExternal
          cases hTimer
          refine .gaveUp hCon hStatus hSize ?_ ?_
          · rw [← hInternal]
            simpa using hExternal
          · split
            · exact Or.inr rfl
            · exact Or.inl rfl
      · have hSent :=
          resendConnMsg_sent (SlotTable.set_self ..) hTimer
        refine .retried hCon hStatus ?_
        rw [← hLink.status]
        exact hSent.of_setCon.of_sameLink hLink

end ML

end NapaBaselibs
