import NapaBaselibs.ML.Entries
import NapaBaselibs.ML.TwoParty

/-
  Two endpoints that connect to each other agree on the ids.

  An id is learnt from the header of a connection message,
  where its sender wrote the index of an entry that it had.
  As long as no entry is closed or given up, the index stays
  that of the sender's entry for the receiver.  An entry that
  is no longer `INVITE` has learnt such an id.

  Key definitions include:
    * `Genuine`
    * `IdOf`, `Agreement`

  Key theorems include:
    * `Agreement.step`
    * `handshake_agreement`
-/

------------------------------------------------------------
-- Connection Messages And Data Packets
------------------------------------------------------------

namespace NapaBaselibs

namespace ML

variable {σ α : Type}

/- The messages that go over a connection when it is ready. -/
def Event.SendsData : Event α → Prop
| .sendData _ _ _ _ _ | .keepalive _ _ => True
| _ => False

/-
  As long as the application gives no message their type,
  packets of connection messages are connection messages.
-/
theorem NodeStep.connMsgs
    {p : Platform}
    {T : Transport σ α}
    {s s' : Endpoint σ}
    {e : Event α}
    {outputs : List Output}
    (hStep : NodeStep p T s e outputs s')
    (hTypes :
      ∀ input connectionID sendbuf bufsize msgtype,
        e = .sendData input connectionID sendbuf bufsize
            msgtype → msgtype ≠ mlConMsg)
    {pkt : Packet}
    (hMem : pkt ∈ packets outputs)
    (hType : pkt.header.msgType = mlConMsg) :
    ∃ (conId : ConId) (con : ConnectData)
        (externalConnectionID : Int32)
        (command : ConMsgType),
      s'.connectbuf conId = some con ∧
        ConnPacket p s.localSocketID conId
          externalConnectionID command pkt := by
  have hOther : e.packetType = mlConMsg := by
    rw [← hStep.packetType pkt hMem, hType]
  have hExec := hStep.2
  cases e with
  | recvPkg input r => exact recvPkg_connMsgs hExec pkt hMem
  | openConnection input externalSocketID cb keepalive =>
      unfold exec at hExec
      simp only at hExec
      split at hExec
      · cases hExec
      · rename_i hOpen
        cases hExec
        exact
          mlOpenConnection_connMsgs
            (mlOpenConnection_effect hOpen) pkt hMem
  | closeConnection connectionID =>
      unfold exec at hExec
      simp only at hExec
      split at hExec
      · cases hExec
      · cases hExec
        cases hMem
  | sendData input connectionID sendbuf bufsize msgtype =>
      exact absurd hOther (hTypes _ _ _ _ _ rfl)
  | pmtuTimeout input conId =>
      exact
        pmtuTimeoutCb_connMsgs (pmtuTimeoutCb_effect hExec)
          pkt hMem
  | keepalive input peer =>
      have hApart : msgTypeMlKeepalive ≠ mlConMsg := by decide
      exact absurd hOther hApart
  | recvTimeout recvId =>
      cases hExec
      cases hMem
  | pktRecvTimeout | lastPktRecvTimeout =>
      have hApart : mlNackMsg ≠ mlConMsg := by decide
      exact absurd hOther hApart

theorem sendMsg_remoteConId
    {T : Transport σ α}
    {input : SendInput α}
    {s s' : Endpoint σ}
    {conId : ConId}
    {con : ConnectData}
    {msgType : UInt8}
    {msg : List UInt8}
    {msgLen : Int}
    {truncable : Bool}
    {outputs : List Output}
    (hCon : s.connectbuf conId = some con)
    (hSend :
      sendMsg T input s conId msgType msg msgLen truncable =
        .ok (s', outputs))
    {pkt : Packet}
    (hMem : pkt ∈ packets outputs) :
    pkt.header.remoteConId = con.externalConnectionID := by
  rcases sendMsg_ok hSend with
    ⟨con₁, _, _, _, hCon₁, _, hPackets⟩
  rw [hCon, Option.some.injEq] at hCon₁
  rcases mem_packets_iff.mp hMem with ⟨answer, hIn⟩
  rcases hPackets _ hIn with ⟨other, _, hEq, hPacket⟩
  rcases hPacket.isPacket with ⟨_, _, _, _, _, rfl⟩
  cases hEq
  rw [hCon₁]
  rfl

/- Data carries the id that a ready entry has learnt. -/
theorem NodeStep.data_remoteConId
    {p : Platform}
    {T : Transport σ α}
    {s s' : Endpoint σ}
    {e : Event α}
    {outputs : List Output}
    (hStep : NodeStep p T s e outputs s')
    (hData : e.SendsData)
    {pkt : Packet}
    (hMem : pkt ∈ packets outputs) :
    ∃ (conId : ConId) (con : ConnectData),
      s.connectbuf conId = some con ∧
        con.status = .ready ∧
        pkt.header.remoteConId = con.externalConnectionID := by
  have hExec := hStep.2
  cases e with
  | sendData input connectionID sendbuf bufsize msgtype =>
      rcases mlSendData_cases hExec with
        ⟨_, rfl⟩ | ⟨conId, con, _, hCon, hStatus, hSend⟩
      · cases hMem
      · exact
          ⟨conId, con, hCon, hStatus,
            sendMsg_remoteConId hCon hSend hMem⟩
  | keepalive input peer =>
      rcases keepaliveFn_cases hExec with
        ⟨_, hTimers⟩ |
        ⟨conId, con, sent, hCon, hStatus, hSend, rfl⟩
      · rcases mem_packets_iff.mp hMem with ⟨answer, hIn⟩
        rcases hTimers _ hIn with ⟨_, hEq⟩
        cases hEq
      · refine ⟨conId, con, hCon, hStatus, ?_⟩
        rw [packets_append] at hMem
        rcases List.mem_append.mp hMem with hSent | hTimer
        · have hRemote :=
            sendMsg_remoteConId
              (SlotTable.set_self s.connectbuf conId _) hSend
              hSent
          exact hRemote
        · cases hTimer
  | recvPkg | openConnection | closeConnection | pmtuTimeout
  | recvTimeout | pktRecvTimeout | lastPktRecvTimeout =>
      cases hData

/-
  The socket ID in a connection message is the one that its
  sender had, as it is carried.
-/
theorem sockId_of_connPacket
    {p q : Platform}
    {localSocketID : SocketID}
    {conId : ConId}
    {externalConnectionID : Int32}
    {command command' : ConMsgType}
    {pkt : Packet}
    {r : Reception}
    (hPacket :
      ConnPacket p localSocketID conId externalConnectionID
        command pkt)
    (hDatagram : r.datagram = pkt.datagram)
    (hCommand : r.command q = some command') :
    (r.conMsg q).sockId =
      carriedSocketID q localSocketID := by
  have hSize :
      r.msgSize - r.msgH.lenMonDataHdr.toNat =
        (pkt.payload.length : Nat) := by
    rw [Reception.msgSize_datagram hDatagram
        hPacket.lenMonPacketHdr,
      Reception.msgH_datagram hDatagram,
      hPacket.lenMonDataHdr, List.length_append]
    omega
  rcases hPacket.payload with
    hShort | ⟨pmtuSize, rest, hPayload⟩
  · -- too short to be accepted
    exfalso
    unfold Reception.command at hCommand
    split at hCommand
    · unfold acceptedCommand at hCommand
      rw [hSize, if_pos (by omega)] at hCommand
      cases hCommand
    · cases hCommand
  · unfold Reception.conMsg
    rw [Reception.drop_bufptr_msgbuf hDatagram
        hPacket.lenMonPacketHdr,
      Reception.msgH_datagram hDatagram,
      hPacket.lenMonDataHdr, List.append_assoc,
      List.drop_left, hPayload, List.append_assoc,
      ConnMsg.decode_encode]
    unfold carriedSocketID convertFamilies
    simp only [htons_htons]

------------------------------------------------------------
-- Agreement
------------------------------------------------------------

/-
  A step with genuine connection messages.  Each side is known
  to the other by a socket ID: the one in its messages and the
  handle that the other opens compare equal to it.  Nothing is
  closed and nothing given up.
-/
structure Genuine
    (p : Side → Platform)
    (identity : Side → SocketID)
    (tr : Transition (Network Side (Endpoint σ) Packet)
      (Side × Event α) Output) : Prop where
  carried :
    ∀ side : Side,
      SamePeer (p side.other)
        (carriedSocketID (p side.other)
          (tr.pre.node side).localSocketID)
        (identity side)
  opens :
    ∀ input externalSocketID cb keepalive,
      tr.event.2 =
          .openConnection input externalSocketID cb
            keepalive →
        SamePeer (p tr.event.1) externalSocketID
          (identity tr.event.1.other)
  types :
    ∀ input connectionID sendbuf bufsize msgtype,
      tr.event.2 =
          .sendData input connectionID sendbuf bufsize
            msgtype →
        msgtype ≠ mlConMsg
  notClosed :
    ∀ conId,
      ¬ tr.event.2.Closes (tr.pre.node tr.event.1) conId

/- The id is the index of an entry that the side has. -/
def Live
    (n : Network Side (Endpoint σ) Packet)
    (side : Side)
    (id : Int32) : Prop :=
  ∃ conId : ConId,
    (n.node side).connectbuf conId ≠ none ∧
      id.toInt = (conId : Nat)

/-
  The id is the index of the entry that the side has for the
  other, and there is only this one.
-/
def IdOf
    (p : Side → Platform)
    (identity : Side → SocketID)
    (n : Network Side (Endpoint σ) Packet)
    (side : Side)
    (id : Int32) : Prop :=
  ∃ (conId : ConId) (con : ConnectData),
    (n.node side).connectbuf conId = some con ∧
      SamePeer (p side) con.externalSocketID
        (identity side.other) ∧
      id.toInt = (conId : Nat) ∧
      ∀ j con', (n.node side).connectbuf j = some con' →
        SamePeer (p side) con'.externalSocketID
            (identity side.other) →
          j = conId

/-
  What holds in every state: each side has at most one entry,
  for the other; past `INVITE` its id is that of an entry of
  the other; and what is on the network says who sent it and
  over which entry.
-/
structure Agreement
    (p : Side → Platform)
    (identity : Side → SocketID)
    (n : Network Side (Endpoint σ) Packet) : Prop where
  peer :
    ∀ side conId con,
      (n.node side).connectbuf conId = some con →
        SamePeer (p side) con.externalSocketID
          (identity side.other)
  unique :
    ∀ side i j con con',
      (n.node side).connectbuf i = some con →
        (n.node side).connectbuf j = some con' → i = j
  known :
    ∀ side conId con,
      (n.node side).connectbuf conId = some con →
        con.status ≠ .invite →
          Live n side.other con.externalConnectionID
  sent :
    ∀ side, ∀ pkt ∈ n.sent side,
      pkt.header.msgType = mlConMsg →
        ∃ (localSocketID : SocketID) (conId : ConId)
            (externalConnectionID : Int32)
            (command : ConMsgType),
          (n.node side).connectbuf conId ≠ none ∧
            ConnPacket (p side) localSocketID conId
              externalConnectionID command pkt ∧
            SamePeer (p side.other)
              (carriedSocketID (p side.other) localSocketID)
              (identity side)

section AgreementSteps

variable {p : Side → Platform}
variable {T : Transport σ α}
variable {identity : Side → SocketID}
variable {n : Network Side (Endpoint σ) Packet}

/- At the start there is nothing to agree on. -/
theorem TwoPartyStart.agreement
    (hStart : TwoPartyStart n) :
    Agreement p identity n where
  peer side conId con hCon := by
    rw [(hStart.initial side).connectbuf] at hCon
    cases hCon
  unique side i j con con' hCon := by
    rw [(hStart.initial side).connectbuf] at hCon
    cases hCon
  known side conId con hCon := by
    rw [(hStart.initial side).connectbuf] at hCon
    cases hCon
  sent side pkt hMem := by
    rw [hStart.sent side] at hMem
    cases hMem

/- An index of the table fits the header. -/
theorem toInt_ofInt_conId
    (conId : ConId) :
    (Int32.ofInt (conId : Nat)).toInt = (conId : Nat) := by
  have hBound := conId.isLt
  unfold connectbufSize at hBound
  exact Int32.toInt_ofInt_of_le (by omega) (by omega)

/- What a side learns when it accepts a message. -/
theorem Agreement.received
    (hInv : Agreement p identity n)
    {who : Side}
    {r : Reception}
    {command : ConMsgType}
    (hSent :
      ∃ pkt ∈ n.sent who.other, r.datagram = pkt.datagram)
    (hCommand : r.command (p who) = some command) :
    Live n who.other r.msgH.localConId ∧
      SamePeer (p who) (r.conMsg (p who)).sockId
        (identity who.other) := by
  rcases hSent with ⟨pkt, hMem, hDatagram⟩
  have hHeader := Reception.msgH_datagram hDatagram
  have hType : pkt.header.msgType = mlConMsg := by
    unfold Reception.command at hCommand
    split at hCommand
    · rename_i hClass
      rw [← hHeader]
      exact Reception.classify_connection hClass
    · cases hCommand
  rcases hInv.sent who.other pkt hMem hType with
    ⟨localSocketID, conId, _, _, hLive, hPacket, hPeer⟩
  rw [Side.other_other] at hPeer
  constructor
  · refine ⟨conId, hLive, ?_⟩
    rw [hHeader, hPacket.localConId]
    exact toInt_ofInt_conId conId
  · rw [sockId_of_connPacket hPacket hDatagram hCommand]
    exact hPeer

variable {tr :
  Transition (Network Side (Endpoint σ) Packet)
    (Side × Event α) Output}

/- Registering callbacks leaves the entries. -/
theorem EntryStep.of_sameButCallbacks
    {p : Platform}
    {s s₁ s' : Endpoint σ}
    {e : Event α}
    {i : ConId}
    {con' : ConnectData}
    (hSame : SameButCallbacks s s₁)
    (hEntry : EntryStep p s₁ e s' i con') :
    EntryStep p s e s' i con' := by
  have hTable := hSame.connectbuf
  cases hEntry with
  | kept hCon hPeer hId hStatus =>
      rw [hTable] at hCon
      exact .kept hCon hPeer hId hStatus
  | told hEvent hCommand hCon hPeer hId =>
      rw [hTable] at hCon
      exact .told hEvent hCommand hCon hPeer hId
  | invited hEvent hCommand hFree hNone hOthers hPeer hId =>
      rw [hTable] at hFree hNone hOthers
      exact
        .invited hEvent hCommand hFree hNone hOthers hPeer
          hId
  | opened hEvent hFree hNone hOthers hPeer hStatus =>
      rw [hTable] at hFree hNone hOthers
      exact .opened hEvent hFree hNone hOthers hPeer hStatus

/- The entries of the side that takes the step. -/
theorem entry_of_step
    (hStep :
      (twoParty p T).Step tr.pre tr.event tr.outputs tr.post)
    {i : ConId}
    {con' : ConnectData}
    (hCon : (tr.post.node tr.event.1).connectbuf i = some con') :
    EntryStep (p tr.event.1) (tr.pre.node tr.event.1)
      tr.event.2 (tr.post.node tr.event.1) i con' := by
  rcases hStep.step with ⟨s₁, hSame, hNode⟩
  exact (hNode.entry hCon).of_sameButCallbacks hSame

/- With genuine messages no entry goes away. -/
theorem Genuine.stays
    (hGenuine : Genuine p identity tr)
    (hStep :
      (twoParty p T).Step tr.pre tr.event tr.outputs tr.post)
    (side : Side)
    {i : ConId}
    (hLive : (tr.pre.node side).connectbuf i ≠ none) :
    (tr.post.node side).connectbuf i ≠ none := by
  by_cases hEq : side = tr.event.1
  · subst hEq
    rcases hStep.step with ⟨s₁, hSame, hNode⟩
    rw [← hSame.connectbuf] at hLive
    refine hNode.entry_stays ?_ hLive
    rw [Event.closes_congr hSame.connectbuf]
    exact hGenuine.notClosed i
  · rw [hStep.node_eq side hEq]
    exact hLive

theorem Genuine.live
    (hGenuine : Genuine p identity tr)
    (hStep :
      (twoParty p T).Step tr.pre tr.event tr.outputs tr.post)
    {side : Side}
    {id : Int32}
    (hLive : Live tr.pre side id) :
    Live tr.post side id := by
  rcases hLive with ⟨conId, hEntry, hId⟩
  exact ⟨conId, hGenuine.stays hStep side hEntry, hId⟩

/- A message that is received was sent by the other. -/
theorem Agreement.received_of_step
    (hInv : Agreement p identity tr.pre)
    (hStep :
      (twoParty p T).Step tr.pre tr.event tr.outputs tr.post)
    {input : SendInput α}
    {r : Reception}
    {command : ConMsgType}
    (hEvent : tr.event.2 = .recvPkg input r)
    (hCommand : r.command (p tr.event.1) = some command) :
    Live tr.pre tr.event.1.other r.msgH.localConId ∧
      SamePeer (p tr.event.1) (r.conMsg (p tr.event.1)).sockId
        (identity tr.event.1.other) :=
  hInv.received (hStep.possible.1 input r hEvent) hCommand

theorem Agreement.step_peer
    (hInv : Agreement p identity tr.pre)
    (hStep :
      (twoParty p T).Step tr.pre tr.event tr.outputs tr.post)
    (hGenuine : Genuine p identity tr)
    (side : Side)
    (i : ConId)
    (con' : ConnectData)
    (hCon : (tr.post.node side).connectbuf i = some con') :
    SamePeer (p side) con'.externalSocketID
      (identity side.other) := by
  by_cases hEq : side = tr.event.1
  · subst hEq
    cases entry_of_step hStep hCon with
    | kept hBefore hPeer _ _ =>
        rw [hPeer]
        exact hInv.peer _ _ _ hBefore
    | told _ _ hBefore hPeer _ =>
        rw [hPeer]
        exact hInv.peer _ _ _ hBefore
    | invited hEvent hCommand _ _ _ hPeer _ =>
        rw [hPeer]
        exact (hInv.received_of_step hStep hEvent hCommand).2
    | opened hEvent _ _ _ hPeer _ =>
        rw [hPeer]
        exact hGenuine.opens _ _ _ _ hEvent
  · rw [hStep.node_eq side hEq] at hCon
    exact hInv.peer _ _ _ hCon

/- A new entry is made only where there is none yet. -/
theorem Agreement.step_new
    (hInv : Agreement p identity tr.pre)
    (hStep :
      (twoParty p T).Step tr.pre tr.event tr.outputs tr.post)
    (hGenuine : Genuine p identity tr)
    {i : ConId}
    {con' : ConnectData}
    (hCon : (tr.post.node tr.event.1).connectbuf i = some con') :
    (tr.pre.node tr.event.1).connectbuf i ≠ none ∨
      ∀ j, j ≠ i →
        (tr.post.node tr.event.1).connectbuf j = none := by
  have hAlone :
      ∀ {socketID : SocketID},
        SamePeer (p tr.event.1) socketID
            (identity tr.event.1.other) →
          (∀ j con,
            (tr.pre.node tr.event.1).connectbuf j =
                some con →
              ¬ SamePeer (p tr.event.1) con.externalSocketID
                socketID) →
          ∀ j,
            (tr.pre.node tr.event.1).connectbuf j = none := by
    intro socketID hPeer hNone j
    rw [Option.eq_none_iff_forall_ne_some]
    intro con hBefore
    exact
      hNone j con hBefore
        ((hInv.peer _ _ _ hBefore).trans hPeer.symm)
  cases entry_of_step hStep hCon with
  | kept hBefore _ _ _ =>
      refine Or.inl ?_
      rw [hBefore]
      simp
  | told _ _ hBefore _ _ =>
      refine Or.inl ?_
      rw [hBefore]
      simp
  | invited hEvent hCommand _ hNone hOthers _ _ =>
      refine Or.inr ?_
      intro j hNe
      rw [hOthers j hNe]
      exact
        hAlone
          (hInv.received_of_step hStep hEvent hCommand).2
          hNone j
  | opened hEvent _ hNone hOthers _ _ =>
      refine Or.inr ?_
      intro j hNe
      rw [hOthers j hNe]
      exact hAlone (hGenuine.opens _ _ _ _ hEvent) hNone j

theorem Agreement.step_unique
    (hInv : Agreement p identity tr.pre)
    (hStep :
      (twoParty p T).Step tr.pre tr.event tr.outputs tr.post)
    (hGenuine : Genuine p identity tr)
    (side : Side)
    (i j : ConId)
    (con con' : ConnectData)
    (hFirst : (tr.post.node side).connectbuf i = some con)
    (hSecond : (tr.post.node side).connectbuf j = some con') :
    i = j := by
  by_cases hEq : side = tr.event.1
  · subst hEq
    by_contra hNe
    rcases hInv.step_new hStep hGenuine hFirst with
      hOld | hAlone
    · rcases hInv.step_new hStep hGenuine hSecond with
        hOld' | hAlone
      · rcases Option.ne_none_iff_exists'.mp hOld with
          ⟨old, hBefore⟩
        rcases Option.ne_none_iff_exists'.mp hOld' with
          ⟨old', hBefore'⟩
        exact hNe (hInv.unique _ _ _ _ _ hBefore hBefore')
      · rw [hAlone i hNe] at hFirst
        cases hFirst
    · rw [hAlone j (Ne.symm hNe)] at hSecond
      cases hSecond
  · rw [hStep.node_eq side hEq] at hFirst hSecond
    exact hInv.unique _ _ _ _ _ hFirst hSecond

theorem Agreement.step_known
    (hInv : Agreement p identity tr.pre)
    (hStep :
      (twoParty p T).Step tr.pre tr.event tr.outputs tr.post)
    (hGenuine : Genuine p identity tr)
    (side : Side)
    (i : ConId)
    (con' : ConnectData)
    (hCon : (tr.post.node side).connectbuf i = some con')
    (hStatus' : con'.status ≠ .invite) :
    Live tr.post side.other con'.externalConnectionID := by
  apply hGenuine.live hStep
  by_cases hEq : side = tr.event.1
  · subst hEq
    cases entry_of_step hStep hCon with
    | kept hBefore _ hId hStatus =>
        rw [hId]
        exact hInv.known _ _ _ hBefore (hStatus hStatus')
    | told hEvent hCommand _ _ hId =>
        rw [hId]
        exact (hInv.received_of_step hStep hEvent hCommand).1
    | invited hEvent hCommand _ _ _ _ hId =>
        rw [hId]
        exact (hInv.received_of_step hStep hEvent hCommand).1
    | opened _ _ _ _ _ hStatus =>
        exact absurd hStatus hStatus'
  · rw [hStep.node_eq side hEq] at hCon
    exact hInv.known _ _ _ hCon hStatus'

theorem Agreement.step_sent
    (hInv : Agreement p identity tr.pre)
    (hStep :
      (twoParty p T).Step tr.pre tr.event tr.outputs tr.post)
    (hGenuine : Genuine p identity tr)
    (side : Side)
    (pkt : Packet)
    (hMem : pkt ∈ tr.post.sent side)
    (hType : pkt.header.msgType = mlConMsg) :
    ∃ (localSocketID : SocketID) (conId : ConId)
        (externalConnectionID : Int32)
        (command : ConMsgType),
      (tr.post.node side).connectbuf conId ≠ none ∧
        ConnPacket (p side) localSocketID conId
          externalConnectionID command pkt ∧
        SamePeer (p side.other)
          (carriedSocketID (p side.other) localSocketID)
          (identity side) := by
  rcases hStep.mem_sent hMem with hOld | ⟨hSender, hNew⟩
  · rcases hInv.sent side pkt hOld hType with
      ⟨localSocketID, conId, _, _, hLive, hPacket, hPeer⟩
    exact
      ⟨localSocketID, conId, _, _,
        hGenuine.stays hStep side hLive, hPacket, hPeer⟩
  · subst hSender
    rcases hStep.step with ⟨s₁, hSame, hNode⟩
    rcases hNode.connMsgs hGenuine.types hNew hType with
      ⟨conId, con, _, _, hCon, hPacket⟩
    refine
      ⟨s₁.localSocketID, conId, _, _, ?_, hPacket, ?_⟩
    · rw [hCon]
      simp
    · rw [hSame.localSocketID]
      exact hGenuine.carried tr.event.1

/- One step keeps the agreement. -/
theorem Agreement.step
    (hInv : Agreement p identity tr.pre)
    (hStep :
      (twoParty p T).Step tr.pre tr.event tr.outputs tr.post)
    (hGenuine : Genuine p identity tr) :
    Agreement p identity tr.post where
  peer := hInv.step_peer hStep hGenuine
  unique := hInv.step_unique hStep hGenuine
  known := hInv.step_known hStep hGenuine
  sent := hInv.step_sent hStep hGenuine

/- An id that is live is the id of the only entry. -/
theorem Agreement.idOf
    (hInv : Agreement p identity n)
    {side : Side}
    {id : Int32}
    (hLive : Live n side id) :
    IdOf p identity n side id := by
  rcases hLive with ⟨conId, hEntry, hId⟩
  rcases Option.ne_none_iff_exists'.mp hEntry with
    ⟨con, hCon⟩
  refine
    ⟨conId, con, hCon, hInv.peer _ _ _ hCon, hId, ?_⟩
  intro j con' hCon' _
  exact hInv.unique _ _ _ _ _ hCon' hCon

end AgreementSteps

/-
  In every run with genuine connection messages, the id of a
  ready entry is that of the other's entry for this side, and
  a data packet is sent with such an id only.
-/
theorem handshake_agreement
    {p : Side → Platform}
    {T : Transport σ α}
    {identity : Side → SocketID}
    {s s' : Network Side (Endpoint σ) Packet}
    {trace : PartyTrace σ α}
    (hStart : TwoPartyStart s)
    (hRun : Run (twoParty p T).Step s trace s')
    (hGenuine : ∀ tr ∈ trace, Genuine p identity tr) :
    (∀ side conId con,
        (s'.node side).connectbuf conId = some con →
          con.status = .ready →
            IdOf p identity s' side.other
              con.externalConnectionID) ∧
      ∀ tr ∈ trace, tr.event.2.SendsData →
        ∀ pkt ∈ packets tr.outputs,
          IdOf p identity tr.pre tr.event.1.other
            pkt.header.remoteConId := by
  rcases
    hRun.invariant_of_steps (Agreement p identity)
      (Genuine p identity)
      (fun tr hStep hStepGenuine hInv =>
        hInv.step hStep hStepGenuine)
      hGenuine hStart.agreement with
    ⟨hEnd, hSteps⟩
  constructor
  · intro side conId con hCon hReady
    apply hEnd.idOf
    apply hEnd.known side conId con hCon
    rw [hReady]
    simp
  · intro tr hMem hData pkt hPkt
    have hInv := (hSteps tr hMem).1
    rcases (hRun.mem_step hMem).step with
      ⟨s₁, hSame, hNode⟩
    rcases hNode.data_remoteConId hData hPkt with
      ⟨conId, con, hCon, hReady, hRemote⟩
    rw [hSame.connectbuf] at hCon
    rw [hRemote]
    apply hInv.idOf
    apply hInv.known tr.event.1 conId con hCon
    rw [hReady]
    simp

------------------------------------------------------------
-- Two Hosts That Agree
------------------------------------------------------------

open Sample in
/- The left host is ready and knows the right one's id. -/
theorem handshake_agreement_hosts :
    ∃ (trace : PartyTrace Unit ErrorCode)
      (n : Network Side (Endpoint Unit) Packet)
      (con : ConnectData),
      Run party.Step hosts trace n ∧
        (n.node .left).connectbuf first = some con ∧
        con.status = .ready ∧
        IdOf (fun _ => platform)
          (fun side => socketID (hostOf side)) n .right
          con.externalConnectionID := by
  rcases exists_handshake 0 with
    ⟨con₁, con₂, con₃, r₁, r₂, o₁, o₂, o₃, n₁, n₂, n₃, hN₁,
      hN₂, hN₃, hStep₁, hStep₂, hStep₃, _, _, hStatus, _⟩
  have hLocal :
      ∀ n ∈ [hosts, n₁, n₂], ∀ side,
        (n.node side).localSocketID =
          socketID (hostOf side) := by
    intro n hMem side
    simp only [List.mem_cons, List.not_mem_nil, or_false]
      at hMem
    rcases hMem with rfl | rfl | rfl
    · rfl
    · rw [hN₁]
      cases side <;> rfl
    · rw [hN₂, hN₁]
      cases side <;> rfl
  have hCarried :
      ∀ n ∈ [hosts, n₁, n₂], ∀ side,
        SamePeer platform
          (carriedSocketID platform
            (n.node side).localSocketID)
          (socketID (hostOf side)) := by
    intro n hMem side
    rw [hLocal n hMem side, carriedSocketID_socketID]
    exact .refl _
  have hRun :=
    Run.cons hStep₁
      (Run.cons hStep₂ (Run.cons hStep₃ (Run.nil n₃)))
  have hCon : (n₃.node .left).connectbuf first = some con₃ := by
    rw [hN₃]
    exact
      SlotTable.set_self (hosts.node .left).connectbuf first
        con₃
  refine
    ⟨_, n₃, con₃, hRun, hCon, hStatus,
      (handshake_agreement hosts_start hRun ?_).1 .left first
        con₃ hCon hStatus⟩
  intro tr hMem
  simp only [List.mem_cons, List.not_mem_nil, or_false]
    at hMem
  rcases hMem with rfl | rfl | rfl
  · exact
      { carried := hCarried hosts (by simp)
        opens := by
          intro _ _ _ _ hEvent
          cases hEvent
          exact .refl _
        types := by simp
        notClosed := fun _ => id }
  · exact
      { carried := hCarried n₁ (by simp)
        opens := by simp
        types := by simp
        notClosed := fun _ => id }
  · exact
      { carried := hCarried n₂ (by simp)
        opens := by simp
        types := by simp
        notClosed := fun _ => id }

end ML

end NapaBaselibs
