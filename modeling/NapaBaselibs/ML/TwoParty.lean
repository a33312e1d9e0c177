import NapaBaselibs.Lib.Network
import NapaBaselibs.ML.Sample

/-
  Two endpoints that talk to each other.

  Each is a node with a host of its own.  Every datagram that
  arrives at one carries a packet that the other has handed
  to its output queue; it may arrive late, more than once or
  never.  What the queue retransmits was handed to it before,
  so a retransmission is one more arrival.

  Key definitions include:
    * `Side`
    * `PartyStep`, `twoParty`, `PartyTrace`
    * `TwoPartyStart`
    * `Event.packetType`
    * `Arrives`

  Key theorems include:
    * `NodeStep.packetType`
    * `exists_arrives`
-/

------------------------------------------------------------
-- The System
------------------------------------------------------------

namespace NapaBaselibs

namespace ML

variable {σ α : Type}

/- The two endpoints. -/
inductive Side where
  | left
  | right
deriving DecidableEq, Repr

namespace Side

/- The peer. -/
def other : Side → Side
| left => right
| right => left

@[simp] theorem other_other (side : Side) :
    side.other.other = side := by
  cases side <;> rfl

end Side

/- The application may have registered other callbacks. -/
structure SameButCallbacks
    (s s' : Endpoint σ) : Prop where
  connectbuf : s'.connectbuf = s.connectbuf
  recvdatabuf : s'.recvdatabuf = s.recvdatabuf
  natTraversal : s'.natTraversal = s.natTraversal
  localSocketID : s'.localSocketID = s.localSocketID
  net : s'.net = s.net

theorem SameButCallbacks.refl
    (s : Endpoint σ) :
    SameButCallbacks s s :=
  ⟨rfl, rfl, rfl, rfl, rfl⟩

/- An event, and what was registered before it. -/
def PartyStep
    (p : Platform)
    (T : Transport σ α)
    (s : Endpoint σ)
    (e : Event α)
    (outputs : List Output)
    (s' : Endpoint σ) : Prop :=
  ∃ s₁, SameButCallbacks s s₁ ∧
    NodeStep p T s₁ e outputs s'

/-
  Two nodes with a network between them.  A datagram that
  arrives is the datagram of a packet the other has sent.
-/
def twoParty
    (p : Side → Platform)
    (T : Transport σ α) :
    NetSystem Side (Endpoint σ) (Event α) Output Packet where
  step side := PartyStep (p side) T
  emits := packets
  possible side sent e outputs :=
    (∀ input r, e = .recvPkg input r →
      ∃ pkt ∈ sent side.other,
        r.datagram = pkt.datagram) ∧
      ∀ pkt ∈ retransmissions outputs, pkt ∈ sent side

/- The transitions of a run of the two. -/
abbrev PartyTrace (σ α : Type) :=
  List
    (Transition (Network Side (Endpoint σ) Packet)
      (Side × Event α) Output)

/- Both are initialised and nothing has been sent. -/
structure TwoPartyStart
    (s : Network Side (Endpoint σ) Packet) : Prop where
  initial : ∀ side, (s.node side).Initial
  sent : ∀ side, s.sent side = []

------------------------------------------------------------
-- Where Packets Come From
------------------------------------------------------------

/- The type of the packets that an event can send. -/
def Event.packetType : Event α → UInt8
| .sendData _ _ _ _ msgtype => msgtype
| .keepalive _ _ => msgTypeMlKeepalive
| .pktRecvTimeout _ _ | .lastPktRecvTimeout _ _ => mlNackMsg
| _ => mlConMsg

/- All packets among the outputs are of the type. -/
def PacketsOfType
    (msgType : UInt8)
    (outputs : List Output) : Prop :=
  ∀ pkt ∈ packets outputs, pkt.header.msgType = msgType

theorem packetsOfType_of_isPacket
    {job : SendJob}
    {outputs : List Output}
    (hPackets :
      ∀ output ∈ outputs, ∃ pkt answer,
        output = .packet pkt answer ∧
          job.IsPacketWithin pkt) :
    PacketsOfType job.msgType outputs := by
  intro pkt hMem
  rcases mem_packets_iff.mp hMem with ⟨answer, hIn⟩
  rcases hPackets _ hIn with ⟨other, _, hEq, hPacket⟩
  rcases hPacket.isPacket with ⟨_, _, _, _, _, rfl⟩
  cases hEq
  rfl

/-
  The packets are connection messages, and each goes over an
  entry that is live in the given state.
-/
def ConnMsgs
    (p : Platform)
    (localSocketID : SocketID)
    (s : Endpoint σ)
    (outputs : List Output) : Prop :=
  ∀ pkt ∈ packets outputs,
    ∃ (conId : ConId) (con : ConnectData)
        (externalConnectionID : Int32)
        (command : ConMsgType),
      s.connectbuf conId = some con ∧
        ConnPacket p localSocketID conId externalConnectionID
          command pkt

theorem ConnMsgs.packetsOfType
    {p : Platform}
    {localSocketID : SocketID}
    {s : Endpoint σ}
    {outputs : List Output}
    (hMsgs : ConnMsgs p localSocketID s outputs) :
    PacketsOfType mlConMsg outputs := by
  intro pkt hMem
  rcases hMsgs pkt hMem with ⟨_, _, _, _, _, hPacket⟩
  exact hPacket.msgType

theorem connMsgs_of_connPackets
    {p : Platform}
    {localSocketID : SocketID}
    {s : Endpoint σ}
    {conId : ConId}
    {con : ConnectData}
    {externalConnectionID : Int32}
    {command : ConMsgType}
    {outputs : List Output}
    (hCon : s.connectbuf conId = some con)
    (hPackets :
      ConnPackets p localSocketID conId externalConnectionID
        command outputs) :
    ConnMsgs p localSocketID s outputs := by
  intro pkt hMem
  rcases mem_packets_iff.mp hMem with ⟨answer, hIn⟩
  rcases hPackets _ hIn with ⟨other, _, hEq, hPacket⟩
  cases hEq
  exact ⟨conId, con, _, _, hCon, hPacket⟩

theorem connMsgs_of_connSent
    {p : Platform}
    {s s' : Endpoint σ}
    {conId : ConId}
    {con : ConnectData}
    {command : ConMsgType}
    {outputs : List Output}
    (hSent : ConnSent p s s' conId con command outputs) :
    ConnMsgs p s.localSocketID s' outputs := by
  rcases hSent with ⟨⟨con', net, rfl, _⟩, hPackets⟩
  exact
    connMsgs_of_connPackets
      (SlotTable.set_self s.connectbuf conId con') hPackets

theorem connMsgs_of_nil
    {p : Platform}
    {localSocketID : SocketID}
    {s : Endpoint σ}
    {outputs : List Output}
    (hNone : packets outputs = []) :
    ConnMsgs p localSocketID s outputs := by
  intro pkt hMem
  rw [hNone] at hMem
  cases hMem

theorem ConnMsgs.append
    {p : Platform}
    {localSocketID : SocketID}
    {s : Endpoint σ}
    {first second : List Output}
    (hFirst : ConnMsgs p localSocketID s first)
    (hSecond : ConnMsgs p localSocketID s second) :
    ConnMsgs p localSocketID s (first ++ second) := by
  intro pkt hMem
  rw [packets_append] at hMem
  rcases List.mem_append.mp hMem with hIn | hIn
  · exact hFirst pkt hIn
  · exact hSecond pkt hIn

/- Without packets there is nothing to show. -/
theorem packets_eq_nil
    {outputs : List Output}
    (hNone :
      ∀ output ∈ outputs, ∀ pkt answer,
        output ≠ .packet pkt answer) :
    packets outputs = [] := by
  rw [List.eq_nil_iff_forall_not_mem]
  intro pkt hMem
  rcases mem_packets_iff.mp hMem with ⟨answer, hIn⟩
  exact absurd rfl (hNone _ hIn pkt answer)

theorem packetsOfType_of_none
    {msgType : UInt8}
    {outputs : List Output}
    (hNone :
      ∀ output ∈ outputs, ∀ pkt answer,
        output ≠ .packet pkt answer) :
    PacketsOfType msgType outputs := by
  intro pkt hMem
  rw [packets_eq_nil hNone] at hMem
  cases hMem

theorem PacketsOfType.append
    {msgType : UInt8}
    {first second : List Output}
    (hFirst : PacketsOfType msgType first)
    (hSecond : PacketsOfType msgType second) :
    PacketsOfType msgType (first ++ second) := by
  intro pkt hMem
  rw [packets_append] at hMem
  rcases List.mem_append.mp hMem with hIn | hIn
  · exact hFirst pkt hIn
  · exact hSecond pkt hIn

/- What is announced calls callbacks and nothing else. -/
theorem Endpoint.calls_of_announce
    {s : Endpoint σ}
    {conId : ConId}
    {con : ConnectData}
    {output : Output}
    (hMem : output ∈ s.announce conId con) :
    output = .receiveConnection conId ∨
      ∃ cb, output = .connectionCb cb conId := by
  unfold announce at hMem
  rcases List.mem_append.mp hMem with hFirst | hLast
  · split at hFirst
    · exact Or.inl (List.mem_singleton.mp hFirst)
    · cases hFirst
  · rcases List.mem_map.mp hLast with ⟨cb, _, hOutput⟩
    exact Or.inr ⟨cb, hOutput.symm⟩

/- No packet is sent or retransmitted by announcing. -/
theorem Endpoint.silent_announce
    (s : Endpoint σ)
    (conId : ConId)
    (con : ConnectData) :
    packets (s.announce conId con) = [] ∧
      retransmissions (s.announce conId con) = [] ∧
      deliveries (s.announce conId con) = [] := by
  unfold packets retransmissions deliveries
  simp only [List.filterMap_eq_nil_iff]
  refine
    ⟨fun output hMem => ?_, fun output hMem => ?_,
      fun output hMem => ?_⟩ <;>
    rcases Endpoint.calls_of_announce hMem with
      rfl | ⟨cb, rfl⟩ <;>
    rfl

theorem sendMsg_packetType
    {T : Transport σ α}
    {input : SendInput α}
    {s s' : Endpoint σ}
    {conId : ConId}
    {msgType : UInt8}
    {msg : List UInt8}
    {msgLen : Int}
    {truncable : Bool}
    {outputs : List Output}
    (hSend :
      sendMsg T input s conId msgType msg msgLen truncable =
        .ok (s', outputs)) :
    PacketsOfType msgType outputs := by
  rcases sendMsg_ok hSend with
    ⟨con, _, _, _, _, _, hPackets⟩
  exact packetsOfType_of_isPacket hPackets

/- A received datagram is answered with connection messages. -/
theorem recvPkg_connMsgs
    {p : Platform}
    {T : Transport σ α}
    {input : SendInput α}
    {s s' : Endpoint σ}
    {r : Reception}
    {outputs : List Output}
    (hRecv : recvPkg p T input s r = .ok (s', outputs)) :
    ConnMsgs p s.localSocketID s' outputs := by
  cases recvPkg_effect hRecv with
  | dropped => exact connMsgs_of_nil packets_nil
  | stun _ hStun =>
      unfold recvStunMsg at hStun
      split at hStun
      · cases hStun
        exact connMsgs_of_nil packets_nil
      · cases hStun
        exact connMsgs_of_nil (packets_eq_nil (by simp))
  | connection _ hEffect =>
      cases hEffect with
      | ignored => exact connMsgs_of_nil packets_nil
      | invited _ _ hSent => exact connMsgs_of_connSent hSent
      | invitedNew _ _ _ hSent =>
          exact connMsgs_of_connSent hSent
      | connected _ _ _ _ hStored hPackets =>
          rcases hStored with ⟨con', net, rfl, _⟩
          refine .append ?_ ?_
          · exact
              connMsgs_of_connPackets
                (SlotTable.set_self s.connectbuf _ con')
                hPackets
          · exact connMsgs_of_nil (s.silent_announce _ _).1
      | reconnected _ _ _ _ hSent =>
          exact connMsgs_of_connSent hSent
      | readied =>
          exact connMsgs_of_nil (s.silent_announce _ _).1
  | nack _ =>
      apply connMsgs_of_nil
      apply packets_eq_nil
      intro output hMem pkt answer
      rcases List.mem_map.mp hMem with ⟨_, _, rfl⟩
      simp
  | data _ hData =>
      apply connMsgs_of_nil
      rcases recvDataMsg_cases hData with
        ⟨_, rfl⟩ | ⟨_, _, _, _, _, _, _, hEnter⟩
      · exact packets_nil
      · rcases Endpoint.enterPacket_cases hEnter with
          ⟨_, _, rfl⟩ |
          ⟨_, _, timers, calls, _, hFragment, _, hCalls, _,
            rfl⟩
        · exact packets_nil
        · apply packets_eq_nil
          intro output hMem pkt answer
          rcases List.mem_append.mp hMem with
            hTimer | hCall
          · rcases
              RecvData.recvFragment_timers hFragment output
                hTimer with
              ⟨arg, rfl⟩
            simp
          · rcases hCalls with rfl | ⟨_, rfl⟩
            · cases hCall
            · rw [List.mem_singleton] at hCall
              rw [hCall]
              simp

/- So is a call that opens a connection. -/
theorem mlOpenConnection_connMsgs
    {p : Platform}
    {s s' : Endpoint σ}
    {externalSocketID : SocketID}
    {outputs : List Output}
    (hEffect :
      MlOpenConnectionEffect p s externalSocketID s'
        outputs) :
    ConnMsgs p s.localSocketID s' outputs := by
  cases hEffect with
  | refused => exact connMsgs_of_nil packets_nil
  | joined _ _ _ _ _ hOutputs =>
      apply connMsgs_of_nil
      apply packets_eq_nil
      intro output hMem pkt answer
      rcases hOutputs output hMem with ⟨_, rfl⟩ | ⟨_, rfl⟩
      · simp
      · simp
  | opened _ _ hTimer hSent =>
      refine .append ?_ (connMsgs_of_connSent hSent)
      apply connMsgs_of_nil
      apply packets_eq_nil
      intro output hMem pkt answer
      rcases hTimer output hMem with ⟨_, rfl⟩
      simp

/- And so is the retry timer. -/
theorem pmtuTimeoutCb_connMsgs
    {p : Platform}
    {s s' : Endpoint σ}
    {conId : ConId}
    {outputs : List Output}
    (hEffect : PmtuTimeoutEffect p s conId s' outputs) :
    ConnMsgs p s.localSocketID s' outputs := by
  cases hEffect with
  | gone _ => exact connMsgs_of_nil packets_nil
  | done _ _ => exact connMsgs_of_nil packets_nil
  | retried _ _ hSent => exact connMsgs_of_connSent hSent
  | gaveUp _ _ _ _ hOutputs =>
      apply connMsgs_of_nil
      apply packets_eq_nil
      rcases hOutputs with rfl | rfl
      · simp
      · simp

/- The gap timers send negative acknowledgements. -/
theorem pktRecvTimeoutCb_packetType
    {p : Platform}
    {T : Transport σ α}
    {input : SendInput α}
    {s s' : Endpoint σ}
    {arg : PktRecvTimeoutArg}
    {outputs : List Output}
    (hTimer :
      pktRecvTimeoutCb p T input s arg =
        .ok (s', outputs)) :
    PacketsOfType mlNackMsg outputs := by
  have hNone : PacketsOfType mlNackMsg [] :=
    packetsOfType_of_none (by simp)
  unfold pktRecvTimeoutCb at hTimer
  split at hTimer
  · cases hTimer
    exact hNone
  · simp only at hTimer
    split at hTimer
    · cases hTimer
      exact hNone
    · split at hTimer
      · cases hTimer
        exact hNone
      · split at hTimer
        · cases hTimer
        · rename_i hSend
          have hType := sendMsg_packetType hSend
          split at hTimer
          · cases hTimer
            exact
              hType.append (packetsOfType_of_none (by simp))
          · cases hTimer
            exact hType

theorem lastPktRecvTimeoutCb_packetType
    {p : Platform}
    {T : Transport σ α}
    {input : SendInput α}
    {s s' : Endpoint σ}
    {recvId : RecvId}
    {outputs : List Output}
    (hTimer :
      lastPktRecvTimeoutCb p T input s recvId =
        .ok (s', outputs)) :
    PacketsOfType mlNackMsg outputs := by
  have hNone : PacketsOfType mlNackMsg [] :=
    packetsOfType_of_none (by simp)
  unfold lastPktRecvTimeoutCb at hTimer
  split at hTimer
  · cases hTimer
    exact hNone
  · simp only at hTimer
    split at hTimer
    · cases hTimer
      exact hNone
    · exact sendMsg_packetType hTimer

/- The packets of a step have the type that its event sends. -/
theorem NodeStep.packetType
    {p : Platform}
    {T : Transport σ α}
    {s s' : Endpoint σ}
    {e : Event α}
    {outputs : List Output}
    (hStep : NodeStep p T s e outputs s') :
    PacketsOfType e.packetType outputs := by
  rcases hStep with ⟨_, hExec⟩
  cases e with
  | recvPkg input r =>
      exact (recvPkg_connMsgs hExec).packetsOfType
  | openConnection input externalSocketID cb keepalive =>
      unfold exec at hExec
      simp only at hExec
      split at hExec
      · cases hExec
      · rename_i hOpen
        cases hExec
        exact
          (mlOpenConnection_connMsgs
            (mlOpenConnection_effect hOpen)).packetsOfType
  | closeConnection connectionID =>
      unfold exec at hExec
      simp only at hExec
      split at hExec
      · cases hExec
      · cases hExec
        exact packetsOfType_of_none (by simp)
  | sendData input connectionID sendbuf bufsize msgtype =>
      rcases mlSendData_cases hExec with
        ⟨_, rfl⟩ | ⟨conId, con, _, _, _, hSend⟩
      · exact packetsOfType_of_none (by simp)
      · exact sendMsg_packetType hSend
  | pmtuTimeout input conId =>
      exact
        (pmtuTimeoutCb_connMsgs
          (pmtuTimeoutCb_effect hExec)).packetsOfType
  | keepalive input peer =>
      rcases keepaliveFn_cases hExec with
        ⟨_, hTimers⟩ | ⟨conId, con, sent, _, _, hSend, rfl⟩
      · apply packetsOfType_of_none
        intro output hMem pkt answer
        rcases hTimers output hMem with ⟨_, rfl⟩
        simp
      · exact
          (sendMsg_packetType hSend).append
            (packetsOfType_of_none (by simp))
  | recvTimeout recvId =>
      cases hExec
      exact packetsOfType_of_none (by simp)
  | pktRecvTimeout input arg =>
      exact pktRecvTimeoutCb_packetType hExec
  | lastPktRecvTimeout input recvId =>
      exact lastPktRecvTimeoutCb_packetType hExec

------------------------------------------------------------
-- Arrivals
------------------------------------------------------------

/- The event hands the packet to the output queue. -/
def HandsOver
    (who : Side)
    (e : Event α)
    (pkt : Packet)
    (tr : Transition (Network Side (Endpoint σ) Packet)
      (Side × Event α) Output) : Prop :=
  tr.event = (who, e) ∧ pkt ∈ packets tr.outputs

/-
  A packet arrives: a datagram is received that carries it,
  and the event that handed it over lies in the past.
-/
structure Arrives
    (earlier : PartyTrace σ α)
    (tr : Transition (Network Side (Endpoint σ) Packet)
      (Side × Event α) Output)
    (cause : Event α)
    (pkt : Packet) : Prop where
  received :
    ∃ input r, tr.event.2 = .recvPkg input r ∧
      r.datagram = pkt.datagram
  handedOver :
    ∃ sending ∈ earlier,
      HandsOver tr.event.1.other cause pkt sending

/- Every datagram received is the arrival of a packet. -/
theorem exists_arrives
    {p : Side → Platform}
    {T : Transport σ α}
    {s s' : Network Side (Endpoint σ) Packet}
    {earlier later : PartyTrace σ α}
    {tr : Transition (Network Side (Endpoint σ) Packet)
      (Side × Event α) Output}
    {input : SendInput α}
    {r : Reception}
    (hStart : TwoPartyStart s)
    (hRun :
      Run (twoParty p T).Step s (earlier ++ tr :: later) s')
    (hRecv : tr.event.2 = .recvPkg input r) :
    ∃ cause pkt,
      Arrives earlier tr cause pkt ∧
        r.datagram = pkt.datagram ∧
        pkt.header.msgType = cause.packetType := by
  rcases hRun.split with ⟨u, hEarlier, hRest⟩
  cases hRest with
  | @cons _ v _ e outputs _ hStep _ =>
      rcases hStep.possible.1 input r hRecv with
        ⟨pkt, hSent, hDatagram⟩
      rcases NetSystem.mem_sent hEarlier hSent with
        hOld | ⟨sending, hMem, hSender, hEmits⟩
      · rw [hStart.sent] at hOld
        cases hOld
      · rcases (hEarlier.mem_step hMem).step with
          ⟨_, _, hSending⟩
        have hType := NodeStep.packetType hSending pkt hEmits
        refine
          ⟨sending.event.2, pkt,
            ⟨⟨input, r, hRecv, hDatagram⟩, sending, hMem,
              ?_, hEmits⟩, hDatagram, hType⟩
        rw [← hSender]

------------------------------------------------------------
-- A Handshake Of Two Hosts
------------------------------------------------------------

namespace Sample

/- The number of a host of the sample. -/
def hostOf : Side → UInt8
| .left => 1
| .right => 2

/- Two hosts after initialisation. -/
def hosts : Network Side (Endpoint Unit) Packet where
  node side :=
    { node with localSocketID := socketID (hostOf side) }
  sent _ := []

theorem hosts_start : TwoPartyStart hosts :=
  ⟨fun _ => ⟨rfl, rfl⟩, fun _ => rfl⟩

/- The two of them with the scripted output queue. -/
abbrev party :
    NetSystem Side (Endpoint Unit) (Event ErrorCode) Output
      Packet :=
  twoParty (fun _ => platform) Transport.scripted

/- The network after a step of one of the two. -/
def Network.after
    (s : Network Side (Endpoint Unit) Packet)
    (who : Side)
    (s' : Endpoint Unit)
    (outputs : List Output) :
    Network Side (Endpoint Unit) Packet where
  node side := if side = who then s' else s.node side
  sent side :=
    if side = who then s.sent side ++ packets outputs
    else s.sent side

/-
  A step of a node is a step of the network when it only
  receives what has been sent and retransmits nothing.
-/
theorem step_after
    {s : Network Side (Endpoint Unit) Packet}
    {who : Side}
    {e : Event ErrorCode}
    {outputs : List Output}
    {s' : Endpoint Unit}
    (hStep :
      NodeStep platform Transport.scripted (s.node who) e
        outputs s')
    (hRecv :
      ∀ input r, e = .recvPkg input r →
        ∃ pkt ∈ s.sent who.other,
          r.datagram = pkt.datagram)
    (hResent : retransmissions outputs = []) :
    party.Step s (who, e) outputs
      (Network.after s who s' outputs) := by
  constructor
  · refine ⟨s.node who, .refl _, ?_⟩
    rw [show (Network.after s who s' outputs).node who = s'
      from if_pos rfl]
    exact hStep
  · refine ⟨hRecv, ?_⟩
    rw [hResent]
    simp
  · exact if_pos rfl
  · intro side hNe
    exact if_neg hNe
  · intro side hNe
    exact if_neg hNe

/- A whole connection message of one of the hosts. -/
structure IsConnPkt
    (host : UInt8)
    (command : ConMsgType)
    (localConId remoteConId : Int32)
    (pkt : Packet) : Prop where
  offset : pkt.header.offset = 0
  msgLength : pkt.header.msgLength = 1349
  localConId : pkt.header.localConId = localConId
  remoteConId : pkt.header.remoteConId = remoteConId
  msgType : pkt.header.msgType = mlConMsg
  lenMonDataHdr : pkt.header.lenMonDataHdr = 0
  lenMonPacketHdr : pkt.header.lenMonPacketHdr = 0
  monDataHdr : pkt.monDataHdr = []
  monPktHdr : pkt.monPktHdr = []
  length : pkt.payload.length = 1349
  payload :
    ∃ rest, pkt.payload =
      ConnMsg.encode platform
        { comandType := command.code
          pmtuSize := 1372
          sockId := socketID host } ++ rest

/- What a datagram with such a message is taken for. -/
theorem IsConnPkt.exists_reception
    {host : UInt8}
    {command : ConMsgType}
    {localConId remoteConId : Int32}
    {pkt : Packet}
    (hPkt :
      IsConnPkt host command localConId remoteConId pkt) :
    ∃ r : Reception,
      r.datagram = pkt.datagram ∧
        r.classify = .connection ∧
        r.command platform = some command ∧
        r.recvAddr = address host ∧
        r.msgH.localConId = localConId ∧
        r.msgH.remoteConId = remoteConId ∧
        r.conMsg platform =
          { comandType := command.code
            pmtuSize := 1372
            sockId := socketID host } := by
  have hFits : pkt.datagram.length ≤ msgbufSize := by
    simp [Packet.datagram, hPkt.monDataHdr, hPkt.monPktHdr,
      hPkt.length, msgHeaderSize, msgbufSize]
  rcases hPkt.payload with ⟨rest, hPayload⟩
  refine ⟨pkt.reception (address host) hFits, rfl, ?_⟩
  have hDatagram :
      (pkt.reception (address host) hFits).datagram =
        pkt.datagram := rfl
  have hAddr :
      (pkt.reception (address host) hFits).recvAddr =
        address host := rfl
  generalize pkt.reception (address host) hFits = r at *
  have hPktHdr :
      pkt.header.lenMonPacketHdr.toNat =
        pkt.monPktHdr.length := by
    rw [hPkt.lenMonPacketHdr, hPkt.monPktHdr]
    rfl
  have hDataHdr :
      pkt.header.lenMonDataHdr.toNat =
        pkt.monDataHdr.length := by
    rw [hPkt.lenMonDataHdr, hPkt.monDataHdr]
    rfl
  have hClass : r.classify = .connection := by
    rw [Reception.classify_datagram hDatagram hPktHdr
      (by rw [hPkt.offset, hPkt.msgLength]; decide)
      (by rw [hPkt.msgLength]; decide)
      (by rw [hPkt.msgLength]; decide), if_pos hPkt.msgType]
  rcases
    Reception.command_datagram hClass hDatagram hPktHdr
      hDataHdr hPayload with
    ⟨hMsg, hCommand⟩
  rw [carriedSocketID_socketID] at hMsg hCommand
  refine ⟨hClass, hCommand hAddr, hAddr, ?_, ?_, hMsg⟩
  · rw [Reception.msgH_datagram hDatagram]
    exact hPkt.localConId
  · rw [Reception.msgH_datagram hDatagram]
    exact hPkt.remoteConId

/- A host with room in its packets sends such a message. -/
theorem exists_connPkt
    {s : Endpoint Unit}
    {con : ConnectData}
    {host : UInt8}
    (command : ConMsgType)
    (hHost : s.localSocketID = socketID host)
    (hCon : s.connectbuf first = some con)
    (hPmtu : con.pmtusize = pmtuDslSlim) :
    ∃ con' pkt,
      sendConnMsgWithPmtuDiscovery platform
          Transport.scripted once s first pmtuDslSlim
          command =
        .ok (s.setConNet first con' (),
          [.packet pkt .ok]) ∧
        con.SameLink con' ∧
        con'.pmtusize = pmtuDslSlim ∧
        con.SameKeepalive con' ∧
        IsConnPkt host command 0 con.externalConnectionID
          pkt := by
  rcases
    sendConnMsgWithPmtuDiscovery_oncePacket (p := platform)
      command hCon
      (by rw [hPmtu]; decide)
      (by rw [hPmtu]; decide)
      (show (connMsgSize : Int) ≤ pmtuDslSlim by decide) with
    ⟨con', buf, hSend, hLink, hSame, hKeepalive⟩
  rw [hPmtu] at hSend
  have hLen :
      (min (pmtuDslSlim - msgHeaderSize)
        pmtuDslSlim).toNat = 1349 := by
    decide
  have hLength : toUInt32 ((1349 : Nat) : Int) = 1349 := by
    decide
  rw [hLen] at hSend
  refine
    ⟨con', _, hSend, hLink, hSame.trans hPmtu, hKeepalive,
      rfl, hLength, rfl, rfl, rfl, rfl, rfl, rfl, rfl, ?_,
      ?_⟩
  · simp only [SendJob.packet, length_readBlock]
  · have hEncoded :
        (ConnMsg.encode platform
          { comandType := command.code
            pmtuSize := toUInt32 pmtuDslSlim
            sockId := s.localSocketID }).length ≤ 1349 := by
      rw [ConnMsg.length_encode]
      decide
    rw [hHost] at hEncoded ⊢
    rcases
      exists_readBlock_append _ (buf.drop connMsgSize)
        onceAttempt.beyond hEncoded with
      ⟨tail, hTail⟩
    refine ⟨tail, ?_⟩
    have hPmtuSize : 1372 = toUInt32 pmtuDslSlim := by
      decide
    rw [hPmtuSize, ← hTail]
    simp only [SendJob.packet, ConnectData.sendJob,
      ByteSeq.overlay_zero, ConnMsg.length_encode]

/- The entry of the other host, and nothing else. -/
structure OnlyEntry
    (s : Endpoint Unit)
    (host other : UInt8)
    (con : ConnectData) : Prop where
  localSocketID : s.localSocketID = socketID host
  connectbuf :
    s.connectbuf = SlotTable.empty.set first con
  externalSocketID : con.externalSocketID = socketID other
  pmtusize : con.pmtusize = pmtuDslSlim

/- A host opens a connection. -/
theorem exists_inviting
    {s : Endpoint Unit}
    {host other : UInt8}
    (hHost : s.localSocketID = socketID host)
    (hNat : s.natTraversal = true)
    (hEmpty : s.connectbuf = SlotTable.empty)
    (keepalive : Int) :
    ∃ con pkt timer,
      exec platform Transport.scripted s
          (.openConnection once (socketID other) ⟨0, 0⟩
            keepalive) =
        .ok (s.setConNet first con (),
          timer ++ [.packet pkt .ok]) ∧
        (∀ output ∈ timer,
          ∃ peer, output = .keepaliveTimer peer) ∧
        OnlyEntry (s.setConNet first con ()) host other con ∧
        con.status = .invite ∧ con.keepalive = keepalive ∧
        con.keepaliveSeq = 0 ∧
        IsConnPkt host .invite 0 (-1) pkt := by
  have hNone :
      s.connectionOf platform (socketID other) = none := by
    unfold Endpoint.connectionOf
    rw [hEmpty]
    exact SlotTable.find?_empty _
  have hFree : s.connectbuf.firstFree? = some first := by
    rw [hEmpty]
    exact firstFree?_connectbuf
  have hNew :
      ∃ new : ConnectData,
        ConnectData.ofOpen platform s.localSocketID
          (socketID other) ⟨0, 0⟩ keepalive = new ∧
        new.externalSocketID = socketID other ∧
        new.status = .invite ∧
        new.pmtusize = pmtuDslSlim ∧
        new.keepalive = keepalive ∧
        new.keepaliveSeq = 0 ∧
        new.externalConnectionID = -1 :=
    ⟨_, rfl, rfl, rfl, rfl, rfl, rfl, rfl⟩
  rcases hNew with
    ⟨new, hNew, hSocket, hStatus, hPmtu, hKeep, hSeq,
      hExternal⟩
  rcases
    exists_connPkt (s := s.setCon first new) .invite hHost
      (SlotTable.set_self s.connectbuf first new) hPmtu with
    ⟨con, pkt, hSend, hLink, hSame, hKeepalive, hPkt⟩
  rw [hExternal] at hPkt
  refine
    ⟨con, pkt, new.setupKeepalive, ?_,
      ConnectData.setupKeepalive_outputs new,
      ⟨hHost, ?_, hLink.externalSocketID.trans hSocket,
        hSame⟩,
      hLink.status.trans hStatus,
      hKeepalive.keepalive.trans hKeep,
      hKeepalive.keepaliveSeq.trans hSeq, hPkt⟩
  · unfold exec mlOpenConnection
    simp only [hNat, hNone, hFree, hNew, hPmtu, hSend,
      Bool.true_eq_false, if_false,
      Endpoint.setCon_setConNet]
  · rw [← hEmpty]
    rfl

/- The other host receives the `INVITE`. -/
theorem exists_invited
    {s : Endpoint Unit}
    {host other : UInt8}
    {localConId : Int32}
    {pkt : Packet}
    (hHost : s.localSocketID = socketID host)
    (hEmpty : s.connectbuf = SlotTable.empty)
    (hPkt : IsConnPkt other .invite localConId (-1) pkt) :
    ∃ r con answer,
      r.datagram = pkt.datagram ∧
        exec platform Transport.scripted s
            (.recvPkg once r) =
          .ok (s.setConNet first con (),
            [.packet answer .ok]) ∧
        OnlyEntry (s.setConNet first con ()) host other con ∧
        con.status = .connect ∧
        IsConnPkt host .connect 0 localConId answer := by
  rcases hPkt.exists_reception with
    ⟨r, hDatagram, hClass, hCommand, hAddr, hLocal, _, hMsg⟩
  have hNone :
      s.connectionOf platform (socketID other) = none := by
    unfold Endpoint.connectionOf
    rw [hEmpty]
    exact SlotTable.find?_empty _
  have hFree : s.connectbuf.firstFree? = some first := by
    rw [hEmpty]
    exact firstFree?_connectbuf
  have hSize :
      toCInt ((1372 : UInt32).toNat : Int) = pmtuDslSlim :=
    toCInt_eq_self (by decide) (by decide)
  have hNew :
      ∃ new : ConnectData,
        { ConnectData.ofInvite platform r.msgH
            { comandType := ConMsgType.invite.code
              pmtuSize := 1372
              sockId := socketID other } r.recvAddr with
          status := .connect } = new ∧
        new.externalSocketID = socketID other ∧
        new.status = .connect ∧
        new.pmtusize = pmtuDslSlim ∧
        new.externalConnectionID = localConId :=
    ⟨_, rfl, rfl, rfl, by
      simp only [ConnectData.ofInvite, hSize], hLocal⟩
  rcases hNew with
    ⟨new, hNew, hSocket, hStatus, hPmtu, hExternal⟩
  rcases
    exists_connPkt (s := s.setCon first new) .connect hHost
      (SlotTable.set_self s.connectbuf first new) hPmtu with
    ⟨con, answer, hSend, hLink, hSame, _, hAnswer⟩
  rw [hExternal] at hAnswer
  refine
    ⟨r, con, answer, hDatagram, ?_,
      ⟨hHost, ?_, hLink.externalSocketID.trans hSocket,
        hSame⟩,
      hLink.status.trans hStatus, hAnswer⟩
  · unfold exec
    simp only [recvPkg_connection hClass, hCommand, hMsg]
    unfold recvInvite
    simp only [hNone, hFree, hSize]
    rw [hNew, hSend, Endpoint.setCon_setConNet]
  · rw [← hEmpty]
    rfl

/- A `CONNECT` for an entry that is waiting for it. -/
theorem recvConnect_of_invite
    {p : Platform}
    {s s' : Endpoint Unit}
    {con con' : ConnectData}
    {msgH : MsgHeader}
    {conMsg : ConnMsg}
    {sent : List Output}
    (hId :
      connectbufAt msgH.remoteConId.toInt = .ok first)
    (hCon : s.connectbuf first = some con)
    (hStatus : con.status = .invite)
    (hSend :
      sendConnMsgWithPmtuDiscovery p Transport.scripted once
          (s.setCon first
            { con with
              externalConnectionID := msgH.localConId
              status := .ready })
          first (toCInt conMsg.pmtuSize.toNat) .ready =
        .ok (s', sent))
    (hCon' : s'.connectbuf first = some con') :
    recvConnect p Transport.scripted once s msgH conMsg =
      .ok
        (s'.setCon first { con' with connectionCbs := [] },
          sent ++ s'.announce first con') := by
  unfold recvConnect
  simp only [hId, hCon, hStatus, if_true, hSend, derefCon,
    hCon']

/- The first host receives the `CONNECT` and is ready. -/
theorem exists_connected
    {s : Endpoint Unit}
    {host other : UInt8}
    {con : ConnectData}
    {localConId : Int32}
    {pkt : Packet}
    (hEntry : OnlyEntry s host other con)
    (hStatus : con.status = .invite)
    (hPkt : IsConnPkt other .connect localConId 0 pkt) :
    ∃ r con' answer calls,
      r.datagram = pkt.datagram ∧
        exec platform Transport.scripted s
            (.recvPkg once r) =
          .ok (s.setConNet first con' (),
            .packet answer .ok :: calls) ∧
        packets calls = [] ∧ retransmissions calls = [] ∧
        OnlyEntry (s.setConNet first con' ()) host other
          con' ∧
        con'.status = .ready ∧
        con'.externalConnectionID = localConId ∧
        con.SameKeepalive con' := by
  rcases hPkt.exists_reception with
    ⟨r, hDatagram, hClass, hCommand, hAddr, hLocal, hRemote,
      hMsg⟩
  have hCon : s.connectbuf first = some con := by
    rw [hEntry.connectbuf]
    exact SlotTable.set_self _ first con
  have hId :
      connectbufAt r.msgH.remoteConId.toInt = .ok first := by
    rw [hRemote]
    exact connectbufAt_first
  have hSize :
      toCInt ((r.conMsg platform).pmtuSize.toNat : Int) =
        pmtuDslSlim := by
    have hPmtu : (r.conMsg platform).pmtuSize = 1372 := by
      rw [hMsg]
    rw [hPmtu]
    exact toCInt_eq_self (by decide) (by decide)
  rcases
    exists_connPkt
      (s := s.setCon first
        { con with
          externalConnectionID := r.msgH.localConId
          status := .ready })
      .ready hEntry.localSocketID
      (SlotTable.set_self s.connectbuf first _)
      hEntry.pmtusize with
    ⟨con', answer, hSend, hLink, hSame, hKeepalive, _⟩
  refine
    ⟨r, { con' with connectionCbs := [] }, answer,
      s.announce first con', hDatagram, ?_, ?_, ?_,
      ⟨hEntry.localSocketID, ?_,
        hLink.externalSocketID.trans hEntry.externalSocketID,
        hSame⟩,
      hLink.status, ?_,
      ⟨hKeepalive.keepalive, hKeepalive.keepaliveSeq⟩⟩
  · unfold exec
    simp only [recvPkg_connection hClass, hCommand]
    rw [← hSize] at hSend
    rw [recvConnect_of_invite hId hCon hStatus hSend
      (SlotTable.set_self s.connectbuf first con'),
      Endpoint.setCon_setConNet, Endpoint.setConNet_setCon]
    rfl
  · exact (s.silent_announce first con').1
  · exact (s.silent_announce first con').2.1
  · rw [Endpoint.setConNet_connectbuf, hEntry.connectbuf]
    exact SlotTable.set_set ..
  · exact hLink.externalConnectionID.trans hLocal

/- The state of a host whose only entry is `con`. -/
def hostWith
    (side : Side)
    (con : ConnectData) : Endpoint Unit :=
  (hosts.node side).setConNet first con ()

theorem retransmissions_eq_nil
    {outputs : List Output}
    (hNone :
      ∀ output ∈ outputs, ∀ pkt, output ≠ .retransmit pkt) :
    retransmissions outputs = [] := by
  unfold retransmissions
  rw [List.filterMap_eq_nil_iff]
  intro output hMem
  cases output with
  | retransmit pkt => exact absurd rfl (hNone _ hMem pkt)
  | _ => rfl

/-
  The left host opens a connection to the right one, which
  answers, and the left one is ready.
-/
theorem exists_handshake
    (keepalive : Int) :
    ∃ (con₁ con₂ con₃ : ConnectData) (r₁ r₂ : Reception)
      (o₁ o₂ o₃ : List Output)
      (n₁ n₂ n₃ : Network Side (Endpoint Unit) Packet),
      n₁ = Network.after hosts .left (hostWith .left con₁)
          o₁ ∧
        n₂ = Network.after n₁ .right (hostWith .right con₂)
          o₂ ∧
        n₃ = Network.after n₂ .left (hostWith .left con₃)
          o₃ ∧
        party.Step hosts
          (.left, .openConnection once (socketID 2) ⟨0, 0⟩
            keepalive) o₁ n₁ ∧
        party.Step n₁ (.right, .recvPkg once r₁) o₂ n₂ ∧
        party.Step n₂ (.left, .recvPkg once r₂) o₃ n₃ ∧
        OnlyEntry (hostWith .right con₂) 2 1 con₂ ∧
        OnlyEntry (hostWith .left con₃) 1 2 con₃ ∧
        con₃.status = .ready ∧
        con₃.externalConnectionID = 0 ∧
        con₃.keepalive = keepalive ∧
        con₃.keepaliveSeq = 0 := by
  rcases
    exists_inviting (s := hosts.node .left)
      (show (hosts.node .left).localSocketID = socketID 1
        from rfl)
      rfl rfl keepalive with
    ⟨con₁, pkt₁, timer, hOpen, hTimer, hEntry₁, hStatus₁,
      hKeepalive₁, hSeq₁, hPkt₁⟩
  rcases
    exists_invited (s := hosts.node .right)
      (show (hosts.node .right).localSocketID = socketID 2
        from rfl)
      rfl hPkt₁ with
    ⟨r₁, con₂, pkt₂, hDatagram₁, hInvited, hEntry₂, _,
      hPkt₂⟩
  rcases exists_connected hEntry₁ hStatus₁ hPkt₂ with
    ⟨r₂, con₃, pkt₃, calls, hDatagram₂, hConnected, _,
      hResent, hEntry₃, hStatus₃, hExternal₃, hKeepalive₃⟩
  rw [Endpoint.setConNet_setConNet] at hConnected hEntry₃
  have hSent₁ :
      pkt₁ ∈ packets (timer ++ [.packet pkt₁ .ok]) :=
    mem_packets_iff.mpr ⟨.ok, by simp⟩
  have hOpening :
      NodeStep platform Transport.scripted
        (hosts.node .left)
        (.openConnection once (socketID 2) ⟨0, 0⟩ keepalive)
        (timer ++ [.packet pkt₁ .ok])
        (hostWith .left con₁) :=
    ⟨trivial, hOpen⟩
  have hAnswering :
      NodeStep platform Transport.scripted
        (hosts.node .right) (.recvPkg once r₁)
        [.packet pkt₂ .ok] (hostWith .right con₂) :=
    ⟨trivial, hInvited⟩
  have hReady :
      NodeStep platform Transport.scripted
        (hostWith .left con₁) (.recvPkg once r₂)
        (.packet pkt₃ .ok :: calls) (hostWith .left con₃) :=
    ⟨trivial, hConnected⟩
  refine
    ⟨con₁, con₂, con₃, r₁, r₂, _, _, _, _, _, _, rfl, rfl,
      rfl, step_after hOpening ?_ ?_,
      step_after hAnswering ?_ rfl,
      step_after hReady ?_ hResent, hEntry₂, hEntry₃,
      hStatus₃, hExternal₃,
      hKeepalive₃.keepalive.trans hKeepalive₁,
      hKeepalive₃.keepaliveSeq.trans hSeq₁⟩
  · intro input r hEq
    cases hEq
  · apply retransmissions_eq_nil
    intro output hMem pkt
    rcases List.mem_append.mp hMem with hFirst | hLast
    · rcases hTimer output hFirst with ⟨_, rfl⟩
      simp
    · rw [List.mem_singleton] at hLast
      rw [hLast]
      simp
  · intro input r hEq
    cases hEq
    exact ⟨pkt₁, hSent₁, hDatagram₁⟩
  · intro input r hEq
    cases hEq
    exact ⟨pkt₂, List.mem_singleton.mpr rfl, hDatagram₂⟩

end Sample

end ML

end NapaBaselibs
