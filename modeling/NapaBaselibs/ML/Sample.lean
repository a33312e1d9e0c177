import NapaBaselibs.ML.Node

/-
  A small node to run the model on: a big-endian host whose
  packets are answered as its environment says, and the
  datagrams of one peer.

  Key definitions include:
    * `Transport.scripted`
    * `Sample.platform`, `Sample.node`
    * `Sample.connReception`, `Sample.dataReception`

  Key theorems include:
    * `sendMsg_oncePacket`
    * `sendConnMsgWithPmtuDiscovery_once`
    * `Sample.recvPkg_connReception`
    * `Sample.recvPkg_dataReception`
-/

------------------------------------------------------------
-- A Scripted Output Queue
------------------------------------------------------------

namespace NapaBaselibs

namespace ML

/- An output queue that answers as it is told to. -/
def Transport.scripted : Transport Unit ErrorCode where
  queueOrSendPacket answer _ _ := some (answer, ())
  rtxPacketsFromTo _ _ _ _ _ := some []

/- One packet without monitoring headers, accepted. -/
def once : SendInput ErrorCode :=
  [⟨MonHeader.none, [⟨MonHeader.none, fun _ => 0, .ok⟩]⟩]

/- What one packet without monitoring headers gets. -/
def onceAttempt : Attempt ErrorCode :=
  ⟨MonHeader.none, fun _ => 0, .ok⟩

/- The queue accepts what its input tells it to accept. -/
def Transport.Accepts (T : Transport Unit ErrorCode) : Prop :=
  ∀ pkt, T.queueOrSendPacket .ok pkt () = some (.ok, ())

theorem accepts_scripted : Transport.scripted.Accepts :=
  fun _ => rfl

/-
  A message that is truncable, or short enough, goes out in
  one accepted packet.
-/
theorem sendMsg_acceptedPacket
    {T : Transport Unit ErrorCode}
    (hAccepts : T.Accepts)
    {s : Endpoint Unit}
    {conId : ConId}
    {con : ConnectData}
    (msgType : UInt8)
    (msg : List UInt8)
    {msgLen : Int}
    {truncable : Bool}
    (hCon : s.connectbuf conId = some con)
    (hLow : msgHeaderSize ≤ con.pmtusize)
    (hHigh : con.pmtusize ≤ pmtuMax)
    (hLen : 0 ≤ msgLen)
    (hOne :
      truncable = true ∨
        msgLen ≤ con.pmtusize - msgHeaderSize) :
    sendMsg T once s conId msgType msg msgLen truncable =
      .ok
        (s.setConNet conId
          { con with seqnr := con.seqnr + 1 } (),
          [.packet
            ((con.sendJob conId msgType msg msgLen
                truncable).packet 0 [] onceAttempt 0
              (min (con.pmtusize - msgHeaderSize)
                msgLen).toNat) .ok]) := by
  have hPktLen :
      (con.sendJob conId msgType msg msgLen truncable).pktLen
          con.pmtusize 0 0 0 =
        min (con.pmtusize - msgHeaderSize) msgLen := by
    unfold SendJob.pktLen ConnectData.sendJob
    unfold msgHeaderSize at *
    unfold pmtuMax at hHigh
    rw [toCInt_eq_self (by omega) (by omega)]
    simp only
    omega
  have hNotNegative :
      ¬ min (con.pmtusize - msgHeaderSize) msgLen < 0 := by
    omega
  have hEnds :
      ¬ (((0 : Nat) : Int) +
              (min (con.pmtusize - msgHeaderSize)
                msgLen).toNat ≠
            (con.sendJob conId msgType msg msgLen
              truncable).msgLen ∧
          (con.sendJob conId msgType msg msgLen
            truncable).truncable = false) := by
    rintro ⟨hMore, hWhole⟩
    apply hMore
    rcases hOne with hTruncable | hShort
    · rw [ConnectData.sendJob_truncable, hTruncable] at hWhole
      cases hWhole
    · rw [min_eq_right hShort]
      change ((0 : Nat) : Int) + msgLen.toNat = msgLen
      omega
  unfold sendMsg once
  simp only [hCon, sendPasses, sendPass, MonHeader.none,
    MonHeader.length, List.length_nil]
  simp only [ConnectData.sendJob] at *
  simp only [hPktLen, hNotNegative, if_false,
    hAccepts _, hEnds]
  rfl

theorem sendMsg_oncePacket
    {s : Endpoint Unit}
    {conId : ConId}
    {con : ConnectData}
    (msgType : UInt8)
    (msg : List UInt8)
    {msgLen : Int}
    {truncable : Bool}
    (hCon : s.connectbuf conId = some con)
    (hLow : msgHeaderSize ≤ con.pmtusize)
    (hHigh : con.pmtusize ≤ pmtuMax)
    (hLen : 0 ≤ msgLen)
    (hOne :
      truncable = true ∨
        msgLen ≤ con.pmtusize - msgHeaderSize) :
    sendMsg Transport.scripted once s conId msgType msg
        msgLen truncable =
      .ok
        (s.setConNet conId
          { con with seqnr := con.seqnr + 1 } (),
          [.packet
            ((con.sendJob conId msgType msg msgLen
                truncable).packet 0 [] onceAttempt 0
              (min (con.pmtusize - msgHeaderSize)
                msgLen).toNat) .ok]) :=
  sendMsg_acceptedPacket accepts_scripted msgType msg hCon
    hLow hHigh hLen hOne

/- Two packets without monitoring headers, accepted. -/
def halfAttempt : Attempt ErrorCode :=
  ⟨MonHeader.none, fun _ => 0, .ok⟩

def twice : SendInput ErrorCode :=
  [⟨MonHeader.none, [halfAttempt, halfAttempt]⟩]

/- A message of two smallest packets goes out in halves. -/
theorem sendMsg_acceptedTwice
    {T : Transport Unit ErrorCode}
    (hAccepts : T.Accepts)
    {s : Endpoint Unit}
    {conId : ConId}
    {con : ConnectData}
    (msgType : UInt8)
    (msg : List UInt8)
    (hCon : s.connectbuf conId = some con)
    (hPmtu : con.pmtusize = pmtuMin) :
    sendMsg T twice s conId msgType msg
        (898 : Nat) false =
      .ok
        (s.setConNet conId
          { con with seqnr := con.seqnr + 1 } (),
          [.packet
            ((con.sendJob conId msgType msg (898 : Nat)
              false).packet MonHeader.none.length [] halfAttempt
                0 449) .ok,
           .packet
            ((con.sendJob conId msgType msg (898 : Nat)
              false).packet MonHeader.none.length [] halfAttempt
                449 449) .ok]) := by
  have hLen (offset : Nat) (hLe : offset ≤ 449) :
      (con.sendJob conId msgType msg (898 : Nat)
        false).pktLen pmtuMin 0 0 offset = 449 := by
    unfold SendJob.pktLen msgHeaderSize pmtuMin
      ConnectData.sendJob
    rw [toCInt_eq_self (by decide) (by decide)]
    simp only
    omega
  have hDone :
      ¬ (((0 + (449 : Int).toNat : Nat) : Int) +
          (449 : Int).toNat ≠
        (con.sendJob conId msgType msg (898 : Nat)
          false).msgLen) := by
    change ¬ ((898 : Int) ≠ 898)
    decide
  unfold sendMsg twice
  simp only [hCon, hPmtu, sendPasses, sendPass,
    MonHeader.none, List.length_nil, halfAttempt,
    MonHeader.length, hLen 0 (by decide),
    hLen (0 + (449 : Int).toNat) (by decide),
    hAccepts _, hDone]
  rfl

theorem sendMsg_twice
    {s : Endpoint Unit}
    {conId : ConId}
    {con : ConnectData}
    (msgType : UInt8)
    (msg : List UInt8)
    (hCon : s.connectbuf conId = some con)
    (hPmtu : con.pmtusize = pmtuMin) :
    sendMsg Transport.scripted twice s conId msgType msg
        (898 : Nat) false =
      .ok
        (s.setConNet conId
          { con with seqnr := con.seqnr + 1 } (),
          [.packet
            ((con.sendJob conId msgType msg (898 : Nat)
              false).packet MonHeader.none.length [] halfAttempt
                0 449) .ok,
           .packet
            ((con.sendJob conId msgType msg (898 : Nat)
              false).packet MonHeader.none.length [] halfAttempt
                449 449) .ok]) :=
  sendMsg_acceptedTwice accepts_scripted msgType msg hCon
    hPmtu

/- Two entries with the same keepalive state. -/
structure ConnectData.SameKeepalive
    (con con' : ConnectData) : Prop where
  keepalive : con'.keepalive = con.keepalive
  keepaliveSeq : con'.keepaliveSeq = con.keepaliveSeq

/-
  So does a connection message of sufficient size, and the
  entry is as after one trial.
-/
theorem sendConnMsgWithPmtuDiscovery_accepted
    {p : Platform}
    {T : Transport Unit ErrorCode}
    (hAccepts : T.Accepts)
    {s : Endpoint Unit}
    {conId : ConId}
    {con : ConnectData}
    {bufSize : Int}
    {buf msg : List UInt8}
    (command : ConMsgType)
    (hCon : s.connectbuf conId = some con)
    (hLow : msgHeaderSize ≤ con.pmtusize)
    (hHigh : con.pmtusize ≤ pmtuMax)
    (hSize : connMsgSize ≤ bufSize)
    (hBuf : con.ctrlBuf bufSize = .ok buf)
    (hMsg :
      ByteSeq.overlay buf 0
          (ConnMsg.encode p
            { comandType := command.code
              pmtuSize := toUInt32 con.pmtusize
              sockId := s.localSocketID }) =
        msg) :
    sendConnMsgWithPmtuDiscovery p T once s conId bufSize
        command =
      .ok
        (s.setConNet conId
          { con with
            trials := 1
            ctrlMsgBuf := some msg
            seqnr := con.seqnr + 1
            timeoutEvent := true } (),
          [.packet
            ((con.sendJob conId mlConMsg msg bufSize
                true).packet 0 [] onceAttempt 0
              (min (con.pmtusize - msgHeaderSize)
                bufSize).toNat) .ok]) := by
  unfold connMsgSize at hSize
  have hNotSmall :
      ¬ (0 ≤ bufSize ∧ bufSize < connMsgSize) := by
    unfold connMsgSize
    omega
  have hPositive : 0 ≤ bufSize := by
    omega
  rw [show con.ctrlBuf bufSize =
    ({ con with trials := 1 }).ctrlBuf bufSize from rfl]
    at hBuf
  unfold sendConnMsgWithPmtuDiscovery sendAndReschedule
    sendConnMsg
  simp only [derefCon, hCon, Endpoint.setCon_connectbuf,
    SlotTable.set_self, hNotSmall, if_false, hBuf,
    Endpoint.setCon_setCon]
  rw [show (s.setCon conId { con with trials := 1 }
    ).localSocketID = s.localSocketID from rfl, hMsg]
  have hSend :=
    sendMsg_acceptedPacket hAccepts
      (s := s.setCon conId
        { con with trials := 1, ctrlMsgBuf := some msg })
      mlConMsg msg (SlotTable.set_self _ conId _) hLow hHigh
      hPositive (Or.inl (Eq.refl true))
  rw [hSend]
  simp only [rescheduleConnMsg, derefCon,
    Endpoint.setCon_setConNet, Endpoint.setConNet_connectbuf,
    SlotTable.set_self, Endpoint.setConNet_setCon]
  rfl

/- The buffer is there, or it is allocated. -/
theorem sendConnMsgWithPmtuDiscovery_acceptedPacket
    {p : Platform}
    {T : Transport Unit ErrorCode}
    (hAccepts : T.Accepts)
    {s : Endpoint Unit}
    {conId : ConId}
    {con : ConnectData}
    {bufSize : Int}
    (command : ConMsgType)
    (hCon : s.connectbuf conId = some con)
    (hLow : msgHeaderSize ≤ con.pmtusize)
    (hHigh : con.pmtusize ≤ pmtuMax)
    (hSize : connMsgSize ≤ bufSize) :
    ∃ con' buf,
      sendConnMsgWithPmtuDiscovery p T once s conId bufSize
          command =
        .ok (s.setConNet conId con' (),
          [.packet
            ((con.sendJob conId mlConMsg
                (ByteSeq.overlay buf 0
                  (ConnMsg.encode p
                    { comandType := command.code
                      pmtuSize := toUInt32 con.pmtusize
                      sockId := s.localSocketID }))
                bufSize true).packet 0 [] onceAttempt 0
              (min (con.pmtusize - msgHeaderSize)
                bufSize).toNat) .ok]) ∧
        con.SameLink con' ∧
        con'.pmtusize = con.pmtusize ∧
        con.SameKeepalive con' ∧
        con.ctrlBuf bufSize = .ok buf ∧
        con'.ctrlMsgBuf =
          some
            (ByteSeq.overlay buf 0
              (ConnMsg.encode p
                { comandType := command.code
                  pmtuSize := toUInt32 con.pmtusize
                  sockId := s.localSocketID })) := by
  have hNotNegative : ¬ bufSize < 0 := by
    unfold connMsgSize at hSize
    omega
  have hBuf :
      ∃ buf, con.ctrlBuf bufSize = .ok buf := by
    unfold ConnectData.ctrlBuf
    split
    · exact ⟨_, rfl⟩
    · exact ⟨_, if_neg hNotNegative⟩
  rcases hBuf with ⟨buf, hBuf⟩
  refine
    ⟨_, buf,
      sendConnMsgWithPmtuDiscovery_accepted hAccepts command
        hCon hLow hHigh hSize hBuf rfl, ?_⟩
  exact ⟨⟨rfl, rfl, rfl, rfl⟩, rfl, ⟨rfl, rfl⟩, hBuf, rfl⟩

theorem sendConnMsgWithPmtuDiscovery_oncePacket
    {p : Platform}
    {s : Endpoint Unit}
    {conId : ConId}
    {con : ConnectData}
    {bufSize : Int}
    (command : ConMsgType)
    (hCon : s.connectbuf conId = some con)
    (hLow : msgHeaderSize ≤ con.pmtusize)
    (hHigh : con.pmtusize ≤ pmtuMax)
    (hSize : connMsgSize ≤ bufSize) :
    ∃ con' buf,
      sendConnMsgWithPmtuDiscovery p Transport.scripted once
          s conId bufSize command =
        .ok (s.setConNet conId con' (),
          [.packet
            ((con.sendJob conId mlConMsg
                (ByteSeq.overlay buf 0
                  (ConnMsg.encode p
                    { comandType := command.code
                      pmtuSize := toUInt32 con.pmtusize
                      sockId := s.localSocketID }))
                bufSize true).packet 0 [] onceAttempt 0
              (min (con.pmtusize - msgHeaderSize)
                bufSize).toNat) .ok]) ∧
        con.SameLink con' ∧
        con'.pmtusize = con.pmtusize ∧
        con.SameKeepalive con' := by
  rcases
    sendConnMsgWithPmtuDiscovery_acceptedPacket (p := p)
      accepts_scripted command hCon hLow hHigh hSize with
    ⟨con', buf, hSend, hLink, hPmtu, hKeepalive, _⟩
  exact ⟨con', buf, hSend, hLink, hPmtu, hKeepalive⟩

theorem sendConnMsgWithPmtuDiscovery_once
    {p : Platform}
    {s : Endpoint Unit}
    {conId : ConId}
    {con : ConnectData}
    {bufSize : Int}
    (command : ConMsgType)
    (hCon : s.connectbuf conId = some con)
    (hLow : msgHeaderSize ≤ con.pmtusize)
    (hHigh : con.pmtusize ≤ pmtuMax)
    (hSize : connMsgSize ≤ bufSize) :
    ∃ con' pkt,
      sendConnMsgWithPmtuDiscovery p Transport.scripted once
          s conId bufSize command =
        .ok (s.setConNet conId con' (),
          [.packet pkt .ok]) ∧
        con.SameLink con' ∧
        con'.pmtusize = con.pmtusize := by
  rcases
    sendConnMsgWithPmtuDiscovery_oncePacket (p := p) command
      hCon hLow hHigh hSize with
    ⟨con', _, hSend, hLink, hPmtu, _⟩
  exact ⟨con', _, hSend, hLink, hPmtu⟩

------------------------------------------------------------
-- A Host And Its Peer
------------------------------------------------------------

namespace Sample

/- An IPv4 address in dotted notation. -/
def dotted (bytes : List UInt8) : CString :=
  (bytes.map (fun b => (toString b.toNat).toList)).intersperse
    ['.'] |>.flatten

/- A big-endian host that talks over IPv4. -/
def platform : Platform where
  bigEndian := true
  inetNtop _ bytes := dotted bytes
  addressFamily _ := afInet
  recvStunMessage _ := none
  strcmp a b := if a = b then 0 else 1
  strcmp_eq_zero_iff a b := by
    by_cases hEq : a = b
    · simp [hEq]
    · simp [hEq]

/- The address `10.0.0.host`, port 6000. -/
def address (host : UInt8) : SockaddrStorage where
  ssFamily := afInet
  ssData :=
    Vector.ofFn (fun i =>
      [0x17, 0x70, 10, 0, 0, host].getD i 0)

/- The socket ID of a host that is not behind a NAT. -/
def socketID (host : UInt8) : SocketID where
  internalAddr := address host
  externalAddr := address host

/- Host 1 after initialisation, all callbacks registered. -/
def node : Endpoint Unit where
  connectbuf := SlotTable.empty
  recvdatabuf := SlotTable.empty
  recvcbbuf _ := true
  recvDataCallback := true
  natTraversal := true
  localSocketID := socketID 1
  receiveConnectionCb := true
  failedConnectionCb := true
  getRecvPktInfCb := false
  net := ()

theorem node_initial : node.Initial :=
  ⟨rfl, rfl⟩

theorem carriedSocketID_socketID
    (host : UInt8) :
    carriedSocketID platform (socketID host) =
      socketID host :=
  carriedSocketID_of_bigEndian platform rfl rfl

/- A connection message of host 2. -/
def connPacket
    (command : ConMsgType)
    (localConId remoteConId : Int32) : Packet where
  header :=
    { offset := 0
      msgLength := 264
      localConId := localConId
      remoteConId := remoteConId
      msgSeqNum := 0
      msgType := mlConMsg
      lenMonDataHdr := 0
      lenMonPacketHdr := 0 }
  monPktHdr := []
  monDataHdr := []
  payload :=
    ConnMsg.encode platform
      { comandType := command.code
        pmtuSize := 1372
        sockId := socketID 2 }
  addr := address 1
  priority := 0

/- The same message with another packet size in it. -/
def sizedConnPacket
    (command : ConMsgType)
    (pmtuSize : UInt32)
    (localConId remoteConId : Int32) : Packet :=
  { connPacket command localConId remoteConId with
    payload :=
      ConnMsg.encode platform
        { comandType := command.code
          pmtuSize := pmtuSize
          sockId := socketID 2 } }

/- A data packet of host 2 for its first connection. -/
def dataPacket
    (seqnr : Int32)
    (offset msgLength : UInt32)
    (payload : List UInt8) : Packet where
  header :=
    { offset := offset
      msgLength := msgLength
      localConId := 0
      remoteConId := 0
      msgSeqNum := seqnr
      msgType := 0
      lenMonDataHdr := 0
      lenMonPacketHdr := 0 }
  monPktHdr := []
  monDataHdr := []
  payload := payload
  addr := address 1
  priority := 0

theorem length_datagram_connPacket
    (command : ConMsgType)
    (localConId remoteConId : Int32) :
    (connPacket command localConId
      remoteConId).datagram.length ≤ msgbufSize := by
  simp [Packet.datagram, connPacket, connMsgSize,
    msgHeaderSize, msgbufSize]

theorem length_datagram_sizedConnPacket
    (command : ConMsgType)
    (pmtuSize : UInt32)
    (localConId remoteConId : Int32) :
    (sizedConnPacket command pmtuSize localConId
      remoteConId).datagram.length ≤ msgbufSize := by
  simp [Packet.datagram, sizedConnPacket, connPacket,
    connMsgSize, msgHeaderSize, msgbufSize]

theorem length_datagram_dataPacket
    (seqnr : Int32)
    (offset msgLength : UInt32)
    {payload : List UInt8}
    (hFits : payload.length ≤ 1000) :
    (dataPacket seqnr offset msgLength
      payload).datagram.length ≤ msgbufSize := by
  simp only [Packet.datagram, dataPacket,
    List.length_append, MsgHeader.length_encode,
    List.length_nil, msgHeaderSize, msgbufSize]
  omega

/- A connection message of host 2 as it is received. -/
def connReception
    (command : ConMsgType)
    (localConId remoteConId : Int32) : Reception :=
  (connPacket command localConId remoteConId).reception
    (address 2) (length_datagram_connPacket ..)

/- So is one with another packet size in it. -/
def sizedConnReception
    (command : ConMsgType)
    (pmtuSize : UInt32)
    (localConId remoteConId : Int32) : Reception :=
  (sizedConnPacket command pmtuSize localConId
    remoteConId).reception (address 2)
      (length_datagram_sizedConnPacket ..)

/- A data packet of host 2 as it is received. -/
def dataReception
    (seqnr : Int32)
    (offset msgLength : UInt32)
    (payload : List UInt8)
    (hFits : payload.length ≤ 1000) : Reception :=
  (dataPacket seqnr offset msgLength payload).reception
    (address 2) (length_datagram_dataPacket _ _ _ hFits)

theorem sizedConnReception_slim
    (command : ConMsgType)
    (localConId remoteConId : Int32) :
    sizedConnReception command 1372 localConId remoteConId =
      connReception command localConId remoteConId := rfl

------------------------------------------------------------
-- Receiving From The Peer
------------------------------------------------------------

/-
  A connection message of host 2 goes to its handler,
  whatever packet size it carries.
-/
theorem recvPkg_sizedConnReception
    (T : Transport Unit ErrorCode)
    (input : SendInput ErrorCode)
    (s : Endpoint Unit)
    (command : ConMsgType)
    (pmtuSize : UInt32)
    (localConId remoteConId : Int32) :
    (sizedConnReception command pmtuSize localConId
          remoteConId).command platform = some command ∧
      (sizedConnReception command pmtuSize localConId
          remoteConId).conMsg platform =
        { comandType := command.code
          pmtuSize := pmtuSize
          sockId := socketID 2 } ∧
      recvPkg platform T input s
          (sizedConnReception command pmtuSize localConId
            remoteConId) =
        match command with
        | .invite =>
            recvInvite platform T input s
              (connPacket command localConId
                remoteConId).header
              { comandType := command.code
                pmtuSize := pmtuSize
                sockId := socketID 2 } (address 2)
        | .connect =>
            recvConnect platform T input s
              (connPacket command localConId
                remoteConId).header
              { comandType := command.code
                pmtuSize := pmtuSize
                sockId := socketID 2 }
        | .ready =>
            recvReady s
              (connPacket command localConId
                remoteConId).header := by
  have hDatagram :
      (sizedConnReception command pmtuSize localConId
        remoteConId).datagram =
        (sizedConnPacket command pmtuSize localConId
          remoteConId).datagram := rfl
  have hAddr :
      (sizedConnReception command pmtuSize localConId
        remoteConId).recvAddr = address 2 := rfl
  have hPayload :
      (sizedConnPacket command pmtuSize localConId
        remoteConId).payload =
        ConnMsg.encode platform
          { comandType := command.code
            pmtuSize := pmtuSize
            sockId := socketID 2 } ++ [] :=
    (List.append_nil _).symm
  have hClass :
      (sizedConnReception command pmtuSize localConId
        remoteConId).classify = .connection := by
    rw [Reception.classify_datagram hDatagram rfl
      (Nat.zero_le _)
      (by simp [sizedConnPacket, connPacket])
      (by simp [sizedConnPacket, connPacket, maxMsgLength])]
    rfl
  have hHeader :
      (sizedConnReception command pmtuSize localConId
        remoteConId).msgH =
        (connPacket command localConId
          remoteConId).header := by
    rw [Reception.msgH_datagram hDatagram]
    rfl
  generalize
    sizedConnReception command pmtuSize localConId
      remoteConId = r at *
  rcases
    Reception.command_datagram hClass hDatagram rfl rfl
      hPayload with
    ⟨hMsg, hCommand⟩
  rw [carriedSocketID_socketID] at hMsg hCommand
  have hAccepted := hCommand hAddr
  refine ⟨hAccepted, hMsg, ?_⟩
  rw [recvPkg_connection hClass, hAccepted, hMsg, hHeader,
    hAddr]
  cases command with
  | invite => rfl
  | connect => rfl
  | ready => rfl

/- So it is for the packet size of an opening. -/
theorem recvPkg_connReception
    (T : Transport Unit ErrorCode)
    (input : SendInput ErrorCode)
    (s : Endpoint Unit)
    (command : ConMsgType)
    (localConId remoteConId : Int32) :
    (connReception command localConId
          remoteConId).command platform = some command ∧
      recvPkg platform T input s
          (connReception command localConId remoteConId) =
        match command with
        | .invite =>
            recvInvite platform T input s
              (connPacket command localConId
                remoteConId).header
              { comandType := command.code
                pmtuSize := 1372
                sockId := socketID 2 } (address 2)
        | .connect =>
            recvConnect platform T input s
              (connPacket command localConId
                remoteConId).header
              { comandType := command.code
                pmtuSize := 1372
                sockId := socketID 2 }
        | .ready =>
            recvReady s
              (connPacket command localConId
                remoteConId).header := by
  have hSized :=
    recvPkg_sizedConnReception T input s command 1372
      localConId remoteConId
  exact ⟨hSized.1, hSized.2.2⟩

/- A data packet of host 2 goes to the reassembly. -/
theorem recvPkg_dataReception
    (T : Transport Unit ErrorCode)
    (input : SendInput ErrorCode)
    {s : Endpoint Unit}
    (hHook : s.getRecvPktInfCb = false)
    (seqnr : Int32)
    {offset msgLength : UInt32}
    {payload : List UInt8}
    (hFits : payload.length ≤ 1000)
    (hOffset : offset.toNat ≤ msgLength.toNat)
    (hPos : 0 < msgLength.toNat)
    (hMax : msgLength.toNat ≤ maxMsgLength) :
    recvPkg platform T input s
        (dataReception seqnr offset msgLength payload
          hFits) =
      recvDataMsg s
        (dataPacket seqnr offset msgLength payload).header
        payload := by
  have hDatagram :
      (dataReception seqnr offset msgLength payload
        hFits).datagram =
        (dataPacket seqnr offset msgLength
          payload).datagram := rfl
  have hClass :
      (dataReception seqnr offset msgLength payload
        hFits).classify = .data := by
    rw [Reception.classify_datagram hDatagram rfl hOffset
      hPos hMax]
    rfl
  generalize
    dataReception seqnr offset msgLength payload hFits = r
    at *
  rw [recvPkg_data hClass (hookRefuses_of_no_hook hHook),
    Reception.drop_bufptr_datagram hDatagram rfl,
    Reception.msgH_datagram hDatagram]
  rfl

-- what these datagrams do is said by the two theorems
attribute [irreducible]
  connReception sizedConnReception dataReception

------------------------------------------------------------
-- First Steps
------------------------------------------------------------

/- The first connection and the first slot. -/
def first : ConId := ⟨0, by decide⟩
def firstSlot : RecvId := ⟨0, by decide⟩

theorem connectbufAt_first :
    connectbufAt 0 = .ok first :=
  connectbufAt_natCast rfl

theorem firstFree?_connectbuf :
    (SlotTable.empty :
      SlotTable connectbufSize ConnectData).firstFree? =
        some first :=
  SlotTable.firstFree?_empty (n := 9999)

theorem firstFree?_recvdatabuf :
    (SlotTable.empty :
      SlotTable recvdatabufSize RecvData).firstFree? =
        some firstSlot :=
  SlotTable.firstFree?_empty (n := 9999)

/-
  The first `INVITE` makes the first entry, and its buffer
  with the size it carries.
-/
theorem recvPkg_sizedInvite
    {T : Transport Unit ErrorCode}
    (hAccepts : T.Accepts)
    (localConId : Int32)
    {pmtuSize : UInt32}
    (hLow : connMsgSize ≤ pmtuSize.toNat)
    (hHigh : (pmtuSize.toNat : Int) ≤ pmtuMax) :
    ∃ con pkt buf,
      recvPkg platform T once node
          (sizedConnReception .invite pmtuSize localConId
            (-1)) =
        .ok (node.setConNet first con (),
          [.packet pkt .ok]) ∧
        con.externalSocketID = socketID 2 ∧
        con.status = .connect ∧
        con.pmtusize = pmtuSize.toNat ∧
        con.ctrlMsgBuf = some buf ∧
        buf.length = pmtuSize.toNat := by
  have hEmpty : node.connectionOf platform (socketID 2) =
      none :=
    SlotTable.find?_empty _
  have hSize :
      toCInt (pmtuSize.toNat : Int) = pmtuSize.toNat := by
    unfold pmtuMax at hHigh
    exact toCInt_eq_self (by omega) (by omega)
  rw [(recvPkg_sizedConnReception ..).2.2]
  unfold recvInvite
  simp only [hEmpty, hSize]
  rw [show node.connectbuf.firstFree? = some first from
    firstFree?_connectbuf]
  simp only
  have hNew :
      ∃ new : ConnectData,
        { ConnectData.ofInvite platform
            (connPacket .invite localConId (-1)).header
            { comandType := ConMsgType.invite.code
              pmtuSize := pmtuSize
              sockId := socketID 2 }
            (address 2) with
          status := .connect } = new ∧
        new.externalSocketID = socketID 2 ∧
        new.status = .connect ∧
        new.pmtusize = pmtuSize.toNat ∧
        new.ctrlMsgBuf = none :=
    ⟨_, rfl, rfl, rfl, by
      simp only [ConnectData.ofInvite, hSize], rfl⟩
  rcases hNew with
    ⟨new, hNew, hSocket, hStatus, hPmtu, hNoBuf⟩
  rw [hNew]
  have hCon :
      (node.setCon first new).connectbuf first = some new :=
    SlotTable.set_self node.connectbuf first new
  have hRoom : msgHeaderSize ≤ new.pmtusize := by
    rw [hPmtu]
    unfold connMsgSize at hLow
    unfold msgHeaderSize
    omega
  have hMax : new.pmtusize ≤ pmtuMax := by
    rw [hPmtu]
    exact hHigh
  have hLong : (connMsgSize : Int) ≤ pmtuSize.toNat := by
    omega
  rcases
    sendConnMsgWithPmtuDiscovery_acceptedPacket (p := platform)
      hAccepts .connect hCon hRoom hMax hLong with
    ⟨con, buf, hSend, hLink, hSame, _, hBuf, hStored⟩
  have hLength : buf.length = pmtuSize.toNat := by
    unfold ConnectData.ctrlBuf at hBuf
    simp only [hNoBuf] at hBuf
    rw [if_neg (by omega)] at hBuf
    cases hBuf
    rw [List.length_replicate, Int.toNat_natCast]
  rw [hSend, Endpoint.setCon_setConNet]
  refine
    ⟨con, _, _, rfl, hLink.externalSocketID.trans hSocket,
      hLink.status.trans hStatus, hSame.trans hPmtu, hStored,
      ?_⟩
  rw [ByteSeq.length_overlay, hLength]
  rw [ConnMsg.length_encode]
  omega

/- The first `INVITE` makes the first entry. -/
theorem recvPkg_acceptedInvite
    {T : Transport Unit ErrorCode}
    (hAccepts : T.Accepts)
    (localConId : Int32) :
    ∃ con pkt,
      recvPkg platform T once node
          (connReception .invite localConId (-1)) =
        .ok (node.setConNet first con (),
          [.packet pkt .ok]) ∧
        con.externalSocketID = socketID 2 ∧
        con.status = .connect ∧
        con.pmtusize = 1372 := by
  have hLow : connMsgSize ≤ (1372 : UInt32).toNat := by
    decide
  have hHigh : ((1372 : UInt32).toNat : Int) ≤ pmtuMax := by
    decide
  rcases
    recvPkg_sizedInvite hAccepts localConId hLow hHigh with
    ⟨con, pkt, _, hRecv, hSocket, hStatus, hPmtu, _⟩
  rw [sizedConnReception_slim] at hRecv
  exact ⟨con, pkt, hRecv, hSocket, hStatus, hPmtu⟩

theorem recvPkg_invite
    (localConId : Int32) :
    ∃ con pkt,
      recvPkg platform Transport.scripted once node
          (connReception .invite localConId (-1)) =
        .ok (node.setConNet first con (),
          [.packet pkt .ok]) ∧
        con.externalSocketID = socketID 2 ∧
        con.status = .connect ∧
        con.pmtusize = 1372 :=
  recvPkg_acceptedInvite accepts_scripted localConId

/- The entry of the peer in a table with that entry only. -/
theorem connectionOf_first
    {s : Endpoint Unit}
    {con : ConnectData}
    (hTable :
      s.connectbuf = SlotTable.empty.set first con)
    (hSocket : con.externalSocketID = socketID 2) :
    s.connectionOf platform (socketID 2) =
      some (first, con) := by
  have hCon : s.connectbuf first = some con := by
    rw [hTable]
    exact SlotTable.set_self _ first con
  apply SlotTable.find?_eq_some_of_unique hCon
  · rw [hSocket]
    exact decide_eq_true (.refl (socketID 2))
  · intro j other hOther _
    by_contra hNe
    rw [hTable, SlotTable.set_of_ne _ _ hNe] at hOther
    cases hOther

/-
  Another `INVITE` of the peer is answered again, whatever
  has been received in between.
-/
theorem recvPkg_invitedAgain
    {s : Endpoint Unit}
    {con : ConnectData}
    (hTable :
      s.connectbuf = SlotTable.empty.set first con)
    (hSocket : con.externalSocketID = socketID 2)
    (hPmtu : con.pmtusize = 1372)
    (localConId : Int32) :
    ∃ con' pkt,
      recvPkg platform Transport.scripted once s
          (connReception .invite localConId (-1)) =
        .ok (s.setConNet first con' (),
          [.packet pkt .ok]) ∧
        con'.externalSocketID = socketID 2 ∧
        con'.status = .connect ∧
        con'.pmtusize = 1372 := by
  have hFound :
      s.connectionOf platform (socketID 2) =
        some (first, con) :=
    connectionOf_first hTable hSocket
  have hSize : toCInt ((1372 : UInt32).toNat : Int) = 1372 :=
    toCInt_eq_self (by decide) (by decide)
  rw [(recvPkg_connReception ..).2]
  unfold recvInvite
  simp only [hFound, hSize]
  generalize hNew :
    { con with
      externalConnectionID :=
        (connPacket .invite localConId
          (-1)).header.localConId
      status := .connect } = new
  have hNewSocket : new.externalSocketID = socketID 2 := by
    rw [← hNew]
    exact hSocket
  have hNewStatus : new.status = .connect := by
    rw [← hNew]
  have hNewPmtu : new.pmtusize = 1372 := by
    rw [← hNew]
    exact hPmtu
  have hCon :
      (s.setCon first new).connectbuf first = some new :=
    SlotTable.set_self s.connectbuf first new
  have hSize : (connMsgSize : Int) ≤ 1372 := by decide
  rcases
    sendConnMsgWithPmtuDiscovery_once (p := platform) .connect
      hCon
      (by rw [hNewPmtu]; decide)
      (by rw [hNewPmtu]; decide) hSize with
    ⟨con', pkt, hSend, hLink, hSame⟩
  rw [hSend]
  exact
    ⟨con', pkt, by rw [Endpoint.setCon_setConNet],
      hLink.externalSocketID.trans hNewSocket,
      hLink.status.trans hNewStatus, hSame.trans hNewPmtu⟩

/- So is the second of two. -/
theorem recvPkg_reinvite
    (con : ConnectData)
    (hSocket : con.externalSocketID = socketID 2)
    (hPmtu : con.pmtusize = 1372)
    (localConId : Int32) :
    ∃ con' pkt,
      recvPkg platform Transport.scripted once
          (node.setConNet first con ())
          (connReception .invite localConId (-1)) =
        .ok (node.setConNet first con' (),
          [.packet pkt .ok]) ∧
        con'.externalSocketID = socketID 2 ∧
        con'.status = .connect ∧
        con'.pmtusize = 1372 := by
  rcases
    recvPkg_invitedAgain (s := node.setConNet first con ())
      rfl hSocket hPmtu localConId with
    ⟨con', pkt, hRecv, hAfter⟩
  rw [Endpoint.setConNet_setConNet] at hRecv
  exact ⟨con', pkt, hRecv, hAfter⟩

/- A `READY` makes an entry that was invited ready. -/
theorem recvPkg_ready
    {con : ConnectData}
    (hStatus : con.status = .connect) :
    recvPkg platform Transport.scripted once
        (node.setConNet first con ())
        (connReception .ready 0 0) =
      .ok
        (node.setConNet first
          { con with
            status := .ready
            connectionCbs := [] } (),
          node.announce first con) := by
  have hCon :
      (node.setConNet first con ()).connectbuf first =
        some con :=
    SlotTable.set_self node.connectbuf first con
  rw [(recvPkg_connReception ..).2]
  unfold recvReady
  rw [show (connPacket .ready 0 0).header.remoteConId.toInt =
    0 from rfl, connectbufAt_first]
  simp only [hCon, hStatus, if_true,
    Endpoint.setConNet_setCon]
  rfl

/- The first data packet makes the first slot. -/
theorem recvDataMsg_first
    (s : Endpoint Unit)
    {con : ConnectData}
    (msgH : MsgHeader)
    (data : List UInt8)
    (hId : msgH.remoteConId = 0)
    (hCon : s.connectbuf first = some con)
    (hEmpty : s.recvdatabuf = SlotTable.empty)
    (hLength :
      msgH.msgLength.toNat + msgH.lenMonDataHdr.toNat <
        2 ^ 31) :
    ∃ slot,
      RecvData.create first msgH = .ok slot ∧
        recvDataMsg s msgH data =
          s.enterPacket con firstSlot slot msgH data := by
  have hBelow :
      (msgH.msgLength.toNat + msgH.lenMonDataHdr.toNat) %
          2 ^ 32 < 2 ^ 31 := by
    omega
  have hCreate :
      ∃ slot, RecvData.create first msgH = .ok slot :=
    ⟨_, if_pos hBelow⟩
  rcases hCreate with ⟨slot, hCreate⟩
  refine ⟨slot, hCreate, ?_⟩
  have hSlot :
      s.recvSlot first msgH = .ok (firstSlot, slot) := by
    unfold Endpoint.recvSlot
    rw [hEmpty, SlotTable.find?_empty, firstFree?_recvdatabuf,
      hCreate]
  unfold recvDataMsg
  rw [hId, show connectbufAt (0 : Int32).toInt = .ok first
    from connectbufAt_first]
  simp only [hCon, hSlot]

------------------------------------------------------------
-- A Ready Connection
------------------------------------------------------------

/- A ready connection to host 2 and its first entry. -/
def connection (pmtusize : Int) : ConnectData where
  externalSocketID := socketID 2
  externalConnectionID := 0
  pmtusize := pmtusize
  delay := false
  trials := 0
  ctrlMsgBuf := none
  status := .ready
  seqnr := 0
  timeoutEvent := false
  internalConnect := true
  connectionCbs := []
  keepalive := 0
  keepaliveSeq := 0

/- The node with this connection. -/
def connected (pmtusize : Int) : Endpoint Unit :=
  node.setConNet first (connection pmtusize) ()

theorem connected_first (pmtusize : Int) :
    (connected pmtusize).connectbuf first =
      some (connection pmtusize) :=
  SlotTable.set_self node.connectbuf first _

theorem firstFree?_connected (pmtusize : Int) :
    (connected pmtusize).recvdatabuf.firstFree? =
      some firstSlot :=
  firstFree?_recvdatabuf

end Sample

end ML

end NapaBaselibs
