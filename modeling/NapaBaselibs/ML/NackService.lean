import NapaBaselibs.ML.NackRequest
import NapaBaselibs.ML.TwoParty

/-
  Whose packets a negative acknowledgement makes the sender
  send again.

  A closed connection gives its index and its numbers to the
  next one, so the oldest packet that is kept under them need
  not be of the message that is asked for.

  Key definitions include:
    * `Sample.life`, `Sample.halves`
    * `Sample.host`, `Sample.asker`

  Key theorems include:
    * `nack_serves_own`
    * `first_life_is_served`
    * `reopened_connection_sends_old_packet`
-/

------------------------------------------------------------
-- Lives Of A Connection
------------------------------------------------------------

namespace NapaBaselibs

namespace ML

variable {σ α : Type}

namespace Sample

theorem accepts_over (q : OutputQueue) :
    (Transport.over q).Accepts :=
  fun _ => rfl

/- Host 2 invites with the smallest packet size. -/
def slimInvite : Reception :=
  sizedConnReception .invite 472 0 (-1)

/- What it is answered. -/
def slimMsg : List UInt8 :=
  ByteSeq.overlay (List.replicate 472 0) 0
    (ConnMsg.encode platform
      { comandType := ConMsgType.connect.code
        pmtuSize := 472
        sockId := socketID 1 })

/- The entry made for it, before the answer is sent. -/
def slimEntry : ConnectData where
  externalSocketID := socketID 2
  externalConnectionID := 0
  pmtusize := 472
  delay := false
  trials := 0
  ctrlMsgBuf := none
  status := .connect
  seqnr := 0
  timeoutEvent := false
  internalConnect := true
  connectionCbs := []
  keepalive := 0
  keepaliveSeq := 0

/- The entry behind it. -/
def slimConnection : ConnectData :=
  { slimEntry with
    trials := 1
    ctrlMsgBuf := some slimMsg
    seqnr := 1
    timeoutEvent := true }

/- The packet with the answer. -/
def slimConnect : Packet :=
  (slimEntry.sendJob first mlConMsg slimMsg 472 true).packet 0
    [] onceAttempt 0 449

theorem ofInvite_slim :
    ConnectData.ofInvite platform
        (connPacket .invite 0 (-1)).header
        { comandType := ConMsgType.invite.code
          pmtuSize := 472
          sockId := socketID 2 }
        (address 2) =
      { slimEntry with status := .invite } := by
  have hSize : toCInt ((472 : UInt32).toNat : Int) = 472 :=
    toCInt_eq_self (by decide) (by decide)
  have hInternal :
      mlCompareAddr platform (socketID 2).internalAddr
          (address 2) = 0 := by
    decide
  unfold ConnectData.ofInvite slimEntry
  simp only [hSize, hInternal]
  rfl

/- The invitation makes the entry and is answered. -/
theorem invited_slim (q : OutputQueue) :
    NodeStep platform (Transport.over q) node
      (.recvPkg once slimInvite) [.packet slimConnect .ok]
      (node.setConNet first slimConnection ()) := by
  refine ⟨trivial, ?_⟩
  have hEmpty : node.connectionOf platform (socketID 2) =
      none :=
    SlotTable.find?_empty _
  have hSize : toCInt ((472 : UInt32).toNat : Int) = 472 :=
    toCInt_eq_self (by decide) (by decide)
  unfold exec slimInvite
  simp only
  rw [(recvPkg_sizedConnReception ..).2.2]
  unfold recvInvite
  simp only [hEmpty, hSize]
  rw [show node.connectbuf.firstFree? = some first from
    firstFree?_connectbuf]
  simp only [ofInvite_slim]
  have hLong : (connMsgSize : Int) ≤ 472 := by decide
  have hCon :
      (node.setCon first slimEntry).connectbuf first =
        some slimEntry :=
    SlotTable.set_self node.connectbuf first slimEntry
  have hSend :=
    sendConnMsgWithPmtuDiscovery_accepted (p := platform)
      (accepts_over q) .connect hCon
      (by decide : (msgHeaderSize : Int) ≤ 472)
      (by decide : (472 : Int) ≤ pmtuMax) hLong rfl rfl
  have hSent := hSend
  rw [Endpoint.setCon_setConNet] at hSent
  exact hSent

/- A `READY` makes the connection ready. -/
def slimReady : ConnectData :=
  { slimConnection with
    status := .ready
    connectionCbs := [] }

theorem slimReady_first :
    (node.setConNet first slimReady ()).connectbuf first =
      some slimReady :=
  SlotTable.set_self node.connectbuf first slimReady

theorem ready_slim (q : OutputQueue) :
    NodeStep platform (Transport.over q)
      (node.setConNet first slimConnection ())
      (.recvPkg once (connReception .ready 0 0))
      (node.announce first slimConnection)
      (node.setConNet first slimReady ()) := by
  refine ⟨trivial, ?_⟩
  have hReady :=
    recvPkg_ready (rfl : slimConnection.status = .connect)
  rw [(recvPkg_connReception ..).2] at hReady
  unfold exec
  simp only
  rw [(recvPkg_connReception ..).2]
  exact hReady

/- One half of a message that is all one byte. -/
def half (b : UInt8) (offset : Nat) : Packet :=
  (slimReady.sendJob first 0 (List.replicate 898 b)
      (898 : Nat) false).packet MonHeader.none.length []
    halfAttempt offset 449

/- The message goes out in two halves. -/
theorem sent_halves
    (q : OutputQueue)
    (b : UInt8) :
    NodeStep platform (Transport.over q)
      (node.setConNet first slimReady ())
      (.sendData twice 0 (List.replicate 898 b) (898 : Nat) 0)
      [.packet (half b 0) .ok, .packet (half b 449) .ok]
      (node.setConNet first { slimReady with seqnr := 2 }
        ()) := by
  refine ⟨trivial, ?_⟩
  have hSend :=
    sendMsg_acceptedTwice (accepts_over q) 0
      (List.replicate 898 b) slimReady_first rfl
  change mlSendData (Transport.over q) twice _ 0 _ _ 0 = _
  unfold mlSendData
  rw [if_neg (by decide), connectbufAt_first]
  simp only [slimReady_first]
  rw [if_neg (by decide)]
  rw [Endpoint.setConNet_setConNet] at hSend
  exact hSend

/- Closing the connection leaves the node as it was. -/
theorem closed_slim
    (q : OutputQueue)
    (con : ConnectData) :
    NodeStep platform (Transport.over q)
      (node.setConNet first con ())
      (.closeConnection 0) [] node := by
  refine ⟨trivial, ?_⟩
  have hTable :
      (node.connectbuf.set first con).free first =
        node.connectbuf :=
    SlotTable.free_set_of_eq_none rfl con
  unfold exec mlCloseConnection
  simp only [connectbufAt_first,
    Endpoint.setConNet_connectbuf, hTable]
  rfl

/- One life of a connection: it is opened and used once. -/
def life (b : UInt8) : List (Event ErrorCode) :=
  [.recvPkg once slimInvite,
    .recvPkg once (connReception .ready 0 0),
    .sendData twice 0 (List.replicate 898 b) (898 : Nat) 0]

/- The packets of a message that is all one byte. -/
def halves (b : UInt8) : List Packet :=
  [half b 0, half b 449]

/- All packets of such a life. -/
def lifePackets (b : UInt8) : List Packet :=
  slimConnect :: halves b

/- The life of a connection, whatever is kept meanwhile. -/
theorem exists_life (b : UInt8) :
    ∃ trace :
        List
          (Transition (Endpoint Unit) (Event ErrorCode)
            Output),
      Run
          (fun s e outputs s' =>
            ∀ q, NodeStep platform (Transport.over q) s e
              outputs s')
          node trace
          (node.setConNet first { slimReady with seqnr := 2 }
            ()) ∧
        trace.map Transition.event = life b ∧
        (trace.flatMap Transition.outputs).filterMap
            Output.handedOver? =
          (lifePackets b).map (fun pkt => (pkt, .ok)) :=
  ⟨_,
    .cons invited_slim
      (.cons ready_slim
        (.cons (fun q => sent_halves q b) (.nil _))),
    rfl, rfl⟩

/- The life of a connection, and another one after it. -/
theorem exists_lives (b c : UInt8) :
    ∃ trace t,
      Run
          (fun s e outputs s' =>
            ∀ q, NodeStep platform (Transport.over q) s e
              outputs s')
          node trace t ∧
        trace.map Transition.event =
          life b ++ .closeConnection 0 :: life c ∧
        (trace.flatMap Transition.outputs).filterMap
            Output.handedOver? =
          (lifePackets b ++ lifePackets c).map
            (fun pkt => (pkt, .ok)) := by
  rcases exists_life b with
    ⟨first, hFirst, hEvents, hOutputs⟩
  rcases exists_life c with
    ⟨second, hSecond, hEvents', hOutputs'⟩
  refine
    ⟨_, _,
      hFirst.append (.cons (fun q => closed_slim q _) hSecond),
      ?_, ?_⟩
  · rw [List.map_append, List.map_cons, hEvents, hEvents']
  · rw [List.flatMap_append, List.flatMap_cons,
      List.filterMap_append, hOutputs, List.map_append,
      ← hOutputs']
    rfl

/- The length of a packet without monitoring headers. -/
theorem pktLen_bare
    {pkt : Packet}
    (hMonPktHdr : pkt.monPktHdr = [])
    (hMonDataHdr : pkt.monDataHdr = []) :
    pkt.pktLen = msgHeaderSize + pkt.payload.length := by
  unfold Packet.pktLen Packet.datagram
  rw [hMonPktHdr, hMonDataHdr, List.append_nil,
    List.append_nil, List.length_append,
    MsgHeader.length_encode]

theorem pktLen_half
    (b : UInt8)
    (offset : Nat) :
    (half b offset).pktLen = 472 := by
  have hPayload : (half b offset).payload.length = 449 :=
    length_readBlock ..
  rw [pktLen_bare rfl rfl, hPayload]
  rfl

theorem pktLen_slimConnect : slimConnect.pktLen = 472 := by
  have hPayload : slimConnect.payload.length = 449 :=
    length_readBlock ..
  rw [pktLen_bare rfl rfl, hPayload]
  rfl

/- The packets of a life all have this length and priority. -/
theorem lifePackets_all
    {b : UInt8}
    {pkt : Packet}
    (hMem : pkt ∈ lifePackets b) :
    pkt.pktLen = 472 ∧ pkt.priority = 0 := by
  simp only [lifePackets, halves, List.mem_cons,
    List.not_mem_nil, or_false] at hMem
  rcases hMem with rfl | rfl | rfl
  · exact ⟨pktLen_slimConnect, rfl⟩
  · exact ⟨pktLen_half b 0, rfl⟩
  · exact ⟨pktLen_half b 449, rfl⟩

/- Host 1 at its start. -/
def host : Host :=
  ⟨node, RateLimiter.initial queueParams⟩

theorem host_initial : host.Initial queueParams :=
  ⟨node_initial, rfl⟩

/- A few small packets are all kept. -/
theorem exists_host
    {t : Endpoint Unit}
    {trace :
      List
        (Transition (Endpoint Unit) (Event ErrorCode) Output)}
    {pkts : List Packet}
    (addresses : List Nat)
    (hRun :
      Run
        (fun s e outputs s' =>
          ∀ q, NodeStep platform (Transport.over q) s e
            outputs s')
        node trace t)
    (hOutputs :
      (trace.flatMap Transition.outputs).filterMap
          Output.handedOver? =
        pkts.map (fun pkt => (pkt, .ok)))
    (hSmall :
      ∀ pkt ∈ pkts, pkt.pktLen = 472 ∧ pkt.priority = 0)
    (hNodup : addresses.Nodup)
    (hSame : addresses.length = pkts.length)
    (hFew : pkts.length ≤ 6) :
    ∃ hostTrace t',
      Run (Host.Step platform) host hostTrace t' ∧
        hostTrace.map Transition.event =
          trace.map (fun tr => HostEvent.node tr.event) ∧
        packetsOf t'.limiter.queue.kept = pkts := by
  have hPkts : (addresses.zip pkts).map Prod.snd = pkts :=
    List.map_snd_zip hSame.ge
  have hAddresses :
      (addresses.zip pkts).map Prod.fst = addresses :=
    List.map_fst_zip hSame.le
  have hSum :
      ((addresses.zip pkts).map
        (fun entry => entry.2.pktLen)).sum =
        pkts.length * 472 := by
    have hLengths :
        (addresses.zip pkts).map
            (fun entry => entry.2.pktLen) =
          List.replicate pkts.length 472 := by
      rw [List.eq_replicate_iff, List.length_map,
        List.length_zip, hSame, Nat.min_self]
      refine ⟨rfl, ?_⟩
      intro len hMem
      rcases List.mem_map.mp hMem with ⟨entry, hEntry, rfl⟩
      exact (hSmall _ (List.of_mem_zip hEntry).2).1
    rw [hLengths, List.sum_replicate_nat]
  have hLimit : queueParams.rtxMaxSize = 9000000 := rfl
  rcases
    @Host.exists_run_kept _ queueParams _ _ _
      (addresses.zip pkts) hRun
      (by
        rw [hOutputs]
        conv_lhs => rw [← hPkts]
        rw [List.map_map]
        rfl)
      (by decide)
      (fun entry hMem =>
        (hSmall _ (List.of_mem_zip hMem).2).2)
      (by rwa [hAddresses]) (by rw [hSum, hLimit]; omega)
      (by rw [hSum]; omega) with
    ⟨hostTrace, t', hHost, hEvents, _, hKept⟩
  exact ⟨hostTrace, t', hHost, hEvents, hKept.trans hPkts⟩

/- It keeps the packets of one life of a connection. -/
theorem exists_host_life :
    ∃ trace t,
      Run (Host.Step platform) host trace t ∧
        trace.map Transition.event =
          (life 1).map HostEvent.node ∧
        packetsOf t.limiter.queue.kept = lifePackets 1 := by
  rcases exists_life 1 with ⟨trace, hRun, hEvents, hOutputs⟩
  rcases
    exists_host [16, 32, 48] hRun hOutputs
      (fun _ hMem => lifePackets_all hMem) (by decide) rfl
      (by decide : 3 ≤ 6) with
    ⟨hostTrace, t, hHost, hSame, hKept⟩
  refine ⟨hostTrace, t, hHost, ?_, hKept⟩
  rw [hSame, ← hEvents, List.map_map]
  rfl

/- It keeps those of two lives of it. -/
theorem exists_host_lives :
    ∃ trace t,
      Run (Host.Step platform) host trace t ∧
        trace.map Transition.event =
          (life 1 ++ .closeConnection 0 :: life 2).map
            HostEvent.node ∧
        packetsOf t.limiter.queue.kept =
          lifePackets 1 ++ lifePackets 2 := by
  rcases exists_lives 1 2 with
    ⟨trace, t, hRun, hEvents, hOutputs⟩
  rcases
    exists_host [16, 32, 48, 64, 80, 96] hRun hOutputs
      (fun _ hMem =>
        (List.mem_append.mp hMem).elim lifePackets_all
          lifePackets_all)
      (by decide) rfl (by decide : 6 ≤ 6) with
    ⟨hostTrace, t', hHost, hSame, hKept⟩
  refine ⟨hostTrace, t', hHost, ?_, hKept⟩
  rw [hSame, ← hEvents, List.map_map]
  rfl

/- The oldest packet at the start is of the first message. -/
theorem packetAt_firstHalf
    {rtx : List (Nat × PacketContainer)}
    {b : UInt8}
    {later : List Packet}
    (hPackets : packetsOf rtx = lifePackets b ++ later) :
    packetAt rtx 0 1 0 = some (half b 0) := by
  rw [packetAt_eq_find?, hPackets]
  rfl

/- It is what is sent again. -/
theorem sends_firstHalf
    {q : OutputQueue}
    {tx : List (Nat × PacketContainer)}
    {b : UInt8}
    (hHolds : q.Holds tx q.kept)
    (hFound : packetAt q.kept 0 1 0 = some (half b 0)) :
    rtxPacketsFromTo 0 1 0 449 q = .ok [half b 0] := by
  rcases isAt_of_packetAt hFound with ⟨node, hNode, _⟩
  have hPos := List.length_pos_of_mem hNode
  have hLt := hHolds.length_lt_fuel
  have hPayload : (half b 0).payload.length = 449 :=
    length_readBlock ..
  have hSome : (half b 0).payload ≠ [] := by
    intro hNil
    rw [hNil] at hPayload
    cases hPayload
  have hFuel : q.fuel = q.fuel - 2 + 1 + 1 := by omega
  unfold rtxPacketsFromTo
  rw [hFuel]
  rw [rtxPacketsLoop_some hHolds
    (by decide : (0 : Int32).toInt < (449 : Int32).toInt)
    hFound, if_neg hSome, hPayload]
  rfl

/- The first half of a message is not of the other one. -/
theorem half_not_mem : half 1 0 ∉ halves 2 := by
  intro hMem
  simp only [halves, List.mem_cons, List.not_mem_nil,
    or_false] at hMem
  rcases hMem with hFirst | hSecond
  · have hByte :=
      congrArg (fun pkt => pkt.payload.head?) hFirst
    cases hByte
  · have hOffset :=
      congrArg (fun pkt => pkt.header.offset) hSecond
    cases hOffset

/- The halves are for the host that opened the connection. -/
theorem sentTo_halves (b : UInt8) :
    SentTo (address 2) (halves b) := by
  have hSent :=
    SentTo.intro slimReady_first rfl
      (sendMsg_twice 0 (List.replicate 898 b) slimReady_first rfl)
  exact hSent

/- They are cut once. -/
theorem cutOnce_halves : CutOnce (halves 1) := by
  have hAddresses :
      slimReady.Addresses first { message with seqnr := 1 } :=
    ⟨rfl, rfl, rfl⟩
  have hSend :=
    sendMsg_twice message.msgtype message.bytes
      slimReady_first rfl
  have hLength :
      ({ message with seqnr := 1 } : Message).length = 898 :=
    length_message
  have hRoom :
      ∀ pass ∈ twice, pass.HasRoom slimReady.pmtusize := by
    intro pass hPass attempt hAttempt
    rw [twice, List.mem_singleton] at hPass
    subst hPass
    simp only [List.mem_cons, List.not_mem_nil, or_false,
      or_self] at hAttempt
    subst hAttempt
    decide
  exact
    cutOnce_of_sendMsg slimReady_first hAddresses hRoom
      (by decide) (by rw [hLength]; exact hSend)
      (by simp [answers, Output.answer?])

------------------------------------------------------------
-- The Host That Asks
------------------------------------------------------------

/- Host 2, where the messages arrive. -/
def asker : Endpoint Unit :=
  { node with localSocketID := socketID 2 }

theorem asker_initial : asker.Initial :=
  ⟨rfl, rfl⟩

/- The second half as it arrives there. -/
def lateHalf (b : UInt8) : Reception :=
  (half b 449).reception (address 1)
    ((pktLen_half b 449).le.trans (by decide))

theorem classify_lateHalf (b : UInt8) :
    (lateHalf b).classify = .data := by
  have hDatagram :
      (lateHalf b).datagram = (half b 449).datagram := rfl
  rw [Reception.classify_datagram hDatagram rfl
    (by decide : (449 : Nat) ≤ 898)
    (by decide : 0 < 898)
    (by decide : 898 ≤ maxMsgLength)]
  rfl

/- The second half alone leaves a gap in a new slot. -/
theorem recvFragment_late
    {slot : RecvData}
    {msgH : MsgHeader}
    {data : List UInt8}
    (hCreate : RecvData.create first msgH = .ok slot)
    (hOffset : msgH.offset = 449)
    (hLength : msgH.msgLength = 898)
    (hHeader : msgH.lenMonDataHdr = 0)
    (hData : data.length = 449) :
    ∃ slot' : RecvData,
      slot.recvFragment firstSlot msgH data =
          .ok (slot',
            [.pktRecvTimer
              ⟨firstSlot, msgH.msgSeqNum, 0, rtxRetry⟩]) ∧
        slot.SameMessage slot' ∧
        slot'.gapArray = [⟨0, 449⟩] ∧
        slot'.status = .active := by
  rcases RecvData.create_ok hCreate with
    ⟨hFor, _, _, hGaps, hExpected, hMonitoring, hSize⟩
  have hZero :
      slot.arrivedBytes = 0 ∧ slot.recvFragments = 0 := by
    unfold RecvData.create at hCreate
    simp only at hCreate
    split at hCreate
    · cases hCreate
      exact ⟨rfl, rfl⟩
    · cases hCreate
  rw [hLength, hHeader] at hSize
  have hBufsize : slot.bufsize = 898 := hSize
  rw [hHeader] at hMonitoring
  have hHead :
      slot.copyMonDataHdr msgH data = .ok (slot, data) := by
    unfold RecvData.copyMonDataHdr
    rw [hOffset]
    exact if_neg (by decide)
  have hCopies :
      ∃ slot₂, slot.copyData msgH data = .ok slot₂ := by
    unfold RecvData.copyData
    simp only [hBufsize, hHeader, hOffset, hData, hZero.1,
      hZero.2]
    rw [if_neg (by decide), if_neg (by decide)]
    exact ⟨_, rfl⟩
  rcases hCopies with ⟨slot₂, hCopy⟩
  have hSlot₂ := (RecvData.copyData_ok hCopy).2
  have hStart : msgH.offset.toNat = 449 := by
    rw [hOffset]
    rfl
  have hNone : slot₂.gapArray = [] := by
    rw [hSlot₂]
    exact hGaps
  have hFirst : slot₂.expectedOffset = 0 := by
    rw [hSlot₂]
    exact hExpected
  have hSeqnr : slot₂.seqnr = msgH.msgSeqNum := by
    rw [hSlot₂]
    exact (isFor_eq_true_iff.mp hFor).2
  have hTimer :
      (slot₂.detectGap firstSlot 449).2 =
        [.pktRecvTimer
          ⟨firstSlot, msgH.msgSeqNum, 0, rtxRetry⟩] := by
    unfold RecvData.detectGap RecvData.gapCounter
    rw [hNone, hFirst, hSeqnr, if_pos (by decide)]
    rfl
  have hFragment :
      slot.recvFragment firstSlot msgH data =
        .ok (slot₂.tracked 449 449,
          [.pktRecvTimer
            ⟨firstSlot, msgH.msgSeqNum, 0, rtxRetry⟩]) := by
    unfold RecvData.recvFragment
    rw [hHead]
    simp only [hCopy, hStart, hData, hTimer,
      RecvData.updateStatus_advance_fillGaps_detectGap]
  have hSame := RecvData.recvFragment_sameMessage hFragment
  refine ⟨_, hFragment, hSame, ?_, ?_⟩
  · unfold RecvData.tracked RecvData.nextGaps
      RecvData.gapCounter
    simp only [hNone, hFirst]
    rw [if_pos (by decide), List.nil_append]
  · have hArrived :
        slot₂.arrivedBytes + slot₂.monitoringDataHeaderLen =
          449 := by
      rw [hSlot₂]
      simp only [hZero.1, hData, hMonitoring]
      rfl
    have hFull : slot₂.bufsize = 898 :=
      hSame.bufsize.trans hBufsize
    unfold RecvData.tracked RecvData.updateStatus
    simp only [hArrived, hFull]
    exact if_neg (by decide)

/- Its slot is the first one. -/
theorem recvSlot_lateHalf
    {s : Endpoint Unit}
    (hEmpty : s.recvdatabuf = SlotTable.empty)
    (b : UInt8) :
    ∃ slot,
      s.recvSlot first (half b 449).header =
        .ok (firstSlot, slot) := by
  unfold Endpoint.recvSlot
  rw [hEmpty, SlotTable.find?_empty, firstFree?_recvdatabuf]
  exact ⟨_, rfl⟩

/- It opens a gap and starts the timer of the gap. -/
theorem recvPkg_lateHalf
    (con : ConnectData)
    (b : UInt8) :
    ∃ slot : RecvData,
      recvPkg platform Transport.scripted once
          (asker.setConNet first con ()) (lateHalf b) =
        .ok
          ((asker.setConNet first con ()).setSlot firstSlot
            slot,
            [.pktRecvTimer ⟨firstSlot, 1, 0, rtxRetry⟩]) ∧
        slot.gapArray = [⟨0, 449⟩] ∧
        slot.seqnr = 1 ∧
        slot.connectionID = first ∧
        slot.txConnectionID = 0 := by
  have hDatagram :
      (lateHalf b).datagram = (half b 449).datagram := rfl
  have hHook :
      (asker.setConNet first con ()).getRecvPktInfCb =
        false := rfl
  rw [recvPkg_data (classify_lateHalf b)
      (hookRefuses_of_no_hook hHook),
    Reception.drop_bufptr_datagram hDatagram rfl,
    Reception.msgH_datagram hDatagram]
  have hLength :
      (half b 449).header.msgLength.toNat +
          (half b 449).header.lenMonDataHdr.toNat < 2 ^ 31 :=
    (by decide : 898 + 0 < 2 ^ 31)
  rcases
    recvDataMsg_first (asker.setConNet first con ())
      (half b 449).header
      ((half b 449).monDataHdr ++ (half b 449).payload) rfl
      (SlotTable.set_self asker.connectbuf first con) rfl
      hLength with
    ⟨slot, hCreate, hRecv⟩
  have hData :
      ((half b 449).monDataHdr ++
        (half b 449).payload).length = 449 :=
    length_readBlock ..
  rcases
    recvFragment_late hCreate rfl rfl rfl hData with
    ⟨slot', hFragment, hSame, hGaps, hActive⟩
  rcases RecvData.create_ok hCreate with
    ⟨hFor, hStatus, hTx, _⟩
  have hIds := isFor_eq_true_iff.mp hFor
  have hBounds := slot'.sameBounds_startTimeouts
  have hMessage := hSame.trans hBounds.message
  refine
    ⟨slot'.startTimeouts, ?_, hBounds.gaps.trans hGaps,
      hMessage.seqnr.trans hIds.2,
      hMessage.connectionID.trans hIds.1,
      hMessage.txConnectionID.trans hTx⟩
  rw [hRecv]
  unfold Endpoint.enterPacket Endpoint.callback
  rw [if_neg (by rw [hStatus]; decide)]
  simp only [hFragment, hActive]
  rfl

/- What the timer of the gap asks for. -/
def firstHalfNack : NackMsg where
  conId := 0
  msgSeqNum := 1
  offsetFrom := 0
  offsetTo := 449

/- When the timer fires, the first half is asked for. -/
theorem asksAgain_firstHalf
    {s : Endpoint Unit}
    {con : ConnectData}
    {slot : RecvData}
    (hCon : s.connectbuf first = some con)
    (hPmtu : con.pmtusize = pmtuDslSlim)
    (hSlot : s.recvdatabuf firstSlot = some slot)
    (hGaps : slot.gapArray = [⟨0, 449⟩])
    (hSeqnr : slot.seqnr = 1)
    (hConId : slot.connectionID = first)
    (hTx : slot.txConnectionID = 0) :
    ∃ (pkt : Packet) (r : Reception),
      AsksAgain platform Transport.scripted s firstSlot
          firstHalfNack pkt ∧
        r.datagram = pkt.datagram := by
  have hNack : slot.nack 0 449 = firstHalfNack := by
    unfold RecvData.nack
    rw [hTx, hSeqnr]
    rfl
  have hLow : (msgHeaderSize : Int) ≤ con.pmtusize := by
    rw [hPmtu]
    decide
  have hHigh : con.pmtusize ≤ pmtuMax := by
    rw [hPmtu]
    decide
  have hSend :=
    sendMsg_oncePacket mlNackMsg
      (firstHalfNack.encode platform.bigEndian) hCon hLow
      hHigh (by decide : (0 : Int) ≤ (nackMsgSize : Nat))
      (Or.inl rfl : true = true ∨ _)
  have hLen :
      (min (con.pmtusize - msgHeaderSize)
        (nackMsgSize : Nat)).toNat = nackMsgSize := by
    rw [hPmtu]
    decide
  rw [hLen] at hSend
  generalize hPkt :
    (con.sendJob first mlNackMsg
      (firstHalfNack.encode platform.bigEndian)
      (nackMsgSize : Nat) true).packet 0 [] onceAttempt 0
        nackMsgSize = pkt at hSend
  have hPayload :
      pkt.payload =
        firstHalfNack.encode platform.bigEndian := by
    rw [← hPkt]
    exact NackMsg.readBlock_encode ..
  have hFits : pkt.datagram.length ≤ msgbufSize := by
    have hHeaders :
        pkt.monPktHdr = [] ∧ pkt.monDataHdr = [] := by
      rw [← hPkt]
      exact ⟨rfl, rfl⟩
    change pkt.pktLen ≤ msgbufSize
    rw [pktLen_bare hHeaders.1 hHeaders.2, hPayload,
      NackMsg.length_encode]
    decide
  have hTimer :
      NodeStep platform Transport.scripted s
        (.pktRecvTimeout once ⟨firstSlot, 1, 0, rtxRetry⟩)
        [.packet pkt .ok]
        (s.setConNet first
          { con with seqnr := con.seqnr + 1 } ()) := by
    refine ⟨trivial, ?_⟩
    unfold exec pktRecvTimeoutCb sendNack
    simp only [hSlot, hGaps, List.getD_cons_zero, hSeqnr,
      hConId, hNack, hSend]
    rfl
  exact
    ⟨pkt, pkt.reception (address 2) hFits,
      ⟨⟨_, _, _, hTimer, rfl, List.mem_singleton.mpr rfl⟩,
        hPayload⟩, rfl⟩

/-
  Host 2 opens a connection to host 1, and of a message sent
  over it the second half alone arrives.
-/
theorem exists_request (b : UInt8) :
    ∃ (v : Endpoint Unit × SlotLogs Reception)
        (arrivals :
          List (LoggedTransition Unit ErrorCode Reception))
        (pkt : Packet) (r : Reception),
      Run (LoggedStep platform Transport.scripted)
          (asker, SlotLogs.start) arrivals v ∧
        arrivals.map (fun tr => tr.event.1) =
          [.openConnection once (socketID 1) ⟨0, 0⟩ 0,
            .recvPkg once (lateHalf b)] ∧
        (∀ tr ∈ arrivals, LogsDatagrams tr) ∧
        v.2.slots firstSlot =
          some ⟨lateHalf b, [lateHalf b]⟩ ∧
        AsksAgain platform Transport.scripted v.1 firstSlot
          firstHalfNack pkt ∧
        r.datagram = pkt.datagram := by
  rcases @exists_inviting asker 2 1 rfl rfl rfl 0 with
    ⟨con, invite, timer, hOpen, _, hOnly, _⟩
  rcases recvPkg_lateHalf con b with
    ⟨slot, hRecv, hGaps, hSeqnr, hConId, hTx⟩
  have hCon :
      (asker.setConNet first con ()).connectbuf first =
        some con :=
    SlotTable.set_self asker.connectbuf first con
  rcases
    asksAgain_firstHalf
      (s := (asker.setConNet first con ()).setSlot firstSlot
        slot)
      hCon hOnly.pmtusize
      (SlotTable.set_self asker.recvdatabuf firstSlot slot)
      hGaps hSeqnr hConId hTx with
    ⟨pkt, r, hAsks, hDatagram⟩
  rcases
    recvSlot_lateHalf
      (rfl : (asker.setConNet first con ()).recvdatabuf =
        SlotTable.empty) b with
    ⟨slot₀, hSlot⟩
  have hKey :
      (asker.setConNet first con ()).slotKey? (lateHalf b) =
        some (first, 1) := by
    rw [Endpoint.slotKey?_eq_some_iff,
      Reception.msgH_datagram
        (rfl : (lateHalf b).datagram = (half b 449).datagram)]
    exact ⟨classify_lateHalf b, rfl, ⟨con, hCon⟩, rfl⟩
  have hNext :
      ((SlotLogs.start : SlotLogs Reception).next
          (asker.setConNet first con ()) (lateHalf b)
          (Event.recvPkg once (lateHalf b) :
            Event ErrorCode)).slots firstSlot =
        some ⟨lateHalf b, [lateHalf b]⟩ := by
    unfold SlotLogs.next
    simp only [hKey, hSlot,
      Reception.msgH_datagram
        (rfl : (lateHalf b).datagram = (half b 449).datagram)]
    exact SlotTable.set_self SlotTable.empty firstSlot _
  have hOpens :
      LoggedStep platform Transport.scripted
        (asker, SlotLogs.start)
        (.openConnection once (socketID 1) ⟨0, 0⟩ 0,
          lateHalf b)
        (timer ++ [.packet invite .ok])
        (asker.setConNet first con (), SlotLogs.start) :=
    ⟨⟨trivial, hOpen⟩, rfl⟩
  refine
    ⟨_, _, pkt, r,
      .cons hOpens (.cons (.received hRecv rfl) (.nil _)),
      rfl, ?_, hNext, hAsks, hDatagram⟩
  intro tr hMem input other hEvent
  simp only [List.mem_cons, List.not_mem_nil, or_false]
    at hMem
  rcases hMem with rfl | rfl
  · cases hEvent
  · cases hEvent
    rfl

end Sample

------------------------------------------------------------
-- Requests In Any Run
------------------------------------------------------------

/-
  In every run of the sender and every run of the receiver:
  a request for bytes of a message that can be told from any
  other is served with that message.
-/
theorem nack_serves_own
    {params : QueueParams}
    {p q : Platform}
    {s t : Host}
    {trace : List HostTransition}
    {T : Transport σ α}
    {u : Endpoint σ}
    {v : Endpoint σ × SlotLogs Reception}
    {arrivals : List (LoggedTransition σ α Reception)}
    {peer : SockaddrStorage}
    {pkts : List Packet}
    {recvId : RecvId}
    {log : SlotLog Reception}
    {nack : NackMsg}
    {pkt : Packet}
    {r : Reception}
    (hStart : s.Initial params)
    (hRun : Run (Host.Step p) s trace t)
    (hInitial : u.Initial)
    (hArrivals :
      Run (LoggedStep q T) (u, SlotLogs.start) arrivals v)
    (hLogs : ∀ tr ∈ arrivals, LogsDatagrams tr)
    (hSent : SentTo peer pkts)
    (hLog : v.2.slots recvId = some log)
    (hOf :
      ∃ own ∈ pkts, log.message.datagram = own.datagram)
    (hAsks : AsksAgain q T v.1 recvId nack pkt)
    (hDatagram : r.datagram = pkt.datagram)
    (hOwn :
      AsksForOwn p q t.limiter.queue.kept pkts log nack) :
    Serves p t r nack peer pkts := by
  rcases Host.run_holds hStart hRun with ⟨tx, hHolds⟩
  rcases hOwn.cutOnce with
    ⟨m, cut, hEnd, hTiles, hFragments⟩
  rcases hAsks.bounds with
    ⟨slot, offsetFrom, offsetTo, hSlot, hNack, hPktHdr,
      hDataHdr, hBounds⟩
  have hRecords : SlotLog.Records slot log := by
    have hAt := recorded_of_run hInitial hArrivals hLogs recvId
    rw [hSlot, hLog] at hAt
    cases hAt with
    | some hRecords => exact hRecords
  have hRequest :
      RequestFor m pkts nack offsetFrom offsetTo := by
    rw [hNack]
    exact
      hRecords.request hTiles hEnd hFragments hOf
        hOwn.unmixed hBounds
  rcases
    hRequest.sends hHolds hTiles hFragments hOwn.own with
    ⟨sent, hReturns, hSub, hCovers⟩
  refine
    ⟨sent, ?_,
      fun other hMem =>
        ⟨hSub hMem, hSent.addr_eq (hSub hMem)⟩, ?_⟩
  · rw [recvNackMsg_eq hDatagram hPktHdr hDataHdr
      hAsks.payload hOwn.byteOrder]
    unfold Transport.over
    simp only [hReturns, Except.toOption]
  · intro hKept
    refine ⟨hCovers hKept, ?_⟩
    intro hAll b hAsked
    rcases hOf with ⟨own, hMem, _⟩
    apply hCovers hKept b hAsked
    apply hAll own hMem
    -- no byte behind the message is asked for
    have hHigh := ((hRequest.bounds.2.2 b).mp hAsked).2
    rw [(hFragments own hMem).msgLength]
    exact hHigh.trans_le hRequest.stop

open Sample

/-
  A message is sent over the first life of a connection, and
  its second half alone arrives: the first half is sent.
-/
theorem first_life_is_served :
    ∃ (trace : List HostTransition) (t : Host)
        (v : Endpoint Unit × SlotLogs Reception)
        (arrivals :
          List (LoggedTransition Unit ErrorCode Reception))
        (pkt : Packet) (r : Reception),
      Run (Host.Step platform) host trace t ∧
        trace.map Transition.event =
          (life 1).map HostEvent.node ∧
        Run (LoggedStep platform Transport.scripted)
          (asker, SlotLogs.start) arrivals v ∧
        arrivals.map (fun tr => tr.event.1) =
          [.openConnection once (socketID 1) ⟨0, 0⟩ 0,
            .recvPkg once (lateHalf 1)] ∧
        AsksAgain platform Transport.scripted v.1 firstSlot
          firstHalfNack pkt ∧
        r.datagram = pkt.datagram ∧
        (∀ other ∈ halves 1,
          other ∈ packetsOf t.limiter.queue.kept) ∧
        Serves platform t r firstHalfNack (address 2)
          (halves 1) := by
  rcases exists_host_life with
    ⟨trace, t, hRun, hEvents, hKept⟩
  rcases exists_request 1 with
    ⟨v, arrivals, pkt, r, hArrivals, hReceived, hLogs, hLog,
      hAsks, hDatagram⟩
  have hOwn :
      AsksForOwn platform platform t.limiter.queue.kept
        (halves 1) ⟨lateHalf 1, [lateHalf 1]⟩
        firstHalfNack := by
    refine
      { byteOrder := rfl
        cutOnce := cutOnce_halves
        unmixed := ?_
        own := ?_ }
    · intro other hMem
      rw [List.mem_singleton.mp hMem]
      exact ⟨half 1 449, by simp [halves], rfl⟩
    · intro b _ found hFound
      rcases isAt_of_packetAt hFound with
        ⟨node, hNode, rfl, hAt⟩
      have hMem :
          node.2.packet ∈ packetsOf t.limiter.queue.kept := by
        unfold packetsOf LinkedQueue.values
        rw [List.map_map]
        exact List.mem_map_of_mem hNode
      rw [hKept] at hMem
      rcases List.mem_cons.mp hMem with hConnect | hHalf
      · -- the connection message has another number
        have hSeqNum := hAt.2.1
        rw [hConnect] at hSeqNum
        cases hSeqNum
      · exact hHalf
  refine
    ⟨trace, t, v, arrivals, pkt, r, hRun, hEvents, hArrivals,
      hReceived, hAsks, hDatagram, ?_,
      nack_serves_own host_initial hRun asker_initial
        hArrivals hLogs (sentTo_halves 1) hLog
        ⟨half 1 449, by simp [halves], rfl⟩ hAsks hDatagram
        hOwn⟩
  intro other hMem
  rw [hKept]
  exact List.mem_cons_of_mem _ hMem

/-
  The connection is closed and opened again, and another
  message is sent over it: its number is that of the first
  one.  Of the second message the first half is asked for,
  and that of the first message is sent.
-/
theorem reopened_connection_sends_old_packet :
    ∃ (trace : List HostTransition) (t : Host)
        (v : Endpoint Unit × SlotLogs Reception)
        (arrivals :
          List (LoggedTransition Unit ErrorCode Reception))
        (pkt : Packet) (r : Reception),
      host.Initial queueParams ∧
        Run (Host.Step platform) host trace t ∧
        trace.map Transition.event =
          (life 1 ++ .closeConnection 0 :: life 2).map
            HostEvent.node ∧
        asker.Initial ∧
        Run (LoggedStep platform Transport.scripted)
          (asker, SlotLogs.start) arrivals v ∧
        arrivals.map (fun tr => tr.event.1) =
          [.openConnection once (socketID 1) ⟨0, 0⟩ 0,
            .recvPkg once (lateHalf 2)] ∧
        SentTo (address 2) (halves 2) ∧
        AsksAgain platform Transport.scripted v.1 firstSlot
          firstHalfNack pkt ∧
        r.datagram = pkt.datagram ∧
        (∀ other ∈ halves 2,
          other ∈ packetsOf t.limiter.queue.kept) ∧
        recvNackMsg platform
            (Transport.over t.limiter.queue) t.node r.msgH
            (r.msgbuf.drop r.bufptr) =
          .ok (t.node, [.retransmit (half 1 0)]) ∧
        ¬ Serves platform t r firstHalfNack (address 2)
            (halves 2) := by
  rcases exists_host_lives with
    ⟨trace, t, hRun, hEvents, hKept⟩
  rcases exists_request 2 with
    ⟨v, arrivals, pkt, r, hArrivals, hReceived, hLogs, hLog,
      hAsks, hDatagram⟩
  rcases Host.run_holds host_initial hRun with ⟨tx, hHolds⟩
  have hSends :=
    sends_firstHalf hHolds (packetAt_firstHalf hKept)
  rcases hAsks.bounds with
    ⟨_, _, _, _, _, hPktHdr, hDataHdr, _⟩
  have hRecv :
      recvNackMsg platform (Transport.over t.limiter.queue)
          t.node r.msgH (r.msgbuf.drop r.bufptr) =
        .ok (t.node, [.retransmit (half 1 0)]) := by
    rw [recvNackMsg_eq hDatagram hPktHdr hDataHdr
      hAsks.payload rfl]
    unfold Transport.over
    simp only
    rw [show rtxPacketsFromTo firstHalfNack.conId
        firstHalfNack.msgSeqNum
        firstHalfNack.offsetFrom.toInt32
        firstHalfNack.offsetTo.toInt32 t.limiter.queue =
          .ok [half 1 0] from hSends]
    rfl
  refine
    ⟨trace, t, v, arrivals, pkt, r, host_initial, hRun,
      hEvents, asker_initial, hArrivals, hReceived,
      sentTo_halves 2, hAsks, hDatagram, ?_, hRecv, ?_⟩
  · intro other hMem
    rw [hKept]
    exact
      List.mem_append_right _ (List.mem_cons_of_mem _ hMem)
  · rintro ⟨sent, hServes, hOwn, _⟩
    rw [hRecv] at hServes
    simp only [Except.ok.injEq, Prod.mk.injEq, true_and]
      at hServes
    have hMem :
        Output.retransmit (half 1 0) ∈
          sent.map Output.retransmit := by
      rw [← hServes]
      exact List.mem_cons_self
    rcases List.mem_map.mp hMem with ⟨other, hIn, hOther⟩
    cases hOther
    exact half_not_mem (hOwn _ hIn).1

end ML

end NapaBaselibs
