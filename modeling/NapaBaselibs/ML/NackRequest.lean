import NapaBaselibs.ML.GapRuns
import NapaBaselibs.ML.Host
import NapaBaselibs.ML.Retransmission
import NapaBaselibs.ML.SlotBounds

/-
  What is asked for with a negative acknowledgement, and what
  is sent again.

  The receiver asks between ends of packets it has copied;
  the sender follows its packets from the first byte asked
  for, and takes the oldest it keeps under the connection id,
  the sequence number and the offset.

  Key definitions include:
    * `SentTo`, `CutOnce`, `AllFragments`
    * `AsksAgain`
    * `AsksForOwn`, `Serves`
    * `RequestFor`

  Key theorems include:
    * `cutOnce_of_sendMsg`
    * `AsksAgain.bounds`
    * `SlotLog.Records.request`
    * `rtxPacketsLoop_tiles`
    * `RequestFor.sends`
-/

------------------------------------------------------------
-- The Message And The Request
------------------------------------------------------------

namespace NapaBaselibs

namespace ML

open Tiling (Piece Tiles Covers Starts Stops)

variable {σ α : Type}

/-
  The packets that one call of `send_msg` has handed to the
  output queue, and the address they are for.
-/
inductive SentTo (peer : SockaddrStorage) :
    List Packet → Prop where
  | intro
      {σ α : Type}
      {T : Transport σ α}
      {input : SendInput α}
      {s s' : Endpoint σ}
      {conId : ConId}
      {con : ConnectData}
      {msgType : UInt8}
      {msg : List UInt8}
      {msgLen : Int}
      {truncable : Bool}
      {outputs : List Output}
      (hCon : s.connectbuf conId = some con)
      (hAddr : con.udpAddr = peer)
      (hSend :
        sendMsg T input s conId msgType msg msgLen
            truncable = .ok (s', outputs)) :
      SentTo peer (packets outputs)

/- All packets of a message are for one address. -/
theorem SentTo.addr_eq
    {peer : SockaddrStorage}
    {pkts : List Packet}
    (hSent : SentTo peer pkts)
    {pkt : Packet}
    (hMem : pkt ∈ pkts) :
    pkt.addr = peer := by
  cases hSent with
  | intro hCon hAddr hSend =>
      rcases sendMsg_ok hSend with
        ⟨con, _, _, _, hCon', _, hPackets⟩
      rw [hCon, Option.some.injEq] at hCon'
      rcases mem_packets_iff.mp hMem with ⟨answer, hIn⟩
      rcases hPackets _ hIn with ⟨other, _, hEq, hPacket⟩
      rcases hPacket.isPacket with ⟨_, _, _, _, _, rfl⟩
      cases hEq
      rw [← hAddr, hCon']
      rfl

/-
  The message was cut into packets once: they are pieces of
  it that lie end to end from its start, up to its end or to
  the packet with which `send_msg` stopped.  Starting over
  with a smaller size leaves packets of more than one cut.
-/
def CutOnce (pkts : List Packet) : Prop :=
  ∃ (m : Message) (stop : Nat),
    stop ≤ m.length ∧
      Tiles 0 (pkts.map Packet.piece) stop ∧
        ∀ pkt ∈ pkts, m.IsFragment pkt

/- Every pass hands over a packet, and so gets an answer. -/
theorem sendPass_answers_ne_nil
    {T : Transport σ α}
    {job : SendJob}
    {pmtusize : Int}
    {lenMonDataHdr offset : Nat}
    {attempts : List (Attempt α)}
    {monDataHdr : List UInt8}
    {net net' : σ}
    {result : ErrorCode}
    {outputs : List Output}
    (hPass :
      sendPass T job pmtusize lenMonDataHdr attempts offset
          monDataHdr net =
        .ok (result, net', outputs)) :
    answers outputs ≠ [] := by
  cases attempts with
  | nil => simp [sendPass] at hPass
  | cons attempt rest =>
      simp only [sendPass] at hPass
      split at hPass
      · cases hPass
      · split at hPass
        · cases hPass
        · split at hPass
          · split at hPass
            · cases hPass
            · cases hPass
              simp
          · cases hPass
            simp
        · cases hPass
          simp [answers, Output.answer?]

theorem sendPasses_answers_ne_nil
    {T : Transport σ α}
    {job : SendJob}
    {input : SendInput α}
    {con con' : ConnectData}
    {net net' : σ}
    {outputs : List Output}
    (hPasses :
      sendPasses T job input con net =
        .ok (con', net', outputs)) :
    answers outputs ≠ [] := by
  cases input with
  | nil => simp [sendPasses] at hPasses
  | cons pass rest =>
      simp only [sendPasses] at hPasses
      split at hPasses
      · cases hPasses
      · rename_i hPass
        have hFirst := sendPass_answers_ne_nil hPass
        split at hPasses
        · split at hPasses
          · cases hPasses
          · cases hPasses
            simp [hFirst]
        · cases hPasses
          exact hFirst
      · rename_i hPass
        cases hPasses
        exact sendPass_answers_ne_nil hPass

/-
  So it is whatever the output queue answers, as long as the
  message is not started again.
-/
theorem cutOnce_of_sendMsg
    {T : Transport σ α}
    {input : SendInput α}
    {s s' : Endpoint σ}
    {conId : ConId}
    {con : ConnectData}
    {m : Message}
    {outputs : List Output}
    (hCon : s.connectbuf conId = some con)
    (hAddresses : con.Addresses conId m)
    (hRoom : ∀ pass ∈ input, pass.HasRoom con.pmtusize)
    (hHigh : con.pmtusize < 2 ^ 31)
    (hSend :
      sendMsg T input s conId m.msgtype m.bytes m.length
          false = .ok (s', outputs))
    (hOnce : .msglen ∉ (answers outputs).dropLast) :
    CutOnce (packets outputs) := by
  unfold sendMsg at hSend
  simp only [hCon] at hSend
  split at hSend
  · cases hSend
  · rename_i hPasses
    cases hSend
    cases input with
    | nil => simp [sendPasses] at hPasses
    | cons pass rest =>
        have hPieces
            {net net' : σ}
            {result : ErrorCode}
            {first : List Output}
            (hPass :
              sendPass T
                  (con.sendJob conId m.msgtype m.bytes
                    m.length false)
                  con.pmtusize pass.monDataHdr.length
                  pass.attempts 0 pass.monDataHdr.bytes net =
                .ok (result, net', first)) :
            CutOnce (packets first) :=
          ⟨_,
            sendPass_pieces
              (hAddresses.carries pass.monDataHdr)
              (hRoom pass List.mem_cons_self) hHigh
              m.bytes_pos hPass⟩
        simp only [sendPasses] at hPasses
        split at hPasses
        · cases hPasses
        · rename_i net₁ first hPass
          split at hPasses
          · split at hPasses
            · cases hPasses
            · rename_i second hRest
              cases hPasses
              rcases
                sendPass_fragments
                  (hAddresses.carries pass.monDataHdr)
                  (hRoom pass List.mem_cons_self) hHigh
                  m.bytes_pos hPass with
                ⟨_, _, _, _, _, hAnswers⟩
              refine absurd ?_ hOnce
              rw [answers_append, hAnswers,
                List.dropLast_append_of_ne_nil
                  (sendPasses_answers_ne_nil hRest)]
              simp
          · cases hPasses
            exact hPieces hPass
        · rename_i hPass
          cases hPasses
          exact hPieces hPass

/- The timers that ask for bytes of the message of a slot. -/
def Event.AsksFor
    (recvId : RecvId) : Event α → Prop
| .pktRecvTimeout _ arg => arg.recvId = recvId
| .lastPktRecvTimeout _ slotId => slotId = recvId
| _ => False

/-
  A timer of a slot hands over a packet with all bytes of a
  negative acknowledgement.
-/
structure AsksAgain
    (p : Platform)
    (T : Transport σ α)
    (s : Endpoint σ)
    (recvId : RecvId)
    (nack : NackMsg)
    (pkt : Packet) : Prop where
  sent :
    ∃ e outputs s',
      NodeStep p T s e outputs s' ∧
        e.AsksFor recvId ∧ pkt ∈ packets outputs
  payload : pkt.payload = nack.encode p.bigEndian

/-
  The request can be told from any other: both hosts write
  their words alike, the message was cut once, and no packet
  of another message was copied into the slot that asks; and
  within the range asked for, the oldest packet kept under
  the connection id, the sequence number and an offset is a
  packet of the message.
-/
structure AsksForOwn
    (p q : Platform)
    (kept : List (Nat × PacketContainer))
    (pkts : List Packet)
    (log : SlotLog Reception)
    (nack : NackMsg) : Prop where
  byteOrder : p.bigEndian = q.bigEndian
  cutOnce : CutOnce pkts
  unmixed :
    ∀ r ∈ log.copied, ∃ pkt ∈ pkts,
      r.datagram = pkt.datagram
  own :
    ∀ b : Nat, nack.Asks b →
      ∀ pkt,
        packetAt kept nack.conId nack.msgSeqNum b =
            some pkt →
          pkt ∈ pkts

/- No byte of the message is missing from its packets. -/
def AllFragments (pkts : List Packet) : Prop :=
  ∀ pkt ∈ pkts, ∀ b < pkt.header.msgLength.toNat,
    Covers (pkts.map Packet.piece) b

/-
  Answering the request sends packets of the message only, to
  the peer the message was sent to.  If all its packets are
  kept, they cover the bytes asked for, as far as the message
  was cut; so they cover all of them if these are all its
  fragments.
-/
def Serves
    (p : Platform)
    (t : Host)
    (r : Reception)
    (nack : NackMsg)
    (peer : SockaddrStorage)
    (pkts : List Packet) : Prop :=
  ∃ sent : List Packet,
    recvNackMsg p (Transport.over t.limiter.queue) t.node
          r.msgH (r.msgbuf.drop r.bufptr) =
        .ok (t.node, sent.map .retransmit) ∧
      (∀ pkt ∈ sent, pkt ∈ pkts ∧ pkt.addr = peer) ∧
      ((∀ pkt ∈ pkts,
          pkt ∈ packetsOf t.limiter.queue.kept) →
        (∀ b, nack.Asks b →
          Covers (pkts.map Packet.piece) b →
            Covers (sent.map Packet.piece) b) ∧
          (AllFragments pkts →
            ∀ b, nack.Asks b →
              Covers (sent.map Packet.piece) b))

------------------------------------------------------------
-- What Is Asked For
------------------------------------------------------------

/- As many bytes of an acknowledgement as it has are all. -/
theorem NackMsg.readBlock_encode
    (bigEndian : Bool)
    (nack : NackMsg)
    (beyond : Nat → UInt8) :
    readBlock (nack.encode bigEndian) beyond 0 nackMsgSize =
      nack.encode bigEndian := by
  rw [readBlock_eq_slice _ (by simp), ByteSeq.slice,
    List.drop_zero, ← NackMsg.length_encode bigEndian nack,
    List.take_length]

/-
  The negative acknowledgement of a packet with all its bytes
  is the one that `sendNack` was called for.
-/
theorem sendNack_packet
    {p : Platform}
    {T : Transport σ α}
    {input : SendInput α}
    {s s' : Endpoint σ}
    {slot : RecvData}
    {offsetFrom offsetTo : Nat}
    {outputs : List Output}
    (hSend :
      sendNack p T input s slot offsetFrom offsetTo =
        .ok (s', outputs))
    {nack : NackMsg}
    {pkt : Packet}
    (hMem : pkt ∈ packets outputs)
    (hPayload : pkt.payload = nack.encode p.bigEndian) :
    nack = slot.nack offsetFrom offsetTo ∧
      pkt.header.lenMonPacketHdr.toNat =
        pkt.monPktHdr.length ∧
      pkt.header.lenMonDataHdr.toNat =
        pkt.monDataHdr.length := by
  unfold sendNack at hSend
  rcases sendMsg_ok hSend with ⟨con, _, _, _, hCon, _⟩
  rcases mem_packets_iff.mp hMem with ⟨answer, hIn⟩
  rcases sendMsg_truncable hCon hSend _ hIn with
    ⟨other, _, hEq, header, attempt, len, rfl⟩
  cases hEq
  refine
    ⟨?_, attempt.monPktHdr.toNat_ofNat_length,
      header.toNat_ofNat_length⟩
  have hRead :
      readBlock
          ((slot.nack offsetFrom offsetTo).encode p.bigEndian)
          attempt.beyond 0 len =
        nack.encode p.bigEndian := hPayload
  have hLen : len = nackMsgSize := by
    rw [← length_readBlock _ attempt.beyond 0 len, hRead,
      NackMsg.length_encode]
  rw [hLen, NackMsg.readBlock_encode] at hRead
  rw [← NackMsg.decode_encode_append p.bigEndian nack [],
    ← hRead, NackMsg.decode_encode_append]

/-
  A slot asks for one of its gaps or for what lies behind the
  expected offset.
-/
theorem AsksAgain.bounds
    {p : Platform}
    {T : Transport σ α}
    {s : Endpoint σ}
    {recvId : RecvId}
    {nack : NackMsg}
    {pkt : Packet}
    (hAsks : AsksAgain p T s recvId nack pkt) :
    ∃ slot offsetFrom offsetTo,
      s.recvdatabuf recvId = some slot ∧
        nack = slot.nack offsetFrom offsetTo ∧
        pkt.header.lenMonPacketHdr.toNat =
          pkt.monPktHdr.length ∧
        pkt.header.lenMonDataHdr.toNat =
          pkt.monDataHdr.length ∧
        (⟨offsetFrom, offsetTo⟩ ∈ slot.gapArray ∨
          (offsetFrom = slot.expectedOffset ∧
            offsetTo =
              slot.bufsize - slot.monitoringDataHeaderLen)) := by
  rcases hAsks with
    ⟨⟨e, outputs, s', ⟨_, hExec⟩, hTimer, hMem⟩, hPayload⟩
  cases e with
  | pktRecvTimeout input arg =>
      have hId : arg.recvId = recvId := hTimer
      subst hId
      unfold exec pktRecvTimeoutCb at hExec
      simp only at hExec
      split at hExec
      · cases hExec
        cases hMem
      · rename_i slot hSlot
        split at hExec
        · cases hExec
          cases hMem
        · split at hExec
          · cases hExec
            cases hMem
          · rename_i hOpen
            have hGap :
                slot.gapArray.getD arg.gap ⟨0, 0⟩ ∈
                  slot.gapArray := by
              by_cases hIn : arg.gap < slot.gapArray.length
              · rw [List.getD_eq_getElem _ _ hIn]
                exact List.getElem_mem hIn
              · rw [List.getD_eq_default _ _ (by omega)]
                  at hOpen
                exact absurd rfl hOpen
            split at hExec
            · cases hExec
            · rename_i sent hSend
              have hSent : pkt ∈ packets sent := by
                split at hExec
                · cases hExec
                  rw [packets_append] at hMem
                  rcases List.mem_append.mp hMem with
                    hIn | hTimerOnly
                  · exact hIn
                  · cases hTimerOnly
                · cases hExec
                  exact hMem
              rcases sendNack_packet hSend hSent hPayload with
                ⟨hNack, hPktHdr, hDataHdr⟩
              exact
                ⟨slot, _, _, hSlot, hNack, hPktHdr, hDataHdr,
                  Or.inl hGap⟩
  | lastPktRecvTimeout input slotId =>
      have hId : slotId = recvId := hTimer
      subst hId
      unfold exec lastPktRecvTimeoutCb at hExec
      simp only at hExec
      split at hExec
      · cases hExec
        cases hMem
      · rename_i slot hSlot
        split at hExec
        · cases hExec
          cases hMem
        · rcases sendNack_packet hExec hMem hPayload with
            ⟨hNack, hPktHdr, hDataHdr⟩
          exact
            ⟨slot, _, _, hSlot, hNack, hPktHdr, hDataHdr,
              Or.inr ⟨rfl, rfl⟩⟩
  | recvPkg | openConnection | closeConnection | sendData
  | pmtuTimeout | keepalive | recvTimeout => cases hTimer

/- The piece that is copied is the piece that was sent. -/
theorem Message.IsFragment.piece_eq
    {m : Message}
    {pkt : Packet}
    {r : Reception}
    (hFragment : m.IsFragment pkt)
    (hDatagram : r.datagram = pkt.datagram) :
    r.piece = pkt.piece := by
  have hHeader := Reception.msgH_datagram hDatagram
  have hContent :=
    Reception.drop_bufptr_datagram hDatagram
      hFragment.lenMonPacketHdr
  have hMonDataHdr := hFragment.monDataHdr
  unfold Reception.piece Packet.piece
  rw [hContent, hHeader, List.length_append, hMonDataHdr]
  split
  · rw [hFragment.lenMonDataHdr, MonHeader.length,
      Nat.add_sub_cancel_left]
  · rw [List.length_nil, Nat.zero_add, Nat.sub_zero]

/-
  What the slot of a message asks for, when it holds nothing
  else: the ids are those of its packets, and the bounds lie
  where its packets start and stop.
-/
structure RequestFor
    (m : Message)
    (pkts : List Packet)
    (nack : NackMsg)
    (offsetFrom offsetTo : Nat) : Prop where
  conId : nack.conId = m.localConId
  msgSeqNum : nack.msgSeqNum = m.seqnr
  fromEq : nack.offsetFrom = UInt32.ofNat offsetFrom
  toEq : nack.offsetTo = UInt32.ofNat offsetTo
  start : Stops 0 (pkts.map Packet.piece) offsetFrom
  stop : offsetTo ≤ m.length
  within : offsetFrom ≤ m.length

theorem SlotLog.Records.request
    {m : Message}
    {pkts : List Packet}
    {slot : RecvData}
    {log : SlotLog Reception}
    {offsetFrom offsetTo cut : Nat}
    (hRecords : SlotLog.Records slot log)
    (hTiles : Tiles 0 (pkts.map Packet.piece) cut)
    (hEnd : cut ≤ m.length)
    (hFragments : ∀ pkt ∈ pkts, m.IsFragment pkt)
    (hOf :
      ∃ pkt ∈ pkts, log.message.datagram = pkt.datagram)
    (hUnmixed :
      ∀ r ∈ log.copied, ∃ pkt ∈ pkts,
        r.datagram = pkt.datagram)
    (hBounds :
      ⟨offsetFrom, offsetTo⟩ ∈ slot.gapArray ∨
        (offsetFrom = slot.expectedOffset ∧
          offsetTo =
            slot.bufsize - slot.monitoringDataHeaderLen)) :
    RequestFor m pkts (slot.nack offsetFrom offsetTo)
      offsetFrom offsetTo := by
  rcases hOf with ⟨own, hOwn, hDatagram⟩
  have hHeader := Reception.msgH_datagram hDatagram
  have hFragment := hFragments own hOwn
  rcases hRecords.created with
    ⟨conId, new, hCreate, hMessage⟩
  rcases RecvData.create_ok hCreate with
    ⟨hFor, _, hTx, _, _, hMonitoring, hBufsize⟩
  rw [hHeader] at hFor hTx hMonitoring hBufsize
  have hSub :
      log.copied.map Reception.piece ⊆
        pkts.map Packet.piece := by
    intro piece hMem
    rcases List.mem_map.mp hMem with ⟨r, hCopied, rfl⟩
    rcases hUnmixed r hCopied with ⟨pkt, hPkt, hSame⟩
    rw [(hFragments pkt hPkt).piece_eq hSame]
    exact List.mem_map_of_mem hPkt
  have hBounded := hRecords.bounded.mono hSub
  have hStart :
      Stops 0 (pkts.map Packet.piece) offsetFrom := by
    rcases hBounds with hGap | ⟨rfl, _⟩
    · exact hBounded.gapFrom _ hGap
    · exact hBounded.expected
  have hLength : m.length ≤ maxMsgLength := m.bytes_le
  have hByte := own.header.lenMonDataHdr.toNat_lt
  unfold maxMsgLength at hLength
  have hSize :
      slot.bufsize - slot.monitoringDataHeaderLen =
        m.length := by
    rw [hMessage.bufsize, hMessage.monitoringDataHeaderLen,
      hBufsize, hMonitoring, hFragment.msgLength]
    omega
  refine
    { conId := ?_, msgSeqNum := ?_, fromEq := rfl
      toEq := rfl, start := hStart, stop := ?_
      within := (hTiles.le_of_stops hStart).trans hEnd }
  · change slot.txConnectionID = m.localConId
    rw [hMessage.txConnectionID, hTx, hFragment.localConId]
  · change slot.seqnr = m.seqnr
    rw [hMessage.seqnr, (isFor_eq_true_iff.mp hFor).2,
      hFragment.msgSeqNum]
  · rcases hBounds with hGap | ⟨_, rfl⟩
    · rcases hBounded.gapTo _ hGap with ⟨piece, hMem, hAt⟩
      have hInside := hTiles.bounds hMem
      unfold Piece.stop at hInside
      simp only at hAt
      omega
    · exact hSize.le

------------------------------------------------------------
-- What Is Sent
------------------------------------------------------------

section Loop

variable {q : OutputQueue}
variable {tx rtx : List (Nat × PacketContainer)}
variable {pkts : List Packet}
variable {connID msgSeqNum : Int32}

/-
  When only packets of the message are found, what is sent
  lies end to end, up to the offset asked for or to one where
  nothing is found.
-/
theorem rtxPacketsLoop_tiles
    {fuel offset offsetTo : Nat}
    (hHolds : q.Holds tx rtx)
    (hEnds :
      ∀ pkt ∈ pkts, pkt.EndsWithin ∧ pkt.payload ≠ [])
    (hOwn :
      ∀ b : Nat, offset ≤ b → b < offsetTo →
        ∀ pkt,
          packetAt rtx connID msgSeqNum b = some pkt →
            pkt ∈ pkts)
    (hOffset : offset < 2 ^ 31)
    (hFuel : countFrom rtx connID msgSeqNum offset < fuel) :
    ∃ (sent : List Packet) (last : Nat),
      rtxPacketsLoop connID msgSeqNum offsetTo q fuel offset =
          .ok sent ∧
        sent ⊆ pkts ∧
        Tiles offset (sent.map Packet.piece) last ∧
        (offsetTo ≤ last ∨
          packetAt rtx connID msgSeqNum last = none) := by
  induction fuel generalizing offset with
  | zero => exact absurd hFuel (Nat.not_lt_zero _)
  | succ fuel ih =>
      by_cases hBelow : offset < offsetTo
      · have hBelow' : (offset : Int) < offsetTo := by omega
        cases hFound :
            packetAt rtx connID msgSeqNum offset with
        | none =>
            exact
              ⟨[], offset,
                rtxPacketsLoop_none hHolds hBelow' hFound,
                List.nil_subset _, .nil offset, Or.inr hFound⟩
        | some pkt =>
            have hMem := hOwn offset le_rfl hBelow pkt hFound
            rcases hEnds pkt hMem with ⟨hEnd, hPayload⟩
            have hLen := List.length_pos_iff.mpr hPayload
            rcases isAt_of_packetAt hFound with
              ⟨node, hNode, rfl, hAt⟩
            have hStart :=
              offset_of_isAt (by omega) (by omega) hEnd hAt
            have hOf :
                isOfMessage connID msgSeqNum node = true := by
              simp only [isOfMessage, hAt.1, hAt.2.1,
                decide_true, Bool.and_self]
            have hLess := countFrom_lt hNode hOf hStart hLen
            unfold Packet.EndsWithin at hEnd
            rcases
                @ih (offset + node.2.packet.payload.length)
                  (fun b hFrom => hOwn b (by omega))
                  (by omega)
                  (by
                    rw [Int.natCast_add]
                    omega)
              with ⟨sent, last, hSent, hSub, hTiles, hLast⟩
            refine
              ⟨node.2.packet :: sent, last, ?_,
                List.cons_subset.mpr ⟨hMem, hSub⟩, ?_, hLast⟩
            · rw [rtxPacketsLoop_some hHolds hBelow' hFound,
                if_neg hPayload,
                addInt_eq (by omega) (by omega), ok_bind,
                ← Int.natCast_add, hSent, ok_bind]
            · refine .cons ?_ hLen ?_
              · rw [Packet.piece_start]
                omega
              · rw [Packet.piece_stop,
                  show node.2.packet.header.offset.toNat =
                    offset by omega]
                exact hTiles
      · refine
          ⟨[], offset, ?_, List.nil_subset _, .nil offset,
            Or.inl (by omega)⟩
        rw [rtxPacketsLoop, if_neg (by omega)]

/- A kept packet of the message is found where it starts. -/
theorem packetAt_ne_none
    {pkt : Packet}
    {offset : Nat}
    (hMem : pkt ∈ packetsOf rtx)
    (hConId : pkt.header.localConId = connID)
    (hSeqNum : pkt.header.msgSeqNum = msgSeqNum)
    (hStart : pkt.header.offset.toNat = offset) :
    packetAt rtx connID msgSeqNum offset ≠ none := by
  intro hNone
  rcases List.mem_map.mp hMem with ⟨container, hIn, rfl⟩
  rcases List.mem_map.mp hIn with ⟨node, hNode, rfl⟩
  have hNot :=
    List.find?_eq_none.mp (Option.map_eq_none_iff.mp hNone)
      node hNode
  apply hNot
  refine decide_eq_true ⟨hConId, hSeqNum, ?_⟩
  rw [Int32.ofInt_eq_ofNat, Int32.toUInt32_ofNat', ← hStart,
    UInt32.ofNat_toNat]

end Loop

/- The bounds of a request are those it was sent with. -/
theorem RequestFor.bounds
    {m : Message}
    {pkts : List Packet}
    {nack : NackMsg}
    {offsetFrom offsetTo : Nat}
    (hRequest : RequestFor m pkts nack offsetFrom offsetTo) :
    nack.offsetFrom.toInt32.toInt = offsetFrom ∧
      nack.offsetTo.toInt32.toInt = offsetTo ∧
      ∀ b, nack.Asks b ↔ offsetFrom ≤ b ∧ b < offsetTo := by
  have hLength : m.length ≤ maxMsgLength := m.bytes_le
  have hFrom := hRequest.within
  have hTo := hRequest.stop
  unfold maxMsgLength at hLength
  rw [hRequest.fromEq, hRequest.toEq, UInt32.toInt32_ofNat',
    UInt32.toInt32_ofNat']
  refine
    ⟨Int32.toInt_ofNat_of_lt (by omega),
      Int32.toInt_ofNat_of_lt (by omega), fun b => ?_⟩
  have hFromFits : offsetFrom < 2 ^ 32 := by omega
  have hToFits : offsetTo < 2 ^ 32 := by omega
  unfold NackMsg.Asks
  rw [hRequest.fromEq, hRequest.toEq,
    UInt32.toNat_ofNat_of_lt' hFromFits,
    UInt32.toNat_ofNat_of_lt' hToFits]

/- Fragments have payload and end within the message. -/
theorem Message.IsFragment.endsWithin
    {m : Message}
    {pkt : Packet}
    (hFragment : m.IsFragment pkt) :
    pkt.EndsWithin ∧ pkt.payload ≠ [] := by
  have hFits := hFragment.fits
  have hPos := hFragment.pos
  have hLength : m.length ≤ maxMsgLength := m.bytes_le
  unfold maxMsgLength at hLength
  rw [Packet.piece_stop] at hFits
  rw [Packet.piece_length] at hPos
  refine ⟨?_, List.length_pos_iff.mp hPos⟩
  unfold Packet.EndsWithin
  omega

/- Answering a request for a message, and nothing else. -/
theorem RequestFor.sends
    {q : OutputQueue}
    {tx : List (Nat × PacketContainer)}
    {m : Message}
    {pkts : List Packet}
    {nack : NackMsg}
    {offsetFrom offsetTo cut : Nat}
    (hRequest : RequestFor m pkts nack offsetFrom offsetTo)
    (hHolds : q.Holds tx q.kept)
    (hTiles : Tiles 0 (pkts.map Packet.piece) cut)
    (hFragments : ∀ pkt ∈ pkts, m.IsFragment pkt)
    (hOwn :
      ∀ b : Nat, nack.Asks b →
        ∀ pkt,
          packetAt q.kept nack.conId nack.msgSeqNum b =
              some pkt →
            pkt ∈ pkts) :
    ∃ sent : List Packet,
      rtxPacketsFromTo nack.conId nack.msgSeqNum
            nack.offsetFrom.toInt32 nack.offsetTo.toInt32 q =
          .ok sent ∧
        sent ⊆ pkts ∧
        ((∀ pkt ∈ pkts, pkt ∈ packetsOf q.kept) →
          ∀ b, nack.Asks b →
            Covers (pkts.map Packet.piece) b →
              Covers (sent.map Packet.piece) b) := by
  rcases hRequest.bounds with ⟨hFrom, hTo, hAsks⟩
  have hLength : m.length ≤ maxMsgLength := m.bytes_le
  have hWithin := hRequest.within
  have hStop := hRequest.stop
  unfold maxMsgLength at hLength
  have hFuel :
      countFrom q.kept nack.conId nack.msgSeqNum offsetFrom <
        q.fuel :=
    Nat.lt_of_le_of_lt
      ((countFrom_le _).trans List.countP_le_length)
      hHolds.length_lt_fuel
  rcases
    @rtxPacketsLoop_tiles _ _ _ _ _ _ _ _ offsetTo hHolds
      (fun pkt hMem => (hFragments pkt hMem).endsWithin)
      (fun b hLow hHigh => hOwn b ((hAsks b).mpr ⟨hLow, hHigh⟩))
      (by omega) hFuel with
    ⟨sent, last, hSent, hSub, hSentTiles, hLast⟩
  refine ⟨sent, ?_, hSub, ?_⟩
  · unfold rtxPacketsFromTo
    rw [hFrom, hTo]
    exact hSent
  · intro hKept b hAsked hCut
    rw [hSentTiles.covers_iff]
    rcases (hAsks b).mp hAsked with ⟨hLow, hHigh⟩
    have hBelow := ((hTiles.covers_iff b).mp hCut).2
    refine ⟨hLow, ?_⟩
    rcases hLast with hEnough | hNone
    · omega
    · -- where nothing is found, no packet of the message starts
      by_contra hBeyond
      have hStops :
          Stops 0 (pkts.map Packet.piece) last := by
        rcases hSentTiles.stops with rfl | hPiece
        · exact hRequest.start
        · have hHere :
              Stops 0 (sent.map Packet.piece) last :=
            Or.inr hPiece
          exact hHere.mono (List.map_subset _ hSub)
      rcases hTiles.starts_of_stops hStops (by omega) with
        ⟨piece, hPiece, hStart⟩
      rcases List.mem_map.mp hPiece with ⟨pkt, hMem, rfl⟩
      have hFragment := hFragments pkt hMem
      exact
        packetAt_ne_none (hKept pkt hMem)
          (hFragment.localConId.trans hRequest.conId.symm)
          (hFragment.msgSeqNum.trans hRequest.msgSeqNum.symm)
          hStart hNone

/- A request that arrives is the one that was sent. -/
theorem recvNackMsg_eq
    {p q : Platform}
    {T : Transport σ α}
    {s : Endpoint σ}
    {r : Reception}
    {nack : NackMsg}
    {pkt : Packet}
    (hDatagram : r.datagram = pkt.datagram)
    (hPktHdr :
      pkt.header.lenMonPacketHdr.toNat =
        pkt.monPktHdr.length)
    (hDataHdr :
      pkt.header.lenMonDataHdr.toNat = pkt.monDataHdr.length)
    (hPayload : pkt.payload = nack.encode q.bigEndian)
    (hOrder : p.bigEndian = q.bigEndian) :
    recvNackMsg p T s r.msgH (r.msgbuf.drop r.bufptr) =
      match T.rtxPacketsFromTo nack.conId nack.msgSeqNum
          nack.offsetFrom.toInt32 nack.offsetTo.toInt32
          s.net with
      | none => .error .noReturn
      | some pkts => .ok (s, pkts.map .retransmit) := by
  have hRead :
      NackMsg.decode p.bigEndian
          ((r.msgbuf.drop r.bufptr).drop
            r.msgH.lenMonDataHdr.toNat) =
        nack := by
    rw [Reception.drop_bufptr_msgbuf hDatagram hPktHdr,
      Reception.msgH_datagram hDatagram, hDataHdr,
      List.append_assoc, List.drop_left, hPayload, hOrder,
      NackMsg.decode_encode_append]
  subst hRead
  rfl

end ML

end NapaBaselibs
