import NapaBaselibs.ML.State

/-
  `recv_data_msg`: putting a received data packet into the
  reception slot of its message.

  `recv_pkg` passes a pointer into the datagram and the
  number of bytes left in it; here both are one list, the
  bytes themselves.

  Key definitions include:
    * `Endpoint.recvSlot`
    * `RecvData.copyMonDataHdr`, `RecvData.copyData`
    * `RecvData.detectGap`, `fillGap`
    * `recvDataMsg`

  Key theorems include:
    * `Endpoint.recvSlot_cases`
    * `RecvData.recvFragment_cases`
    * `recvDataMsg_cases`
-/

------------------------------------------------------------
-- The Slot Of A Message
------------------------------------------------------------

namespace NapaBaselibs

namespace ML

variable {σ : Type}

/-
  A slot for the message that a packet announces.  The size
  of the buffer is computed in 32 bits without sign and kept
  in an `int`; a negative size asks for more memory than
  there is.
-/
def RecvData.create
    (conId : ConId)
    (msgH : MsgHeader) : Except Fault RecvData :=
  let bufsize :=
    (msgH.msgLength.toNat + msgH.lenMonDataHdr.toNat) % 2 ^ 32
  if bufsize < 2 ^ 31 then
    .ok
      { connectionID := conId
        seqnr := msgH.msgSeqNum
        recvbuf := List.replicate bufsize 0
        status := .active
        msgtype := msgH.msgType
        firstPacketArrived := false
        recvFragments := 0
        arrivedBytes := 0
        monitoringDataHeaderLen := msgH.lenMonDataHdr.toNat
        timeoutEvent := false
        lastPktTimeoutEvent := false
        txConnectionID := msgH.localConId
        expectedOffset := 0
        gapArray := [] }
  else
    .error .nullBuffer

/- The test by which a slot is found. -/
def RecvData.isFor
    (conId : ConId)
    (seqnr : Int32)
    (slot : RecvData) : Bool :=
  slot.connectionID = conId ∧ slot.seqnr = seqnr

theorem isFor_eq_true_iff
    {conId : ConId}
    {seqnr : Int32}
    {slot : RecvData} :
    slot.isFor conId seqnr = true ↔
      slot.connectionID = conId ∧ slot.seqnr = seqnr := by
  simp [RecvData.isFor]

/-
  The slot of a message: the one in use, or a new one in the
  first free place.  With no free place the index is still
  the `-1` that the search started from.
-/
def Endpoint.recvSlot
    (s : Endpoint σ)
    (conId : ConId)
    (msgH : MsgHeader) : Except Fault (RecvId × RecvData) :=
  match s.recvdatabuf.find?
      (RecvData.isFor conId msgH.msgSeqNum) with
  | some found => .ok found
  | none =>
      match s.recvdatabuf.firstFree? with
      | none => .error (.recvdatabufIndex (-1))
      | some recvId =>
          match RecvData.create conId msgH with
          | .error fault => .error fault
          | .ok slot => .ok (recvId, slot)

------------------------------------------------------------
-- Entering A Packet
------------------------------------------------------------

namespace RecvData

/-
  The first packet carries the monitoring header: copy it to
  the start of the buffer and skip it.  With less than the
  header left in the datagram, the copy reads past its end
  and the length of the next copy is negative.
-/
def copyMonDataHdr
    (slot : RecvData)
    (msgH : MsgHeader)
    (data : List UInt8) :
    Except Fault (RecvData × List UInt8) :=
  let len := msgH.lenMonDataHdr.toNat
  if msgH.offset = 0 then
    if data.length < len then
      .error .copyRead
    else if slot.bufsize < len then
      .error .copyWrite
    else
      .ok
        ({ slot with
            recvbuf :=
              ByteSeq.overlay slot.recvbuf 0 (data.take len)
            firstPacketArrived := true },
          data.drop len)
  else
    .ok (slot, data)

/-
  Copy the data of a packet to its place and count it.  The
  two counters are signed; a copy outside the buffer is
  reported before an overflow of a counter.
-/
def copyData
    (slot : RecvData)
    (msgH : MsgHeader)
    (data : List UInt8) : Except Fault RecvData :=
  let start := msgH.lenMonDataHdr.toNat + msgH.offset.toNat
  if slot.bufsize < start + data.length then
    .error .copyWrite
  else if 2 ^ 31 ≤ slot.arrivedBytes + data.length ∨
      2 ^ 31 ≤ slot.recvFragments + 1 then
    .error .intOverflow
  else
    .ok
      { slot with
        recvbuf := ByteSeq.overlay slot.recvbuf start data
        recvFragments := slot.recvFragments + 1
        arrivedBytes := slot.arrivedBytes + data.length }

/-
  A packet beyond the expected offset opens a gap, and with
  it the timer that asks for the missing bytes.
-/
def detectGap
    (slot : RecvData)
    (recvId : RecvId)
    (offset : Nat) : RecvData × List Output :=
  if slot.expectedOffset < offset ∧
      slot.gapCounter < rtxMaxGaps then
    ({ slot with
        gapArray :=
          slot.gapArray ++ [⟨slot.expectedOffset, offset⟩] },
      [.pktRecvTimer
        { recvId := recvId
          seqnr := slot.seqnr
          gap := slot.gapCounter
          retry := rtxRetry }])
  else
    (slot, [])

end RecvData

/-
  Shorten the first gap that a delayed packet touches at its
  start or at its end.
-/
def fillGap (offset len : Nat) : List Gap → List Gap
| [] => []
| gap :: rest =>
    if offset = gap.offsetFrom then
      { gap with offsetFrom := gap.offsetFrom + len } :: rest
    else if offset + len = gap.offsetTo then
      { gap with offsetTo := gap.offsetTo - len } :: rest
    else
      gap :: fillGap offset len rest

namespace RecvData

/- The gaps after a packet below the expected offset. -/
def fillGaps
    (slot : RecvData)
    (offset len : Nat) : RecvData :=
  if offset < slot.expectedOffset then
    { slot with
      gapArray := fillGap offset len slot.gapArray }
  else
    slot

/- The expected offset after a packet at or beyond it. -/
def advance
    (slot : RecvData)
    (offset len : Nat) : RecvData :=
  if slot.expectedOffset ≤ offset then
    { slot with expectedOffset := offset + len }
  else
    slot

/- The very basic check whether all fragments arrived. -/
def updateStatus (slot : RecvData) : RecvData :=
  { slot with
    status :=
      if slot.arrivedBytes + slot.monitoringDataHeaderLen =
          slot.bufsize then
        .complete
      else
        .active }

/- Enter a packet into the slot of its message. -/
def recvFragment
    (slot : RecvData)
    (recvId : RecvId)
    (msgH : MsgHeader)
    (data : List UInt8) :
    Except Fault (RecvData × List Output) :=
  match slot.copyMonDataHdr msgH data with
  | .error fault => .error fault
  | .ok (slot₁, data₁) =>
      match slot₁.copyData msgH data₁ with
      | .error fault => .error fault
      | .ok slot₂ =>
          let offset := msgH.offset.toNat
          let (slot₃, timers) := slot₂.detectGap recvId offset
          let slot₄ := slot₃.fillGaps offset data₁.length
          let slot₅ := slot₄.advance offset data₁.length
          .ok (slot₅.updateStatus, timers)

/- The arguments of the data callback. -/
def delivery
    (slot : RecvData)
    (con : ConnectData) : Delivery where
  buffer := slot.message
  msgtype := slot.msgtype
  nrMissingBytes :=
    slot.bufsize - slot.monitoringDataHeaderLen -
      slot.arrivedBytes
  recvFragments := slot.recvFragments
  connectionID := slot.connectionID
  firstPacketArrived := slot.firstPacketArrived
  remoteSocketID := con.externalSocketID

/- Start the timers of a slot that has none yet. -/
def startTimeouts (slot : RecvData) : RecvData :=
  if slot.timeoutEvent then
    slot
  else
    { slot with
      timeoutEvent := true
      lastPktTimeoutEvent := true }

end RecvData

/-
  Call the callback for the type in the packet header, when
  the message is complete and the callback registered.
-/
def Endpoint.callback
    (s : Endpoint σ)
    (con : ConnectData)
    (msgType : UInt8)
    (slot : RecvData) : Except Fault (List Output) :=
  if slot.status = .complete then
    if h : msgType.toNat < msgMultiplexSize then
      if s.recvcbbuf ⟨msgType.toNat, h⟩ then
        .ok [.recvData (slot.delivery con)]
      else
        .ok []
    else
      .error (.recvcbbufIndex msgType.toNat)
  else
    .ok []

/-
  The part of `recv_data_msg` after the search for a slot:
  enter the packet and, if anyone wants to know, report the
  message and start the timers.
-/
def Endpoint.enterPacket
    (s : Endpoint σ)
    (con : ConnectData)
    (recvId : RecvId)
    (slot : RecvData)
    (msgH : MsgHeader)
    (data : List UInt8) : StepResult σ :=
  if slot.status = .complete then
    .ok (s, [])
  else
    match slot.recvFragment recvId msgH data with
    | .error fault => .error fault
    | .ok (slot', timers) =>
        if s.recvDataCallback then
          match s.callback con msgH.msgType slot' with
          | .error fault => .error fault
          | .ok calls =>
              .ok
                (s.setSlot recvId slot'.startTimeouts,
                  timers ++ calls)
        else
          .ok (s.setSlot recvId slot', timers)

/- `recv_data_msg`. -/
def recvDataMsg
    (s : Endpoint σ)
    (msgH : MsgHeader)
    (data : List UInt8) : StepResult σ :=
  match connectbufAt msgH.remoteConId.toInt with
  | .error fault => .error fault
  | .ok conId =>
      match s.connectbuf conId with
      | none => .ok (s, [])
      | some con =>
          match s.recvSlot conId msgH with
          | .error fault => .error fault
          | .ok (recvId, slot) =>
              s.enterPacket con recvId slot msgH data

------------------------------------------------------------
-- What A Packet Does To A Slot
------------------------------------------------------------

/-
  The two states of a slot belong to one message: what was
  fixed when the slot was created is the same.
-/
structure RecvData.SameMessage
    (slot slot' : RecvData) : Prop where
  connectionID : slot'.connectionID = slot.connectionID
  seqnr : slot'.seqnr = slot.seqnr
  txConnectionID : slot'.txConnectionID = slot.txConnectionID
  msgtype : slot'.msgtype = slot.msgtype
  monitoringDataHeaderLen :
    slot'.monitoringDataHeaderLen =
      slot.monitoringDataHeaderLen
  bufsize : slot'.bufsize = slot.bufsize

theorem RecvData.SameMessage.refl
    (slot : RecvData) :
    slot.SameMessage slot :=
  ⟨rfl, rfl, rfl, rfl, rfl, rfl⟩

theorem RecvData.SameMessage.trans
    {slot₁ slot₂ slot₃ : RecvData}
    (hFirst : slot₁.SameMessage slot₂)
    (hSecond : slot₂.SameMessage slot₃) :
    slot₁.SameMessage slot₃ :=
  ⟨hSecond.connectionID.trans hFirst.connectionID,
    hSecond.seqnr.trans hFirst.seqnr,
    hSecond.txConnectionID.trans hFirst.txConnectionID,
    hSecond.msgtype.trans hFirst.msgtype,
    hSecond.monitoringDataHeaderLen.trans
      hFirst.monitoringDataHeaderLen,
    hSecond.bufsize.trans hFirst.bufsize⟩

theorem RecvData.sameMessage_startTimeouts
    (slot : RecvData) :
    slot.SameMessage slot.startTimeouts := by
  unfold startTimeouts
  split
  · exact .refl slot
  · exact ⟨rfl, rfl, rfl, rfl, rfl, rfl⟩

namespace RecvData

/- What creating a slot fixes. -/
theorem create_ok
    {conId : ConId}
    {msgH : MsgHeader}
    {slot : RecvData}
    (hCreate : create conId msgH = .ok slot) :
    slot.isFor conId msgH.msgSeqNum = true ∧
      slot.status = .active ∧
      slot.txConnectionID = msgH.localConId ∧
      slot.gapArray = [] ∧
      slot.expectedOffset = 0 ∧
      slot.monitoringDataHeaderLen =
        msgH.lenMonDataHdr.toNat ∧
      slot.bufsize =
        (msgH.msgLength.toNat + msgH.lenMonDataHdr.toNat) %
          2 ^ 32 := by
  unfold create at hCreate
  simp only at hCreate
  split at hCreate
  · cases hCreate
    simp [isFor, bufsize]
  · cases hCreate

/- Creating a slot can only run out of memory. -/
theorem create_error
    {conId : ConId}
    {msgH : MsgHeader}
    {fault : Fault}
    (hCreate : create conId msgH = .error fault) :
    fault = .nullBuffer := by
  unfold create at hCreate
  simp only at hCreate
  split at hCreate
  · cases hCreate
  · cases hCreate
    rfl

/- The monitoring header is copied and skipped, or absent. -/
theorem copyMonDataHdr_cases
    {slot slot' : RecvData}
    {msgH : MsgHeader}
    {data data' : List UInt8}
    (hCopy :
      slot.copyMonDataHdr msgH data = .ok (slot', data')) :
    (msgH.offset = 0 ∧
        msgH.lenMonDataHdr.toNat ≤ data.length ∧
        msgH.lenMonDataHdr.toNat ≤ slot.bufsize ∧
        slot' =
          { slot with
            recvbuf :=
              ByteSeq.overlay slot.recvbuf 0
                (data.take msgH.lenMonDataHdr.toNat)
            firstPacketArrived := true } ∧
        data' = data.drop msgH.lenMonDataHdr.toNat) ∨
      (msgH.offset ≠ 0 ∧ slot' = slot ∧ data' = data) := by
  unfold copyMonDataHdr at hCopy
  simp only at hCopy
  split at hCopy
  · rename_i hFirst
    split at hCopy
    · cases hCopy
    · rename_i hRead
      split at hCopy
      · cases hCopy
      · rename_i hWrite
        cases hCopy
        exact
          Or.inl
            ⟨hFirst, by omega, by omega, rfl, rfl⟩
  · rename_i hLater
    cases hCopy
    exact Or.inr ⟨hLater, rfl, rfl⟩

/- A packet's data lies inside the buffer when it is copied. -/
theorem copyData_ok
    {slot slot' : RecvData}
    {msgH : MsgHeader}
    {data : List UInt8}
    (hCopy : slot.copyData msgH data = .ok slot') :
    msgH.lenMonDataHdr.toNat + msgH.offset.toNat +
          data.length ≤ slot.bufsize ∧
      slot' =
        { slot with
          recvbuf :=
            ByteSeq.overlay slot.recvbuf
              (msgH.lenMonDataHdr.toNat +
                msgH.offset.toNat) data
          recvFragments := slot.recvFragments + 1
          arrivedBytes :=
            slot.arrivedBytes + data.length } := by
  unfold copyData at hCopy
  simp only at hCopy
  split at hCopy
  · cases hCopy
  · rename_i hFits
    split at hCopy
    · cases hCopy
    · cases hCopy
      exact ⟨by omega, rfl⟩

/- The gaps after a packet. -/
def nextGaps
    (slot : RecvData)
    (offset len : Nat) : List Gap :=
  if slot.expectedOffset < offset ∧
      slot.gapCounter < rtxMaxGaps then
    slot.gapArray ++ [⟨slot.expectedOffset, offset⟩]
  else if offset < slot.expectedOffset then
    fillGap offset len slot.gapArray
  else
    slot.gapArray

/- The expected offset after a packet. -/
def nextOffset
    (slot : RecvData)
    (offset len : Nat) : Nat :=
  if slot.expectedOffset ≤ offset then
    offset + len
  else
    slot.expectedOffset

/- The slot after the gap tracking and the final check. -/
def tracked
    (slot : RecvData)
    (offset len : Nat) : RecvData :=
  { slot with
    gapArray := slot.nextGaps offset len
    expectedOffset := slot.nextOffset offset len
    status := slot.updateStatus.status }

/- The three steps of gap tracking and the check together. -/
theorem updateStatus_advance_fillGaps_detectGap
    (slot : RecvData)
    (recvId : RecvId)
    (offset len : Nat) :
    ((((slot.detectGap recvId offset).1).fillGaps
      offset len).advance offset len).updateStatus =
        slot.tracked offset len := by
  unfold detectGap fillGaps advance tracked nextGaps
    nextOffset updateStatus
  by_cases hGap :
      slot.expectedOffset < offset ∧
        slot.gapCounter < rtxMaxGaps
  · have hNotBelow : ¬ offset < slot.expectedOffset := by
      omega
    have hBeyond : slot.expectedOffset ≤ offset := by omega
    simp only [hGap, and_self, if_true, hNotBelow, if_false,
      hBeyond]
    rfl
  · by_cases hBelow : offset < slot.expectedOffset
    · have hNotBeyond : ¬ slot.expectedOffset ≤ offset := by
        omega
      simp only [hGap, hBelow, hNotBeyond, if_true, if_false]
      rfl
    · have hBeyond : slot.expectedOffset ≤ offset := by
        omega
      simp only [hGap, hBelow, hBeyond, if_true, if_false]
      rfl

/- The timers started when a gap opens. -/
theorem detectGap_timers
    (slot : RecvData)
    (recvId : RecvId)
    (offset : Nat) :
    ∀ output ∈ (slot.detectGap recvId offset).2,
      ∃ arg : PktRecvTimeoutArg,
        output = .pktRecvTimer arg ∧
          arg.recvId = recvId ∧ arg.seqnr = slot.seqnr := by
  unfold detectGap
  split
  · intro output hMem
    rw [List.mem_singleton] at hMem
    exact ⟨_, hMem, rfl, rfl⟩
  · simp

/-
  A packet that is entered is entered by its copies; the gap
  tracking and the check follow.
-/
theorem recvFragment_cases
    {slot slot' : RecvData}
    {recvId : RecvId}
    {msgH : MsgHeader}
    {data : List UInt8}
    {timers : List Output}
    (hRecv :
      slot.recvFragment recvId msgH data =
        .ok (slot', timers)) :
    ∃ slot₁ data₁ slot₂,
      slot.copyMonDataHdr msgH data = .ok (slot₁, data₁) ∧
        slot₁.copyData msgH data₁ = .ok slot₂ ∧
        slot' =
          slot₂.tracked msgH.offset.toNat data₁.length ∧
        timers =
          (slot₂.detectGap recvId msgH.offset.toNat).2 := by
  unfold recvFragment at hRecv
  split at hRecv
  · cases hRecv
  · rename_i slot₁ data₁ hHeader
    split at hRecv
    · cases hRecv
    · rename_i slot₂ hData
      simp only [updateStatus_advance_fillGaps_detectGap]
        at hRecv
      cases hRecv
      exact ⟨slot₁, data₁, slot₂, hHeader, hData, rfl, rfl⟩

/- Besides the slot, entering a packet only starts timers. -/
theorem recvFragment_timers
    {slot slot' : RecvData}
    {recvId : RecvId}
    {msgH : MsgHeader}
    {data : List UInt8}
    {timers : List Output}
    (hRecv :
      slot.recvFragment recvId msgH data =
        .ok (slot', timers)) :
    ∀ output ∈ timers, ∃ arg, output = .pktRecvTimer arg := by
  rcases recvFragment_cases hRecv with
    ⟨_, _, slot₂, _, _, _, rfl⟩
  intro output hMem
  rcases slot₂.detectGap_timers recvId _ output hMem with
    ⟨arg, hOutput, _⟩
  exact ⟨arg, hOutput⟩

theorem recvFragment_quiet
    {slot slot' : RecvData}
    {recvId : RecvId}
    {msgH : MsgHeader}
    {data : List UInt8}
    {timers : List Output}
    (hRecv :
      slot.recvFragment recvId msgH data =
        .ok (slot', timers)) :
    Quiet timers := by
  intro output hMem
  rcases recvFragment_timers hRecv output hMem with
    ⟨arg, rfl⟩
  trivial

/- Entering a packet reads no table. -/
theorem recvFragment_error
    {slot : RecvData}
    {recvId : RecvId}
    {msgH : MsgHeader}
    {data : List UInt8}
    {fault : Fault}
    (hRecv :
      slot.recvFragment recvId msgH data = .error fault) :
    ¬ fault.IsTable := by
  unfold recvFragment at hRecv
  split at hRecv
  · rename_i hHeader
    cases hRecv
    unfold copyMonDataHdr at hHeader
    simp only at hHeader
    split at hHeader
    · split at hHeader
      · cases hHeader
        exact id
      · split at hHeader
        · cases hHeader
          exact id
        · cases hHeader
    · cases hHeader
  · split at hRecv
    · rename_i hData
      cases hRecv
      unfold copyData at hData
      simp only at hData
      split at hData
      · cases hData
        exact id
      · split at hData
        · cases hData
          exact id
        · cases hData
    · cases hRecv

/- Entering a packet keeps what identifies the slot. -/
theorem recvFragment_sameMessage
    {slot slot' : RecvData}
    {recvId : RecvId}
    {msgH : MsgHeader}
    {data : List UInt8}
    {timers : List Output}
    (hRecv :
      slot.recvFragment recvId msgH data =
        .ok (slot', timers)) :
    slot.SameMessage slot' := by
  rcases recvFragment_cases hRecv with
    ⟨slot₁, data₁, slot₂, hHeader, hData, rfl, _⟩
  rcases copyData_ok hData with ⟨hFits, rfl⟩
  have hBlock :
      (ByteSeq.overlay slot₁.recvbuf
        (msgH.lenMonDataHdr.toNat + msgH.offset.toNat)
        data₁).length = slot₁.recvbuf.length :=
    ByteSeq.length_overlay hFits
  rcases copyMonDataHdr_cases hHeader with
    ⟨_, hRead, hWrite, rfl, _⟩ | ⟨_, rfl, _⟩
  · have hFirst :
        (ByteSeq.overlay slot.recvbuf 0
          (data.take msgH.lenMonDataHdr.toNat)).length =
            slot.recvbuf.length := by
      refine ByteSeq.length_overlay ?_
      rw [List.length_take]
      unfold bufsize at hWrite
      omega
    exact
      ⟨rfl, rfl, rfl, rfl, rfl, hBlock.trans hFirst⟩
  · exact ⟨rfl, rfl, rfl, rfl, rfl, hBlock⟩

end RecvData

------------------------------------------------------------
-- What A Packet Does To The Node
------------------------------------------------------------

/-
  The slot of a message is the first one in use for it, or
  one just created in a free place.
-/
theorem Endpoint.recvSlot_cases
    {s : Endpoint σ}
    {conId : ConId}
    {msgH : MsgHeader}
    {recvId : RecvId}
    {slot : RecvData}
    (hSlot :
      s.recvSlot conId msgH = .ok (recvId, slot)) :
    slot.isFor conId msgH.msgSeqNum = true ∧
      (s.recvdatabuf recvId = some slot ∨
        (s.recvdatabuf recvId = none ∧
          s.recvdatabuf.find?
            (RecvData.isFor conId msgH.msgSeqNum) = none ∧
          RecvData.create conId msgH = .ok slot)) := by
  unfold recvSlot at hSlot
  split at hSlot
  · rename_i found hFind
    cases hSlot
    rcases SlotTable.of_find?_eq_some hFind with
      ⟨hAt, hIs⟩
    exact ⟨hIs, Or.inl hAt⟩
  · rename_i hNone
    split at hSlot
    · cases hSlot
    · rename_i free hFree
      split at hSlot
      · cases hSlot
      · rename_i slot hCreate
        cases hSlot
        exact
          ⟨(RecvData.create_ok hCreate).1,
            Or.inr
              ⟨SlotTable.free_of_firstFree? hFree, hNone,
                hCreate⟩⟩

/- A type below the number of callbacks has one to look up. -/
theorem Endpoint.callback_ok
    (s : Endpoint σ)
    (con : ConnectData)
    (slot : RecvData)
    {msgType : UInt8}
    (hType : msgType.toNat < msgMultiplexSize) :
    ∃ calls, s.callback con msgType slot = .ok calls := by
  unfold callback
  split
  · split
    · exact ⟨_, rfl⟩
    · exact ⟨_, rfl⟩
  · exact ⟨_, rfl⟩

/- The callback is called with the slot of the message. -/
theorem Endpoint.callback_cases
    {s : Endpoint σ}
    {con : ConnectData}
    {msgType : UInt8}
    {slot : RecvData}
    {calls : List Output}
    (hCalls : s.callback con msgType slot = .ok calls) :
    calls = [] ∨
      (slot.status = .complete ∧
        calls = [.recvData (slot.delivery con)]) := by
  unfold callback at hCalls
  split at hCalls
  · rename_i hComplete
    split at hCalls
    · split at hCalls
      · cases hCalls
        exact Or.inr ⟨hComplete, rfl⟩
      · cases hCalls
        exact Or.inl rfl
    · cases hCalls
  · cases hCalls
    exact Or.inl rfl

/-
  Entering a packet into its slot: nothing, for a message
  that is complete, or the new slot with its timers and, for
  the packet that completes the message, the callback.
-/
theorem Endpoint.enterPacket_cases
    {s s' : Endpoint σ}
    {con : ConnectData}
    {recvId : RecvId}
    {slot : RecvData}
    {msgH : MsgHeader}
    {data : List UInt8}
    {outputs : List Output}
    (hEnter :
      s.enterPacket con recvId slot msgH data =
        .ok (s', outputs)) :
    (slot.status = .complete ∧ s' = s ∧ outputs = []) ∨
      ∃ (slot₁ slot₂ : RecvData)
          (timers calls : List Output),
        slot.status ≠ .complete ∧
          slot.recvFragment recvId msgH data =
            .ok (slot₁, timers) ∧
          (slot₂ = slot₁ ∨ slot₂ = slot₁.startTimeouts) ∧
          (calls = [] ∨
            (slot₁.status = .complete ∧
              calls = [.recvData (slot₁.delivery con)])) ∧
          s' = s.setSlot recvId slot₂ ∧
          outputs = timers ++ calls := by
  unfold enterPacket at hEnter
  split at hEnter
  · rename_i hComplete
    cases hEnter
    exact Or.inl ⟨hComplete, rfl, rfl⟩
  · rename_i hOpen
    split at hEnter
    · cases hEnter
    · rename_i slot₁ timers hFragment
      split at hEnter
      · split at hEnter
        · cases hEnter
        · rename_i calls hCalls
          cases hEnter
          exact
            Or.inr
              ⟨slot₁, _, _, calls, hOpen, hFragment,
                Or.inr rfl, s.callback_cases hCalls, rfl,
                rfl⟩
      · cases hEnter
        exact
          Or.inr
            ⟨slot₁, _, _, [], hOpen, hFragment, Or.inl rfl,
              Or.inl rfl, rfl, (List.append_nil _).symm⟩

/-
  A data packet does nothing for a connection that is closed;
  otherwise it is entered into the slot of its message.
-/
theorem recvDataMsg_cases
    {s s' : Endpoint σ}
    {msgH : MsgHeader}
    {data : List UInt8}
    {outputs : List Output}
    (hRecv :
      recvDataMsg s msgH data = .ok (s', outputs)) :
    (s' = s ∧ outputs = []) ∨
      ∃ (conId : ConId) (con : ConnectData)
          (recvId : RecvId) (slot : RecvData),
        msgH.remoteConId.toInt = (conId : Nat) ∧
          s.connectbuf conId = some con ∧
          s.recvSlot conId msgH = .ok (recvId, slot) ∧
          s.enterPacket con recvId slot msgH data =
            .ok (s', outputs) := by
  unfold recvDataMsg at hRecv
  split at hRecv
  · cases hRecv
  · rename_i conId hIndex
    split at hRecv
    · cases hRecv
      exact Or.inl ⟨rfl, rfl⟩
    · rename_i con hCon
      split at hRecv
      · cases hRecv
      · rename_i recvId slot hSlot
        exact
          Or.inr
            ⟨conId, con, recvId, slot,
              eq_of_connectbufAt hIndex, hCon, hSlot,
              hRecv⟩

end ML

end NapaBaselibs
