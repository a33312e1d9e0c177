import NapaBaselibs.ML.Fragmentation
import NapaBaselibs.ML.RecvData

/-
  What `recv_data_msg` makes of the fragments of a message.

  The slot of a message counts the bytes received, a repeated
  fragment again each time, and its buffer holds the message
  wherever some fragment has been copied.

  Key definitions include:
    * `RecvData.Holds`
    * `Message.assembled`
    * `Endpoint.Tracks`

  Key theorems include:
    * `RecvData.Holds.recvFragment`
    * `RecvData.Holds.exists_recvFragment`
    * `Endpoint.Tracks.recvDataMsg`
    * `Endpoint.Tracks.exists_recvDataMsg`
-/

------------------------------------------------------------
-- A Slot And The Pieces It Holds
------------------------------------------------------------

namespace NapaBaselibs

namespace ML

open Tiling (Piece total Covers)

/-
  The buffer of a message of which some pieces have arrived:
  zero where none has been copied.
-/
def Message.assembled
    (m : Message)
    (received : List Piece) : List UInt8 :=
  (List.range m.length).map (fun k =>
    if Covers received k then m.bytes.getD k 0 else 0)

/- With every position covered, it is the message. -/
theorem Message.assembled_of_covers
    {m : Message}
    {received : List Piece}
    (hCovers : ∀ k < m.length, Covers received k) :
    m.assembled received = m.bytes := by
  apply List.ext_getElem?
  intro k
  unfold assembled
  rw [List.getElem?_map]
  by_cases hLt : k < m.length
  · rw [List.getElem?_range hLt]
    unfold length at hLt
    simp [hCovers k hLt, hLt]
  · have hNone : (List.range m.length)[k]? = none := by
      rw [List.getElem?_eq_none_iff, List.length_range]
      omega
    unfold length at hLt
    rw [hNone, Option.map_none,
      List.getElem?_eq_none (by omega)]

/- A slot that has taken in the pieces of a message. -/
structure RecvData.Holds
    (m : Message)
    (received : List Piece)
    (slot : RecvData) : Prop where
  connectionID : slot.connectionID = m.conId
  seqnr : slot.seqnr = m.seqnr
  msgtype : slot.msgtype = m.msgtype
  txConnectionID : slot.txConnectionID = m.localConId
  monitoringDataHeaderLen :
    slot.monitoringDataHeaderLen = m.monDataHdr.length
  bufsize : slot.bufsize = m.monDataHdr.length + m.length
  arrivedBytes : slot.arrivedBytes = total received
  recvFragments : slot.recvFragments = received.length
  complete_iff :
    slot.status = .complete ↔ total received = m.length
  byteAt :
    ∀ k < m.length,
      slot.recvbuf[m.monDataHdr.length + k]? =
        some
          (if Covers received k then m.bytes.getD k 0 else 0)

namespace RecvData

namespace Holds

variable {m : Message}
variable {received : List Piece}
variable {slot : RecvData}

theorem isFor
    (hHolds : slot.Holds m received) :
    slot.isFor m.conId m.seqnr = true := by
  simp [RecvData.isFor, hHolds.connectionID, hHolds.seqnr]

/- The buffer behind the monitoring header. -/
theorem message_eq
    (hHolds : slot.Holds m received) :
    slot.message = m.assembled received := by
  apply List.ext_getElem?
  intro k
  unfold message Message.assembled
  rw [List.getElem?_drop, hHolds.monitoringDataHeaderLen,
    List.getElem?_map]
  by_cases hLt : k < m.length
  · rw [hHolds.byteAt k hLt, List.getElem?_range hLt,
      Option.map_some]
  · have hNone : (List.range m.length)[k]? = none := by
      rw [List.getElem?_eq_none_iff, List.length_range]
      omega
    have hSize := hHolds.bufsize
    unfold RecvData.bufsize at hSize
    rw [hNone, Option.map_none,
      List.getElem?_eq_none (by omega)]

/- What the callback is called with. -/
theorem delivery_eq
    (hHolds : slot.Holds m received)
    (con : ConnectData) :
    (slot.delivery con).buffer = m.assembled received ∧
      (slot.delivery con).msgtype = m.msgtype ∧
      (slot.delivery con).connectionID = m.conId ∧
      (slot.delivery con).nrMissingBytes =
        (m.length : Int) - total received := by
  refine
    ⟨hHolds.message_eq, hHolds.msgtype,
      hHolds.connectionID, ?_⟩
  unfold delivery
  simp only [hHolds.bufsize,
    hHolds.monitoringDataHeaderLen, hHolds.arrivedBytes]
  omega

end Holds

/- A slot just created for a fragment holds nothing yet. -/
theorem holds_of_create
    {m : Message}
    {pkt : Packet}
    {slot : RecvData}
    (hFragment : m.IsFragment pkt)
    (hCreate : create m.conId pkt.header = .ok slot) :
    slot.Holds m [] := by
  have hPos := m.bytes_pos
  have hMax := m.bytes_le
  have hHdr := m.monDataHdr.length_le
  unfold maxMsgLength at hMax
  unfold monHeaderSpace at hHdr
  have hSize :
      (m.length + m.monDataHdr.length) % 2 ^ 32 =
        m.monDataHdr.length + m.length := by
    unfold Message.length MonHeader.length
    omega
  unfold create at hCreate
  rw [hFragment.msgLength, hFragment.lenMonDataHdr, hSize]
    at hCreate
  simp only at hCreate
  split at hCreate
  · cases hCreate
    refine
      ⟨rfl, hFragment.msgSeqNum, hFragment.msgType,
        hFragment.localConId, rfl, ?_, rfl, rfl, ?_, ?_⟩
    · simp [bufsize]
    · unfold Message.length
      simp only [reduceCtorEq, Tiling.total_nil, false_iff]
      omega
    · intro k hLt
      simp only [Tiling.not_covers_nil, if_false]
      rw [List.getElem?_replicate_of_lt (by omega)]
  · cases hCreate

/- A fragment's slot can always be created. -/
theorem exists_create
    {m : Message}
    {pkt : Packet}
    (hFragment : m.IsFragment pkt) :
    ∃ slot, create m.conId pkt.header = .ok slot := by
  have hMax := m.bytes_le
  have hHdr := m.monDataHdr.length_le
  unfold maxMsgLength at hMax
  unfold monHeaderSpace at hHdr
  have hBelow :
      (pkt.header.msgLength.toNat +
          pkt.header.lenMonDataHdr.toNat) % 2 ^ 32 <
        2 ^ 31 := by
    rw [hFragment.msgLength, hFragment.lenMonDataHdr]
    unfold Message.length MonHeader.length
    omega
  exact ⟨_, if_pos hBelow⟩

/-
  The header of a first fragment is skipped; it is copied to
  a part of the buffer in which no payload lies.
-/
theorem Holds.copyMonDataHdr
    {m : Message}
    {received : List Piece}
    {slot : RecvData}
    {pkt : Packet}
    (hHolds : slot.Holds m received)
    (hFragment : m.IsFragment pkt) :
    ∃ slot₁,
      slot.copyMonDataHdr pkt.header pkt.content =
          .ok (slot₁, pkt.payload) ∧
        slot₁.Holds m received := by
  unfold RecvData.copyMonDataHdr
  simp only
  by_cases hFirst : pkt.header.offset = 0
  · have hHdr : pkt.monDataHdr = m.monDataHdr.bytes := by
      rw [hFragment.monDataHdr, if_pos hFirst]
    have hContent :
        pkt.content = m.monDataHdr.bytes ++ pkt.payload := by
      rw [Packet.content, hHdr]
    have hSize := hHolds.bufsize
    rw [if_pos hFirst, hFragment.lenMonDataHdr, hContent,
      if_neg (by simp), if_neg (by omega)]
    refine
      ⟨_, by rw [List.take_left, List.drop_left], ?_⟩
    unfold RecvData.bufsize at hSize
    have hFits :
        0 + m.monDataHdr.bytes.length ≤
          slot.recvbuf.length := by
      unfold MonHeader.length at hSize
      omega
    refine
      ⟨hHolds.connectionID, hHolds.seqnr, hHolds.msgtype,
        hHolds.txConnectionID,
        hHolds.monitoringDataHeaderLen,
        (ByteSeq.length_overlay hFits).trans hSize,
        hHolds.arrivedBytes, hHolds.recvFragments,
        hHolds.complete_iff, ?_⟩
    intro k hLt
    rw [ByteSeq.getElem?_overlay hFits,
      if_neg (by unfold MonHeader.length; omega)]
    exact hHolds.byteAt k hLt
  · have hHdr : pkt.monDataHdr = [] := by
      rw [hFragment.monDataHdr, if_neg hFirst]
    rw [if_neg hFirst]
    refine ⟨slot, ?_, hHolds⟩
    rw [Packet.content, hHdr, List.nil_append]

/- A fragment lies inside the buffer of its slot. -/
theorem Holds.copy_fits
    {m : Message}
    {received : List Piece}
    {slot : RecvData}
    {pkt : Packet}
    (hHolds : slot.Holds m received)
    (hFragment : m.IsFragment pkt) :
    pkt.header.lenMonDataHdr.toNat +
        pkt.header.offset.toNat + pkt.payload.length ≤
      slot.bufsize := by
  have hFits := hFragment.fits
  rw [Packet.piece_stop] at hFits
  rw [hHolds.bufsize, hFragment.lenMonDataHdr]
  omega

/- Where a fragment is copied, the buffer holds the message. -/
theorem Holds.byteAt_overlay
    {m : Message}
    {received : List Piece}
    {slot : RecvData}
    {pkt : Packet}
    (hHolds : slot.Holds m received)
    (hFragment : m.IsFragment pkt)
    {k : Nat}
    (hLt : k < m.length) :
    (ByteSeq.overlay slot.recvbuf
        (pkt.header.lenMonDataHdr.toNat +
          pkt.header.offset.toNat)
        pkt.payload)[m.monDataHdr.length + k]? =
      some
        (if Covers (received ++ [pkt.piece]) k then
          m.bytes.getD k 0
        else
          0) := by
  rw [ByteSeq.getElem?_overlay
    (hHolds.copy_fits hFragment), hFragment.lenMonDataHdr]
  by_cases hIn :
      pkt.piece.start ≤ k ∧ k < pkt.piece.stop
  · have hCovers : Covers (received ++ [pkt.piece]) k :=
      Tiling.covers_append.mpr
        (Or.inr (Tiling.covers_singleton.mpr hIn))
    rw [Packet.piece_start, Packet.piece_stop] at hIn
    have hAt :
        pkt.piece.start +
            (m.monDataHdr.length + k -
              (m.monDataHdr.length +
                pkt.header.offset.toNat)) = k := by
      rw [Packet.piece_start]
      omega
    rw [if_pos (by omega), if_pos hCovers,
      hFragment.payload, ByteSeq.getElem?_slice, hAt,
      if_pos (by rw [Packet.piece_length]; omega)]
    unfold Message.length at hLt
    simp [hLt]
  · have hCovers :
        Covers (received ++ [pkt.piece]) k ↔
          Covers received k := by
      rw [Tiling.covers_append, Tiling.covers_singleton,
        or_iff_left hIn]
    rw [Packet.piece_start, Packet.piece_stop] at hIn
    rw [if_neg (by omega)]
    simp only [hCovers]
    exact hHolds.byteAt k hLt

/-
  A fragment that is entered adds its piece to what the slot
  holds.
-/
theorem Holds.recvFragment
    {m : Message}
    {received : List Piece}
    {slot slot' : RecvData}
    {recvId : RecvId}
    {pkt : Packet}
    {timers : List Output}
    (hHolds : slot.Holds m received)
    (hFragment : m.IsFragment pkt)
    (hRecv :
      slot.recvFragment recvId pkt.header pkt.content =
        .ok (slot', timers)) :
    slot'.Holds m (received ++ [pkt.piece]) := by
  rcases hHolds.copyMonDataHdr hFragment with
    ⟨slot₁, hHeader, hHolds₁⟩
  rcases recvFragment_cases hRecv with
    ⟨_, _, slot₂, hHeader', hData, rfl, _⟩
  rw [hHeader] at hHeader'
  cases hHeader'
  rcases copyData_ok hData with ⟨hFits, rfl⟩
  have hLength :
      (ByteSeq.overlay slot₁.recvbuf
        (pkt.header.lenMonDataHdr.toNat +
          pkt.header.offset.toNat)
        pkt.payload).length =
        m.monDataHdr.length + m.length :=
    (ByteSeq.length_overlay hFits).trans hHolds₁.bufsize
  have hTotal :
      total (received ++ [pkt.piece]) =
        slot₁.arrivedBytes + pkt.payload.length := by
    rw [Tiling.total_append, hHolds₁.arrivedBytes]
    simp
  refine
    ⟨hHolds₁.connectionID, hHolds₁.seqnr, hHolds₁.msgtype,
      hHolds₁.txConnectionID,
      hHolds₁.monitoringDataHeaderLen, hLength,
      hTotal.symm, ?_, ?_, ?_⟩
  · simp [tracked, hHolds₁.recvFragments]
  · rw [hTotal]
    unfold tracked updateStatus RecvData.bufsize
    simp only [hLength, hHolds₁.monitoringDataHeaderLen]
    split
    · simp only [true_iff]
      omega
    · simp only [reduceCtorEq, false_iff]
      omega
  · intro k hLt
    exact hHolds₁.byteAt_overlay hFragment hLt

/-
  A fragment is entered unless one of the counters would
  overflow.
-/
theorem Holds.exists_recvFragment
    {m : Message}
    {received : List Piece}
    {slot : RecvData}
    {pkt : Packet}
    (recvId : RecvId)
    (hHolds : slot.Holds m received)
    (hFragment : m.IsFragment pkt)
    (hBytes :
      total received + pkt.piece.length < 2 ^ 31)
    (hCount : received.length + 1 < 2 ^ 31) :
    ∃ slot' timers,
      slot.recvFragment recvId pkt.header pkt.content =
        .ok (slot', timers) := by
  rcases hHolds.copyMonDataHdr hFragment with
    ⟨slot₁, hHeader, hHolds₁⟩
  have hFits := hHolds₁.copy_fits hFragment
  unfold RecvData.recvFragment
  rw [hHeader]
  simp only
  unfold copyData
  simp only [hHolds₁.arrivedBytes, hHolds₁.recvFragments]
  rw [Packet.piece_length] at hBytes
  rw [if_neg (by omega), if_neg (by omega)]
  exact ⟨_, _, rfl⟩

end RecvData

------------------------------------------------------------
-- A Message And The Table
------------------------------------------------------------

variable {σ : Type}

/-
  The node has taken in these pieces of the message: none,
  and there is no slot for it, or those in its slot.
-/
def Endpoint.Tracks
    (s : Endpoint σ)
    (m : Message)
    (received : List Piece) : Prop :=
  (received = [] ∧
      s.recvdatabuf.find? (RecvData.isFor m.conId m.seqnr) =
        none) ∨
    (received ≠ [] ∧
      ∃ recvId slot,
        s.recvdatabuf.find?
            (RecvData.isFor m.conId m.seqnr) =
          some (recvId, slot) ∧
        slot.Holds m received)

/- The callback for the type of the message is registered. -/
def Endpoint.reports
    (s : Endpoint σ)
    (m : Message) : Bool :=
  s.recvDataCallback &&
    s.recvcbbuf ⟨m.msgtype.toNat, m.msgtype_lt⟩

/- Two messages that are told apart by their slots. -/
def Message.Distinct (m m' : Message) : Prop :=
  m.conId ≠ m'.conId ∨ m.seqnr ≠ m'.seqnr

/-
  What a fragment does: nothing, when the message has as many
  bytes as it should; otherwise its piece is added, and the
  callback called when that makes the bytes as many.
-/
inductive FragmentEffect
    (s : Endpoint σ)
    (con : ConnectData)
    (m : Message)
    (received : List Piece)
    (pkt : Packet) : Endpoint σ → List Output → Prop where
  | ignored
      (hDone : total received = m.length) :
      FragmentEffect s con m received pkt s []
  | entered
      {recvId : RecvId}
      {slot : RecvData}
      {outputs : List Output}
      (hOpen : total received ≠ m.length)
      (hHolds : slot.Holds m (received ++ [pkt.piece]))
      (hFresh :
        received = [] ↔ s.recvdatabuf recvId = none)
      (hPlace :
        ∀ old, s.recvdatabuf recvId = some old →
          old.isFor m.conId m.seqnr = true)
      (hTracks :
        (s.setSlot recvId slot).Tracks m
          (received ++ [pkt.piece]))
      (hDeliveries :
        deliveries outputs =
          if total (received ++ [pkt.piece]) = m.length then
            [slot.delivery con]
          else
            []) :
      FragmentEffect s con m received pkt
        (s.setSlot recvId slot) outputs

/- Starting the timers does not touch the message. -/
theorem RecvData.Holds.startTimeouts
    {m : Message}
    {received : List Piece}
    {slot : RecvData}
    (hHolds : slot.Holds m received) :
    slot.startTimeouts.Holds m received := by
  unfold RecvData.startTimeouts
  split
  · exact hHolds
  · exact
      ⟨hHolds.connectionID, hHolds.seqnr, hHolds.msgtype,
        hHolds.txConnectionID,
        hHolds.monitoringDataHeaderLen, hHolds.bufsize,
        hHolds.arrivedBytes, hHolds.recvFragments,
        hHolds.complete_iff, hHolds.byteAt⟩

theorem RecvData.delivery_startTimeouts
    (slot : RecvData)
    (con : ConnectData) :
    slot.startTimeouts.delivery con = slot.delivery con := by
  unfold startTimeouts
  split
  · rfl
  · rfl

theorem Endpoint.reports_iff
    {s : Endpoint σ}
    {m : Message} :
    s.reports m = true ↔
      s.recvDataCallback = true ∧
        s.recvcbbuf ⟨m.msgtype.toNat, m.msgtype_lt⟩ = true :=
  Bool.and_eq_true_iff

/- A registered callback is called for what is complete. -/
theorem Endpoint.callback_eq
    {s : Endpoint σ}
    {m : Message}
    {msgType : UInt8}
    (con : ConnectData)
    (slot : RecvData)
    (hReports : s.reports m = true)
    (hType : msgType = m.msgtype) :
    s.callback con msgType slot =
      .ok
        (if slot.status = .complete then
          [.recvData (slot.delivery con)]
        else
          []) := by
  unfold callback
  rw [hType, dif_pos m.msgtype_lt,
    if_pos (reports_iff.mp hReports).2]
  split
  · rfl
  · rfl

/- The slot that a fragment of a tracked message is for. -/
theorem Endpoint.Tracks.of_recvSlot
    {s : Endpoint σ}
    {m : Message}
    {received : List Piece}
    {pkt : Packet}
    {recvId : RecvId}
    {slot : RecvData}
    (hTracks : s.Tracks m received)
    (hFragment : m.IsFragment pkt)
    (hSlot :
      s.recvSlot m.conId pkt.header = .ok (recvId, slot)) :
    slot.Holds m received ∧
      (received = [] ↔ s.recvdatabuf recvId = none) ∧
      (∀ old, s.recvdatabuf recvId = some old →
        old.isFor m.conId m.seqnr = true) ∧
      ∀ new : RecvData, new.isFor m.conId m.seqnr = true →
        (s.setSlot recvId new).recvdatabuf.find?
            (RecvData.isFor m.conId m.seqnr) =
          some (recvId, new) := by
  unfold recvSlot at hSlot
  rw [hFragment.msgSeqNum] at hSlot
  rcases hTracks with
    ⟨rfl, hNone⟩ | ⟨hSome, recvId', slot', hFind, hHolds⟩
  · simp only [hNone] at hSlot
    split at hSlot
    · cases hSlot
    · rename_i free hFree
      split at hSlot
      · cases hSlot
      · rename_i hCreate
        cases hSlot
        have hEmpty := SlotTable.free_of_firstFree? hFree
        refine
          ⟨RecvData.holds_of_create hFragment hCreate,
            iff_of_true rfl hEmpty, ?_, ?_⟩
        · intro old hOld
          rw [hEmpty] at hOld
          cases hOld
        · intro new hNew
          exact SlotTable.find?_set_new hNone hNew
  · simp only [hFind] at hSlot
    cases hSlot
    have hAt := (SlotTable.of_find?_eq_some hFind).1
    refine ⟨hHolds, iff_of_false hSome ?_, ?_, ?_⟩
    · rw [hAt]
      exact Option.some_ne_none _
    · intro old hOld
      rw [hAt, Option.some.injEq] at hOld
      rw [← hOld]
      exact hHolds.isFor
    · intro new hNew
      exact SlotTable.find?_set_found hFind hNew

/- A fragment of a tracked message has one of the effects. -/
theorem Endpoint.Tracks.recvDataMsg
    {s s' : Endpoint σ}
    {con : ConnectData}
    {m : Message}
    {received : List Piece}
    {pkt : Packet}
    {outputs : List Output}
    (hTracks : s.Tracks m received)
    (hCon : s.connectbuf m.conId = some con)
    (hReports : s.reports m = true)
    (hFragment : m.IsFragment pkt)
    (hRecv :
      recvDataMsg s pkt.header pkt.content =
        .ok (s', outputs)) :
    FragmentEffect s con m received pkt s' outputs := by
  unfold ML.recvDataMsg at hRecv
  simp only [connectbufAt_natCast hFragment.remoteConId,
    hCon] at hRecv
  split at hRecv
  · cases hRecv
  · rename_i recvId slot hSlot
    rcases hTracks.of_recvSlot hFragment hSlot with
      ⟨hHolds, hFresh, hPlace, hFind⟩
    unfold enterPacket at hRecv
    split at hRecv
    · rename_i hComplete
      cases hRecv
      exact .ignored (hHolds.complete_iff.mp hComplete)
    · rename_i hOpen
      rw [hHolds.complete_iff] at hOpen
      split at hRecv
      · cases hRecv
      · rename_i slot₁ timers hEnter
        have hHolds₁ := hHolds.recvFragment hFragment hEnter
        rw [if_pos (reports_iff.mp hReports).1,
          callback_eq con slot₁ hReports hFragment.msgType]
          at hRecv
        simp only [hHolds₁.complete_iff] at hRecv
        cases hRecv
        refine
          .entered hOpen hHolds₁.startTimeouts hFresh hPlace
            (Or.inr
              ⟨by simp, recvId, _,
                hFind _ hHolds₁.startTimeouts.isFor,
                hHolds₁.startTimeouts⟩) ?_
        rw [deliveries_append,
          deliveries_of_quiet
            (RecvData.recvFragment_quiet hEnter),
          List.nil_append, RecvData.delivery_startTimeouts]
        split
        · rfl
        · rfl

/-
  A fragment is entered when there is a slot for it and no
  counter overflows.
-/
theorem Endpoint.Tracks.exists_recvDataMsg
    {s : Endpoint σ}
    {con : ConnectData}
    {m : Message}
    {received : List Piece}
    {pkt : Packet}
    (hTracks : s.Tracks m received)
    (hCon : s.connectbuf m.conId = some con)
    (hReports : s.reports m = true)
    (hFragment : m.IsFragment pkt)
    (hFree :
      received = [] →
        ∃ recvId, s.recvdatabuf.firstFree? = some recvId)
    (hBytes :
      total received + pkt.piece.length < 2 ^ 31)
    (hCount : received.length + 1 < 2 ^ 31) :
    ∃ s' outputs,
      ML.recvDataMsg s pkt.header pkt.content =
        .ok (s', outputs) := by
  have hSlot :
      ∃ recvId slot,
        s.recvSlot m.conId pkt.header =
          .ok (recvId, slot) := by
    unfold recvSlot
    rw [hFragment.msgSeqNum]
    rcases hTracks with
      ⟨hNil, hNone⟩ | ⟨_, recvId, slot, hFind, _⟩
    · rcases hFree hNil with ⟨recvId, hFree⟩
      rcases RecvData.exists_create hFragment with
        ⟨slot, hCreate⟩
      rw [hNone, hFree]
      simp only [hCreate]
      exact ⟨recvId, slot, rfl⟩
    · rw [hFind]
      exact ⟨recvId, slot, rfl⟩
  rcases hSlot with ⟨recvId, slot, hSlot⟩
  rcases hTracks.of_recvSlot hFragment hSlot with
    ⟨hHolds, _, _, _⟩
  rcases hHolds.exists_recvFragment recvId hFragment hBytes
      hCount with
    ⟨slot₁, timers, hEnter⟩
  unfold ML.recvDataMsg enterPacket
  simp only [connectbufAt_natCast hFragment.remoteConId,
    hCon, hSlot, hEnter,
    callback_eq con slot₁ hReports hFragment.msgType]
  split
  · exact ⟨_, _, rfl⟩
  · split
    · exact ⟨_, _, rfl⟩
    · exact ⟨_, _, rfl⟩

/- A message's slot is no other message's. -/
theorem RecvData.isFor_eq_false
    {m m' : Message}
    {slot : RecvData}
    (hDistinct : m'.Distinct m)
    (hFor : slot.isFor m.conId m.seqnr = true) :
    slot.isFor m'.conId m'.seqnr = false := by
  simp only [isFor, decide_eq_true_eq] at hFor
  simp only [isFor, decide_eq_false_iff_not, hFor.1,
    hFor.2]
  rintro ⟨hConId, hSeqnr⟩
  rcases hDistinct with hNe | hNe
  · exact hNe hConId.symm
  · exact hNe hSeqnr.symm

/- What is known of other messages stays true. -/
theorem Endpoint.Tracks.of_setSlot_other
    {s : Endpoint σ}
    {m m' : Message}
    {received : List Piece}
    {recvId : RecvId}
    {slot : RecvData}
    (hTracks : s.Tracks m' received)
    (hDistinct : m'.Distinct m)
    (hSlot : slot.isFor m.conId m.seqnr = true)
    (hPlace :
      ∀ old, s.recvdatabuf recvId = some old →
        old.isFor m.conId m.seqnr = true) :
    (s.setSlot recvId slot).Tracks m' received := by
  unfold Tracks
  rw [setSlot_recvdatabuf,
    SlotTable.find?_set_of_not
      (fun old hOld =>
        RecvData.isFor_eq_false hDistinct (hPlace old hOld))
      (RecvData.isFor_eq_false hDistinct hSlot)]
  exact hTracks

end ML

end NapaBaselibs
