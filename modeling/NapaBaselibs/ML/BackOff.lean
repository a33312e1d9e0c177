import NapaBaselibs.ML.Arrivals
import NapaBaselibs.ML.Sample

/-
  When backing off to a smaller packet size goes unnoticed.

  After `MSGLEN` the message is sent again from its start
  with the same sequence number.  A packet accepted before
  is then received besides those of the last pass, and its
  bytes are counted twice.

  Key definitions include:
    * `RecvData.Counts`, `Endpoint.Counting`
    * `DeliveredOnce`

  Key theorems include:
    * `Endpoint.Counting.recvDataMsg`
    * `back_off_transparent_iff`
    * `back_off_delivers_hole`
-/

------------------------------------------------------------
-- Counting Fragments Of Several Passes
------------------------------------------------------------

namespace NapaBaselibs

namespace ML

open Tiling (Piece total Covers upTo)

variable {σ α : Type}

/- A slot of the message that has counted `n` bytes. -/
structure RecvData.Counts
    (m : Message)
    (n : Nat)
    (slot : RecvData) : Prop where
  isFor : slot.isFor m.conId m.seqnr = true
  size :
    slot.bufsize = slot.monitoringDataHeaderLen + m.length
  arrivedBytes : slot.arrivedBytes = n
  complete_iff : slot.status = .complete ↔ n = m.length

theorem RecvData.Holds.counts
    {m : Message}
    {header : MonHeader}
    {received : List Piece}
    {slot : RecvData}
    (hHolds : slot.Holds (m.withHeader header) received) :
    slot.Counts m (total received) := by
  refine
    ⟨hHolds.isFor, ?_, hHolds.arrivedBytes,
      hHolds.complete_iff⟩
  rw [hHolds.monitoringDataHeaderLen]
  exact hHolds.bufsize

/-
  What entering a fragment of any pass does: the header of a
  first fragment is copied to the start of the buffer, the
  payload behind where a header of that length would end.
-/
structure RecvData.Enters
    (header : MonHeader)
    (pkt : Packet)
    (slot slot' : RecvData) : Prop where
  arrivedBytes :
    slot'.arrivedBytes =
      slot.arrivedBytes + pkt.piece.length
  complete_iff :
    slot'.status = .complete ↔
      slot'.arrivedBytes + slot'.monitoringDataHeaderLen =
        slot'.bufsize
  recvbuf :
    ∃ buffer,
      (buffer = slot.recvbuf ∨
        (header.length ≤ slot.bufsize ∧
          buffer =
            ByteSeq.overlay slot.recvbuf 0 header.bytes)) ∧
        header.length + pkt.piece.stop ≤ slot.bufsize ∧
        slot'.recvbuf =
          ByteSeq.overlay buffer
            (header.length + pkt.piece.start) pkt.payload

theorem RecvData.recvFragment_enters
    {m : Message}
    {header : MonHeader}
    {slot slot' : RecvData}
    {recvId : RecvId}
    {pkt : Packet}
    {timers : List Output}
    (hFragment : (m.withHeader header).IsFragment pkt)
    (hRecv :
      slot.recvFragment recvId pkt.header pkt.content =
        .ok (slot', timers)) :
    RecvData.Enters header pkt slot slot' := by
  have hHeaderLen :
      pkt.header.lenMonDataHdr.toNat = header.length :=
    hFragment.lenMonDataHdr
  have hSize := (recvFragment_sameMessage hRecv).bufsize
  rcases recvFragment_cases hRecv with
    ⟨slot₁, data₁, slot₂, hHeader, hData, hSlot', _⟩
  rcases copyData_ok hData with ⟨hFits, hSlot₂⟩
  have hFirst :
      data₁ = pkt.payload ∧
        slot₁.arrivedBytes = slot.arrivedBytes ∧
        (slot₁.recvbuf = slot.recvbuf ∨
          (header.length ≤ slot.bufsize ∧
            slot₁.recvbuf =
              ByteSeq.overlay slot.recvbuf 0
                header.bytes)) := by
    rcases copyMonDataHdr_cases hHeader with
      ⟨hFirst, _, hWrite, rfl, rfl⟩ | ⟨hLater, rfl, rfl⟩
    · have hContent :
          pkt.content = header.bytes ++ pkt.payload := by
        rw [Packet.content, hFragment.monDataHdr,
          if_pos hFirst]
        rfl
      rw [hHeaderLen] at *
      rw [hContent, List.take_left, List.drop_left]
      exact ⟨rfl, rfl, Or.inr ⟨hWrite, rfl⟩⟩
    · refine ⟨?_, rfl, Or.inl rfl⟩
      rw [Packet.content, hFragment.monDataHdr,
        if_neg hLater, List.nil_append]
  rcases hFirst with ⟨rfl, hBytes, hBuffer⟩
  have hSlot₁ : slot₁.bufsize = slot.bufsize := by
    rw [← hSize, hSlot']
    unfold tracked RecvData.bufsize
    simp only [hSlot₂]
    rw [ByteSeq.length_overlay hFits]
  rw [hHeaderLen] at hFits
  rw [hSlot₁] at hFits
  constructor
  · rw [hSlot']
    simp only [tracked, hSlot₂, hBytes, Packet.piece_length]
  · rw [hSlot']
    unfold tracked updateStatus RecvData.bufsize
    simp only
    split <;> simp_all
  · refine ⟨slot₁.recvbuf, hBuffer, ?_, ?_⟩
    · rw [Packet.piece_stop]
      omega
    · rw [hSlot']
      simp only [tracked, hSlot₂, hHeaderLen,
        Packet.piece_start]

/- A fragment of any pass is counted. -/
theorem RecvData.Counts.recvFragment
    {m : Message}
    {n : Nat}
    {slot slot' : RecvData}
    {recvId : RecvId}
    {pkt : Packet}
    {timers : List Output}
    (hCounts : slot.Counts m n)
    (hFragment : m.IsAnyFragment pkt)
    (hRecv :
      slot.recvFragment recvId pkt.header pkt.content =
        .ok (slot', timers)) :
    slot'.Counts m (n + pkt.piece.length) := by
  rcases hFragment with ⟨header, hFragment⟩
  have hSame := recvFragment_sameMessage hRecv
  have hSize : slot'.bufsize =
      slot'.monitoringDataHeaderLen + m.length := by
    rw [hSame.bufsize, hSame.monitoringDataHeaderLen]
    exact hCounts.size
  have hFor : slot'.isFor m.conId m.seqnr = true := by
    have hIsFor := hCounts.isFor
    unfold RecvData.isFor at *
    rw [hSame.connectionID, hSame.seqnr]
    exact hIsFor
  have hEnters := recvFragment_enters hFragment hRecv
  have hBytes :
      slot'.arrivedBytes = n + pkt.piece.length := by
    rw [hEnters.arrivedBytes, hCounts.arrivedBytes]
  refine ⟨hFor, hSize, hBytes, ?_⟩
  rw [hEnters.complete_iff, hSize, hBytes]
  omega

/- The node counts the bytes of a message. -/
structure Endpoint.Counting
    (s : Endpoint σ)
    (m : Message)
    (n : Nat) : Prop where
  counts :
    (n = 0 ∧
        s.recvdatabuf.find?
          (RecvData.isFor m.conId m.seqnr) = none) ∨
      ∃ recvId slot,
        s.recvdatabuf.find?
            (RecvData.isFor m.conId m.seqnr) =
          some (recvId, slot) ∧
        slot.Counts m n
  live : ∃ con, s.connectbuf m.conId = some con
  reports : s.reports m = true

theorem Endpoint.Reassembles.counting
    {s : Endpoint σ}
    {m : Message}
    {header : MonHeader}
    {received : List Piece}
    (hInv : s.Reassembles (m.withHeader header) received) :
    s.Counting m (total received) := by
  refine ⟨?_, hInv.live, hInv.reports⟩
  rcases hInv.tracks with
    ⟨rfl, hNone⟩ | ⟨_, recvId, slot, hFind, hHolds⟩
  · exact Or.inl ⟨rfl, hNone⟩
  · exact Or.inr ⟨recvId, slot, hFind, hHolds.counts⟩

/- The slot that a fragment of any pass is for. -/
theorem Endpoint.Counting.of_recvSlot
    {s : Endpoint σ}
    {m : Message}
    {n : Nat}
    {pkt : Packet}
    {recvId : RecvId}
    {slot : RecvData}
    (hCounting : s.Counting m n)
    (hFragment : m.IsAnyFragment pkt)
    (hSlot :
      s.recvSlot m.conId pkt.header = .ok (recvId, slot)) :
    slot.Counts m n ∧
      ∀ new : RecvData, new.isFor m.conId m.seqnr = true →
        (s.setSlot recvId new).recvdatabuf.find?
            (RecvData.isFor m.conId m.seqnr) =
          some (recvId, new) := by
  rcases hFragment with ⟨header, hFragment⟩
  have hSeq : pkt.header.msgSeqNum = m.seqnr :=
    hFragment.msgSeqNum
  rcases hCounting.counts with
    ⟨rfl, hNone⟩ | ⟨recvId', slot', hFind, hCounts⟩
  · have hTracks :
        s.Tracks (m.withHeader header) [] :=
      Or.inl ⟨rfl, hNone⟩
    rcases hTracks.of_recvSlot hFragment hSlot with
      ⟨hHolds, _, _, hNew⟩
    exact ⟨hHolds.counts, hNew⟩
  · unfold recvSlot at hSlot
    rw [hSeq] at hSlot
    simp only [hFind] at hSlot
    cases hSlot
    exact
      ⟨hCounts, fun new hNew =>
        SlotTable.find?_set_found hFind hNew⟩

/-
  A fragment of any pass is ignored when as many bytes as the
  message has were counted, and counted otherwise.
-/
theorem Endpoint.Counting.recvDataMsg
    {s s' : Endpoint σ}
    {m : Message}
    {n : Nat}
    {pkt : Packet}
    {outputs : List Output}
    (hCounting : s.Counting m n)
    (hFragment : m.IsAnyFragment pkt)
    (hRecv :
      recvDataMsg s pkt.header pkt.content =
        .ok (s', outputs)) :
    (n = m.length ∧ s' = s ∧ outputs = []) ∨
      (n ≠ m.length ∧
        s'.Counting m (n + pkt.piece.length) ∧
        ∃ recvId slot slot' timers con,
          s.recvSlot m.conId pkt.header =
              .ok (recvId, slot) ∧
            slot.recvFragment recvId pkt.header
                pkt.content = .ok (slot', timers) ∧
            deliveries outputs =
              if n + pkt.piece.length = m.length then
                [RecvData.delivery slot' con]
              else
                []) := by
  rcases hCounting.live with ⟨con, hCon⟩
  have hId :
      pkt.header.remoteConId.toInt = (m.conId : Nat) := by
    rcases hFragment with ⟨header, hIs⟩
    exact hIs.remoteConId
  have hType : pkt.header.msgType = m.msgtype := by
    rcases hFragment with ⟨header, hIs⟩
    exact hIs.msgType
  have hReports := hCounting.reports
  unfold ML.recvDataMsg at hRecv
  simp only [connectbufAt_natCast hId, hCon] at hRecv
  split at hRecv
  · cases hRecv
  · rename_i recvId slot hSlot
    rcases hCounting.of_recvSlot hFragment hSlot with
      ⟨hCounts, hNew⟩
    unfold enterPacket at hRecv
    split at hRecv
    · rename_i hComplete
      cases hRecv
      exact
        Or.inl ⟨hCounts.complete_iff.mp hComplete, rfl, rfl⟩
    · rename_i hOpen
      rw [hCounts.complete_iff] at hOpen
      split at hRecv
      · cases hRecv
      · rename_i slot₁ timers hEnter
        have hCounts₁ :=
          hCounts.recvFragment hFragment hEnter
        have hCounts₂ :
            slot₁.startTimeouts.Counts m
              (n + pkt.piece.length) := by
          unfold RecvData.startTimeouts
          split
          · exact hCounts₁
          · exact
              ⟨hCounts₁.isFor, hCounts₁.size,
                hCounts₁.arrivedBytes,
                hCounts₁.complete_iff⟩
        rw [if_pos (reports_iff.mp hReports).1,
          callback_eq con slot₁ hReports hType] at hRecv
        simp only [hCounts₁.complete_iff] at hRecv
        cases hRecv
        refine
          Or.inr
            ⟨hOpen,
              ⟨Or.inr
                ⟨recvId, _, hNew _ hCounts₂.isFor, hCounts₂⟩,
                hCounting.live, hReports⟩,
              recvId, slot, slot₁, timers, con, hSlot, hEnter,
              ?_⟩
        rw [deliveries_append,
          deliveries_of_quiet
            (RecvData.recvFragment_quiet hEnter),
          List.nil_append]
        split
        · rfl
        · rfl

/- A run in which packets arrive one after the other. -/
def ArrivalRun
    (p : Platform)
    (T : Transport σ α)
    (s : Endpoint σ)
    (pkts : List Packet)
    (trace : ArrivalTrace σ α)
    (t : Endpoint σ) : Prop :=
  Run (ArrivalStep p T) s trace t ∧
    trace.map Transition.event = pkts.map .arrival

/- The first arrival and the rest of such a run. -/
theorem ArrivalRun.of_cons
    {p : Platform}
    {T : Transport σ α}
    {s t : Endpoint σ}
    {pkt : Packet}
    {pkts : List Packet}
    {trace : ArrivalTrace σ α}
    (hRun : ArrivalRun p T s (pkt :: pkts) trace t) :
    ∃ s' outputs rest,
      recvDataMsg s pkt.header pkt.content =
          .ok (s', outputs) ∧
        ArrivalRun p T s' pkts rest t ∧
        reported trace = deliveries outputs ++ reported rest := by
  rcases hRun with ⟨hRun, hEvents⟩
  cases hRun with
  | nil => cases hEvents
  | @cons _ s' _ e outputs rest hStep hRest =>
      simp only [List.map_cons, List.cons.injEq] at hEvents
      rcases hEvents with ⟨rfl, hRestEvents⟩
      exact
        ⟨s', outputs, rest, hStep, ⟨hRest, hRestEvents⟩,
          List.flatMap_cons⟩

/- Such a run splits like its packets. -/
theorem ArrivalRun.of_append
    {p : Platform}
    {T : Transport σ α}
    {s t : Endpoint σ}
    {first second : List Packet}
    {trace : ArrivalTrace σ α}
    (hRun : ArrivalRun p T s (first ++ second) trace t) :
    ∃ u before after,
      ArrivalRun p T s first before u ∧
        ArrivalRun p T u second after t ∧
        reported trace = reported before ++ reported after := by
  rcases hRun with ⟨hRun, hEvents⟩
  rw [List.map_append] at hEvents
  rcases List.map_eq_append_iff.mp hEvents with
    ⟨before, after, rfl, hBefore, hAfter⟩
  rcases hRun.split with ⟨u, hFirst, hSecond⟩
  exact
    ⟨u, before, after, ⟨hFirst, hBefore⟩,
      ⟨hSecond, hAfter⟩, reported_append before after⟩

/- With too many bytes counted, nothing is reported. -/
theorem Endpoint.Counting.reported_eq_nil
    {p : Platform}
    {T : Transport σ α}
    {s t : Endpoint σ}
    {m : Message}
    {n : Nat}
    {pkts : List Packet}
    {trace : ArrivalTrace σ α}
    (hCounting : s.Counting m n)
    (hOver : m.length ≤ n)
    (hFragments : ∀ pkt ∈ pkts, m.IsAnyFragment pkt)
    (hRun : ArrivalRun p T s pkts trace t) :
    reported trace = [] := by
  induction pkts generalizing s n trace with
  | nil =>
      rcases hRun with ⟨_, hEvents⟩
      rw [List.map_nil, List.map_eq_nil_iff] at hEvents
      rw [hEvents]
      rfl
  | cons pkt pkts ih =>
      rcases hRun.of_cons with
        ⟨s', outputs, rest, hRecv, hRest, hReported⟩
      have hLater : ∀ other ∈ pkts, m.IsAnyFragment other :=
        fun other hMem =>
          hFragments other (List.mem_cons_of_mem _ hMem)
      rw [hReported]
      rcases
        hCounting.recvDataMsg
          (hFragments pkt List.mem_cons_self) hRecv with
        ⟨_, rfl, rfl⟩ |
        ⟨hOpen, hNext, _, _, slot', _, con, _, _,
          hDeliveries⟩
      · rw [deliveries_nil, List.nil_append]
        exact ih hCounting hOver hLater hRest
      · rw [hDeliveries, if_neg (by omega),
          List.nil_append]
        exact ih hNext (by omega) hLater hRest

------------------------------------------------------------
-- A Packet Accepted Too Early
------------------------------------------------------------

/- The message of these bytes under the same ids. -/
def Message.withBytes
    (m : Message)
    (bytes : List UInt8)
    (hLength : bytes.length = m.length) : Message :=
  { m with
    bytes := bytes
    bytes_pos := by
      rw [hLength]
      exact m.bytes_pos
    bytes_le := by
      rw [hLength]
      exact m.bytes_le }

@[simp] theorem Message.length_withBytes
    (m : Message)
    (bytes : List UInt8)
    (hLength : bytes.length = m.length) :
    (m.withBytes bytes hLength).length = m.length := hLength

/- Zeros, and a last byte that is not. -/
def lastOne (n : Nat) : List UInt8 :=
  List.replicate (n - 1) 0 ++ [1]

theorem length_lastOne
    {n : Nat}
    (hPos : 0 < n) :
    (lastOne n).length = n := by
  unfold lastOne
  rw [List.length_append, List.length_replicate]
  simp only [List.length_cons, List.length_nil]
  omega

theorem getElem?_lastOne
    {n k : Nat}
    (hLt : k + 1 < n) :
    (lastOne n)[k]? = some 0 := by
  unfold lastOne
  rw [List.getElem?_append_left
      (by rw [List.length_replicate]; omega),
    List.getElem?_replicate_of_lt (by omega)]

theorem getElem?_lastOne_last
    (n : Nat) :
    (lastOne n)[n - 1]? = some 1 := by
  unfold lastOne
  rw [List.getElem?_append_right
      (by rw [List.length_replicate]),
    List.length_replicate, Nat.sub_self]
  rfl

/-
  A first fragment of another pass that completes a message
  whose last byte is missing does not bring that byte.
-/
theorem RecvData.Enters.last_eq_zero
    {m : Message}
    {header header' : MonHeader}
    {received : List Piece}
    {slot slot' : RecvData}
    {pkt : Packet}
    (hEnters : RecvData.Enters header' pkt slot slot')
    (hHolds : slot.Holds (m.withHeader header) received)
    (hFragment : (m.withHeader header').IsFragment pkt)
    (hBytes : m.bytes = lastOne m.length)
    (hMissing : ¬ Covers received (m.length - 1))
    (hStart : pkt.piece.start = 0)
    (hShort : pkt.piece.length < m.length) :
    slot'.recvbuf[header.length + (m.length - 1)]? =
      some 0 := by
  have hPos := hFragment.pos
  have hSize : slot.bufsize = header.length + m.length :=
    hHolds.bufsize
  have hBefore :
      slot.recvbuf[header.length + (m.length - 1)]? =
        some 0 := by
    have hAt :=
      hHolds.byteAt (m.length - 1)
        (by
          have := m.bytes_pos
          unfold Message.length Message.withHeader
          simp only
          omega)
    rw [if_neg hMissing] at hAt
    exact hAt
  rcases hEnters.recvbuf with
    ⟨buffer, hBuffer, hFits, hAfter⟩
  have hLength : buffer.length = slot.bufsize := by
    rcases hBuffer with rfl | ⟨hWrite, rfl⟩
    · rfl
    · exact
        ByteSeq.length_overlay
          (by
            unfold RecvData.bufsize MonHeader.length
              at hWrite
            omega)
  have hStop : pkt.piece.stop =
      pkt.piece.start + pkt.piece.length := rfl
  have hMiddle :
      buffer[header.length + (m.length - 1)]? = some 0 := by
    rcases hBuffer with rfl | ⟨hWrite, rfl⟩
    · exact hBefore
    · rw [ByteSeq.getElem?_overlay
          (by
            unfold RecvData.bufsize MonHeader.length
              at hWrite
            omega),
        if_neg
          (by
            unfold MonHeader.length at hFits hSize ⊢
            omega)]
      exact hBefore
  rw [hAfter, ByteSeq.getElem?_overlay
    (by rw [Packet.piece_length] at hStop; omega)]
  split
  · rename_i hIn
    rw [hFragment.payload, ByteSeq.getElem?_slice,
      if_pos (by rw [Packet.piece_length] at *; omega)]
    change m.bytes[_]? = some 0
    rw [hBytes]
    exact
      getElem?_lastOne
        (by rw [Packet.piece_length] at *; omega)
  · exact hMiddle

/- The message is reported once, with these bytes. -/
def DeliveredOnce
    (p : Platform)
    (T : Transport σ α)
    (s : Endpoint σ)
    (pkts : List Packet)
    (bytes : List UInt8) : Prop :=
  ∃ trace t,
    ArrivalRun p T s pkts trace t ∧
      (reported trace).map Delivery.buffer = [bytes]

/-
  Fragments of a tiling, but the last, arrive; the node has
  then taken in all of them and reported nothing.
-/
theorem Endpoint.Awaits.arrivalRun_of_total_lt
    {p : Platform}
    {T : Transport σ α}
    {s t : Endpoint σ}
    {m : Message}
    {pkts : List Packet}
    {trace : ArrivalTrace σ α}
    (hAwaits : s.Awaits m)
    (hFragments : ∀ pkt ∈ pkts, m.IsFragment pkt)
    (hTotal : total (pkts.map Packet.piece) < m.length)
    (hRun : ArrivalRun p T s pkts trace t) :
    t.Reassembles m (pkts.map Packet.piece) ∧
      reported trace = [] := by
  have hArrivals := arrivals_of_map_event hRun.2
  rcases
    hAwaits.reassembles.run hRun.1
      (by rwa [hArrivals]) with
    ⟨hEnd, hReports⟩
  rw [hArrivals,
    Tiling.upTo_of_total_lt
      (by rwa [List.nil_append]),
    List.nil_append] at hEnd hReports
  refine ⟨hEnd, ?_⟩
  generalize reported trace = ds at hReports ⊢
  cases hReports with
  | nothing => rfl
  | message _ hFull => omega

/-
  A packet accepted in an earlier pass can arrive in place of
  the last one.  The message is then delivered without its
  last byte, or the bytes counted step over its length.
-/
theorem SplitAt.exists_not_deliveredOnce
    {p : Platform}
    {T : Transport σ α}
    {s : Endpoint σ}
    {m : Message}
    {results : List ErrorCode}
    {early final : List Packet}
    (hSplit : SplitAt m results early final)
    (hEarly : early ≠ [])
    (hBytes : m.bytes = lastOne m.length)
    (hAwaits : s.Awaits m) :
    ∃ pkts, pkts.Perm (early ++ final) ∧
      ¬ DeliveredOnce p T s pkts m.bytes := by
  have hPos := m.bytes_pos
  have hLast : final ≠ [] := by
    intro hNil
    have hTiles := hSplit.final_tiles
    rw [hNil] at hTiles
    have := hTiles.total_eq
    simp only [List.map_nil, Tiling.total_nil] at this
    unfold Message.length at this
    omega
  rcases List.exists_cons_of_ne_nil hEarly with
    ⟨e, others, rfl⟩
  rcases List.eq_nil_or_concat final with
    hNil | ⟨initial, last, rfl⟩
  · exact absurd hNil hLast
  rw [List.concat_eq_append] at *
  rcases hSplit.final_fragments with ⟨header, hFinal⟩
  rcases hSplit.early_head e rfl with ⟨hStart, hShort⟩
  have hTiles := hSplit.final_tiles
  rw [List.map_append] at hTiles
  rcases hTiles.split with ⟨c, hInitial, hEnd⟩
  have hInitialTotal := hInitial.total_eq
  have hEndTotal := hEnd.total_eq
  have hLastPos := (hFinal last (by simp)).pos
  simp only [List.map_cons, List.map_nil,
    Tiling.total_cons, Tiling.total_nil] at hEndTotal
  have hMissing :
      ¬ Covers (initial.map Packet.piece)
        (m.length - 1) := by
    rw [hInitial.covers_iff]
    omega
  refine ⟨initial ++ e :: last :: others, ?_, ?_⟩
  · rw [List.perm_iff_count]
    intro pkt
    simp only [List.count_append, List.count_cons,
      List.count_nil]
    omega
  rintro ⟨trace, t, hRun, hOnce⟩
  rcases hRun.of_append with
    ⟨u, before, after, hBefore, hAfter, hReported⟩
  have hHeaderAwaits :
      s.Awaits (m.withHeader header) :=
    ⟨hAwaits.absent, hAwaits.live, hAwaits.reports⟩
  rcases
    hHeaderAwaits.arrivalRun_of_total_lt
      (fun pkt hMem => hFinal pkt (by simp [hMem]))
      (by
        change _ < m.length
        omega)
      hBefore with
    ⟨hInv, hNothing⟩
  have hCounting := hInv.counting
  rcases hAfter.of_cons with
    ⟨s₁, o₁, rest₁, hRecv₁, hRest₁, hReported₁⟩
  rcases hRest₁.of_cons with
    ⟨s₂, o₂, rest₂, hRecv₂, hRest₂, hReported₂⟩
  have hAny : m.IsAnyFragment e :=
    hSplit.early_fragments e List.mem_cons_self
  rw [hReported, hNothing, List.nil_append, hReported₁,
    hReported₂] at hOnce
  rcases hCounting.recvDataMsg hAny hRecv₁ with
    ⟨hFull, _⟩ |
    ⟨_, hCounting₁, recvId, slot, slot', _, con, hSlot,
      hEnter, hDeliveries₁⟩
  · omega
  by_cases hFull :
      total (initial.map Packet.piece) + e.piece.length =
        m.length
  · rw [hDeliveries₁, if_pos hFull] at hOnce
    simp only [List.cons_append, List.nil_append,
      List.map_cons, List.cons.injEq] at hOnce
    rcases hAny with ⟨header', hFragment⟩
    have hHolds :
        slot.Holds (m.withHeader header)
          (initial.map Packet.piece) := by
      rcases hInv.tracks with
        ⟨hNil, _⟩ | ⟨_, found, held, hFind, hHolds⟩
      · rw [hNil, Tiling.total_nil] at hFull
        omega
      · unfold Endpoint.recvSlot at hSlot
        rw [show e.header.msgSeqNum = m.seqnr from
          hFragment.msgSeqNum] at hSlot
        change
          u.recvdatabuf.find?
            (RecvData.isFor m.conId m.seqnr) = _ at hFind
        simp only [hFind] at hSlot
        cases hSlot
        exact hHolds
    have hZero :=
      (RecvData.recvFragment_enters hFragment
        hEnter).last_eq_zero hHolds hFragment hBytes
          hMissing hStart hShort
    have hBuffer : slot'.message = m.bytes := hOnce.1
    have hAt :
        slot'.message[m.length - 1]? = some 0 := by
      unfold RecvData.message
      rw [List.getElem?_drop,
        (RecvData.recvFragment_sameMessage
          hEnter).monitoringDataHeaderLen,
        hHolds.monitoringDataHeaderLen]
      exact hZero
    rw [hBuffer, hBytes, getElem?_lastOne_last] at hAt
    cases hAt
  · have hAnyLast : m.IsAnyFragment last :=
      ⟨header, hFinal last (by simp)⟩
    rw [hDeliveries₁, if_neg hFull, List.nil_append] at hOnce
    rcases hCounting₁.recvDataMsg hAnyLast hRecv₂ with
      ⟨hFull', _⟩ |
      ⟨_, hCounting₂, _, _, _, _, _, _, _, hDeliveries₂⟩
    · exact hFull hFull'
    · have hPosE : 0 < e.piece.length := by
        rcases hAny with ⟨_, hFragment⟩
        exact hFragment.pos
      rw [hDeliveries₂, if_neg (by omega), List.nil_append,
        hCounting₂.reported_eq_nil (by omega)
          (fun pkt hMem =>
            hSplit.early_fragments pkt
              (List.mem_cons_of_mem _ hMem))
          hRest₂] at hOnce
      cases hOnce

/- Without such packets the message is delivered once. -/
theorem SplitAt.deliveredOnce
    {p : Platform}
    {T : Transport σ α}
    {s : Endpoint σ}
    {m : Message}
    {results : List ErrorCode}
    {final pkts : List Packet}
    (hSplit : SplitAt m results [] final)
    (hAwaits : s.Awaits m)
    (hFree : ∃ recvId, s.recvdatabuf.firstFree? = some recvId)
    (hPerm : pkts.Perm final) :
    DeliveredOnce p T s pkts m.bytes := by
  have hMax := m.bytes_le
  unfold maxMsgLength at hMax
  rcases hSplit.final_fragments with ⟨header, hFinal⟩
  have hHeaderAwaits :
      s.Awaits (m.withHeader header) :=
    ⟨hAwaits.absent, hAwaits.live, hAwaits.reports⟩
  have hReceives :
      Receives s (m.withHeader header) final :=
    ⟨hSplit.final_tiles, hFinal, hHeaderAwaits.reassembles⟩
  have hTotal : total (pkts.map Packet.piece) = m.length := by
    rw [Tiling.total_perm (hPerm.map Packet.piece)]
    have := hSplit.final_tiles.total_eq
    omega
  have hLength : pkts.length ≤ m.length := by
    rw [← hTotal, ← List.length_map (f := Packet.piece)]
    apply Tiling.length_le_total
    intro piece hPiece
    rcases List.mem_map.mp hPiece with ⟨pkt, hPkt, rfl⟩
    exact (hFinal pkt (hPerm.subset hPkt)).pos
  rcases
    hHeaderAwaits.reassembles.exists_run
      (p := p) (T := T) (fun _ => hFree)
      (fun pkt (hMem : pkt ∈ pkts) =>
        hFinal pkt (hPerm.subset hMem))
      (by
        rw [payloadBytes_eq_total, hTotal]
        unfold Message.length
        simp only [Tiling.total_nil]
        omega)
      (by
        unfold Message.length at hLength
        simp only [List.length_nil]
        omega) with
    ⟨trace, t, hRun, hEvents⟩
  refine ⟨trace, t, ⟨hRun, hEvents⟩, ?_⟩
  have hArrivals := arrivals_of_map_event hEvents
  have hSubset : arrivals trace ⊆ final := by
    rw [hArrivals]
    exact hPerm.subset
  rcases
    (hReceives.whole_iff hSubset).mpr
      ⟨pkts.length, by rwa [hArrivals, List.take_length]⟩
    with ⟨hFull, hCovers⟩
  rcases hReceives.reports hRun hSubset with
    ⟨_, hOpen⟩ | ⟨slot, con, hOne, _, hHolds⟩
  · exact absurd hFull hOpen
  · rw [hOne, List.map_singleton, (hHolds.delivery_eq con).1,
      Message.assembled_of_covers hCovers]
    rfl

/- What `send_msg` makes of a message of these bytes. -/
theorem exists_splitAt
    {T : Transport σ α}
    {input : SendInput α}
    {s s' : Endpoint σ}
    {conId : ConId}
    {con : ConnectData}
    {m : Message}
    {outputs : List Output}
    (hCon : s.connectbuf conId = some con)
    (hAddresses : con.Addresses conId m)
    (hRoom : ∀ pass ∈ input, pass.HasRoom con.pmtusize)
    (hHigh : con.pmtusize < 2 ^ 31)
    (hSend :
      sendMsg T input s conId m.msgtype m.bytes m.length
          false = .ok (s', outputs))
    (hCompletes : (answers outputs).getLast? = some .ok) :
    ∃ early final,
      accepted outputs = early ++ final ∧
        SplitAt m (answers outputs) early final := by
  unfold sendMsg at hSend
  simp only [hCon] at hSend
  split at hSend
  · cases hSend
  · rename_i hPasses
    cases hSend
    refine sendPasses_split ?_ ?_ ?_ hPasses hCompletes
    · exact hAddresses.carries
    · exact hRoom
    · exact hHigh

/-
  The answers of the output queue to the packets of a message
  are given, whatever its bytes are, and the last pass
  completes.  Then every message of that length is delivered
  exactly once and unchanged, in whatever order the accepted
  packets arrive, if and only if no packet is accepted before
  the last `MSGLEN`.
-/
theorem back_off_transparent_iff
    {σ' α' : Type}
    {p : Platform}
    {T : Transport σ α}
    {T' : Transport σ' α'}
    {input : SendInput α}
    {s : Endpoint σ}
    {receiver : Endpoint σ'}
    {conId : ConId}
    {con : ConnectData}
    {m : Message}
    {results : List ErrorCode}
    (hCon : s.connectbuf conId = some con)
    (hAddresses : con.Addresses conId m)
    (hRoom : ∀ pass ∈ input, pass.HasRoom con.pmtusize)
    (hHigh : con.pmtusize < 2 ^ 31)
    (hResults :
      ∀ bytes, bytes.length = m.length →
        ∃ s' outputs,
          sendMsg T input s conId m.msgtype bytes m.length
              false = .ok (s', outputs) ∧
            answers outputs = results)
    (hCompletes : results.getLast? = some .ok)
    (hAwaits : receiver.Awaits m)
    (hFree :
      ∃ recvId,
        receiver.recvdatabuf.firstFree? = some recvId) :
    (∀ bytes s' outputs pkts,
        bytes.length = m.length →
          sendMsg T input s conId m.msgtype bytes m.length
              false = .ok (s', outputs) →
            pkts.Perm (accepted outputs) →
              DeliveredOnce p T' receiver pkts bytes) ↔
      NoneBeforeMsglen results := by
  constructor
  · intro hAll
    by_contra hNotNone
    have hLength : (lastOne m.length).length = m.length :=
      length_lastOne m.bytes_pos
    rcases hResults _ hLength with
      ⟨s', outputs, hSend, hAnswers⟩
    rcases
      exists_splitAt
        (m := m.withBytes (lastOne m.length) hLength)
        hCon ⟨hAddresses.1, hAddresses.2, hAddresses.3⟩
        hRoom hHigh
        (by
          rw [Message.length_withBytes]
          exact hSend)
        (by rw [hAnswers]; exact hCompletes) with
      ⟨early, final, hAccepted, hSplit⟩
    rw [hAnswers] at hSplit
    have hEarly : early ≠ [] := by
      intro hNil
      exact hNotNone (hSplit.early_eq_nil_iff.mp hNil)
    rcases
      hSplit.exists_not_deliveredOnce (p := p) (T := T')
        (s := receiver) hEarly
        (by
          change lastOne m.length =
            lastOne (lastOne m.length).length
          rw [hLength])
        ⟨hAwaits.absent, hAwaits.live, hAwaits.reports⟩ with
      ⟨pkts, hPerm, hNot⟩
    exact
      hNot (hAll _ s' outputs pkts hLength hSend
        (by rwa [hAccepted]))
  · intro hNone bytes s' outputs pkts hLength hSend hPerm
    rcases hResults bytes hLength with
      ⟨s'', outputs', hSend', hAnswers⟩
    rw [hSend] at hSend'
    cases hSend'
    rcases
      exists_splitAt (m := m.withBytes bytes hLength)
        hCon ⟨hAddresses.1, hAddresses.2, hAddresses.3⟩
        hRoom hHigh
        (by
          rw [Message.length_withBytes]
          exact hSend)
        (by rw [hAnswers]; exact hCompletes) with
      ⟨early, final, hAccepted, hSplit⟩
    rw [hAnswers] at hSplit
    have hEarly := hSplit.early_eq_nil_iff.mpr hNone
    subst hEarly
    exact
      hSplit.deliveredOnce (p := p) (T := T')
        ⟨hAwaits.absent, hAwaits.live, hAwaits.reports⟩ hFree
        (by rwa [hAccepted, List.nil_append] at hPerm)

------------------------------------------------------------
-- A Message Sent With Two Packet Sizes
------------------------------------------------------------

open Sample

/- An attempt without monitoring headers. -/
def Sample.attempt (answer : ErrorCode) : Attempt ErrorCode :=
  ⟨MonHeader.none, fun _ => 0, answer⟩

/- A pass that ends with `MSGLEN`, and one that completes. -/
def Sample.backedOff
    (early : List ErrorCode) : SendInput ErrorCode :=
  [⟨MonHeader.none,
    (early ++ [ErrorCode.msglen]).map attempt⟩,
   ⟨MonHeader.none, (List.replicate 4 .ok).map attempt⟩]

/- A message one byte too long for one packet. -/
def Sample.longMessage : Message where
  conId := first
  localConId := 0
  seqnr := 0
  msgtype := 0
  monDataHdr := MonHeader.none
  bytes := lastOne 1350
  bytes_pos := by
    rw [length_lastOne (by decide)]
    decide
  bytes_le := by
    rw [length_lastOne (by decide)]
    decide
  msgtype_lt := zero_lt_msgMultiplexSize

theorem Sample.length_longMessage :
    longMessage.length = 1350 :=
  length_lastOne (by decide)

/- The payload lengths of the two packet sizes. -/
theorem Sample.pktLen_longMessage
    (bytes : List UInt8)
    {pmtusize : Int}
    (hLow : 23 ≤ pmtusize)
    (hHigh : pmtusize < 2 ^ 31)
    (offset : Nat) :
    ((connection 1372).sendJob first 0 bytes (1350 : Nat)
      false).pktLen pmtusize 0 0 offset =
      min (pmtusize - 23) (1350 - offset) := by
  unfold SendJob.pktLen msgHeaderSize ConnectData.sendJob
  rw [toCInt_eq_self (by omega) (by omega)]
  simp only
  omega

/- The whole message goes out in one pass of small packets. -/
theorem Sample.sendPass_longMessage
    (bytes : List UInt8) :
    ∃ outputs,
      sendPass Transport.scripted
          ((connection 1372).sendJob first 0 bytes
            (1350 : Nat) false)
          472 0 ((List.replicate 4 .ok).map attempt) 0 [] () =
        .ok (.ok, (), outputs) ∧
        answers outputs = [.ok, .ok, .ok, .ok] := by
  have hLen :=
    pktLen_longMessage bytes (show 23 ≤ 472 by decide)
      (by decide)
  refine
    ⟨[.packet
        (((connection 1372).sendJob first 0 bytes
          (1350 : Nat) false).packet 0 [] (attempt .ok) 0
            449) .ok,
      .packet
        (((connection 1372).sendJob first 0 bytes
          (1350 : Nat) false).packet 0 [] (attempt .ok) 449
            449) .ok,
      .packet
        (((connection 1372).sendJob first 0 bytes
          (1350 : Nat) false).packet 0 [] (attempt .ok) 898
            449) .ok,
      .packet
        (((connection 1372).sendJob first 0 bytes
          (1350 : Nat) false).packet 0 [] (attempt .ok) 1347
            3) .ok], ?_, rfl⟩
  simp only [List.replicate, List.map_cons, List.map_nil,
    sendPass, attempt, MonHeader.none, MonHeader.length,
    List.length_nil, hLen, Transport.scripted]
  rfl

/- A pass of large packets stops at the first or second. -/
theorem Sample.sendPass_stopped
    {early : List ErrorCode}
    (hEarly : early = [] ∨ early = [.ok])
    (bytes : List UInt8) :
    ∃ outputs,
      sendPass Transport.scripted
          ((connection 1372).sendJob first 0 bytes
            (1350 : Nat) false)
          1372 0 ((early ++ [ErrorCode.msglen]).map attempt) 0
          [] () =
        .ok (.msglen, (), outputs) ∧
        answers outputs = early ++ [.msglen] := by
  have hLen :=
    pktLen_longMessage bytes (show 23 ≤ 1372 by decide)
      (by decide)
  rcases hEarly with rfl | rfl
  · refine
      ⟨[.packet
          (((connection 1372).sendJob first 0 bytes
            (1350 : Nat) false).packet 0 []
              (attempt .msglen) 0 1349) .msglen], ?_, rfl⟩
    simp only [List.nil_append, List.map_cons, List.map_nil,
      sendPass, attempt, MonHeader.none, MonHeader.length,
      List.length_nil, hLen, Transport.scripted]
    rfl
  · refine
      ⟨[.packet
          (((connection 1372).sendJob first 0 bytes
            (1350 : Nat) false).packet 0 []
              (attempt .ok) 0 1349) .ok,
        .packet
          (((connection 1372).sendJob first 0 bytes
            (1350 : Nat) false).packet 0 []
              (attempt .msglen) 1349 1) .msglen], ?_, rfl⟩
    simp only [List.cons_append, List.nil_append,
      List.map_cons, List.map_nil, sendPass, attempt,
      MonHeader.none, MonHeader.length, List.length_nil,
      hLen, Transport.scripted]
    rfl

/- Whatever its bytes are, the answers are these. -/
theorem Sample.sendMsg_backedOff
    {early : List ErrorCode}
    (hEarly : early = [] ∨ early = [.ok])
    (bytes : List UInt8) :
    ∃ s' outputs,
      sendMsg Transport.scripted (backedOff early)
          (connected 1372) first 0 bytes (1350 : Nat) false =
        .ok (s', outputs) ∧
        answers outputs =
          early ++ [.msglen, .ok, .ok, .ok, .ok] := by
  rcases sendPass_stopped hEarly bytes with
    ⟨stopped, hStopped, hFirst⟩
  rcases sendPass_longMessage bytes with
    ⟨whole, hWhole, hSecond⟩
  have hBack : pmtuDecrement 1372 = 472 := by decide
  have hPasses :
      sendPasses Transport.scripted
          ((connection 1372).sendJob first 0 bytes
            (1350 : Nat) false) (backedOff early)
          { connection 1372 with
            seqnr := (connection 1372).seqnr + 1 } () =
        .ok
          ({ connection 1372 with
              seqnr := (connection 1372).seqnr + 1
              pmtusize := 472
              delay := true }, (), stopped ++ whole) := by
    simp only [backedOff, sendPasses, MonHeader.none,
      MonHeader.length, List.length_nil]
    rw [show (connection 1372).pmtusize = 1372 from rfl,
      hStopped]
    simp only [hBack, hWhole]
    rfl
  have hSend :
      sendMsg Transport.scripted (backedOff early)
          (connected 1372) first 0 bytes (1350 : Nat) false =
        .ok
          ((connected 1372).setConNet first
            { connection 1372 with
              seqnr := (connection 1372).seqnr + 1
              pmtusize := 472
              delay := true } (), stopped ++ whole) := by
    unfold sendMsg
    rw [connected_first]
    simp only
    rw [show (connected 1372).net = () from rfl, hPasses]
  refine ⟨_, _, hSend, ?_⟩
  rw [answers_append, hFirst, hSecond, List.append_assoc]
  rfl

/- Every packet of the two passes has room for payload. -/
theorem Sample.hasRoom_backedOff
    (early : List ErrorCode) :
    ∀ pass ∈ backedOff early, pass.HasRoom 1372 :=
  fun pass _ => pass.hasRoom_of_min (by decide)

theorem Sample.addresses_longMessage :
    (connection 1372).Addresses first longMessage :=
  ⟨rfl, rfl, rfl⟩

theorem Sample.awaits_longMessage :
    (connected 1372).Awaits longMessage :=
  ⟨SlotTable.find?_empty _, ⟨_, connected_first 1372⟩, rfl⟩

/-
  The first of two large packets is accepted, the second is
  answered `MSGLEN`.  The message then goes out in four small
  packets, and the large one can complete it in place of the
  last of them.
-/
theorem accepted_packet_spoils_message :
    ∃ s' outputs pkts,
      sendMsg Transport.scripted (backedOff [.ok])
          (connected 1372) first 0 longMessage.bytes
            (1350 : Nat) false = .ok (s', outputs) ∧
        answers outputs =
          [.ok, .msglen, .ok, .ok, .ok, .ok] ∧
        (connected 1372).Awaits longMessage ∧
        pkts.Perm (accepted outputs) ∧
        ¬ DeliveredOnce platform Transport.scripted
          (connected 1372) pkts longMessage.bytes := by
  rcases
    sendMsg_backedOff (.inr rfl) longMessage.bytes with
    ⟨s', outputs, hSend, hAnswers⟩
  rcases
    exists_splitAt (m := longMessage) (connected_first 1372)
      addresses_longMessage (hasRoom_backedOff [.ok])
      (by decide)
      (by
        rw [length_longMessage]
        exact hSend)
      (by
        rw [hAnswers]
        rfl) with
    ⟨early, final, hAccepted, hSplit⟩
  have hEarly : early ≠ [] := by
    intro hNil
    have hNone := hSplit.early_eq_nil_iff.mp hNil
    rw [hAnswers] at hNone
    exact
      hNone [.ok] [.ok, .ok, .ok, .ok] rfl
        List.mem_cons_self
  rcases
    hSplit.exists_not_deliveredOnce (p := platform)
      (T := Transport.scripted) hEarly
      (by
        rw [length_longMessage]
        rfl)
      awaits_longMessage with
    ⟨pkts, hPerm, hNot⟩
  exact
    ⟨s', outputs, pkts, hSend, hAnswers, awaits_longMessage,
      by rwa [hAccepted], hNot⟩

/- Nothing is accepted before the `MSGLEN`: all is well. -/
theorem back_off_transparent_first_packet :
    NoneBeforeMsglen [.msglen, .ok, .ok, .ok, .ok] ∧
      ∀ bytes s' outputs pkts,
        bytes.length = longMessage.length →
          sendMsg Transport.scripted (backedOff [])
              (connected 1372) first 0 bytes
                longMessage.length false =
            .ok (s', outputs) →
            pkts.Perm (accepted outputs) →
              DeliveredOnce platform Transport.scripted
                (connected 1372) pkts bytes := by
  have hNone :
      NoneBeforeMsglen [.msglen, .ok, .ok, .ok, .ok] := by
    intro before after hEq
    rcases List.cons_eq_append_iff.mp hEq with
      ⟨rfl, _⟩ | ⟨before', rfl, hRest⟩
    · exact List.not_mem_nil
    · have hMem :
          ErrorCode.msglen ∈ [ErrorCode.ok, .ok, .ok, .ok] := by
        rw [hRest]
        simp
      exact absurd hMem (by decide)
  refine ⟨hNone, ?_⟩
  refine
    (back_off_transparent_iff (m := longMessage)
      (connected_first 1372) addresses_longMessage
      (hasRoom_backedOff []) (by decide) ?_ rfl
      awaits_longMessage
      ⟨_, firstFree?_connected 1372⟩).mpr hNone
  intro bytes _
  rw [length_longMessage]
  exact sendMsg_backedOff (.inl rfl) bytes

end ML

end NapaBaselibs
