import NapaBaselibs.ML.GapTracking
import NapaBaselibs.ML.HoleFree

/-
  Gap tracking over the runs of a receiver.

  Fragments of a message arrive in any order, none twice,
  between packets of other messages and retransmission
  timers.  The gaps recorded are the missing bytes below the
  expected offset, after every packet, exactly when no
  fragment arrives strictly inside a recorded gap.

  Key definitions include:
    * `Endpoint.gapNack?`
    * `ownArrivals`, `ownPieces`
    * `GapsExact`, `TracksGapsThrough`
    * `RoomForGap`, `StaysAtEnds`
    * `Endpoint.Follows`

  Key theorems include:
    * `Endpoint.Follows.tracksGaps`
    * `Endpoint.Follows.timer`, `other`, `arrival`
    * `Endpoint.Follows.staysAtEnds`
    * `gaps_exact_iff`
    * `fragment_inside_gap_is_asked_again`
-/

------------------------------------------------------------
-- What A Gap Timer Asks For
------------------------------------------------------------

namespace NapaBaselibs

namespace ML

open Tiling (Piece total Covers)

variable {σ α : Type}

/-
  The negative acknowledgement that the timer of a gap would
  send: for the bytes of its gap, unless there are none or
  the slot is another message's.
-/
def Endpoint.gapNack?
    (s : Endpoint σ)
    (arg : PktRecvTimeoutArg) : Option NackMsg :=
  match s.recvdatabuf arg.recvId with
  | none => none
  | some slot =>
      let gap := slot.gapArray.getD arg.gap ⟨0, 0⟩
      if slot.seqnr ≠ arg.seqnr then
        none
      else if gap.offsetFrom = gap.offsetTo then
        none
      else
        some (slot.nack gap.offsetFrom gap.offsetTo)

/- The byte lies in the range that is asked for. -/
def NackMsg.Asks
    (nack : NackMsg)
    (b : Nat) : Prop :=
  nack.offsetFrom.toNat ≤ b ∧ b < nack.offsetTo.toNat

/- The packets of the message among those that arrive. -/
def ownArrivals
    (m : Message)
    (trace : ArrivalTrace σ α) : List Packet :=
  (arrivals trace).filter m.owns

/- The pieces of the message that have arrived. -/
def ownPieces
    (m : Message)
    (trace : ArrivalTrace σ α) : List Piece :=
  (ownArrivals m trace).map Packet.piece

theorem ownArrivals_append
    (m : Message)
    (first second : ArrivalTrace σ α) :
    ownArrivals m (first ++ second) =
      ownArrivals m first ++ ownArrivals m second := by
  unfold ownArrivals
  rw [arrivals_append, List.filter_append]

theorem ownArrivals_of_own
    {m : Message}
    {pkt : Packet}
    {tr : Transition (Endpoint σ) (ArrivalEvent α) Output}
    (hEvent : tr.event = .arrival pkt)
    (hOwns : m.owns pkt = true) :
    ownArrivals m [tr] = [pkt] := by
  have hSome : arrivals [tr] = [pkt] :=
    List.filterMap_cons_some (by rw [hEvent]; rfl)
  unfold ownArrivals
  rw [hSome, List.filter_cons_of_pos hOwns,
    List.filter_nil]

theorem ownArrivals_of_other
    {m : Message}
    {pkt : Packet}
    {tr : Transition (Endpoint σ) (ArrivalEvent α) Output}
    (hEvent : tr.event = .arrival pkt)
    (hOther : m.owns pkt = false) :
    ownArrivals m [tr] = [] := by
  have hSome : arrivals [tr] = [pkt] :=
    List.filterMap_cons_some (by rw [hEvent]; rfl)
  unfold ownArrivals
  rw [hSome, List.filter_cons_of_neg (by simp [hOther]),
    List.filter_nil]

theorem ownArrivals_of_timer
    {m : Message}
    {tr : Transition (Endpoint σ) (ArrivalEvent α) Output}
    (hEvent : tr.event.arrival? = none) :
    ownArrivals m [tr] = [] := by
  have hNone : arrivals [tr] = [] :=
    List.filterMap_cons_none hEvent
  unfold ownArrivals
  rw [hNone, List.filter_nil]

------------------------------------------------------------
-- Exactness, And What It Depends On
------------------------------------------------------------

/- The byte has been passed over and has not arrived. -/
def Missing
    (m : Message)
    (trace : ArrivalTrace σ α)
    (slot : RecvData)
    (b : Nat) : Prop :=
  b < slot.expectedOffset ∧ ¬ Covers (ownPieces m trace) b

/- The timer was started in the trace. -/
def Started
    (trace : ArrivalTrace σ α)
    (arg : PktRecvTimeoutArg) : Prop :=
  ∃ tr ∈ trace, .pktRecvTimer arg ∈ tr.outputs

/-
  After the transitions of a trace: the gaps of the slot of
  the message are the missing bytes; every gap timer asks for
  missing bytes only; and each missing byte is in the range
  that a timer which has been started asks for.
-/
structure GapsExact
    (m : Message)
    (trace : ArrivalTrace σ α)
    (s : Endpoint σ)
    (recvId : RecvId)
    (slot : RecvData) : Prop where
  union :
    ∀ b, AsksFor slot.gapArray b ↔ Missing m trace slot b
  asked :
    ∀ arg nack,
      arg.recvId = recvId →
        s.gapNack? arg = some nack →
        ∀ b, nack.Asks b → Missing m trace slot b
  timed :
    ∀ b, Missing m trace slot b →
      ∃ arg nack,
        arg.recvId = recvId ∧
          Started trace arg ∧
          s.gapNack? arg = some nack ∧
          nack.Asks b

/- The slot found for the message, if any, has exact gaps. -/
def Endpoint.TracksGaps
    (s : Endpoint σ)
    (m : Message)
    (trace : ArrivalTrace σ α) : Prop :=
  ∀ recvId slot,
    s.recvdatabuf.find? (RecvData.isFor m.conId m.seqnr) =
        some (recvId, slot) →
      GapsExact m trace s recvId slot

/-
  When a packet of the message opens a gap, there is room in
  the array to record it.
-/
def RoomForGap
    (m : Message)
    (s : Endpoint σ)
    (e : ArrivalEvent α) : Prop :=
  ∀ pkt recvId slot,
    e = .arrival pkt →
      m.owns pkt = true →
      s.recvdatabuf.find? (RecvData.isFor m.conId m.seqnr) =
        some (recvId, slot) →
      slot.expectedOffset < pkt.piece.start →
      slot.gapCounter < rtxMaxGaps

/- No packet of the message lies strictly inside a gap. -/
def StaysAtEnds
    (m : Message)
    (s : Endpoint σ)
    (e : ArrivalEvent α) : Prop :=
  ∀ pkt recvId slot,
    e = .arrival pkt →
      m.owns pkt = true →
      s.recvdatabuf.find? (RecvData.isFor m.conId m.seqnr) =
        some (recvId, slot) →
      pkt.piece.start < slot.expectedOffset →
      ∀ gap ∈ slot.gapArray,
        ¬ gap.Encloses pkt.piece.start pkt.piece.length

theorem Started.append
    {trace : ArrivalTrace σ α}
    {arg : PktRecvTimeoutArg}
    (hStarted : Started trace arg)
    (more : ArrivalTrace σ α) :
    Started (trace ++ more) arg := by
  rcases hStarted with ⟨tr, hMem, hOutput⟩
  exact ⟨tr, List.mem_append_left _ hMem, hOutput⟩

------------------------------------------------------------
-- The Invariant Of A Slot That Is Filled
------------------------------------------------------------

/-
  The slot of the message has taken in what has arrived of
  it; its gaps match, and each has had its timer started.
-/
structure Endpoint.Follows
    (s : Endpoint σ)
    (m : Message)
    (trace : ArrivalTrace σ α) : Prop where
  live : ∃ con, s.connectbuf m.conId = some con
  tracks : s.Tracks m (ownPieces m trace)
  within : ∀ b, Covers (ownPieces m trace) b → b < m.length
  gaps :
    ∀ recvId slot,
      s.recvdatabuf.find? (RecvData.isFor m.conId m.seqnr) =
          some (recvId, slot) →
        GapsMatch slot.gapArray slot.expectedOffset
            (ownPieces m trace) ∧
          ∀ g < slot.gapArray.length,
            ∃ arg,
              arg.recvId = recvId ∧
                arg.seqnr = m.seqnr ∧
                arg.gap = g ∧
                Started trace arg

theorem nack_asks_iff
    {slot : RecvData}
    {offsetFrom offsetTo b : Nat}
    (hFrom : offsetFrom < 2 ^ 32)
    (hTo : offsetTo < 2 ^ 32) :
    (slot.nack offsetFrom offsetTo).Asks b ↔
      offsetFrom ≤ b ∧ b < offsetTo := by
  unfold NackMsg.Asks RecvData.nack
  simp only [UInt32.toNat_ofNat_of_lt' hFrom,
    UInt32.toNat_ofNat_of_lt' hTo]

/- The bounds of a gap are offsets in the message. -/
theorem GapsMatch.bounds
    {m : Message}
    {gaps : List Gap}
    {expected : Nat}
    {received : List Piece}
    (hMatch : GapsMatch gaps expected received)
    (hWithin : ∀ b, Covers received b → b < m.length)
    {gap : Gap}
    (hMem : gap ∈ gaps) :
    gap.offsetFrom < 2 ^ 32 ∧ gap.offsetTo < 2 ^ 32 := by
  have hOrdered := hMatch.ordered gap hMem
  have hBelow := hWithin _ (hMatch.after gap hMem)
  have hMax := m.bytes_le
  unfold maxMsgLength at hMax
  unfold Message.length at hBelow
  omega

/- What has been followed is exact. -/
theorem Endpoint.Follows.tracksGaps
    {s : Endpoint σ}
    {m : Message}
    {trace : ArrivalTrace σ α}
    (hFollows : s.Follows m trace) :
    s.TracksGaps m trace := by
  intro recvId slot hFind
  rcases hFollows.gaps recvId slot hFind with
    ⟨hMatch, hTimers⟩
  rcases SlotTable.of_find?_eq_some hFind with ⟨hAt, hIs⟩
  have hSeqnr : slot.seqnr = m.seqnr :=
    (isFor_eq_true_iff.mp hIs).2
  refine ⟨hMatch.exact, ?_, ?_⟩
  · intro arg nack hId hNack b hAsks
    unfold gapNack? at hNack
    rw [hId, hAt] at hNack
    simp only at hNack
    split at hNack
    · cases hNack
    · split at hNack
      · cases hNack
      · rename_i hOpen
        cases hNack
        by_cases hIn : arg.gap < slot.gapArray.length
        · rw [List.getD_eq_getElem _ _ hIn] at hAsks
          have hMem := List.getElem_mem hIn
          rcases
            hMatch.bounds hFollows.within hMem with
            ⟨hFrom, hTo⟩
          rw [nack_asks_iff hFrom hTo] at hAsks
          exact (hMatch.exact b).mp ⟨_, hMem, hAsks⟩
        · rw [List.getD_eq_default _ _ (by omega)] at hOpen
          exact absurd rfl hOpen
  · intro b hMissing
    rcases (hMatch.exact b).mpr hMissing with
      ⟨gap, hMem, hAsks⟩
    rcases List.getElem_of_mem hMem with ⟨g, hIn, hGap⟩
    rcases hTimers g hIn with
      ⟨arg, hId, hArgSeqnr, hArgGap, hStarted⟩
    rcases hMatch.bounds hFollows.within hMem with
      ⟨hFrom, hTo⟩
    refine
      ⟨arg, slot.nack gap.offsetFrom gap.offsetTo, hId,
        hStarted, ?_, (nack_asks_iff hFrom hTo).mpr hAsks⟩
    unfold gapNack?
    rw [hId, hAt]
    simp only [hArgGap, List.getD_eq_getElem _ _ hIn, hGap]
    rw [if_neg (by rw [hSeqnr, hArgSeqnr]; simp), if_neg]
    intro hEmpty
    unfold Gap.Asks at hAsks
    omega

/- A message that has no slot is followed from the start. -/
theorem Endpoint.follows_nil
    {s : Endpoint σ}
    {m : Message}
    (hAbsent :
      s.recvdatabuf.find?
        (RecvData.isFor m.conId m.seqnr) = none)
    (hLive : ∃ con, s.connectbuf m.conId = some con) :
    s.Follows m ([] : ArrivalTrace σ α) where
  live := hLive
  tracks := Or.inl ⟨rfl, hAbsent⟩
  within := by
    intro b hCovers
    exact absurd hCovers (Tiling.not_covers_nil b)
  gaps := by
    intro recvId slot hFind
    rw [hAbsent] at hFind
    cases hFind

------------------------------------------------------------
-- Timers And Other Packets
------------------------------------------------------------

/-
  The slot found for the message is the one found before, as
  far as its gaps go.
-/
def SameGaps
    (m : Message)
    (s s' : Endpoint σ) : Prop :=
  ∀ recvId slot',
    s'.recvdatabuf.find? (RecvData.isFor m.conId m.seqnr) =
        some (recvId, slot') →
      ∃ slot,
        s.recvdatabuf.find?
            (RecvData.isFor m.conId m.seqnr) =
          some (recvId, slot) ∧
        slot'.gapArray = slot.gapArray ∧
        slot'.expectedOffset = slot.expectedOffset

/- Following goes on over a step that is not the message's. -/
theorem Endpoint.Follows.of_sameGaps
    {s s' : Endpoint σ}
    {m : Message}
    {trace : ArrivalTrace σ α}
    {tr : Transition (Endpoint σ) (ArrivalEvent α) Output}
    (hFollows : s.Follows m trace)
    (hOwn : ownArrivals m [tr] = [])
    (hLive : ∃ con, s'.connectbuf m.conId = some con)
    (hTracks : s'.Tracks m (ownPieces m trace))
    (hSame : SameGaps m s s') :
    s'.Follows m (trace ++ [tr]) := by
  have hPieces :
      ownPieces m (trace ++ [tr]) = ownPieces m trace := by
    unfold ownPieces
    rw [ownArrivals_append, hOwn, List.append_nil]
  refine ⟨hLive, ?_, ?_, ?_⟩
  · rw [hPieces]
    exact hTracks
  · rw [hPieces]
    exact hFollows.within
  · intro recvId slot' hFind
    rcases hSame recvId slot' hFind with
      ⟨slot, hFound, hGaps, hOffset⟩
    rcases hFollows.gaps recvId slot hFound with
      ⟨hMatch, hTimers⟩
    rw [hPieces, hGaps, hOffset]
    refine ⟨hMatch, ?_⟩
    intro g hLt
    rcases hTimers g hLt with
      ⟨arg, hId, hSeqnr, hGap, hStarted⟩
    exact ⟨arg, hId, hSeqnr, hGap, hStarted.append _⟩

theorem sameGaps_refl
    (m : Message)
    (s : Endpoint σ) :
    SameGaps m s s :=
  fun _ slot hFind => ⟨slot, hFind, rfl, rfl⟩

/- Sending over a connection keeps the slots. -/
theorem Endpoint.Follows.of_sentOver
    {s s' : Endpoint σ}
    {m : Message}
    {trace : ArrivalTrace σ α}
    {conId : ConId}
    (hFollows : s.Follows m trace)
    (hOver : SentOver s s' conId) :
    s'.Follows m trace := by
  have hEntries :=
    (SameEntries.of_sentOver hOver).isSome_eq m.conId
  rcases hFollows.live with ⟨con, hCon⟩
  rcases hOver with ⟨_, _, _, _, _, rfl⟩
  refine
    ⟨?_, hFollows.tracks, hFollows.within, hFollows.gaps⟩
  rw [hCon] at hEntries
  exact Option.isSome_iff_exists.mp hEntries

/- Clearing the event of a timer keeps the gaps. -/
theorem sameGaps_of_lastPktTimeout
    {s : Endpoint σ}
    {m : Message}
    {recvId : RecvId}
    {slot : RecvData}
    (hSlot : s.recvdatabuf recvId = some slot) :
    SameGaps m s
      (s.setSlot recvId
        { slot with lastPktTimeoutEvent := false }) := by
  intro foundId slot' hFind
  rw [Endpoint.find?_of_lastPktTimeout hSlot,
    Option.map_eq_some_iff] at hFind
  rcases hFind with ⟨⟨beforeId, before⟩, hBefore, hAfter⟩
  by_cases hEq : beforeId = recvId
  · rw [if_pos hEq] at hAfter
    cases hAfter
    subst hEq
    refine ⟨before, hBefore, ?_, ?_⟩
    · rw [(SlotTable.of_find?_eq_some hBefore).1,
        Option.some.injEq] at hSlot
      rw [hSlot]
    · rw [(SlotTable.of_find?_eq_some hBefore).1,
        Option.some.injEq] at hSlot
      rw [hSlot]
  · rw [if_neg hEq] at hAfter
    cases hAfter
    exact ⟨slot', hBefore, rfl, rfl⟩

section Steps

variable {p : Platform}
variable {T : Transport σ α}
variable {s s' : Endpoint σ}
variable {m : Message}
variable {e : ArrivalEvent α}
variable {outputs : List Output}
variable {trace : ArrivalTrace σ α}

/- A retransmission timer leaves the gaps alone. -/
theorem Endpoint.Follows.timer
    (hFollows : s.Follows m trace)
    (hTimer : e.arrival? = none)
    (hStep : ArrivalStep p T s e outputs s') :
    s'.Follows m (trace ++ [⟨s, e, outputs, s'⟩]) := by
  have hOwn :
      ownArrivals m
          [(⟨s, e, outputs, s'⟩ :
            Transition (Endpoint σ) (ArrivalEvent α)
              Output)] = [] :=
    ownArrivals_of_timer hTimer
  have hStay :=
    hFollows.of_sameGaps hOwn hFollows.live hFollows.tracks
      (sameGaps_refl m s)
  cases e with
  | arrival pkt => cases hTimer
  | pktRecvTimeout input arg =>
      rcases pktRecvTimeoutCb_cases hStep.2 with
        ⟨_, rfl | ⟨slot, _, hOver⟩⟩
      · exact hStay
      · exact hStay.of_sentOver hOver
  | lastPktRecvTimeout input recvId =>
      rcases lastPktRecvTimeoutCb_cases hStep.2 with
        ⟨_, rfl | ⟨slot, s₁, hSlot, rfl, hRest⟩⟩
      · exact hStay
      · have hLive :
            ∃ con,
              (s.setSlot recvId
                { slot with
                  lastPktTimeoutEvent := false }).connectbuf
                  m.conId =
                some con :=
          hFollows.live
        have hCleared :=
          hFollows.of_sameGaps hOwn hLive
            (hFollows.tracks.of_lastPktTimeout hSlot)
            (sameGaps_of_lastPktTimeout hSlot)
        rcases hRest with rfl | hOver
        · exact hCleared
        · exact hCleared.of_sentOver hOver

/- A packet of another message leaves the slot alone. -/
theorem find?_of_other
    {pkt : Packet}
    (hOther : m.owns pkt = false)
    (hRecv :
      recvDataMsg s pkt.header pkt.content =
        .ok (s', outputs)) :
    s'.connectbuf = s.connectbuf ∧
      s'.recvdatabuf.find?
          (RecvData.isFor m.conId m.seqnr) =
        s.recvdatabuf.find?
          (RecvData.isFor m.conId m.seqnr) := by
  rcases recvDataMsg_cases hRecv with
    ⟨rfl, _⟩ | ⟨conId, con, recvId, slot, hIndex, _, hSlot,
      hEnter⟩
  · exact ⟨rfl, rfl⟩
  · have hNotFor :
        ∀ slot' : RecvData,
          slot'.isFor conId pkt.header.msgSeqNum = true →
            slot'.isFor m.conId m.seqnr = false := by
      intro slot' hFor
      rw [Bool.eq_false_iff]
      intro hOwn
      rw [isFor_eq_true_iff] at hFor hOwn
      refine
        Bool.eq_false_iff.mp hOther (decide_eq_true ⟨?_, ?_⟩)
      · rw [hIndex, ← hFor.1, hOwn.1]
      · rw [← hFor.2, hOwn.2]
    rcases Endpoint.recvSlot_cases hSlot with ⟨hFor, hPlace⟩
    rcases Endpoint.enterPacket_cases hEnter with
      ⟨_, rfl, _⟩ |
        ⟨slot₁, slot₂, timers, calls, _, hFragment, hTimers,
          _, rfl, _⟩
    · exact ⟨rfl, rfl⟩
    · refine ⟨rfl, ?_⟩
      have hSame₁ := RecvData.recvFragment_sameMessage hFragment
      have hSame : slot.SameMessage slot₂ := by
        rcases hTimers with rfl | rfl
        · exact hSame₁
        · exact
            hSame₁.trans
              (RecvData.sameMessage_startTimeouts slot₁)
      have hFor₂ :
          slot₂.isFor conId pkt.header.msgSeqNum = true := by
        rw [isFor_eq_true_iff] at hFor ⊢
        exact
          ⟨hSame.connectionID.trans hFor.1,
            hSame.seqnr.trans hFor.2⟩
      rw [Endpoint.setSlot_recvdatabuf]
      refine
        SlotTable.find?_set_of_not ?_ (hNotFor slot₂ hFor₂)
      intro old hOld
      rcases hPlace with hAt | ⟨hNone, _⟩
      · rw [hAt] at hOld
        cases hOld
        exact hNotFor slot hFor
      · rw [hNone] at hOld
        cases hOld

theorem Endpoint.Follows.other
    {pkt : Packet}
    (hFollows : s.Follows m trace)
    (hOther : m.owns pkt = false)
    (hStep : ArrivalStep p T s (.arrival pkt) outputs s') :
    s'.Follows m
      (trace ++ [⟨s, .arrival pkt, outputs, s'⟩]) := by
  rcases find?_of_other hOther hStep with
    ⟨hConnections, hFind⟩
  refine
    hFollows.of_sameGaps
      (ownArrivals_of_other rfl hOther) ?_ ?_ ?_
  · rw [hConnections]
    exact hFollows.live
  · unfold Tracks
    rw [hFind]
    exact hFollows.tracks
  · intro recvId slot' hFound
    rw [hFind] at hFound
    exact ⟨slot', hFound, rfl, rfl⟩

end Steps

------------------------------------------------------------
-- A Fragment Of The Message
------------------------------------------------------------

/- The timers that are started depend on the gaps only. -/
theorem RecvData.detectGap_timers_congr
    {slot slot' : RecvData}
    (hGaps : slot'.gapArray = slot.gapArray)
    (hOffset : slot'.expectedOffset = slot.expectedOffset)
    (hSeqnr : slot'.seqnr = slot.seqnr)
    (recvId : RecvId)
    (offset : Nat) :
    (slot'.detectGap recvId offset).2 =
      (slot.detectGap recvId offset).2 := by
  unfold detectGap gapCounter
  rw [hGaps, hOffset, hSeqnr]
  split
  · rfl
  · rfl

/- The gaps and the timers after a fragment is entered. -/
theorem RecvData.Holds.recvFragment_gaps
    {m : Message}
    {received : List Piece}
    {slot slot' : RecvData}
    {recvId : RecvId}
    {pkt : Packet}
    {timers : List Output}
    (hHolds : slot.Holds m received)
    (hFragment : m.IsFragment pkt)
    (hRecv :
      slot.recvFragment recvId pkt.header pkt.content =
        .ok (slot', timers)) :
    slot'.gapArray =
        slot.nextGaps pkt.piece.start pkt.piece.length ∧
      slot'.expectedOffset =
        slot.nextOffset pkt.piece.start pkt.piece.length ∧
      timers = (slot.detectGap recvId pkt.piece.start).2 := by
  rcases hHolds.copyMonDataHdr hFragment with
    ⟨slot₁, hHeader, _⟩
  rcases recvFragment_cases hRecv with
    ⟨slot₁', data₁, slot₂, hHeader', hData, rfl, rfl⟩
  rw [hHeader] at hHeader'
  cases hHeader'
  rcases copyData_ok hData with ⟨_, rfl⟩
  rcases copyMonDataHdr_cases hHeader with
    ⟨_, _, _, rfl, _⟩ | ⟨_, rfl, _⟩
  · refine ⟨rfl, rfl, ?_⟩
    apply detectGap_timers_congr
    · rfl
    · rfl
    · rfl
  · refine ⟨rfl, rfl, ?_⟩
    apply detectGap_timers_congr
    · rfl
    · rfl
    · rfl

/-
  What a fragment of the message that is still open does to
  the node: the slot found, or a new one, takes it in.
-/
theorem Endpoint.Tracks.enters
    {s s' : Endpoint σ}
    {m : Message}
    {received : List Piece}
    {pkt : Packet}
    {outputs : List Output}
    (hTracks : s.Tracks m received)
    (hLive : ∃ con, s.connectbuf m.conId = some con)
    (hOpen : total received ≠ m.length)
    (hFragment : m.IsFragment pkt)
    (hRecv :
      ML.recvDataMsg s pkt.header pkt.content =
        .ok (s', outputs)) :
    ∃ recvId slot slot',
      s.recvSlot m.conId pkt.header = .ok (recvId, slot) ∧
        s' = s.setSlot recvId slot' ∧
        s'.recvdatabuf.find?
            (RecvData.isFor m.conId m.seqnr) =
          some (recvId, slot') ∧
        slot'.Holds m (received ++ [pkt.piece]) ∧
        slot'.gapArray =
          slot.nextGaps pkt.piece.start pkt.piece.length ∧
        slot'.expectedOffset =
          slot.nextOffset pkt.piece.start
            pkt.piece.length ∧
        ∀ output ∈ (slot.detectGap recvId pkt.piece.start).2,
          output ∈ outputs := by
  rcases hLive with ⟨con, hCon⟩
  unfold ML.recvDataMsg at hRecv
  simp only [connectbufAt_natCast hFragment.remoteConId,
    hCon] at hRecv
  split at hRecv
  · cases hRecv
  · rename_i recvId slot hSlot
    rcases hTracks.of_recvSlot hFragment hSlot with
      ⟨hHolds, _, _, hFind⟩
    rcases enterPacket_cases hRecv with
      ⟨hComplete, _, _⟩ |
        ⟨slot₁, slot₂, timers, calls, _, hEnter, hTimers, _,
          rfl, rfl⟩
    · exact absurd (hHolds.complete_iff.mp hComplete) hOpen
    · have hHolds₁ := hHolds.recvFragment hFragment hEnter
      rcases hHolds.recvFragment_gaps hFragment hEnter with
        ⟨hGaps, hOffset, rfl⟩
      have hSame :
          slot₂.Holds m (received ++ [pkt.piece]) ∧
            slot₂.gapArray = slot₁.gapArray ∧
            slot₂.expectedOffset = slot₁.expectedOffset := by
        rcases hTimers with rfl | rfl
        · exact ⟨hHolds₁, rfl, rfl⟩
        · refine ⟨hHolds₁.startTimeouts, ?_⟩
          unfold RecvData.startTimeouts
          split
          · exact ⟨rfl, rfl⟩
          · exact ⟨rfl, rfl⟩
      rcases hSame with ⟨hHolds₂, hGaps₂, hOffset₂⟩
      exact
        ⟨recvId, slot, slot₂, hSlot, rfl,
          hFind slot₂ hHolds₂.isFor, hHolds₂,
          hGaps₂.trans hGaps, hOffset₂.trans hOffset,
          fun output hMem => List.mem_append_left _ hMem⟩

/-
  A fragment that has not arrived shares no byte with those
  that have, and the message is still open.
-/
theorem fresh_of_not_mem
    {fragments earlier : List Packet}
    {n : Nat}
    {pkt : Packet}
    (hTiles :
      Tiling.Tiles 0 (fragments.map Packet.piece) n)
    (hSubset : earlier ⊆ fragments)
    (hNodup : earlier.Nodup)
    (hPkt : pkt ∈ fragments)
    (hNot : pkt ∉ earlier) :
    Fresh (earlier.map Packet.piece) pkt.piece ∧
      total (earlier.map Packet.piece) ≠ n := by
  have hInjective :
      ∀ first ∈ fragments, ∀ second ∈ fragments,
        first.piece = second.piece → first = second :=
    fun first hFirst second hSecond hEq =>
      List.inj_on_of_nodup_map hTiles.nodup hFirst hSecond hEq
  have hPieces :
      earlier.map Packet.piece ⊆ fragments.map Packet.piece :=
    List.map_subset Packet.piece hSubset
  have hNotPiece : pkt.piece ∉ earlier.map Packet.piece := by
    intro hMem
    rcases List.mem_map.mp hMem with ⟨other, hOther, hEq⟩
    rw [← hInjective other (hSubset hOther) pkt hPkt hEq]
      at hNot
    exact hNot hOther
  constructor
  · rintro b hFrom hTo ⟨piece, hMem, hIn⟩
    have hSame :=
      hTiles.eq_of_common (hPieces hMem)
        (List.mem_map_of_mem hPkt) hIn ⟨hFrom, hTo⟩
    rw [hSame] at hMem
    exact hNotPiece hMem
  · have hReceived : (earlier.map Packet.piece).Nodup :=
      hNodup.map_on
        (fun first hFirst second hSecond hEq =>
          hInjective first (hSubset hFirst) second
            (hSubset hSecond) hEq)
    have hLess :=
      hTiles.total_lt_of_not_subset hPieces hReceived
        (fun hAll =>
          hNotPiece (hAll (List.mem_map_of_mem hPkt)))
    omega

section Fragments

variable {p : Platform}
variable {T : Transport σ α}
variable {s s' : Endpoint σ}
variable {m : Message}
variable {pkt : Packet}
variable {outputs : List Output}
variable {trace : ArrivalTrace σ α}

/- The slot a fragment is for: the one followed, or a new one. -/
theorem Endpoint.Follows.recvSlot
    {recvId : RecvId}
    {slot : RecvData}
    (hFollows : s.Follows m trace)
    (hFragment : m.IsFragment pkt)
    (hSlot :
      s.recvSlot m.conId pkt.header = .ok (recvId, slot)) :
    GapsMatch slot.gapArray slot.expectedOffset
        (ownPieces m trace) ∧
      (∀ g < slot.gapArray.length,
        ∃ arg,
          arg.recvId = recvId ∧
            arg.seqnr = m.seqnr ∧
            arg.gap = g ∧
            Started trace arg) ∧
      slot.seqnr = m.seqnr ∧
      (s.recvdatabuf.find? (RecvData.isFor m.conId m.seqnr) =
          some (recvId, slot) ∨
        (s.recvdatabuf.find?
            (RecvData.isFor m.conId m.seqnr) = none ∧
          slot.expectedOffset = 0 ∧ slot.gapArray = [])) := by
  rcases hFollows.tracks.of_recvSlot hFragment hSlot with
    ⟨hHolds, _, _, _⟩
  unfold Endpoint.recvSlot at hSlot
  rw [hFragment.msgSeqNum] at hSlot
  rcases hFollows.tracks with
    ⟨hNil, hNone⟩ | ⟨_, foundId, found, hFind, _⟩
  · simp only [hNone] at hSlot
    split at hSlot
    · cases hSlot
    · split at hSlot
      · cases hSlot
      · rename_i hCreate
        cases hSlot
        rcases RecvData.create_ok hCreate with
          ⟨_, _, _, hGaps, hOffset, _⟩
        rw [hNil, hGaps, hOffset]
        refine
          ⟨GapsMatch.nil, ?_, hHolds.seqnr,
            Or.inr ⟨hNone, rfl, rfl⟩⟩
        intro g hLt
        exact absurd hLt (Nat.not_lt_zero g)
  · simp only [hFind] at hSlot
    cases hSlot
    rcases hFollows.gaps _ _ hFind with ⟨hMatch, hTimers⟩
    exact ⟨hMatch, hTimers, hHolds.seqnr, Or.inl hFind⟩

/- A gap is recorded before, or its timer is started. -/
theorem RecvData.timer_of_nextGaps
    {slot : RecvData}
    {recvId : RecvId}
    {piece : Piece}
    {g : Nat}
    (hLt :
      g < (slot.nextGaps piece.start piece.length).length) :
    g < slot.gapArray.length ∨
      ∃ arg : PktRecvTimeoutArg,
        arg.recvId = recvId ∧
          arg.seqnr = slot.seqnr ∧
          arg.gap = g ∧
          .pktRecvTimer arg ∈
            (slot.detectGap recvId piece.start).2 := by
  unfold nextGaps at hLt
  unfold detectGap
  by_cases hOpens :
      slot.expectedOffset < piece.start ∧
        slot.gapCounter < rtxMaxGaps
  · rw [if_pos hOpens] at hLt ⊢
    rw [List.length_append, List.length_singleton] at hLt
    by_cases hOld : g < slot.gapArray.length
    · exact Or.inl hOld
    · refine
        Or.inr
          ⟨_, rfl, rfl, ?_, List.mem_singleton.mpr rfl⟩
      change slot.gapArray.length = g
      omega
  · rw [if_neg hOpens] at hLt
    refine Or.inl ?_
    split at hLt
    · rw [length_fillGap] at hLt
      exact hLt
    · exact hLt

/-
  A fragment of the message that arrives at no place strictly
  inside a gap is followed.
-/
theorem Endpoint.Follows.arrival
    (hFollows : s.Follows m trace)
    (hFragment : m.IsFragment pkt)
    (hFresh : Fresh (ownPieces m trace) pkt.piece)
    (hOpen : total (ownPieces m trace) ≠ m.length)
    (hRoom : RoomForGap m s (.arrival pkt : ArrivalEvent α))
    (hEnds : StaysAtEnds m s (.arrival pkt : ArrivalEvent α))
    (hStep : ArrivalStep p T s (.arrival pkt) outputs s') :
    s'.Follows m
      (trace ++ [⟨s, .arrival pkt, outputs, s'⟩]) := by
  have hPieces :
      ownPieces m
          (trace ++ [⟨s, .arrival pkt, outputs, s'⟩]) =
        ownPieces m trace ++ [pkt.piece] := by
    unfold ownPieces
    rw [ownArrivals_append,
      ownArrivals_of_own rfl hFragment.owns, List.map_append]
    rfl
  rcases
    hFollows.tracks.enters hFollows.live hOpen hFragment
      hStep with
    ⟨recvId, slot, slot', hSlot, rfl, hFind, hHolds, hGaps,
      hOffset, hOutputs⟩
  rcases hFollows.recvSlot hFragment hSlot with
    ⟨hMatch, hTimers, hSeqnr, hPlace⟩
  refine ⟨hFollows.live, ?_, ?_, ?_⟩
  · rw [hPieces]
    exact Or.inr ⟨by simp, recvId, slot', hFind, hHolds⟩
  · rw [hPieces]
    intro b hCovers
    rcases covers_snoc.mp hCovers with hEarlier | hNew
    · exact hFollows.within b hEarlier
    · have := hFragment.fits
      omega
  · intro foundId found hFound
    rw [hFind] at hFound
    cases hFound
    rw [hPieces, hGaps, hOffset]
    constructor
    · refine
        hMatch.nextGaps hFresh hFragment.pos ?_ ?_
      · intro hBeyond
        rcases hPlace with hOld | ⟨_, _, hEmpty⟩
        · exact
            hRoom pkt recvId slot rfl hFragment.owns hOld
              hBeyond
        · unfold RecvData.gapCounter
          rw [hEmpty]
          decide
      · intro hLate
        rcases hPlace with hOld | ⟨_, hZero, _⟩
        · exact
            hEnds pkt recvId slot rfl hFragment.owns hOld
              hLate
        · omega
    · intro g hLt
      rcases RecvData.timer_of_nextGaps hLt with
        hOld | ⟨arg, hId, hArgSeqnr, hGap, hOutput⟩
      · rcases hTimers g hOld with
          ⟨arg, hId, hArgSeqnr, hGap, hStarted⟩
        exact
          ⟨arg, hId, hArgSeqnr, hGap, hStarted.append _⟩
      · refine
          ⟨arg, hId, hArgSeqnr.trans hSeqnr, hGap, _,
            List.mem_append_right _ List.mem_cons_self,
            hOutputs _ hOutput⟩

/-
  A fragment strictly inside a gap goes on being asked for,
  although it has arrived.
-/
theorem Endpoint.Follows.staysAtEnds
    (hFollows : s.Follows m trace)
    (hFragment : m.IsFragment pkt)
    (hFresh : Fresh (ownPieces m trace) pkt.piece)
    (hOpen : total (ownPieces m trace) ≠ m.length)
    (hStep : ArrivalStep p T s (.arrival pkt) outputs s')
    (hTracks :
      s'.TracksGaps m
        (trace ++ [⟨s, .arrival pkt, outputs, s'⟩])) :
    StaysAtEnds m s (.arrival pkt : ArrivalEvent α) := by
  intro pkt' recvId₀ slot₀ hEvent _ hFind₀ hLate gap hMem
    hInside
  cases hEvent
  rcases
    hFollows.tracks.enters hFollows.live hOpen hFragment
      hStep with
    ⟨recvId, slot, slot', hSlot, rfl, hFind, _, hGaps, _, _⟩
  rcases hFollows.recvSlot hFragment hSlot with
    ⟨hMatch, _, _, hPlace⟩
  have hSame : slot = slot₀ := by
    rcases hPlace with hOld | ⟨hNone, _⟩
    · rw [hFind₀] at hOld
      cases hOld
      rfl
    · rw [hFind₀] at hNone
      cases hNone
  subst hSame
  rcases
    hMatch.not_exact_of_enclosed hFresh hFragment.pos hMem
      hInside with
    ⟨hAsks, hCovers⟩
  have hFilled :
      slot'.gapArray =
        fillGap pkt.piece.start pkt.piece.length
          slot.gapArray := by
    rw [hGaps]
    unfold RecvData.nextGaps
    rw [if_neg (by omega), if_pos hLate]
  rw [← hFilled] at hAsks
  have hMissing :=
    ((hTracks recvId slot' hFind).union pkt.piece.start).mp
      hAsks
  apply hMissing.2
  unfold ownPieces
  rw [ownArrivals_append,
    ownArrivals_of_own rfl hFragment.owns, List.map_append]
  exact hCovers

end Fragments

------------------------------------------------------------
-- Which Runs Keep The Gaps Exact
------------------------------------------------------------

section Runs

variable {p : Platform}
variable {T : Transport σ α}
variable {fragments : List Packet}
variable {s t : Endpoint σ}
variable {earlier trace : ArrivalTrace σ α}
variable {m : Message}

/- The gaps are exact after each transition of the trace. -/
def TracksGapsThrough
    (m : Message)
    (earlier trace : ArrivalTrace σ α) : Prop :=
  ∀ before tr after, trace = before ++ tr :: after →
    tr.post.TracksGaps m (earlier ++ before ++ [tr])

theorem tracksGapsThrough_cons
    {tr : Transition (Endpoint σ) (ArrivalEvent α) Output}
    {rest : ArrivalTrace σ α} :
    TracksGapsThrough m earlier (tr :: rest) ↔
      tr.post.TracksGaps m (earlier ++ [tr]) ∧
        TracksGapsThrough m (earlier ++ [tr]) rest := by
  constructor
  · intro hAll
    constructor
    · have hFirst := hAll [] tr rest rfl
      rw [List.append_nil] at hFirst
      exact hFirst
    · rintro before tr' after rfl
      have hLater := hAll (tr :: before) tr' after rfl
      simpa only [List.append_assoc, List.cons_append,
        List.nil_append] using hLater
  · rintro ⟨hFirst, hRest⟩ before tr' after hSplit
    cases before with
    | nil =>
        cases hSplit
        rw [List.append_nil]
        exact hFirst
    | cons head before =>
        cases hSplit
        have hLater := hRest before tr' after rfl
        simpa only [List.append_assoc, List.cons_append,
          List.nil_append] using hLater

/-
  From a node that has been followed: the gaps stay exact
  exactly when every fragment stays at the ends of the gaps.
-/
theorem Endpoint.Follows.run_iff
    (hTiles :
      Tiling.Tiles 0 (fragments.map Packet.piece) m.length)
    (hFragments : ∀ pkt ∈ fragments, m.IsFragment pkt)
    (hRun : Run (ArrivalStep p T) s trace t)
    (hFollows : s.Follows m earlier)
    (hSubset : ownArrivals m (earlier ++ trace) ⊆ fragments)
    (hNodup : (ownArrivals m (earlier ++ trace)).Nodup)
    (hRoom : ∀ tr ∈ trace, RoomForGap m tr.pre tr.event) :
    TracksGapsThrough m earlier trace ↔
      ∀ tr ∈ trace, StaysAtEnds m tr.pre tr.event := by
  induction hRun generalizing earlier with
  | nil s =>
      refine iff_of_true ?_ (by simp)
      intro before tr after hSplit
      cases before <;> cases hSplit
  | @cons s s' t e outputs rest hStep hRest ih =>
      rw [tracksGapsThrough_cons, List.forall_mem_cons]
      rw [List.forall_mem_cons] at hRoom
      have hSplit :
          earlier ++ ⟨s, e, outputs, s'⟩ :: rest =
            (earlier ++ [⟨s, e, outputs, s'⟩]) ++ rest := by
        rw [List.append_assoc, List.singleton_append]
      rw [hSplit] at hSubset hNodup
      -- One step is followed unless it leaves the ends.
      have hOne :
          (StaysAtEnds m s e →
              s'.Follows m
                (earlier ++ [⟨s, e, outputs, s'⟩])) ∧
            (s'.TracksGaps m
                (earlier ++ [⟨s, e, outputs, s'⟩]) →
              StaysAtEnds m s e) := by
        cases hEvent : e.arrival? with
        | none =>
            refine
              ⟨fun _ => hFollows.timer hEvent hStep, ?_⟩
            rintro _ pkt _ _ rfl
            cases hEvent
        | some pkt =>
            have hIs := ArrivalEvent.eq_of_arrival? hEvent
            subst hIs
            by_cases hOwns : m.owns pkt = true
            · rw [ownArrivals_append, ownArrivals_append,
                ownArrivals_of_own rfl hOwns] at hSubset hNodup
              have hPkt : pkt ∈ fragments :=
                hSubset (by simp)
              have hFragment := hFragments pkt hPkt
              have hBefore := hNodup.of_append_left
              rw [List.nodup_append] at hBefore
              rcases
                fresh_of_not_mem hTiles
                  (fun other hMem =>
                    hSubset (by simp [hMem]))
                  hBefore.1 hPkt
                  (fun hMem =>
                    hBefore.2.2 pkt hMem pkt (by simp) rfl)
                with ⟨hFresh, hOpen⟩
              exact
                ⟨fun hEnds =>
                  hFollows.arrival hFragment hFresh hOpen
                    hRoom.1 hEnds hStep,
                fun hTracks =>
                  hFollows.staysAtEnds hFragment hFresh
                    hOpen hStep hTracks⟩
            · refine
                ⟨fun _ =>
                  hFollows.other (Bool.eq_false_iff.mpr hOwns)
                    hStep, ?_⟩
              rintro _ pkt' _ _ hEq hOwns'
              cases hEq
              exact absurd hOwns' hOwns
      constructor
      · rintro ⟨hHere, hLater⟩
        have hEnds := hOne.2 hHere
        exact
          ⟨hEnds,
            (ih (hOne.1 hEnds) hSubset hNodup hRoom.2).mp
              hLater⟩
      · rintro ⟨hEnds, hLater⟩
        have hNext := hOne.1 hEnds
        exact
          ⟨hNext.tracksGaps,
            (ih hNext hSubset hNodup hRoom.2).mpr hLater⟩

/-
  For every message, however its fragments arrive, none of
  them twice, and while there is room for the gaps: after
  every packet and timer the gaps are exactly the missing
  bytes if and only if no fragment arrives strictly inside a
  gap.
-/
theorem gaps_exact_iff
    (hTiles :
      Tiling.Tiles 0 (fragments.map Packet.piece) m.length)
    (hFragments : ∀ pkt ∈ fragments, m.IsFragment pkt)
    (hAbsent :
      s.recvdatabuf.find?
        (RecvData.isFor m.conId m.seqnr) = none)
    (hLive : ∃ con, s.connectbuf m.conId = some con)
    (hRun : Run (ArrivalStep p T) s trace t)
    (hSubset : ownArrivals m trace ⊆ fragments)
    (hNodup : (ownArrivals m trace).Nodup)
    (hRoom : ∀ tr ∈ trace, RoomForGap m tr.pre tr.event) :
    TracksGapsThrough m [] trace ↔
      ∀ tr ∈ trace, StaysAtEnds m tr.pre tr.event :=
  (Endpoint.follows_nil hAbsent hLive).run_iff hTiles
    hFragments hRun hSubset hNodup hRoom

end Runs

------------------------------------------------------------
-- A Fragment In The Middle Of A Gap
------------------------------------------------------------

open Sample

/- A message of four packets of the smallest size. -/
def Sample.quartered : Message where
  conId := first
  localConId := 0
  seqnr := 0
  msgtype := 0
  monDataHdr := MonHeader.none
  bytes := List.replicate 1796 1
  bytes_pos := by
    rw [List.length_replicate]
    decide
  bytes_le := by
    rw [List.length_replicate]
    decide
  msgtype_lt := zero_lt_msgMultiplexSize

/- Its packet with this offset. -/
def Sample.quarter (offset : UInt32) : Packet :=
  dataPacket 0 offset 1796 (List.replicate 449 1)

/- Its packets. -/
def Sample.quarters : List Packet :=
  [quarter 0, quarter 449, quarter 898, quarter 1347]

theorem Sample.length_quartered :
    quartered.length = 1796 :=
  List.length_replicate ..

theorem Sample.piece_quarter (offset : UInt32) :
    (quarter offset).piece = ⟨offset.toNat, 449⟩ := by
  unfold Packet.piece quarter dataPacket
  rw [List.length_replicate]

theorem Sample.isFragment_quarter
    {offset : UInt32}
    (hFits : offset.toNat + 449 ≤ 1796) :
    quartered.IsFragment (quarter offset) where
  remoteConId := rfl
  localConId := rfl
  msgSeqNum := rfl
  msgType := rfl
  msgLength := length_quartered.symm
  lenMonDataHdr := rfl
  lenMonPacketHdr := rfl
  monDataHdr := by
    split
    · rfl
    · rfl
  payload := by
    rw [piece_quarter]
    unfold quartered ByteSeq.slice
    rw [List.drop_replicate, List.take_replicate]
    have hLength : min 449 (1796 - offset.toNat) = 449 := by
      omega
    change _ = List.replicate (min 449 (1796 - _)) 1
    rw [hLength]
    rfl
  pos := by
    rw [piece_quarter]
    exact Nat.succ_pos 448
  fits := by
    rw [piece_quarter, length_quartered]
    exact hFits

theorem Sample.tiles_quarters :
    Tiling.Tiles 0 (quarters.map Packet.piece)
      quartered.length := by
  unfold quarters
  rw [length_quartered]
  simp only [List.map_cons, List.map_nil, piece_quarter]
  exact
    .cons rfl (by decide) <| .cons rfl (by decide) <|
      .cons rfl (by decide) <| .cons rfl (by decide) <|
        .nil 1796

theorem Sample.isFragment_of_mem_quarters
    {pkt : Packet}
    (hMem : pkt ∈ quarters) :
    quartered.IsFragment pkt := by
  unfold quarters at hMem
  simp only [List.mem_cons, List.not_mem_nil, or_false]
    at hMem
  rcases hMem with rfl | rfl | rfl | rfl
  · exact isFragment_quarter (by decide)
  · exact isFragment_quarter (by decide)
  · exact isFragment_quarter (by decide)
  · exact isFragment_quarter (by decide)

/- The node has no slot for it yet. -/
theorem Sample.absent_quartered :
    (connected 472).recvdatabuf.find?
        (RecvData.isFor quartered.conId
          quartered.seqnr) = none :=
  SlotTable.find?_empty _

theorem Sample.live_quartered :
    ∃ con,
      (connected 472).connectbuf quartered.conId =
        some con :=
  ⟨_, connected_first 472⟩

/-
  The last packet arrives first, and then an earlier one: it
  finds a gap that reaches from the start of the message to
  the packet received.
-/
theorem Sample.exists_run_late
    (offset : UInt32)
    (hMem : quarter offset ∈ quarters) :
    ∃ (s t : Endpoint Unit)
        (outputs outputs' : List Output)
        (recvId : RecvId) (slot : RecvData),
      Run (ArrivalStep platform Transport.scripted)
          (connected 472)
          [⟨connected 472, .arrival (quarter 1347), outputs,
            s⟩,
          ⟨s, .arrival (quarter offset), outputs', t⟩] t ∧
        s.recvdatabuf.find?
            (RecvData.isFor quartered.conId
              quartered.seqnr) =
          some (recvId, slot) ∧
        slot.gapArray = [⟨0, 1347⟩] ∧
        slot.expectedOffset = 1796 := by
  have hFragments :
      ∀ pkt ∈ [quarter 1347, quarter offset],
        quartered.IsFragment pkt := by
    intro pkt hPkt
    simp only [List.mem_cons, List.not_mem_nil, or_false]
      at hPkt
    rcases hPkt with rfl | rfl
    · exact isFragment_quarter (by decide)
    · exact isFragment_of_mem_quarters hMem
  have hAwaits : (connected 472).Awaits quartered :=
    ⟨absent_quartered, live_quartered, rfl⟩
  have hLength :
      ∀ o, (quarter o).payload.length = 449 :=
    fun o => congrArg Piece.length (piece_quarter o)
  rcases
    hAwaits.reassembles.exists_run
      (p := platform) (T := Transport.scripted)
      (fun _ => ⟨_, firstFree?_connected 472⟩) hFragments
      (by simp [payloadBytes, hLength]) (by simp) with
    ⟨trace, t, hRun, hEvents⟩
  cases hRun with
  | nil => cases hEvents
  | @cons _ s _ e outputs rest hFirst hRest =>
      cases hRest with
      | nil => cases hEvents
      | @cons _ u _ e' outputs' rest hSecond hEnd =>
          cases hEnd with
          | cons => cases hEvents
          | nil =>
              simp only [List.map_cons, List.map_nil,
                List.cons.injEq] at hEvents
              rcases hEvents with ⟨rfl, rfl, _⟩
              have hFollows :=
                Endpoint.follows_nil (α := ErrorCode)
                  absent_quartered live_quartered
              have hOpen :
                  total (ownPieces quartered
                      ([] : ArrivalTrace Unit ErrorCode)) ≠
                    quartered.length := by
                rw [length_quartered]
                decide
              have hFragment :=
                hFragments _ List.mem_cons_self
              rcases
                hFollows.tracks.enters hFollows.live hOpen
                  hFragment hFirst with
                ⟨recvId, slot, slot', hSlot, rfl, hFind, _,
                  hGaps, hOffset, _⟩
              rcases hFollows.recvSlot hFragment hSlot with
                ⟨_, _, _, hOld | ⟨_, hZero, hNone⟩⟩
              · rw [absent_quartered] at hOld
                cases hOld
              · refine
                  ⟨_, _, outputs, outputs', recvId, slot',
                    .cons hFirst (.cons hSecond (.nil _)),
                    hFind, ?_, ?_⟩
                · rw [hGaps, piece_quarter]
                  unfold RecvData.nextGaps
                    RecvData.gapCounter
                  rw [hZero, hNone]
                  rfl
                · rw [hOffset, piece_quarter]
                  unfold RecvData.nextOffset
                  rw [hZero]
                  rfl

/- What such a run receives, and that there is room for it. -/
theorem Sample.room_of_late
    (offset : UInt32)
    {s : Endpoint Unit}
    (t : Endpoint Unit)
    (outputs outputs' : List Output)
    {recvId : RecvId}
    {slot : RecvData}
    (hFind :
      s.recvdatabuf.find?
          (RecvData.isFor quartered.conId
            quartered.seqnr) =
        some (recvId, slot))
    (hOffset : slot.expectedOffset = 1796)
    (hFits : offset.toNat ≤ 1347) :
    ∀ tr ∈
        ([⟨connected 472, .arrival (quarter 1347), outputs,
          s⟩,
        ⟨s, .arrival (quarter offset), outputs', t⟩] :
          ArrivalTrace Unit ErrorCode),
      RoomForGap quartered tr.pre tr.event := by
  intro tr hTr pkt recvId' slot' hEvent _ hFound hBeyond
  simp only [List.mem_cons, List.not_mem_nil, or_false]
    at hTr
  rcases hTr with rfl | rfl
  · rw [absent_quartered] at hFound
    cases hFound
  · rw [hFind] at hFound
    cases hFound
    cases hEvent
    rw [hOffset, piece_quarter] at hBeyond
    change 1796 < offset.toNat at hBeyond
    omega

theorem Sample.ownArrivals_late
    (offset : UInt32)
    (s t : Endpoint Unit)
    (outputs outputs' : List Output) :
    ownArrivals quartered
        ([⟨connected 472, .arrival (quarter 1347), outputs,
          s⟩,
        ⟨s, .arrival (quarter offset), outputs', t⟩] :
          ArrivalTrace Unit ErrorCode) =
      [quarter 1347, quarter offset] := by
  unfold ownArrivals
  have hArrivals :
      arrivals
          ([⟨connected 472, .arrival (quarter 1347),
            outputs, s⟩,
          ⟨s, .arrival (quarter offset), outputs', t⟩] :
            ArrivalTrace Unit ErrorCode) =
        [quarter 1347, quarter offset] := rfl
  have hOwns :
      ∀ o, quartered.owns (quarter o) = true :=
    fun o => rfl
  rw [hArrivals]
  simp [hOwns]

theorem Sample.nodup_late
    (offset : UInt32)
    (hNe : offset ≠ 1347) :
    [quarter 1347, quarter offset].Nodup := by
  rw [List.nodup_cons, List.mem_singleton]
  refine ⟨?_, List.nodup_singleton _⟩
  intro hEq
  have hOffsets :=
    congrArg (fun pkt => pkt.header.offset) hEq
  exact hNe hOffsets.symm

/-
  The last of four packets arrives first, then the second:
  its bytes lie in the middle of the gap, and go on being
  asked for.
-/
theorem fragment_inside_gap_is_asked_again :
    ∃ (trace : ArrivalTrace Unit ErrorCode)
        (t : Endpoint Unit),
      Run (ArrivalStep platform Transport.scripted)
          (connected 472) trace t ∧
        ownArrivals quartered trace =
          [quarter 1347, quarter 449] ∧
        (ownArrivals quartered trace).Nodup ∧
        (∀ tr ∈ trace,
          RoomForGap quartered tr.pre tr.event) ∧
        ¬ TracksGapsThrough quartered [] trace := by
  rcases
    exists_run_late 449 (by simp [quarters]) with
    ⟨s, t, outputs, outputs', recvId, slot, hRun, hFind,
      hGaps, hOffset⟩
  have hNodup := nodup_late 449 (by decide)
  have hRoom :=
    room_of_late 449 t outputs outputs' hFind hOffset
      (by decide)
  have hOwn := ownArrivals_late 449 s t outputs outputs'
  rw [← hOwn] at hNodup
  refine ⟨_, t, hRun, hOwn, hNodup, hRoom, ?_⟩
  intro hTracks
  have hFollows :=
    Endpoint.follows_nil (α := ErrorCode) absent_quartered
      live_quartered
  have hEnds :=
    (hFollows.run_iff tiles_quarters
      (fun _ => isFragment_of_mem_quarters) hRun
      (by rw [List.nil_append, hOwn]; simp [quarters])
      hNodup hRoom).mp hTracks _
      (List.mem_cons_of_mem _ List.mem_cons_self)
  refine
    hEnds (quarter 449) recvId slot rfl rfl hFind ?_
      ⟨0, 1347⟩ (by rw [hGaps]; exact List.mem_cons_self) ?_
  · rw [hOffset, piece_quarter]
    decide
  · rw [piece_quarter]
    decide

/- The last packet first, then the first: the gap shrinks. -/
theorem gaps_exact_at_front :
    ∃ (trace : ArrivalTrace Unit ErrorCode)
        (t : Endpoint Unit),
      Run (ArrivalStep platform Transport.scripted)
          (connected 472) trace t ∧
        ownArrivals quartered trace =
          [quarter 1347, quarter 0] ∧
        TracksGapsThrough quartered [] trace := by
  rcases
    exists_run_late 0 (by simp [quarters]) with
    ⟨s, t, outputs, outputs', recvId, slot, hRun, hFind,
      hGaps, hOffset⟩
  have hNodup := nodup_late 0 (by decide)
  have hRoom :=
    room_of_late 0 t outputs outputs' hFind hOffset
      (by decide)
  have hOwn := ownArrivals_late 0 s t outputs outputs'
  rw [← hOwn] at hNodup
  refine ⟨_, t, hRun, hOwn, ?_⟩
  refine
    (gaps_exact_iff tiles_quarters
      (fun _ => isFragment_of_mem_quarters)
      absent_quartered live_quartered hRun
      (by rw [hOwn]; simp [quarters]) hNodup hRoom).mpr ?_
  intro tr hTr pkt recvId' slot' hEvent _ hFound _ gap hGap
    hInside
  simp only [List.mem_cons, List.not_mem_nil, or_false]
    at hTr
  rcases hTr with rfl | rfl
  · rw [absent_quartered] at hFound
    cases hFound
  · rw [hFind] at hFound
    cases hFound
    cases hEvent
    rw [piece_quarter] at hInside
    exact absurd hInside.1 (Nat.not_lt_zero _)

end ML

end NapaBaselibs
