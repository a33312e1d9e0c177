import NapaBaselibs.ML.Reassembly
import NapaBaselibs.ML.Timers
import NapaBaselibs.ML.Node

/-
  Runs of a receiver: packets arrive at `recv_data_msg`, and
  retransmission timers fire in between.

  Key definitions include:
    * `ArrivalEvent`, `ArrivalStep`
    * `Endpoint.Reassembles`, `Endpoint.Awaits`
    * `Receives`, `takenIn`

  Key theorems include:
    * `Endpoint.Reassembles.run`
    * `Endpoint.Reassembles.exists_run`
    * `Receives.reports`
    * `Receives.whole_iff`
-/

------------------------------------------------------------
-- Arrivals And Timers
------------------------------------------------------------

namespace NapaBaselibs

namespace ML

open Tiling (Piece total Covers upTo)

/- A packet arrives, or a retransmission timer fires. -/
inductive ArrivalEvent (α : Type) where
  | arrival (pkt : Packet)
  | pktRecvTimeout
      (input : SendInput α)
      (arg : PktRecvTimeoutArg)
  | lastPktRecvTimeout
      (input : SendInput α)
      (recvId : RecvId)

/- The packet that arrives, if the event is one. -/
def ArrivalEvent.arrival?
    {α : Type} : ArrivalEvent α → Option Packet
| arrival pkt => some pkt
| _ => none

theorem ArrivalEvent.eq_of_arrival?
    {α : Type}
    {e : ArrivalEvent α}
    {pkt : Packet}
    (hEvent : e.arrival? = some pkt) :
    e = .arrival pkt := by
  cases e with
  | arrival other =>
      cases hEvent
      rfl
  | pktRecvTimeout => cases hEvent
  | lastPktRecvTimeout => cases hEvent

variable {σ α : Type}

/- A step of a receiver. -/
def ArrivalStep
    (p : Platform)
    (T : Transport σ α)
    (s : Endpoint σ)
    (e : ArrivalEvent α)
    (outputs : List Output)
    (s' : Endpoint σ) : Prop :=
  match e with
  | .arrival pkt =>
      recvDataMsg s pkt.header pkt.content =
        .ok (s', outputs)
  | .pktRecvTimeout input arg =>
      NodeStep p T s (.pktRecvTimeout input arg) outputs s'
  | .lastPktRecvTimeout input recvId =>
      NodeStep p T s (.lastPktRecvTimeout input recvId)
        outputs s'

/- The transitions of such a receiver. -/
abbrev ArrivalTrace (σ α : Type) :=
  List (Transition (Endpoint σ) (ArrivalEvent α) Output)

/- The packets that arrive in a trace. -/
def arrivals (trace : ArrivalTrace σ α) : List Packet :=
  trace.filterMap (fun tr => tr.event.arrival?)

/- The messages reported in a trace. -/
def reported (trace : ArrivalTrace σ α) : List Delivery :=
  trace.flatMap (fun tr => deliveries tr.outputs)

theorem arrivals_append
    (first second : ArrivalTrace σ α) :
    arrivals (first ++ second) =
      arrivals first ++ arrivals second :=
  List.filterMap_append

theorem reported_append
    (first second : ArrivalTrace σ α) :
    reported (first ++ second) =
      reported first ++ reported second :=
  List.flatMap_append

/- The packet carries the ids of the message. -/
def Message.owns
    (m : Message)
    (pkt : Packet) : Bool :=
  decide
    (pkt.header.remoteConId.toInt = (m.conId : Nat) ∧
      pkt.header.msgSeqNum = m.seqnr)

theorem Message.IsFragment.owns
    {m : Message}
    {pkt : Packet}
    (hFragment : m.IsFragment pkt) :
    m.owns pkt = true :=
  decide_eq_true
    ⟨hFragment.remoteConId, hFragment.msgSeqNum⟩

/- The number of payload bytes in a list of packets. -/
def payloadBytes (pkts : List Packet) : Nat :=
  (pkts.map (fun pkt => pkt.payload.length)).sum

theorem payloadBytes_eq_total (pkts : List Packet) :
    payloadBytes pkts = total (pkts.map Packet.piece) := by
  unfold payloadBytes total
  rw [List.map_map]
  rfl

------------------------------------------------------------
-- The Invariant Of A Receiver
------------------------------------------------------------

/- The node is taking in the pieces of a message. -/
structure Endpoint.Reassembles
    (s : Endpoint σ)
    (m : Message)
    (received : List Piece) : Prop where
  tracks : s.Tracks m received
  live : ∃ con, s.connectbuf m.conId = some con
  reports : s.reports m = true

/- The node has no slot for a message that it can report. -/
structure Endpoint.Awaits
    (s : Endpoint σ)
    (m : Message) : Prop where
  absent :
    s.recvdatabuf.find? (RecvData.isFor m.conId m.seqnr) =
      none
  live : ∃ con, s.connectbuf m.conId = some con
  reports : s.reports m = true

theorem Endpoint.Awaits.reassembles
    {s : Endpoint σ}
    {m : Message}
    (hAwaits : s.Awaits m) :
    s.Reassembles m [] :=
  ⟨Or.inl ⟨rfl, hAwaits.absent⟩, hAwaits.live,
    hAwaits.reports⟩

/- Sending over some connection does not matter. -/
theorem Endpoint.Reassembles.of_sentOver
    {s s' : Endpoint σ}
    {m : Message}
    {received : List Piece}
    {conId : ConId}
    (hInv : s.Reassembles m received)
    (hOver : SentOver s s' conId) :
    s'.Reassembles m received := by
  have hEntries :=
    (SameEntries.of_sentOver hOver).isSome_eq m.conId
  rcases hInv.live with ⟨con, hCon⟩
  rcases hOver with ⟨_, _, _, _, _, rfl⟩
  refine ⟨hInv.tracks, ?_, hInv.reports⟩
  rw [hCon] at hEntries
  exact Option.isSome_iff_exists.mp hEntries

/- Clearing the event of a timer does not touch a message. -/
theorem RecvData.Holds.of_lastPktTimeout
    {m : Message}
    {received : List Piece}
    {slot : RecvData}
    (hHolds : slot.Holds m received) :
    RecvData.Holds m received
      { slot with lastPktTimeoutEvent := false } :=
  ⟨hHolds.connectionID, hHolds.seqnr, hHolds.msgtype,
    hHolds.txConnectionID, hHolds.monitoringDataHeaderLen,
    hHolds.bufsize, hHolds.arrivedBytes,
    hHolds.recvFragments, hHolds.complete_iff,
    hHolds.byteAt⟩

/- What the search for a slot finds after that. -/
theorem Endpoint.find?_of_lastPktTimeout
    {s : Endpoint σ}
    {m : Message}
    {recvId : RecvId}
    {slot : RecvData}
    (hSlot : s.recvdatabuf recvId = some slot) :
    (s.setSlot recvId
        { slot with
          lastPktTimeoutEvent := false }).recvdatabuf.find?
        (RecvData.isFor m.conId m.seqnr) =
      (s.recvdatabuf.find?
        (RecvData.isFor m.conId m.seqnr)).map
        (fun found =>
          if found.1 = recvId then
            (recvId, { slot with lastPktTimeoutEvent := false })
          else
            found) := by
  have hSame :
      RecvData.isFor m.conId m.seqnr
          { slot with lastPktTimeoutEvent := false } =
        RecvData.isFor m.conId m.seqnr slot := rfl
  rw [setSlot_recvdatabuf]
  exact SlotTable.find?_set_same hSlot hSame

theorem Endpoint.Tracks.of_lastPktTimeout
    {s : Endpoint σ}
    {m : Message}
    {received : List Piece}
    {recvId : RecvId}
    {slot : RecvData}
    (hTracks : s.Tracks m received)
    (hSlot : s.recvdatabuf recvId = some slot) :
    (s.setSlot recvId
      { slot with
        lastPktTimeoutEvent := false }).Tracks m
          received := by
  unfold Tracks
  rw [find?_of_lastPktTimeout hSlot]
  rcases hTracks with
    ⟨hNil, hNone⟩ | ⟨hSome, found, held, hFound, hHolds⟩
  · rw [hNone]
    exact Or.inl ⟨hNil, rfl⟩
  · refine Or.inr ⟨hSome, found, ?_⟩
    rw [hFound, Option.map_some]
    by_cases hEq : found = recvId
    · subst hEq
      rw [(SlotTable.of_find?_eq_some hFound).1,
        Option.some.injEq] at hSlot
      subst hSlot
      exact
        ⟨_, by rw [if_pos rfl], hHolds.of_lastPktTimeout⟩
    · exact ⟨held, by rw [if_neg hEq], hHolds⟩

/- Nor does it matter to a message that is reported. -/
theorem Endpoint.Reassembles.of_lastPktTimeout
    {s : Endpoint σ}
    {m : Message}
    {received : List Piece}
    {recvId : RecvId}
    {slot : RecvData}
    (hInv : s.Reassembles m received)
    (hSlot : s.recvdatabuf recvId = some slot) :
    (s.setSlot recvId
      { slot with
        lastPktTimeoutEvent := false }).Reassembles m
          received :=
  ⟨hInv.tracks.of_lastPktTimeout hSlot, hInv.live,
    hInv.reports⟩

/- A timer keeps what has been received, and is quiet. -/
theorem Endpoint.Reassembles.timer
    {p : Platform}
    {T : Transport σ α}
    {s s' : Endpoint σ}
    {e : ArrivalEvent α}
    {outputs : List Output}
    {m : Message}
    {received : List Piece}
    (hInv : s.Reassembles m received)
    (hTimer : e.arrival? = none)
    (hStep : ArrivalStep p T s e outputs s') :
    s'.Reassembles m received ∧ Quiet outputs := by
  cases e with
  | arrival pkt => cases hTimer
  | pktRecvTimeout input arg =>
      rcases pktRecvTimeoutCb_cases hStep.2 with
        ⟨hQuiet, rfl | ⟨slot, _, hOver⟩⟩
      · exact ⟨hInv, hQuiet⟩
      · exact ⟨hInv.of_sentOver hOver, hQuiet⟩
  | lastPktRecvTimeout input recvId =>
      rcases lastPktRecvTimeoutCb_cases hStep.2 with
        ⟨hQuiet, rfl | ⟨slot, s₁, hSlot, rfl, hRest⟩⟩
      · exact ⟨hInv, hQuiet⟩
      · have hCleared := hInv.of_lastPktTimeout hSlot
        rcases hRest with rfl | hOver
        · exact ⟨hCleared, hQuiet⟩
        · exact ⟨hCleared.of_sentOver hOver, hQuiet⟩

/-
  What a run reports: nothing, or the message as soon as its
  bytes are as many as they should.
-/
inductive RunReports
    (m : Message)
    (received received' : List Piece) :
    List Delivery → Prop where
  | nothing
      (hCount :
        total received = m.length ∨
          total received' ≠ m.length) :
      RunReports m received received' []
  | message
      {slot : RecvData}
      {con : ConnectData}
      (hOpen : total received ≠ m.length)
      (hTotal : total received' = m.length)
      (hHolds : slot.Holds m received') :
      RunReports m received received' [slot.delivery con]

/-
  After a run, the node holds what has been taken in until
  the bytes were as many as the message has.
-/
theorem Endpoint.Reassembles.run
    {p : Platform}
    {T : Transport σ α}
    {s t : Endpoint σ}
    {trace : ArrivalTrace σ α}
    {m : Message}
    {received : List Piece}
    (hRun : Run (ArrivalStep p T) s trace t)
    (hFragments : ∀ pkt ∈ arrivals trace, m.IsFragment pkt)
    (hInv : s.Reassembles m received) :
    t.Reassembles m
        (upTo m.length received
          ((arrivals trace).map Packet.piece)) ∧
      RunReports m received
        (upTo m.length received
          ((arrivals trace).map Packet.piece))
        (reported trace) := by
  induction hRun generalizing received with
  | nil s =>
      refine ⟨hInv, .nothing ?_⟩
      exact Classical.em _
  | @cons s s' t e outputs trace hStep _ ih =>
      cases hEvent : e.arrival? with
      | none =>
          rcases hInv.timer hEvent hStep with ⟨hNext, hQuiet⟩
          have hArrivals :
              arrivals (⟨s, e, outputs, s'⟩ :: trace) =
                arrivals trace :=
            List.filterMap_cons_none hEvent
          have hReported :
              reported (⟨s, e, outputs, s'⟩ :: trace) =
                reported trace := by
            unfold reported
            rw [List.flatMap_cons,
              deliveries_of_quiet hQuiet, List.nil_append]
          rw [hArrivals] at hFragments ⊢
          rw [hReported]
          exact ih hFragments hNext
      | some pkt =>
          have hArrivals :
              arrivals (⟨s, e, outputs, s'⟩ :: trace) =
                pkt :: arrivals trace :=
            List.filterMap_cons_some hEvent
          have hReported :
              reported (⟨s, e, outputs, s'⟩ :: trace) =
                deliveries outputs ++ reported trace :=
            List.flatMap_cons
          rw [hArrivals] at hFragments
          rw [hArrivals, hReported, List.map_cons]
          have hFragment := hFragments pkt List.mem_cons_self
          have hRest :
              ∀ other ∈ arrivals trace,
                m.IsFragment other :=
            fun other hMem =>
              hFragments other (List.mem_cons_of_mem _ hMem)
          have hIs := ArrivalEvent.eq_of_arrival? hEvent
          subst hIs
          rcases hInv.live with ⟨con, hCon⟩
          cases hInv.tracks.recvDataMsg hCon hInv.reports
            hFragment hStep with
          | ignored hDone =>
              rcases ih hRest hInv with ⟨hEnd, hReports⟩
              rw [Tiling.upTo_of_total_eq hDone] at *
              exact ⟨hEnd, hReports⟩
          | @entered recvId slot _ hOpen hHolds _ _ hTracks
              hDeliveries =>
              rw [Tiling.upTo_cons_of_ne hOpen, hDeliveries]
              have hNext :
                  (s.setSlot recvId slot).Reassembles m
                    (received ++ [pkt.piece]) :=
                ⟨hTracks, ⟨con, hCon⟩, hInv.reports⟩
              rcases ih hRest hNext with ⟨hEnd, hReports⟩
              refine ⟨hEnd, ?_⟩
              generalize reported trace = ds at hReports ⊢
              by_cases hFull :
                  total (received ++ [pkt.piece]) = m.length
              · rw [Tiling.upTo_of_total_eq hFull] at *
                rw [if_pos hFull]
                cases hReports with
                | nothing => exact .message hOpen hFull hHolds
                | message hOpen' => exact absurd hFull hOpen'
              · rw [if_neg hFull, List.nil_append]
                cases hReports with
                | nothing hCount =>
                    refine .nothing (Or.inr ?_)
                    rcases hCount with hFull' | hCount
                    · exact absurd hFull' hFull
                    · exact hCount
                | message _ hTotal hHolds' =>
                    exact .message hOpen hTotal hHolds'

------------------------------------------------------------
-- Runs That Exist
------------------------------------------------------------

/-
  With a slot for the message, fragments can arrive in every
  order and as often as the counters allow.
-/
theorem Endpoint.Reassembles.exists_run
    {p : Platform}
    {T : Transport σ α}
    {s : Endpoint σ}
    {m : Message}
    {received : List Piece}
    (hInv : s.Reassembles m received)
    (hFree :
      received = [] →
        ∃ recvId, s.recvdatabuf.firstFree? = some recvId)
    {pkts : List Packet}
    (hFragments : ∀ pkt ∈ pkts, m.IsFragment pkt)
    (hBytes : total received + payloadBytes pkts < 2 ^ 31)
    (hCount : received.length + pkts.length < 2 ^ 31) :
    ∃ trace t,
      Run (ArrivalStep p T) s trace t ∧
        trace.map Transition.event = pkts.map .arrival := by
  induction pkts generalizing s received with
  | nil => exact ⟨[], s, .nil s, rfl⟩
  | cons pkt rest ih =>
      have hFragment := hFragments pkt List.mem_cons_self
      have hRest : ∀ other ∈ rest, m.IsFragment other :=
        fun other hMem =>
          hFragments other (List.mem_cons_of_mem _ hMem)
      simp only [payloadBytes, List.map_cons,
        List.sum_cons, List.length_cons] at hBytes hCount
      rcases hInv.live with ⟨con, hCon⟩
      rcases
        hInv.tracks.exists_recvDataMsg hCon hInv.reports
          hFragment hFree
          (by rw [Packet.piece_length]; omega) (by omega)
        with ⟨s', outputs, hRecv⟩
      have hNext :
          ∃ received',
            s'.Reassembles m received' ∧
              (received' = [] →
                ∃ recvId,
                  s'.recvdatabuf.firstFree? =
                    some recvId) ∧
              total received' ≤
                total received + pkt.payload.length ∧
              received'.length ≤ received.length + 1 := by
        cases hInv.tracks.recvDataMsg hCon hInv.reports
          hFragment hRecv with
        | ignored =>
            exact ⟨received, hInv, hFree, by omega, by omega⟩
        | entered _ _ _ _ hTracks _ =>
            refine
              ⟨received ++ [pkt.piece],
                ⟨hTracks, ⟨con, hCon⟩, hInv.reports⟩,
                by simp, ?_, by simp⟩
            rw [Tiling.total_append]
            simp
      rcases hNext with
        ⟨received', hInv', hFree', hTotal, hLength⟩
      rcases
        ih hInv' hFree' hRest
          (by unfold payloadBytes; omega) (by omega) with
        ⟨trace, t, hRun, hEvents⟩
      have hStep :
          ArrivalStep p T s (.arrival pkt) outputs s' :=
        hRecv
      refine ⟨_, t, .cons hStep hRun, ?_⟩
      rw [List.map_cons, List.map_cons, hEvents]

------------------------------------------------------------
-- A Receiver Of The Fragments Of One Message
------------------------------------------------------------

/- A trace of arrivals only. -/
theorem arrivals_of_map_event
    {trace : ArrivalTrace σ α}
    {pkts : List Packet}
    (hEvents :
      trace.map Transition.event = pkts.map .arrival) :
    arrivals trace = pkts := by
  have hProject :
      arrivals trace =
        (trace.map Transition.event).filterMap
          ArrivalEvent.arrival? := by
    rw [List.filterMap_map]
    rfl
  rw [hProject, hEvents, List.filterMap_map]
  exact List.filterMap_some

/- Packets are told apart by the pieces they carry. -/
theorem perm_of_map_piece
    {fragments pkts : List Packet}
    (hNodup : (fragments.map Packet.piece).Nodup)
    (hSubset : pkts ⊆ fragments)
    (hPerm :
      (pkts.map Packet.piece).Perm
        (fragments.map Packet.piece)) :
    pkts.Perm fragments := by
  have hInjective :
      ∀ first ∈ fragments, ∀ second ∈ fragments,
        first.piece = second.piece → first = second :=
    fun first hFirst second hSecond hEq =>
      List.inj_on_of_nodup_map hNodup hFirst hSecond hEq
  have hPkts : pkts.Nodup :=
    (hPerm.nodup_iff.mpr hNodup).of_map _
  refine
    (List.perm_ext_iff_of_nodup hPkts
      (hNodup.of_map _)).mpr ?_
  intro pkt
  refine ⟨fun hMem => hSubset hMem, ?_⟩
  intro hMem
  rcases List.mem_map.mp
      (hPerm.symm.subset
        (List.mem_map_of_mem (f := Packet.piece) hMem)) with
    ⟨other, hOther, hEq⟩
  rw [← hInjective other (hSubset hOther) pkt hMem hEq]
  exact hOther

/- The receiver and the fragments of one message. -/
structure Receives
    (s : Endpoint σ)
    (m : Message)
    (fragments : List Packet) : Prop where
  tiles :
    Tiling.Tiles 0 (fragments.map Packet.piece) m.length
  isFragment : ∀ pkt ∈ fragments, m.IsFragment pkt
  starts : s.Reassembles m []

section Runs

variable {p : Platform}
variable {T : Transport σ α}
variable {fragments : List Packet}
variable {s t : Endpoint σ}
variable {trace : ArrivalTrace σ α}
variable {m : Message}

/- What has been taken in after a run of the receiver. -/
def takenIn
    (m : Message)
    (trace : ArrivalTrace σ α) : List Piece :=
  upTo m.length [] ((arrivals trace).map Packet.piece)

/- What a run that starts with no slot reports. -/
theorem Receives.reports
    (hReceives : Receives s m fragments)
    (hRun : Run (ArrivalStep p T) s trace t)
    (hSubset : arrivals trace ⊆ fragments) :
    (reported trace = [] ∧
        total (takenIn m trace) ≠ m.length) ∨
      ∃ slot con,
        reported trace = [RecvData.delivery slot con] ∧
          total (takenIn m trace) = m.length ∧
          slot.Holds m (takenIn m trace) := by
  have hPos := m.bytes_pos
  have hReports :=
    (hReceives.starts.run hRun
      (fun pkt hMem =>
        hReceives.isFragment pkt (hSubset hMem))).2
  change RunReports m [] (takenIn m trace) (reported trace)
    at hReports
  generalize reported trace = ds at hReports ⊢
  cases hReports with
  | nothing hCount =>
      refine Or.inl ⟨rfl, ?_⟩
      rcases hCount with hZero | hCount
      · rw [Tiling.total_nil] at hZero
        unfold Message.length at hZero
        omega
      · exact hCount
  | message _ hTotal hHolds =>
      exact Or.inr ⟨_, _, rfl, hTotal, hHolds⟩


/- A message that is complete and whole came in order. -/
theorem Receives.whole_iff
    (hReceives : Receives s m fragments)
    (hSubset : arrivals trace ⊆ fragments) :
    (total (takenIn m trace) = m.length ∧
        ∀ k < m.length, Covers (takenIn m trace) k) ↔
      ∃ k, ((arrivals trace).take k).Perm fragments := by
  unfold takenIn
  rw [hReceives.tiles.upTo_covers_iff
    (List.map_subset Packet.piece hSubset)]
  constructor
  · rintro ⟨k, hPerm⟩
    rw [← List.map_take] at hPerm
    refine
      ⟨k, perm_of_map_piece hReceives.tiles.nodup ?_ hPerm⟩
    exact
      fun pkt hMem =>
        hSubset (List.mem_of_mem_take hMem)
  · rintro ⟨k, hPerm⟩
    refine ⟨k, ?_⟩
    rw [← List.map_take]
    exact hPerm.map Packet.piece

/- What was complete stays as it is. -/
theorem takenIn_append_of_total_eq
    {earlier : ArrivalTrace σ α}
    (hTotal : total (takenIn m earlier) = m.length)
    (later : ArrivalTrace σ α) :
    takenIn m (earlier ++ later) = takenIn m earlier := by
  unfold takenIn at *
  rw [arrivals_append, List.map_append, Tiling.upTo_append,
    Tiling.upTo_of_total_eq hTotal]

/- While a message is not complete, all of it is taken in. -/
theorem takenIn_snoc
    {before : ArrivalTrace σ α}
    (hOpen : total (takenIn m before) ≠ m.length)
    (tr : Transition (Endpoint σ) (ArrivalEvent α) Output) :
    takenIn m (before ++ [tr]) =
      (arrivals (before ++ [tr])).map Packet.piece := by
  have hAll :
      upTo m.length []
          ((arrivals before).map Packet.piece) =
        (arrivals before).map Packet.piece :=
    Tiling.upTo_of_total_ne hOpen
  unfold takenIn at hOpen ⊢
  rw [hAll] at hOpen
  rw [arrivals_append, List.map_append, Tiling.upTo_append,
    hAll]
  cases hEvent : tr.event.arrival? with
  | none =>
      have hNone : arrivals [tr] = [] :=
        List.filterMap_cons_none hEvent
      rw [hNone, List.map_nil, List.append_nil]
      rfl
  | some pkt =>
      have hSome : arrivals [tr] = [pkt] :=
        List.filterMap_cons_some hEvent
      rw [hSome, List.map_singleton,
        Tiling.upTo_cons_of_ne hOpen]
      rfl

/-
  The step that reports the message takes in the last of the
  fragments that arrived so far.
-/
theorem Receives.takenIn_of_reports
    {before : ArrivalTrace σ α}
    {tr : Transition (Endpoint σ) (ArrivalEvent α) Output}
    {delivery : Delivery}
    (hReceives : Receives s m fragments)
    (hRun : Run (ArrivalStep p T) s (before ++ [tr]) t)
    (hSubset : arrivals (before ++ [tr]) ⊆ fragments)
    (hMem : delivery ∈ deliveries tr.outputs) :
    takenIn m (before ++ [tr]) =
        (arrivals (before ++ [tr])).map Packet.piece ∧
      total (takenIn m (before ++ [tr])) = m.length ∧
      ∃ slot con,
        delivery = RecvData.delivery slot con ∧
          slot.Holds m (takenIn m (before ++ [tr])) := by
  have hStep :
      reported (before ++ [tr]) =
        reported before ++ deliveries tr.outputs := by
    rw [reported_append]
    unfold reported
    rw [List.flatMap_singleton]
  have hIn : delivery ∈ reported (before ++ [tr]) := by
    rw [hStep]
    exact List.mem_append_right _ hMem
  rcases hReceives.reports hRun hSubset with
    ⟨hNothing, _⟩ | ⟨slot, con, hOne, hTotal, hHolds⟩
  · rw [hNothing] at hIn
    cases hIn
  · refine ⟨?_, hTotal, slot, con, ?_, hHolds⟩
    · have hBefore : reported before = [] := by
        rw [hOne] at hStep
        have hLength := congrArg List.length hStep
        rw [List.length_append] at hLength
        have hPos := List.length_pos_of_mem hMem
        rw [← List.length_eq_zero_iff]
        simp only [List.length_cons, List.length_nil]
          at hLength
        omega
      rcases hRun.split with ⟨u, hEarlier, _⟩
      have hOpen :
          total (takenIn m before) ≠ m.length := by
        have hBeforeSubset : arrivals before ⊆ fragments := by
          rw [arrivals_append] at hSubset
          exact (List.append_subset.mp hSubset).1
        rcases hReceives.reports hEarlier hBeforeSubset with
          ⟨_, hOpen⟩ | ⟨slot', con', hOther, _⟩
        · exact hOpen
        · rw [hBefore] at hOther
          cases hOther
      exact takenIn_snoc hOpen tr
    · rw [hOne, List.mem_singleton] at hIn
      exact hIn

end Runs

end ML

end NapaBaselibs
