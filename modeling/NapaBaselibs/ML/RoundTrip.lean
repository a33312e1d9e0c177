import Mathlib.Data.List.Pairwise
import NapaBaselibs.Lib.Selection
import NapaBaselibs.ML.HoleFree

/-
  From `send_msg` to the callback of the receiver.

  Messages that are told apart by connection and sequence
  number are split, their datagrams mixed in any order, and
  received.  The receiver serves all of them at once: what it
  holds of each is what has arrived of it.

  Key definitions include:
    * `Sending`
    * `Message.share`
    * `Endpoint.Serves`
    * `Report`

  Key theorems include:
    * `Sending.Valid.sends`
    * `Endpoint.Serves.recvDataMsg`
    * `Endpoint.Serves.recvAll`
    * `round_trip`
-/

------------------------------------------------------------
-- Calls Of send_msg
------------------------------------------------------------

namespace NapaBaselibs

namespace ML

open Tiling (Piece total Covers)

section Size

variable {σ α : Type}

/- No datagram of a pass is larger than the packet size. -/
theorem sendPass_length_le
    {T : Transport σ α}
    {job : SendJob}
    {header : MonHeader}
    {pmtusize : Int}
    {attempts : List (Attempt α)}
    {offset : Nat}
    {monDataHdr : List UInt8}
    {net net' : σ}
    {result : ErrorCode}
    {outputs : List Output}
    (hRoom : (⟨header, attempts⟩ : Pass α).HasRoom pmtusize)
    (hHigh : pmtusize < 2 ^ 31)
    (hData : monDataHdr.length ≤ header.length)
    (hPass :
      sendPass T job pmtusize header.length attempts offset
          monDataHdr net = .ok (result, net', outputs)) :
    ∀ pkt ∈ accepted outputs,
      (pkt.datagram.length : Int) ≤ pmtusize := by
  induction attempts generalizing offset monDataHdr net net'
      result outputs with
  | nil => simp [sendPass] at hPass
  | cons attempt rest ih =>
      have hHead := hRoom attempt List.mem_cons_self
      have hTail : (⟨header, rest⟩ : Pass α).HasRoom
          pmtusize :=
        fun other hMem =>
          hRoom other (List.mem_cons_of_mem _ hMem)
      simp only at hHead
      have hExact :
          toCInt
              (pmtusize - monDataHdr.length -
                attempt.monPktHdr.length - msgHeaderSize) =
            pmtusize - monDataHdr.length -
              attempt.monPktHdr.length - msgHeaderSize :=
        toCInt_eq_self (by omega) (by omega)
      simp only [sendPass] at hPass
      split at hPass
      · cases hPass
      · rename_i hNotNegative
        generalize hLen :
          job.pktLen pmtusize monDataHdr.length
            attempt.monPktHdr.length offset = len at *
        have hSize :
            ((job.packet header.length monDataHdr attempt
              offset len.toNat).datagram.length : Int) ≤
              pmtusize := by
          unfold SendJob.pktLen at hLen
          rw [hExact] at hLen
          simp only [Packet.datagram, SendJob.packet,
            List.length_append, MsgHeader.length_encode,
            length_readBlock]
          unfold MonHeader.length at hLen
          omega
        generalize
          job.packet header.length monDataHdr attempt offset
            len.toNat = pkt at *
        split at hPass
        · cases hPass
        · split at hPass
          · split at hPass
            · cases hPass
            · rename_i hRest
              cases hPass
              intro other hMem
              rw [accepted_cons_ok] at hMem
              rcases List.mem_cons.mp hMem with rfl | hLater
              · exact hSize
              · exact
                  ih hTail (Nat.zero_le _) hRest other hLater
          · cases hPass
            intro other hMem
            rw [accepted_cons_ok] at hMem
            rcases List.mem_cons.mp hMem with rfl | hLater
            · exact hSize
            · cases hLater
        · rename_i hRefused _
          cases hPass
          change result ≠ .ok at hRefused
          rw [accepted_singleton_of_ne _ hRefused]
          simp

end Size

/- One call of `send_msg` with its outer inputs. -/
structure Sending (σ α : Type) where
  sender : Endpoint σ
  conId : ConId
  con : ConnectData
  message : Message
  attempts : List (Attempt α)

namespace Sending

variable {σ α : Type}

/- A single pass, with the header of the message. -/
def input (sending : Sending σ α) : SendInput α :=
  [⟨sending.message.monDataHdr, sending.attempts⟩]

/-
  The connection is live and leads to the receiver's entry,
  its packet size leaves room behind the headers, and the
  monitoring module has a header for every packet.
-/
structure Valid (sending : Sending σ α) : Prop where
  live :
    sending.sender.connectbuf sending.conId =
      some sending.con
  addresses :
    sending.con.Addresses sending.conId sending.message
  hasRoom :
    ∀ pass ∈ sending.input,
      pass.HasRoom sending.con.pmtusize
  pmtusize_le : sending.con.pmtusize ≤ pmtuMax
  enough :
    sending.message.length ≤ sending.attempts.length

/- The call. -/
def result
    (T : Transport σ α)
    (sending : Sending σ α) : StepResult σ :=
  sendMsg T sending.input sending.sender sending.conId
    sending.message.msgtype sending.message.bytes
    sending.message.length false

/- The packets it emits. -/
def packets
    (T : Transport σ α)
    (sending : Sending σ α) : List Packet :=
  match sending.result T with
  | .error _ => []
  | .ok (_, outputs) => accepted outputs

/- It returns, and all its packets are accepted and fit. -/
structure Sends
    (T : Transport σ α)
    (sending : Sending σ α) : Prop where
  returns :
    ∃ s' outputs,
      sending.result T = .ok (s', outputs) ∧
        ∀ answer ∈ answers outputs, answer = .ok
  fits :
    ∀ pkt ∈ sending.packets T,
      pkt.datagram.length ≤ msgbufSize

/- With every packet accepted, the call does all that. -/
theorem Valid.sends
    {T : Transport σ α}
    {sending : Sending σ α}
    (hOk : T.AlwaysOk)
    (hValid : sending.Valid) :
    sending.Sends T ∧
      SentAs T sending.message (sending.packets T) := by
  have hHigh : sending.con.pmtusize < 2 ^ 31 := by
    have hLe := hValid.pmtusize_le
    unfold pmtuMax at hLe
    omega
  have hRoom :=
    hValid.hasRoom
      ⟨sending.message.monDataHdr, sending.attempts⟩
      List.mem_cons_self
  have hCarries :=
    hValid.addresses.carries sending.message.monDataHdr
  rcases
    sendPass_returns sending.sender.net hOk hCarries hRoom
      hHigh sending.message.bytes_pos
      (by
        rw [Nat.zero_add]
        exact hValid.enough) with
    ⟨net', outputs, hPass⟩
  rcases
    sendPass_fragments hCarries hRoom hHigh
      sending.message.bytes_pos hPass with
    ⟨_, _, _, _, _, hAnswers⟩
  rw [if_pos rfl, List.append_nil] at hAnswers
  have hAll : ∀ answer ∈ answers outputs, answer = .ok := by
    intro answer hMem
    rw [hAnswers] at hMem
    exact List.eq_of_mem_replicate hMem
  rw [if_pos rfl] at hPass
  have hSend :
      sending.result T =
        .ok
          (sending.sender.setConNet sending.conId
            { sending.con with
              seqnr := sending.con.seqnr + 1 } net',
            outputs) := by
    unfold result sendMsg
    simp only [hValid.live, input, sendPasses, hPass]
  have hPackets : sending.packets T = accepted outputs := by
    unfold packets
    rw [hSend]
  have hLength :=
    sendPass_length_le hRoom hHigh (Nat.le_refl _) hPass
  rw [hPackets]
  refine ⟨⟨⟨_, _, hSend, hAll⟩, ?_⟩, ?_⟩
  · intro pkt hMem
    rw [hPackets] at hMem
    have hFits := hLength pkt hMem
    have hLe := hValid.pmtusize_le
    unfold pmtuMax at hLe
    unfold msgbufSize
    omega
  · refine
      .intro hValid.live hValid.addresses ?_ hValid.hasRoom
        hHigh hSend hAll
    intro pass hHead
    cases hHead
    rfl

end Sending

------------------------------------------------------------
-- The Share Of A Message
------------------------------------------------------------

/- The pieces of the message among the packets. -/
def Message.share
    (m : Message)
    (pkts : List Packet) : List Piece :=
  (pkts.filter m.owns).map Packet.piece

/- A packet is owned by one of distinct messages only. -/
theorem Message.IsFragment.not_owns
    {m m' : Message}
    {pkt : Packet}
    (hFragment : m.IsFragment pkt)
    (hDistinct : m'.Distinct m) :
    m'.owns pkt = false := by
  apply decide_eq_false
  rintro ⟨hConId, hSeqnr⟩
  rw [hFragment.remoteConId, Int.natCast_inj] at hConId
  rw [hFragment.msgSeqNum] at hSeqnr
  rcases hDistinct with hNe | hNe
  · exact hNe (Fin.ext hConId).symm
  · exact hNe hSeqnr.symm

theorem Message.share_append
    (m : Message)
    (first second : List Packet) :
    m.share (first ++ second) =
      m.share first ++ m.share second := by
  unfold share
  rw [List.filter_append, List.map_append]

theorem Message.share_singleton
    {m : Message}
    {pkt : Packet}
    (hOwns : m.owns pkt = true) :
    m.share [pkt] = [pkt.piece] := by
  simp [share, hOwns]

/- Packets of other messages are no share of this one. -/
theorem Message.share_eq_nil
    {m : Message}
    {pkts : List Packet}
    (hOther : ∀ pkt ∈ pkts, m.owns pkt = false) :
    m.share pkts = [] := by
  unfold share
  rw [List.map_eq_nil_iff, List.filter_eq_nil_iff]
  intro pkt hMem
  simp [hOther pkt hMem]

/- Every packet of a message is its share. -/
theorem Message.share_eq_map
    {m : Message}
    {pkts : List Packet}
    (hFragments : ∀ pkt ∈ pkts, m.IsFragment pkt) :
    m.share pkts = pkts.map Packet.piece := by
  unfold share
  rw [List.filter_eq_self.mpr]
  intro pkt hMem
  exact (hFragments pkt hMem).owns

theorem Message.share_perm
    (m : Message)
    {first second : List Packet}
    (hPerm : first.Perm second) :
    (m.share first).Perm (m.share second) :=
  (hPerm.filter m.owns).map Packet.piece

instance : Std.Symm Message.Distinct where
  symm := by
    rintro m m' (hNe | hNe)
    · exact Or.inl hNe.symm
    · exact Or.inr hNe.symm

instance : Std.Irrefl Message.Distinct where
  irrefl := by
    rintro m (hNe | hNe)
    · exact hNe rfl
    · exact hNe rfl

------------------------------------------------------------
-- A Receiver Of Several Messages
------------------------------------------------------------

/- What the application is told about a message. -/
structure Report where
  buffer : List UInt8
  msgtype : UInt8
  connectionID : ConId
  nrMissingBytes : Int
deriving DecidableEq

def Delivery.report (delivery : Delivery) : Report where
  buffer := delivery.buffer
  msgtype := delivery.msgtype
  connectionID := delivery.connectionID
  nrMissingBytes := delivery.nrMissingBytes

/- What it should be told: all of it, and nothing missing. -/
def Message.report (m : Message) : Report where
  buffer := m.bytes
  msgtype := m.msgtype
  connectionID := m.conId
  nrMissingBytes := 0

/- The messages all of whose bytes have arrived. -/
def finished
    (ms : List Message)
    (arrived : List Packet) : List Message :=
  ms.filter (fun m =>
    decide (total (m.share arrived) = m.length))

/- The messages of which nothing has arrived. -/
def waiting
    (ms : List Message)
    (arrived : List Packet) : List Message :=
  ms.filter (fun m => (m.share arrived).isEmpty)

variable {σ α : Type}

/-
  The node serves several messages at once: it holds what
  has arrived of each, and has a slot left for each that has
  not started.
-/
structure Endpoint.Serves
    (s : Endpoint σ)
    (ms : List Message)
    (arrived : List Packet) : Prop where
  distinct : ms.Pairwise Message.Distinct
  tracks : ∀ m ∈ ms, s.Tracks m (m.share arrived)
  live : ∀ m ∈ ms, ∃ con, s.connectbuf m.conId = some con
  reports : ∀ m ∈ ms, s.reports m = true
  room :
    s.recvdatabuf.occupied.card +
        (waiting ms arrived).length ≤
      recvdatabufSize

section Arrival

variable {s : Endpoint σ}
variable {ms : List Message}
variable {m : Message}
variable {arrived : List Packet}
variable {pkt : Packet}

/- The share of the packet's own message grows. -/
theorem Message.IsFragment.share_snoc
    (hFragment : m.IsFragment pkt)
    (arrived : List Packet) :
    m.share (arrived ++ [pkt]) =
      m.share arrived ++ [pkt.piece] := by
  rw [Message.share_append,
    Message.share_singleton hFragment.owns]

/- The share of every other message stays as it is. -/
theorem Message.IsFragment.share_snoc_other
    {m' : Message}
    (hFragment : m.IsFragment pkt)
    (hDistinct : m'.Distinct m)
    (arrived : List Packet) :
    m'.share (arrived ++ [pkt]) = m'.share arrived := by
  have hNone : m'.share [pkt] = [] := by
    apply Message.share_eq_nil
    intro other hMem
    rw [List.mem_singleton] at hMem
    rw [hMem]
    exact hFragment.not_owns hDistinct
  rw [Message.share_append, hNone, List.append_nil]

/- A message that starts is waiting no more. -/
theorem waiting_perm
    (hDistinct : ms.Pairwise Message.Distinct)
    (hMem : m ∈ ms)
    (hFragment : m.IsFragment pkt)
    (hStart : m.share arrived = []) :
    (waiting ms arrived).Perm
      (m :: waiting ms (arrived ++ [pkt])) := by
  apply Selection.filter_perm_cons hDistinct.nodup hMem
  · rw [hFragment.share_snoc]
    simp
  · rw [hStart]
    rfl
  · intro m' hMem' hNe
    rw [hFragment.share_snoc_other
      (hDistinct.forall hMem' hMem hNe)]

/- Otherwise as many are waiting as before. -/
theorem waiting_eq
    (hDistinct : ms.Pairwise Message.Distinct)
    (hMem : m ∈ ms)
    (hFragment : m.IsFragment pkt)
    (hStarted : m.share arrived ≠ []) :
    waiting ms (arrived ++ [pkt]) = waiting ms arrived := by
  apply List.filter_congr
  intro m' hMem'
  by_cases hEq : m' = m
  · rw [hEq, hFragment.share_snoc,
      List.isEmpty_eq_false_iff.mpr hStarted,
      List.isEmpty_eq_false_iff.mpr (by simp)]
  · rw [hFragment.share_snoc_other
      (hDistinct.forall hMem' hMem hEq)]

/- A message whose last byte arrives is finished. -/
theorem finished_perm
    (hDistinct : ms.Pairwise Message.Distinct)
    (hMem : m ∈ ms)
    (hFragment : m.IsFragment pkt)
    (hOpen : total (m.share arrived) ≠ m.length)
    (hFull :
      total (m.share (arrived ++ [pkt])) = m.length) :
    (finished ms (arrived ++ [pkt])).Perm
      (m :: finished ms arrived) := by
  apply Selection.filter_perm_cons hDistinct.nodup hMem
  · exact decide_eq_false hOpen
  · exact decide_eq_true hFull
  · intro m' hMem' hNe
    rw [hFragment.share_snoc_other
      (hDistinct.forall hMem' hMem hNe)]

/- Otherwise the same ones are finished. -/
theorem finished_eq
    (hDistinct : ms.Pairwise Message.Distinct)
    (hMem : m ∈ ms)
    (hFragment : m.IsFragment pkt)
    (hOpen : total (m.share arrived) ≠ m.length)
    (hOpen' :
      total (m.share (arrived ++ [pkt])) ≠ m.length) :
    finished ms (arrived ++ [pkt]) = finished ms arrived := by
  apply List.filter_congr
  intro m' hMem'
  by_cases hEq : m' = m
  · rw [hEq, decide_eq_false hOpen, decide_eq_false hOpen']
  · rw [hFragment.share_snoc_other
      (hDistinct.forall hMem' hMem hEq)]

/- Entering a fragment keeps a slot for every message. -/
theorem Endpoint.Serves.room_setSlot
    {recvId : RecvId}
    {slot : RecvData}
    (hServes : s.Serves ms arrived)
    (hMem : m ∈ ms)
    (hFragment : m.IsFragment pkt)
    (hFresh :
      m.share arrived = [] ↔
        s.recvdatabuf recvId = none) :
    (s.setSlot recvId slot).recvdatabuf.occupied.card +
        (waiting ms (arrived ++ [pkt])).length ≤
      recvdatabufSize := by
  have hRoom := hServes.room
  rw [setSlot_recvdatabuf]
  by_cases hStart : m.share arrived = []
  · have hLength :=
      (waiting_perm hServes.distinct hMem hFragment
        hStart).length_eq
    rw [List.length_cons] at hLength
    rw [SlotTable.card_occupied_set_of_free slot
      (hFresh.mp hStart)]
    omega
  · rcases Option.ne_none_iff_exists'.mp
        (hFresh.not.mp hStart) with
      ⟨old, hOld⟩
    rw [waiting_eq hServes.distinct hMem hFragment hStart,
      SlotTable.occupied_set_of_some slot hOld]
    exact hRoom

/- There is a free slot for a message that starts. -/
theorem Endpoint.Serves.exists_free
    (hServes : s.Serves ms arrived)
    (hMem : m ∈ ms)
    (hStart : m.share arrived = []) :
    ∃ recvId, s.recvdatabuf.firstFree? = some recvId := by
  apply SlotTable.exists_firstFree?_of_occupied_lt
  have hRoom := hServes.room
  have hIn : m ∈ waiting ms arrived :=
    List.mem_filter.mpr ⟨hMem, by rw [hStart]; rfl⟩
  have hPos := List.length_pos_of_mem hIn
  unfold recvdatabufSize at *
  omega

/-
  One more fragment of a message that is not complete: it is
  entered, the message is reported when that was the last,
  and the node goes on serving all of them.
-/
theorem Endpoint.Serves.recvDataMsg
    (hServes : s.Serves ms arrived)
    (hMem : m ∈ ms)
    (hFragment : m.IsFragment pkt)
    (hFits : total (m.share (arrived ++ [pkt])) ≤ m.length)
    (hCount :
      (m.share (arrived ++ [pkt])).length ≤ m.length) :
    ∃ (s' : Endpoint σ) (outputs : List Output)
        (slot : RecvData) (con : ConnectData),
      ML.recvDataMsg s pkt.header pkt.content =
          .ok (s', outputs) ∧
        s'.Serves ms (arrived ++ [pkt]) ∧
        slot.Holds m (m.share (arrived ++ [pkt])) ∧
        deliveries outputs =
          if total (m.share (arrived ++ [pkt])) = m.length
          then [slot.delivery con] else [] := by
  have hMax := m.bytes_le
  unfold maxMsgLength at hMax
  unfold Message.length at hFits hCount
  have hPos := hFragment.pos
  rw [hFragment.share_snoc] at hFits hCount
  rw [Tiling.total_append, Tiling.total_cons,
    Tiling.total_nil] at hFits
  rw [List.length_append, List.length_singleton] at hCount
  have hTracks := hServes.tracks m hMem
  have hReports := hServes.reports m hMem
  rcases hServes.live m hMem with ⟨con, hCon⟩
  rcases
    hTracks.exists_recvDataMsg hCon hReports hFragment
      (hServes.exists_free hMem) (by omega) (by omega) with
    ⟨s', outputs, hRecv⟩
  cases hTracks.recvDataMsg hCon hReports hFragment hRecv with
  | ignored hDone =>
      unfold Message.length at hDone
      omega
  | @entered recvId slot _ hOpen hHolds hFresh hPlace hNew
      hDeliveries =>
      rw [← hFragment.share_snoc] at hHolds hNew hDeliveries
      refine
        ⟨_, outputs, slot, con, hRecv, ?_, hHolds,
          hDeliveries⟩
      refine
        ⟨hServes.distinct, ?_, hServes.live,
          hServes.reports,
          hServes.room_setSlot hMem hFragment hFresh⟩
      intro m' hMem'
      by_cases hEq : m' = m
      · rw [hEq]
        exact hNew
      · have hDistinct :=
          hServes.distinct.forall hMem' hMem hEq
        rw [hFragment.share_snoc_other hDistinct]
        exact
          (hServes.tracks m' hMem').of_setSlot_other
            hDistinct hHolds.isFor hPlace

end Arrival

------------------------------------------------------------
-- The Datagrams Of Fragments
------------------------------------------------------------

/- The datagram of a fragment is classified as data. -/
theorem Message.IsFragment.classify
    {m : Message}
    {pkt : Packet}
    {r : Reception}
    (hFragment : m.IsFragment pkt)
    (hDatagram : r.datagram = pkt.datagram) :
    r.classify = .data := by
  have hMax := m.bytes_le
  have hPos := m.bytes_pos
  have hFits := hFragment.fits
  have hType := m.msgtype_lt
  rw [Packet.piece_stop] at hFits
  unfold Message.length at hFits
  have hLength := hFragment.msgLength
  unfold Message.length at hLength
  have hNotCon : pkt.header.msgType ≠ mlConMsg := by
    intro hEq
    rw [← hFragment.msgType, hEq] at hType
    revert hType
    decide
  have hNotNack : pkt.header.msgType ≠ mlNackMsg := by
    intro hEq
    rw [← hFragment.msgType, hEq] at hType
    revert hType
    decide
  rw [Reception.classify_datagram hDatagram
    hFragment.lenMonPacketHdr (by omega) (by omega)
    (by omega), if_neg hNotCon, if_neg hNotNack,
    if_pos (by rw [hFragment.msgType]; exact hType)]

/- It is passed to the reassembly. -/
theorem Message.IsFragment.recvPkg
    {p : Platform}
    {T : Transport σ α}
    {input : SendInput α}
    {s : Endpoint σ}
    {con : ConnectData}
    {m : Message}
    {pkt : Packet}
    {r : Reception}
    (hFragment : m.IsFragment pkt)
    (hDatagram : r.datagram = pkt.datagram)
    (hCon : s.connectbuf m.conId = some con) :
    ML.recvPkg p T input s r =
      recvDataMsg s pkt.header pkt.content := by
  have hHeader := Reception.msgH_datagram hDatagram
  have hPasses : s.hookRefuses r.msgH = false := by
    unfold Endpoint.hookRefuses
    rw [hHeader, hFragment.remoteConId,
      SlotTable.index?_natCast]
    simp [hCon]
  rw [recvPkg_data (hFragment.classify hDatagram) hPasses,
    hHeader,
    Reception.drop_bufptr_datagram hDatagram
      hFragment.lenMonPacketHdr]
  rfl

------------------------------------------------------------
-- All Datagrams, In Any Order
------------------------------------------------------------

/- The packets are the messages, fragment by fragment. -/
structure MadeOf
    (ms : List Message)
    (pkts : List Packet) : Prop where
  fragments : ∀ pkt ∈ pkts, ∃ m ∈ ms, m.IsFragment pkt
  total_eq : ∀ m ∈ ms, total (m.share pkts) = m.length
  covers :
    ∀ m ∈ ms, ∀ k < m.length, Covers (m.share pkts) k

/- What has arrived so far is not more than there is. -/
theorem MadeOf.bounds
    {ms : List Message}
    {m : Message}
    {arrived rest : List Packet}
    (hMade : MadeOf ms (arrived ++ rest))
    (hMem : m ∈ ms) :
    total (m.share arrived) ≤ m.length ∧
      (m.share arrived).length ≤ m.length ∧
      (total (m.share arrived) = m.length →
        m.share rest = []) := by
  have hTotal := hMade.total_eq m hMem
  rw [Message.share_append, Tiling.total_append] at hTotal
  have hPos (pkts : List Packet)
      (hSubset : pkts ⊆ arrived ++ rest) :
      (m.share pkts).length ≤ total (m.share pkts) := by
    apply Tiling.length_le_total
    intro piece hPiece
    rcases List.mem_map.mp hPiece with ⟨pkt, hPkt, rfl⟩
    rcases
      hMade.fragments pkt
        (hSubset (List.mem_filter.mp hPkt).1) with
      ⟨_, _, hFragment⟩
    exact hFragment.pos
  have hArrived := hPos arrived (by simp)
  have hRest := hPos rest (by simp)
  refine ⟨by omega, by omega, ?_⟩
  intro hFull
  exact List.length_eq_zero_iff.mp (by omega)

/- A complete message is reported as it was sent. -/
theorem RecvData.Holds.report_eq
    {m : Message}
    {received : List Piece}
    {slot : RecvData}
    (hHolds : slot.Holds m received)
    (hTotal : total received = m.length)
    (hCovers : ∀ k < m.length, Covers received k)
    (con : ConnectData) :
    (slot.delivery con).report = m.report := by
  rcases hHolds.delivery_eq con with
    ⟨hBuffer, hType, hCon, hMissing⟩
  unfold Delivery.report Message.report
  rw [hBuffer, hType, hCon, hMissing, hTotal,
    Message.assembled_of_covers hCovers, Int.sub_self]

/-
  By induction on what is still to arrive: the messages that
  were finished, with those reported from now on, are the
  messages finished in the end.
-/
theorem Endpoint.Serves.recvAll
    {p : Platform}
    {T : Transport σ α}
    {s : Endpoint σ}
    {ms : List Message}
    {arrived pkts : List Packet}
    {rs : List (SendInput α × Reception)}
    (hServes : s.Serves ms arrived)
    (hMade : MadeOf ms (arrived ++ pkts))
    (hDatagrams :
      rs.map (fun r => r.2.datagram) =
        pkts.map Packet.datagram) :
    ∃ t outputs,
      ML.recvAll p T s rs = .ok (t, outputs) ∧
        ((finished ms arrived).map Message.report ++
            (deliveries outputs).map Delivery.report).Perm
          ((finished ms (arrived ++ pkts)).map
            Message.report) := by
  induction pkts generalizing s arrived rs with
  | nil =>
      rw [List.map_nil, List.map_eq_nil_iff] at hDatagrams
      subst hDatagrams
      refine ⟨s, [], rfl, ?_⟩
      rw [List.append_nil, deliveries_nil, List.map_nil,
        List.append_nil]
  | cons pkt rest ih =>
      cases rs with
      | nil => cases hDatagrams
      | cons head rs =>
          rcases head with ⟨input, r⟩
          rw [List.map_cons, List.map_cons] at hDatagrams
          injection hDatagrams with hDatagram hRest
          rcases hMade.fragments pkt (by simp) with
            ⟨m, hMem, hFragment⟩
          have hSplit :
              arrived ++ pkt :: rest =
                (arrived ++ [pkt]) ++ rest := by
            simp
          rw [hSplit] at hMade ⊢
          rcases hMade.bounds hMem with
            ⟨hFits, hCount, hLast⟩
          rcases
            hServes.recvDataMsg hMem hFragment hFits hCount
            with
            ⟨s', outputs, slot, con, hRecv, hNext, hHolds,
              hDeliveries⟩
          rcases ih hNext hMade hRest with
            ⟨t, later, hLater, hPerm⟩
          rcases hServes.live m hMem with ⟨live, hCon⟩
          refine ⟨t, outputs ++ later, ?_, ?_⟩
          · unfold ML.recvAll
            rw [hFragment.recvPkg hDatagram hCon, hRecv]
            simp only [hLater]
          have hPos := hFragment.pos
          have hOpen : total (m.share arrived) ≠ m.length := by
            rw [hFragment.share_snoc, Tiling.total_append,
              Tiling.total_cons] at hFits
            omega
          refine List.Perm.trans ?_ hPerm
          rw [deliveries_append, List.map_append,
            ← List.append_assoc]
          apply List.Perm.append_right
          rw [hDeliveries]
          by_cases hFull :
              total (m.share (arrived ++ [pkt])) = m.length
          · have hCovers := hMade.covers m hMem
            rw [Message.share_append, hLast hFull,
              List.append_nil] at hCovers
            rw [if_pos hFull, List.map_singleton,
              hHolds.report_eq hFull hCovers]
            have hDone :=
              (finished_perm hServes.distinct hMem hFragment
                hOpen hFull).map Message.report
            exact
              (List.perm_append_singleton _ _).trans
                hDone.symm
          · rw [if_neg hFull, List.map_nil, List.append_nil,
              finished_eq hServes.distinct hMem hFragment
                hOpen hFull]

/- The packets of distinct messages make up the messages. -/
theorem madeOf_flatMap
    {T : Transport σ α}
    {sendings : List (Sending σ α)}
    (hSent :
      ∀ sending ∈ sendings,
        SentAs T sending.message (sending.packets T))
    (hDistinct :
      (sendings.map Sending.message).Pairwise
        Message.Distinct) :
    MadeOf (sendings.map Sending.message)
      (sendings.flatMap (Sending.packets T)) := by
  have hShare :
      ∀ sending ∈ sendings,
        sending.message.share
            (sendings.flatMap (Sending.packets T)) =
          (sending.packets T).map Packet.piece := by
    intro sending hMem
    rcases List.append_of_mem hMem with
      ⟨before, after, hSplit⟩
    rw [hSplit, List.map_append, List.map_cons,
      List.pairwise_append, List.pairwise_cons] at hDistinct
    have hNone
        (others : List (Sending σ α))
        (hOthers : ∀ other ∈ others, other ∈ sendings ∧
          sending.message.Distinct other.message) :
        sending.message.share
          (others.flatMap (Sending.packets T)) = [] := by
      apply Message.share_eq_nil
      intro pkt hPkt
      rcases List.mem_flatMap.mp hPkt with
        ⟨other, hOther, hIn⟩
      rcases hOthers other hOther with ⟨hFound, hNe⟩
      exact
        ((hSent other hFound).splits.2 pkt hIn).not_owns hNe
    rw [hSplit, List.flatMap_append, List.flatMap_cons,
      Message.share_append, Message.share_append,
      hNone before, hNone after, List.nil_append,
      List.append_nil,
      Message.share_eq_map (hSent sending hMem).splits.2]
    · intro other hOther
      refine ⟨by rw [hSplit]; simp [hOther], ?_⟩
      exact
        hDistinct.2.1.1 _ (List.mem_map_of_mem hOther)
    · intro other hOther
      refine ⟨by rw [hSplit]; simp [hOther], ?_⟩
      exact
        symm_of Message.Distinct
          (hDistinct.2.2 _ (List.mem_map_of_mem hOther) _
            List.mem_cons_self)
  refine ⟨?_, ?_, ?_⟩
  · intro pkt hPkt
    rcases List.mem_flatMap.mp hPkt with
      ⟨sending, hMem, hIn⟩
    exact
      ⟨_, List.mem_map_of_mem hMem,
        (hSent sending hMem).splits.2 pkt hIn⟩
  · intro m hMem
    rcases List.mem_map.mp hMem with ⟨sending, hIn, rfl⟩
    have hTotal := (hSent sending hIn).splits.1.total_eq
    rw [hShare sending hIn]
    omega
  · intro m hMem k hLt
    rcases List.mem_map.mp hMem with ⟨sending, hIn, rfl⟩
    rw [hShare sending hIn,
      (hSent sending hIn).splits.1.covers_iff]
    omega

/-
  Every message of a list is sent, whatever its length, the
  packet size of its connection and its headers; every packet
  is accepted.  Then in whatever order the datagrams of all
  of them are received, each once, they are classified as
  data, and the callbacks are called exactly once for every
  message, with what was sent and nothing missing.
-/
theorem round_trip
    {σ' α' : Type}
    {p : Platform}
    {T : Transport σ α}
    {U : Transport σ' α'}
    {sendings : List (Sending σ α)}
    {receiver : Endpoint σ'}
    (hOk : T.AlwaysOk)
    (hValid : ∀ sending ∈ sendings, sending.Valid)
    (hDistinct :
      (sendings.map Sending.message).Pairwise
        Message.Distinct)
    (hAwaits :
      ∀ sending ∈ sendings,
        receiver.Awaits sending.message)
    (hFree :
      receiver.recvdatabuf.occupied.card +
          sendings.length ≤ recvdatabufSize) :
    (∀ sending ∈ sendings, sending.Sends T) ∧
      ∀ rs : List (SendInput α' × Reception),
        (rs.map (fun r => r.2.datagram)).Perm
            ((sendings.flatMap (Sending.packets T)).map
              Packet.datagram) →
          (∀ r ∈ rs, r.2.classify = .data) ∧
            ∃ t outputs,
              recvAll p U receiver rs = .ok (t, outputs) ∧
                ((deliveries outputs).map
                    Delivery.report).Perm
                  (sendings.map (fun sending =>
                    sending.message.report)) := by
  have hSends (sending : Sending σ α)
      (hMem : sending ∈ sendings) :=
    (hValid sending hMem).sends hOk
  refine ⟨fun sending hMem => (hSends sending hMem).1, ?_⟩
  intro rs hPerm
  rcases Selection.exists_perm_of_map_perm hPerm with
    ⟨pkts, hPkts, hDatagrams⟩
  have hAll :=
    madeOf_flatMap
      (fun sending hMem => (hSends sending hMem).2) hDistinct
  have hMade :
      MadeOf (sendings.map Sending.message) ([] ++ pkts) := by
    rw [List.nil_append]
    refine ⟨?_, ?_, ?_⟩
    · intro pkt hMem
      exact hAll.fragments pkt (hPkts.subset hMem)
    · intro m hMem
      rw [Tiling.total_perm (m.share_perm hPkts)]
      exact hAll.total_eq m hMem
    · intro m hMem k hLt
      rcases hAll.covers m hMem k hLt with
        ⟨piece, hPiece, hIn⟩
      exact
        ⟨piece, (m.share_perm hPkts).symm.subset hPiece, hIn⟩
  have hServes :
      receiver.Serves (sendings.map Sending.message) [] := by
    refine ⟨hDistinct, ?_, ?_, ?_, ?_⟩
    · intro m hMem
      rcases List.mem_map.mp hMem with ⟨sending, hIn, rfl⟩
      exact Or.inl ⟨rfl, (hAwaits sending hIn).absent⟩
    · intro m hMem
      rcases List.mem_map.mp hMem with ⟨sending, hIn, rfl⟩
      exact (hAwaits sending hIn).live
    · intro m hMem
      rcases List.mem_map.mp hMem with ⟨sending, hIn, rfl⟩
      exact (hAwaits sending hIn).reports
    · have hLe :=
        List.length_filter_le
          (fun m : Message => (m.share []).isEmpty)
          (sendings.map Sending.message)
      rw [List.length_map] at hLe
      unfold waiting
      omega
  rcases hServes.recvAll (p := p) (T := U) hMade hDatagrams
    with ⟨t, outputs, hRecv, hReports⟩
  have hNone :
      finished (sendings.map Sending.message) [] = [] := by
    apply List.filter_eq_nil_iff.mpr
    intro m _
    have hPos := m.bytes_pos
    rw [decide_eq_true_eq]
    change ¬ 0 = m.bytes.length
    omega
  have hEvery :
      finished (sendings.map Sending.message) ([] ++ pkts) =
        sendings.map Sending.message := by
    apply List.filter_eq_self.mpr
    intro m hMem
    exact decide_eq_true (hMade.total_eq m hMem)
  rw [hNone, hEvery, List.map_nil, List.nil_append,
    List.map_map] at hReports
  refine ⟨?_, t, outputs, hRecv, hReports⟩
  intro r hMem
  have hIn : r.2.datagram ∈ pkts.map Packet.datagram := by
    rw [← hDatagrams]
    exact List.mem_map_of_mem hMem
  rcases List.mem_map.mp hIn with ⟨pkt, hPkt, hEq⟩
  rcases hAll.fragments pkt (hPkts.subset hPkt) with
    ⟨m, _, hFragment⟩
  exact hFragment.classify hEq.symm

------------------------------------------------------------
-- One Message, Received Backwards
------------------------------------------------------------

open Sample

/- An output queue that accepts everything. -/
def Transport.accepting : Transport Unit Unit where
  queueOrSendPacket _ _ _ := some (.ok, ())
  rtxPacketsFromTo _ _ _ _ _ := some []

theorem Transport.accepting_alwaysOk :
    Transport.accepting.AlwaysOk :=
  fun _ _ _ => ⟨(), rfl⟩

/- The sample message, on a connection of packet size 472. -/
def Sample.sending : Sending Unit Unit where
  sender := connected 472
  conId := first
  con := connection 472
  message := message
  attempts :=
    List.replicate 898 ⟨MonHeader.none, fun _ => 0, ()⟩

theorem Sample.sending_valid : sending.Valid := by
  refine ⟨connected_first 472, ⟨rfl, rfl, rfl⟩, ?_, ?_, ?_⟩
  · intro pass _
    exact pass.hasRoom_of_min (by decide)
  · decide
  · change message.length ≤ _
    rw [length_message, sending, List.length_replicate]

/- Datagrams that fit the receive buffer can be received. -/
theorem exists_receptions
    (pkts : List Packet)
    (hFits :
      ∀ pkt ∈ pkts, pkt.datagram.length ≤ msgbufSize) :
    ∃ rs : List (SendInput Unit × Reception),
      rs.map (fun r => r.2.datagram) =
        pkts.map Packet.datagram := by
  induction pkts with
  | nil => exact ⟨[], rfl⟩
  | cons pkt rest ih =>
      rcases ih (fun other hMem =>
          hFits other (List.mem_cons_of_mem _ hMem)) with
        ⟨rs, hRest⟩
      refine
        ⟨([], pkt.reception (address 2)
          (hFits pkt List.mem_cons_self)) :: rs, ?_⟩
      rw [List.map_cons, List.map_cons, hRest]
      rfl

/- The fragments of the message arrive last one first. -/
theorem round_trip_backwards :
    ∃ (rs : List (SendInput Unit × Reception))
        (t : Endpoint Unit) (outputs : List Output),
      rs.map (fun r => r.2.datagram) =
          ((sending.packets Transport.accepting).map
            Packet.datagram).reverse ∧
        recvAll platform Transport.accepting (connected 472)
            rs = .ok (t, outputs) ∧
        (deliveries outputs).map Delivery.report =
          [message.report] := by
  have hValid : ∀ other ∈ [sending], other.Valid := by
    intro other hMem
    rw [List.mem_singleton] at hMem
    rw [hMem]
    exact sending_valid
  have hAwaits :
      ∀ other ∈ [sending],
        (connected 472).Awaits other.message := by
    intro other hMem
    rw [List.mem_singleton] at hMem
    rw [hMem]
    exact awaits_message
  have hEmpty :
      (connected 472).recvdatabuf = SlotTable.empty := rfl
  have hFree :
      (connected 472).recvdatabuf.occupied.card +
          [sending].length ≤ recvdatabufSize := by
    rw [hEmpty, SlotTable.occupied_empty, Finset.card_empty]
    decide
  rcases
    round_trip (p := platform) (U := Transport.accepting)
      Transport.accepting_alwaysOk hValid
      (List.pairwise_singleton _ _) hAwaits hFree with
    ⟨hSends, hReceived⟩
  have hFits := (hSends sending (by simp)).fits
  rcases
    exists_receptions
      (sending.packets Transport.accepting).reverse
      (fun pkt hMem => hFits pkt (List.mem_reverse.mp hMem))
    with ⟨rs, hRs⟩
  rw [List.map_reverse] at hRs
  have hSingle :
      ([sending].flatMap
        (Sending.packets Transport.accepting)) =
          sending.packets Transport.accepting := by
    rw [List.flatMap_cons, List.flatMap_nil, List.append_nil]
  rcases
    hReceived rs (by
      rw [hRs, hSingle]
      exact List.reverse_perm _) with
    ⟨_, t, outputs, hRecv, hReports⟩
  exact
    ⟨rs, t, outputs, hRs, hRecv,
      List.perm_singleton.mp hReports⟩

end ML

end NapaBaselibs
