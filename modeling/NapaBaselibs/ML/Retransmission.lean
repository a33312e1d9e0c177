import NapaBaselibs.ML.KeptList

/-
  `rtxPacketsFromTo` on the packets that `send_msg` produces.

  Every kept packet of a message ends within the range of an
  `int`, and a packet with payload takes the loop to a later
  offset.  So the loop returns, with no more sends than there
  are kept packets of the message, unless the found packets
  lead to one without payload: that one it sends for ever.

  Key definitions include:
    * `Packet.OfSendMsg`
    * `packetAt`, `LeadsTo`, `LeadsToEmpty`

  Key theorems include:
    * `rtxPacketsLoop_returns`
    * `rtxPacketsLoop_endless`
    * `retransmission_returns_iff`
-/

------------------------------------------------------------
-- Packets Of Messages
------------------------------------------------------------

namespace NapaBaselibs

namespace ML

/-
  A packet that a call of `send_msg` has handed to the output
  queue, for a message with an `int` as its length.
-/
def Packet.OfSendMsg (pkt : Packet) : Prop :=
  ∃ (σ α : Type) (T : Transport σ α) (input : SendInput α)
      (s s' : Endpoint σ) (conId : ConId) (msgType : UInt8)
      (msg : List UInt8) (msgLen : Int) (truncable : Bool)
      (outputs : List Output) (answer : ErrorCode),
    msgLen < 2 ^ 31 ∧
      sendMsg T input s conId msgType msg msgLen truncable =
        .ok (s', outputs) ∧
      .packet pkt answer ∈ outputs

/- The offset behind a packet is an `int`. -/
def Packet.EndsWithin (pkt : Packet) : Prop :=
  pkt.header.offset.toNat + pkt.payload.length < 2 ^ 31

/- Packets end within their message. -/
theorem Packet.OfSendMsg.endsWithin
    {pkt : Packet}
    (hOf : pkt.OfSendMsg) :
    pkt.EndsWithin := by
  rcases hOf with
    ⟨σ, α, T, input, s, s', conId, msgType, msg, msgLen,
      truncable, outputs, answer, hInt, hSend, hMem⟩
  rcases sendMsg_ok hSend with
    ⟨con, _, _, _, _, _, hPackets⟩
  rcases hPackets _ hMem with ⟨other, _, hEq, hWithin⟩
  cases hEq
  rcases hWithin with
    ⟨lenMonDataHdr, monDataHdr, attempt, offset, len, hEnd,
      rfl⟩
  have hMsgLen :
      (con.sendJob conId msgType msg msgLen
        truncable).msgLen = msgLen := rfl
  have hOffset :
      (UInt32.ofNat offset).toNat ≤ offset := by
    rw [UInt32.toNat_ofNat']
    exact Nat.mod_le _ _
  rw [hMsgLen] at hEnd
  unfold Packet.EndsWithin
  simp only [SendJob.packet, length_readBlock]
  omega

/- A container holds a packet of the message. -/
def isOfMessage
    (connID msgSeqNum : Int32)
    (node : Nat × PacketContainer) : Bool :=
  decide (node.2.packet.header.localConId = connID) &&
    decide (node.2.packet.header.msgSeqNum = msgSeqNum)

------------------------------------------------------------
-- Following Packets
------------------------------------------------------------

/- The kept packet that is found at an offset. -/
def packetAt
    (rtx : List (Nat × PacketContainer))
    (connID msgSeqNum : Int32)
    (offset : Int) : Option Packet :=
  (rtx.find?
    (isAsked connID msgSeqNum (Int32.ofInt offset))).map
      (fun node => node.2.packet)

/- Looking for a packet looks at the packets only. -/
theorem packetAt_eq_find?
    (rtx : List (Nat × PacketContainer))
    (connID msgSeqNum : Int32)
    (offset : Int) :
    packetAt rtx connID msgSeqNum offset =
      (packetsOf rtx).find?
        (fun pkt =>
          pkt.IsAt connID msgSeqNum (Int32.ofInt offset)) := by
  unfold packetAt packetsOf LinkedQueue.values
  rw [List.map_map, List.find?_map]
  rfl

/-
  The kept packets that are found one behind the other from
  an offset on, below another one, lead to a third.
-/
inductive LeadsTo
    (rtx : List (Nat × PacketContainer))
    (connID msgSeqNum : Int32)
    (offsetTo : Int) : Int → Int → Prop where
  | here (offset : Int) :
      LeadsTo rtx connID msgSeqNum offsetTo offset offset
  | next
      {offset last : Int}
      {pkt : Packet}
      (hBelow : offset < offsetTo)
      (hFound :
        packetAt rtx connID msgSeqNum offset = some pkt)
      (hRest :
        LeadsTo rtx connID msgSeqNum offsetTo
          (offset + pkt.payload.length) last) :
      LeadsTo rtx connID msgSeqNum offsetTo offset last

/- They lead to a packet without payload. -/
def LeadsToEmpty
    (rtx : List (Nat × PacketContainer))
    (connID msgSeqNum : Int32)
    (offsetTo offset : Int) : Prop :=
  ∃ (last : Int) (pkt : Packet),
    LeadsTo rtx connID msgSeqNum offsetTo offset last ∧
      last < offsetTo ∧
      packetAt rtx connID msgSeqNum last = some pkt ∧
      pkt.payload = []

/- A packet that is found was asked for. -/
theorem isAt_of_packetAt
    {rtx : List (Nat × PacketContainer)}
    {connID msgSeqNum : Int32}
    {offset : Int}
    {pkt : Packet}
    (hFound :
      packetAt rtx connID msgSeqNum offset = some pkt) :
    ∃ node ∈ rtx,
      node.2.packet = pkt ∧
        pkt.IsAt connID msgSeqNum (Int32.ofInt offset) := by
  rcases Option.map_eq_some_iff.mp hFound with
    ⟨node, hFind, rfl⟩
  have hAsked := List.find?_some hFind
  exact
    ⟨node, List.mem_of_find?_eq_some hFind, rfl,
      of_decide_eq_true hAsked⟩

section Loop

variable {q : OutputQueue}
variable {tx rtx : List (Nat × PacketContainer)}
variable {connID msgSeqNum : Int32}
variable {offsetTo : Int}

/- A round that finds nothing ends the loop. -/
theorem rtxPacketsLoop_none
    {fuel : Nat}
    {offset : Int}
    (hHolds : q.Holds tx rtx)
    (hBelow : offset < offsetTo)
    (hNone :
      packetAt rtx connID msgSeqNum offset = none) :
    rtxPacketsLoop connID msgSeqNum offsetTo q (fuel + 1)
        offset = .ok [] := by
  have hFind := Option.map_eq_none_iff.mp hNone
  rw [rtxPacketsLoop, if_pos hBelow,
    searchPacketInRTX_keep hHolds, hFind]
  rfl

/- A round that finds a packet sends it. -/
theorem rtxPacketsLoop_some
    {fuel : Nat}
    {offset : Int}
    {pkt : Packet}
    (hHolds : q.Holds tx rtx)
    (hBelow : offset < offsetTo)
    (hFound :
      packetAt rtx connID msgSeqNum offset = some pkt) :
    rtxPacketsLoop connID msgSeqNum offsetTo q (fuel + 1)
        offset =
      if pkt.payload = [] then
        .error .noReturn
      else
        (do
          let next ← addInt offset pkt.payload.length
          let sent ←
            rtxPacketsLoop connID msgSeqNum offsetTo q fuel
              next
          .ok (pkt :: sent)) := by
  rcases Option.map_eq_some_iff.mp hFound with
    ⟨node, hFind, rfl⟩
  rcases List.append_of_mem
      (List.mem_of_find?_eq_some hFind) with
    ⟨before, after, hSplit⟩
  have hPath := hHolds.rtxHolds.path
  rw [hSplit] at hPath
  rcases hPath.lookup_middle with ⟨next, hCell, _⟩
  rw [rtxPacketsLoop, if_pos hBelow,
    searchPacketInRTX_keep hHolds, hFind, ok_bind]
  simp only [Option.map_some, deref_eq hCell, ok_bind]

/-
  If the packets lead to one without payload, the loop does
  not return, however many rounds it is given.
-/
theorem rtxPacketsLoop_endless
    {offset : Int}
    (hHolds : q.Holds tx rtx)
    (hEmpty :
      LeadsToEmpty rtx connID msgSeqNum offsetTo offset)
    (fuel : Nat)
    (sent : List Packet) :
    rtxPacketsLoop connID msgSeqNum offsetTo q fuel offset ≠
      .ok sent := by
  rcases hEmpty with ⟨last, pkt, hLeads, hBelow, hLast, hNil⟩
  induction hLeads generalizing fuel sent with
  | here offset =>
      intro hReturns
      cases fuel with
      | zero => cases hReturns
      | succ fuel =>
          rw [rtxPacketsLoop_some hHolds hBelow hLast,
            if_pos hNil] at hReturns
          cases hReturns
  | @next offset last found hHere hFound _ ih =>
      intro hReturns
      cases fuel with
      | zero => cases hReturns
      | succ fuel =>
          rw [rtxPacketsLoop_some hHolds hHere hFound]
            at hReturns
          split at hReturns
          · cases hReturns
          · rcases bind_eq_ok hReturns with
              ⟨after, hAdd, hRest⟩
            rcases bind_eq_ok hRest with ⟨more, hMore, _⟩
            rcases addInt_cases offset found.payload.length
              with hInt | hInt
            · rw [hInt] at hAdd
              cases hAdd
              exact ih fuel more hBelow hLast hMore
            · rw [hInt] at hAdd
              cases hAdd

/- A kept packet of the message, at an offset or later. -/
def isFrom
    (connID msgSeqNum : Int32)
    (offset : Int)
    (node : Nat × PacketContainer) : Bool :=
  isOfMessage connID msgSeqNum node &&
    decide (offset ≤ (node.2.packet.header.offset.toNat : Int))

/- The number of kept packets at an offset or later. -/
def countFrom
    (rtx : List (Nat × PacketContainer))
    (connID msgSeqNum : Int32)
    (offset : Int) : Nat :=
  rtx.countP (isFrom connID msgSeqNum offset)

/- There are no more than there are of the message. -/
theorem countFrom_le (offset : Int) :
    countFrom rtx connID msgSeqNum offset ≤
      rtx.countP (isOfMessage connID msgSeqNum) := by
  apply List.countP_mono_left
  intro node _ hFrom
  exact (Bool.and_eq_true_iff.mp hFrom).1

/- Behind a packet with payload there is one less. -/
theorem countFrom_lt
    {offset : Int}
    {node : Nat × PacketContainer}
    {len : Nat}
    (hMem : node ∈ rtx)
    (hOf : isOfMessage connID msgSeqNum node = true)
    (hOffset :
      (node.2.packet.header.offset.toNat : Int) = offset)
    (hLen : 0 < len) :
    countFrom rtx connID msgSeqNum (offset + len) <
      countFrom rtx connID msgSeqNum offset := by
  have hMono :
      ∀ other : Nat × PacketContainer,
        isFrom connID msgSeqNum (offset + len) other = true →
          isFrom connID msgSeqNum offset other = true := by
    intro other hFrom
    simp only [isFrom, Bool.and_eq_true,
      decide_eq_true_eq] at hFrom ⊢
    exact ⟨hFrom.1, by omega⟩
  have hHere : isFrom connID msgSeqNum offset node = true := by
    simp only [isFrom, hOf, Bool.true_and,
      decide_eq_true_eq]
    omega
  have hPassed :
      ¬ isFrom connID msgSeqNum (offset + len) node =
        true := by
    simp only [isFrom, hOf, Bool.true_and,
      decide_eq_true_eq]
    omega
  rcases List.append_of_mem hMem with ⟨before, after, rfl⟩
  have hBefore :=
    List.countP_mono_left
      (l := before) (fun other _ => hMono other)
  have hAfter :=
    List.countP_mono_left
      (l := after) (fun other _ => hMono other)
  unfold countFrom
  rw [List.countP_append, List.countP_append,
    List.countP_cons_of_neg hPassed,
    List.countP_cons_of_pos hHere]
  omega

/- The `int` of an offset that a packet can have. -/
theorem offset_of_isAt
    {pkt : Packet}
    {offset : Int}
    (hLow : -2 ^ 31 ≤ offset)
    (hHigh : offset < 2 ^ 31)
    (hEnds : pkt.EndsWithin)
    (hAt : pkt.IsAt connID msgSeqNum (Int32.ofInt offset)) :
    (pkt.header.offset.toNat : Int) = offset := by
  have hInt : (Int32.ofInt offset).toInt = offset :=
    Int32.toInt_ofInt_of_le hLow hHigh
  have hNat :
      pkt.header.offset.toNat =
        (Int32.ofInt offset).toBitVec.toNat := by
    rw [hAt.2.2]
    rfl
  rw [Int32.toInt, BitVec.toInt_eq_toNat_cond, ← hNat]
    at hInt
  unfold Packet.EndsWithin at hEnds
  split at hInt
  · exact hInt
  · omega

/-
  Otherwise it returns, with no more sends than there are
  kept packets of the message from the offset on.
-/
theorem rtxPacketsLoop_returns
    {fuel : Nat}
    {offset : Int}
    (hHolds : q.Holds tx rtx)
    (hEnds : ∀ node ∈ rtx, node.2.packet.EndsWithin)
    (hLow : -2 ^ 31 ≤ offset)
    (hHigh : offset < 2 ^ 31)
    (hFuel : countFrom rtx connID msgSeqNum offset < fuel)
    (hEmpty :
      ¬ LeadsToEmpty rtx connID msgSeqNum offsetTo offset) :
    ∃ sent : List Packet,
      rtxPacketsLoop connID msgSeqNum offsetTo q fuel offset =
          .ok sent ∧
        sent.length ≤
          countFrom rtx connID msgSeqNum offset := by
  induction fuel generalizing offset with
  | zero => exact absurd hFuel (Nat.not_lt_zero _)
  | succ fuel ih =>
      by_cases hBelow : offset < offsetTo
      · cases hFound :
            packetAt rtx connID msgSeqNum offset with
        | none =>
            exact
              ⟨[], rtxPacketsLoop_none hHolds hBelow hFound,
                Nat.zero_le _⟩
        | some pkt =>
            rcases isAt_of_packetAt hFound with
              ⟨node, hMem, rfl, hAt⟩
            have hPayload : node.2.packet.payload ≠ [] := by
              intro hNil
              exact hEmpty
                ⟨offset, _, .here offset, hBelow, hFound,
                  hNil⟩
            have hLen := List.length_pos_iff.mpr hPayload
            have hEnd := hEnds node hMem
            have hOffset :=
              offset_of_isAt hLow hHigh hEnd hAt
            unfold Packet.EndsWithin at hEnd
            have hOf :
                isOfMessage connID msgSeqNum node = true := by
              simp only [isOfMessage, hAt.1, hAt.2.1,
                decide_true, Bool.and_self]
            have hLess :=
              countFrom_lt hMem hOf hOffset hLen
            rcases
                @ih (offset + node.2.packet.payload.length)
                  (by omega) (by omega) (by omega)
                  (by
                    rintro ⟨last, pkt, hLeads, hRest⟩
                    exact hEmpty
                      ⟨last, pkt,
                        .next hBelow hFound hLeads, hRest⟩)
              with ⟨sent, hSent, hCount⟩
            refine ⟨node.2.packet :: sent, ?_, ?_⟩
            · rw [rtxPacketsLoop_some hHolds hBelow hFound,
                if_neg hPayload,
                addInt_eq (by omega) (by omega), ok_bind,
                hSent, ok_bind]
            · rw [List.length_cons]
              omega
      · refine ⟨[], ?_, Nat.zero_le _⟩
        rw [rtxPacketsLoop, if_neg hBelow]

end Loop

------------------------------------------------------------
-- Requests In A Run
------------------------------------------------------------

/-
  The call returns, and it sends no more packets than the
  queue has of the message.
-/
def RetransmitsWithin
    (connID msgSeqNum offsetFrom offsetTo : Int32)
    (rtx : List (Nat × PacketContainer))
    (q : OutputQueue) : Prop :=
  ∃ sent : List Packet,
    rtxPacketsFromTo connID msgSeqNum offsetFrom offsetTo q =
        .ok sent ∧
      sent.length ≤
        rtx.countP (isOfMessage connID msgSeqNum)

/- What decides about a request to a proper list. -/
theorem retransmitsWithin_iff
    {q : OutputQueue}
    {tx rtx : List (Nat × PacketContainer)}
    (hHolds : q.Holds tx rtx)
    (hEnds : ∀ node ∈ rtx, node.2.packet.EndsWithin)
    (connID msgSeqNum offsetFrom offsetTo : Int32) :
    RetransmitsWithin connID msgSeqNum offsetFrom offsetTo
        rtx q ↔
      ¬ LeadsToEmpty rtx connID msgSeqNum offsetTo.toInt
          offsetFrom.toInt := by
  constructor
  · rintro ⟨sent, hSent, _⟩ hEmpty
    exact rtxPacketsLoop_endless hHolds hEmpty _ sent hSent
  · intro hEmpty
    have hCount :=
      @countFrom_le rtx connID msgSeqNum offsetFrom.toInt
    have hLength :
        rtx.countP (isOfMessage connID msgSeqNum) ≤
          rtx.length :=
      List.countP_le_length
    have hFuel := hHolds.length_lt_fuel
    rcases
        @rtxPacketsLoop_returns _ _ _ _ _ _ q.fuel _ hHolds
          hEnds offsetFrom.le_toInt offsetFrom.toInt_lt (by omega)
          hEmpty with
      ⟨sent, hSent, hSends⟩
    exact ⟨sent, hSent, by omega⟩

/-
  After every run of calls as the program makes them, with
  packets of `send_msg`, and for every request: it is
  answered with no more sends than there are kept packets of
  the message, just if the found packets do not lead to one
  without payload.
-/
theorem retransmission_returns_iff
    {params : QueueParams}
    {s : QueueUse}
    {trace : List QueueTransition}
    (hRun :
      Run QueueUse.Step (QueueUse.initial params) trace s)
    (hCode :
      ∀ transition ∈ trace, transition.event.ByCode)
    (hCreates :
      ∀ transition ∈ trace,
        transition.event.Creates Packet.OfSendMsg)
    (connID msgSeqNum offsetFrom offsetTo : Int32) :
    ∃ rtx : List (Nat × PacketContainer),
      s.queue.Keeps rtx ∧
        (RetransmitsWithin connID msgSeqNum offsetFrom
            offsetTo rtx s.queue ↔
          ¬ LeadsToEmpty rtx connID msgSeqNum
              offsetTo.toInt offsetFrom.toInt) := by
  rcases
      QueueUse.run_valid hRun
        (fun transition hMem =>
          ⟨hCreates transition hMem,
            (hCode transition hMem).not_takesLast⟩) with
    ⟨tx, rtx, hValid⟩
  refine
    ⟨rtx, hValid.holds.keeps,
      retransmitsWithin_iff hValid.holds ?_ connID msgSeqNum
        offsetFrom offsetTo⟩
  intro node hMem
  exact
    (hValid.packets node
      (List.mem_append_right _ hMem)).endsWithin

------------------------------------------------------------
-- Sample Requests
------------------------------------------------------------

namespace Sample

/- A message in one packet, over the connection to host 2. -/
def messagePacket (msg : List UInt8) : Packet :=
  ((connection 1400).sendJob first 1 msg msg.length
    false).packet 0 [] onceAttempt 0
      (min (1400 - msgHeaderSize : Int) msg.length).toNat

theorem messagePacket_ofSendMsg
    {msg : List UInt8}
    (hShort : msg.length ≤ 1000) :
    (messagePacket msg).OfSendMsg := by
  have hSend :=
    @sendMsg_oncePacket _ _ _ 1 msg _ false
      (connected_first 1400) (by decide) (by decide)
      (Int.natCast_nonneg msg.length)
      (Or.inr (by
        change (msg.length : Int) ≤ 1400 - 23
        omega))
  exact
    ⟨Unit, ErrorCode, _, _, _, _, _, _, _, _, _, _, .ok,
      by omega, hSend, List.mem_singleton.mpr rfl⟩

/- The packet is kept for retransmission. -/
def keptMessage (msg : List UInt8) : List QueueCall :=
  [.createPacketContainer 16 (messagePacket msg),
    .addPacketRTXqueue ⟨1, 0⟩ ⟨1, 0⟩ 16]

theorem keptMessage_byCode
    {msg : List UInt8}
    (hShort : msg.length ≤ 1000)
    {event : QueueCall}
    (hMem : event ∈ keptMessage msg) :
    event.ByCode ∧ event.Creates Packet.OfSendMsg := by
  simp only [keptMessage, List.mem_cons, List.not_mem_nil,
    or_false] at hMem
  rcases hMem with rfl | rfl
  · exact ⟨trivial, messagePacket_ofSendMsg hShort⟩
  · exact ⟨trivial, trivial⟩

/- One packet is kept, with some payload. -/
def keepsPayload (s : QueueUse) : Bool :=
  s.queue.rtxQueue.head = some 16 &&
    (s.queue.heap.lookup 16).any (fun cell =>
      cell.next.isNone &&
        !cell.value.packet.payload.isEmpty)

theorem not_leadsToEmpty_of_keepsPayload
    {s : QueueUse}
    {rtx : List (Nat × PacketContainer)}
    (hKeeps : s.queue.Keeps rtx)
    (hPayload : keepsPayload s = true)
    (connID msgSeqNum : Int32)
    (offsetTo offset : Int) :
    ¬ LeadsToEmpty rtx connID msgSeqNum offsetTo offset := by
  rintro ⟨last, pkt, _, _, hFound, hNil⟩
  simp only [keepsPayload, Bool.and_eq_true,
    decide_eq_true_eq] at hPayload
  rcases hPayload with ⟨hHead, hCell⟩
  have hPath := hKeeps.holds.path
  rw [hHead] at hPath
  rcases hPath.exists_cons with
    ⟨v, next, rest, rfl, hLookup, hRest⟩
  rw [hLookup, Option.any_some, Bool.and_eq_true] at hCell
  rcases hCell with ⟨hNext, hSome⟩
  have hNone : next = none :=
    Option.isNone_iff_eq_none.mp hNext
  subst hNone
  rw [hRest.eq_nil] at hFound
  rcases isAt_of_packetAt hFound with
    ⟨node, hMem, rfl, _⟩
  rcases List.mem_singleton.mp hMem with rfl
  rw [hNil] at hSome
  cases hSome

/- The first byte of the message is asked for. -/
def neverAnswered (s : QueueUse) : Bool :=
  match rtxPacketsFromTo 0 0 0 1 s.queue with
  | .error .noReturn => true
  | _ => false

end Sample

/- A message of one byte is sent again. -/
theorem byte_sent_again :
    ∃ (trace : List QueueTransition) (s : QueueUse)
        (rtx : List (Nat × PacketContainer)),
      trace.map Transition.event = Sample.keptMessage [7] ∧
        Run QueueUse.Step
          (QueueUse.initial Sample.queueParams) trace s ∧
        s.queue.Keeps rtx ∧
        RetransmitsWithin 0 0 0 1 rtx s.queue := by
  rcases
      @exists_run _ _ _ _ QueueUse.perform
        (QueueUse.initial Sample.queueParams)
        (Sample.keptMessage [7])
        (fun result => Sample.keepsPayload result.2)
        (by decide +kernel) with
    ⟨trace, s, hRun, hEvents, hPayload⟩
  have hCode :
      ∀ transition ∈ trace,
        transition.event.ByCode ∧
          transition.event.Creates Packet.OfSendMsg := by
    apply
      forall_event
        (fun event =>
          event.ByCode ∧ event.Creates Packet.OfSendMsg)
        hEvents
    intro event hMem
    exact Sample.keptMessage_byCode (by decide) hMem
  rcases
      retransmission_returns_iff hRun
        (fun transition hMem => (hCode transition hMem).1)
        (fun transition hMem => (hCode transition hMem).2)
        0 0 0 1 with
    ⟨rtx, hKeeps, hIff⟩
  refine ⟨trace, s, rtx, hEvents, hRun, hKeeps, ?_⟩
  rw [hIff]
  exact
    Sample.not_leadsToEmpty_of_keepsPayload hKeeps hPayload
      _ _ _ _

/-
  The packet of a message without any byte is kept, and a
  request for its first byte is never answered.
-/
theorem empty_message_sent_for_ever :
    ∃ (trace : List QueueTransition) (s : QueueUse),
      trace.map Transition.event = Sample.keptMessage [] ∧
        Run QueueUse.Step
          (QueueUse.initial Sample.queueParams) trace s ∧
        (∀ transition ∈ trace,
          transition.event.ByCode ∧
            transition.event.Creates Packet.OfSendMsg) ∧
        rtxPacketsFromTo 0 0 0 1 s.queue =
          .error .noReturn ∧
        ∀ rtx, ¬ RetransmitsWithin 0 0 0 1 rtx s.queue := by
  rcases
      @exists_run _ _ _ _ QueueUse.perform
        (QueueUse.initial Sample.queueParams)
        (Sample.keptMessage [])
        (fun result => Sample.neverAnswered result.2)
        (by decide +kernel) with
    ⟨trace, s, hRun, hEvents, hNever⟩
  have hEndless :
      rtxPacketsFromTo 0 0 0 1 s.queue =
        .error .noReturn := by
    unfold Sample.neverAnswered at hNever
    split at hNever
    · assumption
    · cases hNever
  refine ⟨trace, s, hEvents, hRun, ?_, hEndless, ?_⟩
  · apply
      forall_event
        (fun event =>
          event.ByCode ∧ event.Creates Packet.OfSendMsg)
        hEvents
    intro event hMem
    exact Sample.keptMessage_byCode (by decide) hMem
  · rintro rtx ⟨sent, hOk, _⟩
    rw [hEndless] at hOk
    cases hOk

end ML

end NapaBaselibs
