import Mathlib.Data.Fintype.EquivFin
import NapaBaselibs.ML.PacketSearch
import NapaBaselibs.ML.QueueRuns

/-
  The order of the packets behind the rate limiter.

  With fixed parameters the packets leave in the order in
  which they were accepted, and the queue stays within its
  limit.  The source compares sums of `int`s with the limits
  of both queues; a call returns just if those it forms are
  `int`s.

  Key definitions include:
    * `RateEvent.Ordinary`, `RateEvent.Supplied`
    * `RateLimiter.SumsFit`

  Key theorems include:
    * `queueOrSendPacket_returns_iff`
    * `drain_returns_iff`
    * `packets_leave_in_order`
    * `full_queue_overflows`
-/

------------------------------------------------------------
-- Sums
------------------------------------------------------------

namespace NapaBaselibs

namespace ML

/- The containers in the queue of waiting packets. -/
def OutputQueue.waiting
    (q : OutputQueue) : List (Nat × PacketContainer) :=
  LinkedQueue.nodesFrom q.heap q.fuel q.txQueue.head

/-
  If the packet is to be kept: its size and that of the kept
  packets left by this reading of the clock are an `int`.
-/
def OutputQueue.KeptSumFits
    (now : Timeval)
    (pkt : Packet)
    (q : OutputQueue) : Prop :=
  pkt.priority &&& SendJob.noRtx = 0 →
    totalSize (q.kept.dropWhile (isExpired now q.params)) +
        pkt.pktLen <
      2 ^ 31

namespace RateLimiter

/- What a round that sends a packet does to the queues. -/
def sendFirst
    (s : RateLimiter)
    (round : DrainRound)
    (pkt : Packet) : Except QueueFault RateLimiter := do
  match ← takePacketToSend s.queue with
  | (none, queue) => .ok { s with queue := queue }
  | (some address, queue) =>
      let kept ←
        keepSentPacket round.rtxClock round.rtxStamp
          pkt.priority address queue
      .ok { s with queue := kept, bibThen := round.bibClock }

/-
  In every round, before it: the packet in front is held back
  by the bucket, or it can be kept after it was sent.
-/
def RoundsFit (s : RateLimiter) :
    List DrainRound → Prop
| [] => True
| round :: rest =>
    match s.queue.waiting with
    | [] => True
    | first :: _ =>
        match outputRateControl first.2.pktLen
            round.rateClock s with
        | (.ok, s') =>
            s.queue.KeptSumFits round.rtxClock
                first.2.packet ∧
              ∀ s'',
                s'.sendFirst round first.2.packet = .ok s'' →
                  s''.RoundsFit rest
        | _ => True

/-
  The sums a call forms are `int`s: a submission compares the
  size of the queue if packets wait, and the size of the kept
  packets if it is sent at once.
-/
def SumsFit (s : RateLimiter) : RateEvent → Prop
| .queueOrSendPacket pkt input =>
    if isQueueEmpty s.queue then
      (outputRateControl pkt.pktLen input.rateClock s).1 =
          .ok →
        s.queue.KeptSumFits input.rtxClock pkt
    else
      s.queue.txSize + pkt.pktLen < 2 ^ 31
| .freeSpaceInBucket fired rounds =>
    RoundsFit
      { s with pending := s.pending.eraseIdx fired } rounds
| _ => True

end RateLimiter

/-
  What the system provides: free memory for the packet, or
  the answers for every packet that waits.
-/
def RateEvent.Supplied (s : RateLimiter) : RateEvent → Prop
| .queueOrSendPacket pkt input =>
    pkt.pktLen < 2 ^ 31 ∧
      s.queue.heap.lookup input.address = none
| .freeSpaceInBucket _ rounds =>
    s.queue.waiting.length ≤ rounds.length
| _ => True

------------------------------------------------------------
-- Which Calls Return
------------------------------------------------------------

/- What follows a computation always returns. -/
theorem returns_bind_iff
    {β γ : Type}
    {first : Except QueueFault β}
    {rest : β → Except QueueFault γ}
    (hRest :
      ∀ result, first = .ok result →
        ∃ final, rest result = .ok final) :
    (∃ final, first >>= rest = .ok final) ↔
      ∃ result, first = .ok result := by
  constructor
  · rintro ⟨final, hAll⟩
    rcases bind_eq_ok hAll with ⟨result, hFirst, _⟩
    exact ⟨result, hFirst⟩
  · rintro ⟨result, hFirst⟩
    rw [hFirst, ok_bind]
    exact hRest result hFirst

section Returning

variable {q : OutputQueue}
variable {tx rtx : List (Nat × PacketContainer)}
variable {address : Nat}
variable {container : PacketContainer}

/- Following the pointers lists what waits. -/
theorem OutputQueue.Holds.waiting_eq
    (hHolds : q.Holds tx rtx) :
    q.waiting = tx :=
  hHolds.txHolds.path.nodesFrom_eq
    (Nat.lt_succ_of_le
      (hHolds.txHolds.path.length_le hHolds.txHolds.nodup))

theorem addPacketTXqueue_returns_iff
    (hHolds : q.Holds tx rtx)
    (hLoose : q.Loose tx rtx address container) :
    (∃ result, addPacketTXqueue address q = .ok result) ↔
      q.txSize + container.pktLen < 2 ^ 31 := by
  rcases addPacketTXqueue_spec hHolds hLoose with
    ⟨hOver, hLarge⟩ | ⟨answer, q', hAdd, _⟩
  · rw [hOver]
    constructor
    · rintro ⟨result, hOk⟩
      cases hOk
    · intro hFits
      omega
  · constructor
    · intro _
      by_contra hLarge
      have hOver : 2 ^ 31 ≤ q.txSize + container.pktLen :=
        Int.not_lt.mp hLarge
      unfold addPacketTXqueue at hAdd
      rw [deref_eq hLoose.cell, ok_bind,
        addInt_eq_error hOver, error_bind] at hAdd
      cases hAdd
    · intro _
      exact ⟨_, hAdd⟩

/- The sum is that of the kept packets, whatever waits. -/
theorem keptSumFits_iff
    {q' : OutputQueue}
    {tx' : List (Nat × PacketContainer)}
    (hHolds : q.Holds tx rtx)
    (hHolds' : q'.Holds tx' rtx)
    (hParams : q'.params = q.params)
    (now : Timeval)
    (pkt : Packet) :
    q'.KeptSumFits now pkt ↔ q.KeptSumFits now pkt := by
  unfold OutputQueue.KeptSumFits
  rw [hHolds'.keeps.kept_eq, hHolds.keeps.kept_eq, hParams]

/- A packet no larger than the limit is kept if its sum is. -/
theorem keepSentPacket_returns_iff
    {rtxClock rtxStamp : Timeval}
    {pkt : Packet}
    (hHolds : q.Holds tx rtx)
    (hLoose : q.Loose tx rtx address container)
    (hPacket : container.packet = pkt)
    (hLen : container.pktLen ≤ q.params.rtxMaxSize) :
    (∃ q',
        keepSentPacket rtxClock rtxStamp pkt.priority address
          q = .ok q') ↔
      q.KeptSumFits rtxClock pkt := by
  have hSize : container.pktLen = pkt.pktLen :=
    hPacket ▸ hLoose.wellSized
  unfold keepSentPacket OutputQueue.KeptSumFits
  rw [hHolds.keeps.kept_eq, ← hSize]
  split
  · rename_i hKeep
    rcases addPacketRTXqueue_spec rtxClock rtxStamp hHolds
        hLoose.outside with
      ⟨hOver, hLarge⟩ | ⟨hInt, ⟨_, hLarge⟩ | ⟨q', _, hAdd,
        _⟩⟩
    · rw [hOver]
      constructor
      · rintro ⟨q', hOk⟩
        cases hOk
      · intro hFits
        exact absurd (hFits hKeep) (Int.not_lt.mpr hLarge)
    · exact absurd hLen (Int.not_le.mpr hLarge)
    · exact ⟨fun _ _ => hInt, fun _ => ⟨q', hAdd⟩⟩
  · rename_i hDrop
    rcases destroyPacketContainer_spec hHolds
        hLoose.outside with
      ⟨q', hDestroy, _⟩
    exact
      ⟨fun _ hKeep => absurd hKeep hDrop,
        fun _ => ⟨q', hDestroy⟩⟩

/- Rate control does not read the queues. -/
theorem outputRateControl_code
    (len : Int)
    (now : Timeval)
    (s : RateLimiter)
    (queue : OutputQueue) :
    (outputRateControl len now
        { s with queue := queue }).1 =
      (outputRateControl len now s).1 := by
  have hDrained :
      RateLimiter.drained { s with queue := queue } now =
        s.drained now :=
    rfl
  unfold outputRateControl
  simp only [hDrained]
  split
  · rfl
  · split
    · rfl
    · rfl

/- A container for a packet can be made. -/
theorem createPacketContainer_returns
    {pkt : Packet}
    (hLen : pkt.pktLen < 2 ^ 31)
    (hFree : q.heap.lookup address = none) :
    ∃ q',
      createPacketContainer address pkt q = .ok q' ∧
        q'.txQueue = q.txQueue ∧ q'.txSize = q.txSize := by
  unfold createPacketContainer
  rw [if_neg (Nat.not_le.mpr hLen), hFree, if_neg (by simp)]
  exact ⟨_, rfl, rfl, rfl⟩

/- A submission that is sent at once. -/
theorem sendAtOnce_returns_iff
    {s : RateLimiter}
    {pkt : Packet}
    {input : SubmitInput}
    (hQueue : s.queue = q)
    (hHolds : q.Holds tx rtx)
    (hLoose : q.Loose tx rtx input.address container)
    (hPacket : container.packet = pkt)
    (hLen : container.pktLen ≤ q.params.rtxMaxSize) :
    (∃ result, sendAtOnce input pkt s = .ok result) ↔
      q.KeptSumFits input.rtxClock pkt := by
  unfold sendAtOnce
  rw [returns_bind_iff (fun _ _ => ⟨_, rfl⟩), hQueue]
  exact
    keepSentPacket_returns_iff hHolds hLoose hPacket hLen

/- A submission that goes to the queue. -/
theorem enqueue_returns_iff
    {s : RateLimiter}
    (hQueue : s.queue = q)
    (hHolds : q.Holds tx rtx)
    (hLoose : q.Loose tx rtx address container) :
    (∃ result, enqueue address s = .ok result) ↔
      q.txSize + container.pktLen < 2 ^ 31 := by
  unfold enqueue
  rw [returns_bind_iff (fun _ _ => ⟨_, rfl⟩), hQueue]
  exact addPacketTXqueue_returns_iff hHolds hLoose

/- The first packet that has to wait. -/
theorem planAndEnqueue_returns
    {s : RateLimiter}
    (hQueue : s.queue = q)
    (hHolds : q.Holds [] rtx)
    (hLoose : q.Loose [] rtx address container)
    (hLen : container.pktLen < 2 ^ 31)
    (hRate : 0 < s.drainRate) :
    ∃ result,
      planAndEnqueue address container.pktLen s =
        .ok result := by
  rcases planFreeSpaceInBucketEvent_spec
      hLoose.wellSized.nonneg hRate with
    ⟨txTime, _, _, hPlan⟩
  unfold planAndEnqueue
  rw [hPlan, ok_bind,
    returns_bind_iff (fun _ _ => ⟨_, rfl⟩)]
  refine (enqueue_returns_iff ?_ hHolds hLoose).mpr ?_
  · exact hQueue
  rw [hHolds.txSize, totalSize_nil]
  omega

/-
  A submission returns just if the sum it forms is an `int`.
-/
theorem queueOrSendPacket_returns_iff
    {s : RateLimiter}
    {pkt : Packet}
    {input : SubmitInput}
    (hHolds : s.queue.Holds tx rtx)
    (hPriority : pkt.priority = 0)
    (hKeep : pkt.pktLen ≤ s.queue.params.rtxMaxSize)
    (hSupplied :
      (RateEvent.queueOrSendPacket pkt input).Supplied s) :
    (∃ result, queueOrSendPacket input pkt s = .ok result) ↔
      s.SumsFit (.queueOrSendPacket pkt input) := by
  rcases
      createPacketContainer_returns hSupplied.1
        hSupplied.2 with
    ⟨queue, hCreate, hSame, hSameSize⟩
  rcases createPacketContainer_spec hHolds hCreate with
    ⟨hHolds₁, hParams, container, hPacket, hLoose⟩
  have hLen : container.pktLen = pkt.pktLen :=
    hPacket ▸ hLoose.wellSized
  have hLow : pkt.priority &&& SendJob.hp = 0 := by
    rw [hPriority]
    rfl
  have hFits :=
    keptSumFits_iff hHolds hHolds₁ hParams input.rtxClock pkt
  have hEmpty : isQueueEmpty queue = isQueueEmpty s.queue := by
    unfold isQueueEmpty
    rw [hSame]
  rw [queueOrSendPacket, RateLimiter.SumsFit, hCreate, ok_bind,
    if_pos hLow, hEmpty]
  cases hIdle : isQueueEmpty s.queue with
  | false =>
      rw [if_pos rfl, if_neg Bool.false_ne_true,
        enqueue_returns_iff rfl hHolds₁ hLoose, hLen,
        hSameSize]
  | true =>
      have hNil : tx = [] := hHolds.isQueueEmpty_iff.mp hIdle
      subst hNil
      have hCode :=
        outputRateControl_code pkt.pktLen input.rateClock s
          queue
      rw [if_neg (by simp), if_pos rfl, ← hCode]
      rcases outputRateControl_spec pkt.pktLen
          input.rateClock { s with queue := queue } with
        ⟨bytes, ⟨hControl, _⟩ | ⟨hControl, hRate, _⟩⟩
      · simp only [hControl, forall_const]
        rw [← hFits]
        refine
          sendAtOnce_returns_iff rfl hHolds₁ hLoose hPacket ?_
        rw [hLen, hParams]
        exact hKeep
      · simp only [hControl]
        rw [← hLen]
        constructor
        · intro _ hOk
          cases hOk
        · intro _
          refine
            planAndEnqueue_returns rfl hHolds₁ hLoose ?_ hRate
          rw [hLen]
          exact_mod_cast hSupplied.1

/- After a round the packets behind the first one wait. -/
theorem RateLimiter.sendFirst_waits
    {round : DrainRound}
    {s s' : RateLimiter}
    {node : Nat × PacketContainer}
    (hHolds : s.queue.Holds (node :: tx) rtx)
    (hSend : s.sendFirst round node.2.packet = .ok s') :
    s'.queue.Waits tx ∧
      s'.queue.params = s.queue.params := by
  rcases takePacketToSend_spec hHolds with
    ⟨queue, hTake, hParams, hTaken, hLoose⟩
  unfold RateLimiter.sendFirst at hSend
  rw [hTake, ok_bind] at hSend
  rcases bind_eq_ok hSend with ⟨kept, hKeep, hRest⟩
  cases hRest
  have hKept := keepSentPacket_waits hTaken hLoose hKeep
  exact ⟨hKept.1, hKept.2.trans hParams⟩

/- A round that sends the packet in front can keep it. -/
theorem drain_cons_returns_iff
    {round : DrainRound}
    {rounds : List DrainRound}
    {s s' : RateLimiter}
    {node : Nat × PacketContainer}
    (hHolds : s.queue.Holds (node :: tx) rtx)
    (hKeep : node.2.pktLen ≤ s.queue.params.rtxMaxSize)
    (hControl :
      outputRateControl node.2.pktLen round.rateClock s =
        (.ok, s'))
    (hSame : s'.queue = s.queue) :
    (∃ result, drain (round :: rounds) s = .ok result) ↔
      s.queue.KeptSumFits round.rtxClock node.2.packet ∧
        ∀ s'',
          s'.sendFirst round node.2.packet = .ok s'' →
            ∃ result, drain rounds s'' = .ok result := by
  rcases takePacketToSend_spec hHolds with
    ⟨queue, hTake, hParams, hTaken, hLoose⟩
  have hBusy : ¬ isQueueEmpty s.queue = true := by
    rw [hHolds.isQueueEmpty_iff]
    exact List.cons_ne_nil _ _
  have hFits :=
    keptSumFits_iff hHolds hTaken hParams round.rtxClock
      node.2.packet
  rw [drain, RateLimiter.sendFirst, if_neg hBusy,
    hHolds.getFirstPacketSize_eq, ok_bind]
  simp only [hControl, hSame, hTake, ok_bind,
    deref_eq hLoose.cell]
  rw [← hFits,
    ← keepSentPacket_returns_iff hTaken hLoose rfl
      (by rw [hParams]; exact hKeep)]
  cases hSend :
      keepSentPacket round.rtxClock round.rtxStamp
        node.2.packet.priority node.1 queue with
  | error fault =>
      constructor
      · rintro ⟨result, hOk⟩
        rw [error_bind] at hOk
        cases hOk
      · rintro ⟨⟨q', hOk⟩, _⟩
        cases hOk
  | ok kept =>
      rw [ok_bind, ok_bind,
        returns_bind_iff (fun _ _ => ⟨_, rfl⟩)]
      constructor
      · intro hRest
        refine ⟨⟨kept, rfl⟩, ?_⟩
        intro s'' hOk
        cases hOk
        exact hRest
      · rintro ⟨_, hRest⟩
        exact hRest _ rfl

/- A round that leaves the packet in front plans the next. -/
theorem drain_throttled_returns
    {round : DrainRound}
    {rounds : List DrainRound}
    {s : RateLimiter}
    {node : Nat × PacketContainer}
    {bytes : Int}
    (hHolds : s.queue.Holds (node :: tx) rtx)
    (hControl :
      outputRateControl node.2.pktLen round.rateClock s =
        (.throttle, s.setBucket bytes round.rateClock))
    (hRate :
      0 < (s.setBucket bytes round.rateClock).drainRate) :
    ∃ result, drain (round :: rounds) s = .ok result := by
  have hLen := (hHolds.wellSized node (by simp)).nonneg
  have hBusy : ¬ isQueueEmpty s.queue = true := by
    rw [hHolds.isQueueEmpty_iff]
    exact List.cons_ne_nil _ _
  rcases planFreeSpaceInBucketEvent_spec hLen hRate with
    ⟨txTime, _, _, hPlan⟩
  unfold drain
  rw [if_neg hBusy, hHolds.getFirstPacketSize_eq, ok_bind]
  simp only [hControl, RateLimiter.setBucket_queue]
  rw [hHolds.getFirstPacketSize_eq, ok_bind, hPlan]
  exact ⟨_, rfl⟩

/-
  A firing of the callback returns just if every packet it
  sends can be kept.
-/
theorem drain_returns_iff
    {rounds : List DrainRound}
    {s : RateLimiter}
    (hWaits : s.queue.Waits tx)
    (hKeep :
      ∀ node ∈ tx,
        node.2.pktLen ≤ s.queue.params.rtxMaxSize)
    (hRounds : tx.length ≤ rounds.length) :
    (∃ result, drain rounds s = .ok result) ↔
      s.RoundsFit rounds := by
  induction rounds generalizing s tx with
  | nil =>
      have hNil : tx = [] :=
        List.length_eq_zero_iff.mp (Nat.le_zero.mp hRounds)
      rcases hWaits with ⟨rtx, hHolds⟩
      have hIdle := hHolds.isQueueEmpty_iff.mpr hNil
      unfold drain RateLimiter.RoundsFit
      rw [if_pos hIdle]
      exact ⟨fun _ => trivial, fun _ => ⟨_, rfl⟩⟩
  | cons round rounds ih =>
      rcases hWaits with ⟨rtx, hHolds⟩
      unfold RateLimiter.RoundsFit
      rw [hHolds.waiting_eq]
      cases tx with
      | nil =>
          have hIdle := hHolds.isQueueEmpty_iff.mpr rfl
          unfold drain
          rw [if_pos hIdle]
          exact ⟨fun _ => trivial, fun _ => ⟨_, rfl⟩⟩
      | cons node tx =>
          rcases outputRateControl_spec node.2.pktLen
              round.rateClock s with
            ⟨bytes, ⟨hControl, _⟩ | ⟨hControl, hRate, _⟩⟩
          · simp only [hControl]
            rw [drain_cons_returns_iff hHolds
              (hKeep node List.mem_cons_self) hControl rfl]
            apply and_congr_right
            intro _
            apply forall_congr'
            intro s''
            apply forall_congr'
            intro hSend
            have hSent :=
              RateLimiter.sendFirst_waits
                (s := s.setBucket bytes round.rateClock)
                hHolds hSend
            apply ih hSent.1
            · intro other hMem
              rw [hSent.2]
              exact hKeep other (List.mem_cons_of_mem _ hMem)
            · exact Nat.le_of_succ_le_succ hRounds
          · simp only [hControl]
            exact
              ⟨fun _ => trivial,
                fun _ =>
                  drain_throttled_returns hHolds hControl
                    hRate⟩

end Returning

------------------------------------------------------------
-- Order
------------------------------------------------------------

/-
  A submission of priority 0 that can be kept, or a firing of
  the callback: what happens while the parameters are fixed.
-/
def RateEvent.Ordinary (params : QueueParams) :
    RateEvent → Prop
| .queueOrSendPacket pkt _ =>
    pkt.priority = 0 ∧ pkt.pktLen ≤ params.rtxMaxSize
| .freeSpaceInBucket _ _ => True
| .setOutputRateParams _ _ _ => False
| .setQueuesParams _ => False

/- The size of the queue is the sum of the packet sizes. -/
theorem totalSize_eq_sum
    {nodes : List (Nat × PacketContainer)}
    (hSized : ∀ node ∈ nodes, node.2.WellSized) :
    totalSize nodes =
      ((packetsOf nodes).map
        (fun pkt => (pkt.pktLen : Int))).sum := by
  induction nodes with
  | nil => rfl
  | cons node nodes ih =>
      have hRest :=
        ih (fun other hMem =>
          hSized other (List.mem_cons_of_mem _ hMem))
      rw [totalSize_cons, hRest,
        hSized node List.mem_cons_self]
      rfl

/-
  The packets that wait, within the limit of the queue, each
  of them small enough to be kept.
-/
structure WaitsWithin
    (params : QueueParams)
    (s : RateLimiter)
    (tx : List (Nat × PacketContainer)) : Prop where
  waits : s.queue.Waits tx
  params_eq : s.queue.params = params
  size_le : totalSize tx ≤ params.txMaxSize
  keepable :
    ∀ node ∈ tx, node.2.pktLen ≤ params.rtxMaxSize

namespace WaitsWithin

variable {params : QueueParams}
variable {s s' : RateLimiter}
variable {tx : List (Nat × PacketContainer)}
variable {outputs : List RateOutput}

/- A submission appends its packet or sends it at once. -/
theorem submit
    {pkt : Packet}
    {input : SubmitInput}
    (hWithin : WaitsWithin params s tx)
    (hOrdinary :
      (RateEvent.queueOrSendPacket pkt input).Ordinary params)
    (hEffect : SubmitEffect s tx pkt s' outputs) :
    ∃ tx' : List (Nat × PacketContainer),
      WaitsWithin params s' tx' ∧
        packetsOf tx ++
            acceptedPackets
              ⟨s, .queueOrSendPacket pkt input, outputs,
                s'⟩ =
          outputs.filterMap RateOutput.sent? ++
            packetsOf tx' := by
  rcases hOrdinary with ⟨hPriority, hKeep⟩
  cases hEffect with
  | sent hTurn hCode hLimits hPending hWaits =>
      have hNil : tx = [] := by
        apply (hTurn _).1
        rw [hPriority]
        rfl
      subst hNil
      refine ⟨[], ?_, ?_⟩
      · exact
          { waits := hWaits
            params_eq :=
              hLimits.params.trans hWithin.params_eq
            size_le := hWithin.size_le
            keepable := hWithin.keepable }
      · simp [acceptedPackets, RateOutput.sent?, hCode.symm]
  | @waits plans node hPriority hPlans hFits hLimits hPacket
      hWaits =>
      have hOutputs := hPlans.outputs_eq
      have hSized : node.2.pktLen = pkt.pktLen := by
        rcases hWaits with ⟨rtx, hHolds⟩
        rw [← hPacket]
        apply hHolds.wellSized
        simp
      rw [hWithin.params_eq] at hFits
      refine ⟨tx ++ [node], ?_, ?_⟩
      · refine
          { waits := hWaits
            params_eq :=
              hLimits.params.trans hWithin.params_eq
            size_le := ?_
            keepable := ?_ }
        · simp only [totalSize_append, totalSize_cons,
            totalSize_nil, hSized]
          omega
        · intro other hMem
          rcases List.mem_append.mp hMem with hOld | hNew
          · exact hWithin.keepable other hOld
          · rcases List.mem_singleton.mp hNew with rfl
            rw [hSized]
            exact hKeep
      · simp [acceptedPackets, hOutputs, RateOutput.sent?,
          hPacket]
  | refused _ hPlans hLarge hLimits hWaits =>
      have hOutputs := hPlans.outputs_eq
      refine ⟨tx, ?_, ?_⟩
      · exact
          { hWithin with
            waits := hWaits
            params_eq :=
              hLimits.params.trans hWithin.params_eq }
      · simp [acceptedPackets, hOutputs, RateOutput.sent?]

/- A drain takes packets from the front and sends them. -/
theorem drain
    {sent rest : List (Nat × PacketContainer)}
    (hWithin : WaitsWithin params s (sent ++ rest))
    (hEffect : DrainEffect s sent rest s' outputs) :
    WaitsWithin params s' rest ∧
      packetsOf (sent ++ rest) =
        outputs.filterMap RateOutput.sent? ++
          packetsOf rest := by
  constructor
  · refine
      { waits := hEffect.waits
        params_eq :=
          hEffect.limits.params.trans hWithin.params_eq
        size_le := ?_
        keepable := ?_ }
    · rcases hWithin.waits with ⟨rtx, hHolds⟩
      have hSent : 0 ≤ totalSize sent := by
        apply totalSize_nonneg
        intro node hMem
        apply hHolds.wellSized
        simp [hMem]
      have hSize := hWithin.size_le
      rw [totalSize_append] at hSize
      omega
    · intro node hMem
      exact hWithin.keepable node
        (List.mem_append_right _ hMem)
  · rw [hEffect.sent_eq, packetsOf_append]

/- An event that fires leaves the queues as they are. -/
theorem fired
    (hWithin : WaitsWithin params s tx)
    (fired : Nat) :
    WaitsWithin params
      { s with pending := s.pending.eraseIdx fired } tx :=
  { hWithin with }

/- One step: what leaves was at the front. -/
theorem step
    (transition : RateTransition)
    {tx : List (Nat × PacketContainer)}
    (hStep :
      RateLimiter.Step transition.pre transition.event
        transition.outputs transition.post)
    (hOrdinary : transition.event.Ordinary params)
    (hWithin : WaitsWithin params transition.pre tx) :
    ∃ tx' : List (Nat × PacketContainer),
      WaitsWithin params transition.post tx' ∧
        packetsOf tx ++ acceptedPackets transition =
          sentPackets transition ++ packetsOf tx' := by
  rcases transition with ⟨pre, event, outputs, post⟩
  cases event with
  | queueOrSendPacket pkt input =>
      exact hWithin.submit hOrdinary
        (queueOrSendPacket_spec hWithin.waits hStep)
  | freeSpaceInBucket fired rounds =>
      have hFired := hWithin.fired fired
      rcases drain_spec hFired.waits hStep with
        ⟨sent, rest, rfl, hEffect⟩
      rcases hFired.drain hEffect with ⟨hRest, hOrder⟩
      refine ⟨rest, hRest, ?_⟩
      unfold acceptedPackets
      rw [List.append_nil]
      exact hOrder
  | setOutputRateParams bucketsize drainrate now =>
      exact absurd hOrdinary id
  | setQueuesParams params' => exact absurd hOrdinary id

/- The next ordinary call has no fault of the queue. -/
theorem sound
    (hWithin : WaitsWithin params s tx)
    {event : RateEvent}
    (hOrdinary : event.Ordinary params) :
    Sound True (s.handle event) := by
  cases event with
  | queueOrSendPacket pkt input =>
      apply queueOrSendPacket_sound pkt input hWithin.waits
      intro _
      rw [hWithin.params_eq]
      exact hOrdinary.2
  | freeSpaceInBucket fired rounds =>
      have hFired := hWithin.fired fired
      apply drain_sound hFired.waits
      intro _ node hMem
      rw [hFired.params_eq]
      exact hFired.keepable node hMem
  | setOutputRateParams bucketsize drainrate now =>
      exact absurd hOrdinary id
  | setQueuesParams params' => exact absurd hOrdinary id

/-
  The next ordinary call with what it needs from the system
  returns just if the sums it forms are `int`s.
-/
theorem returns_iff
    (hWithin : WaitsWithin params s tx)
    {event : RateEvent}
    (hOrdinary : event.Ordinary params)
    (hSupplied : event.Supplied s) :
    (∃ (s' : RateLimiter) (outputs : List RateOutput),
        s.Step event outputs s') ↔
      s.SumsFit event := by
  rcases hWithin.waits with ⟨rtx, hHolds⟩
  have hCall :
      (∃ (s' : RateLimiter) (outputs : List RateOutput),
          s.Step event outputs s') ↔
        ∃ result, s.handle event = .ok result :=
    ⟨fun ⟨s', outputs, hOk⟩ => ⟨(s', outputs), hOk⟩,
      fun ⟨result, hOk⟩ => ⟨result.1, result.2, hOk⟩⟩
  rw [hCall]
  cases event with
  | queueOrSendPacket pkt input =>
      apply queueOrSendPacket_returns_iff hHolds hOrdinary.1
        _ hSupplied
      rw [hWithin.params_eq]
      exact hOrdinary.2
  | freeSpaceInBucket fired rounds =>
      have hFired := hWithin.fired fired
      apply drain_returns_iff hFired.waits
      · intro node hMem
        rw [hFired.params_eq]
        exact hFired.keepable node hMem
      · rw [← hHolds.waiting_eq]
        exact hSupplied
  | setOutputRateParams bucketsize drainrate now =>
      exact absurd hOrdinary id
  | setQueuesParams params' => exact absurd hOrdinary id

/- Empty queues are within a limit that is not negative. -/
theorem initial
    {start : RateLimiter}
    (hEmpty : start.queue = OutputQueue.initial params)
    (hTxMax : 0 ≤ params.txMaxSize) :
    WaitsWithin params start [] := by
  refine
    { waits := ⟨[], ?_⟩
      params_eq := by rw [hEmpty]; rfl
      size_le := hTxMax
      keepable := fun _ hMem => absurd hMem List.not_mem_nil }
  rw [hEmpty]
  exact OutputQueue.holds_initial params

/- A run: what leaves was in front of what waits. -/
theorem run
    {start : RateLimiter}
    {trace : List RateTransition}
    (hStart : WaitsWithin params start [])
    (hOrdinary :
      ∀ transition ∈ trace, transition.event.Ordinary params)
    (hRun : Run RateLimiter.Step start trace s) :
    ∃ tx : List (Nat × PacketContainer),
      WaitsWithin params s tx ∧
        trace.flatMap sentPackets ++ packetsOf tx =
          trace.flatMap acceptedPackets := by
  rcases
      Run.fifo
        (fun s content =>
          ∃ tx, WaitsWithin params s tx ∧
            packetsOf tx = content)
        acceptedPackets sentPackets
        (fun transition => transition.event.Ordinary params)
        (by
          rintro transition content hStep hEvent
            ⟨tx, hWithin, rfl⟩
          rcases hWithin.step _ hStep hEvent with
            ⟨tx', hWithin', hOrder⟩
          exact ⟨_, ⟨tx', hWithin', rfl⟩, hOrder⟩)
        hRun hOrdinary ⟨[], hStart, rfl⟩ with
    ⟨content, ⟨tx, hWithin, rfl⟩, hOrder⟩
  exact ⟨tx, hWithin, hOrder.symm⟩

end WaitsWithin

/-
  Over every run with fixed parameters that starts with empty
  queues, the packets that were sent, followed by those that
  wait, are the accepted ones in the order of submission.
  The size of the queue is the sum of what waits and within
  its limit, its pointers are those of a proper list, and no
  further call uses a wrong pointer or fails to return.  It
  goes through just if the sums it forms are `int`s.
-/
theorem packets_leave_in_order
    {params : QueueParams}
    {start s : RateLimiter}
    {trace : List RateTransition}
    (hEmpty : start.queue = OutputQueue.initial params)
    (hTxMax : 0 ≤ params.txMaxSize)
    (hOrdinary :
      ∀ transition ∈ trace, transition.event.Ordinary params)
    (hRun : Run RateLimiter.Step start trace s) :
    ∃ tx : List (Nat × PacketContainer),
      LinkedQueue.Holds s.queue.heap s.queue.txQueue tx ∧
        trace.flatMap sentPackets ++ packetsOf tx =
          trace.flatMap acceptedPackets ∧
        s.queue.txSize =
          ((packetsOf tx).map
            (fun pkt => (pkt.pktLen : Int))).sum ∧
        s.queue.txSize ≤ params.txMaxSize ∧
        (s.queue.txQueue.head = none ↔
          s.queue.txQueue.tail = none) ∧
        s.queue.txQueue.tail = LinkedQueue.lastAddress tx ∧
        ∀ event : RateEvent,
          event.Ordinary params →
            Sound True (s.handle event) ∧
              (event.Supplied s →
                ((∃ (s' : RateLimiter)
                      (outputs : List RateOutput),
                    s.Step event outputs s') ↔
                  s.SumsFit event)) := by
  rcases
      (WaitsWithin.initial hEmpty hTxMax).run hOrdinary
        hRun with
    ⟨tx, hWithin, hOrder⟩
  rcases hWithin.waits with ⟨rtx, hHolds⟩
  have hSized : ∀ node ∈ tx, node.2.WellSized := by
    intro node hMem
    exact hHolds.wellSized node (List.mem_append_left _ hMem)
  have hHead := hHolds.txHolds.path.start_eq_none_iff
  refine ⟨tx, hHolds.txHolds, hOrder, ?_, ?_, ?_,
    hHolds.txTail, ?_⟩
  · rw [hHolds.txSize, totalSize_eq_sum hSized]
  · rw [hHolds.txSize]
    exact hWithin.size_le
  · rw [hHolds.txTail, LinkedQueue.lastAddress_eq_none_iff]
    exact hHead
  · intro event hEvent
    exact ⟨hWithin.sound hEvent, hWithin.returns_iff hEvent⟩

------------------------------------------------------------
-- Sample Runs
------------------------------------------------------------

namespace Sample

/- The first event fires after ten seconds. -/
def firing : RateEvent :=
  let round : DrainRound :=
    { rateClock := ⟨10, 0⟩
      bibClock := ⟨10, 0⟩
      rtxClock := ⟨10, 0⟩
      rtxStamp := ⟨10, 0⟩
      result := .sent }
  .freeSpaceInBucket 0 [round, round]

/- One packet is sent at once, two wait, one of them goes. -/
def submissionsAndFiring : List RateEvent :=
  [submission 16, submission 32, submission 48, firing]

theorem submissionsAndFiring_ordinary :
    ∀ event ∈ submissionsAndFiring,
      event.Ordinary queueParams := by
  have hSubmission (address : Nat) :
      (submission address).Ordinary queueParams := by
    refine ⟨rfl, ?_⟩
    rw [queuedPacket_pktLen]
    decide
  intro event hMem
  simp only [submissionsAndFiring, List.mem_cons,
    List.not_mem_nil, or_false] at hMem
  rcases hMem with rfl | rfl | rfl | rfl
  · exact hSubmission 16
  · exact hSubmission 32
  · exact hSubmission 48
  · exact trivial

end Sample

/- The first packet is gone, and the others keep their order. -/
theorem submissionsAndFiring_in_order :
    ∃ (trace : List RateTransition) (s : RateLimiter)
        (tx : List (Nat × PacketContainer)),
      trace.map Transition.event =
          Sample.submissionsAndFiring ∧
        Run RateLimiter.Step (Sample.limiter 200) trace s ∧
        trace.flatMap sentPackets ++ packetsOf tx =
          trace.flatMap acceptedPackets ∧
        s.queue.txSize ≤ Sample.queueParams.txMaxSize ∧
        s.queue.txQueue.tail = LinkedQueue.lastAddress tx ∧
        ∀ event : RateEvent,
          event.Ordinary Sample.queueParams →
            event.Supplied s →
              ((∃ (s' : RateLimiter)
                    (outputs : List RateOutput),
                  s.Step event outputs s') ↔
                s.SumsFit event) := by
  rcases
      @exists_run _ _ _ _ RateLimiter.handle
        (Sample.limiter 200) Sample.submissionsAndFiring
        (fun _ => true) (by decide +kernel) with
    ⟨trace, s, hRun, hEvents, _⟩
  have hEmpty :
      (Sample.limiter 200).queue =
        OutputQueue.initial Sample.queueParams :=
    (setOutputRateParams_frame 200 8000 ⟨0, 0⟩ _).1
  rcases
      packets_leave_in_order hEmpty (by decide)
        (forall_event _ hEvents
          Sample.submissionsAndFiring_ordinary)
        hRun with
    ⟨tx, _, hOrder, _, hSize, _, hTail, hNext⟩
  exact ⟨trace, s, tx, hEvents, hRun, hOrder, hSize, hTail,
    fun event hEvent => (hNext event hEvent).2⟩

------------------------------------------------------------
-- A Queue As Large As An Int
------------------------------------------------------------

namespace Sample

/- The largest limit that the queue can be given. -/
def fullParams : QueueParams :=
  { queueParams with txMaxSize := 2 ^ 31 - 1 }

/- A bucket that admits no packet. -/
def closedLimiter : RateLimiter :=
  setOutputRateParams 0 8000 ⟨0, 0⟩
    (RateLimiter.initial fullParams)

theorem closedLimiter_queue :
    closedLimiter.queue = OutputQueue.initial fullParams :=
  (setOutputRateParams_frame 0 8000 ⟨0, 0⟩ _).1

theorem submission_ordinary
    (address : Nat) :
    (submission address).Ordinary fullParams := by
  refine ⟨rfl, ?_⟩
  rw [queuedPacket_pktLen]
  decide

/- Behind the closed bucket some of the packets wait. -/
structure Filled
    (count : Nat)
    (s : RateLimiter)
    (tx : List (Nat × PacketContainer)) : Prop where
  within : WaitsWithin fullParams s tx
  txSize : s.queue.txSize = count * 123
  bucketSize : s.bucketSize = 0
  drainRate : s.drainRate = 1000

namespace Filled

variable {count : Nat}
variable {s s' : RateLimiter}
variable {tx : List (Nat × PacketContainer)}

/- The heap is finite, so some address is free. -/
theorem exists_supplied
    (s : RateLimiter) :
    ∃ address, (submission address).Supplied s := by
  rcases
      Infinite.exists_notMem_finset
        s.queue.heap.keys.toFinset with
    ⟨address, hFree⟩
  refine ⟨address, ?_, ?_⟩
  · rw [queuedPacket_pktLen]
    decide
  · rw [List.mem_toFinset] at hFree
    exact AList.lookup_eq_none.mpr hFree

/- The closed bucket refuses the packet at any time. -/
theorem not_admitted
    (hFilled : Filled count s tx)
    (now : Timeval) :
    (outputRateControl queuedPacket.pktLen now s).1 ≠ .ok := by
  have hDrained := s.drained_nonneg now
  have hRate := hFilled.drainRate
  rcases outputRateControl_spec queuedPacket.pktLen now s
    with ⟨bytes, ⟨_, hFits⟩ | ⟨hControl, _⟩⟩
  · have hIn := hFits (by omega)
    rw [hFilled.bucketSize, queuedPacket_pktLen] at hIn
    omega
  · rw [hControl]
    exact fun hOk => by cases hOk

/- While the sum is an `int` the next packet waits too. -/
theorem step
    (hFilled : Filled count s tx)
    (hFits : (count + 1) * 123 < 2 ^ 31) :
    ∃ (address : Nat) (outputs : List RateOutput)
        (s' : RateLimiter)
        (tx' : List (Nat × PacketContainer)),
      s.Step (submission address) outputs s' ∧
        Filled (count + 1) s' tx' := by
  rcases exists_supplied s with ⟨address, hSupplied⟩
  have hOrdinary := submission_ordinary address
  have hSums : s.SumsFit (submission address) := by
    rw [submission, RateLimiter.SumsFit]
    split
    · intro hOk
      exact absurd hOk (hFilled.not_admitted _)
    · rw [hFilled.txSize, queuedPacket_pktLen]
      omega
  rcases
      (hFilled.within.returns_iff hOrdinary hSupplied).mpr
        hSums with
    ⟨s', outputs, hStep⟩
  rcases
      hFilled.within.step
        ⟨s, submission address, outputs, s'⟩ hStep
        hOrdinary with
    ⟨tx', hWithin', _⟩
  refine ⟨address, outputs, s', tx', hStep, ?_⟩
  have hSize := hFilled.txSize
  have hRate := hFilled.drainRate
  have hBucket := hFilled.bucketSize
  rcases hFilled.within.waits with ⟨rtx, hHolds⟩
  have hTotal := hHolds.txSize
  cases queueOrSendPacket_spec hFilled.within.waits hStep with
  | sent hTurn hCode hLimits hPending hWaits =>
      have hIn := (hTurn rfl).2 (by omega)
      rw [queuedPacket_pktLen] at hIn
      omega
  | @waits _ node hPriority hPlans hRoom hLimits hPacket
      hWaits =>
      rcases hWaits with ⟨rtx', hHolds'⟩
      have hLen := hHolds'.wellSized node (by simp)
      refine
        { within := hWithin'
          txSize := ?_
          bucketSize := hLimits.bucketSize.trans hBucket
          drainRate := hLimits.drainRate.trans hRate }
      rw [hHolds'.txSize, totalSize_append, totalSize_cons,
        totalSize_nil, hLen, hPacket, queuedPacket_pktLen]
      omega
  | refused hPriority hPlans hLarge hLimits hWaits =>
      rw [hFilled.within.params_eq, queuedPacket_pktLen]
        at hLarge
      have hMax : fullParams.txMaxSize = 2 ^ 31 - 1 := rfl
      omega

/- The next sum is no `int`: the call does not return. -/
theorem overflow
    (hFilled : Filled count s tx)
    (hFull : 2 ^ 31 ≤ (count + 1) * 123)
    {address : Nat}
    (hSupplied : (submission address).Supplied s) :
    s.handle (submission address) = .error .intOverflow := by
  rcases hFilled.within.waits with ⟨rtx, hHolds⟩
  have hSize := hFilled.txSize
  have hLen := queuedPacket_pktLen
  rcases
      createPacketContainer_returns hSupplied.1
        hSupplied.2 with
    ⟨queue, hCreate, _, hSameSize⟩
  rcases createPacketContainer_spec hHolds hCreate with
    ⟨hHolds₁, _, container, hPacket, hLoose⟩
  have hPktLen : container.pktLen = 123 := by
    rw [hLoose.wellSized, hPacket, hLen]
    rfl
  have hBusy : isQueueEmpty queue = false := by
    cases hIdle : isQueueEmpty queue with
    | false => rfl
    | true =>
        have hNil := hHolds₁.isQueueEmpty_iff.mp hIdle
        have hTotal := hHolds.txSize
        rw [hNil, totalSize_nil] at hTotal
        omega
  change queueOrSendPacket _ queuedPacket s = _
  unfold queueOrSendPacket
  rw [hCreate, ok_bind, if_pos (by rfl), if_pos hBusy]
  unfold enqueue
  rcases addPacketTXqueue_spec hHolds₁ hLoose with
    ⟨hOver, _⟩ | ⟨answer, queue', hAdd, _⟩
  · rw [hOver, error_bind]
  · have hInt :=
      (addPacketTXqueue_returns_iff hHolds₁ hLoose).mp
        ⟨_, hAdd⟩
    omega

/- As many packets wait as fit in an `int`. -/
theorem exists_run
    (count : Nat)
    (hFits : count * 123 < 2 ^ 31) :
    ∃ (trace : List RateTransition) (s : RateLimiter)
        (tx : List (Nat × PacketContainer)),
      Run RateLimiter.Step closedLimiter trace s ∧
        (∀ transition ∈ trace,
          transition.event.Ordinary fullParams) ∧
        Filled count s tx := by
  induction count with
  | zero =>
      refine
        ⟨[], closedLimiter, [], Run.nil _,
          fun _ hMem => absurd hMem List.not_mem_nil, ?_⟩
      have hEmpty := closedLimiter_queue
      exact
        { within := WaitsWithin.initial hEmpty (by decide)
          txSize := by rw [hEmpty]; rfl
          bucketSize := rfl
          drainRate := rfl }
  | succ count ih =>
      rcases ih (by omega) with
        ⟨trace, s, tx, hRun, hOrdinary, hFilled⟩
      rcases hFilled.step hFits with
        ⟨address, outputs, s', tx', hStep, hFilled'⟩
      refine ⟨_, s', tx', hRun.snoc hStep, ?_, hFilled'⟩
      intro transition hMem
      rcases List.mem_append.mp hMem with hOld | hNew
      · exact hOrdinary transition hOld
      · rcases List.mem_singleton.mp hNew with rfl
        exact submission_ordinary address

end Filled

end Sample

/-
  With the largest limit, after 17459216 packets of 123 bytes
  that wait, the next one is neither sent nor queued nor
  refused: the sum that is compared is no `int`.
-/
theorem full_queue_overflows :
    ∃ (trace : List RateTransition) (s : RateLimiter)
        (event : RateEvent),
      Sample.closedLimiter.queue =
          OutputQueue.initial Sample.fullParams ∧
        0 ≤ Sample.fullParams.txMaxSize ∧
        (∀ transition ∈ trace,
          transition.event.Ordinary Sample.fullParams) ∧
        Run RateLimiter.Step Sample.closedLimiter trace s ∧
        event.Ordinary Sample.fullParams ∧
        event.Supplied s ∧
        s.queue.txSize = 17459216 * 123 ∧
        s.handle event = .error .intOverflow := by
  rcases
      Sample.Filled.exists_run 17459216 (by decide) with
    ⟨trace, s, tx, hRun, hOrdinary, hFilled⟩
  rcases Sample.Filled.exists_supplied s with
    ⟨address, hSupplied⟩
  refine
    ⟨trace, s, Sample.submission address,
      Sample.closedLimiter_queue, by decide, hOrdinary, hRun,
      Sample.submission_ordinary address, hSupplied,
      hFilled.txSize, ?_⟩
  exact hFilled.overflow (by decide) hSupplied

end ML

end NapaBaselibs
