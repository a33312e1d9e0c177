import NapaBaselibs.ML.QueueOps
import NapaBaselibs.ML.QueueRuns

/-
  The packets kept for retransmission, over runs.

  The list stays proper as long as no search gives away the
  packet at its tail from behind others.  A packet is added
  within the limit just if it is no larger than the limit and
  the sum that is compared is an `int`.  The program itself
  only searches with `keep`, and every run of its rate
  limiter is a run of calls of that kind.

  Key definitions include:
    * `KeptRepresented`, `InsertsWithinBudget`
    * `QueueCall.ByCode`

  Key theorems include:
    * `kept_list_represented_iff`
    * `insertion_within_budget_iff`
    * `RateLimiter.run_uses`
-/

------------------------------------------------------------
-- The List Of Kept Packets
------------------------------------------------------------

namespace NapaBaselibs

namespace ML

/-
  A call takes a proper list of kept packets to the list it
  should, and what the caller gets is not in it.
-/
def KeptRepresented (transition : QueueTransition) : Prop :=
  ∃ rtx rtx' : List (Nat × PacketContainer),
    transition.pre.queue.Keeps rtx ∧
      transition.post.queue.Keeps rtx' ∧
      RtxEffect rtx rtx' transition.event
        transition.outputs ∧
      ∀ a ∈ transition.outputs,
        a ∉ LinkedQueue.addresses rtx'

/- The queues are two lists, whatever packets they hold. -/
def QueueUse.Proper (s : QueueUse) : Prop :=
  ∃ tx rtx, s.Valid (fun _ => True) tx rtx

namespace QueueUse

theorem creates_true
    (event : QueueCall) :
    event.Creates (fun _ => True) := by
  cases event <;> exact trivial

/- A call that does not take the tail keeps a proper list. -/
theorem Proper.step
    {transition : QueueTransition}
    (hProper : transition.pre.Proper)
    (hStep :
      QueueUse.Step transition.pre transition.event
        transition.outputs transition.post)
    (hNot : ¬ transition.pre.TakesLast transition.event) :
    transition.post.Proper ∧ KeptRepresented transition := by
  rcases hProper with ⟨tx, rtx, hValid⟩
  rcases hValid.step hStep (creates_true _) hNot with
    ⟨tx', rtx', hValid', hEffect⟩
  refine
    ⟨⟨tx', rtx', hValid'⟩, rtx, rtx', hValid.holds.keeps,
      hValid'.holds.keeps, hEffect, ?_⟩
  intro a hMem
  rcases hValid'.outside a
      (Valid.outputs_subset hStep hMem) with
    ⟨cell, hOutside, _⟩
  exact hOutside.notRtx

/- A call that leaves a proper list did not take the tail. -/
theorem Proper.not_takesLast
    {transition : QueueTransition}
    (hProper : transition.pre.Proper)
    (hStep :
      QueueUse.Step transition.pre transition.event
        transition.outputs transition.post)
    (hKept : KeptRepresented transition) :
    ¬ transition.pre.TakesLast transition.event := by
  intro hTakes
  rcases hProper with ⟨tx, rtx, hValid⟩
  rcases hKept with ⟨_, rtx', _, hKeeps, _⟩
  exact
    hValid.not_keeps_of_takesLast hStep hTakes rtx' hKeeps

/- A run that never takes the tail goes from list to list. -/
theorem run_proper
    {params : QueueParams}
    {s : QueueUse}
    {trace : List QueueTransition}
    (hRun :
      Run QueueUse.Step (QueueUse.initial params) trace s)
    (hNever :
      ∀ transition ∈ trace,
        ¬ transition.pre.TakesLast transition.event) :
    s.Proper ∧
      ∀ transition ∈ trace, transition.pre.Proper := by
  have hStart : (QueueUse.initial params).Proper :=
    ⟨[], [], Valid.initial _ params⟩
  rcases
      Run.invariant_of_steps QueueUse.Proper
        (fun transition =>
          ¬ transition.pre.TakesLast transition.event)
        (fun _ hStep hNot hProper =>
          (hProper.step hStep hNot).1)
        hRun hNever hStart with
    ⟨hEnd, hAll⟩
  exact ⟨hEnd, fun transition hMem => (hAll _ hMem).1⟩

end QueueUse

/-
  In every run of calls with any arguments: each call leaves
  the queue for retransmission a proper list with its size
  recorded, changed as the call says, just if no search takes
  the packet at the tail from behind others.
-/
theorem kept_list_represented_iff
    {params : QueueParams}
    {s : QueueUse}
    {trace : List QueueTransition}
    (hRun :
      Run QueueUse.Step (QueueUse.initial params) trace s) :
    (∀ transition ∈ trace, KeptRepresented transition) ↔
      ∀ transition ∈ trace,
        ¬ transition.pre.TakesLast transition.event := by
  constructor
  · intro hKept
    have hStart : (QueueUse.initial params).Proper :=
      ⟨[], [], QueueUse.Valid.initial _ params⟩
    have hAll :=
      (Run.invariant_of_steps QueueUse.Proper
        KeptRepresented
        (fun _ hStep hKept hProper =>
          (hProper.step hStep
            (hProper.not_takesLast hStep hKept)).1)
        hRun hKept hStart).2
    intro transition hMem
    exact
      (hAll transition hMem).1.not_takesLast
        (hRun.mem_step hMem) (hKept transition hMem)
  · intro hNever transition hMem
    exact
      (((QueueUse.run_proper hRun hNever).2 transition
        hMem).step (hRun.mem_step hMem)
        (hNever transition hMem)).2

------------------------------------------------------------
-- Keeping A Packet
------------------------------------------------------------

/- The program never searches without `keep`. -/
def QueueCall.ByCode : QueueCall → Prop
| .searchPacketInRTX _ _ _ keep => keep = true
| _ => True

theorem QueueCall.ByCode.not_takesLast
    {s : QueueUse}
    {event : QueueCall}
    (hCode : event.ByCode) :
    ¬ s.TakesLast event := by
  cases event with
  | searchPacketInRTX connID msgSeqNum offset keep =>
      have hKeep : keep = true := hCode
      subst hKeep
      exact id
  | _ => exact id

/-
  The packet is added in a finite number of rounds, without
  a use of a freed container, and if it is no larger than the
  limit, the queue is within the limit and ends with it.
-/
def InsertsWithinBudget
    (now stamp : Timeval)
    (address : Nat)
    (container : PacketContainer)
    (q : OutputQueue) : Prop :=
  ∃ q' : OutputQueue,
    addPacketRTXqueue now stamp address q = .ok q' ∧
      (container.pktLen ≤ q.params.rtxMaxSize →
        q'.rtxSize ≤ q.params.rtxMaxSize ∧
          ∃ kept : List (Nat × PacketContainer),
            q'.Keeps
              (kept ++
                [(address,
                  { container with timeStamp := stamp })]))

/-
  The packet is no larger than the limit, and the first sum
  that is compared with the limit is an `int`.
-/
def KeepsWithin
    (now : Timeval)
    (params : QueueParams)
    (rtx : List (Nat × PacketContainer))
    (pktLen : Int) : Prop :=
  pktLen ≤ params.rtxMaxSize ∧
    totalSize (rtx.dropWhile (isExpired now params)) +
        pktLen <
      2 ^ 31

/- What decides about adding a packet to a proper list. -/
theorem insertsWithinBudget_iff
    {now stamp : Timeval}
    {address : Nat}
    {q : OutputQueue}
    {tx rtx : List (Nat × PacketContainer)}
    {cell : LinkedQueue.Cell PacketContainer}
    (hHolds : q.Holds tx rtx)
    (hOutside : q.Outside tx rtx address cell) :
    InsertsWithinBudget now stamp address cell.value q ↔
      KeepsWithin now q.params rtx cell.value.pktLen := by
  unfold InsertsWithinBudget KeepsWithin
  rcases addPacketRTXqueue_spec now stamp hHolds hOutside
    with
    ⟨hOver, hLarge⟩ | ⟨hInt, ⟨hEndless, hLarge⟩ |
      ⟨q', kept, hAdd, hKept⟩⟩
  · rw [hOver]
    constructor
    · rintro ⟨q', hOk, _⟩
      cases hOk
    · rintro ⟨_, hInt⟩
      omega
  · rw [hEndless]
    constructor
    · rintro ⟨q', hOk, _⟩
      cases hOk
    · rintro ⟨hFits, _⟩
      omega
  · have hFits := hKept.fits
    have hTotal : 0 ≤ totalSize kept := by
      apply totalSize_nonneg
      intro node hMem
      apply hKept.holds.wellSized
      simp [hMem]
    simp only at hFits
    refine
      ⟨fun _ => ⟨by omega, hInt⟩,
        fun _ => ⟨q', hAdd, fun _ => ⟨?_, kept, ?_⟩⟩⟩
    · rw [hKept.holds.rtxSize, totalSize_append,
        totalSize_cons, totalSize_nil, Int.add_zero]
      exact hFits
    · exact hKept.holds.keeps

/-
  After every run of calls as the program makes them, with
  the parameters set to anything at any time, and for every
  container a caller holds: it is added within the limit just
  if it is no larger than the limit and the sum compared is
  an `int`.
-/
theorem insertion_within_budget_iff
    {params : QueueParams}
    {s : QueueUse}
    {trace : List QueueTransition}
    {address : Nat}
    (hRun :
      Run QueueUse.Step (QueueUse.initial params) trace s)
    (hCode :
      ∀ transition ∈ trace, transition.event.ByCode)
    (hOwned : address ∈ s.owned)
    (now stamp : Timeval) :
    ∃ (container : PacketContainer)
        (rtx : List (Nat × PacketContainer)),
      (s.queue.heap.lookup address).map
            LinkedQueue.Cell.value =
          some container ∧
        s.queue.Keeps rtx ∧
        (InsertsWithinBudget now stamp address container
            s.queue ↔
          KeepsWithin now s.queue.params rtx
            container.pktLen) := by
  rcases
      (QueueUse.run_proper hRun
        (fun transition hMem =>
          (hCode transition hMem).not_takesLast)).1 with
    ⟨tx, rtx, hValid⟩
  rcases hValid.outside address hOwned with
    ⟨cell, hOutside, _⟩
  refine
    ⟨cell.value, rtx, ?_, hValid.holds.keeps,
      insertsWithinBudget_iff hValid.holds hOutside⟩
  rw [hOutside.cell]
  rfl

------------------------------------------------------------
-- The Calls Of The Rate Limiter
------------------------------------------------------------

/-
  One state of the queues comes from another by calls as the
  program makes them, and no container is held in between.
-/
def CodeUses (q q' : OutputQueue) : Prop :=
  ∃ trace : List QueueTransition,
    Run QueueUse.Step ⟨q, []⟩ trace ⟨q', []⟩ ∧
      ∀ transition ∈ trace, transition.event.ByCode

namespace CodeUses

variable {q q₁ q' : OutputQueue}
variable {address : Nat}

theorem refl (q : OutputQueue) : CodeUses q q :=
  ⟨[], Run.nil _, fun _ hMem => absurd hMem List.not_mem_nil⟩

theorem trans
    (hFirst : CodeUses q q₁)
    (hSecond : CodeUses q₁ q') :
    CodeUses q q' := by
  rcases hFirst with ⟨first, hRun₁, hCode₁⟩
  rcases hSecond with ⟨second, hRun₂, hCode₂⟩
  refine ⟨first ++ second, hRun₁.append hRun₂, ?_⟩
  intro transition hMem
  rcases List.mem_append.mp hMem with hIn | hIn
  · exact hCode₁ transition hIn
  · exact hCode₂ transition hIn

/- A container is obtained, and handed over again. -/
theorem of_pair
    {get give : QueueCall}
    (hGet :
      QueueUse.Step ⟨q, []⟩ get [address] ⟨q₁, [address]⟩)
    (hGive :
      QueueUse.Step ⟨q₁, [address]⟩ give [] ⟨q', []⟩)
    (hCodeGet : get.ByCode)
    (hCodeGive : give.ByCode) :
    CodeUses q q' := by
  refine
    ⟨_, Run.cons hGet (Run.cons hGive (Run.nil _)), ?_⟩
  intro transition hMem
  rcases List.mem_cons.mp hMem with rfl | hMem
  · exact hCodeGet
  · rcases List.mem_singleton.mp hMem with rfl
    exact hCodeGive

/- What is sent is kept or freed. -/
theorem of_keepSentPacket
    {get : QueueCall}
    {rtxClock rtxStamp : Timeval}
    {priority : UInt8}
    (hGet :
      QueueUse.Step ⟨q, []⟩ get [address] ⟨q₁, [address]⟩)
    (hCode : get.ByCode)
    (hKeep :
      keepSentPacket rtxClock rtxStamp priority address q₁ =
        .ok q') :
    CodeUses q q' := by
  unfold keepSentPacket at hKeep
  split at hKeep
  · refine
      @of_pair _ _ _ _ _
        (.addPacketRTXqueue rtxClock rtxStamp address)
        hGet ?_ hCode trivial
    apply QueueUse.step_iff.mpr
    refine ⟨List.mem_cons_self, ?_⟩
    simp [QueueUse.call, QueueUse.handOver, hKeep]
  · refine
      @of_pair _ _ _ _ _ (.destroyPacketContainer address)
        hGet ?_ hCode trivial
    apply QueueUse.step_iff.mpr
    refine ⟨List.mem_cons_self, ?_⟩
    simp [QueueUse.call, QueueUse.handOver, hKeep]

/- A new container, as its caller gets it. -/
theorem create
    {pkt : Packet}
    (hCreate : createPacketContainer address pkt q = .ok q₁) :
    QueueUse.Step ⟨q, []⟩
        (.createPacketContainer address pkt) [address]
        ⟨q₁, [address]⟩ := by
  apply QueueUse.step_iff.mpr
  refine ⟨trivial, ?_⟩
  simp [QueueUse.call, QueueUse.obtain, hCreate]

/- A packet is queued for sending. -/
theorem of_addPacketTXqueue
    {pkt : Packet}
    {answer : ErrorCode}
    (hCreate : createPacketContainer address pkt q = .ok q₁)
    (hAdd :
      addPacketTXqueue address q₁ = .ok (answer, q')) :
    CodeUses q q' := by
  refine
    @of_pair _ _ _ _ _ (.addPacketTXqueue address)
      (create hCreate) ?_ trivial trivial
  apply QueueUse.step_iff.mpr
  refine ⟨⟨List.mem_cons_self, ?_⟩, ?_⟩
  · unfold createPacketContainer at hCreate
    split at hCreate
    · cases hCreate
    · split at hCreate
      · cases hCreate
      · cases hCreate
        rw [AList.lookup_insert]
        rfl
  · simp [QueueUse.call, QueueUse.handOver, hAdd]

end CodeUses

/- Planning an event leaves the queues alone. -/
theorem planFreeSpaceInBucketEvent_queue
    {bytes : Int}
    {s s' : RateLimiter}
    {outputs : List RateOutput}
    (hPlan :
      planFreeSpaceInBucketEvent bytes s =
        .ok (s', outputs)) :
    s'.queue = s.queue := by
  rcases planFreeSpaceInBucketEvent_ok hPlan with
    ⟨pending, rfl⟩
  rfl

/- Rate control leaves the queues alone. -/
theorem outputRateControl_queue
    (len : Int)
    (now : Timeval)
    (s : RateLimiter) :
    (outputRateControl len now s).2.queue = s.queue := by
  rcases outputRateControl_spec len now s with
    ⟨bytes, ⟨hControl, _⟩ | ⟨hControl, _⟩⟩
  · rw [hControl]
    rfl
  · rw [hControl]
    rfl

/- A submission creates a container and hands it over. -/
theorem queueOrSendPacket_uses
    {input : SubmitInput}
    {pkt : Packet}
    {s s' : RateLimiter}
    {outputs : List RateOutput}
    (hCall :
      queueOrSendPacket input pkt s = .ok (s', outputs)) :
    CodeUses s.queue s'.queue := by
  have hSend :
      ∀ {q : OutputQueue} {s₁ : RateLimiter},
        createPacketContainer input.address pkt s.queue =
            .ok q →
          s₁.queue = q →
            sendAtOnce input pkt s₁ = .ok (s', outputs) →
              CodeUses s.queue s'.queue := by
    intro q s₁ hCreate hQueue hSent
    rcases bind_eq_ok hSent with ⟨queue, hKeep, hRest⟩
    cases hRest
    rw [hQueue] at hKeep
    exact
      CodeUses.of_keepSentPacket (CodeUses.create hCreate)
        trivial hKeep
  have hQueued :
      ∀ {q : OutputQueue} {s₁ s₂ : RateLimiter}
          {answers : List RateOutput},
        createPacketContainer input.address pkt s.queue =
            .ok q →
          s₁.queue = q →
            enqueue input.address s₁ = .ok (s₂, answers) →
              CodeUses s.queue s₂.queue := by
    intro q s₁ s₂ answers hCreate hQueue hAdded
    rcases bind_eq_ok hAdded with
      ⟨⟨answer, queue⟩, hAdd, hRest⟩
    cases hRest
    rw [hQueue] at hAdd
    exact CodeUses.of_addPacketTXqueue hCreate hAdd
  rcases bind_eq_ok hCall with ⟨q, hCreate, hRest⟩
  simp only at hRest
  split at hRest
  · split at hRest
    · exact hQueued hCreate rfl hRest
    · have hSame :=
        outputRateControl_queue pkt.pktLen input.rateClock
          { s with queue := q }
      split at hRest
      · rename_i s'' hControl
        rw [hControl] at hSame
        exact hSend hCreate hSame hRest
      · rename_i code s'' _ hControl
        rw [hControl] at hSame
        rcases bind_eq_ok hRest with
          ⟨⟨planned, plans⟩, hPlan, hRest⟩
        rcases bind_eq_ok hRest with
          ⟨⟨s₂, answers⟩, hAdded, hRest⟩
        cases hRest
        refine hQueued hCreate ?_ hAdded
        rw [planFreeSpaceInBucketEvent_queue hPlan]
        exact hSame
  · exact hSend hCreate rfl hRest

/- A drain takes containers and hands them over. -/
theorem drain_uses
    {rounds : List DrainRound}
    {s s' : RateLimiter}
    {outputs : List RateOutput}
    (hCall : drain rounds s = .ok (s', outputs)) :
    CodeUses s.queue s'.queue := by
  induction rounds generalizing s outputs with
  | nil =>
      unfold drain at hCall
      split at hCall
      · cases hCall
        exact CodeUses.refl _
      · cases hCall
  | cons round rounds ih =>
      unfold drain at hCall
      split at hCall
      · cases hCall
        exact CodeUses.refl _
      · rcases bind_eq_ok hCall with ⟨size, _, hRest⟩
        have hSame :=
          outputRateControl_queue size round.rateClock s
        split at hRest
        · rename_i s₁ hControl
          rw [hControl] at hSame
          simp only at hSame
          rcases bind_eq_ok hRest with
            ⟨⟨taken, q⟩, hTake, hRest⟩
          rw [hSame] at hTake
          have hGet :
              QueueUse.Step ⟨s.queue, []⟩ .takePacketToSend
                taken.toList ⟨q, taken.toList⟩ := by
            apply QueueUse.step_iff.mpr
            refine ⟨trivial, ?_⟩
            simp [QueueUse.call, QueueUse.obtain, hTake]
          cases taken with
          | none =>
              cases hRest
              refine
                ⟨_, Run.cons hGet (Run.nil _), ?_⟩
              intro transition hMem
              rcases List.mem_singleton.mp hMem with rfl
              trivial
          | some address =>
              rcases bind_eq_ok hRest with
                ⟨packet, _, hRest⟩
              rcases bind_eq_ok hRest with
                ⟨kept, hKeep, hRest⟩
              rcases bind_eq_ok hRest with
                ⟨⟨s₂, more⟩, hMore, hRest⟩
              cases hRest
              exact
                (CodeUses.of_keepSentPacket hGet trivial
                  hKeep).trans (ih hMore)
        · rename_i code s₁ _ hControl
          rw [hControl] at hSame
          rcases bind_eq_ok hRest with ⟨next, _, hPlan⟩
          rw [planFreeSpaceInBucketEvent_queue hPlan, hSame]
          exact CodeUses.refl _

/- Every step of the rate limiter is made of such calls. -/
theorem RateLimiter.step_uses
    {s s' : RateLimiter}
    {event : RateEvent}
    {outputs : List RateOutput}
    (hStep : RateLimiter.Step s event outputs s') :
    CodeUses s.queue s'.queue := by
  cases event with
  | queueOrSendPacket pkt input =>
      exact queueOrSendPacket_uses hStep
  | freeSpaceInBucket fired rounds =>
      exact
        drain_uses
          (s :=
            { s with pending := s.pending.eraseIdx fired })
          hStep
  | setOutputRateParams bucketsize drainrate now =>
      cases hStep
      rw [(setOutputRateParams_frame bucketsize drainrate
        now s).1]
      exact CodeUses.refl _
  | setQueuesParams params =>
      cases hStep
      have hSet :
          QueueUse.Step ⟨s.queue, []⟩
            (.setQueuesParams params) []
            ⟨setQueuesParams params s.queue, []⟩ :=
        QueueUse.step_iff.mpr ⟨trivial, rfl⟩
      refine ⟨_, Run.cons hSet (Run.nil _), ?_⟩
      intro transition hMem
      rcases List.mem_singleton.mp hMem with rfl
      trivial

/- So is every run, from the start of the program on. -/
theorem RateLimiter.run_uses
    {s s' : RateLimiter}
    {trace : List RateTransition}
    (hRun : Run RateLimiter.Step s trace s') :
    CodeUses s.queue s'.queue := by
  induction hRun with
  | nil => exact CodeUses.refl _
  | cons hStep _ ih => exact (step_uses hStep).trans ih

------------------------------------------------------------
-- Sample Calls
------------------------------------------------------------

namespace Sample

/- The packet again, as the second one of its message. -/
def laterPacket : Packet :=
  { queuedPacket with
    header := { queuedPacket.header with offset := 100 } }

/- Two packets are kept for retransmission. -/
def twoKept : List QueueCall :=
  [.createPacketContainer 16 queuedPacket,
    .addPacketRTXqueue ⟨1, 0⟩ ⟨1, 0⟩ 16,
    .createPacketContainer 32 laterPacket,
    .addPacketRTXqueue ⟨1, 0⟩ ⟨1, 0⟩ 32]

/- Then a search gives the last packet away. -/
def giveLastAway : List QueueCall :=
  twoKept ++ [.searchPacketInRTX 0 0 100 false]

/- The last packet is held, and linked from the first. -/
def lastStays (s : QueueUse) : Bool :=
  s.owned = [32] &&
    s.queue.rtxQueue = ⟨some 16, some 16⟩ &&
    (s.queue.heap.lookup 16).map LinkedQueue.Cell.next =
      some (some 32)

/- That is no proper list. -/
theorem not_keeps_of_lastStays
    {s : QueueUse}
    (hStays : lastStays s = true)
    (rtx : List (Nat × PacketContainer)) :
    ¬ s.queue.Keeps rtx := by
  intro hKeeps
  simp only [lastStays, Bool.and_eq_true,
    decide_eq_true_eq] at hStays
  rcases hStays with ⟨⟨_, hQueue⟩, hCell⟩
  have hPath := hKeeps.holds.path
  have hTail := hKeeps.holds.tail
  rw [hQueue] at hPath hTail
  rcases hPath.exists_cons with
    ⟨v, next, rest, rfl, hFirst, hRest⟩
  rw [hFirst] at hCell
  cases hCell
  rcases hRest.exists_cons with ⟨w, _, others, rfl, _, _⟩
  have hLast := hTail (List.cons_ne_nil _ _)
  rw [LinkedQueue.lastAddress_cons_cons] at hLast
  exact
    (List.nodup_cons.mp hKeeps.holds.nodup).1
      (LinkedQueue.lastAddress_mem hLast.symm)

/- The second packet is read, and the first one removed. -/
def readAndRemove : List QueueCall :=
  twoKept ++
    [.searchPacketInRTX 0 0 100 true, .removeOldestPacket]

/- A container is created while nothing is kept. -/
def created (params : QueueParams) : List QueueCall :=
  [.setQueuesParams params,
    .createPacketContainer 16 queuedPacket]

/- A limit below the size of the packet. -/
def smallParams : QueueParams :=
  { queueParams with rtxMaxSize := 100 }

/- A third packet, where two of its size are kept already. -/
def thirdCreated : List QueueCall :=
  .setQueuesParams { queueParams with rtxMaxSize := 300 } ::
    twoKept ++ [.createPacketContainer 48 laterPacket]

/- The caller holds the third packet, which is too much. -/
def holdsThird (s : QueueUse) : Bool :=
  s.owned = [48] && s.queue.rtxSize = 246 &&
    (s.queue.heap.lookup 48).map
        (fun cell => cell.value.pktLen) =
      some 123 &&
    s.queue.params.rtxMaxSize = 300 &&
    totalSize
        (s.queue.kept.dropWhile
          (isExpired ⟨1, 0⟩ s.queue.params)) =
      246

/- Keeping the packet does not return. -/
def neverReturns (s : QueueUse) : Bool :=
  match addPacketRTXqueue ⟨1, 0⟩ ⟨1, 0⟩ 16 s.queue with
  | .error .noReturn => true
  | _ => false

end Sample

/- The third packet is kept, within the limit of two. -/
theorem third_packet_kept :
    ∃ (trace : List QueueTransition) (s : QueueUse),
      trace.map Transition.event = Sample.thirdCreated ∧
        Run QueueUse.Step
          (QueueUse.initial Sample.queueParams) trace s ∧
        s.queue.rtxSize = 246 ∧
        s.queue.params.rtxMaxSize = 300 ∧
        ∃ container : PacketContainer,
          (s.queue.heap.lookup 48).map
                LinkedQueue.Cell.value =
              some container ∧
            container.pktLen = 123 ∧
            InsertsWithinBudget ⟨1, 0⟩ ⟨1, 0⟩ 48 container
              s.queue := by
  rcases
      @exists_run _ _ _ _ QueueUse.perform
        (QueueUse.initial Sample.queueParams)
        Sample.thirdCreated
        (fun result => Sample.holdsThird result.2)
        (by decide +kernel) with
    ⟨trace, s, hRun, hEvents, hHolds⟩
  have hCode :
      ∀ transition ∈ trace, transition.event.ByCode := by
    apply forall_event QueueCall.ByCode hEvents
    intro event hMem
    simp only [Sample.thirdCreated, Sample.twoKept,
      List.cons_append, List.nil_append, List.mem_cons,
      List.not_mem_nil, or_false] at hMem
    rcases hMem with rfl | rfl | rfl | rfl | rfl | rfl <;>
      exact trivial
  simp only [Sample.holdsThird, Bool.and_eq_true,
    decide_eq_true_eq] at hHolds
  rcases hHolds with
    ⟨⟨⟨⟨hOwned, hKept⟩, hLen⟩, hLimit⟩, hTotal⟩
  rcases
      insertion_within_budget_iff hRun hCode
        (show 48 ∈ s.owned by rw [hOwned]; simp)
        ⟨1, 0⟩ ⟨1, 0⟩ with
    ⟨container, rtx, hCell, hKeeps, hIff⟩
  have hSize : container.pktLen = 123 := by
    rcases Option.map_eq_some_iff.mp hCell with
      ⟨cell, hLookup, rfl⟩
    rw [hLookup] at hLen
    exact Option.some.inj hLen
  refine
    ⟨trace, s, hEvents, hRun, hKept, hLimit, container,
      hCell, hSize, ?_⟩
  rw [hIff]
  constructor
  · rw [hSize, hLimit]
    decide
  · rw [← hKeeps.kept_eq, hTotal, hSize]
    decide

/-
  A packet of 123 bytes with a limit of 100 bytes: the loop
  that makes room does not end.
-/
theorem large_packet_never_kept :
    ∃ (trace : List QueueTransition) (s : QueueUse),
      trace.map Transition.event =
          Sample.created Sample.smallParams ∧
        Run QueueUse.Step
          (QueueUse.initial Sample.queueParams) trace s ∧
        16 ∈ s.owned ∧
        addPacketRTXqueue ⟨1, 0⟩ ⟨1, 0⟩ 16 s.queue =
          .error .noReturn ∧
        ∀ container : PacketContainer,
          ¬ InsertsWithinBudget ⟨1, 0⟩ ⟨1, 0⟩ 16 container
            s.queue := by
  rcases
      @exists_run _ _ _ _ QueueUse.perform
        (QueueUse.initial Sample.queueParams)
        (Sample.created Sample.smallParams)
        (fun result =>
          decide (16 ∈ result.2.owned) &&
            Sample.neverReturns result.2)
        (by decide +kernel) with
    ⟨trace, s, hRun, hEvents, hCheck⟩
  rw [Bool.and_eq_true, decide_eq_true_eq] at hCheck
  have hEndless :
      addPacketRTXqueue ⟨1, 0⟩ ⟨1, 0⟩ 16 s.queue =
        .error .noReturn := by
    have hNever := hCheck.2
    unfold Sample.neverReturns at hNever
    split at hNever
    · assumption
    · cases hNever
  refine ⟨trace, s, hEvents, hRun, hCheck.1, hEndless, ?_⟩
  rintro container ⟨q', hOk, _⟩
  rw [hEndless] at hOk
  cases hOk

/- A run without a search that gives a packet away. -/
theorem readAndRemove_represented :
    ∃ (trace : List QueueTransition) (s : QueueUse),
      trace.map Transition.event = Sample.readAndRemove ∧
        Run QueueUse.Step
          (QueueUse.initial Sample.queueParams) trace s ∧
        s.queue.rtxSize = 123 ∧
        ∀ transition ∈ trace, KeptRepresented transition := by
  rcases
      @exists_run _ _ _ _ QueueUse.perform
        (QueueUse.initial Sample.queueParams)
        Sample.readAndRemove
        (fun result => result.2.queue.rtxSize = 123)
        (by decide +kernel) with
    ⟨trace, s, hRun, hEvents, hSize⟩
  have hNever :
      ∀ transition ∈ trace,
        ¬ transition.pre.TakesLast transition.event := by
    intro transition hMem
    have hEvent :=
      forall_event (· ∈ Sample.readAndRemove) hEvents
        (fun _ hIn => hIn) transition hMem
    simp only [Sample.readAndRemove, Sample.twoKept,
      List.cons_append, List.nil_append, List.mem_cons,
      List.not_mem_nil, or_false] at hEvent
    rcases hEvent with h | h | h | h | h | h <;>
      rw [h] <;> exact id
  exact
    ⟨trace, s, hEvents, hRun, of_decide_eq_true hSize,
      (kept_list_represented_iff hRun).mpr hNever⟩

/-
  The packet at the tail is given away, and it is still
  linked from the packet before it, which has become the
  tail.
-/
theorem last_given_away_stays :
    ∃ (trace : List QueueTransition) (s : QueueUse),
      trace.map Transition.event = Sample.giveLastAway ∧
        Run QueueUse.Step
          (QueueUse.initial Sample.queueParams) trace s ∧
        Sample.lastStays s = true ∧
        ¬ ∀ transition ∈ trace,
          KeptRepresented transition := by
  rcases
      @exists_run _ _ _ _ QueueUse.perform
        (QueueUse.initial Sample.queueParams)
        Sample.giveLastAway
        (fun result => Sample.lastStays result.2)
        (by decide +kernel) with
    ⟨trace, s, hRun, hEvents, hStays⟩
  refine ⟨trace, s, hEvents, hRun, hStays, ?_⟩
  intro hAll
  rcases List.eq_nil_or_concat trace with
    rfl | ⟨first, last, rfl⟩
  · cases hEvents
  · rw [List.concat_eq_append] at hRun hAll
    rcases hAll last (by simp) with
      ⟨_, rtx', _, hKeeps, _⟩
    rw [hRun.split_last.2.2] at hKeeps
    exact Sample.not_keeps_of_lastStays hStays rtx' hKeeps

end ML

end NapaBaselibs
