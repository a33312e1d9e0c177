import NapaBaselibs.ML.Node
import NapaBaselibs.ML.KeptList

/-
  A node and its output queue in one program.

  `send_msg` hands its packets to the output queue one after
  the other and goes on with each answer; `recv_nack_msg`
  reads what the queue keeps.  The events of the rate limiter
  and the calls that set its parameters come in between, so
  connections are opened and closed, numbers start again and
  packets are forgotten in any order.

  Key definitions include:
    * `Transport.over`
    * `Host`, `Host.Step`
    * `RateLimiter.Unlimited`

  Key theorems include:
    * `Host.run_holds`
    * `Host.exists_run`
    * `RateLimiter.Unlimited.exists_run`
-/

------------------------------------------------------------
-- A Node And Its Output Queue
------------------------------------------------------------

namespace NapaBaselibs

namespace ML

/-
  The output queue for one step of the node: its answers are
  those it gives, and what is sent again is what it keeps.
-/
def Transport.over
    (q : OutputQueue) : Transport Unit ErrorCode where
  queueOrSendPacket answer _ _ := some (answer, ())
  rtxPacketsFromTo connID msgSeqNum offsetFrom offsetTo _ :=
    (ML.rtxPacketsFromTo connID msgSeqNum offsetFrom
      offsetTo q).toOption

/- A node with the rate limiter that has its packets. -/
structure Host where
  node : Endpoint Unit
  limiter : RateLimiter

/- What can happen to a host. -/
inductive HostEvent where
  | node (e : Event ErrorCode)
  | limiter (e : RateEvent)

/- The answer of a call of `queueOrSendPacket`. -/
def RateOutput.answer? : RateOutput → Option ErrorCode
| .answer code => some code
| _ => none

/- The packet of a submission, with its answer. -/
def submitted?
    (transition : RateTransition) :
    Option (Packet × ErrorCode) :=
  match transition.event with
  | .queueOrSendPacket pkt _ =>
      (transition.outputs.findSome? RateOutput.answer?).map
        (fun code => (pkt, code))
  | _ => none

/- A packet handed to the output queue, with its answer. -/
def Output.handedOver? : Output → Option (Packet × ErrorCode)
| .packet pkt code => some (pkt, code)
| _ => none

/-
  The rate limiter has taken the packets of a step of the
  node, in their order, and given these answers.
-/
def Submits
    (s : RateLimiter)
    (outputs : List Output)
    (s' : RateLimiter) : Prop :=
  ∃ trace : List RateTransition,
    Run RateLimiter.Step s trace s' ∧
      trace.map submitted? =
        (outputs.filterMap Output.handedOver?).map some

/- A submission is an event of the node. -/
def RateEvent.IsSubmission : RateEvent → Prop
| .queueOrSendPacket _ _ => True
| _ => False

/-
  A step of a host: one of the node, with its packets handed
  over, or one of the rate limiter alone.
-/
inductive Host.Step (p : Platform) :
    Host → HostEvent → List Output → Host → Prop where
  | node
      {s : Host}
      {e : Event ErrorCode}
      {outputs : List Output}
      {node' : Endpoint Unit}
      {limiter' : RateLimiter}
      (hNode :
        NodeStep p (Transport.over s.limiter.queue) s.node e
          outputs node')
      (hSubmits : Submits s.limiter outputs limiter') :
      Host.Step p s (.node e) outputs ⟨node', limiter'⟩
  | limiter
      {s : Host}
      {e : RateEvent}
      {outputs : List RateOutput}
      {limiter' : RateLimiter}
      (hOwn : ¬ e.IsSubmission)
      (hLimiter :
        RateLimiter.Step s.limiter e outputs limiter') :
      Host.Step p s (.limiter e) [] ⟨s.node, limiter'⟩

/- A transition of a host. -/
abbrev HostTransition :=
  Transition Host HostEvent Output

/- A host after initialisation. -/
structure Host.Initial
    (params : QueueParams)
    (s : Host) : Prop where
  node : s.node.Initial
  limiter : s.limiter = RateLimiter.initial params

------------------------------------------------------------
-- The Queues Of A Host
------------------------------------------------------------

/- A step uses the queues as the program does. -/
theorem Host.step_uses
    {p : Platform}
    {s s' : Host}
    {e : HostEvent}
    {outputs : List Output}
    (hStep : Host.Step p s e outputs s') :
    CodeUses s.limiter.queue s'.limiter.queue := by
  cases hStep with
  | node _ hSubmits =>
      rcases hSubmits with ⟨trace, hRun, _⟩
      exact RateLimiter.run_uses hRun
  | limiter _ hLimiter =>
      exact RateLimiter.step_uses hLimiter

theorem Host.run_uses
    {p : Platform}
    {s t : Host}
    {trace : List HostTransition}
    (hRun : Run (Host.Step p) s trace t) :
    CodeUses s.limiter.queue t.limiter.queue := by
  induction hRun with
  | nil => exact CodeUses.refl _
  | cons hStep _ ih => exact (step_uses hStep).trans ih

/- What is reached by the program's calls is a proper list. -/
theorem CodeUses.exists_holds
    {params : QueueParams}
    {q : OutputQueue}
    (hUses : CodeUses (OutputQueue.initial params) q) :
    ∃ tx, q.Holds tx q.kept := by
  rcases hUses with ⟨trace, hRun, hCode⟩
  rcases
      (QueueUse.run_proper hRun
        (fun transition hMem =>
          (hCode transition hMem).not_takesLast)).1 with
    ⟨tx, rtx, hValid⟩
  have hHolds : q.Holds tx rtx := hValid.holds
  rw [hHolds.keeps.kept_eq]
  exact ⟨tx, hHolds⟩

/- In every run of a host both queues are proper lists. -/
theorem Host.run_holds
    {p : Platform}
    {params : QueueParams}
    {s t : Host}
    {trace : List HostTransition}
    (hStart : s.Initial params)
    (hRun : Run (Host.Step p) s trace t) :
    ∃ tx, t.limiter.queue.Holds tx t.limiter.queue.kept := by
  have hUses := run_uses hRun
  rw [hStart.limiter] at hUses
  exact hUses.exists_holds

------------------------------------------------------------
-- Runs From Runs Of The Parts
------------------------------------------------------------

/- What is submitted in two parts is submitted in one run. -/
theorem Submits.split
    {s s' : RateLimiter}
    {first second : List Output}
    (hSubmits : Submits s (first ++ second) s') :
    ∃ s₁, Submits s first s₁ ∧ Submits s₁ second s' := by
  rcases hSubmits with ⟨trace, hRun, hSame⟩
  rw [List.filterMap_append, List.map_append] at hSame
  rcases List.map_eq_append_iff.mp hSame with
    ⟨earlier, later, rfl, hFirst, hSecond⟩
  rcases hRun.split with ⟨s₁, hEarlier, hLater⟩
  exact
    ⟨s₁, ⟨earlier, hEarlier, hFirst⟩,
      ⟨later, hLater, hSecond⟩⟩

/-
  A run of a node whose steps do not depend on what is kept
  is a run of the host, when the rate limiter takes all its
  packets with these answers.
-/
theorem Host.exists_run
    {p : Platform}
    {s t : Endpoint Unit}
    {limiter limiter' : RateLimiter}
    {trace :
      List
        (Transition (Endpoint Unit) (Event ErrorCode) Output)}
    (hRun :
      Run
        (fun s e outputs s' =>
          ∀ q, NodeStep p (Transport.over q) s e outputs s')
        s trace t)
    (hSubmits :
      Submits limiter (trace.flatMap Transition.outputs)
        limiter') :
    ∃ hostTrace : List HostTransition,
      hostTrace.map Transition.event =
          trace.map (fun tr => .node tr.event) ∧
        Run (Host.Step p) ⟨s, limiter⟩ hostTrace
          ⟨t, limiter'⟩ := by
  induction hRun generalizing limiter with
  | nil s =>
      rcases hSubmits with ⟨submissions, hRun, hSame⟩
      have hNil := List.map_eq_nil_iff.mp hSame
      subst hNil
      rw [hRun.eq_of_nil]
      exact ⟨[], rfl, Run.nil _⟩
  | cons hStep _ ih =>
      rw [List.flatMap_cons] at hSubmits
      rcases hSubmits.split with ⟨between, hFirst, hRest⟩
      rcases ih hRest with ⟨hostTrace, hEvents, hHost⟩
      refine
        ⟨_ :: hostTrace, ?_,
          Run.cons (.node (hStep limiter.queue) hFirst)
            hHost⟩
      rw [List.map_cons, List.map_cons, hEvents]

------------------------------------------------------------
-- Submissions That Are Kept
------------------------------------------------------------

/-
  No rate is set, no packet waits, these are kept, and only
  their containers are stored.
-/
structure RateLimiter.Unlimited
    (s : RateLimiter)
    (kept : List (Nat × PacketContainer)) : Prop where
  rate : s.drainRate ≤ 0
  holds : s.queue.Holds [] kept
  stored :
    ∀ a, a ∉ LinkedQueue.addresses kept →
      s.queue.heap.lookup a = none

/- So it is at the start of the program. -/
theorem RateLimiter.unlimited_initial
    (params : QueueParams) :
    (RateLimiter.initial params).Unlimited [] where
  rate := Int.le_refl 0
  holds := OutputQueue.holds_initial params
  stored a _ := AList.lookup_empty a

/- A packet of this priority that fits is sent and kept. -/
theorem RateLimiter.Unlimited.submit
    {s : RateLimiter}
    {kept : List (Nat × PacketContainer)}
    {pkt : Packet}
    {input : SubmitInput}
    (hUnlimited : s.Unlimited kept)
    (hPriority : pkt.priority = 0)
    (hFree : input.address ∉ LinkedQueue.addresses kept)
    (hFresh :
      ∀ node ∈ kept,
        isExpired input.rtxClock s.queue.params node = false)
    (hFits :
      totalSize kept + pkt.pktLen ≤ s.queue.params.rtxMaxSize)
    (hInt : totalSize kept + pkt.pktLen < 2 ^ 31) :
    ∃ s' : RateLimiter,
      RateLimiter.Step s (.queueOrSendPacket pkt input)
          [.sendPacket pkt,
            .answer (sendPacketFinal input.result)] s' ∧
        s'.queue.params = s.queue.params ∧
        s'.Unlimited
          (kept ++
            [(input.address,
              ⟨pkt, pkt.pktLen, input.rtxStamp⟩)]) := by
  have hHolds := hUnlimited.holds
  have hTotal := hHolds.rtxTotal_nonneg
  have hNew : s.queue.heap.lookup input.address = none :=
    hUnlimited.stored _ hFree
  have hCreate :
      ∃ q, createPacketContainer input.address pkt s.queue =
        .ok q := by
    unfold createPacketContainer
    rw [if_neg (by omega), hNew,
      if_neg (by simp)]
    exact ⟨_, rfl⟩
  rcases hCreate with ⟨q, hCreate⟩
  rcases createPacketContainer_spec hHolds hCreate with
    ⟨hHolds₁, hParams, created, hPkt, hLoose⟩
  have hSize : created.pktLen = pkt.pktLen := by
    rw [hLoose.wellSized, hPkt]
  rw [← hParams] at hFits hFresh
  rw [← hSize] at hFits hInt
  rcases
    addPacketRTXqueue_fits input.rtxStamp hHolds₁
      hLoose.outside hFresh hFits hInt with
    ⟨q', hAdd, hKept⟩
  have hLast :
      ({ created with timeStamp := input.rtxStamp } :
        PacketContainer) =
        ⟨pkt, pkt.pktLen, input.rtxStamp⟩ := by
    rw [← hSize, ← hPkt]
  have hHoldsAll := hKept.holds
  simp only [hLast] at hHoldsAll
  have hEmpty : isQueueEmpty q = true :=
    hHolds₁.isQueueEmpty_iff.mpr rfl
  have hHp : pkt.priority &&& SendJob.hp = 0 := by
    rw [hPriority]
    rfl
  have hRtx : pkt.priority &&& SendJob.noRtx = 0 := by
    rw [hPriority]
    rfl
  refine
    ⟨{ s.setBucket 0 input.rateClock with queue := q' }, ?_,
      hKept.params.trans hParams,
      { rate := hUnlimited.rate
        holds := hHoldsAll
        stored := ?_ }⟩
  · unfold RateLimiter.Step RateLimiter.handle
      queueOrSendPacket
    simp only
    rw [hCreate, ok_bind, if_pos hHp, hEmpty,
      if_neg Bool.true_eq_false.mp]
    unfold outputRateControl sendAtOnce keepSentPacket
    rw [if_pos hUnlimited.rate]
    simp only [hRtx, if_true, RateLimiter.setBucket, hAdd,
      ok_bind]
  · intro a hNot
    rw [LinkedQueue.addresses_append] at hNot
    have hOld : a ∉ LinkedQueue.addresses kept :=
      fun hMem => hNot (List.mem_append_left _ hMem)
    have hNe : a ≠ input.address := by
      rintro rfl
      exact hNot (List.mem_append_right _ List.mem_cons_self)
    rw [hKept.frame a hNe hOld,
      createPacketContainer_frame hCreate hNe]
    exact hUnlimited.stored a hOld

/- Packets that fit together are all accepted and kept. -/
theorem RateLimiter.Unlimited.exists_run
    {s : RateLimiter}
    {kept : List (Nat × PacketContainer)}
    {now : Timeval}
    (entries : List (Nat × Packet))
    (hUnlimited : s.Unlimited kept)
    (hNow : ∀ node ∈ kept, node.2.timeStamp = now)
    (hHold : 0 ≤ s.queue.params.maxTimeToHold.tvSec)
    (hPriority : ∀ entry ∈ entries, entry.2.priority = 0)
    (hNodup :
      (LinkedQueue.addresses kept ++
        entries.map Prod.fst).Nodup)
    (hFits :
      totalSize kept +
          ((entries.map (fun entry => entry.2.pktLen)).sum :
            Nat) ≤
        s.queue.params.rtxMaxSize)
    (hInt :
      totalSize kept +
          ((entries.map (fun entry => entry.2.pktLen)).sum :
            Nat) <
        2 ^ 31) :
    ∃ (trace : List RateTransition) (s' : RateLimiter),
      Run RateLimiter.Step s trace s' ∧
        trace.map submitted? =
          entries.map (fun entry => some (entry.2, .ok)) ∧
        packetsOf s'.queue.kept =
          packetsOf kept ++ entries.map Prod.snd := by
  induction entries generalizing s kept with
  | nil =>
      refine ⟨[], s, .nil s, rfl, ?_⟩
      rw [hUnlimited.holds.keeps.kept_eq, List.map_nil,
        List.append_nil]
  | cons entry entries ih =>
      rw [List.map_cons, List.sum_cons] at hFits hInt
      rw [List.map_cons] at hNodup
      have hFree :
          entry.1 ∉ LinkedQueue.addresses kept := by
        intro hMem
        exact
          List.disjoint_of_nodup_append hNodup hMem
            List.mem_cons_self
      have hFresh :
          ∀ node ∈ kept,
            isExpired now s.queue.params node = false := by
        intro node hMem
        unfold isExpired
        rw [hNow node hMem]
        apply decide_eq_false
        omega
      rcases
        @hUnlimited.submit _ _ entry.2
          ⟨entry.1, now, now, now, .sent⟩
          (hPriority entry List.mem_cons_self) hFree hFresh
          (by omega) (by omega) with
        ⟨s₁, hStep, hParams, hUnlimited₁⟩
      have hRest :=
        ih hUnlimited₁ ?_ (by rwa [hParams])
          (fun other hMem =>
            hPriority other (List.mem_cons_of_mem _ hMem))
          ?_ ?_ ?_
      · rcases hRest with ⟨trace, s', hRun, hTrace, hPackets⟩
        refine
          ⟨_ :: trace, s', .cons hStep hRun, ?_, ?_⟩
        · rw [List.map_cons, List.map_cons, hTrace]
          rfl
        · rw [hPackets, packetsOf_append, List.append_assoc]
          rfl
      · intro node hMem
        rcases List.mem_append.mp hMem with hOld | hNew
        · exact hNow node hOld
        · rw [List.mem_singleton.mp hNew]
      · rw [LinkedQueue.addresses_append, List.append_assoc]
        exact hNodup
      · rw [totalSize_append, totalSize_cons, totalSize_nil,
          hParams]
        simp only
        omega
      · rw [totalSize_append, totalSize_cons, totalSize_nil]
        simp only
        omega

/-
  A run of a node alone is a run of the host that keeps all
  packets, when no rate is set and they fit together.
-/
theorem Host.exists_run_kept
    {p : Platform}
    {params : QueueParams}
    {s t : Endpoint Unit}
    {trace :
      List
        (Transition (Endpoint Unit) (Event ErrorCode) Output)}
    (entries : List (Nat × Packet))
    (hRun :
      Run
        (fun s e outputs s' =>
          ∀ q, NodeStep p (Transport.over q) s e outputs s')
        s trace t)
    (hOutputs :
      (trace.flatMap Transition.outputs).filterMap
          Output.handedOver? =
        entries.map (fun entry => (entry.2, .ok)))
    (hHold : 0 ≤ params.maxTimeToHold.tvSec)
    (hPriority : ∀ entry ∈ entries, entry.2.priority = 0)
    (hNodup : (entries.map Prod.fst).Nodup)
    (hFits :
      ((entries.map (fun entry => entry.2.pktLen)).sum : Nat) ≤
        params.rtxMaxSize)
    (hInt :
      (entries.map (fun entry => entry.2.pktLen)).sum <
        2 ^ 31) :
    ∃ (hostTrace : List HostTransition) (t' : Host),
      Run (Host.Step p) ⟨s, RateLimiter.initial params⟩
          hostTrace t' ∧
        hostTrace.map Transition.event =
          trace.map (fun tr => .node tr.event) ∧
        t'.node = t ∧
        packetsOf t'.limiter.queue.kept =
          entries.map Prod.snd := by
  rcases
    @(RateLimiter.unlimited_initial params).exists_run
      _ _ ⟨0, 0⟩ entries
      (fun node hMem => absurd hMem List.not_mem_nil) hHold
      hPriority hNodup (by rwa [totalSize_nil, Int.zero_add])
      (by rw [totalSize_nil]; omega) with
    ⟨submissions, limiter, hSubmissions, hSame, hKept⟩
  have hSubmits :
      Submits (RateLimiter.initial params)
        (trace.flatMap Transition.outputs) limiter := by
    refine ⟨submissions, hSubmissions, ?_⟩
    rw [hSame, hOutputs, List.map_map]
    rfl
  rcases Host.exists_run hRun hSubmits with
    ⟨hostTrace, hEvents, hHost⟩
  exact ⟨hostTrace, _, hHost, hEvents, rfl, hKept⟩

end ML

end NapaBaselibs
