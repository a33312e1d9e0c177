import NapaBaselibs.ML.QueueRuns

/-
  The priority of connection messages and NACKs.

  `HP & NO_RTX` has neither flag, so a packet of such a type
  is queued, refused and kept for retransmission as one with
  data of the application is.

  Key definitions include:
    * `SentAtOnce`, `NeverKept`
    * `Prioritised`

  Key theorems include:
    * `SendJob.priority_eq_zero`
    * `queueOrSendPacket_unflagged`
    * `packets_not_prioritised`
-/

------------------------------------------------------------
-- The Flags
------------------------------------------------------------

namespace NapaBaselibs

namespace ML

variable {tx rtx : List (Nat × PacketContainer)}

/- The flags of every message, control messages included. -/
theorem SendJob.priority_eq_zero
    (job : SendJob) :
    job.priority = 0 := by
  unfold SendJob.priority
  split
  · rfl
  · rfl

/- So no packet of `send_msg` has a flag. -/
theorem SendJob.IsPacket.priority
    {job : SendJob}
    {pkt : Packet}
    (hPacket : job.IsPacket pkt) :
    pkt.priority = 0 := by
  rcases hPacket with ⟨_, _, _, _, _, rfl⟩
  exact job.priority_eq_zero

------------------------------------------------------------
-- Sending Without A Flag
------------------------------------------------------------

/-
  The limiter passes the packet to `sendPacket`, and answers
  what that returns.
-/
def SentAtOnce
    (pkt : Packet)
    (outputs : List RateOutput) : Prop :=
  ∃ code, outputs = [.sendPacket pkt, .answer code] ∧
    code ≠ .throttle

/- The container at an address is not kept for later. -/
def NeverKept
    (address : Nat)
    (s : RateLimiter) : Prop :=
  ∀ tx rtx, s.queue.Holds tx rtx →
    address ∉ LinkedQueue.addresses rtx

/- The bucket has room for the packet. -/
def RateLimiter.HasRoom
    (s : RateLimiter)
    (now : Timeval)
    (pkt : Packet) : Prop :=
  s.drainRate ≤ 0 ∨
    s.drained now + pkt.pktLen ≤ s.bucketSize

/- Rate control admits what the bucket has room for. -/
theorem outputRateControl_of_room
    {s : RateLimiter}
    {now : Timeval}
    {pkt : Packet}
    (hRoom : s.HasRoom now pkt) :
    ∃ bytes,
      outputRateControl pkt.pktLen now s =
        (.ok, s.setBucket bytes now) := by
  unfold outputRateControl
  by_cases hRate : s.drainRate ≤ 0
  · exact ⟨0, if_pos hRate⟩
  · have hFits := hRoom.resolve_left hRate
    exact ⟨_, by rw [if_neg hRate, if_pos hFits]⟩

/- And nothing else. -/
theorem outputRateControl_of_no_room
    {s : RateLimiter}
    {now : Timeval}
    {pkt : Packet}
    (hRoom : ¬ s.HasRoom now pkt) :
    ∃ bytes,
      outputRateControl pkt.pktLen now s =
        (.throttle, s.setBucket bytes now) := by
  rcases not_or.mp hRoom with ⟨hRate, hFits⟩
  unfold outputRateControl
  exact ⟨_, by rw [if_neg hRate, if_neg hFits]⟩

/- What is sent at once without a flag is kept. -/
theorem sendAtOnce_unflagged
    {input : SubmitInput}
    {pkt : Packet}
    {s s' : RateLimiter}
    {container : PacketContainer}
    {outputs : List RateOutput}
    (hFlags : pkt.priority = 0)
    (hHolds : s.queue.Holds tx rtx)
    (hLoose : s.queue.Loose tx rtx input.address container)
    (hCall : sendAtOnce input pkt s = .ok (s', outputs)) :
    SentAtOnce pkt outputs ∧
      ¬ NeverKept input.address s' := by
  unfold sendAtOnce keepSentPacket at hCall
  rw [hFlags, if_pos (by decide)] at hCall
  rcases addPacketRTXqueue_spec input.rtxClock input.rtxStamp
      hHolds hLoose.outside with
    ⟨hOver, _⟩ | ⟨_, ⟨hEndless, _⟩ | ⟨queue, kept, hAdd,
      hKept⟩⟩
  · rw [hOver] at hCall
    cases hCall
  · rw [hEndless] at hCall
    cases hCall
  · rw [hAdd] at hCall
    cases hCall
    refine
      ⟨⟨_, rfl, sendPacketFinal_ne_throttle input.result⟩,
        ?_⟩
    intro hNever
    apply hNever _ _ hKept.holds
    rw [LinkedQueue.addresses_append]
    exact List.mem_append_right _ (List.mem_singleton.mpr rfl)

/- A packet that is queued is not sent at once. -/
theorem enqueue_not_sent
    {address : Nat}
    {pkt : Packet}
    {s s' : RateLimiter}
    {plans outputs : List RateOutput}
    (hCall : enqueue address s = .ok (s', outputs))
    (hPlans : ∀ output ∈ plans, output ≠ .sendPacket pkt) :
    ¬ SentAtOnce pkt (plans ++ outputs) := by
  unfold enqueue at hCall
  cases hAdd : addPacketTXqueue address s.queue with
  | error fault =>
      rw [hAdd] at hCall
      cases hCall
  | ok result =>
      rw [hAdd] at hCall
      cases hCall
      rintro ⟨code, hOutputs, _⟩
      cases plans with
      | nil => cases hOutputs
      | cons first rest =>
          have hFirst := hPlans first (List.mem_cons_self ..)
          exact hFirst (List.cons.inj hOutputs).1

/- Nor is one for which an event is planned first. -/
theorem planAndEnqueue_not_sent
    {address : Nat}
    {pktLen : Int}
    (pkt : Packet)
    {s s' : RateLimiter}
    {outputs : List RateOutput}
    (hCall :
      planAndEnqueue address pktLen s = .ok (s', outputs)) :
    ¬ SentAtOnce pkt outputs := by
  unfold planAndEnqueue at hCall
  cases hPlan : planFreeSpaceInBucketEvent pktLen s with
  | error fault =>
      rw [hPlan] at hCall
      cases hCall
  | ok planned =>
      rw [hPlan, ok_bind] at hCall
      have hPlans :
          ∀ output ∈ planned.2, output ≠ .sendPacket pkt := by
        unfold planFreeSpaceInBucketEvent at hPlan
        split at hPlan
        · cases hPlan
        · cases hPlan
          intro output hMem
          rw [List.mem_singleton.mp hMem]
          exact RateOutput.noConfusion
      cases hEnqueue : enqueue address planned.1 with
      | error fault =>
          simp only [hEnqueue] at hCall
          cases hCall
      | ok result =>
          simp only [hEnqueue] at hCall
          cases hCall
          exact enqueue_not_sent hEnqueue hPlans

/-
  A packet without a flag is sent at once exactly when no
  packet waits and the bucket has room, and is kept then.
-/
theorem queueOrSendPacket_unflagged
    {input : SubmitInput}
    {pkt : Packet}
    {s s' : RateLimiter}
    {outputs : List RateOutput}
    (hFlags : pkt.priority = 0)
    (hHolds : s.queue.Holds tx rtx)
    (hCall :
      queueOrSendPacket input pkt s = .ok (s', outputs)) :
    (SentAtOnce pkt outputs ↔
        tx = [] ∧ s.HasRoom input.rateClock pkt) ∧
      (SentAtOnce pkt outputs →
        ¬ NeverKept input.address s') := by
  unfold queueOrSendPacket at hCall
  cases hCreate :
      createPacketContainer input.address pkt s.queue with
  | error fault =>
      rw [hCreate] at hCall
      cases hCall
  | ok queue =>
      rcases createPacketContainer_spec hHolds hCreate with
        ⟨hHolds₁, _, container, _, hLoose⟩
      have hEmpty := hHolds₁.isQueueEmpty_iff
      rw [hCreate, ok_bind, hFlags, if_pos (by decide)]
        at hCall
      by_cases hNil : tx = []
      · rw [if_neg (by simp [hEmpty.mpr hNil])] at hCall
        by_cases hRoom :
            RateLimiter.HasRoom { s with queue := queue }
              input.rateClock pkt
        · rcases outputRateControl_of_room hRoom with
            ⟨bytes, hControl⟩
          rw [hControl] at hCall
          have hSent :=
            sendAtOnce_unflagged hFlags hHolds₁ hLoose hCall
          exact
            ⟨iff_of_true hSent.1 ⟨hNil, hRoom⟩,
              fun _ => hSent.2⟩
        · rcases outputRateControl_of_no_room hRoom with
            ⟨bytes, hControl⟩
          rw [hControl] at hCall
          have hNot := planAndEnqueue_not_sent pkt hCall
          exact
            ⟨iff_of_false hNot (fun h => hRoom h.2),
              fun h => absurd h hNot⟩
      · have hBusy : isQueueEmpty queue = false := by
          rw [← Bool.not_eq_true, hEmpty]
          exact hNil
        rw [if_pos hBusy] at hCall
        have hNot : ¬ SentAtOnce pkt outputs := by
          exact
            enqueue_not_sent hCall
              (fun _ hMem => absurd hMem List.not_mem_nil)
        exact
          ⟨iff_of_false hNot (fun h => hNil h.1),
            fun h => absurd h hNot⟩

------------------------------------------------------------
-- Control Messages
------------------------------------------------------------

/-
  What the flags are for: the call returns, the packet is
  passed on at once, and its container is never kept.
-/
def Prioritised
    (input : SubmitInput)
    (pkt : Packet)
    (s : RateLimiter) : Prop :=
  ∃ s' outputs,
    queueOrSendPacket input pkt s = .ok (s', outputs) ∧
      SentAtOnce pkt outputs ∧ NeverKept input.address s'

/-
  No packet of `send_msg` is prioritised, whatever its type,
  the queues, the bucket and the limits: it is sent at once
  only if no packet waits and the bucket has room, as one
  with data is, and then it is kept for retransmission.
-/
theorem packets_not_prioritised
    {job : SendJob}
    {pkt : Packet}
    (hPacket : job.IsPacket pkt)
    {s : RateLimiter}
    (hHolds : s.queue.Holds tx rtx)
    (input : SubmitInput) :
    ¬ Prioritised input pkt s ∧
      ∀ s' outputs,
        queueOrSendPacket input pkt s = .ok (s', outputs) →
          (SentAtOnce pkt outputs ↔
            tx = [] ∧ s.HasRoom input.rateClock pkt) ∧
          (SentAtOnce pkt outputs →
            ¬ NeverKept input.address s') := by
  have hAll (s' : RateLimiter) (outputs : List RateOutput)
      (hCall :
        queueOrSendPacket input pkt s = .ok (s', outputs)) :=
    queueOrSendPacket_unflagged hPacket.priority hHolds hCall
  refine ⟨?_, hAll⟩
  rintro ⟨s', outputs, hCall, hSent, hNever⟩
  exact (hAll s' outputs hCall).2 hSent hNever

namespace Sample

/- A connection message of 264 bytes. -/
def controlJob : SendJob :=
  (connection 1372).sendJob first mlConMsg
    (List.replicate 264 0) 264 true

/- The packet that `send_msg` makes of it. -/
def controlPacket : Packet :=
  controlJob.packet 0 [] onceAttempt 0 264

/- A call one second after the start. -/
def secondCall (address : Nat) : SubmitInput where
  address := address
  rateClock := ⟨1, 0⟩
  rtxClock := ⟨1, 0⟩
  rtxStamp := ⟨1, 0⟩
  result := .sent

/- A limiter over which data has been sent, and some waits. -/
def busyLimiter : Except QueueFault RateLimiter := do
  let (s, _) ←
    queueOrSendPacket (secondCall 16) queuedPacket
      (limiter 200)
  let (s', _) ← queueOrSendPacket (secondCall 32) queuedPacket s
  .ok s'

end Sample

/-
  A connection message waits behind data; with no data in the
  queue it is sent, and kept as the last of the packets for
  retransmission.
-/
theorem control_packet_waits :
    Sample.controlJob.msgType = mlConMsg ∧
      Sample.controlJob.IsPacket Sample.controlPacket ∧
      (do
        let s ← Sample.busyLimiter
        let (_, outputs) ←
          queueOrSendPacket (Sample.secondCall 48)
            Sample.controlPacket s
        .ok outputs) = .ok [.answer .ok] ∧
      (do
        let (s, outputs) ←
          queueOrSendPacket (Sample.secondCall 48)
            Sample.controlPacket (Sample.limiter 1000)
        .ok (outputs, s.queue.rtxQueue.tail)) =
        .ok
          ([.sendPacket Sample.controlPacket, .answer .ok],
            some 48) := by
  refine
    ⟨rfl, Sample.controlJob.isPacket_packet .., ?_, ?_⟩
  · decide +kernel
  · decide +kernel

/- The same over the limiter that has just been set up. -/
theorem control_packet_not_prioritised :
    ¬ Prioritised (Sample.secondCall 48)
      Sample.controlPacket (Sample.limiter 1000) := by
  have hQueue :
      (Sample.limiter 1000).queue =
        OutputQueue.initial Sample.queueParams :=
    (setOutputRateParams_frame 1000 8000 ⟨0, 0⟩ _).1
  have hHolds : (Sample.limiter 1000).queue.Holds [] [] := by
    rw [hQueue]
    exact OutputQueue.holds_initial _
  exact
    (packets_not_prioritised
      (Sample.controlJob.isPacket_packet ..) hHolds _).1

end ML

end NapaBaselibs
