import NapaBaselibs.ML.RateLimiter
import NapaBaselibs.ML.Sample

/-
  Runs of the rate limiter: a packet that waits has an event
  to send it, and a packet that waits can be admitted just if
  it is no longer than the bucket.

  Key definitions include:
    * `sentPackets`, `acceptedPackets`
    * `RateLimiter.Ticking`, `RateLimiter.Admits`

  Key theorems include:
    * `queue_never_stalls`
    * `no_permanent_block_iff`
-/

------------------------------------------------------------
-- Faults
------------------------------------------------------------

namespace NapaBaselibs

namespace ML

/- A transition of the rate limiter. -/
abbrev RateTransition :=
  Transition RateLimiter RateEvent RateOutput

/- A use of a wrong pointer, or a plan without a rate. -/
def QueueFault.IsInternal : QueueFault → Prop
| .badPointer | .noRate => True
| _ => False

/-
  A computation that has no internal fault, and that returns
  if a condition holds.
-/
def Sound
    {β : Type}
    (Returns : Prop)
    (result : Except QueueFault β) : Prop :=
  ∀ fault, result = .error fault →
    ¬ fault.IsInternal ∧
      (Returns → fault ≠ .noReturn)

theorem sound_ok
    {β : Type}
    {Returns : Prop}
    (result : β) :
    Sound Returns (.ok result) := by
  intro fault hError
  cases hError

/- The first part of a computation, and then the rest. -/
theorem sound_bind
    {β γ : Type}
    {Returns : Prop}
    {first : Except QueueFault β}
    {rest : β → Except QueueFault γ}
    (hFirst : Sound Returns first)
    (hRest :
      ∀ result, first = .ok result →
        Sound Returns (rest result)) :
    Sound Returns (first >>= rest) := by
  intro fault hError
  cases hResult : first with
  | error fault' =>
      rw [hResult, error_bind] at hError
      cases hError
      exact hFirst fault hResult
  | ok result =>
      rw [hResult, ok_bind] at hError
      exact hRest result hResult fault hError

section Soundness

variable {q : OutputQueue}
variable {tx rtx : List (Nat × PacketContainer)}
variable {address : Nat}
variable {container : PacketContainer}
variable {Returns : Prop}

theorem createPacketContainer_sound
    (pkt : Packet) :
    Sound Returns (createPacketContainer address pkt q) := by
  intro fault hError
  unfold createPacketContainer at hError
  split at hError
  · cases hError
    exact ⟨id, fun _ hEq => by cases hEq⟩
  · split at hError
    · cases hError
      exact ⟨id, fun _ hEq => by cases hEq⟩
    · cases hError

theorem addPacketTXqueue_sound
    (hHolds : q.Holds tx rtx)
    (hLoose : q.Loose tx rtx address container) :
    Sound Returns (addPacketTXqueue address q) := by
  intro fault hError
  rcases addPacketTXqueue_spec hHolds hLoose with
    ⟨hOver, _⟩ | ⟨answer, q', hAdd, _⟩
  · rw [hOver] at hError
    cases hError
    exact ⟨id, fun _ hEq => by cases hEq⟩
  · rw [hAdd] at hError
    cases hError

/- Keeping a packet returns if the packet can be kept. -/
theorem keepSentPacket_sound
    (rtxClock rtxStamp : Timeval)
    (priority : UInt8)
    (hHolds : q.Holds tx rtx)
    (hLoose : q.Loose tx rtx address container)
    (hReturns :
      Returns → container.pktLen ≤ q.params.rtxMaxSize) :
    Sound Returns
      (keepSentPacket rtxClock rtxStamp priority address
        q) := by
  unfold keepSentPacket
  split
  · intro fault hError
    rcases addPacketRTXqueue_spec rtxClock rtxStamp hHolds
        hLoose.outside with
      ⟨hOver, _⟩ | ⟨_, ⟨hEndless, hLarge⟩ | ⟨q', kept, hAdd,
        _⟩⟩
    · rw [hOver] at hError
      cases hError
      exact ⟨id, fun _ hEq => by cases hEq⟩
    · rw [hEndless] at hError
      cases hError
      refine ⟨id, fun hRet => ?_⟩
      exact absurd (hReturns hRet) (Int.not_le.mpr hLarge)
    · rw [hAdd] at hError
      cases hError
  · rcases destroyPacketContainer_spec hHolds
        hLoose.outside with
      ⟨q', hDestroy, _⟩
    rw [hDestroy]
    exact sound_ok q'

/- A submission that is sent at once. -/
theorem sendAtOnce_sound
    {s : RateLimiter}
    {pkt : Packet}
    {input : SubmitInput}
    (hHolds : s.queue.Holds tx rtx)
    (hLoose :
      s.queue.Loose tx rtx input.address container)
    (hReturns :
      Returns →
        container.pktLen ≤ s.queue.params.rtxMaxSize) :
    Sound Returns (sendAtOnce input pkt s) :=
  sound_bind
    (keepSentPacket_sound _ _ _ hHolds hLoose hReturns)
    (fun _ _ => sound_ok _)

/- A submission that goes to the queue. -/
theorem enqueue_sound
    {s : RateLimiter}
    (hHolds : s.queue.Holds tx rtx)
    (hLoose : s.queue.Loose tx rtx address container) :
    Sound Returns (enqueue address s) :=
  sound_bind (addPacketTXqueue_sound hHolds hLoose)
    (fun _ _ => sound_ok _)

/-
  A submission has no internal fault, and returns if the
  packet can be kept for retransmission.
-/
theorem queueOrSendPacket_sound
    {s : RateLimiter}
    (pkt : Packet)
    (input : SubmitInput)
    (hWaits : s.queue.Waits tx)
    (hReturns :
      Returns → pkt.pktLen ≤ s.queue.params.rtxMaxSize) :
    Sound Returns (queueOrSendPacket input pkt s) := by
  rcases hWaits with ⟨rtx, hHolds⟩
  unfold queueOrSendPacket
  apply sound_bind (createPacketContainer_sound pkt)
  intro queue hCreate
  rcases createPacketContainer_spec hHolds hCreate with
    ⟨hHolds₁, hParams, container, hPacket, hLoose⟩
  have hReturns₁ :
      Returns →
        container.pktLen ≤ queue.params.rtxMaxSize := by
    intro hRet
    rw [hLoose.wellSized, hPacket, hParams]
    exact hReturns hRet
  split
  · split
    · exact enqueue_sound hHolds₁ hLoose
    · rcases outputRateControl_spec pkt.pktLen
          input.rateClock { s with queue := queue } with
        ⟨bytes, ⟨hControl, _⟩ | ⟨hControl, hRate, _⟩⟩
      · simp only [hControl]
        exact sendAtOnce_sound hHolds₁ hLoose hReturns₁
      · simp only [hControl]
        have hRate' :
            0 <
              (RateLimiter.setBucket
                { s with queue := queue } bytes
                input.rateClock).drainRate :=
          hRate
        rcases planFreeSpaceInBucketEvent_spec
            (Int.natCast_nonneg pkt.pktLen) hRate' with
          ⟨txTime, _, _, hPlan⟩
        unfold planAndEnqueue
        rw [hPlan, ok_bind]
        exact sound_bind (enqueue_sound hHolds₁ hLoose)
          (fun _ _ => sound_ok _)
  · exact sendAtOnce_sound hHolds₁ hLoose hReturns₁

/-
  A drain has no internal fault, and returns if the packets
  that wait can be kept for retransmission.
-/
theorem drain_sound
    {rounds : List DrainRound}
    {s : RateLimiter}
    (hWaits : s.queue.Waits tx)
    (hReturns :
      Returns →
        ∀ node ∈ tx,
          node.2.pktLen ≤ s.queue.params.rtxMaxSize) :
    Sound Returns (drain rounds s) := by
  induction rounds generalizing s tx with
  | nil =>
      unfold drain
      split
      · exact sound_ok _
      · intro fault hError
        cases hError
        exact ⟨id, fun _ hEq => by cases hEq⟩
  | cons round rounds ih =>
      rcases hWaits with ⟨rtx, hHolds⟩
      unfold drain
      split
      · exact sound_ok _
      · rename_i hBusy
        cases tx with
        | nil =>
            exact absurd (hHolds.isQueueEmpty_iff.mpr rfl)
              hBusy
        | cons node tx =>
            rw [hHolds.getFirstPacketSize_eq, ok_bind]
            rcases outputRateControl_spec node.2.pktLen
                round.rateClock s with
              ⟨bytes, ⟨hControl, _⟩ | ⟨hControl, hRate, _⟩⟩
            · rcases takePacketToSend_spec hHolds with
                ⟨queue, hTake, hParams, hTaken, hLoose⟩
              simp only [hControl,
                RateLimiter.setBucket_queue, hTake, ok_bind,
                deref_eq hLoose.cell]
              apply sound_bind
              · apply keepSentPacket_sound _ _ _ hTaken hLoose
                intro hRet
                rw [hParams]
                exact hReturns hRet node List.mem_cons_self
              · intro kept hKeep
                have hKept :=
                  keepSentPacket_waits hTaken hLoose hKeep
                apply sound_bind
                · apply ih hKept.1
                  intro hRet other hMem
                  rw [hKept.2, hParams]
                  exact hReturns hRet other
                    (List.mem_cons_of_mem _ hMem)
                · exact fun _ _ => sound_ok _
            · simp only [hControl, RateLimiter.setBucket_queue]
              rw [hHolds.getFirstPacketSize_eq, ok_bind]
              have hSize :=
                hHolds.wellSized node List.mem_cons_self
              have hLen : 0 ≤ node.2.pktLen := by
                rw [hSize]
                exact Int.natCast_nonneg _
              have hRate' :
                  0 <
                    (s.setBucket bytes
                      round.rateClock).drainRate :=
                hRate
              rcases planFreeSpaceInBucketEvent_spec hLen
                  hRate' with
                ⟨txTime, _, _, hPlan⟩
              rw [hPlan]
              exact sound_ok _

end Soundness

/- Setting the rate changes the bucket and the rate only. -/
theorem setOutputRateParams_frame
    (bucketsize drainrate : Int32)
    (now : Timeval)
    (s : RateLimiter) :
    (setOutputRateParams bucketsize drainrate now s).queue =
        s.queue ∧
      (setOutputRateParams bucketsize drainrate
        now s).pending = s.pending := by
  rcases outputRateControl_spec 0 now
      { s with bucketSize := bucketsize.toInt } with
    ⟨bytes, ⟨hControl, _⟩ | ⟨hControl, _⟩⟩
  · unfold setOutputRateParams
    rw [hControl]
    exact ⟨rfl, rfl⟩
  · unfold setOutputRateParams
    rw [hControl]
    exact ⟨rfl, rfl⟩

------------------------------------------------------------
-- What Enters And What Leaves
------------------------------------------------------------

/- The packet handed to `sendPacket`, if any. -/
def RateOutput.sent? : RateOutput → Option Packet
| .sendPacket pkt => some pkt
| _ => none

/- The packets a step handed to `sendPacket`. -/
def sentPackets (transition : RateTransition) :
    List Packet :=
  transition.outputs.filterMap RateOutput.sent?

/- The packet submitted in a step and not refused. -/
def acceptedPackets (transition : RateTransition) :
    List Packet :=
  match transition.event with
  | .queueOrSendPacket pkt _ =>
      if .answer .throttle ∈ transition.outputs then
        []
      else
        [pkt]
  | _ => []

/- Planned events send nothing and answer nothing. -/
theorem Plans.outputs_eq
    {s : RateLimiter}
    {tx : List (Nat × PacketContainer)}
    {pending : List Timeval}
    {plans : List RateOutput}
    (hPlans : Plans s tx pending plans) :
    plans.filterMap RateOutput.sent? = [] ∧
      ∀ code, RateOutput.answer code ∉ plans := by
  cases hPlans with
  | behind hNe => exact ⟨rfl, by simp⟩
  | first hNil hRate hSec hUsec => exact ⟨rfl, by simp⟩

theorem Replans.sent_eq
    {s : RateLimiter}
    {rest : List (Nat × PacketContainer)}
    {pending : List Timeval}
    {plans : List RateOutput}
    (hPlans : Replans s rest pending plans) :
    plans.filterMap RateOutput.sent? = [] := by
  cases hPlans with
  | done hNil => rfl
  | again hNe hRate hSec hUsec => rfl

/- What a drain sends is what it took out of the queue. -/
theorem DrainEffect.sent_eq
    {s s' : RateLimiter}
    {sent rest : List (Nat × PacketContainer)}
    {outputs : List RateOutput}
    (hEffect : DrainEffect s sent rest s' outputs) :
    outputs.filterMap RateOutput.sent? = packetsOf sent := by
  rcases hEffect.outputs with ⟨plans, hPlans, rfl⟩
  rw [List.filterMap_append, hPlans.sent_eq,
    List.append_nil, List.filterMap_map]
  exact List.filterMap_some

------------------------------------------------------------
-- Sample Runs
------------------------------------------------------------

namespace Sample

def queueParams : QueueParams where
  txMaxSize := 9000000
  rtxMaxSize := 9000000
  maxTimeToHold := ⟨5, 0⟩

/- A bucket of some bytes that drains 1000 bytes a second. -/
def limiter (bucketsize : Int32) : RateLimiter :=
  setOutputRateParams bucketsize 8000 ⟨0, 0⟩
    (RateLimiter.initial queueParams)

/- A data packet with 100 bytes of payload. -/
def queuedPacket : Packet where
  header :=
    { offset := 0
      msgLength := 100
      localConId := 0
      remoteConId := 0
      msgSeqNum := 0
      msgType := 1
      lenMonDataHdr := 0
      lenMonPacketHdr := 0 }
  monPktHdr := []
  monDataHdr := []
  payload := List.replicate 100 0
  addr := address 1
  priority := 0

theorem queuedPacket_pktLen :
    queuedPacket.pktLen = 123 := by
  decide +kernel

/- The submission of the packet one second after the start. -/
def submission (address : Nat) : RateEvent :=
  .queueOrSendPacket queuedPacket
    { address := address
      rateClock := ⟨1, 0⟩
      rtxClock := ⟨1, 0⟩
      rtxStamp := ⟨1, 0⟩
      result := .sent }

end Sample

------------------------------------------------------------
-- Timers
------------------------------------------------------------

/- An event that was planned with a rate to divide by. -/
def RateOutput.Timely : RateOutput → Prop
| .plan drainRate txTime =>
    0 < drainRate ∧ 0 ≤ txTime.tvSec ∧ 0 ≤ txTime.tvUsec
| .sendPacket _ => True
| .answer _ => True

/- While a packet waits, an event is pending. -/
def RateLimiter.Ticking (s : RateLimiter) : Prop :=
  ∃ tx : List (Nat × PacketContainer),
    s.queue.Waits tx ∧ (tx ≠ [] → s.pending ≠ [])

/- Setting the queue parameters moves no packet. -/
theorem setQueuesParams_waits
    {q : OutputQueue}
    {tx : List (Nat × PacketContainer)}
    (params : QueueParams)
    (hWaits : q.Waits tx) :
    (setQueuesParams params q).Waits tx := by
  rcases hWaits with ⟨rtx, hHolds⟩
  exact ⟨rtx,
    { txHolds := hHolds.txHolds
      txTail := hHolds.txTail
      txSize := hHolds.txSize
      rtxHolds := hHolds.rtxHolds
      rtxSize := hHolds.rtxSize
      apart := hHolds.apart
      wellSized := hHolds.wellSized }⟩

namespace Plans

variable {s : RateLimiter}
variable {tx : List (Nat × PacketContainer)}
variable {pending : List Timeval}
variable {plans : List RateOutput}

/- After a submission to the queue an event is pending. -/
theorem pending_ne_nil
    (hPlans : Plans s tx pending plans)
    (hTicks : tx ≠ [] → s.pending ≠ []) :
    pending ≠ [] := by
  cases hPlans with
  | behind hNe => exact hTicks hNe
  | first hNil hRate hSec hUsec => simp

theorem timely
    (hPlans : Plans s tx pending plans) :
    ∀ output ∈ plans, output.Timely := by
  cases hPlans with
  | behind hNe => simp
  | first hNil hRate hSec hUsec =>
      intro output hMem
      rcases List.mem_singleton.mp hMem with rfl
      exact ⟨hRate, hSec, hUsec⟩

end Plans

namespace Replans

variable {s : RateLimiter}
variable {rest : List (Nat × PacketContainer)}
variable {pending : List Timeval}
variable {plans : List RateOutput}

/- A drain that leaves packets leaves a pending event. -/
theorem pending_ne_nil
    (hPlans : Replans s rest pending plans)
    (hNe : rest ≠ []) :
    pending ≠ [] := by
  cases hPlans with
  | done hNil => exact absurd hNil hNe
  | again hNe hRate hSec hUsec => simp

theorem timely
    (hPlans : Replans s rest pending plans) :
    ∀ output ∈ plans, output.Timely := by
  cases hPlans with
  | done hNil => simp
  | again hNe hRate hSec hUsec =>
      intro output hMem
      rcases List.mem_singleton.mp hMem with rfl
      exact ⟨hRate, hSec, hUsec⟩

end Replans

/- What is appended to planned events is timely too. -/
theorem timely_append_answer
    {plans : List RateOutput}
    (code : ErrorCode)
    (hPlans : ∀ output ∈ plans, output.Timely) :
    ∀ output ∈ plans ++ [.answer code], output.Timely := by
  intro output hMem
  rcases List.mem_append.mp hMem with hPlan | hAnswer
  · exact hPlans output hPlan
  · rcases List.mem_singleton.mp hAnswer with rfl
    exact trivial

/- A submission leaves an event pending for what waits. -/
theorem SubmitEffect.ticking
    {s s' : RateLimiter}
    {tx : List (Nat × PacketContainer)}
    {pkt : Packet}
    {outputs : List RateOutput}
    (hTicks : tx ≠ [] → s.pending ≠ [])
    (hEffect : SubmitEffect s tx pkt s' outputs) :
    s'.Ticking ∧ ∀ output ∈ outputs, output.Timely := by
  cases hEffect with
  | sent hTurn hCode hLimits hPending hWaits =>
      refine ⟨⟨tx, hWaits, ?_⟩, ?_⟩
      · rw [hPending]
        exact hTicks
      · intro output hMem
        rcases List.mem_cons.mp hMem with rfl | hMem
        · exact trivial
        · rcases List.mem_singleton.mp hMem with rfl
          exact trivial
  | waits _ hPlans _ _ _ hWaits =>
      exact
        ⟨⟨_, hWaits, fun _ => hPlans.pending_ne_nil hTicks⟩,
          timely_append_answer _ hPlans.timely⟩
  | refused _ hPlans _ _ hWaits =>
      exact
        ⟨⟨tx, hWaits, fun _ => hPlans.pending_ne_nil hTicks⟩,
          timely_append_answer _ hPlans.timely⟩

/- A drain leaves an event pending for what still waits. -/
theorem DrainEffect.ticking
    {s s' : RateLimiter}
    {sent rest : List (Nat × PacketContainer)}
    {outputs : List RateOutput}
    (hEffect : DrainEffect s sent rest s' outputs) :
    s'.Ticking ∧ ∀ output ∈ outputs, output.Timely := by
  rcases hEffect.outputs with ⟨plans, hPlans, rfl⟩
  refine ⟨⟨rest, hEffect.waits, hPlans.pending_ne_nil⟩, ?_⟩
  intro output hMem
  rcases List.mem_append.mp hMem with hSent | hPlan
  · rcases List.mem_map.mp hSent with ⟨pkt, _, rfl⟩
    exact trivial
  · exact hPlans.timely output hPlan

/- Every step keeps an event pending for what waits. -/
theorem RateLimiter.Ticking.step
    {transition : RateTransition}
    (hStep :
      RateLimiter.Step transition.pre transition.event
        transition.outputs transition.post)
    (hTicking : transition.pre.Ticking) :
    transition.post.Ticking ∧
      ∀ output ∈ transition.outputs, output.Timely := by
  rcases transition with ⟨pre, event, outputs, post⟩
  rcases hTicking with ⟨tx, hWaits, hTicks⟩
  cases event with
  | queueOrSendPacket pkt input =>
      exact (queueOrSendPacket_spec hWaits hStep).ticking
        hTicks
  | freeSpaceInBucket fired rounds =>
      have hWaits' :
          OutputQueue.Waits
            (RateLimiter.queue
              { pre with
                pending := pre.pending.eraseIdx fired })
            tx :=
        hWaits
      rcases drain_spec hWaits' hStep with
        ⟨sent, rest, _, hEffect⟩
      exact hEffect.ticking
  | setOutputRateParams bucketsize drainrate now =>
      have hFrame :=
        setOutputRateParams_frame bucketsize drainrate now pre
      rcases Prod.mk.inj (Except.ok.inj hStep) with
        ⟨hPost, hOutputs⟩
      simp only at hPost hOutputs
      subst hPost hOutputs
      refine ⟨⟨tx, ?_, ?_⟩, by simp⟩
      · exact hFrame.1 ▸ hWaits
      · exact hFrame.2 ▸ hTicks
  | setQueuesParams params =>
      rcases Prod.mk.inj (Except.ok.inj hStep) with
        ⟨hPost, hOutputs⟩
      simp only at hPost hOutputs
      subst hPost hOutputs
      exact
        ⟨⟨tx, setQueuesParams_waits params hWaits, hTicks⟩,
          by simp⟩

/- No call plans an event without a rate. -/
theorem RateLimiter.Ticking.ne_noRate
    {s : RateLimiter}
    (hTicking : s.Ticking)
    (event : RateEvent) :
    s.handle event ≠ .error .noRate := by
  rcases hTicking with ⟨tx, hWaits, _⟩
  intro hError
  cases event with
  | queueOrSendPacket pkt input =>
      have hSound :
          Sound False (queueOrSendPacket input pkt s) :=
        queueOrSendPacket_sound pkt input hWaits False.elim
      exact (hSound _ hError).1 trivial
  | freeSpaceInBucket fired rounds =>
      have hWaits' :
          OutputQueue.Waits
            (RateLimiter.queue
              { s with pending := s.pending.eraseIdx fired })
            tx :=
        hWaits
      have hSound :
          Sound False
            (drain rounds
              { s with pending := s.pending.eraseIdx fired }) :=
        drain_sound hWaits' False.elim
      exact (hSound _ hError).1 trivial
  | setOutputRateParams bucketsize drainrate now =>
      cases hError
  | setQueuesParams params => cases hError

/-
  In every run from the start of the program, with any
  parameters set at any time and any clock: while a packet
  waits an event is pending, no call plans an event without a
  rate to divide by, and no event is planned for a negative
  time.
-/
theorem queue_never_stalls
    {params : QueueParams}
    {s : RateLimiter}
    {trace : List RateTransition}
    (hRun :
      Run RateLimiter.Step (RateLimiter.initial params) trace
        s) :
    (isQueueEmpty s.queue = false → s.pending ≠ []) ∧
      (∀ event : RateEvent,
        s.handle event ≠ .error .noRate) ∧
      ∀ transition ∈ trace,
        ∀ output ∈ transition.outputs, output.Timely := by
  have hStart : (RateLimiter.initial params).Ticking :=
    ⟨[], ⟨[], OutputQueue.holds_initial params⟩,
      fun hNe => absurd rfl hNe⟩
  rcases
      Run.invariant_of_steps RateLimiter.Ticking
        (fun _ => True)
        (fun _ hStep _ hTicking => (hTicking.step hStep).1)
        hRun (fun _ _ => trivial) hStart with
    ⟨hTicking, hAll⟩
  refine ⟨?_, hTicking.ne_noRate, ?_⟩
  · intro hBusy
    rcases hTicking with ⟨tx, ⟨rtx, hHolds⟩, hTicks⟩
    apply hTicks
    intro hNil
    rw [hHolds.isQueueEmpty_iff.mpr hNil] at hBusy
    cases hBusy
  · intro transition hMem
    exact ((hAll transition hMem).1.step
      (hRun.mem_step hMem)).2

/- A packet that is submitted after the rate was set. -/
theorem submission_has_event :
    ∃ (trace : List RateTransition) (s : RateLimiter),
      trace.map Transition.event =
          [.setOutputRateParams 64 8000 ⟨0, 0⟩,
            Sample.submission 16] ∧
        Run RateLimiter.Step
          (RateLimiter.initial Sample.queueParams) trace s ∧
        (isQueueEmpty s.queue = false → s.pending ≠ []) ∧
        ∀ event : RateEvent,
          s.handle event ≠ .error .noRate := by
  rcases
      @exists_run _ _ _ _ RateLimiter.handle
        (RateLimiter.initial Sample.queueParams)
        [.setOutputRateParams 64 8000 ⟨0, 0⟩,
          Sample.submission 16]
        (fun _ => true) (by decide +kernel) with
    ⟨trace, s, hRun, hEvents, _⟩
  rcases queue_never_stalls hRun with ⟨hTicks, hPlans, _⟩
  exact ⟨trace, s, hEvents, hRun, hTicks, hPlans⟩

------------------------------------------------------------
-- Head-Of-Line Blocking
------------------------------------------------------------

/- Some later clock makes rate control admit this length. -/
def RateLimiter.Admits
    (s : RateLimiter)
    (len : Int) : Prop :=
  ∃ now : Timeval,
    s.bibThen.tvSec ≤ now.tvSec ∧
      (outputRateControl len now s).1 = .ok

/- After a long enough time the bucket is empty. -/
theorem exists_drained_eq_zero
    (s : RateLimiter) :
    ∃ now : Timeval,
      s.bibThen.tvSec ≤ now.tvSec ∧ s.drained now = 0 := by
  have hSecs : s.totalDrainSecs < 2 ^ 31 := by
    have hLt :=
      Int.bmod_lt (m := 2 ^ 32)
        (x := s.bytesInBucket.tdiv s.drainRate + 1)
        (by decide)
    unfold RateLimiter.totalDrainSecs toCInt
    omega
  refine ⟨⟨s.bibThen.tvSec + 2 ^ 32, 0⟩, ?_, ?_⟩
  · simp only
    omega
  · unfold RateLimiter.drained
    rw [if_pos]
    simp only
    omega

/- What can be admitted is what fits in an empty bucket. -/
theorem admits_iff
    {s : RateLimiter}
    {len : Int}
    (hRate : 0 < s.drainRate) :
    s.Admits len ↔ len ≤ s.bucketSize := by
  constructor
  · rintro ⟨now, _, hOk⟩
    have hDrained := s.drained_nonneg now
    rcases outputRateControl_spec len now s with
      ⟨bytes, ⟨_, hFits⟩ | ⟨hControl, _⟩⟩
    · have hIn := hFits hRate
      omega
    · rw [hControl] at hOk
      cases hOk
  · intro hLen
    rcases exists_drained_eq_zero s with
      ⟨now, hLater, hDrained⟩
    refine ⟨now, hLater, ?_⟩
    rcases outputRateControl_spec len now s with
      ⟨bytes, ⟨hControl, _⟩ | ⟨_, _, hFull⟩⟩
    · rw [hControl]
    · rw [hDrained] at hFull
      omega

/- A call that leaves the parameters as they are. -/
def RateEvent.KeepsParams : RateEvent → Prop
| .queueOrSendPacket _ _ => True
| .freeSpaceInBucket _ _ => True
| .setOutputRateParams _ _ _ => False
| .setQueuesParams _ => False

/-
  A submission of a packet that fits in the bucket, that does
  not have to wait, or that the queue has no room for.
-/
def RateEvent.FitsBucket (s : RateLimiter) :
    RateEvent → Prop
| .queueOrSendPacket pkt _ =>
    pkt.priority &&& SendJob.hp = 0 →
      pkt.pktLen ≤ s.bucketSize ∨
        s.queue.params.txMaxSize <
          s.queue.txSize + pkt.pktLen
| _ => True

/- The limiter is enabled and has these parameters. -/
structure RateLimiter.Enabled
    (bucketSize : Int)
    (s : RateLimiter) : Prop where
  drainRate : 0 < s.drainRate
  bucketSize : s.bucketSize = bucketSize
  waits :
    ∃ tx : List (Nat × PacketContainer), s.queue.Waits tx

/- All packets that wait fit in the bucket. -/
def RateLimiter.AllFit (s : RateLimiter) : Prop :=
  ∀ tx : List (Nat × PacketContainer),
    s.queue.Waits tx →
      ∀ node ∈ tx, node.2.pktLen ≤ s.bucketSize

/- The packets that wait are determined by the pointers. -/
theorem OutputQueue.Waits.unique
    {q : OutputQueue}
    {tx tx' : List (Nat × PacketContainer)}
    (hWaits : q.Waits tx)
    (hWaits' : q.Waits tx') :
    tx = tx' := by
  rcases hWaits with ⟨rtx, hHolds⟩
  rcases hWaits' with ⟨rtx', hHolds'⟩
  exact hHolds.txHolds.path.unique hHolds'.txHolds.path

namespace RateLimiter.Enabled

variable {bucketSize : Int}
variable {transition : RateTransition}

/- Calls keep the limiter enabled. -/
theorem step
    (hStep :
      RateLimiter.Step transition.pre transition.event
        transition.outputs transition.post)
    (hKeeps : transition.event.KeepsParams)
    (hEnabled : transition.pre.Enabled bucketSize) :
    transition.post.Enabled bucketSize := by
  rcases transition with ⟨pre, event, outputs, post⟩
  rcases hEnabled with ⟨hRate, hBucket, tx, hWaits⟩
  have hLimited :
      RateLimiter.SameLimits pre post →
        (∃ tx' : List (Nat × PacketContainer),
            post.queue.Waits tx') →
          post.Enabled bucketSize := by
    intro hLimits hSome
    exact
      { drainRate := by rw [hLimits.drainRate]; exact hRate
        bucketSize := hLimits.bucketSize.trans hBucket
        waits := hSome }
  cases event with
  | queueOrSendPacket pkt input =>
      cases queueOrSendPacket_spec hWaits hStep with
      | sent _ _ hLimits _ hWaits' =>
          exact hLimited hLimits ⟨tx, hWaits'⟩
      | waits _ _ _ hLimits _ hWaits' =>
          exact hLimited hLimits ⟨_, hWaits'⟩
      | refused _ _ _ hLimits hWaits' =>
          exact hLimited hLimits ⟨tx, hWaits'⟩
  | freeSpaceInBucket fired rounds =>
      have hWaits' :
          OutputQueue.Waits
            (RateLimiter.queue
              { pre with
                pending := pre.pending.eraseIdx fired })
            tx :=
        hWaits
      rcases drain_spec hWaits' hStep with
        ⟨sent, rest, _, hEffect⟩
      have hLimits := hEffect.limits
      exact hLimited
        ⟨hLimits.bucketSize, hLimits.drainRate,
          hLimits.params⟩
        ⟨rest, hEffect.waits⟩
  | setOutputRateParams bucketsize drainrate now =>
      exact absurd hKeeps id
  | setQueuesParams params => exact absurd hKeeps id

/- A submission that fits leaves a queue where all fit. -/
theorem allFit
    (hStep :
      RateLimiter.Step transition.pre transition.event
        transition.outputs transition.post)
    (hKeeps : transition.event.KeepsParams)
    (hFits : transition.event.FitsBucket transition.pre)
    (hEnabled : transition.pre.Enabled bucketSize)
    (hAll : transition.pre.AllFit) :
    transition.post.AllFit := by
  rcases transition with ⟨pre, event, outputs, post⟩
  rcases hEnabled with ⟨hRate, _, tx, hWaits⟩
  have hOld := hAll tx hWaits
  simp only at hOld hWaits hRate
  intro tx' hWaits' node hMem
  cases event with
  | queueOrSendPacket pkt input =>
      cases queueOrSendPacket_spec hWaits hStep with
      | sent _ _ hLimits _ hPost =>
          rcases hWaits'.unique hPost with rfl
          rw [hLimits.bucketSize]
          exact hOld node hMem
      | @waits _ last hPriority _ hRoom hLimits hPacket
          hPost =>
          rcases hWaits'.unique hPost with rfl
          rw [hLimits.bucketSize]
          rcases List.mem_append.mp hMem with hIn | hNew
          · exact hOld node hIn
          · rcases List.mem_singleton.mp hNew with rfl
            rcases hPost with ⟨rtx', hHolds'⟩
            have hSized :=
              hHolds'.wellSized node (by simp)
            rcases hWaits with ⟨rtx, hHolds⟩
            have hSize := hHolds.txSize
            have hEither := hFits hPriority
            simp only at hEither
            rw [hSized, hPacket]
            omega
      | refused _ _ _ hLimits hPost =>
          rcases hWaits'.unique hPost with rfl
          rw [hLimits.bucketSize]
          exact hOld node hMem
  | freeSpaceInBucket fired rounds =>
      have hWaits₀ :
          OutputQueue.Waits
            (RateLimiter.queue
              { pre with
                pending := pre.pending.eraseIdx fired })
            tx :=
        hWaits
      rcases drain_spec hWaits₀ hStep with
        ⟨sent, rest, rfl, hEffect⟩
      rcases hWaits'.unique hEffect.waits with rfl
      rw [hEffect.limits.bucketSize]
      exact hOld node (List.mem_append_right _ hMem)
  | setOutputRateParams bucketsize drainrate now =>
      exact absurd hKeeps id
  | setQueuesParams params => exact absurd hKeeps id

/- A queue where all can be admitted had a fitting call. -/
theorem fitsBucket
    (hStep :
      RateLimiter.Step transition.pre transition.event
        transition.outputs transition.post)
    (hKeeps : transition.event.KeepsParams)
    (hEnabled : transition.pre.Enabled bucketSize)
    (hAll : transition.post.AllFit) :
    transition.event.FitsBucket transition.pre := by
  rcases transition with ⟨pre, event, outputs, post⟩
  rcases hEnabled with ⟨hRate, _, tx, hWaits⟩
  simp only at hWaits hRate
  cases event with
  | queueOrSendPacket pkt input =>
      intro hPriority
      simp only
      cases queueOrSendPacket_spec hWaits hStep with
      | sent hTurn _ _ _ _ =>
          exact Or.inl ((hTurn hPriority).2 hRate)
      | @waits _ last _ _ _ hLimits hPacket hPost =>
          left
          have hFit := hAll _ hPost last (by simp)
          rcases hPost with ⟨rtx', hHolds'⟩
          have hSized := hHolds'.wellSized last (by simp)
          simp only at hFit
          rw [hLimits.bucketSize, hSized, hPacket] at hFit
          exact hFit
      | refused _ _ hLarge _ _ =>
          right
          rcases hWaits with ⟨rtx, hHolds⟩
          rw [hHolds.txSize]
          exact hLarge
  | freeSpaceInBucket fired rounds => exact trivial
  | setOutputRateParams bucketsize drainrate now =>
      exact absurd hKeeps id
  | setQueuesParams params => exact absurd hKeeps id

end RateLimiter.Enabled

/-
  In a run with a positive rate and fixed parameters, every
  packet that waits can be admitted in every state reached
  just if every packet submitted fits in the bucket, goes out
  with high priority, or is refused for want of room.
-/
theorem no_permanent_block_iff
    {start s : RateLimiter}
    {trace : List RateTransition}
    (hEmpty : start.queue.Waits [])
    (hRate : 0 < start.drainRate)
    (hKeeps :
      ∀ transition ∈ trace, transition.event.KeepsParams)
    (hRun : Run RateLimiter.Step start trace s) :
    (∀ transition ∈ trace,
        ∀ tx : List (Nat × PacketContainer),
          transition.post.queue.Waits tx →
            ∀ node ∈ tx,
              transition.post.Admits node.2.pktLen) ↔
      ∀ transition ∈ trace,
        transition.event.FitsBucket transition.pre := by
  have hEnabled :
      ∀ transition ∈ trace,
        transition.pre.Enabled start.bucketSize ∧
          transition.post.Enabled start.bucketSize :=
    (Run.invariant_of_steps
      (RateLimiter.Enabled start.bucketSize)
      (fun transition => transition.event.KeepsParams)
      (fun _ hStep hKeep hInv => hInv.step hStep hKeep)
      hRun hKeeps ⟨hRate, rfl, [], hEmpty⟩).2
  have hAdmits :
      ∀ transition ∈ trace,
        transition.post.AllFit ↔
          ∀ tx : List (Nat × PacketContainer),
            transition.post.queue.Waits tx →
              ∀ node ∈ tx,
                transition.post.Admits node.2.pktLen := by
    intro transition hMem
    have hPost := (hEnabled transition hMem).2.drainRate
    unfold RateLimiter.AllFit
    simp only [admits_iff hPost]
  constructor
  · intro hAll transition hMem
    apply (hEnabled transition hMem).1.fitsBucket
      (hRun.mem_step hMem) (hKeeps transition hMem)
    exact (hAdmits transition hMem).mpr (hAll transition hMem)
  · intro hFits
    have hStart : start.AllFit := by
      intro tx hWaits node hMem
      rcases hWaits.unique hEmpty with rfl
      cases hMem
    have hInvariant :=
      Run.invariant_of_steps
        (fun s =>
          s.Enabled start.bucketSize ∧ s.AllFit)
        (fun transition =>
          transition.event.KeepsParams ∧
            transition.event.FitsBucket transition.pre)
        (fun _ hStep hGuard hInv =>
          ⟨hInv.1.step hStep hGuard.1,
            hInv.1.allFit hStep hGuard.1 hGuard.2 hInv.2⟩)
        hRun
        (fun transition hMem =>
          ⟨hKeeps transition hMem, hFits transition hMem⟩)
        ⟨⟨hRate, rfl, [], hEmpty⟩, hStart⟩
    intro transition hMem
    apply (hAdmits transition hMem).mp
    exact (hInvariant.2 transition hMem).2.2

theorem limiter_waits_nil
    (bucketsize : Int32) :
    (Sample.limiter bucketsize).queue.Waits [] := by
  refine ⟨[], ?_⟩
  have hQueue :=
    (setOutputRateParams_frame bucketsize 8000 ⟨0, 0⟩
      (RateLimiter.initial Sample.queueParams)).1
  unfold Sample.limiter
  rw [hQueue]
  exact OutputQueue.holds_initial Sample.queueParams

/- Two packets that wait in front of a bucket of 64 bytes. -/
theorem two_submissions_block_iff :
    ∃ (trace : List RateTransition) (s : RateLimiter),
      trace.map Transition.event =
          [Sample.submission 16, Sample.submission 32] ∧
        Run RateLimiter.Step (Sample.limiter 64) trace s ∧
        ((∀ transition ∈ trace,
            ∀ tx : List (Nat × PacketContainer),
              transition.post.queue.Waits tx →
                ∀ node ∈ tx,
                  transition.post.Admits node.2.pktLen) ↔
          ∀ transition ∈ trace,
            transition.event.FitsBucket transition.pre) := by
  rcases
      @exists_run _ _ _ _ RateLimiter.handle
        (Sample.limiter 64)
        [Sample.submission 16, Sample.submission 32]
        (fun _ => true) (by decide +kernel) with
    ⟨trace, s, hRun, hEvents, _⟩
  have hKeeps :
      ∀ transition ∈ trace, transition.event.KeepsParams := by
    apply forall_event RateEvent.KeepsParams hEvents
    intro event hMem
    simp only [List.mem_cons, List.not_mem_nil,
      or_false] at hMem
    rcases hMem with rfl | rfl
    · exact trivial
    · exact trivial
  exact ⟨trace, s, hEvents, hRun,
    no_permanent_block_iff (limiter_waits_nil 64) (by decide)
      hKeeps hRun⟩

/-
  A bucket of 64 bytes: the packet of 123 bytes is accepted
  into the queue and cannot be admitted at any time.
-/
theorem long_packet_never_admitted :
    ∃ (trace : List RateTransition) (s : RateLimiter)
        (tx : List (Nat × PacketContainer)),
      trace.map Transition.event = [Sample.submission 16] ∧
        Run RateLimiter.Step (Sample.limiter 64) trace s ∧
        trace.flatMap acceptedPackets =
          [Sample.queuedPacket] ∧
        0 < s.drainRate ∧
        s.queue.Waits tx ∧
        packetsOf tx = [Sample.queuedPacket] ∧
        ∀ node ∈ tx, ¬ s.Admits node.2.pktLen := by
  rcases
      @exists_run _ _ _ _ RateLimiter.handle
        (Sample.limiter 64) [Sample.submission 16]
        (fun _ => true) (by decide +kernel) with
    ⟨trace, s, hRun, hEvents, _⟩
  have hEmpty := limiter_waits_nil 64
  have hLen := Sample.queuedPacket_pktLen
  refine ⟨trace, s, ?_⟩
  cases hRun with
  | nil => cases hEvents
  | @cons _ s' _ event outputs _ hStep hRest =>
      rcases List.cons.inj hEvents with ⟨hEvent, hNoMore⟩
      have hNil := List.map_eq_nil_iff.mp hNoMore
      simp only at hEvent
      subst hEvent hNil
      rcases hRest.eq_of_nil with rfl
      cases queueOrSendPacket_spec hEmpty hStep with
      | sent hTurn _ _ _ _ =>
          have hFits := (hTurn rfl).2 (by decide)
          have hBucket : (Sample.limiter 64).bucketSize = 64 :=
            rfl
          rw [hLen, hBucket] at hFits
          omega
      | @waits plans node _ hPlans _ hLimits hPacket hWaits =>
          have hSized : node.2.pktLen = 123 := by
            rcases hWaits with ⟨rtx, hHolds⟩
            rw [hHolds.wellSized node (by simp), hPacket, hLen]
            rfl
          have hRate : 0 < s'.drainRate := by
            rw [hLimits.drainRate]
            decide
          have hBucket : s'.bucketSize = 64 :=
            hLimits.bucketSize
          refine ⟨[node], rfl, Run.cons hStep hRest, ?_, hRate,
            hWaits, ?_, ?_⟩
          · have hOutputs := hPlans.outputs_eq
            simp [acceptedPackets, Sample.submission,
              hOutputs]
          · rw [packetsOf_cons, hPacket, packetsOf_nil]
          · intro other hMem
            rcases List.mem_singleton.mp hMem with rfl
            rw [admits_iff hRate, hSized, hBucket]
            decide
      | refused _ _ hLarge _ _ =>
          have hRoom :
              (Sample.limiter 64).queue.params.txMaxSize =
                9000000 :=
            rfl
          rw [hRoom, totalSize_nil, hLen] at hLarge
          omega

end ML

end NapaBaselibs
