import NapaBaselibs.Lib.LeakyBucket
import NapaBaselibs.ML.BucketLeak
import NapaBaselibs.ML.QueueRuns
import Mathlib.Data.Int.ConditionallyCompleteOrder
import Mathlib.Order.ConditionallyCompleteLattice.Basic

/-
  Runs of the calls that use the bucket, with the parameters
  fixed, under a clock that does not go back.

  The calls of `outputRateControl` inside of a call of
  `queueOrSendPacket` or of `freeSpaceInBucket_cb` are
  recorded, each with the state it finds.

  Key definitions include:
    * `ControlCall`, `drainCalls`
    * `BucketCall`, `BucketCall.Step`, `controlCalls`
    * `RateLimiter.Within`, `rateBucket`

  Key theorems include:
    * `ControlCall.log`
    * `drain_log`
    * `leaky_bucket_conforms`
-/

------------------------------------------------------------
-- Calls
------------------------------------------------------------

namespace NapaBaselibs

namespace ML

/- A call of `outputRateControl`, with the state it finds. -/
structure ControlCall where
  before : RateLimiter
  len : Int
  now : Timeval

namespace ControlCall

/- Its answer. -/
def answer (call : ControlCall) : ErrorCode :=
  (outputRateControl call.len call.now call.before).1

/- The state it leaves. -/
def after (call : ControlCall) : RateLimiter :=
  (outputRateControl call.len call.now call.before).2

end ControlCall

/-
  The calls of `outputRateControl` in the loop of
  `freeSpaceInBucket_cb`, up to a fault.
-/
def drainCalls :
    List DrainRound → RateLimiter → List ControlCall
| [], _ => []
| round :: rest, s =>
    if isQueueEmpty s.queue then
      []
    else
      match getFirstPacketSize s.queue with
      | .error _ => []
      | .ok size =>
          let call : ControlCall :=
            ⟨s, size, round.rateClock⟩
          let more : Except QueueFault (List ControlCall) := do
            let (taken, queue) ←
              takePacketToSend call.after.queue
            match taken with
            | none => .ok []
            | some address =>
                let packet ← deref queue address
                let kept ←
                  keepSentPacket round.rtxClock
                    round.rtxStamp
                    packet.value.packet.priority address
                    queue
                .ok
                  (drainCalls rest
                    { call.after with
                      queue := kept
                      bibThen := round.bibClock })
          if call.answer = .ok then
            call :: more.toOption.getD []
          else
            [call]

/- A call that uses the bucket. -/
inductive BucketCall where
  | outputRateControl (len : Nat) (now : Timeval)
  | queueOrSendPacket (pkt : Packet) (input : SubmitInput)
  | freeSpaceInBucket (fired : Nat) (rounds : List DrainRound)

namespace BucketCall

/- The readings of the clock that reach the bucket. -/
def readings : BucketCall → List Timeval
| .outputRateControl _ now => [now]
| .queueOrSendPacket _ input => [input.rateClock]
| .freeSpaceInBucket _ rounds =>
    rounds.flatMap (fun round =>
      [round.rateClock, round.bibClock])

/- The call, with its outputs. -/
def perform
    (s : RateLimiter) : BucketCall → RateResult
| .outputRateControl len now =>
    let (code, s') := ML.outputRateControl len now s
    .ok (s', [.answer code])
| .queueOrSendPacket pkt input =>
    ML.queueOrSendPacket input pkt s
| .freeSpaceInBucket fired rounds =>
    ML.freeSpaceInBucket fired rounds s

/- A call that returns. -/
def Step
    (s : RateLimiter)
    (call : BucketCall)
    (outputs : List RateOutput)
    (s' : RateLimiter) : Prop :=
  call.perform s = .ok (s', outputs)

/- The calls of `outputRateControl` that a call makes. -/
def controlCalls
    (s : RateLimiter) : BucketCall → List ControlCall
| .outputRateControl len now => [⟨s, len, now⟩]
| .queueOrSendPacket pkt input =>
    match createPacketContainer input.address pkt s.queue with
    | .error _ => []
    | .ok queue =>
        if pkt.priority &&& SendJob.hp = 0 ∧
            isQueueEmpty queue = true then
          [⟨{ s with queue := queue }, pkt.pktLen,
            input.rateClock⟩]
        else
          []
| .freeSpaceInBucket fired rounds =>
    drainCalls rounds
      { s with pending := s.pending.eraseIdx fired }

end BucketCall

/- A transition of the bucket. -/
abbrev BucketTransition :=
  Transition RateLimiter BucketCall RateOutput

/- The calls of `outputRateControl` in a run. -/
def runCalls
    (trace : List BucketTransition) : List ControlCall :=
  trace.flatMap (fun transition =>
    transition.event.controlCalls transition.pre)

/-
  The length that is admitted between two times, both
  included.
-/
def admittedLength
    (t₁ t₂ : Int)
    (calls : List ControlCall) : Int :=
  ((calls.filter (fun call =>
      call.answer = .ok ∧
        t₁ ≤ call.now.micros ∧ call.now.micros ≤ t₂)).map
    ControlCall.len).sum

/-
  The readings of the clock of a call do not go back, nor
  behind the one that the bucket has stored.
-/
def Clocked (transition : BucketTransition) : Prop :=
  (∀ t ∈ transition.event.readings, t.IsReading) ∧
    List.IsChain (fun t t' => t.micros ≤ t'.micros)
      (transition.pre.bibThen :: transition.event.readings)

instance
    (transition : BucketTransition) :
    Decidable (Clocked transition) := by
  unfold Clocked
  infer_instance

------------------------------------------------------------
-- One Call Of Rate Control
------------------------------------------------------------

/- The bucket of some size and rate, with a valid queue. -/
structure RateLimiter.Within
    (size rate : Int)
    (s : RateLimiter) : Prop where
  bucketSize : s.bucketSize = size
  drainRate : s.drainRate = rate
  bytes_nonneg : 0 ≤ s.bytesInBucket
  bytes_le : s.bytesInBucket ≤ size
  reading : s.bibThen.IsReading
  waits : ∃ tx, s.queue.Waits tx

/-
  A size, and a rate as `setOutputRateParams` sets it from an
  `int` number of bits.
-/
structure BucketLimits (size rate : Int) : Prop where
  size_lt : size < 2 ^ 30
  rate_set :
    ∃ drainrate : Int32, rate = drainrate.toInt >>> (3 : Nat)
  rate_pos : 0 < rate

theorem BucketLimits.rate_lt
    {size rate : Int}
    (hLimits : BucketLimits size rate) :
    rate < 2 ^ 28 := by
  rcases hLimits.rate_set with ⟨drainrate, rfl⟩
  exact rate_lt_of_int32 drainrate

/-
  The bucket in millionths of a byte and microseconds.  For
  every second that begins one byte more can leak.
-/
def rateBucket
    (size rate : Int)
    (hRate : 0 ≤ rate) : LeakyBucket.Bucket Int Int where
  capacity := 1000000 * size
  allowance t₁ t₂ :=
    rate * (t₂ - t₁) +
      1000000 * (t₂ / 1000000 - t₁ / 1000000)
  allowance_nonneg := by
    intro t₁ t₂ hLe
    have hSec : t₁ / 1000000 ≤ t₂ / 1000000 :=
      Int.ediv_le_ediv (by decide) hLe
    have hTime : 0 ≤ rate * (t₂ - t₁) :=
      Int.mul_nonneg hRate (by omega)
    omega
  allowance_add := by
    intro t₁ t₂ t₃
    ring

/- What a call admits, in millionths of a byte. -/
def ControlCall.entry
    (call : ControlCall) : LeakyBucket.Entry Int Int where
  time := call.now.micros
  amount :=
    if call.answer = .ok then 1000000 * call.len else 0

/- A call on a valid state, by a clock that goes on. -/
structure ControlCall.Timely
    (size rate : Int)
    (call : ControlCall) : Prop where
  within : call.before.Within size rate
  reading : call.now.IsReading
  order : call.before.bibThen.micros ≤ call.now.micros
  len_nonneg : 0 ≤ call.len

section Calls

variable {size rate : Int}

theorem RateLimiter.Within.fluid
    {s : RateLimiter}
    (hLimits : BucketLimits size rate)
    (hWithin : s.Within size rate) :
    s.Fluid := by
  have hSize := hLimits.size_lt
  have hBytes := hWithin.bytes_le
  exact
    { rate_pos := by
        rw [hWithin.drainRate]
        exact hLimits.rate_pos
      rate_lt := by
        rw [hWithin.drainRate]
        exact hLimits.rate_lt
      bytes_nonneg := hWithin.bytes_nonneg
      bytes_lt := by omega
      secs_lt := fun _ => by omega }

/- What rate control does with a rate. -/
theorem ControlCall.answer_cases
    {call : ControlCall}
    (hRate : 0 < call.before.drainRate) :
    call.answer = .ok ∧
        call.after =
          call.before.setBucket
            (call.before.drained call.now + call.len)
            call.now ∧
        call.before.drained call.now + call.len ≤
          call.before.bucketSize ∨
      call.answer = .throttle ∧
        call.after =
          call.before.setBucket
            (call.before.drained call.now) call.now ∧
        call.before.bucketSize <
          call.before.drained call.now + call.len := by
  unfold answer after outputRateControl
  rw [if_neg (Int.not_le.mpr hRate)]
  split
  · rename_i hFits
    exact Or.inl ⟨rfl, rfl, hFits⟩
  · rename_i hLarge
    exact Or.inr ⟨rfl, rfl, Int.not_le.mp hLarge⟩

namespace ControlCall.Timely

variable {call : ControlCall}

/- What is left of the content, and what has gone. -/
theorem drained_bounds
    (hLimits : BucketLimits size rate)
    (hTimely : call.Timely size rate) :
    0 ≤ call.before.drained call.now ∧
      call.before.drained call.now ≤
        call.before.bytesInBucket ∧
      1000000 * call.before.bytesInBucket ≤
        1000000 * call.before.drained call.now +
          (rateBucket size rate
            hLimits.rate_pos.le).allowance
              call.before.bibThen.micros
              call.now.micros := by
  have hWithin := hTimely.within
  have hRate := hLimits.rate_pos.le
  have hNonneg := hWithin.bytes_nonneg
  have hLeak :=
    leak_nonneg hRate hTimely.order
  have hLe :=
    leak_le hRate hWithin.reading hTimely.reading
      hTimely.order
  rw [(hWithin.fluid hLimits).drained_eq hWithin.reading
    hTimely.reading hTimely.order, hWithin.drainRate]
  unfold rateBucket
  simp only
  rw [hWithin.reading.micros_ediv,
    hTimely.reading.micros_ediv]
  refine ⟨?_, ?_, ?_⟩ <;> omega

/- The call keeps to the bucket. -/
theorem log
    (hLimits : BucketLimits size rate)
    (hTimely : call.Timely size rate) :
    LeakyBucket.Log
        (rateBucket size rate hLimits.rate_pos.le)
        (1000000 * call.before.bytesInBucket)
        call.before.bibThen.micros [call.entry]
        (1000000 * call.after.bytesInBucket)
        call.now.micros ∧
      call.after.Within size rate := by
  have hWithin := hTimely.within
  have hLen := hTimely.len_nonneg
  have hBytes := hWithin.bytes_le
  rcases hTimely.drained_bounds hLimits with
    ⟨hLow, hHigh, hGone⟩
  have hRate : 0 < call.before.drainRate := by
    rw [hWithin.drainRate]
    exact hLimits.rate_pos
  rcases ControlCall.answer_cases hRate with
    ⟨hAnswer, hAfter, hFits⟩ | ⟨hAnswer, hAfter, _⟩
  · rw [hWithin.bucketSize] at hFits
    constructor
    · rw [hAfter]
      refine
        .call hTimely.order ?_ ?_ ?_ ?_ (.nil _ _)
      · simp only [entry, hAnswer, if_true]
        omega
      · simp only [entry, hAnswer, if_true,
          RateLimiter.setBucket]
        omega
      · simp only [rateBucket, RateLimiter.setBucket]
        omega
      · simp only [entry, hAnswer, if_true,
          RateLimiter.setBucket]
        omega
    · rw [hAfter]
      exact
        { bucketSize := hWithin.bucketSize
          drainRate := hWithin.drainRate
          bytes_nonneg := by
            simp only [RateLimiter.setBucket]
            omega
          bytes_le := hFits
          reading := hTimely.reading
          waits := hWithin.waits }
  · constructor
    · rw [hAfter]
      refine
        .call hTimely.order ?_ ?_ ?_ ?_ (.nil _ _)
      · simp [entry, hAnswer]
      · simp only [entry, hAnswer, reduceCtorEq, if_false,
          RateLimiter.setBucket]
        omega
      · simp only [rateBucket, RateLimiter.setBucket]
        omega
      · simp only [entry, hAnswer, reduceCtorEq, if_false,
          RateLimiter.setBucket]
        omega
    · rw [hAfter]
      exact
        { bucketSize := hWithin.bucketSize
          drainRate := hWithin.drainRate
          bytes_nonneg := hLow
          bytes_le := hHigh.trans hBytes
          reading := hTimely.reading
          waits := hWithin.waits }

/- Rate control stores the reading of the clock. -/
theorem after_bibThen
    (hLimits : BucketLimits size rate)
    (hTimely : call.Timely size rate) :
    call.after.bibThen = call.now ∧
      call.after.queue = call.before.queue := by
  have hRate : 0 < call.before.drainRate := by
    rw [hTimely.within.drainRate]
    exact hLimits.rate_pos
  rcases ControlCall.answer_cases hRate with
    ⟨_, hAfter, _⟩ | ⟨_, hAfter, _⟩ <;>
    rw [hAfter] <;> exact ⟨rfl, rfl⟩

end ControlCall.Timely

------------------------------------------------------------
-- Calls In A Row
------------------------------------------------------------

/-
  Calls of rate control that take one state to another, with
  nothing else done to the bucket in between.
-/
structure Conforms
    (hLimits : BucketLimits size rate)
    (s : RateLimiter)
    (calls : List ControlCall)
    (s' : RateLimiter) : Prop where
  log :
    LeakyBucket.Log
      (rateBucket size rate hLimits.rate_pos.le)
      (1000000 * s.bytesInBucket) s.bibThen.micros
      (calls.map ControlCall.entry)
      (1000000 * s'.bytesInBucket) s'.bibThen.micros
  within : s'.Within size rate
  timely : ∀ call ∈ calls, call.Timely size rate

namespace Conforms

variable {hLimits : BucketLimits size rate}
variable {s s₁ s' : RateLimiter}
variable {calls calls' : List ControlCall}

theorem trans
    (hFirst : Conforms hLimits s calls s₁)
    (hSecond : Conforms hLimits s₁ calls' s') :
    Conforms hLimits s (calls ++ calls') s' where
  log := by
    rw [List.map_append]
    exact hFirst.log.append hSecond.log
  within := hSecond.within
  timely := by
    intro call hMem
    rcases List.mem_append.mp hMem with hIn | hIn
    · exact hFirst.timely call hIn
    · exact hSecond.timely call hIn

/- No call, and a bucket that is the same. -/
theorem of_same
    (hWithin : s'.Within size rate)
    (hBytes : s'.bytesInBucket = s.bytesInBucket)
    (hThen : s'.bibThen = s.bibThen) :
    Conforms hLimits s [] s' where
  log := by
    rw [hBytes, hThen]
    exact .nil _ _
  within := hWithin
  timely := fun _ hMem => absurd hMem List.not_mem_nil

/- One call, and the bucket that it leaves. -/
theorem of_call
    {call : ControlCall}
    (hTimely : call.Timely size rate)
    (hBytes : s.bytesInBucket = call.before.bytesInBucket)
    (hThen : s.bibThen = call.before.bibThen) :
    Conforms hLimits s [call] call.after where
  log := by
    rw [hBytes, hThen,
      (hTimely.after_bibThen hLimits).1]
    exact (hTimely.log hLimits).1
  within := (hTimely.log hLimits).2
  timely := by
    intro other hMem
    rcases List.mem_singleton.mp hMem with rfl
    exact hTimely

/- The clock is read again, and other things change. -/
theorem of_later
    {q : OutputQueue}
    {tx : List (Nat × PacketContainer)}
    {now : Timeval}
    (hConforms : Conforms hLimits s calls s')
    (hReading : now.IsReading)
    (hOrder : s'.bibThen.micros ≤ now.micros)
    (hWaits : q.Waits tx) :
    Conforms hLimits s calls
      { s' with queue := q, bibThen := now } where
  log := by
    have hWait :=
      LeakyBucket.Log.wait hOrder
        (@LeakyBucket.Log.nil _ _ _ _ _
          (rateBucket size rate hLimits.rate_pos.le)
          (1000000 * s'.bytesInBucket) now.micros)
    have hAll := hConforms.log.append hWait
    rw [List.append_nil] at hAll
    exact hAll
  within :=
    { bucketSize := hConforms.within.bucketSize
      drainRate := hConforms.within.drainRate
      bytes_nonneg := hConforms.within.bytes_nonneg
      bytes_le := hConforms.within.bytes_le
      reading := hReading
      waits := ⟨tx, hWaits⟩ }
  timely := hConforms.timely

end Conforms

/- A packet that waits has no negative size. -/
theorem OutputQueue.Holds.firstSize_nonneg
    {q : OutputQueue}
    {node : Nat × PacketContainer}
    {tx rtx : List (Nat × PacketContainer)}
    (hHolds : q.Holds (node :: tx) rtx) :
    0 ≤ node.2.pktLen :=
  (hHolds.wellSized node (by simp)).nonneg

/- The loop of `freeSpaceInBucket_cb` keeps to the bucket. -/
theorem drain_log
    (hLimits : BucketLimits size rate)
    {rounds : List DrainRound}
    {s s' : RateLimiter}
    {outputs : List RateOutput}
    (hWithin : s.Within size rate)
    (hReadings :
      ∀ round ∈ rounds,
        round.rateClock.IsReading ∧
          round.bibClock.IsReading)
    (hChain :
      List.IsChain (fun t t' => t.micros ≤ t'.micros)
        (s.bibThen ::
          rounds.flatMap (fun round =>
            [round.rateClock, round.bibClock])))
    (hCall : drain rounds s = .ok (s', outputs)) :
    Conforms hLimits s (drainCalls rounds s) s' := by
  induction rounds generalizing s outputs with
  | nil =>
      unfold drain at hCall
      split at hCall
      · cases hCall
        exact .of_same hWithin rfl rfl
      · cases hCall
  | cons round rounds ih =>
      rcases hWithin.waits with ⟨tx, rtx, hHolds⟩
      unfold drain at hCall
      unfold drainCalls
      by_cases hEmpty : isQueueEmpty s.queue = true
      · rw [if_pos hEmpty] at hCall ⊢
        cases hCall
        exact .of_same hWithin rfl rfl
      · rw [if_neg hEmpty] at hCall ⊢
        cases tx with
        | nil =>
            exact absurd (hHolds.isQueueEmpty_iff.mpr rfl)
              hEmpty
        | cons node tx =>
            rw [List.flatMap_cons, List.cons_append,
              List.cons_append, List.nil_append,
              List.isChain_cons_cons,
              List.isChain_cons_cons] at hChain
            rcases hChain with ⟨hOrder, hNext, hRest⟩
            rcases hReadings round List.mem_cons_self with
              ⟨hRateClock, hBibClock⟩
            rw [hHolds.getFirstPacketSize_eq, ok_bind] at hCall
            rw [hHolds.getFirstPacketSize_eq]
            simp only
            have hTimely :
                ControlCall.Timely size rate
                  ⟨s, node.2.pktLen, round.rateClock⟩ :=
              { within := hWithin
                reading := hRateClock
                order := hOrder
                len_nonneg := hHolds.firstSize_nonneg }
            have hFirst :
                Conforms hLimits s
                  [⟨s, node.2.pktLen, round.rateClock⟩] _ :=
              .of_call hTimely rfl rfl
            have hThen :=
              (hTimely.after_bibThen hLimits).1
            have hQueue :
                (ControlCall.after
                  ⟨s, node.2.pktLen,
                    round.rateClock⟩).queue =
                  s.queue :=
              (hTimely.after_bibThen hLimits).2
            simp only at hThen
            generalize hEq :
                (⟨s, node.2.pktLen, round.rateClock⟩ :
                  ControlCall) = call at *
            have hControl :
                outputRateControl node.2.pktLen
                    round.rateClock s =
                  (call.answer, call.after) := by
              rw [← hEq]
              rfl
            rw [hControl] at hCall
            by_cases hAnswer : call.answer = .ok
            · rw [if_pos hAnswer]
              rcases takePacketToSend_spec hHolds with
                ⟨queue, hTake, _, hTaken, hLoose⟩
              rw [hAnswer] at hCall
              simp only [hQueue, hTake, ok_bind,
                deref_eq hLoose.cell] at hCall ⊢
              cases hKeep :
                  keepSentPacket round.rtxClock
                    round.rtxStamp node.2.packet.priority
                    node.1 queue with
              | error fault =>
                  rw [hKeep, error_bind] at hCall
                  cases hCall
              | ok kept =>
                  have hKept :=
                    keepSentPacket_waits hTaken hLoose hKeep
                  rw [hKeep, ok_bind] at hCall
                  rcases bind_eq_ok hCall with
                    ⟨⟨s₂, more⟩, hMore, hRestOk⟩
                  cases hRestOk
                  have hLater :=
                    hFirst.of_later hBibClock
                      (by rw [hThen]; exact hNext) hKept.1
                  have hLoop :=
                    ih hLater.within
                      (fun other hMem =>
                        hReadings other
                          (List.mem_cons_of_mem _ hMem))
                      hRest hMore
                  rw [ok_bind]
                  exact hLater.trans hLoop
            · rw [if_neg hAnswer]
              have hThrottle : call.answer = .throttle := by
                have hRate : 0 < call.before.drainRate := by
                  rw [hTimely.within.drainRate]
                  exact hLimits.rate_pos
                exact
                  ((ControlCall.answer_cases hRate).resolve_left
                    (fun hOk => hAnswer hOk.1)).1
              rw [hThrottle] at hCall
              simp only at hCall
              rcases bind_eq_ok hCall with ⟨next, _, hPlan⟩
              rcases planFreeSpaceInBucketEvent_ok hPlan with
                ⟨pending, rfl⟩
              exact
                hFirst.trans
                  (.of_same
                    { bucketSize := hFirst.within.bucketSize
                      drainRate := hFirst.within.drainRate
                      bytes_nonneg :=
                        hFirst.within.bytes_nonneg
                      bytes_le := hFirst.within.bytes_le
                      reading := hFirst.within.reading
                      waits := hFirst.within.waits }
                    rfl rfl)

/- Everything but the queues and the pending events stays. -/
def KeepsBucket (s s' : RateLimiter) : Prop :=
  ∃ (q : OutputQueue) (pending : List Timeval),
    s' = { s with queue := q, pending := pending }

theorem sendAtOnce_keepsBucket
    {input : SubmitInput}
    {pkt : Packet}
    {s s' : RateLimiter}
    {outputs : List RateOutput}
    (hCall : sendAtOnce input pkt s = .ok (s', outputs)) :
    KeepsBucket s s' := by
  rcases bind_eq_ok hCall with ⟨q, _, hRest⟩
  cases hRest
  exact ⟨q, s.pending, rfl⟩

theorem enqueue_keepsBucket
    {address : Nat}
    {s s' : RateLimiter}
    {outputs : List RateOutput}
    (hCall : enqueue address s = .ok (s', outputs)) :
    KeepsBucket s s' := by
  rcases bind_eq_ok hCall with ⟨⟨code, q⟩, _, hRest⟩
  cases hRest
  exact ⟨q, s.pending, rfl⟩

theorem planAndEnqueue_keepsBucket
    {address : Nat}
    {pktLen : Int}
    {s s' : RateLimiter}
    {outputs : List RateOutput}
    (hCall :
      planAndEnqueue address pktLen s = .ok (s', outputs)) :
    KeepsBucket s s' := by
  rcases bind_eq_ok hCall with ⟨⟨s₁, plans⟩, hPlan, hRest⟩
  rcases bind_eq_ok hRest with ⟨⟨s₂, more⟩, hQueued, hRest⟩
  cases hRest
  rcases planFreeSpaceInBucketEvent_ok hPlan with
    ⟨pending, rfl⟩
  rcases enqueue_keepsBucket hQueued with ⟨q, later, rfl⟩
  exact ⟨q, later, rfl⟩

/- Nothing is done to the bucket after some calls. -/
theorem Conforms.of_keepsBucket
    {hLimits : BucketLimits size rate}
    {s s₁ s' : RateLimiter}
    {calls : List ControlCall}
    {tx : List (Nat × PacketContainer)}
    (hConforms : Conforms hLimits s calls s₁)
    (hKeeps : KeepsBucket s₁ s')
    (hWaits : s'.queue.Waits tx) :
    Conforms hLimits s calls s' := by
  rcases hKeeps with ⟨q, pending, rfl⟩
  have hWithin := hConforms.within
  exact
    { log := hConforms.log
      within :=
        { bucketSize := hWithin.bucketSize
          drainRate := hWithin.drainRate
          bytes_nonneg := hWithin.bytes_nonneg
          bytes_le := hWithin.bytes_le
          reading := hWithin.reading
          waits := ⟨tx, hWaits⟩ }
      timely := hConforms.timely }

/- After a submission there is a list of waiting packets. -/
theorem SubmitEffect.exists_waits
    {s s' : RateLimiter}
    {tx : List (Nat × PacketContainer)}
    {pkt : Packet}
    {outputs : List RateOutput}
    (hEffect : SubmitEffect s tx pkt s' outputs) :
    ∃ tx', s'.queue.Waits tx' := by
  cases hEffect with
  | sent _ _ _ _ hWaits => exact ⟨_, hWaits⟩
  | waits _ _ _ _ _ hWaits => exact ⟨_, hWaits⟩
  | refused _ _ _ _ hWaits => exact ⟨_, hWaits⟩

/- A submission keeps to the bucket. -/
theorem queueOrSendPacket_log
    (hLimits : BucketLimits size rate)
    {pkt : Packet}
    {input : SubmitInput}
    {s s' : RateLimiter}
    {outputs : List RateOutput}
    (hWithin : s.Within size rate)
    (hReading : input.rateClock.IsReading)
    (hOrder : s.bibThen.micros ≤ input.rateClock.micros)
    (hCall :
      queueOrSendPacket input pkt s = .ok (s', outputs)) :
    Conforms hLimits s
      (BucketCall.controlCalls s
        (.queueOrSendPacket pkt input)) s' := by
  rcases hWithin.waits with ⟨tx, hWaits⟩
  rcases (queueOrSendPacket_spec hWaits hCall).exists_waits
    with ⟨tx', hWaits'⟩
  rcases hWaits with ⟨rtx, hHolds⟩
  rcases bind_eq_ok hCall with ⟨queue, hCreate, hRest⟩
  have hCreated : queue.Waits tx :=
    ⟨rtx, (createPacketContainer_spec hHolds hCreate).1⟩
  have hStart :
      Conforms hLimits s [] { s with queue := queue } :=
    (Conforms.of_same (s := s) hWithin rfl
      rfl).of_keepsBucket ⟨queue, s.pending, rfl⟩ hCreated
  simp only at hRest
  simp only [BucketCall.controlCalls, hCreate]
  by_cases hHp : pkt.priority &&& SendJob.hp = 0
  · rw [if_pos hHp] at hRest
    by_cases hEmpty : isQueueEmpty queue = true
    · rw [hEmpty] at hRest
      simp only [Bool.true_eq_false, if_false] at hRest
      rw [if_pos ⟨hHp, hEmpty⟩]
      have hTimely :
          ControlCall.Timely size rate
            ⟨{ s with queue := queue }, pkt.pktLen,
              input.rateClock⟩ :=
        { within := hStart.within
          reading := hReading
          order := hOrder
          len_nonneg := Int.natCast_nonneg _ }
      have hFirst :
          Conforms hLimits s
            [⟨{ s with queue := queue }, pkt.pktLen,
              input.rateClock⟩] _ :=
        .of_call hTimely rfl rfl
      split at hRest
      · rename_i s₁ hControl
        rw [ControlCall.after, hControl] at hFirst
        exact
          hFirst.of_keepsBucket
            (sendAtOnce_keepsBucket hRest) hWaits'
      · rename_i code s₁ _ hControl
        rw [ControlCall.after, hControl] at hFirst
        exact
          hFirst.of_keepsBucket
            (planAndEnqueue_keepsBucket hRest) hWaits'
    · rw [if_neg (fun hBoth => hEmpty hBoth.2)]
      rw [if_pos (Bool.eq_false_iff.mpr hEmpty)] at hRest
      exact
        hStart.of_keepsBucket (enqueue_keepsBucket hRest)
          hWaits'
  · rw [if_neg hHp] at hRest
    rw [if_neg (fun hBoth => hHp hBoth.1)]
    exact
      hStart.of_keepsBucket (sendAtOnce_keepsBucket hRest)
        hWaits'

/- Every call keeps to the bucket. -/
theorem BucketCall.step_log
    (hLimits : BucketLimits size rate)
    {transition : BucketTransition}
    (hWithin : transition.pre.Within size rate)
    (hClocked : Clocked transition)
    (hStep :
      BucketCall.Step transition.pre transition.event
        transition.outputs transition.post) :
    Conforms hLimits transition.pre
      (transition.event.controlCalls transition.pre)
      transition.post := by
  rcases transition with ⟨s, event, outputs, s'⟩
  rcases hClocked with ⟨hReadings, hChain⟩
  cases event with
  | outputRateControl len now =>
      rcases Prod.mk.inj (Except.ok.inj hStep) with
        ⟨hPost, _⟩
      simp only [readings, List.isChain_cons_cons] at hChain
      have hTimely :
          ControlCall.Timely size rate ⟨s, len, now⟩ :=
        { within := hWithin
          reading := hReadings now List.mem_cons_self
          order := hChain.1
          len_nonneg := Int.natCast_nonneg _ }
      simp only at hPost
      rw [← hPost]
      exact .of_call hTimely rfl rfl
  | queueOrSendPacket pkt input =>
      simp only [readings, List.isChain_cons_cons] at hChain
      exact
        queueOrSendPacket_log hLimits hWithin
          (hReadings _ List.mem_cons_self) hChain.1 hStep
  | freeSpaceInBucket fired rounds =>
      rcases hWithin.waits with ⟨tx, hWaits⟩
      have hFired :
          Conforms hLimits s []
            { s with pending := s.pending.eraseIdx fired } :=
        (Conforms.of_same (s := s) hWithin rfl
          rfl).of_keepsBucket ⟨s.queue, _, rfl⟩ hWaits
      refine
        hFired.trans
          (drain_log hLimits hFired.within ?_ hChain hStep)
      intro round hMem
      constructor
      · apply hReadings
        exact List.mem_flatMap.mpr ⟨round, hMem, by simp⟩
      · apply hReadings
        exact List.mem_flatMap.mpr ⟨round, hMem, by simp⟩

/- So does every run. -/
theorem run_log
    (hLimits : BucketLimits size rate)
    {s s' : RateLimiter}
    {trace : List BucketTransition}
    (hWithin : s.Within size rate)
    (hClocked : ∀ transition ∈ trace, Clocked transition)
    (hRun : Run BucketCall.Step s trace s') :
    Conforms hLimits s (runCalls trace) s' := by
  induction hRun with
  | nil => exact .of_same hWithin rfl rfl
  | @cons s s₁ t event outputs trace hStep _ ih =>
      have hFirst :=
        @BucketCall.step_log _ _ hLimits
          ⟨s, event, outputs, s₁⟩ hWithin (hClocked _ List.mem_cons_self) hStep
      have hRest :=
        ih hFirst.within
          (fun transition hMem =>
            hClocked transition
              (List.mem_cons_of_mem _ hMem))
      unfold runCalls at *
      rw [List.flatMap_cons]
      exact hFirst.trans hRest

/- The log admits what the calls admit. -/
theorem admitted_entries
    (t₁ t₂ : Int)
    (calls : List ControlCall) :
    LeakyBucket.admitted t₁ t₂
        (calls.map ControlCall.entry) =
      1000000 * admittedLength t₁ t₂ calls := by
  induction calls with
  | nil => rfl
  | cons call calls ih =>
      by_cases hIn :
          t₁ ≤ call.now.micros ∧ call.now.micros ≤ t₂
      · rw [List.map_cons,
          LeakyBucket.admitted_cons_of_mem _ hIn, ih]
        by_cases hAnswer : call.answer = .ok
        · simp [admittedLength, ControlCall.entry, hAnswer,
            hIn, Int.mul_add]
        · simp [admittedLength, ControlCall.entry, hAnswer]
      · rw [List.map_cons,
          LeakyBucket.admitted_cons_of_not_mem _ hIn, ih]
        have hOut :
            ¬ (call.answer = .ok ∧
              t₁ ≤ call.now.micros ∧
                call.now.micros ≤ t₂) :=
          fun hAll => hIn hAll.2
        unfold admittedLength
        rw [List.filter_cons_of_neg]
        simpa using hOut

end Calls

/-
  In every run of calls, under a clock that does not go back:
  in every window of time no more is admitted than the bucket
  holds and drains, with one byte for each second that begins
  in the window.  The content stays between none and the size
  of the bucket, and no computation wraps.
-/
theorem leaky_bucket_conforms
    {size rate : Int}
    {s s' : RateLimiter}
    {trace : List BucketTransition}
    (hLimits : BucketLimits size rate)
    (hWithin : s.Within size rate)
    (hClocked : ∀ transition ∈ trace, Clocked transition)
    (hRun : Run BucketCall.Step s trace s') :
    (∀ t₁ t₂ : Int, t₁ ≤ t₂ →
        1000000 * admittedLength t₁ t₂ (runCalls trace) ≤
          1000000 * size + rate * (t₂ - t₁) +
            1000000 * (t₂ / 1000000 - t₁ / 1000000)) ∧
      (∀ transition ∈ trace,
        0 ≤ transition.post.bytesInBucket ∧
          transition.post.bytesInBucket ≤ size) ∧
      ∀ call ∈ runCalls trace,
        0 ≤ call.before.bytesInBucket ∧
          call.before.bytesInBucket ≤ size ∧
          0 ≤ call.after.bytesInBucket ∧
          call.after.bytesInBucket ≤ size ∧
          call.before.NoWrap call.now := by
  have hConforms := run_log hLimits hWithin hClocked hRun
  have hLow := hWithin.bytes_nonneg
  have hHigh := hWithin.bytes_le
  refine ⟨?_, ?_, ?_⟩
  · intro t₁ t₂ hWindow
    have hBound :=
      hConforms.log.admitted_le
        (by simp only [rateBucket]; omega)
        (by simp only [rateBucket]; omega) hWindow
    rw [admitted_entries] at hBound
    simp only [rateBucket] at hBound
    omega
  · have hAll :=
      (Run.invariant_of_steps
        (RateLimiter.Within size rate) Clocked
        (fun _ hStep hClocked hWithin =>
          (BucketCall.step_log hLimits hWithin hClocked
            hStep).within)
        hRun hClocked hWithin).2
    intro transition hMem
    have hPost := (hAll transition hMem).2
    exact ⟨hPost.bytes_nonneg, hPost.bytes_le⟩
  · intro call hMem
    have hTimely := hConforms.timely call hMem
    have hBefore := hTimely.within
    have hAfter := (hTimely.log hLimits).2
    exact
      ⟨hBefore.bytes_nonneg, hBefore.bytes_le,
        hAfter.bytes_nonneg, hAfter.bytes_le,
        (hBefore.fluid hLimits).noWrap hBefore.reading
          hTimely.reading hTimely.order⟩

------------------------------------------------------------
-- A Sample Run
------------------------------------------------------------

namespace Sample

/-
  150 bytes are admitted, a packet has to wait, and the first
  event admits it half a second later.
-/
def bucketCalls : List BucketCall :=
  [.outputRateControl 150 ⟨1, 999000⟩,
    .queueOrSendPacket queuedPacket
      { address := 16
        rateClock := ⟨1, 999500⟩
        rtxClock := ⟨1, 999500⟩
        rtxStamp := ⟨1, 999500⟩
        result := .sent },
    .freeSpaceInBucket 0
      [{ rateClock := ⟨2, 400000⟩
         bibClock := ⟨2, 400000⟩
         rtxClock := ⟨2, 400000⟩
         rtxStamp := ⟨2, 400000⟩
         result := .sent }]]

theorem limiter_within :
    (limiter 200).Within 200 1000 where
  bucketSize := by decide
  drainRate := by decide
  bytes_nonneg := by decide
  bytes_le := by decide
  reading := by decide
  waits := by
    refine ⟨[], [], ?_⟩
    have hQueue :
        (limiter 200).queue =
          OutputQueue.initial queueParams :=
      (setOutputRateParams_frame 200 8000 ⟨0, 0⟩ _).1
    rw [hQueue]
    exact OutputQueue.holds_initial queueParams

end Sample

/- What is admitted in the second from the first call on. -/
theorem bucketCalls_conform :
    ∃ (trace : List BucketTransition) (s : RateLimiter),
      trace.map Transition.event = Sample.bucketCalls ∧
        Run BucketCall.Step (Sample.limiter 200) trace s ∧
        admittedLength 1999000 2999000 (runCalls trace) =
          273 ∧
        1000000 *
            admittedLength 1999000 2999000
              (runCalls trace) ≤
          1000000 * 200 + 1000 * 1000000 +
            1000000 * 1 := by
  rcases
      @exists_run _ _ _ _ (fun s call => BucketCall.perform s call)
        (Sample.limiter 200)
        Sample.bucketCalls
        (fun result =>
          result.1.all (fun transition => Clocked transition) &&
            admittedLength 1999000 2999000
              (runCalls result.1) = 273)
        (by decide +kernel) with
    ⟨trace, s, hRun, hEvents, hCheck⟩
  simp only [Bool.and_eq_true, List.all_eq_true,
    decide_eq_true_eq] at hCheck
  rcases hCheck with ⟨hClocked, hAdmitted⟩
  have hBound :=
    (leaky_bucket_conforms
      ⟨by decide, ⟨8000, by decide⟩, by decide⟩
      Sample.limiter_within hClocked hRun).1 1999000 2999000
      (by decide)
  exact ⟨trace, s, hEvents, hRun, hAdmitted, hBound⟩

end ML

end NapaBaselibs
