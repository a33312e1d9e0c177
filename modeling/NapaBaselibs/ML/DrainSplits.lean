import Mathlib.Algebra.Order.Group.Abs
import NapaBaselibs.ML.BucketLeak

/-
  Draining the bucket in one call and in many.

  Every call of `outputRateControl` takes whole bytes out of
  the bucket and restarts the clock, and the fraction that the
  division leaves is lost.  So many calls that admit nothing
  drain as much as one, up to a byte, just if the fractions
  they lose add up to no more than a byte beside the one that
  the single call loses, or the bucket is as good as empty.

  Key definitions include:
    * `controlAll`, `AdmitNothing`
    * `truncated`, `DrainsEvenly`

  Key theorems include:
    * `controlAll_bytes`
    * `drains_evenly_iff`
-/

------------------------------------------------------------
-- Calls That Admit Nothing
------------------------------------------------------------

namespace NapaBaselibs

namespace ML

/- Some calls of `outputRateControl`, one after the other. -/
def controlAll
    (s : RateLimiter) :
    List (Nat × Timeval) → RateLimiter
| [] => s
| (len, now) :: calls =>
    controlAll (outputRateControl len now s).2 calls

/- Each call asks for nothing, or is answered `THROTTLE`. -/
def AdmitNothing
    (s : RateLimiter) :
    List (Nat × Timeval) → Prop
| [] => True
| (len, now) :: calls =>
    (len = 0 ∨
        (outputRateControl len now s).1 = .throttle) ∧
      AdmitNothing (outputRateControl len now s).2 calls

/- The readings of the clock do not go back. -/
def Ordered (before : Timeval) (times : List Timeval) : Prop :=
  (∀ t ∈ times, t.IsReading) ∧
    List.IsChain (fun t t' => t.micros ≤ t'.micros)
      (before :: times)

/- The fractions of a byte that are lost, in millionths. -/
def truncated
    (rate : Int) : Timeval → List Timeval → Int
| _, [] => 0
| before, now :: times =>
    remainder rate before now + truncated rate now times

/- What leaks from one reading to the next, in all. -/
def totalLeak
    (rate : Int) : Timeval → List Timeval → Int
| _, [] => 0
| before, now :: times =>
    leak rate before now + totalLeak rate now times

/- The last of some readings. -/
def lastReading : Timeval → List Timeval → Timeval
| before, [] => before
| _, now :: times => lastReading now times

/- All in all the exact amount leaks less what is lost. -/
theorem totalLeak_eq
    (rate : Int)
    (before : Timeval)
    (times : List Timeval) :
    1000000 * totalLeak rate before times =
      rate *
          ((lastReading before times).micros -
            before.micros) -
        truncated rate before times := by
  induction times generalizing before with
  | nil => simp [totalLeak, lastReading, truncated]
  | cons now times ih =>
      have hRest := ih now
      have hFirst := leak_eq rate before now
      simp only [totalLeak, lastReading, truncated]
      rw [Int.mul_sub] at hRest hFirst ⊢
      omega

section Drain

variable {s : RateLimiter}

/- A call that admits nothing only drains the bucket. -/
theorem outputRateControl_of_admitsNothing
    {len : Nat}
    {now : Timeval}
    (hRate : 0 < s.drainRate)
    (hNothing :
      len = 0 ∨ (outputRateControl len now s).1 = .throttle) :
    (outputRateControl len now s).2 =
      s.setBucket (s.drained now) now := by
  unfold outputRateControl at hNothing ⊢
  rw [if_neg (Int.not_le.mpr hRate)] at hNothing ⊢
  split
  · rename_i hFits
    rw [if_pos hFits] at hNothing
    rcases hNothing with rfl | hThrottle
    · simp
    · cases hThrottle
  · rfl

/- A bucket that is drained is still one. -/
theorem RateLimiter.Fluid.drain
    {now : Timeval}
    (hFluid : s.Fluid)
    (hLe : s.drained now ≤ s.bytesInBucket) :
    (s.setBucket (s.drained now) now).Fluid where
  rate_pos := hFluid.rate_pos
  rate_lt := hFluid.rate_lt
  bytes_nonneg := s.drained_nonneg now
  bytes_lt := by
    have hBytes := hFluid.bytes_lt
    simp only [RateLimiter.setBucket]
    omega
  secs_lt := by
    intro hOne
    have hSecs := hFluid.secs_lt hOne
    simp only [RateLimiter.setBucket]
    omega

/-
  Calls that admit nothing leave what has leaked in none of
  them.
-/
theorem controlAll_bytes
    {calls : List (Nat × Timeval)}
    (hFluid : s.Fluid)
    (hReading : s.bibThen.IsReading)
    (hOrdered : Ordered s.bibThen (calls.map Prod.snd))
    (hNothing : AdmitNothing s calls) :
    (controlAll s calls).bytesInBucket =
        max 0
          (s.bytesInBucket -
            totalLeak s.drainRate s.bibThen
              (calls.map Prod.snd)) ∧
      0 ≤ totalLeak s.drainRate s.bibThen
            (calls.map Prod.snd) := by
  induction calls generalizing s with
  | nil =>
      have hBytes := hFluid.bytes_nonneg
      simp only [controlAll, List.map_nil, totalLeak]
      omega
  | cons call calls ih =>
      rcases call with ⟨len, now⟩
      rcases hOrdered with ⟨hReadings, hChain⟩
      rcases hNothing with ⟨hFirst, hRest⟩
      simp only [List.map_cons, List.isChain_cons_cons]
        at hReadings hChain
      have hNow := hReadings now List.mem_cons_self
      have hLeak :=
        leak_nonneg hFluid.rate_pos.le hChain.1
      have hDrained :=
        hFluid.drained_eq hReading hNow hChain.1
      have hBytes := hFluid.bytes_nonneg
      have hAfter :=
        outputRateControl_of_admitsNothing hFluid.rate_pos
          hFirst
      rw [hAfter] at hRest
      rcases
          ih (hFluid.drain (by omega)) hNow
            ⟨fun t hMem =>
              hReadings t (List.mem_cons_of_mem _ hMem),
              hChain.2⟩
            hRest with
        ⟨hEnd, hLater⟩
      simp only [RateLimiter.setBucket] at hEnd hLater
      simp only [controlAll, hAfter, List.map_cons,
        totalLeak, RateLimiter.setBucket]
      rw [hEnd, hDrained]
      omega

end Drain

------------------------------------------------------------
-- One Call And Many
------------------------------------------------------------

/-
  The fractions that are lost in many calls and in one differ
  by no more than a byte, or one byte is left at most in
  either case.  The last case is that of the number of
  seconds that is too large for an `int`.
-/
def DrainsEvenly
    (s : RateLimiter)
    (times : List Timeval)
    (last : Timeval) : Prop :=
  let many := truncated s.drainRate s.bibThen (times ++ [last])
  let one := remainder s.drainRate s.bibThen last
  |many - one| ≤ 1000000 ∨
    1000000 * s.bytesInBucket ≤
      1000000 +
        s.drainRate * (last.micros - s.bibThen.micros) -
          max many one ∨
    s.drainRate = 1 ∧ s.bytesInBucket = 2 ^ 31 - 1

/-
  A state with a rate that was set from an `int` number of
  bits, and a content that some limit has allowed.
-/
structure RateLimiter.Draining (s : RateLimiter) : Prop where
  rate_set :
    ∃ drainrate : Int32, s.drainRate = drainrate.toInt >>> (3 : Nat)
  rate_pos : 0 < s.drainRate
  bytes_nonneg : 0 ≤ s.bytesInBucket
  bytes_lt : s.bytesInBucket < 2 ^ 31
  reading : s.bibThen.IsReading

theorem lastReading_concat
    (before : Timeval)
    (times : List Timeval)
    (last : Timeval) :
    lastReading before (times ++ [last]) = last := by
  induction times generalizing before with
  | nil => rfl
  | cons now times ih => exact ih now

/- The last reading is a reading, and not an earlier one. -/
theorem Ordered.last
    {before last : Timeval}
    {times : List Timeval}
    (hOrdered : Ordered before (times ++ [last])) :
    last.IsReading ∧ before.micros ≤ last.micros := by
  rcases hOrdered with ⟨hReadings, hChain⟩
  refine ⟨hReadings last (by simp), ?_⟩
  clear hReadings
  induction times generalizing before with
  | nil => exact (List.isChain_cons_cons.mp hChain).1
  | cons now times ih =>
      rw [List.cons_append, List.isChain_cons_cons]
        at hChain
      exact hChain.1.trans (ih hChain.2)

section Splits

variable {s : RateLimiter}

theorem RateLimiter.Draining.rate_lt
    (hDraining : s.Draining) :
    s.drainRate < 2 ^ 28 := by
  rcases hDraining.rate_set with ⟨drainrate, hRate⟩
  rw [hRate]
  exact rate_lt_of_int32 drainrate

/- All but one such state drain as an ideal bucket does. -/
theorem RateLimiter.Draining.fluid
    (hDraining : s.Draining)
    (hFits :
      ¬ (s.drainRate = 1 ∧
        s.bytesInBucket = 2 ^ 31 - 1)) :
    s.Fluid where
  rate_pos := hDraining.rate_pos
  rate_lt := hDraining.rate_lt
  bytes_nonneg := hDraining.bytes_nonneg
  bytes_lt := hDraining.bytes_lt
  secs_lt := by
    intro hOne
    have hBytes := hDraining.bytes_lt
    have hOther : s.bytesInBucket ≠ 2 ^ 31 - 1 :=
      fun hFull => hFits ⟨hOne, hFull⟩
    omega

/- In the one state that is left a call empties the bucket. -/
theorem drained_of_secs_wrap
    {now : Timeval}
    (hWrap :
      s.drainRate = 1 ∧ s.bytesInBucket = 2 ^ 31 - 1)
    (hSec : s.bibThen.tvSec ≤ now.tvSec) :
    s.drained now = 0 := by
  have hSecs : s.totalDrainSecs = -2 ^ 31 := by
    unfold RateLimiter.totalDrainSecs
    rw [hWrap.1, hWrap.2]
    decide
  unfold RateLimiter.drained
  rw [if_pos]
  rw [hSecs]
  omega

/- So do more calls. -/
theorem controlAll_of_secs_wrap
    {calls : List (Nat × Timeval)}
    (hDraining : s.Draining)
    (hWrap :
      s.drainRate = 1 ∧ s.bytesInBucket = 2 ^ 31 - 1)
    (hNe : calls ≠ [])
    (hOrdered : Ordered s.bibThen (calls.map Prod.snd))
    (hNothing : AdmitNothing s calls) :
    (controlAll s calls).bytesInBucket = 0 := by
  rcases List.exists_cons_of_ne_nil hNe with
    ⟨⟨len, now⟩, rest, rfl⟩
  rcases hOrdered with ⟨hReadings, hChain⟩
  rcases hNothing with ⟨hFirst, hRest⟩
  simp only [List.map_cons, List.isChain_cons_cons]
    at hReadings hChain
  have hNow := hReadings now List.mem_cons_self
  have hZero : s.drained now = 0 :=
    drained_of_secs_wrap hWrap
      (Timeval.tvSec_le hDraining.reading hNow hChain.1)
  have hAfter :=
    outputRateControl_of_admitsNothing hDraining.rate_pos
      hFirst
  rw [hZero] at hAfter
  rw [hAfter] at hRest
  have hFluid : (s.setBucket 0 now).Fluid :=
    { rate_pos := hDraining.rate_pos
      rate_lt := hDraining.rate_lt
      bytes_nonneg := Int.le_refl 0
      bytes_lt := by
        change (0 : Int) < 2 ^ 31
        decide
      secs_lt := fun _ => by
        change (0 : Int) + 1 < 2 ^ 31
        decide }
  rcases
      controlAll_bytes hFluid hNow
        ⟨fun t hMem =>
          hReadings t (List.mem_cons_of_mem _ hMem),
          hChain.2⟩
        hRest with
    ⟨hEnd, hLeak⟩
  simp only [RateLimiter.setBucket] at hEnd hLeak
  rw [controlAll, hAfter, RateLimiter.setBucket, hEnd]
  omega

/-
  For every state with a rate, and every sequence of readings
  at which calls admit nothing: they leave what one call at
  the last reading leaves, up to a byte, just if they drain
  evenly.
-/
theorem drains_evenly_iff
    {calls : List (Nat × Timeval)}
    {len : Nat}
    {last : Timeval}
    (hDraining : s.Draining)
    (hOrdered :
      Ordered s.bibThen (calls.map Prod.snd ++ [last]))
    (hNothing : AdmitNothing s (calls ++ [(len, last)])) :
    |(controlAll s (calls ++ [(len, last)])).bytesInBucket -
          (outputRateControl 0 last s).2.bytesInBucket| ≤
        1 ↔
      DrainsEvenly s (calls.map Prod.snd) last := by
  have hRate := hDraining.rate_pos
  rcases hOrdered.last with ⟨hLast, hOrder⟩
  have hTimes :
      (calls ++ [(len, last)]).map Prod.snd =
        calls.map Prod.snd ++ [last] := by
    simp
  have hOne :
      (outputRateControl 0 last s).2.bytesInBucket =
        s.drained last :=
    congrArg RateLimiter.bytesInBucket
      (@outputRateControl_of_admitsNothing _ 0 _ hRate
        (Or.inl rfl))
  rw [hOne]
  by_cases hWrap :
      s.drainRate = 1 ∧ s.bytesInBucket = 2 ^ 31 - 1
  · -- the first call empties the bucket, and so does one
    have hEmpty : s.drained last = 0 :=
      drained_of_secs_wrap hWrap
        (Timeval.tvSec_le hDraining.reading hLast hOrder)
    have hAll :=
      controlAll_of_secs_wrap hDraining hWrap
        (List.append_ne_nil_of_right_ne_nil calls
          (List.cons_ne_nil (len, last) []))
        (hTimes.symm ▸ hOrdered) hNothing
    rw [hAll, hEmpty]
    exact iff_of_true (by decide) (Or.inr (Or.inr hWrap))
  · have hFluid := hDraining.fluid hWrap
    rw [← hTimes] at hOrdered
    have hMany :=
      (controlAll_bytes hFluid hDraining.reading hOrdered
        hNothing).1
    have hExactMany :=
      totalLeak_eq s.drainRate s.bibThen
        (calls.map Prod.snd ++ [last])
    have hExactOne := leak_eq s.drainRate s.bibThen last
    rw [lastReading_concat] at hExactMany
    rw [hMany, hTimes,
      hFluid.drained_eq hDraining.reading hLast hOrder]
    unfold DrainsEvenly
    simp only [hWrap, or_false, abs_le]
    omega

end Splits

------------------------------------------------------------
-- Sample Intervals
------------------------------------------------------------

namespace Sample

/- 100 bytes were admitted after one second. -/
def filled : RateLimiter :=
  { RateLimiter.initial
      { txMaxSize := 9000000
        rtxMaxSize := 9000000
        maxTimeToHold := ⟨5, 0⟩ } with
    bucketSize := 200
    drainRate := 1000
    bytesInBucket := 100
    bibThen := ⟨1, 0⟩ }

theorem filled_draining : filled.Draining where
  rate_set := ⟨8000, by decide⟩
  rate_pos := by decide
  bytes_nonneg := by decide
  bytes_lt := by decide
  reading := by decide

end Sample

/- Two calls at half a millisecond's distance drain evenly. -/
theorem two_calls_drain_evenly :
    |(controlAll Sample.filled
            [(0, ⟨1, 500⟩), (0, ⟨1, 1000⟩)]).bytesInBucket -
          (outputRateControl 0 ⟨1, 1000⟩
            Sample.filled).2.bytesInBucket| ≤
        1 := by
  refine
    (@drains_evenly_iff _ [(0, ⟨1, 500⟩)] 0 ⟨1, 1000⟩
      Sample.filled_draining ?_ ?_).mpr
      ?_
  · exact ⟨by decide, by decide⟩
  · exact ⟨Or.inl rfl, Or.inl rfl, trivial⟩
  · left
    decide

/-
  Three calls at a distance of 999 microseconds leave all of
  the 100 bytes in the bucket, where one call takes two out.
-/
theorem frequent_calls_drain_nothing :
    AdmitNothing Sample.filled
        [(0, ⟨1, 999⟩), (0, ⟨1, 1998⟩), (0, ⟨1, 2997⟩)] ∧
      (controlAll Sample.filled
          [(0, ⟨1, 999⟩), (0, ⟨1, 1998⟩),
            (0, ⟨1, 2997⟩)]).bytesInBucket = 100 ∧
      (outputRateControl 0 ⟨1, 2997⟩
          Sample.filled).2.bytesInBucket = 98 ∧
      ¬ |(controlAll Sample.filled
              [(0, ⟨1, 999⟩), (0, ⟨1, 1998⟩),
                (0, ⟨1, 2997⟩)]).bytesInBucket -
            (outputRateControl 0 ⟨1, 2997⟩
              Sample.filled).2.bytesInBucket| ≤ 1 := by
  refine
    ⟨⟨Or.inl rfl, Or.inl rfl, Or.inl rfl, trivial⟩, ?_, ?_,
      ?_⟩ <;> decide

end ML

end NapaBaselibs
