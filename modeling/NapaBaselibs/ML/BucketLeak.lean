import Mathlib.Tactic.Ring
import NapaBaselibs.ML.RateLimiter

/-
  What leaks out of the bucket between two readings of the
  clock.

  `outputRateControl` computes it from the seconds and the
  microseconds apart.  Over the integers it is the exact
  amount less a remainder, which is a fraction of a byte, and
  negative only when the seconds have changed.  As long as
  the clock does not go back, the unsigned sum does not wrap
  and the shortcut for a long pause changes nothing.

  Key definitions include:
    * `Timeval.micros`, `Timeval.IsReading`
    * `leak`, `remainder`
    * `RateLimiter.Fluid`, `RateLimiter.NoWrap`

  Key theorems include:
    * `leak_eq`, `leak_nonneg`, `leak_le`
    * `RateLimiter.Fluid.noWrap`
    * `RateLimiter.Fluid.drained_eq`
-/

------------------------------------------------------------
-- Readings Of The Clock
------------------------------------------------------------

namespace NapaBaselibs

namespace ML

/- A time in microseconds. -/
def Timeval.micros (t : Timeval) : Int :=
  t.tvSec * 1000000 + t.tvUsec

/- What `gettimeofday` can store. -/
def Timeval.IsReading (t : Timeval) : Prop :=
  0 ≤ t.tvUsec ∧ t.tvUsec < 1000000

instance
    (t : Timeval) :
    Decidable t.IsReading := by
  unfold Timeval.IsReading
  infer_instance

/- The seconds of a reading. -/
theorem Timeval.IsReading.micros_ediv
    {t : Timeval}
    (hReading : t.IsReading) :
    t.micros / 1000000 = t.tvSec := by
  rcases hReading with ⟨hLow, hHigh⟩
  unfold micros
  omega

/- A later reading has no smaller number of seconds. -/
theorem Timeval.tvSec_le
    {before now : Timeval}
    (hBefore : before.IsReading)
    (hNow : now.IsReading)
    (hOrder : before.micros ≤ now.micros) :
    before.tvSec ≤ now.tvSec := by
  rw [← hBefore.micros_ediv, ← hNow.micros_ediv]
  exact Int.ediv_le_ediv (by decide) hOrder

------------------------------------------------------------
-- The Exact Leak
------------------------------------------------------------

/- What leaks between two readings, without overflow. -/
def leak (rate : Int) (before now : Timeval) : Int :=
  rate * (now.tvSec - before.tvSec) +
    (rate * (now.tvUsec - before.tvUsec)).tdiv 1000000

/- What the division leaves, in millionths of a byte. -/
def remainder (rate : Int) (before now : Timeval) : Int :=
  (rate * (now.tvUsec - before.tvUsec)).tmod 1000000

section Leak

variable {rate : Int}
variable {before now : Timeval}

/- The leak is the exact amount less the remainder. -/
theorem leak_eq
    (rate : Int)
    (before now : Timeval) :
    1000000 * leak rate before now =
      rate * (now.micros - before.micros) -
        remainder rate before now := by
  have hSplit :=
    Int.tmod_add_mul_tdiv
      (rate * (now.tvUsec - before.tvUsec)) 1000000
  have hMicros :
      rate * (now.micros - before.micros) =
        1000000 * (rate * (now.tvSec - before.tvSec)) +
          rate * (now.tvUsec - before.tvUsec) := by
    unfold Timeval.micros
    ring
  unfold leak remainder
  omega

/- The remainder is a fraction of a byte. -/
theorem abs_remainder_lt
    (rate : Int)
    (before now : Timeval) :
    -1000000 < remainder rate before now ∧
      remainder rate before now < 1000000 := by
  have hLow :=
    Int.lt_tmod_of_pos
      (rate * (now.tvUsec - before.tvUsec))
      (show (0 : Int) < 1000000 by decide)
  have hHigh :=
    Int.tmod_lt_of_pos
      (rate * (now.tvUsec - before.tvUsec))
      (show (0 : Int) < 1000000 by decide)
  exact ⟨hLow, hHigh⟩

/- Within a second it is not negative. -/
theorem remainder_nonneg
    (hRate : 0 ≤ rate)
    (hUsec : before.tvUsec ≤ now.tvUsec) :
    0 ≤ remainder rate before now :=
  Int.tmod_nonneg _ (Int.mul_nonneg hRate (by omega))

/- The time that passes is worth no negative amount. -/
theorem mul_micros_nonneg
    (hRate : 0 ≤ rate)
    (hOrder : before.micros ≤ now.micros) :
    0 ≤ rate * (now.micros - before.micros) :=
  Int.mul_nonneg hRate (by omega)

/- Nothing leaks in. -/
theorem leak_nonneg
    (hRate : 0 ≤ rate)
    (hOrder : before.micros ≤ now.micros) :
    0 ≤ leak rate before now := by
  have hExact := leak_eq rate before now
  have hRemainder := abs_remainder_lt rate before now
  have hTime := mul_micros_nonneg hRate hOrder
  omega

/-
  What leaks is no more than the exact amount, and less than
  one byte more for every second that begins in between.
-/
theorem leak_le
    (hRate : 0 ≤ rate)
    (hBefore : before.IsReading)
    (hNow : now.IsReading)
    (hOrder : before.micros ≤ now.micros) :
    1000000 * leak rate before now ≤
      rate * (now.micros - before.micros) +
        1000000 * (now.tvSec - before.tvSec) := by
  have hExact := leak_eq rate before now
  have hRemainder := abs_remainder_lt rate before now
  have hSec := Timeval.tvSec_le hBefore hNow hOrder
  by_cases hSame : now.tvSec = before.tvSec
  · have hUsec : before.tvUsec ≤ now.tvUsec := by
      unfold Timeval.micros at hOrder
      omega
    have hNonneg := remainder_nonneg hRate hUsec
    omega
  · omega

/- The microseconds are worth no more than a second. -/
theorem leak_le_seconds
    (hRate : 0 ≤ rate)
    (hBefore : before.IsReading)
    (hNow : now.IsReading) :
    leak rate before now ≤
      rate * (now.tvSec - before.tvSec) + rate := by
  rcases hBefore with ⟨hLow, _⟩
  rcases hNow with ⟨_, hHigh⟩
  have hUsec :
      rate * (now.tvUsec - before.tvUsec) ≤
        rate * 1000000 :=
    Int.mul_le_mul_of_nonneg_left (by omega) hRate
  have hSplit :=
    Int.tmod_add_mul_tdiv
      (rate * (now.tvUsec - before.tvUsec)) 1000000
  have hRemainder := abs_remainder_lt rate before now
  unfold leak
  unfold remainder at hRemainder
  omega

end Leak

------------------------------------------------------------
-- The Computed Leak
------------------------------------------------------------

/- A rate that is set from an `int` number of bits. -/
theorem rate_lt_of_int32 (drainrate : Int32) :
    drainrate.toInt >>> (3 : Nat) < 2 ^ 28 := by
  have hHigh := drainrate.toInt_lt
  rw [Int.shiftRight_eq_div_pow]
  omega

/-
  A bucket with a rate as it is set from an `int`, and with a
  content that is an `int`.  The numbers of seconds until it
  is empty fit in an `int`, except in one case.
-/
structure RateLimiter.Fluid (s : RateLimiter) : Prop where
  rate_pos : 0 < s.drainRate
  rate_lt : s.drainRate < 2 ^ 28
  bytes_nonneg : 0 ≤ s.bytesInBucket
  bytes_lt : s.bytesInBucket < 2 ^ 31
  secs_lt : s.drainRate = 1 → s.bytesInBucket + 1 < 2 ^ 31

/-
  No result of a computation is different from the one over
  the integers: the seconds until the bucket is empty, and
  unless they are over, the two values of what has leaked.
-/
structure RateLimiter.NoWrap
    (s : RateLimiter)
    (now : Timeval) : Prop where
  secs :
    s.totalDrainSecs =
      s.bytesInBucket.tdiv s.drainRate + 1
  seconds :
    now.tvSec - s.bibThen.tvSec - 1 ≤ s.totalDrainSecs →
      0 ≤ s.drainRate * (now.tvSec - s.bibThen.tvSec) ∧
        s.drainRate * (now.tvSec - s.bibThen.tvSec) < 2 ^ 32
  total :
    now.tvSec - s.bibThen.tvSec - 1 ≤ s.totalDrainSecs →
      0 ≤ leak s.drainRate s.bibThen now ∧
        leak s.drainRate s.bibThen now < 2 ^ 32

/- Then what is computed as leaked has leaked. -/
theorem RateLimiter.NoWrap.leaked_eq
    {s : RateLimiter}
    {now : Timeval}
    (hNoWrap : s.NoWrap now)
    (hSecs :
      now.tvSec - s.bibThen.tvSec - 1 ≤ s.totalDrainSecs) :
    s.leaked now = leak s.drainRate s.bibThen now := by
  rcases hNoWrap.seconds hSecs with ⟨hLow, hHigh⟩
  rcases hNoWrap.total hSecs with ⟨hLow', hHigh'⟩
  unfold leaked
  simp only
  rw [Int.emod_eq_of_lt hLow hHigh]
  exact Int.emod_eq_of_lt hLow' hHigh'

namespace RateLimiter.Fluid

variable {s : RateLimiter}
variable {now : Timeval}

/- The quotient of the content and the rate. -/
theorem tdiv_bounds
    (hFluid : s.Fluid) :
    0 ≤ s.bytesInBucket.tdiv s.drainRate ∧
      s.drainRate *
          s.bytesInBucket.tdiv s.drainRate ≤
        s.bytesInBucket ∧
      s.bytesInBucket <
        s.drainRate *
          (s.bytesInBucket.tdiv s.drainRate + 1) := by
  have hRate := hFluid.rate_pos
  have hBytes := hFluid.bytes_nonneg
  have hSplit :=
    Int.tmod_add_mul_tdiv s.bytesInBucket s.drainRate
  have hLow := Int.tmod_nonneg s.drainRate hBytes
  have hHigh := Int.tmod_lt_of_pos s.bytesInBucket hRate
  refine ⟨Int.tdiv_nonneg hBytes hRate.le, ?_, ?_⟩
  · omega
  · rw [Int.mul_add, Int.mul_one]
    omega

/- The seconds until the bucket is empty are an `int`. -/
theorem totalDrainSecs_eq
    (hFluid : s.Fluid) :
    s.totalDrainSecs =
      s.bytesInBucket.tdiv s.drainRate + 1 := by
  rcases hFluid.tdiv_bounds with ⟨hLow, hHigh, _⟩
  have hRate := hFluid.rate_pos
  have hBytes := hFluid.bytes_lt
  apply toCInt_eq_self
  · omega
  · by_cases hOne : s.drainRate = 1
    · have hSecs := hFluid.secs_lt hOne
      rw [hOne, Int.one_mul] at hHigh
      rw [hOne]
      omega
    · have hTwice :
          2 * s.bytesInBucket.tdiv s.drainRate ≤
            s.drainRate *
              s.bytesInBucket.tdiv s.drainRate :=
        Int.mul_le_mul_of_nonneg_right (by omega) hLow
      omega

/- A clock that does not go back makes nothing wrap. -/
theorem noWrap
    (hFluid : s.Fluid)
    (hBefore : s.bibThen.IsReading)
    (hNow : now.IsReading)
    (hOrder : s.bibThen.micros ≤ now.micros) :
    s.NoWrap now := by
  rcases hFluid.tdiv_bounds with ⟨_, hHigh, _⟩
  have hSecs := hFluid.totalDrainSecs_eq
  have hRate := hFluid.rate_pos
  have hRateLt := hFluid.rate_lt
  have hBytes := hFluid.bytes_lt
  have hSec := Timeval.tvSec_le hBefore hNow hOrder
  have hFirst :
      now.tvSec - s.bibThen.tvSec - 1 ≤ s.totalDrainSecs →
        s.drainRate * (now.tvSec - s.bibThen.tvSec) ≤
          s.bytesInBucket + 2 * s.drainRate := by
    intro hPause
    rw [hSecs] at hPause
    have hMul :
        s.drainRate * (now.tvSec - s.bibThen.tvSec) ≤
          s.drainRate *
            (s.bytesInBucket.tdiv s.drainRate + 2) :=
      Int.mul_le_mul_of_nonneg_left (by omega) hRate.le
    rw [Int.mul_add] at hMul
    omega
  have hLeak := leak_le_seconds hRate.le hBefore hNow
  refine
    { secs := hSecs
      seconds := fun hPause =>
        ⟨Int.mul_nonneg hRate.le (by omega), ?_⟩
      total := fun hPause =>
        ⟨leak_nonneg hRate.le hOrder, ?_⟩ }
  · have hMul := hFirst hPause
    omega
  · have hMul := hFirst hPause
    omega

/-
  After a pause that is longer than the seconds to drain,
  everything has leaked.
-/
theorem bytes_le_leak
    (hFluid : s.Fluid)
    (hBefore : s.bibThen.IsReading)
    (hNow : now.IsReading)
    (hPause :
      s.totalDrainSecs < now.tvSec - s.bibThen.tvSec - 1) :
    s.bytesInBucket ≤ leak s.drainRate s.bibThen now := by
  rcases hFluid.tdiv_bounds with ⟨_, _, hNext⟩
  rcases hBefore with ⟨_, hUsecBefore⟩
  rcases hNow with ⟨hUsecNow, _⟩
  have hRate := hFluid.rate_pos
  have hExact := leak_eq s.drainRate s.bibThen now
  have hRemainder :=
    abs_remainder_lt s.drainRate s.bibThen now
  rw [hFluid.totalDrainSecs_eq] at hPause
  have hMicros :
      (s.bytesInBucket.tdiv s.drainRate + 2) * 1000000 ≤
        now.micros - s.bibThen.micros := by
    unfold Timeval.micros
    omega
  have hMul :=
    Int.mul_le_mul_of_nonneg_left hMicros hRate.le
  have hEnough :
      s.drainRate *
          ((s.bytesInBucket.tdiv s.drainRate + 2) *
            1000000) =
        1000000 *
            (s.drainRate *
              (s.bytesInBucket.tdiv s.drainRate + 1)) +
          1000000 * s.drainRate := by
    ring
  omega

/-
  What is in the bucket after it has leaked: the shortcut and
  the comparison both only keep it from going below zero.
-/
theorem drained_eq
    (hFluid : s.Fluid)
    (hBefore : s.bibThen.IsReading)
    (hNow : now.IsReading)
    (hOrder : s.bibThen.micros ≤ now.micros) :
    s.drained now =
      max 0
        (s.bytesInBucket -
          leak s.drainRate s.bibThen now) := by
  have hNoWrap := hFluid.noWrap hBefore hNow hOrder
  unfold drained
  split
  · rename_i hPause
    have hAll := hFluid.bytes_le_leak hBefore hNow hPause
    omega
  · rename_i hPause
    rw [hNoWrap.leaked_eq (by omega)]
    split <;> omega

end RateLimiter.Fluid

end ML

end NapaBaselibs
