import Mathlib.Algebra.Order.Group.Defs
import Mathlib.Algebra.Order.Group.Unbundled.Basic
import Mathlib.Algebra.BigOperators.Group.List.Basic
import Mathlib.Tactic.Abel

/-
  Leaky buckets.

  A bucket has a capacity, and an allowance that bounds what
  can leak between two times.  A log lists what was admitted
  and when.  A log conforms if, from one entry to the next,
  the level falls by no more than the allowance, and every
  entry fits below the level it leaves, within the capacity.
  Then what is admitted in any window of time is bounded by
  the capacity and the allowance of the window.

  Key definitions include:
    * `LeakyBucket.Entry`, `LeakyBucket.Bucket`
    * `LeakyBucket.Log`, `LeakyBucket.admitted`

  Key theorems include:
    * `LeakyBucket.Log.append`
    * `LeakyBucket.Log.admitted_le`
-/

------------------------------------------------------------
-- Logs
------------------------------------------------------------

namespace LeakyBucket

/- What was admitted at some time: nothing is also a case. -/
structure Entry (T R : Type) where
  time : T
  amount : R
deriving DecidableEq, Repr

section Logs

variable {T R : Type}
variable [LinearOrder T]
variable [AddCommGroup R] [LinearOrder R]

/- A capacity, and what can leak between two times. -/
structure Bucket
    (T R : Type)
    [LinearOrder T]
    [AddCommGroup R] [LinearOrder R] where
  capacity : R
  allowance : T → T → R
  allowance_nonneg :
    ∀ t₁ t₂, t₁ ≤ t₂ → 0 ≤ allowance t₁ t₂
  allowance_add :
    ∀ t₁ t₂ t₃,
      allowance t₁ t₂ + allowance t₂ t₃ = allowance t₁ t₃

/-
  A conforming log: from a level, last looked at some time,
  to another level and time.  Time can pass without a leak.
-/
inductive Log (bucket : Bucket T R) :
    R → T → List (Entry T R) → R → T → Prop where
  | nil (level : R) (last : T) :
      Log bucket level last [] level last
  | wait
      {level level' : R}
      {last later last' : T}
      {entries : List (Entry T R)}
      (hTime : last ≤ later)
      (hRest : Log bucket level later entries level' last') :
      Log bucket level last entries level' last'
  | call
      {level after level' : R}
      {last last' : T}
      {entry : Entry T R}
      {entries : List (Entry T R)}
      (hTime : last ≤ entry.time)
      (hNonneg : 0 ≤ entry.amount)
      (hBelow : entry.amount ≤ after)
      (hCapacity : after ≤ bucket.capacity)
      (hLeak :
        level + entry.amount ≤
          after + bucket.allowance last entry.time)
      (hRest :
        Log bucket after entry.time entries level' last') :
      Log bucket level last (entry :: entries) level' last'

/- What a log admits between two times, both included. -/
def admitted
    (t₁ t₂ : T)
    (entries : List (Entry T R)) : R :=
  ((entries.filter
    (fun entry => t₁ ≤ entry.time ∧ entry.time ≤ t₂)).map
      Entry.amount).sum

omit [LinearOrder R] in
@[simp] theorem admitted_nil (t₁ t₂ : T) :
    admitted t₁ t₂ ([] : List (Entry T R)) = 0 := rfl

/- An entry in the window counts. -/
omit [LinearOrder R] in
theorem admitted_cons_of_mem
    {t₁ t₂ : T}
    {entry : Entry T R}
    (entries : List (Entry T R))
    (hIn : t₁ ≤ entry.time ∧ entry.time ≤ t₂) :
    admitted t₁ t₂ (entry :: entries) =
      entry.amount + admitted t₁ t₂ entries := by
  have hKept :
      decide (t₁ ≤ entry.time ∧ entry.time ≤ t₂) = true :=
    decide_eq_true hIn
  simp only [admitted, List.filter_cons, hKept, if_true,
    List.map_cons, List.sum_cons]

/- An entry outside of the window does not. -/
omit [LinearOrder R] in
theorem admitted_cons_of_not_mem
    {t₁ t₂ : T}
    {entry : Entry T R}
    (entries : List (Entry T R))
    (hOut : ¬ (t₁ ≤ entry.time ∧ entry.time ≤ t₂)) :
    admitted t₁ t₂ (entry :: entries) =
      admitted t₁ t₂ entries := by
  have hDropped :
      decide (t₁ ≤ entry.time ∧ entry.time ≤ t₂) = false :=
    decide_eq_false hOut
  simp only [admitted, List.filter_cons, hDropped,
    Bool.false_eq_true, if_false]

namespace Log

variable {bucket : Bucket T R}
variable {level level' level'' : R}
variable {last last' last'' : T}
variable {entries entries' : List (Entry T R)}

/- Two logs, one after the other. -/
theorem append
    (hFirst : Log bucket level last entries level' last')
    (hSecond :
      Log bucket level' last' entries' level'' last'') :
    Log bucket level last (entries ++ entries') level''
      last'' := by
  induction hFirst with
  | nil => exact hSecond
  | wait hTime _ ih => exact .wait hTime (ih hSecond)
  | call hTime hNonneg hBelow hCapacity hLeak _ ih =>
      exact
        .call hTime hNonneg hBelow hCapacity hLeak
          (ih hSecond)

/- Later entries are at later times. -/
theorem time_le
    (hLog : Log bucket level last entries level' last')
    {entry : Entry T R}
    (hMem : entry ∈ entries) :
    last ≤ entry.time := by
  induction hLog with
  | nil => cases hMem
  | wait hTime _ ih => exact hTime.trans (ih hMem)
  | call hTime _ _ _ _ _ ih =>
      rcases List.mem_cons.mp hMem with rfl | hLater
      · exact hTime
      · exact hTime.trans (ih hLater)

/- Nothing is admitted in a window that is over. -/
theorem admitted_eq_zero
    (t₁ : T)
    {t₂ : T}
    (hLog : Log bucket level last entries level' last')
    (hOver : t₂ < last) :
    admitted t₁ t₂ entries = 0 := by
  have hNone :
      entries.filter
          (fun entry =>
            t₁ ≤ entry.time ∧ entry.time ≤ t₂) = [] := by
    apply List.filter_eq_nil_iff.mpr
    intro entry hMem
    have hLater := hOver.trans_le (hLog.time_le hMem)
    simp [hLater]
  unfold admitted
  rw [hNone]
  rfl

variable [IsOrderedAddMonoid R]

/- Leaking can go on for longer. -/
theorem allowance_mono
    {t₁ t₂ t₃ : T}
    (hLe : t₁ ≤ t₂) :
    bucket.allowance t₂ t₃ ≤ bucket.allowance t₁ t₃ := by
  rw [← bucket.allowance_add t₁ t₂ t₃]
  exact
    le_add_of_nonneg_left
      (bucket.allowance_nonneg t₁ t₂ hLe)

/-
  From a time inside the window on: what is in the bucket and
  what is still admitted.
-/
theorem level_add_admitted_le
    {t₁ t₂ : T}
    (hLog : Log bucket level last entries level' last')
    (hLevel : level ≤ bucket.capacity)
    (hLow : t₁ ≤ last)
    (hHigh : last ≤ t₂) :
    level + admitted t₁ t₂ entries ≤
      bucket.capacity + bucket.allowance last t₂ := by
  induction hLog with
  | nil level last =>
      rw [admitted_nil, add_zero]
      exact
        le_add_of_le_of_nonneg hLevel
          (bucket.allowance_nonneg last t₂ hHigh)
  | @wait level level' last later last' entries hTime hRest
      ih =>
      rcases le_or_gt later t₂ with hIn | hOver
      · exact
          (ih hLevel (hLow.trans hTime) hIn).trans
            (add_le_add_right (allowance_mono hTime) _)
      · rw [hRest.admitted_eq_zero t₁ hOver, add_zero]
        exact
          le_add_of_le_of_nonneg hLevel
            (bucket.allowance_nonneg last t₂ hHigh)
  | @call level after level' last last' entry entries hTime
      hNonneg hBelow hCapacity hLeak hRest ih =>
      rcases le_or_gt entry.time t₂ with hIn | hOver
      · have hNext := ih hCapacity (hLow.trans hTime) hIn
        calc
          level + admitted t₁ t₂ (entry :: entries)
          _ = level + entry.amount +
                admitted t₁ t₂ entries := by
            rw [admitted_cons_of_mem entries
              ⟨hLow.trans hTime, hIn⟩, add_assoc]
          _ ≤ after + bucket.allowance last entry.time +
                admitted t₁ t₂ entries :=
            add_le_add_left hLeak _
          _ = after + admitted t₁ t₂ entries +
                bucket.allowance last entry.time := by
            abel
          _ ≤ bucket.capacity +
                bucket.allowance entry.time t₂ +
                bucket.allowance last entry.time :=
            add_le_add_left hNext _
          _ = bucket.capacity +
                bucket.allowance last t₂ := by
            rw [← bucket.allowance_add last entry.time t₂]
            abel
      · rw [admitted_cons_of_not_mem entries
            (fun hIn => hOver.not_ge hIn.2),
          hRest.admitted_eq_zero t₁ hOver, add_zero]
        exact
          le_add_of_le_of_nonneg hLevel
            (bucket.allowance_nonneg last t₂ hHigh)

/-
  What a conforming log admits in a window is at most the
  capacity and what can leak in the window.
-/
theorem admitted_le
    {t₁ t₂ : T}
    (hLog : Log bucket level last entries level' last')
    (hLevel : level ≤ bucket.capacity)
    (hCapacity : 0 ≤ bucket.capacity)
    (hWindow : t₁ ≤ t₂) :
    admitted t₁ t₂ entries ≤
      bucket.capacity + bucket.allowance t₁ t₂ := by
  have hAllowed :
      0 ≤ bucket.capacity + bucket.allowance t₁ t₂ :=
    add_nonneg hCapacity
      (bucket.allowance_nonneg t₁ t₂ hWindow)
  induction hLog with
  | nil => exact hAllowed
  | wait _ _ ih => exact ih hLevel
  | @call level after level' last last' entry entries hTime
      hNonneg hBelow hFits hLeak hRest ih =>
      by_cases hIn : t₁ ≤ entry.time ∧ entry.time ≤ t₂
      · calc
          admitted t₁ t₂ (entry :: entries)
          _ = entry.amount + admitted t₁ t₂ entries :=
            admitted_cons_of_mem entries hIn
          _ ≤ after + admitted t₁ t₂ entries :=
            add_le_add_left hBelow _
          _ ≤ bucket.capacity +
                bucket.allowance entry.time t₂ :=
            hRest.level_add_admitted_le hFits hIn.1 hIn.2
          _ ≤ bucket.capacity + bucket.allowance t₁ t₂ :=
            add_le_add_right (allowance_mono hIn.1) _
      · rw [admitted_cons_of_not_mem entries hIn]
        exact ih hFits

end Log

end Logs

end LeakyBucket
