import Mathlib.Data.List.Basic
import Mathlib.Data.List.Count

/-
  Sets of one-shot timers with a clock.

  Every timer has a key and a deadline.  A step takes the
  clock forward, may fire one timer that is due, and may arm
  new ones.  Keys are compared up to an equivalence: timers
  with equivalent keys form one chain when each is armed by
  the one before it.

  Key definitions include:
    * `TimerSet`, `TimerSet.Step`
    * `TimerSet.count`, `TimerSet.Single`
    * `TimerSet.Orderly`
    * `TimerSet.NoEarlier`

  Key theorems include:
    * `TimerSet.Step.single`
    * `TimerSet.Step.not_single`
    * `TimerSet.Step.noEarlier`
    * `TimerSet.Step.noEarlier_restart`
    * `TimerSet.Step.le_of_noEarlier`
-/

------------------------------------------------------------
-- Steps
------------------------------------------------------------

/- Timers that are pending, and the time. -/
structure TimerSet (K : Type) where
  now : Nat
  pending : List (K × Nat)

namespace TimerSet

variable {K : Type}

/- New timers, given by key and delay. -/
def arm
    (time : Nat)
    (started : List (K × Nat)) : List (K × Nat) :=
  started.map (fun timer => (timer.1, time + timer.2))

/- A step at a time, with what fires and what is started. -/
inductive Step
    [DecidableEq K]
    (t : TimerSet K)
    (time : Nat) :
    Option K → List (K × Nat) → TimerSet K → Prop where
  | idle
      {started : List (K × Nat)}
      (hTime : t.now ≤ time) :
      Step t time none started
        ⟨time, t.pending ++ arm time started⟩
  | fire
      {key : K}
      {deadline : Nat}
      {started : List (K × Nat)}
      (hTime : t.now ≤ time)
      (hPending : (key, deadline) ∈ t.pending)
      (hDue : deadline ≤ time) :
      Step t time (some key) started
        ⟨time,
          t.pending.erase (key, deadline) ++
            arm time started⟩

------------------------------------------------------------
-- Counting
------------------------------------------------------------

variable (r : K → K → Prop) [DecidableRel r]

/- The pending timers with a key. -/
def count
    (t : TimerSet K)
    (key : K) : Nat :=
  t.pending.countP (fun timer => decide (r timer.1 key))

/- No key has two timers. -/
def Single (t : TimerSet K) : Prop :=
  ∀ key, t.count r key ≤ 1

/-
  A timer is started when there is none with its key, or by
  one with the same key that fires.
-/
def Orderly
    (t : TimerSet K)
    (fired : Option K)
    (started : List (K × Nat)) : Prop :=
  started = [] ∨
    ∃ key delay, started = [(key, delay)] ∧
      match fired with
      | none => t.count r key = 0
      | some old => r key old

/-
  No timer with the key fires before a time: those pending
  are not due before, and there is one, or the time is over.
-/
structure NoEarlier
    (t : TimerSet K)
    (key : K)
    (time : Nat) : Prop where
  deadline :
    ∀ timer ∈ t.pending, r timer.1 key → time ≤ timer.2
  waits : 0 < t.count r key ∨ time ≤ t.now

variable {r}

section Counts

variable {t t' : TimerSet K}
variable {key : K}

theorem mem_arm_iff
    {time : Nat}
    {started : List (K × Nat)}
    {timer : K × Nat} :
    timer ∈ arm time started ↔
      ∃ new ∈ started,
        timer = (new.1, time + new.2) := by
  unfold arm
  rw [List.mem_map]
  constructor
  · rintro ⟨new, hMem, rfl⟩
    exact ⟨new, hMem, rfl⟩
  · rintro ⟨new, hMem, rfl⟩
    exact ⟨new, hMem, rfl⟩

/- Keys that are equivalent have the same timers. -/
theorem count_congr
    {other : K}
    (hEquiv : Equivalence r)
    (hSame : r key other) :
    t.count r key = t.count r other := by
  unfold count
  congr 1
  funext timer
  rw [decide_eq_decide]
  constructor
  · intro hKey
    exact hEquiv.trans hKey hSame
  · intro hOther
    exact hEquiv.trans hOther (hEquiv.symm hSame)

theorem countP_arm
    (time : Nat)
    (started : List (K × Nat)) :
    (arm time started).countP
        (fun timer => decide (r timer.1 key)) =
      started.countP
        (fun timer => decide (r timer.1 key)) := by
  unfold arm
  rw [List.countP_map]
  rfl

variable [DecidableEq K]

theorem Step.count_idle
    {time : Nat}
    {started : List (K × Nat)}
    (hStep : Step t time none started t')
    (key : K) :
    t'.count r key =
      t.count r key +
        started.countP
          (fun timer => decide (r timer.1 key)) := by
  cases hStep with
  | idle =>
      unfold count
      rw [List.countP_append, countP_arm]

/- The timer that fires is no longer counted. -/
theorem Step.count_fire
    {time : Nat}
    {old : K}
    {started : List (K × Nat)}
    (hStep : Step t time (some old) started t')
    (key : K) :
    t'.count r key + (if r old key then 1 else 0) =
      t.count r key +
        started.countP
          (fun timer => decide (r timer.1 key)) := by
  cases hStep with
  | @fire _ deadline _ _ hPending _ =>
      unfold count
      rw [List.countP_append, countP_arm]
      have hErased :=
        (List.perm_cons_erase hPending).countP_eq
          (fun timer => decide (r timer.1 key))
      rw [hErased, List.countP_cons]
      by_cases hKey : r old key
      · simp only [hKey, if_true, decide_true]
        omega
      · simp only [hKey, if_false, decide_false,
          Bool.false_eq_true]
        omega

end Counts

------------------------------------------------------------
-- One Chain For Each Key
------------------------------------------------------------

section Chains

variable [DecidableEq K]
variable {t t' : TimerSet K}
variable {time : Nat}
variable {fired : Option K}
variable {started : List (K × Nat)}

/- An orderly step does not make a second timer. -/
theorem Step.single
    (hEquiv : Equivalence r)
    (hStep : Step t time fired started t')
    (hOrderly : t.Orderly r fired started)
    (hSingle : t.Single r) :
    t'.Single r := by
  intro key
  have hOld := hSingle key
  cases fired with
  | none =>
      have hCount := hStep.count_idle (r := r) key
      rcases hOrderly with rfl | ⟨new, delay, rfl, hNone⟩
      · rw [List.countP_nil] at hCount
        omega
      · rw [List.countP_singleton] at hCount
        simp only [decide_eq_true_eq] at hCount
        by_cases hKey : r new key
        · have hSame := count_congr (t := t) hEquiv hKey
          simp only at hNone
          rw [if_pos hKey] at hCount
          omega
        · rw [if_neg hKey] at hCount
          omega
  | some old =>
      have hCount := hStep.count_fire (r := r) key
      rcases hOrderly with rfl | ⟨new, delay, rfl, hAgain⟩
      · rw [List.countP_nil] at hCount
        omega
      · rw [List.countP_singleton] at hCount
        simp only [decide_eq_true_eq] at hCount
        by_cases hKey : r new key
        · have hOldKey : r old key :=
            hEquiv.trans (hEquiv.symm hAgain) hKey
          rw [if_pos hKey, if_pos hOldKey] at hCount
          omega
        · rw [if_neg hKey] at hCount
          omega

/- A timer started beside another one makes two. -/
theorem Step.not_single
    {key : K}
    {delay : Nat}
    (hEquiv : Equivalence r)
    (hStep : Step t time none [(key, delay)] t')
    (hPending : t.count r key ≠ 0) :
    ¬ t'.Single r := by
  intro hSingle
  have hNew := hSingle key
  have hCount := hStep.count_idle (r := r) key
  rw [List.countP_singleton] at hCount
  simp only [decide_eq_true_eq] at hCount
  rw [if_pos (hEquiv.refl key)] at hCount
  omega

/- A timer that fires is not early. -/
theorem Step.le_of_noEarlier
    {key old : K}
    {bound : Nat}
    (hStep : Step t time (some old) started t')
    (hKey : r old key)
    (hQuiet : t.NoEarlier r key bound) :
    bound ≤ time := by
  cases hStep with
  | fire _ hPending hDue =>
      exact Nat.le_trans (hQuiet.deadline _ hPending hKey) hDue

/- Orderly steps keep what is not early from being early. -/
theorem Step.noEarlier
    {key : K}
    {bound : Nat}
    (hEquiv : Equivalence r)
    (hStep : Step t time fired started t')
    (hOrderly : t.Orderly r fired started)
    (hQuiet : t.NoEarlier r key bound) :
    t'.NoEarlier r key bound := by
  cases fired with
  | none =>
      have hCount := hStep.count_idle (r := r) key
      cases hStep with
      | idle hTime =>
          constructor
          · intro timer hMem hKey
            rcases List.mem_append.mp hMem with hOld | hNew
            · exact hQuiet.deadline timer hOld hKey
            · rcases hOrderly with
                rfl | ⟨new, delay, rfl, hNone⟩
              · cases hNew
              · rcases mem_arm_iff.mp hNew with
                  ⟨timer', hMem', rfl⟩
                rw [List.mem_singleton] at hMem'
                subst hMem'
                -- none is pending, so the time is over
                have hSame :=
                  count_congr (t := t) hEquiv hKey
                have hOver := hQuiet.waits
                simp only at hNone hSame ⊢
                omega
          · rcases hQuiet.waits with hWaits | hOver
            · left
              omega
            · exact Or.inr (Nat.le_trans hOver hTime)
  | some old =>
      have hCount := hStep.count_fire (r := r) key
      have hOver (hKey : r old key) : bound ≤ time :=
        hStep.le_of_noEarlier hKey hQuiet
      cases hStep with
      | fire hTime hPending hDue =>
          constructor
          · intro timer hMem hKey
            rcases List.mem_append.mp hMem with hOld | hNew
            · exact
                hQuiet.deadline timer
                  (List.mem_of_mem_erase hOld) hKey
            · rcases hOrderly with
                rfl | ⟨new, delay, rfl, hAgain⟩
              · cases hNew
              · rcases mem_arm_iff.mp hNew with
                  ⟨timer', hMem', rfl⟩
                rw [List.mem_singleton] at hMem'
                subst hMem'
                have hFired :=
                  hOver
                    (hEquiv.trans (hEquiv.symm hAgain) hKey)
                simp only
                omega
          · by_cases hKey : r old key
            · exact Or.inr (hOver hKey)
            · rw [if_neg hKey] at hCount
              rcases hQuiet.waits with hWaits | hPast
              · left
                omega
              · exact Or.inr (Nat.le_trans hPast hTime)

/-
  A timer that fires and starts the next one: none with its
  key fires before that is due.
-/
theorem Step.noEarlier_restart
    {old new : K}
    {delay : Nat}
    (hEquiv : Equivalence r)
    (hSingle : t.Single r)
    (hStep : Step t time (some old) [(new, delay)] t')
    (hAgain : r new old) :
    t'.NoEarlier r old (time + delay) := by
  have hCount := hStep.count_fire (r := r) old
  rw [List.countP_singleton] at hCount
  simp only [decide_eq_true_eq] at hCount
  rw [if_pos (hEquiv.refl old), if_pos hAgain] at hCount
  cases hStep with
  | @fire _ deadline _ _ hPending _ =>
      have hErased :=
        (List.perm_cons_erase hPending).countP_eq
          (fun timer => decide (r timer.1 old))
      have hOne := hSingle old
      unfold count at hOne hCount
      rw [hErased, List.countP_cons] at hOne
      simp only [hEquiv.refl old, decide_true, if_true]
        at hOne
      constructor
      · intro timer hMem hKey
        rcases List.mem_append.mp hMem with hOld | hNew
        · have hNone :
              (t.pending.erase (old, deadline)).countP
                (fun timer => decide (r timer.1 old)) =
                  0 := by
            omega
          have hNot := List.countP_eq_zero.mp hNone timer hOld
          simp only [decide_eq_true_eq] at hNot
          exact absurd hKey hNot
        · rcases mem_arm_iff.mp hNew with
            ⟨timer', hMem', rfl⟩
          rw [List.mem_singleton] at hMem'
          subst hMem'
          exact Nat.le_refl _
      · left
        unfold count
        rw [List.countP_append, countP_arm,
          List.countP_singleton]
        simp only [hAgain, decide_true, if_true]
        omega

end Chains

end TimerSet
