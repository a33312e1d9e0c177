import NapaBaselibs.MONL.SeqWinStep
import Mathlib.Tactic.Ring

/-
  What the window of sequence numbers does after an outage.

  Packets come one after the other, from some number on, to a
  window with any contents.  A slot comes round once for each
  window of packets, and from then on holds the packet one
  window below; but a slot whose contents are as far away as
  the threshold stays as it is.  Where the distances from the
  first packet start again from 0, the slots come round in
  time only if the window divides the range of the numbers.

  Key definitions include:
    * `LossState.consecutive`, `LossState.Recovered`
    * `LossState.Thaws`

  Key theorems include:
    * `LossState.delta_again`
    * `LossState.recovered_iff_thaws`
    * `loss_recovers_iff`
-/

namespace NapaBaselibs

namespace MONL

------------------------------------------------------------
-- Consecutive Packets
------------------------------------------------------------

namespace LossState

variable {w : Nat}
variable {th : ℚ}
variable {s : LossState}
variable {q : BitVec 32}

/- The state before the packet `i` of those from `q` on. -/
def consecutive
    (p : SeqWinParams)
    (s : LossState)
    (q : BitVec 32) : Nat → LossState
  | 0 => s
  | i + 1 =>
      (s.consecutive p q i).receive p (q + BitVec.ofNat 32 i)

theorem Running.consecutive
    (hRunning : Running w s)
    (q : BitVec 32)
    (i : Nat) :
    Running w (s.consecutive (windowParams w th) q i) ∧
      (s.consecutive (windowParams w th) q i).seqWin.initialSn =
        s.seqWin.initialSn := by
  induction i with
  | zero => exact ⟨hRunning, rfl⟩
  | succ i ih =>
      rcases ih with ⟨hBefore, hInitial⟩
      rcases hBefore.receive (q + BitVec.ofNat 32 i) with
        ⟨hAfter, hSame⟩
      exact ⟨hAfter, hSame.trans hInitial⟩

/- The packet `i`. -/
def sn
    (q : BitVec 32)
    (i : Nat) : BitVec 32 :=
  q + BitVec.ofNat 32 i

/- The window before the packet `i`. -/
def windowAt
    (w : Nat)
    (th : ℚ)
    (s : LossState)
    (q : BitVec 32)
    (i : Nat) : SeqWinMeasure :=
  (s.consecutive (windowParams w th) q i).seqWin

/- The slot of the packet `i`. -/
def slot
    (w : Nat)
    (s : LossState)
    (q : BitVec 32)
    (i : Nat) : Nat :=
  (s.seqWin.distance q + i) % 2 ^ 32 % w

theorem distance_at
    (th : ℚ)
    (hRunning : Running w s)
    (i : Nat) :
    (s.windowAt w th q i).distance (sn q i) =
      (s.seqWin.distance q + i) % 2 ^ 32 := by
  rw [SeqWinMeasure.distance, windowAt,
    (hRunning.consecutive q i).2, SeqWinMeasure.distance, sn]
  have hQ := q.isLt
  have hInitial := s.seqWin.initialSn.isLt
  simp only [BitVec.toNat_sub, BitVec.toNat_add,
    BitVec.toNat_ofNat]
  omega

/- Packets that are some way apart in the run. -/
theorem sn_sub
    (q : BitVec 32)
    (i d : Nat) :
    (sn q (i + d) - sn q i).toNat = d % 2 ^ 32 := by
  have hQ := q.isLt
  simp only [sn, BitVec.toNat_sub, BitVec.toNat_add,
    BitVec.toNat_ofNat]
  omega

theorem sn_sub_add
    (q c : BitVec 32)
    (i d : Nat) :
    (sn q (i + d) - c).toNat =
      ((sn q i - c).toNat + d) % 2 ^ 32 := by
  have hQ := q.isLt
  have hC := c.isLt
  simp only [sn, BitVec.toNat_sub, BitVec.toNat_add,
    BitVec.toNat_ofNat]
  omega

/- The delta and the update of the packet `i`. -/
theorem delta_at
    (th : ℚ)
    (hRunning : Running w s)
    (i : Nat) :
    (s.windowAt w th q i).delta w (sn q i) =
      (sn q i -
        (s.windowAt w th q i).snWin.getD (slot w s q i) 0).toNat := by
  rw [SeqWinMeasure.delta, distance_at th hRunning i]
  rfl

/- A slot after the packet `i`. -/
theorem cell_succ
    (th : ℚ)
    (hRunning : Running w s)
    (hWindow : 1 ≤ w)
    (i c : Nat) :
    (slot w s q i = c →
        (s.windowAt w th q i).Updates w th (sn q i) →
          (s.windowAt w th q (i + 1)).snWin.getD c 0 =
            sn q i) ∧
      (slot w s q i = c →
        ¬ (s.windowAt w th q i).Updates w th (sn q i) →
          (s.windowAt w th q (i + 1)).snWin.getD c 0 =
            (s.windowAt w th q i).snWin.getD c 0) ∧
      (slot w s q i ≠ c →
        (s.windowAt w th q (i + 1)).snWin.getD c 0 =
          (s.windowAt w th q i).snWin.getD c 0) := by
  have hBefore :
      Running w (s.consecutive (windowParams w th) q i) :=
    (hRunning.consecutive q i).1
  have hAfter :
      s.windowAt w th q (i + 1) =
        ((s.windowAt w th q i).rxPkt (windowParams w th)
          { (s.consecutive (windowParams w th) q i).r with
            seqNum := sn q i }).1 :=
    (receive_seqWin _ _ _).1
  rcases SeqWinMeasure.rxPkt_spec hBefore.pnum
      (s.consecutive (windowParams w th) q i).r with
    ⟨-, -, -, hSet, hSame, -⟩
  have hSlot :
      (s.windowAt w th q i).distance (sn q i) % w =
        slot w s q i := by
    rw [distance_at th hRunning i]
    rfl
  have hIn : slot w s q i < (s.windowAt w th q i).snWin.length := by
    rw [show (s.windowAt w th q i).snWin.length = w from
      hBefore.length]
    exact Nat.mod_lt _ hWindow
  have hChanged :
      (s.windowAt w th q i).Updates w th (sn q i) →
        (s.windowAt w th q (i + 1)).snWin =
          (s.windowAt w th q i).snWin.set (slot w s q i)
            (sn q i) := by
    intro hUpdates
    rw [hAfter, ← hSlot]
    exact hSet hUpdates
  have hKept :
      ¬ (s.windowAt w th q i).Updates w th (sn q i) →
        (s.windowAt w th q (i + 1)).snWin =
          (s.windowAt w th q i).snWin := by
    intro hNot
    rw [hAfter]
    exact hSame hNot
  refine ⟨?_, ?_, ?_⟩
  · intro hIs hUpdates
    rw [hChanged hUpdates, ← hIs, List.getD_eq_getElem?_getD,
      List.getElem?_set_self hIn]
    rfl
  · intro hIs hNot
    rw [hKept hNot]
  · intro hOther
    by_cases hUpdates :
        (s.windowAt w th q i).Updates w th (sn q i)
    · rw [hChanged hUpdates, List.getD_eq_getElem?_getD,
        List.getElem?_set_ne hOther,
        ← List.getD_eq_getElem?_getD]
    · rw [hKept hUpdates]

/- A slot stays as it is until a packet comes to it. -/
theorem cell_kept
    (th : ℚ)
    (hRunning : Running w s)
    (hWindow : 1 ≤ w)
    {i d c : Nat}
    (hOther : ∀ j, i ≤ j → j < i + d → slot w s q j ≠ c) :
    (s.windowAt w th q (i + d)).snWin.getD c 0 =
      (s.windowAt w th q i).snWin.getD c 0 := by
  induction d with
  | zero => rfl
  | succ d ih =>
      have hLast :=
        (cell_succ th hRunning hWindow (i + d) c).2.2
          (hOther (i + d) (by omega) (by omega))
      exact hLast.trans
        (ih (fun j hFrom hTo => hOther j hFrom (by omega)))

/- The delta at the first packet that comes to a slot. -/
theorem delta_first
    (th : ℚ)
    (hRunning : Running w s)
    (hWindow : 1 ≤ w)
    {i : Nat}
    (hOther : ∀ j < i, slot w s q j ≠ slot w s q i) :
    (s.windowAt w th q i).delta w (sn q i) =
      (sn q i - s.seqWin.snWin.getD (slot w s q i) 0).toNat := by
  have hKept :
      (s.windowAt w th q (0 + i)).snWin.getD (slot w s q i) 0 =
        (s.windowAt w th q 0).snWin.getD (slot w s q i) 0 :=
    cell_kept th hRunning hWindow
      (fun j _ hTo => hOther j (by omega))
  rw [Nat.zero_add] at hKept
  rw [delta_at th hRunning i, hKept]
  rfl

/- The delta at the packet that comes to a slot next. -/
theorem delta_again
    (th : ℚ)
    (hRunning : Running w s)
    (hWindow : 1 ≤ w)
    {i d : Nat}
    (hAhead : 0 < d)
    (hSame : slot w s q (i + d) = slot w s q i)
    (hOther :
      ∀ j, i < j → j < i + d → slot w s q j ≠ slot w s q i) :
    ((s.windowAt w th q i).Updates w th (sn q i) →
        (s.windowAt w th q (i + d)).delta w (sn q (i + d)) =
          d % 2 ^ 32) ∧
      (¬ (s.windowAt w th q i).Updates w th (sn q i) →
        (s.windowAt w th q (i + d)).delta w (sn q (i + d)) =
          ((s.windowAt w th q i).delta w (sn q i) + d) %
            2 ^ 32) := by
  rcases cell_succ th hRunning hWindow i (slot w s q i) with
    ⟨hSet, hStay, -⟩
  have hKept :
      (s.windowAt w th q (i + 1 + (d - 1))).snWin.getD
          (slot w s q i) 0 =
        (s.windowAt w th q (i + 1)).snWin.getD
          (slot w s q i) 0 :=
    cell_kept th hRunning hWindow
      (fun j hFrom hTo => hOther j (by omega) (by omega))
  have hIndex : i + 1 + (d - 1) = i + d := by omega
  rw [hIndex] at hKept
  rw [delta_at th hRunning (i + d), hSame, hKept,
    delta_at th hRunning i]
  constructor
  · intro hUpdates
    rw [hSet rfl hUpdates]
    exact sn_sub q i d
  · intro hNot
    rw [hStay rfl hNot]
    exact sn_sub_add q _ i d

/- When the window is valid. -/
theorem valid_iff
    (th : ℚ)
    (hRunning : Running w s)
    (i : Nat) :
    (s.windowAt w th q i).validWith w (sn q i) ↔
      s.seqWin.winValid = true ∨
        ∃ j ≤ i, w ≤ (s.seqWin.distance q + j) % 2 ^ 32 := by
  have hBefore :
      ∀ k,
        (s.windowAt w th q k).winValid = true ↔
          s.seqWin.winValid = true ∨
            ∃ j < k, w ≤ (s.seqWin.distance q + j) % 2 ^ 32 := by
    intro k
    induction k with
    | zero => simp [windowAt, consecutive]
    | succ k ih =>
        have hRun :
            Running w (s.consecutive (windowParams w th) q k) :=
          (hRunning.consecutive q k).1
        rcases SeqWinMeasure.rxPkt_spec hRun.pnum
            (s.consecutive (windowParams w th) q k).r with
          ⟨-, -, hValid, -⟩
        have hAfter :
            s.windowAt w th q (k + 1) =
              ((s.windowAt w th q k).rxPkt (windowParams w th)
                { (s.consecutive (windowParams w th) q k).r with
                  seqNum := sn q k }).1 :=
          (receive_seqWin _ _ _).1
        rw [hAfter]
        refine hValid.trans ?_
        change
          (s.windowAt w th q k).winValid = true ∨
            w ≤ (s.windowAt w th q k).distance (sn q k) ↔ _
        rw [ih, distance_at th hRunning k]
        constructor
        · rintro ((hStart | ⟨j, hLess, hFull⟩) | hNow)
          · exact .inl hStart
          · exact .inr ⟨j, by omega, hFull⟩
          · exact .inr ⟨k, by omega, hNow⟩
        · rintro (hStart | ⟨j, hLess, hFull⟩)
          · exact .inl (.inl hStart)
          · rcases Nat.lt_succ_iff_lt_or_eq.mp hLess with
              hEarlier | hSame
            · exact .inl (.inr ⟨j, hEarlier, hFull⟩)
            · rw [hSame] at hFull
              exact .inr hFull
  rw [SeqWinMeasure.validWith, hBefore i, distance_at th hRunning i]
  constructor
  · rintro ((hStart | ⟨j, hLess, hFull⟩) | hNow)
    · exact .inl hStart
    · exact .inr ⟨j, hLess.le, hFull⟩
    · exact .inr ⟨i, le_rfl, hNow⟩
  · rintro (hStart | ⟨j, hLess, hFull⟩)
    · exact .inl (.inl hStart)
    · rcases hLess.lt_or_eq with hEarlier | hSame
      · exact .inl (.inr ⟨j, hEarlier, hFull⟩)
      · rw [hSame] at hFull
        exact .inr hFull

/- After a window of packets it is. -/
theorem valid_of_le
    (th : ℚ)
    (hRunning : Running w s)
    (hInt : w < 2 ^ 31)
    {i : Nat}
    (hLe : w ≤ i) :
    (s.windowAt w th q i).validWith w (sn q i) := by
  have hRange : s.seqWin.distance q < 2 ^ 32 :=
    (q - s.seqWin.initialSn).isLt
  rw [valid_iff th hRunning i]
  by_cases hAhead : w ≤ s.seqWin.distance q
  · exact .inr ⟨0, Nat.zero_le i, by omega⟩
  · exact .inr ⟨w, hLe, by omega⟩

/- Before that, if it was, or with enough distance. -/
theorem valid_iff_of_lt
    (th : ℚ)
    (hRunning : Running w s)
    (hInt : w < 2 ^ 31)
    {i : Nat}
    (hLess : i < w) :
    (s.windowAt w th q i).validWith w (sn q i) ↔
      s.seqWin.winValid = true ∨
        w ≤ s.seqWin.distance q + i := by
  have hRange : s.seqWin.distance q < 2 ^ 32 :=
    (q - s.seqWin.initialSn).isLt
  rw [valid_iff th hRunning i]
  constructor
  · rintro (hStart | ⟨j, hLe, hFull⟩)
    · exact .inl hStart
    · right
      omega
  · rintro (hStart | hFull)
    · exact .inl hStart
    · by_cases hAhead : w ≤ s.seqWin.distance q
      · exact .inr ⟨0, Nat.zero_le i, by omega⟩
      · exact .inr ⟨i, le_rfl, by omega⟩

------------------------------------------------------------
-- Recovery
------------------------------------------------------------

/- The window yields its size, and no loss is decided. -/
def Recovered
    (p : SeqWinParams)
    (s : LossState)
    (q : BitVec 32)
    (i : Nat) : Prop :=
  let before := s.consecutive p q i
  (before.receive p (sn q i)).r.seqWin = some p.winSize ∧
    before.decisionOf p (sn q i) = some 0

/-
  The slot of the packet `i` is still free, or its contents
  are nearer than the threshold, or the numbers come back to
  them within a window.
-/
def Thaws
    (w : Nat)
    (th : ℚ)
    (s : LossState)
    (q : BitVec 32)
    (i : Nat) : Prop :=
  let away := (sn q i - s.seqWin.snWin.getD (slot w s q i) 0).toNat
  (s.seqWin.winValid = false ∧ s.seqWin.distance q + i < w) ∨
    (away : ℚ) < th ∨ 2 ^ 32 ≤ away + w

/- The slots of the first packets come round in turn. -/
def InStep
    (w : Nat)
    (s : LossState)
    (q : BitVec 32)
    (n : Nat) : Prop :=
  ∀ i < n, slot w s q i = (s.seqWin.distance q + i) % w

theorem inStep_of_dvd
    (hDvd : w ∣ 2 ^ 32)
    (s : LossState)
    (q : BitVec 32)
    (n : Nat) :
    InStep w s q n :=
  fun _ _ => Nat.mod_mod_of_dvd _ hDvd

theorem inStep_of_le
    {n : Nat}
    (hLe : s.seqWin.distance q + n ≤ 2 ^ 32) :
    InStep w s q n := by
  intro i hLess
  have hRange : s.seqWin.distance q + i < 2 ^ 32 := by omega
  rw [slot, Nat.mod_eq_of_lt hRange]

/- Less than a window further on the class is another one. -/
theorem add_mod_ne
    {a d : Nat}
    (hPositive : 0 < d)
    (hLess : d < w) :
    (a + d) % w ≠ a % w := by
  intro hSame
  have hMod : a ≡ a + d [MOD w] := hSame.symm
  have hDvd := (Nat.modEq_iff_dvd' (Nat.le_add_right a d)).mp hMod
  rw [Nat.add_sub_cancel_left] at hDvd
  have hLe := Nat.le_of_dvd hPositive hDvd
  omega

theorem InStep.slot_add
    {n i : Nat}
    (hStep : InStep w s q n)
    (hLess : i + w < n) :
    slot w s q (i + w) = slot w s q i := by
  rw [hStep _ hLess, hStep i (by omega), ← Nat.add_assoc,
    Nat.add_mod_right]

theorem InStep.slot_ne
    {n i j : Nat}
    (hStep : InStep w s q n)
    (hAfter : i < j)
    (hBefore : j < i + w)
    (hLess : j < n) :
    slot w s q j ≠ slot w s q i := by
  rw [hStep j hLess, hStep i (by omega)]
  have hSum :
      s.seqWin.distance q + j =
        s.seqWin.distance q + i + (j - i) := by
    omega
  rw [hSum]
  exact add_mod_ne (by omega) (by omega)

/- With a valid window the packet decides by its delta. -/
theorem recovered_iff_delta
    (th : ℚ)
    (hRunning : Running w s)
    {i : Nat}
    (hValid : (s.windowAt w th q i).validWith w (sn q i)) :
    Recovered (windowParams w th) s q i ↔
      (s.windowAt w th q i).delta w (sn q i) = w := by
  have hRun :
      Running w (s.consecutive (windowParams w th) q i) :=
    (hRunning.consecutive q i).1
  rcases SeqWinMeasure.rxPkt_spec hRun.pnum
      (s.consecutive (windowParams w th) q i).r with
    ⟨-, -, -, -, -, hResult⟩
  have hSeqWin := hResult hValid
  have hList :
      ((s.consecutive (windowParams w th) q i).receive
          (windowParams w th) (sn q i)).r.seqWin =
        some ((s.windowAt w th q i).delta w (sn q i) : ℚ) :=
    (receive_seqWin _ _ _).2.trans hSeqWin
  constructor
  · rintro ⟨hYields, -⟩
    rw [hList] at hYields
    injection hYields with hSame
    have hCast :
        ((s.windowAt w th q i).delta w (sn q i) : ℚ) = w := hSame
    exact_mod_cast hCast
  · intro hSame
    constructor
    · rw [hList, hSame]
      rfl
    · have hDelta :
          (s.consecutive (windowParams w th) q i).seqWin.delta w
            (sn q i) = w := hSame
      rw [decisionOf, hSeqWin, hDelta]
      simp [LossMeasure.decision, windowParams]

/- A slot that holds the packet one window below goes on so. -/
theorem delta_stays
    {n i : Nat}
    (hRunning : Running w s)
    (hWindow : 1 ≤ w)
    (hInt : w < 2 ^ 31)
    (hThreshold : (w : ℚ) < th)
    (hStep : InStep w s q n)
    (hLess : i + w < n)
    (hDelta : (s.windowAt w th q i).delta w (sn q i) = w) :
    (s.windowAt w th q (i + w)).delta w (sn q (i + w)) = w := by
  have hAgain :=
    delta_again th hRunning hWindow hWindow
      (hStep.slot_add hLess)
      (fun j hAfter hBefore =>
        hStep.slot_ne hAfter hBefore (by omega))
  have hUpdates :
      (s.windowAt w th q i).Updates w th (sn q i) := by
    right
    rw [hDelta]
    exact hThreshold
  rw [hAgain.1 hUpdates, Nat.mod_eq_of_lt (by omega)]

/-
  The third packet that comes to a slot recovers it exactly
  if the contents that the first one met do not freeze it.
-/
theorem delta_third_iff
    {n i : Nat}
    (hRunning : Running w s)
    (hWindow : 1 ≤ w)
    (hInt : w < 2 ^ 31)
    (hThreshold : (w : ℚ) < th)
    (hStep : InStep w s q n)
    (hFirst : i < w)
    (hLess : i + w + w < n) :
    (s.windowAt w th q (i + w + w)).delta w
        (sn q (i + w + w)) = w ↔
      Thaws w th s q i := by
  have hDelta :
      (s.windowAt w th q i).delta w (sn q i) =
        (sn q i - s.seqWin.snWin.getD (slot w s q i) 0).toNat :=
    delta_first th hRunning hWindow
      (fun j hBefore hSame =>
        hStep.slot_ne hBefore (by omega) (by omega) hSame.symm)
  have hAgain :
      ∀ k, k + w < n →
        ((s.windowAt w th q k).Updates w th (sn q k) →
            (s.windowAt w th q (k + w)).delta w (sn q (k + w)) =
              w % 2 ^ 32) ∧
          (¬ (s.windowAt w th q k).Updates w th (sn q k) →
            (s.windowAt w th q (k + w)).delta w (sn q (k + w)) =
              ((s.windowAt w th q k).delta w (sn q k) + w) %
                2 ^ 32) :=
    fun k hBelow =>
      delta_again th hRunning hWindow hWindow
        (hStep.slot_add hBelow)
        (fun j hAfter hBefore =>
          hStep.slot_ne hAfter hBefore (by omega))
  have hSecondValid :
      (s.windowAt w th q (i + w)).validWith w (sn q (i + w)) :=
    valid_of_le th hRunning hInt (by omega)
  have hValid :
      (s.windowAt w th q i).validWith w (sn q i) ↔
        s.seqWin.winValid = true ∨
          w ≤ s.seqWin.distance q + i :=
    valid_iff_of_lt th hRunning hInt hFirst
  have hRange : (s.windowAt w th q i).delta w (sn q i) < 2 ^ 32 :=
    (sn q i - _).isLt
  simp only [Thaws, ← hDelta]
  by_cases hUpdates : (s.windowAt w th q i).Updates w th (sn q i)
  · have hSecond := (hAgain i (by omega)).1 hUpdates
    rw [Nat.mod_eq_of_lt (by omega)] at hSecond
    have hThird :=
      delta_stays hRunning hWindow hInt hThreshold hStep hLess
        hSecond
    refine iff_of_true hThird ?_
    rcases hUpdates with hFree | hNear
    · rw [hValid, not_or, Bool.not_eq_true, not_le] at hFree
      exact .inl hFree
    · exact .inr (.inl hNear)
  · have hSecond := (hAgain i (by omega)).2 hUpdates
    have hNot := hUpdates
    rw [SeqWinMeasure.Updates, not_or, not_not, hValid, not_lt]
      at hNot
    rcases hNot with ⟨hFull, hFar⟩
    have hBeyond :
        w < (s.windowAt w th q i).delta w (sn q i) := by
      have hCast :
          (w : ℚ) < (s.windowAt w th q i).delta w (sn q i) :=
        lt_of_lt_of_le hThreshold hFar
      exact_mod_cast hCast
    have hTaken :
        ¬ (s.seqWin.winValid = false ∧
          s.seqWin.distance q + i < w) := by
      rintro ⟨hInvalid, hShort⟩
      rcases hFull with hStart | hEnough
      · rw [hInvalid] at hStart
        cases hStart
      · omega
    rw [or_iff_right hTaken, or_iff_right (not_lt.mpr hFar)]
    by_cases hBack :
        2 ^ 32 ≤ (s.windowAt w th q i).delta w (sn q i) + w
    · refine iff_of_true ?_ hBack
      have hNear :
          (s.windowAt w th q (i + w)).Updates w th
            (sn q (i + w)) := by
        right
        have hLess' :
            (s.windowAt w th q (i + w)).delta w (sn q (i + w)) <
              w := by
          rw [hSecond]
          omega
        have hCast :
            ((s.windowAt w th q (i + w)).delta w
              (sn q (i + w)) : ℚ) < w := by
          exact_mod_cast hLess'
        exact hCast.trans hThreshold
      rw [(hAgain (i + w) hLess).1 hNear,
        Nat.mod_eq_of_lt (by omega)]
    · refine iff_of_false ?_ hBack
      rw [Nat.mod_eq_of_lt (by omega)] at hSecond
      have hFrozen :
          ¬ (s.windowAt w th q (i + w)).Updates w th
            (sn q (i + w)) := by
        rw [SeqWinMeasure.Updates, not_or, not_not, not_lt,
          hSecond]
        refine ⟨hSecondValid, ?_⟩
        push_cast
        have hNonneg : (0 : ℚ) ≤ w := Nat.cast_nonneg w
        linarith
      rw [(hAgain (i + w) hLess).2 hFrozen, hSecond]
      omega

/- So do all further packets that come to the slot. -/
theorem delta_later
    {n i : Nat}
    (hRunning : Running w s)
    (hWindow : 1 ≤ w)
    (hInt : w < 2 ^ 31)
    (hThreshold : (w : ℚ) < th)
    (hStep : InStep w s q n)
    (hFirst : i < w)
    (hThaws : Thaws w th s q i)
    (k : Nat)
    (hLess : i + w + w + k * w < n) :
    (s.windowAt w th q (i + w + w + k * w)).delta w
      (sn q (i + w + w + k * w)) = w := by
  induction k with
  | zero =>
      rw [Nat.zero_mul, Nat.add_zero] at hLess ⊢
      exact
        (delta_third_iff hRunning hWindow hInt hThreshold hStep
          hFirst hLess).mpr hThaws
  | succ k ih =>
      have hSum :
          i + w + w + (k + 1) * w = i + w + w + k * w + w := by
        ring
      rw [hSum] at hLess ⊢
      exact
        delta_stays hRunning hWindow hInt hThreshold hStep hLess
          (ih (by omega))

/- A run whose slots come round recovers if none is frozen. -/
theorem recovered_iff_thaws
    {n : Nat}
    (hRunning : Running w s)
    (hWindow : 1 ≤ w)
    (hInt : w < 2 ^ 31)
    (hThreshold : (w : ℚ) < th)
    (hStep : InStep w s q n) :
    (∀ i, 2 * w ≤ i → i < n →
        Recovered (windowParams w th) s q i) ↔
      ∀ i < w, 2 * w + i < n → Thaws w th s q i := by
  have hDelta :
      ∀ i, 2 * w ≤ i →
        (Recovered (windowParams w th) s q i ↔
          (s.windowAt w th q i).delta w (sn q i) = w) :=
    fun i hFrom =>
      recovered_iff_delta th hRunning
        (valid_of_le th hRunning hInt (by omega))
  constructor
  · intro hAll i hFirst hLess
    have hThird :=
      (hDelta (i + w + w) (by omega)).mp
        (hAll (i + w + w) (by omega) (by omega))
    exact
      (delta_third_iff hRunning hWindow hInt hThreshold hStep
        hFirst (by omega)).mp hThird
  · intro hThaws i hFrom hLess
    rw [hDelta i hFrom]
    have hSplit :
        i = (i - 2 * w) % w + w + w + (i - 2 * w) / w * w := by
      have hDivMod := Nat.mod_add_div' (i - 2 * w) w
      omega
    have hFirst : (i - 2 * w) % w < w := Nat.mod_lt _ hWindow
    rw [hSplit]
    exact
      delta_later hRunning hWindow hInt hThreshold hStep hFirst
        (hThaws _ hFirst (by omega)) _ (by omega)

/-
  Where the distances start again the slot 0 comes too early,
  unless the window divides the range of the numbers.
-/
theorem not_recovered_at_wrap
    (hRunning : Running w s)
    (hWindow : 1 ≤ w)
    (hInt : w < 2 ^ 31)
    (hThreshold : (w : ℚ) < th)
    (hDvd : ¬ w ∣ 2 ^ 32) :
    ¬ ∀ i, 2 * w ≤ i →
      Recovered (windowParams w th) s q i := by
  intro hAll
  have hRange : s.seqWin.distance q < 2 ^ 32 :=
    (q - s.seqWin.initialSn).isLt
  have hRest : 2 ^ 32 % w < w := Nat.mod_lt _ hWindow
  have hSome : 0 < 2 ^ 32 % w :=
    Nat.pos_of_ne_zero
      (fun hZero => hDvd (Nat.dvd_of_mod_eq_zero hZero))
  obtain ⟨rest, hRestIs⟩ : ∃ rest, 2 ^ 32 % w = rest := ⟨_, rfl⟩
  rw [hRestIs] at hRest hSome
  have hMultiple : (2 ^ 32 - rest) % w = 0 := by
    rw [← hRestIs]
    exact Nat.sub_mod_eq_zero_of_mod_eq (by simp)
  -- the packet with distance 0, and the one before in its slot
  obtain ⟨wrap, hWrap⟩ :
      ∃ wrap, wrap + s.seqWin.distance q = 3 * 2 ^ 32 :=
    ⟨3 * 2 ^ 32 - s.seqWin.distance q, by omega⟩
  have hBeforeSlot : slot w s q (wrap - rest) = 0 := by
    have hIs :
        (s.seqWin.distance q + (wrap - rest)) % 2 ^ 32 =
          2 ^ 32 - rest := by
      omega
    rw [slot, hIs, hMultiple]
  have hWrapSlot : slot w s q (wrap - rest + rest) = 0 := by
    have hIs :
        (s.seqWin.distance q + (wrap - rest + rest)) % 2 ^ 32 =
          0 := by
      omega
    rw [slot, hIs, Nat.zero_mod]
  have hOther :
      ∀ j, wrap - rest < j → j < wrap - rest + rest →
        slot w s q j ≠ slot w s q (wrap - rest) := by
    intro j hAfter hBefore
    have hIs :
        (s.seqWin.distance q + j) % 2 ^ 32 =
          2 ^ 32 - rest + (j - (wrap - rest)) := by
      omega
    rw [slot, hIs, hBeforeSlot, ← hMultiple]
    exact add_mod_ne (by omega) (by omega)
  have hDelta :
      ∀ i, 2 * w ≤ i →
        (s.windowAt w th q i).delta w (sn q i) = w :=
    fun i hFrom =>
      (recovered_iff_delta th hRunning
        (valid_of_le th hRunning hInt (by omega))).mp
        (hAll i hFrom)
  have hUpdates :
      (s.windowAt w th q (wrap - rest)).Updates w th
        (sn q (wrap - rest)) := by
    right
    rw [hDelta (wrap - rest) (by omega)]
    exact hThreshold
  have hShort :=
    (delta_again th hRunning hWindow hSome
      (hWrapSlot.trans hBeforeSlot.symm) hOther).1 hUpdates
  rw [hDelta _ (by omega), Nat.mod_eq_of_lt (by omega)] at hShort
  omega

end LossState

------------------------------------------------------------
-- Traces
------------------------------------------------------------

namespace LossState

variable {w : Nat}
variable {th : ℚ}

/- The state after some packets. -/
def after
    (p : SeqWinParams)
    (s : LossState)
    (packets : List (BitVec 32)) : LossState :=
  packets.foldl (receive p) s

/- The window has seen a packet once one came. -/
theorem after_running
    (seqWin : SeqWinMeasure)
    (loss : LossMeasure)
    (r : RxResults)
    {packets : List (BitVec 32)}
    (hSome : packets ≠ []) :
    Running w
      ((start seqWin loss r).after (windowParams w th)
        packets) := by
  induction packets using List.reverseRecOn with
  | nil => exact absurd rfl hSome
  | append_singleton earlier sn ih =>
      rw [after, List.foldl_append]
      cases earlier with
      | nil =>
          rcases receive_seqWin (windowParams w th)
              (start seqWin loss r) sn with
            ⟨hSeqWin, -⟩
          constructor
          · rw [List.foldl_nil, List.foldl_cons, List.foldl_nil,
              hSeqWin]
            simp [start, SeqWinMeasure.init, SeqWinMeasure.rxPkt]
          · rw [List.foldl_nil, List.foldl_cons, List.foldl_nil,
              hSeqWin]
            simp [start, SeqWinMeasure.init, SeqWinMeasure.rxPkt]
      | cons first rest =>
          have hBefore := ih (List.cons_ne_nil first rest)
          exact (hBefore.receive sn).1

end LossState

open LossState

/-
  After any trace, packets come one after the other from any
  number on.  All of them after the first two windows are
  decided without loss exactly if the window divides the
  range of the numbers and the first window of packets
  freezes no slot; and as far as the distances do not start
  again, if it freezes no slot that they come back to.
-/
theorem loss_recovers_iff
    {w : Nat}
    {th : ℚ}
    (hWindow : 1 ≤ w)
    (hInt : w < 2 ^ 31)
    (hThreshold : (w : ℚ) < th)
    (seqWin : SeqWinMeasure)
    (loss : LossMeasure)
    (r : RxResults)
    {earlier : List (BitVec 32)}
    (hSome : earlier ≠ [])
    (q : BitVec 32) :
    let p := windowParams w th
    let s := (start seqWin loss r).after p earlier
    ((∀ i, 2 * w ≤ i → Recovered p s q i) ↔
        w ∣ 2 ^ 32 ∧ ∀ i < w, Thaws w th s q i) ∧
      ∀ n, s.seqWin.distance q + n ≤ 2 ^ 32 →
        ((∀ i, 2 * w ≤ i → i < n → Recovered p s q i) ↔
          ∀ i < w, 2 * w + i < n → Thaws w th s q i) := by
  intro p s
  have hRunning : Running w s :=
    after_running seqWin loss r hSome
  refine ⟨⟨?_, ?_⟩, ?_⟩
  · intro hAll
    have hDvd : w ∣ 2 ^ 32 := by
      by_contra hNot
      exact
        not_recovered_at_wrap hRunning hWindow hInt hThreshold
          hNot hAll
    refine ⟨hDvd, fun i hLess => ?_⟩
    exact
      (recovered_iff_thaws hRunning hWindow hInt hThreshold
        (inStep_of_dvd hDvd s q (3 * w))).mp
        (fun k hFrom _ => hAll k hFrom) i hLess (by omega)
  · rintro ⟨hDvd, hThaws⟩ i hFrom
    exact
      (recovered_iff_thaws hRunning hWindow hInt hThreshold
        (inStep_of_dvd hDvd s q (i + 1))).mpr
        (fun k hLess _ => hThaws k hLess) i hFrom
        (Nat.lt_succ_self i)
  · intro n hLe
    exact
      recovered_iff_thaws hRunning hWindow hInt hThreshold
        (inStep_of_le hLe)

/- What the measures are before they start. -/
def freshLoss : LossState :=
  start ⟨false, 0, 0, [], 0⟩ ⟨0, some 0, 0, 10⟩ ⟨0, none, none⟩

/- A window of one packet after the packets 0 and 1. -/
theorem freshLoss_two
    {th : ℚ}
    (hThreshold : 1 < th) :
    let m :=
      (freshLoss.after (windowParams 1 th) [0, 1]).seqWin
    m.winValid = true ∧ m.initialSn = 0 ∧ m.snWin = [1] := by
  have hFirst :
      (freshLoss.receive (windowParams 1 th) 0).seqWin =
        ⟨false, 0, 0, [0], 1⟩ := by
    rw [(receive_seqWin _ _ _).1]
    simp [freshLoss, start, SeqWinMeasure.init,
      SeqWinMeasure.rxPkt]
  intro m
  have hSecond :
      m =
        ((freshLoss.receive (windowParams 1 th) 0).seqWin.rxPkt
          (windowParams 1 th)
          { (freshLoss.receive (windowParams 1 th) 0).r with
            seqNum := 1 }).1 :=
    (receive_seqWin (windowParams 1 th)
      (freshLoss.receive (windowParams 1 th) 0) 1).1
  rw [hSecond, hFirst]
  simp [SeqWinMeasure.rxPkt, windowParams, SeqWinMeasure.cells,
    truncated, hThreshold]

/- A gap of 8 packets and a threshold of 10. -/
theorem small_gap_recovers :
    Recovered (windowParams 1 10)
      (freshLoss.after (windowParams 1 10) [0, 1]) 9 2 := by
  have hThreshold : ((1 : ℕ) : ℚ) < 10 := by norm_num
  have hAll :=
    ((loss_recovers_iff (le_refl 1) (by norm_num) hThreshold
      ⟨false, 0, 0, [], 0⟩ ⟨0, some 0, 0, 10⟩ ⟨0, none, none⟩
      (List.cons_ne_nil 0 [1]) 9).1).mpr
  refine hAll ⟨one_dvd _, fun i hLess => .inr (.inl ?_)⟩ 2 le_rfl
  rcases freshLoss_two (show (1 : ℚ) < 10 by norm_num) with
    ⟨-, -, hCells⟩
  have hZero : i = 0 := by omega
  subst hZero
  change
    (((sn 9 0 -
      (freshLoss.after (windowParams 1 10) [0, 1]).seqWin.snWin.getD
        _ 0).toNat : ℕ) : ℚ) < 10
  rw [hCells, slot, Nat.mod_one]
  norm_num [sn]
  decide

/-
  A gap as large as the threshold: nothing is decided after
  it, although two windows of packets have come.
-/
theorem large_gap_not_recovered :
    ¬ ∀ (w : Nat)
        (th : ℚ)
        (seqWin : SeqWinMeasure)
        (loss : LossMeasure)
        (r : RxResults)
        (earlier : List (BitVec 32))
        (q : BitVec 32),
      1 ≤ w → w < 2 ^ 31 → (w : ℚ) < th → earlier ≠ [] →
        ∀ i, 2 * w ≤ i →
          Recovered (windowParams w th)
            ((start seqWin loss r).after (windowParams w th)
              earlier) q i := by
  intro hAll
  have hInt : (1 : ℕ) < 2 ^ 31 := by norm_num
  have hThreshold : ((1 : ℕ) : ℚ) < 2 := by norm_num
  have hRecovered :=
    hAll 1 2 ⟨false, 0, 0, [], 0⟩ ⟨0, some 0, 0, 10⟩
      ⟨0, none, none⟩ [0, 1] 10 le_rfl hInt hThreshold
      (List.cons_ne_nil 0 [1])
  have hThaws :=
    (recovered_iff_thaws
      (after_running ⟨false, 0, 0, [], 0⟩ ⟨0, some 0, 0, 10⟩
        ⟨0, none, none⟩ (List.cons_ne_nil 0 [1]))
      le_rfl hInt hThreshold
      (inStep_of_dvd (one_dvd _) _ 10 3)).mp
      (fun i hFrom _ => hRecovered i hFrom) 0 one_pos
      (by norm_num)
  rcases freshLoss_two (show (1 : ℚ) < 2 by norm_num) with
    ⟨hValid, -, hCells⟩
  change Thaws 1 2
    (freshLoss.after (windowParams 1 2) [0, 1]) 10 0 at hThaws
  simp only [Thaws, hValid, hCells, slot, Nat.mod_one] at hThaws
  norm_num [sn] at hThaws
  exact absurd hThaws (by decide)

end MONL

end NapaBaselibs
