import NapaBaselibs.MONL.SeqWin

/-
  What the window of sequence numbers does for one packet.

  The window has a whole size here.  A packet behind the
  first one has a distance from that, a slot, and a delta to
  the contents of the slot; the window is valid from the
  first distance of a window on.

  Key definitions include:
    * `SeqWinMeasure.delta`, `SeqWinMeasure.validWith`
    * `SeqWinMeasure.Updates`
    * `LossState.Running`

  Key theorems include:
    * `SeqWinMeasure.rxPkt_spec`
    * `SeqWinMeasure.seqWin_ne_none_iff`
-/

------------------------------------------------------------
-- One Packet
------------------------------------------------------------

namespace NapaBaselibs

namespace MONL

/- The parameters for a window of whole size. -/
def windowParams
    (w : Nat)
    (th : ℚ) : SeqWinParams where
  winSize := w
  winOverflowTh := th

@[simp] theorem cells_windowParams
    (w : Nat)
    (th : ℚ) :
    SeqWinMeasure.cells (windowParams w th) = w := by
  simp [SeqWinMeasure.cells, windowParams, truncated]

namespace SeqWinMeasure

variable {w : Nat}
variable {th : ℚ}
variable {m : SeqWinMeasure}
variable {sn : BitVec 32}

/- `p_sn - initial_sn`. -/
def distance
    (m : SeqWinMeasure)
    (sn : BitVec 32) : Nat :=
  (sn - m.initialSn).toNat

/- `delta_sn_win`. -/
def delta
    (w : Nat)
    (m : SeqWinMeasure)
    (sn : BitVec 32) : Nat :=
  (sn - m.snWin.getD (m.distance sn % w) 0).toNat

/- The window is valid, with this packet. -/
def validWith
    (w : Nat)
    (m : SeqWinMeasure)
    (sn : BitVec 32) : Prop :=
  m.winValid = true ∨ w ≤ m.distance sn

/- The slot of the packet gets it. -/
def Updates
    (w : Nat)
    (th : ℚ)
    (m : SeqWinMeasure)
    (sn : BitVec 32) : Prop :=
  ¬ m.validWith w sn ∨ (m.delta w sn : ℚ) < th

/- A packet that is not the first. -/
theorem rxPkt_spec
    (hPnum : m.pnum ≠ 0)
    (r : RxResults) :
    let after := m.rxPkt (windowParams w th) { r with seqNum := sn }
    after.1.pnum = m.pnum ∧
      after.1.initialSn = m.initialSn ∧
      (after.1.winValid = true ↔ m.validWith w sn) ∧
      (m.Updates w th sn →
        after.1.snWin = m.snWin.set (m.distance sn % w) sn) ∧
      (¬ m.Updates w th sn → after.1.snWin = m.snWin) ∧
      (m.validWith w sn →
        after.2.1.seqWin = some (m.delta w sn : ℚ)) := by
  intro after
  have hValid :
      (m.winValid || decide ((w : ℚ) ≤ m.distance sn)) = true ↔
        m.validWith w sn := by
    simp [validWith]
  have hUpdates :
      ((m.winValid || decide ((w : ℚ) ≤ m.distance sn)) = false ∨
          (m.delta w sn : ℚ) < th) ↔
        m.Updates w th sn := by
    rw [Updates, ← hValid, Bool.not_eq_true]
  have hAfter :
      after =
        m.rxPkt (windowParams w th) { r with seqNum := sn } := rfl
  simp only [rxPkt, hPnum, if_false, cells_windowParams] at hAfter
  rw [hAfter]
  refine ⟨rfl, rfl, hValid, ?_, ?_, ?_⟩
  · intro hNow
    exact if_pos (hUpdates.mpr hNow)
  · intro hNot
    exact if_neg (fun hNow => hNot (hUpdates.mp hNow))
  · intro hNow
    change
      (if m.delta w sn = 0 then some 0
        else if (m.winValid ||
            decide ((w : ℚ) ≤ m.distance sn)) = true then
          some (m.delta w sn : ℚ)
        else r.seqWin) = some (m.delta w sn : ℚ)
    by_cases hZero : m.delta w sn = 0
    · simp [hZero]
    · rw [if_neg hZero, if_pos (hValid.mpr hNow)]

/- There is a result as soon as one was or is assigned. -/
theorem seqWin_ne_none_iff
    (th : ℚ)
    (hPnum : m.pnum ≠ 0)
    (r : RxResults)
    (sn : BitVec 32) :
    (m.rxPkt (windowParams w th)
        { r with seqNum := sn }).2.1.seqWin ≠ none ↔
      r.seqWin ≠ none ∨ m.delta w sn = 0 ∨ m.validWith w sn := by
  by_cases hValid : m.validWith w sn
  · rcases rxPkt_spec hPnum r with ⟨-, -, -, -, -, hResult⟩
    rw [hResult hValid]
    simp [hValid]
  · have hInvalid :
        (m.winValid ||
            decide
              ((windowParams w th).winSize ≤ m.distance sn)) =
          false := by
      rw [validWith, not_or, Bool.not_eq_true] at hValid
      rw [hValid.1, Bool.false_or, decide_eq_false_iff_not]
      intro hLe
      have hCast : (w : ℚ) ≤ m.distance sn := hLe
      exact hValid.2 (by exact_mod_cast hCast)
    simp only [rxPkt, hPnum, if_false, cells_windowParams]
    change
      (if m.delta w sn = 0 then some 0
        else if (m.winValid ||
            decide
              ((windowParams w th).winSize ≤ m.distance sn)) =
              true then
          some (m.delta w sn : ℚ)
        else r.seqWin) ≠ none ↔ _
    rw [hInvalid]
    by_cases hZero : m.delta w sn = 0
    · simp [hZero]
    · simp [hZero, hValid]

end SeqWinMeasure

------------------------------------------------------------
-- Running Windows
------------------------------------------------------------

namespace LossState

variable {w : Nat}
variable {th : ℚ}
variable {s : LossState}

/- A window that has seen a packet. -/
structure Running
    (w : Nat)
    (s : LossState) : Prop where
  pnum : s.seqWin.pnum ≠ 0
  length : s.seqWin.snWin.length = w

theorem Running.receive
    (hRunning : Running w s)
    (sn : BitVec 32) :
    Running w (s.receive (windowParams w th) sn) ∧
      (s.receive (windowParams w th) sn).seqWin.initialSn =
        s.seqWin.initialSn := by
  rcases receive_seqWin (windowParams w th) s sn with
    ⟨hSeqWin, -⟩
  rcases SeqWinMeasure.rxPkt_spec hRunning.pnum s.r with
    ⟨hPnum, hInitial, -, hSet, hSame, -⟩
  refine ⟨⟨?_, ?_⟩, ?_⟩
  · rw [hSeqWin, hPnum]
    exact hRunning.pnum
  · rw [hSeqWin]
    by_cases hUpdates : s.seqWin.Updates w th sn
    · rw [hSet hUpdates, List.length_set]
      exact hRunning.length
    · rw [hSame hUpdates]
      exact hRunning.length
  · rw [hSeqWin, hInitial]

end LossState

end MONL

end NapaBaselibs
