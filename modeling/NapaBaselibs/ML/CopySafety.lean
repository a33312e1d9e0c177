import NapaBaselibs.ML.Sample

/-
  When reassembly copies inside its buffers.

  The buffer of a slot has the size announced by the packet
  that created it, while the place of a copy comes from the
  packet being copied.  Nothing compares the two, so the
  copies stay inside the datagram and the buffer exactly when
  the packet happens to fit.

  Key definitions include:
    * `Fits`, `CopiesFit`, `WithinBuffers`
    * `LeavesBuffers`

  Key theorems include:
    * `recvFragment_leavesBuffers_iff`
    * `recvPkg_leavesBuffers_iff`
    * `recvAll_within_buffers_iff`
-/

------------------------------------------------------------
-- The Condition
------------------------------------------------------------

namespace NapaBaselibs

namespace ML

variable {σ α : Type}

/-
  A packet whose content has `size` bytes fits a buffer of
  `bufsize` bytes: a first packet holds its monitoring
  header, and the data ends inside the buffer.
-/
structure Fits
    (bufsize : Nat)
    (msgH : MsgHeader)
    (size : Nat) : Prop where
  header :
    msgH.offset = 0 → msgH.lenMonDataHdr.toNat ≤ size
  data :
    msgH.lenMonDataHdr.toNat + msgH.offset.toNat +
        (if msgH.offset = 0 then
          size - msgH.lenMonDataHdr.toNat
        else
          size) ≤
      bufsize

/-
  The packet fits the buffer of its slot, or needs no copy.
  The buffer is that of the slot in use for the message, or
  the one that the packet itself asks for.
-/
def CopiesFit
    (s : Endpoint σ)
    (conId : ConId)
    (msgH : MsgHeader)
    (size : Nat) : Prop :=
  match s.recvdatabuf.find?
      (RecvData.isFor conId msgH.msgSeqNum) with
  | some (_, slot) =>
      slot.status = .complete ∨ Fits slot.bufsize msgH size
  | none =>
      Fits (msgH.msgLength.toNat + msgH.lenMonDataHdr.toNat)
        msgH size

/- The step ends in a copy outside its source or target. -/
abbrev LeavesBuffers
    {β : Type}
    (result : Except Fault β) : Prop :=
  Fault.FailsWith Fault.IsCopy result

------------------------------------------------------------
-- Copies
------------------------------------------------------------

namespace RecvData

/- Copying the data fails when it ends behind the buffer. -/
theorem copyData_leavesBuffers_iff
    {slot : RecvData}
    {msgH : MsgHeader}
    {data : List UInt8} :
    LeavesBuffers (slot.copyData msgH data) ↔
      slot.bufsize <
        msgH.lenMonDataHdr.toNat + msgH.offset.toNat +
          data.length := by
  unfold copyData
  simp only
  split
  · rename_i hBehind
    exact iff_of_true trivial hBehind
  · rename_i hInside
    refine iff_of_false ?_ hInside
    split
    · exact id
    · exact Fault.not_failsWith_ok

/- Entering a packet fails exactly when it does not fit. -/
theorem recvFragment_leavesBuffers_iff
    (slot : RecvData)
    (recvId : RecvId)
    (msgH : MsgHeader)
    (data : List UInt8) :
    LeavesBuffers (slot.recvFragment recvId msgH data) ↔
      ¬ Fits slot.bufsize msgH data.length := by
  have hAfter
      (slot₁ : RecvData)
      (data₁ : List UInt8)
      (hHeader :
        slot.copyMonDataHdr msgH data = .ok (slot₁, data₁)) :
      LeavesBuffers (slot.recvFragment recvId msgH data) ↔
        slot₁.bufsize <
          msgH.lenMonDataHdr.toNat + msgH.offset.toNat +
            data₁.length := by
    rw [← copyData_leavesBuffers_iff]
    unfold recvFragment
    simp only [hHeader]
    cases slot₁.copyData msgH data₁ with
    | error fault => exact Iff.rfl
    | ok slot₂ => exact Iff.rfl
  by_cases hFirst : msgH.offset = 0
  · have hZero : msgH.offset.toNat = 0 := by
      rw [hFirst]
      rfl
    by_cases hRead :
        data.length < msgH.lenMonDataHdr.toNat
    · refine iff_of_true ?_ ?_
      · unfold recvFragment copyMonDataHdr
        simp only [hFirst, hRead, if_true]
        trivial
      · intro hFits
        have := hFits.header hFirst
        omega
    · by_cases hWrite :
          slot.bufsize < msgH.lenMonDataHdr.toNat
      · refine iff_of_true ?_ ?_
        · unfold recvFragment copyMonDataHdr
          simp only [hFirst, hRead, hWrite, if_true, if_false]
          trivial
        · intro hFits
          have := hFits.data
          omega
      · have hHeader :
            slot.copyMonDataHdr msgH data =
              .ok
                ({ slot with
                    recvbuf :=
                      ByteSeq.overlay slot.recvbuf 0
                        (data.take msgH.lenMonDataHdr.toNat)
                    firstPacketArrived := true },
                  data.drop msgH.lenMonDataHdr.toNat) := by
          unfold copyMonDataHdr
          simp only [hFirst, hRead, hWrite, if_true, if_false]
        rw [hAfter _ _ hHeader]
        have hSame :
            (ByteSeq.overlay slot.recvbuf 0
              (data.take
                msgH.lenMonDataHdr.toNat)).length =
                slot.bufsize := by
          refine ByteSeq.length_overlay ?_
          rw [List.length_take]
          unfold bufsize at hWrite
          omega
        unfold bufsize at *
        simp only [hSame, List.length_drop]
        constructor
        · intro hBehind hFits
          have hData := hFits.data
          rw [if_pos hFirst] at hData
          omega
        · intro hNot
          by_contra hInside
          refine hNot ⟨fun _ => by omega, ?_⟩
          rw [if_pos hFirst]
          omega
  · have hHeader :
        slot.copyMonDataHdr msgH data = .ok (slot, data) := by
      unfold copyMonDataHdr
      simp only [hFirst, if_false]
    rw [hAfter _ _ hHeader]
    constructor
    · intro hBehind hFits
      have hData := hFits.data
      rw [if_neg hFirst] at hData
      omega
    · intro hNot
      by_contra hInside
      refine hNot ⟨fun hZero => absurd hZero hFirst, ?_⟩
      rw [if_neg hFirst]
      omega

end RecvData

------------------------------------------------------------
-- Datagrams
------------------------------------------------------------

/- Besides the copies, nothing in the step copies. -/
theorem enterPacket_leavesBuffers_iff
    (s : Endpoint σ)
    (con : ConnectData)
    (recvId : RecvId)
    (slot : RecvData)
    {msgH : MsgHeader}
    (data : List UInt8)
    (hType : msgH.msgType.toNat < msgMultiplexSize) :
    ¬ LeavesBuffers
        (s.enterPacket con recvId slot msgH data) ↔
      slot.status = .complete ∨
        Fits slot.bufsize msgH data.length := by
  unfold Endpoint.enterPacket
  split
  · rename_i hComplete
    exact
      iff_of_true Fault.not_failsWith_ok (Or.inl hComplete)
  · rename_i hOpen
    rw [or_iff_right hOpen]
    have hIff :=
      slot.recvFragment_leavesBuffers_iff recvId msgH data
    cases hFragment :
        slot.recvFragment recvId msgH data with
    | error fault =>
        rw [hFragment] at hIff
        rw [← not_iff_not, not_not, ← hIff]
        exact Iff.rfl
    | ok result =>
        rcases result with ⟨slot', timers⟩
        rw [hFragment] at hIff
        have hFits : Fits slot.bufsize msgH data.length :=
          not_not.mp (hIff.not.mp Fault.not_failsWith_ok)
        refine iff_of_true ?_ hFits
        rcases s.callback_ok con slot' hType with ⟨calls, hCalls⟩
        simp only [hCalls]
        split
        · exact Fault.not_failsWith_ok
        · exact Fault.not_failsWith_ok

/-
  The slot is the one the condition speaks of, when there is
  one.
-/
theorem recvDataMsg_leavesBuffers_iff
    {s : Endpoint σ}
    {msgH : MsgHeader}
    {data : List UInt8}
    {conId : ConId}
    {con : ConnectData}
    {found : RecvId × RecvData}
    (hType : msgH.msgType.toNat < msgMultiplexSize)
    (hLength : msgH.msgLength.toNat ≤ maxMsgLength)
    (hId : msgH.remoteConId.toInt = (conId : Nat))
    (hCon : s.connectbuf conId = some con)
    (hSlot : s.recvSlot conId msgH = .ok found) :
    ¬ LeavesBuffers (recvDataMsg s msgH data) ↔
      CopiesFit s conId msgH data.length := by
  unfold recvDataMsg
  simp only [connectbufAt_natCast hId, hCon, hSlot]
  rw [enterPacket_leavesBuffers_iff _ _ _ _ _ hType]
  unfold CopiesFit
  unfold Endpoint.recvSlot at hSlot
  split at hSlot
  · rename_i found hFind
    cases hSlot
    rw [hFind]
  · rename_i hFind
    rw [hFind]
    simp only
    split at hSlot
    · cases hSlot
    · split at hSlot
      · cases hSlot
      · rename_i hCreate
        cases hSlot
        rcases RecvData.create_ok hCreate with
          ⟨_, hActive, _, _, _, _, hSize⟩
        have hHeader := msgH.lenMonDataHdr.toNat_lt
        unfold maxMsgLength at hLength
        rw [Nat.mod_eq_of_lt (by omega)] at hSize
        rw [hActive, hSize]
        simp

/-
  A datagram for which no slot is found or created copies
  nothing.
-/
theorem recvDataMsg_not_leavesBuffers
    {s : Endpoint σ}
    {msgH : MsgHeader}
    {data : List UInt8}
    (hNone :
      ∀ (conId : ConId) (con : ConnectData) found,
        msgH.remoteConId.toInt = (conId : Nat) →
          s.connectbuf conId = some con →
            s.recvSlot conId msgH ≠ .ok found) :
    ¬ LeavesBuffers (recvDataMsg s msgH data) := by
  unfold recvDataMsg
  cases hIndex : connectbufAt msgH.remoteConId.toInt with
  | error fault =>
      rw [connectbufAt_error hIndex]
      exact id
  | ok conId =>
      simp only
      cases hCon : s.connectbuf conId with
      | none => exact Fault.not_failsWith_ok
      | some con =>
          simp only
          cases hSlot : s.recvSlot conId msgH with
          | ok found =>
              exact
                absurd hSlot
                  (hNone conId con found
                    (eq_of_connectbufAt hIndex) hCon)
          | error fault =>
              unfold Endpoint.recvSlot at hSlot
              split at hSlot
              · cases hSlot
              · split at hSlot
                · cases hSlot
                  exact id
                · split at hSlot
                  · rename_i hCreate
                    cases hSlot
                    rw [RecvData.create_error hCreate]
                    exact id
                  · cases hSlot

/- Handlers other than the one for data copy nothing here. -/
theorem dispatch_not_leavesBuffers
    {p : Platform}
    {T : Transport σ α}
    {input : SendInput α}
    {s : Endpoint σ}
    {r : Reception}
    (hClass : r.classify ≠ .data) :
    ¬ LeavesBuffers (dispatch p T input s r) := by
  unfold dispatch
  cases hCase : r.classify with
  | data => exact absurd hCase hClass
  | connection =>
      simp only
      refine Fault.not_failsWith_of_error ?_
      intro fault hFault
      rcases recvConnMsg_error hFault with hSend | rfl
      · exact hSend.not_isCopy
      · exact id
  | nack =>
      simp only
      unfold recvNackMsg
      simp only
      split
      · exact id
      · exact Fault.not_failsWith_ok
  | stun | badPacket | tooSmall | corrupted
  | unrecognised => exact Fault.not_failsWith_ok

/-
  The condition on a datagram: a data packet that reaches a
  live connection, and for which a slot is found or created,
  fits the buffer of that slot.
-/
def WithinBuffers
    (s : Endpoint σ)
    (r : Reception) : Prop :=
  r.classify = .data →
    s.hookRefuses r.msgH = false →
      ∀ (conId : ConId) (con : ConnectData)
          (found : RecvId × RecvData),
        r.msgH.remoteConId.toInt = (conId : Nat) →
          s.connectbuf conId = some con →
            s.recvSlot conId r.msgH = .ok found →
              CopiesFit s conId r.msgH r.msgSize.toNat

/-
  Both copies stay inside the datagram and inside the buffer
  exactly when the datagram meets the condition.
-/
theorem recvPkg_leavesBuffers_iff
    {p : Platform}
    {T : Transport σ α}
    {input : SendInput α}
    {s : Endpoint σ}
    {r : Reception} :
    ¬ LeavesBuffers (recvPkg p T input s r) ↔
      WithinBuffers s r := by
  unfold WithinBuffers
  unfold recvPkg
  by_cases hRefused :
      r.classify ≠ .stun ∧ s.hookRefuses r.msgH = true
  · rw [if_pos hRefused]
    refine iff_of_true Fault.not_failsWith_ok ?_
    intro _ hPasses
    rw [hRefused.2] at hPasses
    cases hPasses
  · rw [if_neg hRefused]
    by_cases hClass : r.classify = .data
    · have hPasses : s.hookRefuses r.msgH = false := by
        simpa [hClass] using hRefused
      rcases Reception.classify_data hClass with
        ⟨hPassed, hType⟩
      have hSize :
          (r.datagram.drop r.bufptr).length =
            r.msgSize.toNat := by
        have hStart := hPassed.bufptr_le
        unfold Reception.msgSize
        rw [List.length_drop]
        omega
      unfold dispatch
      simp only [hClass, hPasses, true_implies, ← hSize]
      constructor
      · intro hInside conId con found hId hCon hSlot
        exact
          (recvDataMsg_leavesBuffers_iff hType
            hPassed.msgLength_le hId hCon hSlot).mp hInside
      · intro hFits
        by_cases hSome :
            ∃ (conId : ConId) (con : ConnectData)
                (found : RecvId × RecvData),
              r.msgH.remoteConId.toInt = (conId : Nat) ∧
                s.connectbuf conId = some con ∧
                s.recvSlot conId r.msgH = .ok found
        · rcases hSome with
            ⟨conId, con, found, hId, hCon, hSlot⟩
          exact
            (recvDataMsg_leavesBuffers_iff hType
              hPassed.msgLength_le hId hCon hSlot).mpr
              (hFits conId con found hId hCon hSlot)
        · refine recvDataMsg_not_leavesBuffers ?_
          intro conId con found hId hCon hSlot
          exact hSome ⟨conId, con, found, hId, hCon, hSlot⟩
    · exact
        iff_of_true (dispatch_not_leavesBuffers hClass)
          (fun hData => absurd hData hClass)

/-
  Receiving a sequence of datagrams, from any state, copies
  inside the datagrams and the buffers exactly when every one
  of them meets the condition where it is received.
-/
theorem recvAll_within_buffers_iff
    (p : Platform)
    (T : Transport σ α)
    (s : Endpoint σ)
    (rs : List (SendInput α × Reception)) :
    ¬ LeavesBuffers (recvAll p T s rs) ↔
      AllMeet p T WithinBuffers s rs :=
  recvAll_not_failsWith_iff
    (fun _ _ _ => recvPkg_leavesBuffers_iff) s rs

/-
  After an `INVITE`, a data packet of a message of one byte
  that carries two bytes is copied behind its buffer.
-/
theorem recvAll_data_leaves_buffers :
    Sample.node.Initial ∧
      LeavesBuffers
        (recvAll Sample.platform Transport.scripted
          Sample.node
          [(once, Sample.connReception .invite 5 (-1)),
            ([], Sample.dataReception 0 0 1 [1, 2]
              (by decide))]) := by
  refine ⟨Sample.node_initial, ?_⟩
  rcases Sample.recvPkg_invite 5 with
    ⟨con, pkt, hInvite, _⟩
  rcases
    Sample.recvDataMsg_first
      (Sample.node.setConNet Sample.first con ())
      (Sample.dataPacket 0 0 1 [1, 2]).header [1, 2] rfl
      (SlotTable.set_self Sample.node.connectbuf
        Sample.first con) rfl (by decide) with
    ⟨slot, hCreate, hData⟩
  have hStatus := (RecvData.create_ok hCreate).2.1
  have hSize := (RecvData.create_ok hCreate).2.2.2.2.2.2
  have hOutside :
      ¬ (slot.status = .complete ∨
        Fits slot.bufsize
          (Sample.dataPacket 0 0 1 [1, 2]).header 2) := by
    rintro (hComplete | hFits)
    · rw [hStatus] at hComplete
      cases hComplete
    · have hEnd := hFits.data
      rw [hSize] at hEnd
      revert hEnd
      decide
  have hLeaves :=
    not_not.mp
      ((enterPacket_leavesBuffers_iff
        (Sample.node.setConNet Sample.first con ()) con
        Sample.firstSlot slot [1, 2]
        (by decide)).not.mpr hOutside)
  rw [← hData] at hLeaves
  unfold recvAll
  rw [hInvite]
  simp only
  unfold recvAll
  rw [Sample.recvPkg_dataReception _ _ rfl 0 (by decide)
    (by decide) (by decide) (by decide)]
  cases hRecv :
      recvDataMsg
        (Sample.node.setConNet Sample.first con ())
        (Sample.dataPacket 0 0 1 [1, 2]).header [1, 2] with
  | ok result =>
      rw [hRecv] at hLeaves
      exact hLeaves.elim
  | error fault =>
      rw [hRecv] at hLeaves
      exact hLeaves

end ML

end NapaBaselibs
