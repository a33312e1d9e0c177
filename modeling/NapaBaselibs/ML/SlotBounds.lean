import NapaBaselibs.ML.GapTracking
import NapaBaselibs.ML.MessageIdentity

/-
  Where the bounds lie that a reception slot asks between.

  Beside each slot the datagrams are kept that were copied
  into it.  Whatever they are, a gap begins at the start of
  the message or where a copied piece stops, and ends where
  one starts; the expected offset is such a stop as well.

  Key definitions include:
    * `Reception.piece`
    * `RecvData.BoundedBy`
    * `Recorded`

  Key theorems include:
    * `RecvData.BoundedBy.recvFragment`
    * `Recorded.step`, `recorded_of_run`
-/

------------------------------------------------------------
-- Pieces That Are Copied
------------------------------------------------------------

namespace NapaBaselibs

namespace ML

open Tiling (Piece Starts Stops)

variable {σ α : Type}

/-
  The piece of a message in a datagram: what lies behind the
  headers, without the data header of the first packet.
-/
def Reception.piece (r : Reception) : Piece where
  start := r.msgH.offset.toNat
  length :=
    (r.datagram.drop r.bufptr).length -
      if r.msgH.offset = 0 then
        r.msgH.lenMonDataHdr.toNat
      else
        0

/- The bounds in a slot lie at ends of these pieces. -/
structure RecvData.BoundedBy
    (slot : RecvData)
    (pieces : List Piece) : Prop where
  expected : Stops 0 pieces slot.expectedOffset
  gapFrom :
    ∀ gap ∈ slot.gapArray, Stops 0 pieces gap.offsetFrom
  gapTo :
    ∀ gap ∈ slot.gapArray, Starts pieces gap.offsetTo

namespace RecvData

variable {slot slot' : RecvData}
variable {pieces : List Piece}

/- More pieces have more ends. -/
theorem BoundedBy.mono
    {more : List Piece}
    (hBounded : slot.BoundedBy pieces)
    (hSubset : pieces ⊆ more) :
    slot.BoundedBy more where
  expected := hBounded.expected.mono hSubset
  gapFrom gap hMem := (hBounded.gapFrom gap hMem).mono hSubset
  gapTo gap hMem := (hBounded.gapTo gap hMem).mono hSubset

/- The same bounds are bounded in the same way. -/
theorem BoundedBy.congr
    (hBounded : slot.BoundedBy pieces)
    (hExpected : slot'.expectedOffset = slot.expectedOffset)
    (hGaps : slot'.gapArray = slot.gapArray) :
    slot'.BoundedBy pieces where
  expected := by
    rw [hExpected]
    exact hBounded.expected
  gapFrom := by
    rw [hGaps]
    exact hBounded.gapFrom
  gapTo := by
    rw [hGaps]
    exact hBounded.gapTo

/- A new slot has nothing but the start of its message. -/
theorem boundedBy_of_create
    {conId : ConId}
    {msgH : MsgHeader}
    (hCreate : create conId msgH = .ok slot) :
    slot.BoundedBy [] := by
  rcases create_ok hCreate with
    ⟨_, _, _, hGaps, hExpected, _⟩
  refine ⟨Or.inl hExpected, ?_, ?_⟩
  · rw [hGaps]
    exact fun _ hMem => absurd hMem List.not_mem_nil
  · rw [hGaps]
    exact fun _ hMem => absurd hMem List.not_mem_nil

/-
  A gap that a piece touches is cut where the piece ends, and
  every other gap is left as it is.
-/
theorem BoundedBy.fillGap
    {piece : Piece}
    (hBounded : slot.BoundedBy pieces)
    (hMem : piece ∈ pieces) :
    ∀ gap ∈ ML.fillGap piece.start piece.length slot.gapArray,
      Stops 0 pieces gap.offsetFrom ∧
        Starts pieces gap.offsetTo := by
  have hOld :
      ∀ gap ∈ slot.gapArray,
        Stops 0 pieces gap.offsetFrom ∧
          Starts pieces gap.offsetTo :=
    fun gap hGap =>
      ⟨hBounded.gapFrom gap hGap, hBounded.gapTo gap hGap⟩
  rcases
    fillGap_cases piece.start piece.length slot.gapArray with
    ⟨_, hSame⟩ | ⟨before, gap, after, hGaps, hTouches, hFill⟩
  · rw [hSame]
    exact hOld
  · rw [hFill]
    intro other hOther
    rw [hGaps] at hOld
    rcases mem_replaced (a := gap) hOther with
      rfl | hElse
    · have hHere :=
        hOld gap
          (List.mem_append_right _ List.mem_cons_self)
      unfold Gap.trim
      split
      · rename_i hFrom
        refine ⟨Or.inr ⟨piece, hMem, ?_⟩, hHere.2⟩
        unfold Piece.stop
        simp only [hFrom]
      · rename_i hNotFrom
        refine ⟨hHere.1, piece, hMem, ?_⟩
        rcases hTouches with hFrom | hTo
        · exact absurd hFrom hNotFrom
        · simp only
          omega
    · exact hOld other hElse

/- The length that is copied is that of the piece. -/
theorem length_of_copyMonDataHdr
    {r : Reception}
    {data : List UInt8}
    (hCopy :
      slot.copyMonDataHdr r.msgH (r.datagram.drop r.bufptr) =
        .ok (slot', data)) :
    data.length = r.piece.length ∧
      slot'.expectedOffset = slot.expectedOffset ∧
      slot'.gapArray = slot.gapArray := by
  unfold Reception.piece
  rcases copyMonDataHdr_cases hCopy with
    ⟨hFirst, _, _, rfl, rfl⟩ | ⟨hLater, rfl, rfl⟩
  · rw [if_pos hFirst, List.length_drop]
    exact ⟨rfl, rfl, rfl⟩
  · rw [if_neg hLater]
    exact ⟨rfl, rfl, rfl⟩

/- Tracking a piece that bounds keeps to the pieces. -/
theorem BoundedBy.tracked
    {piece : Piece}
    (hBounded : slot.BoundedBy pieces)
    (hMem : piece ∈ pieces) :
    (slot.tracked piece.start piece.length).BoundedBy
      pieces := by
  have hBoth :
      ∀ gap ∈ slot.nextGaps piece.start piece.length,
        Stops 0 pieces gap.offsetFrom ∧
          Starts pieces gap.offsetTo := by
    unfold nextGaps
    split
    · intro gap hGap
      rcases List.mem_append.mp hGap with hOld | hNew
      · exact
          ⟨hBounded.gapFrom gap hOld, hBounded.gapTo gap hOld⟩
      · rw [List.mem_singleton.mp hNew]
        exact ⟨hBounded.expected, piece, hMem, rfl⟩
    · split
      · exact hBounded.fillGap hMem
      · exact fun gap hOld =>
          ⟨hBounded.gapFrom gap hOld, hBounded.gapTo gap hOld⟩
  have hNext :
      Stops 0 pieces
        (slot.nextOffset piece.start piece.length) := by
    unfold nextOffset
    split
    · exact Or.inr ⟨piece, hMem, rfl⟩
    · exact hBounded.expected
  exact
    { expected := hNext
      gapFrom := fun gap hGap => (hBoth gap hGap).1
      gapTo := fun gap hGap => (hBoth gap hGap).2 }

/- Entering a packet adds its piece to those that bound. -/
theorem BoundedBy.recvFragment
    {r : Reception}
    {recvId : RecvId}
    {timers : List Output}
    (hBounded : slot.BoundedBy pieces)
    (hRecv :
      slot.recvFragment recvId r.msgH
          (r.datagram.drop r.bufptr) =
        .ok (slot', timers)) :
    slot'.BoundedBy (pieces ++ [r.piece]) := by
  rcases recvFragment_cases hRecv with
    ⟨slot₁, data, slot₂, hHeader, hData, rfl, _⟩
  rcases length_of_copyMonDataHdr hHeader with
    ⟨hLength, hExpected, hGaps⟩
  have hMore :
      slot₂.BoundedBy (pieces ++ [r.piece]) := by
    rcases copyData_ok hData with ⟨_, rfl⟩
    exact
      (hBounded.mono (List.subset_append_left _ _)).congr
        hExpected hGaps
  have hStart : r.msgH.offset.toNat = r.piece.start := rfl
  rw [hLength, hStart]
  exact
    hMore.tracked
      (List.mem_append_right _ List.mem_cons_self)

/-
  What does not touch the bounds of a slot, nor the message
  it is for.
-/
structure SameBounds (slot slot' : RecvData) : Prop where
  message : slot.SameMessage slot'
  expected : slot'.expectedOffset = slot.expectedOffset
  gaps : slot'.gapArray = slot.gapArray

theorem SameBounds.refl
    (slot : RecvData) :
    slot.SameBounds slot :=
  ⟨.refl slot, rfl, rfl⟩

theorem sameBounds_startTimeouts
    (slot : RecvData) :
    slot.SameBounds slot.startTimeouts := by
  refine ⟨slot.sameMessage_startTimeouts, ?_, ?_⟩ <;>
    · unfold startTimeouts
      split
      · rfl
      · rfl

end RecvData

------------------------------------------------------------
-- Datagrams Beside The Slots
------------------------------------------------------------

/-
  A slot and the datagrams copied into it: it was created for
  the first of them, and its bounds are ends of their pieces.
-/
structure SlotLog.Records
    (slot : RecvData)
    (log : SlotLog Reception) : Prop where
  created :
    ∃ conId new,
      RecvData.create conId log.message.msgH = .ok new ∧
        new.SameMessage slot
  bounded :
    slot.BoundedBy (log.copied.map Reception.piece)

/- So it is for all slots in use, and no other has a log. -/
def Recorded
    (s : Endpoint σ)
    (logs : SlotLogs Reception) : Prop :=
  ∀ recvId,
    Option.Rel SlotLog.Records (s.recvdatabuf recvId)
      (logs.slots recvId)

/- The log of a slot goes on while its bounds stay. -/
theorem SlotLog.Records.congr
    {slot slot' : RecvData}
    {log : SlotLog Reception}
    (hRecords : Records slot log)
    (hSame : slot.SameBounds slot') :
    Records slot' log where
  created := by
    rcases hRecords.created with
      ⟨conId, new, hCreate, hMessage⟩
    exact ⟨conId, new, hCreate, hMessage.trans hSame.message⟩
  bounded := hRecords.bounded.congr hSame.expected hSame.gaps

/- One slot and its log change together. -/
theorem Recorded.set
    {s s' : Endpoint σ}
    {logs logs' : SlotLogs Reception}
    {recvId : RecvId}
    {slot : RecvData}
    {log : SlotLog Reception}
    (hRecorded : Recorded s logs)
    (hSlots :
      s'.recvdatabuf = s.recvdatabuf.set recvId slot)
    (hLogs : logs'.slots = logs.slots.set recvId log)
    (hRecords : SlotLog.Records slot log) :
    Recorded s' logs' := by
  intro i
  rw [hSlots, hLogs]
  by_cases hEq : i = recvId
  · rw [hEq, SlotTable.set_self, SlotTable.set_self]
    exact .some hRecords
  · rw [SlotTable.set_of_ne _ _ hEq,
      SlotTable.set_of_ne _ _ hEq]
    exact hRecorded i

/- Nothing is in use at the start. -/
theorem recorded_start
    {s : Endpoint σ}
    (hInitial : s.Initial) :
    Recorded s SlotLogs.start := by
  intro recvId
  rw [hInitial.recvdatabuf]
  exact .none

/- A packet that goes on with a slot goes on with its log. -/
theorem SlotLog.Records.recvFragment
    {slot slot₁ slot₂ : RecvData}
    {log : SlotLog Reception}
    {r : Reception}
    {recvId : RecvId}
    {timers : List Output}
    (hRecords : Records slot log)
    (hRecv :
      slot.recvFragment recvId r.msgH
          (r.datagram.drop r.bufptr) =
        .ok (slot₁, timers))
    (hAfter : slot₂ = slot₁ ∨ slot₂ = slot₁.startTimeouts) :
    Records slot₂ { log with copied := log.copied ++ [r] } := by
  have hSame : slot₁.SameBounds slot₂ := by
    rcases hAfter with rfl | rfl
    · exact .refl slot₂
    · exact slot₁.sameBounds_startTimeouts
  refine SlotLog.Records.congr ⟨?_, ?_⟩ hSame
  · rcases hRecords.created with
      ⟨conId, new, hCreate, hMessage⟩
    exact
      ⟨conId, new, hCreate,
        hMessage.trans
          (RecvData.recvFragment_sameMessage hRecv)⟩
  · rw [List.map_append]
    exact hRecords.bounded.recvFragment hRecv

/- The first packet starts the slot and its log. -/
theorem SlotLog.records_first
    {conId : ConId}
    {slot slot₁ slot₂ : RecvData}
    {r : Reception}
    {recvId : RecvId}
    {timers : List Output}
    (hCreate : RecvData.create conId r.msgH = .ok slot)
    (hRecv :
      slot.recvFragment recvId r.msgH
          (r.datagram.drop r.bufptr) =
        .ok (slot₁, timers))
    (hAfter : slot₂ = slot₁ ∨ slot₂ = slot₁.startTimeouts) :
    Records slot₂ ⟨r, [r]⟩ := by
  have hEmpty : Records slot ⟨r, []⟩ :=
    ⟨⟨conId, slot, hCreate, .refl slot⟩,
      RecvData.boundedBy_of_create hCreate⟩
  exact hEmpty.recvFragment hRecv hAfter

------------------------------------------------------------
-- Steps And Runs
------------------------------------------------------------

section Steps

variable {p : Platform}
variable {T : Transport σ α}

/- A datagram that is entered is recorded. -/
theorem Recorded.entered
    {s s' : Endpoint σ}
    {logs : SlotLogs Reception}
    {con : ConnectData}
    {conId : ConId}
    {recvId : RecvId}
    {slot : RecvData}
    {r : Reception}
    {outputs : List Output}
    (hRecorded : Recorded s logs)
    (hSlot : s.recvSlot conId r.msgH = .ok (recvId, slot))
    (hEnter :
      s.enterPacket con recvId slot r.msgH
          (r.datagram.drop r.bufptr) =
        .ok (s', outputs)) :
    Recorded s' (logs.enter recvId slot r) := by
  have hAt := hRecorded recvId
  rcases Endpoint.recvSlot_cases hSlot with
    ⟨_, hUsed | ⟨hFree, _, hCreate⟩⟩
  · rw [hUsed] at hAt
    generalize hLog : logs.slots recvId = found at hAt
    cases hAt with
    | @some _ log hRecords =>
        unfold SlotLogs.enter
        rw [hLog]
        rcases Endpoint.enterPacket_cases hEnter with
          ⟨hComplete, rfl, _⟩ |
          ⟨slot₁, slot₂, _, _, hOpen, hRecv, hAfter, _, rfl,
            _⟩
        · simp only [hComplete, if_true]
          exact hRecorded
        · simp only [hOpen, if_false]
          exact
            hRecorded.set rfl rfl
              (hRecords.recvFragment hRecv hAfter)
  · rw [hFree] at hAt
    generalize hLog : logs.slots recvId = found at hAt
    cases hAt
    unfold SlotLogs.enter
    rw [hLog]
    rcases Endpoint.enterPacket_cases hEnter with
      ⟨hComplete, _⟩ |
      ⟨slot₁, slot₂, _, _, _, hRecv, hAfter, _, rfl, _⟩
    · rw [(RecvData.create_ok hCreate).2.1] at hComplete
      cases hComplete
    · exact
        hRecorded.set rfl rfl
          (SlotLog.records_first hCreate hRecv hAfter)

/- No other event touches the bounds of a slot. -/
theorem NodeStep.sameBounds
    {s s' : Endpoint σ}
    {e : Event α}
    {outputs : List Output}
    (hStep : NodeStep p T s e outputs s')
    (hPkg : ∀ input r, e ≠ .recvPkg input r)
    (hTimeout : ∀ recvId, e ≠ .recvTimeout recvId) :
    ∀ i,
      Option.Rel RecvData.SameBounds (s.recvdatabuf i)
        (s'.recvdatabuf i) := by
  have hRefl (i : RecvId) :
      Option.Rel RecvData.SameBounds (s.recvdatabuf i)
        (s.recvdatabuf i) := by
    cases s.recvdatabuf i with
    | none => exact .none
    | some slot => exact .some (.refl slot)
  have hSame :
      s'.recvdatabuf = s.recvdatabuf →
        ∀ i,
          Option.Rel RecvData.SameBounds (s.recvdatabuf i)
            (s'.recvdatabuf i) := by
    intro hSlots i
    rw [hSlots]
    exact hRefl i
  cases hStep.effect with
  | quiet _ hSlots _ => exact hSame hSlots
  | entered => exact absurd rfl (hPkg _ _)
  | handshake => exact absurd rfl (hPkg _ _)
  | opened hEffect => exact hSame hEffect.recvdatabuf_eq
  | closed => exact hSame rfl
  | retried hEffect => exact hSame hEffect.recvdatabuf_eq
  | expired => exact absurd rfl (hTimeout _)
  | @asked _ recvId slot _ _ hSlot _ hSlots _ =>
      intro i
      rw [hSlots]
      by_cases hEq : i = recvId
      · rw [hEq, SlotTable.set_self, hSlot]
        exact .some ⟨⟨rfl, rfl, rfl, rfl, rfl, rfl⟩, rfl, rfl⟩
      · rw [SlotTable.set_of_ne _ _ hEq]
        exact hRefl i

/- The logs are of the datagrams themselves. -/
def LogsDatagrams
    (tr : LoggedTransition σ α Reception) : Prop :=
  ∀ input r, tr.event.1 = .recvPkg input r → tr.event.2 = r

/- A step keeps what is recorded about the slots. -/
theorem Recorded.step
    {tr : LoggedTransition σ α Reception}
    (hStep :
      LoggedStep p T tr.pre tr.event tr.outputs tr.post)
    (hLogs : LogsDatagrams tr)
    (hRecorded : Recorded tr.pre.1 tr.pre.2) :
    Recorded tr.post.1 tr.post.2 := by
  rcases tr with
    ⟨⟨s, logs⟩, ⟨e, tag⟩, outputs, ⟨s', logs'⟩⟩
  rcases hStep with ⟨hNode, hNext⟩
  simp only at hNode hNext hRecorded ⊢
  subst hNext
  have hOther
      (hPkg : ∀ input r, e ≠ .recvPkg input r)
      (hTimeout : ∀ recvId, e ≠ .recvTimeout recvId) :
      Recorded s' logs := by
    intro i
    have hBefore := hRecorded i
    have hSame := hNode.sameBounds hPkg hTimeout i
    generalize s'.recvdatabuf i = slot' at hSame ⊢
    generalize s.recvdatabuf i = slot at hBefore hSame
    generalize logs.slots i = log at hBefore ⊢
    cases hSame with
    | none => exact hBefore
    | some hBounds =>
        cases hBefore with
        | some hRecords => exact .some (hRecords.congr hBounds)
  cases e with
  | recvPkg input r =>
      have hTag : tag = r := hLogs input r rfl
      subst hTag
      cases hKey : s.slotKey? tag with
      | none =>
          have hSlots := recvPkg_keeps_slots hNode.2 hKey
          simp only [SlotLogs.next, hKey]
          intro i
          rw [hSlots]
          exact hRecorded i
      | some key =>
          rcases recvPkg_entered hNode.2 hKey with
            ⟨con, recvId, slot, hSlot, hEnter⟩
          simp only [SlotLogs.next, hKey, hSlot]
          exact hRecorded.entered hSlot hEnter
  | recvTimeout recvId =>
      have hExec := hNode.2
      cases hExec
      intro i
      unfold recvTimeoutCb SlotLogs.next
      simp only
      by_cases hEq : i = recvId
      · rw [hEq, SlotTable.free_self, SlotTable.free_self]
        exact .none
      · rw [SlotTable.free_of_ne _ hEq,
          SlotTable.free_of_ne _ hEq]
        exact hRecorded i
  | openConnection | closeConnection | sendData
  | pmtuTimeout | keepalive | pktRecvTimeout
  | lastPktRecvTimeout => exact hOther (by simp) (by simp)

/-
  In every run, with datagrams of any kind: each slot in use
  is bounded by the pieces that were copied into it.
-/
theorem recorded_of_run
    {s : Endpoint σ}
    {t : Endpoint σ × SlotLogs Reception}
    {trace : List (LoggedTransition σ α Reception)}
    (hInitial : s.Initial)
    (hRun :
      Run (LoggedStep p T) (s, SlotLogs.start) trace t)
    (hLogs : ∀ tr ∈ trace, LogsDatagrams tr) :
    Recorded t.1 t.2 :=
  (hRun.invariant_of_steps
    (fun state => Recorded state.1 state.2) LogsDatagrams
    (fun _ hStep hTag hRecorded => hRecorded.step hStep hTag)
    hLogs (recorded_start hInitial)).1

end Steps

end ML

end NapaBaselibs
