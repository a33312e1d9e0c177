import NapaBaselibs.ML.Entries
import NapaBaselibs.ML.Sample

/-
  Reception slots and the connections they belong to.

  A slot names its connection by an index.  Closing or giving
  up a connection leaves its slots, whose timers then find
  nothing there, or the next connection with that index.  A
  run in which neither happens to a connection with slots
  keeps every slot with the connection it was created for.

  Key definitions include:
    * `SlotsLive`, `KeepsSlots`
    * `CreatedOver`

  Key theorems include:
    * `NodeStep.slotsLive_iff`
    * `slots_refer_to_live_connections`
-/

------------------------------------------------------------
-- Slots With A Connection
------------------------------------------------------------

namespace NapaBaselibs

namespace ML

variable {σ α : Type}

/- The connection of every slot is there. -/
def SlotsLive (s : Endpoint σ) : Prop :=
  ∀ recvId slot, s.recvdatabuf recvId = some slot →
    s.connectbuf slot.connectionID ≠ none

/- The event takes no connection away that has a slot. -/
def KeepsSlots
    (s : Endpoint σ)
    (e : Event α) : Prop :=
  ∀ recvId slot, s.recvdatabuf recvId = some slot →
    ¬ e.Closes s slot.connectionID

/- The timers of the slots. -/
def Event.IsSlotTimer : Event α → Prop
| recvTimeout _ | pktRecvTimeout _ _
| lastPktRecvTimeout _ _ => True
| _ => False

/-
  The slot was created by a step that found its connection,
  and since then both have been there: the slot for the same
  message, the connection with the same peer.
-/
def CreatedOver
    (trace : List (Transition (Endpoint σ) (Event α) Output))
    (recvId : RecvId)
    (slot : RecvData) : Prop :=
  ∃ (earlier later :
        List (Transition (Endpoint σ) (Event α) Output))
      (tr : Transition (Endpoint σ) (Event α) Output)
      (con : ConnectData),
    trace = earlier ++ tr :: later ∧
      tr.pre.recvdatabuf recvId = none ∧
      tr.pre.connectbuf slot.connectionID = some con ∧
      ∀ t ∈ tr :: later,
        (∃ slot', t.post.recvdatabuf recvId = some slot' ∧
          slot'.SameMessage slot) ∧
        ∃ con', t.post.connectbuf slot.connectionID =
            some con' ∧
          con'.externalSocketID = con.externalSocketID

variable {p : Platform}
variable {T : Transport σ α}
variable {s s' : Endpoint σ}
variable {e : Event α}
variable {outputs : List Output}

/- Slots keep their connection exactly if none is closed. -/
theorem NodeStep.slotsLive_iff
    (hStep : NodeStep p T s e outputs s')
    (hLive : SlotsLive s) :
    SlotsLive s' ↔ KeepsSlots s e := by
  constructor
  · intro hLive' recvId slot hSlot hCloses
    rcases hStep.closed hCloses with ⟨hGone, hSlots⟩
    refine hLive' recvId slot ?_ hGone
    rw [hSlots]
    exact hSlot
  · intro hKeeps recvId slot' hSlot'
    cases hStep.slot hSlot' with
    | kept hSlot hSame =>
        rw [hSame.connectionID]
        exact
          hStep.entry_stays (hKeeps recvId _ hSlot)
            (hLive recvId _ hSlot)
    | created _ _ _ hCon _ _ hEntries =>
        rw [hEntries, hCon]
        simp

/- The timer of a slot finds the connection it sends over. -/
theorem SlotsLive.timer
    (hLive : SlotsLive s)
    (hTimer : e.IsSlotTimer) :
    ¬ Fault.FailsWith Fault.IsTable (exec p T s e) := by
  cases e with
  | recvTimeout recvId => exact Fault.not_failsWith_ok
  | pktRecvTimeout input arg =>
      apply Fault.not_failsWith_of_error
      intro fault hFails
      change pktRecvTimeoutCb p T input s arg = _ at hFails
      unfold pktRecvTimeoutCb at hFails
      split at hFails
      · cases hFails
      · rename_i slot hSlot
        simp only at hFails
        split at hFails
        · cases hFails
        · split at hFails
          · cases hFails
          · split at hFails
            · rename_i hNack
              cases hFails
              rcases
                Option.ne_none_iff_exists'.mp
                  (hLive _ _ hSlot) with
                ⟨con, hCon⟩
              exact (sendMsg_error hCon hNack).not_isTable
            · split at hFails
              · cases hFails
              · cases hFails
  | lastPktRecvTimeout input recvId =>
      apply Fault.not_failsWith_of_error
      intro fault hFails
      change lastPktRecvTimeoutCb p T input s recvId = _
        at hFails
      unfold lastPktRecvTimeoutCb at hFails
      split at hFails
      · cases hFails
      · rename_i slot hSlot
        simp only at hFails
        split at hFails
        · cases hFails
        · rcases
            Option.ne_none_iff_exists'.mp (hLive _ _ hSlot)
            with ⟨con, hCon⟩
          have hAt :
              (s.setSlot recvId
                { slot with
                  lastPktTimeoutEvent := false }).connectbuf
                slot.connectionID = some con := hCon
          exact (sendMsg_error hAt hFails).not_isTable
  | recvPkg | openConnection | closeConnection | sendData
  | pmtuTimeout | keepalive => cases hTimer

------------------------------------------------------------
-- Runs
------------------------------------------------------------

/- A step that keeps the slots keeps what they refer to. -/
theorem CreatedOver.step
    {trace :
      List (Transition (Endpoint σ) (Event α) Output)}
    (hStep : NodeStep p T s e outputs s')
    (hKeeps : KeepsSlots s e)
    {recvId : RecvId}
    {slot slot' : RecvData}
    (hSlot : s.recvdatabuf recvId = some slot)
    (hSlot' : s'.recvdatabuf recvId = some slot')
    (hSame : slot.SameMessage slot')
    (hEnd : ∀ t ∈ trace.getLast?, t.post = s)
    (hCreated : CreatedOver trace recvId slot) :
    CreatedOver (trace ++ [⟨s, e, outputs, s'⟩]) recvId
      slot' := by
  rcases hCreated with
    ⟨earlier, later, tr, con, rfl, hFree, hCon, hSince⟩
  refine
    ⟨earlier, later ++ [⟨s, e, outputs, s'⟩], tr, con,
      by simp, hFree, ?_, ?_⟩
  · rw [hSame.connectionID]
    exact hCon
  · intro t hMem
    rw [← List.cons_append] at hMem
    rcases List.mem_append.mp hMem with hOld | hNew
    · rcases hSince t hOld with
        ⟨⟨slot₁, hSlot₁, hSame₁⟩, con₁, hCon₁, hPeer₁⟩
      refine
        ⟨⟨slot₁, hSlot₁, hSame₁.trans hSame⟩, con₁, ?_,
          hPeer₁⟩
      rw [hSame.connectionID]
      exact hCon₁
    · rw [List.mem_singleton] at hNew
      subst hNew
      refine ⟨⟨slot', hSlot', .refl slot'⟩, ?_⟩
      have hLast :
          ∃ t ∈ tr :: later, t.post = s := by
        have hSome :
            ∃ t, (tr :: later).getLast? = some t :=
          ⟨_, List.getLast?_cons⟩
        rcases hSome with ⟨t, hLast⟩
        refine ⟨t, List.mem_of_getLast? hLast, ?_⟩
        apply hEnd
        rw [List.getLast?_append, hLast]
        rfl
      rcases hLast with ⟨t, hMemT, hPost⟩
      rcases hSince t hMemT with
        ⟨_, con₁, hCon₁, hPeer₁⟩
      rw [hPost] at hCon₁
      rcases hStep.peer_stays (hKeeps recvId slot hSlot) hCon₁
        with ⟨con₂, hCon₂, hPeer₂⟩
      rw [hSame.connectionID]
      exact ⟨con₂, hCon₂, hPeer₂.trans hPeer₁⟩

/- What the slots of a run were created over. -/
theorem createdOver_of_run
    {trace :
      List (Transition (Endpoint σ) (Event α) Output)}
    (hInitial : s.Initial)
    (hRun : Run (NodeStep p T) s trace s')
    (hKeeps : ∀ tr ∈ trace, KeepsSlots tr.pre tr.event)
    {recvId : RecvId}
    {slot : RecvData}
    (hSlot : s'.recvdatabuf recvId = some slot) :
    CreatedOver trace recvId slot := by
  induction trace using List.reverseRecOn
    generalizing s' slot with
  | nil =>
      rw [← hRun.eq_of_nil, hInitial.recvdatabuf] at hSlot
      cases hSlot
  | append_singleton trace last ih =>
      rcases hRun.split_last with ⟨hBefore, hStep, rfl⟩
      have hEarlier :
          ∀ tr ∈ trace, KeepsSlots tr.pre tr.event :=
        fun tr hMem =>
          hKeeps tr (List.mem_append_left _ hMem)
      cases hStep.slot hSlot with
      | @kept slot₀ hSlot₀ hSame =>
          exact
            CreatedOver.step hStep
              (hKeeps last (by simp)) hSlot₀ hSlot hSame
              hBefore.getLast?_post
              (ih hBefore hEarlier hSlot₀)
      | created _ _ _ hCon _ hFree hEntries =>
          refine
            ⟨trace, [], last, _, rfl, hFree, hCon, ?_⟩
          intro t hMem
          rw [List.mem_singleton] at hMem
          subst hMem
          refine ⟨⟨slot, hSlot, .refl slot⟩, _, ?_, rfl⟩
          rw [hEntries]
          exact hCon

/-
  In every run from the start that takes no connection away
  while it has slots, every slot refers to the connection it
  was created for, and its timers find that connection.  One
  more step leaves it so exactly if it does the same.
-/
theorem slots_refer_to_live_connections
    {trace :
      List (Transition (Endpoint σ) (Event α) Output)}
    (hInitial : s.Initial)
    (hRun : Run (NodeStep p T) s trace s')
    (hKeeps : ∀ tr ∈ trace, KeepsSlots tr.pre tr.event) :
    (∀ recvId slot, s'.recvdatabuf recvId = some slot →
        s'.connectbuf slot.connectionID ≠ none ∧
          CreatedOver trace recvId slot) ∧
      (∀ e : Event α, e.IsSlotTimer →
        ¬ Fault.FailsWith Fault.IsTable (exec p T s' e)) ∧
      ∀ (e : Event α) outputs s'',
        NodeStep p T s' e outputs s'' →
          (SlotsLive s'' ↔ KeepsSlots s' e) := by
  have hStart : SlotsLive s := by
    intro recvId slot hSlot
    rw [hInitial.recvdatabuf] at hSlot
    cases hSlot
  have hLive : SlotsLive s' :=
    (hRun.invariant_of_steps SlotsLive
      (fun tr => KeepsSlots tr.pre tr.event)
      (fun _ hStep hKept hBefore =>
        (hStep.slotsLive_iff hBefore).mpr hKept)
      hKeeps hStart).1
  refine ⟨?_, ?_, ?_⟩
  · intro recvId slot hSlot
    exact
      ⟨hLive recvId slot hSlot,
        createdOver_of_run hInitial hRun hKeeps hSlot⟩
  · intro e hTimer
    exact hLive.timer hTimer
  · intro e outputs s'' hStep
    exact hStep.slotsLive_iff hLive

------------------------------------------------------------
-- A Slot Without Its Connection
------------------------------------------------------------

theorem sendNack_null
    {input : SendInput α}
    {slot : RecvData}
    {offsetFrom offsetTo : Nat}
    (hGone : s.connectbuf slot.connectionID = none) :
    sendNack p T input s slot offsetFrom offsetTo =
      .error (.nullConnection slot.connectionID) := by
  unfold sendNack sendMsg
  simp only [hGone]

open Sample

/- The slot after one byte of a message of two. -/
def Sample.halfSlot : RecvData where
  connectionID := first
  seqnr := 0
  recvbuf := [1, 0]
  status := .active
  msgtype := 0
  firstPacketArrived := true
  recvFragments := 1
  arrivedBytes := 1
  monitoringDataHeaderLen := 0
  timeoutEvent := true
  lastPktTimeoutEvent := true
  txConnectionID := 0
  expectedOffset := 1
  gapArray := []

theorem Sample.recvPkg_half
    (con : ConnectData) :
    recvPkg platform Transport.scripted once
        (node.setConNet first con ())
        (dataReception 0 0 2 [1] (by decide)) =
      .ok
        ((node.setConNet first con ()).setSlot firstSlot
          halfSlot, []) := by
  rw [recvPkg_dataReception Transport.scripted once rfl 0
    (by decide) (by decide) (by decide) (by decide)]
  rcases
    recvDataMsg_first (node.setConNet first con ())
      (dataPacket 0 0 2 [1]).header [1] rfl
      (SlotTable.set_self node.connectbuf first con) rfl
      (by decide) with
    ⟨slot, hCreate, hRecv⟩
  rw [hRecv]
  cases hCreate
  rfl

/-
  An invited connection receives one byte of a message of two
  and is closed: the slot stays, and the timer for its last
  packet uses the connection that is gone.
-/
theorem closed_connection_keeps_slot :
    ∃ (s : Endpoint Unit)
      (trace :
        List (Transition (Endpoint Unit) (Event ErrorCode)
          Output)),
      node.Initial ∧
        Run (NodeStep platform Transport.scripted) node trace
          s ∧
        s.recvdatabuf firstSlot = some halfSlot ∧
        s.connectbuf halfSlot.connectionID = none ∧
        (Event.lastPktRecvTimeout once firstSlot).Enabled
          s ∧
        exec platform Transport.scripted s
            (.lastPktRecvTimeout once firstSlot) =
          .error (.nullConnection first) := by
  rcases recvPkg_invite 0 with ⟨con, pkt, hInvite, _⟩
  have hInvited :
      NodeStep platform Transport.scripted node
        (.recvPkg once (connReception .invite 0 (-1)))
        [.packet pkt .ok] (node.setConNet first con ()) :=
    ⟨trivial, hInvite⟩
  have hHalf :
      NodeStep platform Transport.scripted
        (node.setConNet first con ())
        (.recvPkg once
          (dataReception 0 0 2 [1] (by decide))) []
        ((node.setConNet first con ()).setSlot firstSlot
          halfSlot) :=
    ⟨trivial, recvPkg_half con⟩
  generalize hBefore :
    (node.setConNet first con ()).setSlot firstSlot
      halfSlot = s at hHalf
  have hSlot : s.recvdatabuf firstSlot = some halfSlot := by
    rw [← hBefore]
    exact SlotTable.set_self node.recvdatabuf firstSlot _
  have hClosed :
      NodeStep platform Transport.scripted s
        (.closeConnection 0) []
        { s with
          connectbuf := s.connectbuf.free first } := by
    refine ⟨trivial, ?_⟩
    unfold exec mlCloseConnection
    simp only [connectbufAt_first]
  have hGone :
      (s.connectbuf.free first) first = none :=
    SlotTable.free_self s.connectbuf first
  refine
    ⟨_, _, node_initial,
      Run.cons hInvited
        (Run.cons hHalf (Run.cons hClosed (Run.nil _))),
      hSlot, hGone, ⟨halfSlot, hSlot, rfl⟩, ?_⟩
  unfold exec lastPktRecvTimeoutCb
  simp only [hSlot]
  rw [if_neg (by decide)]
  exact sendNack_null hGone

/- Without a close the slot refers to the connection. -/
theorem slots_refer_to_live_connections_half :
    ∃ (s : Endpoint Unit)
      (trace :
        List (Transition (Endpoint Unit) (Event ErrorCode)
          Output)),
      s.recvdatabuf firstSlot = some halfSlot ∧
        s.connectbuf halfSlot.connectionID ≠ none ∧
          CreatedOver trace firstSlot halfSlot := by
  rcases recvPkg_invite 0 with ⟨con, pkt, hInvite, _⟩
  have hInvited :
      NodeStep platform Transport.scripted node
        (.recvPkg once (connReception .invite 0 (-1)))
        [.packet pkt .ok] (node.setConNet first con ()) :=
    ⟨trivial, hInvite⟩
  have hHalf :
      NodeStep platform Transport.scripted
        (node.setConNet first con ())
        (.recvPkg once
          (dataReception 0 0 2 [1] (by decide))) []
        ((node.setConNet first con ()).setSlot firstSlot
          halfSlot) :=
    ⟨trivial, recvPkg_half con⟩
  have hSlot :
      ((node.setConNet first con ()).setSlot firstSlot
        halfSlot).recvdatabuf firstSlot = some halfSlot :=
    SlotTable.set_self node.recvdatabuf firstSlot halfSlot
  refine
    ⟨_, _, hSlot,
      (slots_refer_to_live_connections node_initial
        (Run.cons hInvited (Run.cons hHalf (Run.nil _)))
        ?_).1 firstSlot halfSlot hSlot⟩
  intro tr hMem recvId slot _ hCloses
  simp only [List.mem_cons, List.not_mem_nil, or_false]
    at hMem
  rcases hMem with rfl | rfl
  · exact hCloses
  · exact hCloses

end ML

end NapaBaselibs
