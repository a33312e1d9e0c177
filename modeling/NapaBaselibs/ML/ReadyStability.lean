import NapaBaselibs.ML.Sample

/-
  How long a connection stays ready, and how often it is
  announced.

  `INVITE` is answered whatever the status of the entry is:
  the test that would have kept a ready entry as it is stands
  commented out in the source.  Everything else leaves a
  ready entry ready until it is closed or given up.

  Key definitions include:
    * `statusOf`, `invites`, `announced`
    * `StatusStep`

  Key theorems include:
    * `NodeStep.status`
    * `ready_until_invited`
    * `announced_le`
    * `ready_stable_and_announced`
-/

------------------------------------------------------------
-- The Status Of An Entry
------------------------------------------------------------

namespace NapaBaselibs

namespace ML

variable {σ α : Type}

/- The status of an entry, if it is live. -/
def statusOf
    (s : Endpoint σ)
    (i : ConId) : Option ConMsgType :=
  (s.connectbuf i).map ConnectData.status

/- The event is an accepted `INVITE` from the entry's peer. -/
def invites
    (p : Platform)
    (i : ConId)
    (s : Endpoint σ) : Event α → Bool
| .recvPkg _ r =>
    decide (r.command p = some .invite) &&
      match s.connectionOf p (r.conMsg p).sockId with
      | some (j, _) => decide (j = i)
      | none => false
| _ => false

/- How often `receive_Connection_cb` is called for an entry. -/
def announced
    (i : ConId)
    (outputs : List Output) : Nat :=
  outputs.count (.receiveConnection i)

/- The transition removes an entry. -/
def Frees
    (i : ConId)
    (tr : Transition (Endpoint σ) (Event α) Output) :
    Prop :=
  statusOf tr.pre i ≠ none ∧ statusOf tr.post i = none

/- The transition is an `INVITE` for an entry that is ready. -/
def demotes
    (p : Platform)
    (i : ConId)
    (tr : Transition (Endpoint σ) (Event α) Output) :
    Bool :=
  decide (statusOf tr.pre i = some .ready) &&
    invites p i tr.pre tr.event

/- All that a step can do to the status of an entry. -/
inductive StatusStep
    (p : Platform)
    (i : ConId)
    (s : Endpoint σ)
    (e : Event α)
    (outputs : List Output)
    (s' : Endpoint σ) : Prop where
  | same
      (hStatus : statusOf s' i = statusOf s i)
      (hSilent : announced i outputs = 0)
  | created
      (hBefore : statusOf s i = none)
      (hAfter : statusOf s' i ≠ some .ready)
      (hSilent : announced i outputs = 0)
  | removed
      (hAfter : statusOf s' i = none)
      (hSilent : announced i outputs = 0)
  | invited
      (hInvite : invites p i s e = true)
      (hAfter : statusOf s' i = some .connect)
      (hSilent : announced i outputs = 0)
  | readied
      (hBefore : statusOf s i ≠ some .ready)
      (hAfter : statusOf s' i = some .ready)
      (hOnce : announced i outputs ≤ 1)

------------------------------------------------------------
-- One Step
------------------------------------------------------------

theorem announced_append
    (i : ConId)
    (first second : List Output) :
    announced i (first ++ second) =
      announced i first + announced i second :=
  List.count_append

/- Outputs of other kinds announce nothing. -/
theorem announced_eq_zero
    {i : ConId}
    {outputs : List Output}
    (hOther :
      ∀ output ∈ outputs,
        output ≠ .receiveConnection i) :
    announced i outputs = 0 :=
  List.count_eq_zero.mpr
    (fun hMem => hOther _ hMem rfl)

theorem announced_of_quiet
    {i : ConId}
    {outputs : List Output}
    (hQuiet : Quiet outputs) :
    announced i outputs = 0 := by
  apply announced_eq_zero
  rintro output hMem rfl
  exact hQuiet _ hMem

theorem announced_of_connPackets
    {p : Platform}
    {localSocketID : SocketID}
    {conId i : ConId}
    {externalConnectionID : Int32}
    {command : ConMsgType}
    {outputs : List Output}
    (hPackets :
      ConnPackets p localSocketID conId externalConnectionID
        command outputs) :
    announced i outputs = 0 := by
  apply announced_eq_zero
  rintro output hMem rfl
  rcases hPackets _ hMem with ⟨pkt, answer, hEq, _⟩
  cases hEq

/- The callbacks of one entry announce it at most once. -/
theorem announced_announce
    (s : Endpoint σ)
    (conId i : ConId)
    (con : ConnectData) :
    announced i (s.announce conId con) ≤
      if conId = i then 1 else 0 := by
  unfold Endpoint.announce
  have hCbs :
      announced i
        (con.connectionCbs.map (fun cb =>
          Output.connectionCb cb conId)) = 0 := by
    apply announced_eq_zero
    intro output hMem
    rcases List.mem_map.mp hMem with ⟨cb, _, rfl⟩
    simp
  rw [announced_append, hCbs, Nat.add_zero]
  split
  · by_cases hEq : conId = i
    · rw [if_pos hEq, hEq]
      simp [announced]
    · rw [if_neg hEq, Nat.le_zero]
      apply announced_eq_zero
      intro output hMem
      rw [List.mem_singleton] at hMem
      rw [hMem]
      simpa using hEq
  · simp [announced]

theorem statusOf_of_sameEntries
    {s s' : Endpoint σ}
    (hSame : SameEntries s s')
    (i : ConId) :
    statusOf s' i = statusOf s i := by
  have hAt := hSame i
  unfold statusOf
  generalize s.connectbuf i = before at *
  generalize s'.connectbuf i = after at *
  cases hAt with
  | none => rfl
  | some hLink => simp [hLink.status]

/- Storing an entry sets its status and no other. -/
theorem statusOf_of_stored
    {s s' : Endpoint σ}
    {conId : ConId}
    {con : ConnectData}
    (hStored : Stored s s' conId con)
    (i : ConId) :
    statusOf s' i =
      if i = conId then some con.status
      else statusOf s i := by
  rcases hStored with ⟨con', net, rfl, hLink⟩
  unfold statusOf
  rw [Endpoint.setConNet_connectbuf]
  by_cases hEq : i = conId
  · rw [if_pos hEq, hEq, SlotTable.set_self]
    simp [hLink.status]
  · rw [if_neg hEq, SlotTable.set_of_ne _ _ hEq]

theorem statusOf_of_some
    {s : Endpoint σ}
    {i : ConId}
    {con : ConnectData}
    (hCon : s.connectbuf i = some con) :
    statusOf s i = some con.status := by
  rw [statusOf, hCon]
  rfl

/- The status after emptying a place of the table. -/
theorem statusStep_of_free
    {p : Platform}
    {i conId : ConId}
    {s : Endpoint σ}
    {e : Event α}
    {outputs : List Output}
    (hSilent : announced i outputs = 0) :
    StatusStep p i s e outputs
      { s with connectbuf := s.connectbuf.free conId } := by
  by_cases hEq : i = conId
  · refine .removed ?_ hSilent
    rw [statusOf, hEq]
    simp
  · refine .same ?_ hSilent
    rw [statusOf, statusOf]
    simp only
    rw [SlotTable.free_of_ne _ hEq]

/- A connection message and the status of an entry. -/
theorem RecvConnMsgEffect.status
    {p : Platform}
    {i : ConId}
    {s s' : Endpoint σ}
    {input : SendInput α}
    {r : Reception}
    {outputs : List Output}
    (hClass : r.classify = .connection)
    (hEffect :
      RecvConnMsgEffect p s r.msgH (r.conMsg p)
        (r.msgSize - r.msgH.lenMonDataHdr.toNat)
        r.recvAddr s' outputs) :
    StatusStep p i s (.recvPkg input r) outputs s' := by
  cases hEffect with
  | ignored => exact .same rfl rfl
  | @invited _ _ conId con hCommand hFind hSent =>
      have hStatus := statusOf_of_stored hSent.1 i
      have hSilent := announced_of_connPackets (i := i) hSent.2
      by_cases hEq : i = conId
      · refine .invited ?_ ?_ hSilent
        · have hAccepted : r.command p = some .invite := by
            unfold Reception.command
            rw [if_pos hClass, hCommand]
          simp [invites, hAccepted, hFind, hEq]
        · rw [hStatus, if_pos hEq]
      · exact .same (by rw [hStatus, if_neg hEq]) hSilent
  | @invitedNew _ _ conId hCommand hFree hNone hSent =>
      have hStatus := statusOf_of_stored hSent.1 i
      have hSilent := announced_of_connPackets (i := i) hSent.2
      by_cases hEq : i = conId
      · refine .created ?_ ?_ hSilent
        · rw [statusOf, hEq, hFree]
          rfl
        · rw [hStatus, if_pos hEq]
          simp
      · exact .same (by rw [hStatus, if_neg hEq]) hSilent
  | @connected _ sent conId con hCommand hId hCon hBefore
      hStored hPackets =>
      have hStatus := statusOf_of_stored hStored i
      have hSent := announced_of_connPackets (i := i) hPackets
      have hCalls := announced_announce s conId i con
      by_cases hEq : i = conId
      · refine .readied ?_ ?_ ?_
        · rw [hEq, statusOf_of_some hCon, hBefore]
          simp
        · rw [hStatus, if_pos hEq]
        · rw [announced_append, hSent, Nat.zero_add]
          rwa [if_pos hEq.symm] at hCalls
      · refine .same (by rw [hStatus, if_neg hEq]) ?_
        rw [if_neg (Ne.symm hEq), Nat.le_zero] at hCalls
        rw [announced_append, hSent, hCalls]
  | @reconnected _ _ conId con hCommand hId hCon hBefore
      hSent =>
      refine .same ?_ (announced_of_connPackets hSent.2)
      rw [statusOf_of_stored hSent.1 i]
      split
      · rename_i hEq
        rw [hEq, statusOf_of_some hCon]
      · rfl
  | @readied conId con hCommand hId hCon hBefore =>
      have hCalls := announced_announce s conId i con
      have hStored :
          Stored s
            (s.setCon conId
              { con with
                status := .ready
                connectionCbs := [] }) conId
            { con with
              status := .ready
              connectionCbs := [] } :=
        ⟨_, s.net, rfl, .refl _⟩
      have hStatus := statusOf_of_stored hStored i
      by_cases hEq : i = conId
      · refine .readied ?_ ?_ ?_
        · rw [hEq, statusOf_of_some hCon, hBefore]
          simp
        · rw [hStatus, if_pos hEq]
        · rwa [if_pos hEq.symm] at hCalls
      · refine .same (by rw [hStatus, if_neg hEq]) ?_
        rwa [if_neg (Ne.symm hEq), Nat.le_zero] at hCalls

/- Opening a connection and the status of an entry. -/
theorem MlOpenConnectionEffect.status
    {p : Platform}
    {i : ConId}
    {s s' : Endpoint σ}
    {e : Event α}
    {externalSocketID : SocketID}
    {outputs : List Output}
    (hEffect :
      MlOpenConnectionEffect p s externalSocketID s'
        outputs) :
    StatusStep p i s e outputs s' := by
  cases hEffect with
  | refused => exact .same rfl rfl
  | @joined _ conId con con' hCon hPeer hSocket hId hBefore
      hOutputs =>
      refine .same ?_ ?_
      · have hStored :
            Stored s (s.setCon conId con') conId con' :=
          ⟨con', s.net, rfl, .refl con'⟩
        rw [statusOf_of_stored hStored i]
        split
        · rename_i hEq
          rw [hEq, statusOf_of_some hCon, hBefore]
        · rfl
      · apply announced_eq_zero
        rintro output hMem rfl
        rcases hOutputs _ hMem with ⟨_, hEq⟩ | ⟨_, hEq⟩ <;>
          cases hEq
  | @opened _ timer sent conId cb keepalive hFree hNone
      hTimer hSent =>
      have hSilent : announced i (timer ++ sent) = 0 := by
        rw [announced_append,
          announced_of_connPackets hSent.2, Nat.add_zero]
        apply announced_eq_zero
        rintro output hMem rfl
        rcases hTimer _ hMem with ⟨_, hEq⟩
        cases hEq
      have hStatus := statusOf_of_stored hSent.1 i
      by_cases hEq : i = conId
      · refine .created ?_ ?_ hSilent
        · rw [statusOf, hEq, hFree]
          rfl
        · rw [hStatus, if_pos hEq]
          simp [ConnectData.ofOpen]
      · exact .same (by rw [hStatus, if_neg hEq]) hSilent

/- The retry timer and the status of an entry. -/
theorem PmtuTimeoutEffect.status
    {p : Platform}
    {i conId : ConId}
    {s s' : Endpoint σ}
    {e : Event α}
    {outputs : List Output}
    (hEffect : PmtuTimeoutEffect p s conId s' outputs) :
    StatusStep p i s e outputs s' := by
  cases hEffect with
  | gone => exact .same rfl rfl
  | done hCon hStatus =>
      refine
        .same (statusOf_of_sameEntries (.of_set hCon rfl ?_) i)
          rfl
      exact ⟨rfl, rfl, rfl, rfl⟩
  | @retried _ _ con hCon hBefore hSent =>
      refine .same ?_ (announced_of_connPackets hSent.2)
      rw [statusOf_of_stored hSent.1 i]
      split
      · rename_i hEq
        rw [hEq, statusOf_of_some hCon]
      · rfl
  | gaveUp hCon hBefore hSize hExternal hOutputs =>
      apply statusStep_of_free
      apply announced_eq_zero
      rintro output hMem rfl
      rcases hOutputs with rfl | rfl <;> simp at hMem

/- What one step of the node does to the status. -/
theorem NodeStep.status
    {p : Platform}
    {T : Transport σ α}
    {s s' : Endpoint σ}
    {e : Event α}
    {outputs : List Output}
    (hStep : NodeStep p T s e outputs s')
    (i : ConId) :
    StatusStep p i s e outputs s' := by
  cases hStep.effect with
  | quiet hEntries _ hQuiet =>
      exact
        .same (statusOf_of_sameEntries hEntries i)
          (announced_of_quiet hQuiet)
  | entered hClass hId hCon hSlot hEnter =>
      rcases Endpoint.enterPacket_cases hEnter with
        ⟨_, rfl, rfl⟩ |
        ⟨slot₁, slot₂, timers, calls, _, hFragment, _,
          hCalls, rfl, rfl⟩
      · exact .same rfl rfl
      · refine .same rfl ?_
        have hTimers :=
          announced_of_quiet (i := i)
            (RecvData.recvFragment_quiet hFragment)
        rw [announced_append, hTimers, Nat.zero_add]
        apply announced_eq_zero
        rintro output hMem rfl
        rcases hCalls with rfl | ⟨_, rfl⟩ <;> simp at hMem
  | handshake hClass hEffect => exact hEffect.status hClass
  | opened hEffect => exact hEffect.status
  | closed hId => exact statusStep_of_free rfl
  | retried hEffect => exact hEffect.status
  | expired => exact .same rfl rfl
  | asked _ hEntries _ hQuiet =>
      exact
        .same (statusOf_of_sameEntries hEntries i)
          (announced_of_quiet hQuiet)

------------------------------------------------------------
-- Runs
------------------------------------------------------------

/- Adding one for each member that passes counts them. -/
theorem sum_map_ite_eq_countP
    {β : Type}
    (p : β → Bool)
    (l : List β) :
    (l.map (fun x => if p x then 1 else 0)).sum =
      l.countP p := by
  induction l with
  | nil => rfl
  | cons x l ih =>
      rw [List.map_cons, List.sum_cons, ih, List.countP_cons,
        Nat.add_comm]

/- One when the entry is ready. -/
def readyCount
    (i : ConId)
    (s : Endpoint σ) : Nat :=
  if statusOf s i = some .ready then 1 else 0

/-
  A ready entry stays ready while it is neither removed nor
  invited.
-/
theorem ready_until_invited
    {p : Platform}
    {T : Transport σ α}
    {s t : Endpoint σ}
    {trace :
      List (Transition (Endpoint σ) (Event α) Output)}
    {i : ConId}
    (hRun : Run (NodeStep p T) s trace t)
    (hKept : ∀ tr ∈ trace, ¬ Frees i tr)
    (hUninvited :
      ∀ tr ∈ trace, invites p i tr.pre tr.event = false)
    (hReady : statusOf s i = some .ready) :
    statusOf t i = some .ready ∧
      ∀ tr ∈ trace,
        statusOf tr.pre i = some .ready ∧
          statusOf tr.post i = some .ready := by
  refine
    hRun.invariant_of_steps
      (fun s => statusOf s i = some .ready)
      (fun tr =>
        ¬ Frees i tr ∧ invites p i tr.pre tr.event = false)
      ?_ (fun tr hMem => ⟨hKept tr hMem, hUninvited tr hMem⟩)
      hReady
  rintro tr hStep ⟨hNotFreed, hNotInvited⟩ hBefore
  cases hStep.status i with
  | same hStatus => exact hStatus.trans hBefore
  | created hNone =>
      rw [hBefore] at hNone
      cases hNone
  | removed hAfter =>
      exact
        absurd ⟨by rw [hBefore]; simp, hAfter⟩ hNotFreed
  | invited hInvite =>
      rw [hNotInvited] at hInvite
      cases hInvite
  | readied _ hAfter => exact hAfter

/-
  While an entry is not removed, it is announced at most once
  more than it is invited when ready.
-/
theorem announced_le
    {p : Platform}
    {T : Transport σ α}
    {s t : Endpoint σ}
    {trace :
      List (Transition (Endpoint σ) (Event α) Output)}
    {i : ConId}
    (hRun : Run (NodeStep p T) s trace t)
    (hKept : ∀ tr ∈ trace, ¬ Frees i tr) :
    (trace.map (fun tr => announced i tr.outputs)).sum ≤
      1 + trace.countP (demotes p i) := by
  have hBalance :=
    hRun.balance (readyCount i)
      (fun tr => announced i tr.outputs)
      (fun tr => if demotes p i tr then 1 else 0)
      (fun tr => ¬ Frees i tr)
      (by
        intro tr hStep hNotFreed
        unfold readyCount
        cases hStep.status i with
        | same hStatus hSilent =>
            rw [hStatus, hSilent]
            omega
        | created hNone _ hSilent =>
            rw [hNone, hSilent]
            simp
        | removed hAfter hSilent =>
            have hNone : statusOf tr.pre i = none := by
              by_contra hLive
              exact hNotFreed ⟨hLive, hAfter⟩
            rw [hNone, hSilent]
            simp
        | invited hInvite _ hSilent =>
            rw [hSilent]
            by_cases hBefore :
                statusOf tr.pre i = some .ready
            · have hDemotes : demotes p i tr = true := by
                simp [demotes, hBefore, hInvite]
              rw [if_pos hBefore, if_pos hDemotes]
              omega
            · rw [if_neg hBefore]
              omega
        | readied hBefore hAfter hOnce =>
            rw [if_neg hBefore, if_pos hAfter]
            omega)
      hKept
  have hLast : readyCount i t ≤ 1 := by
    unfold readyCount
    split
    · exact Nat.le_refl 1
    · exact Nat.zero_le 1
  rw [sum_map_ite_eq_countP] at hBalance
  omega

/- Data sent over a ready entry is not refused. -/
theorem sendData_of_ready
    {p : Platform}
    {T : Transport σ α}
    {s s' : Endpoint σ}
    {input : SendInput α}
    {i : ConId}
    {sendbuf : List UInt8}
    {bufsize : Int}
    {msgtype : UInt8}
    {outputs : List Output}
    (hReady : statusOf s i = some .ready)
    (hStep :
      NodeStep p T s
        (.sendData input (i : Nat) sendbuf bufsize msgtype)
        outputs s') :
    .sendRefused (i : Nat) ∉ outputs := by
  intro hRefused
  rcases hStep with ⟨_, hExec⟩
  rw [statusOf, Option.map_eq_some_iff] at hReady
  rcases hReady with ⟨con, hCon, hStatus⟩
  have hNotNegative : ¬ ((i : Nat) : Int) < 0 := by
    omega
  unfold exec mlSendData at hExec
  simp only [hNotNegative, if_false,
    connectbufAt_natCast rfl, hCon, hStatus, ne_eq,
    not_true_eq_false] at hExec
  rcases sendMsg_ok hExec with
    ⟨_, _, _, _, _, _, hPackets⟩
  rcases hPackets _ hRefused with ⟨pkt, answer, hEq, _⟩
  cases hEq

/-
  An entry that is ready stays ready until it is removed or
  invited again, and data sent over it meanwhile is not
  refused.  As long as it is not removed, it is announced at
  most once, and once more for each time it is invited when
  ready.
-/
theorem ready_stable_and_announced
    {p : Platform}
    {T : Transport σ α}
    {s t : Endpoint σ}
    {trace :
      List (Transition (Endpoint σ) (Event α) Output)}
    {i : ConId}
    (hRun : Run (NodeStep p T) s trace t)
    (hKept : ∀ tr ∈ trace, ¬ Frees i tr) :
    (trace.map (fun tr => announced i tr.outputs)).sum ≤
        1 + trace.countP (demotes p i) ∧
      (statusOf s i = some .ready →
        (∀ tr ∈ trace,
          invites p i tr.pre tr.event = false) →
        statusOf t i = some .ready ∧
          ∀ tr ∈ trace,
            statusOf tr.pre i = some .ready ∧
              statusOf tr.post i = some .ready ∧
              ∀ input sendbuf bufsize msgtype,
                tr.event =
                    .sendData input (i : Nat) sendbuf
                      bufsize msgtype →
                  .sendRefused (i : Nat) ∉ tr.outputs) := by
  refine ⟨announced_le hRun hKept, ?_⟩
  intro hReady hUninvited
  rcases ready_until_invited hRun hKept hUninvited hReady
    with ⟨hEnd, hAll⟩
  refine ⟨hEnd, ?_⟩
  intro tr hMem
  rcases hAll tr hMem with ⟨hPre, hPost⟩
  refine ⟨hPre, hPost, ?_⟩
  intro input sendbuf bufsize msgtype hEvent
  have hStep := hRun.mem_step hMem
  rw [hEvent] at hStep
  exact sendData_of_ready hPre hStep

------------------------------------------------------------
-- A Ready Entry Invited Again
------------------------------------------------------------

open Sample

@[simp] theorem statusOf_setConNet
    (s : Endpoint σ)
    (i : ConId)
    (con : ConnectData)
    (net : σ) :
    statusOf (s.setConNet i con net) i =
      some con.status := by
  simp [statusOf]

theorem announced_announce_first
    (con : ConnectData) :
    announced first (node.announce first con) = 1 := by
  have hCbs :
      announced first
        (con.connectionCbs.map (fun cb =>
          Output.connectionCb cb first)) = 0 := by
    apply announced_eq_zero
    intro output hMem
    rcases List.mem_map.mp hMem with ⟨cb, _, rfl⟩
    simp
  unfold Endpoint.announce
  rw [announced_append, hCbs]
  simp [announced, node]

/-
  `INVITE`, `READY`, the `INVITE` once more and `READY` once
  more: the entry is ready, then it is not and data is
  refused, and it is announced twice.
-/
theorem ready_entry_invited_again :
    ∃ (s₁ s₂ s₃ s₄ : Endpoint Unit)
        (o₁ o₂ o₃ o₄ : List Output),
      NodeStep platform Transport.scripted node
          (.recvPkg once (connReception .invite 0 (-1)))
          o₁ s₁ ∧
        NodeStep platform Transport.scripted s₁
          (.recvPkg once (connReception .ready 0 0))
          o₂ s₂ ∧
        NodeStep platform Transport.scripted s₂
          (.recvPkg once (connReception .invite 0 (-1)))
          o₃ s₃ ∧
        NodeStep platform Transport.scripted s₃
          (.sendData once 0 [1] 1 0) [.sendRefused 0] s₃ ∧
        NodeStep platform Transport.scripted s₃
          (.recvPkg once (connReception .ready 0 0))
          o₄ s₄ ∧
        statusOf s₂ first = some .ready ∧
        statusOf s₃ first = some .connect ∧
        announced first o₂ = 1 ∧
        announced first o₄ = 1 := by
  rcases recvPkg_invite 0 with
    ⟨con₁, pkt₁, hFirst, hSocket, hStatus, hPmtu⟩
  have hReady := recvPkg_ready hStatus
  rcases
    recvPkg_reinvite
      { con₁ with status := .ready, connectionCbs := [] }
      hSocket hPmtu 0 with
    ⟨con₂, pkt₂, hAgain, _, hStatus₂, _⟩
  have hReady₂ := recvPkg_ready hStatus₂
  refine
    ⟨_, _, _, _, _, _, _, _, ⟨trivial, hFirst⟩,
      ⟨trivial, hReady⟩, ⟨trivial, hAgain⟩, ⟨trivial, ?_⟩,
      ⟨trivial, hReady₂⟩, statusOf_setConNet ..,
      (statusOf_setConNet ..).trans (by rw [hStatus₂]),
      announced_announce_first _, announced_announce_first _⟩
  have hCon :
      (node.setConNet first con₂ ()).connectbuf first =
        some con₂ :=
    SlotTable.set_self node.connectbuf first con₂
  unfold exec mlSendData
  simp only [connectbufAt_first, hCon, hStatus₂]
  rfl

/- An entry that has just been stored is not removed. -/
theorem not_frees_of_stored
    {s : Endpoint Unit}
    {e : Event ErrorCode}
    {outputs : List Output}
    (con : ConnectData) :
    ¬ Frees first
      ⟨s, e, outputs, node.setConNet first con ()⟩ := by
  rintro ⟨_, hNone⟩
  rw [statusOf_setConNet] at hNone
  cases hNone

/-
  The general statement at `INVITE`, `READY`, a message that
  is sent, and the `INVITE` once more: the entry is ready and
  stays so while the message is sent.
-/
theorem ready_stable_and_announced_invite :
    ∃ (s₁ s₂ s₃ s₄ : Endpoint Unit)
        (o₁ o₂ o₃ o₄ : List Output)
        (trace : List (Transition (Endpoint Unit)
          (Event ErrorCode) Output)),
      trace =
          [⟨node,
            .recvPkg once (connReception .invite 0 (-1)), o₁,
            s₁⟩,
          ⟨s₁, .recvPkg once (connReception .ready 0 0), o₂,
            s₂⟩,
          ⟨s₂, .sendData once (first : Nat) [7] 1 0, o₃, s₃⟩,
          ⟨s₃, .recvPkg once (connReception .invite 0 (-1)),
            o₄, s₄⟩] ∧
        Run (NodeStep platform Transport.scripted) node trace
          s₄ ∧
        (trace.map (fun tr => announced first tr.outputs)).sum
            ≤
          1 + trace.countP (demotes platform first) ∧
        announced first o₂ = 1 ∧
        statusOf s₂ first = some .ready ∧
        statusOf s₃ first = some .ready ∧
        .sendRefused (first : Nat) ∉ o₃ ∧
        statusOf s₄ first = some .connect := by
  rcases recvPkg_invite 0 with
    ⟨con₁, pkt₁, hFirst, hSocket, hStatus, hPmtu⟩
  have hReady := recvPkg_ready hStatus
  generalize hCon₂ :
      { con₁ with status := .ready, connectionCbs := [] } =
        con₂ at hReady
  have hSocket₂ : con₂.externalSocketID = socketID 2 := by
    rw [← hCon₂]
    exact hSocket
  have hPmtu₂ : con₂.pmtusize = 1372 := by
    rw [← hCon₂]
    exact hPmtu
  have hStatus₂ : con₂.status = .ready := by rw [← hCon₂]
  have hLive :
      (node.setConNet first con₂ ()).connectbuf first =
        some con₂ :=
    SlotTable.set_self node.connectbuf first con₂
  have hSend :=
    @sendMsg_oncePacket _ _ _ 0 [7] _ false hLive
      (by rw [hPmtu₂]; decide) (by rw [hPmtu₂]; decide)
      (show (0 : Int) ≤ 1 by decide)
      (Or.inr (by rw [hPmtu₂]; decide))
  rw [Endpoint.setConNet_setConNet] at hSend
  generalize [Output.packet _ _] = sent at hSend
  rcases
    recvPkg_reinvite
      { con₂ with seqnr := con₂.seqnr + 1 } hSocket₂ hPmtu₂ 0
    with
    ⟨con₄, pkt₄, hAgain, _, hStatus₄, _⟩
  have hStep₁ :
      NodeStep platform Transport.scripted node
        (.recvPkg once (connReception .invite 0 (-1))) _ _ :=
    ⟨trivial, hFirst⟩
  have hStep₂ :
      NodeStep platform Transport.scripted
        (node.setConNet first con₁ ())
        (.recvPkg once (connReception .ready 0 0)) _ _ :=
    ⟨trivial, hReady⟩
  have hStep₃ :
      NodeStep platform Transport.scripted
        (node.setConNet first con₂ ())
        (.sendData once (first : Nat) [7] 1 0) sent
        (node.setConNet first
          { con₂ with seqnr := con₂.seqnr + 1 } ()) := by
    have hNotNegative : ¬ ((first : Nat) : Int) < 0 := by
      omega
    refine ⟨trivial, ?_⟩
    unfold exec mlSendData
    simp only [hNotNegative, if_false,
      connectbufAt_natCast rfl, hLive]
    rw [if_neg (by rw [hStatus₂]; simp)]
    exact hSend
  have hStep₄ :
      NodeStep platform Transport.scripted
        (node.setConNet first
          { con₂ with seqnr := con₂.seqnr + 1 } ())
        (.recvPkg once (connReception .invite 0 (-1))) _ _ :=
    ⟨trivial, hAgain⟩
  have hSent := Run.cons hStep₃ (.nil _)
  have hRun :=
    Run.cons hStep₁
      (.cons hStep₂ (.cons hStep₃ (.cons hStep₄ (.nil _))))
  have hStable :=
    (ready_stable_and_announced (i := first) hSent
      (by
        intro tr hMem
        rw [List.mem_singleton] at hMem
        subst hMem
        exact not_frees_of_stored _)).2
      (by rw [statusOf_setConNet, hStatus₂])
      (by
        intro tr hMem
        rw [List.mem_singleton] at hMem
        subst hMem
        rfl)
  have hCount :=
    (ready_stable_and_announced (i := first) hRun
      (by
        intro tr hMem
        simp only [List.mem_cons, List.not_mem_nil, or_false]
          at hMem
        rcases hMem with rfl | rfl | rfl | rfl
        · exact not_frees_of_stored _
        · exact not_frees_of_stored _
        · exact not_frees_of_stored _
        · exact not_frees_of_stored _)).1
  refine
    ⟨_, _, _, _, _, _, _, _, _, rfl, hRun, hCount,
      announced_announce_first _, ?_, hStable.1,
      (hStable.2 _ List.mem_cons_self).2.2 _ _ _ _ rfl, ?_⟩
  · rw [statusOf_setConNet, hStatus₂]
  · rw [statusOf_setConNet, hStatus₄]

end ML

end NapaBaselibs
