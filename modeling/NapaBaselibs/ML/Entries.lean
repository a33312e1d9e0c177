import NapaBaselibs.ML.Node

/-
  What a step does to one entry of the connection table and
  to one reception slot, and where the two come from.

  Key definitions include:
    * `EntryStep`, `Event.Closes`
    * `SlotStep`

  Key theorems include:
    * `NodeStep.entry`, `NodeStep.entry_stays`
    * `NodeStep.peer_stays`
    * `NodeStep.closed`
    * `NodeStep.slot`
-/

------------------------------------------------------------
-- Where Entries Come From
------------------------------------------------------------

namespace NapaBaselibs

namespace ML

variable {σ α : Type}

/-
  What a step can have made of an entry: nothing that matters
  to the ids, an id that a connection message brought, or a
  new entry, for a peer that had none.
-/
inductive EntryStep
    (p : Platform)
    (s : Endpoint σ)
    (e : Event α)
    (s' : Endpoint σ)
    (i : ConId)
    (con' : ConnectData) : Prop where
  | kept
      {con : ConnectData}
      (hCon : s.connectbuf i = some con)
      (hPeer : con'.externalSocketID = con.externalSocketID)
      (hId :
        con'.externalConnectionID = con.externalConnectionID)
      (hStatus : con'.status ≠ .invite → con.status ≠ .invite)
  | told
      {input : SendInput α}
      {r : Reception}
      {command : ConMsgType}
      {con : ConnectData}
      (hEvent : e = .recvPkg input r)
      (hCommand : r.command p = some command)
      (hCon : s.connectbuf i = some con)
      (hPeer : con'.externalSocketID = con.externalSocketID)
      (hId : con'.externalConnectionID = r.msgH.localConId)
  | invited
      {input : SendInput α}
      {r : Reception}
      {command : ConMsgType}
      (hEvent : e = .recvPkg input r)
      (hCommand : r.command p = some command)
      (hFree : s.connectbuf i = none)
      (hNone :
        ∀ j con, s.connectbuf j = some con →
          ¬ SamePeer p con.externalSocketID
            (r.conMsg p).sockId)
      (hOthers :
        ∀ j, j ≠ i → s'.connectbuf j = s.connectbuf j)
      (hPeer : con'.externalSocketID = (r.conMsg p).sockId)
      (hId : con'.externalConnectionID = r.msgH.localConId)
  | opened
      {input : SendInput α}
      {externalSocketID : SocketID}
      {cb : ConnectionCb}
      {keepalive : Int}
      (hEvent :
        e = .openConnection input externalSocketID cb
          keepalive)
      (hFree : s.connectbuf i = none)
      (hNone :
        ∀ j con, s.connectbuf j = some con →
          ¬ SamePeer p con.externalSocketID externalSocketID)
      (hOthers :
        ∀ j, j ≠ i → s'.connectbuf j = s.connectbuf j)
      (hPeer : con'.externalSocketID = externalSocketID)
      (hStatus : con'.status = .invite)

/- The retry timer would give the connection up. -/
def GivesUp
    (s : Endpoint σ)
    (i : ConId) : Prop :=
  ∃ con, s.connectbuf i = some con ∧
    con.status ≠ .ready ∧
    con.backOff.pmtusize = pmtuError ∧
    con.internalConnect = false

/- The event takes the entry away. -/
def Event.Closes
    (s : Endpoint σ)
    (i : ConId) : Event α → Prop
| closeConnection connectionID => connectionID = (i : Nat)
| pmtuTimeout _ conId => conId = i ∧ GivesUp s i
| _ => False

/- Which entries an event closes is read off the table. -/
theorem Event.closes_congr
    {s s₁ : Endpoint σ}
    {i : ConId}
    {e : Event α}
    (hSame : s₁.connectbuf = s.connectbuf) :
    e.Closes s₁ i ↔ e.Closes s i := by
  cases e with
  | pmtuTimeout input conId =>
      unfold Closes GivesUp
      rw [hSame]
  | recvPkg | openConnection | closeConnection | sendData
  | keepalive | recvTimeout | pktRecvTimeout
  | lastPktRecvTimeout => exact Iff.rfl

section EntrySteps

variable {p : Platform}
variable {s s' : Endpoint σ}
variable {e : Event α}
variable {i : ConId}
variable {con' : ConnectData}

theorem EntryStep.same
    (hCon : s.connectbuf i = some con') :
    EntryStep p s e s' i con' :=
  .kept hCon rfl rfl id

theorem EntryStep.of_sameLink
    {con : ConnectData}
    (hCon : s.connectbuf i = some con)
    (hLink : con.SameLink con') :
    EntryStep p s e s' i con' := by
  refine
    .kept hCon hLink.externalSocketID
      hLink.externalConnectionID ?_
  rw [hLink.status]
  exact id

theorem SameEntries.entry
    (hSame : SameEntries s s')
    (hCon : s'.connectbuf i = some con') :
    EntryStep p s e s' i con' := by
  have hAt := hSame i
  rw [hCon] at hAt
  generalize hBefore : s.connectbuf i = before at hAt
  cases hAt with
  | some hLink => exact .of_sameLink hBefore hLink

/- An entry after one has been stored. -/
theorem Stored.entry_cases
    {conId : ConId}
    {con : ConnectData}
    (hStored : Stored s s' conId con)
    (hCon : s'.connectbuf i = some con') :
    (i = conId ∧ con.SameLink con') ∨
      s.connectbuf i = some con' := by
  rcases hStored with ⟨stored, net, rfl, hLink⟩
  rw [Endpoint.setConNet_connectbuf] at hCon
  rcases SlotTable.set_eq_some_cases hCon with
    ⟨rfl, rfl⟩ | ⟨_, hOld⟩
  · exact Or.inl ⟨rfl, hLink⟩
  · exact Or.inr hOld

theorem Stored.others
    {conId : ConId}
    {con : ConnectData}
    (hStored : Stored s s' conId con) :
    ∀ j, j ≠ conId → s'.connectbuf j = s.connectbuf j := by
  rcases hStored with ⟨stored, net, rfl, _⟩
  intro j hNe
  exact SlotTable.set_of_ne _ _ hNe

/- The entries after a connection message. -/
theorem RecvConnMsgEffect.entry
    {input : SendInput α}
    {r : Reception}
    {outputs : List Output}
    (hClass : r.classify = .connection)
    (hEffect :
      RecvConnMsgEffect p s r.msgH (r.conMsg p)
        (r.msgSize - r.msgH.lenMonDataHdr.toNat)
        r.recvAddr s' outputs)
    (hCon : s'.connectbuf i = some con') :
    EntryStep p s (.recvPkg input r) s' i con' := by
  have hAccepted :
      ∀ command,
        acceptedCommand p (r.conMsg p)
            (r.msgSize - r.msgH.lenMonDataHdr.toNat)
            r.recvAddr = some command →
          r.command p = some command := by
    intro command hCommand
    unfold Reception.command
    rw [if_pos hClass, hCommand]
  cases hEffect with
  | ignored => exact .same hCon
  | invited hCommand hFind hSent =>
      rcases hSent.1.entry_cases hCon with
        ⟨rfl, hLink⟩ | hOld
      · exact
          .told rfl (hAccepted _ hCommand)
            (Endpoint.of_connectionOf_eq_some hFind).1
            hLink.externalSocketID hLink.externalConnectionID
      · exact .same hOld
  | invitedNew hCommand hFree hNone hSent =>
      rcases hSent.1.entry_cases hCon with
        ⟨rfl, hLink⟩ | hOld
      · exact
          .invited rfl (hAccepted _ hCommand) hFree hNone
            hSent.1.others hLink.externalSocketID
            hLink.externalConnectionID
      · exact .same hOld
  | connected hCommand hId hBefore hStatus hStored _ =>
      rcases hStored.entry_cases hCon with
        ⟨rfl, hLink⟩ | hOld
      · exact
          .told rfl (hAccepted _ hCommand) hBefore
            hLink.externalSocketID hLink.externalConnectionID
      · exact .same hOld
  | reconnected hCommand hId hBefore hStatus hSent =>
      rcases hSent.1.entry_cases hCon with
        ⟨rfl, hLink⟩ | hOld
      · exact .of_sameLink hBefore hLink
      · exact .same hOld
  | readied hCommand hId hBefore hStatus =>
      rcases SlotTable.set_eq_some_cases hCon with
        ⟨rfl, rfl⟩ | ⟨_, hOld⟩
      · refine .kept hBefore rfl rfl ?_
        intro _
        rw [hStatus]
        simp
      · exact .same hOld

/- The entries after a step. -/
theorem NodeStep.entry
    {T : Transport σ α}
    {outputs : List Output}
    (hStep : NodeStep p T s e outputs s')
    (hCon : s'.connectbuf i = some con') :
    EntryStep p s e s' i con' := by
  cases hStep.effect with
  | quiet hEntries _ _ => exact hEntries.entry hCon
  | asked _ hEntries _ _ => exact hEntries.entry hCon
  | entered _ _ _ _ hEnter =>
      rcases Endpoint.enterPacket_cases hEnter with
        ⟨_, rfl, rfl⟩ | ⟨_, _, _, _, _, _, _, _, rfl, _⟩
      · exact .same hCon
      · exact .same hCon
  | expired => exact .same hCon
  | handshake hClass hEffect => exact hEffect.entry hClass hCon
  | opened hEffect =>
      cases hEffect with
      | refused => exact .same hCon
      | joined hBefore _ hSocket hId hStatus _ =>
          rcases SlotTable.set_eq_some_cases hCon with
            ⟨rfl, rfl⟩ | ⟨_, hOld⟩
          · refine .kept hBefore hSocket hId ?_
            rw [hStatus]
            exact fun hNe => hNe
          · exact .same hOld
      | opened hFree hNone _ hSent =>
          rcases hSent.1.entry_cases hCon with
            ⟨rfl, hLink⟩ | hOld
          · exact
              .opened rfl hFree hNone hSent.1.others
                hLink.externalSocketID hLink.status
          · exact .same hOld
  | closed hId =>
      exact .same (SlotTable.free_eq_some hCon).2
  | retried hEffect =>
      cases hEffect with
      | gone => exact .same hCon
      | done hBefore _ =>
          rcases SlotTable.set_eq_some_cases hCon with
            ⟨rfl, rfl⟩ | ⟨_, hOld⟩
          · exact .kept hBefore rfl rfl fun h => h
          · exact .same hOld
      | retried hBefore _ hSent =>
          rcases hSent.1.entry_cases hCon with
            ⟨rfl, hLink⟩ | hOld
          · exact .of_sameLink hBefore hLink
          · exact .same hOld
      | gaveUp _ _ _ _ _ =>
          exact .same (SlotTable.free_eq_some hCon).2

/- An entry that has been stored has not gone. -/
theorem Stored.ne_none
    {conId : ConId}
    {con : ConnectData}
    (hStored : Stored s s' conId con)
    (hLive : s.connectbuf i ≠ none) :
    s'.connectbuf i ≠ none := by
  rcases hStored with ⟨stored, net, rfl, _⟩
  rw [Endpoint.setConNet_connectbuf]
  by_cases hEq : i = conId
  · rw [hEq, SlotTable.set_self]
    simp
  · rw [SlotTable.set_of_ne _ _ hEq]
    exact hLive

theorem SameEntries.ne_none
    (hSame : SameEntries s s')
    (hLive : s.connectbuf i ≠ none) :
    s'.connectbuf i ≠ none := by
  rw [← Option.isSome_iff_ne_none] at hLive ⊢
  rw [hSame.isSome_eq i]
  exact hLive

/- An entry goes when it is closed or given up only. -/
theorem NodeStep.entry_stays
    {T : Transport σ α}
    {outputs : List Output}
    (hStep : NodeStep p T s e outputs s')
    (hOpen : ¬ e.Closes s i)
    (hLive : s.connectbuf i ≠ none) :
    s'.connectbuf i ≠ none := by
  have hSet :
      ∀ (conId : ConId) (con : ConnectData),
        (s.setCon conId con).connectbuf i ≠ none := by
    intro conId con
    exact Stored.ne_none ⟨con, s.net, rfl, .refl con⟩ hLive
  cases hStep.effect with
  | quiet hEntries _ _ => exact hEntries.ne_none hLive
  | asked _ hEntries _ _ => exact hEntries.ne_none hLive
  | entered _ _ _ _ hEnter =>
      rcases Endpoint.enterPacket_cases hEnter with
        ⟨_, rfl, rfl⟩ | ⟨_, _, _, _, _, _, _, _, rfl, _⟩
      · exact hLive
      · exact hLive
  | expired => exact hLive
  | handshake _ hEffect =>
      cases hEffect with
      | ignored => exact hLive
      | invited _ _ hSent => exact hSent.1.ne_none hLive
      | invitedNew _ _ _ hSent => exact hSent.1.ne_none hLive
      | connected _ _ _ _ hStored _ =>
          exact hStored.ne_none hLive
      | reconnected _ _ _ _ hSent =>
          exact hSent.1.ne_none hLive
      | readied => exact hSet _ _
  | opened hEffect =>
      cases hEffect with
      | refused => exact hLive
      | joined => exact hSet _ _
      | opened _ _ _ hSent => exact hSent.1.ne_none hLive
  | @closed connectionID conId hId =>
      refine ne_of_eq_of_ne (SlotTable.free_of_ne _ ?_) hLive
      intro hEq
      apply hOpen
      change connectionID = (i : Nat)
      rw [hId, hEq]
  | @retried input conId _ _ hEffect =>
      cases hEffect with
      | gone => exact hLive
      | done => exact hSet _ _
      | retried _ _ hSent => exact hSent.1.ne_none hLive
      | @gaveUp _ con hBefore hStatus hSize hExternal _ =>
          refine
            ne_of_eq_of_ne (SlotTable.free_of_ne _ ?_) hLive
          rintro rfl
          exact
            hOpen
              ⟨rfl, con, hBefore, hStatus, hSize, hExternal⟩

/- An entry that is not closed keeps its peer. -/
theorem NodeStep.peer_stays
    {T : Transport σ α}
    {outputs : List Output}
    (hStep : NodeStep p T s e outputs s')
    {con : ConnectData}
    (hOpen : ¬ e.Closes s i)
    (hCon : s.connectbuf i = some con) :
    ∃ con', s'.connectbuf i = some con' ∧
      con'.externalSocketID = con.externalSocketID := by
  have hLive : s.connectbuf i ≠ none := by
    rw [hCon]
    simp
  rcases
    Option.ne_none_iff_exists'.mp
      (hStep.entry_stays hOpen hLive) with
    ⟨con', hCon'⟩
  refine ⟨con', hCon', ?_⟩
  cases hStep.entry hCon' with
  | kept hBefore hPeer _ _ =>
      rw [hCon, Option.some.injEq] at hBefore
      rw [hPeer, hBefore]
  | told _ _ hBefore hPeer _ =>
      rw [hCon, Option.some.injEq] at hBefore
      rw [hPeer, hBefore]
  | invited _ _ hFree _ _ _ _ => exact absurd hFree hLive
  | opened _ hFree _ _ _ _ => exact absurd hFree hLive

/- An entry that is closed is gone; no slot is. -/
theorem NodeStep.closed
    {T : Transport σ α}
    {outputs : List Output}
    (hStep : NodeStep p T s e outputs s')
    (hCloses : e.Closes s i) :
    s'.connectbuf i = none ∧
      s'.recvdatabuf = s.recvdatabuf := by
  have hExec := hStep.2
  cases e with
  | closeConnection connectionID =>
      unfold exec mlCloseConnection at hExec
      simp only [connectbufAt_natCast hCloses] at hExec
      cases hExec
      exact ⟨SlotTable.free_self .., rfl⟩
  | pmtuTimeout input conId =>
      rcases hCloses with
        ⟨rfl, con, hCon, hStatus, hSize, hExternal⟩
      rcases con.sameLink_backOff with ⟨_, hInternal⟩
      rw [hExternal] at hInternal
      unfold exec pmtuTimeoutCb at hExec
      simp only [hCon, hStatus, hSize, hInternal, if_false,
        if_true, Bool.false_eq_true] at hExec
      cases hExec
      exact ⟨SlotTable.free_self .., rfl⟩
  | recvPkg | openConnection | sendData | keepalive
  | recvTimeout | pktRecvTimeout | lastPktRecvTimeout =>
      cases hCloses

end EntrySteps

------------------------------------------------------------
-- Where Slots Come From
------------------------------------------------------------

/-
  What a step can have made of a slot: the slot of the same
  message, or a new one, for the first packet of a message
  over a connection that there is.
-/
inductive SlotStep
    (s : Endpoint σ)
    (e : Event α)
    (s' : Endpoint σ)
    (recvId : RecvId)
    (slot' : RecvData) : Prop where
  | kept
      {slot : RecvData}
      (hSlot : s.recvdatabuf recvId = some slot)
      (hSame : slot.SameMessage slot')
  | created
      {input : SendInput α}
      {r : Reception}
      {con : ConnectData}
      (hEvent : e = .recvPkg input r)
      (hClass : r.classify = .data)
      (hId :
        r.msgH.remoteConId.toInt =
          (slot'.connectionID : Nat))
      (hCon : s.connectbuf slot'.connectionID = some con)
      (hSeqnr : slot'.seqnr = r.msgH.msgSeqNum)
      (hFree : s.recvdatabuf recvId = none)
      (hEntries : s'.connectbuf = s.connectbuf)

theorem SlotStep.same
    {s s' : Endpoint σ}
    {e : Event α}
    {recvId : RecvId}
    {slot' : RecvData}
    (hSlot : s.recvdatabuf recvId = some slot') :
    SlotStep s e s' recvId slot' :=
  .kept hSlot (.refl slot')

section SlotSteps

variable {p : Platform}
variable {s s' : Endpoint σ}
variable {e : Event α}
variable {outputs : List Output}

/- What leaves the slots alone. -/
theorem Stored.recvdatabuf_eq
    {conId : ConId}
    {con : ConnectData}
    (hStored : Stored s s' conId con) :
    s'.recvdatabuf = s.recvdatabuf := by
  rcases hStored with ⟨stored, net, rfl, _⟩
  rfl

theorem RecvConnMsgEffect.recvdatabuf_eq
    {msgH : MsgHeader}
    {conMsg : ConnMsg}
    {msgSize : Int}
    {recvAddr : SockaddrStorage}
    (hEffect :
      RecvConnMsgEffect p s msgH conMsg msgSize recvAddr s'
        outputs) :
    s'.recvdatabuf = s.recvdatabuf := by
  cases hEffect with
  | ignored => rfl
  | invited _ _ hSent => exact hSent.1.recvdatabuf_eq
  | invitedNew _ _ _ hSent => exact hSent.1.recvdatabuf_eq
  | connected _ _ _ _ hStored _ => exact hStored.recvdatabuf_eq
  | reconnected _ _ _ _ hSent => exact hSent.1.recvdatabuf_eq
  | readied => rfl

theorem MlOpenConnectionEffect.recvdatabuf_eq
    {externalSocketID : SocketID}
    (hEffect :
      MlOpenConnectionEffect p s externalSocketID s'
        outputs) :
    s'.recvdatabuf = s.recvdatabuf := by
  cases hEffect with
  | refused => rfl
  | joined => rfl
  | opened _ _ _ hSent => exact hSent.1.recvdatabuf_eq

theorem PmtuTimeoutEffect.recvdatabuf_eq
    {conId : ConId}
    (hEffect : PmtuTimeoutEffect p s conId s' outputs) :
    s'.recvdatabuf = s.recvdatabuf := by
  cases hEffect with
  | gone => rfl
  | done => rfl
  | retried _ _ hSent => exact hSent.1.recvdatabuf_eq
  | gaveUp => rfl

/- The slots after a packet has been entered. -/
theorem Endpoint.enterPacket_slot
    {con : ConnectData}
    {conId : ConId}
    {recvId i : RecvId}
    {slot slot' : RecvData}
    {input : SendInput α}
    {r : Reception}
    {data : List UInt8}
    (hClass : r.classify = .data)
    (hId : r.msgH.remoteConId.toInt = (conId : Nat))
    (hCon : s.connectbuf conId = some con)
    (hSlot : s.recvSlot conId r.msgH = .ok (recvId, slot))
    (hEnter :
      s.enterPacket con recvId slot r.msgH data =
        .ok (s', outputs))
    (hAt : s'.recvdatabuf i = some slot') :
    SlotStep s (.recvPkg input r) s' i slot' := by
  rcases Endpoint.enterPacket_cases hEnter with
    ⟨_, rfl, _⟩ |
    ⟨slot₁, slot₂, _, _, _, hFragment, hTimed, _, rfl, _⟩
  · exact .same hAt
  · have hSame : slot.SameMessage slot₂ := by
      have hFirst := RecvData.recvFragment_sameMessage hFragment
      rcases hTimed with rfl | rfl
      · exact hFirst
      · exact hFirst.trans slot₁.sameMessage_startTimeouts
    rcases SlotTable.set_eq_some_cases hAt with
      ⟨rfl, rfl⟩ | ⟨_, hOld⟩
    · rcases Endpoint.recvSlot_cases hSlot with
        ⟨hIs, hBefore | ⟨hFree, _, _⟩⟩
      · exact .kept hBefore hSame
      · rcases isFor_eq_true_iff.mp hIs with
          ⟨hConnection, hSeqnr⟩
        have hConId : slot'.connectionID = conId :=
          hSame.connectionID.trans hConnection
        have hEntry :
            s.connectbuf slot'.connectionID = some con := by
          rw [hConId]
          exact hCon
        refine
          .created rfl hClass ?_ hEntry
            (hSame.seqnr.trans hSeqnr) hFree rfl
        rw [hConId]
        exact hId
    · exact .same hOld

/- The slots after a step. -/
theorem NodeStep.slot
    {T : Transport σ α}
    (hStep : NodeStep p T s e outputs s')
    {recvId : RecvId}
    {slot' : RecvData}
    (hAt : s'.recvdatabuf recvId = some slot') :
    SlotStep s e s' recvId slot' := by
  have hKept :
      s'.recvdatabuf = s.recvdatabuf →
        SlotStep s e s' recvId slot' := by
    intro hSame
    rw [hSame] at hAt
    exact .same hAt
  cases hStep.effect with
  | quiet _ hSlots _ => exact hKept hSlots
  | entered hClass hId hCon hSlot hEnter =>
      exact
        Endpoint.enterPacket_slot hClass hId hCon hSlot
          hEnter hAt
  | handshake _ hEffect => exact hKept hEffect.recvdatabuf_eq
  | opened hEffect => exact hKept hEffect.recvdatabuf_eq
  | closed => exact hKept rfl
  | retried hEffect => exact hKept hEffect.recvdatabuf_eq
  | expired => exact .same (SlotTable.free_eq_some hAt).2
  | asked hSlot _ hSlots _ =>
      rw [hSlots] at hAt
      rcases SlotTable.set_eq_some_cases hAt with
        ⟨rfl, rfl⟩ | ⟨_, hOld⟩
      · exact .kept hSlot ⟨rfl, rfl, rfl, rfl, rfl, rfl⟩
      · exact .same hOld

end SlotSteps

end ML

end NapaBaselibs
