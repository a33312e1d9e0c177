import NapaBaselibs.Lib.Runs
import NapaBaselibs.ML.RecvPkg
import NapaBaselibs.ML.Api

/-
  The node as a transition system: its events are the calls
  of the application, the datagrams and the timers, in any
  order.

  Time is not modelled: a timer may fire whenever its event
  is pending.  A gap timer belongs to no slot and outlives
  the one it was started for, so it may fire with any
  argument; so may the keepalive timer with any peer.

  Key definitions include:
    * `Event`, `Event.Enabled`
    * `exec`, `NodeStep`
    * `Endpoint.Initial`
    * `NodeEffect`

  Key theorems include:
    * `NodeStep.effect`
-/

------------------------------------------------------------
-- Events
------------------------------------------------------------

namespace NapaBaselibs

namespace ML

/- What can happen to a node. -/
inductive Event (α : Type) where
  | recvPkg (input : SendInput α) (r : Reception)
  | openConnection
      (input : SendInput α)
      (externalSocketID : SocketID)
      (cb : ConnectionCb)
      (keepalive : Int)
  | closeConnection (connectionID : Int)
  | sendData
      (input : SendInput α)
      (connectionID : Int)
      (sendbuf : List UInt8)
      (bufsize : Int)
      (msgtype : UInt8)
  | pmtuTimeout (input : SendInput α) (conId : ConId)
  | keepalive (input : SendInput α) (peer : SocketID)
  | recvTimeout (recvId : RecvId)
  | pktRecvTimeout
      (input : SendInput α)
      (arg : PktRecvTimeoutArg)
  | lastPktRecvTimeout
      (input : SendInput α)
      (recvId : RecvId)

variable {σ α : Type}

/- The timer events can only happen when they are pending. -/
def Event.Enabled
    (s : Endpoint σ) : Event α → Prop
| pmtuTimeout _ conId =>
    ∃ con, s.connectbuf conId = some con ∧
      con.timeoutEvent = true
| recvTimeout recvId =>
    ∃ slot, s.recvdatabuf recvId = some slot ∧
      slot.timeoutEvent = true
| lastPktRecvTimeout _ recvId =>
    ∃ slot, s.recvdatabuf recvId = some slot ∧
      slot.lastPktTimeoutEvent = true
| _ => True

/- What the node does at an event. -/
def exec
    (p : Platform)
    (T : Transport σ α)
    (s : Endpoint σ) : Event α → StepResult σ
| .recvPkg input r => recvPkg p T input s r
| .openConnection input externalSocketID cb keepalive =>
    match mlOpenConnection p T input s externalSocketID cb
        keepalive with
    | .error fault => .error fault
    | .ok (_, s', outputs) => .ok (s', outputs)
| .closeConnection connectionID =>
    match mlCloseConnection s connectionID with
    | .error fault => .error fault
    | .ok s' => .ok (s', [])
| .sendData input connectionID sendbuf bufsize msgtype =>
    mlSendData T input s connectionID sendbuf bufsize msgtype
| .pmtuTimeout input conId => pmtuTimeoutCb p T input s conId
| .keepalive input peer => keepaliveFn p T input s peer
| .recvTimeout recvId => .ok (recvTimeoutCb s recvId, [])
| .pktRecvTimeout input arg =>
    pktRecvTimeoutCb p T input s arg
| .lastPktRecvTimeout input recvId =>
    lastPktRecvTimeoutCb p T input s recvId

/- A step of the node that stays within defined behaviour. -/
def NodeStep
    (p : Platform)
    (T : Transport σ α)
    (s : Endpoint σ)
    (e : Event α)
    (outputs : List Output)
    (s' : Endpoint σ) : Prop :=
  e.Enabled s ∧ exec p T s e = .ok (s', outputs)

/- A node as it is after initialisation. -/
structure Endpoint.Initial (s : Endpoint σ) : Prop where
  connectbuf : s.connectbuf = SlotTable.empty
  recvdatabuf : s.recvdatabuf = SlotTable.empty

------------------------------------------------------------
-- What A Step Does To The Tables
------------------------------------------------------------

/- Every entry is as it was, up to what sending changes. -/
def SameEntries (s s' : Endpoint σ) : Prop :=
  ∀ i, Option.Rel ConnectData.SameLink
    (s.connectbuf i) (s'.connectbuf i)

theorem SameEntries.of_connectbuf_eq
    {s s' : Endpoint σ}
    (hSame : s'.connectbuf = s.connectbuf) :
    SameEntries s s' := by
  intro i
  rw [hSame]
  cases s.connectbuf i with
  | none => exact .none
  | some con => exact .some (.refl con)

/- Writing an entry back with the same link. -/
theorem SameEntries.of_set
    {s s' : Endpoint σ}
    {conId : ConId}
    {con con' : ConnectData}
    (hCon : s.connectbuf conId = some con)
    (hSet : s'.connectbuf = s.connectbuf.set conId con')
    (hLink : con.SameLink con') :
    SameEntries s s' := by
  intro i
  rw [hSet]
  by_cases hEq : i = conId
  · rw [hEq, hCon, SlotTable.set_self]
    exact .some hLink
  · rw [SlotTable.set_of_ne _ _ hEq]
    exact SameEntries.of_connectbuf_eq rfl i

theorem SameEntries.of_sentOver
    {s s' : Endpoint σ}
    {conId : ConId}
    (hSent : SentOver s s' conId) :
    SameEntries s s' := by
  rcases hSent with
    ⟨con, pmtusize, delay, net, hCon, rfl⟩
  exact .of_set hCon rfl ⟨rfl, rfl, rfl, rfl⟩

theorem SentOver.recvdatabuf_eq
    {s s' : Endpoint σ}
    {conId : ConId}
    (hSent : SentOver s s' conId) :
    s'.recvdatabuf = s.recvdatabuf := by
  rcases hSent with ⟨con, pmtusize, delay, net, _, rfl⟩
  rfl

/- A live entry stays live when its link is kept. -/
theorem SameEntries.isSome_eq
    {s s' : Endpoint σ}
    (hSame : SameEntries s s')
    (i : ConId) :
    (s'.connectbuf i).isSome = (s.connectbuf i).isSome := by
  have hAt := hSame i
  generalize s.connectbuf i = before at *
  generalize s'.connectbuf i = after at *
  cases hAt with
  | none => rfl
  | some _ => rfl

/-
  Everything a step can do to the two tables, one case for
  each way.
-/
inductive NodeEffect
    (p : Platform)
    (s : Endpoint σ) :
    Event α → List Output → Endpoint σ → Prop where
  | quiet
      {e : Event α}
      {outputs : List Output}
      {s' : Endpoint σ}
      (hEntries : SameEntries s s')
      (hSlots : s'.recvdatabuf = s.recvdatabuf)
      (hQuiet : Quiet outputs) :
      NodeEffect p s e outputs s'
  | entered
      {input : SendInput α}
      {r : Reception}
      {conId : ConId}
      {con : ConnectData}
      {recvId : RecvId}
      {slot : RecvData}
      {outputs : List Output}
      {s' : Endpoint σ}
      (hClass : r.classify = .data)
      (hId : r.msgH.remoteConId.toInt = (conId : Nat))
      (hCon : s.connectbuf conId = some con)
      (hSlot :
        s.recvSlot conId r.msgH = .ok (recvId, slot))
      (hEnter :
        s.enterPacket con recvId slot r.msgH
          (r.datagram.drop r.bufptr) = .ok (s', outputs)) :
      NodeEffect p s (.recvPkg input r) outputs s'
  | handshake
      {input : SendInput α}
      {r : Reception}
      {outputs : List Output}
      {s' : Endpoint σ}
      (hClass : r.classify = .connection)
      (hEffect :
        RecvConnMsgEffect p s r.msgH (r.conMsg p)
          (r.msgSize - r.msgH.lenMonDataHdr.toNat)
          r.recvAddr s' outputs) :
      NodeEffect p s (.recvPkg input r) outputs s'
  | opened
      {input : SendInput α}
      {externalSocketID : SocketID}
      {cb : ConnectionCb}
      {keepalive : Int}
      {outputs : List Output}
      {s' : Endpoint σ}
      (hEffect :
        MlOpenConnectionEffect p s externalSocketID s'
          outputs) :
      NodeEffect p s
        (.openConnection input externalSocketID cb keepalive)
        outputs s'
  | closed
      {connectionID : Int}
      {conId : ConId}
      (hId : connectionID = (conId : Nat)) :
      NodeEffect p s (.closeConnection connectionID) []
        { s with connectbuf := s.connectbuf.free conId }
  | retried
      {input : SendInput α}
      {conId : ConId}
      {outputs : List Output}
      {s' : Endpoint σ}
      (hEffect : PmtuTimeoutEffect p s conId s' outputs) :
      NodeEffect p s (.pmtuTimeout input conId) outputs s'
  | expired
      {recvId : RecvId} :
      NodeEffect p s (.recvTimeout recvId) []
        (recvTimeoutCb s recvId)
  | asked
      {input : SendInput α}
      {recvId : RecvId}
      {slot : RecvData}
      {outputs : List Output}
      {s' : Endpoint σ}
      (hSlot : s.recvdatabuf recvId = some slot)
      (hEntries : SameEntries s s')
      (hSlots :
        s'.recvdatabuf =
          s.recvdatabuf.set recvId
            { slot with lastPktTimeoutEvent := false })
      (hQuiet : Quiet outputs) :
      NodeEffect p s (.lastPktRecvTimeout input recvId)
        outputs s'

/- The packets of a message are quiet. -/
theorem sendMsg_quiet
    {T : Transport σ α}
    {input : SendInput α}
    {s s' : Endpoint σ}
    {conId : ConId}
    {msgType : UInt8}
    {msg : List UInt8}
    {msgLen : Int}
    {truncable : Bool}
    {outputs : List Output}
    (hSend :
      sendMsg T input s conId msgType msg msgLen truncable =
        .ok (s', outputs)) :
    SentOver s s' conId ∧ Quiet outputs := by
  rcases sendMsg_ok hSend with
    ⟨con, pmtusize, delay, net, hCon, rfl, hPackets⟩
  refine ⟨⟨con, pmtusize, delay, net, hCon, rfl⟩, ?_⟩
  intro output hMem
  rcases hPackets output hMem with ⟨pkt, answer, rfl, _⟩
  trivial

theorem recvPkg_nodeEffect
    {p : Platform}
    {T : Transport σ α}
    {input : SendInput α}
    {s s' : Endpoint σ}
    {r : Reception}
    {outputs : List Output}
    (hRecv : recvPkg p T input s r = .ok (s', outputs)) :
    NodeEffect p s (.recvPkg input r) outputs s' := by
  cases recvPkg_effect hRecv with
  | dropped => exact .quiet (.of_connectbuf_eq rfl) rfl quiet_nil
  | stun hClass hStun =>
      unfold recvStunMsg at hStun
      split at hStun
      · cases hStun
        exact .quiet (.of_connectbuf_eq rfl) rfl quiet_nil
      · cases hStun
        refine .quiet (.of_connectbuf_eq rfl) rfl ?_
        intro output hMem
        rw [List.mem_singleton] at hMem
        rw [hMem]
        trivial
  | connection hClass hEffect =>
      exact .handshake hClass hEffect
  | nack hClass =>
      refine .quiet (.of_connectbuf_eq rfl) rfl ?_
      intro output hMem
      rcases List.mem_map.mp hMem with ⟨pkt, _, rfl⟩
      trivial
  | data hClass hData =>
      rcases recvDataMsg_cases hData with
        ⟨rfl, rfl⟩ |
        ⟨conId, con, recvId, slot, hId, hCon, hSlot, hEnter⟩
      · exact .quiet (.of_connectbuf_eq rfl) rfl quiet_nil
      · exact .entered hClass hId hCon hSlot hEnter

/- A step of the node has one of the effects. -/
theorem NodeStep.effect
    {p : Platform}
    {T : Transport σ α}
    {s s' : Endpoint σ}
    {e : Event α}
    {outputs : List Output}
    (hStep : NodeStep p T s e outputs s') :
    NodeEffect p s e outputs s' := by
  rcases hStep with ⟨_, hExec⟩
  cases e with
  | recvPkg input r => exact recvPkg_nodeEffect hExec
  | openConnection input externalSocketID cb keepalive =>
      unfold exec at hExec
      simp only at hExec
      split at hExec
      · cases hExec
      · rename_i hOpen
        cases hExec
        exact .opened (mlOpenConnection_effect hOpen)
  | closeConnection connectionID =>
      unfold exec mlCloseConnection at hExec
      simp only at hExec
      cases hIndex : connectbufAt connectionID with
      | error fault =>
          simp only [hIndex] at hExec
          cases hExec
      | ok conId =>
          simp only [hIndex] at hExec
          cases hExec
          exact .closed (eq_of_connectbufAt hIndex)
  | sendData input connectionID sendbuf bufsize msgtype =>
      rcases mlSendData_cases hExec with
        ⟨rfl, rfl⟩ | ⟨conId, con, _, _, _, hSend⟩
      · refine .quiet (.of_connectbuf_eq rfl) rfl ?_
        intro output hMem
        rw [List.mem_singleton] at hMem
        rw [hMem]
        trivial
      · rcases sendMsg_quiet hSend with ⟨hOver, hQuiet⟩
        exact
          .quiet (.of_sentOver hOver) hOver.recvdatabuf_eq
            hQuiet
  | pmtuTimeout input conId =>
      exact .retried (pmtuTimeoutCb_effect hExec)
  | keepalive input peer =>
      rcases keepaliveFn_cases hExec with
        ⟨rfl, hTimers⟩ |
        ⟨conId, con, sent, hCon, _, hSend, rfl⟩
      · refine .quiet (.of_connectbuf_eq rfl) rfl ?_
        intro output hMem
        rcases hTimers output hMem with ⟨_, rfl⟩
        trivial
      · rcases sendMsg_quiet hSend with ⟨hOver, hQuiet⟩
        refine
          .quiet ?_ hOver.recvdatabuf_eq
            (quiet_append hQuiet ?_)
        · rcases hOver with
            ⟨con₁, pmtusize, delay, net, hCon₁, rfl⟩
          rw [Endpoint.setCon_connectbuf, SlotTable.set_self,
            Option.some.injEq] at hCon₁
          subst hCon₁
          rw [Endpoint.setCon_setConNet]
          exact .of_set hCon rfl ⟨rfl, rfl, rfl, rfl⟩
        · intro output hMem
          rw [List.mem_singleton] at hMem
          rw [hMem]
          trivial
  | recvTimeout recvId =>
      cases hExec
      exact .expired
  | pktRecvTimeout input arg =>
      rcases pktRecvTimeoutCb_cases hExec with
        ⟨hQuiet, rfl | ⟨slot, _, hOver⟩⟩
      · exact .quiet (.of_connectbuf_eq rfl) rfl hQuiet
      · exact
          .quiet (.of_sentOver hOver) hOver.recvdatabuf_eq
            hQuiet
  | lastPktRecvTimeout input recvId =>
      rcases lastPktRecvTimeoutCb_cases hExec with
        ⟨hQuiet, rfl | ⟨slot, s₁, hSlot, rfl, hRest⟩⟩
      · exact .quiet (.of_connectbuf_eq rfl) rfl hQuiet
      · rcases hRest with rfl | hOver
        · exact
            .asked hSlot (.of_connectbuf_eq rfl) rfl hQuiet
        · exact
            .asked hSlot
              (fun i => SameEntries.of_sentOver hOver i)
              hOver.recvdatabuf_eq hQuiet

end ML

end NapaBaselibs
