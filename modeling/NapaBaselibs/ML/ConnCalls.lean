import NapaBaselibs.ML.EntryRules

/-
  The calls of `send_conn_msg`: which one an event makes, as
  a function of the state before it, and that the step of the
  event is this call with nothing but callbacks and timers
  around it.

  Key definitions include:
    * `ConnMsgCall`, `Event.connMsgCall?`
    * `Event.withInput`
    * `RunsCall`

  Key theorems include:
    * `exec_connMsgCall`
-/

------------------------------------------------------------
-- Calls Of `send_conn_msg`
------------------------------------------------------------

namespace NapaBaselibs

namespace ML

variable {σ α β : Type}

/- A call, with the entry of the connection when it is made. -/
structure ConnMsgCall where
  conId : ConId
  con : ConnectData
  bufSize : Int
  command : ConMsgType

namespace ConnMsgCall

/- The call gets past its size check. -/
def Proceeds (c : ConnMsgCall) : Prop :=
  ¬ (0 ≤ c.bufSize ∧ c.bufSize < connMsgSize)

/- What the call does. -/
def send
    (c : ConnMsgCall)
    (p : Platform)
    (T : Transport σ α)
    (input : SendInput α)
    (s : Endpoint σ) : StepResult σ :=
  sendConnMsg p T input (s.setCon c.conId c.con) c.conId
    c.bufSize c.command

/-
  The size of the block: that of the buffer there is, or the
  size it is allocated with.
-/
def blockSize (c : ConnMsgCall) : Int :=
  match c.con.ctrlMsgBuf with
  | some buf => buf.length
  | none => c.bufSize

end ConnMsgCall

/- The call that sends the first message of an attempt. -/
def ConnectData.firstCall
    (con : ConnectData)
    (conId : ConId)
    (bufSize : Int)
    (command : ConMsgType) : ConnMsgCall where
  conId := conId
  con := { con with trials := 1 }
  bufSize := bufSize
  command := command

/- The call that sends a message again. -/
def ConnectData.resendCall
    (con : ConnectData)
    (conId : ConId) : ConnMsgCall where
  conId := conId
  con := { con with trials := con.trials + 1 }
  bufSize := con.pmtusize
  command := con.status

/- The call made for an `INVITE`. -/
def inviteCall?
    (p : Platform)
    (s : Endpoint σ)
    (msgH : MsgHeader)
    (conMsg : ConnMsg)
    (recvAddr : SockaddrStorage) : Option ConnMsgCall :=
  let bufSize := toCInt conMsg.pmtuSize.toNat
  match s.connectionOf p conMsg.sockId with
  | some (conId, con) =>
      some
        (ConnectData.firstCall
          { con with
            externalConnectionID := msgH.localConId
            status := .connect }
          conId bufSize .connect)
  | none =>
      match s.connectbuf.firstFree? with
      | none => none
      | some conId =>
          some
            (ConnectData.firstCall
              { ConnectData.ofInvite p msgH conMsg
                  recvAddr with
                status := .connect }
              conId bufSize .connect)

/- The call made for a `CONNECT`. -/
def connectCall?
    (s : Endpoint σ)
    (msgH : MsgHeader)
    (conMsg : ConnMsg) : Option ConnMsgCall :=
  let bufSize := toCInt conMsg.pmtuSize.toNat
  match connectbufAt msgH.remoteConId.toInt with
  | .error _ => none
  | .ok conId =>
      match s.connectbuf conId with
      | none => none
      | some con =>
          if con.status = .invite then
            some
              (ConnectData.firstCall
                { con with
                  externalConnectionID := msgH.localConId
                  status := .ready }
                conId bufSize .ready)
          else
            some (con.firstCall conId bufSize .ready)

/- The call made by opening a connection. -/
def openCall?
    (p : Platform)
    (s : Endpoint σ)
    (externalSocketID : SocketID)
    (cb : ConnectionCb)
    (keepalive : Int) : Option ConnMsgCall :=
  if s.natTraversal = false then
    none
  else
    match s.connectionOf p externalSocketID with
    | some _ => none
    | none =>
        match s.connectbuf.firstFree? with
        | none => none
        | some conId =>
            let con :=
              ConnectData.ofOpen p s.localSocketID
                externalSocketID cb keepalive
            some (con.firstCall conId con.pmtusize .invite)

/- The call made by the retry timer. -/
def timeoutCall?
    (s : Endpoint σ)
    (conId : ConId) : Option ConnMsgCall :=
  match s.connectbuf conId with
  | none => none
  | some con =>
      if con.status = .ready then
        none
      else if con.backOff.pmtusize = pmtuError then
        if con.backOff.internalConnect then
          some
            (ConnectData.resendCall
              { con.backOff with
                internalConnect := false
                pmtusize := pmtuDslSlim }
              conId)
        else
          none
      else
        some (con.backOff.resendCall conId)

/-
  The call of `send_conn_msg` that is made at an event; no
  event makes more than one.
-/
def Event.connMsgCall?
    (p : Platform)
    (s : Endpoint σ) : Event α → Option ConnMsgCall
| recvPkg _ r =>
    match r.command p with
    | some .invite =>
        inviteCall? p s r.msgH (r.conMsg p) r.recvAddr
    | some .connect => connectCall? s r.msgH (r.conMsg p)
    | some .ready | none => none
| openConnection _ externalSocketID cb period =>
    openCall? p s externalSocketID cb period
| pmtuTimeout _ conId => timeoutCall? s conId
| _ => none

/- The event with other answers of queue and monitoring. -/
def Event.withInput
    (input : SendInput β) : Event α → Event β
| recvPkg _ r => .recvPkg input r
| openConnection _ externalSocketID cb period =>
    .openConnection input externalSocketID cb period
| closeConnection connectionID =>
    .closeConnection connectionID
| sendData _ connectionID sendbuf bufsize msgtype =>
    .sendData input connectionID sendbuf bufsize msgtype
| pmtuTimeout _ conId => .pmtuTimeout input conId
| keepalive _ peer => .keepalive input peer
| recvTimeout recvId => .recvTimeout recvId
| pktRecvTimeout _ arg => .pktRecvTimeout input arg
| lastPktRecvTimeout _ recvId =>
    .lastPktRecvTimeout input recvId

------------------------------------------------------------
-- The Call In Its Step
------------------------------------------------------------

/- None of the outputs is a packet. -/
def NoPackets (outputs : List Output) : Prop :=
  ∀ pkt answer, .packet pkt answer ∉ outputs

/-
  The step is the call and what is done after it: it fails
  when the call does, and outputs no packets but its own.
-/
structure RunsCall
    (call result : StepResult σ) : Prop where
  error (fault : Fault) :
    call = .error fault → result = .error fault
  ok (s₁ : Endpoint σ) (sent : List Output) :
    call = .ok (s₁, sent) →
      ∃ s' before after,
        result = .ok (s', before ++ sent ++ after) ∧
          NoPackets before ∧ NoPackets after

section Calls

variable {p : Platform}
variable {T : Transport σ α}
variable {input : SendInput α}
variable {s : Endpoint σ}

theorem noPackets_nil : NoPackets [] := by
  intro pkt answer hMem
  cases hMem

/- The step outputs what the call outputs. -/
theorem outputs_of_call
    {result : StepResult σ}
    {s' : Endpoint σ}
    {sent : List Output}
    (hResult : result = .ok (s', sent)) :
    ∃ s' before after,
      result = .ok (s', before ++ sent ++ after) ∧
        NoPackets before ∧ NoPackets after := by
  refine ⟨s', [], [], ?_, noPackets_nil, noPackets_nil⟩
  rw [hResult, List.nil_append, List.append_nil]

theorem noPackets_announce
    (conId : ConId)
    (con : ConnectData) :
    NoPackets (s.announce conId con) := by
  intro pkt answer hMem
  unfold Endpoint.announce at hMem
  rcases List.mem_append.mp hMem with hFirst | hSecond
  · split at hFirst
    · simp at hFirst
    · cases hFirst
  · rcases List.mem_map.mp hSecond with ⟨cb, _, hOutput⟩
    cases hOutput

theorem noPackets_setupKeepalive
    (con : ConnectData) :
    NoPackets con.setupKeepalive := by
  intro pkt answer hMem
  rcases con.setupKeepalive_outputs _ hMem with ⟨peer, hOutput⟩
  cases hOutput

/- Starting the timer comes after the call. -/
theorem runsCall_sendAndReschedule
    (conId : ConId)
    (con : ConnectData)
    (bufSize : Int)
    (command : ConMsgType) :
    RunsCall
      (sendConnMsg p T input (s.setCon conId con) conId
        bufSize command)
      (sendAndReschedule p T input (s.setCon conId con) conId
        bufSize command) where
  error fault hCall := by
    unfold sendAndReschedule
    rw [hCall]
  ok s₁ sent hCall := by
    have hCon :
        (s.setCon conId con).connectbuf conId = some con :=
      SlotTable.set_self ..
    rcases sendConnMsg_sent hCon hCall with
      ⟨⟨con₁, net, rfl, _⟩, _⟩
    unfold sendAndReschedule
    rw [hCall]
    simp only [rescheduleConnMsg, derefCon,
      Endpoint.setConNet_connectbuf, SlotTable.set_self]
    exact outputs_of_call rfl

theorem runsCall_withPmtuDiscovery
    (p : Platform)
    (T : Transport σ α)
    (input : SendInput α)
    (s : Endpoint σ)
    (conId : ConId)
    (con : ConnectData)
    (bufSize : Int)
    (command : ConMsgType) :
    RunsCall
      ((con.firstCall conId bufSize command).send p T input s)
      (sendConnMsgWithPmtuDiscovery p T input
        (s.setCon conId con) conId bufSize command) := by
  unfold sendConnMsgWithPmtuDiscovery ConnMsgCall.send
    ConnectData.firstCall
  simp only [derefCon, Endpoint.setCon_connectbuf,
    SlotTable.set_self, Endpoint.setCon_setCon]
  exact runsCall_sendAndReschedule ..

theorem runsCall_resendConnMsg
    (conId : ConId)
    (con : ConnectData) :
    RunsCall ((con.resendCall conId).send p T input s)
      (resendConnMsg p T input (s.setCon conId con)
        conId) := by
  unfold resendConnMsg ConnMsgCall.send
    ConnectData.resendCall
  simp only [derefCon, Endpoint.setCon_connectbuf,
    SlotTable.set_self, Endpoint.setCon_setCon]
  exact runsCall_sendAndReschedule ..

theorem runsCall_recvInvite
    {msgH : MsgHeader}
    {conMsg : ConnMsg}
    {recvAddr : SockaddrStorage}
    {c : ConnMsgCall}
    (hCall : inviteCall? p s msgH conMsg recvAddr = some c) :
    RunsCall (c.send p T input s)
      (recvInvite p T input s msgH conMsg recvAddr) := by
  unfold inviteCall? at hCall
  unfold recvInvite
  simp only at hCall
  simp only
  generalize
    ConnectData.ofInvite p msgH conMsg recvAddr = new at *
  generalize toCInt conMsg.pmtuSize.toNat = bufSize at *
  cases hFind : s.connectionOf p conMsg.sockId with
  | some found =>
      rcases found with ⟨conId, con⟩
      simp only [hFind, Option.some.injEq] at hCall
      subst hCall
      simp only
      exact runsCall_withPmtuDiscovery p T input s conId _ _ _
  | none =>
      simp only [hFind] at hCall
      cases hFree : s.connectbuf.firstFree? with
      | none =>
          simp only [hFree] at hCall
          cases hCall
      | some conId =>
          simp only [hFree, Option.some.injEq] at hCall
          subst hCall
          simp only
          exact runsCall_withPmtuDiscovery p T input s conId _ _ _

/- The callbacks of a connection come after its `READY`. -/
theorem runsCall_recvConnect
    {msgH : MsgHeader}
    {conMsg : ConnMsg}
    {c : ConnMsgCall}
    (hCall : connectCall? s msgH conMsg = some c) :
    RunsCall (c.send p T input s)
      (recvConnect p T input s msgH conMsg) := by
  unfold connectCall? at hCall
  unfold recvConnect
  simp only at hCall
  simp only
  generalize toCInt conMsg.pmtuSize.toNat = bufSize at *
  cases hIndex : connectbufAt msgH.remoteConId.toInt with
  | error fault =>
      simp only [hIndex] at hCall
      cases hCall
  | ok conId =>
      simp only [hIndex] at hCall
      cases hCon : s.connectbuf conId with
      | none =>
          simp only [hCon] at hCall
          cases hCall
      | some con =>
          simp only [hCon] at hCall
          simp only [hCon]
          by_cases hStatus : con.status = .invite
          · rw [if_pos hStatus, Option.some.injEq] at hCall
            subst hCall
            rw [if_pos hStatus]
            generalize hSent :
              sendConnMsgWithPmtuDiscovery p T input
                (s.setCon conId _) conId bufSize
                ConMsgType.ready = sent
            have hRuns :=
              runsCall_withPmtuDiscovery p T input s conId
                { con with
                  externalConnectionID := msgH.localConId
                  status := .ready }
                bufSize .ready
            rw [hSent] at hRuns
            constructor
            · intro fault hFault
              rw [hRuns.error fault hFault]
            · intro s₁ outputs hOk
              rcases hRuns.ok s₁ outputs hOk with
                ⟨s₂, before, after, rfl, hBefore, hAfter⟩
              rcases
                (sendConnMsgWithPmtuDiscovery_sent
                  (SlotTable.set_self ..) hSent).1 with
                ⟨con₂, net, rfl, _⟩
              simp only [derefCon,
                Endpoint.setConNet_connectbuf,
                SlotTable.set_self]
              rw [List.append_assoc (before ++ outputs)]
              refine ⟨_, before, _, rfl, hBefore, ?_⟩
              intro pkt answer hMem
              rcases List.mem_append.mp hMem with
                hEarlier | hLater
              · exact hAfter pkt answer hEarlier
              · exact
                  noPackets_announce _ _ pkt answer hLater
          · rw [if_neg hStatus, Option.some.injEq] at hCall
            subst hCall
            rw [if_neg hStatus]
            have hSame : s.setCon conId con = s :=
              Endpoint.setConNet_eq_self hCon
            have hRuns :=
              runsCall_withPmtuDiscovery p T input s conId con
                bufSize .ready
            rw [hSame] at hRuns
            exact hRuns

/- The keepalive timer is started before the call. -/
theorem runsCall_openConnection
    {externalSocketID : SocketID}
    {cb : ConnectionCb}
    {period : Int}
    {c : ConnMsgCall}
    (hCall :
      openCall? p s externalSocketID cb period = some c) :
    RunsCall (c.send p T input s)
      (exec p T s
        (.openConnection input externalSocketID cb
          period)) := by
  unfold openCall? at hCall
  unfold exec mlOpenConnection
  simp only
  split at hCall
  · cases hCall
  · rename_i hTraversal
    rw [if_neg hTraversal]
    cases hFind : s.connectionOf p externalSocketID with
    | some found =>
        simp only [hFind] at hCall
        cases hCall
    | none =>
        simp only [hFind] at hCall
        simp only
        cases hFree : s.connectbuf.firstFree? with
        | none =>
            simp only [hFree] at hCall
            cases hCall
        | some conId =>
            simp only [hFree, Option.some.injEq] at hCall
            simp only
            subst hCall
            generalize
              ConnectData.ofOpen p s.localSocketID
                externalSocketID cb period = con
            have hRuns :=
              runsCall_withPmtuDiscovery p T input s conId con
                con.pmtusize .invite
            constructor
            · intro fault hFault
              rw [hRuns.error fault hFault]
            · intro s₁ outputs hOk
              rcases hRuns.ok s₁ outputs hOk with
                ⟨s₂, before, after, hSent, hBefore, hAfter⟩
              rw [hSent]
              simp only
              rw [← List.append_assoc, ← List.append_assoc]
              refine ⟨_, _, after, rfl, ?_, hAfter⟩
              intro pkt answer hMem
              rcases List.mem_append.mp hMem with
                hTimer | hEarlier
              · exact
                  noPackets_setupKeepalive con pkt answer
                    hTimer
              · exact hBefore pkt answer hEarlier

theorem runsCall_pmtuTimeoutCb
    {conId : ConId}
    {c : ConnMsgCall}
    (hCall : timeoutCall? s conId = some c) :
    RunsCall (c.send p T input s)
      (pmtuTimeoutCb p T input s conId) := by
  unfold timeoutCall? at hCall
  unfold pmtuTimeoutCb
  cases hCon : s.connectbuf conId with
  | none =>
      simp only [hCon] at hCall
      cases hCall
  | some con =>
      simp only [hCon] at hCall
      simp only
      split at hCall
      · cases hCall
      · rename_i hStatus
        rw [if_neg hStatus]
        split at hCall
        · rename_i hSize
          rw [if_pos hSize]
          split at hCall
          · rename_i hInternal
            rw [if_pos hInternal]
            rw [Option.some.injEq] at hCall
            subst hCall
            exact runsCall_resendConnMsg ..
          · cases hCall
        · rename_i hSize
          rw [if_neg hSize]
          rw [Option.some.injEq] at hCall
          subst hCall
          exact runsCall_resendConnMsg ..

/- The call of an event runs in the step it belongs to. -/
theorem exec_connMsgCall
    (input : SendInput α)
    {e : Event β}
    {c : ConnMsgCall}
    (hCall : e.connMsgCall? p s = some c) :
    RunsCall (c.send p T input s)
      (exec p T s (e.withInput input)) := by
  cases e with
  | recvPkg old r =>
      unfold Event.connMsgCall? at hCall
      unfold Event.withInput exec
      simp only at hCall
      have hClass : r.classify = .connection := by
        by_contra hNot
        unfold Reception.command at hCall
        rw [if_neg hNot] at hCall
        cases hCall
      simp only
      rw [recvPkg_connection hClass]
      generalize r.command p = command at *
      cases command with
      | none => cases hCall
      | some command =>
          cases command with
          | invite => exact runsCall_recvInvite hCall
          | connect => exact runsCall_recvConnect hCall
          | ready => cases hCall
  | openConnection old externalSocketID cb period =>
      exact runsCall_openConnection hCall
  | pmtuTimeout old conId =>
      exact runsCall_pmtuTimeoutCb hCall
  | closeConnection | sendData | keepalive | recvTimeout
  | pktRecvTimeout | lastPktRecvTimeout => cases hCall

end Calls

end ML

end NapaBaselibs
