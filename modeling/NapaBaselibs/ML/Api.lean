import NapaBaselibs.ML.Handshake

/-
  The functions the application calls on a connection: open,
  send data, and the keepalive messages that opening starts.

  Key definitions include:
    * `mlConnectionExist`
    * `mlOpenConnection`
    * `mlSendData`
    * `keepaliveFn`
    * `MlOpenConnectionEffect`

  Key theorems include:
    * `mlOpenConnection_effect`
    * `mlSendData_cases`
    * `keepaliveFn_cases`
-/

------------------------------------------------------------
-- Opening
------------------------------------------------------------

namespace NapaBaselibs

namespace ML

variable {σ α : Type}
variable (p : Platform)
variable (T : Transport σ α)

/- `mlConnectionExist`. -/
def mlConnectionExist
    (s : Endpoint σ)
    (socketID : SocketID)
    (ready : Bool) : Int :=
  match s.connectionOf p socketID with
  | some (conId, con) =>
      if ready = true ∧ con.status ≠ .ready then -1
      else conId
  | none => -1

/- `setupKeepalive`: the timer it may start. -/
def ConnectData.setupKeepalive
    (con : ConnectData) : List Output :=
  if con.keepalive ≠ 0 then
    [.keepaliveTimer con.externalSocketID]
  else
    []

/- The entry made for a peer that is invited. -/
def ConnectData.ofOpen
    (localSocketID externalSocketID : SocketID)
    (cb : ConnectionCb)
    (keepalive : Int) : ConnectData where
  externalSocketID := externalSocketID
  externalConnectionID := -1
  pmtusize := pmtuDslSlim
  delay := false
  trials := 0
  ctrlMsgBuf := none
  status := .invite
  seqnr := 0
  timeoutEvent := false
  internalConnect :=
    mlCompareAddr p externalSocketID.externalAddr
      localSocketID.externalAddr = 0
  connectionCbs := [cb]
  keepalive := keepalive
  keepaliveSeq := 0

/-
  `mlOpenConnection`, for a socket ID and a callback that are
  not `NULL`.  Of the send parameters only `keepalive` has an
  effect.  The first component of the result is what it
  returns.
-/
def mlOpenConnection
    (input : SendInput α)
    (s : Endpoint σ)
    (externalSocketID : SocketID)
    (cb : ConnectionCb)
    (keepalive : Int) :
    Except Fault (Int × Endpoint σ × List Output) :=
  if s.natTraversal = false then
    .ok (-1, s, [])
  else
    match s.connectionOf p externalSocketID with
    | some (conId, con) =>
        let con' := { con with keepalive := keepalive }
        let timer :=
          if con.keepalive = 0 then
            con'.setupKeepalive
          else
            []
        if con.status = .ready then
          .ok (conId, s.setCon conId con',
            timer ++ [.connectionCb cb conId])
        else
          .ok (conId,
            s.setCon conId
              { con' with
                connectionCbs := con.connectionCbs ++ [cb] },
            timer)
    | none =>
        match s.connectbuf.firstFree? with
        | none => .ok (-1, s, [])
        | some conId =>
            let con :=
              ConnectData.ofOpen p s.localSocketID
                externalSocketID cb keepalive
            match sendConnMsgWithPmtuDiscovery p T input
                (s.setCon conId con) conId con.pmtusize
                .invite with
            | .error fault => .error fault
            | .ok (s', outputs) =>
                .ok (conId, s', con.setupKeepalive ++ outputs)

------------------------------------------------------------
-- Sending Data
------------------------------------------------------------

/- `mlSendData`.  The message is the whole buffer. -/
def mlSendData
    (input : SendInput α)
    (s : Endpoint σ)
    (connectionID : Int)
    (sendbuf : List UInt8)
    (bufsize : Int)
    (msgtype : UInt8) : StepResult σ :=
  if connectionID < 0 then
    .ok (s, [.sendRefused connectionID])
  else
    match connectbufAt connectionID with
    | .error fault => .error fault
    | .ok conId =>
        match s.connectbuf conId with
        | none => .ok (s, [.sendRefused connectionID])
        | some con =>
            if con.status ≠ .ready then
              .ok (s, [.sendRefused connectionID])
            else
              sendMsg T input s conId msgtype sendbuf
                bufsize false

/- The text of a keepalive message, with its final zero. -/
def keepaliveMsg (keepaliveSeq : UInt32) : List UInt8 :=
  let text :=
    "KEEPALIVE " ++ toString keepaliveSeq.toInt32.toInt
  text.toList.map (fun c => UInt8.ofNat c.toNat) ++ [0]

/- `keepalive_fn`. -/
def keepaliveFn
    (input : SendInput α)
    (s : Endpoint σ)
    (peer : SocketID) : StepResult σ :=
  match s.connectionOf p peer with
  | none => .ok (s, [])
  | some (conId, con) =>
      if con.keepalive ≤ 0 then
        .ok (s, [])
      else if con.status = .ready then
        let msg := keepaliveMsg con.keepaliveSeq
        match sendMsg T input
            (s.setCon conId
              { con with
                keepaliveSeq := con.keepaliveSeq + 1 })
            conId msgTypeMlKeepalive msg msg.length
            false with
        | .error fault => .error fault
        | .ok (s', outputs) =>
            .ok (s', outputs ++ [.keepaliveTimer peer])
      else
        .ok (s, [.keepaliveTimer peer])

------------------------------------------------------------
-- Effect On The State
------------------------------------------------------------

variable {p T}

/- Everything that opening a connection can do. -/
inductive MlOpenConnectionEffect
    (p : Platform)
    (s : Endpoint σ)
    (externalSocketID : SocketID) :
    Endpoint σ → List Output → Prop where
  | refused :
      MlOpenConnectionEffect p s externalSocketID s []
  | joined
      {outputs : List Output}
      {conId : ConId}
      {con con' : ConnectData}
      (hCon : s.connectbuf conId = some con)
      (hPeer :
        SamePeer p con.externalSocketID externalSocketID)
      (hSocket :
        con'.externalSocketID = con.externalSocketID)
      (hId :
        con'.externalConnectionID =
          con.externalConnectionID)
      (hStatus : con'.status = con.status)
      (hOutputs :
        ∀ output ∈ outputs,
          (∃ peer, output = .keepaliveTimer peer) ∨
            ∃ cb, output = .connectionCb cb conId) :
      MlOpenConnectionEffect p s externalSocketID
        (s.setCon conId con') outputs
  | opened
      {s' : Endpoint σ}
      {timer sent : List Output}
      {conId : ConId}
      {cb : ConnectionCb}
      {keepalive : Int}
      (hFree : s.connectbuf conId = none)
      (hNone :
        ∀ j con, s.connectbuf j = some con →
          ¬ SamePeer p con.externalSocketID
            externalSocketID)
      (hTimer :
        ∀ output ∈ timer,
          ∃ peer, output = .keepaliveTimer peer)
      (hSent :
        ConnSent p s s' conId
          (ConnectData.ofOpen p s.localSocketID
            externalSocketID cb keepalive)
          .invite sent) :
      MlOpenConnectionEffect p s externalSocketID s'
        (timer ++ sent)

theorem ConnectData.setupKeepalive_outputs
    (con : ConnectData) :
    ∀ output ∈ con.setupKeepalive,
      ∃ peer, output = .keepaliveTimer peer := by
  unfold setupKeepalive
  split
  · intro output hMem
    rw [List.mem_singleton] at hMem
    exact ⟨_, hMem⟩
  · simp

/- Opening a connection has one of the effects. -/
theorem mlOpenConnection_effect
    {input : SendInput α}
    {s s' : Endpoint σ}
    {externalSocketID : SocketID}
    {cb : ConnectionCb}
    {keepalive result : Int}
    {outputs : List Output}
    (hOpen :
      mlOpenConnection p T input s externalSocketID cb
          keepalive = .ok (result, s', outputs)) :
    MlOpenConnectionEffect p s externalSocketID s'
      outputs := by
  unfold mlOpenConnection at hOpen
  split at hOpen
  · cases hOpen
    exact .refused
  · split at hOpen
    · rename_i conId con hFind
      rcases Endpoint.of_connectionOf_eq_some hFind with
        ⟨hCon, hPeer⟩
      have hTimer :
          ∀ output ∈
            (if con.keepalive = 0 then
              ConnectData.setupKeepalive
                { con with keepalive := keepalive }
            else
              []),
            (∃ peer, output = Output.keepaliveTimer peer) ∨
              ∃ cb, output = .connectionCb cb conId := by
        intro output hMem
        split at hMem
        · exact
            Or.inl
              (ConnectData.setupKeepalive_outputs _ output
                hMem)
        · cases hMem
      simp only at hOpen
      split at hOpen
      · cases hOpen
        refine .joined hCon hPeer rfl rfl rfl ?_
        intro output hMem
        rcases List.mem_append.mp hMem with hFirst | hLast
        · exact hTimer output hFirst
        · rw [List.mem_singleton] at hLast
          exact Or.inr ⟨cb, hLast⟩
      · cases hOpen
        exact .joined hCon hPeer rfl rfl rfl hTimer
    · rename_i hFind
      split at hOpen
      · cases hOpen
        exact .refused
      · rename_i conId hFree
        simp only at hOpen
        split at hOpen
        · cases hOpen
        · rename_i hSend
          cases hOpen
          exact
            .opened (SlotTable.free_of_firstFree? hFree)
              (Endpoint.of_connectionOf_eq_none hFind)
              (ConnectData.setupKeepalive_outputs _)
              (sendConnMsgWithPmtuDiscovery_sent
                (SlotTable.set_self ..) hSend).of_setCon

/- Data is sent over a ready connection, or refused. -/
theorem mlSendData_cases
    {input : SendInput α}
    {s s' : Endpoint σ}
    {connectionID bufsize : Int}
    {sendbuf : List UInt8}
    {msgtype : UInt8}
    {outputs : List Output}
    (hSend :
      mlSendData T input s connectionID sendbuf bufsize
          msgtype = .ok (s', outputs)) :
    (s' = s ∧ outputs = [.sendRefused connectionID]) ∨
      ∃ (conId : ConId) (con : ConnectData),
        connectionID = (conId : Nat) ∧
          s.connectbuf conId = some con ∧
          con.status = .ready ∧
          sendMsg T input s conId msgtype sendbuf bufsize
            false = .ok (s', outputs) := by
  unfold mlSendData at hSend
  split at hSend
  · cases hSend
    exact Or.inl ⟨rfl, rfl⟩
  · split at hSend
    · cases hSend
    · rename_i conId hIndex
      split at hSend
      · cases hSend
        exact Or.inl ⟨rfl, rfl⟩
      · rename_i con hCon
        split at hSend
        · cases hSend
          exact Or.inl ⟨rfl, rfl⟩
        · rename_i hStatus
          exact
            Or.inr
              ⟨conId, con, eq_of_connectbufAt hIndex, hCon,
                not_not.mp hStatus, hSend⟩

/- A keepalive may send over a ready connection. -/
theorem keepaliveFn_cases
    {input : SendInput α}
    {s s' : Endpoint σ}
    {peer : SocketID}
    {outputs : List Output}
    (hTimer :
      keepaliveFn p T input s peer = .ok (s', outputs)) :
    (s' = s ∧
        ∀ output ∈ outputs,
          ∃ peer, output = .keepaliveTimer peer) ∨
      ∃ (conId : ConId) (con : ConnectData)
          (sent : List Output),
        s.connectbuf conId = some con ∧
          con.status = .ready ∧
          sendMsg T input
            (s.setCon conId
              { con with
                keepaliveSeq := con.keepaliveSeq + 1 })
            conId msgTypeMlKeepalive
            (keepaliveMsg con.keepaliveSeq)
            (keepaliveMsg con.keepaliveSeq).length false =
              .ok (s', sent) ∧
          outputs = sent ++ [.keepaliveTimer peer] := by
  unfold keepaliveFn at hTimer
  split at hTimer
  · cases hTimer
    exact Or.inl ⟨rfl, by simp⟩
  · rename_i conId con hFind
    rcases Endpoint.of_connectionOf_eq_some hFind with
      ⟨hCon, _⟩
    split at hTimer
    · cases hTimer
      exact Or.inl ⟨rfl, by simp⟩
    · split at hTimer
      · rename_i hStatus
        simp only at hTimer
        split at hTimer
        · cases hTimer
        · rename_i hSend
          cases hTimer
          exact
            Or.inr
              ⟨conId, con, _, hCon, hStatus, hSend, rfl⟩
      · cases hTimer
        exact Or.inl ⟨rfl, by simp⟩

end ML

end NapaBaselibs
