import NapaBaselibs.Lib.Ledger
import NapaBaselibs.Lib.LinkedQueue
import NapaBaselibs.Lib.Runs
import NapaBaselibs.ML.State

/-
  The callbacks that wait for a connection, with the pointers
  of `ml.c` and with callbacks that call back.

  An entry of `connectbuf` has the first and the last pointer
  of a list of `receive_connection_cb_list` nodes.  A callback
  may open connections and send data while the list it came
  from is being emptied.  What a callback does when it is
  called is given with it, as the calls it makes; what
  `malloc` answers is a parameter.  Of an entry only the peer,
  the status and the list are kept: nothing else decides what
  happens to a callback, except when a timeout gives up, which
  is an input here.

  Key definitions include:
    * `CallbackBody`, `CallbackNode`
    * `CallbackNode.mlOpenConnection`
    * `CallbackBody.perform`, `CallbackNode.callWaiting`
    * `CallbackNode.exec`
-/

------------------------------------------------------------
-- Callbacks
------------------------------------------------------------

namespace NapaBaselibs

namespace ML

/-
  The calls that a callback makes, in their order.  The body
  of a callback that is registered by one of them is the
  first `CallbackBody` of that call.
-/
inductive CallbackBody where
  | done
  | openConnection
      (externalSocketID : Option SocketID)
      (connectionCb : Option Nat)
      (arg : Nat)
      (body rest : CallbackBody)
  | sendData
      (connectionID : Int)
      (rest : CallbackBody)

/-
  `receive_connection_cb_list` without its `next` pointer.
  The number of the call that registered the callback, and
  what the callback does, are not in the node of the source.
-/
structure WaitingCb where
  connectionCb : Nat
  arg : Nat
  number : Nat
  body : CallbackBody

/- A callback registered for a connection, by one call. -/
structure Registration where
  number : Nat
  conId : ConId
  connectionCb : Nat
  arg : Nat
deriving DecidableEq, Repr

/- What a node stands for in the list of an entry. -/
def WaitingCb.registration
    (cb : WaitingCb)
    (conId : ConId) : Registration where
  number := cb.number
  conId := conId
  connectionCb := cb.connectionCb
  arg := cb.arg

/-
  The fields of `connect_data` that matter here; the queue is
  `connection_head` and `connection_last`.
-/
structure CallbackEntry where
  externalSocketID : SocketID
  status : ConMsgType
  connectionCbs : LinkedQueue.Queue

/- The table, the nodes, and the number of the next call. -/
structure CallbackNode where
  natTraversal : Bool
  connectbuf : SlotTable connectbufSize CallbackEntry
  heap : LinkedQueue.Heap WaitingCb
  calls : Nat

/- What `malloc` answers: an address that is not in use. -/
structure Malloc where
  address : Nat → LinkedQueue.Heap WaitingCb → Nat
  fresh :
    ∀ (calls : Nat) (heap : LinkedQueue.Heap WaitingCb),
      heap.lookup (address calls heap) = none

/- Why a call has no result. -/
inductive CallFault where
  | connectbufIndex (i : Int)
  | badPointer
  | noReturn
deriving DecidableEq, Repr

/- What happens to a callback, as the outside sees it. -/
abbrev CallOutput := Ledger.Fate × Registration

/- The state after a call, with what happened in it. -/
abbrev CallResult :=
  Except CallFault (CallbackNode × List CallOutput)

/- Go on after a call that has a result. -/
def CallResult.andThen
    (result : CallResult)
    (next : CallbackNode → CallResult) : CallResult :=
  match result with
  | .error fault => .error fault
  | .ok (s, first) =>
      match next s with
      | .error fault => .error fault
      | .ok (s', second) => .ok (s', first ++ second)

namespace CallbackNode

/- `mlInit`: no connection yet. -/
def initial (natTraversal : Bool) : CallbackNode where
  natTraversal := natTraversal
  connectbuf := SlotTable.empty
  heap := ∅
  calls := 0

/- Store an entry. -/
def setEntry
    (s : CallbackNode)
    (conId : ConId)
    (con : CallbackEntry) : CallbackNode :=
  { s with connectbuf := s.connectbuf.set conId con }

/- `connectbuf[i]`, which C reads without a check. -/
def entryAt
    (s : CallbackNode)
    (i : Int) :
    Except CallFault (ConId × Option CallbackEntry) :=
  match SlotTable.index? connectbufSize i with
  | some conId => .ok (conId, s.connectbuf conId)
  | none => .error (.connectbufIndex i)

variable (p : Platform)
variable (malloc : Malloc)

/- The first entry of a peer, with its index. -/
def connectionOf
    (s : CallbackNode)
    (socketID : SocketID) : Option (ConId × CallbackEntry) :=
  s.connectbuf.find? (fun con =>
    decide (SamePeer p con.externalSocketID socketID))

------------------------------------------------------------
-- Opening
------------------------------------------------------------

/- A node for a callback, linked at the end of the list. -/
def addWaiting
    (s : CallbackNode)
    (conId : ConId)
    (con : CallbackEntry)
    (cb : WaitingCb) : Except CallFault CallbackNode :=
  let temp := malloc.address s.calls s.heap
  match LinkedQueue.appendLast
      (s.heap.insert temp ⟨cb, none⟩) con.connectionCbs
      temp with
  | none => .error .badPointer
  | some (heap, queue) =>
      .ok
        { s with
          heap := heap
          connectbuf :=
            s.connectbuf.set conId
              { con with connectionCbs := queue }
          calls := s.calls + 1 }

/- The entry made for a peer that is invited. -/
def addEntry
    (s : CallbackNode)
    (conId : ConId)
    (externalSocketID : SocketID)
    (cb : WaitingCb) : CallbackNode :=
  let temp := malloc.address s.calls s.heap
  { s with
    heap := s.heap.insert temp ⟨cb, none⟩
    connectbuf :=
      s.connectbuf.set conId
        { externalSocketID := externalSocketID
          status := .invite
          connectionCbs := ⟨some temp, some temp⟩ }
    calls := s.calls + 1 }

/-
  `mlOpenConnection`.  The first component of the result is
  what it returns, and `call` is the call of the callback.
-/
def mlOpenConnection
    (call : CallbackNode → CallResult)
    (s : CallbackNode)
    (externalSocketID : Option SocketID)
    (connectionCb : Option Nat)
    (arg : Nat)
    (body : CallbackBody) :
    Except CallFault
      (Int × CallbackNode × List CallOutput) :=
  match externalSocketID with
  | none => .ok (-1, s, [])
  | some peer =>
      if s.natTraversal = false then
        .ok (-1, s, [])
      else
        match connectionCb with
        | none => .ok (-1, s, [])
        | some connectionCb =>
            let cb : WaitingCb :=
              ⟨connectionCb, arg, s.calls, body⟩
            match s.connectionOf p peer with
            | some (conId, con) =>
                if con.status = .ready then
                  match call
                      { s with calls := s.calls + 1 } with
                  | .error fault => .error fault
                  | .ok (s', outputs) =>
                      .ok ((conId : Nat), s',
                        (.atOnce, cb.registration conId) ::
                          outputs)
                else
                  match s.addWaiting malloc conId con cb with
                  | .error fault => .error fault
                  | .ok s' => .ok ((conId : Nat), s', [])
            | none =>
                match s.connectbuf.firstFree? with
                | none => .ok (-1, s, [])
                | some conId =>
                    .ok ((conId : Nat),
                      s.addEntry malloc conId peer cb, [])

/-
  `mlSendData` reads the entry; `send_msg` changes neither a
  status nor a list.
-/
def mlSendData
    (s : CallbackNode)
    (connectionID : Int) : CallResult :=
  if connectionID < 0 then
    .ok (s, [])
  else
    match s.entryAt connectionID with
    | .error fault => .error fault
    | .ok _ => .ok (s, [])

end CallbackNode

/-
  A call of `mlOpenConnection` that returned an id has
  accepted its callback.
-/
def acceptance
    (number : Nat)
    (conId : Int)
    (connectionCb : Option Nat)
    (arg : Nat) : List CallOutput :=
  match SlotTable.index? connectbufSize conId,
      connectionCb with
  | some conId, some connectionCb =>
      [(.accepted, ⟨number, conId, connectionCb, arg⟩)]
  | _, _ => []

/- A call of `mlOpenConnection`, with what it accepted. -/
def CallbackNode.openConnection
    (p : Platform)
    (malloc : Malloc)
    (call : CallbackNode → CallResult)
    (s : CallbackNode)
    (externalSocketID : Option SocketID)
    (connectionCb : Option Nat)
    (arg : Nat)
    (body : CallbackBody) : CallResult :=
  match s.mlOpenConnection p malloc call externalSocketID
      connectionCb arg body with
  | .error fault => .error fault
  | .ok (conId, s', outputs) =>
      .ok (s',
        outputs ++ acceptance s.calls conId connectionCb arg)

/- Make the calls of a callback. -/
def CallbackBody.perform
    (p : Platform)
    (malloc : Malloc) :
    CallbackBody → CallbackNode → CallResult
| .done, s => .ok (s, [])
| .openConnection externalSocketID connectionCb arg body
    rest, s =>
    CallResult.andThen
      (s.openConnection p malloc
        (fun s' => body.perform p malloc s')
        externalSocketID connectionCb arg body)
      (fun s' => rest.perform p malloc s')
| .sendData connectionID rest, s =>
    CallResult.andThen (s.mlSendData connectionID)
      (fun s' => rest.perform p malloc s')

namespace CallbackNode

variable (p : Platform)
variable (malloc : Malloc)

/- Call a function pointer that may be `NULL`. -/
def callIfSet
    (s : CallbackNode)
    (cb : Option CallbackBody) : CallResult :=
  match cb with
  | none => .ok (s, [])
  | some body => body.perform p malloc s

------------------------------------------------------------
-- Becoming Ready
------------------------------------------------------------

/- Free the first node; its `next` pointer is the new head. -/
def freeFirst
    (s : CallbackNode)
    (conId : ConId)
    (con : CallbackEntry)
    (temp : Nat)
    (cell : LinkedQueue.Cell WaitingCb) : CallbackNode :=
  { s with
    heap := s.heap.erase temp
    connectbuf :=
      s.connectbuf.set conId
        { con with
          connectionCbs :=
            { con.connectionCbs with head := cell.next } } }

/-
  The loop that calls all registered callbacks.  A node is
  read again after its callback was called, and freed then.
-/
def callWaiting :
    Nat → CallbackNode → ConId → CallResult
| fuel, s, conId =>
    match s.connectbuf conId with
    | none => .error .badPointer
    | some con =>
        match con.connectionCbs.head with
        | none =>
            .ok
              (s.setEntry conId
                { con with
                  connectionCbs := LinkedQueue.Queue.empty },
                [])
        | some temp =>
            match fuel, s.heap.lookup temp with
            | 0, _ => .error .noReturn
            | _, none => .error .badPointer
            | fuel + 1, some cell =>
                CallResult.andThen
                  (CallResult.andThen
                    (.ok (s,
                      [(.later,
                        cell.value.registration conId)]))
                    (cell.value.body.perform p malloc))
                  (fun s' =>
                    match s'.heap.lookup temp,
                        s'.connectbuf conId with
                    | some cell', some con' =>
                        callWaiting fuel
                          (s'.freeFirst conId con' temp
                            cell')
                          conId
                    | _, _ => .error .badPointer)

/-
  An entry becomes ready: `receive_Connection_cb` is called,
  and then the callbacks of the list.  No list is longer than
  there are nodes.
-/
def becomeReady
    (s : CallbackNode)
    (conId : ConId)
    (con : CallbackEntry)
    (receiveConnectionCb : Option CallbackBody) :
    CallResult :=
  CallResult.andThen
    ((s.setEntry conId
      { con with status := .ready }).callIfSet p malloc
      receiveConnectionCb)
    (fun s' =>
      s'.callWaiting p malloc s'.heap.entries.length conId)

------------------------------------------------------------
-- Connection Messages
------------------------------------------------------------

/- `INVITE`: the status of the entry may go back. -/
def recvInvite
    (s : CallbackNode)
    (sockId : SocketID) : CallbackNode :=
  match s.connectionOf p sockId with
  | some (conId, con) =>
      s.setEntry conId { con with status := .connect }
  | none =>
      match s.connectbuf.firstFree? with
      | none => s
      | some conId =>
          s.setEntry conId
            { externalSocketID := sockId
              status := .connect
              connectionCbs := LinkedQueue.Queue.empty }

/-
  `CONNECT` when the status is `INVITE`, and `READY` when it
  is `CONNECT`: the two handlers differ in nothing else here.
-/
def recvAnswer
    (s : CallbackNode)
    (expected : ConMsgType)
    (remoteConId : Int)
    (receiveConnectionCb : Option CallbackBody) :
    CallResult :=
  match s.entryAt remoteConId with
  | .error fault => .error fault
  | .ok (_, none) => .ok (s, [])
  | .ok (conId, some con) =>
      if con.status = expected then
        s.becomeReady p malloc conId con receiveConnectionCb
      else
        .ok (s, [])

/-
  `recv_conn_msg`, for a message that passes its tests: the
  command, the peer it names, the id it is sent to, and what
  `receive_Connection_cb` does if it is called.
-/
def recvConnMsg
    (s : CallbackNode)
    (command : ConMsgType)
    (sockId : SocketID)
    (remoteConId : Int)
    (receiveConnectionCb : Option CallbackBody) :
    CallResult :=
  match command with
  | .invite => .ok (s.recvInvite p sockId, [])
  | .connect =>
      s.recvAnswer p malloc .invite remoteConId
        receiveConnectionCb
  | .ready =>
      s.recvAnswer p malloc .connect remoteConId
        receiveConnectionCb

------------------------------------------------------------
-- Closing
------------------------------------------------------------

/- The loop that frees the list of an entry. -/
def freeWaiting :
    Nat → CallbackNode → ConId → CallResult
| fuel, s, conId =>
    match s.connectbuf conId with
    | none => .error .badPointer
    | some con =>
        match con.connectionCbs.head with
        | none => .ok (s, [])
        | some temp =>
            match fuel, s.heap.lookup temp with
            | 0, _ => .error .noReturn
            | _, none => .error .badPointer
            | fuel + 1, some cell =>
                CallResult.andThen
                  (.ok (s.freeFirst conId con temp cell,
                    [(.dropped,
                      cell.value.registration conId)]))
                  (fun s' => freeWaiting fuel s' conId)

/- `mlCloseConnection`. -/
def mlCloseConnection
    (s : CallbackNode)
    (connectionID : Int) : CallResult :=
  match s.entryAt connectionID with
  | .error fault => .error fault
  | .ok (_, none) => .ok (s, [])
  | .ok (conId, some _) =>
      CallResult.andThen
        (s.freeWaiting s.heap.entries.length conId)
        (fun s' =>
          .ok
            ({ s' with connectbuf := s'.connectbuf.free conId },
              []))

/-
  `pmtu_timeout_cb`.  Whether the last size has failed too,
  so that it gives up, is an input.
-/
def pmtuTimeoutCb
    (s : CallbackNode)
    (conId : ConId)
    (givesUp : Bool)
    (failedConnectionCb : Option CallbackBody) :
    CallResult :=
  match s.connectbuf conId with
  | none => .ok (s, [])
  | some con =>
      if con.status = .ready ∨ givesUp = false then
        .ok (s, [])
      else
        CallResult.andThen
          (s.callIfSet p malloc failedConnectionCb)
          (fun s' => s'.mlCloseConnection (conId : Nat))

end CallbackNode

------------------------------------------------------------
-- Events
------------------------------------------------------------

/- What can happen to the callbacks, in any order. -/
inductive CallbackEvent where
  | receiveSocketID
  | openConnection
      (externalSocketID : Option SocketID)
      (connectionCb : Option Nat)
      (arg : Nat)
      (body : CallbackBody)
  | closeConnection (connectionID : Int)
  | connMsg
      (command : ConMsgType)
      (sockId : SocketID)
      (remoteConId : Int)
      (receiveConnectionCb : Option CallbackBody)
  | pmtuTimeout
      (conId : ConId)
      (givesUp : Bool)
      (failedConnectionCb : Option CallbackBody)

namespace CallbackNode

variable (p : Platform)
variable (malloc : Malloc)

/- One event. -/
def exec
    (s : CallbackNode)
    (event : CallbackEvent) : CallResult :=
  match event with
  | .receiveSocketID =>
      .ok ({ s with natTraversal := true }, [])
  | .openConnection externalSocketID connectionCb arg body =>
      s.openConnection p malloc (body.perform p malloc)
        externalSocketID connectionCb arg body
  | .closeConnection connectionID =>
      s.mlCloseConnection connectionID
  | .connMsg command sockId remoteConId
      receiveConnectionCb =>
      s.recvConnMsg p malloc command sockId remoteConId
        receiveConnectionCb
  | .pmtuTimeout conId givesUp failedConnectionCb =>
      s.pmtuTimeoutCb p malloc conId givesUp
        failedConnectionCb

/- The events as steps, with what happened to callbacks. -/
def Step
    (s : CallbackNode)
    (event : CallbackEvent)
    (outputs : List CallOutput)
    (s' : CallbackNode) : Prop :=
  s.exec p malloc event = .ok (s', outputs)

end CallbackNode

end ML

end NapaBaselibs
