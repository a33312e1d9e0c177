import NapaBaselibs.Lib.SlotTable
import NapaBaselibs.ML.SocketID

/-
  The state of one messaging-layer node: the globals of
  `ml.c`, what a step of the node can output, and the ways in
  which the C program can leave its defined behaviour.

  The output queue is behind `Transport`: its state and what
  it answers are parameters, so that the connection and
  reassembly code is independent of the rate limiter.

  Key definitions include:
    * `ConnectData`, `RecvData`
    * `Packet`, `Delivery`, `Output`, `Fault`
    * `Transport`, `Endpoint`, `StepResult`
-/

------------------------------------------------------------
-- Packets
------------------------------------------------------------

namespace NapaBaselibs

namespace ML

/-
  The four parts of a packet as `send_msg` assembles them,
  with the address and the priority it is queued with.
-/
structure Packet where
  header : MsgHeader
  monPktHdr : List UInt8
  monDataHdr : List UInt8
  payload : List UInt8
  addr : SockaddrStorage
  priority : UInt8
deriving DecidableEq

/- The datagram that carries a packet. -/
def Packet.datagram (pkt : Packet) : List UInt8 :=
  pkt.header.encode ++ pkt.monPktHdr ++ pkt.monDataHdr ++
    pkt.payload

/- The size of a packet in the output queue. -/
def Packet.pktLen (pkt : Packet) : Nat :=
  pkt.datagram.length

/- A header supplied by the monitoring module. -/
structure MonHeader where
  bytes : List UInt8
  length_le : bytes.length ≤ monHeaderSpace
deriving DecidableEq

namespace MonHeader

/- The length of a monitoring header. -/
abbrev length (header : MonHeader) : Nat :=
  header.bytes.length

/- No monitoring header. -/
def none : MonHeader where
  bytes := []
  length_le := Nat.zero_le _

end MonHeader

------------------------------------------------------------
-- Connections
------------------------------------------------------------

/- An index of `connectbuf`. -/
abbrev ConId := Fin connectbufSize

/- An index of `recvdatabuf`. -/
abbrev RecvId := Fin recvdatabufSize

/- A `receive_connection_cb` with the argument it was given. -/
structure ConnectionCb where
  connectionCb : Nat
  arg : Nat
deriving DecidableEq, Repr

/-
  `connect_data`.  The list of waiting callbacks stands for
  `connection_head` and `connection_last`; `timeoutEvent`
  says whether the event pointer is set.
-/
structure ConnectData where
  externalSocketID : SocketID
  externalConnectionID : Int32
  pmtusize : Int
  delay : Bool
  trials : Int
  ctrlMsgBuf : Option (List UInt8)
  status : ConMsgType
  seqnr : UInt32
  timeoutEvent : Bool
  internalConnect : Bool
  connectionCbs : List ConnectionCb
  keepalive : Int
  keepaliveSeq : UInt32
deriving DecidableEq

/- The address that packets of a connection are sent to. -/
def ConnectData.udpAddr
    (con : ConnectData) : SockaddrStorage :=
  if con.internalConnect then
    con.externalSocketID.internalAddr
  else
    con.externalSocketID.externalAddr

------------------------------------------------------------
-- Reception Slots
------------------------------------------------------------

/- `struct gap`. -/
structure Gap where
  offsetFrom : Nat
  offsetTo : Nat
deriving DecidableEq, Repr

/-
  `recvdata`.  The buffer is allocated with `bufsize` bytes,
  so its length is that field; the list of gaps has
  `gapCounter` elements.  The counters and the offsets are
  `int`s that only ever hold a size or a position, so they
  are never negative.
-/
structure RecvData where
  connectionID : ConId
  seqnr : Int32
  recvbuf : List UInt8
  status : RecvbufStatus
  msgtype : UInt8
  firstPacketArrived : Bool
  recvFragments : Nat
  arrivedBytes : Nat
  monitoringDataHeaderLen : Nat
  timeoutEvent : Bool
  lastPktTimeoutEvent : Bool
  txConnectionID : Int32
  expectedOffset : Nat
  gapArray : List Gap
deriving DecidableEq, Repr

namespace RecvData

/- `bufsize`: the size of the allocated buffer. -/
def bufsize (slot : RecvData) : Nat :=
  slot.recvbuf.length

/- `gapCounter`: the number of gaps recorded. -/
def gapCounter (slot : RecvData) : Nat :=
  slot.gapArray.length

/- The part of the buffer after the monitoring header. -/
def message (slot : RecvData) : List UInt8 :=
  slot.recvbuf.drop slot.monitoringDataHeaderLen

end RecvData

------------------------------------------------------------
-- Outputs
------------------------------------------------------------

/- What a registered `receive_data_cb` is called with. -/
structure Delivery where
  buffer : List UInt8
  msgtype : UInt8
  nrMissingBytes : Int
  recvFragments : Nat
  connectionID : ConId
  firstPacketArrived : Bool
  remoteSocketID : SocketID
deriving DecidableEq

/- `struct pkt_recv_timeout_cb_arg`. -/
structure PktRecvTimeoutArg where
  recvId : RecvId
  seqnr : Int32
  gap : Nat
  retry : Int
deriving DecidableEq, Repr

/- What a step of a node lets the outside see. -/
inductive Output where
  | packet (pkt : Packet) (result : ErrorCode)
  | retransmit (pkt : Packet)
  | recvData (delivery : Delivery)
  | receiveConnection (conId : ConId)
  | connectionCb (cb : ConnectionCb) (conId : ConId)
  | failedConnection (conId : ConId)
  | receiveSocketID (socketID : SocketID)
  | sendRefused (connectionID : Int)
  | pktRecvTimer (arg : PktRecvTimeoutArg)
  | keepaliveTimer (peer : SocketID)
deriving DecidableEq

namespace Output

/- The packet handed to the output queue, if any. -/
def packet? : Output → Option Packet
| packet pkt _ => some pkt
| _ => none

/- The answer of the output queue, if the output has one. -/
def answer? : Output → Option ErrorCode
| packet _ answer => some answer
| _ => none

/- The packet accepted by the output queue, if any. -/
def accepted? : Output → Option Packet
| packet pkt .ok => some pkt
| _ => none

/- The call of a data callback, if the output is one. -/
def delivery? : Output → Option Delivery
| recvData delivery => some delivery
| _ => none

/- The packet retransmitted, if the output is one. -/
def retransmitted? : Output → Option Packet
| retransmit pkt => some pkt
| _ => none

/-
  An output that calls no callback of the application about a
  connection or a message.
-/
def IsQuiet : Output → Prop
| packet .. | retransmit _ | receiveSocketID _
| sendRefused _ | pktRecvTimer _ | keepaliveTimer _ => True
| recvData _ | receiveConnection _ | connectionCb ..
| failedConnection _ => False

end Output

/- None of the outputs calls such a callback. -/
def Quiet (outputs : List Output) : Prop :=
  ∀ output ∈ outputs, output.IsQuiet

theorem quiet_nil : Quiet [] :=
  fun _ hMem => absurd hMem List.not_mem_nil

theorem quiet_append
    {first second : List Output}
    (hFirst : Quiet first)
    (hSecond : Quiet second) :
    Quiet (first ++ second) := by
  intro output hMem
  rcases List.mem_append.mp hMem with hIn | hIn
  · exact hFirst output hIn
  · exact hSecond output hIn

/- The packets a step handed to the output queue. -/
def packets (outputs : List Output) : List Packet :=
  outputs.filterMap Output.packet?

/- The packets the output queue accepted in a step. -/
def accepted (outputs : List Output) : List Packet :=
  outputs.filterMap Output.accepted?

/- The data callbacks called in a step. -/
def deliveries (outputs : List Output) : List Delivery :=
  outputs.filterMap Output.delivery?

/- The packets retransmitted in a step. -/
def retransmissions (outputs : List Output) : List Packet :=
  outputs.filterMap Output.retransmitted?

/- The answers of the output queue in a step. -/
def answers (outputs : List Output) : List ErrorCode :=
  outputs.filterMap Output.answer?

theorem mem_packets_iff
    {outputs : List Output}
    {pkt : Packet} :
    pkt ∈ packets outputs ↔
      ∃ answer, Output.packet pkt answer ∈ outputs := by
  unfold packets
  rw [List.mem_filterMap]
  constructor
  · rintro ⟨output, hMem, hPkt⟩
    cases output with
    | packet other answer =>
        cases hPkt
        exact ⟨answer, hMem⟩
    | _ => cases hPkt
  · rintro ⟨answer, hMem⟩
    exact ⟨.packet pkt answer, hMem, rfl⟩

section Projections

variable (first second : List Output)

@[simp] theorem packets_append :
    packets (first ++ second) =
      packets first ++ packets second :=
  List.filterMap_append

@[simp] theorem packets_nil : packets [] = [] := rfl

@[simp] theorem accepted_append :
    accepted (first ++ second) =
      accepted first ++ accepted second :=
  List.filterMap_append

@[simp] theorem answers_append :
    answers (first ++ second) =
      answers first ++ answers second :=
  List.filterMap_append

@[simp] theorem deliveries_append :
    deliveries (first ++ second) =
      deliveries first ++ deliveries second :=
  List.filterMap_append

@[simp] theorem accepted_nil : accepted [] = [] := rfl

@[simp] theorem answers_nil : answers [] = [] := rfl

@[simp] theorem deliveries_nil : deliveries [] = [] := rfl

@[simp] theorem accepted_cons_ok (pkt : Packet) :
    accepted (.packet pkt .ok :: first) =
      pkt :: accepted first := rfl

@[simp] theorem answers_cons_packet
    (pkt : Packet)
    (answer : ErrorCode) :
    answers (.packet pkt answer :: first) =
      answer :: answers first := rfl

@[simp] theorem deliveries_cons_recvData
    (delivery : Delivery) :
    deliveries (.recvData delivery :: first) =
      delivery :: deliveries first := rfl

/- A packet with another answer is not accepted. -/
theorem accepted_singleton_of_ne
    (pkt : Packet)
    {answer : ErrorCode}
    (hNot : answer ≠ .ok) :
    accepted [.packet pkt answer] = [] := by
  cases answer with
  | ok => exact absurd rfl hNot
  | msglen => rfl
  | failure => rfl
  | throttle => rfl

end Projections

/- Quiet outputs deliver nothing. -/
theorem deliveries_of_quiet
    {outputs : List Output}
    (hQuiet : Quiet outputs) :
    deliveries outputs = [] := by
  unfold deliveries
  rw [List.filterMap_eq_nil_iff]
  intro output hMem
  have hIs := hQuiet output hMem
  cases output with
  | recvData delivery => exact absurd hIs id
  | packet _ _ => rfl
  | retransmit _ => rfl
  | receiveConnection _ => rfl
  | connectionCb _ _ => rfl
  | failedConnection _ => rfl
  | receiveSocketID _ => rfl
  | sendRefused _ => rfl
  | pktRecvTimer _ => rfl
  | keepaliveTimer _ => rfl

------------------------------------------------------------
-- Faults
------------------------------------------------------------

/-
  Why a step has no next state: a read or a copy outside the
  object it is meant for, or another operation that C leaves
  undefined.  The last constructor says that the answers
  supplied by the environment ended before the step did.
-/
inductive Fault where
  | connectbufIndex (i : Int)
  | recvdatabufIndex (i : Int)
  | recvcbbufIndex (i : Int)
  | nullConnection (i : ConId)
  | copyRead
  | copyWrite
  | intOverflow
  | nullBuffer
  | packetLength
  | noReturn
  | inputEnd
deriving DecidableEq, Repr

namespace Fault

/- A table read outside its bounds, or a NULL entry used. -/
def IsTable : Fault → Prop
| connectbufIndex _ | recvdatabufIndex _
| recvcbbufIndex _ | nullConnection _ => True
| _ => False

/- What sending over a live connection can run into. -/
def IsSend : Fault → Prop
| nullBuffer | packetLength | noReturn | inputEnd => True
| _ => False

/- A copy of reassembly outside the datagram or the buffer. -/
def IsCopy : Fault → Prop
| copyRead | copyWrite => True
| _ => False

instance : DecidablePred IsTable := by
  intro fault
  cases fault <;> unfold IsTable <;> infer_instance

instance : DecidablePred IsCopy := by
  intro fault
  cases fault <;> unfold IsCopy <;> infer_instance

/- The computation ends in a fault of the given kind. -/
def FailsWith
    {β : Type}
    (kind : Fault → Prop) : Except Fault β → Prop
| .error fault => kind fault
| .ok _ => False

@[simp] theorem failsWith_error
    {β : Type}
    {kind : Fault → Prop}
    {fault : Fault} :
    FailsWith kind (.error fault : Except Fault β) ↔
      kind fault :=
  Iff.rfl

@[simp] theorem not_failsWith_ok
    {β : Type}
    {kind : Fault → Prop}
    {result : β} :
    ¬ FailsWith kind (.ok result) :=
  id

/- Another kind of fault than the one it can end in. -/
theorem not_failsWith_of_error
    {β : Type}
    {kind : Fault → Prop}
    {result : Except Fault β}
    (hError :
      ∀ fault, result = .error fault → ¬ kind fault) :
    ¬ FailsWith kind result := by
  cases result with
  | ok result => exact not_failsWith_ok
  | error fault => exact hError fault rfl

theorem IsSend.not_isTable
    {fault : Fault}
    (hSend : fault.IsSend) :
    ¬ fault.IsTable := by
  cases fault <;> simp_all [IsSend, IsTable]

theorem IsSend.not_isCopy
    {fault : Fault}
    (hSend : fault.IsSend) :
    ¬ fault.IsCopy := by
  cases fault <;> simp_all [IsSend, IsCopy]

end Fault

------------------------------------------------------------
-- The Node
------------------------------------------------------------

/-
  The output queue as `ml.c` uses it.  `σ` is its state and
  `α` what the environment supplies to one call (the clock
  and the result of the socket call).  Both functions have
  loops, so a call need not return.
-/
structure Transport (σ α : Type) where
  queueOrSendPacket :
    α → Packet → σ → Option (ErrorCode × σ)
  rtxPacketsFromTo :
    Int32 → Int32 → Int32 → Int32 → σ →
      Option (List Packet)

/- The globals of `ml.c` that the modelled functions use. -/
structure Endpoint (σ : Type) where
  connectbuf : SlotTable connectbufSize ConnectData
  recvdatabuf : SlotTable recvdatabufSize RecvData
  recvcbbuf : Fin msgMultiplexSize → Bool
  recvDataCallback : Bool
  natTraversal : Bool
  localSocketID : SocketID
  receiveConnectionCb : Bool
  failedConnectionCb : Bool
  getRecvPktInfCb : Bool
  net : σ

/- The result of a step: the next state and the outputs. -/
abbrev StepResult (σ : Type) :=
  Except Fault (Endpoint σ × List Output)

namespace Endpoint

variable {σ : Type}

/- Store a connection. -/
def setCon
    (s : Endpoint σ)
    (i : ConId)
    (con : ConnectData) : Endpoint σ :=
  { s with connectbuf := s.connectbuf.set i con }

/- Store a reception slot. -/
def setSlot
    (s : Endpoint σ)
    (r : RecvId)
    (slot : RecvData) : Endpoint σ :=
  { s with recvdatabuf := s.recvdatabuf.set r slot }

/- Store a connection and the state of the output queue. -/
def setConNet
    (s : Endpoint σ)
    (i : ConId)
    (con : ConnectData)
    (net : σ) : Endpoint σ :=
  { s with
    connectbuf := s.connectbuf.set i con
    net := net }

@[simp] theorem setCon_setConNet
    (s : Endpoint σ)
    (i : ConId)
    (first second : ConnectData)
    (net : σ) :
    (s.setCon i first).setConNet i second net =
      s.setConNet i second net := by
  simp [setCon, setConNet]

@[simp] theorem setCon_setCon
    (s : Endpoint σ)
    (i : ConId)
    (first second : ConnectData) :
    (s.setCon i first).setCon i second =
      s.setCon i second := by
  simp [setCon]

@[simp] theorem setConNet_setCon
    (s : Endpoint σ)
    (i : ConId)
    (first second : ConnectData)
    (net : σ) :
    (s.setConNet i first net).setCon i second =
      s.setConNet i second net := by
  simp [setCon, setConNet]

@[simp] theorem setConNet_setConNet
    (s : Endpoint σ)
    (i : ConId)
    (first second : ConnectData)
    (net net' : σ) :
    (s.setConNet i first net).setConNet i second net' =
      s.setConNet i second net' := by
  simp [setConNet]

/- Storing what is there already changes nothing. -/
theorem setConNet_eq_self
    {s : Endpoint σ}
    {i : ConId}
    {con : ConnectData}
    (hCon : s.connectbuf i = some con) :
    s.setConNet i con s.net = s := by
  unfold setConNet
  rw [SlotTable.set_eq_self hCon]

@[simp] theorem setConNet_connectbuf
    (s : Endpoint σ)
    (i : ConId)
    (con : ConnectData)
    (net : σ) :
    (s.setConNet i con net).connectbuf =
      s.connectbuf.set i con := rfl

@[simp] theorem setConNet_recvdatabuf
    (s : Endpoint σ)
    (i : ConId)
    (con : ConnectData)
    (net : σ) :
    (s.setConNet i con net).recvdatabuf =
      s.recvdatabuf := rfl

@[simp] theorem setCon_recvdatabuf
    (s : Endpoint σ)
    (i : ConId)
    (con : ConnectData) :
    (s.setCon i con).recvdatabuf = s.recvdatabuf := rfl

@[simp] theorem setCon_connectbuf
    (s : Endpoint σ)
    (i : ConId)
    (con : ConnectData) :
    (s.setCon i con).connectbuf =
      s.connectbuf.set i con := rfl

@[simp] theorem setSlot_connectbuf
    (s : Endpoint σ)
    (r : RecvId)
    (slot : RecvData) :
    (s.setSlot r slot).connectbuf = s.connectbuf := rfl

@[simp] theorem setSlot_recvdatabuf
    (s : Endpoint σ)
    (r : RecvId)
    (slot : RecvData) :
    (s.setSlot r slot).recvdatabuf =
      s.recvdatabuf.set r slot := rfl

end Endpoint

/- Read an index of `connectbuf`, as C does without a check. -/
def connectbufAt (i : Int) : Except Fault ConId :=
  match SlotTable.index? connectbufSize i with
  | some k => .ok k
  | none => .error (.connectbufIndex i)

/- An index that was read denotes itself. -/
theorem eq_of_connectbufAt
    {i : Int}
    {conId : ConId}
    (hIndex : connectbufAt i = .ok conId) :
    i = (conId : Nat) := by
  unfold connectbufAt at hIndex
  split at hIndex
  · rename_i k hSome
    cases hIndex
    exact SlotTable.index?_eq_some_iff.mp hSome
  · cases hIndex

/- An index of the table can be read. -/
theorem connectbufAt_natCast
    {i : Int}
    {conId : ConId}
    (hId : i = (conId : Nat)) :
    connectbufAt i = .ok conId := by
  unfold connectbufAt
  rw [hId, SlotTable.index?_natCast]

/- An index that is not read is outside of the table. -/
theorem connectbufAt_error
    {i : Int}
    {fault : Fault}
    (hIndex : connectbufAt i = .error fault) :
    fault = .connectbufIndex i := by
  unfold connectbufAt at hIndex
  split at hIndex
  · cases hIndex
  · cases hIndex
    rfl

/- The live entry of an index of `connectbuf`. -/
def derefCon
    {σ : Type}
    (s : Endpoint σ)
    (i : ConId) : Except Fault ConnectData :=
  match s.connectbuf i with
  | some con => .ok con
  | none => .error (.nullConnection i)

end ML

end NapaBaselibs
