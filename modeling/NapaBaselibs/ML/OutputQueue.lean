import NapaBaselibs.Lib.LinkedQueue
import NapaBaselibs.ML.State

/-
  `queueManagement.c`: the queue of packets that wait to be
  sent, and the queue of packets that were sent and are kept
  for retransmission.

  Both queues are linked lists in one heap, and the functions
  follow the pointers of the source.  What `malloc` and
  `gettimeofday` answer is an input.  Sizes are `int`s, and
  an addition that does not fit in one is a fault.

  Key definitions include:
    * `PacketContainer`, `OutputQueue`, `QueueFault`
    * `addPacketTXqueue`, `takePacketToSend`
    * `addPacketRTXqueue`, `removeOldestPacket`
    * `searchPacketInRTX`, `rtxPacketsFromTo`
    * `OutputQueue.Holds`, `OutputQueue.Loose`

  Key theorems include:
    * `createPacketContainer_spec`
    * `addPacketTXqueue_spec`
    * `takePacketToSend_spec`
    * `addPacketRTXqueue_spec`
-/

------------------------------------------------------------
-- Containers And Queues
------------------------------------------------------------

namespace NapaBaselibs

namespace ML

/- `struct timeval`. -/
structure Timeval where
  tvSec : Int
  tvUsec : Int
deriving DecidableEq, Repr

/-
  `PacketContainer` without its `next` pointer, which is in
  the cell.  The time stamp has a meaning only in the queue
  for retransmission.
-/
structure PacketContainer where
  packet : Packet
  pktLen : Int
  timeStamp : Timeval

/- What `setQueuesParams` sets. -/
structure QueueParams where
  txMaxSize : Int
  rtxMaxSize : Int
  maxTimeToHold : Timeval
deriving DecidableEq, Repr

/- The globals of `queueManagement.c`. -/
structure OutputQueue where
  heap : LinkedQueue.Heap PacketContainer
  txQueue : LinkedQueue.Queue
  txSize : Int
  rtxQueue : LinkedQueue.Queue
  rtxSize : Int
  params : QueueParams

/-
  Why a call on the queues has no result: a pointer to no
  container, an address that `malloc` cannot answer, an
  `int` that does not fit, an event planned without a rate, a
  loop that does not end, or the end of the inputs supplied.
-/
inductive QueueFault where
  | badPointer
  | inUse
  | packetLength
  | intOverflow
  | noRate
  | noReturn
  | inputEnd
deriving DecidableEq, Repr

/- The queues at the start of the program. -/
def OutputQueue.initial (params : QueueParams) :
    OutputQueue where
  heap := ∅
  txQueue := LinkedQueue.Queue.empty
  txSize := 0
  rtxQueue := LinkedQueue.Queue.empty
  rtxSize := 0
  params := params

/- The sum of two `int`s. -/
def addInt (a b : Int) : Except QueueFault Int :=
  if -2 ^ 31 ≤ a + b ∧ a + b < 2 ^ 31 then
    .ok (a + b)
  else
    .error .intOverflow

/- Read through a pointer. -/
def deref
    (q : OutputQueue)
    (address : Nat) :
    Except QueueFault (LinkedQueue.Cell PacketContainer) :=
  match q.heap.lookup address with
  | some cell => .ok cell
  | none => .error .badPointer

------------------------------------------------------------
-- Containers
------------------------------------------------------------

/- `createPacketContainer`, with the answer of `malloc`. -/
def createPacketContainer
    (address : Nat)
    (pkt : Packet)
    (q : OutputQueue) : Except QueueFault OutputQueue :=
  if 2 ^ 31 ≤ pkt.pktLen then
    .error .packetLength
  else if (q.heap.lookup address).isSome then
    .error .inUse
  else
    .ok
      { q with
        heap :=
          q.heap.insert address
            { value :=
                { packet := pkt
                  pktLen := pkt.pktLen
                  timeStamp := ⟨0, 0⟩ }
              next := none } }

/- `destroyPacketContainer` of a container. -/
def destroyPacketContainer
    (address : Nat)
    (q : OutputQueue) : Except QueueFault OutputQueue := do
  let _ ← deref q address
  .ok { q with heap := q.heap.erase address }

------------------------------------------------------------
-- The Queue Of Waiting Packets
------------------------------------------------------------

/- `addPacketTXqueue`. -/
def addPacketTXqueue
    (address : Nat)
    (q : OutputQueue) :
    Except QueueFault (ErrorCode × OutputQueue) := do
  let packet ← deref q address
  let size ← addInt q.txSize packet.value.pktLen
  if size > q.params.txMaxSize then
    let q' ← destroyPacketContainer address q
    .ok (.throttle, q')
  else
    match LinkedQueue.append q.heap q.txQueue address with
    | none => .error .badPointer
    | some (heap, txQueue) =>
        .ok
          (.ok,
            { q with
              heap := heap
              txQueue := txQueue
              txSize := size })

/- `takePacketToSend`. -/
def takePacketToSend
    (q : OutputQueue) :
    Except QueueFault (Option Nat × OutputQueue) :=
  match q.txQueue.head with
  | none => .ok (none, q)
  | some address => do
      let packet ← deref q address
      .ok
        (some address,
          { q with
            heap :=
              q.heap.insert address
                { packet with next := none }
            txQueue :=
              { head := packet.next
                tail :=
                  if packet.next = none then
                    none
                  else
                    q.txQueue.tail }
            txSize := q.txSize - packet.value.pktLen })

/- `isQueueEmpty`. -/
def isQueueEmpty (q : OutputQueue) : Bool :=
  q.txQueue.head.isNone

/- `getFirstPacketSize`. -/
def getFirstPacketSize
    (q : OutputQueue) : Except QueueFault Int :=
  match q.txQueue.head with
  | none => .ok 0
  | some address => do
      let packet ← deref q address
      .ok packet.value.pktLen

------------------------------------------------------------
-- The Queue For Retransmission
------------------------------------------------------------

/-
  `removeOldestPacket`, with its result.  The last pointer
  is left as it is, also when the queue becomes empty.
-/
def removeOldestPacket
    (q : OutputQueue) :
    Except QueueFault (Int × OutputQueue) :=
  match q.rtxQueue.head with
  | none => .ok (1, q)
  | some address => do
      let packet ← deref q address
      let q' ←
        destroyPacketContainer address
          { q with
            rtxQueue := { q.rtxQueue with head := packet.next }
            rtxSize := q.rtxSize - packet.value.pktLen }
      .ok (0, q')

/- The bound on the rounds of a loop through the queue. -/
def OutputQueue.fuel (q : OutputQueue) : Nat :=
  q.heap.entries.length + 1

/-
  The first loop of `addPacketRTXqueue`: the packets at the
  head that were held too long are removed.
-/
def removeExpired
    (now : Timeval) :
    Nat → OutputQueue → Except QueueFault OutputQueue
| 0, _ => .error .noReturn
| fuel + 1, q =>
    match q.rtxQueue.head with
    | none => .ok q
    | some address => do
        let packet ← deref q address
        if now.tvSec - packet.value.timeStamp.tvSec >
            q.params.maxTimeToHold.tvSec then
          let (_, q') ← removeOldestPacket q
          removeExpired now fuel q'
        else
          .ok q

/-
  The second loop of `addPacketRTXqueue`: packets at the head
  are removed until the new one fits.  With no packet left to
  remove, a round changes nothing and the loop does not end.
-/
def makeRoom
    (pktLen : Int) :
    Nat → OutputQueue → Except QueueFault OutputQueue
| 0, _ => .error .noReturn
| fuel + 1, q => do
    let size ← addInt q.rtxSize pktLen
    if size > q.params.rtxMaxSize then
      if q.rtxQueue.head.isNone then
        .error .noReturn
      else
        let (_, q') ← removeOldestPacket q
        makeRoom pktLen fuel q'
    else
      .ok q

/- `addPacketRTXqueue`, with its two readings of the clock. -/
def addPacketRTXqueue
    (now stamp : Timeval)
    (address : Nat)
    (q : OutputQueue) : Except QueueFault OutputQueue := do
  let packet ← deref q address
  let q₁ ← removeExpired now q.fuel q
  let q₂ ← makeRoom packet.value.pktLen q₁.fuel q₁
  let heap :=
    q₂.heap.insert address
      { value := { packet.value with timeStamp := stamp }
        next := none }
  let size ← addInt q₂.rtxSize packet.value.pktLen
  match LinkedQueue.append heap q₂.rtxQueue address with
  | none => .error .badPointer
  | some (heap', rtxQueue) =>
      .ok
        { q₂ with
          heap := heap'
          rtxQueue := rtxQueue
          rtxSize := size }

/- The packet a retransmission request asks for. -/
def Packet.IsAt
    (pkt : Packet)
    (connID msgSeqNum offset : Int32) : Prop :=
  pkt.header.localConId = connID ∧
    pkt.header.msgSeqNum = msgSeqNum ∧
    pkt.header.offset = offset.toUInt32

instance
    (pkt : Packet)
    (connID msgSeqNum offset : Int32) :
    Decidable (pkt.IsAt connID msgSeqNum offset) := by
  unfold Packet.IsAt
  infer_instance

/-
  Take a packet out of the queue, given the node before it.
  At the tail the source compares `prev->next` with NULL, so
  that pointer keeps its value.
-/
def unlinkPacket
    (tmp : Nat)
    (prev : Option Nat)
    (packet : LinkedQueue.Cell PacketContainer)
    (q : OutputQueue) : Except QueueFault OutputQueue :=
  let q' :=
    { q with rtxSize := q.rtxSize - packet.value.pktLen }
  if q.rtxQueue.head = some tmp then
    .ok
      { q' with
        rtxQueue := { q.rtxQueue with head := packet.next } }
  else
    match prev with
    | none => .error .badPointer
    | some before => do
        let cell ← deref q before
        if q.rtxQueue.tail = some tmp then
          .ok
            { q' with
              rtxQueue :=
                { q.rtxQueue with tail := some before } }
        else
          .ok
            { q' with
              heap :=
                q.heap.insert before
                  { cell with next := packet.next } }

/-
  The loop of `searchPacketInRTX`: the first packet from
  `tmp` on that is asked for.
-/
def searchLoop
    (connID msgSeqNum offset : Int32)
    (keep : Bool)
    (q : OutputQueue) :
    Nat → Option Nat → Option Nat →
      Except QueueFault (Option Nat × OutputQueue)
| 0, _, _ => .error .noReturn
| _ + 1, none, _ => .ok (none, q)
| fuel + 1, some tmp, prev => do
    let packet ← deref q tmp
    if packet.value.packet.IsAt connID msgSeqNum offset then
      if keep then
        .ok (some tmp, q)
      else
        let q' ← unlinkPacket tmp prev packet q
        .ok (some tmp, q')
    else
      searchLoop connID msgSeqNum offset keep q fuel
        packet.next (some tmp)

/- `searchPacketInRTX`. -/
def searchPacketInRTX
    (connID msgSeqNum offset : Int32)
    (keep : Bool)
    (q : OutputQueue) :
    Except QueueFault (Option Nat × OutputQueue) :=
  searchLoop connID msgSeqNum offset keep q q.fuel
    q.rtxQueue.head none

/-
  The loop of `rtxPacketsFromTo`.  A packet without payload
  is found again in every round.
-/
def rtxPacketsLoop
    (connID msgSeqNum : Int32)
    (offsetTo : Int)
    (q : OutputQueue) :
    Nat → Int → Except QueueFault (List Packet)
| 0, _ => .error .noReturn
| fuel + 1, offset =>
    if offset < offsetTo then do
      match ← searchPacketInRTX connID msgSeqNum
          (Int32.ofInt offset) true q with
      | (none, _) => .ok []
      | (some address, _) =>
          let packetToRTX ← deref q address
          let pkt := packetToRTX.value.packet
          if pkt.payload = [] then
            .error .noReturn
          else
            let next ← addInt offset pkt.payload.length
            let sent ←
              rtxPacketsLoop connID msgSeqNum offsetTo q fuel
                next
            .ok (pkt :: sent)
    else
      .ok []

/- `rtxPacketsFromTo`: the packets it sends again. -/
def rtxPacketsFromTo
    (connID msgSeqNum offsetFrom offsetTo : Int32)
    (q : OutputQueue) : Except QueueFault (List Packet) :=
  rtxPacketsLoop connID msgSeqNum offsetTo.toInt q q.fuel
    offsetFrom.toInt

/- `setQueuesParams`. -/
def setQueuesParams
    (params : QueueParams)
    (q : OutputQueue) : OutputQueue :=
  { q with params := params }

------------------------------------------------------------
-- What The Queues Hold
------------------------------------------------------------

/- The sum of the sizes of some containers. -/
def totalSize (nodes : List (Nat × PacketContainer)) : Int :=
  ((LinkedQueue.values nodes).map
    PacketContainer.pktLen).sum

/- The packets in some containers. -/
def packetsOf
    (nodes : List (Nat × PacketContainer)) : List Packet :=
  (LinkedQueue.values nodes).map PacketContainer.packet

section Projections

variable (node : Nat × PacketContainer)
variable (first second : List (Nat × PacketContainer))

@[simp] theorem totalSize_nil : totalSize [] = 0 := rfl

@[simp] theorem totalSize_cons :
    totalSize (node :: first) =
      node.2.pktLen + totalSize first := by
  simp [totalSize]

@[simp] theorem totalSize_append :
    totalSize (first ++ second) =
      totalSize first + totalSize second := by
  simp [totalSize]

@[simp] theorem packetsOf_nil : packetsOf [] = [] := rfl

@[simp] theorem packetsOf_cons :
    packetsOf (node :: first) =
      node.2.packet :: packetsOf first := rfl

@[simp] theorem packetsOf_append :
    packetsOf (first ++ second) =
      packetsOf first ++ packetsOf second := by
  simp [packetsOf]

end Projections

/- A container records the size of its packet. -/
def PacketContainer.WellSized
    (container : PacketContainer) : Prop :=
  container.pktLen = container.packet.pktLen

/-
  The two queues hold some containers, in separate nodes and
  with the sizes recorded.
-/
structure OutputQueue.Holds
    (q : OutputQueue)
    (tx rtx : List (Nat × PacketContainer)) : Prop where
  txHolds : LinkedQueue.Holds q.heap q.txQueue tx
  txTail : q.txQueue.tail = LinkedQueue.lastAddress tx
  txSize : q.txSize = totalSize tx
  rtxHolds : LinkedQueue.Holds q.heap q.rtxQueue rtx
  rtxSize : q.rtxSize = totalSize rtx
  apart :
    ∀ a ∈ LinkedQueue.addresses tx,
      a ∉ LinkedQueue.addresses rtx
  wellSized : ∀ node ∈ tx ++ rtx, node.2.WellSized

/- A container that is in neither queue. -/
structure OutputQueue.Loose
    (q : OutputQueue)
    (tx rtx : List (Nat × PacketContainer))
    (address : Nat)
    (container : PacketContainer) : Prop where
  cell : q.heap.lookup address = some ⟨container, none⟩
  notTx : address ∉ LinkedQueue.addresses tx
  notRtx : address ∉ LinkedQueue.addresses rtx
  wellSized : container.WellSized

/-
  A container that is in neither queue, whatever its `next`
  pointer.
-/
structure OutputQueue.Outside
    (q : OutputQueue)
    (tx rtx : List (Nat × PacketContainer))
    (address : Nat)
    (stored : LinkedQueue.Cell PacketContainer) : Prop where
  cell : q.heap.lookup address = some stored
  notTx : address ∉ LinkedQueue.addresses tx
  notRtx : address ∉ LinkedQueue.addresses rtx
  wellSized : stored.value.WellSized

theorem OutputQueue.Loose.outside
    {q : OutputQueue}
    {tx rtx : List (Nat × PacketContainer)}
    {address : Nat}
    {container : PacketContainer}
    (hLoose : q.Loose tx rtx address container) :
    q.Outside tx rtx address ⟨container, none⟩ where
  cell := hLoose.cell
  notTx := hLoose.notTx
  notRtx := hLoose.notRtx
  wellSized := hLoose.wellSized

------------------------------------------------------------
-- Reading And Storing
------------------------------------------------------------

/- A computation that goes on after a result. -/
@[simp] theorem ok_bind
    {ε β γ : Type}
    (result : β)
    (rest : β → Except ε γ) :
    ((Except.ok result : Except ε β) >>= rest) =
      rest result := rfl

/- A computation that does not go on after a fault. -/
@[simp] theorem error_bind
    {ε β γ : Type}
    (fault : ε)
    (rest : β → Except ε γ) :
    ((Except.error fault : Except ε β) >>= rest) =
      .error fault := rfl

/- A computation with a result has one in its first part. -/
theorem bind_eq_ok
    {ε β γ : Type}
    {first : Except ε β}
    {rest : β → Except ε γ}
    {result : γ}
    (hResult : (first >>= rest) = .ok result) :
    ∃ middle,
      first = .ok middle ∧ rest middle = .ok result := by
  cases first with
  | error fault => cases hResult
  | ok middle => exact ⟨middle, rfl, hResult⟩

theorem deref_eq
    {q : OutputQueue}
    {address : Nat}
    {cell : LinkedQueue.Cell PacketContainer}
    (hCell : q.heap.lookup address = some cell) :
    deref q address = .ok cell := by
  unfold deref
  rw [hCell]

/- A sum that is an `int`. -/
theorem addInt_eq
    {a b : Int}
    (hLow : -2 ^ 31 ≤ a + b)
    (hHigh : a + b < 2 ^ 31) :
    addInt a b = .ok (a + b) := by
  unfold addInt
  rw [if_pos ⟨hLow, hHigh⟩]

/- A sum that is too large for an `int`. -/
theorem addInt_eq_error
    {a b : Int}
    (hLarge : 2 ^ 31 ≤ a + b) :
    addInt a b = .error .intOverflow := by
  unfold addInt
  rw [if_neg (fun hFits => by omega)]

/- A sum of `int`s is the sum, unless it does not fit. -/
theorem addInt_cases
    (a b : Int) :
    addInt a b = .ok (a + b) ∨
      addInt a b = .error .intOverflow := by
  unfold addInt
  split
  · exact Or.inl rfl
  · exact Or.inr rfl

namespace OutputQueue

variable {q : OutputQueue}
variable {tx rtx : List (Nat × PacketContainer)}
variable {address : Nat}
variable {container : PacketContainer}

/- At the start of the program both queues are empty. -/
theorem holds_initial
    (params : QueueParams) :
    (OutputQueue.initial params).Holds [] [] where
  txHolds := LinkedQueue.Holds.empty ∅
  txTail := rfl
  txSize := rfl
  rtxHolds := LinkedQueue.Holds.empty ∅
  rtxSize := rfl
  apart := fun _ hMem => absurd hMem List.not_mem_nil
  wellSized := fun _ hMem => absurd hMem List.not_mem_nil

namespace Holds

/- The queue is empty just if it holds no container. -/
theorem isQueueEmpty_iff
    (hHolds : q.Holds tx rtx) :
    isQueueEmpty q = true ↔ tx = [] := by
  unfold isQueueEmpty
  rw [Option.isNone_iff_eq_none]
  exact hHolds.txHolds.path.start_eq_none_iff

/- The rounds of a loop through the queue are enough. -/
theorem length_lt_fuel
    (hHolds : q.Holds tx rtx) :
    rtx.length < q.fuel :=
  Nat.lt_succ_of_le
    (hHolds.rtxHolds.path.length_le hHolds.rtxHolds.nodup)

/-
  The queues hold the same when no cell of theirs has
  changed, nor their pointers and sizes.
-/
theorem frame
    {heap : LinkedQueue.Heap PacketContainer}
    (hHolds : q.Holds tx rtx)
    (hSame :
      ∀ a,
        a ∈ LinkedQueue.addresses tx ∨
            a ∈ LinkedQueue.addresses rtx →
          heap.lookup a = q.heap.lookup a) :
    OutputQueue.Holds { q with heap := heap } tx rtx where
  txHolds :=
    hHolds.txHolds.frame
      (fun a hMem => hSame a (Or.inl hMem))
  txTail := hHolds.txTail
  txSize := hHolds.txSize
  rtxHolds :=
    hHolds.rtxHolds.frame
      (fun a hMem => hSame a (Or.inr hMem))
  rtxSize := hHolds.rtxSize
  apart := hHolds.apart
  wellSized := hHolds.wellSized

/- Freeing a container outside changes neither queue. -/
theorem erase
    {cell : LinkedQueue.Cell PacketContainer}
    (hHolds : q.Holds tx rtx)
    (hOutside : q.Outside tx rtx address cell) :
    OutputQueue.Holds
      { q with heap := q.heap.erase address } tx rtx := by
  apply hHolds.frame
  intro a hMem
  apply AList.lookup_erase_ne
  rintro rfl
  rcases hMem with hTx | hRtx
  · exact hOutside.notTx hTx
  · exact hOutside.notRtx hRtx

/- The size of the first packet that waits. -/
theorem getFirstPacketSize_eq
    (hHolds : q.Holds ((address, container) :: tx) rtx) :
    getFirstPacketSize q = .ok container.pktLen := by
  rcases hHolds.txHolds.path with ⟨hHead, next, hCell, _⟩
  unfold getFirstPacketSize
  rw [hHead]
  simp only [deref_eq hCell, ok_bind]

end Holds

end OutputQueue

------------------------------------------------------------
-- What The Functions Do
------------------------------------------------------------

section Specs

variable {q : OutputQueue}
variable {tx rtx : List (Nat × PacketContainer)}
variable {address : Nat}
variable {container : PacketContainer}

/- A new container is in neither queue. -/
theorem createPacketContainer_spec
    {pkt : Packet}
    {q' : OutputQueue}
    (hHolds : q.Holds tx rtx)
    (hCreate :
      createPacketContainer address pkt q = .ok q') :
    q'.Holds tx rtx ∧ q'.params = q.params ∧
      ∃ created : PacketContainer,
        created.packet = pkt ∧
          q'.Loose tx rtx address created := by
  unfold createPacketContainer at hCreate
  split at hCreate
  · cases hCreate
  · split at hCreate
    · cases hCreate
    · rename_i hFree
      cases hCreate
      have hNone : q.heap.lookup address = none := by
        simpa using hFree
      have hNotTx :=
        hHolds.txHolds.path.not_mem_of_lookup_eq_none hNone
      have hNotRtx :=
        hHolds.rtxHolds.path.not_mem_of_lookup_eq_none hNone
      refine ⟨?_, rfl, ⟨pkt, pkt.pktLen, ⟨0, 0⟩⟩, rfl, ?_⟩
      · apply hHolds.frame
        intro a hMem
        apply AList.lookup_insert_ne
        rintro rfl
        rcases hMem with hTx | hRtx
        · exact hNotTx hTx
        · exact hNotRtx hRtx
      · exact
          { cell := AList.lookup_insert q.heap
            notTx := hNotTx
            notRtx := hNotRtx
            wellSized := rfl }

/- Freeing a container outside of the queues. -/
theorem destroyPacketContainer_spec
    {cell : LinkedQueue.Cell PacketContainer}
    (hHolds : q.Holds tx rtx)
    (hOutside : q.Outside tx rtx address cell) :
    ∃ q' : OutputQueue,
      destroyPacketContainer address q = .ok q' ∧
        q'.Holds tx rtx ∧ q'.params = q.params := by
  refine
    ⟨{ q with heap := q.heap.erase address }, ?_,
      hHolds.erase hOutside, rfl⟩
  unfold destroyPacketContainer
  simp only [deref_eq hOutside.cell, ok_bind]

/- Sizes of packets are not negative. -/
theorem totalSize_nonneg
    {nodes : List (Nat × PacketContainer)}
    (hSized : ∀ node ∈ nodes, node.2.WellSized) :
    0 ≤ totalSize nodes := by
  induction nodes with
  | nil => exact Int.le_refl 0
  | cons node nodes ih =>
      have hHead : 0 ≤ node.2.pktLen := by
        rw [hSized node List.mem_cons_self]
        exact Int.natCast_nonneg _
      have hRest :=
        ih (fun other hMem =>
          hSized other (List.mem_cons_of_mem _ hMem))
      rw [totalSize_cons]
      omega

/- The size a container records is not negative. -/
theorem PacketContainer.WellSized.nonneg
    (hSized : container.WellSized) :
    0 ≤ container.pktLen := by
  rw [hSized]
  exact Int.natCast_nonneg _

/-
  A container handed to the queue of waiting packets is
  discarded if it does not fit, and else is the last one.
  Only a sum that is no `int` prevents both.
-/
theorem addPacketTXqueue_spec
    (hHolds : q.Holds tx rtx)
    (hLoose : q.Loose tx rtx address container) :
    addPacketTXqueue address q = .error .intOverflow ∧
        2 ^ 31 ≤ q.txSize + container.pktLen ∨
      ∃ (answer : ErrorCode) (q' : OutputQueue),
        addPacketTXqueue address q = .ok (answer, q') ∧
          q'.params = q.params ∧
          (answer = .throttle ∧
              q.params.txMaxSize <
                totalSize tx + container.pktLen ∧
              q'.Holds tx rtx ∨
            answer = .ok ∧
              totalSize tx + container.pktLen ≤
                q.params.txMaxSize ∧
              q'.Holds (tx ++ [(address, container)])
                rtx) := by
  have hSize := hHolds.txSize
  unfold addPacketTXqueue
  rw [deref_eq hLoose.cell, ok_bind]
  have hTotal : 0 ≤ totalSize tx := by
    apply totalSize_nonneg
    intro node hMem
    exact hHolds.wellSized node (List.mem_append_left _ hMem)
  have hLen := hLoose.wellSized.nonneg
  by_cases hInt : q.txSize + container.pktLen < 2 ^ 31
  · right
    rw [addInt_eq (by omega) hInt, ok_bind]
    by_cases hLarge :
        q.txSize + container.pktLen > q.params.txMaxSize
    · rcases destroyPacketContainer_spec hHolds
          hLoose.outside with
        ⟨q', hDestroy, hHolds', hParams⟩
      refine ⟨.throttle, q', ?_, hParams,
        Or.inl ⟨rfl, by omega, hHolds'⟩⟩
      rw [if_pos hLarge, hDestroy, ok_bind]
    · rcases hHolds.txHolds.append hLoose.cell
          hLoose.notTx with
        ⟨heap, txQueue, hAppend, hTx, hTail, hFrame⟩
      have hRtx :
          LinkedQueue.Holds heap q.rtxQueue rtx := by
        apply hHolds.rtxHolds.frame
        intro a hMem
        apply hFrame
        intro hIn
        exact hHolds.apart a hIn hMem
      refine
        ⟨.ok,
          { q with
            heap := heap
            txQueue := txQueue
            txSize := q.txSize + container.pktLen },
          ?_, rfl, Or.inr ⟨rfl, by omega, ?_⟩⟩
      · rw [if_neg hLarge, hAppend]
      · refine
          { txHolds := hTx
            txTail := ?_
            txSize := ?_
            rtxHolds := hRtx
            rtxSize := hHolds.rtxSize
            apart := ?_
            wellSized := ?_ }
        · rw [hTail, LinkedQueue.lastAddress_concat]
        · simp [hSize]
        · intro a hMem
          rw [LinkedQueue.addresses_append] at hMem
          rcases List.mem_append.mp hMem with hIn | hNew
          · exact hHolds.apart a hIn
          · rcases List.mem_singleton.mp hNew with rfl
            exact hLoose.notRtx
        · intro node hMem
          have hEither :
              node ∈ tx ++ rtx ∨
                node = (address, container) := by
            simp only [List.mem_append,
              List.mem_singleton] at hMem ⊢
            tauto
          rcases hEither with hOld | rfl
          · exact hHolds.wellSized node hOld
          · exact hLoose.wellSized
  · left
    have hOver : 2 ^ 31 ≤ q.txSize + container.pktLen :=
      Int.not_lt.mp hInt
    refine ⟨?_, hOver⟩
    rw [addInt_eq_error hOver, error_bind]

/- With no packet waiting there is none to take. -/
theorem takePacketToSend_nil
    (hHolds : q.Holds [] rtx) :
    takePacketToSend q = .ok (none, q) := by
  have hHead : q.txQueue.head = none := hHolds.txHolds.path
  unfold takePacketToSend
  rw [hHead]

/- The first packet that waits is taken out of the queue. -/
theorem takePacketToSend_spec
    (hHolds : q.Holds ((address, container) :: tx) rtx) :
    ∃ q' : OutputQueue,
      takePacketToSend q = .ok (some address, q') ∧
        q'.params = q.params ∧
        q'.Holds tx rtx ∧
        q'.Loose tx rtx address container := by
  rcases hHolds.txHolds.path with
    ⟨hHead, next, hCell, hRest⟩
  have hNotTx : address ∉ LinkedQueue.addresses tx :=
    (List.nodup_cons.mp hHolds.txHolds.nodup).1
  have hNotRtx : address ∉ LinkedQueue.addresses rtx :=
    hHolds.apart address List.mem_cons_self
  have hNext :=
    LinkedQueue.Path.start_eq_none_iff hRest
  have hTail := hHolds.txTail
  refine
    ⟨{ q with
        heap := q.heap.insert address ⟨container, none⟩
        txQueue :=
          { head := next
            tail :=
              if next = none then none else q.txQueue.tail }
        txSize := q.txSize - container.pktLen },
      ?_, rfl, ?_, ?_⟩
  · unfold takePacketToSend
    rw [hHead]
    simp only [deref_eq hCell, ok_bind]
  · have hNewTail :
        (if next = none then none else q.txQueue.tail) =
          LinkedQueue.lastAddress tx := by
      by_cases hNil : tx = []
      · rw [if_pos (hNext.mpr hNil), hNil]
        rfl
      · rw [if_neg (fun hNone => hNil (hNext.mp hNone)),
          hTail]
        rcases List.exists_cons_of_ne_nil hNil with
          ⟨second, others, rfl⟩
        exact LinkedQueue.lastAddress_cons_cons _ _ _
    refine
      { txHolds :=
          ⟨hRest.insert _ hNotTx,
            (List.nodup_cons.mp hHolds.txHolds.nodup).2,
            fun _ => hNewTail⟩
        txTail := hNewTail
        txSize := ?_
        rtxHolds := hHolds.rtxHolds.insert _ hNotRtx
        rtxSize := hHolds.rtxSize
        apart := ?_
        wellSized := ?_ }
    · have hSize := hHolds.txSize
      rw [totalSize_cons] at hSize
      simp only [hSize]
      omega
    · intro a hMem
      exact hHolds.apart a (List.mem_cons_of_mem _ hMem)
    · intro node hMem
      exact hHolds.wellSized node
        (List.mem_cons_of_mem _ hMem)
  · exact
      { cell := AList.lookup_insert q.heap
        notTx := hNotTx
        notRtx := hNotRtx
        wellSized :=
          hHolds.wellSized (address, container)
            List.mem_cons_self }

/-
  The oldest kept packet is removed, and every other cell
  stays as it was.
-/
theorem removeOldestPacket_spec
    (hHolds : q.Holds tx ((address, container) :: rtx)) :
    ∃ q' : OutputQueue,
      removeOldestPacket q = .ok (0, q') ∧
        q'.params = q.params ∧
        q'.Holds tx rtx ∧
        ∀ a, a ≠ address →
          q'.heap.lookup a = q.heap.lookup a := by
  rcases hHolds.rtxHolds.path with ⟨hHead, next, hCell, _⟩
  have hNotRtx : address ∉ LinkedQueue.addresses rtx :=
    (List.nodup_cons.mp hHolds.rtxHolds.nodup).1
  have hNotTx : address ∉ LinkedQueue.addresses tx := by
    intro hIn
    exact hHolds.apart address hIn List.mem_cons_self
  refine
    ⟨{ q with
        heap := q.heap.erase address
        rtxQueue := { q.rtxQueue with head := next }
        rtxSize := q.rtxSize - container.pktLen },
      ?_, rfl, ?_, ?_⟩
  · unfold removeOldestPacket destroyPacketContainer deref
    rw [hHead]
    simp only [hCell, ok_bind]
  · refine
      { txHolds := hHolds.txHolds.erase hNotTx
        txTail := hHolds.txTail
        txSize := hHolds.txSize
        rtxHolds :=
          (hHolds.rtxHolds.advance hCell).erase hNotRtx
        rtxSize := ?_
        apart := ?_
        wellSized := ?_ }
    · have hSize := hHolds.rtxSize
      rw [totalSize_cons] at hSize
      simp only [hSize]
      omega
    · intro a hMem hIn
      exact hHolds.apart a hMem (List.mem_cons_of_mem _ hIn)
    · intro node hMem
      apply hHolds.wellSized
      simp only [List.mem_append, List.mem_cons] at hMem ⊢
      tauto
  · intro a hNe
    exact AList.lookup_erase_ne hNe

/-
  Some of the oldest kept packets were removed: the others
  are kept, and every cell outside of the queue is as before.
-/
structure Shortened
    (q q' : OutputQueue)
    (tx rtx kept : List (Nat × PacketContainer)) : Prop where
  params : q'.params = q.params
  holds : q'.Holds tx kept
  suffix : kept <:+ rtx
  frame :
    ∀ a, a ∉ LinkedQueue.addresses rtx →
      q'.heap.lookup a = q.heap.lookup a

namespace Shortened

/- Nothing was removed. -/
theorem refl
    (hHolds : q.Holds tx rtx) :
    Shortened q q tx rtx rtx where
  params := rfl
  holds := hHolds
  suffix := List.suffix_rfl
  frame := fun _ _ => rfl

theorem trans
    {q₁ q₂ : OutputQueue}
    {some fewer : List (Nat × PacketContainer)}
    (hFirst : Shortened q q₁ tx rtx some)
    (hSecond : Shortened q₁ q₂ tx some fewer) :
    Shortened q q₂ tx rtx fewer where
  params := hSecond.params.trans hFirst.params
  holds := hSecond.holds
  suffix := hSecond.suffix.trans hFirst.suffix
  frame := by
    intro a hNot
    have hNot' : a ∉ LinkedQueue.addresses some := by
      intro hMem
      exact hNot ((hFirst.suffix.map Prod.fst).mem hMem)
    rw [hSecond.frame a hNot', hFirst.frame a hNot]

/- A container outside of both queues stays outside. -/
theorem outside
    {q' : OutputQueue}
    {kept : List (Nat × PacketContainer)}
    {cell : LinkedQueue.Cell PacketContainer}
    (hShort : Shortened q q' tx rtx kept)
    (hOutside : q.Outside tx rtx address cell) :
    q'.Outside tx kept address cell where
  cell :=
    (hShort.frame address hOutside.notRtx).trans hOutside.cell
  notTx := hOutside.notTx
  notRtx := by
    intro hMem
    exact hOutside.notRtx
      ((hShort.suffix.map Prod.fst).mem hMem)
  wellSized := hOutside.wellSized

end Shortened

/- Removing the oldest kept packet, when there is one. -/
theorem removeOldestPacket_shortened
    {oldest : Nat × PacketContainer}
    (hHolds : q.Holds tx (oldest :: rtx)) :
    ∃ q' : OutputQueue,
      removeOldestPacket q = .ok (0, q') ∧
        Shortened q q' tx (oldest :: rtx) rtx := by
  rcases removeOldestPacket_spec hHolds with
    ⟨q', hRemove, hParams, hHolds', hFrame⟩
  refine ⟨q', hRemove, hParams, hHolds',
    List.suffix_cons oldest rtx, ?_⟩
  intro a hNot
  exact hFrame a (not_or.mp (List.mem_cons.not.mp hNot)).1

/- A packet was held longer than is allowed. -/
def isExpired
    (now : Timeval)
    (params : QueueParams)
    (node : Nat × PacketContainer) : Bool :=
  decide
    (now.tvSec - node.2.timeStamp.tvSec >
      params.maxTimeToHold.tvSec)

/- The oldest packets go as long as they are expired. -/
theorem removeExpired_spec
    (now : Timeval)
    {fuel : Nat}
    (hFuel : rtx.length < fuel)
    (hHolds : q.Holds tx rtx) :
    ∃ q' : OutputQueue,
      removeExpired now fuel q = .ok q' ∧
        Shortened q q' tx rtx
          (rtx.dropWhile (isExpired now q.params)) := by
  induction fuel generalizing q rtx with
  | zero => exact absurd hFuel (Nat.not_lt_zero _)
  | succ fuel ih =>
      unfold removeExpired
      cases rtx with
      | nil =>
          have hHead : q.rtxQueue.head = none :=
            hHolds.rtxHolds.path
          rw [hHead]
          exact ⟨q, rfl, Shortened.refl hHolds⟩
      | cons oldest rtx =>
          rcases hHolds.rtxHolds.path with
            ⟨hHead, next, hCell, _⟩
          rw [hHead]
          simp only [deref_eq hCell, ok_bind]
          split
          · rename_i hOld
            have hExpired :
                isExpired now q.params oldest = true :=
              decide_eq_true hOld
            rcases removeOldestPacket_shortened hHolds with
              ⟨q₁, hRemove, hShort₁⟩
            simp only [List.length_cons] at hFuel
            rcases ih (by omega) hShort₁.holds with
              ⟨q', hRest, hShort⟩
            rw [hShort₁.params] at hShort
            refine ⟨q', ?_, ?_⟩
            · rw [hRemove]
              exact hRest
            · rw [List.dropWhile_cons_of_pos hExpired]
              exact hShort₁.trans hShort
          · rename_i hRecent
            have hFresh :
                ¬ isExpired now q.params oldest = true := by
              simpa only [isExpired, decide_eq_true_iff]
                using hRecent
            rw [List.dropWhile_cons_of_neg hFresh]
            exact ⟨q, rfl, Shortened.refl hHolds⟩

/- A later part of some containers has no larger size. -/
theorem totalSize_le_of_suffix
    {nodes later : List (Nat × PacketContainer)}
    (hSized : ∀ node ∈ nodes, node.2.WellSized)
    (hSuffix : later <:+ nodes) :
    totalSize later ≤ totalSize nodes := by
  rcases hSuffix with ⟨earlier, rfl⟩
  have hEarlier : 0 ≤ totalSize earlier := by
    apply totalSize_nonneg
    intro node hMem
    exact hSized node (List.mem_append_left _ hMem)
  rw [totalSize_append]
  omega

/- The sizes of the kept packets are not negative. -/
theorem OutputQueue.Holds.rtxTotal_nonneg
    (hHolds : q.Holds tx rtx) :
    0 ≤ totalSize rtx := by
  apply totalSize_nonneg
  intro node hMem
  exact hHolds.wellSized node (List.mem_append_right _ hMem)

/-
  Making room removes the oldest packets until the new one
  fits, if the first sum is an `int`.  Only a packet larger
  than the limit never fits.
-/
theorem makeRoom_spec
    {pktLen : Int}
    {fuel : Nat}
    (hFuel : rtx.length < fuel)
    (hHolds : q.Holds tx rtx)
    (hLen : 0 ≤ pktLen) :
    makeRoom pktLen fuel q = .error .intOverflow ∧
        2 ^ 31 ≤ totalSize rtx + pktLen ∨
      totalSize rtx + pktLen < 2 ^ 31 ∧
        (makeRoom pktLen fuel q = .error .noReturn ∧
            q.params.rtxMaxSize < pktLen ∨
          ∃ (q' : OutputQueue)
              (kept : List (Nat × PacketContainer)),
            makeRoom pktLen fuel q = .ok q' ∧
              totalSize kept + pktLen ≤
                q.params.rtxMaxSize ∧
              Shortened q q' tx rtx kept) := by
  induction fuel generalizing q rtx with
  | zero => exact absurd hFuel (Nat.not_lt_zero _)
  | succ fuel ih =>
      have hSize := hHolds.rtxSize
      have hTotal := hHolds.rtxTotal_nonneg
      unfold makeRoom
      by_cases hInt : totalSize rtx + pktLen < 2 ^ 31
      · right
        refine ⟨hInt, ?_⟩
        rw [hSize, addInt_eq (by omega) hInt, ok_bind]
        split
        · rename_i hLarge
          cases rtx with
          | nil =>
              have hHead : q.rtxQueue.head = none :=
                hHolds.rtxHolds.path
              rw [totalSize_nil] at hLarge
              refine Or.inl ⟨?_, by omega⟩
              rw [hHead]
              rfl
          | cons oldest rtx =>
              rcases hHolds.rtxHolds.path with ⟨hHead, _⟩
              rcases removeOldestPacket_shortened hHolds with
                ⟨q₁, hRemove, hShort₁⟩
              have hOldest : 0 ≤ oldest.2.pktLen :=
                (hHolds.wellSized oldest (by simp)).nonneg
              rw [hHead, hRemove, ok_bind]
              simp only [List.length_cons] at hFuel
              rw [totalSize_cons] at hInt
              rcases ih (by omega) hShort₁.holds with
                ⟨_, hOver⟩ |
                  ⟨_, hEndless | ⟨q', kept, hRest, hFits,
                    hShort⟩⟩
              · omega
              · rw [hShort₁.params] at hEndless
                exact Or.inl hEndless
              · rw [hShort₁.params] at hFits
                exact Or.inr
                  ⟨q', kept, hRest, hFits,
                    hShort₁.trans hShort⟩
        · rename_i hFits
          exact Or.inr
            ⟨q, rtx, rfl, Int.not_lt.mp hFits,
              Shortened.refl hHolds⟩
      · left
        refine ⟨?_, by omega⟩
        rw [hSize, addInt_eq_error (by omega), error_bind]

/-
  A container was added at the end of the kept packets that
  remain, with a time stamp, and every other cell outside of
  the queue is as before.
-/
structure KeptAtEnd
    (q q' : OutputQueue)
    (tx rtx : List (Nat × PacketContainer))
    (address : Nat)
    (container : PacketContainer)
    (kept : List (Nat × PacketContainer)) : Prop where
  params : q'.params = q.params
  suffix : kept <:+ rtx
  holds : q'.Holds tx (kept ++ [(address, container)])
  fits :
    totalSize kept + container.pktLen ≤ q.params.rtxMaxSize
  frame :
    ∀ a, a ≠ address → a ∉ LinkedQueue.addresses rtx →
      q'.heap.lookup a = q.heap.lookup a

/-
  When the two loops leave room for a container, it becomes
  the last one, with a time stamp.
-/
theorem addPacketRTXqueue_shortened
    {now : Timeval}
    (stamp : Timeval)
    {cell : LinkedQueue.Cell PacketContainer}
    {q₁ q₂ : OutputQueue}
    {kept : List (Nat × PacketContainer)}
    (hOutside : q.Outside tx rtx address cell)
    (hExpired : removeExpired now q.fuel q = .ok q₁)
    (hRoom :
      makeRoom cell.value.pktLen q₁.fuel q₁ = .ok q₂)
    (hShort : Shortened q q₂ tx rtx kept)
    (hFits :
      totalSize kept + cell.value.pktLen ≤
        q.params.rtxMaxSize)
    (hInt : totalSize kept + cell.value.pktLen < 2 ^ 31) :
    ∃ q' : OutputQueue,
      addPacketRTXqueue now stamp address q = .ok q' ∧
        KeptAtEnd q q' tx rtx address
          { cell.value with timeStamp := stamp } kept := by
  have hLen := hOutside.wellSized.nonneg
  have hHolds₂ := hShort.holds
  have hOutside₂ := hShort.outside hOutside
  have hTotal := hHolds₂.rtxTotal_nonneg
  unfold addPacketRTXqueue
  rw [deref_eq hOutside.cell, ok_bind, hExpired, ok_bind,
    hRoom, ok_bind, hHolds₂.rtxSize,
    addInt_eq (by omega) hInt, ok_bind]
  rcases
      (hHolds₂.rtxHolds.insert
          ⟨{ cell.value with timeStamp := stamp }, none⟩
          hOutside₂.notRtx).append
        (AList.lookup_insert q₂.heap) hOutside₂.notRtx with
    ⟨heap, rtxQueue, hAppend, hRtx, _, hFrame⟩
  rw [hAppend]
  refine
    ⟨_, rfl, hShort.params, hShort.suffix, ?_, hFits, ?_⟩
  · have hTx : LinkedQueue.Holds heap q₂.txQueue tx := by
      apply hHolds₂.txHolds.frame
      intro a hMem
      rw [hFrame a (hHolds₂.apart a hMem)]
      apply AList.lookup_insert_ne
      rintro rfl
      exact hOutside₂.notTx hMem
    refine
      { txHolds := hTx
        txTail := hHolds₂.txTail
        txSize := hHolds₂.txSize
        rtxHolds := hRtx
        rtxSize := ?_
        apart := ?_
        wellSized := ?_ }
    · simp
    · intro a hMem hIn
      rw [LinkedQueue.addresses_append] at hIn
      rcases List.mem_append.mp hIn with hOld | hNew
      · exact hHolds₂.apart a hMem hOld
      · rcases List.mem_singleton.mp hNew with rfl
        exact hOutside₂.notTx hMem
    · intro node hMem
      rw [← List.append_assoc] at hMem
      rcases List.mem_append.mp hMem with hOld | hNew
      · exact hHolds₂.wellSized node hOld
      · rcases List.mem_singleton.mp hNew with rfl
        exact hOutside₂.wellSized
  · intro a hNe hNot
    have hNot' : a ∉ LinkedQueue.addresses kept := by
      intro hMem
      exact hNot ((hShort.suffix.map Prod.fst).mem hMem)
    rw [hFrame a hNot', AList.lookup_insert_ne hNe,
      hShort.frame a hNot]

/-
  A container handed to the queue of kept packets becomes
  the last one, with a time stamp, after some of the oldest
  were removed.  The two sums of the second loop and of the
  new size decide whether it does.
-/
theorem addPacketRTXqueue_spec
    (now stamp : Timeval)
    {cell : LinkedQueue.Cell PacketContainer}
    (hHolds : q.Holds tx rtx)
    (hOutside : q.Outside tx rtx address cell) :
    addPacketRTXqueue now stamp address q =
          .error .intOverflow ∧
        2 ^ 31 ≤
          totalSize
              (rtx.dropWhile (isExpired now q.params)) +
            cell.value.pktLen ∨
      totalSize (rtx.dropWhile (isExpired now q.params)) +
            cell.value.pktLen <
          2 ^ 31 ∧
        (addPacketRTXqueue now stamp address q =
              .error .noReturn ∧
            q.params.rtxMaxSize < cell.value.pktLen ∨
          ∃ (q' : OutputQueue)
              (kept : List (Nat × PacketContainer)),
            addPacketRTXqueue now stamp address q = .ok q' ∧
              KeptAtEnd q q' tx rtx address
                { cell.value with timeStamp := stamp }
                kept) := by
  have hLen := hOutside.wellSized.nonneg
  rcases removeExpired_spec now hHolds.length_lt_fuel hHolds
    with ⟨q₁, hExpired, hShort₁⟩
  rcases makeRoom_spec hShort₁.holds.length_lt_fuel
      hShort₁.holds hLen with
    ⟨hOver, hLarge⟩ | ⟨hInt, ⟨hEndless, hLarge⟩ | ⟨q₂, kept,
      hRoom, hFits, hShort₂⟩⟩
  · left
    refine ⟨?_, hLarge⟩
    unfold addPacketRTXqueue
    rw [deref_eq hOutside.cell, ok_bind, hExpired, ok_bind,
      hOver, error_bind]
  · right
    rw [hShort₁.params] at hLarge
    refine ⟨hInt, Or.inl ⟨?_, hLarge⟩⟩
    unfold addPacketRTXqueue
    rw [deref_eq hOutside.cell, ok_bind, hExpired, ok_bind,
      hEndless, error_bind]
  · right
    refine ⟨hInt, Or.inr ?_⟩
    have hShort := hShort₁.trans hShort₂
    have hLess :
        totalSize kept ≤
          totalSize
            (rtx.dropWhile (isExpired now q.params)) :=
      totalSize_le_of_suffix
        (fun node hMem =>
          hShort₁.holds.wellSized node
            (List.mem_append_right _ hMem))
        hShort₂.suffix
    rw [hShort₁.params] at hFits
    rcases
      addPacketRTXqueue_shortened stamp hOutside hExpired
        hRoom hShort hFits (by omega) with
      ⟨q', hAdd, hKept⟩
    exact ⟨q', kept, hAdd, hKept⟩

/-
  With nothing expired and room enough, nothing is removed.
-/
theorem addPacketRTXqueue_fits
    {now : Timeval}
    (stamp : Timeval)
    {cell : LinkedQueue.Cell PacketContainer}
    (hHolds : q.Holds tx rtx)
    (hOutside : q.Outside tx rtx address cell)
    (hFresh :
      ∀ node ∈ rtx, isExpired now q.params node = false)
    (hFits :
      totalSize rtx + cell.value.pktLen ≤
        q.params.rtxMaxSize)
    (hInt : totalSize rtx + cell.value.pktLen < 2 ^ 31) :
    ∃ q' : OutputQueue,
      addPacketRTXqueue now stamp address q = .ok q' ∧
        KeptAtEnd q q' tx rtx address
          { cell.value with timeStamp := stamp } rtx := by
  have hLen := hOutside.wellSized.nonneg
  have hTotal := hHolds.rtxTotal_nonneg
  have hAll :
      rtx.dropWhile (isExpired now q.params) = rtx := by
    cases rtx with
    | nil => rfl
    | cons node rtx =>
        rw [List.dropWhile_cons_of_neg]
        rw [hFresh node List.mem_cons_self]
        exact Bool.false_ne_true
  rcases removeExpired_spec now hHolds.length_lt_fuel hHolds
    with ⟨q₁, hExpired, hShort⟩
  rw [hAll] at hShort
  have hRoom :
      makeRoom cell.value.pktLen q₁.fuel q₁ = .ok q₁ := by
    unfold OutputQueue.fuel makeRoom
    rw [hShort.holds.rtxSize, addInt_eq (by omega) hInt,
      ok_bind, hShort.params, if_neg (by omega)]
  exact
    addPacketRTXqueue_shortened stamp hOutside hExpired hRoom
      hShort hFits hInt

------------------------------------------------------------
-- What The Functions Leave Alone
------------------------------------------------------------

/- Only the new container is stored. -/
theorem createPacketContainer_frame
    {pkt : Packet}
    {q' : OutputQueue}
    {a : Nat}
    (hCreate :
      createPacketContainer address pkt q = .ok q')
    (hNe : a ≠ address) :
    q'.heap.lookup a = q.heap.lookup a := by
  unfold createPacketContainer at hCreate
  split at hCreate
  · cases hCreate
  · split at hCreate
    · cases hCreate
    · cases hCreate
      exact AList.lookup_insert_ne hNe

/- Only the container itself is freed. -/
theorem destroyPacketContainer_frame
    {q' : OutputQueue}
    {a : Nat}
    (hDestroy : destroyPacketContainer address q = .ok q')
    (hNe : a ≠ address) :
    q'.heap.lookup a = q.heap.lookup a := by
  unfold destroyPacketContainer at hDestroy
  cases hCell : deref q address with
  | error fault =>
      rw [hCell] at hDestroy
      cases hDestroy
  | ok cell =>
      rw [hCell] at hDestroy
      cases hDestroy
      exact AList.lookup_erase_ne hNe

/- Only the container and the last one before it change. -/
theorem addPacketTXqueue_frame
    {q' : OutputQueue}
    {answer : ErrorCode}
    {a : Nat}
    (hHolds : q.Holds tx rtx)
    (hLoose : q.Loose tx rtx address container)
    (hAdd : addPacketTXqueue address q = .ok (answer, q'))
    (hNe : a ≠ address)
    (hNot : a ∉ LinkedQueue.addresses tx) :
    q'.heap.lookup a = q.heap.lookup a := by
  unfold addPacketTXqueue at hAdd
  rw [deref_eq hLoose.cell, ok_bind] at hAdd
  rcases addInt_cases q.txSize container.pktLen with
    hInt | hInt
  · rw [hInt, ok_bind] at hAdd
    split at hAdd
    · cases hDestroy : destroyPacketContainer address q with
      | error fault =>
          rw [hDestroy] at hAdd
          cases hAdd
      | ok q₁ =>
          rw [hDestroy] at hAdd
          cases hAdd
          exact destroyPacketContainer_frame hDestroy hNe
    · rcases hHolds.txHolds.append hLoose.cell
          hLoose.notTx with
        ⟨heap, txQueue, hAppend, _, _, hFrame⟩
      rw [hAppend] at hAdd
      cases hAdd
      exact hFrame a hNot
  · rw [hInt] at hAdd
    cases hAdd

/- Only the container that is taken changes. -/
theorem takePacketToSend_frame
    {q' : OutputQueue}
    {a : Nat}
    (hTake :
      takePacketToSend q = .ok (some address, q'))
    (hNe : a ≠ address) :
    q'.heap.lookup a = q.heap.lookup a := by
  unfold takePacketToSend at hTake
  split at hTake
  · cases hTake
  · rename_i first hHead
    cases hCell : deref q first with
    | error fault =>
        rw [hCell] at hTake
        cases hTake
    | ok cell =>
        rw [hCell] at hTake
        cases hTake
        exact AList.lookup_insert_ne hNe

end Specs

end ML

end NapaBaselibs
