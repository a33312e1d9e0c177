import NapaBaselibs.Lib.Runs
import NapaBaselibs.ML.PacketSearch

/-
  Runs of the calls on the queues of `queueManagement.c`.

  A container is either in one of the queues or held by a
  caller: created or taken out, and not yet handed over or
  freed.  The callers only hand over what they hold.

  Key definitions include:
    * `QueueCall`, `QueueUse`, `QueueUse.Step`
    * `QueueUse.Valid`, `RtxEffect`
    * `QueueUse.TakesLast`

  Key theorems include:
    * `QueueUse.Valid.step`
    * `QueueUse.Valid.not_keeps_of_takesLast`
    * `QueueUse.run_valid`
-/

------------------------------------------------------------
-- Calls
------------------------------------------------------------

namespace NapaBaselibs

namespace ML

/- A call of a function of `queueManagement.c`. -/
inductive QueueCall where
  | createPacketContainer (address : Nat) (pkt : Packet)
  | destroyPacketContainer (address : Nat)
  | addPacketTXqueue (address : Nat)
  | takePacketToSend
  | addPacketRTXqueue (now stamp : Timeval) (address : Nat)
  | removeOldestPacket
  | searchPacketInRTX
      (connID msgSeqNum offset : Int32)
      (keep : Bool)
  | setQueuesParams (params : QueueParams)

/- The queues, and the containers that callers hold. -/
structure QueueUse where
  queue : OutputQueue
  owned : List Nat

namespace QueueUse

/- At the start of the program nothing is held. -/
def initial (params : QueueParams) : QueueUse where
  queue := OutputQueue.initial params
  owned := []

/- The caller has handed a container over. -/
def handOver
    (s : QueueUse)
    (address : Nat)
    (q : OutputQueue) : QueueUse where
  queue := q
  owned := s.owned.erase address

/- The caller has got some containers. -/
def obtain
    (s : QueueUse)
    (given : List Nat)
    (q : OutputQueue) : QueueUse × List Nat :=
  ({ queue := q, owned := given ++ s.owned }, given)

/- The call, with the containers the caller gets. -/
def call
    (s : QueueUse) :
    QueueCall → Except QueueFault (QueueUse × List Nat)
| .createPacketContainer address pkt => do
    let q ← ML.createPacketContainer address pkt s.queue
    .ok (s.obtain [address] q)
| .destroyPacketContainer address => do
    let q ← ML.destroyPacketContainer address s.queue
    .ok (s.handOver address q, [])
| .addPacketTXqueue address => do
    let (_, q) ← ML.addPacketTXqueue address s.queue
    .ok (s.handOver address q, [])
| .takePacketToSend => do
    let (taken, q) ← ML.takePacketToSend s.queue
    .ok (s.obtain taken.toList q)
| .addPacketRTXqueue now stamp address => do
    let q ← ML.addPacketRTXqueue now stamp address s.queue
    .ok (s.handOver address q, [])
| .removeOldestPacket => do
    let (_, q) ← ML.removeOldestPacket s.queue
    .ok ({ s with queue := q }, [])
| .searchPacketInRTX connID msgSeqNum offset keep => do
    let (found, q) ←
      ML.searchPacketInRTX connID msgSeqNum offset keep
        s.queue
    .ok (s.obtain (if keep then [] else found.toList) q)
| .setQueuesParams params =>
    .ok
      ({ s with queue := ML.setQueuesParams params s.queue },
        [])

/-
  The callers hand over what they hold, and to the queue of
  waiting packets only with a null `next` pointer.
-/
def Permits (s : QueueUse) : QueueCall → Prop
| .destroyPacketContainer address => address ∈ s.owned
| .addPacketTXqueue address =>
    address ∈ s.owned ∧
      (s.queue.heap.lookup address).any
        (fun cell => cell.next.isNone) = true
| .addPacketRTXqueue _ _ address => address ∈ s.owned
| _ => True

instance
    (s : QueueUse)
    (event : QueueCall) :
    Decidable (s.Permits event) := by
  cases event <;> unfold Permits <;> infer_instance

/- The call, if it is one that callers make. -/
def perform
    (s : QueueUse)
    (event : QueueCall) :
    Except QueueFault (QueueUse × List Nat) :=
  if s.Permits event then
    s.call event
  else
    .error .badPointer

/- One call that returns. -/
def Step
    (s : QueueUse)
    (event : QueueCall)
    (outputs : List Nat)
    (s' : QueueUse) : Prop :=
  s.perform event = .ok (s', outputs)

theorem step_iff
    {s s' : QueueUse}
    {event : QueueCall}
    {outputs : List Nat} :
    s.Step event outputs s' ↔
      s.Permits event ∧ s.call event = .ok (s', outputs) := by
  unfold Step perform
  constructor
  · intro hStep
    split at hStep
    · rename_i hPermits
      exact ⟨hPermits, hStep⟩
    · cases hStep
  · rintro ⟨hPermits, hCall⟩
    rw [if_pos hPermits, hCall]

/-
  A search without `keep` finds the packet at the tail, and
  there are others before it.
-/
def TakesLast (s : QueueUse) : QueueCall → Prop
| .searchPacketInRTX connID msgSeqNum offset false =>
    ∃ (before : List (Nat × PacketContainer))
        (node : Nat × PacketContainer),
      LinkedQueue.Path s.queue.heap s.queue.rtxQueue.head
          (before ++ [node]) ∧
        before ≠ [] ∧
        (∀ other ∈ before,
          isAsked connID msgSeqNum offset other = false) ∧
        isAsked connID msgSeqNum offset node = true
| _ => False

end QueueUse

/- A transition of the queues. -/
abbrev QueueTransition :=
  Transition QueueUse QueueCall Nat

/- The packet that a call makes a container for. -/
def QueueCall.Creates
    (P : Packet → Prop) : QueueCall → Prop
| .createPacketContainer _ pkt => P pkt
| _ => True

/-
  What a call does to the list of kept packets, with the
  containers the caller gets.
-/
def RtxEffect
    (rtx rtx' : List (Nat × PacketContainer)) :
    QueueCall → List Nat → Prop
| .addPacketRTXqueue _ _ address, _ =>
    ∃ (kept : List (Nat × PacketContainer))
        (container : PacketContainer),
      kept <:+ rtx ∧ rtx' = kept ++ [(address, container)]
| .removeOldestPacket, _ => rtx' = rtx.tail
| .searchPacketInRTX connID msgSeqNum offset false, given =>
    given =
        ((rtx.find?
          (isAsked connID msgSeqNum offset)).map
            Prod.fst).toList ∧
      rtx' = rtx.eraseP (isAsked connID msgSeqNum offset)
| _, _ => rtx' = rtx

------------------------------------------------------------
-- Valid Uses
------------------------------------------------------------

/- A container outside, seen from another state. -/
theorem OutputQueue.Outside.transport
    {q q' : OutputQueue}
    {tx rtx tx' rtx' : List (Nat × PacketContainer)}
    {a : Nat}
    {cell : LinkedQueue.Cell PacketContainer}
    (hOutside : q.Outside tx rtx a cell)
    (hSame : q'.heap.lookup a = q.heap.lookup a)
    (hTx : a ∉ LinkedQueue.addresses tx')
    (hRtx : a ∉ LinkedQueue.addresses rtx') :
    q'.Outside tx' rtx' a cell where
  cell := hSame.trans hOutside.cell
  notTx := hTx
  notRtx := hRtx
  wellSized := hOutside.wellSized

/-
  The queues hold two lists, and what the callers hold is in
  neither.  All packets have some property.
-/
structure QueueUse.Valid
    (P : Packet → Prop)
    (s : QueueUse)
    (tx rtx : List (Nat × PacketContainer)) : Prop where
  holds : s.queue.Holds tx rtx
  outside :
    ∀ a ∈ s.owned, ∃ cell,
      s.queue.Outside tx rtx a cell ∧ P cell.value.packet
  nodup : s.owned.Nodup
  packets : ∀ node ∈ tx ++ rtx, P node.2.packet

namespace QueueUse

namespace Valid

variable {P : Packet → Prop}
variable {s : QueueUse}
variable {tx rtx : List (Nat × PacketContainer)}
variable {address : Nat}
variable {q : OutputQueue}

theorem initial
    (P : Packet → Prop)
    (params : QueueParams) :
    (QueueUse.initial params).Valid P [] [] where
  holds := OutputQueue.holds_initial params
  outside := fun _ hMem => absurd hMem List.not_mem_nil
  nodup := List.nodup_nil
  packets := fun _ hMem => absurd hMem List.not_mem_nil

/- A container handed over is not held any more. -/
theorem ne_of_mem_erase
    (hValid : s.Valid P tx rtx)
    {a : Nat}
    (hMem : a ∈ s.owned.erase address) :
    a ≠ address ∧ a ∈ s.owned :=
  (List.Nodup.mem_erase_iff hValid.nodup).mp hMem

/- The callers hold the same containers as before. -/
theorem same
    {tx' rtx' : List (Nat × PacketContainer)}
    (hValid : s.Valid P tx rtx)
    (hHolds : q.Holds tx' rtx')
    (hTx : tx' ⊆ tx)
    (hRtx : rtx' ⊆ rtx)
    (hFrame :
      ∀ a ∈ s.owned,
        a ∉ LinkedQueue.addresses tx →
          a ∉ LinkedQueue.addresses rtx →
            q.heap.lookup a = s.queue.heap.lookup a) :
    Valid P { s with queue := q } tx' rtx' where
  holds := hHolds
  outside := by
    intro a hMem
    rcases hValid.outside a hMem with ⟨cell, hOutside, hP⟩
    refine ⟨cell, hOutside.transport ?_ ?_ ?_, hP⟩
    · exact hFrame a hMem hOutside.notTx hOutside.notRtx
    · exact fun hIn =>
        hOutside.notTx (List.map_subset _ hTx hIn)
    · exact fun hIn =>
        hOutside.notRtx (List.map_subset _ hRtx hIn)
  nodup := hValid.nodup
  packets := by
    intro node hMem
    apply hValid.packets
    rcases List.mem_append.mp hMem with hIn | hIn
    · exact List.mem_append_left _ (hTx hIn)
    · exact List.mem_append_right _ (hRtx hIn)

/- A caller holds one more container. -/
theorem obtain
    {cell : LinkedQueue.Cell PacketContainer}
    (hValid : Valid P { s with queue := q } tx rtx)
    (hOutside : q.Outside tx rtx address cell)
    (hP : P cell.value.packet)
    (hNew : address ∉ s.owned) :
    (s.obtain [address] q).1.Valid P tx rtx where
  holds := hValid.holds
  outside := by
    intro a hMem
    rcases List.mem_cons.mp hMem with rfl | hOld
    · exact ⟨cell, hOutside, hP⟩
    · exact hValid.outside a hOld
  nodup := List.nodup_cons.mpr ⟨hNew, hValid.nodup⟩
  packets := hValid.packets

/- A new container is held by its caller. -/
theorem createPacketContainer
    {pkt : Packet}
    (hValid : s.Valid P tx rtx)
    (hP : P pkt)
    (hCreate :
      ML.createPacketContainer address pkt s.queue = .ok q) :
    (s.obtain [address] q).1.Valid P tx rtx := by
  rcases createPacketContainer_spec hValid.holds hCreate with
    ⟨hHolds, _, container, rfl, hLoose⟩
  have hNew : address ∉ s.owned := by
    intro hMem
    rcases hValid.outside address hMem with ⟨cell, hOutside, _⟩
    unfold ML.createPacketContainer at hCreate
    rw [hOutside.cell] at hCreate
    split at hCreate
    · cases hCreate
    · cases hCreate
  refine
    (hValid.same hHolds (List.Subset.refl _)
      (List.Subset.refl _) ?_).obtain hLoose.outside hP hNew
  intro a hMem _ _
  apply createPacketContainer_frame hCreate
  rintro rfl
  exact hNew hMem

/- A container handed over is held by no caller. -/
theorem handOver
    {tx' rtx' : List (Nat × PacketContainer)}
    (hValid : s.Valid P tx rtx)
    (hHolds : q.Holds tx' rtx')
    (hTx :
      ∀ a ∈ LinkedQueue.addresses tx',
        a ∈ LinkedQueue.addresses tx ∨ a = address)
    (hRtx :
      ∀ a ∈ LinkedQueue.addresses rtx',
        a ∈ LinkedQueue.addresses rtx ∨ a = address)
    (hPackets : ∀ node ∈ tx' ++ rtx', P node.2.packet)
    (hFrame :
      ∀ a, a ≠ address →
        a ∉ LinkedQueue.addresses tx →
          a ∉ LinkedQueue.addresses rtx →
            q.heap.lookup a = s.queue.heap.lookup a) :
    (s.handOver address q).Valid P tx' rtx' where
  holds := hHolds
  outside := by
    intro a hMem
    rcases hValid.ne_of_mem_erase hMem with ⟨hNe, hOwned⟩
    rcases hValid.outside a hOwned with ⟨cell, hOutside, hP⟩
    refine ⟨cell, hOutside.transport ?_ ?_ ?_, hP⟩
    · exact hFrame a hNe hOutside.notTx hOutside.notRtx
    · exact fun hIn =>
        (hTx a hIn).elim hOutside.notTx hNe
    · exact fun hIn =>
        (hRtx a hIn).elim hOutside.notRtx hNe
  nodup := hValid.nodup.erase address
  packets := hPackets

/- A container is freed by its caller. -/
theorem destroyPacketContainer
    (hValid : s.Valid P tx rtx)
    (hOwned : address ∈ s.owned)
    (hDestroy :
      ML.destroyPacketContainer address s.queue = .ok q) :
    (s.handOver address q).Valid P tx rtx := by
  rcases hValid.outside address hOwned with
    ⟨cell, hOutside, _⟩
  rcases destroyPacketContainer_spec hValid.holds hOutside
    with ⟨q', hDestroy', hHolds, _⟩
  rw [hDestroy'] at hDestroy
  cases hDestroy
  exact hValid.handOver hHolds (fun _ => Or.inl)
    (fun _ => Or.inl) hValid.packets
    (fun a hNe _ _ =>
      destroyPacketContainer_frame hDestroy' hNe)

/- A container is queued for sending, or freed. -/
theorem addPacketTXqueue
    {answer : ErrorCode}
    (hValid : s.Valid P tx rtx)
    (hOwned : address ∈ s.owned)
    (hNext :
      (s.queue.heap.lookup address).any
        (fun cell => cell.next.isNone) = true)
    (hAdd :
      ML.addPacketTXqueue address s.queue =
        .ok (answer, q)) :
    ∃ tx', (s.handOver address q).Valid P tx' rtx := by
  rcases hValid.outside address hOwned with
    ⟨⟨container, next⟩, hOutside, hP⟩
  rw [hOutside.cell] at hNext
  have hNone : next = none := Option.isNone_iff_eq_none.mp hNext
  subst hNone
  have hLoose :
      s.queue.Loose tx rtx address container :=
    { cell := hOutside.cell
      notTx := hOutside.notTx
      notRtx := hOutside.notRtx
      wellSized := hOutside.wellSized }
  have hFrame :
      ∀ a, a ≠ address →
        a ∉ LinkedQueue.addresses tx →
          a ∉ LinkedQueue.addresses rtx →
            q.heap.lookup a = s.queue.heap.lookup a :=
    fun a hNe hNot _ =>
      addPacketTXqueue_frame hValid.holds hLoose hAdd hNe
        hNot
  rcases addPacketTXqueue_spec hValid.holds hLoose with
    ⟨hOver, _⟩ | ⟨answer', q', hAdd', _, ⟨_, _, hHolds⟩ |
      ⟨_, _, hHolds⟩⟩
  · rw [hOver] at hAdd
    cases hAdd
  · rw [hAdd'] at hAdd
    cases hAdd
    exact ⟨tx,
      hValid.handOver hHolds (fun _ => Or.inl)
        (fun _ => Or.inl) hValid.packets hFrame⟩
  · rw [hAdd'] at hAdd
    cases hAdd
    refine
      ⟨_,
        hValid.handOver hHolds ?_ (fun _ => Or.inl) ?_
          hFrame⟩
    · intro a hMem
      rw [LinkedQueue.addresses_append] at hMem
      simpa using hMem
    · intro node hMem
      rw [List.append_assoc] at hMem
      rcases List.mem_append.mp hMem with hOld | hMem
      · exact hValid.packets node
          (List.mem_append_left _ hOld)
      · rcases List.mem_cons.mp hMem with rfl | hOld
        · exact hP
        · exact hValid.packets node
            (List.mem_append_right _ hOld)

/- A container is taken out of the queue for sending. -/
theorem takePacketToSend
    {taken : Option Nat}
    (hValid : s.Valid P tx rtx)
    (hTake :
      ML.takePacketToSend s.queue = .ok (taken, q)) :
    ∃ tx', (s.obtain taken.toList q).1.Valid P tx' rtx := by
  cases tx with
  | nil =>
      rw [takePacketToSend_nil hValid.holds] at hTake
      cases hTake
      exact ⟨[], hValid⟩
  | cons node tx =>
      rcases takePacketToSend_spec hValid.holds with
        ⟨q', hTake', _, hHolds, hLoose⟩
      rw [hTake'] at hTake
      cases hTake
      have hNew : node.1 ∉ s.owned := by
        intro hMem
        rcases hValid.outside node.1 hMem with
          ⟨cell, hOutside, _⟩
        exact hOutside.notTx List.mem_cons_self
      refine ⟨tx, ?_⟩
      refine
        (hValid.same hHolds (List.subset_cons_self node tx)
          (List.Subset.refl _) ?_).obtain hLoose.outside
          (hValid.packets node List.mem_cons_self) hNew
      intro a hMem hNot _
      apply takePacketToSend_frame hTake'
      rintro rfl
      exact hNew hMem

/- A container is kept for retransmission. -/
theorem addPacketRTXqueue
    {now stamp : Timeval}
    (hValid : s.Valid P tx rtx)
    (hOwned : address ∈ s.owned)
    (hAdd :
      ML.addPacketRTXqueue now stamp address s.queue =
        .ok q) :
    ∃ (kept : List (Nat × PacketContainer))
        (container : PacketContainer),
      kept <:+ rtx ∧
        (s.handOver address q).Valid P tx
          (kept ++ [(address, container)]) := by
  rcases hValid.outside address hOwned with
    ⟨cell, hOutside, hP⟩
  rcases addPacketRTXqueue_spec now stamp hValid.holds
      hOutside with
    ⟨hOver, _⟩ | ⟨_, ⟨hEndless, _⟩ | ⟨q', kept, hAdd',
      hKept⟩⟩
  · rw [hOver] at hAdd
    cases hAdd
  · rw [hEndless] at hAdd
    cases hAdd
  · rw [hAdd'] at hAdd
    cases hAdd
    refine
      ⟨kept, _, hKept.suffix,
        hValid.handOver hKept.holds (fun _ => Or.inl) ?_ ?_
          (fun a hNe _ => hKept.frame a hNe)⟩
    · intro a hMem
      rw [LinkedQueue.addresses_append] at hMem
      rcases List.mem_append.mp hMem with hOld | hNew
      · exact Or.inl
          (List.map_subset _ hKept.suffix.subset hOld)
      · exact Or.inr (List.mem_singleton.mp hNew)
    · intro node hMem
      rw [← List.append_assoc] at hMem
      rcases List.mem_append.mp hMem with hOld | hNew
      · apply hValid.packets
        rcases List.mem_append.mp hOld with hTx | hRtx
        · exact List.mem_append_left _ hTx
        · exact List.mem_append_right _
            (hKept.suffix.subset hRtx)
      · rcases List.mem_singleton.mp hNew with rfl
        exact hP

/- The oldest kept packet is removed, if there is one. -/
theorem removeOldestPacket
    {answer : Int}
    (hValid : s.Valid P tx rtx)
    (hRemove :
      ML.removeOldestPacket s.queue = .ok (answer, q)) :
    Valid P { s with queue := q } tx rtx.tail := by
  cases rtx with
  | nil =>
      have hHead : s.queue.rtxQueue.head = none :=
        hValid.holds.rtxHolds.path
      unfold ML.removeOldestPacket at hRemove
      rw [hHead] at hRemove
      cases hRemove
      exact hValid
  | cons node rtx =>
      rcases removeOldestPacket_spec hValid.holds with
        ⟨q', hRemove', _, hHolds, hFrame⟩
      rw [hRemove'] at hRemove
      cases hRemove
      apply hValid.same hHolds (List.Subset.refl _)
        (List.subset_cons_self node rtx)
      intro a _ _ hNot
      apply hFrame
      rintro rfl
      exact hNot List.mem_cons_self

/- A search that keeps what it finds changes nothing. -/
theorem searchPacketInRTX_keep
    {connID msgSeqNum offset : Int32}
    {found : Option Nat}
    (hValid : s.Valid P tx rtx)
    (hSearch :
      ML.searchPacketInRTX connID msgSeqNum offset true
        s.queue = .ok (found, q)) :
    (s.obtain [] q).1.Valid P tx rtx := by
  rw [ML.searchPacketInRTX_keep hValid.holds] at hSearch
  cases hSearch
  exact hValid

/-
  A search that gives the packet away takes it out of the
  list, unless it is behind others at the tail.
-/
theorem searchPacketInRTX_take
    {connID msgSeqNum offset : Int32}
    {found : Option Nat}
    (hValid : s.Valid P tx rtx)
    (hSearch :
      ML.searchPacketInRTX connID msgSeqNum offset false
        s.queue = .ok (found, q))
    (hNot :
      ¬ s.TakesLast
        (.searchPacketInRTX connID msgSeqNum offset
          false)) :
    found =
        (rtx.find?
          (isAsked connID msgSeqNum offset)).map Prod.fst ∧
      (s.obtain found.toList q).1.Valid P tx
        (rtx.eraseP
          (isAsked connID msgSeqNum offset)) := by
  cases hFind :
      rtx.find? (isAsked connID msgSeqNum offset) with
  | none =>
      have hNone := List.find?_eq_none.mp hFind
      rw [searchPacketInRTX_none hValid.holds
        (fun node hMem => by simpa using hNone node hMem)]
        at hSearch
      cases hSearch
      rw [List.eraseP_of_forall_not hNone]
      exact ⟨rfl, hValid⟩
  | some node =>
      rcases List.find?_eq_some_iff_append.mp hFind with
        ⟨hAsked, before, after, rfl, hOthers⟩
      have hBefore :
          ∀ other ∈ before,
            isAsked connID msgSeqNum offset other =
              false := by
        intro other hMem
        simpa using hOthers other hMem
      have hErase :
          (before ++ node :: after).eraseP
              (isAsked connID msgSeqNum offset) =
            before ++ after := by
        rw [List.eraseP_append_right _
            (fun other hMem => by simp [hBefore other hMem]),
          List.eraseP_cons_of_pos hAsked]
      have hPlace : before = [] ∨ after ≠ [] := by
        by_contra hEnd
        rcases not_or.mp hEnd with ⟨hNe, hNil⟩
        rw [not_not.mp hNil] at hValid
        exact hNot
          ⟨before, node, hValid.holds.rtxHolds.path, hNe,
            hBefore, hAsked⟩
      rcases @searchPacketInRTX_some _ _ _ _ _ false _ _ _
          hValid.holds hBefore hAsked with
        ⟨next, hCell, _, hFound⟩
      rcases unlinkPacket_spec hValid.holds hCell hPlace with
        ⟨q', hUnlink, hHolds, hFrame⟩
      rw [hFound, answerFound, hUnlink] at hSearch
      cases hSearch
      have hNodup := hValid.holds.rtxHolds.nodup
      rw [LinkedQueue.addresses_append,
        LinkedQueue.addresses_cons, List.nodup_middle,
        List.nodup_cons, ← LinkedQueue.addresses_append]
        at hNodup
      have hNotBefore :
          node.1 ∉ LinkedQueue.addresses before := by
        intro hMem
        apply hNodup.1
        rw [LinkedQueue.addresses_append]
        exact List.mem_append_left _ hMem
      have hNew : node.1 ∉ s.owned := by
        intro hMem
        rcases hValid.outside node.1 hMem with
          ⟨cell, hOutside, _⟩
        exact hOutside.notRtx
          (LinkedQueue.mem_addresses (by simp))
      have hOutside :
          q.Outside tx (before ++ after) node.1
            ⟨node.2, next⟩ :=
        { cell :=
            (hFrame node.1 hNotBefore).trans hCell
          notTx := by
            intro hMem
            exact hValid.holds.apart node.1 hMem
              (LinkedQueue.mem_addresses (by simp))
          notRtx := hNodup.1
          wellSized :=
            hValid.holds.wellSized node (by simp) }
      rw [hErase]
      refine ⟨rfl, ?_⟩
      refine
        (hValid.same hHolds (List.Subset.refl _) ?_
          ?_).obtain hOutside
          (hValid.packets node (by simp)) hNew
      · intro other hMem
        simp only [List.mem_append, List.mem_cons] at hMem ⊢
        tauto
      · intro a _ _ hNotRtx
        apply hFrame
        intro hMem
        apply hNotRtx
        rw [LinkedQueue.addresses_append]
        exact List.mem_append_left _ hMem

/- New parameters move no packet. -/
theorem setQueuesParams
    (params : QueueParams)
    (hValid : s.Valid P tx rtx) :
    Valid P
      { s with queue := ML.setQueuesParams params s.queue }
      tx rtx := by
  refine
    hValid.same (q := ML.setQueuesParams params s.queue) ?_
      (List.Subset.refl _) (List.Subset.refl _)
      (fun _ _ _ _ => rfl)
  exact
    { txHolds := hValid.holds.txHolds
      txTail := hValid.holds.txTail
      txSize := hValid.holds.txSize
      rtxHolds := hValid.holds.rtxHolds
      rtxSize := hValid.holds.rtxSize
      apart := hValid.holds.apart
      wellSized := hValid.holds.wellSized }

/-
  Each call keeps the use of the queues valid and changes the
  list of kept packets as it should, unless it takes the
  packet at the tail from behind others.
-/
theorem step
    {s' : QueueUse}
    {event : QueueCall}
    {outputs : List Nat}
    (hValid : s.Valid P tx rtx)
    (hStep : QueueUse.Step s event outputs s')
    (hCreates : event.Creates P)
    (hNot : ¬ s.TakesLast event) :
    ∃ tx' rtx' : List (Nat × PacketContainer),
      s'.Valid P tx' rtx' ∧
        RtxEffect rtx rtx' event outputs := by
  rcases step_iff.mp hStep with ⟨hPermits, hCall⟩
  cases event with
  | createPacketContainer address pkt =>
      rcases bind_eq_ok hCall with ⟨q, hCreate, hRest⟩
      cases hRest
      exact ⟨tx, rtx,
        hValid.createPacketContainer hCreates hCreate, rfl⟩
  | destroyPacketContainer address =>
      rcases bind_eq_ok hCall with ⟨q, hDestroy, hRest⟩
      cases hRest
      exact ⟨tx, rtx,
        hValid.destroyPacketContainer hPermits hDestroy, rfl⟩
  | addPacketTXqueue address =>
      rcases bind_eq_ok hCall with
        ⟨⟨answer, q⟩, hAdd, hRest⟩
      cases hRest
      rcases hPermits with ⟨hOwned, hNext⟩
      rcases hValid.addPacketTXqueue hOwned hNext hAdd with
        ⟨tx', hValid'⟩
      exact ⟨tx', rtx, hValid', rfl⟩
  | takePacketToSend =>
      rcases bind_eq_ok hCall with
        ⟨⟨taken, q⟩, hTake, hRest⟩
      cases hRest
      rcases hValid.takePacketToSend hTake with
        ⟨tx', hValid'⟩
      exact ⟨tx', rtx, hValid', rfl⟩
  | addPacketRTXqueue now stamp address =>
      rcases bind_eq_ok hCall with ⟨q, hAdd, hRest⟩
      cases hRest
      rcases hValid.addPacketRTXqueue hPermits hAdd with
        ⟨kept, container, hSuffix, hValid'⟩
      exact ⟨tx, _, hValid', kept, container, hSuffix, rfl⟩
  | removeOldestPacket =>
      rcases bind_eq_ok hCall with
        ⟨⟨answer, q⟩, hRemove, hRest⟩
      cases hRest
      exact ⟨tx, rtx.tail,
        hValid.removeOldestPacket hRemove, rfl⟩
  | searchPacketInRTX connID msgSeqNum offset keep =>
      rcases bind_eq_ok hCall with
        ⟨⟨found, q⟩, hSearch, hRest⟩
      cases hRest
      cases keep with
      | true =>
          exact ⟨tx, rtx,
            hValid.searchPacketInRTX_keep hSearch, rfl⟩
      | false =>
          rcases hValid.searchPacketInRTX_take hSearch hNot
            with ⟨rfl, hValid'⟩
          exact ⟨tx, _, hValid', rfl, rfl⟩
  | setQueuesParams params =>
      cases hCall
      exact ⟨tx, rtx, hValid.setQueuesParams params, rfl⟩

/-
  The search that takes the packet at the tail from behind
  others leaves no proper list.
-/
theorem not_keeps_of_takesLast
    {s' : QueueUse}
    {event : QueueCall}
    {outputs : List Nat}
    (hValid : s.Valid P tx rtx)
    (hStep : QueueUse.Step s event outputs s')
    (hTakes : s.TakesLast event) :
    ∀ rtx', ¬ s'.queue.Keeps rtx' := by
  rcases step_iff.mp hStep with ⟨_, hCall⟩
  cases event with
  | searchPacketInRTX connID msgSeqNum offset keep =>
      cases keep with
      | true => exact absurd hTakes id
      | false =>
          rcases hTakes with
            ⟨before, node, hPath, hNe, hBefore, hAsked⟩
          have hSame : rtx = before ++ [node] :=
            hValid.holds.rtxHolds.path.unique hPath
          subst hSame
          rcases @searchPacketInRTX_some _ _ _ _ _ false _ _ _
              hValid.holds hBefore hAsked with
            ⟨next, _, _, hFound⟩
          rcases @unlinkPacket_last _ _ _ _ next
              hValid.holds hNe with
            ⟨q', hUnlink, hBroken⟩
          rcases bind_eq_ok hCall with
            ⟨⟨found, q⟩, hSearch, hRest⟩
          rw [hFound, answerFound, hUnlink] at hSearch
          cases hSearch
          cases hRest
          exact hBroken
  | _ => exact absurd hTakes id

/- What a caller gets it holds afterwards. -/
theorem outputs_subset
    {s' : QueueUse}
    {event : QueueCall}
    {outputs : List Nat}
    (hStep : QueueUse.Step s event outputs s') :
    outputs ⊆ s'.owned := by
  rcases step_iff.mp hStep with ⟨_, hCall⟩
  cases event with
  | setQueuesParams params =>
      cases hCall
      exact List.nil_subset _
  | createPacketContainer address pkt =>
      rcases bind_eq_ok hCall with ⟨q, _, hRest⟩
      cases hRest
      exact List.subset_append_left _ _
  | takePacketToSend =>
      rcases bind_eq_ok hCall with ⟨⟨taken, q⟩, _, hRest⟩
      cases hRest
      exact List.subset_append_left _ _
  | searchPacketInRTX connID msgSeqNum offset keep =>
      rcases bind_eq_ok hCall with ⟨⟨found, q⟩, _, hRest⟩
      cases hRest
      exact List.subset_append_left _ _
  | _ =>
      rcases bind_eq_ok hCall with ⟨q, _, hRest⟩
      cases hRest
      exact List.nil_subset _

end Valid

/-
  A run that never takes the tail keeps two lists, of packets
  with the property of those it creates containers for.
-/
theorem run_valid
    {P : Packet → Prop}
    {params : QueueParams}
    {s : QueueUse}
    {trace : List (Transition QueueUse QueueCall Nat)}
    (hRun :
      Run QueueUse.Step (QueueUse.initial params) trace s)
    (hGuard :
      ∀ transition ∈ trace,
        transition.event.Creates P ∧
          ¬ transition.pre.TakesLast transition.event) :
    ∃ tx rtx, s.Valid P tx rtx := by
  refine
    (Run.invariant_of_steps
      (fun s : QueueUse => ∃ tx rtx, s.Valid P tx rtx)
      (fun transition =>
        transition.event.Creates P ∧
          ¬ transition.pre.TakesLast transition.event)
      ?_ hRun hGuard ⟨[], [], Valid.initial P params⟩).1
  rintro transition hStep ⟨hCreates, hNot⟩ ⟨tx, rtx, hValid⟩
  rcases hValid.step hStep hCreates hNot with
    ⟨tx', rtx', hValid', _⟩
  exact ⟨tx', rtx', hValid'⟩

end QueueUse

end ML

end NapaBaselibs
