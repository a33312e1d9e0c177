import NapaBaselibs.ML.OutputQueue

/-
  `searchPacketInRTX` on a proper queue.

  The search finds the first kept packet that is asked for.
  With `keep` it changes nothing.  Without it, a packet at
  the head or between two others is taken out of the list.
  A packet at the tail behind others stays in the list, and
  the queue holds no list of packets any more.

  Key definitions include:
    * `isAsked`, `OutputQueue.Keeps`, `OutputQueue.kept`

  Key theorems include:
    * `searchPacketInRTX_none`
    * `searchPacketInRTX_keep`
    * `searchPacketInRTX_some`
    * `unlinkPacket_spec`, `unlinkPacket_last`
-/

------------------------------------------------------------
-- The Loop
------------------------------------------------------------

namespace NapaBaselibs

namespace ML

/- A request asks for the packet in a container. -/
def isAsked
    (connID msgSeqNum offset : Int32)
    (node : Nat × PacketContainer) : Bool :=
  decide (node.2.packet.IsAt connID msgSeqNum offset)

/- The queue for retransmission is a proper list. -/
structure OutputQueue.Keeps
    (q : OutputQueue)
    (rtx : List (Nat × PacketContainer)) : Prop where
  holds : LinkedQueue.Holds q.heap q.rtxQueue rtx
  size : q.rtxSize = totalSize rtx

theorem OutputQueue.Holds.keeps
    {q : OutputQueue}
    {tx rtx : List (Nat × PacketContainer)}
    (hHolds : q.Holds tx rtx) :
    q.Keeps rtx where
  holds := hHolds.rtxHolds
  size := hHolds.rtxSize

/- There is one list that the queue is. -/
theorem OutputQueue.Keeps.unique
    {q : OutputQueue}
    {rtx rtx' : List (Nat × PacketContainer)}
    (hKeeps : q.Keeps rtx)
    (hKeeps' : q.Keeps rtx') :
    rtx = rtx' :=
  hKeeps.holds.path.unique hKeeps'.holds.path

/- The containers in the queue for retransmission. -/
def OutputQueue.kept
    (q : OutputQueue) : List (Nat × PacketContainer) :=
  LinkedQueue.nodesFrom q.heap q.fuel q.rtxQueue.head

/- Following the pointers lists what the queue keeps. -/
theorem OutputQueue.Keeps.kept_eq
    {q : OutputQueue}
    {rtx : List (Nat × PacketContainer)}
    (hKeeps : q.Keeps rtx) :
    q.kept = rtx :=
  hKeeps.holds.path.nodesFrom_eq
    (Nat.lt_succ_of_le
      (hKeeps.holds.path.length_le hKeeps.holds.nodup))

section Search

variable {q : OutputQueue}
variable {tx rtx : List (Nat × PacketContainer)}
variable {connID msgSeqNum offset : Int32}
variable {keep : Bool}
variable {fuel : Nat}
variable {start : Option Nat}

/- A container that is not asked for is passed over. -/
theorem searchLoop_pass
    {node : Nat × PacketContainer}
    {next : Option Nat}
    (prev : Option Nat)
    (hCell : q.heap.lookup node.1 = some ⟨node.2, next⟩)
    (hOther :
      isAsked connID msgSeqNum offset node = false) :
    searchLoop connID msgSeqNum offset keep q (fuel + 1)
        (some node.1) prev =
      searchLoop connID msgSeqNum offset keep q fuel next
        (some node.1) := by
  have hNot :
      ¬ node.2.packet.IsAt connID msgSeqNum offset :=
    of_decide_eq_false hOther
  rw [searchLoop, deref_eq hCell, ok_bind]
  simp only [if_neg hNot]

/- Without a container that is asked for there is no answer. -/
theorem searchLoop_none
    {nodes : List (Nat × PacketContainer)}
    (prev : Option Nat)
    (hPath : LinkedQueue.Path q.heap start nodes)
    (hFuel : nodes.length < fuel)
    (hNone :
      ∀ node ∈ nodes,
        isAsked connID msgSeqNum offset node = false) :
    searchLoop connID msgSeqNum offset keep q fuel start
        prev =
      .ok (none, q) := by
  induction fuel generalizing start nodes prev with
  | zero => exact absurd hFuel (Nat.not_lt_zero _)
  | succ fuel ih =>
      cases nodes with
      | nil =>
          have hStart : start = none := hPath
          rw [hStart, searchLoop]
      | cons node nodes =>
          rcases hPath with ⟨rfl, next, hCell, hRest⟩
          rw [searchLoop_pass prev hCell
            (hNone node List.mem_cons_self)]
          apply ih _ hRest (by simpa using hFuel)
          intro other hMem
          exact hNone other (List.mem_cons_of_mem _ hMem)

/- What the loop does with the container it has found. -/
def answerFound
    (node : Nat × PacketContainer)
    (next prev : Option Nat)
    (keep : Bool)
    (q : OutputQueue) :
    Except QueueFault (Option Nat × OutputQueue) :=
  if keep then
    .ok (some node.1, q)
  else do
    let q' ← unlinkPacket node.1 prev ⟨node.2, next⟩ q
    .ok (some node.1, q')

/-
  The loop finds the first container that is asked for, with
  the address of the one before it.
-/
theorem searchLoop_some
    {front before after : List (Nat × PacketContainer)}
    {node : Nat × PacketContainer}
    {next : Option Nat}
    (hPath :
      LinkedQueue.Path q.heap start
        (before ++ node :: after))
    (hFuel : (before ++ node :: after).length < fuel)
    (hCell : q.heap.lookup node.1 = some ⟨node.2, next⟩)
    (hBefore :
      ∀ other ∈ before,
        isAsked connID msgSeqNum offset other = false)
    (hAsked :
      isAsked connID msgSeqNum offset node = true) :
    searchLoop connID msgSeqNum offset keep q fuel start
        (LinkedQueue.lastAddress front) =
      answerFound node next
        (LinkedQueue.lastAddress (front ++ before)) keep
        q := by
  induction before generalizing start fuel front with
  | nil =>
      have hIs :
          node.2.packet.IsAt connID msgSeqNum offset :=
        of_decide_eq_true hAsked
      rcases hPath with ⟨rfl, _⟩
      cases fuel with
      | zero => exact absurd hFuel (Nat.not_lt_zero _)
      | succ fuel =>
          rw [searchLoop, deref_eq hCell, ok_bind,
            List.append_nil]
          simp only [if_pos hIs]
          rfl
  | cons other before ih =>
      rcases hPath with ⟨rfl, next', hOther, hRest⟩
      cases fuel with
      | zero => exact absurd hFuel (Nat.not_lt_zero _)
      | succ fuel =>
          have hPrev :
              some other.1 =
                LinkedQueue.lastAddress
                  (front ++ [other]) := by
            rw [LinkedQueue.lastAddress_concat]
          rw [searchLoop_pass _ hOther
              (hBefore other List.mem_cons_self),
            hPrev,
            ih hRest (by simpa using hFuel)
              (fun another hMem =>
                hBefore another
                  (List.mem_cons_of_mem _ hMem)),
            List.append_assoc]
          rfl

------------------------------------------------------------
-- The Search
------------------------------------------------------------

/- No kept packet is asked for. -/
theorem searchPacketInRTX_none
    (hHolds : q.Holds tx rtx)
    (hNone :
      ∀ node ∈ rtx,
        isAsked connID msgSeqNum offset node = false) :
    searchPacketInRTX connID msgSeqNum offset keep q =
      .ok (none, q) :=
  searchLoop_none none hHolds.rtxHolds.path
    hHolds.length_lt_fuel hNone

/- A search finds the first packet that is asked for. -/
theorem searchPacketInRTX_some
    {before after : List (Nat × PacketContainer)}
    {node : Nat × PacketContainer}
    (hHolds : q.Holds tx (before ++ node :: after))
    (hBefore :
      ∀ other ∈ before,
        isAsked connID msgSeqNum offset other = false)
    (hAsked :
      isAsked connID msgSeqNum offset node = true) :
    ∃ next : Option Nat,
      q.heap.lookup node.1 = some ⟨node.2, next⟩ ∧
        LinkedQueue.Path q.heap next after ∧
        searchPacketInRTX connID msgSeqNum offset keep q =
          answerFound node next
            (LinkedQueue.lastAddress before) keep q := by
  rcases hHolds.rtxHolds.path.lookup_middle with
    ⟨next, hCell, hAfter⟩
  refine ⟨next, hCell, hAfter, ?_⟩
  exact
    @searchLoop_some _ _ _ _ _ _ _ [] _ _ _ _
      hHolds.rtxHolds.path hHolds.length_lt_fuel hCell
      hBefore hAsked

/- A search that keeps the packet only reads the queue. -/
theorem searchPacketInRTX_keep
    (hHolds : q.Holds tx rtx) :
    searchPacketInRTX connID msgSeqNum offset true q =
      .ok
        ((rtx.find?
            (isAsked connID msgSeqNum offset)).map Prod.fst,
          q) := by
  cases hFind :
      rtx.find? (isAsked connID msgSeqNum offset) with
  | none =>
      apply searchPacketInRTX_none hHolds
      intro node hMem
      exact Bool.eq_false_iff.mpr
        (List.find?_eq_none.mp hFind node hMem)
  | some node =>
      rcases List.find?_eq_some_iff_append.mp hFind with
        ⟨hAsked, before, after, rfl, hBefore⟩
      rcases @searchPacketInRTX_some _ _ _ _ _ true _ _ _
          hHolds
          (fun other hMem => by
            simpa using hBefore other hMem)
          hAsked with
        ⟨next, _, _, hSearch⟩
      exact hSearch

------------------------------------------------------------
-- Taking A Packet Out
------------------------------------------------------------

/- The list without one of its packets. -/
theorem OutputQueue.Holds.removed
    {before after : List (Nat × PacketContainer)}
    {node : Nat × PacketContainer}
    {heap : LinkedQueue.Heap PacketContainer}
    {rtxQueue : LinkedQueue.Queue}
    (hHolds : q.Holds tx (before ++ node :: after))
    (hTx : LinkedQueue.Holds heap q.txQueue tx)
    (hRtx :
      LinkedQueue.Holds heap rtxQueue (before ++ after)) :
    OutputQueue.Holds
      { q with
        heap := heap
        rtxQueue := rtxQueue
        rtxSize := q.rtxSize - node.2.pktLen }
      tx (before ++ after) where
  txHolds := hTx
  txTail := hHolds.txTail
  txSize := hHolds.txSize
  rtxHolds := hRtx
  rtxSize := by
    have hSize := hHolds.rtxSize
    simp only [totalSize_append, totalSize_cons] at hSize ⊢
    omega
  apart := by
    intro a hMem hIn
    apply hHolds.apart a hMem
    simp only [LinkedQueue.addresses_append,
      LinkedQueue.addresses_cons, List.mem_append,
      List.mem_cons] at hIn ⊢
    tauto
  wellSized := by
    intro other hMem
    apply hHolds.wellSized
    simp only [List.mem_append, List.mem_cons] at hMem ⊢
    tauto

/- The packet at the head is taken out of the list. -/
theorem unlinkPacket_head
    {after : List (Nat × PacketContainer)}
    {node : Nat × PacketContainer}
    {next : Option Nat}
    (prev : Option Nat)
    (hHolds : q.Holds tx (node :: after))
    (hCell : q.heap.lookup node.1 = some ⟨node.2, next⟩) :
    ∃ q' : OutputQueue,
      unlinkPacket node.1 prev ⟨node.2, next⟩ q = .ok q' ∧
        q'.params = q.params ∧
        q'.Holds tx after ∧
        q'.heap = q.heap := by
  have hHead : q.rtxQueue.head = some node.1 :=
    hHolds.rtxHolds.path.1
  refine ⟨_, if_pos hHead, rfl, ?_, rfl⟩
  exact
    @OutputQueue.Holds.removed _ _ [] _ _ _ _ hHolds
      hHolds.txHolds (hHolds.rtxHolds.advance hCell)

/-
  A packet between two others is taken out of the list, and
  only the cell before it changes.
-/
theorem unlinkPacket_middle
    {before after : List (Nat × PacketContainer)}
    {prev node : Nat × PacketContainer}
    {next : Option Nat}
    (hHolds : q.Holds tx (before ++ prev :: node :: after))
    (hCell : q.heap.lookup node.1 = some ⟨node.2, next⟩)
    (hAfter : after ≠ []) :
    ∃ q' : OutputQueue,
      unlinkPacket node.1 (some prev.1) ⟨node.2, next⟩ q =
          .ok q' ∧
        q'.params = q.params ∧
        q'.Holds tx (before ++ prev :: after) ∧
        ∀ a, a ≠ prev.1 →
          q'.heap.lookup a = q.heap.lookup a := by
  rcases hHolds.rtxHolds.path.lookup_middle with
    ⟨_, hPrev, _⟩
  have hSplit :
      before ++ prev :: node :: after =
        (before ++ [prev]) ++ node :: after := by
    simp
  have hLater := hHolds
  rw [hSplit] at hLater
  have hHead : q.rtxQueue.head ≠ some node.1 :=
    hLater.rtxHolds.head_ne (by simp)
  have hTail : q.rtxQueue.tail ≠ some node.1 :=
    hLater.rtxHolds.tail_ne hAfter
  have hNotTx : prev.1 ∉ LinkedQueue.addresses tx := by
    intro hMem
    apply hHolds.apart prev.1 hMem
    exact LinkedQueue.mem_addresses (by simp)
  have hRtx := hHolds.rtxHolds.unlink hCell hAfter
  have hJoin :
      before ++ prev :: after =
        (before ++ [prev]) ++ after := by
    simp
  refine
    ⟨{ q with
        heap := q.heap.insert prev.1 ⟨prev.2, next⟩
        rtxSize := q.rtxSize - node.2.pktLen },
      ?_, rfl, ?_, ?_⟩
  · unfold unlinkPacket
    rw [if_neg hHead]
    simp only [deref_eq hPrev, ok_bind, if_neg hTail]
  · rw [hJoin] at hRtx ⊢
    exact
      hLater.removed (hHolds.txHolds.insert _ hNotTx) hRtx
  · intro a hNe
    exact AList.lookup_insert_ne hNe

/-
  A packet at the head, or with others on both sides, is
  taken out, and only cells before it can change.
-/
theorem unlinkPacket_spec
    {before after : List (Nat × PacketContainer)}
    {node : Nat × PacketContainer}
    {next : Option Nat}
    (hHolds : q.Holds tx (before ++ node :: after))
    (hCell : q.heap.lookup node.1 = some ⟨node.2, next⟩)
    (hPlace : before = [] ∨ after ≠ []) :
    ∃ q' : OutputQueue,
      unlinkPacket node.1 (LinkedQueue.lastAddress before)
          ⟨node.2, next⟩ q = .ok q' ∧
        q'.Holds tx (before ++ after) ∧
        ∀ a, a ∉ LinkedQueue.addresses before →
          q'.heap.lookup a = q.heap.lookup a := by
  rcases List.eq_nil_or_concat before with
    rfl | ⟨front, prev, rfl⟩
  · rcases unlinkPacket_head none hHolds hCell with
      ⟨q', hUnlink, _, hHolds', hHeap⟩
    refine ⟨q', hUnlink, hHolds', ?_⟩
    intro a _
    rw [hHeap]
  · have hAfter : after ≠ [] :=
      hPlace.resolve_left (by simp)
    rw [List.concat_eq_append] at hHolds ⊢
    rw [List.append_assoc, List.singleton_append] at hHolds
    rcases unlinkPacket_middle hHolds hCell hAfter with
      ⟨q', hUnlink, _, hHolds', hFrame⟩
    rw [LinkedQueue.lastAddress_concat, List.append_assoc,
      List.singleton_append]
    refine ⟨q', hUnlink, hHolds', ?_⟩
    intro a hNot
    apply hFrame
    rintro rfl
    exact hNot (LinkedQueue.mem_addresses (by simp))

/-
  The packet at the tail stays in the list behind the others,
  and the last pointer and the size leave it out.
-/
theorem unlinkPacket_last
    {before : List (Nat × PacketContainer)}
    {node : Nat × PacketContainer}
    {next : Option Nat}
    (hHolds : q.Holds tx (before ++ [node]))
    (hBefore : before ≠ []) :
    ∃ q' : OutputQueue,
      unlinkPacket node.1 (LinkedQueue.lastAddress before)
          ⟨node.2, next⟩ q = .ok q' ∧
        ∀ rtx, ¬ q'.Keeps rtx := by
  have hHead : q.rtxQueue.head ≠ some node.1 :=
    hHolds.rtxHolds.head_ne hBefore
  have hTail : q.rtxQueue.tail = some node.1 := by
    rw [hHolds.rtxHolds.tail (by simp),
      LinkedQueue.lastAddress_concat]
  rcases List.eq_nil_or_concat before with
    rfl | ⟨front, prev, rfl⟩
  · exact absurd rfl hBefore
  · rw [List.concat_eq_append] at hHolds hBefore ⊢
    have hSplit :
        front ++ [prev] ++ [node] =
          front ++ prev :: [node] := by
      simp
    have hPath := hHolds.rtxHolds.path
    rw [hSplit] at hPath
    rcases hPath.lookup_middle with ⟨_, hPrev, _⟩
    refine
      ⟨{ q with
          rtxQueue := { q.rtxQueue with tail := some prev.1 }
          rtxSize := q.rtxSize - node.2.pktLen },
        ?_, ?_⟩
    · unfold unlinkPacket
      rw [if_neg hHead, LinkedQueue.lastAddress_concat]
      simp only [deref_eq hPrev, ok_bind, if_pos hTail]
    · intro rtx hKeeps
      have hSame :
          rtx = front ++ [prev] ++ [node] :=
        hKeeps.holds.path.unique hHolds.rtxHolds.path
      have hLast := hKeeps.holds.tail (by simp [hSame])
      rw [hSame, LinkedQueue.lastAddress_concat] at hLast
      have hApart := hHolds.rtxHolds.nodup
      rw [LinkedQueue.addresses_append, List.nodup_append]
        at hApart
      apply hApart.2.2 prev.1
        (LinkedQueue.mem_addresses (by simp)) node.1
        List.mem_cons_self
      exact Option.some.inj hLast

end Search

end ML

end NapaBaselibs
