import Mathlib.Data.List.AList
import Mathlib.Data.List.Perm.Subperm

/-
  Singly linked queues in a heap.

  A heap maps the allocated addresses to cells, and a queue
  is a pair of pointers, to its first and to its last node.
  What a queue holds is a list of addresses and values: the
  nodes that the pointers go through, in their order.

  Key definitions include:
    * `LinkedQueue.Cell`, `LinkedQueue.Heap`
    * `LinkedQueue.Path`, `LinkedQueue.Holds`
    * `LinkedQueue.nodesFrom`
    * `LinkedQueue.append`, `LinkedQueue.appendLast`

  Key theorems include:
    * `LinkedQueue.Path.frame`
    * `LinkedQueue.Path.unique`
    * `LinkedQueue.Path.length_le`
    * `LinkedQueue.Path.nodesFrom_eq`
    * `LinkedQueue.Holds.append`
    * `LinkedQueue.Holds.advance`
    * `LinkedQueue.Holds.unlink`
-/

------------------------------------------------------------
-- Heaps And Paths
------------------------------------------------------------

namespace LinkedQueue

variable {α : Type}

/- An allocated node: its value and its `next` pointer. -/
structure Cell (α : Type) where
  value : α
  next : Option Nat

/- The allocated nodes, by their addresses. -/
abbrev Heap (α : Type) := AList (fun _ : Nat => Cell α)

/- The two pointers of a queue. -/
structure Queue where
  head : Option Nat
  tail : Option Nat
deriving DecidableEq, Repr

namespace Queue

/- The queue with two null pointers. -/
def empty : Queue where
  head := none
  tail := none

end Queue

/- The addresses of some nodes. -/
def addresses (nodes : List (Nat × α)) : List Nat :=
  nodes.map Prod.fst

/- The values of some nodes. -/
def values (nodes : List (Nat × α)) : List α :=
  nodes.map Prod.snd

/- The address of the last of some nodes. -/
def lastAddress (nodes : List (Nat × α)) : Option Nat :=
  nodes.getLast?.map Prod.fst

section Projections

variable (node : Nat × α)
variable (first second : List (Nat × α))

@[simp] theorem addresses_nil :
    addresses ([] : List (Nat × α)) = [] := rfl

@[simp] theorem addresses_cons :
    addresses (node :: first) =
      node.1 :: addresses first := rfl

@[simp] theorem addresses_append :
    addresses (first ++ second) =
      addresses first ++ addresses second :=
  List.map_append

@[simp] theorem values_nil :
    values ([] : List (Nat × α)) = [] := rfl

@[simp] theorem values_cons :
    values (node :: first) = node.2 :: values first := rfl

@[simp] theorem values_append :
    values (first ++ second) =
      values first ++ values second :=
  List.map_append

@[simp] theorem length_addresses :
    (addresses first).length = first.length :=
  List.length_map _

@[simp] theorem lastAddress_nil :
    lastAddress ([] : List (Nat × α)) = none := rfl

@[simp] theorem lastAddress_singleton :
    lastAddress [node] = some node.1 := rfl

@[simp] theorem lastAddress_cons_cons
    (second : Nat × α)
    (rest : List (Nat × α)) :
    lastAddress (node :: second :: rest) =
      lastAddress (second :: rest) := by
  simp [lastAddress]

@[simp] theorem lastAddress_concat :
    lastAddress (first ++ [node]) = some node.1 := by
  simp [lastAddress]

theorem mem_addresses
    {node : Nat × α}
    {nodes : List (Nat × α)}
    (hMem : node ∈ nodes) :
    node.1 ∈ addresses nodes :=
  List.mem_map_of_mem hMem

end Projections

/- Only the empty list of nodes has no last address. -/
theorem lastAddress_eq_none_iff
    {nodes : List (Nat × α)} :
    lastAddress nodes = none ↔ nodes = [] := by
  simp [lastAddress]

/- The address of the last node is one of the addresses. -/
theorem lastAddress_mem
    {nodes : List (Nat × α)}
    {a : Nat}
    (hLast : lastAddress nodes = some a) :
    a ∈ addresses nodes := by
  unfold lastAddress at hLast
  rcases Option.map_eq_some_iff.mp hLast with
    ⟨node, hNode, rfl⟩
  exact mem_addresses (List.mem_of_getLast? hNode)

/-
  The nodes that the pointers go through from `start` on, as
  many as asked for and as far as they lead to cells.
-/
def nodesFrom (heap : Heap α) :
    Nat → Option Nat → List (Nat × α)
| 0, _ => []
| _ + 1, none => []
| count + 1, some a =>
    match heap.lookup a with
    | none => []
    | some cell =>
        (a, cell.value) :: nodesFrom heap count cell.next

/-
  Following the pointers from `start` goes through exactly
  these nodes and ends at a null pointer.
-/
def Path (heap : Heap α) :
    Option Nat → List (Nat × α) → Prop
| start, [] => start = none
| start, node :: rest =>
    start = some node.1 ∧
      ∃ next : Option Nat,
        heap.lookup node.1 = some ⟨node.2, next⟩ ∧
          Path heap next rest

namespace Path

variable {heap heap' : Heap α}
variable {start : Option Nat}
variable {nodes : List (Nat × α)}

/- From a null pointer there is no node. -/
theorem eq_nil
    (hPath : Path heap none nodes) :
    nodes = [] := by
  cases nodes with
  | nil => rfl
  | cons node rest => cases hPath.1

/- From an address on there is a first node. -/
theorem exists_cons
    {a : Nat}
    (hPath : Path heap (some a) nodes) :
    ∃ (v : α) (next : Option Nat) (rest : List (Nat × α)),
      nodes = (a, v) :: rest ∧
        heap.lookup a = some ⟨v, next⟩ ∧
        Path heap next rest := by
  cases nodes with
  | nil => cases hPath
  | cons node rest =>
      rcases hPath with ⟨hStart, next, hCell, hRest⟩
      rcases node with ⟨b, v⟩
      cases hStart
      exact ⟨v, next, rest, rfl, hCell, hRest⟩

/- The start pointer is null just if there is no node. -/
theorem start_eq_none_iff
    (hPath : Path heap start nodes) :
    start = none ↔ nodes = [] := by
  cases nodes with
  | nil => simp [show start = none from hPath]
  | cons node rest => simp [hPath.1]

/- Every node of the path is allocated. -/
theorem mem_keys
    (hPath : Path heap start nodes)
    {a : Nat}
    (hMem : a ∈ addresses nodes) :
    a ∈ heap.keys := by
  induction nodes generalizing start with
  | nil => cases hMem
  | cons node rest ih =>
      rcases hPath with ⟨_, next, hCell, hRest⟩
      rcases List.mem_cons.mp hMem with hHere | hLater
      · subst hHere
        apply AList.mem_keys.mp
        apply AList.lookup_isSome.mp
        rw [hCell]
        rfl
      · exact ih hRest hLater

/- An address that is not allocated is not on the path. -/
theorem not_mem_of_lookup_eq_none
    (hPath : Path heap start nodes)
    {a : Nat}
    (hFree : heap.lookup a = none) :
    a ∉ addresses nodes := by
  intro hMem
  have hKey := hPath.mem_keys hMem
  exact AList.lookup_eq_none.mp hFree
    (AList.mem_keys.mpr hKey)

/- The pointers go through one list of nodes only. -/
theorem unique
    {nodes' : List (Nat × α)}
    (hPath : Path heap start nodes)
    (hPath' : Path heap start nodes') :
    nodes = nodes' := by
  induction nodes generalizing start nodes' with
  | nil =>
      have hNone : start = none := hPath
      subst hNone
      exact hPath'.eq_nil.symm
  | cons node rest ih =>
      rcases hPath with ⟨rfl, next, hCell, hRest⟩
      rcases hPath'.exists_cons with
        ⟨v, next', rest', rfl, hCell', hRest'⟩
      rw [hCell] at hCell'
      cases hCell'
      rw [ih hRest hRest']

/- A path depends on the cells of its own nodes only. -/
theorem frame
    (hSame :
      ∀ a ∈ addresses nodes,
        heap'.lookup a = heap.lookup a)
    (hPath : Path heap start nodes) :
    Path heap' start nodes := by
  induction nodes generalizing start with
  | nil => exact hPath
  | cons node rest ih =>
      rcases hPath with ⟨hStart, next, hCell, hRest⟩
      refine ⟨hStart, next, ?_, ?_⟩
      · rw [hSame node.1 List.mem_cons_self]
        exact hCell
      · exact ih
          (fun a hMem =>
            hSame a (List.mem_cons_of_mem _ hMem))
          hRest

/- Storing a cell elsewhere leaves the path alone. -/
theorem insert
    {a : Nat}
    (cell : Cell α)
    (hNot : a ∉ addresses nodes)
    (hPath : Path heap start nodes) :
    Path (heap.insert a cell) start nodes := by
  apply hPath.frame
  intro b hMem
  apply AList.lookup_insert_ne
  intro hEq
  exact hNot (hEq ▸ hMem)

/- Freeing a cell elsewhere leaves the path alone. -/
theorem erase
    {a : Nat}
    (hNot : a ∉ addresses nodes)
    (hPath : Path heap start nodes) :
    Path (heap.erase a) start nodes := by
  apply hPath.frame
  intro b hMem
  apply AList.lookup_erase_ne
  intro hEq
  exact hNot (hEq ▸ hMem)

/- A path without repetition is no longer than the heap. -/
theorem length_le
    (hPath : Path heap start nodes)
    (hNodup : (addresses nodes).Nodup) :
    nodes.length ≤ heap.entries.length := by
  have hSub : (addresses nodes).Subperm heap.keys :=
    hNodup.subperm (fun a hMem => hPath.mem_keys hMem)
  have hLe := hSub.length_le
  have hKeys : heap.keys.length = heap.entries.length :=
    List.length_map _
  rw [length_addresses, hKeys] at hLe
  exact hLe

/- Following enough pointers lists the path. -/
theorem nodesFrom_eq
    (hPath : Path heap start nodes)
    {count : Nat}
    (hCount : nodes.length < count) :
    nodesFrom heap count start = nodes := by
  induction nodes generalizing start count with
  | nil =>
      have hNone : start = none := hPath
      subst hNone
      cases count with
      | zero => rfl
      | succ count => rfl
  | cons node rest ih =>
      rcases hPath with ⟨rfl, next, hCell, hRest⟩
      cases count with
      | zero => exact absurd hCount (Nat.not_lt_zero _)
      | succ count =>
          rw [List.length_cons] at hCount
          unfold nodesFrom
          rw [hCell]
          simp only [ih hRest (Nat.lt_of_succ_lt_succ hCount)]

/- The cell of the last node ends the path. -/
theorem lookup_last
    {a : Nat}
    (hPath : Path heap start nodes)
    (hLast : lastAddress nodes = some a) :
    ∃ v : α, heap.lookup a = some ⟨v, none⟩ := by
  induction nodes generalizing start with
  | nil => cases hLast
  | cons node rest ih =>
      rcases hPath with ⟨_, next, hCell, hRest⟩
      cases rest with
      | nil =>
          have hNext : next = none := hRest
          subst hNext
          cases hLast
          exact ⟨node.2, hCell⟩
      | cons second rest =>
          rw [lastAddress_cons_cons] at hLast
          exact ih hRest hLast

/- Linking one more node behind the last one. -/
theorem link
    {a last : Nat}
    {v : α}
    {cell : Cell α}
    (hPath : Path heap start nodes)
    (hNodup : (addresses nodes).Nodup)
    (hLast : lastAddress nodes = some last)
    (hCell : heap.lookup last = some cell)
    (hNew : heap.lookup a = some ⟨v, none⟩)
    (hFresh : a ∉ addresses nodes) :
    Path (heap.insert last { cell with next := some a })
      start (nodes ++ [(a, v)]) := by
  have hNe : a ≠ last := by
    intro hEq
    exact hFresh (hEq ▸ lastAddress_mem hLast)
  induction nodes generalizing start with
  | nil => cases hLast
  | cons node rest ih =>
      rcases hPath with ⟨hStart, next, hHere, hRest⟩
      have hApart := List.nodup_cons.mp hNodup
      cases rest with
      | nil =>
          rw [lastAddress_singleton] at hLast
          cases hLast
          rw [hHere] at hCell
          cases hCell
          refine ⟨hStart, some a, AList.lookup_insert heap,
            rfl, none, ?_, rfl⟩
          rw [AList.lookup_insert_ne hNe]
          exact hNew
      | cons second rest =>
          have hLater := hLast
          rw [lastAddress_cons_cons] at hLater
          have hOther : node.1 ≠ last := by
            intro hEq
            exact hApart.1 (hEq ▸ lastAddress_mem hLater)
          refine ⟨hStart, next, ?_, ?_⟩
          · rw [AList.lookup_insert_ne hOther]
            exact hHere
          · apply ih hRest hApart.2 hLater
            intro hMem
            exact hFresh (List.mem_cons_of_mem _ hMem)

/- The path from a later node on. -/
theorem of_append
    {first rest : List (Nat × α)}
    (hPath : Path heap start (first ++ rest)) :
    ∃ middle, Path heap middle rest := by
  induction first generalizing start with
  | nil => exact ⟨start, hPath⟩
  | cons node first ih =>
      rcases hPath with ⟨_, next, _, hRest⟩
      exact ih hRest

/- The cell of a node points to what follows it. -/
theorem lookup_middle
    {first rest : List (Nat × α)}
    {node : Nat × α}
    (hPath : Path heap start (first ++ node :: rest)) :
    ∃ next,
      heap.lookup node.1 = some ⟨node.2, next⟩ ∧
        Path heap next rest := by
  rcases hPath.of_append with ⟨middle, _, next, hCell, hRest⟩
  exact ⟨next, hCell, hRest⟩

/- Linking the node before a node to what follows it. -/
theorem unlink
    {first rest : List (Nat × α)}
    {before node : Nat × α}
    {next : Option Nat}
    (hPath :
      Path heap start (first ++ before :: node :: rest))
    (hNodup :
      (addresses (first ++ before :: node :: rest)).Nodup)
    (hCell : heap.lookup node.1 = some ⟨node.2, next⟩) :
    Path (heap.insert before.1 ⟨before.2, next⟩) start
      (first ++ before :: rest) := by
  induction first generalizing start with
  | nil =>
      rcases hPath with
        ⟨hStart, _, _, _, next', hNode, hRest⟩
      rw [hCell] at hNode
      cases hNode
      have hApart := (List.nodup_cons.mp hNodup).1
      refine ⟨hStart, next, AList.lookup_insert heap, ?_⟩
      apply hRest.insert
      intro hMem
      exact hApart (List.mem_cons_of_mem _ hMem)
  | cons other first ih =>
      rcases hPath with ⟨hStart, next', hHere, hRest⟩
      have hApart := List.nodup_cons.mp hNodup
      refine ⟨hStart, next', ?_, ih hRest hApart.2⟩
      have hNe : other.1 ≠ before.1 := by
        intro hEq
        apply hApart.1
        rw [hEq]
        exact
          mem_addresses
            (List.mem_append_right first List.mem_cons_self)
      rw [AList.lookup_insert_ne hNe]
      exact hHere

end Path

------------------------------------------------------------
-- Queues
------------------------------------------------------------

/-
  A queue that holds some nodes.  The last pointer is only
  used when there is a node, and may be stale otherwise.
-/
structure Holds
    (heap : Heap α)
    (queue : Queue)
    (nodes : List (Nat × α)) : Prop where
  path : Path heap queue.head nodes
  nodup : (addresses nodes).Nodup
  tail : nodes ≠ [] → queue.tail = lastAddress nodes

/-
  Link an allocated node with a null `next` pointer at the
  end, as the usual code does: `none` where it would go
  through a pointer to no node.
-/
def append
    (heap : Heap α)
    (queue : Queue)
    (a : Nat) : Option (Heap α × Queue) :=
  match queue.head with
  | none => some (heap, ⟨some a, some a⟩)
  | some _ =>
      match queue.tail with
      | none => none
      | some last =>
          match heap.lookup last with
          | none => none
          | some cell =>
              some
                (heap.insert last
                    { cell with next := some a },
                  ⟨queue.head, some a⟩)

/-
  The same, where the code tests the last pointer to know
  whether there is a node.
-/
def appendLast
    (heap : Heap α)
    (queue : Queue)
    (a : Nat) : Option (Heap α × Queue) :=
  match queue.tail with
  | none => some (heap, ⟨some a, some a⟩)
  | some last =>
      match heap.lookup last with
      | none => none
      | some cell =>
          some
            (heap.insert last { cell with next := some a },
              ⟨queue.head, some a⟩)

/- Both tests agree when the pointers are null together. -/
theorem appendLast_eq_append
    {queue : Queue}
    (heap : Heap α)
    (a : Nat)
    (hEnds : queue.head = none ↔ queue.tail = none) :
    appendLast heap queue a = append heap queue a := by
  unfold appendLast append
  cases hTail : queue.tail with
  | none =>
      rw [hEnds.mpr hTail]
  | some last =>
      cases hHead : queue.head with
      | none =>
          rw [hEnds.mp hHead] at hTail
          cases hTail
      | some first => rfl

namespace Holds

variable {heap : Heap α}
variable {queue : Queue}
variable {nodes : List (Nat × α)}

/- Two null pointers hold nothing. -/
theorem empty
    (heap : Heap α) :
    Holds heap Queue.empty [] where
  path := rfl
  nodup := List.nodup_nil
  tail := fun hNe => absurd rfl hNe

/- A queue depends on the cells of its own nodes only. -/
theorem frame
    {heap' : Heap α}
    (hSame :
      ∀ a ∈ addresses nodes,
        heap'.lookup a = heap.lookup a)
    (hHolds : Holds heap queue nodes) :
    Holds heap' queue nodes where
  path := hHolds.path.frame hSame
  nodup := hHolds.nodup
  tail := hHolds.tail

/- Storing a cell elsewhere leaves the queue alone. -/
theorem insert
    {a : Nat}
    (cell : Cell α)
    (hNot : a ∉ addresses nodes)
    (hHolds : Holds heap queue nodes) :
    Holds (heap.insert a cell) queue nodes where
  path := hHolds.path.insert cell hNot
  nodup := hHolds.nodup
  tail := hHolds.tail

/- Freeing a cell elsewhere leaves the queue alone. -/
theorem erase
    {a : Nat}
    (hNot : a ∉ addresses nodes)
    (hHolds : Holds heap queue nodes) :
    Holds (heap.erase a) queue nodes where
  path := hHolds.path.erase hNot
  nodup := hHolds.nodup
  tail := hHolds.tail

/- Going to the next pointer drops the first node. -/
theorem advance
    {a : Nat}
    {v : α}
    {next : Option Nat}
    {rest : List (Nat × α)}
    (hHolds : Holds heap queue ((a, v) :: rest))
    (hCell : heap.lookup a = some ⟨v, next⟩) :
    Holds heap ⟨next, queue.tail⟩ rest := by
  rcases hHolds.path with ⟨_, next', hHere, hRest⟩
  rw [hCell] at hHere
  cases hHere
  refine ⟨hRest, (List.nodup_cons.mp hHolds.nodup).2, ?_⟩
  intro hNe
  have hTail := hHolds.tail (List.cons_ne_nil _ _)
  rcases List.exists_cons_of_ne_nil hNe with
    ⟨second, others, rfl⟩
  rw [lastAddress_cons_cons] at hTail
  exact hTail

/-
  Appending a fresh node: the queue holds it at its end, its
  last pointer is the node, and no other cell than those of
  the queue has changed.
-/
theorem append
    {a : Nat}
    {v : α}
    (hHolds : Holds heap queue nodes)
    (hNew : heap.lookup a = some ⟨v, none⟩)
    (hFresh : a ∉ addresses nodes) :
    ∃ (heap' : Heap α) (queue' : Queue),
      LinkedQueue.append heap queue a =
          some (heap', queue') ∧
        Holds heap' queue' (nodes ++ [(a, v)]) ∧
        queue'.tail = some a ∧
        ∀ b, b ∉ addresses nodes →
          heap'.lookup b = heap.lookup b := by
  have hNodup :
      (addresses (nodes ++ [(a, v)])).Nodup := by
    rw [addresses_append, List.nodup_append]
    refine ⟨hHolds.nodup, List.nodup_singleton a, ?_⟩
    intro b hIn c hEnd hEq
    rcases List.mem_singleton.mp hEnd with rfl
    exact hFresh (hEq ▸ hIn)
  unfold LinkedQueue.append
  cases hHead : queue.head with
  | none =>
      have hNil : nodes = [] :=
        hHolds.path.start_eq_none_iff.mp hHead
      subst hNil
      refine ⟨heap, ⟨some a, some a⟩, rfl, ?_, rfl,
        fun _ _ => rfl⟩
      exact ⟨⟨rfl, none, hNew, rfl⟩, hNodup,
        fun _ => rfl⟩
  | some first =>
      have hNe : nodes ≠ [] := by
        intro hNil
        have hNone :=
          hHolds.path.start_eq_none_iff.mpr hNil
        rw [hHead] at hNone
        cases hNone
      have hTail := hHolds.tail hNe
      cases hLast : lastAddress nodes with
      | none =>
          exact absurd (lastAddress_eq_none_iff.mp hLast)
            hNe
      | some last =>
          rcases hHolds.path.lookup_last hLast with
            ⟨w, hCell⟩
          rw [hLast] at hTail
          refine
            ⟨heap.insert last ⟨w, some a⟩,
              ⟨some first, some a⟩, ?_, ?_, rfl, ?_⟩
          · rw [hTail]
            simp only [hCell]
          · refine ⟨?_, hNodup, ?_⟩
            · rw [← hHead]
              exact hHolds.path.link hHolds.nodup hLast
                hCell hNew hFresh
            · intro _
              rw [lastAddress_concat]
          · intro b hNot
            apply AList.lookup_insert_ne
            intro hEq
            exact hNot (hEq ▸ lastAddress_mem hLast)

/- The first pointer is not that of a later node. -/
theorem head_ne
    {first rest : List (Nat × α)}
    {node : Nat × α}
    (hHolds : Holds heap queue (first ++ node :: rest))
    (hFirst : first ≠ []) :
    queue.head ≠ some node.1 := by
  rcases List.exists_cons_of_ne_nil hFirst with
    ⟨other, others, rfl⟩
  rw [hHolds.path.1]
  intro hEq
  apply (List.nodup_cons.mp hHolds.nodup).1
  rw [Option.some.inj hEq]
  exact
    mem_addresses
      (List.mem_append_right others List.mem_cons_self)

/- The last pointer is not that of an earlier node. -/
theorem tail_ne
    {first rest : List (Nat × α)}
    {node : Nat × α}
    (hHolds : Holds heap queue (first ++ node :: rest))
    (hRest : rest ≠ []) :
    queue.tail ≠ some node.1 := by
  have hNodup := hHolds.nodup
  rw [hHolds.tail (by simp)]
  rcases List.eq_nil_or_concat rest with
    rfl | ⟨others, last, rfl⟩
  · exact absurd rfl hRest
  · rw [List.concat_eq_append] at hNodup ⊢
    rw [← List.cons_append, ← List.append_assoc,
      lastAddress_concat]
    intro hEq
    rw [addresses_append, addresses_cons,
      List.nodup_append] at hNodup
    apply (List.nodup_cons.mp hNodup.2.1).1
    rw [← Option.some.inj hEq]
    exact mem_addresses (by simp)

/- Removing a node that is neither the first nor the last. -/
theorem unlink
    {first rest : List (Nat × α)}
    {before node : Nat × α}
    {next : Option Nat}
    (hHolds :
      Holds heap queue (first ++ before :: node :: rest))
    (hCell : heap.lookup node.1 = some ⟨node.2, next⟩)
    (hRest : rest ≠ []) :
    Holds (heap.insert before.1 ⟨before.2, next⟩) queue
      (first ++ before :: rest) where
  path := hHolds.path.unlink hHolds.nodup hCell
  nodup := by
    apply List.Nodup.sublist _ hHolds.nodup
    apply List.Sublist.map
    apply List.Sublist.append_left
    exact (List.sublist_cons_self node rest).cons_cons before
  tail := by
    intro _
    rw [hHolds.tail (by simp)]
    rcases List.exists_cons_of_ne_nil hRest with
      ⟨last, others, rfl⟩
    simp [lastAddress]

end Holds

end LinkedQueue
