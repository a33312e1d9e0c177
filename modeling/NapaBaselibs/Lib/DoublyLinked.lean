import Mathlib.Data.List.Nodup
import Mathlib.Logic.Function.Basic

/-
  Doubly linked lists in a heap.

  A heap maps the allocated addresses to their two pointers,
  and a list has a pointer to each of its ends.  What a list
  holds are addresses in an order: each node points to the
  one before it and to the one behind it.

  Key definitions include:
    * `DoublyLinked.Links`, `DoublyLinked.Heap`
    * `DoublyLinked.Path`, `DoublyLinked.Holds`
    * `DoublyLinked.linkNext`, `DoublyLinked.linkPrev`
    * `DoublyLinked.pushBack`, `DoublyLinked.unlink`

  Key theorems include:
    * `DoublyLinked.Path.unique`
    * `DoublyLinked.Holds.forward`, `Holds.backward`
    * `DoublyLinked.Holds.pushBack`
    * `DoublyLinked.Holds.unlink`
-/

------------------------------------------------------------
-- Heaps And Paths
------------------------------------------------------------

namespace DoublyLinked

variable {P : Type}

/- The two pointers of an allocated node. -/
structure Links (P : Type) where
  next : Option P
  prev : Option P
deriving DecidableEq

/- The allocated nodes, by their addresses. -/
abbrev Heap (P : Type) := P → Option (Links P)

/- The pointers to the ends of a list. -/
structure Ends (P : Type) where
  first : Option P
  last : Option P
deriving DecidableEq

/- The list with two null pointers. -/
def Ends.empty : Ends P where
  first := none
  last := none

/- The `next` pointer of a node, if it is allocated. -/
def Heap.next
    (heap : Heap P)
    (p : P) : Option (Option P) :=
  (heap p).map Links.next

/- The `prev` pointer of a node, if it is allocated. -/
def Heap.prev
    (heap : Heap P)
    (p : P) : Option (Option P) :=
  (heap p).map Links.prev

/-
  Following one kind of pointer from `start` goes through
  exactly these nodes, all of them allocated, and ends at a
  null pointer.
-/
def Path (follow : P → Option (Option P)) :
    Option P → List P → Prop
| start, [] => start = none
| start, p :: rest =>
    start = some p ∧
      ∃ next : Option P,
        follow p = some next ∧ Path follow next rest

namespace Path

variable {follow : P → Option (Option P)}
variable {start : Option P}
variable {ps : List P}

/- The pointers go through one list of nodes only. -/
theorem unique
    {ps' : List P}
    (hPath : Path follow start ps)
    (hPath' : Path follow start ps') :
    ps = ps' := by
  induction ps generalizing start ps' with
  | nil =>
      have hNone : start = none := hPath
      subst hNone
      cases ps' with
      | nil => rfl
      | cons p rest => cases hPath'.1
  | cons p rest ih =>
      rcases hPath with ⟨rfl, next, hNext, hRest⟩
      cases ps' with
      | nil => cases hPath'
      | cons p' rest' =>
          rcases hPath' with ⟨hStart, next', hNext', hRest'⟩
          cases hStart
          rw [hNext] at hNext'
          cases hNext'
          rw [ih hRest hRest']

/- The start pointer is null just if there is no node. -/
theorem start_eq_none_iff
    (hPath : Path follow start ps) :
    start = none ↔ ps = [] := by
  cases ps with
  | nil => simp [show start = none from hPath]
  | cons p rest => simp [hPath.1]

end Path

/-
  What a list holds: no node is there twice, the ends are the
  first and the last node, and every node is allocated and
  points to its two neighbours.
-/
structure Holds
    (heap : Heap P)
    (ends : Ends P)
    (ps : List P) : Prop where
  nodup : ps.Nodup
  first : ends.first = ps.head?
  last : ends.last = ps.getLast?
  links :
    ∀ before p after,
      ps = before ++ p :: after →
        heap p = some ⟨after.head?, before.getLast?⟩

------------------------------------------------------------
-- The Ends Of A List
------------------------------------------------------------

/- Without repetition only the first node is at the head. -/
theorem head?_append_cons_eq_iff
    {first rest : List P}
    {p : P}
    (hNodup : (first ++ p :: rest).Nodup) :
    (first ++ p :: rest).head? = some p ↔ first = [] := by
  cases first with
  | nil => simp
  | cons q first =>
      have hApart := (List.nodup_cons.mp hNodup).1
      simp only [List.cons_append, List.head?_cons,
        Option.some.injEq, reduceCtorEq, iff_false]
      rintro rfl
      exact hApart
        (List.mem_append_right first List.mem_cons_self)

/- Without repetition only the last node is at the end. -/
theorem getLast?_append_cons_eq_iff
    {first rest : List P}
    {p : P}
    (hNodup : (first ++ p :: rest).Nodup) :
    (first ++ p :: rest).getLast? = some p ↔ rest = [] := by
  rcases List.eq_nil_or_concat rest with
    rfl | ⟨rest, q, rfl⟩
  · simp
  · rw [List.concat_eq_append] at hNodup ⊢
    have hApart :=
      (List.nodup_cons.mp
        (List.nodup_append.mp hNodup).2.1).1
    have hLast :
        (first ++ p :: (rest ++ [q])).getLast? = some q := by
      rw [← List.cons_append, ← List.append_assoc]
      exact List.getLast?_concat
    rw [hLast]
    simp only [Option.some.injEq, List.append_eq_nil_iff,
      List.cons_ne_self, and_false, iff_false]
    rintro rfl
    exact hApart
      (List.mem_append_right rest List.mem_cons_self)

/- A node that is not the first can go without the head. -/
theorem head?_append_of_cons
    {before : List P}
    (p : P)
    (after : List P)
    (hBefore : before ≠ []) :
    (before ++ after).head? =
      (before ++ p :: after).head? := by
  rw [List.head?_append_of_ne_nil _ hBefore,
    List.head?_append_of_ne_nil _ hBefore]

/- A node that is not the last can go without the end. -/
theorem getLast?_append_of_cons
    {after : List P}
    (p : P)
    (before : List P)
    (hAfter : after ≠ []) :
    (before ++ after).getLast? =
      (before ++ p :: after).getLast? := by
  rw [List.getLast?_append_of_ne_nil _ hAfter,
    List.getLast?_append_of_ne_nil _
      (List.cons_ne_nil p after),
    List.getLast?_cons_of_ne_nil hAfter]

/- Where a node is when a list is split elsewhere too. -/
theorem append_eq_append_cons
    {before after front back : List P}
    {r : P}
    (hSplit : before ++ after = front ++ r :: back) :
    (∃ middle,
        before = front ++ r :: middle ∧
          back = middle ++ after) ∨
      ∃ middle,
        front = before ++ middle ∧
          after = middle ++ r :: back := by
  rcases List.append_eq_append_iff.mp hSplit with
    ⟨middle, hFront, hAfter⟩ | ⟨middle, hBefore, hBack⟩
  · exact .inr ⟨middle, hFront, hAfter⟩
  · cases middle with
    | nil =>
        refine .inr ⟨[], ?_, hBack.symm⟩
        rw [hBefore, List.append_nil, List.append_nil]
    | cons q middle =>
        obtain ⟨rfl, hRest⟩ := List.cons.inj hBack
        exact .inl ⟨middle, hBefore, hRest⟩

------------------------------------------------------------
-- What The Pointers Go Through
------------------------------------------------------------

namespace Holds

variable {heap heap' : Heap P}
variable {ends : Ends P}
variable {ps : List P}

/- The list with no node. -/
theorem empty (heap : Heap P) :
    Holds heap Ends.empty [] where
  nodup := List.nodup_nil
  first := rfl
  last := rfl
  links := by
    intro before p after hSplit
    simp at hSplit

/- Every node of a list is allocated. -/
theorem isSome
    (hHolds : Holds heap ends ps)
    {p : P}
    (hMem : p ∈ ps) :
    (heap p).isSome = true := by
  rcases List.append_of_mem hMem with ⟨before, after, hSplit⟩
  rw [hHolds.links before p after hSplit]
  rfl

/- A list depends on the pointers of its own nodes only. -/
theorem frame
    (hHolds : Holds heap ends ps)
    (hSame : ∀ p ∈ ps, heap' p = heap p) :
    Holds heap' ends ps where
  nodup := hHolds.nodup
  first := hHolds.first
  last := hHolds.last
  links := by
    intro before p after hSplit
    have hMem : p ∈ ps := by
      rw [hSplit]
      exact List.mem_append_right before List.mem_cons_self
    rw [hSame p hMem]
    exact hHolds.links before p after hSplit

/- From a node on, `next` goes through the later nodes. -/
theorem path_next
    (hHolds : Holds heap ends ps)
    (before after : List P)
    (hSplit : ps = before ++ after) :
    Path heap.next after.head? after := by
  induction after generalizing before with
  | nil => rfl
  | cons p rest ih =>
      refine ⟨rfl, rest.head?, ?_, ?_⟩
      · unfold Heap.next
        rw [hHolds.links before p rest hSplit]
        rfl
      · apply ih (before ++ [p])
        rw [hSplit, List.append_assoc]
        rfl

/- From a node on, `prev` goes through the earlier nodes. -/
theorem path_prev
    (hHolds : Holds heap ends ps)
    (before after : List P)
    (hSplit : ps = before.reverse ++ after) :
    Path heap.prev before.head? before := by
  induction before generalizing after with
  | nil => rfl
  | cons p rest ih =>
      rw [List.reverse_cons, List.append_assoc] at hSplit
      refine ⟨rfl, rest.head?, ?_, ih (p :: after) hSplit⟩
      unfold Heap.prev
      rw [hHolds.links rest.reverse p after hSplit,
        List.getLast?_reverse]
      rfl

/- Following `next` from the first node. -/
theorem forward
    (hHolds : Holds heap ends ps) :
    Path heap.next ends.first ps := by
  rw [hHolds.first]
  exact hHolds.path_next [] ps rfl

/- Following `prev` from the last node. -/
theorem backward
    (hHolds : Holds heap ends ps) :
    Path heap.prev ends.last ps.reverse := by
  rw [hHolds.last, ← List.head?_reverse]
  apply hHolds.path_prev ps.reverse []
  rw [List.reverse_reverse, List.append_nil]

/- The node is the first one just if none is before it. -/
theorem first_eq_iff
    {before after : List P}
    {p : P}
    (hHolds : Holds heap ends (before ++ p :: after)) :
    ends.first = some p ↔ before = [] := by
  rw [hHolds.first]
  exact head?_append_cons_eq_iff hHolds.nodup

/- The node is the last one just if none is behind it. -/
theorem last_eq_iff
    {before after : List P}
    {p : P}
    (hHolds : Holds heap ends (before ++ p :: after)) :
    ends.last = some p ↔ after = [] := by
  rw [hHolds.last]
  exact getLast?_append_cons_eq_iff hHolds.nodup

end Holds

------------------------------------------------------------
-- Linking And Unlinking
------------------------------------------------------------

variable [DecidableEq P]

/- Storing a `next` pointer; nothing where there is no node. -/
def linkNext
    (heap : Heap P)
    (node next : Option P) : Heap P :=
  match node with
  | none => heap
  | some p =>
      Function.update heap p
        ((heap p).map fun l => { l with next := next })

/- Storing a `prev` pointer; nothing where there is no node. -/
def linkPrev
    (heap : Heap P)
    (node prev : Option P) : Heap P :=
  match node with
  | none => heap
  | some p =>
      Function.update heap p
        ((heap p).map fun l => { l with prev := prev })

/- A new node behind the last one. -/
def pushBack
    (heap : Heap P)
    (last : Option P)
    (q : P) : Heap P :=
  Function.update (linkNext heap last (some q)) q
    (some ⟨none, last⟩)

/- The neighbours of a node linked, and the node freed. -/
def unlink
    (heap : Heap P)
    (p : P)
    (l : Links P) : Heap P :=
  Function.update
    (linkPrev (linkNext heap l.prev l.next) l.next l.prev)
    p none

section Lookups

variable (heap : Heap P)
variable (node link : Option P)

theorem linkNext_apply (p : P) :
    linkNext heap node link p =
      if node = some p then
        (heap p).map fun l => { l with next := link }
      else
        heap p := by
  cases node with
  | none => simp [linkNext]
  | some q =>
      by_cases hEq : q = p
      · subst hEq
        simp [linkNext]
      · rw [if_neg (fun h => hEq (Option.some.inj h))]
        exact Function.update_of_ne (Ne.symm hEq) _ _

theorem linkPrev_apply (p : P) :
    linkPrev heap node link p =
      if node = some p then
        (heap p).map fun l => { l with prev := link }
      else
        heap p := by
  cases node with
  | none => simp [linkPrev]
  | some q =>
      by_cases hEq : q = p
      · subst hEq
        simp [linkPrev]
      · rw [if_neg (fun h => hEq (Option.some.inj h))]
        exact Function.update_of_ne (Ne.symm hEq) _ _

/- A pointer of one node and the cell of another one. -/
theorem linkNext_update
    {p : P}
    (cell : Option (Links P))
    (hNe : node ≠ some p) :
    linkNext (Function.update heap p cell) node link =
      Function.update (linkNext heap node link) p cell := by
  cases node with
  | none => rfl
  | some q =>
      have hNe : q ≠ p := fun h => hNe (congrArg some h)
      unfold linkNext
      dsimp only
      rw [Function.update_of_ne hNe,
        Function.update_comm hNe.symm]

end Lookups

namespace Holds

variable {heap : Heap P}
variable {ends : Ends P}
variable {ps : List P}

/- A list after a new node is linked behind its last one. -/
theorem pushBack
    {q : P}
    (hHolds : Holds heap ends ps)
    (hFresh : q ∉ ps) :
    Holds (pushBack heap ends.last q)
      ⟨(ps ++ [q]).head?, some q⟩ (ps ++ [q]) where
  nodup := by
    rw [← List.concat_eq_append]
    exact hHolds.nodup.concat hFresh
  first := rfl
  last := List.getLast?_concat.symm
  links := by
    intro before p after hSplit
    unfold DoublyLinked.pushBack
    rcases List.eq_nil_or_concat after with
      rfl | ⟨after, r, rfl⟩
    · -- the new node
      have hBoth := List.append_inj' hSplit rfl
      obtain rfl := (List.cons.inj hBoth.2).1
      rw [Function.update_self, hHolds.last, hBoth.1]
      rfl
    · rw [List.concat_eq_append, ← List.cons_append,
        ← List.append_assoc] at hSplit
      have hBoth := List.append_inj' hSplit rfl
      obtain rfl := (List.cons.inj hBoth.2).1
      have hMem : p ∈ ps := by
        rw [hBoth.1]
        exact List.mem_append_right before List.mem_cons_self
      have hNe : p ≠ q := by
        rintro rfl
        exact hFresh hMem
      have hNodup := hHolds.nodup
      rw [hBoth.1] at hNodup
      rw [Function.update_of_ne hNe, linkNext_apply,
        hHolds.links before p after hBoth.1, hHolds.last,
        hBoth.1]
      by_cases hEnd : after = []
      · subst hEnd
        rw [if_pos List.getLast?_concat]
        rfl
      · rw [if_neg (fun h =>
          hEnd ((getLast?_append_cons_eq_iff hNodup).mp h))]
        rw [List.concat_eq_append,
          List.head?_append_of_ne_nil _ hEnd]

/- A list after one of its nodes is unlinked. -/
theorem unlink
    {before after : List P}
    {p : P}
    (hHolds : Holds heap ends (before ++ p :: after)) :
    Holds
      (unlink heap p ⟨after.head?, before.getLast?⟩)
      ⟨(before ++ after).head?, (before ++ after).getLast?⟩
      (before ++ after) where
  nodup := by
    have hPerm : (before ++ p :: after).Nodup := hHolds.nodup
    rw [List.nodup_middle] at hPerm
    exact (List.nodup_cons.mp hPerm).2
  first := rfl
  last := rfl
  links := by
    intro front r back hSplit
    have hNodup := hHolds.nodup
    have hOut : p ∉ before ++ after := by
      rw [List.nodup_middle] at hNodup
      exact (List.nodup_cons.mp hNodup).1
    have hNe : r ≠ p := by
      rintro rfl
      apply hOut
      rw [hSplit]
      exact List.mem_append_right front List.mem_cons_self
    have hApart := List.disjoint_of_nodup_append hNodup
    unfold DoublyLinked.unlink
    rw [Function.update_of_ne hNe, linkPrev_apply,
      linkNext_apply]
    rcases append_eq_append_cons hSplit with
      ⟨middle, rfl, rfl⟩ | ⟨middle, rfl, rfl⟩
    · -- a node before the one that is unlinked
      have hLinks :=
        hHolds.links front r (middle ++ p :: after) (by simp)
      have hHead : after.head? ≠ some r := by
        intro hHead
        exact hApart
          (List.mem_append_right front List.mem_cons_self)
          (List.mem_cons_of_mem p (List.mem_of_head? hHead))
      have hEnd :=
        getLast?_append_cons_eq_iff
          (List.nodup_append.mp hNodup).1
      rw [if_neg hHead, hLinks]
      by_cases hMiddle : middle = []
      · rw [if_pos (hEnd.mpr hMiddle), hMiddle]
        rfl
      · rw [if_neg (fun h => hMiddle (hEnd.mp h)),
          List.head?_append_of_ne_nil _ hMiddle,
          List.head?_append_of_ne_nil _ hMiddle]
    · -- a node behind it
      have hLinks :=
        hHolds.links (before ++ p :: middle) r back (by simp)
      have hLast : before.getLast? ≠ some r := by
        intro hLast
        exact hApart (List.mem_of_getLast? hLast)
          (List.mem_cons_of_mem p
            (List.mem_append_right middle
              List.mem_cons_self))
      have hBegin :=
        head?_append_cons_eq_iff
          (List.nodup_cons.mp
            (List.nodup_append.mp hNodup).2.1).2
      rw [if_neg hLast, hLinks]
      by_cases hMiddle : middle = []
      · rw [if_pos (hBegin.mpr hMiddle), hMiddle,
          List.append_nil]
        rfl
      · rw [if_neg (fun h => hMiddle (hBegin.mp h)),
          List.getLast?_append_of_ne_nil _ hMiddle,
          List.getLast?_append_of_ne_nil _
            (List.cons_ne_nil p middle),
          List.getLast?_cons_of_ne_nil hMiddle]

/- Linking a node behind the last one changes no others. -/
theorem pushBack_apply
    {p q : P}
    (hHolds : Holds heap ends ps)
    (hNe : p ≠ q)
    (hOut : p ∉ ps) :
    DoublyLinked.pushBack heap ends.last q p = heap p := by
  unfold DoublyLinked.pushBack
  rw [Function.update_of_ne hNe, linkNext_apply, if_neg]
  rw [hHolds.last]
  intro hLast
  exact hOut (List.mem_of_getLast? hLast)

/- Unlinking a node changes no nodes outside the list. -/
theorem unlink_apply
    {before after : List P}
    {p q : P}
    (hOut : q ∉ before ++ p :: after) :
    DoublyLinked.unlink heap p
        ⟨after.head?, before.getLast?⟩ q =
      heap q := by
  have hNe : q ≠ p := by
    rintro rfl
    exact hOut (List.mem_append_right before List.mem_cons_self)
  have hNext : after.head? ≠ some q := by
    intro hHead
    exact hOut
      (List.mem_append_right before
        (List.mem_cons_of_mem p (List.mem_of_head? hHead)))
  have hPrev : before.getLast? ≠ some q := by
    intro hLast
    exact hOut
      (List.mem_append_left _ (List.mem_of_getLast? hLast))
  unfold DoublyLinked.unlink
  rw [Function.update_of_ne hNe, linkPrev_apply,
    if_neg hNext, linkNext_apply, if_neg hPrev]

end Holds

end DoublyLinked
