import NapaBaselibs.Lib.Bounded
import NapaBaselibs.ALTO.LinkedDatabase

/-
  What adding, removing and purging make of the lists.

  Each operation is first described by the cells it writes:
  one lemma for each branch of the source.  From these
  follow the pointers of all elements after it, and from the
  pointers the list.

  Key definitions include:
    * `Memory.Lists`, `Memory.Purged`

  Key theorems include:
    * `Memory.Lists.altoAddElement`
    * `Memory.Lists.altoRemElement`
    * `Memory.Lists.altoPurgeDb`
-/

------------------------------------------------------------
-- Reading And Writing
------------------------------------------------------------

namespace NapaBaselibs

namespace ALTO

namespace Memory

variable {m : Memory}
variable {d : DbPtr}
variable {p q : ElementPtr}
variable {db : AltoDbT}
variable {e : AltoDbElementT}

section Cells

variable (m) (d) (p)
variable (dbCell : Option AltoDbT)
variable (cell : Option AltoDbElementT)

@[simp] theorem setDb_elements :
    (m.setDb d dbCell).elements = m.elements := rfl

@[simp] theorem setElement_dbs :
    (m.setElement p cell).dbs = m.dbs := rfl

@[simp] theorem setDb_dbs :
    (m.setDb d dbCell).dbs =
      Function.update m.dbs d dbCell := rfl

@[simp] theorem setElement_elements :
    (m.setElement p cell).elements =
      Function.update m.elements p cell := rfl

@[simp] theorem setDb_heap :
    (m.setDb d dbCell).heap = m.heap := rfl

@[simp] theorem setDb_data :
    (m.setDb d dbCell).data = m.data := rfl

@[simp] theorem setElement_heap :
    (m.setElement p cell).heap =
      Function.update m.heap p
        (cell.map AltoDbElementT.links) := by
  funext q
  by_cases hEq : q = p
  · subst hEq
    simp [heap]
  · simp [heap, hEq]

@[simp] theorem setElement_data :
    (m.setElement p cell).data =
      Function.update m.data p
        (cell.map AltoDbElementT.data) := by
  funext q
  by_cases hEq : q = p
  · subst hEq
    simp [data]
  · simp [data, hEq]

end Cells

/- A pointer to a cell that is allocated. -/
theorem access_of
    {α : Type}
    {cells : Nat → Option α}
    {address : Nat}
    {cell : α}
    (hCell : cells address = some cell) :
    access cells (some address) = .ok (address, cell) := by
  simp only [access, hCell]

theorem db_of
    (hDb : m.dbs d = some db) :
    m.db (some d) = .ok db := by
  unfold Memory.db
  rw [access_of hDb]
  rfl

theorem element_of
    (hElement : m.elements p = some e) :
    m.element (some p) = .ok e := by
  unfold Memory.element
  rw [access_of hElement]
  rfl

theorem modifyDb_of
    (hDb : m.dbs d = some db)
    (f : AltoDbT → AltoDbT) :
    m.modifyDb (some d) f =
      .ok (m.setDb d (some (f db))) := by
  unfold Memory.modifyDb
  rw [access_of hDb]
  rfl

theorem modifyElement_of
    (hElement : m.elements p = some e)
    (f : AltoDbElementT → AltoDbElementT) :
    m.modifyElement (some p) f =
      .ok (m.setElement p (some (f e))) := by
  unfold Memory.modifyElement
  rw [access_of hElement]
  rfl

theorem freeElement_of
    (hElement : m.elements p = some e) :
    m.freeElement (some p) = .ok (m.setElement p none) := by
  unfold Memory.freeElement
  rw [access_of hElement]
  rfl

theorem freeDb_of
    (hDb : m.dbs d = some db) :
    m.freeDb (some d) = .ok (m.setDb d none) := by
  unfold Memory.freeDb
  rw [access_of hDb]
  rfl

------------------------------------------------------------
-- The Branches
------------------------------------------------------------

/- Adding the first element. -/
theorem altoAddElement_first
    (now : Int)
    (hDb : m.dbs d = some db)
    (hElement : m.elements p = some e)
    (hFirst : db.first = none)
    (hLast : db.last = none) :
    m.altoAddElement now (some d) (some p) =
      .ok
        ((m.setDb d
            (some
              { numOfElements := 1
                first := some p
                last := some p })).setElement p
          (some
            { e with
              next := none
              prev := none
              altoDb := some d
              stamp := now }),
          1) := by
  unfold altoAddElement
  rw [if_neg (by simp), db_of hDb, Bounded.ok_bind,
    if_pos ⟨hFirst, hLast⟩, modifyDb_of hDb,
    Bounded.ok_bind,
    modifyElement_of (m := m.setDb d _) hElement,
    Bounded.ok_bind]

/- Adding an element behind the last one. -/
theorem altoAddElement_behind
    {l : ElementPtr}
    {el : AltoDbElementT}
    (now : Int)
    (hDb : m.dbs d = some db)
    (hElement : m.elements p = some e)
    (hLast : db.last = some l)
    (hOther : m.elements l = some el)
    (hNe : p ≠ l) :
    m.altoAddElement now (some d) (some p) =
      .ok
        (((m.setElement l
            (some { el with next := some p })).setElement p
            (some
              { e with
                prev := some l
                next := none
                altoDb := some d
                stamp := now })).setDb d
          (some
            { db with
              last := some p
              numOfElements := db.numOfElements + 1 }),
          1) := by
  have hStill :
      (m.setElement l
        (some { el with next := some p })).elements p =
        some e := by
    rw [setElement_elements, Function.update_of_ne hNe]
    exact hElement
  unfold altoAddElement
  rw [if_neg (by simp), db_of hDb, Bounded.ok_bind,
    if_neg (by simp [hLast]), hLast,
    modifyElement_of hOther, Bounded.ok_bind,
    modifyElement_of hStill, Bounded.ok_bind]
  rw [modifyDb_of (m := (m.setElement l _).setElement p _)
    hDb, Bounded.ok_bind]

section Removal

variable (hElement : m.elements p = some e)
variable (hOwner : e.altoDb = some d)
variable (hDb : m.dbs d = some db)

include hElement hOwner hDb

/- Removing the only element. -/
theorem altoRemElement_only
    (hFirst : db.first = some p)
    (hLast : db.last = some p) :
    m.altoRemElement (some p) =
      .ok
        ((m.setDb d
            (some
              { numOfElements := 0
                first := none
                last := none })).setElement p none,
          1) := by
  unfold altoRemElement
  rw [if_neg (by simp), element_of hElement,
    Bounded.ok_bind]
  dsimp only
  rw [hOwner, db_of hDb, Bounded.ok_bind,
    if_pos ⟨hFirst, hLast⟩, modifyDb_of hDb,
    Bounded.ok_bind,
    freeElement_of (m := m.setDb d _) hElement,
    Bounded.ok_bind]

/- Removing the first element of several. -/
theorem altoRemElement_first
    {b : ElementPtr}
    {eb : AltoDbElementT}
    (hFirst : db.first = some p)
    (hLast : db.last ≠ some p)
    (hNext : e.next = some b)
    (hBehind : m.elements b = some eb)
    (hNe : p ≠ b) :
    m.altoRemElement (some p) =
      .ok
        (((m.setElement b
            (some { eb with prev := none })).setDb d
            (some
              { db with
                first := some b
                numOfElements :=
                  db.numOfElements - 1 })).setElement p none,
          1) := by
  have hStill :
      (m.setElement b
        (some { eb with prev := none })).elements p =
        some e := by
    rw [setElement_elements, Function.update_of_ne hNe]
    exact hElement
  unfold altoRemElement
  rw [if_neg (by simp), element_of hElement,
    Bounded.ok_bind]
  dsimp only
  rw [hOwner, db_of hDb, Bounded.ok_bind,
    if_neg (fun h => hLast h.2), if_pos ⟨hFirst, hLast⟩,
    hNext, modifyElement_of hBehind, Bounded.ok_bind,
    element_of hStill, Bounded.ok_bind, hNext,
    modifyDb_of (m := m.setElement b _) hDb,
    Bounded.ok_bind,
    freeElement_of (m := (m.setElement b _).setDb d _)
      hStill,
    Bounded.ok_bind]

/- Removing the last element of several. -/
theorem altoRemElement_last
    {a : ElementPtr}
    {ea : AltoDbElementT}
    (hFirst : db.first ≠ some p)
    (hLast : db.last = some p)
    (hPrev : e.prev = some a)
    (hBefore : m.elements a = some ea)
    (hNe : p ≠ a) :
    m.altoRemElement (some p) =
      .ok
        (((m.setElement a
            (some { ea with next := none })).setDb d
            (some
              { db with
                last := some a
                numOfElements :=
                  db.numOfElements - 1 })).setElement p none,
          1) := by
  have hStill :
      (m.setElement a
        (some { ea with next := none })).elements p =
        some e := by
    rw [setElement_elements, Function.update_of_ne hNe]
    exact hElement
  unfold altoRemElement
  rw [if_neg (by simp), element_of hElement,
    Bounded.ok_bind]
  dsimp only
  rw [hOwner, db_of hDb, Bounded.ok_bind,
    if_neg (fun h => hFirst h.1),
    if_neg (fun h => hFirst h.1), if_pos ⟨hFirst, hLast⟩,
    hPrev, modifyElement_of hBefore, Bounded.ok_bind,
    element_of hStill, Bounded.ok_bind, hPrev,
    modifyDb_of (m := m.setElement a _) hDb,
    Bounded.ok_bind,
    freeElement_of (m := (m.setElement a _).setDb d _)
      hStill,
    Bounded.ok_bind]

/- Removing an element between two others. -/
theorem altoRemElement_between
    {a b : ElementPtr}
    {ea eb : AltoDbElementT}
    (hFirst : db.first ≠ some p)
    (hLast : db.last ≠ some p)
    (hPrev : e.prev = some a)
    (hNext : e.next = some b)
    (hBefore : m.elements a = some ea)
    (hBehind : m.elements b = some eb)
    (hNeBefore : p ≠ a)
    (hNeBehind : p ≠ b)
    (hNe : b ≠ a) :
    m.altoRemElement (some p) =
      .ok
        ((((m.setElement a
            (some { ea with next := some b })).setElement b
            (some { eb with prev := some a })).setDb d
            (some
              { db with
                numOfElements :=
                  db.numOfElements - 1 })).setElement p none,
          1) := by
  have hStill :
      (m.setElement a
        (some { ea with next := some b })).elements p =
        some e := by
    rw [setElement_elements, Function.update_of_ne hNeBefore]
    exact hElement
  have hBehindStill :
      (m.setElement a
        (some { ea with next := some b })).elements b =
        some eb := by
    rw [setElement_elements, Function.update_of_ne hNe]
    exact hBehind
  have hLater :
      ((m.setElement a
        (some { ea with next := some b })).setElement b
        (some { eb with prev := some a })).elements p =
        some e := by
    rw [setElement_elements, Function.update_of_ne hNeBehind]
    exact hStill
  unfold altoRemElement
  rw [if_neg (by simp), element_of hElement,
    Bounded.ok_bind]
  dsimp only
  rw [hOwner, db_of hDb, Bounded.ok_bind,
    if_neg (fun h => hFirst h.1),
    if_neg (fun h => hFirst h.1),
    if_neg (fun h => hLast h.2), hPrev, hNext,
    modifyElement_of hBefore, Bounded.ok_bind,
    element_of hStill, Bounded.ok_bind, hPrev, hNext,
    modifyElement_of hBehindStill, Bounded.ok_bind,
    modifyDb_of
      (m := (m.setElement a _).setElement b _) hDb,
    Bounded.ok_bind,
    freeElement_of
      (m := ((m.setElement a _).setElement b _).setDb d _)
      hLater,
    Bounded.ok_bind]

end Removal

------------------------------------------------------------
-- The Pointers After A Branch
------------------------------------------------------------

/- The pointers after a `next` pointer is written. -/
theorem heap_setNext
    (hElement : m.elements p = some e)
    (next : Option ElementPtr) :
    (m.setElement p (some { e with next := next })).heap =
      DoublyLinked.linkNext m.heap (some p) next := by
  have hHeap : m.heap p = some e.links := by
    unfold heap
    rw [hElement]
    rfl
  rw [setElement_heap]
  unfold DoublyLinked.linkNext
  dsimp only
  rw [hHeap]
  rfl

/- The pointers after a `prev` pointer is written. -/
theorem heap_setPrev
    (hElement : m.elements p = some e)
    (prev : Option ElementPtr) :
    (m.setElement p (some { e with prev := prev })).heap =
      DoublyLinked.linkPrev m.heap (some p) prev := by
  have hHeap : m.heap p = some e.links := by
    unfold heap
    rw [hElement]
    rfl
  rw [setElement_heap]
  unfold DoublyLinked.linkPrev
  dsimp only
  rw [hHeap]
  rfl

/- Writing a pointer leaves the data of the elements. -/
theorem data_setNext
    (hElement : m.elements p = some e)
    (next : Option ElementPtr) :
    (m.setElement p (some { e with next := next })).data =
      m.data := by
  rw [setElement_data, Function.update_eq_self_iff]
  unfold data
  rw [hElement]
  rfl

theorem data_setPrev
    (hElement : m.elements p = some e)
    (prev : Option ElementPtr) :
    (m.setElement p (some { e with prev := prev })).data =
      m.data := by
  rw [setElement_data, Function.update_eq_self_iff]
  unfold data
  rw [hElement]
  rfl

------------------------------------------------------------
-- The List Of A Database
------------------------------------------------------------

/-
  The elements of a database, in their order: linked both
  ways between its ends, counted, and owned by it.
-/
structure Lists
    (m : Memory)
    (d : DbPtr)
    (db : AltoDbT)
    (ps : List ElementPtr) : Prop where
  found : m.dbs d = some db
  holds : DoublyLinked.Holds m.heap db.ends ps
  count : db.numOfElements = BitVec.ofNat 32 ps.length
  owned :
    ∀ p ∈ ps, ∃ x, m.data p = some x ∧ x.altoDb = some d

/- An element with these pointers, which is owned. -/
theorem exists_element
    {l : DoublyLinked.Links ElementPtr}
    {x : ElementData}
    (hLinks : m.heap p = some l)
    (hData : m.data p = some x) :
    ∃ e,
      m.elements p = some e ∧ e.links = l ∧ e.data = x := by
  unfold heap at hLinks
  unfold data at hData
  rcases Option.map_eq_some_iff.mp hLinks with
    ⟨e, hElement, rfl⟩
  rw [hElement] at hData
  exact ⟨e, hElement, rfl, Option.some.inj hData⟩

/- What the pointers and the data say of an element. -/
theorem elements_eq_of_views
    {m' : Memory}
    (hHeap : m'.heap p = m.heap p)
    (hData : m'.data p = m.data p) :
    m'.elements p = m.elements p := by
  unfold heap at hHeap
  unfold data at hData
  cases hOld : m.elements p with
  | none =>
      rw [hOld] at hHeap
      exact Option.map_eq_none_iff.mp hHeap
  | some e =>
      rw [hOld] at hHeap hData
      rcases Option.map_eq_some_iff.mp hHeap with
        ⟨e', hElement, hLinks⟩
      rw [hElement] at hData ⊢
      have hSame := Option.some.inj hData
      rcases e with ⟨altoDb, next, prev, stamp, element⟩
      rcases e' with ⟨altoDb', next', prev', stamp', element'⟩
      simp only [AltoDbElementT.links,
        DoublyLinked.Links.mk.injEq] at hLinks
      simp only [AltoDbElementT.data,
        ElementData.mk.injEq] at hSame
      rcases hLinks with ⟨rfl, rfl⟩
      rcases hSame with ⟨rfl, rfl, rfl⟩
      rfl

namespace Lists

variable {ps before after : List ElementPtr}

/- An element of the list in memory. -/
theorem exists_element
    (hLists : m.Lists d db (before ++ p :: after)) :
    ∃ e,
      m.elements p = some e ∧
        e.next = after.head? ∧
        e.prev = before.getLast? ∧
        e.altoDb = some d := by
  have hMem : p ∈ before ++ p :: after :=
    List.mem_append_right before List.mem_cons_self
  rcases hLists.owned p hMem with ⟨x, hData, hOwner⟩
  rcases Memory.exists_element
      (hLists.holds.links before p after rfl) hData with
    ⟨e, hElement, hLinks, rfl⟩
  have hNext := congrArg DoublyLinked.Links.next hLinks
  have hPrev := congrArg DoublyLinked.Links.prev hLinks
  exact ⟨e, hElement, hNext, hPrev, hOwner⟩

/-
  Removing an element: its neighbours are linked, it is
  freed, and the rest of the memory stays.
-/
theorem altoRemElement_cells
    (hLists : m.Lists d db (before ++ p :: after)) :
    ∃ m',
      m.altoRemElement (some p) = .ok (m', 1) ∧
        m'.heap =
          DoublyLinked.unlink m.heap p
            ⟨after.head?, before.getLast?⟩ ∧
        m'.data = Function.update m.data p none ∧
        m'.dbs =
          Function.update m.dbs d
            (some
              { numOfElements := db.numOfElements - 1
                first := (before ++ after).head?
                last := (before ++ after).getLast? }) := by
  rcases hLists.exists_element with
    ⟨e, hElement, hNext, hPrev, hOwner⟩
  have hDb := hLists.found
  have hFirst : db.first = some p ↔ before = [] :=
    hLists.holds.first_eq_iff
  have hLast : db.last = some p ↔ after = [] :=
    hLists.holds.last_eq_iff
  have hNodup := hLists.holds.nodup
  have hHead : db.first = (before ++ p :: after).head? :=
    hLists.holds.first
  have hEnd : db.last = (before ++ p :: after).getLast? :=
    hLists.holds.last
  rcases List.eq_nil_or_concat before with
    rfl | ⟨front, a, rfl⟩
  · cases after with
    | nil =>
        have hNone : db.numOfElements - 1 = 0 := by
          rw [hLists.count]
          show BitVec.ofNat 32 1 - 1 = 0
          decide
        refine ⟨_, altoRemElement_only hElement hOwner hDb
          (hFirst.mpr rfl) (hLast.mpr rfl), ?_, ?_, ?_⟩
        · rw [setElement_heap]
          rfl
        · rw [setElement_data]
          rfl
        · rw [setElement_dbs, setDb_dbs, hNone]
          rfl
    | cons b back =>
        have hBack : m.Lists d db ([p] ++ b :: back) := hLists
        rcases exists_element hBack with ⟨eb, hBehind, _⟩
        have hNe : p ≠ b := by
          rintro rfl
          simp at hNodup
        refine ⟨_, altoRemElement_first hElement hOwner hDb
          (hFirst.mpr rfl) (by simp [hLast]) hNext hBehind
          hNe, ?_, ?_, ?_⟩
        · rw [setElement_heap, setDb_heap,
            heap_setPrev hBehind]
          rfl
        · rw [setElement_data, setDb_data,
            data_setPrev hBehind]
          rfl
        · rw [setElement_dbs, setDb_dbs, setElement_dbs,
            DoublyLinked.getLast?_append_of_cons p []
              (List.cons_ne_nil b back), ← hEnd]
          rfl
  · rw [List.concat_eq_append] at *
    rw [List.getLast?_concat] at hPrev ⊢
    have hFront :
        m.Lists d db (front ++ a :: p :: after) := by
      simpa using hLists
    rcases exists_element hFront with ⟨ea, hBefore, _⟩
    have hNeBefore : p ≠ a := by
      rintro rfl
      simp [List.nodup_append] at hNodup
    have hNotFirst : db.first ≠ some p := by
      simp [hFirst]
    rw [DoublyLinked.head?_append_of_cons p after
      (by simp), ← hHead]
    cases after with
    | nil =>
        refine ⟨_, altoRemElement_last hElement hOwner hDb
          hNotFirst (hLast.mpr rfl) hPrev hBefore hNeBefore,
          ?_, ?_, ?_⟩
        · rw [setElement_heap, setDb_heap,
            heap_setNext hBefore]
          rfl
        · rw [setElement_data, setDb_data,
            data_setNext hBefore]
          rfl
        · rw [setElement_dbs, setDb_dbs, setElement_dbs,
            List.append_nil, List.getLast?_concat]
    | cons b back =>
        have hBack :
            m.Lists d db
              ((front ++ [a] ++ [p]) ++ b :: back) := by
          simpa using hLists
        rcases exists_element hBack with ⟨eb, hBehind, _⟩
        have hNeBehind : p ≠ b := by
          rintro rfl
          simp [List.nodup_append] at hNodup
        have hNe : b ≠ a := by
          rintro rfl
          simp [List.nodup_append] at hNodup
        have hBehindStill :
            (m.setElement a
              (some { ea with next := some b })).elements b =
              some eb := by
          rw [setElement_elements, Function.update_of_ne hNe]
          exact hBehind
        refine ⟨_, altoRemElement_between hElement hOwner hDb
          hNotFirst (by simp [hLast]) hPrev hNext hBefore
          hBehind hNeBefore hNeBehind hNe, ?_, ?_, ?_⟩
        · rw [setElement_heap, setDb_heap,
            heap_setPrev hBehindStill, heap_setNext hBefore]
          rfl
        · rw [setElement_data, setDb_data,
            data_setPrev hBehindStill, data_setNext hBefore]
          rfl
        · rw [setElement_dbs, setDb_dbs, setElement_dbs,
            setElement_dbs,
            DoublyLinked.getLast?_append_of_cons p _
              (List.cons_ne_nil b back), ← hEnd]

/-
  Adding an element: it is linked behind the last one, and
  owned by the database.
-/
theorem altoAddElement_cells
    (hLists : m.Lists d db ps)
    (hFresh : m.elements p = none)
    (contents : AltoDbElementT)
    (now : Int) :
    ∃ m',
      (m.mallocElement p contents).altoAddElement now
            (some d) (some p) =
          .ok (m', 1) ∧
        m'.heap =
          DoublyLinked.pushBack m.heap db.last p ∧
        m'.data =
          Function.update m.data p
            (some
              { altoDb := some d
                stamp := now
                element := contents.element }) ∧
        m'.dbs =
          Function.update m.dbs d
            (some
              { numOfElements := db.numOfElements + 1
                first := (ps ++ [p]).head?
                last := some p }) := by
  have hNew :
      (m.mallocElement p contents).elements p =
        some contents :=
    Function.update_self _ _ _
  have hHead : db.first = ps.head? := hLists.holds.first
  have hEnd : db.last = ps.getLast? := hLists.holds.last
  rcases List.eq_nil_or_concat ps with rfl | ⟨front, l, rfl⟩
  · have hOne : db.numOfElements + 1 = 1 := by
      rw [hLists.count]
      decide
    refine ⟨_, altoAddElement_first
      (m := m.mallocElement p contents) now hLists.found
      hNew hHead hEnd, ?_, ?_, ?_⟩
    · rw [setElement_heap, setDb_heap, mallocElement,
        setElement_heap, Function.update_idem, hEnd]
      rfl
    · rw [setElement_data, setDb_data, mallocElement,
        setElement_data, Function.update_idem]
      rfl
    · rw [setElement_dbs, setDb_dbs, hOne]
      rfl
  · rw [List.concat_eq_append] at *
    rw [List.getLast?_concat] at hEnd
    rcases exists_element hLists with ⟨el, hLast, _⟩
    have hNe : p ≠ l := by
      rintro rfl
      rw [hFresh] at hLast
      cases hLast
    have hOther :
        (m.mallocElement p contents).elements l =
          some el := by
      rw [mallocElement, setElement_elements,
        Function.update_of_ne (Ne.symm hNe)]
      exact hLast
    have hFirst :
        (front ++ [l] ++ [p]).head? = db.first := by
      rw [hHead, List.head?_append_of_ne_nil _ (by simp)]
    refine ⟨_, altoAddElement_behind
      (m := m.mallocElement p contents) now hLists.found
      hNew hEnd hOther hNe, ?_, ?_, ?_⟩
    · rw [setDb_heap, setElement_heap, heap_setNext hOther,
        mallocElement, setElement_heap, hEnd,
        DoublyLinked.linkNext_update _ _ _ _
          (fun h => hNe (Option.some.inj h).symm),
        Function.update_idem]
      rfl
    · rw [setDb_data, setElement_data, data_setNext hOther,
        mallocElement, setElement_data, Function.update_idem]
      rfl
    · rw [setDb_dbs, setElement_dbs, setElement_dbs, hFirst]
      rfl

/- A list in a memory with the same cells of its own. -/
theorem frame
    {m' : Memory}
    (hLists : m.Lists d db ps)
    (hDbs : m'.dbs d = m.dbs d)
    (hElements :
      ∀ p ∈ ps, m'.elements p = m.elements p) :
    m'.Lists d db ps where
  found := hDbs.trans hLists.found
  holds := by
    apply hLists.holds.frame
    intro p hMem
    unfold heap
    rw [hElements p hMem]
  count := hLists.count
  owned := by
    intro p hMem
    unfold data
    rw [hElements p hMem]
    exact hLists.owned p hMem

/- An element that is not allocated is in no list. -/
theorem notMem_of_free
    (hLists : m.Lists d db ps)
    (hFree : m.elements p = none) :
    p ∉ ps := by
  intro hMem
  rcases hLists.owned p hMem with ⟨x, hData, _⟩
  unfold data at hData
  rw [hFree] at hData
  cases hData

/- No element is in the lists of two databases. -/
theorem disjoint
    {d' : DbPtr}
    {db' : AltoDbT}
    {ps' : List ElementPtr}
    (hLists : m.Lists d db ps)
    (hLists' : m.Lists d' db' ps')
    (hNe : d' ≠ d)
    (hMem : p ∈ ps) :
    p ∉ ps' := by
  intro hMem'
  rcases hLists.owned p hMem with ⟨x, hData, hOwner⟩
  rcases hLists'.owned p hMem' with ⟨x', hData', hOwner'⟩
  rw [hData] at hData'
  cases hData'
  rw [hOwner] at hOwner'
  exact hNe (Option.some.inj hOwner').symm

/-
  `alto_add_element`: the element is put behind the others.
  Nothing but the links of the database's own elements is
  written to.
-/
theorem altoAddElement
    (hLists : m.Lists d db ps)
    (hFresh : m.elements p = none)
    (contents : AltoDbElementT)
    (now : Int) :
    ∃ m' db',
      (m.mallocElement p contents).altoAddElement now
            (some d) (some p) =
          .ok (m', 1) ∧
        m'.Lists d db' (ps ++ [p]) ∧
        (∀ d', d' ≠ d → m'.dbs d' = m.dbs d') ∧
        m'.data =
          Function.update m.data p
            (some
              { altoDb := some d
                stamp := now
                element := contents.element }) ∧
        ∀ q, q ∉ ps → q ≠ p → m'.elements q = m.elements q := by
  rcases hLists.altoAddElement_cells hFresh contents now with
    ⟨m', hCall, hHeap, hData, hDbs⟩
  have hNot := hLists.notMem_of_free hFresh
  have hOther : ∀ q, q ≠ p → m'.data q = m.data q := by
    intro q hNe
    rw [hData, Function.update_of_ne hNe]
  refine ⟨m', _, hCall,
    ⟨by rw [hDbs, Function.update_self], ?_, ?_, ?_⟩,
    fun d' hNe => by rw [hDbs, Function.update_of_ne hNe],
    hData, ?_⟩
  · rw [hHeap]
    exact hLists.holds.pushBack hNot
  · rw [hLists.count, List.length_append]
    exact (BitVec.ofNat_add _ _).symm
  · intro q hMem
    rcases List.mem_append.mp hMem with hOld | hNew
    · rw [hOther q (fun hEq => hNot (hEq ▸ hOld))]
      exact hLists.owned q hOld
    · rw [List.mem_singleton.mp hNew, hData,
        Function.update_self]
      exact ⟨_, rfl, rfl⟩
  · intro q hOut hNe
    apply elements_eq_of_views _ (hOther q hNe)
    rw [hHeap]
    exact hLists.holds.pushBack_apply hNe hOut

/-
  `alto_rem_element`: the element is freed, and the others
  stay in their order.
-/
theorem altoRemElement
    (hLists : m.Lists d db (before ++ p :: after)) :
    ∃ m' db',
      m.altoRemElement (some p) = .ok (m', 1) ∧
        m'.Lists d db' (before ++ after) ∧
        (∀ d', d' ≠ d → m'.dbs d' = m.dbs d') ∧
        m'.data = Function.update m.data p none ∧
        ∀ q, q ∉ before ++ p :: after →
          m'.elements q = m.elements q := by
  rcases hLists.altoRemElement_cells with
    ⟨m', hCall, hHeap, hData, hDbs⟩
  have hNodup := hLists.holds.nodup
  rw [List.nodup_middle] at hNodup
  have hNot := (List.nodup_cons.mp hNodup).1
  have hOther : ∀ q, q ≠ p → m'.data q = m.data q := by
    intro q hNe
    rw [hData, Function.update_of_ne hNe]
  refine ⟨m', _, hCall,
    ⟨by rw [hDbs, Function.update_self], ?_, ?_, ?_⟩,
    fun d' hNe => by rw [hDbs, Function.update_of_ne hNe],
    hData, ?_⟩
  · rw [hHeap]
    exact hLists.holds.unlink
  · have hLength :
        (before ++ p :: after).length =
          (before ++ after).length + 1 := by
      simp [Nat.add_assoc]
    rw [hLists.count, hLength, BitVec.ofNat_add]
    simp
  · intro q hMem
    rw [hOther q (fun hEq => hNot (hEq ▸ hMem))]
    apply hLists.owned q
    rcases List.mem_append.mp hMem with hBefore | hAfter
    · exact List.mem_append_left _ hBefore
    · exact List.mem_append_right _
        (List.mem_cons_of_mem p hAfter)
  · intro q hOut
    have hNe : q ≠ p := by
      rintro rfl
      exact hOut
        (List.mem_append_right before List.mem_cons_self)
    apply elements_eq_of_views _ (hOther q hNe)
    rw [hHeap]
    exact DoublyLinked.Holds.unlink_apply hOut

end Lists

------------------------------------------------------------
-- Purging
------------------------------------------------------------

/- All elements of a database are freed, and no others. -/
structure Purged
    (m m' : Memory)
    (d : DbPtr)
    (ps : List ElementPtr) : Prop where
  lists :
    m'.Lists d
      { numOfElements := 0
        first := none
        last := none } []
  dbs : ∀ d', d' ≠ d → m'.dbs d' = m.dbs d'
  freed : ∀ q ∈ ps, m'.elements q = none
  others : ∀ q, q ∉ ps → m'.elements q = m.elements q

namespace Lists

variable {ps : List ElementPtr}

/-
  The loop removes the first element until there is none: by
  induction on the list, with as many rounds as elements.
-/
theorem purgeLoop
    (hLists : m.Lists d db ps) :
    ∃ m',
      Purged m m' d ps ∧
        ∀ rounds,
          Memory.purgeLoop (some d) rounds m db.first =
            .ok
              (if ps.length ≤ rounds then
                some m'
              else
                none) := by
  induction ps generalizing m db with
  | nil =>
      have hFirst : db.first = none := hLists.holds.first
      have hLast : db.last = none := hLists.holds.last
      have hCount : db.numOfElements = 0 := hLists.count
      have hEmpty :
          db =
            { numOfElements := 0
              first := none
              last := none } := by
        rcases db with ⟨numOfElements, first, last⟩
        cases hFirst
        cases hLast
        cases hCount
        rfl
      refine ⟨m, ⟨hEmpty ▸ hLists, fun _ _ => rfl, ?_,
        fun _ _ => rfl⟩, ?_⟩
      · intro q hMem
        cases hMem
      · intro rounds
        rw [hFirst]
        cases rounds <;> rfl
  | cons p rest ih =>
      have hSplit : m.Lists d db ([] ++ p :: rest) := hLists
      rcases hSplit.altoRemElement with
        ⟨m₁, db₁, hCall, hRest, hDbs, hData, hOthers⟩
      rcases ih hRest with ⟨m', hPurged, hLoop⟩
      have hFirst : db.first = some p := hLists.holds.first
      have hFreed : m₁.elements p = none := by
        have hNone : m₁.data p = none := by
          rw [hData, Function.update_self]
        unfold data at hNone
        exact Option.map_eq_none_iff.mp hNone
      have hNot := (List.nodup_cons.mp hLists.holds.nodup).1
      refine ⟨m', ⟨hPurged.lists, ?_, ?_, ?_⟩, ?_⟩
      · intro d' hNe
        rw [hPurged.dbs d' hNe, hDbs d' hNe]
      · intro q hMem
        rcases List.mem_cons.mp hMem with rfl | hLater
        · rw [hPurged.others q hNot, hFreed]
        · exact hPurged.freed q hLater
      · intro q hOut
        rw [hPurged.others q
          (fun hMem => hOut (List.mem_cons_of_mem p hMem))]
        exact hOthers q hOut
      · intro rounds
        rw [hFirst]
        cases rounds with
        | zero => rfl
        | succ rounds =>
            unfold Memory.purgeLoop
            rw [if_neg (by simp)]
            dsimp only
            rw [hCall, Bounded.ok_bind]
            dsimp only
            rw [db_of hRest.found, Bounded.ok_bind,
              hLoop rounds]
            simp

/- `alto_purge_db` ends, with the empty database. -/
theorem altoPurgeDb
    (hLists : m.Lists d db ps) :
    ∃ m',
      Purged m m' d ps ∧
        ∀ rounds,
          m.altoPurgeDb rounds (some d) =
            .ok
              (if ps.length ≤ rounds then
                some (m', 1)
              else
                none) := by
  rcases hLists.purgeLoop with ⟨m', hPurged, hLoop⟩
  refine ⟨m', hPurged, ?_⟩
  intro rounds
  unfold Memory.altoPurgeDb
  rw [if_neg (by simp), db_of hLists.found,
    Bounded.ok_bind, hLoop rounds, Bounded.ok_bind]
  split <;> rfl

/- `alto_free_db` ends too, and then frees the database. -/
theorem altoFreeDb
    (hLists : m.Lists d db ps) :
    ∃ m',
      Purged m m' d ps ∧
        ∀ rounds,
          m.altoFreeDb rounds (some d) =
            .ok
              (if ps.length ≤ rounds then
                some (m'.setDb d none, 1)
              else
                none) := by
  rcases hLists.altoPurgeDb with ⟨m', hPurged, hCall⟩
  refine ⟨m', hPurged, ?_⟩
  intro rounds
  unfold Memory.altoFreeDb
  rw [if_neg (by simp), hCall rounds, Bounded.ok_bind]
  by_cases hRounds : ps.length ≤ rounds
  · rw [if_pos hRounds, if_pos hRounds]
    dsimp only
    rw [freeDb_of hPurged.lists.found, Bounded.ok_bind]
  · rw [if_neg hRounds, if_neg hRounds]

end Lists

end Memory

end ALTO

end NapaBaselibs
