import NapaBaselibs.Lib.DoublyLinked
import NapaBaselibs.Lib.Runs
import NapaBaselibs.ALTO.Database

/-
  `ALTOclient.c`: a database as it is linked in memory.

  Elements and databases are cells that are allocated and
  freed, and an access through a null pointer or to a freed
  cell is a fault.

  Key definitions include:
    * `Memory`
    * `Memory.altoAddElement`, `Memory.altoRemElement`
    * `Memory.altoPurgeDb`, `Memory.altoFreeDb`
    * `DbStep`
-/

------------------------------------------------------------
-- Memory
------------------------------------------------------------

namespace NapaBaselibs

namespace ALTO

abbrev ElementPtr := Nat
abbrev DbPtr := Nat

/- `struct alto_db_element_t`, with its pointers. -/
structure AltoDbElementT where
  altoDb : Option DbPtr
  next : Option ElementPtr
  prev : Option ElementPtr
  stamp : Int
  element : AltoDbElement
deriving DecidableEq, Repr

/- `struct alto_db_t`; the number is an `int`. -/
structure AltoDbT where
  numOfElements : BitVec 32
  first : Option ElementPtr
  last : Option ElementPtr
deriving DecidableEq, Repr

/- The databases and the elements that are allocated. -/
structure Memory where
  dbs : DbPtr → Option AltoDbT
  elements : ElementPtr → Option AltoDbElementT

/- What goes wrong when a pointer is followed. -/
inductive AccessFault where
  | nullPointer
  | freed
deriving DecidableEq

/- The cell that a pointer leads to, with its address. -/
def access
    {α : Type}
    (cells : Nat → Option α)
    (pointer : Option Nat) : Except AccessFault (Nat × α) :=
  match pointer with
  | none => .error .nullPointer
  | some address =>
      match cells address with
      | none => .error .freed
      | some cell => .ok (address, cell)

namespace Memory

/- Nothing is allocated. -/
def empty : Memory where
  dbs := fun _ => none
  elements := fun _ => none

/- Reading a database. -/
def db
    (m : Memory)
    (pointer : Option DbPtr) : Except AccessFault AltoDbT := do
  let found ← access m.dbs pointer
  .ok found.2

/- Reading an element. -/
def element
    (m : Memory)
    (pointer : Option ElementPtr) :
    Except AccessFault AltoDbElementT := do
  let found ← access m.elements pointer
  .ok found.2

/- The cell of a database replaced. -/
def setDb
    (m : Memory)
    (d : DbPtr)
    (cell : Option AltoDbT) : Memory :=
  { m with dbs := Function.update m.dbs d cell }

/- The cell of an element replaced. -/
def setElement
    (m : Memory)
    (p : ElementPtr)
    (cell : Option AltoDbElementT) : Memory :=
  { m with elements := Function.update m.elements p cell }

/- Writing to a database. -/
def modifyDb
    (m : Memory)
    (pointer : Option DbPtr)
    (f : AltoDbT → AltoDbT) : Except AccessFault Memory := do
  let found ← access m.dbs pointer
  .ok (m.setDb found.1 (some (f found.2)))

/- Writing to an element. -/
def modifyElement
    (m : Memory)
    (pointer : Option ElementPtr)
    (f : AltoDbElementT → AltoDbElementT) :
    Except AccessFault Memory := do
  let found ← access m.elements pointer
  .ok (m.setElement found.1 (some (f found.2)))

/- `free`, for an element. -/
def freeElement
    (m : Memory)
    (pointer : Option ElementPtr) :
    Except AccessFault Memory := do
  let found ← access m.elements pointer
  .ok (m.setElement found.1 none)

/- `free`, for a database. -/
def freeDb
    (m : Memory)
    (pointer : Option DbPtr) : Except AccessFault Memory := do
  let found ← access m.dbs pointer
  .ok (m.setDb found.1 none)

/- `malloc`, for an element: whatever stands in the block. -/
def mallocElement
    (m : Memory)
    (p : ElementPtr)
    (contents : AltoDbElementT) : Memory :=
  m.setElement p (some contents)

------------------------------------------------------------
-- The Operations On A Database
------------------------------------------------------------

/- `alto_db_init`, where `malloc` returns `d`. -/
def altoDbInit
    (m : Memory)
    (d : DbPtr) : Memory :=
  m.setDb d
    (some
      { numOfElements := 0
        first := none
        last := none })

/- `alto_add_element`; `now` is what `time` returns. -/
def altoAddElement
    (m : Memory)
    (now : Int)
    (db element : Option Nat) :
    Except AccessFault (Memory × Int) := do
  if db = none ∨ element = none then
    .ok (m, -1)
  else
    let found ← m.db db
    if found.first = none ∧ found.last = none then
      let m ← m.modifyDb db fun _ =>
        { numOfElements := 1
          first := element
          last := element }
      let m ← m.modifyElement element fun e =>
        { e with
          next := none
          prev := none
          altoDb := db
          stamp := now }
      .ok (m, 1)
    else
      let m ← m.modifyElement found.last fun e =>
        { e with next := element }
      let m ← m.modifyElement element fun e =>
        { e with
          prev := found.last
          next := none
          altoDb := db
          stamp := now }
      let m ← m.modifyDb db fun found =>
        { found with
          last := element
          numOfElements := found.numOfElements + 1 }
      .ok (m, 1)

/-
  `alto_rem_element`: the only element, the first one, the
  last one, or one in between.
-/
def altoRemElement
    (m : Memory)
    (element : Option ElementPtr) :
    Except AccessFault (Memory × Int) := do
  if element = none then
    .ok (m, -1)
  else
    let e ← m.element element
    let db := e.altoDb
    let found ← m.db db
    if found.first = element ∧ found.last = element then
      let m ← m.modifyDb db fun _ =>
        { numOfElements := 0
          first := none
          last := none }
      let m ← m.freeElement element
      .ok (m, 1)
    else if found.first = element ∧ found.last ≠ element then
      let m ← m.modifyElement e.next fun next =>
        { next with prev := none }
      let e ← m.element element
      let m ← m.modifyDb db fun found =>
        { found with
          first := e.next
          numOfElements := found.numOfElements - 1 }
      let m ← m.freeElement element
      .ok (m, 1)
    else if found.first ≠ element ∧ found.last = element then
      let m ← m.modifyElement e.prev fun prev =>
        { prev with next := none }
      let e ← m.element element
      let m ← m.modifyDb db fun found =>
        { found with
          last := e.prev
          numOfElements := found.numOfElements - 1 }
      let m ← m.freeElement element
      .ok (m, 1)
    else
      let m ← m.modifyElement e.prev fun prev =>
        { prev with next := e.next }
      let e ← m.element element
      let m ← m.modifyElement e.next fun next =>
        { next with prev := e.prev }
      let m ← m.modifyDb db fun found =>
        { found with
          numOfElements := found.numOfElements - 1 }
      let m ← m.freeElement element
      .ok (m, 1)

/-
  The loop of `alto_purge_db`, for so many rounds at most:
  `none` says that it is still running.
-/
def purgeLoop
    (db : Option DbPtr) :
    Nat → Memory → Option ElementPtr →
      Except AccessFault (Option Memory)
| rounds, m, cur =>
    if cur = none then
      .ok (some m)
    else
      match rounds with
      | 0 => .ok none
      | rounds + 1 => do
          let removed ← m.altoRemElement cur
          let found ← removed.1.db db
          purgeLoop db rounds removed.1 found.first

/- `alto_purge_db`. -/
def altoPurgeDb
    (m : Memory)
    (rounds : Nat)
    (db : Option DbPtr) :
    Except AccessFault (Option (Memory × Int)) := do
  if db = none then
    .ok (some (m, -1))
  else
    let found ← m.db db
    let purged ← purgeLoop db rounds m found.first
    .ok (purged.map fun m => (m, 1))

/- `alto_free_db`. -/
def altoFreeDb
    (m : Memory)
    (rounds : Nat)
    (db : Option DbPtr) :
    Except AccessFault (Option (Memory × Int)) := do
  if db = none then
    .ok (some (m, -1))
  else
    let purged ← m.altoPurgeDb rounds db
    match purged with
    | none => .ok none
    | some (m, res) => do
        let m ← m.freeDb db
        .ok (some (m, res))

end Memory

------------------------------------------------------------
-- What The Memory Links
------------------------------------------------------------

/- The two pointers of an element to others. -/
def AltoDbElementT.links
    (e : AltoDbElementT) : DoublyLinked.Links ElementPtr where
  next := e.next
  prev := e.prev

/- An element without its pointers to others. -/
structure ElementData where
  altoDb : Option DbPtr
  stamp : Int
  element : AltoDbElement
deriving DecidableEq, Repr

def AltoDbElementT.data
    (e : AltoDbElementT) : ElementData where
  altoDb := e.altoDb
  stamp := e.stamp
  element := e.element

/- The two pointers of a database. -/
def AltoDbT.ends
    (db : AltoDbT) : DoublyLinked.Ends ElementPtr where
  first := db.first
  last := db.last

namespace Memory

/- The pointers of all elements. -/
def heap
    (m : Memory) : DoublyLinked.Heap ElementPtr :=
  fun p => (m.elements p).map AltoDbElementT.links

/- What else the elements are. -/
def data
    (m : Memory)
    (p : ElementPtr) : Option ElementData :=
  (m.elements p).map AltoDbElementT.data

/- An element that some database reaches from `first`. -/
def IsListed
    (m : Memory)
    (p : ElementPtr) : Prop :=
  ∃ d db ps,
    m.dbs d = some db ∧
      DoublyLinked.Path m.heap.next db.first ps ∧ p ∈ ps

end Memory

------------------------------------------------------------
-- Runs
------------------------------------------------------------

/-
  What is called: an element that is added has just been
  allocated, with anything in it.
-/
inductive DbEvent where
  | altoDbInit (d : DbPtr)
  | altoAddElement
      (d : DbPtr)
      (p : ElementPtr)
      (contents : AltoDbElementT)
      (now : Int)
  | altoRemElement (p : ElementPtr)
  | altoPurgeDb (d : DbPtr)
  | altoFreeDb (d : DbPtr)

/- A call that returns, with its result. -/
def DbStep
    (m : Memory)
    (e : DbEvent)
    (outputs : List Int)
    (m' : Memory) : Prop :=
  match e with
  | .altoDbInit d =>
      m.dbs d = none ∧ m' = m.altoDbInit d ∧ outputs = []
  | .altoAddElement d p contents now =>
      m.dbs d ≠ none ∧
        m.elements p = none ∧
        ∃ r,
          (m.mallocElement p contents).altoAddElement now
              (some d) (some p) =
            .ok (m', r) ∧
          outputs = [r]
  | .altoRemElement p =>
      m.IsListed p ∧
        ∃ r,
          m.altoRemElement (some p) = .ok (m', r) ∧
            outputs = [r]
  | .altoPurgeDb d =>
      m.dbs d ≠ none ∧
        ∃ rounds r,
          m.altoPurgeDb rounds (some d) =
              .ok (some (m', r)) ∧
            outputs = [r]
  | .altoFreeDb d =>
      m.dbs d ≠ none ∧
        ∃ rounds r,
          m.altoFreeDb rounds (some d) = .ok (some (m', r)) ∧
            outputs = [r]

end ALTO

end NapaBaselibs
