import NapaBaselibs.ALTO.DatabaseLists

/-
  Databases over whole runs.

  In every run each database has its list, and no element is
  in two of them, so that an operation on one database leaves
  the lists of the others alone.

  Key definitions include:
    * `Memory.WellLinked`, `Memory.Linked`
    * `Memory.Contents`

  Key theorems include:
    * `DbStep.wellLinked`
    * `linked_after_run`
    * `Memory.Contents.altoAddElement`
-/

------------------------------------------------------------
-- The Invariant
------------------------------------------------------------

namespace NapaBaselibs

namespace ALTO

variable {m m' : Memory}
variable {d : DbPtr}
variable {p : ElementPtr}
variable {db : AltoDbT}
variable {ps : List ElementPtr}

namespace Memory

/- Every database has its list. -/
def WellLinked (m : Memory) : Prop :=
  ∀ d db, m.dbs d = some db → ∃ ps, m.Lists d db ps

/-
  An operation on `d` that writes to no elements but its own
  and one that was free.
-/
theorem WellLinked.of_operation
    (hLinked : m.WellLinked)
    (hLists : m.Lists d db ps)
    (hDbs : ∀ d', d' ≠ d → m'.dbs d' = m.dbs d')
    (hElements :
      ∀ q, q ∉ ps → m.elements q ≠ none →
        m'.elements q = m.elements q)
    (hOwn :
      ∀ db', m'.dbs d = some db' →
        ∃ ps', m'.Lists d db' ps') :
    m'.WellLinked := by
  intro d' db' hFound
  by_cases hEq : d' = d
  · subst hEq
    exact hOwn db' hFound
  · rw [hDbs d' hEq] at hFound
    rcases hLinked d' db' hFound with ⟨ps', hOther⟩
    refine ⟨ps', hOther.frame (hDbs d' hEq) ?_⟩
    intro q hMem
    apply hElements q
    · exact hOther.disjoint hLists (Ne.symm hEq) hMem
    · intro hFree
      exact hOther.notMem_of_free hFree hMem

/- An element that is listed is in the list of a database. -/
theorem WellLinked.exists_lists
    (hLinked : m.WellLinked)
    (hListed : m.IsListed p) :
    ∃ d db ps, m.Lists d db ps ∧ p ∈ ps := by
  rcases hListed with ⟨d, db, ps, hFound, hPath, hMem⟩
  rcases hLinked d db hFound with ⟨ps', hLists⟩
  have hSame := hPath.unique hLists.holds.forward
  exact ⟨d, db, ps', hLists, hSame ▸ hMem⟩

/- The purged database of a memory. -/
theorem WellLinked.of_purged
    (hLinked : m.WellLinked)
    (hLists : m.Lists d db ps)
    (hPurged : Purged m m' d ps) :
    m'.WellLinked := by
  apply hLinked.of_operation hLists hPurged.dbs
  · intro q hOut _
    exact hPurged.others q hOut
  · intro db' hFound
    rw [hPurged.lists.found] at hFound
    cases hFound
    exact ⟨[], hPurged.lists⟩

end Memory

/- Every step keeps the lists. -/
theorem DbStep.wellLinked
    {event : DbEvent}
    {outputs : List Int}
    (hStep : DbStep m event outputs m')
    (hLinked : m.WellLinked) :
    m'.WellLinked := by
  cases event with
  | altoDbInit d =>
      rcases hStep with ⟨hNew, rfl, _⟩
      intro d' db' hFound
      by_cases hEq : d' = d
      · subst hEq
        unfold Memory.altoDbInit at hFound ⊢
        rw [Memory.setDb_dbs, Function.update_self] at hFound
        cases hFound
        refine ⟨[], ⟨Function.update_self _ _ _,
          DoublyLinked.Holds.empty _, rfl, ?_⟩⟩
        intro q hMem
        cases hMem
      · have hSame :
            (m.altoDbInit d).dbs d' = m.dbs d' :=
          Function.update_of_ne hEq _ _
        rw [hSame] at hFound
        rcases hLinked d' db' hFound with ⟨ps, hLists⟩
        exact ⟨ps, hLists.frame hSame (fun _ _ => rfl)⟩
  | altoAddElement d p contents now =>
      rcases hStep with ⟨hDb, hFree, r, hCall, _⟩
      rcases Option.ne_none_iff_exists'.mp hDb with
        ⟨db, hFound⟩
      rcases hLinked d db hFound with ⟨ps, hLists⟩
      rcases hLists.altoAddElement hFree contents now with
        ⟨m₁, db₁, hSame, hOwn, hDbs, _, hElements⟩
      rw [hSame] at hCall
      cases hCall
      apply hLinked.of_operation hLists hDbs
      · intro q hOut hAllocated
        apply hElements q hOut
        rintro rfl
        exact hAllocated hFree
      · intro db' hFound'
        rw [hOwn.found] at hFound'
        cases hFound'
        exact ⟨_, hOwn⟩
  | altoRemElement p =>
      rcases hStep with ⟨hListed, r, hCall, _⟩
      rcases hLinked.exists_lists hListed with
        ⟨d, db, ps, hLists, hMem⟩
      rcases List.append_of_mem hMem with
        ⟨before, after, rfl⟩
      rcases hLists.altoRemElement with
        ⟨m₁, db₁, hSame, hOwn, hDbs, _, hElements⟩
      rw [hSame] at hCall
      cases hCall
      apply hLinked.of_operation hLists hDbs
      · intro q hOut _
        exact hElements q hOut
      · intro db' hFound'
        rw [hOwn.found] at hFound'
        cases hFound'
        exact ⟨_, hOwn⟩
  | altoPurgeDb d =>
      rcases hStep with ⟨hDb, rounds, r, hCall, _⟩
      rcases Option.ne_none_iff_exists'.mp hDb with
        ⟨db, hFound⟩
      rcases hLinked d db hFound with ⟨ps, hLists⟩
      rcases hLists.altoPurgeDb with ⟨m₁, hPurged, hRounds⟩
      rw [hRounds rounds] at hCall
      split at hCall
      · cases hCall
        exact hLinked.of_purged hLists hPurged
      · cases hCall
  | altoFreeDb d =>
      rcases hStep with ⟨hDb, rounds, r, hCall, _⟩
      rcases Option.ne_none_iff_exists'.mp hDb with
        ⟨db, hFound⟩
      rcases hLinked d db hFound with ⟨ps, hLists⟩
      rcases hLists.altoFreeDb with ⟨m₁, hPurged, hRounds⟩
      rw [hRounds rounds] at hCall
      split at hCall
      · cases hCall
        apply hLinked.of_operation hLists
        · intro d' hNe
          rw [Memory.setDb_dbs, Function.update_of_ne hNe]
          exact hPurged.dbs d' hNe
        · intro q hOut _
          exact hPurged.others q hOut
        · intro db' hFound'
          rw [Memory.setDb_dbs, Function.update_self]
            at hFound'
          cases hFound'
      · cases hCall

/- Every run keeps the lists. -/
theorem wellLinked_of_run
    {trace : List (Transition Memory DbEvent Int)}
    (hRun : Run DbStep Memory.empty trace m) :
    m.WellLinked := by
  refine hRun.invariant
    (fun _ _ _ _ hStep hLinked => hStep.wellLinked hLinked)
    ?_
  intro d db hFound
  cases hFound

------------------------------------------------------------
-- What A Reader Of The Pointers Sees
------------------------------------------------------------

namespace Memory

/-
  The elements `ps` of a database: those that `next` goes
  through from `first`, and `prev` the other way round from
  `last`.
-/
structure Linked
    (m : Memory)
    (d : DbPtr)
    (db : AltoDbT)
    (ps : List ElementPtr) : Prop where
  found : m.dbs d = some db
  forward : DoublyLinked.Path m.heap.next db.first ps
  backward : DoublyLinked.Path m.heap.prev db.last ps.reverse
  numOfElements :
    db.numOfElements = BitVec.ofNat 32 ps.length
  toInt_numOfElements :
    ps.length < 2 ^ 31 → db.numOfElements.toInt = ps.length
  first_null : db.first = none ↔ ps = []
  last_null : db.last = none ↔ ps = []
  altoDb :
    ∀ p ∈ ps,
      ∃ e, m.elements p = some e ∧ e.altoDb = some d

/- The list of a database, as its pointers show it. -/
theorem Lists.linked
    (hLists : m.Lists d db ps) :
    m.Linked d db ps where
  found := hLists.found
  forward := hLists.holds.forward
  backward := hLists.holds.backward
  numOfElements := hLists.count
  toInt_numOfElements := by
    intro hSmall
    have hToNat :
        (BitVec.ofNat 32 ps.length).toNat = ps.length := by
      rw [BitVec.toNat_ofNat]
      exact Nat.mod_eq_of_lt (by omega)
    rw [hLists.count, BitVec.toInt_eq_toNat_of_lt (by omega),
      hToNat]
  first_null := hLists.holds.forward.start_eq_none_iff
  last_null := by
    rw [← List.reverse_eq_nil_iff]
    exact hLists.holds.backward.start_eq_none_iff
  altoDb := by
    intro p hMem
    rcases List.append_of_mem hMem with ⟨before, after, rfl⟩
    rcases hLists.exists_element with
      ⟨e, hElement, _, _, hOwner⟩
    exact ⟨e, hElement, hOwner⟩

end Memory

/-
  In every run of initialisations, additions, removals and
  purges each database is linked, and from there every
  operation returns: it never follows a null pointer or one
  to a freed element.  An element that is added comes last,
  the one that is removed is freed and the others keep their
  order, and purging takes as many rounds as there are
  elements.
-/
theorem linked_after_run
    {trace : List (Transition Memory DbEvent Int)}
    (hRun : Run DbStep Memory.empty trace m)
    (hFound : m.dbs d = some db) :
    ∃ ps,
      m.Linked d db ps ∧
        (∀ p contents now,
          m.elements p = none →
            ∃ m' db',
              (m.mallocElement p contents).altoAddElement now
                    (some d) (some p) =
                  .ok (m', 1) ∧
                m'.Linked d db' (ps ++ [p]) ∧
                ∀ q, q ≠ p → m'.data q = m.data q) ∧
        (∀ p ∈ ps,
          ∃ m' db',
            m.altoRemElement (some p) = .ok (m', 1) ∧
              m'.Linked d db' (ps.erase p) ∧
              m'.elements p = none ∧
              ∀ q, q ≠ p → m'.data q = m.data q) ∧
        ∃ m',
          (∀ rounds,
            m.altoPurgeDb rounds (some d) =
              .ok
                (if ps.length ≤ rounds then
                  some (m', 1)
                else
                  none)) ∧
            m'.Linked d
              { numOfElements := 0
                first := none
                last := none } [] ∧
            (∀ q ∈ ps, m'.elements q = none) ∧
            ∀ q, q ∉ ps → m'.elements q = m.elements q := by
  rcases wellLinked_of_run hRun d db hFound with
    ⟨ps, hLists⟩
  refine ⟨ps, hLists.linked, ?_, ?_, ?_⟩
  · intro p contents now hFree
    rcases hLists.altoAddElement hFree contents now with
      ⟨m', db', hCall, hNew, _, hData, _⟩
    refine ⟨m', db', hCall, hNew.linked, ?_⟩
    intro q hNe
    rw [hData, Function.update_of_ne hNe]
  · intro p hMem
    rcases List.append_of_mem hMem with
      ⟨before, after, rfl⟩
    rcases hLists.altoRemElement with
      ⟨m', db', hCall, hNew, _, hData, _⟩
    have hNodup := hLists.holds.nodup
    rw [List.nodup_middle] at hNodup
    have hNot : p ∉ before := by
      intro hBefore
      exact (List.nodup_cons.mp hNodup).1
        (List.mem_append_left _ hBefore)
    refine ⟨m', db', hCall, ?_, ?_, ?_⟩
    · rw [List.erase_append_right _ hNot,
        List.erase_cons_head]
      exact hNew.linked
    · have hNone : m'.data p = none := by
        rw [hData, Function.update_self]
      exact Option.map_eq_none_iff.mp hNone
    · intro q hNe
      rw [hData, Function.update_of_ne hNe]
  · rcases hLists.altoPurgeDb with ⟨m', hPurged, hRounds⟩
    exact ⟨m', hRounds, hPurged.lists.linked,
      hPurged.freed, hPurged.others⟩

/- An element as it may be allocated. -/
def someElement : AltoDbElementT where
  altoDb := none
  next := some 3
  prev := none
  stamp := 0
  element :=
    { host := ⟨0⟩
      hostMask := 24
      rating := 1 }

/- The memory after a call that returns. -/
def memoryAfter
    (result : Except AccessFault (Memory × Int)) : Memory :=
  match result with
  | .ok (m, _) => m
  | .error _ => Memory.empty

/- One element is added, then another, and the first goes. -/
def memoryOfOne : Memory :=
  memoryAfter
    (((Memory.empty.altoDbInit 0).mallocElement 7
      someElement).altoAddElement 100 (some 0) (some 7))

def memoryOfTwo : Memory :=
  memoryAfter
    ((memoryOfOne.mallocElement 9
      someElement).altoAddElement 101 (some 0) (some 9))

def memoryOfLast : Memory :=
  memoryAfter (memoryOfTwo.altoRemElement (some 7))

theorem linked_after_removal :
    ∃ ps, memoryOfLast.Linked 0 ⟨1, some 9, some 9⟩ ps := by
  have hInit :
      DbStep Memory.empty (.altoDbInit 0) []
        (Memory.empty.altoDbInit 0) :=
    ⟨rfl, rfl, rfl⟩
  have hFirst :
      DbStep (Memory.empty.altoDbInit 0)
        (.altoAddElement 0 7 someElement 100) [1]
        memoryOfOne :=
    ⟨by decide, rfl, 1, rfl, rfl⟩
  have hSecond :
      DbStep memoryOfOne
        (.altoAddElement 0 9 someElement 101) [1]
        memoryOfTwo :=
    ⟨by decide, rfl, 1, rfl, rfl⟩
  have hListed : memoryOfTwo.IsListed 7 :=
    ⟨0, ⟨2, some 7, some 9⟩, [7, 9], rfl,
      ⟨rfl, some 9, rfl, rfl, none, rfl, rfl⟩, by decide⟩
  have hRemoval :
      DbStep memoryOfTwo (.altoRemElement 7) [1]
        memoryOfLast :=
    ⟨hListed, 1, rfl, rfl⟩
  have hRun :=
    Run.cons hInit (.cons hFirst
      (.cons hSecond (.cons hRemoval (.nil memoryOfLast))))
  have hFound :
      memoryOfLast.dbs 0 = some ⟨1, some 9, some 9⟩ := rfl
  rcases linked_after_run hRun hFound with
    ⟨ps, hLinked, _⟩
  exact ⟨ps, hLinked⟩

------------------------------------------------------------
-- Databases As Lists Of Elements
------------------------------------------------------------

namespace Memory

/- What a database holds, without the pointers. -/
def Contents
    (m : Memory)
    (d : DbPtr)
    (elements : AltoDb) : Prop :=
  ∃ db ps,
    m.Lists d db ps ∧
      ps.map (fun p => (m.data p).map ElementData.element) =
        elements.map some

/- The linked database appends, as the list does. -/
theorem Contents.altoAddElement
    {elements : AltoDb}
    (hContents : m.Contents d elements)
    (hFree : m.elements p = none)
    (contents : AltoDbElementT)
    (now : Int) :
    ∃ m',
      (m.mallocElement p contents).altoAddElement now
            (some d) (some p) =
          .ok (m', 1) ∧
        m'.Contents d
          (ALTO.altoAddElement elements contents.element) := by
  rcases hContents with ⟨db, ps, hLists, hValues⟩
  rcases hLists.altoAddElement hFree contents now with
    ⟨m', db', hCall, hNew, _, hData, _⟩
  refine ⟨m', hCall, db', _, hNew, ?_⟩
  have hOld :
      ps.map (fun p => (m'.data p).map ElementData.element) =
        ps.map
          (fun p => (m.data p).map ElementData.element) := by
    apply List.map_congr_left
    intro q hMem
    have hNe : q ≠ p := by
      rintro rfl
      exact hLists.notMem_of_free hFree hMem
    rw [hData, Function.update_of_ne hNe]
  rw [List.map_append, hOld, hValues]
  unfold ALTO.altoAddElement
  rw [List.map_append, hData]
  simp

/- Purging leaves the empty list. -/
theorem Contents.altoPurgeDb
    {elements : AltoDb}
    (hContents : m.Contents d elements) :
    ∃ m',
      (∀ rounds,
        elements.length ≤ rounds →
          m.altoPurgeDb rounds (some d) =
            .ok (some (m', 1))) ∧
        m'.Contents d (ALTO.altoPurgeDb elements) := by
  rcases hContents with ⟨db, ps, hLists, hValues⟩
  rcases hLists.altoPurgeDb with ⟨m', hPurged, hRounds⟩
  have hLength : ps.length = elements.length := by
    have hSame := congrArg List.length hValues
    rwa [List.length_map, List.length_map] at hSame
  refine ⟨m', ?_, _, [], hPurged.lists, rfl⟩
  intro rounds hEnough
  rw [hRounds rounds, if_pos (hLength ▸ hEnough)]

end Memory

end ALTO

end NapaBaselibs
