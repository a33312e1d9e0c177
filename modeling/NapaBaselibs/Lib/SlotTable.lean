import Mathlib.Data.List.FinRange
import Mathlib.Data.Fintype.Card
import Mathlib.Logic.Function.Basic

/-
  Fixed-size tables of optional entries, searched in index
  order.

  A table of size `n` maps every index below `n` to an entry
  or to nothing, so an index outside the table cannot be
  written down; `index?` is the range check that turns an
  integer coming from elsewhere into an index.

  Key definitions include:
    * `SlotTable`
    * `SlotTable.index?`
    * `SlotTable.find?`
    * `SlotTable.firstFree?`
    * `SlotTable.set`
    * `SlotTable.free`

  Key theorems include:
    * `SlotTable.index?_eq_some_iff`
    * `SlotTable.of_find?_eq_some`
    * `SlotTable.find?_eq_none_iff`
    * `SlotTable.find?_eq_some_of_unique`
    * `SlotTable.find?_set_found`
    * `SlotTable.find?_set_of_not`
    * `SlotTable.firstFree?_eq_none_iff`
    * `SlotTable.free_of_firstFree?`
-/

------------------------------------------------------------
-- Tables
------------------------------------------------------------

/- A table with `n` slots, each empty or holding an entry. -/
abbrev SlotTable (n : Nat) (α : Type) :=
  Fin n → Option α

namespace SlotTable

variable {n : Nat} {α : Type}

/- The table with no entry. -/
def empty : SlotTable n α :=
  fun _ => none

@[simp] theorem empty_apply
    (i : Fin n) :
    (empty : SlotTable n α) i = none := rfl

/- The index denoted by an integer, when it is in range. -/
def index? (n : Nat) (i : Int) : Option (Fin n) :=
  if h : 0 ≤ i ∧ i.toNat < n then
    some ⟨i.toNat, h.2⟩
  else
    none

/- Put an entry into a slot. -/
def set
    (table : SlotTable n α)
    (i : Fin n)
    (entry : α) : SlotTable n α :=
  Function.update table i (some entry)

/- Empty a slot. -/
def free
    (table : SlotTable n α)
    (i : Fin n) : SlotTable n α :=
  Function.update table i none

/- The first slot whose entry satisfies `p`, with its entry. -/
def find?
    (table : SlotTable n α)
    (p : α → Bool) : Option (Fin n × α) :=
  (List.finRange n).findSome? (fun i =>
    match table i with
    | some entry => if p entry then some (i, entry) else none
    | none => none)

/- The first empty slot. -/
def firstFree? (table : SlotTable n α) : Option (Fin n) :=
  (List.finRange n).find? (fun i => (table i).isNone)

------------------------------------------------------------
-- Reading And Writing
------------------------------------------------------------

/- The range check accepts exactly the indices. -/
theorem index?_eq_some_iff
    {i : Int}
    {k : Fin n} :
    index? n i = some k ↔ i = (k : Nat) := by
  unfold index?
  split
  · rename_i h
    rw [Option.some.injEq, Fin.ext_iff]
    simp only
    omega
  · rename_i h
    constructor
    · intro hNone
      cases hNone
    · intro hEq
      exact absurd ⟨by omega, by have := k.isLt; omega⟩ h

/- The range check refuses exactly the other integers. -/
theorem index?_eq_none_iff
    {i : Int} :
    index? n i = none ↔ i < 0 ∨ (n : Int) ≤ i := by
  unfold index?
  split
  · rename_i h
    simp only [reduceCtorEq, false_iff]
    omega
  · rename_i h
    simp only [true_iff]
    omega

@[simp] theorem index?_natCast
    (k : Fin n) :
    index? n ((k : Nat) : Int) = some k :=
  index?_eq_some_iff.mpr rfl

@[simp] theorem set_self
    (table : SlotTable n α)
    (i : Fin n)
    (entry : α) :
    set table i entry i = some entry := by
  simp [set]

theorem set_of_ne
    (table : SlotTable n α)
    {i j : Fin n}
    (entry : α)
    (hNe : j ≠ i) :
    set table i entry j = table j := by
  simp [set, hNe]

@[simp] theorem set_set
    (table : SlotTable n α)
    (i : Fin n)
    (first second : α) :
    (table.set i first).set i second =
      table.set i second :=
  Function.update_idem ..

/- Writing back what a slot holds changes nothing. -/
theorem set_eq_self
    {table : SlotTable n α}
    {i : Fin n}
    {entry : α}
    (hEntry : table i = some entry) :
    table.set i entry = table := by
  unfold set
  rw [← hEntry]
  exact Function.update_eq_self i table

@[simp] theorem free_self
    (table : SlotTable n α)
    (i : Fin n) :
    free table i i = none := by
  simp [free]

theorem free_of_ne
    (table : SlotTable n α)
    {i j : Fin n}
    (hNe : j ≠ i) :
    free table i j = table j := by
  simp [free, hNe]

/- Freeing a place that was taken last leaves it as before. -/
theorem free_set_of_eq_none
    {table : SlotTable n α}
    {i : Fin n}
    (hFree : table i = none)
    (entry : α) :
    (table.set i entry).free i = table := by
  funext j
  by_cases hEq : j = i
  · rw [hEq, free_self, hFree]
  · rw [free_of_ne _ hEq, set_of_ne _ _ hEq]

/- An entry found after a write is the one written or old. -/
theorem set_eq_some_cases
    {table : SlotTable n α}
    {i j : Fin n}
    {entry found : α}
    (hFound : set table i entry j = some found) :
    (j = i ∧ found = entry) ∨
      (j ≠ i ∧ table j = some found) := by
  by_cases hEq : j = i
  · subst hEq
    rw [set_self, Option.some.injEq] at hFound
    exact Or.inl ⟨rfl, hFound.symm⟩
  · rw [set_of_ne table entry hEq] at hFound
    exact Or.inr ⟨hEq, hFound⟩

/- An entry found after emptying a slot was there before. -/
theorem free_eq_some
    {table : SlotTable n α}
    {i j : Fin n}
    {found : α}
    (hFound : free table i j = some found) :
    j ≠ i ∧ table j = some found := by
  by_cases hEq : j = i
  · subst hEq
    rw [free_self] at hFound
    cases hFound
  · rw [free_of_ne table hEq] at hFound
    exact ⟨hEq, hFound⟩

------------------------------------------------------------
-- Searching
------------------------------------------------------------

/- What the search found is an entry satisfying `p`. -/
theorem of_find?_eq_some
    {table : SlotTable n α}
    {p : α → Bool}
    {i : Fin n}
    {entry : α}
    (hFind : table.find? p = some (i, entry)) :
    table i = some entry ∧ p entry = true := by
  rcases List.exists_of_findSome?_eq_some hFind with
    ⟨j, _, hAt⟩
  cases hSlot : table j with
  | none => simp [hSlot] at hAt
  | some other =>
      by_cases hP : p other
      · simp only [hSlot, hP, if_true, Option.some.injEq,
          Prod.mk.injEq] at hAt
        rcases hAt with ⟨rfl, rfl⟩
        exact ⟨hSlot, hP⟩
      · simp [hSlot, hP] at hAt

/- The search fails exactly when no entry satisfies `p`. -/
theorem find?_eq_none_iff
    {table : SlotTable n α}
    {p : α → Bool} :
    table.find? p = none ↔
      ∀ i entry, table i = some entry → p entry = false := by
  unfold find?
  rw [List.findSome?_eq_none_iff]
  constructor
  · intro hAll i entry hSlot
    have hAt := hAll i (List.mem_finRange i)
    simpa [hSlot] using hAt
  · intro hAll i _
    cases hSlot : table i with
    | none => rfl
    | some entry => simp [hAll i entry hSlot]

/-
  When at most one slot can satisfy `p`, the search finds it
  wherever it is.
-/
theorem find?_eq_some_of_unique
    {table : SlotTable n α}
    {p : α → Bool}
    {i : Fin n}
    {entry : α}
    (hSlot : table i = some entry)
    (hP : p entry = true)
    (hUnique :
      ∀ j other, table j = some other →
        p other = true → j = i) :
    table.find? p = some (i, entry) := by
  cases hFind : table.find? p with
  | none =>
      have hFalse :=
        find?_eq_none_iff.mp hFind i entry hSlot
      rw [hP] at hFalse
      cases hFalse
  | some found =>
      rcases found with ⟨j, other⟩
      rcases of_find?_eq_some hFind with ⟨hOther, hPOther⟩
      have hEq := hUnique j other hOther hPOther
      subst hEq
      rw [hSlot, Option.some.injEq] at hOther
      rw [hOther]

/-
  Overwriting an entry by one of the same kind changes the
  entry found, if it is that one, and nothing else.
-/
theorem find?_set_same
    {table : SlotTable n α}
    {p : α → Bool}
    {i : Fin n}
    {old new : α}
    (hOld : table i = some old)
    (hSame : p new = p old) :
    (table.set i new).find? p =
      (table.find? p).map (fun found =>
        if found.1 = i then (i, new) else found) := by
  unfold find?
  induction List.finRange n with
  | nil => rfl
  | cons j rest ih =>
      rw [List.findSome?_cons, List.findSome?_cons]
      by_cases hEq : j = i
      · subst hEq
        rw [set_self, hOld]
        by_cases hP : p old = true
        · simp [hSame, hP]
        · simpa [hSame, hP] using ih
      · rw [set_of_ne table new hEq]
        cases hAt : table j with
        | none => exact ih
        | some entry =>
            by_cases hP : p entry = true
            · simp [hP, hEq]
            · simpa [hP] using ih

/- Writing back what the search found keeps it found. -/
theorem find?_set_found
    {table : SlotTable n α}
    {p : α → Bool}
    {i : Fin n}
    {old new : α}
    (hFind : table.find? p = some (i, old))
    (hNew : p new = true) :
    (table.set i new).find? p = some (i, new) := by
  rcases of_find?_eq_some hFind with ⟨hOld, hP⟩
  rw [find?_set_same hOld (hNew.trans hP.symm), hFind]
  simp

/- A new entry is found when there was none before. -/
theorem find?_set_new
    {table : SlotTable n α}
    {p : α → Bool}
    {i : Fin n}
    {new : α}
    (hFind : table.find? p = none)
    (hNew : p new = true) :
    (table.set i new).find? p = some (i, new) := by
  refine find?_eq_some_of_unique (set_self ..) hNew ?_
  intro j other hOther hP
  by_contra hNe
  rw [set_of_ne table new hNe] at hOther
  rw [find?_eq_none_iff.mp hFind j other hOther] at hP
  cases hP

/- A slot in which nothing is sought does not matter. -/
theorem find?_set_of_not
    {table : SlotTable n α}
    {p : α → Bool}
    {i : Fin n}
    {new : α}
    (hOld :
      ∀ old, table i = some old → p old = false)
    (hNew : p new = false) :
    (table.set i new).find? p = table.find? p := by
  unfold find?
  congr 1
  funext j
  by_cases hEq : j = i
  · rw [hEq, set_self]
    cases hAt : table i with
    | none => simp [hNew]
    | some old => simp [hNew, hOld old hAt]
  · rw [set_of_ne table new hEq]

/- A slot found by the free-slot search is empty. -/
theorem free_of_firstFree?
    {table : SlotTable n α}
    {i : Fin n}
    (hFree : table.firstFree? = some i) :
    table i = none := by
  have hIs := List.find?_some hFree
  simpa using hIs

/- The free-slot search fails exactly on a full table. -/
theorem firstFree?_eq_none_iff
    {table : SlotTable n α} :
    table.firstFree? = none ↔
      ∀ i, table i ≠ none := by
  unfold firstFree?
  rw [List.find?_eq_none]
  constructor
  · intro hAll i hNone
    exact hAll i (List.mem_finRange i) (by simp [hNone])
  · intro hAll i _ hIsNone
    exact hAll i (by simpa using hIsNone)

/- The free-slot search of an empty first slot finds it. -/
theorem firstFree?_eq_some_zero
    {table : SlotTable (n + 1) α}
    (hFirst : table 0 = none) :
    table.firstFree? = some 0 := by
  unfold firstFree?
  rw [List.finRange_succ]
  simp [hFirst]

/- The searches on the table with no entry. -/
theorem find?_empty
    (p : α → Bool) :
    (empty : SlotTable n α).find? p = none :=
  find?_eq_none_iff.mpr (fun _ _ hEntry => by cases hEntry)

theorem firstFree?_empty :
    (empty : SlotTable (n + 1) α).firstFree? = some 0 :=
  firstFree?_eq_some_zero rfl

-- a table can be long: searches are reasoned about, not run
attribute [irreducible] find? firstFree?

/- The occupied slots. -/
def occupied (table : SlotTable n α) : Finset (Fin n) :=
  Finset.univ.filter (fun i => (table i).isSome)

theorem mem_occupied_iff
    {table : SlotTable n α}
    {i : Fin n} :
    i ∈ table.occupied ↔ ∃ entry, table i = some entry := by
  simp [occupied, Option.isSome_iff_exists]

theorem occupied_empty :
    (empty : SlotTable n α).occupied = ∅ := by
  ext i
  simp [mem_occupied_iff]

/- A table with fewer entries than slots has an empty slot. -/
theorem exists_firstFree?_of_occupied_lt
    {table : SlotTable n α}
    (hRoom : table.occupied.card < n) :
    ∃ i, table.firstFree? = some i := by
  cases hFree : table.firstFree? with
  | some i => exact ⟨i, rfl⟩
  | none =>
      exfalso
      have hFull := firstFree?_eq_none_iff.mp hFree
      have hAll : table.occupied = Finset.univ := by
        ext i
        simp [mem_occupied_iff,
          Option.ne_none_iff_exists'.mp (hFull i)]
      rw [hAll, Finset.card_univ, Fintype.card_fin] at hRoom
      exact Nat.lt_irrefl _ hRoom

/- Filling a slot occupies it and leaves the others. -/
theorem occupied_set
    (table : SlotTable n α)
    (i : Fin n)
    (entry : α) :
    (table.set i entry).occupied =
      insert i table.occupied := by
  ext j
  by_cases hEq : j = i
  · subst hEq
    simp [mem_occupied_iff]
  · simp [mem_occupied_iff, set_of_ne table entry hEq, hEq]

/- Filling an empty slot adds one entry. -/
theorem card_occupied_set_of_free
    {table : SlotTable n α}
    {i : Fin n}
    (entry : α)
    (hFree : table i = none) :
    (table.set i entry).occupied.card =
      table.occupied.card + 1 := by
  rw [occupied_set, Finset.card_insert_of_notMem]
  simp [mem_occupied_iff, hFree]

/- Overwriting an entry changes no slot's occupation. -/
theorem occupied_set_of_some
    {table : SlotTable n α}
    {i : Fin n}
    {old : α}
    (entry : α)
    (hOld : table i = some old) :
    (table.set i entry).occupied = table.occupied := by
  rw [occupied_set, Finset.insert_eq_self]
  exact mem_occupied_iff.mpr ⟨old, hOld⟩

end SlotTable
