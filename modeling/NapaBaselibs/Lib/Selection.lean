import Mathlib.Data.List.Perm.Basic
import Mathlib.Data.List.Nodup
import Mathlib.Order.Defs.LinearOrder
import Mathlib.Order.Lattice

/-
  Selections from lists: one more element of a list without
  repetition, the elements behind a permutation of images,
  and the first of the greatest elements of a kind.

  Key definitions include:
    * `Selection.firstMax`

  Key theorems include:
    * `Selection.filter_perm_cons`
    * `Selection.exists_perm_of_map_perm`
    * `Selection.firstMax_of_subset`
    * `Selection.firstMax_eq_some_iff`
-/

------------------------------------------------------------
-- Selections
------------------------------------------------------------

namespace Selection

variable {α β γ : Type}

/- One more element is selected, and no other changes. -/
theorem filter_perm_cons
    {l : List α}
    {a : α}
    {p q : α → Bool}
    (hNodup : l.Nodup)
    (hMem : a ∈ l)
    (hOld : p a = false)
    (hNew : q a = true)
    (hOther : ∀ b ∈ l, b ≠ a → q b = p b) :
    (l.filter q).Perm (a :: l.filter p) := by
  classical
  have hSplit := List.perm_cons_erase hMem
  have hRest :
      (l.erase a).filter q = (l.erase a).filter p := by
    apply List.filter_congr
    intro b hErase
    have hIn := (hNodup.mem_erase_iff).mp hErase
    exact hOther b hIn.2 hIn.1
  have hBefore := hSplit.filter p
  have hAfter := hSplit.filter q
  rw [List.filter_cons_of_neg (by simp [hOld])] at hBefore
  rw [List.filter_cons_of_pos hNew, hRest] at hAfter
  exact hAfter.trans (hBefore.symm.cons a)

/- A permutation of images comes from one of the elements. -/
theorem exists_perm_of_map_perm
    {as : List α}
    {bs : List β}
    {f : α → γ}
    {g : β → γ}
    (hPerm : (as.map f).Perm (bs.map g)) :
    ∃ bs' : List β,
      bs'.Perm bs ∧ as.map f = bs'.map g := by
  have hImages :
      List.Forall₂ (fun c b => c = g b) (bs.map g) bs := by
    rw [List.forall₂_map_left_iff]
    exact List.forall₂_same.mpr (fun _ _ => rfl)
  rcases List.perm_comp_forall₂ hPerm hImages with
    ⟨bs', hSame, hBack⟩
  refine ⟨bs', hBack, ?_⟩
  rw [← List.forall₂_eq_eq_eq, List.forall₂_map_right_iff]
  exact hSame

------------------------------------------------------------
-- The First Of The Greatest
------------------------------------------------------------

variable {ι : Type} [LinearOrder ι]

/- Of the elements of a kind, the first greatest one. -/
def firstMax
    (f : α → ι)
    (kind : α → Bool) : List α → Option α
| [] => none
| a :: l =>
    if kind a then
      match firstMax f kind l with
      | none => some a
      | some b => if f a < f b then some b else some a
    else
      firstMax f kind l

theorem firstMax_eq_none_iff
    {f : α → ι}
    {kind : α → Bool}
    {l : List α} :
    firstMax f kind l = none ↔
      ∀ a ∈ l, kind a = false := by
  induction l with
  | nil => simp [firstMax]
  | cons a l ih =>
      rw [firstMax, List.forall_mem_cons]
      cases hKind : kind a with
      | false => simpa [hKind] using ih
      | true =>
          simp only [if_true]
          constructor
          · intro hNone
            cases hRest : firstMax f kind l with
            | none => rw [hRest] at hNone; cases hNone
            | some b =>
                rw [hRest] at hNone
                simp only at hNone
                split at hNone <;> cases hNone
          · rintro ⟨hFalse, _⟩
            cases hFalse

/- It is of the kind, and no element of the kind is greater. -/
theorem firstMax_spec
    {f : α → ι}
    {kind : α → Bool}
    {l : List α}
    {b : α}
    (hMax : firstMax f kind l = some b) :
    b ∈ l ∧ kind b = true ∧
      ∀ a ∈ l, kind a = true → f a ≤ f b := by
  induction l generalizing b with
  | nil => cases hMax
  | cons a l ih =>
      rw [firstMax] at hMax
      cases hKind : kind a with
      | false =>
          rw [hKind] at hMax
          rcases ih hMax with ⟨hMem, hB, hAll⟩
          refine ⟨List.mem_cons_of_mem _ hMem, hB, ?_⟩
          intro c hIn hC
          rcases List.mem_cons.mp hIn with rfl | hIn
          · rw [hKind] at hC
            cases hC
          · exact hAll c hIn hC
      | true =>
          rw [hKind, if_pos rfl] at hMax
          cases hRest : firstMax f kind l with
          | none =>
              rw [hRest] at hMax
              cases hMax
              refine ⟨List.mem_cons_self, hKind, ?_⟩
              intro c hIn hC
              rcases List.mem_cons.mp hIn with rfl | hIn
              · exact le_refl _
              · rw [firstMax_eq_none_iff.mp hRest c hIn] at hC
                cases hC
          | some d =>
              rw [hRest] at hMax
              simp only at hMax
              rcases ih hRest with ⟨hMem, hD, hAll⟩
              split at hMax
              · rename_i hLt
                cases hMax
                refine ⟨List.mem_cons_of_mem _ hMem, hD, ?_⟩
                intro c hIn hC
                rcases List.mem_cons.mp hIn with rfl | hIn
                · exact le_of_lt hLt
                · exact hAll c hIn hC
              · rename_i hNot
                cases hMax
                refine ⟨List.mem_cons_self, hKind, ?_⟩
                intro c hIn hC
                rcases List.mem_cons.mp hIn with rfl | hIn
                · exact le_refl _
                · exact
                    le_trans (hAll c hIn hC) (not_lt.mp hNot)

/- The head is the one if nothing behind it is greater. -/
theorem firstMax_cons_of_le
    {f : α → ι}
    {kind : α → Bool}
    {a : α}
    {l : List α}
    (hKind : kind a = true)
    (hLe : ∀ c ∈ l, kind c = true → f c ≤ f a) :
    firstMax f kind (a :: l) = some a := by
  rw [firstMax, if_pos hKind]
  cases hRest : firstMax f kind l with
  | none => rfl
  | some d =>
      rcases firstMax_spec hRest with ⟨hMem, hD, _⟩
      exact if_neg (not_lt.mpr (hLe d hMem hD))

/-
  A kind with fewer elements has the same first greatest one
  if all that were left out are smaller.
-/
theorem firstMax_of_subset
    {f : α → ι}
    {wide narrow : α → Bool}
    {l : List α}
    {b : α}
    (hSub : ∀ a ∈ l, narrow a = true → wide a = true)
    (hMax : firstMax f narrow l = some b)
    (hSmaller :
      ∀ a ∈ l, wide a = true → narrow a = false →
        f a < f b) :
    firstMax f wide l = some b := by
  induction l generalizing b with
  | nil => cases hMax
  | cons a l ih =>
      have hSubRest :
          ∀ c ∈ l, narrow c = true → wide c = true :=
        fun c hIn => hSub c (List.mem_cons_of_mem _ hIn)
      have hSmallerRest :
          ∀ c ∈ l, wide c = true → narrow c = false →
            f c < f b :=
        fun c hIn => hSmaller c (List.mem_cons_of_mem _ hIn)
      rw [firstMax] at hMax
      cases hNarrow : narrow a with
      | false =>
          rw [hNarrow] at hMax
          rw [firstMax, ih hSubRest hMax hSmallerRest]
          cases hWide : wide a with
          | false => rfl
          | true =>
              rw [if_pos rfl]
              exact
                if_pos
                  (hSmaller a List.mem_cons_self hWide
                    hNarrow)
      | true =>
          have hWide := hSub a List.mem_cons_self hNarrow
          rw [hNarrow, if_pos rfl] at hMax
          cases hRest : firstMax f narrow l with
          | none =>
              rw [hRest] at hMax
              cases hMax
              apply firstMax_cons_of_le hWide
              intro c hIn hC
              exact
                le_of_lt
                  (hSmallerRest c hIn hC
                    (firstMax_eq_none_iff.mp hRest c hIn))
          | some d =>
              rw [hRest] at hMax
              simp only at hMax
              split at hMax
              · rename_i hLt
                cases hMax
                rw [firstMax, hWide, if_pos rfl,
                  ih hSubRest hRest hSmallerRest]
                exact if_pos hLt
              · rename_i hNot
                cases hMax
                apply firstMax_cons_of_le hWide
                intro c hIn hC
                cases hC' : narrow c with
                | false =>
                    exact le_of_lt (hSmallerRest c hIn hC hC')
                | true =>
                    exact
                      le_trans
                        ((firstMax_spec hRest).2.2 c hIn hC')
                        (not_lt.mp hNot)

/- It is the first of the kind with its value. -/
theorem find?_of_firstMax
    {f : α → ι}
    {kind : α → Bool}
    {l : List α}
    {b : α}
    (hMax : firstMax f kind l = some b) :
    l.find? (fun a => kind a && decide (f a = f b)) =
      some b := by
  induction l with
  | nil => cases hMax
  | cons a l ih =>
      rw [firstMax] at hMax
      rw [List.find?_cons]
      cases hKind : kind a with
      | false =>
          rw [hKind] at hMax
          exact ih hMax
      | true =>
          rw [hKind, if_pos rfl] at hMax
          simp only [Bool.true_and]
          cases hRest : firstMax f kind l with
          | none =>
              rw [hRest] at hMax
              cases hMax
              simp only [decide_true]
          | some d =>
              rw [hRest] at hMax
              simp only at hMax
              split at hMax
              · rename_i hLt
                cases hMax
                simp only [ne_of_lt hLt, decide_false]
                exact ih hRest
              · cases hMax
                simp only [decide_true]

/-
  The first greatest one is the first of the kind with its
  value, and no element of the kind has a greater value.
-/
theorem firstMax_eq_some_iff
    {f : α → ι}
    {kind : α → Bool}
    {l : List α}
    {b : α} :
    firstMax f kind l = some b ↔
      l.find? (fun a => kind a && decide (f a = f b)) =
          some b ∧
        ∀ a ∈ l, kind a = true → f a ≤ f b := by
  constructor
  · intro hMax
    exact ⟨find?_of_firstMax hMax, (firstMax_spec hMax).2.2⟩
  · rintro ⟨hFind, hAll⟩
    have hMem := List.mem_of_find?_eq_some hFind
    have hKind := List.find?_some hFind
    simp only [decide_true, Bool.and_true] at hKind
    cases hMax : firstMax f kind l with
    | none =>
        rw [firstMax_eq_none_iff.mp hMax b hMem] at hKind
        cases hKind
    | some c =>
        rcases firstMax_spec hMax with ⟨hIn, hC, hLe⟩
        have hSame : f c = f b :=
          le_antisymm (hAll c hIn hC) (hLe b hMem hKind)
        have hFirst := find?_of_firstMax hMax
        rw [hSame, hFind] at hFirst
        exact hFirst.symm

end Selection
