import Mathlib
import NapaBaselibs.Lib.GaussJordan
import NapaBaselibs.FEC.GaloisField

/-
  The inversion of a matrix over the field.

  `invert_mat` looks for a pivot in each turn, on the diagonal
  first, exchanges rows to bring it there, and clears the rest
  of its column.  At the end the columns are exchanged back.

  Key definitions include:
    * `InvState`, `findPivot`, `pivotStep`
    * `invertMat`
    * `InvState.Reaches`

  Key theorems include:
    * `findPivot_cases`
    * `InvState.Reaches.step`, `InvState.Reaches.turns`
    * `invert_mat_exact`
-/

------------------------------------------------------------
-- Row Operations
------------------------------------------------------------

namespace NapaBaselibs

namespace FEC

variable {k : Nat}

/- A matrix of `k` rows and columns. -/
abbrev GfMatrix (k : Nat) :=
  Matrix (Fin k) (Fin k) Gf

/- `GF_ADDMULC`, at one element. -/
def gfAddmulc
    {sz : Nat}
    (src : Fin sz → Gf)
    (c : Gf)
    (dst : Fin sz → Gf)
    (j : Nat) : Fin sz → Gf :=
  fun i => if i.val = j then dst i + c * src i else dst i

/- The first loop of `addmul1`, `UNROLL` elements in a turn. -/
def addmulBlocks
    {sz : Nat}
    (src : Fin sz → Gf)
    (c : Gf)
    (j : Nat)
    (dst : Fin sz → Gf) : Nat × (Fin sz → Gf) :=
  if j + 15 < sz then
    addmulBlocks src c (j + 16)
      ((List.range' j 16).foldl (gfAddmulc src c) dst)
  else (j, dst)
termination_by sz - j

/- `addmul1`: blocks first, then the final components. -/
def addmul1
    {sz : Nat}
    (dst src : Fin sz → Gf)
    (c : Gf) : Fin sz → Gf :=
  let last := addmulBlocks src c 0 dst
  (List.range' last.1 (sz - last.1)).foldl (gfAddmulc src c)
    last.2

/- `addmul`: nothing is added if the factor is zero. -/
def addmul
    {sz : Nat}
    (dst src : Fin sz → Gf)
    (c : Gf) : Fin sz → Gf :=
  if c ≠ 0 then addmul1 dst src c else dst

/- A run of elements is changed, and the others stay. -/
theorem foldl_gfAddmulc
    {sz : Nat}
    (src : Fin sz → Gf)
    (c : Gf)
    (j n : Nat)
    (dst : Fin sz → Gf)
    (i : Fin sz) :
    (List.range' j n).foldl (gfAddmulc src c) dst i =
      if j ≤ i.val ∧ i.val < j + n then dst i + c * src i
      else dst i := by
  induction n with
  | zero =>
      rw [if_neg (by omega)]
      rfl
  | succ n ih =>
      rw [List.range'_concat, List.foldl_append, List.foldl_cons,
        List.foldl_nil, gfAddmulc, ih]
      split_ifs <;> first | rfl | omega

/- What the blocks leave, when those before are done. -/
theorem addmulBlocks_spec
    {sz : Nat}
    (dst src : Fin sz → Gf)
    (c : Gf)
    (j : Nat)
    (dst' : Fin sz → Gf)
    (hDone : ∀ i, dst' i =
      if i.val < j then dst i + c * src i else dst i)
    (i : Fin sz) :
    (addmulBlocks src c j dst').2 i =
      if i.val < (addmulBlocks src c j dst').1 then
        dst i + c * src i
      else dst i := by
  induction j, dst' using addmulBlocks.induct src c with
  | case1 j dst' hBlock ih =>
      rw [addmulBlocks, if_pos hBlock]
      apply ih
      intro i
      rw [foldl_gfAddmulc, hDone]
      split_ifs <;> first | rfl | omega
  | case2 j dst' hLast =>
      rw [addmulBlocks, if_neg hLast]
      exact hDone i

/- The unrolled loop adds the multiple everywhere. -/
theorem addmul_apply
    {sz : Nat}
    (dst src : Fin sz → Gf)
    (c : Gf)
    (i : Fin sz) :
    addmul dst src c i = dst i + c * src i := by
  rw [addmul]
  split_ifs with hZero
  · have hBlocks :=
      addmulBlocks_spec dst src c 0 dst (fun _ => rfl) i
    rw [addmul1, foldl_gfAddmulc, hBlocks]
    have hInside := i.isLt
    split_ifs <;> first | rfl | omega
  · rw [not_not.mp hZero, zero_mul, add_zero]

/- The exchange of the rows `irow` and `icol`. -/
def exchangeRows
    (src : GfMatrix k)
    (irow icol : Fin k) : GfMatrix k :=
  fun row ix =>
    if row = irow then src icol ix
    else if row = icol then src irow ix
    else src row ix

/- The pivot row is divided by the pivot, if that is not 1. -/
def dividePivotRow
    (src : GfMatrix k)
    (icol : Fin k) : GfMatrix k :=
  let c := src icol icol
  if c ≠ 1 then
    fun row ix =>
      if row = icol then c⁻¹ * (if ix = icol then 1 else src icol ix)
      else src row ix
  else src

/- The row that `id_row` holds. -/
def idRow (icol : Fin k) : Fin k → Gf :=
  fun ix => if ix = icol then 1 else 0

/-
  Multiples of the pivot row are removed from all other rows,
  unless it is a row of the identity matrix.
-/
def removePivotRow
    (src : GfMatrix k)
    (icol : Fin k) : GfMatrix k :=
  if src icol ≠ idRow icol then
    fun row =>
      if row ≠ icol then
        addmul
          (fun ix => if ix = icol then 0 else src row ix)
          (src icol) (src row icol)
      else src row
  else src

------------------------------------------------------------
-- The Search
------------------------------------------------------------

/- The variables of `invert_mat`, with the exchanges done. -/
structure InvState (k : Nat) where
  src : GfMatrix k
  ipiv : Fin k → Nat
  /- `indxr` and `indxc`, the last column first -/
  indx : List (Fin k × Fin k)

/- How the search for a pivot ends. -/
inductive PivotSearch (k : Nat) where
  | found (irow icol : Fin k)
  | singular
  | nothing
deriving DecidableEq

/- The loop over the columns of a row. -/
def scanRow
    (s : InvState k)
    (row : Fin k) : List (Fin k) → PivotSearch k
  | [] => .nothing
  | ix :: rest =>
      if s.ipiv ix = 0 then
        if s.src row ix ≠ 0 then .found row ix
        else scanRow s row rest
      else if 1 < s.ipiv ix then .singular
      else scanRow s row rest

/- The loop over the rows that have no pivot yet. -/
def scanRows
    (s : InvState k) : List (Fin k) → PivotSearch k
  | [] => .nothing
  | row :: rest =>
      if s.ipiv row ≠ 1 then
        match scanRow s row (List.finRange k) with
        | .nothing => scanRows s rest
        | ended => ended
      else scanRows s rest

/- First the diagonal is tried, then the other elements. -/
def findPivot
    (s : InvState k)
    (col : Fin k) : PivotSearch k :=
  if s.ipiv col ≠ 1 ∧ s.src col col ≠ 0 then .found col col
  else scanRows s (List.finRange k)

/- A turn for one column; nothing where the code fails. -/
def pivotStep
    (s : InvState k)
    (col : Fin k) : Option (InvState k) :=
  match findPivot s col with
  | .found irow icol =>
      let ipiv := Function.update s.ipiv icol (s.ipiv icol + 1)
      let src :=
        if irow ≠ icol then exchangeRows s.src irow icol
        else s.src
      if src icol icol = 0 then none
      else
        some
          { src := removePivotRow (dividePivotRow src icol) icol
            ipiv
            indx := (irow, icol) :: s.indx }
  | _ => none

/- The exchange of two columns, in the last loop. -/
def exchangeCols
    (src : GfMatrix k)
    (indx : Fin k × Fin k) : GfMatrix k :=
  if indx.1 ≠ indx.2 then
    fun row ix =>
      if ix = indx.1 then src row indx.2
      else if ix = indx.2 then src row indx.1
      else src row ix
  else src

/- `invert_mat`: the inverse, or nothing if an error is returned. -/
def invertMat
    (src : GfMatrix k) : Option (GfMatrix k) :=
  (List.foldlM pivotStep
    { src, ipiv := fun _ => 0, indx := [] } (List.finRange k)).map
    fun s => s.indx.foldl exchangeCols s.src

------------------------------------------------------------
-- Turns
------------------------------------------------------------

theorem exchangeRows_eq
    (src : GfMatrix k)
    (irow icol : Fin k) :
    exchangeRows src irow icol =
      GaussJordan.swapRows src irow icol := by
  funext row ix
  rw [exchangeRows, GaussJordan.swapRows, Equiv.swap_apply_def]
  split_ifs <;> rfl

theorem dividePivotRow_eq
    (src : GfMatrix k)
    (icol : Fin k) :
    dividePivotRow src icol = GaussJordan.scaleRow src icol := by
  by_cases hPivot : src icol icol = 1
  · have hNop : dividePivotRow src icol = src :=
      if_neg (not_not.mpr hPivot)
    funext row ix
    rw [hNop, GaussJordan.scaleRow, hPivot, inv_one, one_mul]
    split_ifs with hRow hCol
    · rw [hRow, hCol, hPivot]
    · rw [hRow]
    · rfl
  · exact if_pos hPivot

/-
  A row of the identity matrix only brings back the elements
  of the column that were set to zero.
-/
theorem removePivotRow_eq
    (src : GfMatrix k)
    (icol : Fin k) :
    removePivotRow src icol = GaussJordan.clearRows src icol := by
  funext row ix
  rw [GaussJordan.clearRows, CharTwo.sub_eq_add]
  by_cases hIdentity : src icol = idRow icol
  · have hSkipped : removePivotRow src icol = src :=
      if_neg (not_not.mpr hIdentity)
    rw [hSkipped, hIdentity, idRow]
    split_ifs with hRow hCol hCol
    · rw [hRow, hIdentity, idRow, if_pos hCol]
    · rw [hRow, hIdentity, idRow, if_neg hCol]
    · rw [hCol, mul_one, zero_add]
    · rw [mul_zero, add_zero]
  · have hDone : removePivotRow src icol = _ := if_pos hIdentity
    rw [hDone]
    by_cases hRow : row = icol
    · simp [hRow]
    · simp only [hRow, ne_eq, not_false_eq_true, if_true,
        if_false, addmul_apply]

------------------------------------------------------------
-- What a Search Finds
------------------------------------------------------------

/- The columns of the pivots, of which each is used once. -/
def InvState.Marks
    (s : InvState k)
    (P : Finset (Fin k)) : Prop :=
  ∀ i, s.ipiv i = if i ∈ P then 1 else 0

theorem InvState.Marks.eq_zero_iff
    {s : InvState k}
    {P : Finset (Fin k)}
    (hMarks : s.Marks P)
    (i : Fin k) :
    s.ipiv i = 0 ↔ i ∉ P := by
  rw [hMarks i]
  split_ifs with hMem <;> simp [hMem]

theorem InvState.Marks.ne_one_iff
    {s : InvState k}
    {P : Finset (Fin k)}
    (hMarks : s.Marks P)
    (i : Fin k) :
    s.ipiv i ≠ 1 ↔ i ∉ P := by
  rw [hMarks i]
  split_ifs with hMem <;> simp [hMem]

theorem InvState.Marks.le_one
    {s : InvState k}
    {P : Finset (Fin k)}
    (hMarks : s.Marks P)
    (i : Fin k) :
    ¬ 1 < s.ipiv i := by
  rw [hMarks i]
  split_ifs <;> decide

/- What is not zero, in a row and a column without a pivot. -/
def InvState.IsPivot
    (s : InvState k)
    (P : Finset (Fin k))
    (row ix : Fin k) : Prop :=
  row ∉ P ∧ ix ∉ P ∧ s.src row ix ≠ 0

theorem scanRow_cases
    {s : InvState k}
    {P : Finset (Fin k)}
    (hMarks : s.Marks P)
    {row : Fin k}
    (hRow : row ∉ P)
    (l : List (Fin k)) :
    (∃ ix, scanRow s row l = .found row ix ∧
      s.IsPivot P row ix) ∨
    (scanRow s row l = .nothing ∧
      ∀ ix ∈ l, ix ∉ P → s.src row ix = 0) := by
  induction l with
  | nil => exact Or.inr ⟨rfl, fun _ hMem => by cases hMem⟩
  | cons ix rest ih =>
      rw [scanRow]
      by_cases hUsed : ix ∈ P
      · have hIpiv : s.ipiv ix ≠ 0 :=
          fun h => (hMarks.eq_zero_iff ix).mp h hUsed
        rw [if_neg hIpiv, if_neg (hMarks.le_one ix)]
        rcases ih with hFound | ⟨hNothing, hZero⟩
        · exact Or.inl hFound
        · refine Or.inr ⟨hNothing, ?_⟩
          rintro j hMem hFree
          rcases List.mem_cons.mp hMem with rfl | hRest
          · exact absurd hUsed hFree
          · exact hZero j hRest hFree
      · rw [if_pos ((hMarks.eq_zero_iff ix).mpr hUsed)]
        by_cases hElement : s.src row ix = 0
        · rw [if_neg (not_not.mpr hElement)]
          rcases ih with hFound | ⟨hNothing, hZero⟩
          · exact Or.inl hFound
          · refine Or.inr ⟨hNothing, ?_⟩
            rintro j hMem hFree
            rcases List.mem_cons.mp hMem with rfl | hRest
            · exact hElement
            · exact hZero j hRest hFree
        · rw [if_pos hElement]
          exact Or.inl ⟨ix, rfl, hRow, hUsed, hElement⟩

theorem scanRows_cases
    {s : InvState k}
    {P : Finset (Fin k)}
    (hMarks : s.Marks P)
    (l : List (Fin k)) :
    (∃ row ix, scanRows s l = .found row ix ∧
      s.IsPivot P row ix) ∨
    (scanRows s l = .nothing ∧
      ∀ row ∈ l, row ∉ P → ∀ ix, ix ∉ P → s.src row ix = 0) := by
  induction l with
  | nil => exact Or.inr ⟨rfl, fun _ hMem => by cases hMem⟩
  | cons row rest ih =>
      rw [scanRows]
      by_cases hUsed : row ∈ P
      · have hIpiv : ¬ s.ipiv row ≠ 1 :=
          fun h => (hMarks.ne_one_iff row).mp h hUsed
        rw [if_neg hIpiv]
        rcases ih with hFound | ⟨hNothing, hZero⟩
        · exact Or.inl hFound
        · refine Or.inr ⟨hNothing, ?_⟩
          rintro j hMem hFree
          rcases List.mem_cons.mp hMem with rfl | hRest
          · exact absurd hUsed hFree
          · exact hZero j hRest hFree
      · rw [if_pos ((hMarks.ne_one_iff row).mpr hUsed)]
        rcases scanRow_cases hMarks hUsed (List.finRange k) with
          ⟨ix, hFound, hPivot⟩ | ⟨hNone, hRowZero⟩
        · rw [hFound]
          exact Or.inl ⟨row, ix, rfl, hPivot⟩
        · rw [hNone]
          rcases ih with hFound | ⟨hNothing, hZero⟩
          · exact Or.inl hFound
          · refine Or.inr ⟨hNothing, ?_⟩
            rintro j hMem hFree
            rcases List.mem_cons.mp hMem with rfl | hRest
            · exact fun ix => hRowZero ix (List.mem_finRange ix)
            · exact hZero j hRest hFree

/-
  A search finds a pivot, or all that is left is zero.  It
  never finds a column used twice.
-/
theorem findPivot_cases
    {s : InvState k}
    {P : Finset (Fin k)}
    (hMarks : s.Marks P)
    (col : Fin k) :
    (∃ row ix, findPivot s col = .found row ix ∧
      s.IsPivot P row ix) ∨
    (findPivot s col = .nothing ∧
      ∀ row, row ∉ P → ∀ ix, ix ∉ P → s.src row ix = 0) := by
  rw [findPivot]
  split_ifs with hDiagonal
  · have hFree := (hMarks.ne_one_iff col).mp hDiagonal.1
    exact Or.inl ⟨col, col, rfl, hFree, hFree, hDiagonal.2⟩
  · rcases scanRows_cases hMarks (List.finRange k) with
      hFound | ⟨hNothing, hZero⟩
    · exact Or.inl hFound
    · exact
        Or.inr
          ⟨hNothing,
            fun row => hZero row (List.mem_finRange row)⟩

------------------------------------------------------------
-- What Turns Reach
------------------------------------------------------------

/- The order of the rows after the exchanges. -/
def rowOrder : List (Fin k × Fin k) → Equiv.Perm (Fin k)
  | [] => 1
  | (irow, icol) :: rest => rowOrder rest * Equiv.swap irow icol

/- The equations are solved for the columns of the pivots. -/
structure InvState.Reaches
    (A : GfMatrix k)
    (s : InvState k)
    (P : Finset (Fin k)) : Prop where
  marks : s.Marks P
  represents :
    GaussJordan.Represents A (rowOrder s.indx) P s.src

theorem exchange_eq
    (src : GfMatrix k)
    (irow icol : Fin k) :
    (if irow ≠ icol then exchangeRows src irow icol else src) =
      GaussJordan.swapRows src irow icol := by
  split_ifs with hSame
  · exact exchangeRows_eq src irow icol
  · rw [not_not.mp hSame]
    funext row ix
    rw [GaussJordan.swapRows, Equiv.swap_self, Equiv.refl_apply]

/- A column more is marked. -/
theorem InvState.Marks.insert
    {s : InvState k}
    {P : Finset (Fin k)}
    (hMarks : s.Marks P)
    {icol : Fin k}
    (hNew : icol ∉ P)
    (i : Fin k) :
    Function.update s.ipiv icol (s.ipiv icol + 1) i =
      if i ∈ insert icol P then 1 else 0 := by
  rw [Function.update_apply]
  split_ifs with hIs hMem hMem
  · rw [(hMarks.eq_zero_iff icol).mpr hNew]
  · exact absurd (hIs ▸ Finset.mem_insert_self icol P) hMem
  · rw [hMarks i, if_pos]
    exact (Finset.mem_insert.mp hMem).resolve_left hIs
  · rw [hMarks i, if_neg]
    exact fun h => hMem (Finset.mem_insert_of_mem h)

/-
  A turn solves for one unknown more, or leaves equations
  without a pivot.
-/
theorem InvState.Reaches.step
    {A : GfMatrix k}
    {s : InvState k}
    {P : Finset (Fin k)}
    (hReaches : s.Reaches A P)
    (col : Fin k) :
    (∃ s' p, pivotStep s col = some s' ∧ p ∉ P ∧
      s'.Reaches A (insert p P)) ∨
    (pivotStep s col = none ∧
      ∀ row, row ∉ P → ∀ ix, ix ∉ P → s.src row ix = 0) := by
  rcases findPivot_cases hReaches.marks col with
    ⟨irow, icol, hFound, hRow, hCol, hPivot⟩ | ⟨hNothing, hZero⟩
  · refine Or.inl ?_
    have hMoved :
        GaussJordan.swapRows s.src irow icol icol icol ≠ 0 := by
      rwa [GaussJordan.swapRows, Equiv.swap_apply_right]
    have hStep :
        pivotStep s col =
          some
            { src :=
                GaussJordan.clearRows
                  (GaussJordan.scaleRow
                    (GaussJordan.swapRows s.src irow icol) icol)
                  icol
              ipiv :=
                Function.update s.ipiv icol (s.ipiv icol + 1)
              indx := (irow, icol) :: s.indx } := by
      simp only [pivotStep, hFound, exchange_eq, if_neg hMoved,
        removePivotRow_eq, dividePivotRow_eq]
    have hRep := hReaches.represents.swapRows hRow hCol
    exact
      ⟨_, icol, hStep, hCol,
        hReaches.marks.insert hCol, hRep.exchange hCol hMoved⟩
  · refine Or.inr ⟨?_, hZero⟩
    rw [pivotStep, hNothing]

/- Turns for as many columns as are not solved for. -/
theorem InvState.Reaches.turns
    {A : GfMatrix k}
    (cols : List (Fin k))
    {s : InvState k}
    {P : Finset (Fin k)}
    (hReaches : s.Reaches A P)
    (hLeft : P.card + cols.length = k) :
    (∃ s', cols.foldlM pivotStep s = some s' ∧
      s'.Reaches A Finset.univ) ∨
    (cols.foldlM pivotStep s = none ∧
      ∀ B : GfMatrix k, A * B ≠ 1) := by
  induction cols generalizing s P with
  | nil =>
      have hAll : P = Finset.univ := by
        apply Finset.eq_univ_of_card
        rw [Fintype.card_fin]
        simpa using hLeft
      exact Or.inl ⟨s, rfl, hAll ▸ hReaches⟩
  | cons col rest ih =>
      rw [List.length_cons] at hLeft
      rcases hReaches.step col with
        ⟨s', p, hStep, hNew, hNext⟩ | ⟨hNone, hZero⟩
      · simp only [List.foldlM_cons, hStep, Option.bind_eq_bind,
          Option.bind_some]
        apply ih hNext
        rw [Finset.card_insert_of_notMem hNew]
        omega
      · refine Or.inr ⟨?_, ?_⟩
        · simp only [List.foldlM_cons, hNone,
            Option.bind_eq_bind, Option.bind_none]
        · have hSome : ∃ row, row ∉ P := by
            by_contra hAll
            push Not at hAll
            have hCard := Finset.eq_univ_of_forall hAll
            rw [hCard, Finset.card_univ, Fintype.card_fin]
              at hLeft
            omega
          obtain ⟨row, hRow⟩ := hSome
          exact
            hReaches.represents.not_invertible hRow
              (hZero row hRow)

------------------------------------------------------------
-- The Inverse
------------------------------------------------------------

theorem exchangeCols_eq
    (src : GfMatrix k)
    (irow icol : Fin k) :
    exchangeCols src (irow, icol) =
      src.submatrix id (Equiv.swap irow icol) := by
  by_cases hSame : irow = icol
  · have hNop : exchangeCols src (irow, icol) = src :=
      if_neg (not_not.mpr hSame)
    rw [hNop, hSame, Equiv.swap_self]
    rfl
  · have hDone : exchangeCols src (irow, icol) = _ :=
      if_pos hSame
    rw [hDone]
    funext row ix
    rw [Matrix.submatrix_apply, Equiv.swap_apply_def]
    split_ifs <;> rfl

/- The columns follow the order of the rows back. -/
theorem foldl_exchangeCols
    (indx : List (Fin k × Fin k))
    (src : GfMatrix k) :
    indx.foldl exchangeCols src =
      src.submatrix id (rowOrder indx).symm := by
  induction indx generalizing src with
  | nil => rfl
  | cons pair rest ih =>
      obtain ⟨irow, icol⟩ := pair
      rw [List.foldl_cons, ih, exchangeCols_eq,
        Matrix.submatrix_submatrix]
      rfl

/- The turns of all columns, with the exchanges undone. -/
theorem invertMat_cases
    (src : GfMatrix k) :
    (∃ inv, invertMat src = some inv ∧ inv * src = 1) ∨
    (invertMat src = none ∧ ∀ B : GfMatrix k, src * B ≠ 1) := by
  have hStart :
      InvState.Reaches src
        { src, ipiv := fun _ => 0, indx := [] } ∅ :=
    ⟨fun _ => rfl, GaussJordan.represents_self⟩
  have hLeft :
      (∅ : Finset (Fin k)).card + (List.finRange k).length =
        k := by
    rw [Finset.card_empty, List.length_finRange, Nat.zero_add]
  rcases hStart.turns (List.finRange k) hLeft with
    ⟨s, hDone, hEnd⟩ | ⟨hNone, hSingular⟩
  · have hInverse := hEnd.represents.mul_eq_one
    rw [← foldl_exchangeCols] at hInverse
    refine Or.inl ⟨_, ?_, hInverse⟩
    rw [invertMat, hDone, Option.map_some]
  · refine Or.inr ⟨?_, hSingular⟩
    rw [invertMat, hNone, Option.map_none]

theorem mul_eq_one_of_invertMat
    {src inv : GfMatrix k}
    (hInvert : invertMat src = some inv) :
    inv * src = 1 := by
  rcases invertMat_cases src with
    ⟨other, hSome, hInverse⟩ | ⟨hNone, _⟩
  · rw [hSome] at hInvert
    cases hInvert
    exact hInverse
  · rw [hNone] at hInvert
    cases hInvert

theorem invertMat_of_mul_eq_one
    {src inv : GfMatrix k}
    (hInverse : inv * src = 1) :
    invertMat src = some inv := by
  have hRight := mul_eq_one_comm.mp hInverse
  rcases invertMat_cases src with
    ⟨other, hSome, hOther⟩ | ⟨_, hSingular⟩
  · rw [hSome, left_inv_eq_right_inv hOther hRight]
  · exact absurd hRight (hSingular inv)

/-
  `invert_mat` leaves the inverse of a matrix that has one,
  and returns an error for every other.
-/
theorem invert_mat_exact
    (src : GfMatrix k) :
    (∀ inv, invertMat src = some inv ↔ inv * src = 1) ∧
      (invertMat src = none ↔ src.det = 0) := by
  refine
    ⟨fun inv =>
      ⟨mul_eq_one_of_invertMat, invertMat_of_mul_eq_one⟩, ?_⟩
  constructor
  · intro hNone
    by_contra hDet
    have hInverse :=
      Matrix.nonsing_inv_mul src (isUnit_iff_ne_zero.mpr hDet)
    rw [invertMat_of_mul_eq_one hInverse] at hNone
    cases hNone
  · intro hDet
    rcases invertMat_cases src with
      ⟨inv, _, hInverse⟩ | ⟨hNone, _⟩
    · have hOne := congrArg Matrix.det hInverse
      rw [Matrix.det_mul, hDet, mul_zero, Matrix.det_one] at hOne
      exact absurd hOne zero_ne_one
    · exact hNone

end FEC

end NapaBaselibs
