import Mathlib
import NapaBaselibs.FEC.InvertVdm

/-
  The erasure code.

  `fec_new` makes a matrix whose first rows leave the packets
  as they are, and of which any `k` rows can be inverted.  A
  receiver with any `k` packets gets the message back.

  Key definitions include:
    * `FecParms`, `fecNew`, `fecEncode`
    * `shuffle`, `buildDecodeMatrix`, `fecDecode`

  Key theorems include:
    * `fec_new_rows_invertible`
    * `shuffle_cases`
    * `fec_decode_encode`, `fec_decode_succeeds_iff`
-/

------------------------------------------------------------
-- Making a Code
------------------------------------------------------------

namespace NapaBaselibs

namespace FEC

variable {k n sz : Nat}

/- The parameters of a code, with its matrix. -/
structure FecParms (k n : Nat) where
  encMatrix : Matrix (Fin n) (Fin k) Gf

/- `tmp_m`: powers of all elements, those of zero first. -/
def tmpMatrix
    (row col : Nat) : Gf :=
  if row = 0 then if col = 0 then 1 else 0
  else ⟨generateGf.exp (modnn ((row - 1) * col))⟩

/- An element of the product, the inner loop of `matmul`. -/
def matmul
    (a : Fin k → Gf)
    (b : GfMatrix k)
    (col : Fin k) : Gf :=
  (List.finRange k).foldl (fun acc i => acc + a i * b i col) 0

/- `fec_new`: nothing for parameters that are not valid. -/
def fecNew (k n : Nat) : Option (FecParms k n) :=
  if gfSize + 1 < k ∨ gfSize + 1 < n ∨ n < k then none
  else
    let top := invertVdm fun row col : Fin k => tmpMatrix row col
    some
      { encMatrix := fun row col =>
          if row.val < k then if row.val = col.val then 1 else 0
          else matmul (fun i => tmpMatrix row i) top col }

/-
  `fec_encode`: a packet of the message, or a sum of multiples
  of all of them; nothing for an index that is not valid.
-/
def fecEncode
    (code : FecParms k n)
    (src : Fin k → Fin sz → Gf)
    (index : Nat) : Option (Fin sz → Gf) :=
  if hSource : index < k then some (src ⟨index, hSource⟩)
  else if hRow : index < n then
    some
      ((List.finRange k).foldl
        (fun fec i =>
          addmul fec (src i) (code.encMatrix ⟨index, hRow⟩ i))
        fun _ => 0)
  else none

------------------------------------------------------------
-- Decoding
------------------------------------------------------------

/- `SWAP`, of two entries. -/
def exchange
    {α : Type*}
    (f : Fin k → α)
    (i c : Fin k) : Fin k → α :=
  fun j => if j = i then f c else if j = c then f i else f j

/- The positions that hold another index than their own. -/
def misplaced (index : Fin k → Nat) : Finset (Fin k) :=
  Finset.univ.filter fun j => index j ≠ j.val

theorem mem_misplaced
    {index : Fin k → Nat}
    {j : Fin k} :
    j ∈ misplaced index ↔ index j ≠ j.val := by
  simp [misplaced]

theorem card_misplaced_exchange
    {index : Fin k → Nat}
    {i c : Fin k}
    (hIndex : index i = c.val)
    (hOther : c ≠ i)
    (hFree : index c ≠ c.val) :
    (misplaced (exchange index i c)).card <
      (misplaced index).card := by
  apply Finset.card_lt_card
  refine Finset.ssubset_iff_of_subset ?_ |>.mpr ⟨c, ?_, ?_⟩
  · intro j hMem
    rw [mem_misplaced] at hMem ⊢
    rw [exchange] at hMem
    split_ifs at hMem with hI hC
    · rw [hI, hIndex]
      exact fun h => hOther (Fin.ext h)
    · rw [hC]
      exact hFree
    · exact hMem
  · exact mem_misplaced.mpr hFree
  · rw [mem_misplaced, exchange, if_neg hOther, if_pos rfl, hIndex,
      ne_eq, not_not]

/-
  The loop of `shuffle`: a packet of the message goes to its
  position, unless there is one with this index already.
-/
def shuffleFrom
    {α : Type*}
    (i : Nat)
    (pkt : Fin k → α)
    (index : Fin k → Nat) : Option ((Fin k → α) × (Fin k → Nat)) :=
  if hInside : i < k then
    let here : Fin k := ⟨i, hInside⟩
    if hPlaced : k ≤ index here ∨ index here = i then
      shuffleFrom (i + 1) pkt index
    else
      let c : Fin k := ⟨index here, by omega⟩
      if hConflict : index c = c.val then none
      else
        shuffleFrom i (exchange pkt here c) (exchange index here c)
  else some (pkt, index)
termination_by ((misplaced index).card, k - i)
decreasing_by
  · exact Prod.Lex.right _ (by omega)
  · refine Prod.Lex.left _ _ (card_misplaced_exchange rfl ?_ hConflict)
    intro hSame
    exact hPlaced (Or.inr (congrArg Fin.val hSame))

/- `shuffle`: nothing if it returns an error. -/
def shuffle
    {α : Type*}
    (pkt : Fin k → α)
    (index : Fin k → Nat) : Option ((Fin k → α) × (Fin k → Nat)) :=
  shuffleFrom 0 pkt index

/- The row for a packet, in `build_decode_matrix`. -/
def decodeRow
    (code : FecParms k n)
    (index : Fin k → Nat)
    (i : Fin k) : Option (Fin k → Gf) :=
  if index i < k then some fun col => if col = i then 1 else 0
  else if hRow : index i < n then
    some (code.encMatrix ⟨index i, hRow⟩)
  else none

/- `build_decode_matrix`. -/
def buildDecodeMatrix
    (code : FecParms k n)
    (index : Fin k → Nat) : Option (GfMatrix k) :=
  if ∀ i, (decodeRow code index i).isSome then
    invertMat fun i => (decodeRow code index i).getD fun _ => 0
  else none

/- The packets after the loops of `fec_decode`. -/
def decodeRows
    (mDec : GfMatrix k)
    (pkt : Fin k → Fin sz → Gf)
    (index : Fin k → Nat) : Fin k → Fin sz → Gf :=
  fun row =>
    if k ≤ index row then
      (List.finRange k).foldl
        (fun newPkt col => addmul newPkt (pkt col) (mDec row col))
        fun _ => 0
    else pkt row

/-
  `fec_decode`: the packets of the message in their order, or
  nothing if it returns an error.
-/
def fecDecode
    (code : FecParms k n)
    (pkt : Fin k → Fin sz → Gf)
    (index : Fin k → Nat) : Option (Fin k → Fin sz → Gf) :=
  (shuffle pkt index).bind fun placed =>
    (buildDecodeMatrix code placed.2).map fun mDec =>
      decodeRows mDec placed.1 placed.2

------------------------------------------------------------
-- Sums
------------------------------------------------------------

theorem foldl_add_eq_sum
    (f : Fin k → Gf) :
    (List.finRange k).foldl (fun acc i => acc + f i) 0 =
      ∑ i, f i := by
  have hList :
      ∀ (l : List (Fin k)) (x : Gf),
        l.foldl (fun acc i => acc + f i) x = x + (l.map f).sum := by
    intro l
    induction l with
    | nil => intro x; simp
    | cons i rest ih =>
        intro x
        rw [List.foldl_cons, ih, List.map_cons, List.sum_cons,
          add_assoc]
  rw [hList, zero_add, Fin.sum_univ_def]

/- A packet is made element by element. -/
theorem foldl_addmul_apply
    (pkt : Fin k → Fin sz → Gf)
    (c : Fin k → Gf)
    (j : Fin sz) :
    (List.finRange k).foldl
        (fun fec i => addmul fec (pkt i) (c i)) (fun _ => 0) j =
      ∑ i, c i * pkt i j := by
  rw [← foldl_add_eq_sum]
  have hList :
      ∀ (l : List (Fin k)) (fec : Fin sz → Gf),
        l.foldl (fun fec i => addmul fec (pkt i) (c i)) fec j =
          l.foldl (fun acc i => acc + c i * pkt i j) (fec j) := by
    intro l
    induction l with
    | nil => intro fec; rfl
    | cons i rest ih =>
        intro fec
        rw [List.foldl_cons, List.foldl_cons, ih, addmul_apply]
  exact hList _ _

------------------------------------------------------------
-- The Matrix
------------------------------------------------------------

/- The element that a row has the powers of. -/
def fecPoint (row : Nat) : Gf :=
  if row = 0 then 0 else ⟨power (row - 1)⟩

theorem mk_power_pow (i c : Nat) :
    (⟨power i⟩ : Gf) ^ c = ⟨power (i * c)⟩ := by
  induction c with
  | zero => rfl
  | succ c ih =>
      rw [pow_succ, ih, Nat.mul_succ]
      exact Gf.ext (gfMul_power _ _)

theorem tmpMatrix_eq (row col : Nat) :
    tmpMatrix row col = fecPoint row ^ col := by
  rw [tmpMatrix, fecPoint]
  split_ifs with hRow hCol
  · rw [hCol, pow_zero]
  · rw [zero_pow hCol]
  · have hMod := Nat.mod_lt ((row - 1) * col)
      (show 0 < gfSize by decide)
    rw [mk_power_pow, modnn_eq, generateGf_exp (by omega),
      power_mod]

theorem fecPoint_injective
    {i j : Nat}
    (hI : i < gfSize + 1)
    (hJ : j < gfSize + 1)
    (hSame : fecPoint i = fecPoint j) :
    i = j := by
  rw [fecPoint, fecPoint] at hSame
  split_ifs at hSame with hFirst hSecond hSecond
  · omega
  · exact
      absurd (congrArg Gf.byte hSame).symm (power_ne_zero (j - 1))
  · exact absurd (congrArg Gf.byte hSame) (power_ne_zero (i - 1))
  · have hPower :=
      power_injective (by omega) (by omega)
        (congrArg Gf.byte hSame)
    omega

/- The top rows of `tmp_m`, as `invert_vdm` leaves them. -/
def topInverse (k : Nat) : GfMatrix k :=
  invertVdm fun row col : Fin k => tmpMatrix row col

/- The first point is zero, so the fast inversion is right. -/
theorem vdmMatrix_mul_topInverse
    (hPos : 0 < k)
    (hSize : k ≤ gfSize + 1) :
    vdmMatrix k fecPoint * topInverse k = 1 := by
  have hTop :
      topInverse k = invertVdm (vdmMatrix k fecPoint) := by
    rw [topInverse]
    congr 1
    funext row col
    rw [tmpMatrix_eq, vdmMatrix, Matrix.vandermonde_apply]
  rw [hTop]
  apply mul_invertVdm_eq_one hPos
  · intro i hI j hJ
    exact fecPoint_injective (by omega) (by omega)
  · exact Or.inr (Or.inl rfl)

/- What is known of the matrix of a code. -/
structure FecParms.Made (code : FecParms k n) : Prop where
  sizes : k ≤ n ∧ n ≤ gfSize + 1
  rows :
    ∀ row col,
      code.encMatrix row col =
        ∑ i : Fin k, fecPoint row ^ i.val * topInverse k i col
  source :
    ∀ row col,
      row.val < k →
        code.encMatrix row col =
          if row.val = col.val then 1 else 0

/- The rows that are set to the identity are products as well. -/
theorem fecNew_made
    {code : FecParms k n}
    (hPos : 0 < k)
    (hNew : fecNew k n = some code) :
    code.Made := by
  rw [fecNew] at hNew
  split_ifs at hNew with hInvalid
  push Not at hInvalid
  obtain ⟨hK, hN, hKN⟩ := hInvalid
  cases Option.some_inj.mp hNew
  refine ⟨⟨hKN, hN⟩, ?_, ?_⟩
  · intro row col
    simp only
    split_ifs with hSource hSame
    · have hEntry :=
        congrFun₂ (vdmMatrix_mul_topInverse hPos hK)
          ⟨row, hSource⟩ col
      rw [Matrix.mul_apply, Matrix.one_apply,
        if_pos (Fin.ext hSame)] at hEntry
      exact hEntry.symm
    · have hEntry :=
        congrFun₂ (vdmMatrix_mul_topInverse hPos hK)
          ⟨row, hSource⟩ col
      rw [Matrix.mul_apply, Matrix.one_apply,
        if_neg (fun h => hSame (congrArg Fin.val h))] at hEntry
      exact hEntry.symm
    · rw [matmul, foldl_add_eq_sum]
      refine Finset.sum_congr rfl fun i _ => ?_
      rw [tmpMatrix_eq]
      rfl
  · intro row col hSource
    exact if_pos hSource

/- Rows with different points are independent. -/
theorem FecParms.Made.det_ne_zero
    {code : FecParms k n}
    (hMade : code.Made)
    (hPos : 0 < k)
    {index : Fin k → Fin n}
    (hDistinct : Function.Injective index) :
    (code.encMatrix.submatrix index id).det ≠ 0 := by
  have hRows :
      code.encMatrix.submatrix index id =
        Matrix.vandermonde (fun i => fecPoint (index i)) *
          topInverse k := by
    refine Matrix.ext fun i col => ?_
    rw [Matrix.submatrix_apply, id, hMade.rows, Matrix.mul_apply]
    rfl
  have hTop : (topInverse k).det ≠ 0 := by
    have hOne :=
      congrArg Matrix.det
        (vdmMatrix_mul_topInverse hPos
          (hMade.sizes.1.trans hMade.sizes.2))
    rw [Matrix.det_mul, Matrix.det_one] at hOne
    exact right_ne_zero_of_mul_eq_one hOne
  rw [hRows, Matrix.det_mul]
  refine mul_ne_zero ?_ hTop
  rw [Matrix.det_vandermonde_ne_zero_iff]
  intro i j hSame
  have hI := (index i).isLt
  have hJ := (index j).isLt
  have hSizes := hMade.sizes
  exact
    hDistinct
      (Fin.ext
        (fecPoint_injective (by omega) (by omega) hSame))

theorem exists_fecNew
    (hKN : k ≤ n)
    (hN : n ≤ gfSize + 1) :
    ∃ code, fecNew k n = some code := by
  rw [fecNew, if_neg (by omega)]
  exact ⟨_, rfl⟩

theorem exists_fecEncode
    (code : FecParms k n)
    (src : Fin k → Fin sz → Gf)
    {index : Nat}
    (hRow : index < n) :
    ∃ fec, fecEncode code src index = some fec := by
  rw [fecEncode]
  split_ifs
  · exact ⟨_, rfl⟩
  · exact ⟨_, rfl⟩

/-
  A code is made for every number of packets there are points
  for.  It leaves the packets of the message as they are, and
  any `k` of its rows can be inverted.
-/
theorem fec_new_rows_invertible
    (k n : Nat)
    (hPos : 0 < k) :
    ((∃ code, fecNew k n = some code) ↔
      k ≤ n ∧ n ≤ gfSize + 1) ∧
    ∀ code, fecNew k n = some code →
      (∀ row col, row.val < k →
        code.encMatrix row col =
          if row.val = col.val then 1 else 0) ∧
      ∀ index : Fin k → Fin n, Function.Injective index →
        IsUnit (code.encMatrix.submatrix index id) := by
  refine ⟨⟨?_, ?_⟩, ?_⟩
  · rintro ⟨code, hNew⟩
    exact (fecNew_made hPos hNew).sizes
  · rintro ⟨hKN, hN⟩
    exact exists_fecNew hKN hN
  · intro code hNew
    have hMade := fecNew_made hPos hNew
    refine ⟨hMade.source, ?_⟩
    intro index hDistinct
    rw [Matrix.isUnit_iff_isUnit_det]
    exact (hMade.det_ne_zero hPos hDistinct).isUnit

/- Two packets of which one is not of the message. -/
theorem rows_of_two_invertible :
    ∃ code : FecParms 2 3,
      fecNew 2 3 = some code ∧
        IsUnit (code.encMatrix.submatrix ![2, 1] id) := by
  obtain ⟨hSizes, hRows⟩ :=
    fec_new_rows_invertible 2 3 (by decide)
  obtain ⟨code, hNew⟩ := hSizes.mpr (by decide)
  exact ⟨code, hNew, (hRows code hNew).2 ![2, 1] (by decide)⟩

------------------------------------------------------------
-- Packets in Their Places
------------------------------------------------------------

theorem exchange_eq_swap
    {α : Type*}
    (f : Fin k → α)
    (i c : Fin k) :
    exchange f i c = f ∘ Equiv.swap i c := by
  funext j
  rw [exchange, Function.comp_apply, Equiv.swap_apply_def]
  split_ifs <;> rfl

/- A packet of the message that is here is in its place. -/
def Placed
    (index : Fin k → Nat)
    (j : Fin k) : Prop :=
  k ≤ index j ∨ index j = j.val

/- Packets and their indices, in another order. -/
def Reordered
    {α : Type*}
    (pkt : Fin k → α)
    (index : Fin k → Nat)
    (result : (Fin k → α) × (Fin k → Nat)) : Prop :=
  ∃ τ : Equiv.Perm (Fin k),
    result = (pkt ∘ τ, index ∘ τ)

/- Two packets that have the same place in the message. -/
def Conflict (index : Fin k → Nat) : Prop :=
  ∃ i j, i ≠ j ∧ index i = index j ∧ index i < k

theorem Conflict.of_comp
    {index : Fin k → Nat}
    {τ : Equiv.Perm (Fin k)}
    (hConflict : Conflict (index ∘ τ)) :
    Conflict index := by
  obtain ⟨i, j, hApart, hSame, hSource⟩ := hConflict
  exact ⟨τ i, τ j, τ.injective.ne hApart, hSame, hSource⟩

/- An exchange puts a packet into its place, and moves none out. -/
theorem placed_exchange
    {index : Fin k → Nat}
    {here c : Fin k}
    (hIndex : index here = c.val)
    (hBelow : ∀ j, j < here → Placed index j)
    (j : Fin k)
    (hLess : j < here) :
    Placed (exchange index here c) j := by
  rw [Placed, exchange, if_neg hLess.ne]
  split_ifs with hIs
  · exact Or.inr (hIndex.trans (congrArg Fin.val hIs.symm))
  · exact hBelow j hLess

/- The loop, with the positions before `i` done. -/
theorem shuffleFrom_cases
    {α : Type*}
    (i : Nat)
    (pkt : Fin k → α)
    (index : Fin k → Nat)
    (hBelow : ∀ j : Fin k, j.val < i → Placed index j) :
    (shuffleFrom i pkt index = none ∧ Conflict index) ∨
    ∃ result, shuffleFrom i pkt index = some result ∧
      Reordered pkt index result ∧ ∀ j, Placed result.2 j := by
  induction i, pkt, index using shuffleFrom.induct with
  | case1 i pkt index hInside here hPlaced ih =>
      rw [shuffleFrom, dif_pos hInside, dif_pos hPlaced]
      apply ih
      intro j hLess
      rcases Nat.lt_succ_iff_lt_or_eq.mp hLess with h | h
      · exact hBelow j h
      · have hIs : j = here := Fin.ext h
        rw [hIs]
        exact hPlaced
  | case2 i pkt index hInside here hPlaced c hConflict =>
      refine Or.inl ⟨?_, here, c, ?_, hConflict.symm, c.isLt⟩
      · rw [shuffleFrom, dif_pos hInside, dif_neg hPlaced,
          dif_pos hConflict]
      · intro hSame
        exact hPlaced (Or.inr (congrArg Fin.val hSame).symm)
  | case3 i pkt index hInside here hPlaced c hConflict ih =>
      rw [shuffleFrom, dif_pos hInside, dif_neg hPlaced,
        dif_neg hConflict]
      have hIndex : index here = c.val := rfl
      have hKept :
          ∀ j : Fin k, j.val < i →
            Placed (exchange index here c) j :=
        placed_exchange hIndex fun j hLess => hBelow j hLess
      rcases ih hKept with
        ⟨hNone, hClash⟩ | ⟨result, hSome, ⟨τ, hOrder⟩, hAll⟩
      · refine Or.inl ⟨hNone, ?_⟩
        rw [exchange_eq_swap] at hClash
        exact hClash.of_comp
      · refine Or.inr ⟨result, hSome, ?_, hAll⟩
        refine ⟨Equiv.swap here c * τ, ?_⟩
        rw [hOrder, exchange_eq_swap, exchange_eq_swap]
        rfl
  | case4 i pkt index hOutside =>
      rw [shuffleFrom, dif_neg hOutside]
      refine Or.inr ⟨_, rfl, ⟨1, rfl⟩, ?_⟩
      intro j
      exact hBelow j (by have := j.isLt; omega)

/-
  `shuffle` ends.  It fails if two packets have the same place
  in the message, and else brings every packet of the message
  to its place, with no packet lost and none parted from its
  index.
-/
theorem shuffle_cases
    {α : Type*}
    (pkt : Fin k → α)
    (index : Fin k → Nat) :
    (shuffle pkt index = none ↔ Conflict index) ∧
      ∀ result, shuffle pkt index = some result →
        Reordered pkt index result ∧
          ∀ j, Placed result.2 j := by
  have hCases :=
    shuffleFrom_cases 0 pkt index (fun j hLess => by omega)
  rw [← shuffle] at hCases
  rcases hCases with ⟨hNone, hClash⟩ | ⟨result, hSome, hOrder, hAll⟩
  · refine ⟨⟨fun _ => hClash, fun _ => hNone⟩, ?_⟩
    intro result hSome
    rw [hNone] at hSome
    cases hSome
  · refine ⟨⟨?_, ?_⟩, ?_⟩
    · intro hNone
      rw [hSome] at hNone
      cases hNone
    · rintro ⟨a, b, hApart, hSame, hSource⟩
      obtain ⟨τ, rfl⟩ := hOrder
      have hPlace :
          ∀ i, index i < k → (τ.symm i).val = index i := by
        intro i hLess
        have hPlaced := hAll (τ.symm i)
        simp only [Placed, Function.comp_apply,
          Equiv.apply_symm_apply] at hPlaced
        omega
      have hEqual : τ.symm a = τ.symm b := by
        apply Fin.ext
        rw [hPlace a hSource, hPlace b (hSame ▸ hSource), hSame]
      exact absurd (τ.symm.injective hEqual) hApart
    · intro other hOther
      rw [hSome] at hOther
      cases hOther
      exact ⟨hOrder, hAll⟩

------------------------------------------------------------
-- The Message Comes Back
------------------------------------------------------------

/- A packet is a row of the matrix times the message. -/
theorem FecParms.Made.encode_apply
    {code : FecParms k n}
    (hMade : code.Made)
    (src : Fin k → Fin sz → Gf)
    {index : Nat}
    (hRow : index < n)
    {fec : Fin sz → Gf}
    (hEncode : fecEncode code src index = some fec)
    (j : Fin sz) :
    fec j = ∑ i, code.encMatrix ⟨index, hRow⟩ i * src i j := by
  rw [fecEncode] at hEncode
  split_ifs at hEncode with hSource
  · cases Option.some_inj.mp hEncode
    rw [Finset.sum_eq_single ⟨index, hSource⟩]
    · rw [hMade.source _ _ hSource, if_pos rfl, one_mul]
    · intro i _ hOther
      rw [hMade.source _ _ hSource, if_neg, zero_mul]
      exact fun h => hOther (Fin.ext h.symm)
    · exact fun h => absurd (Finset.mem_univ _) h
  · cases Option.some_inj.mp hEncode
    exact foldl_addmul_apply src _ j

/- With packets in their places, these rows are inverted. -/
theorem buildDecodeMatrix_eq
    {code : FecParms k n}
    (hMade : code.Made)
    {index : Fin k → Nat}
    (hPlaced : ∀ j, Placed index j)
    (hValid : ∀ i, index i < n) :
    buildDecodeMatrix code index =
      invertMat
        (code.encMatrix.submatrix
          (fun i => ⟨index i, hValid i⟩) id) := by
  have hRow :
      ∀ i, decodeRow code index i =
        some (code.encMatrix ⟨index i, hValid i⟩) := by
    intro i
    rw [decodeRow]
    split_ifs with hSource
    · have hHere : index i = i.val :=
        (hPlaced i).resolve_left (by omega)
      congr 1
      funext col
      rw [hMade.source _ _ hSource]
      simp only [hHere, Fin.ext_iff, eq_comm]
    · rfl
    · exact absurd (hValid i) ‹_›
  rw [buildDecodeMatrix, if_pos fun i => by rw [hRow i]; rfl]
  congr 1
  funext i col
  rw [hRow i]
  rfl

/- An index that is too large has no row. -/
theorem buildDecodeMatrix_eq_none
    {code : FecParms k n}
    {index : Fin k → Nat}
    {i : Fin k}
    (hSizes : k ≤ n)
    (hInvalid : n ≤ index i) :
    buildDecodeMatrix code index = none := by
  have hRow : decodeRow code index i = none := by
    rw [decodeRow, if_neg (by omega), dif_neg (by omega)]
  rw [buildDecodeMatrix, if_neg]
  intro hAll
  have hSome := hAll i
  rw [hRow] at hSome
  cases hSome

theorem injective_rows
    {index : Fin k → Nat}
    (hDistinct : Function.Injective index)
    (hValid : ∀ i, index i < n) :
    Function.Injective
      fun i => (⟨index i, hValid i⟩ : Fin n) :=
  fun _ _ hSame => hDistinct (congrArg Fin.val hSame)

/- Distinct rows have an inverse, and `invert_mat` finds it. -/
theorem FecParms.Made.exists_inverse
    {code : FecParms k n}
    (hMade : code.Made)
    (hPos : 0 < k)
    {index : Fin k → Fin n}
    (hDistinct : Function.Injective index) :
    ∃ inv : GfMatrix k,
      invertMat (code.encMatrix.submatrix index id) = some inv ∧
        inv * code.encMatrix.submatrix index id = 1 := by
  have hUnit := (hMade.det_ne_zero hPos hDistinct).isUnit
  have hInverse := Matrix.nonsing_inv_mul _ hUnit
  exact ⟨_, invertMat_of_mul_eq_one hInverse, hInverse⟩

/- With packets in their places, the message is computed. -/
theorem FecParms.Made.decodeRows_eq
    {code : FecParms k n}
    (hMade : code.Made)
    {src pkt : Fin k → Fin sz → Gf}
    {index : Fin k → Nat}
    (hPlaced : ∀ j, Placed index j)
    (hValid : ∀ i, index i < n)
    (hPackets : ∀ i, fecEncode code src (index i) = some (pkt i))
    {inv : GfMatrix k}
    (hInverse :
      inv * code.encMatrix.submatrix
        (fun i => ⟨index i, hValid i⟩) id = 1) :
    decodeRows inv pkt index = src := by
  funext row
  rw [decodeRows]
  split_ifs with hCoded
  · funext j
    have hPacket :
        ∀ col, pkt col j =
          ∑ i, code.encMatrix ⟨index col, hValid col⟩ i *
            src i j :=
      fun col =>
        hMade.encode_apply src (hValid col) (hPackets col) j
    have hSource :
        ∀ i, ∑ col, inv row col *
            (code.encMatrix ⟨index col, hValid col⟩ i * src i j) =
          (if row = i then 1 else 0) * src i j := by
      intro i
      have hEntry := congrFun₂ hInverse row i
      rw [Matrix.mul_apply, Matrix.one_apply] at hEntry
      rw [← hEntry, Finset.sum_mul]
      refine Finset.sum_congr rfl fun col _ => ?_
      rw [mul_assoc]
      rfl
    rw [foldl_addmul_apply]
    simp only [hPacket, Finset.mul_sum]
    rw [Finset.sum_comm]
    simp only [hSource, ite_mul, one_mul, zero_mul,
      Finset.sum_ite_eq, Finset.mem_univ, if_true]
  · have hHere : index row = row.val :=
      (hPlaced row).resolve_left hCoded
    have hPacket := hPackets row
    rw [fecEncode, hHere, dif_pos row.isLt] at hPacket
    exact (Option.some_inj.mp hPacket).symm

/-
  Any `k` packets of a message with different indices, in any
  order, give the message back.
-/
theorem fec_decode_encode
    {code : FecParms k n}
    (hPos : 0 < k)
    (hNew : fecNew k n = some code)
    (src : Fin k → Fin sz → Gf)
    {index : Fin k → Nat}
    (hDistinct : Function.Injective index)
    {pkt : Fin k → Fin sz → Gf}
    (hPackets : ∀ i, fecEncode code src (index i) = some (pkt i)) :
    fecDecode code pkt index = some src := by
  have hMade := fecNew_made hPos hNew
  have hValid : ∀ i, index i < n := by
    intro i
    have hPacket := hPackets i
    rw [fecEncode] at hPacket
    have hSizes := hMade.sizes
    split_ifs at hPacket <;> omega
  obtain ⟨hFails, hOrder⟩ := shuffle_cases pkt index
  cases hShuffle : shuffle pkt index with
  | none =>
      obtain ⟨a, b, hApart, hSame, _⟩ := hFails.mp hShuffle
      exact absurd (hDistinct hSame) hApart
  | some placed =>
      obtain ⟨⟨τ, hIs⟩, hPlaced⟩ := hOrder placed hShuffle
      have hValid' : ∀ i, placed.2 i < n := by
        intro i
        rw [hIs]
        exact hValid (τ i)
      have hPackets' :
          ∀ i, fecEncode code src (placed.2 i) =
            some (placed.1 i) := by
        intro i
        rw [hIs]
        exact hPackets (τ i)
      have hDistinct' : Function.Injective placed.2 := by
        rw [hIs]
        exact hDistinct.comp τ.injective
      obtain ⟨inv, hInvert, hInverse⟩ :=
        hMade.exists_inverse hPos
          (injective_rows hDistinct' hValid')
      rw [fecDecode, hShuffle, Option.bind_some,
        buildDecodeMatrix_eq hMade hPlaced hValid', hInvert,
        Option.map_some,
        hMade.decodeRows_eq hPlaced hValid' hPackets' hInverse]

/- A message of two packets, without the first. -/
theorem two_packets_decoded :
    let src : Fin 2 → Fin 3 → Gf := fun i j =>
      ⟨UInt8.ofNat (16 * i.val + j.val)⟩
    ∃ (code : FecParms 2 3) (pkt : Fin 2 → Fin 3 → Gf),
      fecNew 2 3 = some code ∧
        fecEncode code src 2 = some (pkt 0) ∧
        fecEncode code src 1 = some (pkt 1) ∧
        fecDecode code pkt ![2, 1] = some src := by
  intro src
  obtain ⟨code, hNew⟩ := exists_fecNew (k := 2) (n := 3)
    (by decide) (by decide)
  obtain ⟨first, hFirst⟩ :=
    exists_fecEncode code src (show 2 < 3 by decide)
  obtain ⟨second, hSecond⟩ :=
    exists_fecEncode code src (show 1 < 3 by decide)
  refine ⟨code, ![first, second], hNew, hFirst, hSecond, ?_⟩
  apply fec_decode_encode (by decide) hNew src (by decide)
  intro i
  match i with
  | 0 => exact hFirst
  | 1 => exact hSecond

/-
  Whatever the packets hold, decoding fails if and only if an
  index is too large or two packets have the same.
-/
theorem fec_decode_succeeds_iff
    {code : FecParms k n}
    (hPos : 0 < k)
    (hNew : fecNew k n = some code)
    (pkt : Fin k → Fin sz → Gf)
    (index : Fin k → Nat) :
    (fecDecode code pkt index).isSome ↔
      Function.Injective index ∧ ∀ i, index i < n := by
  have hMade := fecNew_made hPos hNew
  obtain ⟨hFails, hOrder⟩ := shuffle_cases pkt index
  cases hShuffle : shuffle pkt index with
  | none =>
      rw [fecDecode, hShuffle, Option.bind_none]
      obtain ⟨a, b, hApart, hSame, _⟩ := hFails.mp hShuffle
      constructor
      · intro hIs
        cases hIs
      · rintro ⟨hDistinct, _⟩
        exact absurd (hDistinct hSame) hApart
  | some placed =>
      obtain ⟨⟨τ, hIs⟩, hPlaced⟩ := hOrder placed hShuffle
      have hIndex : placed.2 = index ∘ τ := by rw [hIs]
      rw [fecDecode, hShuffle, Option.bind_some, Option.isSome_map]
      constructor
      · intro hBuilt
        have hValid' : ∀ i, placed.2 i < n := by
          intro i
          by_contra hInvalid
          rw [buildDecodeMatrix_eq_none hMade.sizes.1
            (not_lt.mp hInvalid)] at hBuilt
          cases hBuilt
        rw [buildDecodeMatrix_eq hMade hPlaced hValid'] at hBuilt
        obtain ⟨inv, hInvert⟩ := Option.isSome_iff_exists.mp hBuilt
        have hInverse := mul_eq_one_of_invertMat hInvert
        have hRows : Function.Injective placed.2 := by
          intro a b hSame
          by_contra hApart
          have hDet := congrArg Matrix.det hInverse
          rw [Matrix.det_mul, Matrix.det_one] at hDet
          refine right_ne_zero_of_mul_eq_one hDet ?_
          refine Matrix.det_zero_of_row_eq hApart ?_
          funext col
          simp only [Matrix.submatrix_apply, hSame]
        have hBack : index = placed.2 ∘ τ.symm := by
          rw [hIndex]
          funext i
          simp
        refine ⟨?_, ?_⟩
        · rw [hBack]
          exact hRows.comp τ.symm.injective
        · intro i
          rw [hBack]
          exact hValid' _
      · rintro ⟨hDistinct, hValid⟩
        have hValid' : ∀ i, placed.2 i < n := by
          intro i
          rw [hIndex]
          exact hValid (τ i)
        have hDistinct' : Function.Injective placed.2 := by
          rw [hIndex]
          exact hDistinct.comp τ.injective
        obtain ⟨inv, hInvert, _⟩ :=
          hMade.exists_inverse hPos
            (injective_rows hDistinct' hValid')
        rw [buildDecodeMatrix_eq hMade hPlaced hValid', hInvert]
        rfl

/- Packets with two different indices, and with one twice. -/
theorem decoding_same_index_fails :
    ∃ code : FecParms 2 3,
      fecNew 2 3 = some code ∧
        (∀ pkt : Fin 2 → Fin 3 → Gf,
          (fecDecode code pkt ![2, 1]).isSome) ∧
        ∀ pkt : Fin 2 → Fin 3 → Gf,
          ¬(fecDecode code pkt ![2, 2]).isSome := by
  obtain ⟨code, hNew⟩ := exists_fecNew (k := 2) (n := 3)
    (by decide) (by decide)
  refine ⟨code, hNew, ?_, ?_⟩
  · intro pkt
    apply (fec_decode_succeeds_iff (by decide) hNew pkt _).mpr
    exact ⟨by decide, by decide⟩
  · intro pkt hIs
    have hIndex :=
      (fec_decode_succeeds_iff (by decide) hNew pkt _).mp hIs
    exact absurd hIndex.1 (by decide)

end FEC

end NapaBaselibs
