import Mathlib.Data.List.Perm.Subperm
import Mathlib.Algebra.BigOperators.Group.List.Basic
import Mathlib.Algebra.Order.BigOperators.Group.List
import Mathlib.Algebra.Order.Group.Nat
import Mathlib.Algebra.Ring.Int.Defs
import Mathlib.Algebra.Ring.Nat

/-
  Pieces of an interval.

  A piece is a start and a length.  A list of pieces tiles an
  interval when the pieces are non-empty, lie end to end and
  fill it.  Counting the lengths of pieces received decides
  whether a tiled interval is covered only as long as no
  piece is received twice; the lemmas below say so exactly.

  Key definitions include:
    * `Tiling.Piece`
    * `Tiling.total`
    * `Tiling.Covers`
    * `Tiling.Starts`, `Tiling.Stops`
    * `Tiling.Tiles`
    * `Tiling.upTo`

  Key theorems include:
    * `Tiling.Tiles.total_eq`
    * `Tiling.Tiles.covers_iff`
    * `Tiling.Tiles.nodup`
    * `Tiling.Tiles.starts_of_stops`
    * `Tiling.Tiles.subset_of_covers`
    * `Tiling.Tiles.perm_of_total_eq`
    * `Tiling.Tiles.total_lt_of_not_subset`
    * `Tiling.Tiles.upTo_covers_iff`
-/

------------------------------------------------------------
-- Pieces
------------------------------------------------------------

namespace Tiling

/- A piece of the line: where it starts and how long it is. -/
structure Piece where
  start : Nat
  length : Nat
deriving DecidableEq, Repr

/- The first position after a piece. -/
def Piece.stop (piece : Piece) : Nat :=
  piece.start + piece.length

/- The sum of the lengths, repeated pieces counted again. -/
def total (pieces : List Piece) : Nat :=
  (pieces.map Piece.length).sum

/- Some piece of the list contains position `k`. -/
def Covers
    (pieces : List Piece)
    (k : Nat) : Prop :=
  ∃ piece ∈ pieces, piece.start ≤ k ∧ k < piece.stop

instance
    (pieces : List Piece)
    (k : Nat) :
    Decidable (Covers pieces k) := by
  unfold Covers
  infer_instance

@[simp] theorem total_nil : total [] = 0 := rfl

@[simp] theorem total_cons
    (piece : Piece)
    (pieces : List Piece) :
    total (piece :: pieces) =
      piece.length + total pieces := by
  simp [total]

@[simp] theorem total_append
    (first second : List Piece) :
    total (first ++ second) = total first + total second := by
  simp [total]

theorem not_covers_nil
    (k : Nat) :
    ¬ Covers [] k := by
  simp [Covers]

theorem covers_append
    {first second : List Piece}
    {k : Nat} :
    Covers (first ++ second) k ↔
      Covers first k ∨ Covers second k := by
  simp [Covers, or_and_right, exists_or]

theorem covers_singleton
    {piece : Piece}
    {k : Nat} :
    Covers [piece] k ↔ piece.start ≤ k ∧ k < piece.stop := by
  simp [Covers]

/- Coverage does not depend on order or repetition. -/
theorem Covers.mono
    {first second : List Piece}
    {k : Nat}
    (hSubset : first ⊆ second)
    (hCovers : Covers first k) :
    Covers second k := by
  rcases hCovers with ⟨piece, hMem, hIn⟩
  exact ⟨piece, hSubset hMem, hIn⟩

/- The total only depends on the multiset of pieces. -/
theorem total_perm
    {first second : List Piece}
    (hPerm : first.Perm second) :
    total first = total second :=
  (hPerm.map Piece.length).sum_eq

/- There are at most as many non-empty pieces. -/
theorem length_le_total
    {pieces : List Piece}
    (hPos : ∀ piece ∈ pieces, 0 < piece.length) :
    pieces.length ≤ total pieces := by
  unfold total
  rw [← List.length_map (f := Piece.length)]
  apply List.length_le_sum_of_one_le
  intro n hMem
  rcases List.mem_map.mp hMem with ⟨piece, hPiece, rfl⟩
  exact hPos piece hPiece

/- The total of a part is at most the total of the whole. -/
theorem total_le_of_sublist
    {first second : List Piece}
    (hSublist : first.Sublist second) :
    total first ≤ total second :=
  (hSublist.map Piece.length).sum_le_sum (by simp)

------------------------------------------------------------
-- Where Pieces Start And Stop
------------------------------------------------------------

/- Some piece starts at the position. -/
def Starts
    (pieces : List Piece)
    (k : Nat) : Prop :=
  ∃ piece ∈ pieces, piece.start = k

/- The position is `a`, or some piece stops there. -/
def Stops
    (a : Nat)
    (pieces : List Piece)
    (k : Nat) : Prop :=
  k = a ∨ ∃ piece ∈ pieces, piece.stop = k

/- With more pieces there are more such positions. -/
theorem Starts.mono
    {first second : List Piece}
    {k : Nat}
    (hSubset : first ⊆ second)
    (hStarts : Starts first k) :
    Starts second k := by
  rcases hStarts with ⟨piece, hMem, hStart⟩
  exact ⟨piece, hSubset hMem, hStart⟩

theorem Stops.mono
    {a k : Nat}
    {first second : List Piece}
    (hSubset : first ⊆ second)
    (hStops : Stops a first k) :
    Stops a second k := by
  rcases hStops with hHere | ⟨piece, hMem, hStop⟩
  · exact Or.inl hHere
  · exact Or.inr ⟨piece, hSubset hMem, hStop⟩

------------------------------------------------------------
-- Tilings
------------------------------------------------------------

/-
  The pieces, in order, are non-empty and fill the interval
  from `a` to `b` end to end.
-/
inductive Tiles : Nat → List Piece → Nat → Prop where
  | nil (a : Nat) : Tiles a [] a
  | cons
      {a b : Nat}
      {piece : Piece}
      {rest : List Piece}
      (hStart : piece.start = a)
      (hPos : 0 < piece.length)
      (hRest : Tiles piece.stop rest b) :
      Tiles a (piece :: rest) b

namespace Tiles

/- The lengths of a tiling add up to the interval. -/
theorem total_eq
    {a b : Nat}
    {pieces : List Piece}
    (hTiles : Tiles a pieces b) :
    a + total pieces = b := by
  induction hTiles with
  | nil => simp
  | cons hStart _ _ ih =>
      rw [total_cons]
      unfold Piece.stop at ih
      omega

theorem le
    {a b : Nat}
    {pieces : List Piece}
    (hTiles : Tiles a pieces b) :
    a ≤ b := by
  have := hTiles.total_eq
  omega

/- Every piece lies in the interval and is not empty. -/
theorem bounds
    {a b : Nat}
    {pieces : List Piece}
    (hTiles : Tiles a pieces b)
    {piece : Piece}
    (hMem : piece ∈ pieces) :
    a ≤ piece.start ∧ piece.stop ≤ b ∧ 0 < piece.length := by
  induction hTiles with
  | nil => cases hMem
  | @cons a b head rest hStart hPos hRest ih =>
      rcases List.mem_cons.mp hMem with rfl | hTail
      · exact ⟨hStart.ge, hRest.le, hPos⟩
      · have hInner := ih hTail
        unfold Piece.stop at hInner
        exact ⟨by omega, hInner.2⟩

/- A tiling covers exactly the positions of the interval. -/
theorem covers_iff
    {a b : Nat}
    {pieces : List Piece}
    (hTiles : Tiles a pieces b)
    (k : Nat) :
    Covers pieces k ↔ a ≤ k ∧ k < b := by
  constructor
  · rintro ⟨piece, hMem, hLow, hHigh⟩
    have hBounds := hTiles.bounds hMem
    omega
  · rintro ⟨hLow, hHigh⟩
    induction hTiles with
    | nil => omega
    | @cons a b head rest hStart hPos hRest ih =>
        by_cases hHead : k < head.stop
        · exact ⟨head, List.mem_cons_self, by omega, hHead⟩
        · exact (ih (by omega) hHigh).mono
            (List.subset_cons_self head rest)

/- Two pieces of a tiling that share a position are one. -/
theorem eq_of_common
    {a b : Nat}
    {pieces : List Piece}
    (hTiles : Tiles a pieces b)
    {first second : Piece}
    (hFirst : first ∈ pieces)
    (hSecond : second ∈ pieces)
    {k : Nat}
    (hInFirst : first.start ≤ k ∧ k < first.stop)
    (hInSecond : second.start ≤ k ∧ k < second.stop) :
    first = second := by
  induction hTiles with
  | nil => cases hFirst
  | @cons a b head rest hStart hPos hRest ih =>
      rcases List.mem_cons.mp hFirst with rfl | hFirstTail
      · rcases List.mem_cons.mp hSecond with
          rfl | hSecondTail
        · rfl
        · have := hRest.bounds hSecondTail
          omega
      · rcases List.mem_cons.mp hSecond with
          rfl | hSecondTail
        · have := hRest.bounds hFirstTail
          omega
        · exact ih hFirstTail hSecondTail

/- No piece occurs twice in a tiling. -/
theorem nodup
    {a b : Nat}
    {pieces : List Piece}
    (hTiles : Tiles a pieces b) :
    pieces.Nodup := by
  induction hTiles with
  | nil => exact List.nodup_nil
  | @cons a b head rest hStart hPos hRest ih =>
      refine List.nodup_cons.mpr ⟨?_, ih⟩
      intro hMem
      have := hRest.bounds hMem
      unfold Piece.stop at this
      omega

/- Tilings of adjacent intervals join. -/
theorem append
    {a b c : Nat}
    {first second : List Piece}
    (hFirst : Tiles a first b)
    (hSecond : Tiles b second c) :
    Tiles a (first ++ second) c := by
  induction hFirst with
  | nil => exact hSecond
  | cons hStart hPos _ ih => exact cons hStart hPos (ih hSecond)

/- A tiling splits where its list does. -/
theorem split
    {a c : Nat}
    {first second : List Piece}
    (hTiles : Tiles a (first ++ second) c) :
    ∃ b, Tiles a first b ∧ Tiles b second c := by
  induction first generalizing a with
  | nil => exact ⟨a, nil a, hTiles⟩
  | cons piece first ih =>
      cases hTiles with
      | cons hStart hPos hRest =>
          rcases ih hRest with ⟨b, hFirst, hSecond⟩
          exact ⟨b, cons hStart hPos hFirst, hSecond⟩

/- The end of a tiling is its start or where a piece stops. -/
theorem stops
    {a b : Nat}
    {pieces : List Piece}
    (hTiles : Tiles a pieces b) :
    Stops a pieces b := by
  induction hTiles with
  | nil => exact Or.inl rfl
  | @cons a b head rest _ _ _ ih =>
      rcases ih with rfl | hLater
      · exact Or.inr ⟨head, List.mem_cons_self, rfl⟩
      · rcases hLater with ⟨piece, hMem, hStop⟩
        exact
          Or.inr
            ⟨piece, List.mem_cons_of_mem head hMem, hStop⟩

/- Nothing stops behind the end of a tiling. -/
theorem le_of_stops
    {a b k : Nat}
    {pieces : List Piece}
    (hTiles : Tiles a pieces b)
    (hStops : Stops a pieces k) :
    k ≤ b := by
  rcases hStops with rfl | ⟨piece, hMem, rfl⟩
  · exact hTiles.le
  · exact (hTiles.bounds hMem).2.1

/-
  Where a piece of a tiling stops, short of the end, another
  one starts.
-/
theorem starts_of_stops
    {a b k : Nat}
    {pieces : List Piece}
    (hTiles : Tiles a pieces b)
    (hStops : Stops a pieces k)
    (hBelow : k < b) :
    Starts pieces k := by
  induction hTiles with
  | nil =>
      rcases hStops with rfl | ⟨piece, hMem, _⟩
      · exact absurd hBelow (Nat.lt_irrefl k)
      · cases hMem
  | @cons a b head rest hStart _ _ ih =>
      rcases hStops with rfl | ⟨piece, hMem, hStop⟩
      · exact ⟨head, List.mem_cons_self, hStart⟩
      · have hTail : Stops head.stop rest k := by
          rcases List.mem_cons.mp hMem with rfl | hRest
          · exact Or.inl hStop.symm
          · exact Or.inr ⟨piece, hRest, hStop⟩
        rcases ih hTail hBelow with ⟨next, hNext, hAt⟩
        exact ⟨next, List.mem_cons_of_mem head hNext, hAt⟩

------------------------------------------------------------
-- Counting Received Pieces
------------------------------------------------------------

/-
  Pieces of a tiling that cover the whole interval include
  every piece of the tiling.
-/
theorem subset_of_covers
    {a b : Nat}
    {pieces received : List Piece}
    (hTiles : Tiles a pieces b)
    (hReceived : received ⊆ pieces)
    (hCovers : ∀ k, a ≤ k → k < b → Covers received k) :
    pieces ⊆ received := by
  intro piece hMem
  have hBounds := hTiles.bounds hMem
  have hIn : piece.start ≤ piece.start ∧
      piece.start < piece.stop := by
    unfold Piece.stop at *
    omega
  rcases hCovers piece.start hBounds.1 (by omega) with
    ⟨other, hOther, hInOther⟩
  rw [hTiles.eq_of_common hMem (hReceived hOther) hIn
    hInOther]
  exact hOther

/-
  When every piece has been received and the lengths add up
  to the interval, each piece has been received once.
-/
theorem perm_of_total_eq
    {a b : Nat}
    {pieces received : List Piece}
    (hTiles : Tiles a pieces b)
    (hReceived : received ⊆ pieces)
    (hAll : pieces ⊆ received)
    (hTotal : total received = b - a) :
    received.Perm pieces := by
  have hSubperm : List.Subperm pieces received :=
    hTiles.nodup.subperm hAll
  rcases hSubperm with ⟨middle, hPerm, hSublist⟩
  have hMiddle : total middle = total received := by
    rw [total_perm hPerm, hTotal]
    have := hTiles.total_eq
    omega
  have hEq : middle = received := by
    apply hSublist.eq_of_length_le
    by_contra hShort
    rw [Nat.not_le] at hShort
    rcases hSublist.exists_perm_append with ⟨extra, hExtra⟩
    have hLength := hExtra.length_eq
    rw [List.length_append] at hLength
    cases extra with
    | nil => simp only [List.length_nil] at hLength; omega
    | cons piece extra =>
        have hMem : piece ∈ pieces :=
          hReceived (hExtra.symm.subset (by simp))
        have hPos := (hTiles.bounds hMem).2.2
        have hSum := total_perm hExtra
        rw [total_append, total_cons] at hSum
        omega
  rw [← hEq]
  exact hPerm

/-
  While some piece is missing and none has been received
  twice, the lengths add up to less than the interval.
-/
theorem total_lt_of_not_subset
    {a b : Nat}
    {pieces received : List Piece}
    (hTiles : Tiles a pieces b)
    (hReceived : received ⊆ pieces)
    (hNodup : received.Nodup)
    (hMissing : ¬ pieces ⊆ received) :
    total received < b - a := by
  rw [List.subset_def] at hMissing
  push Not at hMissing
  rcases hMissing with ⟨piece, hMem, hNot⟩
  have hNodupCons : (piece :: received).Nodup :=
    List.nodup_cons.mpr ⟨hNot, hNodup⟩
  have hSubset : piece :: received ⊆ pieces :=
    List.cons_subset.mpr ⟨hMem, hReceived⟩
  rcases hNodupCons.subperm hSubset with
    ⟨middle, hPerm, hSublist⟩
  have hLe := total_le_of_sublist hSublist
  rw [total_perm hPerm, total_cons] at hLe
  have hPos := (hTiles.bounds hMem).2.2
  have hTotal := hTiles.total_eq
  omega

end Tiles

------------------------------------------------------------
-- Taking Pieces In Until They Add Up
------------------------------------------------------------

/-
  What has been taken in after some more pieces, when nothing
  is taken in once the lengths add up to `n`.
-/
def upTo
    (n : Nat)
    (received : List Piece) : List Piece → List Piece
| [] => received
| piece :: rest =>
    if total received = n then
      received
    else
      upTo n (received ++ [piece]) rest

theorem upTo_of_total_eq
    {n : Nat}
    {received : List Piece}
    (hTotal : total received = n)
    (rest : List Piece) :
    upTo n received rest = received := by
  cases rest with
  | nil => rfl
  | cons piece rest => exact if_pos hTotal

theorem upTo_cons_of_ne
    {n : Nat}
    {received : List Piece}
    (hTotal : total received ≠ n)
    (piece : Piece)
    (rest : List Piece) :
    upTo n received (piece :: rest) =
      upTo n (received ++ [piece]) rest :=
  if_neg hTotal

/- Pieces can be taken in in two goes. -/
theorem upTo_append
    (n : Nat)
    (received first second : List Piece) :
    upTo n received (first ++ second) =
      upTo n (upTo n received first) second := by
  induction first generalizing received with
  | nil => rfl
  | cons piece first ih =>
      by_cases hTotal : total received = n
      · rw [upTo_of_total_eq hTotal,
          upTo_of_total_eq hTotal, upTo_of_total_eq hTotal]
      · rw [List.cons_append, upTo_cons_of_ne hTotal,
          upTo_cons_of_ne hTotal, ih]

/-
  What is taken in is the shortest prefix that adds up, or
  everything.
-/
theorem upTo_eq_take
    (n : Nat)
    (received arrivals : List Piece) :
    ∃ j ≤ arrivals.length,
      upTo n received arrivals =
          received ++ arrivals.take j ∧
        (j = arrivals.length ∨
          total (received ++ arrivals.take j) = n) ∧
        ∀ i < j, total (received ++ arrivals.take i) ≠ n := by
  induction arrivals generalizing received with
  | nil => exact ⟨0, Nat.le_refl 0, by simp [upTo]⟩
  | cons piece rest ih =>
      by_cases hTotal : total received = n
      · refine ⟨0, Nat.zero_le _, ?_, ?_, by simp⟩
        · rw [upTo_of_total_eq hTotal]
          simp
        · exact Or.inr (by simpa using hTotal)
      · rcases ih (received ++ [piece]) with
          ⟨j, hLe, hEq, hEnd, hBefore⟩
        simp only [List.append_assoc,
          List.singleton_append] at hEq hEnd hBefore
        refine ⟨j + 1, Nat.succ_le_succ hLe, ?_, ?_, ?_⟩
        · rw [upTo_cons_of_ne hTotal, hEq,
            List.take_succ_cons]
        · rw [List.take_succ_cons, List.length_cons,
            Nat.succ_inj]
          exact hEnd
        · intro i hLt
          cases i with
          | zero => simpa using hTotal
          | succ i =>
              rw [List.take_succ_cons]
              exact hBefore i (by omega)

/- While they do not add up, everything is taken in. -/
theorem upTo_of_total_ne
    {n : Nat}
    {received arrivals : List Piece}
    (hTotal : total (upTo n received arrivals) ≠ n) :
    upTo n received arrivals = received ++ arrivals := by
  rcases upTo_eq_take n received arrivals with
    ⟨j, hLe, hEq, hEnd, _⟩
  rw [hEq] at hTotal ⊢
  rcases hEnd with rfl | hSum
  · rw [List.take_length]
  · exact absurd hSum hTotal

theorem upTo_of_total_lt
    {n : Nat}
    {received arrivals : List Piece}
    (hTotal : total (received ++ arrivals) < n) :
    upTo n received arrivals = received ++ arrivals := by
  apply upTo_of_total_ne
  rcases upTo_eq_take n received arrivals with
    ⟨j, _, hEq, _, _⟩
  have hPart :=
    total_le_of_sublist (List.take_sublist j arrivals)
  rw [total_append] at hTotal
  rw [hEq, total_append]
  omega

/- A longer prefix of non-empty pieces adds up to more. -/
theorem total_take_lt
    {arrivals : List Piece}
    (hPos : ∀ piece ∈ arrivals, 0 < piece.length)
    {i j : Nat}
    (hLt : i < j)
    (hLength : i < arrivals.length) :
    total (arrivals.take i) < total (arrivals.take j) := by
  induction arrivals generalizing i j with
  | nil => simp at hLength
  | cons piece rest ih =>
      cases j with
      | zero => omega
      | succ j =>
          have hHead := hPos piece List.mem_cons_self
          cases i with
          | zero =>
              simp only [List.take_zero, total_nil,
                List.take_succ_cons, total_cons]
              omega
          | succ i =>
              have hTail :=
                ih
                  (fun piece hMem =>
                    hPos piece (List.mem_cons_of_mem _ hMem))
                  (i := i) (j := j) (by omega)
                  (by
                    rw [List.length_cons] at hLength
                    omega)
              simp only [List.take_succ_cons, total_cons]
              omega

/- A prefix that adds up is what is taken in. -/
theorem upTo_eq_of_total_take
    {n : Nat}
    {arrivals : List Piece}
    (hPos : ∀ piece ∈ arrivals, 0 < piece.length)
    {k : Nat}
    (hTotal : total (arrivals.take k) = n) :
    upTo n [] arrivals = arrivals.take k := by
  rcases upTo_eq_take n [] arrivals with
    ⟨j, hLe, hEq, hEnd, hBefore⟩
  simp only [List.nil_append] at hEq hEnd hBefore
  have hNotBefore : j ≤ k := by
    by_contra hLt
    exact hBefore k (by omega) hTotal
  rw [hEq]
  by_cases hAll : arrivals.length ≤ j
  · rw [List.take_of_length_le hAll,
      List.take_of_length_le (by omega)]
  · have hSum : total (arrivals.take j) = n := by
      rcases hEnd with hLast | hSum
      · omega
      · exact hSum
    have hSame : j = k := by
      by_contra hNe
      have :=
        total_take_lt hPos (i := j) (j := k) (by omega)
          (by omega)
      omega
    rw [hSame]

/-
  Of the pieces of a tiling, what is taken in adds up and has
  no hole exactly when some prefix is the tiling, in any
  order.
-/
theorem Tiles.upTo_covers_iff
    {n : Nat}
    {pieces arrivals : List Piece}
    (hTiles : Tiles 0 pieces n)
    (hArrivals : arrivals ⊆ pieces) :
    (total (upTo n [] arrivals) = n ∧
        ∀ k < n, Covers (upTo n [] arrivals) k) ↔
      ∃ k, (arrivals.take k).Perm pieces := by
  have hPos : ∀ piece ∈ arrivals, 0 < piece.length :=
    fun piece hMem => (hTiles.bounds (hArrivals hMem)).2.2
  constructor
  · rintro ⟨hTotal, hCovers⟩
    rcases upTo_eq_take n [] arrivals with
      ⟨j, _, hEq, _, _⟩
    rw [List.nil_append] at hEq
    rw [hEq] at hTotal hCovers
    have hSome : arrivals.take j ⊆ pieces :=
      fun piece hMem => hArrivals (List.mem_of_mem_take hMem)
    have hAll :=
      hTiles.subset_of_covers hSome
        (fun k _ hLt => hCovers k hLt)
    exact
      ⟨j, hTiles.perm_of_total_eq hSome hAll
        (by rw [hTotal, Nat.sub_zero])⟩
  · rintro ⟨k, hPerm⟩
    have hTotal : total (arrivals.take k) = n := by
      rw [total_perm hPerm]
      have := hTiles.total_eq
      omega
    rw [upTo_eq_of_total_take hPos hTotal]
    refine ⟨hTotal, ?_⟩
    intro i hLt
    exact
      ((hTiles.covers_iff i).mpr ⟨Nat.zero_le i, hLt⟩).mono
        hPerm.symm.subset

end Tiling
