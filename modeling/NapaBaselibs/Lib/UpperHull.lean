import Mathlib.Algebra.Order.Field.Basic
import Mathlib.Algebra.Order.Ring.Defs
import Mathlib.Data.List.Pairwise
import Mathlib.Data.Set.Insert
import Mathlib.Tactic.LinearCombination
import Mathlib.Tactic.Linarith
import Mathlib.Tactic.Ring

/-
  Upper hulls of points that come from left to right.

  The hull is a stack of points, the last one on top.  A new
  point is pushed after those at which the border would not
  turn down were popped.

  Key definitions include:
    * `UpperHull.rise`, `UpperHull.height`
    * `UpperHull.push`
    * `UpperHull.IsHull`

  Key theorems include:
    * `UpperHull.IsHull.push`, `UpperHull.IsHull.foldl`
    * `UpperHull.IsHull.last_edge`
    * `UpperHull.height_le_of_covers`
-/

------------------------------------------------------------
-- Lines
------------------------------------------------------------

namespace UpperHull

variable {K α : Type*}
variable [Field K]
variable (x y : α → K)

/- The slope of the line from a point to another. -/
def rise (p q : α) : K :=
  (y q - y p) / (x q - x p)

/- The line through two points. -/
def height
    (p q : α)
    (t : K) : K :=
  y p + rise x y p q * (t - x p)

variable {x y}
variable {p q r s : α}

theorem rise_comm (p q : α) :
    rise x y p q = rise x y q p := by
  rw [rise, rise, ← neg_sub (y p) (y q), ← neg_sub (x p) (x q),
    neg_div_neg_eq]

theorem rise_mul
    (hApart : x p ≠ x q) :
    rise x y p q * (x q - x p) = y q - y p :=
  div_mul_cancel₀ _ (sub_ne_zero.mpr hApart.symm)

@[simp]
theorem height_left (p q : α) :
    height x y p q (x p) = y p := by
  rw [height, sub_self, mul_zero, add_zero]

/- The same line, from the other point on. -/
theorem height_from_right
    (hApart : x p ≠ x q)
    (t : K) :
    height x y p q t = y q + rise x y p q * (t - x q) := by
  rw [height]
  linear_combination rise_mul (y := y) hApart

theorem height_right
    (hApart : x p ≠ x q) :
    height x y p q (x q) = y q := by
  rw [height_from_right hApart, sub_self, mul_zero, add_zero]

theorem height_comm
    (hApart : x p ≠ x q)
    (t : K) :
    height x y q p t = height x y p q t := by
  rw [height_from_right hApart, height, rise_comm q p]

------------------------------------------------------------
-- Hulls
------------------------------------------------------------

variable [LinearOrder K]
variable (x y)

/- The points at which the border turns down to a new one. -/
def pop (s : α) : List α → List α
  | q :: p :: stack =>
      if rise x y q s < rise x y p q then q :: p :: stack
      else pop s (p :: stack)
  | stack => stack

/- A new point on the right of all others. -/
def push
    (stack : List α)
    (s : α) : List α :=
  s :: pop x y s stack

/- The border goes to the right and turns down. -/
def Turns : List α → Prop
  | r :: q :: p :: stack =>
      x q < x r ∧ rise x y q r < rise x y p q ∧
        Turns (q :: p :: stack)
  | [q, p] => x p < x q
  | _ => True

/- No point is above the line of an edge. -/
def Covers (points : Set α) : List α → Prop
  | q :: p :: stack =>
      (∀ a ∈ points, y a ≤ height x y p q (x a)) ∧
        Covers points (p :: stack)
  | _ => True

/- The stack is the upper hull of some points. -/
structure IsHull
    (points : Set α)
    (stack : List α) : Prop where
  turns : Turns x y stack
  covers : Covers x y points stack
  mem : ∀ v ∈ stack, v ∈ points
  first :
    ∃ v, stack.getLast? = some v ∧ ∀ a ∈ points, x v ≤ x a
  last :
    ∃ v, stack.head? = some v ∧
      ∀ a ∈ points, a = v ∨ x a < x v

variable {x y}
variable {points : Set α}
variable {stack : List α}

theorem Turns.lt
    (hTurns : Turns x y (q :: p :: stack)) :
    x p < x q := by
  cases stack with
  | nil => exact hTurns
  | cons o stack => exact hTurns.1

theorem Turns.tail
    (hTurns : Turns x y (q :: stack)) :
    Turns x y stack := by
  match stack, hTurns with
  | [], _ => trivial
  | [_], _ => trivial
  | _ :: _ :: _, hTurns => exact hTurns.2.2

/- The points of a border are in order. -/
theorem Turns.pairwise
    (hTurns : Turns x y stack) :
    stack.Pairwise (fun q p => x p < x q) := by
  induction stack with
  | nil => exact List.Pairwise.nil
  | cons q stack ih =>
      have hRest := ih hTurns.tail
      refine List.pairwise_cons.mpr ⟨?_, hRest⟩
      cases stack with
      | nil => simp
      | cons p stack =>
          intro o hIn
          rcases List.mem_cons.mp hIn with hSame | hOlder
          · exact hSame ▸ hTurns.lt
          · exact (List.rel_of_pairwise_cons hRest hOlder).trans
              hTurns.lt

/- The hull of different points has an edge. -/
theorem IsHull.exists_edge
    (hHull : IsHull x y points stack)
    (hP : p ∈ points)
    (hQ : q ∈ points)
    (hApart : x p < x q) :
    ∃ top below rest, stack = top :: below :: rest := by
  obtain ⟨v, hV, hLeast⟩ := hHull.first
  obtain ⟨w, hW, hMost⟩ := hHull.last
  match stack with
  | [] => simp at hV
  | [only] =>
      obtain rfl : only = v := by simpa using hV
      obtain rfl : only = w := by simpa using hW
      have hLeft := hLeast p hP
      rcases hMost q hQ with rfl | hRight
      · exact absurd hApart hLeft.not_gt
      · exact absurd (hApart.trans hRight) hLeft.not_gt
  | top :: below :: rest => exact ⟨top, below, rest, rfl⟩

theorem Covers.tail
    (hCovers : Covers x y points (q :: stack)) :
    Covers x y points stack := by
  cases stack with
  | nil => trivial
  | cons p stack => exact hCovers.2

theorem Covers.union
    {more : Set α}
    (hCovers : Covers x y points stack)
    (hNew : Covers x y more stack) :
    Covers x y (points ∪ more) stack := by
  induction stack with
  | nil => trivial
  | cons q stack ih =>
      have hRest := ih hCovers.tail hNew.tail
      cases stack with
      | nil => trivial
      | cons p stack =>
          refine ⟨?_, hRest⟩
          rintro a (hOld | hMore)
          · exact hCovers.1 a hOld
          · exact hNew.1 a hMore

/- Each edge covers the points. -/
theorem Covers.edge
    (hCovers : Covers x y points stack)
    (hEdge : [q, p] <:+: stack) :
    ∀ a ∈ points, y a ≤ height x y p q (x a) := by
  induction stack with
  | nil => simp at hEdge
  | cons r stack ih =>
      rcases List.infix_cons_iff.mp hEdge with hTop | hRest
      · obtain ⟨rest, hStack⟩ := hTop
        rw [← hStack] at hCovers
        exact hCovers.1
      · exact ih hCovers.tail hRest

/- What is popped is on top. -/
theorem pop_suffix
    (s : α)
    (stack : List α) :
    pop x y s stack <:+ stack := by
  induction stack with
  | nil => exact List.suffix_rfl
  | cons q stack ih =>
      cases stack with
      | nil => exact List.suffix_rfl
      | cons p stack =>
          rw [pop]
          split
          · exact List.suffix_rfl
          · exact ih.trans (List.suffix_cons _ _)

theorem pop_ne_nil
    (s q : α)
    (stack : List α) :
    pop x y s (q :: stack) ≠ [] := by
  induction stack generalizing q with
  | nil => simp [pop]
  | cons p stack ih =>
      rw [pop]
      split
      · simp
      · exact ih p

------------------------------------------------------------
-- Steeper Lines
------------------------------------------------------------

variable [IsStrictOrderedRing K]

/- Right of its first point, a steeper line is higher. -/
theorem height_le_of_rise_le
    {t : K}
    (hRise : rise x y p q ≤ rise x y p r)
    (hRight : x p ≤ t) :
    height x y p q t ≤ height x y p r t := by
  have hMul := mul_le_mul_of_nonneg_right hRise
    (sub_nonneg.mpr hRight)
  rw [height, height]
  linarith

/- Left of its last point, a steeper line is lower. -/
theorem height_le_of_rise_ge
    {t : K}
    (hP : x p ≠ x r)
    (hQ : x q ≠ x r)
    (hRise : rise x y q r ≤ rise x y p r)
    (hLeft : t ≤ x r) :
    height x y p r t ≤ height x y q r t := by
  have hMul := mul_le_mul_of_nonpos_right hRise
    (sub_nonpos.mpr hLeft)
  rw [height_from_right hP, height_from_right hQ]
  linarith

/- The slope over two steps is between those of the steps. -/
theorem rise_between
    (hPQ : x p < x q)
    (hQR : x q < x r)
    (hUp : rise x y p q ≤ rise x y q r) :
    rise x y p q ≤ rise x y p r ∧
      rise x y p r ≤ rise x y q r := by
  have hFirst := rise_mul (y := y) hPQ.ne
  have hSecond := rise_mul (y := y) hQR.ne
  have hBoth := rise_mul (y := y) (hPQ.trans hQR).ne
  have hWide : 0 < x r - x p := sub_pos.mpr (hPQ.trans hQR)
  have hLow := mul_le_mul_of_nonneg_right hUp
    (sub_pos.mpr hQR).le
  have hHigh := mul_le_mul_of_nonneg_right hUp
    (sub_pos.mpr hPQ).le
  constructor
  · refine le_of_mul_le_mul_right ?_ hWide
    linarith
  · refine le_of_mul_le_mul_right ?_ hWide
    linarith

theorem rise_lt_of_turn
    (hPQ : x p < x q)
    (hQR : x q < x r)
    (hDown : rise x y q r < rise x y p q) :
    rise x y p r < rise x y p q := by
  have hFirst := rise_mul (y := y) hPQ.ne
  have hSecond := rise_mul (y := y) hQR.ne
  have hBoth := rise_mul (y := y) (hPQ.trans hQR).ne
  have hWide : 0 < x r - x p := sub_pos.mpr (hPQ.trans hQR)
  have hLow := mul_lt_mul_of_pos_right hDown (sub_pos.mpr hQR)
  refine lt_of_mul_lt_mul_right ?_ hWide.le
  linarith

------------------------------------------------------------
-- New Points
------------------------------------------------------------

/- Where the border turns down, the new point is below it. -/
theorem covers_new
    (hTurns : Turns x y (s :: stack)) :
    Covers x y {s} stack := by
  induction stack with
  | nil => trivial
  | cons q stack ih =>
      cases stack with
      | nil => trivial
      | cons p stack =>
          obtain ⟨hNew, hDown, hRest⟩ := hTurns
          have hOld : x p < x q := hRest.lt
          refine ⟨?_, ih ?_⟩
          · rintro a rfl
            calc y a
                = height x y q a (x a) :=
                  (height_right hNew.ne).symm
              _ ≤ height x y q p (x a) := by
                  refine height_le_of_rise_le ?_ hNew.le
                  rw [rise_comm q p]
                  exact hDown.le
              _ = height x y p q (x a) := height_comm hOld.ne _
          · cases stack with
            | nil => exact hOld.trans hNew
            | cons o stack =>
                exact ⟨hOld.trans hNew,
                  (rise_lt_of_turn hOld hNew hDown).trans
                    hRest.2.1,
                  hRest.tail⟩

/-
  After popping, the new edge covers what was covered and the
  border turns.  What is right of the top is covered by the
  line from the top to the new point all the time.
-/
theorem pop_spec
    (hTurns : Turns x y (q :: stack))
    (hCovers : Covers x y points (q :: stack))
    (hFirst :
      ∃ v, (q :: stack).getLast? = some v ∧
        ∀ a ∈ points, x v ≤ x a)
    (hRight :
      ∀ a ∈ points, x q ≤ x a → y a ≤ height x y q s (x a))
    (hNew : x q < x s)
    (hLast : ∀ a ∈ points, x a ≤ x s) :
    Turns x y (s :: pop x y s (q :: stack)) ∧
      Covers x y points (s :: pop x y s (q :: stack)) := by
  induction stack generalizing q with
  | nil =>
      obtain ⟨v, hV, hAll⟩ := hFirst
      obtain rfl : q = v := Option.some.inj hV
      exact ⟨hNew, fun a hIn => hRight a hIn (hAll a hIn),
        trivial⟩
  | cons p stack ih =>
      have hOld : x p < x q := hTurns.lt
      rw [pop]
      split
      · next hDown =>
          refine ⟨⟨hNew, hDown, hTurns⟩, ?_, hCovers⟩
          intro a hIn
          rcases le_total (x q) (x a) with hSide | hSide
          · exact hRight a hIn hSide
          · calc y a ≤ height x y p q (x a) := hCovers.1 a hIn
              _ ≤ height x y s q (x a) := by
                  refine height_le_of_rise_ge hOld.ne hNew.ne' ?_
                    hSide
                  rw [rise_comm s q]
                  exact hDown.le
              _ = height x y q s (x a) := height_comm hNew.ne _
      · next hUp =>
          obtain ⟨hLow, hHigh⟩ :=
            rise_between hOld hNew (not_lt.mp hUp)
          refine ih hTurns.tail hCovers.2 ?_ ?_ (hOld.trans hNew)
          · simpa using hFirst
          · intro a hIn hSide
            rcases le_total (x q) (x a) with hOver | hUnder
            · exact (hRight a hIn hOver).trans
                (height_le_of_rise_ge hNew.ne
                  (hOld.trans hNew).ne hHigh (hLast a hIn))
            · exact (hCovers.1 a hIn).trans
                (height_le_of_rise_le hLow hSide)

/- The new point is on its own edge. -/
theorem covers_self
    (hTurns : Turns x y (s :: stack)) :
    Covers x y {s} (s :: stack) := by
  have hOlder := covers_new hTurns
  cases stack with
  | nil => trivial
  | cons q stack =>
      refine ⟨?_, hOlder⟩
      rintro a rfl
      exact (height_right hTurns.lt.ne).ge

/- The hull with a new point on the right. -/
theorem IsHull.push
    (hHull : IsHull x y points stack)
    (hNew : ∀ a ∈ points, x a < x s) :
    IsHull x y (points ∪ {s}) (push x y stack s) := by
  obtain ⟨q, hTop, hMost⟩ := hHull.last
  cases stack with
  | nil => simp at hTop
  | cons top stack =>
      obtain rfl : top = q := Option.some.inj hTop
      have hNear := hNew top (hHull.mem top List.mem_cons_self)
      have hRight (a : α) (hIn : a ∈ points)
          (hSide : x top ≤ x a) :
          y a ≤ height x y top s (x a) := by
        rcases hMost a hIn with rfl | hLeft
        · exact (height_left a s).ge
        · exact absurd hLeft hSide.not_gt
      obtain ⟨hTurns, hCovers⟩ :=
        pop_spec hHull.turns hHull.covers hHull.first hRight hNear
          (fun a hIn => (hNew a hIn).le)
      have hSuffix : pop x y s (top :: stack) <:+ top :: stack :=
        pop_suffix s (top :: stack)
      refine ⟨hTurns, hCovers.union (covers_self hTurns), ?_, ?_,
        s, rfl, ?_⟩
      · intro v hV
        rcases List.mem_cons.mp hV with hSame | hOld
        · exact .inr hSame
        · exact .inl (hHull.mem v (hSuffix.subset hOld))
      · obtain ⟨v, hV, hAll⟩ := hHull.first
        have hBottom := List.mem_of_getLast? hV
        refine ⟨v, ?_, ?_⟩
        · obtain ⟨popped, hPopped⟩ := hSuffix
          have hPop :
              (pop x y s (top :: stack)).getLast? = some v := by
            rw [← hPopped, List.getLast?_append] at hV
            cases hLast : (pop x y s (top :: stack)).getLast? with
            | none =>
                exact absurd (List.getLast?_eq_none_iff.mp hLast)
                  (pop_ne_nil s top stack)
            | some w => rwa [hLast] at hV
          rw [UpperHull.push, List.getLast?_cons, hPop,
            Option.getD_some]
        · rintro a (hOld | rfl)
          · exact hAll a hOld
          · exact (hNew v (hHull.mem v hBottom)).le
      · rintro a (hOld | rfl)
        · exact .inr (hNew a hOld)
        · exact .inl rfl

/- The hull when some more points came in order. -/
theorem IsHull.foldl
    {more : List α}
    (hHull : IsHull x y points stack)
    (hOrder : more.Pairwise (fun p q => x p < x q))
    (hNew : ∀ s ∈ more, ∀ a ∈ points, x a < x s) :
    IsHull x y (points ∪ {a | a ∈ more})
      (more.foldl (UpperHull.push x y) stack) := by
  induction more generalizing points stack with
  | nil => simpa using hHull
  | cons s more ih =>
      obtain ⟨hBehind, hRest⟩ := List.pairwise_cons.mp hOrder
      have hPushed := hHull.push (hNew s List.mem_cons_self)
      have hRun := ih hPushed hRest (fun t hT a hA => ?_)
      · rw [List.foldl_cons]
        convert hRun using 1
        ext a
        simp [or_assoc, or_left_comm]
      · rcases hA with hOld | rfl
        · exact hNew t (List.mem_cons_of_mem _ hT) a hOld
        · exact hBehind t hT

/- The hull of the first two points. -/
omit [IsStrictOrderedRing K] in
theorem isHull_pair
    (hApart : x p < x q) :
    IsHull x y {p, q} [q, p] := by
  refine ⟨hApart, ⟨?_, trivial⟩, ?_, ⟨p, rfl, ?_⟩,
    ⟨q, rfl, ?_⟩⟩
  · rintro a (rfl | rfl)
    · exact (height_left a q).ge
    · exact (height_right hApart.ne).ge
  · intro v hV
    simpa [or_comm] using hV
  · rintro a (rfl | rfl)
    · exact le_rfl
    · exact hApart.le
  · rintro a (rfl | rfl)
    · exact .inr hApart
    · exact .inl rfl

------------------------------------------------------------
-- The Edge Over A Place
------------------------------------------------------------

/- Between two points, no line that covers them is lower. -/
theorem height_le_of_covers
    {a b t : K}
    (hApart : x p < x q)
    (hP : y p ≤ a + b * x p)
    (hQ : y q ≤ a + b * x q)
    (hLeft : x p ≤ t)
    (hRight : t ≤ x q) :
    height x y p q t ≤ a + b * t := by
  have hWide : 0 < x q - x p := sub_pos.mpr hApart
  have hRise := rise_mul (y := y) hApart.ne
  have hFromP := mul_le_mul_of_nonneg_right hP
    (sub_nonneg.mpr hRight)
  have hFromQ := mul_le_mul_of_nonneg_right hQ
    (sub_nonneg.mpr hLeft)
  refine le_of_mul_le_mul_right ?_ hWide
  calc height x y p q t * (x q - x p)
      = y p * (x q - t) + y q * (t - x p) := by
        rw [height]
        linear_combination (t - x p) * hRise
    _ ≤ (a + b * x p) * (x q - t) +
        (a + b * x q) * (t - x p) :=
      add_le_add hFromP hFromQ
    _ = (a + b * t) * (x q - x p) := by ring

/-
  A line through the last point that covers the others goes
  through no point left of the last edge.
-/
theorem IsHull.last_edge
    (hHull : IsHull x y points (r :: q :: stack))
    (hIn : p ∈ points)
    (hCovers : ∀ a ∈ points, y a ≤ height x y p r (x a)) :
    x q ≤ x p := by
  by_contra hLeft
  have hPQ : x p < x q := not_le.mp hLeft
  have hQR : x q < x r := hHull.turns.lt
  cases stack with
  | nil =>
      obtain ⟨v, hV, hAll⟩ := hHull.first
      obtain rfl : q = v := by simpa using hV
      exact hLeft (hAll p hIn)
  | cons o stack =>
      obtain ⟨-, hDown, hRest⟩ := hHull.turns
      have hOQ : x o < x q := hRest.lt
      have hUnder := hHull.covers.2.1 p hIn
      have hOver :=
        hCovers q (hHull.mem q (by simp))
      -- The slope from `p` to `q` is at least that before `q`.
      have hSteep : rise x y q r < rise x y p q := by
        refine hDown.trans_le ?_
        refine le_of_mul_le_mul_right ?_ (sub_pos.mpr hPQ)
        rw [height_from_right hOQ.ne] at hUnder
        rw [rise_mul hPQ.ne]
        linarith
      have hFlat := rise_lt_of_turn hPQ hQR hSteep
      have hBelow : height x y p r (x q) < y q := by
        have hMul := mul_lt_mul_of_pos_right hFlat
          (sub_pos.mpr hPQ)
        rw [rise_mul hPQ.ne] at hMul
        rw [height]
        linarith
      exact absurd hOver hBelow.not_ge

end UpperHull
