import Mathlib.Data.List.Rotate
import Mathlib.Data.List.Basic
import Mathlib.Order.Interval.Finset.Nat

/-
  Ring buffers by their cells.

  A ring is a list of cells and the index of the cell that is
  written next.  Its window is what the last writes left,
  oldest first; cells that were never written are outside.

  Key definitions include:
    * `RingBuffer.window`, `RingBuffer.advance`
    * `RingBuffer.lastN`
    * `RingBuffer.Holds`, for a ring in memory

  Key theorems include:
    * `RingBuffer.window_push`
    * `RingBuffer.window_get`
    * `RingBuffer.Holds.push`, `RingBuffer.Holds.perm_lastN`
-/

------------------------------------------------------------
-- The Last Elements
------------------------------------------------------------

namespace RingBuffer

variable {α β : Type}

/- The last `n` elements, or all if there are fewer. -/
def lastN
    (n : Nat)
    (xs : List α) : List α :=
  xs.drop (xs.length - n)

theorem length_lastN
    (n : Nat)
    (xs : List α) :
    (lastN n xs).length = min n xs.length := by
  simp only [lastN, List.length_drop]
  omega

theorem lastN_of_length_le
    {n : Nat}
    {xs : List α}
    (hShort : xs.length ≤ n) :
    lastN n xs = xs := by
  simp [lastN, Nat.sub_eq_zero_of_le hShort]

theorem lastN_suffix
    (n : Nat)
    (xs : List α) :
    lastN n xs <:+ xs :=
  List.drop_suffix _ _

/- Keeping the last elements twice keeps the fewer. -/
theorem lastN_lastN
    (m n : Nat)
    (xs : List α) :
    lastN m (lastN n xs) = lastN (min m n) xs := by
  simp only [lastN, List.drop_drop, List.length_drop]
  congr 1
  omega

/- There are no more to keep than all. -/
theorem lastN_min_length
    (n : Nat)
    (xs : List α) :
    lastN (min n xs.length) xs = lastN n xs := by
  simp only [lastN]
  congr 1
  omega

/- One more element, and one more of them is kept. -/
theorem lastN_concat
    (n : Nat)
    (xs : List α)
    (x : α) :
    lastN (n + 1) (xs ++ [x]) = lastN n xs ++ [x] := by
  have hStart :
      xs.length + 1 - (n + 1) ≤ xs.length := by omega
  simp only [lastN, List.length_append,
    List.length_singleton]
  rw [List.drop_append_of_le_length hStart]
  congr 2
  omega

/- An element before enough others is not kept. -/
theorem lastN_cons
    {n : Nat}
    {xs : List α}
    (x : α)
    (hEnough : n ≤ xs.length) :
    lastN n (x :: xs) = lastN n xs := by
  have hDrop :
      (x :: xs).length - n = (xs.length - n) + 1 := by
    rw [List.length_cons]
    omega
  rw [lastN, hDrop, List.drop_succ_cons, lastN]

theorem map_lastN
    (f : α → β)
    (n : Nat)
    (xs : List α) :
    (lastN n xs).map f = lastN n (xs.map f) := by
  simp [lastN, List.map_drop]

------------------------------------------------------------
-- Windows
------------------------------------------------------------

/- The cell after a cell. -/
def advance
    (size next : Nat) : Nat :=
  if size ≤ next + 1 then next + 1 - size else next + 1

theorem advance_lt
    {size next : Nat}
    (hNext : next < size) :
    advance size next < size := by
  unfold advance
  split <;> omega

/- What the last `count` writes left, oldest first. -/
def window
    (cells : List α)
    (next count : Nat) : List α :=
  lastN count (cells.rotate next)

/- Nothing was written. -/
theorem window_zero
    (cells : List α)
    (next : Nat) :
    window cells next 0 = [] := by
  simp [window, lastN]

/- A write turns the oldest cell into the newest. -/
theorem rotate_set
    {cells : List α}
    {next : Nat}
    (x : α)
    (hNext : next < cells.length) :
    (cells.set next x).rotate (advance cells.length next) =
      (cells.rotate next).tail ++ [x] := by
  have hAdvance :
      (cells.set next x).rotate
          (advance cells.length next) =
        (cells.set next x).rotate (next + 1) := by
    unfold advance
    split
    · have hLast : next + 1 = (cells.set next x).length := by
        rw [List.length_set]
        omega
      rw [hLast, List.rotate_length, List.length_set,
        Nat.sub_self, List.rotate_zero]
    · rfl
  have hSize : next + 1 ≤ (cells.set next x).length := by
    rw [List.length_set]
    exact hNext
  rw [hAdvance, List.rotate_eq_drop_append_take hSize,
    List.rotate_eq_drop_append_take hNext.le,
    List.drop_set_of_lt (Nat.lt_succ_self next),
    List.take_succ_eq_append_getElem (by simpa using hNext),
    List.take_set_of_le (Nat.le_refl next),
    List.getElem_set_self, List.drop_eq_getElem_cons hNext,
    List.cons_append, List.tail_cons, List.append_assoc]

/-
  A write puts an element at the end of the window, which
  loses its first one when it fills the ring.
-/
theorem window_push
    {cells : List α}
    {next count : Nat}
    (x : α)
    (hNext : next < cells.length) :
    window (cells.set next x) (advance cells.length next)
        (min (count + 1) cells.length) =
      lastN cells.length (window cells next count ++ [x]) := by
  have hRotated : (cells.rotate next).tail.length + 1 =
      cells.length := by
    rw [List.length_tail, List.length_rotate]
    omega
  have hCons :
      cells.rotate next =
        (cells.rotate next).head (by
          rw [Ne, List.rotate_eq_nil_iff]
          exact List.ne_nil_of_length_pos (by omega)) ::
        (cells.rotate next).tail :=
    (List.cons_head_tail _).symm
  calc window (cells.set next x)
        (advance cells.length next)
        (min (count + 1) cells.length)
      = lastN (min (count + 1) cells.length)
          ((cells.rotate next).tail ++ [x]) := by
        rw [window, rotate_set x hNext]
    _ = lastN (min (count + 1) cells.length)
          (cells.rotate next ++ [x]) := by
        rw [hCons, List.tail_cons, List.cons_append,
          lastN_cons]
        rw [List.length_append, List.length_singleton]
        omega
    _ = lastN cells.length
          (window cells next count ++ [x]) := by
        rw [window, ← lastN_concat, lastN_lastN, Nat.min_comm]

/- What the cell `back` before the next one holds. -/
theorem window_get
    {cells : List α}
    {next count back : Nat}
    (hNext : next < cells.length)
    (hCount : count ≤ cells.length)
    (hFirst : 1 ≤ back)
    (hBack : back ≤ count) :
    (window cells next count)[count - back]? =
      cells[if next < back then
        next + cells.length - back else next - back]? := by
  have hIndex :
      cells.length - count + (count - back) =
        cells.length - back := by omega
  simp only [window, lastN, List.getElem?_drop,
    List.length_rotate, hIndex]
  rw [List.getElem?_rotate (by omega)]
  congr 1
  split
  · rw [Nat.mod_eq_of_lt (by omega)]
    omega
  · rw [Nat.mod_eq_sub_mod (by omega),
      Nat.mod_eq_of_lt (by omega)]
    omega

------------------------------------------------------------
-- Rings In Memory
------------------------------------------------------------

/-
  Of a list that was written around, the memory still holds
  what lies from an index on and was not overwritten.
-/
def Holds
    (memory : Nat → α)
    (size first : Nat)
    (xs : List α) : Prop :=
  ∀ j, first ≤ j → j < xs.length → xs.length ≤ j + size →
    xs[j]? = some (memory (j % size))

theorem holds_nil
    (memory : Nat → α)
    (size first : Nat) :
    Holds memory size first [] := by
  intro j _ hShort
  simp at hShort

/- Nothing has to be held from the end on. -/
theorem holds_length
    (memory : Nat → α)
    (size : Nat)
    (xs : List α) :
    Holds memory size xs.length xs := by
  intro j hFrom hShort
  omega

/- Cells that are still in the ring differ. -/
theorem mod_ne_of_near
    {size j n : Nat}
    (hBefore : j < n)
    (hNear : n < j + size) :
    j % size ≠ n % size := by
  intro hSame
  have hDvd : size ∣ n - j :=
    Nat.dvd_of_mod_eq_zero
      (Nat.sub_mod_eq_zero_of_mod_eq hSame.symm)
  have hLe := Nat.le_of_dvd (by omega) hDvd
  omega

/- One more element is written in the next cell. -/
theorem Holds.push
    {memory : Nat → α}
    {size first : Nat}
    {xs : List α}
    (hHolds : Holds memory size first xs)
    (x : α) :
    Holds (Function.update memory (xs.length % size) x) size
      first (xs ++ [x]) := by
  intro j hFrom hShort hNear
  rw [List.length_append, List.length_singleton] at hShort hNear
  rcases Nat.lt_or_eq_of_le (Nat.le_of_lt_succ hShort)
    with hOld | hNew
  · have hInside : xs.length < j + size := by omega
    have hOther := mod_ne_of_near hOld hInside
    rw [Function.update_of_ne hOther,
      List.getElem?_append_left hOld]
    exact hHolds j hFrom hOld (by omega)
  · subst hNew
    rw [Function.update_self, List.getElem?_concat_length]

/- What is held from an index on is held from a later one. -/
theorem Holds.mono
    {memory : Nat → α}
    {size first later : Nat}
    {xs : List α}
    (hHolds : Holds memory size first xs)
    (hLater : first ≤ later) :
    Holds memory size later xs := by
  intro j hFrom
  exact hHolds j (le_trans hLater hFrom)

/- Numbers in a row are all there are modulo their number. -/
theorem range'_mod_perm
    (start size : Nat) :
    ((List.range' start size).map (· % size)).Perm
      (List.range size) := by
  have hMod := Nat.multiset_Ico_map_mod start size
  rw [← Multiset.coe_eq_coe, ← Multiset.map_coe,
    Multiset.coe_range, ← hMod]
  simp [Multiset.Ico, Nat.Ico_eq_range']

/-
  If all of the last elements are held, they are what is in
  the cells.
-/
theorem Holds.perm_lastN
    {memory : Nat → α}
    {size first : Nat}
    {xs : List α}
    (hHolds : Holds memory size first xs)
    (hFirst : first = 0 ∨ first + size ≤ xs.length) :
    ((List.range (min size xs.length)).map memory).Perm
      (lastN size xs) := by
  have hCells :
      lastN size xs =
        ((List.range' (xs.length - size)
          (min size xs.length)).map (· % size)).map memory := by
    refine List.ext_getElem? fun i => ?_
    rw [lastN, List.getElem?_drop, List.map_map]
    by_cases hIn : i < min size xs.length
    · rw [hHolds (xs.length - size + i) (by omega) (by omega)
        (by omega)]
      simp [hIn]
    · rw [List.getElem?_eq_none (by omega),
        List.getElem?_eq_none (by simp; omega)]
  have hMod :
      ((List.range' (xs.length - size)
        (min size xs.length)).map (· % size)).Perm
          (List.range (min size xs.length)) := by
    by_cases hFull : size ≤ xs.length
    · rw [min_eq_left hFull]
      exact range'_mod_perm _ _
    · have hAll : xs.length - size = 0 := by omega
      rw [min_eq_right (by omega), hAll, ← List.range_eq_range']
      refine List.Perm.of_eq ?_
      calc (List.range xs.length).map (· % size)
          = (List.range xs.length).map id := by
            refine List.map_congr_left fun j hIn => ?_
            rw [List.mem_range] at hIn
            exact Nat.mod_eq_of_lt (by omega)
        _ = List.range xs.length := List.map_id _
  rw [hCells]
  exact hMod.symm.map memory

end RingBuffer
