import Mathlib.Data.List.Basic
import Mathlib.Data.List.TakeWhile

/-
  Arrays that hold a text up to a stop character.

  The array has a fixed number of cells, and what lies behind
  the stop character is not part of the text.  Copying and
  appending have no result where they would write behind the
  array, or where there is no stop character to find.

  Key definitions include:
    * `TextBuffer.text`
    * `TextBuffer.copy`, `TextBuffer.append`

  Key theorems include:
    * `TextBuffer.copy_spec`
    * `TextBuffer.append_spec`
-/

------------------------------------------------------------
-- Buffers
------------------------------------------------------------

/- An array of `n` cells. -/
structure TextBuffer (α : Type) (n : Nat) where
  cells : List α
  length_cells : cells.length = n

namespace TextBuffer

variable {α : Type}
variable [DecidableEq α]
variable {n : Nat}
variable (stop : α)

/- The text in the array, if it ends. -/
def text (b : TextBuffer α n) : Option (List α) :=
  if stop ∈ b.cells then
    some (b.cells.takeWhile (fun c => c ≠ stop))
  else
    none

/- Write a text and its stop character from a cell on. -/
def put
    (b : TextBuffer α n)
    (i : Nat)
    (s : List α) : Option (TextBuffer α n) :=
  if hFits : i + s.length < n then
    some
      { cells :=
          b.cells.take i ++ s ++
            stop :: b.cells.drop (i + s.length + 1)
        length_cells := by
          have hLength := b.length_cells
          simp only [List.length_append, List.length_take,
            List.length_cons, List.length_drop]
          omega }
  else
    none

/- Write a text at the start. -/
def copy
    (b : TextBuffer α n)
    (s : List α) : Option (TextBuffer α n) :=
  b.put stop 0 s

/- Write a text behind the text there is. -/
def append
    (b : TextBuffer α n)
    (s : List α) : Option (TextBuffer α n) :=
  match b.text stop with
  | none => none
  | some t => b.put stop t.length s

------------------------------------------------------------
-- Rules
------------------------------------------------------------

variable {stop}

/- The text before a stop character that was just written. -/
theorem text_eq_of_cells
    {b : TextBuffer α n}
    {t rest : List α}
    (hCells : b.cells = t ++ stop :: rest)
    (hText : stop ∉ t) :
    b.text stop = some t := by
  have hWhile :
      (t ++ stop :: rest).takeWhile (fun c => c ≠ stop) =
        t := by
    rw [List.takeWhile_append_of_pos]
    · simp
    · intro c hMem
      have hNe : c ≠ stop := by
        rintro rfl
        exact hText hMem
      simpa using hNe
  unfold text
  rw [hCells, if_pos (by simp), hWhile]

/- A text that is found stands at the start of the array. -/
theorem take_of_text
    {b : TextBuffer α n}
    {t : List α}
    (hText : b.text stop = some t) :
    b.cells.take t.length = t ∧ stop ∉ t := by
  unfold text at hText
  split at hText
  · cases hText
    constructor
    · exact
        (List.prefix_iff_eq_take.mp
          (List.takeWhile_prefix _)).symm
    · intro hMem
      have hNe := List.mem_takeWhile_imp hMem
      simp at hNe
  · cases hText

/- A text that fits is there after it was copied. -/
theorem copy_spec
    (b : TextBuffer α n)
    {s : List α}
    (hStop : stop ∉ s)
    (hFits : s.length < n) :
    ∃ b' : TextBuffer α n,
      b.copy stop s = some b' ∧ b'.text stop = some s := by
  unfold copy put
  rw [dif_pos (by omega)]
  exact ⟨_, rfl, text_eq_of_cells rfl hStop⟩

/- A text that fits stands behind the text there was. -/
theorem append_spec
    {b : TextBuffer α n}
    {t s : List α}
    (hText : b.text stop = some t)
    (hStop : stop ∉ s)
    (hFits : t.length + s.length < n) :
    ∃ b' : TextBuffer α n,
      b.append stop s = some b' ∧
        b'.text stop = some (t ++ s) := by
  rcases take_of_text hText with ⟨hTake, hNot⟩
  unfold append put
  simp only [hText]
  rw [dif_pos hFits]
  have hBoth : stop ∉ t ++ s := by
    simp [hNot, hStop]
  refine ⟨_, rfl, ?_⟩
  simp only [hTake]
  exact text_eq_of_cells rfl hBoth

/- What was copied has fitted, and is the text now. -/
theorem text_of_copy
    {b b' : TextBuffer α n}
    {s : List α}
    (hCopy : b.copy stop s = some b')
    (hStop : stop ∉ s) :
    b'.text stop = some s := by
  have hFits : s.length < n := by
    unfold copy put at hCopy
    split at hCopy
    · omega
    · cases hCopy
  rcases b.copy_spec hStop hFits with ⟨other, hOther, hText⟩
  rw [hCopy] at hOther
  cases hOther
  exact hText

/- What was appended has fitted, and stands at the end. -/
theorem text_of_append
    {b b' : TextBuffer α n}
    {t s : List α}
    (hAppend : b.append stop s = some b')
    (hText : b.text stop = some t)
    (hStop : stop ∉ s) :
    b'.text stop = some (t ++ s) := by
  have hFits : t.length + s.length < n := by
    unfold append put at hAppend
    simp only [hText] at hAppend
    split at hAppend
    · assumption
    · cases hAppend
  rcases append_spec hText hStop hFits with
    ⟨other, hOther, hBoth⟩
  rw [hAppend] at hOther
  cases hOther
  exact hBoth

end TextBuffer
