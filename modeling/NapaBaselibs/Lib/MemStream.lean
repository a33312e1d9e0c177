import Mathlib.Data.List.Basic
import Mathlib.Data.List.Induction
import Mathlib.Data.List.TakeWhile

/-
  A stream over memory that grows, as `open_memstream` gives
  one: a buffer, its length, and a position that a write
  moves.  Going back to the start keeps the buffer, so a
  write replaces a prefix of it.

  Key definitions include:
    * `MemStream`, `MemStream.write`, `MemStream.rewind`
    * `MemStream.string`
    * `MemStream.overwritten`, `MemStream.standing`

  Key theorems include:
    * `MemStream.write_write`
    * `MemStream.getElem?_overwritten`
    * `MemStream.drop_overwritten_eq_nil`
-/

------------------------------------------------------------
-- Streams
------------------------------------------------------------

/- The bytes up to the current length, and the position. -/
@[ext] structure MemStream (α : Type) where
  buffer : List α
  position : Nat
  position_le : position ≤ buffer.length

namespace MemStream

variable {α : Type}

/- A stream that was just opened. -/
def opened : MemStream α where
  buffer := []
  position := 0
  position_le := Nat.le_refl 0

/- Back to the start; nothing is cut off. -/
def rewind (s : MemStream α) : MemStream α where
  buffer := s.buffer
  position := 0
  position_le := Nat.zero_le _

/- A write at the position. -/
def write
    (s : MemStream α)
    (text : List α) : MemStream α where
  buffer :=
    s.buffer.take s.position ++ text ++
      s.buffer.drop (s.position + text.length)
  position := s.position + text.length
  position_le := by
    have hLe := s.position_le
    simp only [List.length_append, List.length_take]
    omega

/-
  The string at the start of the memory, in which a zero
  stands behind the current length.
-/
def string
    [DecidableEq α]
    (zero : α)
    (s : MemStream α) : List α :=
  (s.buffer ++ [zero]).takeWhile (fun a => a ≠ zero)

@[simp] theorem buffer_opened :
    (opened : MemStream α).buffer = [] := rfl

@[simp] theorem buffer_rewind (s : MemStream α) :
    s.rewind.buffer = s.buffer := rfl

/- Two writes are one write of both texts. -/
theorem write_write
    (s : MemStream α)
    (text₁ text₂ : List α) :
    (s.write text₁).write text₂ =
      s.write (text₁ ++ text₂) := by
  have hLe := s.position_le
  have hFront :
      (s.buffer.take s.position ++ text₁).length =
        s.position + text₁.length := by
    rw [List.length_append, List.length_take,
      Nat.min_eq_left hLe]
  have hTake :
      (s.buffer.take s.position ++ text₁ ++
          s.buffer.drop (s.position + text₁.length)).take
          (s.position + text₁.length) =
        s.buffer.take s.position ++ text₁ := by
    rw [← hFront]
    exact List.take_left
  have hDrop :
      (s.buffer.take s.position ++ text₁ ++
          s.buffer.drop (s.position + text₁.length)).drop
          (s.position + text₁.length + text₂.length) =
        s.buffer.drop
          (s.position + (text₁ ++ text₂).length) := by
    rw [List.drop_append, hFront,
      List.drop_eq_nil_of_le (by omega), List.nil_append,
      List.drop_drop, List.length_append]
    congr 1
    omega
  have hBuffer :
      ((s.write text₁).write text₂).buffer =
        (s.write (text₁ ++ text₂)).buffer := by
    simp only [write]
    rw [hTake, hDrop]
    simp only [List.append_assoc]
  have hPosition :
      ((s.write text₁).write text₂).position =
        (s.write (text₁ ++ text₂)).position := by
    simp only [write, List.length_append]
    omega
  exact MemStream.ext hBuffer hPosition

/- From the start, a write replaces a prefix. -/
theorem buffer_rewind_write
    (s : MemStream α)
    (text : List α) :
    (s.rewind.write text).buffer =
      text ++ s.buffer.drop text.length := by
  simp only [write, rewind, List.take_zero, List.nil_append,
    Nat.zero_add]

/- A text written from the start begins the string. -/
theorem prefix_string_rewind_write
    [DecidableEq α]
    {zero : α}
    {text : List α}
    (s : MemStream α)
    (hZero : zero ∉ text) :
    text <+: (s.rewind.write text).string zero := by
  have hText : ∀ a ∈ text, decide (a ≠ zero) = true := by
    intro a hMem
    rw [decide_eq_true_eq]
    rintro rfl
    exact hZero hMem
  unfold string
  rw [buffer_rewind_write, List.append_assoc,
    List.takeWhile_append_of_pos hText]
  exact List.prefix_append _ _

/- Without zeros in it, the string is the whole buffer. -/
theorem string_eq
    [DecidableEq α]
    {zero : α}
    {s : MemStream α}
    (hZero : zero ∉ s.buffer) :
    s.string zero = s.buffer := by
  have hBuffer :
      ∀ a ∈ s.buffer, decide (a ≠ zero) = true := by
    intro a hMem
    refine decide_eq_true ?_
    rintro rfl
    exact hZero hMem
  unfold string
  rw [List.takeWhile_append_of_pos hBuffer]
  simp

------------------------------------------------------------
-- Texts Over One Another
------------------------------------------------------------

/- The buffer after each text was written from the start. -/
def overwritten (texts : List (List α)) : List α :=
  texts.foldl (fun old text => text ++ old.drop text.length)
    []

/- What the last text that is long enough has there. -/
def standing
    (texts : List (List α))
    (position : Nat) : Option α :=
  (texts.reverse.find? (fun text => position < text.length)).bind
    (fun text => text[position]?)

theorem overwritten_concat
    (texts : List (List α))
    (text : List α) :
    overwritten (texts ++ [text]) =
      text ++ (overwritten texts).drop text.length := by
  unfold overwritten
  rw [List.foldl_append]
  rfl

/- A text hides what was there before, as far as it goes. -/
theorem standing_concat
    (texts : List (List α))
    (text : List α)
    (position : Nat) :
    standing (texts ++ [text]) position =
      if position < text.length then text[position]?
      else standing texts position := by
  unfold standing
  rw [List.reverse_append, List.reverse_singleton,
    List.singleton_append, List.find?_cons]
  by_cases hLt : position < text.length
  · simp [hLt]
  · simp [hLt]

theorem getElem?_overwritten
    (texts : List (List α))
    (position : Nat) :
    (overwritten texts)[position]? =
      standing texts position := by
  induction texts using List.reverseRecOn with
  | nil => rfl
  | append_singleton texts text ih =>
      rw [overwritten_concat, standing_concat,
        List.getElem?_append, ← ih]
      split
      · rfl
      · rename_i hLt
        rw [List.getElem?_drop]
        congr 1
        omega

/- The buffer is as long as the longest text. -/
theorem length_overwritten_le_iff
    (texts : List (List α))
    (n : Nat) :
    (overwritten texts).length ≤ n ↔
      ∀ text ∈ texts, text.length ≤ n := by
  induction texts using List.reverseRecOn with
  | nil => simp [overwritten]
  | append_singleton texts text ih =>
      rw [overwritten_concat, List.length_append,
        List.length_drop]
      simp only [List.mem_append, List.mem_singleton]
      constructor
      · intro hLe other hMem
        rcases hMem with hMem | rfl
        · refine ih.mp ?_ other hMem
          omega
        · omega
      · intro hAll
        have hTexts :=
          ih.mpr (fun other hMem => hAll other (.inl hMem))
        have hText := hAll text (.inr rfl)
        omega

/- Nothing stands behind the end of no longer text. -/
theorem drop_overwritten_eq_nil
    (texts : List (List α))
    (n : Nat) :
    (overwritten texts).drop n = [] ↔
      ∀ text ∈ texts, text.length ≤ n := by
  rw [List.drop_eq_nil_iff, length_overwritten_le_iff]

/- What is left of two buffers, position by position. -/
theorem drop_overwritten_eq_iff
    (texts₁ texts₂ : List (List α))
    (n : Nat) :
    (overwritten texts₁).drop n =
        (overwritten texts₂).drop n ↔
      ∀ position, n ≤ position →
        standing texts₁ position = standing texts₂ position := by
  constructor
  · intro hEq position hLe
    rw [← getElem?_overwritten, ← getElem?_overwritten]
    have hAt :=
      congrArg (fun l => l[position - n]?) hEq
    simp only [List.getElem?_drop] at hAt
    rwa [Nat.add_sub_cancel' hLe] at hAt
  · intro hAll
    apply List.ext_getElem?
    intro i
    rw [List.getElem?_drop, List.getElem?_drop,
      getElem?_overwritten, getElem?_overwritten]
    exact hAll (n + i) (Nat.le_add_right n i)

/- All that was ever in the buffer came from a text. -/
theorem mem_overwritten
    {texts : List (List α)}
    {a : α}
    (hMem : a ∈ overwritten texts) :
    ∃ text ∈ texts, a ∈ text := by
  induction texts using List.reverseRecOn with
  | nil => cases hMem
  | append_singleton texts text ih =>
      rw [overwritten_concat, List.mem_append] at hMem
      rcases hMem with hMem | hMem
      · exact
          ⟨text, List.mem_append_right _
            (List.mem_singleton.mpr rfl), hMem⟩
      · rcases ih (List.mem_of_mem_drop hMem) with
          ⟨other, hOther, hIn⟩
        exact ⟨other, List.mem_append_left _ hOther, hIn⟩

end MemStream
