import Mathlib.Data.List.Basic
import Mathlib.Data.List.TakeDrop
import Mathlib.Algebra.Ring.Int.Defs
import Mathlib.Algebra.Ring.Nat

/-
  Byte sequences: fixed-width big-endian numbers, and the
  effect of copying a block into a buffer.

  Key definitions include:
    * `ByteSeq.be16`, `ByteSeq.ofBe16`
    * `ByteSeq.be32`, `ByteSeq.ofBe32`
    * `ByteSeq.slice`
    * `ByteSeq.overlay`

  Key theorems include:
    * `ByteSeq.ofBe32_be32`
    * `ByteSeq.getElem?_slice`
    * `ByteSeq.length_overlay`
    * `ByteSeq.getElem?_overlay`
-/

------------------------------------------------------------
-- Big-Endian Words
------------------------------------------------------------

namespace ByteSeq

/- The two bytes of a short, most significant first. -/
def be16 (short : UInt16) : List UInt8 :=
  [UInt8.ofNat (short.toNat / 2 ^ 8),
   UInt8.ofNat short.toNat]

/- The short whose bytes, most significant first, are given. -/
def ofBe16 (b₀ b₁ : UInt8) : UInt16 :=
  UInt16.ofNat (b₀.toNat * 2 ^ 8 + b₁.toNat)

@[simp] theorem length_be16
    (short : UInt16) :
    (be16 short).length = 2 := rfl

/- Splitting a short into bytes loses nothing. -/
theorem ofBe16_be16
    (short : UInt16) :
    ofBe16
        (UInt8.ofNat (short.toNat / 2 ^ 8))
        (UInt8.ofNat short.toNat) = short := by
  apply UInt16.toNat_inj.mp
  simp only [ofBe16, UInt16.toNat_ofNat', UInt8.toNat_ofNat']
  have hBound := short.toNat_lt
  omega

/- The four bytes of a word, most significant first. -/
def be32 (word : UInt32) : List UInt8 :=
  [UInt8.ofNat (word.toNat / 2 ^ 24),
   UInt8.ofNat (word.toNat / 2 ^ 16),
   UInt8.ofNat (word.toNat / 2 ^ 8),
   UInt8.ofNat word.toNat]

/- The word whose bytes, most significant first, are given. -/
def ofBe32 (b₀ b₁ b₂ b₃ : UInt8) : UInt32 :=
  UInt32.ofNat
    (b₀.toNat * 2 ^ 24 + b₁.toNat * 2 ^ 16 +
      b₂.toNat * 2 ^ 8 + b₃.toNat)

@[simp] theorem length_be32
    (word : UInt32) :
    (be32 word).length = 4 := rfl

/- Splitting a word into bytes loses nothing. -/
theorem ofBe32_be32
    (word : UInt32) :
    ofBe32
        (UInt8.ofNat (word.toNat / 2 ^ 24))
        (UInt8.ofNat (word.toNat / 2 ^ 16))
        (UInt8.ofNat (word.toNat / 2 ^ 8))
        (UInt8.ofNat word.toNat) = word := by
  apply UInt32.toNat_inj.mp
  simp only [ofBe32, UInt32.toNat_ofNat', UInt8.toNat_ofNat']
  have hBound := word.toNat_lt
  omega

------------------------------------------------------------
-- Slices
------------------------------------------------------------

variable {α : Type}

/- The `count` elements from position `start`. -/
def slice
    (l : List α)
    (start count : Nat) : List α :=
  (l.drop start).take count

theorem length_slice
    {l : List α}
    {start count : Nat}
    (hFits : start + count ≤ l.length) :
    (slice l start count).length = count := by
  simp only [slice, List.length_take, List.length_drop]
  omega

theorem getElem?_slice
    (l : List α)
    (start count k : Nat) :
    (slice l start count)[k]? =
      if k < count then l[start + k]? else none := by
  unfold slice
  split
  · rename_i hLt
    rw [List.getElem?_take_of_lt hLt, List.getElem?_drop]
  · rename_i hGe
    exact List.getElem?_take_eq_none (by omega)

------------------------------------------------------------
-- Copying Into A Buffer
------------------------------------------------------------

/-
  The buffer after `block` has been copied to position
  `start`.
-/
def overlay
    (buffer : List α)
    (start : Nat)
    (block : List α) : List α :=
  buffer.take start ++ block ++
    buffer.drop (start + block.length)

@[simp] theorem length_overlay
    {buffer block : List α}
    {start : Nat}
    (hFits : start + block.length ≤ buffer.length) :
    (overlay buffer start block).length = buffer.length := by
  simp only [overlay, List.length_append, List.length_take,
    List.length_drop]
  omega

/-
  A copy changes the positions it covers and no other.
-/
theorem getElem?_overlay
    {buffer block : List α}
    {start : Nat}
    (hFits : start + block.length ≤ buffer.length)
    (k : Nat) :
    (overlay buffer start block)[k]? =
      if start ≤ k ∧ k < start + block.length then
        block[k - start]?
      else
        buffer[k]? := by
  have hTake : (buffer.take start).length = start := by
    rw [List.length_take]
    omega
  unfold overlay
  split
  · rename_i hIn
    rw [List.append_assoc,
      List.getElem?_append_right (by omega), hTake,
      List.getElem?_append_left (by omega)]
  · rename_i hOut
    by_cases hBefore : k < start
    · rw [List.append_assoc,
        List.getElem?_append_left (by omega),
        List.getElem?_take_of_lt hBefore]
    · have hAfter : start + block.length ≤ k := by omega
      rw [List.getElem?_append_right
          (by rw [List.length_append]; omega),
        List.length_append, hTake, List.getElem?_drop]
      congr 1
      omega

/- A copy to the start comes first in the buffer. -/
theorem overlay_zero
    (buffer block : List α) :
    overlay buffer 0 block =
      block ++ buffer.drop block.length := by
  simp [overlay]

/- Copying nothing changes nothing. -/
@[simp] theorem overlay_nil
    (buffer : List α)
    (start : Nat) :
    overlay buffer start [] = buffer := by
  simp [overlay]

end ByteSeq
