import NapaBaselibs.ML.Sample
import Mathlib.Tactic.IntervalCases

/-
  `mlSendAllData`: up to five buffers sent as one message.

  Each buffer is copied to the position that is the length of
  the buffer before it, which is the running sum of the
  lengths only for the first two.

  Key definitions include:
    * `SendAllDataContainer`, `sendAllMessage`
    * `mlSendAllData`
    * `copyAll`, `Aligned`

  Key theorems include:
    * `copyAll_eq_flatten_iff`
    * `mlSendAllData_concatenates_iff`
-/

------------------------------------------------------------
-- The Function
------------------------------------------------------------

namespace NapaBaselibs

namespace ML

variable {σ α : Type}

/-
  `send_all_data_container`: the bytes that each buffer and
  its length, which is not negative, stand for.
-/
structure SendAllDataContainer where
  buffer₁ : List UInt8
  buffer₂ : List UInt8
  buffer₃ : List UInt8
  buffer₄ : List UInt8
  buffer₅ : List UInt8

namespace SendAllDataContainer

def length₁ (c : SendAllDataContainer) : Nat :=
  c.buffer₁.length

def length₂ (c : SendAllDataContainer) : Nat :=
  c.buffer₂.length

def length₃ (c : SendAllDataContainer) : Nat :=
  c.buffer₃.length

def length₄ (c : SendAllDataContainer) : Nat :=
  c.buffer₄.length

def length₅ (c : SendAllDataContainer) : Nat :=
  c.buffer₅.length

/- The buffers that a number of entries stands for. -/
def buffers
    (c : SendAllDataContainer)
    (nrEntries : Nat) : List (List UInt8) :=
  [c.buffer₁, c.buffer₂, c.buffer₃, c.buffer₄,
    c.buffer₅].take nrEntries

end SendAllDataContainer

/-
  The local array of `buflen` bytes, with what lies on the
  stack in it.  Its length is an `int`.
-/
def localBuf
    (stack : Nat → UInt8)
    (buflen : Nat) : Except Fault (List UInt8) :=
  if buflen < 2 ^ 31 then
    .ok ((List.range buflen).map stack)
  else
    .error .intOverflow

/- `memcpy` to a position of the local array. -/
def copyTo
    (buf : List UInt8)
    (start : Nat)
    (block : List UInt8) : Except Fault (List UInt8) :=
  if start + block.length ≤ buf.length then
    .ok (ByteSeq.overlay buf start block)
  else
    .error .copyWrite

/- The message that is handed to `mlSendData`. -/
def sendAllMessage
    (c : SendAllDataContainer)
    (nrEntries : Nat)
    (stack : Nat → UInt8) : Except Fault (List UInt8) :=
  if nrEntries = 1 then
    .ok c.buffer₁
  else if nrEntries = 2 then do
    let buf ← localBuf stack (c.length₁ + c.length₂)
    let buf ← copyTo buf 0 c.buffer₁
    copyTo buf c.length₁ c.buffer₂
  else if nrEntries = 3 then do
    let buf ←
      localBuf stack (c.length₁ + c.length₂ + c.length₃)
    let buf ← copyTo buf 0 c.buffer₁
    let buf ← copyTo buf c.length₁ c.buffer₂
    copyTo buf c.length₂ c.buffer₃
  else if nrEntries = 4 then do
    let buf ←
      localBuf stack
        (c.length₁ + c.length₂ + c.length₃ + c.length₄)
    let buf ← copyTo buf 0 c.buffer₁
    let buf ← copyTo buf c.length₁ c.buffer₂
    let buf ← copyTo buf c.length₂ c.buffer₃
    copyTo buf c.length₃ c.buffer₄
  else do
    let buf ←
      localBuf stack
        (c.length₁ + c.length₂ + c.length₃ + c.length₄ +
          c.length₅)
    let buf ← copyTo buf 0 c.buffer₁
    let buf ← copyTo buf c.length₁ c.buffer₂
    let buf ← copyTo buf c.length₂ c.buffer₃
    let buf ← copyTo buf c.length₃ c.buffer₄
    copyTo buf c.length₄ c.buffer₅

/-
  `mlSendAllData`.  The first component of the result is what
  it returns.
-/
def mlSendAllData
    (T : Transport σ α)
    (input : SendInput α)
    (s : Endpoint σ)
    (connectionID : Int)
    (c : SendAllDataContainer)
    (nrEntries : Int)
    (msgtype : UInt8)
    (stack : Nat → UInt8) :
    Except Fault (Int × Endpoint σ × List Output) :=
  if nrEntries < 1 ∨ nrEntries > 5 then
    .ok (0, s, [])
  else
    match sendAllMessage c nrEntries.toNat stack with
    | .error fault => .error fault
    | .ok buf =>
        match mlSendData T input s connectionID buf buf.length
            msgtype with
        | .error fault => .error fault
        | .ok (s', outputs) => .ok (1, s', outputs)

------------------------------------------------------------
-- Copying Blocks
------------------------------------------------------------

/-
  Copy blocks into a buffer, each to the position that is the
  length of the block before it.
-/
def copyAll :
    List UInt8 → Nat → List (List UInt8) → List UInt8
| buf, _, [] => buf
| buf, start, block :: rest =>
    copyAll (ByteSeq.overlay buf start block) block.length
      rest

/-
  Every block is empty or has nothing in front of the block
  before it, of which the length is given; `skipped` bytes
  are in front of that one.
-/
def Aligned : Nat → Nat → List (List UInt8) → Prop
| _, _, [] => True
| skipped, before, block :: rest =>
    (block = [] ∨ skipped = 0) ∧
      Aligned (skipped + before) block.length rest

/- Aligned blocks are copied behind each other. -/
theorem copyAll_of_aligned
    {skipped before : Nat}
    {blocks : List (List UInt8)}
    (hAligned : Aligned skipped before blocks)
    {done tail : List UInt8}
    (hDone : done.length = skipped + before)
    (hRoom : blocks.flatten.length ≤ tail.length) :
    copyAll (done ++ tail) before blocks =
      done ++ blocks.flatten ++
        tail.drop blocks.flatten.length := by
  induction blocks generalizing skipped before done tail with
  | nil => simp [copyAll]
  | cons block rest ih =>
      rcases hAligned with ⟨hBlock, hRest⟩
      have hFlat :
          (block :: rest).flatten.length =
            block.length + rest.flatten.length := by
        rw [List.flatten_cons, List.length_append]
      have hNext :
          ByteSeq.overlay (done ++ tail) before block =
            done ++ block ++ tail.drop block.length := by
        rcases hBlock with rfl | hNone
        · simp
        · have hStart : before = done.length := by omega
          rw [hStart, ByteSeq.overlay, List.take_left,
            List.drop_append]
          simp
      rw [copyAll, hNext,
        ih hRest (by rw [List.length_append]; omega)
          (by rw [List.length_drop]; omega),
        List.drop_drop, hFlat, List.flatten_cons,
        List.append_assoc, List.append_assoc,
        List.append_assoc, List.append_assoc]

/- Behind the copies the buffer is as it was. -/
theorem getElem?_copyAll
    {buf : List UInt8}
    {start i : Nat}
    {blocks : List (List UInt8)}
    (hBehind : start + blocks.flatten.length ≤ i)
    (hRoom : i < buf.length) :
    (copyAll buf start blocks)[i]? = buf[i]? := by
  induction blocks generalizing buf start with
  | nil => rfl
  | cons block rest ih =>
      rw [List.flatten_cons, List.length_append] at hBehind
      have hFits : start + block.length ≤ buf.length := by
        omega
      rw [copyAll,
        ih (by omega)
          (by rw [ByteSeq.length_overlay hFits]; exact hRoom),
        ByteSeq.getElem?_overlay hFits, if_neg (by omega)]

/- Blocks that are not aligned are not all empty. -/
theorem pos_of_not_aligned
    {skipped before : Nat}
    {blocks : List (List UInt8)}
    (hNot : ¬ Aligned skipped before blocks) :
    0 < blocks.flatten.length := by
  induction blocks generalizing skipped before with
  | nil => exact absurd trivial hNot
  | cons block rest ih =>
      rw [List.flatten_cons, List.length_append]
      by_cases hBlock : block = []
      · have hRest :
            ¬ Aligned (skipped + before) block.length rest :=
          fun hAll => hNot ⟨Or.inl hBlock, hAll⟩
        have hPos := ih hRest
        omega
      · have hPos := List.length_pos_iff.mpr hBlock
        omega

/- Of blocks that are not aligned none gets to the end. -/
theorem getElem?_copyAll_of_not_aligned
    {skipped before : Nat}
    {blocks : List (List UInt8)}
    (hNot : ¬ Aligned skipped before blocks)
    {buf : List UInt8}
    (hRoom :
      skipped + before + blocks.flatten.length ≤
        buf.length) :
    (copyAll buf before blocks)[
        skipped + before + blocks.flatten.length - 1]? =
      buf[skipped + before +
        blocks.flatten.length - 1]? := by
  induction blocks generalizing skipped before buf with
  | nil => exact absurd trivial hNot
  | cons block rest ih =>
      have hFlat :
          (block :: rest).flatten.length =
            block.length + rest.flatten.length := by
        rw [List.flatten_cons, List.length_append]
      by_cases hBlock : block = [] ∨ skipped = 0
      · have hRest :
            ¬ Aligned (skipped + before) block.length rest :=
          fun hAll => hNot ⟨hBlock, hAll⟩
        have hPos := pos_of_not_aligned hRest
        have hFits : before + block.length ≤ buf.length := by
          omega
        have hSame :
            skipped + before + (block :: rest).flatten.length =
              skipped + before + block.length +
                rest.flatten.length := by
          omega
        rw [copyAll, hSame,
          ih hRest
            (by rw [ByteSeq.length_overlay hFits]; omega),
          ByteSeq.getElem?_overlay hFits,
          if_neg (by omega)]
      · rw [not_or] at hBlock
        have hPos := List.length_pos_iff.mpr hBlock.1
        exact getElem?_copyAll (by omega) (by omega)

/-
  Whatever the buffer held before, the copies make the
  concatenation exactly when the blocks are aligned.
-/
theorem copyAll_eq_flatten_iff
    (blocks : List (List UInt8)) :
    (∀ buf : List UInt8,
        buf.length = blocks.flatten.length →
          copyAll buf 0 blocks = blocks.flatten) ↔
      Aligned 0 0 blocks := by
  constructor
  · intro hAll
    by_contra hNot
    have hPos := pos_of_not_aligned hNot
    have hLength :
        (blocks.flatten.map (· + 1)).length =
          blocks.flatten.length :=
      List.length_map _
    have hLast :=
      @getElem?_copyAll_of_not_aligned 0 0 blocks hNot
        (blocks.flatten.map (· + 1)) (by omega)
    rw [hAll _ hLength, List.getElem?_map,
      List.getElem?_eq_getElem (by omega)] at hLast
    simp at hLast
  · intro hAligned buf hLength
    have hCopied :=
      @copyAll_of_aligned 0 0 blocks hAligned [] buf rfl
        (by omega)
    rw [List.drop_eq_nil_of_le (by omega)] at hCopied
    simpa using hCopied

------------------------------------------------------------
-- The Message
------------------------------------------------------------

/- The copies of the source, one after the other. -/
def copyBlocks :
    List UInt8 → Nat → List (List UInt8) →
      Except Fault (List UInt8)
| buf, _, [] => pure buf
| buf, start, block :: rest => do
    let buf ← copyTo buf start block
    copyBlocks buf block.length rest

/- No copy leaves a buffer with room for all blocks. -/
theorem copyBlocks_eq
    {buf : List UInt8}
    {start : Nat}
    {blocks : List (List UInt8)}
    (hRoom : start + blocks.flatten.length ≤ buf.length) :
    copyBlocks buf start blocks =
      .ok (copyAll buf start blocks) := by
  induction blocks generalizing buf start with
  | nil => rfl
  | cons block rest ih =>
      rw [List.flatten_cons, List.length_append] at hRoom
      have hFits : start + block.length ≤ buf.length := by
        omega
      rw [copyBlocks, copyTo, if_pos hFits, copyAll]
      exact
        ih (by rw [ByteSeq.length_overlay hFits]; omega)

/- The five branches make the same copies. -/
theorem sendAllMessage_eq
    (c : SendAllDataContainer)
    {nrEntries : Nat}
    (hLow : 1 ≤ nrEntries)
    (hHigh : nrEntries ≤ 5)
    (stack : Nat → UInt8) :
    sendAllMessage c nrEntries stack =
      if nrEntries = 1 then
        .ok c.buffer₁
      else
        localBuf stack
            (c.buffers nrEntries).flatten.length >>=
          fun buf => copyBlocks buf 0 (c.buffers nrEntries)
    := by
  unfold sendAllMessage SendAllDataContainer.buffers
    SendAllDataContainer.length₁ SendAllDataContainer.length₂
    SendAllDataContainer.length₃ SendAllDataContainer.length₄
    SendAllDataContainer.length₅
  interval_cases nrEntries <;>
    simp [copyBlocks, Nat.add_assoc]

/- The lengths for which the copies adjoin each other. -/
def SendAllDataContainer.Adjoins
    (c : SendAllDataContainer)
    (nrEntries : Nat) : Prop :=
  (3 ≤ nrEntries → c.length₃ = 0 ∨ c.length₁ = 0) ∧
    (4 ≤ nrEntries →
      c.length₄ = 0 ∨ c.length₁ + c.length₂ = 0) ∧
    (5 ≤ nrEntries →
      c.length₅ = 0 ∨
        c.length₁ + c.length₂ + c.length₃ = 0)

instance
    (c : SendAllDataContainer)
    (nrEntries : Nat) :
    Decidable (c.Adjoins nrEntries) :=
  inferInstanceAs (Decidable (_ ∧ _))

theorem aligned_buffers_iff
    (c : SendAllDataContainer)
    {nrEntries : Nat}
    (hHigh : nrEntries ≤ 5) :
    Aligned 0 0 (c.buffers nrEntries) ↔
      c.Adjoins nrEntries := by
  unfold SendAllDataContainer.buffers
    SendAllDataContainer.Adjoins
    SendAllDataContainer.length₁ SendAllDataContainer.length₂
    SendAllDataContainer.length₃ SendAllDataContainer.length₄
    SendAllDataContainer.length₅
  interval_cases nrEntries <;>
    simp [Aligned, List.length_eq_zero_iff]

/- The branches with an array, by the length of the message. -/
theorem sendAllMessage_cases
    (c : SendAllDataContainer)
    {nrEntries : Nat}
    (hLow : 2 ≤ nrEntries)
    (hHigh : nrEntries ≤ 5)
    (stack : Nat → UInt8) :
    sendAllMessage c nrEntries stack =
      if (c.buffers nrEntries).flatten.length < 2 ^ 31 then
        .ok
          (copyAll
            ((List.range
              (c.buffers nrEntries).flatten.length).map stack)
            0 (c.buffers nrEntries))
      else
        .error .intOverflow := by
  rw [sendAllMessage_eq c (by omega) hHigh,
    if_neg (by omega)]
  unfold localBuf
  split
  · exact
      copyBlocks_eq
        (by rw [List.length_map, List.length_range]; omega)
  · rfl

/- Every content of the array can lie on the stack. -/
theorem exists_stack
    (buf : List UInt8) :
    ∃ stack : Nat → UInt8,
      (List.range buf.length).map stack = buf := by
  refine ⟨fun i => buf.getD i 0, ?_⟩
  apply List.ext_getElem?
  intro i
  by_cases hLt : i < buf.length
  · simp [hLt]
  · simp [hLt]

/-
  For one to five buffers, the message handed on is their
  concatenation, whatever lies on the stack, exactly when
  the array for it can be made and the copies adjoin each
  other.  No copy ever leaves the array.
-/
theorem mlSendAllData_concatenates_iff
    (T : Transport σ α)
    (c : SendAllDataContainer)
    {nrEntries : Nat}
    (hLow : 1 ≤ nrEntries)
    (hHigh : nrEntries ≤ 5) :
    ((∀ stack,
        sendAllMessage c nrEntries stack =
          .ok (c.buffers nrEntries).flatten) ↔
      (nrEntries = 1 ∨
          (c.buffers nrEntries).flatten.length < 2 ^ 31) ∧
        c.Adjoins nrEntries) ∧
    (∀ stack,
      sendAllMessage c nrEntries stack ≠
        .error .copyWrite) ∧
    (∀ (stack : Nat → UInt8) (message : List UInt8),
      sendAllMessage c nrEntries stack = .ok message →
        ∀ (input : SendInput α) (s : Endpoint σ)
            (connectionID : Int) (msgtype : UInt8),
          mlSendAllData T input s connectionID c nrEntries
              msgtype stack =
            (mlSendData T input s connectionID message
              message.length msgtype).map
              (fun result => (1, result))) := by
  refine ⟨?_, ?_, ?_⟩
  · rw [← aligned_buffers_iff c hHigh]
    by_cases hOne : nrEntries = 1
    · subst hOne
      refine iff_of_true ?_ ⟨Or.inl rfl, ?_⟩
      · intro stack
        simp [sendAllMessage, SendAllDataContainer.buffers]
      · simp [Aligned, SendAllDataContainer.buffers]
    · rw [← copyAll_eq_flatten_iff]
      simp only [hOne, false_or,
        sendAllMessage_cases c (show 2 ≤ nrEntries by omega)
          hHigh]
      by_cases hShort :
          (c.buffers nrEntries).flatten.length < 2 ^ 31
      · simp only [hShort, if_true, true_and,
          Except.ok.injEq]
        constructor
        · intro hAll buf hLength
          rcases exists_stack buf with ⟨stack, hStack⟩
          have hCopied := hAll stack
          rwa [← hLength, hStack] at hCopied
        · intro hAll stack
          exact
            hAll _
              (by rw [List.length_map, List.length_range])
      · simp only [hShort, if_false, false_and, iff_false]
        intro hAll
        cases hAll (fun _ => 0)
  · intro stack
    by_cases hOne : nrEntries = 1
    · rw [sendAllMessage, if_pos hOne]
      exact fun hEq => by cases hEq
    · rw [sendAllMessage_cases c (by omega) hHigh]
      split
      · exact fun hEq => by cases hEq
      · exact fun hEq => by cases hEq
  · intro stack message hMessage input s connectionID msgtype
    unfold mlSendAllData
    rw [if_neg (by omega), Int.toNat_natCast, hMessage]
    simp only
    cases mlSendData T input s connectionID message
      message.length msgtype with
    | error fault => rfl
    | ok result => rfl

/- Three buffers of one byte each. -/
def Sample.threeBytes : SendAllDataContainer where
  buffer₁ := [1]
  buffer₂ := [2]
  buffer₃ := [3]
  buffer₄ := []
  buffer₅ := []

/-
  The third byte is copied over the second, and what was on
  the stack is sent for the third.
-/
theorem three_bytes_not_concatenated :
    (Sample.threeBytes.buffers 3).flatten = [1, 2, 3] ∧
      sendAllMessage Sample.threeBytes 3 (fun _ => 0) =
        .ok [1, 3, 0] :=
  ⟨rfl, rfl⟩

/- Two buffers are sent one behind the other. -/
theorem two_bytes_concatenated :
    sendAllMessage Sample.threeBytes 2 (fun _ => 0) =
      .ok [1, 2] := by
  have hLow : 1 ≤ 2 := by decide
  have hSent :=
    (mlSendAllData_concatenates_iff Transport.scripted
      Sample.threeBytes hLow (by decide)).1
  exact hSent.mpr ⟨Or.inr (by decide), by decide⟩ _

end ML

end NapaBaselibs
