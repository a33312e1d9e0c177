import NapaBaselibs.ML.Reassembly

/-
  What the gaps of a reception slot say about the message.

  Below the expected offset, the bytes that have not arrived
  are those of the recorded gaps, as long as no delayed
  fragment falls strictly inside a gap: filling a gap only
  moves one of its ends, and never splits it.

  Key definitions include:
    * `Gap.Asks`, `AsksFor`
    * `Gap.Touches`, `Gap.Encloses`
    * `GapsMatch`

  Key theorems include:
    * `GapsMatch.fillGap`, `GapsMatch.openGap`
    * `GapsMatch.not_exact_of_enclosed`
    * `GapsMatch.nextGaps`
-/

------------------------------------------------------------
-- The Bytes Of A Gap
------------------------------------------------------------

namespace NapaBaselibs

namespace ML

open Tiling (Piece total Covers)

/- The byte lies in the gap. -/
def Gap.Asks
    (gap : Gap)
    (b : Nat) : Prop :=
  gap.offsetFrom ≤ b ∧ b < gap.offsetTo

theorem Gap.asks_mk
    {offsetFrom offsetTo b : Nat} :
    (Gap.mk offsetFrom offsetTo).Asks b ↔
      offsetFrom ≤ b ∧ b < offsetTo :=
  Iff.rfl

/- A fragment lies at one of the ends of the gap. -/
def Gap.Touches
    (gap : Gap)
    (offset len : Nat) : Prop :=
  offset = gap.offsetFrom ∨ offset + len = gap.offsetTo

/-
  A fragment lies in the gap and at neither end of it, with
  missing bytes on both sides.
-/
def Gap.Encloses
    (gap : Gap)
    (offset len : Nat) : Prop :=
  gap.offsetFrom < offset ∧ offset + len < gap.offsetTo

instance
    (gap : Gap)
    (b : Nat) : Decidable (gap.Asks b) := by
  unfold Gap.Asks
  infer_instance

instance
    (gap : Gap)
    (offset len : Nat) :
    Decidable (gap.Encloses offset len) := by
  unfold Gap.Encloses
  infer_instance

/- What `fillGap` makes of the gap it finds. -/
def Gap.trim
    (gap : Gap)
    (offset len : Nat) : Gap :=
  if offset = gap.offsetFrom then
    { gap with offsetFrom := gap.offsetFrom + len }
  else
    { gap with offsetTo := gap.offsetTo - len }

/- Some gap of the list contains the byte. -/
def AsksFor
    (gaps : List Gap)
    (b : Nat) : Prop :=
  ∃ gap ∈ gaps, gap.Asks b

theorem asksFor_append
    {first second : List Gap}
    {b : Nat} :
    AsksFor (first ++ second) b ↔
      AsksFor first b ∨ AsksFor second b := by
  simp only [AsksFor, List.mem_append, or_and_right,
    exists_or]

theorem asksFor_cons
    {gap : Gap}
    {rest : List Gap}
    {b : Nat} :
    AsksFor (gap :: rest) b ↔
      gap.Asks b ∨ AsksFor rest b := by
  simp only [AsksFor, List.mem_cons, or_and_right, exists_or,
    exists_eq_left]

theorem asksFor_singleton
    {gap : Gap}
    {b : Nat} :
    AsksFor [gap] b ↔ gap.Asks b := by
  simp only [AsksFor, List.mem_singleton, exists_eq_left]

/-
  Filling a gap changes nothing, when the fragment is at no
  end of a gap, or trims the first gap of which it is.
-/
theorem fillGap_cases
    (offset len : Nat)
    (gaps : List Gap) :
    ((∀ gap ∈ gaps, ¬ gap.Touches offset len) ∧
        fillGap offset len gaps = gaps) ∨
      ∃ before gap after,
        gaps = before ++ gap :: after ∧
          gap.Touches offset len ∧
          fillGap offset len gaps =
            before ++ gap.trim offset len :: after := by
  induction gaps with
  | nil => exact Or.inl ⟨by simp, rfl⟩
  | cons gap rest ih =>
      unfold fillGap
      by_cases hFrom : offset = gap.offsetFrom
      · rw [if_pos hFrom]
        refine
          Or.inr ⟨[], gap, rest, rfl, Or.inl hFrom, ?_⟩
        rw [Gap.trim, if_pos hFrom]
        rfl
      · rw [if_neg hFrom]
        by_cases hTo : offset + len = gap.offsetTo
        · rw [if_pos hTo]
          refine
            Or.inr ⟨[], gap, rest, rfl, Or.inr hTo, ?_⟩
          rw [Gap.trim, if_neg hFrom]
          rfl
        · rw [if_neg hTo]
          rcases ih with
            ⟨hNone, hSame⟩ |
              ⟨before, found, after, rfl, hTouches, hFill⟩
          · refine Or.inl ⟨?_, by rw [hSame]⟩
            intro other hMem
            rcases List.mem_cons.mp hMem with rfl | hRest
            · rintro (hEq | hEq)
              · exact hFrom hEq
              · exact hTo hEq
            · exact hNone other hRest
          · refine
              Or.inr
                ⟨gap :: before, found, after, rfl,
                  hTouches, ?_⟩
            rw [hFill]
            rfl

/- Filling gaps keeps how many there are. -/
theorem length_fillGap
    (offset len : Nat)
    (gaps : List Gap) :
    (fillGap offset len gaps).length = gaps.length := by
  rcases fillGap_cases offset len gaps with
    ⟨_, hSame⟩ | ⟨before, gap, after, rfl, _, hFill⟩
  · rw [hSame]
  · rw [hFill]
    simp only [List.length_append, List.length_cons]

/-
  A gap that contains the fragment loses exactly its bytes
  when it is trimmed at the end the fragment touches.
-/
theorem Gap.asks_trim
    {gap : Gap}
    {offset len : Nat}
    (hTouches : gap.Touches offset len)
    (hFrom : gap.offsetFrom ≤ offset)
    (hTo : offset + len ≤ gap.offsetTo)
    (b : Nat) :
    (gap.trim offset len).Asks b ↔
      gap.Asks b ∧ ¬ (offset ≤ b ∧ b < offset + len) := by
  unfold trim Asks
  unfold Touches at hTouches
  split
  · simp only
    omega
  · simp only
    omega

/-
  Where the ends of a trimmed gap lie: where they were, or at
  the other end of the fragment.
-/
theorem Gap.sides_trim
    {gap : Gap}
    {offset len : Nat}
    (hTouches : gap.Touches offset len)
    (hFrom : gap.offsetFrom ≤ offset)
    (hTo : offset + len ≤ gap.offsetTo) :
    (gap.trim offset len).offsetFrom ≤
        (gap.trim offset len).offsetTo ∧
      ((gap.trim offset len).offsetFrom = gap.offsetFrom ∨
        (gap.trim offset len).offsetFrom = offset + len) ∧
      ((gap.trim offset len).offsetTo = gap.offsetTo ∨
        (gap.trim offset len).offsetTo = offset) := by
  unfold trim
  unfold Touches at hTouches
  split
  · refine ⟨?_, Or.inr ?_, Or.inl rfl⟩
    · change gap.offsetFrom + len ≤ gap.offsetTo
      omega
    · change gap.offsetFrom + len = offset + len
      omega
  · refine ⟨?_, Or.inl rfl, Or.inr ?_⟩
    · change gap.offsetFrom ≤ gap.offsetTo - len
      omega
    · change gap.offsetTo - len = offset
      omega

/- An element of a list in which one has been replaced. -/
theorem mem_replaced
    {α : Type}
    {before after : List α}
    {a a' x : α}
    (hMem : x ∈ before ++ a' :: after) :
    x = a' ∨ x ∈ before ++ a :: after := by
  simp only [List.mem_append, List.mem_cons] at hMem ⊢
  tauto

/- Replacing an element by one that is related to no more. -/
theorem pairwise_replaced
    {α : Type}
    {R : α → α → Prop}
    {before after : List α}
    {a a' : α}
    (hPairs : (before ++ a :: after).Pairwise R)
    (hLeft : ∀ x, R a x → R a' x)
    (hRight : ∀ x, R x a → R x a') :
    (before ++ a' :: after).Pairwise R := by
  rw [List.pairwise_append, List.pairwise_cons] at *
  refine
    ⟨hPairs.1,
      ⟨fun x hMem => hLeft x (hPairs.2.1.1 x hMem),
        hPairs.2.1.2⟩, ?_⟩
  intro x hMem y hTail
  rcases List.mem_cons.mp hTail with rfl | hAfter
  · exact hRight x (hPairs.2.2 x hMem a List.mem_cons_self)
  · exact
      hPairs.2.2 x hMem y (List.mem_cons_of_mem a hAfter)

------------------------------------------------------------
-- Gaps That Match What Has Arrived
------------------------------------------------------------

/-
  The gaps recorded for a message of which some pieces have
  arrived.  They are bounded on both sides by bytes that have
  arrived, also those that have been filled.
-/
structure GapsMatch
    (gaps : List Gap)
    (expected : Nat)
    (received : List Piece) : Prop where
  exact :
    ∀ b, AsksFor gaps b ↔
      b < expected ∧ ¬ Covers received b
  below : ∀ b, Covers received b → b < expected
  last : expected = 0 ∨ Covers received (expected - 1)
  ordered : ∀ gap ∈ gaps, gap.offsetFrom ≤ gap.offsetTo
  before :
    ∀ gap ∈ gaps,
      gap.offsetFrom = 0 ∨
        Covers received (gap.offsetFrom - 1)
  after : ∀ gap ∈ gaps, Covers received gap.offsetTo
  disjoint :
    gaps.Pairwise
      (fun gap gap' => ∀ b, gap.Asks b → ¬ gap'.Asks b)

/- No byte of the piece has arrived. -/
def Fresh
    (received : List Piece)
    (piece : Piece) : Prop :=
  ∀ b, piece.start ≤ b → b < piece.stop →
    ¬ Covers received b

theorem covers_snoc
    {received : List Piece}
    {piece : Piece}
    {b : Nat} :
    Covers (received ++ [piece]) b ↔
      Covers received b ∨
        (piece.start ≤ b ∧ b < piece.stop) := by
  rw [Tiling.covers_append, Tiling.covers_singleton]

namespace GapsMatch

theorem nil : GapsMatch [] 0 [] where
  exact := by
    intro b
    simp [AsksFor]
  below := by
    intro b hCovers
    exact absurd hCovers (Tiling.not_covers_nil b)
  last := Or.inl rfl
  ordered := by simp
  before := by simp
  after := by simp
  disjoint := List.Pairwise.nil

variable {gaps : List Gap}
variable {expected : Nat}
variable {received : List Piece}
variable {piece : Piece}

/- A delayed fragment ends before the last byte received. -/
theorem stop_lt
    (hMatch : GapsMatch gaps expected received)
    (hFresh : Fresh received piece)
    (hLate : piece.start < expected) :
    piece.stop < expected := by
  rcases hMatch.last with hZero | hLast
  · omega
  · by_contra hStop
    exact
      hFresh (expected - 1) (by omega) (by omega) hLast

/- A delayed fragment lies in one of the gaps. -/
theorem exists_gap
    (hMatch : GapsMatch gaps expected received)
    (hFresh : Fresh received piece)
    (hPos : 0 < piece.length)
    (hLate : piece.start < expected) :
    ∃ gap ∈ gaps,
      gap.offsetFrom ≤ piece.start ∧
        piece.stop ≤ gap.offsetTo := by
  have hMissing : ¬ Covers received piece.start :=
    hFresh piece.start (Nat.le_refl _)
      (by unfold Piece.stop; omega)
  rcases (hMatch.exact piece.start).mpr ⟨hLate, hMissing⟩
    with ⟨gap, hMem, hFrom, hTo⟩
  refine ⟨gap, hMem, hFrom, ?_⟩
  by_contra hStop
  exact
    hFresh gap.offsetTo (by omega) (by omega)
      (hMatch.after gap hMem)

/- A gap that a delayed fragment touches contains it. -/
theorem contains_of_touches
    (hMatch : GapsMatch gaps expected received)
    (hFresh : Fresh received piece)
    {gap : Gap}
    (hMem : gap ∈ gaps)
    (hTouches : gap.Touches piece.start piece.length) :
    gap.offsetFrom ≤ piece.start ∧
      piece.stop ≤ gap.offsetTo := by
  have hOrdered := hMatch.ordered gap hMem
  have hTop := hMatch.after gap hMem
  rcases hTouches with hFrom | hTo
  · refine ⟨hFrom.ge, ?_⟩
    by_contra hStop
    exact hFresh gap.offsetTo (by omega) (by omega) hTop
  · refine ⟨?_, hTo.le⟩
    by_contra hFrom
    rcases hMatch.before gap hMem with hZero | hBelow
    · omega
    · refine
        hFresh (gap.offsetFrom - 1) (by omega) ?_ hBelow
      unfold Piece.stop
      omega

/- Two gaps of the list that share a byte are at one place. -/
theorem disjoint_of_split
    {before after : List Gap}
    {gap : Gap}
    (hMatch :
      GapsMatch (before ++ gap :: after) expected received)
    {b : Nat}
    (hAsks : gap.Asks b) :
    ¬ AsksFor before b ∧ ¬ AsksFor after b := by
  have hPairs := List.pairwise_append.mp hMatch.disjoint
  constructor
  · rintro ⟨other, hMem, hOther⟩
    exact
      hPairs.2.2 other hMem gap List.mem_cons_self b hOther
        hAsks
  · rintro ⟨other, hMem, hOther⟩
    exact
      (List.pairwise_cons.mp hPairs.2.1).1 other hMem b
        hAsks hOther

/- The gaps still match when one of them is trimmed. -/
theorem trim
    {before after : List Gap}
    {gap : Gap}
    (hMatch :
      GapsMatch (before ++ gap :: after) expected received)
    (hPos : 0 < piece.length)
    (hBelow : piece.stop < expected)
    (hTouches : gap.Touches piece.start piece.length)
    (hFrom : gap.offsetFrom ≤ piece.start)
    (hTo : piece.stop ≤ gap.offsetTo) :
    GapsMatch
      (before ++
        gap.trim piece.start piece.length :: after)
      expected (received ++ [piece]) := by
  have hTrim :
      ∀ b, (gap.trim piece.start piece.length).Asks b ↔
        gap.Asks b ∧ ¬ (piece.start ≤ b ∧ b < piece.stop) :=
    Gap.asks_trim hTouches hFrom hTo
  have hSides := Gap.sides_trim hTouches hFrom hTo
  have hGap : gap ∈ before ++ gap :: after :=
    List.mem_append_right _ List.mem_cons_self
  have hStart : Covers (received ++ [piece]) piece.start :=
    covers_snoc.mpr
      (Or.inr ⟨by omega, by unfold Piece.stop; omega⟩)
  have hStop :
      Covers (received ++ [piece]) (piece.stop - 1) := by
    refine covers_snoc.mpr (Or.inr ?_)
    unfold Piece.stop
    omega
  have hOld :
      ∀ b, Covers received b →
        Covers (received ++ [piece]) b :=
    fun b hCovers => covers_snoc.mpr (Or.inl hCovers)
  refine ⟨?_, ?_, ?_, ?_, ?_, ?_, ?_⟩
  · intro b
    have hExact := hMatch.exact b
    have hApart := hMatch.disjoint_of_split (b := b)
    rw [asksFor_append, asksFor_cons] at hExact ⊢
    rw [hTrim b, covers_snoc]
    by_cases hPiece : piece.start ≤ b ∧ b < piece.stop
    · have hBoth := hApart ⟨by omega, by omega⟩
      simp only [hPiece, hBoth.1, hBoth.2]
      simp
    · simp only [hPiece, not_false_eq_true, and_true,
        or_false]
      exact hExact
  · intro b hCovers
    rcases covers_snoc.mp hCovers with hEarlier | hNew
    · exact hMatch.below b hEarlier
    · omega
  · exact hMatch.last.imp_right (hOld _)
  · intro other hMem
    rcases mem_replaced hMem with rfl | hOther
    · exact hSides.1
    · exact hMatch.ordered other hOther
  · intro other hMem
    rcases mem_replaced hMem with rfl | hOther
    · rcases hSides.2.1 with hSame | hNew
      · rw [hSame]
        exact (hMatch.before gap hGap).imp_right (hOld _)
      · rw [hNew]
        exact Or.inr hStop
    · exact (hMatch.before other hOther).imp_right (hOld _)
  · intro other hMem
    rcases mem_replaced hMem with rfl | hOther
    · rcases hSides.2.2 with hSame | hNew
      · rw [hSame]
        exact hOld _ (hMatch.after gap hGap)
      · rw [hNew]
        exact hStart
    · exact hOld _ (hMatch.after other hOther)
  · refine pairwise_replaced hMatch.disjoint ?_ ?_
    · intro other hApart b hTrimmed
      exact hApart b ((hTrim b).mp hTrimmed).1
    · intro other hApart b hOther hTrimmed
      exact hApart b hOther ((hTrim b).mp hTrimmed).1

/-
  A delayed fragment that no gap encloses is taken out of the
  recorded gaps.
-/
theorem fillGap
    (hMatch : GapsMatch gaps expected received)
    (hFresh : Fresh received piece)
    (hPos : 0 < piece.length)
    (hLate : piece.start < expected)
    (hEnds :
      ∀ gap ∈ gaps,
        ¬ gap.Encloses piece.start piece.length) :
    GapsMatch (ML.fillGap piece.start piece.length gaps)
      expected (received ++ [piece]) := by
  rcases fillGap_cases piece.start piece.length gaps with
    ⟨hNone, _⟩ |
      ⟨before, gap, after, rfl, hTouches, hFill⟩
  · rcases hMatch.exists_gap hFresh hPos hLate with
      ⟨gap, hMem, hFrom, hTo⟩
    have hTouch := hNone gap hMem
    have hInside := hEnds gap hMem
    unfold Gap.Touches at hTouch
    unfold Gap.Encloses at hInside
    unfold Piece.stop at hTo
    omega
  · have hGap : gap ∈ before ++ gap :: after :=
      List.mem_append_right _ List.mem_cons_self
    rcases hMatch.contains_of_touches hFresh hGap hTouches
      with ⟨hFrom, hTo⟩
    rw [hFill]
    exact
      hMatch.trim hPos (hMatch.stop_lt hFresh hLate)
        hTouches hFrom hTo

/-
  A delayed fragment that a gap encloses stays among the
  bytes that are asked for.
-/
theorem not_exact_of_enclosed
    (hMatch : GapsMatch gaps expected received)
    (hFresh : Fresh received piece)
    (hPos : 0 < piece.length)
    {gap : Gap}
    (hMem : gap ∈ gaps)
    (hInside : gap.Encloses piece.start piece.length) :
    AsksFor (ML.fillGap piece.start piece.length gaps)
        piece.start ∧
      Covers (received ++ [piece]) piece.start := by
  have hAsks : gap.Asks piece.start := by
    unfold Gap.Encloses at hInside
    unfold Gap.Asks
    omega
  refine ⟨?_, covers_snoc.mpr (Or.inr ?_)⟩
  · rcases fillGap_cases piece.start piece.length gaps with
      ⟨_, hSame⟩ |
        ⟨before, other, after, rfl, hTouches, hFill⟩
    · rw [hSame]
      exact ⟨gap, hMem, hAsks⟩
    · rw [hFill]
      -- The gap that is trimmed is another one.
      have hOther :
          other ∈ before ++ other :: after :=
        List.mem_append_right _ List.mem_cons_self
      rcases
        hMatch.contains_of_touches hFresh hOther hTouches
        with ⟨hFrom, hTo⟩
      have hAsksOther : other.Asks piece.start := by
        unfold Piece.stop at hTo
        unfold Gap.Asks
        omega
      have hApart := hMatch.disjoint_of_split hAsksOther
      exfalso
      rcases List.mem_append.mp hMem with hBefore | hRest
      · exact hApart.1 ⟨gap, hBefore, hAsks⟩
      · rcases List.mem_cons.mp hRest with rfl | hAfter
        · unfold Gap.Touches at hTouches
          unfold Gap.Encloses at hInside
          omega
        · exact hApart.2 ⟨gap, hAfter, hAsks⟩
  · unfold Piece.stop
    omega

/- A fragment at the expected offset leaves the gaps alone. -/
theorem extend
    (hMatch : GapsMatch gaps expected received)
    (hPos : 0 < piece.length)
    (hNext : piece.start = expected) :
    GapsMatch gaps piece.stop (received ++ [piece]) := by
  have hOld :
      ∀ b, Covers received b →
        Covers (received ++ [piece]) b :=
    fun b hCovers => covers_snoc.mpr (Or.inl hCovers)
  refine
    ⟨?_, ?_, ?_, hMatch.ordered, ?_, ?_, hMatch.disjoint⟩
  · intro b
    rw [hMatch.exact b, covers_snoc]
    unfold Piece.stop
    constructor
    · rintro ⟨hLt, hMissing⟩
      refine ⟨by omega, ?_⟩
      rintro (hCovers | hPiece)
      · exact hMissing hCovers
      · omega
    · rintro ⟨hLt, hMissing⟩
      rw [not_or] at hMissing
      exact ⟨by omega, hMissing.1⟩
  · intro b hCovers
    rcases covers_snoc.mp hCovers with hEarlier | hNew
    · have := hMatch.below b hEarlier
      unfold Piece.stop
      omega
    · omega
  · refine Or.inr (covers_snoc.mpr (Or.inr ?_))
    unfold Piece.stop
    omega
  · intro gap hMem
    exact (hMatch.before gap hMem).imp_right (hOld _)
  · intro gap hMem
    exact hOld _ (hMatch.after gap hMem)

/- A fragment beyond the expected offset opens a gap. -/
theorem openGap
    (hMatch : GapsMatch gaps expected received)
    (hPos : 0 < piece.length)
    (hBeyond : expected < piece.start) :
    GapsMatch (gaps ++ [⟨expected, piece.start⟩]) piece.stop
      (received ++ [piece]) := by
  have hOld :
      ∀ b, Covers received b →
        Covers (received ++ [piece]) b :=
    fun b hCovers => covers_snoc.mpr (Or.inl hCovers)
  have hNone : ∀ b, AsksFor gaps b → b < expected :=
    fun b hAsks => ((hMatch.exact b).mp hAsks).1
  refine ⟨?_, ?_, ?_, ?_, ?_, ?_, ?_⟩
  · intro b
    rw [asksFor_append, asksFor_singleton, hMatch.exact b,
      covers_snoc, Gap.asks_mk]
    unfold Piece.stop
    have hBelow := hMatch.below b
    constructor
    · rintro (⟨hLt, hMissing⟩ | hNew)
      · refine ⟨by omega, ?_⟩
        rintro (hCovers | hPiece)
        · exact hMissing hCovers
        · omega
      · refine ⟨by omega, ?_⟩
        rintro (hCovers | hPiece)
        · have := hBelow hCovers
          omega
        · omega
    · rintro ⟨hLt, hMissing⟩
      rw [not_or] at hMissing
      by_cases hEarlier : b < expected
      · exact Or.inl ⟨hEarlier, hMissing.1⟩
      · exact Or.inr (by omega)
  · intro b hCovers
    rcases covers_snoc.mp hCovers with hEarlier | hNew
    · have := hMatch.below b hEarlier
      unfold Piece.stop
      omega
    · omega
  · refine Or.inr (covers_snoc.mpr (Or.inr ?_))
    unfold Piece.stop
    omega
  · intro gap hMem
    rcases List.mem_append.mp hMem with hEarlier | hNew
    · exact hMatch.ordered gap hEarlier
    · rw [List.mem_singleton.mp hNew]
      exact hBeyond.le
  · intro gap hMem
    rcases List.mem_append.mp hMem with hEarlier | hNew
    · exact (hMatch.before gap hEarlier).imp_right (hOld _)
    · rw [List.mem_singleton.mp hNew]
      exact hMatch.last.imp_right (hOld _)
  · intro gap hMem
    rcases List.mem_append.mp hMem with hEarlier | hNew
    · exact hOld _ (hMatch.after gap hEarlier)
    · rw [List.mem_singleton.mp hNew]
      refine covers_snoc.mpr (Or.inr ⟨Nat.le_refl _, ?_⟩)
      change piece.start < piece.start + piece.length
      omega
  · refine
      List.pairwise_append.mpr
        ⟨hMatch.disjoint, List.pairwise_singleton _ _, ?_⟩
    intro gap hMem other hOther b hAsks hNew
    rw [List.mem_singleton.mp hOther, Gap.asks_mk] at hNew
    have := hNone b ⟨gap, hMem, hAsks⟩
    omega

/- The gaps and the expected offset after a fragment. -/
theorem nextGaps
    {slot : RecvData}
    (hMatch :
      GapsMatch slot.gapArray slot.expectedOffset received)
    (hFresh : Fresh received piece)
    (hPos : 0 < piece.length)
    (hRoom :
      slot.expectedOffset < piece.start →
        slot.gapCounter < rtxMaxGaps)
    (hEnds :
      piece.start < slot.expectedOffset →
        ∀ gap ∈ slot.gapArray,
          ¬ gap.Encloses piece.start piece.length) :
    GapsMatch (slot.nextGaps piece.start piece.length)
      (slot.nextOffset piece.start piece.length)
      (received ++ [piece]) := by
  unfold RecvData.nextGaps RecvData.nextOffset
  rcases Nat.lt_trichotomy piece.start slot.expectedOffset
    with hLate | hNext | hBeyond
  · rw [if_neg (by omega), if_pos hLate, if_neg (by omega)]
    exact hMatch.fillGap hFresh hPos hLate (hEnds hLate)
  · rw [if_neg (by omega), if_neg (by omega),
      if_pos (by omega)]
    exact hMatch.extend hPos hNext
  · rw [if_pos ⟨hBeyond, hRoom hBeyond⟩,
      if_pos (by omega)]
    exact hMatch.openGap hPos hBeyond

end GapsMatch

end ML

end NapaBaselibs
