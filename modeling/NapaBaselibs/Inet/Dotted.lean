import Mathlib.Tactic.IntervalCases
import NapaBaselibs.Lib.Numeral
import NapaBaselibs.ML.SocketID

/-
  IPv4 addresses as text.

  The parser accepts exactly what the printer prints: numbers
  without a zero in front, none of them over 255.

  Key definitions include:
    * `inetNtop4`
    * `Dotted`, `pton4Step`, `inetPton4`

  Key theorems include:
    * `dotted_text_unique`
-/

------------------------------------------------------------
-- Printing
------------------------------------------------------------

namespace NapaBaselibs

namespace Inet

open ML (CString)

/- What the format `%u.%u.%u.%u` makes of four bytes. -/
def quad (src : List UInt8) : CString :=
  Nat.toDigits 10 (src.getD 0 0).toNat ++
    '.' :: (Nat.toDigits 10 (src.getD 1 0).toNat ++
      '.' :: (Nat.toDigits 10 (src.getD 2 0).toNat ++
        '.' :: Nat.toDigits 10 (src.getD 3 0).toNat))

/-
  `inet_ntop4`: nothing where it returns `NULL`.  The text is
  made in an array of 16 characters.
-/
def inetNtop4
    (src : List UInt8)
    (size : Nat) : Option CString :=
  let l := (quad src).length
  if l = 0 ∨ size ≤ l then none
  else some ((quad src).take 15)

------------------------------------------------------------
-- Parsing
------------------------------------------------------------

/- The variables of `inet_pton4`; `byte` is what `tp` points at. -/
structure Dotted where
  before : List UInt8
  byte : UInt8
  sawDigit : Bool
  octets : Nat

/- What the variables are before the loop. -/
def Dotted.start : Dotted := ⟨[], 0, false, 0⟩

/- The place of a character in `digits`. -/
def decimalDigit (ch : Char) : Option Nat :=
  "0123456789".toList.idxOf? ch

/- The body of the loop, for a character that is not the end. -/
def pton4Step
    (s : Dotted)
    (ch : Char) : Option Dotted :=
  match decimalDigit ch with
  | some d =>
      let new := s.byte.toNat * 10 + d
      if s.sawDigit ∧ s.byte = 0 then none
      else if 255 < new then none
      else if s.sawDigit then
        some { s with byte := UInt8.ofNat new }
      else if 4 < s.octets + 1 then none
      else
        some
          { s with
            byte := UInt8.ofNat new
            octets := s.octets + 1
            sawDigit := true }
  | none =>
      if ch = '.' ∧ s.sawDigit then
        if s.octets = 4 then none
        else
          some
            { s with
              before := s.before ++ [s.byte]
              byte := 0
              sawDigit := false }
      else none

/- `inet_pton4`: the bytes stored, where it returns 1. -/
def inetPton4 (src : CString) : Option (List UInt8) :=
  (src.foldlM pton4Step Dotted.start).bind fun s =>
    if s.octets < 4 then none
    else some (s.before ++ [s.byte])

------------------------------------------------------------
-- Digits
------------------------------------------------------------

theorem decimalDigit_digitChar
    (d : Nat)
    (hDigit : d < 10) :
    decimalDigit (Nat.digitChar d) = some d := by
  interval_cases d <;> rfl

/- A decimal digit is the one that is written for its value. -/
theorem digitChar_of_decimalDigit
    {ch : Char}
    {d : Nat}
    (hDigit : decimalDigit ch = some d) :
    d < 10 ∧ ch = Nat.digitChar d := by
  rw [decimalDigit, List.idxOf?_eq_some_iff] at hDigit
  obtain ⟨hLess, hIs, _⟩ := hDigit
  have hTen : d < 10 := hLess
  refine ⟨hTen, ?_⟩
  interval_cases d <;> exact hIs.symm

theorem decimalDigit_dot : decimalDigit '.' = none := by
  decide

------------------------------------------------------------
-- What Was Read
------------------------------------------------------------

/- The text that leads to these variables. -/
def Dotted.text (s : Dotted) : CString :=
  s.before.flatMap (fun b => Nat.toDigits 10 b.toNat ++ ['.']) ++
    if s.sawDigit then Nat.toDigits 10 s.byte.toNat else []

/- `tp` is inside of `tmp`, and the octets were counted. -/
structure Dotted.Valid (s : Dotted) : Prop where
  inside : s.before.length < 4
  octets :
    s.octets = s.before.length + if s.sawDigit then 1 else 0
  fresh : s.sawDigit = false → s.byte = 0

theorem Dotted.valid_start : Dotted.start.Valid :=
  ⟨by decide, rfl, fun _ => rfl⟩

theorem toNat_ofNat_of_le
    {n : Nat}
    (hLess : n ≤ 255) :
    (UInt8.ofNat n).toNat = n := by
  rw [UInt8.toNat_ofNat']
  omega

/- A step reads its character. -/
theorem Dotted.Valid.step
    {s s' : Dotted}
    {ch : Char}
    (hValid : s.Valid)
    (hStep : pton4Step s ch = some s') :
    s'.Valid ∧ s'.text = s.text ++ [ch] := by
  have hOctets := hValid.octets
  have hInside := hValid.inside
  rw [pton4Step] at hStep
  cases hCase : decimalDigit ch with
  | some d =>
      obtain ⟨hTen, rfl⟩ := digitChar_of_decimalDigit hCase
      rw [hCase] at hStep
      simp only at hStep
      split_ifs at hStep with hLeading hLarge hSaw hFull
      · cases Option.some.inj hStep
        refine ⟨⟨hInside, hOctets, fun h => ?_⟩, ?_⟩
        · rw [hSaw] at h
          cases h
        · have hPos : 0 < s.byte.toNat := by
            apply Nat.pos_of_ne_zero
            intro hZero
            exact hLeading ⟨hSaw, UInt8.toNat_inj.mp hZero⟩
          simp only [text, hSaw, if_true]
          rw [toNat_ofNat_of_le (by omega), Nat.mul_comm,
            Numeral.toDigits_append (by decide) hPos hTen,
            List.append_assoc]
      · have hNot : s.sawDigit = false := by simpa using hSaw
        have hByte := hValid.fresh hNot
        cases Option.some.inj hStep
        refine ⟨⟨hInside, ?_, fun h => by cases h⟩, ?_⟩
        · simp only [hNot] at hOctets
          simp only [if_true]
          simpa using hOctets
        · simp only [text, hNot, if_true, hByte]
          rw [toNat_ofNat_of_le (by simp; omega)]
          simp [Nat.toDigits_of_lt_base hTen]
  | none =>
      rw [hCase] at hStep
      simp only at hStep
      split_ifs at hStep with hDot hFour
      obtain ⟨rfl, hSaw⟩ := hDot
      cases Option.some.inj hStep
      simp only [hSaw, if_true] at hOctets
      refine ⟨⟨?_, ?_, fun _ => rfl⟩, ?_⟩
      · simp only [List.length_append, List.length_singleton]
        omega
      · simp [hOctets]
      · simp [text, hSaw]

/- The loop has read what is before its character. -/
theorem Dotted.Valid.run
    {s s' : Dotted}
    {src : CString}
    (hValid : s.Valid)
    (hRun : src.foldlM pton4Step s = some s') :
    s'.Valid ∧ s'.text = s.text ++ src := by
  induction src generalizing s with
  | nil =>
      cases Option.some.inj hRun
      exact ⟨hValid, (List.append_nil _).symm⟩
  | cons ch src ih =>
      rw [List.foldlM_cons] at hRun
      obtain ⟨t, hStep, hRest⟩ := Option.bind_eq_some_iff.mp hRun
      obtain ⟨hNext, hText⟩ := hValid.step hStep
      obtain ⟨hLast, hAll⟩ := ih hNext hRest
      refine ⟨hLast, ?_⟩
      rw [hAll, hText, List.append_assoc]
      rfl

------------------------------------------------------------
-- What Is Accepted
------------------------------------------------------------

theorem run_singleton
    (s : Dotted)
    (ch : Char) :
    [ch].foldlM pton4Step s = pton4Step s ch := by
  simp

/- The digits of a number are read from one octet on. -/
theorem run_toDigits
    {s : Dotted}
    (hSaw : s.sawDigit = false)
    (hByte : s.byte = 0)
    (hFew : s.octets < 4)
    (n : Nat)
    (hLess : n ≤ 255) :
    (Nat.toDigits 10 n).foldlM pton4Step s =
      some
        { s with
          byte := UInt8.ofNat n
          octets := s.octets + 1
          sawDigit := true } := by
  revert hLess
  apply Numeral.written_induction (b := 10) (motive := fun n text =>
    n ≤ 255 → text.foldlM pton4Step s =
      some
        { s with
          byte := UInt8.ofNat n
          octets := s.octets + 1
          sawDigit := true })
  · decide
  · intro d hDigit _
    rw [run_singleton, pton4Step,
      decimalDigit_digitChar d hDigit]
    simp only [hSaw, hByte, Bool.false_eq_true, false_and,
      if_false]
    rw [if_neg (by simp; omega), if_neg (by omega)]
    simp
  · intro n d text hPos hDigit ih hLess
    have hZero : UInt8.ofNat n ≠ 0 := by
      intro h
      have hNat := congrArg UInt8.toNat h
      rw [toNat_ofNat_of_le (by omega)] at hNat
      exact hPos.ne' hNat
    rw [List.foldlM_append, ih (by omega), Option.bind_eq_bind,
      Option.bind_some, run_singleton, pton4Step,
      decimalDigit_digitChar d hDigit]
    simp only [hZero, and_false, if_false, if_true]
    rw [toNat_ofNat_of_le (by omega), if_neg (by omega),
      Nat.mul_comm]

/- Four numbers with dots between them are read. -/
theorem run_quad (a b c d : UInt8) :
    (quad [a, b, c, d]).foldlM pton4Step Dotted.start =
      some ⟨[a, b, c], d, true, 4⟩ := by
  have hByte : ∀ x : UInt8, x.toNat ≤ 255 := by
    intro x
    have hLess := x.toNat_lt
    omega
  have hNumber :
      ∀ (before : List UInt8) (x : UInt8) (n : Nat), n < 4 →
        (Nat.toDigits 10 x.toNat).foldlM pton4Step
            ⟨before, 0, false, n⟩ =
          some ⟨before, x, true, n + 1⟩ := by
    intro before x n hFew
    rw [run_toDigits rfl rfl hFew _ (hByte x),
      UInt8.ofNat_toNat]
  have hDot :
      ∀ (before : List UInt8) (x : UInt8) (n : Nat), n < 4 →
        pton4Step ⟨before, x, true, n⟩ '.' =
          some ⟨before ++ [x], 0, false, n⟩ := by
    intro before x n hFew
    rw [pton4Step, decimalDigit_dot]
    simp only [and_self, if_true]
    rw [if_neg (by omega)]
  simp only [quad, Dotted.start, List.foldlM_append,
    List.foldlM_cons, List.getD_cons_zero, List.getD_cons_succ,
    Option.bind_eq_bind]
  rw [hNumber [] a 0 (by omega), Option.bind_some,
    hDot [] a 1 (by omega), Option.bind_some,
    List.nil_append,
    hNumber [a] b 1 (by omega), Option.bind_some,
    hDot [a] b 2 (by omega), Option.bind_some,
    List.singleton_append,
    hNumber [a, b] c 2 (by omega), Option.bind_some,
    hDot [a, b] c 3 (by omega), Option.bind_some,
    List.cons_append, List.singleton_append,
    hNumber [a, b, c] d 3 (by omega)]

theorem length_quad (src : List UInt8) :
    7 ≤ (quad src).length ∧ (quad src).length ≤ 15 := by
  have hDigits :
      ∀ x : UInt8,
        0 < (Nat.toDigits 10 x.toNat).length ∧
          (Nat.toDigits 10 x.toNat).length ≤ 3 := by
    intro x
    refine ⟨Nat.length_toDigits_pos, ?_⟩
    rw [Nat.length_toDigits_le_iff (by decide) (by decide)]
    have hLess := x.toNat_lt
    omega
  have hFirst := hDigits (src.getD 0 0)
  have hSecond := hDigits (src.getD 1 0)
  have hThird := hDigits (src.getD 2 0)
  have hFourth := hDigits (src.getD 3 0)
  simp only [quad, List.length_append, List.length_cons]
  omega

/- With room for all of it, the text is printed. -/
theorem inetNtop4_eq
    (src : List UInt8)
    (size : Nat) :
    inetNtop4 src size =
      if (quad src).length < size then some (quad src)
      else none := by
  have hLength := length_quad src
  simp only [inetNtop4]
  rw [List.take_of_length_le hLength.2]
  split_ifs <;> first | rfl | omega

theorem inetPton4_quad
    {src : List UInt8}
    (hLength : src.length = 4) :
    inetPton4 (quad src) = some src := by
  obtain ⟨a, b, c, d, rfl⟩ := List.length_eq_four.mp hLength
  rw [inetPton4, run_quad]
  rfl

/- What is accepted was printed for the result. -/
theorem quad_of_inetPton4
    {src : CString}
    {dst : List UInt8}
    (hParsed : inetPton4 src = some dst) :
    dst.length = 4 ∧ src = quad dst := by
  obtain ⟨s, hRun, hEnd⟩ := Option.bind_eq_some_iff.mp hParsed
  split_ifs at hEnd with hFew
  cases Option.some.inj hEnd
  obtain ⟨⟨hInside, hOctets, _⟩, hText⟩ :=
    Dotted.valid_start.run hRun
  obtain ⟨before, byte, sawDigit, octets⟩ := s
  simp only at hInside hOctets hFew
  cases sawDigit with
  | false => simp at hOctets; omega
  | true =>
      simp only [if_true] at hOctets
      have hThree : before.length = 3 := by omega
      obtain ⟨a, b, c, rfl⟩ := List.length_eq_three.mp hThree
      refine ⟨rfl, ?_⟩
      rw [Dotted.start] at hText
      simp only [Dotted.text, List.flatMap_nil, List.nil_append,
        Bool.false_eq_true, if_false, if_true] at hText
      rw [← hText]
      simp [quad]

/-
  For every text and every four bytes, the parser makes the
  bytes of the text if and only if the printer makes the text
  of the bytes.  On the way nothing is written outside of the
  four bytes.
-/
theorem dotted_text_unique
    (src : CString)
    (dst : List UInt8) :
    (inetPton4 src = some dst ↔
      dst.length = 4 ∧ inetNtop4 dst 16 = some src) ∧
    ∀ (read : CString) (s : Dotted),
      read.foldlM pton4Step Dotted.start = some s →
        s.before.length < 4 := by
  refine ⟨⟨?_, ?_⟩, ?_⟩
  · intro hParsed
    obtain ⟨hLength, rfl⟩ := quad_of_inetPton4 hParsed
    have hText := length_quad dst
    rw [inetNtop4_eq, if_pos (by omega)]
    exact ⟨hLength, rfl⟩
  · rintro ⟨hLength, hPrinted⟩
    rw [inetNtop4_eq] at hPrinted
    split_ifs at hPrinted
    cases Option.some.inj hPrinted
    exact inetPton4_quad hLength
  · intro read s hRun
    exact (Dotted.valid_start.run hRun).1.inside

end Inet

end NapaBaselibs
