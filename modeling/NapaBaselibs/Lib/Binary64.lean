import NapaBaselibs.Lib.Scan

/-
  Doubles as 64-bit words, printed and scanned in decimal.

  Printing with `%f` rounds to six places, scanning with
  `%lf` takes the nearest double; both break ties to the even
  side.  A double is representable where the second undoes
  the first.

  Key definitions include:
    * `Binary64`, `Binary64.ofRatio`
    * `Binary64.printF`, `Binary64.scanLf`
    * `Binary64.Representable`

  Key theorems include:
    * `Binary64.mem_printF`
    * `Binary64.printF_ne_nil`
-/

------------------------------------------------------------
-- Words
------------------------------------------------------------

/- A double, as the word that is stored. -/
structure Binary64 where
  bits : UInt64
deriving DecidableEq, Repr

namespace Binary64

def negative (d : Binary64) : Bool :=
  2 ^ 63 ≤ d.bits.toNat

def exponentBits (d : Binary64) : Nat :=
  d.bits.toNat / 2 ^ 52 % 2 ^ 11

def fractionBits (d : Binary64) : Nat :=
  d.bits.toNat % 2 ^ 52

/- Neither infinite nor a NaN. -/
def IsFinite (d : Binary64) : Prop :=
  d.exponentBits ≠ 2047

instance (d : Binary64) : Decidable d.IsFinite :=
  inferInstanceAs (Decidable (_ ≠ _))

/- `isnan`. -/
def IsNan (d : Binary64) : Prop :=
  d.exponentBits = 2047 ∧ d.fractionBits ≠ 0

instance (d : Binary64) : Decidable d.IsNan :=
  inferInstanceAs (Decidable (_ ∧ _))

/- The magnitude of a finite double is `mantissa * 2 ^ scale`. -/
def mantissa (d : Binary64) : Nat :=
  if d.exponentBits = 0 then d.fractionBits
  else 2 ^ 52 + d.fractionBits

def scale (d : Binary64) : Int :=
  if d.exponentBits = 0 then -1074
  else (d.exponentBits : Int) - 1075

/- The sign bit in front of a magnitude. -/
def ofMagnitude
    (negative : Bool)
    (magnitude : Nat) : Binary64 where
  bits :=
    UInt64.ofNat
      ((if negative then 2 ^ 63 else 0) + magnitude)

def infinity (negative : Bool) : Binary64 :=
  ofMagnitude negative (2047 * 2 ^ 52)

def nan : Binary64 :=
  ofMagnitude false (2047 * 2 ^ 52 + 2 ^ 51)

------------------------------------------------------------
-- Rounding
------------------------------------------------------------

/- The nearest integer to a ratio, a tie to the even one. -/
def nearest (num den : Nat) : Nat :=
  if 2 * (num % den) < den then
    num / den
  else if den < 2 * (num % den) then
    num / den + 1
  else
    num / den + num / den % 2

/- The nearest integer to `num / den * 2 ^ e`. -/
def nearestScaled (num den : Nat) (e : Int) : Nat :=
  nearest (num * 2 ^ e.toNat) (den * 2 ^ (-e).toNat)

/-
  The double nearest to a ratio.  With its exponent `e`, the
  word of a magnitude `m * 2 ^ e` is `(e + 1074) * 2 ^ 52 + m`,
  also where rounding carries into the next exponent.
-/
def ofRatio
    (negative : Bool)
    (num den : Nat) : Binary64 :=
  if num = 0 then
    ofMagnitude negative 0
  else
    let size : Int := (num.log2 : Int) - den.log2
    let exponent : Int :=
      if den * 2 ^ size.toNat ≤ num * 2 ^ (-size).toNat then
        size - 52
      else
        size - 53
    let e := max exponent (-1074)
    let magnitude :=
      (e + 1074).toNat * 2 ^ 52 + nearestScaled num den (-e)
    if 2047 * 2 ^ 52 ≤ magnitude then
      infinity negative
    else
      ofMagnitude negative magnitude

/- An `int` as a double. -/
def ofInt (n : Int) : Binary64 :=
  ofRatio (n < 0) n.natAbs 1

------------------------------------------------------------
-- Decimal Text
------------------------------------------------------------

/- Decimal digits, with zeros up to a width. -/
def padded (width n : Nat) : List Char :=
  List.replicate (width - (Nat.toDigits 10 n).length) '0' ++
    Nat.toDigits 10 n

/- A magnitude in millionths. -/
def micros (d : Binary64) : Nat :=
  nearestScaled (d.mantissa * 10 ^ 6) 1 d.scale

/- `%f`. -/
def printF (d : Binary64) : List Char :=
  (if d.negative then ['-'] else []) ++
    if d.exponentBits = 2047 then
      if d.fractionBits = 0 then
        ['i', 'n', 'f']
      else
        ['n', 'a', 'n']
    else
      Nat.toDigits 10 (d.micros / 10 ^ 6) ++
        '.' :: padded 6 (d.micros % 10 ^ 6)

/- The exponent behind a decimal number. -/
def scanExponent (text : List Char) : Int :=
  match text with
  | [] => 0
  | c :: rest =>
      if c = 'e' ∨ c = 'E' then
        match rest with
        | '-' :: digits =>
            -(((Scan.nat digits).map Prod.fst).getD 0 : Nat)
        | '+' :: digits =>
            (((Scan.nat digits).map Prod.fst).getD 0 : Nat)
        | digits =>
            (((Scan.nat digits).map Prod.fst).getD 0 : Nat)
      else
        0

/- A decimal number without its sign. -/
def scanDecimal
    (negative : Bool)
    (text : List Char) : Option Binary64 :=
  let whole := text.takeWhile Char.isDigit
  let rest := text.dropWhile Char.isDigit
  let fraction :=
    if rest.head? = some '.' then
      rest.tail.takeWhile Char.isDigit
    else
      []
  let rest :=
    if rest.head? = some '.' then
      rest.tail.dropWhile Char.isDigit
    else
      rest
  if whole ++ fraction = [] then
    none
  else
    let digits := Nat.ofDigitChars 10 (whole ++ fraction) 0
    let power := scanExponent rest - (fraction.length : Int)
    some
      (ofRatio negative (digits * 10 ^ power.toNat)
        (10 ^ (-power).toNat))

/-
  `%lf`: white space, a sign, and a decimal number, an
  infinity or a NaN.  Hexadecimal numbers are left out.
-/
def scanLf (text : List Char) : Option Binary64 :=
  let text := text.dropWhile Scan.isSpace
  let negative := text.head? = some '-'
  let text :=
    if text.head? = some '-' ∨ text.head? = some '+' then
      text.tail
    else
      text
  let word := (text.take 3).map Char.toLower
  if word = ['i', 'n', 'f'] then
    some (infinity negative)
  else if word = ['n', 'a', 'n'] then
    some nan
  else
    scanDecimal negative text

/- Finite, and `%lf` reads back what `%f` prints. -/
def Representable (d : Binary64) : Prop :=
  d.IsFinite ∧ scanLf d.printF = some d

instance (d : Binary64) : Decidable d.Representable :=
  inferInstanceAs (Decidable (_ ∧ _))

------------------------------------------------------------
-- Printed Text
------------------------------------------------------------

/- The characters that `%f` may print. -/
def IsPrinted (c : Char) : Bool :=
  c.isDigit || c = '-' || c = '.' || c.isAlpha

theorem isPrinted_of_isDigit
    {c : Char}
    (hDigit : c.isDigit = true) :
    IsPrinted c = true := by
  unfold IsPrinted
  rw [hDigit]
  rfl

theorem isPrinted_toDigits
    {n : Nat}
    {c : Char}
    (hMem : c ∈ Nat.toDigits 10 n) :
    IsPrinted c = true := by
  apply isPrinted_of_isDigit
  exact
    Nat.isDigit_of_mem_toDigits (by decide) (by decide) hMem

theorem isPrinted_padded
    {width n : Nat}
    {c : Char}
    (hMem : c ∈ padded width n) :
    IsPrinted c = true := by
  rcases List.mem_append.mp hMem with hMem | hMem
  · rw [(List.mem_replicate.mp hMem).2]
    rfl
  · exact isPrinted_toDigits hMem

theorem mem_printF
    {d : Binary64}
    {c : Char}
    (hMem : c ∈ d.printF) :
    IsPrinted c = true := by
  rcases List.mem_append.mp hMem with hMem | hMem
  · split at hMem
    · rw [List.mem_singleton.mp hMem]
      rfl
    · cases hMem
  · split at hMem
    · split at hMem
      · simp only [List.mem_cons, List.not_mem_nil,
          or_false] at hMem
        rcases hMem with rfl | rfl | rfl <;> rfl
      · simp only [List.mem_cons, List.not_mem_nil,
          or_false] at hMem
        rcases hMem with rfl | rfl | rfl <;> rfl
    · rcases List.mem_append.mp hMem with hMem | hMem
      · exact isPrinted_toDigits hMem
      · rcases List.mem_cons.mp hMem with rfl | hMem
        · rfl
        · exact isPrinted_padded hMem

theorem printF_ne_nil (d : Binary64) : d.printF ≠ [] := by
  intro hNil
  rcases List.append_eq_nil_iff.mp hNil with ⟨_, hNil⟩
  split at hNil
  · split at hNil <;> cases hNil
  · rcases List.append_eq_nil_iff.mp hNil with ⟨_, hNil⟩
    cases hNil

end Binary64
