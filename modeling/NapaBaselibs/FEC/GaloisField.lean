import Mathlib
import NapaBaselibs.Lib.PowerField

/-
  The field that the erasure code computes in.

  An element is a byte.  Sums are exclusive ors; products and
  inverses are read from tables, which are filled with the
  powers of an element once, before the first code is made.

  Key definitions include:
    * `GfTables`, `generateGf`
    * `modnn`, `gfMul`
    * `Gf`, `primitivePoly`

  Key theorems include:
    * `generateGf_exp`, `generateGf_log`, `generateGf_inverse`
    * `modnn_eq`
    * `gf_is_polynomials_modulo`
-/

------------------------------------------------------------
-- Tables
------------------------------------------------------------

namespace NapaBaselibs

namespace FEC

/- The number of bits of an element: `GF_BITS`. -/
def gfBits : Nat := 8

/- The number of powers of the generator: `GF_SIZE`. -/
def gfSize : Nat := 2 ^ gfBits - 1

/- `allPp[GF_BITS]`: 1+x^2+x^3+x^4+x^8, from the constant on. -/
def pp : List Char :=
  ['1', '0', '1', '1', '1', '0', '0', '0', '1']

/- The tables `gf_exp`, `gf_log` and `inverse`. -/
structure GfTables where
  gfExp : List UInt8
  gfLog : List Nat
  inverse : List UInt8

namespace GfTables

def exp (t : GfTables) (i : Nat) : UInt8 :=
  t.gfExp.getD i 0

def log (t : GfTables) (x : UInt8) : Nat :=
  t.gfLog.getD x.toNat 0

def inv (t : GfTables) (x : UInt8) : UInt8 :=
  t.inverse.getD x.toNat 0

def setExp (t : GfTables) (i : Nat) (x : UInt8) : GfTables :=
  { t with gfExp := t.gfExp.set i x }

def setLog (t : GfTables) (x : UInt8) (i : Nat) : GfTables :=
  { t with gfLog := t.gfLog.set x.toNat i }

def setInv (t : GfTables) (i : Nat) (x : UInt8) : GfTables :=
  { t with inverse := t.inverse.set i x }

/- Static tables are filled with zeros at first. -/
def zeroed : GfTables :=
  { gfExp := List.replicate (2 * gfSize) 0
    gfLog := List.replicate (gfSize + 1) 0
    inverse := List.replicate (gfSize + 1) 0 }

end GfTables

/-
  The body of the first loop of `generate_gf`: a power that is
  a bit, which also goes into the power `GF_BITS` if the
  polynomial has it.
-/
def setLowPower
    (state : GfTables × UInt8)
    (i : Nat) : GfTables × UInt8 :=
  let (t, mask) := state
  let t := t.setExp i mask
  let t := t.setLog (t.exp i) i
  let t :=
    if pp.getD i ' ' = '1' then
      t.setExp gfBits (t.exp gfBits ^^^ mask)
    else t
  (t, mask <<< 1)

/- The first loop, and the logarithm of the next power. -/
def lowPowers : GfTables :=
  let t :=
    ((List.range gfBits).foldl setLowPower
      (GfTables.zeroed.setExp gfBits 0, 1)).1
  t.setLog (t.exp gfBits) gfBits

/- The mask of the second loop: `1 << (GF_BITS - 1)`. -/
def topBit : UInt8 := 1 <<< UInt8.ofNat (gfBits - 1)

/- The body of the second loop: the power after the last. -/
def setNextPower
    (t : GfTables)
    (i : Nat) : GfTables :=
  let last := t.exp (i - 1)
  let t :=
    if topBit ≤ last then
      t.setExp i (t.exp gfBits ^^^ ((last ^^^ topBit) <<< 1))
    else t.setExp i (last <<< 1)
  t.setLog (t.exp i) i

/- All of the powers, from `GF_BITS + 1` on. -/
def allPowers : GfTables :=
  (List.range' (gfBits + 1) (gfSize - gfBits - 1)).foldl
    setNextPower lowPowers

/- The powers are written once more behind themselves. -/
def extendExp
    (t : GfTables) : GfTables :=
  (List.range gfSize).foldl
    (fun t i => t.setExp (i + gfSize) (t.exp i)) t

/- The inverses, of which that of zero is zero. -/
def setInverses
    (t : GfTables) : GfTables :=
  (List.range' 2 (gfSize - 1)).foldl
    (fun t i =>
      t.setInv i (t.exp (gfSize - t.log (UInt8.ofNat i))))
    ((t.setInv 0 0).setInv 1 1)

/- `generate_gf`. -/
def generateGf : GfTables :=
  setInverses (extendExp (allPowers.setLog 0 gfSize))

/- `modnn`: the rest modulo `GF_SIZE`, without a division. -/
def modnn (x : Nat) : Nat :=
  if gfSize ≤ x then
    modnn (((x - gfSize) >>> gfBits) + ((x - gfSize) &&& gfSize))
  else x
termination_by x
decreasing_by
  simp only [gfSize, gfBits, Nat.shiftRight_eq_div_pow] at *
  have hAnd := Nat.and_two_pow_sub_one_eq_mod (x - (2 ^ 8 - 1)) 8
  omega

/-
  An entry of `gf_mul_table`, as `init_mul_table` leaves it:
  the row and the column of zero are overwritten.
-/
def gfMul (x y : UInt8) : UInt8 :=
  if x = 0 ∨ y = 0 then 0
  else
    generateGf.exp
      (modnn (generateGf.log x + generateGf.log y))

------------------------------------------------------------
-- Powers
------------------------------------------------------------

/- The power after one, as the second loop computes it. -/
def timesX (x : UInt8) : UInt8 :=
  if topBit ≤ x then
    lowPowers.exp gfBits ^^^ ((x ^^^ topBit) <<< 1)
  else x <<< 1

/- The powers in their order, from one on. -/
def power (i : Nat) : UInt8 :=
  timesX^[i] 1

theorem power_succ (i : Nat) :
    power (i + 1) = timesX (power i) :=
  Function.iterate_succ_apply' _ _ _

theorem power_succ_apply (i : Nat) :
    power (i + 1) = timesX^[i] (timesX 1) := rfl

theorem power_add (i j : Nat) :
    power (i + j) = timesX^[i] (power j) :=
  Function.iterate_add_apply _ _ _ _

/- The generator is primitive: no power before is one. -/
theorem power_returns :
    power gfSize = 1 ∧
      ∀ i, 0 < i → i < gfSize → power i ≠ 1 := by
  have hCheck :
      PowerField.Generator.comesTo timesX 1 (gfSize - 1)
        (timesX 1) = true := by
    decide +kernel
  obtain ⟨hEnd, hBefore⟩ :=
    (PowerField.Generator.comesTo_iff _ _ _ _).mp hCheck
  have hLast : gfSize - 1 + 1 = gfSize := by decide
  rw [← power_succ_apply, hLast] at hEnd
  refine ⟨hEnd, ?_⟩
  intro i hPos hBelow
  obtain ⟨j, rfl⟩ := Nat.exists_eq_succ_of_ne_zero hPos.ne'
  exact hBefore j (by omega)

theorem power_add_gfSize (i : Nat) :
    power (i + gfSize) = power i := by
  rw [power_add, power_returns.1, power]

------------------------------------------------------------
-- Elements
------------------------------------------------------------

/- An element of the field: `gf` is an unsigned char. -/
@[ext]
structure Gf where
  byte : UInt8
deriving DecidableEq, Repr

namespace Gf

/- Sums are exclusive ors, and so are differences. -/
instance : Add Gf := ⟨fun x y => ⟨x.byte ^^^ y.byte⟩⟩

instance : Zero Gf := ⟨⟨0⟩⟩

instance : One Gf := ⟨⟨1⟩⟩

instance : Neg Gf := ⟨fun x => x⟩

instance : Sub Gf := ⟨fun x y => ⟨x.byte ^^^ y.byte⟩⟩

@[simp] theorem byte_add (x y : Gf) :
    (x + y).byte = x.byte ^^^ y.byte := rfl

@[simp] theorem byte_zero : (0 : Gf).byte = 0 := rfl

@[simp] theorem byte_one : (1 : Gf).byte = 1 := rfl

instance : AddCommGroup Gf where
  add_assoc x y z := Gf.ext (UInt8.xor_assoc _ _ _)
  zero_add x := Gf.ext UInt8.zero_xor
  add_zero x := Gf.ext UInt8.xor_zero
  add_comm x y := Gf.ext (UInt8.xor_comm _ _)
  neg_add_cancel x := Gf.ext UInt8.xor_self
  sub_eq_add_neg x y := rfl
  nsmul := nsmulRec
  zsmul := zsmulRec

/- Every element is its own opposite. -/
theorem add_self (x : Gf) : x + x = 0 :=
  neg_add_cancel x

/- The elements are the bytes. -/
def equivFin : Gf ≃ Fin UInt8.size where
  toFun x := x.byte.toFin
  invFun i := ⟨UInt8.ofFin i⟩
  left_inv _ := rfl
  right_inv _ := rfl

instance : Fintype Gf :=
  Fintype.ofEquiv (Fin UInt8.size) equivFin.symm

theorem card_eq : Nat.card Gf = gfSize + 1 := by
  rw [Nat.card_congr equivFin, Nat.card_eq_fintype_card,
    Fintype.card_fin]
  rfl

end Gf

------------------------------------------------------------
-- The Generator
------------------------------------------------------------

/- The power after the last bit, as the polynomial gives it. -/
theorem lowPowers_exp_gfBits :
    lowPowers.exp gfBits = 29 := by
  decide +kernel

/- What is added for a bit that is shifted out. -/
def carry (x : UInt8) : UInt8 :=
  if x.toBitVec.msb then 29 else 0

theorem topBit_le_iff (x : UInt8) :
    topBit ≤ x ↔ x.toBitVec.msb = true := by
  rw [BitVec.msb_eq_decide, decide_eq_true_iff,
    UInt8.le_iff_toNat_le]
  rfl

theorem timesX_eq (x : UInt8) :
    timesX x = (x <<< 1) ^^^ carry x := by
  have hOut : topBit <<< 1 = 0 := by decide
  rw [timesX, carry]
  by_cases hTop : topBit ≤ x
  · rw [if_pos hTop, if_pos ((topBit_le_iff x).mp hTop),
      lowPowers_exp_gfBits, UInt8.shiftLeft_xor, hOut,
      UInt8.xor_zero, UInt8.xor_comm]
  · rw [if_neg hTop, if_neg (mt (topBit_le_iff x).mpr hTop),
      UInt8.xor_zero]

theorem carry_xor (x y : UInt8) :
    carry (x ^^^ y) = carry x ^^^ carry y := by
  simp only [carry, UInt8.toBitVec_xor, BitVec.msb_xor]
  cases x.toBitVec.msb <;> cases y.toBitVec.msb <;> simp

/- The multiplication by the generator is additive. -/
theorem timesX_xor (x y : UInt8) :
    timesX (x ^^^ y) = timesX x ^^^ timesX y := by
  simp only [timesX_eq, UInt8.shiftLeft_xor, carry_xor]
  ac_rfl

/- The multiplication by the generator, on elements. -/
def timesGf : Gf →+ Gf where
  toFun x := ⟨timesX x.byte⟩
  map_zero' := Gf.ext (by decide)
  map_add' x y := Gf.ext (timesX_xor x.byte y.byte)

theorem iterate_timesGf_byte
    (i : Nat)
    (x : Gf) :
    (timesGf^[i] x).byte = timesX^[i] x.byte := by
  induction i generalizing x with
  | zero => rfl
  | succ i ih => exact ih (timesGf x)

theorem iterate_timesGf_one (i : Nat) :
    timesGf^[i] 1 = ⟨power i⟩ :=
  Gf.ext (iterate_timesGf_byte i 1)

/- The powers are all of the elements but zero. -/
def generator : PowerField.Generator Gf where
  times := timesGf
  one := 1
  period := gfSize
  one_ne_zero := by decide
  iterate_period := by
    rw [iterate_timesGf_one, power_returns.1]
    rfl
  covers _ hNonzero := by
    apply PowerField.Generator.covers_of_first_return
      Gf.card_eq (by decide) _ _ hNonzero
    · rw [iterate_timesGf_one, power_returns.1]
      rfl
    · intro i hPos hBelow hOne
      rw [iterate_timesGf_one] at hOne
      exact power_returns.2 i hPos hBelow (congrArg Gf.byte hOne)

theorem generator_power (i : Nat) :
    generator.power i = ⟨power i⟩ :=
  iterate_timesGf_one i

theorem power_ne_zero (i : Nat) :
    power i ≠ 0 := by
  intro hZero
  apply generator.power_ne_zero i
  rw [generator_power, hZero]
  rfl

/- Every byte but zero is a power. -/
theorem exists_power
    {x : UInt8}
    (hNonzero : x ≠ 0) :
    ∃ i < gfSize, power i = x := by
  have hElement : (⟨x⟩ : Gf) ≠ 0 := by
    intro hZero
    exact hNonzero (congrArg Gf.byte hZero)
  obtain ⟨i, hBelow, hPower⟩ := generator.exists_power hElement
  rw [generator_power] at hPower
  exact ⟨i, hBelow, congrArg Gf.byte hPower⟩

/- Powers below the period differ. -/
theorem power_injective
    {i j : Nat}
    (hI : i < gfSize)
    (hJ : j < gfSize)
    (hEqual : power i = power j) :
    i = j := by
  have hFirst := power_returns.2
  rcases Nat.lt_trichotomy i j with h | h | h
  · exact
      absurd hEqual
        (PowerField.Generator.iterate_ne_of_first_return
          power_returns.1 hFirst h hJ)
  · exact h
  · exact
      absurd hEqual.symm
        (PowerField.Generator.iterate_ne_of_first_return
          power_returns.1 hFirst h hI)

------------------------------------------------------------
-- What the Tables Hold
------------------------------------------------------------

namespace GfTables

variable {t : GfTables}

theorem exp_setExp
    {i : Nat}
    (hInside : i < t.gfExp.length)
    (x : UInt8)
    (j : Nat) :
    (t.setExp i x).exp j = if j = i then x else t.exp j := by
  simp only [exp, setExp, List.getD_eq_getElem?_getD,
    List.getElem?_set]
  split_ifs with hEqual hSame hSame
  · rfl
  · exact absurd hEqual.symm hSame
  · exact absurd hSame.symm hEqual
  · rfl

theorem log_setLog
    {x : UInt8}
    (hLength : t.gfLog.length = gfSize + 1)
    (i : Nat)
    (y : UInt8) :
    (t.setLog x i).log y = if y = x then i else t.log y := by
  have hInside : x.toNat < t.gfLog.length := by
    rw [hLength]
    exact x.toNat_lt
  simp only [log, setLog, List.getD_eq_getElem?_getD,
    List.getElem?_set, UInt8.toNat_inj, hInside, if_true]
  split_ifs with hEqual hSame hSame
  · rfl
  · exact absurd hEqual.symm hSame
  · exact absurd hSame.symm hEqual
  · rfl

@[simp] theorem exp_setLog (x : UInt8) (i j : Nat) :
    (t.setLog x i).exp j = t.exp j := rfl

@[simp] theorem log_setExp (i : Nat) (x y : UInt8) :
    (t.setExp i x).log y = t.log y := rfl

@[simp] theorem length_setExp (i : Nat) (x : UInt8) :
    (t.setExp i x).gfExp.length = t.gfExp.length :=
  List.length_set

@[simp] theorem length_setLog (x : UInt8) (i : Nat) :
    (t.setLog x i).gfLog.length = t.gfLog.length :=
  List.length_set

/- The powers up to one are in the tables. -/
structure HoldsUpTo (t : GfTables) (n : Nat) : Prop where
  lengthExp : t.gfExp.length = 2 * gfSize
  lengthLog : t.gfLog.length = gfSize + 1
  lengthInverse : t.inverse.length = gfSize + 1
  exp : ∀ i ≤ n, t.exp i = power i
  log : ∀ i ≤ n, t.log (power i) = i

end GfTables

open GfTables

theorem lowPowers_holds :
    lowPowers.HoldsUpTo gfBits where
  lengthExp := by decide +kernel
  lengthLog := by decide +kernel
  lengthInverse := by decide +kernel
  exp := by decide +kernel
  log := by decide +kernel

/- A turn of the second loop: the next power is another one. -/
theorem setNextPower_holds
    {t : GfTables}
    {n : Nat}
    (hLow : gfBits ≤ n)
    (hBelow : n + 1 < gfSize)
    (hHolds : t.HoldsUpTo n) :
    (setNextPower t (n + 1)).HoldsUpTo (n + 1) := by
  have hInside : n + 1 < t.gfExp.length := by
    rw [hHolds.lengthExp]
    omega
  have hTop : t.exp gfBits = lowPowers.exp gfBits := by
    rw [hHolds.exp _ hLow, lowPowers_holds.exp _ le_rfl]
  have hStep :
      setNextPower t (n + 1) =
        (t.setExp (n + 1) (power (n + 1))).setLog
          (power (n + 1)) (n + 1) := by
    simp only [setNextPower, Nat.add_sub_cancel, hTop,
      hHolds.exp n le_rfl]
    rw [power_succ, timesX]
    split_ifs <;> rw [exp_setExp hInside, if_pos rfl]
  rw [hStep]
  refine ⟨?_, ?_, hHolds.lengthInverse, ?_, ?_⟩
  · rw [← hHolds.lengthExp]
    exact length_setExp _ _
  · rw [length_setLog]
    exact hHolds.lengthLog
  · intro i hAtMost
    rw [exp_setLog, exp_setExp hInside]
    split_ifs with hNew
    · rw [hNew]
    · exact hHolds.exp i (by omega)
  · intro i hAtMost
    have hLength :
        (t.setExp (n + 1) (power (n + 1))).gfLog.length =
          gfSize + 1 := hHolds.lengthLog
    rw [log_setLog hLength]
    split_ifs with hNew
    · exact (power_injective (by omega) hBelow hNew).symm
    · apply hHolds.log i
      by_contra hLate
      exact hNew (by rw [show i = n + 1 by omega])

/- The turns of the second loop, one after the other. -/
theorem foldl_setNextPower_holds
    (m : Nat)
    (hBelow : gfBits + m < gfSize) :
    ((List.range' (gfBits + 1) m).foldl
      setNextPower lowPowers).HoldsUpTo (gfBits + m) := by
  induction m with
  | zero => exact lowPowers_holds
  | succ m ih =>
      rw [List.range'_concat, List.foldl_append]
      have hTurn :=
        setNextPower_holds (Nat.le_add_right gfBits m) hBelow
          (ih (by omega))
      simpa only [List.foldl_cons, List.foldl_nil, Nat.one_mul,
        Nat.add_right_comm gfBits 1 m, Nat.add_assoc gfBits m 1]
        using hTurn

theorem allPowers_holds :
    allPowers.HoldsUpTo (gfSize - 1) :=
  foldl_setNextPower_holds (gfSize - gfBits - 1) (by decide)

/- The logarithm of zero does not touch those of powers. -/
theorem setLog_zero_holds
    {t : GfTables}
    {n : Nat}
    (hHolds : t.HoldsUpTo n) :
    (t.setLog 0 gfSize).HoldsUpTo n where
  lengthExp := hHolds.lengthExp
  lengthLog := by
    rw [length_setLog]
    exact hHolds.lengthLog
  lengthInverse := hHolds.lengthInverse
  exp := hHolds.exp
  log i hAtMost := by
    rw [log_setLog hHolds.lengthLog, if_neg (power_ne_zero i)]
    exact hHolds.log i hAtMost

/- What the copies leave: each power stands a period later. -/
theorem foldl_extend
    (t : GfTables)
    (hHolds : t.HoldsUpTo (gfSize - 1))
    (m : Nat)
    (hAtMost : m ≤ gfSize) :
    let t' :=
      (List.range m).foldl
        (fun t i => t.setExp (i + gfSize) (t.exp i)) t
    t'.gfLog = t.gfLog ∧ t'.inverse = t.inverse ∧
      t'.gfExp.length = 2 * gfSize ∧
      ∀ i < gfSize + m, t'.exp i = power i := by
  induction m with
  | zero =>
      exact
        ⟨rfl, rfl, hHolds.lengthExp,
          fun i hBelow => hHolds.exp i (by omega)⟩
  | succ m ih =>
      obtain ⟨hLog, hInv, hLength, hExp⟩ := ih (by omega)
      simp only [List.range_succ, List.foldl_append,
        List.foldl_cons, List.foldl_nil]
      generalize (List.range m).foldl
        (fun t i => t.setExp (i + gfSize) (t.exp i)) t = u at *
      refine ⟨hLog, hInv, ?_, ?_⟩
      · rw [length_setExp, hLength]
      · intro i hBelow
        rw [exp_setExp (by omega)]
        split_ifs with hNew
        · rw [hExp m (by omega), hNew, power_add_gfSize]
        · exact hExp i (by omega)

/- The tables that the inverses are computed from. -/
structure Complete (t : GfTables) : Prop where
  exp : ∀ i < 2 * gfSize, t.exp i = power i
  log : ∀ i < gfSize, t.log (power i) = i
  lengthInverse : t.inverse.length = gfSize + 1

theorem extendExp_complete
    {t : GfTables}
    (hHolds : t.HoldsUpTo (gfSize - 1)) :
    Complete (extendExp t) := by
  obtain ⟨hLog, hInv, _, hExp⟩ :=
    foldl_extend t hHolds gfSize le_rfl
  refine ⟨fun i hBelow => hExp i (by omega), ?_, ?_⟩
  · intro i hBelow
    have hSame :
        (extendExp t).log (power i) = t.log (power i) :=
      congrArg (fun l => l.getD (power i).toNat 0) hLog
    rw [hSame, hHolds.log i (by omega)]
  · rw [← hHolds.lengthInverse]
    exact congrArg List.length hInv

theorem powers_complete :
    Complete (extendExp (allPowers.setLog 0 gfSize)) :=
  extendExp_complete (setLog_zero_holds allPowers_holds)

theorem inv_setInv
    {t : GfTables}
    {i : Nat}
    (hInside : i < t.inverse.length)
    (y : UInt8)
    (x : UInt8) :
    (t.setInv i y).inv x = if x.toNat = i then y else t.inv x := by
  simp only [inv, setInv, List.getD_eq_getElem?_getD,
    List.getElem?_set]
  split_ifs with hEqual hSame hSame
  · rfl
  · exact absurd hEqual.symm hSame
  · exact absurd hSame.symm hEqual
  · rfl

/- What the loop over the inverses leaves. -/
theorem foldl_setInv
    {t : GfTables}
    (hComplete : Complete t)
    (m : Nat)
    (hAtMost : m + 2 ≤ gfSize + 1) :
    let t' :=
      (List.range' 2 m).foldl
        (fun t i =>
          t.setInv i (t.exp (gfSize - t.log (UInt8.ofNat i))))
        ((t.setInv 0 0).setInv 1 1)
    t'.gfExp = t.gfExp ∧ t'.gfLog = t.gfLog ∧
      t'.inverse.length = gfSize + 1 ∧
      ∀ x : UInt8, x.toNat < m + 2 →
        t'.inv x =
          if x.toNat ≤ 1 then x else t.exp (gfSize - t.log x) := by
  have hLength := hComplete.lengthInverse
  induction m with
  | zero =>
      refine ⟨rfl, rfl, ?_, ?_⟩
      · simpa [setInv] using hLength
      · intro x hBelow
        have hFirst : 0 < t.inverse.length := by omega
        have hSecond : 1 < (t.setInv 0 0).inverse.length := by
          simp only [setInv, List.length_set]
          rw [hLength]
          decide
        simp only [List.range'_zero, List.foldl_nil]
        rw [inv_setInv hSecond, inv_setInv hFirst,
          if_pos (show x.toNat ≤ 1 by omega)]
        split_ifs with hOne hZero
        · exact (UInt8.toNat_inj.mp hOne).symm
        · exact (UInt8.toNat_inj.mp hZero).symm
        · omega
  | succ m ih =>
      obtain ⟨hExp, hLog, hLen, hInv⟩ := ih (by omega)
      simp only [List.range'_concat, List.foldl_append,
        List.foldl_cons, List.foldl_nil, Nat.one_mul]
      generalize (List.range' 2 m).foldl
        (fun t i =>
          t.setInv i (t.exp (gfSize - t.log (UInt8.ofNat i))))
        ((t.setInv 0 0).setInv 1 1) = u at *
      refine ⟨hExp, hLog, ?_, ?_⟩
      · simpa [setInv] using hLen
      · intro x hBelow
        rw [inv_setInv (by omega)]
        split_ifs with hNew hSmall hSmall
        · omega
        · have hByte : UInt8.ofNat (2 + m) = x := by
            rw [← hNew, UInt8.ofNat_toNat]
          rw [hByte, GfTables.exp, GfTables.log, hExp, hLog]
          rfl
        · rw [hInv x (by omega), if_pos hSmall]
        · rw [hInv x (by omega), if_neg hSmall]

/- The tables after `generate_gf`. -/
theorem generateGf_exp
    {i : Nat}
    (hBelow : i < 2 * gfSize) :
    generateGf.exp i = power i := by
  have hComplete := powers_complete
  obtain ⟨hExp, _, _, _⟩ :=
    foldl_setInv hComplete (gfSize - 1) (by decide)
  rw [← hComplete.exp i hBelow]
  exact congrArg (fun l => l.getD i 0) hExp

theorem generateGf_log
    {i : Nat}
    (hBelow : i < gfSize) :
    generateGf.log (power i) = i := by
  have hComplete := powers_complete
  obtain ⟨_, hLog, _, _⟩ :=
    foldl_setInv hComplete (gfSize - 1) (by decide)
  have hSame :
      generateGf.log (power i) =
        (extendExp (allPowers.setLog 0 gfSize)).log (power i) :=
    congrArg (fun l => l.getD (power i).toNat 0) hLog
  rw [hSame, hComplete.log i hBelow]

/- The inverse of a power has what is left of the period. -/
theorem generateGf_inverse
    {i : Nat}
    (hBelow : i < gfSize) :
    generateGf.inv (power i) = power (gfSize - i) := by
  have hComplete := powers_complete
  obtain ⟨_, _, _, hInv⟩ :=
    foldl_setInv hComplete (gfSize - 1) (by decide)
  have hByte : (power i).toNat < gfSize - 1 + 2 :=
    lt_of_lt_of_eq (power i).toNat_lt (by decide)
  have hEntry : generateGf.inv (power i) = _ :=
    hInv (power i) hByte
  rw [hEntry]
  split_ifs with hSmall
  · have hOne : power i = power 0 := by
      apply UInt8.toNat_inj.mp
      have hNonzero : (power i).toNat ≠ (0 : UInt8).toNat :=
        fun h => power_ne_zero i (UInt8.toNat_inj.mp h)
      change (power i).toNat = 1
      change (power i).toNat ≠ 0 at hNonzero
      omega
    have hZero := power_injective hBelow (by decide) hOne
    rw [hZero, Nat.sub_zero, power_returns.1]
    rfl
  · rw [hComplete.log i hBelow]
    exact hComplete.exp _ (by omega)

/- Zero has no inverse; its entry is zero. -/
theorem generateGf_inverse_zero :
    generateGf.inv 0 = 0 := by
  have hComplete := powers_complete
  obtain ⟨_, _, _, hInv⟩ :=
    foldl_setInv hComplete (gfSize - 1) (by decide)
  have hEntry : generateGf.inv 0 = _ := hInv 0 (by decide)
  rw [hEntry]
  rfl

-- From here on the tables are known by what they hold.
attribute [irreducible] generateGf

------------------------------------------------------------
-- Products
------------------------------------------------------------

/- `modnn` is the rest modulo `GF_SIZE`. -/
theorem modnn_eq (x : Nat) :
    modnn x = x % gfSize := by
  induction x using modnn.induct with
  | case1 x hLarge ih =>
      rw [modnn, if_pos hLarge, ih]
      have hAnd :
          (x - gfSize) &&& gfSize = (x - gfSize) % 2 ^ gfBits :=
        Nat.and_two_pow_sub_one_eq_mod _ _
      rw [hAnd, Nat.shiftRight_eq_div_pow]
      simp only [gfSize, gfBits] at *
      omega
  | case2 x hSmall =>
      rw [modnn, if_neg hSmall, Nat.mod_eq_of_lt (by omega)]

theorem generator_period :
    generator.period = gfSize := rfl

theorem power_mod (i : Nat) :
    power (i % gfSize) = power i := by
  have hMod := generator.power_mod i
  rw [generator_power, generator_power, generator_period] at hMod
  exact congrArg Gf.byte hMod

/- The product of two powers adds the exponents. -/
theorem gfMul_power (i j : Nat) :
    gfMul (power i) (power j) = power (i + j) := by
  have hPos : 0 < gfSize := by decide
  have hLog : ∀ n, generateGf.log (power n) = n % gfSize := by
    intro n
    rw [← power_mod n, generateGf_log (Nat.mod_lt n hPos)]
  have hBelow : (i + j) % gfSize < 2 * gfSize := by
    have := Nat.mod_lt (i + j) hPos
    omega
  rw [gfMul,
    if_neg (not_or.mpr ⟨power_ne_zero i, power_ne_zero j⟩),
    hLog, hLog, modnn_eq, ← Nat.add_mod, generateGf_exp hBelow,
    power_mod]

theorem gfMul_zero_left (y : UInt8) :
    gfMul 0 y = 0 :=
  if_pos (Or.inl rfl)

theorem gfMul_zero_right (x : UInt8) :
    gfMul x 0 = 0 :=
  if_pos (Or.inr rfl)

namespace Gf

/- Products and inverses are read from the tables. -/
instance : Mul Gf := ⟨fun x y => ⟨gfMul x.byte y.byte⟩⟩

instance : Inv Gf := ⟨fun x => ⟨generateGf.inv x.byte⟩⟩

@[simp] theorem byte_mul (x y : Gf) :
    (x * y).byte = gfMul x.byte y.byte := rfl

@[simp] theorem byte_inv (x : Gf) :
    x⁻¹.byte = generateGf.inv x.byte := rfl

end Gf

theorem gf_addsExponents :
    PowerField.AddsExponents generator
      (fun x y : Gf => x * y) where
  zero_left y := Gf.ext (gfMul_zero_left y.byte)
  zero_right x := Gf.ext (gfMul_zero_right x.byte)
  powers i j := by
    simp only [generator_power]
    exact Gf.ext (gfMul_power i j)

theorem gf_inverts :
    PowerField.Inverts generator (fun x : Gf => x⁻¹) where
  powers i hBelow := by
    simp only [generator_power]
    exact Gf.ext (generateGf_inverse hBelow)

/- The tables make the bytes a field. -/
instance : Field Gf where
  __ := (inferInstance : AddCommGroup Gf)
  mul_assoc := gf_addsExponents.mul_assoc
  one_mul := gf_addsExponents.one_mul
  mul_one x := by
    rw [gf_addsExponents.mul_comm]
    exact gf_addsExponents.one_mul x
  left_distrib := gf_addsExponents.mul_add
  right_distrib := gf_addsExponents.add_mul
  zero_mul := gf_addsExponents.zero_left
  mul_zero := gf_addsExponents.zero_right
  mul_comm := gf_addsExponents.mul_comm
  exists_pair_ne := ⟨0, 1, by decide⟩
  mul_inv_cancel x hNonzero :=
    gf_inverts.mul_inv_cancel gf_addsExponents hNonzero
  inv_zero := Gf.ext generateGf_inverse_zero
  nnqsmul := _
  nnqsmul_def := fun _ _ => rfl
  qsmul := _
  qsmul_def := fun _ _ => rfl

instance : CharP Gf 2 :=
  CharTwo.of_one_ne_zero_of_two_eq_zero one_ne_zero
    (by rw [← one_add_one_eq_two, Gf.add_self])

------------------------------------------------------------
-- Polynomials
------------------------------------------------------------

open Polynomial

/- The polynomial whose coefficients `allPp` lists. -/
noncomputable def primitivePoly : (ZMod 2)[X] :=
  ∑ i ∈ Finset.range (gfBits + 1),
    if pp.getD i ' ' = '1' then X ^ i else 0

/- A byte, read as the coefficients of a polynomial. -/
noncomputable def toPoly (x : UInt8) : (ZMod 2)[X] :=
  ∑ i ∈ Finset.range gfBits,
    if x.toBitVec.getLsbD i then X ^ i else 0

theorem primitivePoly_eq :
    primitivePoly = 1 + X ^ 2 + X ^ 3 + X ^ 4 + X ^ 8 := by
  simp [primitivePoly, gfBits, Finset.sum_range_succ, pp]

theorem toPoly_xor (x y : UInt8) :
    toPoly (x ^^^ y) = toPoly x + toPoly y := by
  rw [toPoly, toPoly, toPoly, ← Finset.sum_add_distrib]
  refine Finset.sum_congr rfl fun i _ => ?_
  rw [UInt8.toBitVec_xor, BitVec.getLsbD_xor]
  cases x.toBitVec.getLsbD i <;> cases y.toBitVec.getLsbD i <;>
    simp [CharTwo.add_self_eq_zero]

theorem toPoly_zero : toPoly 0 = 0 := by
  simp [toPoly]

theorem toPoly_one : toPoly 1 = 1 := by
  simp [toPoly, gfBits]

/- The bits that a shift moves, and the one it drops. -/
theorem toPoly_shift (x : UInt8) :
    toPoly (x <<< 1) + (if x.toBitVec.msb then X ^ 8 else 0) =
      X * toPoly x := by
  have hMoved :
      ∀ i ∈ Finset.range 7,
        (if (x <<< 1).toBitVec.getLsbD (i + 1) then
            (X : (ZMod 2)[X]) ^ (i + 1)
          else 0) =
          if x.toBitVec.getLsbD i then X ^ (i + 1) else 0 := by
    intro i hMem
    have hBelow : i + 1 < 8 := by
      have := Finset.mem_range.mp hMem
      omega
    have hSame : x.toBitVec.getLsbD i = x.toBitVec[i] :=
      BitVec.getLsbD_eq_getElem (by omega)
    simp [UInt8.toBitVec_shiftLeft, hBelow, hSame]
  have hLow : (x <<< 1).toBitVec.getLsbD 0 = false := by
    simp [UInt8.toBitVec_shiftLeft]
  have hTimes :
      ∀ i, X * (if x.toBitVec.getLsbD i then
          (X : (ZMod 2)[X]) ^ i else 0) =
        if x.toBitVec.getLsbD i then X ^ (i + 1) else 0 := by
    intro i
    rw [mul_ite, mul_zero, ← pow_succ']
  have hTop : x.toBitVec.msb = x.toBitVec.getLsbD 7 := rfl
  rw [toPoly, toPoly, gfBits, Finset.sum_range_succ',
    Finset.sum_congr rfl hMoved, hLow, hTop, Finset.mul_sum,
    Finset.sum_range_succ _ 7]
  simp only [hTimes, Bool.false_eq_true, if_false, add_zero]

/- A power more is a factor more, modulo the polynomial. -/
theorem toPoly_timesX (x : UInt8) :
    toPoly (timesX x) +
        (if x.toBitVec.msb then primitivePoly else 0) =
      X * toPoly x := by
  have hCarry :
      toPoly (carry x) =
        if x.toBitVec.msb then 1 + X ^ 2 + X ^ 3 + X ^ 4
        else 0 := by
    rw [carry]
    split_ifs
    · simp [toPoly, gfBits, Finset.sum_range_succ]
    · exact toPoly_zero
  rw [timesX_eq, toPoly_xor, hCarry, primitivePoly_eq,
    ← toPoly_shift]
  split_ifs
  · linear_combination
      CharTwo.add_self_eq_zero
        (1 + X ^ 2 + X ^ 3 + X ^ 4 : (ZMod 2)[X])
  · simp

theorem primitivePoly_monic : primitivePoly.Monic := by
  rw [primitivePoly_eq]
  monicity!

theorem primitivePoly_natDegree :
    primitivePoly.natDegree = gfBits := by
  rw [primitivePoly_eq, gfBits]
  compute_degree!

/- The residue that a byte stands for. -/
noncomputable def residue (x : Gf) : AdjoinRoot primitivePoly :=
  AdjoinRoot.mk primitivePoly (toPoly x.byte)

theorem residue_add (x y : Gf) :
    residue (x + y) = residue x + residue y := by
  rw [residue, Gf.byte_add, toPoly_xor, map_add]
  rfl

theorem residue_timesX (x : UInt8) :
    residue ⟨timesX x⟩ =
      AdjoinRoot.root primitivePoly * residue ⟨x⟩ := by
  have hStep :=
    congrArg (AdjoinRoot.mk primitivePoly) (toPoly_timesX x)
  rw [map_add, map_mul, AdjoinRoot.mk_X] at hStep
  rw [residue, residue, ← hStep]
  split_ifs
  · rw [AdjoinRoot.mk_self, add_zero]
  · rw [map_zero, add_zero]

theorem residue_power (i : Nat) :
    residue ⟨power i⟩ = AdjoinRoot.root primitivePoly ^ i := by
  induction i with
  | zero =>
      change residue ⟨1⟩ = _
      rw [residue, toPoly_one, map_one, pow_zero]
  | succ i ih =>
      rw [power_succ, residue_timesX, ih, pow_succ']

theorem residue_mul (x y : Gf) :
    residue (x * y) = residue x * residue y := by
  by_cases hX : x = 0
  · rw [hX, zero_mul, residue, Gf.byte_zero, toPoly_zero, map_zero,
      zero_mul]
  by_cases hY : y = 0
  · rw [hY, mul_zero]
    simp [residue, toPoly_zero]
  obtain ⟨i, _, rfl⟩ := generator.exists_power hX
  obtain ⟨j, _, rfl⟩ := generator.exists_power hY
  simp only [generator_power]
  rw [residue_power, residue_power, ← pow_add, ← residue_power]
  exact congrArg residue (Gf.ext (gfMul_power i j))

/- Bytes as residues, with the products of the tables. -/
noncomputable def residueHom :
    Gf →+* AdjoinRoot primitivePoly where
  toFun := residue
  map_zero' := by simp [residue, toPoly_zero]
  map_one' := by rw [residue, Gf.byte_one, toPoly_one, map_one]
  map_add' := residue_add
  map_mul' := residue_mul

/- A residue is a sum of powers of the root. -/
theorem residueHom_surjective :
    Function.Surjective residueHom := by
  intro r
  obtain ⟨f, rfl⟩ := AdjoinRoot.mk_surjective r
  induction f using Polynomial.induction_on' with
  | add f g hF hG =>
      obtain ⟨x, hX⟩ := hF
      obtain ⟨y, hY⟩ := hG
      exact ⟨x + y, by rw [map_add, map_add, hX, hY]⟩
  | monomial n a =>
      rcases (by decide : ∀ a : ZMod 2, a = 0 ∨ a = 1) a with h | h
      · exact ⟨0, by rw [h, map_zero, map_zero, map_zero]⟩
      · refine ⟨⟨power n⟩, ?_⟩
        rw [h, ← Polynomial.X_pow_eq_monomial, map_pow,
          AdjoinRoot.mk_X]
        exact residue_power n

instance : Nontrivial (AdjoinRoot primitivePoly) := by
  apply AdjoinRoot.nontrivial
  rw [Polynomial.degree_eq_natDegree primitivePoly_monic.ne_zero,
    primitivePoly_natDegree]
  decide

/-
  The residues are a field, since they are the bytes, so the
  polynomial has no factors.
-/
theorem primitivePoly_irreducible :
    Irreducible primitivePoly := by
  have hBijective : Function.Bijective residueHom :=
    ⟨residueHom.injective, residueHom_surjective⟩
  have hDomain : IsDomain (AdjoinRoot primitivePoly) :=
    (RingEquiv.ofBijective residueHom
      hBijective).symm.toMulEquiv.isDomain Gf
  have hPrime :
      (Ideal.span {primitivePoly}).IsPrime :=
    (Ideal.Quotient.isDomain_iff_prime _).mp hDomain
  exact
    ((Ideal.span_singleton_prime
      primitivePoly_monic.ne_zero).mp hPrime).irreducible

theorem degree_toPoly (x : UInt8) :
    (toPoly x).degree < primitivePoly.degree := by
  rw [Polynomial.degree_eq_natDegree primitivePoly_monic.ne_zero,
    primitivePoly_natDegree]
  refine lt_of_le_of_lt (Polynomial.degree_sum_le _ _) ?_
  refine (Finset.sup_lt_iff (by decide)).mpr fun i hMem => ?_
  have hBelow := Finset.mem_range.mp hMem
  split_ifs
  · rw [Polynomial.degree_X_pow]
    exact_mod_cast hBelow
  · rw [Polynomial.degree_zero]
    exact WithBot.bot_lt_coe _

/-
  The table of products multiplies polynomials modulo the one
  that `allPp` lists, which is irreducible, and the table of
  inverses holds the inverses.
-/
theorem gfMul_is_product_modulo :
    Irreducible primitivePoly ∧
      (∀ x y,
        toPoly (gfMul x y) =
          (toPoly x * toPoly y) %ₘ primitivePoly) ∧
      ∀ x, x ≠ 0 →
        (toPoly x * toPoly (generateGf.inv x)) %ₘ primitivePoly
          = 1 := by
  have hProduct :
      ∀ x y,
        toPoly (gfMul x y) =
          (toPoly x * toPoly y) %ₘ primitivePoly := by
    intro x y
    have hSame := residue_mul ⟨x⟩ ⟨y⟩
    rw [residue, residue, residue, ← map_mul,
      AdjoinRoot.mk_eq_mk] at hSame
    rw [← Polynomial.modByMonic_eq_of_dvd_sub primitivePoly_monic
      hSame]
    exact
      ((Polynomial.modByMonic_eq_self_iff
        primitivePoly_monic).mpr (degree_toPoly _)).symm
  refine ⟨primitivePoly_irreducible, hProduct, ?_⟩
  intro x hNonzero
  have hElement : (⟨x⟩ : Gf) ≠ 0 :=
    fun h => hNonzero (congrArg Gf.byte h)
  have hOne := congrArg Gf.byte (mul_inv_cancel₀ hElement)
  rw [← hProduct, ← toPoly_one]
  exact congrArg toPoly hOne

end FEC

end NapaBaselibs
