import Mathlib.Data.List.Induction
import NapaBaselibs.Lib.Scan
import NapaBaselibs.Inet.Dotted

/-
  IPv6 addresses in text, as they are read.

  The texts that the parser accepts are described by a grammar:
  groups of one to four digits with colons between them, of
  which the last may be an IPv4 address, and two colons once in
  the place of groups that are zero.

  Key definitions include:
    * `Groups`, `pton6Loop`, `inetPton6`
    * `Group`, `Fields`, `Ipv6Text`

  Key theorems include:
    * `inet_pton6_accepts_iff`
-/

------------------------------------------------------------
-- Parsing
------------------------------------------------------------

namespace NapaBaselibs

namespace Inet

open ML (CString)

/-
  The variables of `inet_pton6`: the bytes of `tmp` before
  `tp`, the index of `colonp` in them, and the text `curtok`.
-/
structure Groups where
  written : List UInt8
  colonp : Option Nat
  curtok : CString
  seenXdigits : Nat
  val : Nat

/- The place of a character in `xdigits_l` or in `xdigits_u`. -/
def hexDigit (ch : Char) : Option Nat :=
  match "0123456789abcdef".toList.idxOf? ch with
  | some d => some d
  | none => "0123456789ABCDEF".toList.idxOf? ch

/- The two bytes that are stored for a group. -/
def word (val : Nat) : List UInt8 :=
  [UInt8.ofNat (val >>> 8), UInt8.ofNat val]

/- The loop of `inet_pton6`; nothing where it returns 0. -/
def pton6Loop : CString → Groups → Option Groups
  | [], s => some s
  | ch :: src, s =>
      match hexDigit ch with
      | some d =>
          if 4 < s.seenXdigits + 1 then none
          else
            pton6Loop src
              { s with
                val := s.val <<< 4 ||| d
                seenXdigits := s.seenXdigits + 1 }
      | none =>
          if ch = ':' then
            if s.seenXdigits = 0 then
              if s.colonp.isSome then none
              else
                pton6Loop src
                  { s with
                    curtok := src
                    colonp := some s.written.length }
            else if src = [] then none
            else if 16 < s.written.length + 2 then none
            else
              pton6Loop src
                { s with
                  curtok := src
                  written := s.written ++ word s.val
                  seenXdigits := 0
                  val := 0 }
          else if ch = '.' ∧ s.written.length + 4 ≤ 16 then
            match inetPton4 s.curtok with
            | some bytes =>
                -- The rest of the text has been read.
                some
                  { s with
                    written := s.written ++ bytes
                    seenXdigits := 0 }
            | none => none
          else none

/- The group at the end of the text. -/
def Groups.flush (s : Groups) : Option (List UInt8) :=
  if s.seenXdigits = 0 then some s.written
  else if 16 < s.written.length + 2 then none
  else some (s.written ++ word s.val)

/-
  The shift by hand of the `n` bytes from `colonp` on, with
  the first `m` of them left to be moved.
-/
def shiftLoop
    (colonp n : Nat) : Nat → List UInt8 → List UInt8
  | 0, tmp => tmp
  | m + 1, tmp =>
      let moved :=
        tmp.set (16 - (n - m)) (tmp.getD (colonp + m) 0)
      shiftLoop colonp n m (moved.set (colonp + m) 0)

/- The end of `inet_pton6`, with the bytes of `tmp` before `tp`. -/
def expand
    (written : List UInt8)
    (colonp : Option Nat) : Option (List UInt8) :=
  match colonp with
  | some start =>
      if written.length = 16 then none
      else
        let n := written.length - start
        some
          (shiftLoop start n n
            (written ++ List.replicate (16 - written.length) 0))
  | none => if written.length = 16 then some written else none

/- `inet_pton6` behind a leading colon. -/
def pton6Text (src : CString) : Option (List UInt8) :=
  (pton6Loop src ⟨[], none, src, 0, 0⟩).bind fun s =>
    s.flush.bind fun written => expand written s.colonp

/- `inet_pton6`: the bytes stored, where it returns 1. -/
def inetPton6 (src : CString) : Option (List UInt8) :=
  match src with
  | ':' :: rest =>
      if rest.head? = some ':' then pton6Text rest else none
  | _ => pton6Text src

------------------------------------------------------------
-- The Grammar
------------------------------------------------------------

/- A group of digits, and its two bytes. -/
structure Group
    (text : CString)
    (bytes : List UInt8) : Prop where
  digits : ∀ ch ∈ text, (hexDigit ch).isSome
  ne_nil : text ≠ []
  length_le : text.length ≤ 4
  bytes_eq : bytes = word (Numeral.value hexDigit 16 0 text)

/- Groups with colons between them; `dotted`: the last may be
   an IPv4 address. -/
inductive Fields (dotted : Bool) : CString → List UInt8 → Prop
  | group {text bytes} :
      Group text bytes → Fields dotted text bytes
  | quad {bytes} :
      dotted = true → bytes.length = 4 →
        Fields dotted (quad bytes) bytes
  | cons {text bytes rest more} :
      Group text bytes → Fields dotted rest more →
        Fields dotted (text ++ ':' :: rest) (bytes ++ more)

/- Groups, or nothing. -/
def Part
    (dotted : Bool)
    (text : CString)
    (bytes : List UInt8) : Prop :=
  text = [] ∧ bytes = [] ∨ Fields dotted text bytes

/- The text of an address. -/
inductive Ipv6Text : CString → List UInt8 → Prop
  | full {text bytes} :
      Fields true text bytes → bytes.length = 16 →
        Ipv6Text text bytes
  | short {left hi right lo} :
      Part false left hi → Part true right lo →
        hi.length + lo.length < 16 →
          Ipv6Text (left ++ ':' :: ':' :: right)
            (hi ++
              List.replicate (16 - (hi.length + lo.length)) 0 ++
              lo)

------------------------------------------------------------
-- Digits
------------------------------------------------------------

theorem hexDigit_digitChar
    (d : Nat)
    (hDigit : d < 16) :
    hexDigit (Nat.digitChar d) = some d := by
  interval_cases d <;> rfl

theorem hexDigit_lt
    (ch : Char)
    (d : Nat)
    (hDigit : hexDigit ch = some d) :
    d < 16 := by
  rw [hexDigit] at hDigit
  split at hDigit
  · rename_i e hLower
    cases Option.some.inj hDigit
    exact (List.idxOf?_eq_some_iff.mp hLower).1
  · exact (List.idxOf?_eq_some_iff.mp hDigit).1

theorem hexDigit_colon : hexDigit ':' = none := by
  decide

theorem hexDigit_dot : hexDigit '.' = none := by
  decide

theorem shift_or_digit
    (n : Nat)
    {d : Nat}
    (hDigit : d < 16) :
    n <<< 4 ||| d = 16 * n + d := by
  rw [← Nat.shiftLeft_add_eq_or_of_lt (i := 4) hDigit,
    Nat.shiftLeft_eq, Nat.mul_comm]

/- The digits of a group are read, up to four of them. -/
theorem loop_digits
    {text : CString}
    (hDigits : ∀ ch ∈ text, (hexDigit ch).isSome)
    (rest : CString)
    (s : Groups)
    (hSeen : s.seenXdigits ≤ 4) :
    pton6Loop (text ++ rest) s =
      if s.seenXdigits + text.length ≤ 4 then
        pton6Loop rest
          { s with
            val := Numeral.value hexDigit 16 s.val text
            seenXdigits := s.seenXdigits + text.length }
      else none := by
  induction text generalizing s with
  | nil =>
      exact (if_pos hSeen).symm
  | cons ch text ih =>
      obtain ⟨d, hDigit⟩ := Option.isSome_iff_exists.mp
        (hDigits ch (List.mem_cons_self ..))
      rw [List.cons_append, pton6Loop, hDigit]
      simp only
      by_cases hFour : s.seenXdigits + 1 ≤ 4
      · rw [if_neg (by omega),
          ih (fun c h => hDigits c (List.mem_cons_of_mem _ h)) _
            hFour, Numeral.value_cons, hDigit, Option.getD_some,
          shift_or_digit _ (hexDigit_lt ch d hDigit)]
        simp only [List.length_cons, Nat.add_assoc,
          Nat.add_comm 1]
      · rw [if_pos (by omega), if_neg]
        rw [List.length_cons]
        omega

------------------------------------------------------------
-- From One Colon To The Next
------------------------------------------------------------

/- The loop from the start of a group on, and what is stored. -/
def pton6Rest
    (src : CString)
    (written : List UInt8)
    (colonp : Option Nat) : Option (List UInt8 × Option Nat) :=
  (pton6Loop src ⟨written, colonp, src, 0, 0⟩).bind fun s =>
    s.flush.map fun written => (written, s.colonp)

variable (written : List UInt8)
variable (colonp : Option Nat)

theorem rest_nil :
    pton6Rest [] written colonp = some (written, colonp) :=
  rfl

theorem rest_colon (right : CString) :
    pton6Rest (':' :: right) written colonp =
      if colonp.isSome then none
      else pton6Rest right written (some written.length) := by
  rw [pton6Rest, pton6Loop, hexDigit_colon]
  simp only [if_true]
  split_ifs <;> rfl

variable {text : CString}
variable {bytes : List UInt8}

theorem rest_group
    (hGroup : Group text bytes) :
    pton6Rest text written colonp =
      if 16 < written.length + 2 then none
      else some (written ++ bytes, colonp) := by
  have hRead :=
    loop_digits hGroup.digits []
      ⟨written, colonp, text, 0, 0⟩ (Nat.zero_le 4)
  have hLength := hGroup.length_le
  have hPos := List.length_pos_iff.mpr hGroup.ne_nil
  rw [List.append_nil, if_pos (by simpa using hLength)] at hRead
  rw [pton6Rest, hRead, pton6Loop, Option.bind_some,
    Groups.flush, hGroup.bytes_eq]
  simp only
  rw [if_neg (by omega)]
  split_ifs <;> rfl

theorem rest_group_colon
    (hGroup : Group text bytes)
    (right : CString) :
    pton6Rest (text ++ ':' :: right) written colonp =
      if right = [] then none
      else if 16 < written.length + 2 then none
      else pton6Rest right (written ++ bytes) colonp := by
  have hRead :=
    loop_digits hGroup.digits (':' :: right)
      ⟨written, colonp, text ++ ':' :: right, 0, 0⟩
      (Nat.zero_le 4)
  have hLength := hGroup.length_le
  have hPos := List.length_pos_iff.mpr hGroup.ne_nil
  rw [if_pos (by simpa using hLength)] at hRead
  rw [pton6Rest, hRead, pton6Loop, hexDigit_colon,
    hGroup.bytes_eq]
  simp only [if_true]
  rw [if_neg (by omega)]
  split_ifs <;> rfl

theorem rest_dot
    (hDigits : ∀ ch ∈ text, (hexDigit ch).isSome)
    (right : CString) :
    pton6Rest (text ++ '.' :: right) written colonp =
      if text.length ≤ 4 ∧ written.length + 4 ≤ 16 then
        (inetPton4 (text ++ '.' :: right)).map fun bytes =>
          (written ++ bytes, colonp)
      else none := by
  have hRead :=
    loop_digits hDigits ('.' :: right)
      ⟨written, colonp, text ++ '.' :: right, 0, 0⟩
      (Nat.zero_le 4)
  simp only [Nat.zero_add] at hRead
  rw [pton6Rest, hRead]
  by_cases hLength : text.length ≤ 4
  · rw [if_pos hLength, pton6Loop, hexDigit_dot]
    simp only
    rw [if_neg (by decide)]
    by_cases hRoom : written.length + 4 ≤ 16
    · rw [if_pos ⟨trivial, hRoom⟩, if_pos ⟨hLength, hRoom⟩]
      cases inetPton4 (text ++ '.' :: right) <;> rfl
    · rw [if_neg (fun h => hRoom h.2),
        if_neg (fun h => hRoom h.2)]
      rfl
  · rw [if_neg hLength, if_neg (fun h => hLength h.1)]
    rfl

/- Neither a digit nor a delimiter. -/
theorem rest_other
    (hDigits : ∀ ch ∈ text, (hexDigit ch).isSome)
    {ch : Char}
    (hNot : hexDigit ch = none)
    (hColon : ch ≠ ':')
    (hDot : ch ≠ '.')
    (right : CString) :
    pton6Rest (text ++ ch :: right) written colonp = none := by
  have hRead :=
    loop_digits hDigits (ch :: right)
      ⟨written, colonp, text ++ ch :: right, 0, 0⟩
      (Nat.zero_le 4)
  rw [pton6Rest, hRead]
  split_ifs
  · rw [pton6Loop, hNot]
    simp only
    rw [if_neg hColon, if_neg (fun h => hDot h.1)]
    rfl
  · rfl

/- More than four digits. -/
theorem rest_long
    (hDigits : ∀ ch ∈ text, (hexDigit ch).isSome)
    (hLong : 4 < text.length)
    (right : CString) :
    pton6Rest (text ++ right) written colonp = none := by
  have hRead :=
    loop_digits hDigits right
      ⟨written, colonp, text ++ right, 0, 0⟩ (Nat.zero_le 4)
  rw [pton6Rest, hRead, if_neg (by simpa using hLong)]
  rfl

/- A text up to its first character that is no digit. -/
inductive Split : CString → Prop
  | nil : Split []
  | colon (right : CString) : Split (':' :: right)
  | group {text : CString} {bytes : List UInt8} :
      Group text bytes → Split text
  | groupColon {text : CString} {bytes : List UInt8}
      (right : CString) :
      Group text bytes → Split (text ++ ':' :: right)
  | dot {text : CString} (right : CString) :
      (∀ ch ∈ text, (hexDigit ch).isSome) →
        Split (text ++ '.' :: right)
  | other {text : CString} {ch : Char} (right : CString) :
      (∀ ch ∈ text, (hexDigit ch).isSome) →
        hexDigit ch = none → ch ≠ ':' → ch ≠ '.' →
          Split (text ++ ch :: right)
  | long {text : CString} (right : CString) :
      (∀ ch ∈ text, (hexDigit ch).isSome) → 4 < text.length →
        Split (text ++ right)

theorem split (src : CString) : Split src := by
  have hSrc :=
    List.takeWhile_append_dropWhile
      (p := fun ch => (hexDigit ch).isSome) (l := src)
  have hDigits :
      ∀ ch ∈ src.takeWhile (fun ch => (hexDigit ch).isSome),
        (hexDigit ch).isSome := by
    intro ch hMem
    exact List.mem_takeWhile_imp
      (p := fun ch => (hexDigit ch).isSome) hMem
  have hEnds :
      ∀ ch right,
        src.dropWhile (fun ch => (hexDigit ch).isSome) =
            ch :: right →
          hexDigit ch = none := by
    intro ch right hIs
    have hNot := List.head?_dropWhile_not
      (fun ch => (hexDigit ch).isSome) src
    rw [hIs] at hNot
    simpa using hNot
  generalize src.takeWhile (fun ch => (hexDigit ch).isSome) = text
    at hSrc hDigits
  generalize src.dropWhile (fun ch => (hexDigit ch).isSome) = right
    at hSrc hEnds
  subst hSrc
  by_cases hLong : 4 < text.length
  · exact .long right hDigits hLong
  · have hGroup :
        text ≠ [] →
          Group text (word (Numeral.value hexDigit 16 0 text)) :=
      fun hSome => ⟨hDigits, hSome, by omega, rfl⟩
    cases right with
    | nil =>
        rw [List.append_nil]
        by_cases hNone : text = []
        · rw [hNone]
          exact .nil
        · exact .group (hGroup hNone)
    | cons ch right =>
        by_cases hColon : ch = ':'
        · rw [hColon]
          by_cases hNone : text = []
          · rw [hNone]
            exact .colon right
          · exact .groupColon right (hGroup hNone)
        · by_cases hDot : ch = '.'
          · rw [hDot]
            exact .dot right hDigits
          · exact
              .other right hDigits (hEnds ch right rfl) hColon hDot

------------------------------------------------------------
-- Fields
------------------------------------------------------------

theorem hexDigit_of_mem_toDigits
    {b : Nat}
    (hBase : 1 < b)
    (hSmall : b ≤ 16)
    (n : Nat) :
    ∀ ch ∈ Nat.toDigits b n, (hexDigit ch).isSome := by
  apply Numeral.isSome_of_mem_toDigits hBase
  intro d hDigit
  exact hexDigit_digitChar d (by omega)

/- An IPv4 address up to its first dot. -/
theorem quad_eq (src : List UInt8) :
    ∃ text right,
      quad src = text ++ '.' :: right ∧ text ≠ [] ∧
        text.length ≤ 3 ∧ ∀ ch ∈ text, (hexDigit ch).isSome := by
  refine ⟨_, _, rfl, Nat.toDigits_ne_nil, ?_, ?_⟩
  · rw [Nat.length_toDigits_le_iff (by decide) (by decide)]
    have hLess := (src.getD 0 0).toNat_lt
    omega
  · exact hexDigit_of_mem_toDigits (by decide) (by decide) _

theorem rest_quad
    (hLength : bytes.length = 4) :
    pton6Rest (quad bytes) written colonp =
      if written.length + 4 ≤ 16 then
        some (written ++ bytes, colonp)
      else none := by
  have hParsed := inetPton4_quad hLength
  obtain ⟨text, right, hText, _, hShort, hDigits⟩ := quad_eq bytes
  rw [hText] at hParsed ⊢
  rw [rest_dot written colonp hDigits, hParsed]
  by_cases hRoom : written.length + 4 ≤ 16
  · rw [if_pos ⟨by omega, hRoom⟩, if_pos hRoom]
    rfl
  · rw [if_neg (fun h => hRoom h.2), if_neg hRoom]

/- Fields start with a digit. -/
theorem Fields.head
    {dotted : Bool}
    (hFields : Fields dotted text bytes) :
    ∃ ch rest, text = ch :: rest ∧ (hexDigit ch).isSome := by
  have hHead :
      ∀ {t : CString} (more : CString), t ≠ [] →
        (∀ ch ∈ t, (hexDigit ch).isSome) →
          ∃ ch rest, t ++ more = ch :: rest ∧
            (hexDigit ch).isSome := by
    intro t more hSome hDigits
    obtain ⟨ch, t, rfl⟩ := List.exists_cons_of_ne_nil hSome
    exact ⟨ch, t ++ more, rfl, hDigits ch (List.mem_cons_self ..)⟩
  cases hFields with
  | group hGroup =>
      have hFirst := hHead [] hGroup.ne_nil hGroup.digits
      rwa [List.append_nil] at hFirst
  | quad _ _ =>
      obtain ⟨t, right, hText, hSome, _, hDigits⟩ := quad_eq bytes
      rw [hText]
      exact hHead _ hSome hDigits
  | cons hGroup _ => exact hHead _ hGroup.ne_nil hGroup.digits

theorem Fields.ne_nil
    {dotted : Bool}
    (hFields : Fields dotted text bytes) :
    text ≠ [] := by
  obtain ⟨ch, rest, rfl, _⟩ := hFields.head
  exact List.cons_ne_nil _ _

theorem Fields.head_ne_colon
    {dotted : Bool}
    (hFields : Fields dotted text bytes)
    (more rest : CString) :
    text ++ more ≠ ':' :: rest := by
  obtain ⟨ch, tail, rfl, hDigit⟩ := hFields.head
  intro hSame
  cases hSame
  rw [hexDigit_colon] at hDigit
  cases hDigit

theorem Group.length_bytes
    (hGroup : Group text bytes) :
    bytes.length = 2 := by
  rw [hGroup.bytes_eq]
  rfl

/- Fields are stored, as long as there is room. -/
theorem rest_fields
    (hFields : Fields true text bytes)
    (hRoom : written.length + bytes.length ≤ 16) :
    pton6Rest text written colonp =
      some (written ++ bytes, colonp) := by
  induction hFields generalizing written with
  | group hGroup =>
      rw [hGroup.length_bytes] at hRoom
      rw [rest_group written colonp hGroup, if_neg (by omega)]
  | quad _ hLength =>
      rw [hLength] at hRoom
      rw [rest_quad written colonp hLength, if_pos hRoom]
  | cons hGroup hFields ih =>
      rw [List.length_append, hGroup.length_bytes] at hRoom
      rw [rest_group_colon written colonp hGroup,
        if_neg hFields.ne_nil, if_neg (by omega), ih,
        List.append_assoc]
      rw [List.length_append, hGroup.length_bytes]
      omega

theorem rest_part
    (hPart : Part true text bytes)
    (hRoom : written.length + bytes.length ≤ 16) :
    pton6Rest text written colonp =
      some (written ++ bytes, colonp) := by
  rcases hPart with ⟨rfl, rfl⟩ | hFields
  · rw [rest_nil, List.append_nil]
  · exact rest_fields written colonp hFields hRoom

/- A field and the colon behind it, before more of a part. -/
theorem Part.cons
    {right : CString}
    {more : List UInt8}
    (hGroup : Group text bytes)
    (hMore : right ≠ [])
    (hPart : Part true right more) :
    Part true (text ++ ':' :: right) (bytes ++ more) :=
  Or.inr (.cons hGroup (hPart.resolve_left fun h => hMore h.1))

/- With two colons read, what is stored are fields. -/
theorem part_of_rest
    {src : CString}
    {start : Nat}
    {result : List UInt8 × Option Nat}
    (hRoom : written.length ≤ 16)
    (hRest : pton6Rest src written (some start) = some result) :
    ∃ lo, Part true src lo ∧
      result = (written ++ lo, some start) ∧
        written.length + lo.length ≤ 16 := by
  induction hLength : src.length using Nat.strong_induction_on
      generalizing src written with
  | _ n ih =>
      cases split src with
      | nil =>
          rw [rest_nil] at hRest
          refine ⟨[], Or.inl ⟨rfl, rfl⟩, ?_, by simpa using hRoom⟩
          rw [List.append_nil]
          exact (Option.some.inj hRest).symm
      | colon right =>
          rw [rest_colon, Option.isSome_some, if_pos rfl] at hRest
          cases hRest
      | group hGroup =>
          rw [rest_group _ _ hGroup] at hRest
          split_ifs at hRest with hFull
          refine ⟨_, Or.inr (.group hGroup),
            (Option.some.inj hRest).symm, ?_⟩
          rw [hGroup.length_bytes]
          omega
      | groupColon right hGroup =>
          rw [rest_group_colon _ _ hGroup] at hRest
          split_ifs at hRest with hNone hFull
          have hBytes := hGroup.length_bytes
          have hLess : right.length < n := by
            rw [← hLength, List.length_append, List.length_cons]
            omega
          obtain ⟨lo, hPart, hResult, hAll⟩ :=
            ih _ hLess (written ++ _)
              (by rw [List.length_append]; omega) hRest rfl
          refine ⟨_, hPart.cons hGroup hNone, ?_, ?_⟩
          · rw [hResult, List.append_assoc]
          · rw [List.length_append] at hAll ⊢
            omega
      | dot right hDigits =>
          rw [rest_dot _ _ hDigits] at hRest
          split_ifs at hRest with hShort
          obtain ⟨bytes, hParsed, hResult⟩ :=
            Option.map_eq_some_iff.mp hRest
          obtain ⟨hFour, hText⟩ := quad_of_inetPton4 hParsed
          rw [hText]
          refine ⟨bytes, Or.inr (.quad rfl hFour), hResult.symm,
            ?_⟩
          omega
      | other right hDigits hNot hColon hDot =>
          rw [rest_other _ _ hDigits hNot hColon hDot] at hRest
          cases hRest
      | long right hDigits hLong =>
          rw [rest_long _ _ hDigits hLong] at hRest
          cases hRest

------------------------------------------------------------
-- Two Colons
------------------------------------------------------------

/-
  A text from the start of a group on that has two colons in
  it, of which the first may have been read.
-/
inductive Gap : CString → List UInt8 → List UInt8 → Prop
  | here {right : CString} {lo : List UInt8} :
      Part true right lo → Gap (':' :: right) [] lo
  | behind {left right : CString} {hi lo : List UInt8} :
      Fields false left hi → Part true right lo →
        Gap (left ++ ':' :: ':' :: right) hi lo

theorem Gap.cons
    {src : CString}
    {hi lo : List UInt8}
    (hGroup : Group text bytes)
    (hGap : Gap src hi lo) :
    Gap (text ++ ':' :: src) (bytes ++ hi) lo := by
  cases hGap with
  | here hRight =>
      rw [List.append_nil]
      exact .behind (.group hGroup) hRight
  | behind hLeft hRight =>
      rw [← List.cons_append, ← List.append_assoc]
      exact .behind (.cons hGroup hLeft) hRight

/- What a text with two colons in it stores. -/
theorem rest_gap
    {src : CString}
    {hi lo : List UInt8}
    (hGap : Gap src hi lo)
    (hRoom : written.length + (hi.length + lo.length) ≤ 16) :
    pton6Rest src written none =
      some
        (written ++ (hi ++ lo),
          some (written.length + hi.length)) := by
  cases hGap with
  | here hRight =>
      rw [rest_colon, Option.isSome_none, if_neg (by decide),
        rest_part _ _ hRight (by simpa using hRoom)]
      rfl
  | behind hLeft hRight =>
      rename_i left right
      induction hLeft generalizing written with
      | group hGroup =>
          have hBytes := hGroup.length_bytes
          rw [rest_group_colon _ _ hGroup,
            if_neg (List.cons_ne_nil _ _), if_neg (by omega),
            rest_colon, Option.isSome_none,
            if_neg (by decide), rest_part _ _ hRight]
          · rw [List.append_assoc, List.length_append]
          · rw [List.length_append]
            omega
      | quad hDotted _ => cases hDotted
      | cons hGroup hFields ih =>
          have hBytes := hGroup.length_bytes
          rw [List.length_append] at hRoom
          rw [List.append_assoc, List.cons_append,
            rest_group_colon _ _ hGroup,
            if_neg (by simp), if_neg (by omega), ih]
          · simp only [List.append_assoc, List.length_append,
              Nat.add_assoc]
          · rw [List.length_append]
            omega

/- What is stored without two colons read. -/
theorem of_rest
    {src : CString}
    {result : List UInt8 × Option Nat}
    (hRoom : written.length ≤ 16)
    (hRest : pton6Rest src written none = some result) :
    (∃ bytes, Part true src bytes ∧
      result = (written ++ bytes, none)) ∨
    ∃ hi lo, Gap src hi lo ∧
      result =
        (written ++ (hi ++ lo),
          some (written.length + hi.length)) ∧
      written.length + (hi.length + lo.length) ≤ 16 := by
  induction hLength : src.length using Nat.strong_induction_on
      generalizing src written with
  | _ n ih =>
      cases split src with
      | nil =>
          rw [rest_nil] at hRest
          refine Or.inl ⟨[], Or.inl ⟨rfl, rfl⟩, ?_⟩
          rw [List.append_nil]
          exact (Option.some.inj hRest).symm
      | colon right =>
          rw [rest_colon, Option.isSome_none,
            if_neg (by decide)] at hRest
          obtain ⟨lo, hRight, hResult, hAll⟩ :=
            part_of_rest _ hRoom hRest
          refine Or.inr ⟨[], lo, .here hRight, hResult, ?_⟩
          rw [List.length_nil, Nat.zero_add]
          exact hAll
      | group hGroup =>
          rw [rest_group _ _ hGroup] at hRest
          split_ifs at hRest
          exact Or.inl
            ⟨_, Or.inr (.group hGroup),
              (Option.some.inj hRest).symm⟩
      | groupColon right hGroup =>
          rw [rest_group_colon _ _ hGroup] at hRest
          split_ifs at hRest with hNone hFull
          have hBytes := hGroup.length_bytes
          have hLess : right.length < n := by
            rw [← hLength, List.length_append, List.length_cons]
            omega
          rcases
            ih _ hLess (written ++ _)
              (by rw [List.length_append]; omega) hRest rfl with
            ⟨bytes, hPart, hResult⟩ | ⟨hi, lo, hGap, hResult, hAll⟩
          · refine Or.inl ⟨_, hPart.cons hGroup hNone, ?_⟩
            rw [hResult, List.append_assoc]
          · refine Or.inr ⟨_, lo, hGap.cons hGroup, ?_, ?_⟩
            · rw [hResult]
              simp only [List.append_assoc, List.length_append,
                Nat.add_assoc]
            · rw [List.length_append] at hAll ⊢
              omega
      | dot right hDigits =>
          rw [rest_dot _ _ hDigits] at hRest
          split_ifs at hRest with hShort
          obtain ⟨bytes, hParsed, hResult⟩ :=
            Option.map_eq_some_iff.mp hRest
          obtain ⟨hFour, hText⟩ := quad_of_inetPton4 hParsed
          rw [hText]
          exact Or.inl
            ⟨bytes, Or.inr (.quad rfl hFour), hResult.symm⟩
      | other right hDigits hNot hColon hDot =>
          rw [rest_other _ _ hDigits hNot hColon hDot] at hRest
          cases hRest
      | long right hDigits hLong =>
          rw [rest_long _ _ hDigits hLong] at hRest
          cases hRest

------------------------------------------------------------
-- The Shift
------------------------------------------------------------

theorem set_middle
    {before after : List UInt8}
    {i : Nat}
    {x y : UInt8}
    (hPlace : i = before.length) :
    (before ++ x :: after).set i y = before ++ y :: after := by
  rw [hPlace, List.set_append_right _ _ (le_refl _), Nat.sub_self,
    List.set_cons_zero]

/- Zeros move to the left over the bytes that are moved. -/
theorem shiftLoop_eq
    (n zeros : Nat)
    (hi : List UInt8)
    (hZeros : 0 < zeros)
    (hTotal : hi.length + n + zeros = 16)
    (lo moved : List UInt8)
    (hMoved : lo.length + moved.length = n) :
    shiftLoop hi.length n lo.length
        (hi ++ (lo ++ (List.replicate zeros 0 ++ moved))) =
      hi ++ (List.replicate zeros 0 ++ (lo ++ moved)) := by
  induction lo using List.reverseRecOn generalizing moved with
  | nil => rfl
  | append_singleton lo x ih =>
      rw [List.length_append, List.length_singleton] at hMoved ⊢
      obtain ⟨z, rfl⟩ := Nat.exists_eq_succ_of_ne_zero hZeros.ne'
      have hPlace :
          16 - (n - lo.length) =
            (hi ++ (lo ++ x :: List.replicate z 0)).length := by
        simp only [List.length_append, List.length_cons,
          List.length_replicate]
        omega
      have hArray :
          hi ++ ((lo ++ [x]) ++
              (List.replicate (z + 1) 0 ++ moved)) =
            (hi ++ (lo ++ x :: List.replicate z 0)) ++
              0 :: moved := by
        rw [List.replicate_succ']
        simp
      have hRead :
          ((hi ++ (lo ++ x :: List.replicate z 0)) ++
              0 :: moved).getD (hi.length + lo.length) 0 = x := by
        simp [List.getD_eq_getElem?_getD]
      have hMiddle :
          (hi ++ (lo ++ x :: List.replicate z 0)) ++ x :: moved =
            (hi ++ lo) ++ x :: (List.replicate z 0 ++ x :: moved)
          := by
        simp
      have hStored :
          (hi ++ lo) ++ 0 :: (List.replicate z 0 ++ x :: moved) =
            hi ++ (lo ++
              (List.replicate (z + 1) 0 ++ (x :: moved))) := by
        simp [List.replicate_succ]
      rw [shiftLoop, hArray, hRead, set_middle hPlace, hMiddle,
        set_middle (List.length_append ..).symm, hStored,
        ih (x :: moved) (by rw [List.length_cons]; omega)]
      rw [List.append_assoc, List.singleton_append]

/- The bytes behind the two colons come to the end. -/
theorem expand_some
    (hi lo : List UInt8)
    (hRoom : hi.length + lo.length < 16) :
    expand (hi ++ lo) (some hi.length) =
      some
        (hi ++
          List.replicate (16 - (hi.length + lo.length)) 0 ++
          lo) := by
  have hShift :=
    shiftLoop_eq lo.length (16 - (hi.length + lo.length)) hi
      (by omega) (by omega) lo [] (by simp)
  simp only [List.append_nil] at hShift
  simp only [expand, List.length_append]
  rw [if_neg (by omega), Nat.add_sub_cancel_left,
    List.append_assoc, hShift, List.append_assoc]

------------------------------------------------------------
-- What Is Accepted
------------------------------------------------------------

theorem pton6Text_eq (src : CString) :
    pton6Text src =
      (pton6Rest src [] none).bind fun result =>
        expand result.1 result.2 := by
  rw [pton6Text, pton6Rest, Option.bind_assoc]
  congr 1
  funext s
  cases s.flush <;> rfl

/- Without a colon at the start there is nothing to skip. -/
theorem inetPton6_of_head
    {src : CString}
    (hHead : ∀ rest, src ≠ ':' :: rest) :
    inetPton6 src = pton6Text src := by
  rw [inetPton6]
  exact hHead

theorem pton6Text_gap
    {src : CString}
    {hi lo : List UInt8}
    (hGap : Gap src hi lo)
    (hRoom : hi.length + lo.length < 16) :
    pton6Text src =
      some
        (hi ++
          List.replicate (16 - (hi.length + lo.length)) 0 ++
          lo) := by
  rw [pton6Text_eq, rest_gap [] hGap (by simp; omega),
    Option.bind_some, List.length_nil, Nat.zero_add,
    List.nil_append]
  exact expand_some hi lo hRoom

theorem ipv6Text_of_pton6Text
    {src : CString}
    {dst : List UInt8}
    (hParsed : pton6Text src = some dst) :
    Fields true src dst ∧ dst.length = 16 ∨
      ∃ hi lo, Gap src hi lo ∧ hi.length + lo.length < 16 ∧
        dst =
          hi ++
            List.replicate (16 - (hi.length + lo.length)) 0 ++
            lo := by
  rw [pton6Text_eq] at hParsed
  obtain ⟨result, hRest, hExpand⟩ :=
    Option.bind_eq_some_iff.mp hParsed
  rcases of_rest [] (by simp) hRest with
    ⟨bytes, hPart, rfl⟩ | ⟨hi, lo, hGap, rfl, hAll⟩
  · simp only [expand, List.nil_append] at hExpand
    split_ifs at hExpand with hLength
    cases Option.some.inj hExpand
    refine Or.inl ⟨hPart.resolve_left ?_, hLength⟩
    rintro ⟨_, hNone⟩
    rw [hNone] at hLength
    cases hLength
  · rw [List.length_nil, Nat.zero_add] at hAll hExpand
    rw [List.nil_append] at hExpand
    by_cases hFull : hi.length + lo.length = 16
    · simp only [expand, List.length_append] at hExpand
      rw [if_pos hFull] at hExpand
      cases hExpand
    · have hRoom : hi.length + lo.length < 16 := by omega
      rw [expand_some hi lo hRoom] at hExpand
      exact Or.inr
        ⟨hi, lo, hGap, hRoom, (Option.some.inj hExpand).symm⟩

theorem ipv6Text_of_inetPton6
    {src : CString}
    {dst : List UInt8}
    (hParsed : inetPton6 src = some dst) :
    Ipv6Text src dst := by
  by_cases hHead : ∃ rest, src = ':' :: rest
  · obtain ⟨rest, rfl⟩ := hHead
    simp only [inetPton6] at hParsed
    split_ifs at hParsed with hTwo
    obtain ⟨right, rfl⟩ := List.head?_eq_some_iff.mp hTwo
    rcases ipv6Text_of_pton6Text hParsed with
      ⟨hFields, _⟩ | ⟨hi, lo, hGap, hRoom, rfl⟩
    · exact
        absurd (List.append_nil _)
          (hFields.head_ne_colon [] right)
    · generalize hSrc : ':' :: right = rest at hGap
      cases hGap with
      | here hRight =>
          cases hSrc
          exact .short (Or.inl ⟨rfl, rfl⟩) hRight hRoom
      | behind hLeft _ =>
          exact absurd hSrc.symm (hLeft.head_ne_colon _ right)
  · push Not at hHead
    rw [inetPton6_of_head hHead] at hParsed
    rcases ipv6Text_of_pton6Text hParsed with
      ⟨hFields, hLength⟩ | ⟨hi, lo, hGap, hRoom, rfl⟩
    · exact .full hFields hLength
    · cases hGap with
      | here hRight => exact absurd rfl (hHead _)
      | behind hLeft hRight =>
          exact .short (Or.inr hLeft) hRight hRoom

theorem inetPton6_of_text
    {src : CString}
    {dst : List UInt8}
    (hText : Ipv6Text src dst) :
    inetPton6 src = some dst := by
  cases hText with
  | full hFields hLength =>
      have hHead : ∀ rest, src ≠ ':' :: rest := by
        intro rest
        have hNot := hFields.head_ne_colon [] rest
        rwa [List.append_nil] at hNot
      rw [inetPton6_of_head hHead, pton6Text_eq,
        rest_fields [] none hFields (by simp [hLength])]
      simp [expand, hLength]
  | short hLeft hRight hRoom =>
      rcases hLeft with ⟨rfl, rfl⟩ | hFields
      · rw [List.nil_append, inetPton6, List.head?_cons,
          if_pos rfl]
        exact pton6Text_gap (.here hRight) hRoom
      · rw [inetPton6_of_head (hFields.head_ne_colon _)]
        exact pton6Text_gap (.behind hFields hRight) hRoom

/- The parser accepts exactly the texts of the grammar. -/
theorem inet_pton6_accepts_iff
    (src : CString)
    (dst : List UInt8) :
    inetPton6 src = some dst ↔ Ipv6Text src dst :=
  ⟨ipv6Text_of_inetPton6, inetPton6_of_text⟩

end Inet

end NapaBaselibs
