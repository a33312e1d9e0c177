import Mathlib.Data.List.Basic
import Mathlib.Data.List.TakeWhile
import Mathlib.Algebra.Ring.Int.Defs
import Mathlib.Algebra.Ring.Nat

/-
  Scanning text the way `sscanf` does: words, decimal
  integers, and the splitting of a text at a delimiter.

  Key definitions include:
    * `Scan.word`, `Scan.int`
    * `Scan.replaceFirst`
    * `Scan.token`, `Scan.tokens`

  Key theorems include:
    * `Scan.word_append`
    * `Scan.int_toDigits`
    * `Scan.split_first_inj`, `Scan.split_digits_inj`
    * `Scan.tokens_separated`
-/

------------------------------------------------------------
-- Prefixes Of One Kind Of Character
------------------------------------------------------------

namespace Scan

/- The next character, if any, is not of the kind. -/
def Ends
    (kind : Char → Bool)
    (rest : List Char) : Prop :=
  ∀ c, rest.head? = some c → kind c = false

theorem ends_nil (kind : Char → Bool) : Ends kind [] := by
  intro c hHead
  cases hHead

theorem ends_cons
    {kind : Char → Bool}
    {c : Char}
    (hNot : kind c = false)
    (rest : List Char) :
    Ends kind (c :: rest) := by
  intro d hHead
  cases hHead
  exact hNot

/- The longest prefix of a kind is what was put there. -/
theorem takeWhile_append
    {kind : Char → Bool}
    {text rest : List Char}
    (hText : ∀ c ∈ text, kind c = true)
    (hRest : Ends kind rest) :
    (text ++ rest).takeWhile kind = text := by
  rw [List.takeWhile_append_of_pos hText]
  cases rest with
  | nil => rw [List.takeWhile_nil, List.append_nil]
  | cons c rest =>
      rw [List.takeWhile_cons, hRest c rfl]
      simp

theorem dropWhile_append
    {kind : Char → Bool}
    {text rest : List Char}
    (hText : ∀ c ∈ text, kind c = true)
    (hRest : Ends kind rest) :
    (text ++ rest).dropWhile kind = rest := by
  rw [List.dropWhile_append_of_pos hText]
  cases rest with
  | nil => rfl
  | cons c rest =>
      rw [List.dropWhile_cons, hRest c rfl]
      simp

------------------------------------------------------------
-- Conversions
------------------------------------------------------------

/- `isspace` of the C locale. -/
def isSpace (c : Char) : Bool :=
  c = ' ' || c = '\t' || c = '\n' || c = '\x0b' ||
    c = '\x0c' || c = '\r'

/- `%s`: skip white space and read up to the next. -/
def word (text : List Char) :
    Option (List Char × List Char) :=
  let text := text.dropWhile isSpace
  if text.takeWhile (fun c => !isSpace c) = [] then
    none
  else
    some
      (text.takeWhile (fun c => !isSpace c),
        text.dropWhile (fun c => !isSpace c))

/- The digits of an unsigned decimal number. -/
def nat (text : List Char) : Option (Nat × List Char) :=
  if text.takeWhile Char.isDigit = [] then
    none
  else
    some
      (Nat.ofDigitChars 10 (text.takeWhile Char.isDigit) 0,
        text.dropWhile Char.isDigit)

/- `%d`: skip white space and read a signed number. -/
def int (text : List Char) : Option (Int × List Char) :=
  match text.dropWhile isSpace with
  | '-' :: digits =>
      (nat digits).map (fun found => (-found.1, found.2))
  | '+' :: digits =>
      (nat digits).map (fun found => ((found.1 : Int), found.2))
  | digits =>
      (nat digits).map (fun found => ((found.1 : Int), found.2))

/- Replace the first occurrence of a character. -/
def replaceFirst
    (old new : Char) : List Char → List Char
| [] => []
| c :: rest =>
    if c = old then new :: rest
    else c :: replaceFirst old new rest

/- A word is read up to the white space behind it. -/
theorem word_append
    {text rest : List Char}
    (hText : ∀ c ∈ text, isSpace c = false)
    (hNotEmpty : text ≠ [])
    (hRest : Ends (fun c => !isSpace c) rest) :
    word (text ++ rest) = some (text, rest) := by
  rcases List.exists_cons_of_ne_nil hNotEmpty with
    ⟨c, tail, rfl⟩
  have hFirst := hText c List.mem_cons_self
  have hKind :
      ∀ d ∈ c :: tail, (!isSpace d) = true := by
    intro d hMem
    rw [hText d hMem]
    rfl
  unfold word
  rw [List.cons_append, List.dropWhile_cons, hFirst]
  simp only [Bool.false_eq_true, if_false]
  rw [← List.cons_append, takeWhile_append hKind hRest,
    dropWhile_append hKind hRest, if_neg (by simp)]

/- White space in front of a word is skipped. -/
theorem word_space (text : List Char) :
    word (' ' :: text) = word text := by
  unfold word
  rw [List.dropWhile_cons]
  rfl

theorem isSpace_of_isDigit
    {c : Char}
    (hDigit : c.isDigit = true) :
    isSpace c = false := by
  cases hSpace : isSpace c with
  | false => rfl
  | true =>
      simp only [isSpace, Bool.or_eq_true,
        decide_eq_true_eq] at hSpace
      rcases hSpace with
        ((((rfl | rfl) | rfl) | rfl) | rfl) | rfl
      all_goals
        revert hDigit
        decide

/- A decimal number behind a space is read as its value. -/
theorem int_toDigits
    (n : Nat)
    {rest : List Char}
    (hRest : Ends Char.isDigit rest) :
    int (' ' :: (Nat.toDigits 10 n ++ rest)) =
      some ((n : Int), rest) := by
  have hDigits :
      ∀ c ∈ Nat.toDigits 10 n, c.isDigit = true :=
    fun c hMem =>
      Nat.isDigit_of_mem_toDigits (by decide) (by decide) hMem
  have hNat :
      nat (Nat.toDigits 10 n ++ rest) = some (n, rest) := by
    unfold nat
    rw [takeWhile_append hDigits hRest,
      dropWhile_append hDigits hRest,
      if_neg Nat.toDigits_ne_nil,
      Nat.ofDigitChars_ten_toDigits]
  rcases List.exists_cons_of_ne_nil
      (Nat.toDigits_ne_nil (n := n) (b := 10)) with
    ⟨c, tail, hCons⟩
  have hFirst : c.isDigit = true :=
    hDigits c (by rw [hCons]; exact List.mem_cons_self)
  have hSkip :
      (' ' :: (Nat.toDigits 10 n ++ rest)).dropWhile isSpace =
        Nat.toDigits 10 n ++ rest := by
    rw [hCons, List.dropWhile_cons, List.cons_append,
      List.dropWhile_cons, isSpace_of_isDigit hFirst]
    rfl
  unfold int
  rw [hSkip]
  split
  · rename_i hMinus
    rw [hCons, List.cons_append] at hMinus
    injection hMinus with hEq
    rw [hEq] at hFirst
    exfalso
    revert hFirst
    decide
  · rename_i hPlus
    rw [hCons, List.cons_append] at hPlus
    injection hPlus with hEq
    rw [hEq] at hFirst
    exfalso
    revert hFirst
    decide
  · rw [hNat]
    rfl

/- Only the first occurrence is replaced. -/
theorem replaceFirst_append
    {old new : Char}
    {text : List Char}
    (hText : old ∉ text)
    (rest : List Char) :
    replaceFirst old new (text ++ old :: rest) =
      text ++ new :: rest := by
  induction text with
  | nil => simp [replaceFirst]
  | cons c text ih =>
      rw [List.mem_cons, not_or] at hText
      rw [List.cons_append, replaceFirst,
        if_neg (Ne.symm hText.1), ih hText.2,
        List.cons_append]

------------------------------------------------------------
-- Splitting
------------------------------------------------------------

/- A text is split at the first delimiter in one way. -/
theorem split_first_inj
    {d : Char}
    {text₁ text₂ rest₁ rest₂ : List Char}
    (hText₁ : d ∉ text₁)
    (hText₂ : d ∉ text₂)
    (hEq : text₁ ++ d :: rest₁ = text₂ ++ d :: rest₂) :
    text₁ = text₂ ∧ rest₁ = rest₂ := by
  have hKind
      (text : List Char)
      (hText : d ∉ text) :
      ∀ c ∈ text, decide (c ≠ d) = true := by
    intro c hMem
    refine decide_eq_true ?_
    rintro rfl
    exact hText hMem
  have hEnds (rest : List Char) :
      Ends (fun c => decide (c ≠ d)) (d :: rest) :=
    ends_cons (by simp) rest
  have hFirst :=
    takeWhile_append (hKind text₁ hText₁) (hEnds rest₁)
  rw [hEq, takeWhile_append (hKind text₂ hText₂)
    (hEnds rest₂)] at hFirst
  subst hFirst
  have hRest := List.append_cancel_left hEq
  injection hRest with _ hTail
  exact ⟨rfl, hTail⟩

/- So it is before the digits at its end. -/
theorem split_digits_inj
    {d₁ d₂ : Char}
    {text₁ text₂ digits₁ digits₂ : List Char}
    (hDelim₁ : d₁.isDigit = false)
    (hDelim₂ : d₂.isDigit = false)
    (hDigits₁ : ∀ c ∈ digits₁, c.isDigit = true)
    (hDigits₂ : ∀ c ∈ digits₂, c.isDigit = true)
    (hEq : text₁ ++ d₁ :: digits₁ = text₂ ++ d₂ :: digits₂) :
    text₁ = text₂ ∧ digits₁ = digits₂ := by
  have hBack
      (text : List Char)
      (d : Char)
      (digits : List Char)
      (hDelim : d.isDigit = false)
      (hDigits : ∀ c ∈ digits, c.isDigit = true) :
      (text ++ d :: digits).reverse.takeWhile Char.isDigit =
        digits.reverse := by
    rw [List.reverse_append, List.reverse_cons,
      List.append_assoc]
    refine takeWhile_append ?_ (ends_cons hDelim _)
    intro c hMem
    exact hDigits c (List.mem_reverse.mp hMem)
  have hSame := hBack text₁ d₁ digits₁ hDelim₁ hDigits₁
  rw [hEq, hBack text₂ d₂ digits₂ hDelim₂ hDigits₂] at hSame
  have hDigits := List.reverse_injective hSame
  subst hDigits
  exact ⟨(List.append_inj' hEq (by simp)).1, rfl⟩

------------------------------------------------------------
-- Tokens
------------------------------------------------------------

/-
  One call of `strtok_r` with one delimiter: the next token,
  and the text behind the delimiter that ends it.
-/
def token
    (d : Char)
    (text : List Char) : Option (List Char × List Char) :=
  let text := text.dropWhile (fun c => c = d)
  if text = [] then
    none
  else
    some
      (text.takeWhile (fun c => c ≠ d),
        (text.dropWhile (fun c => c ≠ d)).tail)

/- As many calls as there are tokens, up to a number. -/
def tokensWithin
    (d : Char) :
    Nat → List Char → List (List Char)
| 0, _ => []
| n + 1, text =>
    match token d text with
    | none => []
    | some (first, rest) => first :: tokensWithin d n rest

/- All tokens: each has a character of its own. -/
def tokens
    (d : Char)
    (text : List Char) : List (List Char) :=
  tokensWithin d text.length text

/- Delimiters in front are skipped. -/
theorem token_cons
    (d : Char)
    (text : List Char) :
    token d (d :: text) = token d text := by
  unfold token
  rw [List.dropWhile_cons]
  simp

/- A token is read up to the next delimiter or the end. -/
theorem token_append
    {d : Char}
    {text rest : List Char}
    (hText : d ∉ text)
    (hNotEmpty : text ≠ [])
    (hRest : Ends (fun c => c ≠ d) rest) :
    token d (text ++ rest) = some (text, rest.tail) := by
  rcases List.exists_cons_of_ne_nil hNotEmpty with
    ⟨c, tail, rfl⟩
  have hFirst : c ≠ d := by
    rintro rfl
    exact hText List.mem_cons_self
  have hKind :
      ∀ e ∈ c :: tail, decide (e ≠ d) = true := by
    intro e hMem
    refine decide_eq_true ?_
    rintro rfl
    exact hText hMem
  have hSkip :
      (c :: tail ++ rest).dropWhile
          (fun e => decide (e = d)) =
        c :: tail ++ rest := by
    rw [List.cons_append, List.dropWhile_cons,
      decide_eq_false hFirst]
    rfl
  unfold token
  simp only
  rw [hSkip, takeWhile_append hKind hRest,
    dropWhile_append hKind hRest, if_neg (by simp)]

theorem tokensWithin_cons
    (d : Char)
    (n : Nat)
    (text : List Char) :
    tokensWithin d n (d :: text) = tokensWithin d n text := by
  cases n with
  | zero => rfl
  | succ n => rw [tokensWithin, tokensWithin, token_cons]

/- Texts with a delimiter in front of each are the tokens. -/
theorem tokensWithin_separated
    {d : Char}
    {texts : List (List Char)}
    {n : Nat}
    (hTexts : ∀ text ∈ texts, d ∉ text ∧ text ≠ [])
    (hEnough : texts.length ≤ n) :
    tokensWithin d n
        (texts.flatMap (fun text => d :: text)) =
      texts := by
  induction texts generalizing n with
  | nil =>
      cases n with
      | zero => rfl
      | succ n => rfl
  | cons text texts ih =>
      cases n with
      | zero => exact absurd hEnough (by simp)
      | succ n =>
          have hText := hTexts text List.mem_cons_self
          have hNext :
              Ends (fun c => c ≠ d)
                (texts.flatMap (fun text => d :: text)) := by
            cases texts with
            | nil => exact ends_nil _
            | cons next texts => exact ends_cons (by simp) _
          have hToken :=
            token_append hText.1 hText.2 hNext
          have hTail :
              tokensWithin d n
                  (texts.flatMap
                    (fun text => d :: text)).tail =
                tokensWithin d n
                  (texts.flatMap (fun text => d :: text)) := by
            cases texts with
            | nil => rfl
            | cons next texts =>
                exact
                  (tokensWithin_cons d n
                    (next ++
                      texts.flatMap
                        (fun text => d :: text))).symm
          rw [List.flatMap_cons, List.cons_append,
            tokensWithin, token_cons, hToken]
          simp only
          rw [hTail,
            ih
              (fun other hMem =>
                hTexts other (List.mem_cons_of_mem _ hMem))
              (Nat.le_of_succ_le_succ hEnough)]

theorem length_le_flatMap
    (d : Char)
    (texts : List (List Char)) :
    texts.length ≤
      (texts.flatMap (fun text => d :: text)).length := by
  induction texts with
  | nil => exact Nat.le_refl 0
  | cons text texts ih =>
      rw [List.flatMap_cons, List.length_append,
        List.length_cons, List.length_cons]
      omega

/- Texts with a delimiter between them are the tokens. -/
theorem tokens_separated
    {d : Char}
    {texts : List (List Char)}
    (hTexts : ∀ text ∈ texts, d ∉ text ∧ text ≠ []) :
    tokens d (texts.flatMap (fun text => d :: text)).tail =
      texts := by
  cases texts with
  | nil => rfl
  | cons text texts =>
      have hEnough :
          (text :: texts).length ≤
            (text ++
              texts.flatMap (fun text => d :: text)).length := by
        have hLe := length_le_flatMap d texts
        have hPos :
            0 < text.length :=
          List.length_pos_iff.mpr
            (hTexts text List.mem_cons_self).2
        rw [List.length_append, List.length_cons]
        omega
      have hAll :=
        tokensWithin_separated hTexts hEnough
      rw [List.flatMap_cons, List.cons_append,
        tokensWithin_cons] at hAll
      exact hAll

end Scan
