import NapaBaselibs.Inet.Groups

/-
  IPv6 addresses in text, as they are printed.

  The first of the longest runs of two or more groups that are
  zero is left out, and two colons stand for it.  An address
  that contains an IPv4 address ends with that.

  Key definitions include:
    * `words`, `Run`, `bestRun`
    * `printGroups`, `inetNtop6`
    * `Shorthand`

  Key theorems include:
    * `bestRun_spec`
    * `inet_ntop6_shorthand`
    * `ntop6_pton6_round_trip`
-/

------------------------------------------------------------
-- Printing
------------------------------------------------------------

namespace NapaBaselibs

namespace Inet

open ML (CString)

/- The array `words`. -/
def words
    (src : List UInt8)
    (i : Nat) : Nat :=
  (src.getD (2 * i) 0).toNat <<< 8 |||
    (src.getD (2 * i + 1) 0).toNat

/- A run of groups that are zero, if `base` is not `-1`. -/
structure Run where
  base : Option Nat
  len : Nat
deriving DecidableEq

/- Whether `cur` takes the place of `best`. -/
def Run.replaces (cur best : Run) : Bool :=
  best.base = none ∨ best.len < cur.len

/- The body of the search loop, with `best` and `cur`. -/
def runStep
    (src : List UInt8)
    (runs : Run × Run)
    (i : Nat) : Run × Run :=
  let best := runs.1
  let cur := runs.2
  if words src i = 0 then
    if cur.base = none then (best, ⟨some i, 1⟩)
    else (best, { cur with len := cur.len + 1 })
  else if cur.base = none then (best, cur)
  else
    (if cur.replaces best then cur else best,
      { cur with base := none })

/- The variable `best` before the result is formatted. -/
def bestRun (src : List UInt8) : Run :=
  let runs :=
    (List.range 8).foldl (runStep src) (⟨none, 0⟩, ⟨none, 0⟩)
  let best :=
    if runs.2.base ≠ none ∧ runs.2.replaces runs.1 then runs.2
    else runs.1
  if best.base ≠ none ∧ best.len < 2 then
    { best with base := none }
  else best

/- The group is inside the best run. -/
def Run.contains
    (best : Run)
    (i : Nat) : Bool :=
  match best.base with
  | some base => base ≤ i ∧ i < base + best.len
  | none => false

/- The address is an encapsulated IPv4 address. -/
def encapsulated
    (src : List UInt8)
    (best : Run) : Bool :=
  best.base = some 0 ∧
    (best.len = 6 ∨
      best.len = 7 ∧ words src 7 ≠ 0x0001 ∨
      best.len = 5 ∧ words src 5 = 0xffff)

/- The formatting loop from group `i` on. -/
def printGroups
    (src : List UInt8)
    (best : Run) : Nat → Nat → CString → Option CString
  | 0, _, tp => some tp
  | left + 1, i, tp =>
      if best.contains i then
        printGroups src best left (i + 1)
          (if best.base = some i then tp ++ [':'] else tp)
      else
        let tp := if i ≠ 0 then tp ++ [':'] else tp
        if i = 6 ∧ encapsulated src best then
          (inetNtop4 (src.drop 12) (46 - tp.length)).map
            fun text => tp ++ text
        else
          printGroups src best left (i + 1)
            (tp ++ Nat.toDigits 16 (words src i))

/- The run is at the end. -/
def Run.trailing (best : Run) : Bool :=
  match best.base with
  | some base => base + best.len = 8
  | none => false

/- `inet_ntop6`: nothing where it returns `NULL`. -/
def inetNtop6
    (src : List UInt8)
    (size : Nat) : Option CString :=
  let best := bestRun src
  (printGroups src best 8 0 []).bind fun tp =>
    let tp := if best.trailing then tp ++ [':'] else tp
    if size < tp.length + 1 then none else some tp

------------------------------------------------------------
-- The Best Run
------------------------------------------------------------

variable {src : List UInt8}

/- Groups that are zero. -/
def Zeros
    (src : List UInt8)
    (base len : Nat) : Prop :=
  ∀ i, base ≤ i → i < base + len → words src i = 0

/- No run up to `limit` is longer, and none as long is before. -/
structure Longest
    (src : List UInt8)
    (limit base len : Nat) : Prop where
  zeros : Zeros src base len
  inside : base + len ≤ limit
  pos : 0 < len
  longest :
    ∀ base' len', 0 < len' → Zeros src base' len' →
      base' + len' ≤ limit →
        len' < len ∨ len' = len ∧ base ≤ base'

/- `best` is the first of the longest runs up to `limit`. -/
def Run.Best
    (src : List UInt8)
    (limit : Nat)
    (best : Run) : Prop :=
  match best.base with
  | some base => Longest src limit base best.len
  | none =>
      ∀ base len, 0 < len → Zeros src base len →
        limit < base + len

/- `cur` is the run that goes up to group `i`. -/
structure Current
    (src : List UInt8)
    (start i : Nat)
    (len : Nat) : Prop where
  zeros : Zeros src start len
  pos : 0 < len
  here : start + len = i
  first : start = 0 ∨ words src (start - 1) ≠ 0

/- The search loop, before group `i`. -/
def Searched
    (src : List UInt8)
    (runs : Run × Run)
    (i : Nat) : Prop :=
  match runs.2.base with
  | some start =>
      runs.1.Best src start ∧ Current src start i runs.2.len
  | none =>
      runs.1.Best src i ∧ (i = 0 ∨ words src (i - 1) ≠ 0)

/- A run that ends behind the start of the current one. -/
theorem Current.base_le
    {start i len base len' : Nat}
    (hCurrent : Current src start i len)
    (hZeros : Zeros src base len')
    (hEnds : start < base + len') :
    start ≤ base := by
  by_contra hBefore
  rcases hCurrent.first with hFirst | hNot
  · omega
  · exact hNot (hZeros (start - 1) (by omega) (by omega))

/- The best run with the current one at its end. -/
theorem Current.best
    {start i : Nat}
    {best cur : Run}
    (hBase : cur.base = some start)
    (hCurrent : Current src start i cur.len)
    (hBest : best.Best src start) :
    (if cur.replaces best then cur else best).Best src i := by
  have hHere := hCurrent.here
  cases hCase : best.base with
  | none =>
      rw [Run.Best, hCase] at hBest
      have hReplaces : cur.replaces best = true := by
        simp [Run.replaces, hCase]
      rw [if_pos hReplaces, Run.Best, hBase]
      refine ⟨hCurrent.zeros, hHere.le, hCurrent.pos, ?_⟩
      intro base len' hPos hZeros hInside
      have hEnds := hBest base len' hPos hZeros
      have hFrom := hCurrent.base_le hZeros hEnds
      omega
  | some base =>
      rw [Run.Best, hCase] at hBest
      have hInside := hBest.inside
      by_cases hReplaces : cur.replaces best = true
      · have hLonger : best.len < cur.len := by
          simpa [Run.replaces, hCase] using hReplaces
        rw [if_pos hReplaces, Run.Best, hBase]
        refine ⟨hCurrent.zeros, hHere.le, hCurrent.pos, ?_⟩
        intro base' len' hPos hZeros hEnd
        by_cases hEnds : start < base' + len'
        · have hFrom := hCurrent.base_le hZeros hEnds
          omega
        · have hOld :=
            hBest.longest base' len' hPos hZeros (by omega)
          omega
      · have hShorter : cur.len ≤ best.len := by
          simpa [Run.replaces, hCase] using hReplaces
        rw [if_neg hReplaces, Run.Best, hCase]
        refine ⟨hBest.zeros, by omega, hBest.pos, ?_⟩
        intro base' len' hPos hZeros hEnd
        by_cases hEnds : start < base' + len'
        · have hFrom := hCurrent.base_le hZeros hEnds
          omega
        · exact hBest.longest base' len' hPos hZeros (by omega)

/- Behind a group that is not zero, no run ends. -/
theorem Run.Best.step
    {best : Run}
    {i : Nat}
    (hBest : best.Best src i)
    (hNot : words src i ≠ 0) :
    best.Best src (i + 1) := by
  have hEnd :
      ∀ base len, 0 < len → Zeros src base len →
        base + len ≤ i + 1 → base + len ≤ i := by
    intro base len hPos hZeros hInside
    by_contra hLast
    exact hNot (hZeros i (by omega) (by omega))
  rw [Run.Best] at hBest ⊢
  split
  · rename_i base hBase
    rw [hBase] at hBest
    refine ⟨hBest.zeros, by have := hBest.inside; omega,
      hBest.pos, ?_⟩
    intro base' len' hPos hZeros hInside
    exact
      hBest.longest base' len' hPos hZeros
        (hEnd base' len' hPos hZeros hInside)
  · rename_i hBase
    rw [hBase] at hBest
    intro base len hPos hZeros
    by_contra hInside
    have hOld := hBest base len hPos hZeros
    have hAll := hEnd base len hPos hZeros (by omega)
    omega

theorem Searched.step
    {runs : Run × Run}
    {i : Nat}
    (hSearched : Searched src runs i) :
    Searched src (runStep src runs i) (i + 1) := by
  obtain ⟨best, cur⟩ := runs
  simp only [runStep]
  cases hBase : cur.base with
  | none =>
      simp only [Searched, hBase] at hSearched
      obtain ⟨hBest, hFirst⟩ := hSearched
      by_cases hZero : words src i = 0
      · simp only [hZero, if_true, Searched]
        refine ⟨hBest, ?_, Nat.zero_lt_one, rfl, hFirst⟩
        intro j hFrom hLess
        have hSame : j = i := by omega
        rw [hSame]
        exact hZero
      · simp only [hZero, if_false, if_true, Searched, hBase]
        exact ⟨hBest.step hZero, Or.inr hZero⟩
  | some start =>
      simp only [Searched, hBase] at hSearched
      obtain ⟨hBest, hCurrent⟩ := hSearched
      have hHere := hCurrent.here
      by_cases hZero : words src i = 0
      · simp only [hZero, if_true, Searched, reduceCtorEq,
          if_false]
        refine ⟨hBest, ?_, by omega, by omega, hCurrent.first⟩
        intro j hFrom hLess
        by_cases hOld : j < i
        · exact hCurrent.zeros j hFrom (by omega)
        · have hSame : j = i := by omega
          rw [hSame]
          exact hZero
      · simp only [hZero, if_false, reduceCtorEq, Searched]
        exact
          ⟨(hCurrent.best hBase hBest).step hZero,
            Or.inr hZero⟩

theorem searched_range
    (src : List UInt8)
    (n : Nat) :
    Searched src
      ((List.range n).foldl (runStep src)
        (⟨none, 0⟩, ⟨none, 0⟩)) n := by
  induction n with
  | zero =>
      refine ⟨?_, Or.inl rfl⟩
      intro base len hPos _
      omega
  | succ n ih =>
      rw [List.range_succ, List.foldl_append, List.foldl_cons,
        List.foldl_nil]
      exact ih.step

/-
  The run that is left out is the first of the longest, if it
  has two groups; there is no run of two groups if there is
  none.
-/
theorem bestRun_spec (src : List UInt8) :
    match (bestRun src).base with
    | some base =>
        Longest src 8 base (bestRun src).len ∧
          2 ≤ (bestRun src).len
    | none =>
        ∀ base len, 2 ≤ len → Zeros src base len →
          8 < base + len := by
  have hSearched := searched_range src 8
  rw [bestRun]
  generalize
    (List.range 8).foldl (runStep src) (⟨none, 0⟩, ⟨none, 0⟩) =
      runs at hSearched
  obtain ⟨best, cur⟩ := runs
  simp only
  have hBest :
      (if cur.base ≠ none ∧ cur.replaces best then cur
        else best).Best src 8 := by
    cases hBase : cur.base with
    | none =>
        simp only [Searched, hBase] at hSearched
        rw [if_neg (fun h => h.1 rfl)]
        exact hSearched.1
    | some start =>
        simp only [Searched, hBase] at hSearched
        have hEnd := hSearched.2.best hBase hSearched.1
        by_cases hReplaces : cur.replaces best = true
        · rw [if_pos ⟨by simp, hReplaces⟩]
          rwa [if_pos hReplaces] at hEnd
        · rw [if_neg (fun h => hReplaces h.2)]
          rwa [if_neg hReplaces] at hEnd
  generalize
    (if cur.base ≠ none ∧ cur.replaces best then cur
      else best) = result at hBest
  cases hBase : result.base with
  | none =>
      rw [Run.Best, hBase] at hBest
      rw [if_neg (fun h => h.1 rfl)]
      simp only [hBase]
      intro base len hTwo hZeros
      exact hBest base len (by omega) hZeros
  | some base =>
      rw [Run.Best, hBase] at hBest
      by_cases hShort : result.len < 2
      · rw [if_pos ⟨by simp, hShort⟩]
        intro base' len hTwo hZeros
        by_contra hInside
        have hLonger :=
          hBest.longest base' len (by omega) hZeros (by omega)
        omega
      · rw [if_neg (fun h => hShort h.2)]
        simp only [hBase]
        exact ⟨hBest, by omega⟩

------------------------------------------------------------
-- The Text
------------------------------------------------------------

/- The text of `n` groups, with colons between them. -/
def joined
    (src : List UInt8)
    (i n : Nat) : CString :=
  List.intercalate [':']
    ((List.range' i n).map fun i => Nat.toDigits 16 (words src i))

/- The shorthand of an address. -/
inductive Shorthand (src : List UInt8) : CString → Prop
  | plain :
      (∀ base len, 2 ≤ len → Zeros src base len →
        8 < base + len) →
      Shorthand src (joined src 0 8)
  | short {base len : Nat} :
      Longest src 8 base len → 2 ≤ len →
      base ≠ 0 ∨ len ≠ 6 ∧ (len ≠ 5 ∨ words src 5 ≠ 0xffff) →
      Shorthand src
        (joined src 0 base ++
          ':' :: ':' ::
            joined src (base + len) (8 - (base + len)))
  | compatible :
      Longest src 8 0 6 →
      Shorthand src (':' :: ':' :: quad (src.drop 12))
  | mapped :
      Longest src 8 0 5 → words src 5 = 0xffff →
      Shorthand src
        (':' :: ':' :: 'f' :: 'f' :: 'f' :: 'f' :: ':' ::
          quad (src.drop 12))

/- What the formatting loop prints for one group. -/
def printed
    (src : List UInt8)
    (best : Run)
    (i : Nat) : CString :=
  if best.contains i then
    if best.base = some i then [':'] else []
  else
    (if i ≠ 0 then [':'] else []) ++
      Nat.toDigits 16 (words src i)

variable {best : Run}

/- Some turns of the loop, none of which leaves it. -/
theorem printGroups_add
    (src : List UInt8)
    (best : Run)
    (n left i : Nat)
    (tp : CString)
    (hStays :
      ∀ j, i ≤ j → j < i + n → best.contains j = false →
        ¬(j = 6 ∧ encapsulated src best)) :
    printGroups src best (n + left) i tp =
      printGroups src best left (i + n)
        (tp ++ (List.range' i n).flatMap (printed src best)) := by
  induction n generalizing i tp with
  | zero => simp
  | succ n ih =>
      have hRest :
          ∀ j, i + 1 ≤ j → j < i + 1 + n →
            best.contains j = false →
              ¬(j = 6 ∧ encapsulated src best) :=
        fun j hFrom hLess => hStays j (by omega) (by omega)
      have hIndex : i + (n + 1) = i + 1 + n := by omega
      rw [Nat.succ_add, printGroups, List.range'_succ,
        List.flatMap_cons, hIndex]
      cases hInside : best.contains i with
      | true =>
          simp only [if_true]
          rw [ih _ _ hRest, printed, hInside, if_pos rfl]
          congr 1
          split_ifs
          · rw [List.append_assoc]
          · rw [List.nil_append]
      | false =>
          simp only [Bool.false_eq_true, if_false]
          rw [if_neg (hStays i (le_refl i) (by omega) hInside),
            ih _ _ hRest, printed, hInside]
          simp only [Bool.false_eq_true, if_false]
          congr 1
          split_ifs <;> simp only [List.append_assoc,
            List.nil_append]

theorem joined_succ
    (src : List UInt8)
    (i n : Nat) :
    joined src i (n + 1) =
      Nat.toDigits 16 (words src i) ++
        if n = 0 then [] else ':' :: joined src (i + 1) n := by
  cases n with
  | zero =>
      rw [if_pos rfl, List.append_nil]
      exact List.intercalate_singleton
  | succ n =>
      rw [if_neg (Nat.succ_ne_zero n), joined, List.range'_succ,
        List.range'_succ, List.map_cons, List.map_cons,
        List.intercalate_cons_cons, joined, List.range'_succ,
        List.map_cons, List.append_assoc, List.singleton_append]

/- Groups behind the first are printed with their colon. -/
theorem printed_outside
    (n : Nat)
    {i : Nat}
    (hPos : 0 < i)
    (hOutside :
      ∀ j, i ≤ j → j < i + n → best.contains j = false) :
    (List.range' i n).flatMap (printed src best) =
      if n = 0 then [] else ':' :: joined src i n := by
  induction n generalizing i with
  | zero => rfl
  | succ n ih =>
      rw [List.range'_succ, List.flatMap_cons,
        ih (Nat.succ_pos i)
          (fun j hFrom hLess =>
            hOutside j (by omega) (by omega)),
        printed, hOutside i (le_refl i) (by omega),
        if_neg (Nat.succ_ne_zero n), joined_succ,
        if_pos hPos.ne']
      rfl

theorem printed_start
    (n : Nat)
    (hOutside : ∀ j, j < n → best.contains j = false) :
    (List.range' 0 n).flatMap (printed src best) =
      joined src 0 n := by
  cases n with
  | zero => rfl
  | succ n =>
      rw [List.range'_succ, List.flatMap_cons,
        printed_outside n (Nat.succ_pos 0)
          (fun j _ hLess => hOutside j (by omega)),
        printed, hOutside 0 (by omega), joined_succ]
      rfl

/- One colon is printed for the run. -/
theorem printed_inside
    (src : List UInt8)
    {base : Nat}
    (hBase : best.base = some base)
    (n : Nat)
    (hLess : n < best.len) :
    (List.range' base (n + 1)).flatMap (printed src best) =
      [':'] := by
  induction n with
  | zero => simp [printed, Run.contains, hBase, hLess]
  | succ n ih =>
      rw [List.range'_concat, List.flatMap_append,
        ih (by omega), List.flatMap_singleton, printed]
      have hInside : best.contains (base + 1 * (n + 1)) = true := by
        simp [Run.contains, hBase]
        omega
      rw [if_pos hInside, if_neg, List.append_nil]
      rw [hBase, Option.some_inj]
      omega

theorem words_lt
    (src : List UInt8)
    (i : Nat) : words src i < 2 ^ 16 := by
  have hFirst := (src.getD (2 * i) 0).toNat_lt
  have hSecond := (src.getD (2 * i + 1) 0).toNat_lt
  rw [words, ← Nat.shiftLeft_add_eq_or_of_lt (i := 8) hSecond,
    Nat.shiftLeft_eq]
  omega

theorem length_toDigits_words
    (src : List UInt8)
    (i : Nat) :
    (Nat.toDigits 16 (words src i)).length ≤ 4 := by
  rw [Nat.length_toDigits_le_iff (by decide) (by decide)]
  exact words_lt src i

theorem length_joined
    (src : List UInt8)
    (i n : Nat) :
    (joined src i n).length ≤ 5 * n - 1 := by
  induction n generalizing i with
  | zero => exact Nat.zero_le _
  | succ n ih =>
      have hDigits := length_toDigits_words src i
      have hRest := ih (i + 1)
      rw [joined_succ, List.length_append]
      split_ifs
      · rw [List.length_nil]
        omega
      · rw [List.length_cons]
        omega

/- Without a run, all groups are printed. -/
theorem printGroups_plain
    (hBase : best.base = none) :
    printGroups src best 8 0 [] = some (joined src 0 8) := by
  have hOutside : ∀ j, best.contains j = false := by
    intro j
    rw [Run.contains, hBase]
  have hPrinted :=
    printGroups_add src best 8 0 0 []
      (by simp [encapsulated, hBase])
  rw [Nat.add_zero, printed_start 8 (fun j _ => hOutside j)]
    at hPrinted
  exact hPrinted

/- What is printed up to a group behind the run. -/
theorem printed_run
    (src : List UInt8)
    {base : Nat}
    (hBase : best.base = some base)
    (hPos : 0 < best.len)
    (n : Nat) :
    (List.range' 0 (base + best.len + n)).flatMap
        (printed src best) =
      joined src 0 base ++
        ':' ::
          if n = 0 then []
          else ':' :: joined src (base + best.len) n := by
  obtain ⟨len, hLen⟩ := Nat.exists_eq_succ_of_ne_zero hPos.ne'
  have hOutside :
      ∀ j, j < base ∨ base + best.len ≤ j →
        best.contains j = false := by
    intro j hEither
    simp only [Run.contains, hBase, decide_eq_false_iff_not]
    omega
  have hInside :
      (List.range' base best.len).flatMap (printed src best) =
        [':'] := by
    have hRun := printed_inside src hBase len (by omega)
    rwa [← Nat.succ_eq_add_one, ← hLen] at hRun
  have hParts :
      List.range' 0 (base + best.len + n) =
        List.range' 0 base ++
          (List.range' base best.len ++
            List.range' (base + best.len) n) := by
    rw [List.range'_append_1, Nat.add_assoc]
    have hAll :=
      List.range'_append_1 (s := 0) (m := base)
        (n := best.len + n)
    rw [Nat.zero_add] at hAll
    exact hAll.symm
  rw [hParts, List.flatMap_append, List.flatMap_append,
    printed_start base (fun j hLess => hOutside j (Or.inl hLess)),
    hInside,
    printed_outside n (by omega)
      (fun j hFrom _ => hOutside j (Or.inr hFrom)),
    List.singleton_append]

/- With a run, two colons are printed in its place. -/
theorem printGroups_short
    {base : Nat}
    (hBase : best.base = some base)
    (hInside : base + best.len ≤ 8)
    (hPos : 0 < best.len)
    (hNot :
      base ≠ 0 ∨
        best.len ≠ 6 ∧
          (best.len ≠ 5 ∨ words src 5 ≠ 0xffff)) :
    printGroups src best 8 0 [] =
      some
        (joined src 0 base ++
          ':' ::
            if 8 - (base + best.len) = 0 then []
            else
              ':' ::
                joined src (base + best.len)
                  (8 - (base + best.len))) := by
  have hStays :
      ∀ j, 0 ≤ j → j < 0 + 8 → best.contains j = false →
        ¬(j = 6 ∧ encapsulated src best) := by
    rintro j _ _ hOut ⟨rfl, hIs⟩
    simp only [Run.contains, hBase, decide_eq_false_iff_not]
      at hOut
    simp only [encapsulated, hBase, decide_eq_true_eq,
      Option.some_inj] at hIs
    omega
  have hPrinted := printGroups_add src best 8 0 0 [] hStays
  have hAll :
      base + best.len + (8 - (base + best.len)) = 8 := by
    omega
  have hRun :=
    printed_run src hBase hPos
      (8 - (base + best.len))
  rw [hAll] at hRun
  rw [Nat.add_zero, hRun] at hPrinted
  exact hPrinted

/- An encapsulated address ends the loop. -/
theorem printGroups_encapsulated
    (hBase : best.base = some 0)
    (hFew : best.len ≤ 6)
    (hPos : 0 < best.len)
    (hIs : encapsulated src best = true) :
    printGroups src best 8 0 [] =
      some
        ((':' ::
            if 6 - best.len = 0 then []
            else ':' :: joined src best.len (6 - best.len)) ++
          ':' :: quad (src.drop 12)) := by
  have hPrinted :=
    printGroups_add src best 6 2 0 []
      (by omega)
  have hRun := printed_run src hBase hPos (6 - best.len)
  have hAll : 0 + best.len + (6 - best.len) = 6 := by omega
  rw [hAll, Nat.zero_add] at hRun
  rw [Nat.zero_add, List.nil_append, hRun] at hPrinted
  have hOut : best.contains 6 = false := by
    simp only [Run.contains, hBase, decide_eq_false_iff_not]
    omega
  have hText := length_quad (src.drop 12)
  have hJoined := length_joined src best.len (6 - best.len)
  have hRoom :
      (quad (src.drop 12)).length <
        46 - ((joined src 0 0 ++
          ':' ::
            if 6 - best.len = 0 then []
            else ':' :: joined src best.len (6 - best.len)) ++
          [':']).length := by
    rw [show joined src 0 0 = [] from rfl, List.nil_append]
    split_ifs
    · simp only [List.length_append, List.length_cons,
        List.length_nil]
      omega
    · simp only [List.length_append, List.length_cons,
        List.length_nil]
      omega
  rw [hPrinted, printGroups, hOut]
  simp only [Bool.false_eq_true, if_false, hIs]
  rw [if_pos (by decide), if_pos (by decide), inetNtop4_eq,
    if_pos hRoom, Option.map_some]
  simp [joined]

/- The colon that is printed behind a run at the end. -/
def trail (best : Run) : CString :=
  if best.trailing then [':'] else []

/- The text that is printed, before its length is checked. -/
theorem inetNtop6_eq
    {tp : CString}
    (hPrinted : printGroups src (bestRun src) 8 0 [] = some tp)
    (size : Nat) :
    inetNtop6 src size =
      if (tp ++ trail (bestRun src)).length < size then
        some (tp ++ trail (bestRun src))
      else none := by
  have hColon :
      (if (bestRun src).trailing then tp ++ [':'] else tp) =
        tp ++ trail (bestRun src) := by
    rw [trail]
    split_ifs
    · rfl
    · exact (List.append_nil tp).symm
  simp only [inetNtop6, hPrinted, Option.bind_some, hColon]
  split_ifs <;> first | rfl | omega

theorem Run.trailing_eq
    {base : Nat}
    (hBase : best.base = some base) :
    best.trailing = decide (base + best.len = 8) := by
  rw [Run.trailing, hBase]

/- What the loop prints, and the colon behind it. -/
theorem exists_printed (src : List UInt8) :
    ∃ tp,
      printGroups src (bestRun src) 8 0 [] = some tp ∧
        Shorthand src (tp ++ trail (bestRun src)) ∧
        (tp ++ trail (bestRun src)).length ≤ 39 := by
  have hSpec := bestRun_spec src
  generalize bestRun src = best at hSpec
  cases hBase : best.base with
  | none =>
      rw [hBase] at hSpec
      have hLength := length_joined src 0 8
      have hTrail : trail best = [] := by
        simp [trail, Run.trailing, hBase]
      refine ⟨_, printGroups_plain hBase, ?_, ?_⟩
      · rw [hTrail, List.append_nil]
        exact .plain hSpec
      · rw [hTrail, List.append_nil]
        omega
  | some base =>
      rw [hBase] at hSpec
      obtain ⟨hLongest, hTwo⟩ := hSpec
      have hInside := hLongest.inside
      have hTrail :
          trail best =
            if base + best.len = 8 then [':'] else [] := by
        simp [trail, Run.trailing_eq hBase]
      by_cases hNot :
          base ≠ 0 ∨
            best.len ≠ 6 ∧
              (best.len ≠ 5 ∨ words src 5 ≠ 0xffff)
      · have hText :
            (joined src 0 base ++
                ':' ::
                  if 8 - (base + best.len) = 0 then []
                  else
                    ':' ::
                      joined src (base + best.len)
                        (8 - (base + best.len))) ++
                trail best =
              joined src 0 base ++
                ':' :: ':' ::
                  joined src (base + best.len)
                    (8 - (base + best.len)) := by
          rw [hTrail]
          by_cases hEnd : base + best.len = 8
          · rw [hEnd]
            simp [joined]
          · rw [if_neg (by omega), if_neg hEnd, List.append_nil]
        have hLeft := length_joined src 0 base
        have hRight :=
          length_joined src (base + best.len)
            (8 - (base + best.len))
        refine
          ⟨_, printGroups_short hBase hInside hLongest.pos hNot,
            ?_, ?_⟩
        · rw [hText]
          exact .short hLongest hTwo hNot
        · rw [hText]
          simp only [List.length_append, List.length_cons]
          omega
      · push Not at hNot
        obtain ⟨rfl, hEither⟩ := hNot
        have hText := length_quad (src.drop 12)
        by_cases hSix : best.len = 6
        · have hIs : encapsulated src best = true := by
            simp [encapsulated, hBase, hSix]
          have hPrinted :=
            printGroups_encapsulated hBase hSix.le hLongest.pos
              hIs
          rw [hSix, if_pos (by omega)] at hPrinted
          rw [hSix, if_neg (by omega)] at hTrail
          refine ⟨_, hPrinted, ?_, ?_⟩
          · rw [hTrail, List.append_nil]
            rw [hSix] at hLongest
            exact .compatible hLongest
          · rw [hTrail, List.append_nil, List.length_append,
              List.length_cons, List.length_cons]
            simp only [List.length_nil]
            omega
        · obtain ⟨hFive, hWord⟩ := hEither hSix
          have hIs : encapsulated src best = true := by
            simp [encapsulated, hBase, hFive, hWord]
          have hPrinted :=
            printGroups_encapsulated hBase (by omega)
              hLongest.pos hIs
          have hMark : joined src 5 1 = ['f', 'f', 'f', 'f'] := by
            rw [joined_succ, hWord]
            rfl
          rw [hFive, if_neg (by omega), hMark] at hPrinted
          rw [hFive, if_neg (by omega)] at hTrail
          refine ⟨_, hPrinted, ?_, ?_⟩
          · rw [hTrail, List.append_nil]
            rw [hFive] at hLongest
            exact .mapped hLongest hWord
          · rw [hTrail, List.append_nil]
            simp only [List.length_append, List.length_cons,
              List.length_nil]
            omega

/-
  For every address, what is printed is its shorthand, and the
  result is `NULL` if and only if there is no room for the text
  and its end.  No text has more than 39 characters; the array
  that it is made in has room for 45.
-/
theorem inet_ntop6_shorthand (src : List UInt8) :
    ∃ text, Shorthand src text ∧ text.length ≤ 39 ∧
      ∀ size,
        inetNtop6 src size =
          if text.length < size then some text else none := by
  obtain ⟨tp, hPrinted, hText, hLength⟩ := exists_printed src
  exact ⟨_, hText, hLength, inetNtop6_eq hPrinted⟩

------------------------------------------------------------
-- What Is Printed Is Read Back
------------------------------------------------------------

/- The bytes of `n` groups. -/
def wordBytes
    (src : List UInt8)
    (i n : Nat) : List UInt8 :=
  (List.range' i n).flatMap fun i => word (words src i)

theorem word_words
    (src : List UInt8)
    (i : Nat) :
    word (words src i) =
      [src.getD (2 * i) 0, src.getD (2 * i + 1) 0] := by
  have hSecond := (src.getD (2 * i + 1) 0).toNat_lt
  rw [words, ← Nat.shiftLeft_add_eq_or_of_lt (i := 8) hSecond,
    Nat.shiftLeft_eq, word, Nat.shiftRight_eq_div_pow]
  congr 1
  · apply UInt8.toNat_inj.mp
    rw [UInt8.toNat_ofNat']
    have hFirst := (src.getD (2 * i) 0).toNat_lt
    omega
  · congr 1
    apply UInt8.toNat_inj.mp
    rw [UInt8.toNat_ofNat']
    omega

theorem wordBytes_succ
    (src : List UInt8)
    (i n : Nat) :
    wordBytes src i (n + 1) =
      word (words src i) ++ wordBytes src (i + 1) n := by
  rw [wordBytes, List.range'_succ, List.flatMap_cons, wordBytes]

theorem length_wordBytes
    (src : List UInt8)
    (i n : Nat) :
    (wordBytes src i n).length = 2 * n := by
  induction n generalizing i with
  | zero => rfl
  | succ n ih =>
      rw [wordBytes_succ, List.length_append, ih, word]
      simp only [List.length_cons, List.length_nil]
      omega

theorem wordBytes_append
    (src : List UInt8)
    (i m n : Nat) :
    wordBytes src i m ++ wordBytes src (i + m) n =
      wordBytes src i (m + n) := by
  rw [wordBytes, wordBytes, ← List.flatMap_append,
    List.range'_append_1, wordBytes]

/- The groups from one on are the bytes from there on. -/
theorem wordBytes_eq_drop
    (n : Nat)
    {i : Nat}
    (hLength : src.length = 2 * (i + n)) :
    wordBytes src i n = src.drop (2 * i) := by
  induction n generalizing i with
  | zero =>
      rw [List.drop_of_length_le (by omega)]
      rfl
  | succ n ih =>
      have hFirst : 2 * i < src.length := by omega
      have hSecond : 2 * i + 1 < src.length := by omega
      rw [wordBytes_succ, ih (by omega), word_words,
        List.drop_eq_getElem_cons hFirst,
        List.drop_eq_getElem_cons hSecond,
        List.getD_eq_getElem _ _ hFirst,
        List.getD_eq_getElem _ _ hSecond]
      rfl

theorem wordBytes_zeros
    {base len : Nat}
    (hZeros : Zeros src base len) :
    wordBytes src base len = List.replicate (2 * len) 0 := by
  induction len generalizing base with
  | zero => rfl
  | succ len ih =>
      rw [wordBytes_succ, hZeros base (le_refl _) (by omega),
        ih fun i hFrom hLess => hZeros i (by omega) (by omega),
        Nat.mul_succ, Nat.add_comm, ← List.replicate_append_replicate]
      rfl

/- A printed group is read as its two bytes. -/
theorem group_toDigits
    (src : List UInt8)
    (i : Nat) :
    Group (Nat.toDigits 16 (words src i))
      (word (words src i)) where
  digits := hexDigit_of_mem_toDigits (by decide) (by decide) _
  ne_nil := Nat.toDigits_ne_nil
  length_le := length_toDigits_words src i
  bytes_eq := by
    rw [Numeral.value_toDigits (by decide) hexDigit_digitChar]

theorem part_joined
    (src : List UInt8)
    (dotted : Bool)
    (i n : Nat) :
    Part dotted (joined src i n) (wordBytes src i n) := by
  induction n generalizing i with
  | zero => exact Or.inl ⟨rfl, rfl⟩
  | succ n ih =>
      apply Or.inr
      rw [joined_succ, wordBytes_succ]
      cases n with
      | zero =>
          rw [if_pos rfl, List.append_nil,
            show wordBytes src (i + 1) 0 = [] from rfl,
            List.append_nil]
          exact .group (group_toDigits src i)
      | succ n =>
          rw [if_neg (Nat.succ_ne_zero n)]
          refine .cons (group_toDigits src i)
            ((ih (i + 1)).resolve_left ?_)
          rintro ⟨_, hNone⟩
          have hLength :=
            length_wordBytes src (i + 1) (n + 1)
          rw [hNone] at hLength
          simp at hLength

/- The shorthand of an address is a text of it. -/
theorem Shorthand.ipv6Text
    {text : CString}
    (hText : Shorthand src text)
    (hLength : src.length = 16) :
    Ipv6Text text src := by
  have hAll : wordBytes src 0 8 = src :=
    wordBytes_eq_drop 8 (by omega)
  have hTail : wordBytes src 6 2 = src.drop 12 :=
    wordBytes_eq_drop 2 (by omega)
  have hFour : (src.drop 12).length = 4 := by
    rw [List.length_drop]
    omega
  cases hText with
  | plain _ =>
      have hPart := part_joined src true 0 8
      rw [hAll] at hPart
      refine .full (hPart.resolve_left ?_) hLength
      rintro ⟨_, hNone⟩
      rw [hNone] at hLength
      cases hLength
  | @short base len hLongest hTwo _ =>
      have hInside := hLongest.inside
      have hHi := length_wordBytes src 0 base
      have hLo :=
        length_wordBytes src (base + len)
          (8 - (base + len))
      have hRead :=
        Ipv6Text.short (part_joined src false 0 base)
          (part_joined src true (base + len)
            (8 - (base + len)))
          (by omega)
      have hMiddle :
          16 -
              ((wordBytes src 0 base).length +
                (wordBytes src (base + len)
                  (8 - (base + len))).length) =
            2 * len := by
        omega
      have hBase := wordBytes_append src 0 base len
      have hRest :=
        wordBytes_append src 0 (base + len)
          (8 - (base + len))
      rw [Nat.zero_add] at hBase hRest
      rw [hMiddle, ← wordBytes_zeros hLongest.zeros, hBase, hRest,
        Nat.add_sub_cancel' hInside, hAll] at hRead
      exact hRead
  | compatible hLongest =>
      have hRead :=
        @Ipv6Text.short [] [] _ _ (Or.inl ⟨rfl, rfl⟩)
          (Or.inr (.quad rfl hFour)) (by simp [hFour])
      have hRest := wordBytes_append src 0 6 2
      rw [Nat.zero_add, hTail, hAll,
        wordBytes_zeros hLongest.zeros] at hRest
      rw [hFour] at hRead
      rw [← hRest] at hRead ⊢
      exact hRead
  | mapped hLongest hWord =>
      have hMark : Group ['f', 'f', 'f', 'f'] (word 0xffff) := by
        have hGroup := group_toDigits src 5
        rw [hWord] at hGroup
        exact hGroup
      have hRead :=
        @Ipv6Text.short [] [] _ _ (Or.inl ⟨rfl, rfl⟩)
          (Or.inr (.cons hMark (.quad rfl hFour)))
          (by simp [hFour, word])
      have hSix := wordBytes_append src 0 5 1
      have hRest := wordBytes_append src 0 6 2
      have hWordBytes : wordBytes src 5 1 = word 0xffff := by
        rw [wordBytes_succ, hWord]
        rfl
      rw [Nat.zero_add, hWordBytes,
        wordBytes_zeros hLongest.zeros] at hSix
      rw [Nat.zero_add, hTail, hAll, ← hSix,
        List.append_assoc] at hRest
      rw [List.length_append, hFour] at hRead
      rw [← hRest] at hRead ⊢
      exact hRead

/-
  For every address of 16 bytes and every buffer the text fits
  into, what is printed is read back as the address.
-/
theorem ntop6_pton6_round_trip
    (src : List UInt8)
    (hLength : src.length = 16) :
    ∃ text, text.length ≤ 39 ∧ inetPton6 text = some src ∧
      ∀ size, text.length < size →
        inetNtop6 src size = some text := by
  obtain ⟨tp, hPrinted, hText, hShort⟩ := exists_printed src
  refine
    ⟨_, hShort,
      inetPton6_of_text (hText.ipv6Text hLength), ?_⟩
  intro size hRoom
  rw [inetNtop6_eq hPrinted, if_pos hRoom]

/- The address of the host itself. -/
theorem loopback_round_trip :
    let loopback : List UInt8 := List.replicate 15 0 ++ [1]
    ∃ text, inetNtop6 loopback 46 = some text ∧
      inetPton6 text = some loopback := by
  intro loopback
  obtain ⟨text, hLength, hRead, hPrinted⟩ :=
    ntop6_pton6_round_trip loopback rfl
  exact ⟨text, hPrinted 46 (by omega), hRead⟩

end Inet

end NapaBaselibs
