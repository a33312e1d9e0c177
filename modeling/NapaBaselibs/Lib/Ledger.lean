import Mathlib.Algebra.BigOperators.Fin
import Mathlib.Algebra.BigOperators.Group.Finset.Basic
import Mathlib.Data.List.Nodup
import Mathlib.Data.List.Count

/-
  Ledgers of promises.

  A promise is taken, and it is accepted when the call that
  took it returns.  It is kept at once, or it waits in the
  line of its key; from there it is kept later or dropped.
  A ledger is the list of what happened to the promises,
  oldest first, and it balances when each promise accepted
  or taken has exactly one of these fates, and the promises
  leave each line in the order of their numbers.

  Key definitions include:
    * `Ledger.Fate`, `Ledger.of`, `Ledger.left`
    * `Ledger.Balanced`

  Key theorems include:
    * `Ledger.Balanced.keep`, `Ledger.Balanced.wait`
    * `Ledger.Balanced.accept`, `Ledger.Balanced.leave`
    * `Ledger.Balanced.exactly_one`
-/

------------------------------------------------------------
-- Ledgers
------------------------------------------------------------

namespace Ledger

/- What happens to a promise. -/
inductive Fate where
  | accepted
  | atOnce
  | later
  | dropped
deriving DecidableEq, Repr

/- The fates of a promise that waited. -/
def Fate.Leaves (fate : Fate) : Prop :=
  fate = .later ∨ fate = .dropped

instance (fate : Fate) : Decidable fate.Leaves := by
  unfold Fate.Leaves
  infer_instance

variable {ρ κ : Type}

/- The promises with a fate, oldest first. -/
def of
    (fate : Fate)
    (book : List (Fate × ρ)) : List ρ :=
  book.filterMap (fun entry =>
    if entry.1 = fate then some entry.2 else none)

/- The promises that have left the line of a key. -/
def left
    [DecidableEq κ]
    (key : ρ → κ)
    (book : List (Fate × ρ))
    (k : κ) : List ρ :=
  book.filterMap (fun entry =>
    if entry.1.Leaves ∧ key entry.2 = k then
      some entry.2
    else
      none)

section Projections

variable (fate : Fate)
variable (r : ρ)
variable (first second : List (Fate × ρ))

@[simp] theorem of_nil :
    of fate ([] : List (Fate × ρ)) = [] := rfl

@[simp] theorem of_append :
    of fate (first ++ second) =
      of fate first ++ of fate second :=
  List.filterMap_append

@[simp] theorem of_singleton
    (other : Fate) :
    of fate [(other, r)] =
      if other = fate then [r] else [] := by
  unfold of
  by_cases hEq : other = fate <;> simp [hEq]

variable [DecidableEq κ]
variable (key : ρ → κ)
variable (k : κ)

@[simp] theorem left_nil :
    left key ([] : List (Fate × ρ)) k = [] := rfl

@[simp] theorem left_append :
    left key (first ++ second) k =
      left key first k ++ left key second k :=
  List.filterMap_append

@[simp] theorem left_singleton :
    left key [(fate, r)] k =
      if fate.Leaves ∧ key r = k then [r] else [] := by
  unfold left
  by_cases hLeaves : fate.Leaves ∧ key r = k <;>
    simp [hLeaves]

/- What left a line was kept later or dropped. -/
theorem mem_of_mem_left
    {r : ρ}
    {book : List (Fate × ρ)}
    {key : ρ → κ}
    {k : κ}
    (hMem : r ∈ left key book k) :
    r ∈ of .later book ∨ r ∈ of .dropped book := by
  unfold left at hMem
  rcases List.mem_filterMap.mp hMem with
    ⟨⟨fate, other⟩, hIn, hSome⟩
  split at hSome
  · rename_i hLeaves
    cases hSome
    rcases hLeaves.1 with hFate | hFate
    · left
      apply List.mem_filterMap.mpr
      exact ⟨_, hIn, by rw [if_pos hFate]⟩
    · right
      apply List.mem_filterMap.mpr
      exact ⟨_, hIn, by rw [if_pos hFate]⟩
  · cases hSome

end Projections

------------------------------------------------------------
-- Lines
------------------------------------------------------------

/- Changing one line changes one term of the sum. -/
theorem sum_count_update
    [DecidableEq ρ]
    [Fintype κ]
    [DecidableEq κ]
    (waiting : κ → List ρ)
    (k : κ)
    (line : List ρ)
    (r : ρ) :
    (∑ i, (Function.update waiting k line i).count r) +
        (waiting k).count r =
      (∑ i, (waiting i).count r) + line.count r := by
  have hNew :=
    Finset.add_sum_erase Finset.univ
      (fun i => (Function.update waiting k line i).count r)
      (Finset.mem_univ k)
  have hOld :=
    Finset.add_sum_erase Finset.univ
      (fun i => (waiting i).count r)
      (Finset.mem_univ k)
  have hRest :
      ∑ i ∈ Finset.univ.erase k,
          (Function.update waiting k line i).count r =
        ∑ i ∈ Finset.univ.erase k, (waiting i).count r := by
    apply Finset.sum_congr rfl
    intro i hIn
    rw [Function.update_of_ne (Finset.ne_of_mem_erase hIn)]
  simp only [Function.update_self] at hNew
  omega

/- A promise in a line is counted by the sum. -/
theorem sum_count_pos
    [DecidableEq ρ]
    [Fintype κ]
    [DecidableEq κ]
    {waiting : κ → List ρ}
    {k : κ}
    {r : ρ}
    (hMem : r ∈ waiting k) :
    0 < ∑ i, (waiting i).count r := by
  have hSum :=
    Finset.add_sum_erase Finset.univ
      (fun i => (waiting i).count r) (Finset.mem_univ k)
  have hPos := List.count_pos_iff.mpr hMem
  omega

------------------------------------------------------------
-- Balance
------------------------------------------------------------

/-
  A ledger that balances, with the lines of the promises that
  wait, the promises taken by calls that have not returned,
  and the number of the next promise.
-/
structure Balanced
    [DecidableEq ρ]
    [Fintype κ]
    [DecidableEq κ]
    (number : ρ → Nat)
    (key : ρ → κ)
    (book : List (Fate × ρ))
    (next : Nat)
    (waiting : κ → List ρ)
    (taken : List ρ) : Prop where
  conserved :
    ∀ r,
      (of .accepted book).count r + taken.count r =
        (of .atOnce book).count r +
          (of .later book).count r +
          (of .dropped book).count r +
          ∑ k, (waiting k).count r
  distinct :
    ((of .accepted book ++ taken).map number).Nodup
  below : ∀ r ∈ of .accepted book ++ taken, number r < next
  own : ∀ k, ∀ r ∈ waiting k, key r = k
  ordered :
    ∀ k,
      ((left key book k ++ waiting k).map number).Pairwise
        (· < ·)

namespace Balanced

variable [DecidableEq ρ] [Fintype κ] [DecidableEq κ]
variable {number : ρ → Nat}
variable {key : ρ → κ}
variable {book : List (Fate × ρ)}
variable {next : Nat}
variable {waiting : κ → List ρ}
variable {taken : List ρ}

/- Before the first promise. -/
theorem empty
    (number : ρ → Nat)
    (key : ρ → κ) :
    Balanced number key [] 0 (fun _ => []) [] where
  conserved := by simp
  distinct := by simp
  below := by simp
  own := by simp
  ordered := by simp

/- A promise with a fate, or in a line, was taken before. -/
theorem below_of_pos
    {r : ρ}
    (hBalanced :
      Balanced number key book next waiting taken)
    (hPos :
      0 < (of .atOnce book).count r +
        (of .later book).count r +
        (of .dropped book).count r +
        ∑ k, (waiting k).count r) :
    number r < next := by
  rw [← hBalanced.conserved r, ← List.count_append] at hPos
  exact hBalanced.below r (List.count_pos_iff.mp hPos)

/- The promises of a line, gone or waiting, have numbers. -/
theorem below_of_mem
    {k : κ}
    {r : ρ}
    (hBalanced :
      Balanced number key book next waiting taken)
    (hMem : r ∈ left key book k ++ waiting k) :
    number r < next := by
  apply hBalanced.below_of_pos
  rcases List.mem_append.mp hMem with hLeft | hWaiting
  · rcases mem_of_mem_left hLeft with hLater | hDropped
    · have hPos := List.count_pos_iff.mpr hLater
      omega
    · have hPos := List.count_pos_iff.mpr hDropped
      omega
  · have hPos := sum_count_pos hWaiting
    omega

/- Taking a promise with the next number. -/
theorem distinct_take
    {r : ρ}
    (hBalanced :
      Balanced number key book next waiting taken)
    (hNumber : number r = next) :
    ((of .accepted book ++ r :: taken).map
        number).Nodup ∧
      ∀ other ∈ of .accepted book ++ r :: taken,
        number other < next + 1 := by
  have hPerm :
      (of .accepted book ++ r :: taken).Perm
        (r :: (of .accepted book ++ taken)) :=
    List.perm_middle
  constructor
  · rw [(hPerm.map number).nodup_iff, List.map_cons,
      List.nodup_cons]
    refine ⟨?_, hBalanced.distinct⟩
    intro hIn
    rcases List.mem_map.mp hIn with ⟨other, hOther, hEq⟩
    have hBelow := hBalanced.below other hOther
    omega
  · intro other hOther
    rcases List.mem_cons.mp (hPerm.mem_iff.mp hOther) with
      rfl | hOld
    · omega
    · have hBelow := hBalanced.below other hOld
      omega

/- A new promise is kept at once. -/
theorem keep
    {r : ρ}
    (hBalanced :
      Balanced number key book next waiting taken)
    (hNumber : number r = next) :
    Balanced number key (book ++ [(.atOnce, r)])
      (next + 1) waiting (r :: taken) where
  conserved := by
    intro other
    have hOld := hBalanced.conserved other
    simp only [of_append, of_singleton, List.count_append,
      List.count_cons, reduceCtorEq, if_false, if_true,
      List.count_nil]
    omega
  distinct := by
    simpa using (hBalanced.distinct_take hNumber).1
  below := by
    simpa using (hBalanced.distinct_take hNumber).2
  own := hBalanced.own
  ordered := by
    intro k
    simpa [Fate.Leaves] using hBalanced.ordered k

/- A new promise goes to the end of the line of its key. -/
theorem wait
    {r : ρ}
    (hBalanced :
      Balanced number key book next waiting taken)
    (hNumber : number r = next) :
    Balanced number key book (next + 1)
      (Function.update waiting (key r)
        (waiting (key r) ++ [r]))
      (r :: taken) where
  conserved := by
    intro other
    have hOld := hBalanced.conserved other
    have hSum :=
      sum_count_update waiting (key r)
        (waiting (key r) ++ [r]) other
    simp only [List.count_append, List.count_cons,
      List.count_nil] at hSum ⊢
    omega
  distinct := (hBalanced.distinct_take hNumber).1
  below := (hBalanced.distinct_take hNumber).2
  own := by
    intro k other hIn
    by_cases hKey : k = key r
    · subst hKey
      rw [Function.update_self, List.mem_append,
        List.mem_singleton] at hIn
      rcases hIn with hOld | rfl
      · exact hBalanced.own _ other hOld
      · rfl
    · rw [Function.update_of_ne hKey] at hIn
      exact hBalanced.own k other hIn
  ordered := by
    intro k
    by_cases hKey : k = key r
    · subst hKey
      rw [Function.update_self, ← List.append_assoc,
        List.map_append, List.pairwise_append]
      refine
        ⟨hBalanced.ordered _, List.pairwise_singleton _ _,
          ?_⟩
      intro n hIn m hEnd
      rcases List.mem_map.mp hIn with ⟨other, hMem, rfl⟩
      rcases List.mem_singleton.mp hEnd with rfl
      rw [hNumber]
      exact hBalanced.below_of_mem hMem
    · rw [Function.update_of_ne hKey]
      exact hBalanced.ordered k

/- The call that took a promise returns. -/
theorem accept
    {r : ρ}
    (hBalanced :
      Balanced number key book next waiting (r :: taken)) :
    Balanced number key (book ++ [(.accepted, r)]) next
      waiting taken where
  conserved := by
    intro other
    have hOld := hBalanced.conserved other
    simp only [of_append, of_singleton, List.count_append,
      List.count_cons, reduceCtorEq, if_false, if_true,
      List.count_nil] at hOld ⊢
    omega
  distinct := by
    simpa [List.append_assoc] using hBalanced.distinct
  below := by
    simpa [List.append_assoc] using hBalanced.below
  own := hBalanced.own
  ordered := by
    intro k
    simpa [Fate.Leaves] using hBalanced.ordered k

/- The first promise of a line leaves it. -/
theorem leave
    {fate : Fate}
    {k : κ}
    {r : ρ}
    {rest : List ρ}
    (hBalanced :
      Balanced number key book next waiting taken)
    (hLeaves : fate.Leaves)
    (hLine : waiting k = r :: rest) :
    Balanced number key (book ++ [(fate, r)]) next
      (Function.update waiting k rest) taken := by
  have hKey : key r = k :=
    hBalanced.own k r (hLine ▸ List.mem_cons_self)
  have hAccepted : fate ≠ .accepted := by
    rcases hLeaves with rfl | rfl <;> simp
  refine ⟨?_, ?_, ?_, ?_, ?_⟩
  · intro other
    have hOld := hBalanced.conserved other
    have hSum := sum_count_update waiting k rest other
    rw [hLine, List.count_cons] at hSum
    rcases hLeaves with rfl | rfl <;>
    · simp only [of_append, of_singleton,
        List.count_append, List.count_cons, reduceCtorEq,
        if_false, if_true, List.count_nil]
      omega
  · simpa [hAccepted] using hBalanced.distinct
  · simpa [hAccepted] using hBalanced.below
  · intro i other hIn
    by_cases hAt : i = k
    · subst hAt
      rw [Function.update_self] at hIn
      exact
        hBalanced.own i other
          (hLine ▸ List.mem_cons_of_mem _ hIn)
    · rw [Function.update_of_ne hAt] at hIn
      exact hBalanced.own i other hIn
  · intro i
    have hOld := hBalanced.ordered i
    by_cases hAt : i = k
    · subst hAt
      rw [hLine] at hOld
      simpa [hLeaves, hKey] using hOld
    · rw [Function.update_of_ne hAt, left_append,
        left_singleton, if_neg, List.append_nil]
      · exact hOld
      · rintro ⟨_, hSame⟩
        exact hAt (hSame.symm.trans hKey)

/-
  When no call is under way, a promise accepted has exactly
  one fate, and no other promise has any.
-/
theorem exactly_one
    (hBalanced : Balanced number key book next waiting [])
    (r : ρ) :
    (of .atOnce book).count r + (of .later book).count r +
        (of .dropped book).count r +
        ∑ k, (waiting k).count r =
      if r ∈ of .accepted book then 1 else 0 := by
  have hOnce := hBalanced.conserved r
  have hNodup : (of .accepted book).Nodup := by
    have hDistinct := hBalanced.distinct
    rw [List.append_nil] at hDistinct
    exact hDistinct.of_map number
  rw [List.count_nil, Nat.add_zero,
    hNodup.count] at hOnce
  exact hOnce.symm

end Balanced

end Ledger
