import NapaBaselibs.Lib.Bounded
import NapaBaselibs.Rep.BatchPublish
import NapaBaselibs.Rep.Parsing

/-
  `utils.c` and `getmeasurements.c`: the lines of a reply
  collected in an array for the callback of the user.

  The limit of the user is also the size of the array, and
  grows with it.

  Key definitions include:
    * `collectLoop`
    * `stringlistCallback`, `getMeasurementsCallback`
    * `Lines`, `Entries`

  Key theorems include:
    * `collectStep_cases`
    * `collectLines_ok`, `of_collectLines`
    * `collectLines_ne_outOfBounds`
-/

------------------------------------------------------------
-- Requests And Replies
------------------------------------------------------------

namespace NapaBaselibs

namespace Rep

/- `request_data` of a query, with its limit in `data`. -/
structure QueryData extends RequestData where
  server : Pointer
  data : Int32

/- What is looked at of `struct evhttp_request`. -/
structure EvhttpRequest (β : Type) where
  responseCode : Int
  inputBuffer : β

/- A call of the callback; without a result, `NULL`. -/
structure ResultCall (α : Type) where
  rep : Pointer
  id : Pointer
  cbarg : Pointer
  result : Option (List (Option α))
  nResults : Int

/- What goes wrong when lines are collected. -/
inductive CollectFault where
  | outOfBounds
  | intOverflow
  | parsing (fault : Fault)
deriving DecidableEq

/- An addition of type `int`. -/
def addInt (a b : Int) : Except CollectFault Int :=
  if a + b < 2 ^ 31 then
    .ok (a + b)
  else
    .error .intOverflow

------------------------------------------------------------
-- Collecting Lines
------------------------------------------------------------

variable {α β : Type}

/- The variables of the loop. -/
structure Collection (α : Type) where
  max : Int
  i : Int
  result : List (Option α)

/- `max`, from the limit of the user. -/
def initialMax (data : Int32) : Int :=
  if data.toInt ≤ 0 then 10000 else data.toInt

/- The variables before the loop; memory is not short. -/
def Collection.initial (data : Int32) : Collection α where
  max := initialMax data
  i := 0
  result := List.replicate (initialMax data).toNat none

/-
  What the loop does with a line: its entry is stored, and
  after every 10000 entries there is room for as many more.
-/
def collectStep
    (entryOf : CString → Except CollectFault α)
    (line : CString)
    (s : Collection α) :
    Except CollectFault (Collection α) := do
  let entry ← entryOf line
  let result ←
    Bounded.store CollectFault.outOfBounds s.result
      s.i.toNat entry
  let i ← addInt s.i 1
  if i % 10000 = 0 then
    let max ← addInt s.max 10000
    .ok
      { max := max
        i := i
        result := Bounded.resize result max.toNat }
  else
    .ok
      { s with
        i := i
        result := result }

variable (readln : β → Option (CString × β))

/-
  The loop, for so many rounds at most.  The line that comes
  when the array is full is read and dropped.
-/
def collectLoop
    (entryOf : CString → Except CollectFault α) :
    Nat → β → Collection α →
      Except CollectFault (Option (Collection α))
| 0, _, _ => .ok none
| rounds + 1, buffer, s =>
    match readln buffer with
    | none => .ok (some s)
    | some (line, rest) =>
        if s.i = s.max then
          .ok (some s)
        else do
          let s ← collectStep entryOf line s
          collectLoop entryOf rounds rest s

/- The callback of the user, if there is one. -/
def resultCb
    (cbdata : QueryData)
    (cbarg : Pointer)
    (result : Option (List (Option α)))
    (nResults : Int) : List (ResultCall α) :=
  if cbdata.cb ≠ 0 then
    [{ rep := cbdata.server
       id := cbdata.id
       cbarg := cbarg
       result := result
       nResults := nResults }]
  else
    []

/-
  What both callbacks do with a reply; a response that is not
  OK is only printed.
-/
def collectReply
    (entryOf : CString → Except CollectFault α)
    (rounds : Nat)
    (req : EvhttpRequest β)
    (cbdata : QueryData)
    (cbarg : Pointer) :
    Except CollectFault (Option (List (ResultCall α))) :=
  if req.responseCode ≠ httpOk then
    .ok (some (resultCb cbdata cbarg none 0))
  else do
    let collected ←
      collectLoop readln entryOf rounds req.inputBuffer
        (.initial cbdata.data)
    .ok
      (collected.map fun s =>
        resultCb cbdata cbarg (some s.result) s.i)

/- The entry that is a copy of a line, by `strdup`. -/
def copiedEntry
    (line : CString) : Except CollectFault CString :=
  .ok line

/- `_stringlist_callback`. -/
def stringlistCallback
    (rounds : Nat)
    (req : Option (EvhttpRequest β))
    (arg : Option QueryData) :
    Except CollectFault
      (Option (List (ResultCall CString))) :=
  match req, arg with
  | some req, some cbdata =>
      collectReply readln copiedEntry rounds req cbdata
        cbdata.cbarg
  | _, _ => .ok (some [])

/- The entry that is parsed from a line. -/
def parsedEntry
    (fpNan : Int)
    (line : CString) :
    Except CollectFault MeasurementRecord :=
  (parseMeasurementrecord fpNan line.chars).mapError .parsing

/-
  `_getMeasurements_callback`: the entry is parsed, and the
  request is freed before its argument is read.
-/
def getMeasurementsCallback
    (fpNan : Int)
    (freed : QueryData → Pointer)
    (rounds : Nat)
    (req : Option (EvhttpRequest β))
    (arg : Option QueryData) :
    Except CollectFault
      (Option (List (ResultCall MeasurementRecord))) :=
  match req, arg with
  | some req, some cbdata =>
      collectReply readln (parsedEntry fpNan) rounds req
        cbdata (freed cbdata)
  | _, _ => .ok (some [])

/- The lines that a buffer gives one after the other. -/
inductive Lines : β → List CString → Prop where
  | nil
      {buffer : β}
      (hEnd : readln buffer = none) :
      Lines buffer []
  | cons
      {buffer rest : β}
      {line : CString}
      {lines : List CString}
      (hLine : readln buffer = some (line, rest))
      (hRest : Lines rest lines) :
      Lines buffer (line :: lines)

------------------------------------------------------------
-- One Line
------------------------------------------------------------

/-
  What has been collected, where the array had room for `m`
  entries at first: it has grown once for each 10000 of them.
-/
structure Collection.Holds
    (s : Collection α)
    (m : Int)
    (values : List α) : Prop where
  i : s.i = values.length
  max : s.max = m + 10000 * (values.length / 10000 : Nat)
  result : s.result = Bounded.filled values s.max.toNat
  le : values.length ≤ s.max
  lt : s.max < 2 ^ 31
  small : m < 10000 → values.length ≤ m

theorem initialMax_pos (data : Int32) :
    0 < initialMax data := by
  unfold initialMax
  split <;> omega

theorem initialMax_lt (data : Int32) :
    initialMax data < 2 ^ 31 := by
  unfold initialMax
  have hLt := data.toInt_lt
  split
  · decide
  · exact hLt

theorem Collection.holds_initial (data : Int32) :
    (Collection.initial data : Collection α).Holds
      (initialMax data) [] where
  i := rfl
  max := by simp [Collection.initial]
  result := (Bounded.filled_nil _).symm
  le := (initialMax_pos data).le
  lt := initialMax_lt data
  small := fun _ => (initialMax_pos data).le

/-
  A line that comes while the array is not full: its entry
  cannot be made, or the size of the array overflows, or the
  entry is stored behind the others.
-/
theorem collectStep_cases
    {s : Collection α}
    {m : Int}
    {values : List α}
    (hHolds : s.Holds m values)
    (hNotFull : s.i ≠ s.max)
    (entryOf : CString → Except CollectFault α)
    (line : CString) :
    (∃ fault,
        entryOf line = .error fault ∧
          collectStep entryOf line s = .error fault) ∨
      (∃ value,
        entryOf line = .ok value ∧
          (values.length + 1) % 10000 = 0 ∧
          2 ^ 31 ≤ s.max + 10000 ∧
          collectStep entryOf line s =
            .error .intOverflow) ∨
      ∃ value s',
        entryOf line = .ok value ∧
          collectStep entryOf line s = .ok s' ∧
          s'.Holds m (values ++ [value]) := by
  have hI := hHolds.i
  have hMax := hHolds.max
  have hLe := hHolds.le
  have hLt := hHolds.lt
  have hSmall := hHolds.small
  have hRoom : values.length < s.max.toNat := by omega
  have hIndex : s.i.toNat = values.length := by omega
  cases hEntry : entryOf line with
  | error fault =>
      refine .inl ⟨fault, rfl, ?_⟩
      unfold collectStep
      rw [hEntry]
      rfl
  | ok value =>
      have hStore :=
        Bounded.store_filled hRoom CollectFault.outOfBounds
          value
      have hNext : addInt s.i 1 = .ok (s.i + 1) := by
        unfold addInt
        rw [if_pos (by omega)]
      have hLength :
          (values ++ [value]).length = values.length + 1 := by
        simp
      by_cases hMultiple : (values.length + 1) % 10000 = 0
      · have hZero : (s.i + 1) % 10000 = 0 := by omega
        by_cases hFits : s.max + 10000 < 2 ^ 31
        · refine .inr (.inr ⟨value,
            { max := s.max + 10000
              i := s.i + 1
              result :=
                Bounded.resize
                  (Bounded.filled (values ++ [value])
                    s.max.toNat)
                  (s.max + 10000).toNat }, rfl, ?_, ?_⟩)
          · unfold collectStep
            rw [hEntry, Bounded.ok_bind, hHolds.result,
              hIndex, hStore, Bounded.ok_bind, hNext,
              Bounded.ok_bind, if_pos hZero]
            unfold addInt
            rw [if_pos hFits, Bounded.ok_bind]
          · exact
              { i := by simp [hI]
                max := by
                  rw [hLength]
                  dsimp only
                  omega
                result :=
                  Bounded.resize_filled (by omega) (by omega)
                le := by
                  rw [hLength]
                  dsimp only
                  omega
                lt := hFits
                small := by
                  rw [hLength]
                  omega }
        · refine .inr (.inl ⟨value, rfl, hMultiple,
            by omega, ?_⟩)
          unfold collectStep
          rw [hEntry, Bounded.ok_bind, hHolds.result,
            hIndex, hStore, Bounded.ok_bind, hNext,
            Bounded.ok_bind, if_pos hZero]
          unfold addInt
          rw [if_neg hFits]
          rfl
      · have hZero : (s.i + 1) % 10000 ≠ 0 := by omega
        refine .inr (.inr ⟨value,
          { s with
            i := s.i + 1
            result :=
              Bounded.filled (values ++ [value])
                s.max.toNat }, rfl, ?_, ?_⟩)
        · unfold collectStep
          rw [hEntry, Bounded.ok_bind, hHolds.result,
            hIndex, hStore, Bounded.ok_bind, hNext,
            Bounded.ok_bind, if_neg hZero]
        · exact
            { i := by simp [hI]
              max := by
                rw [hLength]
                dsimp only
                omega
              result := rfl
              le := by
                rw [hLength]
                dsimp only
                omega
              lt := hLt
              small := by
                rw [hLength]
                omega }

------------------------------------------------------------
-- All Lines
------------------------------------------------------------

/- The loop over the lines of the buffer. -/
def collectLines
    (entryOf : CString → Except CollectFault α) :
    Collection α → List CString →
      Except CollectFault (Collection α)
| s, [] => .ok s
| s, line :: lines =>
    if s.i = s.max then
      .ok s
    else do
      let s ← collectStep entryOf line s
      collectLines entryOf s lines

/- After so many rounds the loop is done or still running. -/
theorem collectLoop_eq
    {readln : β → Option (CString × β)}
    {buffer : β}
    {lines : List CString}
    (hLines : Lines readln buffer lines)
    (entryOf : CString → Except CollectFault α)
    (s : Collection α)
    (rounds : Nat) :
    (collectLoop readln entryOf rounds buffer s = .ok none ∧
        rounds ≤ lines.length) ∨
      collectLoop readln entryOf rounds buffer s =
        (collectLines entryOf s lines).map some := by
  induction hLines generalizing s rounds with
  | nil hEnd =>
      cases rounds with
      | zero => exact .inl ⟨rfl, Nat.zero_le _⟩
      | succ rounds =>
          right
          unfold collectLoop
          rw [hEnd]
          rfl
  | cons hLine _ ih =>
      cases rounds with
      | zero => exact .inl ⟨rfl, Nat.zero_le _⟩
      | succ rounds =>
          unfold collectLoop collectLines
          rw [hLine]
          dsimp only
          split
          · exact .inr rfl
          · cases collectStep entryOf _ s with
            | error fault => exact .inr rfl
            | ok s' =>
                rw [Bounded.ok_bind, Bounded.ok_bind]
                rcases ih s' rounds with
                  ⟨hRunning, hFew⟩ | hDone
                · exact .inl
                    ⟨hRunning, Nat.succ_le_succ hFew⟩
                · exact .inr hDone

/- How many of `n` lines are collected. -/
def collected
    (m : Int)
    (n : Nat) : Nat :=
  if m < 10000 then min n m.toNat else n

theorem collected_le
    (m : Int)
    (n : Nat) :
    collected m n ≤ n := by
  unfold collected
  split <;> omega

/- A full array is one of less than 10000 entries. -/
theorem Collection.Holds.collected_of_full
    {s : Collection α}
    {m : Int}
    {n : Nat}
    {values : List α}
    (hHolds : s.Holds m values)
    (hFull : s.i = s.max)
    (hLe : values.length ≤ n) :
    collected m n = values.length := by
  have hI := hHolds.i
  have hMax := hHolds.max
  have hSmall := hHolds.small
  unfold collected
  split <;> omega

/- Otherwise the next line is collected. -/
theorem Collection.Holds.lt_collected
    {s : Collection α}
    {m : Int}
    {n : Nat}
    {values : List α}
    (hHolds : s.Holds m values)
    (hNotFull : s.i ≠ s.max)
    (hLt : values.length < n) :
    values.length < collected m n := by
  have hI := hHolds.i
  have hMax := hHolds.max
  have hSmall := hHolds.small
  unfold collected
  split <;> omega

/- The entries that are made of some lines. -/
def Entries
    (entryOf : CString → Except CollectFault α)
    (lines : List CString)
    (values : List α) : Prop :=
  List.Forall₂ (fun line value => entryOf line = .ok value)
    lines values

/- The array never grows beyond the range of an `int`. -/
def GrowthFits
    (m : Int)
    (count : Nat) : Prop :=
  10000 ≤ count → m + 10000 * (count / 10000 : Nat) < 2 ^ 31

instance
    (m : Int)
    (count : Nat) : Decidable (GrowthFits m count) :=
  inferInstanceAs (Decidable (_ → _))

section AllLines

variable {entryOf : CString → Except CollectFault α}
variable {s s' : Collection α}
variable {m : Int}
variable {n : Nat}
variable {values entries : List α}
variable {lines : List CString}

/-
  With an entry for every line that is collected, and with
  room for the entries, the loop ends with them.
-/
theorem collectLines_ok
    (hHolds : s.Holds m values)
    (hTotal : values.length + lines.length = n)
    (hEntries :
      Entries entryOf
        (lines.take (collected m n - values.length)) entries)
    (hGrowth : GrowthFits m (collected m n)) :
    ∃ s',
      collectLines entryOf s lines = .ok s' ∧
        s'.Holds m (values ++ entries) := by
  induction lines generalizing s values entries with
  | nil =>
      rw [List.take_nil] at hEntries
      cases hEntries
      exact ⟨s, rfl, by rwa [List.append_nil]⟩
  | cons line lines ih =>
      rw [List.length_cons] at hTotal
      unfold collectLines
      by_cases hFull : s.i = s.max
      · rw [hHolds.collected_of_full hFull (by omega),
          Nat.sub_self, List.take_zero] at hEntries
        cases hEntries
        rw [if_pos hFull]
        exact ⟨s, rfl, by rwa [List.append_nil]⟩
      · rw [if_neg hFull]
        have hMore :=
          hHolds.lt_collected (n := n) hFull (by omega)
        have hTake :
            collected m n - values.length =
              collected m n - (values.length + 1) + 1 := by
          omega
        rw [hTake, List.take_succ_cons] at hEntries
        cases hEntries with
        | @cons _ value _ rest hEntry hRest =>
            rcases collectStep_cases hHolds hFull entryOf
                line with
              ⟨fault, hFault, _⟩ |
                ⟨_, _, hMultiple, hOverflow, _⟩ |
                ⟨value', s₁, hValue, hStep, hNext⟩
            · rw [hEntry] at hFault
              cases hFault
            · have hMax := hHolds.max
              have hFits := hGrowth (by omega)
              omega
            · rw [hEntry] at hValue
              cases hValue
              rw [hStep, Bounded.ok_bind]
              have hLength :
                  (values ++ [value]).length =
                    values.length + 1 := by
                simp
              rcases ih hNext (by omega)
                  (by rw [hLength]; exact hRest) with
                ⟨s', hDone, hHolds'⟩
              refine ⟨s', hDone, ?_⟩
              rwa [List.append_assoc] at hHolds'

/- When the loop ends it has made an entry of each line. -/
theorem of_collectLines
    (hHolds : s.Holds m values)
    (hTotal : values.length + lines.length = n)
    (hDone : collectLines entryOf s lines = .ok s') :
    ∃ entries,
      Entries entryOf
          (lines.take (collected m n - values.length))
          entries ∧
        s'.Holds m (values ++ entries) := by
  induction lines generalizing s values with
  | nil =>
      cases hDone
      refine ⟨[], ?_, by rwa [List.append_nil]⟩
      rw [List.take_nil]
      exact .nil
  | cons line lines ih =>
      rw [List.length_cons] at hTotal
      unfold collectLines at hDone
      by_cases hFull : s.i = s.max
      · rw [if_pos hFull] at hDone
        cases hDone
        refine ⟨[], ?_, by rwa [List.append_nil]⟩
        rw [hHolds.collected_of_full hFull (by omega),
          Nat.sub_self, List.take_zero]
        exact .nil
      · rw [if_neg hFull] at hDone
        rcases collectStep_cases hHolds hFull entryOf line with
          ⟨fault, _, hStep⟩ | ⟨_, _, _, _, hStep⟩ |
            ⟨value, s₁, hValue, hStep, hNext⟩
        · rw [hStep] at hDone
          cases hDone
        · rw [hStep] at hDone
          cases hDone
        · rw [hStep, Bounded.ok_bind] at hDone
          have hLength :
              (values ++ [value]).length =
                values.length + 1 := by
            simp
          have hMore :=
            hHolds.lt_collected (n := n) hFull (by omega)
          have hTake :
              collected m n - values.length =
                collected m n - (values.length + 1) + 1 := by
            omega
          rcases ih hNext (by omega) hDone with
            ⟨entries, hEntries, hHolds'⟩
          refine ⟨value :: entries, ?_, ?_⟩
          · rw [hTake, List.take_succ_cons]
            rw [hLength] at hEntries
            exact .cons hValue hEntries
          · rwa [List.append_assoc] at hHolds'

/- No entry is written behind the end of the array. -/
theorem collectLines_ne_outOfBounds
    (hHolds : s.Holds m values)
    (hEntryOf :
      ∀ line, entryOf line ≠ .error .outOfBounds) :
    collectLines entryOf s lines ≠ .error .outOfBounds := by
  induction lines generalizing s values with
  | nil => simp [collectLines]
  | cons line lines ih =>
      unfold collectLines
      by_cases hFull : s.i = s.max
      · rw [if_pos hFull]
        simp
      · rw [if_neg hFull]
        rcases collectStep_cases hHolds hFull entryOf line with
          ⟨fault, hFault, hStep⟩ | ⟨_, _, _, _, hStep⟩ |
            ⟨value, s₁, _, hStep, hNext⟩
        · rw [hStep, Bounded.error_bind]
          rintro ⟨⟩
          exact hEntryOf line hFault
        · rw [hStep, Bounded.error_bind]
          simp
        · rw [hStep, Bounded.ok_bind]
          exact ih hNext

end AllLines

end Rep

end NapaBaselibs
