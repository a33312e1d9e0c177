import NapaBaselibs.Rep.ResultLists

/-
  Results and the limit of the user.

  The array that grows after 10000 entries takes the limit
  with it: from a limit of 10000 on there is none.

  Key definitions include:
    * `limit`, `Passes`, `KeepsLimit`
    * `FitsLimit`

  Key theorems include:
    * `keepsLimit_iff`
    * `result_lists_iff`
-/

------------------------------------------------------------
-- Limits
------------------------------------------------------------

namespace NapaBaselibs

namespace Rep

variable {α β : Type}

/- How many of `n` lines the user has asked for. -/
def limit
    (data : Int32)
    (n : Nat) : Nat :=
  if data.toInt ≤ 0 then n else min n data.toInt.toNat

/-
  A limit below 10000, or else not fewer entries asked for
  than there are lines, and room for them.
-/
def FitsLimit
    (data : Int32)
    (n : Nat) : Prop :=
  (0 < data.toInt ∧ data.toInt < 10000) ∨
    (data.toInt ≤ 0 ∨ (n : Int) ≤ data.toInt) ∧
      GrowthFits (initialMax data) n

instance
    (data : Int32)
    (n : Nat) : Decidable (FitsLimit data n) :=
  inferInstanceAs (Decidable (_ ∨ _))

theorem limit_le
    (data : Int32)
    (n : Nat) :
    limit data n ≤ n := by
  unfold limit
  split <;> omega

/- What is collected is what was asked for, and fits. -/
theorem fitsLimit_iff
    (data : Int32)
    (n : Nat) :
    FitsLimit data n ↔
      collected (initialMax data) n = limit data n ∧
        GrowthFits (initialMax data)
          (collected (initialMax data) n) := by
  unfold FitsLimit limit
  by_cases hNone : data.toInt ≤ 0
  · have hMax : initialMax data = 10000 := if_pos hNone
    have hAll : collected (initialMax data) n = n := by
      rw [hMax]
      exact if_neg (by decide)
    rw [hAll, if_pos hNone]
    have hNot : ¬(0 < data.toInt ∧ data.toInt < 10000) := by
      omega
    simp [hNone, hNot]
  · have hMax : initialMax data = data.toInt := if_neg hNone
    rw [if_neg hNone]
    by_cases hSmall : data.toInt < 10000
    · have hFirst :
          collected (initialMax data) n =
            min n data.toInt.toNat := by
        rw [hMax]
        exact if_pos hSmall
      have hGrowth :
          GrowthFits (initialMax data)
            (min n data.toInt.toNat) := by
        unfold GrowthFits
        omega
      rw [hFirst]
      exact ⟨fun _ => ⟨rfl, hGrowth⟩,
        fun _ => .inl ⟨by omega, hSmall⟩⟩
    · have hAll : collected (initialMax data) n = n := by
        rw [hMax]
        exact if_neg hSmall
      rw [hAll]
      constructor
      · rintro (⟨_, hLess⟩ | ⟨hFew, hGrowth⟩)
        · exact absurd hLess hSmall
        · exact ⟨by omega, hGrowth⟩
      · rintro ⟨hFew, hGrowth⟩
        exact .inr ⟨.inr (by omega), hGrowth⟩

/- The callback is given just these entries, in order. -/
def Passes
    (cbdata : QueryData)
    (cbarg : Pointer)
    (entries : List α)
    (calls : List (ResultCall α)) : Prop :=
  ∃ result,
    calls =
        [{ rep := cbdata.server
           id := cbdata.id
           cbarg := cbarg
           result := some result
           nResults := entries.length }] ∧
      result.take entries.length = entries.map some

/-
  The callback for a reply of some lines ends, with the first
  lines up to the limit passed on, and writes nowhere outside
  the array.
-/
def KeepsLimit
    (callback :
      Nat → Except CollectFault (Option (List (ResultCall α))))
    (entryOf : CString → Except CollectFault α)
    (cbdata : QueryData)
    (cbarg : Pointer)
    (lines : List CString) : Prop :=
  (∀ rounds,
    lines.length < rounds →
      ∃ calls entries,
        callback rounds = .ok (some calls) ∧
          Entries entryOf
              (lines.take (limit cbdata.data lines.length))
              entries ∧
          Passes cbdata cbarg entries calls) ∧
    ∀ rounds, callback rounds ≠ .error .outOfBounds

------------------------------------------------------------
-- When The Limit Is Kept
------------------------------------------------------------

section Replies

variable {readln : β → Option (CString × β)}
variable {entryOf : CString → Except CollectFault α}
variable {body : β}
variable {lines : List CString}
variable {cbdata : QueryData}

/- The reply to a query, all of whose lines are collected. -/
theorem collectReply_ok
    (hLines : Lines readln body lines)
    {s : Collection α}
    {rounds : Nat}
    (hRounds : lines.length < rounds)
    (hDone :
      collectLines entryOf (.initial cbdata.data) lines =
        .ok s)
    (cbarg : Pointer) :
    collectReply readln entryOf rounds ⟨httpOk, body⟩ cbdata
        cbarg =
      .ok
        (some (resultCb cbdata cbarg (some s.result) s.i)) := by
  unfold collectReply
  rw [if_neg (by simp)]
  dsimp only
  rcases collectLoop_eq hLines entryOf (.initial cbdata.data)
      rounds with
    ⟨_, hFew⟩ | hLoop
  · omega
  · rw [hLoop, hDone]
    rfl

/- A reply that ends with calls is one that is collected. -/
theorem of_collectReply
    (hLines : Lines readln body lines)
    {rounds : Nat}
    {cbarg : Pointer}
    {calls : List (ResultCall α)}
    (hReply :
      collectReply readln entryOf rounds ⟨httpOk, body⟩ cbdata
          cbarg =
        .ok (some calls)) :
    ∃ s,
      collectLines entryOf (.initial cbdata.data) lines =
          .ok s ∧
        calls =
          resultCb cbdata cbarg (some s.result) s.i := by
  unfold collectReply at hReply
  rw [if_neg (by simp)] at hReply
  dsimp only at hReply
  rcases collectLoop_eq hLines entryOf (.initial cbdata.data)
      rounds with
    ⟨hRunning, _⟩ | hLoop
  · rw [hRunning, Bounded.ok_bind] at hReply
    cases hReply
  · rw [hLoop] at hReply
    cases hDone :
        collectLines entryOf (.initial cbdata.data)
          lines with
    | error fault =>
        rw [hDone] at hReply
        cases hReply
    | ok s =>
        rw [hDone] at hReply
        cases hReply
        exact ⟨s, rfl, rfl⟩

/- No reply is written outside the array. -/
theorem collectReply_ne_outOfBounds
    (hLines : Lines readln body lines)
    (hEntryOf :
      ∀ line, entryOf line ≠ .error .outOfBounds)
    (rounds : Nat)
    (cbarg : Pointer) :
    collectReply readln entryOf rounds ⟨httpOk, body⟩ cbdata
        cbarg ≠
      .error .outOfBounds := by
  unfold collectReply
  rw [if_neg (by simp)]
  dsimp only
  rcases collectLoop_eq hLines entryOf (.initial cbdata.data)
      rounds with
    ⟨hRunning, _⟩ | hLoop
  · rw [hRunning, Bounded.ok_bind]
    simp
  · rw [hLoop]
    have hInside :
        collectLines entryOf (.initial cbdata.data) lines ≠
          .error .outOfBounds :=
      collectLines_ne_outOfBounds
        (Collection.holds_initial cbdata.data) hEntryOf
    cases hDone :
        collectLines entryOf (.initial cbdata.data)
          lines with
    | error fault =>
        rw [hDone] at hInside
        rintro ⟨⟩
        exact hInside rfl
    | ok s =>
        rintro ⟨⟩

/-
  The limit is kept just if it is below 10000 or not reached,
  the array can grow as far, and every line makes an entry.
-/
theorem keepsLimit_iff
    (hLines : Lines readln body lines)
    (hCb : cbdata.cb ≠ 0)
    (hEntryOf :
      ∀ line, entryOf line ≠ .error .outOfBounds)
    (cbarg : Pointer) :
    KeepsLimit
        (fun rounds =>
          collectReply readln entryOf rounds ⟨httpOk, body⟩
            cbdata cbarg)
        entryOf cbdata cbarg lines ↔
      FitsLimit cbdata.data lines.length ∧
        ∃ entries,
          Entries entryOf
            (lines.take (limit cbdata.data lines.length))
            entries := by
  have hStart :=
    (Collection.holds_initial cbdata.data :
      (Collection.initial cbdata.data :
        Collection α).Holds _ _)
  have hLimit := fitsLimit_iff cbdata.data lines.length
  constructor
  · rintro ⟨hPassed, _⟩
    rcases hPassed (lines.length + 1) (Nat.lt_succ_self _) with
      ⟨calls, entries, hReply, hEntries, result, hCalls, _⟩
    rcases of_collectReply hLines hReply with
      ⟨s, hDone, rfl⟩
    rcases of_collectLines hStart (Nat.zero_add _) hDone with
      ⟨values, hValues, hHolds⟩
    have hAsked := hEntries.length_eq
    have hMade := hValues.length_eq
    rw [List.length_take_of_le
      (limit_le cbdata.data lines.length)] at hAsked
    rw [List.length_nil, Nat.sub_zero,
      List.length_take_of_le (collected_le _ _)] at hMade
    have hCount : (values.length : Int) = entries.length := by
      unfold resultCb at hCalls
      rw [if_pos hCb] at hCalls
      have hCall := (List.cons.inj hCalls).1
      have hResults := congrArg ResultCall.nResults hCall
      dsimp only at hResults
      rwa [hHolds.i] at hResults
    refine ⟨hLimit.mpr ⟨by omega, ?_⟩, entries, hEntries⟩
    intro _
    have hMax := hHolds.max
    have hLt := hHolds.lt
    rw [List.nil_append] at hMax
    rw [hMade]
    omega
  · rintro ⟨hFits, entries, hEntries⟩
    rcases hLimit.mp hFits with ⟨hSame, hGrowth⟩
    rcases collectLines_ok hStart (Nat.zero_add _)
        (by rw [hSame]; exact hEntries) hGrowth with
      ⟨s, hDone, hHolds⟩
    refine ⟨?_, fun rounds =>
      collectReply_ne_outOfBounds hLines hEntryOf rounds
        cbarg⟩
    intro rounds hRounds
    refine ⟨_, entries,
      collectReply_ok hLines hRounds hDone cbarg, hEntries,
      s.result, ?_, ?_⟩
    · unfold resultCb
      rw [if_pos hCb, hHolds.i]
      rfl
    · rw [hHolds.result]
      exact Bounded.take_filled _ _

/- The entries of some lines, where each line has one. -/
theorem exists_entries_iff
    (entryOf : CString → Except CollectFault α)
    (lines : List CString) :
    (∃ entries, Entries entryOf lines entries) ↔
      ∀ line ∈ lines, ∃ value, entryOf line = .ok value := by
  induction lines with
  | nil =>
      constructor
      · rintro _ line hMem
        cases hMem
      · intro _
        exact ⟨[], .nil⟩
  | cons line lines ih =>
      rw [List.forall_mem_cons, ← ih]
      constructor
      · rintro ⟨_, hEntries⟩
        cases hEntries with
        | cons hEntry hRest =>
            exact ⟨⟨_, hEntry⟩, _, hRest⟩
      · rintro ⟨⟨value, hEntry⟩, entries, hRest⟩
        exact ⟨value :: entries, .cons hEntry hRest⟩

theorem parsedEntry_eq_ok_iff
    {fpNan : Int}
    {line : CString}
    {r : MeasurementRecord} :
    parsedEntry fpNan line = .ok r ↔
      parseMeasurementrecord fpNan line.chars = .ok r := by
  unfold parsedEntry
  cases parseMeasurementrecord fpNan line.chars with
  | ok r' => simp [Except.mapError]
  | error fault => simp [Except.mapError]

theorem copiedEntry_ne_outOfBounds
    (line : CString) :
    copiedEntry line ≠ .error .outOfBounds := by
  simp [copiedEntry]

theorem parsedEntry_ne_outOfBounds
    (fpNan : Int)
    (line : CString) :
    parsedEntry fpNan line ≠ .error .outOfBounds := by
  unfold parsedEntry
  cases parseMeasurementrecord fpNan line.chars with
  | ok r' => simp [Except.mapError]
  | error fault => simp [Except.mapError]

/-
  A list of strings keeps the limit just if it is below 10000
  or not reached and the array can grow as far.  A list of
  records does so where also every line of it is parsed.
-/
theorem result_lists_iff
    (hLines : Lines readln body lines)
    (hCb : cbdata.cb ≠ 0)
    (fpNan : Int)
    (freed : QueryData → Pointer) :
    (KeepsLimit
        (fun rounds =>
          stringlistCallback readln rounds
            (some ⟨httpOk, body⟩) (some cbdata))
        copiedEntry cbdata cbdata.cbarg lines ↔
      FitsLimit cbdata.data lines.length) ∧
    (KeepsLimit
        (fun rounds =>
          getMeasurementsCallback readln fpNan freed rounds
            (some ⟨httpOk, body⟩) (some cbdata))
        (parsedEntry fpNan) cbdata (freed cbdata) lines ↔
      FitsLimit cbdata.data lines.length ∧
        ∀ line ∈
            lines.take (limit cbdata.data lines.length),
          ∃ r,
            parseMeasurementrecord fpNan line.chars =
              .ok r) := by
  constructor
  · have hEntries :=
      (exists_entries_iff copiedEntry
        (lines.take (limit cbdata.data lines.length))).mpr
        (fun line _ => ⟨line, rfl⟩)
    exact
      (keepsLimit_iff hLines hCb copiedEntry_ne_outOfBounds
        cbdata.cbarg).trans (and_iff_left hEntries)
  · have hKeeps :=
      keepsLimit_iff hLines hCb
        (parsedEntry_ne_outOfBounds fpNan) (freed cbdata)
    rw [exists_entries_iff] at hKeeps
    simp only [parsedEntry_eq_ok_iff] at hKeeps
    exact hKeeps

end Replies

------------------------------------------------------------
-- Replies As Text
------------------------------------------------------------

/- An end of a line, for `EVBUFFER_EOL_ANY`. -/
def isEol (c : Char) : Bool :=
  c = '\r' ∨ c = '\n'

/-
  `evbuffer_readln` with `EVBUFFER_EOL_ANY`: what comes before
  the first end of a line, if there is one; all of the
  characters that end it are taken away.
-/
def evbufferReadln
    (buffer : List Char) : Option (CString × List Char) :=
  match buffer.dropWhile (fun c => !isEol c) with
  | [] => none
  | rest =>
      some
        (.ofChars (buffer.takeWhile (fun c => !isEol c)),
          rest.dropWhile isEol)

/- A query with this limit. -/
def someQuery (data : Int32) : QueryData where
  id := 1
  cb := 2
  cbarg := 3
  server := 4
  data := data

theorem limit_kept_below_10000 :
    KeepsLimit
        (fun rounds =>
          stringlistCallback evbufferReadln rounds
            (some ⟨httpOk, "a\nb\n".toList⟩)
            (some (someQuery 1)))
        copiedEntry (someQuery 1) 3
        [.ofChars ['a'], .ofChars ['b']] ∧
      KeepsLimit
        (fun rounds =>
          getMeasurementsCallback evbufferReadln 0
            (fun _ => 0) rounds
            (some ⟨httpOk, "a\nb\n".toList⟩)
            (some (someQuery 1)))
        (parsedEntry 0) (someQuery 1) 0
        [.ofChars ['a'], .ofChars ['b']] := by
  have hLines :
      Lines evbufferReadln "a\nb\n".toList
        [.ofChars ['a'], .ofChars ['b']] :=
    .cons rfl (.cons rfl (.nil rfl))
  have hFits : FitsLimit (someQuery 1).data 2 := by decide
  have hCb : (someQuery 1).cb ≠ 0 := by decide
  have hIff := result_lists_iff hLines hCb 0 (fun _ => 0)
  refine ⟨hIff.1.mpr hFits, hIff.2.mpr ⟨hFits, ?_⟩⟩
  intro line hMem
  have hFirst : line ∈ [CString.ofChars ['a']] := hMem
  rw [List.mem_singleton.mp hFirst]
  exact ⟨_, rfl⟩

/- A reply of equal lines of one letter. -/
theorem lines_replicate (n : Nat) :
    Lines evbufferReadln
      (List.replicate n ['a', '\n']).flatten
      (List.replicate n (.ofChars ['a'])) := by
  induction n with
  | zero => exact .nil rfl
  | succ n ih =>
      refine .cons ?_ ih
      cases n with
      | zero => rfl
      | succ n => rfl

/- With a limit of 10000, all of 10001 lines are passed on. -/
theorem limit_of_10000_not_kept :
    ∃ body lines,
      Lines evbufferReadln body lines ∧
        lines.length = 10001 ∧
        (someQuery 10000).data.toInt = 10000 ∧
        ¬ KeepsLimit
            (fun rounds =>
              stringlistCallback evbufferReadln rounds
                (some ⟨httpOk, body⟩)
                (some (someQuery 10000)))
            copiedEntry (someQuery 10000) 3 lines ∧
        ¬ KeepsLimit
            (fun rounds =>
              getMeasurementsCallback evbufferReadln 0
                (fun _ => 0) rounds (some ⟨httpOk, body⟩)
                (some (someQuery 10000)))
            (parsedEntry 0) (someQuery 10000) 0 lines := by
  have hLines := lines_replicate 10001
  have hLength :
      (List.replicate 10001
        (CString.ofChars ['a'])).length = 10001 :=
    List.length_replicate
  have hNot : ¬ FitsLimit (someQuery 10000).data 10001 := by
    decide
  have hCb : (someQuery 10000).cb ≠ 0 := by decide
  rw [← hLength] at hNot
  refine ⟨_, _, hLines, hLength, by decide, ?_, ?_⟩
  · intro hKeeps
    have hIff :=
      keepsLimit_iff hLines hCb copiedEntry_ne_outOfBounds 3
    exact hNot (hIff.mp hKeeps).1
  · intro hKeeps
    have hIff :=
      keepsLimit_iff hLines hCb
        (parsedEntry_ne_outOfBounds 0) 0
    exact hNot (hIff.mp hKeeps).1

end Rep

end NapaBaselibs
