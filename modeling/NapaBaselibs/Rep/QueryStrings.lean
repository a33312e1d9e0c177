import NapaBaselibs.Lib.TextBuffer
import NapaBaselibs.Rep.Record

/-
  `getpeers.c`: the text of constraints and of rankings in a
  query.

  Both functions build the text in a static buffer, tuple by
  tuple in a local array.  The array of `rankings2str` is not
  initialised, and what it has at the start of a round is an
  input.

  Key definitions include:
    * `constraints2str`, `rankings2str`
    * `joined`

  Key theorems include:
    * `constraints2str_joined`
    * `rankings2str_text`
    * `rankings_separated_iff`
-/

------------------------------------------------------------
-- Tuples
------------------------------------------------------------

namespace NapaBaselibs

namespace Rep

/- `Constraint`. -/
structure Constraint where
  publishedName : CString
  strValue : Option CString
  minValue : Binary64
  maxValue : Binary64

/- `Ranking`. -/
structure Ranking where
  publishedName : CString
  weight : Binary64

/- What is printed for a constraint; `toFloat` is the cast. -/
def Constraint.tuple
    (toFloat : Binary64 → Binary64)
    (con : Constraint) : List Char :=
  match con.strValue with
  | some s => con.publishedName.chars ++ ',' :: s.chars
  | none =>
      con.publishedName.chars ++
        ',' :: (toFloat con.minValue).printF ++
        ',' :: (toFloat con.maxValue).printF

/- What is printed for a ranking. -/
def Ranking.tuple (rank : Ranking) : List Char :=
  rank.publishedName.chars ++ ',' :: rank.weight.printF

/- The documented encoding of a list of tuples. -/
def joined
    (key : List Char)
    (tuples : List (List Char)) : List Char :=
  if tuples = [] then
    []
  else
    key ++ [';'].intercalate tuples

------------------------------------------------------------
-- The Two Functions
------------------------------------------------------------

/- An array of which all characters are zero. -/
def zeros (n : Nat) : TextBuffer Char n where
  cells := List.replicate n '\x00'
  length_cells := List.length_replicate

/- `strcat` with the string in another array. -/
def strcat
    {m n : Nat}
    (buf : TextBuffer Char n)
    (tmp : TextBuffer Char m) : Option (TextBuffer Char n) :=
  match tmp.text '\x00' with
  | none => none
  | some s => buf.append '\x00' s

/- `buf[0] = 0`, and the key unless there is nothing. -/
def startText
    (key : List Char)
    (len : Nat)
    (buf : TextBuffer Char 1024) :
    Option (TextBuffer Char 1024) := do
  let buf ← buf.copy '\x00' []
  if len ≠ 0 then
    buf.append '\x00' key
  else
    some buf

/- `if (i) strcat(b, ";")`. -/
def separatorIf
    {n : Nat}
    (i : Nat)
    (b : TextBuffer Char n) : Option (TextBuffer Char n) :=
  if i = 0 then
    some b
  else
    b.append '\x00' [';']

/- The loop of `constraints2str`, in the `i`-th round. -/
def constraints2strLoop
    (toFloat : Binary64 → Binary64) :
    Nat → TextBuffer Char 1024 → List Constraint →
      Option (TextBuffer Char 1024)
| _, buf, [] => some buf
| i, buf, con :: cons => do
    let buf ← separatorIf i buf
    let tmp ←
      (zeros 1024).copy '\x00' (con.tuple toFloat)
    let buf ← strcat buf tmp
    constraints2strLoop toFloat (i + 1) buf cons

/- `constraints2str`: the static buffer after it. -/
def constraints2str
    (toFloat : Binary64 → Binary64)
    (buf : TextBuffer Char 1024)
    (cons : List Constraint) :
    Option (TextBuffer Char 1024) := do
  let buf ←
    startText "constraints=".toList cons.length buf
  constraints2strLoop toFloat 0 buf cons

/- The loop of `rankings2str`, in the `i`-th round. -/
def rankings2strLoop
    (tmps : Nat → TextBuffer Char 128) :
    Nat → TextBuffer Char 1024 → List Ranking →
      Option (TextBuffer Char 1024)
| _, buf, [] => some buf
| i, buf, rank :: ranks => do
    let tmp ← separatorIf i (tmps i)
    let tmp ← tmp.copy '\x00' rank.tuple
    let buf ← strcat buf tmp
    rankings2strLoop tmps (i + 1) buf ranks

/- `rankings2str`: the static buffer after it. -/
def rankings2str
    (tmps : Nat → TextBuffer Char 128)
    (buf : TextBuffer Char 1024)
    (ranks : List Ranking) :
    Option (TextBuffer Char 1024) := do
  let buf ← startText "rankings=".toList ranks.length buf
  rankings2strLoop tmps 0 buf ranks

------------------------------------------------------------
-- Tuples As Strings
------------------------------------------------------------

/- A number that is printed has no such character. -/
theorem notMem_printF
    {c : Char}
    (d : Binary64)
    (hNot : Binary64.IsPrinted c = false) :
    c ∉ d.printF := by
  intro hMem
  rw [Binary64.mem_printF hMem] at hNot
  cases hNot

theorem zero_notMem_rankingTuple (rank : Ranking) :
    '\x00' ∉ rank.tuple := by
  unfold Ranking.tuple
  rw [List.mem_append, List.mem_cons, not_or, not_or]
  exact
    ⟨rank.publishedName.zero_notMem, by decide,
      notMem_printF _ rfl⟩

theorem zero_notMem_constraintTuple
    (toFloat : Binary64 → Binary64)
    (con : Constraint) :
    '\x00' ∉ con.tuple toFloat := by
  unfold Constraint.tuple
  cases con.strValue with
  | some s =>
      rw [List.mem_append, List.mem_cons, not_or, not_or]
      exact
        ⟨con.publishedName.zero_notMem, by decide,
          s.zero_notMem⟩
  | none =>
      simp only [List.mem_append, List.mem_cons, not_or]
      exact
        ⟨⟨con.publishedName.zero_notMem, by decide,
          notMem_printF _ rfl⟩, by decide,
          notMem_printF _ rfl⟩

------------------------------------------------------------
-- Constraints
------------------------------------------------------------

/- What the key, or nothing, leaves in the buffer. -/
theorem startText_spec
    {key : List Char}
    (len : Nat)
    (buf : TextBuffer Char 1024)
    (hZero : '\x00' ∉ key)
    (hFits : key.length < 1024) :
    ∃ buf' : TextBuffer Char 1024,
      startText key len buf = some buf' ∧
        buf'.text '\x00' =
          some (if len = 0 then [] else key) := by
  rcases buf.copy_spec List.not_mem_nil
      (by decide : ([] : List Char).length < 1024) with
    ⟨empty, hCopy, hEmpty⟩
  unfold startText
  rw [hCopy]
  by_cases hLen : len = 0
  · refine ⟨empty, ?_, ?_⟩
    · simp [hLen]
    · rw [if_pos hLen, hEmpty]
  · rcases TextBuffer.append_spec hEmpty hZero
        (by simpa using hFits) with
      ⟨buf', hAppend, hText⟩
    refine ⟨buf', ?_, ?_⟩
    · simpa [hLen] using hAppend
    · rw [if_neg hLen, hText]
      rfl

/- A tuple in a local array goes behind the text. -/
theorem strcat_spec
    {m : Nat}
    {buf : TextBuffer Char 1024}
    {tmp : TextBuffer Char m}
    {text tuple : List Char}
    (hText : buf.text '\x00' = some text)
    (hTuple : tmp.text '\x00' = some tuple)
    (hZero : '\x00' ∉ tuple)
    (hFits : text.length + tuple.length < 1024) :
    ∃ buf' : TextBuffer Char 1024,
      strcat buf tmp = some buf' ∧
        buf'.text '\x00' = some (text ++ tuple) := by
  unfold strcat
  simp only [hTuple]
  exact TextBuffer.append_spec hText hZero hFits

/- Tuples with a separator before each. -/
def separatedTuples (tuples : List (List Char)) : List Char :=
  tuples.flatMap (fun tuple => ';' :: tuple)

theorem joined_cons
    (key tuple : List Char)
    (tuples : List (List Char)) :
    joined key (tuple :: tuples) =
      key ++ tuple ++ separatedTuples tuples := by
  have hRest :
      [';'].intercalate (tuple :: tuples) =
        tuple ++ separatedTuples tuples := by
    induction tuples generalizing tuple with
    | nil => simp [separatedTuples, List.intercalate]
    | cons next rest ih =>
        rw [List.intercalate_cons_cons, ih]
        simp [separatedTuples]
  unfold joined
  rw [if_neg (List.cons_ne_nil _ _), hRest,
    List.append_assoc]

/- The rounds of `constraints2str` after the first one. -/
theorem constraints2strLoop_spec
    {toFloat : Binary64 → Binary64}
    {i : Nat}
    {buf : TextBuffer Char 1024}
    {text : List Char}
    {cons : List Constraint}
    (hRound : i ≠ 0)
    (hText : buf.text '\x00' = some text)
    (hFits :
      text.length +
          (separatedTuples
            (cons.map (Constraint.tuple toFloat))).length <
        1024) :
    ∃ buf' : TextBuffer Char 1024,
      constraints2strLoop toFloat i buf cons = some buf' ∧
        buf'.text '\x00' =
          some
            (text ++
              separatedTuples
                (cons.map (Constraint.tuple toFloat))) := by
  induction cons generalizing i buf text with
  | nil => exact ⟨buf, rfl, by simpa [separatedTuples] using hText⟩
  | cons con cons ih =>
      have hZero := zero_notMem_constraintTuple toFloat con
      simp only [separatedTuples, List.map_cons,
        List.flatMap_cons, List.length_append,
        List.length_cons] at hFits
      rcases TextBuffer.append_spec hText
          (by decide : '\x00' ∉ [';'])
          (by simp only [List.length_cons, List.length_nil]
              omega) with
        ⟨first, hFirst, hSeparator⟩
      rcases (zeros 1024).copy_spec hZero (by omega) with
        ⟨tmp, hCopy, hTuple⟩
      rcases strcat_spec hSeparator hTuple hZero
          (by simp only [List.length_append,
                List.length_cons, List.length_nil]
              omega) with
        ⟨second, hSecond, hBoth⟩
      rcases ih (Nat.succ_ne_zero i) hBoth
          (by simp only [separatedTuples, List.length_append,
                List.length_cons, List.length_nil]
              omega) with
        ⟨buf', hRest, hAll⟩
      refine ⟨buf', ?_, ?_⟩
      · simp only [constraints2strLoop, separatorIf,
          if_neg hRound, Option.bind_eq_bind, hFirst,
          Option.bind_some, hCopy, hSecond]
        exact hRest
      · rw [hAll]
        simp [separatedTuples]

/- `constraints2str` gives the documented encoding. -/
theorem constraints2str_joined
    (toFloat : Binary64 → Binary64)
    (buf : TextBuffer Char 1024)
    (cons : List Constraint)
    (hFits :
      (joined "constraints=".toList
        (cons.map (Constraint.tuple toFloat))).length <
        1024) :
    ∃ buf' : TextBuffer Char 1024,
      constraints2str toFloat buf cons = some buf' ∧
        buf'.text '\x00' =
          some
            (joined "constraints=".toList
              (cons.map (Constraint.tuple toFloat))) := by
  rcases startText_spec cons.length buf
      (by decide : '\x00' ∉ "constraints=".toList)
      (by decide) with
    ⟨start, hStart, hKey⟩
  unfold constraints2str
  rw [hStart]
  cases cons with
  | nil => exact ⟨start, rfl, by simpa [joined] using hKey⟩
  | cons con cons =>
      have hZero := zero_notMem_constraintTuple toFloat con
      rw [List.map_cons, joined_cons] at hFits ⊢
      simp only [List.length_append] at hFits
      rw [if_neg (by simp)] at hKey
      rcases (zeros 1024).copy_spec hZero (by omega) with
        ⟨tmp, hCopy, hTuple⟩
      rcases strcat_spec hKey hTuple hZero (by omega) with
        ⟨first, hFirst, hText⟩
      rcases constraints2strLoop_spec Nat.one_ne_zero hText
          (by simp only [List.length_append]
              omega) with
        ⟨buf', hRest, hAll⟩
      refine ⟨buf', ?_, hAll⟩
      simp only [constraints2strLoop, separatorIf, if_true,
        Option.bind_eq_bind, Option.bind_some, hCopy,
        hFirst]
      exact hRest

/- A text constraint behind one with bounds. -/
def twoConstraints : List Constraint :=
  [{ publishedName := ⟨"rtt".toList, by decide⟩
     strValue := none
     minValue := .ofRatio false 0 1
     maxValue := .ofRatio false 1 2 },
    { publishedName := ⟨"name".toList, by decide⟩
      strValue := some ⟨"x".toList, by decide⟩
      minValue := .ofRatio false 0 1
      maxValue := .ofRatio false 0 1 }]

theorem constraints2str_joined_two :
    ∃ buf : TextBuffer Char 1024,
      constraints2str id (zeros 1024) twoConstraints =
          some buf ∧
        buf.text '\x00' =
          some
            "constraints=rtt,0.000000,0.500000;name,x".toList := by
  rcases constraints2str_joined id (zeros 1024) twoConstraints
      (by decide +kernel) with
    ⟨buf, hEq, hText⟩
  exact ⟨buf, hEq, hText.trans (by decide +kernel)⟩

------------------------------------------------------------
-- Rankings
------------------------------------------------------------

/-
  Whatever was in the local array, copying the tuple writes
  over the separator: the tuples follow each other directly.
-/
theorem rankings2strLoop_text
    {tmps : Nat → TextBuffer Char 128}
    {i : Nat}
    {buf buf' : TextBuffer Char 1024}
    {text : List Char}
    {ranks : List Ranking}
    (hText : buf.text '\x00' = some text)
    (hLoop : rankings2strLoop tmps i buf ranks = some buf') :
    buf'.text '\x00' =
      some (text ++ ranks.flatMap Ranking.tuple) := by
  induction ranks generalizing i buf text with
  | nil =>
      cases hLoop
      simpa using hText
  | cons rank ranks ih =>
      have hZero := zero_notMem_rankingTuple rank
      simp only [rankings2strLoop, Option.bind_eq_bind,
        Option.bind_eq_some_iff] at hLoop
      rcases hLoop with
        ⟨mixed, -, tmp, hCopy, next, hStrcat, hRest⟩
      have hTuple := TextBuffer.text_of_copy hCopy hZero
      unfold strcat at hStrcat
      simp only [hTuple] at hStrcat
      have hNext :=
        TextBuffer.text_of_append hStrcat hText hZero
      rw [ih hNext hRest]
      simp

/- What `rankings2str` leaves in the buffer, if it returns. -/
theorem rankings2str_text
    {tmps : Nat → TextBuffer Char 128}
    {buf buf' : TextBuffer Char 1024}
    {ranks : List Ranking}
    (hReturns : rankings2str tmps buf ranks = some buf') :
    buf'.text '\x00' =
      some
        ((if ranks.length = 0 then []
          else "rankings=".toList) ++
          ranks.flatMap Ranking.tuple) := by
  rcases startText_spec ranks.length buf
      (by decide : '\x00' ∉ "rankings=".toList)
      (by decide) with
    ⟨start, hStart, hKey⟩
  unfold rankings2str at hReturns
  rw [hStart] at hReturns
  exact rankings2strLoop_text hKey hReturns

/- One ranking is printed as it should be. -/
theorem rankings2str_single
    (tmps : Nat → TextBuffer Char 128)
    (buf : TextBuffer Char 1024)
    (rank : Ranking)
    (hTuple : rank.tuple.length < 128) :
    ∃ buf' : TextBuffer Char 1024,
      rankings2str tmps buf [rank] = some buf' := by
  have hZero := zero_notMem_rankingTuple rank
  have hKey : "rankings=".toList.length = 9 := rfl
  rcases startText_spec 1 buf
      (by decide : '\x00' ∉ "rankings=".toList)
      (by decide) with
    ⟨start, hStart, hText⟩
  rw [if_neg Nat.one_ne_zero] at hText
  rcases (tmps 0).copy_spec hZero hTuple with
    ⟨tmp, hCopy, hPrinted⟩
  rcases strcat_spec hText hPrinted hZero (by omega) with
    ⟨buf', hStrcat, -⟩
  refine ⟨buf', ?_⟩
  unfold rankings2str
  simp only [List.length_cons, List.length_nil, hStart,
    Option.bind_eq_bind, Option.bind_some, rankings2strLoop,
    separatorIf, if_true, hCopy, hStrcat]

/- Separators make the text longer. -/
theorem length_separatedTuples
    (tuples : List (List Char)) :
    (separatedTuples tuples).length =
      tuples.flatten.length + tuples.length := by
  induction tuples with
  | nil => rfl
  | cons tuple tuples ih =>
      simp only [separatedTuples, List.flatMap_cons,
        List.flatten_cons, List.length_append,
        List.length_cons] at ih ⊢
      omega

/- A text that gives back the tuples it was made of. -/
structure Separates
    (tuples : List (List Char))
    (text : List Char) : Prop where
  eq : text = joined "rankings=".toList tuples
  split :
    tuples ≠ [] →
      (text.drop "rankings=".toList.length).splitOn ';' =
        tuples

/- The encoding can be split where no tuple has a `;`. -/
theorem Separates.of_eq
    {tuples : List (List Char)}
    (hPlain : ∀ tuple ∈ tuples, ';' ∉ tuple) :
    Separates tuples (joined "rankings=".toList tuples) where
  eq := rfl
  split := by
    intro hSome
    unfold joined
    rw [if_neg hSome, List.drop_left]
    exact List.splitOn_intercalate ';' hPlain hSome

/-
  The rankings are separated just when there is at most one:
  from the second tuple on the separator is lost.
-/
theorem rankings_separated_iff
    (tmps : Nat → TextBuffer Char 128)
    (buf : TextBuffer Char 1024)
    (ranks : List Ranking)
    (hNames :
      ∀ rank ∈ ranks, ∀ c ∈ [';', ',', '&'],
        c ∉ rank.publishedName.chars)
    (hTuples : ∀ rank ∈ ranks, rank.tuple.length < 128) :
    (∃ (buf' : TextBuffer Char 1024) (text : List Char),
        rankings2str tmps buf ranks = some buf' ∧
          buf'.text '\x00' = some text ∧
          Separates (ranks.map Ranking.tuple) text) ↔
      ranks.length ≤ 1 := by
  have hPlain :
      ∀ tuple ∈ ranks.map Ranking.tuple, ';' ∉ tuple := by
    intro tuple hIn
    rcases List.mem_map.mp hIn with ⟨rank, hRank, rfl⟩
    unfold Ranking.tuple
    rw [List.mem_append, List.mem_cons, not_or, not_or]
    exact
      ⟨hNames rank hRank ';' (by decide), by decide,
        notMem_printF _ rfl⟩
  constructor
  · rintro ⟨buf', text, hReturns, hText, hSeparates⟩
    have hCode := rankings2str_text hReturns
    rw [hText, Option.some.injEq] at hCode
    cases ranks with
    | nil => exact Nat.zero_le 1
    | cons rank rest =>
        have hLengths :=
          congrArg List.length
            (hSeparates.eq.symm.trans hCode)
        rw [List.map_cons, joined_cons,
          if_neg (by simp), List.flatMap_cons] at hLengths
        simp only [List.length_append, List.length_map,
          length_separatedTuples] at hLengths
        rw [← List.flatMap_def] at hLengths
        rw [List.length_cons]
        omega
  · intro hLength
    match ranks, hLength with
    | [], _ =>
        rcases startText_spec 0 buf
            (by decide : '\x00' ∉ "rankings=".toList)
            (by decide) with
          ⟨start, hStart, hText⟩
        refine ⟨start, [], ?_, hText, .of_eq hPlain⟩
        unfold rankings2str
        rw [List.length_nil, hStart]
        rfl
    | [rank], _ =>
        rcases rankings2str_single tmps buf rank
            (hTuples rank (by simp)) with
          ⟨buf', hReturns⟩
        have hText := rankings2str_text hReturns
        refine
          ⟨buf', _, hReturns, hText, ?_⟩
        have hSame :
            (if [rank].length = 0 then []
              else "rankings=".toList) ++
                [rank].flatMap Ranking.tuple =
              joined "rankings=".toList
                ([rank].map Ranking.tuple) := by
          rw [List.map_singleton, joined_cons]
          simp [separatedTuples]
        rw [hSame]
        exact .of_eq hPlain

/- Two rankings, by `a` with weight 1 and by `b` with 2. -/
def twoRankings : List Ranking :=
  [{ publishedName := ⟨['a'], zero_notMem_a⟩
     weight := ⟨0x3FF0000000000000⟩ },
    { publishedName := ⟨['b'], by decide⟩
      weight := ⟨0x4000000000000000⟩ }]

theorem rankings_separated_iff_single :
    (∃ (buf' : TextBuffer Char 1024) (text : List Char),
        rankings2str (fun _ => zeros 128) (zeros 1024)
            (twoRankings.take 1) =
          some buf' ∧
          buf'.text '\x00' = some text ∧
          Separates
            ((twoRankings.take 1).map Ranking.tuple)
            text) := by
  apply (rankings_separated_iff (fun _ => zeros 128)
    (zeros 1024) (twoRankings.take 1)
    (by simp [twoRankings]) (by decide)).mpr
  decide

/- The second tuple follows the first one directly. -/
theorem two_rankings_run_together :
    (rankings2str (fun _ => zeros 128) (zeros 1024)
          twoRankings).bind
        (TextBuffer.text '\x00') =
      some "rankings=a,1.000000b,2.000000".toList ∧
    joined "rankings=".toList
        (twoRankings.map Ranking.tuple) =
      "rankings=a,1.000000;b,2.000000".toList := by
  constructor
  · decide +kernel
  · decide

end Rep

end NapaBaselibs
