import NapaBaselibs.Lib.Scan
import NapaBaselibs.Rep.SharedStream

/-
  `getmeasurements.c`: parsing a measurement record, and what
  parsing makes of an encoded one.

  A value without characters is no token, so the copy of it
  is a copy of `NULL`.  The time is never read.

  Key definitions include:
    * `parseMeasurementrecord`
    * `MeasurementRecord.Plain`
    * `MeasurementRecord.parsed`, `RoundTrips`

  Key theorems include:
    * `parseMeasurementrecord_text`
    * `parseMeasurementrecord_fault`
    * `measurementrecord_round_trip_iff`
-/

------------------------------------------------------------
-- Parsing
------------------------------------------------------------

namespace NapaBaselibs

namespace Rep

/- What goes wrong when a record is parsed. -/
inductive Fault where
  | nullPointer
deriving DecidableEq

/- The string that begins with these characters. -/
def CString.ofChars (chars : List Char) : CString where
  chars := chars.takeWhile (fun c => c ≠ '\x00')
  zero_notMem := by
    intro hMem
    have hNot := List.mem_takeWhile_imp hMem
    simp at hNot

/- `strdup`, on a pointer that may be `NULL`. -/
def strdup (value : Option (List Char)) :
    Except Fault CString :=
  match value with
  | some chars => .ok (.ofChars chars)
  | none => .error .nullPointer

/- The branches of the loop, for a name and its value. -/
def assignField
    (name : List Char)
    (value : Option (List Char))
    (r : MeasurementRecord) :
    Except Fault MeasurementRecord :=
  if name = "originator".toList then
    (strdup value).map fun s =>
      { r with originator := some s }
  else if name = "published_name".toList then
    (strdup value).map fun s =>
      { r with publishedName := some s }
  else if name = "string_value".toList then
    (strdup value).map fun s =>
      { r with stringValue := some s }
  else if name = "value".toList then
    match value with
    | some chars =>
        .ok
          { r with
            value := (Binary64.scanLf chars).getD r.value }
    | none => .error .nullPointer
  else if name = "targetA".toList then
    (strdup value).map fun s => { r with targetA := some s }
  else if name = "targetB".toList then
    (strdup value).map fun s => { r with targetB := some s }
  else if name = "channel".toList then
    (strdup value).map fun s => { r with channel := some s }
  else
    .ok r

/- One field: its name and its value are tokens of it. -/
def parseField
    (field : List Char)
    (r : MeasurementRecord) :
    Except Fault MeasurementRecord :=
  match Scan.token '=' field with
  | none => .error .nullPointer
  | some (name, rest) =>
      assignField name ((Scan.token '=' rest).map Prod.fst) r

/- The loop over the fields. -/
def parseFields :
    List (List Char) → MeasurementRecord →
      Except Fault MeasurementRecord
| [], r => .ok r
| field :: fields, r =>
    match parseField field r with
    | .error fault => .error fault
    | .ok r => parseFields fields r

/- The text that stands for what is not known. -/
def unknown : CString where
  chars := "(Unknown)".toList
  zero_notMem := by decide

/- The record before the first field. -/
def defaultRecord (fpNan : Int) : MeasurementRecord where
  originator := some unknown
  targetA := some unknown
  targetB := none
  publishedName := some unknown
  value := Binary64.ofInt fpNan
  stringValue := none
  timestamp := ⟨0, 0⟩
  channel := none

/-
  `parse_measurementrecord`.  `FP_NAN` is an integer of the
  library, for a kind of double, and not a NaN.
-/
def parseMeasurementrecord
    (fpNan : Int)
    (line : List Char) : Except Fault MeasurementRecord :=
  parseFields (Scan.tokens '&' line) (defaultRecord fpNan)

------------------------------------------------------------
-- Encoded Fields
------------------------------------------------------------

/- Neither a separator nor the end of a line. -/
def IsPlain (c : Char) : Prop :=
  c ≠ '&' ∧ c ≠ '=' ∧ c ≠ '\n' ∧ c ≠ '\r'

instance (c : Char) : Decidable (IsPlain c) :=
  inferInstanceAs (Decidable (_ ∧ _))

/- The strings of a record. -/
def MeasurementRecord.strings
    (r : MeasurementRecord) : List CString :=
  r.originator.toList ++ r.targetA.toList ++
    r.targetB.toList ++ r.publishedName.toList ++
    r.stringValue.toList ++ r.channel.toList

/-
  The records in question: their strings are plain, an
  originator and a name are there, the number is printed
  exactly where there is no string, the time is in seconds.
-/
structure MeasurementRecord.Plain
    (r : MeasurementRecord) : Prop where
  originator : r.originator ≠ none
  publishedName : r.publishedName ≠ none
  strings : ∀ s ∈ r.strings, ∀ c ∈ s.chars, IsPlain c
  value : r.stringValue = none → r.value.Representable
  timestamp : r.timestamp.tvUsec = 0

/- A field of plain characters with a name. -/
def Field.Plain (field : Field) : Prop :=
  (∀ c ∈ field.1, IsPlain c) ∧ field.1 ≠ [] ∧
    ∀ c ∈ field.2, IsPlain c

theorem isPlain_of_isPrinted
    {c : Char}
    (hPrinted : Binary64.IsPrinted c = true) :
    IsPlain c := by
  refine ⟨?_, ?_, ?_, ?_⟩
  all_goals
    rintro rfl
    revert hPrinted
    decide

/- A string that is there is printed as it is. -/
theorem mem_strings
    {r : MeasurementRecord}
    {s : CString}
    (hString :
      r.originator = some s ∨ r.targetA = some s ∨
        r.targetB = some s ∨ r.publishedName = some s ∨
        r.stringValue = some s ∨ r.channel = some s) :
    s ∈ r.strings := by
  simp only [MeasurementRecord.strings, List.mem_append,
    Option.mem_toList]
  tauto

theorem Field.plain_of
    {name : String}
    {value : List Char}
    (hName :
      name.toList.all (fun c => decide (IsPlain c)) = true ∧
        name.toList ≠ [])
    (hValue : ∀ c ∈ value, IsPlain c) :
    Field.Plain (name.toList, value) := by
  refine ⟨?_, hName.2, hValue⟩
  intro c hMem
  exact
    of_decide_eq_true (List.all_eq_true.mp hName.1 c hMem)

theorem MeasurementRecord.Plain.fields
    {r : MeasurementRecord}
    (hPlain : r.Plain) :
    ∀ field ∈ r.fields, field.Plain := by
  rcases Option.ne_none_iff_exists'.mp hPlain.originator
    with ⟨o, hOriginator⟩
  rcases Option.ne_none_iff_exists'.mp hPlain.publishedName
    with ⟨n, hName⟩
  apply
    r.forall_fields (motive := fun field => field.Plain)
  · rw [hOriginator]
    exact
      Field.plain_of (by decide)
        (hPlain.strings o (mem_strings (.inl hOriginator)))
  · intro s hS
    exact
      Field.plain_of (by decide)
        (hPlain.strings s (mem_strings (.inr (.inl hS))))
  · intro s hS
    exact
      Field.plain_of (by decide)
        (hPlain.strings s
          (mem_strings (.inr (.inr (.inl hS)))))
  · rw [hName]
    exact
      Field.plain_of (by decide)
        (hPlain.strings n
          (mem_strings (.inr (.inr (.inr (.inl hName))))))
  · intro s hS
    exact
      Field.plain_of (by decide)
        (hPlain.strings s
          (mem_strings
            (.inr (.inr (.inr (.inr (.inl hS)))))))
  · intro _
    exact
      Field.plain_of (by decide) (fun c hMem =>
        isPlain_of_isPrinted (Binary64.mem_printF hMem))
  · intro s hS
    exact
      Field.plain_of (by decide)
        (hPlain.strings s
          (mem_strings
            (.inr (.inr (.inr (.inr (.inr hS)))))))
  · exact
      Field.plain_of (by decide) (fun c hMem =>
        isPlain_of_isPrinted (isPrinted_timeval2str hMem))

/- The tokens of the text are the fields. -/
theorem tokens_text
    {r : MeasurementRecord}
    (hPlain : r.Plain) :
    Scan.tokens '&' r.text = r.fields.map Field.text := by
  have hText :
      r.text =
        ((r.fields.map Field.text).flatMap
          (fun text => '&' :: text)).tail := by
    rw [List.flatMap_map]
    rfl
  rw [hText]
  apply Scan.tokens_separated
  intro text hMem
  rcases List.mem_map.mp hMem with ⟨field, hField, rfl⟩
  rcases hPlain.fields field hField with
    ⟨hName, _, hValue⟩
  unfold Field.text
  refine ⟨?_, by simp⟩
  rw [List.mem_append, List.mem_cons]
  rintro (hIn | hEq | hIn)
  · exact (hName _ hIn).1 rfl
  · exact absurd hEq (by decide)
  · exact (hValue _ hIn).1 rfl

/- A plain field is read as its name and its value. -/
theorem parseField_text
    {field : Field}
    (hPlain : field.Plain)
    (r : MeasurementRecord) :
    parseField field.text r =
      assignField field.1
        (if field.2 = [] then none else some field.2) r := by
  rcases hPlain with ⟨hName, hNotEmpty, hValue⟩
  have hNotMem : '=' ∉ field.1 :=
    fun hMem => (hName '=' hMem).2.1 rfl
  have hEnds :
      Scan.Ends (fun c => c ≠ '=') ('=' :: field.2) :=
    Scan.ends_cons (by simp) field.2
  have hFirst :=
    Scan.token_append hNotMem hNotEmpty hEnds
  have hSecond :
      (Scan.token '=' field.2).map Prod.fst =
        if field.2 = [] then none else some field.2 := by
    split
    · rename_i hEmpty
      rw [hEmpty]
      rfl
    · rename_i hFull
      have hNotMem : '=' ∉ field.2 :=
        fun hMem => (hValue '=' hMem).2.1 rfl
      have hToken :=
        Scan.token_append hNotMem hFull
          (Scan.ends_nil (fun c => c ≠ '='))
      rw [List.append_nil] at hToken
      rw [hToken]
      rfl
  unfold parseField Field.text
  rw [hFirst, ← hSecond]
  rfl

/- The value of a field as the parser finds it. -/
def Field.value (field : Field) : Option (List Char) :=
  if field.2 = [] then none else some field.2

/- The fields read one after another. -/
def assignFields :
    List Field → MeasurementRecord →
      Except Fault MeasurementRecord
| [], r => .ok r
| field :: fields, r =>
    match assignField field.1 field.value r with
    | .error fault => .error fault
    | .ok r => assignFields fields r

theorem parseFields_map
    {fields : List Field}
    (hPlain : ∀ field ∈ fields, field.Plain)
    (r : MeasurementRecord) :
    parseFields (fields.map Field.text) r =
      assignFields fields r := by
  induction fields generalizing r with
  | nil => rfl
  | cons field fields ih =>
      have hRest :=
        ih (fun other hMem =>
          hPlain other (List.mem_cons_of_mem _ hMem))
      rw [List.map_cons, parseFields, assignFields,
        parseField_text (hPlain field List.mem_cons_self)]
      unfold Field.value
      cases
        assignField field.1
          (if field.2 = [] then none else some field.2) r with
      | error fault => rfl
      | ok r => exact hRest r

theorem assignFields_append
    (fields₁ fields₂ : List Field)
    (r : MeasurementRecord) :
    assignFields (fields₁ ++ fields₂) r =
      match assignFields fields₁ r with
      | .error fault => .error fault
      | .ok r => assignFields fields₂ r := by
  induction fields₁ generalizing r with
  | nil => rfl
  | cons field fields ih =>
      rw [List.cons_append, assignFields, assignFields]
      cases assignField field.1 field.value r with
      | error fault => rfl
      | ok r => exact ih r

/- The line is read field by field. -/
theorem parseMeasurementrecord_eq
    {r : MeasurementRecord}
    (hPlain : r.Plain)
    (fpNan : Int) :
    parseMeasurementrecord fpNan r.text =
      assignFields r.fields (defaultRecord fpNan) := by
  unfold parseMeasurementrecord
  rw [tokens_text hPlain, parseFields_map hPlain.fields]

------------------------------------------------------------
-- What Is Read Back
------------------------------------------------------------

/- The record that comes back where nothing goes wrong. -/
def MeasurementRecord.parsed
    (fpNan : Int)
    (r : MeasurementRecord) : MeasurementRecord :=
  { r with
    targetA := r.targetA.or (some unknown)
    value :=
      if r.stringValue = none then r.value
      else Binary64.ofInt fpNan
    timestamp := ⟨0, 0⟩ }

/- All strings have characters. -/
def MeasurementRecord.Filled
    (r : MeasurementRecord) : Prop :=
  ∀ s ∈ r.strings, s.chars ≠ []

theorem ofChars_chars (s : CString) :
    CString.ofChars s.chars = s := by
  have hAll :
      ∀ c ∈ s.chars, decide (c ≠ '\x00') = true := by
    intro c hMem
    refine decide_eq_true ?_
    rintro rfl
    exact s.zero_notMem hMem
  have hChars :
      s.chars.takeWhile (fun c => c ≠ '\x00') = s.chars :=
    List.takeWhile_eq_self_iff.mpr hAll
  unfold CString.ofChars
  cases s
  congr 1

/- A string with characters is copied. -/
theorem strdup_value
    {name : List Char}
    {s : CString}
    (hFull : s.chars ≠ []) :
    strdup (Field.value (name, s.chars)) = .ok s := by
  unfold Field.value
  rw [if_neg hFull]
  show Except.ok (CString.ofChars s.chars) = _
  rw [ofChars_chars]

/- One field, and a text that may be missing. -/
theorem assignFields_singleton
    {field : Field}
    {r r' : MeasurementRecord}
    (hAssign : assignField field.1 field.value r = .ok r') :
    assignFields [field] r = .ok r' := by
  rw [assignFields, hAssign]
  rfl

/- A branch that copies a string. -/
theorem map_strdup
    {name : List Char}
    {s : CString}
    (hFull : s.chars ≠ [])
    (update : CString → MeasurementRecord) :
    (strdup (Field.value (name, s.chars))).map update =
      .ok (update s) := by
  rw [strdup_value hFull]
  rfl

/- A string that is there and has characters is stored. -/
theorem assignFields_stringField
    {name : String}
    {s : Option CString}
    {r : MeasurementRecord}
    {update : CString → MeasurementRecord}
    (hFull : ∀ t, s = some t → t.chars ≠ [])
    (hCopies :
      ∀ value,
        assignField name.toList value r =
          (strdup value).map update) :
    assignFields (stringField name s) r =
      .ok (s.elim r update) := by
  cases s with
  | none => rfl
  | some t =>
      apply assignFields_singleton
      rw [hCopies]
      exact map_strdup (hFull t rfl) update

/- With characters in all strings the fields are assigned. -/
theorem parseMeasurementrecord_text
    {r : MeasurementRecord}
    (hPlain : r.Plain)
    (hFilled : r.Filled)
    (fpNan : Int) :
    parseMeasurementrecord fpNan r.text =
      .ok (r.parsed fpNan) := by
  rcases Option.ne_none_iff_exists'.mp hPlain.originator
    with ⟨o, hOriginator⟩
  rcases Option.ne_none_iff_exists'.mp hPlain.publishedName
    with ⟨n, hName⟩
  have hFirst (d : MeasurementRecord) :
      assignFields
          [("originator".toList, formatS r.originator)] d =
        .ok { d with originator := r.originator } := by
    apply assignFields_singleton
    rw [hOriginator]
    exact
      map_strdup
        (hFilled o (mem_strings (.inl hOriginator))) _
  have hTargetA (d : MeasurementRecord) :
      assignFields (stringField "targetA" r.targetA) d =
        .ok { d with targetA := r.targetA.or d.targetA } := by
    rw [assignFields_stringField
      (fun s hS => hFilled s (mem_strings (.inr (.inl hS))))
      (fun _ => rfl)]
    cases r.targetA with
    | none => rfl
    | some s => rfl
  have hTargetB (d : MeasurementRecord) :
      assignFields (stringField "targetB" r.targetB) d =
        .ok { d with targetB := r.targetB.or d.targetB } := by
    rw [assignFields_stringField
      (fun s hS =>
        hFilled s (mem_strings (.inr (.inr (.inl hS)))))
      (fun _ => rfl)]
    cases r.targetB with
    | none => rfl
    | some s => rfl
  have hPublished (d : MeasurementRecord) :
      assignFields
          [("published_name".toList,
            formatS r.publishedName)] d =
        .ok { d with publishedName := r.publishedName } := by
    apply assignFields_singleton
    rw [hName]
    exact
      map_strdup
        (hFilled n
          (mem_strings (.inr (.inr (.inr (.inl hName)))))) _
  have hValue (d : MeasurementRecord) :
      assignFields [r.valueField] d =
        .ok
          { d with
            value :=
              if r.stringValue = none then r.value
              else d.value
            stringValue :=
              r.stringValue.or d.stringValue } := by
    apply assignFields_singleton
    unfold MeasurementRecord.valueField
    cases hS : r.stringValue with
    | none =>
        have hScan := (hPlain.value hS).2
        unfold Field.value
        simp only
        rw [if_neg (Binary64.printF_ne_nil r.value)]
        show Except.ok _ = _
        rw [hScan]
        rfl
    | some s =>
        exact
          map_strdup
            (hFilled s
              (mem_strings
                (.inr (.inr (.inr (.inr (.inl hS))))))) _
  have hChannel (d : MeasurementRecord) :
      assignFields (stringField "channel" r.channel) d =
        .ok { d with channel := r.channel.or d.channel } := by
    rw [assignFields_stringField
      (fun s hS =>
        hFilled s
          (mem_strings
            (.inr (.inr (.inr (.inr (.inr hS)))))))
      (fun _ => rfl)]
    cases r.channel with
    | none => rfl
    | some s => rfl
  have hTimestamp (d : MeasurementRecord) :
      assignFields r.timestampField d = .ok d := by
    unfold MeasurementRecord.timestampField
    split
    · exact assignFields_singleton rfl
    · rfl
  rw [parseMeasurementrecord_eq hPlain]
  unfold MeasurementRecord.fields
  simp only [assignFields_append, hFirst, hTargetA, hTargetB,
    hPublished, hValue, hChannel, hTimestamp]
  simp [defaultRecord, MeasurementRecord.parsed]

------------------------------------------------------------
-- Empty Strings
------------------------------------------------------------

/- A field that faults on every record stops the reading. -/
theorem assignFields_fault
    {fields : List Field}
    {field : Field}
    (hMem : field ∈ fields)
    (hFault :
      ∀ r, assignField field.1 field.value r =
        .error .nullPointer)
    (r : MeasurementRecord) :
    assignFields fields r = .error .nullPointer := by
  induction fields generalizing r with
  | nil => cases hMem
  | cons first fields ih =>
      rw [assignFields]
      rcases List.mem_cons.mp hMem with rfl | hMem
      · rw [hFault r]
      · cases assignField first.1 first.value r with
        | error fault =>
            cases fault
            rfl
        | ok r => exact ih hMem r

/- A name of a string, without a value. -/
theorem assignField_none
    {name : List Char}
    (hName :
      name = "originator".toList ∨
        name = "published_name".toList ∨
        name = "string_value".toList ∨
        name = "targetA".toList ∨ name = "targetB".toList ∨
        name = "channel".toList)
    (r : MeasurementRecord) :
    assignField name none r = .error .nullPointer := by
  rcases hName with rfl | rfl | rfl | rfl | rfl | rfl <;> rfl

theorem mem_stringField
    (name : String)
    {s : Option CString}
    {t : CString}
    (hS : s = some t) :
    (name.toList, t.chars) ∈ stringField name s := by
  rw [hS]
  exact List.mem_singleton.mpr rfl

/- A string of a record is the value of one of its fields. -/
theorem MeasurementRecord.exists_field
    {r : MeasurementRecord}
    {s : CString}
    (hMem : s ∈ r.strings) :
    ∃ name : List Char,
      (name, s.chars) ∈ r.fields ∧
        (name = "originator".toList ∨
          name = "published_name".toList ∨
          name = "string_value".toList ∨
          name = "targetA".toList ∨
          name = "targetB".toList ∨
          name = "channel".toList) := by
  simp only [strings, List.mem_append, Option.mem_toList]
    at hMem
  unfold fields
  simp only [List.mem_append, List.mem_singleton]
  rcases hMem with ((((hS | hS) | hS) | hS) | hS) | hS
  · refine ⟨"originator".toList, ?_, by simp⟩
    rw [Option.mem_def.mp hS]
    simp [formatS]
  · refine ⟨"targetA".toList, ?_, by simp⟩
    have hIn := mem_stringField "targetA" hS
    tauto
  · refine ⟨"targetB".toList, ?_, by simp⟩
    have hIn := mem_stringField "targetB" hS
    tauto
  · refine ⟨"published_name".toList, ?_, by simp⟩
    rw [Option.mem_def.mp hS]
    simp [formatS]
  · refine ⟨"string_value".toList, ?_, by simp⟩
    have hIn :
        ("string_value".toList, s.chars) = r.valueField := by
      unfold valueField
      rw [Option.mem_def.mp hS]
    tauto
  · refine ⟨"channel".toList, ?_, by simp⟩
    have hIn := mem_stringField "channel" hS
    tauto

/- With an empty string the parser copies from `NULL`. -/
theorem parseMeasurementrecord_fault
    {r : MeasurementRecord}
    (hPlain : r.Plain)
    (hEmpty : ¬ r.Filled)
    (fpNan : Int) :
    parseMeasurementrecord fpNan r.text =
      .error .nullPointer := by
  unfold MeasurementRecord.Filled at hEmpty
  push Not at hEmpty
  rcases hEmpty with ⟨s, hMem, hNil⟩
  rcases MeasurementRecord.exists_field hMem with
    ⟨name, hField, hName⟩
  rw [parseMeasurementrecord_eq hPlain]
  refine assignFields_fault hField ?_ _
  intro d
  have hValue : Field.value (name, s.chars) = none := by
    unfold Field.value
    exact if_pos hNil
  rw [hValue]
  exact assignField_none hName d

------------------------------------------------------------
-- The Round Trip
------------------------------------------------------------

/-
  Encoding a record after others and parsing the string gives
  the record again; a `targetA` that was `NULL` may have
  become the default.
-/
def RoundTrips
    (fpNan : Int)
    (history : List MeasurementRecord)
    (r : MeasurementRecord) : Prop :=
  ∃ r' : MeasurementRecord,
    parseMeasurementrecord fpNan (encodedAfter history r) =
      .ok r' ∧
    (r' = r ∨
      r.targetA = none ∧
        r' = { r with targetA := some unknown })

/- What came back is the record, up to the default. -/
theorem parsed_same_iff
    {r : MeasurementRecord}
    (hSeconds : r.timestamp.tvUsec = 0)
    (fpNan : Int) :
    (r.parsed fpNan = r ∨
        r.targetA = none ∧
          r.parsed fpNan =
            { r with targetA := some unknown }) ↔
      r.timestamp.tvSec = 0 ∧
        (r.stringValue ≠ none →
          r.value = Binary64.ofInt fpNan) := by
  constructor
  · intro hEq
    have hValue :
        (r.parsed fpNan).value = r.value := by
      rcases hEq with hEq | ⟨_, hEq⟩
      · rw [hEq]
      · rw [hEq]
    have hTime :
        (r.parsed fpNan).timestamp = r.timestamp := by
      rcases hEq with hEq | ⟨_, hEq⟩
      · rw [hEq]
      · rw [hEq]
    refine ⟨?_, ?_⟩
    · rw [← hTime]
      rfl
    · intro hString
      rw [← hValue]
      exact if_neg hString
  · rintro ⟨hZero, hValue⟩
    have hTime : (⟨0, 0⟩ : Timeval) = r.timestamp := by
      calc (⟨0, 0⟩ : Timeval)
          = ⟨r.timestamp.tvSec, r.timestamp.tvUsec⟩ := by
            rw [hZero, hSeconds]
        _ = r.timestamp := rfl
    have hNumber :
        (if r.stringValue = none then r.value
          else Binary64.ofInt fpNan) =
          r.value := by
      split
      · rfl
      · rename_i hString
        exact (hValue hString).symm
    unfold MeasurementRecord.parsed
    rw [hTime, hNumber]
    cases hTarget : r.targetA with
    | none =>
        right
        exact ⟨rfl, rfl⟩
    | some s =>
        left
        rw [Option.some_or, ← hTarget]

/-
  When the stream has held no longer record before, a record
  comes back exactly when no string of it is empty, its time
  is zero, and its number, if it has a string besides, is the
  number of `FP_NAN`.
-/
theorem measurementrecord_round_trip_iff
    {history : List MeasurementRecord}
    {r : MeasurementRecord}
    (hHistory :
      ∀ other ∈ history,
        other.text.length ≤ r.text.length)
    (hPlain : r.Plain)
    (fpNan : Int) :
    RoundTrips fpNan history r ↔
      r.Filled ∧ r.timestamp.tvSec = 0 ∧
        (r.stringValue ≠ none →
          r.value = Binary64.ofInt fpNan) := by
  unfold RoundTrips
  rw [(encodedAfter_eq_text_iff history r).mpr hHistory]
  by_cases hFilled : r.Filled
  · rw [parseMeasurementrecord_text hPlain hFilled]
    have hSame :=
      parsed_same_iff hPlain.timestamp fpNan
    constructor
    · rintro ⟨r', hOk, hEq⟩
      cases hOk
      exact ⟨hFilled, hSame.mp hEq⟩
    · rintro ⟨_, hRest⟩
      exact ⟨_, rfl, hSame.mpr hRest⟩
  · rw [parseMeasurementrecord_fault hPlain hFilled]
    constructor
    · rintro ⟨r', hOk, _⟩
      cases hOk
    · rintro ⟨hFull, _⟩
      exact absurd hFull hFilled

/- A record with a number, as it is published. -/
def measuredRecord
    (channel : Option CString)
    (seconds : Int) : MeasurementRecord where
  originator := some ⟨['a'], zero_notMem_a⟩
  targetA := some ⟨['a'], zero_notMem_a⟩
  targetB := none
  publishedName := some ⟨['R', 'T', 'T'], by decide⟩
  value := Binary64.ofRatio false 1 10
  stringValue := none
  timestamp := ⟨seconds, 0⟩
  channel := channel

theorem measuredRecord_plain
    {channel : Option CString}
    (hChannel :
      ∀ s ∈ channel, ∀ c ∈ s.chars, IsPlain c)
    (seconds : Int) :
    (measuredRecord channel seconds).Plain where
  originator := Option.some_ne_none _
  publishedName := Option.some_ne_none _
  strings := by
    intro s hMem
    simp only [MeasurementRecord.strings, measuredRecord,
      List.mem_append, Option.mem_toList,
      Option.some.injEq, reduceCtorEq, or_false] at hMem
    rcases hMem with ((rfl | rfl) | rfl) | hMem
    · simp [IsPlain]
    · simp [IsPlain]
    · simp [IsPlain]
    · exact hChannel s hMem
  value := by
    intro _
    show (Binary64.ofRatio false 1 10).Representable
    decide +kernel
  timestamp := rfl

/- It comes back after a record that was shorter. -/
theorem measuredRecord_round_trip :
    RoundTrips 0 [stateRecord none]
      (measuredRecord none 0) := by
  refine
    (measurementrecord_round_trip_iff
      (by decide +kernel)
      (measuredRecord_plain (by simp) 0) 0).mpr
      ⟨?_, rfl, fun hString => absurd rfl hString⟩
  intro s hMem
  simp only [MeasurementRecord.strings, measuredRecord,
    List.mem_append, Option.mem_toList, Option.some.injEq,
    reduceCtorEq, or_false] at hMem
  rcases hMem with (rfl | rfl) | rfl <;> decide

/- The monitoring layer publishes with an empty channel. -/
theorem empty_channel_faults :
    (measuredRecord (some ⟨[], by decide⟩) 1).Plain ∧
      ¬ RoundTrips 0 []
        (measuredRecord (some ⟨[], by decide⟩) 1) := by
  have hPlain :=
    @measuredRecord_plain (some ⟨[], by decide⟩)
      (by
        intro s hMem c hIn
        cases hMem
        cases hIn) 1
  refine ⟨hPlain, ?_⟩
  rintro ⟨r', hOk, _⟩
  rw [(encodedAfter_eq_text_iff [] _).mpr (by simp),
    parseMeasurementrecord_fault hPlain (by
      intro hFilled
      refine hFilled ⟨[], by decide⟩ ?_ rfl
      simp [MeasurementRecord.strings, measuredRecord])] at hOk
  cases hOk

end Rep

end NapaBaselibs
