import NapaBaselibs.Lib.Binary64
import NapaBaselibs.Lib.MemStream

/-
  `publish.c`: measurement records and their encoding into
  the stream that all calls share.

  What `bprintf` writes is the formatted text.  On the way to
  the fields of a record the encoder is seen as one write,
  from the start, of the fields joined by `&`.

  Key definitions include:
    * `MeasurementRecord`
    * `encodeMeasurementrecord`
    * `MeasurementRecord.fields`, `MeasurementRecord.text`

  Key theorems include:
    * `encodeMeasurementrecord_eq`
    * `MeasurementRecord.zero_notMem_text`
-/

------------------------------------------------------------
-- Records
------------------------------------------------------------

namespace NapaBaselibs

namespace Rep

/- The characters of a C string, up to its zero. -/
structure CString where
  chars : List Char
  zero_notMem : '\x00' ∉ chars
deriving DecidableEq

theorem zero_notMem_a : '\x00' ∉ ['a'] := by
  decide

/- `struct timeval`. -/
structure Timeval where
  tvSec : Int
  tvUsec : Int
deriving DecidableEq

/- `MeasurementRecord`; a string that is `NULL` is `none`. -/
structure MeasurementRecord where
  originator : Option CString
  targetA : Option CString
  targetB : Option CString
  publishedName : Option CString
  value : Binary64
  stringValue : Option CString
  timestamp : Timeval
  channel : Option CString
deriving DecidableEq

/- `struct streambuffer`, with the stream over its buffer. -/
abbrev Streambuffer := MemStream Char

------------------------------------------------------------
-- Formats
------------------------------------------------------------

/- `%s`; the library prints a `NULL` as below. -/
def formatS : Option CString → List Char
| some s => s.chars
| none => "(null)".toList

/- `%ld`. -/
def formatLd (n : Int) : List Char :=
  (if n < 0 then ['-'] else []) ++ Nat.toDigits 10 n.natAbs

/- `%03ld`: the sign counts for the width. -/
def format03Ld (n : Int) : List Char :=
  if n < 0 then
    '-' :: Binary64.padded 2 n.natAbs
  else
    Binary64.padded 3 n.natAbs

/- `timeval2str`. -/
def timeval2str (ts : Timeval) : List Char :=
  if ts.tvSec = 0 ∧ ts.tvUsec = 0 then
    ['0']
  else
    formatLd ts.tvSec ++ format03Ld (ts.tvUsec.tdiv 1000)

------------------------------------------------------------
-- Encoding
------------------------------------------------------------

/- `brewind`. -/
def brewind (sb : Streambuffer) : Streambuffer :=
  sb.rewind

/- `bprintf` of a formatted text. -/
def bprintf
    (sb : Streambuffer)
    (txt : List Char) : Streambuffer :=
  sb.write txt

/- `bprintf` of a field that may be missing. -/
def bprintfIf
    (sb : Streambuffer)
    (field : Option CString)
    (before after : List Char) : Streambuffer :=
  match field with
  | some s => bprintf sb (before ++ s.chars ++ after)
  | none => sb

/-
  `encode_measurementrecord`: the stream it leaves, and the
  string at the address it returns.  No double is equal to
  `0.0/0.0`, so without a string the value is always printed.
-/
def encodeMeasurementrecord
    (sb : Streambuffer)
    (r : MeasurementRecord) : Streambuffer × List Char :=
  let sb := brewind sb
  let sb :=
    bprintf sb
      ("originator=".toList ++ formatS r.originator ++
        "&".toList)
  let sb :=
    bprintfIf sb r.targetA "targetA=".toList "&".toList
  let sb :=
    bprintfIf sb r.targetB "targetB=".toList "&".toList
  let sb :=
    bprintf sb
      ("published_name=".toList ++ formatS r.publishedName)
  let sb :=
    match r.stringValue with
    | some s =>
        bprintf sb ("&string_value=".toList ++ s.chars)
    | none =>
        bprintf sb ("&value=".toList ++ r.value.printF)
  let sb := bprintfIf sb r.channel "&channel=".toList []
  let sb :=
    if r.timestamp.tvSec + r.timestamp.tvUsec ≠ 0 then
      bprintf sb
        ("&timestamp=".toList ++ timeval2str r.timestamp)
    else
      sb
  (sb, sb.string '\x00')

------------------------------------------------------------
-- Fields
------------------------------------------------------------

/- A name and a value. -/
abbrev Field := List Char × List Char

/- A field of a name, where there is a string for it. -/
def stringField
    (name : String) :
    Option CString → List Field
| some s => [(name.toList, s.chars)]
| none => []

/- The string or the number of a record. -/
def MeasurementRecord.valueField
    (r : MeasurementRecord) : Field :=
  match r.stringValue with
  | some s => ("string_value".toList, s.chars)
  | none => ("value".toList, r.value.printF)

def MeasurementRecord.timestampField
    (r : MeasurementRecord) : List Field :=
  if r.timestamp.tvSec + r.timestamp.tvUsec ≠ 0 then
    [("timestamp".toList, timeval2str r.timestamp)]
  else
    []

/- The fields that are written, in their order. -/
def MeasurementRecord.fields
    (r : MeasurementRecord) : List Field :=
  [("originator".toList, formatS r.originator)] ++
    stringField "targetA" r.targetA ++
    stringField "targetB" r.targetB ++
    [("published_name".toList, formatS r.publishedName)] ++
    [r.valueField] ++
    stringField "channel" r.channel ++
    r.timestampField

/- One field as it is written. -/
def Field.text (field : Field) : List Char :=
  field.1 ++ '=' :: field.2

/- Fields behind a separator each. -/
def separated (fields : List Field) : List Char :=
  fields.flatMap (fun field => '&' :: field.text)

/- The fields of a record, joined. -/
def MeasurementRecord.text (r : MeasurementRecord) :
    List Char :=
  (separated r.fields).tail

theorem separated_append
    (fields₁ fields₂ : List Field) :
    separated (fields₁ ++ fields₂) =
      separated fields₁ ++ separated fields₂ :=
  List.flatMap_append

/- A field that may be missing, with `&` behind it. -/
theorem bprintfIf_behind
    (sb : Streambuffer)
    (done : List Char)
    (field : Option CString)
    (name : String) :
    bprintfIf (sb.write (done ++ ['&'])) field
        (name.toList ++ ['=']) ['&'] =
      sb.write
        (done ++ separated (stringField name field) ++
          ['&']) := by
  cases field with
  | none =>
      simp [bprintfIf, stringField, separated]
  | some s =>
      simp [bprintfIf, bprintf, MemStream.write_write,
        stringField, separated, Field.text]

/- The same with `&` in front of it. -/
theorem bprintfIf_before
    (sb : Streambuffer)
    (done : List Char)
    (field : Option CString)
    (name : String) :
    bprintfIf (sb.write done) field
        ('&' :: (name.toList ++ ['='])) [] =
      sb.write (done ++ separated (stringField name field)) := by
  cases field with
  | none =>
      simp [bprintfIf, stringField, separated]
  | some s =>
      simp [bprintfIf, bprintf, MemStream.write_write,
        stringField, separated, Field.text]

theorem bprintf_valueField
    (sb : Streambuffer)
    (done : List Char)
    (r : MeasurementRecord) :
    (match r.stringValue with
    | some s =>
        bprintf (sb.write done)
          ("&string_value=".toList ++ s.chars)
    | none =>
        bprintf (sb.write done)
          ("&value=".toList ++ r.value.printF)) =
      sb.write (done ++ separated [r.valueField]) := by
  unfold MeasurementRecord.valueField
  cases r.stringValue with
  | none =>
      simp [bprintf, MemStream.write_write, separated,
        Field.text]
  | some s =>
      simp [bprintf, MemStream.write_write, separated,
        Field.text]

theorem bprintf_timestampField
    (sb : Streambuffer)
    (done : List Char)
    (r : MeasurementRecord) :
    (if r.timestamp.tvSec + r.timestamp.tvUsec ≠ 0 then
      bprintf (sb.write done)
        ("&timestamp=".toList ++ timeval2str r.timestamp)
    else
      sb.write done) =
      sb.write (done ++ separated r.timestampField) := by
  unfold MeasurementRecord.timestampField
  split
  · simp [bprintf, MemStream.write_write, separated,
      Field.text]
  · simp [separated]

/- The separator in front of all is not written. -/
theorem MeasurementRecord.cons_text (r : MeasurementRecord) :
    '&' :: r.text = separated r.fields :=
  rfl

/- The whole record is written from the start. -/
theorem encodeMeasurementrecord_eq
    (sb : Streambuffer)
    (r : MeasurementRecord) :
    encodeMeasurementrecord sb r =
      (sb.rewind.write r.text,
        (sb.rewind.write r.text).string '\x00') := by
  have hNames :
      "targetA=".toList = "targetA".toList ++ ['='] ∧
        "targetB=".toList = "targetB".toList ++ ['='] ∧
        "&channel=".toList =
          '&' :: ("channel".toList ++ ['=']) ∧
        "&".toList = ['&'] :=
    ⟨rfl, rfl, rfl, rfl⟩
  rcases hNames with ⟨hA, hB, hChannel, hAnd⟩
  have hStream :
      (encodeMeasurementrecord sb r).1 =
        sb.rewind.write r.text := by
    unfold encodeMeasurementrecord brewind
    simp only
    rw [hA, hB, hChannel, hAnd]
    rw [show bprintf sb.rewind
        ("originator=".toList ++ formatS r.originator ++
          ['&']) = sb.rewind.write _ from rfl]
    rw [bprintfIf_behind, bprintfIf_behind]
    rw [show bprintf (sb.rewind.write _)
        ("published_name=".toList ++
          formatS r.publishedName) = _
      from MemStream.write_write _ _ _]
    rw [bprintf_valueField, bprintfIf_before,
      bprintf_timestampField]
    congr 1
    apply List.cons_injective (a := '&')
    show '&' :: _ = '&' :: r.text
    rw [r.cons_text]
    simp only [MeasurementRecord.fields, separated_append]
    simp [separated, Field.text]
  have hString :
      (encodeMeasurementrecord sb r).2 =
        (encodeMeasurementrecord sb r).1.string '\x00' :=
    rfl
  rw [hStream] at hString
  exact Prod.ext hStream hString

------------------------------------------------------------
-- Characters
------------------------------------------------------------

theorem isPrinted_formatLd
    {n : Int}
    {c : Char}
    (hMem : c ∈ formatLd n) :
    Binary64.IsPrinted c = true := by
  rcases List.mem_append.mp hMem with hMem | hMem
  · split at hMem
    · rw [List.mem_singleton.mp hMem]
      rfl
    · cases hMem
  · exact Binary64.isPrinted_toDigits hMem

theorem isPrinted_format03Ld
    {n : Int}
    {c : Char}
    (hMem : c ∈ format03Ld n) :
    Binary64.IsPrinted c = true := by
  unfold format03Ld at hMem
  split at hMem
  · rcases List.mem_cons.mp hMem with rfl | hMem
    · rfl
    · exact Binary64.isPrinted_padded hMem
  · exact Binary64.isPrinted_padded hMem

theorem isPrinted_timeval2str
    {ts : Timeval}
    {c : Char}
    (hMem : c ∈ timeval2str ts) :
    Binary64.IsPrinted c = true := by
  unfold timeval2str at hMem
  split at hMem
  · rw [List.mem_singleton.mp hMem]
    rfl
  · rcases List.mem_append.mp hMem with hMem | hMem
    · exact isPrinted_formatLd hMem
    · exact isPrinted_format03Ld hMem

/-
  A kind of field that covers the strings under every name,
  the printed numbers and the time covers every field.
-/
theorem MeasurementRecord.forall_fields
    {motive : Field → Prop}
    (r : MeasurementRecord)
    (hOriginator :
      motive ("originator".toList, formatS r.originator))
    (hTargetA :
      ∀ s, r.targetA = some s →
        motive ("targetA".toList, s.chars))
    (hTargetB :
      ∀ s, r.targetB = some s →
        motive ("targetB".toList, s.chars))
    (hName :
      motive ("published_name".toList, formatS r.publishedName))
    (hString :
      ∀ s, r.stringValue = some s →
        motive ("string_value".toList, s.chars))
    (hValue :
      r.stringValue = none →
        motive ("value".toList, r.value.printF))
    (hChannel :
      ∀ s, r.channel = some s →
        motive ("channel".toList, s.chars))
    (hTimestamp :
      motive ("timestamp".toList, timeval2str r.timestamp)) :
    ∀ field ∈ r.fields, motive field := by
  have hStringField
      (name : String)
      (s : Option CString)
      (hMotive : ∀ t, s = some t →
        motive (name.toList, t.chars)) :
      ∀ field ∈ stringField name s, motive field := by
    intro field hMem
    cases s with
    | none => cases hMem
    | some t =>
        rw [List.mem_singleton.mp hMem]
        exact hMotive t rfl
  have hValueField : motive r.valueField := by
    unfold valueField
    cases hCase : r.stringValue with
    | none => exact hValue hCase
    | some s => exact hString s hCase
  have hTime : ∀ field ∈ r.timestampField, motive field := by
    intro field hMem
    unfold timestampField at hMem
    split at hMem
    · rw [List.mem_singleton.mp hMem]
      exact hTimestamp
    · cases hMem
  intro field hMem
  simp only [fields, List.mem_append, List.mem_singleton]
    at hMem
  rcases hMem with
    (((((rfl | hMem) | hMem) | rfl) | rfl) | hMem) | hMem
  · exact hOriginator
  · exact hStringField _ _ hTargetA field hMem
  · exact hStringField _ _ hTargetB field hMem
  · exact hName
  · exact hValueField
  · exact hStringField _ _ hChannel field hMem
  · exact hTime field hMem

theorem zero_notMem_formatS (s : Option CString) :
    '\x00' ∉ formatS s := by
  cases s with
  | none => decide
  | some s => exact s.zero_notMem

/- No field contains the character that ends a string. -/
theorem MeasurementRecord.zero_notMem_fields
    (r : MeasurementRecord) :
    ∀ field ∈ r.fields, '\x00' ∉ field.text := by
  have hField
      (name : String)
      (value : List Char)
      (hName : '\x00' ∉ name.toList)
      (hValue : '\x00' ∉ value) :
      '\x00' ∉ Field.text (name.toList, value) := by
    unfold Field.text
    rw [List.mem_append, List.mem_cons]
    rintro (hMem | hEq | hMem)
    · exact hName hMem
    · exact absurd hEq (by decide)
    · exact hValue hMem
  have hPrinted
      {value : List Char}
      (hAll : ∀ c ∈ value, Binary64.IsPrinted c = true) :
      '\x00' ∉ value := by
    intro hMem
    exact absurd (hAll _ hMem) (by decide)
  apply
    r.forall_fields
      (motive := fun field => '\x00' ∉ field.text)
  · exact
      hField _ _ (by decide) (zero_notMem_formatS r.originator)
  · exact fun s _ => hField _ _ (by decide) s.zero_notMem
  · exact fun s _ => hField _ _ (by decide) s.zero_notMem
  · exact
      hField _ _ (by decide)
        (zero_notMem_formatS r.publishedName)
  · exact fun s _ => hField _ _ (by decide) s.zero_notMem
  · exact fun _ =>
      hField _ _ (by decide)
        (hPrinted (fun c => Binary64.mem_printF))
  · exact fun s _ => hField _ _ (by decide) s.zero_notMem
  · exact
      hField _ _ (by decide)
        (hPrinted (fun c => isPrinted_timeval2str))

theorem MeasurementRecord.zero_notMem_text
    (r : MeasurementRecord) : '\x00' ∉ r.text := by
  intro hMem
  rcases List.mem_flatMap.mp
      (List.mem_of_mem_tail hMem : '\x00' ∈ separated r.fields)
    with ⟨field, hField, hIn⟩
  rcases List.mem_cons.mp hIn with hAnd | hIn
  · exact absurd hAnd (by decide)
  · exact r.zero_notMem_fields field hField hIn

end Rep

end NapaBaselibs
