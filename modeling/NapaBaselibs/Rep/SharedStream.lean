import NapaBaselibs.Rep.Record

/-
  What `encode_measurementrecord` returns after earlier calls
  on the same stream.

  The stream is rewound and never cut, so each record is
  written over the ones before, and what was longer stays
  behind its end.

  Key definitions include:
    * `encodeAll`, `encodedAfter`

  Key theorems include:
    * `encodedAfter_eq`
    * `encoding_forgets_iff`
-/

------------------------------------------------------------
-- Histories Of Calls
------------------------------------------------------------

namespace NapaBaselibs

namespace Rep

/- The stream after one call for each record. -/
def encodeAll
    (sb : Streambuffer)
    (history : List MeasurementRecord) : Streambuffer :=
  history.foldl
    (fun sb r => (encodeMeasurementrecord sb r).1) sb

/- What the call for a record returns after a history. -/
def encodedAfter
    (history : List MeasurementRecord)
    (r : MeasurementRecord) : List Char :=
  (encodeMeasurementrecord
    (encodeAll MemStream.opened history) r).2

/- The buffer is the texts written over one another. -/
theorem buffer_encodeAll (history : List MeasurementRecord) :
    (encodeAll MemStream.opened history).buffer =
      MemStream.overwritten
        (history.map MeasurementRecord.text) := by
  induction history using List.reverseRecOn with
  | nil => rfl
  | append_singleton history r ih =>
      rw [List.map_append, List.map_singleton,
        MemStream.overwritten_concat, ← ih]
      unfold encodeAll
      rw [List.foldl_append, List.foldl_cons, List.foldl_nil,
        encodeMeasurementrecord_eq,
        MemStream.buffer_rewind_write]

theorem zero_notMem_encodeAll
    (history : List MeasurementRecord) :
    '\x00' ∉ (encodeAll MemStream.opened history).buffer := by
  rw [buffer_encodeAll]
  intro hMem
  rcases MemStream.mem_overwritten hMem with
    ⟨text, hText, hIn⟩
  rcases List.mem_map.mp hText with ⟨r, _, rfl⟩
  exact r.zero_notMem_text hIn

/- The record, and what is left of the longer ones. -/
theorem encodedAfter_eq
    (history : List MeasurementRecord)
    (r : MeasurementRecord) :
    encodedAfter history r =
      r.text ++
        (MemStream.overwritten
          (history.map MeasurementRecord.text)).drop
            r.text.length := by
  have hBuffer :=
    MemStream.buffer_rewind_write
      (encodeAll MemStream.opened history) r.text
  have hZero :
      '\x00' ∉
        ((encodeAll MemStream.opened history).rewind.write
          r.text).buffer := by
    rw [hBuffer, List.mem_append]
    rintro (hMem | hMem)
    · exact r.zero_notMem_text hMem
    · exact
        zero_notMem_encodeAll history
          (List.mem_of_mem_drop hMem)
  unfold encodedAfter
  rw [encodeMeasurementrecord_eq]
  simp only
  rw [MemStream.string_eq hZero, hBuffer, buffer_encodeAll]

/- Nothing is left exactly when no record was longer. -/
theorem encodedAfter_eq_text_iff
    (history : List MeasurementRecord)
    (r : MeasurementRecord) :
    encodedAfter history r = r.text ↔
      ∀ other ∈ history,
        other.text.length ≤ r.text.length := by
  rw [encodedAfter_eq, List.append_right_eq_self,
    MemStream.drop_overwritten_eq_nil, List.forall_mem_map]

/-
  Two histories give the same string exactly when the last
  record that reaches a position behind the end of this one
  has the same character there in both.  Nothing is left of
  either history exactly when neither has a longer record.
-/
theorem encoding_forgets_iff
    (history₁ history₂ : List MeasurementRecord)
    (r : MeasurementRecord) :
    (encodedAfter history₁ r = encodedAfter history₂ r ↔
      ∀ position, r.text.length ≤ position →
        MemStream.standing
            (history₁.map MeasurementRecord.text) position =
          MemStream.standing
            (history₂.map MeasurementRecord.text)
            position) ∧
    ((encodedAfter history₁ r = r.text ∧
        encodedAfter history₂ r = r.text) ↔
      ∀ other ∈ history₁ ++ history₂,
        other.text.length ≤ r.text.length) := by
  constructor
  · rw [encodedAfter_eq, encodedAfter_eq,
      List.append_cancel_left_eq,
      MemStream.drop_overwritten_eq_iff]
  · rw [encodedAfter_eq_text_iff, encodedAfter_eq_text_iff,
      List.forall_mem_append]

/- A record with a state, and with or without a channel. -/
def stateRecord
    (channel : Option CString) : MeasurementRecord where
  originator := some ⟨['a'], zero_notMem_a⟩
  targetA := none
  targetB := none
  publishedName := some ⟨['n'], by decide⟩
  value := Binary64.nan
  stringValue := some ⟨['u', 'p'], by decide⟩
  timestamp := ⟨0, 0⟩
  channel := channel

/- A record without a channel is sent with the last one. -/
theorem channel_remains :
    encodedAfter [stateRecord (some ⟨['c'], by decide⟩)]
        (stateRecord none) ≠
      encodedAfter [] (stateRecord none) := by
  decide +kernel

end Rep

end NapaBaselibs
