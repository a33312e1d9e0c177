import Mathlib.Data.List.Basic

/-
  Memory accesses that are checked.

  A read is at a place of a buffer, a write at an index of an
  array of which only the size matters.  Each ends in a fault
  of its own unless it lies inside.

  Key definitions include:
    * `Bounded.read`, `Bounded.write`
    * `Bounded.store`, `Bounded.resize`, `Bounded.filled`
    * `Bounded.Succeeds`, `Bounded.Faults`

  Key theorems include:
    * `Bounded.read_eq_ok`, `Bounded.read_eq_error`
    * `Bounded.store_filled`, `Bounded.resize_filled`
    * `Bounded.mapM_eq_ok`
-/

------------------------------------------------------------
-- Accesses
------------------------------------------------------------

namespace Bounded

variable {α β ε : Type}

/- `count` elements of the buffer from `start` on. -/
def read
    (fault : ε)
    (buf : List α)
    (start count : Nat) : Except ε (List α) :=
  if start + count ≤ buf.length then
    .ok ((buf.drop start).take count)
  else
    .error fault

/- `count` elements of an array with `room` of them. -/
def write
    (fault : ε)
    (room start count : Nat) : Except ε Unit :=
  if start + count ≤ room then
    .ok ()
  else
    .error fault

theorem read_eq_ok
    {buf : List α}
    {start count : Nat}
    (hInside : start + count ≤ buf.length)
    (fault : ε) :
    read fault buf start count =
      .ok ((buf.drop start).take count) :=
  if_pos hInside

theorem read_eq_error
    {buf : List α}
    {start count : Nat}
    (hOutside : buf.length < start + count)
    (fault : ε) :
    read fault buf start count = .error fault :=
  if_neg (Nat.not_le.mpr hOutside)

theorem write_eq_ok
    {room start count : Nat}
    (hInside : start + count ≤ room)
    (fault : ε) :
    write fault room start count = .ok () :=
  if_pos hInside

/- An element that was read. -/
theorem getD_read
    {buf : List α}
    {start count i : Nat}
    (hIndex : i < count)
    (default : α) :
    ((buf.drop start).take count).getD i default =
      buf.getD (start + i) default := by
  rw [List.getD_eq_getElem?_getD, List.getD_eq_getElem?_getD,
    List.getElem?_take_of_lt hIndex, List.getElem?_drop]

------------------------------------------------------------
-- Arrays That Grow
------------------------------------------------------------

/- A cell of an array; `none` is one not written to yet. -/
def store
    (fault : ε)
    (cells : List (Option α))
    (i : Nat)
    (value : α) : Except ε (List (Option α)) :=
  if i < cells.length then
    .ok (cells.set i (some value))
  else
    .error fault

/- The array in a block of another size. -/
def resize
    (cells : List (Option α))
    (room : Nat) : List (Option α) :=
  cells.take room ++
    List.replicate (room - cells.length) none

/- An array with these values in its first cells. -/
def filled
    (values : List α)
    (room : Nat) : List (Option α) :=
  values.map some ++
    List.replicate (room - values.length) none

theorem filled_nil (room : Nat) :
    filled ([] : List α) room = List.replicate room none := by
  simp [filled]

theorem length_filled
    {values : List α}
    {room : Nat}
    (hRoom : values.length ≤ room) :
    (filled values room).length = room := by
  simp [filled, hRoom]

/- The values are in the first cells. -/
theorem take_filled
    (values : List α)
    (room : Nat) :
    (filled values room).take values.length =
      values.map some := by
  unfold filled
  rw [List.take_append_of_le_length (by simp),
    List.take_of_length_le (by simp)]

/- Writing the next value, where there is room for it. -/
theorem store_filled
    {values : List α}
    {room : Nat}
    (hRoom : values.length < room)
    (fault : ε)
    (value : α) :
    store fault (filled values room) values.length value =
      .ok (filled (values ++ [value]) room) := by
  unfold store
  rw [length_filled (Nat.le_of_lt hRoom), if_pos hRoom]
  congr 1
  unfold filled
  rw [List.set_append_right _ _ (by simp), List.length_map,
    Nat.sub_self, List.map_append, List.append_assoc,
    List.length_append]
  congr 1
  obtain ⟨free, hFree⟩ :
      ∃ free, room - values.length = free + 1 :=
    ⟨room - values.length - 1, by omega⟩
  have hLess :
      room - (values.length + [value].length) = free := by
    rw [List.length_singleton]
    omega
  rw [hFree, hLess]
  rfl

/- More room leaves the values where they are. -/
theorem resize_filled
    {values : List α}
    {room room' : Nat}
    (hRoom : values.length ≤ room)
    (hMore : room ≤ room') :
    resize (filled values room) room' =
      filled values room' := by
  have hLength := length_filled hRoom
  unfold resize
  rw [hLength,
    List.take_of_length_le
      (Nat.le_trans (Nat.le_of_eq hLength) hMore)]
  unfold filled
  rw [List.append_assoc, ← List.replicate_add]
  congr 2
  omega

------------------------------------------------------------
-- Programs
------------------------------------------------------------

theorem ok_bind
    (value : α)
    (program : α → Except ε β) :
    (Except.ok value >>= program) = program value := rfl

theorem error_bind
    (fault : ε)
    (program : α → Except ε β) :
    (Except.error fault >>= program) = .error fault := rfl

/- The program ends without a fault. -/
def Succeeds (program : Except ε α) : Prop :=
  ∃ value, program = .ok value

theorem succeeds_ok (value : α) :
    Succeeds (.ok value : Except ε α) :=
  ⟨value, rfl⟩

theorem not_succeeds_error (fault : ε) :
    ¬ Succeeds (.error fault : Except ε α) := by
  rintro ⟨value, hEq⟩
  cases hEq

/- The program ends in a fault of some kind. -/
def Faults
    (kind : ε → Prop)
    (program : Except ε α) : Prop :=
  ∃ fault, program = .error fault ∧ kind fault

theorem not_succeeds_of_faults
    {kind : ε → Prop}
    {program : Except ε α}
    (hFaults : Faults kind program) :
    ¬ Succeeds program := by
  rcases hFaults with ⟨fault, hEq, _⟩
  rw [hEq]
  exact not_succeeds_error fault

/- A read in front of a fault may itself be one. -/
theorem faults_read_bind
    {kind : ε → Prop}
    {fault : ε}
    {buf : List α}
    {program : List α → Except ε β}
    (hKind : kind fault)
    (start count : Nat)
    (hAll : ∀ bytes, Faults kind (program bytes)) :
    Faults kind (read fault buf start count >>= program) := by
  unfold read
  by_cases hInside : start + count ≤ buf.length
  · rw [if_pos hInside]
    exact hAll _
  · rw [if_neg hInside]
    exact ⟨fault, rfl, hKind⟩

/- Writes up to an index outside the array are a fault. -/
theorem faults_write_bind
    {kind : ε → Prop}
    {fault : ε}
    {room count : Nat}
    (hKind : kind fault)
    (hOutside : room < count + 1)
    (program : Unit → Except ε β) :
    Faults kind
      (do
        write fault room 0 count
        let written ← write fault room count 1
        program written) := by
  unfold write
  by_cases hInside : 0 + count ≤ room
  · rw [if_pos hInside, ok_bind,
      if_neg (Nat.not_le.mpr hOutside)]
    exact ⟨fault, rfl, hKind⟩
  · rw [if_neg hInside]
    exact ⟨fault, rfl, hKind⟩

/- Programs that all succeed succeed one after the other. -/
theorem mapM_eq_ok
    {program : α → Except ε β}
    {value : α → β}
    {list : List α}
    (hAll : ∀ a ∈ list, program a = .ok (value a)) :
    list.mapM program = .ok (list.map value) := by
  induction list with
  | nil => rfl
  | cons a rest ih =>
      rw [List.mapM_cons, hAll a List.mem_cons_self,
        ih (fun b hMem =>
          hAll b (List.mem_cons_of_mem a hMem))]
      rfl

end Bounded
