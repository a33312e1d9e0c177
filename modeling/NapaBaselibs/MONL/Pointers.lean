import NapaBaselibs.MONL.Dispatcher

/-
  The pointers to measures in the entries of the dispatcher.

  A list of an entry is that of a hook or that of the loaded
  measures.  Each operation is described by the pointers that
  it leaves, whether or not an entry is created or destroyed.

  Key definitions include:
    * `DestinationSocketIdMtData.list`
    * `Monitor.pointer`, `Monitor.loadedInPlace`

  Key theorems include:
    * `pointer_enter`
    * `pointer_of_unload`, `loaded_of_unload`
-/

------------------------------------------------------------
-- Lists
------------------------------------------------------------

namespace NapaBaselibs

namespace MONL

variable {σ π : Type} [DecidableEq σ]

/- The list of a hook, or the list of loaded measures. -/
def DestinationSocketIdMtData.list
    (dd : DestinationSocketIdMtData) :
    Option Hook → Bool → ExecutionList
| some hook => dd.el hook
| none => dd.mids

/- The pointer in a list of an entry, if there is one. -/
def Monitor.pointer
    (s : Monitor σ π)
    (list : Option Hook)
    (hDst : SocketIdMt σ)
    (isRemote : Bool)
    (mid : MeasurementId) : Option Nat :=
  (s.dispatcherList.lookup hDst).bind
    (fun dd => (dd.list list isRemote).lookup mid)

/- What is loaded in the place of a measure. -/
def Monitor.loadedInPlace
    (s : Monitor σ π)
    (m : MonMeasure σ π) : Option Nat :=
  m.hDst.bind
    (fun hDst => s.pointer none hDst (m.has remote) m.id)

/- The lists in which a measure is entered. -/
def MonMeasure.isIn
    (m : MonMeasure σ π) : Option Hook → Bool
| some hook => hook ∈ m.hooks
| none => true

/- The place of a measure in a list. -/
def MonMeasure.OwnPlace
    (m : MonMeasure σ π)
    (own hDst : SocketIdMt σ)
    (list : Option Hook)
    (isRemote : Bool)
    (mid : MeasurementId) : Prop :=
  hDst = own ∧ isRemote = m.has remote ∧ mid = m.id ∧
    m.isIn list = true

instance
    (m : MonMeasure σ π)
    (own hDst : SocketIdMt σ)
    (list : Option Hook)
    (isRemote : Bool)
    (mid : MeasurementId) :
    Decidable (m.OwnPlace own hDst list isRemote mid) :=
  inferInstanceAs (Decidable (_ ∧ _))

theorem pointer_setMeasure
    (s : Monitor σ π)
    (mh : MonHandler)
    (m : MonMeasure σ π) :
    (s.setMeasure mh m).pointer = s.pointer := rfl

/- The measure of an entry is loaded in its own place. -/
theorem loadedInPlace_eq
    {s : Monitor σ π}
    {m : MonMeasure σ π}
    {hDst : SocketIdMt σ}
    (hKey : m.hDst = some hDst) :
    s.loadedInPlace m =
      s.pointer none hDst (m.has remote) m.id := by
  unfold Monitor.loadedInPlace
  rw [hKey]
  rfl

theorem entryOf_eq
    (s : Monitor σ π)
    (m : MonMeasure σ π) :
    ((s.entryOf m).bind fun found => loadedAs m found.2) =
      s.loadedInPlace m := by
  unfold Monitor.entryOf Monitor.loadedInPlace
    Monitor.pointer
  cases m.hDst with
  | none => rfl
  | some hDst =>
      simp only [Option.bind_some]
      cases s.dispatcherList.lookup hDst with
      | none => rfl
      | some dd => rfl

------------------------------------------------------------
-- Entering
------------------------------------------------------------

/- A new entry has no pointers. -/
theorem pointer_ensureEntry
    (s : Monitor σ π)
    (hDst : SocketIdMt σ) :
    (s.ensureEntry hDst).pointer = s.pointer := by
  funext list hDst' isRemote mid
  unfold Monitor.ensureEntry
  cases hEntry : s.dispatcherList.lookup hDst with
  | some dd => rfl
  | none =>
      unfold Monitor.pointer
      simp only [Dict.lookup_insert_eq]
      by_cases hKey : hDst' = hDst
      · rw [if_pos hKey, hKey, hEntry]
        cases list with
        | none => exact Dict.lookup_empty mid
        | some hook => exact Dict.lookup_empty mid
      · rw [if_neg hKey]

theorem isSome_lookup_ensureEntry
    (s : Monitor σ π)
    (hDst hDst' : SocketIdMt σ)
    (hFound :
      hDst' = hDst ∨
        (s.dispatcherList.lookup hDst').isSome = true) :
    ((s.ensureEntry hDst).dispatcherList.lookup
      hDst').isSome = true := by
  unfold Monitor.ensureEntry
  cases hEntry : s.dispatcherList.lookup hDst with
  | some dd =>
      rcases hFound with hEq | hFound
      · rw [hEq, hEntry]
        rfl
      · exact hFound
  | none =>
      simp only [Dict.lookup_insert_eq]
      by_cases hKey : hDst' = hDst
      · rw [if_pos hKey]
        rfl
      · rw [if_neg hKey]
        exact hFound.resolve_left hKey

/- A measure in the lists of an entry. -/
omit [DecidableEq σ] in
theorem list_add
    (m : MonMeasure σ π)
    (dd : DestinationSocketIdMtData)
    (list : Option Hook)
    (isRemote : Bool)
    (mid : MeasurementId) :
    ((addMeasureToExecLists m (loadMeasure m dd)).list list
        isRemote).lookup mid =
      if isRemote = m.has remote ∧ mid = m.id ∧
          m.isIn list = true then
        some m.object
      else
        (dd.list list isRemote).lookup mid := by
  cases list with
  | none =>
      show
        ((if isRemote = m.has remote then
            (dd.mids isRemote).insert m.id m.object
          else
            dd.mids isRemote).lookup mid) = _
      by_cases hRemote : isRemote = m.has remote
      · simp only [hRemote, if_true, Dict.lookup_insert_eq,
          MonMeasure.isIn, and_true, true_and]
        rfl
      · simp only [hRemote, if_false, false_and]
        rfl
  | some hook =>
      show
        ((if hook ∈ m.hooks ∧ isRemote = m.has remote then
            (dd.el hook isRemote).insert m.id m.object
          else
            dd.el hook isRemote).lookup mid) = _
      by_cases hIn : hook ∈ m.hooks ∧ isRemote = m.has remote
      · simp only [hIn, and_self, if_true,
          Dict.lookup_insert_eq, MonMeasure.isIn,
          decide_true, and_true, true_and]
        rfl
      · rw [if_neg hIn, if_neg]
        · rfl
        · rintro ⟨hRemote, _, hHook⟩
          exact hIn ⟨of_decide_eq_true hHook, hRemote⟩

/- After entering a measure it is in its own places. -/
theorem pointer_enter
    (s : Monitor σ π)
    (m : MonMeasure σ π)
    (hDst : SocketIdMt σ)
    (list : Option Hook)
    (hDst' : SocketIdMt σ)
    (isRemote : Bool)
    (mid : MeasurementId) :
    (s.enter m hDst).pointer list hDst' isRemote mid =
      if m.OwnPlace hDst hDst' list isRemote mid then
        some m.object
      else
        s.pointer list hDst' isRemote mid := by
  have hEnsured :
      ∃ s₂ : Monitor σ π,
        (if m.has outOfBand then
            (s.ensureEntry hDst).ensureEntry
              { hDst with mt := msgTypeMonl }
          else
            s.ensureEntry hDst) = s₂ ∧
          s₂.pointer = s.pointer ∧
          (s₂.dispatcherList.lookup hDst).isSome = true := by
    have hFirst :=
      isSome_lookup_ensureEntry s hDst hDst (.inl rfl)
    cases m.has outOfBand with
    | false =>
        exact
          ⟨_, rfl, pointer_ensureEntry s hDst, hFirst⟩
    | true =>
        refine ⟨_, rfl, ?_, ?_⟩
        · rw [if_pos rfl, pointer_ensureEntry,
            pointer_ensureEntry]
        · exact
            isSome_lookup_ensureEntry _ _ _ (.inr hFirst)
  rcases hEnsured with ⟨s₂, hEq, hPointer, hSome⟩
  rcases Option.isSome_iff_exists.mp hSome with ⟨dd, hEntry⟩
  unfold Monitor.enter
  simp only [hEq, hEntry]
  rw [← hPointer]
  unfold Monitor.pointer
  simp only [Dict.lookup_insert_eq]
  by_cases hKey : hDst' = hDst
  · rw [if_pos hKey, hKey, hEntry, Option.bind_some,
      Option.bind_some, list_add]
    unfold MonMeasure.OwnPlace
    simp only [true_and]
  · rw [if_neg hKey, if_neg (fun hOwn => hKey hOwn.1)]

------------------------------------------------------------
-- Leaving
------------------------------------------------------------

omit [DecidableEq σ] in
theorem list_del
    (m : MonMeasure σ π)
    (dd : DestinationSocketIdMtData)
    (list : Option Hook)
    (isRemote : Bool)
    (mid : MeasurementId) :
    ((unloadMeasure m (delMeasureFromExecLists m dd)).list list
        isRemote).lookup mid =
      if isRemote = m.has remote ∧ mid = m.id ∧
          m.isIn list = true then
        none
      else
        (dd.list list isRemote).lookup mid := by
  cases list with
  | none =>
      show
        ((if isRemote = m.has remote then
            (dd.mids isRemote).erase m.id
          else
            dd.mids isRemote).lookup mid) = _
      by_cases hRemote : isRemote = m.has remote
      · simp only [hRemote, if_true, Dict.lookup_erase_eq,
          MonMeasure.isIn, and_true, true_and]
        rfl
      · simp only [hRemote, if_false, false_and]
        rfl
  | some hook =>
      show
        ((if hook ∈ m.hooks ∧ isRemote = m.has remote then
            (dd.el hook isRemote).erase m.id
          else
            dd.el hook isRemote).lookup mid) = _
      by_cases hIn : hook ∈ m.hooks ∧ isRemote = m.has remote
      · simp only [hIn, and_self, if_true,
          Dict.lookup_erase_eq, MonMeasure.isIn,
          decide_true, and_true, true_and]
        rfl
      · rw [if_neg hIn, if_neg]
        · rfl
        · rintro ⟨hRemote, _, hHook⟩
          exact hIn ⟨of_decide_eq_true hHook, hRemote⟩

/- What is left of an entry that may be destroyed. -/
theorem lookup_putOrDestroy
    {s : Monitor σ π}
    {hDst hDst' : SocketIdMt σ}
    {dd dd' : DestinationSocketIdMtData}
    (hFound :
      (s.putOrDestroy hDst dd).dispatcherList.lookup hDst' =
        some dd') :
    (hDst' = hDst ∧ dd' = dd) ∨
      hDst' ≠ hDst ∧
        s.dispatcherList.lookup hDst' = some dd' := by
  unfold Monitor.putOrDestroy at hFound
  simp only at hFound
  by_cases hKey : hDst' = hDst
  · refine .inl ⟨hKey, ?_⟩
    split at hFound
    · rw [Dict.lookup_erase_eq, if_pos hKey] at hFound
      cases hFound
    · rw [Dict.lookup_insert_eq, if_pos hKey] at hFound
      exact (Option.some.inj hFound).symm
  · refine .inr ⟨hKey, ?_⟩
    split at hFound
    · rw [Dict.lookup_erase_eq, if_neg hKey] at hFound
      exact hFound
    · rw [Dict.lookup_insert_eq, if_neg hKey] at hFound
      exact hFound

/- Every pointer left was there, in another place. -/
theorem pointer_of_unload
    {s : Monitor σ π}
    {m : MonMeasure σ π}
    {hDst hDst' : SocketIdMt σ}
    {dd : DestinationSocketIdMtData}
    {list : Option Hook}
    {isRemote : Bool}
    {mid : MeasurementId}
    {object : Nat}
    (hEntry : s.dispatcherList.lookup hDst = some dd)
    (hPointer :
      (s.putOrDestroy hDst
          (unloadMeasure m
            (delMeasureFromExecLists m dd))).pointer
          list hDst' isRemote mid =
        some object) :
    s.pointer list hDst' isRemote mid = some object ∧
      ¬ m.OwnPlace hDst hDst' list isRemote mid := by
  unfold Monitor.pointer at hPointer ⊢
  rcases Option.bind_eq_some_iff.mp hPointer with
    ⟨dd', hFound, hLookup⟩
  rcases lookup_putOrDestroy hFound with
    ⟨hKey, hEq⟩ | ⟨hKey, hSame⟩
  · rw [hEq, list_del] at hLookup
    split at hLookup
    · cases hLookup
    · rename_i hOther
      rw [hKey, hEntry]
      exact ⟨hLookup, fun hOwn => hOther hOwn.2⟩
  · rw [hSame]
    exact ⟨hLookup, fun hOwn => hKey hOwn.1⟩

/- A measure that is loaded in another place stays so. -/
theorem loaded_of_unload
    {s : Monitor σ π}
    {m : MonMeasure σ π}
    {hDst hDst' : SocketIdMt σ}
    {dd : DestinationSocketIdMtData}
    {isRemote : Bool}
    {mid : MeasurementId}
    {object : Nat}
    (hEntry : s.dispatcherList.lookup hDst = some dd)
    (hPointer :
      s.pointer none hDst' isRemote mid = some object)
    (hOther : ¬ m.OwnPlace hDst hDst' none isRemote mid) :
    (s.putOrDestroy hDst
        (unloadMeasure m
          (delMeasureFromExecLists m dd))).pointer
        none hDst' isRemote mid =
      some object := by
  unfold Monitor.pointer at hPointer ⊢
  by_cases hKey : hDst' = hDst
  · rw [hKey, hEntry, Option.bind_some] at hPointer
    have hLeft :
        ((unloadMeasure m
            (delMeasureFromExecLists m dd)).list none
            isRemote).lookup mid =
          some object := by
      rw [list_del, if_neg]
      · exact hPointer
      · exact fun hOwn => hOther ⟨hKey, hOwn⟩
    have hNotEmpty :
        ¬ (((unloadMeasure m
              (delMeasureFromExecLists m dd)).mids
                true).isEmpty &&
            ((unloadMeasure m
              (delMeasureFromExecLists m dd)).mids
                false).isEmpty) = true := by
      intro hEmpty
      rw [Bool.and_eq_true] at hEmpty
      have hNone :
          ((unloadMeasure m
              (delMeasureFromExecLists m dd)).list none
              isRemote).lookup mid = none := by
        cases isRemote with
        | true => exact Dict.isEmpty_iff.mp hEmpty.1 mid
        | false => exact Dict.isEmpty_iff.mp hEmpty.2 mid
      rw [hNone] at hLeft
      cases hLeft
    unfold Monitor.putOrDestroy
    simp only [if_neg hNotEmpty, Dict.lookup_insert_eq,
      if_pos hKey, Option.bind_some]
    exact hLeft
  · unfold Monitor.putOrDestroy
    simp only
    split
    · rw [Dict.lookup_erase_eq, if_neg hKey]
      exact hPointer
    · rw [Dict.lookup_insert_eq, if_neg hKey]
      exact hPointer

end MONL

end NapaBaselibs
