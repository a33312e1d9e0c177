import NapaBaselibs.Lib.Runs
import NapaBaselibs.MONL.Pointers

/-
  The consistency of the dispatcher.

  A measure is found in the lists only through its destination
  and its type, so these must not change while it is listed.
  The invariant says so much of the lists and of the measures
  that changing a measure, entering it, taking it out and
  deleting it can each be justified by its own facts.

  Key definitions include:
    * `Monitor.Listed`, `Monitor.Unlisted`
    * `Invariant`, `Consistent`
    * `Created`

  Key theorems include:
    * `Invariant.consistent`
    * `Invariant.setMeasure`, `Invariant.erase`
    * `Invariant.enter`, `Invariant.unlist`
-/

------------------------------------------------------------
-- The Invariant
------------------------------------------------------------

namespace NapaBaselibs

namespace MONL

variable {σ π : Type} [DecidableEq σ]

/- The measure behind a handle. -/
abbrev Monitor.lookup
    (s : Monitor σ π)
    (mh : MonHandler) : Option (MonMeasure σ π) :=
  s.mMeasureInstances.lookup mh

/- The measure is initialising or running. -/
def MonMeasure.Active (m : MonMeasure σ π) : Prop :=
  m.status = .initialising ∨ m.status = .running

/- The measure is loaded in its own place. -/
def Monitor.Listed
    (s : Monitor σ π)
    (m : MonMeasure σ π) : Prop :=
  s.loadedInPlace m = some m.object

/- Objects, handles and flags are as they were created. -/
structure Identified (s : Monitor σ π) : Prop where
  objects :
    ∀ mh m mh' m', s.lookup mh = some m →
      s.lookup mh' = some m' → m.object = m'.object → mh = mh'
  fresh :
    ∀ mh m, s.lookup mh = some m → m.object < s.nextObject
  handles :
    ∀ mh m, s.lookup mh = some m → m.mhLocal = mh
  quiet :
    ∀ mh m, s.lookup mh = some m → m.flags = 0 →
      m.measurePlugin.writesInStop = false

/-
  What the lists point to is loaded in its own place, and what
  is active is listed.
-/
structure Invariant (s : Monitor σ π) : Prop
    extends Identified s where
  loaded :
    ∀ hDst isRemote mid object,
      s.pointer none hDst isRemote mid = some object →
        ∃ mh m, s.lookup mh = some m ∧ m.object = object ∧
          m.hDst = some hDst ∧ m.has remote = isRemote ∧
          m.id = mid ∧ m.flags ≠ 0 ∧ m.results.isSome = true
  entered :
    ∀ hook hDst isRemote mid object,
      s.pointer (some hook) hDst isRemote mid = some object →
        s.pointer none hDst isRemote mid = some object ∧
          ∀ mh m, s.lookup mh = some m → m.object = object →
            hook ∈ m.hooks
  active :
    ∀ mh m, s.lookup mh = some m → m.flags ≠ 0 → m.Active →
      s.Listed m

/- A pointer to a live measure of the entry. -/
def LiveIn
    (s : Monitor σ π)
    (hDst : SocketIdMt σ)
    (object : Nat) : Prop :=
  ∃ mh m, s.lookup mh = some m ∧ m.object = object ∧
    m.dstSocketid = some hDst.sid ∧ m.msgType = hDst.mt

/-
  Every pointer of an entry is a live measure of the entry;
  an active measure with flags is in exactly one list of
  loaded measures; and what is in the list of a hook is
  loaded in the same entry.
-/
structure Consistent (s : Monitor σ π) : Prop where
  live :
    ∀ list hDst isRemote mid object,
      s.pointer list hDst isRemote mid = some object →
        LiveIn s hDst object
  once :
    ∀ mh m, s.lookup mh = some m → m.flags ≠ 0 → m.Active →
      ∃! place : SocketIdMt σ × Bool × MeasurementId,
        s.pointer none place.1 place.2.1 place.2.2 =
          some m.object
  loaded :
    ∀ hook hDst isRemote mid object,
      s.pointer (some hook) hDst isRemote mid = some object →
        ∃ isRemote' mid',
          s.pointer none hDst isRemote' mid' = some object
  hooks :
    ∀ hook hDst, ∀ object ∈ hookCalls s hook hDst,
      LiveIn s hDst object

omit [DecidableEq σ] in
theorem hDst_eq_some_iff
    {m : MonMeasure σ π}
    {hDst : SocketIdMt σ} :
    m.hDst = some hDst ↔
      m.dstSocketid = some hDst.sid ∧ m.msgType = hDst.mt := by
  unfold MonMeasure.hDst
  rw [Option.map_eq_some_iff]
  constructor
  · rintro ⟨sid, hSid, hEq⟩
    rw [← hEq]
    exact ⟨hSid, rfl⟩
  · rintro ⟨hSid, hMt⟩
    refine ⟨hDst.sid, hSid, ?_⟩
    rw [hMt]

/- What a hook calls is in its lists. -/
theorem pointer_of_mem_hookCalls
    {s : Monitor σ π}
    {hook : Hook}
    {hDst : SocketIdMt σ}
    {object : Nat}
    (hMem : object ∈ hookCalls s hook hDst) :
    ∃ isRemote mid,
      s.pointer (some hook) hDst isRemote mid =
        some object := by
  unfold hookCalls at hMem
  unfold Monitor.pointer
  cases hEntry : s.dispatcherList.lookup hDst with
  | none =>
      rw [hEntry] at hMem
      cases hMem
  | some dd =>
      rw [hEntry] at hMem
      rcases List.mem_append.mp hMem with hMem | hMem
      · rcases Dict.mem_values_iff.mp hMem with ⟨mid, hFound⟩
        exact ⟨false, mid, hFound⟩
      · rcases Dict.mem_values_iff.mp hMem with ⟨mid, hFound⟩
        exact ⟨true, mid, hFound⟩

namespace Invariant

variable {s : Monitor σ π}

/- The measure of a pointer is listed. -/
theorem unique_place
    (hInv : Invariant s)
    {mh : MonHandler}
    {m : MonMeasure σ π}
    {hDst : SocketIdMt σ}
    {isRemote : Bool}
    {mid : MeasurementId}
    (hLookup : s.lookup mh = some m)
    (hPointer :
      s.pointer none hDst isRemote mid = some m.object) :
    m.hDst = some hDst ∧ m.has remote = isRemote ∧
      m.id = mid ∧ m.flags ≠ 0 ∧ m.results.isSome = true := by
  rcases hInv.loaded _ _ _ _ hPointer with
    ⟨mh', m', hLookup', hObject, hRest⟩
  have hSame := hInv.objects _ _ _ _ hLookup' hLookup hObject
  rw [hSame, hLookup] at hLookup'
  rw [Option.some.inj hLookup']
  exact hRest

/- A pointer to a measure says that it is listed. -/
theorem listed_of_pointer
    (hInv : Invariant s)
    {mh : MonHandler}
    {m : MonMeasure σ π}
    {hDst : SocketIdMt σ}
    {isRemote : Bool}
    {mid : MeasurementId}
    (hLookup : s.lookup mh = some m)
    (hPointer :
      s.pointer none hDst isRemote mid = some m.object) :
    s.Listed m := by
  rcases hInv.unique_place hLookup hPointer with
    ⟨hKey, hRemote, hId, _⟩
  unfold Monitor.Listed
  rw [loadedInPlace_eq hKey, hRemote, hId]
  exact hPointer

/- A listed measure has result lists. -/
theorem results_of_listed
    (hInv : Invariant s)
    {mh : MonHandler}
    {m : MonMeasure σ π}
    (hLookup : s.lookup mh = some m)
    (hListed : s.Listed m) :
    m.flags ≠ 0 ∧ m.results.isSome = true := by
  unfold Monitor.Listed Monitor.loadedInPlace at hListed
  rcases Option.bind_eq_some_iff.mp hListed with
    ⟨hDst, _, hPointer⟩
  exact (hInv.unique_place hLookup hPointer).2.2.2

theorem consistent
    (hInv : Invariant s) :
    Consistent s := by
  have hLive :
      ∀ list hDst isRemote mid object,
        s.pointer list hDst isRemote mid = some object →
          LiveIn s hDst object := by
    intro list hDst isRemote mid object hPointer
    have hLoaded :
        s.pointer none hDst isRemote mid = some object := by
      cases list with
      | none => exact hPointer
      | some hook =>
          exact (hInv.entered _ _ _ _ _ hPointer).1
    rcases hInv.loaded _ _ _ _ hLoaded with
      ⟨mh, m, hLookup, hObject, hKey, _⟩
    exact ⟨mh, m, hLookup, hObject, hDst_eq_some_iff.mp hKey⟩
  refine ⟨hLive, ?_, ?_, ?_⟩
  · intro mh m hLookup hFlags hActive
    have hListed := hInv.active mh m hLookup hFlags hActive
    unfold Monitor.Listed Monitor.loadedInPlace at hListed
    rcases Option.bind_eq_some_iff.mp hListed with
      ⟨hDst, hKey, hPointer⟩
    refine ⟨(hDst, m.has remote, m.id), hPointer, ?_⟩
    rintro ⟨hDst', isRemote, mid⟩ hOther
    rcases hInv.unique_place hLookup hOther with
      ⟨hKey', hRemote, hId, _⟩
    rw [hKey] at hKey'
    rw [Option.some.inj hKey', hRemote, hId]
  · intro hook hDst isRemote mid object hPointer
    exact
      ⟨isRemote, mid, (hInv.entered _ _ _ _ _ hPointer).1⟩
  · intro hook hDst object hMem
    rcases pointer_of_mem_hookCalls hMem with
      ⟨isRemote, mid, hPointer⟩
    exact hLive _ _ _ _ _ hPointer

end Invariant

theorem invariant_initial :
    Invariant (Monitor.initial : Monitor σ π) := by
  have hPointer (list hDst isRemote mid) :
      (Monitor.initial : Monitor σ π).pointer list hDst
        isRemote mid = none := by
    unfold Monitor.pointer Monitor.initial
    rw [Dict.lookup_empty]
    rfl
  have hLookup (mh) :
      (Monitor.initial : Monitor σ π).lookup mh = none :=
    Dict.lookup_empty mh
  have hId : Identified (Monitor.initial : Monitor σ π) := by
    constructor
    · intro mh m mh' m' hSome
      rw [hLookup] at hSome
      cases hSome
    all_goals
      intro mh m hSome
      rw [hLookup] at hSome
      cases hSome
  refine { hId with loaded := ?_, entered := ?_, active := ?_ }
  · intro hDst isRemote mid object hSome
    rw [hPointer] at hSome
    cases hSome
  · intro hook hDst isRemote mid object hSome
    rw [hPointer] at hSome
    cases hSome
  · intro mh m hSome
    rw [hLookup] at hSome
    cases hSome

------------------------------------------------------------
-- Changing A Measure
------------------------------------------------------------

/- What no operation changes in a measure. -/
structure SameMeasure (m m' : MonMeasure σ π) : Prop where
  object : m'.object = m.object
  flags : m'.flags = m.flags
  measurePlugin : m'.measurePlugin = m.measurePlugin
  mhLocal : m'.mhLocal = m.mhLocal

/- No list of loaded measures points to the object. -/
def Monitor.Unlisted
    (s : Monitor σ π)
    (object : Nat) : Prop :=
  ∀ hDst isRemote mid,
    s.pointer none hDst isRemote mid ≠ some object

omit [DecidableEq σ] in
theorem SameMeasure.hooks_eq
    {m m' : MonMeasure σ π}
    (hSame : SameMeasure m m') :
    m'.hooks = m.hooks := by
  unfold MonMeasure.hooks MonMeasure.has
  rw [hSame.flags]

/- With the same key it has the same place. -/
theorem SameMeasure.listed
    {s : Monitor σ π}
    {m m' : MonMeasure σ π}
    (hSame : SameMeasure m m')
    (hKey : m'.hDst = m.hDst)
    (hListed : s.Listed m) :
    s.Listed m' := by
  unfold Monitor.Listed Monitor.loadedInPlace
    MonMeasure.has MonMeasure.id at *
  rw [hKey, hSame.flags, hSame.measurePlugin, hSame.object]
  exact hListed

omit [DecidableEq σ] in
theorem lookup_setMeasure
    (s : Monitor σ π)
    (mh mh' : MonHandler)
    (m : MonMeasure σ π) :
    (s.setMeasure mh m).lookup mh' =
      if mh' = mh then some m else s.lookup mh' :=
  Dict.lookup_insert_eq _ _ _ _

omit [DecidableEq σ] in
theorem lookup_setMeasure_cases
    {s : Monitor σ π}
    {mh mh' : MonHandler}
    {m m' : MonMeasure σ π}
    (hLookup : (s.setMeasure mh m).lookup mh' = some m') :
    (mh' = mh ∧ m' = m) ∨
      (mh' ≠ mh ∧ s.lookup mh' = some m') := by
  rw [lookup_setMeasure] at hLookup
  by_cases hKey : mh' = mh
  · rw [if_pos hKey] at hLookup
    exact .inl ⟨hKey, (Option.some.inj hLookup).symm⟩
  · rw [if_neg hKey] at hLookup
    exact .inr ⟨hKey, hLookup⟩

namespace Identified

variable {s s' : Monitor σ π}

omit [DecidableEq σ] in
theorem setMeasure
    (hId : Identified s)
    {mh : MonHandler}
    {m m' : MonMeasure σ π}
    (hLookup : s.lookup mh = some m)
    (hSame : SameMeasure m m') :
    Identified (s.setMeasure mh m') := by
  -- What a handle leads to was there, but for what changed.
  have hBefore :
      ∀ mh₁ m₁, (s.setMeasure mh m').lookup mh₁ = some m₁ →
        ∃ m₀, s.lookup mh₁ = some m₀ ∧ SameMeasure m₀ m₁ := by
    intro mh₁ m₁ hFound
    rcases lookup_setMeasure_cases hFound with
      ⟨hKey, hEq⟩ | ⟨_, hOld⟩
    · rw [hKey, hEq]
      exact ⟨m, hLookup, hSame⟩
    · exact ⟨m₁, hOld, ⟨rfl, rfl, rfl, rfl⟩⟩
  constructor
  · intro mh₁ m₁ mh₂ m₂ hFirst hSecond hObject
    rcases hBefore _ _ hFirst with ⟨n₁, hOld₁, hSame₁⟩
    rcases hBefore _ _ hSecond with ⟨n₂, hOld₂, hSame₂⟩
    apply hId.objects _ _ _ _ hOld₁ hOld₂
    rw [← hSame₁.object, ← hSame₂.object]
    exact hObject
  · intro mh₁ m₁ hFound
    rcases hBefore _ _ hFound with ⟨n₁, hOld, hSame₁⟩
    rw [hSame₁.object]
    exact hId.fresh _ _ hOld
  · intro mh₁ m₁ hFound
    rcases hBefore _ _ hFound with ⟨n₁, hOld, hSame₁⟩
    rw [hSame₁.mhLocal]
    exact hId.handles _ _ hOld
  · intro mh₁ m₁ hFound hFlags
    rcases hBefore _ _ hFound with ⟨n₁, hOld, hSame₁⟩
    rw [hSame₁.measurePlugin]
    apply hId.quiet _ _ hOld
    rw [← hSame₁.flags]
    exact hFlags

omit [DecidableEq σ] in
/- Only the instances and the next address matter. -/
theorem of_instances
    (hId : Identified s)
    (hInstances : s'.mMeasureInstances = s.mMeasureInstances)
    (hNext : s'.nextObject = s.nextObject) :
    Identified s' := by
  have hLookup : ∀ mh, s'.lookup mh = s.lookup mh := by
    intro mh
    unfold Monitor.lookup
    rw [hInstances]
  constructor
  · intro mh m mh' m' hFirst hSecond
    rw [hLookup] at hFirst hSecond
    exact hId.objects _ _ _ _ hFirst hSecond
  · intro mh m hFound
    rw [hLookup] at hFound
    rw [hNext]
    exact hId.fresh _ _ hFound
  · intro mh m hFound
    rw [hLookup] at hFound
    exact hId.handles _ _ hFound
  · intro mh m hFound
    rw [hLookup] at hFound
    exact hId.quiet _ _ hFound

end Identified

------------------------------------------------------------
-- Creating And Deleting
------------------------------------------------------------

/- A measure that was created behind a handle that was free. -/
structure Created
    (s s' : Monitor σ π)
    (mh : MonHandler)
    (m : MonMeasure σ π) : Prop where
  instances :
    s'.mMeasureInstances = s.mMeasureInstances.insert mh m
  nextObject : s'.nextObject = s.nextObject + 1
  lists : s'.dispatcherList = s.dispatcherList
  free : s.lookup mh = none
  object : m.object = s.nextObject
  handle : m.mhLocal = mh
  stopped : m.status = .stopped
  quiet :
    m.flags = 0 → m.measurePlugin.writesInStop = false

/- What is found behind a deletion was there. -/
omit [DecidableEq σ] in
theorem lookup_of_erase
    {s : Monitor σ π}
    {mh mh' : MonHandler}
    {m' : MonMeasure σ π}
    (hFound :
      (s.mMeasureInstances.erase mh).lookup mh' = some m') :
    mh' ≠ mh ∧ s.lookup mh' = some m' := by
  rw [Dict.lookup_erase_eq] at hFound
  split at hFound
  · cases hFound
  · rename_i hOther
    exact ⟨hOther, hFound⟩

namespace Created

variable {s s' : Monitor σ π}
variable {mh : MonHandler}
variable {m : MonMeasure σ π}

theorem pointer_eq
    (hCreated : Created s s' mh m) :
    s'.pointer = s.pointer := by
  unfold Monitor.pointer
  rw [hCreated.lists]

omit [DecidableEq σ] in
theorem lookup_eq
    (hCreated : Created s s' mh m)
    (mh₁ : MonHandler) :
    s'.lookup mh₁ =
      if mh₁ = mh then some m else s.lookup mh₁ := by
  unfold Monitor.lookup
  rw [hCreated.instances, Dict.lookup_insert_eq]

/- What was there is still there. -/
omit [DecidableEq σ] in
theorem keeps
    (hCreated : Created s s' mh m)
    {mh₁ : MonHandler}
    {m₁ : MonMeasure σ π}
    (hFound : s.lookup mh₁ = some m₁) :
    s'.lookup mh₁ = some m₁ := by
  rw [hCreated.lookup_eq, if_neg]
  · exact hFound
  · intro hKey
    rw [hKey, hCreated.free] at hFound
    cases hFound

/- The new measure, or another object that was there. -/
omit [DecidableEq σ] in
theorem cases
    (hCreated : Created s s' mh m)
    (hId : Identified s)
    {mh₁ : MonHandler}
    {m₁ : MonMeasure σ π}
    (hFound : s'.lookup mh₁ = some m₁) :
    (mh₁ = mh ∧ m₁ = m) ∨
      (m₁.object ≠ m.object ∧ s.lookup mh₁ = some m₁) := by
  rw [hCreated.lookup_eq] at hFound
  split at hFound
  · rename_i hKey
    exact .inl ⟨hKey, (Option.some.inj hFound).symm⟩
  · refine .inr ⟨?_, hFound⟩
    have hLess := hId.fresh _ _ hFound
    rw [hCreated.object]
    exact Nat.ne_of_lt hLess

end Created

namespace Identified

variable {s s' : Monitor σ π}

omit [DecidableEq σ] in
theorem erase
    (hId : Identified s)
    (mh : MonHandler) :
    Identified
      { s with
        mMeasureInstances := s.mMeasureInstances.erase mh } := by
  constructor
  · intro mh₁ m₁ mh₂ m₂ hFirst hSecond
    exact
      hId.objects _ _ _ _ (lookup_of_erase hFirst).2
        (lookup_of_erase hSecond).2
  · intro mh₁ m₁ hFound
    exact hId.fresh _ _ (lookup_of_erase hFound).2
  · intro mh₁ m₁ hFound
    exact hId.handles _ _ (lookup_of_erase hFound).2
  · intro mh₁ m₁ hFound
    exact hId.quiet _ _ (lookup_of_erase hFound).2

omit [DecidableEq σ] in
theorem insert
    {mh : MonHandler}
    {m : MonMeasure σ π}
    (hId : Identified s)
    (hCreated : Created s s' mh m) :
    Identified s' := by
  constructor
  · intro mh₁ m₁ mh₂ m₂ hFirst hSecond hSame
    rcases hCreated.cases hId hFirst with
      ⟨hKey₁, hEq₁⟩ | ⟨hOther₁, hOld₁⟩
    · rcases hCreated.cases hId hSecond with
        ⟨hKey₂, _⟩ | ⟨hOther₂, _⟩
      · rw [hKey₁, hKey₂]
      · rw [hEq₁] at hSame
        exact absurd hSame.symm hOther₂
    · rcases hCreated.cases hId hSecond with
        ⟨_, hEq₂⟩ | ⟨_, hOld₂⟩
      · rw [hEq₂] at hSame
        exact absurd hSame hOther₁
      · exact hId.objects _ _ _ _ hOld₁ hOld₂ hSame
  · intro mh₁ m₁ hFound
    rw [hCreated.nextObject]
    rcases hCreated.cases hId hFound with
      ⟨_, hEq⟩ | ⟨_, hOld⟩
    · rw [hEq, hCreated.object]
      exact Nat.lt_succ_self _
    · exact Nat.lt_succ_of_lt (hId.fresh _ _ hOld)
  · intro mh₁ m₁ hFound
    rcases hCreated.cases hId hFound with
      ⟨hKey, hEq⟩ | ⟨_, hOld⟩
    · rw [hEq, hKey]
      exact hCreated.handle
    · exact hId.handles _ _ hOld
  · intro mh₁ m₁ hFound
    rcases hCreated.cases hId hFound with
      ⟨_, hEq⟩ | ⟨_, hOld⟩
    · rw [hEq]
      exact hCreated.quiet
    · exact hId.quiet _ _ hOld

end Identified

namespace Invariant

variable {s : Monitor σ π}

/- A measure that is not listed has no pointers to it. -/
theorem unlisted
    (hInv : Invariant s)
    {mh : MonHandler}
    {m : MonMeasure σ π}
    (hLookup : s.lookup mh = some m)
    (hNot : ¬ s.Listed m) :
    s.Unlisted m.object := by
  intro hDst isRemote mid hPointer
  exact hNot (hInv.listed_of_pointer hLookup hPointer)

/-
  A measure may change as long as its key and its result lists
  stay while it is listed, and it is listed while it is
  active.
-/
theorem setMeasure
    (hInv : Invariant s)
    {mh : MonHandler}
    {m m' : MonMeasure σ π}
    (hLookup : s.lookup mh = some m)
    (hSame : SameMeasure m m')
    (hKept :
      s.Listed m →
        m'.hDst = m.hDst ∧ m'.results.isSome = true)
    (hActive : m'.flags ≠ 0 → m'.Active → s.Listed m) :
    Invariant (s.setMeasure mh m') := by
  refine
    { hInv.toIdentified.setMeasure hLookup hSame with
      loaded := ?_
      entered := ?_
      active := ?_ }
  · intro hDst isRemote mid object hPointer
    rw [pointer_setMeasure] at hPointer
    rcases hInv.loaded _ _ _ _ hPointer with
      ⟨mh₁, m₁, hFound, hObject, hKey, hRest⟩
    by_cases hEq : mh₁ = mh
    · rw [hEq, hLookup] at hFound
      rw [← Option.some.inj hFound] at hObject hKey hRest
      rw [← hObject] at hPointer
      have hStays :=
        hKept (hInv.listed_of_pointer hLookup hPointer)
      refine ⟨mh, m', ?_, ?_, ?_, ?_, ?_, ?_, hStays.2⟩
      · rw [lookup_setMeasure, if_pos rfl]
      · rw [hSame.object]
        exact hObject
      · rw [hStays.1]
        exact hKey
      · unfold MonMeasure.has at hRest ⊢
        rw [hSame.flags]
        exact hRest.1
      · unfold MonMeasure.id at hRest ⊢
        rw [hSame.measurePlugin]
        exact hRest.2.1
      · rw [hSame.flags]
        exact hRest.2.2.1
    · refine ⟨mh₁, m₁, ?_, hObject, hKey, hRest⟩
      rw [lookup_setMeasure, if_neg hEq]
      exact hFound
  · intro hook hDst isRemote mid object hPointer
    rw [pointer_setMeasure] at hPointer ⊢
    rcases hInv.entered _ _ _ _ _ hPointer with
      ⟨hLoaded, hHooks⟩
    refine ⟨hLoaded, ?_⟩
    intro mh₁ m₁ hFound hObject
    rcases lookup_setMeasure_cases hFound with
      ⟨_, hEq⟩ | ⟨_, hOld⟩
    · rw [hEq, hSame.object] at hObject
      rw [hEq, hSame.hooks_eq]
      exact hHooks _ _ hLookup hObject
    · exact hHooks _ _ hOld hObject
  · intro mh₁ m₁ hFound hFlags hNow
    rcases lookup_setMeasure_cases hFound with
      ⟨_, hEq⟩ | ⟨_, hOld⟩
    · rw [hEq] at hFlags hNow ⊢
      have hListed := hActive hFlags hNow
      exact hSame.listed (hKept hListed).1 hListed
    · exact hInv.active _ _ hOld hFlags hNow

end Invariant

------------------------------------------------------------
-- Entering And Leaving
------------------------------------------------------------

theorem enter_mMeasureInstances
    (s : Monitor σ π)
    (m : MonMeasure σ π)
    (hDst : SocketIdMt σ) :
    (s.enter m hDst).mMeasureInstances =
        s.mMeasureInstances ∧
      (s.enter m hDst).nextObject = s.nextObject := by
  have hEnsure (s₁ : Monitor σ π) (key : SocketIdMt σ) :
      (s₁.ensureEntry key).mMeasureInstances =
          s₁.mMeasureInstances ∧
        (s₁.ensureEntry key).nextObject = s₁.nextObject := by
    unfold Monitor.ensureEntry
    split
    · exact ⟨rfl, rfl⟩
    · exact ⟨rfl, rfl⟩
  have hEnsured :
      ∃ s₂ : Monitor σ π,
        (if m.has outOfBand then
            (s.ensureEntry hDst).ensureEntry
              { hDst with mt := msgTypeMonl }
          else
            s.ensureEntry hDst) = s₂ ∧
          s₂.mMeasureInstances = s.mMeasureInstances ∧
          s₂.nextObject = s.nextObject := by
    have hFirst := hEnsure s hDst
    cases m.has outOfBand with
    | false => exact ⟨_, rfl, hFirst⟩
    | true =>
        have hSecond :=
          hEnsure (s.ensureEntry hDst)
            { hDst with mt := msgTypeMonl }
        exact
          ⟨_, rfl, hSecond.1.trans hFirst.1,
            hSecond.2.trans hFirst.2⟩
  rcases hEnsured with ⟨s₂, hEq, hSame⟩
  unfold Monitor.enter
  simp only [hEq]
  split
  · exact hSame
  · exact hSame

theorem lookup_enter
    (s : Monitor σ π)
    (m : MonMeasure σ π)
    (hDst : SocketIdMt σ)
    (mh : MonHandler) :
    (s.enter m hDst).lookup mh = s.lookup mh := by
  unfold Monitor.lookup
  rw [(enter_mMeasureInstances s m hDst).1]

/- A measure in its place is behind its handle, and listed. -/
theorem lookup_setMeasure_enter
    (s : Monitor σ π)
    (mh : MonHandler)
    (m : MonMeasure σ π)
    (hDst : SocketIdMt σ) :
    ((s.setMeasure mh m).enter m hDst).lookup mh = some m := by
  rw [lookup_enter, lookup_setMeasure, if_pos rfl]

theorem listed_enter
    (s : Monitor σ π)
    {m : MonMeasure σ π}
    {hDst : SocketIdMt σ}
    (hKey : m.hDst = some hDst) :
    (s.enter m hDst).Listed m := by
  unfold Monitor.Listed
  rw [loadedInPlace_eq hKey, pointer_enter, if_pos]
  exact ⟨rfl, rfl, rfl, rfl⟩

namespace Invariant

variable {s : Monitor σ π}

/- A measure leaves the lists of its entry. -/
theorem unlist
    (hInv : Invariant s)
    {mh : MonHandler}
    {m m' : MonMeasure σ π}
    {hDst : SocketIdMt σ}
    {dd : DestinationSocketIdMtData}
    (hLookup : s.lookup mh = some m)
    (hListed : s.Listed m)
    (hKey : m.hDst = some hDst)
    (hEntry : s.dispatcherList.lookup hDst = some dd)
    (hSame : SameMeasure m m')
    (hIdle : ¬ m'.Active) :
    Invariant
        ((s.setMeasure mh m').putOrDestroy hDst
          (unloadMeasure m (delMeasureFromExecLists m dd))) ∧
      ((s.setMeasure mh m').putOrDestroy hDst
          (unloadMeasure m
            (delMeasureFromExecLists m dd))).Unlisted
        m.object := by
  have hOwn :
      s.pointer none hDst (m.has remote) m.id =
        some m.object := by
    rw [← loadedInPlace_eq hKey]
    exact hListed
  have hLeft {list hDst' isRemote mid object} :=
    @pointer_of_unload σ π _ (s.setMeasure mh m') m hDst hDst'
      dd list isRemote mid object hEntry
  have hUnlisted :
      ((s.setMeasure mh m').putOrDestroy hDst
          (unloadMeasure m
            (delMeasureFromExecLists m dd))).Unlisted
        m.object := by
    intro hDst' isRemote mid hPointer
    rcases hLeft hPointer with ⟨hBefore, hOther⟩
    rcases hInv.unique_place hLookup hBefore with
      ⟨hKey', hRemote, hId, _⟩
    rw [hKey] at hKey'
    exact
      hOther
        ⟨(Option.some.inj hKey').symm, hRemote.symm,
          hId.symm, rfl⟩
  refine ⟨?_, hUnlisted⟩
  refine
    { (hInv.toIdentified.setMeasure hLookup
        hSame).of_instances rfl rfl with
      loaded := ?_
      entered := ?_
      active := ?_ }
  · intro hDst' isRemote mid object hPointer
    rcases hInv.loaded _ _ _ _ (hLeft hPointer).1 with
      ⟨mh₁, m₁, hFound, hObject, hRest⟩
    refine ⟨mh₁, m₁, ?_, hObject, hRest⟩
    have hOtherMh : mh₁ ≠ mh := by
      intro hEq
      rw [hEq, hLookup] at hFound
      rw [← Option.some.inj hFound] at hObject
      rw [← hObject] at hPointer
      exact hUnlisted _ _ _ hPointer
    rw [← hFound]
    exact
      (lookup_setMeasure s mh mh₁ m').trans
        (if_neg hOtherMh)
  · intro hook hDst' isRemote mid object hPointer
    rcases hLeft hPointer with ⟨hBefore, hOther⟩
    rcases hInv.entered _ _ _ _ _ hBefore with
      ⟨hLoaded, hHooks⟩
    -- The same place of the loaded measures is another's.
    have hOtherLoaded :
        ¬ m.OwnPlace hDst hDst' none isRemote mid := by
      rintro ⟨hDstEq, hRemote, hId, _⟩
      rw [hDstEq, hRemote, hId, hOwn] at hLoaded
      have hHook :=
        hHooks _ _ hLookup (Option.some.inj hLoaded)
      exact
        hOther ⟨hDstEq, hRemote, hId, decide_eq_true hHook⟩
    refine
      ⟨loaded_of_unload (s := s.setMeasure mh m') hEntry
          hLoaded hOtherLoaded, ?_⟩
    intro mh₁ m₁ hFound hObject
    rcases lookup_setMeasure_cases hFound with
      ⟨_, hEq⟩ | ⟨_, hOld⟩
    · rw [hEq, hSame.object] at hObject
      rw [hEq, hSame.hooks_eq]
      exact hHooks _ _ hLookup hObject
    · exact hHooks _ _ hOld hObject
  · intro mh₁ m₁ hFound hFlags hNow
    rcases lookup_setMeasure_cases hFound with
      ⟨_, hEq⟩ | ⟨hOtherMh, hOld⟩
    · rw [hEq] at hNow
      exact absurd hNow hIdle
    · have hListed₁ := hInv.active _ _ hOld hFlags hNow
      unfold Monitor.Listed Monitor.loadedInPlace at hListed₁
      rcases Option.bind_eq_some_iff.mp hListed₁ with
        ⟨hDst₁, hKey₁, hPointer⟩
      unfold Monitor.Listed
      rw [loadedInPlace_eq hKey₁]
      apply
        loaded_of_unload (s := s.setMeasure mh m') hEntry
          hPointer
      rintro ⟨hDstEq, hRemote, hId, _⟩
      rw [hDstEq, hRemote, hId, hOwn] at hPointer
      exact
        hOtherMh
          (hInv.objects _ _ _ _ hOld hLookup
            (Option.some.inj hPointer).symm)

/- A measure that no list points to is deleted. -/
theorem erase
    (hInv : Invariant s)
    {mh : MonHandler}
    {m : MonMeasure σ π}
    (hLookup : s.lookup mh = some m)
    (hUnlisted : s.Unlisted m.object) :
    Invariant
      { s with
        mMeasureInstances := s.mMeasureInstances.erase mh } := by
  refine
    { hInv.toIdentified.erase mh with
      loaded := ?_
      entered := ?_
      active := ?_ }
  · intro hDst isRemote mid object hPointer
    rcases hInv.loaded _ _ _ _ hPointer with
      ⟨mh₁, m₁, hFound, hObject, hRest⟩
    refine ⟨mh₁, m₁, ?_, hObject, hRest⟩
    have hOther : mh₁ ≠ mh := by
      intro hEq
      rw [hEq, hLookup] at hFound
      rw [← Option.some.inj hFound] at hObject
      rw [← hObject] at hPointer
      exact hUnlisted _ _ _ hPointer
    exact
      (Dict.lookup_erase_eq _ _ _).trans
        ((if_neg hOther).trans hFound)
  · intro hook hDst isRemote mid object hPointer
    rcases hInv.entered _ _ _ _ _ hPointer with
      ⟨hLoaded, hHooks⟩
    refine ⟨hLoaded, ?_⟩
    intro mh₁ m₁ hFound
    exact hHooks _ _ (lookup_of_erase hFound).2
  · intro mh₁ m₁ hFound
    exact hInv.active _ _ (lookup_of_erase hFound).2

/- A measure that is not listed enters a place that is free. -/
theorem enter
    (hInv : Invariant s)
    {mh : MonHandler}
    {m m' : MonMeasure σ π}
    {hDst : SocketIdMt σ}
    (hLookup : s.lookup mh = some m)
    (hUnlisted : s.Unlisted m.object)
    (hSame : SameMeasure m m')
    (hKey : m'.hDst = some hDst)
    (hFlags : m'.flags ≠ 0)
    (hResults : m'.results.isSome = true)
    (hFree :
      s.pointer none hDst (m'.has remote) m'.id = none) :
    Invariant ((s.setMeasure mh m').enter m' hDst) ∧
      ((s.setMeasure mh m').enter m' hDst).Listed m' := by
  have hPointerEq :=
    pointer_enter (s.setMeasure mh m') m' hDst
  have hLookupEq := lookup_enter (s.setMeasure mh m') m' hDst
  have hInstances :=
    enter_mMeasureInstances (s.setMeasure mh m') m' hDst
  have hListed := listed_enter (s.setMeasure mh m') hKey
  have hId :
      Identified ((s.setMeasure mh m').enter m' hDst) :=
    (hInv.toIdentified.setMeasure hLookup hSame).of_instances
      hInstances.1 hInstances.2
  have hFound := lookup_setMeasure_enter s mh m' hDst
  refine ⟨?_, hListed⟩
  refine
    { hId with loaded := ?_, entered := ?_, active := ?_ }
  · intro hDst' isRemote mid object hPointer
    rw [hPointerEq] at hPointer
    split at hPointer
    · rename_i hOwn
      rcases hOwn with ⟨hDstEq, hRemote, hMid, _⟩
      refine
        ⟨mh, m', hFound, Option.some.inj hPointer, ?_,
          hRemote.symm, hMid.symm, hFlags, hResults⟩
      rw [hDstEq]
      exact hKey
    · rw [pointer_setMeasure] at hPointer
      rcases hInv.loaded _ _ _ _ hPointer with
        ⟨mh₁, m₁, hOld, hObject, hRest⟩
      refine ⟨mh₁, m₁, ?_, hObject, hRest⟩
      have hOther : mh₁ ≠ mh := by
        intro hEq
        rw [hEq, hLookup] at hOld
        rw [← Option.some.inj hOld] at hObject
        rw [← hObject] at hPointer
        exact hUnlisted _ _ _ hPointer
      rw [hLookupEq, lookup_setMeasure, if_neg hOther]
      exact hOld
  · intro hook hDst' isRemote mid object hPointer
    rw [hPointerEq] at hPointer
    rw [hPointerEq]
    split at hPointer
    · rename_i hOwn
      rcases hOwn with ⟨hDstEq, hRemote, hMid, hHook⟩
      refine ⟨?_, ?_⟩
      · rw [if_pos ⟨hDstEq, hRemote, hMid, rfl⟩]
        exact hPointer
      · intro mh₁ m₁ hNew hObject
        have hEq :=
          hId.objects _ _ _ _ hNew hFound
            (hObject.trans (Option.some.inj hPointer).symm)
        rw [hEq, hFound] at hNew
        rw [← Option.some.inj hNew]
        exact of_decide_eq_true hHook
    · rw [pointer_setMeasure] at hPointer ⊢
      rcases hInv.entered _ _ _ _ _ hPointer with
        ⟨hLoaded, hHooks⟩
      refine ⟨?_, ?_⟩
      · rw [if_neg]
        · exact hLoaded
        · rintro ⟨hDstEq, hRemote, hMid, _⟩
          rw [hDstEq, hRemote, hMid, hFree] at hLoaded
          cases hLoaded
      · intro mh₁ m₁ hNew hObject
        rw [hLookupEq] at hNew
        rcases lookup_setMeasure_cases hNew with
          ⟨_, hEq⟩ | ⟨_, hOld⟩
        · rw [hEq, hSame.object] at hObject
          rw [← hObject] at hLoaded
          exact absurd hLoaded (hUnlisted _ _ _)
        · exact hHooks _ _ hOld hObject
  · intro mh₁ m₁ hNew hFlags₁ hNow
    rw [hLookupEq] at hNew
    rcases lookup_setMeasure_cases hNew with
      ⟨_, hEq⟩ | ⟨_, hOld⟩
    · rw [hEq]
      exact hListed
    · have hListed₁ := hInv.active _ _ hOld hFlags₁ hNow
      unfold Monitor.Listed Monitor.loadedInPlace at hListed₁
      rcases Option.bind_eq_some_iff.mp hListed₁ with
        ⟨hDst₁, hKey₁, hPointer⟩
      unfold Monitor.Listed
      rw [loadedInPlace_eq hKey₁, hPointerEq, if_neg]
      · exact hPointer
      · rintro ⟨hDstEq, hRemote, hMid, _⟩
        rw [hDstEq, hRemote, hMid, hFree] at hPointer
        cases hPointer

/- A new object is in no list. -/
theorem unlisted_nextObject
    (hInv : Invariant s) :
    s.Unlisted s.nextObject := by
  intro hDst isRemote mid hPointer
  rcases hInv.loaded _ _ _ _ hPointer with
    ⟨mh, m, hFound, hSame, _⟩
  have hLess := hInv.fresh _ _ hFound
  rw [hSame] at hLess
  exact Nat.lt_irrefl _ hLess

/- A new measure is in no list. -/
theorem insert
    (hInv : Invariant s)
    {s' : Monitor σ π}
    {mh : MonHandler}
    {m : MonMeasure σ π}
    (hCreated : Created s s' mh m) :
    Invariant s' := by
  have hPointerEq := hCreated.pointer_eq
  have hCases {mh₁ : MonHandler} {m₁ : MonMeasure σ π} :=
    @Created.cases σ π s s' mh m hCreated hInv.toIdentified
      mh₁ m₁
  refine
    { hInv.toIdentified.insert hCreated with
      loaded := ?_
      entered := ?_
      active := ?_ }
  · intro hDst isRemote mid object hPointer
    rw [hPointerEq] at hPointer
    rcases hInv.loaded _ _ _ _ hPointer with
      ⟨mh₁, m₁, hFound, hRest⟩
    exact ⟨mh₁, m₁, hCreated.keeps hFound, hRest⟩
  · intro hook hDst isRemote mid object hPointer
    rw [hPointerEq] at hPointer ⊢
    rcases hInv.entered _ _ _ _ _ hPointer with
      ⟨hLoaded, hHooks⟩
    refine ⟨hLoaded, ?_⟩
    intro mh₁ m₁ hFound hSame
    rcases hCases hFound with ⟨_, hEq⟩ | ⟨_, hOld⟩
    · rw [← hSame, hEq, hCreated.object] at hLoaded
      exact absurd hLoaded (hInv.unlisted_nextObject _ _ _)
    · exact hHooks _ _ hOld hSame
  · intro mh₁ m₁ hFound hFlags hNow
    rcases hCases hFound with ⟨_, hEq⟩ | ⟨_, hOld⟩
    · unfold MonMeasure.Active at hNow
      rw [hEq, hCreated.stopped] at hNow
      simp at hNow
    · have hListed := hInv.active _ _ hOld hFlags hNow
      unfold Monitor.Listed Monitor.loadedInPlace at hListed ⊢
      rw [hPointerEq]
      exact hListed

end Invariant

end MONL

end NapaBaselibs
