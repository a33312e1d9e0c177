import NapaBaselibs.MONL.Consistency

/-
  What the stop of a measure does.

  A measure that is in its list and has its result lists is
  stopped and leaves its place free.  In a free place there is
  nothing to stop, and a deactivation leaves the state as it
  is.

  Key definitions include:
    * `MonMeasure.afterStop`, `MonMeasure.deinits`

  Key theorems include:
    * `stopMeasure_leaves`
    * `stopMeasure_cases`, `deactivateMeasure_cases`
    * `deactivateMeasure_listed`, `deactivateMeasure_free`
-/

------------------------------------------------------------
-- Stopping
------------------------------------------------------------

namespace NapaBaselibs

namespace MONL

variable {σ π : Type} [DecidableEq σ]

/- The measure once it has been stopped. -/
def MonMeasure.afterStop
    (m : MonMeasure σ π) : MonMeasure σ π :=
  { m with
    plugin := m.measurePlugin.stop m.plugin
    status :=
      if m.remoteCounterpart then .stopping else .stopped
    results := none }

/- The message to the remote counterpart. -/
def MonMeasure.deinits
    (m : MonMeasure σ π) : List (Output σ) :=
  if m.remoteCounterpart then
    [.sendDeinit m.dstSocketid
      { mhLocal := m.mhLocal
        mhRemote := m.mhRemote }]
  else
    []

/- The entry of a listed measure. -/
theorem entry_of_listed
    {s : Monitor σ π}
    {m : MonMeasure σ π}
    (hListed : s.Listed m) :
    ∃ hDst dd, m.hDst = some hDst ∧
      s.dispatcherList.lookup hDst = some dd ∧
      s.entryOf m = some (hDst, dd) ∧
      loadedAs m dd = some m.object := by
  have hAs := hListed
  unfold Monitor.Listed at hAs
  rw [← entryOf_eq] at hAs
  rcases Option.bind_eq_some_iff.mp hAs with
    ⟨⟨hDst, dd⟩, hEntry, hLoaded⟩
  have hBoth := hEntry
  unfold Monitor.entryOf at hBoth
  rcases Option.bind_eq_some_iff.mp hBoth with
    ⟨hDst', hKey, hMap⟩
  rcases Option.map_eq_some_iff.mp hMap with
    ⟨dd', hFound, hEq⟩
  have hPair := Prod.mk.inj hEq
  rw [hPair.1] at hKey hFound
  rw [hPair.2] at hFound
  exact ⟨hDst, dd, hKey, hFound, hEntry, hLoaded⟩

theorem stopMeasure_eq
    {s : Monitor σ π}
    {m : MonMeasure σ π}
    {hDst : SocketIdMt σ}
    {dd : DestinationSocketIdMtData}
    (mh : MonHandler)
    (hEntry : s.entryOf m = some (hDst, dd))
    (hLoaded : loadedAs m dd = some m.object)
    (hResults : m.results.isSome = true) :
    stopMeasure mh m s =
      .ok
        ((s.setMeasure mh m.afterStop).putOrDestroy hDst
            (unloadMeasure m (delMeasureFromExecLists m dd)),
          .stopping m.object true true :: m.deinits, ()) := by
  have hListed : s.listed m = true := by
    unfold Monitor.listed
    rw [hEntry]
    exact decide_eq_true hLoaded
  unfold stopMeasure defaultStop
  rw [if_neg]
  · simp only [hEntry, hLoaded, hListed, hResults]
    rfl
  · rintro ⟨_, hNone⟩
    rw [hNone] at hResults
    cases hResults

/- The place of a measure that was taken out is free. -/
theorem free_of_unload
    {s : Monitor σ π}
    {m : MonMeasure σ π}
    {hDst : SocketIdMt σ}
    {dd : DestinationSocketIdMtData}
    (mh : MonHandler)
    (hKey : m.hDst = some hDst)
    (hFound : s.dispatcherList.lookup hDst = some dd) :
    ((s.setMeasure mh m.afterStop).putOrDestroy hDst
        (unloadMeasure m
          (delMeasureFromExecLists m dd))).loadedInPlace
        m.afterStop =
      none := by
  have hKey' : m.afterStop.hDst = some hDst := hKey
  rw [loadedInPlace_eq hKey',
    Option.eq_none_iff_forall_ne_some]
  intro object hPointer
  exact
    (pointer_of_unload
      (s := s.setMeasure mh m.afterStop) hFound
      hPointer).2 ⟨rfl, rfl, rfl, rfl⟩

/- A listed measure is stopped, and its place is free. -/
theorem stopMeasure_leaves
    {s : Monitor σ π}
    {m : MonMeasure σ π}
    (mh : MonHandler)
    (hListed : s.Listed m)
    (hResults : m.results.isSome = true) :
    ∃ hDst dd, m.hDst = some hDst ∧
      s.dispatcherList.lookup hDst = some dd ∧
      stopMeasure mh m s =
        .ok
          ((s.setMeasure mh m.afterStop).putOrDestroy hDst
              (unloadMeasure m (delMeasureFromExecLists m dd)),
            .stopping m.object true true :: m.deinits, ()) ∧
      ((s.setMeasure mh m.afterStop).putOrDestroy hDst
          (unloadMeasure m
            (delMeasureFromExecLists m dd))).lookup mh =
        some m.afterStop ∧
      ((s.setMeasure mh m.afterStop).putOrDestroy hDst
          (unloadMeasure m
            (delMeasureFromExecLists m dd))).loadedInPlace
          m.afterStop =
        none := by
  rcases entry_of_listed hListed with
    ⟨hDst, dd, hKey, hFound, hEntry, hLoaded⟩
  exact
    ⟨hDst, dd, hKey, hFound,
      stopMeasure_eq mh hEntry hLoaded hResults,
      (lookup_setMeasure s mh mh m.afterStop).trans
        (if_pos rfl),
      free_of_unload mh hKey hFound⟩

/- What a stop does that goes through. -/
theorem stopMeasure_cases
    {s s' : Monitor σ π}
    {mh : MonHandler}
    {m : MonMeasure σ π}
    {out : List (Output σ)}
    (hStop : stopMeasure mh m s = .ok (s', out, ())) :
    ∃ hDst dd, m.hDst = some hDst ∧
      s.dispatcherList.lookup hDst = some dd ∧
      s.loadedInPlace m ≠ none ∧
      s' =
        (s.setMeasure mh m.afterStop).putOrDestroy hDst
          (unloadMeasure m (delMeasureFromExecLists m dd)) := by
  unfold stopMeasure defaultStop at hStop
  split at hStop
  · cases hStop
  · rename_i m₁ hDefault
    split at hDefault
    · cases hDefault
    · rw [← Except.ok.inj hDefault] at hStop
      split at hStop
      · cases hStop
      · rename_i hDst dd hEntry
        split at hStop
        · cases hStop
        · rename_i object hLoaded
          have hPair := Prod.mk.inj (Except.ok.inj hStop)
          have hBoth := hEntry
          unfold Monitor.entryOf at hBoth
          rcases Option.bind_eq_some_iff.mp hBoth with
            ⟨hDst', hKey, hMap⟩
          rcases Option.map_eq_some_iff.mp hMap with
            ⟨dd', hFound, hEq⟩
          have hSame := Prod.mk.inj hEq
          rw [hSame.1] at hKey hFound
          rw [hSame.2] at hFound
          refine ⟨hDst, dd, hKey, hFound, ?_, hPair.1.symm⟩
          rw [← entryOf_eq, hEntry, Option.bind_some, hLoaded]
          exact Option.some_ne_none object

------------------------------------------------------------
-- Deactivating
------------------------------------------------------------

/- With nothing in its place a measure is left as it is. -/
theorem deactivateMeasure_free
    {s : Monitor σ π}
    {m : MonMeasure σ π}
    (answers : Answers)
    (mh : MonHandler)
    (hStopped : m.status ≠ .stopped)
    (hFlags : m.flags ≠ 0)
    (hFree : s.loadedInPlace m = none) :
    ∃ ret,
      deactivateMeasure answers mh m s =
        .ok (s, [], ret) := by
  unfold deactivateMeasure
  rw [if_neg hStopped, if_neg hFlags]
  rw [← entryOf_eq] at hFree
  cases hEntry : s.entryOf m with
  | none => exact ⟨_, rfl⟩
  | some found =>
      rw [hEntry] at hFree
      have hNone : loadedAs m found.2 = none := hFree
      simp only [hNone, if_true]
      exact ⟨_, rfl⟩

/- A listed measure is stopped. -/
theorem deactivateMeasure_listed
    {s s' : Monitor σ π}
    {mh : MonHandler}
    {m : MonMeasure σ π}
    {out : List (Output σ)}
    (answers : Answers)
    (hStopped : m.status ≠ .stopped)
    (hFlags : m.flags ≠ 0)
    (hListed : s.Listed m)
    (hStop : stopMeasure mh m s = .ok (s', out, ())) :
    deactivateMeasure answers mh m s =
      .ok (s', out, answers.stray) := by
  rcases entry_of_listed hListed with
    ⟨hDst, dd, _, _, hEntry, hLoaded⟩
  unfold deactivateMeasure
  rw [if_neg hStopped, if_neg hFlags]
  simp only [hEntry, hLoaded, hStop]
  rfl

/- A measure without flags is stopped outside the lists. -/
theorem deactivateMeasure_flagless
    {s : Monitor σ π}
    {m : MonMeasure σ π}
    (answers : Answers)
    (mh : MonHandler)
    (hStopped : m.status ≠ .stopped)
    (hFlags : m.flags = 0)
    (hQuiet : m.measurePlugin.writesInStop = false) :
    deactivateMeasure answers mh m s =
      .ok
        (s.setMeasure mh
            { m with
              plugin := m.measurePlugin.stop m.plugin
              status := .stopped },
          [], eok) := by
  have hStop :
      defaultStop m =
        .ok
          { m with
            plugin := m.measurePlugin.stop m.plugin } := by
    unfold defaultStop
    rw [hQuiet, if_neg]
    rintro ⟨hWrites, _⟩
    cases hWrites
  unfold deactivateMeasure
  rw [if_neg hStopped, if_pos hFlags, hStop]

/- What a deactivation does that goes through. -/
theorem deactivateMeasure_cases
    {s s' : Monitor σ π}
    {mh : MonHandler}
    {m : MonMeasure σ π}
    {answers : Answers}
    {out : List (Output σ)}
    {ret : Int}
    (hDone :
      deactivateMeasure answers mh m s = .ok (s', out, ret)) :
    s' = s ∨
      s' =
        s.setMeasure mh
          { m with
            plugin := m.measurePlugin.stop m.plugin
            status := .stopped } ∨
      (m.status ≠ .stopped ∧ m.flags ≠ 0 ∧
        stopMeasure mh m s = .ok (s', out, ())) := by
  unfold deactivateMeasure at hDone
  split at hDone
  · exact .inl (Prod.mk.inj (Except.ok.inj hDone)).1.symm
  · rename_i hStopped
    split at hDone
    · split at hDone
      · cases hDone
      · rename_i m₁ hDefault
        unfold defaultStop at hDefault
        split at hDefault
        · cases hDefault
        · rw [← Except.ok.inj hDefault] at hDone
          refine .inr (.inl ?_)
          exact (Prod.mk.inj (Except.ok.inj hDone)).1.symm
    · rename_i hFlags
      split at hDone
      · exact .inl (Prod.mk.inj (Except.ok.inj hDone)).1.symm
      · split at hDone
        · exact
            .inl (Prod.mk.inj (Except.ok.inj hDone)).1.symm
        · split at hDone
          · cases hDone
          · rename_i s₁ out₁ _ hStop
            have hPair := Prod.mk.inj (Except.ok.inj hDone)
            have hRest := Prod.mk.inj hPair.2
            rw [hPair.1, hRest.1] at hStop
            exact .inr (.inr ⟨hStopped, hFlags, hStop⟩)

end MONL

end NapaBaselibs
