import NapaBaselibs.MONL.ConsistentRuns

/-
  Lists in which a measure stands only in its own place.

  A pointer may lead to a measure that was deleted.  But if it
  leads to a live measure then that measure has the place as
  its own, has its result lists and is not STOPPING, so that
  a stop of it is in order.  Every operation that stops no
  measure in another's place keeps this, and leaves the
  measures alone that no list points to.

  Key definitions include:
    * `Output.Sound`
    * `Owned`, `Leaves`

  Key theorems include:
    * `monDeactivateMeasure_goes`, `monDestroyMeasure_goes`
    * `monActivateMeasure_goes`
    * `remoteMeasureResponseRx_goes`
    * `initRemoteMeasureRx_goes`
    * `deinitRemoteMeasureRx_goes`
-/

------------------------------------------------------------
-- Owned Lists
------------------------------------------------------------

namespace NapaBaselibs

namespace MONL

variable {σ π : Type} [DecidableEq σ]

/- A stop found the measure in its list, with its results. -/
def Output.Sound : Output σ → Prop
| .stopping _ listed results => listed = true ∧ results = true
| _ => True

/-
  No pointer is to an object still to come, and what points to
  a live measure is in the place of that measure.
-/
structure Owned (s : Monitor σ π) : Prop
    extends Identified s where
  below :
    ∀ hDst isRemote mid object,
      s.pointer none hDst isRemote mid = some object →
        object < s.nextObject
  own :
    ∀ hDst isRemote mid mh m,
      s.pointer none hDst isRemote mid = some m.object →
        s.lookup mh = some m →
          m.hDst = some hDst ∧ m.has remote = isRemote ∧
            m.id = mid ∧ m.flags ≠ 0 ∧
            m.results.isSome = true ∧ m.status ≠ .stopping

/-
  What an operation leaves: the measures that no list points
  to, but for those that the operation is about.
-/
structure Leaves
    (target : MonHandler → Prop)
    (s s' : Monitor σ π) : Prop where
  owned : Owned s'
  spared :
    ∀ mh m, ¬ target mh → s.lookup mh = some m →
      s.Unlisted m.object →
        ∃ m', s'.lookup mh = some m' ∧ SameMeasure m m' ∧
          s'.Unlisted m.object

omit [DecidableEq σ] in
theorem SameMeasure.refl (m : MonMeasure σ π) :
    SameMeasure m m :=
  ⟨rfl, rfl, rfl, rfl⟩

omit [DecidableEq σ] in
theorem SameMeasure.trans
    {m m' m'' : MonMeasure σ π}
    (hFirst : SameMeasure m m')
    (hSecond : SameMeasure m' m'') :
    SameMeasure m m'' where
  object := hSecond.object.trans hFirst.object
  flags := hSecond.flags.trans hFirst.flags
  measurePlugin :=
    hSecond.measurePlugin.trans hFirst.measurePlugin
  mhLocal := hSecond.mhLocal.trans hFirst.mhLocal

omit [DecidableEq σ] in
theorem SameMeasure.afterStop (m : MonMeasure σ π) :
    SameMeasure m m.afterStop :=
  ⟨rfl, rfl, rfl, rfl⟩

/- A measure that is listed is pointed to. -/
theorem not_listed_of_unlisted
    {s : Monitor σ π}
    {m : MonMeasure σ π}
    (hUnlisted : s.Unlisted m.object) :
    ¬ s.Listed m := by
  intro hListed
  unfold Monitor.Listed Monitor.loadedInPlace at hListed
  rcases Option.bind_eq_some_iff.mp hListed with
    ⟨hDst, _, hPointer⟩
  exact hUnlisted _ _ _ hPointer

namespace Owned

variable {s : Monitor σ π}
variable {mh : MonHandler}
variable {m : MonMeasure σ π}

/- A live measure that is pointed to is listed. -/
theorem unlisted
    (hOwned : Owned s)
    (hLookup : s.lookup mh = some m)
    (hNot : ¬ s.Listed m) :
    s.Unlisted m.object := by
  intro hDst isRemote mid hPointer
  rcases hOwned.own _ _ _ _ _ hPointer hLookup with
    ⟨hKey, hRemote, hId, _⟩
  apply hNot
  unfold Monitor.Listed
  rw [loadedInPlace_eq hKey, hRemote, hId]
  exact hPointer

/- A listed measure has flags and results, and is not STOPPING. -/
theorem of_listed
    (hOwned : Owned s)
    (hLookup : s.lookup mh = some m)
    (hListed : s.Listed m) :
    m.flags ≠ 0 ∧ m.results.isSome = true ∧
      m.status ≠ .stopping := by
  unfold Monitor.Listed Monitor.loadedInPlace at hListed
  rcases Option.bind_eq_some_iff.mp hListed with
    ⟨hDst, _, hPointer⟩
  exact
    (hOwned.own _ _ _ _ _ hPointer hLookup).2.2.2

/- A new object is in no list. -/
theorem unlisted_nextObject
    (hOwned : Owned s) :
    s.Unlisted s.nextObject := by
  intro hDst isRemote mid hPointer
  exact Nat.lt_irrefl _ (hOwned.below _ _ _ _ hPointer)

end Owned

theorem owned_initial :
    Owned (Monitor.initial : Monitor σ π) := by
  have hInv : Invariant (Monitor.initial : Monitor σ π) :=
    invariant_initial
  refine { hInv.toIdentified with below := ?_, own := ?_ }
  · intro hDst isRemote mid object hPointer
    rcases hInv.loaded _ _ _ _ hPointer with
      ⟨mh, m, hLookup, hObject, _⟩
    rw [← hObject]
    exact hInv.fresh _ _ hLookup
  · intro hDst isRemote mid mh m _ hLookup
    rw [Monitor.lookup] at hLookup
    cases (Dict.lookup_empty mh).symm.trans hLookup

namespace Leaves

variable {s s₁ s₂ : Monitor σ π}
variable {target : MonHandler → Prop}

theorem refl
    (hOwned : Owned s) :
    Leaves target s s :=
  ⟨hOwned,
    fun _ m _ hLookup hUnlisted =>
      ⟨m, hLookup, .refl m, hUnlisted⟩⟩

theorem trans
    (hFirst : Leaves target s s₁)
    (hSecond : Leaves target s₁ s₂) :
    Leaves target s s₂ := by
  refine ⟨hSecond.owned, ?_⟩
  intro mh m hOther hLookup hUnlisted
  rcases hFirst.spared mh m hOther hLookup hUnlisted with
    ⟨m₁, hLookup₁, hSame₁, hUnlisted₁⟩
  rw [← hSame₁.object] at hUnlisted₁
  rcases hSecond.spared mh m₁ hOther hLookup₁
      hUnlisted₁ with
    ⟨m₂, hLookup₂, hSame₂, hUnlisted₂⟩
  rw [hSame₁.object] at hUnlisted₂
  exact ⟨m₂, hLookup₂, hSame₁.trans hSame₂, hUnlisted₂⟩

/- An operation that is about no measure. -/
theorem of_none
    (hLeaves : Leaves (fun _ => False) s s₁) :
    Leaves target s s₁ :=
  ⟨hLeaves.owned,
    fun mh m _ => hLeaves.spared mh m not_false⟩

/- The measures that it is about were pointed to, or not there. -/
theorem of_target
    (hLeaves : Leaves target s s₁)
    (hTarget :
      ∀ mh m, target mh → s.lookup mh = some m →
        ¬ s.Unlisted m.object) :
    Leaves (fun _ => False) s s₁ :=
  ⟨hLeaves.owned,
    fun mh m _ hLookup hUnlisted =>
      hLeaves.spared mh m
        (fun hThis => hTarget mh m hThis hLookup hUnlisted)
        hLookup hUnlisted⟩

end Leaves

------------------------------------------------------------
-- Changing The Lists
------------------------------------------------------------

section Changes

variable {s : Monitor σ π}
variable {mh : MonHandler}
variable {m m' : MonMeasure σ π}

/-
  A measure may change as long as its key and its result lists
  stay while it is listed, and it does not become STOPPING.
-/
theorem setMeasure_leaves
    (hOwned : Owned s)
    (hLookup : s.lookup mh = some m)
    (hSame : SameMeasure m m')
    (hKept :
      s.Listed m →
        m'.hDst = m.hDst ∧ m'.results.isSome = true ∧
          m'.status ≠ .stopping) :
    Leaves (fun _ => False) s (s.setMeasure mh m') := by
  constructor
  · refine
      { hOwned.toIdentified.setMeasure hLookup hSame with
        below := hOwned.below
        own := ?_ }
    intro hDst isRemote mid mh₁ m₁ hPointer hFound
    rw [pointer_setMeasure] at hPointer
    rcases lookup_setMeasure_cases hFound with
      ⟨_, hEq⟩ | ⟨_, hOld⟩
    · rw [hEq] at hPointer ⊢
      rw [hSame.object] at hPointer
      rcases hOwned.own _ _ _ _ _ hPointer hLookup with
        ⟨hKey, hRemote, hId, hFlags, _⟩
      have hListed : s.Listed m := by
        by_contra hNot
        exact hOwned.unlisted hLookup hNot _ _ _ hPointer
      rcases hKept hListed with ⟨hKeyEq, hResults, hStatus⟩
      refine ⟨?_, ?_, ?_, ?_, hResults, hStatus⟩
      · rw [hKeyEq]
        exact hKey
      · unfold MonMeasure.has at hRemote ⊢
        rw [hSame.flags]
        exact hRemote
      · unfold MonMeasure.id at hId ⊢
        rw [hSame.measurePlugin]
        exact hId
      · rw [hSame.flags]
        exact hFlags
    · exact hOwned.own _ _ _ _ _ hPointer hOld
  · intro mh₁ m₁ _ hFound hUnlisted
    by_cases hEq : mh₁ = mh
    · rw [hEq, hLookup] at hFound
      rw [← Option.some.inj hFound] at hUnlisted ⊢
      refine ⟨m', ?_, hSame, hUnlisted⟩
      rw [lookup_setMeasure, if_pos hEq]
    · refine ⟨m₁, ?_, .refl m₁, hUnlisted⟩
      rw [lookup_setMeasure, if_neg hEq]
      exact hFound

/- A measure leaves the lists of its entry. -/
theorem unlist_leaves
    {hDst : SocketIdMt σ}
    {dd : DestinationSocketIdMtData}
    (hOwned : Owned s)
    (hLookup : s.lookup mh = some m)
    (hKey : m.hDst = some hDst)
    (hEntry : s.dispatcherList.lookup hDst = some dd)
    (hSame : SameMeasure m m') :
    Leaves (fun _ => False) s
        ((s.setMeasure mh m').putOrDestroy hDst
          (unloadMeasure m (delMeasureFromExecLists m dd))) ∧
      ((s.setMeasure mh m').putOrDestroy hDst
          (unloadMeasure m
            (delMeasureFromExecLists m dd))).Unlisted
        m.object := by
  have hLeft {isRemote mid object hDst'} :=
    @pointer_of_unload σ π _ (s.setMeasure mh m') m hDst hDst'
      dd none isRemote mid object hEntry
  have hUnlisted :
      ((s.setMeasure mh m').putOrDestroy hDst
          (unloadMeasure m
            (delMeasureFromExecLists m dd))).Unlisted
        m.object := by
    intro hDst' isRemote mid hPointer
    rcases hLeft hPointer with ⟨hBefore, hOther⟩
    rcases hOwned.own _ _ _ _ _ hBefore hLookup with
      ⟨hKey', hRemote, hId, _⟩
    rw [hKey] at hKey'
    exact
      hOther
        ⟨(Option.some.inj hKey').symm, hRemote.symm,
          hId.symm, rfl⟩
  refine ⟨⟨?_, ?_⟩, hUnlisted⟩
  · refine
      { (hOwned.toIdentified.setMeasure hLookup
          hSame).of_instances rfl rfl with
        below := ?_
        own := ?_ }
    · intro hDst' isRemote mid object hPointer
      exact hOwned.below _ _ _ _ (hLeft hPointer).1
    · intro hDst' isRemote mid mh₁ m₁ hPointer hFound
      rcases lookup_setMeasure_cases hFound with
        ⟨_, hEq⟩ | ⟨_, hOld⟩
      · rw [hEq, hSame.object] at hPointer
        exact absurd hPointer (hUnlisted _ _ _)
      · exact
          hOwned.own _ _ _ _ _ (hLeft hPointer).1 hOld
  · intro mh₁ m₁ _ hFound hFree
    have hFree' :
        ((s.setMeasure mh m').putOrDestroy hDst
            (unloadMeasure m
              (delMeasureFromExecLists m dd))).Unlisted
          m₁.object :=
      fun _ _ _ hPointer => hFree _ _ _ (hLeft hPointer).1
    by_cases hEq : mh₁ = mh
    · rw [hEq, hLookup] at hFound
      rw [← Option.some.inj hFound] at hFree' ⊢
      refine ⟨m', ?_, hSame, hFree'⟩
      exact (lookup_setMeasure s mh mh₁ m').trans (if_pos hEq)
    · refine ⟨m₁, ?_, .refl m₁, hFree'⟩
      exact
        ((lookup_setMeasure s mh mh₁ m').trans
          (if_neg hEq)).trans hFound

/- A measure that no list points to enters its place. -/
theorem enter_leaves
    {hDst : SocketIdMt σ}
    (hOwned : Owned s)
    (hLookup : s.lookup mh = some m)
    (hUnlisted : s.Unlisted m.object)
    (hSame : SameMeasure m m')
    (hKey : m'.hDst = some hDst)
    (hFlags : m'.flags ≠ 0)
    (hResults : m'.results.isSome = true)
    (hStatus : m'.status ≠ .stopping) :
    Leaves (fun mh₁ => mh₁ = mh) s
      ((s.setMeasure mh m').enter m' hDst) := by
  have hPointerEq :=
    pointer_enter (s.setMeasure mh m') m' hDst none
  have hLookupEq := lookup_enter (s.setMeasure mh m') m' hDst
  have hInstances :=
    enter_mMeasureInstances (s.setMeasure mh m') m' hDst
  constructor
  · refine
      { (hOwned.toIdentified.setMeasure hLookup
          hSame).of_instances hInstances.1 hInstances.2 with
        below := ?_
        own := ?_ }
    · intro hDst' isRemote mid object hPointer
      rw [hInstances.2]
      rw [hPointerEq] at hPointer
      split at hPointer
      · rw [← Option.some.inj hPointer, hSame.object]
        exact hOwned.fresh _ _ hLookup
      · exact hOwned.below _ _ _ _ hPointer
    · intro hDst' isRemote mid mh₁ m₁ hPointer hFound
      rw [hPointerEq] at hPointer
      rw [hLookupEq] at hFound
      rcases lookup_setMeasure_cases hFound with
        ⟨_, hEq⟩ | ⟨hOther, hOld⟩
      · split at hPointer
        · rename_i hOwn
          rcases hOwn with ⟨hDstEq, hRemote, hMid, _⟩
          rw [hEq, hDstEq]
          exact
            ⟨hKey, hRemote.symm, hMid.symm, hFlags, hResults,
              hStatus⟩
        · rw [hEq, hSame.object] at hPointer
          exact absurd hPointer (hUnlisted _ _ _)
      · split at hPointer
        · have hObject := Option.some.inj hPointer
          rw [hSame.object] at hObject
          exact
            absurd
              (hOwned.objects _ _ _ _ hOld hLookup
                hObject.symm)
              hOther
        · exact hOwned.own _ _ _ _ _ hPointer hOld
  · intro mh₁ m₁ hOther hFound hFree
    refine ⟨m₁, ?_, .refl m₁, ?_⟩
    · rw [hLookupEq, lookup_setMeasure, if_neg hOther]
      exact hFound
    · intro hDst' isRemote mid hPointer
      rw [hPointerEq] at hPointer
      split at hPointer
      · have hObject := Option.some.inj hPointer
        rw [hSame.object] at hObject
        exact
          hOther
            (hOwned.objects _ _ _ _ hFound hLookup
              hObject.symm)
      · exact hFree _ _ _ hPointer

/- A measure is deleted, whatever points to it. -/
theorem erase_leaves
    (hOwned : Owned s)
    (mh : MonHandler) :
    Leaves (fun mh₁ => mh₁ = mh) s
      { s with
        mMeasureInstances := s.mMeasureInstances.erase mh } := by
  constructor
  · refine
      { hOwned.toIdentified.erase mh with
        below := hOwned.below
        own := ?_ }
    intro hDst isRemote mid mh₁ m₁ hPointer hFound
    exact
      hOwned.own _ _ _ _ _ hPointer (lookup_of_erase hFound).2
  · intro mh₁ m₁ hOther hFound hFree
    refine ⟨m₁, ?_, .refl m₁, hFree⟩
    exact
      (Dict.lookup_erase_eq _ _ _).trans
        ((if_neg hOther).trans hFound)

/- A new measure is in no list. -/
theorem insert_leaves
    {s' : Monitor σ π}
    (hOwned : Owned s)
    (hCreated : Created s s' mh m) :
    Leaves (fun _ => False) s s' ∧ s'.Unlisted m.object := by
  have hPointerEq := hCreated.pointer_eq
  have hUnlisted : s'.Unlisted m.object := by
    unfold Monitor.Unlisted
    rw [hPointerEq, hCreated.object]
    exact hOwned.unlisted_nextObject
  refine ⟨⟨?_, ?_⟩, hUnlisted⟩
  · refine
      { hOwned.toIdentified.insert hCreated with
        below := ?_
        own := ?_ }
    · intro hDst isRemote mid object hPointer
      rw [hPointerEq] at hPointer
      rw [hCreated.nextObject]
      exact Nat.lt_succ_of_lt (hOwned.below _ _ _ _ hPointer)
    · intro hDst isRemote mid mh₁ m₁ hPointer hFound
      rcases hCreated.cases hOwned.toIdentified hFound with
        ⟨_, hEq⟩ | ⟨_, hOld⟩
      · rw [hEq] at hPointer
        exact absurd hPointer (hUnlisted _ _ _)
      · rw [hPointerEq] at hPointer
        exact hOwned.own _ _ _ _ _ hPointer hOld
  · intro mh₁ m₁ _ hFound hFree
    refine ⟨m₁, hCreated.keeps hFound, .refl m₁, ?_⟩
    unfold Monitor.Unlisted
    rw [hPointerEq]
    exact hFree

end Changes

------------------------------------------------------------
-- Stopping
------------------------------------------------------------

/- The operation goes through, and its stops are sound. -/
def Goes
    {α : Type}
    (outcome : Outcome σ π α)
    (P : Monitor σ π → Prop) : Prop :=
  ∃ s' out ret, outcome = .ok (s', out, ret) ∧
    (∀ o ∈ out, o.Sound) ∧ P s'

/- What a deactivation leaves of the measure. -/
structure Deactivated
    (s : Monitor σ π)
    (mh : MonHandler)
    (m : MonMeasure σ π)
    (s' : Monitor σ π) : Prop where
  leaves : Leaves (fun _ => False) s s'
  measure :
    ∃ m', s'.lookup mh = some m' ∧ SameMeasure m m' ∧
      Stoppable s' m'
  unlisted :
    ¬ (m.status = .stopped ∧ s.Listed m) →
      s'.Unlisted m.object

omit [DecidableEq σ] in
theorem sound_nil :
    ∀ o ∈ ([] : List (Output σ)), o.Sound := by
  intro o hMem
  cases hMem

omit [DecidableEq σ] in
theorem sound_append
    {out out' : List (Output σ)}
    (hFirst : ∀ o ∈ out, o.Sound)
    (hSecond : ∀ o ∈ out', o.Sound) :
    ∀ o ∈ out ++ out', o.Sound := by
  intro o hMem
  rcases List.mem_append.mp hMem with hMem | hMem
  · exact hFirst o hMem
  · exact hSecond o hMem

/- The outputs of a stop of a listed measure are sound. -/
omit [DecidableEq σ] in
theorem sound_of_stop
    (m : MonMeasure σ π) :
    ∀ o ∈
        (.stopping m.object true true :: m.deinits :
          List (Output σ)),
      o.Sound := by
  intro o hMem
  rcases List.mem_cons.mp hMem with hEq | hMem
  · rw [hEq]
    exact ⟨rfl, rfl⟩
  · unfold MonMeasure.deinits at hMem
    split at hMem
    · rw [List.mem_singleton.mp hMem]
      trivial
    · cases hMem

theorem deactivateMeasure_goes
    {s : Monitor σ π}
    {mh : MonHandler}
    {m : MonMeasure σ π}
    (answers : Answers)
    (hOwned : Owned s)
    (hLookup : s.lookup mh = some m)
    (hStoppable : Stoppable s m) :
    Goes (deactivateMeasure answers mh m s)
      (Deactivated s mh m) := by
  have hStays
      (hUnlisted :
        ¬ (m.status = .stopped ∧ s.Listed m) →
          s.Unlisted m.object) :
      Deactivated s mh m s :=
    ⟨.refl hOwned, ⟨m, hLookup, .refl m, hStoppable⟩,
      hUnlisted⟩
  by_cases hStopped : m.status = .stopped
  · refine ⟨s, [], eok, ?_, sound_nil, hStays ?_⟩
    · unfold deactivateMeasure
      rw [if_pos hStopped]
    · intro hNot
      apply hOwned.unlisted hLookup
      exact fun hListed => hNot ⟨hStopped, hListed⟩
  by_cases hFlags : m.flags = 0
  · have hNot : ¬ s.Listed m :=
      fun hListed => (hOwned.of_listed hLookup hListed).1 hFlags
    have hStop :=
      deactivateMeasure_flagless (s := s) answers mh hStopped
        hFlags (hOwned.quiet _ _ hLookup hFlags)
    refine ⟨_, [], eok, hStop, sound_nil, ?_⟩
    refine ⟨?_, ?_, fun _ => hOwned.unlisted hLookup hNot⟩
    · exact
        setMeasure_leaves hOwned hLookup ⟨rfl, rfl, rfl, rfl⟩
          (fun hListed => absurd hListed hNot)
    · exact
        ⟨_, (lookup_setMeasure s mh mh _).trans (if_pos rfl),
          ⟨rfl, rfl, rfl, rfl⟩, .inl rfl⟩
  by_cases hFree : s.loadedInPlace m = none
  · rcases deactivateMeasure_free answers mh hStopped hFlags
        hFree with
      ⟨ret, hSame⟩
    refine ⟨s, [], ret, hSame, sound_nil, hStays ?_⟩
    intro _
    apply hOwned.unlisted hLookup
    intro hListed
    unfold Monitor.Listed at hListed
    rw [hFree] at hListed
    cases hListed
  · have hListed : s.Listed m := by
      rcases hStoppable with h | h | h | h
      · exact absurd h hStopped
      · exact absurd h hFlags
      · exact absurd h hFree
      · exact h
    have hResults := (hOwned.of_listed hLookup hListed).2.1
    rcases stopMeasure_leaves mh hListed hResults with
      ⟨hDst, dd, hKey, hEntry, hStop, hLookup', hFree'⟩
    have hSame := SameMeasure.afterStop m
    rcases unlist_leaves hOwned hLookup hKey hEntry
        hSame with
      ⟨hLeaves, hUnlisted⟩
    exact
      ⟨_, _, answers.stray,
        deactivateMeasure_listed answers hStopped hFlags
          hListed hStop,
        sound_of_stop m, hLeaves,
        ⟨_, hLookup', hSame, .inr (.inr (.inl hFree'))⟩,
        fun _ => hUnlisted⟩

theorem monDeactivateMeasure_goes
    {s : Monitor σ π}
    {mh : MonHandler}
    (answers : Answers)
    (hOwned : Owned s)
    (hStoppable : ∀ m, s.lookup mh = some m → Stoppable s m) :
    Goes (monDeactivateMeasure answers mh s)
      (fun s' =>
        Leaves (fun _ => False) s s' ∧
          ∀ m, s.lookup mh = some m →
            Deactivated s mh m s') := by
  unfold monDeactivateMeasure
  cases hLookup : s.mMeasureInstances.lookup mh with
  | none =>
      refine
        ⟨s, [], -einval, rfl, sound_nil, .refl hOwned, ?_⟩
      intro m hFound
      rw [Monitor.lookup, hLookup] at hFound
      cases hFound
  | some m =>
      rcases deactivateMeasure_goes answers hOwned hLookup
          (hStoppable m hLookup) with
        ⟨s', out, ret, hEq, hSound, hDone⟩
      refine ⟨s', out, ret, hEq, hSound, hDone.leaves, ?_⟩
      intro m' hFound
      rw [Monitor.lookup, hLookup] at hFound
      rw [← Option.some.inj hFound]
      exact hDone

/- A measure is deleted, whether or not it was stopped. -/
theorem monDestroyMeasure_goes
    {s : Monitor σ π}
    {mh : MonHandler}
    (answers : Answers)
    (hOwned : Owned s)
    (hStoppable : ∀ m, s.lookup mh = some m → Stoppable s m) :
    Goes (monDestroyMeasure answers mh s)
      (Leaves (fun mh₁ => mh₁ = mh) s) := by
  unfold monDestroyMeasure
  cases hLookup : s.mMeasureInstances.lookup mh with
  | none =>
      exact ⟨s, [], -einval, rfl, sound_nil, .refl hOwned⟩
  | some m =>
      rcases deactivateMeasure_goes answers hOwned hLookup
          (hStoppable m hLookup) with
        ⟨s₁, out, ret, hEq, hSound, hDone⟩
      have hErased := erase_leaves hDone.leaves.owned mh
      simp only [hEq]
      exact
        ⟨_, out, eok, rfl, hSound,
          hDone.leaves.of_none.trans hErased⟩

------------------------------------------------------------
-- Activating
------------------------------------------------------------

/- The measure as it enters its place. -/
def MonMeasure.withLists
    (m : MonMeasure σ π)
    (hDst : SocketIdMt σ)
    (status : MeasurementStatus) : MonMeasure σ π :=
  { m with
    results := some (resultListsOf m hDst)
    status := status }

/- The state in which the measure has entered its place. -/
def Monitor.entered
    (s : Monitor σ π)
    (mh : MonHandler)
    (m : MonMeasure σ π)
    (hDst : SocketIdMt σ) : Monitor σ π :=
  (s.setMeasure mh m).enter m hDst

theorem activateAt_eq
    (answers : Answers)
    (mh : MonHandler)
    (m : MonMeasure σ π)
    (dst : σ)
    (mt : MsgType)
    (s : Monitor σ π) :
    activateAt answers mh m dst mt s =
      if (s.pointer none ⟨dst, mt⟩ (m.has remote)
          m.id).isSome then
        .ok (s.setMeasure mh m, [], -eexists)
      else if m.remoteCounterpart then
        if answers.initSent then
          .ok
            (s.entered mh (m.withLists ⟨dst, mt⟩ .initialising)
                ⟨dst, mt⟩,
              [.sendInit dst
                (initRemoteMeasureOf
                  (m.withLists ⟨dst, mt⟩ .initialising) mt)],
              eok)
        else
          match
            stopMeasure mh
              (m.withLists ⟨dst, mt⟩ .initialising)
              (s.entered mh
                (m.withLists ⟨dst, mt⟩ .initialising)
                ⟨dst, mt⟩)
          with
          | .error fault => .error fault
          | .ok (s', out, _) => .ok (s', out, -enomem)
      else
        .ok
          (s.entered mh (m.withLists ⟨dst, mt⟩ .running)
              ⟨dst, mt⟩,
            [], eok) := rfl

/-
  An activation always goes through.  If a listed measure is
  not directed elsewhere, the lists are owned behind it.
-/
theorem activateAt_goes
    {s : Monitor σ π}
    {mh : MonHandler}
    {m₀ m : MonMeasure σ π}
    {dst : σ}
    {mt : MsgType}
    (answers : Answers)
    (hLookup : s.lookup mh = some m₀)
    (hSame : SameMeasure m₀ m)
    (hStatus : m.status = m₀.status)
    (hKey : m.hDst = some ⟨dst, mt⟩)
    (hFlags : m.flags ≠ 0) :
    Goes (activateAt answers mh m dst mt s)
      (fun s' =>
        Owned s →
          (s.Listed m₀ →
            m.hDst = m₀.hDst ∧ m.results = m₀.results) →
            Leaves (fun mh₁ => mh₁ = mh) s s') := by
  rw [activateAt_eq]
  by_cases hTaken :
      (s.pointer none ⟨dst, mt⟩ (m.has remote)
        m.id).isSome = true
  · rw [if_pos hTaken]
    refine ⟨_, [], -eexists, rfl, sound_nil, ?_⟩
    intro hOwned hKept
    apply (setMeasure_leaves hOwned hLookup hSame _).of_none
    intro hListed
    rcases hKept hListed with ⟨hKeyEq, hResultsEq⟩
    have hHas := hOwned.of_listed hLookup hListed
    rw [hResultsEq, hStatus]
    exact ⟨hKeyEq, hHas.2⟩
  · rw [if_neg hTaken]
    have hFree :
        s.pointer none ⟨dst, mt⟩ (m.has remote) m.id =
          none := by
      rw [Option.isSome_iff_ne_none, ne_eq, not_not] at hTaken
      exact hTaken
    have hEnter (status : MeasurementStatus)
        (hNotStopping : status ≠ .stopping)
        (hOwned : Owned s)
        (hKept :
          s.Listed m₀ →
            m.hDst = m₀.hDst ∧ m.results = m₀.results) :
        Leaves (fun mh₁ => mh₁ = mh) s
          (s.entered mh (m.withLists ⟨dst, mt⟩ status)
            ⟨dst, mt⟩) := by
      -- If it were listed, the place would be its own.
      have hNot : ¬ s.Listed m₀ := by
        intro hListed
        have hListed' := hSame.listed (hKept hListed).1 hListed
        unfold Monitor.Listed at hListed'
        rw [loadedInPlace_eq hKey, hFree] at hListed'
        cases hListed'
      exact
        enter_leaves hOwned hLookup
          (hOwned.unlisted hLookup hNot)
          ⟨hSame.object, hSame.flags, hSame.measurePlugin,
            hSame.mhLocal⟩
          hKey hFlags rfl hNotStopping
    by_cases hRemote : m.remoteCounterpart = true
    · rw [if_pos hRemote]
      have hLeaves :=
        hEnter .initialising MeasurementStatus.noConfusion
      cases answers.initSent with
      | true =>
          refine ⟨_, _, eok, rfl, ?_, hLeaves⟩
          intro o hMem
          rw [List.mem_singleton.mp hMem]
          trivial
      | false =>
          have hKey' :
              (m.withLists ⟨dst, mt⟩ .initialising).hDst =
                some ⟨dst, mt⟩ := hKey
          have hFound :=
            lookup_setMeasure_enter s mh
              (m.withLists ⟨dst, mt⟩ .initialising) ⟨dst, mt⟩
          rcases stopMeasure_leaves mh
              (listed_enter
                (s.setMeasure mh
                  (m.withLists ⟨dst, mt⟩ .initialising))
                hKey')
              rfl with
            ⟨hDst, dd, hOwnKey, hEntry, hStop, _⟩
          rw [if_neg Bool.false_ne_true, Monitor.entered, hStop]
          refine
            ⟨_, _, -enomem, rfl, sound_of_stop _, ?_⟩
          intro hOwned hKept
          have hBefore := hLeaves hOwned hKept
          exact
            hBefore.trans
              (unlist_leaves hBefore.owned hFound hOwnKey
                hEntry (.afterStop _)).1.of_none
    · rw [if_neg hRemote]
      exact
        ⟨_, [], eok, rfl, sound_nil,
          hEnter .running MeasurementStatus.noConfusion⟩

theorem activateMeasure_goes
    {s : Monitor σ π}
    {mh : MonHandler}
    {m : MonMeasure σ π}
    (answers : Answers)
    (dst : Option σ)
    (mt : MsgType)
    (hLookup : s.lookup mh = some m) :
    Goes (activateMeasure answers mh m dst mt s)
      (fun s' =>
        Owned s → Directable s m dst mt →
          Leaves (fun mh₁ => mh₁ = mh) s s') := by
  unfold activateMeasure
  by_cases hNowhere : dst = none ∧ m.flags ≠ 0
  · rw [if_pos hNowhere]
    refine ⟨_, [], -einval, rfl, sound_nil, ?_⟩
    intro hOwned hDirectable
    refine
      (setMeasure_leaves hOwned hLookup ?_ ?_).of_none
    · exact ⟨rfl, rfl, rfl, rfl⟩
    · intro hListed
      refine ⟨?_, (hOwned.of_listed hLookup hListed).2⟩
      unfold MonMeasure.hDst
      rw [(hDirectable hListed).1]
  · rw [if_neg hNowhere]
    by_cases hFlags : m.flags = 0
    · simp only [hFlags, if_true]
      refine ⟨_, [], eok, rfl, sound_nil, ?_⟩
      intro hOwned _
      refine
        (setMeasure_leaves hOwned hLookup ?_ ?_).of_none
      · exact ⟨rfl, rfl, rfl, rfl⟩
      · intro hListed
        exact
          absurd hFlags (hOwned.of_listed hLookup hListed).1
    · simp only [hFlags, if_false]
      cases dst with
      | none => exact absurd ⟨rfl, hFlags⟩ hNowhere
      | some sid =>
          rcases activateAt_goes
              (m :=
                { m.directed (some sid) mt with
                  plugin := m.measurePlugin.init m.plugin })
              answers hLookup ⟨rfl, rfl, rfl, rfl⟩ rfl rfl
              hFlags with
            ⟨s', out, ret, hEq, hSound, hLeaves⟩
          refine ⟨s', out, ret, hEq, hSound, ?_⟩
          intro hOwned hDirectable
          apply hLeaves hOwned
          intro hListed
          rcases hDirectable hListed with
            ⟨hMt, hNone | hDst⟩
          · cases hNone
          · refine ⟨?_, rfl⟩
            unfold MonMeasure.hDst MonMeasure.directed
            rw [hMt, ← hDst]

theorem monActivateMeasure_goes
    (answers : Answers)
    (mh : MonHandler)
    (dst : Option σ)
    (mt : MsgType)
    (s : Monitor σ π) :
    Goes (monActivateMeasure answers mh dst mt s)
      (fun s' =>
        Owned s →
          (∀ m, s.lookup mh = some m →
            Directable s m dst mt) →
            Leaves (fun mh₁ => mh₁ = mh) s s') := by
  unfold monActivateMeasure
  cases hLookup : s.mMeasureInstances.lookup mh with
  | none =>
      exact
        ⟨s, [], -einval, rfl, sound_nil,
          fun hOwned _ => .refl hOwned⟩
  | some m =>
      rcases activateMeasure_goes answers dst mt hLookup with
        ⟨s', out, ret, hEq, hSound, hLeaves⟩
      exact
        ⟨s', out, ret, hEq, hSound,
          fun hOwned hDirectable =>
            hLeaves hOwned (hDirectable m hLookup)⟩

------------------------------------------------------------
-- Messages Of Peers
------------------------------------------------------------

/- A successful response to a `DEINITREMOTEMEASURE`. -/
def MeasureResponse.Deinits (response : MeasureResponse) : Prop :=
  response.command = deinitRemoteMeasureId ∧
    response.status = eok

theorem remoteMeasureResponseRx_goes
    {s : Monitor σ π}
    {response : MeasureResponse}
    (answers : Answers)
    (hOwned : Owned s)
    (hNotStopping :
      response.Deinits →
        ∀ m, s.lookup response.mhRemote = some m →
          m.status ≠ .stopping) :
    Goes (remoteMeasureResponseRx answers response s)
      (fun s' =>
        Leaves (fun _ => False) s s' ∧
          (response.Deinits →
            ∀ m, s'.lookup response.mhRemote = some m →
              m.status = .stopped)) := by
  unfold remoteMeasureResponseRx
  cases hLookup :
      s.mMeasureInstances.lookup response.mhRemote with
  | none =>
      refine ⟨s, [], (), rfl, sound_nil, .refl hOwned, ?_⟩
      intro _ m hFound
      rw [Monitor.lookup, hLookup] at hFound
      cases hFound
  | some m =>
      have hSet (m' : MonMeasure σ π)
          (hSame : SameMeasure m m')
          (hKeeps :
            m'.hDst = m.hDst ∧ m'.results = m.results)
          (hStatus : m'.status ≠ .stopping) :
          Leaves (fun _ => False) s
            (s.setMeasure response.mhRemote m') := by
        apply setMeasure_leaves hOwned hLookup hSame
        intro hListed
        rw [hKeeps.2]
        exact
          ⟨hKeeps.1, (hOwned.of_listed hLookup hListed).2.1,
            hStatus⟩
      simp only
      by_cases hIsInit : response.command = initRemoteMeasureId
      · rw [if_pos hIsInit]
        refine ⟨_, [], (), rfl, sound_nil, ?_, ?_⟩
        · apply
            hSet (initResponded answers response m)
              ⟨rfl, rfl, rfl, rfl⟩ ⟨rfl, rfl⟩
          unfold initResponded
          simp only
          split
          · split
            · exact MeasurementStatus.noConfusion
            · exact MeasurementStatus.noConfusion
          · exact MeasurementStatus.noConfusion
        · rintro ⟨hIsDeinit, _⟩
          rw [hIsInit] at hIsDeinit
          exact absurd hIsDeinit (by decide)
      · rw [if_neg hIsInit]
        by_cases hIsDeinit :
            response.command = deinitRemoteMeasureId
        · rw [if_pos hIsDeinit]
          by_cases hStatus : response.status = eok
          · rw [if_pos hStatus,
              if_neg
                (hNotStopping ⟨hIsDeinit, hStatus⟩ m hLookup)]
            refine ⟨_, [], (), rfl, sound_nil, ?_, ?_⟩
            · exact
                hSet { m with status := .stopped }
                  ⟨rfl, rfl, rfl, rfl⟩ ⟨rfl, rfl⟩
                  MeasurementStatus.noConfusion
            · intro _ m' hFound
              rw [lookup_setMeasure, if_pos rfl] at hFound
              rw [← Option.some.inj hFound]
          · rw [if_neg hStatus]
            refine ⟨_, [], (), rfl, sound_nil, ?_, ?_⟩
            · exact
                hSet { m with status := .rfailed }
                  ⟨rfl, rfl, rfl, rfl⟩ ⟨rfl, rfl⟩
                  MeasurementStatus.noConfusion
            · exact fun hDeinits => absurd hDeinits.2 hStatus
        · rw [if_neg hIsDeinit]
          exact
            ⟨s, [], (), rfl, sound_nil, .refl hOwned,
              fun hDeinits => absurd hDeinits.1 hIsDeinit⟩

/- A previous instance is in its own place. -/
theorem removePrevious_goes
    {s : Monitor σ π}
    (answers : Answers)
    (src : σ)
    (msg : InitRemoteMeasure)
    (hOwned : Owned s) :
    removePrevious answers src msg s =
        .error .deletedMeasure ∨
      Goes (removePrevious answers src msg s)
        (Leaves (fun _ => False) s) := by
  have hPlace :
      (s.dispatcherList.lookup ⟨src, msg.msgType⟩).bind
          (fun dd => findMeasureFromId dd msg.mc msg.mid) =
        s.pointer none ⟨src, msg.msgType⟩
          (hasFlag msg.mc remote) msg.mid := rfl
  unfold removePrevious
  rw [hPlace]
  cases hPointer :
      s.pointer none ⟨src, msg.msgType⟩
        (hasFlag msg.mc remote) msg.mid with
  | none =>
      exact .inr ⟨s, [], (), rfl, sound_nil, .refl hOwned⟩
  | some object =>
      cases hInstance : s.instanceAt object with
      | none =>
          simp only [hInstance]
          exact .inl trivial
      | some m =>
          rcases lookup_of_instanceAt hOwned.toIdentified
              hInstance with
            ⟨hObject, hLookup⟩
          rw [← hObject] at hPointer
          have hListed : s.Listed m := by
            by_contra hNot
            exact hOwned.unlisted hLookup hNot _ _ _ hPointer
          have hFound :
              ∀ m', s.lookup m.mhLocal = some m' → m' = m := by
            intro m' hLookup'
            rw [hLookup] at hLookup'
            exact (Option.some.inj hLookup').symm
          rcases monDestroyMeasure_goes answers hOwned
              (fun m' hLookup' => by
                rw [hFound m' hLookup']
                exact .inr (.inr (.inr hListed))) with
            ⟨s', out, ret, hEq, hSound, hLeaves⟩
          simp only [hInstance, hEq]
          refine .inr ⟨s', out, (), rfl, hSound, ?_⟩
          apply hLeaves.of_target
          intro mh m' hThis hLookup' hUnlisted
          rw [hThis] at hLookup'
          rw [hFound m' hLookup'] at hUnlisted
          exact hUnlisted _ _ _ hPointer

theorem createForPeer_goes
    {s : Monitor σ π}
    (plugins : Plugins π)
    (answers : Answers)
    (src : σ)
    (msg : InitRemoteMeasure)
    (hOwned : Owned s) :
    Goes (createForPeer plugins answers src msg s)
      (Leaves (fun _ => False) s) := by
  have hResponse (mh : MonHandler) (status : Int) :
      ∀ o ∈
          ([responseTo src msg.mhLocal mh
            initRemoteMeasureId status] : List (Output σ)),
        o.Sound := by
    intro o hMem
    rw [List.mem_singleton.mp hMem]
    trivial
  unfold createForPeer monCreateMeasureId
  cases hCreate : createFrom (plugins.byId msg.mid) msg.mc s with
  | error code =>
      exact
        ⟨s, _, (), rfl, hResponse (-1) einval, .refl hOwned⟩
  | ok result =>
      rcases result with ⟨mh, s₁⟩
      rcases created_of_createFrom hCreate with ⟨m, hCreated⟩
      have hLookup : s₁.lookup mh = some m :=
        (hCreated.lookup_eq mh).trans (if_pos rfl)
      rcases insert_leaves hOwned hCreated with
        ⟨hFirst, hUnlisted⟩
      have hNot := not_listed_of_unlisted hUnlisted
      have hSecond :
          Leaves (fun _ => False) s₁
            (s₁.setMeasure mh
              { m with mhRemote := msg.mhLocal }) :=
        setMeasure_leaves hFirst.owned hLookup
          ⟨rfl, rfl, rfl, rfl⟩
          (fun hListed => absurd hListed hNot)
      have hBoth := hFirst.trans hSecond
      -- Nothing was behind the handle of the new measure.
      have hNew {s' : Monitor σ π}
          (hLeaves : Leaves (fun mh₁ => mh₁ = mh) s s') :
          Leaves (fun _ => False) s s' := by
        apply hLeaves.of_target
        intro mh₁ m₁ hThis hFound
        rw [hThis, hCreated.free] at hFound
        cases hFound
      have hLookup₂ :
          (s₁.setMeasure mh
              { m with mhRemote := msg.mhLocal }).lookup mh =
            some { m with mhRemote := msg.mhLocal } :=
        (lookup_setMeasure _ _ _ _).trans (if_pos rfl)
      rcases activateMeasure_goes answers (some src)
          msg.msgType hLookup₂ with
        ⟨s₃, out, ret, hActivate, hSound, hLeaves⟩
      have hThird :=
        hLeaves hSecond.owned
          (fun hListed => absurd hListed hNot)
      rw [Monitor.lookup] at hLookup
      simp only [hLookup]
      cases answers.paramsAccepted with
      | true =>
          simp only [hActivate, if_true]
          exact
            ⟨s₃, _, (), rfl,
              sound_append hSound (hResponse mh _),
              hNew (hBoth.of_none.trans hThird)⟩
      | false =>
          exact
            ⟨_, _, (), rfl, hResponse mh einval, hBoth⟩

theorem initRemoteMeasureRx_goes
    {s : Monitor σ π}
    (plugins : Plugins π)
    (answers : Answers)
    (src : σ)
    (msg : InitRemoteMeasure)
    (hOwned : Owned s) :
    initRemoteMeasureRx plugins answers src msg s =
        .error .deletedMeasure ∨
      Goes (initRemoteMeasureRx plugins answers src msg s)
        (Leaves (fun _ => False) s) := by
  unfold initRemoteMeasureRx
  rcases removePrevious_goes answers src msg hOwned with
    hDeleted | ⟨s₁, out₁, ret₁, hRemove, hSound₁, hFirst⟩
  · rw [hDeleted]
    exact .inl rfl
  · rcases createForPeer_goes plugins answers src msg
        hFirst.owned with
      ⟨s₂, out₂, ret₂, hCreate, hSound₂, hSecond⟩
    simp only [hRemove, hCreate]
    exact
      .inr
        ⟨s₂, out₁ ++ out₂, (), rfl,
          sound_append hSound₁ hSound₂, hFirst.trans hSecond⟩

theorem deinitRemoteMeasureRx_goes
    {s : Monitor σ π}
    {msg : DeInitRemoteMeasure}
    (answers : Answers)
    (src : σ)
    (hOwned : Owned s)
    (hStoppable :
      ∀ m, s.lookup msg.mhRemote = some m → Stoppable s m) :
    Goes (deinitRemoteMeasureRx answers src msg s)
      (Leaves (fun mh => mh = msg.mhRemote) s) := by
  have hResponse (ret : Int) :
      ∀ o ∈
          ([responseTo src msg.mhLocal msg.mhRemote
            deinitRemoteMeasureId ret] : List (Output σ)),
        o.Sound := by
    intro o hMem
    rw [List.mem_singleton.mp hMem]
    trivial
  unfold deinitRemoteMeasureRx
  cases hLookup : s.mMeasureInstances.lookup msg.mhRemote with
  | none => exact ⟨s, [], (), rfl, sound_nil, .refl hOwned⟩
  | some m =>
      rcases deactivateMeasure_goes answers hOwned hLookup
          (hStoppable m hLookup) with
        ⟨s₁, out₁, ret, hEq, hSound₁, hDone⟩
      have hFirst :
          Leaves (fun mh => mh = msg.mhRemote) s s₁ :=
        hDone.leaves.of_none
      simp only [hEq]
      by_cases hRet : ret = eok
      · rcases hDone.measure with
          ⟨m', hLookup', _, hStoppable'⟩
        rcases monDestroyMeasure_goes answers hFirst.owned
            (fun m₁ hLookup₁ => by
              rw [hLookup'] at hLookup₁
              rw [← Option.some.inj hLookup₁]
              exact hStoppable') with
          ⟨s₂, out₂, ret₂, hDestroy, hSound₂, hSecond⟩
        rw [if_neg (fun hNot => hNot hRet), hDestroy]
        exact
          ⟨s₂, _, (), rfl,
            sound_append (sound_append hSound₁ hSound₂)
              (hResponse ret₂),
            hFirst.trans hSecond⟩
      · rw [if_pos hRet]
        exact
          ⟨s₁, _, (), rfl,
            sound_append hSound₁ (hResponse ret), hFirst⟩

end MONL

end NapaBaselibs
