import NapaBaselibs.MONL.ConsistentRuns

/-
  The entry for out-of-band data.

  An out-of-band measure has its data dispatched to the entry
  of its destination for the message type of the monitoring
  layer.  The activation creates that entry, but the measure
  is loaded in another one, so that a stop of the last measure
  loaded there destroys it.

  Key definitions include:
    * `oobDataRx`
    * `Awaited`, `alone`, `KeepsTarget`
    * `Aimed`

  Key theorems include:
    * `alone_iff`
    * `step_aimed`
    * `oob_target_exists`
-/

------------------------------------------------------------
-- Out-Of-Band Data
------------------------------------------------------------

namespace NapaBaselibs

namespace MONL

variable {σ π : Type} [DecidableEq σ]

/-
  `oobDataRx`: the results with which the measure receives the
  data, if it does.
-/
def oobDataRx
    (sid : σ)
    (mhRemote : MonHandler)
    (s : Monitor σ π) :
    Except Fault (Option (ResultLists σ)) :=
  let hDst : SocketIdMt σ := ⟨sid, msgTypeMonl⟩
  match s.mMeasureInstances.lookup mhRemote with
  | none => .ok none
  | some m =>
      if m.status = .running ∧ m.dstSocketid = some sid then
        if m.has data then
          match s.dispatcherList.lookup hDst with
          | none => .error .nullEntry
          | some _ =>
              .ok
                (some
                  { hDst := hDst
                    packets := false
                    remote := m.has remote })
        else if m.has packet then
          match s.dispatcherList.lookup hDst with
          | none => .error .nullEntry
          | some _ =>
              .ok
                (some
                  { hDst := hDst
                    packets := true
                    remote := m.has remote })
        else
          .error .nullResults
      else
        .ok none

/- The entry exists. -/
def Monitor.hasEntry
    (s : Monitor σ π)
    (hDst : SocketIdMt σ) : Bool :=
  (s.dispatcherList.lookup hDst).isSome

------------------------------------------------------------
-- Conditions
------------------------------------------------------------

/- The measure is initialising or running, and out-of-band. -/
def MonMeasure.sounding
    (m : MonMeasure σ π)
    (dst : σ) : Bool :=
  (m.status = .initialising ∨ m.status = .running) &&
    m.has outOfBand && m.dstSocketid = some dst

/- Another out-of-band measure measures the destination. -/
def awaited
    (s : Monitor σ π)
    (mh : MonHandler)
    (dst : σ) : Bool :=
  s.mMeasureInstances.entries.any
    (fun entry => entry.1 ≠ mh && entry.2.sounding dst)

/- No measure is loaded in the entry but in this place. -/
def alone
    (s : Monitor σ π)
    (hDst : SocketIdMt σ)
    (isRemote : Bool)
    (mid : MeasurementId) : Bool :=
  match s.dispatcherList.lookup hDst with
  | none => true
  | some dd =>
      Dict.isEmpty ((dd.mids isRemote).erase mid) &&
        Dict.isEmpty (dd.mids (!isRemote))

/- A stop in this place leaves the entry that others need. -/
def Spares
    (s : Monitor σ π)
    (mh : MonHandler)
    (hDst : SocketIdMt σ)
    (isRemote : Bool)
    (mid : MeasurementId) : Prop :=
  hDst.mt = msgTypeMonl → alone s hDst isRemote mid = true →
    awaited s mh hDst.sid = false

/- The same of a stop of the measure, if it takes place. -/
def StopSpares
    (s : Monitor σ π)
    (mh : MonHandler)
    (m : MonMeasure σ π) : Prop :=
  ∀ hDst, m.hDst = some hDst → s.loadedInPlace m ≠ none →
    Spares s mh hDst (m.has remote) m.id

/- The measure is at work, or its destination has the entry. -/
def HasTarget
    (s : Monitor σ π)
    (m : MonMeasure σ π) : Prop :=
  (m.status = .initialising ∨ m.status = .running) ∨
    ∀ dst, m.dstSocketid = some dst →
      s.hasEntry ⟨dst, msgTypeMonl⟩ = true

/-
  An activation at a place that is taken leaves a measure at
  work with a destination that has the entry; where it fails
  as the peer cannot be asked, its stop spares the entry.
-/
def ActivationSpares
    (s : Monitor σ π)
    (mh : MonHandler)
    (m : MonMeasure σ π)
    (dst : σ)
    (mt : MsgType)
    (answers : Answers) : Prop :=
  let taken :=
    (s.pointer none ⟨dst, mt⟩ (m.has remote) m.id).isSome
  (taken = true →
    m.status = .initialising ∨ m.status = .running →
      m.has outOfBand = true →
        s.hasEntry ⟨dst, msgTypeMonl⟩ = true) ∧
    (taken = false → m.remoteCounterpart = true →
      answers.initSent = false →
        Spares s mh ⟨dst, mt⟩ (m.has remote) m.id)

/-
  A successful response to an out-of-band measure finds it at
  work or with the entry, and a stop by a response spares the
  entry.
-/
def ResponseSpares
    (s : Monitor σ π)
    (m : MonMeasure σ π)
    (response : MeasureResponse)
    (answers : Answers) : Prop :=
  (response.command = initRemoteMeasureId →
    response.status = eok → m.has outOfBand = true →
      answers.scheduled = true → HasTarget s m) ∧
    (response.command = deinitRemoteMeasureId →
      response.status = eok → m.status = .stopping →
        StopSpares s response.mhRemote m)

/- So does a deactivation or a destruction of the measure. -/
def DestructionSpares
    (s : Monitor σ π)
    (mh : MonHandler) : Prop :=
  ∀ m, s.lookup mh = some m → m.status ≠ .stopped →
    m.flags ≠ 0 → StopSpares s mh m

/-
  The measure that a request finds in its place is one whose
  destruction spares the entry.
-/
def RemovalSpares
    (src : σ)
    (msg : InitRemoteMeasure)
    (s : Monitor σ π) : Prop :=
  match (s.dispatcherList.lookup ⟨src, msg.msgType⟩).bind
      (fun dd => findMeasureFromId dd msg.mc msg.mid) with
  | none => True
  | some object =>
      match s.instanceAt object with
      | none => True
      | some m => DestructionSpares s m.mhLocal

/-
  So does the activation of the measure that is created for a
  request, if it is created and takes its parameters.
-/
def CreationSpares
    (plugins : Plugins π)
    (answers : Answers)
    (src : σ)
    (msg : InitRemoteMeasure)
    (s : Monitor σ π) : Prop :=
  match monCreateMeasureId plugins msg.mid msg.mc s with
  | .error _ => True
  | .ok (mh, s') =>
      ∀ m, s'.lookup mh = some m → m.flags ≠ 0 →
        answers.paramsAccepted = true →
          ActivationSpares s' mh m src msg.msgType answers

/-
  The event keeps the entries for out-of-band data.  A request
  of a peer is a destruction and then an activation, each of
  which does so in the state it finds.
-/
def KeepsTarget
    (plugins : Plugins π)
    (s : Monitor σ π) : Event σ → Prop
| .activate mh dst mt answers =>
    ∀ m, s.lookup mh = some m → m.flags ≠ 0 →
      ∀ sid, dst = some sid →
        ActivationSpares s mh m sid mt answers
| .deactivate mh _ => DestructionSpares s mh
| .destroy mh _ => DestructionSpares s mh
| .initRx src msg answers =>
    RemovalSpares src msg s ∧
      match removePrevious answers src msg s with
      | .error _ => True
      | .ok (s', _, _) =>
          CreationSpares plugins answers src msg s'
| .deinitRx _ msg _ => DestructionSpares s msg.mhRemote
| .responseRx response answers =>
    ∀ m, s.lookup response.mhRemote = some m →
      ResponseSpares s m response answers
| _ => True

------------------------------------------------------------
-- Entries
------------------------------------------------------------

theorem awaited_iff
    {s : Monitor σ π}
    {mh : MonHandler}
    {dst : σ} :
    awaited s mh dst = true ↔
      ∃ mh' m, mh' ≠ mh ∧ s.lookup mh' = some m ∧
        m.sounding dst = true := by
  unfold awaited
  rw [List.any_eq_true]
  constructor
  · rintro ⟨⟨mh', m⟩, hMem, hBoth⟩
    simp only [Bool.and_eq_true, decide_eq_true_eq] at hBoth
    exact
      ⟨mh', m, hBoth.1, AList.mem_lookup_iff.mpr hMem,
        hBoth.2⟩
  · rintro ⟨mh', m, hOther, hLookup, hSounding⟩
    refine ⟨⟨mh', m⟩, AList.mem_lookup_iff.mp hLookup, ?_⟩
    simp only [Bool.and_eq_true, decide_eq_true_eq]
    exact ⟨hOther, hSounding⟩

/- Only measures behind other handles count. -/
theorem awaited_eq_of_lookup
    {s s' : Monitor σ π}
    {mh : MonHandler}
    {dst : σ}
    (hLookup :
      ∀ mh₁, mh₁ ≠ mh → s'.lookup mh₁ = s.lookup mh₁) :
    awaited s' mh dst = awaited s mh dst := by
  rw [Bool.eq_iff_iff, awaited_iff, awaited_iff]
  constructor
  · rintro ⟨mh₁, m₁, hOther, hFound, hSounding⟩
    rw [hLookup mh₁ hOther] at hFound
    exact ⟨mh₁, m₁, hOther, hFound, hSounding⟩
  · rintro ⟨mh₁, m₁, hOther, hFound, hSounding⟩
    rw [← hLookup mh₁ hOther] at hFound
    exact ⟨mh₁, m₁, hOther, hFound, hSounding⟩

/- Every pointer to a loaded measure is in the place. -/
theorem alone_iff
    {s : Monitor σ π}
    {hDst : SocketIdMt σ}
    {isRemote : Bool}
    {mid : MeasurementId} :
    alone s hDst isRemote mid = true ↔
      ∀ isRemote' mid',
        s.pointer none hDst isRemote' mid' ≠ none →
          isRemote' = isRemote ∧ mid' = mid := by
  unfold alone Monitor.pointer
  cases hEntry : s.dispatcherList.lookup hDst with
  | none => simp
  | some dd =>
      simp only [Bool.and_eq_true, Dict.isEmpty_iff,
        Dict.lookup_erase_eq, Option.bind_some]
      constructor
      · rintro ⟨hSame, hOther⟩ isRemote' mid' hSome
        by_cases hSide : isRemote' = isRemote
        · refine ⟨hSide, ?_⟩
          by_contra hMid
          apply hSome
          have hHere := hSame mid'
          rw [if_neg hMid] at hHere
          rw [hSide]
          exact hHere
        · have hFlip : isRemote' = !isRemote := by
            cases isRemote with
            | true =>
                cases isRemote' with
                | true => exact absurd rfl hSide
                | false => rfl
            | false =>
                cases isRemote' with
                | true => rfl
                | false => exact absurd rfl hSide
          rw [hFlip] at hSome
          exact absurd (hOther mid') hSome
      · intro hOnly
        refine ⟨?_, ?_⟩
        · intro mid'
          by_cases hMid : mid' = mid
          · rw [if_pos hMid]
          · rw [if_neg hMid]
            by_contra hSome
            exact hMid (hOnly isRemote mid' hSome).2
        · intro mid'
          by_contra hSome
          have hSide := (hOnly (!isRemote) mid' hSome).1
          cases isRemote with
          | true => cases hSide
          | false => cases hSide

/- An entry stays if another measure is loaded there. -/
theorem hasEntry_putOrDestroy
    {s : Monitor σ π}
    {m : MonMeasure σ π}
    {hDst hDst' : SocketIdMt σ}
    {dd : DestinationSocketIdMtData}
    (hEntry : s.dispatcherList.lookup hDst = some dd)
    (hHas : s.hasEntry hDst' = true)
    (hLeft :
      hDst' = hDst →
        alone s hDst (m.has remote) m.id = false) :
    (s.putOrDestroy hDst
        (unloadMeasure m
          (delMeasureFromExecLists m dd))).hasEntry hDst' =
      true := by
  by_cases hKey : hDst' = hDst
  · -- Another pointer of the entry keeps it.
    have hNot : ¬ alone s hDst (m.has remote) m.id = true := by
      rw [hLeft hKey]
      exact Bool.false_ne_true
    rw [alone_iff] at hNot
    rcases not_forall.mp hNot with ⟨isRemote, hNot⟩
    rcases not_forall.mp hNot with ⟨mid, hNot⟩
    rcases Classical.not_imp.mp hNot with ⟨hSome, hOther⟩
    rcases Option.ne_none_iff_exists'.mp hSome with
      ⟨object, hPointer⟩
    have hStays :=
      loaded_of_unload (m := m) hEntry hPointer
        (fun hOwn => hOther ⟨hOwn.2.1, hOwn.2.2.1⟩)
    unfold Monitor.pointer at hStays
    rcases Option.bind_eq_some_iff.mp hStays with
      ⟨dd', hFound, _⟩
    unfold Monitor.hasEntry
    rw [hKey, hFound]
    rfl
  · unfold Monitor.hasEntry Monitor.putOrDestroy at *
    simp only
    split
    · rw [Dict.lookup_erase_eq, if_neg hKey]
      exact hHas
    · rw [Dict.lookup_insert_eq, if_neg hKey]
      exact hHas

/- Entering a measure creates the entry it needs. -/
theorem hasEntry_enter
    {s : Monitor σ π}
    {m : MonMeasure σ π}
    {hDst hDst' : SocketIdMt σ}
    (hHas :
      s.hasEntry hDst' = true ∨
        (m.has outOfBand = true ∧
          hDst' = { hDst with mt := msgTypeMonl })) :
    (s.enter m hDst).hasEntry hDst' = true := by
  have hEnsured :
      ∃ s₂ : Monitor σ π,
        (if m.has outOfBand then
            (s.ensureEntry hDst).ensureEntry
              { hDst with mt := msgTypeMonl }
          else
            s.ensureEntry hDst) = s₂ ∧
          s₂.hasEntry hDst' = true := by
    cases hOob : m.has outOfBand with
    | false =>
        rcases hHas with hHas | ⟨hTrue, _⟩
        · exact
            ⟨_, rfl,
              isSome_lookup_ensureEntry _ _ _ (.inr hHas)⟩
        · rw [hOob] at hTrue
          cases hTrue
    | true =>
        refine ⟨_, rfl, ?_⟩
        apply isSome_lookup_ensureEntry
        rcases hHas with hHas | ⟨_, hEq⟩
        · exact
            .inr
              (isSome_lookup_ensureEntry _ _ _ (.inr hHas))
        · exact .inl hEq
  rcases hEnsured with ⟨s₂, hEq, hHas₂⟩
  unfold Monitor.enter
  simp only [hEq]
  split
  · exact hHas₂
  · unfold Monitor.hasEntry at hHas₂ ⊢
    simp only [Dict.lookup_insert_eq]
    split
    · rfl
    · exact hHas₂

------------------------------------------------------------
-- The Invariant
------------------------------------------------------------

/-
  Every out-of-band measure at work has its entry; handles and
  flags are as they were created.
-/
structure Aimed (s : Monitor σ π) : Prop where
  handles :
    ∀ mh m, s.lookup mh = some m → m.mhLocal = mh
  modes :
    ∀ mh m, s.lookup mh = some m → m.has outOfBand = true →
      m.has packet = true ∨ m.has data = true
  targets :
    ∀ mh m dst, s.lookup mh = some m →
      m.sounding dst = true →
        s.hasEntry ⟨dst, msgTypeMonl⟩ = true

theorem sounding_iff
    {m : MonMeasure σ π}
    {dst : σ} :
    m.sounding dst = true ↔
      m.Active ∧ m.has outOfBand = true ∧
        m.dstSocketid = some dst := by
  unfold MonMeasure.sounding MonMeasure.Active
  simp only [Bool.and_eq_true, decide_eq_true_eq, and_assoc]

namespace Aimed

variable {s s' : Monitor σ π}

/- A measure changes, and has its entry if it is at work. -/
theorem setMeasure
    (hAimed : Aimed s)
    {mh : MonHandler}
    {m m' : MonMeasure σ π}
    (hLookup : s.lookup mh = some m)
    (hSame : SameMeasure m m')
    (hTarget :
      ∀ dst, m'.sounding dst = true →
        s.hasEntry ⟨dst, msgTypeMonl⟩ = true) :
    Aimed (s.setMeasure mh m') := by
  constructor
  · intro mh₁ m₁ hFound
    rcases lookup_setMeasure_cases hFound with
      ⟨hKey, hEq⟩ | ⟨_, hOld⟩
    · rw [hEq, hKey, hSame.mhLocal]
      exact hAimed.handles _ _ hLookup
    · exact hAimed.handles _ _ hOld
  · intro mh₁ m₁ hFound
    rcases lookup_setMeasure_cases hFound with
      ⟨_, hEq⟩ | ⟨_, hOld⟩
    · have hModes := hAimed.modes _ _ hLookup
      unfold MonMeasure.has at hModes ⊢
      rw [hEq, hSame.flags]
      exact hModes
    · exact hAimed.modes _ _ hOld
  · intro mh₁ m₁ dst hFound hSounding
    rcases lookup_setMeasure_cases hFound with
      ⟨_, hEq⟩ | ⟨_, hOld⟩
    · rw [hEq] at hSounding
      exact hTarget dst hSounding
    · exact hAimed.targets _ _ dst hOld hSounding

/- The same measures, and the entries that they need. -/
theorem of_entries
    (hAimed : Aimed s)
    (hLookup : ∀ mh, s'.lookup mh = s.lookup mh)
    (hEntries :
      ∀ mh m dst, s.lookup mh = some m →
        m.sounding dst = true →
          s.hasEntry ⟨dst, msgTypeMonl⟩ = true →
            s'.hasEntry ⟨dst, msgTypeMonl⟩ = true) :
    Aimed s' := by
  constructor
  · intro mh m hFound
    rw [hLookup] at hFound
    exact hAimed.handles _ _ hFound
  · intro mh m hFound
    rw [hLookup] at hFound
    exact hAimed.modes _ _ hFound
  · intro mh m dst hFound hSounding
    rw [hLookup] at hFound
    exact
      hEntries mh m dst hFound hSounding
        (hAimed.targets _ _ dst hFound hSounding)

theorem erase
    (hAimed : Aimed s)
    (mh : MonHandler) :
    Aimed
      { s with
        mMeasureInstances := s.mMeasureInstances.erase mh } := by
  have hBefore :
      ∀ mh₁ m₁,
        (s.mMeasureInstances.erase mh).lookup mh₁ = some m₁ →
          s.lookup mh₁ = some m₁ := by
    intro mh₁ m₁ hFound
    rw [Dict.lookup_erase_eq] at hFound
    split at hFound
    · cases hFound
    · exact hFound
  constructor
  · intro mh₁ m₁ hFound
    exact hAimed.handles _ _ (hBefore _ _ hFound)
  · intro mh₁ m₁ hFound
    exact hAimed.modes _ _ (hBefore _ _ hFound)
  · intro mh₁ m₁ dst hFound
    exact hAimed.targets _ _ dst (hBefore _ _ hFound)

/- A stop that spares the entry. -/
theorem stop
    (hAimed : Aimed s)
    {mh : MonHandler}
    {m : MonMeasure σ π}
    {out : List (Output σ)}
    (hLookup : s.lookup mh = some m)
    (hSpares : StopSpares s mh m)
    (hStop : stopMeasure mh m s = .ok (s', out, ())) :
    Aimed s' ∧ s'.lookup mh = some m.afterStop ∧
      s'.loadedInPlace m.afterStop = none := by
  rcases stopMeasure_cases hStop with
    ⟨hDst, dd, hKey, hEntry, hLoaded, hEq⟩
  have hIdle : ∀ dst, m.afterStop.sounding dst ≠ true := by
    intro dst hSounding
    have hActive := (sounding_iff.mp hSounding).1
    unfold MonMeasure.Active MonMeasure.afterStop at hActive
    cases hCounterpart : m.remoteCounterpart with
    | true => simp [hCounterpart] at hActive
    | false => simp [hCounterpart] at hActive
  have hChanged : Aimed (s.setMeasure mh m.afterStop) :=
    hAimed.setMeasure hLookup ⟨rfl, rfl, rfl, rfl⟩
      (fun dst hSounding => absurd hSounding (hIdle dst))
  rw [hEq]
  refine
    ⟨?_, (lookup_setMeasure s mh mh _).trans (if_pos rfl),
      free_of_unload mh hKey hEntry⟩
  apply hChanged.of_entries
  · intro mh₁
    rfl
  · intro mh₁ m₁ dst hFound hSounding hHas
    apply
      hasEntry_putOrDestroy
        (s := s.setMeasure mh m.afterStop) hEntry hHas
    intro hDstEq
    -- The measure at work is another one, so it is awaited.
    have hAwaited : awaited s mh hDst.sid = true := by
      rcases lookup_setMeasure_cases hFound with
        ⟨_, hSame⟩ | ⟨hOther, hOld⟩
      · rw [hSame] at hSounding
        exact absurd hSounding (hIdle dst)
      · rw [← hDstEq]
        exact
          awaited_iff.mpr ⟨mh₁, m₁, hOther, hOld, hSounding⟩
    have hNot :
        alone s hDst (m.has remote) m.id ≠ true := by
      intro hAlone
      have hNone :=
        hSpares hDst hKey hLoaded (by rw [← hDstEq]) hAlone
      rw [hAwaited] at hNone
      cases hNone
    exact Bool.eq_false_iff.mpr hNot

/- A deactivation leaves nothing for a destruction to stop. -/
theorem deactivate
    (hAimed : Aimed s)
    {mh : MonHandler}
    {m : MonMeasure σ π}
    {answers : Answers}
    {out : List (Output σ)}
    {ret : Int}
    (hLookup : s.lookup mh = some m)
    (hSpares : DestructionSpares s mh)
    (hDone :
      deactivateMeasure answers mh m s = .ok (s', out, ret)) :
    Aimed s' ∧ DestructionSpares s' mh := by
  rcases deactivateMeasure_cases hDone with
    hEq | hEq | ⟨hStopped, hFlags, hStop⟩
  · rw [hEq]
    exact ⟨hAimed, hSpares⟩
  · rw [hEq]
    constructor
    · apply hAimed.setMeasure hLookup
      · exact ⟨rfl, rfl, rfl, rfl⟩
      · intro dst hSounding
        have hActive := (sounding_iff.mp hSounding).1
        unfold MonMeasure.Active at hActive
        simp at hActive
    · intro n hNow hNotStopped
      rw [lookup_setMeasure, if_pos rfl] at hNow
      rw [← Option.some.inj hNow] at hNotStopped
      exact absurd rfl hNotStopped
  · rcases hAimed.stop hLookup
        (hSpares m hLookup hStopped hFlags) hStop with
      ⟨hAimed', hLookup', hFree⟩
    refine ⟨hAimed', ?_⟩
    intro n hNow _ _ hDst _ hLoaded
    rw [hLookup'] at hNow
    rw [← Option.some.inj hNow] at hLoaded
    exact absurd hFree hLoaded

theorem destroy
    (hAimed : Aimed s)
    {mh : MonHandler}
    {answers : Answers}
    {out : List (Output σ)}
    {ret : Int}
    (hSpares : DestructionSpares s mh)
    (hDone :
      monDestroyMeasure answers mh s = .ok (s', out, ret)) :
    Aimed s' := by
  unfold monDestroyMeasure at hDone
  split at hDone
  · rw [← (Prod.mk.inj (Except.ok.inj hDone)).1]
    exact hAimed
  · rename_i m hLookup
    split at hDone
    · cases hDone
    · rename_i s₁ out₁ ret₁ hDeactivate
      rw [← (Prod.mk.inj (Except.ok.inj hDone)).1]
      exact
        (hAimed.deactivate hLookup hSpares hDeactivate).1.erase
          mh

end Aimed

------------------------------------------------------------
-- Creation
------------------------------------------------------------

/- A bit that a larger set lacks, a smaller one lacks too. -/
theorem and_eq_zero_of_or
    {f x bit : Capabilities}
    (hZero : (f ||| x) &&& bit = 0) :
    f &&& bit = 0 := by
  have hSplit :
      (f ||| x) &&& bit = (f &&& bit) ||| (x &&& bit) := by
    ext i hi
    simp only [BitVec.getElem_and, BitVec.getElem_or,
      Bool.and_or_distrib_right]
  rw [hSplit] at hZero
  exact (BitVec.or_eq_zero_iff.mp hZero).1

/- What is out-of-band works on packets or on data. -/
theorem modes_of_setFlags
    {caps f flags flags' : Capabilities}
    (hAsked : flags = f ∨ flags = f ||| rxLoc)
    (hSet : setFlags caps flags f = .ok flags')
    (hOob : hasFlag flags' outOfBand = true) :
    hasFlag flags' packet = true ∨
      hasFlag flags' data = true := by
  by_contra hNeither
  rw [not_or, Bool.not_eq_true, Bool.not_eq_true] at hNeither
  unfold hasFlag at hNeither hOob
  rw [bne_eq_false_iff_eq, bne_eq_false_iff_eq] at hNeither
  have hAskedToo (bit : Capabilities) :
      flags &&& bit = 0 → f &&& bit = 0 := by
    intro hZero
    rcases hAsked with rfl | rfl
    · exact hZero
    · exact and_eq_zero_of_or hZero
  unfold setFlags at hSet
  split at hSet
  · rename_i hBoth
    rw [← Except.ok.inj hSet] at hOob
    rcases hAsked with hSame | hMore
    · rw [hSame, hBoth.2] at hOob
      exact absurd hOob (by decide)
    · rw [hMore, hBoth.2] at hOob
      exact absurd hOob (by decide)
  · split at hSet
    · cases hSet
    · split at hSet
      · cases hSet
      · rename_i hMode
        apply hMode
        have hBits : flags &&& packet = 0 ∧ flags &&& data = 0 := by
          split at hSet
          · rw [← Except.ok.inj hSet] at hNeither
            exact
              ⟨and_eq_zero_of_or hNeither.1,
                and_eq_zero_of_or hNeither.2⟩
          · split at hSet
            · cases hSet
            · rw [Except.ok.inj hSet]
              exact hNeither
        rw [hAskedToo _ hBits.1, hAskedToo _ hBits.2]
        decide

namespace Aimed

variable {s s' : Monitor σ π}

theorem created
    (hAimed : Aimed s)
    (plugin : Option (MeasurePlugin π))
    (mc : Capabilities) :
    Aimed (created s (createFrom plugin mc s)) := by
  unfold MONL.created createFrom
  cases plugin with
  | none => exact hAimed
  | some mp =>
      simp only
      split
      · exact hAimed
      · rename_i hCreate
        split at hCreate
        · cases hCreate
        · rename_i flags hSet
          unfold insertNewInstance at hCreate
          simp only at hCreate
          split at hCreate
          · cases hCreate
          · rw [← (Prod.mk.inj (Except.ok.inj hCreate)).2]
            have hCases {mh₁ : MonHandler}
                {m₁ m : MonMeasure σ π}
                (hFound :
                  (s.mMeasureInstances.insert
                      s.nextMeasureHandler m).lookup mh₁ =
                    some m₁) :
                (mh₁ = s.nextMeasureHandler ∧ m₁ = m) ∨
                  s.lookup mh₁ = some m₁ := by
              rw [Dict.lookup_insert_eq] at hFound
              split at hFound
              · rename_i hKey
                exact
                  .inl ⟨hKey, (Option.some.inj hFound).symm⟩
              · exact .inr hFound
            constructor
            · intro mh₁ m₁ hFound
              rcases hCases hFound with ⟨hKey, hEq⟩ | hOld
              · rw [hEq, hKey]
              · exact hAimed.handles _ _ hOld
            · intro mh₁ m₁ hFound
              rcases hCases hFound with ⟨_, hEq⟩ | hOld
              · rw [hEq]
                exact
                  modes_of_setFlags
                    (createMeasure_flags mp _ _) hSet
              · exact hAimed.modes _ _ hOld
            · intro mh₁ m₁ dst hFound hSounding
              rcases hCases hFound with ⟨_, hEq⟩ | hOld
              · rw [hEq] at hSounding
                have hActive := (sounding_iff.mp hSounding).1
                unfold MonMeasure.Active createMeasure
                  at hActive
                simp at hActive
              · exact hAimed.targets _ _ dst hOld hSounding

end Aimed

------------------------------------------------------------
-- Activation
------------------------------------------------------------

namespace Aimed

variable {s s' : Monitor σ π}

/- A measure that is entered has its entry. -/
theorem enter
    (hAimed : Aimed s)
    {mh : MonHandler}
    {m m' : MonMeasure σ π}
    {dst : σ}
    {mt : MsgType}
    (hLookup : s.lookup mh = some m)
    (hSame : SameMeasure m m')
    (hDst : m'.dstSocketid = some dst) :
    Aimed ((s.setMeasure mh m').enter m' ⟨dst, mt⟩) := by
  constructor
  · intro mh₁ m₁ hFound
    rw [lookup_enter] at hFound
    rcases lookup_setMeasure_cases hFound with
      ⟨hKey, hEq⟩ | ⟨_, hOld⟩
    · rw [hEq, hKey, hSame.mhLocal]
      exact hAimed.handles _ _ hLookup
    · exact hAimed.handles _ _ hOld
  · intro mh₁ m₁ hFound
    rw [lookup_enter] at hFound
    rcases lookup_setMeasure_cases hFound with
      ⟨_, hEq⟩ | ⟨_, hOld⟩
    · have hModes := hAimed.modes _ _ hLookup
      unfold MonMeasure.has at hModes ⊢
      rw [hEq, hSame.flags]
      exact hModes
    · exact hAimed.modes _ _ hOld
  · intro mh₁ m₁ dst₁ hFound hSounding
    rw [lookup_enter] at hFound
    apply hasEntry_enter
    rcases lookup_setMeasure_cases hFound with
      ⟨_, hEq⟩ | ⟨_, hOld⟩
    · rw [hEq] at hSounding
      rcases sounding_iff.mp hSounding with ⟨_, hOob, hHere⟩
      rw [hDst] at hHere
      refine .inr ⟨hOob, ?_⟩
      rw [Option.some.inj hHere]
    · exact .inl (hAimed.targets _ _ dst₁ hOld hSounding)

/- Before a stop that undoes an entering nothing was there. -/
theorem spares_of_enter
    {mh : MonHandler}
    {m : MonMeasure σ π}
    {dst : σ}
    {mt : MsgType}
    (hSpares :
      Spares s mh ⟨dst, mt⟩ (m.has remote) m.id)
    (hDst : m.hDst = some ⟨dst, mt⟩) :
    StopSpares ((s.setMeasure mh m).enter m ⟨dst, mt⟩) mh
      m := by
  intro hDst' hKey _ hMonl hAlone
  rw [hDst] at hKey
  rw [← Option.some.inj hKey] at hMonl hAlone ⊢
  have hAloneBefore :
      alone s ⟨dst, mt⟩ (m.has remote) m.id = true := by
    rw [alone_iff] at hAlone ⊢
    intro isRemote mid hSome
    apply hAlone
    rw [pointer_enter]
    split
    · exact Option.some_ne_none m.object
    · exact hSome
  have hSame :
      awaited ((s.setMeasure mh m).enter m ⟨dst, mt⟩) mh
          dst =
        awaited s mh dst := by
    apply awaited_eq_of_lookup
    intro mh₁ hOther
    rw [lookup_enter, lookup_setMeasure, if_neg hOther]
  rw [hSame]
  exact hSpares hMonl hAloneBefore

theorem activateAt
    (hAimed : Aimed s)
    {mh : MonHandler}
    {m₀ m : MonMeasure σ π}
    {answers : Answers}
    {dst : σ}
    {mt : MsgType}
    {out : List (Output σ)}
    {ret : Int}
    (hLookup : s.lookup mh = some m₀)
    (hSame : SameMeasure m₀ m)
    (hDst : m.dstSocketid = some dst)
    (hMt : m.msgType = mt)
    (hSpares : ActivationSpares s mh m dst mt answers)
    (hDone :
      activateAt answers mh m dst mt s = .ok (s', out, ret)) :
    Aimed s' := by
  have hPlace :
      (s.dispatcherList.lookup ⟨dst, mt⟩).bind (loadedAs m) =
        s.pointer none ⟨dst, mt⟩ (m.has remote) m.id := rfl
  have hKey (status : MeasurementStatus) :
      ({ m with
          results := some (resultListsOf m ⟨dst, mt⟩)
          status := status } : MonMeasure σ π).hDst =
        some ⟨dst, mt⟩ :=
    hDst_eq_some_iff.mpr ⟨hDst, hMt⟩
  have hEntered (status : MeasurementStatus) :
      Aimed
        ((s.setMeasure mh
            { m with
              results := some (resultListsOf m ⟨dst, mt⟩)
              status := status }).enter
          { m with
            results := some (resultListsOf m ⟨dst, mt⟩)
            status := status }
          ⟨dst, mt⟩) :=
    hAimed.enter hLookup
      ⟨hSame.object, hSame.flags, hSame.measurePlugin,
        hSame.mhLocal⟩
      hDst
  unfold ActivationSpares at hSpares
  unfold MONL.activateAt at hDone
  simp only [hPlace] at hDone
  by_cases hTaken :
      (s.pointer none ⟨dst, mt⟩ (m.has remote)
        m.id).isSome = true
  · rw [if_pos hTaken] at hDone
    rw [← (Prod.mk.inj (Except.ok.inj hDone)).1]
    apply hAimed.setMeasure hLookup hSame
    intro dst₁ hSounding
    rcases sounding_iff.mp hSounding with
      ⟨hActive, hOob, hHere⟩
    rw [hDst] at hHere
    rw [← Option.some.inj hHere]
    exact hSpares.1 hTaken hActive hOob
  · rw [if_neg hTaken] at hDone
    split at hDone
    · rename_i hCounterpart
      split at hDone
      · rw [← (Prod.mk.inj (Except.ok.inj hDone)).1]
        exact hEntered .initialising
      · rename_i hNotSent
        split at hDone
        · cases hDone
        · rename_i s₁ out₁ _ hStop
          rw [← (Prod.mk.inj (Except.ok.inj hDone)).1]
          refine
            ((hEntered .initialising).stop ?_ ?_ hStop).1
          · rw [lookup_enter, lookup_setMeasure, if_pos rfl]
          · apply spares_of_enter
            · exact
                hSpares.2 (Bool.eq_false_iff.mpr hTaken)
                  hCounterpart
                  (Bool.eq_false_iff.mpr hNotSent)
            · exact hKey .initialising
    · rw [← (Prod.mk.inj (Except.ok.inj hDone)).1]
      exact hEntered .running

theorem activate
    (hAimed : Aimed s)
    {mh : MonHandler}
    {m : MonMeasure σ π}
    {answers : Answers}
    {dst : Option σ}
    {mt : MsgType}
    {out : List (Output σ)}
    {ret : Int}
    (hLookup : s.lookup mh = some m)
    (hSpares :
      m.flags ≠ 0 → ∀ sid, dst = some sid →
        ActivationSpares s mh m sid mt answers)
    (hDone :
      activateMeasure answers mh m dst mt s =
        .ok (s', out, ret)) :
    Aimed s' := by
  unfold activateMeasure at hDone
  split at hDone
  · rw [← (Prod.mk.inj (Except.ok.inj hDone)).1]
    apply hAimed.setMeasure hLookup
    · exact ⟨rfl, rfl, rfl, rfl⟩
    · intro dst₁ hSounding
      exact hAimed.targets mh m dst₁ hLookup hSounding
  · rename_i hNowhere
    simp only at hDone
    split at hDone
    · rename_i hFlags
      rw [← (Prod.mk.inj (Except.ok.inj hDone)).1]
      apply hAimed.setMeasure hLookup
      · exact ⟨rfl, rfl, rfl, rfl⟩
      · intro dst₁ hSounding
        have hOob := (sounding_iff.mp hSounding).2.1
        unfold MonMeasure.has hasFlag MonMeasure.directed
          at hOob
        simp [hFlags] at hOob
    · rename_i hFlags
      cases dst with
      | none => exact absurd ⟨rfl, hFlags⟩ hNowhere
      | some sid =>
          apply hAimed.activateAt hLookup _ rfl rfl _ hDone
          · exact ⟨rfl, rfl, rfl, rfl⟩
          · exact hSpares hFlags sid rfl

end Aimed

------------------------------------------------------------
-- Responses
------------------------------------------------------------

namespace Aimed

variable {s s' : Monitor σ π}

/- What is out of its list is deleted without a stop. -/
theorem destroy_stopped
    (hAimed : Aimed s)
    {mh : MonHandler}
    {m : MonMeasure σ π}
    {answers : Answers}
    {out : List (Output σ)}
    {ret : Int}
    (hLookup : s.lookup mh = some m)
    (hFree : s.loadedInPlace m = none)
    (hDone :
      monDestroyMeasure answers mh s = .ok (s', out, ret)) :
    Aimed s' := by
  apply hAimed.destroy _ hDone
  intro n hNow _ _ hDst _ hLoaded
  rw [hLookup] at hNow
  rw [← Option.some.inj hNow] at hLoaded
  exact absurd hFree hLoaded

theorem respond
    (hAimed : Aimed s)
    {response : MeasureResponse}
    {answers : Answers}
    {out : List (Output σ)}
    (hSpares :
      ∀ m, s.lookup response.mhRemote = some m →
        ResponseSpares s m response answers)
    (hDone :
      remoteMeasureResponseRx answers response s =
        .ok (s', out, ())) :
    Aimed s' := by
  unfold remoteMeasureResponseRx at hDone
  split at hDone
  · rw [← (Prod.mk.inj (Except.ok.inj hDone)).1]
    exact hAimed
  · rename_i m hLookup
    rcases hSpares m hLookup with ⟨hInit, hDeinit⟩
    split at hDone
    · rename_i hIsInit
      rw [← (Prod.mk.inj (Except.ok.inj hDone)).1]
      apply hAimed.setMeasure hLookup
      · exact ⟨rfl, rfl, rfl, rfl⟩
      · intro dst hSounding
        rcases sounding_iff.mp hSounding with
          ⟨hActive, hOob, hDst⟩
        unfold MonMeasure.Active initResponded at hActive
        by_cases hStatus : response.status = eok
        · by_cases hScheduled : answers.scheduled = true
          · rcases hInit hIsInit hStatus hOob hScheduled with
              hWorks | hHas
            · exact
                hAimed.targets _ _ dst hLookup
                  (sounding_iff.mpr ⟨hWorks, hOob, hDst⟩)
            · exact hHas dst hDst
          · have hHas : m.has outOfBand = true := hOob
            simp [hStatus, hHas,
              Bool.eq_false_iff.mpr hScheduled] at hActive
        · simp [hStatus] at hActive
    · split at hDone
      · rename_i hIsDeinit
        split at hDone
        · rename_i hStatus
          split at hDone
          · rename_i hStopping
            split at hDone
            · cases hDone
            · rename_i s₁ out₁ _ hStop
              split at hDone
              · cases hDone
              · rename_i s₂ out₂ ret hDestroy
                rw [← (Prod.mk.inj (Except.ok.inj hDone)).1]
                rcases hAimed.stop hLookup
                    (hDeinit hIsDeinit hStatus hStopping)
                    hStop with
                  ⟨hAimed₁, hLookup₁, hFree⟩
                rw [hAimed.handles _ _ hLookup] at hDestroy
                exact
                  hAimed₁.destroy_stopped hLookup₁ hFree
                    hDestroy
          · rw [← (Prod.mk.inj (Except.ok.inj hDone)).1]
            apply hAimed.setMeasure hLookup
            · exact ⟨rfl, rfl, rfl, rfl⟩
            · intro dst hSounding
              have hActive := (sounding_iff.mp hSounding).1
              unfold MonMeasure.Active at hActive
              simp at hActive
        · rw [← (Prod.mk.inj (Except.ok.inj hDone)).1]
          apply hAimed.setMeasure hLookup
          · exact ⟨rfl, rfl, rfl, rfl⟩
          · intro dst hSounding
            have hActive := (sounding_iff.mp hSounding).1
            unfold MonMeasure.Active at hActive
            simp at hActive
      · rw [← (Prod.mk.inj (Except.ok.inj hDone)).1]
        exact hAimed

end Aimed

------------------------------------------------------------
-- Requests
------------------------------------------------------------

/- The measure that is stopped does not count among others. -/
theorem Spares.setMeasure
    {s : Monitor σ π}
    {mh : MonHandler}
    {m : MonMeasure σ π}
    {hDst : SocketIdMt σ}
    {isRemote : Bool}
    {mid : MeasurementId}
    (hSpares : Spares s mh hDst isRemote mid) :
    Spares (s.setMeasure mh m) mh hDst isRemote mid := by
  intro hMonl hAlone
  have hSame :
      awaited (s.setMeasure mh m) mh hDst.sid =
        awaited s mh hDst.sid := by
    apply awaited_eq_of_lookup
    intro mh₁ hOther
    rw [lookup_setMeasure, if_neg hOther]
  rw [hSame]
  exact hSpares hMonl hAlone

/- The handle at the peer does not matter. -/
theorem ActivationSpares.setMeasure
    {s : Monitor σ π}
    {mh mhRemote : MonHandler}
    {m : MonMeasure σ π}
    {dst : σ}
    {mt : MsgType}
    {answers : Answers}
    (hSpares : ActivationSpares s mh m dst mt answers) :
    ActivationSpares
      (s.setMeasure mh { m with mhRemote := mhRemote }) mh
      { m with mhRemote := mhRemote } dst mt answers := by
  constructor
  · exact hSpares.1
  · intro hFree hCounterpart hNotSent
    exact (hSpares.2 hFree hCounterpart hNotSent).setMeasure

namespace Aimed

variable {s s' : Monitor σ π}

theorem removePrevious
    (hAimed : Aimed s)
    {answers : Answers}
    {src : σ}
    {msg : InitRemoteMeasure}
    {out : List (Output σ)}
    (hSpares : RemovalSpares src msg s)
    (hDone :
      removePrevious answers src msg s = .ok (s', out, ())) :
    Aimed s' := by
  unfold RemovalSpares at hSpares
  unfold MONL.removePrevious at hDone
  split at hDone
  · rw [← (Prod.mk.inj (Except.ok.inj hDone)).1]
    exact hAimed
  · rename_i object hFind
    simp only [hFind] at hSpares
    split at hDone
    · cases hDone
    · rename_i m hAt
      simp only [hAt] at hSpares
      split at hDone
      · cases hDone
      · rename_i s₁ out₁ ret₁ hDestroy
        rw [← (Prod.mk.inj (Except.ok.inj hDone)).1]
        exact hAimed.destroy hSpares hDestroy

theorem createForPeer
    (hAimed : Aimed s)
    {plugins : Plugins π}
    {answers : Answers}
    {src : σ}
    {msg : InitRemoteMeasure}
    {out : List (Output σ)}
    (hSpares : CreationSpares plugins answers src msg s)
    (hDone :
      createForPeer plugins answers src msg s =
        .ok (s', out, ())) :
    Aimed s' := by
  have hCreated :=
    hAimed.created (plugins.byId msg.mid) msg.mc
  unfold CreationSpares at hSpares
  unfold MONL.createForPeer at hDone
  unfold monCreateMeasureId at hSpares hDone
  split at hDone
  · rw [← (Prod.mk.inj (Except.ok.inj hDone)).1]
    exact hAimed
  · rename_i mh s₁ hCreate
    simp only [hCreate] at hSpares
    rw [hCreate] at hCreated
    split at hDone
    · rw [← (Prod.mk.inj (Except.ok.inj hDone)).1]
      exact hCreated
    · rename_i m hLookup
      have hNamed :
          Aimed
            (s₁.setMeasure mh
              { m with mhRemote := msg.mhLocal }) := by
        apply Aimed.setMeasure hCreated hLookup
        · exact ⟨rfl, rfl, rfl, rfl⟩
        · intro dst hSounding
          exact hCreated.targets mh m dst hLookup hSounding
      simp only at hDone
      split at hDone
      · rename_i hAccepted
        split at hDone
        · cases hDone
        · rename_i s₂ out₂ ret hActivate
          rw [← (Prod.mk.inj (Except.ok.inj hDone)).1]
          apply hNamed.activate _ _ hActivate
          · exact
              (lookup_setMeasure s₁ mh mh _).trans
                (if_pos rfl)
          · rintro hFlags sid ⟨⟩
            exact
              (hSpares m hLookup hFlags
                hAccepted).setMeasure
      · rw [← (Prod.mk.inj (Except.ok.inj hDone)).1]
        exact hNamed

theorem deinitRemoteMeasureRx
    (hAimed : Aimed s)
    {answers : Answers}
    {src : σ}
    {msg : DeInitRemoteMeasure}
    {out : List (Output σ)}
    (hSpares : DestructionSpares s msg.mhRemote)
    (hDone :
      deinitRemoteMeasureRx answers src msg s =
        .ok (s', out, ())) :
    Aimed s' := by
  unfold MONL.deinitRemoteMeasureRx at hDone
  split at hDone
  · rw [← (Prod.mk.inj (Except.ok.inj hDone)).1]
    exact hAimed
  · rename_i m hLookup
    split at hDone
    · cases hDone
    · rename_i s₁ out₁ ret₁ hDeactivate
      rcases hAimed.deactivate hLookup hSpares hDeactivate with
        ⟨hAimed₁, hSpares₁⟩
      split at hDone
      · rw [← (Prod.mk.inj (Except.ok.inj hDone)).1]
        exact hAimed₁
      · split at hDone
        · cases hDone
        · rename_i s₂ out₂ ret₂ hDestroy
          rw [← (Prod.mk.inj (Except.ok.inj hDone)).1]
          exact hAimed₁.destroy hSpares₁ hDestroy

end Aimed

------------------------------------------------------------
-- Steps
------------------------------------------------------------

omit [DecidableEq σ] in
theorem withoutValue_cases
    {α : Type}
    {outcome : Outcome σ π α}
    {s' : Monitor σ π}
    {out : List (Output σ)}
    (hDone : withoutValue outcome = .ok (s', out)) :
    ∃ ret, outcome = .ok (s', out, ret) := by
  cases outcome with
  | error fault => cases hDone
  | ok result =>
      have hPair := Prod.mk.inj (Except.ok.inj hDone)
      refine ⟨result.2.2, ?_⟩
      rw [← hPair.1, ← hPair.2]

/- What one step does to the entries for out-of-band data. -/
theorem step_aimed
    {s s' : Monitor σ π}
    {e : Event σ}
    {outputs : List (Output σ)}
    (plugins : Plugins π)
    (hStep : Step plugins s e outputs s')
    (hKeeps : KeepsTarget plugins s e)
    (hAimed : Aimed s) :
    Aimed s' := by
  unfold Step step at hStep
  cases e with
  | createId id mc =>
      rw [← (Prod.mk.inj (Except.ok.inj hStep)).1]
      exact hAimed.created _ _
  | createName name mc =>
      rw [← (Prod.mk.inj (Except.ok.inj hStep)).1]
      exact hAimed.created _ _
  | activate mh dst mt answers =>
      rcases withoutValue_cases hStep with ⟨ret, hDone⟩
      unfold monActivateMeasure at hDone
      split at hDone
      · rw [← (Prod.mk.inj (Except.ok.inj hDone)).1]
        exact hAimed
      · rename_i m hLookup
        exact hAimed.activate hLookup (hKeeps m hLookup) hDone
  | deactivate mh answers =>
      rcases withoutValue_cases hStep with ⟨ret, hDone⟩
      unfold monDeactivateMeasure at hDone
      split at hDone
      · rw [← (Prod.mk.inj (Except.ok.inj hDone)).1]
        exact hAimed
      · rename_i m hLookup
        exact (hAimed.deactivate hLookup hKeeps hDone).1
  | destroy mh answers =>
      rcases withoutValue_cases hStep with ⟨ret, hDone⟩
      exact hAimed.destroy hKeeps hDone
  | initRx src msg answers =>
      rcases withoutValue_cases hStep with ⟨ret, hDone⟩
      rcases hKeeps with ⟨hRemoval, hCreation⟩
      unfold initRemoteMeasureRx at hDone
      split at hDone
      · cases hDone
      · rename_i s₁ out₁ _ hRemove
        simp only [hRemove] at hCreation
        split at hDone
        · cases hDone
        · rename_i s₂ out₂ _ hCreate
          rw [← (Prod.mk.inj (Except.ok.inj hDone)).1]
          exact
            (hAimed.removePrevious hRemoval
              hRemove).createForPeer hCreation hCreate
  | deinitRx src msg answers =>
      rcases withoutValue_cases hStep with ⟨ret, hDone⟩
      exact hAimed.deinitRemoteMeasureRx hKeeps hDone
  | responseRx response answers =>
      rcases withoutValue_cases hStep with ⟨ret, hDone⟩
      exact hAimed.respond hKeeps hDone

theorem aimed_initial :
    Aimed (Monitor.initial : Monitor σ π) := by
  have hLookup (mh) :
      (Monitor.initial : Monitor σ π).lookup mh = none :=
    Dict.lookup_empty mh
  constructor
  · intro mh m hSome
    rw [hLookup] at hSome
    cases hSome
  · intro mh m hSome
    rw [hLookup] at hSome
    cases hSome
  · intro mh m dst hSome
    rw [hLookup] at hSome
    cases hSome

------------------------------------------------------------
-- Two Measures Of One Peer
------------------------------------------------------------

instance
    (s : Monitor σ π)
    (mh : MonHandler)
    (hDst : SocketIdMt σ)
    (isRemote : Bool)
    (mid : MeasurementId) :
    Decidable (Spares s mh hDst isRemote mid) :=
  inferInstanceAs (Decidable (_ → _ → _))

instance
    (s : Monitor σ π)
    (mh : MonHandler)
    (m : MonMeasure σ π) : Decidable (StopSpares s mh m) :=
  inferInstanceAs
    (Decidable
      (∀ hDst ∈ m.hDst, s.loadedInPlace m ≠ none →
        Spares s mh hDst (m.has remote) m.id))

instance
    (s : Monitor σ π)
    (m : MonMeasure σ π) : Decidable (HasTarget s m) :=
  inferInstanceAs
    (Decidable
      (_ ∨ ∀ dst ∈ m.dstSocketid,
        s.hasEntry ⟨dst, msgTypeMonl⟩ = true))

instance
    (s : Monitor σ π)
    (mh : MonHandler)
    (m : MonMeasure σ π)
    (dst : σ)
    (mt : MsgType)
    (answers : Answers) :
    Decidable (ActivationSpares s mh m dst mt answers) :=
  inferInstanceAs
    (Decidable ((_ = true → _ → _ → _) ∧ (_ → _ → _ → _)))

instance
    (s : Monitor σ π)
    (m : MonMeasure σ π)
    (response : MeasureResponse)
    (answers : Answers) :
    Decidable (ResponseSpares s m response answers) :=
  inferInstanceAs
    (Decidable ((_ → _ → _ → _ → _) ∧ (_ → _ → _ → _)))

instance
    (s : Monitor σ π)
    (mh : MonHandler) : Decidable (DestructionSpares s mh) :=
  inferInstanceAs
    (Decidable
      (∀ m ∈ s.lookup mh, m.status ≠ .stopped →
        m.flags ≠ 0 → StopSpares s mh m))

instance
    (src : σ)
    (msg : InitRemoteMeasure)
    (s : Monitor σ π) : Decidable (RemovalSpares src msg s) :=
  match hFind : (s.dispatcherList.lookup ⟨src, msg.msgType⟩).bind
      (fun dd => findMeasureFromId dd msg.mc msg.mid) with
  | none => .isTrue (by simp [RemovalSpares, hFind])
  | some object =>
      match hAt : s.instanceAt object with
      | none => .isTrue (by simp [RemovalSpares, hFind, hAt])
      | some m =>
          decidable_of_iff (DestructionSpares s m.mhLocal)
            (by simp [RemovalSpares, hFind, hAt])

instance
    (plugins : Plugins π)
    (answers : Answers)
    (src : σ)
    (msg : InitRemoteMeasure)
    (s : Monitor σ π) :
    Decidable (CreationSpares plugins answers src msg s) :=
  match hCreate : monCreateMeasureId plugins msg.mid msg.mc s with
  | .error _ => .isTrue (by simp [CreationSpares, hCreate])
  | .ok (mh, s') =>
      decidable_of_iff
        (∀ m ∈ s'.lookup mh, m.flags ≠ 0 →
          answers.paramsAccepted = true →
            ActivationSpares s' mh m src msg.msgType answers)
        (by simp [CreationSpares, hCreate])

instance
    (plugins : Plugins π)
    (s : Monitor σ π)
    (e : Event σ) : Decidable (KeepsTarget plugins s e) :=
  match e with
  | .createId _ _ => .isTrue trivial
  | .createName _ _ => .isTrue trivial
  | .activate mh dst mt answers =>
      inferInstanceAs
        (Decidable
          (∀ m ∈ s.lookup mh, m.flags ≠ 0 → ∀ sid ∈ dst,
            ActivationSpares s mh m sid mt answers))
  | .deactivate mh _ =>
      inferInstanceAs (Decidable (DestructionSpares s mh))
  | .destroy mh _ =>
      inferInstanceAs (Decidable (DestructionSpares s mh))
  | .initRx src msg answers =>
      match hRemove : removePrevious answers src msg s with
      | .error _ =>
          decidable_of_iff (RemovalSpares src msg s)
            (by simp [KeepsTarget, hRemove])
      | .ok (s', _, _) =>
          decidable_of_iff
            (RemovalSpares src msg s ∧
              CreationSpares plugins answers src msg s')
            (by simp [KeepsTarget, hRemove])
  | .deinitRx _ msg _ =>
      inferInstanceAs
        (Decidable (DestructionSpares s msg.mhRemote))
  | .responseRx response answers =>
      inferInstanceAs
        (Decidable
          (∀ m ∈ s.lookup response.mhRemote,
            ResponseSpares s m response answers))

/- The identifier and the capabilities of the RTT plugin. -/
def rttPlugin : MeasurePlugin Unit where
  id := 8
  caps :=
    inBand ||| outOfBand ||| packet ||| data ||| txRxBi
  created := ()
  init := fun _ => ()
  stop := fun _ => ()
  writesInStop := true
  quiet := by decide

def rttPlugins : Plugins Unit where
  byId := fun mid =>
    if mid = rttPlugin.id then
      some rttPlugin
    else
      lossPlugins.byId mid
  byName := fun name =>
    if name = "RTT" then some rttPlugin else lossPlugins.byName name

/-
  A running out-of-band measure, and another measure of the
  same peer that comes and goes.
-/
def besideOutOfBand (mt : MsgType) : List (Event Nat) :=
  [.createId 8 (outOfBand ||| packet),
    .activate 0 (some 7) 1 .granted,
    .responseRx
      { mhRemote := 0
        mhLocal := 3
        command := initRemoteMeasureId
        status := eok }
      .granted,
    .createId 10 (inBand ||| packet),
    .activate 1 (some 7) mt .granted,
    .deactivate 1 .granted]

/- A measure at the request of the same peer. -/
def requestedBeside : List (Event Nat) :=
  [.initRx 7
      { mid := 8
        mc := remote ||| outOfBand ||| packet
        mhLocal := 5
        msgType := 1 }
      .granted,
    .deinitRx 7
      { mhRemote := 2
        mhLocal := 5 }
      .granted]

------------------------------------------------------------
-- The Target Exists
------------------------------------------------------------

/- What out-of-band data needs of the measure it is for. -/
theorem oobDataRx_ok_iff
    {s : Monitor σ π}
    {sid : σ}
    {mhRemote : MonHandler} :
    (∃ results, oobDataRx sid mhRemote s = .ok results) ↔
      ∀ m, s.lookup mhRemote = some m →
        m.status = .running → m.dstSocketid = some sid →
          (m.has packet = true ∨ m.has data = true) ∧
            s.hasEntry ⟨sid, msgTypeMonl⟩ = true := by
  unfold oobDataRx Monitor.hasEntry Monitor.lookup
  cases s.mMeasureInstances.lookup mhRemote with
  | none => simp
  | some m =>
      simp only [Option.some.injEq, forall_eq']
      by_cases hFor :
          m.status = .running ∧ m.dstSocketid = some sid
      · rw [if_pos hFor]
        cases m.has data with
        | true =>
            cases s.dispatcherList.lookup
                ⟨sid, msgTypeMonl⟩ with
            | none => simp [hFor.1, hFor.2]
            | some dd => simp
        | false =>
            cases m.has packet with
            | true =>
                cases s.dispatcherList.lookup
                    ⟨sid, msgTypeMonl⟩ with
                | none => simp [hFor.1, hFor.2]
                | some dd => simp
            | false => simp [hFor.1, hFor.2]
      · rw [if_neg hFor]
        refine ⟨?_, fun _ => ⟨_, rfl⟩⟩
        intro _ hRunning hDst
        exact absurd ⟨hRunning, hDst⟩ hFor

/- A measure that receives the data has results of the entry. -/
theorem oobDataRx_delivers
    {s : Monitor σ π}
    {sid : σ}
    {mhRemote : MonHandler}
    {m : MonMeasure σ π}
    (hLookup : s.lookup mhRemote = some m)
    (hRunning : m.status = .running)
    (hDst : m.dstSocketid = some sid)
    (hMode : m.has packet = true ∨ m.has data = true)
    (hHas : s.hasEntry ⟨sid, msgTypeMonl⟩ = true) :
    ∃ results,
      oobDataRx sid mhRemote s = .ok (some results) ∧
        results.hDst = ⟨sid, msgTypeMonl⟩ := by
  rcases Option.isSome_iff_exists.mp hHas with ⟨dd, hEntry⟩
  rw [Monitor.lookup] at hLookup
  unfold oobDataRx
  simp only [hLookup, hEntry]
  rw [if_pos ⟨hRunning, hDst⟩]
  cases hData : m.has data with
  | true => exact ⟨_, rfl, rfl⟩
  | false =>
      rcases hMode with hPacket | hTrue
      · rw [hPacket]
        exact ⟨_, rfl, rfl⟩
      · rw [hData] at hTrue
        cases hTrue

end MONL

end NapaBaselibs
