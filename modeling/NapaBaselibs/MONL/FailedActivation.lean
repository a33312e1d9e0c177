import NapaBaselibs.MONL.StopProtocol

/-
  What a failed activation leaves behind.

  `activateMeasure` writes the destination and the type of a
  measure and initialises its plugin before it checks
  anything, and when the request to the peer cannot be sent
  it stops the measure again.  A failure is without effect
  exactly if all of this was so before.

  Key definitions include:
    * `SameLists`, `NoEffect`
    * `ActivationUndone`

  Key theorems include:
    * `lookup_entered`, `lookup_undone`
    * `failed_activation_without_effect_iff`
-/

------------------------------------------------------------
-- Effects
------------------------------------------------------------

namespace NapaBaselibs

namespace MONL

variable {σ π : Type} [DecidableEq σ]

/-
  The same entries, with the same lists of measures.  Numbers
  in the result arrays of an entry are not compared: the stop
  that undoes an activation may write there (that of RTT sets
  `R_RECEIVE_TIME` to a NaN).
-/
structure SameLists (s s' : Monitor σ π) : Prop where
  entries :
    ∀ hDst,
      (s'.dispatcherList.lookup hDst).isSome =
        (s.dispatcherList.lookup hDst).isSome
  pointers :
    ∀ list hDst isRemote mid,
      s'.pointer list hDst isRemote mid =
        s.pointer list hDst isRemote mid

/- What an activation sets in a measure. -/
def MonMeasure.activation
    (m : MonMeasure σ π) :
    Option σ × MsgType × MeasurementStatus × π ×
      Option (ResultLists σ) :=
  (m.dstSocketid, m.msgType, m.status, m.plugin, m.results)

/- Neither the measure nor the dispatcher has changed. -/
structure NoEffect
    (mh : MonHandler)
    (s s' : Monitor σ π) : Prop where
  measure :
    (s'.lookup mh).map MonMeasure.activation =
      (s.lookup mh).map MonMeasure.activation
  lists : SameLists s s'

/- What the undoing of an activation finds as it leaves it. -/
structure UndoneAlready
    (s : Monitor σ π)
    (m : MonMeasure σ π)
    (sid : σ)
    (mt : MsgType) : Prop where
  dstSocketid : m.dstSocketid = some sid
  msgType : m.msgType = mt
  status : m.status = .stopping
  plugin :
    m.measurePlugin.stop (m.measurePlugin.init m.plugin) =
      m.plugin
  results : m.results = none
  outOfBand :
    m.has outOfBand = true → mt ≠ msgTypeMonl →
      (s.dispatcherList.lookup ⟨sid, msgTypeMonl⟩).isSome = true
  loaded :
    ∀ dd, s.dispatcherList.lookup ⟨sid, mt⟩ = some dd →
      ((dd.mids true).isEmpty && (dd.mids false).isEmpty) =
        false
  hooks :
    ∀ hook ∈ m.hooks,
      s.pointer (some hook) ⟨sid, mt⟩ (m.has remote) m.id = none

/-
  When a call of `monActivateMeasure` that fails leaves all
  as it was.  It fails on an unknown handle, without a
  destination for a measure with flags, on a place that is
  taken, and when the peer cannot be asked.
-/
def ActivationUndone
    (answers : Answers)
    (mh : MonHandler)
    (dst : Option σ)
    (mt : MsgType)
    (s : Monitor σ π) : Prop :=
  ∀ m, s.lookup mh = some m → m.flags ≠ 0 →
    match dst with
    | none => m.msgType = mt
    | some sid =>
        if (s.pointer none ⟨sid, mt⟩ (m.has remote)
            m.id).isSome = true then
          m.dstSocketid = some sid ∧ m.msgType = mt ∧
            m.measurePlugin.init m.plugin = m.plugin
        else
          m.remoteCounterpart = true →
            answers.initSent = false →
              UndoneAlready s m sid mt

------------------------------------------------------------
-- Entries
------------------------------------------------------------

/- An entry, or a new one. -/
def Monitor.entryOrNew
    (s : Monitor σ π)
    (hDst : SocketIdMt σ) : DestinationSocketIdMtData :=
  (s.dispatcherList.lookup hDst).getD .new

theorem lookup_ensureEntry
    (s : Monitor σ π)
    (hDst hDst' : SocketIdMt σ) :
    (s.ensureEntry hDst).dispatcherList.lookup hDst' =
      if hDst' = hDst then some (s.entryOrNew hDst)
      else s.dispatcherList.lookup hDst' := by
  unfold Monitor.ensureEntry Monitor.entryOrNew
  cases hEntry : s.dispatcherList.lookup hDst with
  | some dd =>
      by_cases hKey : hDst' = hDst
      · rw [if_pos hKey, hKey, hEntry]
        rfl
      · rw [if_neg hKey]
  | none =>
      simp only [Dict.lookup_insert_eq]
      rfl

/- The entries for a measure that is about to be entered. -/
theorem lookup_ensured
    (s : Monitor σ π)
    (m : MonMeasure σ π)
    (hDst hDst' : SocketIdMt σ) :
    (if m.has outOfBand then
        (s.ensureEntry hDst).ensureEntry
          { hDst with mt := msgTypeMonl }
      else
        s.ensureEntry hDst).dispatcherList.lookup hDst' =
      if hDst' = hDst then some (s.entryOrNew hDst)
      else if m.has outOfBand = true ∧
          hDst' = { hDst with mt := msgTypeMonl } then
        some (s.entryOrNew hDst')
      else s.dispatcherList.lookup hDst' := by
  cases hBand : m.has outOfBand with
  | false =>
      rw [if_neg Bool.false_ne_true, lookup_ensureEntry]
      simp only [Bool.false_eq_true, false_and, if_false]
  | true =>
      rw [if_pos rfl, lookup_ensureEntry]
      by_cases hOther : hDst' = { hDst with mt := msgTypeMonl }
      · rw [if_pos hOther, Monitor.entryOrNew, ← hOther,
          lookup_ensureEntry]
        by_cases hKey : hDst' = hDst
        · rw [if_pos hKey, if_pos hKey]
          rfl
        · rw [if_neg hKey, if_neg hKey, if_pos ⟨rfl, rfl⟩]
          rfl
      · rw [if_neg hOther, lookup_ensureEntry]
        by_cases hKey : hDst' = hDst
        · rw [if_pos hKey, if_pos hKey]
        · rw [if_neg hKey, if_neg hKey,
            if_neg (fun hBoth => hOther hBoth.2)]

/- The entries once a measure has been entered. -/
theorem lookup_entered
    (s : Monitor σ π)
    (m : MonMeasure σ π)
    (hDst hDst' : SocketIdMt σ) :
    (s.enter m hDst).dispatcherList.lookup hDst' =
      if hDst' = hDst then
        some
          (addMeasureToExecLists m
            (loadMeasure m (s.entryOrNew hDst)))
      else if m.has outOfBand = true ∧
          hDst' = { hDst with mt := msgTypeMonl } then
        some (s.entryOrNew hDst')
      else s.dispatcherList.lookup hDst' := by
  have hOwn := lookup_ensured s m hDst hDst
  have hThis := lookup_ensured s m hDst hDst'
  rw [if_pos rfl] at hOwn
  unfold Monitor.enter
  extract_lets s₁ s₂
  have hFound : s₂.dispatcherList.lookup hDst =
      some (s.entryOrNew hDst) := hOwn
  rw [hFound]
  dsimp only
  rw [Dict.lookup_insert_eq]
  by_cases hKey : hDst' = hDst
  · rw [if_pos hKey, if_pos hKey]
  · rw [if_neg hKey, if_neg hKey]
    rw [if_neg hKey] at hThis
    exact hThis

/- The lists of a new entry are empty. -/
theorem lookup_list_entryOrNew
    (s : Monitor σ π)
    (hDst : SocketIdMt σ)
    (list : Option Hook)
    (isRemote : Bool)
    (mid : MeasurementId) :
    ((s.entryOrNew hDst).list list isRemote).lookup mid =
      s.pointer list hDst isRemote mid := by
  unfold Monitor.entryOrNew Monitor.pointer
  cases s.dispatcherList.lookup hDst with
  | some dd => rfl
  | none =>
      cases list with
      | none => exact Dict.lookup_empty mid
      | some hook => exact Dict.lookup_empty mid

------------------------------------------------------------
-- Undoing An Activation
------------------------------------------------------------

/- What is left of an entry a measure was in. -/
def MonMeasure.cleaned
    (m : MonMeasure σ π)
    (dd : DestinationSocketIdMtData) :
    DestinationSocketIdMtData :=
  unloadMeasure m
    (delMeasureFromExecLists m
      (addMeasureToExecLists m (loadMeasure m dd)))

/- The state when the request to the peer was not sent. -/
def Monitor.undone
    (s : Monitor σ π)
    (mh : MonHandler)
    (m : MonMeasure σ π)
    (sid : σ)
    (mt : MsgType) : Monitor σ π :=
  ((((s.setMeasure mh (m.initialising sid mt)).enter
      (m.initialising sid mt) ⟨sid, mt⟩).setMeasure mh
        (m.initialising sid mt).afterStop).putOrDestroy
      ⟨sid, mt⟩
      ((m.initialising sid mt).cleaned
        (s.entryOrNew ⟨sid, mt⟩)))

/- An activation whose request is not sent is undone. -/
theorem activation_undone
    {s : Monitor σ π}
    {mh : MonHandler}
    {m : MonMeasure σ π}
    {answers : Answers}
    {sid : σ}
    {mt : MsgType}
    (hLookup : s.lookup mh = some m)
    (hCounterpart : m.remoteCounterpart = true)
    (hFree :
      (s.pointer none ⟨sid, mt⟩ (m.has remote)
        m.id).isSome = false)
    (hNotSent : answers.initSent = false) :
    ∃ out,
      monActivateMeasure answers mh (some sid) mt s =
        .ok (s.undone mh m sid mt, out, -enomem) := by
  have hEntered :=
    lookup_entered (s.setMeasure mh (m.initialising sid mt))
      (m.initialising sid mt) ⟨sid, mt⟩ ⟨sid, mt⟩
  rw [if_pos rfl] at hEntered
  have hEntry :
      ((s.setMeasure mh (m.initialising sid mt)).enter
          (m.initialising sid mt) ⟨sid, mt⟩).entryOf
        (m.initialising sid mt) =
        some
          (⟨sid, mt⟩,
            addMeasureToExecLists (m.initialising sid mt)
              (loadMeasure (m.initialising sid mt)
                (s.entryOrNew ⟨sid, mt⟩))) := by
    have hKey : (m.initialising sid mt).hDst =
        some ⟨sid, mt⟩ := rfl
    unfold Monitor.entryOf
    rw [hKey, Option.bind_some, hEntered]
    rfl
  have hLoaded :
      loadedAs (m.initialising sid mt)
          (addMeasureToExecLists (m.initialising sid mt)
            (loadMeasure (m.initialising sid mt)
              (s.entryOrNew ⟨sid, mt⟩))) =
        some (m.initialising sid mt).object := by
    have hList :=
      list_add (m.initialising sid mt)
        (s.entryOrNew ⟨sid, mt⟩) none
        ((m.initialising sid mt).has remote)
        (m.initialising sid mt).id
    rw [if_pos ⟨rfl, rfl, rfl⟩] at hList
    exact hList
  refine
    ⟨.stopping (m.initialising sid mt).object true true ::
      (m.initialising sid mt).deinits, ?_⟩
  rw [monActivateMeasure_eq answers sid mt hLookup
      hCounterpart, hFree, if_neg Bool.false_ne_true,
    hNotSent, if_neg Bool.false_ne_true,
    stopMeasure_eq mh hEntry hLoaded rfl]
  rfl

/- The measure itself. -/
theorem lookup_mh_undone
    (s : Monitor σ π)
    (mh : MonHandler)
    (m : MonMeasure σ π)
    (sid : σ)
    (mt : MsgType) :
    (s.undone mh m sid mt).lookup mh =
      some (m.initialising sid mt).afterStop := by
  exact (lookup_setMeasure _ mh mh _).trans (if_pos rfl)

/- The lists of the entry, without the measure. -/
omit [DecidableEq σ] in
theorem list_cleaned
    (m : MonMeasure σ π)
    (dd : DestinationSocketIdMtData)
    (list : Option Hook)
    (isRemote : Bool)
    (mid : MeasurementId) :
    ((m.cleaned dd).list list isRemote).lookup mid =
      if isRemote = m.has remote ∧ mid = m.id ∧
          m.isIn list = true then
        none
      else
        (dd.list list isRemote).lookup mid := by
  unfold MonMeasure.cleaned
  rw [list_del]
  split
  · rfl
  · rename_i hOther
    rw [list_add, if_neg hOther]

/- An entry is as empty as before the measure. -/
omit [DecidableEq σ] in
theorem isEmpty_cleaned
    {m : MonMeasure σ π}
    {dd : DestinationSocketIdMtData}
    (hFree : (dd.mids (m.has remote)).lookup m.id = none)
    (isRemote : Bool) :
    ((m.cleaned dd).mids isRemote).isEmpty =
      (dd.mids isRemote).isEmpty := by
  have hSame :
      ∀ mid,
        ((m.cleaned dd).mids isRemote).lookup mid =
          (dd.mids isRemote).lookup mid := by
    intro mid
    have hList := list_cleaned m dd none isRemote mid
    split at hList
    case isTrue hOwn =>
      rcases hOwn with ⟨rfl, rfl, -⟩
      exact hList.trans hFree.symm
    case isFalse hOther => exact hList
  rw [Bool.eq_iff_iff, Dict.isEmpty_iff, Dict.isEmpty_iff]
  constructor
  · exact fun hAll mid => (hSame mid).symm.trans (hAll mid)
  · exact fun hAll mid => (hSame mid).trans (hAll mid)

/- The entries when an activation was undone. -/
theorem lookup_undone
    {s : Monitor σ π}
    {m : MonMeasure σ π}
    {sid : σ}
    {mt : MsgType}
    (mh : MonHandler)
    (hDst : SocketIdMt σ)
    (hFree :
      s.pointer none ⟨sid, mt⟩ (m.has remote) m.id = none) :
    (s.undone mh m sid mt).dispatcherList.lookup hDst =
      if hDst = ⟨sid, mt⟩ then
        if (((s.entryOrNew ⟨sid, mt⟩).mids true).isEmpty &&
            ((s.entryOrNew ⟨sid, mt⟩).mids
              false).isEmpty) = true then
          none
        else
          some
            ((m.initialising sid mt).cleaned
              (s.entryOrNew ⟨sid, mt⟩))
      else if m.has outOfBand = true ∧
          hDst = ⟨sid, msgTypeMonl⟩ then
        some (s.entryOrNew hDst)
      else s.dispatcherList.lookup hDst := by
  have hMids :
      ((s.entryOrNew ⟨sid, mt⟩).mids
        ((m.initialising sid mt).has remote)).lookup
          (m.initialising sid mt).id = none :=
    (lookup_list_entryOrNew s ⟨sid, mt⟩ none _ _).trans hFree
  have hEntered :=
    lookup_entered (s.setMeasure mh (m.initialising sid mt))
      (m.initialising sid mt) ⟨sid, mt⟩ hDst
  unfold Monitor.undone Monitor.putOrDestroy
  dsimp only
  rw [isEmpty_cleaned hMids, isEmpty_cleaned hMids]
  by_cases hKey : hDst = ⟨sid, mt⟩
  · rw [if_pos hKey]
    split
    · rw [Dict.lookup_erase_eq, if_pos hKey]
    · rw [Dict.lookup_insert_eq, if_pos hKey]
  · rw [if_neg hKey] at hEntered ⊢
    split
    · rw [Dict.lookup_erase_eq, if_neg hKey]
      exact hEntered
    · rw [Dict.lookup_insert_eq, if_neg hKey]
      exact hEntered

/- The own place of a measure in the lists of its entry. -/
theorem pointer_undone_own
    {s : Monitor σ π}
    {m : MonMeasure σ π}
    {sid : σ}
    {mt : MsgType}
    (mh : MonHandler)
    {list : Option Hook}
    (hFree :
      s.pointer none ⟨sid, mt⟩ (m.has remote) m.id = none)
    (hIn : m.isIn list = true) :
    (s.undone mh m sid mt).pointer list ⟨sid, mt⟩
        (m.has remote) m.id = none := by
  unfold Monitor.pointer
  rw [lookup_undone mh ⟨sid, mt⟩ hFree, if_pos rfl]
  split
  · rfl
  · rw [Option.bind_some, list_cleaned, if_pos]
    exact ⟨rfl, rfl, hIn⟩

/- The pointers of an entry that is left. -/
theorem pointer_undone
    {s : Monitor σ π}
    {m : MonMeasure σ π}
    {sid : σ}
    {mt : MsgType}
    (mh : MonHandler)
    (hFree :
      s.pointer none ⟨sid, mt⟩ (m.has remote) m.id = none)
    (hLoaded :
      ∀ dd, s.dispatcherList.lookup ⟨sid, mt⟩ = some dd →
        ((dd.mids true).isEmpty && (dd.mids false).isEmpty) =
          false)
    (hHooks :
      ∀ hook ∈ m.hooks,
        s.pointer (some hook) ⟨sid, mt⟩ (m.has remote) m.id =
          none)
    (list : Option Hook)
    (hDst : SocketIdMt σ)
    (isRemote : Bool)
    (mid : MeasurementId) :
    (s.undone mh m sid mt).pointer list hDst isRemote mid =
      s.pointer list hDst isRemote mid := by
  by_cases hKey : hDst = ⟨sid, mt⟩
  · subst hKey
    by_cases hOwn :
        isRemote = m.has remote ∧ mid = m.id ∧
          m.isIn list = true
    · rcases hOwn with ⟨rfl, rfl, hIn⟩
      rw [pointer_undone_own mh hFree hIn]
      cases list with
      | none => exact hFree.symm
      | some hook =>
          exact (hHooks hook (of_decide_eq_true hIn)).symm
    · unfold Monitor.pointer
      rw [lookup_undone mh ⟨sid, mt⟩ hFree, if_pos rfl]
      cases hEntry : s.dispatcherList.lookup ⟨sid, mt⟩ with
      | none =>
          have hNew : s.entryOrNew ⟨sid, mt⟩ = .new := by
            rw [Monitor.entryOrNew, hEntry]
            rfl
          rw [hNew]
          rfl
      | some dd =>
          have hOld : s.entryOrNew ⟨sid, mt⟩ = dd := by
            rw [Monitor.entryOrNew, hEntry]
            rfl
          rw [hOld, hLoaded dd hEntry,
            if_neg Bool.false_ne_true, Option.bind_some,
            Option.bind_some, list_cleaned]
          exact if_neg hOwn
  · have hEntries := lookup_undone mh hDst hFree
    rw [if_neg hKey] at hEntries
    have hList :=
      lookup_list_entryOrNew s hDst list isRemote mid
    rw [Monitor.pointer, hEntries]
    split
    · exact hList
    · rfl

/- The lists are the same again, exactly if these were so. -/
theorem sameLists_undone_iff
    {s : Monitor σ π}
    {m : MonMeasure σ π}
    {sid : σ}
    {mt : MsgType}
    (mh : MonHandler)
    (hFree :
      s.pointer none ⟨sid, mt⟩ (m.has remote) m.id = none) :
    SameLists s (s.undone mh m sid mt) ↔
      (m.has outOfBand = true → mt ≠ msgTypeMonl →
        (s.dispatcherList.lookup
          ⟨sid, msgTypeMonl⟩).isSome = true) ∧
      (∀ dd, s.dispatcherList.lookup ⟨sid, mt⟩ = some dd →
        ((dd.mids true).isEmpty && (dd.mids false).isEmpty) =
          false) ∧
      (∀ hook ∈ m.hooks,
        s.pointer (some hook) ⟨sid, mt⟩ (m.has remote) m.id =
          none) := by
  constructor
  · intro hSame
    refine ⟨?_, ?_, ?_⟩
    · intro hBand hType
      rw [← hSame.entries, lookup_undone mh _ hFree, if_neg,
        if_pos ⟨hBand, rfl⟩]
      · rfl
      · intro hEq
        injection hEq with _ hMt
        exact hType hMt.symm
    · intro dd hEntry
      have hKept := hSame.entries ⟨sid, mt⟩
      have hOld : s.entryOrNew ⟨sid, mt⟩ = dd := by
        rw [Monitor.entryOrNew, hEntry]
        rfl
      rw [lookup_undone mh _ hFree, if_pos rfl, hEntry,
        hOld] at hKept
      split at hKept
      · cases hKept
      · rename_i hSome
        exact Bool.eq_false_iff.mpr hSome
    · intro hook hIn
      rw [← hSame.pointers]
      exact pointer_undone_own mh hFree (decide_eq_true hIn)
  · rintro ⟨hBand, hLoaded, hHooks⟩
    refine ⟨?_, pointer_undone mh hFree hLoaded hHooks⟩
    intro hDst
    rw [lookup_undone mh hDst hFree]
    by_cases hKey : hDst = ⟨sid, mt⟩
    · subst hKey
      rw [if_pos rfl]
      cases hEntry : s.dispatcherList.lookup ⟨sid, mt⟩ with
      | none =>
          have hNew : s.entryOrNew ⟨sid, mt⟩ = .new := by
            rw [Monitor.entryOrNew, hEntry]
            rfl
          rw [hNew]
          rfl
      | some dd =>
          have hOld : s.entryOrNew ⟨sid, mt⟩ = dd := by
            rw [Monitor.entryOrNew, hEntry]
            rfl
          rw [hOld, hLoaded dd hEntry,
            if_neg Bool.false_ne_true]
          rfl
    · rw [if_neg hKey]
      split
      case isTrue hOther =>
        rcases hOther with ⟨hHas, rfl⟩
        have hType : mt ≠ msgTypeMonl := by
          rintro rfl
          exact hKey rfl
        exact (hBand hHas hType).symm
      case isFalse => rfl

------------------------------------------------------------
-- Failed Activations
------------------------------------------------------------

/- A state that has its lists from another one. -/
theorem sameLists_setMeasure
    (s : Monitor σ π)
    (mh : MonHandler)
    (m : MonMeasure σ π) :
    SameLists s (s.setMeasure mh m) :=
  ⟨fun _ => rfl, fun _ _ _ _ => rfl⟩

/- Only the measure is set. -/
theorem noEffect_setMeasure_iff
    {s : Monitor σ π}
    {mh : MonHandler}
    {m m' : MonMeasure σ π}
    (hLookup : s.lookup mh = some m) :
    NoEffect mh s (s.setMeasure mh m') ↔
      m'.activation = m.activation := by
  have hSet : (s.setMeasure mh m').lookup mh = some m' :=
    (lookup_setMeasure s mh mh m').trans (if_pos rfl)
  constructor
  · intro hNone
    have hMeasure := hNone.measure
    rw [hSet, hLookup] at hMeasure
    exact Option.some.inj hMeasure
  · intro hSame
    refine ⟨?_, sameLists_setMeasure s mh m'⟩
    rw [hSet, hLookup]
    exact congrArg some hSame

/- The last failure, after the measure has been entered. -/
theorem noEffect_undone_iff
    {s : Monitor σ π}
    {mh : MonHandler}
    {m : MonMeasure σ π}
    {sid : σ}
    {mt : MsgType}
    (hLookup : s.lookup mh = some m)
    (hCounterpart : m.remoteCounterpart = true)
    (hFree :
      s.pointer none ⟨sid, mt⟩ (m.has remote) m.id = none) :
    NoEffect mh s (s.undone mh m sid mt) ↔
      UndoneAlready s m sid mt := by
  have hStatus :
      (m.initialising sid mt).afterStop.status = .stopping :=
    if_pos hCounterpart
  constructor
  · intro hNone
    have hMeasure := hNone.measure
    rw [lookup_mh_undone, hLookup] at hMeasure
    have hSame := Option.some.inj hMeasure
    unfold MonMeasure.activation at hSame
    rw [hStatus] at hSame
    injection hSame with hDst hSame
    injection hSame with hType hSame
    injection hSame with hStopping hSame
    injection hSame with hPlugin hResults
    rcases (sameLists_undone_iff mh hFree).mp hNone.lists with
      ⟨hBand, hLoaded, hHooks⟩
    exact
      ⟨hDst.symm, hType.symm, hStopping.symm, hPlugin,
        hResults.symm, hBand, hLoaded, hHooks⟩
  · intro hUndone
    refine ⟨?_, (sameLists_undone_iff mh hFree).mpr
      ⟨hUndone.outOfBand, hUndone.loaded, hUndone.hooks⟩⟩
    rw [lookup_mh_undone, hLookup]
    apply congrArg some
    unfold MonMeasure.activation
    rw [hStatus, hUndone.dstSocketid, hUndone.msgType,
      hUndone.status, hUndone.results]
    exact
      congrArg (fun plugin => (some sid, mt, _, plugin, none))
        hUndone.plugin

/- What holds of a failed call, by how it ended. -/
omit [DecidableEq σ] in
theorem forall_failed_iff
    {outcome : Outcome σ π Int}
    {s' : Monitor σ π}
    {out : List (Output σ)}
    {ret : Int}
    {p : Monitor σ π → Prop}
    (hOutcome : outcome = .ok (s', out, ret))
    (hFailed : ret ≠ eok) :
    (∀ s'' out' ret',
      outcome = .ok (s'', out', ret') → ret' ≠ eok → p s'') ↔
      p s' := by
  constructor
  · exact fun hAll => hAll s' out ret hOutcome hFailed
  · intro hHolds s'' out' ret' hOther _
    rw [hOutcome] at hOther
    cases hOther
    exact hHolds

/- Nothing is claimed of a call that succeeds. -/
omit [DecidableEq σ] in
theorem forall_failed_of_ok
    {outcome : Outcome σ π Int}
    {s' : Monitor σ π}
    {out : List (Output σ)}
    {p : Monitor σ π → Prop}
    (hOutcome : outcome = .ok (s', out, eok)) :
    ∀ s'' out' ret',
      outcome = .ok (s'', out', ret') → ret' ≠ eok → p s'' := by
  intro s'' out' ret' hOther hFailed
  rw [hOutcome] at hOther
  cases hOther
  exact absurd rfl hFailed

/- A measure with flags needs a destination. -/
theorem activation_without_destination
    {s : Monitor σ π}
    {mh : MonHandler}
    {m : MonMeasure σ π}
    (answers : Answers)
    (mt : MsgType)
    (hLookup : s.lookup mh = some m)
    (hFlags : m.flags ≠ 0) :
    monActivateMeasure answers mh none mt s =
      .ok (s.setMeasure mh { m with msgType := mt }, [],
        -einval) := by
  rw [Monitor.lookup] at hLookup
  unfold monActivateMeasure activateMeasure
  simp only [hLookup]
  rw [if_pos ⟨trivial, hFlags⟩]

/- A measure without flags runs. -/
theorem activation_flagless
    {s : Monitor σ π}
    {mh : MonHandler}
    {m : MonMeasure σ π}
    (answers : Answers)
    (dst : Option σ)
    (mt : MsgType)
    (hLookup : s.lookup mh = some m)
    (hFlags : m.flags = 0) :
    ∃ s', monActivateMeasure answers mh dst mt s =
      .ok (s', [], eok) := by
  rw [Monitor.lookup] at hLookup
  unfold monActivateMeasure activateMeasure
  simp only [hLookup]
  rw [if_neg (fun hBoth => hBoth.2 hFlags), if_pos hFlags]
  exact ⟨_, rfl⟩

/- The measure that is set before the place is looked at. -/
def MonMeasure.redirected
    (m : MonMeasure σ π)
    (sid : σ)
    (mt : MsgType) : MonMeasure σ π :=
  { m.directed (some sid) mt with
    plugin := m.measurePlugin.init m.plugin }

/- With a destination the place decides. -/
theorem activation_eq_activateAt
    {s : Monitor σ π}
    {mh : MonHandler}
    {m : MonMeasure σ π}
    (answers : Answers)
    (sid : σ)
    (mt : MsgType)
    (hLookup : s.lookup mh = some m)
    (hFlags : m.flags ≠ 0) :
    monActivateMeasure answers mh (some sid) mt s =
      activateAt answers mh (m.redirected sid mt) sid mt s := by
  rw [Monitor.lookup] at hLookup
  unfold monActivateMeasure activateMeasure
  simp only [hLookup]
  rw [if_neg (by simp), if_neg hFlags]
  rfl

/- The place is taken. -/
theorem activation_taken
    {s : Monitor σ π}
    {mh : MonHandler}
    {m : MonMeasure σ π}
    (answers : Answers)
    {sid : σ}
    {mt : MsgType}
    (hLookup : s.lookup mh = some m)
    (hFlags : m.flags ≠ 0)
    (hTaken :
      (s.pointer none ⟨sid, mt⟩ (m.has remote)
        m.id).isSome = true) :
    monActivateMeasure answers mh (some sid) mt s =
      .ok (s.setMeasure mh (m.redirected sid mt), [],
        -eexists) := by
  rw [activation_eq_activateAt answers sid mt hLookup hFlags]
  unfold activateAt
  exact if_pos hTaken

/- A free place, and nothing to ask a peer for. -/
theorem activation_succeeds
    {s : Monitor σ π}
    {mh : MonHandler}
    {m : MonMeasure σ π}
    {answers : Answers}
    {sid : σ}
    {mt : MsgType}
    (hLookup : s.lookup mh = some m)
    (hFlags : m.flags ≠ 0)
    (hFree :
      (s.pointer none ⟨sid, mt⟩ (m.has remote)
        m.id).isSome = false)
    (hAsked :
      m.remoteCounterpart = false ∨ answers.initSent = true) :
    ∃ s' out,
      monActivateMeasure answers mh (some sid) mt s =
        .ok (s', out, eok) := by
  have hPlace :
      ¬ (((s.dispatcherList.lookup ⟨sid, mt⟩).bind
        (loadedAs (m.redirected sid mt))).isSome = true) :=
    Bool.eq_false_iff.mp hFree
  rw [activation_eq_activateAt answers sid mt hLookup hFlags]
  unfold activateAt
  extract_lets hDst m₁ m₂ m₃
  rw [if_neg hPlace]
  split
  case isFalse => exact ⟨_, _, rfl⟩
  case isTrue hCounterpart =>
    rcases hAsked with hNone | hSent
    · exact absurd hCounterpart (Bool.eq_false_iff.mp hNone)
    · rw [if_pos hSent]
      exact ⟨_, _, rfl⟩

/- With a destination the failure is one of two. -/
theorem failed_towards_iff
    {s : Monitor σ π}
    {mh : MonHandler}
    {m : MonMeasure σ π}
    (answers : Answers)
    (sid : σ)
    (mt : MsgType)
    (hLookup : s.lookup mh = some m)
    (hFlags : m.flags ≠ 0) :
    (∀ s' out ret,
      monActivateMeasure answers mh (some sid) mt s =
          .ok (s', out, ret) →
        ret ≠ eok → NoEffect mh s s') ↔
      if (s.pointer none ⟨sid, mt⟩ (m.has remote)
          m.id).isSome = true then
        m.dstSocketid = some sid ∧ m.msgType = mt ∧
          m.measurePlugin.init m.plugin = m.plugin
      else
        m.remoteCounterpart = true →
          answers.initSent = false →
            UndoneAlready s m sid mt := by
  split
  case isTrue hTaken =>
    have hOutcome :=
      activation_taken answers hLookup hFlags hTaken
    rw [forall_failed_iff hOutcome (by decide),
      noEffect_setMeasure_iff hLookup]
    constructor
    · intro hSame
      injection hSame with hDst hRest
      injection hRest with hType hRest
      injection hRest with _ hRest
      injection hRest with hPlugin _
      exact ⟨hDst.symm, hType.symm, hPlugin⟩
    · rintro ⟨hDst, hType, hPlugin⟩
      unfold MonMeasure.activation
      rw [hDst, hType]
      exact
        congrArg
          (fun plugin =>
            (some sid, mt, m.status, plugin, m.results))
          hPlugin
  case isFalse hNot =>
    have hFree := Bool.eq_false_iff.mpr hNot
    by_cases hUnasked :
        m.remoteCounterpart = true ∧
          answers.initSent = false
    · rcases hUnasked with ⟨hCounterpart, hNotSent⟩
      rcases activation_undone hLookup hCounterpart hFree
        hNotSent with ⟨out, hOutcome⟩
      have hNone :
          s.pointer none ⟨sid, mt⟩ (m.has remote)
            m.id = none :=
        Option.isSome_eq_false_iff.mp hFree
          |> Option.isNone_iff_eq_none.mp
      rw [forall_failed_iff hOutcome (by decide),
        noEffect_undone_iff hLookup hCounterpart hNone]
      exact
        ⟨fun hUndone _ _ => hUndone,
          fun hUndone => hUndone hCounterpart hNotSent⟩
    · have hAsked :
          m.remoteCounterpart = false ∨
            answers.initSent = true := by
        cases hCounterpart : m.remoteCounterpart with
        | false => exact .inl rfl
        | true =>
            refine .inr ?_
            cases hSent : answers.initSent with
            | true => rfl
            | false =>
                exact absurd ⟨hCounterpart, hSent⟩ hUnasked
      rcases activation_succeeds hLookup hFlags hFree
        hAsked with ⟨s', out, hOutcome⟩
      exact
        ⟨fun _ hCounterpart hNotSent =>
            absurd ⟨hCounterpart, hNotSent⟩ hUnasked,
          fun _ => forall_failed_of_ok hOutcome⟩

/-
  A call of `monActivateMeasure` that returns an error has no
  effect, exactly under the condition.
-/
theorem failed_activation_without_effect_iff
    (answers : Answers)
    (mh : MonHandler)
    (dst : Option σ)
    (mt : MsgType)
    (s : Monitor σ π) :
    (∀ s' out ret,
      monActivateMeasure answers mh dst mt s =
          .ok (s', out, ret) →
        ret ≠ eok → NoEffect mh s s') ↔
      ActivationUndone answers mh dst mt s := by
  cases hLookup : s.lookup mh with
  | none =>
      have hOutcome :
          monActivateMeasure answers mh dst mt s =
            .ok (s, [], -einval) := by
        rw [Monitor.lookup] at hLookup
        unfold monActivateMeasure
        rw [hLookup]
      have hSame : NoEffect mh s s :=
        ⟨rfl, ⟨fun _ => rfl, fun _ _ _ _ => rfl⟩⟩
      rw [forall_failed_iff hOutcome (by decide)]
      refine ⟨fun _ m hFound => ?_, fun _ => hSame⟩
      rw [hLookup] at hFound
      cases hFound
  | some m =>
      have hOnly :
          ActivationUndone answers mh dst mt s ↔
            (m.flags ≠ 0 →
              match dst with
              | none => m.msgType = mt
              | some sid =>
                  if (s.pointer none ⟨sid, mt⟩ (m.has remote)
                      m.id).isSome = true then
                    m.dstSocketid = some sid ∧
                      m.msgType = mt ∧
                      m.measurePlugin.init m.plugin =
                        m.plugin
                  else
                    m.remoteCounterpart = true →
                      answers.initSent = false →
                        UndoneAlready s m sid mt) := by
        constructor
        · exact fun hAll => hAll m hLookup
        · intro hThis m' hFound
          rw [hLookup] at hFound
          cases hFound
          exact hThis
      rw [hOnly]
      by_cases hFlags : m.flags = 0
      · rcases activation_flagless answers dst mt hLookup
            hFlags with ⟨s', hOutcome⟩
        exact
          ⟨fun _ hSet => absurd hFlags hSet,
            fun _ => forall_failed_of_ok hOutcome⟩
      rw [forall_prop_of_true hFlags]
      cases dst with
      | none =>
          have hOutcome :=
            activation_without_destination answers mt hLookup
              hFlags
          rw [forall_failed_iff hOutcome (by decide),
            noEffect_setMeasure_iff hLookup]
          constructor
          · intro hSame
            injection hSame with _ hRest
            injection hRest with hType _
            exact hType.symm
          · rintro rfl
            rfl
      | some sid =>
          exact
            failed_towards_iff answers sid mt hLookup hFlags

/- The running measure 1 is refused and has moved. -/
def refusedAndMoved (s : Monitor Nat Unit) : Bool :=
  match monActivateMeasure .granted 1 (some 7) 1 s with
  | .ok (s', [], ret) =>
      decide (ret = -eexists) &&
        decide
          ((s.lookup 1).map MonMeasure.status =
            some .running) &&
        decide
          ((s'.lookup 1).map MonMeasure.dstSocketid ≠
            (s.lookup 1).map MonMeasure.dstSocketid)
  | _ => false

/-
  The place of a second measure is taken by the first one:
  the measure is refused, and has a new destination.
-/
theorem refused_measure_moves :
    ∃ trace s,
      Run (Step lossPlugins) (Monitor.initial : Monitor Nat Unit)
          trace s ∧
        trace.map Transition.event =
          [.createId 10 (inBand ||| packet),
            .createId 10 (inBand ||| packet),
            .activate 0 (some 7) 1 .granted,
            .activate 1 (some 8) 1 .granted,
            .responseRx
              { mhRemote := 1
                mhLocal := 3
                command := initRemoteMeasureId
                status := eok }
              .granted] ∧
        ∃ s',
          monActivateMeasure .granted 1 (some 7) 1 s =
              .ok (s', [], -eexists) ∧
            (s.lookup 1).map MonMeasure.status = some .running ∧
            ¬ NoEffect 1 s s' := by
  rcases
    exists_run
      (fun result : _ × Monitor Nat Unit =>
        refusedAndMoved result.2)
      (by decide +kernel :
        (execute (step lossPlugins)
          (Monitor.initial : Monitor Nat Unit)
          [.createId 10 (inBand ||| packet),
            .createId 10 (inBand ||| packet),
            .activate 0 (some 7) 1 .granted,
            .activate 1 (some 8) 1 .granted,
            .responseRx
              { mhRemote := 1
                mhLocal := 3
                command := initRemoteMeasureId
                status := eok }
              .granted]).toOption.any _ = true)
    with
    ⟨trace, s, hRun, hEvents, hCheck⟩
  refine ⟨trace, s, hRun, hEvents, ?_⟩
  unfold refusedAndMoved at hCheck
  split at hCheck
  case h_1 s' ret hOutcome =>
    rw [Bool.and_eq_true, Bool.and_eq_true] at hCheck
    rcases hCheck with ⟨⟨hRet, hStatus⟩, hMoved⟩
    rw [of_decide_eq_true hRet] at hOutcome
    refine ⟨s', hOutcome, of_decide_eq_true hStatus, ?_⟩
    intro hNone
    have hSame :=
      congrArg (Option.map Prod.fst) hNone.measure
    rw [Option.map_map, Option.map_map] at hSame
    exact of_decide_eq_true hMoved hSame
  case h_2 => cases hCheck

end MONL

end NapaBaselibs
