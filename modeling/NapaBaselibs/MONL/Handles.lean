import NapaBaselibs.MONL.OobTarget

/-
  The handles of the measures.

  Handles are given out in turn, from 0 on and again from 0
  after the last one.  A creation is refused when the handle
  whose turn it is belongs to a live measure, however many of
  the others are free.

  Key definitions include:
    * `NoNewHandles`
    * `Monitor.InTurn`
    * `Monitor.OnlyHandle`

  Key theorems include:
    * `step_inTurn`
    * `handles_in_turn`
    * `one_measure_exhausts_handles`
-/

------------------------------------------------------------
-- Calls That Give Out No Handle
------------------------------------------------------------

namespace NapaBaselibs

namespace MONL

variable {σ π : Type}

/- No handle is given out; some may become free. -/
structure NoNewHandles (s s' : Monitor σ π) : Prop where
  cursor : s'.nextMeasureHandler = s.nextMeasureHandler
  count : s'.nextObject = s.nextObject
  live :
    ∀ mh, s.lookup mh = none → s'.lookup mh = none

namespace NoNewHandles

variable {s s' s'' : Monitor σ π}

theorem refl
    (s : Monitor σ π) :
    NoNewHandles s s :=
  ⟨rfl, rfl, fun _ hFree => hFree⟩

theorem trans
    (hFirst : NoNewHandles s s')
    (hSecond : NoNewHandles s' s'') :
    NoNewHandles s s'' where
  cursor := hSecond.cursor.trans hFirst.cursor
  count := hSecond.count.trans hFirst.count
  live mh hFree := hSecond.live mh (hFirst.live mh hFree)

/- A live measure is changed. -/
theorem setMeasure
    {mh : MonHandler}
    {m : MonMeasure σ π}
    (m' : MonMeasure σ π)
    (hLookup : s.lookup mh = some m) :
    NoNewHandles s (s.setMeasure mh m') where
  cursor := rfl
  count := rfl
  live := by
    intro mh' hFree
    rw [lookup_setMeasure]
    by_cases hKey : mh' = mh
    · rw [hKey, hLookup] at hFree
      cases hFree
    · rw [if_neg hKey]
      exact hFree

/- The lists are changed. -/
theorem of_lists
    (hInstances :
      s'.mMeasureInstances = s.mMeasureInstances)
    (hCursor : s'.nextMeasureHandler = s.nextMeasureHandler)
    (hCount : s'.nextObject = s.nextObject) :
    NoNewHandles s s' where
  cursor := hCursor
  count := hCount
  live := by
    intro mh hFree
    unfold Monitor.lookup at hFree ⊢
    rw [hInstances]
    exact hFree

/- A measure is deleted. -/
theorem erase
    (s : Monitor σ π)
    (mh : MonHandler) :
    NoNewHandles s
      { s with
        mMeasureInstances := s.mMeasureInstances.erase mh }
    where
  cursor := rfl
  count := rfl
  live := by
    intro mh' hFree
    unfold Monitor.lookup at hFree ⊢
    rw [Dict.lookup_erase_eq]
    split
    · rfl
    · exact hFree

end NoNewHandles

section Calls

variable [DecidableEq σ]
variable {s s' : Monitor σ π}
variable {mh : MonHandler}
variable {m : MonMeasure σ π}
variable {answers : Answers}
variable {out : List (Output σ)}

theorem noNewHandles_ensureEntry
    (s : Monitor σ π)
    (hDst : SocketIdMt σ) :
    NoNewHandles s (s.ensureEntry hDst) := by
  unfold Monitor.ensureEntry
  split
  · exact .refl s
  · exact .of_lists rfl rfl rfl

theorem noNewHandles_enter
    (s : Monitor σ π)
    (m : MonMeasure σ π)
    (hDst : SocketIdMt σ) :
    NoNewHandles s (s.enter m hDst) := by
  have hEnsured :
      NoNewHandles s
        (if m.has outOfBand then
          (s.ensureEntry hDst).ensureEntry
            { hDst with mt := msgTypeMonl }
        else
          s.ensureEntry hDst) := by
    split
    · exact
        (noNewHandles_ensureEntry s hDst).trans
          (noNewHandles_ensureEntry _ _)
    · exact noNewHandles_ensureEntry s hDst
  unfold Monitor.enter
  simp only
  split
  · exact hEnsured
  · exact hEnsured.trans (.of_lists rfl rfl rfl)

theorem noNewHandles_stop
    (hLookup : s.lookup mh = some m)
    (hStop : stopMeasure mh m s = .ok (s', out, ())) :
    NoNewHandles s s' := by
  rcases stopMeasure_cases hStop with ⟨_, _, _, _, _, hEq⟩
  rw [hEq]
  exact
    (NoNewHandles.setMeasure _ hLookup).trans
      (.of_lists rfl rfl rfl)

theorem noNewHandles_deactivate
    {ret : Int}
    (hLookup : s.lookup mh = some m)
    (hDone :
      deactivateMeasure answers mh m s = .ok (s', out, ret)) :
    NoNewHandles s s' := by
  rcases deactivateMeasure_cases hDone with
    hEq | hEq | ⟨_, _, hStop⟩
  · rw [hEq]
    exact .refl s
  · rw [hEq]
    exact .setMeasure _ hLookup
  · exact noNewHandles_stop hLookup hStop

theorem noNewHandles_destroy
    {ret : Int}
    (hDone :
      monDestroyMeasure answers mh s = .ok (s', out, ret)) :
    NoNewHandles s s' := by
  unfold monDestroyMeasure at hDone
  split at hDone
  · rw [← (Prod.mk.inj (Except.ok.inj hDone)).1]
    exact .refl s
  · rename_i m hLookup
    split at hDone
    · cases hDone
    · rename_i hDeactivate
      rw [← (Prod.mk.inj (Except.ok.inj hDone)).1]
      exact
        (noNewHandles_deactivate hLookup hDeactivate).trans
          (.erase _ mh)

theorem noNewHandles_activateAt
    {m' : MonMeasure σ π}
    {dst : σ}
    {mt : MsgType}
    {ret : Int}
    (hLookup : s.lookup mh = some m)
    (hDone :
      activateAt answers mh m' dst mt s =
        .ok (s', out, ret)) :
    NoNewHandles s s' := by
  have hEntered (m'' : MonMeasure σ π) :
      NoNewHandles s
        ((s.setMeasure mh m'').enter m'' ⟨dst, mt⟩) :=
    (NoNewHandles.setMeasure m'' hLookup).trans
      (noNewHandles_enter _ m'' ⟨dst, mt⟩)
  unfold activateAt at hDone
  simp only at hDone
  split at hDone
  · rw [← (Prod.mk.inj (Except.ok.inj hDone)).1]
    exact .setMeasure _ hLookup
  · split at hDone
    · split at hDone
      · rw [← (Prod.mk.inj (Except.ok.inj hDone)).1]
        exact hEntered _
      · split at hDone
        · cases hDone
        · rename_i hStop
          rw [← (Prod.mk.inj (Except.ok.inj hDone)).1]
          refine
            (hEntered _).trans (noNewHandles_stop ?_ hStop)
          rw [lookup_enter, lookup_setMeasure, if_pos rfl]
    · rw [← (Prod.mk.inj (Except.ok.inj hDone)).1]
      exact hEntered _

theorem noNewHandles_activate
    {dst : Option σ}
    {mt : MsgType}
    {ret : Int}
    (hLookup : s.lookup mh = some m)
    (hDone :
      activateMeasure answers mh m dst mt s =
        .ok (s', out, ret)) :
    NoNewHandles s s' := by
  unfold activateMeasure at hDone
  split at hDone
  · rw [← (Prod.mk.inj (Except.ok.inj hDone)).1]
    exact .setMeasure _ hLookup
  · simp only at hDone
    split at hDone
    · rw [← (Prod.mk.inj (Except.ok.inj hDone)).1]
      exact .setMeasure _ hLookup
    · split at hDone
      · rw [← (Prod.mk.inj (Except.ok.inj hDone)).1]
        exact .setMeasure _ hLookup
      · exact noNewHandles_activateAt hLookup hDone

theorem noNewHandles_response
    {response : MeasureResponse}
    (hDone :
      remoteMeasureResponseRx answers response s =
        .ok (s', out, ())) :
    NoNewHandles s s' := by
  unfold remoteMeasureResponseRx at hDone
  split at hDone
  · rw [← (Prod.mk.inj (Except.ok.inj hDone)).1]
    exact .refl s
  · rename_i m hLookup
    split at hDone
    · rw [← (Prod.mk.inj (Except.ok.inj hDone)).1]
      exact .setMeasure _ hLookup
    · split at hDone
      · split at hDone
        · split at hDone
          · split at hDone
            · cases hDone
            · rename_i hStop
              split at hDone
              · cases hDone
              · rename_i hDestroy
                rw [← (Prod.mk.inj (Except.ok.inj hDone)).1]
                exact
                  (noNewHandles_stop hLookup hStop).trans
                    (noNewHandles_destroy hDestroy)
          · rw [← (Prod.mk.inj (Except.ok.inj hDone)).1]
            exact .setMeasure _ hLookup
        · rw [← (Prod.mk.inj (Except.ok.inj hDone)).1]
          exact .setMeasure _ hLookup
      · rw [← (Prod.mk.inj (Except.ok.inj hDone)).1]
        exact .refl s

theorem noNewHandles_removePrevious
    {src : σ}
    {msg : InitRemoteMeasure}
    (hDone :
      removePrevious answers src msg s = .ok (s', out, ())) :
    NoNewHandles s s' := by
  unfold removePrevious at hDone
  split at hDone
  · rw [← (Prod.mk.inj (Except.ok.inj hDone)).1]
    exact .refl s
  · split at hDone
    · cases hDone
    · split at hDone
      · cases hDone
      · rename_i hDestroy
        rw [← (Prod.mk.inj (Except.ok.inj hDone)).1]
        exact noNewHandles_destroy hDestroy

theorem noNewHandles_deinit
    {src : σ}
    {msg : DeInitRemoteMeasure}
    (hDone :
      deinitRemoteMeasureRx answers src msg s =
        .ok (s', out, ())) :
    NoNewHandles s s' := by
  unfold deinitRemoteMeasureRx at hDone
  split at hDone
  · rw [← (Prod.mk.inj (Except.ok.inj hDone)).1]
    exact .refl s
  · rename_i m hLookup
    split at hDone
    · cases hDone
    · rename_i hDeactivate
      have hFirst :=
        noNewHandles_deactivate hLookup hDeactivate
      split at hDone
      · rw [← (Prod.mk.inj (Except.ok.inj hDone)).1]
        exact hFirst
      · split at hDone
        · cases hDone
        · rename_i hDestroy
          rw [← (Prod.mk.inj (Except.ok.inj hDone)).1]
          exact hFirst.trans (noNewHandles_destroy hDestroy)

end Calls

------------------------------------------------------------
-- Handles In Turn
------------------------------------------------------------

/-
  The handle whose turn it is follows the one given out last,
  and only handles that were given out are live.
-/
structure Monitor.InTurn (s : Monitor σ π) : Prop where
  cursor :
    (s.nextObject : Int) % maxNumMeasuresInstantiated =
      s.nextMeasureHandler
  given :
    ∀ (mh : Int) m, s.lookup mh = some m →
      0 ≤ mh ∧ mh < maxNumMeasuresInstantiated ∧
        mh < s.nextObject

theorem inTurn_initial :
    (Monitor.initial : Monitor σ π).InTurn where
  cursor := rfl
  given := by
    intro mh m hSome
    have hNone :
        (Monitor.initial : Monitor σ π).lookup mh = none :=
      Dict.lookup_empty mh
    rw [hNone] at hSome
    cases hSome

theorem Monitor.InTurn.keep
    {s s' : Monitor σ π}
    (hTurn : s.InTurn)
    (hSame : NoNewHandles s s') :
    s'.InTurn where
  cursor := by
    rw [hSame.cursor, hSame.count]
    exact hTurn.cursor
  given := by
    intro mh m hSome
    rw [hSame.count]
    cases hOld : s.lookup mh with
    | none =>
        rw [hSame.live mh hOld] at hSome
        cases hSome
    | some m' => exact hTurn.given mh m' hOld

/- A creation that succeeds gives out the next handle. -/
theorem createFrom_cases
    {s s' : Monitor σ π}
    {plugin : Option (MeasurePlugin π)}
    {mc : Capabilities}
    {mh : MonHandler}
    (hCreate : createFrom plugin mc s = .ok (mh, s')) :
    mh = s.nextMeasureHandler ∧ s.lookup mh = none ∧
      s'.nextObject = s.nextObject + 1 ∧
      s'.nextMeasureHandler =
        (if mh + 1 = maxNumMeasuresInstantiated then 0
          else mh + 1) ∧
      ∃ m, m.status = .stopped ∧
        ∀ mh', s'.lookup mh' =
          if mh' = mh then some m else s.lookup mh' := by
  unfold createFrom at hCreate
  cases plugin with
  | none => cases hCreate
  | some mp =>
      simp only at hCreate
      split at hCreate
      · cases hCreate
      · unfold insertNewInstance at hCreate
        simp only at hCreate
        split at hCreate
        · cases hCreate
        · rename_i hFree
          cases hCreate
          refine
            ⟨rfl, ?_, rfl, rfl, _, ?_,
              fun mh' => Dict.lookup_insert_eq _ _ mh' _⟩
          · simpa using hFree
          · rfl

/- Flags are refused with one code. -/
theorem erange_of_setFlags
    {caps flags f : Capabilities}
    {code : Int}
    (hSet : setFlags caps flags f = .error code) :
    code = -erange := by
  unfold setFlags at hSet
  split at hSet
  · cases hSet
  · split at hSet
    · exact (Except.error.inj hSet).symm
    · split at hSet
      · exact (Except.error.inj hSet).symm
      · split at hSet
        · cases hSet
        · split at hSet
          · exact (Except.error.inj hSet).symm
          · cases hSet

/- A creation is refused for its handle in one case. -/
theorem createFrom_enomem
    {s : Monitor σ π}
    {plugin : Option (MeasurePlugin π)}
    {mc : Capabilities}
    (hRefused : createFrom plugin mc s = .error (-enomem)) :
    s.lookup s.nextMeasureHandler ≠ none := by
  unfold createFrom at hRefused
  cases plugin with
  | none => exact absurd (Except.error.inj hRefused) (by decide)
  | some mp =>
      simp only at hRefused
      split at hRefused
      · rename_i code hSet
        -- the flags are refused with another code
        have hCode := erange_of_setFlags hSet
        rw [Except.error.inj hRefused] at hCode
        exact absurd hCode (by decide)
      · unfold insertNewInstance at hRefused
        simp only at hRefused
        split at hRefused
        · rename_i hLive
          intro hFree
          unfold Monitor.lookup at hFree
          rw [hFree] at hLive
          cases hLive
        · cases hRefused

/- The turn goes on to the next handle, or back to 0. -/
theorem next_in_turn
    {count : Nat}
    {cursor : Int}
    (hCursor :
      (count : Int) % maxNumMeasuresInstantiated = cursor) :
    ((count + 1 : Nat) : Int) % maxNumMeasuresInstantiated =
      if cursor + 1 = maxNumMeasuresInstantiated then 0
      else cursor + 1 := by
  unfold maxNumMeasuresInstantiated at *
  split
  · omega
  · omega

theorem Monitor.InTurn.create
    {s s' : Monitor σ π}
    {plugin : Option (MeasurePlugin π)}
    {mc : Capabilities}
    {mh : MonHandler}
    (hTurn : s.InTurn)
    (hCreate : createFrom plugin mc s = .ok (mh, s')) :
    s'.InTurn := by
  rcases createFrom_cases hCreate with
    ⟨hMh, _, hCount, hNext, m, _, hLookup⟩
  have hCursor := hTurn.cursor
  rw [← hMh] at hCursor
  constructor
  · rw [hNext, hCount]
    exact next_in_turn hCursor
  · intro (mh' : Int) m' hSome
    rw [hLookup] at hSome
    rw [hCount]
    by_cases hKey : mh' = mh
    · rw [hKey, ← hCursor]
      unfold maxNumMeasuresInstantiated
      omega
    · rw [if_neg hKey] at hSome
      have hOld := hTurn.given mh' m' hSome
      omega

theorem Monitor.InTurn.created
    {s : Monitor σ π}
    {plugin : Option (MeasurePlugin π)}
    {mc : Capabilities}
    (hTurn : s.InTurn) :
    (created s (createFrom plugin mc s)).InTurn := by
  unfold MONL.created
  split
  · exact hTurn
  · rename_i hCreate
    exact hTurn.create hCreate

section Runs

variable [DecidableEq σ]

theorem Monitor.InTurn.createForPeer
    {s s' : Monitor σ π}
    {plugins : Plugins π}
    {answers : Answers}
    {src : σ}
    {msg : InitRemoteMeasure}
    {out : List (Output σ)}
    (hTurn : s.InTurn)
    (hDone :
      createForPeer plugins answers src msg s =
        .ok (s', out, ())) :
    s'.InTurn := by
  unfold MONL.createForPeer at hDone
  split at hDone
  · rw [← (Prod.mk.inj (Except.ok.inj hDone)).1]
    exact hTurn
  · rename_i mh s₁ hCreate
    have hTurn₁ := hTurn.create hCreate
    split at hDone
    · rw [← (Prod.mk.inj (Except.ok.inj hDone)).1]
      exact hTurn₁
    · rename_i m hLookup
      simp only at hDone
      split at hDone
      · split at hDone
        · cases hDone
        · rename_i hActivate
          rw [← (Prod.mk.inj (Except.ok.inj hDone)).1]
          refine
            hTurn₁.keep
              ((NoNewHandles.setMeasure _ hLookup).trans
                (noNewHandles_activate ?_ hActivate))
          rw [lookup_setMeasure, if_pos rfl]
      · rw [← (Prod.mk.inj (Except.ok.inj hDone)).1]
        exact hTurn₁.keep (.setMeasure _ hLookup)

/- Handles stay in turn whatever happens. -/
theorem step_inTurn
    {s s' : Monitor σ π}
    {e : Event σ}
    {outputs : List (Output σ)}
    (plugins : Plugins π)
    (hStep : Step plugins s e outputs s')
    (hTurn : s.InTurn) :
    s'.InTurn := by
  unfold Step step at hStep
  cases e with
  | createId id mc =>
      rw [← (Prod.mk.inj (Except.ok.inj hStep)).1]
      exact hTurn.created
  | createName name mc =>
      rw [← (Prod.mk.inj (Except.ok.inj hStep)).1]
      exact hTurn.created
  | activate mh dst mt answers =>
      rcases withoutValue_cases hStep with ⟨ret, hDone⟩
      unfold monActivateMeasure at hDone
      split at hDone
      · rw [← (Prod.mk.inj (Except.ok.inj hDone)).1]
        exact hTurn
      · rename_i m hLookup
        exact hTurn.keep (noNewHandles_activate hLookup hDone)
  | deactivate mh answers =>
      rcases withoutValue_cases hStep with ⟨ret, hDone⟩
      unfold monDeactivateMeasure at hDone
      split at hDone
      · rw [← (Prod.mk.inj (Except.ok.inj hDone)).1]
        exact hTurn
      · rename_i m hLookup
        exact
          hTurn.keep (noNewHandles_deactivate hLookup hDone)
  | destroy mh answers =>
      rcases withoutValue_cases hStep with ⟨ret, hDone⟩
      exact hTurn.keep (noNewHandles_destroy hDone)
  | initRx src msg answers =>
      rcases withoutValue_cases hStep with ⟨ret, hDone⟩
      unfold initRemoteMeasureRx at hDone
      split at hDone
      · cases hDone
      · rename_i hRemove
        split at hDone
        · cases hDone
        · rename_i hCreate
          rw [← (Prod.mk.inj (Except.ok.inj hDone)).1]
          exact
            (hTurn.keep
              (noNewHandles_removePrevious hRemove))
              |>.createForPeer hCreate
  | deinitRx src msg answers =>
      rcases withoutValue_cases hStep with ⟨ret, hDone⟩
      exact hTurn.keep (noNewHandles_deinit hDone)
  | responseRx response answers =>
      rcases withoutValue_cases hStep with ⟨ret, hDone⟩
      exact hTurn.keep (noNewHandles_response hDone)

/-
  In every run a creation that succeeds returns a handle that
  no live measure uses, the one whose turn it is.  It fails
  for want of handles only when that one is in use, and not
  before all of them were given out once.
-/
theorem handles_in_turn
    {s : Monitor σ π}
    {plugins : Plugins π}
    {trace : List (Transition (Monitor σ π) (Event σ) (Output σ))}
    (id : MeasurementId)
    (name : String)
    (mc : Capabilities)
    {result : Except Int (MonHandler × Monitor σ π)}
    (hRun : Run (Step plugins) Monitor.initial trace s)
    (hCreate :
      monCreateMeasureId plugins id mc s = result ∨
        monCreateMeasureName plugins name mc s = result) :
    (∀ (mh : Int) s', result = .ok (mh, s') →
      s.lookup mh = none ∧ mh = s.nextMeasureHandler ∧
        0 ≤ mh ∧ mh < maxNumMeasuresInstantiated) ∧
      (result = .error (-enomem) →
        s.lookup s.nextMeasureHandler ≠ none ∧
          maxNumMeasuresInstantiated ≤ s.nextObject) := by
  have hTurn : s.InTurn :=
    hRun.invariant
      (fun _ _ _ _ hStep hOld =>
        step_inTurn plugins hStep hOld)
      inTurn_initial
  have hCursor := hTurn.cursor
  have hFrom : ∃ plugin, createFrom plugin mc s = result := by
    rcases hCreate with hCreate | hCreate
    · exact ⟨_, hCreate⟩
    · exact ⟨_, hCreate⟩
  rcases hFrom with ⟨plugin, hFrom⟩
  unfold maxNumMeasuresInstantiated at *
  constructor
  · intro mh s' hOk
    rw [hOk] at hFrom
    rcases createFrom_cases hFrom with ⟨hMh, hFree, _⟩
    refine ⟨hFree, hMh, ?_, ?_⟩
    · rw [hMh, ← hCursor]
      omega
    · rw [hMh, ← hCursor]
      omega
  · intro hError
    rw [hError] at hFrom
    have hLive := createFrom_enomem hFrom
    refine ⟨hLive, ?_⟩
    rcases Option.ne_none_iff_exists'.mp hLive with ⟨m, hLookup⟩
    -- had fewer been given out, the handle would be a new one
    have hGiven := (hTurn.given _ m hLookup).2.2
    rw [← hCursor] at hGiven
    omega

end Runs

------------------------------------------------------------
-- One Measure That Stays
------------------------------------------------------------

/- One measure is live, at this handle. -/
def Monitor.OnlyHandle
    (s : Monitor σ π)
    (mh : MonHandler) : Prop :=
  ∃ m, ∀ mh', s.lookup mh' = if mh' = mh then some m else none

/- The plugin of the generic measure, which has no flags. -/
def genericPlugins : Plugins Unit where
  byId mid :=
    if mid = 16 then
      some
        { id := 16
          caps := 0
          created := ()
          init := id
          stop := id
          writesInStop := false
          quiet := fun _ => rfl }
    else
      none
  byName _ := none

def plainAnswers : Answers where
  initSent := true
  scheduled := true
  stray := 0
  paramsAccepted := true

/-
  A measure is created and kept; then others are created and
  destroyed, one after the other.
-/
def createAndDestroy (rounds : Nat) : List (Event Unit) :=
  .createId 16 0 ::
    (List.range rounds).flatMap (fun k : Nat =>
      [.createId 16 0,
        .destroy ((k : Int) + 1) plainAnswers])

/- A creation of a generic measure when its handle is free. -/
theorem step_createGeneric
    {s : Monitor Unit Unit}
    (hFree : s.lookup s.nextMeasureHandler = none) :
    ∃ s',
      createFrom (genericPlugins.byId 16) 0 s =
          .ok (s.nextMeasureHandler, s') ∧
        Step genericPlugins s (.createId 16 0) [] s' := by
  have hCreate :
      ∃ s',
        createFrom (genericPlugins.byId 16) 0 s =
          .ok (s.nextMeasureHandler, s') := by
    unfold Monitor.lookup at hFree
    unfold createFrom genericPlugins setFlags
      insertNewInstance hasFlag txRxBi
    simp [hFree]
  rcases hCreate with ⟨s', hCreate⟩
  refine ⟨s', hCreate, ?_⟩
  unfold Step step monCreateMeasureId
  simp only [hCreate, created]

/- Another measure is created and destroyed. -/
theorem exists_round
    {s : Monitor Unit Unit}
    {k : Nat}
    (hOnly : s.OnlyHandle 0)
    (hNext : s.nextMeasureHandler = (k + 1 : Nat)) :
    ∃ trace s',
      Run (Step genericPlugins) s trace s' ∧
        trace.map Transition.event =
          [.createId 16 0, .destroy (k + 1) plainAnswers] ∧
        s'.OnlyHandle 0 ∧
        s'.nextMeasureHandler =
          if ((k + 1 : Nat) : Int) + 1 =
              maxNumMeasuresInstantiated then 0
          else ((k + 1 : Nat) : Int) + 1 := by
  rcases hOnly with ⟨m₀, hLookup⟩
  have hApart : s.nextMeasureHandler ≠ 0 := by
    rw [hNext]
    exact Int.natCast_ne_zero.mpr (Nat.succ_ne_zero k)
  have hFree : s.lookup s.nextMeasureHandler = none := by
    rw [hLookup, if_neg hApart]
  rcases step_createGeneric hFree with ⟨s₁, hCreate, hStep⟩
  rcases createFrom_cases hCreate with
    ⟨_, _, _, hNext₁, m, hStopped, hLookup₁⟩
  have hDestroy :
      Step genericPlugins s₁ (.destroy (k + 1) plainAnswers)
        []
        { s₁ with
          mMeasureInstances :=
            s₁.mMeasureInstances.erase (k + 1) } := by
    have hFound :
        s₁.mMeasureInstances.lookup ((k : Int) + 1) =
          some m := by
      have hAt := hLookup₁ s.nextMeasureHandler
      rw [if_pos rfl, hNext] at hAt
      exact_mod_cast hAt
    unfold Step step monDestroyMeasure deactivateMeasure
    simp only [hFound, hStopped, if_true]
    rfl
  refine
    ⟨_, _, .cons hStep (.cons hDestroy (.nil _)), rfl,
      ⟨m₀, ?_⟩, ?_⟩
  · intro mh'
    have hErased :=
      Dict.lookup_erase_eq s₁.mMeasureInstances
        ((k : Int) + 1) mh'
    have hAt := hLookup₁ mh'
    rw [hLookup mh', hNext] at hAt
    unfold Monitor.lookup at hAt ⊢
    rw [hErased, hAt]
    by_cases hKey : mh' = (k : Int) + 1
    · have hZero : mh' ≠ 0 := by
        rw [hKey]
        exact Int.natCast_ne_zero.mpr (Nat.succ_ne_zero k)
      rw [if_pos hKey, if_neg hZero]
    · have hOther : mh' ≠ ((k + 1 : Nat) : Int) := hKey
      rw [if_neg hKey, if_neg hOther]
  · rw [← hNext]
    exact hNext₁

/- The rounds up to the last handle but one. -/
theorem exists_rounds
    {rounds : Nat}
    (hRounds : (rounds : Int) < maxNumMeasuresInstantiated) :
    ∃ trace s,
      Run (Step genericPlugins)
          (Monitor.initial : Monitor Unit Unit) trace s ∧
        trace.map Transition.event =
          createAndDestroy rounds ∧
        s.OnlyHandle 0 ∧
        s.nextMeasureHandler =
          if (rounds : Int) + 1 = maxNumMeasuresInstantiated
            then 0
          else (rounds : Int) + 1 := by
  induction rounds with
  | zero =>
      have hLookup (mh : MonHandler) :
          (Monitor.initial : Monitor Unit Unit).lookup mh =
            none :=
        Dict.lookup_empty mh
      rcases step_createGeneric (hLookup _) with
        ⟨s, hCreate, hStep⟩
      rcases createFrom_cases hCreate with
        ⟨_, _, _, hNext, m, _, hLookup₁⟩
      refine
        ⟨_, s, .cons hStep (.nil s), rfl, ⟨m, ?_⟩, hNext⟩
      intro mh'
      have hAt := hLookup₁ mh'
      rw [hLookup mh'] at hAt
      exact hAt
  | succ rounds ih =>
      rw [Int.natCast_succ] at hRounds
      rcases ih (by omega) with
        ⟨trace, s, hRun, hEvents, hOnly, hNext⟩
      rw [if_neg (by omega)] at hNext
      have hNext₁ :
          s.nextMeasureHandler = ((rounds + 1 : Nat) : Int) :=
        hNext
      rcases exists_round hOnly hNext₁ with
        ⟨trace', s', hRun', hEvents', hOnly', hNext'⟩
      refine
        ⟨_, s', hRun.append hRun', ?_, hOnly', ?_⟩
      · rw [List.map_append, hEvents, hEvents']
        unfold createAndDestroy
        rw [List.range_succ, List.flatMap_append,
          List.flatMap_singleton]
        rfl
      · exact hNext'

/- With one live measure there is no handle left. -/
theorem one_measure_exhausts_handles :
    ∃ trace s,
      Run (Step genericPlugins)
          (Monitor.initial : Monitor Unit Unit) trace s ∧
        trace.map Transition.event =
          createAndDestroy 999999 ∧
        s.OnlyHandle 0 ∧
        monCreateMeasureId genericPlugins 16 0 s =
          .error (-enomem) := by
  rcases @exists_rounds 999999 (by decide) with
    ⟨trace, s, hRun, hEvents, hOnly, hNext⟩
  refine ⟨trace, s, hRun, hEvents, hOnly, ?_⟩
  rcases hOnly with ⟨m, hLookup⟩
  rw [if_pos (by decide)] at hNext
  have hLive :
      s.mMeasureInstances.lookup s.nextMeasureHandler =
        some m := by
    rw [hNext]
    exact (hLookup 0).trans (if_pos rfl)
  unfold monCreateMeasureId createFrom genericPlugins setFlags
    insertNewInstance hasFlag txRxBi
  simp [hLive]

/- Three measures, of which the second is destroyed. -/
def twoLive : List (Event Unit) :=
  [.createId 16 0, .createId 16 0, .createId 16 0,
    .destroy 1 plainAnswers]

/- The fourth handle is the next, although one is free. -/
theorem fourth_handle :
    ∃ trace s s',
      Run (Step genericPlugins)
          (Monitor.initial : Monitor Unit Unit) trace s ∧
        trace.map Transition.event = twoLive ∧
        (s.lookup 0).isSome = true ∧ s.lookup 1 = none ∧
        (s.lookup 2).isSome = true ∧
        monCreateMeasureId genericPlugins 16 0 s =
          .ok (3, s') ∧
        s.lookup 3 = none := by
  rcases
    exists_run
      (fun result : _ × Monitor Unit Unit =>
        (result.2.lookup 0).isSome &&
          (result.2.lookup 1).isNone &&
          (result.2.lookup 2).isSome &&
          match
            monCreateMeasureId genericPlugins 16 0 result.2
          with
          | .error _ => false
          | .ok (mh, _) => mh = 3)
      (by decide +kernel :
        (execute (step genericPlugins) Monitor.initial
          twoLive).toOption.any _ = true)
    with
    ⟨trace, s, hRun, hEvents, hCheck⟩
  simp only [Bool.and_eq_true, Option.isNone_iff_eq_none]
    at hCheck
  rcases hCheck with ⟨⟨⟨hFirst, hSecond⟩, hThird⟩, hFourth⟩
  cases hCreate :
      monCreateMeasureId genericPlugins 16 0 s with
  | error code =>
      rw [hCreate] at hFourth
      cases hFourth
  | ok result =>
      rcases result with ⟨mh, s'⟩
      rw [hCreate] at hFourth
      have hMh := of_decide_eq_true hFourth
      rw [hMh] at hCreate
      exact
        ⟨trace, s, s', hRun, hEvents, hFirst, hSecond, hThird,
          hCreate,
          ((handles_in_turn 16 "" 0 hRun (.inl hCreate)).1 3
            s' rfl).1⟩

end MONL

end NapaBaselibs
