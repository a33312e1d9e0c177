import NapaBaselibs.MONL.OwnedLists

/-
  Stopping a measure that has a remote counterpart.

  The calls of the user and the messages of the peers come in
  any order, for any measures.  A stop is sound if the
  measure is in its list and has its result lists.  It is
  not if another measure is in its place; and as the
  deactivation stops the measure at once, a successful
  `DEINITREMOTEMEASURE` response that still finds it STOPPING
  stops it a second time.

  Key definitions include:
    * `StopsOwn`, `KeepsPlace`, `Timely`
    * `Reuses`, `Reactivable`

  Key theorems include:
    * `step_goes`, `stopsOwn_of_sound`
    * `stop_protocol`
-/

------------------------------------------------------------
-- Conditions
------------------------------------------------------------

namespace NapaBaselibs

namespace MONL

variable {σ π : Type} [DecidableEq σ]

/-
  What may be stopped finds in its place nothing or itself,
  and a successful `DEINITREMOTEMEASURE` response does not
  find the measure STOPPING.
-/
def StopsOwn (s : Monitor σ π) : Event σ → Prop
| .deactivate mh _ =>
    ∀ m, s.lookup mh = some m → Stoppable s m
| .destroy mh _ =>
    ∀ m, s.lookup mh = some m → Stoppable s m
| .deinitRx _ msg _ =>
    ∀ m, s.lookup msg.mhRemote = some m → Stoppable s m
| .responseRx response _ =>
    response.Deinits →
      ∀ m, s.lookup response.mhRemote = some m →
        m.status ≠ .stopping
| _ => True

/-
  A listed measure is not directed elsewhere, and a
  deactivation does not find the measure STOPPED in its list.
-/
def KeepsPlace (s : Monitor σ π) : Event σ → Prop
| .activate mh dst mt _ =>
    ∀ m, s.lookup mh = some m → Directable s m dst mt
| .deactivate mh _ =>
    ∀ m, s.lookup mh = some m →
      ¬ (m.status = .stopped ∧ s.Listed m)
| _ => True

def Timely (s : Monitor σ π) (e : Event σ) : Prop :=
  StopsOwn s e ∧ KeepsPlace s e

/- The events that activate the measure or destroy it. -/
def Reuses (mh : MonHandler) : Event σ → Prop
| .activate mh' _ _ _ => mh = mh'
| .destroy mh' _ => mh = mh'
| .deinitRx _ msg _ => mh = msg.mhRemote
| _ => False

/-
  The object is still behind the handle, STOPPED and out of
  its list, and can be activated wherever its place is free.
-/
def Reactivable
    (mh : MonHandler)
    (object : Nat)
    (s : Monitor σ π) : Prop :=
  ∃ m, s.lookup mh = some m ∧ m.object = object ∧
    m.status = .stopped ∧ ¬ s.Listed m ∧
    ∀ (answers : Answers) (dst : σ) (mt : MsgType),
      answers.initSent = true →
        s.pointer none ⟨dst, mt⟩ (m.has remote) m.id = none →
          ∃ s' out,
            monActivateMeasure answers mh (some dst) mt s =
              .ok (s', out, eok)

instance (response : MeasureResponse) :
    Decidable response.Deinits :=
  inferInstanceAs (Decidable (_ ∧ _))

instance (s : Monitor σ π) (e : Event σ) :
    Decidable (StopsOwn s e) :=
  match e with
  | .createId _ _ => .isTrue trivial
  | .createName _ _ => .isTrue trivial
  | .activate _ _ _ _ => .isTrue trivial
  | .deactivate mh _ =>
      inferInstanceAs
        (Decidable (∀ m ∈ s.lookup mh, Stoppable s m))
  | .destroy mh _ =>
      inferInstanceAs
        (Decidable (∀ m ∈ s.lookup mh, Stoppable s m))
  | .initRx _ _ _ => .isTrue trivial
  | .deinitRx _ msg _ =>
      inferInstanceAs
        (Decidable (∀ m ∈ s.lookup msg.mhRemote, Stoppable s m))
  | .responseRx response _ =>
      inferInstanceAs
        (Decidable
          (response.Deinits →
            ∀ m ∈ s.lookup response.mhRemote,
              m.status ≠ .stopping))

instance (s : Monitor σ π) (e : Event σ) :
    Decidable (KeepsPlace s e) :=
  match e with
  | .createId _ _ => .isTrue trivial
  | .createName _ _ => .isTrue trivial
  | .activate mh dst mt _ =>
      inferInstanceAs
        (Decidable (∀ m ∈ s.lookup mh, Directable s m dst mt))
  | .deactivate mh _ =>
      inferInstanceAs
        (Decidable
          (∀ m ∈ s.lookup mh,
            ¬ (m.status = .stopped ∧ s.Listed m)))
  | .destroy _ _ => .isTrue trivial
  | .initRx _ _ _ => .isTrue trivial
  | .deinitRx _ _ _ => .isTrue trivial
  | .responseRx _ _ => .isTrue trivial

instance (s : Monitor σ π) (e : Event σ) :
    Decidable (Timely s e) :=
  inferInstanceAs (Decidable (_ ∧ _))

instance (mh : MonHandler) (e : Event σ) :
    Decidable (Reuses mh e) :=
  match e with
  | .createId _ _ => .isFalse not_false
  | .createName _ _ => .isFalse not_false
  | .activate mh' _ _ _ =>
      inferInstanceAs (Decidable (mh = mh'))
  | .deactivate _ _ => .isFalse not_false
  | .destroy mh' _ => inferInstanceAs (Decidable (mh = mh'))
  | .initRx _ _ _ => .isFalse not_false
  | .deinitRx _ msg _ =>
      inferInstanceAs (Decidable (mh = msg.mhRemote))
  | .responseRx _ _ => .isFalse not_false

------------------------------------------------------------
-- Activation
------------------------------------------------------------

/- A remote counterpart is a flag. -/
omit [DecidableEq σ] in
theorem flags_ne_zero
    {m : MonMeasure σ π}
    (hCounterpart : m.remoteCounterpart = true) :
    m.flags ≠ 0 := by
  intro hZero
  unfold MonMeasure.remoteCounterpart MonMeasure.has
    hasFlag at hCounterpart
  rw [hZero] at hCounterpart
  simp at hCounterpart

/- The measure while the peer is asked for its counterpart. -/
def MonMeasure.initialising
    (m : MonMeasure σ π)
    (dst : σ)
    (mt : MsgType) : MonMeasure σ π :=
  { m.directed (some dst) mt with
    plugin := m.measurePlugin.init m.plugin
    results :=
      some
        { hDst := ⟨dst, mt⟩
          packets := m.has packet
          remote := m.has remote }
    status := .initialising }

/- The activation of a measure with a remote counterpart. -/
theorem monActivateMeasure_eq
    {s : Monitor σ π}
    {mh : MonHandler}
    {m : MonMeasure σ π}
    (answers : Answers)
    (dst : σ)
    (mt : MsgType)
    (hLookup : s.lookup mh = some m)
    (hCounterpart : m.remoteCounterpart = true) :
    monActivateMeasure answers mh (some dst) mt s =
      if (s.pointer none ⟨dst, mt⟩ (m.has remote)
          m.id).isSome then
        .ok
          (s.setMeasure mh
              { m.directed (some dst) mt with
                plugin := m.measurePlugin.init m.plugin },
            [], -eexists)
      else if answers.initSent then
        .ok
          ((s.setMeasure mh (m.initialising dst mt)).enter
              (m.initialising dst mt) ⟨dst, mt⟩,
            [.sendInit dst
              (initRemoteMeasureOf (m.initialising dst mt)
                mt)],
            eok)
      else
        match
          stopMeasure mh (m.initialising dst mt)
            ((s.setMeasure mh (m.initialising dst mt)).enter
              (m.initialising dst mt) ⟨dst, mt⟩)
        with
        | .error fault => .error fault
        | .ok (s', out, _) => .ok (s', out, -enomem) := by
  have hFlags := flags_ne_zero hCounterpart
  have hRemote :
      ({ m.directed (some dst) mt with
          plugin := m.measurePlugin.init m.plugin } :
        MonMeasure σ π).remoteCounterpart = true :=
    hCounterpart
  rw [Monitor.lookup] at hLookup
  unfold monActivateMeasure activateMeasure
  simp only [hLookup, hFlags, reduceCtorEq, false_and,
    if_false]
  unfold activateAt
  simp only [hRemote, if_true]
  rfl

/- With its place free a measure can be activated. -/
theorem can_activate
    {s : Monitor σ π}
    {mh : MonHandler}
    {m : MonMeasure σ π}
    {answers : Answers}
    {dst : σ}
    {mt : MsgType}
    (hLookup : s.lookup mh = some m)
    (hCounterpart : m.remoteCounterpart = true)
    (hSent : answers.initSent = true)
    (hFree :
      s.pointer none ⟨dst, mt⟩ (m.has remote) m.id = none) :
    ∃ s' out,
      monActivateMeasure answers mh (some dst) mt s =
        .ok (s', out, eok) := by
  rw [monActivateMeasure_eq answers dst mt hLookup
    hCounterpart, hFree, hSent]
  exact ⟨_, _, rfl⟩

------------------------------------------------------------
-- Steps
------------------------------------------------------------

theorem created_leaves
    {s : Monitor σ π}
    (plugin : Option (MeasurePlugin π))
    (mc : Capabilities)
    (hOwned : Owned s) :
    Leaves (fun _ => False) s
      (created s (createFrom plugin mc s)) := by
  unfold created
  split
  · exact .refl hOwned
  · rename_i mh s' hCreate
    rcases created_of_createFrom hCreate with ⟨m, hCreated⟩
    exact (insert_leaves hOwned hCreated).1

/- The step is that of an operation that goes through. -/
theorem step_of_goes
    {α : Type}
    {s : Monitor σ π}
    {outcome : Outcome σ π α}
    {P : Monitor σ π → Prop}
    (plugins : Plugins π)
    (e : Event σ)
    (hEq : step plugins s e = withoutValue outcome)
    (hGoes : Goes outcome P) :
    ∃ outputs s', Step plugins s e outputs s' ∧
      (∀ o ∈ outputs, o.Sound) ∧ P s' := by
  rcases hGoes with ⟨s', out, ret, hOk, hSound, hPost⟩
  exact ⟨out, s', hEq.trans (withoutValue_ok hOk), hSound, hPost⟩

/-
  A step that stops nothing in another's place either meets a
  measure that was deleted, or goes through with sound stops.
-/
theorem step_goes
    {s : Monitor σ π}
    {e : Event σ}
    (plugins : Plugins π)
    (hOwned : Owned s)
    (hStops : StopsOwn s e) :
    step plugins s e = .error .deletedMeasure ∨
      ∃ outputs s', Step plugins s e outputs s' ∧
        (∀ o ∈ outputs, o.Sound) ∧
        (KeepsPlace s e →
          Leaves (fun mh => Reuses mh e) s s') := by
  cases e with
  | createId id mc =>
      exact
        .inr
          ⟨[], _, rfl, sound_nil,
            fun _ => (created_leaves _ mc hOwned).of_none⟩
  | createName name mc =>
      exact
        .inr
          ⟨[], _, rfl, sound_nil,
            fun _ => (created_leaves _ mc hOwned).of_none⟩
  | activate mh dst mt answers =>
      rcases step_of_goes plugins
          (.activate mh dst mt answers) rfl
          (monActivateMeasure_goes answers mh dst mt s) with
        ⟨outputs, s', hStep, hSound, hLeaves⟩
      exact
        .inr
          ⟨outputs, s', hStep, hSound,
            fun hPlace => hLeaves hOwned hPlace⟩
  | deactivate mh answers =>
      rcases step_of_goes plugins
          (.deactivate mh answers) rfl
          (monDeactivateMeasure_goes answers hOwned
            hStops) with
        ⟨outputs, s', hStep, hSound, hLeaves⟩
      exact
        .inr
          ⟨outputs, s', hStep, hSound,
            fun _ => hLeaves.1.of_none⟩
  | destroy mh answers =>
      rcases step_of_goes plugins
          (.destroy mh answers) rfl
          (monDestroyMeasure_goes answers hOwned hStops) with
        ⟨outputs, s', hStep, hSound, hLeaves⟩
      exact .inr ⟨outputs, s', hStep, hSound, fun _ => hLeaves⟩
  | initRx src msg answers =>
      rcases initRemoteMeasureRx_goes plugins answers src msg
          hOwned with
        hDeleted | hGoes
      · refine .inl ?_
        show withoutValue _ = _
        rw [hDeleted]
        rfl
      · rcases step_of_goes plugins
            (.initRx src msg answers) rfl hGoes with
          ⟨outputs, s', hStep, hSound, hLeaves⟩
        exact
          .inr
            ⟨outputs, s', hStep, hSound,
              fun _ => hLeaves.of_none⟩
  | deinitRx src msg answers =>
      rcases step_of_goes plugins
          (.deinitRx src msg answers) rfl
          (deinitRemoteMeasureRx_goes answers src hOwned
            hStops) with
        ⟨outputs, s', hStep, hSound, hLeaves⟩
      exact .inr ⟨outputs, s', hStep, hSound, fun _ => hLeaves⟩
  | responseRx response answers =>
      rcases step_of_goes plugins
          (.responseRx response answers) rfl
          (remoteMeasureResponseRx_goes answers hOwned
            hStops) with
        ⟨outputs, s', hStep, hSound, hLeaves⟩
      exact
        .inr
          ⟨outputs, s', hStep, hSound,
            fun _ => hLeaves.1.of_none⟩

------------------------------------------------------------
-- Unsound Stops
------------------------------------------------------------

theorem listed_eq
    (s : Monitor σ π)
    (m : MonMeasure σ π) :
    s.listed m = true ↔ s.Listed m := by
  unfold Monitor.listed Monitor.Listed
  rw [← entryOf_eq]
  cases s.entryOf m with
  | none => simp
  | some found => simp

/- A stop whose outputs are sound is of a listed measure. -/
theorem listed_of_stop
    {s s' : Monitor σ π}
    {mh : MonHandler}
    {m : MonMeasure σ π}
    {out : List (Output σ)}
    (hStop : stopMeasure mh m s = .ok (s', out, ()))
    (hSound : ∀ o ∈ out, o.Sound) :
    s.Listed m := by
  unfold stopMeasure at hStop
  split at hStop
  · cases hStop
  · split at hStop
    · cases hStop
    · split at hStop
      · cases hStop
      · have hPair := Prod.mk.inj (Except.ok.inj hStop)
        have hOut := (Prod.mk.inj hPair.2).1
        rw [← hOut] at hSound
        have hFirst := hSound _ List.mem_cons_self
        exact (listed_eq s m).mp hFirst.1

theorem stoppable_of_deactivate
    {s s' : Monitor σ π}
    {mh : MonHandler}
    {m : MonMeasure σ π}
    {answers : Answers}
    {out : List (Output σ)}
    {ret : Int}
    (hDone :
      deactivateMeasure answers mh m s = .ok (s', out, ret))
    (hSound : ∀ o ∈ out, o.Sound) :
    Stoppable s m := by
  unfold deactivateMeasure at hDone
  by_cases hStopped : m.status = .stopped
  · exact .inl hStopped
  by_cases hFlags : m.flags = 0
  · exact .inr (.inl hFlags)
  by_cases hFree : s.loadedInPlace m = none
  · exact .inr (.inr (.inl hFree))
  rw [if_neg hStopped, if_neg hFlags] at hDone
  rw [← entryOf_eq] at hFree
  cases hEntry : s.entryOf m with
  | none =>
      rw [hEntry] at hFree
      exact absurd rfl hFree
  | some found =>
      rw [hEntry] at hFree hDone
      have hLoaded : loadedAs m found.2 ≠ none := hFree
      simp only [if_neg hLoaded] at hDone
      cases hStop : stopMeasure mh m s with
      | error fault =>
          rw [hStop] at hDone
          cases hDone
      | ok result =>
          rcases result with ⟨s₁, out₁, _⟩
          rw [hStop] at hDone
          have hPair := Prod.mk.inj (Except.ok.inj hDone)
          have hOut := (Prod.mk.inj hPair.2).1
          rw [← hOut] at hSound
          exact
            .inr (.inr (.inr (listed_of_stop hStop hSound)))

omit [DecidableEq σ] in
theorem outcome_of_step
    {α : Type}
    {outcome : Outcome σ π α}
    {s' : Monitor σ π}
    {out : List (Output σ)}
    (hStep : withoutValue outcome = .ok (s', out)) :
    ∃ ret, outcome = .ok (s', out, ret) := by
  cases outcome with
  | error fault => cases hStep
  | ok result =>
      have hPair := Prod.mk.inj (Except.ok.inj hStep)
      refine ⟨result.2.2, ?_⟩
      rw [← hPair.1, ← hPair.2]

/- A step whose stops are sound stops nothing in another's place. -/
theorem stopsOwn_of_sound
    {s s' : Monitor σ π}
    {e : Event σ}
    {outputs : List (Output σ)}
    {plugins : Plugins π}
    (hOwned : Owned s)
    (hStep : Step plugins s e outputs s')
    (hSound : ∀ o ∈ outputs, o.Sound) :
    StopsOwn s e := by
  cases e with
  | createId id mc => trivial
  | createName name mc => trivial
  | activate mh dst mt answers => trivial
  | initRx src msg answers => trivial
  | deactivate mh answers =>
      rcases outcome_of_step hStep with ⟨ret, hDone⟩
      intro m hLookup
      rw [Monitor.lookup] at hLookup
      unfold monDeactivateMeasure at hDone
      rw [hLookup] at hDone
      exact stoppable_of_deactivate hDone hSound
  | destroy mh answers =>
      rcases outcome_of_step hStep with ⟨ret, hDone⟩
      intro m hLookup
      rw [Monitor.lookup] at hLookup
      unfold monDestroyMeasure at hDone
      simp only [hLookup] at hDone
      split at hDone
      · cases hDone
      · rename_i s₁ out₁ ret₁ hDeactivate
        have hPair := Prod.mk.inj (Except.ok.inj hDone)
        rw [(Prod.mk.inj hPair.2).1] at hDeactivate
        exact stoppable_of_deactivate hDeactivate hSound
  | deinitRx src msg answers =>
      rcases outcome_of_step hStep with ⟨ret, hDone⟩
      intro m hLookup
      rw [Monitor.lookup] at hLookup
      unfold deinitRemoteMeasureRx at hDone
      simp only [hLookup] at hDone
      split at hDone
      · cases hDone
      · rename_i s₁ out₁ ret₁ hDeactivate
        apply stoppable_of_deactivate hDeactivate
        intro o hMem
        apply hSound
        split at hDone
        · have hPair := Prod.mk.inj (Except.ok.inj hDone)
          rw [← (Prod.mk.inj hPair.2).1]
          exact List.mem_append_left _ hMem
        · split at hDone
          · cases hDone
          · have hPair := Prod.mk.inj (Except.ok.inj hDone)
            rw [← (Prod.mk.inj hPair.2).1]
            exact
              List.mem_append_left _
                (List.mem_append_left _ hMem)
  | responseRx response answers =>
      rcases outcome_of_step hStep with ⟨ret, hDone⟩
      rintro ⟨hIsDeinit, hStatus⟩ m hLookup hStopping
      have hIsInit : response.command ≠ initRemoteMeasureId := by
        rw [hIsDeinit]
        decide
      have hFound := hLookup
      rw [Monitor.lookup] at hFound
      unfold remoteMeasureResponseRx at hDone
      simp only [hFound, if_neg hIsInit, if_pos hIsDeinit,
        if_pos hStatus, if_pos hStopping] at hDone
      split at hDone
      · cases hDone
      · rename_i s₁ out₁ _ hStop
        have hListed : s.Listed m := by
          apply listed_of_stop hStop
          intro o hMem
          apply hSound
          split at hDone
          · cases hDone
          · have hPair := Prod.mk.inj (Except.ok.inj hDone)
            rw [← (Prod.mk.inj hPair.2).1]
            exact List.mem_append_left _ hMem
        exact (hOwned.of_listed hLookup hListed).2.2 hStopping

------------------------------------------------------------
-- A Stopped Measure
------------------------------------------------------------

/- The object is behind the handle, and in no list. -/
def OutOfLists
    (mh : MonHandler)
    (m : MonMeasure σ π)
    (s : Monitor σ π) : Prop :=
  ∃ m', s.lookup mh = some m' ∧ SameMeasure m m' ∧
    s.Unlisted m.object

/- What a step leaves that is timely. -/
structure TimelyStep
    (s : Monitor σ π)
    (e : Event σ)
    (outputs : List (Output σ))
    (s' : Monitor σ π) : Prop where
  sound : ∀ o ∈ outputs, o.Sound
  leaves : Leaves (fun mh => Reuses mh e) s s'
  deactivated :
    ∀ mh answers, e = .deactivate mh answers →
      ∀ m, s.lookup mh = some m → OutOfLists mh m s'
  stopped :
    ∀ response answers, e = .responseRx response answers →
      response.Deinits →
        ∀ m, s'.lookup response.mhRemote = some m →
          m.status = .stopped

/- Only one state can be behind a step. -/
theorem step_unique
    {plugins : Plugins π}
    {s s₁ s₂ : Monitor σ π}
    {e : Event σ}
    {out₁ out₂ : List (Output σ)}
    (hFirst : Step plugins s e out₁ s₁)
    (hSecond : Step plugins s e out₂ s₂) :
    out₁ = out₂ ∧ s₁ = s₂ := by
  unfold Step at hFirst hSecond
  rw [hFirst] at hSecond
  have hPair := Prod.mk.inj (Except.ok.inj hSecond)
  exact ⟨hPair.2, hPair.1⟩

theorem timelyStep_of_step
    {plugins : Plugins π}
    {s s' : Monitor σ π}
    {e : Event σ}
    {outputs : List (Output σ)}
    (hOwned : Owned s)
    (hTimely : Timely s e)
    (hStep : Step plugins s e outputs s') :
    TimelyStep s e outputs s' := by
  rcases step_goes plugins hOwned hTimely.1 with
    hDeleted | ⟨outputs₁, s₁, hStep₁, hSound, hLeaves⟩
  · rw [Step, hDeleted] at hStep
    cases hStep
  · rcases step_unique hStep hStep₁ with ⟨hOut, hState⟩
    rw [← hOut] at hSound
    rw [← hState] at hLeaves
    refine ⟨hSound, hLeaves hTimely.2, ?_, ?_⟩
    · rintro mh answers rfl m hLookup
      rcases step_of_goes plugins
          (.deactivate mh answers) rfl
          (monDeactivateMeasure_goes answers hOwned
            hTimely.1) with
        ⟨_, s₂, hStep₂, _, _, hDone⟩
      rw [(step_unique hStep hStep₂).2]
      rcases (hDone m hLookup).measure with
        ⟨m', hLookup', hSame, _⟩
      exact
        ⟨m', hLookup', hSame,
          (hDone m hLookup).unlisted
            (hTimely.2 m hLookup)⟩
    · rintro response answers rfl hDeinits
      rcases step_of_goes plugins
          (.responseRx response answers) rfl
          (remoteMeasureResponseRx_goes answers hOwned
            hTimely.1) with
        ⟨_, s₂, hStep₂, _, _, hStopped⟩
      rw [(step_unique hStep hStep₂).2]
      exact hStopped hDeinits

/- The lists are owned throughout a run that is timely. -/
theorem owned_of_run
    {plugins : Plugins π}
    {s₀ s : Monitor σ π}
    {trace :
      List (Transition (Monitor σ π) (Event σ) (Output σ))}
    (hRun : Run (Step plugins) s₀ trace s)
    (hTimely :
      ∀ transition ∈ trace,
        Timely transition.pre transition.event)
    (hStart : Owned s₀) :
    Owned s ∧
      ∀ transition ∈ trace,
        TimelyStep transition.pre transition.event
          transition.outputs transition.post := by
  have hOwned :=
    Run.invariant_of_steps Owned
      (fun transition =>
        Timely transition.pre transition.event)
      (fun _ hStep hGuard hInv =>
        (timelyStep_of_step hInv hGuard hStep).leaves.owned)
      hRun hTimely hStart
  refine ⟨hOwned.1, ?_⟩
  intro transition hMem
  exact
    timelyStep_of_step (hOwned.2 transition hMem).1
      (hTimely transition hMem) (hRun.mem_step hMem)

/- Out of the lists the measure stays out of them. -/
theorem outOfLists_of_run
    {plugins : Plugins π}
    {s₀ s : Monitor σ π}
    {mh : MonHandler}
    {m : MonMeasure σ π}
    {trace :
      List (Transition (Monitor σ π) (Event σ) (Output σ))}
    (hRun : Run (Step plugins) s₀ trace s)
    (hSteps :
      ∀ transition ∈ trace,
        ¬ Reuses mh transition.event ∧
          TimelyStep transition.pre transition.event
            transition.outputs transition.post)
    (hStart : OutOfLists mh m s₀) :
    OutOfLists mh m s := by
  refine
    (Run.invariant_of_steps (OutOfLists mh m)
      (fun transition =>
        ¬ Reuses mh transition.event ∧
          TimelyStep transition.pre transition.event
            transition.outputs transition.post)
      ?_ hRun hSteps hStart).1
  rintro transition _ ⟨hOther, hStep⟩
    ⟨m₁, hLookup, hSame, hUnlisted⟩
  rw [← hSame.object] at hUnlisted
  rcases hStep.leaves.spared mh m₁ hOther hLookup
      hUnlisted with
    ⟨m₂, hLookup₂, hSame₂, hUnlisted₂⟩
  rw [hSame.object] at hUnlisted₂
  exact ⟨m₂, hLookup₂, hSame.trans hSame₂, hUnlisted₂⟩

/- STOPPED and in no list a measure can be activated. -/
theorem reactivable
    {s : Monitor σ π}
    {mh : MonHandler}
    {m : MonMeasure σ π}
    (hOut : OutOfLists mh m s)
    (hStopped :
      ∀ m', s.lookup mh = some m' → m'.status = .stopped)
    (hCounterpart : m.remoteCounterpart = true) :
    Reactivable mh m.object s := by
  rcases hOut with ⟨m', hLookup, hSame, hUnlisted⟩
  have hCounterpart' : m'.remoteCounterpart = true := by
    unfold MonMeasure.remoteCounterpart MonMeasure.has
      at hCounterpart ⊢
    rw [hSame.flags]
    exact hCounterpart
  rw [← hSame.object] at hUnlisted
  refine
    ⟨m', hLookup, hSame.object, hStopped m' hLookup,
      not_listed_of_unlisted hUnlisted, ?_⟩
  intro answers dst mt hSent hFree
  exact can_activate hLookup hCounterpart' hSent hFree

------------------------------------------------------------
-- The Protocol
------------------------------------------------------------

/- A response of the peer of the first measure. -/
def responseToFirst
    (command : BitVec 32)
    (status : Int) : Event Nat :=
  .responseRx
    { mhRemote := 0
      mhLocal := 3
      command := command
      status := status }
    .granted

/- A loss measure that the peer has accepted. -/
def acceptedFirst : List (Event Nat) :=
  [.createId 10 (inBand ||| packet),
    .createId 10 (inBand ||| packet),
    .activate 0 (some 7) 1 .granted,
    responseToFirst initRemoteMeasureId eok]

/-
  While the peer refuses to stop, another measure takes the
  place.
-/
def placeTaken : List (Event Nat) :=
  [responseToFirst deinitRemoteMeasureId (-einval),
    .activate 1 (some 7) 1 .granted]

/- The measures that are deactivated have a counterpart. -/
def deactivatesRemote
    (transition :
      Transition (Monitor Nat Unit) (Event Nat) (Output Nat)) :
    Bool :=
  match transition.event with
  | .deactivate mh _ =>
      (transition.pre.lookup mh).any
        (fun m => m.remoteCounterpart && m.object == 0)
  | _ => true

end MONL

end NapaBaselibs
