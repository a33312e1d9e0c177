import NapaBaselibs.MONL.CtrlMsg

/-
  When the handlers of control messages read inside.

  A handler reads more the further it gets, and how far it
  gets depends on the state.  For each type the condition says
  what must be there for the reads that are made in the state
  before, and which short messages are answered without a
  change.

  Key definitions include:
    * `NoPrevious`, `PayloadRead`
    * `CtrlInside`

  Key theorems include:
    * `initRemoteMeasureBytes_sound_iff`
    * `remoteResultsBytes_sound_iff`
    * `ctrl_msg_bounded_iff`
    * `receiveCtrlMsg_refines`
-/

------------------------------------------------------------
-- Conditions
------------------------------------------------------------

namespace NapaBaselibs

namespace MONL

variable {σ π : Type} [DecidableEq σ]

/- No previous instance that the request would destroy. -/
def NoPrevious
    (src : σ)
    (msg : InitRemoteMeasure)
    (s : Monitor σ π) : Prop :=
  ∀ object,
    s.pointer none ⟨src, msg.msgType⟩ (hasFlag msg.mc remote)
        msg.mid =
      some object →
      ∃ m, s.instanceAt object = some m ∧
        s.lookup m.mhLocal = none

/-
  The request has all its parameters; or it has its fields,
  replaces no instance, and none can be created for it.
-/
def InitInside
    (plugins : Plugins π)
    (src : σ)
    (buf : List UInt8)
    (s : Monitor σ π) : Prop :=
  let msg := initRemoteMeasureAt buf
  19 + 8 * paramCount buf ≤ buf.length ∨
    (17 ≤ buf.length ∧ NoPrevious src msg s ∧
      (monCreateMeasureId plugins msg.mid msg.mc s).isOk =
        false)

/-
  The response is complete, or its handle is there and not
  valid, or its command is there and unknown.
-/
def ResponseInside
    (buf : List UInt8)
    (s : Monitor σ π) : Prop :=
  20 ≤ buf.length ∨
    (8 ≤ buf.length ∧
      s.lookup (int32Of (fieldOf buf 4 4)) = none) ∨
    (16 ≤ buf.length ∧
      uint32Of (fieldOf buf 12 4) ≠ initRemoteMeasureId ∧
      uint32Of (fieldOf buf 12 4) ≠ deinitRemoteMeasureId)

/- There are all pairs, or none is announced. -/
def ResultsInside (buf : List UInt8) : Prop :=
  8 ≤ buf.length ∧
    (resultCount buf = 0 ∨
      9 + 12 * resultCount buf ≤ buf.length)

/- The data is for a local RTT measure that receives it. -/
def PayloadRead
    (src : σ)
    (mh : MonHandler)
    (s : Monitor σ π) : Prop :=
  ∃ m, s.lookup mh = some m ∧ m.status = .running ∧
    m.dstSocketid = some src ∧
    (m.has packet = true ∨ m.has data = true) ∧
    s.hasEntry ⟨src, msgTypeMonl⟩ = true ∧ m.id = rttId ∧
    m.has remote = false

/- The handles are there, and a time if it is read. -/
def OobInside
    (src : σ)
    (buf : List UInt8)
    (s : Monitor σ π) : Prop :=
  12 ≤ buf.length ∧
    (PayloadRead src (int32Of (fieldOf buf 8 4)) s →
      12 + timevalSize ≤ buf.length)

/- What the handler for the type needs. -/
def BodyInside
    (plugins : Plugins π)
    (sid : σ)
    (buf : List UInt8)
    (s : Monitor σ π) : Prop :=
  if headerType buf = initRemoteMeasureType then
    InitInside plugins sid buf s
  else if headerType buf = remoteMeasureResponseType then
    ResponseInside buf s
  else if headerType buf = deinitRemoteMeasureType then
    12 ≤ buf.length
  else if headerType buf = remoteResultsType then
    ResultsInside buf
  else if headerType buf = oobDataType then
    OobInside sid buf s
  else
    True

/-
  There is the length of the header, and it is more than was
  received; or there is a header, and what its type needs.
-/
def CtrlInside
    (plugins : Plugins π)
    (sid : σ)
    (buf : List UInt8)
    (s : Monitor σ π) : Prop :=
  2 ≤ buf.length ∧
    (buf.length < headerLength buf ∨
      (4 ≤ buf.length ∧ BodyInside plugins sid buf s))

------------------------------------------------------------
-- Reads
------------------------------------------------------------

theorem readBytes_eq_ok
    {buf : List UInt8}
    {start count : Nat}
    (hInside : start + count ≤ buf.length) :
    readBytes buf start count = .ok (fieldOf buf start count) :=
  Bounded.read_eq_ok hInside _

theorem readBytes_eq_error
    {buf : List UInt8}
    {start count : Nat}
    (hOutside : buf.length < start + count) :
    readBytes buf start count = .error .readBeyond :=
  Bounded.read_eq_error hOutside _

/- A handler that starts with a read outside is not sound. -/
omit [DecidableEq σ] in
theorem not_sound_of_read
    {buf : List UInt8}
    {s : Monitor σ π}
    {start count : Nat}
    {rest : List UInt8 → Except CtrlFault (CtrlResult σ π)}
    (hOutside : buf.length < start + count) :
    ¬ CtrlSound buf s (readBytes buf start count >>= rest) := by
  intro hSound
  apply hSound.1
  rw [readBytes_eq_error hOutside]
  rfl

/- A complete message needs no more than reads inside. -/
omit [DecidableEq σ] in
theorem sound_of_complete
    {buf : List UInt8}
    {s : Monitor σ π}
    {outcome : Except CtrlFault (CtrlResult σ π)}
    (hComplete : announced buf ≤ buf.length)
    (hInside : outcome ≠ .error .readBeyond) :
    CtrlSound buf s outcome :=
  ⟨hInside, fun hShort =>
    absurd hComplete (Nat.not_le.mpr hShort)⟩

/- A message that is answered without a change. -/
omit [DecidableEq σ] in
theorem sound_of_unchanged
    {buf : List UInt8}
    {s : Monitor σ π}
    {outcome : Except CtrlFault (CtrlResult σ π)}
    {out : List (CtrlOutput σ)}
    (hEq : outcome = .ok (s, out))
    (hNone : ∀ mh bytes, .newSample mh bytes ∉ out) :
    CtrlSound buf s outcome := by
  rw [hEq]
  refine ⟨?_, fun _ => ⟨out, rfl, hNone⟩⟩
  intro hBeyond
  cases hBeyond

omit [DecidableEq σ] in
theorem dispatched_ne_readBeyond
    (outcome : Outcome σ π Unit) :
    dispatched outcome ≠ .error .readBeyond := by
  unfold dispatched
  cases outcome with
  | error fault =>
      intro hEq
      cases hEq
  | ok result =>
      intro hEq
      cases hEq

theorem map_ne_readBeyond
    {α β : Type}
    {outcome : Except CtrlFault α}
    (f : α → β)
    (hInside : outcome ≠ .error .readBeyond) :
    outcome.map f ≠ .error .readBeyond := by
  cases outcome with
  | error fault =>
      intro hEq
      apply hInside
      cases hEq
      rfl
  | ok value =>
      intro hEq
      cases hEq

/- No handler of the dispatcher takes a sample. -/
omit [DecidableEq σ] in
theorem not_newSample_of_dispatched
    (out : List (Output σ))
    (mh : MonHandler)
    (bytes : List UInt8) :
    .newSample mh bytes ∉ out.map CtrlOutput.dispatched := by
  intro hMem
  rcases List.mem_map.mp hMem with ⟨o, _, hEq⟩
  cases hEq

------------------------------------------------------------
-- Requests
------------------------------------------------------------

/- All parameters are there. -/
theorem setParameters_complete
    {buf : List UInt8}
    (accepts : Nat → List UInt8 → Bool)
    (i n : Nat)
    (hComplete : 19 + 8 * (i + n) ≤ buf.length) :
    ∃ accepted,
      setParameters accepts buf i n = .ok accepted := by
  induction n generalizing i with
  | zero => exact ⟨true, rfl⟩
  | succ n ih =>
      unfold setParameters
      rw [readBytes_eq_ok (by omega), Bounded.ok_bind]
      split
      · exact ih (i + 1) (by omega)
      · exact ⟨false, rfl⟩

/- Some are not: one is rejected, or a read is outside. -/
theorem setParameters_short
    {buf : List UInt8}
    (accepts : Nat → List UInt8 → Bool)
    (i n : Nat)
    (hStart : 19 + 8 * i ≤ buf.length)
    (hShort : buf.length < 19 + 8 * (i + n)) :
    setParameters accepts buf i n = .error .readBeyond ∨
      setParameters accepts buf i n = .ok false := by
  induction n generalizing i with
  | zero => omega
  | succ n ih =>
      unfold setParameters
      by_cases hInside : 19 + 8 * i + 8 ≤ buf.length
      · rw [readBytes_eq_ok hInside, Bounded.ok_bind]
        split
        · exact ih (i + 1) (by omega) (by omega)
        · exact .inr rfl
      · rw [readBytes_eq_error (by omega)]
        exact .inl rfl

theorem parametersOf_complete
    {buf : List UInt8}
    (accepts : Nat → List UInt8 → Bool)
    (instanceMade : Bool)
    (hComplete : 19 + 8 * paramCount buf ≤ buf.length) :
    ∃ accepted,
      parametersOf accepts buf instanceMade =
        .ok accepted := by
  unfold parametersOf
  cases instanceMade with
  | false => exact ⟨false, rfl⟩
  | true =>
      rw [if_pos rfl, readBytes_eq_ok (by omega),
        Bounded.ok_bind]
      apply setParameters_complete
      rw [Nat.zero_add]
      exact hComplete

/- A measure that is created for a request that is cut off. -/
theorem parametersOf_short
    {buf : List UInt8}
    (accepts : Nat → List UInt8 → Bool)
    (hShort : buf.length < 19 + 8 * paramCount buf) :
    parametersOf accepts buf true = .error .readBeyond ∨
      parametersOf accepts buf true = .ok false := by
  unfold parametersOf
  rw [if_pos rfl]
  by_cases hCount : 17 + 2 ≤ buf.length
  · rw [readBytes_eq_ok hCount, Bounded.ok_bind]
    apply setParameters_short
    · omega
    · rw [Nat.zero_add]
      exact hShort
  · rw [readBytes_eq_error (by omega)]
    exact .inl rfl

/- A destruction gives out no address. -/
theorem monDestroyMeasure_leaves
    {s s' : Monitor σ π}
    {mh : MonHandler}
    {m : MonMeasure σ π}
    {answers : Answers}
    {out : List (Output σ)}
    {ret : Int}
    (hLookup : s.lookup mh = some m)
    (hDone :
      monDestroyMeasure answers mh s = .ok (s', out, ret)) :
    s'.lookup mh = none ∧ s'.nextObject = s.nextObject := by
  rw [Monitor.lookup] at hLookup
  unfold monDestroyMeasure at hDone
  simp only [hLookup] at hDone
  split at hDone
  · cases hDone
  · rename_i s₁ out₁ ret₁ hDeactivate
    rw [← (Prod.mk.inj (Except.ok.inj hDone)).1]
    refine
      ⟨(Dict.lookup_erase_eq _ _ _).trans (if_pos rfl), ?_⟩
    rcases deactivateMeasure_cases hDeactivate with
      hEq | hEq | ⟨_, _, hStop⟩
    · rw [hEq]
    · rw [hEq]
      rfl
    · rcases stopMeasure_cases hStop with
        ⟨_, _, _, _, _, hEq⟩
      rw [hEq]
      rfl

/- Without a previous instance nothing is removed. -/
theorem removePrevious_none
    {src : σ}
    {msg : InitRemoteMeasure}
    {s : Monitor σ π}
    (answers : Answers)
    (hNone : NoPrevious src msg s) :
    removePrevious answers src msg s = .ok (s, [], ()) := by
  have hPlace :
      (s.dispatcherList.lookup ⟨src, msg.msgType⟩).bind
          (fun dd => findMeasureFromId dd msg.mc msg.mid) =
        s.pointer none ⟨src, msg.msgType⟩
          (hasFlag msg.mc remote) msg.mid := rfl
  unfold removePrevious
  rw [hPlace]
  cases hPointer :
      s.pointer none ⟨src, msg.msgType⟩
        (hasFlag msg.mc remote) msg.mid with
  | none => rfl
  | some object =>
      rcases hNone object hPointer with
        ⟨m, hInstance, hInvalid⟩
      rw [Monitor.lookup] at hInvalid
      unfold monDestroyMeasure
      simp only [hInstance, hInvalid]

/- What the removal leaves if it goes through. -/
theorem removePrevious_cases
    {src : σ}
    {msg : InitRemoteMeasure}
    {s s' : Monitor σ π}
    {answers : Answers}
    {out : List (Output σ)}
    (hDone :
      removePrevious answers src msg s = .ok (s', out, ())) :
    s'.nextObject = s.nextObject ∧
      (NoPrevious src msg s ∨
        ∃ mh, (s.lookup mh).isSome = true ∧
          s'.lookup mh = none) := by
  have hPlace :
      (s.dispatcherList.lookup ⟨src, msg.msgType⟩).bind
          (fun dd => findMeasureFromId dd msg.mc msg.mid) =
        s.pointer none ⟨src, msg.msgType⟩
          (hasFlag msg.mc remote) msg.mid := rfl
  unfold removePrevious at hDone
  rw [hPlace] at hDone
  cases hPointer :
      s.pointer none ⟨src, msg.msgType⟩
        (hasFlag msg.mc remote) msg.mid with
  | none =>
      rw [hPointer] at hDone
      refine ⟨?_, .inl ?_⟩
      · rw [← (Prod.mk.inj (Except.ok.inj hDone)).1]
      · intro object hSome
        rw [hPointer] at hSome
        cases hSome
  | some object =>
      rw [hPointer] at hDone
      simp only at hDone
      cases hInstance : s.instanceAt object with
      | none =>
          rw [hInstance] at hDone
          cases hDone
      | some m =>
          rw [hInstance] at hDone
          simp only at hDone
          cases hLookup : s.mMeasureInstances.lookup m.mhLocal with
          | none =>
              unfold monDestroyMeasure at hDone
              simp only [hLookup] at hDone
              refine ⟨?_, .inl ?_⟩
              · rw [← (Prod.mk.inj (Except.ok.inj hDone)).1]
              · intro object' hSome
                rw [hPointer] at hSome
                rw [← Option.some.inj hSome]
                exact ⟨m, hInstance, hLookup⟩
          | some m' =>
              split at hDone
              · cases hDone
              · rename_i s₁ out₁ ret hDestroy
                rcases monDestroyMeasure_leaves hLookup
                    hDestroy with
                  ⟨hGone, hNext⟩
                rw [← (Prod.mk.inj (Except.ok.inj hDone)).1]
                refine
                  ⟨hNext, .inr ⟨m.mhLocal, ?_, hGone⟩⟩
                unfold Monitor.lookup
                rw [hLookup]
                rfl

omit [DecidableEq σ] in
theorem createFrom_nextObject
    {s s' : Monitor σ π}
    {plugin : Option (MeasurePlugin π)}
    {mc : Capabilities}
    {mh : MonHandler}
    (hCreate : createFrom plugin mc s = .ok (mh, s')) :
    s'.nextObject = s.nextObject + 1 := by
  unfold createFrom at hCreate
  cases plugin with
  | none => cases hCreate
  | some mp =>
      simp only at hCreate
      split at hCreate
      · cases hCreate
      · unfold insertNewInstance at hCreate
        simp only at hCreate
        split at hCreate
        · cases hCreate
        · rw [← (Prod.mk.inj (Except.ok.inj hCreate)).2]

/- No instance is made for the request. -/
theorem createForPeer_refused
    {plugins : Plugins π}
    {msg : InitRemoteMeasure}
    {s : Monitor σ π}
    (answers : Answers)
    (src : σ)
    (hRefused :
      (monCreateMeasureId plugins msg.mid msg.mc s).isOk =
        false) :
    ∃ out,
      createForPeer plugins answers src msg s =
        .ok (s, out, ()) := by
  unfold createForPeer
  cases hCreate : monCreateMeasureId plugins msg.mid msg.mc s with
  | error code => exact ⟨_, rfl⟩
  | ok result =>
      rw [hCreate] at hRefused
      cases hRefused

/- An instance whose parameters are rejected stays. -/
theorem createForPeer_rejected
    {plugins : Plugins π}
    {msg : InitRemoteMeasure}
    {s : Monitor σ π}
    (answers : Answers)
    (src : σ)
    (hMade :
      (monCreateMeasureId plugins msg.mid msg.mc s).isOk =
        true)
    (hRejected : answers.paramsAccepted = false) :
    ∃ s' out,
      createForPeer plugins answers src msg s =
          .ok (s', out, ()) ∧
        s'.nextObject = s.nextObject + 1 := by
  unfold createForPeer
  cases hCreate : monCreateMeasureId plugins msg.mid msg.mc s with
  | error code =>
      rw [hCreate] at hMade
      cases hMade
  | ok result =>
      rcases result with ⟨mh, s₁⟩
      have hNext := createFrom_nextObject hCreate
      simp only [hRejected, Bool.false_eq_true, if_false]
      cases s₁.mMeasureInstances.lookup mh with
      | none => exact ⟨s₁, _, rfl, hNext⟩
      | some m => exact ⟨_, _, rfl, hNext⟩

theorem initRemoteMeasureBytes_sound_iff
    {buf : List UInt8}
    (plugins : Plugins π)
    (answers : Answers)
    (accepts : Nat → List UInt8 → Bool)
    (src : σ)
    (s : Monitor σ π)
    (hType : headerType buf = initRemoteMeasureType)
    (hLength : headerLength buf ≤ buf.length) :
    CtrlSound buf s
        (initRemoteMeasureBytes plugins answers accepts src
          buf s) ↔
      InitInside plugins src buf s := by
  have hAnnounced :
      announced buf =
        max (headerLength buf)
          (4 + (15 + 8 * paramCount buf)) := by
    unfold announced bodyLength
    rw [if_pos hType]
  unfold InitInside
  by_cases hComplete :
      19 + 8 * paramCount buf ≤ buf.length
  · refine ⟨fun _ => .inl hComplete, fun _ => ?_⟩
    apply sound_of_complete
    · rw [hAnnounced]
      omega
    · unfold initRemoteMeasureBytes
      rw [readBytes_eq_ok (by omega), Bounded.ok_bind]
      cases hRemove :
          removePrevious answers src
            (initRemoteMeasureAt buf) s with
      | error fault =>
          simp only [hRemove]
          intro hEq
          cases hEq
      | ok result =>
          rcases
            parametersOf_complete accepts
              (monCreateMeasureId plugins
                (initRemoteMeasureAt buf).mid
                (initRemoteMeasureAt buf).mc result.1).isOk
              hComplete with
            ⟨accepted, hParameters⟩
          simp only [hRemove, hParameters, Bounded.ok_bind]
          exact
            map_ne_readBeyond _ (dispatched_ne_readBeyond _)
  · have hShort : buf.length < announced buf := by
      rw [hAnnounced]
      omega
    constructor
    · intro hSound
      have hFields : 17 ≤ buf.length := by
        by_contra hFew
        exact not_sound_of_read (by omega) hSound
      rcases hSound.2 hShort with ⟨out, hEq, _⟩
      unfold initRemoteMeasureBytes at hEq
      rw [readBytes_eq_ok hFields, Bounded.ok_bind] at hEq
      refine .inr ⟨hFields, ?_⟩
      cases hRemove :
          removePrevious answers src
            (initRemoteMeasureAt buf) s with
      | error fault =>
          simp only [hRemove] at hEq
          cases hEq
      | ok result =>
          rcases result with ⟨s₁, out₁, _⟩
          rcases removePrevious_cases hRemove with
            ⟨hNext, hRemoved⟩
          simp only [hRemove] at hEq
          cases hMade :
              (monCreateMeasureId plugins
                (initRemoteMeasureAt buf).mid
                (initRemoteMeasureAt buf).mc s₁).isOk with
          | true =>
              -- The new instance stays, or a read is outside.
              rw [hMade] at hEq
              rcases parametersOf_short accepts
                  (Nat.not_le.mp hComplete) with
                hBeyond | hRejected
              · rw [hBeyond] at hEq
                cases hEq
              · rw [hRejected, Bounded.ok_bind] at hEq
                rcases
                  createForPeer_rejected
                    { answers with paramsAccepted := false }
                    src hMade rfl with
                  ⟨s₂, out₂, hCreate, hNext₂⟩
                rw [hCreate] at hEq
                have hState : s₂ = s :=
                  (Prod.mk.inj (Except.ok.inj hEq)).1
                rw [hState] at hNext₂
                omega
          | false =>
              rw [hMade] at hEq
              have hParameters :
                  parametersOf accepts buf false =
                    .ok false := rfl
              rcases
                createForPeer_refused
                  { answers with paramsAccepted := false } src
                  hMade with
                ⟨out₂, hCreate⟩
              rw [hParameters, Bounded.ok_bind, hCreate] at hEq
              have hState : s₁ = s :=
                (Prod.mk.inj (Except.ok.inj hEq)).1
              rw [hState] at hMade hRemoved
              refine ⟨?_, hMade⟩
              rcases hRemoved with hNone | ⟨mh, hSome, hGone⟩
              · exact hNone
              · rw [hGone] at hSome
                cases hSome
    · rintro (hAll | ⟨hFields, hNone, hRefused⟩)
      · exact absurd hAll hComplete
      · rcases
          createForPeer_refused
            { answers with paramsAccepted := false } src
            hRefused with
          ⟨out₂, hCreate⟩
        have hEq :
            initRemoteMeasureBytes plugins answers accepts src
                buf s =
              .ok (s, out₂.map .dispatched) := by
          unfold initRemoteMeasureBytes
          have hParameters :
              parametersOf accepts buf false =
                .ok false := rfl
          rw [readBytes_eq_ok hFields, Bounded.ok_bind]
          simp only [removePrevious_none answers hNone,
            hRefused, hParameters, Bounded.ok_bind, hCreate]
          rfl
        exact
          sound_of_unchanged hEq
            (not_newSample_of_dispatched out₂)

------------------------------------------------------------
-- Responses
------------------------------------------------------------

theorem remoteMeasureResponseBytes_sound_iff
    {buf : List UInt8}
    (answers : Answers)
    (s : Monitor σ π)
    (hType : headerType buf = remoteMeasureResponseType)
    (hLength : headerLength buf ≤ buf.length) :
    CtrlSound buf s (remoteMeasureResponseBytes answers buf s) ↔
      ResponseInside buf s := by
  have hAnnounced :
      announced buf = max (headerLength buf) (4 + 16) := by
    unfold announced bodyLength
    rw [hType]
    rfl
  unfold ResponseInside
  by_cases hHandle : 4 + 4 ≤ buf.length
  · unfold remoteMeasureResponseBytes
    rw [readBytes_eq_ok hHandle, Bounded.ok_bind]
    cases hLookup :
        s.mMeasureInstances.lookup
          (int32Of (fieldOf buf 4 4)) with
    | none =>
        refine
          ⟨fun _ => .inr (.inl ⟨hHandle, hLookup⟩), fun _ => ?_⟩
        apply sound_of_unchanged rfl
        intro mh bytes hMem
        cases hMem
    | some m =>
        have hValid :
            s.lookup (int32Of (fieldOf buf 4 4)) ≠ none := by
          rw [Monitor.lookup, hLookup]
          exact Option.some_ne_none m
        simp only
        by_cases hCommand : 12 + 4 ≤ buf.length
        · rw [readBytes_eq_ok hCommand, Bounded.ok_bind]
          by_cases hKnown :
              uint32Of (fieldOf buf 12 4) =
                  initRemoteMeasureId ∨
                uint32Of (fieldOf buf 12 4) =
                  deinitRemoteMeasureId
          · rw [if_pos hKnown]
            by_cases hStatus : 16 + 4 ≤ buf.length
            · refine ⟨fun _ => .inl hStatus, fun _ => ?_⟩
              apply sound_of_complete
              · rw [hAnnounced]
                omega
              · rw [readBytes_eq_ok hStatus, Bounded.ok_bind]
                exact dispatched_ne_readBeyond _
            · constructor
              · intro hSound
                exact
                  absurd hSound
                    (not_sound_of_read (by omega))
              · rintro (hAll | ⟨_, hNone⟩ | ⟨_, hNeither⟩)
                · exact absurd hAll hStatus
                · exact absurd hNone hValid
                · rcases hKnown with hInit | hDeinit
                  · exact absurd hInit hNeither.1
                  · exact absurd hDeinit hNeither.2
          · rw [if_neg hKnown]
            rw [not_or] at hKnown
            refine
              ⟨fun _ => .inr (.inr ⟨hCommand, hKnown⟩),
                fun _ => ?_⟩
            apply sound_of_unchanged rfl
            intro mh bytes hMem
            cases hMem
        · constructor
          · intro hSound
            exact absurd hSound (not_sound_of_read (by omega))
          · rintro (hAll | ⟨_, hNone⟩ | ⟨hSome, _⟩)
            · omega
            · exact absurd hNone hValid
            · exact absurd hSome hCommand
  · constructor
    · intro hSound
      exact absurd hSound (not_sound_of_read (by omega))
    · rintro (hAll | ⟨hSome, _⟩ | ⟨hSome, _⟩)
      · omega
      · exact absurd hSome hHandle
      · omega

theorem deinitRemoteMeasureBytes_sound_iff
    {buf : List UInt8}
    (answers : Answers)
    (src : σ)
    (s : Monitor σ π)
    (hType : headerType buf = deinitRemoteMeasureType)
    (hLength : headerLength buf ≤ buf.length) :
    CtrlSound buf s
        (deinitRemoteMeasureBytes answers src buf s) ↔
      12 ≤ buf.length := by
  have hAnnounced :
      announced buf = max (headerLength buf) (4 + 8) := by
    unfold announced bodyLength
    rw [hType]
    rfl
  constructor
  · intro hSound
    by_contra hFew
    exact not_sound_of_read (by omega) hSound
  · intro hFields
    apply sound_of_complete
    · rw [hAnnounced]
      omega
    · unfold deinitRemoteMeasureBytes
      rw [readBytes_eq_ok hFields, Bounded.ok_bind]
      exact dispatched_ne_readBeyond _

------------------------------------------------------------
-- Remote Results
------------------------------------------------------------

/- All pairs are there. -/
theorem resultPairs_complete
    {buf : List UInt8}
    (src : σ)
    (s : Monitor σ π)
    (i n : Nat)
    (hComplete : n = 0 ∨ 9 + 12 * (i + n) ≤ buf.length) :
    ∃ out, resultPairs src buf s i n = .ok out := by
  induction n generalizing i with
  | zero => exact ⟨[], rfl⟩
  | succ n ih =>
      rcases ih (i + 1) (by omega) with ⟨out, hRest⟩
      unfold resultPairs
      rw [readBytes_eq_ok (by omega), Bounded.ok_bind, hRest]
      exact ⟨_, rfl⟩

/- Some are not: the handle of the first is outside. -/
theorem resultPairs_short
    {buf : List UInt8}
    (src : σ)
    (s : Monitor σ π)
    (i n : Nat)
    (hSome : n ≠ 0)
    (hShort : buf.length < 9 + 12 * (i + n)) :
    resultPairs src buf s i n = .error .readBeyond := by
  induction n generalizing i with
  | zero => exact absurd rfl hSome
  | succ n ih =>
      unfold resultPairs
      by_cases hInside : 17 + 12 * i + 4 ≤ buf.length
      · rw [readBytes_eq_ok hInside, Bounded.ok_bind,
          ih (i + 1) (by omega) (by omega)]
        rfl
      · rw [readBytes_eq_error (by omega)]
        rfl

theorem remoteResultsBytes_sound_iff
    {buf : List UInt8}
    (src : σ)
    (s : Monitor σ π)
    (hType : headerType buf = remoteResultsType)
    (hLength : headerLength buf ≤ buf.length) :
    CtrlSound buf s (remoteResultsBytes src buf s) ↔
      ResultsInside buf := by
  have hAnnounced :
      announced buf =
        max (headerLength buf)
          (4 + (5 + 12 * resultCount buf)) := by
    unfold announced bodyLength
    rw [hType]
    rfl
  unfold ResultsInside
  by_cases hCount : 4 + 4 ≤ buf.length
  · have hPairs :
        remoteResultsBytes src buf s =
          (resultPairs src buf s 0 (resultCount buf)).map
            (fun out => (s, out)) := by
      unfold remoteResultsBytes
      rw [readBytes_eq_ok hCount]
      rfl
    rw [hPairs]
    by_cases hZero : resultCount buf = 0
    · refine
        ⟨fun _ => ⟨hCount, .inl hZero⟩, fun _ => ?_⟩
      rw [hZero]
      apply sound_of_unchanged rfl
      intro mh bytes hMem
      cases hMem
    · by_cases hComplete :
          9 + 12 * resultCount buf ≤ buf.length
      · refine
          ⟨fun _ => ⟨hCount, .inr hComplete⟩, fun _ => ?_⟩
        rcases resultPairs_complete src s 0 (resultCount buf)
            (by omega : _ ∨ 9 + 12 * (0 + _) ≤ buf.length) with
          ⟨out, hOut⟩
        apply sound_of_complete
        · rw [hAnnounced]
          omega
        · rw [hOut]
          intro hEq
          cases hEq
      · rw [resultPairs_short src s 0 _ hZero (by omega)]
        constructor
        · intro hSound
          exact absurd rfl hSound.1
        · rintro ⟨_, hNone | hAll⟩
          · exact absurd hNone hZero
          · exact absurd hAll hComplete
  · constructor
    · intro hSound
      exact absurd hSound (not_sound_of_read (by omega))
    · rintro ⟨hSome, _⟩
      exact absurd hSome hCount

------------------------------------------------------------
-- Out-Of-Band Data
------------------------------------------------------------

/- A measure that receives data is at work for the sender. -/
theorem oobDataRx_some
    {s : Monitor σ π}
    {src : σ}
    {mh : MonHandler}
    {results : ResultLists σ}
    (hDone : oobDataRx src mh s = .ok (some results)) :
    ∃ m, s.lookup mh = some m ∧ m.status = .running ∧
      m.dstSocketid = some src ∧
      (m.has packet = true ∨ m.has data = true) ∧
      s.hasEntry ⟨src, msgTypeMonl⟩ = true := by
  cases hLookup : s.mMeasureInstances.lookup mh with
  | none =>
      unfold oobDataRx at hDone
      simp only [hLookup] at hDone
      cases hDone
  | some m =>
      have hOk := oobDataRx_ok_iff.mp ⟨_, hDone⟩ m hLookup
      unfold oobDataRx at hDone
      simp only [hLookup] at hDone
      by_cases hFor :
          m.status = .running ∧ m.dstSocketid = some src
      · exact
          ⟨m, hLookup, hFor.1, hFor.2, hOk hFor.1 hFor.2⟩
      · rw [if_neg hFor] at hDone
        cases hDone

theorem oobDataBytes_sound_iff
    {buf : List UInt8}
    (src : σ)
    (s : Monitor σ π)
    (hType : headerType buf = oobDataType)
    (hLength : headerLength buf ≤ buf.length) :
    CtrlSound buf s (oobDataBytes src buf s) ↔
      OobInside src buf s := by
  have hAnnounced :
      announced buf = max (headerLength buf) (4 + 8) := by
    unfold announced bodyLength
    rw [hType]
    rfl
  unfold OobInside
  by_cases hFields : 8 + 4 ≤ buf.length
  · have hComplete : announced buf ≤ buf.length := by
      rw [hAnnounced]
      omega
    unfold oobDataBytes
    rw [readBytes_eq_ok hFields, Bounded.ok_bind]
    by_cases hPayload :
        PayloadRead src (int32Of (fieldOf buf 8 4)) s
    · rcases hPayload with
        ⟨m, hLookup, hRunning, hDst, hMode, hHas, hId, hLocal⟩
      rcases oobDataRx_delivers hLookup hRunning hDst hMode
          hHas with
        ⟨results, hDone, _⟩
      rw [Monitor.lookup] at hLookup
      simp only [hDone, hLookup]
      unfold receiveOobData
      rw [if_pos hId, hLocal]
      simp only [Bool.false_eq_true, if_false]
      by_cases hTime : 12 + timevalSize ≤ buf.length
      · refine ⟨fun _ => ⟨hFields, fun _ => hTime⟩, fun _ => ?_⟩
        apply sound_of_complete hComplete
        rw [readBytes_eq_ok hTime]
        intro hEq
        cases hEq
      · constructor
        · intro hSound
          rw [readBytes_eq_error (Nat.not_le.mp hTime)]
            at hSound
          exact absurd rfl hSound.1
        · rintro ⟨_, hNeeds⟩
          exact
            absurd
              (hNeeds
                ⟨m, hLookup, hRunning, hDst, hMode, hHas,
                  hId, hLocal⟩)
              hTime
    · refine
        ⟨fun _ => ⟨hFields, fun hRead => absurd hRead hPayload⟩,
          fun _ => ?_⟩
      apply sound_of_complete hComplete
      cases hDone :
          oobDataRx src (int32Of (fieldOf buf 8 4)) s with
      | error fault =>
          simp only
          intro hEq
          cases hEq
      | ok delivered =>
          cases delivered with
          | none =>
              intro hEq
              cases hEq
          | some results =>
              rcases oobDataRx_some hDone with
                ⟨m, hLookup, hRunning, hDst, hMode, hHas⟩
              have hFound := hLookup
              rw [Monitor.lookup] at hFound
              simp only [hFound]
              apply map_ne_readBeyond
              unfold receiveOobData
              by_cases hId : m.id = rttId
              · rw [if_pos hId]
                cases hRemote : m.has remote with
                | true =>
                    intro hEq
                    cases hEq
                | false =>
                    exact
                      absurd
                        ⟨m, hLookup, hRunning, hDst, hMode,
                          hHas, hId, hRemote⟩
                        hPayload
              · rw [if_neg hId]
                intro hEq
                cases hEq
  · constructor
    · intro hSound
      exact absurd hSound (not_sound_of_read (by omega))
    · rintro ⟨hSome, _⟩
      exact absurd hSome hFields

------------------------------------------------------------
-- Control Messages
------------------------------------------------------------

/- An answer that is empty leaves everything. -/
omit [DecidableEq σ] in
theorem sound_of_nothing
    (buf : List UInt8)
    (s : Monitor σ π) :
    CtrlSound buf s (.ok (s, [])) := by
  apply sound_of_unchanged rfl
  intro mh bytes hMem
  cases hMem

/- The handler for the type, behind the header. -/
theorem handler_sound_iff
    {buf : List UInt8}
    (plugins : Plugins π)
    (answers : Answers)
    (accepts : Nat → List UInt8 → Bool)
    (sid : σ)
    (s : Monitor σ π)
    (hLength : headerLength buf ≤ buf.length) :
    CtrlSound buf s
        (if headerType buf = initRemoteMeasureType then
          initRemoteMeasureBytes plugins answers accepts sid
            buf s
        else if headerType buf = remoteMeasureResponseType then
          remoteMeasureResponseBytes answers buf s
        else if headerType buf = deinitRemoteMeasureType then
          deinitRemoteMeasureBytes answers sid buf s
        else if headerType buf = remoteResultsType then
          remoteResultsBytes sid buf s
        else if headerType buf = oobDataType then
          oobDataBytes sid buf s
        else
          .ok (s, [])) ↔
      BodyInside plugins sid buf s := by
  unfold BodyInside
  by_cases hInit : headerType buf = initRemoteMeasureType
  · rw [if_pos hInit, if_pos hInit]
    exact
      initRemoteMeasureBytes_sound_iff plugins answers accepts
        sid s hInit hLength
  rw [if_neg hInit, if_neg hInit]
  by_cases hResponse :
      headerType buf = remoteMeasureResponseType
  · rw [if_pos hResponse, if_pos hResponse]
    exact
      remoteMeasureResponseBytes_sound_iff answers s hResponse
        hLength
  rw [if_neg hResponse, if_neg hResponse]
  by_cases hDeinit : headerType buf = deinitRemoteMeasureType
  · rw [if_pos hDeinit, if_pos hDeinit]
    exact
      deinitRemoteMeasureBytes_sound_iff answers sid s hDeinit
        hLength
  rw [if_neg hDeinit, if_neg hDeinit]
  by_cases hResults : headerType buf = remoteResultsType
  · rw [if_pos hResults, if_pos hResults]
    exact remoteResultsBytes_sound_iff sid s hResults hLength
  rw [if_neg hResults, if_neg hResults]
  by_cases hOob : headerType buf = oobDataType
  · rw [if_pos hOob, if_pos hOob]
    exact oobDataBytes_sound_iff sid s hOob hLength
  rw [if_neg hOob, if_neg hOob]
  exact iff_of_true (sound_of_nothing buf s) trivial

/-
  For every message and every state the handlers read inside
  and leave the state for a message that is too short exactly
  if the message is as the condition says.
-/
theorem ctrl_msg_bounded_iff
    (plugins : Plugins π)
    (answers : Answers)
    (accepts : Nat → List UInt8 → Bool)
    (sid : σ)
    (buf : List UInt8)
    (s : Monitor σ π) :
    CtrlSound buf s
        (receiveCtrlMsg plugins answers accepts sid buf s) ↔
      CtrlInside plugins sid buf s := by
  unfold CtrlInside
  by_cases hFirst : 0 + 2 ≤ buf.length
  · have hTwo : 2 ≤ buf.length := by omega
    unfold receiveCtrlMsg
    rw [readBytes_eq_ok hFirst, Bounded.ok_bind]
    by_cases hLonger : buf.length < headerLength buf
    · have hMore :
          buf.length < numberOf (fieldOf buf 0 2) := hLonger
      rw [if_pos hMore]
      exact
        iff_of_true (sound_of_nothing buf s)
          ⟨hTwo, .inl hLonger⟩
    · have hNotMore :
          ¬ buf.length < numberOf (fieldOf buf 0 2) := hLonger
      rw [if_neg hNotMore]
      by_cases hHeader : 2 + 2 ≤ buf.length
      · rw [readBytes_eq_ok hHeader, Bounded.ok_bind]
        have hHandler :=
          handler_sound_iff plugins answers accepts sid s
            (Nat.not_lt.mp hLonger)
        refine hHandler.trans ?_
        constructor
        · exact fun hBody => ⟨hTwo, .inr ⟨hHeader, hBody⟩⟩
        · rintro ⟨_, hMore | ⟨_, hBody⟩⟩
          · exact absurd hMore hLonger
          · exact hBody
      · constructor
        · intro hSound
          exact absurd hSound (not_sound_of_read (by omega))
        · rintro ⟨_, hMore | ⟨hSome, _⟩⟩
          · exact absurd hMore hLonger
          · exact absurd hSome hHeader
  · constructor
    · intro hSound
      exact absurd hSound (not_sound_of_read (by omega))
    · rintro ⟨hSome, _⟩
      omega

/-
  A response of one byte, and a request that announces a
  parameter that is not there.
-/
theorem ctrl_msg_reads_beyond :
    receiveCtrlMsg lossPlugins .granted (fun _ _ => true) 7
        [0, 0, 0, 0, 5] (Monitor.initial : Monitor Nat Unit) =
      .error .readBeyond ∧
    ¬ CtrlSound
        [0, 0, 1, 0, 10, 0, 0, 0, 9, 2, 0, 0, 3, 0, 0, 0, 1,
          1, 0]
        (Monitor.initial : Monitor Nat Unit)
        (receiveCtrlMsg lossPlugins .granted
          (fun _ _ => true) 7
          [0, 0, 1, 0, 10, 0, 0, 0, 9, 2, 0, 0, 3, 0, 0, 0, 1,
            1, 0]
          Monitor.initial) := by
  refine ⟨rfl, ?_⟩
  intro hSound
  exact hSound.1 rfl

------------------------------------------------------------
-- Complete Messages
------------------------------------------------------------

/- Whether all parameters of a complete request are accepted. -/
def acceptedBy
    (accepts : Nat → List UInt8 → Bool)
    (buf : List UInt8) : Bool :=
  (setParameters accepts buf 0 (paramCount buf)).toOption.getD
    false

/- A complete request is what the dispatcher takes it for. -/
theorem initRemoteMeasureBytes_refines
    {buf : List UInt8}
    (plugins : Plugins π)
    (answers : Answers)
    (accepts : Nat → List UInt8 → Bool)
    (src : σ)
    (s : Monitor σ π)
    (hComplete : 19 + 8 * paramCount buf ≤ buf.length) :
    initRemoteMeasureBytes plugins answers accepts src buf s =
      dispatched
        (initRemoteMeasureRx plugins
          { answers with
            paramsAccepted := acceptedBy accepts buf }
          src (initRemoteMeasureAt buf) s) := by
  have hRemoveEq :
      removePrevious
          { answers with
            paramsAccepted := acceptedBy accepts buf }
          src (initRemoteMeasureAt buf) s =
        removePrevious answers src (initRemoteMeasureAt buf)
          s := rfl
  unfold initRemoteMeasureBytes initRemoteMeasureRx
  rw [readBytes_eq_ok (by omega), Bounded.ok_bind, hRemoveEq]
  cases hRemove :
      removePrevious answers src (initRemoteMeasureAt buf) s with
  | error fault =>
      simp only [hRemove]
      rfl
  | ok result =>
      rcases result with ⟨s₁, out₁, _⟩
      simp only [hRemove]
      cases hMade :
          (monCreateMeasureId plugins
            (initRemoteMeasureAt buf).mid
            (initRemoteMeasureAt buf).mc s₁).isOk with
      | false =>
          -- Nobody asks whether they are accepted.
          have hSame (answers' : Answers) :
              createForPeer plugins answers' src
                  (initRemoteMeasureAt buf) s₁ =
                .ok
                  (s₁,
                    [responseTo src
                      (initRemoteMeasureAt buf).mhLocal (-1)
                      initRemoteMeasureId einval],
                    ()) := by
            unfold createForPeer
            cases hCreate :
                monCreateMeasureId plugins
                  (initRemoteMeasureAt buf).mid
                  (initRemoteMeasureAt buf).mc s₁ with
            | error code => rfl
            | ok made =>
                rw [hCreate] at hMade
                cases hMade
          have hParameters :
              parametersOf accepts buf false =
                .ok false := rfl
          rw [hParameters, Bounded.ok_bind, hSame, hSame]
          simp only [dispatched, Except.map, List.map_append]
      | true =>
          have hAccepted :
              parametersOf accepts buf true =
                .ok (acceptedBy accepts buf) := by
            rcases setParameters_complete accepts 0
                (paramCount buf)
                (by omega : 19 + 8 * (0 + _) ≤ buf.length) with
              ⟨accepted, hSet⟩
            unfold parametersOf acceptedBy
            rw [if_pos rfl, readBytes_eq_ok (by omega),
              Bounded.ok_bind]
            have hCount :
                numberOf (fieldOf buf 17 2) =
                  paramCount buf := rfl
            rw [hCount, hSet]
            rfl
          rw [hAccepted, Bounded.ok_bind]
          cases createForPeer plugins
              { answers with
                paramsAccepted := acceptedBy accepts buf }
              src (initRemoteMeasureAt buf) s₁ with
          | error fault => rfl
          | ok made =>
              simp only [dispatched, Except.map,
                List.map_append]

/- A complete response likewise. -/
theorem remoteMeasureResponseBytes_refines
    {buf : List UInt8}
    (answers : Answers)
    (s : Monitor σ π)
    (hComplete : 20 ≤ buf.length) :
    remoteMeasureResponseBytes answers buf s =
      dispatched
        (remoteMeasureResponseRx answers
          { mhRemote := int32Of (fieldOf buf 4 4)
            mhLocal := int32Of (fieldOf buf 8 4)
            command := uint32Of (fieldOf buf 12 4)
            status := (uint32Of (fieldOf buf 16 4)).toNat }
          s) := by
  unfold remoteMeasureResponseBytes
  rw [readBytes_eq_ok (by omega), Bounded.ok_bind]
  cases hLookup :
      s.mMeasureInstances.lookup
        (int32Of (fieldOf buf 4 4)) with
  | none =>
      unfold remoteMeasureResponseRx
      simp only [hLookup]
      rfl
  | some m =>
      simp only
      rw [readBytes_eq_ok (by omega), Bounded.ok_bind]
      by_cases hKnown :
          uint32Of (fieldOf buf 12 4) = initRemoteMeasureId ∨
            uint32Of (fieldOf buf 12 4) =
              deinitRemoteMeasureId
      · rw [if_pos hKnown, readBytes_eq_ok (by omega),
          Bounded.ok_bind]
      · rw [if_neg hKnown]
        rw [not_or] at hKnown
        unfold remoteMeasureResponseRx
        simp only [hLookup, if_neg hKnown.1, if_neg hKnown.2]
        rfl

/- The event that a control message is to the dispatcher. -/
def eventAt
    (answers : Answers)
    (accepts : Nat → List UInt8 → Bool)
    (sid : σ)
    (buf : List UInt8) : Option (Event σ) :=
  if headerType buf = initRemoteMeasureType then
    some
      (.initRx sid (initRemoteMeasureAt buf)
        { answers with
          paramsAccepted := acceptedBy accepts buf })
  else if headerType buf = remoteMeasureResponseType then
    some
      (.responseRx
        { mhRemote := int32Of (fieldOf buf 4 4)
          mhLocal := int32Of (fieldOf buf 8 4)
          command := uint32Of (fieldOf buf 12 4)
          status := (uint32Of (fieldOf buf 16 4)).toNat }
        answers)
  else if headerType buf = deinitRemoteMeasureType then
    some
      (.deinitRx sid
        { mhLocal := int32Of (fieldOf buf 4 4)
          mhRemote := int32Of (fieldOf buf 8 4) }
        answers)
  else
    none

/- What a step of the dispatcher is to the receiver. -/
def ofStep
    (result : Except Fault (Monitor σ π × List (Output σ))) :
    Except CtrlFault (CtrlResult σ π) :=
  match result with
  | .error fault => .error (.handler fault)
  | .ok (s, out) => .ok (s, out.map .dispatched)

omit [DecidableEq σ] in
theorem dispatched_eq
    (outcome : Outcome σ π Unit) :
    dispatched outcome = ofStep (withoutValue outcome) := by
  cases outcome with
  | error fault => rfl
  | ok result => rfl

/-
  A message that is as long as it announces is a step of the
  dispatcher, if its type is one of those.
-/
theorem receiveCtrlMsg_refines
    {buf : List UInt8}
    {e : Event σ}
    (plugins : Plugins π)
    (answers : Answers)
    (accepts : Nat → List UInt8 → Bool)
    (sid : σ)
    (s : Monitor σ π)
    (hComplete : announced buf ≤ buf.length)
    (hEvent : eventAt answers accepts sid buf = some e) :
    receiveCtrlMsg plugins answers accepts sid buf s =
      ofStep (step plugins s e) := by
  have hHeader : headerLength buf ≤ buf.length :=
    le_trans (Nat.le_max_left _ _) hComplete
  have hBody : 4 + bodyLength buf ≤ buf.length :=
    le_trans (Nat.le_max_right _ _) hComplete
  have hLength :
      numberOf (fieldOf buf 0 2) = headerLength buf := rfl
  have hType :
      numberOf (fieldOf buf 2 2) = headerType buf := rfl
  unfold receiveCtrlMsg
  rw [readBytes_eq_ok (by omega), Bounded.ok_bind, hLength,
    if_neg (by omega), readBytes_eq_ok (by omega),
    Bounded.ok_bind, hType]
  unfold eventAt at hEvent
  unfold bodyLength at hBody
  by_cases hInit : headerType buf = initRemoteMeasureType
  · rw [if_pos hInit] at hEvent hBody ⊢
    rw [← Option.some.inj hEvent,
      initRemoteMeasureBytes_refines plugins answers accepts
        sid s (by omega),
      dispatched_eq]
    rfl
  rw [if_neg hInit] at hEvent hBody ⊢
  by_cases hResponse :
      headerType buf = remoteMeasureResponseType
  · rw [if_pos hResponse] at hEvent hBody ⊢
    rw [← Option.some.inj hEvent,
      remoteMeasureResponseBytes_refines answers s (by omega),
      dispatched_eq]
    rfl
  rw [if_neg hResponse] at hEvent hBody ⊢
  by_cases hDeinit : headerType buf = deinitRemoteMeasureType
  · rw [if_pos hDeinit] at hEvent hBody ⊢
    rw [← Option.some.inj hEvent]
    unfold deinitRemoteMeasureBytes
    rw [readBytes_eq_ok (by omega), Bounded.ok_bind,
      dispatched_eq]
    rfl
  · rw [if_neg hDeinit] at hEvent
    cases hEvent

/- A request with one parameter. -/
theorem receiveCtrlMsg_refines_request :
    receiveCtrlMsg lossPlugins .granted (fun _ _ => true) 7
        [27, 0, 1, 0, 10, 0, 0, 0, 9, 2, 0, 0, 3, 0, 0, 0, 1,
          1, 0, 0, 0, 0, 0, 0, 0, 8, 64]
        (Monitor.initial : Monitor Nat Unit) =
      ofStep
        (step lossPlugins Monitor.initial
          (.initRx 7
            { mid := 10
              mc := 521
              mhLocal := 3
              msgType := 1 }
            .granted)) :=
  receiveCtrlMsg_refines lossPlugins .granted (fun _ _ => true)
    7 Monitor.initial (by decide) rfl

end MONL

end NapaBaselibs
