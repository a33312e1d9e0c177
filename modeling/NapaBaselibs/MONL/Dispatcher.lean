import NapaBaselibs.MONL.Measure

/-
  `measure_dispatcher.cpp`: activating and stopping measures,
  and the control messages of the peers.

  What `stopMeasure` returns is undefined, as it ends without
  a return statement; that value, the answers of the message
  layer and of the event loop and whether the parameters of a
  request are accepted come from outside.  A map that is
  indexed with a key it does not have gives a null pointer.

  Key definitions include:
    * `activateMeasure`, `deactivateMeasure`, `stopMeasure`
    * `monDestroyMeasure`
    * `remoteMeasureResponseRx`, `initRemoteMeasureRx`,
      `deinitRemoteMeasureRx`
    * `Event`, `step`
-/

------------------------------------------------------------
-- Outputs And Answers
------------------------------------------------------------

namespace NapaBaselibs

namespace MONL

/- `InitRemoteMeasure`, without the parameters. -/
structure InitRemoteMeasure where
  mid : MeasurementId
  mc : Capabilities
  mhLocal : MonHandler
  msgType : MsgType
deriving DecidableEq

/- `DeInitRemoteMeasure`. -/
structure DeInitRemoteMeasure where
  mhLocal : MonHandler
  mhRemote : MonHandler
deriving DecidableEq

/- `MeasureResponse`. -/
structure MeasureResponse where
  mhRemote : MonHandler
  mhLocal : MonHandler
  command : BitVec 32
  status : Int
deriving DecidableEq

/- `INITREMOTEMEASURE` and `DEINITREMOTEMEASURE`. -/
def initRemoteMeasureId : BitVec 32 := 1
def deinitRemoteMeasureId : BitVec 32 := 2

/- What a step does besides changing the state. -/
inductive Output (σ : Type) where
  | sendInit (dst : σ) (msg : InitRemoteMeasure)
  | sendDeinit (dst : Option σ) (msg : DeInitRemoteMeasure)
  | sendResponse (dst : σ) (msg : MeasureResponse)
  | stopping (object : Nat) (listed results : Bool)
deriving DecidableEq

/- What comes from outside. -/
structure Answers where
  initSent : Bool
  scheduled : Bool
  stray : Int
  paramsAccepted : Bool

/- A step that ends gives a state, outputs and a value. -/
abbrev Outcome (σ π α : Type) :=
  Except Fault (Monitor σ π × List (Output σ) × α)

variable {σ π : Type} [DecidableEq σ]

------------------------------------------------------------
-- Execution Lists
------------------------------------------------------------

/- The hooks for which a measure is entered. -/
def MonMeasure.hooks (m : MonMeasure σ π) : List Hook :=
  if m.has inBand then
    (if m.has txLoc then
      (if m.has packet then [.txPkt] else []) ++
        (if m.has data then [.txData] else [])
    else
      []) ++
      (if m.has rxLoc then
        (if m.has packet then [.rxPkt] else []) ++
          (if m.has data then [.rxData] else [])
      else
        [])
  else
    []

/- `addMeasureToExecLists`, on the entry. -/
def addMeasureToExecLists
    (m : MonMeasure σ π)
    (dd : DestinationSocketIdMtData) :
    DestinationSocketIdMtData :=
  { dd with
    el := fun hook isRemote =>
      if hook ∈ m.hooks ∧ isRemote = m.has remote then
        (dd.el hook isRemote).insert m.id m.object
      else
        dd.el hook isRemote }

/- `delMeasureFromExecLists`, on the entry. -/
def delMeasureFromExecLists
    (m : MonMeasure σ π)
    (dd : DestinationSocketIdMtData) :
    DestinationSocketIdMtData :=
  { dd with
    el := fun hook isRemote =>
      if hook ∈ m.hooks ∧ isRemote = m.has remote then
        (dd.el hook isRemote).erase m.id
      else
        dd.el hook isRemote }

/- A measure in and out of the list of loaded measures. -/
def loadMeasure
    (m : MonMeasure σ π)
    (dd : DestinationSocketIdMtData) :
    DestinationSocketIdMtData :=
  { dd with
    mids := fun isRemote =>
      if isRemote = m.has remote then
        (dd.mids isRemote).insert m.id m.object
      else
        dd.mids isRemote }

def unloadMeasure
    (m : MonMeasure σ π)
    (dd : DestinationSocketIdMtData) :
    DestinationSocketIdMtData :=
  { dd with
    mids := fun isRemote =>
      if isRemote = m.has remote then
        (dd.mids isRemote).erase m.id
      else
        dd.mids isRemote }

/- The entry of a measure, if there is one. -/
def Monitor.entryOf
    (s : Monitor σ π)
    (m : MonMeasure σ π) :
    Option (SocketIdMt σ × DestinationSocketIdMtData) :=
  m.hDst.bind fun hDst =>
    (s.dispatcherList.lookup hDst).map fun dd => (hDst, dd)

/- What the entry has loaded in place of the measure. -/
def loadedAs
    (m : MonMeasure σ π)
    (dd : DestinationSocketIdMtData) : Option Nat :=
  (dd.mids (m.has remote)).lookup m.id

/- A measure that is in the list of its entry. -/
def Monitor.listed
    (s : Monitor σ π)
    (m : MonMeasure σ π) : Bool :=
  match s.entryOf m with
  | some (_, dd) => loadedAs m dd = some m.object
  | none => false

/- The measure behind a handle, changed. -/
def Monitor.setMeasure
    (s : Monitor σ π)
    (mh : MonHandler)
    (m : MonMeasure σ π) : Monitor σ π :=
  { s with
    mMeasureInstances := s.mMeasureInstances.insert mh m }

------------------------------------------------------------
-- Stopping
------------------------------------------------------------

/- `defaultStop`, but for the publishing of results. -/
def defaultStop
    (m : MonMeasure σ π) : Except Fault (MonMeasure σ π) :=
  if m.measurePlugin.writesInStop ∧ m.results = none then
    .error .nullResults
  else
    .ok { m with plugin := m.measurePlugin.stop m.plugin }

/-
  `destroyDestinationSocketIdMtData`, if no measure is left
  in the entry.
-/
def Monitor.putOrDestroy
    (s : Monitor σ π)
    (hDst : SocketIdMt σ)
    (dd : DestinationSocketIdMtData) : Monitor σ π :=
  { s with
    dispatcherList :=
      if (dd.mids true).isEmpty && (dd.mids false).isEmpty then
        s.dispatcherList.erase hDst
      else
        s.dispatcherList.insert hDst dd }

/- `stopMeasure`, of the measure behind a handle. -/
def stopMeasure
    (mh : MonHandler)
    (m : MonMeasure σ π)
    (s : Monitor σ π) : Outcome σ π Unit :=
  match defaultStop m with
  | .error fault => .error fault
  | .ok m₁ =>
      match s.entryOf m with
      | none => .error .nullEntry
      | some (hDst, dd) =>
          match loadedAs m dd with
          | none => .error .eraseEnd
          | some _ =>
              let m₂ :=
                { m₁ with
                  status :=
                    if m.remoteCounterpart then
                      .stopping
                    else
                      .stopped
                  results := none }
              .ok
                ((s.setMeasure mh m₂).putOrDestroy hDst
                    (unloadMeasure m
                      (delMeasureFromExecLists m dd)),
                  .stopping m.object (s.listed m)
                      m.results.isSome ::
                    (if m.remoteCounterpart then
                      [.sendDeinit m.dstSocketid
                        { mhLocal := m.mhLocal
                          mhRemote := m.mhRemote }]
                    else
                      []),
                  ())

/- `deactivateMeasure`. -/
def deactivateMeasure
    (answers : Answers)
    (mh : MonHandler)
    (m : MonMeasure σ π)
    (s : Monitor σ π) : Outcome σ π Int :=
  if m.status = .stopped then
    .ok (s, [], eok)
  else if m.flags = 0 then
    match defaultStop m with
    | .error fault => .error fault
    | .ok m₁ =>
        .ok
          (s.setMeasure mh { m₁ with status := .stopped }, [],
            eok)
  else
    match s.entryOf m with
    | none => .ok (s, [], einval)
    | some (_, dd) =>
        if loadedAs m dd = none then
          .ok (s, [], -einval)
        else
          match stopMeasure mh m s with
          | .error fault => .error fault
          | .ok (s₁, out, _) => .ok (s₁, out, answers.stray)

/- `monDeactivateMeasure`. -/
def monDeactivateMeasure
    (answers : Answers)
    (mh : MonHandler)
    (s : Monitor σ π) : Outcome σ π Int :=
  match s.mMeasureInstances.lookup mh with
  | none => .ok (s, [], -einval)
  | some m => deactivateMeasure answers mh m s

/- `monDestroyMeasure`: deletes what it may not have stopped. -/
def monDestroyMeasure
    (answers : Answers)
    (mh : MonHandler)
    (s : Monitor σ π) : Outcome σ π Int :=
  match s.mMeasureInstances.lookup mh with
  | none => .ok (s, [], -einval)
  | some m =>
      match deactivateMeasure answers mh m s with
      | .error fault => .error fault
      | .ok (s₁, out, _) =>
          .ok
            ({ s₁ with
                mMeasureInstances :=
                  s₁.mMeasureInstances.erase mh },
              out, eok)

------------------------------------------------------------
-- Activating
------------------------------------------------------------

/- `createDestinationSocketIdMtData`, if it is not there. -/
def Monitor.ensureEntry
    (s : Monitor σ π)
    (hDst : SocketIdMt σ) : Monitor σ π :=
  match s.dispatcherList.lookup hDst with
  | some _ => s
  | none =>
      { s with
        dispatcherList :=
          s.dispatcherList.insert hDst .new }

/- The arrays into which a measure writes its results. -/
def resultListsOf
    (m : MonMeasure σ π)
    (hDst : SocketIdMt σ) : ResultLists σ where
  hDst := hDst
  packets := m.has packet
  remote := m.has remote

/- `initRemoteMeasureTx`: what the peer is asked for. -/
def initRemoteMeasureOf
    (m : MonMeasure σ π)
    (mt : MsgType) : InitRemoteMeasure where
  mid := m.id
  mc :=
    ((m.flags ||| remote) &&&
        ~~~(txLoc ||| rxLoc ||| txRem ||| rxRem)) |||
      (if m.has txRem then txLoc else 0) |||
      (if m.has rxRem then rxLoc else 0)
  mhLocal := m.mhLocal
  msgType := mt

/- The entries of a measure, with the measure in its own. -/
def Monitor.enter
    (s : Monitor σ π)
    (m : MonMeasure σ π)
    (hDst : SocketIdMt σ) : Monitor σ π :=
  let s₁ := s.ensureEntry hDst
  let s₂ :=
    if m.has outOfBand then
      s₁.ensureEntry { hDst with mt := msgTypeMonl }
    else
      s₁
  match s₂.dispatcherList.lookup hDst with
  | none => s₂
  | some dd =>
      { s₂ with
        dispatcherList :=
          s₂.dispatcherList.insert hDst
            (addMeasureToExecLists m (loadMeasure m dd)) }

/- The measure once it has its destination and its type. -/
def MonMeasure.directed
    (m : MonMeasure σ π)
    (dst : Option σ)
    (mt : MsgType) : MonMeasure σ π :=
  { m with
    msgType := mt
    dstSocketid :=
      match dst with
      | some sid => some sid
      | none => m.dstSocketid
    dstSocketidPublish := dst.isSome }

/- The rest of `activateMeasure` for a measure with flags. -/
def activateAt
    (answers : Answers)
    (mh : MonHandler)
    (m : MonMeasure σ π)
    (dst : σ)
    (mt : MsgType)
    (s : Monitor σ π) : Outcome σ π Int :=
  let hDst : SocketIdMt σ := ⟨dst, mt⟩
  if ((s.dispatcherList.lookup hDst).bind
      (loadedAs m)).isSome then
    .ok (s.setMeasure mh m, [], -eexists)
  else
    let m₁ := { m with results := some (resultListsOf m hDst) }
    if m.remoteCounterpart then
      let m₂ := { m₁ with status := .initialising }
      let s₂ := (s.setMeasure mh m₂).enter m₂ hDst
      if answers.initSent then
        .ok
          (s₂, [.sendInit dst (initRemoteMeasureOf m₂ mt)],
            eok)
      else
        match stopMeasure mh m₂ s₂ with
        | .error fault => .error fault
        | .ok (s₃, out, _) => .ok (s₃, out, -enomem)
    else
      let m₂ := { m₁ with status := .running }
      .ok ((s.setMeasure mh m₂).enter m₂ hDst, [], eok)

/- `activateMeasure`. -/
def activateMeasure
    (answers : Answers)
    (mh : MonHandler)
    (m : MonMeasure σ π)
    (dst : Option σ)
    (mt : MsgType)
    (s : Monitor σ π) : Outcome σ π Int :=
  if dst = none ∧ m.flags ≠ 0 then
    .ok (s.setMeasure mh { m with msgType := mt }, [], -einval)
  else
    let m₁ := m.directed dst mt
    let m₂ :=
      { m₁ with plugin := m.measurePlugin.init m.plugin }
    if m.flags = 0 then
      .ok (s.setMeasure mh { m₂ with status := .running }, [],
        eok)
    else
      match dst with
      | none => .ok (s.setMeasure mh m₂, [], -einval)
      | some sid => activateAt answers mh m₂ sid mt s

/- `monActivateMeasure`. -/
def monActivateMeasure
    (answers : Answers)
    (mh : MonHandler)
    (dst : Option σ)
    (mt : MsgType)
    (s : Monitor σ π) : Outcome σ π Int :=
  match s.mMeasureInstances.lookup mh with
  | none => .ok (s, [], -einval)
  | some m => activateMeasure answers mh m dst mt s

------------------------------------------------------------
-- Control Messages
------------------------------------------------------------

/- The branch of an `INITREMOTEMEASURE` response. -/
def initResponded
    (answers : Answers)
    (response : MeasureResponse)
    (m : MonMeasure σ π) : MonMeasure σ π :=
  { m with
    mhRemote := response.mhLocal
    status :=
      if response.status = eok then
        if m.has outOfBand && !answers.scheduled then
          .failed
        else
          .running
      else
        .rfailed }

/- `remoteMeasureResponseRx`. -/
def remoteMeasureResponseRx
    (answers : Answers)
    (response : MeasureResponse)
    (s : Monitor σ π) : Outcome σ π Unit :=
  match s.mMeasureInstances.lookup response.mhRemote with
  | none => .ok (s, [], ())
  | some m =>
      if response.command = initRemoteMeasureId then
        .ok
          (s.setMeasure response.mhRemote
              (initResponded answers response m),
            [], ())
      else if response.command = deinitRemoteMeasureId then
        if response.status = eok then
          if m.status = .stopping then
            match stopMeasure response.mhRemote m s with
            | .error fault => .error fault
            | .ok (s₁, out, _) =>
                match monDestroyMeasure answers m.mhLocal s₁ with
                | .error fault => .error fault
                | .ok (s₂, out₂, _) => .ok (s₂, out ++ out₂, ())
          else
            .ok
              (s.setMeasure response.mhRemote
                  { m with status := .stopped },
                [], ())
        else
          .ok
            (s.setMeasure response.mhRemote
                { m with status := .rfailed },
              [], ())
      else
        .ok (s, [], ())

/- The instance that a pointer leads to. -/
def Monitor.instanceAt
    (s : Monitor σ π)
    (object : Nat) : Option (MonMeasure σ π) :=
  s.mMeasureInstances.values.find?
    (fun m => m.object = object)

/- `findMeasureFromId`. -/
def findMeasureFromId
    (dd : DestinationSocketIdMtData)
    (flags : Capabilities)
    (mid : MeasurementId) : Option Nat :=
  (dd.mids (hasFlag flags remote)).lookup mid

/- The answer to a request. -/
def responseTo
    (src : σ)
    (mhr mh : MonHandler)
    (command : BitVec 32)
    (status : Int) : Output σ :=
  .sendResponse src
    { mhRemote := mhr
      mhLocal := mh
      command := command
      status := status }

/- A previous instance for the request is removed. -/
def removePrevious
    (answers : Answers)
    (src : σ)
    (msg : InitRemoteMeasure)
    (s : Monitor σ π) : Outcome σ π Unit :=
  match (s.dispatcherList.lookup ⟨src, msg.msgType⟩).bind
      (fun dd => findMeasureFromId dd msg.mc msg.mid) with
  | none => .ok (s, [], ())
  | some object =>
      match s.instanceAt object with
      | none => .error .deletedMeasure
      | some m =>
          match monDestroyMeasure answers m.mhLocal s with
          | .error fault => .error fault
          | .ok (s₁, out, _) => .ok (s₁, out, ())

/- `initRemoteMeasureRx`, behind a previous instance. -/
def createForPeer
    (plugins : Plugins π)
    (answers : Answers)
    (src : σ)
    (msg : InitRemoteMeasure)
    (s : Monitor σ π) : Outcome σ π Unit :=
  match monCreateMeasureId plugins msg.mid msg.mc s with
  | .error _ =>
      .ok
        (s,
          [responseTo src msg.mhLocal (-1) initRemoteMeasureId
            einval],
          ())
  | .ok (mh, s₁) =>
      match s₁.mMeasureInstances.lookup mh with
      | none => .ok (s₁, [], ())
      | some m =>
          let m₁ := { m with mhRemote := msg.mhLocal }
          let s₂ := s₁.setMeasure mh m₁
          if answers.paramsAccepted then
            match
              activateMeasure answers mh m₁ (some src)
                msg.msgType s₂
            with
            | .error fault => .error fault
            | .ok (s₃, out, ret) =>
                .ok
                  (s₃,
                    out ++
                      [responseTo src msg.mhLocal mh
                        initRemoteMeasureId
                        (if ret = eok then eok else einval)],
                    ())
          else
            .ok
              (s₂,
                [responseTo src msg.mhLocal mh
                  initRemoteMeasureId einval],
                ())

/- `initRemoteMeasureRx`. -/
def initRemoteMeasureRx
    (plugins : Plugins π)
    (answers : Answers)
    (src : σ)
    (msg : InitRemoteMeasure)
    (s : Monitor σ π) : Outcome σ π Unit :=
  match removePrevious answers src msg s with
  | .error fault => .error fault
  | .ok (s₁, out₁, _) =>
      match createForPeer plugins answers src msg s₁ with
      | .error fault => .error fault
      | .ok (s₂, out₂, _) => .ok (s₂, out₁ ++ out₂, ())

/- `deinitRemoteMeasureRx`. -/
def deinitRemoteMeasureRx
    (answers : Answers)
    (src : σ)
    (msg : DeInitRemoteMeasure)
    (s : Monitor σ π) : Outcome σ π Unit :=
  match s.mMeasureInstances.lookup msg.mhRemote with
  | none => .ok (s, [], ())
  | some m =>
      match deactivateMeasure answers msg.mhRemote m s with
      | .error fault => .error fault
      | .ok (s₁, out₁, ret) =>
          if ret ≠ eok then
            .ok
              (s₁,
                out₁ ++
                  [responseTo src msg.mhLocal msg.mhRemote
                    deinitRemoteMeasureId ret],
                ())
          else
            match monDestroyMeasure answers msg.mhRemote s₁ with
            | .error fault => .error fault
            | .ok (s₂, out₂, ret₂) =>
                .ok
                  (s₂,
                    out₁ ++ out₂ ++
                      [responseTo src msg.mhLocal msg.mhRemote
                        deinitRemoteMeasureId ret₂],
                    ())

------------------------------------------------------------
-- Steps
------------------------------------------------------------

/- The calls of the user, and the messages of peers. -/
inductive Event (σ : Type) where
  | createId (id : MeasurementId) (mc : Capabilities)
  | createName (name : String) (mc : Capabilities)
  | activate
      (mh : MonHandler)
      (dst : Option σ)
      (mt : MsgType)
      (answers : Answers)
  | deactivate (mh : MonHandler) (answers : Answers)
  | destroy (mh : MonHandler) (answers : Answers)
  | initRx
      (src : σ)
      (msg : InitRemoteMeasure)
      (answers : Answers)
  | deinitRx
      (src : σ)
      (msg : DeInitRemoteMeasure)
      (answers : Answers)
  | responseRx (response : MeasureResponse) (answers : Answers)

/- A creation leaves the state if it fails. -/
def created
    (s : Monitor σ π)
    (result : Except Int (MonHandler × Monitor σ π)) :
    Monitor σ π :=
  match result with
  | .error _ => s
  | .ok (_, s') => s'

/- A step without the value it returns. -/
def withoutValue
    {α : Type}
    (outcome : Outcome σ π α) :
    Except Fault (Monitor σ π × List (Output σ)) :=
  outcome.map (fun result => (result.1, result.2.1))

def step
    (plugins : Plugins π)
    (s : Monitor σ π)
    (e : Event σ) :
    Except Fault (Monitor σ π × List (Output σ)) :=
  match e with
  | .createId id mc =>
      .ok (created s (monCreateMeasureId plugins id mc s), [])
  | .createName name mc =>
      .ok
        (created s (monCreateMeasureName plugins name mc s), [])
  | .activate mh dst mt answers =>
      withoutValue (monActivateMeasure answers mh dst mt s)
  | .deactivate mh answers =>
      withoutValue (monDeactivateMeasure answers mh s)
  | .destroy mh answers =>
      withoutValue (monDestroyMeasure answers mh s)
  | .initRx src msg answers =>
      withoutValue (initRemoteMeasureRx plugins answers src msg s)
  | .deinitRx src msg answers =>
      withoutValue (deinitRemoteMeasureRx answers src msg s)
  | .responseRx response answers =>
      withoutValue (remoteMeasureResponseRx answers response s)

/- A step that does not run into undefined behaviour. -/
def Step
    (plugins : Plugins π)
    (s : Monitor σ π)
    (e : Event σ)
    (outputs : List (Output σ))
    (s' : Monitor σ π) : Prop :=
  step plugins s e = .ok (s', outputs)

------------------------------------------------------------
-- Hooks
------------------------------------------------------------

/-
  The objects that a hook of the message layer calls for a
  packet or a message of this peer and type.
-/
def hookCalls
    (s : Monitor σ π)
    (hook : Hook)
    (hDst : SocketIdMt σ) : List Nat :=
  match s.dispatcherList.lookup hDst with
  | none => []
  | some dd => (dd.el hook false).values ++ (dd.el hook true).values

end MONL

end NapaBaselibs
