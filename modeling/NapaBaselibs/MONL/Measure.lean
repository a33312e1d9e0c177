import NapaBaselibs.Lib.Dict
import Mathlib.Data.BitVec

/-
  `mon_measure.h`, `measure_plugin.h`, `measure_manager.h`:
  measures, the plugins that make them, and the instances of
  the manager.

  A measure has the address of its object, so that a pointer
  to an object that was deleted stays recognisable also when
  its handle is used again.

  Key definitions include:
    * `MeasurePlugin`, `MonMeasure`
    * `DestinationSocketIdMtData`, `Monitor`
    * `setFlags`, `insertNewInstance`, `monCreateMeasureId`
-/

------------------------------------------------------------
-- Constants
------------------------------------------------------------

namespace NapaBaselibs

namespace MONL

abbrev MonHandler := Int

abbrev MeasurementId := Int

/- A bit set. -/
abbrev Capabilities := BitVec 32

abbrev MsgType := BitVec 8

/- `MSG_TYPE_MONL`. -/
def msgTypeMonl : MsgType := 0x09

/- The bits of `mon.h`. -/
def inBand : Capabilities := 1
def outOfBand : Capabilities := 2
def timerBased : Capabilities := 4
def packet : Capabilities := 8
def data : Capabilities := 16
def txLoc : Capabilities := 32
def rxLoc : Capabilities := 64
def txRem : Capabilities := 128
def rxRem : Capabilities := 256
def remote : Capabilities := 512
def remoteResults : Capabilities := 1024

/- `TXRXBI`. -/
def txRxBi : Capabilities :=
  txLoc ||| rxRem ||| txRem ||| rxLoc

/- `flags & bit` as a condition. -/
def hasFlag (flags bit : Capabilities) : Bool :=
  flags &&& bit != 0

/- `errors.h`. -/
def eok : Int := 0
def eexists : Int := 2
def erange : Int := 3
def einval : Int := 4
def enomem : Int := 6

/- `MAX_NUM_MEASURES_INSTANTIATED`. -/
def maxNumMeasuresInstantiated : Int := 1000000

/- `MeasurementStatus`. -/
inductive MeasurementStatus where
  | unknown
  | stopped
  | running
  | failed
  | rfailed
  | msError
  | initialising
  | stopping
deriving DecidableEq, Repr

------------------------------------------------------------
-- Measures
------------------------------------------------------------

/-
  A plugin, with what `init` and `stop` of its measures do to
  their own state.  A `stop` may write into the result lists;
  the only plugin without capabilities has none.  The example
  plugin creates its measures with `RXONLY` in any case.
-/
structure MeasurePlugin (π : Type) where
  id : MeasurementId
  caps : Capabilities
  rxOnly : Bool := false
  created : π
  init : π → π
  stop : π → π
  writesInStop : Bool
  quiet : caps = 0 → writesInStop = false

/- `SocketIdMt`; socket IDs that compare equal are equal. -/
structure SocketIdMt (σ : Type) where
  sid : σ
  mt : MsgType
deriving DecidableEq

/- Which arrays of an entry the result lists are. -/
structure ResultLists (σ : Type) where
  hDst : SocketIdMt σ
  packets : Bool
  remote : Bool
deriving DecidableEq

/- `MonMeasure`.  Its `used_counter` is 0 throughout. -/
structure MonMeasure (σ π : Type) where
  object : Nat
  measurePlugin : MeasurePlugin π
  flags : Capabilities
  status : MeasurementStatus
  mhLocal : MonHandler
  mhRemote : MonHandler
  dstSocketid : Option σ
  dstSocketidPublish : Bool
  msgType : MsgType
  results : Option (ResultLists σ)
  plugin : π

namespace MonMeasure

variable {σ π : Type}

def has (m : MonMeasure σ π) (bit : Capabilities) : Bool :=
  hasFlag m.flags bit

def id (m : MonMeasure σ π) : MeasurementId :=
  m.measurePlugin.id

/- There is a remote counterpart. -/
def remoteCounterpart (m : MonMeasure σ π) : Bool :=
  m.has txRem || m.has rxRem

/- The key of the measure, once it has a destination. -/
def hDst (m : MonMeasure σ π) : Option (SocketIdMt σ) :=
  m.dstSocketid.map (fun sid => ⟨sid, m.msgType⟩)

end MonMeasure

------------------------------------------------------------
-- Entries
------------------------------------------------------------

/- The hooks of the message layer that run measures. -/
inductive Hook where
  | rxPkt
  | txPkt
  | rxData
  | txData
deriving DecidableEq

/- A map from identifiers to objects, in their order. -/
abbrev ExecutionList := Dict MeasurementId Nat

/-
  `DestinationSocketIdMtData`: for each hook the list of the
  local and of the remote measures, and the same for the
  measures that are loaded.
-/
structure DestinationSocketIdMtData where
  el : Hook → Bool → ExecutionList
  mids : Bool → ExecutionList

/- A new entry. -/
def DestinationSocketIdMtData.new :
    DestinationSocketIdMtData where
  el := fun _ _ => ∅
  mids := fun _ => ∅

/- The manager and its dispatcher. -/
structure Monitor (σ π : Type) where
  mMeasureInstances : Dict MonHandler (MonMeasure σ π)
  nextMeasureHandler : MonHandler
  nextObject : Nat
  dispatcherList :
    Dict (SocketIdMt σ) DestinationSocketIdMtData

/- Before the first call. -/
def Monitor.initial {σ π : Type} : Monitor σ π where
  mMeasureInstances := ∅
  nextMeasureHandler := 0
  nextObject := 0
  dispatcherList := ∅

/- Undefined behaviour that a step can run into. -/
inductive Fault where
  | nullEntry
  | eraseEnd
  | nullResults
  | deletedMeasure
  | readBeyond
deriving DecidableEq, Repr

------------------------------------------------------------
-- Creation
------------------------------------------------------------

variable {σ π : Type}

/-
  `setFlags`: an error, or the flags after it.  Only a measure
  that is timer based gets other flags than it has.
-/
def setFlags
    (caps flags f : Capabilities) : Except Int Capabilities :=
  if f = caps ∧ f = 0 then
    .ok flags
  else if f &&& ~~~(caps ||| txRxBi ||| remote |||
      remoteResults) ≠ 0 then
    .error (-erange)
  else if (f &&& packet) ^^^ (f &&& data) = 0 then
    .error (-erange)
  else if hasFlag f timerBased then
    .ok (flags ||| (timerBased ||| inBand ||| outOfBand))
  else if (f &&& inBand) ^^^ (f &&& outOfBand) = 0 then
    .error (-erange)
  else
    .ok flags

/- `createMeasure`. -/
def createMeasure
    (mp : MeasurePlugin π)
    (mc : Capabilities)
    (object : Nat) : MonMeasure σ π where
  object := object
  measurePlugin := mp
  flags := if mp.rxOnly then mc ||| rxLoc else mc
  status := .stopped
  mhLocal := 0
  mhRemote := -1
  dstSocketid := none
  dstSocketidPublish := false
  msgType := 0
  results := none
  plugin := mp.created

/- `insertNewInstance`. -/
def insertNewInstance
    (s : Monitor σ π)
    (m : MonMeasure σ π) : Except Int (MonHandler × Monitor σ π) :=
  let newMh := s.nextMeasureHandler
  if (s.mMeasureInstances.lookup newMh).isSome then
    .error (-enomem)
  else
    .ok
      (newMh,
        { s with
          mMeasureInstances :=
            s.mMeasureInstances.insert newMh
              { m with mhLocal := newMh }
          nextMeasureHandler :=
            if newMh + 1 = maxNumMeasuresInstantiated then
              0
            else
              newMh + 1
          nextObject := s.nextObject + 1 })

/- The plugins that are loaded, by identifier and by name. -/
structure Plugins (π : Type) where
  byId : MeasurementId → Option (MeasurePlugin π)
  byName : String → Option (MeasurePlugin π)

/- What both ways of creating a measure have in common. -/
def createFrom
    (plugin : Option (MeasurePlugin π))
    (mc : Capabilities)
    (s : Monitor σ π) : Except Int (MonHandler × Monitor σ π) :=
  match plugin with
  | none => .error (-einval)
  | some mp =>
      let mc :=
        if hasFlag mc remote then
          mc
        else
          mc ||| (mp.caps &&& txRxBi)
      let m := createMeasure mp mc s.nextObject
      match setFlags mp.caps m.flags mc with
      | .error code => .error code
      | .ok flags =>
          insertNewInstance s { m with flags := flags }

/- `monCreateMeasureId`. -/
def monCreateMeasureId
    (plugins : Plugins π)
    (id : MeasurementId)
    (mc : Capabilities)
    (s : Monitor σ π) : Except Int (MonHandler × Monitor σ π) :=
  createFrom (plugins.byId id) mc s

/- `monCreateMeasureName`. -/
def monCreateMeasureName
    (plugins : Plugins π)
    (name : String)
    (mc : Capabilities)
    (s : Monitor σ π) : Except Int (MonHandler × Monitor σ π) :=
  createFrom (plugins.byName name) mc s

end MONL

end NapaBaselibs
