import NapaBaselibs.Lib.Bounded
import NapaBaselibs.MONL.OobTarget

/-
  `receiveCtrlMsg`: the control messages as bytes.

  The header holds a length and a type.  The length is checked
  against the length received, but not against what type and
  counts announce, and of the handlers only that of the data
  is told how much there is.  Each read is made
  where the source makes it; what a handler reads in front of
  a byte that it has read before is inside as well.

  Key definitions include:
    * `receiveCtrlMsg`
    * `initRemoteMeasureBytes`, `remoteMeasureResponseBytes`,
      `deinitRemoteMeasureBytes`, `remoteResultsBytes`,
      `oobDataBytes`
    * `announced`
-/

------------------------------------------------------------
-- Numbers
------------------------------------------------------------

namespace NapaBaselibs

namespace MONL

/- A number, least significant byte first. -/
def numberOf (bytes : List UInt8) : Nat :=
  bytes.foldr (fun byte rest => byte.toNat + 256 * rest) 0

/- `int32_t`. -/
def int32Of (bytes : List UInt8) : Int :=
  (BitVec.ofNat 32 (numberOf bytes)).toInt

def uint32Of (bytes : List UInt8) : BitVec 32 :=
  BitVec.ofNat 32 (numberOf bytes)

/- The bytes of a field, as far as they are there. -/
def fieldOf
    (buf : List UInt8)
    (start count : Nat) : List UInt8 :=
  (buf.drop start).take count

/- `ids.h`. -/
def remoteMeasureResponseType : Nat := 0
def initRemoteMeasureType : Nat := 1
def deinitRemoteMeasureType : Nat := 2
def oobDataType : Nat := 3
def remoteResultsType : Nat := 4

def rttId : MeasurementId := 8

/- `sizeof(struct timeval)`. -/
def timevalSize : Nat := 16

/- A read behind the message, or what a handler runs into. -/
inductive CtrlFault where
  | readBeyond
  | handler (fault : Fault)
deriving DecidableEq, Repr

/- What comes of a control message besides the state. -/
inductive CtrlOutput (σ : Type) where
  | dispatched (output : Output σ)
  | newSample (mh : MonHandler) (bytes : List UInt8)
  | sendOobData (mh : MonHandler) (payload : List UInt8)
deriving DecidableEq

abbrev CtrlResult (σ π : Type) :=
  Monitor σ π × List (CtrlOutput σ)

variable {σ π : Type} [DecidableEq σ]

def readBytes
    (buf : List UInt8)
    (start count : Nat) : Except CtrlFault (List UInt8) :=
  Bounded.read .readBeyond buf start count

/- What the dispatcher makes of a message that was read. -/
def dispatched
    (outcome : Outcome σ π Unit) :
    Except CtrlFault (CtrlResult σ π) :=
  match outcome with
  | .error fault => .error (.handler fault)
  | .ok (s, out, _) => .ok (s, out.map .dispatched)

------------------------------------------------------------
-- Handlers
------------------------------------------------------------

/- The fields of `InitRemoteMeasure` in a message. -/
def initRemoteMeasureAt
    (buf : List UInt8) : InitRemoteMeasure where
  mid := int32Of (fieldOf buf 4 4)
  mc := uint32Of (fieldOf buf 8 4)
  mhLocal := int32Of (fieldOf buf 12 4)
  msgType := BitVec.ofNat 8 (numberOf (fieldOf buf 16 1))

/-
  The parameters of the request, from the first on, until one
  is rejected.
-/
def setParameters
    (accepts : Nat → List UInt8 → Bool)
    (buf : List UInt8) :
    Nat → Nat → Except CtrlFault Bool
| _, 0 => .ok true
| i, n + 1 =>
    readBytes buf (19 + 8 * i) 8 >>= fun value =>
      if accepts i value then
        setParameters accepts buf (i + 1) n
      else
        .ok false

/- `n_params` and the parameters, if there is an instance. -/
def parametersOf
    (accepts : Nat → List UInt8 → Bool)
    (buf : List UInt8)
    (instanceMade : Bool) : Except CtrlFault Bool :=
  if instanceMade then
    readBytes buf 17 2 >>= fun count =>
      setParameters accepts buf 0 (numberOf count)
  else
    .ok false

/-
  `initRemoteMeasureRx`.  The type is the last of the fields
  that are always read, and the first that is read.
-/
def initRemoteMeasureBytes
    (plugins : Plugins π)
    (answers : Answers)
    (accepts : Nat → List UInt8 → Bool)
    (src : σ)
    (buf : List UInt8)
    (s : Monitor σ π) :
    Except CtrlFault (CtrlResult σ π) :=
  readBytes buf 16 1 >>= fun _ =>
    let msg := initRemoteMeasureAt buf
    match removePrevious answers src msg s with
    | .error fault => .error (.handler fault)
    | .ok (s₁, out₁, _) =>
        parametersOf accepts buf
            (monCreateMeasureId plugins msg.mid msg.mc
              s₁).isOk >>= fun accepted =>
          (dispatched
            (createForPeer plugins
              { answers with paramsAccepted := accepted }
              src msg s₁)).map
            (fun result =>
              (result.1,
                out₁.map .dispatched ++ result.2))

/- `remoteMeasureResponseRx`. -/
def remoteMeasureResponseBytes
    (answers : Answers)
    (buf : List UInt8)
    (s : Monitor σ π) :
    Except CtrlFault (CtrlResult σ π) :=
  readBytes buf 4 4 >>= fun mhRemote =>
    match s.mMeasureInstances.lookup (int32Of mhRemote) with
    | none => .ok (s, [])
    | some _ =>
        readBytes buf 12 4 >>= fun command =>
          if uint32Of command = initRemoteMeasureId ∨
              uint32Of command = deinitRemoteMeasureId then
            readBytes buf 16 4 >>= fun status =>
              dispatched
                (remoteMeasureResponseRx answers
                  { mhRemote := int32Of mhRemote
                    mhLocal := int32Of (fieldOf buf 8 4)
                    command := uint32Of command
                    status := (uint32Of status).toNat }
                  s)
          else
            .ok (s, [])

/- `deinitRemoteMeasureRx`. -/
def deinitRemoteMeasureBytes
    (answers : Answers)
    (src : σ)
    (buf : List UInt8)
    (s : Monitor σ π) :
    Except CtrlFault (CtrlResult σ π) :=
  readBytes buf 8 4 >>= fun mhRemote =>
    dispatched
      (deinitRemoteMeasureRx answers src
        { mhLocal := int32Of (fieldOf buf 4 4)
          mhRemote := int32Of mhRemote }
        s)

/- `rb != NULL`. -/
def MonMeasure.hasResultBuffer (m : MonMeasure σ π) : Bool :=
  !m.has remote || m.has remoteResults

/- The pairs of results and handles, from the first on. -/
def resultPairs
    (src : σ)
    (buf : List UInt8)
    (s : Monitor σ π) :
    Nat → Nat → Except CtrlFault (List (CtrlOutput σ))
| _, 0 => .ok []
| i, n + 1 =>
    readBytes buf (17 + 12 * i) 4 >>= fun mh =>
      let out :=
        match s.mMeasureInstances.lookup (int32Of mh) with
        | none => []
        | some m =>
            if m.status = .running ∧
                m.msgType =
                  BitVec.ofNat 8 (numberOf (fieldOf buf 8 1)) ∧
                m.dstSocketid = some src ∧
                m.hasResultBuffer = true then
              [.newSample (int32Of mh)
                (fieldOf buf (9 + 12 * i) 8)]
            else
              []
      (resultPairs src buf s (i + 1) n).map (out ++ ·)

/-
  `remoteResultsRx`.  Type and result of a pair are in front
  of its handle.
-/
def remoteResultsBytes
    (src : σ)
    (buf : List UInt8)
    (s : Monitor σ π) :
    Except CtrlFault (CtrlResult σ π) :=
  readBytes buf 4 4 >>= fun length =>
    (resultPairs src buf s 0 (numberOf length)).map
      (fun out => (s, out))

/-
  `receiveOobData`, as far as it reads the message: only RTT
  does.  Capprobe and Forecaster go by the packet that they
  keep; that is left out.
-/
def receiveOobData
    (mh : MonHandler)
    (m : MonMeasure σ π)
    (buf : List UInt8) :
    Except CtrlFault (List (CtrlOutput σ)) :=
  if m.id = rttId then
    if m.has remote then
      .ok [.sendOobData mh (buf.drop 12)]
    else
      readBytes buf 12 timevalSize >>= fun start =>
        .ok [.newSample mh start]
  else
    .ok []

/- `oobDataRx`, with what the plugin does. -/
def oobDataBytes
    (src : σ)
    (buf : List UInt8)
    (s : Monitor σ π) :
    Except CtrlFault (CtrlResult σ π) :=
  readBytes buf 8 4 >>= fun mhRemote =>
    match oobDataRx src (int32Of mhRemote) s with
    | .error fault => .error (.handler fault)
    | .ok none => .ok (s, [])
    | .ok (some _) =>
        match s.mMeasureInstances.lookup (int32Of mhRemote) with
        | none => .ok (s, [])
        | some m =>
            (receiveOobData (int32Of mhRemote) m buf).map
              (fun out => (s, out))

/- `receiveCtrlMsg`. -/
def receiveCtrlMsg
    (plugins : Plugins π)
    (answers : Answers)
    (accepts : Nat → List UInt8 → Bool)
    (sid : σ)
    (buf : List UInt8)
    (s : Monitor σ π) :
    Except CtrlFault (CtrlResult σ π) :=
  readBytes buf 0 2 >>= fun length =>
    if buf.length < numberOf length then
      .ok (s, [])
    else
      readBytes buf 2 2 >>= fun type =>
        if numberOf type = initRemoteMeasureType then
          initRemoteMeasureBytes plugins answers accepts sid
            buf s
        else if numberOf type = remoteMeasureResponseType then
          remoteMeasureResponseBytes answers buf s
        else if numberOf type = deinitRemoteMeasureType then
          deinitRemoteMeasureBytes answers sid buf s
        else if numberOf type = remoteResultsType then
          remoteResultsBytes sid buf s
        else if numberOf type = oobDataType then
          oobDataBytes sid buf s
        else
          .ok (s, [])

------------------------------------------------------------
-- Announced Lengths
------------------------------------------------------------

/- `mheader->length` and `mheader->type`. -/
def headerLength (buf : List UInt8) : Nat :=
  numberOf (fieldOf buf 0 2)

def headerType (buf : List UInt8) : Nat :=
  numberOf (fieldOf buf 2 2)

/- `initmeasure->n_params` and `rresults->length`. -/
def paramCount (buf : List UInt8) : Nat :=
  numberOf (fieldOf buf 17 2)

def resultCount (buf : List UInt8) : Nat :=
  numberOf (fieldOf buf 4 4)

/- The length of the body that type and counts announce. -/
def bodyLength (buf : List UInt8) : Nat :=
  if headerType buf = initRemoteMeasureType then
    15 + 8 * paramCount buf
  else if headerType buf = remoteMeasureResponseType then
    16
  else if headerType buf = deinitRemoteMeasureType then
    8
  else if headerType buf = remoteResultsType then
    5 + 12 * resultCount buf
  else if headerType buf = oobDataType then
    8
  else
    0

/- The length that a message announces. -/
def announced (buf : List UInt8) : Nat :=
  max (headerLength buf) (4 + bodyLength buf)

/-
  All reads are inside, and a message that is too short for
  what it announces changes nothing.
-/
def CtrlSound
    (buf : List UInt8)
    (s : Monitor σ π)
    (outcome : Except CtrlFault (CtrlResult σ π)) : Prop :=
  outcome ≠ .error .readBeyond ∧
    (buf.length < announced buf →
      ∃ out, outcome = .ok (s, out) ∧
        ∀ mh bytes, .newSample mh bytes ∉ out)

end MONL

end NapaBaselibs
