import NapaBaselibs.ML.Wire
import NapaBaselibs.ML.State

/-
  `stun.c`: STUN messages, their encoder and their parser.

  An attribute and its `has` flag are one optional field, and
  a string with its size is a list of bytes.  Numbers travel
  in network order, so the bytes do not depend on the host.

  Key definitions include:
    * `StunMessage`
    * `stunEncodeMessage`
    * `stunParseAttribute`, `stunParseMessage`

  Key theorems include:
    * `stunParseAttributes_nil`
    * `stunParseAttributes_step`
-/

------------------------------------------------------------
-- Messages
------------------------------------------------------------

namespace NapaBaselibs

namespace ML

/- `STUN_MAX_STRING`. -/
def stunMaxString : Nat := 256

/- `STUN_MAX_UNKNOWN_ATTRIBUTES`. -/
def stunMaxUnknownAttributes : Nat := 8

/- `sizeof` of the three structures that are compared with. -/
def sizeofStunMsgHdr : Nat := 20
def sizeofStunAtrError : Nat := 262
def sizeofStunAtrUnknown : Nat := 18

/- `StunMsgHdr`. -/
structure StunMsgHdr where
  msgType : UInt16
  msgLength : UInt16
  id : Vector UInt8 16
deriving DecidableEq

/- `StunAddress4`. -/
structure StunAddress4 where
  port : UInt16
  addr : UInt32
deriving DecidableEq, Repr

/- `StunAtrAddress4`. -/
structure StunAtrAddress4 where
  pad : UInt8
  family : UInt8
  ipv4 : StunAddress4
deriving DecidableEq, Repr

/- `StunAtrChangeRequest`. -/
structure StunAtrChangeRequest where
  value : UInt32
deriving DecidableEq, Repr

/- `StunAtrString`: the first `sizeValue` bytes. -/
structure StunAtrString where
  value : List UInt8
  size_lt : value.length < stunMaxString
deriving DecidableEq, Repr

/- `StunAtrError`, with the first `sizeReason` bytes. -/
structure StunAtrError where
  pad : UInt16
  errorClass : UInt8
  number : UInt8
  reason : List UInt8
  size_lt : reason.length < stunMaxString
deriving DecidableEq, Repr

/- `StunAtrUnknown`: the first `numAttributes` types. -/
structure StunAtrUnknown where
  attrType : List UInt16
  size_le : attrType.length ≤ stunMaxUnknownAttributes
deriving DecidableEq, Repr

/- `StunAtrIntegrity`. -/
structure StunAtrIntegrity where
  hash : Vector UInt8 20
deriving DecidableEq

/- `StunMessage`. -/
structure StunMessage where
  msgHdr : StunMsgHdr
  mappedAddress : Option StunAtrAddress4
  responseAddress : Option StunAtrAddress4
  changeRequest : Option StunAtrChangeRequest
  sourceAddress : Option StunAtrAddress4
  changedAddress : Option StunAtrAddress4
  username : Option StunAtrString
  password : Option StunAtrString
  messageIntegrity : Option StunAtrIntegrity
  errorCode : Option StunAtrError
  unknownAttributes : Option StunAtrUnknown
  reflectedFrom : Option StunAtrAddress4
  xorMappedAddress : Option StunAtrAddress4
  xorOnly : Bool
  serverName : Option StunAtrString
  secondaryAddress : Option StunAtrAddress4
deriving DecidableEq

/- A message without attributes. -/
def StunMessage.bare (msgHdr : StunMsgHdr) : StunMessage where
  msgHdr := msgHdr
  mappedAddress := none
  responseAddress := none
  changeRequest := none
  sourceAddress := none
  changedAddress := none
  username := none
  password := none
  messageIntegrity := none
  errorCode := none
  unknownAttributes := none
  reflectedFrom := none
  xorMappedAddress := none
  xorOnly := false
  serverName := none
  secondaryAddress := none

/- The message that `memset` makes of all zero bytes. -/
def StunMessage.zero : StunMessage :=
  .bare ⟨0, 0, Vector.replicate 16 0⟩

namespace Stun

/- The address family, and the types of the attributes. -/
def ipv4Family : UInt8 := 0x01
def mappedAddress : UInt16 := 0x0001
def responseAddress : UInt16 := 0x0002
def changeRequest : UInt16 := 0x0003
def sourceAddress : UInt16 := 0x0004
def changedAddress : UInt16 := 0x0005
def username : UInt16 := 0x0006
def password : UInt16 := 0x0007
def messageIntegrity : UInt16 := 0x0008
def errorCode : UInt16 := 0x0009
def unknownAttribute : UInt16 := 0x000A
def reflectedFrom : UInt16 := 0x000B
def xorMappedAddress : UInt16 := 0x8020
def xorOnly : UInt16 := 0x0021
def serverName : UInt16 := 0x8022
def secondaryAddress : UInt16 := 0x8050

end Stun

------------------------------------------------------------
-- Encoding
------------------------------------------------------------

/- `encode16`, `encode32`: network order on every host. -/
def encode16 (data : UInt16) : List UInt8 :=
  ByteSeq.be16 data

def encode32 (data : UInt32) : List UInt8 :=
  ByteSeq.be32 data

/-
  `encodeAtrString`, which asserts that the size is a
  multiple of 4.
-/
def encodeAtrString
    (type : UInt16)
    (atr : StunAtrString) : List UInt8 :=
  encode16 type ++ encode16 (UInt16.ofNat atr.value.length) ++
    atr.value

/- `encodeAtrIntegrity`. -/
def encodeAtrIntegrity (atr : StunAtrIntegrity) :
    List UInt8 :=
  encode16 Stun.messageIntegrity ++ encode16 20 ++
    atr.hash.toList

/- `encodeAtrError`. -/
def encodeAtrError (atr : StunAtrError) : List UInt8 :=
  encode16 Stun.errorCode ++
    encode16 (UInt16.ofNat (6 + atr.reason.length)) ++
    encode16 atr.pad ++ [atr.errorClass, atr.number] ++
    atr.reason

/- `encodeAtrUnknown`. -/
def encodeAtrUnknown (atr : StunAtrUnknown) : List UInt8 :=
  encode16 Stun.unknownAttribute ++
    encode16 (UInt16.ofNat (2 + 2 * atr.attrType.length)) ++
    atr.attrType.flatMap encode16

/- `encodeAtrAddress4`. -/
def encodeAtrAddress4
    (type : UInt16)
    (atr : StunAtrAddress4) : List UInt8 :=
  encode16 type ++ encode16 8 ++
    [atr.pad, Stun.ipv4Family] ++ encode16 atr.ipv4.port ++
    encode32 atr.ipv4.addr

/- `encodeAtrChangeRequest`. -/
def encodeAtrChangeRequest (atr : StunAtrChangeRequest) :
    List UInt8 :=
  encode16 Stun.changeRequest ++ encode16 4 ++
    encode32 atr.value

/- `encodeXorOnly`, which writes no length. -/
def encodeXorOnly : List UInt8 :=
  encode16 Stun.xorOnly

/- The bytes of an attribute that a message may have. -/
def encodeOptional
    {α : Type}
    (encode : α → List UInt8)
    (atr : Option α) : List UInt8 :=
  match atr with
  | some value => encode value
  | none => []

@[simp] theorem encodeOptional_none
    {α : Type}
    (encode : α → List UInt8) :
    encodeOptional encode none = [] := rfl

@[simp] theorem encodeOptional_some
    {α : Type}
    (encode : α → List UInt8)
    (value : α) :
    encodeOptional encode (some value) = encode value := rfl

/- The attributes in the order of `stunEncodeMessage`. -/
def encodeAttributes (msg : StunMessage) : List UInt8 :=
  encodeOptional (encodeAtrAddress4 Stun.mappedAddress)
      msg.mappedAddress ++
    encodeOptional (encodeAtrAddress4 Stun.responseAddress)
      msg.responseAddress ++
    encodeOptional encodeAtrChangeRequest msg.changeRequest ++
    encodeOptional (encodeAtrAddress4 Stun.sourceAddress)
      msg.sourceAddress ++
    encodeOptional (encodeAtrAddress4 Stun.changedAddress)
      msg.changedAddress ++
    encodeOptional (encodeAtrString Stun.username)
      msg.username ++
    encodeOptional (encodeAtrString Stun.password)
      msg.password ++
    encodeOptional encodeAtrError msg.errorCode ++
    encodeOptional encodeAtrUnknown msg.unknownAttributes ++
    encodeOptional (encodeAtrAddress4 Stun.reflectedFrom)
      msg.reflectedFrom ++
    encodeOptional (encodeAtrAddress4 Stun.xorMappedAddress)
      msg.xorMappedAddress ++
    (if msg.xorOnly then encodeXorOnly else []) ++
    encodeOptional (encodeAtrString Stun.serverName)
      msg.serverName ++
    encodeOptional (encodeAtrAddress4 Stun.secondaryAddress)
      msg.secondaryAddress

/-
  `stunEncodeMessage` into a buffer that is large enough.
  With a password it appends a hash that nothing has
  computed, which is an input.
-/
def stunEncodeMessage
    (msg : StunMessage)
    (password : StunAtrString)
    (integrity : StunAtrIntegrity) : List UInt8 :=
  let body :=
    encodeAttributes msg ++
      (if password.value.length > 0 then
        encodeAtrIntegrity integrity
      else
        [])
  encode16 msg.msgHdr.msgType ++
    encode16 (UInt16.ofNat body.length) ++
    msg.msgHdr.id.toList ++ body

------------------------------------------------------------
-- Parsing
------------------------------------------------------------

/- The short in network order at a position. -/
def shortAt
    (bytes : List UInt8)
    (start : Nat) : UInt16 :=
  ByteSeq.ofBe16
    (bytes.getD start 0) (bytes.getD (start + 1) 0)

/- `stunParseAtrAddress`. -/
def stunParseAtrAddress
    (body : List UInt8)
    (hdrLen : Nat) : Option StunAtrAddress4 :=
  if hdrLen ≠ 8 then
    none
  else if body.getD 1 0 = Stun.ipv4Family then
    some
      { pad := body.getD 0 0
        family := body.getD 1 0
        ipv4 :=
          { port := shortAt body 2
            addr := wordAt body 4 } }
  else
    none

/- `stunParseAtrChangeRequest`. -/
def stunParseAtrChangeRequest
    (body : List UInt8)
    (hdrLen : Nat) : Option StunAtrChangeRequest :=
  if hdrLen ≠ 4 then
    none
  else
    some { value := wordAt body 0 }

/- `stunParseAtrUnknown`. -/
def stunParseAtrUnknown
    (body : List UInt8)
    (hdrLen : Nat) : Option StunAtrUnknown :=
  if hSize : hdrLen < sizeofStunAtrUnknown then
    if hdrLen % 4 ≠ 0 then
      none
    else
      some
        { attrType :=
            (List.range (hdrLen / 4)).map
              (fun i => shortAt body (2 * i))
          size_le := by
            unfold sizeofStunAtrUnknown at hSize
            unfold stunMaxUnknownAttributes
            rw [List.length_map, List.length_range]
            omega }
  else
    none

/- `stunParseAtrString`. -/
def stunParseAtrString
    (body : List UInt8)
    (hdrLen : Nat) : Option StunAtrString :=
  if hSize : hdrLen < stunMaxString then
    if hdrLen % 4 ≠ 0 then
      none
    else
      some
        { value := body.take hdrLen
          size_lt := by
            rw [List.length_take]
            omega }
  else
    none

/- `stunParseAtrIntegrity`. -/
def stunParseAtrIntegrity
    (body : List UInt8)
    (hdrLen : Nat) : Option StunAtrIntegrity :=
  if hdrLen ≠ 20 then
    none
  else
    some
      { hash :=
          Vector.ofFn (fun i : Fin 20 => body.getD i 0) }

/-
  `stunParseAtrError`.  The size of the reason is computed in
  an `unsigned short`; a reason that does not fit in its
  array, with the zero behind it, is a copy out of bounds.
-/
def stunParseAtrError
    (body : List UInt8)
    (hdrLen : Nat) : Except Fault (Option StunAtrError) :=
  if hdrLen ≥ sizeofStunAtrError then
    .ok none
  else
    let sizeReason := (hdrLen + 2 ^ 16 - 4) % 2 ^ 16
    if hSize : sizeReason < stunMaxString then
      .ok
        (some
          { pad := shortAt body 0
            errorClass := body.getD 2 0
            number := body.getD 3 0
            reason := (body.drop 4).take sizeReason
            size_lt := by
              rw [List.length_take]
              omega })
    else
      .error .copyWrite

/-
  The branches of the loop of `stunParseMessage`: `none`
  where the function returns false.
-/
def stunParseAttribute
    (atrType : UInt16)
    (body : List UInt8)
    (attrLen : Nat)
    (msg : StunMessage) : Except Fault (Option StunMessage) :=
  if atrType = Stun.mappedAddress then
    .ok ((stunParseAtrAddress body attrLen).map fun value =>
      { msg with mappedAddress := some value })
  else if atrType = Stun.responseAddress then
    .ok ((stunParseAtrAddress body attrLen).map fun value =>
      { msg with responseAddress := some value })
  else if atrType = Stun.changeRequest then
    .ok ((stunParseAtrChangeRequest body attrLen).map
      fun value => { msg with changeRequest := some value })
  else if atrType = Stun.sourceAddress then
    .ok ((stunParseAtrAddress body attrLen).map fun value =>
      { msg with sourceAddress := some value })
  else if atrType = Stun.changedAddress then
    .ok ((stunParseAtrAddress body attrLen).map fun value =>
      { msg with changedAddress := some value })
  else if atrType = Stun.username then
    .ok ((stunParseAtrString body attrLen).map fun value =>
      { msg with username := some value })
  else if atrType = Stun.password then
    .ok ((stunParseAtrString body attrLen).map fun value =>
      { msg with password := some value })
  else if atrType = Stun.messageIntegrity then
    .ok ((stunParseAtrIntegrity body attrLen).map
      fun value =>
        { msg with messageIntegrity := some value })
  else if atrType = Stun.errorCode then
    match stunParseAtrError body attrLen with
    | .error fault => .error fault
    | .ok result =>
        .ok (result.map fun value =>
          { msg with errorCode := some value })
  else if atrType = Stun.unknownAttribute then
    .ok ((stunParseAtrUnknown body attrLen).map
      fun value =>
        { msg with unknownAttributes := some value })
  else if atrType = Stun.reflectedFrom then
    .ok ((stunParseAtrAddress body attrLen).map fun value =>
      { msg with reflectedFrom := some value })
  else if atrType = Stun.xorMappedAddress then
    .ok ((stunParseAtrAddress body attrLen).map fun value =>
      { msg with xorMappedAddress := some value })
  else if atrType = Stun.xorOnly then
    .ok (some { msg with xorOnly := true })
  else if atrType = Stun.serverName then
    .ok ((stunParseAtrString body attrLen).map fun value =>
      { msg with serverName := some value })
  else if atrType = Stun.secondaryAddress then
    .ok ((stunParseAtrAddress body attrLen).map fun value =>
      { msg with secondaryAddress := some value })
  else if atrType ≤ 0x7FFF then
    .ok none
  else
    .ok (some msg)

/-
  The loop of `stunParseMessage`.  The header of an attribute
  is read without a check, so at the end of the message its
  bytes may come from the memory behind the buffer.  Every
  round takes at least four bytes.
-/
def stunParseLoop
    (beyond : List UInt8) :
    Nat → List UInt8 → StunMessage →
      Except Fault (Option StunMessage)
| 0, _, _ => .error .noReturn
| fuel + 1, body, msg =>
    if body = [] then
      .ok (some msg)
    else
      let atrType := shortAt (body ++ beyond) 0
      let attrLen := (shortAt (body ++ beyond) 2).toNat
      if attrLen + 4 > body.length then
        .ok none
      else
        match
          stunParseAttribute atrType (body.drop 4) attrLen msg
        with
        | .error fault => .error fault
        | .ok none => .ok none
        | .ok (some msg') =>
            stunParseLoop beyond fuel
              (body.drop (4 + attrLen)) msg'

/- The loop with enough rounds for the bytes of the body. -/
def stunParseAttributes
    (beyond body : List UInt8)
    (msg : StunMessage) : Except Fault (Option StunMessage) :=
  stunParseLoop beyond (body.length + 1) body msg

/-
  `stunParseMessage` into the message `msg`: `none` where the
  function returns false.  The `memset` at its start clears
  as many bytes as a pointer has, all of the header, which
  is overwritten in any case.
-/
def stunParseMessage
    (beyond buf : List UInt8)
    (msg : StunMessage) : Except Fault (Option StunMessage) :=
  if sizeofStunMsgHdr > buf.length then
    .ok none
  else
    let msgHdr : StunMsgHdr :=
      { msgType := shortAt buf 0
        msgLength := shortAt buf 2
        id := Vector.ofFn (fun i : Fin 16 =>
          buf.getD (4 + i) 0) }
    if msgHdr.msgLength.toNat + sizeofStunMsgHdr ≠
        buf.length then
      .ok none
    else
      stunParseAttributes beyond (buf.drop sizeofStunMsgHdr)
        { msg with msgHdr := msgHdr }

------------------------------------------------------------
-- The Loop
------------------------------------------------------------

@[simp] theorem length_encode16
    (data : UInt16) :
    (encode16 data).length = 2 := rfl

@[simp] theorem length_encode32
    (data : UInt32) :
    (encode32 data).length = 4 := rfl

/- More rounds than the body has bytes are enough. -/
theorem stunParseLoop_fuel
    (beyond : List UInt8)
    {fuel fuel' : Nat}
    {body : List UInt8}
    (msg : StunMessage)
    (hFuel : body.length < fuel)
    (hFuel' : body.length < fuel') :
    stunParseLoop beyond fuel body msg =
      stunParseLoop beyond fuel' body msg := by
  induction fuel generalizing fuel' body msg with
  | zero => exact absurd hFuel (Nat.not_lt_zero _)
  | succ fuel ih =>
      cases fuel' with
      | zero => exact absurd hFuel' (Nat.not_lt_zero _)
      | succ fuel' =>
          unfold stunParseLoop
          split
          · rfl
          · rename_i hBody
            have hPos : 0 < body.length :=
              List.length_pos_iff.mpr hBody
            simp only
            split
            · rfl
            · cases
                stunParseAttribute
                  (shortAt (body ++ beyond) 0)
                  (body.drop 4)
                  (shortAt (body ++ beyond) 2).toNat msg with
              | error fault => rfl
              | ok result =>
                  cases result with
                  | none => rfl
                  | some msg' =>
                      apply ih
                      · rw [List.length_drop]
                        omega
                      · rw [List.length_drop]
                        omega

/- At the end of the message the parser returns true. -/
theorem stunParseAttributes_nil
    (beyond : List UInt8)
    (msg : StunMessage) :
    stunParseAttributes beyond [] msg = .ok (some msg) :=
  rfl

/- What comes after an attribute was parsed. -/
def stunParseRest
    (beyond rest : List UInt8) :
    Except Fault (Option StunMessage) →
      Except Fault (Option StunMessage)
| .error fault => .error fault
| .ok none => .ok none
| .ok (some msg) => stunParseAttributes beyond rest msg

/- One round of the loop, whatever the bytes are. -/
theorem stunParseAttributes_unfold
    (beyond : List UInt8)
    {body : List UInt8}
    (msg : StunMessage)
    (hBody : body ≠ []) :
    stunParseAttributes beyond body msg =
      if (shortAt (body ++ beyond) 2).toNat + 4 >
          body.length then
        .ok none
      else
        stunParseRest beyond
          (body.drop
            (4 + (shortAt (body ++ beyond) 2).toNat))
          (stunParseAttribute (shortAt (body ++ beyond) 0)
            (body.drop 4)
            (shortAt (body ++ beyond) 2).toNat msg) := by
  have hPos : 0 < body.length :=
    List.length_pos_iff.mpr hBody
  unfold stunParseAttributes
  rw [stunParseLoop, if_neg hBody]
  simp only
  split
  · rfl
  · cases
      stunParseAttribute (shortAt (body ++ beyond) 0)
        (body.drop 4)
        (shortAt (body ++ beyond) 2).toNat msg with
    | error fault => rfl
    | ok result =>
        cases result with
        | none => rfl
        | some msg' =>
            apply stunParseLoop_fuel
            · rw [List.length_drop]
              omega
            · exact Nat.lt_succ_self _

/- One round of the loop on the header of an attribute. -/
theorem stunParseAttributes_step
    (beyond : List UInt8)
    (type length : UInt16)
    (rest : List UInt8)
    (msg : StunMessage) :
    stunParseAttributes beyond
        (encode16 type ++ encode16 length ++ rest) msg =
      if length.toNat > rest.length then
        .ok none
      else
        stunParseRest beyond (rest.drop length.toNat)
          (stunParseAttribute type rest length.toNat msg) := by
  have hType :
      shortAt
          (encode16 type ++ encode16 length ++ rest ++ beyond)
          0 = type :=
    ByteSeq.ofBe16_be16 type
  have hLength :
      shortAt
          (encode16 type ++ encode16 length ++ rest ++ beyond)
          2 = length :=
    ByteSeq.ofBe16_be16 length
  have hSize :
      (encode16 type ++ encode16 length ++ rest).length =
        rest.length + 4 := by
    simp only [List.length_append, length_encode16]
    omega
  have hDrop :
      (encode16 type ++ encode16 length ++ rest).drop 4 =
        rest :=
    rfl
  rw [stunParseAttributes_unfold beyond msg (by
      intro hNil
      rw [hNil] at hSize
      cases hSize), hType, hLength, hSize,
    ← List.drop_drop, hDrop]
  simp only [gt_iff_lt, Nat.add_lt_add_iff_right]

end ML

end NapaBaselibs
