import NapaBaselibs.Lib.Bounded
import NapaBaselibs.ML.Stun

/-
  The memory accesses of `stunParseMessage`.

  The parser again, with a check of every read against the
  end of the message and of every write against the size of
  the array written.  It passes all of its checks exactly when
  no header is cut off and no error code has a length for
  which its reason does not fit.

  Key definitions include:
    * `checkAttribute`, `checkLoop`, `checkMessage`
    * `Accepts`, `Reaches`, `Harmless`

  Key theorems include:
    * `checkAttribute_cases`
    * `checkLoop_cases`
    * `checkMessage_refines`
    * `stun_within_bounds_iff`
-/

------------------------------------------------------------
-- Attributes
------------------------------------------------------------

namespace NapaBaselibs

namespace ML

/- A read of bytes of the message. -/
abbrev readBytes
    (body : List UInt8)
    (start count : Nat) : Except Fault (List UInt8) :=
  Bounded.read .copyRead body start count

/- A write into an array of a field. -/
abbrev writeArray
    (room start count : Nat) : Except Fault Unit :=
  Bounded.write .copyWrite room start count

/- `stunParseAtrAddress`. -/
def checkAtrAddress
    (body : List UInt8)
    (hdrLen : Nat) : Except Fault (Option StunAtrAddress4) :=
  if hdrLen ≠ 8 then
    .ok none
  else do
    let pad ← readBytes body 0 1
    let family ← readBytes body 1 1
    if family.getD 0 0 = Stun.ipv4Family then
      let nport ← readBytes body 2 2
      let naddr ← readBytes body 4 4
      .ok
        (some
          { pad := pad.getD 0 0
            family := family.getD 0 0
            ipv4 :=
              { port := shortAt nport 0
                addr := wordAt naddr 0 } })
    else
      .ok none

/- `stunParseAtrChangeRequest`. -/
def checkAtrChangeRequest
    (body : List UInt8)
    (hdrLen : Nat) :
    Except Fault (Option StunAtrChangeRequest) :=
  if hdrLen ≠ 4 then
    .ok none
  else do
    let value ← readBytes body 0 4
    .ok (some { value := wordAt value 0 })

/- `stunParseAtrUnknown`. -/
def checkAtrUnknown
    (body : List UInt8)
    (hdrLen : Nat) : Except Fault (Option StunAtrUnknown) :=
  if hdrLen < sizeofStunAtrUnknown then
    if hdrLen % 4 ≠ 0 then
      .ok none
    else do
      let attrType ← (List.range (hdrLen / 4)).mapM fun i => do
        let short ← readBytes body (2 * i) 2
        writeArray stunMaxUnknownAttributes i 1
        .ok (shortAt short 0)
      if hSize : attrType.length ≤ stunMaxUnknownAttributes then
        .ok (some { attrType := attrType, size_le := hSize })
      else
        .error .copyWrite
  else
    .ok none

/- `stunParseAtrString`, with the zero behind the string. -/
def checkAtrString
    (body : List UInt8)
    (hdrLen : Nat) : Except Fault (Option StunAtrString) :=
  if hdrLen < stunMaxString then
    if hdrLen % 4 ≠ 0 then
      .ok none
    else do
      let value ← readBytes body 0 hdrLen
      writeArray stunMaxString 0 hdrLen
      writeArray stunMaxString hdrLen 1
      if hSize : value.length < stunMaxString then
        .ok (some { value := value, size_lt := hSize })
      else
        .error .copyWrite
  else
    .ok none

/- `stunParseAtrIntegrity`. -/
def checkAtrIntegrity
    (body : List UInt8)
    (hdrLen : Nat) : Except Fault (Option StunAtrIntegrity) :=
  if hdrLen ≠ 20 then
    .ok none
  else do
    let hash ← readBytes body 0 hdrLen
    writeArray 20 0 hdrLen
    .ok
      (some
        { hash :=
            Vector.ofFn (fun i : Fin 20 => hash.getD i 0) })

/- `stunParseAtrError`, with the zero behind the reason. -/
def checkAtrError
    (body : List UInt8)
    (hdrLen : Nat) : Except Fault (Option StunAtrError) :=
  if hdrLen ≥ sizeofStunAtrError then
    .ok none
  else do
    let pad ← readBytes body 0 2
    let errorClass ← readBytes body 2 1
    let number ← readBytes body 3 1
    let sizeReason := (hdrLen + 2 ^ 16 - 4) % 2 ^ 16
    let reason ← readBytes body 4 sizeReason
    writeArray stunMaxString 0 sizeReason
    writeArray stunMaxString sizeReason 1
    if hSize : reason.length < stunMaxString then
      .ok
        (some
          { pad := shortAt pad 0
            errorClass := errorClass.getD 0 0
            number := number.getD 0 0
            reason := reason
            size_lt := hSize })
    else
      .error .copyWrite

/- The field of an attribute, if it was accepted. -/
def storeIn
    {α : Type}
    (store : α → StunMessage)
    (result : Except Fault (Option α)) :
    Except Fault (Option StunMessage) :=
  result.map (Option.map store)

/- The branches of the loop of `stunParseMessage`. -/
def checkAttribute
    (atrType : UInt16)
    (body : List UInt8)
    (attrLen : Nat)
    (msg : StunMessage) : Except Fault (Option StunMessage) :=
  if atrType = Stun.mappedAddress then
    storeIn (fun value => { msg with mappedAddress := some value })
      (checkAtrAddress body attrLen)
  else if atrType = Stun.responseAddress then
    storeIn
      (fun value => { msg with responseAddress := some value })
      (checkAtrAddress body attrLen)
  else if atrType = Stun.changeRequest then
    storeIn (fun value => { msg with changeRequest := some value })
      (checkAtrChangeRequest body attrLen)
  else if atrType = Stun.sourceAddress then
    storeIn (fun value => { msg with sourceAddress := some value })
      (checkAtrAddress body attrLen)
  else if atrType = Stun.changedAddress then
    storeIn
      (fun value => { msg with changedAddress := some value })
      (checkAtrAddress body attrLen)
  else if atrType = Stun.username then
    storeIn (fun value => { msg with username := some value })
      (checkAtrString body attrLen)
  else if atrType = Stun.password then
    storeIn (fun value => { msg with password := some value })
      (checkAtrString body attrLen)
  else if atrType = Stun.messageIntegrity then
    storeIn
      (fun value => { msg with messageIntegrity := some value })
      (checkAtrIntegrity body attrLen)
  else if atrType = Stun.errorCode then
    storeIn (fun value => { msg with errorCode := some value })
      (checkAtrError body attrLen)
  else if atrType = Stun.unknownAttribute then
    storeIn
      (fun value => { msg with unknownAttributes := some value })
      (checkAtrUnknown body attrLen)
  else if atrType = Stun.reflectedFrom then
    storeIn (fun value => { msg with reflectedFrom := some value })
      (checkAtrAddress body attrLen)
  else if atrType = Stun.xorMappedAddress then
    storeIn
      (fun value => { msg with xorMappedAddress := some value })
      (checkAtrAddress body attrLen)
  else if atrType = Stun.xorOnly then
    .ok (some { msg with xorOnly := true })
  else if atrType = Stun.serverName then
    storeIn (fun value => { msg with serverName := some value })
      (checkAtrString body attrLen)
  else if atrType = Stun.secondaryAddress then
    storeIn
      (fun value => { msg with secondaryAddress := some value })
      (checkAtrAddress body attrLen)
  else if atrType ≤ 0x7FFF then
    .ok none
  else
    .ok (some msg)

------------------------------------------------------------
-- Messages
------------------------------------------------------------

/- The loop of `stunParseMessage`. -/
def checkLoop :
    Nat → List UInt8 → StunMessage →
      Except Fault (Option StunMessage)
| 0, _, _ => .error .noReturn
| fuel + 1, body, msg =>
    if body = [] then
      .ok (some msg)
    else do
      let length ← readBytes body 2 2
      let type ← readBytes body 0 2
      let attrLen := (shortAt length 0).toNat
      if attrLen + 4 > body.length then
        .ok none
      else
        let parsed ←
          checkAttribute (shortAt type 0) (body.drop 4)
            attrLen msg
        match parsed with
        | none => .ok none
        | some msg' =>
            checkLoop fuel (body.drop (4 + attrLen)) msg'

/- `stunParseMessage`, with a round for every byte. -/
def checkMessage
    (buf : List UInt8)
    (msg : StunMessage) : Except Fault (Option StunMessage) :=
  if sizeofStunMsgHdr > buf.length then
    .ok none
  else do
    let hdr ← readBytes buf 0 sizeofStunMsgHdr
    let msgHdr : StunMsgHdr :=
      { msgType := shortAt hdr 0
        msgLength := shortAt hdr 2
        id := Vector.ofFn (fun i : Fin 16 =>
          hdr.getD (4 + i) 0) }
    if msgHdr.msgLength.toNat + sizeofStunMsgHdr ≠
        buf.length then
      .ok none
    else
      let body := buf.drop sizeofStunMsgHdr
      checkLoop (body.length + 1) body
        { msg with msgHdr := msgHdr }

------------------------------------------------------------
-- The Condition
------------------------------------------------------------

def addressTypes : List UInt16 :=
  [Stun.mappedAddress, Stun.responseAddress,
    Stun.sourceAddress, Stun.changedAddress,
    Stun.reflectedFrom, Stun.xorMappedAddress,
    Stun.secondaryAddress]

def stringTypes : List UInt16 :=
  [Stun.username, Stun.password, Stun.serverName]

/- The parser goes on behind such an attribute. -/
def Accepts
    (atrType : UInt16)
    (content : List UInt8)
    (attrLen : Nat) : Prop :=
  if atrType ∈ addressTypes then
    attrLen = 8 ∧ content.getD 1 0 = Stun.ipv4Family
  else if atrType ∈ stringTypes then
    attrLen < stunMaxString ∧ attrLen % 4 = 0
  else if atrType = Stun.changeRequest then
    attrLen = 4
  else if atrType = Stun.messageIntegrity then
    attrLen = 20
  else if atrType = Stun.errorCode then
    attrLen < sizeofStunAtrError
  else if atrType = Stun.unknownAttribute then
    attrLen < sizeofStunAtrUnknown ∧ attrLen % 4 = 0
  else
    atrType = Stun.xorOnly ∨ 0x7FFF < atrType

/- An error code whose reason does not fit its array. -/
def BadError
    (atrType : UInt16)
    (attrLen : Nat) : Prop :=
  atrType = Stun.errorCode ∧
    (attrLen < 4 ∨ attrLen = 260 ∨ attrLen = 261)

/- The type and the length at the head of an attribute. -/
def atrTypeOf (body : List UInt8) : UInt16 :=
  shortAt body 0

def attrLenOf (body : List UInt8) : Nat :=
  (shortAt body 2).toNat

/- What is behind attributes that are accepted. -/
inductive Reaches : List UInt8 → List UInt8 → Prop where
  | refl (body : List UInt8) : Reaches body body
  | skip
      {body rest : List UInt8}
      (hFits : 4 + attrLenOf body ≤ body.length)
      (hAccepts :
        Accepts (atrTypeOf body) (body.drop 4)
          (attrLenOf body))
      (hRest :
        Reaches (body.drop (4 + attrLenOf body)) rest) :
      Reaches body rest

/- A round of the loop that stays inside. -/
def HarmlessAt (body : List UInt8) : Prop :=
  body = [] ∨
    4 ≤ body.length ∧
      (4 + attrLenOf body ≤ body.length →
        ¬ BadError (atrTypeOf body) (attrLenOf body))

/-
  Every attribute that the parser gets to has a whole header,
  and is no error code of a length for which the reason does
  not fit.
-/
def Harmless (buf : List UInt8) : Prop :=
  sizeofStunMsgHdr ≤ buf.length →
    (shortAt buf 2).toNat + sizeofStunMsgHdr = buf.length →
      ∀ rest, Reaches (buf.drop sizeofStunMsgHdr) rest →
        HarmlessAt rest

------------------------------------------------------------
-- Reads
------------------------------------------------------------

theorem shortAt_read
    {buf : List UInt8}
    {start count i : Nat}
    (hIndex : i + 1 < count) :
    shortAt ((buf.drop start).take count) i =
      shortAt buf (start + i) := by
  unfold shortAt
  rw [Bounded.getD_read (by omega), Bounded.getD_read hIndex,
    Nat.add_assoc]

theorem wordAt_read
    {buf : List UInt8}
    {start count i : Nat}
    (hIndex : i + 3 < count) :
    wordAt ((buf.drop start).take count) i =
      wordAt buf (start + i) := by
  unfold wordAt
  rw [Bounded.getD_read (by omega),
    Bounded.getD_read (by omega), Bounded.getD_read (by omega),
    Bounded.getD_read hIndex, Nat.add_assoc, Nat.add_assoc,
    Nat.add_assoc]

/- A short of the message is not one from behind it. -/
theorem shortAt_append
    {body : List UInt8}
    {start : Nat}
    (hInside : start + 1 < body.length)
    (beyond : List UInt8) :
    shortAt (body ++ beyond) start = shortAt body start := by
  unfold shortAt
  rw [List.getD_append _ _ _ _ (by omega),
    List.getD_append _ _ _ _ hInside]

------------------------------------------------------------
-- Attributes Inside The Message
------------------------------------------------------------

theorem checkAtrAddress_eq
    {body : List UInt8}
    {hdrLen : Nat}
    (hFits : hdrLen ≤ body.length) :
    checkAtrAddress body hdrLen =
      .ok (stunParseAtrAddress body hdrLen) := by
  unfold checkAtrAddress stunParseAtrAddress
  by_cases hLen : hdrLen ≠ 8
  · rw [if_pos hLen, if_pos hLen]
  · rw [if_neg hLen, if_neg hLen]
    have hInside : 8 ≤ body.length := by omega
    simp only [readBytes, Bounded.ok_bind,
      Bounded.read_eq_ok
        (show 0 + 1 ≤ body.length by omega),
      Bounded.read_eq_ok
        (show 1 + 1 ≤ body.length by omega),
      Bounded.read_eq_ok
        (show 2 + 2 ≤ body.length by omega),
      Bounded.read_eq_ok
        (show 4 + 4 ≤ body.length by omega),
      Bounded.getD_read (show 0 < 1 by decide),
      shortAt_read (show 0 + 1 < 2 by decide),
      wordAt_read (show 0 + 3 < 4 by decide), Nat.add_zero]
    by_cases hFamily : body.getD 1 0 = Stun.ipv4Family
    · rw [if_pos hFamily, if_pos hFamily]
    · rw [if_neg hFamily, if_neg hFamily]

theorem checkAtrChangeRequest_eq
    {body : List UInt8}
    {hdrLen : Nat}
    (hFits : hdrLen ≤ body.length) :
    checkAtrChangeRequest body hdrLen =
      .ok (stunParseAtrChangeRequest body hdrLen) := by
  unfold checkAtrChangeRequest stunParseAtrChangeRequest
  by_cases hLen : hdrLen ≠ 4
  · rw [if_pos hLen, if_pos hLen]
  · rw [if_neg hLen, if_neg hLen]
    simp only [readBytes, Bounded.ok_bind,
      Bounded.read_eq_ok
        (show 0 + 4 ≤ body.length by omega),
      wordAt_read (show 0 + 3 < 4 by decide), Nat.add_zero]

theorem checkAtrUnknown_eq
    {body : List UInt8}
    {hdrLen : Nat}
    (hFits : hdrLen ≤ body.length) :
    checkAtrUnknown body hdrLen =
      .ok (stunParseAtrUnknown body hdrLen) := by
  unfold checkAtrUnknown stunParseAtrUnknown
  by_cases hLess : hdrLen < sizeofStunAtrUnknown
  · rw [if_pos hLess, dif_pos hLess]
    by_cases hMod : hdrLen % 4 ≠ 0
    · rw [if_pos hMod, if_pos hMod]
    · rw [if_neg hMod, if_neg hMod]
      have hAll :
          ∀ i ∈ List.range (hdrLen / 4),
            (do
              let short ← readBytes body (2 * i) 2
              writeArray stunMaxUnknownAttributes i 1
              .ok (shortAt short 0)) =
              (.ok (shortAt body (2 * i)) :
                Except Fault UInt16) := by
        intro i hMem
        have hIndex := List.mem_range.mp hMem
        have hRead : 2 * i + 2 ≤ body.length := by omega
        have hWrite : i + 1 ≤ stunMaxUnknownAttributes := by
          unfold sizeofStunAtrUnknown at hLess
          unfold stunMaxUnknownAttributes
          omega
        simp only [readBytes, writeArray, Bounded.ok_bind,
          Bounded.read_eq_ok hRead,
          Bounded.write_eq_ok hWrite,
          shortAt_read (show 0 + 1 < 2 by decide),
          Nat.add_zero]
      rw [Bounded.mapM_eq_ok hAll, Bounded.ok_bind, dif_pos]
  · rw [if_neg hLess, dif_neg hLess]

theorem checkAtrString_eq
    {body : List UInt8}
    {hdrLen : Nat}
    (hFits : hdrLen ≤ body.length) :
    checkAtrString body hdrLen =
      .ok (stunParseAtrString body hdrLen) := by
  unfold checkAtrString stunParseAtrString
  by_cases hLess : hdrLen < stunMaxString
  · rw [if_pos hLess, dif_pos hLess]
    by_cases hMod : hdrLen % 4 ≠ 0
    · rw [if_pos hMod, if_pos hMod]
    · rw [if_neg hMod, if_neg hMod]
      simp only [readBytes, writeArray, Bounded.ok_bind,
        Bounded.read_eq_ok
          (show 0 + hdrLen ≤ body.length by omega),
        Bounded.write_eq_ok
          (show 0 + hdrLen ≤ stunMaxString by omega),
        Bounded.write_eq_ok
          (show hdrLen + 1 ≤ stunMaxString by omega),
        List.drop_zero]
      rw [dif_pos]
  · rw [if_neg hLess, dif_neg hLess]

theorem checkAtrIntegrity_eq
    {body : List UInt8}
    {hdrLen : Nat}
    (hFits : hdrLen ≤ body.length) :
    checkAtrIntegrity body hdrLen =
      .ok (stunParseAtrIntegrity body hdrLen) := by
  unfold checkAtrIntegrity stunParseAtrIntegrity
  by_cases hLen : hdrLen ≠ 20
  · rw [if_pos hLen, if_pos hLen]
  · rw [if_neg hLen, if_neg hLen]
    have hEq : hdrLen = 20 := not_not.mp hLen
    have hHash (i : Fin 20) :
        ((body.drop 0).take 20).getD i 0 =
          body.getD i 0 := by
      rw [Bounded.getD_read i.isLt, Nat.zero_add]
    simp only [readBytes, writeArray, Bounded.ok_bind,
      Bounded.read_eq_ok
        (show 0 + hdrLen ≤ body.length by omega),
      Bounded.write_eq_ok
        (show 0 + hdrLen ≤ 20 by omega)]
    rw [hEq]
    simp only [hHash]

/- The reason of an error code that is not a bad one fits. -/
theorem checkAtrError_eq
    {body : List UInt8}
    {hdrLen : Nat}
    (hFits : hdrLen ≤ body.length)
    (hBad : ¬ (hdrLen < 4 ∨ hdrLen = 260 ∨ hdrLen = 261)) :
    checkAtrError body hdrLen =
      stunParseAtrError body hdrLen := by
  unfold checkAtrError stunParseAtrError
  by_cases hLarge : hdrLen ≥ sizeofStunAtrError
  · rw [if_pos hLarge, if_pos hLarge]
  · rw [if_neg hLarge, if_neg hLarge]
    unfold sizeofStunAtrError at hLarge
    have hSize :
        (hdrLen + 2 ^ 16 - 4) % 2 ^ 16 = hdrLen - 4 := by
      omega
    have hReason : hdrLen - 4 + 1 ≤ stunMaxString := by
      unfold stunMaxString
      omega
    have hLess : hdrLen - 4 < stunMaxString := hReason
    simp only [readBytes, writeArray, Bounded.ok_bind, hSize,
      Bounded.read_eq_ok
        (show 0 + 2 ≤ body.length by omega),
      Bounded.read_eq_ok
        (show 2 + 1 ≤ body.length by omega),
      Bounded.read_eq_ok
        (show 3 + 1 ≤ body.length by omega),
      Bounded.read_eq_ok
        (show 4 + (hdrLen - 4) ≤ body.length by omega),
      Bounded.write_eq_ok
        (show 0 + (hdrLen - 4) ≤ stunMaxString by omega),
      Bounded.write_eq_ok hReason,
      Bounded.getD_read (show 0 < 1 by decide),
      shortAt_read (show 0 + 1 < 2 by decide), Nat.add_zero]
    have hTaken :
        ((body.drop 4).take (hdrLen - 4)).length <
          stunMaxString := by
      rw [List.length_take]
      omega
    rw [dif_pos hTaken, dif_pos hLess]

/- The parser leaves the memory it may use. -/
abbrev LeavesBounds
    {α : Type}
    (result : Except Fault α) : Prop :=
  Bounded.Faults Fault.IsCopy result

/- That of a bad one does not. -/
theorem checkAtrError_leavesBounds
    {hdrLen : Nat}
    (hBad : hdrLen < 4 ∨ hdrLen = 260 ∨ hdrLen = 261)
    (body : List UInt8) :
    LeavesBounds (checkAtrError body hdrLen) := by
  have hRead : Fault.IsCopy .copyRead := trivial
  have hWrite : Fault.IsCopy .copyWrite := trivial
  have hSmall : ¬ hdrLen ≥ sizeofStunAtrError := by
    unfold sizeofStunAtrError
    omega
  unfold checkAtrError
  rw [if_neg hSmall]
  apply Bounded.faults_read_bind hRead
  intro pad
  apply Bounded.faults_read_bind hRead
  intro errorClass
  apply Bounded.faults_read_bind hRead
  intro number
  apply Bounded.faults_read_bind hRead
  intro reason
  apply Bounded.faults_write_bind hWrite
  unfold stunMaxString
  omega

/- The parser returns true behind an address like this. -/
theorem isSome_stunParseAtrAddress
    (body : List UInt8)
    (hdrLen : Nat) :
    (stunParseAtrAddress body hdrLen).isSome = true ↔
      hdrLen = 8 ∧ body.getD 1 0 = Stun.ipv4Family := by
  unfold stunParseAtrAddress
  by_cases hLen : hdrLen = 8
  · rw [if_neg (not_not.mpr hLen)]
    by_cases hFamily : body.getD 1 0 = Stun.ipv4Family
    · rw [if_pos hFamily]
      exact iff_of_true rfl ⟨hLen, hFamily⟩
    · rw [if_neg hFamily]
      exact iff_of_false (by simp) (fun h => hFamily h.2)
  · rw [if_pos hLen]
    exact iff_of_false (by simp) (fun h => hLen h.1)

theorem isSome_stunParseAtrString
    (body : List UInt8)
    (hdrLen : Nat) :
    (stunParseAtrString body hdrLen).isSome = true ↔
      hdrLen < stunMaxString ∧ hdrLen % 4 = 0 := by
  unfold stunParseAtrString
  by_cases hLess : hdrLen < stunMaxString
  · rw [dif_pos hLess]
    by_cases hMod : hdrLen % 4 = 0
    · simp [hMod, hLess]
    · simp [hMod]
  · simp [hLess]

theorem isSome_stunParseAtrChangeRequest
    (body : List UInt8)
    (hdrLen : Nat) :
    (stunParseAtrChangeRequest body hdrLen).isSome = true ↔
      hdrLen = 4 := by
  unfold stunParseAtrChangeRequest
  by_cases hLen : hdrLen = 4
  · simp [hLen]
  · simp [hLen]

theorem isSome_stunParseAtrIntegrity
    (body : List UInt8)
    (hdrLen : Nat) :
    (stunParseAtrIntegrity body hdrLen).isSome = true ↔
      hdrLen = 20 := by
  unfold stunParseAtrIntegrity
  by_cases hLen : hdrLen = 20
  · simp [hLen]
  · simp [hLen]

theorem isSome_stunParseAtrUnknown
    (body : List UInt8)
    (hdrLen : Nat) :
    (stunParseAtrUnknown body hdrLen).isSome = true ↔
      hdrLen < sizeofStunAtrUnknown ∧ hdrLen % 4 = 0 := by
  unfold stunParseAtrUnknown
  by_cases hLess : hdrLen < sizeofStunAtrUnknown
  · rw [dif_pos hLess]
    by_cases hMod : hdrLen % 4 = 0
    · simp [hMod, hLess]
    · simp [hMod]
  · simp [hLess]

theorem stunParseAtrError_ok
    (body : List UInt8)
    {hdrLen : Nat}
    (hBad : ¬ (hdrLen < 4 ∨ hdrLen = 260 ∨ hdrLen = 261)) :
    ∃ parsed,
      stunParseAtrError body hdrLen = .ok parsed ∧
        (parsed.isSome = true ↔
          hdrLen < sizeofStunAtrError) := by
  unfold stunParseAtrError
  by_cases hLarge : hdrLen ≥ sizeofStunAtrError
  · rw [if_pos hLarge]
    exact
      ⟨none, rfl,
        iff_of_false (by simp) (Nat.not_lt.mpr hLarge)⟩
  · rw [if_neg hLarge]
    have hSize :
        (hdrLen + 2 ^ 16 - 4) % 2 ^ 16 < stunMaxString := by
      unfold sizeofStunAtrError at hLarge
      unfold stunMaxString
      omega
    simp only [dif_pos hSize]
    exact
      ⟨_, rfl, iff_of_true rfl (Nat.not_le.mp hLarge)⟩

theorem accepts_address
    {atrType : UInt16}
    (hType : atrType ∈ addressTypes)
    {content : List UInt8}
    {attrLen : Nat} :
    Accepts atrType content attrLen ↔
      attrLen = 8 ∧ content.getD 1 0 = Stun.ipv4Family := by
  unfold Accepts
  rw [if_pos hType]

theorem accepts_string
    {atrType : UInt16}
    (hType : atrType ∈ stringTypes)
    {content : List UInt8}
    {attrLen : Nat} :
    Accepts atrType content attrLen ↔
      attrLen < stunMaxString ∧ attrLen % 4 = 0 := by
  have hApart : ∀ t ∈ stringTypes, t ∉ addressTypes := by
    simp only [stringTypes, List.mem_cons, List.not_mem_nil,
      or_false, forall_eq_or_imp, forall_eq]
    decide
  unfold Accepts
  rw [if_neg (hApart atrType hType), if_pos hType]

/- A field that is stored if its parser accepts. -/
theorem stored
    {α : Type}
    {store : α → StunMessage}
    {result : Except Fault (Option α)}
    {parsed : Option α}
    {accepted : Prop}
    (hResult : result = .ok parsed)
    (hParsed : parsed.isSome = true ↔ accepted) :
    ∃ out,
      storeIn store result = .ok out ∧
        (.ok (parsed.map store) :
            Except Fault (Option StunMessage)) =
          .ok out ∧
        (out.isSome = true ↔ accepted) := by
  refine ⟨parsed.map store, ?_, rfl, ?_⟩
  · rw [hResult]
    rfl
  · rw [Option.isSome_map]
    exact hParsed

/-
  Inside the message every attribute but a bad error code is
  parsed without a fault, and the parser goes on behind it
  if it accepts it.
-/
theorem checkAttribute_cases
    {atrType : UInt16}
    {body : List UInt8}
    {attrLen : Nat}
    (hFits : attrLen ≤ body.length)
    (hBad : ¬ BadError atrType attrLen)
    (msg : StunMessage) :
    ∃ parsed,
      checkAttribute atrType body attrLen msg = .ok parsed ∧
        stunParseAttribute atrType body attrLen msg =
          .ok parsed ∧
        (parsed.isSome = true ↔
          Accepts atrType body attrLen) := by
  unfold checkAttribute stunParseAttribute
  by_cases hMappedAddress : atrType = Stun.mappedAddress
  · rw [if_pos hMappedAddress, if_pos hMappedAddress,
      accepts_address (by rw [hMappedAddress]; decide)]
    exact
      stored (checkAtrAddress_eq hFits)
        (isSome_stunParseAtrAddress body attrLen)
  rw [if_neg hMappedAddress, if_neg hMappedAddress]
  by_cases hResponseAddress : atrType = Stun.responseAddress
  · rw [if_pos hResponseAddress, if_pos hResponseAddress,
      accepts_address (by rw [hResponseAddress]; decide)]
    exact
      stored (checkAtrAddress_eq hFits)
        (isSome_stunParseAtrAddress body attrLen)
  rw [if_neg hResponseAddress, if_neg hResponseAddress]
  by_cases hChangeRequest : atrType = Stun.changeRequest
  · rw [if_pos hChangeRequest, if_pos hChangeRequest]
    apply stored (checkAtrChangeRequest_eq hFits)
    rw [hChangeRequest]
    exact isSome_stunParseAtrChangeRequest body attrLen
  rw [if_neg hChangeRequest, if_neg hChangeRequest]
  by_cases hSourceAddress : atrType = Stun.sourceAddress
  · rw [if_pos hSourceAddress, if_pos hSourceAddress,
      accepts_address (by rw [hSourceAddress]; decide)]
    exact
      stored (checkAtrAddress_eq hFits)
        (isSome_stunParseAtrAddress body attrLen)
  rw [if_neg hSourceAddress, if_neg hSourceAddress]
  by_cases hChangedAddress : atrType = Stun.changedAddress
  · rw [if_pos hChangedAddress, if_pos hChangedAddress,
      accepts_address (by rw [hChangedAddress]; decide)]
    exact
      stored (checkAtrAddress_eq hFits)
        (isSome_stunParseAtrAddress body attrLen)
  rw [if_neg hChangedAddress, if_neg hChangedAddress]
  by_cases hUsername : atrType = Stun.username
  · rw [if_pos hUsername, if_pos hUsername,
      accepts_string (by rw [hUsername]; decide)]
    exact
      stored (checkAtrString_eq hFits)
        (isSome_stunParseAtrString body attrLen)
  rw [if_neg hUsername, if_neg hUsername]
  by_cases hPassword : atrType = Stun.password
  · rw [if_pos hPassword, if_pos hPassword,
      accepts_string (by rw [hPassword]; decide)]
    exact
      stored (checkAtrString_eq hFits)
        (isSome_stunParseAtrString body attrLen)
  rw [if_neg hPassword, if_neg hPassword]
  by_cases hMessageIntegrity : atrType = Stun.messageIntegrity
  · rw [if_pos hMessageIntegrity, if_pos hMessageIntegrity]
    apply stored (checkAtrIntegrity_eq hFits)
    rw [hMessageIntegrity]
    exact isSome_stunParseAtrIntegrity body attrLen
  rw [if_neg hMessageIntegrity, if_neg hMessageIntegrity]
  by_cases hErrorCode : atrType = Stun.errorCode
  · have hLength :
        ¬ (attrLen < 4 ∨ attrLen = 260 ∨ attrLen = 261) :=
      fun h => hBad ⟨hErrorCode, h⟩
    rcases stunParseAtrError_ok body hLength with
      ⟨parsed, hParsed, hSome⟩
    rw [if_pos hErrorCode, if_pos hErrorCode, hParsed,
      checkAtrError_eq hFits hLength]
    apply stored hParsed
    rw [hSome, hErrorCode]
    rfl
  rw [if_neg hErrorCode, if_neg hErrorCode]
  by_cases hUnknownAttribute : atrType = Stun.unknownAttribute
  · rw [if_pos hUnknownAttribute, if_pos hUnknownAttribute]
    apply stored (checkAtrUnknown_eq hFits)
    rw [hUnknownAttribute]
    exact isSome_stunParseAtrUnknown body attrLen
  rw [if_neg hUnknownAttribute, if_neg hUnknownAttribute]
  by_cases hReflectedFrom : atrType = Stun.reflectedFrom
  · rw [if_pos hReflectedFrom, if_pos hReflectedFrom,
      accepts_address (by rw [hReflectedFrom]; decide)]
    exact
      stored (checkAtrAddress_eq hFits)
        (isSome_stunParseAtrAddress body attrLen)
  rw [if_neg hReflectedFrom, if_neg hReflectedFrom]
  by_cases hXorMappedAddress : atrType = Stun.xorMappedAddress
  · rw [if_pos hXorMappedAddress, if_pos hXorMappedAddress,
      accepts_address (by rw [hXorMappedAddress]; decide)]
    exact
      stored (checkAtrAddress_eq hFits)
        (isSome_stunParseAtrAddress body attrLen)
  rw [if_neg hXorMappedAddress, if_neg hXorMappedAddress]
  by_cases hXorOnly : atrType = Stun.xorOnly
  · rw [if_pos hXorOnly, if_pos hXorOnly]
    refine ⟨_, rfl, rfl, iff_of_true rfl ?_⟩
    rw [hXorOnly]
    exact .inl rfl
  rw [if_neg hXorOnly, if_neg hXorOnly]
  by_cases hServerName : atrType = Stun.serverName
  · rw [if_pos hServerName, if_pos hServerName,
      accepts_string (by rw [hServerName]; decide)]
    exact
      stored (checkAtrString_eq hFits)
        (isSome_stunParseAtrString body attrLen)
  rw [if_neg hServerName, if_neg hServerName]
  by_cases hSecondaryAddress : atrType = Stun.secondaryAddress
  · rw [if_pos hSecondaryAddress, if_pos hSecondaryAddress,
      accepts_address (by rw [hSecondaryAddress]; decide)]
    exact
      stored (checkAtrAddress_eq hFits)
        (isSome_stunParseAtrAddress body attrLen)
  rw [if_neg hSecondaryAddress, if_neg hSecondaryAddress]
  have hAddress : atrType ∉ addressTypes := by
    simp only [addressTypes, List.mem_cons, List.not_mem_nil,
      or_false, hMappedAddress, hResponseAddress,
      hSourceAddress, hChangedAddress, hReflectedFrom,
      hXorMappedAddress, hSecondaryAddress, not_false_iff]
  have hString : atrType ∉ stringTypes := by
    simp only [stringTypes, List.mem_cons, List.not_mem_nil,
      or_false, hUsername, hPassword, hServerName,
      not_false_iff]
  have hOther :
      Accepts atrType body attrLen ↔ 0x7FFF < atrType := by
    unfold Accepts
    rw [if_neg hAddress, if_neg hString,
      if_neg hChangeRequest, if_neg hMessageIntegrity,
      if_neg hErrorCode, if_neg hUnknownAttribute]
    exact or_iff_right hXorOnly
  rw [hOther]
  by_cases hSmall : atrType ≤ 0x7FFF
  · rw [if_pos hSmall]
    exact
      ⟨none, rfl, rfl,
        iff_of_false (by simp) (UInt16.not_lt.mpr hSmall)⟩
  · rw [if_neg hSmall]
    exact
      ⟨some msg, rfl, rfl,
        iff_of_true rfl (UInt16.not_le.mp hSmall)⟩

/- A bad error code leaves the memory. -/
theorem checkAttribute_leavesBounds
    {atrType : UInt16}
    {attrLen : Nat}
    (hBad : BadError atrType attrLen)
    (body : List UInt8)
    (msg : StunMessage) :
    LeavesBounds (checkAttribute atrType body attrLen msg) := by
  rcases hBad with ⟨hType, hLength⟩
  rcases checkAtrError_leavesBounds hLength body with
    ⟨fault, hFault, hKind⟩
  refine ⟨fault, ?_, hKind⟩
  rw [hType]
  unfold checkAttribute storeIn
  rw [if_neg (by decide), if_neg (by decide),
    if_neg (by decide), if_neg (by decide),
    if_neg (by decide), if_neg (by decide),
    if_neg (by decide), if_neg (by decide), if_pos rfl,
    hFault]
  rfl

------------------------------------------------------------
-- The Loop
------------------------------------------------------------

/- What comes after an attribute was parsed. -/
def checkRest
    (fuel : Nat)
    (rest : List UInt8) :
    Option StunMessage → Except Fault (Option StunMessage)
| none => .ok none
| some msg => checkLoop fuel rest msg

/- A round of the loop that finds a header. -/
theorem checkLoop_succ
    {fuel : Nat}
    {body : List UInt8}
    (hBody : body ≠ [])
    (hHeader : 4 ≤ body.length)
    (msg : StunMessage) :
    checkLoop (fuel + 1) body msg =
      if attrLenOf body + 4 > body.length then
        .ok none
      else
        checkAttribute (atrTypeOf body) (body.drop 4)
            (attrLenOf body) msg >>=
          checkRest fuel (body.drop (4 + attrLenOf body)) := by
  rw [checkLoop, if_neg hBody]
  simp only [readBytes, Bounded.ok_bind,
    Bounded.read_eq_ok
      (show 2 + 2 ≤ body.length by omega),
    Bounded.read_eq_ok
      (show 0 + 2 ≤ body.length by omega),
    shortAt_read (show 0 + 1 < 2 by decide), Nat.add_zero]
  rfl

/- One that finds less than a header does not. -/
theorem checkLoop_header
    {fuel : Nat}
    {body : List UInt8}
    (hBody : body ≠ [])
    (hHeader : body.length < 4)
    (msg : StunMessage) :
    checkLoop (fuel + 1) body msg = .error .copyRead := by
  rw [checkLoop, if_neg hBody]
  simp only [readBytes,
    Bounded.read_eq_error
      (show body.length < 2 + 2 by omega),
    Bounded.error_bind]

theorem eq_nil_of_reaches
    {rest : List UInt8}
    (hReaches : Reaches [] rest) :
    rest = [] := by
  cases hReaches with
  | refl => rfl
  | skip hFits _ _ => exact absurd hFits (by simp)

/-
  The loop ends inside its memory exactly when every round
  does, and otherwise in an access outside of it.
-/
theorem checkLoop_cases
    {fuel : Nat}
    {body : List UInt8}
    (hFuel : body.length < fuel)
    (msg : StunMessage) :
    (Bounded.Succeeds (checkLoop fuel body msg) ∧
        ∀ rest, Reaches body rest → HarmlessAt rest) ∨
      LeavesBounds (checkLoop fuel body msg) ∧
        ¬ ∀ rest, Reaches body rest → HarmlessAt rest := by
  induction fuel generalizing body msg with
  | zero => exact absurd hFuel (Nat.not_lt_zero _)
  | succ fuel ih =>
      by_cases hBody : body = []
      · rw [hBody]
        refine .inl ⟨Bounded.succeeds_ok _, ?_⟩
        intro rest hReaches
        exact .inl (eq_nil_of_reaches hReaches)
      · by_cases hHeader : 4 ≤ body.length
        · rw [checkLoop_succ hBody hHeader]
          by_cases hFits :
              4 + attrLenOf body ≤ body.length
          · rw [if_neg (by omega)]
            by_cases hBad :
                BadError (atrTypeOf body) (attrLenOf body)
            · refine .inr ⟨?_, ?_⟩
              · rcases
                  checkAttribute_leavesBounds hBad
                    (body.drop 4) msg
                  with ⟨fault, hFault, hKind⟩
                rw [hFault]
                exact ⟨fault, rfl, hKind⟩
              · intro hAll
                rcases hAll body (.refl body) with
                  hNil | ⟨_, hGood⟩
                · exact hBody hNil
                · exact hGood hFits hBad
            · have hContent :
                  attrLenOf body ≤ (body.drop 4).length := by
                rw [List.length_drop]
                omega
              rcases checkAttribute_cases hContent hBad msg
                with ⟨parsed, hParsed, _, hAccepts⟩
              have hHere : HarmlessAt body :=
                .inr ⟨hHeader, fun _ => hBad⟩
              rw [hParsed, Bounded.ok_bind]
              cases parsed with
              | none =>
                  refine .inl ⟨Bounded.succeeds_ok _, ?_⟩
                  intro rest hReaches
                  cases hReaches with
                  | refl => exact hHere
                  | skip _ hAccepted _ =>
                      exact
                        absurd (hAccepts.mpr hAccepted)
                          (by simp)
              | some msg' =>
                  have hRest :
                      (body.drop
                          (4 + attrLenOf body)).length <
                        fuel := by
                    rw [List.length_drop]
                    omega
                  have hStep :
                      (∀ rest, Reaches body rest →
                        HarmlessAt rest) ↔
                      ∀ rest,
                        Reaches
                            (body.drop (4 + attrLenOf body))
                            rest →
                          HarmlessAt rest := by
                    constructor
                    · intro hAll rest hReaches
                      exact
                        hAll rest
                          (.skip hFits (hAccepts.mp rfl)
                            hReaches)
                    · intro hAll rest hReaches
                      cases hReaches with
                      | refl => exact hHere
                      | skip _ _ hReaches =>
                          exact hAll rest hReaches
                  rw [hStep]
                  exact ih hRest msg'
          · rw [if_pos (by omega)]
            refine .inl ⟨Bounded.succeeds_ok _, ?_⟩
            intro rest hReaches
            cases hReaches with
            | refl =>
                exact
                  .inr
                    ⟨hHeader, fun hInside =>
                      absurd hInside hFits⟩
            | skip hInside _ _ => exact absurd hInside hFits
        · have hShort : body.length < 4 :=
            Nat.not_le.mp hHeader
          rw [checkLoop_header hBody hShort]
          refine .inr ⟨⟨_, rfl, trivial⟩, ?_⟩
          intro hAll
          rcases hAll body (.refl body) with
            hNil | ⟨hLength, _⟩
          · exact hBody hNil
          · exact hHeader hLength

------------------------------------------------------------
-- Whole Messages
------------------------------------------------------------

/- The header at the front of a message. -/
def msgHdrOf (buf : List UInt8) : StunMsgHdr where
  msgType := shortAt buf 0
  msgLength := shortAt buf 2
  id := Vector.ofFn (fun i : Fin 16 => buf.getD (4 + i) 0)

/- The header itself is always inside. -/
theorem checkMessage_eq
    (buf : List UInt8)
    (msg : StunMessage) :
    checkMessage buf msg =
      if sizeofStunMsgHdr > buf.length then
        .ok none
      else if (shortAt buf 2).toNat + sizeofStunMsgHdr ≠
          buf.length then
        .ok none
      else
        checkLoop ((buf.drop sizeofStunMsgHdr).length + 1)
          (buf.drop sizeofStunMsgHdr)
          { msg with msgHdr := msgHdrOf buf } := by
  unfold checkMessage
  by_cases hShort : sizeofStunMsgHdr > buf.length
  · rw [if_pos hShort, if_pos hShort]
  · rw [if_neg hShort, if_neg hShort]
    have hInside : 0 + sizeofStunMsgHdr ≤ buf.length := by
      omega
    have hId (i : Fin 16) :
        ((buf.drop 0).take sizeofStunMsgHdr).getD (4 + i) 0 =
          buf.getD (4 + i) 0 := by
      rw [Bounded.getD_read
        (show 4 + i.val < sizeofStunMsgHdr from by
          unfold sizeofStunMsgHdr
          omega),
        Nat.zero_add]
    simp only [readBytes, Bounded.ok_bind,
      Bounded.read_eq_ok hInside, hId,
      shortAt_read (show 0 + 1 < sizeofStunMsgHdr by decide),
      shortAt_read (show 2 + 1 < sizeofStunMsgHdr by decide),
      Nat.zero_add]
    rfl

/-
  For every message the parse ends; and every read is inside
  the message and every write inside its array exactly when
  the attributes are harmless.
-/
theorem stun_within_bounds_iff
    (buf : List UInt8)
    (msg : StunMessage) :
    checkMessage buf msg ≠ .error .noReturn ∧
      (Bounded.Succeeds (checkMessage buf msg) ↔
        Harmless buf) := by
  rw [checkMessage_eq]
  unfold Harmless
  by_cases hShort : sizeofStunMsgHdr > buf.length
  · rw [if_pos hShort]
    refine
      ⟨by simp, iff_of_true (Bounded.succeeds_ok _) ?_⟩
    intro hLong
    omega
  · rw [if_neg hShort]
    by_cases hLength :
        (shortAt buf 2).toNat + sizeofStunMsgHdr = buf.length
    · rw [if_neg (not_not.mpr hLength)]
      rcases
        checkLoop_cases (Nat.lt_succ_self _)
          { msg with msgHdr := msgHdrOf buf }
        with ⟨hSucceeds, hAll⟩ | ⟨hLeaves, hNot⟩
      · refine
          ⟨?_, iff_of_true hSucceeds fun _ _ => hAll⟩
        rcases hSucceeds with ⟨parsed, hParsed⟩
        rw [hParsed]
        exact fun hEq => by cases hEq
      · refine
          ⟨?_,
            iff_of_false
              (Bounded.not_succeeds_of_faults hLeaves) ?_⟩
        · rcases hLeaves with ⟨fault, hFault, hKind⟩
          rw [hFault]
          intro hEq
          rw [Except.error.inj hEq] at hKind
          exact hKind
        · intro hAll
          exact hNot (hAll (by omega) hLength)
    · rw [if_pos hLength]
      refine
        ⟨by simp, iff_of_true (Bounded.succeeds_ok _) ?_⟩
      intro _ hEq
      exact absurd hEq hLength

------------------------------------------------------------
-- The Parser Itself
------------------------------------------------------------

theorem stunParseLoop_of_checkLoop
    {fuel : Nat}
    {body : List UInt8}
    {msg : StunMessage}
    {parsed : Option StunMessage}
    (hChecked : checkLoop fuel body msg = .ok parsed)
    (beyond : List UInt8) :
    stunParseLoop beyond fuel body msg = .ok parsed := by
  induction fuel generalizing body msg with
  | zero => cases hChecked
  | succ fuel ih =>
      by_cases hBody : body = []
      · rw [hBody] at hChecked ⊢
        exact hChecked
      · by_cases hHeader : 4 ≤ body.length
        · have hType :
              shortAt (body ++ beyond) 0 = atrTypeOf body :=
            shortAt_append (by omega) beyond
          have hLen :
              (shortAt (body ++ beyond) 2).toNat =
                attrLenOf body :=
            congrArg UInt16.toNat
              (shortAt_append (by omega) beyond)
          rw [checkLoop_succ hBody hHeader] at hChecked
          rw [stunParseLoop, if_neg hBody]
          simp only [hType, hLen]
          by_cases hFits :
              4 + attrLenOf body ≤ body.length
          · have hContent :
                attrLenOf body ≤ (body.drop 4).length := by
              rw [List.length_drop]
              omega
            rw [if_neg (by omega)] at hChecked ⊢
            by_cases hBad :
                BadError (atrTypeOf body) (attrLenOf body)
            · rcases
                checkAttribute_leavesBounds hBad
                  (body.drop 4) msg
                with ⟨fault, hFault, _⟩
              rw [hFault] at hChecked
              cases hChecked
            · rcases checkAttribute_cases hContent hBad msg
                with ⟨found, hFound, hParse, _⟩
              rw [hFound, Bounded.ok_bind] at hChecked
              rw [hParse]
              cases found with
              | none => exact hChecked
              | some msg' => exact ih hChecked
          · rw [if_pos (by omega)] at hChecked ⊢
            exact hChecked
        · rw [checkLoop_header hBody (by omega)] at hChecked
          cases hChecked

/-
  Where the accesses are inside, this is the parser: the
  memory behind the message has no influence.
-/
theorem checkMessage_refines
    {buf : List UInt8}
    {msg : StunMessage}
    {parsed : Option StunMessage}
    (hChecked : checkMessage buf msg = .ok parsed)
    (beyond : List UInt8) :
    stunParseMessage beyond buf msg = .ok parsed := by
  rw [checkMessage_eq] at hChecked
  unfold stunParseMessage
  by_cases hShort : sizeofStunMsgHdr > buf.length
  · rw [if_pos hShort] at hChecked ⊢
    exact hChecked
  · rw [if_neg hShort] at hChecked ⊢
    by_cases hLength :
        (shortAt buf 2).toNat + sizeofStunMsgHdr = buf.length
    · rw [if_neg (not_not.mpr hLength)] at hChecked
      simp only [if_neg (not_not.mpr hLength)]
      exact stunParseLoop_of_checkLoop hChecked beyond
    · rw [if_pos hLength] at hChecked
      simp only [if_pos hLength]
      exact hChecked

/- A response with the address that the server has seen. -/
theorem checkMessage_refines_mapped :
    stunParseMessage [7]
        ([0x01, 0x01, 0x00, 0x0c] ++ List.replicate 16 0 ++
          [0, 1, 0, 8, 0, 1, 0x12, 0x34, 10, 0, 0, 1])
        .zero =
      .ok
        (some
          { StunMessage.bare
              ⟨0x0101, 12, Vector.replicate 16 0⟩ with
            mappedAddress :=
              some ⟨0, 1, ⟨0x1234, 0x0a000001⟩⟩ }) :=
  checkMessage_refines (by decide +kernel) [7]

------------------------------------------------------------
-- An Empty Error Code
------------------------------------------------------------

/- A message with an error code of no bytes at all. -/
def emptyErrorCode : List UInt8 :=
  [0x01, 0x01, 0x00, 0x04] ++ List.replicate 16 0 ++
    [0x00, 0x09, 0x00, 0x00]

/- A message that ends inside the header of an attribute. -/
def cutOffHeader : List UInt8 :=
  [0x01, 0x01, 0x00, 0x01] ++ List.replicate 16 0 ++ [0x00]

/- The parser reads behind the end of both. -/
theorem short_messages_read_beyond :
    checkMessage emptyErrorCode .zero = .error .copyRead ∧
      checkMessage cutOffHeader .zero = .error .copyRead := by
  decide +kernel

end ML

end NapaBaselibs
