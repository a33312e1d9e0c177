import NapaBaselibs.ML.Stun

/-
  The round trip of STUN messages: which messages the parser
  gives back from the bytes of the encoder.

  The encoder writes the length of an error code two bytes
  too large, that of unknown attributes two bytes too large
  and against the convention of the parser, and no length at
  all for the XOR flag.  A message with one of these never
  comes back: counting the bytes that the parser must take
  for every attribute of the message, there are not enough.

  Key definitions include:
    * `StunMessage.Supported`, `StunMessage.RoundTrips`
    * `StunMessage.taken`

  Key theorems include:
    * `stunParseAttributes_leading`
    * `stunParseAttributes_taken_le`
    * `stun_round_trips_iff`
-/

------------------------------------------------------------
-- Single Attributes
------------------------------------------------------------

namespace NapaBaselibs

namespace ML

variable (beyond rest : List UInt8)
variable (msg : StunMessage)

/- An attribute with its real length is taken as a whole. -/
theorem stunParseAttributes_attribute
    {type length : UInt16}
    {payload : List UInt8}
    {msg msg' : StunMessage}
    (hLength : length.toNat = payload.length)
    (hAttribute :
      stunParseAttribute type (payload ++ rest)
          payload.length msg =
        .ok (some msg')) :
    stunParseAttributes beyond
        (encode16 type ++ encode16 length ++ payload ++ rest)
        msg =
      stunParseAttributes beyond rest msg' := by
  rw [List.append_assoc, stunParseAttributes_step, hLength,
    hAttribute, List.drop_left, if_neg]
  · rfl
  · rw [List.length_append]
    omega

/- An IPv4 address is read back. -/
theorem stunParseAtrAddress_encode
    {atr : StunAtrAddress4}
    (hFamily : atr.family = Stun.ipv4Family) :
    stunParseAtrAddress
        ([atr.pad, Stun.ipv4Family] ++
          encode16 atr.ipv4.port ++ encode32 atr.ipv4.addr ++
          rest)
        8 = some atr := by
  rcases atr with ⟨pad, family, port, addr⟩
  simp only at hFamily
  subst hFamily
  unfold stunParseAtrAddress
  rw [if_neg (by decide)]
  refine (if_pos rfl).trans ?_
  congr 3
  · exact ByteSeq.ofBe16_be16 port
  · exact ByteSeq.ofBe32_be32 addr

/- A change request is read back. -/
theorem stunParseAtrChangeRequest_encode
    (atr : StunAtrChangeRequest) :
    stunParseAtrChangeRequest (encode32 atr.value ++ rest) 4 =
      some atr := by
  unfold stunParseAtrChangeRequest
  rw [if_neg (by decide)]
  congr 2
  exact ByteSeq.ofBe32_be32 atr.value

/- A string whose size is a multiple of 4 is read back. -/
theorem stunParseAtrString_encode
    {atr : StunAtrString}
    (hSize : atr.value.length % 4 = 0) :
    stunParseAtrString (atr.value ++ rest)
        atr.value.length = some atr := by
  rcases atr with ⟨value, hLt⟩
  unfold stunParseAtrString
  rw [dif_pos hLt, if_neg (not_not.mpr hSize)]
  congr 2
  exact List.take_left

------------------------------------------------------------
-- Optional Attributes
------------------------------------------------------------

/- An attribute that a message may have. -/
theorem stunParseAttributes_optional
    {α : Type}
    {encode : α → List UInt8}
    {atr : Option α}
    (store : Option α → StunMessage)
    (hValue :
      ∀ value, atr = some value →
        stunParseAttributes beyond (encode value ++ rest)
            (store none) =
          stunParseAttributes beyond rest
            (store (some value))) :
    stunParseAttributes beyond
        (encodeOptional encode atr ++ rest) (store none) =
      stunParseAttributes beyond rest (store atr) := by
  cases atr with
  | none => rfl
  | some value => exact hValue value rfl

/- An address attribute of a type the parser stores so. -/
theorem stunParseAttributes_address
    {type : UInt16}
    {atr : Option StunAtrAddress4}
    (store : Option StunAtrAddress4 → StunMessage)
    (hType :
      ∀ body attrLen,
        stunParseAttribute type body attrLen (store none) =
          .ok ((stunParseAtrAddress body attrLen).map
            fun value => store (some value)))
    (hFamily :
      ∀ value, atr = some value →
        value.family = Stun.ipv4Family) :
    stunParseAttributes beyond
        (encodeOptional (encodeAtrAddress4 type) atr ++ rest)
        (store none) =
      stunParseAttributes beyond rest (store atr) := by
  apply stunParseAttributes_optional
  intro value hSome
  have hParse :=
    stunParseAtrAddress_encode rest (hFamily value hSome)
  have hBytes :
      encodeAtrAddress4 type value =
        encode16 type ++ encode16 8 ++
          ([value.pad, Stun.ipv4Family] ++
            encode16 value.ipv4.port ++
            encode32 value.ipv4.addr) := by
    simp [encodeAtrAddress4]
  rw [hBytes]
  apply stunParseAttributes_attribute
  · rfl
  · have hLength :
        ([value.pad, Stun.ipv4Family] ++
            encode16 value.ipv4.port ++
            encode32 value.ipv4.addr).length = 8 :=
      rfl
    rw [hType, hLength, hParse]
    rfl

/- A string attribute of a type the parser stores so. -/
theorem stunParseAttributes_string
    {type : UInt16}
    {atr : Option StunAtrString}
    (store : Option StunAtrString → StunMessage)
    (hType :
      ∀ body attrLen,
        stunParseAttribute type body attrLen (store none) =
          .ok ((stunParseAtrString body attrLen).map
            fun value => store (some value)))
    (hSize :
      ∀ value, atr = some value →
        value.value.length % 4 = 0) :
    stunParseAttributes beyond
        (encodeOptional (encodeAtrString type) atr ++ rest)
        (store none) =
      stunParseAttributes beyond rest (store atr) := by
  apply stunParseAttributes_optional
  intro value hSome
  have hParse :=
    stunParseAtrString_encode rest (hSize value hSome)
  have hLt := value.size_lt
  apply stunParseAttributes_attribute
  · unfold stunMaxString at hLt
    rw [UInt16.toNat_ofNat']
    omega
  · rw [hType, hParse]
    rfl

/- A change request. -/
theorem stunParseAttributes_changeRequest
    {atr : Option StunAtrChangeRequest}
    (store : Option StunAtrChangeRequest → StunMessage)
    (hType :
      ∀ body attrLen,
        stunParseAttribute Stun.changeRequest body attrLen
            (store none) =
          .ok ((stunParseAtrChangeRequest body attrLen).map
            fun value => store (some value))) :
    stunParseAttributes beyond
        (encodeOptional encodeAtrChangeRequest atr ++ rest)
        (store none) =
      stunParseAttributes beyond rest (store atr) := by
  apply stunParseAttributes_optional
  intro value _
  apply stunParseAttributes_attribute
  · rfl
  · rw [hType, length_encode32,
      stunParseAtrChangeRequest_encode]
    rfl

------------------------------------------------------------
-- The Attributes That Are Encoded Well
------------------------------------------------------------

/-
  What the encoder supports: IPv4 addresses, strings whose
  size is a multiple of 4, and no message integrity.
-/
structure StunMessage.Supported (msg : StunMessage) :
    Prop where
  addresses :
    ∀ atr ∈
        [msg.mappedAddress, msg.responseAddress,
          msg.sourceAddress, msg.changedAddress,
          msg.reflectedFrom, msg.xorMappedAddress,
          msg.secondaryAddress],
      ∀ value, atr = some value →
        value.family = Stun.ipv4Family
  strings :
    ∀ atr ∈ [msg.username, msg.password, msg.serverName],
      ∀ value, atr = some value →
        value.value.length % 4 = 0
  messageIntegrity : msg.messageIntegrity = none

/- The attributes before the error code. -/
def encodeLeading (msg : StunMessage) : List UInt8 :=
  encodeOptional (encodeAtrAddress4 Stun.mappedAddress)
      msg.mappedAddress ++
    encodeOptional (encodeAtrAddress4 Stun.responseAddress)
      msg.responseAddress ++
    encodeOptional encodeAtrChangeRequest msg.changeRequest ++
    encodeOptional (encodeAtrAddress4 Stun.sourceAddress)
      msg.sourceAddress ++
    encodeOptional (encodeAtrAddress4 Stun.changedAddress)
      msg.changedAddress ++
    encodeOptional (encodeAtrString Stun.username)
      msg.username ++
    encodeOptional (encodeAtrString Stun.password)
      msg.password

/- The message with these attributes only. -/
def StunMessage.leading
    (msg : StunMessage)
    (msgHdr : StunMsgHdr) : StunMessage :=
  { StunMessage.bare msgHdr with
    mappedAddress := msg.mappedAddress
    responseAddress := msg.responseAddress
    changeRequest := msg.changeRequest
    sourceAddress := msg.sourceAddress
    changedAddress := msg.changedAddress
    username := msg.username
    password := msg.password }

/- The parser takes the attributes before the error code. -/
theorem stunParseAttributes_leading
    (msgHdr : StunMsgHdr)
    {msg : StunMessage}
    (hSupported : msg.Supported) :
    stunParseAttributes beyond (encodeLeading msg ++ rest)
        (.bare msgHdr) =
      stunParseAttributes beyond rest
        (msg.leading msgHdr) := by
  have hAddress := hSupported.addresses
  have hString := hSupported.strings
  unfold encodeLeading
  simp only [List.append_assoc]
  let m₁ : StunMessage :=
    { StunMessage.bare msgHdr with
      mappedAddress := msg.mappedAddress }
  let m₂ : StunMessage :=
    { m₁ with responseAddress := msg.responseAddress }
  let m₃ : StunMessage :=
    { m₂ with changeRequest := msg.changeRequest }
  let m₄ : StunMessage :=
    { m₃ with sourceAddress := msg.sourceAddress }
  let m₅ : StunMessage :=
    { m₄ with changedAddress := msg.changedAddress }
  let m₆ : StunMessage :=
    { m₅ with username := msg.username }
  calc
    _ = stunParseAttributes beyond _ m₁ :=
        stunParseAttributes_address beyond _
          (fun atr =>
            { StunMessage.bare msgHdr with
              mappedAddress := atr })
          (fun _ _ => rfl) (hAddress _ (by simp))
    _ = stunParseAttributes beyond _ m₂ :=
        stunParseAttributes_address beyond _
          (fun atr => { m₁ with responseAddress := atr })
          (fun _ _ => rfl) (hAddress _ (by simp))
    _ = stunParseAttributes beyond _ m₃ :=
        stunParseAttributes_changeRequest beyond _
          (fun atr => { m₂ with changeRequest := atr })
          (fun _ _ => rfl)
    _ = stunParseAttributes beyond _ m₄ :=
        stunParseAttributes_address beyond _
          (fun atr => { m₃ with sourceAddress := atr })
          (fun _ _ => rfl) (hAddress _ (by simp))
    _ = stunParseAttributes beyond _ m₅ :=
        stunParseAttributes_address beyond _
          (fun atr => { m₄ with changedAddress := atr })
          (fun _ _ => rfl) (hAddress _ (by simp))
    _ = stunParseAttributes beyond _ m₆ :=
        stunParseAttributes_string beyond _
          (fun atr => { m₅ with username := atr })
          (fun _ _ => rfl) (hString _ (by simp))
    _ = _ :=
        stunParseAttributes_string beyond _
          (fun atr => { m₆ with password := atr })
          (fun _ _ => rfl) (hString _ (by simp))

/- The attributes behind the unknown ones. -/
def encodeTrailing (msg : StunMessage) : List UInt8 :=
  encodeOptional (encodeAtrAddress4 Stun.reflectedFrom)
      msg.reflectedFrom ++
    encodeOptional (encodeAtrAddress4 Stun.xorMappedAddress)
      msg.xorMappedAddress ++
    (if msg.xorOnly then encodeXorOnly else []) ++
    encodeOptional (encodeAtrString Stun.serverName)
      msg.serverName ++
    encodeOptional (encodeAtrAddress4 Stun.secondaryAddress)
      msg.secondaryAddress

/- The encoder writes these parts one after another. -/
theorem encodeAttributes_eq
    (msg : StunMessage) :
    encodeAttributes msg =
      encodeLeading msg ++
        (encodeOptional encodeAtrError msg.errorCode ++
          (encodeOptional encodeAtrUnknown
              msg.unknownAttributes ++
            encodeTrailing msg)) := by
  simp only [encodeAttributes, encodeLeading, encodeTrailing,
    List.append_assoc]

/- The attributes that the encoder gives a wrong length. -/
structure StunMessage.WellCoded (msg : StunMessage) :
    Prop where
  errorCode : msg.errorCode = none
  unknownAttributes : msg.unknownAttributes = none
  xorOnly : msg.xorOnly = false

/- Without these the parser takes all that was encoded. -/
theorem stunParseAttributes_encodeAttributes
    (msgHdr : StunMsgHdr)
    {msg : StunMessage}
    (hSupported : msg.Supported)
    (hCoded : msg.WellCoded) :
    stunParseAttributes beyond (encodeAttributes msg)
        (.bare msgHdr) =
      .ok (some { msg with msgHdr := msgHdr }) := by
  have hAddress := hSupported.addresses
  have hString := hSupported.strings
  let m₁ : StunMessage :=
    { msg.leading msgHdr with
      reflectedFrom := msg.reflectedFrom }
  let m₂ : StunMessage :=
    { m₁ with xorMappedAddress := msg.xorMappedAddress }
  let m₃ : StunMessage :=
    { m₂ with serverName := msg.serverName }
  let m₄ : StunMessage :=
    { m₃ with secondaryAddress := msg.secondaryAddress }
  have hEnd :
      m₄ = { msg with msgHdr := msgHdr } := by
    rcases msg with ⟨hdr⟩
    rcases hCoded with ⟨hError, hUnknown, hXor⟩
    have hIntegrity := hSupported.messageIntegrity
    simp only at hError hUnknown hXor hIntegrity
    subst hError hUnknown hXor hIntegrity
    rfl
  rw [← hEnd, encodeAttributes_eq,
    stunParseAttributes_leading beyond _ msgHdr hSupported,
    hCoded.errorCode, hCoded.unknownAttributes]
  unfold encodeTrailing
  rw [hCoded.xorOnly, if_neg (by decide), List.append_nil]
  simp only [encodeOptional_none, List.nil_append,
    List.append_assoc]
  calc
    _ = stunParseAttributes beyond _ m₁ :=
        stunParseAttributes_address beyond _
          (fun atr =>
            { msg.leading msgHdr with reflectedFrom := atr })
          (fun _ _ => rfl) (hAddress _ (by simp))
    _ = stunParseAttributes beyond _ m₂ :=
        stunParseAttributes_address beyond _
          (fun atr => { m₁ with xorMappedAddress := atr })
          (fun _ _ => rfl) (hAddress _ (by simp))
    _ = stunParseAttributes beyond _ m₃ :=
        stunParseAttributes_string beyond _
          (fun atr => { m₂ with serverName := atr })
          (fun _ _ => rfl) (hString _ (by simp))
    _ = stunParseAttributes beyond [] m₄ := by
        rw [← List.append_nil
          (encodeOptional
            (encodeAtrAddress4 Stun.secondaryAddress)
            msg.secondaryAddress)]
        exact
          stunParseAttributes_address beyond []
            (fun atr => { m₃ with secondaryAddress := atr })
            (fun _ _ => rfl) (hAddress _ (by simp))
    _ = .ok (some m₄) := stunParseAttributes_nil beyond m₄

------------------------------------------------------------
-- Bytes That The Parser Takes
------------------------------------------------------------

/- The bytes the parser takes for an attribute it reads. -/
def takenAddress : Option StunAtrAddress4 → Nat
| some _ => 12
| none => 0

def takenChangeRequest : Option StunAtrChangeRequest → Nat
| some _ => 8
| none => 0

def takenString : Option StunAtrString → Nat
| some atr => 4 + atr.value.length
| none => 0

def takenError : Option StunAtrError → Nat
| some atr => 8 + atr.reason.length
| none => 0

def takenUnknown : Option StunAtrUnknown → Nat
| some atr => 4 + 4 * atr.attrType.length
| none => 0

def takenXorOnly : Bool → Nat
| true => 4
| false => 0

/-
  The bytes taken for all attributes of a message.  An error
  code counts only if it is the wanted one.
-/
def StunMessage.taken
    (wanted : Option StunAtrError)
    (msg : StunMessage) : Nat :=
  takenAddress msg.mappedAddress +
    takenAddress msg.responseAddress +
    takenChangeRequest msg.changeRequest +
    takenAddress msg.sourceAddress +
    takenAddress msg.changedAddress +
    takenString msg.username +
    takenString msg.password +
    (if msg.errorCode = wanted then takenError wanted else 0) +
    takenUnknown msg.unknownAttributes +
    takenAddress msg.reflectedFrom +
    takenAddress msg.xorMappedAddress +
    takenXorOnly msg.xorOnly +
    takenString msg.serverName +
    takenAddress msg.secondaryAddress

/- What is read from an attribute is no more than its bytes. -/
theorem takenAddress_parse_le
    {body : List UInt8}
    {attrLen : Nat}
    {value : StunAtrAddress4}
    (hParse :
      stunParseAtrAddress body attrLen = some value) :
    takenAddress (some value) ≤ 4 + attrLen := by
  unfold stunParseAtrAddress at hParse
  split at hParse
  · cases hParse
  · change 12 ≤ 4 + attrLen
    omega

theorem takenChangeRequest_parse_le
    {body : List UInt8}
    {attrLen : Nat}
    {value : StunAtrChangeRequest}
    (hParse :
      stunParseAtrChangeRequest body attrLen = some value) :
    takenChangeRequest (some value) ≤ 4 + attrLen := by
  unfold stunParseAtrChangeRequest at hParse
  split at hParse
  · cases hParse
  · change 8 ≤ 4 + attrLen
    omega

theorem takenString_parse_le
    {body : List UInt8}
    {attrLen : Nat}
    {value : StunAtrString}
    (hParse :
      stunParseAtrString body attrLen = some value) :
    takenString (some value) ≤ 4 + attrLen := by
  unfold stunParseAtrString at hParse
  split at hParse
  · split at hParse
    · cases hParse
    · cases hParse
      unfold takenString
      simp only [List.length_take]
      omega
  · cases hParse

theorem takenUnknown_parse_le
    {body : List UInt8}
    {attrLen : Nat}
    {value : StunAtrUnknown}
    (hParse :
      stunParseAtrUnknown body attrLen = some value) :
    takenUnknown (some value) ≤ 4 + attrLen := by
  unfold stunParseAtrUnknown at hParse
  split at hParse
  · split at hParse
    · cases hParse
    · cases hParse
      unfold takenUnknown
      simp only [List.length_map, List.length_range]
      omega
  · cases hParse

theorem takenError_parse_le
    {body : List UInt8}
    {attrLen : Nat}
    {value : StunAtrError}
    (hParse :
      stunParseAtrError body attrLen = .ok (some value)) :
    takenError (some value) ≤ 4 + attrLen := by
  unfold stunParseAtrError at hParse
  split at hParse
  · cases hParse
  · rename_i hLen
    simp only at hParse
    split at hParse
    · rename_i hSize
      cases hParse
      unfold sizeofStunAtrError at hLen
      unfold stunMaxString at hSize
      unfold takenError
      simp only [List.length_take]
      omega
    · cases hParse

/- One attribute: no more is counted than its bytes. -/
theorem stunParseAttribute_taken_le
    (wanted : Option StunAtrError)
    {atrType : UInt16}
    {body : List UInt8}
    {attrLen : Nat}
    {msg msg' : StunMessage}
    (hParse :
      stunParseAttribute atrType body attrLen msg =
        .ok (some msg')) :
    msg'.taken wanted ≤ msg.taken wanted + (4 + attrLen) := by
  have hAddress :
      ∀ (store : StunAtrAddress4 → StunMessage),
        (Except.ok
            ((stunParseAtrAddress body attrLen).map store) :
          Except Fault (Option StunMessage)) =
          .ok (some msg') →
        ∃ value : StunAtrAddress4,
          store value = msg' ∧
            takenAddress (some value) ≤ 4 + attrLen := by
    intro store hStore
    rcases Option.map_eq_some_iff.mp (Except.ok.inj hStore)
      with ⟨value, hValue, hEq⟩
    exact ⟨value, hEq, takenAddress_parse_le hValue⟩
  have hString :
      ∀ (store : StunAtrString → StunMessage),
        (Except.ok
            ((stunParseAtrString body attrLen).map store) :
          Except Fault (Option StunMessage)) =
          .ok (some msg') →
        ∃ value : StunAtrString,
          store value = msg' ∧
            takenString (some value) ≤ 4 + attrLen := by
    intro store hStore
    rcases Option.map_eq_some_iff.mp (Except.ok.inj hStore)
      with ⟨value, hValue, hEq⟩
    exact ⟨value, hEq, takenString_parse_le hValue⟩
  unfold stunParseAttribute at hParse
  rcases ite_eq_iff.mp hParse with ⟨_, hHere⟩ | ⟨_, hParse⟩
  · rcases hAddress _ hHere with ⟨value, rfl, hLe⟩
    simp only [StunMessage.taken]
    omega
  rcases ite_eq_iff.mp hParse with ⟨_, hHere⟩ | ⟨_, hParse⟩
  · rcases hAddress _ hHere with ⟨value, rfl, hLe⟩
    simp only [StunMessage.taken]
    omega
  rcases ite_eq_iff.mp hParse with ⟨_, hHere⟩ | ⟨_, hParse⟩
  · rcases Option.map_eq_some_iff.mp (Except.ok.inj hHere)
      with ⟨value, hValue, rfl⟩
    have hLe := takenChangeRequest_parse_le hValue
    simp only [StunMessage.taken]
    omega
  rcases ite_eq_iff.mp hParse with ⟨_, hHere⟩ | ⟨_, hParse⟩
  · rcases hAddress _ hHere with ⟨value, rfl, hLe⟩
    simp only [StunMessage.taken]
    omega
  rcases ite_eq_iff.mp hParse with ⟨_, hHere⟩ | ⟨_, hParse⟩
  · rcases hAddress _ hHere with ⟨value, rfl, hLe⟩
    simp only [StunMessage.taken]
    omega
  rcases ite_eq_iff.mp hParse with ⟨_, hHere⟩ | ⟨_, hParse⟩
  · rcases hString _ hHere with ⟨value, rfl, hLe⟩
    simp only [StunMessage.taken]
    omega
  rcases ite_eq_iff.mp hParse with ⟨_, hHere⟩ | ⟨_, hParse⟩
  · rcases hString _ hHere with ⟨value, rfl, hLe⟩
    simp only [StunMessage.taken]
    omega
  rcases ite_eq_iff.mp hParse with ⟨_, hHere⟩ | ⟨_, hParse⟩
  · rcases Option.map_eq_some_iff.mp (Except.ok.inj hHere)
      with ⟨value, _, rfl⟩
    simp only [StunMessage.taken]
    omega
  rcases ite_eq_iff.mp hParse with ⟨_, hHere⟩ | ⟨_, hParse⟩
  · cases hError : stunParseAtrError body attrLen with
    | error fault =>
        rw [hError] at hHere
        cases hHere
    | ok result =>
        rw [hError] at hHere
        rcases Option.map_eq_some_iff.mp
            (Except.ok.inj hHere) with
          ⟨value, rfl, rfl⟩
        have hLe := takenError_parse_le hError
        simp only [StunMessage.taken]
        split
        · rename_i hWanted
          rw [hWanted] at hLe
          omega
        · omega
  rcases ite_eq_iff.mp hParse with ⟨_, hHere⟩ | ⟨_, hParse⟩
  · rcases Option.map_eq_some_iff.mp (Except.ok.inj hHere)
      with ⟨value, hValue, rfl⟩
    have hLe := takenUnknown_parse_le hValue
    simp only [StunMessage.taken]
    omega
  rcases ite_eq_iff.mp hParse with ⟨_, hHere⟩ | ⟨_, hParse⟩
  · rcases hAddress _ hHere with ⟨value, rfl, hLe⟩
    simp only [StunMessage.taken]
    omega
  rcases ite_eq_iff.mp hParse with ⟨_, hHere⟩ | ⟨_, hParse⟩
  · rcases hAddress _ hHere with ⟨value, rfl, hLe⟩
    simp only [StunMessage.taken]
    omega
  rcases ite_eq_iff.mp hParse with ⟨_, hHere⟩ | ⟨_, hParse⟩
  · rcases Option.some.inj (Except.ok.inj hHere) with rfl
    simp only [StunMessage.taken, takenXorOnly]
    omega
  rcases ite_eq_iff.mp hParse with ⟨_, hHere⟩ | ⟨_, hParse⟩
  · rcases hString _ hHere with ⟨value, rfl, hLe⟩
    simp only [StunMessage.taken]
    omega
  rcases ite_eq_iff.mp hParse with ⟨_, hHere⟩ | ⟨_, hParse⟩
  · rcases hAddress _ hHere with ⟨value, rfl, hLe⟩
    simp only [StunMessage.taken]
    omega
  rcases ite_eq_iff.mp hParse with ⟨_, hHere⟩ | ⟨_, hParse⟩
  · cases hHere
  · rcases Option.some.inj (Except.ok.inj hParse) with rfl
    omega

/-
  The whole loop: no more is counted than the bytes of the
  body.  By induction on the length of the body, which every
  round shortens.
-/
theorem stunParseAttributes_taken_le
    (wanted : Option StunAtrError)
    {body : List UInt8}
    {msg result : StunMessage}
    (hParse :
      stunParseAttributes beyond body msg =
        .ok (some result)) :
    result.taken wanted ≤ msg.taken wanted + body.length := by
  induction hLength : body.length using Nat.strong_induction_on
    generalizing body msg with
  | _ n ih =>
      subst hLength
      by_cases hBody : body = []
      · subst hBody
        rw [stunParseAttributes_nil] at hParse
        cases hParse
        exact Nat.le_refl _
      · rw [stunParseAttributes_unfold beyond msg hBody]
          at hParse
        rcases ite_eq_iff.mp hParse with
          ⟨_, hCut⟩ | ⟨hFits, hRest⟩
        · cases hCut
        · generalize
            (shortAt (body ++ beyond) 2).toNat = attrLen
            at hFits hRest
          cases hAttribute :
              stunParseAttribute
                (shortAt (body ++ beyond) 0) (body.drop 4)
                attrLen msg with
          | error fault =>
              rw [hAttribute] at hRest
              cases hRest
          | ok parsed =>
              rw [hAttribute] at hRest
              cases parsed with
              | none => cases hRest
              | some msg' =>
                  have hDrop :
                      (body.drop (4 + attrLen)).length =
                        body.length - (4 + attrLen) :=
                    List.length_drop
                  have hStep :=
                    stunParseAttribute_taken_le wanted
                      hAttribute
                  have hMore :=
                    ih _ (by rw [hDrop]; omega) hRest rfl
                  omega

------------------------------------------------------------
-- Bytes That The Encoder Writes
------------------------------------------------------------

@[simp] theorem length_encodeAtrAddress4
    (type : UInt16)
    (atr : StunAtrAddress4) :
    (encodeAtrAddress4 type atr).length = 12 := rfl

@[simp] theorem length_encodeAtrChangeRequest
    (atr : StunAtrChangeRequest) :
    (encodeAtrChangeRequest atr).length = 8 := rfl

@[simp] theorem length_encodeAtrString
    (type : UInt16)
    (atr : StunAtrString) :
    (encodeAtrString type atr).length =
      4 + atr.value.length := by
  simp only [encodeAtrString, List.length_append,
    length_encode16]

@[simp] theorem length_encodeAtrError
    (atr : StunAtrError) :
    (encodeAtrError atr).length = 8 + atr.reason.length := by
  simp only [encodeAtrError, List.length_append,
    length_encode16, List.length_cons, List.length_nil]

@[simp] theorem length_encodeAtrUnknown
    (atr : StunAtrUnknown) :
    (encodeAtrUnknown atr).length =
      4 + 2 * atr.attrType.length := by
  simp only [encodeAtrUnknown, List.length_append,
    length_encode16, List.length_flatMap, List.map_const',
    List.sum_replicate_nat]
  omega

theorem length_encodeOptional_address
    (type : UInt16)
    (atr : Option StunAtrAddress4) :
    (encodeOptional (encodeAtrAddress4 type) atr).length =
      takenAddress atr := by
  cases atr <;> rfl

theorem length_encodeOptional_changeRequest
    (atr : Option StunAtrChangeRequest) :
    (encodeOptional encodeAtrChangeRequest atr).length =
      takenChangeRequest atr := by
  cases atr <;> rfl

theorem length_encodeOptional_string
    (type : UInt16)
    (atr : Option StunAtrString) :
    (encodeOptional (encodeAtrString type) atr).length =
      takenString atr := by
  cases atr with
  | none => rfl
  | some value => exact length_encodeAtrString type value

theorem length_encodeOptional_error
    (atr : Option StunAtrError) :
    (encodeOptional encodeAtrError atr).length =
      takenError atr := by
  cases atr with
  | none => rfl
  | some value => exact length_encodeAtrError value

/-
  What the encoder writes is what the parser takes, but for
  two bytes of every unknown attribute and of the XOR flag.
-/
theorem length_encodeAttributes
    (msg : StunMessage) :
    (encodeAttributes msg).length +
        (match msg.unknownAttributes with
        | some atr => 2 * atr.attrType.length
        | none => 0) +
        (if msg.xorOnly then 2 else 0) =
      msg.taken msg.errorCode := by
  have hXor :
      (if msg.xorOnly then encodeXorOnly else []).length +
          (if msg.xorOnly then 2 else 0) =
        takenXorOnly msg.xorOnly := by
    cases msg.xorOnly <;> rfl
  have hUnknown :
      (encodeOptional encodeAtrUnknown
            msg.unknownAttributes).length +
          (match msg.unknownAttributes with
          | some atr => 2 * atr.attrType.length
          | none => 0) =
        takenUnknown msg.unknownAttributes := by
    cases msg.unknownAttributes with
    | none => rfl
    | some atr =>
        change
          (encodeAtrUnknown atr).length +
              2 * atr.attrType.length =
            4 + 4 * atr.attrType.length
        rw [length_encodeAtrUnknown]
        omega
  unfold encodeAttributes StunMessage.taken
  rw [if_pos rfl]
  simp only [List.length_append,
    length_encodeOptional_address,
    length_encodeOptional_changeRequest,
    length_encodeOptional_string,
    length_encodeOptional_error]
  omega

/- The attributes before the error code, in bytes. -/
theorem length_encodeLeading
    (msg : StunMessage)
    (msgHdr : StunMsgHdr)
    {wrong wanted : StunAtrError}
    (hWrong : wrong ≠ wanted) :
    StunMessage.taken (some wanted)
        { msg.leading msgHdr with errorCode := some wrong } =
      (encodeLeading msg).length := by
  unfold encodeLeading StunMessage.taken
  rw [if_neg (by
    intro hEq
    exact hWrong (Option.some.inj hEq))]
  simp only [List.length_append,
    length_encodeOptional_address,
    length_encodeOptional_changeRequest,
    length_encodeOptional_string]
  rfl

------------------------------------------------------------
-- The Attributes That Are Encoded Badly
------------------------------------------------------------

/- A parsed error code has four bytes before its reason. -/
theorem reason_length_of_parse
    {body : List UInt8}
    {hdrLen : Nat}
    {value : StunAtrError}
    (hLow : 4 ≤ hdrLen)
    (hFits : hdrLen ≤ body.length)
    (hParse :
      stunParseAtrError body hdrLen = .ok (some value)) :
    value.reason.length = hdrLen - 4 := by
  unfold stunParseAtrError at hParse
  rcases ite_eq_iff.mp hParse with
    ⟨_, hLarge⟩ | ⟨hSmall, hRest⟩
  · cases hLarge
  · simp only at hRest
    split at hRest
    · unfold sizeofStunAtrError at hSmall
      cases hRest
      simp only [List.length_take, List.length_drop]
      omega
    · cases hRest

/- What is left after the error code that was stored first. -/
theorem stunParseRest_errorCode
    {body : List UInt8}
    {hdrLen : Nat}
    {msg result : StunMessage}
    (hParse :
      stunParseRest beyond rest
          (stunParseAttribute Stun.errorCode body hdrLen msg) =
        .ok (some result)) :
    ∃ value : StunAtrError,
      stunParseAtrError body hdrLen = .ok (some value) ∧
        stunParseAttributes beyond rest
            { msg with errorCode := some value } =
          .ok (some result) := by
  cases hError : stunParseAtrError body hdrLen with
  | error fault =>
      have hAttribute :
          stunParseAttribute Stun.errorCode body hdrLen msg =
            .error fault := by
        unfold stunParseAttribute
        simp only [hError]
        rfl
      rw [hAttribute] at hParse
      cases hParse
  | ok parsed =>
      have hAttribute :
          stunParseAttribute Stun.errorCode body hdrLen msg =
            .ok (parsed.map fun value =>
              { msg with errorCode := some value }) := by
        unfold stunParseAttribute
        simp only [hError]
        rfl
      rw [hAttribute] at hParse
      cases parsed with
      | none => cases hParse
      | some value => exact ⟨value, rfl, hParse⟩

/-
  An error code does not come back: the parser first takes
  it with two bytes more, and for the right one, which it
  would have to find later, there are not enough bytes left.
-/
theorem errorCode_lost
    {msgHdr : StunMsgHdr}
    {msg result : StunMessage}
    (hSupported : msg.Supported)
    (hParse :
      stunParseAttributes beyond (encodeAttributes msg)
          (.bare msgHdr) =
        .ok (some result))
    (hSame : result = { msg with msgHdr := result.msgHdr }) :
    msg.errorCode = none := by
  cases hError : msg.errorCode with
  | none => rfl
  | some atr =>
      exfalso
      have hCode := atr.size_lt
      unfold stunMaxString at hCode
      have hLength :
          (UInt16.ofNat (6 + atr.reason.length)).toNat =
            6 + atr.reason.length := by
        rw [UInt16.toNat_ofNat']
        omega
      have hCount := length_encodeAttributes msg
      have hTotal := encodeAttributes_eq msg
      rw [hError] at hCount hTotal
      have hTaken :
          result.taken (some atr) = msg.taken (some atr) := by
        rw [hSame]
        rfl
      rw [hTotal,
        stunParseAttributes_leading beyond _ msgHdr
          hSupported, encodeOptional_some] at hParse
      have hTotalLength := congrArg List.length hTotal
      rw [encodeOptional_some, List.length_append,
        List.length_append, length_encodeAtrError]
        at hTotalLength
      generalize
        encodeOptional encodeAtrUnknown
            msg.unknownAttributes ++ encodeTrailing msg =
          trailing at hParse hTotalLength
      simp only [encodeAtrError, List.append_assoc] at hParse
      rw [← List.append_assoc, stunParseAttributes_step,
        hLength] at hParse
      rcases ite_eq_iff.mp hParse with
        ⟨_, hCut⟩ | ⟨hFits, hRest⟩
      · cases hCut
      · rcases stunParseRest_errorCode beyond _ hRest with
          ⟨wrong, hWrong, hMore⟩
        have hReason :=
          reason_length_of_parse (by omega)
            (Nat.le_of_not_lt hFits) hWrong
        have hNe : wrong ≠ atr := by
          rintro rfl
          omega
        have hLeft :=
          stunParseAttributes_taken_le beyond (some atr) hMore
        rw [length_encodeLeading msg msgHdr hNe, hTaken,
          List.length_drop] at hLeft
        simp only [List.length_append, length_encode16,
          List.length_cons, List.length_nil] at hFits hLeft
        omega

/-
  Unknown attributes and the XOR flag do not come back: for
  each the parser would take more bytes than were written,
  and an empty list of attributes it refuses.
-/
theorem unknownAttributes_lost
    {msgHdr : StunMsgHdr}
    {msg result : StunMessage}
    (hSupported : msg.Supported)
    (hError : msg.errorCode = none)
    (hParse :
      stunParseAttributes beyond (encodeAttributes msg)
          (.bare msgHdr) =
        .ok (some result))
    (hSame : result = { msg with msgHdr := result.msgHdr }) :
    msg.unknownAttributes = none ∧ msg.xorOnly = false := by
  have hCount := length_encodeAttributes msg
  have hTaken :
      result.taken msg.errorCode =
        msg.taken msg.errorCode := by
    rw [hSame]
    rfl
  have hBare :
      (StunMessage.bare msgHdr).taken msg.errorCode = 0 := by
    rw [hError]
    rfl
  have hLe :=
    stunParseAttributes_taken_le beyond msg.errorCode hParse
  rw [hTaken, hBare] at hLe
  constructor
  · cases hUnknown : msg.unknownAttributes with
    | none => rfl
    | some atr =>
        exfalso
        rw [hUnknown] at hCount
        simp only at hCount
        have hNone : atr.attrType.length = 0 := by omega
        have hTotal := encodeAttributes_eq msg
        rw [hError, hUnknown] at hTotal
        rw [hTotal,
          stunParseAttributes_leading beyond _ msgHdr
            hSupported, encodeOptional_none,
          encodeOptional_some, List.nil_append,
          encodeAtrUnknown, hNone, List.append_assoc,
          stunParseAttributes_step] at hParse
        rcases ite_eq_iff.mp hParse with
          ⟨_, hCut⟩ | ⟨_, hRest⟩
        · cases hCut
        · cases hRest
  · cases hXor : msg.xorOnly with
    | false => rfl
    | true =>
        exfalso
        rw [hXor, if_pos rfl] at hCount
        omega

------------------------------------------------------------
-- Whole Messages
------------------------------------------------------------

theorem takenAddress_le
    (atr : Option StunAtrAddress4) :
    takenAddress atr ≤ 12 := by
  cases atr <;> simp [takenAddress]

theorem takenString_le
    (atr : Option StunAtrString) :
    takenString atr ≤ 260 := by
  cases atr with
  | none => exact Nat.zero_le _
  | some value =>
      have hLt := value.size_lt
      unfold stunMaxString at hLt
      change 4 + value.value.length ≤ 260
      omega

/- The size of the attributes fits in the header. -/
theorem length_encodeAttributes_lt
    (msg : StunMessage) :
    (encodeAttributes msg).length < 2 ^ 16 := by
  have hCount := length_encodeAttributes msg
  have hChange : takenChangeRequest msg.changeRequest ≤ 8 := by
    cases msg.changeRequest <;> simp [takenChangeRequest]
  have hError : takenError msg.errorCode ≤ 264 := by
    cases msg.errorCode with
    | none => exact Nat.zero_le _
    | some value =>
        have hLt := value.size_lt
        unfold stunMaxString at hLt
        change 8 + value.reason.length ≤ 264
        omega
  have hUnknown :
      takenUnknown msg.unknownAttributes ≤ 36 := by
    cases msg.unknownAttributes with
    | none => exact Nat.zero_le _
    | some value =>
        have hLe := value.size_le
        unfold stunMaxUnknownAttributes at hLe
        change 4 + 4 * value.attrType.length ≤ 36
        omega
  have hXor : takenXorOnly msg.xorOnly ≤ 4 := by
    cases msg.xorOnly <;> simp [takenXorOnly]
  have hMapped := takenAddress_le msg.mappedAddress
  have hResponse := takenAddress_le msg.responseAddress
  have hSource := takenAddress_le msg.sourceAddress
  have hChanged := takenAddress_le msg.changedAddress
  have hReflected := takenAddress_le msg.reflectedFrom
  have hXorMapped := takenAddress_le msg.xorMappedAddress
  have hSecondary := takenAddress_le msg.secondaryAddress
  have hUsername := takenString_le msg.username
  have hPassword := takenString_le msg.password
  have hServer := takenString_le msg.serverName
  unfold StunMessage.taken at hCount
  rw [if_pos rfl] at hCount
  omega

/- The bytes behind the header are the attributes. -/
theorem stunParseMessage_encode
    (msg target : StunMessage)
    (integrity : StunAtrIntegrity) :
    stunParseMessage beyond
        (stunEncodeMessage msg ⟨[], by decide⟩ integrity)
        target =
      stunParseAttributes beyond (encodeAttributes msg)
        { target with
          msgHdr :=
            { msg.msgHdr with
              msgLength :=
                UInt16.ofNat
                  (encodeAttributes msg).length } } := by
  have hLt := length_encodeAttributes_lt msg
  have hBytes :
      stunEncodeMessage msg ⟨[], by decide⟩ integrity =
        encode16 msg.msgHdr.msgType ++
          encode16
            (UInt16.ofNat (encodeAttributes msg).length) ++
          msg.msgHdr.id.toList ++ encodeAttributes msg := by
    unfold stunEncodeMessage
    rw [if_neg (by decide), List.append_nil]
  generalize encodeAttributes msg = body at hLt hBytes ⊢
  have hSize :
      (stunEncodeMessage msg ⟨[], by decide⟩
        integrity).length = 20 + body.length := by
    rw [hBytes]
    simp only [List.length_append, length_encode16,
      Vector.length_toList]
  have hToNat : (UInt16.ofNat body.length).toNat = body.length := by
    rw [UInt16.toNat_ofNat']
    omega
  have hType :
      shortAt
          (stunEncodeMessage msg ⟨[], by decide⟩ integrity) 0 =
        msg.msgHdr.msgType := by
    rw [hBytes]
    exact ByteSeq.ofBe16_be16 _
  have hLength :
      shortAt
          (stunEncodeMessage msg ⟨[], by decide⟩ integrity) 2 =
        UInt16.ofNat body.length := by
    rw [hBytes]
    exact ByteSeq.ofBe16_be16 _
  have hId :
      (Vector.ofFn (fun i : Fin 16 =>
        (stunEncodeMessage msg ⟨[], by decide⟩
          integrity).getD (4 + i) 0)) = msg.msgHdr.id := by
    apply Vector.ext
    intro i hLt
    have hIn : i < msg.msgHdr.id.toList.length := by
      rw [Vector.length_toList]
      exact hLt
    rw [Vector.getElem_ofFn, hBytes, List.append_assoc,
      Nat.add_comm]
    change
      (msg.msgHdr.id.toList ++ body).getD i 0 =
        msg.msgHdr.id[i]
    rw [List.getD_append _ _ _ _ hIn,
      List.getD_eq_getElem _ _ hIn, Vector.getElem_toList]
  have hDrop :
      (stunEncodeMessage msg ⟨[], by decide⟩
        integrity).drop sizeofStunMsgHdr = body := by
    rw [hBytes]
    apply List.drop_left'
    simp only [List.length_append, length_encode16,
      Vector.length_toList]
    rfl
  unfold stunParseMessage
  rw [if_neg (by rw [hSize]; unfold sizeofStunMsgHdr; omega),
    hType, hLength, hId]
  simp only
  rw [if_neg, hDrop]
  rw [hToNat, hSize]
  unfold sizeofStunMsgHdr
  omega

/-
  The parser returns true on the bytes of the encoder, into a
  cleared message and whatever lies behind the bytes, and
  what it gives back has the type, the id and exactly the
  attributes of the message.
-/
def StunMessage.RoundTrips (msg : StunMessage) : Prop :=
  ∀ (beyond : List UInt8) (integrity : StunAtrIntegrity),
    ∃ msgLength : UInt16,
      stunParseMessage beyond
          (stunEncodeMessage msg ⟨[], by decide⟩ integrity)
          StunMessage.zero =
        .ok
          (some
            { msg with
              msgHdr :=
                { msg.msgHdr with
                  msgLength := msgLength } })

/-
  Exactly the messages without error code, unknown attributes
  and XOR flag come back from their encoding.
-/
theorem stun_round_trips_iff
    {msg : StunMessage}
    (hSupported : msg.Supported) :
    msg.RoundTrips ↔
      msg.errorCode = none ∧
        msg.unknownAttributes = none ∧
        msg.xorOnly = false := by
  constructor
  · intro hTrips
    rcases hTrips [] ⟨Vector.replicate 20 0⟩ with
      ⟨msgLength, hParse⟩
    rw [stunParseMessage_encode] at hParse
    have hError :=
      errorCode_lost [] hSupported hParse rfl
    have hOthers :=
      unknownAttributes_lost [] hSupported hError hParse rfl
    exact ⟨hError, hOthers⟩
  · rintro ⟨hError, hUnknown, hXor⟩ beyond integrity
    refine ⟨UInt16.ofNat (encodeAttributes msg).length, ?_⟩
    rw [stunParseMessage_encode]
    exact
      stunParseAttributes_encodeAttributes beyond _
        hSupported ⟨hError, hUnknown, hXor⟩

namespace Sample

/- A response with nothing but the XOR flag. -/
def xorOnlyMessage : StunMessage :=
  { StunMessage.bare
      ⟨0x0101, 0, Vector.replicate 16 0⟩ with
    xorOnly := true }

/- A response with a mapped address and a user name. -/
def mappedMessage : StunMessage :=
  { StunMessage.bare
      ⟨0x0101, 0, Vector.replicate 16 0⟩ with
    mappedAddress :=
      some
        { pad := 0
          family := Stun.ipv4Family
          ipv4 := ⟨6000, 0x0a000001⟩ }
    username := some ⟨[97, 98, 99, 100], by decide⟩ }

end Sample

/- The XOR flag is written without a length and is lost. -/
theorem xorOnly_does_not_return :
    Sample.xorOnlyMessage.Supported ∧
      stunParseMessage []
          (stunEncodeMessage Sample.xorOnlyMessage
            ⟨[], by decide⟩ ⟨Vector.replicate 20 0⟩)
          StunMessage.zero =
        .ok none ∧
      ¬ Sample.xorOnlyMessage.RoundTrips := by
  have hParse :
      stunParseMessage []
          (stunEncodeMessage Sample.xorOnlyMessage
            ⟨[], by decide⟩ ⟨Vector.replicate 20 0⟩)
          StunMessage.zero =
        .ok none := by
    decide +kernel
  refine ⟨⟨by decide, by decide, rfl⟩, hParse, ?_⟩
  intro hTrips
  rcases hTrips [] ⟨Vector.replicate 20 0⟩ with
    ⟨msgLength, hReturned⟩
  rw [hParse] at hReturned
  cases hReturned

/- An address and a name come back. -/
theorem mappedMessage_returns :
    Sample.mappedMessage.RoundTrips := by
  apply (stun_round_trips_iff _).mpr
  · exact ⟨rfl, rfl, rfl⟩
  · exact ⟨by decide, by decide, rfl⟩

end ML

end NapaBaselibs
