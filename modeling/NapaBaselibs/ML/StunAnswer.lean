import NapaBaselibs.ML.Sample
import NapaBaselibs.ML.SocketIDString
import NapaBaselibs.ML.StunBounds

/-
  `recv_stun_msg`: what a node learns about its own address
  from the answer of a STUN server.

  The attributes of a message are described without the
  parser.  A message that the parser takes is one that
  consists of attributes it accepts, and the mapped address
  it leaves behind is the one of the last of them that has
  one.

  Key definitions include:
    * `SockaddrStorage.initSockaddr`
    * `Endpoint.recvStunMsg`
    * `Attributes`, `IsStun`, `mappedAddresses`
    * `LearnsMapped`

  Key theorems include:
    * `recvStunMessage_eq_some_iff`
    * `recv_stun_msg_learns_iff`
-/

------------------------------------------------------------
-- Storing An Address
------------------------------------------------------------

namespace NapaBaselibs

namespace ML

variable {σ : Type}
variable (p : Platform)
variable (inetPton : InetPton)

/- Write bytes behind the family of an address. -/
def SockaddrStorage.store
    (addr : SockaddrStorage)
    (start : Nat)
    (bytes : List UInt8) : SockaddrStorage where
  ssFamily := addr.ssFamily
  ssData :=
    Vector.ofFn (fun i : Fin 126 =>
      if start ≤ i ∧ i < start + bytes.length then
        bytes.getD (i - start) 0
      else
        addr.ssData[i])

/- What `inet_pton` does with the place it is given. -/
def SockaddrStorage.storeIp
    (addr : SockaddrStorage)
    (start : Nat)
    (family : UInt16)
    (ipaddr : CString) : SockaddrStorage :=
  match inetPton family ipaddr with
  | some bytes => addr.store start bytes
  | none => addr

/-
  `init_sockaddr` on an address in use.  The bytes that the
  family does not use stay as they were.
-/
def SockaddrStorage.initSockaddr
    (addr : SockaddrStorage)
    (port : Int)
    (ipaddr : CString) : SockaddrStorage :=
  let family := p.addressFamily ipaddr
  let named := { addr with ssFamily := family }
  if family = afInet then
    (named.store 0 (portBytes port)).storeIp inetPton 2
      family ipaddr
  else if family = afInet6 then
    (named.store 0 (portBytes port)).storeIp inetPton 6
      family ipaddr
  else
    named

/- The bytes of an address after a write. -/
@[simp] theorem SockaddrStorage.getElem_store
    (addr : SockaddrStorage)
    (start : Nat)
    (bytes : List UInt8)
    {i : Nat}
    (hIn : i < 126) :
    (addr.store start bytes).ssData[i] =
      if start ≤ i ∧ i < start + bytes.length then
        bytes.getD (i - start) 0
      else
        addr.ssData[i] := by
  simp [SockaddrStorage.store]

/-
  What the C library says of printed IPv4 addresses: they are
  numeric addresses of that family, and are read back.
-/
structure PrintsIpv4 : Prop where
  family :
    ∀ bytes, bytes.length = 4 →
      p.addressFamily (p.inetNtop afInet bytes) = afInet
  pton :
    ∀ bytes, bytes.length = 4 →
      inetPton afInet (p.inetNtop afInet bytes) = some bytes

------------------------------------------------------------
-- Receiving An Answer
------------------------------------------------------------

/-
  `recv_stun_message` into a cleared message: `none` where it
  returns 1.  What it prints is left out.
-/
def recvStunMessage
    (beyond msgbuf : List UInt8) :
    Except Fault (Option StunMessage) :=
  stunParseMessage beyond msgbuf .zero

/-
  The mapped address of a message, all zero where none was
  stored.
-/
def StunMessage.mappedIpv4 (resp : StunMessage) :
    StunAddress4 :=
  match resp.mappedAddress with
  | some atr => atr.ipv4
  | none => ⟨0, 0⟩

/- The step that makes an address the external one. -/
def Endpoint.learn
    (s : Endpoint σ)
    (ipv4 : StunAddress4) : Endpoint σ × List Output :=
  let ipaddr := p.inetNtop afInet (ByteSeq.be32 ipv4.addr)
  let socketID :=
    { s.localSocketID with
      externalAddr :=
        s.localSocketID.externalAddr.initSockaddr p inetPton
          ipv4.port.toNat ipaddr }
  ({ s with
      localSocketID := socketID
      natTraversal := true },
    [.receiveSocketID socketID])

/- `recv_stun_msg`. -/
def Endpoint.recvStunMsg
    (s : Endpoint σ)
    (beyond msgbuf : List UInt8) : StepResult σ :=
  match recvStunMessage beyond msgbuf with
  | .error fault => .error fault
  | .ok none => .ok (s, [])
  | .ok (some resp) =>
      .ok (s.learn p inetPton resp.mappedIpv4)

------------------------------------------------------------
-- Attributes Of A Message
------------------------------------------------------------

/- An attribute: its type and its content. -/
abbrev StunAttribute := UInt16 × List UInt8

/-
  The body of a message is a sequence of attributes that the
  parser goes on behind.
-/
inductive Attributes :
    List UInt8 → List StunAttribute → Prop where
  | nil : Attributes [] []
  | cons
      {body : List UInt8}
      {rest : List StunAttribute}
      (hFits : 4 + attrLenOf body ≤ body.length)
      (hAccepts :
        Accepts (atrTypeOf body) (body.drop 4)
          (attrLenOf body))
      (hBad : ¬ BadError (atrTypeOf body) (attrLenOf body))
      (hRest :
        Attributes (body.drop (4 + attrLenOf body)) rest) :
      Attributes body
        ((atrTypeOf body,
          (body.drop 4).take (attrLenOf body)) :: rest)

/- A STUN message and its attributes. -/
structure IsStun
    (msgbuf : List UInt8)
    (atrs : List StunAttribute) : Prop where
  header : sizeofStunMsgHdr ≤ msgbuf.length
  msgLength :
    (shortAt msgbuf 2).toNat + sizeofStunMsgHdr =
      msgbuf.length
  attributes :
    Attributes (msgbuf.drop sizeofStunMsgHdr) atrs

/- The address in a `MappedAddress` attribute. -/
def mappedAddress?
    (atr : StunAttribute) : Option StunAddress4 :=
  if atr.1 = Stun.mappedAddress then
    some ⟨shortAt atr.2 2, wordAt atr.2 4⟩
  else
    none

/- The mapped addresses among attributes, in their order. -/
def mappedAddresses
    (atrs : List StunAttribute) : List StunAddress4 :=
  atrs.filterMap mappedAddress?

/- The attributes of a body are determined by it. -/
theorem Attributes.unique
    {body : List UInt8}
    {atrs atrs' : List StunAttribute}
    (hFirst : Attributes body atrs)
    (hSecond : Attributes body atrs') :
    atrs = atrs' := by
  induction hFirst generalizing atrs' with
  | nil =>
      cases hSecond with
      | nil => rfl
      | cons hFits => simp at hFits
  | cons hFits _ _ _ ih =>
      cases hSecond with
      | nil => simp at hFits
      | cons _ _ _ hRest => rw [ih hRest]

------------------------------------------------------------
-- The Mapped Address
------------------------------------------------------------

/- Only one type of attribute touches the mapped address. -/
theorem stunParseAttribute_mappedAddress
    {atrType : UInt16}
    {body : List UInt8}
    {attrLen : Nat}
    {msg msg' : StunMessage}
    (hNot : atrType ≠ Stun.mappedAddress)
    (hParse :
      stunParseAttribute atrType body attrLen msg =
        .ok (some msg')) :
    msg'.mappedAddress = msg.mappedAddress := by
  have hStored
      {α : Type}
      {store : α → StunMessage}
      {parsed : Option α}
      (hMap :
        (.ok (parsed.map store) :
            Except Fault (Option StunMessage)) =
          .ok (some msg'))
      (hSame :
        ∀ value,
          (store value).mappedAddress = msg.mappedAddress) :
      msg'.mappedAddress = msg.mappedAddress := by
    cases parsed with
    | none => cases hMap
    | some value =>
        cases hMap
        exact hSame value
  unfold stunParseAttribute at hParse
  rw [if_neg hNot] at hParse
  by_cases hResponseAddress : atrType = Stun.responseAddress
  · rw [if_pos hResponseAddress] at hParse
    exact hStored hParse fun _ => rfl
  rw [if_neg hResponseAddress] at hParse
  by_cases hChangeRequest : atrType = Stun.changeRequest
  · rw [if_pos hChangeRequest] at hParse
    exact hStored hParse fun _ => rfl
  rw [if_neg hChangeRequest] at hParse
  by_cases hSourceAddress : atrType = Stun.sourceAddress
  · rw [if_pos hSourceAddress] at hParse
    exact hStored hParse fun _ => rfl
  rw [if_neg hSourceAddress] at hParse
  by_cases hChangedAddress : atrType = Stun.changedAddress
  · rw [if_pos hChangedAddress] at hParse
    exact hStored hParse fun _ => rfl
  rw [if_neg hChangedAddress] at hParse
  by_cases hUsername : atrType = Stun.username
  · rw [if_pos hUsername] at hParse
    exact hStored hParse fun _ => rfl
  rw [if_neg hUsername] at hParse
  by_cases hPassword : atrType = Stun.password
  · rw [if_pos hPassword] at hParse
    exact hStored hParse fun _ => rfl
  rw [if_neg hPassword] at hParse
  by_cases hMessageIntegrity : atrType = Stun.messageIntegrity
  · rw [if_pos hMessageIntegrity] at hParse
    exact hStored hParse fun _ => rfl
  rw [if_neg hMessageIntegrity] at hParse
  by_cases hErrorCode : atrType = Stun.errorCode
  · rw [if_pos hErrorCode] at hParse
    cases hError : stunParseAtrError body attrLen with
    | error fault =>
        rw [hError] at hParse
        cases hParse
    | ok parsed =>
        rw [hError] at hParse
        exact hStored hParse fun _ => rfl
  rw [if_neg hErrorCode] at hParse
  by_cases hUnknownAttribute : atrType = Stun.unknownAttribute
  · rw [if_pos hUnknownAttribute] at hParse
    exact hStored hParse fun _ => rfl
  rw [if_neg hUnknownAttribute] at hParse
  by_cases hReflectedFrom : atrType = Stun.reflectedFrom
  · rw [if_pos hReflectedFrom] at hParse
    exact hStored hParse fun _ => rfl
  rw [if_neg hReflectedFrom] at hParse
  by_cases hXorMappedAddress : atrType = Stun.xorMappedAddress
  · rw [if_pos hXorMappedAddress] at hParse
    exact hStored hParse fun _ => rfl
  rw [if_neg hXorMappedAddress] at hParse
  by_cases hXorOnly : atrType = Stun.xorOnly
  · rw [if_pos hXorOnly] at hParse
    cases hParse
    rfl
  rw [if_neg hXorOnly] at hParse
  by_cases hServerName : atrType = Stun.serverName
  · rw [if_pos hServerName] at hParse
    exact hStored hParse fun _ => rfl
  rw [if_neg hServerName] at hParse
  by_cases hSecondaryAddress : atrType = Stun.secondaryAddress
  · rw [if_pos hSecondaryAddress] at hParse
    exact hStored hParse fun _ => rfl
  rw [if_neg hSecondaryAddress] at hParse
  by_cases hMandatory : atrType ≤ 0x7FFF
  · rw [if_pos hMandatory] at hParse
    cases hParse
  · rw [if_neg hMandatory] at hParse
    cases hParse
    rfl

/- A mapped address that is accepted is stored. -/
theorem stunParseAttribute_mapped
    {body : List UInt8}
    {attrLen : Nat}
    (msg : StunMessage)
    (hAccepts :
      Accepts Stun.mappedAddress body attrLen) :
    ∃ msg',
      stunParseAttribute Stun.mappedAddress body attrLen msg =
        .ok (some msg') ∧
      msg'.mappedIpv4 =
        ⟨shortAt (body.take attrLen) 2,
          wordAt (body.take attrLen) 4⟩ := by
  rw [accepts_address (by decide)] at hAccepts
  rcases hAccepts with ⟨rfl, hFamily⟩
  have hTake (i : Nat) (hLt : i < 8) :
      (body.take 8).getD i 0 = body.getD i 0 := by
    rw [List.getD_eq_getElem?_getD, List.getElem?_take,
      if_pos hLt, ← List.getD_eq_getElem?_getD]
  unfold stunParseAttribute stunParseAtrAddress
  rw [if_pos rfl, if_neg (by simp), if_pos hFamily]
  refine ⟨_, rfl, ?_⟩
  simp only [StunMessage.mappedIpv4, shortAt, wordAt,
    hTake 2 (by decide), hTake 3 (by decide),
    hTake 4 (by decide), hTake 5 (by decide),
    hTake 6 (by decide), hTake 7 (by decide), Nat.reduceAdd]

/- The mapped address after one attribute. -/
theorem stunParseAttribute_mappedIpv4
    {atrType : UInt16}
    {body : List UInt8}
    {attrLen : Nat}
    {msg msg' : StunMessage}
    (hAccepts : Accepts atrType body attrLen)
    (hParse :
      stunParseAttribute atrType body attrLen msg =
        .ok (some msg'))
    (rest : List StunAttribute) :
    (mappedAddresses
        ((atrType, body.take attrLen) :: rest)).getLastD
        msg.mappedIpv4 =
      (mappedAddresses rest).getLastD msg'.mappedIpv4 := by
  unfold mappedAddresses
  by_cases hType : atrType = Stun.mappedAddress
  · subst hType
    rcases stunParseAttribute_mapped msg hAccepts with
      ⟨stored, hStored, hIpv4⟩
    rw [hStored] at hParse
    cases hParse
    simp only [List.filterMap_cons, mappedAddress?, if_true,
      List.getLastD_cons, hIpv4]
  · have hSame := stunParseAttribute_mappedAddress hType hParse
    simp only [List.filterMap_cons, mappedAddress?, hType,
      if_false, StunMessage.mappedIpv4, hSame]

/- One round of the parser over a whole attribute. -/
theorem stunParseAttributes_whole
    (beyond : List UInt8)
    {body : List UInt8}
    (msg : StunMessage)
    (hFits : 4 + attrLenOf body ≤ body.length) :
    stunParseAttributes beyond body msg =
      stunParseRest beyond (body.drop (4 + attrLenOf body))
        (stunParseAttribute (atrTypeOf body) (body.drop 4)
          (attrLenOf body) msg) := by
  have hBody : body ≠ [] := by
    rintro rfl
    simp at hFits
  rw [stunParseAttributes_unfold beyond msg hBody,
    shortAt_append (by omega) beyond,
    shortAt_append (by omega) beyond]
  exact if_neg (by change ¬ attrLenOf body + 4 > _; omega)

/- One round of the parser over anything else. -/
theorem stunParseAttributes_cut
    (beyond : List UInt8)
    {body : List UInt8}
    (msg : StunMessage)
    (hBody : body ≠ [])
    (hCut : ¬ 4 + attrLenOf body ≤ body.length) :
    stunParseAttributes beyond body msg = .ok none := by
  rw [stunParseAttributes_unfold beyond msg hBody, if_pos]
  by_cases hHeader : 4 ≤ body.length
  · rw [shortAt_append (by omega) beyond]
    change attrLenOf body + 4 > body.length
    omega
  · omega

/- A sequence of attributes is parsed to its end. -/
theorem Attributes.parse
    {body : List UInt8}
    {atrs : List StunAttribute}
    (hAtrs : Attributes body atrs)
    (beyond : List UInt8)
    (msg : StunMessage) :
    ∃ msg',
      stunParseAttributes beyond body msg = .ok (some msg') ∧
        msg'.mappedIpv4 =
          (mappedAddresses atrs).getLastD
            msg.mappedIpv4 := by
  induction hAtrs generalizing msg with
  | nil => exact ⟨msg, rfl, rfl⟩
  | cons hFits hAccepts hBad _ ih =>
      rename_i body rest _
      have hContent :
          attrLenOf body ≤ (body.drop 4).length := by
        rw [List.length_drop]
        omega
      rcases checkAttribute_cases hContent hBad msg with
        ⟨parsed, _, hParse, hSome⟩
      rcases Option.isSome_iff_exists.mp
        (hSome.mpr hAccepts) with ⟨next, rfl⟩
      rcases ih next with ⟨msg', hRest, hIpv4⟩
      refine ⟨msg', ?_, ?_⟩
      · rw [stunParseAttributes_whole beyond msg hFits, hParse]
        exact hRest
      · rw [hIpv4,
          stunParseAttribute_mappedIpv4 hAccepts hParse]

/- An error code whose reason does not fit is copied. -/
theorem stunParseAttribute_badError
    {atrType : UInt16}
    {attrLen : Nat}
    (hBad : BadError atrType attrLen)
    (body : List UInt8)
    (msg : StunMessage) :
    stunParseAttribute atrType body attrLen msg =
      .error .copyWrite := by
  rcases hBad with ⟨rfl, hLen⟩
  have hError :
      stunParseAtrError body attrLen = .error .copyWrite := by
    unfold stunParseAtrError
    rw [if_neg (by unfold sizeofStunAtrError; omega)]
    simp only
    rw [dif_neg (by unfold stunMaxString; omega)]
  unfold stunParseAttribute
  rw [if_neg (by decide), if_neg (by decide),
    if_neg (by decide), if_neg (by decide),
    if_neg (by decide), if_neg (by decide),
    if_neg (by decide), if_neg (by decide), if_pos rfl,
    hError]

/- What is parsed to its end is a sequence of attributes. -/
theorem attributes_of_parse
    {beyond body : List UInt8}
    {msg msg' : StunMessage}
    (hParse :
      stunParseAttributes beyond body msg =
        .ok (some msg')) :
    ∃ atrs, Attributes body atrs := by
  induction hLength : body.length using Nat.strong_induction_on
    generalizing body msg with
  | _ length ih =>
      by_cases hBody : body = []
      · subst hBody
        exact ⟨[], .nil⟩
      · by_cases hFits : 4 + attrLenOf body ≤ body.length
        · have hContent :
              attrLenOf body ≤ (body.drop 4).length := by
            rw [List.length_drop]
            omega
          rw [stunParseAttributes_whole beyond msg hFits]
            at hParse
          by_cases hBad :
              BadError (atrTypeOf body) (attrLenOf body)
          · rw [stunParseAttribute_badError hBad] at hParse
            cases hParse
          · rcases checkAttribute_cases hContent hBad msg with
              ⟨parsed, _, hOne, hSome⟩
            rw [hOne] at hParse
            cases parsed with
            | none => cases hParse
            | some next =>
                have hShorter :
                    (body.drop (4 + attrLenOf body)).length <
                      length := by
                  rw [List.length_drop]
                  omega
                rcases ih _ hShorter hParse rfl with
                  ⟨rest, hRest⟩
                exact
                  ⟨_, .cons hFits (hSome.mp rfl) hBad hRest⟩
        · rw [stunParseAttributes_cut beyond msg hBody hFits]
            at hParse
          cases hParse

/- The next attribute is an error code that does not fit. -/
def OverrunAt (body : List UInt8) : Prop :=
  4 + attrLenOf body ≤ body.length ∧
    BadError (atrTypeOf body) (attrLenOf body)

/- The parser faults where it gets to such an error code. -/
theorem stunParseAttributes_error_iff
    (beyond body : List UInt8)
    (msg : StunMessage) :
    (∃ fault,
        stunParseAttributes beyond body msg =
          .error fault) ↔
      ∃ rest, Reaches body rest ∧ OverrunAt rest := by
  constructor
  · rintro ⟨fault, hParse⟩
    induction hLength : body.length using
      Nat.strong_induction_on generalizing body msg with
    | _ length ih =>
        by_cases hBody : body = []
        · subst hBody
          cases hParse
        · by_cases hFits : 4 + attrLenOf body ≤ body.length
          · by_cases hBad :
                BadError (atrTypeOf body) (attrLenOf body)
            · exact ⟨body, .refl body, hFits, hBad⟩
            · have hContent :
                  attrLenOf body ≤ (body.drop 4).length := by
                rw [List.length_drop]
                omega
              rcases checkAttribute_cases hContent hBad msg
                with ⟨parsed, _, hOne, hSome⟩
              rw [stunParseAttributes_whole beyond msg hFits,
                hOne] at hParse
              cases parsed with
              | none => cases hParse
              | some next =>
                  have hShorter :
                      (body.drop
                        (4 + attrLenOf body)).length <
                        length := by
                    rw [List.length_drop]
                    omega
                  rcases ih _ hShorter _ _ hParse rfl with
                    ⟨rest, hReaches, hOverrun⟩
                  exact
                    ⟨rest,
                      .skip hFits (hSome.mp rfl) hReaches,
                      hOverrun⟩
          · rw [stunParseAttributes_cut beyond msg hBody hFits]
              at hParse
            cases hParse
  · rintro ⟨rest, hReaches, hOverrun⟩
    induction hReaches generalizing msg with
    | refl body =>
        refine ⟨.copyWrite, ?_⟩
        rw [stunParseAttributes_whole beyond msg hOverrun.1,
          stunParseAttribute_badError hOverrun.2]
        rfl
    | skip hFits hAccepts _ ih =>
        rename_i body rest _
        rw [stunParseAttributes_whole beyond msg hFits]
        by_cases hBad :
            BadError (atrTypeOf body) (attrLenOf body)
        · rw [stunParseAttribute_badError hBad]
          exact ⟨_, rfl⟩
        · have hContent :
              attrLenOf body ≤ (body.drop 4).length := by
            rw [List.length_drop]
            omega
          rcases checkAttribute_cases hContent hBad msg with
            ⟨parsed, _, hOne, hSome⟩
          rcases Option.isSome_iff_exists.mp
            (hSome.mpr hAccepts) with ⟨next, rfl⟩
          rw [hOne]
          exact ih next hOverrun

------------------------------------------------------------
-- Whole Messages
------------------------------------------------------------

/- The parser of the message gets to such an error code. -/
def Overruns (msgbuf : List UInt8) : Prop :=
  sizeofStunMsgHdr ≤ msgbuf.length ∧
    (shortAt msgbuf 2).toNat + sizeofStunMsgHdr =
      msgbuf.length ∧
    ∃ rest,
      Reaches (msgbuf.drop sizeofStunMsgHdr) rest ∧
        OverrunAt rest

/-
  A message is taken exactly when it is one; its mapped
  address is then the last one among its attributes, or zero.
-/
theorem recvStunMessage_eq_some_iff
    (beyond msgbuf : List UInt8)
    (ipv4 : StunAddress4) :
    (∃ resp,
        recvStunMessage beyond msgbuf = .ok (some resp) ∧
          resp.mappedIpv4 = ipv4) ↔
      ∃ atrs, IsStun msgbuf atrs ∧
        (mappedAddresses atrs).getLastD ⟨0, 0⟩ = ipv4 := by
  unfold recvStunMessage stunParseMessage
  constructor
  · rintro ⟨resp, hParse, rfl⟩
    split at hParse
    · cases hParse
    · rename_i hHeader
      simp only at hParse
      split at hParse
      · cases hParse
      · rename_i hLength
        rcases attributes_of_parse hParse with ⟨atrs, hAtrs⟩
        rcases hAtrs.parse beyond
            { StunMessage.zero with
              msgHdr := msgHdrOf msgbuf } with
          ⟨other, hOther, hIpv4⟩
        have hSame := hParse.symm.trans hOther
        cases hSame
        exact
          ⟨atrs,
            ⟨by omega, not_not.mp hLength, hAtrs⟩,
            hIpv4.symm⟩
  · rintro ⟨atrs, ⟨hHeader, hLength, hAtrs⟩, rfl⟩
    rcases hAtrs.parse beyond
        { StunMessage.zero with
          msgHdr := msgHdrOf msgbuf } with
      ⟨resp, hParse, hIpv4⟩
    refine ⟨resp, ?_, hIpv4⟩
    rw [if_neg (by omega)]
    simp only
    rw [if_neg (not_not.mpr hLength)]
    exact hParse

/- It faults exactly when it gets to a bad error code. -/
theorem recvStunMessage_error_iff
    (beyond msgbuf : List UInt8) :
    (∃ fault,
        recvStunMessage beyond msgbuf = .error fault) ↔
      Overruns msgbuf := by
  unfold recvStunMessage stunParseMessage Overruns
  by_cases hHeader : sizeofStunMsgHdr > msgbuf.length
  · rw [if_pos hHeader]
    refine iff_of_false (by rintro ⟨_, hEq⟩; cases hEq) ?_
    rintro ⟨hLong, _⟩
    omega
  · rw [if_neg hHeader]
    by_cases hLength :
        (shortAt msgbuf 2).toNat + sizeofStunMsgHdr =
          msgbuf.length
    · simp only [if_neg (not_not.mpr hLength)]
      rw [stunParseAttributes_error_iff]
      constructor
      · intro hReach
        exact ⟨by omega, hLength, hReach⟩
      · exact fun hAll => hAll.2.2
    · simp only [if_pos hLength]
      refine iff_of_false (by rintro ⟨_, hEq⟩; cases hEq) ?_
      rintro ⟨_, hEq, _⟩
      exact hLength hEq

------------------------------------------------------------
-- What Is Learned
------------------------------------------------------------

/-
  The node has learned the address: it is its external one,
  the traversal is done, and the callback is called with it.
-/
def Endpoint.Learned
    (s : Endpoint σ)
    (ipv4 : StunAddress4)
    (s' : Endpoint σ)
    (outputs : List Output) : Prop :=
  ∃ externalAddr : SockaddrStorage,
    externalAddr.ssFamily = afInet ∧
      getSockaddrPort externalAddr = ipv4.port.toNat ∧
      ByteSeq.slice externalAddr.ssData.toList 2 4 =
        ByteSeq.be32 ipv4.addr ∧
      s' =
        { s with
          localSocketID :=
            { s.localSocketID with
              externalAddr := externalAddr }
          natTraversal := true } ∧
      outputs = [.receiveSocketID s'.localSocketID]

/- The step that stores an address learns exactly that one. -/
theorem Endpoint.learned_learn
    {p : Platform}
    {inetPton : InetPton}
    (hPrints : PrintsIpv4 p inetPton)
    (s : Endpoint σ)
    (ipv4 : StunAddress4) :
    s.Learned ipv4 (s.learn p inetPton ipv4).1
      (s.learn p inetPton ipv4).2 := by
  have hLength : (ByteSeq.be32 ipv4.addr).length = 4 := rfl
  have hFamily := hPrints.family _ hLength
  have hPton := hPrints.pton _ hLength
  generalize hExternal :
    s.localSocketID.externalAddr.initSockaddr p inetPton
      ipv4.port.toNat
      (p.inetNtop afInet (ByteSeq.be32 ipv4.addr)) =
      externalAddr
  have hStored := hExternal.symm
  unfold SockaddrStorage.initSockaddr
    SockaddrStorage.storeIp at hStored
  simp only [hFamily, if_true, hPton] at hStored
  have hInet : externalAddr.ssFamily = afInet := by
    rw [hStored]
    rfl
  refine ⟨externalAddr, hInet, ?_, ?_, ?_, ?_⟩
  · have hBound := ipv4.port.toNat_lt
    have hPort (i : Nat) (hLt : i < 2) :
        externalAddr.ssData[i] =
          (portBytes ipv4.port.toNat).getD i 0 := by
      have hPair : (portBytes ipv4.port.toNat).length = 2 :=
        rfl
      rw [hStored, SockaddrStorage.getElem_store,
        if_neg (by omega), SockaddrStorage.getElem_store,
        if_pos (by omega), Nat.sub_zero]
    unfold getSockaddrPort
    rw [if_pos (Or.inl hInet), hPort 0 (by decide),
      hPort 1 (by decide)]
    simp only [portBytes, List.getD_cons_zero,
      List.getD_cons_succ, UInt8.toNat_ofNat']
    omega
  · apply List.ext_getElem?
    intro k
    rw [ByteSeq.getElem?_slice]
    by_cases hLt : k < 4
    · rw [if_pos hLt, hStored,
        List.getElem?_eq_getElem (by simp; omega),
        List.getElem?_eq_getElem (by omega),
        Vector.getElem_toList, SockaddrStorage.getElem_store,
        if_pos (by omega), Nat.add_sub_cancel_left,
        List.getD_eq_getElem _ _ (by omega)]
    · rw [if_neg hLt, List.getElem?_eq_none (by omega)]
  · unfold Endpoint.learn
    simp only [hExternal]
  · rfl

/-
  What `recv_stun_msg` is for: an answer with a mapped
  address makes the last one the external address; any other
  datagram changes nothing.
-/
def LearnsMapped
    (s : Endpoint σ)
    (msgbuf : List UInt8)
    (result : StepResult σ) : Prop :=
  ∃ s' outputs, result = .ok (s', outputs) ∧
    ((∃ atrs ipv4, IsStun msgbuf atrs ∧
        (mappedAddresses atrs).getLast? = some ipv4 ∧
        s.Learned ipv4 s' outputs) ∨
      ((∀ atrs, IsStun msgbuf atrs →
          mappedAddresses atrs = []) ∧
        s' = s ∧ outputs = []))

/-
  It does that for a datagram exactly when the parser does
  not run out of its arrays over it, and a mapped address is
  there if it is a STUN message.
-/
theorem recv_stun_msg_learns_iff
    {p : Platform}
    {inetPton : InetPton}
    (hPrints : PrintsIpv4 p inetPton)
    (s : Endpoint σ)
    (beyond msgbuf : List UInt8) :
    LearnsMapped s msgbuf
        (s.recvStunMsg p inetPton beyond msgbuf) ↔
      ¬ Overruns msgbuf ∧
        ∀ atrs, IsStun msgbuf atrs →
          mappedAddresses atrs ≠ [] := by
  have hSome := recvStunMessage_eq_some_iff beyond msgbuf
  have hError := recvStunMessage_error_iff beyond msgbuf
  unfold Endpoint.recvStunMsg LearnsMapped
  cases hRecv : recvStunMessage beyond msgbuf with
  | error fault =>
      refine iff_of_false ?_ ?_
      · rintro ⟨_, _, hEq, _⟩
        cases hEq
      · rintro ⟨hNot, _⟩
        exact hNot (hError.mp ⟨fault, hRecv⟩)
  | ok parsed =>
      have hNot : ¬ Overruns msgbuf := by
        intro hOverruns
        rcases hError.mpr hOverruns with ⟨fault, hFault⟩
        rw [hFault] at hRecv
        cases hRecv
      cases parsed with
      | none =>
          have hNone (atrs : List StunAttribute) :
              ¬ IsStun msgbuf atrs := by
            intro hStun
            rcases (hSome _).mpr ⟨atrs, hStun, rfl⟩ with
              ⟨resp, hResp, _⟩
            rw [hResp] at hRecv
            cases hRecv
          exact
            iff_of_true
              ⟨s, [], rfl,
                Or.inr
                  ⟨fun atrs hStun =>
                    absurd hStun (hNone atrs), rfl, rfl⟩⟩
              ⟨hNot, fun atrs hStun =>
                absurd hStun (hNone atrs)⟩
      | some resp =>
          rcases (hSome _).mp ⟨resp, hRecv, rfl⟩ with
            ⟨atrs, hStun, hLast⟩
          have hOnly (atrs' : List StunAttribute)
              (hStun' : IsStun msgbuf atrs') :
              atrs' = atrs :=
            hStun'.attributes.unique hStun.attributes
          constructor
          · rintro ⟨s', outputs, hEq, hOutcome⟩
            refine ⟨hNot, ?_⟩
            intro atrs' hStun'
            rw [hOnly atrs' hStun']
            rcases hOutcome with
              ⟨taken, ipv4, hTaken, hIpv4, _⟩ |
                ⟨_, _, hOutputs⟩
            · rw [hOnly taken hTaken] at hIpv4
              intro hEmpty
              rw [hEmpty] at hIpv4
              cases hIpv4
            · cases hEq
              cases hOutputs
          · rintro ⟨_, hMapped⟩
            refine ⟨_, _, rfl, Or.inl ?_⟩
            refine ⟨atrs, resp.mappedIpv4, hStun, ?_, ?_⟩
            · rw [← hLast,
                List.getLastD_eq_getLast?,
                List.getLast?_eq_some_getLast
                  (hMapped atrs hStun)]
              rfl
            · exact s.learned_learn hPrints _

------------------------------------------------------------
-- An Answer Without A Mapped Address
------------------------------------------------------------

namespace Sample

/- A binding response without any attribute. -/
def bareAnswer : List UInt8 :=
  [0x01, 0x01, 0x00, 0x00] ++ List.replicate 16 0

/- The same with the mapped address 1.2.3.4, port 80. -/
def mappedAnswer : List UInt8 :=
  [0x01, 0x01, 0x00, 0x0C] ++ List.replicate 16 0 ++
    [0x00, 0x01, 0x00, 0x08, 0x00, 0x01, 0x00, 0x50,
      0x01, 0x02, 0x03, 0x04]

/- The digits of a byte hold no dot. -/
theorem digits_byte :
    (List.range 256).all (fun n =>
      decide ('.' ∉ (toString n).toList)) = true := by
  decide +kernel

/- What is printed in dotted notation is read back. -/
theorem printsIpv4 : PrintsIpv4 platform readDotted where
  family _ _ := rfl
  pton bytes hLength := by
    have hByte (b : UInt8) :
        '.' ∉ (toString b.toNat).toList := by
      have hAll := List.all_eq_true.mp digits_byte b.toNat
        (List.mem_range.mpr b.toNat_lt)
      simpa using hAll
    have hWords :
        (dotted bytes).splitOn '.' =
          bytes.map (fun b => (toString b.toNat).toList) := by
      apply List.splitOn_intercalate
      · intro word hWord
        rcases List.mem_map.mp hWord with ⟨b, _, rfl⟩
        exact hByte b
      · intro hNil
        rw [List.map_eq_nil_iff.mp hNil] at hLength
        cases hLength
    unfold readDotted platform
    simp only
    rw [hWords, List.map_map]
    congr 1
    rw [List.map_congr_left (g := id)]
    · exact List.map_id _
    · intro b _
      simp

/- An answer with a mapped address is one attribute. -/
theorem isStun_mappedAnswer :
    IsStun mappedAnswer
      [(Stun.mappedAddress,
        [0x00, 0x01, 0x00, 0x50, 0x01, 0x02, 0x03,
          0x04])] where
  header := by decide
  msgLength := by decide
  attributes := by
    refine .cons (by decide +kernel) ?_ ?_ .nil
    · exact (accepts_address (by decide)).mpr (by decide)
    · rintro ⟨hType, _⟩
      revert hType
      decide

end Sample

/-
  A binding response without attributes sets the external
  address to 0.0.0.0, port 0, and calls the callback.
-/
theorem bare_answer_erases_address :
    IsStun Sample.bareAnswer [] ∧
      mappedAddresses [] = [] ∧
      ∃ s',
        Sample.node.recvStunMsg Sample.platform
            Sample.readDotted [] Sample.bareAnswer =
          .ok (s', [.receiveSocketID s'.localSocketID]) ∧
        getSockaddrIp Sample.platform
            Sample.node.localSocketID.externalAddr =
          "10.0.0.1".toList ∧
        getSockaddrIp Sample.platform
            s'.localSocketID.externalAddr =
          "0.0.0.0".toList ∧
        getSockaddrPort s'.localSocketID.externalAddr = 0 := by
  refine
    ⟨⟨by decide, by decide, .nil⟩, rfl,
      (Sample.node.learn Sample.platform Sample.readDotted
        ⟨0, 0⟩).1, rfl, ?_, ?_, ?_⟩
  · decide +kernel
  · decide +kernel
  · decide +kernel

/- An answer with a mapped address is learned. -/
theorem recv_stun_msg_learns_mapped :
    LearnsMapped Sample.node Sample.mappedAnswer
      (Sample.node.recvStunMsg Sample.platform
        Sample.readDotted [] Sample.mappedAnswer) := by
  apply
    (recv_stun_msg_learns_iff Sample.printsIpv4 Sample.node []
      Sample.mappedAnswer).mpr
  constructor
  · intro hOverruns
    rcases
      (recvStunMessage_error_iff [] Sample.mappedAnswer).mpr
        hOverruns with ⟨fault, hFault⟩
    rcases
      (recvStunMessage_eq_some_iff [] Sample.mappedAnswer _).mpr
        ⟨_, Sample.isStun_mappedAnswer, rfl⟩ with
      ⟨resp, hResp, _⟩
    rw [hResp] at hFault
    cases hFault
  · intro atrs hStun
    rw [hStun.attributes.unique
      Sample.isStun_mappedAnswer.attributes]
    decide

end ML

end NapaBaselibs
