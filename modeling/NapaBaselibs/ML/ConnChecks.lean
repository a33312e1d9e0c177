import NapaBaselibs.ML.Sample

/-
  The tests that a connection message has to pass: the
  comparison of the addresses it claims with the one it came
  from, and its length.

  Key definitions include:
    * `AddrsAgree`, `ShareBit`, `ToldApart`
    * `ConnMsg.ClaimsSender`
    * `callsDataInfCb`
    * `ConnMsg.Ignored`

  Key theorems include:
    * `mlCompareAddr_eq_zero_iff`
    * `mlCompareAddr_agrees_iff`
    * `recvConnMsg_eq_self_iff`
    * `short_conn_msg_inert_iff`
-/

------------------------------------------------------------
-- Comparing Addresses
------------------------------------------------------------

namespace NapaBaselibs

namespace ML

variable {σ α : Type}
variable (p : Platform)

/-
  What the comparison is for: the two addresses print alike,
  or one of them has no printed form to compare.
-/
def AddrsAgree (addr₁ addr₂ : SockaddrStorage) : Prop :=
  getSockaddrIp p addr₁ = getSockaddrIp p addr₂ ∨
    getSockaddrIp p addr₁ = [] ∨ getSockaddrIp p addr₂ = []

/- Some bit is set in all three words. -/
def ShareBit (x y z : Int32) : Prop :=
  ∃ i < 32,
    x.toBitVec.getLsbD i = true ∧
      y.toBitVec.getLsbD i = true ∧
      z.toBitVec.getLsbD i = true

/-
  The three results of `strcmp` for a pair of addresses have
  a bit in common.
-/
def ToldApart (addr₁ addr₂ : SockaddrStorage) : Prop :=
  ShareBit
    (p.strcmp (getSockaddrIp p addr₁)
      (getSockaddrIp p addr₂))
    (p.strcmp (getSockaddrIp p addr₁) [])
    (p.strcmp (getSockaddrIp p addr₂) [])

/- The conjunction of three words has the bits they share. -/
theorem and_and_eq_zero_iff
    (x y z : Int32) :
    x &&& y &&& z = 0 ↔ ¬ ShareBit x y z := by
  rw [← Int32.toBitVec_inj]
  unfold ShareBit
  constructor
  · rintro hZero ⟨i, _, hX, hY, hZ⟩
    have hBit := congrArg (fun v => v.getLsbD i) hZero
    simp [hX, hY, hZ] at hBit
  · intro hNone
    apply BitVec.eq_of_getLsbD_eq
    intro i hLt
    rw [Int32.toBitVec_and, Int32.toBitVec_and,
      BitVec.getLsbD_and, BitVec.getLsbD_and]
    by_contra hBit
    apply hNone
    refine ⟨i, hLt, ?_⟩
    simpa [and_assoc] using hBit

/- Addresses compare equal unless they are told apart. -/
theorem mlCompareAddr_eq_zero_iff
    (addr₁ addr₂ : SockaddrStorage) :
    mlCompareAddr p addr₁ addr₂ = 0 ↔
      ¬ ToldApart p addr₁ addr₂ :=
  and_and_eq_zero_iff _ _ _

/- A word that is zero shares no bit. -/
theorem ShareBit.ne_zero
    {x y z : Int32}
    (hShare : ShareBit x y z) :
    x ≠ 0 ∧ y ≠ 0 ∧ z ≠ 0 := by
  rcases hShare with ⟨i, _, hX, hY, hZ⟩
  refine ⟨?_, ?_, ?_⟩
  · rintro rfl
    simp at hX
  · rintro rfl
    simp at hY
  · rintro rfl
    simp at hZ

/- Addresses that agree are never told apart. -/
theorem ToldApart.not_agree
    {addr₁ addr₂ : SockaddrStorage}
    (hApart : ToldApart p addr₁ addr₂) :
    ¬ AddrsAgree p addr₁ addr₂ := by
  rcases hApart.ne_zero with ⟨hBoth, hFirst, hSecond⟩
  rw [Ne, p.strcmp_eq_zero_iff] at hBoth hFirst hSecond
  rintro (hEq | hEmpty | hEmpty)
  · exact hBoth hEq
  · exact hFirst hEmpty
  · exact hSecond hEmpty

------------------------------------------------------------
-- Checking The Claimed Addresses
------------------------------------------------------------

/- One of the claimed addresses compares equal. -/
def ConnMsg.ClaimsSender
    (conMsg : ConnMsg)
    (recvAddr : SockaddrStorage) : Prop :=
  mlCompareAddr p conMsg.sockId.internalAddr recvAddr = 0 ∨
    mlCompareAddr p conMsg.sockId.externalAddr recvAddr = 0

instance
    (conMsg : ConnMsg)
    (recvAddr : SockaddrStorage) :
    Decidable (conMsg.ClaimsSender p recvAddr) :=
  inferInstanceAs (Decidable (_ ∨ _))

/- Too short, as `recv_conn_msg` compares without a sign. -/
def IsShort (msgSize : Int) : Prop :=
  0 ≤ msgSize ∧ msgSize < connMsgSize

instance : DecidablePred IsShort := fun _ =>
  inferInstanceAs (Decidable (_ ∧ _))

/-
  The hook of the monitoring module for received data is
  called, if there is one, with the connection messages that
  pass the tests, whatever their command.
-/
def callsDataInfCb
    (getRecvDataInfCb : Bool)
    (conMsg : ConnMsg)
    (msgSize : Int)
    (recvAddr : SockaddrStorage) : Bool :=
  getRecvDataInfCb && !decide (IsShort msgSize) &&
    decide (conMsg.ClaimsSender p recvAddr)

/- The command that is acted on, by the tests before. -/
theorem acceptedCommand_eq
    (conMsg : ConnMsg)
    (msgSize : Int)
    (recvAddr : SockaddrStorage) :
    acceptedCommand p conMsg msgSize recvAddr =
      if IsShort msgSize then
        none
      else if conMsg.ClaimsSender p recvAddr then
        ConMsgType.ofCode? conMsg.comandType
      else
        none := by
  unfold acceptedCommand ConnMsg.ClaimsSender
  change (if IsShort msgSize then none else _) = _
  by_cases hShort : IsShort msgSize
  · rw [if_pos hShort, if_pos hShort]
  · rw [if_neg hShort, if_neg hShort]
    by_cases hInternal :
        mlCompareAddr p conMsg.sockId.internalAddr recvAddr =
          0
    · simp [hInternal]
    · by_cases hExternal :
          mlCompareAddr p conMsg.sockId.externalAddr
            recvAddr = 0
      · simp [hExternal]
      · simp [hInternal, hExternal]

/-
  The message goes no further than the tests: its command is
  not looked at and the hook is not called.
-/
def Dropped
    (conMsg : ConnMsg)
    (msgSize : Int)
    (recvAddr : SockaddrStorage) : Prop :=
  acceptedCommand p conMsg msgSize recvAddr = none ∧
    callsDataInfCb p true conMsg msgSize recvAddr = false

/- What is dropped is short or claims another sender. -/
theorem dropped_iff
    (conMsg : ConnMsg)
    (msgSize : Int)
    (recvAddr : SockaddrStorage) :
    Dropped p conMsg msgSize recvAddr ↔
      IsShort msgSize ∨ ¬ conMsg.ClaimsSender p recvAddr := by
  unfold Dropped callsDataInfCb
  rw [acceptedCommand_eq]
  by_cases hShort : IsShort msgSize
  · simp [hShort]
  · by_cases hClaims : conMsg.ClaimsSender p recvAddr
    · simp [hShort, hClaims]
    · simp [hShort, hClaims]

/- A dropped message has no effect. -/
theorem recvConnMsg_of_dropped
    {p : Platform}
    {T : Transport σ α}
    (input : SendInput α)
    (s : Endpoint σ)
    (msgH : MsgHeader)
    {msgbuf : List UInt8}
    {msgSize : Int}
    {recvAddr : SockaddrStorage}
    (hDropped :
      Dropped p
        (ConnMsg.decode p
          (msgbuf.drop msgH.lenMonDataHdr.toNat))
        (msgSize - msgH.lenMonDataHdr.toNat) recvAddr) :
    recvConnMsg p T input s msgH msgbuf msgSize recvAddr =
      .ok (s, []) := by
  unfold recvConnMsg
  simp only [hDropped.1]

/- Some claimed address compares equal unless both differ. -/
theorem not_claimsSender_iff
    (conMsg : ConnMsg)
    (recvAddr : SockaddrStorage) :
    ¬ conMsg.ClaimsSender p recvAddr ↔
      ToldApart p conMsg.sockId.internalAddr recvAddr ∧
        ToldApart p conMsg.sockId.externalAddr recvAddr := by
  unfold ConnMsg.ClaimsSender
  rw [mlCompareAddr_eq_zero_iff, mlCompareAddr_eq_zero_iff,
    not_or, not_not, not_not]

/-
  The address comparison is right for a pair exactly when the
  results of `strcmp` tell the pair apart or it agrees; what
  rests on it, the test of the claimed addresses and the
  choice of the internal address, is right in the same cases.
-/
theorem mlCompareAddr_agrees_iff
    (T : Transport σ α) :
    (∀ addr₁ addr₂ : SockaddrStorage,
      (mlCompareAddr p addr₁ addr₂ = 0 ↔
          AddrsAgree p addr₁ addr₂) ↔
        (AddrsAgree p addr₁ addr₂ ∨
          ToldApart p addr₁ addr₂)) ∧
    (∀ (conMsg : ConnMsg) (msgSize : Int)
        (recvAddr : SockaddrStorage),
      (¬ AddrsAgree p conMsg.sockId.internalAddr recvAddr ∧
          ¬ AddrsAgree p conMsg.sockId.externalAddr
            recvAddr →
          Dropped p conMsg msgSize recvAddr) ↔
        (AddrsAgree p conMsg.sockId.internalAddr recvAddr ∨
          AddrsAgree p conMsg.sockId.externalAddr
            recvAddr ∨
          IsShort msgSize ∨
          (ToldApart p conMsg.sockId.internalAddr recvAddr ∧
            ToldApart p conMsg.sockId.externalAddr
              recvAddr))) ∧
    (∀ (input : SendInput α) (s : Endpoint σ)
        (msgH : MsgHeader) (msgbuf : List UInt8)
        (msgSize : Int) (recvAddr : SockaddrStorage),
      let conMsg :=
        ConnMsg.decode p
          (msgbuf.drop msgH.lenMonDataHdr.toNat)
      ToldApart p conMsg.sockId.internalAddr recvAddr →
      ToldApart p conMsg.sockId.externalAddr recvAddr →
      recvConnMsg p T input s msgH msgbuf msgSize recvAddr =
        .ok (s, [])) ∧
    (∀ (msgH : MsgHeader) (conMsg : ConnMsg)
        (recvAddr : SockaddrStorage),
      ((ConnectData.ofInvite p msgH conMsg
            recvAddr).internalConnect = true →
          AddrsAgree p conMsg.sockId.internalAddr
            recvAddr) ↔
        (AddrsAgree p conMsg.sockId.internalAddr recvAddr ∨
          ToldApart p conMsg.sockId.internalAddr
            recvAddr)) ∧
    (∀ (localSocketID externalSocketID : SocketID)
        (cb : ConnectionCb) (keepalive : Int),
      ((ConnectData.ofOpen p localSocketID externalSocketID
            cb keepalive).internalConnect = true →
          AddrsAgree p externalSocketID.externalAddr
            localSocketID.externalAddr) ↔
        (AddrsAgree p externalSocketID.externalAddr
            localSocketID.externalAddr ∨
          ToldApart p externalSocketID.externalAddr
            localSocketID.externalAddr)) := by
  have hChosen (addr₁ addr₂ : SockaddrStorage) :
      (decide (mlCompareAddr p addr₁ addr₂ = 0) = true →
          AddrsAgree p addr₁ addr₂) ↔
        (AddrsAgree p addr₁ addr₂ ∨
          ToldApart p addr₁ addr₂) := by
    rw [decide_eq_true_iff, mlCompareAddr_eq_zero_iff,
      or_comm, or_iff_not_imp_left]
  refine
    ⟨?_, ?_, ?_, fun _ _ _ => hChosen _ _,
      fun _ _ _ _ => hChosen _ _⟩
  · intro addr₁ addr₂
    rw [← hChosen, decide_eq_true_iff]
    constructor
    · exact Iff.mp
    · intro hRight
      refine ⟨hRight, ?_⟩
      intro hAgree
      rw [mlCompareAddr_eq_zero_iff]
      intro hApart
      exact hApart.not_agree p hAgree
  · intro conMsg msgSize recvAddr
    rw [dropped_iff, not_claimsSender_iff,
      ← or_assoc (a := AddrsAgree p _ _),
      or_iff_not_imp_left (a := AddrsAgree p _ _ ∨ _),
      not_or]
  · intro input s msgH msgbuf msgSize recvAddr conMsg
      hInternal hExternal
    apply recvConnMsg_of_dropped
    rw [dropped_iff, not_claimsSender_iff]
    exact Or.inr ⟨hInternal, hExternal⟩

/-
  A `strcmp` that returns the difference of the first bytes
  that differ.  Strings hold no zero; the tests for one only
  make the function total.
-/
def byteDifference : CString → CString → Int32
| [], [] => 0
| [], d :: _ =>
    if d.toNat = 0 then -1 else 0 - Int32.ofNat d.toNat
| c :: _, [] =>
    if c.toNat = 0 then 1 else Int32.ofNat c.toNat
| c :: cs, d :: ds =>
    if c = d then byteDifference cs ds
    else Int32.ofNat c.toNat - Int32.ofNat d.toNat

/- The code of a character as an `int`. -/
theorem ofNat_toNat_inj
    {c d : Char}
    (hEq : Int32.ofNat c.toNat = Int32.ofNat d.toNat) :
    c.toNat = d.toNat := by
  have hSmall (c : Char) : c.toNat < 2 ^ 31 := by
    have hValid := c.valid
    have hVal : c.toNat = c.val.toNat := rfl
    unfold UInt32.isValidChar Nat.isValidChar at hValid
    omega
  have hInt := congrArg Int32.toInt hEq
  rw [Int32.toInt_ofNat_of_lt (hSmall c),
    Int32.toInt_ofNat_of_lt (hSmall d)] at hInt
  exact_mod_cast hInt

theorem byteDifference_eq_zero_iff
    (a b : CString) :
    byteDifference a b = 0 ↔ a = b := by
  induction a generalizing b with
  | nil =>
      cases b with
      | nil => simp [byteDifference]
      | cons d ds =>
          simp only [byteDifference, reduceCtorEq, iff_false]
          split
          · decide
          · rename_i hNe
            intro hZero
            apply hNe
            rw [Int32.sub_eq_iff_eq_add, Int32.zero_add]
              at hZero
            have hCode :=
              @ofNat_toNat_inj (Char.ofNat 0) d hZero
            exact hCode.symm
  | cons c cs ih =>
      cases b with
      | nil =>
          simp only [byteDifference, reduceCtorEq, iff_false]
          split
          · decide
          · rename_i hNe
            intro hZero
            apply hNe
            exact @ofNat_toNat_inj c (Char.ofNat 0) hZero
      | cons d ds =>
          simp only [byteDifference, List.cons.injEq]
          split
          · rename_i hSame
            simp [hSame, ih]
          · rename_i hNe
            simp only [hNe, false_and, iff_false]
            intro hZero
            rw [Int32.sub_eq_iff_eq_add, Int32.zero_add]
              at hZero
            exact
              hNe (Char.toNat_inj.mp (ofNat_toNat_inj hZero))

/- The sample host with this `strcmp`. -/
def Sample.bytePlatform : Platform :=
  { Sample.platform with
    strcmp := byteDifference
    strcmp_eq_zero_iff := byteDifference_eq_zero_iff }

/-
  The addresses `10.0.0.3` and `10.0.0.1` compare equal: the
  last digits differ by 2, a bit that their first digit, 1,
  does not have.  An `INVITE` that claims to be from the
  first is accepted from the second.
-/
theorem mlCompareAddr_byteDifference :
    mlCompareAddr Sample.bytePlatform (Sample.address 3)
        (Sample.address 1) = 0 ∧
      ¬ AddrsAgree Sample.bytePlatform (Sample.address 3)
        (Sample.address 1) ∧
      acceptedCommand Sample.bytePlatform
          { comandType := ConMsgType.invite.code
            pmtuSize := 1372
            sockId := Sample.socketID 3 }
          connMsgSize (Sample.address 1) = some .invite := by
  refine ⟨by decide +kernel, ?_, by decide +kernel⟩
  unfold AddrsAgree
  decide +kernel

------------------------------------------------------------
-- Answers That Leave No Trace
------------------------------------------------------------

variable {p}
variable {T : Transport σ α}

/- The entry when an answer is started. -/
def ConnectData.answering (con : ConnectData) : ConnectData :=
  { con with trials := 1, timeoutEvent := true }

/- An answer that is too small is not sent. -/
theorem sendConnMsgWithPmtuDiscovery_of_isShort
    {input : SendInput α}
    {s : Endpoint σ}
    {conId : ConId}
    {con : ConnectData}
    {bufSize : Int}
    (command : ConMsgType)
    (hCon : s.connectbuf conId = some con)
    (hShort : IsShort bufSize) :
    sendConnMsgWithPmtuDiscovery p T input s conId bufSize
        command = .ok (s.setCon conId con.answering, []) := by
  unfold sendConnMsgWithPmtuDiscovery sendAndReschedule
    sendConnMsg
  change 0 ≤ bufSize ∧ bufSize < connMsgSize at hShort
  simp only [derefCon, hCon, hShort, and_self, if_true,
    rescheduleConnMsg, Endpoint.setCon_connectbuf,
    SlotTable.set_self, Endpoint.setCon_setCon]
  rfl

/- Any other answer takes a sequence number. -/
theorem sendConnMsgWithPmtuDiscovery_seqnr
    {input : SendInput α}
    {s s' : Endpoint σ}
    {conId : ConId}
    {con : ConnectData}
    {bufSize : Int}
    {command : ConMsgType}
    {outputs : List Output}
    (hCon : s.connectbuf conId = some con)
    (hNot : ¬ IsShort bufSize)
    (hSend :
      sendConnMsgWithPmtuDiscovery p T input s conId bufSize
          command = .ok (s', outputs)) :
    ∃ con', s'.connectbuf conId = some con' ∧
      con'.seqnr = con.seqnr + 1 := by
  change ¬ (0 ≤ bufSize ∧ bufSize < connMsgSize) at hNot
  unfold sendConnMsgWithPmtuDiscovery sendAndReschedule
    sendConnMsg at hSend
  simp only [derefCon, hCon, Endpoint.setCon_connectbuf,
    SlotTable.set_self, hNot, if_false] at hSend
  split at hSend
  · cases hSend
  · rename_i hConn
    split at hConn
    · cases hConn
    · rename_i buf _
      rcases sendMsg_ok hConn with
        ⟨sent, pmtusize, delay, net, hSent, rfl, _⟩
      rw [Endpoint.setCon_connectbuf, SlotTable.set_self]
        at hSent
      cases hSent
      unfold rescheduleConnMsg derefCon at hSend
      simp only [Endpoint.setConNet_connectbuf,
        SlotTable.set_self] at hSend
      cases hSend
      exact ⟨_, SlotTable.set_self .., rfl⟩

/- Storing another entry changes the table. -/
theorem Endpoint.setCon_eq_self_iff
    {s : Endpoint σ}
    {conId : ConId}
    {con : ConnectData}
    (new : ConnectData)
    (hCon : s.connectbuf conId = some con) :
    s.setCon conId new = s ↔ new = con := by
  constructor
  · intro hEq
    have hAt := congrArg (fun t => t.connectbuf conId) hEq
    simp only [Endpoint.setCon_connectbuf,
      SlotTable.set_self, hCon] at hAt
    exact Option.some.inj hAt
  · rintro rfl
    exact
      congrArg (fun t => { s with connectbuf := t })
        (SlotTable.set_eq_self hCon)

/-
  An answer over a changed entry has no effect exactly when
  it is too small and the entry is as it was.
-/
theorem answer_eq_self_iff
    {input : SendInput α}
    {s : Endpoint σ}
    {conId : ConId}
    {con : ConnectData}
    (new : ConnectData)
    (bufSize : Int)
    (command : ConMsgType)
    (hCon : s.connectbuf conId = some con)
    (hSeqnr : new.seqnr = con.seqnr) :
    sendConnMsgWithPmtuDiscovery p T input
          (s.setCon conId new) conId bufSize command =
        .ok (s, []) ↔
      IsShort bufSize ∧ new.answering = con := by
  have hNew : (s.setCon conId new).connectbuf conId =
      some new :=
    SlotTable.set_self ..
  by_cases hShort : IsShort bufSize
  · rw [sendConnMsgWithPmtuDiscovery_of_isShort command hNew
      hShort, Endpoint.setCon_setCon]
    simp only [hShort, true_and, Except.ok.injEq,
      Prod.mk.injEq, and_true]
    exact Endpoint.setCon_eq_self_iff _ hCon
  · simp only [hShort, false_and, iff_false]
    intro hSend
    rcases sendConnMsgWithPmtuDiscovery_seqnr hNew hShort
      hSend with ⟨con', hCon', hNext⟩
    rw [hCon] at hCon'
    cases hCon'
    rw [hSeqnr] at hNext
    have hInt := congrArg UInt32.toNat hNext
    rw [UInt32.toNat_add] at hInt
    have hBound := con.seqnr.toNat_lt
    have hOne : (1 : UInt32).toNat = 1 := rfl
    omega

/-
  An accepted message has no effect: its command is unknown,
  it is for a connection that does not exist, there is no
  room for a new one, or all that is left of it is an answer
  that is too small, over an entry that waits for just that.
  In the last case `timeout_value` is drawn again and the
  timer of the entry starts anew; an entry here has neither
  its length nor the time it has run.
-/
def ConnMsg.Ignored
    (p : Platform)
    (s : Endpoint σ)
    (msgH : MsgHeader)
    (conMsg : ConnMsg) : Prop :=
  let bufSize := toCInt conMsg.pmtuSize.toNat
  match ConMsgType.ofCode? conMsg.comandType with
  | none => True
  | some .invite =>
      match s.connectionOf p conMsg.sockId with
      | none => s.connectbuf.firstFree? = none
      | some (_, con) =>
          IsShort bufSize ∧
            ConnectData.answering
              { con with
                externalConnectionID := msgH.localConId
                status := .connect } = con
  | some .connect =>
      ∃ conId,
        connectbufAt msgH.remoteConId.toInt = .ok conId ∧
          ∀ con, s.connectbuf conId = some con →
            con.status ≠ .invite ∧ IsShort bufSize ∧
              con.answering = con
  | some .ready =>
      ∃ conId,
        connectbufAt msgH.remoteConId.toInt = .ok conId ∧
          ∀ con, s.connectbuf conId = some con →
            con.status ≠ .connect

/- An `INVITE` that has no effect. -/
theorem recvInvite_eq_self_iff
    {input : SendInput α}
    {s : Endpoint σ}
    (msgH : MsgHeader)
    (conMsg : ConnMsg)
    (recvAddr : SockaddrStorage) :
    recvInvite p T input s msgH conMsg recvAddr =
        .ok (s, []) ↔
      match s.connectionOf p conMsg.sockId with
      | none => s.connectbuf.firstFree? = none
      | some (_, con) =>
          IsShort (toCInt conMsg.pmtuSize.toNat) ∧
            ConnectData.answering
              { con with
                externalConnectionID := msgH.localConId
                status := .connect } = con := by
  unfold recvInvite
  cases hFind : s.connectionOf p conMsg.sockId with
  | some found =>
      rcases found with ⟨conId, con⟩
      exact
        answer_eq_self_iff _ _ _
          (Endpoint.of_connectionOf_eq_some hFind).1 rfl
  | none =>
      cases hFree : s.connectbuf.firstFree? with
      | none => simp
      | some conId =>
          simp only [reduceCtorEq, iff_false]
          intro hSend
          have hSent :=
            (sendConnMsgWithPmtuDiscovery_sent
              (SlotTable.set_self ..) hSend).of_setCon
          rcases hSent.1 with ⟨con', net, hSame, _⟩
          have hNone := SlotTable.free_of_firstFree? hFree
          rw [hSame, Endpoint.setConNet_connectbuf,
            SlotTable.set_self] at hNone
          cases hNone

/- A `CONNECT` that has no effect. -/
theorem recvConnect_eq_self_iff
    {input : SendInput α}
    {s : Endpoint σ}
    (msgH : MsgHeader)
    (conMsg : ConnMsg) :
    recvConnect p T input s msgH conMsg = .ok (s, []) ↔
      ∃ conId,
        connectbufAt msgH.remoteConId.toInt = .ok conId ∧
          ∀ con, s.connectbuf conId = some con →
            con.status ≠ .invite ∧
              IsShort (toCInt conMsg.pmtuSize.toNat) ∧
              con.answering = con := by
  unfold recvConnect
  cases hIndex : connectbufAt msgH.remoteConId.toInt with
  | error fault => simp
  | ok conId =>
      simp only [Except.ok.injEq, exists_eq_left']
      cases hCon : s.connectbuf conId with
      | none => simp
      | some con =>
          simp only [Option.some.injEq, forall_eq']
          by_cases hInvite : con.status = .invite
          · simp only [hInvite, if_true, ne_eq,
              not_true_eq_false, false_and, iff_false]
            intro hSend
            split at hSend
            · cases hSend
            · rename_i hAnswer
              have hSent :=
                (sendConnMsgWithPmtuDiscovery_sent
                  (SlotTable.set_self ..) hAnswer).of_setCon
              rcases hSent.1 with ⟨con', net, rfl, hLink⟩
              unfold derefCon at hSend
              simp only [Endpoint.setConNet_connectbuf,
                SlotTable.set_self, Endpoint.setConNet_setCon,
                Except.ok.injEq, Prod.mk.injEq] at hSend
              have hAt :=
                congrArg (fun t => t.connectbuf conId)
                  hSend.1
              simp only [Endpoint.setConNet_connectbuf,
                SlotTable.set_self, hCon, Option.some.injEq]
                at hAt
              have hStatus := congrArg ConnectData.status hAt
              rw [hInvite] at hStatus
              have hReady := hLink.status
              simp only at hStatus hReady
              rw [hReady] at hStatus
              cases hStatus
          · simp only [hInvite, if_false, ne_eq,
              not_false_eq_true, true_and]
            have hSame :=
              (Endpoint.setCon_eq_self_iff con hCon).mpr rfl
            have hAnswer :=
              @answer_eq_self_iff _ _ p T input _ _ _ con
                (toCInt conMsg.pmtuSize.toNat) .ready hCon
                rfl
            rw [hSame] at hAnswer
            exact hAnswer

/- A `READY` that has no effect. -/
theorem recvReady_eq_self_iff
    {s : Endpoint σ}
    (msgH : MsgHeader) :
    recvReady s msgH = .ok (s, []) ↔
      ∃ conId,
        connectbufAt msgH.remoteConId.toInt = .ok conId ∧
          ∀ con, s.connectbuf conId = some con →
            con.status ≠ .connect := by
  unfold recvReady
  cases hIndex : connectbufAt msgH.remoteConId.toInt with
  | error fault => simp
  | ok conId =>
      simp only [Except.ok.injEq, exists_eq_left']
      cases hCon : s.connectbuf conId with
      | none => simp
      | some con =>
          simp only [Option.some.injEq, forall_eq']
          by_cases hConnect : con.status = .connect
          · simp only [hConnect, if_true, ne_eq,
              not_true_eq_false, iff_false, Except.ok.injEq,
              Prod.mk.injEq, not_and]
            intro hSame
            have hEntry :=
              (Endpoint.setCon_eq_self_iff _ hCon).mp hSame
            have hStatus :=
              congrArg ConnectData.status hEntry
            rw [hConnect] at hStatus
            cases hStatus
          · simp [hConnect]

/- The commands acted on that have no effect. -/
theorem command_eq_self_iff
    {input : SendInput α}
    {s : Endpoint σ}
    (msgH : MsgHeader)
    (conMsg : ConnMsg)
    (recvAddr : SockaddrStorage) :
    (match ConMsgType.ofCode? conMsg.comandType with
      | some .invite =>
          recvInvite p T input s msgH conMsg recvAddr
      | some .connect => recvConnect p T input s msgH conMsg
      | some .ready => recvReady s msgH
      | none => .ok (s, [])) = .ok (s, []) ↔
      conMsg.Ignored p s msgH := by
  unfold ConnMsg.Ignored
  cases ConMsgType.ofCode? conMsg.comandType with
  | none => simp
  | some command =>
      cases command with
      | invite => exact recvInvite_eq_self_iff ..
      | connect => exact recvConnect_eq_self_iff ..
      | ready => exact recvReady_eq_self_iff _

/-
  The connection messages without effect are those that do
  not pass the tests and those that are ignored.
-/
theorem recvPkg_conn_eq_self_iff
    {input : SendInput α}
    {s : Endpoint σ}
    {r : Reception}
    (hClass : r.classify = .connection) :
    recvPkg p T input s r = .ok (s, []) ↔
      IsShort (r.msgSize - r.msgH.lenMonDataHdr.toNat) ∨
        ¬ (r.conMsg p).ClaimsSender p r.recvAddr ∨
        (r.conMsg p).Ignored p s r.msgH := by
  rw [recvPkg_connection hClass]
  unfold Reception.command
  rw [if_pos hClass, acceptedCommand_eq]
  by_cases hShort :
      IsShort (r.msgSize - r.msgH.lenMonDataHdr.toNat)
  · rw [if_pos hShort]
    exact iff_of_true rfl (Or.inl hShort)
  · rw [if_neg hShort]
    by_cases hClaims :
        (r.conMsg p).ClaimsSender p r.recvAddr
    · rw [if_pos hClaims, or_iff_right hShort,
        or_iff_right (not_not.mpr hClaims)]
      exact command_eq_self_iff ..
    · rw [if_neg hClaims]
      exact iff_of_true rfl (Or.inr (Or.inl hClaims))

/-
  A connection message whose content is too short is inert
  exactly when its data header fits into what is left, or the
  bytes behind the datagram, which are then read for a
  message, make one that claims another sender or is ignored.
-/
theorem short_conn_msg_inert_iff
    (getRecvDataInfCb : Bool)
    (input : SendInput α)
    (s : Endpoint σ)
    {r : Reception}
    (hClass : r.classify = .connection)
    (hShort :
      r.msgSize - r.msgH.lenMonDataHdr.toNat <
        connMsgSize) :
    (recvPkg p T input s r = .ok (s, []) ∧
        callsDataInfCb p getRecvDataInfCb (r.conMsg p)
            (r.msgSize - r.msgH.lenMonDataHdr.toNat)
            r.recvAddr = false) ↔
      r.msgH.lenMonDataHdr.toNat ≤ r.msgSize ∨
        ¬ (r.conMsg p).ClaimsSender p r.recvAddr ∨
        (getRecvDataInfCb = false ∧
          (r.conMsg p).Ignored p s r.msgH) := by
  have hFits :
      IsShort (r.msgSize - r.msgH.lenMonDataHdr.toNat) ↔
        (r.msgH.lenMonDataHdr.toNat : Int) ≤ r.msgSize := by
    unfold IsShort
    omega
  rw [recvPkg_conn_eq_self_iff hClass, ← hFits]
  unfold callsDataInfCb
  by_cases hIs :
      IsShort (r.msgSize - r.msgH.lenMonDataHdr.toNat)
  · simp [hIs]
  · by_cases hClaims :
        (r.conMsg p).ClaimsSender p r.recvAddr
    · simp [hIs, hClaims, and_comm]
    · simp [hIs, hClaims]

namespace Sample

/-
  A bare header from host 2, received over an `INVITE` of
  that host which had a data header of one byte.
-/
def bareHeader (lenMonDataHdr : UInt8) : MsgHeader where
  offset := 0
  msgLength := 264
  localConId := 7
  remoteConId := -1
  msgSeqNum := 0
  msgType := mlConMsg
  lenMonDataHdr := lenMonDataHdr
  lenMonPacketHdr := 0

/- The `INVITE` in the receive buffer. -/
def staleInvite : ConnMsg where
  comandType := ConMsgType.invite.code
  pmtuSize := 1372
  sockId := socketID 2

/- The bytes behind the header and the data header. -/
def staleRest : List UInt8 :=
  List.replicate (msgbufSize - msgHeaderSize - 265) 0

def bareReception (lenMonDataHdr : UInt8) : Reception where
  datagram := (bareHeader lenMonDataHdr).encode
  stale := 0 :: (staleInvite.encode platform ++ staleRest)
  recvAddr := address 2
  length_eq := by
    have hRest : staleRest.length = 1184 :=
      List.length_replicate
    rw [MsgHeader.length_encode, List.length_cons,
      List.length_append, ConnMsg.length_encode, hRest]
    decide

theorem msgH_bareReception
    (lenMonDataHdr : UInt8) :
    (bareReception lenMonDataHdr).msgH =
      bareHeader lenMonDataHdr :=
  MsgHeader.decode_encode_append _ _

theorem msgSize_bareReception
    (lenMonDataHdr : UInt8) :
    (bareReception lenMonDataHdr).msgSize = 0 := by
  unfold Reception.msgSize Reception.bufptr
  rw [msgH_bareReception]
  simp [bareReception, bareHeader]

theorem classify_bareReception
    (lenMonDataHdr : UInt8) :
    (bareReception lenMonDataHdr).classify =
      .connection := by
  have hFirst :
      (bareReception lenMonDataHdr).msgbuf.getD 0 0 = 0 := by
    change UInt8.ofNat ((0 : UInt32).toNat / 2 ^ 24) = 0
    rfl
  have hNotStun :
      ¬ ((bareReception lenMonDataHdr).msgbuf.getD 0 0 = 1 ∧
        (bareReception lenMonDataHdr).msgbuf.getD 1 0 =
          1) := by
    rw [hFirst]
    simp
  have hNotBad :
      ¬ (maxMsgLength <
          (bareHeader lenMonDataHdr).msgLength.toNat ∨
        (bareHeader lenMonDataHdr).msgLength <
          (bareHeader lenMonDataHdr).offset ∨
        (bareHeader lenMonDataHdr).msgLength = 0) := by
    simp [bareHeader, maxMsgLength]
  have hLength :
      ¬ (bareReception lenMonDataHdr).datagram.length <
        msgHeaderSize := by
    simp [bareReception]
  unfold Reception.classify
  rw [msgH_bareReception, msgSize_bareReception,
    if_neg hNotStun, if_neg hNotBad, if_neg hLength,
    if_neg (by decide)]
  rfl

/-
  With a data header of one byte the message that is read is
  the `INVITE` of before.
-/
theorem conMsg_bareReception :
    (bareReception 1).conMsg platform = staleInvite := by
  have hBufptr : (bareReception 1).bufptr =
      (bareHeader 1).encode.length := by
    unfold Reception.bufptr
    rw [msgH_bareReception, MsgHeader.length_encode]
    rfl
  unfold Reception.conMsg
  rw [hBufptr, msgH_bareReception]
  unfold Reception.msgbuf bareReception
  rw [List.drop_left]
  change
    ConnMsg.decode platform
      (staleInvite.encode platform ++ staleRest) = _
  rw [ConnMsg.decode_encode_append]
  simp only [staleInvite, carriedSocketID_socketID]

/- It is read, and answered, as if it had just arrived. -/
theorem recvPkg_bareReception :
    recvPkg platform Transport.scripted once node
        (bareReception 1) =
      recvPkg platform Transport.scripted once node
        (connReception .invite 7 (-1)) := by
  have hCommand :
      (bareReception 1).command platform = some .invite := by
    unfold Reception.command
    rw [if_pos (classify_bareReception 1),
      conMsg_bareReception, msgSize_bareReception,
      msgH_bareReception]
    decide +kernel
  rw [recvPkg_connection (classify_bareReception 1),
    hCommand, (recvPkg_connReception ..).2,
    conMsg_bareReception, msgH_bareReception]
  rfl

end Sample

/-
  A bare header with a data header of one byte replays the
  `INVITE` that was received before it: a connection is made
  and a `CONNECT` is sent.
-/
theorem bare_header_replays_invite :
    (Sample.bareReception 1).classify = .connection ∧
      (Sample.bareReception 1).msgSize -
          (Sample.bareReception 1).msgH.lenMonDataHdr.toNat <
        connMsgSize ∧
      ∃ con pkt,
        recvPkg Sample.platform Transport.scripted once
            Sample.node (Sample.bareReception 1) =
          .ok
            (Sample.node.setConNet Sample.first con (),
              [.packet pkt .ok]) ∧
          con.externalSocketID = Sample.socketID 2 ∧
          con.status = .connect := by
  rcases Sample.recvPkg_invite 7 with
    ⟨con, pkt, hInvite, hSocket, hStatus, _⟩
  refine
    ⟨Sample.classify_bareReception 1, ?_, con, pkt, ?_,
      hSocket, hStatus⟩
  · rw [Sample.msgSize_bareReception,
      Sample.msgH_bareReception]
    decide
  · rw [Sample.recvPkg_bareReception, hInvite]

/- Without a data header the bare header is inert. -/
theorem short_conn_msg_inert_bare :
    recvPkg Sample.platform Transport.scripted once
        Sample.node (Sample.bareReception 0) =
      .ok (Sample.node, []) := by
  have hShort :
      (Sample.bareReception 0).msgSize -
          (Sample.bareReception 0).msgH.lenMonDataHdr.toNat <
        connMsgSize := by
    rw [Sample.msgSize_bareReception,
      Sample.msgH_bareReception]
    decide
  have hInert :=
    short_conn_msg_inert_iff (p := Sample.platform)
      (T := Transport.scripted) true once Sample.node
      (Sample.classify_bareReception 0) hShort
  apply (hInert.mpr (Or.inl ?_)).1
  rw [Sample.msgSize_bareReception,
    Sample.msgH_bareReception]
  decide

end ML

end NapaBaselibs
