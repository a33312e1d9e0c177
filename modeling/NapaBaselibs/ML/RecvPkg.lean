import NapaBaselibs.ML.Timers
import NapaBaselibs.ML.Handshake

/-
  `recv_pkg`: telling the kinds of datagrams apart and
  passing each on to its handler.

  The receive buffer has `MAX` bytes and is not cleared, so
  the bytes behind a short datagram are left from before;
  they are part of the input.

  Key definitions include:
    * `Reception`
    * `PkgClass`, `Reception.classify`
    * `recvPkg`, `recvAll`

  Key theorems include:
    * `Reception.msgH_datagram`
    * `Reception.drop_bufptr_datagram`
    * `recvPkg_effect`
    * `recvAll_not_failsWith_iff`
-/

------------------------------------------------------------
-- Kinds Of Datagrams
------------------------------------------------------------

namespace NapaBaselibs

namespace ML

/- The receive buffer after a datagram has been read. -/
structure Reception where
  datagram : List UInt8
  stale : List UInt8
  recvAddr : SockaddrStorage
  length_eq :
    datagram.length + stale.length = msgbufSize

/- What `recv_pkg` takes a datagram for. -/
inductive PkgClass where
  | stun
  | badPacket
  | tooSmall
  | corrupted
  | connection
  | nack
  | data
  | unrecognised
deriving DecidableEq, Repr

namespace Reception

/- The whole receive buffer. -/
def msgbuf (r : Reception) : List UInt8 :=
  r.datagram ++ r.stale

/- The header at the start of the receive buffer. -/
def msgH (r : Reception) : MsgHeader :=
  MsgHeader.decode r.msgbuf

/- Where the packet's content starts in the buffer. -/
def bufptr (r : Reception) : Nat :=
  msgHeaderSize + r.msgH.lenMonPacketHdr.toNat

/- The number of bytes of the content. -/
def msgSize (r : Reception) : Int :=
  (r.datagram.length : Int) - r.bufptr

/- The tests of `recv_pkg`, in their order. -/
def classify (r : Reception) : PkgClass :=
  if r.msgbuf.getD 0 0 = 1 ∧ r.msgbuf.getD 1 0 = 1 then
    .stun
  else if maxMsgLength < r.msgH.msgLength.toNat ∨
      r.msgH.msgLength < r.msgH.offset ∨
      r.msgH.msgLength = 0 then
    .badPacket
  else if r.datagram.length < msgHeaderSize then
    .tooSmall
  else if r.msgSize < 0 then
    .corrupted
  else if r.msgH.msgType = mlConMsg then
    .connection
  else if r.msgH.msgType = mlNackMsg then
    .nack
  else if r.msgH.msgType.toNat < msgMultiplexSize then
    .data
  else
    .unrecognised

/- The connection message in the content. -/
def conMsg
    (p : Platform)
    (r : Reception) : ConnMsg :=
  ConnMsg.decode p
    ((r.msgbuf.drop r.bufptr).drop
      r.msgH.lenMonDataHdr.toNat)

/- The command of an accepted connection message. -/
def command
    (p : Platform)
    (r : Reception) : Option ConMsgType :=
  if r.classify = .connection then
    acceptedCommand p (r.conMsg p)
      (r.msgSize - r.msgH.lenMonDataHdr.toNat) r.recvAddr
  else
    none

end Reception

------------------------------------------------------------
-- Dispatch
------------------------------------------------------------

variable {σ α : Type}

/-
  With the hook of the monitoring module installed, a packet
  for no live connection goes no further; a connection
  message is not looked up.
-/
def Endpoint.hookRefuses
    (s : Endpoint σ)
    (msgH : MsgHeader) : Bool :=
  s.getRecvPktInfCb && (msgH.msgType != mlConMsg) &&
    match SlotTable.index? connectbufSize
        msgH.remoteConId.toInt with
    | some conId => (s.connectbuf conId).isNone
    | none => true

/-
  `recv_stun_msg`: the reflexive address becomes the external
  one.
-/
def recvStunMsg
    (p : Platform)
    (s : Endpoint σ)
    (datagram : List UInt8) : Endpoint σ × List Output :=
  match p.recvStunMessage datagram with
  | none => (s, [])
  | some addr =>
      let socketID :=
        { s.localSocketID with externalAddr := addr }
      ({ s with
          localSocketID := socketID
          natTraversal := true },
        [.receiveSocketID socketID])

/- Pass a packet that is none of the malformed kinds on. -/
def dispatch
    (p : Platform)
    (T : Transport σ α)
    (input : SendInput α)
    (s : Endpoint σ)
    (r : Reception) : StepResult σ :=
  match r.classify with
  | .stun => .ok (recvStunMsg p s r.datagram)
  | .connection =>
      recvConnMsg p T input s r.msgH
        (r.msgbuf.drop r.bufptr) r.msgSize r.recvAddr
  | .nack =>
      recvNackMsg p T s r.msgH (r.msgbuf.drop r.bufptr)
  | .data =>
      recvDataMsg s r.msgH (r.datagram.drop r.bufptr)
  | .badPacket | .tooSmall | .corrupted
  | .unrecognised => .ok (s, [])

/- `recv_pkg`. -/
def recvPkg
    (p : Platform)
    (T : Transport σ α)
    (input : SendInput α)
    (s : Endpoint σ)
    (r : Reception) : StepResult σ :=
  if r.classify ≠ .stun ∧ s.hookRefuses r.msgH = true then
    .ok (s, [])
  else
    dispatch p T input s r

------------------------------------------------------------
-- Datagrams Of Packets
------------------------------------------------------------

namespace Reception

/- The header read is the header of the packet sent. -/
theorem msgH_datagram
    {r : Reception}
    {pkt : Packet}
    (hDatagram : r.datagram = pkt.datagram) :
    r.msgH = pkt.header := by
  unfold msgH msgbuf Packet.datagram at *
  rw [hDatagram]
  simp only [List.append_assoc]
  exact MsgHeader.decode_encode_append _ _

/- The content read is the content of the packet sent. -/
theorem drop_bufptr_datagram
    {r : Reception}
    {pkt : Packet}
    (hDatagram : r.datagram = pkt.datagram)
    (hLength :
      pkt.header.lenMonPacketHdr.toNat =
        pkt.monPktHdr.length) :
    r.datagram.drop r.bufptr =
      pkt.monDataHdr ++ pkt.payload := by
  unfold bufptr
  rw [msgH_datagram hDatagram, hLength, hDatagram,
    Packet.datagram, List.append_assoc,
    ← pkt.header.length_encode, ← List.length_append,
    List.drop_left]

/- The number of bytes left is the length of the content. -/
theorem msgSize_datagram
    {r : Reception}
    {pkt : Packet}
    (hDatagram : r.datagram = pkt.datagram)
    (hLength :
      pkt.header.lenMonPacketHdr.toNat =
        pkt.monPktHdr.length) :
    r.msgSize =
      ((pkt.monDataHdr ++ pkt.payload).length : Nat) := by
  unfold msgSize bufptr
  rw [msgH_datagram hDatagram, hLength, hDatagram,
    Packet.datagram]
  simp only [List.length_append, MsgHeader.length_encode]
  omega

/- What is read behind the headers starts the same way. -/
theorem drop_bufptr_msgbuf
    {r : Reception}
    {pkt : Packet}
    (hDatagram : r.datagram = pkt.datagram)
    (hLength :
      pkt.header.lenMonPacketHdr.toNat =
        pkt.monPktHdr.length) :
    r.msgbuf.drop r.bufptr =
      pkt.monDataHdr ++ pkt.payload ++ r.stale := by
  have hFits : r.bufptr ≤ r.datagram.length := by
    unfold bufptr
    rw [msgH_datagram hDatagram, hLength, hDatagram,
      Packet.datagram]
    simp only [List.length_append, MsgHeader.length_encode]
    omega
  unfold msgbuf
  rw [List.drop_append_of_le_length hFits,
    drop_bufptr_datagram hDatagram hLength]

/-
  A packet with a sensible offset and length is classified by
  its type.  Its first byte is the top byte of the offset, so
  it is never taken for a STUN answer.
-/
theorem classify_datagram
    {r : Reception}
    {pkt : Packet}
    (hDatagram : r.datagram = pkt.datagram)
    (hLength :
      pkt.header.lenMonPacketHdr.toNat =
        pkt.monPktHdr.length)
    (hOffset :
      pkt.header.offset.toNat ≤ pkt.header.msgLength.toNat)
    (hPos : 0 < pkt.header.msgLength.toNat)
    (hMax : pkt.header.msgLength.toNat ≤ maxMsgLength) :
    r.classify =
      if pkt.header.msgType = mlConMsg then
        .connection
      else if pkt.header.msgType = mlNackMsg then
        .nack
      else if pkt.header.msgType.toNat < msgMultiplexSize then
        .data
      else
        .unrecognised := by
  have hHeader := msgH_datagram hDatagram
  have hFirst : r.msgbuf.getD 0 0 = 0 := by
    unfold msgbuf
    rw [hDatagram]
    have hTop : pkt.header.offset.toNat / 2 ^ 24 = 0 := by
      unfold maxMsgLength at hMax
      omega
    change UInt8.ofNat (pkt.header.offset.toNat / 2 ^ 24) = 0
    rw [hTop]
    rfl
  have hNotStun :
      ¬ (r.msgbuf.getD 0 0 = 1 ∧ r.msgbuf.getD 1 0 = 1) := by
    rw [hFirst]
    simp
  have hNotBad :
      ¬ (maxMsgLength < pkt.header.msgLength.toNat ∨
        pkt.header.msgLength < pkt.header.offset ∨
        pkt.header.msgLength = 0) := by
    rw [UInt32.lt_iff_toNat_lt, ← UInt32.toNat_inj]
    have hZero : (0 : UInt32).toNat = 0 := rfl
    omega
  have hNotSmall : ¬ r.datagram.length < msgHeaderSize := by
    rw [hDatagram, Packet.datagram]
    simp only [List.length_append, MsgHeader.length_encode]
    omega
  have hNotCorrupted : ¬ r.msgSize < 0 := by
    rw [msgSize_datagram hDatagram hLength]
    omega
  unfold classify
  rw [hHeader, if_neg hNotStun, if_neg hNotBad,
    if_neg hNotSmall, if_neg hNotCorrupted]

end Reception

/- The reception of a packet's datagram in a clean buffer. -/
def Packet.reception
    (pkt : Packet)
    (recvAddr : SockaddrStorage)
    (hFits : pkt.datagram.length ≤ msgbufSize) :
    Reception where
  datagram := pkt.datagram
  stale :=
    List.replicate (msgbufSize - pkt.datagram.length) 0
  recvAddr := recvAddr
  length_eq := by
    rw [List.length_replicate]
    omega

/- A connection message that arrives complete is accepted. -/
theorem Reception.command_datagram
    {p : Platform}
    {r : Reception}
    {pkt : Packet}
    {command : ConMsgType}
    {pmtuSize : UInt32}
    {sockId : SocketID}
    {rest : List UInt8}
    (hClass : r.classify = .connection)
    (hDatagram : r.datagram = pkt.datagram)
    (hPktHdr :
      pkt.header.lenMonPacketHdr.toNat =
        pkt.monPktHdr.length)
    (hDataHdr :
      pkt.header.lenMonDataHdr.toNat =
        pkt.monDataHdr.length)
    (hPayload :
      pkt.payload =
        ConnMsg.encode p
          { comandType := command.code
            pmtuSize := pmtuSize
            sockId := sockId } ++ rest) :
    r.conMsg p =
        { comandType := command.code
          pmtuSize := pmtuSize
          sockId := carriedSocketID p sockId } ∧
      (r.recvAddr =
          (carriedSocketID p sockId).internalAddr →
        r.command p = some command) := by
  have hMsg :
      r.conMsg p =
        { comandType := command.code
          pmtuSize := pmtuSize
          sockId := carriedSocketID p sockId } := by
    unfold conMsg
    rw [drop_bufptr_msgbuf hDatagram hPktHdr,
      msgH_datagram hDatagram, hDataHdr, List.append_assoc,
      List.drop_left, hPayload, List.append_assoc]
    exact ConnMsg.decode_encode_append p _ _
  refine ⟨hMsg, ?_⟩
  intro hAddr
  unfold Reception.command acceptedCommand
  rw [if_pos hClass, hMsg, hAddr, mlCompareAddr_self]
  have hSize :
      r.msgSize - r.msgH.lenMonDataHdr.toNat =
        (pkt.payload.length : Nat) := by
    rw [msgSize_datagram hDatagram hPktHdr,
      msgH_datagram hDatagram, hDataHdr, List.length_append]
    omega
  have hLong : connMsgSize ≤ pkt.payload.length := by
    rw [hPayload, List.length_append, ConnMsg.length_encode]
    omega
  rw [hSize, if_neg (by omega), if_neg (by simp)]
  exact ConMsgType.ofCode?_code command

------------------------------------------------------------
-- What A Class Says
------------------------------------------------------------

namespace Reception

/- The tests that a datagram for a handler has passed. -/
structure Passed (r : Reception) : Prop where
  msgLength_le : r.msgH.msgLength.toNat ≤ maxMsgLength
  offset_le : r.msgH.offset.toNat ≤ r.msgH.msgLength.toNat
  msgLength_pos : 0 < r.msgH.msgLength.toNat
  bufptr_le : r.bufptr ≤ r.datagram.length

/- A datagram that is not malformed has passed the tests. -/
theorem passed_of_classify
    {r : Reception}
    (hStun : r.classify ≠ .stun)
    (hBad : r.classify ≠ .badPacket)
    (hSmall : r.classify ≠ .tooSmall)
    (hCorrupted : r.classify ≠ .corrupted) :
    r.Passed := by
  unfold classify at *
  split at hStun
  · exact absurd rfl hStun
  · rename_i hNotStun
    rw [if_neg hNotStun] at hBad hSmall hCorrupted
    split at hBad
    · exact absurd rfl hBad
    · rename_i hNotBad
      rw [if_neg hNotBad] at hSmall hCorrupted
      split at hSmall
      · exact absurd rfl hSmall
      · rename_i hNotSmall
        rw [if_neg hNotSmall] at hCorrupted
        split at hCorrupted
        · exact absurd rfl hCorrupted
        · rename_i hNotCorrupted
          rw [not_or, not_or, UInt32.lt_iff_toNat_lt,
            ← UInt32.toNat_inj] at hNotBad
          have hZero : (0 : UInt32).toNat = 0 := rfl
          unfold msgSize at hNotCorrupted
          exact
            ⟨by omega, by omega, by omega, by omega⟩

/- The last tests of `recv_pkg` are about the type. -/
theorem classify_data
    {r : Reception}
    (hClass : r.classify = .data) :
    r.Passed ∧ r.msgH.msgType.toNat < msgMultiplexSize := by
  refine
    ⟨passed_of_classify (by simp [hClass]) (by simp [hClass])
      (by simp [hClass]) (by simp [hClass]), ?_⟩
  unfold classify at hClass
  repeat' split at hClass
  all_goals first | assumption | cases hClass

theorem classify_connection
    {r : Reception}
    (hClass : r.classify = .connection) :
    r.msgH.msgType = mlConMsg := by
  unfold classify at hClass
  repeat' split at hClass
  all_goals first | assumption | cases hClass

end Reception

------------------------------------------------------------
-- Which Handler Is Called
------------------------------------------------------------

/- The hook does not look connection messages up. -/
theorem hookRefuses_of_connection
    {s : Endpoint σ}
    {r : Reception}
    (hClass : r.classify = .connection) :
    s.hookRefuses r.msgH = false := by
  unfold Endpoint.hookRefuses
  rw [Reception.classify_connection hClass]
  simp

/- Without the hook no packet is held back. -/
theorem hookRefuses_of_no_hook
    {s : Endpoint σ}
    {msgH : MsgHeader}
    (hHook : s.getRecvPktInfCb = false) :
    s.hookRefuses msgH = false := by
  simp [Endpoint.hookRefuses, hHook]

/- A connection message goes to the handler of its command. -/
theorem recvPkg_connection
    {p : Platform}
    {T : Transport σ α}
    {input : SendInput α}
    {s : Endpoint σ}
    {r : Reception}
    (hClass : r.classify = .connection) :
    recvPkg p T input s r =
      match r.command p with
      | some .invite =>
          recvInvite p T input s r.msgH (r.conMsg p)
            r.recvAddr
      | some .connect =>
          recvConnect p T input s r.msgH (r.conMsg p)
      | some .ready => recvReady s r.msgH
      | none => .ok (s, []) := by
  unfold recvPkg
  rw [if_neg (by simp [hookRefuses_of_connection hClass])]
  unfold dispatch Reception.command
  rw [if_pos hClass]
  simp only [hClass]
  rfl

/- A data packet goes to the reassembly. -/
theorem recvPkg_data
    {p : Platform}
    {T : Transport σ α}
    {input : SendInput α}
    {s : Endpoint σ}
    {r : Reception}
    (hClass : r.classify = .data)
    (hPasses : s.hookRefuses r.msgH = false) :
    recvPkg p T input s r =
      recvDataMsg s r.msgH (r.datagram.drop r.bufptr) := by
  unfold recvPkg
  rw [if_neg (by simp [hPasses])]
  unfold dispatch
  simp only [hClass]

------------------------------------------------------------
-- What Receiving A Datagram Does
------------------------------------------------------------

/-
  Everything a datagram can do: nothing that matters to the
  tables, or what its handler does.
-/
inductive RecvPkgEffect
    (p : Platform)
    (T : Transport σ α)
    (input : SendInput α)
    (s : Endpoint σ)
    (r : Reception) :
    Endpoint σ → List Output → Prop where
  | dropped : RecvPkgEffect p T input s r s []
  | stun
      {s' : Endpoint σ}
      {outputs : List Output}
      (hClass : r.classify = .stun)
      (hStun :
        recvStunMsg p s r.datagram = (s', outputs)) :
      RecvPkgEffect p T input s r s' outputs
  | connection
      {s' : Endpoint σ}
      {outputs : List Output}
      (hClass : r.classify = .connection)
      (hEffect :
        RecvConnMsgEffect p s r.msgH (r.conMsg p)
          (r.msgSize - r.msgH.lenMonDataHdr.toNat)
          r.recvAddr s' outputs) :
      RecvPkgEffect p T input s r s' outputs
  | nack
      {pkts : List Packet}
      (hClass : r.classify = .nack) :
      RecvPkgEffect p T input s r s (pkts.map .retransmit)
  | data
      {s' : Endpoint σ}
      {outputs : List Output}
      (hClass : r.classify = .data)
      (hRecv :
        recvDataMsg s r.msgH
          (r.datagram.drop r.bufptr) = .ok (s', outputs)) :
      RecvPkgEffect p T input s r s' outputs

/- A received datagram has one of the effects. -/
theorem recvPkg_effect
    {p : Platform}
    {T : Transport σ α}
    {input : SendInput α}
    {s s' : Endpoint σ}
    {r : Reception}
    {outputs : List Output}
    (hRecv : recvPkg p T input s r = .ok (s', outputs)) :
    RecvPkgEffect p T input s r s' outputs := by
  unfold recvPkg at hRecv
  split at hRecv
  · cases hRecv
    exact .dropped
  · unfold dispatch at hRecv
    cases hClass : r.classify with
    | stun =>
        simp only [hClass] at hRecv
        exact .stun hClass (Except.ok.inj hRecv)
    | connection =>
        simp only [hClass] at hRecv
        exact .connection hClass (recvConnMsg_effect hRecv)
    | nack =>
        simp only [hClass] at hRecv
        unfold recvNackMsg at hRecv
        simp only at hRecv
        split at hRecv
        · cases hRecv
        · cases hRecv
          exact .nack hClass
    | data =>
        simp only [hClass] at hRecv
        exact .data hClass hRecv
    | badPacket | tooSmall | corrupted | unrecognised =>
        simp only [hClass] at hRecv
        cases hRecv
        exact .dropped

------------------------------------------------------------
-- Sequences Of Datagrams
------------------------------------------------------------

/- Receive datagrams one after the other. -/
def recvAll
    (p : Platform)
    (T : Transport σ α) :
    Endpoint σ → List (SendInput α × Reception) →
      StepResult σ
| s, [] => .ok (s, [])
| s, (input, r) :: rest =>
    match recvPkg p T input s r with
    | .error fault => .error fault
    | .ok (s', outputs) =>
        match recvAll p T s' rest with
        | .error fault => .error fault
        | .ok (t, later) => .ok (t, outputs ++ later)

/-
  Every datagram of a sequence meets a condition in the state
  in which it is received.
-/
def AllMeet
    (p : Platform)
    (T : Transport σ α)
    (Cond : Endpoint σ → Reception → Prop)
    (s : Endpoint σ)
    (rs : List (SendInput α × Reception)) : Prop :=
  ∀ before input r after s' outputs,
    rs = before ++ (input, r) :: after →
      recvAll p T s before = .ok (s', outputs) → Cond s' r

/- The condition of a sequence, by its first datagram. -/
theorem allMeet_cons_iff
    {p : Platform}
    {T : Transport σ α}
    {Cond : Endpoint σ → Reception → Prop}
    {s : Endpoint σ}
    {input : SendInput α}
    {r : Reception}
    {rest : List (SendInput α × Reception)} :
    AllMeet p T Cond s ((input, r) :: rest) ↔
      Cond s r ∧
        ∀ s' outputs,
          recvPkg p T input s r = .ok (s', outputs) →
            AllMeet p T Cond s' rest := by
  constructor
  · intro hAll
    refine ⟨hAll [] input r rest s [] rfl rfl, ?_⟩
    intro s' outputs hRecv before input' r' after t later
      hRest hRun
    refine
      hAll ((input, r) :: before) input' r' after t
        (outputs ++ later) (by rw [hRest]; rfl) ?_
    simp only [recvAll, hRecv, hRun]
  · rintro ⟨hFirst, hRest⟩ before input' r' after t outputs
      hSplit hRun
    cases before with
    | nil =>
        cases hSplit
        cases hRun
        exact hFirst
    | cons head before =>
        cases hSplit
        simp only [recvAll] at hRun
        split at hRun
        · cases hRun
        · rename_i s' outputs hRecv
          split at hRun
          · cases hRun
          · rename_i t' later hLater
            cases hRun
            exact
              hRest s' outputs hRecv before input' r' after
                t later rfl hLater

/-
  When a condition says of one datagram whether it avoids a
  kind of fault, then the same condition, asked of every
  datagram where it is received, says it of a sequence.
-/
theorem recvAll_not_failsWith_iff
    {p : Platform}
    {T : Transport σ α}
    {kind : Fault → Prop}
    {Cond : Endpoint σ → Reception → Prop}
    (hStep :
      ∀ s input r,
        ¬ Fault.FailsWith kind (recvPkg p T input s r) ↔
          Cond s r)
    (s : Endpoint σ)
    (rs : List (SendInput α × Reception)) :
    ¬ Fault.FailsWith kind (recvAll p T s rs) ↔
      AllMeet p T Cond s rs := by
  induction rs generalizing s with
  | nil =>
      refine iff_of_true Fault.not_failsWith_ok ?_
      intro before input r after s' outputs hSplit
      cases before <;> cases hSplit
  | cons head rest ih =>
      rcases head with ⟨input, r⟩
      rw [allMeet_cons_iff, ← hStep s input r]
      simp only [recvAll]
      cases hRecv : recvPkg p T input s r with
      | error fault =>
          simp only [reduceCtorEq, false_implies,
            implies_true, and_true]
      | ok result =>
          rcases result with ⟨s', outputs⟩
          simp only [Except.ok.injEq, Prod.mk.injEq]
          have hSame :
              Fault.FailsWith kind
                  (match recvAll p T s' rest with
                  | .error fault => .error fault
                  | .ok (t, later) =>
                      .ok (t, outputs ++ later) :
                    StepResult σ) ↔
                Fault.FailsWith kind
                  (recvAll p T s' rest) := by
            cases recvAll p T s' rest with
            | error fault => exact Iff.rfl
            | ok result => exact Iff.rfl
          rw [hSame, ih s']
          constructor
          · intro hAll
            refine ⟨Fault.not_failsWith_ok, ?_⟩
            rintro t outputs' ⟨rfl, rfl⟩
            exact hAll
          · rintro ⟨_, hAll⟩
            exact hAll s' outputs ⟨rfl, rfl⟩

end ML

end NapaBaselibs
