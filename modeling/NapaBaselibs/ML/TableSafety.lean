import NapaBaselibs.ML.Sample

/-
  When receiving datagrams stays inside the tables.

  The ids in a datagram come from the peer.  The handlers
  test them in part only, so the tables are read inside
  their bounds exactly when the datagrams meet a condition
  that the code does not enforce.

  Key definitions include:
    * `InConnectbuf`, `HasSlot`
    * `WithinTables`

  Key theorems include:
    * `recvPkg_leavesTables_iff`
    * `recvAll_within_tables_iff`
-/

------------------------------------------------------------
-- The Condition
------------------------------------------------------------

namespace NapaBaselibs

namespace ML

variable {σ α : Type}

/- An id that denotes an entry of `connectbuf`. -/
def InConnectbuf (id : Int32) : Prop :=
  0 ≤ id.toInt ∧ id.toInt < connectbufSize

/- A slot is in use for the message, or one is free. -/
def HasSlot
    (s : Endpoint σ)
    (conId : ConId)
    (seqnr : Int32) : Prop :=
  (∃ recvId slot, s.recvdatabuf recvId = some slot ∧
    slot.connectionID = conId ∧ slot.seqnr = seqnr) ∨
    ∃ recvId, s.recvdatabuf recvId = none

/-
  A datagram with which no table is left: a `CONNECT` or a
  `READY` that is accepted names an entry of `connectbuf`,
  and so does a data packet that no hook holds back, for
  which there must also be a slot when the entry is live.
-/
structure WithinTables
    (p : Platform)
    (s : Endpoint σ)
    (r : Reception) : Prop where
  connect :
    r.command p = some .connect →
      InConnectbuf r.msgH.remoteConId
  ready :
    r.command p = some .ready →
      InConnectbuf r.msgH.remoteConId
  data :
    r.classify = .data →
      s.hookRefuses r.msgH = false →
        InConnectbuf r.msgH.remoteConId
  slot :
    r.classify = .data →
      s.hookRefuses r.msgH = false →
        ∀ (conId : ConId) (con : ConnectData),
          r.msgH.remoteConId.toInt = (conId : Nat) →
            s.connectbuf conId = some con →
              HasSlot s conId r.msgH.msgSeqNum

/- The step ends in a table read outside its bounds. -/
abbrev LeavesTables
    {β : Type}
    (result : Except Fault β) : Prop :=
  Fault.FailsWith Fault.IsTable result

------------------------------------------------------------
-- Data Packets
------------------------------------------------------------

/- An id is outside the table exactly when the read fails. -/
theorem connectbufAt_of_inConnectbuf
    {id : Int32}
    (hIn : InConnectbuf id) :
    ∃ conId, connectbufAt id.toInt = .ok conId := by
  unfold connectbufAt
  cases hIndex : SlotTable.index? connectbufSize id.toInt with
  | some conId => exact ⟨conId, rfl⟩
  | none =>
      have hOut := SlotTable.index?_eq_none_iff.mp hIndex
      unfold InConnectbuf at hIn
      omega

theorem connectbufAt_of_not_inConnectbuf
    {id : Int32}
    (hOut : ¬ InConnectbuf id) :
    connectbufAt id.toInt =
      .error (.connectbufIndex id.toInt) := by
  have hNone :
      SlotTable.index? connectbufSize id.toInt = none := by
    apply SlotTable.index?_eq_none_iff.mpr
    unfold InConnectbuf at hOut
    omega
  unfold connectbufAt
  rw [hNone]

/- The slot table is left when it is full of other slots. -/
theorem recvSlot_leavesTables_iff
    {s : Endpoint σ}
    {conId : ConId}
    {msgH : MsgHeader} :
    LeavesTables (s.recvSlot conId msgH) ↔
      ¬ HasSlot s conId msgH.msgSeqNum := by
  unfold Endpoint.recvSlot
  cases hFind :
      s.recvdatabuf.find?
        (RecvData.isFor conId msgH.msgSeqNum) with
  | some found =>
      rcases SlotTable.of_find?_eq_some hFind with
        ⟨hAt, hIs⟩
      have hHas : HasSlot s conId msgH.msgSeqNum :=
        Or.inl
          ⟨found.1, found.2, hAt,
            isFor_eq_true_iff.mp hIs⟩
      constructor
      · exact fun hOk => absurd hOk Fault.not_failsWith_ok
      · exact fun hNot => absurd hHas hNot
  | none =>
      have hNone := SlotTable.find?_eq_none_iff.mp hFind
      have hUnused :
          ¬ ∃ recvId slot,
            s.recvdatabuf recvId = some slot ∧
              slot.connectionID = conId ∧
              slot.seqnr = msgH.msgSeqNum := by
        rintro ⟨recvId, slot, hAt, hIs⟩
        have hFalse := hNone recvId slot hAt
        rw [isFor_eq_true_iff.mpr hIs] at hFalse
        cases hFalse
      simp only
      cases hFree : s.recvdatabuf.firstFree? with
      | some recvId =>
          have hHas : HasSlot s conId msgH.msgSeqNum :=
            Or.inr
              ⟨recvId, SlotTable.free_of_firstFree? hFree⟩
          constructor
          · intro hLeaves
            cases hCreate : RecvData.create conId msgH with
            | ok slot =>
                rw [hCreate] at hLeaves
                exact hLeaves.elim
            | error fault =>
                rw [hCreate,
                  RecvData.create_error hCreate] at hLeaves
                exact hLeaves.elim
          · exact fun hNot => absurd hHas hNot
      | none =>
          have hFull := SlotTable.firstFree?_eq_none_iff.mp hFree
          simp only
          constructor
          · rintro _ (hUsed | ⟨recvId, hAt⟩)
            · exact hUnused hUsed
            · exact hFull recvId hAt
          · exact fun _ => trivial

/- Once the slot is known, no table is left. -/
theorem not_leavesTables_enterPacket
    {s : Endpoint σ}
    {con : ConnectData}
    {recvId : RecvId}
    {slot : RecvData}
    {msgH : MsgHeader}
    {data : List UInt8}
    (hType : msgH.msgType.toNat < msgMultiplexSize) :
    ¬ LeavesTables
      (s.enterPacket con recvId slot msgH data) := by
  refine Fault.not_failsWith_of_error ?_
  intro fault hFault
  unfold Endpoint.enterPacket at hFault
  split at hFault
  · cases hFault
  · split at hFault
    · rename_i hFragment
      cases hFault
      exact RecvData.recvFragment_error hFragment
    · rename_i slot' timers hFragment
      rcases s.callback_ok con slot' hType with ⟨calls, hCalls⟩
      rw [hCalls] at hFault
      split at hFault
      · cases hFault
      · cases hFault

/-
  A data packet leaves the tables when its id is outside of
  `connectbuf`, or when the entry is live and has no slot.
-/
theorem recvDataMsg_leavesTables_iff
    {s : Endpoint σ}
    {msgH : MsgHeader}
    {data : List UInt8}
    (hType : msgH.msgType.toNat < msgMultiplexSize) :
    LeavesTables (recvDataMsg s msgH data) ↔
      ¬ (InConnectbuf msgH.remoteConId ∧
        ∀ (conId : ConId) (con : ConnectData),
          msgH.remoteConId.toInt = (conId : Nat) →
            s.connectbuf conId = some con →
              HasSlot s conId msgH.msgSeqNum) := by
  unfold recvDataMsg
  by_cases hIn : InConnectbuf msgH.remoteConId
  · rcases connectbufAt_of_inConnectbuf hIn with
      ⟨conId, hAt⟩
    have hId := eq_of_connectbufAt hAt
    simp only [hAt, hIn, true_and]
    cases hCon : s.connectbuf conId with
    | none =>
        simp only
        constructor
        · exact fun hOk => absurd hOk Fault.not_failsWith_ok
        · intro hNot
          refine absurd ?_ hNot
          intro other con hOther hLive
          have hSame : other = conId := by
            apply Fin.ext
            omega
          rw [hSame, hCon] at hLive
          cases hLive
    | some con =>
        have hOnly :
            (∀ (other : ConId) (con : ConnectData),
              msgH.remoteConId.toInt = (other : Nat) →
                s.connectbuf other = some con →
                  HasSlot s other msgH.msgSeqNum) ↔
              HasSlot s conId msgH.msgSeqNum := by
          constructor
          · exact fun hAll => hAll conId con hId hCon
          · intro hHas other _ hOther _
            have hSame : other = conId := by
              apply Fin.ext
              omega
            rwa [hSame]
        rw [hOnly, ← recvSlot_leavesTables_iff]
        simp only
        cases hSlot : s.recvSlot conId msgH with
        | error fault => exact Iff.rfl
        | ok found =>
            constructor
            · intro hLeaves
              exact
                absurd hLeaves
                  (not_leavesTables_enterPacket hType)
            · exact fun hOk => absurd hOk id
  · simp only [connectbufAt_of_not_inConnectbuf hIn, hIn,
      false_and, not_false_eq_true, iff_true]
    trivial

------------------------------------------------------------
-- Connection Messages
------------------------------------------------------------

/- `CONNECT` leaves the table with an id outside of it. -/
theorem recvConnect_leavesTables_iff
    {p : Platform}
    {T : Transport σ α}
    {input : SendInput α}
    {s : Endpoint σ}
    {msgH : MsgHeader}
    {conMsg : ConnMsg} :
    LeavesTables (recvConnect p T input s msgH conMsg) ↔
      ¬ InConnectbuf msgH.remoteConId := by
  by_cases hIn : InConnectbuf msgH.remoteConId
  · rcases connectbufAt_of_inConnectbuf hIn with
      ⟨conId, hAt⟩
    have hSafe :
        ¬ LeavesTables
          (recvConnect p T input s msgH conMsg) :=
      Fault.not_failsWith_of_error
        (fun _ hFault =>
          (recvConnect_error hAt hFault).not_isTable)
    exact
      ⟨fun hLeaves => absurd hLeaves hSafe,
        fun hNot => absurd hIn hNot⟩
  · simp only [hIn, not_false_eq_true, iff_true]
    unfold recvConnect
    simp only [connectbufAt_of_not_inConnectbuf hIn]
    trivial

/- So does `READY`. -/
theorem recvReady_leavesTables_iff
    {s : Endpoint σ}
    {msgH : MsgHeader} :
    LeavesTables (recvReady s msgH) ↔
      ¬ InConnectbuf msgH.remoteConId := by
  by_cases hIn : InConnectbuf msgH.remoteConId
  · rcases connectbufAt_of_inConnectbuf hIn with
      ⟨conId, hAt⟩
    rcases recvReady_ok (s := s) hAt with ⟨result, hOk⟩
    rw [hOk]
    exact ⟨False.elim, fun hNot => absurd hIn hNot⟩
  · simp only [hIn, not_false_eq_true, iff_true]
    unfold recvReady
    simp only [connectbufAt_of_not_inConnectbuf hIn]
    trivial

/- A connection message leaves the table by its command. -/
theorem recvConnMsg_leavesTables_iff
    {p : Platform}
    {T : Transport σ α}
    {input : SendInput α}
    {s : Endpoint σ}
    {r : Reception}
    (hClass : r.classify = .connection) :
    LeavesTables
        (recvConnMsg p T input s r.msgH
          (r.msgbuf.drop r.bufptr) r.msgSize r.recvAddr) ↔
      (r.command p = some .connect ∨
          r.command p = some .ready) ∧
        ¬ InConnectbuf r.msgH.remoteConId := by
  have hCommand :
      acceptedCommand p (r.conMsg p)
          (r.msgSize - r.msgH.lenMonDataHdr.toNat)
          r.recvAddr =
        r.command p := by
    unfold Reception.command
    rw [if_pos hClass]
  unfold recvConnMsg
  simp only
  unfold Reception.conMsg at hCommand
  rw [hCommand]
  cases r.command p with
  | none =>
      simp only [reduceCtorEq, or_self, false_and, iff_false]
      exact Fault.not_failsWith_ok
  | some command =>
      cases command with
      | invite =>
          simp only [Option.some.injEq, reduceCtorEq,
            or_self, false_and, iff_false]
          exact
            Fault.not_failsWith_of_error
              (fun _ hFault =>
                (recvInvite_error hFault).not_isTable)
      | connect =>
          simp only [true_or, true_and]
          exact recvConnect_leavesTables_iff
      | ready =>
          simp only [or_true, true_and]
          exact recvReady_leavesTables_iff

------------------------------------------------------------
-- Datagrams
------------------------------------------------------------

/- A datagram without an accepted command. -/
theorem command_eq_none
    {p : Platform}
    {r : Reception}
    (hClass : r.classify ≠ .connection) :
    r.command p = none := by
  unfold Reception.command
  rw [if_neg hClass]

/-
  A datagram stays inside the tables exactly when it meets
  the condition.
-/
theorem recvPkg_leavesTables_iff
    {p : Platform}
    {T : Transport σ α}
    {input : SendInput α}
    {s : Endpoint σ}
    {r : Reception} :
    ¬ LeavesTables (recvPkg p T input s r) ↔
      WithinTables p s r := by
  unfold recvPkg
  by_cases hRefused :
      r.classify ≠ .stun ∧ s.hookRefuses r.msgH = true
  · rw [if_pos hRefused]
    have hNotConnection : r.classify ≠ .connection := by
      intro hClass
      have hFalse := hookRefuses_of_connection (s := s) hClass
      rw [hRefused.2] at hFalse
      cases hFalse
    have hNone := command_eq_none (p := p) hNotConnection
    refine iff_of_true Fault.not_failsWith_ok ?_
    exact
      ⟨by simp [hNone], by simp [hNone],
        by simp [hRefused.2], by simp [hRefused.2]⟩
  · rw [if_neg hRefused]
    unfold dispatch
    cases hClass : r.classify with
    | connection =>
        simp only
        rw [recvConnMsg_leavesTables_iff hClass]
        constructor
        · intro hSafe
          rw [not_and, not_not] at hSafe
          exact
            ⟨fun hConnect => hSafe (Or.inl hConnect),
              fun hReady => hSafe (Or.inr hReady),
              by simp [hClass], by simp [hClass]⟩
        · rintro hWithin ⟨hConnect | hReady, hOut⟩
          · exact hOut (hWithin.connect hConnect)
          · exact hOut (hWithin.ready hReady)
    | data =>
        have hNone : r.command p = none :=
          command_eq_none (by simp [hClass])
        have hPasses : s.hookRefuses r.msgH = false := by
          simpa [hClass] using hRefused
        simp only
        rw [recvDataMsg_leavesTables_iff
          (Reception.classify_data hClass).2, not_not]
        constructor
        · rintro ⟨hIn, hSlot⟩
          exact
            ⟨by simp [hNone], by simp [hNone],
              fun _ _ => hIn, fun _ _ => hSlot⟩
        · intro hWithin
          exact
            ⟨hWithin.data hClass hPasses,
              hWithin.slot hClass hPasses⟩
    | nack =>
        have hNone : r.command p = none :=
          command_eq_none (by simp [hClass])
        simp only
        refine iff_of_true ?_
          ⟨by simp [hNone], by simp [hNone],
            by simp [hClass], by simp [hClass]⟩
        unfold recvNackMsg
        simp only
        split
        · exact id
        · exact Fault.not_failsWith_ok
    | stun | badPacket | tooSmall | corrupted
    | unrecognised =>
        have hNone : r.command p = none :=
          command_eq_none (by simp [hClass])
        exact
          iff_of_true Fault.not_failsWith_ok
            ⟨by simp [hNone], by simp [hNone],
              by simp [hClass], by simp [hClass]⟩

/-
  Receiving a sequence of datagrams, from any state, stays
  inside the tables exactly when every one of them meets the
  condition where it is received.
-/
theorem recvAll_within_tables_iff
    (p : Platform)
    (T : Transport σ α)
    (s : Endpoint σ)
    (rs : List (SendInput α × Reception)) :
    ¬ LeavesTables (recvAll p T s rs) ↔
      AllMeet p T (WithinTables p) s rs :=
  recvAll_not_failsWith_iff
    (fun _ _ _ => recvPkg_leavesTables_iff) s rs

/-
  A `CONNECT` with the id `-1`, the first datagram a node
  receives, reads in front of the table.
-/
theorem recvAll_connect_leaves_tables :
    Sample.node.Initial ∧
      LeavesTables
        (recvAll Sample.platform Transport.scripted
          Sample.node
          [(once, Sample.connReception .connect 0 (-1))]) := by
  refine ⟨Sample.node_initial, ?_⟩
  have hOut : ¬ InConnectbuf (-1) := by
    unfold InConnectbuf
    decide
  have hLeaves :
      LeavesTables
        (recvConnect Sample.platform Transport.scripted once
          Sample.node
          (Sample.connPacket .connect 0 (-1)).header
          { comandType := ConMsgType.connect.code
            pmtuSize := 1372
            sockId := Sample.socketID 2 }) :=
    recvConnect_leavesTables_iff.mpr hOut
  unfold recvAll
  rw [(Sample.recvPkg_connReception ..).2]
  simp only
  cases hRecv :
      recvConnect Sample.platform Transport.scripted once
        Sample.node
        (Sample.connPacket .connect 0 (-1)).header
        { comandType := ConMsgType.connect.code
          pmtuSize := 1372
          sockId := Sample.socketID 2 } with
  | ok result =>
      rw [hRecv] at hLeaves
      exact hLeaves.elim
  | error fault =>
      rw [hRecv] at hLeaves
      exact hLeaves

end ML

end NapaBaselibs
