import NapaBaselibs.ML.TwoParty
import NapaBaselibs.ML.RoundTrip
import NapaBaselibs.ML.MessageIdentity

/-
  Which messages reach the callbacks of the application.

  The type of a message is an `int` in `send_msg` and a byte
  in the header.  The type of a keepalive message, `0x126`,
  becomes `0x26` there, which is a type of the application:
  the callback for it is called with keepalive messages.

  A callback gets the bytes of every packet copied into the
  slot, and types are not compared when a packet is copied.
  So the slots of a run are logged with the transitions in
  which their packets arrived.

  Key definitions include:
    * `CallsBack`, `Registered`
    * `slotLogs`, `CopiedInto`, `CarriedBy`
    * `KeepaliveMixes`, `SlotMixes`

  Key theorems include:
    * `FilledByOne.run`
    * `types_never_mix`
-/

------------------------------------------------------------
-- Callbacks
------------------------------------------------------------

namespace NapaBaselibs

namespace ML

variable {σ α : Type}

/- A callback is registered for the type. -/
def Registered
    (s : Endpoint σ)
    (msgType : UInt8) : Prop :=
  ∃ hType : msgType.toNat < msgMultiplexSize,
    s.recvcbbuf ⟨msgType.toNat, hType⟩ = true

/-
  The transition calls the callback of a type.  It is called
  on the arrival of a packet, for the type in its header.
-/
def CallsBack
    (tr : Transition (Network Side (Endpoint σ) Packet)
      (Side × Event α) Output)
    (msgType : UInt8) : Prop :=
  deliveries tr.outputs ≠ [] ∧
    ∃ input r, tr.event.2 = .recvPkg input r ∧
      r.msgH.msgType = msgType

/-
  A packet of `keepalive_fn` arrives where the application
  has registered a callback for the type it has become.
-/
def KeepaliveMixes
    (earlier : PartyTrace σ α)
    (tr : Transition (Network Side (Endpoint σ) Packet)
      (Side × Event α) Output) : Prop :=
  ∃ input peer pkt,
    Arrives earlier tr (.keepalive input peer) pkt ∧
      Registered (tr.post.node tr.event.1)
        msgTypeMlKeepalive

------------------------------------------------------------
-- What The Slots Are Filled With
------------------------------------------------------------

/- A transition of the two. -/
abbrev PartyTransition (σ α : Type) :=
  Transition (Network Side (Endpoint σ) Packet)
    (Side × Event α) Output

/-
  The logs of the slots of one of the two: the transitions
  whose packets were copied into each slot in use.
-/
def slotLogs
    (who : Side)
    (trace : PartyTrace σ α) :
    SlotLogs (PartyTransition σ α) :=
  trace.foldl
    (fun logs tr =>
      if tr.event.1 = who then
        logs.next (tr.pre.node who) tr tr.event.2
      else
        logs)
    SlotLogs.start

/-
  The packet that arrives is copied into a slot, one that is
  found for it or made, and not complete.
-/
def CopiedInto
    (tr : PartyTransition σ α)
    (recvId : RecvId) : Prop :=
  ∃ input r conId seqnr slot,
    tr.event.2 = .recvPkg input r ∧
      (tr.pre.node tr.event.1).slotKey? r =
        some (conId, seqnr) ∧
      (tr.pre.node tr.event.1).recvSlot conId r.msgH =
        .ok (recvId, slot) ∧
      slot.status ≠ .complete

/-
  The packet that arrives in a transition of the trace was
  handed over by an event of the peer before.
-/
def CarriedBy
    (trace : PartyTrace σ α)
    (tr : PartyTransition σ α)
    (cause : Event α) : Prop :=
  ∃ before after pkt,
    trace = before ++ tr :: after ∧
      Arrives before tr cause pkt

/-
  Who a packet belongs to: the application, with the type of
  its message, or the library.
-/
def Event.origin : Event α → Bool × UInt8
| .sendData _ _ _ _ msgtype => (true, msgtype)
| e => (false, e.packetType)

/-
  A packet is copied into a slot that holds a packet of
  another origin.
-/
def SlotMixes
    (earlier : PartyTrace σ α)
    (tr : PartyTransition σ α) : Prop :=
  ∃ recvId log other cause cause' pkt,
    CopiedInto tr recvId ∧
      (slotLogs tr.event.1 earlier).slots recvId = some log ∧
      other ∈ log.copied ∧
      CarriedBy earlier other cause' ∧
      Arrives earlier tr cause pkt ∧
      cause.origin ≠ cause'.origin

/- All packets of a slot have one origin. -/
def FilledByOne
    (trace : PartyTrace σ α)
    (log : SlotLog (PartyTransition σ α)) : Prop :=
  ∃ origin : Bool × UInt8,
    ∀ other ∈ log.copied,
      ∃ cause, CarriedBy trace other cause ∧
        cause.origin = origin

theorem CarriedBy.append
    {trace : PartyTrace σ α}
    {tr : PartyTransition σ α}
    {cause : Event α}
    (hCarried : CarriedBy trace tr cause)
    (more : PartyTrace σ α) :
    CarriedBy (trace ++ more) tr cause := by
  rcases hCarried with ⟨before, after, pkt, rfl, hArrives⟩
  exact ⟨before, after ++ more, pkt, by simp, hArrives⟩

theorem FilledByOne.append
    {trace : PartyTrace σ α}
    {log : SlotLog (PartyTransition σ α)}
    (hFilled : FilledByOne trace log)
    (more : PartyTrace σ α) :
    FilledByOne (trace ++ more) log := by
  rcases hFilled with ⟨origin, hAll⟩
  refine ⟨origin, ?_⟩
  intro other hMem
  rcases hAll other hMem with ⟨cause, hCarried, hOrigin⟩
  exact ⟨cause, hCarried.append more, hOrigin⟩

/- One more transition in the logs. -/
theorem slotLogs_concat
    (who : Side)
    (earlier : PartyTrace σ α)
    (tr : PartyTransition σ α) :
    slotLogs who (earlier ++ [tr]) =
      if tr.event.1 = who then
        (slotLogs who earlier).next (tr.pre.node who) tr
          tr.event.2
      else
        slotLogs who earlier := by
  unfold slotLogs
  rw [List.foldl_append]
  rfl

/-
  What an event does to the log of a slot: nothing, or a
  packet that arrives is copied into a new or an old one.
-/
theorem SlotLogs.slots_next
    {μ : Type}
    {s : Endpoint σ}
    {logs : SlotLogs μ}
    {message : μ}
    {e : Event α}
    {recvId : RecvId}
    {log : SlotLog μ}
    (hLog : (logs.next s message e).slots recvId = some log) :
    logs.slots recvId = some log ∨
      ∃ input r conId seqnr slot,
        e = .recvPkg input r ∧
          s.slotKey? r = some (conId, seqnr) ∧
          s.recvSlot conId r.msgH = .ok (recvId, slot) ∧
          (log.copied = [message] ∨
            slot.status ≠ .complete ∧
              ∃ old, logs.slots recvId = some old ∧
                log.copied = old.copied ++ [message]) := by
  cases e with
  | recvPkg input r =>
      unfold next at hLog
      simp only at hLog
      split at hLog
      · exact Or.inl hLog
      · rename_i conId seqnr hKey
        split at hLog
        · exact Or.inl hLog
        · rename_i found slot hSlot
          unfold enter at hLog
          split at hLog
          · rcases SlotTable.set_eq_some_cases hLog with
              ⟨rfl, rfl⟩ | ⟨_, hOld⟩
            · right
              exact
                ⟨input, r, conId, seqnr, slot, rfl, hKey,
                  hSlot, Or.inl rfl⟩
            · exact Or.inl hOld
          · rename_i old hHeld
            split at hLog
            · exact Or.inl hLog
            · rename_i hOpen
              rcases SlotTable.set_eq_some_cases hLog with
                ⟨rfl, rfl⟩ | ⟨_, hOld⟩
              · right
                exact
                  ⟨input, r, conId, seqnr, slot, rfl, hKey,
                    hSlot, Or.inr ⟨hOpen, old, hHeld, rfl⟩⟩
              · exact Or.inl hOld
  | recvTimeout timed =>
      exact Or.inl (SlotTable.free_eq_some hLog).2
  | openConnection | closeConnection | sendData
  | pmtuTimeout | keepalive | pktRecvTimeout
  | lastPktRecvTimeout => exact Or.inl hLog

/- Without data packets no slot is in use. -/
theorem slotLogs_eq_none
    {who : Side}
    {earlier : PartyTrace σ α}
    (hNone :
      ∀ tr ∈ earlier, ∀ input r,
        tr.event.2 = .recvPkg input r → r.classify ≠ .data)
    (recvId : RecvId) :
    (slotLogs who earlier).slots recvId = none := by
  induction earlier using List.reverseRecOn with
  | nil => rfl
  | append_singleton earlier tr ih =>
      have hBefore :=
        ih (fun other hMem =>
          hNone other (List.mem_append_left _ hMem))
      rw [slotLogs_concat]
      split
      · rw [Option.eq_none_iff_forall_not_mem]
        intro log hLog
        rcases SlotLogs.slots_next hLog with
          hSame | ⟨input, r, conId, seqnr, _, hEvent, hKey,
            _⟩
        · rw [hBefore] at hSame
          cases hSame
        · exact
            hNone tr (by simp) input r hEvent
              (Endpoint.slotKey?_eq_some_iff.mp hKey).1
      · exact hBefore

section Runs

variable {p : Side → Platform}
variable {T : Transport σ α}
variable {s s' : Network Side (Endpoint σ) Packet}
variable {trace : PartyTrace σ α}

/-
  If no packet is copied into a slot of another origin, every
  slot holds packets of one origin, at any time.
-/
theorem FilledByOne.run
    (hStart : TwoPartyStart s)
    (hRun : Run (twoParty p T).Step s trace s')
    (hNever :
      ∀ earlier tr later, trace = earlier ++ tr :: later →
        ¬ SlotMixes earlier tr)
    {earlier : PartyTrace σ α}
    (hPrefix : earlier <+: trace)
    {who : Side}
    {recvId : RecvId}
    {log : SlotLog (PartyTransition σ α)}
    (hLog :
      (slotLogs who earlier).slots recvId = some log) :
    FilledByOne earlier log := by
  induction earlier using List.reverseRecOn
      generalizing recvId log with
  | nil => cases hLog
  | append_singleton earlier tr ih =>
      rcases hPrefix with ⟨later, rfl⟩
      have hSplit :
          earlier ++ [tr] ++ later = earlier ++ tr :: later := by
        simp
      have hOld :
          ∀ recvId log,
            (slotLogs who earlier).slots recvId = some log →
              FilledByOne earlier log :=
        fun _ _ hOldLog =>
          ih ⟨tr :: later, hSplit.symm⟩ hOldLog
      rw [hSplit] at hRun
      rw [slotLogs_concat] at hLog
      split at hLog
      · rename_i hWho
        rcases SlotLogs.slots_next hLog with
          hSame | ⟨input, r, conId, seqnr, slot, hEvent, hKey,
            hSlot, hCopied⟩
        · exact (hOld recvId log hSame).append [tr]
        · rcases exists_arrives hStart hRun hEvent with
            ⟨cause, pkt, hArrives, _, _⟩
          have hNew :
              CarriedBy (earlier ++ [tr]) tr cause :=
            ⟨earlier, [], pkt, rfl, hArrives⟩
          refine ⟨cause.origin, ?_⟩
          intro other hMem
          rcases hCopied with
            hOnly | ⟨hOpen, old, hHeld, hMore⟩
          · rw [hOnly] at hMem
            rcases List.mem_singleton.mp hMem with rfl
            exact ⟨cause, hNew, rfl⟩
          · rw [hMore] at hMem
            rcases List.mem_append.mp hMem with hIn | hLast
            · rcases hOld recvId old hHeld with
                ⟨origin, hAll⟩
              rcases hAll other hIn with
                ⟨cause', hCarried, hOrigin⟩
              refine ⟨cause', hCarried.append [tr], ?_⟩
              by_contra hNe
              subst hWho
              exact
                hNever earlier tr later hSplit
                  ⟨recvId, old, other, cause, cause', pkt,
                    ⟨input, r, conId, seqnr, slot, hEvent,
                      hKey, hSlot, hOpen⟩,
                    hHeld, hIn, hCarried, hArrives,
                    fun hEq => hNe hEq.symm⟩
            · rcases List.mem_singleton.mp hLast with rfl
              exact ⟨cause, hNew, rfl⟩
      · exact (hOld recvId log hLog).append [tr]

end Runs

------------------------------------------------------------
-- Deliveries
------------------------------------------------------------

theorem deliveries_of_connPackets
    {p : Platform}
    {localSocketID : SocketID}
    {conId : ConId}
    {externalConnectionID : Int32}
    {command : ConMsgType}
    {outputs : List Output}
    (hPackets :
      ConnPackets p localSocketID conId externalConnectionID
        command outputs) :
    deliveries outputs = [] := by
  unfold deliveries
  rw [List.filterMap_eq_nil_iff]
  intro output hMem
  rcases hPackets output hMem with ⟨pkt, answer, rfl, _⟩
  rfl

/- A connection message is delivered to no callback. -/
theorem RecvConnMsgEffect.deliveries_eq_nil
    {p : Platform}
    {s s' : Endpoint σ}
    {msgH : MsgHeader}
    {conMsg : ConnMsg}
    {msgSize : Int}
    {recvAddr : SockaddrStorage}
    {outputs : List Output}
    (hEffect :
      RecvConnMsgEffect p s msgH conMsg msgSize recvAddr s'
        outputs) :
    deliveries outputs = [] := by
  cases hEffect with
  | ignored => rfl
  | invited _ _ hSent => exact deliveries_of_connPackets hSent.2
  | invitedNew _ _ _ hSent =>
      exact deliveries_of_connPackets hSent.2
  | connected _ _ _ _ _ hPackets =>
      rw [deliveries_append,
        deliveries_of_connPackets hPackets,
        (s.silent_announce _ _).2.2, List.append_nil]
  | reconnected _ _ _ _ hSent =>
      exact deliveries_of_connPackets hSent.2
  | readied => exact (s.silent_announce _ _).2.2

/- A callback is called for the type of a data packet. -/
theorem recvPkg_callback
    {p : Platform}
    {T : Transport σ α}
    {input : SendInput α}
    {s s' : Endpoint σ}
    {r : Reception}
    {outputs : List Output}
    (hRecv : recvPkg p T input s r = .ok (s', outputs))
    (hCalls : deliveries outputs ≠ []) :
    Registered s' r.msgH.msgType := by
  cases recvPkg_nodeEffect hRecv with
  | quiet _ _ hQuiet =>
      exact absurd (deliveries_of_quiet hQuiet) hCalls
  | entered _ _ _ _ hEnter =>
      unfold Endpoint.enterPacket at hEnter
      split at hEnter
      · cases hEnter
        exact absurd rfl hCalls
      · split at hEnter
        · cases hEnter
        · rename_i hFragment
          have hTimers :=
            deliveries_of_quiet
              (RecvData.recvFragment_quiet hFragment)
          split at hEnter
          · split at hEnter
            · cases hEnter
            · rename_i hCallback
              cases hEnter
              rw [deliveries_append, hTimers,
                List.nil_append] at hCalls
              unfold Endpoint.callback at hCallback
              split at hCallback
              · split at hCallback
                · rename_i hType
                  split at hCallback
                  · rename_i hRegistered
                    exact ⟨hType, hRegistered⟩
                  · cases hCallback
                    exact absurd rfl hCalls
                · cases hCallback
              · cases hCallback
                exact absurd rfl hCalls
          · cases hEnter
            exact absurd hTimers hCalls
  | handshake _ hEffect =>
      exact absurd hEffect.deliveries_eq_nil hCalls

/- A callback is called with a slot that was not complete. -/
theorem recvPkg_delivers
    {p : Platform}
    {T : Transport σ α}
    {input : SendInput α}
    {s s' : Endpoint σ}
    {r : Reception}
    {outputs : List Output}
    (hRecv : recvPkg p T input s r = .ok (s', outputs))
    (hCalls : deliveries outputs ≠ []) :
    ∃ conId seqnr recvId slot,
      s.slotKey? r = some (conId, seqnr) ∧
        s.recvSlot conId r.msgH = .ok (recvId, slot) ∧
        slot.status ≠ .complete := by
  cases hKey : s.slotKey? r with
  | none =>
      cases recvPkg_nodeEffect hRecv with
      | quiet _ _ hQuiet =>
          exact absurd (deliveries_of_quiet hQuiet) hCalls
      | entered hClass hId hCon _ _ =>
          rw [Endpoint.slotKey?_eq_some_iff.mpr
            ⟨hClass, hId, ⟨_, hCon⟩, rfl⟩] at hKey
          cases hKey
      | handshake _ hEffect =>
          exact absurd hEffect.deliveries_eq_nil hCalls
  | some key =>
      rcases key with ⟨conId, seqnr⟩
      rcases recvPkg_entered hRecv hKey with
        ⟨con, recvId, slot, hSlot, hEnter⟩
      refine ⟨conId, seqnr, recvId, slot, rfl, hSlot, ?_⟩
      intro hComplete
      unfold Endpoint.enterPacket at hEnter
      rw [if_pos hComplete] at hEnter
      cases hEnter
      exact hCalls rfl

/- Slots are looked for without regard to callbacks. -/
theorem SameButCallbacks.slotKey?_eq
    {s s' : Endpoint σ}
    (hSame : SameButCallbacks s s')
    (r : Reception) :
    s'.slotKey? r = s.slotKey? r := by
  unfold Endpoint.slotKey?
  rw [hSame.connectbuf]

theorem SameButCallbacks.recvSlot_eq
    {s s' : Endpoint σ}
    (hSame : SameButCallbacks s s')
    (conId : ConId)
    (msgH : MsgHeader) :
    s'.recvSlot conId msgH = s.recvSlot conId msgH := by
  unfold Endpoint.recvSlot
  rw [hSame.recvdatabuf]

/- A packet that comes to an open slot is in its log. -/
theorem SlotLogs.mem_copied_enter
    {μ : Type}
    {slot : RecvData}
    (logs : SlotLogs μ)
    (recvId : RecvId)
    (message : μ)
    (hOpen : slot.status ≠ .complete) :
    ∃ log,
      (logs.enter recvId slot message).slots recvId =
          some log ∧
        message ∈ log.copied := by
  unfold enter
  cases logs.slots recvId with
  | none =>
      exact
        ⟨_, SlotTable.set_self _ recvId _,
          List.mem_singleton.mpr rfl⟩
  | some log =>
      simp only
      rw [if_neg hOpen]
      exact
        ⟨_, SlotTable.set_self _ recvId _,
          List.mem_append_right _ (List.mem_singleton.mpr rfl)⟩

theorem Arrives.mono
    {before earlier : PartyTrace σ α}
    {tr : PartyTransition σ α}
    {cause : Event α}
    {pkt : Packet}
    (hArrives : Arrives before tr cause pkt)
    (hSub : before ⊆ earlier) :
    Arrives earlier tr cause pkt := by
  rcases hArrives.handedOver with ⟨sending, hMem, hHands⟩
  exact ⟨hArrives.received, sending, hSub hMem, hHands⟩

section Runs

variable {p : Side → Platform}
variable {T : Transport σ α}
variable {s s' : Network Side (Endpoint σ) Packet}
variable {trace earlier later : PartyTrace σ α}
variable {tr : PartyTransition σ α}

/- The packet that arrives has the type of its cause. -/
theorem CarriedBy.msgType_eq
    {cause : Event α}
    {input : SendInput α}
    {r : Reception}
    (hRun : Run (twoParty p T).Step s trace s')
    (hSub : earlier ⊆ trace)
    (hCarried : CarriedBy earlier tr cause)
    (hRecv : tr.event.2 = .recvPkg input r) :
    r.msgH.msgType = cause.packetType := by
  rcases hCarried with ⟨before, after, pkt, rfl, hArrives⟩
  rcases hArrives.received with
    ⟨input', r', hRecv', hDatagram⟩
  rw [hRecv] at hRecv'
  cases hRecv'
  rcases hArrives.handedOver with
    ⟨sending, hMem, hEvent, hEmits⟩
  have hIn := hSub (List.mem_append_left _ hMem)
  rcases (hRun.mem_step hIn).step with ⟨_, _, hSending⟩
  have hType := NodeStep.packetType hSending pkt hEmits
  rw [hEvent] at hType
  rw [Reception.msgH_datagram hDatagram]
  exact hType

/- What lies before the last transition comes earlier. -/
theorem CarriedBy.arrives
    {cause : Event α}
    (hCarried : CarriedBy (earlier ++ [tr]) tr cause) :
    ∃ pkt, Arrives earlier tr cause pkt := by
  rcases hCarried with ⟨before, after, pkt, hSplit, hArrives⟩
  have hLength := congrArg List.length hSplit
  simp only [List.length_append, List.length_cons,
    List.length_nil] at hLength
  have hPrefix : before <+: earlier :=
    List.prefix_of_prefix_length_le
      (List.prefix_append before (tr :: after))
      ⟨[tr], hSplit⟩ (by omega)
  exact ⟨pkt, hArrives.mono hPrefix.subset⟩

/-
  The call of a callback is for a slot, and the packet that
  has arrived was copied into it.
-/
theorem CallsBack.exists_log
    {msgType : UInt8}
    (hRun :
      Run (twoParty p T).Step s (earlier ++ tr :: later) s')
    (hCalls : CallsBack tr msgType) :
    (∃ recvId log,
        CopiedInto tr recvId ∧
          (slotLogs tr.event.1 (earlier ++ [tr])).slots
              recvId =
            some log ∧
          tr ∈ log.copied) ∧
      Registered (tr.post.node tr.event.1) msgType := by
  rcases hCalls with ⟨hCalls, input, r, hRecv, rfl⟩
  have hMem : tr ∈ earlier ++ tr :: later :=
    List.mem_append_right _ List.mem_cons_self
  rcases (hRun.mem_step hMem).step with ⟨s₁, hSame, _, hExec⟩
  rw [hRecv] at hExec
  refine ⟨?_, recvPkg_callback hExec hCalls⟩
  rcases recvPkg_delivers hExec hCalls with
    ⟨conId, seqnr, recvId, slot, hKey, hSlot, hOpen⟩
  rw [hSame.slotKey?_eq] at hKey
  rw [hSame.recvSlot_eq] at hSlot
  rcases
    SlotLogs.mem_copied_enter (slotLogs tr.event.1 earlier)
      recvId tr hOpen with
    ⟨log, hLog, hIn⟩
  refine
    ⟨recvId, log,
      ⟨input, r, conId, seqnr, slot, hRecv, hKey, hSlot,
        hOpen⟩,
      ?_, hIn⟩
  rw [slotLogs_concat, if_pos rfl, hRecv]
  unfold SlotLogs.next
  simp only [hKey, hSlot]
  exact hLog

end Runs

/-
  Whatever is registered: if no packet of `keepalive_fn`
  arrives where a callback for its type is registered, and no
  packet is copied into a slot with packets of another
  origin, then every packet in a slot with which the callback
  for a type is called is one that `mlSendData` of the peer
  sent with that type.
-/
theorem types_never_mix
    {p : Side → Platform}
    {T : Transport σ α}
    {s s' : Network Side (Endpoint σ) Packet}
    {trace : PartyTrace σ α}
    (hStart : TwoPartyStart s)
    (hRun : Run (twoParty p T).Step s trace s')
    (hNever :
      ∀ earlier tr later, trace = earlier ++ tr :: later →
        ¬ KeepaliveMixes earlier tr ∧
          ¬ SlotMixes earlier tr) :
    ∀ earlier tr later, trace = earlier ++ tr :: later →
      ∀ msgType, CallsBack tr msgType →
        ∃ recvId log,
          CopiedInto tr recvId ∧
            (slotLogs tr.event.1 (earlier ++ [tr])).slots
                recvId =
              some log ∧
            tr ∈ log.copied ∧
            ∀ other ∈ log.copied,
              ∃ input connectionID sendbuf bufsize,
                CarriedBy (earlier ++ [tr]) other
                  (.sendData input connectionID sendbuf
                    bufsize msgType) := by
  rintro earlier tr later rfl msgType hCalls
  rcases hCalls.exists_log hRun with
    ⟨⟨recvId, log, hCopied, hLog, hIn⟩, hRegistered⟩
  rcases hCalls with ⟨_, input, r, hRecv, rfl⟩
  have hPrefix : earlier ++ [tr] <+: earlier ++ tr :: later :=
    ⟨later, by simp⟩
  rcases
    FilledByOne.run hStart hRun
      (fun before other after hSplit =>
        (hNever before other after hSplit).2)
      hPrefix hLog with
    ⟨origin, hAll⟩
  rcases hAll tr hIn with ⟨cause, hCarried, hOrigin⟩
  have hType :=
    hCarried.msgType_eq hRun hPrefix.subset hRecv
  have hLess := hRegistered.1
  refine ⟨recvId, log, hCopied, hLog, hIn, ?_⟩
  rw [hType] at hLess hRegistered ⊢
  cases cause with
  | sendData input' connectionID sendbuf bufsize msgtype =>
      intro other hOther
      rcases hAll other hOther with
        ⟨cause', hCarried', hSame⟩
      rw [← hOrigin] at hSame
      cases cause' with
      | sendData input₂ connectionID₂ sendbuf₂ bufsize₂ type₂ =>
          cases hSame
          exact
            ⟨input₂, connectionID₂, sendbuf₂, bufsize₂,
              hCarried'⟩
      | _ => cases hSame
  | keepalive input' peer =>
      rcases hCarried.arrives with ⟨pkt, hArrives⟩
      exact
        absurd ⟨input', peer, pkt, hArrives, hRegistered⟩
          (hNever earlier tr later rfl).1
  | recvPkg | openConnection | closeConnection | pmtuTimeout
  | recvTimeout =>
      have hNot : ¬ mlConMsg.toNat < msgMultiplexSize := by
        decide
      exact absurd hLess hNot
  | pktRecvTimeout | lastPktRecvTimeout =>
      have hNot : ¬ mlNackMsg.toNat < msgMultiplexSize := by
        decide
      exact absurd hLess hNot

------------------------------------------------------------
-- A Keepalive Message That Is Delivered
------------------------------------------------------------

namespace Sample

/- What comes before an element is before the last one. -/
theorem before_last
    {β : Type}
    {first earlier later : List β}
    {last tr : β}
    (hSplit : first ++ [last] = earlier ++ tr :: later) :
    earlier ⊆ first := by
  have hDrop := congrArg List.dropLast hSplit
  rw [List.dropLast_concat,
    List.dropLast_append_of_ne_nil (List.cons_ne_nil _ _)]
    at hDrop
  rw [hDrop]
  exact List.subset_append_left _ _

/- A packet of the type of connection messages is no data. -/
theorem classify_ne_data
    {r : Reception}
    {pkt : Packet}
    (hDatagram : r.datagram = pkt.datagram)
    (hType : pkt.header.msgType = mlConMsg) :
    r.classify ≠ .data := by
  have hConn : r.msgH.msgType = mlConMsg := by
    rw [Reception.msgH_datagram hDatagram]
    exact hType
  unfold Reception.classify
  rw [if_pos hConn]
  split_ifs <;> simp

/- Nor is what arrives after connection messages alone. -/
theorem classify_ne_data_of_earlier
    {earlier later : PartyTrace Unit ErrorCode}
    {tr : PartyTransition Unit ErrorCode}
    {s : Network Side (Endpoint Unit) Packet}
    {input : SendInput ErrorCode}
    {r : Reception}
    (hRun : Run party.Step hosts (earlier ++ tr :: later) s)
    (hRecv : tr.event.2 = .recvPkg input r)
    (hConn :
      ∀ other ∈ earlier,
        other.event.2.packetType = mlConMsg) :
    r.classify ≠ .data := by
  rcases exists_arrives hosts_start hRun hRecv with
    ⟨cause, pkt, hArrives, hDatagram, hKind⟩
  rcases hArrives.handedOver with
    ⟨sending, hMem, hEvent, _⟩
  have hType := hConn sending hMem
  rw [hEvent] at hType
  exact classify_ne_data hDatagram (hKind.trans hType)

/- A short message of a ready host is a single fragment. -/
theorem exists_fragment
    {s : Endpoint Unit}
    {con : ConnectData}
    (msgtype : UInt8)
    (bytes : List UInt8)
    (hCon : s.connectbuf first = some con)
    (hPmtu : con.pmtusize = pmtuDslSlim)
    (hExternal : con.externalConnectionID = 0)
    (hType : msgtype.toNat < msgMultiplexSize)
    (hPos : 0 < bytes.length)
    (hShort : bytes.length ≤ 1000) :
    ∃ (m : Message) (pkt : Packet),
      sendMsg Transport.scripted once s first msgtype bytes
          bytes.length false =
        .ok
          (s.setConNet first
            { con with seqnr := con.seqnr + 1 } (),
            [.packet pkt .ok]) ∧
        m.conId = first ∧ m.msgtype = msgtype ∧
        m.IsFragment pkt ∧ pkt.piece.length = m.length ∧
        pkt.datagram.length ≤ msgbufSize := by
  have hRoom :
      (bytes.length : Int) ≤ con.pmtusize - msgHeaderSize := by
    rw [hPmtu]
    unfold pmtuDslSlim msgHeaderSize
    omega
  have hOne :
      false = true ∨
        (bytes.length : Int) ≤
          con.pmtusize - msgHeaderSize :=
    Or.inr hRoom
  have hSend :=
    sendMsg_oncePacket msgtype bytes hCon
      (by rw [hPmtu]; decide)
      (by rw [hPmtu]; decide)
      (Int.natCast_nonneg bytes.length) hOne
  rw [min_eq_right hRoom, Int.toNat_natCast] at hSend
  let m : Message :=
    { conId := first
      localConId := Int32.ofInt (first : Nat)
      seqnr := con.seqnr.toInt32
      msgtype := msgtype
      monDataHdr := MonHeader.none
      bytes := bytes
      bytes_pos := hPos
      bytes_le := by
        unfold maxMsgLength
        omega
      msgtype_lt := hType }
  have hAddresses : con.Addresses first m :=
    ⟨by rw [hExternal]; rfl, rfl, rfl⟩
  rcases
    (hAddresses.carries MonHeader.none).isFragment
      onceAttempt hPos (show 0 + bytes.length ≤ m.length by
        change 0 + bytes.length ≤ bytes.length
        omega) with
    ⟨hFragment, hPiece⟩
  refine
    ⟨m, _, hSend, rfl, rfl, hFragment,
      congrArg Tiling.Piece.length hPiece, ?_⟩
  simp only [Packet.datagram, SendJob.packet, onceAttempt,
    MonHeader.none, List.length_append,
    MsgHeader.length_encode, length_readBlock,
    List.length_nil, msgHeaderSize, msgbufSize]
  omega

/- Where nothing has arrived yet, it is delivered at once. -/
theorem exists_delivered
    {s : Endpoint Unit}
    {con : ConnectData}
    {m : Message}
    {pkt : Packet}
    (hCon : s.connectbuf first = some con)
    (hEmpty : s.recvdatabuf = SlotTable.empty)
    (hReports : s.reports m = true)
    (hConId : m.conId = first)
    (hFragment : m.IsFragment pkt)
    (hWhole : pkt.piece.length = m.length)
    (hFits : pkt.datagram.length ≤ msgbufSize) :
    ∃ r s' outputs,
      r.datagram = pkt.datagram ∧
        exec platform Transport.scripted s
            (.recvPkg once r) = .ok (s', outputs) ∧
        retransmissions outputs = [] ∧
        deliveries outputs ≠ [] ∧
        r.msgH.msgType = m.msgtype := by
  rw [← hConId] at hCon
  have hTracks : s.Tracks m [] := by
    refine Or.inl ⟨rfl, ?_⟩
    rw [hEmpty]
    exact SlotTable.find?_empty _
  have hMax := m.bytes_le
  have hBytes :
      Tiling.total [] + pkt.piece.length < 2 ^ 31 := by
    rw [hWhole]
    unfold maxMsgLength at hMax
    change 0 + m.bytes.length < 2 ^ 31
    omega
  rcases
    hTracks.exists_recvDataMsg hCon hReports hFragment
      (fun _ => by
        rw [hEmpty]
        exact ⟨firstSlot, firstFree?_recvdatabuf⟩)
      hBytes (by simp) with
    ⟨s', outputs, hRecv⟩
  have hDatagram :
      (pkt.reception (address 1) hFits).datagram =
        pkt.datagram := rfl
  refine
    ⟨pkt.reception (address 1) hFits, s', outputs, hDatagram,
      ?_, ?_, ?_, ?_⟩
  · unfold exec
    simp only [hFragment.recvPkg hDatagram hCon]
    exact hRecv
  · rcases recvDataMsg_cases hRecv with
      ⟨_, rfl⟩ | ⟨_, _, _, _, _, _, _, hEnter⟩
    · rfl
    · rcases Endpoint.enterPacket_cases hEnter with
        ⟨_, _, rfl⟩ |
        ⟨_, _, timers, calls, _, hRest, _, hCalls, _, rfl⟩
      · rfl
      · apply retransmissions_eq_nil
        intro output hMem other
        rcases List.mem_append.mp hMem with hTimer | hCall
        · rcases
            RecvData.recvFragment_timers hRest output
              hTimer with
            ⟨arg, rfl⟩
          simp
        · rcases hCalls with rfl | ⟨_, rfl⟩
          · cases hCall
          · rw [List.mem_singleton] at hCall
            rw [hCall]
            simp
  · have hPos := m.bytes_pos
    cases hTracks.recvDataMsg hCon hReports hFragment
        hRecv with
    | ignored hDone =>
        change 0 = m.bytes.length at hDone
        omega
    | entered _ _ _ _ _ hDeliveries =>
        have hTotal :
            Tiling.total ([] ++ [pkt.piece]) = m.length := by
          rw [List.nil_append, ← hWhole]
          simp [Tiling.total]
        rw [hDeliveries, if_pos hTotal]
        simp
  · rw [Reception.msgH_datagram hDatagram]
    exact hFragment.msgType

/-
  The left host, ready, hands over a single fragment, and the
  right one receives it: its callback is called.
-/
theorem exists_exchange
    {n : Network Side (Endpoint Unit) Packet}
    {con : ConnectData}
    {e : Event ErrorCode}
    {outputs : List Output}
    {s' : Endpoint Unit}
    {m : Message}
    {pkt : Packet}
    (hStep :
      NodeStep platform Transport.scripted (n.node .left) e
        outputs s')
    (hLocal : ∀ input r, e ≠ .recvPkg input r)
    (hSent : pkt ∈ packets outputs)
    (hResent : retransmissions outputs = [])
    (hCon : (n.node .right).connectbuf first = some con)
    (hEmpty : (n.node .right).recvdatabuf = SlotTable.empty)
    (hReports : (n.node .right).reports m = true)
    (hConId : m.conId = first)
    (hFragment : m.IsFragment pkt)
    (hWhole : pkt.piece.length = m.length)
    (hFits : pkt.datagram.length ≤ msgbufSize) :
    ∃ r o n₁ n₂,
      Run party.Step n
          [⟨n, (.left, e), outputs, n₁⟩,
            ⟨n₁, (.right, .recvPkg once r), o, n₂⟩] n₂ ∧
        CallsBack
          (⟨n₁, (.right, .recvPkg once r), o, n₂⟩ :
            Transition (Network Side (Endpoint Unit) Packet)
              (Side × Event ErrorCode) Output)
          m.msgtype := by
  rcases
    exists_delivered hCon hEmpty hReports hConId hFragment
      hWhole hFits with
    ⟨r, s₂, o, hDatagram, hExec, hQuiet, hCalls, hType⟩
  have hFirst :=
    step_after hStep
      (fun input r hEq => absurd hEq (hLocal input r))
      hResent
  have hSecond :
      party.Step (Network.after n .left s' outputs)
        (.right, .recvPkg once r) o
        (Network.after (Network.after n .left s' outputs)
          .right s₂ o) := by
    refine step_after ⟨trivial, hExec⟩ ?_ hQuiet
    intro input other hEq
    cases hEq
    exact
      ⟨pkt, List.mem_append_right _ hSent, hDatagram⟩
  exact
    ⟨r, o, _, _, .cons hFirst (.cons hSecond (.nil _)),
      hCalls, once, r, rfl, hType⟩

theorem length_keepaliveMsg :
    (keepaliveMsg 0).length = 12 := by
  decide +kernel

/- The keepalive timer of a ready host sends a fragment. -/
theorem exists_keepalive
    {s : Endpoint Unit}
    {con : ConnectData}
    (hEntry : OnlyEntry s 1 2 con)
    (hStatus : con.status = .ready)
    (hExternal : con.externalConnectionID = 0)
    (hKeepalive : con.keepalive = 10)
    (hSeq : con.keepaliveSeq = 0) :
    ∃ (outputs : List Output) (s' : Endpoint Unit)
        (m : Message) (pkt : Packet),
      NodeStep platform Transport.scripted s
          (.keepalive once (socketID 2)) outputs s' ∧
        pkt ∈ packets outputs ∧
        retransmissions outputs = [] ∧
        m.conId = first ∧ m.msgtype = msgTypeMlKeepalive ∧
        m.IsFragment pkt ∧ pkt.piece.length = m.length ∧
        pkt.datagram.length ≤ msgbufSize := by
  have hFound :
      s.connectionOf platform (socketID 2) =
        some (first, con) :=
    connectionOf_first hEntry.connectbuf
      hEntry.externalSocketID
  have hCon :
      (s.setCon first
        { con with
          keepaliveSeq :=
            con.keepaliveSeq + 1 }).connectbuf first =
        some
          { con with keepaliveSeq := con.keepaliveSeq + 1 } :=
    SlotTable.set_self s.connectbuf first _
  rcases
    exists_fragment msgTypeMlKeepalive (keepaliveMsg 0) hCon
      hEntry.pmtusize hExternal (by decide)
      (by rw [length_keepaliveMsg]; decide)
      (by rw [length_keepaliveMsg]; decide) with
    ⟨m, pkt, hSend, hConId, hType, hFragment, hWhole, hFits⟩
  have hTimer :
      ∃ s',
        keepaliveFn platform Transport.scripted once s
            (socketID 2) =
          .ok (s',
            [.packet pkt .ok,
              .keepaliveTimer (socketID 2)]) := by
    have hEnabled : ¬ con.keepalive ≤ 0 := by
      rw [hKeepalive]
      decide
    unfold keepaliveFn
    simp only [hFound]
    rw [if_neg hEnabled, if_pos hStatus]
    rw [← hSeq] at hSend
    rw [hSend]
    exact ⟨_, rfl⟩
  rcases hTimer with ⟨s', hTimer⟩
  exact
    ⟨_, s', m, pkt, ⟨trivial, hTimer⟩,
      List.mem_singleton.mpr rfl, rfl, hConId, hType,
      hFragment, hWhole, hFits⟩

/- A ready host sends one byte of type 5. -/
theorem exists_sendData
    {s : Endpoint Unit}
    {con : ConnectData}
    (hEntry : OnlyEntry s 1 2 con)
    (hStatus : con.status = .ready)
    (hExternal : con.externalConnectionID = 0) :
    ∃ (outputs : List Output) (s' : Endpoint Unit)
        (m : Message) (pkt : Packet),
      NodeStep platform Transport.scripted s
          (.sendData once 0 [7] 1 5) outputs s' ∧
        pkt ∈ packets outputs ∧
        retransmissions outputs = [] ∧
        m.conId = first ∧ m.msgtype = 5 ∧
        m.IsFragment pkt ∧ pkt.piece.length = m.length ∧
        pkt.datagram.length ≤ msgbufSize := by
  have hCon : s.connectbuf first = some con := by
    rw [hEntry.connectbuf]
    exact SlotTable.set_self _ first con
  rcases
    exists_fragment 5 [7] hCon hEntry.pmtusize hExternal
      (by decide) (by decide) (by decide) with
    ⟨m, pkt, hSend, hConId, hType, hFragment, hWhole, hFits⟩
  have hExec :
      ∃ s' : Endpoint Unit,
        exec platform Transport.scripted s
            (.sendData once 0 [7] 1 5) =
          .ok (s', [.packet pkt .ok]) := by
    unfold exec mlSendData
    simp only [connectbufAt_first, hCon, hStatus]
    exact ⟨_, hSend⟩
  rcases hExec with ⟨s', hExec⟩
  exact
    ⟨_, s', m, pkt, ⟨trivial, hExec⟩,
      List.mem_singleton.mpr rfl, rfl, hConId, hType,
      hFragment, hWhole, hFits⟩

end Sample

open Sample in
/- The callback for type 5 is called for what was sent. -/
theorem data_calls_back :
    ∃ (earlier : PartyTrace Unit ErrorCode)
      (tr : Transition
        (Network Side (Endpoint Unit) Packet)
        (Side × Event ErrorCode) Output)
      (s : Network Side (Endpoint Unit) Packet),
      Run party.Step hosts (earlier ++ [tr]) s ∧
        CallsBack tr 5 ∧
        ∃ recvId log,
          CopiedInto tr recvId ∧
            (slotLogs tr.event.1 (earlier ++ [tr])).slots
                recvId =
              some log ∧
            tr ∈ log.copied ∧
            ∀ other ∈ log.copied,
              ∃ input connectionID sendbuf bufsize,
                CarriedBy (earlier ++ [tr]) other
                  (.sendData input connectionID sendbuf
                    bufsize 5) := by
  rcases exists_handshake 0 with
    ⟨con₁, con₂, con₃, r₁, r₂, o₁, o₂, o₃, n₁, n₂, n₃, _,
      hN₂, hN₃, hStep₁, hStep₂, hStep₃, hEntry₂, hEntry₃,
      hStatus, hExternal, _, _⟩
  have hLeft : n₃.node .left = hostWith .left con₃ := by
    rw [hN₃]
    rfl
  have hRight : n₃.node .right = hostWith .right con₂ := by
    rw [hN₃, hN₂]
    rfl
  rw [← hLeft] at hEntry₃
  rcases exists_sendData hEntry₃ hStatus hExternal with
    ⟨outputs, s', m, pkt, hStep, hSent, hResent, hConId,
      hType, hFragment, hWhole, hFits⟩
  rcases
    exists_exchange hStep (by simp) hSent hResent
      (by
        rw [hRight, hEntry₂.connectbuf]
        exact SlotTable.set_self _ first con₂)
      (by rw [hRight]; rfl)
      (by rw [hRight]; rfl)
      hConId hFragment hWhole hFits with
    ⟨r, o, n₄, n₅, hExchange, hCalls⟩
  rw [hType] at hCalls
  have hRun :
      Run party.Step hosts ([_, _, _, _] ++ [_]) n₅ :=
    Run.cons hStep₁
      (Run.cons hStep₂ (Run.cons hStep₃ hExchange))
  have hInvite : r₁.classify ≠ .data := by
    have hSplit :
        Run party.Step hosts ([_] ++ _ :: [_, _, _]) n₅ :=
      hRun
    apply classify_ne_data_of_earlier hSplit rfl
    intro other hMem
    rcases List.mem_singleton.mp hMem with rfl
    rfl
  have hConnect : r₂.classify ≠ .data := by
    have hSplit :
        Run party.Step hosts ([_, _] ++ _ :: [_, _]) n₅ :=
      hRun
    apply classify_ne_data_of_earlier hSplit rfl
    intro other hMem
    simp only [List.mem_cons, List.not_mem_nil, or_false]
      at hMem
    rcases hMem with rfl | rfl
    · rfl
    · rfl
  refine
    ⟨[_, _, _, _], _, n₅, hRun, hCalls,
      types_never_mix hosts_start hRun ?_ [_, _, _, _] _ []
        rfl 5 hCalls⟩
  intro earlier tr later hSplit
  have hIn := before_last hSplit
  constructor
  · rintro ⟨input, peer, other, hArrives, _⟩
    rcases hArrives.handedOver with
      ⟨sending, hMem, hEvent, _⟩
    have hFirst := hIn hMem
    simp only [List.mem_cons, List.not_mem_nil, or_false]
      at hFirst
    rcases hFirst with rfl | rfl | rfl | rfl
    · cases (Prod.mk.inj hEvent).2
    · cases (Prod.mk.inj hEvent).2
    · cases (Prod.mk.inj hEvent).2
    · cases (Prod.mk.inj hEvent).2
  · rintro ⟨recvId, log, _, _, _, _, _, hLog, _⟩
    rw [slotLogs_eq_none] at hLog
    · cases hLog
    · intro other hMem input r' hRecv
      have hFirst := hIn hMem
      simp only [List.mem_cons, List.not_mem_nil, or_false]
        at hFirst
      rcases hFirst with rfl | rfl | rfl | rfl
      · cases hRecv
      · cases hRecv
        exact hInvite
      · cases hRecv
        exact hConnect
      · cases hRecv

open Sample in
/-
  The left host is ready and its keepalive timer fires: the
  callback of the right host for type `0x26` is called, and
  no message has ever been sent by the application.
-/
theorem keepalive_calls_back :
    ∃ (earlier : PartyTrace Unit ErrorCode)
      (tr : Transition
        (Network Side (Endpoint Unit) Packet)
        (Side × Event ErrorCode) Output)
      (s : Network Side (Endpoint Unit) Packet),
      TwoPartyStart hosts ∧
        Run party.Step hosts (earlier ++ [tr]) s ∧
        CallsBack tr msgTypeMlKeepalive ∧
        ¬ ∃ msgType input connectionID sendbuf bufsize pkt,
          Arrives earlier tr
            (.sendData input connectionID sendbuf bufsize
              msgType) pkt := by
  rcases exists_handshake 10 with
    ⟨con₁, con₂, con₃, r₁, r₂, o₁, o₂, o₃, n₁, n₂, n₃, _,
      hN₂, hN₃, hStep₁, hStep₂, hStep₃, hEntry₂, hEntry₃,
      hStatus, hExternal, hKeepalive, hSeq⟩
  have hLeft : n₃.node .left = hostWith .left con₃ := by
    rw [hN₃]
    rfl
  have hRight : n₃.node .right = hostWith .right con₂ := by
    rw [hN₃, hN₂]
    rfl
  rw [← hLeft] at hEntry₃
  rcases
    exists_keepalive hEntry₃ hStatus hExternal hKeepalive
      hSeq with
    ⟨outputs, s', m, pkt, hStep, hSent, hResent, hConId,
      hType, hFragment, hWhole, hFits⟩
  rcases
    exists_exchange hStep (by simp) hSent hResent
      (by
        rw [hRight, hEntry₂.connectbuf]
        exact SlotTable.set_self _ first con₂)
      (by rw [hRight]; rfl)
      (by rw [hRight]; rfl)
      hConId hFragment hWhole hFits with
    ⟨r, o, n₄, n₅, hExchange, hCalls⟩
  rw [hType] at hCalls
  refine
    ⟨[_, _, _, _], _, n₅, hosts_start,
      Run.cons hStep₁
        (Run.cons hStep₂ (Run.cons hStep₃ hExchange)),
      hCalls, ?_⟩
  rintro ⟨msgType, input, connectionID, sendbuf, bufsize,
    other, hArrives⟩
  rcases hArrives.handedOver with ⟨sending, hMem, hEvent, _⟩
  simp only [List.mem_cons, List.not_mem_nil, or_false]
    at hMem
  rcases hMem with rfl | rfl | rfl | rfl <;>
    simp at hEvent

end ML

end NapaBaselibs
