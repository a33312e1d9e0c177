import NapaBaselibs.Lib.Leases
import NapaBaselibs.ML.LiveSlots

/-
  Whose packets a reception slot is filled with.

  A slot is found by the connection and the sequence number
  of a packet, and lives until its timer fires.  An index of
  `connectbuf` is used again at once, and sequence numbers
  start again with a connection, so two messages can have
  both in common.  Beside each run is kept which message the
  packets were cut from: the first one to arrive leases the
  slot for its message until the timer fires.

  Key definitions include:
    * `Endpoint.slotKey?`
    * `SlotLogs`, `SlotLogs.next`, `SlotLogs.Separate`
    * `LoggedStep`, `leaseEvents`
    * `Agrees`

  Key theorems include:
    * `Agrees.enter`, `LoggedStep.agrees`
    * `messages_keep_apart_iff`
    * `restarted_peer_shares_slot`
-/

------------------------------------------------------------
-- Messages Of Slots
------------------------------------------------------------

namespace NapaBaselibs

namespace ML

variable {σ α μ : Type}

/- What a slot is found by. -/
abbrev SlotKey := ConId × Int32

/- What a slot in use is found by. -/
def RecvData.key (slot : RecvData) : SlotKey :=
  (slot.connectionID, slot.seqnr)

/- What the slots in use are found by. -/
def Endpoint.slotKeys
    (s : Endpoint σ) : SlotTable recvdatabufSize SlotKey :=
  fun recvId => (s.recvdatabuf recvId).map RecvData.key

/-
  What `recv_data_msg` looks for a slot by: nothing for a
  datagram that it does not get, or that names a connection
  that is not there.
-/
def Endpoint.slotKey?
    (s : Endpoint σ)
    (r : Reception) : Option SlotKey :=
  if r.classify = .data then
    match SlotTable.index? connectbufSize
        r.msgH.remoteConId.toInt with
    | some conId =>
        if (s.connectbuf conId).isSome then
          some (conId, r.msgH.msgSeqNum)
        else
          none
    | none => none
  else
    none

/-
  About a slot in use: the message it was created for, and
  the messages of the packets that were copied into it.
-/
structure SlotLog (μ : Type) where
  message : μ
  copied : List μ

/-
  The logs of the slots.  A packet that was discarded since
  its slot was complete is recorded with its message and the
  message the slot had been created for.
-/
structure SlotLogs (μ : Type) where
  slots : SlotTable recvdatabufSize (SlotLog μ)
  discarded : List (μ × μ)

namespace SlotLogs

/- No slot is in use. -/
def start : SlotLogs μ where
  slots := SlotTable.empty
  discarded := []

/- A packet of a message comes to a slot. -/
def enter
    (logs : SlotLogs μ)
    (recvId : RecvId)
    (slot : RecvData)
    (message : μ) : SlotLogs μ :=
  match logs.slots recvId with
  | none =>
      { logs with
        slots := logs.slots.set recvId ⟨message, [message]⟩ }
  | some log =>
      if slot.status = .complete then
        { logs with
          discarded :=
            logs.discarded ++ [(message, log.message)] }
      else
        { logs with
          slots :=
            logs.slots.set recvId
              { log with
                copied := log.copied ++ [message] } }

/-
  The logs after an event.  A data packet comes with the
  message it was cut from.
-/
def next
    (s : Endpoint σ)
    (logs : SlotLogs μ)
    (message : μ) : Event α → SlotLogs μ
| .recvPkg _ r =>
    match s.slotKey? r with
    | none => logs
    | some (conId, _) =>
        match s.recvSlot conId r.msgH with
        | .error _ => logs
        | .ok (recvId, slot) =>
            logs.enter recvId slot message
| .recvTimeout recvId =>
    { logs with slots := logs.slots.free recvId }
| _ => logs

/-
  No packet was copied into the slot of another message, and
  none discarded because of one.
-/
structure Separate (logs : SlotLogs μ) : Prop where
  copied :
    ∀ recvId log, logs.slots recvId = some log →
      ∀ message ∈ log.copied, message = log.message
  discarded :
    ∀ pair ∈ logs.discarded, pair.1 = pair.2

theorem separate_start :
    (start : SlotLogs μ).Separate where
  copied _ _ hLog := by cases hLog
  discarded _ hMem := absurd hMem List.not_mem_nil

/- A packet that comes to a complete slot is discarded. -/
theorem discarded_enter
    {logs : SlotLogs μ}
    {recvId : RecvId}
    {log : SlotLog μ}
    {slot : RecvData}
    (hLog : logs.slots recvId = some log)
    (hComplete : slot.status = .complete)
    (message : μ) :
    (logs.enter recvId slot message).discarded =
      logs.discarded ++ [(message, log.message)] := by
  unfold enter
  rw [hLog]
  exact congrArg SlotLogs.discarded (if_pos hComplete)

/- Freeing a slot only forgets. -/
theorem Separate.free
    {logs : SlotLogs μ}
    (hSeparate : logs.Separate)
    (recvId : RecvId) :
    { logs with
      slots := logs.slots.free recvId }.Separate where
  copied i log hLog :=
    hSeparate.copied i log (SlotTable.free_eq_some hLog).2
  discarded := hSeparate.discarded

/- A packet that makes its slot leaves them separate. -/
theorem Separate.enter_free
    {logs : SlotLogs μ}
    {recvId : RecvId}
    (hSeparate : logs.Separate)
    (hFree : logs.slots recvId = none)
    (slot : RecvData)
    (message : μ) :
    (logs.enter recvId slot message).Separate := by
  unfold enter
  rw [hFree]
  refine ⟨?_, hSeparate.discarded⟩
  intro i log hLog other hMem
  rcases SlotTable.set_eq_some_cases hLog with
    ⟨rfl, rfl⟩ | ⟨_, hOld⟩
  · exact List.mem_singleton.mp hMem
  · exact hSeparate.copied i log hOld other hMem

/-
  A packet that comes to a slot in use leaves them separate
  exactly if the slot is its own message's.
-/
theorem Separate.enter_iff
    {logs : SlotLogs μ}
    {recvId : RecvId}
    {log : SlotLog μ}
    (hSeparate : logs.Separate)
    (hLog : logs.slots recvId = some log)
    (slot : RecvData)
    (message : μ) :
    (logs.enter recvId slot message).Separate ↔
      message = log.message := by
  unfold enter
  rw [hLog]
  simp only
  split
  · constructor
    · intro hAfter
      exact hAfter.discarded (message, log.message) (by simp)
    · intro hOwn
      refine ⟨hSeparate.copied, ?_⟩
      intro pair hMem
      rcases List.mem_append.mp hMem with hOld | hNew
      · exact hSeparate.discarded pair hOld
      · rw [List.mem_singleton.mp hNew]
        exact hOwn
  · constructor
    · intro hAfter
      exact
        hAfter.copied recvId _ (SlotTable.set_self ..)
          message (by simp)
    · intro hOwn
      refine ⟨?_, hSeparate.discarded⟩
      intro i found hFound other hMem
      rcases SlotTable.set_eq_some_cases hFound with
        ⟨rfl, rfl⟩ | ⟨_, hOld⟩
      · rcases List.mem_append.mp hMem with hIn | hNew
        · exact hSeparate.copied i log hLog other hIn
        · rw [List.mem_singleton.mp hNew]
          exact hOwn
      · exact hSeparate.copied i found hOld other hMem

end SlotLogs

/- A step of the node, with the logs of its slots. -/
def LoggedStep
    (p : Platform)
    (T : Transport σ α)
    (s : Endpoint σ × SlotLogs μ)
    (e : Event α × μ)
    (outputs : List Output)
    (s' : Endpoint σ × SlotLogs μ) : Prop :=
  NodeStep p T s.1 e.1 outputs s'.1 ∧
    s'.2 = s.2.next s.1 e.2 e.1

/- A transition of the node with the logs. -/
abbrev LoggedTransition (σ α μ : Type) :=
  Transition (Endpoint σ × SlotLogs μ) (Event α × μ) Output

/-
  What a transition means for the slots as leases: a data
  packet uses one for its message, and the timer of a slot
  ends it.
-/
def leaseEvents
    (tr : LoggedTransition σ α μ) :
    List (LeaseEvent SlotKey μ) :=
  match tr.event with
  | (.recvPkg _ r, message) =>
      match tr.pre.1.slotKey? r with
      | some key => [.use key message]
      | none => []
  | (.recvTimeout recvId, _) =>
      match tr.pre.1.slotKeys recvId with
      | some key => [.expire key]
      | none => []
  | _ => []
------------------------------------------------------------
-- Slots As Leases
------------------------------------------------------------

/-
  The slots in use, what is logged about them and the leases
  say the same, and no two slots are found by the same.
-/
structure Agrees
    (keys : SlotTable recvdatabufSize SlotKey)
    (logs : SlotLogs μ)
    (leases : Leases SlotKey μ) : Prop where
  held :
    ∀ recvId key, keys recvId = some key →
      ∃ log, logs.slots recvId = some log ∧
        leases key = some log.message
  free :
    ∀ recvId, keys recvId = none →
      logs.slots recvId = none
  kept :
    ∀ key holder, leases key = some holder →
      ∃ recvId, keys recvId = some key
  unique :
    ∀ i j key, keys i = some key → keys j = some key → i = j

namespace Agrees

variable {keys : SlotTable recvdatabufSize SlotKey}
variable {logs : SlotLogs μ}
variable {leases : Leases SlotKey μ}
variable {recvId : RecvId}
variable {key : SlotKey}

/- Nothing is in use at the start. -/
theorem start :
    Agrees SlotTable.empty (SlotLogs.start : SlotLogs μ)
      (fun _ => none) where
  held _ _ hKey := by cases hKey
  free _ _ := rfl
  kept _ _ hHolder := by cases hHolder
  unique _ _ _ hKey := by cases hKey

/- A slot that is freed ends its lease. -/
theorem expire
    (hAgrees : Agrees keys logs leases)
    (hKey : keys recvId = some key) :
    Agrees (keys.free recvId)
      { logs with slots := logs.slots.free recvId }
      (leases.next (.expire key)) := by
  rw [Leases.next_expire]
  refine ⟨?_, ?_, ?_, ?_⟩
  · intro i other hOther
    rcases SlotTable.free_eq_some hOther with ⟨hNe, hOld⟩
    rcases hAgrees.held i other hOld with
      ⟨log, hLog, hHolder⟩
    refine ⟨log, ?_, ?_⟩
    · rw [← hLog]
      exact SlotTable.free_of_ne _ hNe
    · rw [Function.update_of_ne, hHolder]
      rintro rfl
      exact hNe (hAgrees.unique i recvId other hOld hKey)
  · intro i hNone
    by_cases hEq : i = recvId
    · rw [hEq]
      exact SlotTable.free_self _ _
    · rw [SlotTable.free_of_ne _ hEq] at hNone
      exact
        (SlotTable.free_of_ne _ hEq).trans
          (hAgrees.free i hNone)
  · intro other holder hHolder
    by_cases hEq : other = key
    · rw [hEq, Function.update_self] at hHolder
      cases hHolder
    · rw [Function.update_of_ne hEq] at hHolder
      rcases hAgrees.kept other holder hHolder with
        ⟨i, hOther⟩
      refine ⟨i, ?_⟩
      rw [SlotTable.free_of_ne, hOther]
      rintro rfl
      rw [hKey, Option.some.injEq] at hOther
      exact hEq hOther.symm
  · intro i j other hFirst hSecond
    exact
      hAgrees.unique i j other
        (SlotTable.free_eq_some hFirst).2
        (SlotTable.free_eq_some hSecond).2

/- A timer for a slot that is free changes nothing. -/
theorem expire_free
    (hAgrees : Agrees keys logs leases)
    (hNone : keys recvId = none) :
    Agrees (keys.free recvId)
      { logs with slots := logs.slots.free recvId }
      leases := by
  have hKeys : keys.free recvId = keys :=
    Function.update_eq_self_iff.mpr hNone.symm
  have hSlots : logs.slots.free recvId = logs.slots :=
    Function.update_eq_self_iff.mpr
      (hAgrees.free recvId hNone).symm
  rw [hKeys, hSlots]
  exact hAgrees

/- A packet that makes its slot leases it. -/
theorem enter_free
    (hAgrees : Agrees keys logs leases)
    (hFree : keys recvId = none)
    (hNone : ∀ i, keys i ≠ some key)
    (slot : RecvData)
    (message : μ) :
    Agrees (keys.set recvId key)
        (logs.enter recvId slot message)
        (leases.next (.use key message)) ∧
      leases key = none := by
  have hUnleased : leases key = none := by
    cases hHolder : leases key with
    | none => rfl
    | some holder =>
        rcases hAgrees.kept key holder hHolder with
          ⟨i, hKey⟩
        exact absurd hKey (hNone i)
  refine ⟨?_, hUnleased⟩
  unfold SlotLogs.enter
  rw [hAgrees.free recvId hFree, Leases.next_use, hUnleased]
  refine ⟨?_, ?_, ?_, ?_⟩
  · intro i other hOther
    rcases SlotTable.set_eq_some_cases hOther with
      ⟨rfl, rfl⟩ | ⟨hNe, hOld⟩
    · exact
        ⟨_, SlotTable.set_self .., Function.update_self ..⟩
    · rcases hAgrees.held i other hOld with
        ⟨log, hLog, hHolder⟩
      refine ⟨log, ?_, ?_⟩
      · rw [← hLog]
        exact SlotTable.set_of_ne _ _ hNe
      · rw [Function.update_of_ne, hHolder]
        rintro rfl
        exact hNone i hOld
  · intro i hOther
    by_cases hEq : i = recvId
    · rw [hEq, SlotTable.set_self] at hOther
      cases hOther
    · rw [SlotTable.set_of_ne _ _ hEq] at hOther
      exact
        (SlotTable.set_of_ne _ _ hEq).trans
          (hAgrees.free i hOther)
  · intro other holder hHolder
    by_cases hEq : other = key
    · rw [hEq]
      exact ⟨recvId, SlotTable.set_self ..⟩
    · rw [Function.update_of_ne hEq] at hHolder
      rcases hAgrees.kept other holder hHolder with
        ⟨i, hOther⟩
      refine ⟨i, ?_⟩
      rw [SlotTable.set_of_ne, hOther]
      rintro rfl
      rw [hFree] at hOther
      cases hOther
  · intro i j other hFirst hSecond
    rcases SlotTable.set_eq_some_cases hFirst with
      ⟨rfl, rfl⟩ | ⟨_, hOld⟩
    · rcases SlotTable.set_eq_some_cases hSecond with
        ⟨rfl, _⟩ | ⟨_, hOther⟩
      · rfl
      · exact absurd hOther (hNone j)
    · rcases SlotTable.set_eq_some_cases hSecond with
        ⟨_, rfl⟩ | ⟨_, hOther⟩
      · exact absurd hOld (hNone i)
      · exact hAgrees.unique i j other hOld hOther

/- A packet that comes to a slot in use leaves its lease. -/
theorem enter_held
    (hAgrees : Agrees keys logs leases)
    (hKey : keys recvId = some key)
    (slot : RecvData)
    (message : μ) :
    Agrees keys (logs.enter recvId slot message)
        (leases.next (.use key message)) ∧
      ∃ log, logs.slots recvId = some log ∧
        leases key = some log.message := by
  rcases hAgrees.held recvId key hKey with
    ⟨log, hLog, hHolder⟩
  refine ⟨?_, log, hLog, hHolder⟩
  have hSame : leases.next (.use key message) = leases := by
    rw [Leases.next_use, hHolder, Option.getD_some,
      ← hHolder, Function.update_eq_self]
  rw [hSame]
  unfold SlotLogs.enter
  rw [hLog]
  simp only
  split
  · exact
      ⟨hAgrees.held, hAgrees.free, hAgrees.kept,
        hAgrees.unique⟩
  · refine ⟨?_, ?_, hAgrees.kept, hAgrees.unique⟩
    · intro i other hOther
      by_cases hEq : i = recvId
      · subst hEq
        rw [hKey, Option.some.injEq] at hOther
        subst hOther
        exact ⟨_, SlotTable.set_self .., hHolder⟩
      · rcases hAgrees.held i other hOther with
          ⟨found, hFound, hFoundHolder⟩
        exact
          ⟨found,
            (SlotTable.set_of_ne _ _ hEq).trans hFound,
            hFoundHolder⟩
    · intro i hNone
      have hNe : i ≠ recvId := by
        rintro rfl
        rw [hKey] at hNone
        cases hNone
      exact
        (SlotTable.set_of_ne _ _ hNe).trans
          (hAgrees.free i hNone)

end Agrees

------------------------------------------------------------
-- What A Step Does To The Slots
------------------------------------------------------------

section Steps

variable {p : Platform}
variable {T : Transport σ α}

theorem Endpoint.slotKeys_setSlot
    (s : Endpoint σ)
    (recvId : RecvId)
    (slot : RecvData) :
    (s.setSlot recvId slot).slotKeys =
      s.slotKeys.set recvId slot.key := by
  funext i
  unfold slotKeys setSlot
  by_cases hEq : i = recvId
  · simp only [hEq, SlotTable.set_self, Option.map_some]
  · simp only [SlotTable.set_of_ne _ _ hEq]

theorem slotKeys_recvTimeoutCb
    (s : Endpoint σ)
    (recvId : RecvId) :
    (recvTimeoutCb s recvId).slotKeys =
      s.slotKeys.free recvId := by
  funext i
  unfold Endpoint.slotKeys recvTimeoutCb
  by_cases hEq : i = recvId
  · simp only [hEq, SlotTable.free_self, Option.map_none]
  · simp only [SlotTable.free_of_ne _ hEq]

theorem RecvData.SameMessage.key_eq
    {slot slot' : RecvData}
    (hSame : slot.SameMessage slot') :
    slot'.key = slot.key := by
  unfold RecvData.key
  rw [hSame.connectionID, hSame.seqnr]

/- A packet stays in the slot that was found for it. -/
theorem Endpoint.enterPacket_slotKeys
    {s s' : Endpoint σ}
    {con : ConnectData}
    {recvId : RecvId}
    {slot : RecvData}
    {msgH : MsgHeader}
    {data : List UInt8}
    {outputs : List Output}
    (hEnter :
      s.enterPacket con recvId slot msgH data =
        .ok (s', outputs)) :
    (slot.status = .complete ∧ s' = s) ∨
      s'.slotKeys = s.slotKeys.set recvId slot.key := by
  rcases Endpoint.enterPacket_cases hEnter with
    ⟨hComplete, rfl, _⟩ |
    ⟨slot₁, slot₂, _, _, _, hFragment, hTimed, _, rfl, _⟩
  · exact Or.inl ⟨hComplete, rfl⟩
  · have hSame : slot.SameMessage slot₂ := by
      have hFirst := RecvData.recvFragment_sameMessage hFragment
      rcases hTimed with rfl | rfl
      · exact hFirst
      · exact hFirst.trans slot₁.sameMessage_startTimeouts
    right
    rw [slotKeys_setSlot, hSame.key_eq]

/- What a slot is looked for by. -/
theorem Endpoint.slotKey?_eq_some_iff
    {s : Endpoint σ}
    {r : Reception}
    {conId : ConId}
    {seqnr : Int32} :
    s.slotKey? r = some (conId, seqnr) ↔
      r.classify = .data ∧
        r.msgH.remoteConId.toInt = (conId : Nat) ∧
        (∃ con, s.connectbuf conId = some con) ∧
        r.msgH.msgSeqNum = seqnr := by
  unfold slotKey?
  constructor
  · intro hKey
    split at hKey
    · rename_i hClass
      split at hKey
      · rename_i found hIndex
        split at hKey
        · rename_i hSome
          cases hKey
          exact
            ⟨hClass, SlotTable.index?_eq_some_iff.mp hIndex,
              Option.isSome_iff_exists.mp hSome, rfl⟩
        · cases hKey
      · cases hKey
    · cases hKey
  · rintro ⟨hClass, hId, ⟨con, hCon⟩, rfl⟩
    rw [if_pos hClass, hId, SlotTable.index?_natCast]
    simp only [hCon, Option.isSome_some, if_true]

/- A datagram that no slot is looked for leaves them. -/
theorem recvPkg_keeps_slots
    {input : SendInput α}
    {s s' : Endpoint σ}
    {r : Reception}
    {outputs : List Output}
    (hRecv : recvPkg p T input s r = .ok (s', outputs))
    (hNone : s.slotKey? r = none) :
    s'.recvdatabuf = s.recvdatabuf := by
  cases recvPkg_nodeEffect hRecv with
  | quiet _ hSlots _ => exact hSlots
  | handshake _ hEffect => exact hEffect.recvdatabuf_eq
  | entered hClass hId hCon _ _ =>
      rw [Endpoint.slotKey?_eq_some_iff.mpr
        ⟨hClass, hId, ⟨_, hCon⟩, rfl⟩] at hNone
      cases hNone

/- No packet over a live connection is held back. -/
theorem hookRefuses_of_live
    {s : Endpoint σ}
    {msgH : MsgHeader}
    {conId : ConId}
    {con : ConnectData}
    (hId : msgH.remoteConId.toInt = (conId : Nat))
    (hCon : s.connectbuf conId = some con) :
    s.hookRefuses msgH = false := by
  unfold Endpoint.hookRefuses
  rw [hId, SlotTable.index?_natCast]
  simp only [hCon, Option.isNone_some, Bool.and_false]

theorem recvDataMsg_entered
    {s s' : Endpoint σ}
    {msgH : MsgHeader}
    {data : List UInt8}
    {outputs : List Output}
    {conId : ConId}
    {con : ConnectData}
    (hId : msgH.remoteConId.toInt = (conId : Nat))
    (hCon : s.connectbuf conId = some con)
    (hRecv :
      recvDataMsg s msgH data = .ok (s', outputs)) :
    ∃ recvId slot,
      s.recvSlot conId msgH = .ok (recvId, slot) ∧
        s.enterPacket con recvId slot msgH data =
          .ok (s', outputs) := by
  unfold recvDataMsg at hRecv
  rw [connectbufAt_natCast hId] at hRecv
  dsimp only at hRecv
  rw [hCon] at hRecv
  dsimp only at hRecv
  cases hSlot : s.recvSlot conId msgH with
  | error fault =>
      rw [hSlot] at hRecv
      cases hRecv
  | ok found =>
      rw [hSlot] at hRecv
      exact ⟨found.1, found.2, rfl, hRecv⟩

/- Any other one is entered into the slot found. -/
theorem recvPkg_entered
    {input : SendInput α}
    {s s' : Endpoint σ}
    {r : Reception}
    {outputs : List Output}
    {conId : ConId}
    {seqnr : Int32}
    (hRecv : recvPkg p T input s r = .ok (s', outputs))
    (hKey : s.slotKey? r = some (conId, seqnr)) :
    ∃ con recvId slot,
      s.recvSlot conId r.msgH = .ok (recvId, slot) ∧
        s.enterPacket con recvId slot r.msgH
            (r.datagram.drop r.bufptr) =
          .ok (s', outputs) := by
  rcases Endpoint.slotKey?_eq_some_iff.mp hKey with
    ⟨hClass, hId, ⟨con, hCon⟩, _⟩
  rw [recvPkg_data hClass (hookRefuses_of_live hId hCon)]
    at hRecv
  exact ⟨con, recvDataMsg_entered hId hCon hRecv⟩

/- No other event makes or frees a slot. -/
theorem NodeStep.slotKeys_eq
    {s s' : Endpoint σ}
    {e : Event α}
    {outputs : List Output}
    (hStep : NodeStep p T s e outputs s')
    (hPkg : ∀ input r, e ≠ .recvPkg input r)
    (hTimeout : ∀ recvId, e ≠ .recvTimeout recvId) :
    s'.slotKeys = s.slotKeys := by
  have hSame :
      s'.recvdatabuf = s.recvdatabuf →
        s'.slotKeys = s.slotKeys := by
    intro hSlots
    unfold Endpoint.slotKeys
    rw [hSlots]
  cases hStep.effect with
  | quiet _ hSlots _ => exact hSame hSlots
  | entered => exact absurd rfl (hPkg _ _)
  | handshake => exact absurd rfl (hPkg _ _)
  | opened hEffect => exact hSame hEffect.recvdatabuf_eq
  | closed => exact hSame rfl
  | retried hEffect => exact hSame hEffect.recvdatabuf_eq
  | expired => exact absurd rfl (hTimeout _)
  | @asked _ recvId slot _ _ hSlot _ hSlots _ =>
      funext i
      unfold Endpoint.slotKeys
      rw [hSlots]
      by_cases hEq : i = recvId
      · rw [hEq, SlotTable.set_self, hSlot]
        rfl
      · rw [SlotTable.set_of_ne _ _ hEq]

/-
  A packet is entered into the slot in use for its message,
  or into a new one where there is none.
-/
theorem Endpoint.recvSlot_keys
    {s s' : Endpoint σ}
    {con : ConnectData}
    {conId : ConId}
    {recvId : RecvId}
    {slot : RecvData}
    {msgH : MsgHeader}
    {data : List UInt8}
    {outputs : List Output}
    (hSlot : s.recvSlot conId msgH = .ok (recvId, slot))
    (hEnter :
      s.enterPacket con recvId slot msgH data =
        .ok (s', outputs)) :
    (s.slotKeys recvId = some (conId, msgH.msgSeqNum) ∧
        s'.slotKeys = s.slotKeys) ∨
      (s.slotKeys recvId = none ∧
        (∀ i,
          s.slotKeys i ≠ some (conId, msgH.msgSeqNum)) ∧
        s'.slotKeys =
          s.slotKeys.set recvId (conId, msgH.msgSeqNum)) := by
  rcases Endpoint.recvSlot_cases hSlot with ⟨hIs, hPlace⟩
  have hKey : slot.key = (conId, msgH.msgSeqNum) := by
    rcases isFor_eq_true_iff.mp hIs with
      ⟨hConnection, hSeqnr⟩
    unfold RecvData.key
    rw [hConnection, hSeqnr]
  rcases hPlace with hUsed | ⟨hFree, hNone, hCreate⟩
  · left
    have hHeld :
        s.slotKeys recvId = some (conId, msgH.msgSeqNum) := by
      unfold Endpoint.slotKeys
      rw [hUsed, Option.map_some, hKey]
    refine ⟨hHeld, ?_⟩
    rcases Endpoint.enterPacket_slotKeys hEnter with
      ⟨_, rfl⟩ | hSet
    · rfl
    · rw [hSet, hKey]
      exact SlotTable.set_eq_self hHeld
  · right
    refine ⟨?_, ?_, ?_⟩
    · unfold Endpoint.slotKeys
      rw [hFree, Option.map_none]
    · intro i hOther
      rcases Option.map_eq_some_iff.mp hOther with
        ⟨other, hAt, hSame⟩
      have hNot :=
        SlotTable.find?_eq_none_iff.mp hNone i other hAt
      unfold RecvData.key at hSame
      rw [Prod.mk.injEq] at hSame
      rw [isFor_eq_true_iff.mpr hSame] at hNot
      cases hNot
    · rcases Endpoint.enterPacket_slotKeys hEnter with
        ⟨hComplete, _⟩ | hSet
      · rw [(RecvData.create_ok hCreate).2.1] at hComplete
        cases hComplete
      · rw [hSet, hKey]

/-
  A packet that is entered uses the lease of the slot found
  for its message.
-/
theorem Agrees.entered
    {s s' : Endpoint σ}
    {logs : SlotLogs μ}
    {leases : Leases SlotKey μ}
    {con : ConnectData}
    {conId : ConId}
    {recvId : RecvId}
    {slot : RecvData}
    {msgH : MsgHeader}
    {data : List UInt8}
    {outputs : List Output}
    (hAgrees : Agrees s.slotKeys logs leases)
    (hSlot : s.recvSlot conId msgH = .ok (recvId, slot))
    (hEnter :
      s.enterPacket con recvId slot msgH data =
        .ok (s', outputs))
    (message : μ) :
    Agrees s'.slotKeys (logs.enter recvId slot message)
        (leases.next (.use (conId, msgH.msgSeqNum)
          message)) ∧
      (logs.Separate →
        ((logs.enter recvId slot message).Separate ↔
          leases.Allows
            (.use (conId, msgH.msgSeqNum) message))) := by
  rcases Endpoint.recvSlot_keys hSlot hEnter with
    ⟨hHeld, hKeys⟩ | ⟨hFree, hNew, hKeys⟩
  · rcases hAgrees.enter_held hHeld slot message with
      ⟨hAfter, log, hLog, hHolder⟩
    rw [hKeys]
    refine ⟨hAfter, ?_⟩
    intro hSeparate
    rw [hSeparate.enter_iff hLog]
    constructor
    · rintro rfl holder hOther
      rw [hHolder] at hOther
      exact Option.some.inj hOther
    · intro hAllows
      exact hAllows log.message hHolder
  · rcases hAgrees.enter_free hFree hNew slot message with
      ⟨hAfter, hUnleased⟩
    rw [hKeys]
    refine ⟨hAfter, ?_⟩
    intro hSeparate
    constructor
    · intro _ holder hHolder
      rw [hUnleased] at hHolder
      cases hHolder
    · intro _
      exact
        hSeparate.enter_free (hAgrees.free recvId hFree)
          slot message

/- A datagram that is received. -/
theorem LoggedStep.received
    {input : SendInput α}
    {s s' : Endpoint σ}
    {r : Reception}
    {outputs : List Output}
    {logs logs' : SlotLogs μ}
    {message : μ}
    (hRecv : recvPkg p T input s r = .ok (s', outputs))
    (hLogs :
      logs.next s message (Event.recvPkg input r) = logs') :
    LoggedStep p T (s, logs) (.recvPkg input r, message)
      outputs (s', logs') :=
  ⟨⟨trivial, hRecv⟩, hLogs.symm⟩

/- A slot that is freed by its timer. -/
theorem LoggedStep.expired
    {s s' : Endpoint σ}
    {recvId : RecvId}
    {outputs : List Output}
    {logs : SlotLogs μ}
    (message : μ)
    (hStep : NodeStep p T s (.recvTimeout recvId) outputs s') :
    LoggedStep p T (s, logs) (.recvTimeout recvId, message)
      outputs
      (s', { logs with slots := logs.slots.free recvId }) :=
  ⟨hStep, rfl⟩

/- A step that leaves the slots leaves the leases. -/
theorem Agrees.unchanged
    {s s' : Endpoint σ}
    {logs logs' : SlotLogs μ}
    {leases : Leases SlotKey μ}
    {events : List (LeaseEvent SlotKey μ)}
    (hAgrees : Agrees s.slotKeys logs leases)
    (hKeys : s'.slotKeys = s.slotKeys)
    (hLogs : logs' = logs)
    (hNo : events = []) :
    Agrees s'.slotKeys logs' (leases.after events) ∧
      (logs.Separate →
        (logs'.Separate ↔ leases.Respects events)) := by
  rw [hNo, hKeys, hLogs]
  exact
    ⟨hAgrees,
      fun hSeparate => iff_of_true hSeparate trivial⟩

variable {s s' : Endpoint σ × SlotLogs μ}
variable {e : Event α × μ}
variable {outputs : List Output}
variable {leases : Leases SlotKey μ}

/-
  A step keeps the agreement, and the messages are as
  separate after it as its use of the leases is allowed.
-/
theorem LoggedStep.agrees
    (hStep : LoggedStep p T s e outputs s')
    (hAgrees : Agrees s.1.slotKeys s.2 leases) :
    Agrees s'.1.slotKeys s'.2
        (leases.after (leaseEvents ⟨s, e, outputs, s'⟩)) ∧
      (s.2.Separate →
        (s'.2.Separate ↔
          leases.Respects
            (leaseEvents ⟨s, e, outputs, s'⟩))) := by
  rcases s with ⟨s, logs⟩
  rcases s' with ⟨s', logs'⟩
  rcases e with ⟨e, message⟩
  rcases hStep with ⟨hNode, hLogs⟩
  simp only at hNode hLogs hAgrees ⊢
  subst hLogs
  cases e with
  | recvPkg input r =>
      cases hKey : s.slotKey? r with
      | none =>
          refine hAgrees.unchanged ?_ ?_ ?_
          · unfold Endpoint.slotKeys
            rw [recvPkg_keeps_slots hNode.2 hKey]
          · simp only [SlotLogs.next, hKey]
          · simp only [leaseEvents, hKey]
      | some key =>
          rcases key with ⟨conId, seqnr⟩
          rcases recvPkg_entered hNode.2 hKey with
            ⟨con, recvId, slot, hSlot, hEnter⟩
          have hSeqnr :=
            (Endpoint.slotKey?_eq_some_iff.mp hKey).2.2.2
          subst hSeqnr
          have hEvents :
              leaseEvents
                  (Transition.mk (s, logs)
                    (Event.recvPkg input r, message) outputs
                    (s', logs.next s message
                      (Event.recvPkg input r))) =
                [.use (conId, r.msgH.msgSeqNum) message] := by
            simp only [leaseEvents, hKey]
          have hLogs :
              logs.next s message (Event.recvPkg input r) =
                logs.enter recvId slot message := by
            simp only [SlotLogs.next, hKey, hSlot]
          rw [hEvents, hLogs]
          rcases
            hAgrees.entered hSlot hEnter message with
            ⟨hAfter, hIff⟩
          refine
            ⟨hAfter, fun hSeparate =>
              (hIff hSeparate).trans ?_⟩
          rw [Leases.respects_cons]
          exact ⟨fun h => ⟨h, trivial⟩, And.left⟩
  | recvTimeout recvId =>
      have hState : s' = recvTimeoutCb s recvId := by
        have hExec := hNode.2
        cases hExec
        rfl
      subst hState
      rw [slotKeys_recvTimeoutCb]
      cases hKey : s.slotKeys recvId with
      | none =>
          have hEvents :
              leaseEvents
                  (Transition.mk (s, logs)
                    ((Event.recvTimeout recvId : Event α),
                      message) outputs
                    (recvTimeoutCb s recvId,
                      logs.next s message
                        (Event.recvTimeout recvId :
                          Event α))) = [] := by
            simp only [leaseEvents, hKey]
          rw [hEvents]
          exact
            ⟨hAgrees.expire_free hKey, fun hSeparate =>
              iff_of_true (hSeparate.free recvId) trivial⟩
      | some key =>
          have hEvents :
              leaseEvents
                  (Transition.mk (s, logs)
                    ((Event.recvTimeout recvId : Event α),
                      message) outputs
                    (recvTimeoutCb s recvId,
                      logs.next s message
                        (Event.recvTimeout recvId :
                          Event α))) =
                [.expire key] := by
            simp only [leaseEvents, hKey]
          rw [hEvents]
          exact
            ⟨hAgrees.expire hKey, fun hSeparate =>
              iff_of_true (hSeparate.free recvId)
                ⟨trivial, trivial⟩⟩
  | openConnection | closeConnection | sendData
  | pmtuTimeout | keepalive | pktRecvTimeout
  | lastPktRecvTimeout =>
      exact
        hAgrees.unchanged
          (hNode.slotKeys_eq (by simp) (by simp)) rfl rfl

end Steps

------------------------------------------------------------
-- Runs
------------------------------------------------------------

section Runs

variable {p : Platform}
variable {T : Transport σ α}
variable {s t : Endpoint σ × SlotLogs μ}
variable {trace : List (LoggedTransition σ α μ)}

/- The same over a run. -/
theorem separate_iff_respects
    {leases : Leases SlotKey μ}
    (hRun : Run (LoggedStep p T) s trace t)
    (hAgrees : Agrees s.1.slotKeys s.2 leases)
    (hSeparate : s.2.Separate) :
    (∀ tr ∈ trace, tr.post.2.Separate) ↔
      leases.Respects (trace.flatMap leaseEvents) := by
  induction hRun generalizing leases with
  | nil => exact iff_of_true (by simp) trivial
  | @cons s s' t e o trace hStep _ ih =>
      rcases hStep.agrees hAgrees with ⟨hNext, hIff⟩
      rw [List.flatMap_cons, Leases.respects_append,
        List.forall_mem_cons, ← hIff hSeparate]
      exact and_congr_right (fun hAfter => ih hNext hAfter)

end Runs

/-
  In every run from the start, with any openings, closings
  and new invitations in between: no slot ever holds packets
  of two messages, and none is discarded because of another
  message's slot, exactly if between two data packets of
  different messages for one connection and one sequence
  number the timer of the slot has fired.
-/
theorem messages_keep_apart_iff
    {p : Platform}
    {T : Transport σ α}
    {s : Endpoint σ}
    {t : Endpoint σ × SlotLogs μ}
    {trace : List (LoggedTransition σ α μ)}
    (hInitial : s.Initial)
    (hRun :
      Run (LoggedStep p T) (s, SlotLogs.start) trace t) :
    (∀ tr ∈ trace, tr.post.2.Separate) ↔
      Leases.Spaced (trace.flatMap leaseEvents) := by
  have hKeys : s.slotKeys = SlotTable.empty := by
    unfold Endpoint.slotKeys
    rw [hInitial.recvdatabuf]
    rfl
  have hStart :
      Agrees s.slotKeys (SlotLogs.start : SlotLogs μ)
        (fun _ => none) := by
    rw [hKeys]
    exact Agrees.start
  rw [separate_iff_respects hRun hStart
    SlotLogs.separate_start]
  exact Leases.respects_iff_spaced _

------------------------------------------------------------
-- A Peer That Starts Again
------------------------------------------------------------

namespace Sample

/-
  A fresh connection of host 2 to host 1, over which it has
  sent its `INVITE` and its `READY`.
-/
def peerConnection : ConnectData :=
  { connection 1372 with
    externalSocketID := socketID 1
    seqnr := 2 }

/- Host 2 with this connection. -/
def peer : Endpoint Unit :=
  { node with localSocketID := socketID 2 }.setConNet first
    peerConnection ()

/- Its first message, of one byte. -/
theorem sendMsg_peer (b : UInt8) :
    ∃ s' : Endpoint Unit,
      sendMsg Transport.scripted once peer first 0 [b] 1
          false =
        .ok (s', [.packet (dataPacket 2 0 1 [b]) .ok]) := by
  have hCon :
      peer.connectbuf first = some peerConnection :=
    SlotTable.set_self node.connectbuf first peerConnection
  have hOne : (1 : Int) ≤ 1372 - msgHeaderSize := by
    decide
  have hSend :=
    sendMsg_oncePacket 0 [b] hCon (by decide) (by decide)
      (by decide : (0 : Int) ≤ 1)
      (Or.inr hOne : false = true ∨ _)
  exact ⟨_, hSend⟩

/- It is received as this datagram. -/
def byteReception (b : UInt8) : Reception :=
  dataReception 2 0 1 [b] (Nat.le_of_ble_eq_true rfl)

/- The slot after it. -/
def byteSlot (b : UInt8) : RecvData where
  connectionID := first
  seqnr := 2
  recvbuf := [b]
  status := .complete
  msgtype := 0
  firstPacketArrived := true
  recvFragments := 1
  arrivedBytes := 1
  monitoringDataHeaderLen := 0
  timeoutEvent := true
  lastPktTimeoutEvent := true
  txConnectionID := 0
  expectedOffset := 1
  gapArray := []

theorem recvPkg_byte
    (con : ConnectData)
    (b : UInt8) :
    ∃ delivery : Delivery,
      recvPkg platform Transport.scripted once
          (node.setConNet first con ()) (byteReception b) =
        .ok
          ((node.setConNet first con ()).setSlot firstSlot
            (byteSlot b), [.recvData delivery]) := by
  unfold byteReception
  rw [recvPkg_dataReception Transport.scripted once rfl 2
    _ (by decide) (by decide) (by decide)]
  have hLength :
      (dataPacket 2 0 1 [b]).header.msgLength.toNat +
          (dataPacket 2 0 1 [b]).header.lenMonDataHdr.toNat <
        2 ^ 31 :=
    (by decide : 1 + 0 < 2 ^ 31)
  rcases
    recvDataMsg_first (node.setConNet first con ())
      (dataPacket 2 0 1 [b]).header [b] rfl
      (SlotTable.set_self node.connectbuf first con) rfl
      hLength with
    ⟨slot, hCreate, hRecv⟩
  rw [hRecv]
  cases hCreate
  exact ⟨_, rfl⟩

/- The slot is looked for by the connection and the number. -/
theorem slotKey?_byteReception
    {s : Endpoint Unit}
    {con : ConnectData}
    (hCon : s.connectbuf first = some con)
    (b : UInt8) :
    (byteReception b).classify = .data ∧
      s.slotKey? (byteReception b) = some (first, 2) := by
  have hDatagram :
      (byteReception b).datagram =
        (dataPacket 2 0 1 [b]).datagram := by
    unfold byteReception dataReception
    rfl
  have hClass : (byteReception b).classify = .data := by
    rw [Reception.classify_datagram hDatagram rfl
      (by decide : (0 : Nat) ≤ 1) (by decide : 0 < 1)
      (by decide : 1 ≤ maxMsgLength)]
    rfl
  refine ⟨hClass, ?_⟩
  rw [Endpoint.slotKey?_eq_some_iff,
    Reception.msgH_datagram hDatagram]
  exact ⟨hClass, rfl, ⟨con, hCon⟩, rfl⟩

/- No slot is looked for with a connection message. -/
theorem slotKey?_connReception
    (s : Endpoint Unit)
    (command : ConMsgType)
    (localConId remoteConId : Int32) :
    s.slotKey?
        (connReception command localConId remoteConId) =
      none := by
  have hCommand :=
    (recvPkg_connReception Transport.scripted once s command
      localConId remoteConId).1
  have hNot :
      (connReception command localConId
        remoteConId).classify ≠ .data := by
    intro hData
    unfold Reception.command at hCommand
    rw [if_neg (by rw [hData]; decide)] at hCommand
    cases hCommand
  unfold Endpoint.slotKey?
  rw [if_neg hNot]

/- The first byte makes the first slot. -/
theorem recvSlot_fresh
    {s : Endpoint Unit}
    (hEmpty : s.recvdatabuf = SlotTable.empty)
    (b : UInt8) :
    ∃ slot,
      s.recvSlot first (dataPacket 2 0 1 [b]).header =
        .ok (firstSlot, slot) := by
  unfold Endpoint.recvSlot
  rw [hEmpty, SlotTable.find?_empty, firstFree?_recvdatabuf]
  exact ⟨_, rfl⟩

/- The slot in use is found again. -/
theorem recvSlot_byteSlot
    {s : Endpoint Unit}
    {b : UInt8}
    (hSlots :
      s.recvdatabuf =
        SlotTable.empty.set firstSlot (byteSlot b))
    (c : UInt8) :
    s.recvSlot first (dataPacket 2 0 1 [c]).header =
      .ok (firstSlot, byteSlot b) := by
  have hAt : s.recvdatabuf firstSlot = some (byteSlot b) := by
    rw [hSlots]
    exact SlotTable.set_self _ firstSlot _
  have hFind :
      s.recvdatabuf.find? (RecvData.isFor first 2) =
        some (firstSlot, byteSlot b) := by
    apply SlotTable.find?_eq_some_of_unique hAt
    · exact isFor_eq_true_iff.mpr ⟨rfl, rfl⟩
    · intro j other hOther _
      by_contra hNe
      rw [hSlots, SlotTable.set_of_ne _ _ hNe] at hOther
      cases hOther
  unfold Endpoint.recvSlot
  rw [show (dataPacket 2 0 1 [c]).header.msgSeqNum = 2 from
    rfl, hFind]

/- While it is complete, another byte is discarded. -/
theorem recvPkg_discarded
    {s : Endpoint Unit}
    {con : ConnectData}
    {b : UInt8}
    (hHook : s.getRecvPktInfCb = false)
    (hCon : s.connectbuf first = some con)
    (hSlots :
      s.recvdatabuf =
        SlotTable.empty.set firstSlot (byteSlot b))
    (c : UInt8) :
    recvPkg platform Transport.scripted once s
        (byteReception c) =
      .ok (s, []) := by
  unfold byteReception
  rw [recvPkg_dataReception Transport.scripted once hHook 2
    _ (by decide) (by decide) (by decide)]
  unfold recvDataMsg
  rw [show (dataPacket 2 0 1 [c]).header.remoteConId.toInt =
    0 from rfl, connectbufAt_first]
  simp only [hCon, recvSlot_byteSlot hSlots]
  exact if_pos rfl

/- What is logged about a byte. -/
theorem next_byteReception
    {s : Endpoint Unit}
    {con : ConnectData}
    {slot : RecvData}
    {b : UInt8}
    (logs : SlotLogs Nat)
    (hCon : s.connectbuf first = some con)
    (hSlot :
      s.recvSlot first (dataPacket 2 0 1 [b]).header =
        .ok (firstSlot, slot))
    (message : Nat) :
    logs.next s message
        (Event.recvPkg once (byteReception b)) =
      logs.enter firstSlot slot message := by
  have hDatagram :
      (byteReception b).datagram =
        (dataPacket 2 0 1 [b]).datagram := by
    unfold byteReception dataReception
    rfl
  unfold SlotLogs.next
  simp only [(slotKey?_byteReception hCon b).2,
    Reception.msgH_datagram hDatagram, hSlot]

/- Nothing is logged about a connection message. -/
theorem next_connReception
    (s : Endpoint Unit)
    (logs : SlotLogs Nat)
    (message : Nat) :
    logs.next s message
        (Event.recvPkg once (connReception .invite 0 (-1))) =
      logs := by
  unfold SlotLogs.next
  simp only [slotKey?_connReception]

end Sample

open Sample

/-
  Host 2 sends a message of one byte, is started again and
  sends another one, before the timer of the slot at host 1
  has fired.  The second message comes to the slot of the
  first one, and nothing of it is delivered.
-/
theorem restarted_peer_shares_slot :
    ∃ (t : Endpoint Unit × SlotLogs Nat)
        (trace : List (LoggedTransition Unit ErrorCode Nat)),
      node.Initial ∧
        (∀ b : UInt8, ∃ s' : Endpoint Unit,
          sendMsg Transport.scripted once peer first 0 [b] 1
              false =
            .ok (s', [.packet (dataPacket 2 0 1 [b]) .ok])) ∧
        Run (LoggedStep platform Transport.scripted)
          (node, SlotLogs.start) trace t ∧
        trace.map Transition.event =
          [(.recvPkg once (connReception .invite 0 (-1)), 0),
            (.recvPkg once (byteReception 1), 1),
            (.recvPkg once (connReception .invite 0 (-1)), 0),
            (.recvPkg once (byteReception 2), 2)] ∧
        (∀ tr ∈ trace, tr.event.2 = 2 → tr.outputs = []) ∧
        (2, 1) ∈ t.2.discarded ∧
        ¬ ∀ tr ∈ trace, tr.post.2.Separate := by
  rcases recvPkg_invite 0 with
    ⟨con, pkt, hInvite, hSocket, _, hPmtu⟩
  rcases recvPkg_byte con 1 with ⟨delivery, hByte⟩
  generalize hBefore :
    (node.setConNet first con ()).setSlot firstSlot
      (byteSlot 1) = s at hByte
  have hTable : s.connectbuf = SlotTable.empty.set first con := by
    rw [← hBefore]
    rfl
  have hSlots :
      s.recvdatabuf =
        SlotTable.empty.set firstSlot (byteSlot 1) := by
    rw [← hBefore]
    rfl
  have hHook : s.getRecvPktInfCb = false := by
    rw [← hBefore]
    rfl
  rcases recvPkg_invitedAgain hTable hSocket hPmtu 0 with
    ⟨con', pkt', hAgain, _⟩
  have hCon :
      (s.setConNet first con' ()).connectbuf first =
        some con' :=
    SlotTable.set_self s.connectbuf first con'
  have hDiscarded :=
    recvPkg_discarded (s := s.setConNet first con' ()) hHook
      hCon hSlots 2
  rcases recvSlot_fresh
      (s := node.setConNet first con ()) rfl 1 with
    ⟨slot, hSlot⟩
  have hFirst :=
    next_byteReception SlotLogs.start
      (SlotTable.set_self node.connectbuf first con) hSlot 1
  have hSecond :=
    next_byteReception (SlotLogs.start.enter firstSlot slot 1)
      hCon
      (recvSlot_byteSlot (s := s.setConNet first con' ())
        hSlots 2) 2
  generalize hOne :
    (SlotLogs.start : SlotLogs Nat).enter firstSlot slot 1 =
      one at hFirst hSecond
  have hAt : one.slots firstSlot = some ⟨1, [1]⟩ := by
    rw [← hOne]
    exact SlotTable.set_self SlotTable.empty firstSlot _
  have hLogged :
      (2, 1) ∈
        (one.enter firstSlot (byteSlot 1) 2).discarded := by
    rw [SlotLogs.discarded_enter hAt rfl]
    exact List.mem_append_right _ (List.mem_singleton.mpr rfl)
  generalize one.enter firstSlot (byteSlot 1) 2 = two
    at hSecond hLogged
  have hRun :=
    Run.cons
      (LoggedStep.received hInvite
        (next_connReception node SlotLogs.start 0))
      (Run.cons (LoggedStep.received hByte hFirst)
        (Run.cons
          (LoggedStep.received hAgain
            (next_connReception s one 0))
          (Run.cons (LoggedStep.received hDiscarded hSecond)
            (Run.nil _))))
  refine
    ⟨_, _, node_initial, sendMsg_peer, hRun, rfl, ?_,
      hLogged, ?_⟩
  · intro tr hMem hTwo
    simp only [List.mem_cons, List.not_mem_nil, or_false]
      at hMem
    rcases hMem with rfl | rfl | rfl | rfl
    · cases hTwo
    · cases hTwo
    · cases hTwo
    · rfl
  · intro hAll
    have hLast :=
      hAll
        ⟨(s.setConNet first con' (), one),
          (.recvPkg once (byteReception 2), 2), [],
          (s.setConNet first con' (), two)⟩ (by simp)
    cases hLast.discarded (2, 1) hLogged

/-
  Host 2 is started again only when the timer of the slot has
  fired, and the slot is there for its second message.
-/
theorem timer_keeps_apart :
    ∃ (t : Endpoint Unit × SlotLogs Nat)
        (trace : List (LoggedTransition Unit ErrorCode Nat)),
      Run (LoggedStep platform Transport.scripted)
          (node, SlotLogs.start) trace t ∧
        trace.map Transition.event =
          [(.recvPkg once (connReception .invite 0 (-1)), 0),
            (.recvPkg once (byteReception 1), 1),
            (.recvTimeout firstSlot, 0),
            (.recvPkg once (byteReception 2), 2)] ∧
        ∀ tr ∈ trace, tr.post.2.Separate := by
  rcases recvPkg_invite 0 with ⟨con, pkt, hInvite, _⟩
  rcases recvPkg_byte con 1 with ⟨delivery, hByte⟩
  rcases recvPkg_byte con 2 with ⟨delivery', hOther⟩
  have hCon :
      (node.setConNet first con ()).connectbuf first =
        some con :=
    SlotTable.set_self node.connectbuf first con
  -- The timer gives the node back as it was invited.
  have hFreed :
      recvTimeoutCb
          ((node.setConNet first con ()).setSlot firstSlot
            (byteSlot 1))
          firstSlot =
        node.setConNet first con () := by
    have hSlots :
        (node.recvdatabuf.set firstSlot (byteSlot 1)).free
            firstSlot =
          node.recvdatabuf := by
      unfold SlotTable.free SlotTable.set
      rw [Function.update_idem, Function.update_eq_self_iff]
      rfl
    exact
      congrArg
        (fun slots : SlotTable recvdatabufSize RecvData =>
          { node.setConNet first con () with
            recvdatabuf := slots })
        hSlots
  have hTimeout :
      NodeStep platform Transport.scripted
        ((node.setConNet first con ()).setSlot firstSlot
          (byteSlot 1))
        (.recvTimeout firstSlot) []
        (node.setConNet first con ()) :=
    ⟨⟨byteSlot 1,
        SlotTable.set_self node.recvdatabuf firstSlot _, rfl⟩,
      congrArg
        (fun s : Endpoint Unit =>
          (Except.ok (s, []) : StepResult Unit))
        hFreed⟩
  rcases recvSlot_fresh
      (s := node.setConNet first con ()) rfl 1 with
    ⟨slot, hSlot⟩
  rcases recvSlot_fresh
      (s := node.setConNet first con ()) rfl 2 with
    ⟨slot', hSlot'⟩
  have hRun :=
    Run.cons
      (LoggedStep.received hInvite
        (next_connReception node SlotLogs.start 0))
      (Run.cons
        (LoggedStep.received hByte
          (next_byteReception SlotLogs.start hCon hSlot 1))
        (Run.cons (LoggedStep.expired 0 hTimeout)
          (Run.cons
            (LoggedStep.received hOther
              (next_byteReception _ hCon hSlot' 2))
            (Run.nil _))))
  refine ⟨_, _, hRun, rfl, ?_⟩
  have hKey :
      ((node.setConNet first con ()).setSlot firstSlot
          (byteSlot 1)).slotKeys firstSlot =
        some (first, 2) :=
    congrArg (Option.map RecvData.key)
      (SlotTable.set_self node.recvdatabuf firstSlot _)
  rw [messages_keep_apart_iff node_initial hRun,
    ← Leases.respects_iff_spaced]
  simp only [List.flatMap_cons, List.flatMap_nil,
    leaseEvents, slotKey?_connReception, hKey,
    (slotKey?_byteReception hCon 1).2,
    (slotKey?_byteReception hCon 2).2, List.nil_append,
    List.cons_append]
  simp [Leases.Respects, Leases.Allows]

end ML

end NapaBaselibs
