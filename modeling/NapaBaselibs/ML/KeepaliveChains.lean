import NapaBaselibs.Lib.TimerSet
import NapaBaselibs.ML.TwoParty

/-
  The keepalive timers of a node.

  A keepalive timer is armed when a connection is opened and
  again by the one before it, so that the timers for a peer
  should form one chain.  Nothing cancels a timer: a chain
  ends when its timer fires and finds the connection gone or
  the keepalive switched off.  Time is counted in
  microseconds.

  Key definitions include:
    * `KeepaliveState`, `KeepaliveStep`
    * `Endpoint.StartsKeepalive`
    * `OneChain`

  Key theorems include:
    * `KeepaliveStep.orderly`
    * `KeepaliveStep.not_single`
    * `one_chain_iff`
    * `reopened_has_two_chains`
-/

------------------------------------------------------------
-- The Timers Of A Step
------------------------------------------------------------

namespace NapaBaselibs

namespace ML

variable {σ α : Type}

/- The peer of a keepalive timer, if the output is one. -/
def Output.keepaliveTimer? : Output → Option SocketID
| keepaliveTimer peer => some peer
| _ => none

/- The keepalive timers armed in a step. -/
def keepaliveTimers (outputs : List Output) : List SocketID :=
  outputs.filterMap Output.keepaliveTimer?

def usecPerSec : Nat := 1000000

/-
  The delay of a keepalive timer for a peer: the keepalive of
  its connection.  A negative one is over at once.
-/
def Endpoint.keepalivePeriod
    (p : Platform)
    (s : Endpoint σ)
    (peer : SocketID) : Nat :=
  match s.connectionOf p peer with
  | some (_, con) => con.keepalive.toNat * usecPerSec
  | none => 0

/- The timers armed in a step, with their delays. -/
def startedTimers
    (p : Platform)
    (s : Endpoint σ)
    (outputs : List Output) : List (SocketID × Nat) :=
  (keepaliveTimers outputs).map (fun peer =>
    (peer, s.keepalivePeriod p peer))

/- The peer whose keepalive timer the event is. -/
def Event.firedPeer? : Event α → Option SocketID
| keepalive _ peer => some peer
| _ => none

------------------------------------------------------------
-- A Node With Its Keepalive Timers
------------------------------------------------------------

/- A node, and the keepalive timers that are pending. -/
structure KeepaliveState (σ : Type) where
  node : Endpoint σ
  timers : TimerSet SocketID

/- An event, and when it happens. -/
structure TimedEvent (α : Type) where
  time : Nat
  event : Event α

/-
  A step of the node.  A keepalive timer fires only when it
  is pending and due.
-/
structure KeepaliveStep
    (p : Platform)
    (T : Transport σ α)
    (k : KeepaliveState σ)
    (e : TimedEvent α)
    (outputs : List Output)
    (k' : KeepaliveState σ) : Prop where
  node : NodeStep p T k.node e.event outputs k'.node
  timers :
    k.timers.Step e.time e.event.firedPeer?
      (startedTimers p k'.node outputs) k'.timers

/- A transition that sends a keepalive message to a peer. -/
def SendsKeepalive
    (peer : SocketID)
    (transition :
      Transition (KeepaliveState σ) (TimedEvent α) Output) :
    Prop :=
  transition.event.event.firedPeer? = some peer ∧
    packets transition.outputs ≠ []

/-
  After a keepalive message to a peer, the next one is sent
  when the keepalive period of the connection is over.
-/
def Spaced
    (p : Platform)
    (trace :
      List (Transition (KeepaliveState σ) (TimedEvent α)
        Output)) : Prop :=
  ∀ earlier first between second later peer peer',
    trace =
        earlier ++ first :: (between ++ second :: later) →
      SendsKeepalive peer first →
        SendsKeepalive peer' second →
          SamePeer p peer' peer →
            first.event.time +
                first.post.node.keepalivePeriod p peer ≤
              second.event.time

/-
  Never are two keepalive timers pending for one peer, and
  its keepalive messages are a period apart.
-/
structure OneChain
    (p : Platform)
    (trace :
      List (Transition (KeepaliveState σ) (TimedEvent α)
        Output)) : Prop where
  single :
    ∀ transition ∈ trace,
      transition.post.timers.Single (SamePeer p)
  spaced : Spaced p trace

/-
  Opening arms a timer: keepalive is wanted, and either the
  connection is new or it had keepalive switched off.
-/
def Endpoint.StartsKeepalive
    (p : Platform)
    (s : Endpoint σ)
    (externalSocketID : SocketID)
    (keepalive : Int) : Prop :=
  s.natTraversal = true ∧ keepalive ≠ 0 ∧
    match s.connectionOf p externalSocketID with
    | some (_, con) => con.keepalive = 0
    | none => s.connectbuf.firstFree? ≠ none

/-
  When opening arms a timer, no timer is pending for the
  peer.
-/
def KeepaliveState.StartsAlone
    (p : Platform)
    (k : KeepaliveState σ) : Event α → Prop
| .openConnection _ externalSocketID _ period =>
    k.node.StartsKeepalive p externalSocketID period →
      k.timers.count (SamePeer p) externalSocketID = 0
| _ => True

/- The socket ID in the entry for a peer. -/
def Endpoint.entrySocketID
    (p : Platform)
    (s : Endpoint σ)
    (externalSocketID : SocketID) : SocketID :=
  match s.connectionOf p externalSocketID with
  | some (_, con) => con.externalSocketID
  | none => externalSocketID

------------------------------------------------------------
-- Outputs Without Keepalive Timers
------------------------------------------------------------

theorem samePeer_equivalence
    (p : Platform) :
    Equivalence (SamePeer p) where
  refl := SamePeer.refl
  symm := SamePeer.symm
  trans := SamePeer.trans

@[simp] theorem keepaliveTimers_nil :
    keepaliveTimers [] = [] := rfl

@[simp] theorem keepaliveTimers_append
    (first second : List Output) :
    keepaliveTimers (first ++ second) =
      keepaliveTimers first ++ keepaliveTimers second :=
  List.filterMap_append

@[simp] theorem keepaliveTimers_keepaliveTimer
    (peer : SocketID) :
    keepaliveTimers [.keepaliveTimer peer] = [peer] := rfl

theorem keepaliveTimers_eq_nil
    {outputs : List Output}
    (hNone :
      ∀ output ∈ outputs, output.keepaliveTimer? = none) :
    keepaliveTimers outputs = [] :=
  List.filterMap_eq_nil_iff.mpr hNone

section Outputs

variable {p : Platform}
variable {T : Transport σ α}
variable {input : SendInput α}
variable {s s' : Endpoint σ}
variable {outputs : List Output}

theorem keepaliveTimers_connPackets
    {localSocketID : SocketID}
    {conId : ConId}
    {externalConnectionID : Int32}
    {command : ConMsgType}
    (hPackets :
      ConnPackets p localSocketID conId externalConnectionID
        command outputs) :
    keepaliveTimers outputs = [] := by
  refine keepaliveTimers_eq_nil ?_
  intro output hMem
  rcases hPackets output hMem with ⟨pkt, answer, rfl, _⟩
  rfl

theorem keepaliveTimers_announce
    (conId : ConId)
    (con : ConnectData) :
    keepaliveTimers (s.announce conId con) = [] := by
  refine keepaliveTimers_eq_nil ?_
  intro output hMem
  unfold Endpoint.announce at hMem
  rcases List.mem_append.mp hMem with hFirst | hSecond
  · split at hFirst
    · rw [List.mem_singleton] at hFirst
      rw [hFirst]
      rfl
    · cases hFirst
  · rcases List.mem_map.mp hSecond with ⟨cb, _, rfl⟩
    rfl

theorem keepaliveTimers_sendMsg
    {conId : ConId}
    {msgType : UInt8}
    {msg : List UInt8}
    {msgLen : Int}
    {truncable : Bool}
    (hSend :
      sendMsg T input s conId msgType msg msgLen truncable =
        .ok (s', outputs)) :
    keepaliveTimers outputs = [] := by
  rcases sendMsg_ok hSend with ⟨_, _, _, _, _, _, hPackets⟩
  refine keepaliveTimers_eq_nil ?_
  intro output hMem
  rcases hPackets output hMem with ⟨pkt, answer, rfl, _⟩
  rfl

theorem keepaliveTimers_recvConnMsg
    {msgH : MsgHeader}
    {conMsg : ConnMsg}
    {msgSize : Int}
    {recvAddr : SockaddrStorage}
    (hEffect :
      RecvConnMsgEffect p s msgH conMsg msgSize recvAddr s'
        outputs) :
    keepaliveTimers outputs = [] := by
  cases hEffect with
  | ignored => rfl
  | invited _ _ hSent =>
      exact keepaliveTimers_connPackets hSent.2
  | invitedNew _ _ _ hSent =>
      exact keepaliveTimers_connPackets hSent.2
  | connected _ _ _ _ _ hPackets =>
      rw [keepaliveTimers_append,
        keepaliveTimers_connPackets hPackets,
        keepaliveTimers_announce]
      rfl
  | reconnected _ _ _ _ hSent =>
      exact keepaliveTimers_connPackets hSent.2
  | readied => exact keepaliveTimers_announce _ _

theorem keepaliveTimers_enterPacket
    {con : ConnectData}
    {recvId : RecvId}
    {slot : RecvData}
    {msgH : MsgHeader}
    {data : List UInt8}
    (hEnter :
      s.enterPacket con recvId slot msgH data =
        .ok (s', outputs)) :
    keepaliveTimers outputs = [] := by
  rcases s.enterPacket_cases hEnter with
    ⟨_, _, rfl⟩ |
    ⟨slot₁, slot₂, timers, calls, _, hFragment, _, hCalls,
      _, rfl⟩
  · rfl
  · have hTimers : keepaliveTimers timers = [] := by
      refine keepaliveTimers_eq_nil ?_
      intro output hMem
      rcases RecvData.recvFragment_timers hFragment output hMem
        with ⟨arg, rfl⟩
      rfl
    rw [keepaliveTimers_append, hTimers, List.nil_append]
    rcases hCalls with rfl | ⟨_, rfl⟩
    · rfl
    · rfl

theorem keepaliveTimers_recvPkg
    {r : Reception}
    (hRecv : recvPkg p T input s r = .ok (s', outputs)) :
    keepaliveTimers outputs = [] := by
  cases recvPkg_effect hRecv with
  | dropped => rfl
  | stun _ hStun =>
      unfold recvStunMsg at hStun
      split at hStun
      · cases hStun
        rfl
      · cases hStun
        rfl
  | connection _ hEffect =>
      exact keepaliveTimers_recvConnMsg hEffect
  | nack =>
      refine keepaliveTimers_eq_nil ?_
      intro output hMem
      rcases List.mem_map.mp hMem with ⟨pkt, _, rfl⟩
      rfl
  | data _ hData =>
      rcases recvDataMsg_cases hData with
        ⟨_, rfl⟩ | ⟨_, _, _, _, _, _, _, hEnter⟩
      · rfl
      · exact keepaliveTimers_enterPacket hEnter

theorem keepaliveTimers_pmtuTimeoutCb
    {conId : ConId}
    (hTimer :
      pmtuTimeoutCb p T input s conId = .ok (s', outputs)) :
    keepaliveTimers outputs = [] := by
  cases pmtuTimeoutCb_effect hTimer with
  | gone => rfl
  | done => rfl
  | retried _ _ hSent =>
      exact keepaliveTimers_connPackets hSent.2
  | gaveUp _ _ _ _ hOutputs =>
      rcases hOutputs with rfl | rfl
      · rfl
      · rfl

theorem keepaliveTimers_pktRecvTimeoutCb
    {arg : PktRecvTimeoutArg}
    (hTimer :
      pktRecvTimeoutCb p T input s arg = .ok (s', outputs)) :
    keepaliveTimers outputs = [] := by
  unfold pktRecvTimeoutCb at hTimer
  split at hTimer
  · cases hTimer
    rfl
  · simp only at hTimer
    split at hTimer
    · cases hTimer
      rfl
    · split at hTimer
      · cases hTimer
        rfl
      · split at hTimer
        · cases hTimer
        · rename_i hSend
          have hNack := keepaliveTimers_sendMsg hSend
          split at hTimer
          · cases hTimer
            rw [keepaliveTimers_append, hNack]
            rfl
          · cases hTimer
            exact hNack

theorem keepaliveTimers_lastPktRecvTimeoutCb
    {recvId : RecvId}
    (hTimer :
      lastPktRecvTimeoutCb p T input s recvId =
        .ok (s', outputs)) :
    keepaliveTimers outputs = [] := by
  unfold lastPktRecvTimeoutCb at hTimer
  split at hTimer
  · cases hTimer
    rfl
  · simp only at hTimer
    split at hTimer
    · cases hTimer
      rfl
    · exact keepaliveTimers_sendMsg hTimer

------------------------------------------------------------
-- Outputs With Keepalive Timers
------------------------------------------------------------

theorem Endpoint.samePeer_entrySocketID
    (p : Platform)
    (s : Endpoint σ)
    (externalSocketID : SocketID) :
    SamePeer p (s.entrySocketID p externalSocketID)
      externalSocketID := by
  unfold Endpoint.entrySocketID
  split
  · rename_i hFind
    exact (Endpoint.of_connectionOf_eq_some hFind).2
  · exact SamePeer.refl externalSocketID

theorem keepaliveTimers_setupKeepalive
    (con : ConnectData) :
    keepaliveTimers con.setupKeepalive =
      if con.keepalive ≠ 0 then [con.externalSocketID]
      else [] := by
  unfold ConnectData.setupKeepalive
  split
  · rfl
  · rfl

/- Opening arms the timer of the entry, or none. -/
theorem keepaliveTimers_mlOpenConnection
    {externalSocketID : SocketID}
    {cb : ConnectionCb}
    {keepalive result : Int}
    (hOpen :
      mlOpenConnection p T input s externalSocketID cb
          keepalive = .ok (result, s', outputs)) :
    (s.StartsKeepalive p externalSocketID keepalive ∧
        keepaliveTimers outputs =
          [s.entrySocketID p externalSocketID]) ∨
      (¬ s.StartsKeepalive p externalSocketID keepalive ∧
        keepaliveTimers outputs = []) := by
  unfold Endpoint.StartsKeepalive Endpoint.entrySocketID
  unfold mlOpenConnection at hOpen
  split at hOpen
  · rename_i hNat
    cases hOpen
    right
    simp [hNat]
  · rename_i hNat
    rw [Bool.not_eq_false] at hNat
    cases hFind : s.connectionOf p externalSocketID with
    | some found =>
        rcases found with ⟨conId, con⟩
        simp only [hFind] at hOpen
        simp only [hNat, true_and]
        have hTimer :
            keepaliveTimers
                (if con.keepalive = 0 then
                  ConnectData.setupKeepalive
                    { con with keepalive := keepalive }
                else
                  []) =
              if keepalive ≠ 0 ∧ con.keepalive = 0 then
                [con.externalSocketID]
              else
                [] := by
          by_cases hOff : con.keepalive = 0
          · simp only [hOff, if_true, and_true]
            exact keepaliveTimers_setupKeepalive _
          · simp [hOff]
        have hTimers :
            keepaliveTimers outputs =
              if keepalive ≠ 0 ∧ con.keepalive = 0 then
                [con.externalSocketID]
              else
                [] := by
          split at hOpen
          · cases hOpen
            rw [keepaliveTimers_append, hTimer]
            exact List.append_nil _
          · cases hOpen
            exact hTimer
        by_cases hStarts : keepalive ≠ 0 ∧ con.keepalive = 0
        · rw [if_pos hStarts] at hTimers
          exact Or.inl ⟨hStarts, hTimers⟩
        · rw [if_neg hStarts] at hTimers
          exact Or.inr ⟨hStarts, hTimers⟩
    | none =>
        simp only [hFind] at hOpen
        simp only [hNat, true_and]
        split at hOpen
        · rename_i hFull
          cases hOpen
          right
          simp [hFull]
        · rename_i conId hFree
          split at hOpen
          · cases hOpen
          · rename_i hSend
            cases hOpen
            have hSent :=
              sendConnMsgWithPmtuDiscovery_sent
                (SlotTable.set_self ..) hSend
            rw [keepaliveTimers_append,
              keepaliveTimers_connPackets hSent.2,
              List.append_nil, keepaliveTimers_setupKeepalive]
            simp only [ConnectData.ofOpen, hFree, ne_eq,
              reduceCtorEq, not_false_eq_true, and_true]
            by_cases hOn : keepalive = 0
            · simp [hOn]
            · simp [hOn]

/- A timer that fires arms the next one, or sends nothing. -/
theorem keepaliveTimers_keepaliveFn
    {peer : SocketID}
    (hTimer :
      keepaliveFn p T input s peer = .ok (s', outputs)) :
    keepaliveTimers outputs = [peer] ∨ outputs = [] := by
  unfold keepaliveFn at hTimer
  split at hTimer
  · cases hTimer
    exact Or.inr rfl
  · split at hTimer
    · cases hTimer
      exact Or.inr rfl
    · split at hTimer
      · simp only at hTimer
        split at hTimer
        · cases hTimer
        · rename_i hSend
          cases hTimer
          left
          rw [keepaliveTimers_append,
            keepaliveTimers_sendMsg hSend]
          rfl
      · cases hTimer
        exact Or.inl rfl

end Outputs

------------------------------------------------------------
-- Steps
------------------------------------------------------------

section Steps

variable {p : Platform}
variable {T : Transport σ α}
variable {k k' : KeepaliveState σ}
variable {e : TimedEvent α}
variable {outputs : List Output}

/- The timers an event arms. -/
def Arms
    (p : Platform)
    (s : Endpoint σ)
    (outputs : List Output) : Event α → Prop
| .openConnection _ externalSocketID _ period =>
    (s.StartsKeepalive p externalSocketID period ∧
        keepaliveTimers outputs =
          [s.entrySocketID p externalSocketID]) ∨
      (¬ s.StartsKeepalive p externalSocketID period ∧
        keepaliveTimers outputs = [])
| .keepalive _ peer =>
    keepaliveTimers outputs = [peer] ∨ outputs = []
| _ => keepaliveTimers outputs = []

/- Only opening and the keepalive timer arm timers. -/
theorem arms_of_exec
    {s s' : Endpoint σ}
    {event : Event α}
    (hExec : exec p T s event = .ok (s', outputs)) :
    Arms p s outputs event := by
  cases event with
  | recvPkg input r => exact keepaliveTimers_recvPkg hExec
  | openConnection input externalSocketID cb keepalive =>
      unfold exec at hExec
      simp only at hExec
      split at hExec
      · cases hExec
      · rename_i hOpen
        cases hExec
        exact keepaliveTimers_mlOpenConnection hOpen
  | closeConnection connectionID =>
      unfold exec at hExec
      simp only at hExec
      split at hExec
      · cases hExec
      · cases hExec
        rfl
  | sendData input connectionID sendbuf bufsize msgtype =>
      rcases mlSendData_cases hExec with
        ⟨_, rfl⟩ | ⟨_, _, _, _, _, hSend⟩
      · rfl
      · exact keepaliveTimers_sendMsg hSend
  | pmtuTimeout input conId =>
      exact keepaliveTimers_pmtuTimeoutCb hExec
  | keepalive input peer =>
      exact keepaliveTimers_keepaliveFn hExec
  | recvTimeout recvId =>
      cases hExec
      rfl
  | pktRecvTimeout input arg =>
      exact keepaliveTimers_pktRecvTimeoutCb hExec
  | lastPktRecvTimeout input recvId =>
      exact keepaliveTimers_lastPktRecvTimeoutCb hExec

/-
  A step continues a chain, or it begins one where there is
  none.
-/
theorem KeepaliveStep.orderly
    (hStep : KeepaliveStep p T k e outputs k')
    (hAlone : k.StartsAlone p e.event) :
    k.timers.Orderly (SamePeer p) e.event.firedPeer?
      (startedTimers p k'.node outputs) := by
  have hTimers := arms_of_exec hStep.node.2
  unfold startedTimers
  generalize e.event = event at *
  cases event with
  | openConnection input externalSocketID cb period =>
      rcases hTimers with ⟨hStarts, hTimers⟩ | ⟨_, hTimers⟩
      · right
        rw [hTimers]
        refine ⟨_, _, rfl, ?_⟩
        have hSame :=
          k.node.samePeer_entrySocketID p externalSocketID
        exact
          (TimerSet.count_congr (samePeer_equivalence p)
            hSame).trans (hAlone hStarts)
      · left
        rw [hTimers]
        rfl
  | keepalive input peer =>
      rcases hTimers with hTimers | rfl
      · right
        rw [hTimers]
        exact ⟨peer, _, rfl, SamePeer.refl peer⟩
      · exact Or.inl rfl
  | _ =>
      left
      simp only [Arms] at hTimers
      rw [hTimers]
      rfl

/- A chain that is begun beside another one makes two. -/
theorem KeepaliveStep.not_single
    (hStep : KeepaliveStep p T k e outputs k')
    (hBeside : ¬ k.StartsAlone p e.event) :
    ¬ k'.timers.Single (SamePeer p) := by
  have hTimers := arms_of_exec hStep.node.2
  have hArm := hStep.timers
  unfold startedTimers at hArm
  generalize e.event = event at *
  cases event with
  | openConnection input externalSocketID cb period =>
      unfold KeepaliveState.StartsAlone at hBeside
      rw [Classical.not_imp] at hBeside
      rcases hBeside with ⟨hStarts, hPending⟩
      rcases hTimers with ⟨_, hTimers⟩ | ⟨hNot, _⟩
      · rw [hTimers] at hArm
        refine
          TimerSet.Step.not_single (samePeer_equivalence p)
            hArm ?_
        rw [TimerSet.count_congr (samePeer_equivalence p)
          (k.node.samePeer_entrySocketID p
            externalSocketID)]
        exact hPending
      · exact absurd hStarts hNot
  | _ => exact absurd trivial hBeside

/- After a keepalive message the next timer is not early. -/
theorem KeepaliveStep.noEarlier_of_sends
    {peer : SocketID}
    (hStep : KeepaliveStep p T k e outputs k')
    (hSends : SendsKeepalive peer ⟨k, e, outputs, k'⟩)
    (hSingle : k.timers.Single (SamePeer p)) :
    k'.timers.NoEarlier (SamePeer p) peer
      (e.time + k'.node.keepalivePeriod p peer) := by
  rcases hSends with ⟨hFired, hSent⟩
  have hTimers := arms_of_exec hStep.node.2
  have hArm := hStep.timers
  unfold startedTimers at hArm
  simp only at hFired hSent
  rw [hFired] at hArm
  generalize e.event = event at *
  cases event with
  | keepalive input fired =>
      cases hFired
      rcases hTimers with hTimers | rfl
      · rw [hTimers] at hArm
        exact
          TimerSet.Step.noEarlier_restart
            (samePeer_equivalence p) hSingle hArm
            (SamePeer.refl peer)
      · exact absurd packets_nil hSent
  | _ => cases hFired

------------------------------------------------------------
-- Runs
------------------------------------------------------------

variable {trace :
  List (Transition (KeepaliveState σ) (TimedEvent α) Output)}

/- Runs that begin every chain alone have single chains. -/
theorem single_of_startsAlone
    (hSingle : k.timers.Single (SamePeer p))
    (hRun : Run (KeepaliveStep p T) k trace k')
    (hAlone :
      ∀ transition ∈ trace,
        transition.pre.StartsAlone p
          transition.event.event) :
    ∀ transition ∈ trace,
      transition.pre.timers.Single (SamePeer p) ∧
        transition.post.timers.Single (SamePeer p) :=
  (Run.invariant_of_steps
    (fun k : KeepaliveState σ =>
      k.timers.Single (SamePeer p))
    (fun transition =>
      transition.pre.StartsAlone p transition.event.event)
    (fun _ hStep hGuard hOld =>
      hStep.timers.single (samePeer_equivalence p)
        (hStep.orderly hGuard) hOld)
    hRun hAlone hSingle).2

/- A timer that is not early stays so along the run. -/
theorem noEarlier_of_startsAlone
    {peer : SocketID}
    {bound : Nat}
    (hQuiet : k.timers.NoEarlier (SamePeer p) peer bound)
    (hRun : Run (KeepaliveStep p T) k trace k')
    (hAlone :
      ∀ transition ∈ trace,
        transition.pre.StartsAlone p
          transition.event.event) :
    k'.timers.NoEarlier (SamePeer p) peer bound :=
  (Run.invariant_of_steps
    (fun k : KeepaliveState σ =>
      k.timers.NoEarlier (SamePeer p) peer bound)
    (fun transition =>
      transition.pre.StartsAlone p transition.event.event)
    (fun _ hStep hGuard hOld =>
      hStep.timers.noEarlier (samePeer_equivalence p)
        (hStep.orderly hGuard) hOld)
    hRun hAlone hQuiet).1

/- The messages of single chains are a period apart. -/
theorem spaced_of_startsAlone
    (hSingle : k.timers.Single (SamePeer p))
    (hRun : Run (KeepaliveStep p T) k trace k')
    (hAlone :
      ∀ transition ∈ trace,
        transition.pre.StartsAlone p
          transition.event.event) :
    Spaced p trace := by
  intro earlier first between second later peer peer' hTrace
    hFirst hSecond hSame
  have hBefore :=
    (single_of_startsAlone hSingle hRun hAlone first
      (by simp [hTrace])).1
  subst hTrace
  rcases hRun.split with ⟨k₁, _, hRest⟩
  cases hRest with
  | @cons _ k₂ _ e o _ hSend hRest =>
      have hQuiet := hSend.noEarlier_of_sends hFirst hBefore
      rcases hRest.split with ⟨k₃, hBetween, hRest⟩
      have hLater :=
        noEarlier_of_startsAlone hQuiet hBetween (by
          intro transition hMem
          exact hAlone transition (by simp [hMem]))
      cases hRest with
      | cons hFire _ =>
          have hArm := hFire.timers
          have hFired := hSecond.1
          simp only at hFired
          rw [hFired] at hArm
          exact hArm.le_of_noEarlier hSame hLater

/-
  One keepalive chain for each peer: this holds of the runs
  in which every chain is begun when none is pending.
-/
theorem one_chain_iff
    (p : Platform)
    (T : Transport σ α)
    {k k' : KeepaliveState σ}
    {trace :
      List (Transition (KeepaliveState σ) (TimedEvent α)
        Output)}
    (hNone : k.timers.pending = [])
    (hRun : Run (KeepaliveStep p T) k trace k') :
    OneChain p trace ↔
      ∀ transition ∈ trace,
        transition.pre.StartsAlone p
          transition.event.event := by
  have hSingle : k.timers.Single (SamePeer p) := by
    intro peer
    unfold TimerSet.count
    rw [hNone]
    exact Nat.zero_le _
  constructor
  · intro hChain transition hMem
    by_contra hBeside
    exact
      (hRun.mem_step hMem).not_single hBeside
        (hChain.single transition hMem)
  · intro hAlone
    constructor
    · intro transition hMem
      exact
        (single_of_startsAlone hSingle hRun hAlone transition
          hMem).2
    · exact spaced_of_startsAlone hSingle hRun hAlone

end Steps

section Examples

open Sample

/- Host 1 opens the connection, with a keepalive of 1 s. -/
def Sample.opening : Event ErrorCode :=
  .openConnection once (socketID 2) ⟨0, 0⟩ 1

/- Its timer is the last of those pending. -/
theorem Sample.exists_openStep
    {k : KeepaliveState Unit}
    (time : Nat)
    (hHost : k.node.localSocketID = socketID 1)
    (hNat : k.node.natTraversal = true)
    (hEmpty : k.node.connectbuf = SlotTable.empty)
    (hTime : k.timers.now ≤ time) :
    ∃ outputs con,
      KeepaliveStep platform Transport.scripted k
          ⟨time, opening⟩ outputs
          ⟨k.node.setConNet first con (),
            ⟨time, k.timers.pending ++
              [(socketID 2, time + usecPerSec)]⟩⟩ ∧
        OnlyEntry (k.node.setConNet first con ()) 1 2 con ∧
        con.status = .invite ∧ con.keepalive = 1 := by
  rcases exists_inviting hHost hNat hEmpty 1 with
    ⟨con, pkt, timer, hExec, _, hOnly, hStatus, hKeep, _, _⟩
  have hFind :
      (k.node.setConNet first con ()).connectionOf platform
          (socketID 2) = some (first, con) :=
    connectionOf_first hOnly.connectbuf
      hOnly.externalSocketID
  have hNone :
      k.node.connectionOf platform (socketID 2) = none := by
    unfold Endpoint.connectionOf
    rw [hEmpty]
    exact SlotTable.find?_empty _
  have hFree : k.node.connectbuf.firstFree? = some first := by
    rw [hEmpty]
    exact firstFree?_connectbuf
  have hStarts :
      k.node.StartsKeepalive platform (socketID 2) 1 := by
    unfold Endpoint.StartsKeepalive
    simp [hNat, hNone, hFree]
  have hArm :
      startedTimers platform
          (k.node.setConNet first con ())
          (timer ++ [.packet pkt .ok]) =
        [(socketID 2, usecPerSec)] := by
    have hEntry :
        k.node.entrySocketID platform (socketID 2) =
          socketID 2 := by
      unfold Endpoint.entrySocketID
      rw [hNone]
    have hPeriod :
        (k.node.setConNet first con ()).keepalivePeriod
            platform (socketID 2) = usecPerSec := by
      unfold Endpoint.keepalivePeriod
      simp only [hFind, hKeep]
      rfl
    unfold startedTimers
    rcases arms_of_exec hExec with
      ⟨_, hTimers⟩ | ⟨hNot, _⟩
    · rw [hTimers, hEntry, List.map_singleton, hPeriod]
    · exact absurd hStarts hNot
  refine
    ⟨_, con, ⟨⟨trivial, hExec⟩, ?_⟩, hOnly, hStatus, hKeep⟩
  rw [hArm]
  exact .idle hTime

/- A chain of two timers for the connection of host 2. -/
theorem opened_has_one_chain :
    ∃ trace k',
      Run (KeepaliveStep platform Transport.scripted)
          ⟨node, ⟨0, []⟩⟩ trace k' ∧
        trace.map (fun transition => transition.event) =
          [⟨0, opening⟩,
            ⟨1000000, .keepalive once (socketID 2)⟩] ∧
        k'.timers.pending = [(socketID 2, 2000000)] ∧
        OneChain platform trace := by
  rcases
    exists_openStep (k := ⟨node, ⟨0, []⟩⟩) 0 rfl rfl rfl
      (Nat.le_refl 0) with
    ⟨outputs, con, hOpen, hOnly, hStatus, hKeep⟩
  have hFind :
      (node.setConNet first con ()).connectionOf platform
          (socketID 2) = some (first, con) :=
    connectionOf_first hOnly.connectbuf
      hOnly.externalSocketID
  have hExec :
      exec platform Transport.scripted
          (node.setConNet first con ())
          (.keepalive once (socketID 2)) =
        .ok (node.setConNet first con (),
          [.keepaliveTimer (socketID 2)]) := by
    unfold exec keepaliveFn
    simp [hFind, hKeep, hStatus]
  have hPeriod :
      (node.setConNet first con ()).keepalivePeriod platform
          (socketID 2) = usecPerSec := by
    unfold Endpoint.keepalivePeriod
    simp only [hFind, hKeep]
    rfl
  have hFire :
      KeepaliveStep platform Transport.scripted
        ⟨node.setConNet first con (),
          ⟨0, [(socketID 2, 1000000)]⟩⟩
        ⟨1000000, .keepalive once (socketID 2)⟩
        [.keepaliveTimer (socketID 2)]
        ⟨node.setConNet first con (),
          ⟨1000000, [(socketID 2, 2000000)]⟩⟩ := by
    refine ⟨⟨trivial, hExec⟩, ?_⟩
    have hStarted :
        startedTimers platform (node.setConNet first con ())
            [.keepaliveTimer (socketID 2)] =
          [(socketID 2, usecPerSec)] := by
      unfold startedTimers
      rw [keepaliveTimers_keepaliveTimer,
        List.map_singleton, hPeriod]
    have hStep :
        TimerSet.Step ⟨0, [(socketID 2, 1000000)]⟩ 1000000
          (some (socketID 2)) [(socketID 2, usecPerSec)] _ :=
      .fire (Nat.zero_le 1000000) List.mem_cons_self
        (Nat.le_refl 1000000)
    rw [List.erase_cons_head] at hStep
    simp only [hStarted]
    exact hStep
  have hRun := Run.cons hOpen (.cons hFire (.nil _))
  refine ⟨_, _, hRun, rfl, rfl, ?_⟩
  refine (one_chain_iff _ _ rfl hRun).mpr ?_
  intro transition hMem
  rcases List.mem_cons.mp hMem with rfl | hMem
  · intro _
    rfl
  · rw [List.mem_singleton] at hMem
    subst hMem
    trivial

/-
  The connection is closed and opened again before the first
  timer fires: two are pending for the peer.
-/
theorem reopened_has_two_chains :
    ∃ trace k',
      Run (KeepaliveStep platform Transport.scripted)
          ⟨node, ⟨0, []⟩⟩ trace k' ∧
        trace.map (fun transition => transition.event) =
          [⟨0, opening⟩, ⟨0, .closeConnection 0⟩,
            ⟨0, opening⟩] ∧
        k'.timers.pending =
          [(socketID 2, 1000000), (socketID 2, 1000000)] ∧
        ¬ OneChain platform trace := by
  rcases
    exists_openStep (k := ⟨node, ⟨0, []⟩⟩) 0 rfl rfl rfl
      (Nat.le_refl 0) with
    ⟨outputs, con, hOpen, hOnly, _⟩
  have hEmpty :
      (node.setConNet first con ()).connectbuf.free first =
        SlotTable.empty := by
    rw [hOnly.connectbuf]
    funext i
    by_cases hFirst : i = first
    · rw [hFirst]
      rfl
    · rw [SlotTable.free_of_ne _ hFirst,
        SlotTable.set_of_ne _ _ hFirst]
  have hClose :
      KeepaliveStep platform Transport.scripted
        ⟨node.setConNet first con (),
          ⟨0, [(socketID 2, 1000000)]⟩⟩
        ⟨0, .closeConnection 0⟩ []
        ⟨{ node.setConNet first con () with
            connectbuf := SlotTable.empty },
          ⟨0, [(socketID 2, 1000000)]⟩⟩ := by
    refine ⟨⟨trivial, ?_⟩, .idle (Nat.le_refl 0)⟩
    rw [← hEmpty]
    rfl
  rcases
    exists_openStep
      (k :=
        ⟨{ node.setConNet first con () with
            connectbuf := SlotTable.empty },
          ⟨0, [(socketID 2, 1000000)]⟩⟩)
      0 rfl rfl rfl (Nat.le_refl 0) with
    ⟨outputs', con', hReopen, _⟩
  refine
    ⟨_, _,
      Run.cons hOpen (.cons hClose (.cons hReopen (.nil _))),
      rfl, rfl, ?_⟩
  intro hChain
  have hSingle :=
    hChain.single _
      (List.mem_cons_of_mem _
        (List.mem_cons_of_mem _ List.mem_cons_self))
      (socketID 2)
  have hTwo :
      TimerSet.count (SamePeer platform)
          ⟨0, [(socketID 2, 1000000),
            (socketID 2, 1000000)]⟩ (socketID 2) = 2 := by
    unfold TimerSet.count
    simp [SamePeer.refl]
  exact absurd (hTwo.symm.trans_le hSingle) (by decide)

end Examples

end ML

end NapaBaselibs
