import NapaBaselibs.ML.Fragmentation
import NapaBaselibs.ML.GiveUp

/-
  When the loops of `send_msg` end.

  Every packet must take some bytes of the message, and every
  restart must lower the packet size.  Both hold while the
  packet size is at least the smallest one; a connection can
  have less, from an `INVITE` or after the last `MSGLEN`.

  Key definitions include:
    * `Advances`, `Restarts`
    * `Endpoint.SendsWell`

  Key theorems include:
    * `sendPass_ends`
    * `sendPasses_ends`
    * `Restarts.lt`
    * `send_msg_ends_iff`
    * `empty_packets_never_end`
-/

------------------------------------------------------------
-- Progress Of The Loops
------------------------------------------------------------

namespace NapaBaselibs

namespace ML

variable {σ α : Type}

/-
  The packets of a call, from an offset on: each begins where
  the one before it ended, takes at least one byte and none
  beyond the message; after a packet that is refused, the
  message is begun again.
-/
def Advances (msgLen : Int) : Nat → List Output → Prop
| _, [] => True
| offset, .packet pkt answer :: rest =>
    pkt.header.offset.toNat = offset ∧
      0 < pkt.payload.length ∧
      (offset + pkt.payload.length : Int) ≤ msgLen ∧
      Advances msgLen
        (if answer = .ok then offset + pkt.payload.length
        else 0) rest
| _, _ :: _ => False

/- The call restarts, with one packet size after another. -/
inductive Restarts
    (T : Transport σ α)
    (job : SendJob) :
    SendInput α → ConnectData → σ → Int → Int → Prop where
  | here
      {pass : Pass α}
      {rest : SendInput α}
      {con : ConnectData}
      {net net' : σ}
      {outputs : List Output}
      (hPass :
        sendPass T job con.pmtusize pass.monDataHdr.length
            pass.attempts 0 pass.monDataHdr.bytes net =
          .ok (.msglen, net', outputs))
      (hLeft : 0 < pmtuDecrement con.pmtusize) :
      Restarts T job (pass :: rest) con net con.pmtusize
        (pmtuDecrement con.pmtusize)
  | later
      {pass : Pass α}
      {rest : SendInput α}
      {con : ConnectData}
      {net net' : σ}
      {outputs : List Output}
      {size size' : Int}
      (hPass :
        sendPass T job con.pmtusize pass.monDataHdr.length
            pass.attempts 0 pass.monDataHdr.bytes net =
          .ok (.msglen, net', outputs))
      (hLeft : 0 < pmtuDecrement con.pmtusize)
      (hRest :
        Restarts T job rest
          { con with
            pmtusize := pmtuDecrement con.pmtusize
            delay := true } net' size size') :
      Restarts T job (pass :: rest) con net size size'

/- The output queue answers every packet. -/
def Transport.Answers (T : Transport σ α) : Prop :=
  ∀ link pkt net, ∃ result net',
    T.queueOrSendPacket link pkt net = some (result, net')

/- A queue whose answers are part of the input. -/
def Transport.answersInput (σ : Type) :
    Transport σ ErrorCode where
  queueOrSendPacket answer _ net := some (answer, net)
  rtxPacketsFromTo _ _ _ _ _ := some []

theorem answers_answersInput :
    (Transport.answersInput σ).Answers :=
  fun link _ net => ⟨link, net, rfl⟩

/-
  A size not below the smallest one is lowered to a smaller
  one, or to none.
-/
theorem pmtuDecrement_lt
    {pmtusize : Int}
    (hMin : pmtuMin ≤ pmtusize) :
    pmtuDecrement pmtusize < pmtusize := by
  unfold pmtuDecrement
  unfold pmtuMin at *
  unfold pmtuMax pmtuDsl pmtuDslMedium pmtuDslSlim
    pmtuBelowDsl pmtuError
  repeat' split
  all_goals omega

/- A smaller one is raised to it. -/
theorem pmtuDecrement_of_lt
    {pmtusize : Int}
    (hBelow : pmtusize < pmtuMin) :
    pmtuDecrement pmtusize = pmtuMin := by
  unfold pmtuDecrement
  unfold pmtuMin at *
  unfold pmtuMax pmtuDsl pmtuDslMedium pmtuDslSlim
    pmtuBelowDsl
  repeat' split
  all_goals omega

------------------------------------------------------------
-- The Loops End
------------------------------------------------------------

/-
  With at least the smallest size there is room for payload
  behind the longest headers.
-/
theorem SendJob.pktLen_of_min
    {job : SendJob}
    {pmtusize : Int}
    {lenMonDataHdr lenMonPktHdr offset : Nat}
    (hMin : pmtuMin ≤ pmtusize)
    (hHigh : pmtusize < 2 ^ 31)
    (hData : lenMonDataHdr ≤ monHeaderSpace)
    (hPkt : lenMonPktHdr ≤ monHeaderSpace)
    (hOffset : (offset : Int) < job.msgLen) :
    ∃ len : Nat,
      job.pktLen pmtusize lenMonDataHdr lenMonPktHdr
          offset = len ∧
        0 < len ∧ (offset + len : Int) ≤ job.msgLen := by
  unfold SendJob.pktLen
  unfold pmtuMin at hMin
  unfold monHeaderSpace at hData hPkt
  unfold msgHeaderSize
  rw [toCInt_eq_self (by omega) (by omega)]
  refine
    ⟨(min
        (pmtusize - lenMonDataHdr - lenMonPktHdr - (23 : Nat))
        (job.msgLen - offset)).toNat, ?_, ?_, ?_⟩
  · omega
  · omega
  · omega

/-
  A pass ends after at most as many packets as bytes are
  left, whatever the queue answers.
-/
theorem sendPass_ends
    {T : Transport σ α}
    {job : SendJob}
    {pmtusize : Int}
    (lenMonDataHdr : Nat)
    {attempts : List (Attempt α)}
    {offset : Nat}
    {monDataHdr : List UInt8}
    (net : σ)
    (hAnswers : T.Answers)
    (hMin : pmtuMin ≤ pmtusize)
    (hHigh : pmtusize < 2 ^ 31)
    (hHdr : monDataHdr.length ≤ monHeaderSpace)
    (hLen : job.msgLen < 2 ^ 31)
    (hOffset : (offset : Int) < job.msgLen)
    (hEnough : job.msgLen ≤ offset + attempts.length) :
    ∃ result net' outputs,
      sendPass T job pmtusize lenMonDataHdr attempts offset
          monDataHdr net = .ok (result, net', outputs) ∧
        ∀ later,
          (if result = .ok then later = []
            else Advances job.msgLen 0 later) →
          Advances job.msgLen offset (outputs ++ later) := by
  induction attempts generalizing offset monDataHdr net with
  | nil =>
      simp only [List.length_nil] at hEnough
      omega
  | cons attempt rest ih =>
      rcases
        SendJob.pktLen_of_min hMin hHigh hHdr
          attempt.monPktHdr.length_le hOffset with
        ⟨len, hPktLen, hPos, hFits⟩
      simp only [sendPass, hPktLen, Int.toNat_natCast,
        show ¬ (len : Int) < 0 by omega, if_false]
      have hPacket :
          (job.packet lenMonDataHdr monDataHdr attempt offset
              len).header.offset.toNat = offset ∧
            (job.packet lenMonDataHdr monDataHdr attempt
              offset len).payload.length = len := by
        have hSmall : offset < 2 ^ 32 := by omega
        exact
          ⟨UInt32.toNat_ofNat_of_lt' hSmall,
            length_readBlock ..⟩
      generalize
        job.packet lenMonDataHdr monDataHdr attempt offset
          len = pkt at *
      rcases hPacket with ⟨hAt, hPayload⟩
      rcases hAnswers attempt.link pkt net with
        ⟨result, net₁, hResult⟩
      simp only [hResult]
      cases result with
      | ok =>
          simp only
          split
          · rename_i hMore
            rw [List.length_cons] at hEnough
            have hNone :
                ([] : List UInt8).length ≤ monHeaderSpace :=
              Nat.zero_le _
            have hInside :
                ((offset + len : Nat) : Int) < job.msgLen := by
              have := hMore.1
              omega
            rcases ih net₁ hNone hInside (by omega) with
              ⟨result, net₂, outputs, hRest, hLater⟩
            refine
              ⟨result, net₂, .packet pkt .ok :: outputs, ?_,
                ?_⟩
            · rw [hRest]
            · intro later hEnd
              refine
                ⟨hAt, by omega, by rw [hPayload]; exact hFits,
                  ?_⟩
              rw [if_pos rfl, hPayload]
              exact hLater later hEnd
          · refine
              ⟨.ok, net₁, [.packet pkt .ok], rfl, ?_⟩
            intro later hEnd
            rw [if_pos rfl] at hEnd
            rw [hEnd]
            exact
              ⟨hAt, by omega, by rw [hPayload]; exact hFits,
                trivial⟩
      | msglen | failure | throttle =>
          refine ⟨_, net₁, _, rfl, ?_⟩
          intro later hEnd
          exact
            ⟨hAt, by omega, by rw [hPayload]; exact hFits,
              hEnd⟩

/-
  The restarts end too: each leaves fewer sizes, and a size
  is never below the smallest.
-/
theorem sendPasses_ends
    {T : Transport σ α}
    (job : SendJob)
    {input : SendInput α}
    (con : ConnectData)
    (net : σ)
    (hAnswers : T.Answers)
    (hMin : pmtuMin ≤ con.pmtusize)
    (hHigh : con.pmtusize < 2 ^ 31)
    (hPos : 1 ≤ job.msgLen)
    (hLen : job.msgLen < 2 ^ 31)
    (hPasses : sizesLeft con.pmtusize ≤ input.length)
    (hEnough :
      ∀ pass ∈ input, job.msgLen ≤ pass.attempts.length) :
    ∃ con' net' outputs,
      sendPasses T job input con net =
          .ok (con', net', outputs) ∧
        Advances job.msgLen 0 outputs := by
  have hNotError : con.pmtusize ≠ pmtuError := by
    unfold pmtuMin at hMin
    unfold pmtuError
    omega
  have hFewer := sizesLeft_pmtuDecrement hNotError
  induction input generalizing con net with
  | nil =>
      simp only [List.length_nil] at hPasses
      omega
  | cons pass rest ih =>
      rw [List.forall_mem_cons] at hEnough
      have hStart : ((0 : Nat) : Int) < job.msgLen := by
        omega
      have hAll :
          job.msgLen ≤ ((0 : Nat) : Int) + pass.attempts.length := by
        omega
      rcases
        sendPass_ends pass.monDataHdr.length net hAnswers
          hMin hHigh pass.monDataHdr.length_le hLen hStart
          hAll with
        ⟨result, net₁, outputs, hPass, hLater⟩
      simp only [sendPasses, hPass]
      cases result with
      | msglen =>
          simp only
          split
          · rename_i hLeft
            rcases pmtuDecrement_bounds _ hLeft with
              ⟨hNextMin, hNextHigh⟩
            have hNext :
                pmtuDecrement con.pmtusize ≠ pmtuError := by
              unfold pmtuError
              omega
            rw [List.length_cons] at hPasses
            have hPassesLeft :
                sizesLeft (pmtuDecrement con.pmtusize) ≤
                  rest.length := by
              omega
            have hFewer' := sizesLeft_pmtuDecrement hNext
            rcases
              ih
                { con with
                  pmtusize := pmtuDecrement con.pmtusize
                  delay := true }
                net₁ hNextMin hNextHigh hPassesLeft
                hEnough.2 hNext hFewer' with
              ⟨con', net₂, outputs', hRest, hAdvances⟩
            rw [hRest]
            exact
              ⟨con', net₂, outputs ++ outputs', rfl,
                hLater outputs' hAdvances⟩
          · refine ⟨_, net₁, outputs, rfl, ?_⟩
            have hEnd := hLater [] trivial
            rw [List.append_nil] at hEnd
            exact hEnd
      | ok =>
          refine ⟨con, net₁, outputs, rfl, ?_⟩
          have hEnd := hLater [] rfl
          rw [List.append_nil] at hEnd
          exact hEnd
      | failure | throttle =>
          refine ⟨con, net₁, outputs, rfl, ?_⟩
          have hEnd := hLater [] trivial
          rw [List.append_nil] at hEnd
          exact hEnd

/- Each restart is with a smaller size. -/
theorem Restarts.lt
    {T : Transport σ α}
    {job : SendJob}
    {input : SendInput α}
    {con : ConnectData}
    {net : σ}
    {size size' : Int}
    (hRestarts : Restarts T job input con net size size')
    (hMin : pmtuMin ≤ con.pmtusize) :
    size' < size := by
  induction hRestarts with
  | here => exact pmtuDecrement_lt hMin
  | later _ hLeft _ ih =>
      exact ih (pmtuDecrement_bounds _ hLeft).1

------------------------------------------------------------
-- Exactly When They End
------------------------------------------------------------

/-
  Every message of at least one byte can be sent over the
  connection, with all monitoring headers and all answers of
  the queue: four passes of as many packets as there are
  bytes are enough, the packets advance, and the sizes go
  down.
-/
def Endpoint.SendsWell
    (s : Endpoint σ)
    (conId : ConId)
    (con : ConnectData) : Prop :=
  ∀ (T : Transport σ ErrorCode) (msgType : UInt8)
    (msg : List UInt8) (msgLen : Int) (truncable : Bool)
    (input : SendInput ErrorCode),
    T.Answers →
      1 ≤ msgLen → msgLen < 2 ^ 31 →
        4 ≤ input.length →
          (∀ pass ∈ input, msgLen ≤ pass.attempts.length) →
          (∃ s' outputs,
            sendMsg T input s conId msgType msg msgLen
                truncable = .ok (s', outputs) ∧
              Advances msgLen 0 outputs) ∧
            ∀ size size',
              Restarts T
                  (con.sendJob conId msgType msg msgLen
                    truncable)
                  input { con with seqnr := con.seqnr + 1 }
                  s.net size size' →
                size' < size

theorem Endpoint.sendsWell_of_min
    {s : Endpoint σ}
    {conId : ConId}
    {con : ConnectData}
    (hCon : s.connectbuf conId = some con)
    (hHigh : con.pmtusize < 2 ^ 31)
    (hMin : pmtuMin ≤ con.pmtusize) :
    s.SendsWell conId con := by
  intro T msgType msg msgLen truncable input hAnswers hPos
    hLen hPasses hEnough
  have hSizes : sizesLeft con.pmtusize ≤ input.length :=
    (sizesLeft_le _).trans hPasses
  constructor
  · rcases
      sendPasses_ends
        (con.sendJob conId msgType msg msgLen truncable)
        { con with seqnr := con.seqnr + 1 }
        s.net hAnswers hMin hHigh hPos hLen hSizes
        hEnough with
      ⟨con', net', outputs, hSend, hAdvances⟩
    refine
      ⟨s.setConNet conId con' net', outputs, ?_, hAdvances⟩
    unfold sendMsg
    simp only [hCon, hSend]
  · intro size size' hRestarts
    exact hRestarts.lt hMin

/- One attempt without headers that is answered like this. -/
def answeredAttempt
    (answer : ErrorCode) : Attempt ErrorCode where
  monPktHdr := MonHeader.none
  beyond := fun _ => 0
  link := answer

/- A pass of such attempts. -/
def answeredPass
    (n : Nat)
    (answer : ErrorCode) : Pass ErrorCode where
  monDataHdr := MonHeader.none
  attempts := List.replicate n (answeredAttempt answer)

/-
  A first packet answered `MSGLEN`: its length is negative,
  or the pass ends with this answer.
-/
theorem sendPass_msglen
    (job : SendJob)
    (pmtusize : Int)
    (net : σ) :
    sendPass (Transport.answersInput σ) job pmtusize 0
        (answeredPass 1 .msglen).attempts 0 [] net =
        .error .packetLength ∨
      ∃ outputs,
        sendPass (Transport.answersInput σ) job pmtusize 0
            (answeredPass 1 .msglen).attempts 0 [] net =
          .ok (.msglen, net, outputs) := by
  unfold answeredPass
  rw [List.replicate_one]
  simp only [sendPass]
  split
  · exact Or.inl rfl
  · exact Or.inr ⟨_, rfl⟩

/-
  Below the smallest size one byte is not sent, or answered
  with `MSGLEN` is sent again with a larger packet size.
-/
theorem Endpoint.not_sendsWell_of_lt
    {s : Endpoint σ}
    {conId : ConId}
    {con : ConnectData}
    (hCon : s.connectbuf conId = some con)
    (hBelow : con.pmtusize < pmtuMin) :
    ¬ s.SendsWell conId con := by
  intro hWell
  have hInput :
      ∀ pass ∈ List.replicate 4 (answeredPass 1 .msglen),
        (1 : Int) ≤ pass.attempts.length := by
    intro pass hMem
    rw [List.eq_of_mem_replicate hMem]
    decide
  rcases
    hWell (Transport.answersInput σ) 0 [0] 1 true _
      answers_answersInput (by decide) (by decide)
      (by decide) hInput with
    ⟨⟨s', outputs, hSend, _⟩, hLower⟩
  rcases
    sendPass_msglen (con.sendJob conId 0 [0] 1 true)
      con.pmtusize s.net with
    hNegative | ⟨sent, hFirst⟩
  · have hFails :
        sendMsg (Transport.answersInput σ)
            (List.replicate 4 (answeredPass 1 .msglen)) s
            conId 0 [0] 1 true =
          .error .packetLength := by
      unfold sendMsg
      simp only [hCon]
      rw [List.replicate_succ]
      unfold sendPasses
      have hHeader :
          (answeredPass 1 .msglen).monDataHdr.length = 0 ∧
            (answeredPass 1 .msglen).monDataHdr.bytes = [] :=
        ⟨rfl, rfl⟩
      rw [hHeader.1, hHeader.2]
      simp only [hNegative]
    rw [hFails] at hSend
    cases hSend
  · have hNext := pmtuDecrement_of_lt hBelow
    have hLeft : 0 < pmtuDecrement con.pmtusize := by
      rw [hNext]
      decide
    have hRestart :
        Restarts (Transport.answersInput σ)
          (con.sendJob conId 0 [0] 1 true)
          (List.replicate 4 (answeredPass 1 .msglen))
          { con with seqnr := con.seqnr + 1 } s.net
          con.pmtusize (pmtuDecrement con.pmtusize) :=
      Restarts.here hFirst hLeft
    have hLess := hLower _ _ hRestart
    omega

------------------------------------------------------------
-- Sizes In A Run
------------------------------------------------------------

section Sizes

variable {p : Platform}
variable {T : Transport σ α}

/-
  The network takes packets of the smallest size: the queue
  does not answer `MSGLEN` to them.
-/
def Transport.TakesMin (T : Transport σ α) : Prop :=
  ∀ link pkt net net',
    (pkt.datagram.length : Int) ≤ pmtuMin →
      T.queueOrSendPacket link pkt net ≠
        some (.msglen, net')

/- An `INVITE` brings at least the smallest size. -/
def Event.InvitesWithRoom (p : Platform) : Event α → Prop
| recvPkg _ r =>
    r.command p = some .invite →
      pmtuMin ≤ toCInt (r.conMsg p).pmtuSize.toNat
| _ => True

/- A size that is lowered is none, or not below the smallest. -/
theorem pmtuMin_le_pmtuDecrement
    {pmtusize : Int}
    (hSize : pmtuDecrement pmtusize ≠ pmtuError) :
    pmtuMin ≤ pmtuDecrement pmtusize := by
  unfold pmtuDecrement at *
  unfold pmtuMin pmtuMax pmtuDsl pmtuDslMedium pmtuDslSlim
    pmtuBelowDsl pmtuError at *
  repeat' split at hSize
  all_goals simp_all

/- Only the smallest size is followed by none. -/
theorem pmtuDecrement_ne_error
    {pmtusize : Int}
    (hAbove : pmtuMin < pmtusize) :
    pmtuDecrement pmtusize ≠ pmtuError := by
  unfold pmtuDecrement
  unfold pmtuMin at *
  unfold pmtuMax pmtuDsl pmtuDslMedium pmtuDslSlim
    pmtuBelowDsl pmtuError
  repeat' split
  all_goals omega

/- A packet is not longer than the packet size. -/
theorem SendJob.length_datagram_le
    {job : SendJob}
    {pmtusize : Int}
    (lenMonDataHdr : Nat)
    {offset : Nat}
    {monDataHdr : List UInt8}
    {attempt : Attempt α}
    (hMin : pmtuMin ≤ pmtusize)
    (hHigh : pmtusize < 2 ^ 31)
    (hHdr : monDataHdr.length ≤ monHeaderSpace)
    (hLen :
      ¬ job.pktLen pmtusize monDataHdr.length
        attempt.monPktHdr.length offset < 0) :
    ((job.packet lenMonDataHdr monDataHdr attempt offset
        (job.pktLen pmtusize monDataHdr.length
          attempt.monPktHdr.length offset).toNat
      ).datagram.length : Int) ≤ pmtusize := by
  have hPkt := attempt.monPktHdr.length_le
  have hBytes :
      attempt.monPktHdr.bytes.length =
        attempt.monPktHdr.length := rfl
  have hRoom :
      job.pktLen pmtusize monDataHdr.length
          attempt.monPktHdr.length offset ≤
        pmtusize - monDataHdr.length -
          attempt.monPktHdr.length - msgHeaderSize := by
    unfold SendJob.pktLen
    unfold pmtuMin at hMin
    unfold monHeaderSpace at hHdr hPkt
    unfold msgHeaderSize
    rw [toCInt_eq_self (by omega) (by omega)]
    exact min_le_left _ _
  unfold Packet.datagram SendJob.packet
  simp only [List.length_append, MsgHeader.length_encode,
    length_readBlock, hBytes]
  omega

/- `MSGLEN` is answered above the smallest size only. -/
theorem sendPass_msglen_size
    {job : SendJob}
    {pmtusize : Int}
    {lenMonDataHdr : Nat}
    {attempts : List (Attempt α)}
    {offset : Nat}
    {monDataHdr : List UInt8}
    {net net' : σ}
    {outputs : List Output}
    (hTakes : T.TakesMin)
    (hMin : pmtuMin ≤ pmtusize)
    (hHigh : pmtusize < 2 ^ 31)
    (hHdr : monDataHdr.length ≤ monHeaderSpace)
    (hPass :
      sendPass T job pmtusize lenMonDataHdr attempts offset
          monDataHdr net = .ok (.msglen, net', outputs)) :
    pmtuMin < pmtusize := by
  induction attempts generalizing offset monDataHdr net
      outputs with
  | nil => cases hPass
  | cons attempt rest ih =>
      simp only [sendPass] at hPass
      split at hPass
      · cases hPass
      · rename_i hLen
        have hShort :=
          SendJob.length_datagram_le lenMonDataHdr hMin hHigh
            hHdr hLen
        split at hPass
        · cases hPass
        · split at hPass
          · split at hPass
            · cases hPass
            · rename_i hRest
              cases hPass
              exact ih (Nat.zero_le _) hRest
          · cases hPass
        · rename_i hResult
          cases hPass
          by_contra hNot
          exact
            hTakes _ _ _ _ (hShort.trans (by omega)) hResult

/-
  Over such a network no step takes a size below the
  smallest.
-/
theorem sizeRules
    (hTakes : T.TakesMin) :
    EntryRules p T (fun con =>
      pmtuMin ≤ con.pmtusize ∧ con.pmtusize < 2 ^ 31) where
  congr hOld hSame := by
    rw [hSame.pmtusize]
    exact hOld
  sent {job input con con' net net' outputs} hPasses hOld := by
    induction input generalizing con net outputs with
    | nil => cases hPasses
    | cons pass rest ih =>
        rcases hOld with ⟨hMin, hHigh⟩
        simp only [sendPasses] at hPasses
        split at hPasses
        · cases hPasses
        · rename_i hPass
          have hAbove :=
            sendPass_msglen_size hTakes hMin hHigh
              pass.monDataHdr.length_le hPass
          have hNext :=
            pmtuMin_le_pmtuDecrement
              (pmtuDecrement_ne_error hAbove)
          have hPositive : 0 < pmtuDecrement con.pmtusize := by
            unfold pmtuMin at hNext
            omega
          rw [if_pos hPositive] at hPasses
          split at hPasses
          · cases hPasses
          · rename_i hRest
            cases hPasses
            exact ih hRest (pmtuDecrement_bounds _ hPositive)
        · cases hPasses
          exact ⟨hMin, hHigh⟩
  allocated _ _ _ hOld := hOld
  started hOld := hOld
  opened _ _ _ _ := by
    change pmtuMin ≤ pmtuDslSlim ∧ pmtuDslSlim < 2 ^ 31
    decide
  retried {con} hOld hSize := by
    change
      pmtuMin ≤ con.backOff.pmtusize ∧
        con.backOff.pmtusize < 2 ^ 31
    by_cases hTrials : con.trials = maxTrials
    · rw [(ConnectData.backOff_of_eq hTrials).2.2.2] at *
      have hMin := pmtuMin_le_pmtuDecrement hSize
      have hPositive : 0 < pmtuDecrement con.pmtusize := by
        unfold pmtuMin at hMin
        omega
      exact pmtuDecrement_bounds _ hPositive
    · rw [(ConnectData.backOff_of_ne hTrials).2.2.2]
      exact hOld
  external _ _ := by
    change pmtuMin ≤ pmtuDslSlim ∧ pmtuDslSlim < 2 ^ 31
    decide

/-
  In every run: all messages can be sent over an entry if and
  only if its packet size is at least the smallest one; and
  it is, for every entry, when each `INVITE` brings one that
  is and the network takes packets of the smallest size.
-/
theorem send_msg_ends_iff
    {s t : Endpoint σ}
    {trace :
      List (Transition (Endpoint σ) (Event α) Output)}
    (hInitial : s.Initial)
    (hRun : Run (NodeStep p T) s trace t) :
    (∀ conId con, t.connectbuf conId = some con →
      (t.SendsWell conId con ↔ pmtuMin ≤ con.pmtusize)) ∧
    (T.TakesMin →
      (∀ transition ∈ trace,
        transition.event.InvitesWithRoom p) →
      ∀ conId con, t.connectbuf conId = some con →
        t.SendsWell conId con) := by
  constructor
  · intro conId con hCon
    have hHigh := (sizeInRange hInitial hRun conId con hCon).2
    constructor
    · intro hWell
      by_contra hBelow
      rw [Int.not_le] at hBelow
      exact Endpoint.not_sendsWell_of_lt hCon hBelow hWell
    · exact Endpoint.sendsWell_of_min hCon hHigh
  · intro hTakes hInvites conId con hCon
    have hEach :
        t.EachEntry (fun con =>
          pmtuMin ≤ con.pmtusize ∧
            con.pmtusize < 2 ^ 31) := by
      refine (sizeRules hTakes).run hInitial hRun ?_
      intro transition hMem
      have hInvite := hInvites transition hMem
      revert hInvite
      cases transition.event with
      | recvPkg input r =>
          intro hInvite hCommand _
          have hMin := hInvite hCommand
          have hHigh :=
            (toCInt_bounds (r.conMsg p).pmtuSize.toNat).2
          unfold ConnectData.ofInvite
          simp only
          exact ⟨hMin, hHigh⟩
      | openConnection | closeConnection | sendData
      | pmtuTimeout | keepalive | recvTimeout
      | pktRecvTimeout | lastPktRecvTimeout =>
          intro _
          trivial
    rcases hEach conId con hCon with ⟨hMin, hHigh⟩
    exact Endpoint.sendsWell_of_min hCon hHigh hMin

end Sizes

------------------------------------------------------------
-- A Connection With Room And One Without
------------------------------------------------------------

/- A queue that accepts every packet. -/
def Transport.takingAll : Transport Unit ErrorCode where
  queueOrSendPacket _ _ _ := some (.ok, ())
  rtxPacketsFromTo _ _ _ _ _ := some []

theorem takesMin_takingAll : Transport.takingAll.TakesMin := by
  intro link pkt net net' _ hAnswer
  cases hAnswer

open Sample

/- After an ordinary `INVITE` everything can be sent. -/
theorem send_msg_ends_invited :
    ∃ con trace,
      Run (NodeStep platform Transport.takingAll) node trace
          (node.setConNet first con ()) ∧
        con.status = .connect ∧
        (node.setConNet first con ()).SendsWell first con := by
  rcases
    recvPkg_acceptedInvite
      (show Transport.takingAll.Accepts from fun _ => rfl)
      0 with
    ⟨con, pkt, hRecv, _, hStatus, _⟩
  rw [← sizedConnReception_slim] at hRecv
  have hInvited :
      NodeStep platform Transport.takingAll node
        (.recvPkg once
          (sizedConnReception .invite 1372 0 (-1)))
        [.packet pkt .ok] (node.setConNet first con ()) :=
    ⟨trivial, hRecv⟩
  have hRun := Run.cons hInvited (.nil _)
  refine ⟨con, _, hRun, hStatus, ?_⟩
  refine
    (send_msg_ends_iff node_initial hRun).2
      takesMin_takingAll ?_ first con
      (SlotTable.set_self node.connectbuf first con)
  intro transition hMem
  rw [List.mem_singleton] at hMem
  rw [hMem]
  intro _
  rw [(recvPkg_sizedConnReception Transport.takingAll once
    node .invite 1372 0 (-1)).2.1]
  rw [toCInt_eq_self (by decide) (by decide)]
  decide

/-
  A connection message that is too small is not sent; the
  timer is started all the same.
-/
theorem sendConnMsgWithPmtuDiscovery_small
    {p : Platform}
    {T : Transport Unit ErrorCode}
    {input : SendInput ErrorCode}
    {s : Endpoint Unit}
    {conId : ConId}
    {con : ConnectData}
    {bufSize : Int}
    (command : ConMsgType)
    (hLow : 0 ≤ bufSize)
    (hSmall : bufSize < connMsgSize) :
    sendConnMsgWithPmtuDiscovery p T input
        (s.setCon conId con) conId bufSize command =
      .ok
        (s.setCon conId
          { con with trials := 1, timeoutEvent := true },
          []) := by
  unfold sendConnMsgWithPmtuDiscovery sendAndReschedule
    sendConnMsg
  simp only [derefCon, Endpoint.setCon_connectbuf,
    SlotTable.set_self, Endpoint.setCon_setCon, hLow, hSmall,
    and_self, if_true, rescheduleConnMsg]

/- An `INVITE` with room for the packet header only. -/
def tinyInvite : Reception :=
  sizedConnReception .invite 23 0 (-1)

theorem recvPkg_tinyInvite :
    ∃ con,
      recvPkg platform Transport.scripted once node
          tinyInvite = .ok (node.setConNet first con (), []) ∧
        con.status = .connect ∧
        con.pmtusize = 23 := by
  have hEmpty : node.connectionOf platform (socketID 2) =
      none :=
    SlotTable.find?_empty _
  have hSize : toCInt ((23 : UInt32).toNat : Int) = 23 :=
    toCInt_eq_self (by decide) (by decide)
  have hFree : node.connectbuf.firstFree? = some first :=
    firstFree?_connectbuf
  unfold tinyInvite
  rw [(recvPkg_sizedConnReception ..).2.2]
  unfold recvInvite
  simp only [hEmpty, hSize, hFree]
  rw [sendConnMsgWithPmtuDiscovery_small .connect (by decide)
    (by decide)]
  refine ⟨_, rfl, rfl, ?_⟩
  simp only [ConnectData.ofInvite, hSize]

/- With room for nothing else the packets are empty. -/
theorem sendPass_tiny
    {job : SendJob}
    (n : Nat)
    (hLen : job.msgLen = 1)
    (hWhole : job.truncable = false) :
    sendPass Transport.scripted job 23 0
        (List.replicate n (answeredAttempt .ok)) 0 [] () =
      .error .inputEnd := by
  have hPktLen : job.pktLen 23 0 0 0 = 0 := by
    unfold SendJob.pktLen msgHeaderSize
    rw [toCInt_eq_self (by decide) (by decide), hLen]
    decide
  induction n with
  | zero => rfl
  | succ n ih =>
      rw [List.replicate_succ]
      unfold sendPass
      have hAttempt :
          (answeredAttempt .ok).monPktHdr.length = 0 ∧
            (answeredAttempt .ok).link = .ok :=
        ⟨rfl, rfl⟩
      simp only [List.length_nil, hAttempt.1, hPktLen,
        hAttempt.2, accepts_scripted _]
      simp [hLen, hWhole, ih]

/-
  An `INVITE` may bring a packet size that leaves no room for
  payload.  However many packets the queue accepts, sending
  one byte over the connection does not end.
-/
theorem empty_packets_never_end :
    ∃ con trace,
      Run (NodeStep platform Transport.scripted) node trace
          (node.setConNet first con ()) ∧
        con.status = .ready ∧
        ¬ (node.setConNet first con ()).SendsWell first con ∧
        ∀ n,
          sendMsg Transport.scripted [answeredPass n .ok]
              (node.setConNet first con ()) first 1 [0] 1
              false = .error .inputEnd := by
  rcases recvPkg_tinyInvite with
    ⟨con, hInvite, hStatus, hSize⟩
  have hInvited :
      NodeStep platform Transport.scripted node
        (.recvPkg once tinyInvite) []
        (node.setConNet first con ()) :=
    ⟨trivial, hInvite⟩
  have hReadied :
      NodeStep platform Transport.scripted
        (node.setConNet first con ())
        (.recvPkg once (connReception .ready 0 0)) _ _ :=
    ⟨trivial, recvPkg_ready hStatus⟩
  have hRun := Run.cons hInvited (.cons hReadied (.nil _))
  refine ⟨_, _, hRun, rfl, ?_, ?_⟩
  · apply Endpoint.not_sendsWell_of_lt
      (SlotTable.set_self node.connectbuf first _)
    change con.pmtusize < pmtuMin
    rw [hSize]
    decide
  · intro n
    unfold sendMsg
    rw [Endpoint.setConNet_connectbuf, SlotTable.set_self]
    simp only [sendPasses]
    have hHeader :
        (answeredPass n .ok).monDataHdr.length = 0 ∧
          (answeredPass n .ok).monDataHdr.bytes = [] ∧
          (answeredPass n .ok).attempts =
            List.replicate n (answeredAttempt .ok) :=
      ⟨rfl, rfl, rfl⟩
    rw [hHeader.1, hHeader.2.1, hHeader.2.2, hSize]
    rw [sendPass_tiny n rfl rfl]

end ML

end NapaBaselibs
