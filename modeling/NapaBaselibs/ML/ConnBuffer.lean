import NapaBaselibs.ML.ConnCalls
import NapaBaselibs.ML.SendTermination

/-
  The buffer for connection messages.

  It is allocated once, with the size of the first message of
  the connection; later messages come with sizes from other
  places.  How many bytes are read from it is the smaller of
  such a size and of the room in a packet.

  Key definitions include:
    * `ReadInside`
    * `ConnMsgCall.Safe`
    * `ConnMsgCall.Fits`

  Key theorems include:
    * `ConnMsgCall.safe_of_fits`, `ConnMsgCall.fits_of_safe`
    * `connMsgCall_sound`
    * `conn_msgs_inside_iff`
    * `resized_invite_reads_outside`
-/

------------------------------------------------------------
-- What Is Read
------------------------------------------------------------

namespace NapaBaselibs

namespace ML

variable {σ α β : Type}

/-
  The packets among the outputs take their bytes from the
  first `size` bytes of the message.
-/
def ReadInside
    (size : Int)
    (outputs : List Output) : Prop :=
  ∀ pkt answer, .packet pkt answer ∈ outputs →
    (pkt.header.offset.toNat + pkt.payload.length : Int) ≤
      size

/- Room for the headers, however long they are. -/
def headerRoom : Int := msgHeaderSize + 2 * monHeaderSpace

section Reads

variable {T : Transport σ α}
variable {job : SendJob}
variable {size : Int}

theorem ReadInside.append
    {first second : List Output}
    (hFirst : ReadInside size first)
    (hSecond : ReadInside size second) :
    ReadInside size (first ++ second) := by
  intro pkt answer hMem
  rcases List.mem_append.mp hMem with hIn | hIn
  · exact hFirst pkt answer hIn
  · exact hSecond pkt answer hIn

/- The length of a first packet that has room. -/
theorem SendJob.pktLen_zero
    (job : SendJob)
    {pmtusize : Int}
    (lenMonDataHdr lenMonPktHdr : Nat)
    (hLow : -1 ≤ pmtusize)
    (hHigh : pmtusize < 2 ^ 31)
    (hData : lenMonDataHdr ≤ monHeaderSpace)
    (hPkt : lenMonPktHdr ≤ monHeaderSpace) :
    job.pktLen pmtusize lenMonDataHdr lenMonPktHdr 0 =
      min
        (pmtusize - lenMonDataHdr - lenMonPktHdr -
          msgHeaderSize)
        job.msgLen := by
  unfold SendJob.pktLen
  unfold monHeaderSpace at hData hPkt
  unfold msgHeaderSize
  rw [toCInt_eq_self (by omega) (by omega)]
  simp

/- A pass reads from inside when the size is right. -/
theorem sendPass_readsInside
    {pmtusize : Int}
    (header : MonHeader)
    (attempts : List (Attempt α))
    (net : σ)
    (hTruncable : job.truncable = true)
    (hLow : headerRoom ≤ pmtusize)
    (hHigh : pmtusize < 2 ^ 31)
    (hLen : 0 ≤ job.msgLen)
    (hFits :
      min (pmtusize - msgHeaderSize) job.msgLen ≤ size) :
    sendPass T job pmtusize header.length attempts 0
        header.bytes net ≠ .error .packetLength ∧
      ∀ result net' outputs,
        sendPass T job pmtusize header.length attempts 0
            header.bytes net = .ok (result, net', outputs) →
          ReadInside size outputs := by
  cases attempts with
  | nil =>
      simp [sendPass]
  | cons attempt rest =>
      have hData : header.length ≤ monHeaderSpace :=
        header.length_le
      have hPkt : attempt.monPktHdr.length ≤ monHeaderSpace :=
        attempt.monPktHdr.length_le
      have hBytes :
          header.bytes.length = header.length := rfl
      unfold headerRoom at hLow
      unfold monHeaderSpace at hLow
      have hPktLen :=
        SendJob.pktLen_zero job header.length
          attempt.monPktHdr.length (by omega) hHigh hData hPkt
      unfold monHeaderSpace at hData hPkt
      have hPacket (answer : ErrorCode) :
          ReadInside size
            [.packet
              (job.packet header.length header.bytes attempt 0
                (job.pktLen pmtusize header.length
                  attempt.monPktHdr.length 0).toNat)
              answer] := by
        intro pkt answer' hMem
        rw [List.mem_singleton] at hMem
        cases hMem
        change ((0 + _ : Nat) : Int) ≤ _
        unfold SendJob.packet
        rw [length_readBlock, hPktLen]
        omega
      simp only [sendPass, hBytes, hTruncable]
      rw [if_neg (by omega)]
      split
      · simp
      · simp only [Bool.true_eq_false, and_false, if_false]
        refine ⟨by simp, ?_⟩
        intro result net' outputs hPass
        cases hPass
        exact hPacket .ok
      · refine ⟨by simp, ?_⟩
        intro result net' outputs hPass
        cases hPass
        exact hPacket _

/- So do all passes: a lowered size is at most this one. -/
theorem sendPasses_readsInside
    (input : SendInput α)
    (con : ConnectData)
    (net : σ)
    (hTruncable : job.truncable = true)
    (hLow : headerRoom ≤ con.pmtusize)
    (hHigh : con.pmtusize < 2 ^ 31)
    (hLen : 0 ≤ job.msgLen)
    (hFits :
      min (max con.pmtusize pmtuMin - msgHeaderSize)
        job.msgLen ≤ size) :
    sendPasses T job input con net ≠ .error .packetLength ∧
      ∀ con' net' outputs,
        sendPasses T job input con net =
            .ok (con', net', outputs) →
          ReadInside size outputs := by
  induction input generalizing con net with
  | nil => simp [sendPasses]
  | cons pass rest ih =>
      have hFirst :
          min (con.pmtusize - msgHeaderSize) job.msgLen ≤
            size := by
        omega
      have hPass :=
        sendPass_readsInside (T := T) pass.monDataHdr
          pass.attempts net hTruncable hLow hHigh hLen hFirst
      simp only [sendPasses]
      change
        sendPass T job con.pmtusize pass.monDataHdr.length
            pass.attempts 0 pass.monDataHdr.bytes net ≠
            .error .packetLength ∧ _ at hPass
      split
      · rename_i hError
        rw [hError] at hPass
        refine ⟨by simpa using hPass.1, by simp⟩
      · rename_i net₁ outputs₁ hOk
        have hInside := hPass.2 _ _ _ hOk
        by_cases hLeft : 0 < pmtuDecrement con.pmtusize
        · rw [if_pos hLeft]
          have hBounds := pmtuDecrement_bounds _ hLeft
          have hLowered :
              pmtuDecrement con.pmtusize ≤
                max con.pmtusize pmtuMin := by
            by_cases hMin : pmtuMin ≤ con.pmtusize
            · have := pmtuDecrement_lt hMin
              omega
            · rw [pmtuDecrement_of_lt (by omega)]
              omega
          have hNextLow :
              headerRoom ≤ pmtuDecrement con.pmtusize :=
            (show headerRoom ≤ pmtuMin by decide).trans
              hBounds.1
          have hRest :=
            ih
              { con with
                pmtusize := pmtuDecrement con.pmtusize
                delay := true }
              net₁ hNextLow hBounds.2
              (by
                simp only
                omega)
          split
          · rename_i hError
            rw [hError] at hRest
            refine ⟨by simpa using hRest.1, by simp⟩
          · rename_i con₂ net₂ outputs₂ hOk₂
            refine ⟨by simp, ?_⟩
            intro con' net' outputs hEq
            cases hEq
            exact hInside.append (hRest.2 _ _ _ hOk₂)
        · rw [if_neg hLeft]
          refine ⟨by simp, ?_⟩
          intro con' net' outputs hEq
          cases hEq
          exact hInside
      · rename_i hOk
        refine ⟨by simp, ?_⟩
        intro con' net' outputs hEq
        cases hEq
        exact hPass.2 _ _ _ hOk

end Reads

------------------------------------------------------------
-- Safe Calls
------------------------------------------------------------

namespace ConnMsgCall

/-
  Once past its size check the call has a block of at least
  the size of a connection message, and whatever monitoring
  and output queue do, the packets it sends take their bytes
  from this block.
-/
def Safe
    (c : ConnMsgCall)
    (p : Platform)
    (s : Endpoint σ)
    (e : Event α) : Prop :=
  c.Proceeds →
    ∃ block, c.con.ctrlBuf c.bufSize = .ok block ∧
      connMsgSize ≤ block.length ∧
      ∀ (T : Transport σ ErrorCode)
          (input : SendInput ErrorCode),
        exec p T s (e.withInput input) ≠
            .error .packetLength ∧
          ∀ s' outputs,
            exec p T s (e.withInput input) =
                .ok (s', outputs) →
              ReadInside block.length outputs

/-
  The sizes of the call: not negative, room for the headers
  in a packet, and no more than the block has or a packet of
  this size, or of the smallest one, can carry.
-/
def Fits (c : ConnMsgCall) : Prop :=
  c.Proceeds →
    0 ≤ c.bufSize ∧
      headerRoom ≤ c.con.pmtusize ∧
      min (max c.con.pmtusize pmtuMin - msgHeaderSize)
        c.bufSize ≤ c.blockSize

/- What is so in every run. -/
structure Sound (c : ConnMsgCall) : Prop where
  block :
    ∀ buf, c.con.ctrlMsgBuf = some buf →
      connMsgSize ≤ buf.length
  high : c.con.pmtusize < 2 ^ 31
  low : 0 ≤ c.bufSize → pmtuError ≤ c.con.pmtusize

section Blocks

variable {p : Platform}
variable {T : Transport σ α}
variable {input : SendInput α}
variable {s : Endpoint σ}
variable {c : ConnMsgCall}
variable {block : List UInt8}

theorem blockSize_eq
    (hBlock : c.con.ctrlBuf c.bufSize = .ok block) :
    c.blockSize = block.length := by
  unfold ConnectData.ctrlBuf at hBlock
  unfold blockSize
  cases hBuf : c.con.ctrlMsgBuf with
  | some buf =>
      simp only [hBuf] at hBlock
      cases hBlock
      rfl
  | none =>
      simp only [hBuf] at hBlock
      split at hBlock
      · cases hBlock
      · cases hBlock
        simp only [List.length_replicate]
        omega

/- With a size that is not negative there is a block. -/
theorem exists_block
    (hProceeds : c.Proceeds)
    (hSound : c.Sound)
    (hSize : 0 ≤ c.bufSize) :
    ∃ block, c.con.ctrlBuf c.bufSize = .ok block ∧
      connMsgSize ≤ block.length := by
  unfold Proceeds at hProceeds
  unfold ConnectData.ctrlBuf
  split
  · rename_i buf hBuf
    exact ⟨buf, rfl, hSound.block buf hBuf⟩
  · refine ⟨_, if_neg (by omega), ?_⟩
    rw [List.length_replicate]
    omega

/- The message is truncable, and as long as asked for. -/
structure SendsJob
    (c : ConnMsgCall)
    (job : SendJob)
    (con : ConnectData) : Prop where
  truncable : job.truncable = true
  msgLen : job.msgLen = c.bufSize
  pmtusize : con.pmtusize = c.con.pmtusize

/- The call is the passes of `send_msg` over the block. -/
theorem send_eq
    (p : Platform)
    (s : Endpoint σ)
    (hProceeds : c.Proceeds)
    (hBlock : c.con.ctrlBuf c.bufSize = .ok block) :
    ∃ job con, c.SendsJob job con ∧
      ∀ (T : Transport σ α) (input : SendInput α),
        c.send p T input s =
          match sendPasses T job input con s.net with
          | .error fault => .error fault
          | .ok (con', net, outputs) =>
              .ok (s.setConNet c.conId con' net,
                outputs) := by
  unfold Proceeds at hProceeds
  refine
    ⟨ConnectData.sendJob
        { c.con with
          ctrlMsgBuf :=
            some
              (ByteSeq.overlay block 0
                (ConnMsg.encode p
                  { comandType := c.command.code
                    pmtuSize := toUInt32 c.con.pmtusize
                    sockId := s.localSocketID })) }
        c.conId mlConMsg
        (ByteSeq.overlay block 0
          (ConnMsg.encode p
            { comandType := c.command.code
              pmtuSize := toUInt32 c.con.pmtusize
              sockId := s.localSocketID }))
        c.bufSize true,
      { c.con with
        ctrlMsgBuf :=
          some
            (ByteSeq.overlay block 0
              (ConnMsg.encode p
                { comandType := c.command.code
                  pmtuSize := toUInt32 c.con.pmtusize
                  sockId := s.localSocketID }))
        seqnr := c.con.seqnr + 1 },
      ⟨rfl, rfl, rfl⟩, ?_⟩
  intro T input
  unfold send sendConnMsg
  rw [if_neg hProceeds]
  simp only [derefCon, Endpoint.setCon_connectbuf,
    SlotTable.set_self, hBlock, Endpoint.setCon_setCon]
  unfold sendMsg
  simp only [Endpoint.setCon_connectbuf, SlotTable.set_self,
    Endpoint.setCon_setConNet]
  rfl

/- A call with fitting sizes is safe. -/
theorem safe_of_fits
    {e : Event α}
    (hCall : e.connMsgCall? p s = some c)
    (hSound : c.Sound)
    (hFits : c.Fits) :
    c.Safe p s e := by
  intro hProceeds
  rcases hFits hProceeds with ⟨hSize, hRoom, hMin⟩
  rcases exists_block hProceeds hSound hSize with
    ⟨block, hBlock, hLong⟩
  refine ⟨block, hBlock, hLong, ?_⟩
  intro T input
  rcases send_eq p s hProceeds hBlock with
    ⟨job, con, hJob, hSend⟩
  have hSend := hSend T input
  have hReads :
      min (max con.pmtusize pmtuMin - msgHeaderSize)
          job.msgLen ≤ (block.length : Int) := by
    rw [hJob.pmtusize, hJob.msgLen, ← blockSize_eq hBlock]
    exact hMin
  have hInside :=
    sendPasses_readsInside (T := T) input con s.net
      hJob.truncable
      (by rw [hJob.pmtusize]; exact hRoom)
      (by rw [hJob.pmtusize]; exact hSound.high)
      (by rw [hJob.msgLen]; exact hSize) hReads
  have hRuns :=
    exec_connMsgCall (T := T) input hCall
  cases hPasses : sendPasses T job input con s.net with
  | error fault =>
      simp only [hPasses] at hSend
      rw [hRuns.error fault hSend]
      rw [hPasses] at hInside
      refine ⟨by simpa using hInside.1, by simp⟩
  | ok sent =>
      rcases sent with ⟨con', net, outputs⟩
      simp only [hPasses] at hSend
      rcases hRuns.ok _ _ hSend with
        ⟨s₁, before, after, hExec, hBefore, hAfter⟩
      rw [hExec]
      refine ⟨by simp, ?_⟩
      intro s' all hAll
      cases hAll
      intro pkt answer hMem
      rcases List.mem_append.mp hMem with hEarly | hLate
      · rcases List.mem_append.mp hEarly with hFirst | hSent
        · exact absurd hFirst (hBefore pkt answer)
        · exact hInside.2 _ _ _ hPasses pkt answer hSent
      · exact absurd hLate (hAfter pkt answer)

end Blocks

end ConnMsgCall

------------------------------------------------------------
-- Unsafe Calls
------------------------------------------------------------

/- Headers that are as long as they can be. -/
def fullHeader : MonHeader where
  bytes := List.replicate monHeaderSpace 0
  length_le := by rw [List.length_replicate]

/- One packet with these headers. -/
def fullInput : SendInput ErrorCode :=
  [⟨fullHeader, [⟨fullHeader, fun _ => 0, .ok⟩]⟩]

section Answered

variable {job : SendJob}
variable {pmtusize : Int}

/- A packet is not longer than the message. -/
theorem SendJob.pktLen_le
    (job : SendJob)
    (pmtusize : Int)
    (lenMonDataHdr lenMonPktHdr offset : Nat) :
    job.pktLen pmtusize lenMonDataHdr lenMonPktHdr offset ≤
      job.msgLen - offset :=
  min_le_right _ _

/- A message of negative length is a fault. -/
theorem sendPasses_negative
    (con : ConnectData)
    (net : σ)
    (hLen : job.msgLen < 0) :
    sendPasses (Transport.answersInput σ) job
        [answeredPass 1 .ok] con net =
      .error .packetLength := by
  have hShort :=
    SendJob.pktLen_le job con.pmtusize 0 0 0
  have hNegative : job.pktLen con.pmtusize 0 0 0 < 0 := by
    omega
  have hHeaders :
      (answeredPass 1 .ok).monDataHdr.length = 0 ∧
        (answeredPass 1 .ok).monDataHdr.bytes = [] ∧
        (answeredPass 1 .ok).attempts =
          [answeredAttempt .ok] ∧
        (answeredAttempt .ok).monPktHdr.length = 0 :=
    ⟨rfl, rfl, rfl, rfl⟩
  unfold sendPasses
  rw [hHeaders.1, hHeaders.2.1, hHeaders.2.2.1]
  unfold sendPass
  simp only [List.length_nil, hHeaders.2.2.2, hNegative,
    if_true]

/- So are headers that leave no room. -/
theorem sendPasses_noRoom
    (con : ConnectData)
    (net : σ)
    (hLow : pmtuError ≤ con.pmtusize)
    (hHigh : con.pmtusize < headerRoom) :
    sendPasses (Transport.answersInput σ) job fullInput con
        net =
      .error .packetLength := by
  have hHeader : fullHeader.length = monHeaderSpace := by
    decide
  have hRoom : headerRoom < 2 ^ 31 := by decide
  have hPktLen :=
    SendJob.pktLen_zero job monHeaderSpace
      monHeaderSpace hLow (hHigh.trans hRoom)
      (Nat.le_refl _) (Nat.le_refl _)
  have hNegative :
      job.pktLen con.pmtusize monHeaderSpace monHeaderSpace
          0 < 0 := by
    unfold headerRoom at hHigh
    omega
  unfold fullInput sendPasses
  simp only
  unfold sendPass
  simp only [hHeader, hNegative, if_true]

/- A truncable message with room, answered. -/
theorem sendPass_answered
    (pmtusize : Int)
    (net : σ)
    (answer : ErrorCode)
    (hTruncable : job.truncable = true)
    (hLow : msgHeaderSize ≤ pmtusize)
    (hHigh : pmtusize < 2 ^ 31)
    (hLen : 0 ≤ job.msgLen) :
    ∃ pkt,
      sendPass (Transport.answersInput σ) job pmtusize 0
          (answeredPass 1 answer).attempts 0 [] net =
        .ok (answer, net, [.packet pkt answer]) ∧
        (pkt.payload.length : Int) =
          min (pmtusize - msgHeaderSize) job.msgLen := by
  have hPktLen :=
    SendJob.pktLen_zero job 0 0 (by omega) hHigh
      (Nat.zero_le _) (Nat.zero_le _)
  have hHeaders :
      (answeredPass 1 answer).attempts =
          [answeredAttempt answer] ∧
        (answeredAttempt answer).monPktHdr.length = 0 ∧
        (answeredAttempt answer).link = answer :=
    ⟨rfl, rfl, rfl⟩
  have hNotNegative : ¬ job.pktLen pmtusize 0 0 0 < 0 := by
    omega
  rw [hHeaders.1]
  unfold sendPass
  simp only [List.length_nil, hHeaders.2.1, hHeaders.2.2,
    hNotNegative, if_false, hTruncable, Bool.true_eq_false,
    and_false, Transport.answersInput]
  refine
    ⟨job.packet 0 [] (answeredAttempt answer) 0
      (job.pktLen pmtusize 0 0 0).toNat, ?_, ?_⟩
  · cases answer with
    | ok | msglen | failure | throttle => rfl
  · unfold SendJob.packet
    rw [length_readBlock, hPktLen]
    omega

/-
  Some input makes `send_msg` send as many bytes as fit into
  a packet of the size, or of the smallest size.
-/
theorem exists_long_packet
    (con : ConnectData)
    (net : σ)
    (hTruncable : job.truncable = true)
    (hLow : headerRoom ≤ con.pmtusize)
    (hHigh : con.pmtusize < 2 ^ 31)
    (hLen : 0 ≤ job.msgLen) :
    ∃ (input : SendInput ErrorCode) (con' : ConnectData)
        (outputs : List Output) (pkt : Packet),
      sendPasses (Transport.answersInput σ) job input con
          net = .ok (con', net, outputs) ∧
        .packet pkt .ok ∈ outputs ∧
        (pkt.payload.length : Int) =
          min (max con.pmtusize pmtuMin - msgHeaderSize)
            job.msgLen := by
  have hHeaders (answer : ErrorCode) :
      (answeredPass 1 answer).monDataHdr.length = 0 ∧
        (answeredPass 1 answer).monDataHdr.bytes = [] :=
    ⟨rfl, rfl⟩
  unfold headerRoom at hLow
  by_cases hMin : pmtuMin ≤ con.pmtusize
  · rcases
      sendPass_answered con.pmtusize net .ok hTruncable
        (by omega) hHigh hLen with
      ⟨pkt, hPass, hLength⟩
    refine
      ⟨[answeredPass 1 .ok], con, [.packet pkt .ok], pkt, ?_,
        List.mem_singleton_self _, ?_⟩
    · unfold sendPasses
      rw [(hHeaders .ok).1, (hHeaders .ok).2, hPass]
    · rw [hLength, max_eq_left hMin]
  · -- `MSGLEN` raises the size to the smallest one
    rcases
      sendPass_answered con.pmtusize net .msglen hTruncable
        (by omega) hHigh hLen with
      ⟨first, hFirst, _⟩
    rcases
      sendPass_answered pmtuMin net .ok hTruncable
        (by decide) (by decide) hLen with
      ⟨pkt, hPass, hLength⟩
    have hNext := pmtuDecrement_of_lt (Int.not_le.mp hMin)
    refine
      ⟨[answeredPass 1 .msglen, answeredPass 1 .ok],
        { con with pmtusize := pmtuMin, delay := true },
        [.packet first .msglen, .packet pkt .ok], pkt, ?_,
        by simp, ?_⟩
    · unfold sendPasses
      rw [(hHeaders .msglen).1, (hHeaders .msglen).2, hFirst]
      simp only [hNext]
      rw [if_pos (by decide)]
      unfold sendPasses
      rw [(hHeaders .ok).1, (hHeaders .ok).2]
      simp only [hPass, List.singleton_append]
    · rw [hLength, max_eq_right (by omega)]

end Answered

namespace ConnMsgCall

/- A call with sizes that do not fit is not safe. -/
theorem fits_of_safe
    {p : Platform}
    {s : Endpoint σ}
    {e : Event α}
    {c : ConnMsgCall}
    (hCall : e.connMsgCall? p s = some c)
    (hSound : c.Sound)
    (hSafe : c.Safe p s e) :
    c.Fits := by
  intro hProceeds
  rcases hSafe hProceeds with ⟨block, hBlock, _, hAll⟩
  rcases send_eq p s hProceeds hBlock with
    ⟨job, con, hJob, hSend⟩
  have hFails (input : SendInput ErrorCode) :
      sendPasses (Transport.answersInput σ) job input con
          s.net ≠ .error .packetLength := by
    intro hError
    have hSent := hSend (Transport.answersInput σ) input
    simp only [hError] at hSent
    exact
      (hAll _ input).1
        ((exec_connMsgCall input hCall).error _ hSent)
  have hSize : 0 ≤ c.bufSize := by
    by_contra hNegative
    apply hFails [answeredPass 1 .ok]
    exact
      sendPasses_negative con s.net
        (by rw [hJob.msgLen]; omega)
  have hRoom : headerRoom ≤ c.con.pmtusize := by
    by_contra hSmall
    apply hFails fullInput
    refine sendPasses_noRoom con s.net ?_ ?_
    · rw [hJob.pmtusize]
      exact hSound.low hSize
    · rw [hJob.pmtusize]
      omega
  refine ⟨hSize, hRoom, ?_⟩
  rcases
    exists_long_packet con s.net hJob.truncable
      (by rw [hJob.pmtusize]; exact hRoom)
      (by rw [hJob.pmtusize]; exact hSound.high)
      (by rw [hJob.msgLen]; exact hSize) with
    ⟨input, con', outputs, pkt, hPasses, hMem, hLength⟩
  have hSent := hSend (Transport.answersInput σ) input
  simp only [hPasses] at hSent
  rcases (exec_connMsgCall input hCall).ok _ _ hSent with
    ⟨s', before, after, hExec, _, _⟩
  have hInside :=
    (hAll _ input).2 _ _ hExec pkt .ok
      (List.mem_append_left _ (List.mem_append_right _ hMem))
  rw [hJob.pmtusize, hJob.msgLen] at hLength
  rw [blockSize_eq hBlock, ← hLength]
  omega

end ConnMsgCall

------------------------------------------------------------
-- Calls In A Run
------------------------------------------------------------

section Runs

variable {p : Platform}
variable {T : Transport σ α}
variable {s t : Endpoint σ}
variable {trace :
  List (Transition (Endpoint σ) (Event α) Output)}

/- A block holds at least a connection message. -/
def ConnectData.BlockHolds (con : ConnectData) : Prop :=
  ∀ buf, con.ctrlMsgBuf = some buf →
    connMsgSize ≤ buf.length

theorem le_length_overlay
    (buf msg : List UInt8) :
    msg.length ≤ (ByteSeq.overlay buf 0 msg).length := by
  rw [ByteSeq.overlay_zero, List.length_append]
  omega

theorem blockHolds_rules :
    EntryRules p T ConnectData.BlockHolds where
  congr hOld hSame := by
    unfold ConnectData.BlockHolds
    rw [hSame.ctrlMsgBuf]
    exact hOld
  sent hPasses hOld := by
    rcases (sendPasses_ok hPasses).1 with
      ⟨pmtusize, delay, rfl⟩
    exact hOld
  allocated {con bufSize buf msg} _ _ hMsg _ := by
    intro buf' hBuf
    cases hBuf
    rw [← hMsg]
    exact le_length_overlay buf msg
  started hOld := hOld
  opened _ _ _ _ := by
    intro buf hBuf
    cases hBuf
  retried {con} hOld _ := by
    intro buf hBuf
    apply hOld
    rw [← hBuf]
    exact con.ctrlMsgBuf_backOff.symm
  external {con} hOld _ := by
    intro buf hBuf
    apply hOld
    rw [← hBuf]
    exact con.ctrlMsgBuf_backOff.symm

/- In every run, whatever is received. -/
theorem blockHolds_of_run
    (hInitial : s.Initial)
    (hRun : Run (NodeStep p T) s trace t) :
    t.EachEntry ConnectData.BlockHolds := by
  refine blockHolds_rules.run hInitial hRun ?_
  intro transition _
  cases transition.event with
  | recvPkg input r =>
      intro _ _ buf hBuf
      cases hBuf
  | openConnection | closeConnection | sendData
  | pmtuTimeout | keepalive | recvTimeout | pktRecvTimeout
  | lastPktRecvTimeout => trivial

/- The first call over an entry, old or new. -/
theorem ConnectData.firstCall_sound
    {con : ConnectData}
    {conId : ConId}
    {bufSize : Int}
    {command : ConMsgType}
    (hBlock : con.BlockHolds)
    (hHigh : con.pmtusize < 2 ^ 31)
    (hLow : 0 ≤ bufSize → pmtuError ≤ con.pmtusize) :
    (con.firstCall conId bufSize command).Sound :=
  ⟨hBlock, hHigh, hLow⟩

theorem inviteCall_sound
    {msgH : MsgHeader}
    {conMsg : ConnMsg}
    {recvAddr : SockaddrStorage}
    {c : ConnMsgCall}
    (hBlocks : t.EachEntry ConnectData.BlockHolds)
    (hSizes :
      t.EachEntry (fun con =>
        pmtuError ≤ con.pmtusize ∧ con.pmtusize < 2 ^ 31))
    (hCall : inviteCall? p t msgH conMsg recvAddr = some c) :
    c.Sound := by
  have hHigh := (toCInt_bounds conMsg.pmtuSize.toNat).2
  unfold inviteCall? at hCall
  unfold ConnectData.ofInvite at hCall
  generalize toCInt conMsg.pmtuSize.toNat = bufSize at *
  simp only at hCall
  split at hCall
  · rename_i conId con hFind
    have hCon := (Endpoint.of_connectionOf_eq_some hFind).1
    rcases hSizes conId con hCon with ⟨hOldLow, hOldHigh⟩
    have hBlock := hBlocks conId con hCon
    rw [Option.some.injEq] at hCall
    subst hCall
    exact
      ConnectData.firstCall_sound hBlock hOldHigh
        (fun _ => hOldLow)
  · split at hCall
    · cases hCall
    · rw [Option.some.injEq] at hCall
      subst hCall
      refine ConnectData.firstCall_sound ?_ hHigh ?_
      · intro buf hBuf
        cases hBuf
      · intro hNotNegative
        unfold pmtuError
        simp only
        omega

theorem connectCall_sound
    {msgH : MsgHeader}
    {conMsg : ConnMsg}
    {c : ConnMsgCall}
    (hBlocks : t.EachEntry ConnectData.BlockHolds)
    (hSizes :
      t.EachEntry (fun con =>
        pmtuError ≤ con.pmtusize ∧ con.pmtusize < 2 ^ 31))
    (hCall : connectCall? t msgH conMsg = some c) :
    c.Sound := by
  unfold connectCall? at hCall
  generalize toCInt conMsg.pmtuSize.toNat = bufSize at *
  simp only at hCall
  split at hCall
  · cases hCall
  · rename_i conId hIndex
    split at hCall
    · cases hCall
    · rename_i con hCon
      rcases hSizes conId con hCon with ⟨hLow, hHigh⟩
      have hBlock := hBlocks conId con hCon
      split at hCall
      · rw [Option.some.injEq] at hCall
        subst hCall
        exact
          ConnectData.firstCall_sound hBlock hHigh
            (fun _ => hLow)
      · rw [Option.some.injEq] at hCall
        subst hCall
        exact
          ConnectData.firstCall_sound hBlock hHigh
            (fun _ => hLow)

theorem openCall_sound
    {externalSocketID : SocketID}
    {cb : ConnectionCb}
    {period : Int}
    {c : ConnMsgCall}
    (hCall :
      openCall? p t externalSocketID cb period = some c) :
    c.Sound := by
  unfold openCall? at hCall
  split at hCall
  · cases hCall
  · split at hCall
    · cases hCall
    · split at hCall
      · cases hCall
      · rw [Option.some.injEq] at hCall
        subst hCall
        refine ConnectData.firstCall_sound ?_ ?_ ?_
        · intro buf hBuf
          cases hBuf
        · change pmtuDslSlim < 2 ^ 31
          decide
        · intro _
          change pmtuError ≤ pmtuDslSlim
          decide

theorem timeoutCall_sound
    {conId : ConId}
    {c : ConnMsgCall}
    (hBlocks : t.EachEntry ConnectData.BlockHolds)
    (hSizes :
      t.EachEntry (fun con =>
        pmtuError ≤ con.pmtusize ∧ con.pmtusize < 2 ^ 31))
    (hCall : timeoutCall? t conId = some c) :
    c.Sound := by
  unfold timeoutCall? at hCall
  split at hCall
  · cases hCall
  · rename_i con hCon
    have hOld : con.backOff.BlockHolds := by
      intro buf hBuf
      apply hBlocks conId con hCon
      rw [← hBuf]
      exact con.ctrlMsgBuf_backOff.symm
    split at hCall
    · cases hCall
    · split at hCall
      · split at hCall
        · rw [Option.some.injEq] at hCall
          subst hCall
          refine ⟨hOld, ?_, ?_⟩
          · change pmtuDslSlim < 2 ^ 31
            decide
          · intro _
            change pmtuError ≤ pmtuDslSlim
            decide
        · cases hCall
      · rw [Option.some.injEq] at hCall
        subst hCall
        have hRange :
            pmtuError ≤ con.backOff.pmtusize ∧
              con.backOff.pmtusize < 2 ^ 31 := by
          rcases con.backOff_size with
            hSame | ⟨size, hSize⟩
          · rw [hSame]
            exact hSizes conId con hCon
          · have hLowered := pmtuDecrement_range size
            unfold pmtuMax at hLowered
            rw [hSize]
            omega
        exact ⟨hOld, hRange.2, fun _ => hRange.1⟩

/- Every call of every run is made over a sound entry. -/
theorem connMsgCall_sound
    {e : Event β}
    {c : ConnMsgCall}
    (hInitial : s.Initial)
    (hRun : Run (NodeStep p T) s trace t)
    (hCall : e.connMsgCall? p t = some c) :
    c.Sound := by
  have hBlocks := blockHolds_of_run hInitial hRun
  have hSizes := sizeInRange hInitial hRun
  cases e with
  | recvPkg old r =>
      unfold Event.connMsgCall? at hCall
      simp only at hCall
      split at hCall
      · exact inviteCall_sound hBlocks hSizes hCall
      · exact connectCall_sound hBlocks hSizes hCall
      · cases hCall
      · cases hCall
  | openConnection old externalSocketID cb period =>
      exact openCall_sound hCall
  | pmtuTimeout old conId =>
      exact timeoutCall_sound hBlocks hSizes hCall
  | closeConnection | sendData | keepalive | recvTimeout
  | pktRecvTimeout | lastPktRecvTimeout => cases hCall

/-
  In every run, a call of `send_conn_msg` is safe if and only
  if its sizes fit.
-/
theorem conn_msgs_inside_iff
    {e : Event β}
    {c : ConnMsgCall}
    (hInitial : s.Initial)
    (hRun : Run (NodeStep p T) s trace t)
    (hCall : e.connMsgCall? p t = some c) :
    c.Safe p t e ↔ c.Fits := by
  have hSound := connMsgCall_sound hInitial hRun hCall
  constructor
  · exact ConnMsgCall.fits_of_safe hCall hSound
  · exact ConnMsgCall.safe_of_fits hCall hSound

end Runs

------------------------------------------------------------
-- Two Invitations
------------------------------------------------------------

open Sample

/- An `INVITE` of host 2 with the size of an opening. -/
def slimInvite : Event ErrorCode :=
  .recvPkg once (sizedConnReception .invite 1372 0 (-1))

/- The call made for it when the peer has an entry. -/
theorem connMsgCall?_slimInvite
    {con : ConnectData}
    (hSocket : con.externalSocketID = socketID 2) :
    ∃ con',
      slimInvite.connMsgCall? platform
          (node.setConNet first con ()) =
        some
          (ConnectData.firstCall con' first 1372 .connect) ∧
        con.SameSending con' := by
  have hFound :
      (node.setConNet first con ()).connectionOf platform
          (socketID 2) = some (first, con) :=
    connectionOf_first rfl hSocket
  have hSize : toCInt ((1372 : UInt32).toNat : Int) = 1372 :=
    toCInt_eq_self (by decide) (by decide)
  have hRecv :=
    recvPkg_sizedConnReception Transport.scripted once node
      .invite 1372 0 (-1)
  unfold slimInvite Event.connMsgCall?
  simp only [hRecv.1, hRecv.2.1]
  unfold inviteCall?
  simp only [hFound, hSize]
  exact ⟨_, rfl, ⟨rfl, rfl, rfl⟩⟩

/- A first `INVITE` with a size makes a run. -/
theorem exists_invitedRun
    {pmtuSize : UInt32}
    (hLow : connMsgSize ≤ pmtuSize.toNat)
    (hHigh : (pmtuSize.toNat : Int) ≤ pmtuMax) :
    ∃ con trace buf,
      Run (NodeStep platform Transport.scripted) node trace
          (node.setConNet first con ()) ∧
        con.externalSocketID = socketID 2 ∧
        con.pmtusize = pmtuSize.toNat ∧
        con.ctrlMsgBuf = some buf ∧
        buf.length = pmtuSize.toNat := by
  rcases
    recvPkg_sizedInvite accepts_scripted 0 hLow hHigh with
    ⟨con, pkt, buf, hRecv, hSocket, _, hPmtu, hBuf, hLength⟩
  have hInvited :
      NodeStep platform Transport.scripted node
        (.recvPkg once
          (sizedConnReception .invite pmtuSize 0 (-1)))
        [.packet pkt .ok] (node.setConNet first con ()) :=
    ⟨trivial, hRecv⟩
  exact
    ⟨con, _, buf, .cons hInvited (.nil _), hSocket, hPmtu,
      hBuf, hLength⟩

/- A second `INVITE` with the same size is answered safely. -/
theorem second_invite_inside :
    ∃ con trace c,
      Run (NodeStep platform Transport.scripted) node trace
          (node.setConNet first con ()) ∧
        slimInvite.connMsgCall? platform
            (node.setConNet first con ()) = some c ∧
        c.Proceeds ∧
        c.Safe platform (node.setConNet first con ())
          slimInvite := by
  have hLow : connMsgSize ≤ (1372 : UInt32).toNat := by
    decide
  have hHigh : ((1372 : UInt32).toNat : Int) ≤ pmtuMax := by
    decide
  rcases exists_invitedRun hLow hHigh with
    ⟨con, trace, buf, hRun, hSocket, hPmtu, hBuf, hLength⟩
  rcases connMsgCall?_slimInvite hSocket with
    ⟨con', hCall, hSame⟩
  refine ⟨con, trace, _, hRun, hCall, ?_, ?_⟩
  · change ¬ ((0 : Int) ≤ 1372 ∧ (1372 : Int) < connMsgSize)
    decide
  · refine
      (conn_msgs_inside_iff node_initial hRun hCall).2 ?_
    intro _
    have hBlock :
        (con'.firstCall first 1372 .connect).blockSize =
          1372 := by
      unfold ConnMsgCall.blockSize ConnectData.firstCall
      simp only [hSame.ctrlMsgBuf, hBuf, hLength]
      rfl
    have hSize :
        (con'.firstCall first 1372
          .connect).con.pmtusize = 1372 := by
      unfold ConnectData.firstCall
      simp only [hSame.pmtusize, hPmtu]
      rfl
    rw [hBlock, hSize]
    change
      (0 : Int) ≤ 1372 ∧ headerRoom ≤ 1372 ∧
        min (max 1372 pmtuMin - msgHeaderSize) 1372 ≤
          (1372 : Int)
    decide

/-
  The first `INVITE` has the smallest size that is answered;
  the second has the usual one, and `MSGLEN` raises the
  packet size.  More bytes are sent than the block has.
-/
theorem resized_invite_reads_outside :
    ∃ con trace buf c,
      Run (NodeStep platform Transport.scripted) node trace
          (node.setConNet first con ()) ∧
        con.ctrlMsgBuf = some buf ∧
        buf.length = 264 ∧
        slimInvite.connMsgCall? platform
            (node.setConNet first con ()) = some c ∧
        ¬ c.Safe platform (node.setConNet first con ())
          slimInvite ∧
        ∃ input s' outputs pkt,
          exec platform Transport.scripted
              (node.setConNet first con ())
              (.recvPkg input
                (sizedConnReception .invite 1372 0 (-1))) =
            .ok (s', outputs) ∧
          .packet pkt .ok ∈ outputs ∧
          pkt.payload.length = 449 := by
  have hLow : connMsgSize ≤ (264 : UInt32).toNat := by
    decide
  have hHigh : ((264 : UInt32).toNat : Int) ≤ pmtuMax := by
    decide
  rcases exists_invitedRun hLow hHigh with
    ⟨con, trace, buf, hRun, hSocket, hPmtu, hBuf, hLength⟩
  rcases connMsgCall?_slimInvite hSocket with
    ⟨con', hCall, hSame⟩
  have hProceeds :
      (con'.firstCall first 1372 .connect).Proceeds := by
    change ¬ ((0 : Int) ≤ 1372 ∧ (1372 : Int) < connMsgSize)
    decide
  have hBlock :
      (con'.firstCall first 1372 .connect).con.ctrlBuf
          (con'.firstCall first 1372 .connect).bufSize =
        .ok buf := by
    unfold ConnectData.ctrlBuf ConnectData.firstCall
    simp only [hSame.ctrlMsgBuf, hBuf]
  have hSize :
      (con'.firstCall first 1372 .connect).con.pmtusize =
        264 := by
    unfold ConnectData.firstCall
    simp only [hSame.pmtusize, hPmtu]
    rfl
  rcases
    ConnMsgCall.send_eq (α := ErrorCode) platform
      (node.setConNet first con ()) hProceeds hBlock with
    ⟨job, sent, hJob, hSend⟩
  have hMsgLen : job.msgLen = 1372 := hJob.msgLen
  have hSentSize : sent.pmtusize = 264 :=
    hJob.pmtusize.trans hSize
  rcases
    exists_long_packet sent ()
      hJob.truncable
      (by rw [hSentSize]; decide)
      (by rw [hSentSize]; decide)
      (by rw [hMsgLen]; decide) with
    ⟨input, con₂, outputs, pkt, hPasses, hMem, hLong⟩
  have hSent := hSend Transport.scripted input
  have hPassed :
      sendPasses Transport.scripted job input sent
          (node.setConNet first con ()).net =
        .ok (con₂, (), outputs) := hPasses
  simp only [hPassed] at hSent
  rcases (exec_connMsgCall input hCall).ok _ _ hSent with
    ⟨s', before, after, hExec, _, _⟩
  have hIn :
      .packet pkt .ok ∈ before ++ outputs ++ after :=
    List.mem_append_left _ (List.mem_append_right _ hMem)
  have hPayload : pkt.payload.length = 449 := by
    rw [hSentSize, hMsgLen] at hLong
    have hSent449 :
        min (max 264 pmtuMin - msgHeaderSize) (1372 : Int) =
          449 := by
      decide
    omega
  refine
    ⟨con, trace, buf, _, hRun, hBuf, hLength, hCall, ?_,
      input, s', _, pkt, hExec, hIn, hPayload⟩
  intro hSafe
  rcases hSafe hProceeds with ⟨block, hBlock', _, hAll⟩
  rw [hBlock] at hBlock'
  cases hBlock'
  have hInside :=
    (hAll Transport.scripted input).2 _ _ hExec pkt .ok hIn
  have hBytes : buf.length = 264 := hLength
  omega

end ML

end NapaBaselibs
