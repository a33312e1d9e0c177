import NapaBaselibs.ML.State

/-
  `send_msg`: splitting a message into packets and handing
  them to the output queue, with the restart at a smaller
  packet size when the queue answers `MSGLEN`.

  What the program does not decide is an input: for every
  pass over the message the data header of the monitoring
  module, and for every packet of the pass its packet header,
  what the output queue needs, and the memory that follows
  the message buffer.  The two loops are recursions over
  these inputs, so a loop that does not end runs out of them.

  Key definitions include:
    * `Attempt`, `Pass`, `SendInput`
    * `SendJob`, `SendJob.packet`
    * `sendPass`, `sendPasses`, `sendMsg`

  Key theorems include:
    * `sendPass_packets`
    * `sendMsg_ok`
    * `sendMsg_packets`
-/

------------------------------------------------------------
-- Inputs Of The Loops
------------------------------------------------------------

namespace NapaBaselibs

namespace ML

/- What one iteration of the inner loop gets from outside. -/
structure Attempt (α : Type) where
  monPktHdr : MonHeader
  beyond : Nat → UInt8
  link : α

/- What one iteration of the outer loop gets from outside. -/
structure Pass (α : Type) where
  monDataHdr : MonHeader
  attempts : List (Attempt α)

/- The inputs of one call of `send_msg`. -/
abbrev SendInput (α : Type) := List (Pass α)

/- An `int` as the `uint32_t` that `htonl` takes. -/
def toUInt32 (n : Int) : UInt32 :=
  UInt32.ofNat (n % 2 ^ 32).toNat

/-
  Read `count` bytes from position `start` of a buffer.  A
  read past the end of the buffer yields what lies there.
-/
def readBlock
    (msg : List UInt8)
    (beyond : Nat → UInt8)
    (start count : Nat) : List UInt8 :=
  (List.range count).map (fun k =>
    msg.getD (start + k) (beyond (start + k)))

@[simp] theorem length_readBlock
    (msg : List UInt8)
    (beyond : Nat → UInt8)
    (start count : Nat) :
    (readBlock msg beyond start count).length = count := by
  simp [readBlock]

/- A read inside the buffer is a slice of it. -/
theorem readBlock_eq_slice
    {msg : List UInt8}
    {start count : Nat}
    (beyond : Nat → UInt8)
    (hFits : start + count ≤ msg.length) :
    readBlock msg beyond start count =
      ByteSeq.slice msg start count := by
  apply List.ext_getElem?
  intro k
  rw [ByteSeq.getElem?_slice]
  unfold readBlock
  by_cases hLt : k < count
  · have hIn : start + k < msg.length := by omega
    simp [hLt, List.getElem?_eq_getElem hIn]
  · simp [hLt]

/- A read can be made in two parts. -/
theorem readBlock_add
    (msg : List UInt8)
    (beyond : Nat → UInt8)
    (start first second : Nat) :
    readBlock msg beyond start (first + second) =
      readBlock msg beyond start first ++
        readBlock msg beyond (start + first) second := by
  unfold readBlock
  rw [List.range_add, List.map_append, List.map_map]
  congr 1
  apply List.map_congr_left
  intro k _
  simp only [Function.comp_apply, Nat.add_assoc]

/- A long enough read from the start begins the same way. -/
theorem exists_readBlock_append
    (first rest : List UInt8)
    (beyond : Nat → UInt8)
    {count : Nat}
    (hLong : first.length ≤ count) :
    ∃ tail,
      readBlock (first ++ rest) beyond 0 count =
        first ++ tail := by
  rcases Nat.exists_eq_add_of_le hLong with ⟨k, rfl⟩
  refine
    ⟨readBlock (first ++ rest) beyond (0 + first.length) k,
      ?_⟩
  rw [readBlock_add,
    readBlock_eq_slice beyond (by simp), ByteSeq.slice,
    List.drop_zero, List.take_left]

------------------------------------------------------------
-- Packets Of A Message
------------------------------------------------------------

/- The arguments of `send_msg` and what it reads once. -/
structure SendJob where
  conId : ConId
  externalConnectionID : Int32
  seqnr : UInt32
  udpAddr : SockaddrStorage
  msgType : UInt8
  msg : List UInt8
  msgLen : Int
  truncable : Bool

namespace SendJob

/- `HP` and `NO_RTX`. -/
def hp : UInt8 := 1
def noRtx : UInt8 := 2

/- The priority a message of a type is queued with. -/
def priority (job : SendJob) : UInt8 :=
  if job.msgType = mlConMsg ∨ job.msgType = mlNackMsg then
    hp &&& noRtx
  else
    0

/-
  The payload length of the next packet: the room left by
  the headers, computed in `size_t` and passed to `min` as an
  `int`, or what remains of the message.
-/
def pktLen
    (job : SendJob)
    (pmtusize : Int)
    (lenMonDataHdr lenMonPktHdr offset : Nat) : Int :=
  min
    (toCInt
      (pmtusize - lenMonDataHdr - lenMonPktHdr -
        msgHeaderSize))
    (job.msgLen - offset)

/- The packet that carries `len` bytes from `offset` on. -/
def packet
    {α : Type}
    (job : SendJob)
    (lenMonDataHdr : Nat)
    (monDataHdr : List UInt8)
    (attempt : Attempt α)
    (offset len : Nat) : Packet where
  header :=
    { offset := UInt32.ofNat offset
      msgLength :=
        toUInt32 (if job.truncable then len else job.msgLen)
      localConId := Int32.ofInt job.conId
      remoteConId := job.externalConnectionID
      msgSeqNum := job.seqnr.toInt32
      msgType := job.msgType
      lenMonDataHdr := UInt8.ofNat lenMonDataHdr
      lenMonPacketHdr := UInt8.ofNat attempt.monPktHdr.length }
  monPktHdr := attempt.monPktHdr.bytes
  monDataHdr := monDataHdr
  payload := readBlock job.msg attempt.beyond offset len
  addr := job.udpAddr
  priority := job.priority

end SendJob

------------------------------------------------------------
-- The Loops
------------------------------------------------------------

variable {σ α : Type}

/-
  The inner loop.  It ends when the message is complete,
  after one packet of a truncable message, or with the first
  packet that the queue does not accept.
-/
def sendPass
    (T : Transport σ α)
    (job : SendJob)
    (pmtusize : Int)
    (lenMonDataHdr : Nat) :
    List (Attempt α) → Nat → List UInt8 → σ →
      Except Fault (ErrorCode × σ × List Output)
| [], _, _, _ => .error .inputEnd
| attempt :: rest, offset, monDataHdr, net =>
    let len :=
      job.pktLen pmtusize monDataHdr.length
        attempt.monPktHdr.length offset
    if len < 0 then
      .error .packetLength
    else
      let pkt :=
        job.packet lenMonDataHdr monDataHdr attempt offset
          len.toNat
      match T.queueOrSendPacket attempt.link pkt net with
      | none => .error .noReturn
      | some (.ok, net') =>
          -- the data header goes into the first packet only
          if (offset + len.toNat : Int) ≠ job.msgLen ∧
              job.truncable = false then
            match sendPass T job pmtusize lenMonDataHdr rest
                (offset + len.toNat) [] net' with
            | .error fault => .error fault
            | .ok (result, net'', outputs) =>
                .ok (result, net'',
                  .packet pkt .ok :: outputs)
          else
            .ok (.ok, net', [.packet pkt .ok])
      | some (result, net') =>
          .ok (result, net', [.packet pkt result])

/-
  The outer loop.  `MSGLEN` lowers the packet size of the
  connection and, while a size is left, starts over.
-/
def sendPasses
    (T : Transport σ α)
    (job : SendJob) :
    SendInput α → ConnectData → σ →
      Except Fault (ConnectData × σ × List Output)
| [], _, _ => .error .inputEnd
| pass :: rest, con, net =>
    match sendPass T job con.pmtusize pass.monDataHdr.length
        pass.attempts 0 pass.monDataHdr.bytes net with
    | .error fault => .error fault
    | .ok (.msglen, net', outputs) =>
        let pmtusize := pmtuDecrement con.pmtusize
        if 0 < pmtusize then
          match sendPasses T job rest
              { con with
                pmtusize := pmtusize
                delay := true } net' with
          | .error fault => .error fault
          | .ok (con', net'', outputs') =>
              .ok (con', net'', outputs ++ outputs')
        else
          .ok ({ con with pmtusize := pmtusize }, net',
            outputs)
    | .ok (_, net', outputs) => .ok (con, net', outputs)

/- What `send_msg` fixes before its loops. -/
def ConnectData.sendJob
    (con : ConnectData)
    (conId : ConId)
    (msgType : UInt8)
    (msg : List UInt8)
    (msgLen : Int)
    (truncable : Bool) : SendJob where
  conId := conId
  externalConnectionID := con.externalConnectionID
  seqnr := con.seqnr
  udpAddr := con.udpAddr
  msgType := msgType
  msg := msg
  msgLen := msgLen
  truncable := truncable

@[simp] theorem ConnectData.sendJob_truncable
    (con : ConnectData)
    (conId : ConId)
    (msgType : UInt8)
    (msg : List UInt8)
    (msgLen : Int)
    (truncable : Bool) :
    (con.sendJob conId msgType msg msgLen
      truncable).truncable = truncable := rfl

/- `send_msg`. -/
def sendMsg
    (T : Transport σ α)
    (input : SendInput α)
    (s : Endpoint σ)
    (conId : ConId)
    (msgType : UInt8)
    (msg : List UInt8)
    (msgLen : Int)
    (truncable : Bool) : StepResult σ :=
  match s.connectbuf conId with
  | none => .error (.nullConnection conId)
  | some con =>
      let job :=
        con.sendJob conId msgType msg msgLen truncable
      match sendPasses T job input
          { con with seqnr := con.seqnr + 1 } s.net with
      | .error fault => .error fault
      | .ok (con', net, outputs) =>
          .ok (s.setConNet conId con' net, outputs)

------------------------------------------------------------
-- Effect On The State
------------------------------------------------------------

/-
  A packet of a job: assembled from it at some offset, with
  the memory and the headers of some attempt.
-/
def SendJob.IsPacket
    (job : SendJob)
    (pkt : Packet) : Prop :=
  ∃ (lenMonDataHdr : Nat) (monDataHdr : List UInt8)
      (attempt : Attempt Unit) (offset len : Nat),
    pkt = job.packet lenMonDataHdr monDataHdr attempt
      offset len

/- The link input of an attempt does not show in packets. -/
theorem SendJob.isPacket_packet
    (job : SendJob)
    (lenMonDataHdr : Nat)
    (monDataHdr : List UInt8)
    (attempt : Attempt α)
    (offset len : Nat) :
    job.IsPacket
      (job.packet lenMonDataHdr monDataHdr attempt
        offset len) :=
  ⟨lenMonDataHdr, monDataHdr,
    ⟨attempt.monPktHdr, attempt.beyond, ()⟩,
    offset, len, rfl⟩

/- A packet of a job that ends within its message. -/
def SendJob.IsPacketWithin
    (job : SendJob)
    (pkt : Packet) : Prop :=
  ∃ (lenMonDataHdr : Nat) (monDataHdr : List UInt8)
      (attempt : Attempt Unit) (offset len : Nat),
    (offset + len : Int) ≤ job.msgLen ∧
      pkt = job.packet lenMonDataHdr monDataHdr attempt
        offset len

theorem SendJob.IsPacketWithin.isPacket
    {job : SendJob}
    {pkt : Packet}
    (hWithin : job.IsPacketWithin pkt) :
    job.IsPacket pkt := by
  rcases hWithin with
    ⟨lenMonDataHdr, monDataHdr, attempt, offset, len, _, hPkt⟩
  exact
    ⟨lenMonDataHdr, monDataHdr, attempt, offset, len, hPkt⟩

/- A packet is no longer than what remains to be sent. -/
theorem SendJob.isPacketWithin_packet
    (job : SendJob)
    {pmtusize : Int}
    {lenMonPktHdr : Nat}
    (lenMonDataHdr : Nat)
    (monDataHdr : List UInt8)
    (attempt : Attempt α)
    (offset : Nat)
    (hLen :
      ¬ job.pktLen pmtusize monDataHdr.length lenMonPktHdr
          offset < 0) :
    job.IsPacketWithin
      (job.packet lenMonDataHdr monDataHdr attempt offset
        (job.pktLen pmtusize monDataHdr.length lenMonPktHdr
          offset).toNat) := by
  refine
    ⟨lenMonDataHdr, monDataHdr,
      ⟨attempt.monPktHdr, attempt.beyond, ()⟩, offset, _, ?_,
      rfl⟩
  have hLe :
      job.pktLen pmtusize monDataHdr.length lenMonPktHdr
          offset ≤ job.msgLen - offset :=
    Int.min_le_right _ _
  omega

/-
  A pass outputs nothing but packets of its job, within the
  message.
-/
theorem sendPass_packets
    {T : Transport σ α}
    {job : SendJob}
    {pmtusize : Int}
    {lenMonDataHdr : Nat}
    {attempts : List (Attempt α)}
    {offset : Nat}
    {monDataHdr : List UInt8}
    {net net' : σ}
    {result : ErrorCode}
    {outputs : List Output}
    (hPass :
      sendPass T job pmtusize lenMonDataHdr attempts offset
          monDataHdr net = .ok (result, net', outputs)) :
    ∀ output ∈ outputs, ∃ pkt answer,
      output = .packet pkt answer ∧ job.IsPacketWithin pkt := by
  induction attempts generalizing offset monDataHdr net
      net' result outputs with
  | nil => simp [sendPass] at hPass
  | cons attempt rest ih =>
      simp only [sendPass] at hPass
      split at hPass
      · cases hPass
      · rename_i hLen
        have hPacket :=
          job.isPacketWithin_packet lenMonDataHdr monDataHdr
            attempt offset hLen
        split at hPass
        · cases hPass
        · split at hPass
          · split at hPass
            · cases hPass
            · rename_i hRest
              cases hPass
              intro output hMem
              rcases List.mem_cons.mp hMem with rfl | hTail
              · exact ⟨_, _, rfl, hPacket⟩
              · exact ih hRest output hTail
          · cases hPass
            intro output hMem
            rw [List.mem_singleton] at hMem
            exact ⟨_, _, hMem, hPacket⟩
        · cases hPass
          intro output hMem
          rw [List.mem_singleton] at hMem
          exact ⟨_, _, hMem, hPacket⟩

/-
  The passes change the packet size and the delay flag of
  the connection, and output packets of the job.
-/
theorem sendPasses_ok
    {T : Transport σ α}
    {job : SendJob}
    {input : SendInput α}
    {con con' : ConnectData}
    {net net' : σ}
    {outputs : List Output}
    (hPasses :
      sendPasses T job input con net =
        .ok (con', net', outputs)) :
    (∃ pmtusize delay,
      con' = { con with
        pmtusize := pmtusize, delay := delay }) ∧
      ∀ output ∈ outputs, ∃ pkt answer,
        output = .packet pkt answer ∧ job.IsPacketWithin pkt := by
  induction input generalizing con net con' net'
      outputs with
  | nil => simp [sendPasses] at hPasses
  | cons pass rest ih =>
      simp only [sendPasses] at hPasses
      split at hPasses
      · cases hPasses
      · rename_i hPass
        have hPackets := sendPass_packets hPass
        split at hPasses
        · split at hPasses
          · cases hPasses
          · rename_i hRest
            cases hPasses
            rcases ih hRest with
              ⟨⟨pmtusize, delay, rfl⟩, hTail⟩
            refine ⟨⟨pmtusize, delay, rfl⟩, ?_⟩
            intro output hMem
            rcases List.mem_append.mp hMem with
              hHead | hLater
            · exact hPackets output hHead
            · exact hTail output hLater
        · cases hPasses
          exact ⟨⟨_, con.delay, rfl⟩, hPackets⟩
      · rename_i hPass
        cases hPasses
        exact
          ⟨⟨con.pmtusize, con.delay, rfl⟩,
            sendPass_packets hPass⟩

/-
  `send_msg` needs a live connection.  It advances the
  sequence number, may change the packet size and the delay
  flag, and touches nothing else but the output queue.
-/
theorem sendMsg_ok
    {T : Transport σ α}
    {input : SendInput α}
    {s s' : Endpoint σ}
    {conId : ConId}
    {msgType : UInt8}
    {msg : List UInt8}
    {msgLen : Int}
    {truncable : Bool}
    {outputs : List Output}
    (hSend :
      sendMsg T input s conId msgType msg msgLen truncable =
        .ok (s', outputs)) :
    ∃ con pmtusize delay net,
      s.connectbuf conId = some con ∧
        s' = s.setConNet conId
          { con with
            seqnr := con.seqnr + 1
            pmtusize := pmtusize
            delay := delay }
          net ∧
        ∀ output ∈ outputs, ∃ pkt answer,
          output = .packet pkt answer ∧
            (con.sendJob conId msgType msg msgLen
              truncable).IsPacketWithin pkt := by
  unfold sendMsg at hSend
  split at hSend
  · cases hSend
  · rename_i con hCon
    simp only at hSend
    split at hSend
    · cases hSend
    · rename_i hPasses
      cases hSend
      rcases sendPasses_ok hPasses with
        ⟨⟨pmtusize, delay, rfl⟩, hPackets⟩
      exact
        ⟨con, pmtusize, delay, _, hCon, rfl, hPackets⟩

------------------------------------------------------------
-- Ways To Fail
------------------------------------------------------------

theorem sendPass_error
    {T : Transport σ α}
    {job : SendJob}
    {pmtusize : Int}
    {lenMonDataHdr : Nat}
    {attempts : List (Attempt α)}
    {offset : Nat}
    {monDataHdr : List UInt8}
    {net : σ}
    {fault : Fault}
    (hPass :
      sendPass T job pmtusize lenMonDataHdr attempts offset
          monDataHdr net = .error fault) :
    fault.IsSend := by
  induction attempts generalizing offset monDataHdr net with
  | nil =>
      cases hPass
      trivial
  | cons attempt rest ih =>
      simp only [sendPass] at hPass
      split at hPass
      · cases hPass
        trivial
      · split at hPass
        · cases hPass
          trivial
        · split at hPass
          · split at hPass
            · rename_i hRest
              cases hPass
              exact ih hRest
            · cases hPass
          · cases hPass
        · cases hPass

theorem sendPasses_error
    {T : Transport σ α}
    {job : SendJob}
    {input : SendInput α}
    {con : ConnectData}
    {net : σ}
    {fault : Fault}
    (hPasses :
      sendPasses T job input con net = .error fault) :
    fault.IsSend := by
  induction input generalizing con net with
  | nil =>
      cases hPasses
      trivial
  | cons pass rest ih =>
      simp only [sendPasses] at hPasses
      split at hPasses
      · rename_i hPass
        cases hPasses
        exact sendPass_error hPass
      · split at hPasses
        · split at hPasses
          · rename_i hRest
            cases hPasses
            exact ih hRest
          · cases hPasses
        · cases hPasses
      · cases hPasses

/- Over a live connection, only sending itself can fail. -/
theorem sendMsg_error
    {T : Transport σ α}
    {input : SendInput α}
    {s : Endpoint σ}
    {conId : ConId}
    {con : ConnectData}
    {msgType : UInt8}
    {msg : List UInt8}
    {msgLen : Int}
    {truncable : Bool}
    {fault : Fault}
    (hCon : s.connectbuf conId = some con)
    (hSend :
      sendMsg T input s conId msgType msg msgLen truncable =
        .error fault) :
    fault.IsSend := by
  unfold sendMsg at hSend
  simp only [hCon] at hSend
  split at hSend
  · rename_i hPasses
    cases hSend
    exact sendPasses_error hPasses
  · cases hSend

------------------------------------------------------------
-- Truncable Messages
------------------------------------------------------------

/-
  A packet that carries its message from the start, with the
  whole monitoring header.
-/
def SendJob.IsWholePacket
    (job : SendJob)
    (pkt : Packet) : Prop :=
  ∃ (header : MonHeader) (attempt : Attempt Unit)
      (len : Nat),
    pkt = job.packet header.length header.bytes attempt 0 len

/- A pass over a truncable message sends one packet. -/
theorem sendPass_truncable
    {T : Transport σ α}
    {job : SendJob}
    {pmtusize : Int}
    {header : MonHeader}
    {attempts : List (Attempt α)}
    {net net' : σ}
    {result : ErrorCode}
    {outputs : List Output}
    (hTruncable : job.truncable = true)
    (hPass :
      sendPass T job pmtusize header.length attempts 0
          header.bytes net = .ok (result, net', outputs)) :
    ∃ pkt, outputs = [.packet pkt result] ∧
      job.IsWholePacket pkt := by
  cases attempts with
  | nil => simp [sendPass] at hPass
  | cons attempt rest =>
      have hWhole (len : Nat) :
          job.IsWholePacket
            (job.packet header.length header.bytes attempt
              0 len) :=
        ⟨header, ⟨attempt.monPktHdr, attempt.beyond, ()⟩,
          len, rfl⟩
      simp only [sendPass] at hPass
      split at hPass
      · cases hPass
      · split at hPass
        · cases hPass
        · rw [if_neg (by simp [hTruncable])] at hPass
          cases hPass
          exact ⟨_, rfl, hWhole _⟩
        · cases hPass
          exact ⟨_, rfl, hWhole _⟩

/- So do all passes: every packet starts the message. -/
theorem sendPasses_truncable
    {T : Transport σ α}
    {job : SendJob}
    {input : SendInput α}
    {con con' : ConnectData}
    {net net' : σ}
    {outputs : List Output}
    (hTruncable : job.truncable = true)
    (hPasses :
      sendPasses T job input con net =
        .ok (con', net', outputs)) :
    ∀ output ∈ outputs, ∃ pkt answer,
      output = .packet pkt answer ∧
        job.IsWholePacket pkt := by
  induction input generalizing con net con' net'
      outputs with
  | nil => simp [sendPasses] at hPasses
  | cons pass rest ih =>
      simp only [sendPasses] at hPasses
      split at hPasses
      · cases hPasses
      · rename_i hPass
        rcases sendPass_truncable hTruncable hPass with
          ⟨pkt, rfl, hWhole⟩
        split at hPasses
        · split at hPasses
          · cases hPasses
          · rename_i hRest
            cases hPasses
            intro output hMem
            rcases List.mem_cons.mp hMem with rfl | hLater
            · exact ⟨pkt, _, rfl, hWhole⟩
            · exact ih hRest output hLater
        · cases hPasses
          simpa using hWhole
      · rename_i hPass
        rcases sendPass_truncable hTruncable hPass with
          ⟨pkt, rfl, hWhole⟩
        cases hPasses
        simpa using hWhole

/- The packets of a truncable message that was sent. -/
theorem sendMsg_truncable
    {T : Transport σ α}
    {input : SendInput α}
    {s s' : Endpoint σ}
    {conId : ConId}
    {con : ConnectData}
    {msgType : UInt8}
    {msg : List UInt8}
    {msgLen : Int}
    {outputs : List Output}
    (hCon : s.connectbuf conId = some con)
    (hSend :
      sendMsg T input s conId msgType msg msgLen true =
        .ok (s', outputs)) :
    ∀ output ∈ outputs, ∃ pkt answer,
      output = .packet pkt answer ∧
        (con.sendJob conId msgType msg msgLen
          true).IsWholePacket pkt := by
  unfold sendMsg at hSend
  simp only [hCon] at hSend
  split at hSend
  · cases hSend
  · rename_i hPasses
    cases hSend
    exact sendPasses_truncable rfl hPasses

end ML

end NapaBaselibs
