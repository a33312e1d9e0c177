import NapaBaselibs.Lib.Tiling
import NapaBaselibs.ML.SendMsg

/-
  What `send_msg` makes of a message: packets that carry
  pieces of it, end to end.

  A `Message` is what all packets of a message have in
  common, with the bounds that the receiver checks.  The
  accepted packets of one pass tile the message as far as
  the pass goes.

  Key definitions include:
    * `Message`, `Message.IsFragment`
    * `Packet.piece`
    * `SendJob.Carries`
    * `SplitAt`
    * `SentAs`

  Key theorems include:
    * `sendPass_fragments`, `sendPass_pieces`
    * `sendPass_returns`
    * `sendPasses_split`
    * `SentAs.splits`
-/

------------------------------------------------------------
-- Messages And Fragments
------------------------------------------------------------

namespace NapaBaselibs

namespace ML

/- What the packets of one message have in common. -/
structure Message where
  conId : ConId
  localConId : Int32
  seqnr : Int32
  msgtype : UInt8
  monDataHdr : MonHeader
  bytes : List UInt8
  bytes_pos : 0 < bytes.length
  bytes_le : bytes.length ≤ maxMsgLength
  msgtype_lt : msgtype.toNat < msgMultiplexSize

/- Type 0 is a type of messages. -/
theorem zero_lt_msgMultiplexSize :
    (0 : UInt8).toNat < msgMultiplexSize := by
  decide

/- The number of bytes of the message. -/
def Message.length (m : Message) : Nat :=
  m.bytes.length

/- The piece of the message that a packet carries. -/
def Packet.piece (pkt : Packet) : Tiling.Piece where
  start := pkt.header.offset.toNat
  length := pkt.payload.length

@[simp] theorem Packet.piece_start (pkt : Packet) :
    pkt.piece.start = pkt.header.offset.toNat := rfl

@[simp] theorem Packet.piece_length (pkt : Packet) :
    pkt.piece.length = pkt.payload.length := rfl

@[simp] theorem Packet.piece_stop (pkt : Packet) :
    pkt.piece.stop =
      pkt.header.offset.toNat + pkt.payload.length := rfl

/- What a packet carries behind the packet headers. -/
def Packet.content (pkt : Packet) : List UInt8 :=
  pkt.monDataHdr ++ pkt.payload

/- A packet that carries a piece of a message. -/
structure Message.IsFragment
    (m : Message)
    (pkt : Packet) : Prop where
  remoteConId :
    pkt.header.remoteConId.toInt = (m.conId : Nat)
  localConId : pkt.header.localConId = m.localConId
  msgSeqNum : pkt.header.msgSeqNum = m.seqnr
  msgType : pkt.header.msgType = m.msgtype
  msgLength : pkt.header.msgLength.toNat = m.length
  lenMonDataHdr :
    pkt.header.lenMonDataHdr.toNat = m.monDataHdr.length
  lenMonPacketHdr :
    pkt.header.lenMonPacketHdr.toNat = pkt.monPktHdr.length
  monDataHdr :
    pkt.monDataHdr =
      if pkt.header.offset = 0 then m.monDataHdr.bytes
      else []
  payload :
    pkt.payload =
      ByteSeq.slice m.bytes pkt.piece.start pkt.piece.length
  pos : 0 < pkt.piece.length
  fits : pkt.piece.stop ≤ m.length

/- A job and a data header that carry the message. -/
structure SendJob.Carries
    (job : SendJob)
    (header : MonHeader)
    (m : Message) : Prop where
  truncable : job.truncable = false
  msg : job.msg = m.bytes
  msgLen : job.msgLen = m.length
  msgType : job.msgType = m.msgtype
  externalConnectionID :
    job.externalConnectionID.toInt = (m.conId : Nat)
  conId : Int32.ofInt job.conId = m.localConId
  seqnr : job.seqnr.toInt32 = m.seqnr
  monDataHdr : header = m.monDataHdr

/- The length of a header fits the byte that announces it. -/
theorem MonHeader.toNat_length
    (header : MonHeader) :
    (UInt8.ofNat header.length).toNat = header.length := by
  have hLe := header.length_le
  unfold monHeaderSpace at hLe
  rw [UInt8.toNat_ofNat']
  exact Nat.mod_eq_of_lt (by unfold length; omega)

/- The packets a job assembles are fragments. -/
theorem SendJob.Carries.isFragment
    {α : Type}
    {job : SendJob}
    {header : MonHeader}
    {m : Message}
    (hCarries : job.Carries header m)
    (attempt : Attempt α)
    {offset len : Nat}
    (hPos : 0 < len)
    (hFits : offset + len ≤ m.length) :
    m.IsFragment
        (job.packet header.length
          (if offset = 0 then header.bytes else []) attempt
          offset len) ∧
      (job.packet header.length
        (if offset = 0 then header.bytes else []) attempt
        offset len).piece = ⟨offset, len⟩ := by
  have hMax := m.bytes_le
  unfold Message.length at hFits
  unfold maxMsgLength at hMax
  have hOffset : (UInt32.ofNat offset).toNat = offset := by
    rw [UInt32.toNat_ofNat']
    omega
  have hZero :
      UInt32.ofNat offset = 0 ↔ offset = 0 := by
    rw [← UInt32.toNat_inj, hOffset]
    rfl
  have hPiece :
      (job.packet header.length
        (if offset = 0 then header.bytes else []) attempt
        offset len).piece = ⟨offset, len⟩ := by
    simp [Packet.piece, packet, hOffset]
  refine ⟨?_, hPiece⟩
  have hLength :
      (toUInt32 (m.length : Int)).toNat = m.length := by
    unfold toUInt32 Message.length
    rw [UInt32.toNat_ofNat']
    omega
  constructor
  case payload =>
    rw [hPiece]
    simp only [packet]
    rw [hCarries.msg,
      readBlock_eq_slice attempt.beyond hFits]
  case pos =>
    rw [hPiece]
    exact hPos
  case fits =>
    rw [hPiece]
    exact hFits
  case monDataHdr =>
    simp only [packet, hZero, hCarries.monDataHdr]
  case lenMonDataHdr =>
    simp only [packet]
    rw [header.toNat_length, hCarries.monDataHdr]
  case lenMonPacketHdr =>
    exact attempt.monPktHdr.toNat_length
  case msgLength =>
    simp only [packet, hCarries.truncable,
      Bool.false_eq_true, if_false, hCarries.msgLen, hLength]
  case remoteConId => exact hCarries.externalConnectionID
  case localConId => exact hCarries.conId
  case msgSeqNum => exact hCarries.seqnr
  case msgType => exact hCarries.msgType

------------------------------------------------------------
-- One Pass
------------------------------------------------------------

/- Every packet of a pass has room for some payload. -/
def Pass.HasRoom
    {α : Type}
    (pass : Pass α)
    (pmtusize : Int) : Prop :=
  ∀ attempt ∈ pass.attempts,
    ((msgHeaderSize + pass.monDataHdr.length +
      attempt.monPktHdr.length : Nat) : Int) < pmtusize

/- With room left, a packet carries some more bytes. -/
theorem SendJob.Carries.pktLen_bounds
    {job : SendJob}
    {header : MonHeader}
    {m : Message}
    {pmtusize : Int}
    (dataLen : Nat)
    {pktLen offset : Nat}
    (hCarries : job.Carries header m)
    (hRoom :
      ((msgHeaderSize + header.length + pktLen : Nat) : Int)
        < pmtusize)
    (hHigh : pmtusize < 2 ^ 31)
    (hData : dataLen ≤ header.length)
    (hOffset : offset < m.length) :
    ∃ len : Nat,
      job.pktLen pmtusize dataLen pktLen offset = len ∧
        0 < len ∧ offset + len ≤ m.length := by
  have hExact :
      toCInt
          (pmtusize - dataLen - pktLen - msgHeaderSize) =
        pmtusize - dataLen - pktLen - msgHeaderSize :=
    toCInt_eq_self (by omega) (by omega)
  refine
    ⟨(job.pktLen pmtusize dataLen pktLen offset).toNat, ?_⟩
  unfold SendJob.pktLen
  rw [hExact, hCarries.msgLen]
  omega

variable {σ α : Type}

/-
  The packets accepted in a pass are fragments that tile the
  message from the offset on, to its end if the pass
  completes.
-/
theorem sendPass_fragments
    {T : Transport σ α}
    {job : SendJob}
    {header : MonHeader}
    {m : Message}
    {pmtusize : Int}
    {attempts : List (Attempt α)}
    {offset : Nat}
    {net net' : σ}
    {result : ErrorCode}
    {outputs : List Output}
    (hCarries : job.Carries header m)
    (hRoom : (⟨header, attempts⟩ : Pass α).HasRoom pmtusize)
    (hHigh : pmtusize < 2 ^ 31)
    (hOffset : offset < m.length)
    (hPass :
      sendPass T job pmtusize header.length attempts offset
          (if offset = 0 then header.bytes else []) net =
        .ok (result, net', outputs)) :
    ∃ stop,
      Tiling.Tiles offset
          ((accepted outputs).map Packet.piece) stop ∧
        (∀ pkt ∈ accepted outputs, m.IsFragment pkt) ∧
        (result = .ok → stop = m.length) ∧
        (result ≠ .ok → stop < m.length) ∧
        answers outputs =
          List.replicate (accepted outputs).length .ok ++
            if result = .ok then [] else [result] := by
  induction attempts generalizing offset net net' result
      outputs with
  | nil => simp [sendPass] at hPass
  | cons attempt rest ih =>
      rcases
        hCarries.pktLen_bounds
          (if offset = 0 then header.bytes else []).length
          (hRoom attempt List.mem_cons_self) hHigh
          (by
            split
            · exact Nat.le_refl _
            · exact Nat.zero_le _)
          hOffset with
        ⟨len, hLen, hPos, hFits⟩
      rcases hCarries.isFragment attempt hPos hFits with
        ⟨hFragment, hPiece⟩
      simp only [sendPass, hLen, Int.toNat_natCast,
        show ¬ (len : Int) < 0 by omega, if_false] at hPass
      generalize
        job.packet header.length
          (if offset = 0 then header.bytes else []) attempt
          offset len = pkt at *
      have hStop : pkt.piece.stop = offset + len := by
        rw [hPiece]
        rfl
      split at hPass
      · cases hPass
      · split at hPass
        · rename_i hMore
          rw [hCarries.msgLen] at hMore
          split at hPass
          · cases hPass
          · rename_i hRest
            cases hPass
            have hLater : offset + len ≠ 0 := by omega
            have hInside : offset + len < m.length := by
              omega
            rcases
              ih
                (fun attempt hMem =>
                  hRoom attempt
                    (List.mem_cons_of_mem _ hMem))
                hInside
                (by rw [if_neg hLater]; exact hRest) with
              ⟨stop, hTiles, hAll, hDone, hShort, hAnswers⟩
            refine ⟨stop, ?_, ?_, hDone, hShort, ?_⟩
            · rw [accepted_cons_ok, List.map_cons]
              refine .cons (by rw [hPiece]) hFragment.pos ?_
              rw [hStop]
              exact hTiles
            · intro other hMem
              rcases List.mem_cons.mp hMem with rfl | hTail
              · exact hFragment
              · exact hAll other hTail
            · simp [hAnswers, List.replicate_succ]
        · rename_i hLast
          cases hPass
          refine ⟨offset + len, ?_, ?_, ?_, ?_, ?_⟩
          · refine .cons (by rw [hPiece]) hFragment.pos ?_
            rw [hStop]
            exact .nil _
          · intro other hMem
            rcases List.mem_singleton.mp hMem with rfl
            exact hFragment
          · intro _
            rw [hCarries.msgLen, hCarries.truncable] at hLast
            by_contra hNe
            exact hLast ⟨by omega, rfl⟩
          · intro hNot
            exact absurd rfl hNot
          · rfl
      · rename_i hRefused _
        cases hPass
        change result ≠ .ok at hRefused
        rw [accepted_singleton_of_ne _ hRefused]
        refine
          ⟨offset, .nil _, by simp, ?_, fun _ => hOffset, ?_⟩
        · intro hOk
          exact absurd hOk hRefused
        · simp [hRefused]

/-
  All packets handed over in a pass, the one that is refused
  included, are fragments that tile a part of the message.
-/
theorem sendPass_pieces
    {T : Transport σ α}
    {job : SendJob}
    {header : MonHeader}
    {m : Message}
    {pmtusize : Int}
    {attempts : List (Attempt α)}
    {offset : Nat}
    {net net' : σ}
    {result : ErrorCode}
    {outputs : List Output}
    (hCarries : job.Carries header m)
    (hRoom : (⟨header, attempts⟩ : Pass α).HasRoom pmtusize)
    (hHigh : pmtusize < 2 ^ 31)
    (hOffset : offset < m.length)
    (hPass :
      sendPass T job pmtusize header.length attempts offset
          (if offset = 0 then header.bytes else []) net =
        .ok (result, net', outputs)) :
    ∃ stop ≤ m.length,
      Tiling.Tiles offset
          ((packets outputs).map Packet.piece) stop ∧
        ∀ pkt ∈ packets outputs, m.IsFragment pkt := by
  induction attempts generalizing offset net net' result
      outputs with
  | nil => simp [sendPass] at hPass
  | cons attempt rest ih =>
      rcases
        hCarries.pktLen_bounds
          (if offset = 0 then header.bytes else []).length
          (hRoom attempt List.mem_cons_self) hHigh
          (by
            split
            · exact Nat.le_refl _
            · exact Nat.zero_le _)
          hOffset with
        ⟨len, hLen, hPos, hFits⟩
      rcases hCarries.isFragment attempt hPos hFits with
        ⟨hFragment, hPiece⟩
      simp only [sendPass, hLen, Int.toNat_natCast,
        show ¬ (len : Int) < 0 by omega, if_false] at hPass
      generalize
        job.packet header.length
          (if offset = 0 then header.bytes else []) attempt
          offset len = pkt at *
      have hStop : pkt.piece.stop = offset + len := by
        rw [hPiece]
        rfl
      have hAlone (answer : ErrorCode) :
          ∃ stop ≤ m.length,
            Tiling.Tiles offset
                ((packets [.packet pkt answer]).map
                  Packet.piece) stop ∧
              ∀ other ∈ packets [.packet pkt answer],
                m.IsFragment other := by
        refine ⟨offset + len, hFits, ?_, ?_⟩
        · refine .cons (by rw [hPiece]) hFragment.pos ?_
          rw [hStop]
          exact .nil _
        · intro other hMem
          rcases List.mem_singleton.mp hMem with rfl
          exact hFragment
      split at hPass
      · cases hPass
      · split at hPass
        · rename_i hMore
          rw [hCarries.msgLen] at hMore
          split at hPass
          · cases hPass
          · rename_i later hRest
            cases hPass
            have hLater : offset + len ≠ 0 := by omega
            rcases
              ih
                (fun attempt hMem =>
                  hRoom attempt
                    (List.mem_cons_of_mem _ hMem))
                (show offset + len < m.length by omega)
                (by rw [if_neg hLater]; exact hRest) with
              ⟨stop, hLe, hTiles, hAll⟩
            refine ⟨stop, hLe, ?_, ?_⟩
            · refine .cons (by rw [hPiece]) hFragment.pos ?_
              rw [hStop]
              exact hTiles
            · intro other hMem
              rcases List.mem_cons.mp hMem with rfl | hTail
              · exact hFragment
              · exact hAll other hTail
        · cases hPass
          exact hAlone .ok
      · cases hPass
        exact hAlone _

------------------------------------------------------------
-- A Queue That Accepts Everything
------------------------------------------------------------

/- The output queue answers `OK` to every packet. -/
def Transport.AlwaysOk (T : Transport σ α) : Prop :=
  ∀ link pkt net, ∃ net',
    T.queueOrSendPacket link pkt net = some (.ok, net')

/-
  With every packet accepted, a pass with as many iterations
  as there are bytes left completes the message.
-/
theorem sendPass_returns
    {T : Transport σ α}
    {job : SendJob}
    {header : MonHeader}
    {m : Message}
    {pmtusize : Int}
    {attempts : List (Attempt α)}
    {offset : Nat}
    (net : σ)
    (hOk : T.AlwaysOk)
    (hCarries : job.Carries header m)
    (hRoom : (⟨header, attempts⟩ : Pass α).HasRoom pmtusize)
    (hHigh : pmtusize < 2 ^ 31)
    (hOffset : offset < m.length)
    (hEnough : m.length ≤ offset + attempts.length) :
    ∃ net' outputs,
      sendPass T job pmtusize header.length attempts offset
          (if offset = 0 then header.bytes else []) net =
        .ok (.ok, net', outputs) := by
  induction attempts generalizing offset net with
  | nil =>
      simp only [List.length_nil] at hEnough
      omega
  | cons attempt rest ih =>
      rcases
        hCarries.pktLen_bounds
          (if offset = 0 then header.bytes else []).length
          (hRoom attempt List.mem_cons_self) hHigh
          (by
            split
            · exact Nat.le_refl _
            · exact Nat.zero_le _)
          hOffset with
        ⟨len, hLen, hPos, hFits⟩
      simp only [sendPass, hLen, Int.toNat_natCast,
        show ¬ (len : Int) < 0 by omega, if_false,
        hCarries.msgLen, hCarries.truncable, and_true]
      generalize
        job.packet header.length
          (if offset = 0 then header.bytes else []) attempt
          offset len = pkt
      rcases hOk attempt.link pkt net with ⟨net₁, hSent⟩
      simp only [hSent]
      by_cases hLast : ((offset + len : Nat) : Int) = m.length
      · simp only [Int.natCast_add] at hLast
        simp [hLast]
      · have hNotLast :
            (offset : Int) + len ≠ m.length := by
          omega
        rw [List.length_cons] at hEnough
        have hInside : offset + len < m.length := by omega
        rcases
          ih net₁
            (fun attempt hMem =>
              hRoom attempt (List.mem_cons_of_mem _ hMem))
            hInside (by omega) with
          ⟨net₂, outputs, hRest⟩
        rw [if_neg (by omega)] at hRest
        simp [hNotLast, hRest]

------------------------------------------------------------
-- All Passes
------------------------------------------------------------

/- No packet is accepted before an answer `MSGLEN`. -/
def NoneBeforeMsglen (results : List ErrorCode) : Prop :=
  ∀ before after,
    results = before ++ .msglen :: after → .ok ∉ before

/- Packets that are all accepted come before no `MSGLEN`. -/
theorem noneBeforeMsglen_replicate
    (n : Nat) :
    NoneBeforeMsglen (List.replicate n .ok) := by
  intro before after hEq
  have hMem :
      ErrorCode.msglen ∈ List.replicate n ErrorCode.ok := by
    rw [hEq]
    simp
  cases List.eq_of_mem_replicate hMem

/- A pass that ends with `MSGLEN` must accept no packet. -/
theorem noneBeforeMsglen_pass_iff
    {n : Nat}
    {results : List ErrorCode} :
    NoneBeforeMsglen
        (List.replicate n .ok ++ .msglen :: results) ↔
      n = 0 ∧ NoneBeforeMsglen results := by
  constructor
  · intro hNone
    have hZero : n = 0 := by
      by_contra hNe
      exact
        hNone _ results rfl
          (List.mem_replicate.mpr ⟨hNe, rfl⟩)
    refine ⟨hZero, ?_⟩
    subst hZero
    intro before after hEq hMem
    refine
      hNone (.msglen :: before) after (by rw [hEq]; rfl)
        (List.mem_cons_of_mem _ hMem)
  · rintro ⟨rfl, hNone⟩ before after hEq hMem
    cases before with
    | nil => cases hMem
    | cons first before =>
        cases hEq
        rcases List.mem_cons.mp hMem with hHead | hTail
        · cases hHead
        · exact hNone before after rfl hTail

/- A packet size that was lowered leaves room for headers. -/
theorem pmtuDecrement_bounds
    (pmtusize : Int)
    (hPos : 0 < pmtuDecrement pmtusize) :
    pmtuMin ≤ pmtuDecrement pmtusize ∧
      pmtuDecrement pmtusize < 2 ^ 31 := by
  unfold pmtuDecrement pmtuDslSlim pmtuDslMedium pmtuMin
    pmtuError at *
  repeat' split
  all_goals omega

theorem Pass.hasRoom_of_min
    (pass : Pass α)
    {pmtusize : Int}
    (hMin : pmtuMin ≤ pmtusize) :
    pass.HasRoom pmtusize := by
  intro attempt _
  have hData := pass.monDataHdr.length_le
  have hPkt := attempt.monPktHdr.length_le
  unfold pmtuMin at hMin
  unfold monHeaderSpace msgHeaderSize at *
  simp only [MonHeader.length]
  omega

/- A message with another data header. -/
def Message.withHeader
    (m : Message)
    (header : MonHeader) : Message :=
  { m with monDataHdr := header }

/- A fragment from one of the passes over a message. -/
def Message.IsAnyFragment
    (m : Message)
    (pkt : Packet) : Prop :=
  ∃ header, (m.withHeader header).IsFragment pkt

/-
  The packets accepted in all passes of a message whose last
  pass completes.  `early` are those of the passes that ended
  with `MSGLEN`, `final` those of the last one.
-/
structure SplitAt
    (m : Message)
    (results : List ErrorCode)
    (early final : List Packet) : Prop where
  final_tiles :
    Tiling.Tiles 0 (final.map Packet.piece) m.length
  final_fragments :
    ∃ header, ∀ pkt ∈ final,
      (m.withHeader header).IsFragment pkt
  early_eq_nil_iff : early = [] ↔ NoneBeforeMsglen results
  early_fragments : ∀ pkt ∈ early, m.IsAnyFragment pkt
  early_head :
    ∀ pkt ∈ early.head?,
      pkt.piece.start = 0 ∧ pkt.piece.length < m.length

/- The first piece of a tiling starts where it does. -/
theorem head?_bounds_of_tiles
    {a b : Nat}
    {pkts : List Packet}
    (hTiles : Tiling.Tiles a (pkts.map Packet.piece) b) :
    ∀ pkt ∈ pkts.head?,
      pkt.piece.start = a ∧ pkt.piece.stop ≤ b := by
  intro pkt hHead
  cases pkts with
  | nil => cases hHead
  | cons first rest =>
      cases hHead
      cases hTiles with
      | cons hStart _ hRest => exact ⟨hStart, hRest.le⟩

/-
  When the last pass completes, its packets tile the message;
  an earlier pass accepted a proper part of it.
-/
theorem sendPasses_split
    {T : Transport σ α}
    {job : SendJob}
    {m : Message}
    {input : SendInput α}
    {con con' : ConnectData}
    {net net' : σ}
    {outputs : List Output}
    (hCarries :
      ∀ header, job.Carries header (m.withHeader header))
    (hRoom : ∀ pass ∈ input, pass.HasRoom con.pmtusize)
    (hHigh : con.pmtusize < 2 ^ 31)
    (hPasses :
      sendPasses T job input con net =
        .ok (con', net', outputs))
    (hCompletes : (answers outputs).getLast? = some .ok) :
    ∃ early final,
      accepted outputs = early ++ final ∧
        SplitAt m (answers outputs) early final := by
  induction input generalizing con net con' net' outputs with
  | nil => simp [sendPasses] at hPasses
  | cons pass rest ih =>
      simp only [sendPasses] at hPasses
      split at hPasses
      · cases hPasses
      · rename_i net₁ first hPass
        rcases
          sendPass_fragments
            (hCarries pass.monDataHdr)
            (hRoom pass List.mem_cons_self) hHigh
            m.bytes_pos hPass with
          ⟨stop, hTiles, hFragments, _, hShort, hAnswers⟩
        have hStop : stop < m.length := hShort (by simp)
        simp only [reduceCtorEq, if_false] at hAnswers
        split at hPasses
        · rename_i hPmtu
          rcases pmtuDecrement_bounds _ hPmtu with
            ⟨hMin, hMax⟩
          split at hPasses
          · cases hPasses
          · rename_i second hRest
            cases hPasses
            have hLast :
                (answers second).getLast? = some .ok := by
              rw [answers_append, hAnswers,
                List.append_assoc, List.singleton_append,
                List.getLast?_append_of_ne_nil]
                at hCompletes
              · cases hSecond : answers second with
                | nil =>
                    rw [hSecond] at hCompletes
                    simp at hCompletes
                | cons answer others =>
                    rw [hSecond] at hCompletes
                    simpa using hCompletes
              · simp
            rcases
              ih
                (fun pass _ => pass.hasRoom_of_min hMin)
                hMax hRest hLast with
              ⟨early, final, hAccepted, hSplit⟩
            refine
              ⟨accepted first ++ early, final, ?_, ?_⟩
            · rw [accepted_append, hAccepted,
                List.append_assoc]
            · refine
                ⟨hSplit.final_tiles, hSplit.final_fragments,
                  ?_, ?_, ?_⟩
              · rw [answers_append, hAnswers,
                  List.append_assoc, List.singleton_append,
                  noneBeforeMsglen_pass_iff,
                  ← hSplit.early_eq_nil_iff,
                  List.append_eq_nil_iff,
                  List.length_eq_zero_iff]
              · intro pkt hMem
                rcases List.mem_append.mp hMem with
                  hFirst | hLater
                · exact ⟨_, hFragments pkt hFirst⟩
                · exact hSplit.early_fragments pkt hLater
              · intro pkt hHead
                cases hFirst : accepted first with
                | nil =>
                    rw [hFirst, List.nil_append] at hHead
                    exact hSplit.early_head pkt hHead
                | cons head others =>
                    rw [hFirst] at hHead hTiles hFragments
                    cases hHead
                    rcases
                      head?_bounds_of_tiles hTiles pkt rfl
                      with ⟨hStart, hEnd⟩
                    refine ⟨hStart, ?_⟩
                    unfold Tiling.Piece.stop at hEnd
                    omega
        · cases hPasses
          rw [hAnswers] at hCompletes
          simp at hCompletes
      · rename_i result net₁ first hNot hPass
        cases hPasses
        rcases
          sendPass_fragments
            (hCarries pass.monDataHdr)
            (hRoom pass List.mem_cons_self) hHigh
            m.bytes_pos hPass with
          ⟨stop, hTiles, hFragments, hDone, _, hAnswers⟩
        by_cases hOk : result = .ok
        · rw [hDone hOk] at hTiles
          rw [if_pos hOk, List.append_nil] at hAnswers
          refine ⟨[], accepted outputs, rfl, ?_⟩
          refine
            ⟨hTiles, ⟨_, hFragments⟩, ?_, by simp, by simp⟩
          rw [hAnswers]
          exact
            iff_of_true rfl (noneBeforeMsglen_replicate _)
        · rw [if_neg hOk] at hAnswers
          rw [hAnswers, List.getLast?_append_of_ne_nil]
            at hCompletes
          · simp only [List.getLast?_singleton,
              Option.some.injEq] at hCompletes
            exact absurd hCompletes hOk
          · simp

------------------------------------------------------------
-- Messages That Are Sent
------------------------------------------------------------

/- The next message of a connection has these ids. -/
structure ConnectData.Addresses
    (con : ConnectData)
    (conId : ConId)
    (m : Message) : Prop where
  externalConnectionID :
    con.externalConnectionID.toInt = (m.conId : Nat)
  localConId : Int32.ofInt conId = m.localConId
  seqnr : con.seqnr.toInt32 = m.seqnr

/- What `send_msg` fixes carries the message. -/
theorem ConnectData.Addresses.carries
    {con : ConnectData}
    {conId : ConId}
    {m : Message}
    (hAddresses : con.Addresses conId m)
    (header : MonHeader) :
    (con.sendJob conId m.msgtype m.bytes m.length
      false).Carries header (m.withHeader header) :=
  ⟨rfl, rfl, rfl, rfl, hAddresses.externalConnectionID,
    hAddresses.localConId, hAddresses.seqnr, rfl⟩

/-
  The packets are those that `send_msg` makes of the message
  when the output queue accepts all of them.
-/
inductive SentAs
    (T : Transport σ α)
    (m : Message) : List Packet → Prop where
  | intro
      {input : SendInput α}
      {s s' : Endpoint σ}
      {conId : ConId}
      {con : ConnectData}
      {outputs : List Output}
      (hCon : s.connectbuf conId = some con)
      (hAddresses : con.Addresses conId m)
      (hHeader :
        ∀ pass ∈ input.head?,
          pass.monDataHdr = m.monDataHdr)
      (hRoom : ∀ pass ∈ input, pass.HasRoom con.pmtusize)
      (hHigh : con.pmtusize < 2 ^ 31)
      (hSend :
        sendMsg T input s conId m.msgtype m.bytes m.length
            false = .ok (s', outputs))
      (hAccepted :
        ∀ answer ∈ answers outputs, answer = .ok) :
      SentAs T m (accepted outputs)

/- They are fragments, and tile the message. -/
theorem SentAs.splits
    {T : Transport σ α}
    {m : Message}
    {pkts : List Packet}
    (hSent : SentAs T m pkts) :
    Tiling.Tiles 0 (pkts.map Packet.piece) m.length ∧
      ∀ pkt ∈ pkts, m.IsFragment pkt := by
  cases hSent with
  | intro hCon hAddresses hHeader hRoom hHigh hSend
      hAccepted =>
      unfold sendMsg at hSend
      simp only [hCon] at hSend
      split at hSend
      · cases hSend
      · rename_i hPasses
        cases hSend
        rename_i input _ _ _ _ _ _ _
        cases input with
        | nil => simp [sendPasses] at hPasses
        | cons pass rest =>
            have hSame : pass.monDataHdr = m.monDataHdr :=
              hHeader pass rfl
            have hCarries :=
              hAddresses.carries pass.monDataHdr
            have hMessage :
                m.withHeader pass.monDataHdr = m := by
              rw [hSame]
              rfl
            rw [hMessage] at hCarries
            have hPassRoom :=
              hRoom pass List.mem_cons_self
            simp only [sendPasses] at hPasses
            split at hPasses
            · cases hPasses
            · rename_i first hPass
              rcases
                sendPass_fragments hCarries hPassRoom hHigh
                  m.bytes_pos hPass with
                ⟨_, _, _, _, _, hAnswers⟩
              have hMem : .msglen ∈ answers first := by
                rw [hAnswers]
                simp
              split at hPasses
              · split at hPasses
                · cases hPasses
                · cases hPasses
                  rw [answers_append] at hAccepted
                  have hBad :=
                    hAccepted _
                      (List.mem_append_left _ hMem)
                  cases hBad
              · cases hPasses
                cases hAccepted _ hMem
            · rename_i result _ first hNot hPass
              cases hPasses
              rcases
                sendPass_fragments hCarries hPassRoom hHigh
                  m.bytes_pos hPass with
                ⟨stop, hTiles, hAll, hDone, _, hAnswers⟩
              have hOk : result = .ok := by
                by_contra hRefused
                rw [hAnswers, if_neg hRefused] at hAccepted
                exact
                  hRefused (hAccepted result (by simp))
              rw [hDone hOk] at hTiles
              exact ⟨hTiles, hAll⟩

end ML

end NapaBaselibs
