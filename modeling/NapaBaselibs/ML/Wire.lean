import NapaBaselibs.Lib.ByteSeq

/-
  The packets of the messaging layer on the wire: the packet
  header that starts every datagram, the negative
  acknowledgement, and the constants of
  `transmissionHandler.h`.

  Both structures are packed, and every multi-byte field is
  converted with `htonl` before it is sent, so their bytes do
  not depend on the host.

  Key definitions include:
    * `MsgHeader`, `MsgHeader.encode`, `MsgHeader.decode`
    * `NackMsg`, `NackMsg.encode`, `NackMsg.decode`

  Key theorems include:
    * `MsgHeader.decode_encode_append`
    * `NackMsg.decode_encode`
-/

------------------------------------------------------------
-- Constants
------------------------------------------------------------

namespace NapaBaselibs

namespace ML

/- `CONNECTBUFSIZE`: connections a node can handle. -/
def connectbufSize : Nat := 10000

/- `RECVDATABUFSIZE`: messages received in parallel. -/
def recvdatabufSize : Nat := 10000

/- `MSGMULTIPLEXSIZE`: application message types. -/
def msgMultiplexSize : Nat := 127

/- `ML_CON_MSG`: the type of connection messages. -/
def mlConMsg : UInt8 := 127

/- `ML_NACK_MSG`: the type of negative acknowledgements. -/
def mlNackMsg : UInt8 := 128

/-
  `MSG_TYPE_ML_KEEPALIVE` (`0x126`) as it appears in the
  one-byte type field of the packet header.
-/
def msgTypeMlKeepalive : UInt8 := UInt8.ofNat 0x126

/- `RTX_MAX_GAPS`: gaps tracked inside one message. -/
def rtxMaxGaps : Nat := 25

/- `RTX_RETRY`: negative acknowledgements sent for a gap. -/
def rtxRetry : Int := 1

/-
  `MON_DATA_HEADER_SPACE` and `MON_PKT_HEADER_SPACE`: the
  room for a header of the monitoring module.
-/
def monHeaderSpace : Nat := 32

/- The largest `msg_length` that `recv_pkg` accepts. -/
def maxMsgLength : Nat := 0x20000

/- `MSG_HEADER_SIZE`: the size of the packet header. -/
def msgHeaderSize : Nat := 23

/- The values of the `pmtu` enumeration. -/
def pmtuMax : Int := 1472
def pmtuDsl : Int := 1464
def pmtuDslMedium : Int := 1422
def pmtuDslSlim : Int := 1372
def pmtuBelowDsl : Int := 1172
def pmtuMin : Int := 472
def pmtuError : Int := -1

/- The size of the buffer that `recv_pkg` receives into. -/
def msgbufSize : Nat := 1472

/- The result of handing a packet to the output queue. -/
inductive ErrorCode where
  | ok
  | msglen
  | failure
  | throttle
deriving DecidableEq, Repr

/- The connection command types, also used as the status. -/
inductive ConMsgType where
  | invite
  | connect
  | ready
deriving DecidableEq, Repr

namespace ConMsgType

/- The number that stands for a command on the wire. -/
def code : ConMsgType → UInt32
| invite => 0
| connect => 1
| ready => 2

/- The command a received number stands for. -/
def ofCode? (number : UInt32) : Option ConMsgType :=
  if number = 0 then some invite
  else if number = 1 then some connect
  else if number = 2 then some ready
  else none

@[simp] theorem ofCode?_code
    (command : ConMsgType) :
    ofCode? command.code = some command := by
  cases command <;> rfl

end ConMsgType

/- The status of a reception slot. -/
inductive RecvbufStatus where
  | active
  | inactive
  | complete
deriving DecidableEq, Repr

/- One step down the list of packet sizes worth trying. -/
def pmtuDecrement (pmtusize : Int) : Int :=
  if pmtusize = pmtuMax then pmtuDslSlim
  else if pmtusize = pmtuDsl then pmtuDslMedium
  else if pmtusize = pmtuDslMedium then pmtuDslSlim
  else if pmtusize = pmtuDslSlim then pmtuMin
  else if pmtusize = pmtuBelowDsl then pmtuMin
  else if pmtusize = pmtuMin then pmtuError
  else pmtuMin

/- The value an `int` holds after a conversion to it. -/
def toCInt (n : Int) : Int :=
  n.bmod (2 ^ 32)

theorem toCInt_eq_self
    {n : Int}
    (hLow : -2 ^ 31 ≤ n)
    (hHigh : n < 2 ^ 31) :
    toCInt n = n := by
  unfold toCInt
  rw [Int.bmod_def]
  split <;> omega

------------------------------------------------------------
-- Packet Header
------------------------------------------------------------

/- `struct msg_header`, in host byte order. -/
structure MsgHeader where
  offset : UInt32
  msgLength : UInt32
  localConId : Int32
  remoteConId : Int32
  msgSeqNum : Int32
  msgType : UInt8
  lenMonDataHdr : UInt8
  lenMonPacketHdr : UInt8
deriving DecidableEq, Repr

/- The big-endian word at a position of a byte sequence. -/
def wordAt
    (bytes : List UInt8)
    (start : Nat) : UInt32 :=
  ByteSeq.ofBe32
    (bytes.getD start 0)
    (bytes.getD (start + 1) 0)
    (bytes.getD (start + 2) 0)
    (bytes.getD (start + 3) 0)

namespace MsgHeader

/- The header as it is sent. -/
def encode (header : MsgHeader) : List UInt8 :=
  ByteSeq.be32 header.offset ++
    ByteSeq.be32 header.msgLength ++
    ByteSeq.be32 header.localConId.toUInt32 ++
    ByteSeq.be32 header.remoteConId.toUInt32 ++
    ByteSeq.be32 header.msgSeqNum.toUInt32 ++
    [header.msgType, header.lenMonDataHdr,
      header.lenMonPacketHdr]

/- The header read from the start of a receive buffer. -/
def decode (bytes : List UInt8) : MsgHeader where
  offset := wordAt bytes 0
  msgLength := wordAt bytes 4
  localConId := (wordAt bytes 8).toInt32
  remoteConId := (wordAt bytes 12).toInt32
  msgSeqNum := (wordAt bytes 16).toInt32
  msgType := bytes.getD 20 0
  lenMonDataHdr := bytes.getD 21 0
  lenMonPacketHdr := bytes.getD 22 0

@[simp] theorem length_encode
    (header : MsgHeader) :
    header.encode.length = msgHeaderSize := rfl

/- A received header is the header that was sent. -/
theorem decode_encode_append
    (header : MsgHeader)
    (rest : List UInt8) :
    decode (header.encode ++ rest) = header := by
  cases header
  simp only [decode, encode, wordAt, ByteSeq.be32,
    List.cons_append, List.nil_append,
    List.getD_cons_zero, List.getD_cons_succ,
    ByteSeq.ofBe32_be32]
  rfl

end MsgHeader

------------------------------------------------------------
-- Negative Acknowledgements
------------------------------------------------------------

/- `struct nack_msg`; `sizeof` is 16. -/
structure NackMsg where
  conId : Int32
  msgSeqNum : Int32
  offsetFrom : UInt32
  offsetTo : UInt32
deriving DecidableEq, Repr

def nackMsgSize : Nat := 16

/-
  `nack_msg` is sent and read without any conversion, so its
  bytes are in the order of the host that wrote them.
-/
def hostWord
    (bigEndian : Bool)
    (word : UInt32) : List UInt8 :=
  if bigEndian then
    ByteSeq.be32 word
  else
    (ByteSeq.be32 word).reverse

/- The host-order word at a position of a byte sequence. -/
def hostWordAt
    (bigEndian : Bool)
    (bytes : List UInt8)
    (start : Nat) : UInt32 :=
  if bigEndian then
    wordAt bytes start
  else
    ByteSeq.ofBe32
      (bytes.getD (start + 3) 0)
      (bytes.getD (start + 2) 0)
      (bytes.getD (start + 1) 0)
      (bytes.getD start 0)

namespace NackMsg

def encode
    (bigEndian : Bool)
    (nack : NackMsg) : List UInt8 :=
  hostWord bigEndian nack.conId.toUInt32 ++
    hostWord bigEndian nack.msgSeqNum.toUInt32 ++
    hostWord bigEndian nack.offsetFrom ++
    hostWord bigEndian nack.offsetTo

def decode
    (bigEndian : Bool)
    (bytes : List UInt8) : NackMsg where
  conId := (hostWordAt bigEndian bytes 0).toInt32
  msgSeqNum := (hostWordAt bigEndian bytes 4).toInt32
  offsetFrom := hostWordAt bigEndian bytes 8
  offsetTo := hostWordAt bigEndian bytes 12

@[simp] theorem length_encode
    (bigEndian : Bool)
    (nack : NackMsg) :
    (nack.encode bigEndian).length = nackMsgSize := by
  cases bigEndian <;> rfl

/-
  Between hosts of one byte order, a received negative
  acknowledgement is the one that was sent.
-/
theorem decode_encode_append
    (bigEndian : Bool)
    (nack : NackMsg)
    (rest : List UInt8) :
    decode bigEndian (nack.encode bigEndian ++ rest) =
      nack := by
  cases nack
  cases bigEndian <;>
    simp only [decode, encode, hostWord, hostWordAt, wordAt,
      ByteSeq.be32, Bool.false_eq_true, if_false, if_true,
      List.reverse_cons, List.reverse_nil,
      List.cons_append, List.nil_append,
      List.getD_cons_zero, List.getD_cons_succ,
      ByteSeq.ofBe32_be32] <;>
    rfl

end NackMsg

end ML

end NapaBaselibs
