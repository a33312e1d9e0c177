import NapaBaselibs.ML.Wire
import Mathlib.Data.List.GetD

/-
  Socket addresses, socket IDs, their printed form and the
  connection message that carries them.

  What the C library and the host supply is collected in
  `Platform`: the byte order, `inet_ntop`, the address family
  that `getaddrinfo` reports for a numeric address, and
  `strcmp`, of which only the C contract is assumed.  The
  reflexive address that the STUN client reads from an answer
  is there too.

  Key definitions include:
    * `SockaddrStorage`, `SocketID`
    * `mlSocketIDToString`
    * `mlCompareSocketIDs`, `mlCompareAddr`
    * `ConnMsg`, `ConnMsg.encode`, `ConnMsg.decode`

  Key theorems include:
    * `mlCompareSocketIDs_eq_zero_iff`
    * `ConnMsg.decode_encode_append`
-/

------------------------------------------------------------
-- Addresses
------------------------------------------------------------

namespace NapaBaselibs

namespace ML

/- `AF_INET` and `AF_INET6` of the Linux headers. -/
def afInet : UInt16 := 2
def afInet6 : UInt16 := 10

/-
  `struct sockaddr_storage`: the family, in host byte order,
  and the 126 bytes after it.
-/
structure SockaddrStorage where
  ssFamily : UInt16
  ssData : Vector UInt8 126
deriving DecidableEq

/- `socket_ID`: the internal and the external address. -/
structure SocketID where
  internalAddr : SockaddrStorage
  externalAddr : SockaddrStorage
deriving DecidableEq

/- A C string without its terminating zero. -/
abbrev CString := List Char

/- What the host and the C library supply. -/
structure Platform where
  bigEndian : Bool
  inetNtop : UInt16 → List UInt8 → CString
  addressFamily : CString → UInt16
  recvStunMessage : List UInt8 → Option SockaddrStorage
  strcmp : CString → CString → Int32
  strcmp_eq_zero_iff :
    ∀ a b, strcmp a b = 0 ↔ a = b

variable (p : Platform)

/- The port, or `-1` for an address of no known family. -/
def getSockaddrPort (addr : SockaddrStorage) : Int :=
  if addr.ssFamily = afInet ∨ addr.ssFamily = afInet6 then
    (addr.ssData[0].toNat * 256 + addr.ssData[1].toNat : Nat)
  else
    -1

/- The port of an address, which is a number of 16 bits. -/
def SockaddrStorage.port (addr : SockaddrStorage) : Nat :=
  addr.ssData[0].toNat * 256 + addr.ssData[1].toNat

/- The printed IP address, empty for an unknown family. -/
def getSockaddrIp (addr : SockaddrStorage) : CString :=
  if addr.ssFamily = afInet then
    p.inetNtop afInet (ByteSeq.slice addr.ssData.toList 2 4)
  else if addr.ssFamily = afInet6 then
    p.inetNtop afInet6
      (ByteSeq.slice addr.ssData.toList 6 16)
  else
    []

/-
  Compare two printed IP addresses.  The three results of
  `strcmp` are combined bit by bit.
-/
def mlCompareAddr (addr₁ addr₂ : SockaddrStorage) : Int32 :=
  let buff₁ := getSockaddrIp p addr₁
  let buff₂ := getSockaddrIp p addr₂
  p.strcmp buff₁ buff₂ &&& p.strcmp buff₁ [] &&&
    p.strcmp buff₂ []

/-
  Print a socket ID into a buffer of `len` bytes.  The test
  of the external port is an assignment in the source, so
  the internal port is always printed twice.
-/
def mlSocketIDToString
    (socketID : SocketID)
    (len : Nat) : CString :=
  let internalAddr := getSockaddrIp p socketID.internalAddr
  let externalAddr :=
    if getSockaddrIp p socketID.externalAddr = [] then
      internalAddr
    else
      getSockaddrIp p socketID.externalAddr
  let internalPort := getSockaddrPort socketID.internalAddr
  let externalPort := internalPort
  let portDelim :=
    if p.addressFamily internalAddr = afInet then
      ':'
    else
      '_'
  (internalAddr ++ [portDelim] ++
    (toString internalPort).toList ++ ['-'] ++
    externalAddr ++ [portDelim] ++
    (toString externalPort).toList).take (len - 1)

/- Compare the printed forms of two socket IDs. -/
def mlCompareSocketIDs (sock₁ sock₂ : SocketID) : Int32 :=
  p.strcmp
    (mlSocketIDToString p sock₁ 500)
    (mlSocketIDToString p sock₂ 500)

/- Two socket IDs compare equal when they print alike. -/
theorem mlCompareSocketIDs_eq_zero_iff
    (sock₁ sock₂ : SocketID) :
    mlCompareSocketIDs p sock₁ sock₂ = 0 ↔
      mlSocketIDToString p sock₁ 500 =
        mlSocketIDToString p sock₂ 500 :=
  p.strcmp_eq_zero_iff _ _

/- An address compares equal to itself. -/
theorem mlCompareAddr_self
    (addr : SockaddrStorage) :
    mlCompareAddr p addr addr = 0 := by
  unfold mlCompareAddr
  simp only
  rw [(p.strcmp_eq_zero_iff _ _).mpr rfl, Int32.zero_and,
    Int32.zero_and]

/- The two socket IDs name the same peer. -/
def SamePeer (sock₁ sock₂ : SocketID) : Prop :=
  mlCompareSocketIDs p sock₁ sock₂ = 0

instance (sock₁ sock₂ : SocketID) :
    Decidable (SamePeer p sock₁ sock₂) := by
  unfold SamePeer
  infer_instance

variable {p}

theorem SamePeer.refl
    (sock : SocketID) :
    SamePeer p sock sock :=
  (mlCompareSocketIDs_eq_zero_iff p sock sock).mpr rfl

theorem SamePeer.symm
    {sock₁ sock₂ : SocketID}
    (hSame : SamePeer p sock₁ sock₂) :
    SamePeer p sock₂ sock₁ := by
  unfold SamePeer at *
  rw [mlCompareSocketIDs_eq_zero_iff] at *
  exact hSame.symm

theorem SamePeer.trans
    {sock₁ sock₂ sock₃ : SocketID}
    (hFirst : SamePeer p sock₁ sock₂)
    (hSecond : SamePeer p sock₂ sock₃) :
    SamePeer p sock₁ sock₃ := by
  unfold SamePeer at *
  rw [mlCompareSocketIDs_eq_zero_iff] at *
  exact hFirst.trans hSecond

------------------------------------------------------------
-- Socket IDs In Memory
------------------------------------------------------------

variable (p)

/- The two bytes of a short exchanged. -/
def swap16 (x : UInt16) : UInt16 :=
  UInt16.ofNat (x.toNat % 256 * 256 + x.toNat / 256)

/- `htons` and `ntohs`, which are the same function. -/
def htons (x : UInt16) : UInt16 :=
  if p.bigEndian then x else swap16 x

/- The two bytes of a short in memory. -/
def shortBytes (x : UInt16) : List UInt8 :=
  if p.bigEndian then
    [UInt8.ofNat (x.toNat / 256), UInt8.ofNat x.toNat]
  else
    [UInt8.ofNat x.toNat, UInt8.ofNat (x.toNat / 256)]

/- The short whose bytes in memory are given. -/
def shortOfBytes (b₀ b₁ : UInt8) : UInt16 :=
  if p.bigEndian then
    UInt16.ofNat (b₀.toNat * 256 + b₁.toNat)
  else
    UInt16.ofNat (b₁.toNat * 256 + b₀.toNat)

/- The 128 bytes of an address. -/
def SockaddrStorage.toBytes
    (addr : SockaddrStorage) : List UInt8 :=
  shortBytes p addr.ssFamily ++ addr.ssData.toList

/- The address read from a position of a byte sequence. -/
def SockaddrStorage.ofBytes
    (bytes : List UInt8)
    (start : Nat) : SockaddrStorage where
  ssFamily :=
    shortOfBytes p
      (bytes.getD start 0) (bytes.getD (start + 1) 0)
  ssData :=
    Vector.ofFn (fun i : Fin 126 =>
      bytes.getD (start + 2 + i) 0)

/-
  The in-place conversion of the two families, as sender and
  receiver both do it: the external family is computed from
  the internal family after its conversion.
-/
def convertFamilies (sockId : SocketID) : SocketID :=
  let internalFamily := htons p sockId.internalAddr.ssFamily
  { internalAddr :=
      { sockId.internalAddr with ssFamily := internalFamily }
    externalAddr :=
      { sockId.externalAddr with
        ssFamily := htons p internalFamily } }

/-
  The socket ID a peer decodes from the connection messages
  of a node whose local socket ID is `sockId`.
-/
def carriedSocketID (sockId : SocketID) : SocketID :=
  convertFamilies p (convertFamilies p sockId)

/-
  Between big-endian hosts a socket ID whose addresses are of
  one family arrives as it was sent.
-/
theorem carriedSocketID_of_bigEndian
    {sockId : SocketID}
    (hBig : p.bigEndian = true)
    (hFamily :
      sockId.externalAddr.ssFamily =
        sockId.internalAddr.ssFamily) :
    carriedSocketID p sockId = sockId := by
  unfold carriedSocketID convertFamilies htons
  simp only [hBig, if_true]
  rcases sockId with ⟨internal, ⟨family, data⟩⟩
  simp only at hFamily
  rw [hFamily]

@[simp] theorem length_shortBytes
    (x : UInt16) :
    (shortBytes p x).length = 2 := by
  unfold shortBytes
  split <;> rfl

@[simp] theorem SockaddrStorage.length_toBytes
    (addr : SockaddrStorage) :
    (addr.toBytes p).length = 128 := by
  simp [SockaddrStorage.toBytes]

theorem toNat_swap16 (x : UInt16) :
    (swap16 x).toNat =
      x.toNat % 256 * 256 + x.toNat / 256 := by
  have hBound := x.toNat_lt
  unfold swap16
  rw [UInt16.toNat_ofNat']
  omega

/- Converting a short twice gives it back. -/
theorem htons_htons (x : UInt16) :
    htons p (htons p x) = x := by
  unfold htons
  split
  · rfl
  · apply UInt16.toNat_inj.mp
    have hBound := x.toNat_lt
    rw [toNat_swap16, toNat_swap16]
    omega

/- A converted short lies in memory in network order. -/
theorem shortBytes_htons (x : UInt16) :
    shortBytes p (htons p x) =
      [UInt8.ofNat (x.toNat / 256), UInt8.ofNat x.toNat] := by
  unfold shortBytes htons
  split
  · rfl
  · have hBound := x.toNat_lt
    have hHigh : x.toNat / 256 < 256 := by omega
    have hLow : x.toNat % 256 < 256 := by omega
    have hSplit :
        x.toNat = x.toNat / 256 * 256 + x.toNat % 256 := by
      omega
    rw [toNat_swap16]
    simp only [List.cons.injEq, and_true, ← UInt8.toNat_inj,
      UInt8.toNat_ofNat']
    generalize x.toNat / 256 = high at *
    generalize x.toNat % 256 = low at *
    have hDiv : (low * 256 + high) / 256 = low := by omega
    omega

/- A short read and converted is the one in network order. -/
theorem htons_shortOfBytes (b₀ b₁ : UInt8) :
    htons p (shortOfBytes p b₀ b₁) =
      UInt16.ofNat (b₀.toNat * 256 + b₁.toNat) := by
  unfold shortOfBytes htons
  split
  · rfl
  · have hFirst := b₀.toNat_lt
    have hSecond := b₁.toNat_lt
    have hExact :
        (b₁.toNat * 256 + b₀.toNat) % 2 ^ 16 =
          b₁.toNat * 256 + b₀.toNat := by
      omega
    have hDiv :
        (b₁.toNat * 256 + b₀.toNat) / 256 = b₁.toNat := by
      omega
    rw [← UInt16.toNat_inj, toNat_swap16]
    simp only [UInt16.toNat_ofNat', hExact, hDiv]
    omega

/-
  A short stored in network order by one host is read as
  itself by another, whatever the byte orders of the two.
-/
theorem htons_shortOfBytes_shortBytes
    (q : Platform)
    (x : UInt16)
    (rest : List UInt8) :
    htons q
        (shortOfBytes q
          ((shortBytes p (htons p x) ++ rest).getD 0 0)
          ((shortBytes p (htons p x) ++ rest).getD 1 0)) =
      x := by
  have hBound := x.toNat_lt
  rw [htons_shortOfBytes, shortBytes_htons]
  simp only [List.cons_append, List.getD_cons_zero,
    List.getD_cons_succ, ← UInt16.toNat_inj,
    UInt16.toNat_ofNat', UInt8.toNat_ofNat']
  omega

/-
  The data of an address is read back as it was stored, the
  family as the host reads its two bytes.
-/
theorem SockaddrStorage.ofBytes_toBytes
    (q : Platform)
    (addr : SockaddrStorage)
    (before rest : List UInt8) :
    SockaddrStorage.ofBytes q
        (before ++ addr.toBytes p ++ rest) before.length =
      { ssFamily :=
          shortOfBytes q
            ((addr.toBytes p ++ rest).getD 0 0)
            ((addr.toBytes p ++ rest).getD 1 0)
        ssData := addr.ssData } := by
  have hShift (k : Nat) :
      (before ++ addr.toBytes p ++ rest).getD
          (before.length + k) 0 =
        (addr.toBytes p ++ rest).getD k 0 := by
    rw [List.append_assoc, List.getD_append_right _ _ _ _
      (Nat.le_add_right _ _), Nat.add_sub_cancel_left]
  have hFirst := hShift 0
  have hSecond := hShift 1
  rw [Nat.add_zero] at hFirst
  simp only [SockaddrStorage.ofBytes, hFirst, hSecond,
    SockaddrStorage.mk.injEq, true_and]
  apply Vector.ext
  intro i hi
  rw [Vector.getElem_ofFn, Nat.add_assoc, hShift,
    SockaddrStorage.toBytes, List.append_assoc,
    List.getD_append_right _ _ _ _ (by simp),
    length_shortBytes, Nat.add_sub_cancel_left,
    List.getD_append _ _ _ _ (by simpa using hi)]
  simp [List.getD_eq_getElem?_getD, hi]

------------------------------------------------------------
-- Connection Messages
------------------------------------------------------------

/- `struct conn_msg`, in host byte order. -/
structure ConnMsg where
  comandType : UInt32
  pmtuSize : UInt32
  sockId : SocketID

/- `sizeof(struct conn_msg)`. -/
def connMsgSize : Nat := 264

namespace ConnMsg

/- The message as `send_conn_msg` leaves it in its buffer. -/
def encode (msg : ConnMsg) : List UInt8 :=
  let sockId := convertFamilies p msg.sockId
  ByteSeq.be32 msg.comandType ++ ByteSeq.be32 msg.pmtuSize ++
    (sockId.internalAddr.toBytes p ++
      sockId.externalAddr.toBytes p)

/- The message as `recv_conn_msg` reads it. -/
def decode (bytes : List UInt8) : ConnMsg where
  comandType := wordAt bytes 0
  pmtuSize := wordAt bytes 4
  sockId :=
    convertFamilies p
      { internalAddr := SockaddrStorage.ofBytes p bytes 8
        externalAddr := SockaddrStorage.ofBytes p bytes 136 }

@[simp] theorem length_encode
    (msg : ConnMsg) :
    (msg.encode p).length = connMsgSize := by
  simp [encode, connMsgSize]

/-
  A received connection message has the command and the size
  that were sent, and the internal address.  The external
  address arrives with a family that the receiver computes
  from the internal one.
-/
theorem decode_encode
    (q : Platform)
    (msg : ConnMsg)
    (rest : List UInt8) :
    decode q (msg.encode p ++ rest) =
      { comandType := msg.comandType
        pmtuSize := msg.pmtuSize
        sockId :=
          { internalAddr := msg.sockId.internalAddr
            externalAddr :=
              { msg.sockId.externalAddr with
                ssFamily :=
                  htons q
                    msg.sockId.internalAddr.ssFamily } } } := by
  have hHead :
      (ByteSeq.be32 msg.comandType ++
        ByteSeq.be32 msg.pmtuSize).length = 8 := rfl
  have hInternal :=
    SockaddrStorage.ofBytes_toBytes p q
      (convertFamilies p msg.sockId).internalAddr
      (ByteSeq.be32 msg.comandType ++
        ByteSeq.be32 msg.pmtuSize)
      ((convertFamilies p msg.sockId).externalAddr.toBytes p
        ++ rest)
  have hExternal :=
    SockaddrStorage.ofBytes_toBytes p q
      (convertFamilies p msg.sockId).externalAddr
      (ByteSeq.be32 msg.comandType ++
        ByteSeq.be32 msg.pmtuSize ++
        (convertFamilies p msg.sockId).internalAddr.toBytes p)
      rest
  rw [hHead] at hInternal
  rw [List.length_append, hHead,
    SockaddrStorage.length_toBytes] at hExternal
  have hWords :
      wordAt (msg.encode p ++ rest) 0 = msg.comandType ∧
        wordAt (msg.encode p ++ rest) 4 = msg.pmtuSize := by
    simp only [encode, wordAt, ByteSeq.be32,
      List.cons_append, List.nil_append,
      List.getD_cons_zero, List.getD_cons_succ,
      ByteSeq.ofBe32_be32, and_self]
  have hBytes :
      msg.encode p ++ rest =
        ByteSeq.be32 msg.comandType ++
          ByteSeq.be32 msg.pmtuSize ++
          (convertFamilies p msg.sockId).internalAddr.toBytes
            p ++
          ((convertFamilies p msg.sockId).externalAddr.toBytes
            p ++ rest) := by
    simp only [encode, List.append_assoc]
  have hFamily :=
    htons_shortOfBytes_shortBytes p q
      msg.sockId.internalAddr.ssFamily
      ((convertFamilies p msg.sockId).internalAddr.ssData.toList
        ++ ((convertFamilies p msg.sockId).externalAddr.toBytes p
          ++ rest))
  rw [← List.append_assoc] at hInternal
  rw [← List.append_assoc] at hBytes
  unfold decode
  rw [hWords.1, hWords.2, hBytes, hInternal, hExternal]
  unfold convertFamilies at *
  unfold SockaddrStorage.toBytes at *
  simp only [List.append_assoc] at hFamily ⊢
  rw [hFamily]

/- Between hosts alike, that is what is carried. -/
theorem decode_encode_append
    (msg : ConnMsg)
    (rest : List UInt8) :
    decode p (msg.encode p ++ rest) =
      { comandType := msg.comandType
        pmtuSize := msg.pmtuSize
        sockId := carriedSocketID p msg.sockId } := by
  rw [decode_encode]
  unfold carriedSocketID convertFamilies
  simp only [htons_htons]

end ConnMsg

end ML

end NapaBaselibs
