import NapaBaselibs.Lib.Scan
import NapaBaselibs.ML.SocketIDWire

/-
  Socket IDs as strings: parsing what was printed, comparing
  what is printed, and hashing.

  The printed form names the internal port twice, so it is
  the same for socket IDs that differ in the external port
  only; the hash is not.  What `inet_pton` does is a
  parameter, and an address for which it undoes `inet_ntop`
  is called numeric.

  Key definitions include:
    * `initSockaddr`, `mlStringToSocketID`
    * `mlHashSocketID`
    * `SameAddress`
    * `SockaddrStorage.Numeric`

  Key theorems include:
    * `mlCompareSocketIDs_numeric`
    * `string_round_trip_iff`
    * `identity_coherent_iff`
-/

------------------------------------------------------------
-- Parsing
------------------------------------------------------------

namespace NapaBaselibs

namespace ML

/- `inet_pton`: the bytes of a printed address, if it is one. -/
abbrev InetPton := UInt16 → CString → Option (List UInt8)

/- A `struct sockaddr_storage` with these first data bytes. -/
def sockaddrOf
    (family : UInt16)
    (bytes : List UInt8) : SockaddrStorage where
  ssFamily := family
  ssData := Vector.ofFn (fun i => bytes.getD i 0)

/- A port in network order. -/
def portBytes (port : Int) : List UInt8 :=
  [UInt8.ofNat ((port % 2 ^ 16).toNat / 256),
    UInt8.ofNat (port % 2 ^ 16).toNat]

/-
  `init_sockaddr` on an address set to zero.  An IPv6 address
  comes behind the flow information.
-/
def initSockaddr
    (p : Platform)
    (inetPton : InetPton)
    (port : Int)
    (ipaddr : CString) : SockaddrStorage :=
  let family := p.addressFamily ipaddr
  if family = afInet then
    sockaddrOf family
      (portBytes port ++ (inetPton family ipaddr).getD [])
  else if family = afInet6 then
    sockaddrOf family
      (portBytes port ++ List.replicate 4 0 ++
        (inetPton family ipaddr).getD [])
  else
    sockaddrOf family []

/- `sscanf` with the format `%s %d %s %d`. -/
def scanSocketID (text : CString) :
    Option (CString × Int × CString × Int) :=
  match Scan.word text with
  | none => none
  | some (internalAddr, text) =>
  match Scan.int text with
  | none => none
  | some (internalPort, text) =>
  match Scan.word text with
  | none => none
  | some (externalAddr, text) =>
  match Scan.int text with
  | none => none
  | some (externalPort, _) =>
      some
        (internalAddr, internalPort, externalAddr,
          externalPort)

/-
  `mlStringToSocketID`.  Without a result the source uses
  variables that were never assigned.
-/
def mlStringToSocketID
    (p : Platform)
    (inetPton : InetPton)
    (socketIDString : CString) : Option SocketID :=
  let portDelim := if '_' ∈ socketIDString then '_' else ':'
  let s :=
    Scan.replaceFirst '-' ' '
      (socketIDString.map (fun c =>
        if c = portDelim then ' ' else c))
  match scanSocketID s with
  | none => none
  | some
      (internalAddr, internalPort, externalAddr,
        externalPort) =>
      some
        { internalAddr :=
            initSockaddr p inetPton internalPort internalAddr
          externalAddr :=
            initSockaddr p inetPton externalPort
              externalAddr }

/- `mlHashSocketID`. -/
def mlHashSocketID (sock : SocketID) : Int :=
  getSockaddrPort sock.internalAddr +
    getSockaddrPort sock.externalAddr

------------------------------------------------------------
-- Numeric Addresses
------------------------------------------------------------

/- The bytes of the IP address. -/
def SockaddrStorage.ipBytes
    (addr : SockaddrStorage) : List UInt8 :=
  if addr.ssFamily = afInet then
    ByteSeq.slice addr.ssData.toList 2 4
  else if addr.ssFamily = afInet6 then
    ByteSeq.slice addr.ssData.toList 6 16
  else
    []

/- Two addresses with the same IP address and port. -/
structure SameAddress
    (addr₁ addr₂ : SockaddrStorage) : Prop where
  ssFamily : addr₁.ssFamily = addr₂.ssFamily
  ipBytes : addr₁.ipBytes = addr₂.ipBytes
  port : getSockaddrPort addr₁ = getSockaddrPort addr₂

/-
  An IPv4 or IPv6 address on which the functions of the C
  library are inverse: what `inet_ntop` prints, `getaddrinfo`
  recognises as its family and `inet_pton` reads back.  It
  has fewer than `INET6_ADDRSTRLEN` characters, none of which
  delimits anything.
-/
structure SockaddrStorage.Numeric
    (p : Platform)
    (inetPton : InetPton)
    (addr : SockaddrStorage) : Prop where
  family : addr.ssFamily = afInet ∨ addr.ssFamily = afInet6
  inetPton :
    inetPton addr.ssFamily (getSockaddrIp p addr) =
      some addr.ipBytes
  addressFamily :
    p.addressFamily (getSockaddrIp p addr) = addr.ssFamily
  length_lt : (getSockaddrIp p addr).length < 46
  ne_nil : getSockaddrIp p addr ≠ []
  not_space :
    ∀ c ∈ getSockaddrIp p addr, Scan.isSpace c = false
  no_dash : '-' ∉ getSockaddrIp p addr
  no_underscore : '_' ∉ getSockaddrIp p addr
  no_colon :
    addr.ssFamily = afInet → ':' ∉ getSockaddrIp p addr

variable {p : Platform}
variable {inetPton : InetPton}

theorem getSockaddrPort_eq_port
    {addr : SockaddrStorage}
    (hFamily :
      addr.ssFamily = afInet ∨ addr.ssFamily = afInet6) :
    getSockaddrPort addr = addr.port :=
  if_pos hFamily

theorem SockaddrStorage.port_lt
    (addr : SockaddrStorage) :
    addr.port < 2 ^ 16 := by
  have hFirst := addr.ssData[0].toNat_lt
  have hSecond := addr.ssData[1].toNat_lt
  unfold port
  omega

/- The IP bytes of an address with given first bytes. -/
theorem slice_sockaddrOf
    (family : UInt16)
    (before bytes : List UInt8)
    (hFits : before.length + bytes.length ≤ 126) :
    ByteSeq.slice
        (sockaddrOf family (before ++ bytes)).ssData.toList
        before.length bytes.length = bytes := by
  apply List.ext_getElem?
  intro k
  rw [ByteSeq.getElem?_slice]
  by_cases hLt : k < bytes.length
  · have hIn : before.length + k < 126 := by omega
    have hAt :
        (sockaddrOf family
          (before ++ bytes)).ssData.toList[
            before.length + k]? =
          some ((before ++ bytes).getD (before.length + k) 0)
        := by
      simp [sockaddrOf, hIn]
    rw [if_pos hLt, hAt, List.getD_append_right _ _ _ _
      (Nat.le_add_right _ _), Nat.add_sub_cancel_left]
    simp [List.getD_eq_getElem?_getD, hLt]
  · rw [if_neg hLt, List.getElem?_eq_none (by omega)]

theorem port_sockaddrOf
    (family : UInt16)
    {port : Nat}
    (bytes : List UInt8)
    (hPort : port < 2 ^ 16) :
    (sockaddrOf family (portBytes port ++ bytes)).port =
      port := by
  have hExact : ((port : Int) % 2 ^ 16).toNat = port := by
    omega
  unfold SockaddrStorage.port sockaddrOf portBytes
  simp only [hExact, Vector.getElem_ofFn, List.cons_append,
    List.getD_cons_zero, List.getD_cons_succ,
    UInt8.toNat_ofNat']
  omega

theorem SockaddrStorage.ipBytes_inet
    {addr : SockaddrStorage}
    (hFamily : addr.ssFamily = afInet) :
    addr.ipBytes =
      ByteSeq.slice addr.ssData.toList 2 4 := by
  unfold ipBytes
  rw [if_pos hFamily]

theorem SockaddrStorage.ipBytes_inet6
    {addr : SockaddrStorage}
    (hFamily : addr.ssFamily = afInet6) :
    addr.ipBytes =
      ByteSeq.slice addr.ssData.toList 6 16 := by
  unfold ipBytes
  rw [hFamily, if_neg (by decide), if_pos rfl]

/-
  Initialised with what was printed for an address, a new
  address has its family and bytes, and the port given.
-/
theorem SockaddrStorage.Numeric.initSockaddr
    {addr : SockaddrStorage}
    {port : Nat}
    (hNumeric : addr.Numeric p inetPton)
    (hPort : port < 2 ^ 16) :
    (initSockaddr p inetPton port
          (getSockaddrIp p addr)).ssFamily = addr.ssFamily ∧
      (initSockaddr p inetPton port
          (getSockaddrIp p addr)).ipBytes = addr.ipBytes ∧
      getSockaddrPort
          (initSockaddr p inetPton port
            (getSockaddrIp p addr)) = port := by
  unfold ML.initSockaddr
  simp only [hNumeric.addressFamily, hNumeric.inetPton,
    Option.getD_some]
  rcases hNumeric.family with hInet | hInet6
  · have hLength : addr.ipBytes.length = 4 := by
      rw [ipBytes_inet hInet, ByteSeq.length_slice]
      simp
    rw [hInet, if_pos rfl]
    generalize addr.ipBytes = bytes at *
    have hFits :
        (portBytes port).length + bytes.length ≤ 126 := by
      rw [hLength]
      simp [portBytes]
    have hSlice :=
      slice_sockaddrOf afInet (portBytes port) bytes hFits
    rw [hLength] at hSlice
    refine ⟨rfl, (ipBytes_inet rfl).trans hSlice, ?_⟩
    rw [getSockaddrPort_eq_port (Or.inl rfl),
      port_sockaddrOf afInet bytes hPort]
  · have hLength : addr.ipBytes.length = 16 := by
      rw [ipBytes_inet6 hInet6, ByteSeq.length_slice]
      simp
    rw [hInet6, if_neg (by decide), if_pos rfl]
    generalize addr.ipBytes = bytes at *
    have hFits :
        (portBytes port ++ List.replicate 4 0).length +
          bytes.length ≤ 126 := by
      rw [hLength]
      simp [portBytes]
    have hSlice :=
      slice_sockaddrOf afInet6
        (portBytes port ++ List.replicate 4 0) bytes hFits
    rw [hLength] at hSlice
    refine ⟨rfl, (ipBytes_inet6 rfl).trans hSlice, ?_⟩
    rw [getSockaddrPort_eq_port (Or.inr rfl),
      List.append_assoc, port_sockaddrOf afInet6 _ hPort]

------------------------------------------------------------
-- The Printed Form
------------------------------------------------------------

/- The port delimiter of an address. -/
def portDelim (addr : SockaddrStorage) : Char :=
  if addr.ssFamily = afInet then ':' else '_'

theorem portDelim_not_digit (addr : SockaddrStorage) :
    (portDelim addr).isDigit = false := by
  unfold portDelim
  split
  · decide
  · decide

/- What is printed when the buffer is long enough. -/
def socketIDText
    (p : Platform)
    (socketID : SocketID) : CString :=
  getSockaddrIp p socketID.internalAddr ++
    portDelim socketID.internalAddr ::
      Nat.toDigits 10 socketID.internalAddr.port ++
    '-' ::
      (getSockaddrIp p socketID.externalAddr ++
        portDelim socketID.internalAddr ::
          Nat.toDigits 10 socketID.internalAddr.port)

/- Both addresses of a socket ID are numeric. -/
structure SocketID.Numeric
    (p : Platform)
    (inetPton : InetPton)
    (socketID : SocketID) : Prop where
  internal : socketID.internalAddr.Numeric p inetPton
  external : socketID.externalAddr.Numeric p inetPton

theorem toList_toString_natCast (n : Nat) :
    (toString (n : Int)).toList = Nat.toDigits 10 n :=
  Nat.toList_repr

theorem isDigit_of_mem_toDigits
    {n : Nat}
    {c : Char}
    (hMem : c ∈ Nat.toDigits 10 n) :
    c.isDigit = true :=
  Nat.isDigit_of_mem_toDigits (by decide) (by decide) hMem

/- A character that is no digit is in no decimal number. -/
theorem not_mem_toDigits
    {n : Nat}
    {c : Char}
    (hNot : c.isDigit = false) :
    c ∉ Nat.toDigits 10 n := by
  intro hMem
  rw [isDigit_of_mem_toDigits hMem] at hNot
  cases hNot

/- With room for all of it, the text is printed. -/
theorem mlSocketIDToString_numeric
    {socketID : SocketID}
    {len : Nat}
    (hNumeric : socketID.Numeric p inetPton)
    (hLong : (socketIDText p socketID).length < len) :
    mlSocketIDToString p socketID len =
      socketIDText p socketID := by
  have hPort :=
    getSockaddrPort_eq_port hNumeric.internal.family
  have hTake :
      (socketIDText p socketID).take (len - 1) =
        socketIDText p socketID :=
    List.take_of_length_le (by omega)
  unfold mlSocketIDToString
  simp only [hNumeric.external.ne_nil, if_false, hPort,
    hNumeric.internal.addressFamily, toList_toString_natCast]
  unfold socketIDText portDelim at hTake ⊢
  simp only [List.append_assoc, List.cons_append,
    List.nil_append] at hTake ⊢
  exact hTake

/- A printed socket ID is never longer than a hundred odd. -/
theorem length_socketIDText_lt
    {socketID : SocketID}
    (hNumeric : socketID.Numeric p inetPton) :
    (socketIDText p socketID).length < 500 := by
  have hInternal := hNumeric.internal.length_lt
  have hExternal := hNumeric.external.length_lt
  have hPort := socketID.internalAddr.port_lt
  have hDigits :
      (Nat.toDigits 10 socketID.internalAddr.port).length ≤
        5 :=
    (Nat.length_toDigits_le_iff (by decide)
      (by decide)).mpr (by omega)
  unfold socketIDText
  simp only [List.length_append, List.length_cons]
  omega

/- The port delimiter is in neither of the addresses. -/
theorem SocketID.Numeric.no_portDelim
    {socketID : SocketID}
    (hNumeric : socketID.Numeric p inetPton)
    (hFamily :
      socketID.externalAddr.ssFamily =
        socketID.internalAddr.ssFamily) :
    portDelim socketID.internalAddr ∉
        getSockaddrIp p socketID.internalAddr ∧
      portDelim socketID.internalAddr ∉
        getSockaddrIp p socketID.externalAddr := by
  unfold portDelim
  split
  · rename_i hInet
    exact
      ⟨hNumeric.internal.no_colon hInet,
        hNumeric.external.no_colon (hFamily.trans hInet)⟩
  · exact
      ⟨hNumeric.internal.no_underscore,
        hNumeric.external.no_underscore⟩

/- The parser finds out which delimiter was printed. -/
theorem SocketID.Numeric.delim_eq
    {socketID : SocketID}
    (hNumeric : socketID.Numeric p inetPton) :
    (if '_' ∈ socketIDText p socketID then '_' else ':') =
      portDelim socketID.internalAddr := by
  rcases hNumeric.internal.family with hInet | hInet6
  · have hDelim : portDelim socketID.internalAddr = ':' := by
      unfold portDelim
      rw [if_pos hInet]
    have hNone : '_' ∉ socketIDText p socketID := by
      have hDigits :
          '_' ∉
            Nat.toDigits 10 socketID.internalAddr.port :=
        not_mem_toDigits (by decide)
      unfold socketIDText
      rw [hDelim]
      simp only [List.mem_append, List.mem_cons, not_or]
      exact
        ⟨⟨hNumeric.internal.no_underscore, by decide,
            hDigits⟩, by decide,
          hNumeric.external.no_underscore, by decide,
            hDigits⟩
    rw [if_neg hNone, hDelim]
  · have hDelim : portDelim socketID.internalAddr = '_' := by
      unfold portDelim
      rw [hInet6, if_neg (by decide)]
    have hSome : '_' ∈ socketIDText p socketID := by
      unfold socketIDText
      rw [hDelim]
      simp
    rw [if_pos hSome, hDelim]

/- Replacing a character that does not occur. -/
theorem map_replace_eq_self
    {d : Char}
    {text : CString}
    (hText : d ∉ text) :
    text.map (fun c => if c = d then ' ' else c) = text := by
  rw [List.map_congr_left (g := id), List.map_id]
  intro c hMem
  refine if_neg ?_
  rintro rfl
  exact hText hMem

/- The words that are left without the delimiters. -/
theorem scanSocketID_words
    {first second : CString}
    (n : Nat)
    (hFirst : ∀ c ∈ first, Scan.isSpace c = false)
    (hSecond : ∀ c ∈ second, Scan.isSpace c = false)
    (hFirstWord : first ≠ [])
    (hSecondWord : second ≠ []) :
    scanSocketID
        (first ++ ' ' :: Nat.toDigits 10 n ++
          ' ' :: (second ++ ' ' :: Nat.toDigits 10 n)) =
      some (first, (n : Int), second, (n : Int)) := by
  have hSpace (rest : CString) :
      Scan.Ends (fun c => !Scan.isSpace c) (' ' :: rest) :=
    Scan.ends_cons (by decide) rest
  have hWord₁ :=
    Scan.word_append hFirst hFirstWord
      (hSpace (Nat.toDigits 10 n ++
        ' ' :: (second ++ ' ' :: Nat.toDigits 10 n)))
  have hWord₂ :=
    Scan.word_append hSecond hSecondWord
      (hSpace (Nat.toDigits 10 n))
  have hInt₁ :=
    Scan.int_toDigits n
      (Scan.ends_cons (c := ' ') (by decide)
        (second ++ ' ' :: Nat.toDigits 10 n))
  have hInt₂ :=
    Scan.int_toDigits n (Scan.ends_nil Char.isDigit)
  rw [List.append_nil] at hInt₂
  unfold scanSocketID
  rw [List.append_assoc, List.cons_append, hWord₁]
  simp only [hInt₁]
  rw [Scan.word_space, hWord₂]
  simp only [hInt₂]

/-
  Parsing what was printed: the two addresses as they were,
  each with the internal port.
-/
theorem mlStringToSocketID_socketIDText
    {socketID : SocketID}
    (hNumeric : socketID.Numeric p inetPton)
    (hFamily :
      socketID.externalAddr.ssFamily =
        socketID.internalAddr.ssFamily) :
    mlStringToSocketID p inetPton (socketIDText p socketID) =
      some
        { internalAddr :=
            initSockaddr p inetPton
              socketID.internalAddr.port
              (getSockaddrIp p socketID.internalAddr)
          externalAddr :=
            initSockaddr p inetPton
              socketID.internalAddr.port
              (getSockaddrIp p socketID.externalAddr) } := by
  rcases hNumeric.no_portDelim hFamily with
    ⟨hInternal, hExternal⟩
  have hDelim := portDelim_not_digit socketID.internalAddr
  have hDigits :
      portDelim socketID.internalAddr ∉
        Nat.toDigits 10 socketID.internalAddr.port :=
    not_mem_toDigits hDelim
  have hDash : '-' ≠ portDelim socketID.internalAddr := by
    unfold portDelim
    split
    · decide
    · decide
  have hNoDash :
      '-' ∉
        getSockaddrIp p socketID.internalAddr ++
          ' ' :: Nat.toDigits 10 socketID.internalAddr.port := by
    simp only [List.mem_append, List.mem_cons, not_or]
    exact
      ⟨hNumeric.internal.no_dash, by decide,
        not_mem_toDigits (by decide)⟩
  have hBlanks :
      Scan.replaceFirst '-' ' '
          ((socketIDText p socketID).map (fun c =>
            if c = portDelim socketID.internalAddr then ' '
            else c)) =
        getSockaddrIp p socketID.internalAddr ++
          ' ' :: Nat.toDigits 10 socketID.internalAddr.port ++
          ' ' ::
            (getSockaddrIp p socketID.externalAddr ++
              ' ' ::
                Nat.toDigits 10
                  socketID.internalAddr.port) := by
    unfold socketIDText
    rw [List.map_append, List.map_append, List.map_cons,
      List.map_cons, List.map_append, List.map_cons,
      map_replace_eq_self hInternal,
      map_replace_eq_self hExternal,
      map_replace_eq_self hDigits, if_pos rfl, if_neg hDash,
      Scan.replaceFirst_append hNoDash]
  unfold mlStringToSocketID
  simp only [hNumeric.delim_eq, hBlanks,
    scanSocketID_words socketID.internalAddr.port
      hNumeric.internal.not_space
      hNumeric.external.not_space hNumeric.internal.ne_nil
      hNumeric.external.ne_nil]

/-
  A socket ID whose addresses are of one family, printed into
  a buffer that is long enough, is parsed as what it was
  exactly when both its ports are the same.
-/
theorem string_round_trip_iff
    {socketID : SocketID}
    {len : Nat}
    (hNumeric : socketID.Numeric p inetPton)
    (hFamily :
      socketID.externalAddr.ssFamily =
        socketID.internalAddr.ssFamily)
    (hLong : (socketIDText p socketID).length < len) :
    (∃ parsed,
        mlStringToSocketID p inetPton
            (mlSocketIDToString p socketID len) =
          some parsed ∧
        SameAddress parsed.internalAddr
          socketID.internalAddr ∧
        SameAddress parsed.externalAddr
          socketID.externalAddr) ↔
      getSockaddrPort socketID.externalAddr =
        getSockaddrPort socketID.internalAddr := by
  have hPort := socketID.internalAddr.port_lt
  rcases hNumeric.internal.initSockaddr hPort with
    ⟨hFamily₁, hBytes₁, hPort₁⟩
  rcases hNumeric.external.initSockaddr hPort with
    ⟨hFamily₂, hBytes₂, hPort₂⟩
  have hOwn :=
    getSockaddrPort_eq_port hNumeric.internal.family
  rw [mlSocketIDToString_numeric hNumeric hLong,
    mlStringToSocketID_socketIDText hNumeric hFamily, hOwn]
  constructor
  · rintro ⟨parsed, hParsed, _, hSame⟩
    cases hParsed
    rw [← hSame.port, hPort₂]
  · intro hPorts
    refine ⟨_, rfl, ?_, ?_⟩
    · exact ⟨hFamily₁, hBytes₁, hPort₁.trans hOwn.symm⟩
    · exact ⟨hFamily₂, hBytes₂, hPort₂.trans hPorts.symm⟩

------------------------------------------------------------
-- Identity
------------------------------------------------------------

/- Numeric addresses that print alike are the same. -/
theorem SockaddrStorage.Numeric.eq_of_ip_eq
    {addr₁ addr₂ : SockaddrStorage}
    (hNumeric₁ : addr₁.Numeric p inetPton)
    (hNumeric₂ : addr₂.Numeric p inetPton)
    (hIp : getSockaddrIp p addr₁ = getSockaddrIp p addr₂) :
    addr₁.ssFamily = addr₂.ssFamily ∧
      addr₁.ipBytes = addr₂.ipBytes := by
  have hFamily : addr₁.ssFamily = addr₂.ssFamily := by
    rw [← hNumeric₁.addressFamily, hIp,
      hNumeric₂.addressFamily]
  refine ⟨hFamily, ?_⟩
  have hBytes := hNumeric₁.inetPton
  rw [hFamily, hIp, hNumeric₂.inetPton] at hBytes
  exact (Option.some.inj hBytes).symm

/- Addresses with the same bytes print alike. -/
theorem getSockaddrIp_congr
    {addr₁ addr₂ : SockaddrStorage}
    (hFamily : addr₁.ssFamily = addr₂.ssFamily)
    (hBytes : addr₁.ipBytes = addr₂.ipBytes) :
    getSockaddrIp p addr₁ = getSockaddrIp p addr₂ := by
  unfold getSockaddrIp SockaddrStorage.ipBytes at *
  rw [hFamily] at *
  split
  · rename_i hInet
    rw [if_pos hInet, if_pos hInet] at hBytes
    rw [hBytes]
  · rename_i hNot
    rw [if_neg hNot, if_neg hNot] at hBytes
    split
    · rename_i hInet6
      rw [if_pos hInet6, if_pos hInet6] at hBytes
      rw [hBytes]
    · rfl

/-
  Two socket IDs compare equal when they agree on the
  internal address and port and on the external address.
-/
theorem mlCompareSocketIDs_numeric
    {sock₁ sock₂ : SocketID}
    (hNumeric₁ : sock₁.Numeric p inetPton)
    (hNumeric₂ : sock₂.Numeric p inetPton) :
    mlCompareSocketIDs p sock₁ sock₂ = 0 ↔
      SameAddress sock₁.internalAddr sock₂.internalAddr ∧
        sock₁.externalAddr.ssFamily =
          sock₂.externalAddr.ssFamily ∧
        sock₁.externalAddr.ipBytes =
          sock₂.externalAddr.ipBytes := by
  have hPort₁ :=
    getSockaddrPort_eq_port hNumeric₁.internal.family
  have hPort₂ :=
    getSockaddrPort_eq_port hNumeric₂.internal.family
  rw [mlCompareSocketIDs_eq_zero_iff,
    mlSocketIDToString_numeric hNumeric₁
      (length_socketIDText_lt hNumeric₁),
    mlSocketIDToString_numeric hNumeric₂
      (length_socketIDText_lt hNumeric₂)]
  constructor
  · intro hEq
    have hNoDash
        (socketID : SocketID)
        (hNumeric : socketID.Numeric p inetPton) :
        '-' ∉
          getSockaddrIp p socketID.internalAddr ++
            portDelim socketID.internalAddr ::
              Nat.toDigits 10 socketID.internalAddr.port := by
      simp only [List.mem_append, List.mem_cons, not_or]
      refine
        ⟨hNumeric.internal.no_dash, ?_,
          not_mem_toDigits (by decide)⟩
      unfold portDelim
      split
      · decide
      · decide
    rcases
      Scan.split_first_inj (hNoDash sock₁ hNumeric₁)
        (hNoDash sock₂ hNumeric₂) hEq with
      ⟨hInternal, hExternal⟩
    rcases
      Scan.split_digits_inj (portDelim_not_digit _)
        (portDelim_not_digit _)
        (fun _ => isDigit_of_mem_toDigits)
        (fun _ => isDigit_of_mem_toDigits) hInternal with
      ⟨hIp, hDigits⟩
    rcases
      Scan.split_digits_inj (portDelim_not_digit _)
        (portDelim_not_digit _)
        (fun _ => isDigit_of_mem_toDigits)
        (fun _ => isDigit_of_mem_toDigits) hExternal with
      ⟨hExternalIp, _⟩
    rcases
      hNumeric₁.internal.eq_of_ip_eq hNumeric₂.internal hIp
      with ⟨hFamily, hBytes⟩
    have hPort :
        sock₁.internalAddr.port = sock₂.internalAddr.port := by
      rw [← Nat.ofDigitChars_ten_toDigits
          (n := sock₁.internalAddr.port), hDigits,
        Nat.ofDigitChars_ten_toDigits]
    refine
      ⟨⟨hFamily, hBytes, ?_⟩,
        hNumeric₁.external.eq_of_ip_eq hNumeric₂.external
          hExternalIp⟩
    rw [hPort₁, hPort₂, hPort]
  · rintro ⟨hInternal, hFamily, hBytes⟩
    have hPort := hInternal.port
    rw [hPort₁, hPort₂, Int.natCast_inj] at hPort
    unfold socketIDText portDelim
    rw [getSockaddrIp_congr hInternal.ssFamily
        hInternal.ipBytes,
      getSockaddrIp_congr hFamily hBytes, hPort,
      hInternal.ssFamily]

/-
  Comparison and hash agree with the addresses and ports of
  two socket IDs exactly when the two do not differ in the
  external port alone.
-/
theorem identity_coherent_iff
    {sock₁ sock₂ : SocketID}
    (hNumeric₁ : sock₁.Numeric p inetPton)
    (hNumeric₂ : sock₂.Numeric p inetPton) :
    ((mlCompareSocketIDs p sock₁ sock₂ = 0 ↔
          SameAddress sock₁.internalAddr
              sock₂.internalAddr ∧
            SameAddress sock₁.externalAddr
              sock₂.externalAddr) ∧
        (mlCompareSocketIDs p sock₁ sock₂ = 0 →
          mlHashSocketID sock₁ = mlHashSocketID sock₂)) ↔
      (SameAddress sock₁.internalAddr sock₂.internalAddr →
        sock₁.externalAddr.ssFamily =
            sock₂.externalAddr.ssFamily →
          sock₁.externalAddr.ipBytes =
              sock₂.externalAddr.ipBytes →
            getSockaddrPort sock₁.externalAddr =
              getSockaddrPort sock₂.externalAddr) := by
  rw [mlCompareSocketIDs_numeric hNumeric₁ hNumeric₂]
  constructor
  · rintro ⟨hCompare, _⟩ hInternal hFamily hBytes
    exact
      (hCompare.mp ⟨hInternal, hFamily, hBytes⟩).2.port
  · intro hPort
    constructor
    · constructor
      · rintro ⟨hInternal, hFamily, hBytes⟩
        exact
          ⟨hInternal, hFamily, hBytes,
            hPort hInternal hFamily hBytes⟩
      · rintro ⟨hInternal, hExternal⟩
        exact
          ⟨hInternal, hExternal.ssFamily, hExternal.ipBytes⟩
    · rintro ⟨hInternal, hFamily, hBytes⟩
      unfold mlHashSocketID
      rw [hInternal.port, hPort hInternal hFamily hBytes]

------------------------------------------------------------
-- Peers Behind A NAT
------------------------------------------------------------

open Sample

/- Reading an address in dotted notation. -/
def Sample.readDotted : InetPton :=
  fun _ text =>
    some
      ((text.splitOn '.').map (fun word =>
        UInt8.ofNat (Nat.ofDigitChars 10 word 0)))

/- Host 2, whose NAT has assigned a port from 6000 on. -/
def Sample.behindNat (port : UInt8) : SocketID where
  internalAddr := address 2
  externalAddr :=
    sockaddrOf afInet [0x17, 0x70 + port, 10, 0, 0, 3]

theorem Sample.not_space_of_all
    {text : CString}
    (hAll : text.all (fun c => !Scan.isSpace c) = true) :
    ∀ c ∈ text, Scan.isSpace c = false := by
  simpa using hAll

theorem Sample.numeric_behindNat
    {port : UInt8}
    (hPort : port = 0 ∨ port = 1) :
    (behindNat port).Numeric platform readDotted := by
  have hInternal :
      (address 2).Numeric platform readDotted := by
    constructor
    case not_space => exact not_space_of_all (by decide)
    all_goals decide
  rcases hPort with rfl | rfl
  · refine ⟨hInternal, ?_⟩
    constructor
    case not_space => exact not_space_of_all (by decide)
    all_goals decide
  · refine ⟨hInternal, ?_⟩
    constructor
    case not_space => exact not_space_of_all (by decide)
    all_goals decide

/- The external port is not the one that was printed. -/
theorem external_port_lost :
    (behindNat 1).Numeric platform readDotted ∧
      (socketIDText platform (behindNat 1)).length < 200 ∧
      getSockaddrPort (behindNat 1).externalAddr = 6001 ∧
      ¬ ∃ parsed,
        mlStringToSocketID platform readDotted
            (mlSocketIDToString platform (behindNat 1) 200) =
          some parsed ∧
        SameAddress parsed.internalAddr
          (behindNat 1).internalAddr ∧
        SameAddress parsed.externalAddr
          (behindNat 1).externalAddr := by
  have hNumeric := numeric_behindNat (.inr rfl)
  have hLong :
      (socketIDText platform (behindNat 1)).length < 200 := by
    decide
  refine ⟨hNumeric, hLong, by decide, ?_⟩
  rintro ⟨parsed, hParsed, _, hSame⟩
  rw [mlSocketIDToString_numeric hNumeric hLong,
    mlStringToSocketID_socketIDText hNumeric (by decide)]
    at hParsed
  cases hParsed
  have hPort := hSame.port
  rw [(hNumeric.external.initSockaddr
    (behindNat 1).internalAddr.port_lt).2.2] at hPort
  revert hPort
  decide

/- With the same port twice, the string says everything. -/
theorem string_round_trip_same_port :
    ∃ parsed,
      mlStringToSocketID platform readDotted
          (mlSocketIDToString platform (behindNat 0) 200) =
        some parsed ∧
      SameAddress parsed.internalAddr
        (behindNat 0).internalAddr ∧
      SameAddress parsed.externalAddr
        (behindNat 0).externalAddr :=
  (string_round_trip_iff (numeric_behindNat (.inl rfl))
    (by decide) (by decide)).mpr (by decide)

/- Two peers that differ in the external port only. -/
theorem external_port_not_compared :
    (behindNat 0).Numeric platform readDotted ∧
      (behindNat 1).Numeric platform readDotted ∧
      mlCompareSocketIDs platform (behindNat 0)
          (behindNat 1) = 0 ∧
      mlHashSocketID (behindNat 0) ≠
        mlHashSocketID (behindNat 1) ∧
      ¬ SameAddress (behindNat 0).externalAddr
        (behindNat 1).externalAddr := by
  have hNumeric₀ := numeric_behindNat (.inl rfl)
  have hNumeric₁ := numeric_behindNat (.inr rfl)
  refine ⟨hNumeric₀, hNumeric₁, ?_, by decide, ?_⟩
  · rw [mlCompareSocketIDs_numeric hNumeric₀ hNumeric₁]
    exact ⟨⟨rfl, rfl, rfl⟩, by decide, by decide⟩
  · intro hSame
    have hPort := hSame.port
    revert hPort
    decide

/- Another host behind the same NAT. -/
def Sample.neighbour : SocketID where
  internalAddr := address 1
  externalAddr := (behindNat 1).externalAddr

theorem Sample.numeric_neighbour :
    neighbour.Numeric platform readDotted := by
  have hInternal :
      (address 1).Numeric platform readDotted := by
    constructor
    case not_space => exact not_space_of_all (by decide)
    all_goals decide
  exact
    ⟨hInternal, (numeric_behindNat (.inr rfl)).external⟩

/- Two peers that differ in the internal address as well. -/
theorem identity_coherent_neighbour :
    (mlCompareSocketIDs platform (behindNat 0) neighbour =
          0 ↔
        SameAddress (behindNat 0).internalAddr
            neighbour.internalAddr ∧
          SameAddress (behindNat 0).externalAddr
            neighbour.externalAddr) ∧
      (mlCompareSocketIDs platform (behindNat 0) neighbour =
          0 →
        mlHashSocketID (behindNat 0) =
          mlHashSocketID neighbour) := by
  refine
    (identity_coherent_iff (numeric_behindNat (.inl rfl))
      numeric_neighbour).mpr ?_
  intro hSame
  have hBytes := hSame.ipBytes
  exfalso
  revert hBytes
  decide

end ML

end NapaBaselibs
