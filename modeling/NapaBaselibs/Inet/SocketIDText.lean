import NapaBaselibs.Inet.Shorthand
import NapaBaselibs.ML.Sample
import NapaBaselibs.ML.SocketIDString

/-
  Socket IDs as strings, where the addresses are printed and
  parsed by the functions of the library itself.

  What is assumed of the C library otherwise holds of them, so
  that only the recognition of numeric addresses is left to it.

  Key definitions include:
    * `inetNtop`, `inetPton`
    * `withOwnInet`, `Recognises`

  Key theorems include:
    * `numeric_of_own_inet`
    * `own_inet_socket_id_text`
-/

------------------------------------------------------------
-- The Functions Of The Library
------------------------------------------------------------

namespace NapaBaselibs

namespace Inet

open ML (CString Platform SockaddrStorage SocketID)
open ML (afInet afInet6)

/- `inet_ntop`. -/
def inetNtop
    (af : UInt16)
    (src : List UInt8)
    (size : Nat) : Option CString :=
  if af = afInet then inetNtop4 src size
  else if af = afInet6 then inetNtop6 src size
  else none

/- `inet_pton`: the bytes stored, where it returns 1. -/
def inetPton : ML.InetPton :=
  fun af src =>
    if af = afInet then inetPton4 src
    else if af = afInet6 then inetPton6 src
    else none

/- `ADDRESS_STR_LEN`. -/
def addressStrLen (af : UInt16) : Nat :=
  if af = afInet then 16 else 46

/- A platform that is built with `inet_ntop.c`. -/
def withOwnInet (p : Platform) : Platform :=
  { p with
    inetNtop := fun af src =>
      (inetNtop af src (addressStrLen af)).getD [] }

/- `getaddrinfo` knows the family of a numeric address. -/
def Recognises (p : Platform) : Prop :=
  ∀ af src text size,
    inetNtop af src size = some text → p.addressFamily text = af

/- `SOCKETID_STRING_SIZE`. -/
def socketIDStringSize : Nat := 46 * 2 + 4

------------------------------------------------------------
-- Characters
------------------------------------------------------------

/- A character that addresses have. -/
def AddressChar (ch : Char) : Prop :=
  (hexDigit ch).isSome ∨ ch = ':' ∨ ch = '.'

theorem addressChar_of_mem_quad
    {src : List UInt8}
    {ch : Char}
    (hMem : ch ∈ quad src) :
    AddressChar ch ∧ ch ≠ ':' := by
  have hNumber :
      ∀ n, ch ∈ Nat.toDigits 10 n → AddressChar ch ∧ ch ≠ ':' := by
    intro n hDigit
    have hHex :=
      hexDigit_of_mem_toDigits (by decide) (by decide) n ch hDigit
    refine ⟨Or.inl hHex, ?_⟩
    rintro rfl
    rw [hexDigit_colon] at hHex
    cases hHex
  have hDot : ch = '.' → AddressChar ch ∧ ch ≠ ':' := by
    rintro rfl
    exact ⟨Or.inr (Or.inr rfl), by decide⟩
  simp only [quad, List.mem_append, List.mem_cons] at hMem
  rcases hMem with h | h | h | h | h | h | h
  · exact hNumber _ h
  · exact hDot h
  · exact hNumber _ h
  · exact hDot h
  · exact hNumber _ h
  · exact hDot h
  · exact hNumber _ h

theorem Fields.addressChar
    {dotted : Bool}
    {text : CString}
    {bytes : List UInt8}
    (hFields : Fields dotted text bytes)
    {ch : Char}
    (hMem : ch ∈ text) :
    AddressChar ch := by
  induction hFields with
  | group hGroup => exact Or.inl (hGroup.digits ch hMem)
  | quad _ _ => exact (addressChar_of_mem_quad hMem).1
  | cons hGroup _ ih =>
      rcases List.mem_append.mp hMem with hFirst | hRest
      · exact Or.inl (hGroup.digits ch hFirst)
      · rcases List.mem_cons.mp hRest with rfl | hMore
        · exact Or.inr (Or.inl rfl)
        · exact ih hMore

theorem Part.addressChar
    {dotted : Bool}
    {text : CString}
    {bytes : List UInt8}
    (hPart : Part dotted text bytes)
    {ch : Char}
    (hMem : ch ∈ text) :
    AddressChar ch := by
  rcases hPart with ⟨rfl, _⟩ | hFields
  · cases hMem
  · exact hFields.addressChar hMem

theorem Ipv6Text.addressChar
    {text : CString}
    {bytes : List UInt8}
    (hText : Ipv6Text text bytes)
    {ch : Char}
    (hMem : ch ∈ text) :
    AddressChar ch := by
  cases hText with
  | full hFields _ => exact hFields.addressChar hMem
  | short hLeft hRight _ =>
      rcases List.mem_append.mp hMem with hFirst | hRest
      · exact hLeft.addressChar hFirst
      · rcases List.mem_cons.mp hRest with rfl | hRest
        · exact Or.inr (Or.inl rfl)
        · rcases List.mem_cons.mp hRest with rfl | hMore
          · exact Or.inr (Or.inl rfl)
          · exact hRight.addressChar hMore

/- No such character delimits anything in a socket ID. -/
theorem AddressChar.plain
    {ch : Char}
    (hChar : AddressChar ch) :
    Scan.isSpace ch = false ∧ ch ≠ '-' ∧ ch ≠ '_' := by
  rcases hChar with hHex | rfl | rfl
  · refine ⟨?_, ?_, ?_⟩
    · by_contra hSpace
      rw [Bool.not_eq_false, Scan.isSpace] at hSpace
      simp only [Bool.or_eq_true, decide_eq_true_eq] at hSpace
      rcases hSpace with ((((rfl | rfl) | rfl) | rfl) | rfl) | rfl
      all_goals revert hHex; decide
    · rintro rfl
      revert hHex
      decide
    · rintro rfl
      revert hHex
      decide
  · decide
  · decide

------------------------------------------------------------
-- Numeric Addresses
------------------------------------------------------------

/- What is printed for an IP address of a family. -/
structure Printed
    (af : UInt16)
    (src : List UInt8)
    (text : CString) : Prop where
  inetNtop :
    inetNtop af src (addressStrLen af) = some text
  inetPton : inetPton af text = some src
  ne_nil : text ≠ []
  chars : ∀ ch ∈ text, AddressChar ch
  length_le :
    text.length ≤ if af = afInet then 15 else 39
  no_colon : af = afInet → ':' ∉ text

theorem printed_inet
    {src : List UInt8}
    (hLength : src.length = 4) :
    Printed afInet src (quad src) := by
  have hText := length_quad src
  refine ⟨?_, ?_, ?_, ?_, ?_, ?_⟩
  · rw [inetNtop, if_pos rfl, inetNtop4_eq, addressStrLen,
      if_pos rfl, if_pos (by omega)]
  · rw [inetPton, if_pos rfl]
    exact inetPton4_quad hLength
  · intro hNone
    rw [hNone, List.length_nil] at hText
    omega
  · exact fun ch hMem => (addressChar_of_mem_quad hMem).1
  · rw [if_pos rfl]
    exact hText.2
  · exact fun _ hMem => (addressChar_of_mem_quad hMem).2 rfl

theorem printed_inet6
    {src : List UInt8}
    (hLength : src.length = 16) :
    ∃ text, Printed afInet6 src text := by
  obtain ⟨tp, hPrinted, hText, hShort⟩ := exists_printed src
  have hRead := hText.ipv6Text hLength
  have hEq := inetNtop6_eq hPrinted (addressStrLen afInet6)
  refine ⟨_, ?_, ?_, ?_, fun ch => hRead.addressChar, ?_, ?_⟩
  · rw [inetNtop, if_neg (by decide), if_pos rfl, hEq]
    exact if_pos (hShort.trans_lt (by decide))
  · rw [inetPton, if_neg (by decide), if_pos rfl]
    exact inetPton6_of_text hRead
  · intro hNone
    have hParsed := inetPton6_of_text hRead
    rw [hNone, show inetPton6 [] = none from rfl] at hParsed
    cases hParsed
  · rw [if_neg (by decide)]
    exact hShort
  · exact fun h => absurd h (by decide)

variable {p : Platform}

theorem withOwnInet_inetNtop
    {af : UInt16}
    {src : List UInt8}
    {text : CString}
    (hPrinted : Printed af src text) :
    (withOwnInet p).inetNtop af src = text := by
  have hText := hPrinted.inetNtop
  simp only [withOwnInet, hText, Option.getD_some]

/- What a platform prints with the functions of the library. -/
theorem printed_getSockaddrIp
    (p : Platform)
    {addr : SockaddrStorage}
    (hFamily :
      addr.ssFamily = afInet ∨ addr.ssFamily = afInet6) :
    Printed addr.ssFamily addr.ipBytes
      (ML.getSockaddrIp (withOwnInet p) addr) := by
  rcases hFamily with hInet | hInet6
  · have hBytes := SockaddrStorage.ipBytes_inet hInet
    have hLength : addr.ipBytes.length = 4 := by
      rw [hBytes, ByteSeq.length_slice]
      simp
    have hPrinted := printed_inet hLength
    rw [ML.getSockaddrIp, if_pos hInet, hInet, ← hBytes,
      withOwnInet_inetNtop hPrinted]
    exact hPrinted
  · have hBytes := SockaddrStorage.ipBytes_inet6 hInet6
    have hLength : addr.ipBytes.length = 16 := by
      rw [hBytes, ByteSeq.length_slice]
      simp
    obtain ⟨text, hPrinted⟩ := printed_inet6 hLength
    rw [ML.getSockaddrIp, hInet6, if_neg (by decide), if_pos rfl,
      ← hBytes, withOwnInet_inetNtop hPrinted]
    exact hPrinted

/- What is assumed of the C library holds of these functions. -/
theorem numeric_of_own_inet
    (hRecognises : Recognises p)
    {addr : SockaddrStorage}
    (hFamily :
      addr.ssFamily = afInet ∨ addr.ssFamily = afInet6) :
    addr.Numeric (withOwnInet p) inetPton := by
  have hPrinted := printed_getSockaddrIp p hFamily
  have hLength := hPrinted.length_le
  refine
    ⟨hFamily, hPrinted.inetPton,
      hRecognises _ _ _ _ hPrinted.inetNtop, ?_, hPrinted.ne_nil,
      fun ch hMem => (hPrinted.chars ch hMem).plain.1,
      fun hMem => (hPrinted.chars _ hMem).plain.2.1 rfl,
      fun hMem => (hPrinted.chars _ hMem).plain.2.2 rfl,
      hPrinted.no_colon⟩
  split_ifs at hLength
  · omega
  · omega

/- Both addresses are of one family of IP addresses. -/
structure OneFamily (sock : SocketID) : Prop where
  internal :
    sock.internalAddr.ssFamily = afInet ∨
      sock.internalAddr.ssFamily = afInet6
  same :
    sock.externalAddr.ssFamily = sock.internalAddr.ssFamily

theorem OneFamily.numeric
    (hRecognises : Recognises p)
    {sock : SocketID}
    (hFamily : OneFamily sock) :
    sock.Numeric (withOwnInet p) inetPton where
  internal := numeric_of_own_inet hRecognises hFamily.internal
  external := by
    apply numeric_of_own_inet hRecognises
    rw [hFamily.same]
    exact hFamily.internal

/- The buffer for a socket ID has room for every text. -/
theorem OneFamily.length_text_lt
    (p : Platform)
    {sock : SocketID}
    (hFamily : OneFamily sock) :
    (ML.socketIDText (withOwnInet p) sock).length <
      socketIDStringSize := by
  have hExternal :
      sock.externalAddr.ssFamily = afInet ∨
        sock.externalAddr.ssFamily = afInet6 := by
    rw [hFamily.same]
    exact hFamily.internal
  have hFirst :=
    (printed_getSockaddrIp p hFamily.internal).length_le
  have hSecond := (printed_getSockaddrIp p hExternal).length_le
  have hPort := sock.internalAddr.port_lt
  have hDigits :
      (Nat.toDigits 10 sock.internalAddr.port).length ≤ 5 :=
    (Nat.length_toDigits_le_iff (by decide) (by decide)).mpr
      (by omega)
  have hMost :
      ∀ af : UInt16, (if af = afInet then 15 else 39) ≤ 39 := by
    intro af
    split_ifs <;> omega
  have hInternalMost := hFirst.trans (hMost _)
  have hExternalMost := hSecond.trans (hMost _)
  simp only [ML.socketIDText, socketIDStringSize,
    List.length_append, List.length_cons]
  omega

/-
  A socket ID with two IPv4 or two IPv6 addresses is printed
  in full into a buffer of the size the header gives.  The text
  is parsed as the same addresses, with the internal port in
  both, and another socket ID has the same text if and only if
  it has the same internal address and port and the same
  external address.
-/
theorem own_inet_socket_id_text
    (hRecognises : Recognises p)
    {sock : SocketID}
    (hFamily : OneFamily sock) :
    let text :=
      ML.mlSocketIDToString (withOwnInet p) sock
        socketIDStringSize
    (∀ len, socketIDStringSize ≤ len →
      ML.mlSocketIDToString (withOwnInet p) sock len = text) ∧
    (∃ parsed,
      ML.mlStringToSocketID (withOwnInet p) inetPton text =
        some parsed ∧
      ML.SameAddress parsed.internalAddr sock.internalAddr ∧
      parsed.externalAddr.ssFamily =
        sock.externalAddr.ssFamily ∧
      parsed.externalAddr.ipBytes = sock.externalAddr.ipBytes ∧
      ML.getSockaddrPort parsed.externalAddr =
        ML.getSockaddrPort sock.internalAddr) ∧
    ∀ other, OneFamily other →
      (ML.mlSocketIDToString (withOwnInet p) other
          socketIDStringSize = text ↔
        ML.SameAddress other.internalAddr sock.internalAddr ∧
          other.externalAddr.ssFamily =
            sock.externalAddr.ssFamily ∧
          other.externalAddr.ipBytes =
            sock.externalAddr.ipBytes) := by
  have hNumeric := hFamily.numeric hRecognises
  have hAll :
      ∀ {id : SocketID}, OneFamily id →
        ∀ len, socketIDStringSize ≤ len →
          ML.mlSocketIDToString (withOwnInet p) id len =
            ML.socketIDText (withOwnInet p) id := by
    intro id hId len hLong
    have hShort := hId.length_text_lt p
    exact
      ML.mlSocketIDToString_numeric (hId.numeric hRecognises)
        (by omega)
  have hPort := sock.internalAddr.port_lt
  obtain ⟨hFamily₁, hBytes₁, hPort₁⟩ :=
    hNumeric.internal.initSockaddr hPort
  obtain ⟨hFamily₂, hBytes₂, hPort₂⟩ :=
    hNumeric.external.initSockaddr hPort
  have hOwn := ML.getSockaddrPort_eq_port hFamily.internal
  intro text
  have hText : text = ML.socketIDText (withOwnInet p) sock :=
    hAll hFamily _ (le_refl _)
  refine ⟨?_, ?_, ?_⟩
  · intro len hLong
    rw [hText, hAll hFamily len hLong]
  · rw [hText,
      ML.mlStringToSocketID_socketIDText hNumeric hFamily.same]
    exact
      ⟨_, rfl, ⟨hFamily₁, hBytes₁, hPort₁.trans hOwn.symm⟩,
        hFamily₂, hBytes₂, hPort₂.trans hOwn.symm⟩
  · intro other hOther
    have hCompare :=
      ML.mlCompareSocketIDs_numeric (hOther.numeric hRecognises)
        hNumeric
    rw [ML.mlCompareSocketIDs_eq_zero_iff,
      hAll hOther 500 (by decide),
      hAll hFamily 500 (by decide)] at hCompare
    rw [hText, hAll hOther _ (le_refl _)]
    exact hCompare

------------------------------------------------------------
-- A Link-Local Address
------------------------------------------------------------

theorem colon_mem_joined
    (src : List UInt8)
    (i n : Nat) :
    ':' ∈ joined src i (n + 2) := by
  rw [joined_succ, if_neg (Nat.succ_ne_zero n)]
  exact List.mem_append_right _ (List.mem_cons_self ..)

theorem Shorthand.colon_mem
    {src : List UInt8}
    {text : CString}
    (hText : Shorthand src text) :
    ':' ∈ text := by
  cases hText with
  | plain _ => exact colon_mem_joined src 0 6
  | short _ _ _ =>
      exact List.mem_append_right _ (List.mem_cons_self ..)
  | compatible _ => exact List.mem_cons_self ..
  | mapped _ _ => exact List.mem_cons_self ..

/- A platform that tells the families apart by the colons. -/
def byColon : Platform :=
  { ML.Sample.platform with
    addressFamily := fun text =>
      if ':' ∈ text then afInet6 else afInet }

theorem recognises_byColon : Recognises byColon := by
  intro af src text size hPrinted
  rw [inetNtop] at hPrinted
  split_ifs at hPrinted with hInet hInet6
  · rw [inetNtop4_eq] at hPrinted
    split_ifs at hPrinted
    cases Option.some.inj hPrinted
    rw [hInet]
    exact if_neg fun hMem => (addressChar_of_mem_quad hMem).2 rfl
  · obtain ⟨tp, hLoop, hText, _⟩ := exists_printed src
    rw [inetNtop6_eq hLoop] at hPrinted
    split_ifs at hPrinted
    cases Option.some.inj hPrinted
    rw [hInet6]
    exact if_pos hText.colon_mem

/- The address `fe80::1` with port 6000, twice. -/
def linkLocal : SocketID :=
  let addr :=
    ML.sockaddrOf afInet6
      ([0x17, 0x70, 0, 0, 0, 0, 0xfe, 0x80] ++
        List.replicate 13 0 ++ [1])
  ⟨addr, addr⟩

theorem link_local_socket_id_text :
    ∃ parsed,
      ML.mlStringToSocketID (withOwnInet byColon) inetPton
          (ML.mlSocketIDToString (withOwnInet byColon) linkLocal
            socketIDStringSize) = some parsed ∧
        ML.SameAddress parsed.internalAddr
          linkLocal.internalAddr := by
  have hFamily : OneFamily linkLocal := ⟨Or.inr rfl, rfl⟩
  obtain ⟨parsed, hParsed, hSame, _⟩ :=
    (own_inet_socket_id_text recognises_byColon hFamily).2.1
  exact ⟨parsed, hParsed, hSame⟩

end Inet

end NapaBaselibs
