import NapaBaselibs.Lib.Scan
import Mathlib.Data.BitVec

/-
  `ALTOclient.c`: the lists of rated networks and the search
  for the rating of a host.

  A database is the list of its elements from `first` on.
  Addresses are stored in network order.

  Key definitions include:
    * `AltoDbElement`, `AltoDb`
    * `computeSubnet`, `askHelperFunc`, `getAltoRating`
    * `altoDoTheMagic`, `getALTORatingForHost`
-/

------------------------------------------------------------
-- Addresses
------------------------------------------------------------

namespace NapaBaselibs

namespace ALTO

/- `struct in_addr`: an address as it is stored. -/
structure InAddr where
  sAddr : BitVec 32
deriving DecidableEq, Repr

/- The order of the bytes in a word of the host. -/
inductive ByteOrder where
  | little
  | big
deriving DecidableEq

/- `ntohl`. -/
def ntohl
    (order : ByteOrder)
    (word : BitVec 32) : BitVec 32 :=
  match order with
  | .big => word
  | .little =>
      word.extractLsb' 0 8 ++ word.extractLsb' 8 8 ++
        word.extractLsb' 16 8 ++ word.extractLsb' 24 8

/- What the host and the C library supply. -/
structure Platform where
  byteOrder : ByteOrder
  inetAddr : List Char → BitVec 32
  inetNtoa : InAddr → List Char

/- `inet_ntoa` where the low byte comes first. -/
def dottedQuad (addr : InAddr) : List Char :=
  Nat.toDigits 10 (addr.sAddr.extractLsb' 0 8).toNat ++
    '.' :: Nat.toDigits 10
      (addr.sAddr.extractLsb' 8 8).toNat ++
    '.' :: Nat.toDigits 10
      (addr.sAddr.extractLsb' 16 8).toNat ++
    '.' :: Nat.toDigits 10 (addr.sAddr.extractLsb' 24 8).toNat

/- `inet_addr` on the texts of `dottedQuad`. -/
def ofDottedQuad (text : List Char) : BitVec 32 :=
  match (Scan.tokens '.' text).filterMap Scan.nat with
  | [(a, []), (b, []), (c, []), (d, [])] =>
      BitVec.ofNat 8 d ++ BitVec.ofNat 8 c ++
        BitVec.ofNat 8 b ++ BitVec.ofNat 8 a
  | _ => 0xFFFFFFFF

/- A little-endian host. -/
def littleEndian : Platform where
  byteOrder := .little
  inetAddr := ofDottedQuad
  inetNtoa := dottedQuad

------------------------------------------------------------
-- Databases
------------------------------------------------------------

/- `struct alto_db_element_t`: the fields for the user. -/
structure AltoDbElement where
  host : InAddr
  hostMask : Int
  rating : Int
deriving DecidableEq, Repr

/- `struct alto_db_t`: the elements from `first` on. -/
abbrev AltoDb := List AltoDbElement

/- `alto_add_element` appends. -/
def altoAddElement
    (db : AltoDb)
    (element : AltoDbElement) : AltoDb :=
  db ++ [element]

/- `alto_purge_db`. -/
def altoPurgeDb (_ : AltoDb) : AltoDb :=
  []

/- `ALTO_GUIDANCE_T`. -/
structure AltoGuidance where
  altoHost : InAddr
  prefixLength : Int
  rating : Int
deriving DecidableEq, Repr

/- `alto_parse_from_list`, from the first of the entries. -/
def altoParseFromList
    (db : AltoDb)
    (list : List AltoGuidance)
    (numOfElements : Int) : AltoDb :=
  (list.take numOfElements.toNat).foldl
    (fun db entry =>
      altoAddElement db
        { host := entry.altoHost
          hostMask := entry.prefixLength
          rating := 0 })
    db

------------------------------------------------------------
-- Ratings
------------------------------------------------------------

variable (p : Platform)

/- The mask of a prefix length, in network order. -/
def matchMask (prefixLength : Int) : BitVec 32 :=
  ntohl p.byteOrder
    ((0xFFFFFFFF : BitVec 32) <<< (32 - prefixLength).toNat)

/-
  `compute_subnet`, for prefix lengths from 1 to 32: C leaves
  a shift by 32 undefined.
-/
def computeSubnet
    (host : InAddr)
    (prefixLength : Int) : InAddr where
  sAddr := host.sAddr &&& matchMask p prefixLength

/- `ask_helper_func`. -/
def askHelperFunc
    (subnet : InAddr)
    (db : AltoDb) : Int :=
  match db.find? (fun cur => subnet = cur.host) with
  | some cur => cur.rating
  | none => 0

/-
  The loop of `get_alto_rating`.  Where nothing is found the
  next subnet has the mask before it is decremented, so the
  first subnet is looked up twice.
-/
def getAltoRatingLoop
    (host : InAddr)
    (db : AltoDb) : Nat → InAddr → Int → Int
| 0, _, _ => 0
| i + 1, subnet, mask =>
    if askHelperFunc subnet db = 0 then
      getAltoRatingLoop host db i (computeSubnet p host mask)
        (mask - 1)
    else
      askHelperFunc subnet db

/- `get_alto_rating`. -/
def getAltoRating
    (element : AltoDbElement)
    (db : AltoDb) : Int :=
  getAltoRatingLoop p element.host db element.hostMask.toNat
    (computeSubnet p element.host element.hostMask)
    element.hostMask

/- `alto_do_the_magic`. -/
def altoDoTheMagic
    (dbReq dbRes : AltoDb) : AltoDb :=
  dbReq.map fun cur =>
    { cur with rating := getAltoRating p cur dbRes }

/- `get_ALTO_rating_for_host`; the database may be missing. -/
def getALTORatingForHost
    (add : InAddr)
    (db : Option AltoDb) : Int :=
  if add.sAddr = 0 then
    0
  else
    match db with
    | none => 0
    | some db =>
        match db.find? (fun cur => cur.host = add) with
        | some cur => cur.rating
        | none => 0

end ALTO

end NapaBaselibs
