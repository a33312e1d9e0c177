import NapaBaselibs.Lib.Forest
import NapaBaselibs.ALTO.Database

/-
  `ALTOclient.c`: reading a reply into a database.

  A document is the forest from its root element on, so that
  the pointers of a node are those of `Cursor`; the parent of
  the root element is the document, which has no sibling.  Of
  the output for debugging only the lines with a status are
  kept, which need not fit where they are written.

  Key definitions include:
    * `XmlNode`, `xmlGetProp`
    * `getALTOHostIP`, `getALTOHostMask`
    * `statusLines`, `XmlNode.Printable`
    * `advance`, `visit`, `altoParseFromXML`
-/

------------------------------------------------------------
-- Nodes
------------------------------------------------------------

namespace NapaBaselibs

namespace ALTO

/-
  An `xmlNode` without its pointers, and the text among its
  children as `xmlNodeListGetString` joins it.
-/
structure XmlNode where
  name : String
  props : List (String × List Char)
  text : List Char
deriving DecidableEq, Repr

/- `xmlGetProp`. -/
def xmlGetProp
    (node : XmlNode)
    (prop : String) : Option (List Char) :=
  (node.props.find? (fun entry => entry.1 = prop)).map
    Prod.snd

------------------------------------------------------------
-- Hosts
------------------------------------------------------------

/- What a call finds in memory that it has not written. -/
structure Stale where
  beyond : List Char
  indeterminate : InAddr

/- A write behind the end of a buffer. -/
inductive Fault where
  | fault
deriving DecidableEq, Repr

variable (p : Platform)

/-
  `get_ALTO_host_IP`.  The copy of the string has no end, so
  the slash is also searched for behind it.
-/
def getALTOHostIP
    (stale : Stale)
    (hostString : List Char) : InAddr :=
  let strBuff := hostString ++ stale.beyond
  if '/' ∈ strBuff then
    { sAddr :=
        p.inetAddr (strBuff.takeWhile (fun c => c ≠ '/')) }
  else if p.inetAddr hostString ≠ 0xFFFFFFFF then
    { sAddr := p.inetAddr hostString }
  else
    stale.indeterminate

/- `atoi`: `strtol` in 64 bits, then 32 of them. -/
def atoi (text : List Char) : Int :=
  match Scan.int text with
  | some (n, _) =>
      (max (-2 ^ 63) (min n (2 ^ 63 - 1))).bmod (2 ^ 32)
  | none => 0

/-
  `get_ALTO_host_mask`, with a buffer of 256 characters: a
  string of exactly 256 has no end in it.
-/
def getALTOHostMask
    (stale : Stale)
    (hostString : List Char) : Except Fault Int :=
  if 256 < hostString.length then
    .error .fault
  else
    let strBuff :=
      if hostString.length < 256 then
        hostString
      else
        hostString ++ stale.beyond
    match strBuff.dropWhile (fun c => c ≠ '/') with
    | [] => .ok 32
    | _ :: result => .ok ((atoi result).bmod (2 ^ 16))

------------------------------------------------------------
-- The Loop
------------------------------------------------------------

/-
  Where the loop goes from a node: three tests one after the
  other, each on the node the one before has moved to.
-/
def advance {α : Type} (cur : Cursor α) : Cursor α :=
  let cur :=
    if !cur.here.children.isNil then cur.children else cur
  let cur :=
    if cur.here.children.isNil && !cur.here.next.isNil then
      cur.next
    else
      cur
  if cur.here.children.isNil && cur.here.next.isNil then
    cur.parentNext
  else
    cur

/- The local variables of the loop, and the database. -/
structure ParseState where
  overallRating : Option (List Char)
  db : AltoDb
deriving DecidableEq

/- How the body of the loop ends at a node. -/
inductive Visited where
  | next (state : ParseState)
  | broken (db : AltoDb)
  | fault

/- `overall_rating`, or the default of a rating. -/
def ratingOf (overallRating : Option (List Char)) : Int :=
  match overallRating with
  | some text => atoi text
  | none => 0

/- The lines with a status that are printed at a node. -/
def statusLines (node : XmlNode) : List (List Char) :=
  if node.name = "group_rating_reply" then
    match xmlGetProp node "statuscode" with
    | none => []
    | some statusCode =>
        ["*** ALTO reply statuscode = ".toList ++
          statusCode ++ ['\n']]
  else if node.name = "statustext" then
    ["*** ALTO reply statustext = '".toList ++
      node.text ++ ['\'', '\n']]
  else
    []

/-
  `alto_debugf` has room for them, with the end of each, in
  1024 characters.
-/
def XmlNode.Printable (node : XmlNode) : Prop :=
  ∀ line ∈ statusLines node, line.length < 1024

instance (node : XmlNode) : Decidable node.Printable :=
  inferInstanceAs
    (Decidable (∀ line ∈ statusLines node, _ < _))

/-
  The body of the loop.  What is stale may differ between
  two elements, so it depends on how many there are.
-/
def visit
    (stale : Nat → Stale)
    (node : XmlNode)
    (state : ParseState) : Visited :=
  if node.Printable then
    let state :=
      if node.name = "cnd_hla" then
        { state with
          overallRating := xmlGetProp node "overall_rating" }
      else
        state
    if node.name = "ipprefix" then
      match xmlGetProp node "prefix" with
      | none => .broken state.db
      | some ipprefix =>
          let stale := stale state.db.length
          match getALTOHostMask stale ipprefix with
          | .error _ => .fault
          | .ok hostMask =>
              .next
                { state with
                  db :=
                    altoAddElement state.db
                      { host := getALTOHostIP p stale ipprefix
                        hostMask := hostMask
                        rating :=
                          ratingOf state.overallRating } }
    else
      .next state
  else
    .fault

/- How the parse ends. -/
inductive Parsed where
  | done (db : AltoDb)
  | fault
deriving DecidableEq

/- The loop; `none` if the fuel does not reach its end. -/
def parseLoop
    (stale : Nat → Stale) :
    Nat → Cursor XmlNode → ParseState → Option Parsed
| fuel, cur, state =>
    match cur.here with
    | .nil => some (.done state.db)
    | .cons node _ _ =>
        match fuel with
        | 0 => none
        | fuel + 1 =>
            match visit p stale node state with
            | .next state =>
                parseLoop stale fuel (advance cur) state
            | .broken db => some (.done db)
            | .fault => some .fault

/- `alto_parse_from_XML`. -/
def altoParseFromXML
    (stale : Nat → Stale)
    (fuel : Nat)
    (db : AltoDb)
    (doc : Forest XmlNode) : Option Parsed :=
  parseLoop p stale fuel ⟨doc, []⟩
    { overallRating := none
      db := db }

end ALTO

end NapaBaselibs
