import NapaBaselibs.Lib.Runs
import NapaBaselibs.ALTO.ReplyXML

/-
  `ALTOclient.c`: requests to the server, and the calls of the
  client that wait for the reply or start a thread for it.

  A server is what it makes of a request; it may fail.  The
  list of the caller is part of a call.  A call that writes
  behind a buffer has no result.

  Key definitions include:
    * `altoCreateRequestXML`, `doALTOUpdate`
    * `getALTOGuidanceForList`
    * `altoQueryExec`, `altoQueryThreadFunc`
    * `Call`, `CallStep`
-/

------------------------------------------------------------
-- Requests
------------------------------------------------------------

namespace NapaBaselibs

namespace ALTO

def relPref : Int := 1

def topDist : Int := 2

def minBoun : Int := 4

/- `%d`. -/
def formatD (n : Int) : List Char :=
  (if n < 0 then ['-'] else []) ++ Nat.toDigits 10 n.natAbs

/- A criterion as an attribute. -/
def critProp (text : String) : String × List Char :=
  ("crit", text.toList)

/- The attribute of `pri_ratcrit`, if there is one. -/
def priRatcritProps
    (priRat : Int) : List (String × List Char) :=
  if priRat = relPref then
    [critProp "pref"]
  else if priRat = topDist then
    [critProp "dist"]
  else if priRat = minBoun then
    [critProp "lat"]
  else
    []

/- A bit of the secondary criteria. -/
def furRatcrit
    (secRat criterion : Int)
    (text : String) : List (Forest XmlNode) :=
  if BitVec.ofInt 32 secRat &&& BitVec.ofInt 32 criterion =
      BitVec.ofInt 32 criterion then
    [Forest.node ⟨"fur_ratcrit", [critProp text], []⟩ []]
  else
    []

def ipprefixNode
    (prefixText : List Char) : Forest XmlNode :=
  Forest.node
    ⟨"ipprefix",
      [("version", ['4']), ("prefix", prefixText)], []⟩
    []

variable (p : Platform)

/- `alto_create_request_XML`. -/
def altoCreateRequestXML
    (db : AltoDb)
    (rcHost : InAddr)
    (priRat secRat : Int) : Forest XmlNode :=
  Forest.node
    ⟨"alto",
      [("xmlns", "urn:ietf:params:xml:ns:p2p:alto".toList)],
      []⟩
    [Forest.node
      ⟨"group_rating_request",
        [("db_version", "1234".toList)], []⟩
      (Forest.node
          ⟨"pri_ratcrit", priRatcritProps priRat, []⟩ [] ::
        (furRatcrit secRat relPref "pref" ++
          furRatcrit secRat topDist "dist" ++
          furRatcrit secRat minBoun "lat" ++
          [Forest.node ⟨"rc_hla", [], []⟩
              [ipprefixNode
                (p.inetNtoa rcHost ++ "/32".toList)],
            Forest.node ⟨"cnd_hla", [], []⟩
              (db.map fun cur =>
                ipprefixNode
                  (p.inetNtoa cur.host ++
                    '/' :: formatD cur.hostMask))]))]

------------------------------------------------------------
-- The Client
------------------------------------------------------------

/- `ALTO_DB_req` and `ALTO_DB_res`. -/
structure Databases where
  req : AltoDb
  res : AltoDb
deriving DecidableEq

inductive QueryState where
  | ready
  | inProgress
deriving DecidableEq

/- `ALTO_ThreadArgs_t`; the list is that of the caller. -/
structure ThreadArgs where
  list : Option (List AltoGuidance)
  num : Int
  rcHost : InAddr
  priRat : Int
  secRat : Int
deriving DecidableEq

/- The static variables; no databases before the start. -/
structure Client where
  databases : Option Databases
  queryState : QueryState
  threadArgs : ThreadArgs
deriving DecidableEq

/- Static variables are zero. -/
def Client.initial : Client where
  databases := none
  queryState := .ready
  threadArgs :=
    { list := none
      num := 0
      rcHost := { sAddr := 0 }
      priRat := 0
      secRat := 0 }

/- `start_ALTO_client`. -/
def startALTOClient (client : Client) : Client :=
  { client with databases := some { req := [], res := [] } }

/- What the server makes of a request, if it answers. -/
abbrev Server := Forest XmlNode → Option (Forest XmlNode)

/- What the environment brings to a call. -/
structure Surroundings where
  server : Server
  stale : Nat → Stale

/- The arguments of a query. -/
structure Query where
  list : Option (List AltoGuidance)
  num : Int
  rcHost : InAddr
  priRat : Int
  secRat : Int

/-
  What a call leaves: the request it has sent, and, unless it
  writes behind a buffer, the client and the list.
-/
structure Left where
  request : Option (Forest XmlNode)
  after : Option (Client × Option (List AltoGuidance))
deriving DecidableEq

------------------------------------------------------------
-- Updates
------------------------------------------------------------

/- `ALTO_DB_req` before the request is made. -/
def fillRequest
    (list : List AltoGuidance)
    (num : Int)
    (client : Client) : Client :=
  { client with
    databases :=
      client.databases.map fun databases =>
        { databases with
          req :=
            altoParseFromList (altoPurgeDb databases.req)
              list num } }

/-
  `do_ALTO_update`: the request sent, and the client after it.
  The parse of a reply ends within as many steps as the reply
  has nodes.
-/
def doALTOUpdate
    (around : Surroundings)
    (rcHost : InAddr)
    (priRat secRat : Int)
    (client : Client) :
    Option (Forest XmlNode) × Option Client :=
  match client.databases with
  | none => (none, some client)
  | some databases =>
      let request :=
        altoCreateRequestXML p databases.req rcHost priRat
          secRat
      match around.server request with
      | none =>
          (some request,
            some
              { client with
                databases :=
                  some
                    { databases with
                      res := altoPurgeDb databases.res } })
      | some reply =>
          match
            altoParseFromXML p around.stale
              reply.labels.length databases.res reply with
          | some (.done res) =>
              (some request,
                some
                  { client with
                    databases :=
                      some
                        { req :=
                            altoDoTheMagic p databases.req res
                          res := altoPurgeDb res } })
          | _ => (some request, none)

/- The loop that writes the ratings back. -/
def writeBack
    (databases : Option Databases)
    (num : Int)
    (list : List AltoGuidance) : List AltoGuidance :=
  (list.take num.toNat).map
      (fun entry =>
        { entry with
          rating :=
            getALTORatingForHost entry.altoHost
              (databases.map Databases.req) }) ++
    list.drop num.toNat

/- An update and the ratings written back behind it. -/
def updateAndWriteBack
    (around : Surroundings)
    (list : Option (List AltoGuidance))
    (num : Int)
    (rcHost : InAddr)
    (priRat secRat : Int)
    (client : Client) : Left :=
  let update :=
    doALTOUpdate p around rcHost priRat secRat client
  { request := update.1
    after :=
      update.2.map fun client =>
        (client, list.map (writeBack client.databases num)) }

/- `get_ALTO_guidance_for_list`. -/
def getALTOGuidanceForList
    (around : Surroundings)
    (query : Query)
    (client : Client) : Left :=
  match query.list with
  | none =>
      { request := none
        after := some (client, none) }
  | some list =>
      if query.num < 0 then
        { request := none
          after := some (client, some list) }
      else
        updateAndWriteBack p around (some list) query.num
          query.rcHost query.priRat query.secRat
          (fillRequest list query.num client)

------------------------------------------------------------
-- Threads
------------------------------------------------------------

/-
  `ALTO_query_exec`, and whether the thread is started.  The
  answer of `pthread_create` comes from outside.
-/
def altoQueryExec
    (created : Bool)
    (query : Query)
    (client : Client) : Client × Bool :=
  match query.list with
  | none => (client, false)
  | some list =>
      if query.num < 0 then
        (client, false)
      else if client.queryState = .inProgress then
        (client, false)
      else
        let client :=
          fillRequest list query.num
            { client with queryState := .inProgress }
        let client :=
          { client with
            threadArgs :=
              { client.threadArgs with
                list := some list
                num := query.num } }
        if created then
          (client, true)
        else
          ({ client with queryState := .ready }, false)

/- `alto_query_thread_func`, on `threadArgs`. -/
def altoQueryThreadFunc
    (around : Surroundings)
    (client : Client) : Left :=
  let args := client.threadArgs
  let left :=
    updateAndWriteBack p around args.list args.num args.rcHost
      args.priRat args.secRat client
  { left with
    after :=
      left.after.map fun after =>
        ({ after.1 with queryState := .ready }, after.2) }

/- A threaded query up to the completion of its thread. -/
def threadedQuery
    (created : Bool)
    (around : Surroundings)
    (query : Query)
    (client : Client) : Left :=
  let executed := altoQueryExec created query client
  if executed.2 then
    altoQueryThreadFunc p around executed.1
  else
    { request := none
      after := some (executed.1, query.list) }

------------------------------------------------------------
-- Sequences Of Calls
------------------------------------------------------------

inductive Call where
  | start
  | update
      (around : Surroundings)
      (rcHost : InAddr)
      (priRat secRat : Int)
  | guidance
      (around : Surroundings)
      (query : Query)
  | threaded
      (created : Bool)
      (around : Surroundings)
      (query : Query)

/- What a call leaves. -/
def Call.run
    (call : Call)
    (client : Client) :
    Option (Forest XmlNode) × Option Client :=
  match call with
  | .start => (none, some (startALTOClient client))
  | .update around rcHost priRat secRat =>
      doALTOUpdate p around rcHost priRat secRat client
  | .guidance around query =>
      let left := getALTOGuidanceForList p around query client
      (left.request, left.after.map Prod.fst)
  | .threaded created around query =>
      let left := threadedQuery p created around query client
      (left.request, left.after.map Prod.fst)

/- One call after the other; the output is the request. -/
def CallStep
    (client : Client)
    (call : Call)
    (requests : List (Forest XmlNode))
    (client' : Client) : Prop :=
  call.run p client = (requests.head?, some client') ∧
    requests.length ≤ 1

end ALTO

end NapaBaselibs
