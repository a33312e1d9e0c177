import NapaBaselibs.ALTO.ReplyComplete
import NapaBaselibs.ALTO.Client

/-
  Which rating an entry of a guidance list gets.

  The rating of an entry is computed for its host and prefix,
  but it is written back by the host alone: every entry gets
  the rating of the first entry with its host, and the host
  0.0.0.0 gets none.

  Key definitions include:
    * `AltoGuidance.element`, `RatedAlike`

  Key theorems include:
    * `guidance_eq`
    * `guidance_positional_iff`
-/

------------------------------------------------------------
-- Entries
------------------------------------------------------------

namespace NapaBaselibs

namespace ALTO

/- The element of the request database for an entry. -/
def AltoGuidance.element
    (entry : AltoGuidance) : AltoDbElement where
  host := entry.altoHost
  hostMask := entry.prefixLength
  rating := 0

variable (p : Platform)

/-
  The ratings for the entries with one host agree where they
  are read: with that of the first of them, or with 0 if the
  host is 0.0.0.0.
-/
structure RatedAlike
    (res : AltoDb)
    (list : List AltoGuidance) : Prop where
  unset :
    ∀ entry ∈ list, entry.altoHost.sAddr = 0 →
      getAltoRating p entry.element res = 0
  repeated :
    ∀ entry ∈ list, entry.altoHost.sAddr ≠ 0 →
      ∀ first,
        list.find?
            (fun other => other.altoHost = entry.altoHost) =
          some first →
        getAltoRating p first.element res =
          getAltoRating p entry.element res

variable {p}

/- The entries of a list become elements in their order. -/
theorem altoParseFromList_eq
    (list : List AltoGuidance) :
    altoParseFromList [] list list.length =
      list.map AltoGuidance.element := by
  have hFold :
      ∀ (rest : List AltoGuidance) (db : AltoDb),
        rest.foldl
            (fun db entry => altoAddElement db entry.element)
            db =
          db ++ rest.map AltoGuidance.element := by
    intro rest
    induction rest with
    | nil => intro db; simp
    | cons entry rest ih =>
        intro db
        rw [List.foldl_cons, ih]
        simp [altoAddElement]
  unfold altoParseFromList
  rw [Int.toNat_natCast, List.take_length]
  exact hFold list []

/- What is written back for an entry. -/
theorem getALTORatingForHost_eq
    (res : AltoDb)
    (list : List AltoGuidance)
    (entry : AltoGuidance) :
    getALTORatingForHost entry.altoHost
        (some
          (altoDoTheMagic p
            (list.map AltoGuidance.element) res)) =
      if entry.altoHost.sAddr = 0 then
        0
      else
        match list.find?
            (fun other => other.altoHost = entry.altoHost) with
        | some first => getAltoRating p first.element res
        | none => 0 := by
  have hFind :
      (altoDoTheMagic p (list.map AltoGuidance.element)
          res).find?
          (fun cur => decide (cur.host = entry.altoHost)) =
        (list.find?
          (fun other =>
            decide (other.altoHost = entry.altoHost))).map
          (fun other =>
            { other.element with
              rating := getAltoRating p other.element res }) := by
    unfold altoDoTheMagic
    rw [List.map_map, List.find?_map]
    rfl
  unfold getALTORatingForHost
  simp only [hFind]
  cases list.find?
      (fun other =>
        decide (other.altoHost = entry.altoHost)) with
  | some first => rfl
  | none => rfl

------------------------------------------------------------
-- Guidance
------------------------------------------------------------

/- The list that a query leaves when the reply parses. -/
theorem guidance_eq
    {around : Surroundings}
    {client : Client}
    {databases : Databases}
    {list : List AltoGuidance}
    {rcHost : InAddr}
    {priRat secRat : Int}
    {request reply : Forest XmlNode}
    {res : AltoDb}
    (hStarted : client.databases = some databases)
    (hSent :
      (getALTOGuidanceForList p around
          ⟨some list, list.length, rcHost, priRat, secRat⟩
          client).request =
        some request)
    (hReply : around.server request = some reply)
    (hParses :
      altoParseFromXML p around.stale reply.labels.length
          databases.res reply =
        some (.done res)) :
    ∃ client',
      (getALTOGuidanceForList p around
          ⟨some list, list.length, rcHost, priRat, secRat⟩
          client).after =
        some
          (client',
            some
              (list.map (fun entry =>
                { entry with
                  rating :=
                    getALTORatingForHost entry.altoHost
                      (some
                        (altoDoTheMagic p
                          (list.map AltoGuidance.element)
                          res)) }))) := by
  have hNum : ¬ (list.length : Int) < 0 := by omega
  have hFilled :
      (fillRequest list list.length client).databases =
        some
          { databases with
            req := list.map AltoGuidance.element } := by
    simp [fillRequest, hStarted, altoPurgeDb,
      altoParseFromList_eq]
  simp only [getALTOGuidanceForList, if_neg hNum,
    updateAndWriteBack, doALTOUpdate, hFilled] at hSent ⊢
  have hRequest :
      altoCreateRequestXML p (list.map AltoGuidance.element)
          rcHost priRat secRat =
        request := by
    cases hAnswer :
        around.server
          (altoCreateRequestXML p
            (list.map AltoGuidance.element) rcHost priRat
            secRat) with
    | none =>
        rw [hAnswer] at hSent
        exact Option.some.inj hSent
    | some other =>
        simp only [hAnswer] at hSent
        split at hSent <;> exact Option.some.inj hSent
  simp only [hRequest, hReply, hParses, Option.map_some,
    writeBack, Int.toNat_natCast, List.take_length,
    List.drop_length, List.append_nil]
  exact ⟨_, rfl⟩

/-
  Every entry gets the rating for its own host and prefix
  just when the entries with one host are rated alike.
-/
theorem guidance_positional_iff
    {around : Surroundings}
    {client : Client}
    {databases : Databases}
    {list : List AltoGuidance}
    {rcHost : InAddr}
    {priRat secRat : Int}
    {request reply : Forest XmlNode}
    {res : AltoDb}
    (hStarted : client.databases = some databases)
    (hSent :
      (getALTOGuidanceForList p around
          ⟨some list, list.length, rcHost, priRat, secRat⟩
          client).request =
        some request)
    (hReply : around.server request = some reply)
    (hParses :
      altoParseFromXML p around.stale reply.labels.length
          databases.res reply =
        some (.done res)) :
    (∃ client' list',
        (getALTOGuidanceForList p around
            ⟨some list, list.length, rcHost, priRat, secRat⟩
            client).after =
          some (client', some list') ∧
          list' =
            list.map (fun entry =>
              { entry with
                rating :=
                  getAltoRating p entry.element res })) ↔
      RatedAlike p res list := by
  rcases guidance_eq hStarted hSent hReply hParses with
    ⟨after, hAfter⟩
  rw [hAfter]
  have hEach :
      (∃ client' list',
          some
              (after,
                some
                  (list.map (fun entry =>
                    { entry with
                      rating :=
                        getALTORatingForHost entry.altoHost
                          (some
                            (altoDoTheMagic p
                              (list.map
                                AltoGuidance.element)
                              res)) }))) =
            some (client', some list') ∧
          list' =
            list.map (fun entry =>
              { entry with
                rating :=
                  getAltoRating p entry.element res })) ↔
        ∀ entry ∈ list,
          getALTORatingForHost entry.altoHost
              (some
                (altoDoTheMagic p
                  (list.map AltoGuidance.element) res)) =
            getAltoRating p entry.element res := by
    constructor
    · rintro ⟨client', list', hEq, hList⟩
      cases hEq
      intro entry hIn
      have hSame := List.map_inj_left.mp hList entry hIn
      exact congrArg AltoGuidance.rating hSame
    · intro hAll
      refine ⟨after, _, rfl, List.map_inj_left.mpr ?_⟩
      intro entry hIn
      rw [hAll entry hIn]
  rw [hEach]
  constructor
  · intro hAll
    constructor
    · intro entry hIn hUnset
      rw [← hAll entry hIn, getALTORatingForHost_eq,
        if_pos hUnset]
    · intro entry hIn hSet first hFirst
      rw [← hAll entry hIn, getALTORatingForHost_eq,
        if_neg hSet, hFirst]
  · intro hAlike entry hIn
    rw [getALTORatingForHost_eq]
    by_cases hUnset : entry.altoHost.sAddr = 0
    · rw [if_pos hUnset]
      exact (hAlike.unset entry hIn hUnset).symm
    · rw [if_neg hUnset]
      cases hFirst :
          list.find?
            (fun other =>
              decide (other.altoHost = entry.altoHost)) with
      | some first =>
          exact hAlike.repeated entry hIn hUnset first hFirst
      | none =>
          have hNot := List.find?_eq_none.mp hFirst entry hIn
          simp at hNot

------------------------------------------------------------
-- Repeated Hosts
------------------------------------------------------------

/- The host 10.0.0.1 with a prefix length. -/
def tenOne (prefixLength : Int) : AltoGuidance where
  altoHost := { sAddr := 0x0100000A }
  prefixLength := prefixLength
  rating := 0

/- A server that rates 10.0.0.1 with 5. -/
def tenOneServer : Surroundings where
  server := fun _ =>
    some (replyWith [textNode] [prefixNode "10.0.0.1/32"])
  stale := noStale

/- What is known of a host from its address alone. -/
def tenOneRes : AltoDb :=
  [{ host := { sAddr := 0x0100000A }
     hostMask := 32
     rating := 5 }]

/- The host twice, and between them one that is not rated. -/
def tenOneTwice : List AltoGuidance :=
  [tenOne 32,
    { tenOne 32 with altoHost := { sAddr := 0x0300000A } },
    { tenOne 32 with rating := 9 }]

theorem guidance_positional_iff_twice :
    ∃ client' list',
      (getALTOGuidanceForList littleEndian tenOneServer
          ⟨some tenOneTwice, 3, { sAddr := 0x0200000A },
            relPref, topDist⟩
          (startALTOClient Client.initial)).after =
        some (client', some list') ∧
        list' =
          tenOneTwice.map (fun entry =>
            { entry with
              rating :=
                getAltoRating littleEndian entry.element
                  tenOneRes }) ∧
        list'.map AltoGuidance.rating = [5, 0, 5] := by
  have hAlike :
      RatedAlike littleEndian tenOneRes tenOneTwice :=
    ⟨by decide, by decide⟩
  rcases
    (guidance_positional_iff
      (show (startALTOClient Client.initial).databases = _
        from rfl)
      (show (getALTOGuidanceForList littleEndian tenOneServer
          ⟨some tenOneTwice, (tenOneTwice.length : Int),
            { sAddr := 0x0200000A }, relPref, topDist⟩
          (startALTOClient Client.initial)).request = some _
        from rfl)
      (show tenOneServer.server _ = some _ from rfl)
      (show _ = some (Parsed.done tenOneRes) by
        decide +kernel)).mpr
      hAlike with
    ⟨client', list', hAfter, hList⟩
  refine ⟨client', list', hAfter, hList, ?_⟩
  rw [hList]
  decide +kernel

/- The second entry gets the rating of the first. -/
theorem repeated_host_gets_first_rating :
    altoParseFromXML littleEndian noStale
        (replyWith [textNode]
          [prefixNode "10.0.0.1/32"]).labels.length []
        (replyWith [textNode] [prefixNode "10.0.0.1/32"]) =
      some (.done tenOneRes) ∧
    ((getALTOGuidanceForList littleEndian tenOneServer
          ⟨some [tenOne 32, tenOne 8], 2,
            { sAddr := 0x0200000A }, relPref, topDist⟩
          (startALTOClient Client.initial)).after.bind
        Prod.snd).map (List.map AltoGuidance.rating) =
      some [5, 5] ∧
    [tenOne 32, tenOne 8].map
        (fun entry =>
          getAltoRating littleEndian entry.element
            tenOneRes) =
      [5, 0] := by
  decide +kernel

end ALTO

end NapaBaselibs
