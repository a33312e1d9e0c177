import NapaBaselibs.ALTO.Client
import NapaBaselibs.ALTO.ReplyComplete

/-
  The threaded query and the one that waits.

  `ALTO_query_exec` stores the list in the arguments of its
  thread, but not the host and the criteria.  These stay 0
  in every run, so the request of the thread differs from the
  one asked for whenever one is sent.

  Key definitions include:
    * `Unset`
    * `SameQuery`

  Key theorems include:
    * `unset_of_run`
    * `threadedQuery_eq`
    * `threaded_query_same_iff`
-/

------------------------------------------------------------
-- Arguments Never Stored
------------------------------------------------------------

namespace NapaBaselibs

namespace ALTO

variable {p : Platform}

/- No thread runs, and its arguments are as at the start. -/
structure Unset (client : Client) : Prop where
  ready : client.queryState = .ready
  rcHost : client.threadArgs.rcHost = { sAddr := 0 }
  priRat : client.threadArgs.priRat = 0
  secRat : client.threadArgs.secRat = 0

theorem unset_initial : Unset Client.initial where
  ready := rfl
  rcHost := rfl
  priRat := rfl
  secRat := rfl

/- An update changes the databases only. -/
theorem doALTOUpdate_frame
    {around : Surroundings}
    {rcHost : InAddr}
    {priRat secRat : Int}
    {client client' : Client}
    (hUpdate :
      (doALTOUpdate p around rcHost priRat secRat client).2 =
        some client') :
    client'.queryState = client.queryState ∧
      client'.threadArgs = client.threadArgs := by
  unfold doALTOUpdate at hUpdate
  cases hDatabases : client.databases with
  | none =>
      rw [hDatabases] at hUpdate
      rw [← Option.some.inj hUpdate]
      exact ⟨rfl, rfl⟩
  | some databases =>
      rw [hDatabases] at hUpdate
      simp only at hUpdate
      split at hUpdate
      · rw [← Option.some.inj hUpdate]
        exact ⟨rfl, rfl⟩
      · split at hUpdate
        · rw [← Option.some.inj hUpdate]
          exact ⟨rfl, rfl⟩
        · cases hUpdate

theorem updateAndWriteBack_frame
    {around : Surroundings}
    {list list' : Option (List AltoGuidance)}
    {num : Int}
    {rcHost : InAddr}
    {priRat secRat : Int}
    {client client' : Client}
    (hAfter :
      (updateAndWriteBack p around list num rcHost priRat
          secRat client).after =
        some (client', list')) :
    client'.queryState = client.queryState ∧
      client'.threadArgs = client.threadArgs := by
  unfold updateAndWriteBack at hAfter
  rcases Option.map_eq_some_iff.mp hAfter with
    ⟨updated, hUpdate, hEq⟩
  rw [← (Prod.mk.inj hEq).1]
  exact doALTOUpdate_frame hUpdate

/- A query that waits stores nothing. -/
theorem unset_guidance
    {around : Surroundings}
    {query : Query}
    {client client' : Client}
    {list : Option (List AltoGuidance)}
    (hUnset : Unset client)
    (hAfter :
      (getALTOGuidanceForList p around query client).after =
        some (client', list)) :
    Unset client' := by
  unfold getALTOGuidanceForList at hAfter
  split at hAfter
  · rw [← (Prod.mk.inj (Option.some.inj hAfter)).1]
    exact hUnset
  · split at hAfter
    · rw [← (Prod.mk.inj (Option.some.inj hAfter)).1]
      exact hUnset
    · rcases updateAndWriteBack_frame hAfter with
        ⟨hState, hArgs⟩
      refine ⟨?_, ?_, ?_, ?_⟩
      · rw [hState]
        exact hUnset.ready
      · rw [hArgs]
        exact hUnset.rcHost
      · rw [hArgs]
        exact hUnset.priRat
      · rw [hArgs]
        exact hUnset.secRat

/- The static variables with which a thread is started. -/
def executing
    (list : List AltoGuidance)
    (num : Int)
    (client : Client) : Client :=
  let client :=
    fillRequest list num
      { client with queryState := .inProgress }
  { client with
    threadArgs :=
      { client.threadArgs with
        list := some list
        num := num } }

/- A threaded query that is not refused. -/
theorem threadedQuery_eq
    {list : List AltoGuidance}
    {query : Query}
    {client : Client}
    (hUnset : Unset client)
    (hList : query.list = some list)
    (hNum : ¬ query.num < 0)
    (around : Surroundings) :
    threadedQuery p true around query client =
      altoQueryThreadFunc p around
        (executing list query.num client) := by
  unfold threadedQuery altoQueryExec
  simp only [hList, if_neg hNum, hUnset.ready, reduceCtorEq,
    if_false, if_true]
  rfl

/- Neither does a threaded one, but for the list. -/
theorem unset_threadedQuery
    {created : Bool}
    {around : Surroundings}
    {query : Query}
    {client client' : Client}
    {list : Option (List AltoGuidance)}
    (hUnset : Unset client)
    (hAfter :
      (threadedQuery p created around query client).after =
        some (client', list)) :
    Unset client' := by
  cases hList : query.list with
  | none =>
      simp only [threadedQuery, altoQueryExec, hList,
        Bool.false_eq_true, if_false, Option.some.injEq,
        Prod.mk.injEq] at hAfter
      rw [← hAfter.1]
      exact hUnset
  | some given =>
      by_cases hNum : query.num < 0
      · simp only [threadedQuery, altoQueryExec, hList,
          if_pos hNum, Bool.false_eq_true, if_false,
          Option.some.injEq, Prod.mk.injEq] at hAfter
        rw [← hAfter.1]
        exact hUnset
      · cases created with
        | false =>
            simp only [threadedQuery, altoQueryExec, hList,
              if_neg hNum, hUnset.ready, reduceCtorEq,
              Bool.false_eq_true, if_false,
              Option.some.injEq, Prod.mk.injEq] at hAfter
            rw [← hAfter.1]
            exact
              ⟨rfl, hUnset.rcHost, hUnset.priRat,
                hUnset.secRat⟩
        | true =>
            rw [threadedQuery_eq hUnset hList hNum] at hAfter
            unfold altoQueryThreadFunc at hAfter
            rcases Option.map_eq_some_iff.mp hAfter with
              ⟨⟨updated, written⟩, hUpdated, hEq⟩
            rcases updateAndWriteBack_frame hUpdated with
              ⟨_, hArgs⟩
            rw [← (Prod.mk.inj hEq).1]
            refine ⟨rfl, ?_, ?_, ?_⟩
            · simp only [hArgs]
              exact hUnset.rcHost
            · simp only [hArgs]
              exact hUnset.priRat
            · simp only [hArgs]
              exact hUnset.secRat

/- So the arguments are unset after every call. -/
theorem unset_of_step
    {client client' : Client}
    {call : Call}
    {requests : List (Forest XmlNode)}
    (hStep : CallStep p client call requests client')
    (hUnset : Unset client) :
    Unset client' := by
  have hAfter : (call.run p client).2 = some client' :=
    congrArg Prod.snd hStep.1
  cases call with
  | start =>
      rw [← Option.some.inj hAfter]
      exact
        ⟨hUnset.ready, hUnset.rcHost, hUnset.priRat,
          hUnset.secRat⟩
  | update around rcHost priRat secRat =>
      rcases doALTOUpdate_frame hAfter with ⟨hState, hArgs⟩
      refine ⟨hState.trans hUnset.ready, ?_, ?_, ?_⟩
      · rw [hArgs]
        exact hUnset.rcHost
      · rw [hArgs]
        exact hUnset.priRat
      · rw [hArgs]
        exact hUnset.secRat
  | guidance around query =>
      rcases Option.map_eq_some_iff.mp hAfter with
        ⟨⟨after, list⟩, hLeft, hEq⟩
      rw [← hEq]
      exact unset_guidance hUnset hLeft
  | threaded created around query =>
      rcases Option.map_eq_some_iff.mp hAfter with
        ⟨⟨after, list⟩, hLeft, hEq⟩
      rw [← hEq]
      exact unset_threadedQuery hUnset hLeft

theorem unset_of_run
    {client : Client}
    {trace :
      List (Transition Client Call (Forest XmlNode))}
    (hRun : Run (CallStep p) Client.initial trace client) :
    Unset client := by
  refine Run.invariant ?_ hRun unset_initial
  intro s call requests s' hStep hUnset
  exact unset_of_step hStep hUnset

------------------------------------------------------------
-- Requests
------------------------------------------------------------

/- The attribute of the primary criterion of a request. -/
theorem request_priRatcrit
    (db : AltoDb)
    (rcHost : InAddr)
    (priRat secRat : Int) :
    ∃ rest,
      (altoCreateRequestXML p db rcHost priRat
          secRat).children.children =
        .cons ⟨"pri_ratcrit", priRatcritProps priRat, []⟩ .nil
          rest :=
  ⟨_, rfl⟩

/- Requests with another primary criterion differ. -/
theorem request_ne
    {priRat priRat' : Int}
    (hProps :
      priRatcritProps priRat ≠ priRatcritProps priRat')
    (db db' : AltoDb)
    (rcHost rcHost' : InAddr)
    (secRat secRat' : Int) :
    altoCreateRequestXML p db rcHost priRat secRat ≠
      altoCreateRequestXML p db' rcHost' priRat' secRat' := by
  intro hEq
  rcases request_priRatcrit (p := p) db rcHost priRat secRat
    with ⟨rest, hFirst⟩
  rcases
    request_priRatcrit (p := p) db' rcHost' priRat' secRat'
    with ⟨rest', hSecond⟩
  rw [hEq, hSecond] at hFirst
  have hNode := (Forest.cons.inj hFirst).1
  exact hProps (XmlNode.mk.inj hNode).2.1.symm

/- A valid criterion has an attribute, and 0 has none. -/
theorem priRatcritProps_ne_zero
    {priRat : Int}
    (hPri :
      priRat = relPref ∨ priRat = topDist ∨
        priRat = minBoun) :
    priRatcritProps priRat ≠ priRatcritProps 0 := by
  rcases hPri with hEq | hEq | hEq
  · rw [hEq]
    decide
  · rw [hEq]
    decide
  · rw [hEq]
    decide

/- With databases an update sends its request. -/
theorem doALTOUpdate_request
    {databases : Databases}
    {client : Client}
    (hDatabases : client.databases = some databases)
    (around : Surroundings)
    (rcHost : InAddr)
    (priRat secRat : Int) :
    (doALTOUpdate p around rcHost priRat secRat client).1 =
      some
        (altoCreateRequestXML p databases.req rcHost priRat
          secRat) := by
  unfold doALTOUpdate
  simp only [hDatabases]
  split
  · rfl
  · split
    · rfl
    · rfl

/- Without them it does nothing. -/
theorem doALTOUpdate_none
    {client : Client}
    (hDatabases : client.databases = none)
    (around : Surroundings)
    (rcHost : InAddr)
    (priRat secRat : Int) :
    doALTOUpdate p around rcHost priRat secRat client =
      (none, some client) := by
  unfold doALTOUpdate
  rw [hDatabases]

------------------------------------------------------------
-- The Two Queries
------------------------------------------------------------

variable (p)

/-
  The threaded query sends the same request as the one that
  waits, and leaves the same list.
-/
def SameQuery
    (around : Surroundings)
    (query : Query)
    (client : Client) : Prop :=
  (threadedQuery p true around query client).request =
      (getALTOGuidanceForList p around query client).request ∧
    (threadedQuery p true around query client).after.map
        Prod.snd =
      (getALTOGuidanceForList p around query client).after.map
        Prod.snd

variable {p}

/- A query that is refused leaves the list. -/
theorem sameQuery_of_refused
    {query : Query}
    (hRefused : query.list = none ∨ query.num < 0)
    (around : Surroundings)
    (client : Client) :
    SameQuery p around query client := by
  unfold SameQuery threadedQuery altoQueryExec
    getALTOGuidanceForList
  cases hList : query.list with
  | none => exact ⟨rfl, rfl⟩
  | some list =>
      have hNum : query.num < 0 := by
        rcases hRefused with hNone | hNum
        · rw [hList] at hNone
          cases hNone
        · exact hNum
      simp only [if_pos hNum, Bool.false_eq_true, if_false,
        Option.map_some, and_self]

/- Before the start all ratings are 0. -/
theorem sameQuery_of_not_started
    {query : Query}
    {client : Client}
    (hUnset : Unset client)
    (hDatabases : client.databases = none)
    (around : Surroundings) :
    SameQuery p around query client := by
  cases hList : query.list with
  | none => exact sameQuery_of_refused (.inl hList) _ _
  | some list =>
      by_cases hNum : query.num < 0
      · exact sameQuery_of_refused (.inr hNum) _ _
      · have hFilled :
            (fillRequest list query.num client).databases =
              none := by
          unfold fillRequest
          rw [hDatabases]
          rfl
        have hExecuting :
            (executing list query.num client).databases =
              none := by
          unfold executing fillRequest
          rw [hDatabases]
          rfl
        unfold SameQuery
        rw [threadedQuery_eq hUnset hList hNum]
        unfold getALTOGuidanceForList altoQueryThreadFunc
        simp only [hList, if_neg hNum, updateAndWriteBack,
          doALTOUpdate_none hFilled,
          doALTOUpdate_none hExecuting, Option.map_some,
          hFilled, hExecuting, true_and]
        rfl

/-
  After every sequence of calls, and for valid criteria, the
  two queries are the same exactly when the query is refused
  or the client has not been started.
-/
theorem threaded_query_same_iff
    {client : Client}
    {trace :
      List (Transition Client Call (Forest XmlNode))}
    {query : Query}
    (hRun : Run (CallStep p) Client.initial trace client)
    (hPri :
      query.priRat = relPref ∨ query.priRat = topDist ∨
        query.priRat = minBoun)
    (around : Surroundings) :
    SameQuery p around query client ↔
      query.list = none ∨ query.num < 0 ∨
        client.databases = none := by
  have hUnset := unset_of_run hRun
  constructor
  · intro hSame
    by_contra hNot
    simp only [not_or] at hNot
    rcases hNot with ⟨hList, hNum, hStarted⟩
    rcases Option.ne_none_iff_exists'.mp hList with
      ⟨list, hList⟩
    rcases Option.ne_none_iff_exists'.mp hStarted with
      ⟨databases, hDatabases⟩
    have hFilled :
        (fillRequest list query.num client).databases =
          some
            { databases with
              req :=
                altoParseFromList
                  (altoPurgeDb databases.req) list
                  query.num } := by
      unfold fillRequest
      rw [hDatabases]
      rfl
    have hRequest := hSame.1
    rw [threadedQuery_eq hUnset hList hNum] at hRequest
    unfold getALTOGuidanceForList altoQueryThreadFunc
      updateAndWriteBack at hRequest
    simp only [hList, if_neg hNum,
      doALTOUpdate_request hFilled] at hRequest
    have hExecuting :
        (executing list query.num client).databases =
          (fillRequest list query.num client).databases := rfl
    rw [doALTOUpdate_request (hExecuting.trans hFilled)]
      at hRequest
    have hPriRat :
        (executing list query.num client).threadArgs.priRat =
          0 :=
      hUnset.priRat
    rw [hPriRat] at hRequest
    exact
      request_ne (priRatcritProps_ne_zero hPri) _ _ _ _ _ _
        (Option.some.inj hRequest).symm
  · rintro (hList | hNum | hDatabases)
    · exact sameQuery_of_refused (.inl hList) _ _
    · exact sameQuery_of_refused (.inr hNum) _ _
    · exact sameQuery_of_not_started hUnset hDatabases _

------------------------------------------------------------
-- A First Query
------------------------------------------------------------

/- A server that does not answer. -/
def noServer : Surroundings where
  server := fun _ => none
  stale := noStale

/- 10.0.0.5/32, for 10.0.0.2 by preference and distance. -/
def tenQuery : Query where
  list :=
    some
      [{ altoHost := { sAddr := 0x0500000A }
         prefixLength := 32
         rating := 0 }]
  num := 1
  rcHost := { sAddr := 0x0200000A }
  priRat := relPref
  secRat := topDist

/- A started client. -/
theorem start_step :
    CallStep littleEndian Client.initial .start []
      (startALTOClient Client.initial) :=
  ⟨rfl, Nat.zero_le _⟩

theorem threaded_query_same_iff_first :
    SameQuery littleEndian noServer tenQuery
        (startALTOClient Client.initial) ↔
      tenQuery.list = none ∨ tenQuery.num < 0 ∨
        (startALTOClient Client.initial).databases = none :=
  threaded_query_same_iff
    (.cons start_step (.nil _)) (.inl rfl) noServer

/- The thread asks for no host and without criteria. -/
theorem thread_forgets_criteria :
    CallStep littleEndian Client.initial .start []
        (startALTOClient Client.initial) ∧
      (getALTOGuidanceForList littleEndian noServer tenQuery
          (startALTOClient Client.initial)).request =
        some
          (altoCreateRequestXML littleEndian
            [{ host := { sAddr := 0x0500000A }
               hostMask := 32
               rating := 0 }]
            { sAddr := 0x0200000A } relPref topDist) ∧
      (threadedQuery littleEndian true noServer tenQuery
          (startALTOClient Client.initial)).request =
        some
          (altoCreateRequestXML littleEndian
            [{ host := { sAddr := 0x0500000A }
               hostMask := 32
               rating := 0 }]
            { sAddr := 0 } 0 0) ∧
      ¬ SameQuery littleEndian noServer tenQuery
          (startALTOClient Client.initial) := by
  refine ⟨start_step, rfl, rfl, ?_⟩
  rintro ⟨hRequest, _⟩
  exact
    request_ne (by decide) _ _ _ _ _ _
      (Option.some.inj hRequest)

end ALTO

end NapaBaselibs
