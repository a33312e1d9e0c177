import NapaBaselibs.ALTO.ReplyWalk

/-
  The elements that a reply leaves in the database.

  They answer the `ipprefix` nodes of the reply one for one
  exactly when the loop visits every one of these nodes, the
  last `cnd_hla` that it has visited before has the rating of
  the nearest enclosing one, and the prefix fits its buffer,
  as does every status that it visits.

  Key definitions include:
    * `groupedPrefixes`, `Answers`, `Complete`
    * `carried`, `AllReached`

  Key theorems include:
    * `answered_iff`
    * `reply_complete_iff`
-/

------------------------------------------------------------
-- Answers
------------------------------------------------------------

namespace NapaBaselibs

namespace ALTO

/-
  The `ipprefix` nodes in document order, each with the
  nearest `cnd_hla` around it.
-/
def groupedPrefixes :
    Option XmlNode → Forest XmlNode →
      List (XmlNode × Option XmlNode)
| _, .nil => []
| enclosing, .cons node children rest =>
    (if node.name = "ipprefix" then [(node, enclosing)]
      else []) ++
      (groupedPrefixes (enclosingIn node enclosing) children ++
        groupedPrefixes enclosing rest)

/- The rating of a group, and 0 outside of every group. -/
def groupRating (enclosing : Option XmlNode) : Int :=
  ratingOf
    (enclosing.bind
      (fun node => xmlGetProp node "overall_rating"))

variable (p : Platform)

/- The element of an `ipprefix` in its group. -/
structure Answers
    (grouped : XmlNode × Option XmlNode)
    (e : AltoDbElement) : Prop where
  read :
    ∃ (stale : Stale) ( ipprefix : List Char),
      xmlGetProp grouped.1 "prefix" = some ipprefix ∧
        e.host = getALTOHostIP p stale ipprefix ∧
        getALTOHostMask stale ipprefix = .ok e.hostMask
  rating : e.rating = groupRating grouped.2

/- One element is appended for each `ipprefix`, in order. -/
def Complete
    (stale : Nat → Stale)
    (fuel : Nat)
    (db : AltoDb)
    (doc : Forest XmlNode) : Prop :=
  ∃ elements,
    altoParseFromXML p stale fuel db doc =
        some (.done (db ++ elements)) ∧
      List.Forall₂ (Answers p) (groupedPrefixes none doc)
        elements

------------------------------------------------------------
-- The Condition
------------------------------------------------------------

/- `overall_rating` behind some nodes. -/
def carried
    (overallRating : Option (List Char))
    (before : List Spot) : Option (List Char) :=
  before.foldl
    (fun overallRating spot =>
      if spot.seen && spot.node.name = "cnd_hla" then
        xmlGetProp spot.node "overall_rating"
      else
        overallRating)
    overallRating

/- An `ipprefix` is visited, with the rating of its group. -/
structure Spot.Answered
    (spot : Spot)
    (overallRating : Option (List Char)) : Prop where
  seen : spot.seen = true
  rating :
    ratingOf overallRating = groupRating spot.enclosing
  fits :
    ∀ ipprefix, xmlGetProp spot.node "prefix" = some ipprefix →
      ipprefix.length ≤ 256

/-
  A node is passed: a status that is visited can be printed,
  and an `ipprefix` is answered.
-/
structure Spot.Passed
    (spot : Spot)
    (overallRating : Option (List Char)) : Prop where
  printable : spot.seen = true → spot.node.Printable
  answered :
    spot.node.name = "ipprefix" → spot.Answered overallRating

/- So is every node of the document. -/
def AllReached (doc : Forest XmlNode) : Prop :=
  ∀ before spot after,
    spots none .climbed doc = before ++ spot :: after →
      spot.Passed (carried none before)

/- The condition from a node on. -/
def AnsweredFrom :
    Option (List Char) → List Spot → Prop
| _, [] => True
| overallRating, spot :: rest =>
    spot.Passed overallRating ∧
      AnsweredFrom (carried overallRating [spot]) rest

theorem answeredFrom_iff
    (overallRating : Option (List Char))
    (spots : List Spot) :
    AnsweredFrom overallRating spots ↔
      ∀ before spot after, spots = before ++ spot :: after →
        spot.Passed (carried overallRating before) := by
  induction spots generalizing overallRating with
  | nil =>
      constructor
      · intro _ before spot after hEq
        cases before with
        | nil => cases hEq
        | cons first before => cases hEq
      · intro _
        exact trivial
  | cons spot rest ih =>
      unfold AnsweredFrom
      rw [ih]
      constructor
      · rintro ⟨hFirst, hRest⟩ before other after hEq
        cases before with
        | nil =>
            rcases List.cons.inj hEq with ⟨hSpot, _⟩
            rw [← hSpot]
            exact hFirst
        | cons first before =>
            rcases List.cons.inj hEq with ⟨hSpot, hAfter⟩
            rw [← hSpot]
            exact hRest before other after hAfter
      · intro hAll
        refine ⟨hAll [] spot rest rfl, ?_⟩
        intro before other after hEq
        exact
          hAll (spot :: before) other after
            (congrArg (List.cons spot) hEq)

------------------------------------------------------------
-- One Node
------------------------------------------------------------

variable {p}

/- `overall_rating` behind a node that is visited. -/
theorem carried_seen
    {spot : Spot}
    (hSeen : spot.seen = true)
    (overallRating : Option (List Char)) :
    carried overallRating [spot] =
      if spot.node.name = "cnd_hla" then
        xmlGetProp spot.node "overall_rating"
      else
        overallRating := by
  unfold carried
  simp only [List.foldl_cons, List.foldl_nil, hSeen,
    Bool.true_and, decide_eq_true_eq]

theorem carried_not_seen
    {spot : Spot}
    (hSeen : spot.seen = false)
    (overallRating : Option (List Char)) :
    carried overallRating [spot] = overallRating := by
  unfold carried
  simp only [List.foldl_cons, List.foldl_nil, hSeen,
    Bool.false_and, Bool.false_eq_true, if_false]

/- A status that does not fit is written behind the buffer. -/
theorem visit_unprintable
    {node : XmlNode}
    (hLong : ¬ node.Printable)
    (stale : Nat → Stale)
    (state : ParseState) :
    visit p stale node state = .fault :=
  if_neg hLong

/- An `ipprefix` has no status. -/
theorem printable_groupMember
    {node : XmlNode}
    (hName : node.name = "ipprefix") :
    node.Printable := by
  intro line hMem
  unfold statusLines at hMem
  rw [hName, if_neg (by decide), if_neg (by decide)] at hMem
  cases hMem

/- Another node than an `ipprefix` leaves the database. -/
theorem visit_other
    {node : XmlNode}
    (hName : node.name ≠ "ipprefix")
    (hPrintable : node.Printable)
    (stale : Nat → Stale)
    (state : ParseState) :
    visit p stale node state =
      .next
        { state with
          overallRating :=
            if node.name = "cnd_hla" then
              xmlGetProp node "overall_rating"
            else
              state.overallRating } := by
  unfold visit
  simp only [if_pos hPrintable, if_neg hName]
  by_cases hGroup : node.name = "cnd_hla"
  · rw [if_pos hGroup, if_pos hGroup]
  · rw [if_neg hGroup, if_neg hGroup]

/- A prefix that does not fit is written behind the buffer. -/
theorem visit_prefix_long
    {node : XmlNode}
    { ipprefix : List Char}
    (hName : node.name = "ipprefix")
    (hProp : xmlGetProp node "prefix" = some ipprefix)
    (hLong : 256 < ipprefix.length)
    (stale : Nat → Stale)
    (state : ParseState) :
    visit p stale node state = .fault := by
  unfold visit
  simp only [if_pos (printable_groupMember hName),
    if_pos hName, hProp, getALTOHostMask, if_pos hLong]

/- Any other adds one element with the rating at hand. -/
theorem visit_prefix
    {node : XmlNode}
    { ipprefix : List Char}
    (hName : node.name = "ipprefix")
    (hProp : xmlGetProp node "prefix" = some ipprefix)
    (hFits : ipprefix.length ≤ 256)
    (stale : Nat → Stale)
    (state : ParseState) :
    ∃ e : AltoDbElement,
      visit p stale node state =
          .next { state with db := state.db ++ [e] } ∧
        e.rating = ratingOf state.overallRating ∧
        ∃ stale' : Stale,
          e.host = getALTOHostIP p stale' ipprefix ∧
            getALTOHostMask stale' ipprefix =
              .ok e.hostMask := by
  have hNotGroup : ¬ node.name = "cnd_hla" := by
    rw [hName]
    decide
  have hMask :
      ∃ hostMask,
        getALTOHostMask (stale state.db.length) ipprefix =
          .ok hostMask := by
    unfold getALTOHostMask
    rw [if_neg (by omega)]
    simp only
    split
    · exact ⟨_, rfl⟩
    · exact ⟨_, rfl⟩
  rcases hMask with ⟨hostMask, hMask⟩
  refine
    ⟨{ host :=
          getALTOHostIP p (stale state.db.length) ipprefix
       hostMask := hostMask
       rating := ratingOf state.overallRating },
      ?_, rfl, _, rfl, hMask⟩
  unfold visit
  simp only [if_pos (printable_groupMember hName),
    if_neg hNotGroup, if_pos hName, hProp, hMask]
  rfl

------------------------------------------------------------
-- The Whole Walk
------------------------------------------------------------

/- The `ipprefix` nodes of some spots, with their groups. -/
def prefixesOf
    (spots : List Spot) : List (XmlNode × Option XmlNode) :=
  (spots.filter (fun spot => spot.node.name = "ipprefix")).map
    (fun spot => (spot.node, spot.enclosing))

theorem prefixesOf_append
    (first second : List Spot) :
    prefixesOf (first ++ second) =
      prefixesOf first ++ prefixesOf second := by
  unfold prefixesOf
  rw [List.filter_append, List.map_append]

theorem prefixesOf_cons
    (spot : Spot)
    (rest : List Spot) :
    prefixesOf (spot :: rest) =
      (if spot.node.name = "ipprefix" then
        [(spot.node, spot.enclosing)] else []) ++
        prefixesOf rest := by
  unfold prefixesOf
  rw [List.filter_cons]
  by_cases hName : spot.node.name = "ipprefix"
  · simp only [hName, decide_true, if_true, List.map_cons]
    rfl
  · simp only [hName, decide_false, Bool.false_eq_true,
      if_false, List.nil_append]

/- How the loop comes to a node does not move it. -/
theorem prefixesOf_spots
    (enclosing : Option XmlNode)
    (how : Arrival)
    (forest : Forest XmlNode) :
    prefixesOf (spots enclosing how forest) =
      groupedPrefixes enclosing forest := by
  induction forest generalizing enclosing how with
  | nil => rfl
  | cons node children rest ihChildren ihRest =>
      unfold spots groupedPrefixes
      rw [prefixesOf_cons, prefixesOf_append, ihChildren,
        ihRest]

/- Every `ipprefix` has a prefix. -/
def HasPrefixes (nodes : List XmlNode) : Prop :=
  ∀ node ∈ nodes, node.name = "ipprefix" →
    ∃ ipprefix, xmlGetProp node "prefix" = some ipprefix

instance (nodes : List XmlNode) :
    Decidable (HasPrefixes nodes) :=
  decidable_of_iff
    (∀ node ∈ nodes, node.name = "ipprefix" →
      (xmlGetProp node "prefix").isSome)
    (by
      unfold HasPrefixes
      simp only [Option.isSome_iff_exists])

/- At most one element is appended for each `ipprefix`. -/
theorem visitAll_appends
    {stale : Nat → Stale}
    {spots : List Spot}
    (hPrefixes : HasPrefixes (spots.map Spot.node))
    {state : ParseState}
    {db : AltoDb}
    (hDone :
      visitAll p stale (visitedNodes spots) state =
        .done db) :
    ∃ more, db = state.db ++ more ∧
      more.length ≤ (prefixesOf spots).length := by
  induction spots generalizing state with
  | nil =>
      have hDb : state.db = db := Parsed.done.inj hDone
      refine ⟨[], ?_, Nat.zero_le _⟩
      rw [hDb, List.append_nil]
  | cons spot rest ih =>
      have hRest : HasPrefixes (rest.map Spot.node) :=
        fun node hMem =>
          hPrefixes node (List.mem_cons_of_mem _ hMem)
      rw [prefixesOf_cons, List.length_append]
      rw [visitedNodes_cons] at hDone
      cases hSeen : spot.seen with
      | false =>
          rw [hSeen] at hDone
          rcases ih hRest hDone with ⟨more, hDb, hLe⟩
          exact ⟨more, hDb, by omega⟩
      | true =>
          rw [hSeen] at hDone
          simp only [if_true, List.singleton_append,
            visitAll] at hDone
          by_cases hName : spot.node.name = "ipprefix"
          · rw [if_pos hName]
            rcases
              hPrefixes spot.node List.mem_cons_self hName
              with ⟨ ipprefix, hProp⟩
            by_cases hFits : ipprefix.length ≤ 256
            · rcases visit_prefix hName hProp hFits stale state
                with ⟨e, hVisit, _⟩
              rw [hVisit] at hDone
              rcases ih hRest hDone with ⟨more, hDb, hLe⟩
              refine ⟨e :: more, ?_, ?_⟩
              · rw [hDb, List.append_assoc]
                rfl
              · simp only [List.length_cons,
                  List.length_nil]
                omega
            · rw [visit_prefix_long hName hProp (by omega)]
                at hDone
              cases hDone
          · by_cases hPrintable : spot.node.Printable
            · rw [visit_other hName hPrintable] at hDone
              rcases ih hRest hDone with ⟨more, hDb, hLe⟩
              exact ⟨more, hDb, by omega⟩
            · rw [visit_unprintable hPrintable] at hDone
              cases hDone

variable (p)

/- The elements that answer some nodes. -/
def Answered
    (stale : Nat → Stale)
    (spots : List Spot)
    (state : ParseState) : Prop :=
  ∃ elements,
    visitAll p stale (visitedNodes spots) state =
        .done (state.db ++ elements) ∧
      List.Forall₂ (Answers p) (prefixesOf spots) elements

variable {p}

/- Another node makes no difference but to the rating. -/
theorem answered_other
    {spot : Spot}
    (hName : spot.node.name ≠ "ipprefix")
    (hPrintable : spot.seen = true → spot.node.Printable)
    (stale : Nat → Stale)
    (rest : List Spot)
    (state : ParseState) :
    Answered p stale (spot :: rest) state ↔
      Answered p stale rest
        { state with
          overallRating :=
            carried state.overallRating [spot] } := by
  unfold Answered
  rw [visitedNodes_cons, prefixesOf_cons, if_neg hName]
  cases hSeen : spot.seen with
  | false =>
      rw [carried_not_seen hSeen]
      exact Iff.rfl
  | true =>
      rw [carried_seen hSeen]
      simp only [if_true, List.singleton_append, visitAll,
        visit_other hName (hPrintable hSeen),
        List.nil_append]

/- An `ipprefix` that is passed over has no element. -/
theorem not_answered_of_not_seen
    {stale : Nat → Stale}
    {spot : Spot}
    {rest : List Spot}
    (hPrefixes : HasPrefixes (rest.map Spot.node))
    (hName : spot.node.name = "ipprefix")
    (hSeen : spot.seen = false)
    (state : ParseState) :
    ¬ Answered p stale (spot :: rest) state := by
  unfold Answered
  rw [visitedNodes_cons, prefixesOf_cons, if_pos hName, hSeen]
  rintro ⟨elements, hDone, hAnswers⟩
  rcases visitAll_appends hPrefixes hDone with
    ⟨more, hDb, hLe⟩
  have hMore : elements = more :=
    List.append_cancel_left hDb
  have hLength := hAnswers.length_eq
  rw [List.length_append, List.length_singleton, hMore]
    at hLength
  omega

/- A status that does not fit ends the parse. -/
theorem not_answered_of_unprintable
    {stale : Nat → Stale}
    {spot : Spot}
    (hSeen : spot.seen = true)
    (hLong : ¬ spot.node.Printable)
    (rest : List Spot)
    (state : ParseState) :
    ¬ Answered p stale (spot :: rest) state := by
  unfold Answered
  rw [visitedNodes_cons, hSeen]
  simp only [if_true, List.singleton_append, visitAll,
    visit_unprintable hLong]
  rintro ⟨elements, hDone, _⟩
  cases hDone

/- So does an `ipprefix` that does not fit. -/
theorem not_answered_of_long
    {stale : Nat → Stale}
    {spot : Spot}
    { ipprefix : List Char}
    (hName : spot.node.name = "ipprefix")
    (hSeen : spot.seen = true)
    (hProp : xmlGetProp spot.node "prefix" = some ipprefix)
    (hLong : 256 < ipprefix.length)
    (rest : List Spot)
    (state : ParseState) :
    ¬ Answered p stale (spot :: rest) state := by
  unfold Answered
  rw [visitedNodes_cons, hSeen]
  simp only [if_true, List.singleton_append, visitAll,
    visit_prefix_long hName hProp hLong]
  rintro ⟨elements, hDone, _⟩
  cases hDone

/- One that is visited has the element with the rating. -/
theorem answered_prefix_iff
    {stale : Nat → Stale}
    {spot : Spot}
    {rest : List Spot}
    { ipprefix : List Char}
    (hPrefixes : HasPrefixes (rest.map Spot.node))
    (hName : spot.node.name = "ipprefix")
    (hSeen : spot.seen = true)
    (hProp : xmlGetProp spot.node "prefix" = some ipprefix)
    (hFits : ipprefix.length ≤ 256)
    (state : ParseState) :
    ∃ e : AltoDbElement,
      Answered p stale (spot :: rest) state ↔
        ratingOf state.overallRating =
            groupRating spot.enclosing ∧
          Answered p stale rest
            { state with db := state.db ++ [e] } := by
  rcases visit_prefix (p := p) hName hProp hFits stale state
    with ⟨e, hVisit, hRating, stale', hHost, hMask⟩
  refine ⟨e, ?_⟩
  unfold Answered
  rw [visitedNodes_cons, prefixesOf_cons, if_pos hName, hSeen]
  simp only [if_true, List.singleton_append, visitAll, hVisit]
  constructor
  · rintro ⟨elements, hDone, hAnswers⟩
    rcases visitAll_appends hPrefixes hDone with
      ⟨more, hDb, _⟩
    rw [List.append_assoc] at hDb
    have hMore : elements = e :: more :=
      List.append_cancel_left hDb
    rw [hMore] at hAnswers hDone
    rcases List.forall₂_cons.mp hAnswers with
      ⟨hFirst, hRest⟩
    refine ⟨hRating.symm.trans hFirst.rating, more, ?_, hRest⟩
    rw [hDone, List.append_assoc]
    rfl
  · rintro ⟨hGroup, more, hDone, hRest⟩
    refine ⟨e :: more, ?_, ?_⟩
    · rw [hDone, List.append_assoc]
      rfl
    · apply List.Forall₂.cons _ hRest
      exact
        ⟨⟨stale', ipprefix, hProp, hHost, hMask⟩,
          hRating.trans hGroup⟩

/-
  The elements answer the `ipprefix` nodes one for one
  exactly when each of them is visited in its turn.
-/
theorem answered_iff
    {stale : Nat → Stale}
    {spots : List Spot}
    (hPrefixes : HasPrefixes (spots.map Spot.node))
    (state : ParseState) :
    Answered p stale spots state ↔
      AnsweredFrom state.overallRating spots := by
  induction spots generalizing state with
  | nil =>
      refine ⟨fun _ => trivial, fun _ => ⟨[], ?_, .nil⟩⟩
      rw [List.append_nil]
      rfl
  | cons spot rest ih =>
      have hRest : HasPrefixes (rest.map Spot.node) :=
        fun node hMem =>
          hPrefixes node (List.mem_cons_of_mem _ hMem)
      unfold AnsweredFrom
      by_cases hName : spot.node.name = "ipprefix"
      · cases hSeen : spot.seen with
        | false =>
            constructor
            · intro hAnswered
              exact
                absurd hAnswered
                  (not_answered_of_not_seen hRest hName
                    hSeen state)
            · rintro ⟨hPassed, _⟩
              have hNot := (hPassed.answered hName).seen
              rw [hSeen] at hNot
              cases hNot
        | true =>
            rcases
              hPrefixes spot.node List.mem_cons_self hName
              with ⟨ ipprefix, hProp⟩
            have hCarried :
                carried state.overallRating [spot] =
                  state.overallRating := by
              rw [carried_seen hSeen, hName]
              exact if_neg (by decide)
            rw [hCarried]
            by_cases hFits : ipprefix.length ≤ 256
            · rcases
                answered_prefix_iff (p := p) hRest hName hSeen
                  hProp hFits state
                with ⟨e, hIff⟩
              rw [hIff, ih hRest]
              refine and_congr_left' ⟨fun hRating => ?_, ?_⟩
              · refine
                  ⟨fun _ => printable_groupMember hName,
                    fun _ => ⟨hSeen, hRating, ?_⟩⟩
                intro other hOther
                rw [hProp] at hOther
                rw [← Option.some.inj hOther]
                exact hFits
              · exact
                  fun hPassed => (hPassed.answered hName).rating
            · constructor
              · intro hAnswered
                exact
                  absurd hAnswered
                    (not_answered_of_long hName hSeen hProp
                      (by omega) rest state)
              · rintro ⟨hPassed, _⟩
                exact
                  absurd ((hPassed.answered hName).fits _ hProp)
                    hFits
      · by_cases hPrintable :
            spot.seen = true → spot.node.Printable
        · rw [answered_other hName hPrintable, ih hRest]
          refine (and_iff_right ?_).symm
          exact
            ⟨hPrintable, fun hThis => absurd hThis hName⟩
        · rcases Classical.not_imp.mp hPrintable with
            ⟨hSeen, hLong⟩
          constructor
          · intro hAnswered
            exact
              absurd hAnswered
                (not_answered_of_unprintable hSeen hLong
                  rest state)
          · rintro ⟨hPassed, _⟩
            exact absurd (hPassed.printable hSeen) hLong

/-
  For every reply whose `ipprefix` nodes have a prefix the
  parse ends, and it is complete exactly when every one of
  them is reached with the rating of its group and every
  status that is visited can be printed.
-/
theorem reply_complete_iff
    {stale : Nat → Stale}
    {fuel : Nat}
    {db : AltoDb}
    {doc : Forest XmlNode}
    (hFuel : doc.labels.length ≤ fuel)
    (hPrefixes : HasPrefixes doc.labels) :
    (∃ parsed,
      altoParseFromXML p stale fuel db doc = some parsed) ∧
      (Complete p stale fuel db doc ↔ AllReached doc) := by
  rw [← node_spots none .climbed doc] at hPrefixes
  unfold Complete AllReached
  rw [altoParseFromXML_eq p stale hFuel]
  refine ⟨⟨_, rfl⟩, ?_⟩
  rw [← answeredFrom_iff, ← prefixesOf_spots none .climbed doc]
  simp only [Option.some.injEq]
  exact
    answered_iff hPrefixes
      { overallRating := none
        db := db }

------------------------------------------------------------
-- White Space
------------------------------------------------------------

/- A reply with one group rated 5. -/
def replyWith
    (space prefixes : List (Forest XmlNode)) :
    Forest XmlNode :=
  Forest.node ⟨"alto", [], []⟩
    (space ++
      Forest.node
        ⟨"cnd_hla", [("overall_rating", ['5'])], []⟩
        (space ++ prefixes ++ space) :: space)

def prefixNode ( ipprefix : String) : Forest XmlNode :=
  Forest.node
    ⟨"ipprefix", [("prefix", ipprefix.toList)], []⟩ []

def textNode : Forest XmlNode :=
  Forest.node ⟨"text", [], []⟩ []

/- Memory without anything left in it. -/
def noStale : Nat → Stale :=
  fun _ => ⟨[], ⟨0⟩⟩

/- With white space around it a prefix is read. -/
theorem reply_complete_iff_spaced :
    ((∃ parsed,
        altoParseFromXML littleEndian noStale 7 []
            (replyWith [textNode]
              [prefixNode "10.0.0.0/8"]) =
          some parsed) ∧
      (Complete littleEndian noStale 7 []
          (replyWith [textNode] [prefixNode "10.0.0.0/8"]) ↔
        AllReached
          (replyWith [textNode]
            [prefixNode "10.0.0.0/8"]))) ∧
      altoParseFromXML littleEndian noStale 7 []
          (replyWith [textNode] [prefixNode "10.0.0.0/8"]) =
        some
          (.done
            [{ host := ⟨0x0000000A⟩
               hostMask := 8
               rating := 5 }]) := by
  exact
    ⟨reply_complete_iff (by decide) (by decide),
      by decide +kernel⟩

/- Without white space the first and the last are lost. -/
theorem compact_reply_incomplete :
    HasPrefixes
        (replyWith []
          [prefixNode "10.0.0.0/8", prefixNode "11.0.0.0/8",
            prefixNode "12.0.0.0/8"]).labels ∧
      altoParseFromXML littleEndian noStale 5 []
          (replyWith []
            [prefixNode "10.0.0.0/8", prefixNode "11.0.0.0/8",
              prefixNode "12.0.0.0/8"]) =
        some
          (.done
            [{ host := ⟨0x0000000B⟩
               hostMask := 8
               rating := 5 }]) ∧
      ¬ Complete littleEndian noStale 5 []
          (replyWith []
            [prefixNode "10.0.0.0/8", prefixNode "11.0.0.0/8",
              prefixNode "12.0.0.0/8"]) := by
  have hParsed :
      altoParseFromXML littleEndian noStale 5 []
          (replyWith []
            [prefixNode "10.0.0.0/8", prefixNode "11.0.0.0/8",
              prefixNode "12.0.0.0/8"]) =
        some
          (.done
            [{ host := ⟨0x0000000B⟩
               hostMask := 8
               rating := 5 }]) := by
    decide +kernel
  refine ⟨by decide, hParsed, ?_⟩
  · rintro ⟨elements, hDone, hAnswers⟩
    have hDb :=
      Parsed.done.inj
        (Option.some.inj (hParsed.symm.trans hDone))
    have hLength := hAnswers.length_eq
    rw [List.nil_append] at hDb
    rw [← hDb] at hLength
    cases hLength

end ALTO

end NapaBaselibs
