import NapaBaselibs.ALTO.ReplyXML

/-
  Which nodes of a reply the parser visits.

  The loop skips a childless node that it reaches as the first
  child of its parent, or as the last sibling from a childless
  one, and it ends behind the first node whose last child has
  children.

  Key definitions include:
    * `Arrival`, `reached`, `climbs`, `behind`
    * `Spot`, `spots`
    * `Walks`

  Key theorems include:
    * `walks_land`, `walks_spots`
    * `parseLoop_of_walks`
-/

------------------------------------------------------------
-- Arrivals
------------------------------------------------------------

namespace NapaBaselibs

namespace ALTO

/-
  How the loop comes to a node: back from the children of the
  node in front of it, as the first child of its parent, from
  a sibling without children, or not at all.
-/
inductive Arrival where
  | climbed
  | first
  | sibling
  | ended
deriving DecidableEq

variable {α : Type}

/- Whether the loop stops at a node to visit it. -/
def reached
    (how : Arrival)
    (children rest : Forest α) : Bool :=
  match how with
  | .climbed => true
  | .first => !children.isNil
  | .sibling => !(children.isNil && rest.isNil)
  | .ended => false

/- Whether the loop comes back from these siblings. -/
def climbs : Arrival → Forest α → Bool
| how, .nil => how = .first || how = .sibling
| how, .cons _ children rest =>
    climbs
      (if how = .ended then .ended
      else if children.isNil then .sibling
      else if climbs .first children then .climbed
      else .ended)
      rest

/- How the loop comes to the next sibling. -/
def behind
    (how : Arrival)
    (children : Forest α) : Arrival :=
  if how = .ended then .ended
  else if children.isNil then .sibling
  else if climbs .first children then .climbed
  else .ended

theorem climbs_cons
    (how : Arrival)
    (a : α)
    (children rest : Forest α) :
    climbs how (.cons a children rest) =
      climbs (behind how children) rest := by
  rw [climbs, behind]

theorem behind_ended (children : Forest α) :
    behind .ended children = .ended := by
  unfold behind
  exact if_pos rfl

theorem behind_nil
    {how : Arrival}
    (hHow : how ≠ .ended) :
    behind how (.nil : Forest α) = .sibling := by
  unfold behind
  rw [if_neg hHow]
  exact if_pos rfl

theorem behind_cons
    {how : Arrival}
    {children : Forest α}
    (hHow : how ≠ .ended)
    (hChildren : children.isNil = false) :
    behind how children =
      if climbs .first children then .climbed
      else .ended := by
  unfold behind
  rw [if_neg hHow, if_neg (by rw [hChildren]; decide)]

theorem climbs_ended (forest : Forest α) :
    climbs .ended forest = false := by
  induction forest with
  | nil => rfl
  | cons a children rest _ ih =>
      rw [climbs_cons, behind_ended]
      exact ih

/- The children of a node are reached if it is. -/
def inside (how : Arrival) : Arrival :=
  if how = .ended then .ended else .first

------------------------------------------------------------
-- Spots
------------------------------------------------------------

/-
  A node, whether the loop visits it, and its nearest
  enclosing `cnd_hla`.
-/
structure Spot where
  node : XmlNode
  seen : Bool
  enclosing : Option XmlNode

/- The nearest `cnd_hla` around the children of a node. -/
def enclosingIn
    (node : XmlNode)
    (enclosing : Option XmlNode) : Option XmlNode :=
  if node.name = "cnd_hla" then some node else enclosing

/- The nodes of a forest in document order. -/
def spots :
    Option XmlNode → Arrival → Forest XmlNode → List Spot
| _, _, .nil => []
| enclosing, how, .cons node children rest =>
    { node := node
      seen := reached how children rest
      enclosing := enclosing } ::
      (spots (enclosingIn node enclosing) (inside how)
          children ++
        spots enclosing (behind how children) rest)

/- The nodes that the loop visits. -/
def visitedNodes (spots : List Spot) : List XmlNode :=
  (spots.filter Spot.seen).map Spot.node

theorem visitedNodes_append
    (first second : List Spot) :
    visitedNodes (first ++ second) =
      visitedNodes first ++ visitedNodes second := by
  unfold visitedNodes
  rw [List.filter_append, List.map_append]

theorem visitedNodes_cons
    (spot : Spot)
    (rest : List Spot) :
    visitedNodes (spot :: rest) =
      (if spot.seen then [spot.node] else []) ++
        visitedNodes rest := by
  unfold visitedNodes
  rw [List.filter_cons]
  cases hSeen : spot.seen with
  | true => rfl
  | false => rfl

theorem visitedNodes_ended
    (enclosing : Option XmlNode)
    (forest : Forest XmlNode) :
    visitedNodes (spots enclosing .ended forest) = [] := by
  induction forest generalizing enclosing with
  | nil => rfl
  | cons node children rest ihChildren ihRest =>
      unfold spots
      rw [visitedNodes_cons, visitedNodes_append,
        behind_ended, ihRest]
      have hInside : inside .ended = .ended := rfl
      rw [hInside, ihChildren]
      rfl

theorem node_spots
    (enclosing : Option XmlNode)
    (how : Arrival)
    (forest : Forest XmlNode) :
    (spots enclosing how forest).map Spot.node =
      forest.labels := by
  induction forest generalizing enclosing how with
  | nil => rfl
  | cons node children rest ihChildren ihRest =>
      unfold spots
      rw [List.map_cons, List.map_append, ihChildren, ihRest]
      rfl

------------------------------------------------------------
-- Walks
------------------------------------------------------------

/- The nodes that the loop comes to from a cursor on. -/
inductive Walks : Cursor α → List α → Prop where
  | stop
      {cur : Cursor α}
      (hHere : cur.here = .nil) :
      Walks cur []
  | step
      {cur : Cursor α}
      {a : α}
      {children rest : Forest α}
      {visited : List α}
      (hHere : cur.here = .cons a children rest)
      (hRest : Walks (advance cur) visited) :
      Walks cur (a :: visited)

/- The tests that follow a move of the loop. -/
def land : Arrival → Cursor α → Cursor α
| .first, cur =>
    let cur :=
      if cur.here.children.isNil && !cur.here.next.isNil then
        cur.next
      else
        cur
    if cur.here.children.isNil && cur.here.next.isNil then
      cur.parentNext
    else
      cur
| .sibling, cur =>
    if cur.here.children.isNil && cur.here.next.isNil then
      cur.parentNext
    else
      cur
| .climbed, cur => cur
| .ended, cur => cur

theorem land_nil
    {how : Arrival}
    (hHow : how = .first ∨ how = .sibling)
    (above : List (Forest α)) :
    land how ⟨.nil, above⟩ =
      Cursor.parentNext ⟨.nil, above⟩ := by
  rcases hHow with hHow | hHow
  · rw [hHow]
    rfl
  · rw [hHow]
    rfl

theorem land_reached
    {how : Arrival}
    {a : α}
    {children rest : Forest α}
    (hReached : reached how children rest = true)
    (above : List (Forest α)) :
    land how ⟨.cons a children rest, above⟩ =
      ⟨.cons a children rest, above⟩ := by
  cases how with
  | climbed => rfl
  | ended => rfl
  | sibling =>
      simp only [reached, Bool.not_eq_true'] at hReached
      simp only [land, Forest.children_cons,
        Forest.next_cons, hReached]
      rfl
  | first =>
      simp only [reached, Bool.not_eq_true'] at hReached
      simp only [land, Forest.children_cons, hReached,
        Bool.false_and, Bool.false_eq_true, if_false]

/- A node that is not reached is passed over. -/
theorem land_not_reached
    {how : Arrival}
    {children rest : Forest α}
    (hHow : how ≠ .ended)
    (hReached : reached how children rest = false)
    (a : α)
    (above : List (Forest α)) :
    children = .nil ∧
      land how ⟨.cons a children rest, above⟩ =
        land .sibling ⟨rest, above⟩ := by
  cases how with
  | climbed => cases hReached
  | ended => exact absurd rfl hHow
  | sibling =>
      simp only [reached, Bool.not_eq_false',
        Bool.and_eq_true, Forest.isNil_iff] at hReached
      rcases hReached with ⟨hChildren, hRest⟩
      rw [hChildren, hRest]
      exact ⟨rfl, rfl⟩
  | first =>
      simp only [reached, Bool.not_eq_false',
        Forest.isNil_iff] at hReached
      rw [hReached]
      refine ⟨rfl, ?_⟩
      cases rest with
      | nil => rfl
      | cons b childrenB restB => rfl

/- From a node the loop moves to its children, if it has. -/
theorem advance_cons
    (a : α)
    (children rest : Forest α)
    (above : List (Forest α)) :
    advance ⟨.cons a children rest, above⟩ =
      if children.isNil then
        land .sibling ⟨rest, above⟩
      else
        land .first ⟨children, rest :: above⟩ := by
  cases children with
  | nil =>
      cases rest with
      | nil => rfl
      | cons b childrenB restB => rfl
  | cons b childrenB restB => rfl

/-
  The loop visits the nodes seen of a forest, and then what
  is behind its parent if it climbs.
-/
theorem walks_land
    (forest : Forest XmlNode)
    (enclosing : Option XmlNode)
    (how : Arrival)
    (hHow : how ≠ .ended)
    (above : List (Forest XmlNode))
    (visited : List XmlNode)
    (hAbove :
      Walks (Cursor.parentNext ⟨.nil, above⟩) visited) :
    Walks (land how ⟨forest, above⟩)
      (visitedNodes (spots enclosing how forest) ++
        if climbs how forest then visited else []) := by
  induction forest
      generalizing enclosing how above visited with
  | nil =>
      cases how with
      | ended => exact absurd rfl hHow
      | climbed => exact Walks.stop rfl
      | first =>
          rw [land_nil (.inl rfl)]
          exact hAbove
      | sibling =>
          rw [land_nil (.inr rfl)]
          exact hAbove
  | cons node children rest ihChildren ihRest =>
      unfold spots
      rw [visitedNodes_cons, visitedNodes_append, climbs_cons]
      cases hReached : reached how children rest with
      | false =>
          rcases land_not_reached hHow hReached node above
            with ⟨hChildren, hLand⟩
          rw [hLand, hChildren, behind_nil hHow]
          exact
            ihRest enclosing .sibling (by decide) above visited
              hAbove
      | true =>
          rw [land_reached hReached]
          simp only [if_true, List.cons_append,
            List.nil_append, List.append_assoc]
          apply Walks.step rfl
          rw [advance_cons]
          cases hChildren : children.isNil with
          | true =>
              have hNil := Forest.isNil_iff.mp hChildren
              rw [hNil, behind_nil hHow]
              exact
                ihRest enclosing .sibling (by decide) above
                  visited hAbove
          | false =>
              have hInside : inside how = .first :=
                if_neg hHow
              have hRest :=
                ihRest enclosing .climbed (by decide) above
                  visited hAbove
              have hWalk :=
                ihChildren (enclosingIn node enclosing) .first
                  (by decide) (rest :: above) _ hRest
              rw [behind_cons hHow hChildren, hInside]
              cases hClimbs : climbs .first children with
              | true =>
                  simp only [hClimbs, if_true] at hWalk
                  exact hWalk
              | false =>
                  simp only [hClimbs, Bool.false_eq_true,
                    if_false, List.append_nil] at hWalk
                  simp only [Bool.false_eq_true, if_false,
                    visitedNodes_ended, climbs_ended,
                    List.append_nil]
                  exact hWalk

/- From the root the loop visits all the nodes seen. -/
theorem walks_spots (doc : Forest XmlNode) :
    Walks ⟨doc, []⟩
      (visitedNodes (spots none .climbed doc)) := by
  have hWalk :=
    walks_land doc none .climbed (by decide) [] []
      (.stop rfl)
  rw [ite_self, List.append_nil] at hWalk
  exact hWalk

------------------------------------------------------------
-- The Loop Along a Walk
------------------------------------------------------------

variable (p : Platform)

/- The body of the loop at one node after the other. -/
def visitAll
    (stale : Nat → Stale) :
    List XmlNode → ParseState → Parsed
| [], state => .done state.db
| node :: rest, state =>
    match visit p stale node state with
    | .next state => visitAll stale rest state
    | .broken db => .done db
    | .fault => .fault

/- With fuel for the nodes of its walk the loop ends. -/
theorem parseLoop_of_walks
    {stale : Nat → Stale}
    {cur : Cursor XmlNode}
    {visited : List XmlNode}
    (hWalk : Walks cur visited)
    {fuel : Nat}
    (hFuel : visited.length ≤ fuel)
    (state : ParseState) :
    parseLoop p stale fuel cur state =
      some (visitAll p stale visited state) := by
  induction hWalk generalizing fuel state with
  | stop hHere =>
      unfold parseLoop
      rw [hHere]
      rfl
  | @step cur node children rest visited hHere hRest ih =>
      cases fuel with
      | zero => cases hFuel
      | succ fuel =>
          have hLe : visited.length ≤ fuel :=
            Nat.le_of_succ_le_succ hFuel
          unfold parseLoop visitAll
          rw [hHere]
          simp only
          cases visit p stale node state with
          | next state => exact ih hLe state
          | broken db => rfl
          | fault => rfl

/- The parse visits the nodes seen, and ends. -/
theorem altoParseFromXML_eq
    (stale : Nat → Stale)
    {fuel : Nat}
    {doc : Forest XmlNode}
    (hFuel : doc.labels.length ≤ fuel)
    (db : AltoDb) :
    altoParseFromXML p stale fuel db doc =
      some
        (visitAll p stale
          (visitedNodes (spots none .climbed doc))
          { overallRating := none
            db := db }) := by
  unfold altoParseFromXML
  apply parseLoop_of_walks p (walks_spots doc)
  have hLength :
      (visitedNodes (spots none .climbed doc)).length ≤
        (spots none .climbed doc).length := by
    unfold visitedNodes
    rw [List.length_map]
    exact List.length_filter_le _ _
  have hSpots :
      (spots none .climbed doc).length = doc.labels.length := by
    rw [← node_spots none .climbed doc, List.length_map]
  omega

end ALTO

end NapaBaselibs
