import NapaBaselibs.Lib.Selection
import NapaBaselibs.ALTO.Database

/-
  The rating of a host and the longest prefix.

  The search looks up networks by their address alone, from
  the width of the request down to 2.  It returns the rating
  of the longest prefix exactly when the first element with
  the address found is rated like that one.

  Key definitions include:
    * `longestPrefixRating`
    * `Searched`, `NextShorter`
    * `RatedByAddress`

  Key theorems include:
    * `getAltoRating_cases`
    * `longestPrefix_eq_some_iff_next`
    * `longest_prefix_rating_iff`
-/

------------------------------------------------------------
-- Masks
------------------------------------------------------------

namespace NapaBaselibs

namespace ALTO

theorem ntohl_and
    (order : ByteOrder)
    (x y : BitVec 32) :
    ntohl order (x &&& y) =
      ntohl order x &&& ntohl order y := by
  cases order with
  | big => rfl
  | little =>
      unfold ntohl
      simp only [BitVec.extractLsb'_and]
      rw [← BitVec.and_append, ← BitVec.and_append,
        ← BitVec.and_append]

/- A longer mask keeps all bits of a shorter one. -/
theorem allOnes_shiftLeft_and
    {m n : Nat}
    (hLe : m ≤ n) :
    (BitVec.allOnes 32 <<< n) &&& (BitVec.allOnes 32 <<< m) =
      BitVec.allOnes 32 <<< n := by
  ext i hI
  simp only [BitVec.getElem_and, BitVec.getElem_shiftLeft,
    BitVec.getElem_allOnes]
  by_cases hLow : i < n
  · simp [hLow]
  · have hNot : ¬ i < m := by omega
    simp [hNot]

variable {p : Platform}

theorem matchMask_and
    {short long : Int}
    (hLe : short ≤ long) :
    matchMask p long &&& matchMask p short =
      matchMask p short := by
  have hOnes : (0xFFFFFFFF : BitVec 32) = BitVec.allOnes 32 :=
    by decide
  have hShift :
      (32 - long).toNat ≤ (32 - short).toNat := by
    omega
  unfold matchMask
  rw [hOnes, ← ntohl_and, BitVec.and_comm,
    allOnes_shiftLeft_and hShift]

/- A subnet of a subnet. -/
theorem computeSubnet_computeSubnet
    {short long : Int}
    (hLe : short ≤ long)
    (host : InAddr) :
    computeSubnet p (computeSubnet p host long) short =
      computeSubnet p host short := by
  unfold computeSubnet
  simp only [BitVec.and_assoc, matchMask_and hLe]

------------------------------------------------------------
-- Networks
------------------------------------------------------------

variable (p)

/- The host lies in the network of the element. -/
def AltoDbElement.Contains
    (e : AltoDbElement)
    (host : InAddr) : Prop :=
  computeSubnet p host e.hostMask = e.host

instance (e : AltoDbElement) (host : InAddr) :
    Decidable (e.Contains p host) :=
  inferInstanceAs (Decidable (_ = _))

/- A network with its address masked, and with a rating. -/
structure AltoDbElement.IsNetwork
    (e : AltoDbElement) : Prop where
  mask_nonneg : 0 ≤ e.hostMask
  mask_le : e.hostMask ≤ 32
  masked : computeSubnet p e.host e.hostMask = e.host
  rating_ne : e.rating ≠ 0

/-
  The first element with the longest mask, not longer than
  the given one, whose network contains the host.
-/
def longestPrefix
    (host : InAddr)
    (prefixLength : Int)
    (db : AltoDb) : Option AltoDbElement :=
  Selection.firstMax AltoDbElement.hostMask
    (fun e =>
      e.hostMask ≤ prefixLength ∧ e.Contains p host) db

/- Its rating, and 0 if no element contains the host. -/
def longestPrefixRating
    (host : InAddr)
    (prefixLength : Int)
    (db : AltoDb) : Int :=
  match longestPrefix p host prefixLength db with
  | some e => e.rating
  | none => 0

/- The widths at which the search looks. -/
def Searched (prefixLength width : Int) : Prop :=
  width = prefixLength ∨ 2 ≤ width ∧ width ≤ prefixLength

/- No element has the address of a searched subnet. -/
def NothingFound
    (host : InAddr)
    (prefixLength : Int)
    (db : AltoDb) : Prop :=
  ∀ width, Searched prefixLength width →
    ∀ e ∈ db, e.host ≠ computeSubnet p host width

/- The widest searched subnet whose address an element has. -/
structure WidestFound
    (host : InAddr)
    (prefixLength width : Int)
    (db : AltoDb) : Prop where
  searched : Searched prefixLength width
  found : ∃ e ∈ db, e.host = computeSubnet p host width
  widest :
    ∀ wider, Searched prefixLength wider → width < wider →
      ∀ e ∈ db, e.host ≠ computeSubnet p host wider

/-
  The first element with the longest mask shorter than the
  given width, among those with the address of the subnet of
  the host that is as wide as their own mask.
-/
structure NextShorter
    (host : InAddr)
    (width : Int)
    (db : AltoDb)
    (next : AltoDbElement) : Prop where
  shorter : next.hostMask < width
  first :
    db.find?
        (fun e =>
          e.hostMask = next.hostMask ∧
            computeSubnet p host next.hostMask = e.host) =
      some next
  longest :
    ∀ e ∈ db, next.hostMask < e.hostMask →
      e.hostMask < width →
        computeSubnet p host e.hostMask ≠ e.host

/-
  Where nothing is found, no network that is too wide for the
  search contains the host.  Otherwise the first element with
  the address found is rated like the first with the longest
  mask among those with this address whose mask is not longer
  than the width; or all these have longer masks, and the
  first is rated like the next network with a shorter mask.
-/
def RatedByAddress
    (host : InAddr)
    (prefixLength : Int)
    (db : AltoDb) : Prop :=
  (NothingFound p host prefixLength db ∧
    ∀ e ∈ db, e.hostMask ≤ prefixLength →
      ¬ Searched prefixLength e.hostMask →
        ¬ e.Contains p host) ∨
  ∃ (width : Int) (first : AltoDbElement),
    WidestFound p host prefixLength width db ∧
    db.find?
        (fun e => computeSubnet p host width = e.host) =
      some first ∧
    ((∃ longest,
        Selection.firstMax AltoDbElement.hostMask
            (fun e =>
              e.host = computeSubnet p host width ∧
                e.hostMask ≤ width) db =
          some longest ∧
        first.rating = longest.rating) ∨
      (∀ e ∈ db, e.host = computeSubnet p host width →
        width < e.hostMask) ∧
      ∃ next, NextShorter p host width db next ∧
        first.rating = next.rating)

------------------------------------------------------------
-- The Search
------------------------------------------------------------

variable {p}

/- A lookup gives 0 exactly where no element is found. -/
theorem askHelperFunc_eq_zero_iff
    {db : AltoDb}
    (hDb : ∀ e ∈ db, e.rating ≠ 0)
    (subnet : InAddr) :
    askHelperFunc subnet db = 0 ↔
      ∀ e ∈ db, e.host ≠ subnet := by
  unfold askHelperFunc
  cases hFind : db.find? (fun cur => subnet = cur.host) with
  | none =>
      have hNone := List.find?_eq_none.mp hFind
      simp only [true_iff]
      rintro e hMem rfl
      exact hNone e hMem (by simp)
  | some first =>
      have hMem := List.mem_of_find?_eq_some hFind
      have hHost := List.find?_some hFind
      constructor
      · intro hZero
        exact absurd hZero (hDb first hMem)
      · intro hAll
        exact
          absurd (of_decide_eq_true hHost).symm
            (hAll first hMem)

/-
  The loop returns the first lookup that is not 0: at the
  width it comes with, and then one width after another.
-/
theorem getAltoRatingLoop_cases
    (host : InAddr)
    (db : AltoDb)
    (i : Nat)
    (width mask : Int) :
    let lookup := fun w =>
      askHelperFunc (computeSubnet p host w) db
    let result :=
      getAltoRatingLoop p host db i
        (computeSubnet p host width) mask
    (result = 0 ∧
      (0 < i → lookup width = 0) ∧
      ∀ w, mask - i + 2 ≤ w → w ≤ mask → lookup w = 0) ∨
    (0 < i ∧ lookup width ≠ 0 ∧ result = lookup width) ∨
    lookup width = 0 ∧
      ∃ w, mask - i + 2 ≤ w ∧ w ≤ mask ∧ lookup w ≠ 0 ∧
        result = lookup w ∧
        ∀ w', w < w' → w' ≤ mask → lookup w' = 0 := by
  induction i generalizing width mask with
  | zero =>
      refine .inl ⟨rfl, fun hPos => absurd hPos (by simp), ?_⟩
      intro w hFrom hTo
      omega
  | succ i ih =>
      intro lookup result
      by_cases hZero : lookup width = 0
      · have hResult :
            result =
              getAltoRatingLoop p host db i
                (computeSubnet p host mask) (mask - 1) :=
          if_pos hZero
        rcases ih mask (mask - 1) with
          ⟨hNone, hFirst, hRest⟩ | ⟨hPos, hFirst, hRest⟩ |
            ⟨hFirst, w, hFrom, hTo, hFound, hEq, hWider⟩
        · refine
            .inl ⟨hResult.trans hNone, fun _ => hZero, ?_⟩
          intro w hFrom hTo
          by_cases hEq : w = mask
          · rw [hEq]
            exact hFirst (by omega)
          · exact hRest w (by omega) (by omega)
        · refine
            .inr (.inr ⟨hZero, mask, by omega, by omega,
              hFirst, hResult.trans hRest, ?_⟩)
          intro w' hLt hLe
          omega
        · refine
            .inr (.inr ⟨hZero, w, by omega, by omega,
              hFound, hResult.trans hEq, ?_⟩)
          intro w' hLt hLe
          by_cases hMask : w' = mask
          · rw [hMask]
            exact hFirst
          · exact hWider w' hLt (by omega)
      · exact
          .inr (.inl ⟨Nat.succ_pos i, hZero, if_neg hZero⟩)

/- A lookup that is not 0 gives the first element it finds. -/
theorem exists_first_of_lookup
    {host : InAddr}
    {prefixLength width : Int}
    {db : AltoDb}
    (hDb : ∀ e ∈ db, e.rating ≠ 0)
    (hSearched : Searched prefixLength width)
    (hLookup :
      askHelperFunc (computeSubnet p host width) db ≠ 0)
    (hWider :
      ∀ wider, Searched prefixLength wider → width < wider →
        askHelperFunc (computeSubnet p host wider) db = 0) :
    ∃ first : AltoDbElement,
      WidestFound p host prefixLength width db ∧
        db.find?
            (fun e => computeSubnet p host width = e.host) =
          some first ∧
        askHelperFunc (computeSubnet p host width) db =
          first.rating := by
  unfold askHelperFunc at hLookup ⊢
  cases hFind :
      db.find?
        (fun cur => computeSubnet p host width = cur.host)
    with
  | none =>
      rw [hFind] at hLookup
      exact absurd rfl hLookup
  | some first =>
      have hHost := List.find?_some hFind
      simp only [decide_eq_true_eq] at hHost
      refine ⟨first, ⟨hSearched, ?_, ?_⟩, rfl, rfl⟩
      · exact
          ⟨first, List.mem_of_find?_eq_some hFind,
            hHost.symm⟩
      · intro wider hSearched' hLt
        exact
          (askHelperFunc_eq_zero_iff hDb _).mp
            (hWider wider hSearched' hLt)

/- The rating of the first element at the widest width. -/
theorem getAltoRating_cases
    {element : AltoDbElement}
    {db : AltoDb}
    (hPrefix : 1 ≤ element.hostMask)
    (hDb : ∀ e ∈ db, e.rating ≠ 0) :
    (NothingFound p element.host element.hostMask db ∧
      getAltoRating p element db = 0) ∨
    ∃ (width : Int) (first : AltoDbElement),
      WidestFound p element.host element.hostMask width db ∧
      db.find?
          (fun e =>
            computeSubnet p element.host width = e.host) =
        some first ∧
      getAltoRating p element db = first.rating := by
  have hToNat : ((element.hostMask.toNat : Nat) : Int) =
      element.hostMask := by
    omega
  have hLoop :=
    getAltoRatingLoop_cases (p := p) element.host db
      element.hostMask.toNat element.hostMask
      element.hostMask
  simp only [hToNat] at hLoop
  rcases hLoop with
    ⟨hZero, hFirst, hRest⟩ | ⟨hPos, hFirst, hResult⟩ |
      ⟨hFirst, w, hFrom, hTo, hLookup, hResult, hWider⟩
  · refine .inl ⟨?_, hZero⟩
    intro w hSearched
    apply (askHelperFunc_eq_zero_iff hDb _).mp
    rcases hSearched with rfl | ⟨hFrom, hTo⟩
    · exact hFirst (by omega)
    · exact hRest w (by omega) hTo
  · have hFound :=
      exists_first_of_lookup hDb (.inl rfl) hFirst
        (fun w' hSearched hLt => by
          unfold Searched at hSearched
          omega)
    rcases hFound with ⟨first, hWidest, hFind, hRating⟩
    exact
      .inr
        ⟨_, first, hWidest, hFind, hResult.trans hRating⟩
  · have hNone :
        ∀ w', Searched element.hostMask w' → w < w' →
          askHelperFunc (computeSubnet p element.host w') db =
            0 := by
      intro w' hSearched hLt
      rcases hSearched with rfl | ⟨hFrom', hTo'⟩
      · exact hFirst
      · exact hWider w' hLt hTo'
    rcases
      exists_first_of_lookup hDb (.inr ⟨by omega, hTo⟩)
        hLookup hNone with
      ⟨first, hWidest, hFind, hRating⟩
    exact
      .inr
        ⟨w, first, hWidest, hFind, hResult.trans hRating⟩

------------------------------------------------------------
-- The Longest Prefix
------------------------------------------------------------

/- A network found by its address contains the host. -/
theorem AltoDbElement.IsNetwork.contains
    {e : AltoDbElement}
    {host : InAddr}
    {width : Int}
    (hNetwork : e.IsNetwork p)
    (hHost : e.host = computeSubnet p host width)
    (hLe : e.hostMask ≤ width) :
    e.Contains p host := by
  unfold AltoDbElement.Contains
  rw [← computeSubnet_computeSubnet hLe, ← hHost]
  exact hNetwork.masked

/-
  A network that contains the host is found at the width of
  its mask, so its mask is not longer than the widest width
  at which one is found.
-/
theorem WidestFound.hostMask_le
    {host : InAddr}
    {prefixLength width : Int}
    {db : AltoDb}
    {e : AltoDbElement}
    (hWidest : WidestFound p host prefixLength width db)
    (hMem : e ∈ db)
    (hLe : e.hostMask ≤ prefixLength)
    (hContains : e.Contains p host) :
    e.hostMask ≤ width := by
  by_contra hNot
  have hLt : width < e.hostMask := by omega
  by_cases hSearched : Searched prefixLength e.hostMask
  · exact
      hWidest.widest e.hostMask hSearched hLt e hMem
        hContains.symm
  · have hWidth := hWidest.searched
    unfold Searched at hSearched hWidth
    omega

/-
  Between two networks of the host with one address there is
  no other address.
-/
theorem AltoDbElement.IsNetwork.host_eq
    {e : AltoDbElement}
    {host : InAddr}
    {width mask : Int}
    (hNetwork : e.IsNetwork p)
    (hHost : e.host = computeSubnet p host width)
    (hFrom : e.hostMask ≤ mask)
    (hTo : mask ≤ width) :
    computeSubnet p host mask = e.host := by
  rw [← computeSubnet_computeSubnet hTo, ← hHost,
    ← hNetwork.masked]
  unfold computeSubnet
  rw [BitVec.and_assoc, BitVec.and_comm (matchMask p _),
    matchMask_and hFrom]

/- The longest prefix among all is one with that address. -/
theorem longestPrefix_of_widest
    {host : InAddr}
    {prefixLength width : Int}
    {db : AltoDb}
    {longest : AltoDbElement}
    (hDb : ∀ e ∈ db, e.IsNetwork p)
    (hWidest : WidestFound p host prefixLength width db)
    (hLongest :
      Selection.firstMax AltoDbElement.hostMask
          (fun e =>
            e.host = computeSubnet p host width ∧
              e.hostMask ≤ width) db =
        some longest) :
    longestPrefix p host prefixLength db = some longest := by
  have hWidth : width ≤ prefixLength := by
    have hSearched := hWidest.searched
    unfold Searched at hSearched
    omega
  rcases Selection.firstMax_spec hLongest with
    ⟨hIn, hKind, hAll⟩
  rcases of_decide_eq_true hKind with ⟨hHost, hMask⟩
  apply Selection.firstMax_of_subset _ hLongest
  · intro e hMem hE hNot
    rcases of_decide_eq_true hE with ⟨hLe, hContains⟩
    have hLeWidth :=
      hWidest.hostMask_le hMem hLe hContains
    by_contra hGe
    have hSame :
        e.host = computeSubnet p host width := by
      have hMaskLe : longest.hostMask ≤ e.hostMask := by
        omega
      have hBetween :=
        (hDb longest hIn).host_eq hHost hMaskLe hLeWidth
      rw [← hHost, ← hBetween]
      exact hContains.symm
    simp only [hSame, hLeWidth, and_self, decide_true,
      Bool.true_eq_false] at hNot
  · intro e hMem hE
    rcases of_decide_eq_true hE with ⟨hEHost, hLe⟩
    have hContains := (hDb e hMem).contains hEHost hLe
    have hPrefix : e.hostMask ≤ prefixLength := by omega
    simp only [hPrefix, hContains, and_self, decide_true]

theorem longestPrefixRating_of_widest
    {host : InAddr}
    {prefixLength width : Int}
    {db : AltoDb}
    {longest : AltoDbElement}
    (hDb : ∀ e ∈ db, e.IsNetwork p)
    (hWidest : WidestFound p host prefixLength width db)
    (hLongest :
      Selection.firstMax AltoDbElement.hostMask
          (fun e =>
            e.host = computeSubnet p host width ∧
              e.hostMask ≤ width) db =
        some longest) :
    longestPrefixRating p host prefixLength db =
      longest.rating := by
  unfold longestPrefixRating
  rw [longestPrefix_of_widest hDb hWidest hLongest]

/- There is one widest width. -/
theorem WidestFound.unique
    {host : InAddr}
    {prefixLength width width' : Int}
    {db : AltoDb}
    (hWidest : WidestFound p host prefixLength width db)
    (hWidest' : WidestFound p host prefixLength width' db) :
    width = width' := by
  rcases hWidest.found with ⟨e, hMem, hHost⟩
  rcases hWidest'.found with ⟨e', hMem', hHost'⟩
  rcases lt_trichotomy width width' with hLt | hEq | hGt
  · exact
      absurd hHost'
        (hWidest.widest width' hWidest'.searched hLt e' hMem')
  · exact hEq
  · exact
      absurd hHost
        (hWidest'.widest width hWidest.searched hGt e hMem)

/- Without such a network the rating is 0. -/
theorem longestPrefixRating_eq_zero_iff
    {host : InAddr}
    {prefixLength : Int}
    {db : AltoDb}
    (hDb : ∀ e ∈ db, e.IsNetwork p) :
    longestPrefixRating p host prefixLength db = 0 ↔
      ∀ e ∈ db, e.hostMask ≤ prefixLength →
        ¬ e.Contains p host := by
  unfold longestPrefixRating
  cases hLongest : longestPrefix p host prefixLength db with
  | none =>
      have hNone := Selection.firstMax_eq_none_iff.mp hLongest
      simp only [true_iff]
      intro e hMem hLe hContains
      exact
        absurd (hNone e hMem)
          (by simp [hLe, hContains])
  | some longest =>
      rcases Selection.firstMax_spec hLongest with
        ⟨hMem, hKind, _⟩
      rcases of_decide_eq_true hKind with ⟨hLe, hContains⟩
      constructor
      · intro hZero
        exact absurd hZero (hDb longest hMem).rating_ne
      · intro hAll
        exact absurd hContains (hAll longest hMem hLe)

/-
  If all elements with the address found have longer masks,
  the longest prefix is the next one with a shorter mask.
-/
theorem longestPrefix_eq_some_iff_next
    {host : InAddr}
    {prefixLength width : Int}
    {db : AltoDb}
    (hWidest : WidestFound p host prefixLength width db)
    (hLonger :
      ∀ e ∈ db, e.host = computeSubnet p host width →
        width < e.hostMask)
    (next : AltoDbElement) :
    longestPrefix p host prefixLength db = some next ↔
      NextShorter p host width db next := by
  have hWidth : width ≤ prefixLength := by
    have hSearched := hWidest.searched
    unfold Searched at hSearched
    omega
  have hShorter :
      ∀ e ∈ db, e.hostMask ≤ prefixLength →
        e.Contains p host → e.hostMask < width := by
    intro e hMem hLe hContains
    have hLeWidth := hWidest.hostMask_le hMem hLe hContains
    by_contra hNot
    have hSame : e.hostMask = width := by omega
    have hHost : e.host = computeSubnet p host width := by
      rw [← hSame]
      exact hContains.symm
    have hLt := hLonger e hMem hHost
    omega
  have hFind (mask : Int) (hMask : mask < width) :
      db.find?
          (fun e =>
            decide
                (e.hostMask ≤ prefixLength ∧
                  e.Contains p host) &&
              decide (e.hostMask = mask)) =
        db.find?
          (fun e =>
            e.hostMask = mask ∧
              computeSubnet p host mask = e.host) := by
    congr 1
    funext e
    rw [← Bool.decide_and]
    apply decide_eq_decide.mpr
    unfold AltoDbElement.Contains
    constructor
    · rintro ⟨⟨_, hContains⟩, rfl⟩
      exact ⟨rfl, hContains⟩
    · rintro ⟨rfl, hContains⟩
      exact ⟨⟨by omega, hContains⟩, rfl⟩
  unfold longestPrefix
  rw [Selection.firstMax_eq_some_iff]
  constructor
  · rintro ⟨hFirst, hAll⟩
    have hMem := List.mem_of_find?_eq_some hFirst
    have hKind := List.find?_some hFirst
    simp only [decide_true, Bool.and_true,
      decide_eq_true_eq] at hKind
    have hMask := hShorter next hMem hKind.1 hKind.2
    refine ⟨hMask, ?_, ?_⟩
    · rw [← hFind _ hMask]
      exact hFirst
    · intro e hIn hLt hBelow hContains
      have hLe : e.hostMask ≤ prefixLength := by omega
      have hNot := hAll e hIn (decide_eq_true ⟨hLe, hContains⟩)
      omega
  · intro hNext
    refine ⟨?_, ?_⟩
    · rw [hFind _ hNext.shorter]
      exact hNext.first
    · intro e hIn hKind
      rcases of_decide_eq_true hKind with ⟨hLe, hContains⟩
      by_contra hNot
      exact
        hNext.longest e hIn (by omega)
          (hShorter e hIn hLe hContains) hContains

/- A search without a find returns the 0 of no network. -/
theorem NothingFound.rated_iff
    {host : InAddr}
    {prefixLength : Int}
    {db : AltoDb}
    (hDb : ∀ e ∈ db, e.IsNetwork p)
    (hNothing : NothingFound p host prefixLength db) :
    0 = longestPrefixRating p host prefixLength db ↔
      RatedByAddress p host prefixLength db := by
  rw [eq_comm, longestPrefixRating_eq_zero_iff hDb]
  constructor
  · intro hNone
    exact .inl ⟨hNothing, fun e hMem hLe _ => hNone e hMem hLe⟩
  · rintro (⟨_, hWide⟩ | ⟨width, _, hWidest, _⟩)
    · intro e hMem hLe hContains
      by_cases hSearched : Searched prefixLength e.hostMask
      · exact
          hNothing e.hostMask hSearched e hMem
            hContains.symm
      · exact hWide e hMem hLe hSearched hContains
    · rcases hWidest.found with ⟨e, hMem, hHost⟩
      exact
        absurd hHost
          (hNothing width hWidest.searched e hMem)

/- A find is rated like the longest prefix, or it is not. -/
theorem WidestFound.rated_iff
    {host : InAddr}
    {prefixLength width : Int}
    {db : AltoDb}
    {first : AltoDbElement}
    (hDb : ∀ e ∈ db, e.IsNetwork p)
    (hWidest : WidestFound p host prefixLength width db)
    (hFind :
      db.find?
          (fun e => computeSubnet p host width = e.host) =
        some first) :
    first.rating =
        longestPrefixRating p host prefixLength db ↔
      RatedByAddress p host prefixLength db := by
  constructor
  · intro hEq
    refine .inr ⟨width, first, hWidest, hFind, ?_⟩
    cases hLongest :
        Selection.firstMax AltoDbElement.hostMask
          (fun e =>
            e.host = computeSubnet p host width ∧
              e.hostMask ≤ width) db with
    | some longest =>
        refine .inl ⟨longest, rfl, ?_⟩
        rw [hEq]
        exact
          longestPrefixRating_of_widest hDb hWidest hLongest
    | none =>
        have hNone :=
          Selection.firstMax_eq_none_iff.mp hLongest
        have hLonger :
            ∀ e ∈ db, e.host = computeSubnet p host width →
              width < e.hostMask := by
          intro e hMem hHost
          by_contra hNot
          have hLe : e.hostMask ≤ width := by omega
          exact absurd (hNone e hMem) (by simp [hHost, hLe])
        refine .inr ⟨hLonger, ?_⟩
        -- a rating is not 0, so some network contains it
        unfold longestPrefixRating at hEq
        cases hNext : longestPrefix p host prefixLength db with
        | none =>
            rw [hNext] at hEq
            have hMem := List.mem_of_find?_eq_some hFind
            exact absurd hEq (hDb first hMem).rating_ne
        | some next =>
            rw [hNext] at hEq
            exact
              ⟨next,
                (longestPrefix_eq_some_iff_next hWidest
                  hLonger next).mp hNext, hEq⟩
  · rintro (⟨hNothing, _⟩ |
      ⟨width', first', hWidest', hFind', hRated⟩)
    · rcases hWidest.found with ⟨e, hMem, hHost⟩
      exact
        absurd hHost
          (hNothing width hWidest.searched e hMem)
    · have hSame : width' = width := hWidest'.unique hWidest
      subst hSame
      have hFirst : first' = first :=
        Option.some.inj (hFind'.symm.trans hFind)
      rw [← hFirst]
      rcases hRated with ⟨longest, hLongest, hEq⟩ |
        ⟨hLonger, next, hNext, hEq⟩
      · rw [hEq]
        exact
          (longestPrefixRating_of_widest hDb hWidest
            hLongest).symm
      · have hLongest :=
          (longestPrefix_eq_some_iff_next hWidest hLonger
            next).mpr hNext
        unfold longestPrefixRating
        rw [hEq, hLongest]

/-
  The search returns the rating of the longest prefix exactly
  when the element found by its address is rated like it.
-/
theorem longest_prefix_rating_iff
    {element : AltoDbElement}
    {db : AltoDb}
    (hPrefix : 1 ≤ element.hostMask ∧ element.hostMask ≤ 32)
    (hDb : ∀ e ∈ db, e.IsNetwork p) :
    getAltoRating p element db =
        longestPrefixRating p element.host element.hostMask
          db ↔
      RatedByAddress p element.host element.hostMask db := by
  have hRatings : ∀ e ∈ db, e.rating ≠ 0 :=
    fun e hMem => (hDb e hMem).rating_ne
  rcases getAltoRating_cases hPrefix.1 hRatings with
    ⟨hNothing, hZero⟩ |
      ⟨width, first, hWidest, hFind, hResult⟩
  · rw [hZero]
    exact hNothing.rated_iff hDb
  · rw [hResult]
    exact hWidest.rated_iff hDb hFind

------------------------------------------------------------
-- Nested Networks
------------------------------------------------------------

/- 10.0.0.5/32, to be rated. -/
def tenHost : AltoDbElement where
  host := { sAddr := 0x0500000A }
  hostMask := 32
  rating := 0

/- 10.0.0.0 with the given mask. -/
def tenNetwork
    (mask rating : Int) : AltoDbElement where
  host := { sAddr := 0x0000000A }
  hostMask := mask
  rating := rating

/- A narrow network in front of the wider one. -/
theorem longest_prefix_rating_iff_nested :
    (getAltoRating littleEndian tenHost
          [tenNetwork 24 2, tenNetwork 8 1] =
        longestPrefixRating littleEndian tenHost.host
          tenHost.hostMask [tenNetwork 24 2, tenNetwork 8 1] ↔
      RatedByAddress littleEndian tenHost.host
        tenHost.hostMask [tenNetwork 24 2, tenNetwork 8 1]) ∧
      getAltoRating littleEndian tenHost
        [tenNetwork 24 2, tenNetwork 8 1] = 2 := by
  have hNetworks :
      ∀ e ∈ [tenNetwork 24 2, tenNetwork 8 1],
        e.IsNetwork littleEndian := by
    intro e hMem
    simp only [List.mem_cons, List.not_mem_nil, or_false]
      at hMem
    rcases hMem with hEq | hEq
    · rw [hEq]
      exact ⟨by decide, by decide, by decide, by decide⟩
    · rw [hEq]
      exact ⟨by decide, by decide, by decide, by decide⟩
  refine
    ⟨longest_prefix_rating_iff
      ⟨by decide, by decide⟩ hNetworks, ?_⟩
  decide

/-
  With the wider network first the host gets the rating of
  that one, as both networks have the same address.
-/
theorem wider_network_shadows :
    (tenNetwork 8 1).IsNetwork littleEndian ∧
      (tenNetwork 24 2).IsNetwork littleEndian ∧
      getAltoRating littleEndian tenHost
        [tenNetwork 8 1, tenNetwork 24 2] = 1 ∧
      longestPrefixRating littleEndian tenHost.host
        tenHost.hostMask
        [tenNetwork 8 1, tenNetwork 24 2] = 2 := by
  refine
    ⟨⟨by decide, by decide, by decide, by decide⟩,
      ⟨by decide, by decide, by decide, by decide⟩, ?_, ?_⟩
  · decide
  · decide

end ALTO

end NapaBaselibs
