import NapaBaselibs.ML.ConnCallbacks
import NapaBaselibs.ML.Sample

/-
  Connection callbacks over runs.

  Between two events the list of each entry is proper, and the
  callbacks that were accepted have one fate each.  While the
  list of an entry is emptied that entry is ready, so that no
  callback called from the loop can add to it; this is what
  carries the proof through callbacks that call back.

  Key definitions include:
    * `CallbackNode.Pointers`, `CallbackNode.Consistent`
    * `CallbackNode.KeepsReady`
    * `CallbackNode.Conserved`

  Key theorems include:
    * `CallbackBody.perform_spec`
    * `CallbackNode.callWaiting_spec`
    * `CallbackNode.freeWaiting_spec`
    * `CallbackNode.exec_spec`
    * `callbacks_conserved`
-/

------------------------------------------------------------
-- The Lists Of The Entries
------------------------------------------------------------

namespace NapaBaselibs

namespace ML

open LinkedQueue

namespace CallbackNode

/-
  The nodes that the pointers of the entries go through.  The
  list that is being emptied, if any, may have a stale last
  pointer, and its entry is ready with nodes left.
-/
structure Pointers
    (emptying : Option ConId)
    (s : CallbackNode)
    (nodes : ConId → List (Nat × WaitingCb)) : Prop where
  holds :
    ∀ {i con}, s.connectbuf i = some con →
      Holds s.heap con.connectionCbs (nodes i)
  vacant : ∀ {i}, s.connectbuf i = none → nodes i = []
  apart :
    ∀ {i j a}, a ∈ addresses (nodes i) →
      a ∈ addresses (nodes j) → i = j
  last :
    ∀ {i con}, s.connectbuf i = some con →
      emptying ≠ some i →
        con.connectionCbs.tail = lastAddress (nodes i)
  ready :
    ∀ {i con}, s.connectbuf i = some con →
      emptying ≠ some i → con.status = .ready →
        nodes i = []

/- What the nodes of an entry stand for. -/
def registrations
    (i : ConId)
    (line : List (Nat × WaitingCb)) : List Registration :=
  line.map (fun node => node.2.registration i)

/- The lists are proper and the ledger balances. -/
structure Consistent
    (emptying : Option ConId)
    (s : CallbackNode)
    (nodes : ConId → List (Nat × WaitingCb))
    (waiting : ConId → List Registration)
    (book : List CallOutput)
    (taken : List Registration) : Prop where
  pointers : Pointers emptying s nodes
  lines :
    ∀ i, emptying ≠ some i →
      waiting i = registrations i (nodes i)
  balanced :
    Ledger.Balanced Registration.number Registration.conId
      book s.calls waiting taken

/- The entry whose list is being emptied is ready. -/
def Steady
    (emptying : Option ConId)
    (s : CallbackNode) : Prop :=
  ∀ i, emptying = some i →
    ∃ con, s.connectbuf i = some con ∧ con.status = .ready

/- An entry that is ready keeps its pointers and its list. -/
structure KeepsReady
    (s : CallbackNode)
    (nodes : ConId → List (Nat × WaitingCb))
    (waiting : ConId → List Registration)
    (s' : CallbackNode)
    (nodes' : ConId → List (Nat × WaitingCb))
    (waiting' : ConId → List Registration) : Prop where
  entry :
    ∀ {i con}, s.connectbuf i = some con →
      con.status = .ready → s'.connectbuf i = some con
  nodes :
    ∀ {i con}, s.connectbuf i = some con →
      con.status = .ready → nodes' i = nodes i
  waiting :
    ∀ {i con}, s.connectbuf i = some con →
      con.status = .ready → waiting' i = waiting i

/- A call has a result with a property, or a bad index. -/
def Ensures
    (post : CallbackNode → List CallOutput → Prop)
    (result : CallResult) : Prop :=
  match result with
  | .error fault => ∃ i, fault = .connectbufIndex i
  | .ok (s, outputs) => post s outputs

/- What is left consistent by a call. -/
def Leaves
    (emptying : Option ConId)
    (book : List CallOutput)
    (taken : List Registration)
    (s : CallbackNode)
    (nodes : ConId → List (Nat × WaitingCb))
    (waiting : ConId → List Registration)
    (s' : CallbackNode)
    (outputs : List CallOutput) : Prop :=
  ∃ nodes' waiting',
    Consistent emptying s' nodes' waiting'
        (book ++ outputs) taken ∧
      KeepsReady s nodes waiting s' nodes' waiting'

/-
  A function that keeps the lists and the ledger, also while
  a list is being emptied.
-/
def Keeps (call : CallbackNode → CallResult) : Prop :=
  ∀ {emptying : Option ConId}
    {s : CallbackNode}
    {nodes : ConId → List (Nat × WaitingCb)}
    {waiting : ConId → List Registration}
    {book : List CallOutput}
    {taken : List Registration},
    Consistent emptying s nodes waiting book taken →
      Steady emptying s →
        Ensures
          (Leaves emptying book taken s nodes waiting)
          (call s)

variable {p : Platform}
variable {malloc : Malloc}
variable {emptying emptying' : Option ConId}
variable {s s' s'' : CallbackNode}
variable {nodes nodes' nodes'' :
  ConId → List (Nat × WaitingCb)}
variable {waiting waiting' waiting'' :
  ConId → List Registration}
variable {book : List CallOutput}
variable {taken : List Registration}

------------------------------------------------------------
-- Results Of Calls
------------------------------------------------------------

/- A call after a call. -/
theorem Ensures.andThen
    {first post : CallbackNode → List CallOutput → Prop}
    {result : CallResult}
    {next : CallbackNode → CallResult}
    (hFirst : Ensures first result)
    (hNext :
      ∀ t outputs, first t outputs →
        Ensures
          (fun t' later => post t' (outputs ++ later))
          (next t)) :
    Ensures post (result.andThen next) := by
  unfold CallResult.andThen
  cases result with
  | error fault => exact hFirst
  | ok pair =>
      rcases pair with ⟨t, outputs⟩
      have hSecond := hNext t outputs hFirst
      cases hResult : next t with
      | error fault =>
          rw [hResult] at hSecond
          simp only [hResult]
          exact hSecond
      | ok other =>
          rw [hResult] at hSecond
          simp only [hResult]
          exact hSecond

/- A weaker property. -/
theorem Ensures.mono
    {first post : CallbackNode → List CallOutput → Prop}
    {result : CallResult}
    (hFirst : Ensures first result)
    (hPost :
      ∀ t outputs, first t outputs → post t outputs) :
    Ensures post result := by
  cases result with
  | error fault => exact hFirst
  | ok pair => exact hPost _ _ hFirst

theorem KeepsReady.refl
    (s : CallbackNode)
    (nodes : ConId → List (Nat × WaitingCb))
    (waiting : ConId → List Registration) :
    KeepsReady s nodes waiting s nodes waiting where
  entry := fun hCon _ => hCon
  nodes := fun _ _ => rfl
  waiting := fun _ _ => rfl

theorem KeepsReady.trans
    (hFirst :
      KeepsReady s nodes waiting s' nodes' waiting')
    (hSecond :
      KeepsReady s' nodes' waiting' s'' nodes'' waiting'') :
    KeepsReady s nodes waiting s'' nodes'' waiting'' where
  entry := fun hCon hReady =>
    hSecond.entry (hFirst.entry hCon hReady) hReady
  nodes := fun hCon hReady =>
    (hSecond.nodes (hFirst.entry hCon hReady) hReady).trans
      (hFirst.nodes hCon hReady)
  waiting := fun hCon hReady =>
    (hSecond.waiting (hFirst.entry hCon hReady)
      hReady).trans (hFirst.waiting hCon hReady)

/- The entry whose list is emptied stays ready. -/
theorem KeepsReady.steady
    (hKeeps :
      KeepsReady s nodes waiting s' nodes' waiting')
    (hSteady : Steady emptying s) :
    Steady emptying s' := by
  intro i hAt
  rcases hSteady i hAt with ⟨con, hCon, hReady⟩
  exact ⟨con, hKeeps.entry hCon hReady, hReady⟩

/- Doing nothing keeps everything. -/
theorem Consistent.leaves
    (hConsistent :
      Consistent emptying s nodes waiting book taken) :
    Leaves emptying book taken s nodes waiting s [] :=
  ⟨nodes, waiting, by rwa [List.append_nil],
    KeepsReady.refl s nodes waiting⟩

/- Two functions that keep everything, one after the other. -/
theorem Leaves.andThen
    {result : CallResult}
    {next : CallbackNode → CallResult}
    (hSteady : Steady emptying s)
    (hResult :
      Ensures (Leaves emptying book taken s nodes waiting)
        result)
    (hNext : Keeps next) :
    Ensures (Leaves emptying book taken s nodes waiting)
      (result.andThen next) := by
  apply hResult.andThen
  rintro t outputs ⟨nodes', waiting', hFirst, hKeeps⟩
  apply (hNext hFirst (hKeeps.steady hSteady)).mono
  rintro t' later ⟨nodes'', waiting'', hSecond, hKeeps'⟩
  refine ⟨nodes'', waiting'', ?_, hKeeps.trans hKeeps'⟩
  rwa [← List.append_assoc]

------------------------------------------------------------
-- Changing One Entry
------------------------------------------------------------

/-
  An entry is stored or freed, and only its own nodes change.
-/
theorem Pointers.change
    {i : ConId}
    {line : List (Nat × WaitingCb)}
    (hPointers : Pointers emptying s nodes)
    (hOthers :
      ∀ j, j ≠ i → s'.connectbuf j = s.connectbuf j)
    (hFrame :
      ∀ j, j ≠ i → ∀ a ∈ addresses (nodes j),
        s'.heap.lookup a = s.heap.lookup a)
    (hApart :
      ∀ j, j ≠ i → ∀ a ∈ addresses line,
        a ∉ addresses (nodes j))
    (hEmptying :
      ∀ j, j ≠ i → emptying' ≠ some j →
        emptying ≠ some j)
    (hVacant : s'.connectbuf i = none → line = [])
    (hHere :
      ∀ con, s'.connectbuf i = some con →
        Holds s'.heap con.connectionCbs line ∧
          (emptying' ≠ some i →
            con.connectionCbs.tail = lastAddress line ∧
              (con.status = .ready → line = []))) :
    Pointers emptying' s'
      (Function.update nodes i line) where
  holds := by
    intro j con hCon
    by_cases hAt : j = i
    · subst hAt
      rw [Function.update_self]
      exact (hHere con hCon).1
    · rw [Function.update_of_ne hAt]
      rw [hOthers j hAt] at hCon
      exact (hPointers.holds hCon).frame (hFrame j hAt)
  vacant := by
    intro j hNone
    by_cases hAt : j = i
    · subst hAt
      rw [Function.update_self]
      exact hVacant hNone
    · rw [Function.update_of_ne hAt]
      rw [hOthers j hAt] at hNone
      exact hPointers.vacant hNone
  apart := by
    intro j k a hFirst hSecond
    by_cases hJ : j = i
    · by_cases hK : k = i
      · rw [hJ, hK]
      · subst hJ
        rw [Function.update_self] at hFirst
        rw [Function.update_of_ne hK] at hSecond
        exact absurd hSecond (hApart k hK a hFirst)
    · rw [Function.update_of_ne hJ] at hFirst
      by_cases hK : k = i
      · subst hK
        rw [Function.update_self] at hSecond
        exact absurd hFirst (hApart j hJ a hSecond)
      · rw [Function.update_of_ne hK] at hSecond
        exact hPointers.apart hFirst hSecond
  last := by
    intro j con hCon hNot
    by_cases hAt : j = i
    · subst hAt
      rw [Function.update_self]
      exact ((hHere con hCon).2 hNot).1
    · rw [Function.update_of_ne hAt]
      rw [hOthers j hAt] at hCon
      exact hPointers.last hCon (hEmptying j hAt hNot)
  ready := by
    intro j con hCon hNot hReady
    by_cases hAt : j = i
    · subst hAt
      rw [Function.update_self]
      exact ((hHere con hCon).2 hNot).2 hReady
    · rw [Function.update_of_ne hAt]
      rw [hOthers j hAt] at hCon
      exact
        hPointers.ready hCon (hEmptying j hAt hNot) hReady

/- An entry is stored, with a list of its own. -/
theorem Pointers.set
    {i : ConId}
    {con : CallbackEntry}
    {line : List (Nat × WaitingCb)}
    (hPointers : Pointers emptying s nodes)
    (hTable : s'.connectbuf = s.connectbuf.set i con)
    (hFrame :
      ∀ j, j ≠ i → ∀ a ∈ addresses (nodes j),
        s'.heap.lookup a = s.heap.lookup a)
    (hApart :
      ∀ j, j ≠ i → ∀ a ∈ addresses line,
        a ∉ addresses (nodes j))
    (hEmptying :
      ∀ j, j ≠ i → emptying' ≠ some j →
        emptying ≠ some j)
    (hHolds : Holds s'.heap con.connectionCbs line)
    (hRest :
      emptying' ≠ some i →
        con.connectionCbs.tail = lastAddress line ∧
          (con.status = .ready → line = [])) :
    Pointers emptying' s'
      (Function.update nodes i line) := by
  apply hPointers.change _ hFrame hApart hEmptying
  · intro hNone
    rw [hTable, SlotTable.set_self] at hNone
    cases hNone
  · intro con' hCon'
    rw [hTable, SlotTable.set_self] at hCon'
    cases hCon'
    exact ⟨hHolds, hRest⟩
  · intro j hNe
    rw [hTable]
    exact SlotTable.set_of_ne _ _ hNe

/- No list has an address that is not in use. -/
theorem Pointers.not_mem
    {a : Nat}
    (hPointers : Pointers emptying s nodes)
    (hFree : s.heap.lookup a = none)
    (j : ConId) :
    a ∉ addresses (nodes j) := by
  cases hCon : s.connectbuf j with
  | none =>
      rw [hPointers.vacant hCon]
      exact List.not_mem_nil
  | some con =>
      exact
        (hPointers.holds hCon).path.not_mem_of_lookup_eq_none
          hFree

/- The pointers of a list at rest are null together. -/
theorem Pointers.ends
    {i : ConId}
    {con : CallbackEntry}
    (hPointers : Pointers emptying s nodes)
    (hCon : s.connectbuf i = some con)
    (hNot : emptying ≠ some i) :
    con.connectionCbs.head = none ↔
      con.connectionCbs.tail = none := by
  rw [(hPointers.holds hCon).path.start_eq_none_iff,
    hPointers.last hCon hNot, lastAddress_eq_none_iff]

/- A callback is linked at the end of a list. -/
theorem Pointers.addWaiting
    {i : ConId}
    {con : CallbackEntry}
    {cb : WaitingCb}
    (hPointers : Pointers emptying s nodes)
    (hCon : s.connectbuf i = some con)
    (hNot : emptying ≠ some i)
    (hStatus : con.status ≠ .ready) :
    ∃ (t : CallbackNode) (line : List (Nat × WaitingCb)),
      s.addWaiting malloc i con cb = .ok t ∧
        Pointers emptying t (Function.update nodes i line) ∧
        registrations i line =
          registrations i (nodes i) ++ [cb.registration i] ∧
        t.calls = s.calls + 1 ∧
        ∀ j, j ≠ i → t.connectbuf j = s.connectbuf j := by
  have hFree := malloc.fresh s.calls s.heap
  have hHolds :=
    (hPointers.holds hCon).insert ⟨cb, none⟩
      (hPointers.not_mem hFree i)
  rcases hHolds.append (AList.lookup_insert _)
      (hPointers.not_mem hFree i) with
    ⟨heap, queue, hAppend, hLine, hTail, hFrame⟩
  rw [← appendLast_eq_append _ _
    (hPointers.ends hCon hNot)] at hAppend
  unfold CallbackNode.addWaiting
  simp only [hAppend]
  refine
    ⟨_,
      nodes i ++ [(malloc.address s.calls s.heap, cb)],
      rfl, ?_, ?_, rfl, ?_⟩
  · apply hPointers.set rfl
    · intro j hNe a hMem
      rw [hFrame a
        (fun hIn => hNe (hPointers.apart hMem hIn))]
      apply AList.lookup_insert_ne
      intro hEq
      exact hPointers.not_mem hFree j (hEq ▸ hMem)
    · intro j hNe a hIn hMem
      rw [addresses_append, List.mem_append] at hIn
      rcases hIn with hOld | hNew
      · exact hNe (hPointers.apart hMem hOld)
      · rw [List.mem_singleton.mp hNew] at hMem
        exact hPointers.not_mem hFree j hMem
    · exact fun _ _ hOther => hOther
    · exact hLine
    · intro _
      refine ⟨?_, fun hReady => absurd hReady hStatus⟩
      rw [hTail, lastAddress_concat]
  · simp [registrations]
  · intro j hNe
    exact SlotTable.set_of_ne _ _ hNe

/- A new entry has a list of one callback. -/
theorem Pointers.addEntry
    {i : ConId}
    {cb : WaitingCb}
    (peer : SocketID)
    (hPointers : Pointers emptying s nodes) :
    ∃ line : List (Nat × WaitingCb),
      Pointers emptying (s.addEntry malloc i peer cb)
          (Function.update nodes i line) ∧
        registrations i line = [cb.registration i] := by
  have hFresh := malloc.fresh s.calls s.heap
  refine
    ⟨[(malloc.address s.calls s.heap, cb)], ?_, rfl⟩
  apply hPointers.set rfl
  · intro j _ a hMem
    apply AList.lookup_insert_ne
    intro hEq
    exact hPointers.not_mem hFresh j (hEq ▸ hMem)
  · intro j _ a hIn hMem
    rw [List.mem_singleton.mp hIn] at hMem
    exact hPointers.not_mem hFresh j hMem
  · exact fun _ _ hOther => hOther
  · refine ⟨?_, List.nodup_singleton _, fun _ => rfl⟩
    exact ⟨rfl, none, AList.lookup_insert _, rfl⟩
  · intro _
    refine ⟨rfl, ?_⟩
    intro hReady
    cases hReady

/- The first node of the list being emptied is freed. -/
theorem Pointers.freeFirst
    {i : ConId}
    {con : CallbackEntry}
    {a : Nat}
    {cb : WaitingCb}
    {rest : List (Nat × WaitingCb)}
    (hPointers : Pointers (some i) s nodes)
    (hCon : s.connectbuf i = some con)
    (hLine : nodes i = (a, cb) :: rest) :
    ∃ cell : Cell WaitingCb,
      s.heap.lookup a = some cell ∧
        cell.value = cb ∧
        Pointers (some i) (s.freeFirst i con a cell)
          (Function.update nodes i rest) := by
  have hHolds := hPointers.holds hCon
  rw [hLine] at hHolds
  rcases hHolds.path with ⟨hHead, next, hCell, hRest⟩
  refine ⟨⟨cb, next⟩, hCell, rfl, ?_⟩
  have hGone : a ∉ addresses rest :=
    (List.nodup_cons.mp hHolds.nodup).1
  have hIn : a ∈ addresses (nodes i) := by
    rw [hLine]
    exact List.mem_cons_self
  apply hPointers.set rfl
  · intro j hNe b hMem
    apply AList.lookup_erase_ne
    intro hEq
    exact hNe (hPointers.apart (hEq ▸ hMem) hIn)
  · intro j hNe b hHere hMem
    apply hNe
    apply hPointers.apart hMem
    rw [hLine]
    exact List.mem_cons_of_mem _ hHere
  · exact fun _ _ hOther => hOther
  · exact (hHolds.advance hCell).erase hGone
  · exact fun hNot => absurd rfl hNot

------------------------------------------------------------
-- Opening
------------------------------------------------------------

theorem acceptance_id
    (number : Nat)
    (conId : ConId)
    (connectionCb arg : Nat) :
    acceptance number (conId : Nat) (some connectionCb) arg =
      [(.accepted, ⟨number, conId, connectionCb, arg⟩)] := by
  unfold acceptance
  rw [SlotTable.index?_natCast]

/- Only an entry that is not ready has changed. -/
theorem KeepsReady.of_update
    {i : ConId}
    (line : List (Nat × WaitingCb))
    (line' : List Registration)
    (hNot :
      ∀ con, s.connectbuf i = some con →
        con.status ≠ .ready)
    (hOthers :
      ∀ j, j ≠ i → s'.connectbuf j = s.connectbuf j) :
    KeepsReady s nodes waiting s'
      (Function.update nodes i line)
      (Function.update waiting i line') := by
  have hNe :
      ∀ {j con}, s.connectbuf j = some con →
        con.status = .ready → j ≠ i := by
    intro j con hCon hReady hAt
    subst hAt
    exact hNot con hCon hReady
  constructor
  · intro j con hCon hReady
    rw [hOthers j (hNe hCon hReady)]
    exact hCon
  · intro j con hCon hReady
    exact Function.update_of_ne (hNe hCon hReady) _ _
  · intro j con hCon hReady
    exact Function.update_of_ne (hNe hCon hReady) _ _

/- A callback that was linked is waiting, and accepted. -/
theorem Consistent.push
    {i : ConId}
    {cb : WaitingCb}
    {line : List (Nat × WaitingCb)}
    (hConsistent :
      Consistent emptying s nodes waiting book taken)
    (hSteady : Steady emptying s)
    (hStatus :
      ∀ con, s.connectbuf i = some con →
        con.status ≠ .ready)
    (hNumber : cb.number = s.calls)
    (hPointers :
      Pointers emptying s' (Function.update nodes i line))
    (hLine :
      registrations i line =
        registrations i (nodes i) ++ [cb.registration i])
    (hCalls : s'.calls = s.calls + 1)
    (hOthers :
      ∀ j, j ≠ i → s'.connectbuf j = s.connectbuf j) :
    Leaves emptying book taken s nodes waiting s'
      [(.accepted, cb.registration i)] := by
  have hNot : emptying ≠ some i := by
    intro hAt
    rcases hSteady i hAt with ⟨con, hCon, hReady⟩
    exact hStatus con hCon hReady
  refine
    ⟨Function.update nodes i line,
      Function.update waiting i
        (waiting i ++ [cb.registration i]),
      ⟨hPointers, ?_, ?_⟩,
      KeepsReady.of_update line _ hStatus hOthers⟩
  · intro j hOther
    by_cases hAt : j = i
    · subst hAt
      rw [Function.update_self, Function.update_self, hLine,
        hConsistent.lines j hNot]
    · rw [Function.update_of_ne hAt,
        Function.update_of_ne hAt]
      exact hConsistent.lines j hOther
  · have hNext : (cb.registration i).number = s.calls :=
      hNumber
    rw [hCalls]
    exact (hConsistent.balanced.wait hNext).accept

/- A callback is called at once, and accepted afterwards. -/
theorem Consistent.callAtOnce
    {call : CallbackNode → CallResult}
    {r : Registration}
    (hConsistent :
      Consistent emptying s nodes waiting book taken)
    (hSteady : Steady emptying s)
    (hCall : Keeps call)
    (hNumber : r.number = s.calls) :
    Ensures
      (fun t outputs =>
        Leaves emptying book taken s nodes waiting t
          ((.atOnce, r) :: outputs ++ [(.accepted, r)]))
      (call { s with calls := s.calls + 1 }) := by
  have hTaken :
      Consistent emptying { s with calls := s.calls + 1 }
        nodes waiting (book ++ [(.atOnce, r)])
        (r :: taken) :=
    ⟨⟨hConsistent.pointers.holds,
        hConsistent.pointers.vacant,
        hConsistent.pointers.apart,
        hConsistent.pointers.last,
        hConsistent.pointers.ready⟩,
      hConsistent.lines,
      hConsistent.balanced.keep hNumber⟩
  apply (hCall hTaken hSteady).mono
  rintro t outputs ⟨nodes', waiting', hAfter, hKeeps⟩
  refine
    ⟨nodes', waiting',
      ⟨hAfter.pointers, hAfter.lines, ?_⟩,
      ⟨hKeeps.entry, hKeeps.nodes, hKeeps.waiting⟩⟩
  have hAccept := hAfter.balanced.accept
  simpa only [List.append_assoc, List.cons_append,
    List.nil_append] using hAccept

/-
  A call of `mlOpenConnection` keeps the lists and the ledger
  if the callback it may call does.
-/
theorem openConnection_spec
    {call : CallbackNode → CallResult}
    (externalSocketID : Option SocketID)
    (connectionCb : Option Nat)
    (arg : Nat)
    (body : CallbackBody)
    (hCall : Keeps call) :
    Keeps (fun s =>
      s.openConnection p malloc call externalSocketID
        connectionCb arg body) := by
  intro emptying s nodes waiting book taken hConsistent
    hSteady
  have hRefused :
      Leaves emptying book taken s nodes waiting s
        ([] ++ acceptance s.calls (-1) connectionCb arg) :=
    hConsistent.leaves
  unfold openConnection mlOpenConnection
  cases externalSocketID with
  | none => exact hRefused
  | some peer =>
    by_cases hNat : s.natTraversal = false
    · simp only [if_pos hNat]
      exact hRefused
    simp only [if_neg hNat]
    cases connectionCb with
    | none => exact hRefused
    | some connectionCb =>
      simp only
      cases hFind : s.connectionOf p peer with
      | some found =>
        rcases found with ⟨conId, con⟩
        have hCon : s.connectbuf conId = some con :=
          (SlotTable.of_find?_eq_some hFind).1
        simp only
        by_cases hReady : con.status = .ready
        · -- the callback is called before the function ends
          simp only [if_pos hReady]
          have hNumber :
              (Registration.mk s.calls conId connectionCb
                arg).number = s.calls := rfl
          have hOnce :=
            hConsistent.callAtOnce hSteady hCall hNumber
          cases hResult : call
              { s with calls := s.calls + 1 } with
          | error fault =>
              rw [hResult] at hOnce
              exact hOnce
          | ok pair =>
              rw [hResult] at hOnce
              simp only [acceptance_id]
              exact hOnce
        · simp only [if_neg hReady]
          have hStatus :
              ∀ con', s.connectbuf conId = some con' →
                con'.status ≠ .ready := by
            intro con' hCon'
            rw [hCon] at hCon'
            cases hCon'
            exact hReady
          have hNot : emptying ≠ some conId := by
            intro hAt
            rcases hSteady conId hAt with ⟨con', hCon', hR⟩
            exact hStatus con' hCon' hR
          rcases hConsistent.pointers.addWaiting hCon hNot
              hReady with
            ⟨t, line, hAdd, hPointers, hLine, hCalls,
              hOthers⟩
          rw [hAdd]
          simp only [acceptance_id]
          exact
            hConsistent.push hSteady hStatus rfl hPointers
              hLine hCalls hOthers
      | none =>
        simp only
        cases hFree : s.connectbuf.firstFree? with
        | none => exact hRefused
        | some conId =>
          have hNone :=
            SlotTable.free_of_firstFree? hFree
          rcases hConsistent.pointers.addEntry peer with
            ⟨line, hPointers, hLine⟩
          simp only [acceptance_id]
          have hNumber :
              (WaitingCb.mk connectionCb arg s.calls
                body).number = s.calls := rfl
          refine
            hConsistent.push hSteady ?_ hNumber hPointers ?_
              rfl ?_
          · intro con hCon
            rw [hNone] at hCon
            cases hCon
          · rw [hLine, hConsistent.pointers.vacant hNone]
            rfl
          · intro j hNe
            exact SlotTable.set_of_ne _ _ hNe

------------------------------------------------------------
-- Callbacks That Call Back
------------------------------------------------------------

/- Sending data changes no list. -/
theorem mlSendData_spec (connectionID : Int) :
    Keeps (fun s => s.mlSendData connectionID) := by
  intro emptying s nodes waiting book taken hConsistent _
  unfold mlSendData entryAt
  by_cases hNone : connectionID < 0
  · simp only [if_pos hNone]
    exact hConsistent.leaves
  · simp only [if_neg hNone]
    cases SlotTable.index? connectbufSize connectionID with
    | none => exact ⟨connectionID, rfl⟩
    | some conId => exact hConsistent.leaves

end CallbackNode

open CallbackNode

/-
  Whatever a callback does, the lists stay proper and the
  ledger balances.
-/
theorem CallbackBody.perform_spec
    (p : Platform)
    (malloc : Malloc)
    (body : CallbackBody) :
    Keeps (body.perform p malloc) := by
  induction body with
  | done =>
      intro emptying s nodes waiting book taken hConsistent _
      exact hConsistent.leaves
  | openConnection peer connectionCb arg body rest ihBody
      ihRest =>
      intro emptying s nodes waiting book taken hConsistent
        hSteady
      have hOpen :
          Ensures (Leaves emptying book taken s nodes waiting)
            (s.openConnection p malloc
              (fun s' => body.perform p malloc s') peer
              connectionCb arg body) :=
        openConnection_spec peer connectionCb arg body
          ihBody hConsistent hSteady
      exact Leaves.andThen hSteady hOpen ihRest
  | sendData connectionID rest ihRest =>
      intro emptying s nodes waiting book taken hConsistent
        hSteady
      have hSend :=
        mlSendData_spec connectionID hConsistent hSteady
      exact Leaves.andThen hSteady hSend ihRest

namespace CallbackNode

theorem callIfSet_spec
    (p : Platform)
    (malloc : Malloc)
    (cb : Option CallbackBody) :
    Keeps (fun s => s.callIfSet p malloc cb) := by
  cases cb with
  | none =>
      intro emptying s nodes waiting book taken hConsistent _
      exact hConsistent.leaves
  | some body => exact body.perform_spec p malloc

------------------------------------------------------------
-- Emptying A List
------------------------------------------------------------

/- What is consistent when no list is being emptied. -/
def Settles
    (book : List CallOutput)
    (taken : List Registration)
    (s : CallbackNode)
    (outputs : List CallOutput) : Prop :=
  ∃ nodes waiting,
    Consistent none s nodes waiting (book ++ outputs) taken

theorem steady_none (s : CallbackNode) :
    Steady none s := by
  intro i hAt
  cases hAt

/- More of a list has been read or freed than at rest. -/
theorem Consistent.empty
    (hConsistent :
      Consistent none s nodes waiting book taken)
    (i : ConId) :
    Consistent (some i) s nodes waiting book taken where
  pointers :=
    { holds := hConsistent.pointers.holds
      vacant := hConsistent.pointers.vacant
      apart := hConsistent.pointers.apart
      last := fun hCon _ =>
        hConsistent.pointers.last hCon nofun
      ready := fun hCon _ =>
        hConsistent.pointers.ready hCon nofun }
  lines := fun j _ => hConsistent.lines j nofun
  balanced := hConsistent.balanced

/- The first callback leaves the line of its entry. -/
theorem Consistent.leave
    {i : ConId}
    {fate : Ledger.Fate}
    {r : Registration}
    {rest : List Registration}
    (hConsistent :
      Consistent (some i) s nodes waiting book taken)
    (hLeaves : fate.Leaves)
    (hLine : waiting i = r :: rest) :
    Consistent (some i) s nodes
      (Function.update waiting i rest)
      (book ++ [(fate, r)]) taken where
  pointers := hConsistent.pointers
  lines := by
    intro j hNot
    have hNe : j ≠ i := fun hEq => hNot (congrArg some hEq.symm)
    rw [Function.update_of_ne hNe]
    exact hConsistent.lines j hNot
  balanced := hConsistent.balanced.leave hLeaves hLine

/- The node of a callback that has left is freed. -/
theorem Consistent.freeFirst
    {i : ConId}
    {con : CallbackEntry}
    {a : Nat}
    {cb : WaitingCb}
    {rest : List (Nat × WaitingCb)}
    (hConsistent :
      Consistent (some i) s nodes waiting book taken)
    (hCon : s.connectbuf i = some con)
    (hLine : nodes i = (a, cb) :: rest) :
    ∃ cell : Cell WaitingCb,
      s.heap.lookup a = some cell ∧ cell.value = cb ∧
        Consistent (some i) (s.freeFirst i con a cell)
          (Function.update nodes i rest) waiting book
          taken := by
  rcases hConsistent.pointers.freeFirst hCon hLine with
    ⟨cell, hCell, hValue, hPointers⟩
  refine ⟨cell, hCell, hValue, hPointers, ?_,
    hConsistent.balanced⟩
  intro j hNot
  have hNe : j ≠ i := fun hEq => hNot (congrArg some hEq.symm)
  rw [Function.update_of_ne hNe]
  exact hConsistent.lines j hNot

/- An empty list is at rest again. -/
theorem Consistent.emptied
    {i : ConId}
    {con : CallbackEntry}
    (hConsistent :
      Consistent (some i) s nodes waiting book taken)
    (hNone : waiting i = [])
    (hEmpty : con.connectionCbs = Queue.empty) :
    Consistent none (s.setEntry i con)
      (Function.update nodes i []) waiting book taken where
  pointers := by
    apply hConsistent.pointers.set rfl
    · intro j _ a _
      rfl
    · intro j _ a hIn
      cases hIn
    · intro j hNe _ hSame
      exact hNe (Option.some.inj hSame).symm
    · rw [hEmpty]
      exact Holds.empty s.heap
    · intro _
      rw [hEmpty]
      exact ⟨rfl, fun _ => rfl⟩
  lines := by
    intro j _
    by_cases hAt : j = i
    · subst hAt
      rw [Function.update_self, hNone]
      rfl
    · rw [Function.update_of_ne hAt]
      apply hConsistent.lines
      intro hSame
      exact hAt (Option.some.inj hSame).symm
  balanced := hConsistent.balanced

/- The first node is where the first pointer points. -/
theorem Pointers.first
    {i : ConId}
    {con : CallbackEntry}
    {a : Nat}
    {cb : WaitingCb}
    {rest : List (Nat × WaitingCb)}
    (hPointers : Pointers emptying s nodes)
    (hCon : s.connectbuf i = some con)
    (hLine : nodes i = (a, cb) :: rest) :
    con.connectionCbs.head = some a ∧
      ∃ next, s.heap.lookup a = some ⟨cb, next⟩ := by
  have hHolds := hPointers.holds hCon
  rw [hLine] at hHolds
  rcases hHolds.path with ⟨hHead, next, hCell, _⟩
  exact ⟨hHead, next, hCell⟩

theorem Pointers.head_none
    {i : ConId}
    {con : CallbackEntry}
    (hPointers : Pointers emptying s nodes)
    (hCon : s.connectbuf i = some con)
    (hLine : nodes i = []) :
    con.connectionCbs.head = none :=
  (hPointers.holds hCon).path.start_eq_none_iff.mpr hLine

/-
  The loop calls what is left of a list, oldest first.  The
  induction is on the list: a callback cannot change it, as
  the entry is ready.
-/
theorem callWaiting_spec
    {i : ConId}
    {con : CallbackEntry}
    {line : List (Nat × WaitingCb)}
    {fuel : Nat}
    (hConsistent :
      Consistent (some i) s nodes waiting book taken)
    (hCon : s.connectbuf i = some con)
    (hReady : con.status = .ready)
    (hNodes : nodes i = line)
    (hWaiting : waiting i = registrations i line)
    (hFuel : line.length ≤ fuel) :
    Ensures (Settles book taken)
      (s.callWaiting p malloc fuel i) := by
  induction line generalizing s nodes waiting book con fuel with
  | nil =>
      have hHead :=
        hConsistent.pointers.head_none hCon hNodes
      rw [callWaiting]
      simp only [hCon, hHead]
      refine ⟨Function.update nodes i [], waiting, ?_⟩
      rw [List.append_nil]
      exact hConsistent.emptied hWaiting rfl
  | cons node line ih =>
      rcases node with ⟨a, cb⟩
      cases fuel with
      | zero => cases hFuel
      | succ fuel =>
        rcases hConsistent.pointers.first hCon hNodes with
          ⟨hHead, next, hCell⟩
        have hSteady : Steady (some i) s := by
          intro j hAt
          cases hAt
          exact ⟨con, hCon, hReady⟩
        have hLeft := hConsistent.leave (.inl rfl) hWaiting
        have hBody := cb.body.perform_spec p malloc hLeft hSteady
        have hFirst :
            Ensures
              (fun t outputs =>
                ∃ later,
                  outputs = (.later, cb.registration i) :: later ∧
                    Leaves (some i)
                      (book ++ [(.later, cb.registration i)])
                      taken s nodes
                      (Function.update waiting i
                        (registrations i line)) t later)
              (CallResult.andThen
                (.ok (s, [(.later, cb.registration i)]))
                (cb.body.perform p malloc)) := by
          have hHere :
              Ensures
                (fun t outputs =>
                  t = s ∧
                    outputs = [(.later, cb.registration i)])
                (.ok (s, [(.later, cb.registration i)])) :=
            ⟨rfl, rfl⟩
          refine hHere.andThen ?_
          rintro t outputs ⟨rfl, rfl⟩
          exact hBody.mono fun t' later hLeaves =>
            ⟨later, rfl, hLeaves⟩
        rw [callWaiting]
        simp only [hCon, hHead, hCell]
        refine hFirst.andThen ?_
        rintro t outputs
          ⟨later, rfl, nodes', waiting', hAfter, hKeeps⟩
        have hCon' := hKeeps.entry hCon hReady
        have hNodes' := (hKeeps.nodes hCon hReady).trans hNodes
        have hWaiting' := hKeeps.waiting hCon hReady
        rw [Function.update_self] at hWaiting'
        rcases hAfter.freeFirst hCon' hNodes' with
          ⟨cell, hCell', _, hFreed⟩
        simp only [hCell', hCon']
        have hRest :=
          ih hFreed (SlotTable.set_self _ _ _) hReady
            (Function.update_self ..) hWaiting'
            (Nat.le_of_succ_le_succ hFuel)
        apply hRest.mono
        rintro t' outputs ⟨nodes'', waiting'', hSettled⟩
        refine ⟨nodes'', waiting'', ?_⟩
        simpa only [List.append_assoc, List.cons_append,
          List.nil_append] using hSettled

/- An entry that becomes ready has its callbacks called. -/
theorem becomeReady_spec
    {i : ConId}
    {con : CallbackEntry}
    (receiveConnectionCb : Option CallbackBody)
    (hConsistent :
      Consistent none s nodes waiting book taken)
    (hCon : s.connectbuf i = some con) :
    Ensures (Settles book taken)
      (s.becomeReady p malloc i con receiveConnectionCb) := by
  have hSet :
      (s.setEntry i { con with status := .ready }).connectbuf i =
        some { con with status := .ready } :=
    SlotTable.set_self _ _ _
  have hEmptying := hConsistent.empty i
  have hStarts :
      Consistent (some i)
        (s.setEntry i { con with status := .ready }) nodes
        waiting book taken := by
    refine ⟨?_, hEmptying.lines, hConsistent.balanced⟩
    have hPointers :
        Pointers (some i)
          (s.setEntry i { con with status := .ready })
          (Function.update nodes i (nodes i)) := by
      apply hEmptying.pointers.set rfl
      · intro j _ a _
        rfl
      · intro j hNe a hHere hThere
        exact hNe (hEmptying.pointers.apart hThere hHere)
      · exact fun _ _ hOther => hOther
      · have hHolds := hEmptying.pointers.holds hCon
        exact hHolds
      · exact fun hNot => absurd rfl hNot
    rwa [Function.update_eq_self] at hPointers
  have hSteady :
      Steady (some i)
        (s.setEntry i { con with status := .ready }) := by
    intro j hAt
    cases hAt
    exact ⟨_, hSet, rfl⟩
  unfold becomeReady
  refine (callIfSet_spec p malloc receiveConnectionCb hStarts
    hSteady).andThen ?_
  rintro t outputs ⟨nodes', waiting', hAfter, hKeeps⟩
  have hCon' := hKeeps.entry hSet rfl
  have hLine :
      waiting' i = registrations i (nodes' i) := by
    rw [hKeeps.waiting hSet rfl, hKeeps.nodes hSet rfl]
    exact hConsistent.lines i nofun
  have hHolds := hAfter.pointers.holds hCon'
  have hCalled :
      Ensures (Settles (book ++ outputs) taken)
        (t.callWaiting p malloc t.heap.entries.length i) :=
    callWaiting_spec hAfter hCon' rfl rfl hLine
      (hHolds.path.length_le hHolds.nodup)
  apply hCalled.mono
  rintro t' outputs ⟨nodes'', waiting'', hSettled⟩
  refine ⟨nodes'', waiting'', ?_⟩
  rwa [← List.append_assoc]

------------------------------------------------------------
-- Connection Messages
------------------------------------------------------------

theorem Consistent.settles
    (hConsistent :
      Consistent none s nodes waiting book taken) :
    Settles book taken s [] :=
  ⟨nodes, waiting, by rwa [List.append_nil]⟩

/- An invitation leaves the lists as they are. -/
theorem recvInvite_spec
    (sockId : SocketID)
    (hConsistent :
      Consistent none s nodes waiting book taken) :
    Settles book taken (s.recvInvite p sockId) [] := by
  have hStore
      (i : ConId)
      (con : CallbackEntry)
      (hHolds : Holds s.heap con.connectionCbs (nodes i))
      (hLast : con.connectionCbs.tail = lastAddress (nodes i))
      (hStatus : con.status = .connect) :
      Consistent none (s.setEntry i con) nodes waiting book
        taken := by
    refine ⟨?_, hConsistent.lines, hConsistent.balanced⟩
    have hPointers :
        Pointers none (s.setEntry i con)
          (Function.update nodes i (nodes i)) := by
      apply hConsistent.pointers.set rfl
      · intro j _ a _
        rfl
      · intro j hNe a hHere hThere
        exact hNe (hConsistent.pointers.apart hThere hHere)
      · exact fun _ _ hOther => hOther
      · exact hHolds
      · refine fun _ => ⟨hLast, fun hReady => ?_⟩
        rw [hStatus] at hReady
        cases hReady
    rwa [Function.update_eq_self] at hPointers
  unfold recvInvite
  cases hFind : s.connectionOf p sockId with
  | some found =>
      rcases found with ⟨i, con⟩
      have hCon : s.connectbuf i = some con :=
        (SlotTable.of_find?_eq_some hFind).1
      have hHolds := hConsistent.pointers.holds hCon
      have hLast := hConsistent.pointers.last hCon nofun
      simp only
      exact
        (hStore i { con with status := .connect } hHolds hLast
          rfl).settles
  | none =>
      simp only
      cases hFree : s.connectbuf.firstFree? with
      | none => exact hConsistent.settles
      | some i =>
          have hNone :=
            hConsistent.pointers.vacant
              (SlotTable.free_of_firstFree? hFree)
          have hEmpty : Holds s.heap Queue.empty (nodes i) := by
            rw [hNone]
            exact Holds.empty s.heap
          have hNull :
              Queue.empty.tail = lastAddress (nodes i) := by
            rw [hNone]
            rfl
          exact (hStore i _ hEmpty hNull rfl).settles

/- Both answers empty the list of an entry that waits. -/
theorem recvAnswer_spec
    (expected : ConMsgType)
    (remoteConId : Int)
    (receiveConnectionCb : Option CallbackBody)
    (hConsistent :
      Consistent none s nodes waiting book taken) :
    Ensures (Settles book taken)
      (s.recvAnswer p malloc expected remoteConId
        receiveConnectionCb) := by
  unfold recvAnswer entryAt
  cases SlotTable.index? connectbufSize remoteConId with
  | none => exact ⟨remoteConId, rfl⟩
  | some i =>
      cases hCon : s.connectbuf i with
      | none =>
          simp only [hCon]
          exact hConsistent.settles
      | some con =>
          simp only [hCon]
          split
          · exact becomeReady_spec receiveConnectionCb
              hConsistent hCon
          · exact hConsistent.settles

------------------------------------------------------------
-- Closing
------------------------------------------------------------

/- The loop drops what is left of a list, oldest first. -/
theorem freeWaiting_spec
    {i : ConId}
    {con : CallbackEntry}
    {line : List (Nat × WaitingCb)}
    {fuel : Nat}
    (hConsistent :
      Consistent (some i) s nodes waiting book taken)
    (hCon : s.connectbuf i = some con)
    (hNodes : nodes i = line)
    (hWaiting : waiting i = registrations i line)
    (hFuel : line.length ≤ fuel) :
    Ensures
      (fun t outputs =>
        ∃ nodes' waiting',
          Consistent (some i) t nodes' waiting'
              (book ++ outputs) taken ∧
            waiting' i = [])
      (s.freeWaiting fuel i) := by
  induction line generalizing s nodes waiting book con fuel with
  | nil =>
      have hHead :=
        hConsistent.pointers.head_none hCon hNodes
      rw [freeWaiting]
      simp only [hCon, hHead]
      refine ⟨nodes, waiting, ?_, hWaiting⟩
      rwa [List.append_nil]
  | cons node line ih =>
      rcases node with ⟨a, cb⟩
      cases fuel with
      | zero => cases hFuel
      | succ fuel =>
        rcases hConsistent.pointers.first hCon hNodes with
          ⟨hHead, next, hCell⟩
        have hLeft := hConsistent.leave (.inr rfl) hWaiting
        rcases hLeft.freeFirst hCon hNodes with
          ⟨cell, hCell', hValue, hFreed⟩
        have hRest :=
          ih hFreed (SlotTable.set_self _ _ _)
            (Function.update_self ..) (Function.update_self ..)
            (Nat.le_of_succ_le_succ hFuel)
        have hHere :
            Ensures
              (fun t outputs =>
                t = s.freeFirst i con a cell ∧
                  outputs = [(.dropped, cb.registration i)])
              (.ok (s.freeFirst i con a cell,
                [(.dropped, cell.value.registration i)])) := by
          rw [hValue]
          exact ⟨rfl, rfl⟩
        rw [freeWaiting]
        simp only [hCon, hHead, hCell']
        refine hHere.andThen ?_
        rintro t outputs ⟨rfl, rfl⟩
        apply hRest.mono
        rintro t' outputs ⟨nodes', waiting', hAfter, hNone⟩
        refine ⟨nodes', waiting', ?_, hNone⟩
        rwa [← List.append_assoc]

/- An entry whose list is empty is freed. -/
theorem Consistent.closed
    {i : ConId}
    (hConsistent :
      Consistent (some i) s nodes waiting book taken)
    (hNone : waiting i = []) :
    Consistent none
      { s with connectbuf := s.connectbuf.free i }
      (Function.update nodes i []) waiting book taken where
  pointers := by
    apply hConsistent.pointers.change
    · intro j hNe
      exact SlotTable.free_of_ne _ hNe
    · intro j _ a _
      rfl
    · intro j _ a hIn
      cases hIn
    · intro j hNe _ hSame
      exact hNe (Option.some.inj hSame).symm
    · exact fun _ => rfl
    · intro con hCon
      have hFree : s.connectbuf.free i i = some con := hCon
      rw [SlotTable.free_self] at hFree
      cases hFree
  lines := by
    intro j _
    by_cases hAt : j = i
    · subst hAt
      rw [Function.update_self, hNone]
      rfl
    · rw [Function.update_of_ne hAt]
      apply hConsistent.lines
      intro hSame
      exact hAt (Option.some.inj hSame).symm
  balanced := hConsistent.balanced

theorem mlCloseConnection_spec
    (connectionID : Int)
    (hConsistent :
      Consistent none s nodes waiting book taken) :
    Ensures (Settles book taken)
      (s.mlCloseConnection connectionID) := by
  unfold mlCloseConnection entryAt
  cases SlotTable.index? connectbufSize connectionID with
  | none => exact ⟨connectionID, rfl⟩
  | some i =>
      cases hCon : s.connectbuf i with
      | none =>
          simp only [hCon]
          exact hConsistent.settles
      | some con =>
          simp only [hCon]
          have hHolds := hConsistent.pointers.holds hCon
          have hFreed :=
            freeWaiting_spec (hConsistent.empty i) hCon rfl
              (hConsistent.lines i nofun)
              (hHolds.path.length_le hHolds.nodup)
          refine hFreed.andThen ?_
          rintro t outputs ⟨nodes', waiting', hAfter, hNone⟩
          refine ⟨Function.update nodes' i [], waiting', ?_⟩
          rw [List.append_nil]
          exact hAfter.closed hNone

theorem pmtuTimeoutCb_spec
    (conId : ConId)
    (givesUp : Bool)
    (failedConnectionCb : Option CallbackBody)
    (hConsistent :
      Consistent none s nodes waiting book taken) :
    Ensures (Settles book taken)
      (s.pmtuTimeoutCb p malloc conId givesUp
        failedConnectionCb) := by
  unfold pmtuTimeoutCb
  cases s.connectbuf conId with
  | none => exact hConsistent.settles
  | some con =>
      simp only
      split
      · exact hConsistent.settles
      · refine (callIfSet_spec p malloc failedConnectionCb
          hConsistent (steady_none s)).andThen ?_
        rintro t outputs ⟨nodes', waiting', hAfter, -⟩
        apply (mlCloseConnection_spec _ hAfter).mono
        rintro t' later ⟨nodes'', waiting'', hSettled⟩
        refine ⟨nodes'', waiting'', ?_⟩
        rwa [← List.append_assoc]

------------------------------------------------------------
-- Events And Runs
------------------------------------------------------------

/-
  After every event the lists are proper and the ledger
  balances, unless a message names an entry outside the table.
-/
theorem exec_spec
    (event : CallbackEvent)
    (hConsistent :
      Consistent none s nodes waiting book taken) :
    Ensures (Settles book taken) (s.exec p malloc event) := by
  have hLeaves {call : CallbackNode → CallResult}
      (hCall : Keeps call) :
      Ensures (Settles book taken) (call s) :=
    (hCall hConsistent (steady_none s)).mono
      fun t outputs ⟨nodes', waiting', hAfter, _⟩ =>
        ⟨nodes', waiting', hAfter⟩
  cases event with
  | receiveSocketID =>
      refine ⟨nodes, waiting, ?_⟩
      rw [List.append_nil]
      exact
        ⟨⟨hConsistent.pointers.holds,
            hConsistent.pointers.vacant,
            hConsistent.pointers.apart,
            hConsistent.pointers.last,
            hConsistent.pointers.ready⟩,
          hConsistent.lines, hConsistent.balanced⟩
  | openConnection peer connectionCb arg body =>
      exact hLeaves
        (openConnection_spec peer connectionCb arg body
          (body.perform_spec p malloc))
  | closeConnection connectionID =>
      exact mlCloseConnection_spec connectionID hConsistent
  | connMsg command sockId remoteConId cb =>
      cases command with
      | invite => exact recvInvite_spec sockId hConsistent
      | connect =>
          exact recvAnswer_spec .invite remoteConId cb
            hConsistent
      | ready =>
          exact recvAnswer_spec .connect remoteConId cb
            hConsistent
  | pmtuTimeout conId givesUp cb =>
      exact pmtuTimeoutCb_spec conId givesUp cb hConsistent

/- The list of an entry between two events. -/
structure AtRest
    (heap : Heap WaitingCb)
    (con : CallbackEntry)
    (line : List (Nat × WaitingCb)) : Prop where
  path : Path heap con.connectionCbs.head line
  distinct : (addresses line).Nodup
  null :
    con.connectionCbs.head = none ↔
      con.connectionCbs.tail = none
  last : con.connectionCbs.tail = lastAddress line
  ready : con.status = .ready → con.connectionCbs.head = none

/-
  The lists are at rest, and a callback that was accepted was
  called at once, or is in the list of its connection, or was
  called from there later, or was dropped: one of these, and
  once.  The callbacks of a connection leave its list in the
  order in which they were registered.
-/
structure Conserved
    (s : CallbackNode)
    (book : List CallOutput)
    (nodes : ConId → List (Nat × WaitingCb)) : Prop where
  atRest :
    ∀ {i con}, s.connectbuf i = some con →
      AtRest s.heap con (nodes i)
  vacant : ∀ {i}, s.connectbuf i = none → nodes i = []
  distinct :
    ((Ledger.of .accepted book).map
      Registration.number).Nodup
  oneFate :
    ∀ r,
      (Ledger.of .atOnce book).count r +
          (Ledger.of .later book).count r +
          (Ledger.of .dropped book).count r +
          ∑ i, (registrations i (nodes i)).count r =
        if r ∈ Ledger.of .accepted book then 1 else 0
  inOrder :
    ∀ i,
      ((Ledger.left Registration.conId book i ++
          registrations i (nodes i)).map
        Registration.number).Pairwise (· < ·)

theorem Consistent.conserved
    (hConsistent :
      Consistent none s nodes waiting book []) :
    Conserved s book nodes := by
  have hLines : waiting = fun i => registrations i (nodes i) :=
    funext fun i => hConsistent.lines i nofun
  have hBalanced := hConsistent.balanced
  rw [hLines] at hBalanced
  have hPointers := hConsistent.pointers
  refine ⟨?_, hPointers.vacant, ?_, hBalanced.exactly_one,
    hBalanced.ordered⟩
  · intro i con hCon
    have hHolds := hPointers.holds hCon
    refine ⟨hHolds.path, hHolds.nodup,
      hPointers.ends hCon nofun, hPointers.last hCon nofun, ?_⟩
    intro hReady
    exact hPointers.head_none hCon
      (hPointers.ready hCon nofun hReady)
  · have hDistinct := hBalanced.distinct
    rwa [List.append_nil] at hDistinct

/- Before the first event. -/
theorem consistent_initial (natTraversal : Bool) :
    Consistent none (initial natTraversal) (fun _ => [])
      (fun _ => []) [] [] where
  pointers :=
    { holds := nofun
      vacant := fun _ => rfl
      apart := nofun
      last := nofun
      ready := nofun }
  lines := fun _ _ => rfl
  balanced := Ledger.Balanced.empty _ _

/- What has happened to callbacks in a run. -/
def bookOf
    (trace :
      List (Transition CallbackNode CallbackEvent CallOutput)) :
    List CallOutput :=
  trace.flatMap Transition.outputs

theorem settles_of_run
    {trace :
      List (Transition CallbackNode CallbackEvent CallOutput)}
    (hRun : Run (Step p malloc) s trace s')
    (hConsistent :
      Consistent none s nodes waiting book taken) :
    Settles book taken s' (bookOf trace) := by
  induction hRun generalizing nodes waiting book with
  | nil s => exact hConsistent.settles
  | @cons s t u event outputs trace hStep _ ih =>
      have hEvent : Ensures (Settles book taken)
          (s.exec p malloc event) :=
        exec_spec event hConsistent
      rw [show s.exec p malloc event = _ from hStep] at hEvent
      rcases hEvent with ⟨nodes', waiting', hAfter⟩
      rcases ih hAfter with ⟨nodes'', waiting'', hSettled⟩
      refine ⟨nodes'', waiting'', ?_⟩
      rwa [List.append_assoc] at hSettled

end CallbackNode

open CallbackNode

/-
  In every run the callbacks of connections are conserved, and
  each further event has a result, unless it names an entry
  outside the table.
-/
theorem callbacks_conserved
    (p : Platform)
    (malloc : Malloc)
    (natTraversal : Bool)
    {trace :
      List (Transition CallbackNode CallbackEvent CallOutput)}
    {s : CallbackNode}
    (hRun :
      Run (CallbackNode.Step p malloc) (initial natTraversal)
        trace s) :
    (∃ nodes, Conserved s (bookOf trace) nodes) ∧
      ∀ event fault, s.exec p malloc event = .error fault →
        ∃ i, fault = .connectbufIndex i := by
  rcases settles_of_run hRun (consistent_initial natTraversal)
    with ⟨nodes, waiting, hSettled⟩
  rw [List.nil_append] at hSettled
  refine ⟨⟨nodes, hSettled.conserved⟩, ?_⟩
  intro event fault hFault
  have hEvent : Ensures (Settles (bookOf trace) [])
      (s.exec p malloc event) :=
    exec_spec event hSettled
  rw [hFault] at hEvent
  exact hEvent

/- A `malloc` that answers above all addresses in use. -/
def Malloc.above : Malloc where
  address _ heap := heap.keys.foldr max 0 + 1
  fresh calls heap := by
    rw [AList.lookup_eq_none]
    intro hIn
    have hLe : ∀ (keys : List Nat) (a : Nat),
        a ∈ keys → a ≤ keys.foldr max 0 := by
      intro keys
      induction keys with
      | nil => simp
      | cons k keys ih =>
          intro a hA
          rcases List.mem_cons.mp hA with rfl | hRest
          · exact le_max_left _ _
          · exact (ih a hRest).trans (le_max_right _ _)
    have hSelf := hLe heap.keys _ (AList.mem_keys.mp hIn)
    omega

/- The first entry, with one callback that waits. -/
def invited : CallbackNode :=
  (initial true).addEntry Malloc.above Sample.first
    (Sample.socketID 2) ⟨7, 5, 0, .done⟩

theorem exec_open :
    (initial true).exec Sample.platform Malloc.above
        (.openConnection (some (Sample.socketID 2)) (some 7) 5
          .done) =
      .ok (invited, [(.accepted, ⟨0, Sample.first, 7, 5⟩)]) := by
  have hFree :
      (initial true).connectbuf.firstFree? =
        some Sample.first :=
    SlotTable.firstFree?_empty (n := 9999)
  have hFind (peer : SocketID) :
      (initial true).connectionOf Sample.platform peer = none :=
    SlotTable.find?_empty _
  have hNat : (initial true).natTraversal = true := rfl
  unfold CallbackNode.exec CallbackNode.openConnection
    CallbackNode.mlOpenConnection
  simp only [hNat, hFind, hFree]
  rfl

/- Its peer answers. -/
theorem exec_connect :
    ∃ s,
      invited.exec Sample.platform Malloc.above
          (.connMsg .connect (Sample.socketID 2) 0 none) =
        .ok (s, [(.later, ⟨0, Sample.first, 7, 5⟩)]) :=
  ⟨_, rfl⟩

/- A callback waits until its connection is ready. -/
theorem one_callback_conserved :
    ∃ trace s,
      Run (CallbackNode.Step Sample.platform Malloc.above)
          (initial true) trace s ∧
        bookOf trace =
          [(.accepted, ⟨0, Sample.first, 7, 5⟩),
            (.later, ⟨0, Sample.first, 7, 5⟩)] ∧
        ∃ nodes, Conserved s (bookOf trace) nodes := by
  rcases exec_connect with ⟨s, hConnect⟩
  have hRun :
      ∃ trace,
        Run (CallbackNode.Step Sample.platform Malloc.above)
            (initial true) trace s ∧
          bookOf trace =
            [(.accepted, ⟨0, Sample.first, 7, 5⟩),
              (.later, ⟨0, Sample.first, 7, 5⟩)] :=
    ⟨_, .cons exec_open (.cons hConnect (.nil s)), rfl⟩
  rcases hRun with ⟨trace, hRun, hBook⟩
  exact ⟨trace, s, hRun, hBook,
    (callbacks_conserved Sample.platform Malloc.above true
      hRun).1⟩

end ML

end NapaBaselibs
