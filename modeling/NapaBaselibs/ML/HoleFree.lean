import NapaBaselibs.ML.Arrivals
import NapaBaselibs.ML.Sample

/-
  When a message is delivered without holes.

  A message counts as complete when the bytes received, with
  repeated fragments counted again, are as many as it has.
  That is right exactly when the fragments that made the
  count are the fragments of the message, each once.

  Key definitions include:
    * `DeliveredWithoutHoles`
    * `CountsExactly`

  Key theorems include:
    * `delivered_without_holes_iff`
    * `duplicate_completes_message`
-/

------------------------------------------------------------
-- Delivery Without Holes
------------------------------------------------------------

namespace NapaBaselibs

namespace ML

open Tiling (Piece total Covers upTo)

variable {σ α : Type}

/-
  The callback is called only with the whole message, after
  every byte of it has arrived; and by the time every
  fragment has arrived, it has been called once.
-/
structure DeliveredWithoutHoles
    (m : Message)
    (fragments : List Packet)
    (trace : ArrivalTrace σ α) : Prop where
  whole :
    ∀ before tr after, trace = before ++ tr :: after →
      ∀ delivery ∈ deliveries tr.outputs,
        delivery.buffer = m.bytes ∧
          delivery.msgtype = m.msgtype ∧
          ∀ k < m.length,
            Covers
              ((arrivals (before ++ [tr])).map Packet.piece)
              k
  once :
    ∀ earlier later, trace = earlier ++ later →
      fragments ⊆ arrivals earlier →
        (reported earlier).length = 1

/-
  The fragments that arrived first are those of the message,
  each once; or some fragment is missing, and what arrived
  never has as many bytes as the message.
-/
def CountsExactly
    (m : Message)
    (fragments arrived : List Packet) : Prop :=
  (∃ k, (arrived.take k).Perm fragments) ∨
    (¬ fragments ⊆ arrived ∧
      ∀ k, payloadBytes (arrived.take k) ≠ m.length)

------------------------------------------------------------
-- Which Runs Deliver Without Holes
------------------------------------------------------------

section Runs

variable {p : Platform}
variable {T : Transport σ α}
variable {fragments : List Packet}
variable {s t : Endpoint σ}
variable {trace : ArrivalTrace σ α}
variable {m : Message}

/- What arrives in a prefix arrives in the trace. -/
theorem arrivals_subset_of_append
    {earlier later : ArrivalTrace σ α}
    (hSplit : trace = earlier ++ later)
    (hSubset : arrivals trace ⊆ fragments) :
    arrivals earlier ⊆ fragments := by
  rw [hSplit, arrivals_append] at hSubset
  exact (List.append_subset.mp hSubset).1

/- With every fragment there, counting them is right. -/
theorem Receives.delivered_of_perm
    (hReceives : Receives s m fragments)
    (hRun : Run (ArrivalStep p T) s trace t)
    (hSubset : arrivals trace ⊆ fragments)
    {k : Nat}
    (hPerm : ((arrivals trace).take k).Perm fragments) :
    DeliveredWithoutHoles m fragments trace := by
  rcases (hReceives.whole_iff hSubset).mpr ⟨k, hPerm⟩ with
    ⟨_, hCovers⟩
  constructor
  · intro before tr after hTrace delivery hMem
    have hSplit : trace = (before ++ [tr]) ++ after := by
      rw [hTrace, List.append_assoc, List.singleton_append]
    rcases hRun.prefix_run ⟨after, hSplit.symm⟩ with
      ⟨u, hEarlier⟩
    rcases
      hReceives.takenIn_of_reports hEarlier
        (arrivals_subset_of_append hSplit hSubset) hMem with
      ⟨hAll, hTotal, slot, con, rfl, hHolds⟩
    have hSame :
        takenIn m trace = takenIn m (before ++ [tr]) := by
      rw [hSplit, takenIn_append_of_total_eq hTotal]
    rw [hSame] at hCovers
    rcases hHolds.delivery_eq con with
      ⟨hBuffer, hType, _, _⟩
    refine ⟨?_, hType, ?_⟩
    · rw [hBuffer, Message.assembled_of_covers hCovers]
    · rw [← hAll]
      exact hCovers
  · intro earlier later hTrace hAll
    rcases hRun.prefix_run ⟨later, hTrace.symm⟩ with
      ⟨u, hEarlier⟩
    have hEarlierSubset :=
      arrivals_subset_of_append hTrace hSubset
    have hNodup : fragments.Nodup :=
      (hReceives.tiles.nodup).of_map _
    have hLength :
        fragments.length ≤ (arrivals earlier).length :=
      (hNodup.subperm hAll).length_le
    have hShort : (arrivals trace).take k =
        (arrivals earlier).take k := by
      have hCount := hPerm.length_eq
      rw [hTrace, arrivals_append, List.length_take,
        List.length_append] at hCount
      rw [hTrace, arrivals_append]
      by_cases hLe : k ≤ (arrivals earlier).length
      · rw [List.take_append_of_le_length hLe]
      · have hNone : arrivals later = [] := by
          rw [← List.length_eq_zero_iff]
          omega
        rw [hNone, List.append_nil]
    rw [hShort] at hPerm
    rcases
      (hReceives.whole_iff hEarlierSubset).mpr ⟨k, hPerm⟩
      with ⟨hTotal, _⟩
    rcases hReceives.reports hEarlier hEarlierSubset with
      ⟨_, hOpen⟩ | ⟨slot, con, hOne, _⟩
    · exact absurd hTotal hOpen
    · rw [hOne]
      rfl

/- Nothing is reported while the bytes are never as many. -/
theorem Receives.delivered_of_never
    (hReceives : Receives s m fragments)
    (hRun : Run (ArrivalStep p T) s trace t)
    (hSubset : arrivals trace ⊆ fragments)
    (hMissing : ¬ fragments ⊆ arrivals trace)
    (hNever :
      ∀ k, payloadBytes ((arrivals trace).take k) ≠
        m.length) :
    DeliveredWithoutHoles m fragments trace := by
  constructor
  · intro before tr after hTrace delivery hMem
    have hSplit : trace = (before ++ [tr]) ++ after := by
      rw [hTrace, List.append_assoc, List.singleton_append]
    rcases hRun.prefix_run ⟨after, hSplit.symm⟩ with
      ⟨u, hEarlier⟩
    rcases
      hReceives.takenIn_of_reports hEarlier
        (arrivals_subset_of_append hSplit hSubset) hMem with
      ⟨hAll, hTotal, _⟩
    rw [hAll, ← payloadBytes_eq_total] at hTotal
    refine
      absurd ?_
        (hNever (arrivals (before ++ [tr])).length)
    rw [hSplit, arrivals_append (before ++ [tr]),
      List.take_left]
    exact hTotal
  · intro earlier later hTrace hAll
    refine absurd (fun pkt hMem => ?_) hMissing
    rw [hTrace, arrivals_append]
    exact List.mem_append_left _ (hAll hMem)

/- A run that delivers without holes counts exactly. -/
theorem Receives.countsExactly
    (hReceives : Receives s m fragments)
    (hRun : Run (ArrivalStep p T) s trace t)
    (hSubset : arrivals trace ⊆ fragments)
    (hDelivered : DeliveredWithoutHoles m fragments trace) :
    CountsExactly m fragments (arrivals trace) := by
  rcases hReceives.reports hRun hSubset with
    ⟨hNothing, hOpen⟩ | ⟨slot, con, hOne, hTotal, _⟩
  · refine Or.inr ⟨?_, ?_⟩
    · intro hAll
      have hLength :=
        hDelivered.once trace [] (List.append_nil _).symm
          hAll
      rw [hNothing] at hLength
      cases hLength
    · intro k hBytes
      rw [payloadBytes_eq_total, List.map_take] at hBytes
      apply hOpen
      unfold takenIn
      rw [Tiling.upTo_eq_of_total_take ?_ hBytes, hBytes]
      intro piece hMem
      exact
        (hReceives.tiles.bounds
          (List.map_subset Packet.piece hSubset hMem)).2.2
  · refine Or.inl ?_
    rw [← hReceives.whole_iff hSubset]
    refine ⟨hTotal, ?_⟩
    have hMem : slot.delivery con ∈ reported trace := by
      rw [hOne]
      exact List.mem_singleton_self _
    rcases List.mem_flatMap.mp hMem with ⟨tr, hTr, hIn⟩
    rcases List.append_of_mem hTr with
      ⟨before, after, hTrace⟩
    have hSplit : trace = (before ++ [tr]) ++ after := by
      rw [hTrace, List.append_assoc, List.singleton_append]
    rcases hRun.prefix_run ⟨after, hSplit.symm⟩ with
      ⟨u, hEarlier⟩
    rcases
      hReceives.takenIn_of_reports hEarlier
        (arrivals_subset_of_append hSplit hSubset) hIn with
      ⟨hAll, hFull, _⟩
    have hSame :
        takenIn m trace = takenIn m (before ++ [tr]) := by
      rw [hSplit, takenIn_append_of_total_eq hFull]
    rw [hSame, hAll]
    exact
      (hDelivered.whole before tr after hTrace _ hIn).2.2

/-
  For every run in which fragments of a message arrive: the
  message is delivered without holes if and only if the bytes
  are counted exactly.
-/
theorem delivered_without_holes_iff
    {σ' α' : Type}
    {T' : Transport σ' α'}
    (hSent : SentAs T' m fragments)
    (hAwaits : s.Awaits m)
    (hRun : Run (ArrivalStep p T) s trace t)
    (hArrivals : arrivals trace ⊆ fragments) :
    DeliveredWithoutHoles m fragments trace ↔
      CountsExactly m fragments (arrivals trace) := by
  rcases hSent.splits with ⟨hTiles, hFragments⟩
  have hReceives : Receives s m fragments :=
    ⟨hTiles, hFragments, hAwaits.reassembles⟩
  constructor
  · exact hReceives.countsExactly hRun hArrivals
  · rintro (⟨k, hPerm⟩ | ⟨hMissing, hNever⟩)
    · exact hReceives.delivered_of_perm hRun hArrivals hPerm
    · exact
        hReceives.delivered_of_never hRun hArrivals hMissing
          hNever

end Runs

------------------------------------------------------------
-- A Fragment That Arrives Twice
------------------------------------------------------------

open Sample

/- A message that takes two packets of the smallest size. -/
def Sample.message : Message where
  conId := first
  localConId := 0
  seqnr := 0
  msgtype := 0
  monDataHdr := MonHeader.none
  bytes := List.replicate 898 1
  bytes_pos := by
    rw [List.length_replicate]
    decide
  bytes_le := by
    rw [List.length_replicate]
    decide
  msgtype_lt := zero_lt_msgMultiplexSize

theorem Sample.length_message : message.length = 898 :=
  List.length_replicate ..

/- The node sends it in two halves. -/
theorem Sample.sentAs_message :
    ∃ first second,
      SentAs Transport.scripted message [first, second] ∧
        first.piece = ⟨0, 449⟩ ∧
        second.piece = ⟨449, 449⟩ := by
  have hAddresses :
      (connection 472).Addresses first message :=
    ⟨rfl, rfl, rfl⟩
  have hCarries := hAddresses.carries MonHeader.none
  have hLength :
      (message.withHeader MonHeader.none).length = 898 :=
    length_message
  have hPos : 0 < 449 := by decide
  have hSend :=
    sendMsg_twice message.msgtype message.bytes
      (connected_first 472) rfl
  rw [← length_message] at hSend
  refine
    ⟨_, _,
      .intro (connected_first 472) hAddresses ?_ ?_
        (by decide) hSend ?_,
      (hCarries.isFragment halfAttempt hPos
        (show 0 + 449 ≤ _ by omega)).2,
      (hCarries.isFragment halfAttempt hPos
        (show 449 + 449 ≤ _ by omega)).2⟩
  · intro pass hHead
    cases hHead
    rfl
  · intro pass hPass attempt hAttempt
    rw [twice, List.mem_singleton] at hPass
    subst hPass
    simp only [List.mem_cons, List.not_mem_nil, or_false,
      or_self] at hAttempt
    subst hAttempt
    decide
  · simp

/- The node is ready to take the message in. -/
theorem Sample.awaits_message :
    (connected 472).Awaits message :=
  ⟨SlotTable.find?_empty _, ⟨_, connected_first 472⟩, rfl⟩

/- The two halves can arrive in any order and number. -/
theorem Sample.exists_run_message
    {halves : List Packet}
    (pkts : List Packet)
    (hSent : SentAs Transport.scripted message halves)
    (hSubset : pkts ⊆ halves)
    (hBytes : payloadBytes pkts < 2 ^ 31)
    (hCount : pkts.length < 2 ^ 31) :
    ∃ trace t,
      Run (ArrivalStep platform Transport.scripted)
          (connected 472) trace t ∧
        arrivals trace = pkts := by
  rcases
    awaits_message.reassembles.exists_run
      (p := platform) (T := Transport.scripted)
      (fun _ => ⟨_, firstFree?_connected 472⟩)
      (fun pkt hMem => hSent.splits.2 pkt (hSubset hMem))
      (by rwa [Tiling.total_nil, Nat.zero_add])
      (by rwa [List.length_nil, Nat.zero_add]) with
    ⟨trace, t, hRun, hEvents⟩
  exact ⟨trace, t, hRun, arrivals_of_map_event hEvents⟩

/-
  The first half arrives twice: the bytes are as many as the
  message has, and it is delivered without its second half.
-/
theorem duplicate_completes_message :
    ∃ (first second : Packet)
        (trace : ArrivalTrace Unit ErrorCode)
        (t : Endpoint Unit),
      SentAs Transport.scripted message [first, second] ∧
        (connected 472).Awaits message ∧
        Run (ArrivalStep platform Transport.scripted)
          (connected 472) trace t ∧
        arrivals trace = [first, first] ∧
        ¬ DeliveredWithoutHoles message [first, second]
          trace := by
  rcases sentAs_message with
    ⟨first, second, hSent, hFirst, hSecond⟩
  have hFirstBytes : first.payload.length = 449 :=
    congrArg Piece.length hFirst
  have hBytes : payloadBytes [first, first] = 898 := by
    simp [payloadBytes, hFirstBytes]
  rcases
    exists_run_message [first, first] hSent
      (by simp) (by rw [hBytes]; decide)
      (by simp) with
    ⟨trace, t, hRun, hArrivals⟩
  have hReceives :
      Receives (connected 472) message [first, second] :=
    ⟨hSent.splits.1, hSent.splits.2,
      awaits_message.reassembles⟩
  refine
    ⟨first, second, trace, t, hSent, awaits_message, hRun, hArrivals, ?_⟩
  intro hDelivered
  rcases
    hReceives.countsExactly hRun
      (by rw [hArrivals]; simp) hDelivered with
    ⟨k, hPerm⟩ | ⟨_, hNever⟩
  · rw [hArrivals] at hPerm
    have hMem : second ∈ [first, first].take k :=
      hPerm.symm.subset (by simp)
    have hEq : second = first := by
      simpa using List.mem_of_mem_take hMem
    rw [hEq, hFirst] at hSecond
    cases hSecond
  · rw [hArrivals] at hNever
    exact hNever 2 (hBytes.trans length_message.symm)

/- The halves arrive in the other order, each once. -/
theorem delivered_without_holes_halves :
    ∃ (first second : Packet)
        (trace : ArrivalTrace Unit ErrorCode)
        (t : Endpoint Unit),
      SentAs Transport.scripted message [first, second] ∧
        Run (ArrivalStep platform Transport.scripted)
          (connected 472) trace t ∧
        arrivals trace = [second, first] ∧
        DeliveredWithoutHoles message [first, second]
          trace := by
  rcases sentAs_message with
    ⟨first, second, hSent, hFirst, hSecond⟩
  have hFirstBytes : first.payload.length = 449 :=
    congrArg Piece.length hFirst
  have hSecondBytes : second.payload.length = 449 :=
    congrArg Piece.length hSecond
  have hBytes : payloadBytes [second, first] = 898 := by
    simp [payloadBytes, hFirstBytes, hSecondBytes]
  rcases
    exists_run_message [second, first] hSent
      (by simp) (by rw [hBytes]; decide)
      (by simp) with
    ⟨trace, t, hRun, hArrivals⟩
  refine
    ⟨first, second, trace, t, hSent, hRun, hArrivals, ?_⟩
  have hSwap : [second, first].Perm [first, second] :=
    .swap first second []
  refine
    (delivered_without_holes_iff hSent awaits_message hRun
      (by rw [hArrivals]; simp)).mpr
        (Or.inl ⟨2, ?_⟩)
  rw [hArrivals]
  exact hSwap

end ML

end NapaBaselibs
