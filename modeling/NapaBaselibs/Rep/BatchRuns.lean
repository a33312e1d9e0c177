import NapaBaselibs.Rep.BatchPublish
import NapaBaselibs.Rep.SharedStream

/-
  Batch publishing over whole runs.

  Every record that was accepted is kept, or has been put
  into one batch; a batch that is answered has its callbacks
  called, each once.  This holds while batches do not
  overlap, every reply carries a response code, and success
  is reported only for records that were written.

  Key definitions include:
    * `accepted`, `posts`, `answers`, `calls`
    * `PublishedOnce`
    * `StaysTruthful`

  Key theorems include:
    * `PublishedOnce.snoc`
    * `Repoclient.InStep.step`
    * `published_once`
    * `overlapping_batches_lose_callback`
-/

------------------------------------------------------------
-- What A Run Has Done
------------------------------------------------------------

namespace NapaBaselibs

namespace Rep

/- A transition of the client. -/
abbrev RepTransition :=
  Transition Repoclient RepEvent RepOutput

/- The transitions of a run, oldest first. -/
abbrev RepTrace := List RepTransition

/- The handle that is returned, if it is not `NULL`. -/
def RepOutput.handle? : RepOutput → Option Pointer
| .returned handle => if handle ≠ 0 then some handle else none
| _ => none

/- The POST request that is made. -/
def RepOutput.post? : RepOutput → Option Post
| .post sent => some sent
| _ => none

/- The request whose callback is called, and the result. -/
def RepOutput.call? : RepOutput → Option (RequestData × Int)
| .callback rd _ result => some (rd, result)
| _ => none

/- The record of a call of `repPublish`, and its request. -/
def PublishCall.entry?
    (call : PublishCall) : Option DeferredPublish :=
  call.r.map (fun r => ⟨r, call.requestdata⟩)

/-
  What a transition accepts: the record of a call that
  returns a handle.
-/
def acceptedBy (tr : RepTransition) : List DeferredPublish :=
  match tr.event with
  | .repPublish call =>
      if (tr.outputs.filterMap RepOutput.handle?) ≠ [] then
        call.entry?.toList
      else
        []
  | _ => []

/- The request that a transition answers, with the code. -/
def answeredBy
    (tr : RepTransition) : List (Post × Option Int) :=
  match tr.event with
  | .batchPublishCallback i req _ =>
      (tr.pre.outstanding[i]?.map (fun post =>
        (post, req))).toList
  | _ => []

def accepted (trace : RepTrace) : List DeferredPublish :=
  trace.flatMap acceptedBy

def posts (trace : RepTrace) : List Post :=
  trace.flatMap (fun tr =>
    tr.outputs.filterMap RepOutput.post?)

def answers
    (trace : RepTrace) : List (Post × Option Int) :=
  trace.flatMap answeredBy

def calls (trace : RepTrace) : List (RequestData × Int) :=
  trace.flatMap (fun tr =>
    tr.outputs.filterMap RepOutput.call?)

/- The requests of some records that have a callback. -/
def withCallback
    (entries : List DeferredPublish) : List RequestData :=
  (entries.map DeferredPublish.requestdata).filter
    (fun rd => rd.cb ≠ 0)

/-
  The data of a POST request is a line for each record that
  has been written, some of the records it was made of.
-/
def Post.Contains (post : Post) : Prop :=
  post.published.Sublist post.batch ∧
    ∃ lines,
      post.body =
          lines.flatMap (fun line => line ++ ['\n']) ∧
        List.Forall₂ IsLineOf post.published lines

/-
  Publishing is exactly once and truthful: an accepted record
  is in the buffer or in one batch; a POST request has been
  answered or is outstanding; the callbacks of an answered
  batch have been called, each once; and a callback is called
  with 0 only for a record written into the request that has
  just been answered with success.
-/
structure PublishedOnce
    (trace : RepTrace)
    (s : Repoclient) : Prop where
  taken :
    (accepted trace).Perm
      ((posts trace).flatMap Post.batch ++
        s.server.publishBuffer)
  answered :
    (posts trace).Perm
      ((answers trace).map Prod.fst ++ s.outstanding)
  called :
    ((calls trace).map Prod.fst).Perm
      ((answers trace).flatMap (fun answer =>
        withCallback answer.1.batch))
  contains : ∀ post ∈ posts trace, post.Contains
  truthful :
    ∀ tr ∈ trace, ∀ call ∈ calls [tr],
      call.2 = 0 →
        ∃ post,
          (post, some httpOk) ∈ answers [tr] ∧
            call.1 ∈ withCallback post.published

------------------------------------------------------------
-- The Condition
------------------------------------------------------------

/-
  When a step keeps publishing truthful.  The buffer has room
  (or what looks like a result is `NULL`); a batch is posted,
  and none is outstanding before it; a reply carries a code,
  and the code of success only when every record of the batch
  has been written.
-/
def StaysTruthful
    (s : Repoclient) : RepEvent → Prop
| .repPublish call =>
    s.server.publishBuffer.length < publishBufferSize ∨
      call.leftover = 0
| .deferredPublishCb posted =>
    s.server.publishBuffer ≠ [] →
      s.outstanding = [] ∧ posted = true
| .batchPublishCallback i req _ =>
    ∀ post, s.outstanding[i]? = some post →
      ∃ code,
        req = some code ∧
          code ≠ 0 ∧
          (code = httpOk → post.published = post.batch)
| .measurementrecord2str _ => True

------------------------------------------------------------
-- The Invariant
------------------------------------------------------------

/-
  At most one request is outstanding, and its records are the
  ones in transit.
-/
structure Repoclient.InStep (s : Repoclient) : Prop where
  magic : s.server.magic = reposerverMagic
  delay : s.server.publishDelay ≠ 0
  single : s.outstanding.length ≤ 1
  inTransit :
    s.server.inTransit = s.outstanding.flatMap Post.batch

theorem inStep_repOpen
    {publishDelay : Int}
    (hDelay : 0 < publishDelay)
    (stream : Streambuffer) :
    (repOpen publishDelay stream).InStep where
  magic := rfl
  delay := hDelay.ne'
  single := Nat.zero_le 1
  inTransit := rfl

theorem publishedOnce_nil
    (publishDelay : Int)
    (stream : Streambuffer) :
    PublishedOnce [] (repOpen publishDelay stream) where
  taken := List.Perm.refl []
  answered := List.Perm.refl []
  called := List.Perm.refl []
  contains := by
    intro post hMem
    cases hMem
  truthful := by
    intro tr hMem
    cases hMem

/- What a call of `repPublish` does, with a delay. -/
theorem repPublish_cases
    {s s' : Repoclient}
    {call : PublishCall}
    {outputs : List RepOutput}
    (hStep : s.InStep)
    (hCall : repPublish s call = .ok (s', outputs)) :
    (s' = s ∧ outputs = [.returned 0]) ∨
      (s' = s ∧
        publishBufferSize ≤ s.server.publishBuffer.length ∧
        outputs = [.returned call.leftover]) ∨
      ∃ r,
        call.r = some r ∧
          call.rd ≠ 0 ∧
          s' =
            { s with
              server :=
                { s.server with
                  publishBuffer :=
                    s.server.publishBuffer ++
                      [⟨r, call.requestdata⟩] } } ∧
          outputs = [.returned call.rd] := by
  unfold repPublish at hCall
  split at hCall
  · cases hCall
    exact Or.inl ⟨rfl, rfl⟩
  · split at hCall
    · cases hCall
      exact Or.inl ⟨rfl, rfl⟩
    · rename_i r hRecord
      split at hCall
      · cases hCall
        exact Or.inl ⟨rfl, rfl⟩
      · split at hCall
        · cases hCall
          exact Or.inl ⟨rfl, rfl⟩
        · rename_i hMemory
          rw [if_pos hStep.delay] at hCall
          split at hCall
          · rename_i hFull
            cases hCall
            exact Or.inr (Or.inl ⟨rfl, hFull, rfl⟩)
          · cases hCall
            exact
              Or.inr
                (Or.inr ⟨r, hRecord, hMemory, rfl, rfl⟩)

/- What one more transition has to account for. -/
structure Accounts (tr : RepTransition) : Prop where
  taken :
    (tr.pre.server.publishBuffer ++ acceptedBy tr).Perm
      ((posts [tr]).flatMap Post.batch ++
        tr.post.server.publishBuffer)
  answered :
    (posts [tr] ++ tr.pre.outstanding).Perm
      ((answeredBy tr).map Prod.fst ++ tr.post.outstanding)
  called :
    ((calls [tr]).map Prod.fst).Perm
      ((answeredBy tr).flatMap (fun answer =>
        withCallback answer.1.batch))
  contains : ∀ post ∈ posts [tr], post.Contains
  truthful :
    ∀ call ∈ calls [tr], call.2 = 0 →
      ∃ post,
        (post, some httpOk) ∈ answers [tr] ∧
          call.1 ∈ withCallback post.published

/- Accounting goes on over a transition that accounts. -/
theorem PublishedOnce.snoc
    {earlier : RepTrace}
    {tr : RepTransition}
    (hOnce : PublishedOnce earlier tr.pre)
    (hTr : Accounts tr) :
    PublishedOnce (earlier ++ [tr]) tr.post where
  taken := by
    have hOld := hOnce.taken.append_right (acceptedBy tr)
    have hNew :=
      hTr.taken.append_left
        ((posts earlier).flatMap Post.batch)
    have hAccepted :
        accepted (earlier ++ [tr]) =
          accepted earlier ++ acceptedBy tr := by
      unfold accepted
      rw [List.flatMap_append, List.flatMap_singleton]
    have hPosts :
        posts (earlier ++ [tr]) =
          posts earlier ++ posts [tr] :=
      List.flatMap_append
    rw [hAccepted, hPosts, List.flatMap_append]
    rw [List.append_assoc] at hOld ⊢
    exact hOld.trans hNew
  answered := by
    have hPosts :
        posts (earlier ++ [tr]) =
          posts earlier ++ posts [tr] :=
      List.flatMap_append
    have hAnswers :
        answers (earlier ++ [tr]) =
          answers earlier ++ answeredBy tr := by
      unfold answers
      rw [List.flatMap_append, List.flatMap_singleton]
    rw [hPosts, hAnswers, List.map_append, List.append_assoc]
    refine
      (hOnce.answered.append_right (posts [tr])).trans ?_
    rw [List.append_assoc]
    refine List.Perm.append_left _ ?_
    exact List.perm_append_comm.trans hTr.answered
  called := by
    have hCalls :
        calls (earlier ++ [tr]) =
          calls earlier ++ calls [tr] :=
      List.flatMap_append
    have hAnswers :
        answers (earlier ++ [tr]) =
          answers earlier ++ answeredBy tr := by
      unfold answers
      rw [List.flatMap_append, List.flatMap_singleton]
    rw [hCalls, hAnswers, List.map_append,
      List.flatMap_append]
    exact hOnce.called.append hTr.called
  contains := by
    intro post hMem
    have hPosts :
        posts (earlier ++ [tr]) =
          posts earlier ++ posts [tr] :=
      List.flatMap_append
    rw [hPosts, List.mem_append] at hMem
    rcases hMem with hOld | hNew
    · exact hOnce.contains post hOld
    · exact hTr.contains post hNew
  truthful := by
    intro other hMem
    rcases List.mem_append.mp hMem with hOld | hNew
    · exact hOnce.truthful other hOld
    · rw [List.mem_singleton] at hNew
      subst hNew
      exact hTr.truthful

/- A call of `repPublish` accounts for what it accepts. -/
theorem accounts_repPublish
    {s s' : Repoclient}
    {call : PublishCall}
    {outputs : List RepOutput}
    (hStep : s.InStep)
    (hCall : repPublish s call = .ok (s', outputs))
    (hStays : StaysTruthful s (.repPublish call)) :
    s'.InStep ∧
      Accounts ⟨s, .repPublish call, outputs, s'⟩ := by
  have hQuiet :
      ∀ handle s',
        acceptedBy
            ⟨s, .repPublish call, [.returned handle], s'⟩ =
          (if handle ≠ 0 then call.entry?.toList else []) := by
    intro handle s'
    by_cases hNull : handle = 0
    · simp [acceptedBy, RepOutput.handle?, hNull]
    · simp [acceptedBy, RepOutput.handle?, hNull]
  have hAccounts :
      ∀ handle (s' : Repoclient),
        (s.server.publishBuffer ++
              (if handle ≠ 0 then call.entry?.toList
              else [])).Perm
            s'.server.publishBuffer →
          s'.outstanding = s.outstanding →
          Accounts
            ⟨s, .repPublish call, [.returned handle], s'⟩ := by
    intro handle s' hTaken hSame
    refine ⟨?_, ?_, List.Perm.refl _, ?_, ?_⟩
    · rw [hQuiet]
      exact hTaken
    · change s.outstanding.Perm s'.outstanding
      rw [hSame]
    · intro post hMem
      cases hMem
    · intro call hMem
      cases hMem
  rcases repPublish_cases hStep hCall with
    ⟨rfl, rfl⟩ | ⟨rfl, hFull, rfl⟩ |
      ⟨r, hRecord, hMemory, rfl, rfl⟩
  · refine ⟨hStep, hAccounts 0 s' ?_ rfl⟩
    simp
  · rcases hStays with hRoom | hNull
    · omega
    · refine ⟨hStep, hAccounts _ s' ?_ rfl⟩
      simp [hNull]
  · refine
      ⟨⟨hStep.magic, hStep.delay, hStep.single,
        hStep.inTransit⟩, hAccounts call.rd _ ?_ rfl⟩
    simp [PublishCall.entry?, hRecord, hMemory]

/- A step that does nothing for the records accounts. -/
theorem accounts_nothing
    {s s' : Repoclient}
    {e : RepEvent}
    {outputs : List RepOutput}
    (hAccepted : acceptedBy ⟨s, e, outputs, s'⟩ = [])
    (hAnswered : answeredBy ⟨s, e, outputs, s'⟩ = [])
    (hPosts : posts [⟨s, e, outputs, s'⟩] = [])
    (hCalls : calls [⟨s, e, outputs, s'⟩] = [])
    (hBuffer :
      s'.server.publishBuffer = s.server.publishBuffer)
    (hOutstanding : s'.outstanding = s.outstanding) :
    Accounts ⟨s, e, outputs, s'⟩ := by
  refine ⟨?_, ?_, ?_, ?_, ?_⟩
  · rw [hAccepted, hPosts]
    simp [hBuffer]
  · rw [hAnswered, hPosts]
    simp [hOutstanding]
  · rw [hAnswered, hCalls]
    rfl
  · rw [hPosts]
    intro post hMem
    cases hMem
  · rw [hCalls]
    intro call hMem
    cases hMem

/- The records of a batch move from the buffer into a POST. -/
theorem accounts_deferredPublishCb
    {s s' : Repoclient}
    {posted : Bool}
    {outputs : List RepOutput}
    (hStep : s.InStep)
    (hTick : deferredPublishCb s posted = (s', outputs))
    (hStays : StaysTruthful s (.deferredPublishCb posted)) :
    s'.InStep ∧
      Accounts
        ⟨s, .deferredPublishCb posted, outputs, s'⟩ := by
  unfold deferredPublishCb at hTick
  rw [if_pos hStep.delay] at hTick
  simp only at hTick
  by_cases hBuffer : s.server.publishBuffer ≠ []
  · rw [if_pos hBuffer] at hTick
    rcases hStays hBuffer with ⟨hNone, rfl⟩
    cases hTick
    refine
      ⟨⟨hStep.magic, hStep.delay, ?_, ?_⟩,
        ⟨?_, ?_, List.Perm.refl _, ?_, ?_⟩⟩
    · simp [hNone]
    · simp [hNone]
    · simp [acceptedBy, posts, RepOutput.post?,
        List.filterMap_cons]
    · simp [answeredBy, posts, RepOutput.post?, hNone]
    · intro post hMem
      rcases
        batchLoop_contains s.stream [] []
          s.server.publishBuffer with
        ⟨entries, lines, hEntries, hData, hSublist, hLines⟩
      rw [List.nil_append] at hEntries hData
      simp [posts, RepOutput.post?] at hMem
      subst hMem
      rw [← hEntries] at hSublist hLines
      exact ⟨hSublist, lines, hData, hLines⟩
    · intro call hMem
      simp [calls, RepOutput.call?] at hMem
  · rw [if_neg hBuffer] at hTick
    cases hTick
    exact
      ⟨hStep, accounts_nothing rfl rfl rfl rfl rfl rfl⟩

/- The calls that a reply makes, by what it carries. -/
theorem filterMap_call?_userCb
    (entries : List DeferredPublish)
    (freed : RequestData → Pointer)
    (result : Int) :
    (entries.flatMap (fun entry =>
        userCb entry.requestdata (freed entry.requestdata)
          result)).filterMap RepOutput.call? =
      (withCallback entries).map (fun rd => (rd, result)) := by
  induction entries with
  | nil => rfl
  | cons entry rest ih =>
      rw [List.flatMap_cons, List.filterMap_append, ih]
      unfold withCallback
      rw [List.map_cons]
      by_cases hCb : entry.requestdata.cb ≠ 0
      · rw [List.filter_cons_of_pos (by simpa using hCb)]
        simp [userCb, hCb, RepOutput.call?]
      · rw [List.filter_cons_of_neg (by simpa using hCb)]
        simp [userCb, hCb]

/- Nor does a reply make a POST request. -/
theorem filterMap_post?_userCb
    (entries : List DeferredPublish)
    (freed : RequestData → Pointer)
    (result : Int) :
    (entries.flatMap (fun entry =>
        userCb entry.requestdata (freed entry.requestdata)
          result)).filterMap RepOutput.post? = [] := by
  induction entries with
  | nil => rfl
  | cons entry rest ih =>
      rw [List.flatMap_cons, List.filterMap_append, ih]
      unfold userCb
      split
      · rfl
      · rfl

/- The callbacks of the batch that is answered are called. -/
theorem accounts_batchPublishCallback
    {s s' : Repoclient}
    {i : Nat}
    {req : Option Int}
    {freed : RequestData → Pointer}
    {outputs : List RepOutput}
    (hStep : s.InStep)
    (hReply :
      RepStep s (.batchPublishCallback i req freed) outputs s')
    (hStays :
      StaysTruthful s (.batchPublishCallback i req freed)) :
    s'.InStep ∧
      Accounts
        ⟨s, .batchPublishCallback i req freed, outputs,
          s'⟩ := by
  rcases hReply with ⟨hIndex, rfl, rfl⟩
  -- The request that is answered is the only one.
  have hOne :
      ∃ post, s.outstanding = [post] ∧ i = 0 := by
    have hSingle := hStep.single
    have hLength : s.outstanding.length = 1 := by omega
    rcases List.length_eq_one_iff.mp hLength with
      ⟨post, hPost⟩
    exact ⟨post, hPost, by omega⟩
  rcases hOne with ⟨post, hOutstanding, rfl⟩
  have hAt : s.outstanding[0]? = some post := by
    rw [hOutstanding]
    rfl
  rcases hStays post hAt with ⟨code, rfl, hCode, hWritten⟩
  have hInTransit : s.server.inTransit = post.batch := by
    rw [hStep.inTransit, hOutstanding,
      List.flatMap_singleton]
  have hOutputs :
      (batchPublishCallback s.server (some code) freed).2 =
        post.batch.flatMap (fun entry =>
          userCb entry.requestdata (freed entry.requestdata)
            (if code = httpOk then 0 else code)) := by
    rw [← hInTransit]
    rfl
  have hAnswered :
      ∀ outputs s',
        answeredBy
            ⟨s, .batchPublishCallback 0 (some code) freed,
              outputs, s'⟩ =
          [(post, some code)] := by
    intro outputs s'
    unfold answeredBy
    simp only
    rw [hAt]
    rfl
  refine
    ⟨⟨hStep.magic, hStep.delay, ?_, ?_⟩,
      ⟨?_, ?_, ?_, ?_, ?_⟩⟩
  · rw [hOutstanding]
    exact Nat.zero_le 1
  · rw [hOutstanding]
    rfl
  · unfold posts
    rw [List.flatMap_singleton, hOutputs,
      filterMap_post?_userCb]
    simp [acceptedBy, batchPublishCallback]
  · unfold posts
    rw [List.flatMap_singleton, hOutputs,
      filterMap_post?_userCb, hAnswered, hOutstanding]
    simp
  · unfold calls
    rw [List.flatMap_singleton, hOutputs,
      filterMap_call?_userCb, hAnswered,
      List.flatMap_singleton, List.map_map]
    simp [Function.comp_def]
  · unfold posts
    rw [List.flatMap_singleton, hOutputs,
      filterMap_post?_userCb]
    intro sent hMem
    cases hMem
  · unfold calls answers
    rw [List.flatMap_singleton, List.flatMap_singleton,
      hOutputs, filterMap_call?_userCb, hAnswered]
    intro call hMem hZero
    rcases List.mem_map.mp hMem with ⟨rd, hRd, rfl⟩
    by_cases hOk : code = httpOk
    · refine ⟨post, ?_, ?_⟩
      · rw [hOk]
        exact List.mem_singleton_self _
      · rw [hWritten hOk]
        exact hRd
    · rw [if_neg hOk] at hZero
      exact absurd hZero hCode

/- Every step that meets the condition accounts. -/
theorem Repoclient.InStep.step
    {s s' : Repoclient}
    {e : RepEvent}
    {outputs : List RepOutput}
    (hInStep : s.InStep)
    (hStep : RepStep s e outputs s')
    (hStays : StaysTruthful s e) :
    s'.InStep ∧ Accounts ⟨s, e, outputs, s'⟩ := by
  cases e with
  | repPublish call =>
      exact accounts_repPublish hInStep hStep hStays
  | deferredPublishCb posted =>
      exact accounts_deferredPublishCb hInStep hStep hStays
  | batchPublishCallback i req freed =>
      exact
        accounts_batchPublishCallback hInStep hStep hStays
  | measurementrecord2str r =>
      rcases hStep with ⟨rfl, rfl⟩
      exact
        ⟨⟨hInStep.magic, hInStep.delay, hInStep.single,
          hInStep.inTransit⟩,
          accounts_nothing rfl rfl rfl rfl rfl rfl⟩

/- Publishing stays truthful over a run. -/
theorem PublishedOnce.run
    {s t : Repoclient}
    {earlier trace : RepTrace}
    (hRun : Run RepStep s trace t)
    (hInStep : s.InStep)
    (hOnce : PublishedOnce earlier s)
    (hStays :
      ∀ tr ∈ trace, StaysTruthful tr.pre tr.event) :
    PublishedOnce (earlier ++ trace) t := by
  induction hRun generalizing earlier with
  | nil s =>
      rw [List.append_nil]
      exact hOnce
  | @cons s s' t e outputs rest hStep _ ih =>
      rw [List.forall_mem_cons] at hStays
      rcases hInStep.step hStep hStays.1 with
        ⟨hNext, hAccounts⟩
      have hHere :
          PublishedOnce earlier
            (Transition.mk s e outputs s').pre :=
        hOnce
      have hLater := ih hNext (hHere.snoc hAccounts) hStays.2
      rw [List.append_assoc, List.singleton_append] at hLater
      exact hLater

/-
  With a delay, for every order of calls, ticks and replies
  in which each step meets the condition: publishing is
  exactly once and truthful, in every state reached.
-/
theorem published_once
    {publishDelay : Int}
    {stream : Streambuffer}
    {t : Repoclient}
    {trace : RepTrace}
    (hDelay : 0 < publishDelay)
    (hRun :
      Run RepStep (repOpen publishDelay stream) trace t)
    (hStays :
      ∀ tr ∈ trace, StaysTruthful tr.pre tr.event) :
    ∀ earlier later, trace = earlier ++ later →
      ∃ u,
        Run RepStep (repOpen publishDelay stream) earlier u ∧
          Run RepStep u later t ∧
          PublishedOnce earlier u := by
  rintro earlier later rfl
  rcases hRun.split with ⟨u, hEarlier, hLater⟩
  refine ⟨u, hEarlier, hLater, ?_⟩
  have hOnce :=
    (publishedOnce_nil publishDelay stream).run hEarlier
      (inStep_repOpen hDelay stream)
      (fun tr hMem =>
        hStays tr (List.mem_append_left later hMem))
  rw [List.nil_append] at hOnce
  exact hOnce

------------------------------------------------------------
-- Two Batches At Once
------------------------------------------------------------

/- A call that publishes a record with a callback. -/
def publishCall (rd : Pointer) : PublishCall where
  cb := 1
  cbarg := 0
  r := some (stateRecord none)
  rd := rd
  leftover := 0

/- The entry it makes. -/
def publishEntry (rd : Pointer) : DeferredPublish :=
  ⟨stateRecord none, (publishCall rd).requestdata⟩

/- With room in the buffer, a record is kept there. -/
theorem repPublish_ok
    {s : Repoclient}
    {call : PublishCall}
    {r : MeasurementRecord}
    (hMagic : s.server.magic = reposerverMagic)
    (hDelay : s.server.publishDelay ≠ 0)
    (hRoom :
      s.server.publishBuffer.length < publishBufferSize)
    (hRecord : call.r = some r)
    (hValue : r.stringValue ≠ none)
    (hMemory : call.rd ≠ 0) :
    repPublish s call =
      .ok
        ({ s with
            server :=
              { s.server with
                publishBuffer :=
                  s.server.publishBuffer ++
                    [⟨r, call.requestdata⟩] } },
          [.returned call.rd]) := by
  unfold repPublish checkHandle
  rw [if_neg (by simp [hMagic])]
  simp only [hRecord]
  rw [if_neg (fun hEmpty => hValue hEmpty.2),
    if_neg hMemory, if_pos hDelay, if_neg (by omega)]

/- The call of `publishCall`, at any state with room. -/
theorem repStep_publishCall
    {s : Repoclient}
    {rd : Pointer}
    (hMagic : s.server.magic = reposerverMagic)
    (hDelay : s.server.publishDelay ≠ 0)
    (hRoom :
      s.server.publishBuffer.length < publishBufferSize)
    (hMemory : rd ≠ 0) :
    RepStep s (.repPublish (publishCall rd)) [.returned rd]
      { s with
        server :=
          { s.server with
            publishBuffer :=
              s.server.publishBuffer ++
                [publishEntry rd] } } :=
  repPublish_ok hMagic hDelay hRoom rfl
    (Option.some_ne_none _) hMemory

/- A tick that posts the buffer. -/
def tick (s : Repoclient) : Repoclient :=
  (deferredPublishCb s true).1

def tickOutputs (s : Repoclient) : List RepOutput :=
  (deferredPublishCb s true).2

/- A reply to the oldest request, with this code. -/
def reply (s : Repoclient) (code : Int) : Repoclient :=
  { s with
    server :=
      (batchPublishCallback s.server (some code)
        (fun rd => rd.cbarg)).1
    outstanding := s.outstanding.eraseIdx 0 }

def replyOutputs
    (s : Repoclient)
    (code : Int) : List RepOutput :=
  (batchPublishCallback s.server (some code)
    (fun rd => rd.cbarg)).2

def replied (code : Int) : RepEvent :=
  .batchPublishCallback 0 (some code) (fun rd => rd.cbarg)

/- The states of a run in which two batches overlap. -/
def published₁ : Repoclient :=
  { repOpen 1 MemStream.opened with
    server :=
      { (repOpen 1 MemStream.opened).server with
        publishBuffer := [publishEntry 1] } }

def published₂ : Repoclient :=
  { tick published₁ with
    server :=
      { (tick published₁).server with
        publishBuffer := [publishEntry 2] } }

/- Publish, tick, publish, tick, and a reply to each POST. -/
def overlappingTrace : RepTrace :=
  [⟨repOpen 1 MemStream.opened, .repPublish (publishCall 1),
    [.returned 1], published₁⟩,
  ⟨published₁, .deferredPublishCb true,
    tickOutputs published₁, tick published₁⟩,
  ⟨tick published₁, .repPublish (publishCall 2),
    [.returned 2], published₂⟩,
  ⟨published₂, .deferredPublishCb true,
    tickOutputs published₂, tick published₂⟩,
  ⟨tick published₂, replied 500,
    replyOutputs (tick published₂) 500,
    reply (tick published₂) 500⟩,
  ⟨reply (tick published₂) 500, replied 200,
    replyOutputs (reply (tick published₂) 500) 200,
    reply (reply (tick published₂) 500) 200⟩]

theorem run_overlappingTrace :
    Run RepStep (repOpen 1 MemStream.opened) overlappingTrace
      (reply (reply (tick published₂) 500) 200) := by
  refine
    .cons
      (repStep_publishCall rfl (by decide) (by decide)
        (by decide))
      (.cons rfl
        (.cons
          (repStep_publishCall rfl (by decide) (by decide)
            (by decide))
          (.cons rfl
            (.cons ⟨by decide, rfl, rfl⟩
              (.cons ⟨by decide, rfl, rfl⟩ (.nil _))))))

/-
  A second tick before the reply to the first: the records of
  the first batch are forgotten, those of the second get the
  answer to the first, and the answer to the second is lost.
-/
theorem overlapping_batches_lose_callback :
    Run RepStep (repOpen 1 MemStream.opened) overlappingTrace
        (reply (reply (tick published₂) 500) 200) ∧
      ¬ PublishedOnce overlappingTrace
        (reply (reply (tick published₂) 500) 200) := by
  refine ⟨run_overlappingTrace, ?_⟩
  intro hOnce
  have hLength := hOnce.called.length_eq
  revert hLength
  decide

/- Publish, tick, and a reply. -/
def singleTrace : RepTrace :=
  [⟨repOpen 1 MemStream.opened, .repPublish (publishCall 1),
    [.returned 1], published₁⟩,
  ⟨published₁, .deferredPublishCb true,
    tickOutputs published₁, tick published₁⟩,
  ⟨tick published₁, replied 200,
    replyOutputs (tick published₁) 200,
    reply (tick published₁) 200⟩]

theorem run_singleTrace :
    Run RepStep (repOpen 1 MemStream.opened) singleTrace
      (reply (tick published₁) 200) := by
  refine
    .cons
      (repStep_publishCall rfl (by decide) (by decide)
        (by decide))
      (.cons rfl (.cons ⟨by decide, rfl, rfl⟩ (.nil _)))

/- One batch at a time is answered as it should be. -/
theorem published_once_singleTrace :
    Run RepStep (repOpen 1 MemStream.opened) singleTrace
        (reply (tick published₁) 200) ∧
      calls singleTrace =
        [((publishEntry 1).requestdata, 0)] ∧
      ∃ u,
        Run RepStep (repOpen 1 MemStream.opened)
            singleTrace u ∧
          PublishedOnce singleTrace u := by
  have hStays :
      ∀ tr ∈ singleTrace, StaysTruthful tr.pre tr.event := by
    intro tr hMem
    simp only [singleTrace, List.mem_cons, List.not_mem_nil,
      or_false] at hMem
    rcases hMem with rfl | rfl | rfl
    · exact Or.inr rfl
    · exact fun _ => ⟨rfl, rfl⟩
    · intro post hPost
      refine ⟨200, rfl, by decide, fun _ => ?_⟩
      rw [← Option.some.inj hPost]
      decide +kernel
  refine ⟨run_singleTrace, by decide, ?_⟩
  rcases
    published_once (by decide) run_singleTrace hStays
      singleTrace [] (List.append_nil _).symm with
    ⟨u, hRun, _, hOnce⟩
  exact ⟨u, hRun, hOnce⟩

end Rep

end NapaBaselibs
