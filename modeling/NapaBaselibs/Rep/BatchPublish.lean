import Mathlib.Data.List.Forall2
import NapaBaselibs.Lib.Runs
import NapaBaselibs.Rep.Record

/-
  `publish.c`: publishing records one by one or in batches.

  With a delay, a record is kept in a buffer until a timer
  puts the buffer into one POST.  A single array holds the
  records of the POST in transit, and the reply to any POST
  answers the records of that array.

  Key definitions include:
    * `Reposerver`, `Post`, `Repoclient`
    * `repPublish`
    * `deferredPublishCb`, `batchPublishCallback`
    * `RepStep`

  Key theorems include:
    * `batchLoop_contains`
    * `length_body_lt`
-/

------------------------------------------------------------
-- Requests And Records That Wait
------------------------------------------------------------

namespace NapaBaselibs

namespace Rep

/- An address; `NULL` is zero. -/
abbrev Pointer := UInt64

/-
  `request_data` of a publication; its server is the one it
  is kept by.
-/
structure RequestData where
  id : Pointer
  cb : Pointer
  cbarg : Pointer
deriving DecidableEq

/- `struct deferred_publish`. -/
structure DeferredPublish where
  r : MeasurementRecord
  requestdata : RequestData
deriving DecidableEq

def publishBufferSize : Nat := 1024
def repoRecordLen : Nat := 300
def reposerverMagic : Nat := 0xAABB
def httpOk : Int := 200

/-
  `struct reposerver`, as far as publishing goes.  The two
  arrays are as long as their counters say.
-/
structure Reposerver where
  magic : Nat
  publishDelay : Int
  publishBuffer : List DeferredPublish
  inTransit : List DeferredPublish

/-
  A POST request: the records it was made of, those of them
  that have been written into it, and its data.
-/
structure Post where
  batch : List DeferredPublish
  published : List DeferredPublish
  body : List Char

/-
  A server, the stream that all encodings share, and the
  POST requests that have not been answered.
-/
structure Repoclient where
  server : Reposerver
  stream : Streambuffer
  outstanding : List Post

/- What a step lets the outside see. -/
inductive RepOutput where
  | returned (handle : Pointer)
  | request (uri : List Char) (rd : RequestData)
  | post (post : Post)
  | timer (delay : Int)
  | callback
      (rd : RequestData)
      (cbarg : Pointer)
      (result : Int)

------------------------------------------------------------
-- Publishing A Record
------------------------------------------------------------

/- What goes wrong when a record is published. -/
inductive PublishFault where
  | uriOverflow
deriving DecidableEq

/-
  A call of `repPublish`: its arguments, the address of the
  request (or `NULL`, without memory), and what is left where
  a result is expected when none is returned.
-/
structure PublishCall where
  cb : Pointer
  cbarg : Pointer
  r : Option MeasurementRecord
  rd : Pointer
  leftover : Pointer

/- The request that is filled in. -/
def PublishCall.requestdata
    (call : PublishCall) : RequestData where
  id := call.rd
  cb := call.cb
  cbarg := call.cbarg

/- `check_handle`, for a server that has a handle. -/
def checkHandle (server : Reposerver) : Bool :=
  server.magic = reposerverMagic

/-
  `repPublish`.  With a full buffer it returns without a
  value.  Without a delay the address is composed in an array
  of 1024 bytes.
-/
def repPublish
    (s : Repoclient)
    (call : PublishCall) :
    Except PublishFault (Repoclient × List RepOutput) :=
  if checkHandle s.server = false then
    .ok (s, [.returned 0])
  else
    match call.r with
    | none => .ok (s, [.returned 0])
    | some r =>
        if r.value.IsNan ∧ r.stringValue = none then
          .ok (s, [.returned 0])
        else if call.rd = 0 then
          .ok (s, [.returned 0])
        else if s.server.publishDelay ≠ 0 then
          if publishBufferSize ≤
              s.server.publishBuffer.length then
            .ok (s, [.returned call.leftover])
          else
            .ok
              ({ s with
                  server :=
                    { s.server with
                      publishBuffer :=
                        s.server.publishBuffer ++
                          [⟨r, call.requestdata⟩] } },
                [.returned call.rd])
        else
          let encoded := encodeMeasurementrecord s.stream r
          let uri := "/Publish?".toList ++ encoded.2
          if 1024 ≤ uri.length then
            .error .uriOverflow
          else
            .ok
              ({ s with stream := encoded.1 },
                [.request uri call.requestdata,
                  .returned call.rd])

/- The callback, if there is one. -/
def userCb
    (rd : RequestData)
    (cbarg : Pointer)
    (result : Int) : List RepOutput :=
  if rd.cb ≠ 0 then
    [.callback rd cbarg result]
  else
    []

/-
  `_publish_callback`: the reply to a single publication.  The
  request is freed before its argument is read, so that what
  stands in the freed block is part of the input.
-/
def publishCallback
    (rd : RequestData)
    (req : Option Int)
    (freed : RequestData → Pointer) : List RepOutput :=
  match req with
  | none => []
  | some responseCode =>
      if responseCode ≠ httpOk then
        userCb rd (freed rd)
          (if responseCode ≠ 0 then responseCode else -1)
      else
        userCb rd (freed rd) 0

------------------------------------------------------------
-- Publishing A Batch
------------------------------------------------------------

/-
  The loop of `deferred_publish_cb` over the buffer: the
  stream, the records that have been written, and the data.
-/
def batchLoop
    (stream : Streambuffer)
    (published : List DeferredPublish)
    (postData : List Char) :
    List DeferredPublish →
      Streambuffer × List DeferredPublish × List Char
| [] => (stream, published, postData)
| entry :: rest =>
    let encoded := encodeMeasurementrecord stream entry.r
    if repoRecordLen ≤ encoded.2.length then
      batchLoop encoded.1 published postData rest
    else
      batchLoop encoded.1 (published ++ [entry])
        (postData ++ encoded.2 ++ ['\n']) rest

/-
  `deferred_publish_cb`; `posted` says whether
  `make_post_request` succeeded, which is not looked at.
-/
def deferredPublishCb
    (s : Repoclient)
    (posted : Bool) : Repoclient × List RepOutput :=
  let timers : List RepOutput :=
    if s.server.publishDelay ≠ 0 then
      [.timer s.server.publishDelay]
    else
      []
  if s.server.publishBuffer ≠ [] then
    let loop :=
      batchLoop s.stream [] [] s.server.publishBuffer
    let post : Post :=
      { batch := s.server.publishBuffer
        published := loop.2.1
        body := loop.2.2 }
    ({ server :=
        { s.server with
          inTransit := s.server.publishBuffer
          publishBuffer := [] }
       stream := loop.1
       outstanding :=
        if posted then
          s.outstanding ++ [post]
        else
          s.outstanding },
      (if posted then [.post post] else []) ++ timers)
  else
    (s, timers)

/-
  `_batch_publish_callback`: every record in transit is
  answered with the response to this request.
-/
def batchPublishCallback
    (server : Reposerver)
    (req : Option Int)
    (freed : RequestData → Pointer) :
    Reposerver × List RepOutput :=
  match req with
  | none => (server, [])
  | some response =>
      ({ server with inTransit := [] },
        server.inTransit.flatMap (fun entry =>
          userCb entry.requestdata (freed entry.requestdata)
            (if response = httpOk then 0 else response)))

------------------------------------------------------------
-- Runs
------------------------------------------------------------

/-
  A record is published, the timer fires, the `i`-th of the
  outstanding requests is answered, or some other record is
  encoded into the stream.
-/
inductive RepEvent where
  | repPublish (call : PublishCall)
  | deferredPublishCb (posted : Bool)
  | batchPublishCallback
      (i : Nat)
      (req : Option Int)
      (freed : RequestData → Pointer)
  | measurementrecord2str (r : MeasurementRecord)

/- A step of the client. -/
def RepStep
    (s : Repoclient)
    (e : RepEvent)
    (outputs : List RepOutput)
    (s' : Repoclient) : Prop :=
  match e with
  | .repPublish call => repPublish s call = .ok (s', outputs)
  | .deferredPublishCb posted =>
      deferredPublishCb s posted = (s', outputs)
  | .batchPublishCallback i req freed =>
      i < s.outstanding.length ∧
        outputs =
          (batchPublishCallback s.server req freed).2 ∧
        s' =
          { s with
            server :=
              (batchPublishCallback s.server req freed).1
            outstanding := s.outstanding.eraseIdx i }
  | .measurementrecord2str r =>
      outputs = [] ∧
        s' =
          { s with
            stream := (encodeMeasurementrecord s.stream r).1 }

/- The state that `repOpen` makes, with some stream. -/
def repOpen
    (publishDelay : Int)
    (stream : Streambuffer) : Repoclient where
  server :=
    { magic := reposerverMagic
      publishDelay := publishDelay
      publishBuffer := []
      inTransit := [] }
  stream := stream
  outstanding := []

------------------------------------------------------------
-- Small Facts
------------------------------------------------------------

/- What the stream holds after it is rewound and written. -/
theorem text_prefix_encode
    (stream : Streambuffer)
    (r : MeasurementRecord) :
    r.text <+: (encodeMeasurementrecord stream r).2 := by
  rw [encodeMeasurementrecord_eq]
  exact
    MemStream.prefix_string_rewind_write stream
      r.zero_notMem_text

/- A line for a record begins with its text, and is short. -/
def IsLineOf
    (entry : DeferredPublish)
    (line : List Char) : Prop :=
  entry.r.text <+: line ∧ line.length < repoRecordLen

/-
  The data is a line for each record that is written, and a
  line begins with the text of its record.
-/
theorem batchLoop_contains
    (stream : Streambuffer)
    (published : List DeferredPublish)
    (postData : List Char)
    (batch : List DeferredPublish) :
    ∃ entries lines,
      (batchLoop stream published postData batch).2.1 =
          published ++ entries ∧
        (batchLoop stream published postData batch).2.2 =
          postData ++ lines.flatMap (fun line =>
            line ++ ['\n']) ∧
        entries.Sublist batch ∧
        List.Forall₂ IsLineOf entries lines := by
  induction batch generalizing stream published postData with
  | nil => exact ⟨[], [], by simp [batchLoop]⟩
  | cons entry rest ih =>
      unfold batchLoop
      simp only
      split
      · rcases
          ih (encodeMeasurementrecord stream entry.r).1
            published postData with
          ⟨entries, lines, hEntries, hData, hSublist, hLines⟩
        exact
          ⟨entries, lines, hEntries, hData,
            hSublist.cons entry, hLines⟩
      · rename_i hShort
        rw [Nat.not_le] at hShort
        rcases
          ih (encodeMeasurementrecord stream entry.r).1
            (published ++ [entry])
            (postData ++
              (encodeMeasurementrecord stream entry.r).2 ++
                ['\n']) with
          ⟨entries, lines, hEntries, hData, hSublist, hLines⟩
        refine
          ⟨entry :: entries,
            (encodeMeasurementrecord stream entry.r).2 ::
              lines, ?_, ?_, hSublist.cons_cons entry,
            .cons
              ⟨text_prefix_encode stream entry.r, hShort⟩
              hLines⟩
        · rw [hEntries, List.append_assoc,
            List.singleton_append]
        · rw [hData, List.flatMap_cons, List.append_assoc,
            List.append_assoc, List.append_assoc]

/- What the lines take with their ends. -/
theorem length_lines_le
    {entries : List DeferredPublish}
    {lines : List (List Char)}
    (hLines : List.Forall₂ IsLineOf entries lines) :
    (lines.flatMap (fun line => line ++ ['\n'])).length ≤
      entries.length * repoRecordLen := by
  induction hLines with
  | nil => simp
  | @cons entry line entries lines hLine _ ih =>
      have hShort := hLine.2
      rw [List.flatMap_cons, List.length_append,
        List.length_append, List.length_singleton,
        List.length_cons, Nat.succ_mul]
      omega

/- The data and its zero fit into the memory allocated. -/
theorem length_body_lt
    (stream : Streambuffer)
    (batch : List DeferredPublish) :
    (batchLoop stream [] [] batch).2.2.length <
      batch.length * repoRecordLen + 10 := by
  rcases batchLoop_contains stream [] [] batch with
    ⟨entries, lines, _, hData, hSublist, hLines⟩
  have hBody := length_lines_le hLines
  have hMul :
      entries.length * repoRecordLen ≤
        batch.length * repoRecordLen :=
    Nat.mul_le_mul_right _ hSublist.length_le
  rw [hData, List.nil_append]
  omega

end Rep

end NapaBaselibs
