import SafetyRecorder.HttpApi.Upload
import SafetyRecorder.Retention.Worker

namespace SafetyRecorder

open Process Protocol

/-!
# Server — requests, and the discipline of their programs

`main` gives the program of every request: the two upload handlers, a maintenance
pass of the deletion worker, and for every other handler the transaction it ends
in.  `discipline` is the protocol they all follow:

* between `CommitTemp` and the answer of `CreateChunk` a handler *holds* the blob it
  committed; when `CreateChunk` fails, the next call removes that blob;
* a worker removes only paths of the items it was given for the decision it
  claimed, marks an item deleted right after the store reported its blob gone, and
  completes or fails only the decision it claimed.

`main_follows` — every program follows the discipline and ends holding nothing.
-/

/-- The transactions that handlers other than the upload handlers and the worker
    end in. -/
def Tx.isClient : Tx → Bool
  | .createChunk .. | .markIncidentDeletionDeleting .. | .markIncidentDeletionItemDeleted ..
  | .markIncidentDeletionItemFailed .. | .completeIncidentDeletion .. | .failIncidentDeletion .. =>
    false
  | _ => true

/-- What arrives at the server. -/
inductive Request
  | uploadChunk (req : UploadRequest)
  | relayCommit (req : RelayRequest)
  | runOnce (opts : WorkerOptions)
  | write (t : { t : Tx // t.isClient = true })

/-- How a program ended. -/
inductive Outcome
  | response (r : Response)
  | maintenance (result : Except WorkerError Summary)
  | written

/-- The response of a handler, early or not. -/
def Outcome.ofHandler : Except Response Response → Outcome
  | .ok r => .response r
  | .error r => .response r

/-- The program of a request. -/
def main (env : Env) (api : API) : Request → Proc Outcome
  | .uploadChunk req => (uploadChunk env api req).run >>= fun r => pure (.ofHandler r)
  | .relayCommit req => (relayCommit env api req).run >>= fun r => pure (.ofHandler r)
  | .runOnce opts => (runOnce (newWorker opts)).run >>= fun r => pure (.maintenance r)
  | .write t => Prog.perform (.tx t.1) >>= fun _ => pure .written

/-- The server: the world and the processes that run over it. -/
abbrev Server := Sys World Call Answer Outcome

/-- One step of the server. -/
abbrev serverStep (env : Env) (api : API) : Server → Label Request Choice → Option Server :=
  Sys.step (main env api) (exec env)

/-- The server on an empty database and an empty blob store. -/
def bootServer : Server := Sys.start {}

/-! ### Phases -/

/-- A blob that a handler has committed and whose row is not yet inserted. -/
structure Holding where
  temp : TempUpload
  incidentID : String
  streamID : String
  mediaType : MediaType
  chunkIndex : Int
  path : String
  path_ok : storedBlobPath incidentID streamID mediaType chunkIndex = .ok path

/-- The row describes the blob held. -/
structure Holding.Records (env : Env) (h : Holding) (params : CreateChunkParams) : Prop where
  incidentID : params.incidentID = h.incidentID
  streamID : params.streamID = h.streamID
  mediaType : params.mediaType = h.mediaType
  chunkIndex : params.chunkIndex = h.chunkIndex
  storedPath : params.storedPath = h.path
  byteSize : params.byteSize = h.temp.byteSize
  sha256Hex : params.sha256Hex = h.temp.sha256Hex env

/-- What a program has in its hands. -/
inductive Phase
  | idle
  /-- The blob is committed, `CreateChunk` comes next. -/
  | holding (h : Holding)
  /-- `CreateChunk` answered an error, the removal of the blob comes next. -/
  | cleaning (h : Holding)
  /-- The decision is claimed. -/
  | claimed (decisionID : String)
  /-- These items of the decision are still to be worked on. -/
  | working (decisionID : String) (items : List DeletionItem)
  /-- The store reported the blob of `item` gone. -/
  | removed (decisionID : String) (item : DeletionItem) (items : List DeletionItem)
  /-- The store could not remove the blob of `item`. -/
  | removeFailed (decisionID : String) (item : DeletionItem) (items : List DeletionItem)

namespace Phase

/-- The calls allowed in a phase. -/
def Allowed (env : Env) : Phase → Call → Prop
  | idle, .tx (.markIncidentDeletionDeleting ..) => True
  | idle, .tx t => t.isClient = true
  | idle, .removeCommittedBlob _ => False
  | idle, .removeItem _ => False
  | idle, _ => True
  | holding h, .tx (.createChunk params) => h.Records env params
  | cleaning h, .removeCommittedBlob path => path = h.path
  | claimed d, .query (.listIncidentDeletionItems d') => d' = d
  | working _ _, .ctxErr => True
  | working _ items, .removeItem item => items.head? = some item
  | working d items, .tx (.completeIncidentDeletion d') => d' = d ∧ items = []
  | working d items, .tx (.failIncidentDeletion d' _) => d' = d ∧ items = []
  | removed _ item _, .tx (.markIncidentDeletionItemDeleted id) => id = item.id
  | removeFailed _ item _, .tx (.markIncidentDeletionItemFailed id _) => id = item.id
  | _, _ => False

/-- The phase after `CommitTemp`. -/
def afterCommit (u : TempUpload) (i s : String) (m : MediaType) (k : Int) :
    Except StoreError { p : String // storedBlobPath i s m k = .ok p } → Phase
  | .ok p => holding ⟨u, i, s, m, k, p.1, p.2⟩
  | .error _ => idle

/-- The phase after a claim. -/
def afterClaim : Except RepoError DeletionDecision → Phase
  | .ok dec => claimed dec.id
  | .error _ => idle

/-- The phase after `CreateChunk`. -/
def afterCreate (h : Holding) : Except RepoError Chunk → Phase
  | .ok _ => idle
  | .error _ => cleaning h

/-- The phase after the items were listed. -/
def afterList (d : String) : Except RepoError (List DeletionItem) → Phase
  | .ok items => working d items
  | .error _ => idle

/-- The phase after the store was asked to remove an item's blob. -/
def afterRemove (d : String) (item : DeletionItem) (items : List DeletionItem) :
    Except StoreError Unit → Phase
  | .ok _ => removed d item items
  | .error .notExist => removed d item items
  | .error .canceled => idle
  | .error _ => removeFailed d item items

/-- The phase after an item was marked. -/
def afterMark (d : String) (items : List DeletionItem) : Except RepoError Unit → Phase
  | .ok _ => working d items
  | .error _ => idle

/-- The phase after an answered call. -/
def next : Phase → (c : Call) → Answer c → Phase
  | idle, .commitTemp u i s m k, a => afterCommit u i s m k a
  | idle, .tx (.markIncidentDeletionDeleting _ _), a => afterClaim a
  | holding h, .tx (.createChunk _), a => afterCreate h a
  | claimed d, .query (.listIncidentDeletionItems _), a => afterList d a
  | working d items, .ctxErr, _ => working d items
  | working d items, .removeItem item, a => afterRemove d item items.tail a
  | removed d _ items, .tx (.markIncidentDeletionItemDeleted _), a => afterMark d items a
  | removeFailed d _ items, .tx (.markIncidentDeletionItemFailed _ _), a => afterMark d items a
  | _, _, _ => idle

/-- Nothing is held that another call would have to settle. -/
def Settled : Phase → Prop
  | idle | claimed _ | working _ _ => True
  | _ => False

end Phase

/-- The protocol of the server's programs. -/
def discipline (env : Env) : Protocol Call Answer Phase where
  allowed := Phase.Allowed env
  next := Phase.next

variable {env : Env} {api : API}

/-! ### The upload handlers -/

/-- The handler stays idle. -/
abbrev StaysIdle {α ε : Type} (env : Env) (x : ExceptT ε Proc α) : Prop :=
  (discipline env).Follows (fun t _ => t = .idle) .idle x.run

/-- A check keeps the phase; what follows may rely on its condition. -/
theorem follows_require {c : Prop} [Decidable c] {r : Response} {t : Phase}
    {Q : Phase → Except Response Unit → Prop} (hok : c → Q t (.ok ())) (herr : Q t (.error r)) :
    (discipline env).Follows Q t (require c r).run := by
  unfold require
  split
  next hc => exact follows_pure (hok hc)
  next => exact follows_throw herr

theorem staysIdle_require {c : Prop} [Decidable c] {r : Response} :
    StaysIdle env (require c r) := follows_require (fun _ => rfl) rfl

variable {α β : Type}

theorem StaysIdle.andThen {x : Handler α} {f : α → Handler β} (hx : StaysIdle env x)
    (hf : ∀ a, StaysIdle env (f a)) : StaysIdle env (x >>= f) :=
  follows_then hx hf fun _ => rfl

/-- What comes after a check may rely on its condition. -/
theorem staysIdle_check {c : Prop} [Decidable c] {r : Response} {f : Unit → Handler β}
    (hf : c → StaysIdle env (f ())) : StaysIdle env (require c r >>= f) :=
  follows_seq (follows_require (fun hc => ⟨fun _ _ => hf hc, nofun⟩) ⟨nofun, fun _ _ => rfl⟩)

theorem staysIdle_checked (x : Except Response α) : StaysIdle env (checked x) := by
  cases x with
  | ok a => exact follows_pure rfl
  | error r => exact follows_throw rfl

theorem saveTemp_staysIdle (content : Bytes) : StaysIdle env (saveTemp api content) := by
  refine follows_call_then trivial fun a => ?_
  match a with
  | .ok temp => exact follows_pure rfl
  | .error e => cases e <;> exact follows_throw rfl

theorem readChunkUpload_staysIdle (body : Except Response (Multipart ChunkFields)) :
    StaysIdle env (readChunkUpload api body) :=
  (staysIdle_checked _).andThen fun _ => (saveTemp_staysIdle _).andThen fun _ => staysIdle_checked _

theorem authorizeIncident_staysIdle (p : Principal) (i : String) :
    StaysIdle env (authorizeIncident p i) := by
  refine follows_call_then trivial fun a => ?_
  match a with
  | .error e => cases e <;> exact follows_throw rfl
  | .ok incident =>
    exact staysIdle_check fun _ => staysIdle_check fun _ => follows_pure rfl

theorem requireOpenUploadStream_staysIdle (i s : String) (m : MediaType) :
    StaysIdle env (requireOpenUploadStream i s m) := by
  refine follows_call_then trivial fun a => ?_
  match a with
  | .error e => cases e <;> exact follows_throw rfl
  | .ok stream =>
    exact staysIdle_check fun _ => staysIdle_require

theorem validateChunkStream_staysIdle (i : String) (u : ChunkUpload) :
    StaysIdle env (validateChunkStream i u) := by
  unfold validateChunkStream
  split
  · exact follows_pure rfl
  · exact requireOpenUploadStream_staysIdle _ _ _

theorem acquireLease_staysIdle (i : String) (u : ChunkUpload) :
    StaysIdle env (acquireUploadCoordinationLease api i u) := by
  unfold acquireUploadCoordinationLease
  split
  · refine follows_call_then trivial fun a => ?_
    match a with
    | .acquired => exact follows_pure rfl
    | .busy => exact follows_throw rfl
    | .unavailable => exact follows_throw rfl
  · exact follows_pure rfl

theorem checkAccountBlobQuota_staysIdle (inc : Incident) (n : Int) :
    StaysIdle env (checkAccountBlobQuota api inc n) := by
  unfold checkAccountBlobQuota
  split
  · exact follows_pure rfl
  · refine staysIdle_check fun _ => follows_call_then trivial fun a => ?_
    match a with
    | .error e => exact follows_throw rfl
    | .ok (current : Int) => exact @staysIdle_require env _ _ _

theorem completeOperation_staysIdle (p : UploadOperationParams) (c : Chunk) :
    StaysIdle env (completeOperation p c) := by
  refine follows_call_then rfl fun a => ?_
  match a with
  | .error e => cases e <;> exact follows_throw rfl
  | .ok op => exact follows_pure rfl

theorem replayEquivalentChunk_staysIdle (i : String) (u : ChunkUpload) (p : UploadOperationParams) :
    StaysIdle env (replayEquivalentChunkIfPresent i u p) := by
  refine follows_call_then trivial fun a => ?_
  match a with
  | .error e => cases e <;> first | exact follows_pure rfl | exact follows_throw rfl
  | .ok chunk =>
    show StaysIdle env (if uploadMatchesChunk i u chunk = true then _ else _)
    split
    · refine follows_call_then trivial fun a => ?_
      match a with
      | .error e => exact follows_throw rfl
      | .ok _ =>
        exact (completeOperation_staysIdle p chunk).andThen fun _ => follows_throw rfl
    · exact follows_pure rfl

theorem replayOrDuplicate_staysIdle (i : String) (u : ChunkUpload)
    (p : Option UploadOperationParams) : StaysIdle env (replayOrDuplicate i u p) := by
  cases p with
  | none => exact follows_throw rfl
  | some p =>
    exact (replayEquivalentChunk_staysIdle i u p).andThen fun _ => follows_throw rfl

theorem reserveOperation_staysIdle (i : String) (u : ChunkUpload)
    (p : Option UploadOperationParams) : StaysIdle env (reserveOperation i u p) := by
  cases p with
  | none => exact follows_pure rfl
  | some p =>
    refine follows_call_then rfl fun a => ?_
    match a with
    | .error e => cases e <;> exact follows_throw rfl
    | .ok op =>
      show StaysIdle env (if op.state = .metadataCommitted then _ else _)
      split
      · refine (replayEquivalentChunk_staysIdle i u p).andThen fun b => ?_
        cases b <;> exact follows_throw rfl
      · exact follows_pure rfl

theorem checkChunkExists_staysIdle (i : String) (u : ChunkUpload) :
    StaysIdle env (checkChunkExists i u) := by
  refine follows_call_then trivial fun a => ?_
  match a with
  | .error e => exact follows_throw rfl
  | .ok b => exact follows_pure rfl

/-- The commit: the blob is held from `CommitTemp` to the answer of `CreateChunk`, and
    removed right after an error.  The digest given with the upload is that of the
    staged bytes. -/
theorem commitChunk_staysIdle {i : String} {u : ChunkUpload} {onDuplicate : Handler Response}
    (hsha : u.temp.sha256Hex env = u.sha256Hex) (hdup : StaysIdle env onDuplicate) :
    StaysIdle env (commitChunk api i u onDuplicate) := by
  have hdup' : StaysIdle env (onDuplicate >>= fun r => (pure (.inl r) : Handler (Response ⊕ Chunk))) :=
    hdup.andThen fun _ => follows_pure rfl
  refine follows_call_then trivial fun committed => ?_
  match committed with
  | .error e => cases e <;> first | exact hdup' | exact follows_throw rfl
  | .ok path =>
    refine follows_call_then ⟨rfl, rfl, rfl, rfl, rfl, rfl, hsha.symm⟩ fun created => ?_
    match created with
    | .ok chunk => exact follows_pure rfl
    | .error e =>
      refine follows_seq (follows_call_then rfl fun _ => follows_pure ⟨fun _ _ => ?_, nofun⟩)
      cases e <;> first | exact hdup' | exact follows_throw rfl

theorem uploadChunk_staysIdle (req : UploadRequest) : StaysIdle env (uploadChunk env api req) := by
  refine (authorizeIncident_staysIdle _ _).andThen fun incident => ?_
  refine staysIdle_check fun _ => ?_
  refine (staysIdle_checked _).andThen fun keyHash => ?_
  refine (readChunkUpload_staysIdle _).andThen fun upload => ?_
  refine staysIdle_check fun hsha => ?_
  refine (validateChunkStream_staysIdle _ _).andThen fun _ => ?_
  refine staysIdle_check fun _ => ?_
  refine (acquireLease_staysIdle _ _).andThen fun _ => ?_
  refine (reserveOperation_staysIdle _ _ _).andThen fun _ => ?_
  refine (checkChunkExists_staysIdle _ _).andThen fun isThere => ?_
  cases isThere with
  | true => exact replayOrDuplicate_staysIdle _ _ _
  | false =>
    refine (checkAccountBlobQuota_staysIdle _ _).andThen fun _ => ?_
    refine (commitChunk_staysIdle hsha (replayOrDuplicate_staysIdle _ _ _)).andThen fun outcome => ?_
    cases outcome with
    | inl response => exact follows_pure rfl
    | inr chunk =>
      cases keyHash with
      | none => exact follows_pure rfl
      | some k =>
        exact (completeOperation_staysIdle _ _).andThen fun _ => follows_pure rfl

theorem validateRelayChunkRequest_staysIdle (input : RelayChunkInput) :
    StaysIdle env (validateRelayChunkRequest api input) := by
  refine staysIdle_check fun _ => ?_
  refine follows_call_then trivial fun now => ?_
  refine (staysIdle_checked _).andThen fun capability => ?_
  refine staysIdle_check fun _ => ?_
  refine follows_call_then trivial fun a => ?_
  match a with
  | .error e => cases e <;> exact follows_throw rfl
  | .ok incident =>
    refine staysIdle_check fun _ => ?_
    refine staysIdle_check fun _ => ?_
    exact (requireOpenUploadStream_staysIdle _ _ _).andThen fun _ => follows_pure rfl

/-- `readRelayCommitUpload` takes the digest of the upload from the input. -/
theorem readRelayCommitUpload_follows (body : Except Response (Multipart RelayFields)) :
    (discipline env).Follows (fun t r => t = .idle ∧ ∀ x, r = .ok x → x.2.sha256Hex = x.1.sha256Hex)
      .idle (readRelayCommitUpload api body).run := by
  refine follows_then (staysIdle_checked _) (fun form => ?_) fun _ => ⟨rfl, fun _ h => (by cases h)⟩
  refine follows_then (saveTemp_staysIdle _) (fun temp => ?_) fun _ => ⟨rfl, fun _ h => (by cases h)⟩
  refine follows_then (staysIdle_checked _) (fun input => ?_) fun _ => ⟨rfl, fun _ h => (by cases h)⟩
  refine follows_pure ⟨rfl, fun x h => ?_⟩
  cases h
  rfl

theorem relayCommit_staysIdle (req : RelayRequest) : StaysIdle env (relayCommit env api req) := by
  refine (staysIdle_checked _).andThen fun _ => ?_
  refine follows_seq (Follows.mono ?_ (readRelayCommitUpload_follows req.body))
  rintro t r ⟨rfl, hr⟩
  refine ⟨fun x hx => ?_, fun _ _ => rfl⟩
  obtain ⟨input, upload⟩ := x
  have hsame : upload.sha256Hex = input.sha256Hex := hr _ hx
  refine (validateRelayChunkRequest_staysIdle _).andThen fun incident => ?_
  refine staysIdle_check fun _ => ?_
  refine staysIdle_check fun hsha => ?_
  refine staysIdle_check fun _ => ?_
  refine (acquireLease_staysIdle _ _).andThen fun _ => ?_
  refine (checkChunkExists_staysIdle _ _).andThen fun isThere => ?_
  cases isThere with
  | true => exact follows_throw rfl
  | false =>
    refine (checkAccountBlobQuota_staysIdle _ _).andThen fun _ => ?_
    refine (commitChunk_staysIdle (hsha.trans hsame.symm) (follows_throw rfl)).andThen fun outcome => ?_
    cases outcome with
    | inl | inr => exact follows_pure rfl

/-! ### The worker -/

/-- The worker program ends in the phase when it succeeds and settled in any case. -/
abbrev EndsIn {α : Type} (t₀ : Phase) (t : Phase) (r : Except WorkerError α) : Prop :=
  t.Settled ∧ ∀ a, r = .ok a → t = t₀

theorem repoCall_follows {α β : Type} {x : Except RepoError α} {t : Phase}
    {Q : Phase → Except WorkerError β → Prop} {f : α → WorkerM β}
    (hok : ∀ a, x = .ok a → (discipline env).Follows Q t (f a).run)
    (herr : ∀ e, x = .error e → Q t (.error (.repo e))) :
    (discipline env).Follows Q t (repoCall x >>= f).run := by
  cases x with
  | ok a => exact hok a rfl
  | error e => exact herr e rfl

theorem repoCall_ends {α : Type} {x : Except RepoError α} {t t₀ : Phase} (hs : t.Settled)
    (hok : ∀ a, x = .ok a → t = t₀) :
    (discipline env).Follows (EndsIn t₀) t (repoCall x).run := by
  cases x with
  | ok a => exact follows_pure ⟨hs, fun _ _ => hok a rfl⟩
  | error e => exact follows_throw ⟨hs, fun _ h => (by cases h)⟩

theorem follows_worker {α β : Type} {x : WorkerM α} {f : α → WorkerM β} {t t₀ m : Phase}
    (hx : (discipline env).Follows (EndsIn m) t x.run)
    (hf : ∀ a, (discipline env).Follows (EndsIn t₀) m (f a).run) :
    (discipline env).Follows (EndsIn t₀) t (x >>= f).run := by
  refine follows_seq (Follows.mono ?_ hx)
  rintro t' r ⟨hs, hr⟩
  refine ⟨fun a ha => ?_, fun e _ => ⟨hs, fun _ h => (by cases h)⟩⟩
  rw [hr a ha]
  exact hf a

theorem settled_afterMark {d : String} {items : List DeletionItem} (a : Except RepoError Unit) :
    (Phase.afterMark d items a).Settled := by
  cases a <;> trivial

theorem markDone_follows (d : String) (item : DeletionItem) (items : List DeletionItem) :
    (discipline env).Follows (EndsIn (.working d items)) (.removed d item items)
      (markDone item).run := by
  refine follows_call_then rfl fun a => repoCall_ends (settled_afterMark a) ?_
  rintro _ rfl
  rfl

theorem processItems_follows (d : String) (items : List DeletionItem) (failed : Bool) :
    (discipline env).Follows (EndsIn (.working d [])) (.working d items)
      (processItems items failed).run := by
  induction items generalizing failed with
  | nil => exact follows_pure ⟨trivial, fun _ _ => rfl⟩
  | cons item items ih =>
    refine follows_call_then trivial fun done => ?_
    cases done with
    | true => exact follows_throw ⟨trivial, fun _ h => (by cases h)⟩
    | false =>
      refine follows_call_then rfl fun answer => ?_
      -- the answer of the store decides the phase and how the item is marked
      match answer with
      | .ok _ => exact follows_worker (markDone_follows d item items) fun _ => ih failed
      | .error .canceled => exact follows_throw ⟨trivial, fun _ h => (by cases h)⟩
      | .error .notExist => exact follows_worker (markDone_follows d item items) fun _ => ih failed
      | .error .unsafePath | .error .alreadyExists | .error .tooLarge
      | .error .tempStagingQuotaExceeded | .error .other =>
        refine follows_call_then rfl fun a => ?_
        refine follows_worker (repoCall_ends (settled_afterMark a) ?_) fun _ => ih true
        rintro _ rfl
        rfl

theorem finishDeletion_follows (d : String) (failed : Bool) :
    (discipline env).Follows (EndsIn .idle) (.working d []) (finishDeletion d failed).run := by
  cases failed with
  | true | false =>
    refine follows_call_then ⟨rfl, rfl⟩ fun a => ?_
    exact follows_worker (repoCall_ends trivial fun _ _ => rfl) fun _ =>
      follows_pure ⟨trivial, fun _ _ => rfl⟩

theorem processDeletion_follows (d : String) (stale : Time) :
    (discipline env).Follows (EndsIn .idle) .idle (processDeletion d stale).run := by
  refine follows_call_then trivial fun claimed => ?_
  match claimed with
  | .ok status =>
    refine follows_call_then rfl fun listed => ?_
    match listed with
    | .ok items =>
      refine repoCall_follows (x := .ok items) (fun its hits => ?_) fun _ h => (by cases h)
      cases hits
      exact follows_worker (processItems_follows status.id items false) fun failed =>
        finishDeletion_follows status.id failed
    | .error e => exact follows_throw ⟨trivial, fun _ h => (by cases h)⟩
  | .error e =>
    cases e <;> first
      | exact follows_pure ⟨trivial, fun _ _ => rfl⟩
      | exact follows_throw ⟨trivial, fun _ h => (by cases h)⟩

theorem queueCandidates_follows (cutoff : Time) (candidates : List Incident) (queued : Nat) :
    (discipline env).Follows (EndsIn .idle) .idle (queueCandidates cutoff candidates queued).run := by
  induction candidates generalizing queued with
  | nil => exact follows_pure ⟨trivial, fun _ _ => rfl⟩
  | cons inc rest ih =>
    refine follows_call_then rfl fun a => ?_
    match a with
    | .ok _ => exact ih (queued + 1)
    | .error e =>
      cases e <;> first
        | exact ih queued
        | exact follows_throw ⟨trivial, fun _ h => (by cases h)⟩

theorem queueRetention_follows (opts : WorkerOptions) :
    (discipline env).Follows (EndsIn .idle) .idle (queueRetention opts).run := by
  unfold queueRetention
  split
  · refine follows_call_then trivial fun now => ?_
    refine follows_call_then trivial fun a => ?_
    exact follows_worker (repoCall_ends trivial fun _ _ => rfl) fun _ =>
      queueCandidates_follows _ _ _
  · exact follows_pure ⟨trivial, fun _ _ => rfl⟩

theorem pruneWith_follows {retention : Time} {prune : Time → Tx}
    {count : (t : Tx) → t.Result → Nat} (hclient : ∀ c, (prune c).isClient = true) :
    (discipline env).Follows (EndsIn .idle) .idle (pruneWith retention prune count).run := by
  -- a client transaction is allowed in the idle phase and leaves it
  have hidle : ∀ t : Tx, t.isClient = true → Phase.Allowed env .idle (.tx t) ∧
      ∀ a, Phase.next .idle (.tx t) a = .idle := by
    intro t ht
    cases t <;> first | exact ⟨ht, fun _ => rfl⟩ | cases ht
  unfold pruneWith
  split
  · refine follows_call_then trivial fun (now : Time) => ?_
    obtain ⟨hallowed, hnext⟩ := hidle _ (hclient (now - retention))
    refine follows_call_then hallowed fun a => ?_
    refine follows_worker (m := .idle) ?_ fun r => follows_pure ⟨trivial, fun _ _ => rfl⟩
    show (discipline env).Follows _ (Phase.next .idle _ a) _
    rw [hnext a]
    exact repoCall_ends trivial fun _ _ => rfl
  · exact follows_pure ⟨trivial, fun _ _ => rfl⟩

theorem processJobs_follows (stale : Time) (jobs : List DeletionDecision) (summary : Summary) :
    (discipline env).Follows (EndsIn .idle) .idle (processJobs stale jobs summary).run := by
  induction jobs generalizing summary with
  | nil => exact follows_pure ⟨trivial, fun _ _ => rfl⟩
  | cons job jobs ih =>
    refine follows_call_then trivial fun done => ?_
    cases done with
    | true => exact follows_throw ⟨trivial, fun _ h => (by cases h)⟩
    | false => exact follows_worker (processDeletion_follows job.id stale) fun completed => ih _

theorem runOnce_follows (opts : WorkerOptions) :
    (discipline env).Follows (EndsIn .idle) .idle (runOnce opts).run := by
  refine follows_worker (queueRetention_follows opts) fun queued => ?_
  refine follows_worker (pruneWith_follows fun _ => rfl) fun tokens => ?_
  refine follows_worker (pruneWith_follows fun _ => rfl) fun tombstones => ?_
  refine follows_call_then trivial fun now => ?_
  refine follows_call_then trivial fun a => ?_
  exact follows_worker (repoCall_ends trivial fun _ _ => rfl) fun jobs => processJobs_follows _ _ _

/-! ### All programs -/

/-- Every program follows the discipline and ends with nothing in its hands. -/
theorem main_follows (env : Env) (api : API) (req : Request) :
    (discipline env).Follows (fun t _ => t.Settled) .idle (main env api req) := by
  cases req with
  | uploadChunk req =>
    exact follows_bind (Follows.mono (fun t r ht => ht ▸ trivial) (uploadChunk_staysIdle req))
  | relayCommit req =>
    exact follows_bind (Follows.mono (fun t r ht => ht ▸ trivial) (relayCommit_staysIdle req))
  | runOnce opts =>
    exact follows_bind (Follows.mono (fun t r ht => ht.1) (runOnce_follows (newWorker opts)))
  | write t =>
    obtain ⟨t, ht⟩ := t
    cases t <;> first
      | exact ⟨ht, fun _ => trivial⟩
      | cases ht

end SafetyRecorder
