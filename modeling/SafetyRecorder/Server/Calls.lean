import SafetyRecorder.Incidents.Transactions
import SafetyRecorder.Storage.Paths
import SafetyRecorder.Lib.Process

namespace SafetyRecorder

open Process

/-!
# Server — the calls handlers and workers make

A request handler or a deletion worker is a `Prog` over `Call`: repository reads
(`Query`), repository transactions (`Tx`), blob store operations, and what it asks
of its surroundings.  `exec` is what one call does to the `World`; every call is
atomic, so an interleaving of processes is an interleaving of calls.

* `Choice` — what the environment decides at a call: the clock, an infrastructure
  fault, the answer of the upload coordinator;
* `Fault.lostCommit` — the transaction was applied although its commit reported an
  error;
* `exec_query`, `exec_tx`, `exec_commitTemp`, … — **inversion** of one call.
-/

/-! ### Calls -/

/-- The repository reads of handlers and workers. -/
inductive Query
  | getIncident (id : String)
  | getMediaStream (incidentID streamID : String)
  | chunkExists (incidentID streamID : String) (mediaType : MediaType) (chunkIndex : Int)
  | getChunkByIdentity (incidentID streamID : String) (mediaType : MediaType) (chunkIndex : Int)
  | accountCommittedBlobBytes (ownerAccountID : String)
  | retentionCandidates (cutoff : Time) (limit : Int)
  | listRunnableIncidentDeletions (limit : Int) (staleDeletingBefore : Time)
  | listIncidentDeletionItems (decisionID : String)
  deriving DecidableEq, Repr

namespace Query

/-- What a read returns besides the error. -/
def Result : Query → Type
  | getIncident .. => Incident
  | getMediaStream .. => MediaStream
  | chunkExists .. => Bool
  | getChunkByIdentity .. => Chunk
  | accountCommittedBlobBytes .. => Int
  | retentionCandidates .. => List Incident
  | listRunnableIncidentDeletions .. => List DeletionDecision
  | listIncidentDeletionItems .. => List DeletionItem

/-- The read on the database. -/
def run (env : Env) (db : DB) : (q : Query) → Except RepoError q.Result
  | getIncident i => SafetyRecorder.getIncident db i
  | getMediaStream i s => SafetyRecorder.getMediaStream db i s
  | chunkExists i s m k => .ok (SafetyRecorder.chunkExists db i s m k)
  | getChunkByIdentity i s m k => SafetyRecorder.getChunkByIdentity db i s m k
  | accountCommittedBlobBytes o => .ok (SafetyRecorder.accountCommittedBlobBytes db o)
  | retentionCandidates c l => .ok (SafetyRecorder.retentionCandidates env c l db)
  | listRunnableIncidentDeletions l s => .ok (SafetyRecorder.listRunnableIncidentDeletions env l s db)
  | listIncidentDeletionItems d => .ok (SafetyRecorder.listIncidentDeletionItems env d db)

end Query

/-- `TempUpload`: a staged upload.  Size and digest are computed while the bytes are
    staged, so they are functions of the content. -/
structure TempUpload where
  content : Bytes
  deriving DecidableEq, Repr

/-- `TempUpload.ByteSize`. -/
def TempUpload.byteSize (upload : TempUpload) : Int := upload.content.length

/-- `TempUpload.SHA256Hex`. -/
def TempUpload.sha256Hex (env : Env) (upload : TempUpload) : String := env.sha256Hex upload.content

/-- The answers of `AcquireUploadLease`: acquired, held by another upload, or the
    coordinator failed. -/
inductive LeaseAnswer
  | acquired | busy | unavailable
  deriving DecidableEq, Repr

/-- The calls of a handler or worker. -/
inductive Call
  | query (q : Query)
  | tx (t : Tx)
  /-- `store.SaveTemp`. -/
  | saveTemp (content : Bytes) (maxBytes : Int)
  /-- `store.CommitTemp`. -/
  | commitTemp (upload : TempUpload) (incidentID streamID : String) (mediaType : MediaType)
      (chunkIndex : Int)
  /-- `store.Open`. -/
  | openBlob (storedPath : String)
  /-- `store.Remove` by `removeCommittedBlobAfterMetadataFailure`. -/
  | removeCommittedBlob (storedPath : String)
  /-- `store.Remove` of a deletion item's path by a worker. -/
  | removeItem (item : DeletionItem)
  | acquireUploadLease (incidentID streamID : String) (mediaType : MediaType) (chunkIndex : Int)
  | timeNow
  /-- `ctx.Err() != nil`. -/
  | ctxErr
  deriving DecidableEq, Repr

/-- The answer of a call.  A committed upload is answered with the path of its
    chunk. -/
def Answer : Call → Type
  | .query q => Except RepoError q.Result
  | .tx t => Except RepoError t.Result
  | .saveTemp .. => Except StoreError TempUpload
  | .commitTemp _ i s m k => Except StoreError { p : String // storedBlobPath i s m k = .ok p }
  | .openBlob .. => Except StoreError Unit
  | .removeCommittedBlob .. => Except StoreError Unit
  | .removeItem .. => Except StoreError Unit
  | .acquireUploadLease .. => LeaseAnswer
  | .timeNow => Time
  | .ctxErr => Bool

/-- A program of the server. -/
abbrev Proc := Prog Call Answer

/-! ### The world -/

/-- What all processes share.  `reported` is a history variable: the paths, with the
    decision of their item, that the store has reported removed or absent. -/
structure World where
  db : DB := {}
  blobs : String → Option Bytes := fun _ => none
  nextID : Nat := 0
  reported : List (String × String) := []

/-- How a call can go wrong below the code: it fails without an effect, it fails
    because its context was cancelled or because the staging area is full, or a
    transaction is applied although its commit reports an error. -/
inductive Fault
  | none | failed | canceled | stagingFull | lostCommit
  deriving DecidableEq, Repr

/-- What the environment decides at a call. -/
structure Choice where
  now : Time := 0
  fault : Fault := .none
  lease : LeaseAnswer := .acquired
  ctxDone : Bool := false
  deriving DecidableEq, Repr

/-- The error of a store operation that failed without an effect. -/
def Fault.storeError : Fault → StoreError
  | .canceled => .canceled
  | .stagingFull => .tempStagingQuotaExceeded
  | _ => .other

/-- `Remove` of both stores. -/
def World.remove (env : Env) (w : World) (storedPath : String) : Except StoreError Unit × World :=
  match cleanStoredPath storedPath with
  | .error e => (.error e, w)
  | .ok path =>
    match w.blobs path with
    | none => (if env.missingBlobIsError then .error .notExist else .ok (), w)
    | some _ => (.ok (), { w with blobs := Function.update w.blobs path none })

/-- The store reported the blob removed or absent. -/
def reportsAbsence : Except StoreError Unit → Bool
  | .ok _ => true
  | .error e => e == .notExist

/-- What one call does. -/
def exec (env : Env) (w : World) : (c : Call) → Choice → Option (Answer c × World)
  | .query q, ch =>
    match ch.fault with
    | .none => some (q.run env w.db, w)
    | .lostCommit => none
    | _ => some (.error .database, w)
  | .tx t, ch =>
    match ch.fault, t.run env ⟨w.nextID, ch.now⟩ w.db with
    | .none, .ok (r, db') => some (.ok r, { w with db := db', nextID := w.nextID + t.draws w.db })
    | .none, .error e => some (.error e, { w with nextID := w.nextID + t.draws w.db })
    | .lostCommit, .ok (_, db') =>
      some (.error .database, { w with db := db', nextID := w.nextID + t.draws w.db })
    | .lostCommit, .error _ => none
    | _, _ => some (.error .database, w)
  | .saveTemp content maxBytes, ch =>
    match ch.fault with
    | .none => some (if content.length > maxBytes then .error .tooLarge else .ok ⟨content⟩, w)
    | .lostCommit => none
    | f => some (.error f.storeError, w)
  | .commitTemp upload i s m k, ch =>
    match ch.fault with
    | .none =>
      match hp : storedBlobPath i s m k with
      | .error e => some (.error e, w)
      | .ok path =>
        match w.blobs path with
        | some _ => some (.error .alreadyExists, w)
        | none => some (.ok ⟨path, hp⟩,
            { w with blobs := Function.update w.blobs path (some upload.content) })
    | .lostCommit => none
    | f => some (.error f.storeError, w)
  | .openBlob path, ch =>
    match ch.fault with
    | .none =>
      match cleanStoredPath path with
      | .error e => some (.error e, w)
      | .ok p => some (if (w.blobs p).isSome then .ok () else .error .notExist, w)
    | .lostCommit => none
    | f => some (.error f.storeError, w)
  | .removeCommittedBlob path, ch =>
    match ch.fault with
    | .none => some (w.remove env path)
    | .lostCommit => none
    | f => some (.error f.storeError, w)
  | .removeItem item, ch =>
    match ch.fault with
    | .none =>
      let (answer, w') := w.remove env item.storedPath
      some (answer, { w' with
        reported := if reportsAbsence answer then (item.decisionID, item.storedPath) :: w'.reported
          else w'.reported })
    | .lostCommit => none
    | f => some (.error f.storeError, w)
  | .acquireUploadLease .., ch => some (ch.lease, w)
  | .timeNow, ch => some (ch.now, w)
  | .ctxErr, ch => some (ch.ctxDone, w)

/-! ### Inversion -/

variable {env : Env} {w w' : World} {ch : Choice}

/-- A read leaves the world alone and answers what the database holds, or an error. -/
theorem exec_query {q : Query} {a : Answer (.query q)}
    (h : exec env w (.query q) ch = some (a, w')) :
    w' = w ∧ (a = q.run env w.db ∨ a = .error .database) := by
  simp only [exec] at h
  split at h
  · cases h
    exact ⟨rfl, .inl rfl⟩
  · cases h
  · cases h
    exact ⟨rfl, .inr rfl⟩

/-- A transaction is applied as a whole or not at all; what it answers is its result,
    or an error when it was not applied or its commit was lost. -/
theorem exec_tx {t : Tx} {a : Answer (.tx t)} (h : exec env w (.tx t) ch = some (a, w')) :
    (∃ r db', t.run env ⟨w.nextID, ch.now⟩ w.db = .ok (r, db') ∧
      w' = { w with db := db', nextID := w.nextID + t.draws w.db } ∧
      (a = .ok r ∨ ch.fault = .lostCommit ∧ a = .error .database)) ∨
    (∃ n e, w.nextID ≤ n ∧ w' = { w with nextID := n } ∧ a = .error e ∧ ch.fault ≠ .lostCommit ∧
      (ch.fault = .none → t.run env ⟨w.nextID, ch.now⟩ w.db = .error e)) := by
  simp only [exec] at h
  split at h
  next r db' hf hrun =>
    cases h
    exact .inl ⟨r, db', hrun, rfl, .inl rfl⟩
  next e hf hrun =>
    cases h
    exact .inr ⟨_, e, Nat.le_add_right _ _, rfl, rfl, by rw [hf]; decide, fun _ => hrun⟩
  next r db' hf hrun =>
    cases h
    exact .inl ⟨r, db', hrun, rfl, .inr ⟨hf, rfl⟩⟩
  · cases h
  next hok herr hlost hlostErr =>
    cases h
    refine .inr ⟨w.nextID, .database, Nat.le_refl _, rfl, rfl, fun hf => ?_, fun hf => ?_⟩
    · cases hrun : t.run env ⟨w.nextID, ch.now⟩ w.db with
      | error e => exact (hlostErr e hf hrun).elim
      | ok x => exact (hlost x.1 x.2 hf hrun).elim
    · cases hrun : t.run env ⟨w.nextID, ch.now⟩ w.db with
      | error e => exact (herr e hf hrun).elim
      | ok x => exact (hok x.1 x.2 hf hrun).elim

/-- A commit creates the blob when there is none and never touches another. -/
theorem exec_commitTemp {u : TempUpload} {i s : String} {m : MediaType} {k : Int}
    {a : Answer (.commitTemp u i s m k)}
    (h : exec env w (.commitTemp u i s m k) ch = some (a, w')) :
    (∃ p, a = .ok p ∧ w.blobs p.1 = none ∧
      w' = { w with blobs := Function.update w.blobs p.1 (some u.content) }) ∨
    (w' = w ∧ ∃ e, a = .error e) := by
  simp only [exec] at h
  split at h
  · split at h
    next e hp =>
      cases h
      exact .inr ⟨rfl, e, rfl⟩
    next path hp =>
      split at h
      · cases h
        exact .inr ⟨rfl, _, rfl⟩
      next hnone =>
        cases h
        exact .inl ⟨⟨path, hp⟩, rfl, hnone, rfl⟩
  · cases h
  · cases h
    exact .inr ⟨rfl, _, rfl⟩

/-- `Remove` takes away at most the blob at the given path. -/
theorem World.remove_cases (env : Env) (w : World) (path : String) :
    ((w.remove env path).2 = w ∧ (w.blobs path = none ∨ ∃ e, cleanStoredPath path = .error e)) ∨
    (cleanStoredPath path = .ok path ∧ (w.remove env path).1 = .ok () ∧
      (w.remove env path).2 = { w with blobs := Function.update w.blobs path none }) := by
  have hself : ∀ q, cleanStoredPath path = .ok q → q = path := by
    intro q hq
    unfold cleanStoredPath at hq
    split at hq
    · cases hq
    · split at hq
      · exact (Except.ok.inj hq).symm
      · cases hq
  unfold World.remove
  split
  next e he => exact .inl ⟨rfl, .inr ⟨e, he⟩⟩
  next q hq =>
    obtain rfl := hself q hq
    split
    next hnone => exact .inl ⟨rfl, .inl hnone⟩
    next => exact .inr ⟨hq, rfl, rfl⟩

variable {path : String}

/-- `Remove` of a clean path leaves no blob there and reports so. -/
theorem World.remove_clean (env : Env) (w : World) (hclean : cleanStoredPath path = .ok path) :
    (w.remove env path).2 = { w with blobs := Function.update w.blobs path none } ∧
      reportsAbsence (w.remove env path).1 = true := by
  simp only [World.remove, hclean]
  cases hb : w.blobs path with
  | none =>
    have hsame : Function.update w.blobs path none = w.blobs := Function.update_eq_self_iff.mpr hb.symm
    refine ⟨by rw [hsame], ?_⟩
    cases hm : env.missingBlobIsError <;> rfl
  | some b => exact ⟨rfl, rfl⟩

variable {a : Answer (.removeCommittedBlob path)}

/-- The removal after a failed `CreateChunk` takes away at most that blob. -/
theorem exec_removeCommittedBlob (h : exec env w (.removeCommittedBlob path) ch = some (a, w')) :
    w' = w ∨ w' = { w with blobs := Function.update w.blobs path none } := by
  simp only [exec] at h
  split at h
  · have hw' : w' = (w.remove env path).2 := (congrArg Prod.snd (Option.some.inj h)).symm
    rcases World.remove_cases env w path with ⟨hsame, -⟩ | ⟨-, -, hgone⟩
    · exact .inl (hw'.trans hsame)
    · exact .inr (hw'.trans hgone)
  · cases h
  · cases h
    exact .inl rfl

/-- The removal for a deletion item takes away at most the item's blob, and what the
    store reported gone is recorded. -/
theorem exec_removeItem {item : DeletionItem} {a : Answer (.removeItem item)}
    (h : exec env w (.removeItem item) ch = some (a, w')) :
    w'.db = w.db ∧ w'.nextID = w.nextID ∧
      (w'.blobs = w.blobs ∨ w'.blobs = Function.update w.blobs item.storedPath none) ∧
      w'.reported = if reportsAbsence a then (item.decisionID, item.storedPath) :: w.reported
        else w.reported := by
  simp only [exec] at h
  split at h
  · generalize hr : w.remove env item.storedPath = r at h
    obtain ⟨ans, w₁⟩ := r
    cases h
    have hw₁ : w₁ = (w.remove env item.storedPath).2 := by rw [hr]
    have hkeep : w₁.db = w.db ∧ w₁.nextID = w.nextID ∧ w₁.reported = w.reported ∧
        (w₁.blobs = w.blobs ∨ w₁.blobs = Function.update w.blobs item.storedPath none) := by
      rcases World.remove_cases env w item.storedPath with ⟨hsame, -⟩ | ⟨-, -, hgone⟩
      · rw [hw₁, hsame]
        exact ⟨rfl, rfl, rfl, .inl rfl⟩
      · rw [hw₁, hgone]
        exact ⟨rfl, rfl, rfl, .inr rfl⟩
    obtain ⟨hdb, hnext, hrep, hblobs⟩ := hkeep
    exact ⟨hdb, hnext, hblobs, by rw [← hrep]⟩
  · cases h
  next f hf _ =>
    cases h
    have hno : reportsAbsence (.error ch.fault.storeError) = false := by
      cases ch.fault <;> rfl
    refine ⟨rfl, rfl, .inl rfl, ?_⟩
    rw [if_neg]
    simpa using hno

/-- Removals that do not fail leave no blob. -/
theorem exec_removeCommittedBlob_none
    (h : exec env w (.removeCommittedBlob path) ch = some (a, w')) (hf : ch.fault = .none)
    (hclean : cleanStoredPath path = .ok path) :
    w' = { w with blobs := Function.update w.blobs path none } := by
  simp only [exec, hf] at h
  rw [← (World.remove_clean env w hclean).1]
  exact (congrArg Prod.snd (Option.some.inj h)).symm

theorem exec_removeItem_none {item : DeletionItem} {a : Answer (.removeItem item)}
    (h : exec env w (.removeItem item) ch = some (a, w')) (hf : ch.fault = .none)
    (hclean : cleanStoredPath item.storedPath = .ok item.storedPath) :
    reportsAbsence a = true ∧ w'.db = w.db ∧ w'.nextID = w.nextID ∧
      w'.blobs = Function.update w.blobs item.storedPath none := by
  obtain ⟨hremove, hreport⟩ := World.remove_clean env w hclean
  simp only [exec, hf] at h
  cases h
  refine ⟨hreport, ?_⟩
  show (w.remove env item.storedPath).2.db = _ ∧ (w.remove env item.storedPath).2.nextID = _ ∧
    (w.remove env item.storedPath).2.blobs = _
  rw [hremove]
  exact ⟨rfl, rfl, rfl⟩

/-- The other calls leave the world alone. -/
theorem exec_saveTemp {content : Bytes} {n : Int} {a : Answer (.saveTemp content n)}
    (h : exec env w (.saveTemp content n) ch = some (a, w')) : w' = w := by
  simp only [exec] at h
  split at h <;> cases h
  · rfl
  · rfl

theorem exec_openBlob {a : Answer (.openBlob path)}
    (h : exec env w (.openBlob path) ch = some (a, w')) : w' = w := by
  simp only [exec] at h
  split at h
  · split at h <;> cases h <;> rfl
  · cases h
  · cases h
    rfl

end SafetyRecorder
