import SafetyRecorder.Server.Calls

namespace SafetyRecorder

open Process

/-!
# Retention — the deletion worker

`RunOnce` and `processDeletion` of `internal/retention/deletion_worker.go`, with
`QueueRetentionIncidentDeletions` of the repository, as programs over `Call`.  The
loops over jobs and items recurse over the lists they range over.
-/

/-- `Options` of the worker, after `NewWorker` has put in its defaults. -/
structure WorkerOptions where
  closedIncidentRetention : Time := 0
  tokenMetadataRetention : Time := 0
  tombstoneRetention : Time := 0
  deletingRetryAfter : Time := 15 * 60 * 1000000000
  batchSize : Int := 25
  deriving DecidableEq, Repr

/-- `NewWorker`: defaults for a batch size or retry time that is not positive. -/
def newWorker (opts : WorkerOptions) : WorkerOptions :=
  { opts with
    batchSize := if opts.batchSize ≤ 0 then 25 else opts.batchSize
    deletingRetryAfter :=
      if opts.deletingRetryAfter ≤ 0 then 15 * 60 * 1000000000 else opts.deletingRetryAfter }

/-- `Summary`. -/
structure Summary where
  retentionQueued : Nat := 0
  tokenMetadataPruned : Nat := 0
  tombstonesPruned : Nat := 0
  processed : Nat := 0
  completed : Nat := 0
  failed : Nat := 0
  deriving DecidableEq, Repr

/-- The errors a worker run ends with. -/
inductive WorkerError
  | repo (e : RepoError)
  | store (e : StoreError)
  | canceled
  deriving DecidableEq, Repr

/-- `deletionErrorCode`. -/
def deletionErrorCode : StoreError → String
  | .unsafePath => "unsafe_stored_path"
  | .canceled => "canceled"
  | _ => "blob_delete_failed"

/-- A worker program: it can end early with an error. -/
abbrev WorkerM := ExceptT WorkerError Proc

/-- Make one call. -/
def ask (c : Call) : WorkerM (Answer c) := ExceptT.lift (Prog.perform c)

/-- A repository call whose error ends the run. -/
def repoCall {α : Type} (answer : Except RepoError α) : WorkerM α :=
  match answer with
  | .ok a => pure a
  | .error e => throw (.repo e)

/-! ### Working on one decision -/

/-- `MarkIncidentDeletionItemDeleted`, ending the run on an error. -/
def markDone (item : DeletionItem) : WorkerM Unit := do
  let answer : Except RepoError Unit ← ask (.tx (.markIncidentDeletionItemDeleted item.id))
  repoCall answer

/-- The loop over the items of a decision; returns whether one of them failed. -/
def processItems : List DeletionItem → Bool → WorkerM Bool
  | [], failed => pure failed
  | item :: items, failed => do
    let done : Bool ← ask .ctxErr
    if done then throw .canceled
    else
      let removed : Except StoreError Unit ← ask (.removeItem item)
      match removed with
      | .ok _ =>
        markDone item
        processItems items failed
      | .error .canceled => throw (.store .canceled)
      | .error .notExist =>
        markDone item
        processItems items failed
      | .error e =>
        let answer : Except RepoError Unit ←
          ask (.tx (.markIncidentDeletionItemFailed item.id (deletionErrorCode e)))
        repoCall answer
        processItems items true

/-- The end of `processDeletion`. -/
def finishDeletion (decisionID : String) (failed : Bool) : WorkerM Bool := do
  if failed then
    let answer : Except RepoError DeletionDecision ←
      ask (.tx (.failIncidentDeletion decisionID "blob_delete_failed"))
    let _ ← repoCall answer
    pure false
  else
    let answer : Except RepoError DeletionDecision ← ask (.tx (.completeIncidentDeletion decisionID))
    let _ ← repoCall answer
    pure true

/-- `processDeletion`: whether the deletion was completed. -/
def processDeletion (decisionID : String) (staleDeletingBefore : Time) : WorkerM Bool := do
  let claimed : Except RepoError DeletionDecision ←
    ask (.tx (.markIncidentDeletionDeleting decisionID staleDeletingBefore))
  match claimed with
  | .error .notFound => pure false
  | .error e => throw (.repo e)
  | .ok status =>
    let answer : Except RepoError (List DeletionItem) ←
      ask (.query (.listIncidentDeletionItems status.id))
    let items ← repoCall answer
    let failed ← processItems items false
    finishDeletion status.id failed

/-! ### One maintenance pass -/

/-- The requests of `QueueRetentionIncidentDeletions`: incidents that changed since
    they were selected are skipped. -/
def queueCandidates (cutoff : Time) : List Incident → Nat → WorkerM Nat
  | [], queued => pure queued
  | inc :: rest, queued => do
    let answer : Except RepoError DeletionDecision ← ask (.tx (.requestIncidentDeletion
      { incidentID := inc.id
        source := .retentionPolicy
        reasonCode := "closed_incident_retention"
        retentionCutoff := some cutoff }))
    match answer with
    | .ok _ => queueCandidates cutoff rest (queued + 1)
    | .error .invalidState => queueCandidates cutoff rest queued
    | .error .notFound => queueCandidates cutoff rest queued
    | .error e => throw (.repo e)

/-- `QueueRetentionIncidentDeletions`. -/
def queueRetentionIncidentDeletions (cutoff : Time) (limit : Int) : WorkerM Nat := do
  let answer : Except RepoError (List Incident) ← ask (.query (.retentionCandidates cutoff limit))
  let candidates ← repoCall answer
  queueCandidates cutoff candidates 0

/-- A pruning transaction of the maintenance pass, when its retention is configured. -/
def pruneWith (retention : Time) (prune : Time → Tx) (count : (t : Tx) → t.Result → Nat) :
    WorkerM Nat := do
  if retention > 0 then
    let now : Time ← ask .timeNow
    let answer : Except RepoError (prune (now - retention)).Result ← ask (.tx (prune (now - retention)))
    let r ← repoCall answer
    pure (count _ r)
  else pure 0

/-- The number of rows a pruning transaction reports. -/
def prunedCount : (t : Tx) → t.Result → Nat
  | .pruneIncidentTokenMetadata .., n => n
  | .pruneIncidentDeletionTombstones .., n => n
  | _, _ => 0

/-- The loop over the runnable decisions. -/
def processJobs (staleDeletingBefore : Time) : List DeletionDecision → Summary → WorkerM Summary
  | [], summary => pure summary
  | job :: jobs, summary => do
    let done : Bool ← ask .ctxErr
    if done then throw .canceled
    else
      let completed ← processDeletion job.id staleDeletingBefore
      processJobs staleDeletingBefore jobs { summary with
        processed := summary.processed + 1
        completed := summary.completed + if completed then 1 else 0
        failed := summary.failed + if completed then 0 else 1 }

/-- The retention part of `RunOnce`. -/
def queueRetention (opts : WorkerOptions) : WorkerM Nat := do
  if opts.closedIncidentRetention > 0 then
    let now : Time ← ask .timeNow
    queueRetentionIncidentDeletions (now - opts.closedIncidentRetention) opts.batchSize
  else pure 0

/-- `RunOnce`. -/
def runOnce (opts : WorkerOptions) : WorkerM Summary := do
  let queued ← queueRetention opts
  let tokens ← pruneWith opts.tokenMetadataRetention
    (.pruneIncidentTokenMetadata · opts.batchSize) prunedCount
  let tombstones ← pruneWith opts.tombstoneRetention
    (.pruneIncidentDeletionTombstones · opts.batchSize) prunedCount
  let now : Time ← ask .timeNow
  let stale := now - opts.deletingRetryAfter
  let answer : Except RepoError (List DeletionDecision) ←
    ask (.query (.listRunnableIncidentDeletions opts.batchSize stale))
  let jobs ← repoCall answer
  processJobs stale jobs
    { retentionQueued := queued, tokenMetadataPruned := tokens, tombstonesPruned := tombstones }

end SafetyRecorder
