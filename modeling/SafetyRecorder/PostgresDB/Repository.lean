import SafetyRecorder.PostgresDB.Statements

namespace SafetyRecorder

open Process

/-!
# PostgreSQL — the repository methods

The methods of `internal/postgresdb` that write incidents, media streams, chunks and
deletion decisions (`repository.go`, `streams.go`, `chunks.go`, `deletion.go`,
`retention_pruning.go`), each as the program of the statements it issues.

* `inTx` — `BeginTx`, the body, then `Commit`, or `Rollback` after an error;
* `Postgres.createMediaStream`, …, `Postgres.pruneIncidentDeletionTombstones`;
* `PgRequest`, `pgMain` — the programs clients and workers can start.
-/

abbrev PgProc := Prog PgCall PgAnswer

/-- A repository method: it can end early with an error. -/
abbrev PgM := ExceptT RepoError PgProc

/-- One call. -/
def pgPerform (c : PgCall) : PgM (PgAnswer c) := ExceptT.lift (Prog.perform c)

/-- How a method reports the errors of a statement it does not treat. -/
def anyDatabaseError (_ : PgError) : RepoError := .database

/-- `isIntegrityConstraint` leads to the given error. -/
def integrityError (e : RepoError) : PgError → RepoError
  | .failed => .database
  | _ => e

/-- How `CreateChunk` reports a failed insert. -/
def chunkInsertError : PgError → RepoError
  | .unique => .duplicate
  | .foreignKey => .notFound
  | _ => .database

/-- A statement of a transaction. -/
def statement (tx : Nat) (s : Stmt) (onError : PgError → RepoError := anyDatabaseError) :
    PgM s.Result := do
  match ← pgPerform (.stmt tx s) with
  | .ok r => return r
  | .error e => throw (onError e)

/-- A transaction: commit after the body, roll back when it fails. -/
def inTx {α : Type} (op : PgOp) (body : Nat → PgM α) : PgM α := ExceptT.mk do
  match ← (Prog.perform (PgCall.beginTx op) : PgProc (Except PgError Nat)) with
  | .error _ => return .error .database
  | .ok tx =>
    match ← (body tx).run with
    | .error e =>
      let _ ← (Prog.perform (PgCall.rollback tx) : PgProc Unit)
      return .error e
    | .ok r =>
      match ← (Prog.perform (PgCall.commit tx) : PgProc (Except PgError Unit)) with
      | .ok _ => return .ok r
      | .error _ => return .error .database

/-- A row that has to be there. -/
def requireRow {α : Type} (row : Option α) (e : RepoError) : PgM α :=
  match row with
  | some r => return r
  | none => throw e

/-- A condition that has to hold. -/
def requirePg (c : Prop) [Decidable c] (e : RepoError) : PgM Unit :=
  if c then return () else throw e

namespace Postgres

/-! ### Incidents and streams -/

/-- `CreateIncidentForAccount`. -/
def createIncidentForAccount (accountID : String) (params : CreateIncidentParams) : PgM Incident := do
  let now ← pgPerform .timeNow
  let id ← pgPerform (.newID "inc")
  let incident : Incident :=
    { id := id
      ownerAccountID := accountID
      createdAt := now
      updatedAt := now
      status := .open
      clientLabel := params.clientLabel
      notes := params.notes
      incidentMode := params.incidentMode
      captureProfile := params.captureProfile
      escalationPolicy := params.escalationPolicy
      sharingState := params.sharingState }
  match ← pgPerform (.exec (.insertIncident incident)) with
  | .ok _ => return incident
  | .error e => throw (integrityError .notFound e)

/-- `GetIncident`. -/
def getIncident (id : String) : PgM Incident := do
  match ← pgPerform (.query (.incident id)) with
  | .ok row => requireRow row .notFound
  | .error _ => throw .database

/-- `lockActiveIncident`. -/
def lockActiveIncident (tx : Nat) (incidentID : String) : PgM Unit := do
  let row ← statement tx (.lockIncident incidentID)
  let inc ← requireRow row .notFound
  requirePg (inc.deletionState = .active) .incidentDeleting

/-- `CloseIncident`. -/
def closeIncident (id : String) : PgM Incident := do
  inTx .closeIncident fun tx => do
    lockActiveIncident tx id
    let now ← pgPerform .timeNow
    let _ ← statement tx (.write (.closeIncident id now))
  getIncident id

/-- `GetMediaStream`. -/
def getMediaStream (incidentID streamID : String) : PgM MediaStream := do
  match ← pgPerform (.query (.stream incidentID streamID)) with
  | .ok row => requireRow row .notFound
  | .error _ => throw .database

/-- `CreateMediaStream`. -/
def createMediaStream (incidentID : String) (mediaType : MediaType) (label : String) :
    PgM MediaStream :=
  inTx .createMediaStream fun tx => do
    lockActiveIncident tx incidentID
    let now ← pgPerform .timeNow
    let id ← pgPerform (.newID "str")
    let stream : MediaStream :=
      { id := id
        incidentID := incidentID
        mediaType := mediaType
        label := label
        status := .open
        createdAt := now
        updatedAt := now }
    let _ ← statement tx (.write (.insertStream stream)) (integrityError .notFound)
    return stream

/-- `lockOpenMediaStream`. -/
def lockOpenMediaStream (tx : Nat) (incidentID streamID : String) : PgM MediaType := do
  let row ← statement tx (.lockStream incidentID streamID)
  let stream ← requireRow row .notFound
  requirePg (stream.status = .open) .invalidState
  return stream.mediaType

/-- `validateCompleteStreamChunkRows`. -/
def validateCompleteStreamChunkRows (tx : Nat) (incidentID streamID : String) (mediaType : MediaType)
    (expectedChunkCount : Int) : PgM Unit := do
  let rows ← statement tx (.read (.completionChunks incidentID streamID))
  match scanCompletionChunks mediaType 0 rows with
  | .error e => throw e
  | .ok count => requirePg (count = expectedChunkCount) .invalidState

/-- `CompleteMediaStream`. -/
def completeMediaStream (incidentID streamID : String) (expectedChunkCount : Int) :
    PgM MediaStream := do
  let now ← pgPerform .timeNow
  inTx .completeMediaStream fun tx => do
    lockActiveIncident tx incidentID
    let mediaType ← lockOpenMediaStream tx incidentID streamID
    validateCompleteStreamChunkRows tx incidentID streamID mediaType expectedChunkCount
    let _ ← statement tx (.write (.completeStream incidentID streamID expectedChunkCount now))
  getMediaStream incidentID streamID

/-- `FailMediaStream`. -/
def failMediaStream (incidentID streamID reason : String) : PgM MediaStream := do
  let now ← pgPerform .timeNow
  inTx .failMediaStream fun tx => do
    lockActiveIncident tx incidentID
    let _ ← lockOpenMediaStream tx incidentID streamID
    let _ ← statement tx (.write (.failStream incidentID streamID reason now))
  getMediaStream incidentID streamID

/-! ### Chunks -/

/-- `validateChunkInsertState`; returns the owner of the incident. -/
def validateChunkInsertState (tx : Nat) (params : CreateChunkParams) : PgM String := do
  let row ← statement tx (.lockIncident params.incidentID)
  let inc ← requireRow row .notFound
  requirePg (inc.deletionState = .active) .incidentDeleting
  requirePg (inc.status = .open) .incidentClosed
  if params.streamID = "" then return inc.ownerAccountID
  else
    let row ← statement tx (.lockStream params.incidentID params.streamID)
    let stream ← requireRow row .notFound
    requirePg (stream.status = .open ∧ stream.mediaType = params.mediaType) .invalidState
    return inc.ownerAccountID

/-- `enforceAccountBlobQuotaTx`. -/
def enforceAccountBlobQuota (tx : Nat) (ownerAccountID : String) (additionalBytes quotaBytes : Int) :
    PgM Unit := do
  if ownerAccountID = "" ∨ quotaBytes ≤ 0 ∨ additionalBytes ≤ 0 then return ()
  else
    requirePg (additionalBytes ≤ quotaBytes) .accountBlobQuotaExceeded
    let row ← statement tx (.lockAccount ownerAccountID)
    let _ ← requireRow row .notFound
    let currentBytes : Int ← statement tx (.read (.committedBlobBytes ownerAccountID))
    requirePg (currentBytes ≤ quotaBytes - additionalBytes) .accountBlobQuotaExceeded

/-- `CreateChunk`. -/
def createChunk (params : CreateChunkParams) : PgM Chunk := do
  let id ← pgPerform (.newID "chk")
  let now ← pgPerform .timeNow
  let chunk : Chunk :=
    { id := id
      incidentID := params.incidentID
      streamID := params.streamID
      chunkIndex := params.chunkIndex
      mediaType := params.mediaType
      startedAt := params.startedAt
      endedAt := params.endedAt
      originalFilename := params.originalFilename
      storedPath := params.storedPath
      byteSize := params.byteSize
      sha256Hex := params.sha256Hex
      createdAt := now }
  inTx .createChunk fun tx => do
    let owner ← validateChunkInsertState tx params
    let found : Bool ← statement tx (.read (.chunkIdentity params))
    requirePg (found = false) .duplicate
    enforceAccountBlobQuota tx owner params.byteSize params.accountBlobQuotaBytes
    let _ ← statement tx (.write (.insertChunk chunk)) chunkInsertError
    return chunk

/-! ### Deletion -/

/-- `requireIncidentOwnerTx`. -/
def requireIncidentOwner (tx : Nat) (incidentID accountID : String) : PgM Unit := do
  let row ← statement tx (.read (.incident incidentID))
  let inc ← requireRow row .notFound
  requirePg (inc.ownerAccountID = accountID) .notFound

/-- One item for each stored path, inserted one after the other. -/
def insertItems (tx : Nat) (decisionID incidentID : String) (now : Time) : List String → PgM Unit
  | [] => return ()
  | path :: paths => do
    let id ← pgPerform (.newID "dli")
    let _ ← statement tx (.write (.insertItem
      { id := id
        decisionID := decisionID
        incidentID := incidentID
        storedPath := path
        state := .pending
        createdAt := now
        updatedAt := now }))
    insertItems tx decisionID incidentID now paths

/-- The checks of a deletion request on the locked incident. -/
def requireDeletableRow (params : IncidentDeletionRequest) (inc : Incident) : PgM Unit := do
  requirePg (params.requireOwnerID = "" ∨ inc.ownerAccountID = params.requireOwnerID) .notFound
  requirePg (inc.deletionState = .active) .invalidState
  requirePg (inc.status = .open → params.allowOpen = true) .invalidState
  match params.retentionCutoff with
  | none => return ()
  | some cutoff => requirePg (inc.status = .closed ∧ inc.updatedAt ≤ cutoff) .invalidState

/-- The decision, its items and the state of the incident. -/
def insertDeletion (tx : Nat) (now : Time) (params : IncidentDeletionRequest) :
    PgM DeletionDecision := do
  let id ← pgPerform (.newID "del")
  let decision : DeletionDecision :=
    { id := id
      incidentID := params.incidentID
      source := params.source
      reasonCode := params.reasonCode
      actorAccountID := params.actorAccountID
      allowOpen := params.allowOpen
      state := .pending
      itemCount := 0
      requestedAt := now
      updatedAt := now }
  let _ ← statement tx (.write (.insertDecision decision)) (integrityError .invalidState)
  let paths : List String ← statement tx (.read (.storedPaths params.incidentID))
  insertItems tx id params.incidentID now paths
  let _ ← statement tx (.write (.setItemCount id paths.length now))
  let _ ← statement tx (.write (.setDeletionState params.incidentID .pending now))
  return { decision with itemCount := paths.length }

/-- `RequestIncidentDeletion`. -/
def requestIncidentDeletion (params : IncidentDeletionRequest) : PgM DeletionDecision := do
  let now ← pgPerform .timeNow
  inTx .requestIncidentDeletion fun tx => do
    match ← statement tx (.read (.decisionOf params.incidentID)) with
    | some existing =>
      if params.requireOwnerID = "" then return existing
      else
        requireIncidentOwner tx params.incidentID params.requireOwnerID
        return existing
    | none =>
      let row ← statement tx (.lockIncident params.incidentID)
      let inc ← requireRow row .notFound
      requireDeletableRow params inc
      insertDeletion tx now params

/-- `getIncidentDeletionStatusByIDTx`. -/
def deletionStatusByID (tx : Nat) (decisionID : String) : PgM DeletionDecision := do
  let row ← statement tx (.read (.decision decisionID))
  requireRow row .notFound

/-- `MarkIncidentDeletionDeleting`. -/
def markIncidentDeletionDeleting (decisionID : String) (staleDeletingBefore : Time) :
    PgM DeletionDecision := do
  let now ← pgPerform .timeNow
  inTx .markIncidentDeletionDeleting fun tx => do
    let rowsAffected : Nat ← statement tx (.write (.claimDecision decisionID staleDeletingBefore now))
    requirePg (rowsAffected ≠ 0) .notFound
    let row ← statement tx (.read (.decision decisionID))
    let claimed ← requireRow row .database
    let _ ← statement tx (.write (.setDeletionState claimed.incidentID .deleting now))
    deletionStatusByID tx decisionID

/-- `MarkIncidentDeletionItemDeleted` and `MarkIncidentDeletionItemFailed`. -/
def markItem (write : Time → Write) : PgM Unit := do
  let now ← pgPerform .timeNow
  match ← pgPerform (.exec (write now)) with
  | .ok rowsAffected => requirePg (rowsAffected ≠ 0) .notFound
  | .error _ => throw .database

/-- `MarkIncidentDeletionItemDeleted`. -/
def markIncidentDeletionItemDeleted (itemID : String) : PgM Unit :=
  markItem (.itemDeleted itemID)

/-- `MarkIncidentDeletionItemFailed`. -/
def markIncidentDeletionItemFailed (itemID errorCode : String) : PgM Unit :=
  markItem (.itemFailed itemID errorCode)

/-- The rows of an incident leave the child tables, one statement a table. -/
def pruneTables (tx : Nat) (incidentID : String) : List ChildTable → PgM Unit
  | [] => return ()
  | table :: tables => do
    let _ ← statement tx (.write (.deleteChildren table incidentID))
    pruneTables tx incidentID tables

/-- The audit event for a pruned incident, when it has an owner. -/
def recordPruned (tx : Nat) (now : Time) (status : DeletionDecision) (owner : String) : PgM Unit := do
  if owner = "" then return ()
  else
    let id ← pgPerform (.newID "sae")
    let _ ← statement tx (.write (.insertAuditEvent
      { id := id
        ownerAccountID := owner
        actorAccountID := sharingAuditActorAccountID status.actorAccountID owner
        action := .incidentMetadataPruned
        outcomeCategory := .deleted
        incidentID := status.incidentID
        deletionDecisionID := status.id
        createdAt := now }))

/-- `CompleteIncidentDeletion`. -/
def completeIncidentDeletion (decisionID : String) : PgM DeletionDecision := do
  let now ← pgPerform .timeNow
  inTx (.completeIncidentDeletion decisionID) fun tx => do
    let status ← deletionStatusByID tx decisionID
    let remaining : Nat ← statement tx (.read (.remainingItems decisionID))
    requirePg (remaining = 0) .invalidState
    let row ← statement tx (.read (.incident status.incidentID))
    let inc ← requireRow row .notFound
    recordPruned tx now status inc.ownerAccountID
    pruneTables tx status.incidentID
      [.wrappedKeys, .grants, .uploads, .tokens, .checkins, .chunks, .streams]
    let _ ← statement tx (.write (.deleteItems decisionID))
    let _ ← statement tx (.write (.decisionDeleted decisionID now))
    let _ ← statement tx (.write (.tombstone status.incidentID now))
    deletionStatusByID tx decisionID

/-- `FailIncidentDeletion`. -/
def failIncidentDeletion (decisionID errorCode : String) : PgM DeletionDecision := do
  let now ← pgPerform .timeNow
  inTx .failIncidentDeletion fun tx => do
    let status ← deletionStatusByID tx decisionID
    let _ ← statement tx (.write (.decisionFailed decisionID errorCode now))
    let _ ← statement tx (.write (.setDeletionState status.incidentID .failed now))
    deletionStatusByID tx decisionID

/-- The tombstones are deleted one after the other. -/
def deleteTombstones (tx : Nat) : List String → Nat → PgM Nat
  | [], pruned => return pruned
  | id :: ids, pruned => do
    let rowsAffected : Nat ← statement tx (.write (.deleteIncident id))
    deleteTombstones tx ids (pruned + rowsAffected)

/-- `PruneIncidentDeletionTombstones`. -/
def pruneIncidentDeletionTombstones (cutoff : Time) (limit : Int) : PgM Nat :=
  inTx .pruneIncidentDeletionTombstones fun tx => do
    let ids ← statement tx (.read (.tombstones cutoff limit))
    deleteTombstones tx ids 0

end Postgres

/-! ### The system -/

/-- What clients and workers can ask of the repository; `abort` is the server ending
    a transaction whose client is gone or that it chose as a deadlock victim. -/
inductive PgRequest
  | createIncidentForAccount (accountID : String) (params : CreateIncidentParams)
  | closeIncident (id : String)
  | createMediaStream (incidentID : String) (mediaType : MediaType) (label : String)
  | completeMediaStream (incidentID streamID : String) (expectedChunkCount : Int)
  | failMediaStream (incidentID streamID reason : String)
  | createChunk (params : CreateChunkParams)
  | requestIncidentDeletion (params : IncidentDeletionRequest)
  | markIncidentDeletionDeleting (decisionID : String) (staleDeletingBefore : Time)
  | markIncidentDeletionItemDeleted (itemID : String)
  | markIncidentDeletionItemFailed (itemID errorCode : String)
  | completeIncidentDeletion (decisionID : String)
  | failIncidentDeletion (decisionID errorCode : String)
  | pruneIncidentDeletionTombstones (cutoff : Time) (limit : Int)
  | abort (tx : Nat)

/-- What a method returns. -/
inductive PgResult
  | incident (row : Incident)
  | stream (row : MediaStream)
  | chunk (row : Chunk)
  | decision (row : DeletionDecision)
  | count (n : Nat)
  | done

/-- The result of a method, wrapped. -/
def PgM.wrap {α : Type} (x : PgM α) (f : α → PgResult) : PgM PgResult := do
  let r ← x
  return f r

/-- The program of a request. -/
def pgMethod : PgRequest → PgM PgResult
  | .createIncidentForAccount a p => (Postgres.createIncidentForAccount a p).wrap .incident
  | .closeIncident i => (Postgres.closeIncident i).wrap .incident
  | .createMediaStream i m l => (Postgres.createMediaStream i m l).wrap .stream
  | .completeMediaStream i s n => (Postgres.completeMediaStream i s n).wrap .stream
  | .failMediaStream i s r => (Postgres.failMediaStream i s r).wrap .stream
  | .createChunk p => (Postgres.createChunk p).wrap .chunk
  | .requestIncidentDeletion p => (Postgres.requestIncidentDeletion p).wrap .decision
  | .markIncidentDeletionDeleting d t => (Postgres.markIncidentDeletionDeleting d t).wrap .decision
  | .markIncidentDeletionItemDeleted i =>
    (Postgres.markIncidentDeletionItemDeleted i).wrap fun _ => .done
  | .markIncidentDeletionItemFailed i c =>
    (Postgres.markIncidentDeletionItemFailed i c).wrap fun _ => .done
  | .completeIncidentDeletion d => (Postgres.completeIncidentDeletion d).wrap .decision
  | .failIncidentDeletion d c => (Postgres.failIncidentDeletion d c).wrap .decision
  | .pruneIncidentDeletionTombstones c l =>
    (Postgres.pruneIncidentDeletionTombstones c l).wrap .count
  | .abort tx => (pgPerform (.rollback tx)).wrap fun _ => .done

/-- The program of a request, as a process. -/
def pgMain (req : PgRequest) : PgProc (Except RepoError PgResult) := (pgMethod req).run

/-- The repository under concurrent use. -/
abbrev PgServer := Sys PgWorld PgCall PgAnswer (Except RepoError PgResult)

/-- One step: a request arrives, a method executes its next call, or a client
    crashes. -/
def pgStep (env : Env) : PgServer → Label PgRequest PgChoice → Option PgServer :=
  Sys.step pgMain (pgExec env)

/-- The repository with these accounts and no incident. -/
def bootPostgres (accounts : List String) : PgServer :=
  Sys.start { db := { accounts := accounts } }

end SafetyRecorder
