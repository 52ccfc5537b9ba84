import Mathlib.Data.List.Sort
import SafetyRecorder.Incidents.Chunks

namespace SafetyRecorder

open Table Checked

/-!
# Incidents — check-ins, tokens, uploads, grants and wrapped keys

The remaining transactions that write rows of an incident (`checkins.go`,
`incident_tokens.go`, `upload_operations.go`, `sharing.go`, `wrapped_keys.go`) or
the incident itself (`legacy_reassignment.go`).  Each one that inserts a row first
reads the incident and goes on only when it is active.
-/

/-! ### Check-ins and tokens -/

/-- `CreateCheckin`. -/
def createCheckin (env : Env) (d : Draw) (incidentID : String) (deviceBatteryPercent : Option Int)
    (deviceNetwork : Option String) (db : DB) : Except RepoError (Checkin × DB) := do
  let _ ← requireActiveIncident db incidentID
  let checkin : Checkin :=
    { id := env.newID "cin" d.next
      incidentID := incidentID
      createdAt := d.now
      deviceBatteryPercent := deviceBatteryPercent
      deviceNetwork := deviceNetwork }
  return (checkin, { db with checkins := db.checkins ++ [checkin] })

/-- `CreateIncidentToken`: one `INSERT … SELECT` from the active incident; the hash of
    the raw token is unique. -/
def createIncidentToken (env : Env) (d : Draw) (incidentID tokenHash label : String)
    (expiresAt : Option Time) (db : DB) : Except RepoError (IncidentToken × DB) := do
  let inc ← found (db.incident? incidentID) .notFound
  ensure (inc.deletionState = .active) .notFound
  ensure (db.tokens.any (·.tokenHash == tokenHash) = false) .notFound
  let token : IncidentToken :=
    { id := env.newID "itk" d.next
      incidentID := incidentID
      tokenHash := tokenHash
      label := label
      createdAt := d.now
      expiresAt := expiresAt }
  return (token, { db with tokens := db.tokens ++ [token] })

/-- `RevokeIncidentToken`. -/
def revokeIncidentToken (d : Draw) (tokenID : String) (db : DB) : Except RepoError (Unit × DB) := do
  let live : IncidentToken → Bool := fun t => t.id == tokenID && t.revokedAt.isNone
  ensure (db.tokens.any live = true) .notFound
  return ((), { db with
    tokens := updateWhere live (fun t => { t with revokedAt := some d.now }) db.tokens })

/-! ### Upload operations -/

/-- `UploadOperationParams`. -/
structure UploadOperationParams where
  operation : String
  idempotencyKeyHash : String
  incidentID : String
  streamID : String
  chunkIndex : Int
  mediaType : MediaType
  startedAt : Time
  endedAt : Time
  originalFilename : String
  byteSize : Int
  sha256Hex : String
  fingerprintHash : String
  deriving DecidableEq, Repr

/-- `getUploadOperationByKey`. -/
def DB.uploadByKey? (db : DB) (operation keyHash : String) : Option UploadOperation :=
  db.uploads.find? fun op => op.operation == operation && op.idempotencyKeyHash == keyHash

/-- `uploadOperationMatchesParams`. -/
def uploadOperationMatchesParams (op : UploadOperation) (params : UploadOperationParams) : Bool :=
  op.operation == params.operation && op.idempotencyKeyHash == params.idempotencyKeyHash &&
    op.incidentID == params.incidentID && op.streamID == params.streamID &&
    op.chunkIndex == params.chunkIndex && op.mediaType == params.mediaType &&
    op.startedAt == params.startedAt && op.endedAt == params.endedAt &&
    op.originalFilename == params.originalFilename && op.byteSize == params.byteSize &&
    op.sha256Hex == params.sha256Hex && op.fingerprintHash == params.fingerprintHash

/-- The row `ReserveUploadOperation` inserts. -/
def uploadRow (env : Env) (d : Draw) (params : UploadOperationParams) : UploadOperation :=
  { id := env.newID "uop" d.next
    operation := params.operation
    idempotencyKeyHash := params.idempotencyKeyHash
    incidentID := params.incidentID
    streamID := params.streamID
    chunkIndex := params.chunkIndex
    mediaType := params.mediaType
    startedAt := params.startedAt
    endedAt := params.endedAt
    originalFilename := params.originalFilename
    byteSize := params.byteSize
    sha256Hex := params.sha256Hex
    fingerprintHash := params.fingerprintHash
    state := .reserved
    createdAt := d.now
    updatedAt := d.now }

/-- The constraints of table `upload_operations` that a new row can violate. -/
def uploadConstraint (db : DB) (op : UploadOperation) : Bool :=
  (db.uploadByKey? op.operation op.idempotencyKeyHash).isSome ||
    decide (op.operation ≠ "upload_chunk") || decide (op.chunkIndex < 0) ||
    decide (op.streamID ≠ "" ∧ op.chunkIndex ≤ 0) || decide (op.byteSize < 0)

/-- `ReserveUploadOperation`.  When the insert violates a constraint the row with the
    same key decides the answer. -/
def reserveUploadOperation (env : Env) (d : Draw) (params : UploadOperationParams) (db : DB) :
    Except RepoError (UploadOperation × DB) := do
  let _ ← requireActiveIncident db params.incidentID
  let operation := uploadRow env d params
  if uploadConstraint db operation then
    let existing ← found (db.uploadByKey? params.operation params.idempotencyKeyHash) .notFound
    ensure (uploadOperationMatchesParams existing params = true) .idempotencyConflict
    return (existing, db)
  else
    return (operation, { db with uploads := db.uploads ++ [operation] })

/-- The rows `CompleteUploadOperation` updates. -/
def completesUpload (params : UploadOperationParams) (op : UploadOperation) : Bool :=
  op.operation == params.operation && op.idempotencyKeyHash == params.idempotencyKeyHash &&
    op.fingerprintHash == params.fingerprintHash

/-- `CompleteUploadOperation`. -/
def completeUploadOperation (d : Draw) (params : UploadOperationParams) (chunk : Chunk) (db : DB) :
    Except RepoError (UploadOperation × DB) :=
  if db.uploads.any (completesUpload params) then do
    let db' := { db with
      uploads := updateWhere (completesUpload params)
        (fun op => { op with
          state := .metadataCommitted
          chunkID := chunk.id
          storedPath := chunk.storedPath
          updatedAt := d.now }) db.uploads }
    let op ← found (db'.uploadByKey? params.operation params.idempotencyKeyHash) .notFound
    return (op, db')
  else do
    let existing ← found (db.uploadByKey? params.operation params.idempotencyKeyHash) .notFound
    ensure (uploadOperationMatchesParams existing params = true) .idempotencyConflict
    .error .notFound

/-! ### Sharing grants and wrapped keys -/

/-- `requireOwnedActiveIncidentTx`. -/
def requireOwnedActiveIncident (db : DB) (ownerAccountID incidentID : String) :
    Except RepoError Incident :=
  found (db.incidents.find? fun i =>
    i.id == incidentID && i.ownerAccountID == ownerAccountID && i.ownerAccountID != "" &&
      i.deletionState == .active) .notFound

/-- `requireIncidentStreamTx`, made only when a stream is named. -/
def requireIncidentStream (db : DB) (incidentID streamID : String) : Except RepoError Unit :=
  ensure (streamID = "" ∨
    (db.streams.any fun s => s.id == streamID && s.incidentID == incidentID) = true) .notFound

/-- `createSharingAuditEventTx`: the row that is inserted. -/
def createSharingAuditEvent (event : SharingAuditEvent) (db : DB) : Except RepoError DB := do
  ensure (event.ownerAccountID ≠ "" ∧ event.actorAccountID ≠ "") .invalidState
  return { db with auditEvents := db.auditEvents ++ [event] }

/-- `CreateSharingGrantParams`. -/
structure CreateSharingGrantParams where
  ownerAccountID : String
  incidentID : String
  streamID : String
  recipientType : String
  contactID : String
  contactPublicKeyID : String
  dataClass : DataClass
  expiresAt : Option Time
  deriving DecidableEq, Repr

/-- `activeContactPublicKeyForGrant`: the named key, or the newest version. -/
def activeContactPublicKeyForGrant (db : DB) (params : CreateSharingGrantParams) :
    Except RepoError ContactPublicKey :=
  let usable := db.contactKeys.filter fun k =>
    k.ownerAccountID == params.ownerAccountID && k.contactID == params.contactID &&
      k.keyState == .active
  if params.contactPublicKeyID ≠ "" then
    found (usable.find? (·.id == params.contactPublicKeyID)) .notFound
  else
    found (usable.insertionSort (fun a b => b.version ≤ a.version)).head? .notFound

/-- `CreateSharingGrant`. -/
def createSharingGrant (env : Env) (d : Draw) (params : CreateSharingGrantParams) (db : DB) :
    Except RepoError (SharingGrant × DB) := do
  let _ ← requireOwnedActiveIncident db params.ownerAccountID params.incidentID
  requireIncidentStream db params.incidentID params.streamID
  let contactKey ← activeContactPublicKeyForGrant db params
  ensure (params.recipientType = "trusted_contact") .notFound
  let grant : SharingGrant :=
    { id := env.newID "sgr" d.next
      ownerAccountID := params.ownerAccountID
      incidentID := params.incidentID
      streamID := params.streamID
      recipientType := params.recipientType
      contactID := contactKey.contactID
      contactPublicKeyID := contactKey.id
      contactPublicKeyVersion := contactKey.version
      dataClass := params.dataClass
      grantState := .active
      createdAt := d.now
      updatedAt := d.now
      expiresAt := params.expiresAt }
  let db' ← createSharingAuditEvent
    { id := env.newID "sae" (d.next + 1)
      ownerAccountID := grant.ownerAccountID
      actorAccountID := grant.ownerAccountID
      action := .sharingGrantCreated
      outcomeCategory := .created
      incidentID := grant.incidentID
      streamID := grant.streamID
      grantID := grant.id
      contactID := grant.contactID
      contactPublicKeyID := grant.contactPublicKeyID
      createdAt := d.now } { db with grants := db.grants ++ [grant] }
  return (grant, db')

/-- `RevokeSharingGrant`. -/
def revokeSharingGrant (env : Env) (d : Draw) (ownerAccountID grantID revokedByAccountID : String)
    (db : DB) : Except RepoError (SharingGrant × DB) := do
  let live : SharingGrant → Bool := fun g =>
    g.ownerAccountID == ownerAccountID && g.id == grantID && g.revokedAt.isNone
  let grant ← found (db.grants.find? live) .notFound
  let revoke : SharingGrant → SharingGrant := fun g =>
    { g with
      grantState := .revoked
      updatedAt := d.now
      revokedAt := some d.now
      revokedByAccountID := revokedByAccountID }
  let db' ← createSharingAuditEvent
    { id := env.newID "sae" d.next
      ownerAccountID := ownerAccountID
      actorAccountID := revokedByAccountID
      action := .sharingGrantRevoked
      outcomeCategory := .revoked
      incidentID := grant.incidentID
      streamID := grant.streamID
      grantID := grant.id
      contactID := grant.contactID
      contactPublicKeyID := grant.contactPublicKeyID
      createdAt := d.now } { db with grants := updateWhere live revoke db.grants }
  return (revoke grant, db')

/-- `CreateWrappedKeyRecordParams`. -/
structure CreateWrappedKeyRecordParams where
  ownerAccountID : String
  incidentID : String
  streamID : String
  grantID : String
  mediaKeyID : String
  wrappedKeyCiphertext : String
  deriving DecidableEq, Repr

/-- `activeGrantForWrappedKey`: an active, unexpired grant whose contact key is
    active. -/
def activeGrantForWrappedKey (env : Env) (d : Draw) (db : DB)
    (params : CreateWrappedKeyRecordParams) : Except RepoError SharingGrant := do
  let grant ← found (db.grants.find? fun g =>
    g.ownerAccountID == params.ownerAccountID && g.incidentID == params.incidentID &&
      g.id == params.grantID && g.grantState == .active &&
      !(g.expiresAt.any (env.dbTimeLE · d.now))) .notFound
  ensure ((db.contactKeys.any fun k =>
    k.ownerAccountID == params.ownerAccountID && k.id == grant.contactPublicKeyID &&
      k.keyState == .active) = true) .notFound
  return grant

/-- The unique scope of a wrapped key. -/
def sameScope (w r : WrappedKeyRecord) : Bool :=
  w.ownerAccountID == r.ownerAccountID && w.incidentID == r.incidentID &&
    w.streamID == r.streamID && w.grantID == r.grantID && w.mediaKeyID == r.mediaKeyID &&
    w.contactPublicKeyID == r.contactPublicKeyID

/-- `CreateWrappedKeyRecord`. -/
def createWrappedKeyRecord (env : Env) (d : Draw) (params : CreateWrappedKeyRecordParams)
    (db : DB) : Except RepoError (WrappedKeyRecord × DB) := do
  let _ ← requireOwnedActiveIncident db params.ownerAccountID params.incidentID
  requireIncidentStream db params.incidentID params.streamID
  let grant ← activeGrantForWrappedKey env d db params
  ensure (grant.dataClass = .ciphertext ∨ grant.dataClass = .metadataCiphertext) .invalidState
  ensure (grant.streamID = "" ∨ grant.streamID = params.streamID) .notFound
  let record : WrappedKeyRecord :=
    { id := env.newID "wkey" d.next
      ownerAccountID := params.ownerAccountID
      incidentID := params.incidentID
      streamID := params.streamID
      grantID := grant.id
      recipientType := grant.recipientType
      contactID := grant.contactID
      contactPublicKeyID := grant.contactPublicKeyID
      contactPublicKeyVersion := grant.contactPublicKeyVersion
      mediaKeyID := params.mediaKeyID
      wrappedKeyCiphertext := params.wrappedKeyCiphertext
      wrappedKeyState := .active
      createdAt := d.now
      updatedAt := d.now }
  ensure (db.wrappedKeys.any (sameScope record) = false) .duplicate
  let db' ← createSharingAuditEvent
    { id := env.newID "sae" (d.next + 1)
      ownerAccountID := record.ownerAccountID
      actorAccountID := record.ownerAccountID
      action := .wrappedKeyCreated
      outcomeCategory := .created
      incidentID := record.incidentID
      streamID := record.streamID
      grantID := record.grantID
      contactID := record.contactID
      contactPublicKeyID := record.contactPublicKeyID
      wrappedKeyID := record.id
      createdAt := d.now } { db with wrappedKeys := db.wrappedKeys ++ [record] }
  return (record, db')

/-- `RevokeWrappedKeyRecord`. -/
def revokeWrappedKeyRecord (env : Env) (d : Draw)
    (ownerAccountID wrappedKeyID revokedByAccountID : String) (db : DB) :
    Except RepoError (WrappedKeyRecord × DB) := do
  let live : WrappedKeyRecord → Bool := fun w =>
    w.ownerAccountID == ownerAccountID && w.id == wrappedKeyID && w.wrappedKeyState == .active
  let record ← found (db.wrappedKeys.find? live) .notFound
  let revoke : WrappedKeyRecord → WrappedKeyRecord := fun w =>
    { w with
      wrappedKeyState := .revoked
      updatedAt := d.now
      revokedAt := some d.now
      revokedByAccountID := revokedByAccountID }
  let db' ← createSharingAuditEvent
    { id := env.newID "sae" d.next
      ownerAccountID := ownerAccountID
      actorAccountID := revokedByAccountID
      action := .wrappedKeyRevoked
      outcomeCategory := .revoked
      incidentID := record.incidentID
      streamID := record.streamID
      grantID := record.grantID
      contactID := record.contactID
      contactPublicKeyID := record.contactPublicKeyID
      wrappedKeyID := record.id
      createdAt := d.now } { db with wrappedKeys := updateWhere live revoke db.wrappedKeys }
  return (revoke record, db')

/-! ### Legacy incidents -/

/-- `ReassignLegacyUnownedIncident`: with a new owner the active unowned incident is
    assigned, without one it is kept unowned. -/
def reassignLegacyUnownedIncident (incidentID : String) (newOwner : Option String) (db : DB) :
    Except RepoError (Unit × DB) := do
  ensure (∀ a ∈ newOwner, a ∈ db.accounts) .notFound
  let inc ← found (db.incident? incidentID) .notFound
  ensure (inc.ownerAccountID = "" ∧ inc.deletionState = .active) .invalidState
  match newOwner with
  | none => return ((), db)
  | some owner =>
    return ((), { db with
      incidents := updateWhere
        (fun i => i.id == incidentID && i.ownerAccountID == "" && i.deletionState == .active)
        (fun i => { i with ownerAccountID := owner }) db.incidents })

end SafetyRecorder
