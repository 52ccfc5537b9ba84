import Mathlib.Data.List.Basic
import SafetyRecorder.Lib.Wire

namespace SafetyRecorder

/-!
# Incidents — the metadata model

The rows of the metadata database and the closed sets of values their columns
take (`internal/incidents/models.go`, `sharing_models.go`, `wrapped_keys_models.go`,
`sharing_audit_models.go`).

* Go's empty string stands for SQL `NULL` where the repository uses
  `nullableString`; pointers and nullable times are `Option`;
* `int` and `int64` columns are `Int`, instants are `Time`;
* `DB` is the whole metadata database, one list of rows a table.
-/

/-- An instant, in nanoseconds since the epoch. -/
abbrev Time := Int

-- The contents of files are the byte strings of the wire formats.
export Wire (Bytes)

/-- `StatusOpen`, `StatusClosed`. -/
inductive IncidentStatus
  | «open» | closed
  deriving DecidableEq, Repr

/-- `StreamStatusOpen`, `StreamStatusComplete`, `StreamStatusFailed`. -/
inductive StreamStatus
  | «open» | complete | failed
  deriving DecidableEq, Repr

/-- The media types `ValidMediaType` accepts. -/
inductive MediaType
  | audio | video | location | metadata
  deriving DecidableEq, Repr

/-- The stored name of a media type. -/
def MediaType.name : MediaType → String
  | .audio => "audio"
  | .video => "video"
  | .location => "location"
  | .metadata => "metadata"

/-- The values of `deletion_state`; a deletion decision takes all but `active`. -/
inductive DeletionState
  | active | pending | deleting | failed | deleted
  deriving DecidableEq, Repr

/-- Who asked for a deletion (`IncidentDeletionSource…`). -/
inductive DeletionSource
  | accountRequest | adminRequest | operatorCLI | retentionPolicy
  deriving DecidableEq, Repr

/-- `IncidentDeletionItemState…`. -/
inductive ItemState
  | pending | deleted | failed
  deriving DecidableEq, Repr

/-- `UploadOperationState…`. -/
inductive UploadOperationState
  | reserved | metadataCommitted
  deriving DecidableEq, Repr

/-- `IncidentMode…`. -/
inductive IncidentMode
  | emergency | interactionRecord | safetyCheck | evidenceNote
  deriving DecidableEq, Repr

/-- `CaptureProfile…`. -/
inductive CaptureProfile
  | audioVideoLocation | audioLocation | locationCheckin | noteOrAttachment | custom
  deriving DecidableEq, Repr

/-- `EscalationPolicy…`. -/
inductive EscalationPolicy
  | none | trustedContactsOnStart | trustedContactsOnMissedCheckin | urgentTrustedContactAlert
  deriving DecidableEq, Repr

/-- `SharingState…`. -/
inductive SharingState
  | «private» | trustedContactAccess | publicLinkCreated | legalExportCreated | revokedOrExpired
  deriving DecidableEq, Repr

/-- `ContactKeyState…`. -/
inductive ContactKeyState
  | pendingVerification | active | replaced | revoked | lost
  deriving DecidableEq, Repr

/-- `SharingGrantDataClass…`. -/
inductive DataClass
  | metadata | ciphertext | metadataCiphertext
  deriving DecidableEq, Repr

/-- `SharingGrantState…`. -/
inductive GrantState
  | active | revoked
  deriving DecidableEq, Repr

/-- `WrappedKeyState…`. -/
inductive WrappedKeyState
  | active | revoked | rotated
  deriving DecidableEq, Repr

/-- `SharingAuditAction…`. -/
inductive AuditAction
  | contactKeyRegistered | contactKeyReplaced | contactKeyRevoked | contactKeyLost
  | sharingGrantCreated | sharingGrantRevoked | wrappedKeyCreated | wrappedKeyRevoked
  | incidentMetadataPruned
  deriving DecidableEq, Repr

/-- `SharingAuditOutcome…`. -/
inductive AuditOutcome
  | created | replaced | revoked | lost | deleted
  deriving DecidableEq, Repr

/-- The errors of the repository; `database` is every wrapped driver error. -/
inductive RepoError
  | notFound | duplicate | incidentClosed | incidentDeleting | invalidState
  | idempotencyConflict | accountBlobQuotaExceeded | database
  deriving DecidableEq, Repr

/-! ### Rows -/

/-- A row of `incidents`. -/
structure Incident where
  id : String
  ownerAccountID : String
  createdAt : Time
  updatedAt : Time
  status : IncidentStatus
  clientLabel : String := ""
  notes : String := ""
  incidentMode : Option IncidentMode := none
  captureProfile : Option CaptureProfile := none
  escalationPolicy : Option EscalationPolicy := none
  sharingState : Option SharingState := none
  deletionState : DeletionState := .active
  deriving DecidableEq, Repr

/-- A row of `media_streams`. -/
structure MediaStream where
  id : String
  incidentID : String
  mediaType : MediaType
  label : String
  status : StreamStatus
  expectedChunkCount : Option Int := none
  createdAt : Time
  updatedAt : Time
  completedAt : Option Time := none
  failedAt : Option Time := none
  failureReason : String := ""
  deriving DecidableEq, Repr

/-- A row of `chunks`. -/
structure Chunk where
  id : String
  incidentID : String
  streamID : String
  chunkIndex : Int
  mediaType : MediaType
  startedAt : Time
  endedAt : Time
  originalFilename : String
  storedPath : String
  byteSize : Int
  sha256Hex : String
  createdAt : Time
  deriving DecidableEq, Repr

/-- A row of `checkins`. -/
structure Checkin where
  id : String
  incidentID : String
  createdAt : Time
  deviceBatteryPercent : Option Int
  deviceNetwork : Option String
  deriving DecidableEq, Repr

/-- A row of `incident_tokens`. -/
structure IncidentToken where
  id : String
  incidentID : String
  tokenHash : String
  label : String
  createdAt : Time
  expiresAt : Option Time
  revokedAt : Option Time := none
  deriving DecidableEq, Repr

/-- A row of `upload_operations`. -/
structure UploadOperation where
  id : String
  operation : String
  idempotencyKeyHash : String
  incidentID : String
  streamID : String
  chunkIndex : Int
  mediaType : MediaType
  startedAt : Time
  endedAt : Time
  originalFilename : String
  byteSize : Int
  sha256Hex : String
  fingerprintHash : String
  state : UploadOperationState
  chunkID : String := ""
  storedPath : String := ""
  createdAt : Time
  updatedAt : Time
  deriving DecidableEq, Repr

/-- A row of `contact_public_keys`. -/
structure ContactPublicKey where
  id : String
  ownerAccountID : String
  contactID : String
  recipientAccountID : String := ""
  version : Int
  displayLabel : String := ""
  wrappingAlgorithm : String := ""
  publicKey : String := ""
  publicKeyFingerprint : String := ""
  keyState : ContactKeyState
  createdAt : Time
  updatedAt : Time := createdAt
  revokedAt : Option Time := none
  replacedAt : Option Time := none
  lostAt : Option Time := none
  replacedByPublicKeyID : String := ""
  deriving DecidableEq, Repr

/-- A row of `sharing_grants`. -/
structure SharingGrant where
  id : String
  ownerAccountID : String
  incidentID : String
  streamID : String
  recipientType : String
  contactID : String
  contactPublicKeyID : String
  contactPublicKeyVersion : Int
  dataClass : DataClass
  grantState : GrantState
  createdAt : Time
  updatedAt : Time
  expiresAt : Option Time
  revokedAt : Option Time := none
  revokedByAccountID : String := ""
  deriving DecidableEq, Repr

/-- A row of `wrapped_key_records`. -/
structure WrappedKeyRecord where
  id : String
  ownerAccountID : String
  incidentID : String
  streamID : String
  grantID : String
  recipientType : String
  contactID : String
  contactPublicKeyID : String
  contactPublicKeyVersion : Int
  mediaKeyID : String
  wrappedKeyCiphertext : String
  wrappedKeyState : WrappedKeyState
  createdAt : Time
  updatedAt : Time
  revokedAt : Option Time := none
  revokedByAccountID : String := ""
  deriving DecidableEq, Repr

/-- A row of `incident_deletion_decisions` (`IncidentDeletionStatus`). -/
structure DeletionDecision where
  id : String
  incidentID : String
  source : DeletionSource
  reasonCode : String
  actorAccountID : String
  allowOpen : Bool
  state : DeletionState
  itemCount : Int
  errorCode : String := ""
  requestedAt : Time
  updatedAt : Time
  startedAt : Option Time := none
  completedAt : Option Time := none
  deriving DecidableEq, Repr

/-- A row of `incident_deletion_items`. -/
structure DeletionItem where
  id : String
  decisionID : String
  incidentID : String
  storedPath : String
  state : ItemState
  attempts : Int := 0
  errorCode : String := ""
  createdAt : Time
  updatedAt : Time
  lastAttemptAt : Option Time := none
  completedAt : Option Time := none
  deriving DecidableEq, Repr

/-- A row of `sharing_audit_events`. -/
structure SharingAuditEvent where
  id : String
  ownerAccountID : String
  actorAccountID : String
  action : AuditAction
  outcomeCategory : AuditOutcome
  incidentID : String := ""
  streamID : String := ""
  grantID : String := ""
  contactID : String := ""
  contactPublicKeyID : String := ""
  wrappedKeyID : String := ""
  deletionDecisionID : String := ""
  createdAt : Time
  deriving DecidableEq, Repr

/-- The metadata database. -/
structure DB where
  accounts : List String := []
  incidents : List Incident := []
  streams : List MediaStream := []
  chunks : List Chunk := []
  checkins : List Checkin := []
  tokens : List IncidentToken := []
  uploads : List UploadOperation := []
  contactKeys : List ContactPublicKey := []
  grants : List SharingGrant := []
  wrappedKeys : List WrappedKeyRecord := []
  decisions : List DeletionDecision := []
  items : List DeletionItem := []
  auditEvents : List SharingAuditEvent := []
  deriving DecidableEq, Repr

/-! ### What a transaction gets from outside -/

/-- The environment of the server: the identifiers `newID` draws, the text
    comparison the database makes between stored times, SHA-256, and which of the
    two blob stores is in use.  The `k`-th identifier drawn differs from every other
    one whatever the prefixes are, as 128 random bits never repeat. -/
structure Env where
  /-- The `k`-th identifier drawn, with its prefix. -/
  newID : String → Nat → String
  newID_inj : ∀ {p q : String} {k l : Nat}, newID p k = newID q l → k = l
  newID_ne_empty : ∀ {p : String} {k : Nat}, newID p k ≠ ""
  /-- `a <= b` on stored times, as the database compares them. -/
  dbTimeLE : Time → Time → Bool
  /-- The hex digest of `crypto/sha256`. -/
  sha256Hex : Bytes → String
  /-- `Remove` of a missing blob answers `os.ErrNotExist`: so in the local store; the
      S3 store answers success. -/
  missingBlobIsError : Bool

/-- What one transaction draws: the number of the next identifier and the clock. -/
structure Draw where
  next : Nat
  now : Time
  deriving DecidableEq, Repr

end SafetyRecorder
