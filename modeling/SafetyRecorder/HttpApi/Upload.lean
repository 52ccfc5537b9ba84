import SafetyRecorder.Lib.Duration
import SafetyRecorder.Server.Calls

namespace SafetyRecorder

open Process

/-!
# HTTP API — the upload handlers

`uploadChunk` (`internal/httpapi/chunk_handlers.go`, `upload.go`, `idempotency.go`,
`upload_coordination.go`) and `relayCommit` (`relay_core.go`) as programs over
`Call`, in the order of the source.

* A handler is a `Handler`: `throw` writes a response and ends it;
* values that are text on the wire arrive parsed: `none` stands for text that does
  not parse;
* what the handlers ask of other packages and of the configuration is in `API`: the
  frame header check, the capability check and the time format can be any
  functions.
-/

/-- What a handler answers: the HTTP status and the error code of the body. -/
structure Response where
  status : Nat
  code : String := ""
  deriving DecidableEq, Repr

/-- A handler: a program that can end early with a response. -/
abbrev Handler := ExceptT Response Proc

/-- Make one call. -/
def perform (c : Call) : Handler (Answer c) := ExceptT.lift (Prog.perform c)

/-- End with the response unless the condition holds. -/
def require (c : Prop) [Decidable c] (r : Response) : Handler Unit :=
  if c then pure () else throw r

/-- End with the response of a failed check. -/
def checked {α : Type} : Except Response α → Handler α
  | .ok a => pure a
  | .error r => throw r

/-! ### Responses -/

def internalError : Response := ⟨500, "internal_error"⟩
def incidentDeleting : Response := ⟨409, "incident_deleting"⟩
def incidentClosed : Response := ⟨409, "incident_closed"⟩
def incidentNotFound : Response := ⟨404, "incident_not_found"⟩
def streamNotFound : Response := ⟨404, "stream_not_found"⟩
def streamNotOpen : Response := ⟨409, "stream_not_open"⟩
def duplicateChunk : Response := ⟨409, "duplicate_chunk"⟩
def idempotencyConflictError : Response := ⟨409, "idempotency_conflict"⟩
def accountBlobQuotaExceeded : Response := ⟨507, "account_storage_quota_exceeded"⟩
def uploadTooLarge : Response := ⟨413, "upload_too_large"⟩

/-! ### Requests -/

/-- The authenticated account of a request. -/
structure Principal where
  accountID : String
  isAdmin : Bool
  deriving DecidableEq, Repr

/-- `chunkUpload`. -/
structure ChunkUpload where
  temp : TempUpload
  streamID : String
  chunkIndex : Int
  mediaType : MediaType
  startedAt : Time
  endedAt : Time
  sha256Hex : String
  originalFilename : String
  deriving DecidableEq, Repr

/-- The fields of an upload form; `originalFilename` is the cleaned field or, when
    that is empty, the cleaned name of the file part. -/
structure ChunkFields where
  chunkIndex : Option Int
  mediaType : Option MediaType
  startedAt : Option Time
  endedAt : Option Time
  sha256Hex : String
  originalFilename : String
  streamID : String
  deriving DecidableEq, Repr

/-- A multipart body: the bytes of its file part and its fields. -/
structure Multipart (α : Type) where
  file : Bytes
  fields : α
  deriving DecidableEq, Repr

/-- A request for `uploadChunk`.  `body` is an error response when the multipart
    framing is broken or a part is missing; `idempotencyKeyHash` is the outcome of
    `readIdempotencyKeyHash`. -/
structure UploadRequest where
  incidentID : String
  principal : Principal
  idempotencyKeyHash : Except Response (Option String)
  body : Except Response (Multipart ChunkFields)

/-- The fields of a relay form after trimming. -/
structure RelayFields where
  relaySessionID : String
  capability : String
  incidentID : String
  streamID : String
  chunkIndex : Option Int
  mediaType : Option MediaType
  startedAt : Option Time
  endedAt : Option Time
  byteSize : Option Int
  sha256Hex : String
  originalFilename : String
  deriving DecidableEq, Repr

/-- `relayChunkInput`. -/
structure RelayChunkInput where
  relaySessionID : String
  capability : String
  incidentID : String
  streamID : String
  chunkIndex : Int
  mediaType : MediaType
  startedAt : Time
  endedAt : Time
  byteSize : Int
  sha256Hex : String
  originalFilename : String
  deriving DecidableEq, Repr

/-- A request for `relayCommit`. -/
structure RelayRequest where
  serviceAuthValues : List String
  body : Except Response (Multipart RelayFields)

/-- The limits of a relay capability that a commit is checked against. -/
structure Capability where
  maxChunkBytes : Int
  maxChunks : Int
  allowedMediaTypes : List MediaType
  deriving DecidableEq, Repr

/-- Configuration and collaborators of the handlers. -/
structure API where
  accountBlobQuotaBytes : Int
  maxUploadBytes : Int
  /-- An upload coordinator with a positive lease time is configured. -/
  uploadCoordination : Bool
  /-- `pq.ValidatePayloadFrameHeader` accepts the bytes for the chunk. -/
  validatePayloadFrameHeader : Bytes → String → String → MediaType → Int → Bool
  /-- `requireRelayServiceAuth` on the values of the service token header. -/
  requireRelayServiceAuth : List String → Except Response Unit
  /-- `relaycap.SecretBytes` and `relaycap.Validate` for an upload at an instant. -/
  validateCapability : RelayChunkInput → Time → Except Response Capability
  /-- `time.RFC3339Nano`. -/
  formatTime : Time → String

/-! ### Reading an upload -/

/-- `validSHA256Hex`. -/
def validSHA256Hex (value : String) : Bool :=
  value.length == 64 &&
    value.toList.all fun c => ('0' ≤ c && c ≤ '9') || ('a' ≤ c && c ≤ 'f')

/-- `parseChunkTimeRange`. -/
def parseChunkTimeRange (startedAt endedAt : Option Time) : Except Response (Time × Time) :=
  match startedAt, endedAt with
  | none, _ => .error ⟨400, "invalid_started_at"⟩
  | some _, none => .error ⟨400, "invalid_ended_at"⟩
  | some s, some e => if e < s then .error ⟨400, "invalid_time_range"⟩ else .ok (s, e)

/-- `parseChunkFields`. -/
def parseChunkFields (fields : ChunkFields) (temp : TempUpload) : Except Response ChunkUpload := do
  match fields.chunkIndex with
  | none => throw ⟨400, "invalid_chunk_index"⟩
  | some chunkIndex =>
    if chunkIndex < 0 then throw ⟨400, "invalid_chunk_index"⟩
    match fields.mediaType with
    | none => throw ⟨400, "invalid_media_type"⟩
    | some mediaType =>
      let (startedAt, endedAt) ← parseChunkTimeRange fields.startedAt fields.endedAt
      if !validSHA256Hex fields.sha256Hex then throw ⟨400, "invalid_sha256_hex"⟩
      if fields.streamID ≠ "" ∧ chunkIndex ≤ 0 then throw ⟨400, "invalid_chunk_index"⟩
      return {
        temp := temp
        streamID := fields.streamID
        chunkIndex := chunkIndex
        mediaType := mediaType
        startedAt := startedAt
        endedAt := endedAt
        sha256Hex := fields.sha256Hex
        originalFilename := fields.originalFilename }

/-- `readFilePart`. -/
def saveTemp (api : API) (content : Bytes) : Handler TempUpload := do
  let answer : Except StoreError TempUpload ← perform (.saveTemp content api.maxUploadBytes)
  match answer with
  | .ok temp => pure temp
  | .error .tooLarge => throw uploadTooLarge
  | .error .tempStagingQuotaExceeded => throw ⟨507, "upload_staging_quota_exceeded"⟩
  | .error _ => throw internalError

/-- `readChunkUpload`. -/
def readChunkUpload (api : API) (body : Except Response (Multipart ChunkFields)) :
    Handler ChunkUpload := do
  let form ← checked body
  let temp ← saveTemp api form.file
  checked (parseChunkFields form.fields temp)

/-! ### Checks before a commit -/

/-- `authorizeIncident` for writing ciphertext to an incident. -/
def authorizeIncident (principal : Principal) (incidentID : String) : Handler Incident := do
  let answer : Except RepoError Incident ← perform (.query (.getIncident incidentID))
  match answer with
  | .error .notFound => throw incidentNotFound
  | .error _ => throw internalError
  | .ok incident =>
    require (incident.deletionState = .active) incidentDeleting
    require (principal.isAdmin = true ∨
      (incident.ownerAccountID ≠ "" ∧ incident.ownerAccountID = principal.accountID))
      ⟨403, "forbidden"⟩
    pure incident

/-- The stream of an upload is there, open and of the upload's media type. -/
def requireOpenUploadStream (incidentID streamID : String) (mediaType : MediaType) :
    Handler Unit := do
  let answer : Except RepoError MediaStream ← perform (.query (.getMediaStream incidentID streamID))
  match answer with
  | .error .notFound => throw streamNotFound
  | .error _ => throw internalError
  | .ok stream =>
    require (stream.status = .open) streamNotOpen
    require (stream.mediaType = mediaType) ⟨400, "stream_media_type_mismatch"⟩

/-- `validateChunkStream`. -/
def validateChunkStream (incidentID : String) (upload : ChunkUpload) : Handler Unit :=
  if upload.streamID = "" then pure ()
  else requireOpenUploadStream incidentID upload.streamID upload.mediaType

/-- `validateChunkEnvelope`. -/
def validateChunkEnvelope (api : API) (incidentID : String) (upload : ChunkUpload) : Handler Unit :=
  require (api.validatePayloadFrameHeader upload.temp.content incidentID upload.streamID
    upload.mediaType upload.chunkIndex = true) ⟨400, "invalid_envelope"⟩

/-- `acquireUploadCoordinationLease`. -/
def acquireUploadCoordinationLease (api : API) (incidentID : String) (upload : ChunkUpload) :
    Handler Unit := do
  if api.uploadCoordination then
    let lease : LeaseAnswer ← perform (.acquireUploadLease incidentID upload.streamID
      upload.mediaType upload.chunkIndex)
    match lease with
    | .unavailable => throw ⟨503, "upload_coordination_unavailable"⟩
    | .busy => throw ⟨409, "upload_in_progress"⟩
    | .acquired => pure ()
  else pure ()

/-- `checkAccountBlobQuota`. -/
def checkAccountBlobQuota (api : API) (incident : Incident) (additionalBytes : Int) :
    Handler Unit := do
  if incident.ownerAccountID = "" ∨ api.accountBlobQuotaBytes ≤ 0 ∨ additionalBytes ≤ 0 then
    pure ()
  else
    require (additionalBytes ≤ api.accountBlobQuotaBytes) accountBlobQuotaExceeded
    let answer : Except RepoError Int ←
      perform (.query (.accountCommittedBlobBytes incident.ownerAccountID))
    match answer with
    | .error _ => throw internalError
    | .ok currentBytes =>
      require (currentBytes ≤ api.accountBlobQuotaBytes - additionalBytes) accountBlobQuotaExceeded

/-! ### Idempotent uploads -/

/-- The UTF-8 bytes of a string. -/
def utf8Bytes (s : String) : Bytes := s.toUTF8.data.toList

/-- `appendFingerprintField`. -/
def fingerprintField (name value : String) : String :=
  name ++ "=" ++ toString value.utf8ByteSize ++ ":" ++ value ++ "\n"

/-- `uploadFingerprintHash`. -/
def uploadFingerprintHash (env : Env) (api : API) (incidentID : String) (upload : ChunkUpload) :
    String :=
  env.sha256Hex (utf8Bytes (String.join
    [fingerprintField "incident_id" incidentID,
      fingerprintField "stream_id" upload.streamID,
      fingerprintField "chunk_index" (toString upload.chunkIndex),
      fingerprintField "media_type" upload.mediaType.name,
      fingerprintField "started_at" (api.formatTime upload.startedAt),
      fingerprintField "ended_at" (api.formatTime upload.endedAt),
      fingerprintField "original_filename" upload.originalFilename,
      fingerprintField "byte_size" (toString upload.temp.byteSize),
      fingerprintField "sha256_hex" upload.sha256Hex]))

/-- `uploadOperationParams`. -/
def uploadOperationParams (env : Env) (api : API) (keyHash incidentID : String)
    (upload : ChunkUpload) : UploadOperationParams :=
  { operation := "upload_chunk"
    idempotencyKeyHash := keyHash
    incidentID := incidentID
    streamID := upload.streamID
    chunkIndex := upload.chunkIndex
    mediaType := upload.mediaType
    startedAt := upload.startedAt
    endedAt := upload.endedAt
    originalFilename := upload.originalFilename
    byteSize := upload.temp.byteSize
    sha256Hex := upload.sha256Hex
    fingerprintHash := uploadFingerprintHash env api incidentID upload }

/-- `metadataTimesEqual`. -/
def metadataTimesEqual (stored input : Time) : Bool :=
  Duration.near Duration.microsecond stored input

/-- `uploadMatchesChunk`. -/
def uploadMatchesChunk (incidentID : String) (upload : ChunkUpload) (chunk : Chunk) : Bool :=
  chunk.incidentID == incidentID && chunk.streamID == upload.streamID &&
    chunk.chunkIndex == upload.chunkIndex && chunk.mediaType == upload.mediaType &&
    metadataTimesEqual chunk.startedAt upload.startedAt &&
    metadataTimesEqual chunk.endedAt upload.endedAt &&
    chunk.originalFilename == upload.originalFilename &&
    chunk.byteSize == upload.temp.byteSize && chunk.sha256Hex == upload.sha256Hex

/-- `CompleteUploadOperation` and the responses to its errors. -/
def completeOperation (params : UploadOperationParams) (chunk : Chunk) : Handler Unit := do
  let answer : Except RepoError UploadOperation ← perform (.tx (.completeUploadOperation params chunk))
  match answer with
  | .error .idempotencyConflict => throw idempotencyConflictError
  | .error _ => throw internalError
  | .ok _ => pure ()

/-- `replayEquivalentChunkIfPresent`.  When it has written a response it ends the
    handler; otherwise it returns whether a chunk was found. -/
def replayEquivalentChunkIfPresent (incidentID : String) (upload : ChunkUpload)
    (params : UploadOperationParams) : Handler Bool := do
  let answer : Except RepoError Chunk ← perform (.query (.getChunkByIdentity incidentID
    upload.streamID upload.mediaType upload.chunkIndex))
  match answer with
  | .error .notFound => pure false
  | .error _ => throw internalError
  | .ok chunk =>
    if uploadMatchesChunk incidentID upload chunk then
      let opened : Except StoreError Unit ← perform (.openBlob chunk.storedPath)
      match opened with
      | .error _ => throw internalError
      | .ok _ =>
        completeOperation params chunk
        throw ⟨200, ""⟩
    else pure true

/-- A duplicate was met: replay it when the upload is idempotent, else report it. -/
def replayOrDuplicate (incidentID : String) (upload : ChunkUpload)
    (params : Option UploadOperationParams) : Handler Response := do
  match params with
  | some params =>
    let _ ← replayEquivalentChunkIfPresent incidentID upload params
    throw duplicateChunk
  | none => throw duplicateChunk

/-- The reservation of an idempotent upload. -/
def reserveOperation (incidentID : String) (upload : ChunkUpload) :
    Option UploadOperationParams → Handler Unit
  | none => pure ()
  | some params => do
    let answer : Except RepoError UploadOperation ← perform (.tx (.reserveUploadOperation params))
    match answer with
    | .error .idempotencyConflict => throw idempotencyConflictError
    | .error .incidentDeleting => throw incidentDeleting
    | .error _ => throw internalError
    | .ok operation =>
      if operation.state = .metadataCommitted then
        let isFound ← replayEquivalentChunkIfPresent incidentID upload params
        if isFound then throw idempotencyConflictError else throw internalError
      else pure ()

/-! ### The handlers -/

/-- `ChunkExists`. -/
def checkChunkExists (incidentID : String) (upload : ChunkUpload) : Handler Bool := do
  let answer : Except RepoError Bool ← perform (.query (.chunkExists incidentID upload.streamID
    upload.mediaType upload.chunkIndex))
  match answer with
  | .error _ => throw internalError
  | .ok isThere => pure isThere

/-- The parameters of `CreateChunk` for a committed upload. -/
def createChunkParams (api : API) (incidentID storedPath : String) (upload : ChunkUpload) :
    CreateChunkParams :=
  { incidentID := incidentID
    streamID := upload.streamID
    chunkIndex := upload.chunkIndex
    mediaType := upload.mediaType
    startedAt := upload.startedAt
    endedAt := upload.endedAt
    originalFilename := upload.originalFilename
    storedPath := storedPath
    byteSize := upload.temp.byteSize
    sha256Hex := upload.sha256Hex
    accountBlobQuotaBytes := api.accountBlobQuotaBytes }

/-- `removeCommittedBlobAfterMetadataFailure`: an error is only logged. -/
def removeCommittedBlobAfterMetadataFailure (storedPath : String) : Handler Unit := do
  let _ ← perform (.removeCommittedBlob storedPath)
  pure ()

/-- `CommitTemp` and `CreateChunk`, as both handlers do them: every error of
    `CreateChunk` removes the committed blob again before it is answered.
    `onDuplicate` answers a duplicate. -/
def commitChunk (api : API) (incidentID : String) (upload : ChunkUpload)
    (onDuplicate : Handler Response) : Handler (Response ⊕ Chunk) := do
  let committed : Except StoreError { p : String // storedBlobPath incidentID upload.streamID
      upload.mediaType upload.chunkIndex = .ok p } ←
    perform (.commitTemp upload.temp incidentID upload.streamID upload.mediaType upload.chunkIndex)
  match committed with
  | .error .alreadyExists => do
    let response ← onDuplicate
    pure (.inl response)
  | .error _ => throw internalError
  | .ok storedPath =>
    let created : Except RepoError Chunk ←
      perform (.tx (.createChunk (createChunkParams api incidentID storedPath.1 upload)))
    match created with
    | .ok chunk => pure (.inr chunk)
    | .error e =>
      removeCommittedBlobAfterMetadataFailure storedPath.1
      match e with
      | .duplicate =>
        let response ← onDuplicate
        pure (.inl response)
      | .incidentClosed => throw incidentClosed
      | .incidentDeleting => throw incidentDeleting
      | .invalidState => throw streamNotOpen
      | .accountBlobQuotaExceeded => throw accountBlobQuotaExceeded
      | .notFound => throw (if upload.streamID ≠ "" then streamNotFound else incidentNotFound)
      | _ => throw internalError

/-- `uploadChunk`. -/
def uploadChunk (env : Env) (api : API) (req : UploadRequest) : Handler Response := do
  let incident ← authorizeIncident req.principal req.incidentID
  require (incident.status ≠ .closed) incidentClosed
  let keyHash ← checked req.idempotencyKeyHash
  let upload ← readChunkUpload api req.body
  require (upload.temp.sha256Hex env = upload.sha256Hex) ⟨400, "hash_mismatch"⟩
  validateChunkStream req.incidentID upload
  validateChunkEnvelope api req.incidentID upload
  acquireUploadCoordinationLease api req.incidentID upload
  let params := keyHash.map fun k => uploadOperationParams env api k req.incidentID upload
  reserveOperation req.incidentID upload params
  let isThere ← checkChunkExists req.incidentID upload
  if isThere then replayOrDuplicate req.incidentID upload params
  else
    checkAccountBlobQuota api incident upload.temp.byteSize
    let outcome ← commitChunk api req.incidentID upload
      (replayOrDuplicate req.incidentID upload params)
    match outcome, params with
    | .inl response, _ => pure response
    | .inr chunk, some params =>
      completeOperation params chunk
      pure ⟨201, ""⟩
    | .inr _, none => pure ⟨201, ""⟩

/-! ### Relay commits -/

/-- `parseRelayChunkRequest`. -/
def parseRelayChunkRequest (f : RelayFields) : Except Response RelayChunkInput := do
  if f.relaySessionID = "" ∨ f.capability = "" ∨ f.incidentID = "" ∨ f.streamID = "" then
    throw ⟨400, "invalid_relay_request"⟩
  match f.chunkIndex with
  | none => throw ⟨400, "invalid_chunk_index"⟩
  | some chunkIndex =>
    if chunkIndex ≤ 0 then throw ⟨400, "invalid_chunk_index"⟩
    match f.mediaType with
    | none => throw ⟨400, "invalid_media_type"⟩
    | some mediaType =>
      let (startedAt, endedAt) ← parseChunkTimeRange f.startedAt f.endedAt
      match f.byteSize with
      | none => throw ⟨400, "invalid_byte_size"⟩
      | some byteSize =>
        if byteSize ≤ 0 then throw ⟨400, "invalid_byte_size"⟩
        if !validSHA256Hex f.sha256Hex then throw ⟨400, "invalid_sha256_hex"⟩
        return {
          relaySessionID := f.relaySessionID
          capability := f.capability
          incidentID := f.incidentID
          streamID := f.streamID
          chunkIndex := chunkIndex
          mediaType := mediaType
          startedAt := startedAt
          endedAt := endedAt
          byteSize := byteSize
          sha256Hex := f.sha256Hex
          originalFilename := f.originalFilename }

/-- `relayChunkInput.chunkUpload`. -/
def RelayChunkInput.chunkUpload (input : RelayChunkInput) (temp : TempUpload) : ChunkUpload :=
  { temp := temp
    streamID := input.streamID
    chunkIndex := input.chunkIndex
    mediaType := input.mediaType
    startedAt := input.startedAt
    endedAt := input.endedAt
    sha256Hex := input.sha256Hex
    originalFilename := input.originalFilename }

/-- `readRelayCommitUpload`. -/
def readRelayCommitUpload (api : API) (body : Except Response (Multipart RelayFields)) :
    Handler (RelayChunkInput × ChunkUpload) := do
  let form ← checked body
  let temp ← saveTemp api form.file
  let input ← checked (parseRelayChunkRequest form.fields)
  pure (input, input.chunkUpload temp)

/-- `validateRelayChunkRequest`. -/
def validateRelayChunkRequest (api : API) (input : RelayChunkInput) : Handler Incident := do
  require (input.byteSize ≤ api.maxUploadBytes) uploadTooLarge
  let now : Time ← perform .timeNow
  let capability ← checked (api.validateCapability input now)
  require (input.byteSize ≤ capability.maxChunkBytes ∧ input.chunkIndex ≤ capability.maxChunks ∧
    capability.allowedMediaTypes.contains input.mediaType = true)
    ⟨403, "relay_capability_limit_exceeded"⟩
  let answer : Except RepoError Incident ← perform (.query (.getIncident input.incidentID))
  match answer with
  | .error .notFound => throw incidentNotFound
  | .error _ => throw internalError
  | .ok incident =>
    require (incident.deletionState = .active) incidentDeleting
    require (incident.status ≠ .closed) incidentClosed
    requireOpenUploadStream input.incidentID input.streamID input.mediaType
    pure incident

/-- `relayCommit`. -/
def relayCommit (env : Env) (api : API) (req : RelayRequest) : Handler Response := do
  checked (api.requireRelayServiceAuth req.serviceAuthValues)
  let (input, upload) ← readRelayCommitUpload api req.body
  let incident ← validateRelayChunkRequest api input
  require (upload.temp.byteSize = input.byteSize) ⟨400, "byte_size_mismatch"⟩
  require (upload.temp.sha256Hex env = input.sha256Hex) ⟨400, "hash_mismatch"⟩
  validateChunkEnvelope api input.incidentID upload
  acquireUploadCoordinationLease api input.incidentID upload
  let isThere ← checkChunkExists input.incidentID upload
  if isThere then throw duplicateChunk
  else
    checkAccountBlobQuota api incident upload.temp.byteSize
    let outcome ← commitChunk api input.incidentID upload (throw duplicateChunk)
    match outcome with
    | .inl response => pure response
    | .inr _ => pure ⟨201, ""⟩

end SafetyRecorder
