import SafetyRecorder.HttpApi.Reconcile

namespace SafetyRecorder.Relay

open Checked Text Reconcile
open Wire (bytes)

/-!
# HTTP API — the requests of the relay

What the core API reads of a chunk that the relay announces (`relayPreflight`, a JSON body) and of
one that it commits (`relayCommit`, a multipart form): `relay_core.go`.  The two readers fill the
same struct, and `parseRelayChunkRequest` checks it.

* `parseRelayChunkJSON`, `parseRelayChunkFields` — the two readers;
* `parseRelayChunkRequest_ok` — **what an accepted request gives**, for both.
-/

/-- `relayChunkRequest`. -/
structure RelayChunkRequest where
  relaySessionID : Wire.Bytes
  capability : Wire.Bytes
  incidentID : Wire.Bytes
  streamID : Wire.Bytes
  chunkIndex : Option Int
  mediaType : Wire.Bytes
  startedAt : Wire.Bytes
  endedAt : Wire.Bytes
  byteSize : Option Int
  sha256Hex : Wire.Bytes
  originalFilename : Wire.Bytes
  deriving DecidableEq, Repr

/-- `relayChunkInput`: the relay session and the chunk. -/
structure RelayChunkInput where
  relaySessionID : Wire.Bytes
  capability : Wire.Bytes
  incidentID : Wire.Bytes
  chunk : ChunkTexts
  deriving DecidableEq, Repr

/-- `parseRelayChunkRequest`. -/
def parseRelayChunkRequest (request : RelayChunkRequest) (partFilename : Wire.Bytes) :
    Except Response RelayChunkInput := do
  let relaySessionID := trimSpace request.relaySessionID
  let capability := trimSpace request.capability
  let incidentID := trimSpace request.incidentID
  let streamID := trimSpace request.streamID
  ensure (relaySessionID ≠ [] ∧ capability ≠ [] ∧ incidentID ≠ [] ∧ streamID ≠ [])
    ⟨400, "invalid_relay_request"⟩
  let chunkIndex ← found request.chunkIndex ⟨400, "invalid_chunk_index"⟩
  ensure (0 < chunkIndex) ⟨400, "invalid_chunk_index"⟩
  let mediaType ← found (mediaTypeNamed (trimSpace request.mediaType)) ⟨400, "invalid_media_type"⟩
  let (startedAt, endedAt) ← readChunkTimeRange (timeFields request.startedAt request.endedAt)
  let byteSize ← found request.byteSize ⟨400, "invalid_byte_size"⟩
  ensure (0 < byteSize) ⟨400, "invalid_byte_size"⟩
  let sha256Hex := trimSpace request.sha256Hex
  ensure (Reconcile.validSHA256Hex sha256Hex = true) ⟨400, "invalid_sha256_hex"⟩
  let name := cleanFilename request.originalFilename
  pure
    { relaySessionID, capability, incidentID
      chunk :=
        { streamID, chunkIndex, mediaType, startedAt, endedAt
          originalFilename := if name = [] then partFilename else name
          byteSize, sha256Hex } }

/-- `parseRequiredPositiveInt` (32 bits) and `parseRequiredPositiveInt64`. -/
def parseRequiredPositive (bits : Nat) (raw : Wire.Bytes) : Option Int := do
  let value ← Decimal.parseInt bits ((trimSpace raw).map UInt8.toNat)
  if value ≤ 0 then none else some value

/-- The struct that `parseRelayChunkFields` fills. -/
def requestOfFields (fields : FormFields) : RelayChunkRequest where
  relaySessionID := fields "relay_session_id"
  capability := fields "capability"
  incidentID := fields "incident_id"
  streamID := fields "stream_id"
  chunkIndex := parseRequiredPositive 32 (fields "chunk_index")
  mediaType := fields "media_type"
  startedAt := fields "started_at"
  endedAt := fields "ended_at"
  byteSize := parseRequiredPositive 64 (fields "byte_size")
  sha256Hex := fields "sha256_hex"
  originalFilename := fields "original_filename"

/-- `parseRelayChunkFields`. -/
def parseRelayChunkFields (fields : FormFields) (partFilename : Wire.Bytes) :
    Except Response RelayChunkInput :=
  parseRelayChunkRequest (requestOfFields fields) partFilename

/-- The names of the JSON fields. -/
def relayChunkNames : List Wire.Bytes :=
  ["relay_session_id", "capability", "incident_id", "stream_id", "chunk_index", "media_type",
    "started_at", "ended_at", "byte_size", "sha256_hex", "original_filename"].map bytes

/-- The struct that the JSON decoder fills; a value of another type is refused. -/
def requestOfJSON (fields : List (Wire.Bytes × Json.Value)) : Except Response RelayChunkRequest := do
  let invalidJSON : Response := ⟨400, "invalid_json"⟩
  let relaySessionID ← found (Json.getString fields "relay_session_id") invalidJSON
  let capability ← found (Json.getString fields "capability") invalidJSON
  let incidentID ← found (Json.getString fields "incident_id") invalidJSON
  let streamID ← found (Json.getString fields "stream_id") invalidJSON
  let chunkIndex ← found (Json.getInt? fields "chunk_index") invalidJSON
  let mediaType ← found (Json.getString fields "media_type") invalidJSON
  let startedAt ← found (Json.getString fields "started_at") invalidJSON
  let endedAt ← found (Json.getString fields "ended_at") invalidJSON
  let byteSize ← found (Json.getInt? fields "byte_size") invalidJSON
  let sha256Hex ← found (Json.getString fields "sha256_hex") invalidJSON
  let originalFilename ← found (Json.getString fields "original_filename") invalidJSON
  pure
    { relaySessionID, capability, incidentID, streamID
      chunkIndex := chunkIndex.map Int64.toInt
      mediaType, startedAt, endedAt
      byteSize := byteSize.map Int64.toInt
      sha256Hex, originalFilename }

/-- `parseRelayChunkJSON`: there is no file part, so its name is empty. -/
def parseRelayChunkJSON (reader : Json.Reader) (body : Wire.Bytes) :
    Except Response RelayChunkInput := do
  let fields ← decodeJSON relayChunkNames reader body
  let request ← requestOfJSON fields
  parseRelayChunkRequest request []

/-! ### Accepted requests -/

/-- What is read of a request: the texts without white space around them, the numbers, the media
    type, the instants, and the cleaned name. -/
structure Reads (request : RelayChunkRequest) (input : RelayChunkInput) : Prop where
  relaySessionID : input.relaySessionID = trimSpace request.relaySessionID
  capability : input.capability = trimSpace request.capability
  incidentID : input.incidentID = trimSpace request.incidentID
  streamID : input.chunk.streamID = trimSpace request.streamID
  bound : input.relaySessionID ≠ [] ∧ input.capability ≠ [] ∧ input.incidentID ≠ [] ∧
    input.chunk.streamID ≠ []
  chunkIndex : request.chunkIndex = some input.chunk.chunkIndex
  index_pos : 0 < input.chunk.chunkIndex
  mediaType : mediaTypeNamed (trimSpace request.mediaType) = some input.chunk.mediaType
  times : readChunkTimeRange (timeFields request.startedAt request.endedAt) =
    .ok (input.chunk.startedAt, input.chunk.endedAt)
  byteSize : request.byteSize = some input.chunk.byteSize
  size_pos : 0 < input.chunk.byteSize
  sha256Hex : input.chunk.sha256Hex = trimSpace request.sha256Hex
  digest : Reconcile.validSHA256Hex input.chunk.sha256Hex = true

/-- **What an accepted request gives.** -/
theorem parseRelayChunkRequest_ok {request : RelayChunkRequest} {part : Wire.Bytes}
    {input : RelayChunkInput} :
    parseRelayChunkRequest request part = .ok input ↔
      Reads request input ∧
        input.chunk.originalFilename =
          if cleanFilename request.originalFilename = [] then part
          else cleanFilename request.originalFilename := by
  simp only [parseRelayChunkRequest, bind_ok, found_ok, ensure_ok, pure_ok]
  constructor
  · rintro ⟨-, hbound, index, hindex, -, hpos, media, hmedia, ⟨s, e⟩, htimes, size, hsize, -, hspos,
      -, hdigest, rfl⟩
    exact ⟨⟨rfl, rfl, rfl, rfl, hbound, hindex, hpos, hmedia, htimes, hsize, hspos, rfl, hdigest⟩,
      rfl⟩
  · rintro ⟨h, hname⟩
    obtain ⟨session, capability, incident, stream, index, media, s, e, name, size, digest⟩ := input
    obtain ⟨hsession, hcap, hinc, hstream, hbound, hindex, hpos, hmedia, htimes, hsize, hspos, hsha,
      hdigest⟩ := h
    simp only at hsession hcap hinc hstream hsha hname
    subst hsession hcap hinc hstream hsha hname
    exact ⟨(), hbound, index, hindex, (), hpos, media, hmedia, (s, e), htimes, size, hsize, (),
      hspos, (), hdigest, rfl⟩

end SafetyRecorder.Relay
