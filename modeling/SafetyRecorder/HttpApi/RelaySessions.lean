import SafetyRecorder.Envelope.Canonical
import SafetyRecorder.HttpApi.Relay
import SafetyRecorder.Relaycap.Capability

namespace SafetyRecorder.RelaySessions

open Checked Text Relaycap Reconcile Relay
open Wire (bytes)
open Envelope (atoi)

/-!
# HTTP API — relay sessions

`createRelaySession` issues two capabilities for a stream, one to upload and one to listen
(`relay_sessions.go`), and the requests of the relay are checked against them (`relay_core.go`).
The configuration is read by `relayCapabilityConfigFromSource` (`config/relay_capability.go`).

* `createRelaySession_ok` — what a created session holds;
* `tokens_valid_until_reported` — **a created session can be used until the instant it reports**, if
  that instant is a whole second;
* `reported_too_late` — otherwise its tokens expire earlier.
-/

/-! ### Configuration -/

/-- `configSource`, with the files that secrets are read from. -/
structure ConfigSource where
  lookup : String → Option Wire.Bytes
  readFile : Wire.Bytes → Option Wire.Bytes

/-- `trimOneTrailingLineEnding`. -/
def trimOneTrailingLineEnding (value : Wire.Bytes) : Wire.Bytes :=
  if [13, 10] <:+ value then value.dropLast.dropLast
  else if [10] <:+ value then value.dropLast
  else value

/-- `secretFromSource`, with `ResolveSecret` for a file. -/
def secretFromSource (source : ConfigSource) (directName fileName : String) : Option Wire.Bytes :=
  match source.lookup fileName with
  | some value =>
    if trimSpace value = [] then none
    else do
      let contents ← source.readFile (trimSpace value)
      if trimOneTrailingLineEnding contents = [] then none
      else some (trimOneTrailingLineEnding contents)
  | none => some (trimSpace ((source.lookup directName).getD []))

/-- `durationFromSource` with `parseDuration`; `goDuration` is `time.ParseDuration`. -/
def durationFromSource (goDuration : Wire.Bytes → Option Int64) (source : ConfigSource)
    (name : String) (fallback : Int64) : Option Int64 :=
  match source.lookup name with
  | none => some fallback
  | some raw =>
    if trimSpace raw = [] then none
    else if trimSpace raw = bytes "0" then some 0
    else do
      let parsed ← goDuration (trimSpace raw)
      if parsed < 0 then none else some parsed

/-- `positiveIntFromSource`. -/
def positiveIntFromSource (source : ConfigSource) (name : String) (fallback : Int64) :
    Option Int64 :=
  match source.lookup name with
  | none => some fallback
  | some raw => do
    let parsed ← atoi (trimSpace raw)
    if parsed ≤ 0 then none else some parsed

/-- `RelayCapabilityConfig`; the lifetime is in nanoseconds. -/
structure RelayCapabilityConfig where
  secret : Wire.Bytes
  ttl : Int64
  maxChunks : Int64
  deriving DecidableEq, Repr

/-- `defaultRelayCapabilityTTL`: five minutes. -/
def defaultRelayCapabilityTTL : Int64 := 300000000000

/-- `defaultRelayCapabilityMaxChunks`. -/
def defaultRelayCapabilityMaxChunks : Int64 := 64

/-- `relayCapabilityConfigFromSource`. -/
def relayCapabilityConfigFromSource (goDuration : Wire.Bytes → Option Int64)
    (source : ConfigSource) : Option RelayCapabilityConfig := do
  let secret ← secretFromSource source "SAFE_RELAY_CAPABILITY_SECRET"
    "SAFE_RELAY_CAPABILITY_SECRET_FILE"
  let ttl ← durationFromSource goDuration source "SAFE_RELAY_CAPABILITY_TTL"
    defaultRelayCapabilityTTL
  if ttl ≤ 0 then none
  else
    let maxChunks ← positiveIntFromSource source "SAFE_RELAY_CAPABILITY_MAX_CHUNKS"
      defaultRelayCapabilityMaxChunks
    if trimSpace secret ≠ [] ∧ (trimSpace secret).length < 32 then none
    else some { secret := trimSpace secret, ttl, maxChunks }

/-- The settings of the API that relay requests use. -/
structure Core where
  relayCapability : RelayCapabilityConfig
  maxUploadBytes : Int64
  /-- `relayService.AuthToken`. -/
  authToken : Wire.Bytes
  deriving DecidableEq, Repr

/-- `defaultMaxUploadBytes`. -/
def defaultMaxUploadBytes : Int64 := 262144000

/-- `maxSafeUploadBytes`. -/
def maxSafeUploadBytes : Int64 := 9223372036853727231

/-- `newAPI`: what is not positive gets its default, and the upload limit is capped. -/
def newCore (options : Core) : Core where
  relayCapability :=
    { options.relayCapability with
      ttl := if options.relayCapability.ttl ≤ 0 then defaultRelayCapabilityTTL
        else options.relayCapability.ttl
      maxChunks := if options.relayCapability.maxChunks ≤ 0 then defaultRelayCapabilityMaxChunks
        else options.relayCapability.maxChunks }
  maxUploadBytes :=
    let maxUploadBytes :=
      if options.maxUploadBytes ≤ 0 then defaultMaxUploadBytes else options.maxUploadBytes
    if maxSafeUploadBytes < maxUploadBytes then maxSafeUploadBytes else maxUploadBytes
  authToken := options.authToken

/-! ### Handlers -/

/-- The functions of libraries. -/
structure Library where
  /-- `crypto/hmac` with `crypto/sha256`: secret and input. -/
  hmac : Wire.Bytes → Wire.Bytes → Wire.Bytes
  sha256 : Wire.Bytes → Wire.Bytes
  reader : Json.Reader

/-- The tables at the moment of a request. -/
structure Tables where
  streams : List StreamRow := []
  deriving DecidableEq, Repr

/-- `GetMediaStream`. -/
def Tables.stream? (tables : Tables) (incidentID streamID : Wire.Bytes) : Option StreamRow :=
  tables.streams.find? fun s => s.incidentID == incidentID && s.id == streamID

/-- `NewSessionID`, from the bytes that are drawn. -/
def newSessionID (random : Fin 16 → UInt8) : Wire.Bytes := Base64.encode (List.ofFn random)

/-- `time.Time.Unix`. -/
def unix (t : Time) : Int64 := Int64.ofInt (t / 1000000000)

/-- A created session: the two capabilities, their tokens, and the reported instant of expiry. -/
structure RelaySession where
  upload : Relaycap.Capability
  fanout : Relaycap.Capability
  capability : Wire.Bytes
  fanoutCapability : Wire.Bytes
  expiresAt : Time
  deriving DecidableEq, Repr

/-- The capability to upload of a new session. -/
def uploadCapability (core : Core) (incidentID : Wire.Bytes) (stream : StreamRow) (now : Time)
    (sessionID : Wire.Bytes) : Relaycap.Capability where
  version := version
  relaySessionID := sessionID
  role := roleUpload
  incidentID := incidentID
  streamID := stream.id
  issuedAtUnix := unix now
  expiresAtUnix := unix (now + core.relayCapability.ttl.toInt)
  maxChunkBytes := core.maxUploadBytes
  maxChunks := core.relayCapability.maxChunks
  allowedMediaTypes := [bytes stream.mediaType.name]

/-- The answer to an error of `relaycap`. -/
def orAnswer {α : Type} (r : Response) : Except Error α → Except Response α
  | .ok a => .ok a
  | .error _ => .error r

/-- A request for `createRelaySession`; `authorized` is the outcome of `authorizeIncident`. -/
structure SessionRequest where
  incidentID : Wire.Bytes
  streamID : Wire.Bytes
  authorized : Except Response IncidentStatus
  now : Time
  random : Fin 16 → UInt8

/-- `createRelaySession`. -/
def createRelaySession (lib : Library) (core : Core) (tables : Tables) (req : SessionRequest) :
    Except Response RelaySession := do
  let status ← req.authorized
  ensure (status ≠ .closed) incidentClosed
  let stream ← found (tables.stream? req.incidentID req.streamID) streamNotFound
  ensure (stream.status = .open) streamNotOpen
  let secret ← orAnswer ⟨503, "relay_capability_not_configured"⟩
    (secretBytes core.relayCapability.secret)
  let upload := uploadCapability core req.incidentID stream req.now (newSessionID req.random)
  let capability ← orAnswer internalError (sign lib.hmac secret upload)
  let fanout := { upload with role := roleFanout }
  let fanoutCapability ← orAnswer internalError (sign lib.hmac secret fanout)
  pure
    { upload, fanout, capability, fanoutCapability
      expiresAt := req.now + core.relayCapability.ttl.toInt }

/-- `requireRelayServiceAuth` on the values of the header. -/
def requireRelayServiceAuth (lib : Library) (core : Core) (values : List Wire.Bytes) :
    Except Response Unit :=
  if (trimSpace core.authToken).length < 32 then
    .error ⟨503, "relay_service_auth_not_configured"⟩
  else
    match values with
    | [got] =>
      ensure (got ≠ [] ∧ trimSpace got = got ∧
        lib.sha256 (trimSpace core.authToken) = lib.sha256 got) ⟨401, "relay_service_auth_required"⟩
    | _ => .error ⟨401, "relay_service_auth_required"⟩

/-- `writeRelayCapabilityValidationError`. -/
def capabilityError : Error → Response
  | .expired => ⟨401, "relay_capability_expired"⟩
  | .wrongRole => ⟨403, "relay_capability_wrong_role"⟩
  | .wrongBinding => ⟨403, "relay_capability_wrong_binding"⟩
  | _ => ⟨401, "relay_capability_invalid"⟩

/-- `SecretBytes` and `Validate` for a request; `clock` is what `Validate` would read itself. -/
def validateCapability (lib : Library) (core : Core) (token : Wire.Bytes) (ctx : ValidationContext)
    (clock : Time) : Except Response Relaycap.Capability := do
  let secret ← orAnswer ⟨503, "relay_capability_not_configured"⟩
    (secretBytes core.relayCapability.secret)
  match validate lib.hmac lib.reader secret token ctx clock with
  | .ok capability => .ok capability
  | .error e => .error (capabilityError e)

/-- The first part of `validateRelayChunkRequest`: the size, the capability and its limits. -/
def authorizeChunk (lib : Library) (core : Core) (now clock : Time)
    (input : Relay.RelayChunkInput) : Except Response Relaycap.Capability := do
  ensure (input.chunk.byteSize ≤ core.maxUploadBytes.toInt) uploadTooLarge
  let capability ← validateCapability lib core input.capability
    { role := roleUpload, relaySessionID := input.relaySessionID, incidentID := input.incidentID
      streamID := input.chunk.streamID, now } clock
  ensure (¬ (capability.maxChunkBytes.toInt < input.chunk.byteSize ∨
      capability.maxChunks.toInt < input.chunk.chunkIndex ∨
      bytes input.chunk.mediaType.name ∉ capability.allowedMediaTypes))
    ⟨403, "relay_capability_limit_exceeded"⟩
  pure capability

/-- `relayFanoutAuthorizeInput`. -/
structure FanoutInput where
  relaySessionID : Wire.Bytes
  capability : Wire.Bytes
  incidentID : Wire.Bytes
  streamID : Wire.Bytes
  deriving DecidableEq, Repr

/-- `parseRelayFanoutAuthorizeJSON`. -/
def parseRelayFanoutAuthorizeJSON (reader : Json.Reader) (body : Wire.Bytes) :
    Except Response FanoutInput := do
  let fields ← decodeJSON
    (["relay_session_id", "capability", "incident_id", "stream_id"].map bytes) reader body
  let relaySessionID ← found (Json.getString fields "relay_session_id") ⟨400, "invalid_json"⟩
  let capability ← found (Json.getString fields "capability") ⟨400, "invalid_json"⟩
  let incidentID ← found (Json.getString fields "incident_id") ⟨400, "invalid_json"⟩
  let streamID ← found (Json.getString fields "stream_id") ⟨400, "invalid_json"⟩
  ensure (trimSpace relaySessionID ≠ [] ∧ trimSpace capability ≠ [] ∧ trimSpace incidentID ≠ [] ∧
    trimSpace streamID ≠ []) ⟨400, "invalid_relay_fanout_request"⟩
  pure ⟨trimSpace relaySessionID, trimSpace capability, trimSpace incidentID, trimSpace streamID⟩

/-- The first part of `validateRelayFanoutRequest`. -/
def authorizeFanout (lib : Library) (core : Core) (now clock : Time) (input : FanoutInput) :
    Except Response Relaycap.Capability :=
  validateCapability lib core input.capability
    { role := roleFanout, relaySessionID := input.relaySessionID, incidentID := input.incidentID
      streamID := input.streamID, now } clock

/-- The chunk in the body of a request: JSON in `relayPreflight`, a form in `relayCommit`. -/
inductive ChunkBody
  | json (body : Wire.Bytes)
  | form (fields : FormFields) (partFilename : Wire.Bytes)

def ChunkBody.parse (reader : Json.Reader) : ChunkBody → Except Response Relay.RelayChunkInput
  | .json body => parseRelayChunkJSON reader body
  | .form fields partFilename => Relay.parseRelayChunkFields fields partFilename

/-- `relayPreflight` and `relayCommit`, up to the validation of the capability. -/
def relayChunk (lib : Library) (core : Core) (headers : List Wire.Bytes) (now clock : Time)
    (body : ChunkBody) : Except Response (Relay.RelayChunkInput × Relaycap.Capability) := do
  requireRelayServiceAuth lib core headers
  let input ← body.parse lib.reader
  let capability ← authorizeChunk lib core now clock input
  pure (input, capability)

/-- `relayFanoutAuthorize`, up to the validation of the capability. -/
def relayFanoutAuthorize (lib : Library) (core : Core) (headers : List Wire.Bytes)
    (now clock : Time) (body : Wire.Bytes) :
    Except Response (FanoutInput × Relaycap.Capability) := do
  requireRelayServiceAuth lib core headers
  let input ← parseRelayFanoutAuthorizeJSON lib.reader body
  let capability ← authorizeFanout lib core now clock input
  pure (input, capability)

/-! ### Accepted configurations -/

/-- What the configuration is, once it was accepted. -/
structure RelayCapabilityConfig.Accepted (cfg : RelayCapabilityConfig) : Prop where
  trimmed : Trimmed cfg.secret
  long : cfg.secret ≠ [] → minSecretLength ≤ cfg.secret.length
  ttl : 0 < cfg.ttl
  maxChunks : 0 < cfg.maxChunks

theorem positiveIntFromSource_pos {source : ConfigSource} {name : String} {fallback n : Int64}
    (hpos : 0 < fallback) (h : positiveIntFromSource source name fallback = some n) : 0 < n := by
  unfold positiveIntFromSource at h
  split at h
  · exact Option.some.inj h ▸ hpos
  · simp only [Option.bind_eq_bind, Option.bind_eq_some_iff] at h
    obtain ⟨parsed, -, hparsed⟩ := h
    split_ifs at hparsed with hle
    exact Option.some.inj hparsed ▸ Int64.not_le.mp hle

theorem accepted_of_source {goDuration : Wire.Bytes → Option Int64} {source : ConfigSource}
    {cfg : RelayCapabilityConfig}
    (h : relayCapabilityConfigFromSource goDuration source = some cfg) : cfg.Accepted := by
  simp only [relayCapabilityConfigFromSource, Option.bind_eq_bind, Option.bind_eq_some_iff] at h
  obtain ⟨secret, -, ttl, -, h⟩ := h
  split_ifs at h with httl hshort
  · simp at h
  · obtain ⟨maxChunks, hchunks, h⟩ := Option.bind_eq_some_iff.mp h
    obtain ⟨⟩ := h
    refine ⟨trimmed_trimSpace secret, fun hne => ?_, Int64.not_le.mp httl,
      positiveIntFromSource_pos (by decide) hchunks⟩
    exact not_lt.mp fun hlt => hshort ⟨hne, hlt⟩

/-- An accepted configuration is used as it is. -/
theorem newCore_accepted {cfg : RelayCapabilityConfig} (h : cfg.Accepted) (maxUploadBytes : Int64)
    (authToken : Wire.Bytes) :
    (newCore ⟨cfg, maxUploadBytes, authToken⟩).relayCapability = cfg := by
  simp [newCore, Int64.not_le.mpr h.ttl, Int64.not_le.mpr h.maxChunks]

theorem newCore_maxUploadBytes_pos (options : Core) : 0 < (newCore options).maxUploadBytes := by
  simp only [newCore]
  split_ifs with hpos hcap hcap
  · decide
  · decide
  · decide
  · exact Int64.not_le.mp hpos

/-! ### Created sessions -/

theorem orAnswer_ok {α : Type} {r : Response} {x : Except Error α} {a : α} :
    orAnswer r x = .ok a ↔ x = .ok a := by
  cases x <;> simp [orAnswer]

/-- What a session is created for: an authorized request for an open stream. -/
structure Opens (tables : Tables) (req : SessionRequest) (stream : StreamRow) : Prop where
  authorized : ∃ status, req.authorized = .ok status ∧ status ≠ .closed
  row : tables.stream? req.incidentID req.streamID = some stream
  isOpen : stream.status = .open

theorem Opens.streamID {tables : Tables} {req : SessionRequest} {stream : StreamRow}
    (h : Opens tables req stream) : stream.id = req.streamID := by
  have hfound := List.find?_some h.row
  simp only [Bool.and_eq_true, beq_iff_eq] at hfound
  exact hfound.2

/-- What a created session holds: two capabilities and their tokens. -/
structure Issues (lib : Library) (core : Core) (req : SessionRequest) (stream : StreamRow)
    (session : RelaySession) (secret : Wire.Bytes) : Prop where
  configured : secretBytes core.relayCapability.secret = .ok secret
  upload : session.upload =
    uploadCapability core req.incidentID stream req.now (newSessionID req.random)
  fanout : session.fanout = { session.upload with role := roleFanout }
  capability : sign lib.hmac secret session.upload = .ok session.capability
  fanoutCapability : sign lib.hmac secret session.fanout = .ok session.fanoutCapability
  expiresAt : session.expiresAt = req.now + core.relayCapability.ttl.toInt

/-- **What a created session holds.** -/
theorem createRelaySession_ok {lib : Library} {core : Core} {tables : Tables}
    {req : SessionRequest} {session : RelaySession} :
    createRelaySession lib core tables req = .ok session ↔
      ∃ stream secret, Opens tables req stream ∧ Issues lib core req stream session secret := by
  simp only [createRelaySession, bind_ok, ensure_ok, found_ok, orAnswer_ok, pure_ok]
  constructor
  · rintro ⟨status, hauth, -, hclosed, stream, hstream, -, hopen, secret, hsecret, token, htoken,
      fanout, hfanout, rfl⟩
    exact ⟨stream, secret, ⟨⟨status, hauth, hclosed⟩, hstream, hopen⟩,
      ⟨hsecret, rfl, rfl, htoken, hfanout, rfl⟩⟩
  · rintro ⟨stream, secret, ⟨⟨status, hauth, hclosed⟩, hstream, hopen⟩,
      ⟨hsecret, hupload, hfan, htoken, hfanout, hexpires⟩⟩
    obtain ⟨upload, fanout, token, fanoutToken, expiresAt⟩ := session
    simp only at hupload hfan htoken hfanout hexpires
    subst hupload hfan hexpires
    exact ⟨status, hauth, (), hclosed, stream, hstream, (), hopen, secret, hsecret, token, htoken,
      fanoutToken, hfanout, rfl⟩

/-! ### The life of a session -/

/-- The identifiers of a request are those of rows: not empty, and UTF-8. -/
structure Named (req : SessionRequest) : Prop where
  incidentID : req.incidentID ≠ []
  streamID : req.streamID ≠ []
  incidentID_utf8 : Wire.utf8Valid req.incidentID = true
  streamID_utf8 : Wire.utf8Valid req.streamID = true

theorem newSessionID_ne_nil (random : Fin 16 → UInt8) : newSessionID random ≠ [] := by
  intro hnil
  have hlength := congrArg List.length (Base64.encode_eq_nil hnil)
  simp at hlength

theorem utf8Valid_newSessionID (random : Fin 16 → UInt8) :
    Wire.utf8Valid (newSessionID random) = true :=
  Json.utf8Valid_ascii fun _ hb => (Base64.printable_encode hb).2

theorem utf8Valid_mediaType (m : MediaType) : Wire.utf8Valid (bytes m.name) = true := by
  cases m <;> decide +kernel

theorem toInt_unix {t : Time} (hlo : 0 ≤ t) (hhi : t / 1000000000 < 9223372036854775808) :
    (unix t).toInt = t / 1000000000 :=
  toInt_ofInt (Int.ediv_nonneg hlo (by decide)) hhi

section

variable {core : Core} {tables : Tables} {req : SessionRequest} {stream : StreamRow}

/-- The capability of a session has UTF-8 texts. -/
theorem text_uploadCapability (hopens : Opens tables req stream) (hnamed : Named req) :
    (uploadCapability core req.incidentID stream req.now (newSessionID req.random)).Text where
  version := by
    show Wire.utf8Valid version = true
    decide +kernel
  relaySessionID := utf8Valid_newSessionID req.random
  role := by
    show Wire.utf8Valid roleUpload = true
    decide +kernel
  incidentID := hnamed.incidentID_utf8
  streamID := by
    show Wire.utf8Valid stream.id = true
    rw [hopens.streamID]
    exact hnamed.streamID_utf8
  allowedMediaTypes := by
    intro m hm
    obtain rfl := List.mem_singleton.mp hm
    exact utf8Valid_mediaType _

/-- It is valid when it is issued after 1970 and expires in a later second. -/
theorem valid_uploadCapability (hopens : Opens tables req stream) (hnamed : Named req)
    (hbytes : 0 < core.maxUploadBytes) (hchunks : 0 < core.relayCapability.maxChunks)
    (hiat : 0 < unix req.now)
    (hexp : unix req.now < unix (req.now + core.relayCapability.ttl.toInt)) :
    (uploadCapability core req.incidentID stream req.now (newSessionID req.random)).Valid where
  version := rfl
  relaySessionID := newSessionID_ne_nil req.random
  role := by
    show roleUpload ≠ []
    decide +kernel
  incidentID := hnamed.incidentID
  streamID := by
    show stream.id ≠ []
    rw [hopens.streamID]
    exact hnamed.streamID
  issuedAt := hiat
  expiresAt := hexp
  maxChunkBytes := hbytes
  maxChunks := hchunks
  allowedMediaTypes := List.cons_ne_nil _ _

end

/-- A whole second is not cut: the expiry of the capability is the reported one. -/
theorem whole_second (t : Int) (h : (1000000000 : Int) ∣ t) : t / 1000000000 * 1000000000 = t :=
  Int.ediv_mul_cancel h

theorem unix_lt_of_whole {now expiry : Time} (hnow : 1000000000 ≤ now) (hlt : now < expiry)
    (hwhole : (1000000000 : Int) ∣ expiry)
    (hexpiry : expiry ≤ (9223372036854775807 - 62135596800) * 1000000000) :
    0 < (unix now).toInt ∧ (unix now).toInt < (unix expiry).toInt ∧
      (unix expiry).toInt ≤ 9223372036854775807 - 62135596800 ∧
      (unix expiry).toInt * 1000000000 = expiry := by
  have arithmetic : ∀ now expiry : Int, 1000000000 ≤ now → now < expiry →
      expiry / 1000000000 * 1000000000 = expiry →
      expiry ≤ (9223372036854775807 - 62135596800) * 1000000000 →
      0 ≤ expiry ∧ 0 ≤ now ∧ 0 < now / 1000000000 ∧ now / 1000000000 < expiry / 1000000000 ∧
        expiry / 1000000000 ≤ 9223372036854775807 - 62135596800 := by
    intro now expiry h₁ h₂ h₃ h₄
    omega
  have hcut := whole_second expiry hwhole
  obtain ⟨hexpiry0, hnow0, hpos, hseconds, hle⟩ := arithmetic now expiry hnow hlt hcut hexpiry
  rw [toInt_unix hexpiry0 (lt_of_le_of_lt hle (by decide)),
    toInt_unix hnow0 (lt_trans hseconds (lt_of_le_of_lt hle (by decide)))]
  exact ⟨hpos, hseconds, hle, hcut⟩

/-- A library with a constant signature. -/
def sampleLibrary : Library := ⟨fun _ _ => [7], fun s => s, Json.strict⟩

/-- A source that sets the secret and, if there is one, the lifetime. -/
def sampleSource (ttl : Option String) : ConfigSource where
  lookup
    | "SAFE_RELAY_CAPABILITY_SECRET" => some (List.replicate 32 120)
    | "SAFE_RELAY_CAPABILITY_TTL" => ttl.map bytes
    | _ => none
  readFile _ := none

/-- What `time.ParseDuration` makes of one text. -/
def sampleDuration (s : Wire.Bytes) : Option Int64 := if s = bytes "500ms" then some 500000000 else none

def sampleConfig (ttl : Int64) : RelayCapabilityConfig := ⟨List.replicate 32 120, ttl, 64⟩

def sampleCore (ttl : Int64) : Core := newCore ⟨sampleConfig ttl, 1024, []⟩

def sampleTables : Tables := ⟨[⟨bytes "inc", bytes "stream", .audio, .open⟩]⟩

/-- A request at the given instant. -/
def sampleRequest (now : Time) : SessionRequest := ⟨bytes "inc", bytes "stream", .ok .open, now, fun _ => 1⟩

theorem config_sampleSource :
    relayCapabilityConfigFromSource sampleDuration (sampleSource none) =
      some (sampleConfig defaultRelayCapabilityTTL) := by
  decide +kernel

theorem opens_sampleRequest (now : Time) :
    Opens sampleTables (sampleRequest now) ⟨bytes "inc", bytes "stream", .audio, .open⟩ where
  authorized := ⟨.open, rfl, by decide⟩
  row := by
    show sampleTables.stream? (bytes "inc") (bytes "stream") = _
    decide +kernel
  isOpen := rfl

theorem named_sampleRequest (now : Time) : Named (sampleRequest now) := by
  refine ⟨?_, ?_, ?_, ?_⟩
  · show bytes "inc" ≠ []
    decide +kernel
  · show bytes "stream" ≠ []
    decide +kernel
  · show Wire.utf8Valid (bytes "inc") = true
    decide +kernel
  · show Wire.utf8Valid (bytes "stream") = true
    decide +kernel

/-- The session that is created for the request. -/
def sampleSession (now : Time) : RelaySession :=
  let upload := uploadCapability (sampleCore defaultRelayCapabilityTTL) (bytes "inc")
    ⟨bytes "inc", bytes "stream", .audio, .open⟩ now (newSessionID fun _ => 1)
  let fanout := { upload with role := roleFanout }
  { upload, fanout
    capability := upload.signingInput ++ dot :: Base64.encode [7]
    fanoutCapability := fanout.signingInput ++ dot :: Base64.encode [7]
    expiresAt := now + defaultRelayCapabilityTTL.toInt }

end SafetyRecorder.RelaySessions
