import SafetyRecorder.Envelope.Canonical
import SafetyRecorder.Lib.Base64
import SafetyRecorder.Lib.Json

namespace SafetyRecorder.ChunkEnvelope

open Wire Checked

/-!
# The compatibility chunk envelope

`internal/envelope`: a chunk sealed under a single AES-256-GCM key, behind a JSON header that
carries the key ID, the nonce and the associated data.  The associated data is built from the
context on both sides; the header's copy of it has gone through JSON.

* `parseEnvelope_wire` — an envelope is taken apart into its header and its ciphertext;
* `parseHeaderJSON_marshal` — the header that arrives;
* `decryptChunk_encryptChunk` — a chunk is opened again, when the key ID and the strings of the
  context are UTF-8.
-/

def schemeV1 : Bytes := bytes "proofline-chunk-encryption-v1"
def algorithmAES256GCM : Bytes := bytes "AES-256-GCM"
def keyVersion : Int64 := 1
def keySize : Nat := 32
def nonceSize : Nat := 12
def maxHeaderLength : Nat := 16 * 1024
def magic : Bytes := bytes "PLCHNK1\n"

/-- The errors of the package. -/
inductive Error where
  | message (text : String)
  /-- `unsupported key version %d` and its like. -/
  | unsupportedVersion (what : String) (got : Int64)
  /-- `unsupported key scheme %q` and its like. -/
  | unsupported (what : String) (got : Bytes)
  deriving DecidableEq, Repr

/-- `ChunkContext`. -/
structure ChunkContext where
  incidentID : Bytes
  streamID : Bytes
  mediaType : Bytes
  chunkIndex : Int64
  deriving DecidableEq, Repr

/-- `Key`. -/
structure Key where
  version : Int64
  scheme : Bytes
  algorithm : Bytes
  keyID : Bytes
  key : Bytes
  deriving DecidableEq, Repr

/-- `Header`. -/
structure Header where
  version : Int64
  scheme : Bytes
  algorithm : Bytes
  keyID : Bytes
  nonceB64 : Bytes
  aad : Bytes
  deriving DecidableEq, Repr

/-- AES-256-GCM: what is sealed under a key and a nonce of the right sizes is opened again, and
    is never empty. -/
structure AEAD where
  aeadSeal : (key nonce plaintext aad : Bytes) → Bytes
  aeadOpen : (key nonce ciphertext aad : Bytes) → Option Bytes
  seal_ne_nil : ∀ key nonce plaintext aad, aeadSeal key nonce plaintext aad ≠ []
  open_seal : ∀ key nonce plaintext aad, key.length = keySize → nonce.length = nonceSize →
    aeadOpen key nonce (aeadSeal key nonce plaintext aad) aad = some plaintext

/-! ### The functions of the source -/

/-- `validateKey`. -/
def validateKey (key : Key) : Except Error Unit := do
  ensure (key.version = keyVersion) (.unsupportedVersion "key version" key.version)
  ensure (key.scheme = schemeV1) (.unsupported "key scheme" key.scheme)
  ensure (key.algorithm = algorithmAES256GCM) (.unsupported "key algorithm" key.algorithm)
  ensure (key.keyID ≠ []) (.message "key_id is required")
  ensure (key.key.length = keySize) (.message "key must be 32 bytes")

/-- `rejectNewline`. -/
def rejectNewline (field : String) (value : Bytes) : Except Error Unit :=
  ensure (13 ∉ value ∧ 10 ∉ value) (.message (field ++ " must not contain newlines"))

/-- The text of the associated data. -/
def ChunkContext.aad (ctx : ChunkContext) : Bytes :=
  bytes "ProoflineChunk:v1\nincident_id=" ++ ctx.incidentID ++ (bytes "\nstream_id=" ++
    ctx.streamID ++ (bytes "\nmedia_type=" ++ ctx.mediaType ++ (bytes "\nchunk_index=" ++
      Envelope.itoa ctx.chunkIndex ++ bytes "\n")))

/-- `BuildAssociatedData`. -/
def buildAssociatedData (ctx : ChunkContext) : Except Error Bytes := do
  rejectNewline "incident_id" ctx.incidentID
  rejectNewline "stream_id" ctx.streamID
  rejectNewline "media_type" ctx.mediaType
  ensure (0 < ctx.chunkIndex) (.message "chunk_index must be positive")
  pure ctx.aad

/-- The fields of a header under their JSON names. -/
def Header.fields (h : Header) : List (Bytes × Json.Value) :=
  [(bytes "version", .int h.version),
    (bytes "scheme", .str h.scheme),
    (bytes "algorithm", .str h.algorithm),
    (bytes "key_id", .str h.keyID),
    (bytes "nonce_b64", .str h.nonceB64),
    (bytes "aad", .str h.aad)]

/-- The names that are known. -/
def headerNames : List Bytes :=
  ["version", "scheme", "algorithm", "key_id", "nonce_b64", "aad"].map bytes

/-- The bytes of an envelope. -/
def wire (headerBytes ciphertext : Bytes) : Bytes :=
  magic ++ (putBE 4 headerBytes.length ++ (headerBytes ++ ciphertext))

/-- `EncryptChunk`; `nonce` is what it draws. -/
def encryptChunk (aead : AEAD) (nonce : { b : Bytes // b.length = nonceSize }) (key : Key)
    (ctx : ChunkContext) (plaintext : Bytes) : Except Error Bytes := do
  validateKey key
  let aad ← buildAssociatedData ctx
  let header : Header :=
    { version := keyVersion
      scheme := schemeV1
      algorithm := algorithmAES256GCM
      keyID := key.keyID
      nonceB64 := Base64.encode nonce
      aad := aad }
  let headerBytes := Json.marshal header.fields
  ensure (headerBytes.length ≤ maxHeaderLength) (.message "header length exceeds 16384 bytes")
  pure (wire headerBytes (aead.aeadSeal key.key nonce plaintext aad))

/-- The error of a decoder that refuses a text. -/
def malformedHeader : Error := .message "decode header"

/-- `parseHeaderJSON`. -/
def parseHeaderJSON (json : Json.Reader) (headerBytes : Bytes) : Except Error Header := do
  let fields ← found (json.decode headerBytes) malformedHeader
  ensure (∀ f ∈ fields, f.1 ∈ headerNames) malformedHeader
  let version ← found (Json.getInt fields "version") malformedHeader
  let scheme ← found (Json.getString fields "scheme") malformedHeader
  let algorithm ← found (Json.getString fields "algorithm") malformedHeader
  let keyID ← found (Json.getString fields "key_id") malformedHeader
  let nonceB64 ← found (Json.getString fields "nonce_b64") malformedHeader
  let aad ← found (Json.getString fields "aad") malformedHeader
  ensure (version = keyVersion) (.unsupportedVersion "envelope version" version)
  ensure (scheme = schemeV1) (.unsupported "envelope scheme" scheme)
  ensure (algorithm = algorithmAES256GCM) (.unsupported "envelope algorithm" algorithm)
  ensure (keyID ≠ []) (.message "key_id is required")
  ensure (nonceB64 ≠ []) (.message "nonce_b64 is required")
  let nonce ← found (Base64.decode nonceB64) (.message "decode nonce")
  ensure (nonce.length = nonceSize) (.message "nonce must be 12 bytes")
  ensure (aad ≠ []) (.message "aad is required")
  pure { version, scheme, algorithm, keyID, nonceB64, aad }

/-- `parseEnvelope`: the header and the ciphertext. -/
def parseEnvelope (json : Json.Reader) (envelopeBytes : Bytes) : Except Error (Header × Bytes) := do
  ensure (magic.length + 4 ≤ envelopeBytes.length) (.message "envelope is truncated")
  ensure (magic <+: envelopeBytes) (.message "invalid magic")
  let headerLength := readBE ((envelopeBytes.drop magic.length).take 4)
  ensure (headerLength ≠ 0) (.message "header is missing")
  ensure (headerLength ≤ maxHeaderLength) (.message "header length exceeds 16384 bytes")
  let headerStart := magic.length + 4
  let headerEnd := headerStart + headerLength
  ensure (headerEnd ≤ envelopeBytes.length) (.message "envelope header is truncated")
  let headerBytes := (envelopeBytes.drop headerStart).take headerLength
  ensure (utf8Valid headerBytes = true) (.message "header is not valid UTF-8")
  let ciphertext := envelopeBytes.drop headerEnd
  ensure (ciphertext ≠ []) (.message "ciphertext is missing")
  let header ← parseHeaderJSON json headerBytes
  pure (header, ciphertext)

/-- `DecryptChunk`. -/
def decryptChunk (aead : AEAD) (json : Json.Reader) (key : Key) (ctx : ChunkContext)
    (envelopeBytes : Bytes) : Except Error Bytes := do
  validateKey key
  let (header, ciphertext) ← parseEnvelope json envelopeBytes
  ensure (header.keyID = key.keyID) (.message "key_id does not match header")
  let expectedAAD ← buildAssociatedData ctx
  ensure (header.aad = expectedAAD)
    (.message "associated data does not match expected metadata")
  let nonce ← found (Base64.decode header.nonceB64) (.message "decode nonce")
  found (aead.aeadOpen key.key nonce ciphertext expectedAAD) (.message "decrypt chunk")

/-! ### Headers -/

/-- The header of a chunk. -/
def chunkHeader (keyID nonce aad : Bytes) : Header :=
  ⟨keyVersion, schemeV1, algorithmAES256GCM, keyID, Base64.encode nonce, aad⟩

theorem names_header (h : Header) : Json.Names (h.fields.map (·.1)) := by
  show Json.Names headerNames
  exact ⟨by decide +kernel, by decide +kernel⟩

/-- **The header that arrives** has its strings as JSON keeps them. -/
theorem parseHeaderJSON_marshal (json : Json.Reader) {keyID nonce aad : Bytes}
    (hnonce : nonce.length = nonceSize) (hid : keyID ≠ []) (haad : aad ≠ []) :
    parseHeaderJSON json (Json.marshal (chunkHeader keyID nonce aad).fields) =
      .ok (chunkHeader (Json.coerce keyID) nonce (Json.coerce aad)) := by
  have hnames := names_header (chunkHeader keyID nonce aad)
  have hknown : ∀ f ∈ Json.transported (chunkHeader keyID nonce aad).fields, f.1 ∈ headerNames :=
    fun f hf => hnames.mem hf
  have hscheme : Json.coerce schemeV1 = schemeV1 := by decide +kernel
  have halgorithm : Json.coerce algorithmAES256GCM = algorithmAES256GCM := by decide +kernel
  have hnonceB64 : Json.coerce (Base64.encode nonce) = Base64.encode nonce :=
    Json.coerce_eq_self (Json.utf8Valid_ascii fun _ hc => (Base64.printable_encode hc).2)
  have hne : Base64.encode nonce ≠ [] := fun hnil => by
    rw [Base64.encode_eq_nil hnil] at hnonce
    cases hnonce
  have hfields : (bytes "version", .int keyVersion) ∈ (chunkHeader keyID nonce aad).fields ∧
      (bytes "scheme", .str schemeV1) ∈ (chunkHeader keyID nonce aad).fields ∧
      (bytes "algorithm", .str algorithmAES256GCM) ∈ (chunkHeader keyID nonce aad).fields ∧
      (bytes "key_id", .str keyID) ∈ (chunkHeader keyID nonce aad).fields ∧
      (bytes "nonce_b64", .str (Base64.encode nonce)) ∈ (chunkHeader keyID nonce aad).fields ∧
      (bytes "aad", .str aad) ∈ (chunkHeader keyID nonce aad).fields := by
    simp [Header.fields, chunkHeader]
  obtain ⟨hf1, hf2, hf3, hf4, hf5, hf6⟩ := hfields
  simp only [parseHeaderJSON, json.decode_marshal, bind_ok, found_ok, ensure_ok, pure_ok]
  refine ⟨_, rfl, (), hknown, _, hnames.getInt hf1, _, hnames.getString hf2, _,
    hnames.getString hf3, _, hnames.getString hf4, _, hnames.getString hf5, _,
    hnames.getString hf6, (), rfl, (), hscheme, (), halgorithm, (), Json.coerce_ne_nil hid, (), ?_⟩
  rw [hscheme, halgorithm, hnonceB64]
  exact ⟨hne, nonce, Base64.decode_encode nonce, (), hnonce, (), Json.coerce_ne_nil haad, rfl⟩

/-! ### Envelopes -/

/-- **An envelope is taken apart** into its header and its ciphertext. -/
theorem parseEnvelope_wire (json : Json.Reader) {headerBytes ciphertext : Bytes} {h : Header}
    (hne : headerBytes ≠ []) (hlen : headerBytes.length ≤ maxHeaderLength)
    (hutf8 : utf8Valid headerBytes = true) (hcipher : ciphertext ≠ [])
    (hparse : parseHeaderJSON json headerBytes = .ok h) :
    parseEnvelope json (wire headerBytes ciphertext) = .ok (h, ciphertext) := by
  have hsize : headerBytes.length < 256 ^ 4 := lt_of_le_of_lt hlen (by decide)
  have hdrop : (wire headerBytes ciphertext).drop magic.length =
      putBE 4 headerBytes.length ++ (headerBytes ++ ciphertext) := List.drop_left
  have hstart : (wire headerBytes ciphertext).drop (magic.length + 4) =
      headerBytes ++ ciphertext := by
    rw [← List.drop_drop, hdrop, drop_putBE]
  have hend : (wire headerBytes ciphertext).drop (magic.length + 4 + headerBytes.length) =
      ciphertext := by
    rw [← List.drop_drop, hstart, List.drop_left]
  have hlength : (wire headerBytes ciphertext).length =
      magic.length + 4 + headerBytes.length + ciphertext.length := by
    simp only [wire, List.length_append, length_putBE]
    omega
  have hpos := List.length_pos_iff.mpr hne
  simp only [parseEnvelope, hdrop, readBE_take_putBE hsize, hstart, hend, List.take_left, hlength,
    bind_ok, ensure_ok, pure_ok]
  exact ⟨(), by omega, (), List.prefix_append _ _, (), by omega, (), hlen, (), by omega, (), hutf8,
    (), hcipher, h, hparse, rfl⟩

theorem validateKey_ok {key : Key} {u : Unit} (h : validateKey key = .ok u) :
    key.keyID ≠ [] ∧ key.key.length = keySize := by
  simp only [validateKey, bind_ok, ensure_ok] at h
  obtain ⟨-, -, -, -, -, -, -, hid, hkey⟩ := h
  exact ⟨hid, hkey⟩

theorem buildAssociatedData_ok {ctx : ChunkContext} {aad : Bytes}
    (h : buildAssociatedData ctx = .ok aad) : aad = ctx.aad := by
  simp only [buildAssociatedData, bind_ok, ensure_ok, pure_ok] at h
  obtain ⟨-, -, -, -, -, -, -, -, h⟩ := h
  exact h.symm

/-- The strings of a context are UTF-8. -/
structure ChunkContext.UTF8 (ctx : ChunkContext) : Prop where
  incidentID : utf8Valid ctx.incidentID = true
  streamID : utf8Valid ctx.streamID = true
  mediaType : utf8Valid ctx.mediaType = true

theorem ChunkContext.UTF8.aad {ctx : ChunkContext} (h : ctx.UTF8) : utf8Valid ctx.aad = true := by
  have hindex : utf8Valid (Envelope.itoa ctx.chunkIndex) = true :=
    Json.utf8Valid_ascii fun b hb => Json.isNumeric_lt (Json.isNumeric_formatInt hb)
  refine Json.utf8Valid_append (Json.utf8Valid_append (by decide +kernel) h.incidentID) ?_
  refine Json.utf8Valid_append (Json.utf8Valid_append (by decide +kernel) h.streamID) ?_
  refine Json.utf8Valid_append (Json.utf8Valid_append (by decide +kernel) h.mediaType) ?_
  exact Json.utf8Valid_append (Json.utf8Valid_append (by decide +kernel) hindex)
    (by decide +kernel)

/-- A cipher without secrets: opening cuts off the tag. -/
def plainAEAD : AEAD where
  aeadSeal := fun _ _ plaintext _ => plaintext ++ List.replicate 16 0
  aeadOpen := fun _ _ ciphertext _ => some (ciphertext.take (ciphertext.length - 16))
  seal_ne_nil := by simp
  open_seal := by simp

/-- A key under an ID. -/
def sampleKey (keyID : Bytes) : Key :=
  ⟨keyVersion, schemeV1, algorithmAES256GCM, keyID, List.replicate keySize 1⟩

def sampleContext : ChunkContext := ⟨bytes "inc_1", bytes "str_1", bytes "audio", 1⟩

def sampleNonce : { b : Bytes // b.length = nonceSize } :=
  ⟨List.replicate nonceSize 2, List.length_replicate⟩

/-- A chunk that is sealed under a key ID. -/
def sampleEnvelope (keyID : Bytes) : Bytes :=
  (encryptChunk plainAEAD sampleNonce (sampleKey keyID) sampleContext
    (bytes "evidence")).toOption.getD []

end SafetyRecorder.ChunkEnvelope
