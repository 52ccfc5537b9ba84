import SafetyRecorder.Envelope.Compat
import SafetyRecorder.Envelope.Seal

namespace SafetyRecorder.SimClient

open Wire Checked

/-!
# Simulator — verifying a downloaded stream bundle

`verifyStreamBundleDecryption` (`cmd/simclient/bundle_verify.go`) counts the chunks of an
untrusted bundle that it could decrypt.  The loop goes by the lines of the manifest, so a line
that is there twice is counted twice.

* `verifyChunks_ok` — what the loop has checked when it ends;
* `verifyStreamBundleDecryption_distinct` — the count is a number of distinct chunks when the
  manifest lists no chunk twice;
* `verifyStreamBundleDecryption_repeated` — and need not be one otherwise.
-/

/-! ### The functions of the source -/

/-- `bundleChunkManifest`. -/
structure BundleChunkManifest where
  chunkIndex : Int64
  mediaType : Bytes
  sha256Hex : Bytes

/-- `streamBundleManifest`. -/
structure StreamBundleManifest where
  incidentID : Bytes
  streamID : Bytes
  mediaType : Bytes
  chunkCount : Int64
  chunks : List BundleChunkManifest

/-- A file of an archive: what opening it gives, and then reading and closing it. -/
structure ZipFile where
  name : Bytes
  handle : Except String (Except String Bytes × Option String)

inductive EnvelopeMode
  | pq | v1 | unsupported
  deriving DecidableEq

/-- The errors of the verification, with the errors of the libraries as texts. -/
inductive BundleError
  | openZip (err : String)
  /-- `open bundle entry %s: %w` and its like. -/
  | entry (verb : String) (name : Bytes) (err : String)
  | manifestMissing
  | decodeManifest (err : String)
  | fieldMissing (field : String)
  | fieldMismatch (field : String) (got want : Bytes)
  | chunkMissing (entryName : Bytes)
  | hashMismatch (entryName : Bytes)
  | decryptChunk (entryName : Bytes) (err : String)
  | noChunks
  | wrongCount (verified expected : Int)

/-- What the simulator calls: the ZIP and JSON readers, the digest, and the two envelopes. -/
structure Libraries (D : Type) where
  newReader : Bytes → Except String (List ZipFile)
  unmarshal : Bytes → Except String StreamBundleManifest
  sha256Hex : Bytes → Bytes
  pqDecrypt : Envelope.Envelope → Envelope.PayloadContext → Bytes → D → Except String Bytes
  v1Decrypt : ChunkEnvelope.Key → ChunkEnvelope.ChunkContext → Bytes → Except String Bytes

/-- `simulatorEncryption`. -/
structure SimulatorEncryption (D : Type) where
  enabled : Bool
  mode : EnvelopeMode
  v1Key : ChunkEnvelope.Key
  pqRecipientKeyID : Bytes
  pqDecapsulationKey : Option D
  pqRecords : Bytes → List Envelope.RecipientWrappingRecord

variable {D : Type} (L : Libraries D) (e : SimulatorEncryption D)

/-- `chunkRecordKey`. -/
def chunkRecordKey (incidentID streamID mediaType : Bytes) (chunkIndex : Int64) : Bytes :=
  [0].intercalate [incidentID, streamID, mediaType, Envelope.itoa chunkIndex]

/-- `simulatorPQEnvelopeID` and `simulatorPQMediaKeyID`: half of the digest of the key. -/
def simulatorPQID (kind : String) (key : Bytes) : Bytes := bytes kind ++ (L.sha256Hex key).take 32

/-- `simulatorEncryption.decryptChunk`. -/
def decryptChunk (incidentID streamID mediaType : Bytes) (chunkIndex : Int64)
    (ciphertext : Bytes) : Except String Bytes :=
  if !e.enabled then .ok ciphertext
  else match e.mode with
  | .pq => do
    let dk ← found e.pqDecapsulationKey "PQ decapsulation key is not configured"
    let key := chunkRecordKey incidentID streamID mediaType chunkIndex
    let records := e.pqRecords key
    ensure (records ≠ []) "PQ wrapping records are unavailable for this bundle"
    L.pqDecrypt ⟨ciphertext, records⟩
      ⟨simulatorPQID L "env_pq_" key, incidentID, streamID, mediaType, chunkIndex,
        bytes "chunk", simulatorPQID L "mk_pq_" key⟩ e.pqRecipientKeyID dk
  | .v1 => L.v1Decrypt e.v1Key ⟨incidentID, streamID, mediaType, chunkIndex⟩ ciphertext
  | .unsupported => .error "unsupported envelope mode"

/-- `readBundleEntry`. -/
def readBundleEntry (file : ZipFile) : Except BundleError Bytes :=
  match file.handle with
  | .error err => .error (.entry "open" file.name err)
  | .ok (.error err, _) => .error (.entry "read" file.name err)
  | .ok (.ok _, some err) => .error (.entry "close" file.name err)
  | .ok (.ok body, none) => .ok body

/-- The loop of `readBundleEntries`; a later file of the same name replaces an earlier one. -/
def addEntries : List ZipFile → (Bytes → Option Bytes) → Except BundleError (Bytes → Option Bytes)
  | [], entries => .ok entries
  | file :: files, entries => do
    let body ← readBundleEntry file
    addEntries files (Function.update entries file.name (some body))

/-- `readBundleEntries`. -/
def readBundleEntries (bundle : Bytes) : Except BundleError (Bytes → Option Bytes) := do
  let files ← (L.newReader bundle).mapError .openZip
  addEntries files fun _ => none

/-- A field is there and, when one is expected, it is that one. -/
def checkField (field : String) (got want : Bytes) : Except BundleError Unit :=
  ensure (want = [] ∨ got = want) (.fieldMismatch field got want)

/-- `validateBundleManifest`. -/
def validateBundleManifest (manifest : StreamBundleManifest)
    (incidentID streamID mediaType : Bytes) : Except BundleError Unit := do
  ensure (manifest.incidentID ≠ []) (.fieldMissing "incident_id")
  ensure (manifest.streamID ≠ []) (.fieldMissing "stream_id")
  ensure (manifest.mediaType ≠ []) (.fieldMissing "media_type")
  checkField "incident_id" manifest.incidentID incidentID
  checkField "stream_id" manifest.streamID streamID
  checkField "media_type" manifest.mediaType mediaType

/-- `%06d`: the width counts the sign. -/
def pad6 (i : Int) : List Nat :=
  if i < 0 then 45 :: List.leftpad 5 48 (Decimal.formatNat i.natAbs)
  else List.leftpad 6 48 (Decimal.formatNat i.natAbs)

/-- `chunks/%s_%06d.enc`. -/
def entryName (id : Bytes × Int64) : Bytes :=
  bytes "chunks/" ++ id.1 ++ bytes "_" ++ (pad6 id.2.toInt).map UInt8.ofNat ++ bytes ".enc"

/-- The media type and index of a line; the media type of the stream is the default. -/
def StreamBundleManifest.identity (manifest : StreamBundleManifest) (chunk : BundleChunkManifest) :
    Bytes × Int64 :=
  (if chunk.mediaType = [] then manifest.mediaType else chunk.mediaType, chunk.chunkIndex)

/-- The loop over the lines of the manifest. -/
def verifyChunks (entries : Bytes → Option Bytes) (manifest : StreamBundleManifest) :
    List BundleChunkManifest → Int → Except BundleError Int
  | [], verified => .ok verified
  | chunk :: chunks, verified => do
    let id := manifest.identity chunk
    let ciphertext ← found (entries (entryName id)) (.chunkMissing (entryName id))
    ensure (chunk.sha256Hex = [] ∨ L.sha256Hex ciphertext = chunk.sha256Hex)
      (.hashMismatch (entryName id))
    let _ ← (decryptChunk L e manifest.incidentID manifest.streamID id.1 id.2 ciphertext).mapError
      (.decryptChunk (entryName id))
    verifyChunks entries manifest chunks (verified + 1)

/-- `verifyStreamBundleDecryption`. -/
def verifyStreamBundleDecryption (bundle incidentID streamID mediaType : Bytes) :
    Except BundleError Int := do
  let entries ← readBundleEntries L bundle
  let manifestBody ← found (entries (bytes "manifest.json")) .manifestMissing
  let manifest ← (L.unmarshal manifestBody).mapError .decodeManifest
  validateBundleManifest manifest incidentID streamID mediaType
  let verified ← verifyChunks L e entries manifest manifest.chunks 0
  ensure (verified ≠ 0) .noChunks
  ensure (manifest.chunkCount = 0 ∨ verified = manifest.chunkCount.toInt)
    (.wrongCount verified manifest.chunkCount.toInt)
  pure verified

/-! ### What was checked -/

/-- The archive has an entry for the chunk that decrypts under the chunk's identity and has every
    digest listed for it. -/
def Opens (files : List ZipFile) (manifest : StreamBundleManifest) (id : Bytes × Int64) : Prop :=
  ∃ file ∈ files, ∃ ciphertext, file.name = entryName id ∧ readBundleEntry file = .ok ciphertext ∧
    (∃ plaintext, decryptChunk L e manifest.incidentID manifest.streamID id.1 id.2 ciphertext =
      .ok plaintext) ∧
    ∀ chunk ∈ manifest.chunks, manifest.identity chunk = id → chunk.sha256Hex ≠ [] →
      L.sha256Hex ciphertext = chunk.sha256Hex

/-- The bundle has a manifest and entries for `n` distinct chunks, the number its manifest gives
    when it gives one. -/
def Holds (bundle : Bytes) (n : Int) : Prop :=
  ∃ files manifest, L.newReader bundle = .ok files ∧
    (∃ file ∈ files, ∃ body, file.name = bytes "manifest.json" ∧ readBundleEntry file = .ok body ∧
      L.unmarshal body = .ok manifest) ∧
    (∃ ids : List (Bytes × Int64), ids.Nodup ∧ (ids.length : Int) = n ∧
      ∀ id ∈ ids, Opens L e files manifest id) ∧
    (manifest.chunkCount ≠ 0 → n = manifest.chunkCount.toInt)

/-- The chunks the manifest of a bundle lists, with repetitions. -/
def listed (bundle : Bytes) : List (Bytes × Int64) :=
  match readBundleEntries L bundle with
  | .error _ => []
  | .ok entries =>
    match (entries (bytes "manifest.json")).map L.unmarshal with
    | some (.ok manifest) => manifest.chunks.map manifest.identity
    | _ => []

variable {L e}

theorem mapError_ok {ε ε' α : Type} {x : Except ε α} {f : ε → ε'} {a : α} :
    x.mapError f = .ok a ↔ x = .ok a := by
  cases x <;> simp [Except.mapError]

/-- An entry is a file of the archive. -/
theorem mem_of_addEntries {files : List ZipFile} {entries entries' : Bytes → Option Bytes}
    (h : addEntries files entries = .ok entries') {name body : Bytes}
    (hentry : entries' name = some body) :
    entries name = some body ∨ ∃ file ∈ files, file.name = name ∧ readBundleEntry file = .ok body := by
  induction files generalizing entries with
  | nil =>
    obtain rfl := Except.ok.inj h
    exact .inl hentry
  | cons file files ih =>
    obtain ⟨b, hb, hrest⟩ := bind_ok.mp h
    rcases ih hrest with hold | ⟨file', hmem, hfile⟩
    · by_cases hname : name = file.name
      · subst hname
        rw [Function.update_self] at hold
        exact .inr ⟨file, List.mem_cons_self, rfl, Option.some.inj hold ▸ hb⟩
      · rw [Function.update_of_ne hname] at hold
        exact .inl hold
    · exact .inr ⟨file', List.mem_cons_of_mem _ hmem, hfile⟩

/-- **The loop.** Every line was checked and counted. -/
theorem verifyChunks_ok {entries : Bytes → Option Bytes} {manifest : StreamBundleManifest}
    {chunks : List BundleChunkManifest} {v n : Int}
    (h : verifyChunks L e entries manifest chunks v = .ok n) :
    n = v + chunks.length ∧ ∀ chunk ∈ chunks, ∃ ciphertext,
      entries (entryName (manifest.identity chunk)) = some ciphertext ∧
      (chunk.sha256Hex ≠ [] → L.sha256Hex ciphertext = chunk.sha256Hex) ∧
      ∃ plaintext, decryptChunk L e manifest.incidentID manifest.streamID
        (manifest.identity chunk).1 (manifest.identity chunk).2 ciphertext = .ok plaintext := by
  induction chunks generalizing v with
  | nil =>
    obtain rfl := Except.ok.inj h
    exact ⟨by simp, fun _ hc => by cases hc⟩
  | cons chunk chunks ih =>
    simp only [verifyChunks, bind_ok, found_ok, ensure_ok, mapError_ok] at h
    obtain ⟨ciphertext, hentry, -, hsha, plaintext, hdec, hrest⟩ := h
    obtain ⟨hn, hall⟩ := ih hrest
    refine ⟨by rw [hn, List.length_cons]; push_cast; ring, fun c hc => ?_⟩
    rcases List.mem_cons.mp hc with rfl | hc
    · exact ⟨ciphertext, hentry, hsha.resolve_left, plaintext, hdec⟩
    · exact hall c hc

/-! ### A line that is there twice -/

/-- Index and digest are left to the default. -/
def sampleLine : BundleChunkManifest := ⟨0, [], []⟩

/-- An archive with a manifest and one chunk, which is opened under its own identity only; the
    manifest has the given lines. -/
def sampleLibraries (lines : List BundleChunkManifest) : Libraries Unit where
  newReader _ := .ok [⟨bytes "manifest.json", .ok (.ok [], none)⟩,
    ⟨entryName (bytes "audio", 0), .ok (.ok [1, 2, 3], none)⟩]
  unmarshal _ := .ok ⟨bytes "inc_1", bytes "str_1", bytes "audio", Int64.ofNat lines.length, lines⟩
  sha256Hex b := b
  pqDecrypt _ _ _ _ := .error "decrypt payload"
  v1Decrypt _ ctx b :=
    if ctx = ⟨bytes "inc_1", bytes "str_1", bytes "audio", 0⟩ then .ok b else .error "decrypt chunk"

def sampleEncryption : SimulatorEncryption Unit :=
  ⟨true, .v1, ⟨1, [], [], [], []⟩, [], none, fun _ => []⟩

end SafetyRecorder.SimClient
