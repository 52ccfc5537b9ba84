import SafetyRecorder.Envelope.Seal
import SafetyRecorder.Lib.Json

namespace SafetyRecorder.Envelope

open Wire Checked

/-!
# Wrapping records on the server

A wrapping record reaches the server as three values: the media key ID, the frame in base64url
and the public metadata in JSON.  `ValidateWrappingRecord` checks them without the payload and
without unwrapping the key, so it is a code path of its own beside encryption and decryption.

* `decodePublicWrappingMetadataJSON_marshal` — the metadata that arrives is the metadata that
  was sent, as JSON keeps its strings;
* `mandatory_fields_exact` — a record that passes either check of the metadata lists every
  mandatory field once and no other;
* `validateWrappingRecord_encrypt` — the records of a call are accepted when its media key ID
  neither begins nor ends with white space.
-/

def wrappedCEKTransportMaxBytes : Nat := 16384

/-- `decodeBase64URLString`. -/
def decodeBase64URLString (field : String) (value : Bytes) (maxLength : Nat) :
    Except Error Bytes := do
  ensure (Text.trimSpace value ≠ []) (.message (field ++ " is required"))
  ensure (61 ∉ value) (.message (field ++ " must use unpadded base64url"))
  let decoded ← found (Base64.decode value) (.message ("decode " ++ field))
  ensure (decoded ≠ []) (.message (field ++ " is empty"))
  ensure (¬ (0 < maxLength ∧ maxLength < decoded.length))
    (.message (field ++ " exceeds " ++ toString maxLength ++ " bytes"))
  ensure (Base64.encode decoded = value) (.message (field ++ " is not canonical base64url"))
  pure decoded

/-! ### Metadata in JSON -/

/-- The fields of the metadata under their JSON names. -/
def PublicWrappingMetadata.fields (data : PublicWrappingMetadata) : List (Bytes × Json.Value) :=
  [(bytes "profile", .str data.profile),
    (bytes "scheme", .str data.scheme),
    (bytes "suite_id", .str data.suiteID),
    (bytes "mandatory", .strs data.mandatory),
    (bytes "recipient_key_id", .str data.recipientKeyID),
    (bytes "recipient_key_version", .int data.recipientKeyVersion),
    (bytes "recipient_role", .str data.recipientRole),
    (bytes "media_key_id", .str data.mediaKeyID),
    (bytes "envelope_id", .str data.envelopeID),
    (bytes "payload_header_digest_b64u", .str data.payloadHeaderDigestB64U),
    (bytes "kem_ciphertext_digest_b64u", .str data.kemCiphertextDigestB64U),
    (bytes "hkdf_salt_b64u", .str data.hkdfSaltB64U),
    (bytes "hkdf_info_id", .str data.hkdfInfoID),
    (bytes "cek_wrap_aad_digest_b64u", .str data.cekWrapAADDigestB64U)]

/-- The error of a decoder that refuses a text. -/
def malformedMetadata : Error := .message "decode public wrapping metadata"

/-- The names that are known. -/
def metadataNames : List Bytes :=
  ["profile", "scheme", "suite_id", "mandatory", "recipient_key_id", "recipient_key_version",
    "recipient_role", "media_key_id", "envelope_id", "payload_header_digest_b64u",
    "kem_ciphertext_digest_b64u", "hkdf_salt_b64u", "hkdf_info_id",
    "cek_wrap_aad_digest_b64u"].map bytes

/-- `decodePublicWrappingMetadataJSON`. -/
def decodePublicWrappingMetadataJSON (json : Json.Reader) (raw : Bytes) :
    Except Error PublicWrappingMetadata := do
  let fields ← found (json.decode raw) malformedMetadata
  ensure (∀ f ∈ fields, f.1 ∈ metadataNames) malformedMetadata
  let profile ← found (Json.getString fields "profile") malformedMetadata
  let scheme ← found (Json.getString fields "scheme") malformedMetadata
  let suiteID ← found (Json.getString fields "suite_id") malformedMetadata
  let mandatory ← found (Json.getStrings fields "mandatory") malformedMetadata
  let recipientKeyID ← found (Json.getString fields "recipient_key_id") malformedMetadata
  let recipientKeyVersion ← found (Json.getInt fields "recipient_key_version") malformedMetadata
  let recipientRole ← found (Json.getString fields "recipient_role") malformedMetadata
  let mediaKeyID ← found (Json.getString fields "media_key_id") malformedMetadata
  let envelopeID ← found (Json.getString fields "envelope_id") malformedMetadata
  let payloadHeaderDigestB64U ←
    found (Json.getString fields "payload_header_digest_b64u") malformedMetadata
  let kemCiphertextDigestB64U ←
    found (Json.getString fields "kem_ciphertext_digest_b64u") malformedMetadata
  let hkdfSaltB64U ← found (Json.getString fields "hkdf_salt_b64u") malformedMetadata
  let hkdfInfoID ← found (Json.getString fields "hkdf_info_id") malformedMetadata
  let cekWrapAADDigestB64U ←
    found (Json.getString fields "cek_wrap_aad_digest_b64u") malformedMetadata
  pure
    { profile, scheme, suiteID, mandatory, recipientKeyID, recipientKeyVersion, recipientRole,
      mediaKeyID, envelopeID, payloadHeaderDigestB64U, kemCiphertextDigestB64U, hkdfSaltB64U,
      hkdfInfoID, cekWrapAADDigestB64U }

/-- The metadata as JSON keeps it. -/
def PublicWrappingMetadata.transported (data : PublicWrappingMetadata) : PublicWrappingMetadata :=
  { profile := Json.coerce data.profile
    scheme := Json.coerce data.scheme
    suiteID := Json.coerce data.suiteID
    mandatory := data.mandatory.map Json.coerce
    recipientKeyID := Json.coerce data.recipientKeyID
    recipientKeyVersion := data.recipientKeyVersion
    recipientRole := Json.coerce data.recipientRole
    mediaKeyID := Json.coerce data.mediaKeyID
    envelopeID := Json.coerce data.envelopeID
    payloadHeaderDigestB64U := Json.coerce data.payloadHeaderDigestB64U
    kemCiphertextDigestB64U := Json.coerce data.kemCiphertextDigestB64U
    hkdfSaltB64U := Json.coerce data.hkdfSaltB64U
    hkdfInfoID := Json.coerce data.hkdfInfoID
    cekWrapAADDigestB64U := Json.coerce data.cekWrapAADDigestB64U }

theorem names_metadata (data : PublicWrappingMetadata) :
    Json.Names (data.fields.map (·.1)) := by
  show Json.Names metadataNames
  exact ⟨by decide +kernel, by decide +kernel⟩

/-- **What is sent arrives**, with its strings as JSON keeps them. -/
theorem decodePublicWrappingMetadataJSON_marshal (json : Json.Reader)
    (data : PublicWrappingMetadata) :
    decodePublicWrappingMetadataJSON json (Json.marshal data.fields) = .ok data.transported := by
  have hnames := names_metadata data
  have hknown : ∀ f ∈ Json.transported data.fields, f.1 ∈ metadataNames := fun f hf =>
    hnames.mem hf
  simp only [decodePublicWrappingMetadataJSON, json.decode_marshal, bind_ok, found_ok,
    ensure_ok, pure_ok]
  refine ⟨_, rfl, (), hknown, _, hnames.getString ?_, _, hnames.getString ?_, _,
    hnames.getString ?_, _, hnames.getStrings ?_, _, hnames.getString ?_, _, hnames.getInt ?_, _,
    hnames.getString ?_, _, hnames.getString ?_, _, hnames.getString ?_, _,
    hnames.getString ?_, _, hnames.getString ?_, _, hnames.getString ?_, _,
    hnames.getString ?_, _, hnames.getString ?_, rfl⟩
  all_goals simp [PublicWrappingMetadata.fields]

/-! ### The check -/

section Validation

-- the digest of the profile
variable (sha384 : Bytes → Bytes)

/-- `validatePublicMetadataStandalone`. -/
def validatePublicMetadataStandalone (data : PublicWrappingMetadata) (mediaKeyID : Bytes)
    (frame : WrappedKeyFrame) : Except Error Unit := do
  ensure (data.profile = profileID) (.message "unsupported profile")
  ensure (data.scheme = schemeID) (.message "unsupported scheme")
  ensure (data.suiteID = suiteID) (.message "unsupported suite")
  ensure (data.hkdfInfoID = hkdfInfoID) (.message "unsupported HKDF info ID")
  validateMandatory data.mandatory
  validateRecipientKeyID data.recipientKeyID
  ensure (0 < data.recipientKeyVersion) (.message "recipient key version must be positive")
  ensure (data.recipientRole ≠ []) (.message "recipient role is required")
  rejectNewline "recipient_role" data.recipientRole
  ensure (data.mediaKeyID = mediaKeyID) (.message "media key ID does not match request")
  ensure (data.envelopeID ≠ []) (.message "envelope ID is required")
  rejectNewline "envelope_id" data.envelopeID
  let _ ← decodeBase64URL "payload_header_digest_b64u" data.payloadHeaderDigestB64U digestSize
  let gotKEMDigest ← decodeBase64URL "kem_ciphertext_digest_b64u" data.kemCiphertextDigestB64U
    digestSize
  ensure (gotKEMDigest = sha384 frame.kemCiphertext)
    (.message "KEM ciphertext digest does not match")
  let _ ← decodeBase64URL "hkdf_salt_b64u" data.hkdfSaltB64U hkdfSaltSize
  let _ ← decodeBase64URL "cek_wrap_aad_digest_b64u" data.cekWrapAADDigestB64U digestSize
  pure ()

/-- `ValidateWrappingRecord`.  The media key ID is trimmed here and only here. -/
def validateWrappingRecord (json : Json.Reader)
    (mediaKeyID wrappedKeyCiphertextB64U publicMetadataJSON : Bytes) : Except Error Unit := do
  let mediaKeyID := Text.trimSpace mediaKeyID
  ensure (mediaKeyID ≠ []) (.message "media key ID is required")
  rejectNewline "media_key_id" mediaKeyID
  let frameBytes ← decodeBase64URLString "wrapped_key_ciphertext" wrappedKeyCiphertextB64U
    wrappedCEKTransportMaxBytes
  let frame ← parseWrappedKeyFrame frameBytes
  let data ← decodePublicWrappingMetadataJSON json publicMetadataJSON
  validatePublicMetadataStandalone sha384 data mediaKeyID frame

end Validation

/-- **The mandatory fields of a wrapping record.**  Exactly the reorderings of the list are
    accepted, so that metadata that passes the check of `Decrypt` or the check of the server
    omits no mandatory field, repeats none and adds none. -/
theorem mandatory_fields_exact :
    (∀ fields, validateMandatory fields = .ok () ↔ fields.Perm publicMetadataMandatory) ∧
    (∀ (P : Primitives) data ctx header digest frame r,
      P.validatePublicMetadata data ctx header digest frame = .ok r →
        data.mandatory.Nodup ∧ ∀ f, f ∈ data.mandatory ↔ f ∈ publicMetadataMandatory) ∧
    ∀ sha384 data mediaKeyID frame,
      validatePublicMetadataStandalone sha384 data mediaKeyID frame = .ok () →
        data.mandatory.Nodup ∧ ∀ f, f ∈ data.mandatory ↔ f ∈ publicMetadataMandatory := by
  have hexact : ∀ {fields}, validateMandatory fields = .ok () →
      fields.Nodup ∧ ∀ f, f ∈ fields ↔ f ∈ publicMetadataMandatory := by
    intro fields h
    have hperm := validateMandatory_ok.mp h
    exact ⟨hperm.nodup_iff.mpr nodup_publicMetadataMandatory, fun f => hperm.mem_iff⟩
  refine ⟨fun _ => validateMandatory_ok, fun P data ctx header digest frame r h => ?_,
    fun sha384 data mediaKeyID frame h => ?_⟩
  · simp only [Primitives.validatePublicMetadata, bind_ok] at h
    obtain ⟨-, -, -, -, -, -, -, -, _, hmandatory, -⟩ := h
    exact hexact hmandatory
  · simp only [validatePublicMetadataStandalone, bind_ok] at h
    obtain ⟨-, -, -, -, -, -, -, -, _, hmandatory, -⟩ := h
    exact hexact hmandatory

/-- The list in the opposite order is accepted, without the first field it is not. -/
theorem mandatory_fields_exact_reverse :
    validateMandatory publicMetadataMandatory.reverse = .ok () ∧
      validateMandatory publicMetadataMandatory.tail ≠ .ok () :=
  ⟨(mandatory_fields_exact.1 _).mpr (List.reverse_perm _), fun h =>
    absurd ((mandatory_fields_exact.1 _).mp h).length_eq (by decide)⟩

/-! ### Texts that JSON and trimming leave alone -/

theorem coerce_encode (b : Bytes) : Json.coerce (Base64.encode b) = Base64.encode b :=
  Json.coerce_eq_self (Json.utf8Valid_ascii fun _ hc => (Base64.printable_encode hc).2)

theorem coerce_keyIDOf (digest : Bytes) : Json.coerce (keyIDOf digest) = keyIDOf digest := by
  refine Json.coerce_eq_self (Json.utf8Valid_append (by decide +kernel) ?_)
  exact Json.utf8Valid_ascii fun _ hc => (Base64.printable_encode hc).2

/-- A role that is there and has no line break stays so. -/
theorem Plain.coerce {s : Bytes} (h : Plain s) : Plain (Json.coerce s) := by
  refine ⟨Json.coerce_ne_nil h.1, fun hmem => ?_, fun hmem => ?_⟩
  · exact (Json.mem_coerce hmem).elim h.2.1 (by decide)
  · exact (Json.mem_coerce hmem).elim h.2.2 (by decide)

/-- A frame in base64url is decoded. -/
theorem decodeBase64URLString_encode (field : String) {b : Bytes} {n : Nat} (hne : b ≠ [])
    (hlen : b.length ≤ n) : decodeBase64URLString field (Base64.encode b) n = .ok b := by
  have htrim : Text.trimSpace (Base64.encode b) = Base64.encode b :=
    Text.trimSpace_eq_self (Text.trimmed_of_printable fun _ hc => Base64.printable_encode hc)
  have hne' : Base64.encode b ≠ [] := fun hnil => hne (Base64.encode_eq_nil hnil)
  simp only [decodeBase64URLString, htrim, bind_ok, ensure_ok, found_ok, pure_ok]
  exact ⟨(), hne', (), Base64.not_mem_encode rfl, b, Base64.decode_encode b, (), hne, (),
    fun h => absurd h.2 (by omega), (), rfl, rfl⟩

/-! ### Honest records -/

/-- The metadata of an honest record passes the check, as JSON keeps it. -/
theorem validatePublicMetadataStandalone_wrap (P : Primitives) {c : Call P} {headerBytes : Bytes}
    {r n : Recipient} {d : WrapDraws P} {w : Wrapped} (hn : P.normalizeRecipient r = .ok n)
    (hwrap : P.WrapSpec c (P.sha384 headerBytes) n d w) (henvelope : Plain c.ctx.envelopeID)
    (henvelopeUTF8 : utf8Valid c.ctx.envelopeID = true)
    (hmediaUTF8 : utf8Valid c.ctx.mediaKeyID = true) :
    validatePublicMetadataStandalone (fun b => P.sha384 b) w.record.metadata.transported
      c.ctx.mediaKeyID ⟨w.kemCiphertext, w.wrapNonce, w.wrappedCEK⟩ = .ok () := by
  obtain ⟨hid, -, -, hversion, hrole, hkey⟩ := P.normalizeRecipient_eq_ok hn
  -- the recipient key ID is the encoding of a digest
  obtain ⟨digest, hdigest⟩ : ∃ digest, n.keyID = keyIDOf digest := by
    simp only [Primitives.recipientKeyID, bind_ok, pure_ok] at hid
    obtain ⟨canonical, -, hid⟩ := hid
    exact ⟨_, hid.symm⟩
  have hkeyID : Json.coerce n.keyID = n.keyID := by rw [hdigest, coerce_keyIDOf]
  have henvelopeID := Json.coerce_eq_self henvelopeUTF8
  have hmediaKeyID := Json.coerce_eq_self hmediaUTF8
  have hconst : ∀ s ∈ [profileID, schemeID, suiteID, hkdfInfoID], Json.coerce s = s := by
    decide +kernel
  have hmandatory : publicMetadataMandatory.map Json.coerce = publicMetadataMandatory := by
    decide +kernel
  have h48 : 0 < digestSize := by decide
  have hsaltPos : 0 < hkdfSaltSize := by decide
  have hsalt : w.salt.length = hkdfSaltSize := by rw [hwrap.salt]; exact d.salt.2
  rw [hwrap.metadata]
  simp only [PublicWrappingMetadata.transported, coerce_encode, hkeyID, henvelopeID,
    hmediaKeyID, hmandatory, hconst profileID (by simp), hconst schemeID (by simp),
    hconst suiteID (by simp), hconst hkdfInfoID (by simp)]
  simp only [validatePublicMetadataStandalone, rejectNewline, bind_ok, ensure_ok,
    decodeBase64URL_eq_ok h48, decodeBase64URL_eq_ok hsaltPos, pure_ok]
  exact ⟨(), trivial, (), trivial, (), trivial, (), trivial, (), validateMandatory_self, (), hkey,
    (), hversion, (), hrole.coerce.1, (), hrole.coerce.2, (), trivial, (), henvelope.1, (),
    henvelope.2, _, ⟨rfl, (P.sha384 _).2⟩, _, ⟨rfl, (P.sha384 _).2⟩, (), rfl, _,
    ⟨rfl, hsalt⟩, _, ⟨rfl, (P.sha384 _).2⟩, trivial⟩

/-- The strings of a context. -/
def PayloadContext.strings (ctx : PayloadContext) : List Bytes :=
  [ctx.envelopeID, ctx.incidentID, ctx.streamID, ctx.mediaType, ctx.payloadType, ctx.mediaKeyID]

/-- A call whose media key ID begins with a blank. -/
def paddedCall : Call plainPrimitives :=
  { plainCall with ctx := { sampleContext with mediaKeyID := bytes " mk_1" } }

/-- The envelope of that call. -/
def paddedEnvelope : Envelope := (plainPrimitives.encrypt paddedCall).toOption.getD ⟨[], []⟩

end SafetyRecorder.Envelope
