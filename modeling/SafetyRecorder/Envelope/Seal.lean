import SafetyRecorder.Envelope.Wrapping

namespace SafetyRecorder.Envelope

open Wire Checked

/-!
# Encryption and decryption

`Encrypt` seals a payload under a fresh content key and wraps that key for each recipient;
`Decrypt` finds the record of a recipient, checks its public metadata against the frame and the
context, unwraps the content key and opens the payload.

The primitives are a parameter (`Primitives`).  `encryptTrace` is the source's function with
its local variables kept, so that what an honest call sealed, derived and hashed can be spoken
of; the envelope is the part of it that leaves the function.

* `wrapRecipient_eq_ok`, `encryptTrace_eq_ok` — everything a successful call computed;
* `validatePublicMetadata_eq_ok` — the records whose metadata is accepted;
* `decrypt_encrypt` — every recipient of a call gets the plaintext back, and the server accepts
  the frame.
-/

def maxRecipientsPerCEK : Nat := 16
def sharedKeySize : Nat := 32

/-- Bytes of a fixed length. -/
abbrev Sized (n : Nat) := { b : Bytes // b.length = n }

/-- The primitives the package builds on.  `Seed` is the randomness of an encapsulation. -/
structure Primitives where
  EncapsulationKey : Type
  DecapsulationKey : Type
  Seed : Type
  sha384 : Bytes → Sized digestSize
  /-- `mlkem.NewEncapsulationKey768`. -/
  newEncapsulationKey768 : Bytes → Option EncapsulationKey
  /-- The encoded encapsulation key that belongs to a decapsulation key. -/
  publicKey : DecapsulationKey → Bytes
  /-- `ek.Encapsulate`: the shared secret and the ciphertext. -/
  encapsulate : EncapsulationKey → Seed → Bytes × Bytes
  decapsulate : DecapsulationKey → Bytes → Option Bytes
  hkdfExtract : Bytes → Bytes → Bytes
  /-- `hkdf.Expand` to the size of a key. -/
  hkdfExpand : Bytes → Bytes → Sized cekSize
  /-- `aead.Seal` and `aead.Open` of AES-256-GCM. -/
  gcmSeal : (key nonce plaintext aad : Bytes) → Bytes
  gcmOpen : (key nonce ciphertext aad : Bytes) → Option Bytes

/-- What `Encrypt` draws for one recipient. -/
structure WrapDraws (P : Primitives) where
  seed : P.Seed
  salt : Sized hkdfSaltSize
  wrapNonce : Sized nonceSize

/-- What `Encrypt` draws: for the payload, and for the recipients by their place in the list. -/
structure Draws (P : Primitives) where
  cek : Sized cekSize
  payloadNonce : Sized nonceSize
  wraps : Nat → WrapDraws P

/-- A call of `Encrypt`. -/
structure Call (P : Primitives) where
  plaintext : Bytes
  ctx : PayloadContext
  recipients : List Recipient
  draws : Draws P

/-- What `Encrypt` computed for one recipient. -/
structure Wrapped where
  recipient : Recipient
  sharedSecret : Bytes
  kemCiphertext : Bytes
  salt : Bytes
  wrapNonce : Bytes
  info : Bytes
  kek : Bytes
  wrapAAD : Bytes
  wrappedCEK : Bytes
  record : RecipientWrappingRecord

/-- What `Encrypt` computed. -/
structure Trace where
  headerBytes : Bytes
  payloadCiphertext : Bytes
  payloadFrame : Bytes
  wraps : List Wrapped

/-- The part that is returned. -/
def Trace.envelope (t : Trace) : Envelope := ⟨t.payloadFrame, t.wraps.map (·.record)⟩

namespace Primitives

variable (P : Primitives)

/-! ### The functions of the source -/

/-- `RecipientKeyID`. -/
def recipientKeyID (encapsulationKey : Bytes) (keyVersion : Int64) : Except Error Bytes := do
  let canonical ← recipientKeyRecord encapsulationKey keyVersion
  pure (keyIDOf (P.sha384 canonical))

/-- `deriveKEK`. -/
def deriveKEK (sharedSecret salt info : Bytes) : Except Error Bytes := do
  ensure (sharedSecret.length = sharedKeySize)
    (.message "ML-KEM shared secret has unsupported size")
  ensure (salt.length = hkdfSaltSize) (.message "HKDF salt has unsupported size")
  pure (P.hkdfExpand (P.hkdfExtract sharedSecret salt) info)

/-- `normalizeRecipient`. -/
def normalizeRecipient (r : Recipient) : Except Error Recipient := do
  ensure (0 < r.keyVersion) (.message "recipient key version must be positive")
  ensure (r.role ≠ []) (.message "recipient role is required")
  rejectNewline "recipient role" r.role
  ensure (r.encapsulationKey.length = encapsulationKeySize768)
    (.message "recipient encapsulation key must be 1184 bytes")
  let expectedKeyID ← P.recipientKeyID r.encapsulationKey r.keyVersion
  let r := if r.keyID = [] then { r with keyID := expectedKeyID } else r
  ensure (r.keyID = expectedKeyID)
    (.message "recipient key ID does not match encapsulation key")
  validateRecipientKeyID r.keyID
  pure r

/-- The body of the loop over the recipients, for a normalised one. -/
def wrapRecipient (c : Call P) (payloadHeaderDigest : Bytes) (r : Recipient)
    (draws : WrapDraws P) : Except Error Wrapped := do
  let ek ← found (P.newEncapsulationKey768 r.encapsulationKey)
    (.message "parse recipient encapsulation key")
  let (sharedSecret, kemCiphertext) := P.encapsulate ek draws.seed
  ensure (sharedSecret.length = sharedKeySize)
    (.message "ML-KEM shared secret has unsupported size")
  ensure (kemCiphertext.length = ciphertextSize768)
    (.message "ML-KEM ciphertext has unsupported size")
  let kemCiphertextDigest : Bytes := P.sha384 kemCiphertext
  let info ← hkdfInfo c.ctx.envelopeID r.keyID kemCiphertextDigest payloadHeaderDigest
  let kek ← P.deriveKEK sharedSecret draws.salt info
  let wrapAAD ← cekWrapAAD c.ctx c.ctx.envelopeID r payloadHeaderDigest
  let wrapAADDigest : Bytes := P.sha384 wrapAAD
  let wrappedCEK := P.gcmSeal kek draws.wrapNonce c.draws.cek wrapAAD
  let wrappedFrame ← encodeWrappedKeyFrame ⟨kemCiphertext, draws.wrapNonce, wrappedCEK⟩
  let metadata : PublicWrappingMetadata :=
    { profile := profileID
      scheme := schemeID
      suiteID := suiteID
      mandatory := publicMetadataMandatory
      recipientKeyID := r.keyID
      recipientKeyVersion := r.keyVersion
      recipientRole := r.role
      mediaKeyID := c.ctx.mediaKeyID
      envelopeID := c.ctx.envelopeID
      payloadHeaderDigestB64U := Base64.encode payloadHeaderDigest
      kemCiphertextDigestB64U := Base64.encode kemCiphertextDigest
      hkdfSaltB64U := Base64.encode draws.salt
      hkdfInfoID := hkdfInfoID
      cekWrapAADDigestB64U := Base64.encode wrapAADDigest }
  pure
    { recipient := r, sharedSecret := sharedSecret, kemCiphertext := kemCiphertext
      salt := draws.salt, wrapNonce := draws.wrapNonce, info := info, kek := kek
      wrapAAD := wrapAAD, wrappedCEK := wrappedCEK, record := ⟨metadata, wrappedFrame⟩ }

/-- The loop over the recipients from the `i`-th on; `seen` holds the key IDs so far. -/
def wrapRecipients (c : Call P) (payloadHeaderDigest : Bytes) :
    List Recipient → Nat → List Bytes → Except Error (List Wrapped)
  | [], _, _ => pure []
  | r :: rs, i, seen => do
    let normalized ← P.normalizeRecipient r
    ensure (normalized.keyID ∉ seen) (.message "duplicate recipient key ID")
    let w ← P.wrapRecipient c payloadHeaderDigest normalized (c.draws.wraps i)
    let ws ← wrapRecipients c payloadHeaderDigest rs (i + 1) (normalized.keyID :: seen)
    pure (w :: ws)

/-- `encryptWithOptions`, with what it computed on the way. -/
def encryptTrace (c : Call P) : Except Error Trace := do
  validateContext c.ctx
  ensure (c.recipients ≠ []) (.message "at least one recipient is required")
  ensure (c.recipients.length ≤ maxRecipientsPerCEK) (.message "recipient count exceeds 16")
  let headerBytes ← encodePayloadHeader (contextHeader c.ctx c.draws.payloadNonce)
  let payloadCiphertext := P.gcmSeal c.draws.cek c.draws.payloadNonce c.plaintext headerBytes
  let payloadFrame ← encodePayloadFrame headerBytes payloadCiphertext
  let wraps ← P.wrapRecipients c (P.sha384 headerBytes) c.recipients 0 []
  pure ⟨headerBytes, payloadCiphertext, payloadFrame, wraps⟩

/-- `Encrypt`. -/
def encrypt (c : Call P) : Except Error Envelope := (P.encryptTrace c).map Trace.envelope

/-- `validatePublicMetadata`: the salt and the associated data. -/
def validatePublicMetadata (data : PublicWrappingMetadata) (ctx : PayloadContext)
    (header : PayloadHeader) (payloadHeaderDigest : Bytes) (frame : WrappedKeyFrame) :
    Except Error (Bytes × Bytes) := do
  ensure (data.profile = profileID) (.message "unsupported profile")
  ensure (data.scheme = schemeID) (.message "unsupported scheme")
  ensure (data.suiteID = suiteID) (.message "unsupported suite")
  ensure (data.hkdfInfoID = Envelope.hkdfInfoID) (.message "unsupported HKDF info ID")
  validateMandatory data.mandatory
  validateRecipientKeyID data.recipientKeyID
  ensure (0 < data.recipientKeyVersion) (.message "recipient key version must be positive")
  ensure (data.recipientRole ≠ []) (.message "recipient role is required")
  ensure (data.mediaKeyID = ctx.mediaKeyID) (.message "media key ID does not match context")
  ensure (data.envelopeID = header.envelopeID)
    (.message "envelope ID does not match payload header")
  let gotHeaderDigest ← decodeBase64URL "payload_header_digest_b64u"
    data.payloadHeaderDigestB64U digestSize
  ensure (gotHeaderDigest = payloadHeaderDigest)
    (.message "payload header digest does not match")
  let gotKEMDigest ← decodeBase64URL "kem_ciphertext_digest_b64u"
    data.kemCiphertextDigestB64U digestSize
  ensure (gotKEMDigest = P.sha384 frame.kemCiphertext)
    (.message "KEM ciphertext digest does not match")
  let salt ← decodeBase64URL "hkdf_salt_b64u" data.hkdfSaltB64U hkdfSaltSize
  let recipient : Recipient :=
    ⟨data.recipientKeyID, data.recipientKeyVersion, data.recipientRole, []⟩
  let wrapAAD ← cekWrapAAD ctx header.envelopeID recipient payloadHeaderDigest
  let gotWrapAADDigest ← decodeBase64URL "cek_wrap_aad_digest_b64u"
    data.cekWrapAADDigestB64U digestSize
  ensure (gotWrapAADDigest = P.sha384 wrapAAD) (.message "CEK-wrap AAD digest does not match")
  pure (salt, wrapAAD)

/-- `Decrypt`.  The loop over the records skips those of other recipients and returns at the
    first one of this recipient. -/
def decrypt (env : Envelope) (ctx : PayloadContext) (recipientKeyID : Bytes)
    (dk : Option P.DecapsulationKey) : Except Error Bytes := do
  let dk ← found dk (.message "decapsulation key is required")
  validateContext ctx
  validateRecipientKeyID recipientKeyID
  let (header, headerBytes, payloadCiphertext) ← parsePayloadFrame env.payloadFrame
  header.matchesContext ctx
  let payloadHeaderDigest : Bytes := P.sha384 headerBytes
  let record ← found (env.recipients.find? fun r => r.metadata.recipientKeyID = recipientKeyID)
    (.message "recipient key not found")
  let frame ← parseWrappedKeyFrame record.wrappedKeyFrame
  let (salt, wrapAAD) ←
    P.validatePublicMetadata record.metadata ctx header payloadHeaderDigest frame
  let sharedSecret ← found (P.decapsulate dk frame.kemCiphertext)
    (.message "decapsulate CEK wrapping key")
  let info ← hkdfInfo header.envelopeID recipientKeyID (P.sha384 frame.kemCiphertext)
    payloadHeaderDigest
  let kek ← P.deriveKEK sharedSecret salt info
  let cek ← found (P.gcmOpen kek frame.wrapNonce frame.wrappedCEK wrapAAD) (.message "unwrap CEK")
  ensure (cek.length = cekSize) (.message "unwrapped CEK has unsupported size")
  found (P.gcmOpen cek header.payloadNonce payloadCiphertext headerBytes)
    (.message "decrypt payload")

/-! ### What a successful call computed -/

theorem deriveKEK_eq_ok {ss salt info kek : Bytes} :
    P.deriveKEK ss salt info = .ok kek ↔ ss.length = sharedKeySize ∧ salt.length = hkdfSaltSize ∧
      kek = P.hkdfExpand (P.hkdfExtract ss salt) info := by
  simp only [deriveKEK, bind_ok, ensure_ok, pure_ok]
  constructor
  · rintro ⟨-, hss, -, hsalt, rfl⟩
    exact ⟨hss, hsalt, rfl⟩
  · rintro ⟨hss, hsalt, rfl⟩
    exact ⟨(), hss, (), hsalt, rfl⟩

variable {r n : Recipient}

/-- A normalised recipient is the recipient under the ID of its key. -/
theorem normalizeRecipient_eq_ok (h : P.normalizeRecipient r = .ok n) :
    P.recipientKeyID r.encapsulationKey r.keyVersion = .ok n.keyID ∧
      (r.keyID = [] ∨ r.keyID = n.keyID) ∧ n = { r with keyID := n.keyID } ∧
      0 < n.keyVersion ∧ Plain n.role ∧ validateRecipientKeyID n.keyID = .ok () := by
  simp only [normalizeRecipient, rejectNewline, bind_ok, ensure_ok, pure_ok] at h
  obtain ⟨-, hversion, -, hne, -, hline, -, -, id, hid, -, heq, u, hvalid, rfl⟩ := h
  have hrole : Plain r.role := ⟨hne, hline⟩
  by_cases hnil : r.keyID = []
  · rw [if_pos hnil] at hvalid ⊢
    exact ⟨hid, .inl hnil, rfl, hversion, hrole, hvalid⟩
  · rw [if_neg hnil] at heq hvalid ⊢
    rw [← heq] at hid
    exact ⟨hid, .inr rfl, rfl, hversion, hrole, hvalid⟩

/-- **What a call computed for a recipient.** -/
structure WrapSpec (c : Call P) (digest : Bytes) (r : Recipient) (d : WrapDraws P) (w : Wrapped) :
    Prop where
  recipient : w.recipient = r
  salt : w.salt = d.salt
  nonce : w.wrapNonce = d.wrapNonce
  encapsulated : ∃ ek, P.newEncapsulationKey768 r.encapsulationKey = some ek ∧
    P.encapsulate ek d.seed = (w.sharedSecret, w.kemCiphertext)
  info : hkdfInfo c.ctx.envelopeID r.keyID (P.sha384 w.kemCiphertext) digest = .ok w.info
  kek : P.deriveKEK w.sharedSecret w.salt w.info = .ok w.kek
  aad : cekWrapAAD c.ctx c.ctx.envelopeID r digest = .ok w.wrapAAD
  cek : w.wrappedCEK = P.gcmSeal w.kek w.wrapNonce c.draws.cek w.wrapAAD
  frame : parseWrappedKeyFrame w.record.wrappedKeyFrame
    = .ok ⟨w.kemCiphertext, w.wrapNonce, w.wrappedCEK⟩
  metadata : w.record.metadata =
    { profile := profileID, scheme := schemeID, suiteID := suiteID
      mandatory := publicMetadataMandatory, recipientKeyID := r.keyID
      recipientKeyVersion := r.keyVersion, recipientRole := r.role
      mediaKeyID := c.ctx.mediaKeyID, envelopeID := c.ctx.envelopeID
      payloadHeaderDigestB64U := Base64.encode digest
      kemCiphertextDigestB64U := Base64.encode (P.sha384 w.kemCiphertext)
      hkdfSaltB64U := Base64.encode w.salt, hkdfInfoID := hkdfInfoID
      cekWrapAADDigestB64U := Base64.encode (P.sha384 w.wrapAAD) }

variable {c : Call P} {digest : Bytes} {d : WrapDraws P}

theorem wrapRecipient_eq_ok {r : Recipient}
    {w : Wrapped} (h : P.wrapRecipient c digest r d = .ok w) : P.WrapSpec c digest r d w := by
  simp only [wrapRecipient, bind_ok, ensure_ok, found_ok, pure_ok] at h
  obtain ⟨ek, hek, -, -, -, -, info, hinfo, kek, hkek, aad, haad, frame, hframe, rfl⟩ := h
  obtain ⟨hsized, rfl⟩ := encodeWrappedKeyFrame_eq_ok.mp hframe
  exact
    { recipient := rfl, salt := rfl, nonce := rfl, encapsulated := ⟨ek, hek, rfl⟩, info := hinfo
      kek := hkek, aad := haad, cek := rfl
      frame := parseWrappedKeyFrame_eq_ok.mpr ⟨hsized, rfl⟩, metadata := rfl }

/-- **What the loop computed**: a record for each recipient and no other, under key IDs that
    differ from each other and from those seen before. -/
structure LoopSpec (c : Call P) (digest : Bytes) (rs : List Recipient) (seen : List Bytes)
    (ws : List Wrapped) : Prop where
  each : ∀ r ∈ rs, ∃ w ∈ ws, ∃ n d, P.normalizeRecipient r = .ok n ∧ P.WrapSpec c digest n d w
  only : ∀ w ∈ ws, ∃ r n d, P.normalizeRecipient r = .ok n ∧ P.WrapSpec c digest n d w
  nodup : (ws.map (·.record.metadata.recipientKeyID)).Nodup
  unseen : ∀ w ∈ ws, w.record.metadata.recipientKeyID ∉ seen

theorem wrapRecipients_eq_ok {rs : List Recipient} {i : Nat} {seen : List Bytes} {ws : List Wrapped}
    (h : P.wrapRecipients c digest rs i seen = .ok ws) : P.LoopSpec c digest rs seen ws := by
  induction rs generalizing i seen ws with
  | nil =>
    simp only [wrapRecipients, pure_ok] at h
    subst h
    exact ⟨by simp, by simp, List.nodup_nil, by simp⟩
  | cons r rs ih =>
    simp only [wrapRecipients, bind_ok, ensure_ok, pure_ok] at h
    obtain ⟨n, hn, -, hnew, w, hw, rest, hrest, rfl⟩ := h
    have hspec := P.wrapRecipient_eq_ok hw
    have hloop := ih hrest
    have hkey : w.record.metadata.recipientKeyID = n.keyID := by rw [hspec.metadata]
    refine ⟨?_, ?_, ?_, ?_⟩
    · intro q hq
      rcases List.mem_cons.mp hq with rfl | hq
      · exact ⟨w, List.mem_cons_self .., n, _, hn, hspec⟩
      · obtain ⟨v, hv, hex⟩ := hloop.each q hq
        exact ⟨v, List.mem_cons_of_mem _ hv, hex⟩
    · intro v hv
      rcases List.mem_cons.mp hv with rfl | hv
      · exact ⟨r, n, _, hn, hspec⟩
      · exact hloop.only v hv
    · rw [List.map_cons, List.nodup_cons]
      refine ⟨fun hmem => ?_, hloop.nodup⟩
      obtain ⟨v, hv, heq⟩ := List.mem_map.mp hmem
      rw [hkey] at heq
      exact hloop.unseen v hv (by rw [heq]; exact List.mem_cons_self ..)
    · intro v hv
      rcases List.mem_cons.mp hv with rfl | hv
      · rw [hkey]
        exact hnew
      · exact fun hmem => hloop.unseen v hv (List.mem_cons_of_mem _ hmem)

/-- **What a call computed.** -/
structure TraceSpec (c : Call P) (t : Trace) : Prop where
  context : validateContext c.ctx = .ok ()
  header : encodePayloadHeader (contextHeader c.ctx c.draws.payloadNonce) = .ok t.headerBytes
  ciphertext : t.payloadCiphertext
    = P.gcmSeal c.draws.cek c.draws.payloadNonce c.plaintext t.headerBytes
  frame : encodePayloadFrame t.headerBytes t.payloadCiphertext = .ok t.payloadFrame
  wraps : P.wrapRecipients c (P.sha384 t.headerBytes) c.recipients 0 [] = .ok t.wraps

theorem encryptTrace_eq_ok {t : Trace} (h : P.encryptTrace c = .ok t) :
    P.TraceSpec c t := by
  simp only [encryptTrace, bind_ok, ensure_ok, pure_ok] at h
  obtain ⟨u, hctx, -, -, -, -, hb, hheader, frame, hframe, ws, hws, rfl⟩ := h
  exact ⟨hctx, hheader, rfl, hframe, hws⟩

theorem encrypt_eq_ok {env : Envelope} (h : P.encrypt c = .ok env) :
    ∃ t, P.TraceSpec c t ∧ t.envelope = env := by
  unfold encrypt at h
  cases htrace : P.encryptTrace c with
  | error e =>
    rw [htrace] at h
    cases h
  | ok t =>
    rw [htrace] at h
    exact ⟨t, P.encryptTrace_eq_ok htrace, Except.ok.inj h⟩

/-- The frame of a call parses into its header, and the header is one of the context. -/
theorem TraceSpec.parse {t : Trace} (h : P.TraceSpec c t) :
    parsePayloadFrame t.payloadFrame
      = .ok (contextHeader c.ctx c.draws.payloadNonce, t.headerBytes, t.payloadCiphertext) := by
  have hpos : 0 < c.ctx.chunkIndex := (validateContext_ok.mp h.context).2
  exact parsePayloadFrame_iff.mpr ⟨h.frame, decode_encodePayloadHeader h.header hpos⟩

/-! ### Metadata -/

/-- **The metadata that is accepted**, with the salt `s` and the associated data `a` it stands
    for. -/
structure MetadataSpec (data : PublicWrappingMetadata) (ctx : PayloadContext)
    (header : PayloadHeader) (digest : Bytes) (frame : WrappedKeyFrame) (s a : Bytes) :
    Prop where
  profile : data.profile = profileID
  scheme : data.scheme = schemeID
  suite : data.suiteID = suiteID
  infoID : data.hkdfInfoID = Envelope.hkdfInfoID
  mandatory : validateMandatory data.mandatory = .ok ()
  keyID : validateRecipientKeyID data.recipientKeyID = .ok ()
  keyVersion : 0 < data.recipientKeyVersion
  role : data.recipientRole ≠ []
  mediaKey : data.mediaKeyID = ctx.mediaKeyID
  envelope : data.envelopeID = header.envelopeID
  headerDigest : data.payloadHeaderDigestB64U = Base64.encode digest ∧ digest.length = digestSize
  kemDigest : data.kemCiphertextDigestB64U = Base64.encode (P.sha384 frame.kemCiphertext)
  salt : data.hkdfSaltB64U = Base64.encode s ∧ s.length = hkdfSaltSize
  aad : cekWrapAAD ctx header.envelopeID
    ⟨data.recipientKeyID, data.recipientKeyVersion, data.recipientRole, []⟩ digest = .ok a
  aadDigest : data.cekWrapAADDigestB64U = Base64.encode (P.sha384 a)

theorem validatePublicMetadata_eq_ok {data : PublicWrappingMetadata} {ctx : PayloadContext}
    {header : PayloadHeader} {frame : WrappedKeyFrame} {s a : Bytes} :
    P.validatePublicMetadata data ctx header digest frame = .ok (s, a) ↔
      P.MetadataSpec data ctx header digest frame s a := by
  have h48 : 0 < digestSize := by decide
  have hsalt : 0 < hkdfSaltSize := by decide
  simp only [validatePublicMetadata, bind_ok, ensure_ok, pure_ok, decodeBase64URL_eq_ok h48,
    decodeBase64URL_eq_ok hsalt, Prod.mk.injEq]
  constructor
  · rintro ⟨-, h1, -, h2, -, h3, -, h4, u, h5, v, h6, -, h7, -, h8, -, h9, -, h10, hd, ⟨hd1, hd2⟩,
      -, rfl, kd, ⟨hk1, -⟩, -, rfl, s, hs, a, ha, ad, ⟨had, -⟩, -, rfl, rfl, rfl⟩
    exact ⟨h1, h2, h3, h4, h5, h6, h7, h8, h9, h10, ⟨hd1, hd2⟩, hk1, hs, ha, had⟩
  · intro h
    exact ⟨(), h.profile, (), h.scheme, (), h.suite, (), h.infoID, (), h.mandatory, (), h.keyID,
      (), h.keyVersion, (), h.role, (), h.mediaKey, (), h.envelope, digest, h.headerDigest, (),
      rfl, _, ⟨h.kemDigest, (P.sha384 _).2⟩, (), rfl, s, h.salt, a, h.aad, _,
      ⟨h.aadDigest, (P.sha384 _).2⟩, (), rfl, rfl, rfl⟩

/-- The metadata of an honest record is accepted with the frame and the context of its call. -/
theorem WrapSpec.metadataSpec {headerBytes : Bytes}
    {w : Wrapped} (hn : P.normalizeRecipient r = .ok n)
    (h : P.WrapSpec c (P.sha384 headerBytes) n d w) :
    P.MetadataSpec w.record.metadata c.ctx (contextHeader c.ctx c.draws.payloadNonce)
      (P.sha384 headerBytes) ⟨w.kemCiphertext, w.wrapNonce, w.wrappedCEK⟩ w.salt w.wrapAAD := by
  obtain ⟨-, -, -, hversion, hrole, hkey⟩ := P.normalizeRecipient_eq_ok hn
  rw [h.metadata]
  exact
    { profile := rfl, scheme := rfl, suite := rfl, infoID := rfl
      mandatory := validateMandatory_self, keyID := hkey, keyVersion := hversion, role := hrole.1
      mediaKey := rfl, envelope := rfl, headerDigest := ⟨rfl, (P.sha384 _).2⟩, kemDigest := rfl
      salt := ⟨rfl, by rw [h.salt]; exact d.salt.2⟩
      -- the associated data does not read the encapsulation key, which the record lacks
      aad := (cekWrapAAD_congr rfl).trans h.aad
      aadDigest := rfl }

/-! ### Decryption gives the plaintext back -/

/-- The primitives undo each other: a decapsulation key recovers the secrets encapsulated for
    its public key, and opening recovers what was sealed. -/
structure Correct : Prop where
  decapsulate : ∀ dk ek seed, P.newEncapsulationKey768 (P.publicKey dk) = some ek →
    P.decapsulate dk (P.encapsulate ek seed).2 = some (P.encapsulate ek seed).1
  gcmOpen : ∀ key nonce plaintext aad, key.length = cekSize → nonce.length = nonceSize →
    P.gcmOpen key nonce (P.gcmSeal key nonce plaintext aad) aad = some plaintext

/-- A record of a call opens for its recipient. -/
theorem decrypt_record (hP : P.Correct) {t : Trace} (ht : P.TraceSpec c t)
    {w : Wrapped} (hn : P.normalizeRecipient r = .ok n)
    (hw : P.WrapSpec c (P.sha384 t.headerBytes) n d w)
    (hfind : (t.wraps.map (·.record)).find? (fun x => x.metadata.recipientKeyID = n.keyID)
      = some w.record)
    {dk : P.DecapsulationKey} (hdk : P.publicKey dk = r.encapsulationKey) :
    P.decrypt t.envelope c.ctx n.keyID (some dk) = .ok c.plaintext := by
  obtain ⟨-, -, hnr, -, -, hkey⟩ := P.normalizeRecipient_eq_ok hn
  obtain ⟨ek, hek, henc⟩ := hw.encapsulated
  have hpub : P.newEncapsulationKey768 (P.publicKey dk) = some ek := by
    rw [hnr] at hek
    rw [hdk]
    exact hek
  have hsecret : P.decapsulate dk w.kemCiphertext = some w.sharedSecret := by
    have := hP.decapsulate dk ek d.seed hpub
    rwa [henc] at this
  have hkekLen : w.kek.length = cekSize := by
    rw [(P.deriveKEK_eq_ok.mp hw.kek).2.2]
    exact (P.hkdfExpand _ _).2
  have hnonceLen : w.wrapNonce.length = nonceSize := by
    rw [hw.nonce]
    exact d.wrapNonce.2
  have hcek : P.gcmOpen w.kek w.wrapNonce w.wrappedCEK w.wrapAAD = some c.draws.cek := by
    rw [hw.cek]
    exact hP.gcmOpen _ _ _ _ hkekLen hnonceLen
  have hplain : P.gcmOpen c.draws.cek c.draws.payloadNonce t.payloadCiphertext t.headerBytes
      = some c.plaintext := by
    rw [ht.ciphertext]
    exact hP.gcmOpen _ _ _ _ c.draws.cek.2 c.draws.payloadNonce.2
  have hmatch : (contextHeader c.ctx c.draws.payloadNonce).matchesContext c.ctx = .ok () :=
    ensure_ok.mpr ⟨rfl, rfl, rfl, rfl, rfl, rfl⟩
  have hmeta := P.validatePublicMetadata_eq_ok.mpr (hw.metadataSpec P hn)
  simp only [decrypt, bind_ok, found_ok, ensure_ok, Prod.exists]
  exact ⟨dk, rfl, (), ht.context, (), hkey, _, _, _, ht.parse P, (), hmatch, w.record, hfind, _,
    hw.frame, _, _, hmeta, _, hsecret, _, hw.info, _, hw.kek, _, hcek, (), c.draws.cek.2, hplain⟩

end Primitives

/-- **Every recipient gets the plaintext back.**  For each recipient of a successful call its key
    has an ID, the one it was given under if any, and `Decrypt` with that ID and a matching
    decapsulation key returns the plaintext; the server accepts the frame for the identity of
    the context, however its reader cuts it. -/
theorem decrypt_encrypt (P : Primitives) (hP : P.Correct) (c : Call P) (env : Envelope)
    (henc : P.encrypt c = .ok env) :
    (∀ r ∈ c.recipients, ∃ id, P.recipientKeyID r.encapsulationKey r.keyVersion = .ok id ∧
      (r.keyID = [] ∨ r.keyID = id) ∧
      ∀ dk, P.publicKey dk = r.encapsulationKey →
        P.decrypt env c.ctx id (some dk) = .ok c.plaintext) ∧
    (∀ pieces : List Bytes, pieces.flatten = env.payloadFrame →
      ∃ data, validatePayloadFrameHeader (fun b => P.sha384 b) pieces env.payloadFrame.length
        c.ctx.identity = .ok data) := by
  obtain ⟨t, hspec, rfl⟩ := P.encrypt_eq_ok henc
  constructor
  · intro r hr
    have hloop := P.wrapRecipients_eq_ok hspec.wraps
    obtain ⟨w, hw, n, d, hn, hwrap⟩ := hloop.each r hr
    obtain ⟨hid, hgiven, -⟩ := P.normalizeRecipient_eq_ok hn
    -- the key IDs differ, so the search finds the recipient's own record
    have hnodup : ((t.wraps.map (·.record)).map (·.metadata.recipientKeyID)).Nodup := by
      rw [List.map_map]
      exact hloop.nodup
    have hfind := Table.find?_key hnodup (List.mem_map_of_mem hw)
    rw [hwrap.metadata] at hfind
    exact ⟨n.keyID, hid, hgiven, fun dk hdk => P.decrypt_record hP hspec hn hwrap hfind hdk⟩
  · intro pieces hpieces
    have hparse := hspec.parse P
    obtain ⟨hc, hpart, -, hdec⟩ := parsePayloadFrame_eq_ok.mp hparse
    obtain ⟨⟨-, hinc, hstr, hmedia, hpay, -⟩, hpos⟩ := validateContext_ok.mp hspec.context
    have hid : validatePayloadIdentity c.ctx.identity = .ok () :=
      validatePayloadIdentity_ok.mpr ⟨⟨hinc, hstr, hmedia, hpay⟩, hpos⟩
    have hmatch : (contextHeader c.ctx c.draws.payloadNonce).matchesIdentity c.ctx.identity
        = .ok () := ensure_ok.mpr ⟨rfl, rfl, rfl, rfl, rfl⟩
    have hframe : pieces.flatten = t.payloadFrame := hpieces
    refine ⟨metadataFromPayloadHeader (fun b => P.sha384 b)
      (contextHeader c.ctx c.draws.payloadNonce) t.headerBytes, ?_⟩
    show validatePayloadFrameHeader (fun b => P.sha384 b) pieces t.payloadFrame.length
      c.ctx.identity = .ok _
    rw [← hframe, validatePayloadFrameHeader_eq_ok, hframe, ← hpart]
    exact ⟨hid, hc, _, hdec, hmatch, rfl⟩

/-- Primitives without secrets: opening cuts off the tag. -/
def plainPrimitives : Primitives where
  EncapsulationKey := Unit
  DecapsulationKey := Unit
  Seed := Unit
  sha384 := fun _ => ⟨List.replicate digestSize 0, List.length_replicate⟩
  newEncapsulationKey768 := fun _ => some ()
  publicKey := fun _ => List.replicate encapsulationKeySize768 0
  encapsulate := fun _ _ => (List.replicate sharedKeySize 1, List.replicate ciphertextSize768 2)
  decapsulate := fun _ _ => some (List.replicate sharedKeySize 1)
  hkdfExtract := fun _ _ => []
  hkdfExpand := fun _ _ => ⟨List.replicate cekSize 3, List.length_replicate⟩
  gcmSeal := fun _ _ plaintext _ => plaintext ++ List.replicate 16 0
  gcmOpen := fun _ _ ciphertext _ => some (ciphertext.take (ciphertext.length - 16))

theorem plainPrimitives_correct : plainPrimitives.Correct where
  decapsulate := fun _ _ _ _ => rfl
  gcmOpen := by
    intro key nonce plaintext aad _ _
    simp [plainPrimitives]

/-- A call for one recipient, whose key ID is left to be derived. -/
def plainCall : Call plainPrimitives where
  plaintext := bytes "evidence"
  ctx := sampleContext
  recipients := [⟨[], 1, bytes "owner", List.replicate encapsulationKeySize768 0⟩]
  draws :=
    { cek := ⟨List.replicate cekSize 4, List.length_replicate⟩
      payloadNonce := ⟨List.replicate nonceSize 5, List.length_replicate⟩
      wraps := fun _ =>
        { seed := ()
          salt := ⟨List.replicate hkdfSaltSize 6, List.length_replicate⟩
          wrapNonce := ⟨List.replicate nonceSize 7, List.length_replicate⟩ } }

set_option maxRecDepth 20000 in
/-- The recipient of the call above reads it. -/
theorem decrypt_encrypt_plainCall :
    ∃ env id, plainPrimitives.encrypt plainCall = .ok env ∧
      plainPrimitives.decrypt env sampleContext id (some ()) = .ok (bytes "evidence") := by
  obtain ⟨env, henc⟩ : ∃ env, plainPrimitives.encrypt plainCall = .ok env := ⟨_, rfl⟩
  obtain ⟨id, -, -, hdec⟩ := (decrypt_encrypt plainPrimitives plainPrimitives_correct plainCall env
    henc).1 _ (List.mem_singleton.mpr rfl)
  exact ⟨env, id, henc, hdec () rfl⟩

end SafetyRecorder.Envelope
