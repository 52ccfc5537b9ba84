import SafetyRecorder.Envelope.Frames

namespace SafetyRecorder.Envelope

open Wire Checked

/-!
# Wrapped keys and their public metadata

The frame that carries a wrapped content key, and the checks on the texts of the public
metadata that stands beside it.

* `parseWrappedKeyFrame_eq_ok` — a wrapped-key frame has exactly one form;
* `frames_exact` — encoding and parsing are inverse for both kinds of frames;
* `decodeBase64URL_eq_ok` — of the texts that decode to some bytes only their encoding is
  accepted;
* `validateRecipientKeyID_eq_ok` — the recipient key IDs that are accepted;
* `validateMandatory_ok` — of the lists of mandatory fields only the reorderings of the one that
  is written are accepted.
-/

def wrappedKeyMagic : Bytes := bytes "PLPQWK1\n"
def ciphertextSize768 : Nat := 1088
def cekSize : Nat := 32
def wrappedCEKSize : Nat := cekSize + 16
def hkdfSaltSize : Nat := 48
def digestSize : Nat := 48
def recipientKeyIDHead : Bytes := bytes "pqk1_"

/-! ### Wrapped-key frames -/

/-- `wrappedKeyFrame`. -/
structure WrappedKeyFrame where
  kemCiphertext : Bytes
  wrapNonce : Bytes
  wrappedCEK : Bytes
  deriving DecidableEq, Repr

/-- The bytes of a frame. -/
def WrappedKeyFrame.wire (f : WrappedKeyFrame) : Bytes :=
  wrappedKeyMagic ++ (version :: (putBE 2 f.kemCiphertext.length ++ (f.kemCiphertext ++
    (UInt8.ofNat f.wrapNonce.length :: (f.wrapNonce ++
      (putBE 2 f.wrappedCEK.length ++ f.wrappedCEK))))))

/-- `encodeWrappedKeyFrame`. -/
def encodeWrappedKeyFrame (f : WrappedKeyFrame) : Except Error Bytes := do
  ensure (f.kemCiphertext.length = ciphertextSize768)
    (.message "KEM ciphertext must be 1088 bytes")
  ensure (f.wrapNonce.length = nonceSize) (.message "CEK-wrap nonce must be 12 bytes")
  ensure (f.wrappedCEK.length = wrappedCEKSize) (.message "wrapped CEK must be 48 bytes")
  pure f.wire

/-- `parseWrappedKeyFrame`.  Each `frame` below is what lies behind the offset. -/
def parseWrappedKeyFrame (frame : Bytes) : Except Error WrappedKeyFrame := do
  ensure (wrappedKeyMagic.length + 1 + 2 ≤ frame.length)
    (.message "wrapped-key frame is truncated")
  ensure (wrappedKeyMagic <+: frame) (.message "invalid wrapped-key magic")
  ensure (frame[wrappedKeyMagic.length]? = some version)
    (.message "unsupported wrapped-key version")
  let frame := frame.drop (wrappedKeyMagic.length + 1)
  let kemLength := readBE (frame.take 2)
  let frame := frame.drop 2
  ensure (kemLength = ciphertextSize768) (.message "KEM ciphertext has unsupported size")
  ensure (kemLength + 1 ≤ frame.length) (.message "KEM ciphertext is truncated")
  let kemCiphertext := frame.take kemLength
  let frame := frame.drop kemLength
  let nonceLength := readBE (frame.take 1)
  let frame := frame.drop 1
  ensure (nonceLength = nonceSize) (.message "CEK-wrap nonce has unsupported size")
  ensure (nonceLength + 2 ≤ frame.length) (.message "CEK-wrap nonce is truncated")
  let wrapNonce := frame.take nonceLength
  let frame := frame.drop nonceLength
  let wrappedLength := readBE (frame.take 2)
  let frame := frame.drop 2
  ensure (wrappedLength = wrappedCEKSize) (.message "wrapped CEK has unsupported size")
  ensure (frame.length = wrappedLength)
    (.message "wrapped CEK frame has trailing or truncated bytes")
  pure ⟨kemCiphertext, wrapNonce, frame.take wrappedLength⟩

/-- The sizes of the parts of a frame. -/
structure WrappedKeyFrame.Sized (f : WrappedKeyFrame) : Prop where
  kem : f.kemCiphertext.length = ciphertextSize768
  nonce : f.wrapNonce.length = nonceSize
  cek : f.wrappedCEK.length = wrappedCEKSize

variable {f : WrappedKeyFrame}

theorem encodeWrappedKeyFrame_eq_ok {out : Bytes} :
    encodeWrappedKeyFrame f = .ok out ↔ f.Sized ∧ out = f.wire := by
  simp only [encodeWrappedKeyFrame, bind_ok, ensure_ok, pure_ok]
  constructor
  · rintro ⟨-, hk, -, hn, -, hc, rfl⟩
    exact ⟨⟨hk, hn, hc⟩, rfl⟩
  · rintro ⟨h, rfl⟩
    exact ⟨(), h.kem, (), h.nonce, (), h.cek, rfl⟩

/-- A single byte is the number it holds. -/
theorem cons_of_readBE {frame : Bytes} {n : Nat} (hlen : 1 ≤ frame.length)
    (h : readBE (frame.take 1) = n) : UInt8.ofNat n :: frame.drop 1 = frame := by
  cases frame with
  | nil => simp at hlen
  | cons b rest =>
    have hb : b.toNat = n := by simpa [readBE] using h
    simp [← hb]

/-- **A wrapped-key frame has one form.** -/
theorem parseWrappedKeyFrame_eq_ok {frame : Bytes} :
    parseWrappedKeyFrame frame = .ok f ↔ f.Sized ∧ frame = f.wire := by
  simp only [parseWrappedKeyFrame, bind_ok, ensure_ok, pure_ok]
  constructor
  · rintro ⟨-, hsize, -, hmagic, -, hversion, -, hkem, -, hkemLen, -, hnonce, -, hnonceLen, -,
      hcek, -, hend, rfl⟩
    have hhead := (magic_version _ _).mp ⟨hmagic, hversion⟩
    generalize hf1 : frame.drop (wrappedKeyMagic.length + 1) = f1 at *
    have hlen1 : 2 ≤ f1.length := by
      rw [← hf1, List.length_drop]
      omega
    have hkem' := putBE_readBE_take hlen1
    rw [hkem] at hkem' hkemLen hnonce hnonceLen hcek hend ⊢
    generalize f1.drop 2 = f2 at *
    have hlen3 : 1 ≤ (f2.drop ciphertextSize768).length := by
      rw [List.length_drop]
      omega
    have hnonce' := cons_of_readBE hlen3 hnonce
    rw [hnonce] at hnonceLen hcek hend ⊢
    generalize hf3 : (f2.drop ciphertextSize768).drop 1 = f3 at *
    have hlen4 : 2 ≤ (f3.drop nonceSize).length := by
      rw [List.length_drop]
      omega
    have hcek' := putBE_readBE_take hlen4
    rw [hcek] at hcek' hend ⊢
    have hfull : ((f3.drop nonceSize).drop 2).take wrappedCEKSize = (f3.drop nonceSize).drop 2 :=
      List.take_of_length_le hend.le
    have hkemTake : (f2.take ciphertextSize768).length = ciphertextSize768 := by
      rw [List.length_take]
      omega
    have hnonceTake : (f3.take nonceSize).length = nonceSize := by
      rw [List.length_take]
      omega
    rw [hfull]
    refine ⟨⟨hkemTake, hnonceTake, hend⟩, ?_⟩
    -- join the cuts again, from the innermost outwards
    simp only [WrappedKeyFrame.wire, hkemTake, hnonceTake, hend]
    rw [hcek', List.take_append_drop, hnonce', List.take_append_drop, hkem']
    exact hhead
  · rintro ⟨h, rfl⟩
    have hk : f.kemCiphertext.length < 256 ^ 2 := by rw [h.kem]; decide
    have hc : f.wrappedCEK.length < 256 ^ 2 := by rw [h.cek]; decide
    have hone : readBE [UInt8.ofNat f.wrapNonce.length] = f.wrapNonce.length := by
      rw [h.nonce]
      rfl
    have hhead : wrappedKeyMagic <+: f.wire ∧ f.wire[wrappedKeyMagic.length]? = some version :=
      ⟨List.prefix_append _ _, by simp [WrappedKeyFrame.wire]⟩
    have hlen : f.wire.length = wrappedKeyMagic.length + 1 + 2 + f.kemCiphertext.length + 1 +
        f.wrapNonce.length + 2 + f.wrappedCEK.length := by
      simp only [WrappedKeyFrame.wire, List.length_append, List.length_cons, length_putBE]
      omega
    have hdrop : f.wire.drop (wrappedKeyMagic.length + 1) =
        putBE 2 f.kemCiphertext.length ++ (f.kemCiphertext ++
          (UInt8.ofNat f.wrapNonce.length :: (f.wrapNonce ++
            (putBE 2 f.wrappedCEK.length ++ f.wrappedCEK)))) := by
      rw [WrappedKeyFrame.wire, List.drop_length_add_append]
      rfl
    simp only [hdrop, readBE_take_putBE hk, drop_putBE, List.take_left, List.drop_left,
      List.take_succ_cons, List.take_zero, List.drop_succ_cons, List.drop_zero, hone,
      readBE_take_putBE hc, List.take_length, List.length_append, List.length_cons, length_putBE]
    exact ⟨(), by omega, (), hhead.1, (), hhead.2, (), h.kem, (), by omega, (), h.nonce, (),
      by omega, (), h.cek, (), trivial, trivial⟩

/-- The length of a wrapped-key frame. -/
def wrappedKeyFrameSize : Nat :=
  wrappedKeyMagic.length + 1 + 2 + ciphertextSize768 + 1 + nonceSize + 2 + wrappedCEKSize

theorem WrappedKeyFrame.Sized.length_wire (h : f.Sized) :
    f.wire.length = wrappedKeyFrameSize := by
  simp only [WrappedKeyFrame.wire, List.length_append, List.length_cons, length_putBE, h.kem,
    h.nonce, h.cek, wrappedKeyFrameSize]
  omega

/-- **Both frames are exact**: what is encoded is parsed into the same parts, what is parsed is
    the encoding of its parts, and a wrapped-key frame has no room for anything else. -/
theorem frames_exact :
    (∀ headerBytes ciphertext frame h, encodePayloadFrame headerBytes ciphertext = .ok frame →
      decodePayloadHeader headerBytes = .ok h →
        parsePayloadFrame frame = .ok (h, headerBytes, ciphertext)) ∧
      (∀ frame h headerBytes ciphertext,
        parsePayloadFrame frame = .ok (h, headerBytes, ciphertext) →
          encodePayloadFrame headerBytes ciphertext = .ok frame) ∧
      (∀ f frame, encodeWrappedKeyFrame f = .ok frame ↔ parseWrappedKeyFrame frame = .ok f) ∧
      ∀ frame f, parseWrappedKeyFrame frame = .ok f → frame.length = wrappedKeyFrameSize := by
  refine ⟨fun hb c frame h henc hdec => ?_, fun frame h hb c hparse => ?_, fun f frame => ?_,
    fun frame f hparse => ?_⟩
  · exact parsePayloadFrame_iff.mpr ⟨henc, hdec⟩
  · exact (parsePayloadFrame_iff.mp hparse).1
  · rw [encodeWrappedKeyFrame_eq_ok, parseWrappedKeyFrame_eq_ok]
  · obtain ⟨hsized, rfl⟩ := parseWrappedKeyFrame_eq_ok.mp hparse
    exact hsized.length_wire

/-- A frame of zeros. -/
def zeroFrame : WrappedKeyFrame :=
  ⟨List.replicate ciphertextSize768 0, List.replicate nonceSize 0, List.replicate wrappedCEKSize 0⟩

/-- The frame of zeros is accepted and has the one length. -/
theorem frames_exact_zero :
    parseWrappedKeyFrame zeroFrame.wire = .ok zeroFrame ∧
      zeroFrame.wire.length = wrappedKeyFrameSize := by
  have hsized : zeroFrame.Sized :=
    ⟨List.length_replicate .., List.length_replicate .., List.length_replicate ..⟩
  have hparse := (frames_exact.2.2.1 zeroFrame zeroFrame.wire).mp
    (encodeWrappedKeyFrame_eq_ok.mpr ⟨hsized, rfl⟩)
  exact ⟨hparse, frames_exact.2.2.2 _ _ hparse⟩

/-! ### Texts of the metadata -/

/-- `decodeBase64URL`; every caller gives a positive length. -/
def decodeBase64URL (field : String) (value : Bytes) (expectedLength : Nat) :
    Except Error Bytes := do
  ensure (value ≠ []) (.message (field ++ " is required"))
  ensure (61 ∉ value) (.message (field ++ " must use unpadded base64url"))
  let decoded ← found (Base64.decode value) (.message ("decode " ++ field))
  ensure (Base64.encode decoded = value) (.message (field ++ " is not canonical base64url"))
  ensure (¬ (0 < expectedLength ∧ decoded.length ≠ expectedLength))
    (.message (field ++ " must decode to " ++ toString expectedLength ++ " bytes"))
  pure decoded

/-- **Only the encoding of the bytes is accepted.** -/
theorem decodeBase64URL_eq_ok {field : String} {value b : Bytes} {n : Nat} (hn : 0 < n) :
    decodeBase64URL field value n = .ok b ↔ value = Base64.encode b ∧ b.length = n := by
  simp only [decodeBase64URL, bind_ok, ensure_ok, found_ok, pure_ok]
  constructor
  · rintro ⟨-, -, -, -, d, -, -, henc, -, hlen, rfl⟩
    refine ⟨henc.symm, ?_⟩
    by_contra hne
    exact hlen ⟨hn, hne⟩
  · rintro ⟨rfl, hlen⟩
    have hne : Base64.encode b ≠ [] := by
      intro hnil
      rw [Base64.encode_eq_nil hnil] at hlen
      exact absurd hlen hn.ne
    exact ⟨(), hne, (), Base64.not_mem_encode rfl, b, Base64.decode_encode b, (), rfl, (),
      fun h => h.2 hlen, rfl⟩

/-- `validateRecipientKeyID`. -/
def validateRecipientKeyID (keyID : Bytes) : Except Error Unit := do
  ensure (recipientKeyIDHead <+: keyID) (.message "recipient key ID must use pqk1_ prefix")
  let digest ← decodeBase64URL "recipient_key_id" (keyID.drop recipientKeyIDHead.length) digestSize
  ensure (digest.length = digestSize)
    (.message "recipient key ID digest has unsupported size")

/-- The recipient key ID of a digest. -/
def keyIDOf (digest : Bytes) : Bytes := recipientKeyIDHead ++ Base64.encode digest

/-- `publicMetadataMandatory`. -/
def publicMetadataMandatory : List Bytes :=
  ["profile", "scheme", "suite_id", "recipient_key_id", "recipient_key_version",
    "recipient_role", "media_key_id", "envelope_id", "payload_header_digest_b64u",
    "kem_ciphertext_digest_b64u", "hkdf_salt_b64u", "hkdf_info_id",
    "cek_wrap_aad_digest_b64u"].map bytes

/-- The first field that occurs a second time. -/
def firstDuplicate : List Bytes → List Bytes → Option Bytes
  | _, [] => none
  | seen, f :: fs => if f ∈ seen then some f else firstDuplicate (f :: seen) fs

/-- `validateMandatory`. -/
def validateMandatory (fields : List Bytes) : Except Error Unit := do
  ensure (fields.length = publicMetadataMandatory.length)
    (.message "mandatory fields are not understood")
  match firstDuplicate [] fields with
  | some f => throw (.mandatoryField "duplicate mandatory field" f)
  | none =>
    match publicMetadataMandatory.find? (· ∉ fields) with
    | some f => throw (.mandatoryField "missing mandatory field" f)
    | none =>
      match fields.find? (· ∉ publicMetadataMandatory) with
      | some f => throw (.mandatoryField "unknown mandatory field" f)
      | none => pure ()

/-- The list that `Encrypt` writes is understood. -/
theorem validateMandatory_self : validateMandatory publicMetadataMandatory = .ok () := by
  decide

/-- No field is found a second time when there is none. -/
theorem firstDuplicate_eq_none {seen fields : List Bytes} :
    firstDuplicate seen fields = none ↔ fields.Nodup ∧ ∀ f ∈ fields, f ∉ seen := by
  induction fields generalizing seen with
  | nil => simp [firstDuplicate]
  | cons f fs ih =>
    rw [firstDuplicate]
    by_cases hf : f ∈ seen
    · simp [hf]
    · simp only [hf, if_false, ih, List.mem_cons, not_or, List.nodup_cons, forall_eq_or_imp,
        not_false_eq_true, true_and]
      constructor
      · rintro ⟨hnodup, hall⟩
        exact ⟨⟨fun hmem => (hall f hmem).1 rfl, hnodup⟩, fun g hg => (hall g hg).2⟩
      · rintro ⟨⟨hnot, hnodup⟩, hall⟩
        exact ⟨hnodup, fun g hg => ⟨fun heq => hnot (heq ▸ hg), hall g hg⟩⟩

theorem nodup_publicMetadataMandatory : publicMetadataMandatory.Nodup := by decide +kernel

/-- **The check is exact**: only the mandatory fields are accepted, in any order. -/
theorem validateMandatory_ok {fields : List Bytes} :
    validateMandatory fields = .ok () ↔ fields.Perm publicMetadataMandatory := by
  have hlist := nodup_publicMetadataMandatory
  constructor
  · intro h
    obtain ⟨-, -, h⟩ := bind_ok.mp h
    split at h
    · cases h
    next hdup =>
      split at h
      · cases h
      next hmissing =>
        split at h
        · cases h
        next hunknown =>
          -- no repetition, and the same members
          have hnodup := (firstDuplicate_eq_none.mp hdup).1
          refine (List.perm_ext_iff_of_nodup hnodup hlist).mpr fun f => ⟨fun hf => ?_, fun hf => ?_⟩
          · simpa using List.find?_eq_none.mp hunknown f hf
          · simpa using List.find?_eq_none.mp hmissing f hf
  · intro h
    have hdup : firstDuplicate [] fields = none :=
      firstDuplicate_eq_none.mpr ⟨h.nodup_iff.mpr hlist, by simp⟩
    have hmissing : publicMetadataMandatory.find? (· ∉ fields) = none :=
      List.find?_eq_none.mpr fun f hf => by simpa using h.mem_iff.mpr hf
    have hunknown : fields.find? (· ∉ publicMetadataMandatory) = none :=
      List.find?_eq_none.mpr fun f hf => by simpa using h.mem_iff.mp hf
    rw [validateMandatory, hdup, hmissing, hunknown]
    exact bind_ok.mpr ⟨(), ensure_ok.mpr h.length_eq, rfl⟩

/-- `PublicWrappingMetadata`. -/
structure PublicWrappingMetadata where
  profile : Bytes
  scheme : Bytes
  suiteID : Bytes
  mandatory : List Bytes
  recipientKeyID : Bytes
  recipientKeyVersion : Int64
  recipientRole : Bytes
  mediaKeyID : Bytes
  envelopeID : Bytes
  payloadHeaderDigestB64U : Bytes
  kemCiphertextDigestB64U : Bytes
  hkdfSaltB64U : Bytes
  hkdfInfoID : Bytes
  cekWrapAADDigestB64U : Bytes
  deriving DecidableEq, Repr

/-- `RecipientWrappingRecord`. -/
structure RecipientWrappingRecord where
  metadata : PublicWrappingMetadata
  wrappedKeyFrame : Bytes
  deriving DecidableEq, Repr

set_option linter.dupNamespace false in
/-- The envelope that `Encrypt` returns. -/
structure Envelope where
  payloadFrame : Bytes
  recipients : List RecipientWrappingRecord
  deriving DecidableEq, Repr

end SafetyRecorder.Envelope
