import SafetyRecorder.Lib.Base64
import SafetyRecorder.Lib.Decimal
import SafetyRecorder.Lib.Table

namespace SafetyRecorder.Envelope

open Wire Checked

/-!
# Canonical fields

The bytes that the post-quantum envelope authenticates and hashes are lists of named fields,
each with a 16-bit length before its name and a 32-bit length before its value.

* `encodeCanonicalFields`, `decodeCanonicalFields` — the encoder and the parsing loop;
* `decodeCanonicalField_eq_ok` — one turn of the loop accepts exactly one encoded field and
  what follows it;
* `decode_encodeCanonicalFields`, `encode_decodeCanonicalFields` — the two are inverse;
* `cekWrapAAD`, `hkdfInfo`, `recipientKeyRecord`, `encodePayloadHeader` — the records made of
  such fields, and what is determined by their bytes.
-/

/-! ### The values of the profile -/

def schemeID : Bytes := bytes "proofline-pq-envelope-v1"
def suiteID : Bytes := bytes "proofline-pq-mlkem768-hkdfsha384-aes256gcm-v1"
def profileID : Bytes := suiteID
def wrappingAlgorithm : Bytes := bytes "proofline-pq-mlkem768-hkdfsha384-aes256gcm"
def wrappingAlgorithmVersion : Int64 := 1
def kemID : Bytes := bytes "ML-KEM-768"
def kdfID : Bytes := bytes "HKDF-SHA384"
def aeadID : Bytes := bytes "AES-256-GCM"
def digestID : Bytes := bytes "SHA-384"
def hkdfInfoID : Bytes := bytes "proofline-cek-wrap-v1"

def nonceSize : Nat := 12
def encapsulationKeySize768 : Nat := 1184
def maxCanonicalNameLength : Nat := 2 ^ 16 - 1
def maxCanonicalValueLength : Nat := 2 ^ 32 - 1

/-- Why an operation of the package fails.  A text that quotes what it was given keeps the
    quoted values beside it. -/
inductive Error where
  | message (text : String)
  /-- `payload header field %d is %q, want %q`. -/
  | headerField (index : Nat) (got want : Bytes)
  /-- `duplicate mandatory field %q`, `missing …`, `unknown …`. -/
  | mandatoryField (text : String) (field : Bytes)
  deriving DecidableEq, Repr

/-! ### Fields -/

/-- `canonicalField`. -/
structure CanonicalField where
  name : Bytes
  value : Bytes
  deriving DecidableEq, Repr

/-- `strconv.Itoa`; `int` has 64 bits. -/
def itoa (i : Int64) : Bytes := (Decimal.formatInt i.toInt).map UInt8.ofNat

/-- `strconv.Atoi`. -/
def atoi (s : Bytes) : Option Int64 :=
  (Decimal.parseInt 64 (s.map UInt8.toNat)).map Int64.ofInt

def stringField (name : String) (value : Bytes) : CanonicalField := ⟨bytes name, value⟩
def intField (name : String) (value : Int64) : CanonicalField := ⟨bytes name, itoa value⟩
def bytesField (name : String) (value : Bytes) : CanonicalField := ⟨bytes name, value⟩

/-- What the encoder appends for one field. -/
def CanonicalField.wire (f : CanonicalField) : Bytes :=
  putBE 2 f.name.length ++ (f.name ++ (putBE 4 f.value.length ++ f.value))

/-- One turn of the encoder's loop. -/
def encodeCanonicalField (f : CanonicalField) : Except Error Bytes := do
  ensure (f.name ≠ []) (.message "canonical field name is required")
  ensure (utf8Valid f.name = true) (.message "canonical field name is not UTF-8")
  ensure (f.name.length ≤ maxCanonicalNameLength)
    (.message "canonical field name is too long")
  ensure (f.value.length ≤ maxCanonicalValueLength)
    (.message "canonical field value is too long")
  pure f.wire

/-- `encodeCanonicalFields`. -/
def encodeCanonicalFields : List CanonicalField → Except Error Bytes
  | [] => pure []
  | f :: fs => do
    let out ← encodeCanonicalField f
    let rest ← encodeCanonicalFields fs
    pure (out ++ rest)

/-- One turn of the parsing loop, on what lies behind the offset: the field, and what lies
    behind the next offset. -/
def decodeCanonicalField (data : Bytes) : Except Error (CanonicalField × Bytes) := do
  ensure (2 ≤ data.length) (.message "canonical field name length is truncated")
  let nameLength := readBE (data.take 2)
  let data := data.drop 2
  ensure (nameLength ≠ 0) (.message "canonical field name is missing")
  ensure (nameLength + 4 ≤ data.length) (.message "canonical field name is truncated")
  let name := data.take nameLength
  let data := data.drop nameLength
  ensure (utf8Valid name = true) (.message "canonical field name is not UTF-8")
  let valueLength := readBE (data.take 4)
  let data := data.drop 4
  ensure (valueLength ≤ data.length) (.message "canonical field value is truncated")
  pure (⟨name, data.take valueLength⟩, data.drop valueLength)

/-- The loop, for at most the given number of turns. -/
def decodeLoop : Nat → Bytes → Except Error (List CanonicalField)
  | _, [] => pure []
  | 0, _ :: _ => throw (.message "canonical fields do not end")
  | n + 1, b :: data => do
    let (f, rest) ← decodeCanonicalField (b :: data)
    let fs ← decodeLoop n rest
    pure (f :: fs)

/-- `decodeCanonicalFields`.  A turn consumes at least a byte, so the length of the data
    bounds the turns. -/
def decodeCanonicalFields (data : Bytes) : Except Error (List CanonicalField) :=
  decodeLoop data.length data

/-! ### One field -/

/-- The fields that have an encoding. -/
structure CanonicalField.Valid (f : CanonicalField) : Prop where
  name_ne : f.name ≠ []
  utf8 : utf8Valid f.name = true
  name_le : f.name.length ≤ maxCanonicalNameLength
  value_le : f.value.length ≤ maxCanonicalValueLength

variable {f : CanonicalField} {out : Bytes}

theorem encodeCanonicalField_eq_ok :
    encodeCanonicalField f = .ok out ↔ f.Valid ∧ out = f.wire := by
  simp only [encodeCanonicalField, bind_ok, ensure_ok, pure_ok]
  constructor
  · rintro ⟨-, hne, -, hutf, -, hname, -, hvalue, rfl⟩
    exact ⟨⟨hne, hutf, hname, hvalue⟩, rfl⟩
  · rintro ⟨h, rfl⟩
    exact ⟨(), h.name_ne, (), h.utf8, (), h.name_le, (), h.value_le, rfl⟩

/-- **One turn of the loop** accepts exactly an encoded field followed by the rest. -/
theorem decodeCanonicalField_eq_ok {data rest : Bytes} :
    decodeCanonicalField data = .ok (f, rest) ↔ f.Valid ∧ data = f.wire ++ rest := by
  simp only [decodeCanonicalField, bind_ok, ensure_ok, pure_ok, Prod.mk.injEq]
  constructor
  · rintro ⟨-, h2, -, hne, -, hname, -, hutf, -, hvalue, rfl, rfl⟩
    set nameLength := readBE (data.take 2) with hnl
    set afterName := (data.drop 2).drop nameLength with han
    set valueLength := readBE (afterName.take 4) with hvl
    have hnameLen : ((data.drop 2).take nameLength).length = nameLength := by
      rw [List.length_take]
      omega
    have hvalueLen : ((afterName.drop 4).take valueLength).length = valueLength := by
      rw [List.length_take]
      omega
    have h4 : 4 ≤ afterName.length := by
      rw [han, List.length_drop]
      omega
    have hname16 : nameLength < 256 ^ 2 := readBE_take_lt 2 data
    have hvalue32 : valueLength < 256 ^ 4 := readBE_take_lt 4 afterName
    refine ⟨⟨?_, hutf, ?_, ?_⟩, ?_⟩
    · intro hnil
      have hnil : (data.drop 2).take nameLength = [] := hnil
      rw [hnil] at hnameLen
      exact hne hnameLen.symm
    · show ((data.drop 2).take nameLength).length ≤ 2 ^ 16 - 1
      rw [hnameLen]
      norm_num at hname16
      omega
    · show ((afterName.drop 4).take valueLength).length ≤ 2 ^ 32 - 1
      rw [hvalueLen]
      norm_num at hvalue32
      omega
    · -- put the pieces back together, from the innermost cut outwards
      have hv : putBE 4 valueLength ++ afterName.drop 4 = afterName := putBE_readBE_take h4
      have hn : putBE 2 nameLength ++ data.drop 2 = data := putBE_readBE_take h2
      simp only [CanonicalField.wire, hnameLen, hvalueLen, List.append_assoc,
        List.take_append_drop, hv]
      rw [han, List.take_append_drop, hn]
  · rintro ⟨h, rfl⟩
    have hname16 : f.name.length < 256 ^ 2 := by
      have := h.name_le
      norm_num [maxCanonicalNameLength] at this ⊢
      omega
    have hvalue32 : f.value.length < 256 ^ 4 := by
      have := h.value_le
      norm_num [maxCanonicalValueLength] at this ⊢
      omega
    have hpos : f.name.length ≠ 0 := fun h0 => h.name_ne (List.length_eq_zero_iff.mp h0)
    simp only [CanonicalField.wire, List.append_assoc, readBE_take_putBE hname16, drop_putBE,
      List.take_left, List.drop_left, readBE_take_putBE hvalue32, List.length_append,
      length_putBE]
    exact ⟨(), by omega, (), hpos, (), by omega, (), h.utf8, (), by omega, trivial, trivial⟩

/-- An encoded field is not empty. -/
theorem CanonicalField.length_wire (f : CanonicalField) :
    f.wire.length = 6 + f.name.length + f.value.length := by
  simp only [CanonicalField.wire, List.length_append, length_putBE]
  omega

/-! ### The loop -/

/-- The loop on an encoded field, with turns left for the rest. -/
theorem decodeLoop_wire (hf : f.Valid) (n : Nat) (rest : Bytes) :
    decodeLoop (n + 1) (f.wire ++ rest)
      = (decodeLoop n rest).map (f :: ·) := by
  have hone : decodeCanonicalField (f.wire ++ rest) = .ok (f, rest) :=
    decodeCanonicalField_eq_ok.mpr ⟨hf, rfl⟩
  have hlen := f.length_wire
  cases hdata : f.wire ++ rest with
  | nil =>
    have : (f.wire ++ rest).length = 0 := by rw [hdata]; rfl
    rw [List.length_append] at this
    omega
  | cons b data =>
    rw [hdata] at hone
    rw [decodeLoop, hone]
    show (do let fs ← decodeLoop n rest; pure (f :: fs)) = (decodeLoop n rest).map (f :: ·)
    cases decodeLoop n rest <;> rfl

variable {fs : List CanonicalField}

/-- **Encode, then decode**: the fields come back, whatever the loop's bound leaves over. -/
theorem decodeLoop_encode (h : encodeCanonicalFields fs = .ok out) {n : Nat} (hn : out.length ≤ n) :
    decodeLoop n out = .ok fs := by
  induction fs generalizing out n with
  | nil =>
    simp only [encodeCanonicalFields, pure_ok] at h
    subst h
    cases n <;> rfl
  | cons f fs ih =>
    simp only [encodeCanonicalFields, bind_ok, pure_ok] at h
    obtain ⟨w, hw, rest, hrest, rfl⟩ := h
    obtain ⟨hf, rfl⟩ := encodeCanonicalField_eq_ok.mp hw
    have hlen := f.length_wire
    rw [List.length_append] at hn
    obtain ⟨m, rfl⟩ : ∃ m, n = m + 1 := ⟨n - 1, by omega⟩
    rw [decodeLoop_wire hf, ih hrest (by omega)]
    rfl

theorem decode_encodeCanonicalFields
    (h : encodeCanonicalFields fs = .ok out) : decodeCanonicalFields out = .ok fs :=
  decodeLoop_encode h le_rfl

/-- **Decode, then encode**: the bytes come back. -/
theorem encode_decodeLoop {n : Nat} {data : Bytes}
    (h : decodeLoop n data = .ok fs) : encodeCanonicalFields fs = .ok data := by
  induction n generalizing data fs with
  | zero =>
    cases data with
    | nil =>
      simp only [decodeLoop, pure_ok] at h
      subst h
      rfl
    | cons b data => cases h
  | succ n ih =>
    cases data with
    | nil =>
      simp only [decodeLoop, pure_ok] at h
      subst h
      rfl
    | cons b data =>
      simp only [decodeLoop, bind_ok, pure_ok, Prod.exists] at h
      obtain ⟨f, rest, hone, gs, hrest, rfl⟩ := h
      obtain ⟨hf, hdata⟩ := decodeCanonicalField_eq_ok.mp hone
      have hw : encodeCanonicalField f = .ok f.wire :=
        encodeCanonicalField_eq_ok.mpr ⟨hf, rfl⟩
      simp only [encodeCanonicalFields, bind_ok, pure_ok]
      exact ⟨f.wire, hw, rest, ih hrest, hdata.symm⟩

theorem encode_decodeCanonicalFields {data : Bytes}
    (h : decodeCanonicalFields data = .ok fs) : encodeCanonicalFields fs = .ok data :=
  encode_decodeLoop h

theorem encodeCanonicalFields_injective {fs gs : List CanonicalField}
    (hf : encodeCanonicalFields fs = .ok out) (hg : encodeCanonicalFields gs = .ok out) :
    fs = gs := by
  have hdec := decode_encodeCanonicalFields hf
  rw [decode_encodeCanonicalFields hg] at hdec
  exact (Except.ok.inj hdec).symm

/-! ### Numbers as text -/

theorem map_toNat_itoa (i : Int64) :
    (itoa i).map UInt8.toNat = Decimal.formatInt i.toInt := by
  have hcode : ∀ c ∈ Decimal.formatInt i.toInt, (UInt8.ofNat c).toNat = c := by
    intro c hc
    have hlt : c < 256 := Decimal.formatInt_lt hc
    simpa using hlt
  simp only [itoa, List.map_map]
  exact (List.map_congr_left hcode).trans (List.map_id _)

theorem itoa_injective {i j : Int64} (h : itoa i = itoa j) : i = j := by
  apply Int64.toInt.inj
  apply Decimal.formatInt_injective
  rw [← map_toNat_itoa, ← map_toNat_itoa, h]

theorem atoi_itoa (i : Int64) : atoi (itoa i) = some i := by
  have hlo := i.le_toInt
  have hhi := i.toInt_lt
  rw [atoi, map_toNat_itoa, Decimal.parseInt_formatInt 64 (by norm_num; omega) (by norm_num; omega),
    Option.map_some, Int64.ofInt_toInt]

/-- A canonical numeral of a positive number is its only one. -/
theorem itoa_of_atoi {text : Bytes} {i : Int64} (h : atoi text = some i) (hpos : 0 < i)
    (hcanon : Decimal.IsCanonical (text.map UInt8.toNat) = true) : itoa i = text := by
  obtain ⟨n, hn, rfl⟩ := Option.map_eq_some_iff.mp h
  obtain ⟨hlo, hhi⟩ := Decimal.parseInt_range hn
  have hval : (Int64.ofInt n).toInt = n :=
    Int64.toInt_ofInt_of_le (by norm_num at hlo ⊢; omega) (by norm_num at hhi ⊢; omega)
  have hposn : 0 < n := by
    have hlt := Int64.lt_iff_toInt_lt.mp hpos
    rwa [hval] at hlt
  have hback : (text.map UInt8.toNat).map UInt8.ofNat = text := by
    rw [List.map_map]
    exact (List.map_congr_left fun c _ => UInt8.ofNat_toNat).trans (List.map_id text)
  rw [itoa, hval, Decimal.formatInt_of_parseInt hn hposn hcanon, hback]

/-! ### Records made of fields -/

/-- `PayloadContext`. -/
structure PayloadContext where
  envelopeID : Bytes
  incidentID : Bytes
  streamID : Bytes
  mediaType : Bytes
  chunkIndex : Int64
  payloadType : Bytes
  mediaKeyID : Bytes
  deriving DecidableEq, Repr

/-- `Recipient`. -/
structure Recipient where
  keyID : Bytes
  keyVersion : Int64
  role : Bytes
  encapsulationKey : Bytes
  deriving DecidableEq, Repr

/-- `payloadHeader`. -/
structure PayloadHeader where
  scheme : Bytes
  suiteID : Bytes
  digest : Bytes
  envelopeID : Bytes
  incidentID : Bytes
  streamID : Bytes
  mediaType : Bytes
  chunkIndex : Int64
  payloadType : Bytes
  payloadAEAD : Bytes
  payloadNonce : Bytes
  deriving DecidableEq, Repr

/-- The fields of a payload header, in their order. -/
def PayloadHeader.fields (h : PayloadHeader) : List CanonicalField :=
  [stringField "scheme" h.scheme,
    stringField "suite_id" h.suiteID,
    stringField "digest" h.digest,
    stringField "envelope_id" h.envelopeID,
    stringField "incident_id" h.incidentID,
    stringField "stream_id" h.streamID,
    stringField "media_type" h.mediaType,
    intField "chunk_index" h.chunkIndex,
    stringField "payload_type" h.payloadType,
    stringField "payload_aead" h.payloadAEAD,
    bytesField "payload_nonce" h.payloadNonce]

/-- `encodePayloadHeader`. -/
def encodePayloadHeader (h : PayloadHeader) : Except Error Bytes := do
  ensure (h.scheme = schemeID ∧ h.suiteID = suiteID ∧ h.digest = digestID ∧
    h.payloadAEAD = aeadID) (.message "unsupported payload header profile")
  ensure (h.payloadNonce.length = nonceSize) (.message "payload nonce must be 12 bytes")
  encodeCanonicalFields h.fields

/-- The associated data of a wrapped content key. -/
def cekWrapAAD (ctx : PayloadContext) (envelopeID : Bytes) (recipient : Recipient)
    (payloadHeaderDigest : Bytes) : Except Error Bytes :=
  encodeCanonicalFields
    [stringField "scheme" schemeID,
      stringField "suite_id" suiteID,
      stringField "digest" digestID,
      stringField "wrapping_algorithm" wrappingAlgorithm,
      intField "wrapping_algorithm_version" wrappingAlgorithmVersion,
      stringField "envelope_id" envelopeID,
      stringField "recipient_key_id" recipient.keyID,
      intField "recipient_key_version" recipient.keyVersion,
      stringField "recipient_role" recipient.role,
      stringField "media_key_id" ctx.mediaKeyID,
      stringField "kem" kemID,
      stringField "kdf" kdfID,
      stringField "wrapping_purpose" hkdfInfoID,
      bytesField "payload_header_digest" payloadHeaderDigest]

/-- The context of a key derivation. -/
def hkdfInfo (envelopeID recipientKeyID kemCiphertextDigest payloadHeaderDigest : Bytes) :
    Except Error Bytes :=
  encodeCanonicalFields
    [stringField "wrapping_purpose" hkdfInfoID,
      stringField "suite_id" suiteID,
      stringField "envelope_id" envelopeID,
      stringField "recipient_key_id" recipientKeyID,
      stringField "digest" digestID,
      bytesField "kem_ciphertext_digest" kemCiphertextDigest,
      bytesField "payload_header_digest" payloadHeaderDigest]

/-- What `RecipientKeyID` hashes. -/
def recipientKeyRecord (encapsulationKey : Bytes) (keyVersion : Int64) : Except Error Bytes := do
  ensure (0 < keyVersion) (.message "recipient key version must be positive")
  ensure (encapsulationKey.length = encapsulationKeySize768)
    (.message "encapsulation key must be 1184 bytes")
  encodeCanonicalFields
    [stringField "scheme" schemeID,
      stringField "kem" kemID,
      stringField "digest" digestID,
      bytesField "encoded_encapsulation_key" encapsulationKey,
      intField "key_version" keyVersion]

/-! ### What the bytes of a record determine -/

theorem encodePayloadHeader_eq_ok {h : PayloadHeader} :
    encodePayloadHeader h = .ok out ↔
      (h.scheme = schemeID ∧ h.suiteID = suiteID ∧ h.digest = digestID ∧
        h.payloadAEAD = aeadID) ∧ h.payloadNonce.length = nonceSize ∧
      encodeCanonicalFields h.fields = .ok out := by
  simp only [encodePayloadHeader, bind_ok, ensure_ok]
  constructor
  · rintro ⟨-, hprofile, -, hnonce, hout⟩
    exact ⟨hprofile, hnonce, hout⟩
  · rintro ⟨hprofile, hnonce, hout⟩
    exact ⟨(), hprofile, (), hnonce, hout⟩

theorem PayloadHeader.fields_injective {h k : PayloadHeader} (heq : h.fields = k.fields) :
    h = k := by
  simp only [PayloadHeader.fields, stringField, intField, bytesField, List.cons.injEq,
    CanonicalField.mk.injEq, true_and, and_true] at heq
  obtain ⟨h1, h2, h3, h4, h5, h6, h7, h8, h9, h10, h11⟩ := heq
  cases h
  cases k
  simp only [PayloadHeader.mk.injEq]
  exact ⟨h1, h2, h3, h4, h5, h6, h7, itoa_injective h8, h9, h10, h11⟩

theorem encodePayloadHeader_injective {h k : PayloadHeader}
    (hh : encodePayloadHeader h = .ok out) (hk : encodePayloadHeader k = .ok out) : h = k :=
  PayloadHeader.fields_injective <| encodeCanonicalFields_injective
    (encodePayloadHeader_eq_ok.mp hh).2.2 (encodePayloadHeader_eq_ok.mp hk).2.2

/-- What the associated data of a wrapped key binds: of the context only the media key, of the
    recipient all but the key itself. -/
structure WrapBinding where
  envelopeID : Bytes
  keyID : Bytes
  keyVersion : Int64
  role : Bytes
  mediaKeyID : Bytes
  payloadHeaderDigest : Bytes
  deriving DecidableEq, Repr

/-- The binding of a call of `cekWrapAAD`. -/
def wrapBinding (ctx : PayloadContext) (envelopeID : Bytes) (recipient : Recipient)
    (payloadHeaderDigest : Bytes) : WrapBinding :=
  ⟨envelopeID, recipient.keyID, recipient.keyVersion, recipient.role, ctx.mediaKeyID,
    payloadHeaderDigest⟩

theorem cekWrapAAD_injective {ctx ctx' : PayloadContext} {e e' : Bytes} {r r' : Recipient}
    {d d' out : Bytes} (h : cekWrapAAD ctx e r d = .ok out)
    (h' : cekWrapAAD ctx' e' r' d' = .ok out) :
    wrapBinding ctx e r d = wrapBinding ctx' e' r' d' := by
  have heq := encodeCanonicalFields_injective h h'
  simp only [stringField, intField, bytesField, List.cons.injEq, CanonicalField.mk.injEq,
    true_and, and_true] at heq
  obtain ⟨he, hkey, hversion, hrole, hmedia, hd⟩ := heq
  simp only [wrapBinding, WrapBinding.mk.injEq]
  exact ⟨he, hkey, itoa_injective hversion, hrole, hmedia, hd⟩

theorem hkdfInfo_injective {e k c d e' k' c' d' out : Bytes} (h : hkdfInfo e k c d = .ok out)
    (h' : hkdfInfo e' k' c' d' = .ok out) : e = e' ∧ k = k' ∧ c = c' ∧ d = d' := by
  have heq := encodeCanonicalFields_injective h h'
  simpa only [stringField, bytesField, List.cons.injEq, CanonicalField.mk.injEq, true_and,
    and_true] using heq

theorem recipientKeyRecord_injective {k k' out : Bytes} {v v' : Int64}
    (h : recipientKeyRecord k v = .ok out) (h' : recipientKeyRecord k' v' = .ok out) :
    k = k' ∧ v = v' := by
  simp only [recipientKeyRecord, bind_ok, ensure_ok] at h h'
  obtain ⟨-, -, -, -, h⟩ := h
  obtain ⟨-, -, -, -, h'⟩ := h'
  have heq := encodeCanonicalFields_injective h h'
  simp only [stringField, intField, bytesField, List.cons.injEq, CanonicalField.mk.injEq,
    true_and, and_true] at heq
  exact ⟨heq.1, itoa_injective heq.2⟩

/-- Equal bindings give equal associated data: nothing else is read. -/
theorem cekWrapAAD_congr {ctx ctx' : PayloadContext} {e e' : Bytes} {r r' : Recipient}
    {d d' : Bytes} (h : wrapBinding ctx e r d = wrapBinding ctx' e' r' d') :
    cekWrapAAD ctx e r d = cekWrapAAD ctx' e' r' d' := by
  simp only [wrapBinding, WrapBinding.mk.injEq] at h
  obtain ⟨rfl, hkey, hversion, hrole, hmedia, rfl⟩ := h
  simp only [cekWrapAAD, hkey, hversion, hrole, hmedia]

/-! ### The encoding and its records -/

/-- A context that `Encrypt` accepts. -/
def sampleContext : PayloadContext :=
  { envelopeID := bytes "env_1", incidentID := bytes "inc_1", streamID := bytes "str_1",
    mediaType := bytes "audio", chunkIndex := 1, payloadType := bytes "chunk",
    mediaKeyID := bytes "mk_1" }

/-- The header of a payload in that context. -/
def sampleHeader : PayloadHeader :=
  { scheme := schemeID, suiteID := suiteID, digest := digestID, envelopeID := bytes "env_1",
    incidentID := bytes "inc_1", streamID := bytes "str_1", mediaType := bytes "audio",
    chunkIndex := 1, payloadType := bytes "chunk", payloadAEAD := aeadID,
    payloadNonce := List.replicate nonceSize 0 }

/-- The associated data of a wrapped key does not depend on the incident of the context. -/
theorem cekWrapAAD_other_incident :
    ∃ (ctx ctx' : PayloadContext) (envelopeID : Bytes) (recipient : Recipient)
      (digest out : Bytes), ctx ≠ ctx' ∧ cekWrapAAD ctx envelopeID recipient digest = .ok out ∧
      cekWrapAAD ctx' envelopeID recipient digest = .ok out :=
  ⟨sampleContext, { sampleContext with incidentID := bytes "inc_2" }, bytes "env_1",
    ⟨bytes "pqk1_a", 1, bytes "owner", []⟩, [], _, by decide, rfl, rfl⟩

/-- **The canonical encoding.**  Encoder and decoder are inverse to each other; the bytes of a
    payload header, of a key-derivation context and of a public-key record determine all they
    were made from, and the associated data of a wrapped key determines exactly its binding. -/
theorem canonical_encoding :
    (∀ (fs : List CanonicalField) (out : Bytes), encodeCanonicalFields fs = .ok out →
      decodeCanonicalFields out = .ok fs) ∧
    (∀ (data : Bytes) (fs : List CanonicalField), decodeCanonicalFields data = .ok fs →
      encodeCanonicalFields fs = .ok data) ∧
    (∀ (ctx ctx' : PayloadContext) (e e' : Bytes) (r r' : Recipient) (d d' out : Bytes),
      cekWrapAAD ctx e r d = .ok out →
      (cekWrapAAD ctx' e' r' d' = .ok out ↔
        e = e' ∧ r.keyID = r'.keyID ∧ r.keyVersion = r'.keyVersion ∧ r.role = r'.role ∧
        ctx.mediaKeyID = ctx'.mediaKeyID ∧ d = d')) ∧
    (∀ e k c d e' k' c' d' out : Bytes, hkdfInfo e k c d = .ok out →
      hkdfInfo e' k' c' d' = .ok out → e = e' ∧ k = k' ∧ c = c' ∧ d = d') ∧
    (∀ (k k' out : Bytes) (v v' : Int64), recipientKeyRecord k v = .ok out →
      recipientKeyRecord k' v' = .ok out → k = k' ∧ v = v') ∧
    (∀ (h h' : PayloadHeader) (out : Bytes), encodePayloadHeader h = .ok out →
      encodePayloadHeader h' = .ok out → h = h') := by
  refine ⟨?_, ?_, ?_, ?_, ?_, ?_⟩
  · intro fs out h
    exact decode_encodeCanonicalFields h
  · intro data fs h
    exact encode_decodeCanonicalFields h
  · intro ctx ctx' e e' r r' d d' out h
    constructor
    · intro h'
      have hbinding := cekWrapAAD_injective h h'
      simpa only [wrapBinding, WrapBinding.mk.injEq] using hbinding
    · intro heq
      have hbinding : wrapBinding ctx e r d = wrapBinding ctx' e' r' d' := by
        simpa only [wrapBinding, WrapBinding.mk.injEq] using heq
      rw [← cekWrapAAD_congr hbinding, h]
  · intro e k c d e' k' c' d' out h h'
    exact hkdfInfo_injective h h'
  · intro k k' out v v' h h'
    exact recipientKeyRecord_injective h h'
  · intro h h' out hh hh'
    exact encodePayloadHeader_injective hh hh'

/-- The fields of a header come back from its bytes. -/
theorem canonical_encoding_header :
    ∃ out, encodePayloadHeader sampleHeader = .ok out ∧
      decodeCanonicalFields out = .ok sampleHeader.fields :=
  ⟨_, rfl, canonical_encoding.1 sampleHeader.fields _ rfl⟩

end SafetyRecorder.Envelope
