import SafetyRecorder.Incidents.Models
import SafetyRecorder.Lib.Base64
import SafetyRecorder.Lib.Json
import SafetyRecorder.Lib.Table

namespace SafetyRecorder.Relaycap

open Checked
open Wire (bytes)

/-!
# Relay capabilities

`internal/relaycap`: a capability is written as JSON, the JSON as base64url, and the text is signed
with HMAC-SHA256 under the relay secret.  A token is the prefix, the text and the signature, with
dots between them.

* `sign`, `validate` — the two functions of the package, for any `hmac` and any JSON decoder;
* `validate_ok` — **what a validated token is**: its text is signed, and its capability has the
  role and the binding of the context and has not expired;
* `validate_of_sign` — **a signed capability is validated as itself** in every context that admits it;
* `beforeUnix_iff` — what the check of the expiry means, if `time.Unix` can represent it;
* `capability_of_token` — a signed token holds nothing but its capability.
-/

/-- `Version`. -/
def version : Wire.Bytes := bytes "proofline.relay-capability.v1"

/-- `RoleUpload`. -/
def roleUpload : Wire.Bytes := bytes "upload"

/-- `RoleFanout`. -/
def roleFanout : Wire.Bytes := bytes "fanout"

/-- `tokenPrefix`. -/
def tokenHead : Wire.Bytes := bytes "proofline-relay-capability-v1"

/-- `minSecretLength`. -/
def minSecretLength : Nat := 32

/-- The dot between the parts of a token. -/
def dot : UInt8 := 46

/-- The errors of the package. -/
inductive Error
  | invalidSecret | invalidToken | invalidSignature | invalidClaims | expired | wrongRole
  | wrongBinding
  deriving DecidableEq, Repr

/-- `Capability`. -/
structure Capability where
  version : Wire.Bytes
  relaySessionID : Wire.Bytes
  role : Wire.Bytes
  incidentID : Wire.Bytes
  streamID : Wire.Bytes
  issuedAtUnix : Int64
  expiresAtUnix : Int64
  maxChunkBytes : Int64
  maxChunks : Int64
  allowedMediaTypes : List Wire.Bytes
  deriving DecidableEq, Repr

/-- `ValidationContext`. -/
structure ValidationContext where
  role : Wire.Bytes
  relaySessionID : Wire.Bytes
  incidentID : Wire.Bytes
  streamID : Wire.Bytes
  now : Time
  deriving DecidableEq, Repr

/-- What `validateClaims` accepts. -/
structure Capability.Valid (c : Capability) : Prop where
  version : c.version = Relaycap.version
  relaySessionID : c.relaySessionID ≠ []
  role : c.role ≠ []
  incidentID : c.incidentID ≠ []
  streamID : c.streamID ≠ []
  issuedAt : 0 < c.issuedAtUnix
  expiresAt : c.issuedAtUnix < c.expiresAtUnix
  maxChunkBytes : 0 < c.maxChunkBytes
  maxChunks : 0 < c.maxChunks
  allowedMediaTypes : c.allowedMediaTypes ≠ []

theorem Capability.Valid.expiresAt_pos {c : Capability} (h : c.Valid) : 0 < c.expiresAtUnix.toInt :=
  lt_trans (Int64.lt_iff_toInt_lt.mp h.issuedAt) (Int64.lt_iff_toInt_lt.mp h.expiresAt)

/-- `validateClaims`. -/
def validateClaims (c : Capability) : Except Error Unit :=
  if c.version ≠ version ∨ c.relaySessionID = [] ∨ c.role = [] ∨ c.incidentID = [] ∨
      c.streamID = [] ∨ c.issuedAtUnix ≤ 0 ∨ c.expiresAtUnix ≤ c.issuedAtUnix ∨
      c.maxChunkBytes ≤ 0 ∨ c.maxChunks ≤ 0 ∨ c.allowedMediaTypes.length = 0 then
    .error .invalidClaims
  else .ok ()

/-- `SecretBytes`; `trimSpace` is `strings.TrimSpace`. -/
def secretBytes (secret : Wire.Bytes) : Except Error Wire.Bytes :=
  if (Text.trimSpace secret).length < minSecretLength then .error .invalidSecret
  else .ok (Text.trimSpace secret)

/-- The fields of a capability, as `json.Marshal` writes them. -/
def Capability.fields (c : Capability) : List (Wire.Bytes × Json.Value) :=
  [(bytes "version", .str c.version),
    (bytes "relay_session_id", .str c.relaySessionID),
    (bytes "role", .str c.role),
    (bytes "incident_id", .str c.incidentID),
    (bytes "stream_id", .str c.streamID),
    (bytes "iat", .int c.issuedAtUnix),
    (bytes "exp", .int c.expiresAtUnix),
    (bytes "max_chunk_bytes", .int c.maxChunkBytes),
    (bytes "max_chunks", .int c.maxChunks),
    (bytes "allowed_media_types", .strs c.allowedMediaTypes)]

/-- `json.Unmarshal` into a capability: unknown fields are skipped, missing ones are zero. -/
def unmarshal (reader : Json.Reader) (payload : Wire.Bytes) : Option Capability := do
  let fields ← reader.decode payload
  some
    { version := ← Json.getString fields "version"
      relaySessionID := ← Json.getString fields "relay_session_id"
      role := ← Json.getString fields "role"
      incidentID := ← Json.getString fields "incident_id"
      streamID := ← Json.getString fields "stream_id"
      issuedAtUnix := ← Json.getInt fields "iat"
      expiresAtUnix := ← Json.getInt fields "exp"
      maxChunkBytes := ← Json.getInt fields "max_chunk_bytes"
      maxChunks := ← Json.getInt fields "max_chunks"
      allowedMediaTypes := ← Json.getStrings fields "allowed_media_types" }

/-- The text that is signed. -/
def Capability.signingInput (c : Capability) : Wire.Bytes :=
  tokenHead ++ dot :: Base64.encode (Json.marshal c.fields)

/-- The seconds from the first instant of year 1, where Go counts from, to 1970. -/
def unixToInternal : Int64 := 62135596800

/-- `now.Before(time.Unix(sec, 0))`.  `time.Unix` adds the offset in 64 bits. -/
def beforeUnix (now : Time) (sec : Int64) : Prop :=
  now / 1000000000 + unixToInternal.toInt < (sec + unixToInternal).toInt

instance (now : Time) (sec : Int64) : Decidable (beforeUnix now sec) :=
  inferInstanceAs (Decidable (_ < _))

/-- The instant for which `IsZero` holds. -/
def zeroTime : Time := -62135596800000000000

/-- The instant a context is checked at: the zero instant stands for the clock. -/
def ValidationContext.instant (ctx : ValidationContext) (clock : Time) : Time :=
  if ctx.now = zeroTime then clock else ctx.now

section

variable (hmac : Wire.Bytes → Wire.Bytes → Wire.Bytes) (reader : Json.Reader)

/-- `Sign`. -/
def sign (secret : Wire.Bytes) (c : Capability) : Except Error Wire.Bytes := do
  ensure (minSecretLength ≤ secret.length) .invalidSecret
  validateClaims c
  pure (c.signingInput ++ dot :: Base64.encode (hmac secret c.signingInput))

/-- `Validate`, after the token was split. -/
def validateParts (secret head payload signature : Wire.Bytes) (ctx : ValidationContext)
    (clock : Time) : Except Error Capability := do
  ensure (head = tokenHead) .invalidToken
  let gotSignature ← found (Base64.decode signature) .invalidToken
  ensure (gotSignature = hmac secret (head ++ dot :: payload)) .invalidSignature
  let json ← found (Base64.decode payload) .invalidToken
  let capability ← found (unmarshal reader json) .invalidToken
  validateClaims capability
  ensure (beforeUnix (ctx.instant clock) capability.expiresAtUnix) .expired
  ensure (¬ (ctx.role ≠ [] ∧ capability.role ≠ ctx.role)) .wrongRole
  ensure (¬ (ctx.relaySessionID ≠ [] ∧ capability.relaySessionID ≠ ctx.relaySessionID)) .wrongBinding
  ensure (¬ (ctx.incidentID ≠ [] ∧ capability.incidentID ≠ ctx.incidentID)) .wrongBinding
  ensure (¬ (ctx.streamID ≠ [] ∧ capability.streamID ≠ ctx.streamID)) .wrongBinding
  pure capability

/-- `Validate`. -/
def validate (secret token : Wire.Bytes) (ctx : ValidationContext) (clock : Time) :
    Except Error Capability := do
  ensure (minSecretLength ≤ secret.length) .invalidSecret
  match token.splitOn dot with
  | [head, payload, signature] => validateParts hmac reader secret head payload signature ctx clock
  | _ => .error .invalidToken

end

/-! ### Claims and texts -/

theorem validateClaims_ok {c : Capability} : validateClaims c = .ok () ↔ c.Valid := by
  unfold validateClaims
  split_ifs with h
  · refine iff_of_false nofun fun hv => ?_
    rcases h with h | h | h | h | h | h | h | h | h | h
    · exact h hv.version
    · exact hv.relaySessionID h
    · exact hv.role h
    · exact hv.incidentID h
    · exact hv.streamID h
    · exact absurd hv.issuedAt (Int64.not_lt.mpr h)
    · exact absurd hv.expiresAt (Int64.not_lt.mpr h)
    · exact absurd hv.maxChunkBytes (Int64.not_lt.mpr h)
    · exact absurd hv.maxChunks (Int64.not_lt.mpr h)
    · exact hv.allowedMediaTypes (List.length_eq_zero_iff.mp h)
  · simp only [not_or, Int64.not_le, not_not] at h
    obtain ⟨hversion, hsession, hrole, hincident, hstream, hiat, hexp, hbytes, hchunks, hmedia⟩ := h
    exact iff_of_true rfl ⟨hversion, hsession, hrole, hincident, hstream, hiat, hexp, hbytes, hchunks,
      fun hnil => hmedia (List.length_eq_zero_iff.mpr hnil)⟩

theorem secretBytes_ok {s secret : Wire.Bytes} :
    secretBytes s = .ok secret ↔
      minSecretLength ≤ (Text.trimSpace s).length ∧ Text.trimSpace s = secret := by
  unfold secretBytes
  split_ifs with h
  · exact iff_of_false nofun fun hs => absurd h (not_lt.mpr hs.1)
  · simp [not_lt.mp h]

/-- The texts of a capability are UTF-8, so that JSON leaves them alone. -/
structure Capability.Text (c : Capability) : Prop where
  version : Wire.utf8Valid c.version = true
  relaySessionID : Wire.utf8Valid c.relaySessionID = true
  role : Wire.utf8Valid c.role = true
  incidentID : Wire.utf8Valid c.incidentID = true
  streamID : Wire.utf8Valid c.streamID = true
  allowedMediaTypes : ∀ m ∈ c.allowedMediaTypes, Wire.utf8Valid m = true

theorem Capability.Valid.withRole {c : Capability} (h : c.Valid) {role : Wire.Bytes}
    (hrole : role ≠ []) : ({ c with role } : Capability).Valid :=
  ⟨h.version, h.relaySessionID, hrole, h.incidentID, h.streamID, h.issuedAt, h.expiresAt,
    h.maxChunkBytes, h.maxChunks, h.allowedMediaTypes⟩

theorem Capability.Text.withRole {c : Capability} (h : c.Text) {role : Wire.Bytes}
    (hrole : Wire.utf8Valid role = true) : ({ c with role } : Capability).Text :=
  ⟨h.version, h.relaySessionID, hrole, h.incidentID, h.streamID, h.allowedMediaTypes⟩

theorem names_fields (c : Capability) : Json.Names (c.fields.map (·.1)) where
  kept := by
    show ∀ name ∈ ["version", "relay_session_id", "role", "incident_id", "stream_id", "iat", "exp",
      "max_chunk_bytes", "max_chunks", "allowed_media_types"].map bytes, Json.coerce name = name
    decide +kernel
  nodup := by
    show (["version", "relay_session_id", "role", "incident_id", "stream_id", "iat", "exp",
      "max_chunk_bytes", "max_chunks", "allowed_media_types"].map bytes).Nodup
    decide +kernel

/-- **A capability is read back from its JSON.** -/
theorem unmarshal_marshal (reader : Json.Reader) {c : Capability} (h : c.Text) :
    unmarshal reader (Json.marshal c.fields) = some c := by
  have hnames := names_fields c
  have hstring : ∀ {name : String} {s : Wire.Bytes}, (bytes name, .str s) ∈ c.fields →
      Wire.utf8Valid s = true → Json.getString (Json.transported c.fields) name = some s := by
    intro name s hmem hvalid
    rw [hnames.getString hmem, Json.coerce_eq_self hvalid]
  have hmedia : Json.getStrings (Json.transported c.fields) "allowed_media_types" =
      some c.allowedMediaTypes := by
    rw [hnames.getStrings (l := c.allowedMediaTypes) (by simp [Capability.fields])]
    exact congrArg some ((List.map_congr_left fun m hm =>
      Json.coerce_eq_self (h.allowedMediaTypes m hm)).trans (List.map_id _))
  rw [unmarshal, reader.decode_marshal]
  simp only [Option.bind_eq_bind, Option.bind_some, Option.bind_eq_some_iff]
  refine ⟨_, hstring (by simp [Capability.fields]) h.version,
    _, hstring (by simp [Capability.fields]) h.relaySessionID,
    _, hstring (by simp [Capability.fields]) h.role,
    _, hstring (by simp [Capability.fields]) h.incidentID,
    _, hstring (by simp [Capability.fields]) h.streamID,
    _, hnames.getInt (by simp [Capability.fields]), _, hnames.getInt (by simp [Capability.fields]),
    _, hnames.getInt (by simp [Capability.fields]), _, hnames.getInt (by simp [Capability.fields]),
    _, hmedia, rfl⟩

/-! ### Tokens -/

theorem dot_not_mem_encode (b : Wire.Bytes) : dot ∉ Base64.encode b :=
  Base64.not_mem_encode (by decide)

theorem dot_not_mem_tokenHead : dot ∉ tokenHead := by decide +kernel

/-- A token is split into its parts. -/
theorem splitOn_token (c : Capability) (signature : Wire.Bytes) :
    (c.signingInput ++ dot :: Base64.encode signature).splitOn dot =
      [tokenHead, Base64.encode (Json.marshal c.fields), Base64.encode signature] := by
  have hjoin : c.signingInput ++ dot :: Base64.encode signature =
      [dot].intercalate
        [tokenHead, Base64.encode (Json.marshal c.fields), Base64.encode signature] := by
    simp [Capability.signingInput, List.intercalate, List.intersperse]
  rw [hjoin]
  refine List.splitOn_intercalate dot ?_ (by simp)
  simp only [List.mem_cons, List.not_mem_nil, or_false]
  rintro l (rfl | rfl | rfl)
  · exact dot_not_mem_tokenHead
  · exact dot_not_mem_encode _
  · exact dot_not_mem_encode _

/-- What the context asks of a capability. -/
structure ValidationContext.Admits (ctx : ValidationContext) (clock : Time) (c : Capability) :
    Prop where
  unexpired : beforeUnix (ctx.instant clock) c.expiresAtUnix
  role : ctx.role ≠ [] → c.role = ctx.role
  relaySessionID : ctx.relaySessionID ≠ [] → c.relaySessionID = ctx.relaySessionID
  incidentID : ctx.incidentID ≠ [] → c.incidentID = ctx.incidentID
  streamID : ctx.streamID ≠ [] → c.streamID = ctx.streamID

/-- The context a capability is meant for, at an instant. -/
def Capability.ownContext (c : Capability) (now : Time) : ValidationContext :=
  ⟨c.role, c.relaySessionID, c.incidentID, c.streamID, now⟩

section

variable {hmac : Wire.Bytes → Wire.Bytes → Wire.Bytes} {reader : Json.Reader}
  {secret token : Wire.Bytes} {ctx : ValidationContext} {clock : Time} {c : Capability}

/-- **What a validated token is**: three parts, the middle one signed by the last and holding the
    capability, which is valid and admitted by the context. -/
theorem validate_ok :
    validate hmac reader secret token ctx clock = .ok c ↔
      minSecretLength ≤ secret.length ∧
        ∃ payload signature json, token.splitOn dot = [tokenHead, payload, signature] ∧
          Base64.decode signature = some (hmac secret (tokenHead ++ dot :: payload)) ∧
          Base64.decode payload = some json ∧ unmarshal reader json = some c ∧ c.Valid ∧
          ctx.Admits clock c := by
  simp only [validate, bind_ok, ensure_ok, exists_const]
  refine and_congr_right fun _ => ?_
  constructor
  · intro h
    split at h
    next head payload signature hsplit =>
      simp only [validateParts, bind_ok, ensure_ok, found_ok, pure_ok] at h
      obtain ⟨-, rfl, got, hgot, -, rfl, json, hjson, cap, hcap, u, hvalid, -, hnow, -, hrole, -,
        hsession, -, hincident, -, hstream, rfl⟩ := h
      refine ⟨payload, signature, json, hsplit, hgot, hjson, hcap, validateClaims_ok.mp hvalid,
        hnow, ?_, ?_, ?_, ?_⟩
      · exact fun hne => by_contra fun h => hrole ⟨hne, h⟩
      · exact fun hne => by_contra fun h => hsession ⟨hne, h⟩
      · exact fun hne => by_contra fun h => hincident ⟨hne, h⟩
      · exact fun hne => by_contra fun h => hstream ⟨hne, h⟩
    · cases h
  · rintro ⟨payload, signature, json, hsplit, hgot, hjson, hcap, hvalid, hadmits⟩
    rw [hsplit]
    simp only [validateParts, bind_ok, ensure_ok, found_ok, pure_ok]
    refine ⟨(), trivial, _, hgot, (), rfl, json, hjson, c, hcap, (), validateClaims_ok.mpr hvalid,
      (), hadmits.unexpired, (), ?_, (), ?_, (), ?_, (), ?_, rfl⟩
    · exact fun h => h.2 (hadmits.role h.1)
    · exact fun h => h.2 (hadmits.relaySessionID h.1)
    · exact fun h => h.2 (hadmits.incidentID h.1)
    · exact fun h => h.2 (hadmits.streamID h.1)

/-- A validated capability has the role that was asked for. -/
theorem role_of_validate (h : validate hmac reader secret token ctx clock = .ok c)
    (hrole : ctx.role ≠ []) : c.role = ctx.role := by
  obtain ⟨-, payload, signature, json, -, -, -, -, -, hadmits⟩ := validate_ok.mp h
  exact hadmits.role hrole

theorem sign_ok {secret token : Wire.Bytes} :
    sign hmac secret c = .ok token ↔
      minSecretLength ≤ secret.length ∧ c.Valid ∧
        token = c.signingInput ++ dot :: Base64.encode (hmac secret c.signingInput) := by
  simp only [sign, bind_ok, ensure_ok, pure_ok, exists_const, eq_comm (a := token)]
  refine and_congr_right fun _ => ⟨?_, ?_⟩
  · rintro ⟨u, hclaims, htoken⟩
    exact ⟨validateClaims_ok.mp hclaims, htoken⟩
  · rintro ⟨hvalid, htoken⟩
    exact ⟨(), validateClaims_ok.mpr hvalid, htoken⟩

/-- **What was signed is validated**, in every context that admits it. -/
theorem validate_of_sign (h : sign hmac secret c = .ok token) (htext : c.Text)
    (hadmits : ctx.Admits clock c) : validate hmac reader secret token ctx clock = .ok c := by
  obtain ⟨hsecret, hvalid, rfl⟩ := sign_ok.mp h
  exact validate_ok.mpr ⟨hsecret, _, _, _, splitOn_token c _, Base64.decode_encode _,
    Base64.decode_encode _, unmarshal_marshal reader htext, hvalid, hadmits⟩

/-- **A capability is validated as itself for its own role and binding**, before it expires. -/
theorem validate_ownContext {now : Time} (h : sign hmac secret c = .ok token) (htext : c.Text)
    (hnow : beforeUnix ((c.ownContext now).instant clock) c.expiresAtUnix) :
    validate hmac reader secret token (c.ownContext now) clock = .ok c :=
  validate_of_sign h htext ⟨hnow, fun _ => rfl, fun _ => rfl, fun _ => rfl, fun _ => rfl⟩

/-- **A token whose text was signed for a capability holds that capability.** -/
theorem capability_of_signed {c' : Capability} (htext : c'.Text)
    (h : validate hmac reader secret token ctx clock = .ok c) {payload signature : Wire.Bytes}
    (hsplit : token.splitOn dot = [tokenHead, payload, signature])
    (hsigned : c'.signingInput = tokenHead ++ dot :: payload) : c = c' := by
  obtain ⟨-, payload', signature', json, hsplit', -, hjson, hcap, -⟩ := validate_ok.mp h
  rw [hsplit] at hsplit'
  obtain ⟨rfl, rfl⟩ : payload = payload' ∧ signature = signature' := by simpa using hsplit'
  have hpayload : Base64.encode (Json.marshal c'.fields) = payload := by
    simpa [Capability.signingInput] using hsigned
  rw [← hpayload, Base64.decode_encode] at hjson
  obtain ⟨⟩ := hjson
  exact Option.some.inj (hcap.symm.trans (unmarshal_marshal reader htext))

/-- **A signed token holds nothing but its capability**, under whatever secret it is validated. -/
theorem capability_of_token {key : Wire.Bytes} {c' : Capability} (htext : c'.Text)
    (hsign : sign hmac key c' = .ok token)
    (h : validate hmac reader secret token ctx clock = .ok c) : c = c' := by
  obtain ⟨-, -, rfl⟩ := sign_ok.mp hsign
  exact capability_of_signed htext h (splitOn_token c' _) rfl

end

/-! ### Expiry -/

theorem seconds_lt_iff (now sec : Int) : now / 1000000000 < sec ↔ now < sec * 1000000000 := by
  omega

/-- An instant is before a second that `time.Unix` can represent exactly when it is. -/
theorem beforeUnix_iff {now : Time} {sec : Int64} (hpos : 0 < sec.toInt)
    (h : sec.toInt ≤ 9223372036854775807 - 62135596800) :
    beforeUnix now sec ↔ now < sec.toInt * 1000000000 := by
  have hoffset : unixToInternal.toInt = 62135596800 := rfl
  have hadd : (sec + unixToInternal).toInt = sec.toInt + 62135596800 := by
    rw [Int64.toInt_add, hoffset]
    exact Int.bmod_eq_of_le (by omega) (by omega)
  rw [beforeUnix, hadd, hoffset, add_lt_add_iff_right]
  exact seconds_lt_iff now sec.toInt

/-- A second that overflows lies in the past: a token is accepted before it expires only. -/
theorem lt_of_beforeUnix {now : Time} {sec : Int64} (hpos : 0 < sec.toInt)
    (h : beforeUnix now sec) : now < sec.toInt * 1000000000 := by
  have hoffset : unixToInternal.toInt = 62135596800 := rfl
  have hle : (sec + unixToInternal).toInt ≤ sec.toInt + 62135596800 := by
    rw [Int64.toInt_add, hoffset, Int.bmod]
    have := sec.toInt_lt
    split <;> omega
  rw [beforeUnix, hoffset] at h
  exact (seconds_lt_iff now sec.toInt).mp (by
    have := lt_of_lt_of_le h hle
    exact lt_of_add_lt_add_right this)

end SafetyRecorder.Relaycap
