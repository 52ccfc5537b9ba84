import SafetyRecorder.HttpApi.RelaySessions
import SafetyRecorder.Lib.Journal

namespace SafetyRecorder.RelaySessions

open Checked Text Relaycap Reconcile Relay
open Wire (bytes)

/-!
# HTTP API — runs of relay requests

The requests of the relay over any run of the API: sessions are created, and tokens are presented in
`relayPreflight`, `relayCommit` and `relayFanoutAuthorize`.  The events of a run are listed newest
first.

* `authorizeChunk_ok` — what a chunk that passes is bound to;
* `Run` — a presented token whose signature is right has a text that was signed before;
* `issued_of_validate` — a validated token holds a capability of a session that was created;
* `accepted_was_issued` — **every accepted request goes back to a session for it**, and a token is
  accepted for one role only;
* `far_expiry_refused` — a capability that expires at the end of 64 bits is refused at once.
-/

/-! ### Validated requests -/

section

variable {lib : Library} {core : Core} {now clock : Time} {c : Relaycap.Capability}

theorem validateCapability_ok {token : Wire.Bytes} {ctx : ValidationContext} :
    validateCapability lib core token ctx clock = .ok c ↔
      ∃ secret, secretBytes core.relayCapability.secret = .ok secret ∧
        validate lib.hmac lib.reader secret token ctx clock = .ok c := by
  simp only [validateCapability, bind_ok, orAnswer_ok]
  refine exists_congr fun secret => and_congr_right fun _ => ?_
  cases validate lib.hmac lib.reader secret token ctx clock <;> simp

/-- The context of the validation of a chunk. -/
def chunkContext (input : Relay.RelayChunkInput) (now : Time) : ValidationContext :=
  ⟨roleUpload, input.relaySessionID, input.incidentID, input.chunk.streamID, now⟩

/-- The context of the validation of a listener. -/
def fanoutContext (input : FanoutInput) (now : Time) : ValidationContext :=
  ⟨roleFanout, input.relaySessionID, input.incidentID, input.streamID, now⟩

/-- The chunk stays within the limits of the capability. -/
structure Within (c : Relaycap.Capability) (input : Relay.RelayChunkInput) : Prop where
  byteSize : input.chunk.byteSize ≤ c.maxChunkBytes.toInt
  chunkIndex : input.chunk.chunkIndex ≤ c.maxChunks.toInt
  mediaType : bytes input.chunk.mediaType.name ∈ c.allowedMediaTypes

/-- **A chunk that passes** was validated and stays within the limits. -/
theorem authorizeChunk_ok {input : Relay.RelayChunkInput} :
    authorizeChunk lib core now clock input = .ok c ↔
      input.chunk.byteSize ≤ core.maxUploadBytes.toInt ∧
        validateCapability lib core input.capability (chunkContext input now) clock = .ok c ∧
        Within c input := by
  simp only [authorizeChunk, bind_ok, ensure_ok, pure_ok, exists_const]
  refine and_congr_right fun _ => ?_
  constructor
  · rintro ⟨c', hvalidate, hlimits, rfl⟩
    simp only [not_or, not_lt, not_not] at hlimits
    exact ⟨hvalidate, hlimits.1, hlimits.2.1, hlimits.2.2⟩
  · rintro ⟨hvalidate, hwithin⟩
    refine ⟨c, hvalidate, ?_, rfl⟩
    rintro (h | h | h)
    · exact absurd hwithin.byteSize (not_le.mpr h)
    · exact absurd hwithin.chunkIndex (not_le.mpr h)
    · exact h hwithin.mediaType

/-- The identifiers of a parsed request are not empty, so that every one of them is compared. -/
theorem parseRelayFanoutAuthorizeJSON_bound {reader : Json.Reader} {body : Wire.Bytes}
    {input : FanoutInput} (h : parseRelayFanoutAuthorizeJSON reader body = .ok input) :
    input.relaySessionID ≠ [] ∧ input.incidentID ≠ [] ∧ input.streamID ≠ [] := by
  simp only [parseRelayFanoutAuthorizeJSON, bind_ok, found_ok, ensure_ok, pure_ok] at h
  obtain ⟨fields, -, session, -, capability, -, incident, -, stream, -, -, hbound, rfl⟩ := h
  exact ⟨hbound.1, hbound.2.2⟩

theorem ChunkBody.parse_bound {reader : Json.Reader} {body : ChunkBody}
    {input : Relay.RelayChunkInput} (h : body.parse reader = .ok input) :
    input.relaySessionID ≠ [] ∧ input.incidentID ≠ [] ∧ input.chunk.streamID ≠ [] := by
  obtain ⟨request, part, hrequest⟩ :
      ∃ request part, Relay.parseRelayChunkRequest request part = .ok input := by
    cases body with
    | json body =>
      simp only [ChunkBody.parse, parseRelayChunkJSON, bind_ok] at h
      obtain ⟨fields, -, request, -, hrequest⟩ := h
      exact ⟨request, [], hrequest⟩
    | form fields part => exact ⟨_, part, h⟩
  have hbound := (parseRelayChunkRequest_ok.mp hrequest).1.bound
  exact ⟨hbound.1, hbound.2.2⟩

end

/-! ### Runs -/

/-- What an instance of the API is asked to do. -/
inductive Action
  | createRelaySession (tables : Tables) (req : SessionRequest)
  | relayChunk (headers : List Wire.Bytes) (now clock : Time) (body : ChunkBody)
  | relayFanoutAuthorize (headers : List Wire.Bytes) (now clock : Time) (body : Wire.Bytes)

/-- A request to an instance with its settings. -/
structure Event where
  core : Core
  action : Action

section

variable (lib : Library)

/-- The event creates a session. -/
def Event.Creates (e : Event) (session : RelaySession) : Prop :=
  ∃ tables req, e.action = .createRelaySession tables req ∧
    createRelaySession lib e.core tables req = .ok session

/-- A request presents a token. -/
def Action.Presents : Action → Wire.Bytes → Prop
  | .createRelaySession _ _, _ => False
  | .relayChunk _ _ _ body, token =>
    ∃ input, body.parse lib.reader = .ok input ∧ token = input.capability
  | .relayFanoutAuthorize _ _ _ body, token =>
    ∃ input, parseRelayFanoutAuthorizeJSON lib.reader body = .ok input ∧ token = input.capability

/-- A text was signed by an event: it is that of one of the two capabilities of a session. -/
def Signed (events : List Event) (text : Wire.Bytes) : Prop :=
  ∃ e ∈ events, ∃ session, e.Creates lib session ∧
    (session.upload.signingInput = text ∨ session.fanout.signingInput = text)

/-- A presented token whose signature is right has a text that was signed before. -/
def Genuine (secret : Wire.Bytes) (e : Event) (earlier : List Event) : Prop :=
  ∀ token payload signature, e.action.Presents lib token →
    token.splitOn dot = [tokenHead, payload, signature] →
    Base64.decode signature = some (lib.hmac secret (tokenHead ++ dot :: payload)) →
    Signed lib earlier (tokenHead ++ dot :: payload)

/-- A run of instances that share the secret, in which signatures cannot be forged and the texts of
    capabilities are UTF-8.  The newest event comes first. -/
structure Run (secret : Wire.Bytes) (events : List Event) : Prop where
  shared : ∀ e ∈ events, e.core.relayCapability.secret = secret
  unforgeable : Journal.Each (Genuine lib (trimSpace secret)) events
  text : ∀ e ∈ events, ∀ session, e.Creates lib session → session.upload.Text

end

/-! ### Where accepted tokens come from -/

section

variable {lib : Library} {e : Event} {session : RelaySession}

/-- The two roles of a session, and the texts of its second capability. -/
theorem Event.Creates.roles (h : e.Creates lib session) :
    session.upload.role = roleUpload ∧ session.fanout.role = roleFanout ∧
      (session.upload.Text → session.fanout.Text) := by
  obtain ⟨tables, req, -, h⟩ := h
  obtain ⟨stream, key, -, hissues⟩ := createRelaySession_ok.mp h
  rw [hissues.fanout, hissues.upload]
  exact ⟨rfl, rfl, fun htext => htext.withRole (by decide +kernel)⟩

/-- **A validated token holds a capability of a session that was created before.** -/
theorem issued_of_validate {earlier : List Event} {token key : Wire.Bytes} {clock : Time}
    {ctx : ValidationContext} {c : Relaycap.Capability}
    (htext : ∀ e' ∈ earlier, ∀ session, e'.Creates lib session → session.upload.Text)
    (hgenuine : Genuine lib key e earlier) (hpresents : e.action.Presents lib token)
    (h : validate lib.hmac lib.reader key token ctx clock = .ok c) :
    ∃ e' ∈ earlier, ∃ session, e'.Creates lib session ∧ (c = session.upload ∨ c = session.fanout) := by
  obtain ⟨-, payload, signature, json, hsplit, hsignature, -⟩ := validate_ok.mp h
  obtain ⟨e', he', session, hcreates, hsigned⟩ :=
    hgenuine token payload signature hpresents hsplit hsignature
  have hupload := htext e' he' session hcreates
  refine ⟨e', he', session, hcreates, ?_⟩
  rcases hsigned with hsigned | hsigned
  · exact .inl (capability_of_signed hupload h hsplit hsigned)
  · exact .inr (capability_of_signed (hcreates.roles.2.2 hupload) h hsplit hsigned)

end

/-- What a validated capability has in common with the request. -/
structure Bound (c : Relaycap.Capability) (ctx : ValidationContext) (clock : Time) : Prop where
  role : c.role = ctx.role
  relaySessionID : c.relaySessionID = ctx.relaySessionID
  incidentID : c.incidentID = ctx.incidentID
  streamID : c.streamID = ctx.streamID
  unexpired : ctx.instant clock < c.expiresAtUnix.toInt * 1000000000

theorem bound_of_validate {lib : Library} {token key : Wire.Bytes} {ctx : ValidationContext}
    {clock : Time} {c : Relaycap.Capability}
    (h : validate lib.hmac lib.reader key token ctx clock = .ok c) (hrole : ctx.role ≠ [])
    (hids : ctx.relaySessionID ≠ [] ∧ ctx.incidentID ≠ [] ∧ ctx.streamID ≠ []) :
    Bound c ctx clock := by
  obtain ⟨-, payload, signature, json, -, -, -, -, hvalid, hadmits⟩ := validate_ok.mp h
  exact ⟨hadmits.role hrole, hadmits.relaySessionID hids.1, hadmits.incidentID hids.2.1,
    hadmits.streamID hids.2.2, lt_of_beforeUnix hvalid.expiresAt_pos hadmits.unexpired⟩

theorem roles_distinct : roleUpload ≠ [] ∧ roleFanout ≠ [] ∧ roleUpload ≠ roleFanout := by
  decide +kernel

/-- **A token is accepted for the role it was signed for only.** -/
theorem role_of_token {lib : Library} {core : Core} {key token : Wire.Bytes}
    {c c' : Relaycap.Capability} {ctx : ValidationContext} {clock : Time} (htext : c.Text)
    (hsign : sign lib.hmac key c = .ok token) (hrole : ctx.role ≠ [])
    (h : validateCapability lib core token ctx clock = .ok c') : c.role = ctx.role := by
  obtain ⟨key', -, hvalidate⟩ := validateCapability_ok.mp h
  rw [← capability_of_token htext hsign hvalidate]
  exact role_of_validate hvalidate hrole

/-- **Every accepted request goes back to a session that was created for it**: the capability is
    that of the session, for the role, the session, the incident and the stream of the request,
    which is made before it expires and stays within its limits.  A token is accepted for one role
    only, and a signed capability is validated as itself if `time.Unix` can represent its expiry. -/
theorem accepted_was_issued {lib : Library} {secret : Wire.Bytes} {events : List Event}
    (hrun : Run lib secret events) :
    (∀ later core headers now clock earlier,
      (∀ body input c, events = later ++ ⟨core, .relayChunk headers now clock body⟩ :: earlier →
        relayChunk lib core headers now clock body = .ok (input, c) →
        Bound c (chunkContext input now) clock ∧ Within c input ∧
          ∃ e ∈ earlier, ∃ session, e.Creates lib session ∧ c = session.upload) ∧
      (∀ body input c,
        events = later ++ ⟨core, .relayFanoutAuthorize headers now clock body⟩ :: earlier →
        relayFanoutAuthorize lib core headers now clock body = .ok (input, c) →
        Bound c (fanoutContext input now) clock ∧
          ∃ e ∈ earlier, ∃ session, e.Creates lib session ∧ c = session.fanout)) ∧
    (∀ core : Core, ∀ key c token, c.Text → sign lib.hmac key c = .ok token →
      (c.role = roleUpload → ∀ now clock input c', input.capability = token →
        authorizeFanout lib core now clock input ≠ .ok c') ∧
      (c.role = roleFanout → ∀ now clock input c', input.capability = token →
        authorizeChunk lib core now clock input ≠ .ok c')) ∧
    (∀ key c token, c.Text → sign lib.hmac key c = .ok token →
      c.expiresAtUnix.toInt ≤ 9223372036854775807 - 62135596800 →
      ∀ now clock, (c.ownContext now).instant clock < c.expiresAtUnix.toInt * 1000000000 →
        validate lib.hmac lib.reader key token (c.ownContext now) clock = .ok c) := by
  obtain ⟨hupload, hfanout, hdistinct⟩ := roles_distinct
  have hkey : ∀ e ∈ events, ∀ {key}, secretBytes e.core.relayCapability.secret = .ok key →
      trimSpace secret = key := by
    intro e he key h
    rw [hrun.shared e he] at h
    exact (secretBytes_ok.mp h).2
  refine ⟨?_, ?_, ?_⟩
  · intro later core headers now clock earlier
    constructor
    · rintro body input c rfl haccepts
      simp only [relayChunk, bind_ok, pure_ok, Prod.mk.injEq] at haccepts
      obtain ⟨-, -, input, hparse, c, hauthorize, rfl, rfl⟩ := haccepts
      obtain ⟨-, hvalidate, hwithin⟩ := authorizeChunk_ok.mp hauthorize
      obtain ⟨key, hbytes, hvalidate⟩ := validateCapability_ok.mp hvalidate
      obtain rfl := hkey _ (List.mem_append_right _ List.mem_cons_self) hbytes
      have hbound := bound_of_validate hvalidate hupload (ChunkBody.parse_bound hparse)
      obtain ⟨e, he, session, hcreates, rfl | rfl⟩ := issued_of_validate
        (fun e he => hrun.text e (by simp [he])) hrun.unforgeable.at ⟨input, hparse, rfl⟩ hvalidate
      · exact ⟨hbound, hwithin, e, he, session, hcreates, rfl⟩
      · -- a capability to listen does not have the role to upload
        exact absurd (hbound.role.symm.trans hcreates.roles.2.1) hdistinct
    · rintro body input c rfl haccepts
      simp only [relayFanoutAuthorize, bind_ok, pure_ok, Prod.mk.injEq] at haccepts
      obtain ⟨-, -, input, hparse, c, hauthorize, rfl, rfl⟩ := haccepts
      obtain ⟨key, hbytes, hvalidate⟩ := validateCapability_ok.mp hauthorize
      obtain rfl := hkey _ (List.mem_append_right _ List.mem_cons_self) hbytes
      have hbound := bound_of_validate hvalidate hfanout (parseRelayFanoutAuthorizeJSON_bound hparse)
      obtain ⟨e, he, session, hcreates, rfl | rfl⟩ := issued_of_validate
        (fun e he => hrun.text e (by simp [he])) hrun.unforgeable.at ⟨input, hparse, rfl⟩ hvalidate
      · exact absurd (hcreates.roles.1.symm.trans hbound.role) hdistinct
      · exact ⟨hbound, e, he, session, hcreates, rfl⟩
  · intro core key c token htext hsign
    constructor
    · rintro hrole now clock input c' rfl haccepted
      exact hdistinct (hrole.symm.trans (role_of_token htext hsign hfanout haccepted))
    · rintro hrole now clock input c' rfl haccepted
      obtain ⟨-, hvalidate, -⟩ := authorizeChunk_ok.mp haccepted
      exact hdistinct ((role_of_token htext hsign hupload hvalidate).symm.trans hrole)
  · intro key c token htext hsign hexp now clock hnow
    obtain ⟨-, hvalid, -⟩ := sign_ok.mp hsign
    exact validate_ownContext hsign htext ((beforeUnix_iff hvalid.expiresAt_pos hexp).mpr hnow)

/-- The settings with a token for the relay. -/
def relayCore : Core :=
  { sampleCore defaultRelayCapabilityTTL with authToken := List.replicate 32 121 }

/-- A listener with the token of the sample session. -/
def fanoutBody : Wire.Bytes :=
  Json.marshal
    [(bytes "relay_session_id", .str (newSessionID fun _ => 1)),
      (bytes "capability", .str (sampleSession 1767225600000000000).fanoutCapability),
      (bytes "incident_id", .str (bytes "inc")),
      (bytes "stream_id", .str (bytes "stream"))]

/-- What is read of it. -/
def fanoutInput : FanoutInput where
  relaySessionID := newSessionID fun _ => 1
  capability := (sampleSession 1767225600000000000).fanoutCapability
  incidentID := bytes "inc"
  streamID := bytes "stream"

/-- A session is created, and a second later its token is presented. -/
def sampleEvents : List Event :=
  [⟨relayCore, .relayFanoutAuthorize [List.replicate 32 121] 1767225601000000000 0 fanoutBody⟩,
    ⟨relayCore, .createRelaySession sampleTables (sampleRequest 1767225600000000000)⟩]

theorem fanoutBody_input :
    parseRelayFanoutAuthorizeJSON sampleLibrary.reader fanoutBody = .ok fanoutInput := by
  decide +kernel

theorem run_sampleEvents : Run sampleLibrary (List.replicate 32 120) sampleEvents where
  shared := by
    rintro e (_ | ⟨_, _ | ⟨_, he⟩⟩)
    · decide +kernel
    · decide +kernel
    · exact absurd he List.not_mem_nil
  unforgeable := by
    refine ⟨?_, fun token payload signature hpresents => hpresents.elim, trivial⟩
    rintro token payload signature ⟨input, hparse, rfl⟩ hsplit -
    obtain rfl : fanoutInput = input := Except.ok.inj (fanoutBody_input.symm.trans hparse)
    -- the presented token is split into the text of the session and its signature
    have hpayload := hsplit.symm.trans
      (splitOn_token (sampleSession 1767225600000000000).fanout [7])
    simp only [List.cons.injEq, and_true, true_and] at hpayload
    refine ⟨_, List.mem_singleton.mpr rfl, sampleSession 1767225600000000000,
      ⟨_, _, rfl, by decide +kernel⟩, .inr ?_⟩
    rw [hpayload.1]
    rfl
  text := by
    rintro e (_ | ⟨_, _ | ⟨_, he⟩⟩) session ⟨tables, req, haction, hcreate⟩
    · cases haction
    · obtain ⟨rfl, rfl⟩ := Action.createRelaySession.inj haction
      obtain ⟨stream, key, hopens, hissues⟩ := createRelaySession_ok.mp hcreate
      rw [hissues.upload]
      exact text_uploadCapability hopens (named_sampleRequest _)
    · exact absurd he List.not_mem_nil

/-- The listener of the run goes back to the session of the run. -/
theorem accepted_was_issued_sample :
    ∃ e ∈ [(⟨relayCore, .createRelaySession sampleTables
        (sampleRequest 1767225600000000000)⟩ : Event)],
      ∃ session, e.Creates sampleLibrary session ∧
        (sampleSession 1767225600000000000).fanout = session.fanout :=
  (((accepted_was_issued run_sampleEvents).1 [] _ _ _ _ _).2 fanoutBody fanoutInput _ rfl
    (by decide +kernel)).2

/-- A capability that expires at the end of 64 bits. -/
def farCapability : Relaycap.Capability :=
  { (sampleSession 1767225600000000000).upload with expiresAtUnix := 9223372036854775807 }

/-- **A capability with a far expiry is refused at once**: `time.Unix` overflows, and the signed
    token counts as expired an instant after it was issued. -/
theorem far_expiry_refused :
    ∃ token, sign sampleLibrary.hmac (List.replicate 32 120) farCapability = .ok token ∧
      (1767225600000000001 : Time) < farCapability.expiresAtUnix.toInt * 1000000000 ∧
      validate sampleLibrary.hmac sampleLibrary.reader (List.replicate 32 120) token
        (farCapability.ownContext 1767225600000000001) 0 = .error .expired := by
  refine ⟨farCapability.signingInput ++ dot :: Base64.encode [7], ?_, ?_, ?_⟩
  · decide +kernel
  · decide
  · decide +kernel

end SafetyRecorder.RelaySessions
