import SafetyRecorder.Auth.Discipline
import SafetyRecorder.HttpApi.Access

namespace SafetyRecorder.Auth

open Process Prog Protocol Runs

/-!
# HTTP API — step-up verification

When an account has an active second factor, how does one of its sessions become
verified?

* `requestStep` — one request after the other, each run to its end or cut off by a
  crash, in any order and from any session;
* `Proves` — the request shows possession of a factor that is active before it;
* `Vouched` — the invariant of one request: the session under consideration is not
  verified unless the request proves possession;
* `Spares` — parts of a handler that verify no session, or another one.

The setup of an e-mail factor and its later use share one endpoint and one table of
challenges, so the token of an enrolment that was never finished still verifies a
session after another factor has become active (`abandoned_enrolment_verifies`).
-/

/-- One request, whole or up to a crash: as many calls as there are choices. -/
def requestStep (env : Env) (api : API) (w : World) (l : Request × List Choice) : Option World :=
  ((main api l.1).advance (exec env) w l.2).map (·.2)

/-! ### Proof of possession -/

/-- The e-mail token a verification request presents. -/
def Request.emailToken (api : API) : Request → Option String
  | .main req _ body =>
    if req.route.handler.endpoint = .verifyEmailSecondFactorChallenge then
      some (if api.totp.trimSpace body.code = "" then api.totp.trimSpace body.token
        else api.totp.trimSpace body.code)
    else none
  | .adminWebSession _ _ (.emailVerify code) => some (api.totp.trimSpace code)
  | _ => none

/-- The TOTP code a verification request presents. -/
def Request.totpCode (api : API) : Request → Option String
  | .main req _ body =>
    if req.route.handler.endpoint = .verifyTOTPSecondFactorChallenge then
      some (api.totp.trimSpace body.code)
    else none
  | .adminWebSession _ _ (.totpVerify code) => some (api.totp.trimSpace code)
  | _ => none

/-- The WebAuthn assertion a verification request presents. -/
def Request.assertion : Request → Option Bytes
  | .main req _ body =>
    if req.route.handler.endpoint = .finishWebAuthnVerification then some body.webauthn else none
  | _ => none

/-- **Proof of possession.** The request presents a token that was sent to an active
    e-mail factor of the account, a code for its active TOTP secret, or an assertion by
    one of its credentials. -/
inductive Proves (env : Env) (api : API) (db : AuthDB) (accountID : String) (req : Request) : Prop
  | email (token : String) (htoken : req.emailToken api = some token) (c : EmailChallenge)
      (hc : c ∈ db.emailChallenges) (hhash : c.tokenHash = sessionTokenHash env token)
      (hopen : c.consumedAt = none) (f : EmailFactor) (hf : f ∈ db.emailFactors)
      (hfactor : f.id = c.factorID) (haccount : f.accountID = accountID)
      (hactive : f.factorState = .active) (haddress : f.emailNormalized = c.emailNormalized)
  | totp (code : String) (hcode : req.totpCode api = some code) (f : TOTPFactor)
      (hf : f ∈ db.totpFactors) (haccount : f.accountID = accountID)
      (hactive : f.factorState = .active) (now : Time) (timeStep : Int)
      (hmatch : matchTOTPCode api.totp f.secret code now f.periodSeconds f.digits f.algorithm =
        .ok (some timeStep))
  | webauthn (body : Bytes) (hbody : req.assertion = some body) (account : Account)
      (haccount : account.id = accountID) (user : WebAuthnUser) (sessionData : Bytes)
      (authenticator : Authenticator)
      (hfinish : api.finishLogin account user (listWebAuthnCredentials db accountID api.rpID)
        sessionData body = some authenticator) (c : WebAuthnCredential)
      (hc : c ∈ db.webAuthnCredentials) (howner : c.accountID = accountID)
      (hid : c.authenticator.credentialID = authenticator.credentialID)

/-- A presented e-mail token does not belong to a factor that is still pending while its
    account has an active one. -/
def NoAbandonedEnrolment (env : Env) (api : API) (db : AuthDB) (req : Request) : Prop :=
  ∀ token, req.emailToken api = some token → ∀ c ∈ db.emailChallenges,
    c.tokenHash = sessionTokenHash env token → c.consumedAt = none →
    db.HasActiveFactor c.accountID → ∀ f ∈ db.emailFactors, f.id = c.factorID →
    f.factorState = .active

variable {env : Env} {api : API} {w w' : World} {p : Principal} {sid : String} {V : Prop}
variable {α β : Type}

/-! ### The invariant of one request -/

/-- The session is not verified unless `V`. -/
def Vouched (sid : String) (V : Prop) (w : World) : Prop :=
  ∀ s ∈ w.db.sessions, s.id = sid → s.secondFactorVerifiedAt.isSome = true → V

/-- A call verifies only the session it marks. -/
theorem Vouched.exec {c : Call} {ch : Choice} {a : Answer c} (hw : Vouched sid V w)
    (hspared : ∀ t o, c = .tx t o → t.verifies = some sid → V)
    (h : exec env w c ch = some (a, w')) : Vouched sid V w' := by
  rcases exec_cases h with ⟨t, o, r, db', rfl, hrun, rfl⟩ | ⟨hdb, -, -⟩
  · intro s hs hid hverified
    rcases session_origin (effect_of_run hrun) hs with ⟨s₀, hs₀, hcont, hmarked⟩ | hopened
    · rcases hmarked hverified with hbefore | hmarks
      · exact hw s₀ hs₀ (hcont.id.trans hid) hbefore
      · exact hspared t o rfl (hid ▸ hmarks)
    · rw [hopened.unverified] at hverified
      cases hverified
  · intro s hs
    exact hw s (hdb ▸ hs)

/-- Once possession is proved nothing is left to show. -/
theorem ensures_vouched (hV : V) {R : Type} {x : Proc R} :
    Ensures (exec env) (Vouched sid V) (fun _ _ => True) x w :=
  ensures_of_kept (fun _ _ _ _ _ _ _ _ _ _ _ => hV) fun _ _ _ _ => hV

/-- A part of a handler that verifies no session, or another one. -/
def Spares (env : Env) (sid : String) (V : Prop) (x : Handler α) : Prop :=
  ∀ w, Vouched sid V w → Ensures (exec env) (Vouched sid V) (fun _ _ => True) x.run w

namespace Spares

theorem pure {a : α} : Spares env sid V (pure a) := fun _ hw => ensures_pure hw trivial

theorem throw {e : EarlyAnswer} : Spares env sid V (throw e : Handler α) :=
  fun _ hw => ensures_throw hw trivial

theorem seq {x : Handler α} {f : α → Handler β} (hx : Spares env sid V x)
    (hf : ∀ a, Spares env sid V (f a)) : Spares env sid V (x >>= f) := by
  intro w hw
  refine ensures_seq (Ensures.mono ?_ (hx w hw))
  exact fun r w' hw' _ => ⟨fun a _ => hf a w' hw', fun _ _ => trivial⟩

theorem require {c : Prop} [Decidable c] {r : EarlyAnswer} : Spares env sid V (require c r) := by
  unfold Auth.require
  split
  · exact pure
  · exact throw

theorem get {reply : Reply α} {onError : AuthError → EarlyAnswer} :
    Spares env sid V (reply.get onError) := by
  unfold Reply.get
  split
  · exact pure
  · exact throw

theorem isThere {reply : Reply α} : Spares env sid V (isThere reply) := by
  unfold Auth.isThere
  split
  · exact pure
  · exact pure
  · exact throw

theorem call {c : Call} (hspared : ∀ t o, c = .tx t o → t.verifies = some sid → V) :
    Spares env sid V (ExceptT.lift (Prog.perform c)) :=
  fun _ hw => ⟨hw, fun _ _ _ h => ⟨hw.exec hspared h, trivial⟩⟩

theorem query (q : Query) : Spares env sid V (query q) := call fun _ _ h => by cases h

theorem timeNow : Spares env sid V timeNow := call fun _ _ h => by cases h

/-- A transaction that marks no session. -/
theorem transact {t : Tx} {o : Origin} (ht : t.verifies = none) :
    Spares env sid V (transact t o) :=
  call fun _ _ h hmarks => by cases h; rw [ht] at hmarks; cases hmarks

end Spares

/-! ### Handlers that verify nothing -/

theorem sessionRequires_spares {account : Account} {session : Session} :
    Spares env sid V (sessionRequiresSecondFactorVerification account session) := by
  unfold sessionRequiresSecondFactorVerification
  split
  · exact .pure
  · refine .seq (.query _) fun _ => .seq .isThere fun email => ?_
    split
    · exact .pure
    · refine .seq (.query _) fun _ => .seq .isThere fun totp => ?_
      split
      · exact .pure
      · exact .seq (.query _) fun _ => .get

theorem lookupPrincipal_spares {rawToken : String} {source : AuthSource} {absent : EarlyAnswer} :
    Spares env sid V (lookupPrincipal rawToken source absent) :=
  .seq (.query _) fun _ => .seq .get fun _ => .seq (.query _) fun _ => .seq .get fun _ =>
    .seq .require fun _ => .pure

variable {surface : Surface} {done : Nat}

theorem requestActive_spares {unavailable : EarlyAnswer} :
    Spares env sid V (requestActiveEmailSecondFactorChallenge api surface p unavailable done) :=
  .seq .timeNow fun _ => .seq (.transact rfl) fun _ => .seq .get fun _ => .seq .require fun _ => .pure

variable {email : String}

theorem requestSetup_spares :
    Spares env sid V (requestSetupEmailChallenge api surface p email done) :=
  .seq .require fun _ => .seq .require fun _ => .seq .timeNow fun _ => .seq (.transact rfl) fun _ =>
    .seq .get fun _ => .seq .require fun _ => .pure

theorem requestEmail_spares :
    Spares env sid V (requestEmailSecondFactorChallenge api p email) := by
  refine .seq sessionRequires_spares fun required => ?_
  split
  · exact requestActive_spares
  · exact requestSetup_spares

theorem adminWebRequestEmail_spares {csrfValid : Bool} :
    Spares env sid V (adminWebRequestEmailSecondFactorChallenge api p email csrfValid) := by
  unfold adminWebRequestEmailSecondFactorChallenge
  split
  · exact .seq .require fun _ => .seq .require fun _ => requestSetup_spares
  · refine .seq sessionRequires_spares fun _ => .seq .require fun _ => ?_
    refine .seq (.query _) fun _ => .seq .isThere fun _ => ?_
    exact .seq .require fun _ => .seq .require fun _ => .seq .require fun _ => requestActive_spares

theorem startTOTP_spares {secret : String} :
    Spares env sid V (startTOTP surface p secret done) :=
  .seq (.transact rfl) fun _ => .seq .get fun _ => .pure

variable {onError : AuthError → EarlyAnswer}

theorem webAuthnAccountUser_spares :
    Spares env sid V (webAuthnAccountUser api p onError) :=
  .seq (.transact rfl) fun _ => .seq .get fun _ => .seq (.query _) fun _ => .seq .get fun _ => .pure

theorem storeChallenge_spares {kind : CeremonyType} {data : Bytes} {missing : EarlyAnswer} :
    Spares env sid V (storeChallenge api p kind data missing) :=
  .seq .timeNow fun _ => .seq (.transact rfl) fun _ => .seq .get fun _ => .pure

theorem startRegistration_spares {attachmentValid : Bool} :
    Spares env sid V (startWebAuthnRegistration api p attachmentValid) := by
  refine .seq .require fun _ => .seq .require fun _ => .seq webAuthnAccountUser_spares ?_
  rintro ⟨user, credentials⟩
  dsimp only
  split
  · exact .throw
  · exact storeChallenge_spares

theorem startVerification_spares : Spares env sid V (startWebAuthnVerification api p) := by
  refine .seq .require fun _ => .seq webAuthnAccountUser_spares ?_
  rintro ⟨user, credentials⟩
  refine .seq .require fun _ => ?_
  split
  · exact .throw
  · exact storeChallenge_spares

theorem logoutSession_spares : Spares env sid V (logoutSession p done) :=
  .seq (.transact rfl) fun _ => .seq .isThere fun _ => .pure

variable {hash : Option String}

theorem replacePassword_spares {accountID kept : String} :
    Spares env sid V (replacePassword surface p accountID hash kept done) := by
  unfold replacePassword
  split
  · exact .throw
  · exact .seq (.transact rfl) fun _ => .seq .get fun _ => .seq (.transact rfl) fun _ =>
      .seq .get fun _ => .pure

theorem createAccountFromRequest_spares {username : String} {role : Option Role} :
    Spares env sid V (createAccountFromRequest api surface username hash role) := by
  refine .seq .require fun _ => ?_
  split
  · exact .throw
  · exact .throw
  · exact .seq (.transact rfl) fun _ => .get

theorem serveAdminAction_spares {action : AdminAction} :
    Spares env sid V (serveAdminAction api p action) := by
  cases action with
  | createAccount username hash role =>
    exact .seq createAccountFromRequest_spares fun _ => .pure
  | resetPassword accountID hash => exact replacePassword_spares
  | resetRecovery accountID reason =>
    cases reason with
    | none => exact .throw
    | some reason => exact .seq (.transact rfl) fun _ => .seq .get fun _ => .pure
  | revokeSessions accountID =>
    exact .seq (.query _) fun _ => .seq .get fun _ => .seq (.transact rfl) fun _ =>
      .seq .get fun _ => .pure

/-! ### Requests without a gate -/

theorem loginAccount_spares {username password : String}
    {allowed : Account → Handler Unit} (h : ∀ account, Spares env sid V (allowed account)) :
    Spares env sid V (loginAccount api surface username password allowed) :=
  .seq (.query _) fun _ => .seq .get fun account => .seq .require fun _ => .seq (h account) fun _ =>
    .seq (.transact rfl) fun _ => .seq .get fun _ => .pure

theorem login_spares {username password : String} :
    Spares env sid V (login api username password) :=
  .seq (loginAccount_spares fun _ => .require) fun _ => .seq sessionRequires_spares fun _ => .pure

variable {creds : Credentials}

theorem webLogout_spares : Spares env sid V (webLogout api creds) := by
  refine .seq .require fun _ => ?_
  split
  · exact .throw
  · exact .throw
  · exact .pure
  · exact .seq lookupPrincipal_spares fun _ => .seq .require fun _ => logoutSession_spares

theorem registerAccount_spares {username email : String} :
    Spares env sid V (registerAccount api username email hash) := by
  unfold registerAccount
  split
  · exact .throw
  · exact .throw
  · exact .throw
  · refine .seq .require fun _ => .seq .require fun _ => ?_
    split
    · exact .throw
    · exact .seq (.transact rfl) fun _ => .seq .get fun _ => .pure

theorem serveOpen_spares {endpoint : Endpoint} {body : Body} :
    Spares env sid V (serveOpen api endpoint creds body) := by
  unfold serveOpen
  split
  · exact login_spares
  · exact .seq .require fun _ => login_spares
  · exact webLogout_spares
  · exact registerAccount_spares
  · exact .seq .timeNow fun _ => .seq (.transact rfl) fun _ => .seq .get fun _ => .pure
  · exact .pure

theorem adminWebBootstrap_spares {secretValid : Bool} {username : String} :
    Spares env sid V (adminWebBootstrap api secretValid username hash) := by
  refine .seq (.query _) fun _ => .seq .get fun _ => ?_
  refine .seq .require fun _ => .seq .require fun _ => .seq .require fun _ => ?_
  refine .seq createAccountFromRequest_spares fun _ => .seq .timeNow fun _ => ?_
  exact .seq (.transact rfl) fun _ => .seq .get fun _ => .pure

theorem adminWebPrincipal_spares {cookie : Option String} {absent : EarlyAnswer} :
    Spares env sid V (adminWebPrincipal cookie absent) := by
  unfold adminWebPrincipal
  split
  · exact .throw
  · exact .seq lookupPrincipal_spares fun _ => .seq .require fun _ => .pure

theorem requireAdminAuth_spares {method : String} :
    Spares env sid V (requireAdminAuth method creds) := by
  have hauthenticated : Spares env sid V (authenticatePrivateRequest creds) := by
    unfold authenticatePrivateRequest
    split
    · exact .throw
    · exact lookupPrincipal_spares
    · exact lookupPrincipal_spares
    · exact .throw
  refine .seq hauthenticated fun _ => .seq .require fun _ => .seq .require fun _ => ?_
  refine .seq .require fun _ => .seq sessionRequires_spares fun _ => .seq .require fun _ => .pure

/-! ### Requests of other sessions -/

/-- A program that is signed in with another session spares this one. -/
theorem follows_spares {R : Type} {E : Phase → R → Prop} {t : Phase} {other : String} {x : Proc R}
    (h : (discipline api).Follows E t x) (hsession : t.sessionID = some other) (hne : other ≠ sid)
    (hw : Vouched sid V w) : Ensures (exec env) (Vouched sid V) (fun _ _ => True) x w := by
  induction x generalizing t w with
  | ret r => exact ⟨hw, trivial⟩
  | call c k ih =>
    refine ⟨hw, fun ch a w' hexec => ?_⟩
    refine ih a (h.2 a) (Phase.sessionID_next hsession c a) (hw.exec ?_ hexec)
    rintro x o rfl hmarks
    exact (hne (Phase.verifies_own hsession h.1 hmarks).symm).elim

theorem Serves.spares {x : Handler Response} (h : Serves api p x) (hne : p.session.id ≠ sid) :
    Spares env sid V x :=
  fun _ hw => follows_spares (h _ ⟨none, rfl⟩) rfl hne hw

/-! ### Verification -/

/-- A stored challenge is behind every token that `ConsumeEmailSecondFactorChallenge`
    accepts. -/
theorem verifyEmail_vouched {rawToken : String}
    (hV : ∀ c ∈ w.db.emailChallenges, c.accountID = p.account.id →
      c.tokenHash = sessionTokenHash env rawToken → c.consumedAt = none → V)
    (hw : Vouched sid V w) :
    Ensures (exec env) (Vouched sid V) (fun _ _ => True) (verifyEmail surface p rawToken done).run w := by
  refine ensures_require hw (fun _ => ?_) trivial
  refine ensures_call_then hw fun _ now w₁ htime => ?_
  obtain rfl := exec_timeNow htime
  refine ensures_call_then hw fun ch reply w₂ hexec => ?_
  rcases exec_tx hexec with ⟨r, db', hrun, -, -⟩ | ⟨n, e, -, rfl, hvalue⟩
  · cases effect_of_run hrun with
    | consumeEmail _ _ _ c hc haccount htoken hopen => exact ensures_vouched (hV c hc haccount htoken hopen)
  · refine ensures_seq (ensures_get hw (fun a ha => ?_) fun _ => ⟨by simp, fun _ _ => trivial⟩)
    rw [hvalue] at ha
    cases ha

/-- An active factor is behind every code that `MatchTOTPCode` accepts. -/
theorem verifyTOTP_vouched {code : String} {missing : EarlyAnswer}
    (hV : ∀ f ∈ w.db.totpFactors, f.accountID = p.account.id → f.factorState = .active →
      ∀ now timeStep, matchTOTPCode api.totp f.secret (api.totp.trimSpace code) now f.periodSeconds
        f.digits f.algorithm = .ok (some timeStep) → V)
    (hw : Vouched sid V w) :
    Ensures (exec env) (Vouched sid V) (fun _ _ => True)
      (verifyTOTP api surface p code missing done).run w := by
  refine ensures_require hw (fun _ => ?_) trivial
  refine ensures_read hw (fun _ reply (f : TOTPFactor) hf => ?_) fun _ => trivial
  obtain ⟨hmem, haccount, hactive⟩ := getTOTPSecondFactor_ok hf
  unfold matchFactor
  split
  · exact ensures_throw hw trivial
  · exact ensures_throw hw trivial
  next timeStep hmatch => exact ensures_vouched (hV f hmem haccount hactive _ timeStep hmatch)

/-- A transaction that changes no credential, and the part of the handler after its
    reply. -/
theorem ensures_keeping_credentials {t : Tx} {o : Origin}
    {f : t.Result → Handler β} {Q : Except EarlyAnswer β → World → Prop} (hw : Vouched sid V w)
    (ht : t.verifies = none)
    (hkept : ∀ d db db', Effect env d db t db' → db'.webAuthnCredentials = db.webAuthnCredentials)
    (hf : ∀ w' a, Vouched sid V w' → w'.db.webAuthnCredentials = w.db.webAuthnCredentials →
      Ensures (exec env) (Vouched sid V) Q (f a).run w') (hfail : ∀ r w', Q (.error r) w') :
    Ensures (exec env) (Vouched sid V) Q
      (transact t o >>= fun reply => reply.get onError >>= f).run w := by
  refine ensures_call_then hw fun ch reply w' hexec => ?_
  have hw' : Vouched sid V w' :=
    hw.exec (fun _ _ h hmarks => by cases h; rw [ht] at hmarks; cases hmarks) hexec
  have hcredentials : w'.db.webAuthnCredentials = w.db.webAuthnCredentials := by
    rcases exec_tx hexec with ⟨r, db', hrun, rfl, -⟩ | ⟨n, e, -, rfl, -⟩
    · exact hkept _ _ _ (effect_of_run hrun)
    · rfl
  refine ensures_seq (ensures_get hw' (fun a _ => ⟨?_, by simp⟩)
    fun r => ⟨by simp, fun e _ => hfail e w'⟩)
  rintro a' ⟨⟩
  exact hf w' a hw' hcredentials

theorem webAuthnAccountUser_ensures (hw : Vouched sid V w) :
    Ensures (exec env) (Vouched sid V) (fun r _ => ∀ u, r = .ok u →
        u.2 = listWebAuthnCredentials w.db p.account.id api.rpID)
      (webAuthnAccountUser api p onError).run w := by
  refine ensures_keeping_credentials hw rfl (fun _ _ _ h => by cases h; rfl) ?_ (by simp)
  intro w' user hw' hcredentials
  refine ensures_read hw' (fun _ _ credentials hlisted => ?_) (by simp)
  refine ensures_pure hw' ?_
  rintro _ ⟨⟩
  obtain rfl : listWebAuthnCredentials w'.db p.account.id api.rpID = credentials :=
    Except.ok.inj hlisted
  rw [listWebAuthnCredentials, hcredentials]
  rfl

/-- A stored credential is behind every assertion that `FinishLogin` accepts. -/
theorem finishVerification_vouched {body : Bytes}
    (hV : ∀ user sessionData authenticator, api.finishLogin p.account user
        (listWebAuthnCredentials w.db p.account.id api.rpID) sessionData body = some authenticator →
      ∀ c ∈ listWebAuthnCredentials w.db p.account.id api.rpID,
        c.authenticator.credentialID = authenticator.credentialID → V)
    (hw : Vouched sid V w) :
    Ensures (exec env) (Vouched sid V) (fun _ _ => True) (finishWebAuthnVerification api p body).run w := by
  refine ensures_require hw (fun _ => ?_) trivial
  refine ensures_call_then hw fun _ now w₁ htime => ?_
  obtain rfl := exec_timeNow htime
  refine ensures_keeping_credentials hw rfl (fun _ _ _ h => by cases h; rfl) ?_ (by simp)
  intro w₂ (challenge : WebAuthnChallenge) hw₂ hcredentials
  refine ensures_seq (Ensures.mono ?_ (webAuthnAccountUser_ensures hw₂))
  intro r w₃ hw₃ hlisted
  refine ⟨?_, fun _ _ => trivial⟩
  rintro ⟨user, credentials⟩ rfl
  obtain rfl : credentials = listWebAuthnCredentials w₁.db p.account.id api.rpID := by
    refine (hlisted _ rfl).trans ?_
    rw [listWebAuthnCredentials, hcredentials]
    rfl
  dsimp only
  split
  · exact ensures_throw hw₃ trivial
  next authenticator hfinish =>
    split
    · exact ensures_throw hw₃ trivial
    next stored hstored =>
      have hid := List.find?_some hstored
      have hmem := List.mem_reverse.mp (List.mem_of_find?_eq_some hstored)
      exact ensures_vouched (hV user _ authenticator hfinish stored hmem (beq_iff_eq.mp hid))

/-! ### The session of the request -/

/-- A guarded route that is open before verification enrols no factor. -/
theorem verificationListed_enrols_nothing :
    mainTable.all (fun r => !r.guarded || !r.verificationListed ||
      (r.endpoint != .confirmTOTPSecondFactorEnrollment &&
        r.endpoint != .finishWebAuthnRegistration)) = true := by
  decide +kernel

variable {req : Request}

/-- The open challenge of a presented token proves possession. -/
theorem proves_email (hdb : Sound w.db) (hfresh : NoAbandonedEnrolment env api w.db req)
    (hactive : w.db.HasActiveFactor p.account.id) {token : String}
    (htoken : req.emailToken api = some token) (c : EmailChallenge) (hc : c ∈ w.db.emailChallenges)
    (haccount : c.accountID = p.account.id) (hhash : c.tokenHash = sessionTokenHash env token)
    (hopen : c.consumedAt = none) : Proves env api w.db p.account.id req := by
  obtain ⟨f, hf, hfactor, howner⟩ := hdb.challengeFactor c hc
  have hstate := hfresh token htoken c hc hhash hopen (haccount ▸ hactive) f hf hfactor
  exact .email token htoken c hc hhash hopen f hf hfactor (howner.trans haccount) hstate
    (hdb.openChallenge c hc hopen f hf hfactor hstate)

/-- **A guarded handler before verification** verifies its session only with proof. -/
theorem servePrivate_vouched {r : Routed} {body : Body} (hdb : Sound w.db)
    (hfresh : NoAbandonedEnrolment env api w.db (.main r creds body))
    (hactive : w.db.HasActiveFactor p.account.id)
    (hconfirm : r.route.handler.endpoint ≠ .confirmTOTPSecondFactorEnrollment)
    (hfinish : r.route.handler.endpoint ≠ .finishWebAuthnRegistration)
    (hw : Vouched sid (Proves env api w.db p.account.id (.main r creds body)) w) :
    Ensures (exec env) (Vouched sid (Proves env api w.db p.account.id (.main r creds body)))
      (fun _ _ => True) (servePrivate api r.route.handler.endpoint p body).run w := by
  unfold servePrivate
  split
  · exact logoutSession_spares w hw
  · exact (Spares.seq .require fun _ => replacePassword_spares) w hw
  · exact requestEmail_spares w hw
  next hendpoint =>
    exact verifyEmail_vouched (proves_email hdb hfresh hactive (by simp [Request.emailToken, hendpoint]))
      hw
  · exact startTOTP_spares w hw
  next hendpoint => exact (hconfirm hendpoint).elim
  next hendpoint =>
    refine verifyTOTP_vouched (fun f hf haccount hstate now timeStep hmatch => ?_) hw
    exact .totp _ (by simp [Request.totpCode, hendpoint]) f hf haccount hstate now timeStep hmatch
  · exact startRegistration_spares w hw
  next hendpoint => exact (hfinish hendpoint).elim
  · exact startVerification_spares w hw
  next hendpoint =>
    refine finishVerification_vouched (fun user data authenticator hlogin c hc hid => ?_) hw
    obtain ⟨hmem, hselected⟩ := List.mem_filter.mp hc
    simp only [Bool.and_eq_true, beq_iff_eq] at hselected
    exact .webauthn _ (by simp [Request.assertion, hendpoint]) p.account rfl user data authenticator
      hlogin c hmem hselected.1 hid
  · exact ensures_pure hw trivial

/-- **A form of the admin pages before verification** verifies its session only with
    proof. -/
theorem serveSessionForm_vouched {cookie : Option String} {csrfValid : Bool} {form : SessionForm}
    (hdb : Sound w.db) (hin : p.In w.db)
    (hfresh : NoAbandonedEnrolment env api w.db (.adminWebSession cookie csrfValid form))
    (hactive : w.db.HasActiveFactor p.account.id)
    (hw : Vouched sid (Proves env api w.db p.account.id (.adminWebSession cookie csrfValid form)) w) :
    Ensures (exec env)
      (Vouched sid (Proves env api w.db p.account.id (.adminWebSession cookie csrfValid form)))
      (fun _ _ => True) (serveSessionForm api p csrfValid form).run w := by
  -- the forms of the setup are refused: the account has an active factor
  have hsetup : adminRequiresSecondFactorSetup p.account = false := by
    simp [adminRequiresSecondFactorSetup, hdb.complete p.account hin.account hactive]
  cases form with
  | emailChallenge email => exact adminWebRequestEmail_spares w hw
  | emailVerify code =>
    show Ensures _ _ _ (adminWebVerifyEmailSecondFactorChallenge api p code csrfValid).run w
    rw [adminWebVerifyEmailSecondFactorChallenge, hsetup]
    refine ensures_reads (sessionRequires_ensures hw hdb hin) (fun _ _ => ?_) fun _ => trivial
    refine ensures_require hw (fun _ => ensures_require hw (fun _ => ?_) trivial) trivial
    exact verifyEmail_vouched (proves_email hdb hfresh hactive rfl) hw
  | totpEnroll secret =>
    exact (Spares.seq .require fun _ => .seq .require fun _ => startTOTP_spares) w hw
  | totpConfirm code =>
    refine ensures_require hw (fun hrequired => ?_) trivial
    rw [hsetup] at hrequired
    cases hrequired
  | totpVerify code =>
    refine ensures_require hw (fun _ => ensures_require hw (fun _ => ?_) trivial) trivial
    refine verifyTOTP_vouched (fun f hf haccount hstate now timeStep hmatch => ?_) hw
    exact .totp _ rfl f hf haccount hstate now timeStep hmatch

/-! ### Whole requests -/

/-- The principal of an unverified session of an account with an active factor. -/
theorem not_cleared (hdb : Sound w.db) (hin : p.In w.db) {s : Session} (hs : s ∈ w.db.sessions)
    (hid : p.session.id = s.id) (hunverified : s.secondFactorVerifiedAt = none)
    (hactive : w.db.HasActiveFactor s.accountID) :
    p.account.id = s.accountID ∧ ¬ p.Cleared w.db := by
  obtain rfl : p.session = s := Table.eq_of_key hdb.sessionIDs hin.session hs hid
  refine ⟨hin.owner.symm, ?_⟩
  rintro (hverified | hnone)
  · rw [hunverified] at hverified
    cases hverified
  · exact hnone (hin.owner ▸ hactive)

/-- **One request.** While it runs, an unverified session of an account with an active
    factor is not verified unless the request proves possession. -/
theorem serve_vouched (hdb : Sound w.db) (hfresh : NoAbandonedEnrolment env api w.db req)
    {s : Session} (hs : s ∈ w.db.sessions) (hunverified : s.secondFactorVerifiedAt = none)
    (hactive : w.db.HasActiveFactor s.accountID) :
    Ensures (exec env) (Vouched s.id (Proves env api w.db s.accountID req)) (fun _ _ => True)
      (serve api req).run w := by
  have hw : Vouched s.id (Proves env api w.db s.accountID req) w := by
    intro s' hs' hid hverified
    obtain rfl : s' = s := Table.eq_of_key hdb.sessionIDs hs' hs hid
    rw [hunverified] at hverified
    cases hverified
  cases req with
  | main r creds body =>
    simp only [serve]
    split
    next hguarded =>
      refine ensures_reads (requirePrivateAuth_ensures hw hdb r creds) (fun p hp => ?_) fun _ => trivial
      obtain ⟨hin, -, hverified⟩ := hp
      by_cases hid : p.session.id = s.id
      · obtain ⟨haccount, hnot⟩ := not_cleared hdb hin hs hid hunverified hactive
        have hlisted := (allowed_of_dispatch r.routed hguarded).2 (hverified.resolve_left hnot)
        obtain ⟨-, hlookup⟩ := ServeMux.dispatch_handler r.routed
        obtain ⟨hmem, -⟩ := lookup_guarded hlookup hguarded
        have henrols := List.all_eq_true.mp verificationListed_enrols_nothing _ hmem
        simp only [hguarded, hlisted, Bool.not_true, Bool.false_or, Bool.and_eq_true,
          bne_iff_ne] at henrols
        rw [← haccount] at hw hactive ⊢
        exact servePrivate_vouched hdb hfresh hactive henrols.1 henrols.2 hw
      · exact servePrivate_serves.spares hid w hw
    · exact serveOpen_spares w hw
  | adminAPI method creds action =>
    exact (Spares.seq requireAdminAuth_spares fun _ => serveAdminAction_spares) w hw
  | adminWebLogin username password =>
    refine (Spares.seq (loginAccount_spares fun _ => ?_) fun _ => .pure) w hw
    exact .seq .require fun _ => .require
  | adminWebBootstrap secretValid username hash => exact adminWebBootstrap_spares w hw
  | adminWebLogout cookie csrfValid =>
    exact (Spares.seq adminWebPrincipal_spares fun _ => .seq .require fun _ => logoutSession_spares) w hw
  | adminWebSession cookie csrfValid form =>
    refine ensures_reads (adminWebPrincipal_ensures hw cookie _) (fun p hp => ?_) fun _ => trivial
    by_cases hid : p.session.id = s.id
    · obtain ⟨haccount, -⟩ := not_cleared hdb hp.1 hs hid hunverified hactive
      rw [← haccount] at hw hactive ⊢
      exact serveSessionForm_vouched hdb hp.1 hfresh hactive hw
    · exact serveSessionForm_serves.spares hid w hw
  | adminWeb cookie csrfValid form =>
    refine ensures_reads (requireAdminWeb_ensures hw hdb cookie) (fun p hp => ?_) fun _ => trivial
    by_cases hid : p.session.id = s.id
    · exact ((not_cleared hdb hp.1 hs hid hunverified hactive).2 hp.2).elim
    · exact serveAdminForm_serves.spares hid w hw

theorem sound_requestStep {l : Request × List Choice} (hw : Sound w.db)
    (h : requestStep env api w l = some w') : Sound w'.db := by
  obtain ⟨⟨rest, w₁⟩, hadv, rfl⟩ := Option.map_eq_some_iff.mp h
  have hensures : Ensures (exec env) (fun w => Sound w.db) (fun _ _ => True) (main api l.1) w :=
    ensures_of_kept (fun _ _ _ _ _ hx hexec => sound_exec hx hexec) hw
  exact (hensures.advance hadv).inv

/-- **Step-up verification.** After any sequence of requests, by any sessions and in any
    order, each run to its end or cut off: when a request verifies a session that was
    not verified, of an account that had an active factor before the request, then the
    request proves possession of a factor that was active before it — provided that a
    presented e-mail token is not one of an enrolment that was never finished. -/
theorem verified_by_active_factor {accounts : List Account} (hids : (accounts.map (·.id)).Nodup)
    {ls : List (Request × List Choice)}
    (hrun : run (requestStep env api) (bootWorld accounts) ls = some w) {ds : List Choice}
    (hstep : requestStep env api w (req, ds) = some w')
    (hfresh : NoAbandonedEnrolment env api w.db req) {s s' : Session} (hs : s ∈ w.db.sessions)
    (hunverified : s.secondFactorVerifiedAt = none) (hactive : w.db.HasActiveFactor s.accountID)
    (hs' : s' ∈ w'.db.sessions) (hid : s'.id = s.id)
    (hverified : s'.secondFactorVerifiedAt.isSome = true) :
    Proves env api w.db s.accountID req := by
  have hdb : Sound w.db := invariant_of_step (I := fun w : World => Sound w.db)
    (fun _ _ _ hw h => sound_requestStep hw h) (sound_accounts hids) hrun
  obtain ⟨⟨rest, w₁⟩, hadv, rfl⟩ := Option.map_eq_some_iff.mp hstep
  have hensures : Ensures (exec env) (Vouched s.id (Proves env api w.db s.accountID req))
      (fun _ _ => True) (main api req) w := by
    refine ensures_bind (Ensures.mono ?_ (serve_vouched hdb hfresh hs hunverified hactive))
    intro r w₂ hw₂ _
    cases r with
    | ok | error => exact ⟨hw₂, trivial⟩
  exact (hensures.advance hadv).inv s' hs' hid hverified

/-- The sample account signs in, asks for an e-mail challenge, enrols TOTP instead, and
    signs in once more. -/
def abandonedEnrolment : List (Request × List Choice) :=
  [(loginAs "a", List.replicate 2 {}),
   (asSession "_tok" emailChallengeRoute { email := "m" }, List.replicate 4 {}),
   (asSession "_tok" totpEnrollRoute { secret := "123456" }, List.replicate 3 {}),
   (asSession "_tok" totpConfirmRoute { code := "123456" }, List.replicate 5 {}),
   (loginAs "a", List.replicate 4 {})]

/-- The second session presents a code of the active TOTP factor, a minute later. -/
def codeVerification : Request :=
  asSession (sampleID "tok" 15) totpVerifyRoute { code := "123456" }

theorem verified_by_active_factor_totp :
    ∃ w w' s s',
      run (requestStep sampleEnv sampleAuthAPI)
        (bootWorld [sampleAccount "a" .user .setupRequired]) abandonedEnrolment = some w ∧
      requestStep sampleEnv sampleAuthAPI w
        (codeVerification, List.replicate 7 { later := 60000000000 }) = some w' ∧
      s ∈ w.db.sessions ∧ s.secondFactorVerifiedAt = none ∧ s' ∈ w'.db.sessions ∧ s'.id = s.id ∧
      s'.secondFactorVerifiedAt.isSome = true ∧
      Proves sampleEnv sampleAuthAPI w.db s.accountID codeVerification :=
  ⟨_, _, _, _, rfl, rfl, .tail _ (.head _), rfl, .tail _ (.head _), rfl, rfl,
    @verified_by_active_factor sampleEnv sampleAuthAPI _ _ codeVerification
      [sampleAccount "a" .user .setupRequired] (List.nodup_singleton _) abandonedEnrolment rfl
      (List.replicate 7 { later := 60000000000 }) rfl (fun _ h => by cases h) _ _
      (.tail _ (.head _)) rfl (.inr (.inl ⟨_, .head _, rfl, rfl⟩)) (.tail _ (.head _)) rfl rfl⟩

/-- The second session presents the token of the e-mail challenge. -/
def staleVerification : Request :=
  asSession (sampleID "tok" 15) emailVerifyRoute { code := "iii_tok" }

/-- **An abandoned enrolment verifies a session.** The account has an active TOTP factor;
    the token was sent to an e-mail factor that is still pending. -/
theorem abandoned_enrolment_verifies :
    ∃ w w' s s',
      run (requestStep sampleEnv sampleAuthAPI)
        (bootWorld [sampleAccount "a" .user .setupRequired]) abandonedEnrolment = some w ∧
      requestStep sampleEnv sampleAuthAPI w (staleVerification, List.replicate 7 {}) = some w' ∧
      s ∈ w.db.sessions ∧ s.secondFactorVerifiedAt = none ∧ w.db.HasActiveFactor s.accountID ∧
      s' ∈ w'.db.sessions ∧ s'.id = s.id ∧ s'.secondFactorVerifiedAt.isSome = true ∧
      ¬ Proves sampleEnv sampleAuthAPI w.db s.accountID staleVerification := by
  refine ⟨_, _, _, _, rfl, rfl, .tail _ (.head _), rfl, .inr (.inl ⟨_, .head _, rfl, rfl⟩),
    .tail _ (.head _), rfl, rfl, ?_⟩
  intro hproves
  cases hproves with
  | email token htoken c hc hhash hopen f hf hfactor haccount hactive =>
    obtain rfl := List.mem_singleton.mp hf
    cases hactive
  | totp code hcode => cases hcode
  | webauthn body hbody => cases hbody

end SafetyRecorder.Auth
