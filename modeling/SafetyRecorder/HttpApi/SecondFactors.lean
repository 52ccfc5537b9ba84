import SafetyRecorder.HttpApi.Gate

namespace SafetyRecorder.Auth

open Process

/-!
# HTTP API — the second-factor handlers

`second_factor_handlers.go`, `totp_second_factor_handlers.go`,
`webauthn_second_factor_handlers.go` and their counterparts for the admin pages
(`admin_web_handlers.go`), after authentication.

The pages and the JSON handlers make the same calls; where they do, they share a
definition with the `Surface` and the final status as parameters.  Reads that only fill
a page are left out.
-/

/-- Who is answered: a client of the JSON interface or a browser on the admin pages. -/
inductive Surface
  | json | page
  deriving DecidableEq, Repr

/-- A page carries a message for its reader instead of an error code. -/
def Surface.reply (surface : Surface) (code : Nat) (error : String) : EarlyAnswer :=
  match surface with
  | .json => .status code error
  | .page => .status code ""

variable (api : API)

/-- Mark the session of the request verified, the last call of every verification. -/
def markVerified (principal : Principal) (factorID : String) (method : FactorType)
    (verifiedAt : Time) (accepted : Option AcceptedCode) : Handler Unit := do
  let marked ← transact (.markSessionSecondFactorVerified principal.session.id factorID method
    verifiedAt) { session := some principal.session.id, accepted := accepted }
  let _ ← marked.get fun _ => internalError
  pure ()

/-! ### E-mail -/

/-- Send the token of a stored challenge; without a sender no message leaves. -/
def sendSecondFactorChallengeEmail (surface : Surface) (address : String) : Handler Unit :=
  require (api.emailSender.any (· address) = true) (surface.reply 503 "email_unavailable")

/-- `requestActiveEmailSecondFactorChallenge`. -/
def requestActiveEmailSecondFactorChallenge (surface : Surface) (principal : Principal)
    (unavailable : EarlyAnswer) (done : Nat) : Handler Response := do
  let now ← timeNow
  let created ← transact (.createActiveEmailSecondFactorChallenge principal.account.id
    (now + api.secondFactorEmailTTL)) { session := some principal.session.id }
  let challenge : EmailChallenge × String ← created.get (orNotFound unavailable)
  sendSecondFactorChallengeEmail api surface challenge.1.emailNormalized
  return .status done ""

/-- The setup half of both challenge handlers: the address is that of the request or the
    verified address of the account. -/
def requestSetupEmailChallenge (surface : Surface) (principal : Principal) (email : String)
    (done : Nat) : Handler Response := do
  let emailAddress :=
    if api.normalizeEmail email = "" ∧ principal.account.emailNormalized ≠ "" ∧
        principal.account.emailVerifiedAt.isSome then principal.account.emailNormalized
    else api.normalizeEmail email
  require (emailAddress ≠ "") (surface.reply 400 "email_required")
  require (api.validateEmail emailAddress = true) (surface.reply 400 "invalid_email")
  let now ← timeNow
  -- the repository normalises the address once more
  let created ← transact (.createEmailSecondFactorChallenge principal.account.id
    (api.normalizeEmail emailAddress) (now + api.secondFactorEmailTTL))
    { session := some principal.session.id }
  let challenge : EmailChallenge × String ← created.get (orDuplicate
    (surface.reply 409 "second_factor_already_configured") (surface.reply 404 "account_not_found"))
  sendSecondFactorChallengeEmail api surface challenge.1.emailNormalized
  return .status done ""

/-- `requestEmailSecondFactorChallenge`. -/
def requestEmailSecondFactorChallenge (principal : Principal) (email : String) :
    Handler Response := do
  let required ← sessionRequiresSecondFactorVerification principal.account principal.session
  if required then
    requestActiveEmailSecondFactorChallenge api .json principal verificationRequired 202
  else requestSetupEmailChallenge api .json principal email 202

/-- `ConsumeEmailSecondFactorChallenge` and the verification of the session. -/
def verifyEmail (surface : Surface) (principal : Principal) (rawToken : String) (done : Nat) :
    Handler Response := do
  let invalid := surface.reply 400 "second_factor_challenge_invalid"
  require (rawToken ≠ "") invalid
  let now ← timeNow
  let consumed ← transact (.consumeEmailSecondFactorChallenge principal.account.id rawToken now)
    { session := some principal.session.id }
  let factor : EmailFactor × Account ← consumed.get (orNotFound invalid)
  markVerified principal factor.1.id .emailChallenge consumed.now none
  return .status done ""

/-- `verifyEmailSecondFactorChallenge`. -/
def verifyEmailSecondFactorChallenge (principal : Principal) (code token : String) :
    Handler Response :=
  verifyEmail .json principal
    (if api.totp.trimSpace code = "" then api.totp.trimSpace token else api.totp.trimSpace code) 200

/-! ### TOTP -/

/-- The enrolment of both start handlers; `secret` is what `GenerateTOTPEnrollment`
    drew. -/
def startTOTP (surface : Surface) (principal : Principal) (secret : String) (done : Nat) :
    Handler Response := do
  let created ← transact (.createTOTPSecondFactorEnrollment
    { accountID := principal.account.id
      secret := secret
      periodSeconds := 30
      digits := 6
      algorithm := "SHA1" }) { session := some principal.session.id }
  let _ ← created.get (orDuplicate (surface.reply 409 "second_factor_already_configured")
    (surface.reply 404 "account_not_found"))
  return .status done ""

/-- `startTOTPSecondFactorEnrollment`. -/
def startTOTPSecondFactorEnrollment (principal : Principal) (secret : String) : Handler Response :=
  startTOTP .json principal secret 201

/-- `MatchTOTPCode` on a factor: the accepted code, or a response. -/
def matchFactor (factor : TOTPFactor) (code : String) (now : Time) (invalid : EarlyAnswer) :
    Handler AcceptedCode :=
  match matchTOTPCode api.totp factor.secret code now factor.periodSeconds factor.digits
      factor.algorithm with
  | .error _ => throw internalError
  | .ok none => throw invalid
  | .ok (some timeStep) => pure ⟨factor.secret, code, now, timeStep⟩

def invalidTOTPChallenge (surface : Surface) : EarlyAnswer :=
  surface.reply 400 "totp_challenge_invalid"

/-- The confirmation of the confirm handlers: read the pending factor, match the code
    against its secret, activate it. -/
def confirmTOTP (surface : Surface) (principal : Principal) (code : String) (done : Nat) :
    Handler Response := do
  let pending ← query (.getPendingTOTPSecondFactor principal.account.id)
  let factor : TOTPFactor ← pending.get (orNotFound (invalidTOTPChallenge surface))
  -- only the pages look at the code this late
  require (code ≠ "") (invalidTOTPChallenge surface)
  let accepted ← matchFactor api factor code pending.now (invalidTOTPChallenge surface)
  let activated ← transact (.activateTOTPSecondFactor principal.account.id factor.id pending.now
    accepted.timeStep) { session := some principal.session.id, accepted := some accepted }
  let activeFactor : TOTPFactor × Account ← activated.get
    (orNotFound (invalidTOTPChallenge surface))
  markVerified principal activeFactor.1.id .totp pending.now (some accepted)
  return .status done ""

/-- `confirmTOTPSecondFactorEnrollment`. -/
def confirmTOTPSecondFactorEnrollment (principal : Principal) (code : String) :
    Handler Response := do
  require (api.totp.trimSpace code ≠ "") (invalidTOTPChallenge .json)
  confirmTOTP api .json principal (api.totp.trimSpace code) 200

/-- The verification of both verify handlers; `missing` answers an account without an
    active factor. -/
def verifyTOTP (surface : Surface) (principal : Principal) (code : String) (missing : EarlyAnswer)
    (done : Nat) : Handler Response := do
  require (api.totp.trimSpace code ≠ "") (invalidTOTPChallenge surface)
  let code := api.totp.trimSpace code
  let active ← query (.getActiveTOTPSecondFactor principal.account.id)
  let factor : TOTPFactor ← active.get (orNotFound missing)
  let accepted ← matchFactor api factor code active.now (invalidTOTPChallenge surface)
  let used ← transact (.markTOTPSecondFactorUsed factor.id active.now accepted.timeStep)
    { session := some principal.session.id, accepted := some accepted }
  let usedFactor : TOTPFactor ← used.get (orNotFound (invalidTOTPChallenge surface))
  markVerified principal usedFactor.id .totp active.now (some accepted)
  return .status done ""

/-- `verifyTOTPSecondFactorChallenge`. -/
def verifyTOTPSecondFactorChallenge (principal : Principal) (code : String) : Handler Response :=
  verifyTOTP api .json principal code (invalidTOTPChallenge .json) 200

/-! ### WebAuthn -/

def webAuthnUnavailable : EarlyAnswer := .status 503 "webauthn_unavailable"
def invalidWebAuthnChallenge : EarlyAnswer := .status 400 "webauthn_challenge_invalid"

/-- The ceremony of a request. -/
def ceremony (principal : Principal) (challengeType : CeremonyType) : Ceremony :=
  ⟨principal.account.id, principal.session.id, api.rpID, challengeType⟩

/-- The WebAuthn user of the account and its credentials. -/
def webAuthnAccountUser (principal : Principal) (onError : AuthError → EarlyAnswer) :
    Handler (WebAuthnUser × List WebAuthnCredential) := do
  let created ← transact (.getOrCreateWebAuthnUser principal.account.id api.rpID)
    { session := some principal.session.id }
  let user : WebAuthnUser ← created.get onError
  let listed ← query (.listWebAuthnCredentials principal.account.id api.rpID)
  let credentials : List WebAuthnCredential ← listed.get fun _ => internalError
  return (user, credentials)

/-- Store the challenge of a ceremony that has begun. -/
def storeChallenge (principal : Principal) (challengeType : CeremonyType) (sessionData : Bytes)
    (missing : EarlyAnswer) : Handler Response := do
  let now ← timeNow
  let created ← transact (.createWebAuthnChallenge (ceremony api principal challengeType)
    sessionData (now + api.webAuthnChallengeTTL)) { session := some principal.session.id }
  let _ ← created.get (orNotFound missing)
  return .status 201 ""

/-- `startWebAuthnRegistration`; `attachmentValid` is `normalizeWebAuthnAttachment`. -/
def startWebAuthnRegistration (principal : Principal) (attachmentValid : Bool) :
    Handler Response := do
  require (attachmentValid = true) (.status 400 "invalid_webauthn_attachment")
  require (api.webAuthnEnabled = true) webAuthnUnavailable
  let (user, credentials) ← webAuthnAccountUser api principal
    (orNotFound (.status 404 "account_not_found"))
  match api.beginRegistration principal.account user credentials with
  | none => throw internalError
  | some sessionData =>
    storeChallenge api principal .registration sessionData (.status 404 "account_not_found")

/-- `finishWebAuthnRegistration`. -/
def finishWebAuthnRegistration (principal : Principal) (body : Bytes) : Handler Response := do
  require (api.webAuthnEnabled = true) webAuthnUnavailable
  let now ← timeNow
  let consumed ← transact (.consumeWebAuthnChallenge (ceremony api principal .registration) now)
    { session := some principal.session.id }
  let challenge : WebAuthnChallenge ← consumed.get (orNotFound invalidWebAuthnChallenge)
  let (user, credentials) ← webAuthnAccountUser api principal fun _ => internalError
  match api.finishRegistration principal.account user credentials challenge.sessionData body with
  | none => throw invalidWebAuthnChallenge
  | some authenticator => do
    let created ← transact (.createWebAuthnCredential principal.account.id api.rpID authenticator now)
      { session := some principal.session.id }
    let stored : WebAuthnCredential × Account ← created.get
      (orDuplicate (.status 409 "webauthn_credential_already_configured") invalidWebAuthnChallenge)
    markVerified principal stored.1.id .webauthn now none
    return .status 200 ""

/-- `startWebAuthnVerification`. -/
def startWebAuthnVerification (principal : Principal) : Handler Response := do
  require (api.webAuthnEnabled = true) webAuthnUnavailable
  let (user, credentials) ← webAuthnAccountUser api principal (orNotFound invalidWebAuthnChallenge)
  require (credentials ≠ []) invalidWebAuthnChallenge
  match api.beginLogin principal.account user credentials with
  | none => throw invalidWebAuthnChallenge
  | some sessionData => storeChallenge api principal .assertion sessionData invalidWebAuthnChallenge

/-- `webAuthnCredentialMap`: of two credentials with one identifier the later one. -/
def credentialByID (credentials : List WebAuthnCredential) (credentialID : Bytes) :
    Option WebAuthnCredential :=
  credentials.reverse.find? (·.authenticator.credentialID == credentialID)

/-- `finishWebAuthnVerification`. -/
def finishWebAuthnVerification (principal : Principal) (body : Bytes) : Handler Response := do
  require (api.webAuthnEnabled = true) webAuthnUnavailable
  let now ← timeNow
  let consumed ← transact (.consumeWebAuthnChallenge (ceremony api principal .assertion) now)
    { session := some principal.session.id }
  let challenge : WebAuthnChallenge ← consumed.get (orNotFound invalidWebAuthnChallenge)
  let (user, credentials) ← webAuthnAccountUser api principal (orNotFound invalidWebAuthnChallenge)
  match api.finishLogin principal.account user credentials challenge.sessionData body with
  | none => throw invalidWebAuthnChallenge
  | some authenticator =>
    match credentialByID credentials authenticator.credentialID with
    | none => throw invalidWebAuthnChallenge
    | some stored => do
      let updated ← transact (.updateWebAuthnCredentialAfterAssertion stored
        authenticator.signCount now) { session := some principal.session.id }
      let credential : WebAuthnCredential ← updated.get (orNotFound invalidWebAuthnChallenge)
      markVerified principal credential.id .webauthn now none
      return .status 200 ""

/-! ### The admin pages -/

/-- `adminWebRequestEmailSecondFactorChallenge`. -/
def adminWebRequestEmailSecondFactorChallenge (principal : Principal) (email : String)
    (csrfValid : Bool) : Handler Response :=
  if adminRequiresSecondFactorSetup principal.account then do
    require (csrfValid = true) (.status 403 "")
    require (api.emailSender.isSome = true) (.status 503 "")
    requestSetupEmailChallenge api .page principal email 303
  else do
    let required ← sessionRequiresSecondFactorVerification principal.account principal.session
    require (required = true) (.status 303 "")
    let available ← isThere (← query (.getActiveEmailSecondFactor principal.account.id))
    require (csrfValid = true) (.status 403 "")
    require (api.emailSender.isSome = true) (.status 503 "")
    require (available = true) (.status 409 "")
    requestActiveEmailSecondFactorChallenge api .page principal (.status 409 "") 303

/-- `adminWebVerifyEmailSecondFactorChallenge`. -/
def adminWebVerifyEmailSecondFactorChallenge (principal : Principal) (code : String)
    (csrfValid : Bool) : Handler Response :=
  if adminRequiresSecondFactorSetup principal.account then do
    require (csrfValid = true) (.status 403 "")
    verifyEmail .page principal (api.totp.trimSpace code) 303
  else do
    let required ← sessionRequiresSecondFactorVerification principal.account principal.session
    require (required = true) (.status 303 "")
    require (csrfValid = true) (.status 403 "")
    verifyEmail .page principal (api.totp.trimSpace code) 303

/-- `adminWebStartTOTPSecondFactorEnrollment`. -/
def adminWebStartTOTPSecondFactorEnrollment (principal : Principal) (secret : String)
    (csrfValid : Bool) : Handler Response := do
  require (adminRequiresSecondFactorSetup principal.account = true) (.status 303 "")
  require (csrfValid = true) (.status 403 "")
  startTOTP .page principal secret 403

/-- `adminWebConfirmTOTPSecondFactorEnrollment`. -/
def adminWebConfirmTOTPSecondFactorEnrollment (principal : Principal) (code : String)
    (csrfValid : Bool) : Handler Response := do
  require (adminRequiresSecondFactorSetup principal.account = true) (.status 303 "")
  require (csrfValid = true) (.status 403 "")
  confirmTOTP api .page principal (api.totp.trimSpace code) 303

/-- `adminWebVerifyTOTPSecondFactorChallenge`. -/
def adminWebVerifyTOTPSecondFactorChallenge (principal : Principal) (code : String)
    (csrfValid : Bool) : Handler Response := do
  require (adminRequiresSecondFactorSetup principal.account = false) (.status 403 "")
  require (csrfValid = true) (.status 403 "")
  verifyTOTP api .page principal code (.status 409 "") 303

/-- `adminWebStartSettingsTOTPSecondFactorEnrollment`. -/
def adminWebStartSettingsTOTPSecondFactorEnrollment (principal : Principal) (secret : String)
    (csrfValid : Bool) : Handler Response := do
  require (csrfValid = true) (.status 403 "")
  startTOTP .page principal secret 200

/-- `adminWebConfirmSettingsTOTPSecondFactorEnrollment`. -/
def adminWebConfirmSettingsTOTPSecondFactorEnrollment (principal : Principal) (code : String)
    (csrfValid : Bool) : Handler Response := do
  require (csrfValid = true) (.status 403 "")
  confirmTOTP api .page principal (api.totp.trimSpace code) 303

end SafetyRecorder.Auth
