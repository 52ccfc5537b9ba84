import SafetyRecorder.HttpApi.SecondFactors

namespace SafetyRecorder.Auth

open Process ServeMux

/-!
# HTTP API — login, passwords, recovery, and the dispatch of requests

`auth_handlers.go`, `web_auth.go`, `registration_handlers.go` and the account forms of
`admin_web_handlers.go`.

* `Request` — a request to the main listener, the admin interface or the admin pages;
* `serve` — the program of a request: the gate of its route, then its handler.

The hash of a new password and the secret of a new TOTP factor are drawn outside the
repository and arrive with the request; `none` is a password `HashPassword` refuses.
-/

variable (api : API)

def invalidCredentials (surface : Surface) : EarlyAnswer := surface.reply 401 "invalid_credentials"

/-! ### Login -/

/-- What the login handlers have in common: look the account up, verify the password,
    check the account and create a session.  `allowed` is the check of the account. -/
def loginAccount (surface : Surface) (username password : String)
    (allowed : Account → Handler Unit) : Handler (Account × Session) := do
  let looked ← query (.getAccountByUsername (api.normalizeUsername username))
  let account : Account ← looked.get (orNotFound (invalidCredentials surface))
  require (api.verifyPassword account.passwordHash password = true) (invalidCredentials surface)
  allowed account
  let created ← transact (.createSession account.id (looked.now + api.sessionTTL))
    { passwordHash := some account.passwordHash }
  let session : Session × String ← created.get fun _ => internalError
  return (account, session.1)

/-- `loginAccountAllowed`. -/
def loginAccountAllowed (account : Account) : Handler Unit :=
  require (canAuthenticate account = true)
    (if account.accountState = .pendingEmailVerification then
      .status 403 "email_verification_required"
    else invalidCredentials .json)

/-- `login`. -/
def login (username password : String) : Handler Response := do
  let (account, session) ← loginAccount api .json username password loginAccountAllowed
  let _ ← sessionRequiresSecondFactorVerification account session
  return .status 201 ""

/-- `webLogin`. -/
def webLogin (username password : String) : Handler Response := do
  require (api.webAuthEnabled = true) (.status 404 "not_found")
  login api username password

/-- The check of `adminWebLogin`. -/
def adminLoginAllowed (account : Account) : Handler Unit := do
  require (canAuthenticate account = true) (invalidCredentials .page)
  require (account.role = .admin) (.status 403 "")

/-- `adminWebLogin`. -/
def adminWebLogin (username password : String) : Handler Response := do
  let _ ← loginAccount api .page username password adminLoginAllowed
  return .status 303 ""

/-! ### Logout -/

/-- `RevokeSession` of the session of the request; a session that is gone is no error. -/
def logoutSession (principal : Principal) (done : Nat) : Handler Response := do
  let revoked ← transact (.revokeSession principal.session.id)
    { session := some principal.session.id }
  let _ ← isThere revoked
  return .status done ""

/-- `webLogout`; without a valid cookie there is nothing to revoke. -/
def webLogout (creds : Credentials) : Handler Response := do
  require (api.webAuthEnabled = true) (.status 404 "not_found")
  match creds.bearer, creds.cookie with
  | some _, some _ => throw (.status 400 "ambiguous_credentials")
  | some _, none => throw (.status 400 "web_cookie_required")
  | none, none => return .status 200 ""
  | none, some rawToken => do
    let principal ← lookupPrincipal rawToken .webCookie (.status 200 "")
    require (creds.csrfValid = true) (.status 403 "csrf_required")
    logoutSession principal 200

/-- `adminWebLogout`. -/
def adminWebLogout (cookie : Option String) (csrfValid : Bool) : Handler Response := do
  let principal ← adminWebPrincipal cookie (.status 303 "")
  require (csrfValid = true) (.status 403 "")
  logoutSession principal 303

/-! ### Passwords -/

/-- The two calls of a password request: replace the hash of the account, then revoke
    its sessions except `kept`.  The answer names the update. -/
def replacePassword (surface : Surface) (principal : Principal) (accountID : String)
    (passwordHash : Option String) (kept : String) (done : Nat) : Handler Response :=
  match passwordHash with
  | none => throw (surface.reply 400 "invalid_password")
  | some newHash => do
    let updated ← transact (.updateAccountPassword accountID newHash)
      { session := some principal.session.id }
    let account : Account ← updated.get (orNotFound (surface.reply 404 "account_not_found"))
    let revoked ← transact (.revokeAccountSessions account.id kept)
      { session := some principal.session.id, update := some updated.ticket }
    let _ ← revoked.get fun _ => internalError
    return .passwordReplaced done account.id updated.ticket kept

/-- `changeOwnPassword`, on either surface. -/
def changePassword (surface : Surface) (principal : Principal) (currentPassword : String)
    (passwordHash : Option String) (done : Nat) : Handler Response := do
  require (api.verifyPassword principal.account.passwordHash currentPassword = true)
    (invalidCredentials surface)
  replacePassword surface principal principal.account.id passwordHash principal.session.id done

/-- `changeOwnPassword`. -/
def changeOwnPassword (principal : Principal) (currentPassword : String)
    (passwordHash : Option String) : Handler Response :=
  changePassword api .json principal currentPassword passwordHash 200

/-- `resetAccountPassword`. -/
def resetAccountPassword (principal : Principal) (accountID : String)
    (passwordHash : Option String) : Handler Response :=
  replacePassword .json principal accountID passwordHash "" 200

/-! ### Accounts -/

/-- The account a handler creates: it has to set up a second factor. -/
def newAccount (username passwordHash : String) (role : Role) : CreateAccountParams where
  username := username
  secondFactorSetup := .setupRequired
  passwordHash := passwordHash
  role := role

/-- `createAccountFromRequest`, `adminWebCreateManagedAccount` and
    `createAdminWebBootstrapAccount`; no role is a role `ValidRole` refuses. -/
def createAccountFromRequest (surface : Surface) (username : String) (passwordHash : Option String)
    (role : Option Role) : Handler Account := do
  require (api.validateUsername (api.normalizeUsername username) = true)
    (surface.reply 400 "invalid_username")
  match role, passwordHash with
  | none, _ => throw (surface.reply 400 "invalid_role")
  | some _, none => throw (surface.reply 400 "invalid_password")
  | some role, some hash => do
    let created ← transact (.createAccount (newAccount (api.normalizeUsername username) hash role)) {}
    created.get (orDuplicate (surface.reply 409 "username_conflict") internalError)

/-- `createAccount`. -/
def createAccountHandler (surface : Surface) (username : String) (passwordHash : Option String)
    (role : Option Role) (done : Nat) : Handler Response := do
  let _ ← createAccountFromRequest api surface username passwordHash role
  return .status done ""

/-- `adminWebBootstrap`: the first administrator, signed in without a login. -/
def adminWebBootstrap (secretValid : Bool) (username : String) (passwordHash : Option String) :
    Handler Response := do
  let asked ← query .hasAdminAccount
  let hasAdmin : Bool ← asked.get fun _ => internalError
  require (hasAdmin = false) (.status 303 "")
  require (api.bootstrapEnabled = true) (.status 403 "")
  require (secretValid = true) (.status 401 "")
  let account ← createAccountFromRequest api .page username passwordHash (some .admin)
  let now ← timeNow
  let created ← transact (.createSession account.id (now + api.sessionTTL)) {}
  let _ ← created.get fun _ => internalError
  return .status 303 ""

/-- `registerAccount`: the answer does not tell whether the account is new. -/
def registerAccount (username email : String) (passwordHash : Option String) : Handler Response :=
  match api.registrationMode with
  | .disabled | .adminOnly => throw (.status 403 "registration_disabled")
  | .paid => throw (.status 503 "registration_payment_unavailable")
  | .open => do
    require (api.validateUsername (api.normalizeUsername username) = true)
      (.status 400 "invalid_username")
    require (api.validateEmail (api.normalizeEmail email) = true) (.status 400 "invalid_email")
    match passwordHash with
    | none => throw (.status 400 "invalid_password")
    | some hash => do
      let created ← transact (.createAccount
        { newAccount (api.normalizeUsername username) hash .user with
          emailNormalized := api.normalizeEmail email
          accountState := .pendingEmailVerification }) {}
      let _ ← created.get (orDuplicate (.status 202 "") internalError)
      return .status 202 ""

/-- `verifyAccountEmail` with a token of the account. -/
def verifyAccountEmail (accountID : String) : Handler Response := do
  let now ← timeNow
  let consumed ← transact (.consumeAccountVerificationToken accountID now) {}
  let _ ← consumed.get (orNotFound (.status 400 "verification_token_invalid"))
  return .status 200 ""

/-- `resetAccountSecondFactorRecovery`; no reason is one `ValidAccountRecoveryReason`
    refuses. -/
def resetRecovery (surface : Surface) (principal : Principal) (accountID : String)
    (reason : Option RecoveryReason) (done : Nat) : Handler Response :=
  match reason with
  | none => throw (surface.reply 400 "invalid_recovery_reason")
  | some reason => do
    let reset ← transact (.resetAccountSecondFactorRecovery accountID principal.account.id reason)
      { session := some principal.session.id }
    let _ ← reset.get (orNotFound (surface.reply 404 "account_not_found"))
    return .status done ""

/-- `revokeAccountSessions`. -/
def revokeSessions (surface : Surface) (principal : Principal) (accountID : String) (done : Nat) :
    Handler Response := do
  let looked ← query (.getAccountByID accountID)
  let _ ← looked.get (orNotFound (surface.reply 404 "account_not_found"))
  let revoked ← transact (.revokeAccountSessions accountID "")
    { session := some principal.session.id }
  let _ ← revoked.get fun _ => internalError
  return .status done ""

/-! ### Requests -/

/-- The decoded fields of a request to the main listener. -/
structure Body where
  username : String := ""
  password : String := ""
  email : String := ""
  code : String := ""
  token : String := ""
  /-- The account a verification token was issued for. -/
  accountID : String := ""
  /-- The hash of the new password. -/
  passwordHash : Option String := none
  /-- The secret `GenerateTOTPEnrollment` drew. -/
  secret : String := ""
  attachmentValid : Bool := true
  /-- The body of a WebAuthn response. -/
  webauthn : Bytes := []

/-- The actions of the admin interface on accounts. -/
inductive AdminAction
  | createAccount (username : String) (passwordHash : Option String) (role : Option Role)
  | resetPassword (accountID : String) (passwordHash : Option String)
  | resetRecovery (accountID : String) (reason : Option RecoveryReason)
  | revokeSessions (accountID : String)
  deriving DecidableEq, Repr

/-- The forms of the admin pages behind `requireAdminWebSession`. -/
inductive SessionForm
  | emailChallenge (email : String)
  | emailVerify (code : String)
  | totpEnroll (secret : String)
  | totpConfirm (code : String)
  | totpVerify (code : String)
  deriving DecidableEq, Repr

/-- The forms of the admin pages behind `requireAdminWeb`. -/
inductive AdminForm
  | changePassword (currentPassword : String) (passwordHash : Option String)
  | totpEnroll (secret : String)
  | totpConfirm (code : String)
  | account (action : AdminAction)
  deriving DecidableEq, Repr

/-- A request that works on accounts. -/
inductive Request
  | main (req : Routed) (creds : Credentials) (body : Body)
  | adminAPI (method : String) (creds : Credentials) (action : AdminAction)
  | adminWebLogin (username password : String)
  | adminWebBootstrap (secretValid : Bool) (username : String) (passwordHash : Option String)
  | adminWebLogout (cookie : Option String) (csrfValid : Bool)
  | adminWebSession (cookie : Option String) (csrfValid : Bool) (form : SessionForm)
  | adminWeb (cookie : Option String) (csrfValid : Bool) (form : AdminForm)

/-- A handler behind `withPrivateAuth`; the ones that do not work on accounts answer at
    once. -/
def servePrivate (endpoint : Endpoint) (principal : Principal) (body : Body) : Handler Response :=
  match endpoint with
  | .logout => logoutSession principal 200
  | .changeOwnPassword => changeOwnPassword api principal body.password body.passwordHash
  | .requestEmailSecondFactorChallenge => requestEmailSecondFactorChallenge api principal body.email
  | .verifyEmailSecondFactorChallenge =>
    verifyEmailSecondFactorChallenge api principal body.code body.token
  | .startTOTPSecondFactorEnrollment => startTOTPSecondFactorEnrollment principal body.secret
  | .confirmTOTPSecondFactorEnrollment => confirmTOTPSecondFactorEnrollment api principal body.code
  | .verifyTOTPSecondFactorChallenge => verifyTOTPSecondFactorChallenge api principal body.code
  | .startWebAuthnRegistration => startWebAuthnRegistration api principal body.attachmentValid
  | .finishWebAuthnRegistration => finishWebAuthnRegistration api principal body.webauthn
  | .startWebAuthnVerification => startWebAuthnVerification api principal
  | .finishWebAuthnVerification => finishWebAuthnVerification api principal body.webauthn
  | _ => return .status 200 ""

/-- A handler of the main listener that is registered without a gate. -/
def serveOpen (endpoint : Endpoint) (creds : Credentials) (body : Body) : Handler Response :=
  match endpoint with
  | .login => login api body.username body.password
  | .webLogin => webLogin api body.username body.password
  | .webLogout => webLogout api creds
  | .registerAccount => registerAccount api body.username body.email body.passwordHash
  | .verifyAccountEmail => verifyAccountEmail body.accountID
  | _ => return .status 200 ""

/-- A handler of the admin interface. -/
def serveAdminAction (principal : Principal) : AdminAction → Handler Response
  | .createAccount username hash role => createAccountHandler api .json username hash role 201
  | .resetPassword accountID hash => resetAccountPassword principal accountID hash
  | .resetRecovery accountID reason => resetRecovery .json principal accountID reason 200
  | .revokeSessions accountID => revokeSessions .json principal accountID 200

/-- A form of the admin pages that an administrator may send before verification. -/
def serveSessionForm (principal : Principal) (csrfValid : Bool) : SessionForm → Handler Response
  | .emailChallenge email => adminWebRequestEmailSecondFactorChallenge api principal email csrfValid
  | .emailVerify code => adminWebVerifyEmailSecondFactorChallenge api principal code csrfValid
  | .totpEnroll secret => adminWebStartTOTPSecondFactorEnrollment principal secret csrfValid
  | .totpConfirm code => adminWebConfirmTOTPSecondFactorEnrollment api principal code csrfValid
  | .totpVerify code => adminWebVerifyTOTPSecondFactorChallenge api principal code csrfValid

/-- The account forms of the admin pages: the last three are refused for the
    administrator's own account. -/
def serveAdminAccountForm (principal : Principal) : AdminAction → Handler Response
  | .createAccount username hash role => createAccountHandler api .page username hash role 303
  | .resetPassword accountID hash => do
    require (accountID ≠ principal.account.id) (.status 400 "")
    replacePassword .page principal accountID hash "" 303
  | .resetRecovery accountID reason => do
    require (accountID ≠ principal.account.id) (.status 400 "")
    resetRecovery .page principal accountID reason 303
  | .revokeSessions accountID => do
    require (accountID ≠ principal.account.id) (.status 400 "")
    revokeSessions .page principal accountID 303

/-- A form of the admin pages behind `requireAdminWeb`. -/
def serveAdminForm (principal : Principal) (csrfValid : Bool) : AdminForm → Handler Response
  | .changePassword current hash => do
    require (csrfValid = true) (.status 403 "")
    changePassword api .page principal current hash 303
  | .totpEnroll secret =>
    adminWebStartSettingsTOTPSecondFactorEnrollment principal secret csrfValid
  | .totpConfirm code =>
    adminWebConfirmSettingsTOTPSecondFactorEnrollment api principal code csrfValid
  | .account action => do
    require (csrfValid = true) (.status 403 "")
    serveAdminAccountForm api principal action

/-- The handler of a request, behind its gate. -/
def serve : Request → Handler Response
  | .main req creds body =>
    if req.route.handler.guarded then do
      let principal ← requirePrivateAuth req creds
      servePrivate api req.route.handler.endpoint principal body
    else serveOpen api req.route.handler.endpoint creds body
  | .adminAPI method creds action => do
    let principal ← requireAdminAuth method creds
    serveAdminAction api principal action
  | .adminWebLogin username password => adminWebLogin api username password
  | .adminWebBootstrap secretValid username hash => adminWebBootstrap api secretValid username hash
  | .adminWebLogout cookie csrfValid => adminWebLogout cookie csrfValid
  | .adminWebSession cookie csrfValid form => do
    let principal ← requireAdminWebSession cookie
    serveSessionForm api principal csrfValid form
  | .adminWeb cookie csrfValid form => do
    let principal ← requireAdminWeb cookie
    serveAdminForm api principal csrfValid form

/-- The program of a request: it ends with a response, early or not. -/
def main (req : Request) : Proc Response := do
  match ← (serve api req).run with
  | .ok response => return response
  | .error answer => return answer.response

end SafetyRecorder.Auth
