import SafetyRecorder.Auth.Calls
import SafetyRecorder.Auth.Totp
import SafetyRecorder.HttpApi.Routes

namespace SafetyRecorder.Auth

open Process ServeMux

/-!
# HTTP API — the authentication middleware

`requirePrivateAuth` and `requireAdminAuth` (`internal/httpapi/auth_middleware.go`),
`requireAdminWebSession` and `requireAdminWeb` (`admin_web_session.go`) as programs
over `Call`, in the order of the source.

* A handler is a `Handler`: `throw` answers early and ends it;
* what the handlers ask of other packages and of the configuration is in `API`;
* whether a CSRF token is valid, and what text parses to, arrives with the request.
-/

/-- What a handler answers: the HTTP status and the error code of the body.  A
    successful password request also tells which update it made and which session it
    kept. -/
inductive Response
  | status (code : Nat) (error : String)
  | passwordReplaced (code : Nat) (accountID : String) (update : Nat) (kept : String)
  deriving DecidableEq, Repr

/-- What a handler answers when it ends early. -/
inductive EarlyAnswer
  | status (code : Nat) (error : String)
  deriving DecidableEq, Repr

/-- The response of an early answer. -/
def EarlyAnswer.response : EarlyAnswer → Response
  | .status code error => .status code error

/-- A handler: a program that can end early with an answer. -/
abbrev Handler := ExceptT EarlyAnswer Proc

/-- `AccountRegistration…`: who may create an account. -/
inductive RegistrationMode
  | disabled | adminOnly | paid | open
  deriving DecidableEq, Repr

/-- Configuration and collaborators of the handlers. -/
structure API where
  totp : TOTPLibrary
  /-- `NormalizeUsername`. -/
  normalizeUsername : String → String
  /-- `ValidateUsername` accepts the name. -/
  validateUsername : String → Bool
  /-- `NormalizeEmail`. -/
  normalizeEmail : String → String
  /-- `ValidateEmail` accepts the address. -/
  validateEmail : String → Bool
  /-- `VerifyPassword`: the hash, the password. -/
  verifyPassword : String → String → Bool
  /-- The mail sender, if one is configured: whether sending to an address succeeds. -/
  emailSender : Option (String → Bool)
  registrationMode : RegistrationMode
  /-- Sessions in browser cookies are configured. -/
  webAuthEnabled : Bool
  /-- A bootstrap secret is configured. -/
  bootstrapEnabled : Bool
  sessionTTL : Time
  secondFactorEmailTTL : Time
  webAuthnChallengeTTL : Time
  /-- WebAuthn is configured. -/
  webAuthnEnabled : Bool
  rpID : String
  /-- `BeginRegistration`: the session data of the ceremony. -/
  beginRegistration : Account → WebAuthnUser → List WebAuthnCredential → Option Bytes
  /-- `BeginLogin`. -/
  beginLogin : Account → WebAuthnUser → List WebAuthnCredential → Option Bytes
  /-- `FinishRegistration` of the session data and the request body. -/
  finishRegistration : Account → WebAuthnUser → List WebAuthnCredential → Bytes → Bytes →
    Option Authenticator
  /-- `FinishLogin`. -/
  finishLogin : Account → WebAuthnUser → List WebAuthnCredential → Bytes → Bytes →
    Option Authenticator

/-! ### Calls and responses -/

def internalError : EarlyAnswer := .status 500 "internal_error"
def authenticationRequired : EarlyAnswer := .status 401 "authentication_required"
def forbidden : EarlyAnswer := .status 403 "forbidden"
def setupRequired : EarlyAnswer := .status 403 "second_factor_setup_required"
def verificationRequired : EarlyAnswer := .status 403 "second_factor_verification_required"

/-- End with the answer unless the condition holds. -/
def require (c : Prop) [Decidable c] (r : EarlyAnswer) : Handler Unit :=
  if c then pure () else throw r

/-- `time.Now()`. -/
def timeNow : Handler Time := ExceptT.lift (Prog.perform Call.timeNow)

/-- The value of a reply; an error ends the handler with its response. -/
def Reply.get {α : Type} (onError : AuthError → EarlyAnswer) (reply : Reply α) : Handler α :=
  match reply.value with
  | .ok a => pure a
  | .error e => throw (onError e)

/-- Make a read. -/
def query (q : Query) : Handler (Reply q.Result) := ExceptT.lift (Prog.perform (Call.query q))

/-- Make a transaction. -/
def transact (t : Tx) (origin : Origin) : Handler (Reply t.Result) :=
  ExceptT.lift (Prog.perform (Call.tx t origin))

/-- The usual responses: one for a missing row, an internal error for the rest. -/
def orNotFound (r : EarlyAnswer) : AuthError → EarlyAnswer
  | .notFound => r
  | _ => internalError

/-- One response for a duplicate, one for a missing row. -/
def orDuplicate (duplicate missing : EarlyAnswer) : AuthError → EarlyAnswer
  | .duplicate => duplicate
  | .notFound => missing
  | .other => internalError

/-! ### Authentication -/

/-- `privateAuthSource`. -/
inductive AuthSource
  | bearer | webCookie
  deriving DecidableEq, Repr

/-- `privatePrincipal`. -/
structure Principal where
  account : Account
  session : Session
  authSource : AuthSource
  deriving DecidableEq, Repr

/-- The credentials of a request: the bearer token, the session cookie (read only when
    cookies are configured), and whether its CSRF token is valid for the session of the
    cookie. -/
structure Credentials where
  bearer : Option String := none
  cookie : Option String := none
  csrfValid : Bool := true
  deriving DecidableEq, Repr

/-- `lookupPrivatePrincipal`, `webCookiePrincipal` and `adminWebPrincipal`; `absent`
    answers a token without a live session of an account that may authenticate. -/
def lookupPrincipal (rawToken : String) (source : AuthSource) (absent : EarlyAnswer) :
    Handler Principal := do
  let found ← query (.lookupSession rawToken)
  let session : Session ← found.get (orNotFound absent)
  let found ← query (.getAccountByID session.accountID)
  let account : Account ← found.get (orNotFound absent)
  require (canAuthenticate account = true) absent
  return ⟨account, session, source⟩

/-- `lookupPrivatePrincipal`. -/
def lookupPrivatePrincipal (rawToken : String) (source : AuthSource) : Handler Principal :=
  lookupPrincipal rawToken source authenticationRequired

/-- `authenticatePrivateRequest`. -/
def authenticatePrivateRequest (creds : Credentials) : Handler Principal :=
  match creds.bearer, creds.cookie with
  | some _, some _ => throw (.status 400 "ambiguous_credentials")
  | some rawToken, none => lookupPrivatePrincipal rawToken .bearer
  | none, some rawToken => lookupPrivatePrincipal rawToken .webCookie
  | none, none => throw authenticationRequired

/-- `unsafeMethod`. -/
def unsafeMethod (method : String) : Bool := !(["GET", "HEAD", "OPTIONS"].contains method)

/-- A request with a cookie and a method that changes state needs a CSRF token. -/
def checkCSRF (method : String) (creds : Credentials) (principal : Principal) : Handler Unit :=
  require (principal.authSource = .webCookie → unsafeMethod method = true → creds.csrfValid = true)
    (.status 403 "csrf_required")

/-- A read that only asks whether there is a row. -/
def isThere {α : Type} (reply : Reply α) : Handler Bool :=
  match reply.value with
  | .ok _ => pure true
  | .error .notFound => pure false
  | .error _ => throw internalError

/-- `sessionRequiresSecondFactorVerification`. -/
def sessionRequiresSecondFactorVerification (account : Account) (session : Session) :
    Handler Bool :=
  if session.secondFactorVerifiedAt.isSome || !canAccessProductRoutes account then pure false
  else do
    let email ← query (.getActiveEmailSecondFactor account.id)
    if ← isThere email then pure true
    else do
      let totp ← query (.getActiveTOTPSecondFactor account.id)
      if ← isThere totp then pure true
      else do
        let hasWebAuthn ← query (.hasActiveWebAuthnCredential account.id)
        hasWebAuthn.get fun _ => internalError

/-! ### The gates -/

/-- A request that the multiplexer of the main listener hands to a handler. -/
structure Routed where
  method : String
  path : List Char
  route : Pattern Route
  routed : dispatch mainRoutes method path = .handler route

/-- `requirePrivateAuth`. -/
def requirePrivateAuth (req : Routed) (creds : Credentials) : Handler Principal := do
  let principal ← authenticatePrivateRequest creds
  checkCSRF req.method creds principal
  require (canAccessProductRoutes principal.account = true ∨
    secondFactorSetupAllowedRoute req.method req.path = true) setupRequired
  -- an account that has to set up a factor is not asked to verify one
  let required ← sessionRequiresSecondFactorVerification principal.account principal.session
  require (required = false ∨ secondFactorVerificationAllowedRoute req.method req.path = true)
    verificationRequired
  return principal

/-- `requireAdminAuth`. -/
def requireAdminAuth (method : String) (creds : Credentials) : Handler Principal := do
  let principal ← authenticatePrivateRequest creds
  checkCSRF method creds principal
  require (principal.account.role = .admin) forbidden
  require (adminRequiresSecondFactorSetup principal.account = false) setupRequired
  let required ← sessionRequiresSecondFactorVerification principal.account principal.session
  require (required = false) verificationRequired
  return principal

/-- `adminWebPrincipal` and the check of the role; the cookie of the admin pages carries
    the token. -/
def adminWebPrincipal (cookie : Option String) (absent : EarlyAnswer) : Handler Principal :=
  match cookie with
  | none => throw absent
  | some rawToken => do
    let principal ← lookupPrincipal rawToken .webCookie absent
    require (principal.account.role = .admin) (.status 403 "")
    return principal

/-- `requireAdminWebSession`. -/
def requireAdminWebSession (cookie : Option String) : Handler Principal :=
  adminWebPrincipal cookie (.status 401 "")

/-- `requireAdminWeb`. -/
def requireAdminWeb (cookie : Option String) : Handler Principal := do
  let principal ← requireAdminWebSession cookie
  require (adminRequiresSecondFactorSetup principal.account = false) (.status 403 "")
  let required ← sessionRequiresSecondFactorVerification principal.account principal.session
  require (required = false) (.status 403 "")
  return principal

end SafetyRecorder.Auth
