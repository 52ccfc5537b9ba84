import SafetyRecorder.Auth.System
import SafetyRecorder.Server.Sample

namespace SafetyRecorder.Auth

open Process ServeMux

/-!
# Auth — a sample configuration

A configuration and requests on which runs of the account server can be evaluated.  A
password is its own hash, a TOTP code is the secret itself, and an assertion is the
identifier of its credential.
-/

/-- A code library whose code is the secret at every time step. -/
def sampleTOTP : TOTPLibrary where
  trimSpace s := s
  generateCodeCustom secret _ := .ok secret

/-- The sample configuration. -/
def sampleAuthAPI : API where
  totp := sampleTOTP
  normalizeUsername s := s
  validateUsername _ := true
  normalizeEmail s := s
  validateEmail _ := true
  verifyPassword hash password := hash == password
  emailSender := some fun _ => true
  registrationMode := .disabled
  webAuthEnabled := false
  bootstrapEnabled := false
  sessionTTL := 100
  secondFactorEmailTTL := 100
  webAuthnChallengeTTL := 100
  webAuthnEnabled := true
  rpID := ""
  beginRegistration _ _ _ := some []
  beginLogin _ _ _ := some []
  finishRegistration _ _ _ _ body := some ⟨body, [], 0⟩
  finishLogin _ _ _ _ body := some ⟨body, [], 0⟩

/-- An account that has to set up a second factor. -/
def sampleAccount (id : String) (role : Role) (setup : SetupState) : Account where
  id := id
  username := id
  secondFactorSetup := setup
  passwordHash := "p"
  role := role
  createdAt := 0
  updatedAt := 0
  passwordChangedAt := 0

/-- A request to a registered path. -/
def routed (method : String) (path : List Char) (P : Pattern Route)
    (h : dispatch mainRoutes method path = .handler P) : Routed :=
  ⟨method, path, P, h⟩

/-- The route of a path. -/
def routeOf (method : String) (pieces : List Piece) (guarded : Bool) (endpoint : Endpoint) :
    Pattern Route :=
  (Route.mk method pieces guarded endpoint).pattern

/-- `POST /v1/auth/login`. -/
def loginRoute : Routed :=
  routed "POST" "/v1/auth/login".toList (routeOf "POST" [.v1, .auth, .login] false .login)
    (by decide +kernel)

/-- `POST /v1/account/password`. -/
def passwordRoute : Routed :=
  routed "POST" "/v1/account/password".toList
    (routeOf "POST" [.v1, .account, .password] true .changeOwnPassword) (by decide +kernel)

/-- A `POST` below `/v1/account/second-factor`. -/
def secondFactorRoute (path : List Char) (pieces : List Piece) (endpoint : Endpoint)
    (h : dispatch mainRoutes "POST" ("/v1/account/second-factor/".toList ++ path) =
      .handler (routeOf "POST" ([.v1, .account, .secondFactor] ++ pieces) true endpoint)) : Routed :=
  routed "POST" _ _ h

def emailChallengeRoute : Routed :=
  secondFactorRoute "email/challenge".toList [.email, .challenge]
    .requestEmailSecondFactorChallenge (by decide +kernel)

def emailVerifyRoute : Routed :=
  secondFactorRoute "email/verify".toList [.email, .verify] .verifyEmailSecondFactorChallenge
    (by decide +kernel)

def totpEnrollRoute : Routed :=
  secondFactorRoute "totp/enroll".toList [.totp, .enroll] .startTOTPSecondFactorEnrollment
    (by decide +kernel)

def totpConfirmRoute : Routed :=
  secondFactorRoute "totp/confirm".toList [.totp, .confirm] .confirmTOTPSecondFactorEnrollment
    (by decide +kernel)

def totpVerifyRoute : Routed :=
  secondFactorRoute "totp/verify".toList [.totp, .verify] .verifyTOTPSecondFactorChallenge
    (by decide +kernel)

def webAuthnStartRoute : Routed :=
  secondFactorRoute "webauthn/register/start".toList [.webauthn, .register, .start]
    .startWebAuthnRegistration (by decide +kernel)

def webAuthnFinishRoute : Routed :=
  secondFactorRoute "webauthn/register/finish".toList [.webauthn, .register, .finish]
    .finishWebAuthnRegistration (by decide +kernel)

/-- A request with the token of a session. -/
def asSession (rawToken : String) (req : Routed) (body : Body) : Request :=
  .main req { bearer := some rawToken } body

/-- The login of an account with the sample password. -/
def loginAs (username : String) : Request :=
  .main loginRoute {} { username := username, password := "p" }

/-- `n` steps of a process without faults. -/
def steps (pid n : Nat) : List (Label Request Choice) := List.replicate n (.step pid {})

end SafetyRecorder.Auth
