import SafetyRecorder.Incidents.Models

namespace SafetyRecorder.Auth

/-!
# Auth — accounts, sessions and second factors

The rows of the account tables (`internal/auth/models.go` and the migrations) and
the predicates on them.

* Pointers and nullable columns are `Option`; a missing e-mail address is `""`;
* of a WebAuthn authenticator the model keeps the identifier, the public key and the
  signature counter;
* `AuthDB` is the part of the metadata database that authentication works on.
-/

/-- `Role…`. -/
inductive Role
  | user | admin
  deriving DecidableEq, Repr

/-- `AccountState…`. -/
inductive AccountState
  | pendingEmailVerification | active | disabled | suspended | pendingPayment
  deriving DecidableEq, Repr

/-- `SecondFactorSetupState…`. -/
inductive SetupState
  | notRequired | setupRequired | complete
  deriving DecidableEq, Repr

/-- `SecondFactorState…`. -/
inductive FactorState
  | pending | active
  deriving DecidableEq, Repr

/-- `SecondFactorType…`: how a session was verified. -/
inductive FactorType
  | emailChallenge | totp | webauthn
  deriving DecidableEq, Repr

/-- `SecondFactorChallengeTypeWebAuthn…`. -/
inductive CeremonyType
  | registration | assertion
  deriving DecidableEq, Repr

/-- `AccountRecoveryReason…`: the reasons `ValidAccountRecoveryReason` accepts. -/
inductive RecoveryReason
  | lostEmailAccess | lostTOTPDevice | lostWebAuthnCredential | lostAllFactors
  | adminCreatedSetup | operatorReview
  deriving DecidableEq, Repr

/-- The errors of the account repository; `other` is every wrapped driver error. -/
inductive AuthError
  | notFound | duplicate | other
  deriving DecidableEq, Repr

/-! ### Rows -/

/-- A row of `accounts`. -/
structure Account where
  id : String
  username : String
  emailNormalized : String := ""
  emailVerifiedAt : Option Time := none
  accountState : AccountState := .active
  secondFactorSetup : SetupState := .notRequired
  passwordHash : String
  role : Role
  createdAt : Time
  updatedAt : Time
  passwordChangedAt : Time
  deriving DecidableEq, Repr

/-- A row of `auth_sessions`. -/
structure Session where
  id : String
  accountID : String
  tokenHash : String
  secondFactorVerifiedAt : Option Time := none
  secondFactorFactorID : String := ""
  secondFactorMethod : Option FactorType := none
  createdAt : Time
  expiresAt : Time
  revokedAt : Option Time := none
  deriving DecidableEq, Repr

/-- A row of `account_second_factors`: an e-mail factor. -/
structure EmailFactor where
  id : String
  accountID : String
  emailNormalized : String
  factorState : FactorState
  createdAt : Time
  updatedAt : Time
  verifiedAt : Option Time := none
  deriving DecidableEq, Repr

/-- A row of `account_second_factor_challenges`. -/
structure EmailChallenge where
  id : String
  accountID : String
  factorID : String
  tokenHash : String
  emailNormalized : String
  createdAt : Time
  expiresAt : Time
  consumedAt : Option Time := none
  deriving DecidableEq, Repr

/-- A row of `account_totp_second_factors`. -/
structure TOTPFactor where
  id : String
  accountID : String
  factorState : FactorState
  secret : String
  periodSeconds : Int
  digits : Int
  algorithm : String
  lastUsedTimeStep : Option Int := none
  createdAt : Time
  updatedAt : Time
  verifiedAt : Option Time := none
  deriving DecidableEq, Repr

/-- A row of `account_webauthn_users`. -/
structure WebAuthnUser where
  accountID : String
  rpID : String
  userHandle : String
  createdAt : Time
  updatedAt : Time
  deriving DecidableEq, Repr

/-- What the WebAuthn library reports of an authenticator. -/
structure Authenticator where
  credentialID : Bytes
  publicKey : Bytes
  signCount : Nat
  deriving DecidableEq, Repr

/-- A row of `account_webauthn_credentials`; a stored credential is active. -/
structure WebAuthnCredential where
  id : String
  accountID : String
  rpID : String
  authenticator : Authenticator
  createdAt : Time
  updatedAt : Time
  verifiedAt : Option Time
  lastUsedAt : Option Time := none
  deriving DecidableEq, Repr

/-- A row of `account_webauthn_challenges`. -/
structure WebAuthnChallenge where
  id : String
  accountID : String
  sessionID : String
  rpID : String
  challengeType : CeremonyType
  sessionData : Bytes
  createdAt : Time
  expiresAt : Time
  consumedAt : Option Time := none
  deriving DecidableEq, Repr

/-- A row of `account_recovery_events`. -/
structure RecoveryEvent where
  id : String
  accountID : String
  adminAccountID : String
  reason : RecoveryReason
  previousSetup : SetupState
  sessionsRevoked : Nat
  emailFactorsRemoved : Nat
  totpFactorsRemoved : Nat
  webAuthnCredentialsRemoved : Nat
  createdAt : Time
  deriving DecidableEq, Repr

/-- The tables of authentication. -/
structure AuthDB where
  accounts : List Account := []
  sessions : List Session := []
  emailFactors : List EmailFactor := []
  emailChallenges : List EmailChallenge := []
  totpFactors : List TOTPFactor := []
  webAuthnUsers : List WebAuthnUser := []
  webAuthnCredentials : List WebAuthnCredential := []
  webAuthnChallenges : List WebAuthnChallenge := []
  recoveryEvents : List RecoveryEvent := []
  deriving DecidableEq, Repr

/-! ### Predicates -/

/-- `CanAuthenticate`. -/
def canAuthenticate (account : Account) : Bool := account.accountState == .active

/-- `CanAccessProductRoutes`. -/
def canAccessProductRoutes (account : Account) : Bool :=
  account.secondFactorSetup == .notRequired || account.secondFactorSetup == .complete

/-- `adminRequiresSecondFactorSetup`. -/
def adminRequiresSecondFactorSetup (account : Account) : Bool :=
  account.role == .admin && account.secondFactorSetup != .complete

/-- The session may authenticate a request at `now`. -/
def Session.live (session : Session) (now : Time) : Bool :=
  session.revokedAt.isNone && decide (now < session.expiresAt)

/-- The account has an active e-mail, TOTP or WebAuthn factor. -/
def AuthDB.HasActiveFactor (db : AuthDB) (accountID : String) : Prop :=
  (∃ f ∈ db.emailFactors, f.accountID = accountID ∧ f.factorState = .active) ∨
  (∃ f ∈ db.totpFactors, f.accountID = accountID ∧ f.factorState = .active) ∨
  ∃ c ∈ db.webAuthnCredentials, c.accountID = accountID

end SafetyRecorder.Auth
