import SafetyRecorder.Auth.Models
import SafetyRecorder.Lib.Table

namespace SafetyRecorder.Auth

open Table Checked

/-!
# Auth — the account repository

The reads and transactions of `internal/incidents/auth.go`, `second_factors.go`,
`totp_second_factors.go`, `webauthn_second_factors.go` and `account_recovery.go`.
A transaction draws its identifiers and tokens and reads the clock through `Draw`;
times the callers pass are parameters.

The tokens of `account_verification_tokens` are not modelled: a request to verify an
address names the account its token was issued for.
-/

/-- `SessionTokenHash`. -/
def sessionTokenHash (env : Env) (rawToken : String) : String :=
  env.sha256Hex rawToken.toUTF8.data.toList

/-! ### Reads -/

/-- `GetAccountByID`. -/
def getAccountByID (db : AuthDB) (accountID : String) : Except AuthError Account :=
  found (db.accounts.find? (·.id == accountID)) .notFound

/-- `HasAdminAccount`. -/
def hasAdminAccount (db : AuthDB) : Bool := db.accounts.any (·.role == .admin)

/-- `GetAccountByUsername`. -/
def getAccountByUsername (db : AuthDB) (username : String) : Except AuthError Account :=
  found (db.accounts.find? (·.username == username)) .notFound

/-- `LookupSession`. -/
def lookupSession (env : Env) (now : Time) (db : AuthDB) (rawToken : String) :
    Except AuthError Session := do
  let session ← found (db.sessions.find? (·.tokenHash == sessionTokenHash env rawToken)) .notFound
  ensure (session.live now = true) .notFound
  return session

/-- `GetActiveEmailSecondFactor`. -/
def getActiveEmailSecondFactor (db : AuthDB) (accountID : String) : Except AuthError EmailFactor :=
  found (db.emailFactors.find? fun f => f.accountID == accountID && f.factorState == .active)
    .notFound

/-- `getTOTPSecondFactorForAccount` and the check of the factor's state. -/
def getTOTPSecondFactor (db : AuthDB) (accountID : String) (state : FactorState) :
    Except AuthError TOTPFactor := do
  let factor ← found (db.totpFactors.find? (·.accountID == accountID)) .notFound
  ensure (factor.factorState = state) .notFound
  return factor

/-- `GetPendingTOTPSecondFactor`. -/
def getPendingTOTPSecondFactor (db : AuthDB) (accountID : String) : Except AuthError TOTPFactor :=
  getTOTPSecondFactor db accountID .pending

/-- `GetActiveTOTPSecondFactor`. -/
def getActiveTOTPSecondFactor (db : AuthDB) (accountID : String) : Except AuthError TOTPFactor :=
  getTOTPSecondFactor db accountID .active

/-- `HasActiveWebAuthnCredential`. -/
def hasActiveWebAuthnCredential (db : AuthDB) (accountID : String) : Bool :=
  db.webAuthnCredentials.any (·.accountID == accountID)

/-- `ListWebAuthnCredentials`; rows are stored in the order of creation. -/
def listWebAuthnCredentials (db : AuthDB) (accountID rpID : String) : List WebAuthnCredential :=
  db.webAuthnCredentials.filter fun c => c.accountID == accountID && c.rpID == rpID

/-! ### What the reads find -/

section Reads

variable {db : AuthDB} {accountID : String}

theorem getAccountByID_ok {a : Account} (h : getAccountByID db accountID = .ok a) :
    a ∈ db.accounts ∧ a.id = accountID := by
  have hfound := found_ok.mp h
  have hid := List.find?_some hfound
  exact ⟨List.mem_of_find?_eq_some hfound, beq_iff_eq.mp hid⟩

theorem lookupSession_ok {env : Env} {now : Time} {rawToken : String} {s : Session}
    (h : lookupSession env now db rawToken = .ok s) :
    s ∈ db.sessions ∧ s.live now = true := by
  simp only [lookupSession, bind_ok, found_ok, ensure_ok, pure_ok] at h
  obtain ⟨s', hfound, -, hlive, rfl⟩ := h
  exact ⟨List.mem_of_find?_eq_some hfound, hlive⟩

theorem getTOTPSecondFactor_ok {state : FactorState} {f : TOTPFactor}
    (h : getTOTPSecondFactor db accountID state = .ok f) :
    f ∈ db.totpFactors ∧ f.accountID = accountID ∧ f.factorState = state := by
  simp only [getTOTPSecondFactor, bind_ok, found_ok, ensure_ok, pure_ok] at h
  obtain ⟨f', hfound, -, hstate, rfl⟩ := h
  have haccount := List.find?_some hfound
  exact ⟨List.mem_of_find?_eq_some hfound, beq_iff_eq.mp haccount, hstate⟩

/-- A factor that is there is found, if accounts have at most one. -/
theorem getTOTPSecondFactor_of_mem {f : TOTPFactor}
    (hkeys : (db.totpFactors.map (·.accountID)).Nodup) (hf : f ∈ db.totpFactors) :
    getTOTPSecondFactor db f.accountID f.factorState = .ok f := by
  have hfound := find?_key (k := fun f : TOTPFactor => f.accountID) hkeys hf
  rw [getTOTPSecondFactor, hfound]
  simp [found, ensure, bind, Except.bind, pure, Except.pure]

theorem getActiveEmailSecondFactor_of_mem {f : EmailFactor} (hf : f ∈ db.emailFactors)
    (hactive : f.factorState = .active) :
    getActiveEmailSecondFactor db f.accountID ≠ .error .notFound := by
  intro h
  unfold getActiveEmailSecondFactor found at h
  split at h
  · cases h
  next hnone => simpa [hactive] using List.find?_eq_none.mp hnone f hf

end Reads

/-! ### Accounts and sessions -/

/-- `CreateAccountParams`. -/
structure CreateAccountParams where
  username : String
  emailNormalized : String := ""
  accountState : AccountState := .active
  secondFactorSetup : SetupState := .notRequired
  passwordHash : String
  role : Role
  deriving DecidableEq, Repr

/-- `CreateAccount`. -/
def createAccount (env : Env) (d : Draw) (params : CreateAccountParams) (db : AuthDB) :
    Except AuthError (Account × AuthDB) := do
  let account : Account :=
    { id := env.newID "acct" d.next
      username := params.username
      emailNormalized := params.emailNormalized
      accountState := params.accountState
      secondFactorSetup := params.secondFactorSetup
      passwordHash := params.passwordHash
      role := params.role
      createdAt := d.now
      updatedAt := d.now
      passwordChangedAt := d.now }
  ensure (db.accounts.all (fun a => a.id != account.id && a.username != account.username &&
    (account.emailNormalized == "" || a.emailNormalized != account.emailNormalized)) = true) .duplicate
  return (account, { db with accounts := db.accounts ++ [account] })

/-- `UPDATE accounts … WHERE id = ?`. -/
def AuthDB.updateAccount (db : AuthDB) (accountID : String) (f : Account → Account) : AuthDB :=
  { db with accounts := updateWhere (·.id == accountID) f db.accounts }

/-- The account row of `ConsumeAccountVerificationToken`. -/
def markEmailVerified (now : Time) (account : Account) : Account :=
  { account with
    accountState := if account.accountState = .pendingEmailVerification then .active
      else account.accountState
    emailVerifiedAt := account.emailVerifiedAt.or (some now)
    updatedAt := now }

/-- `ConsumeAccountVerificationToken` with a token of the account. -/
def consumeAccountVerificationToken (accountID : String) (now : Time) (db : AuthDB) :
    Except AuthError (Account × AuthDB) := do
  let db' := db.updateAccount accountID (markEmailVerified now)
  let account ← getAccountByID db' accountID
  return (account, db')

/-- `UpdateAccountPassword`. -/
def updateAccountPassword (d : Draw) (accountID passwordHash : String) (db : AuthDB) :
    Except AuthError (Account × AuthDB) := do
  let db' := db.updateAccount accountID fun a =>
    { a with passwordHash := passwordHash, updatedAt := d.now, passwordChangedAt := d.now }
  let account ← getAccountByID db' accountID
  return (account, db')

/-- `CreateSession`: the row and the raw token. -/
def createSession (env : Env) (d : Draw) (accountID : String) (expiresAt : Time) (db : AuthDB) :
    Except AuthError ((Session × String) × AuthDB) := do
  let rawToken := env.newID "tok" d.next
  let session : Session :=
    { id := env.newID "ses" (d.next + 1)
      accountID := accountID
      tokenHash := sessionTokenHash env rawToken
      createdAt := d.now
      expiresAt := expiresAt }
  ensure (db.accounts.any (·.id == accountID) = true ∧
    db.sessions.all (fun s => s.id != session.id && s.tokenHash != session.tokenHash) = true) .notFound
  return ((session, rawToken), { db with sessions := db.sessions ++ [session] })

/-- `UPDATE auth_sessions … WHERE … AND revoked_at IS NULL`. -/
def AuthDB.updateSessions (db : AuthDB) (p : Session → Bool) (f : Session → Session) : AuthDB :=
  { db with sessions := updateWhere (fun s => p s && s.revokedAt.isNone) f db.sessions }

/-- `MarkSessionSecondFactorVerified`. -/
def markSessionSecondFactorVerified (sessionID factorID : String) (method : FactorType)
    (verifiedAt : Time) (db : AuthDB) : Except AuthError (Session × AuthDB) := do
  ensure (db.sessions.any (fun s => s.id == sessionID && s.revokedAt.isNone) = true) .notFound
  let db' := db.updateSessions (·.id == sessionID) fun s =>
    { s with
      secondFactorVerifiedAt := some verifiedAt
      secondFactorFactorID := factorID
      secondFactorMethod := some method }
  let session ← found (db'.sessions.find? (·.id == sessionID)) .notFound
  return (session, db')

/-- `RevokeSession`. -/
def revokeSession (d : Draw) (sessionID : String) (db : AuthDB) : Except AuthError (Unit × AuthDB) := do
  ensure (db.sessions.any (fun s => s.id == sessionID && s.revokedAt.isNone) = true) .notFound
  return ((), db.updateSessions (·.id == sessionID) fun s => { s with revokedAt := some d.now })

/-- `RevokeAccountSessions`; no session is spared when `exceptSessionID` is empty. -/
def revokeAccountSessions (d : Draw) (accountID exceptSessionID : String) (db : AuthDB) :
    Except AuthError (Unit × AuthDB) :=
  return ((), db.updateSessions
    (fun s => s.accountID == accountID && (exceptSessionID == "" || s.id != exceptSessionID))
    fun s => { s with revokedAt := some d.now })

/-! ### E-mail factors -/

/-- The second-factor setup of the account is complete. -/
def AuthDB.completeSetup (db : AuthDB) (accountID : String) (now : Time) : AuthDB :=
  db.updateAccount accountID fun a => { a with secondFactorSetup := .complete, updatedAt := now }

/-- Insert a challenge for a factor; the raw token is emailed to its address. -/
def AuthDB.insertEmailChallenge (db : AuthDB) (env : Env) (d : Draw) (factor : EmailFactor)
    (expiresAt : Time) : Except AuthError ((EmailChallenge × String) × AuthDB) := do
  let rawToken := env.newID "tok" d.next
  let challenge : EmailChallenge :=
    { id := env.newID "sfc" (d.next + 1)
      accountID := factor.accountID
      factorID := factor.id
      tokenHash := sessionTokenHash env rawToken
      emailNormalized := factor.emailNormalized
      createdAt := d.now
      expiresAt := expiresAt }
  ensure (db.accounts.any (·.id == factor.accountID) = true ∧
    db.emailChallenges.all (fun c => c.id != challenge.id && c.tokenHash != challenge.tokenHash) = true)
    .notFound
  return ((challenge, rawToken), { db with emailChallenges := db.emailChallenges ++ [challenge] })

/-- `CreateEmailSecondFactorChallenge`: a factor that is still pending takes the new
    address. -/
def createEmailSecondFactorChallenge (env : Env) (d : Draw) (accountID emailNormalized : String)
    (expiresAt : Time) (db : AuthDB) : Except AuthError ((EmailChallenge × String) × AuthDB) :=
  match db.emailFactors.find? (·.accountID == accountID) with
  | none => do
    let factor : EmailFactor :=
      { id := env.newID "sf" (d.next + 2)
        accountID := accountID
        emailNormalized := emailNormalized
        factorState := .pending
        createdAt := d.now
        updatedAt := d.now }
    ensure (db.accounts.any (·.id == accountID) = true ∧
      db.emailFactors.all (·.id != factor.id) = true) .notFound
    { db with emailFactors := db.emailFactors ++ [factor] }.insertEmailChallenge env d factor expiresAt
  | some factor => do
    ensure (factor.factorState ≠ .active) .duplicate
    let factors := updateWhere (·.id == factor.id) (fun f =>
      { f with
        emailNormalized := emailNormalized
        factorState := .pending
        verifiedAt := none
        updatedAt := d.now }) db.emailFactors
    { db with emailFactors := factors }.insertEmailChallenge env d
      { factor with emailNormalized := emailNormalized } expiresAt

/-- `CreateActiveEmailSecondFactorChallenge`. -/
def createActiveEmailSecondFactorChallenge (env : Env) (d : Draw) (accountID : String)
    (expiresAt : Time) (db : AuthDB) : Except AuthError ((EmailChallenge × String) × AuthDB) := do
  let factor ← getActiveEmailSecondFactor db accountID
  db.insertEmailChallenge env d factor expiresAt

/-- The e-mail factor a consumed challenge leaves behind. -/
def activateEmailFactor (challenge : EmailChallenge) (now : Time) (f : EmailFactor) : EmailFactor :=
  { f with
    emailNormalized := challenge.emailNormalized
    factorState := .active
    verifiedAt := some now
    updatedAt := now }

/-- A challenge is marked consumed. -/
def consumeChallenge (now : Time) (c : EmailChallenge) : EmailChallenge :=
  { c with consumedAt := some now }

/-- `ConsumeEmailSecondFactorChallenge`: the challenge and its unconsumed siblings are
    consumed, its factor becomes active with the challenge's address, whatever state it
    was in. -/
def consumeEmailSecondFactorChallenge (env : Env) (accountID rawToken : String) (now : Time)
    (db : AuthDB) : Except AuthError ((EmailFactor × Account) × AuthDB) := do
  let challenge ← found (db.emailChallenges.find? fun c =>
    c.accountID == accountID && c.tokenHash == sessionTokenHash env rawToken) .notFound
  ensure (challenge.consumedAt = none ∧ now < challenge.expiresAt) .notFound
  let challenges := updateWhere (fun c => c.id == challenge.id && c.consumedAt.isNone)
    (consumeChallenge now) db.emailChallenges
  let siblings := updateWhere (fun c => c.accountID == accountID && c.factorID == challenge.factorID &&
    c.consumedAt.isNone) (consumeChallenge now) challenges
  let factors := updateWhere (fun f => f.id == challenge.factorID && f.accountID == accountID)
    (activateEmailFactor challenge now) db.emailFactors
  let db' := { db with emailChallenges := siblings, emailFactors := factors }.completeSetup accountID now
  let factor ← found (db'.emailFactors.find? (·.id == challenge.factorID)) .notFound
  let account ← getAccountByID db' accountID
  return ((factor, account), db')

/-! ### TOTP factors -/

/-- `CreateTOTPSecondFactorEnrollmentParams`. -/
structure TOTPEnrollmentParams where
  accountID : String
  secret : String
  periodSeconds : Int
  digits : Int
  algorithm : String
  deriving DecidableEq, Repr

/-- The pending factor an enrolment leaves behind. -/
def refreshTOTPFactor (d : Draw) (params : TOTPEnrollmentParams) (f : TOTPFactor) : TOTPFactor :=
  { f with
    secret := params.secret
    periodSeconds := params.periodSeconds
    digits := params.digits
    algorithm := params.algorithm
    lastUsedTimeStep := none
    verifiedAt := none
    updatedAt := d.now }

/-- `CreateTOTPSecondFactorEnrollment`: a factor that is still pending takes the new
    secret. -/
def createTOTPSecondFactorEnrollment (env : Env) (d : Draw) (params : TOTPEnrollmentParams)
    (db : AuthDB) : Except AuthError (TOTPFactor × AuthDB) :=
  match db.totpFactors.find? (·.accountID == params.accountID) with
  | none => do
    let factor : TOTPFactor :=
      { id := env.newID "sf" d.next
        accountID := params.accountID
        factorState := .pending
        secret := params.secret
        periodSeconds := params.periodSeconds
        digits := params.digits
        algorithm := params.algorithm
        createdAt := d.now
        updatedAt := d.now }
    ensure (db.accounts.any (·.id == params.accountID) = true ∧
      db.totpFactors.all (·.id != factor.id) = true) .notFound
    return (factor, { db with totpFactors := db.totpFactors ++ [factor] })
  | some factor => do
    ensure (factor.factorState ≠ .active) .duplicate
    let factors := updateWhere (·.id == factor.id) (refreshTOTPFactor d params) db.totpFactors
    return (refreshTOTPFactor d params factor, { db with totpFactors := factors })

/-- `ActivateTOTPSecondFactor`: only a factor that is still pending is activated. -/
def activateTOTPSecondFactor (accountID factorID : String) (verifiedAt : Time)
    (lastUsedTimeStep : Int) (db : AuthDB) : Except AuthError ((TOTPFactor × Account) × AuthDB) := do
  let selected := fun f : TOTPFactor =>
    f.id == factorID && f.accountID == accountID && f.factorState == .pending
  ensure (db.totpFactors.any selected = true) .notFound
  let factors := updateWhere selected (fun f =>
    { f with
      factorState := .active
      lastUsedTimeStep := some lastUsedTimeStep
      verifiedAt := some verifiedAt
      updatedAt := verifiedAt }) db.totpFactors
  let db' := { db with totpFactors := factors }.completeSetup accountID verifiedAt
  let factor ← found (db'.totpFactors.find? (·.id == factorID)) .notFound
  let account ← getAccountByID db' accountID
  return ((factor, account), db')

/-- `MarkTOTPSecondFactorUsed`: the time step has to be later than the last one. -/
def markTOTPSecondFactorUsed (factorID : String) (verifiedAt : Time) (lastUsedTimeStep : Int)
    (db : AuthDB) : Except AuthError (TOTPFactor × AuthDB) := do
  let selected := fun f : TOTPFactor =>
    f.id == factorID && f.factorState == .active && f.lastUsedTimeStep.all (· < lastUsedTimeStep)
  ensure (db.totpFactors.any selected = true) .notFound
  let factors := updateWhere selected (fun f =>
    { f with lastUsedTimeStep := some lastUsedTimeStep, updatedAt := verifiedAt }) db.totpFactors
  let factor ← found (factors.find? (·.id == factorID)) .notFound
  return (factor, { db with totpFactors := factors })

/-! ### WebAuthn credentials -/

/-- `GetOrCreateWebAuthnUser`. -/
def getOrCreateWebAuthnUser (env : Env) (d : Draw) (accountID rpID : String) (db : AuthDB) :
    Except AuthError (WebAuthnUser × AuthDB) :=
  match db.webAuthnUsers.find? fun u => u.accountID == accountID && u.rpID == rpID with
  | some user => return (user, db)
  | none => do
    let user : WebAuthnUser :=
      { accountID := accountID
        rpID := rpID
        userHandle := env.newID "wah" d.next
        createdAt := d.now
        updatedAt := d.now }
    ensure (db.accounts.any (·.id == accountID) = true) .notFound
    return (user, { db with webAuthnUsers := db.webAuthnUsers ++ [user] })

/-- A ceremony of a session: the key of its challenges. -/
structure Ceremony where
  accountID : String
  sessionID : String
  rpID : String
  challengeType : CeremonyType
  deriving DecidableEq, Repr

/-- The challenge belongs to the ceremony and is not consumed. -/
def Ceremony.selects (k : Ceremony) (c : WebAuthnChallenge) : Bool :=
  c.accountID == k.accountID && c.sessionID == k.sessionID && c.rpID == k.rpID &&
    c.challengeType == k.challengeType && c.consumedAt.isNone

/-- `CreateWebAuthnChallenge`: earlier challenges of the ceremony are consumed. -/
def createWebAuthnChallenge (env : Env) (d : Draw) (k : Ceremony) (sessionData : Bytes)
    (expiresAt : Time) (db : AuthDB) : Except AuthError (WebAuthnChallenge × AuthDB) := do
  let challenge : WebAuthnChallenge :=
    { id := env.newID "wac" d.next
      accountID := k.accountID
      sessionID := k.sessionID
      rpID := k.rpID
      challengeType := k.challengeType
      sessionData := sessionData
      createdAt := d.now
      expiresAt := expiresAt }
  let challenges := updateWhere k.selects (fun c => { c with consumedAt := some d.now })
    db.webAuthnChallenges
  ensure (db.accounts.any (·.id == k.accountID) = true ∧
    db.sessions.any (·.id == k.sessionID) = true) .notFound
  return (challenge, { db with webAuthnChallenges := challenges ++ [challenge] })

/-- `ORDER BY created_at DESC, id DESC`: the first challenge comes before the second. -/
def WebAuthnChallenge.precedes (a b : WebAuthnChallenge) : Bool :=
  b.createdAt < a.createdAt || (a.createdAt == b.createdAt && decide (b.id < a.id))

/-- `ConsumeWebAuthnChallenge`: the latest open challenge of the ceremony. -/
def consumeWebAuthnChallenge (k : Ceremony) (now : Time) (db : AuthDB) :
    Except AuthError (WebAuthnChallenge × AuthDB) := do
  let candidates := db.webAuthnChallenges.filter k.selects
  let challenge ← found (candidates.find? fun c => candidates.all fun c' => !c'.precedes c) .notFound
  ensure (now < challenge.expiresAt) .notFound
  let challenges := updateWhere (fun c => c.id == challenge.id && c.consumedAt.isNone)
    (fun c => { c with consumedAt := some now }) db.webAuthnChallenges
  return ({ challenge with consumedAt := some now }, { db with webAuthnChallenges := challenges })

/-- `CreateWebAuthnCredential`: the credential is active at once. -/
def createWebAuthnCredential (env : Env) (d : Draw) (accountID rpID : String)
    (authenticator : Authenticator) (verifiedAt : Time) (db : AuthDB) :
    Except AuthError ((WebAuthnCredential × Account) × AuthDB) := do
  let credential : WebAuthnCredential :=
    { id := env.newID "sf" d.next
      accountID := accountID
      rpID := rpID
      authenticator := authenticator
      createdAt := d.now
      updatedAt := d.now
      verifiedAt := some verifiedAt }
  ensure (db.accounts.any (·.id == accountID) = true ∧ db.webAuthnCredentials.all (fun c =>
    c.id != credential.id && !(c.rpID == rpID &&
      c.authenticator.credentialID == authenticator.credentialID)) = true) .duplicate
  let db' := { db with webAuthnCredentials := db.webAuthnCredentials ++ [credential] }.completeSetup
    accountID verifiedAt
  let account ← getAccountByID db' accountID
  return ((credential, account), db')

/-- `UpdateWebAuthnCredentialAfterAssertion`. -/
def updateWebAuthnCredentialAfterAssertion (stored : WebAuthnCredential) (signCount : Nat)
    (verifiedAt : Time) (db : AuthDB) : Except AuthError (WebAuthnCredential × AuthDB) := do
  let selected := fun c : WebAuthnCredential =>
    c.id == stored.id && c.accountID == stored.accountID && c.rpID == stored.rpID
  ensure (db.webAuthnCredentials.any selected = true) .notFound
  let credentials := updateWhere selected (fun c =>
    { c with
      authenticator := { c.authenticator with signCount := signCount }
      updatedAt := verifiedAt
      lastUsedAt := some verifiedAt }) db.webAuthnCredentials
  let credential ← found (credentials.find? (·.id == stored.id)) .notFound
  return (credential, { db with webAuthnCredentials := credentials })

/-! ### Recovery -/

/-- `ResetAccountSecondFactorRecovery`: every factor and challenge of the account is
    deleted, setup is required again and every session is revoked. -/
def resetAccountSecondFactorRecovery (env : Env) (d : Draw) (accountID adminAccountID : String)
    (reason : RecoveryReason) (db : AuthDB) : Except AuthError ((RecoveryEvent × Account) × AuthDB) := do
  let account ← getAccountByID db accountID
  let _ ← getAccountByID db adminAccountID
  let event : RecoveryEvent :=
    { id := env.newID "are" d.next
      accountID := accountID
      adminAccountID := adminAccountID
      reason := reason
      previousSetup := account.secondFactorSetup
      sessionsRevoked := db.sessions.countP fun s => s.accountID == accountID && s.revokedAt.isNone
      emailFactorsRemoved := db.emailFactors.countP (·.accountID == accountID)
      totpFactorsRemoved := db.totpFactors.countP (·.accountID == accountID)
      webAuthnCredentialsRemoved := db.webAuthnCredentials.countP (·.accountID == accountID)
      createdAt := d.now }
  let db' := ({ db with
    emailChallenges := deleteWhere (·.accountID == accountID) db.emailChallenges
    emailFactors := deleteWhere (·.accountID == accountID) db.emailFactors
    totpFactors := deleteWhere (·.accountID == accountID) db.totpFactors
    webAuthnChallenges := deleteWhere (·.accountID == accountID) db.webAuthnChallenges
    webAuthnCredentials := deleteWhere (·.accountID == accountID) db.webAuthnCredentials
    recoveryEvents := db.recoveryEvents ++ [event] }.updateAccount accountID fun a =>
      { a with secondFactorSetup := .setupRequired, updatedAt := d.now }).updateSessions
    (·.accountID == accountID) fun s => { s with revokedAt := some d.now }
  let updated ← getAccountByID db' accountID
  return ((event, updated), db')

end SafetyRecorder.Auth
