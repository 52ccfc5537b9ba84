import SafetyRecorder.Auth.Calls

namespace SafetyRecorder.Auth

open Table Checked

/-!
# Auth — what a transaction does to the tables

* `Effect` — one constructor for every form a committed transaction has;
* `effect_of_run` — **inversion**: a transaction that succeeds has one of these effects;
* `session_origin`, `session_kept` — the rows of `auth_sessions` before and after;
* `account_origin`, `account_kept` — the rows of `accounts`;
* `emailFactor_origin`, `totpFactor_origin`, `credential_origin` — the second factors.

Every later argument about the repository is a case analysis over `Effect`.
-/

/-- What `UpdateAccountPassword` writes. -/
def setPassword (d : Draw) (passwordHash : String) (a : Account) : Account :=
  { a with passwordHash := passwordHash, updatedAt := d.now, passwordChangedAt := d.now }

/-- What `MarkSessionSecondFactorVerified` writes. -/
def verify (factorID : String) (method : FactorType) (verifiedAt : Time) (s : Session) : Session :=
  { s with
    secondFactorVerifiedAt := some verifiedAt
    secondFactorFactorID := factorID
    secondFactorMethod := some method }

/-- What the revoking statements write. -/
def revoke (d : Draw) (s : Session) : Session := { s with revokedAt := some d.now }

/-- The sessions `RevokeAccountSessions` revokes. -/
def sparing (accountID exceptSessionID : String) (s : Session) : Bool :=
  s.accountID == accountID && (exceptSessionID == "" || s.id != exceptSessionID)

/-- What a new enrolment writes to a pending e-mail factor. -/
def readdress (d : Draw) (emailNormalized : String) (f : EmailFactor) : EmailFactor :=
  { f with
    emailNormalized := emailNormalized
    factorState := .pending
    verifiedAt := none
    updatedAt := d.now }

/-- What `ActivateTOTPSecondFactor` writes. -/
def activate (verifiedAt : Time) (timeStep : Int) (f : TOTPFactor) : TOTPFactor :=
  { f with
    factorState := .active
    lastUsedTimeStep := some timeStep
    verifiedAt := some verifiedAt
    updatedAt := verifiedAt }

/-- What `MarkTOTPSecondFactorUsed` writes. -/
def use (verifiedAt : Time) (timeStep : Int) (f : TOTPFactor) : TOTPFactor :=
  { f with lastUsedTimeStep := some timeStep, updatedAt := verifiedAt }

/-- What `UpdateWebAuthnCredentialAfterAssertion` writes. -/
def asserted (signCount : Nat) (verifiedAt : Time) (c : WebAuthnCredential) : WebAuthnCredential :=
  { c with
    authenticator := { c.authenticator with signCount := signCount }
    updatedAt := verifiedAt
    lastUsedAt := some verifiedAt }

/-- The e-mail challenges after one of them was consumed with its siblings. -/
def consumed (accountID : String) (challenge : EmailChallenge) (now : Time)
    (t : List EmailChallenge) : List EmailChallenge :=
  updateWhere (fun c => c.accountID == accountID && c.factorID == challenge.factorID &&
      c.consumedAt.isNone) (consumeChallenge now)
    (updateWhere (fun c => c.id == challenge.id && c.consumedAt.isNone) (consumeChallenge now) t)

/-- The database after a recovery reset. -/
def recovered (d : Draw) (accountID : String) (event : RecoveryEvent) (db : AuthDB) : AuthDB :=
  ({ db with
    emailChallenges := deleteWhere (·.accountID == accountID) db.emailChallenges
    emailFactors := deleteWhere (·.accountID == accountID) db.emailFactors
    totpFactors := deleteWhere (·.accountID == accountID) db.totpFactors
    webAuthnChallenges := deleteWhere (·.accountID == accountID) db.webAuthnChallenges
    webAuthnCredentials := deleteWhere (·.accountID == accountID) db.webAuthnCredentials
    recoveryEvents := db.recoveryEvents ++ [event] }.updateAccount accountID fun a =>
      { a with secondFactorSetup := .setupRequired, updatedAt := d.now }).updateSessions
    (·.accountID == accountID) (revoke d)

/-- The challenge is a new one for the factor. -/
structure EmailChallenge.For (c : EmailChallenge) (f : EmailFactor) : Prop where
  accountID : c.accountID = f.accountID
  factorID : c.factorID = f.id
  emailNormalized : c.emailNormalized = f.emailNormalized
  consumedAt : c.consumedAt = none

/-- **The effects** of the transactions. -/
inductive Effect (env : Env) (d : Draw) (db : AuthDB) : Tx → AuthDB → Prop
  | createAccount (params : CreateAccountParams) (account : Account)
      (hnew : ∀ a ∈ db.accounts, a.id ≠ account.id) :
      Effect env d db (.createAccount params) { db with accounts := db.accounts ++ [account] }
  | consumeAccountVerificationToken (accountID : String) (now : Time) :
      Effect env d db (.consumeAccountVerificationToken accountID now)
        (db.updateAccount accountID (markEmailVerified now))
  | updateAccountPassword (accountID passwordHash : String) :
      Effect env d db (.updateAccountPassword accountID passwordHash)
        (db.updateAccount accountID (setPassword d passwordHash))
  | createSession (accountID : String) (expiresAt : Time) (session : Session)
      (hid : session.id = env.newID "ses" (d.next + 1)) (haccount : session.accountID = accountID)
      (hverified : session.secondFactorVerifiedAt = none)
      (hfresh : ∀ s ∈ db.sessions, s.id ≠ session.id ∧ s.tokenHash ≠ session.tokenHash) :
      Effect env d db (.createSession accountID expiresAt)
        { db with sessions := db.sessions ++ [session] }
  | markSession (sessionID factorID : String) (method : FactorType) (verifiedAt : Time) :
      Effect env d db (.markSessionSecondFactorVerified sessionID factorID method verifiedAt)
        (db.updateSessions (·.id == sessionID) (verify factorID method verifiedAt))
  | revokeSession (sessionID : String) :
      Effect env d db (.revokeSession sessionID) (db.updateSessions (·.id == sessionID) (revoke d))
  | revokeAccountSessions (accountID exceptSessionID : String) :
      Effect env d db (.revokeAccountSessions accountID exceptSessionID)
        (db.updateSessions (sparing accountID exceptSessionID) (revoke d))
  | newEmailFactor (accountID emailNormalized : String) (expiresAt : Time) (factor : EmailFactor)
      (challenge : EmailChallenge) (haccount : ∃ a ∈ db.accounts, a.id = accountID)
      (hfactor : factor.accountID = accountID ∧ factor.factorState = .pending)
      (hnone : ∀ f ∈ db.emailFactors, f.accountID ≠ accountID ∧ f.id ≠ factor.id)
      (hchallenge : challenge.For factor) :
      Effect env d db (.createEmailSecondFactorChallenge accountID emailNormalized expiresAt)
        { db with
          emailFactors := db.emailFactors ++ [factor]
          emailChallenges := db.emailChallenges ++ [challenge] }
  | pendingEmailFactor (accountID emailNormalized : String) (expiresAt : Time)
      (factor : EmailFactor) (challenge : EmailChallenge) (hfactor : factor ∈ db.emailFactors)
      (haccount : factor.accountID = accountID) (hpending : factor.factorState = .pending)
      (hchallenge : challenge.For { factor with emailNormalized := emailNormalized }) :
      Effect env d db (.createEmailSecondFactorChallenge accountID emailNormalized expiresAt)
        { db with
          emailFactors := updateWhere (·.id == factor.id) (readdress d emailNormalized) db.emailFactors
          emailChallenges := db.emailChallenges ++ [challenge] }
  | activeEmailFactor (accountID : String) (expiresAt : Time) (factor : EmailFactor)
      (challenge : EmailChallenge) (hfactor : factor ∈ db.emailFactors)
      (haccount : factor.accountID = accountID) (hchallenge : challenge.For factor) :
      Effect env d db (.createActiveEmailSecondFactorChallenge accountID expiresAt)
        { db with emailChallenges := db.emailChallenges ++ [challenge] }
  | consumeEmail (accountID rawToken : String) (now : Time) (challenge : EmailChallenge)
      (hchallenge : challenge ∈ db.emailChallenges) (haccount : challenge.accountID = accountID)
      (htoken : challenge.tokenHash = sessionTokenHash env rawToken)
      (hopen : challenge.consumedAt = none) :
      Effect env d db (.consumeEmailSecondFactorChallenge accountID rawToken now)
        ({ db with
          emailChallenges := consumed accountID challenge now db.emailChallenges
          emailFactors := updateWhere (fun f => f.id == challenge.factorID && f.accountID == accountID)
            (activateEmailFactor challenge now) db.emailFactors }.completeSetup accountID now)
  | newTOTPFactor (params : TOTPEnrollmentParams) (factor : TOTPFactor)
      (haccount : ∃ a ∈ db.accounts, a.id = params.accountID)
      (hid : factor.id = env.newID "sf" d.next)
      (hfactor : factor.accountID = params.accountID ∧ factor.factorState = .pending)
      (hnone : ∀ f ∈ db.totpFactors, f.accountID ≠ params.accountID ∧ f.id ≠ factor.id) :
      Effect env d db (.createTOTPSecondFactorEnrollment params)
        { db with totpFactors := db.totpFactors ++ [factor] }
  | pendingTOTPFactor (params : TOTPEnrollmentParams) (factor : TOTPFactor)
      (hfactor : factor ∈ db.totpFactors) (haccount : factor.accountID = params.accountID)
      (hpending : factor.factorState = .pending) :
      Effect env d db (.createTOTPSecondFactorEnrollment params)
        { db with
          totpFactors := updateWhere (·.id == factor.id) (refreshTOTPFactor d params) db.totpFactors }
  | activateTOTP (accountID factorID : String) (verifiedAt : Time) (timeStep : Int)
      (hpending : ∃ f ∈ db.totpFactors, f.id = factorID ∧ f.accountID = accountID ∧
        f.factorState = .pending) :
      Effect env d db (.activateTOTPSecondFactor accountID factorID verifiedAt timeStep)
        ({ db with
          totpFactors := updateWhere (fun f : TOTPFactor => f.id == factorID &&
            f.accountID == accountID && f.factorState == FactorState.pending) (activate verifiedAt timeStep) db.totpFactors }.completeSetup
          accountID verifiedAt)
  | useTOTP (factorID : String) (verifiedAt : Time) (timeStep : Int)
      (hactive : ∃ f ∈ db.totpFactors, f.id = factorID ∧ f.factorState = .active ∧
        f.lastUsedTimeStep.all (· < timeStep) = true) :
      Effect env d db (.markTOTPSecondFactorUsed factorID verifiedAt timeStep)
        { db with
          totpFactors := updateWhere (fun f : TOTPFactor => f.id == factorID &&
            f.factorState == .active && f.lastUsedTimeStep.all (· < timeStep)) (use verifiedAt timeStep) db.totpFactors }
  | webAuthnUser (accountID rpID : String) (users : List WebAuthnUser) :
      Effect env d db (.getOrCreateWebAuthnUser accountID rpID) { db with webAuthnUsers := users }
  | createWebAuthnChallenge (k : Ceremony) (sessionData : Bytes) (expiresAt : Time)
      (challenges : List WebAuthnChallenge) :
      Effect env d db (.createWebAuthnChallenge k sessionData expiresAt)
        { db with webAuthnChallenges := challenges }
  | consumeWebAuthnChallenge (k : Ceremony) (now : Time) (challenges : List WebAuthnChallenge) :
      Effect env d db (.consumeWebAuthnChallenge k now) { db with webAuthnChallenges := challenges }
  | createWebAuthnCredential (accountID rpID : String) (authenticator : Authenticator)
      (verifiedAt : Time) (credential : WebAuthnCredential)
      (haccount : ∃ a ∈ db.accounts, a.id = accountID)
      (hcredential : credential.accountID = accountID) :
      Effect env d db (.createWebAuthnCredential accountID rpID authenticator verifiedAt)
        ({ db with webAuthnCredentials := db.webAuthnCredentials ++ [credential] }.completeSetup
          accountID verifiedAt)
  | updateWebAuthnCredential (stored : WebAuthnCredential) (signCount : Nat) (verifiedAt : Time) :
      Effect env d db (.updateWebAuthnCredentialAfterAssertion stored signCount verifiedAt)
        { db with
          webAuthnCredentials := updateWhere (fun c => c.id == stored.id &&
            c.accountID == stored.accountID && c.rpID == stored.rpID)
            (asserted signCount verifiedAt) db.webAuthnCredentials }
  | reset (accountID adminAccountID : String) (reason : RecoveryReason) (event : RecoveryEvent) :
      Effect env d db (.resetAccountSecondFactorRecovery accountID adminAccountID reason)
        (recovered d accountID event db)

/-! ### Inversion -/

variable {env : Env} {d : Draw} {db db' : AuthDB}

variable {accountID : String}

/-- The account that a foreign key names. -/
theorem account_of_any (h : db.accounts.any (·.id == accountID) = true) :
    ∃ a ∈ db.accounts, a.id = accountID := by
  simpa using h

theorem insertEmailChallenge_ok {factor : EmailFactor} {expiresAt : Time}
    {r : EmailChallenge × String}
    (h : db.insertEmailChallenge env d factor expiresAt = .ok (r, db')) :
    ∃ challenge : EmailChallenge, challenge.For factor ∧
      db' = { db with emailChallenges := db.emailChallenges ++ [challenge] } := by
  simp only [AuthDB.insertEmailChallenge, bind_ok, ensure_ok, pure_ok, Prod.mk.injEq] at h
  obtain ⟨-, -, rfl, rfl⟩ := h
  exact ⟨_, ⟨rfl, rfl, rfl, rfl⟩, rfl⟩

/-- A factor that is not active is pending. -/
theorem FactorState.pending_of_ne {s : FactorState} (h : s ≠ .active) : s = .pending := by
  cases s
  · rfl
  · exact (h rfl).elim

theorem createEmailSecondFactorChallenge_effect {accountID emailNormalized : String}
    {expiresAt : Time} {r : EmailChallenge × String}
    (h : createEmailSecondFactorChallenge env d accountID emailNormalized expiresAt db =
      .ok (r, db')) :
    Effect env d db (.createEmailSecondFactorChallenge accountID emailNormalized expiresAt) db' := by
  unfold createEmailSecondFactorChallenge at h
  split at h
  next hnone =>
    simp only [bind_ok, ensure_ok] at h
    obtain ⟨-, ⟨haccount, hids⟩, h⟩ := h
    obtain ⟨challenge, hfor, rfl⟩ := insertEmailChallenge_ok h
    refine .newEmailFactor accountID emailNormalized expiresAt _ challenge
      (account_of_any haccount) ⟨rfl, rfl⟩ (fun f hf => ⟨?_, ?_⟩) hfor
    · simpa using List.find?_eq_none.mp hnone f hf
    · simpa using List.all_eq_true.mp hids f hf
  next factor hfound =>
    simp only [bind_ok, ensure_ok] at h
    obtain ⟨-, hstate, h⟩ := h
    obtain ⟨challenge, hfor, rfl⟩ := insertEmailChallenge_ok h
    have haccount : factor.accountID = accountID := by simpa using List.find?_some hfound
    exact .pendingEmailFactor accountID emailNormalized expiresAt factor challenge
      (List.mem_of_find?_eq_some hfound) haccount (FactorState.pending_of_ne hstate) hfor

theorem createTOTPSecondFactorEnrollment_effect {params : TOTPEnrollmentParams} {r : TOTPFactor}
    (h : createTOTPSecondFactorEnrollment env d params db = .ok (r, db')) :
    Effect env d db (.createTOTPSecondFactorEnrollment params) db' := by
  unfold createTOTPSecondFactorEnrollment at h
  split at h
  next hnone =>
    simp only [bind_ok, ensure_ok, pure_ok, Prod.mk.injEq] at h
    obtain ⟨-, ⟨haccount, hids⟩, -, rfl⟩ := h
    refine .newTOTPFactor params _ (account_of_any haccount) rfl ⟨rfl, rfl⟩ fun f hf => ⟨?_, ?_⟩
    · simpa using List.find?_eq_none.mp hnone f hf
    · simpa using List.all_eq_true.mp hids f hf
  next factor hfound =>
    simp only [bind_ok, ensure_ok, pure_ok, Prod.mk.injEq] at h
    obtain ⟨-, hstate, -, rfl⟩ := h
    exact .pendingTOTPFactor params factor (List.mem_of_find?_eq_some hfound)
      (by simpa using List.find?_some hfound) (FactorState.pending_of_ne hstate)

theorem getOrCreateWebAuthnUser_effect {accountID rpID : String} {r : WebAuthnUser}
    (h : getOrCreateWebAuthnUser env d accountID rpID db = .ok (r, db')) :
    Effect env d db (.getOrCreateWebAuthnUser accountID rpID) db' := by
  unfold getOrCreateWebAuthnUser at h
  split at h
  · simp only [pure_ok, Prod.mk.injEq] at h
    obtain ⟨-, rfl⟩ := h
    exact .webAuthnUser accountID rpID db.webAuthnUsers
  · simp only [bind_ok, ensure_ok, pure_ok, Prod.mk.injEq] at h
    obtain ⟨-, -, -, rfl⟩ := h
    exact .webAuthnUser accountID rpID _

/-- **Inversion.** A transaction that succeeds has one of the effects. -/
theorem effect_of_run {t : Tx} {r : t.Result} (h : t.run env d db = .ok (r, db')) :
    Effect env d db t db' := by
  cases t
  all_goals dsimp only [Tx.run, Tx.Result] at r h
  case createAccount params =>
    simp only [createAccount, bind_ok, ensure_ok, pure_ok] at h
    obtain ⟨_, hnew, ⟨⟩⟩ := h
    refine .createAccount params _ fun a ha => ?_
    have hall := List.all_eq_true.mp hnew a ha
    simp only [Bool.and_eq_true, bne_iff_ne] at hall
    exact hall.1.1
  case consumeAccountVerificationToken a n =>
    simp only [consumeAccountVerificationToken, bind_ok, pure_ok] at h
    obtain ⟨_, _, ⟨⟩⟩ := h
    exact .consumeAccountVerificationToken a n
  case updateAccountPassword a hash =>
    simp only [updateAccountPassword, bind_ok, pure_ok] at h
    obtain ⟨_, _, ⟨⟩⟩ := h
    exact .updateAccountPassword a hash
  case createSession a e =>
    simp only [createSession, bind_ok, ensure_ok, pure_ok] at h
    obtain ⟨_, ⟨_, hfresh⟩, ⟨⟩⟩ := h
    refine .createSession a e _ rfl rfl rfl fun s hs => ?_
    have hall := List.all_eq_true.mp hfresh s hs
    simpa using hall
  case markSessionSecondFactorVerified s f m v =>
    simp only [markSessionSecondFactorVerified, bind_ok, pure_ok] at h
    obtain ⟨_, _, _, _, ⟨⟩⟩ := h
    exact .markSession s f m v
  case revokeSession s =>
    simp only [revokeSession, bind_ok, pure_ok] at h
    obtain ⟨_, _, ⟨⟩⟩ := h
    exact .revokeSession s
  case revokeAccountSessions a x =>
    simp only [revokeAccountSessions, pure_ok] at h
    cases h
    exact .revokeAccountSessions a x
  case createEmailSecondFactorChallenge a m e => exact createEmailSecondFactorChallenge_effect h
  case createActiveEmailSecondFactorChallenge a e =>
    simp only [createActiveEmailSecondFactorChallenge, getActiveEmailSecondFactor, bind_ok,
      found_ok] at h
    obtain ⟨factor, hfound, h⟩ := h
    obtain ⟨challenge, hfor, rfl⟩ := insertEmailChallenge_ok h
    have hselected := List.find?_some hfound
    simp only [Bool.and_eq_true, beq_iff_eq] at hselected
    exact .activeEmailFactor a e factor challenge (List.mem_of_find?_eq_some hfound) hselected.1 hfor
  case consumeEmailSecondFactorChallenge a token n =>
    simp only [consumeEmailSecondFactorChallenge, bind_ok, ensure_ok, found_ok, pure_ok] at h
    obtain ⟨challenge, hfound, _, ⟨hopen, -⟩, _, _, _, _, ⟨⟩⟩ := h
    have hselected := List.find?_some hfound
    simp only [Bool.and_eq_true, beq_iff_eq] at hselected
    exact .consumeEmail a token n challenge (List.mem_of_find?_eq_some hfound) hselected.1
      hselected.2 hopen
  case createTOTPSecondFactorEnrollment params => exact createTOTPSecondFactorEnrollment_effect h
  case activateTOTPSecondFactor a f v step =>
    simp only [activateTOTPSecondFactor, bind_ok, ensure_ok, pure_ok] at h
    obtain ⟨_, hany, _, _, _, _, ⟨⟩⟩ := h
    exact .activateTOTP a f v step (by simpa [and_assoc] using hany)
  case markTOTPSecondFactorUsed f v step =>
    simp only [markTOTPSecondFactorUsed, bind_ok, ensure_ok, pure_ok] at h
    obtain ⟨_, hany, _, _, ⟨⟩⟩ := h
    exact .useTOTP f v step (by simpa [and_assoc] using hany)
  case getOrCreateWebAuthnUser a rp => exact getOrCreateWebAuthnUser_effect h
  case createWebAuthnChallenge k b e =>
    simp only [createWebAuthnChallenge, bind_ok, pure_ok] at h
    obtain ⟨_, _, ⟨⟩⟩ := h
    exact .createWebAuthnChallenge k b e _
  case consumeWebAuthnChallenge k n =>
    simp only [consumeWebAuthnChallenge, bind_ok, pure_ok] at h
    obtain ⟨_, _, _, _, ⟨⟩⟩ := h
    exact .consumeWebAuthnChallenge k n _
  case createWebAuthnCredential a rp x v =>
    simp only [createWebAuthnCredential, bind_ok, ensure_ok, pure_ok] at h
    obtain ⟨_, ⟨haccount, -⟩, _, _, ⟨⟩⟩ := h
    exact .createWebAuthnCredential a rp x v _ (account_of_any haccount) rfl
  case updateWebAuthnCredentialAfterAssertion c n v =>
    simp only [updateWebAuthnCredentialAfterAssertion, bind_ok, pure_ok] at h
    obtain ⟨_, _, _, _, ⟨⟩⟩ := h
    exact .updateWebAuthnCredential c n v
  case resetAccountSecondFactorRecovery a b reason =>
    simp only [resetAccountSecondFactorRecovery, bind_ok, pure_ok] at h
    obtain ⟨_, _, _, _, _, _, ⟨⟩⟩ := h
    exact .reset a b reason _

/-! ### What a transaction is about -/

/-- The session a transaction marks verified. -/
def Tx.verifies : Tx → Option String
  | .markSessionSecondFactorVerified sessionID .. => some sessionID
  | _ => none

/-- The account whose second-factor setup a transaction completes. -/
def Tx.completes : Tx → Option String
  | .consumeEmailSecondFactorChallenge accountID .. => some accountID
  | .activateTOTPSecondFactor accountID .. => some accountID
  | .createWebAuthnCredential accountID .. => some accountID
  | _ => none

/-- The account whose factors a transaction removes. -/
def Tx.resets : Tx → Option String
  | .resetAccountSecondFactorRecovery accountID .. => some accountID
  | _ => none

variable {t : Tx}

/-! ### Sessions -/

/-- `s'` is a later version of the session `s`. -/
structure Session.Continues (s s' : Session) : Prop where
  id : s.id = s'.id
  accountID : s.accountID = s'.accountID
  revokedAt : s'.revokedAt = none → s.revokedAt = none

theorem Session.Continues.refl (s : Session) : s.Continues s := ⟨rfl, rfl, fun h => h⟩

/-- The rows after an update of sessions. -/
theorem mem_updateSessions {p : Session → Bool} {f : Session → Session} {s' : Session}
    (h : s' ∈ (db.updateSessions p f).sessions) :
    s' ∈ db.sessions ∨ ∃ s ∈ db.sessions, p s = true ∧ s.revokedAt = none ∧ s' = f s := by
  rcases of_mem_updateWhere h with ⟨hs, -⟩ | ⟨s, hs, hp, heq⟩
  · exact .inl hs
  · simp only [Bool.and_eq_true, Option.isNone_iff_eq_none] at hp
    exact .inr ⟨s, hs, hp.1, hp.2, heq⟩

/-- A session that an update leaves unrevoked was not selected, if the update revokes. -/
theorem unrevoked_of_revoke {p : Session → Bool} {s' : Session}
    (h : s' ∈ (db.updateSessions p (revoke d)).sessions) (hopen : s'.revokedAt = none) :
    s' ∈ db.sessions ∧ p s' = false := by
  rcases of_mem_updateWhere h with ⟨hs, hp⟩ | ⟨s, -, -, rfl⟩
  · exact ⟨hs, by simpa [hopen] using hp⟩
  · cases hopen

/-- No transaction touches the row of a revoked session. -/
theorem revoked_effect (h : Effect env d db t db') {s : Session} (hs : s ∈ db.sessions)
    (hrevoked : s.revokedAt.isSome = true) : s ∈ db'.sessions := by
  have hnot : s.revokedAt.isNone = false := by simpa using hrevoked
  cases h with
  | createSession => exact List.mem_append_left _ hs
  | markSession | revokeSession | revokeAccountSessions | reset =>
    -- the updates select unrevoked rows only
    exact mem_updateWhere_of_not hs (by rw [hnot, Bool.and_false])
  | _ => exact hs

/-- The row of a session that a transaction creates. -/
structure Session.Opened (env : Env) (d : Draw) (t : Tx) (s : Session) : Prop where
  tx : ∃ expiresAt, t = .createSession s.accountID expiresAt
  id : s.id = env.newID "ses" (d.next + 1)
  unverified : s.secondFactorVerifiedAt = none

/-- The session was there before or is new; it becomes verified only when the
    transaction marks it. -/
def Session.From (env : Env) (d : Draw) (db : AuthDB) (t : Tx) (s' : Session) : Prop :=
  (∃ s ∈ db.sessions, s.Continues s' ∧ (s'.secondFactorVerifiedAt.isSome = true →
    s.secondFactorVerifiedAt.isSome = true ∨ t.verifies = some s'.id)) ∨ s'.Opened env d t

/-- **Where a session comes from.** -/
theorem session_origin (h : Effect env d db t db') {s' : Session} (hs' : s' ∈ db'.sessions) :
    s'.From env d db t := by
  have hkept (hs : s' ∈ db.sessions) : s'.From env d db t := .inl ⟨s', hs, .refl s', .inl⟩
  have hrevoked {p : Session → Bool} {db₀ : AuthDB} (hdb : db₀.sessions = db.sessions)
      (hs' : s' ∈ (db₀.updateSessions p (revoke d)).sessions) : s'.From env d db t := by
    rcases mem_updateSessions hs' with hs | ⟨s, hs, -, -, rfl⟩
    · exact hkept (hdb ▸ hs)
    · exact .inl ⟨s, hdb ▸ hs, ⟨rfl, rfl, fun h => by cases h⟩, .inl⟩
  cases h with
  | createSession accountID expiresAt session hid haccount hverified hfresh =>
    rcases mem_append_row.mp hs' with hs | rfl
    · exact hkept hs
    · exact .inr ⟨⟨expiresAt, by rw [haccount]⟩, hid, hverified⟩
  | markSession sessionID factorID method verifiedAt =>
    rcases mem_updateSessions hs' with hs | ⟨s, hs, hp, hopen, rfl⟩
    · exact hkept hs
    · refine .inl ⟨s, hs, ⟨rfl, rfl, fun _ => hopen⟩, fun _ => .inr ?_⟩
      rw [Tx.verifies, show (verify factorID method verifiedAt s).id = s.id from rfl, beq_iff_eq.mp hp]
  | revokeSession | revokeAccountSessions | reset => exact hrevoked rfl hs'
  | _ => exact hkept hs'

/-- **Sessions stay.** No transaction deletes a session or gives it to another account. -/
theorem session_kept (h : Effect env d db t db') {s : Session} (hs : s ∈ db.sessions) :
    ∃ s' ∈ db'.sessions, s.id = s'.id ∧ s.accountID = s'.accountID := by
  cases h with
  | createSession => exact ⟨s, List.mem_append_left _ hs, rfl, rfl⟩
  | markSession | revokeSession | revokeAccountSessions | reset =>
    exact exists_updateWhere hs ⟨rfl, rfl⟩ ⟨rfl, rfl⟩
  | _ => exact ⟨s, hs, rfl, rfl⟩

/-- After `RevokeAccountSessions` only the spared session of the account is open. -/
theorem open_of_revokeAccountSessions {accountID except : String}
    (h : Effect env d db (.revokeAccountSessions accountID except) db') {s : Session}
    (hs : s ∈ db'.sessions) (haccount : s.accountID = accountID) (hopen : s.revokedAt = none) :
    s.id = except := by
  cases h
  obtain ⟨-, hspared⟩ := unrevoked_of_revoke hs hopen
  simp only [sparing, haccount, beq_self_eq_true, Bool.true_and, Bool.or_eq_false_iff,
    bne_eq_false_iff_eq] at hspared
  exact hspared.2

/-- After a recovery reset no session of the account is open. -/
theorem revoked_of_reset {accountID admin : String} {reason : RecoveryReason}
    (h : Effect env d db (.resetAccountSecondFactorRecovery accountID admin reason) db')
    {s : Session} (hs : s ∈ db'.sessions) (haccount : s.accountID = accountID) :
    s.revokedAt ≠ none := by
  cases h
  intro hopen
  obtain ⟨-, hspared⟩ := unrevoked_of_revoke hs hopen
  simp [haccount] at hspared

/-! ### Accounts -/

/-- The rows after an update of an account. -/
theorem mem_updateAccount {f : Account → Account} {a' : Account}
    (h : a' ∈ (db.updateAccount accountID f).accounts) :
    (a' ∈ db.accounts ∧ a'.id ≠ accountID) ∨ ∃ a ∈ db.accounts, a.id = accountID ∧ a' = f a := by
  rcases of_mem_updateWhere h with ⟨ha, hp⟩ | ⟨a, ha, hp, heq⟩
  · exact .inl ⟨ha, by simpa using hp⟩
  · exact .inr ⟨a, ha, beq_iff_eq.mp hp, heq⟩

/-- The account was there before with the same setup state, the transaction completed
    its setup or required it again, or it is new. -/
def Account.From (db : AuthDB) (t : Tx) (a' : Account) : Prop :=
  (∃ a ∈ db.accounts, a.id = a'.id ∧ (a'.secondFactorSetup = a.secondFactorSetup ∨
    (t.completes = some a'.id ∧ a'.secondFactorSetup = .complete) ∨
    (t.resets = some a'.id ∧ a'.secondFactorSetup = .setupRequired))) ∨
  ∀ a ∈ db.accounts, a.id ≠ a'.id

/-- **Where an account comes from.** -/
theorem account_origin (h : Effect env d db t db') {a' : Account} (ha' : a' ∈ db'.accounts) :
    a'.From db t := by
  have hkept (ha : a' ∈ db.accounts) : a'.From db t := .inl ⟨a', ha, rfl, .inl rfl⟩
  have hcompleted {accountID : String} {now : Time} {db₀ : AuthDB}
      (hdb : db₀.accounts = db.accounts) (ht : t.completes = some accountID)
      (ha' : a' ∈ (db₀.completeSetup accountID now).accounts) : a'.From db t := by
    rcases mem_updateAccount ha' with ⟨ha, -⟩ | ⟨a, ha, hid, rfl⟩
    · exact hkept (hdb ▸ ha)
    · exact .inl ⟨a, hdb ▸ ha, rfl, .inr (.inl ⟨by rw [ht, hid], rfl⟩)⟩
  cases h with
  | createAccount params account hnew =>
    rcases mem_append_row.mp ha' with ha | rfl
    · exact hkept ha
    · exact .inr hnew
  | consumeAccountVerificationToken | updateAccountPassword =>
    rcases mem_updateAccount ha' with ⟨ha, -⟩ | ⟨a, ha, -, rfl⟩
    · exact hkept ha
    · exact .inl ⟨a, ha, rfl, .inl rfl⟩
  | consumeEmail | activateTOTP | createWebAuthnCredential => exact hcompleted rfl rfl ha'
  | reset accountID admin reason event =>
    rcases mem_updateAccount ha' with ⟨ha, -⟩ | ⟨a, ha, hid, rfl⟩
    · exact hkept ha
    · exact .inl ⟨a, ha, rfl, .inr (.inr ⟨by rw [Tx.resets, hid], rfl⟩)⟩
  | _ => exact hkept ha'

theorem account_kept (h : Effect env d db t db')
    (ha : ∃ a ∈ db.accounts, a.id = accountID) : ∃ a ∈ db'.accounts, a.id = accountID := by
  obtain ⟨a, ha, hid⟩ := ha
  cases h with
  | createAccount => exact ⟨a, List.mem_append_left _ ha, hid⟩
  | consumeAccountVerificationToken | updateAccountPassword | consumeEmail | activateTOTP
  | createWebAuthnCredential | reset => exact exists_updateWhere ha hid hid
  | _ => exact ⟨a, ha, hid⟩

/-- A transaction that completes the setup of an account leaves it complete. -/
theorem complete_of_completes (h : Effect env d db t db') {a : Account} (ha : a ∈ db'.accounts)
    (ht : t.completes = some a.id) : a.secondFactorSetup = .complete := by
  have hcompleted {db₀ : AuthDB} {accountID : String} {now : Time} (hid : some accountID = some a.id)
      (ha : a ∈ (db₀.completeSetup accountID now).accounts) : a.secondFactorSetup = .complete := by
    rcases mem_updateAccount ha with ⟨-, hne⟩ | ⟨a₀, -, -, rfl⟩
    · exact (hne (Option.some.inj hid).symm).elim
    · rfl
  cases h with
  | consumeEmail | activateTOTP | createWebAuthnCredential => exact hcompleted ht ha
  | _ => cases ht

/-! ### Factors -/

/-- The active factor was active before, or the transaction completed its account. -/
def EmailFactor.From (db : AuthDB) (t : Tx) (f' : EmailFactor) : Prop :=
  (∃ f ∈ db.emailFactors, f.id = f'.id ∧ f.accountID = f'.accountID ∧ f.factorState = .active) ∨
  t.completes = some f'.accountID

/-- **Where an active e-mail factor comes from.** -/
theorem emailFactor_origin (h : Effect env d db t db') {f' : EmailFactor}
    (hf' : f' ∈ db'.emailFactors) (hactive : f'.factorState = .active) : f'.From db t := by
  have hkept (hf : f' ∈ db.emailFactors) : f'.From db t := .inl ⟨f', hf, rfl, rfl, hactive⟩
  cases h with
  | newEmailFactor accountID email expiresAt factor challenge haccount hfactor =>
    rcases mem_append_row.mp hf' with hf | rfl
    · exact hkept hf
    · rw [hfactor.2] at hactive
      cases hactive
  | pendingEmailFactor accountID email expiresAt factor =>
    rcases of_mem_updateWhere hf' with ⟨hf, -⟩ | ⟨f, -, -, rfl⟩
    · exact hkept hf
    · cases hactive
  | consumeEmail accountID token now challenge =>
    rcases of_mem_updateWhere hf' with ⟨hf, -⟩ | ⟨f, hf, hp, rfl⟩
    · exact hkept hf
    · simp only [Bool.and_eq_true, beq_iff_eq] at hp
      exact .inr (by rw [Tx.completes, ← hp.2]; rfl)
  | reset accountID admin reason event => exact hkept (mem_deleteWhere.mp hf').1
  | _ => exact hkept hf'

/-- Where a TOTP factor comes from. -/
inductive TOTPOrigin (env : Env) (d : Draw) (db : AuthDB) (t : Tx) (f' : TOTPFactor) : Prop
  /-- The row is unchanged. -/
  | kept (h : f' ∈ db.totpFactors)
  /-- A new enrolment. -/
  | new (params : TOTPEnrollmentParams) (ht : t = .createTOTPSecondFactorEnrollment params)
      (hid : f'.id = env.newID "sf" d.next) (hpending : f'.factorState = .pending)
      (haccount : ∃ a ∈ db.accounts, a.id = f'.accountID)
  /-- A pending factor with another secret. -/
  | refreshed (params : TOTPEnrollmentParams) (f : TOTPFactor) (hf : f ∈ db.totpFactors)
      (ht : t = .createTOTPSecondFactorEnrollment params) (hpending : f.factorState = .pending)
      (haccount : f.accountID = params.accountID) (heq : f' = refreshTOTPFactor d params f)
  /-- A pending factor that was activated. -/
  | activated (verifiedAt : Time) (timeStep : Int) (f : TOTPFactor) (hf : f ∈ db.totpFactors)
      (ht : t = .activateTOTPSecondFactor f.accountID f.id verifiedAt timeStep)
      (hpending : f.factorState = .pending) (heq : f' = activate verifiedAt timeStep f)
  /-- An active factor that was used at a later time step. -/
  | used (verifiedAt : Time) (timeStep : Int) (f : TOTPFactor) (hf : f ∈ db.totpFactors)
      (ht : t = .markTOTPSecondFactorUsed f.id verifiedAt timeStep)
      (hactive : f.factorState = .active) (hlater : f.lastUsedTimeStep.all (· < timeStep) = true)
      (heq : f' = use verifiedAt timeStep f)

/-- **Where a TOTP factor comes from.** Needs the identifiers to be unique: the update of
    a pending factor goes by its identifier. -/
theorem totpFactor_origin (h : Effect env d db t db') (hids : (db.totpFactors.map (·.id)).Nodup)
    {f' : TOTPFactor} (hf' : f' ∈ db'.totpFactors) : TOTPOrigin env d db t f' := by
  cases h with
  | newTOTPFactor params factor haccount hid hfactor hnone =>
    rcases mem_append_row.mp hf' with hf | rfl
    · exact .kept hf
    · exact .new params rfl hid hfactor.2 (hfactor.1 ▸ haccount)
  | pendingTOTPFactor params factor hfactor haccount hpending =>
    rcases of_mem_updateWhere hf' with ⟨hf, -⟩ | ⟨f, hf, hp, heq⟩
    · exact .kept hf
    · obtain rfl : f = factor := eq_of_key hids hf hfactor (beq_iff_eq.mp hp)
      exact .refreshed params f hf rfl hpending haccount heq
  | activateTOTP accountID factorID verifiedAt timeStep =>
    rcases of_mem_updateWhere hf' with ⟨hf, -⟩ | ⟨f, hf, hp, heq⟩
    · exact .kept hf
    · simp only [Bool.and_eq_true, beq_iff_eq] at hp
      obtain ⟨⟨rfl, rfl⟩, hpending⟩ := hp
      exact .activated verifiedAt timeStep f hf rfl hpending heq
  | useTOTP factorID verifiedAt timeStep =>
    rcases of_mem_updateWhere hf' with ⟨hf, -⟩ | ⟨f, hf, hp, heq⟩
    · exact .kept hf
    · simp only [Bool.and_eq_true, beq_iff_eq] at hp
      obtain ⟨⟨rfl, hactive⟩, hlater⟩ := hp
      exact .used verifiedAt timeStep f hf rfl hactive hlater heq
  | reset accountID admin reason event => exact .kept (mem_deleteWhere.mp hf').1
  | _ => exact .kept hf'

/-- **Where a credential comes from.** -/
theorem credential_origin (h : Effect env d db t db') {c' : WebAuthnCredential}
    (hc' : c' ∈ db'.webAuthnCredentials) :
    (∃ c ∈ db.webAuthnCredentials, c.id = c'.id ∧ c.accountID = c'.accountID) ∨
    t.completes = some c'.accountID := by
  cases h with
  | createWebAuthnCredential accountID rpID authenticator verifiedAt credential haccount hcredential =>
    rcases mem_append_row.mp hc' with hc | rfl
    · exact .inl ⟨c', hc, rfl, rfl⟩
    · exact .inr (by rw [Tx.completes, hcredential])
  | updateWebAuthnCredential stored signCount verifiedAt =>
    rcases of_mem_updateWhere hc' with ⟨hc, -⟩ | ⟨c, hc, -, rfl⟩
    · exact .inl ⟨c', hc, rfl, rfl⟩
    · exact .inl ⟨c, hc, rfl, rfl⟩
  | reset accountID admin reason event => exact .inl ⟨c', (mem_deleteWhere.mp hc').1, rfl, rfl⟩
  | _ => exact .inl ⟨c', hc', rfl, rfl⟩

/-- A recovery reset leaves the account without factors. -/
theorem no_factor_of_reset {accountID admin : String} {reason : RecoveryReason}
    (h : Effect env d db (.resetAccountSecondFactorRecovery accountID admin reason) db') :
    ¬ db'.HasActiveFactor accountID := by
  cases h
  rintro (⟨f, hf, haccount, -⟩ | ⟨f, hf, haccount, -⟩ | ⟨c, hc, haccount⟩)
  · exact absurd (mem_deleteWhere.mp hf).2 (by simp [haccount])
  · exact absurd (mem_deleteWhere.mp hf).2 (by simp [haccount])
  · exact absurd (mem_deleteWhere.mp hc).2 (by simp [haccount])

end SafetyRecorder.Auth
