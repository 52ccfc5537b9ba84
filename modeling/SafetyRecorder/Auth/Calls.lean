import SafetyRecorder.Auth.Repository
import SafetyRecorder.Lib.Process

namespace SafetyRecorder.Auth

open Process

/-!
# Auth — the calls of the authentication handlers

A handler is a `Prog` over `Call`: reads (`Query`), transactions (`Tx`) and readings of
the clock.  `exec` is what one call does to the `World`.

* `Choice` — what the environment decides at a call: the clock and an infrastructure
  fault; `Fault.lostCommit` applies a transaction whose commit reports an error;
* `Origin` — what the handler knows when it makes the call.  No transaction reads it:
  with the database before the transaction it is recorded in `World.history`, newest
  entry first, so that a row can be traced to the request it comes from;
* `exec_query`, `exec_tx` — **inversion** of one call.
-/

/-- The repository reads of the handlers. -/
inductive Query
  | getAccountByUsername (username : String)
  | getAccountByID (accountID : String)
  | lookupSession (rawToken : String)
  | getActiveEmailSecondFactor (accountID : String)
  | getPendingTOTPSecondFactor (accountID : String)
  | getActiveTOTPSecondFactor (accountID : String)
  | hasActiveWebAuthnCredential (accountID : String)
  | listWebAuthnCredentials (accountID rpID : String)
  | hasAdminAccount
  deriving DecidableEq, Repr

namespace Query

/-- What a read returns besides the error. -/
def Result : Query → Type
  | getAccountByUsername .. => Account
  | getAccountByID .. => Account
  | lookupSession .. => Session
  | getActiveEmailSecondFactor .. => EmailFactor
  | getPendingTOTPSecondFactor .. => TOTPFactor
  | getActiveTOTPSecondFactor .. => TOTPFactor
  | hasActiveWebAuthnCredential .. => Bool
  | listWebAuthnCredentials .. => List WebAuthnCredential
  | hasAdminAccount => Bool

/-- The read on the database. -/
def run (env : Env) (now : Time) (db : AuthDB) : (q : Query) → Except AuthError q.Result
  | getAccountByUsername u => Auth.getAccountByUsername db u
  | getAccountByID a => Auth.getAccountByID db a
  | lookupSession t => Auth.lookupSession env now db t
  | getActiveEmailSecondFactor a => Auth.getActiveEmailSecondFactor db a
  | getPendingTOTPSecondFactor a => Auth.getPendingTOTPSecondFactor db a
  | getActiveTOTPSecondFactor a => Auth.getActiveTOTPSecondFactor db a
  | hasActiveWebAuthnCredential a => .ok (Auth.hasActiveWebAuthnCredential db a)
  | listWebAuthnCredentials a rp => .ok (Auth.listWebAuthnCredentials db a rp)
  | hasAdminAccount => .ok (Auth.hasAdminAccount db)

end Query

/-- The transactions of the handlers. -/
inductive Tx
  | createAccount (params : CreateAccountParams)
  | consumeAccountVerificationToken (accountID : String) (now : Time)
  | updateAccountPassword (accountID passwordHash : String)
  | createSession (accountID : String) (expiresAt : Time)
  | markSessionSecondFactorVerified (sessionID factorID : String) (method : FactorType)
      (verifiedAt : Time)
  | revokeSession (sessionID : String)
  | revokeAccountSessions (accountID exceptSessionID : String)
  | createEmailSecondFactorChallenge (accountID emailNormalized : String) (expiresAt : Time)
  | createActiveEmailSecondFactorChallenge (accountID : String) (expiresAt : Time)
  | consumeEmailSecondFactorChallenge (accountID rawToken : String) (now : Time)
  | createTOTPSecondFactorEnrollment (params : TOTPEnrollmentParams)
  | activateTOTPSecondFactor (accountID factorID : String) (verifiedAt : Time) (timeStep : Int)
  | markTOTPSecondFactorUsed (factorID : String) (verifiedAt : Time) (timeStep : Int)
  | getOrCreateWebAuthnUser (accountID rpID : String)
  | createWebAuthnChallenge (ceremony : Ceremony) (sessionData : Bytes) (expiresAt : Time)
  | consumeWebAuthnChallenge (ceremony : Ceremony) (now : Time)
  | createWebAuthnCredential (accountID rpID : String) (authenticator : Authenticator)
      (verifiedAt : Time)
  | updateWebAuthnCredentialAfterAssertion (stored : WebAuthnCredential) (signCount : Nat)
      (verifiedAt : Time)
  | resetAccountSecondFactorRecovery (accountID adminAccountID : String) (reason : RecoveryReason)
  deriving DecidableEq, Repr

namespace Tx

/-- What a transaction returns besides the error. -/
def Result : Tx → Type
  | createAccount .. => Account
  | consumeAccountVerificationToken .. => Account
  | updateAccountPassword .. => Account
  | createSession .. => Session × String
  | markSessionSecondFactorVerified .. => Session
  | revokeSession .. => Unit
  | revokeAccountSessions .. => Unit
  | createEmailSecondFactorChallenge .. => EmailChallenge × String
  | createActiveEmailSecondFactorChallenge .. => EmailChallenge × String
  | consumeEmailSecondFactorChallenge .. => EmailFactor × Account
  | createTOTPSecondFactorEnrollment .. => TOTPFactor
  | activateTOTPSecondFactor .. => TOTPFactor × Account
  | markTOTPSecondFactorUsed .. => TOTPFactor
  | getOrCreateWebAuthnUser .. => WebAuthnUser
  | createWebAuthnChallenge .. => WebAuthnChallenge
  | consumeWebAuthnChallenge .. => WebAuthnChallenge
  | createWebAuthnCredential .. => WebAuthnCredential × Account
  | updateWebAuthnCredentialAfterAssertion .. => WebAuthnCredential
  | resetAccountSecondFactorRecovery .. => RecoveryEvent × Account

/-- The transaction on the database. -/
def run (env : Env) (d : Draw) : (t : Tx) → AuthDB → Except AuthError (t.Result × AuthDB)
  | createAccount p => Auth.createAccount env d p
  | consumeAccountVerificationToken a n => Auth.consumeAccountVerificationToken a n
  | updateAccountPassword a h => Auth.updateAccountPassword d a h
  | createSession a e => Auth.createSession env d a e
  | markSessionSecondFactorVerified s f m v => Auth.markSessionSecondFactorVerified s f m v
  | revokeSession s => Auth.revokeSession d s
  | revokeAccountSessions a x => Auth.revokeAccountSessions d a x
  | createEmailSecondFactorChallenge a m e => Auth.createEmailSecondFactorChallenge env d a m e
  | createActiveEmailSecondFactorChallenge a e =>
    Auth.createActiveEmailSecondFactorChallenge env d a e
  | consumeEmailSecondFactorChallenge a t n => Auth.consumeEmailSecondFactorChallenge env a t n
  | createTOTPSecondFactorEnrollment p => Auth.createTOTPSecondFactorEnrollment env d p
  | activateTOTPSecondFactor a f v s => Auth.activateTOTPSecondFactor a f v s
  | markTOTPSecondFactorUsed f v s => Auth.markTOTPSecondFactorUsed f v s
  | getOrCreateWebAuthnUser a rp => Auth.getOrCreateWebAuthnUser env d a rp
  | createWebAuthnChallenge k b e => Auth.createWebAuthnChallenge env d k b e
  | consumeWebAuthnChallenge k n => Auth.consumeWebAuthnChallenge k n
  | createWebAuthnCredential a rp x v => Auth.createWebAuthnCredential env d a rp x v
  | updateWebAuthnCredentialAfterAssertion c n v =>
    Auth.updateWebAuthnCredentialAfterAssertion c n v
  | resetAccountSecondFactorRecovery a b r => Auth.resetAccountSecondFactorRecovery env d a b r

/-- The number of identifiers and tokens a transaction may draw. -/
def draws : Nat := 3

end Tx

/-! ### Calls and the world -/

/-- A code that `MatchTOTPCode` accepted. -/
structure AcceptedCode where
  secret : String
  code : String
  now : Time
  timeStep : Int
  deriving DecidableEq, Repr

/-- What the handler knows when it makes a call: the session that authenticated the
    request, the hash a password was verified against, the code that was accepted, and
    the number of the request's password update. -/
structure Origin where
  session : Option String := none
  passwordHash : Option String := none
  accepted : Option AcceptedCode := none
  update : Option Nat := none
  deriving DecidableEq, Repr

/-- The calls of a handler. -/
inductive Call
  | query (q : Query)
  | tx (t : Tx) (origin : Origin)
  | timeNow
  deriving DecidableEq, Repr

/-- The answer of a repository call, with the clock when it arrives; `ticket` is the
    number of transactions that were committed before. -/
structure Reply (α : Type) where
  value : Except AuthError α
  now : Time
  ticket : Nat

/-- The answer of a call. -/
def Answer : Call → Type
  | .query q => Reply q.Result
  | .tx t _ => Reply t.Result
  | .timeNow => Time

/-- A program of the authentication handlers. -/
abbrev Proc := Prog Call Answer

/-- A committed transaction. -/
structure Entry where
  tx : Tx
  origin : Origin
  draw : Draw
  before : AuthDB
  deriving DecidableEq, Repr

/-- What all handlers share. -/
structure World where
  db : AuthDB := {}
  nextID : Nat := 0
  history : List Entry := []

/-- How a call can go wrong below the code. -/
inductive Fault
  | none | failed | lostCommit
  deriving DecidableEq, Repr

/-- What the environment decides at a call: the clock inside the call and when it is
    answered, and a fault. -/
structure Choice where
  now : Time := 0
  later : Time := 0
  fault : Fault := .none
  deriving DecidableEq, Repr

/-- The world after a committed transaction. -/
def World.commit (w : World) (t : Tx) (origin : Origin) (now : Time) (db' : AuthDB) : World :=
  { db := db'
    nextID := w.nextID + Tx.draws
    history := ⟨t, origin, ⟨w.nextID, now⟩, w.db⟩ :: w.history }

/-- What one call does. -/
def exec (env : Env) (w : World) : (c : Call) → Choice → Option (Answer c × World)
  | .query q, ch =>
    match ch.fault with
    | .none => some (⟨q.run env ch.now w.db, ch.later, w.history.length⟩, w)
    | .failed => some (⟨.error .other, ch.later, w.history.length⟩, w)
    | .lostCommit => none
  | .tx t origin, ch =>
    match ch.fault, t.run env ⟨w.nextID, ch.now⟩ w.db with
    | .none, .ok (r, db') =>
      some (⟨.ok r, ch.later, w.history.length⟩, w.commit t origin ch.now db')
    | .none, .error e =>
      some (⟨.error e, ch.later, w.history.length⟩, { w with nextID := w.nextID + Tx.draws })
    | .lostCommit, .ok (_, db') =>
      some (⟨.error .other, ch.later, w.history.length⟩, w.commit t origin ch.now db')
    | .lostCommit, .error _ => none
    | .failed, _ => some (⟨.error .other, ch.later, w.history.length⟩, w)
  | .timeNow, ch => some (ch.now, w)

/-! ### Inversion -/

variable {env : Env} {w w' : World} {ch : Choice}

/-- A read leaves the world alone and answers what the database holds, or an error. -/
theorem exec_query {q : Query} {a : Reply q.Result} (h : exec env w (.query q) ch = some (a, w')) :
    w' = w ∧ (a.value = q.run env ch.now w.db ∨ a.value = .error .other) := by
  simp only [exec] at h
  split at h
  · cases h
    exact ⟨rfl, .inl rfl⟩
  · cases h
    exact ⟨rfl, .inr rfl⟩
  · cases h

/-- A transaction is applied as a whole and recorded, or not at all; what it answers is
    its result, or an error when it was not applied or its commit was lost. -/
theorem exec_tx {t : Tx} {o : Origin} {a : Reply t.Result}
    (h : exec env w (.tx t o) ch = some (a, w')) :
    (∃ r db', t.run env ⟨w.nextID, ch.now⟩ w.db = .ok (r, db') ∧ w' = w.commit t o ch.now db' ∧
      a.ticket = w.history.length ∧ (a.value = .ok r ∨ a.value = .error .other)) ∨
    (∃ n e, w.nextID ≤ n ∧ w' = { w with nextID := n } ∧ a.value = .error e) := by
  simp only [exec] at h
  split at h
  next r db' hf hrun =>
    cases h
    exact .inl ⟨r, db', hrun, rfl, rfl, .inl rfl⟩
  next e hf hrun =>
    cases h
    exact .inr ⟨_, e, Nat.le_add_right _ _, rfl, rfl⟩
  next r db' hf hrun =>
    cases h
    exact .inl ⟨r, db', hrun, rfl, rfl, .inr rfl⟩
  · cases h
  · cases h
    exact .inr ⟨w.nextID, .other, Nat.le_refl _, rfl, rfl⟩

/-- A result that was answered is the one of the committed transaction. -/
theorem exec_tx_ok {t : Tx} {o : Origin} {a : Reply t.Result} {r : t.Result}
    (h : exec env w (.tx t o) ch = some (a, w')) (hr : a.value = .ok r) :
    ∃ db', t.run env ⟨w.nextID, ch.now⟩ w.db = .ok (r, db') ∧ w' = w.commit t o ch.now db' ∧
      a.ticket = w.history.length := by
  rcases exec_tx h with ⟨r', db', hrun, hw', hticket, hr' | hlost⟩ | ⟨n, e, -, -, hfailed⟩
  · obtain rfl : r' = r := Except.ok.inj (hr'.symm.trans hr)
    exact ⟨db', hrun, hw', hticket⟩
  · cases hlost.symm.trans hr
  · cases hfailed.symm.trans hr

theorem exec_timeNow {a : Time} (h : exec env w .timeNow ch = some (a, w')) : w' = w := by
  cases h
  rfl

/-- **One call, and the database.** A call commits one transaction or leaves database
    and history alone. -/
theorem exec_cases {c : Call} {a : Answer c} (h : exec env w c ch = some (a, w')) :
    (∃ t o r db', c = .tx t o ∧ t.run env ⟨w.nextID, ch.now⟩ w.db = .ok (r, db') ∧
      w' = w.commit t o ch.now db') ∨
    (w'.db = w.db ∧ w'.history = w.history ∧ w.nextID ≤ w'.nextID) := by
  cases c with
  | query q =>
    obtain ⟨rfl, -⟩ := exec_query h
    exact .inr ⟨rfl, rfl, Nat.le_refl _⟩
  | tx t o =>
    rcases exec_tx h with ⟨r, db', hrun, rfl, -⟩ | ⟨n, e, hn, rfl, -⟩
    · exact .inl ⟨t, o, r, db', rfl, hrun, rfl⟩
    · exact .inr ⟨rfl, rfl, hn⟩
  | timeNow =>
    obtain rfl := exec_timeNow h
    exact .inr ⟨rfl, rfl, Nat.le_refl _⟩

end SafetyRecorder.Auth
