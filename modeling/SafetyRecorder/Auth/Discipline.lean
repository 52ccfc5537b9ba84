import SafetyRecorder.Auth.System

namespace SafetyRecorder.Auth

open Process Protocol

/-!
# Auth — the discipline of the handlers

What a handler knows about its caller, and which transactions it makes on the strength
of it.

* `Phase` — before the session is looked up, after the login name was looked up, signed
  in, and the two stretches in which exactly one call is due: after a TOTP code was
  accepted, and after a password was replaced;
* `discipline` — a signed-in handler works on the factors of its own account and marks
  its own session only; it activates or uses a TOTP factor only with a code that matched
  the secret it has just read;
* `main_follows` — every program follows the discipline.
-/

/-- What a program knows. -/
inductive Phase
  | start
  /-- `LookupSession` found a session. -/
  | looked (session : Session)
  /-- `GetAccountByUsername` found an account. -/
  | login (accountID passwordHash : String)
  /-- The request is authenticated; `read` is the TOTP factor the last call read. -/
  | signedIn (sessionID accountID : String) (read : Option (TOTPFactor × Time))
  /-- The time step of the code is recorded, the verification of the session comes next. -/
  | accepted (sessionID accountID factorID : String) (code : AcceptedCode)
  /-- The password of `target` is replaced, the revocation of its sessions comes next. -/
  | updated (sessionID accountID target : String) (ticket : Nat)
  /-- The sessions of `target` are revoked, except `kept`. -/
  | replaced (sessionID accountID target : String) (ticket : Nat) (kept : String)
  deriving DecidableEq, Repr

/-- The code was accepted for the factor as it was read. -/
structure Accepts (api : API) (factor : TOTPFactor) (now : Time) (code : AcceptedCode) : Prop where
  secret : code.secret = factor.secret
  now : code.now = now
  accepted : matchTOTPCode api.totp code.secret code.code code.now factor.periodSeconds factor.digits
    factor.algorithm = .ok (some code.timeStep)

/-- A code for the factor that the last call read. -/
def Redeems (api : API) (read : Option (TOTPFactor × Time)) (factorID : String) (timeStep : Int)
    (origin : Origin) : Prop :=
  ∃ factor now code, read = some (factor, now) ∧ factorID = factor.id ∧
    origin.accepted = some code ∧ timeStep = code.timeStep ∧ Accepts api factor now code

/-- The transactions of a signed-in handler. -/
def signedInAllows (api : API) (sessionID accountID : String) (read : Option (TOTPFactor × Time))
    (origin : Origin) : Tx → Prop
  | .createAccount _ => True
  | .consumeAccountVerificationToken .. => False
  | .updateAccountPassword .. => True
  | .createSession .. => False
  | .markSessionSecondFactorVerified s _ method _ => s = sessionID ∧ method ≠ .totp
  | .revokeSession _ => True
  | .revokeAccountSessions .. => origin.update = none
  | .createEmailSecondFactorChallenge a .. => a = accountID
  | .createActiveEmailSecondFactorChallenge a _ => a = accountID
  | .consumeEmailSecondFactorChallenge a .. => a = accountID ∧ origin.session = some sessionID
  | .createTOTPSecondFactorEnrollment params => params.accountID = accountID
  | .activateTOTPSecondFactor a f _ step =>
    a = accountID ∧ origin.session = some sessionID ∧ Redeems api read f step origin
  | .markTOTPSecondFactorUsed f _ step => Redeems api read f step origin
  | .getOrCreateWebAuthnUser a _ => a = accountID
  | .createWebAuthnChallenge k _ _ => k.accountID = accountID
  | .consumeWebAuthnChallenge k _ => k.accountID = accountID
  | .createWebAuthnCredential a .. => a = accountID ∧ origin.session = some sessionID
  | .updateWebAuthnCredentialAfterAssertion .. => True
  | .resetAccountSecondFactorRecovery .. => True

namespace Phase

/-- The calls allowed in a phase. -/
def Allowed (api : API) : Phase → Call → Prop
  | start, .query _ => True
  | start, .timeNow => True
  | start, .tx (.createAccount _) o => o = {}
  | start, .tx (.consumeAccountVerificationToken ..) o => o = {}
  -- the first administrator is signed in without a password
  | start, .tx (.createSession ..) o => o = {}
  | looked s, .query (.getAccountByID a) => a = s.accountID
  | login a hash, .tx (.createSession a' _) o => a' = a ∧ o = { passwordHash := some hash }
  | signedIn _ _ _, .query _ => True
  | signedIn _ _ _, .timeNow => True
  | signedIn s a read, .tx t o => signedInAllows api s a read o t
  | accepted s _ f code, .tx (.markSessionSecondFactorVerified s' f' method _) o =>
    s' = s ∧ f' = f ∧ method = .totp ∧ o = { session := some s, accepted := some code }
  | updated s _ target ticket, .tx (.revokeAccountSessions a _) o =>
    a = target ∧ o = { session := some s, update := some ticket }
  | _, _ => False

/-- What a program knows after a read. -/
def afterQuery : Phase → (q : Query) → Reply q.Result → Phase
  | start, .lookupSession _, r =>
    match r.value with
    | .ok session => looked session
    | .error _ => start
  | start, .getAccountByUsername _, r =>
    match r.value with
    | .ok (account : Account) => login account.id account.passwordHash
    | .error _ => start
  | looked s, .getAccountByID _, r =>
    match r.value with
    | .ok (account : Account) => signedIn s.id account.id none
    | .error _ => start
  | signedIn s a _, .getPendingTOTPSecondFactor _, r =>
    match r.value with
    | .ok factor => signedIn s a (some (factor, r.now))
    | .error _ => signedIn s a none
  | signedIn s a _, .getActiveTOTPSecondFactor _, r =>
    match r.value with
    | .ok factor => signedIn s a (some (factor, r.now))
    | .error _ => signedIn s a none
  | signedIn s a _, _, _ => signedIn s a none
  | t, _, _ => t

/-- What a program knows after a transaction. -/
def afterTx : Phase → (t : Tx) → Origin → Reply t.Result → Phase
  | signedIn s a _, .activateTOTPSecondFactor .., o, r =>
    match r.value, o.accepted with
    | .ok (factor : TOTPFactor × Account), some code => accepted s a factor.1.id code
    | _, _ => signedIn s a none
  | signedIn s a _, .markTOTPSecondFactorUsed .., o, r =>
    match r.value, o.accepted with
    | .ok (factor : TOTPFactor), some code => accepted s a factor.id code
    | _, _ => signedIn s a none
  | signedIn s a _, .updateAccountPassword .., _, r =>
    match r.value with
    | .ok (account : Account) => updated s a account.id r.ticket
    | .error _ => signedIn s a none
  | signedIn s a _, _, _, _ => signedIn s a none
  | accepted s a _ _, _, _, _ => signedIn s a none
  | updated s a target ticket, .revokeAccountSessions _ kept, _, r =>
    match r.value with
    | .ok _ => replaced s a target ticket kept
    | .error _ => signedIn s a none
  | login _ _, _, _, _ => start
  | t, _, _, _ => t

/-- What a program knows after a call. -/
def next : Phase → (c : Call) → Answer c → Phase
  | t, .query q, r => t.afterQuery q r
  | t, .tx x o, r => t.afterTx x o r
  | signedIn s a _, .timeNow, _ => signedIn s a none
  | t, .timeNow, _ => t

end Phase

/-- The discipline of the handlers. -/
def discipline (api : API) : Protocol Call Answer Phase where
  allowed := Phase.Allowed api
  next := Phase.next

/-! ### The session of a program -/

/-- The session that authenticated the program. -/
def Phase.sessionID : Phase → Option String
  | start | looked _ | login .. => none
  | signedIn s .. | accepted s .. | updated s .. | replaced s .. => some s

/-- A program keeps its session. -/
theorem Phase.sessionID_next {t : Phase} {s : String} (h : t.sessionID = some s) (c : Call)
    (a : Answer c) : (t.next c a).sessionID = some s := by
  cases c with
  | timeNow => cases t <;> exact h
  | query q =>
    obtain ⟨value, now, ticket⟩ := a
    cases t with
    | signedIn s' acct read =>
      cases h
      cases q with
      | getPendingTOTPSecondFactor | getActiveTOTPSecondFactor => cases value <;> rfl
      | _ => rfl
    | start | looked | login => cases h
    | _ => exact h
  | tx x o =>
    obtain ⟨value, now, ticket⟩ := a
    cases t with
    | signedIn s' acct read =>
      cases h
      cases x with
      | activateTOTPSecondFactor | markTOTPSecondFactorUsed =>
        cases value <;> cases ho : o.accepted <;>
          simp [Phase.next, Phase.afterTx, ho, Phase.sessionID]
      | updateAccountPassword => cases value <;> rfl
      | _ => rfl
    | updated s' acct target ticket =>
      cases h
      cases x with
      | revokeAccountSessions => cases value <;> rfl
      | _ => rfl
    | start | looked | login => cases h
    | _ => exact h

/-- A program verifies no session but its own. -/
theorem Phase.verifies_own {api : API} {t : Phase} {s s' : String} {x : Tx} {o : Origin}
    (h : t.sessionID = some s) (hallowed : t.Allowed api (.tx x o)) (hx : x.verifies = some s') :
    s' = s := by
  cases x with
  | markSessionSecondFactorVerified m f method v =>
    cases hx
    cases t with
    | signedIn | accepted => cases h; exact hallowed.1
    | _ => cases hallowed
  | _ => cases hx

/-- A response that reports a replaced password is given only after its revocation. -/
def Answers (t : Phase) (r : Response) : Prop :=
  ∀ code target ticket kept, r = .passwordReplaced code target ticket kept →
    ∃ s a, t = .replaced s a target ticket kept


variable {api : API} {p : Principal} {α β : Type}

/-- A part that ends with a value and what is known then, or with an early answer. -/
def Ends (api : API) (t : Phase) (x : Handler α) (Q : Phase → α → Prop) : Prop :=
  (discipline api).Follows (fun t' r => ∀ a, r = .ok a → Q t' a) t x.run

namespace Ends

variable {t : Phase} {Q : Phase → α → Prop}

theorem pure {a : α} (h : Q t a) : Ends api t (pure a) Q := by
  rintro _ ⟨⟩
  exact h

theorem throw {e : EarlyAnswer} : Ends api t (throw e) Q := by
  rintro _ ⟨⟩

variable {x : Handler α} {f : α → Handler β} {Q' : Phase → β → Prop}

theorem seq (hx : Ends api t x Q)
    (hf : ∀ t' a, Q t' a → Ends api t' (f a) Q') : Ends api t (x >>= f) Q' := by
  refine follows_seq (Follows.mono ?_ hx)
  intro t' r hr
  exact ⟨fun a h => hf t' a (hr a h), fun _ _ _ h => by cases h⟩

theorem mono {Q' : Phase → α → Prop} (hx : Ends api t x Q)
    (h : ∀ t' a, Q t' a → Q' t' a) : Ends api t x Q' :=
  Follows.mono (fun t' _ hr a ha => h t' a (hr a ha)) hx

/-- A part without a call. -/
theorem still (hx : Ends api t x fun t' _ => t' = t) (hf : ∀ a, Ends api t (f a) Q') :
    Ends api t (x >>= f) Q' :=
  seq hx fun _ a h => h ▸ hf a

theorem require {c : Prop} [Decidable c] {r : EarlyAnswer} :
    Ends api t (require c r) fun t' _ => t' = t := by
  unfold Auth.require
  split
  · exact pure rfl
  · exact throw

variable {reply : Reply α} {onError : AuthError → EarlyAnswer}

theorem get :
    Ends api t (reply.get onError) fun t' a => t' = t ∧ reply.value = .ok a := by
  unfold Reply.get
  split
  next a h => exact pure ⟨rfl, h⟩
  · exact throw

theorem got (hf : ∀ a, reply.value = .ok a → Ends api t (f a) Q') :
    Ends api t (reply.get onError >>= f) Q' := by
  refine seq get ?_
  rintro t' a ⟨rfl, h⟩
  exact hf a h

theorem isThere : Ends api t (isThere reply) fun t' _ => t' = t := by
  unfold Auth.isThere
  split
  · exact pure rfl
  · exact pure rfl
  · exact throw

theorem perform {c : Call} {Q : Phase → Answer c → Prop} (hallowed : t.Allowed api c)
    (hnext : ∀ a, Q (t.next c a) a) : Ends api t (ExceptT.lift (Prog.perform c)) Q :=
  follows_lift hallowed fun a _ h => by cases h; exact hnext a

theorem status {code : Nat} {error : String} : Ends api t (return .status code error) Answers :=
  pure (by rintro _ _ _ _ ⟨⟩)

theorem call {c : Call} {f : Answer c → Handler β}
    (hallowed : t.Allowed api c) (hf : ∀ a, Ends api (t.next c a) (f a) Q') :
    Ends api t (ExceptT.lift (Prog.perform c) >>= f) Q' :=
  follows_call_then hallowed hf

end Ends

/-- The program is signed in as the principal. -/
def SignedIn (p : Principal) (t : Phase) : Prop :=
  ∃ read, t = .signedIn p.session.id p.account.id read

/-! ### Parts that stay signed in -/

/-- A part of a handler that begins and ends signed in. -/
def Stays (api : API) (p : Principal) (x : Handler α) : Prop :=
  ∀ t, SignedIn p t → Ends api t x fun t' _ => SignedIn p t'

namespace Stays

theorem pure {a : α} : Stays api p (pure a) := fun _ ht => .pure ht

theorem throw {e : EarlyAnswer} : Stays api p (throw e : Handler α) := fun _ _ => .throw

theorem seq {x : Handler α} {f : α → Handler β} (hx : Stays api p x) (hf : ∀ a, Stays api p (f a)) :
    Stays api p (x >>= f) :=
  fun t ht => .seq (hx t ht) fun t' a ht' => hf a t' ht'

theorem of_still {x : Handler α} (hx : ∀ t, Ends api t x fun t' _ => t' = t) : Stays api p x :=
  fun t ht => .mono (hx t) fun _ _ h => h ▸ ht

theorem require {c : Prop} [Decidable c] {r : EarlyAnswer} : Stays api p (require c r) :=
  of_still fun _ => .require

theorem get {reply : Reply α} {onError : AuthError → EarlyAnswer} :
    Stays api p (reply.get onError) :=
  of_still fun _ => .mono .get fun _ _ h => h.1

theorem isThere {reply : Reply α} : Stays api p (isThere reply) := of_still fun _ => .isThere

theorem timeNow : Stays api p timeNow := by
  rintro t ⟨read, rfl⟩
  exact .perform trivial fun _ => ⟨none, rfl⟩

theorem query (q : Query) : Stays api p (query q) := by
  rintro t ⟨read, rfl⟩
  refine .perform trivial fun r => ?_
  show SignedIn p (Phase.afterQuery _ q r)
  cases q with
  | getPendingTOTPSecondFactor | getActiveTOTPSecondFactor =>
    obtain ⟨value, now, ticket⟩ := r
    cases value <;> exact ⟨_, rfl⟩
  | _ => exact ⟨none, rfl⟩

/-- A transaction after which no particular call is due. -/
theorem transact {t : Tx} {o : Origin}
    (hallowed : ∀ read, signedInAllows api p.session.id p.account.id read o t)
    (hnext : ∀ read (r : Reply t.Result),
      Phase.afterTx (.signedIn p.session.id p.account.id read) t o r =
        .signedIn p.session.id p.account.id none) :
    Stays api p (transact t o) := by
  rintro _ ⟨read, rfl⟩
  exact .perform (hallowed read) fun r => ⟨none, hnext read r⟩

end Stays

/-! ### Handlers -/

/-- A handler that begins signed in and answers. -/
def Serves (api : API) (p : Principal) (x : Handler Response) : Prop :=
  ∀ t, SignedIn p t → Ends api t x Answers

namespace Serves

theorem status {code : Nat} {error : String} : Serves api p (pure (.status code error)) :=
  fun _ _ => .status

theorem throw {e : EarlyAnswer} : Serves api p (throw e) := fun _ _ => .throw

theorem seq {x : Handler α} {f : α → Handler Response} (hx : Stays api p x)
    (hf : ∀ a, Serves api p (f a)) : Serves api p (x >>= f) :=
  fun t ht => .seq (hx t ht) fun t' a ht' => hf a t' ht'

end Serves

/-! ### Second factors -/

theorem markVerified_stays {factorID : String} {method : FactorType} {verifiedAt : Time}
    (hmethod : method ≠ .totp) : Stays api p (markVerified p factorID method verifiedAt none) := by
  refine .seq (.transact (fun _ => ⟨rfl, hmethod⟩) fun _ _ => rfl) fun _ => ?_
  exact .seq .get fun _ => .pure

theorem sessionRequires_stays {account : Account} {session : Session} :
    Stays api p (sessionRequiresSecondFactorVerification account session) := by
  unfold sessionRequiresSecondFactorVerification
  split
  · exact .pure
  · refine .seq (.query _) fun _ => .seq .isThere fun email => ?_
    split
    · exact .pure
    · refine .seq (.query _) fun _ => .seq .isThere fun totp => ?_
      split
      · exact .pure
      · exact .seq (.query _) fun _ => .get

variable {surface : Surface} {done : Nat}

theorem requestActive_serves {unavailable : EarlyAnswer} :
    Serves api p (requestActiveEmailSecondFactorChallenge api surface p unavailable done) :=
  .seq .timeNow fun _ => .seq (.transact (fun _ => rfl) fun _ _ => rfl) fun _ => .seq .get fun _ =>
    .seq .require fun _ => .status

variable {email : String}

theorem requestSetup_serves :
    Serves api p (requestSetupEmailChallenge api surface p email done) :=
  .seq .require fun _ => .seq .require fun _ => .seq .timeNow fun _ =>
    .seq (.transact (fun _ => rfl) fun _ _ => rfl) fun _ => .seq .get fun _ =>
      .seq .require fun _ => .status

theorem requestEmail_serves :
    Serves api p (requestEmailSecondFactorChallenge api p email) := by
  refine .seq sessionRequires_stays fun required => ?_
  split
  · exact requestActive_serves
  · exact requestSetup_serves

theorem verifyEmail_serves {rawToken : String} :
    Serves api p (verifyEmail surface p rawToken done) := by
  refine .seq .require fun _ => .seq .timeNow fun _ => ?_
  refine .seq (.transact (fun _ => ⟨rfl, rfl⟩) fun _ _ => rfl) fun _ => .seq .get fun _ => ?_
  exact .seq (markVerified_stays (by decide)) fun _ => .status

theorem startTOTP_serves {secret : String} :
    Serves api p (startTOTP surface p secret done) :=
  .seq (.transact (fun _ => rfl) fun _ _ => rfl) fun _ => .seq .get fun _ => .status

variable {code : String}

/-- A code that `MatchTOTPCode` accepts is one for the factor. -/
theorem matchFactor_ends {factor : TOTPFactor} {now : Time} {invalid : EarlyAnswer} {t : Phase} :
    Ends api t (matchFactor api factor code now invalid)
      fun t' accepted => t' = t ∧ Accepts api factor now accepted := by
  unfold matchFactor
  split
  · exact .throw
  · exact .throw
  next timeStep h => exact .pure ⟨rfl, rfl, rfl, h⟩

/-- Once the time step of a code is recorded, the session is verified with it. -/
theorem markVerified_accepted {factorID : String} {verifiedAt : Time} {code : AcceptedCode} :
    Ends api (.accepted p.session.id p.account.id factorID code)
      (do markVerified p factorID .totp verifiedAt (some code); return .status done "") Answers := by
  refine .seq (Q := fun _ _ => True) ?_ ?_
  · exact .call ⟨rfl, rfl, rfl, rfl⟩ fun reply => .got fun _ _ => .pure trivial
  · rintro t' - -
    exact .status

theorem confirmTOTP_serves :
    Serves api p (confirmTOTP api surface p code done) := by
  rintro _ ⟨read, rfl⟩
  refine .call trivial fun ⟨value, now, ticket⟩ => .got fun factor hfactor => ?_
  cases hfactor
  refine .still .require fun _ => .seq matchFactor_ends ?_
  rintro _ accepted ⟨rfl, haccepts⟩
  refine .call ⟨rfl, rfl, factor, now, accepted, rfl, rfl, rfl, rfl, haccepts⟩ fun ⟨value, _, _⟩ => ?_
  refine .got fun activated hactivated => ?_
  cases hactivated
  exact markVerified_accepted

theorem verifyTOTP_serves {missing : EarlyAnswer} :
    Serves api p (verifyTOTP api surface p code missing done) := by
  refine .seq .require fun _ => ?_
  rintro _ ⟨read, rfl⟩
  refine .call trivial fun ⟨value, now, ticket⟩ => .got fun factor hfactor => ?_
  cases hfactor
  refine .seq matchFactor_ends ?_
  rintro _ accepted ⟨rfl, haccepts⟩
  refine .call ⟨factor, now, accepted, rfl, rfl, rfl, rfl, haccepts⟩ fun ⟨value, _, _⟩ => ?_
  refine .got fun used hused => ?_
  cases hused
  exact markVerified_accepted

theorem webAuthnAccountUser_stays {onError : AuthError → EarlyAnswer} :
    Stays api p (webAuthnAccountUser api p onError) :=
  .seq (.transact (fun _ => rfl) fun _ _ => rfl) fun _ => .seq .get fun _ =>
    .seq (.query _) fun _ => .seq .get fun _ => .pure

theorem storeChallenge_serves {kind : CeremonyType} {data : Bytes} {missing : EarlyAnswer} :
    Serves api p (storeChallenge api p kind data missing) :=
  .seq .timeNow fun _ => .seq (.transact (fun _ => rfl) fun _ _ => rfl) fun _ =>
    .seq .get fun _ => .status

theorem startRegistration_serves {attachmentValid : Bool} :
    Serves api p (startWebAuthnRegistration api p attachmentValid) := by
  refine .seq .require fun _ => .seq .require fun _ => .seq webAuthnAccountUser_stays ?_
  rintro ⟨user, credentials⟩
  dsimp only
  split
  · exact .throw
  · exact storeChallenge_serves

theorem finishRegistration_serves {body : Bytes} :
    Serves api p (finishWebAuthnRegistration api p body) := by
  refine .seq .require fun _ => .seq .timeNow fun _ => ?_
  refine .seq (.transact (fun _ => rfl) fun _ _ => rfl) fun _ => .seq .get fun _ => ?_
  refine .seq webAuthnAccountUser_stays ?_
  rintro ⟨user, credentials⟩
  dsimp only
  split
  · exact .throw
  · refine .seq (.transact (fun _ => ⟨rfl, rfl⟩) fun _ _ => rfl) fun _ => .seq .get fun _ => ?_
    exact .seq (markVerified_stays (by decide)) fun _ => .status

theorem startVerification_serves : Serves api p (startWebAuthnVerification api p) := by
  refine .seq .require fun _ => .seq webAuthnAccountUser_stays fun _ => .seq .require fun _ => ?_
  split
  · exact .throw
  · exact storeChallenge_serves

theorem finishVerification_serves {body : Bytes} :
    Serves api p (finishWebAuthnVerification api p body) := by
  refine .seq .require fun _ => .seq .timeNow fun _ => ?_
  refine .seq (.transact (fun _ => rfl) fun _ _ => rfl) fun _ => .seq .get fun _ => ?_
  refine .seq webAuthnAccountUser_stays ?_
  rintro ⟨user, credentials⟩
  dsimp only
  split
  · exact .throw
  · split
    · exact .throw
    · refine .seq (.transact (fun _ => trivial) fun _ _ => rfl) fun _ => .seq .get fun _ => ?_
      exact .seq (markVerified_stays (by decide)) fun _ => .status

/-! ### Accounts -/

theorem logoutSession_serves : Serves api p (logoutSession p done) :=
  .seq (.transact (fun _ => trivial) fun _ _ => rfl) fun _ => .seq .isThere fun _ => .status

variable {hash : Option String}

/-- A replaced password is answered only after the sessions are revoked. -/
theorem replacePassword_serves {accountID kept : String} :
    Serves api p (replacePassword surface p accountID hash kept done) := by
  unfold replacePassword
  split
  · exact .throw
  next newHash =>
    rintro _ ⟨read, rfl⟩
    refine .call trivial fun ⟨value, now, ticket⟩ => .got fun account haccount => ?_
    cases haccount
    refine .call ⟨rfl, rfl⟩ fun ⟨value, _, _⟩ => .got fun _ hrevoked => ?_
    cases hrevoked
    exact .pure (by rintro _ _ _ _ ⟨⟩; exact ⟨_, _, rfl⟩)

theorem changePassword_serves {current : String} :
    Serves api p (changePassword api surface p current hash done) :=
  .seq .require fun _ => replacePassword_serves

variable {username : String} {role : Option Role}

theorem createAccountFromRequest_stays :
    Stays api p (createAccountFromRequest api surface username hash role) := by
  refine .seq .require fun _ => ?_
  split
  · exact .throw
  · exact .throw
  · exact .seq (.transact (fun _ => trivial) fun _ _ => rfl) fun _ => .get

theorem createAccount_serves :
    Serves api p (createAccountHandler api surface username hash role done) :=
  .seq createAccountFromRequest_stays fun _ => .status

theorem resetRecovery_serves {accountID : String} {reason : Option RecoveryReason} :
    Serves api p (resetRecovery surface p accountID reason done) := by
  unfold resetRecovery
  split
  · exact .throw
  · exact .seq (.transact (fun _ => trivial) fun _ _ => rfl) fun _ => .seq .get fun _ => .status

theorem revokeSessions_serves {accountID : String} :
    Serves api p (revokeSessions surface p accountID done) :=
  .seq (.query _) fun _ => .seq .get fun _ => .seq (.transact (fun _ => rfl) fun _ _ => rfl) fun _ =>
    .seq .get fun _ => .status

/-! ### Behind the gates -/

theorem servePrivate_serves {endpoint : Endpoint} {body : Body} :
    Serves api p (servePrivate api endpoint p body) := by
  unfold servePrivate
  split
  · exact logoutSession_serves
  · exact changePassword_serves
  · exact requestEmail_serves
  · exact verifyEmail_serves
  · exact startTOTP_serves
  · exact .seq .require fun _ => confirmTOTP_serves
  · exact verifyTOTP_serves
  · exact startRegistration_serves
  · exact finishRegistration_serves
  · exact startVerification_serves
  · exact finishVerification_serves
  · exact .status

theorem serveAdminAction_serves {action : AdminAction} :
    Serves api p (serveAdminAction api p action) := by
  cases action with
  | createAccount username hash role => exact createAccount_serves
  | resetPassword accountID hash => exact replacePassword_serves
  | resetRecovery accountID reason => exact resetRecovery_serves
  | revokeSessions accountID => exact revokeSessions_serves

variable {csrfValid : Bool}

theorem adminWebRequestEmail_serves :
    Serves api p (adminWebRequestEmailSecondFactorChallenge api p email csrfValid) := by
  unfold adminWebRequestEmailSecondFactorChallenge
  split
  · exact .seq .require fun _ => .seq .require fun _ => requestSetup_serves
  · refine .seq sessionRequires_stays fun _ => .seq .require fun _ => ?_
    refine .seq (.query _) fun _ => .seq .isThere fun _ => ?_
    exact .seq .require fun _ => .seq .require fun _ => .seq .require fun _ => requestActive_serves

theorem adminWebVerifyEmail_serves :
    Serves api p (adminWebVerifyEmailSecondFactorChallenge api p code csrfValid) := by
  unfold adminWebVerifyEmailSecondFactorChallenge
  split
  · exact .seq .require fun _ => verifyEmail_serves
  · refine .seq sessionRequires_stays fun _ => ?_
    exact .seq .require fun _ => .seq .require fun _ => verifyEmail_serves

theorem serveSessionForm_serves {form : SessionForm} :
    Serves api p (serveSessionForm api p csrfValid form) := by
  cases form with
  | emailChallenge email => exact adminWebRequestEmail_serves
  | emailVerify code => exact adminWebVerifyEmail_serves
  | totpEnroll secret => exact .seq .require fun _ => .seq .require fun _ => startTOTP_serves
  | totpConfirm code => exact .seq .require fun _ => .seq .require fun _ => confirmTOTP_serves
  | totpVerify code => exact .seq .require fun _ => .seq .require fun _ => verifyTOTP_serves

theorem serveAdminForm_serves {form : AdminForm} :
    Serves api p (serveAdminForm api p csrfValid form) := by
  cases form with
  | changePassword current hash => exact .seq .require fun _ => changePassword_serves
  | totpEnroll secret => exact .seq .require fun _ => startTOTP_serves
  | totpConfirm code => exact .seq .require fun _ => confirmTOTP_serves
  | account action =>
    refine .seq .require fun _ => ?_
    cases action with
    | createAccount username hash role => exact createAccount_serves
    | resetPassword accountID hash => exact .seq .require fun _ => replacePassword_serves
    | resetRecovery accountID reason => exact .seq .require fun _ => resetRecovery_serves
    | revokeSessions accountID => exact .seq .require fun _ => revokeSessions_serves

/-! ### Before the gates -/


theorem sessionRequires_start {account : Account} {session : Session} :
    Ends api .start (sessionRequiresSecondFactorVerification account session)
      fun t' _ => t' = .start := by
  unfold sessionRequiresSecondFactorVerification
  split
  · exact .pure rfl
  · refine .call trivial fun _ => .still .isThere fun email => ?_
    split
    · exact .pure rfl
    · refine .call trivial fun _ => .still .isThere fun totp => ?_
      split
      · exact .pure rfl
      · exact .call trivial fun _ => .mono .get fun _ _ h => h.1

/-- A session and its account, read one after the other, sign the program in. -/
theorem lookupPrincipal_ends {rawToken : String} {source : AuthSource} {absent : EarlyAnswer} :
    Ends api .start (lookupPrincipal rawToken source absent) fun t p => SignedIn p t := by
  refine .call trivial fun ⟨value, _, _⟩ => .got fun session hsession => ?_
  cases hsession
  refine .call rfl fun ⟨value, _, _⟩ => .got fun account haccount => ?_
  cases haccount
  exact .still .require fun _ => .pure ⟨none, rfl⟩

variable {creds : Credentials}

theorem authenticatePrivateRequest_ends :
    Ends api .start (authenticatePrivateRequest creds) fun t p => SignedIn p t := by
  unfold authenticatePrivateRequest
  split
  · exact .throw
  · exact lookupPrincipal_ends
  · exact lookupPrincipal_ends
  · exact .throw

theorem adminWebPrincipal_ends {cookie : Option String} {absent : EarlyAnswer} :
    Ends api .start (adminWebPrincipal cookie absent) fun t p => SignedIn p t := by
  unfold adminWebPrincipal
  split
  · exact .throw
  · refine .seq lookupPrincipal_ends fun _ principal h => .still .require fun _ => .pure h

theorem requirePrivateAuth_ends {req : Routed} :
    Ends api .start (requirePrivateAuth req creds) fun t p => SignedIn p t := by
  refine .seq authenticatePrivateRequest_ends fun t principal ht => ?_
  refine .still .require fun _ => .still .require fun _ => ?_
  exact .seq (sessionRequires_stays t ht) fun _ _ ht' => .still .require fun _ => .pure ht'

theorem requireAdminAuth_ends {method : String} :
    Ends api .start (requireAdminAuth method creds) fun t p => SignedIn p t := by
  refine .seq authenticatePrivateRequest_ends fun t principal ht => ?_
  refine .still .require fun _ => .still .require fun _ => .still .require fun _ => ?_
  exact .seq (sessionRequires_stays t ht) fun _ _ ht' => .still .require fun _ => .pure ht'

theorem requireAdminWeb_ends {cookie : Option String} :
    Ends api .start (requireAdminWeb cookie) fun t p => SignedIn p t := by
  refine .seq adminWebPrincipal_ends fun t principal ht => .still .require fun _ => ?_
  exact .seq (sessionRequires_stays t ht) fun _ _ ht' => .still .require fun _ => .pure ht'

/-- A login creates a session for the hash it has verified. -/
theorem loginAccount_ends {username password : String} {allowed : Account → Handler Unit}
    (h : ∀ account t, Ends api t (allowed account) fun t' _ => t' = t) :
    Ends api .start (loginAccount api surface username password allowed) fun t _ => t = .start := by
  refine .call trivial fun ⟨value, _, _⟩ => .got fun account haccount => ?_
  cases haccount
  refine .still .require fun _ => .still (h account _) fun _ => ?_
  exact .call ⟨rfl, rfl⟩ fun _ => .got fun _ _ => .pure rfl

theorem login_ends {username password : String} :
    Ends api .start (login api username password) Answers := by
  refine .still (loginAccount_ends fun _ _ => .require) fun _ => ?_
  exact .still sessionRequires_start fun _ => .status

theorem createAccountFromRequest_start :
    Ends api .start (createAccountFromRequest api surface username hash role)
      fun t _ => t = .start := by
  refine .still .require fun _ => ?_
  split
  · exact .throw
  · exact .throw
  · exact .call rfl fun _ => .mono .get fun _ _ h => h.1

theorem adminWebBootstrap_ends {secretValid : Bool} :
    Ends api .start (adminWebBootstrap api secretValid username hash) Answers := by
  refine .call trivial fun _ => .got fun _ _ => ?_
  refine .still .require fun _ => .still .require fun _ => .still .require fun _ => ?_
  refine .still createAccountFromRequest_start fun _ => .call trivial fun _ => ?_
  exact .call rfl fun _ => .got fun _ _ => .status

theorem registerAccount_ends {username email : String} :
    Ends api .start (registerAccount api username email hash) Answers := by
  unfold registerAccount
  split
  · exact .throw
  · exact .throw
  · exact .throw
  · refine .still .require fun _ => .still .require fun _ => ?_
    split
    · exact .throw
    · exact .call rfl fun _ => .got fun _ _ => .status

theorem webLogout_ends : Ends api .start (webLogout api creds) Answers := by
  refine .still .require fun _ => ?_
  split
  · exact .throw
  · exact .throw
  · exact .status
  · refine .seq lookupPrincipal_ends fun t principal ht => .still .require fun _ => ?_
    exact logoutSession_serves t ht

theorem serveOpen_ends {endpoint : Endpoint} {body : Body} :
    Ends api .start (serveOpen api endpoint creds body) Answers := by
  unfold serveOpen
  split
  · exact login_ends
  · exact .still .require fun _ => login_ends
  · exact webLogout_ends
  · exact registerAccount_ends
  · exact .call trivial fun _ => .call rfl fun _ => .got fun _ _ => .status
  · exact .status

theorem serve_ends (req : Request) : Ends api .start (serve api req) Answers := by
  cases req with
  | main req creds body =>
    simp only [serve]
    split
    · exact .seq requirePrivateAuth_ends fun t _ ht => servePrivate_serves t ht
    · exact serveOpen_ends
  | adminAPI method creds action =>
    exact .seq requireAdminAuth_ends fun t _ ht => serveAdminAction_serves t ht
  | adminWebLogin username password =>
    refine .still (loginAccount_ends fun _ _ => ?_) fun _ => .status
    exact .still .require fun _ => .require
  | adminWebBootstrap secretValid username hash => exact adminWebBootstrap_ends
  | adminWebLogout cookie csrfValid =>
    refine .seq adminWebPrincipal_ends fun t _ ht => .still .require fun _ => ?_
    exact logoutSession_serves t ht
  | adminWebSession cookie csrfValid form =>
    exact .seq adminWebPrincipal_ends fun t _ ht => serveSessionForm_serves t ht
  | adminWeb cookie csrfValid form =>
    exact .seq requireAdminWeb_ends fun t _ ht => serveAdminForm_serves t ht

/-- **Every program follows the discipline**, and reports a replaced password only after
    the revocation. -/
theorem main_follows (req : Request) :
    (discipline api).Follows Answers .start (main api req) := by
  refine follows_bind (Follows.mono ?_ (serve_ends req))
  intro t r hr
  cases r with
  | ok response => exact hr response rfl
  | error answer =>
    rintro code target ticket kept h
    cases answer
    cases h

end SafetyRecorder.Auth
