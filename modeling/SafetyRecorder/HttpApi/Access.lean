import SafetyRecorder.Auth.Sample

namespace SafetyRecorder.Auth

open Process Prog Runs ServeMux

/-!
# HTTP API — what passes the gates

* `ensures_require`, `ensures_read`, `ensures_reads` — the rules of `Ensures` for the
  building blocks of the handlers;
* `Principal.In` — the session and the account of a principal are rows of the database;
* `requirePrivateAuth_ensures`, `requireAdminWeb_ensures` — **what a gate has checked**
  when it lets a request pass;
* `private_handler_runs` — a guarded handler runs only for an account and a session that
  its route is open to.
-/

variable {env : Env} {I : World → Prop} {w : World}

/-! ### Rules for handlers -/

/-- A check: the handler goes on, or ends with the response. -/
theorem ensures_require {c : Prop} [Decidable c] {r : EarlyAnswer} {β : Type} {f : Unit → Handler β}
    {Q : Except EarlyAnswer β → World → Prop} (hI : I w)
    (hf : c → Ensures (exec env) I Q (f ()).run w) (hfail : Q (.error r) w) :
    Ensures (exec env) I Q (require c r >>= f).run w := by
  unfold require
  split
  next hc => exact hf hc
  · exact ensures_throw hI hfail

variable {onError : AuthError → EarlyAnswer}

theorem ensures_get {α : Type} {reply : Reply α}
    {Q : Except EarlyAnswer α → World → Prop} (hI : I w)
    (hok : ∀ a, reply.value = .ok a → Q (.ok a) w) (hfail : ∀ r, Q (.error r) w) :
    Ensures (exec env) I Q (reply.get onError).run w := by
  unfold Reply.get
  split
  next a ha => exact ensures_pure hI (hok a ha)
  next e he => exact ensures_throw hI (hfail _)

/-- A read answers from the database and leaves the world alone. -/
theorem ensures_query {q : Query} {β : Type} {f : Reply q.Result → Handler β}
    {Q : Except EarlyAnswer β → World → Prop} (hI : I w)
    (hf : ∀ now reply, reply.value = q.run env now w.db ∨ reply.value = .error .other →
      Ensures (exec env) I Q (f reply).run w) : Ensures (exec env) I Q (query q >>= f).run w := by
  refine ensures_call_then hI fun ch reply w' h => ?_
  obtain ⟨rfl, hvalue⟩ := exec_query h
  exact hf ch.now reply hvalue

/-- A read whose error ends the handler. -/
theorem ensures_read {q : Query} {β : Type}
    {f : Reply q.Result → q.Result → Handler β} {Q : Except EarlyAnswer β → World → Prop} (hI : I w)
    (hf : ∀ now reply a, q.run env now w.db = .ok a → Ensures (exec env) I Q (f reply a).run w)
    (hfail : ∀ r, Q (.error r) w) :
    Ensures (exec env) I Q (query q >>= fun reply => reply.get onError >>= f reply).run w := by
  refine ensures_query hI fun now reply hvalue => ensures_seq ?_
  refine ensures_get hI (fun a ha => ⟨?_, by simp⟩) fun r => ⟨by simp, fun e _ => hfail e⟩
  rintro a' ⟨⟩
  rw [ha] at hvalue
  rcases hvalue with hvalue | hvalue
  · exact hf now reply a hvalue.symm
  · cases hvalue

/-- Composition after a part that only reads: it ends where it began. -/
theorem ensures_reads {α β : Type} {x : Handler α} {f : α → Handler β} {P : α → Prop}
    {Q : Except EarlyAnswer β → World → Prop}
    (hx : Ensures (exec env) I (fun r w' => w' = w ∧ ∀ a, r = .ok a → P a) x.run w)
    (hf : ∀ a, P a → Ensures (exec env) I Q (f a).run w) (hfail : ∀ r, Q (.error r) w) :
    Ensures (exec env) I Q (x >>= f).run w := by
  refine ensures_seq (Ensures.mono ?_ hx)
  rintro r w' - ⟨rfl, hP⟩
  exact ⟨fun a ha => hf a (hP a ha), fun e _ => hfail e⟩

theorem ensures_isThere {α : Type} {reply : Reply α} {Q : Except EarlyAnswer Bool → World → Prop}
    (hI : I w) (hfound : Q (.ok true) w) (habsent : reply.value = .error .notFound → Q (.ok false) w)
    (hfail : ∀ r, Q (.error r) w) : Ensures (exec env) I Q (isThere reply).run w := by
  unfold isThere
  split
  · exact ensures_pure hI hfound
  next hvalue => exact ensures_pure hI (habsent hvalue)
  · exact ensures_throw hI (hfail _)

/-! ### Authentication -/

/-- The session of the principal is a session of its account, and both are stored. -/
structure Principal.In (p : Principal) (db : AuthDB) : Prop where
  session : p.session ∈ db.sessions
  account : p.account ∈ db.accounts
  owner : p.session.accountID = p.account.id

theorem lookupPrincipal_ensures (hI : I w) (rawToken : String) (source : AuthSource)
    (absent : EarlyAnswer) :
    Ensures (exec env) I (fun r w' => w' = w ∧ ∀ p, r = .ok p → p.In w.db)
      (lookupPrincipal rawToken source absent).run w := by
  refine ensures_read hI (fun now _ session hsession => ?_) fun _ => ⟨rfl, by simp⟩
  refine ensures_read hI (fun _ _ account haccount => ?_) fun _ => ⟨rfl, by simp⟩
  refine ensures_require hI (fun _ => ?_) ⟨rfl, by simp⟩
  refine ensures_pure hI ⟨rfl, ?_⟩
  rintro p ⟨⟩
  obtain ⟨hs, -⟩ := lookupSession_ok hsession
  obtain ⟨ha, hid⟩ := getAccountByID_ok haccount
  exact ⟨hs, ha, hid.symm⟩

theorem authenticatePrivateRequest_ensures (hI : I w) (creds : Credentials) :
    Ensures (exec env) I (fun r w' => w' = w ∧ ∀ p, r = .ok p → p.In w.db)
      (authenticatePrivateRequest creds).run w := by
  unfold authenticatePrivateRequest
  split
  · exact ensures_throw hI ⟨rfl, by simp⟩
  · exact lookupPrincipal_ensures hI _ _ _
  · exact lookupPrincipal_ensures hI _ _ _
  · exact ensures_throw hI ⟨rfl, by simp⟩

/-! ### The second factor -/

/-- The session is verified, or its account has no active factor. -/
def Principal.Cleared (p : Principal) (db : AuthDB) : Prop :=
  p.session.secondFactorVerifiedAt.isSome = true ∨ ¬ db.HasActiveFactor p.account.id

/-- An account that may not use the product routes has no active factor. -/
theorem Sound.not_active (hdb : Sound w.db) {a : Account} (ha : a ∈ w.db.accounts)
    (haccess : canAccessProductRoutes a = false) : ¬ w.db.HasActiveFactor a.id := by
  intro hactive
  rw [canAccessProductRoutes, hdb.complete a ha hactive] at haccess
  cases haccess

/-- **No second factor is asked for** only when the session is verified or the account
    has no active factor. -/
theorem sessionRequires_ensures (hI : I w) (hdb : Sound w.db) {p : Principal} (hp : p.In w.db) :
    Ensures (exec env) I (fun r w' => w' = w ∧ ∀ required, r = .ok required →
        required = false → p.Cleared w.db)
      (sessionRequiresSecondFactorVerification p.account p.session).run w := by
  unfold sessionRequiresSecondFactorVerification
  split
  next hearly =>
    refine ensures_pure hI ⟨rfl, fun _ _ _ => ?_⟩
    rw [Bool.or_eq_true, Bool.not_eq_true'] at hearly
    exact hearly.imp_right (hdb.not_active hp.account)
  refine ensures_query hI fun _ email hemail => ?_
  refine ensures_reads (P := fun b => b = false → email.value = .error .notFound)
    (ensures_isThere hI ⟨rfl, by simp⟩ (fun h => ⟨rfl, by simp [h]⟩) fun _ => ⟨rfl, by simp⟩)
    (fun b hb => ?_) fun _ => ⟨rfl, by simp⟩
  split
  · exact ensures_pure hI ⟨rfl, by rintro _ ⟨⟩ ⟨⟩⟩
  next hnoEmail =>
    refine ensures_query hI fun _ totp htotp => ?_
    refine ensures_reads (P := fun b => b = false → totp.value = .error .notFound)
      (ensures_isThere hI ⟨rfl, by simp⟩ (fun h => ⟨rfl, by simp [h]⟩) fun _ => ⟨rfl, by simp⟩)
      (fun b' hb' => ?_) fun _ => ⟨rfl, by simp⟩
    split
    · exact ensures_pure hI ⟨rfl, by rintro _ ⟨⟩ ⟨⟩⟩
    next hnoTOTP =>
      refine ensures_query hI fun _ webAuthn hwebAuthn => ?_
      refine ensures_get hI (fun has hhas => ⟨rfl, ?_⟩) fun _ => ⟨rfl, by simp⟩
      rintro required ⟨⟩ rfl
      -- none of the three reads found an active factor
      have habsent {α : Type} {read : Except AuthError α} {value : Except AuthError α}
          (h : value = read ∨ value = .error .other) (hvalue : value = .error .notFound) :
          read = .error .notFound := by
        rcases h with h | h
        · exact h ▸ hvalue
        · rw [h] at hvalue
          cases hvalue
      refine .inr ?_
      rintro (⟨f, hf, haccount, hactive⟩ | ⟨f, hf, haccount, hactive⟩ | ⟨c, hc, haccount⟩)
      · refine getActiveEmailSecondFactor_of_mem hf hactive ?_
        rw [haccount]
        exact habsent hemail (hb (by simpa using hnoEmail))
      · have hfound := getTOTPSecondFactor_of_mem hdb.totpAccounts hf
        rw [haccount, hactive] at hfound
        have hmissing := habsent htotp (hb' (by simpa using hnoTOTP))
        cases hfound.symm.trans hmissing
      · rcases hwebAuthn with h | h
        · have hnone : hasActiveWebAuthnCredential w.db p.account.id = false :=
            Except.ok.inj (h.symm.trans hhas)
          simpa [haccount] using List.any_eq_false.mp hnone c hc
        · rw [h] at hhas
          cases hhas

/-! ### The gates -/

/-- **The gate of the main listener.** -/
theorem requirePrivateAuth_ensures (hI : I w) (hdb : Sound w.db) (req : Routed)
    (creds : Credentials) :
    Ensures (exec env) I (fun r w' => w' = w ∧ ∀ p, r = .ok p → p.In w.db ∧
        (canAccessProductRoutes p.account = true ∨
          secondFactorSetupAllowedRoute req.method req.path = true) ∧
        (p.Cleared w.db ∨ secondFactorVerificationAllowedRoute req.method req.path = true))
      (requirePrivateAuth req creds).run w := by
  refine ensures_reads (authenticatePrivateRequest_ensures hI creds) (fun p hp => ?_)
    fun _ => ⟨rfl, by simp⟩
  refine ensures_require hI (fun _ => ?_) ⟨rfl, by simp⟩
  refine ensures_require hI (fun hsetup => ?_) ⟨rfl, by simp⟩
  refine ensures_reads (sessionRequires_ensures hI hdb hp) (fun required hrequired => ?_)
    fun _ => ⟨rfl, by simp⟩
  refine ensures_require hI (fun hverified => ?_) ⟨rfl, by simp⟩
  refine ensures_pure hI ⟨rfl, ?_⟩
  rintro p' ⟨⟩
  exact ⟨hp, hsetup, hverified.imp_left hrequired⟩

theorem adminWebPrincipal_ensures (hI : I w) (cookie : Option String) (absent : EarlyAnswer) :
    Ensures (exec env) I (fun r w' => w' = w ∧ ∀ p, r = .ok p → p.In w.db ∧
        p.account.role = .admin) (adminWebPrincipal cookie absent).run w := by
  unfold adminWebPrincipal
  split
  · exact ensures_throw hI ⟨rfl, by simp⟩
  refine ensures_reads (lookupPrincipal_ensures hI _ _ _) (fun p hp => ?_) fun _ => ⟨rfl, by simp⟩
  refine ensures_require hI (fun hrole => ?_) ⟨rfl, by simp⟩
  refine ensures_pure hI ⟨rfl, ?_⟩
  rintro p' ⟨⟩
  exact ⟨hp, hrole⟩

/-- **The gate of the admin pages.** -/
theorem requireAdminWeb_ensures (hI : I w) (hdb : Sound w.db) (cookie : Option String) :
    Ensures (exec env) I (fun r w' => w' = w ∧ ∀ p, r = .ok p → p.In w.db ∧ p.Cleared w.db)
      (requireAdminWeb cookie).run w := by
  refine ensures_reads (adminWebPrincipal_ensures hI cookie _) (fun p hp => ?_)
    fun _ => ⟨rfl, by simp⟩
  refine ensures_require hI (fun _ => ?_) ⟨rfl, by simp⟩
  refine ensures_reads (sessionRequires_ensures hI hdb hp.1) (fun required hrequired => ?_)
    fun _ => ⟨rfl, by simp⟩
  refine ensures_require hI (fun hopen => ?_) ⟨rfl, by simp⟩
  refine ensures_pure hI ⟨rfl, ?_⟩
  rintro p' ⟨⟩
  exact ⟨hp.1, hrequired hopen⟩

/-- **A guarded handler runs only when its route is open.** In every reachable state, and
    whatever the method, the encoding of the path and the credentials: when the gate of a
    guarded route lets a request pass, the principal it found is stored; unless the route
    is open during setup, the account does not have to set up a second factor; and unless
    the route is open before verification, the session is verified or the account has no
    active factor. -/
theorem private_handler_runs (api : API) {accounts : List Account}
    (hids : (accounts.map (·.id)).Nodup) {ls : List (Label Request Choice)} {s : AuthServer}
    (hrun : run (authStep env api) (bootAuth accounts) ls = some s) (req : Routed)
    (hguarded : req.route.handler.guarded = true) (creds : Credentials) {ds : List Choice}
    {principal : Principal} {w' : World}
    (hgate : (requirePrivateAuth req creds).run.advance (exec env) s.shared ds =
      some (.ret (.ok principal), w')) :
    principal.In s.shared.db ∧
    (req.route.handler.setupListed = false →
      principal.account.secondFactorSetup ≠ .setupRequired) ∧
    (req.route.handler.verificationListed = false →
      principal.session.secondFactorVerifiedAt.isSome = true ∨
        ¬ s.shared.db.HasActiveFactor principal.account.id) := by
  have hensures : Ensures (exec env) (fun _ => True) _ (requirePrivateAuth req creds).run s.shared :=
    requirePrivateAuth_ensures trivial (sound_run hids hrun) req creds
  obtain ⟨-, -, hpassed⟩ := hensures.advance hgate
  obtain ⟨hin, hsetup, hverified⟩ := hpassed principal rfl
  obtain ⟨hsetupListed, hverificationListed⟩ := allowed_of_dispatch req.routed hguarded
  refine ⟨hin, fun hnot hrequired => ?_, fun hnot => ?_⟩
  · rcases hsetup with haccess | hallowed
    · rw [canAccessProductRoutes, hrequired] at haccess
      cases haccess
    · rw [hsetupListed hallowed] at hnot
      cases hnot
  · rcases hverified with hcleared | hallowed
    · exact hcleared
    · rw [hverificationListed hallowed] at hnot
      cases hnot

/-- An account without a second factor signs in and passes the gate of a route that is
    open neither during setup nor before verification. -/
theorem private_handler_runs_changeOwnPassword :
    ∃ s principal w',
      run (authStep sampleEnv sampleAuthAPI)
        (bootAuth [sampleAccount "a" .user .notRequired]) (.spawn 0 (loginAs "a") :: steps 0 5) =
          some s ∧
      (requirePrivateAuth passwordRoute { bearer := some "_tok" }).run.advance (exec sampleEnv)
        s.shared (List.replicate 5 {}) = some (.ret (.ok principal), w') ∧
      principal.In s.shared.db ∧
      (passwordRoute.route.handler.setupListed = false →
        principal.account.secondFactorSetup ≠ .setupRequired) ∧
      (passwordRoute.route.handler.verificationListed = false →
        principal.session.secondFactorVerifiedAt.isSome = true ∨
          ¬ s.shared.db.HasActiveFactor principal.account.id) :=
  ⟨_, _, _, rfl, rfl, @private_handler_runs sampleEnv sampleAuthAPI
    [sampleAccount "a" .user .notRequired] (List.nodup_singleton _)
    (.spawn 0 (loginAs "a") :: steps 0 5) _ rfl passwordRoute rfl { bearer := some "_tok" }
    (List.replicate 5 {}) _ _ rfl⟩

end SafetyRecorder.Auth
