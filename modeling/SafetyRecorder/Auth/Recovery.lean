import SafetyRecorder.Auth.Records
import SafetyRecorder.Auth.Sample

namespace SafetyRecorder.Auth

open Process Protocol Runs Journal

/-!
# Auth — factors after a recovery reset

`ResetAccountSecondFactorRecovery` removes the factors of an account and revokes its
sessions.  Which factors can the account have afterwards?

* `AuthDB.Active`, `Entry.Activates`, `Entry.CompletesSetup` — a factor that is active,
  and the transaction that made it so or completed the setup of the account;
* `Entry.SignedInSince` — the request of a transaction was authenticated by a session
  created after the reset;
* `factors_since_reset` — all of them come from such requests, when an enrolment is
  finished only while its session is not revoked;
* `enrolled_by_owner` — every factor is enrolled in a session of its account.

The handlers look a session up once, at the beginning, and the transaction that finishes
an enrolment does not look at it again: `stale_enrolment_finishes`.
-/

/-- The transaction made the factor active. -/
def Entry.Activates (env : Env) (accountID : String) (k : FactorKey) (e : Entry) : Prop :=
  ¬ e.before.Active accountID k ∧
    ∃ r db', e.tx.run env e.draw e.before = .ok (r, db') ∧ db'.Active accountID k

/-- The transaction changed the setup state of the account to complete. -/
def Entry.CompletesSetup (env : Env) (accountID : String) (e : Entry) : Prop :=
  (∃ a ∈ e.before.accounts, a.id = accountID ∧ a.secondFactorSetup ≠ .complete) ∧
    ∃ r db', e.tx.run env e.draw e.before = .ok (r, db') ∧
      ∃ a ∈ db'.accounts, a.id = accountID ∧ a.secondFactorSetup = .complete

/-- The request of the transaction was authenticated by a session of the account that
    one of the entries created. -/
def Entry.SignedInSince (env : Env) (accountID : String) (es : List Entry) (e : Entry) : Prop :=
  ∃ c ∈ es, ∃ expiresAt, c.tx = .createSession accountID expiresAt ∧
    e.origin.session = some (env.newID "ses" (c.draw.next + 1))

/-- An enrolment is finished only while the session of its request is not revoked. -/
def EnrolsUnrevoked (w : World) (t : Tx) (o : Origin) : Prop :=
  t.completes ≠ none → ∀ sid, o.session = some sid → ∀ s ∈ w.db.sessions, s.id = sid →
    s.revokedAt = none

variable {env : Env} {api : API} {d : Draw} {t : Tx} {db db' : AuthDB} {accountID : String}

/-- The setup of an account becomes complete only by a transaction that completes it. -/
theorem setup_origin (hdb : Sound db) (h : Effect env d db t db') {a a' : Account}
    (ha : a ∈ db.accounts) (hnot : a.secondFactorSetup ≠ .complete) (ha' : a' ∈ db'.accounts)
    (hid : a'.id = a.id) (hcomplete : a'.secondFactorSetup = .complete) :
    t.completes = some a.id := by
  rcases account_origin h ha' with ⟨a₀, ha₀, hid₀, hsetup⟩ | hnew
  · obtain rfl : a₀ = a := Table.eq_of_key hdb.accountIDs ha₀ ha (hid₀.trans hid)
    rcases hsetup with hsame | ⟨ht, -⟩ | ⟨-, hrequired⟩
    · exact (hnot (hsame ▸ hcomplete)).elim
    · rw [ht, hid]
    · cases hrequired.symm.trans hcomplete
  · exact (hnew a ha hid.symm).elim

/-- A transaction that completes a setup is one of a handler that is signed in to the
    account, and names its session. -/
theorem signedIn_of_completes {x : Phase} {o : Origin} (hallowed : x.Allowed api (.tx t o))
    (ht : t.completes = some accountID) :
    ∃ sid read, x = .signedIn sid accountID read ∧ o.session = some sid := by
  cases t with
  | consumeEmailSecondFactorChallenge | createWebAuthnCredential =>
    cases ht
    cases x with
    | signedIn sid acct read => exact ⟨sid, read, by rw [hallowed.1], hallowed.2⟩
    | _ => exact hallowed.elim
  | activateTOTPSecondFactor a f v step =>
    cases ht
    cases x with
    | signedIn sid acct read => exact ⟨sid, read, by rw [hallowed.1], hallowed.2.1⟩
    | _ => exact hallowed.elim
  | _ => cases ht

variable {accounts : List Account} {w : World} {later earlier : List Entry} {e : Entry}

/-- **After the reset** a transaction that completes the setup of the account belongs to a
    request of a session created since. -/
theorem signedInSince_of_completes (hw : Records env api EnrolsUnrevoked accounts w)
    (hhistory : w.history = later ++ e :: earlier) {admin : String} {reason : RecoveryReason}
    (hreset : e.tx = .resetAccountSecondFactorRecovery accountID admin reason) {x : Entry}
    (hx : x ∈ later) (hcompletes : x.tx.completes = some accountID) :
    x.SignedInSince env accountID later := by
  obtain ⟨after, mid, rfl⟩ := List.append_of_mem hx
  have hcut : w.history = after ++ x :: (mid ++ e :: earlier) := by simp [hhistory]
  -- the session of the request is there, belongs to the account and is not revoked
  have hlawful : x.Lawful api EnrolsUnrevoked (mid ++ e :: earlier) := (hcut ▸ hw.lawful).at
  obtain ⟨t, hallowed, hknows⟩ := hlawful.allowed
  obtain ⟨sid, read, rfl, hsession⟩ := signedIn_of_completes hallowed hcompletes
  obtain ⟨s, hs, hid, haccount⟩ := hknows
  have hunrevoked : s.revokedAt = none :=
    hlawful.cond (by rw [hcompletes]; simp) sid hsession s hs hid
  -- after the reset no session of the account was open
  obtain ⟨m, m', hbefore, ⟨rfl, -⟩, -⟩ := leads_split (hcut ▸ hw.leads)
  obtain ⟨n, n', -, hresets, hmid⟩ := leads_split hbefore
  rcases openSession_since hmid ⟨s, hs, hid, haccount, hunrevoked⟩ with
    ⟨s₀, hs₀, -, howner, hopen⟩ | ⟨c, hc, ⟨expiresAt, htx⟩, rfl⟩
  · exact (revoked_of_reset (hreset ▸ hresets.effect) hs₀ howner hopen).elim
  · exact ⟨c, by simp [hc], expiresAt, htx, hsession⟩

/-- A factor that is active since the reset was activated since. -/
theorem activated_since_reset (hw : Records env api EnrolsUnrevoked accounts w)
    (hhistory : w.history = later ++ e :: earlier) {admin : String} {reason : RecoveryReason}
    (hreset : e.tx = .resetAccountSecondFactorRecovery accountID admin reason) {k : FactorKey}
    (hk : w.db.Active accountID k) :
    ∃ x ∈ later, x.Activates env accountID k := by
  obtain ⟨n, n', -, hresets, hlater⟩ := leads_split (hhistory ▸ hw.leads)
  have horigin := Leads.since (P := fun (m : AuthDB) k => m.Active accountID k)
    (N := fun x k => x.Activates env accountID k) ?_ hlater hk
  · rcases horigin with hactive | ⟨x, hx, hactivates⟩
    · have hnone := no_factor_of_reset (hreset ▸ hresets.effect)
      exact (hnone (hasActiveFactor_iff.mpr ⟨k, hactive⟩)).elim
    · exact ⟨x, hx, hactivates⟩
  · rintro x m m' k ⟨rfl, r, hrun⟩ hk'
    by_cases hm : x.before.Active accountID k
    · exact .inl hm
    · exact .inr ⟨hm, r, m', hrun, hk'⟩

/-- **Factors after a recovery reset.** In every interleaving in which an enrolment is
    finished only while the session of its request is not revoked: after the reset of an
    account, every active factor and credential of the account was activated, and every
    later change of its setup state to complete was made, by a request that was
    authenticated by a session created after the reset. -/
theorem factors_since_reset (hids : (accounts.map (·.id)).Nodup)
    {ls : List (Label Request Choice)} {s : AuthServer}
    (hC : Meets (authStep env api) (During EnrolsUnrevoked) (bootAuth accounts) ls)
    (hrun : run (authStep env api) (bootAuth accounts) ls = some s)
    (hhistory : s.shared.history = later ++ e :: earlier) {admin : String} {reason : RecoveryReason}
    (hreset : e.tx = .resetAccountSecondFactorRecovery accountID admin reason) :
    (∀ k, s.shared.db.Active accountID k →
      ∃ x ∈ later, x.Activates env accountID k ∧ x.SignedInSince env accountID later) ∧
    ∀ x ∈ later, x.CompletesSetup env accountID → x.SignedInSince env accountID later := by
  obtain ⟨hw, -⟩ := records_run hids hC hrun
  have hsound {x : Entry} (hx : x ∈ later) : Sound x.before := by
    obtain ⟨after, mid, rfl⟩ := List.append_of_mem hx
    have hcut : s.shared.history = after ++ x :: (mid ++ e :: earlier) := by simp [hhistory]
    exact (hcut ▸ hw.lawful).at.sound
  constructor
  · intro k hk
    obtain ⟨x, hx, hactivates⟩ := activated_since_reset hw hhistory hreset hk
    refine ⟨x, hx, hactivates, signedInSince_of_completes hw hhistory hreset hx ?_⟩
    obtain ⟨hnot, r, db', hcommits, hactive⟩ := hactivates
    exact (active_origin (hsound hx) (effect_of_run hcommits) hactive).resolve_left hnot
  · rintro x hx ⟨⟨a, ha, rfl, hnot⟩, r, db', hcommits, a', ha', hid, hcomplete⟩
    refine signedInSince_of_completes hw hhistory hreset hx ?_
    exact setup_origin (hsound hx) (effect_of_run hcommits) ha hnot ha' hid hcomplete

/-- The condition, tested. -/
def enrolsUnrevoked (w : World) (t : Tx) (o : Origin) : Bool :=
  t.completes.isNone || w.db.sessions.all fun s => o.session != some s.id || s.revokedAt.isNone

theorem enrolsUnrevoked_of_test {w : World} {t : Tx} {o : Origin}
    (h : enrolsUnrevoked w t o = true) : EnrolsUnrevoked w t o := by
  rintro hcompletes sid hsession s hs rfl
  have hall := (Bool.or_eq_true _ _ ▸ h).resolve_left (by simpa using hcompletes)
  simpa [hsession] using List.all_eq_true.mp hall s hs

/-- An account that has to set up a factor, and an administrator. -/
def recoveryAccounts : List Account :=
  [sampleAccount "a" .user .setupRequired, sampleAccount "b" .admin .complete]

/-- The administrator resets the account. -/
def resetOf (accountID : String) : Request :=
  .adminAPI "POST" { bearer := some "iii_tok" } (.resetRecovery accountID (some .lostAllFactors))

/-- Both sign in, the administrator resets the account, and the account signs in again
    and registers a WebAuthn credential. -/
def resetRun : List (Label Request Choice) :=
  .spawn 0 (loginAs "a") :: steps 0 2 ++ .spawn 1 (loginAs "b") :: steps 1 5 ++
  .spawn 2 (resetOf "a") :: steps 2 6 ++ .spawn 3 (loginAs "a") :: steps 3 2 ++
  .spawn 4 (asSession (sampleID "tok" 9) webAuthnStartRoute {}) :: steps 4 6 ++
  .spawn 5 (asSession (sampleID "tok" 9) webAuthnFinishRoute {}) :: steps 5 8

theorem factors_since_reset_resetRun :
    ∃ s later e earlier,
      run (authStep sampleEnv sampleAuthAPI) (bootAuth recoveryAccounts) resetRun = some s ∧
      s.shared.history = later ++ e :: earlier ∧
      e.tx = .resetAccountSecondFactorRecovery "a" "b" .lostAllFactors ∧
      (∃ k, s.shared.db.Active "a" k) ∧
      (∀ k, s.shared.db.Active "a" k → ∃ x ∈ later, x.Activates sampleEnv "a" k ∧
        x.SignedInSince sampleEnv "a" later) ∧
      ∀ x ∈ later, x.CompletesSetup sampleEnv "a" → x.SignedInSince sampleEnv "a" later := by
  have hC : Meets (authStep sampleEnv sampleAuthAPI) (During EnrolsUnrevoked)
      (bootAuth recoveryAccounts) resetRun :=
    meets_of_check (c := duringTest enrolsUnrevoked)
      (fun _ _ => during_of_test fun _ _ _ => enrolsUnrevoked_of_test) (by rfl)
  refine ⟨_, [_, _, _, _, _, _, _], _, _, rfl, rfl, rfl, ⟨.webauthn _, _, .head _, rfl, rfl⟩, ?_⟩
  exact factors_since_reset (by decide) hC rfl rfl rfl

/-- The account begins to register a credential; the administrator resets it before the
    credential is stored. -/
def staleEnrolmentRun : List (Label Request Choice) :=
  .spawn 0 (loginAs "a") :: steps 0 2 ++ .spawn 1 (loginAs "b") :: steps 1 5 ++
  .spawn 2 (asSession "_tok" webAuthnStartRoute {}) :: steps 2 6 ++
  .spawn 3 (asSession "_tok" webAuthnFinishRoute {}) :: steps 3 6 ++
  .spawn 4 (resetOf "a") :: steps 4 6 ++ steps 3 1

/-- **A stale enrolment is finished.** After the reset the account has a credential and
    its setup is complete, and no session was created since. -/
theorem stale_enrolment_finishes :
    ∃ s later e earlier,
      run (authStep sampleEnv sampleAuthAPI) (bootAuth recoveryAccounts) staleEnrolmentRun = some s ∧
      s.shared.history = later ++ e :: earlier ∧
      e.tx = .resetAccountSecondFactorRecovery "a" "b" .lostAllFactors ∧
      (∃ k, s.shared.db.Active "a" k) ∧ (∃ x ∈ later, x.CompletesSetup sampleEnv "a") ∧
      ∀ x : Entry, ¬ x.SignedInSince sampleEnv "a" later := by
  refine ⟨_, [_], _, _, rfl, rfl, rfl, ⟨.webauthn _, _, .head _, rfl, rfl⟩,
    ⟨_, .head _, ⟨_, .head _, rfl, by decide⟩, _, _, rfl, _, .head _, rfl, rfl⟩, ?_⟩
  rintro x ⟨c, hc, expiresAt, htx, -⟩
  obtain rfl := List.mem_singleton.mp hc
  cases htx

/-- **A factor is enrolled by its own account.** In every run, a transaction that activates
    a factor or stores a credential belongs to a request with a session of that account. -/
theorem enrolled_by_owner (hids : (accounts.map (·.id)).Nodup) {ls : List (Label Request Choice)}
    {s : AuthServer} (hrun : run (authStep env api) (bootAuth accounts) ls = some s)
    (he : e ∈ s.shared.history) (ht : e.tx.completes = some accountID) :
    ∃ sid, e.origin.session = some sid ∧ e.before.HasSession sid accountID := by
  obtain ⟨hw, -⟩ := records_run (C := fun _ _ _ => True) hids
    (meets_of_labels (fun _ _ _ _ _ _ _ _ _ => trivial) _) hrun
  obtain ⟨later, earlier, hcut⟩ := List.append_of_mem he
  obtain ⟨t, hallowed, hknows⟩ := (hcut ▸ hw.lawful).at.allowed
  obtain ⟨sid, read, rfl, hsession⟩ := signedIn_of_completes hallowed ht
  exact ⟨sid, hsession, hknows⟩

theorem enrolled_by_owner_resetRun :
    ∃ s e, run (authStep sampleEnv sampleAuthAPI) (bootAuth recoveryAccounts) resetRun = some s ∧
      e ∈ s.shared.history ∧ e.tx.completes = some "a" ∧
      ∃ sid, e.origin.session = some sid ∧ e.before.HasSession sid "a" := by
  refine ⟨_, _, rfl, .tail _ (.head _), rfl, ?_⟩
  exact @enrolled_by_owner sampleEnv sampleAuthAPI "a" recoveryAccounts _ (by decide) resetRun _ rfl
    (.tail _ (.head _)) rfl

end SafetyRecorder.Auth
