import SafetyRecorder.Auth.Discipline
import SafetyRecorder.Lib.Journal

namespace SafetyRecorder.Auth

open Process Protocol Runs Journal

/-!
# Auth — the history of a run

Every committed transaction is recorded with the database before it and with what its
handler knew.

* `Entry.Commits` — the transition an entry stands for; the history leads from the first
  database to the present one;
* `Phase.Knows` — what a handler knows is true: its session is a row of its account, the
  password it replaced is the entry it remembers, the revocation was made;
* `During C` — a condition on the world in which a transaction is executed;
* `records_run` — **in every run** the history is a journal, identifiers are drawn in
  order, every entry was allowed by the discipline in a phase that knew the truth, and
  met the condition.
-/

variable {env : Env} {api : API} {w w' : World}

/-! ### The journal -/

/-- The transition an entry stands for. -/
def Entry.Commits (env : Env) (e : Entry) (db db' : AuthDB) : Prop :=
  db = e.before ∧ ∃ r, e.tx.run env e.draw db = .ok (r, db')

variable {db db' : AuthDB}

theorem Entry.Commits.effect {e : Entry} (h : e.Commits env db db') :
    Effect env e.draw db e.tx db' :=
  effect_of_run h.2.choose_spec

/-- An open session of the account was open before, or the transaction created it. -/
theorem openSession_origin {e : Entry} {sid accountID : String} (h : e.Commits env db db')
    (hopen : ∃ s ∈ db'.sessions, s.id = sid ∧ s.accountID = accountID ∧ s.revokedAt = none) :
    (∃ s ∈ db.sessions, s.id = sid ∧ s.accountID = accountID ∧ s.revokedAt = none) ∨
      ((∃ expiresAt, e.tx = .createSession accountID expiresAt) ∧
        sid = env.newID "ses" (e.draw.next + 1)) := by
  obtain ⟨s, hs, rfl, rfl, hrevoked⟩ := hopen
  rcases session_origin h.effect hs with ⟨s₀, hs₀, hcont, -⟩ | hopened
  · exact .inl ⟨s₀, hs₀, hcont.id, hcont.accountID, hcont.revokedAt hrevoked⟩
  · exact .inr ⟨hopened.tx, hopened.id⟩

theorem openSession_since {es : List Entry} {sid accountID : String}
    (h : Leads (Entry.Commits env) db es db')
    (hopen : ∃ s ∈ db'.sessions, s.id = sid ∧ s.accountID = accountID ∧ s.revokedAt = none) :
    (∃ s ∈ db.sessions, s.id = sid ∧ s.accountID = accountID ∧ s.revokedAt = none) ∨
      ∃ e ∈ es, (∃ expiresAt, e.tx = .createSession accountID expiresAt) ∧
        sid = env.newID "ses" (e.draw.next + 1) :=
  Leads.since (P := fun (db : AuthDB) sid =>
      ∃ s ∈ db.sessions, s.id = sid ∧ s.accountID = accountID ∧ s.revokedAt = none)
    (N := fun e sid => (∃ expiresAt, e.tx = .createSession accountID expiresAt) ∧
      sid = env.newID "ses" (e.draw.next + 1)) (fun _ _ _ _ hstep hopen => openSession_origin hstep hopen) h hopen

/-- The world in which the entry was committed, from the entries before it. -/
def Entry.world (e : Entry) (earlier : List Entry) : World :=
  ⟨e.before, e.draw.next, earlier⟩

/-- The entry numbered `n`, from the beginning. -/
def World.entryAt (w : World) (n : Nat) : Option Entry := w.history.reverse[n]?

/-- Entries keep their number. -/
theorem entryAt_commit {t : Tx} {o : Origin} {now : Time} {db' : AuthDB} {n : Nat} {e : Entry}
    (h : w.entryAt n = some e) : (w.commit t o now db').entryAt n = some e := by
  unfold World.entryAt World.commit
  rw [List.reverse_cons]
  exact List.getElem?_append_left (List.getElem?_eq_some_iff.mp h).1 |>.trans h

/-- The number of a new entry. -/
theorem entryAt_commit_self {t : Tx} {o : Origin} {now : Time} {db' : AuthDB} :
    (w.commit t o now db').entryAt w.history.length = some ⟨t, o, ⟨w.nextID, now⟩, w.db⟩ := by
  unfold World.entryAt World.commit
  rw [List.reverse_cons, List.getElem?_append_right (by simp)]
  simp

/-- A cut of the history keeps the numbers below it. -/
theorem entryAt_of_cut {later earlier : List Entry} (h : w.history = later ++ earlier) {n : Nat}
    (hn : n < earlier.length) : w.entryAt n = earlier.reverse[n]? := by
  rw [World.entryAt, h, List.reverse_append]
  exact List.getElem?_append_left (by simpa using hn)

/-! ### What a handler knows -/

/-- There is a session with this identifier, and it belongs to the account. -/
def AuthDB.HasSession (db : AuthDB) (sessionID accountID : String) : Prop :=
  ∃ s ∈ db.sessions, s.id = sessionID ∧ s.accountID = accountID

/-- The entry with this number replaced the password of the account. -/
def World.Updated (w : World) (accountID : String) (ticket : Nat) : Prop :=
  ∃ e hash, w.entryAt ticket = some e ∧ e.tx = .updateAccountPassword accountID hash

/-- After the update with this number its handler revoked the sessions of the account,
    except `kept`. -/
def World.Revoked (w : World) (accountID : String) (ticket : Nat) (kept : String) : Prop :=
  ∃ later r earlier, w.history = later ++ r :: earlier ∧
    r.tx = .revokeAccountSessions accountID kept ∧ r.origin.update = some ticket ∧
    ticket < earlier.length

/-- What a handler knows in a phase. -/
def Phase.Knows (w : World) : Phase → Prop
  | .start => True
  | .looked s => w.db.HasSession s.id s.accountID
  | .login _ _ => True
  | .signedIn s a _ => w.db.HasSession s a
  | .accepted s a _ _ => w.db.HasSession s a
  | .updated s a target ticket => w.db.HasSession s a ∧ w.Updated target ticket
  | .replaced s a target ticket kept =>
    w.db.HasSession s a ∧ w.Updated target ticket ∧ w.Revoked target ticket kept

theorem hasSession_effect {d : Draw} {t : Tx} {s a : String}
    (h : Effect env d db t db') (hs : db.HasSession s a) : db'.HasSession s a := by
  obtain ⟨x, hx, rfl, rfl⟩ := hs
  obtain ⟨x', hx', hid, haccount⟩ := session_kept h hx
  exact ⟨x', hx', hid.symm, haccount.symm⟩

variable {t : Phase} {ch : Choice}

/-- A call makes nothing false that a handler knows. -/
theorem Phase.Knows.exec {c : Call} {a : Answer c} (ht : t.Knows w)
    (h : exec env w c ch = some (a, w')) : t.Knows w' := by
  have hsession {s a : String} (hs : w.db.HasSession s a) : w'.db.HasSession s a := by
    rcases exec_cases h with ⟨x, o, r, db', -, hrun, rfl⟩ | ⟨hdb, -, -⟩
    · exact hasSession_effect (effect_of_run hrun) hs
    · exact hdb ▸ hs
  have hupdated {a : String} {n : Nat} (hn : w.Updated a n) : w'.Updated a n := by
    obtain ⟨e, hash, he, htx⟩ := hn
    rcases exec_cases h with ⟨x, o, r, db', -, -, rfl⟩ | ⟨-, hhistory, -⟩
    · exact ⟨e, hash, entryAt_commit he, htx⟩
    · exact ⟨e, hash, by rw [World.entryAt, hhistory]; exact he, htx⟩
  have hrevoked {a kept : String} {n : Nat} (hn : w.Revoked a n kept) : w'.Revoked a n kept := by
    obtain ⟨later, r, earlier, hcut, hrest⟩ := hn
    rcases exec_cases h with ⟨x, o, r', db', -, -, rfl⟩ | ⟨-, hhistory, -⟩
    · exact ⟨_ :: later, r, earlier, by rw [World.commit, hcut]; rfl, hrest⟩
    · exact ⟨later, r, earlier, hhistory ▸ hcut, hrest⟩
  cases t with
  | start => trivial
  | looked | signedIn | accepted => exact hsession ht
  | login => trivial
  | updated => exact ⟨hsession ht.1, hupdated ht.2⟩
  | replaced => exact ⟨hsession ht.1, hupdated ht.2.1, hrevoked ht.2.2⟩

/-- What a read adds to the knowledge of a handler. -/
theorem Phase.Knows.afterQuery {q : Query} {a : Reply q.Result}
    (ht : t.Knows w) (hallowed : t.Allowed api (.query q))
    (h : Auth.exec env w (.query q) ch = some (a, w')) : (t.afterQuery q a).Knows w' := by
  obtain ⟨rfl, hvalue⟩ := exec_query h
  obtain ⟨value, now, ticket⟩ := a
  cases t with
  | start =>
    cases q with
    | lookupSession token =>
      cases value with
      | error e => trivial
      | ok s =>
        have hs := lookupSession_ok (hvalue.resolve_right (by simp)).symm
        exact ⟨s, hs.1, rfl, rfl⟩
    | getAccountByUsername username => cases value <;> trivial
    | _ => trivial
  | looked s =>
    cases q with
    | getAccountByID accountID =>
      cases value with
      | error e => trivial
      | ok account =>
        have hread := getAccountByID_ok (hvalue.resolve_right (by simp)).symm
        obtain rfl : accountID = s.accountID := hallowed
        show w'.db.HasSession s.id account.id
        rw [hread.2]
        exact ht
    | _ => exact hallowed.elim
  | signedIn s acct read =>
    cases q with
    | getPendingTOTPSecondFactor | getActiveTOTPSecondFactor => cases value <;> exact ht
    | _ => exact ht
  | _ => exact hallowed.elim

/-- The account `UpdateAccountPassword` returns is the one it was asked to update. -/
theorem updateAccountPassword_ok {d : Draw} {accountID hash : String} {a : Account}
    (h : updateAccountPassword d accountID hash db = .ok (a, db')) : a.id = accountID := by
  simp only [updateAccountPassword, Checked.bind_ok, Checked.pure_ok, Prod.mk.injEq] at h
  obtain ⟨a', hread, rfl, -⟩ := h
  exact (getAccountByID_ok hread).2

/-- What a transaction adds to the knowledge of its handler. -/
theorem Phase.Knows.afterTx {x : Tx} {o : Origin} {a : Reply x.Result}
    (ht : t.Knows w) (hallowed : t.Allowed api (.tx x o))
    (h : Auth.exec env w (.tx x o) ch = some (a, w')) : (t.afterTx x o a).Knows w' := by
  have ht' := ht.exec h
  obtain ⟨value, now, ticket⟩ := a
  cases t with
  | start => exact ht'
  | looked | replaced => exact hallowed.elim
  | login => trivial
  | signedIn s acct read =>
    cases x with
    | activateTOTPSecondFactor | markTOTPSecondFactorUsed =>
      cases value with
      | error e => exact ht'
      | ok factor =>
        cases hcode : o.accepted with
        | none | some => simp only [Phase.afterTx, hcode]; exact ht'
    | updateAccountPassword accountID hash =>
      cases value with
      | error e => exact ht'
      | ok account =>
        obtain ⟨db', hrun, rfl, rfl⟩ := exec_tx_ok h rfl
        have hid : account.id = accountID := updateAccountPassword_ok hrun
        exact ⟨ht', _, hash, entryAt_commit_self, by rw [hid]⟩
    | _ => exact ht'
  | accepted s acct factorID code =>
    cases x with
    | markSessionSecondFactorVerified => exact ht'
    | _ => exact hallowed.elim
  | updated s acct target n =>
    cases x with
    | revokeAccountSessions accountID kept =>
      obtain ⟨rfl, rfl⟩ := hallowed
      cases value with
      | error e => exact ht'.1
      | ok _ =>
        obtain ⟨db', -, rfl, -⟩ := exec_tx_ok h rfl
        refine ⟨ht'.1, ht'.2, [], _, w.history, rfl, rfl, rfl, ?_⟩
        obtain ⟨e, hash, he, -⟩ := ht.2
        simpa using (List.getElem?_eq_some_iff.mp he).1
    | _ => exact hallowed.elim

theorem Phase.Knows.next {c : Call} {a : Answer c} (ht : t.Knows w)
    (hallowed : t.Allowed api c) (h : Auth.exec env w c ch = some (a, w')) :
    (t.next c a).Knows w' := by
  cases c with
  | query q => exact ht.afterQuery hallowed h
  | tx x o => exact ht.afterTx hallowed h
  | timeNow =>
    have ht' := ht.exec h
    cases t <;> exact ht'

/-! ### The invariant -/

/-- A condition on the world in which a transaction is executed. -/
def During (C : World → Tx → Origin → Prop) (s : AuthServer) (l : Label Request Choice) : Prop :=
  ∀ pid ch t o, l = .step pid ch → s.nextCall pid = some (.tx t o) → C s.shared t o

/-- Test a condition on transactions at a step. -/
def duringTest (c : World → Tx → Origin → Bool) (s : AuthServer) : Label Request Choice → Bool
  | .step pid _ =>
    match s.nextCall pid with
    | some (.tx t o) => c s.shared t o
    | _ => true
  | _ => true

theorem during_of_test {c : World → Tx → Origin → Bool} {C : World → Tx → Origin → Prop}
    (hc : ∀ w t o, c w t o = true → C w t o) {s : AuthServer} {l : Label Request Choice}
    (h : duringTest c s l = true) : During C s l := by
  rintro pid ch t o rfl hnext
  simp only [duringTest, hnext] at h
  exact hc _ t o h

/-- What is known of an entry: the tables before it were sound, it drew other identifiers
    than those before it, the discipline allowed it in a phase that knew the truth, and it
    met the condition. -/
structure Entry.Lawful (api : API) (C : World → Tx → Origin → Prop) (e : Entry)
    (earlier : List Entry) : Prop where
  sound : Sound e.before
  drawn : ∀ e' ∈ earlier, e'.draw.next + Tx.draws ≤ e.draw.next
  allowed : ∃ t : Phase, t.Allowed api (.tx e.tx e.origin) ∧ t.Knows (e.world earlier)
  cond : C (e.world earlier) e.tx e.origin

/-- The history of a world. -/
structure Records (env : Env) (api : API) (C : World → Tx → Origin → Prop)
    (accounts : List Account) (w : World) : Prop where
  sound : Sound w.db
  leads : Leads (Entry.Commits env) { accounts := accounts } w.history w.db
  drawn : ∀ e ∈ w.history, e.draw.next + Tx.draws ≤ w.nextID
  lawful : Each (Entry.Lawful api C) w.history

variable {C : World → Tx → Origin → Prop} {accounts : List Account}

/-- A call that the discipline allows keeps the records. -/
theorem Records.exec (hw : Records env api C accounts w) {c : Call}
    {a : Answer c} (hallowed : t.Allowed api c) (ht : t.Knows w)
    (hC : ∀ x o, c = .tx x o → C w x o) (h : exec env w c ch = some (a, w')) :
    Records env api C accounts w' := by
  rcases exec_cases h with ⟨x, o, r, db', rfl, hrun, rfl⟩ | ⟨hdb, hhistory, hnext⟩
  · refine ⟨sound_effect hw.sound (effect_of_run hrun), ⟨w.db, hw.leads, rfl, r, hrun⟩, ?_,
      ⟨hw.sound, hw.drawn, ⟨t, hallowed, ht⟩, hC x o rfl⟩, hw.lawful⟩
    intro e he
    rcases List.mem_cons.mp he with rfl | he
    · exact Nat.le_refl _
    · exact (hw.drawn e he).trans (Nat.le_add_right _ _)
  · refine ⟨hdb ▸ hw.sound, ?_, ?_, hhistory ▸ hw.lawful⟩
    · rw [hdb, hhistory]
      exact hw.leads
    · intro e he
      exact (hw.drawn e (hhistory ▸ he)).trans hnext

/-- **The history of every run.** -/
theorem records_run (hids : (accounts.map (·.id)).Nodup) {ls : List (Label Request Choice)}
    {s : AuthServer} (hC : Meets (authStep env api) (During C) (bootAuth accounts) ls)
    (hrun : run (authStep env api) (bootAuth accounts) ls = some s) :
    Records env api C accounts s.shared ∧
      Sys.Located (discipline api) Answers (fun w t _ => t.Knows w) s := by
  have hstable : Sys.Stable (discipline api) Answers (main api) (exec env) (fun _ => Phase.start)
      (During C) (Records env api C accounts) (fun w t _ => t.Knows w) := by
    refine ⟨main_follows, fun _ _ _ => trivial, ?_, ?_, ?_⟩
    -- the call is recorded with the phase of its process
    · intro s pid t c ch a w' hG ht hcall
      refine hG.exec hcall.allowed ht ?_ hcall.exec
      rintro x o rfl
      exact hcall.cond pid ch x o rfl (Sys.nextCall_eq_some.mpr hcall.proc)
    -- the process learns from the answer, the others forget nothing
    · intro s pid t c ch a w' hG ht hcall _ _
      exact ht.next hcall.allowed hcall.exec
    · intro s pid t c ch a w' hG ht hcall pid' t' p' _ _ _ ht'
      exact ht'.exec hcall.exec
  have hboot : Records env api C accounts (bootWorld accounts) :=
    ⟨sound_accounts hids, rfl, by simp [bootWorld], trivial⟩
  exact Sys.located_run hstable hboot hC hrun

/-- Entries draw different identifiers. -/
theorem nodup_draws {es : List Entry} (h : Each (Entry.Lawful api C) es) :
    (es.map (·.draw.next)).Nodup := by
  induction es with
  | nil => exact List.nodup_nil
  | cons e es ih =>
    refine List.nodup_cons.mpr ⟨?_, ih h.2⟩
    intro hmem
    obtain ⟨e', he', heq : e'.draw.next = e.draw.next⟩ := List.mem_map.mp hmem
    have hlower : e'.draw.next + Tx.draws ≤ e.draw.next := h.1.drawn e' he'
    have hpositive : 0 < Tx.draws := by decide
    omega

/-- **The entry that created a session** is known by the identifier of the session. -/
theorem Records.entry_unique (hw : Records env api C accounts w) {c c' : Entry}
    (hc : c ∈ w.history) (hc' : c' ∈ w.history)
    (hid : env.newID "ses" (c.draw.next + 1) = env.newID "ses" (c'.draw.next + 1)) : c = c' := by
  have hdraw : c.draw.next + 1 = c'.draw.next + 1 := env.newID_inj hid
  exact Table.eq_of_key (k := fun e : Entry => e.draw.next) (nodup_draws hw.lawful) hc hc'
    (Nat.succ.inj hdraw)

end SafetyRecorder.Auth
