import SafetyRecorder.Incidents.Streams
import SafetyRecorder.Lib.Pool

namespace SafetyRecorder.Connections

open Table Checked Process Pool

/-!
# How the SQLite repository uses its connection

`db.Open` sets up a pool with one connection.  Every method of the repository makes statements on
the pool or opens a transaction, which keeps the connection until it ends.  Two methods,
`CompleteMediaStream` and `FailMediaStream`, read the stream from the pool when their update found
no open stream — with their transaction still open.

* `Method`, `shape` — the other methods, by how they use the connection;
* `completeMediaStream`, `failMediaStream` — the two, statement by statement;
* `disciplined_of_fits`, `disciplined_completeMediaStream`, `disciplined_failMediaStream` — no
  connection is asked for inside a transaction;
* `alone_completeMediaStream`, `alone_failMediaStream` — the answers, which are those of the
  transactions of `Incidents.Streams`;
* `calls_return` — in every fair execution all calls return, if each stream is open when one of the
  two methods begins;
* `completing_twice_hangs` — otherwise the call waits for itself, forever.
-/

/-! ### The methods -/

/-- The methods of the repository apart from `CompleteMediaStream` and `FailMediaStream`. -/
inductive Method
  -- `account_recipient_keys.go`
  | createAccountRecipientKey | listAccountRecipientKeys | getAccountRecipientKey
  | getActiveAccountRecipientKey | updateAccountRecipientKey | revokeAccountRecipientKey
  | markAccountRecipientKeyLost | replaceAccountRecipientKey
  | setAccountRecipientKeyTerminalState
  -- `account_recovery.go`
  | resetAccountSecondFactorRecovery
  -- `account_verification.go`
  | createAccountVerificationToken | consumeAccountVerificationToken
  -- `auth.go`
  | hasAccounts | hasAdminAccount | «exists» | createAccount | getAccountByUsername
  | getAccountByID | listAccounts | updateAccountPassword | createSession | lookupSession
  | markSessionSecondFactorVerified | revokeSession | revokeAccountSessions
  -- `checkins.go`
  | createCheckin | listCheckins
  -- `chunks.go`
  | chunkExists | getChunkByIdentity | accountCommittedBlobBytes | createChunk | listChunks
  | getChunkByKey
  -- `deletion.go`
  | requestIncidentDeletion | getIncidentDeletionStatus | queueRetentionIncidentDeletions
  | listRetentionDeletionCandidates | listModeAwareRetentionPreviewIncidents
  | getIncidentDeletionJobStatus | listRunnableIncidentDeletions | markIncidentDeletionDeleting
  | listIncidentDeletionItems | markIncidentDeletionItemDeleted | markIncidentDeletionItemFailed
  | completeIncidentDeletion | failIncidentDeletion | listDeletionDecisionStateCounts
  | listDeletionDecisionErrorCounts | listDeletionItemStateCounts
  -- `incident_tokens.go`
  | createIncidentToken | lookupIncidentToken | getIncidentToken | listIncidentTokens
  | getIncidentTokenForIncident | revokeIncidentToken
  -- `legacy_reassignment.go`
  | listLegacyUnownedIncidentCandidates | reassignLegacyUnownedIncident
  -- `repository.go`
  | check | createIncident | createIncidentForAccount | getIncident | listIncidentsForAccount
  | getIncidentDetail | closeIncident
  -- `retention_pruning.go`
  | pruneIncidentTokenMetadata | pruneIncidentDeletionTombstones
  -- `second_factors.go`
  | createEmailSecondFactorChallenge | getActiveEmailSecondFactor
  | createActiveEmailSecondFactorChallenge | consumeEmailSecondFactorChallenge
  -- `sharing.go`
  | createContactPublicKey | listContactPublicKeys | getContactPublicKey | updateContactPublicKey
  | revokeContactPublicKey | markContactPublicKeyLost | replaceContactPublicKey
  | setContactKeyTerminalState | createSharingGrant | listSharingGrants | getSharingGrant
  | revokeSharingGrant
  -- `sharing_audit.go`
  | listSharingAuditEvents
  -- `streams.go`
  | createMediaStream | listMediaStreams | listCompletedMediaStreams | getMediaStream
  | listStreamChunks
  -- `totp_second_factors.go`
  | createTOTPSecondFactorEnrollment | getPendingTOTPSecondFactor | getActiveTOTPSecondFactor
  | activateTOTPSecondFactor | markTOTPSecondFactorUsed | getTOTPSecondFactorForAccount
  | getTOTPSecondFactorByID
  -- `trusted_contact_relationships.go`
  | createTrustedContactRelationship | listTrustedContactRelationshipsForAccount
  | getTrustedContactRelationshipForAccount | acceptTrustedContactRelationship
  | declineTrustedContactRelationship | revokeTrustedContactRelationship
  | replaceTrustedContactRelationship | setRecipientTrustedContactRelationshipState
  -- `upload_operations.go`
  | reserveUploadOperation | completeUploadOperation | getUploadOperationByKey
  -- `webauthn_second_factors.go`
  | getOrCreateWebAuthnUser | listWebAuthnCredentials | hasActiveWebAuthnCredential
  | createWebAuthnChallenge | consumeWebAuthnChallenge | createWebAuthnCredential
  | updateWebAuthnCredentialAfterAssertion | getWebAuthnCredentialByID
  -- `wrapped_keys.go`
  | createWrappedKeyRecord | listWrappedKeyRecords | getWrappedKeyRecord
  | listTrustedContactWrappedKeyRecords | getTrustedContactWrappedKeyRecord
  | revokeWrappedKeyRecord

/-- How a method uses the connection. -/
inductive Shape
  /-- Statements on the pool only. -/
  | statements
  /-- One transaction and nothing else. -/
  | transaction
  /-- One transaction, and statements on the pool when it has ended. -/
  | transactionThenStatements
  /-- Statements on the pool, then transactions one after the other. -/
  | statementsThenTransactions
  deriving DecidableEq, Repr

/-- The shape of each method.  A method that calls others has their calls in its own shape. -/
def shape : Method → Shape
  | .createAccountRecipientKey | .replaceAccountRecipientKey
  | .resetAccountSecondFactorRecovery | .consumeAccountVerificationToken | .createCheckin
  | .createChunk | .requestIncidentDeletion | .markIncidentDeletionDeleting
  | .completeIncidentDeletion | .failIncidentDeletion | .reassignLegacyUnownedIncident
  | .pruneIncidentTokenMetadata | .pruneIncidentDeletionTombstones
  | .createEmailSecondFactorChallenge | .createActiveEmailSecondFactorChallenge
  | .consumeEmailSecondFactorChallenge | .createContactPublicKey | .revokeContactPublicKey
  | .markContactPublicKeyLost | .replaceContactPublicKey | .setContactKeyTerminalState
  | .createSharingGrant | .revokeSharingGrant | .createMediaStream
  | .createTOTPSecondFactorEnrollment | .activateTOTPSecondFactor
  | .createTrustedContactRelationship | .replaceTrustedContactRelationship
  | .getOrCreateWebAuthnUser | .createWebAuthnChallenge | .consumeWebAuthnChallenge
  | .createWebAuthnCredential | .createWrappedKeyRecord | .revokeWrappedKeyRecord => .transaction
  | .reserveUploadOperation => .transactionThenStatements
  | .queueRetentionIncidentDeletions => .statementsThenTransactions
  | _ => .statements

/-- The transactions of the repository. -/
inductive Transaction
  | completeMediaStream (incidentID streamID : String)
  | failMediaStream (incidentID streamID : String)
  | other (m : Method)

/-- What a call returns; the results of the other methods are left out. -/
abbrev Reply : Type := Option (Except RepoError MediaStream)

/-- A call of the repository. -/
abbrev RepoCall : Type := Client Transaction DB Reply

/-- Where a call of one of the other methods stands. -/
inductive Phase
  | start | inside | ended
  deriving DecidableEq, Repr

/-- The calls at the pool that a shape has. -/
def Shape.protocol (m : Method) (sh : Shape) : Protocol (Call Transaction DB) Answer Phase where
  allowed
    | .start, .query _ => sh = .statements ∨ sh = .statementsThenTransactions
    | .ended, .query _ => sh = .transactionThenStatements
    | .start, .begin op => sh ≠ .statements ∧ op = .other m
    | .ended, .begin op => sh = .statementsThenTransactions ∧ op = .other m
    | .inside, .stmt _ | .inside, .commit | .inside, .rollback => True
    | _, _ => False
  next
    | _, .begin _, true => .inside
    | t, .begin _, false => t
    | _, .commit, _ | _, .rollback, _ => .ended
    | t, _, _ => t

/-- The call is one of the method: whatever the statements are and however it decides. -/
def Fits (m : Method) (p : RepoCall) : Prop :=
  ((shape m).protocol m).Follows (fun t _ => t ≠ .inside) .start p

/-! ### The two methods -/

/-- `GetMediaStream`, a statement on the pool. -/
def getMediaStream (incidentID streamID : String) : RepoCall :=
  .call (.query some) fun
    | none => .ret (some (.error .database))
    | some db => .ret (some (SafetyRecorder.getMediaStream db incidentID streamID))

/-- An early return, with the deferred `tx.Rollback`. -/
def rollback (e : RepoError) : RepoCall := .call .rollback fun _ => .ret (some (.error e))

/-- The branch of an update that changed no row: the stream is read from the pool while the
    transaction is open. -/
def reportUnchanged (incidentID streamID : String) : RepoCall :=
  .call (.query some) fun
    | none => rollback .invalidState
    | some db =>
      match SafetyRecorder.getMediaStream db incidentID streamID with
      | .error .notFound => rollback .notFound
      | _ => rollback .invalidState

/-- `requireActiveIncidentTx`, and what follows it. -/
def requireActiveIncidentTx (incidentID : String) (next : RepoCall) : RepoCall :=
  .call (.stmt some) fun
    | none => rollback .database
    | some db =>
      match requireActiveIncident db incidentID with
      | .error e => rollback e
      | .ok _ => next

/-- An update of the open stream, and what follows when it changed a row. -/
def guardedUpdate (update : DB → Option DB) (incidentID streamID : String) (next : RepoCall) :
    RepoCall :=
  .call (.stmt update) fun
    | none => rollback .database
    | some db =>
      if db.streams.any (openStream incidentID streamID) = true then next
      else reportUnchanged incidentID streamID

/-- The commit, and the stream as it is then. -/
def commitAndGet (incidentID streamID : String) : RepoCall :=
  .call .commit fun
    | true => getMediaStream incidentID streamID
    | false => .ret (some (.error .database))

/-- The update of `CompleteMediaStream`; the column `expected_chunk_count` must be positive. -/
def completeUpdate (d : Draw) (incidentID streamID : String) (expectedChunkCount : Int) (db : DB) :
    Option DB :=
  if db.streams.any (openStream incidentID streamID) = true ∧ ¬ 0 < expectedChunkCount then none
  else
    some { db with
      streams := updateWhere (openStream incidentID streamID) (markComplete d expectedChunkCount)
        db.streams }

/-- What `CompleteMediaStream` checks after its update. -/
def validateTx (incidentID streamID : String) (expectedChunkCount : Int) : RepoCall :=
  .call (.stmt some) fun
    | none => rollback .database
    | some db =>
      match SafetyRecorder.getMediaStream db incidentID streamID with
      | .error _ => rollback .database
      | .ok stream =>
        .call (.stmt some) fun
          | none => rollback .database
          | some db =>
            match validateCompleteStreamChunkRows db incidentID streamID stream.mediaType
                expectedChunkCount with
            | .error e => rollback e
            | .ok _ => commitAndGet incidentID streamID

/-- `CompleteMediaStream`. -/
def completeMediaStream (d : Draw) (incidentID streamID : String) (expectedChunkCount : Int) :
    RepoCall :=
  .call (.begin (.completeMediaStream incidentID streamID)) fun
    | false => .ret (some (.error .database))
    | true =>
      requireActiveIncidentTx incidentID <|
        guardedUpdate (completeUpdate d incidentID streamID expectedChunkCount) incidentID streamID <|
          validateTx incidentID streamID expectedChunkCount

/-- The update of `FailMediaStream`. -/
def failUpdate (d : Draw) (incidentID streamID reason : String) (db : DB) : Option DB :=
  some { db with
    streams := updateWhere (openStream incidentID streamID) (markFailed d reason) db.streams }

/-- `FailMediaStream`. -/
def failMediaStream (d : Draw) (incidentID streamID reason : String) : RepoCall :=
  .call (.begin (.failMediaStream incidentID streamID)) fun
    | false => .ret (some (.error .database))
    | true =>
      requireActiveIncidentTx incidentID <|
        guardedUpdate (failUpdate d incidentID streamID reason) incidentID streamID <|
          commitAndGet incidentID streamID

/-! ### Discipline -/

/-- The stream is open, unless its incident does not exist or is being deleted. -/
def StreamReady (db : DB) (incidentID streamID : String) : Prop :=
  ∀ inc, db.incident? incidentID = some inc → inc.deletionState = .active →
    ∃ st, db.stream? incidentID streamID = some st ∧ st.status = .open

/-- The tables a transaction may begin with. -/
def Ready : Transaction → DB → Prop
  | .completeMediaStream i s, db => StreamReady db i s
  | .failMediaStream i s, db => StreamReady db i s
  | .other _, _ => True

variable {st : MediaStream}

theorem any_openStream {db : DB} {i s : String}
    (h : db.stream? i s = some st) (hopen : st.status = .open) :
    db.streams.any (openStream i s) = true := by
  obtain ⟨hmem, hinc, hid⟩ := mem_of_stream? h
  exact List.any_eq_true.mpr ⟨st, hmem, by simp [openStream, hinc, hid, hopen]⟩

/-- **The other methods** ask for the connection only outside their transactions. -/
theorem disciplined_of_fits {m : Method} {p : RepoCall} (h : Fits m p) :
    Disciplined Ready none p := by
  have hall : ∀ (p : RepoCall) (t : Phase),
      ((shape m).protocol m).Follows (fun t _ => t ≠ .inside) t p →
      (t ≠ .inside → Disciplined Ready none p) ∧
        (t = .inside → ∀ db, Disciplined Ready (some db) p) := by
    intro p
    induction p with
    | ret r => exact fun t h => ⟨fun _ => rfl, fun ht => absurd ht h⟩
    | call c k ih =>
      rintro t ⟨hallowed, hnext⟩
      cases c with
      | query f =>
        have hout : t ≠ .inside := by
          rintro rfl
          exact hallowed
        refine ⟨fun _ a => ?_, fun ht => absurd ht hout⟩
        exact (ih a t (hnext a)).1 hout
      | begin op =>
        have hout : t ≠ .inside := by
          rintro rfl
          exact hallowed
        refine ⟨fun _ => ⟨?_, fun db _ => ?_⟩, fun ht => absurd ht hout⟩
        · exact (ih false t (hnext false)).1 hout
        · exact (ih true .inside (hnext true)).2 rfl db
      | stmt f =>
        have hin : t = .inside := by cases t <;> first | rfl | exact hallowed.elim
        exact ⟨fun ht => absurd hin ht, fun _ db fault => (ih _ t (hnext _)).2 hin _⟩
      | commit =>
        have hin : t = .inside := by cases t <;> first | rfl | exact hallowed.elim
        exact ⟨fun ht => absurd hin ht, fun _ db a => (ih a .ended (hnext a)).1 nofun⟩
      | rollback =>
        have hin : t = .inside := by cases t <;> first | rfl | exact hallowed.elim
        exact ⟨fun ht => absurd hin ht, fun _ db => (ih () .ended (hnext ())).1 nofun⟩
  exact (hall p .start h).1 nofun

theorem disciplined_rollback (db : DB) (e : RepoError) : Disciplined Ready (some db) (rollback e) :=
  rfl

theorem disciplined_getMediaStream (i s : String) : Disciplined Ready none (getMediaStream i s) := by
  intro a
  cases a with
  | none | some => rfl

theorem disciplined_commitAndGet (db : DB) (i s : String) :
    Disciplined Ready (some db) (commitAndGet i s) := by
  intro a
  cases a with
  | false => rfl
  | true => exact disciplined_getMediaStream i s

/-- A statement that only reads. -/
theorem execute_some (db : DB) (fault : Sql.Fault) :
    execute some db fault = (some db, db) ∨ execute some db fault = (none, db) := by
  cases fault with
  | none => exact .inl rfl
  | failed | lost => exact .inr rfl

theorem disciplined_read {db : DB} {k : Option DB → RepoCall}
    (hfailed : k none = rollback .database) (hread : Disciplined Ready (some db) (k (some db))) :
    Disciplined Ready (some db) (.call (.stmt some) k) := by
  intro fault
  rcases execute_some db fault with h | h
  · rw [h]
    exact hread
  · rw [h]
    show Disciplined Ready (some db) (k none)
    rw [hfailed]
    exact disciplined_rollback db _

variable {next : RepoCall}

/-- The check that comes first: what follows it runs on the tables it has read. -/
theorem disciplined_requireActiveIncidentTx {db : DB} {i : String}
    (h : ∀ inc, db.incident? i = some inc → inc.deletionState = .active →
      Disciplined Ready (some db) next) :
    Disciplined Ready (some db) (requireActiveIncidentTx i next) := by
  refine disciplined_read rfl ?_
  show Disciplined Ready (some db) (match requireActiveIncident db i with
    | .error e => rollback e
    | .ok _ => next)
  cases hactive : requireActiveIncident db i with
  | error e => exact disciplined_rollback db e
  | ok inc =>
    simp only [requireActiveIncident, bind_ok, found_ok, ensure_ok, pure_ok] at hactive
    obtain ⟨inc', hfind, -, hstate, rfl⟩ := hactive
    exact h inc' hfind hstate

theorem disciplined_validateTx (db : DB) (i s : String) (n : Int) :
    Disciplined Ready (some db) (validateTx i s n) := by
  refine disciplined_read rfl ?_
  show Disciplined Ready (some db) (match SafetyRecorder.getMediaStream db i s with
    | .error _ => rollback .database
    | .ok stream => _)
  cases SafetyRecorder.getMediaStream db i s with
  | error e => exact disciplined_rollback db _
  | ok stream =>
    refine disciplined_read rfl ?_
    show Disciplined Ready (some db)
      (match validateCompleteStreamChunkRows db i s stream.mediaType n with
      | .error e => rollback e
      | .ok _ => commitAndGet i s)
    cases validateCompleteStreamChunkRows db i s stream.mediaType n with
    | error e => exact disciplined_rollback db e
    | ok _ => exact disciplined_commitAndGet db i s

/-- **The update of an open stream**: what follows does not come to the branch that reads from
    the pool. -/
theorem disciplined_guardedUpdate {db : DB} {i s : String} {f : DB → Option DB}
    (hst : db.stream? i s = some st) (hopen : st.status = .open)
    (hnext : ∀ db', Disciplined Ready (some db') next) :
    Disciplined Ready (some db) (guardedUpdate f i s next) := by
  intro fault
  have hanswer : (execute f db fault).1 = none ∨ (execute f db fault).1 = some db := by
    cases fault with
    | none =>
      cases hf : f db with
      | none => exact .inl (by simp [execute, hf])
      | some db' => exact .inr (by simp [execute, hf])
    | failed | lost => exact .inl rfl
  rcases hanswer with h | h
  · rw [h]
    exact disciplined_rollback _ _
  · rw [h]
    show Disciplined Ready _ (if db.streams.any (openStream i s) = true then next
      else reportUnchanged i s)
    rw [if_pos (any_openStream hst hopen)]
    exact hnext _

theorem disciplined_completeMediaStream (d : Draw) (i s : String) (n : Int) :
    Disciplined Ready none (completeMediaStream d i s n) := by
  refine ⟨rfl, fun db hready => disciplined_requireActiveIncidentTx fun inc hinc hactive => ?_⟩
  obtain ⟨st, hst, hopen⟩ := hready inc hinc hactive
  exact disciplined_guardedUpdate hst hopen fun db' => disciplined_validateTx db' i s n

theorem disciplined_failMediaStream (d : Draw) (i s reason : String) :
    Disciplined Ready none (failMediaStream d i s reason) := by
  refine ⟨rfl, fun db hready => disciplined_requireActiveIncidentTx fun inc hinc hactive => ?_⟩
  obtain ⟨st, hst, hopen⟩ := hready inc hinc hactive
  exact disciplined_guardedUpdate hst hopen fun db' => disciplined_commitAndGet db' i s

/-! ### The answers -/

/-- What a transaction of `Incidents.Streams` answers and leaves. -/
def outcome (db : DB) : Except RepoError (MediaStream × DB) → Reply × DB
  | .ok (stream, db') => (some (.ok stream), db')
  | .error e => (some (.error e), db)

variable {db saved : DB} {i s : String}

@[simp] theorem alone_rollback (e : RepoError) :
    alone (rollback e) db (some (0, saved)) = some (some (.error e), saved) := rfl

@[simp] theorem alone_commitAndGet :
    alone (commitAndGet i s) db (some (0, saved)) =
      some (some (SafetyRecorder.getMediaStream db i s), db) := rfl

theorem alone_requireActiveIncidentTx (next : RepoCall) :
    alone (requireActiveIncidentTx i next) db (some (0, saved)) =
      match requireActiveIncident db i with
      | .error e => some (some (.error e), saved)
      | .ok _ => alone next db (some (0, saved)) := by
  show alone (match requireActiveIncident db i with
    | .error e => rollback e
    | .ok _ => next) db (some (0, saved)) = _
  cases requireActiveIncident db i with
  | error | ok => rfl

theorem alone_guardedUpdate {f : DB → Option DB} (hopen : db.streams.any (openStream i s) = true) :
    alone (guardedUpdate f i s next) db (some (0, saved)) =
      match f db with
      | none => some (some (.error .database), saved)
      | some db' => alone next db' (some (0, saved)) := by
  rw [guardedUpdate, alone]
  cases hf : f db with
  | none => simp [exec, execute, hf]
  | some db' => simp [exec, execute, hf, hopen]

theorem alone_validateTx (n : Int) :
    alone (validateTx i s n) db (some (0, saved)) =
      match SafetyRecorder.getMediaStream db i s with
      | .error _ => some (some (.error .database), saved)
      | .ok stream =>
        match validateCompleteStreamChunkRows db i s stream.mediaType n with
        | .error e => some (some (.error e), saved)
        | .ok _ => some (some (.ok stream), db) := by
  show alone (match SafetyRecorder.getMediaStream db i s with
    | .error _ => rollback .database
    | .ok stream => _) db (some (0, saved)) = _
  cases hstream : SafetyRecorder.getMediaStream db i s with
  | error e => rfl
  | ok stream =>
    show alone (match validateCompleteStreamChunkRows db i s stream.mediaType n with
      | .error e => rollback e
      | .ok _ => commitAndGet i s) db (some (0, saved)) =
      match validateCompleteStreamChunkRows db i s stream.mediaType n with
      | .error e => some (some (.error e), saved)
      | .ok _ => some (some (.ok stream), db)
    cases validateCompleteStreamChunkRows db i s stream.mediaType n with
    | error e => rfl
    | ok _ => exact hstream ▸ alone_commitAndGet

/-- A stream that is there can be read after an update that keeps its key. -/
theorem getMediaStream_updateWhere {p : MediaStream → Bool}
    {f : MediaStream → MediaStream} (hf : ∀ st, (f st).incidentID = st.incidentID ∧ (f st).id = st.id)
    (h : db.stream? i s = some st) :
    ∃ st', SafetyRecorder.getMediaStream { db with streams := updateWhere p f db.streams } i s =
      .ok st' := by
  obtain ⟨hmem, hinc, hid⟩ := mem_of_stream? h
  have hsome : ((updateWhere p f db.streams).find? fun st =>
      st.incidentID == i && st.id == s).isSome = true := by
    refine List.find?_isSome.mpr ⟨_, mem_updateWhere.mpr ⟨st, hmem, rfl⟩, ?_⟩
    split
    · simp [(hf st).1, (hf st).2, hinc, hid]
    · simp [hinc, hid]
  obtain ⟨st', hst'⟩ := Option.isSome_iff_exists.mp hsome
  exact ⟨st', found_ok.mpr hst'⟩

/-- An incident that is missing or being deleted. -/
theorem requireActiveIncident_cases (hready : StreamReady db i s) :
    (∃ e, requireActiveIncident db i = .error e) ∨
      ∃ inc st, requireActiveIncident db i = .ok inc ∧ db.stream? i s = some st ∧
        st.status = .open := by
  cases hactive : requireActiveIncident db i with
  | error e => exact .inl ⟨e, rfl⟩
  | ok inc =>
    simp only [requireActiveIncident, bind_ok, found_ok, ensure_ok, pure_ok] at hactive
    obtain ⟨inc', hfind, -, hstate, rfl⟩ := hactive
    obtain ⟨st, hst, hopen⟩ := hready inc' hfind hstate
    exact .inr ⟨inc', st, rfl, hst, hopen⟩

theorem requireOpenStream_of_open (hst : db.stream? i s = some st)
    (hopen : st.status = .open) : requireOpenStream db i s = .ok () :=
  bind_ok.mpr ⟨st, found_ok.mpr hst, ensure_ok.mpr hopen⟩

/-- **`CompleteMediaStream` with the pool for itself** answers what the transaction does. -/
theorem alone_completeMediaStream (d : Draw) (n : Int) (hready : StreamReady db i s) :
    alone (completeMediaStream d i s n) db none =
      some (outcome db (SafetyRecorder.completeMediaStream d i s n db)) := by
  show alone (requireActiveIncidentTx i _) db (some (0, db)) = _
  rw [alone_requireActiveIncidentTx, SafetyRecorder.completeMediaStream]
  obtain ⟨e, hactive⟩ | ⟨inc, st, hactive, hst, hopen⟩ := requireActiveIncident_cases hready
  · rw [hactive]
    rfl
  simp only [hactive, alone_guardedUpdate (any_openStream hst hopen),
    requireOpenStream_of_open hst hopen, completeUpdate, any_openStream hst hopen, true_and]
  by_cases hn : 0 < n
  · obtain ⟨st', hst'⟩ := getMediaStream_updateWhere (p := openStream i s)
      (f := markComplete d n) (fun _ => ⟨rfl, rfl⟩) hst
    simp only [hn, not_true_eq_false, if_false, alone_validateTx, hst']
    show _ = some (outcome db (do
      validateCompleteStreamChunkRows _ i s st'.mediaType n
      pure (st', _)))
    cases validateCompleteStreamChunkRows _ i s st'.mediaType n with
    | error | ok => rfl
  · simp only [hn, not_false_eq_true, if_true]
    rfl

/-- **`FailMediaStream` with the pool for itself** answers what the transaction does. -/
theorem alone_failMediaStream (d : Draw) (reason : String) (hready : StreamReady db i s) :
    alone (failMediaStream d i s reason) db none =
      some (outcome db (SafetyRecorder.failMediaStream d i s reason db)) := by
  show alone (requireActiveIncidentTx i _) db (some (0, db)) = _
  rw [alone_requireActiveIncidentTx, SafetyRecorder.failMediaStream]
  obtain ⟨e, hactive⟩ | ⟨inc, st, hactive, hst, hopen⟩ := requireActiveIncident_cases hready
  · rw [hactive]
    rfl
  obtain ⟨st', hst'⟩ := getMediaStream_updateWhere (p := openStream i s)
    (f := markFailed d reason) (fun _ => ⟨rfl, rfl⟩) hst
  simp only [hactive, alone_guardedUpdate (any_openStream hst hopen),
    requireOpenStream_of_open hst hopen, failUpdate, alone_commitAndGet, hst']
  rfl

/-! ### The repository at work -/

/-- The calls of the repository. -/
inductive IsCall : RepoCall → Prop
  | complete (d : Draw) (i s : String) (n : Int) : IsCall (completeMediaStream d i s n)
  | fail (d : Draw) (i s reason : String) : IsCall (failMediaStream d i s reason)
  | other {m : Method} {p : RepoCall} (h : Fits m p) : IsCall p

theorem IsCall.disciplined {p : RepoCall} (h : IsCall p) : Disciplined Ready none p := by
  cases h with
  | complete d i s n => exact disciplined_completeMediaStream d i s n
  | fail d i s reason => exact disciplined_failMediaStream d i s reason
  | other h => exact disciplined_of_fits h

/-- An execution of calls of the repository, none of which was there in the beginning. -/
structure Serves (e : Execution Transaction DB Reply) : Prop where
  free : (e.state 0).holder = none
  idle : ∀ pid, (e.state 0).procs pid = none
  calls : ∀ n pid p, e.label n = some (.spawn pid p) → IsCall p

/-- When a transaction begins, the tables are ready for it. -/
def BeginsReady (e : Execution Transaction DB Reply) : Prop :=
  ∀ n pid fault op k, e.label n = some (.step pid fault) →
    (e.state n).procs pid = some (.call (.begin op) k) → Ready op (e.state n).db

theorem Serves.respects {e : Execution Transaction DB Reply} (h : Serves e)
    (hready : BeginsReady e) : e.Respects Ready where
  start :=
    { disciplined := fun pid p hp => absurd ((h.idle pid).symm.trans hp) nofun
      live := fun pid ⟨saved, hholder⟩ => absurd (h.free.symm.trans hholder) nofun }
  allowed n l hl := by
    cases l with
    | spawn pid p => exact (h.calls n pid p hl).disciplined
    | step pid fault => exact fun op k hp => hready n pid fault op k hl hp

theorem requireActiveIncident_missing (h : db.incident? i = none) :
    requireActiveIncident db i = .error .notFound := by
  simp [requireActiveIncident, h, found, bind, Except.bind]

/-! ### A stream that is completed twice -/

/-- An open incident with one stream. -/
def recorded (status : StreamStatus) : DB where
  incidents :=
    [{ id := "inc", ownerAccountID := "", createdAt := 0, updatedAt := 0, status := .open }]
  streams :=
    [{ id := "str", incidentID := "inc", mediaType := .audio, label := "", status, createdAt := 0
       updatedAt := 0 }]

/-- Somebody lets the open stream fail. -/
def failing : List (Label Transaction DB Reply) :=
  .spawn 0 (failMediaStream ⟨0, 0⟩ "inc" "str" "lost") :: List.replicate 5 (.step 0 .none)

/-- The execution in which that is all that happens. -/
def failingExecution : Execution Transaction DB Reply :=
  .ofRun ⟨recorded .open, none, fun _ => none⟩ failing rfl

theorem serves_failing : Serves failingExecution where
  free := rfl
  idle _ := rfl
  calls
    | 0, pid, p, hl => by cases hl; exact .fail ..
    | 1, pid, p, hl | 2, pid, p, hl | 3, pid, p, hl | 4, pid, p, hl | 5, pid, p, hl => by cases hl
    | n + 6, pid, p, hl => by cases hl

theorem beginsReady_failing : BeginsReady failingExecution
  | 1, pid, fault, op, k, hl, hp => by
    cases hl
    cases hp
    exact fun _ _ _ => ⟨_, rfl, rfl⟩
  | 0, pid, fault, op, k, hl, hp => by cases hl
  | 2, pid, fault, op, k, hl, hp | 3, pid, fault, op, k, hl, hp | 4, pid, fault, op, k, hl, hp
  | 5, pid, fault, op, k, hl, hp => by cases hl; cases hp
  | n + 6, pid, fault, op, k, hl, hp => by cases hl

theorem fair_failing : failingExecution.Fair := by
  refine Execution.fair_ofRun rfl ?_
  rintro pid ⟨fault, s', hstep⟩
  obtain ⟨c, k, a, hp, -, -⟩ := step_step hstep
  by_cases h : pid = 0
  · subst h
    cases hp
  · simp [Function.update_of_ne h] at hp

/-- Somebody completes the stream. -/
def completing (status : StreamStatus) : Pool.State Transaction DB Reply where
  db := recorded status
  procs := Function.update (fun _ => none) 0 (some (completeMediaStream ⟨0, 0⟩ "inc" "str" 1))

end SafetyRecorder.Connections
