import SafetyRecorder.Server.Sample
import SafetyRecorder.Sharing.Discipline

namespace SafetyRecorder.Sharing

open Process Runs Sql

/-!
# Sharing — terminal states are final

A key that is replaced, revoked or lost, and a relationship that is declined, revoked or
replaced, keeps its state in both repositories, unless another request commits a write to
the row between the read and the `UPDATE` of `UpdateContactPublicKey`,
`UpdateAccountRecipientKey`, `setAccountRecipientKeyTerminalState` or
`RevokeTrustedContactRelationship`: these two are separate statements, and the `UPDATE`
does not look at the state.

* `sqliteStep`, `postgresStep` — one statement or transaction of the SQLite repository, one
  statement of the PostgreSQL repository, of any number of concurrent requests;
* `terminal_keys_final`, `terminal_relationships_final` — the results;
* `revoked_key_reactivated`, `declined_relationship_revoked` — the two races.
-/

/-- Requests on the SQLite repository. -/
abbrev SQLite : Type := Exclusive.System schema (Except RepoError Row)

/-- One step of the SQLite repository: its only connection serves a statement or a whole
    transaction. -/
def sqliteStep (env : Env) : SQLite → Label Request Sql.Choice → Option SQLite :=
  Sys.step (main env) Exclusive.exec

/-- Requests on the PostgreSQL repository. -/
abbrev Postgres : Type := Server.System schema (Except RepoError Row)

/-- The statements of a request; a transaction whose client is gone is aborted. -/
def postgresMain (env : Env) : Schema.Job Request →
    Prog schema.Wire schema.WireAnswer (Except RepoError Row) :=
  Schema.jobs (main env) (.ok .none)

/-- One step of the PostgreSQL repository. -/
def postgresStep (env : Env) : Postgres → Label (Schema.Job Request) Sql.Choice → Option Postgres :=
  Sys.step (postgresMain env) Server.exec

/-- The row is one of `contact_public_keys` or `account_recipient_keys`. -/
def Key.isKeyRow : Key → Bool
  | .contactKey _ | .recipientKey _ => true
  | _ => false

/-- The row is one of `trusted_contact_relationships`. -/
def Key.isRelationshipRow : Key → Bool
  | .relationship _ => true
  | _ => false

/-- The statements of every request follow the discipline on the wire. -/
theorem postgresMain_follows (env : Env) (job : Schema.Job Request) :
    lifecycle.wireProtocol.Follows (fun _ _ => True) (.outside none) (postgresMain env job) := by
  cases job with
  | request req => exact Lifecycle.compile_follows (main_follows env req)
  | abort tx => exact ⟨trivial, fun _ => trivial⟩

/-- **Terminal key states are final.** In both repositories, along every run in which no
    other request writes a key row between the read and the unchecked `UPDATE` of a request,
    a key in a terminal state keeps this state. -/
theorem terminal_keys_final (env : Env) (d : SharingDB) (hd : d.Keyed) :
    (∀ (ls ks : List (Label Request Sql.Choice)) (s s' : SQLite),
      Meets (sqliteStep env) (Exclusive.Undisturbed lifecycle Key.isKeyRow)
        (Sys.start { db := d }) (ls ++ ks) →
      run (sqliteStep env) (Sys.start { db := d }) ls = some s →
      run (sqliteStep env) s ks = some s' →
      ∀ (key : Key) (state : ContactKeyState), key.isKeyRow = true →
        s.shared.db.stage key = some (.key state) → terminalKeyState state = true →
        s'.shared.db.stage key = some (.key state)) ∧
    ∀ (ls ks : List (Label (Schema.Job Request) Sql.Choice)) (s s' : Postgres),
      Meets (postgresStep env) (Server.Undisturbed lifecycle Key.isKeyRow)
        (Sys.start { db := d }) (ls ++ ks) →
      run (postgresStep env) (Sys.start { db := d }) ls = some s →
      run (postgresStep env) s ks = some s' →
      ∀ (key : Key) (state : ContactKeyState), key.isKeyRow = true →
        s.shared.db.stage key = some (.key state) → terminalKeyState state = true →
        s'.shared.db.stage key = some (.key state) := by
  constructor
  · intro ls ks s s' hmeets hls hks key state hkey hstage hterminal
    exact Exclusive.closed_run (w := { db := d }) (main_follows env) hd hmeets hls hks hkey hstage hterminal
  · intro ls ks s s' hmeets hls hks key state hkey hstage hterminal
    exact Server.closed_run (postgresMain_follows env) hd hmeets hls hks hkey hstage hterminal

/-- **Terminal relationship states are final**, under the same condition on the
    relationship rows. -/
theorem terminal_relationships_final (env : Env) (d : SharingDB) (hd : d.Keyed) :
    (∀ (ls ks : List (Label Request Sql.Choice)) (s s' : SQLite),
      Meets (sqliteStep env) (Exclusive.Undisturbed lifecycle Key.isRelationshipRow)
        (Sys.start { db := d }) (ls ++ ks) →
      run (sqliteStep env) (Sys.start { db := d }) ls = some s →
      run (sqliteStep env) s ks = some s' →
      ∀ (id : String) (state : RelationshipState),
        s.shared.db.stage (.relationship id) = some (.relationship state) →
        terminalRelationshipState state = true →
        s'.shared.db.stage (.relationship id) = some (.relationship state)) ∧
    ∀ (ls ks : List (Label (Schema.Job Request) Sql.Choice)) (s s' : Postgres),
      Meets (postgresStep env) (Server.Undisturbed lifecycle Key.isRelationshipRow)
        (Sys.start { db := d }) (ls ++ ks) →
      run (postgresStep env) (Sys.start { db := d }) ls = some s →
      run (postgresStep env) s ks = some s' →
      ∀ (id : String) (state : RelationshipState),
        s.shared.db.stage (.relationship id) = some (.relationship state) →
        terminalRelationshipState state = true →
        s'.shared.db.stage (.relationship id) = some (.relationship state) := by
  constructor
  · intro ls ks s s' hmeets hls hks id state hstage hterminal
    exact Exclusive.closed_run (w := { db := d }) (main_follows env) hd hmeets hls hks
      (k := .relationship id) rfl hstage hterminal
  · intro ls ks s s' hmeets hls hks id state hstage hterminal
    exact Server.closed_run (postgresMain_follows env) hd hmeets hls hks
      (k := .relationship id) rfl hstage hterminal

/-! ### Sample runs -/

/-- A database with one active contact key and one pending relationship. -/
def sampleSharingDB : SharingDB where
  db :=
    { accounts := ["owner", "friend"]
      contactKeys :=
        [{ id := "key", ownerAccountID := "owner", contactID := "contact",
           recipientAccountID := "friend", version := 1, keyState := .active, createdAt := 0 }] }
  activeAccounts := ["owner", "friend"]
  relationships :=
    [{ id := "invite", ownerAccountID := "owner", recipientAccountID := "friend",
       relationshipRole := "trusted_contact", relationshipState := .pendingInvite,
       displayLabel := "", createdAt := 0, updatedAt := 0, invitedAt := 0 }]

theorem sampleSharingDB_keyed : sampleSharingDB.Keyed :=
  ⟨by decide, by decide, by decide⟩

/-- The owner changes the label of the key, and nothing else. -/
def relabel : Request :=
  .updateContactPublicKey
    { ownerAccountID := "owner", publicKeyID := "key", displayLabel := some "new label",
      keyState := none }

/-- The owner revokes the key. -/
def revoke : Request := .revokeContactPublicKey "owner" "key"

/-- The recipient declines the invite. -/
def decline : Request := .declineTrustedContactRelationship "friend" "invite" 1

/-- The owner takes the invite back. -/
def withdraw : Request := .revokeTrustedContactRelationship "owner" "invite" "owner"

/-- Process `pid` takes some steps. -/
def steps {Q : Type} (pid n : Nat) : List (Label Q Sql.Choice) := List.replicate n (.step pid {})

/-- A revoked key that is given a new label afterwards stays revoked. -/
theorem terminal_keys_final_relabelled :
    (∃ s s', run (sqliteStep sampleEnv) (Sys.start { db := sampleSharingDB })
        (.spawn 0 revoke :: steps 0 1) = some s ∧
      run (sqliteStep sampleEnv) s (.spawn 1 relabel :: steps 1 3) = some s' ∧
      s.shared.db.stage (.contactKey "key") = some (.key .revoked) ∧
      s'.shared.db.stage (.contactKey "key") = some (.key .revoked)) ∧
    ∃ s s', run (postgresStep sampleEnv) (Sys.start { db := sampleSharingDB })
        (.spawn 0 (.request revoke) :: steps 0 6) = some s ∧
      run (postgresStep sampleEnv) s (.spawn 1 (.request relabel) :: steps 1 3) = some s' ∧
      s.shared.db.stage (.contactKey "key") = some (.key .revoked) ∧
      s'.shared.db.stage (.contactKey "key") = some (.key .revoked) := by
  have hfinal := terminal_keys_final sampleEnv sampleSharingDB sampleSharingDB_keyed
  constructor
  · refine ⟨_, _, rfl, rfl, rfl, hfinal.1 (.spawn 0 revoke :: steps 0 1)
      (.spawn 1 relabel :: steps 1 3) _ _ ?_ rfl rfl (.contactKey "key") .revoked rfl rfl rfl⟩
    exact Sys.meets_of_check_below (n := 2) Exclusive.undisturbed_of_soleTest (by decide)
      (fun _ _ => rfl) rfl
  · refine ⟨_, _, rfl, rfl, rfl, hfinal.2 (.spawn 0 (.request revoke) :: steps 0 6)
      (.spawn 1 (.request relabel) :: steps 1 3) _ _ ?_ rfl rfl (.contactKey "key") .revoked
      rfl rfl rfl⟩
    exact Sys.meets_of_check_below (n := 2) Server.undisturbed_of_soleTest (by decide)
      (fun _ _ => rfl) rfl

/-- **The race on a key.** A change of the label reads the key, the key is revoked, and the
    change of the label writes the old state back. -/
theorem revoked_key_reactivated :
    (∃ s s', run (sqliteStep sampleEnv) (Sys.start { db := sampleSharingDB })
        (.spawn 0 relabel :: .spawn 1 revoke :: steps 0 1 ++ steps 1 1) = some s ∧
      run (sqliteStep sampleEnv) s (steps 0 1) = some s' ∧
      s.shared.db.stage (.contactKey "key") = some (.key .revoked) ∧
      s'.shared.db.stage (.contactKey "key") = some (.key .active)) ∧
    ∃ s s', run (postgresStep sampleEnv) (Sys.start { db := sampleSharingDB })
        (.spawn 0 (.request relabel) :: .spawn 1 (.request revoke) :: steps 0 1 ++ steps 1 6) =
          some s ∧
      run (postgresStep sampleEnv) s (steps 0 1) = some s' ∧
      s.shared.db.stage (.contactKey "key") = some (.key .revoked) ∧
      s'.shared.db.stage (.contactKey "key") = some (.key .active) :=
  ⟨⟨_, _, rfl, rfl, rfl, rfl⟩, ⟨_, _, rfl, rfl, rfl, rfl⟩⟩

/-- A declined invite that its owner takes back afterwards stays declined. -/
theorem terminal_relationships_final_declined :
    (∃ s s', run (sqliteStep sampleEnv) (Sys.start { db := sampleSharingDB })
        (.spawn 0 decline :: steps 0 2) = some s ∧
      run (sqliteStep sampleEnv) s (.spawn 1 withdraw :: steps 1 1) = some s' ∧
      s.shared.db.stage (.relationship "invite") = some (.relationship .declined) ∧
      s'.shared.db.stage (.relationship "invite") = some (.relationship .declined)) ∧
    ∃ s s', run (postgresStep sampleEnv) (Sys.start { db := sampleSharingDB })
        (.spawn 0 (.request decline) :: steps 0 2) = some s ∧
      run (postgresStep sampleEnv) s (.spawn 1 (.request withdraw) :: steps 1 1) = some s' ∧
      s.shared.db.stage (.relationship "invite") = some (.relationship .declined) ∧
      s'.shared.db.stage (.relationship "invite") = some (.relationship .declined) := by
  have hfinal := terminal_relationships_final sampleEnv sampleSharingDB sampleSharingDB_keyed
  constructor
  · refine ⟨_, _, rfl, rfl, rfl, hfinal.1 (.spawn 0 decline :: steps 0 2)
      (.spawn 1 withdraw :: steps 1 1) _ _ ?_ rfl rfl "invite" .declined rfl rfl⟩
    exact Sys.meets_of_check_below (n := 2) Exclusive.undisturbed_of_soleTest (by decide)
      (fun _ _ => rfl) rfl
  · refine ⟨_, _, rfl, rfl, rfl, hfinal.2 (.spawn 0 (.request decline) :: steps 0 2)
      (.spawn 1 (.request withdraw) :: steps 1 1) _ _ ?_ rfl rfl "invite" .declined rfl rfl⟩
    exact Sys.meets_of_check_below (n := 2) Server.undisturbed_of_soleTest (by decide)
      (fun _ _ => rfl) rfl

/-- **The race on a relationship.** The owner's request reads the pending invite, the
    recipient declines it, and the owner's request revokes what was declined. -/
theorem declined_relationship_revoked :
    (∃ s s', run (sqliteStep sampleEnv) (Sys.start { db := sampleSharingDB })
        (.spawn 0 withdraw :: .spawn 1 decline :: steps 0 1 ++ steps 1 1) = some s ∧
      run (sqliteStep sampleEnv) s (steps 0 1) = some s' ∧
      s.shared.db.stage (.relationship "invite") = some (.relationship .declined) ∧
      s'.shared.db.stage (.relationship "invite") = some (.relationship .revoked)) ∧
    ∃ s s', run (postgresStep sampleEnv) (Sys.start { db := sampleSharingDB })
        (.spawn 0 (.request withdraw) :: .spawn 1 (.request decline) :: steps 0 1 ++ steps 1 1) =
          some s ∧
      run (postgresStep sampleEnv) s (steps 0 1) = some s' ∧
      s.shared.db.stage (.relationship "invite") = some (.relationship .declined) ∧
      s'.shared.db.stage (.relationship "invite") = some (.relationship .revoked) :=
  ⟨⟨_, _, rfl, rfl, rfl, rfl⟩, ⟨_, _, rfl, rfl, rfl, rfl⟩⟩

end SafetyRecorder.Sharing
