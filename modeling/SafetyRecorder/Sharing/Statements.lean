import SafetyRecorder.Lib.Table
import SafetyRecorder.Lib.Sql
import SafetyRecorder.Incidents.Models

namespace SafetyRecorder.Sharing

open Table

/-!
# Sharing — tables and statements

The tables of trusted contacts and recipient keys, and every statement that the two
repositories issue on them (`sharing.go`, `account_recipient_keys.go`,
`trusted_contact_relationships.go` in `internal/incidents` and in `internal/postgresdb`).
The statements of the two differ only in the `FOR UPDATE` of the PostgreSQL ones.

* `AccountRecipientKey`, `TrustedContactRelationship`, `SharingDB` — the rows; an account
  recipient key takes the states of a contact key;
* `Read`, `Write`, `Stmt` — the statements, with the rows a write finds, the constraints it
  can violate and the rows and index entries it locks;
* `schema` — all of it as a `Sql.Schema`.
-/

/-- The states of an account recipient key (`AccountRecipientKeyState…`). -/
abbrev AccountRecipientKeyState := ContactKeyState

/-- `AccountRecipientType…`. -/
inductive AccountRecipientType
  | account | device
  deriving DecidableEq, Repr

/-- `TrustedContactRelationshipState…`. -/
inductive RelationshipState
  | pendingInvite | active | declined | revoked | replaced
  deriving DecidableEq, Repr

/-- `TerminalContactKeyState` and `TerminalAccountRecipientKeyState`. -/
def terminalKeyState : ContactKeyState → Bool
  | .replaced | .revoked | .lost => true
  | _ => false

/-- `TerminalTrustedContactRelationshipState`. -/
def terminalRelationshipState : RelationshipState → Bool
  | .declined | .revoked | .replaced => true
  | _ => false

/-- A row of `account_recipient_keys`. -/
structure AccountRecipientKey where
  id : String
  ownerAccountID : String
  recipientID : String
  recipientType : AccountRecipientType
  keyID : String
  version : Int
  displayLabel : String
  scheme : String
  suiteID : String
  publicKey : String
  publicKeyFingerprint : String
  keyState : AccountRecipientKeyState
  createdAt : Time
  updatedAt : Time
  revokedAt : Option Time := none
  replacedAt : Option Time := none
  lostAt : Option Time := none
  replacedByRecipientKeyID : String := ""
  deriving DecidableEq, Repr

/-- A row of `trusted_contact_relationships`. -/
structure TrustedContactRelationship where
  id : String
  ownerAccountID : String
  recipientAccountID : String
  relationshipRole : String
  relationshipState : RelationshipState
  displayLabel : String
  createdAt : Time
  updatedAt : Time
  invitedAt : Time
  acceptedAt : Option Time := none
  declinedAt : Option Time := none
  revokedAt : Option Time := none
  revokedByAccountID : String := ""
  replacedAt : Option Time := none
  replacedByRelationshipID : String := ""
  deriving DecidableEq, Repr

/-- The metadata database with the tables of the sharing part. -/
structure SharingDB where
  db : DB := {}
  /-- The accounts whose `account_state` is active. -/
  activeAccounts : List String := []
  recipientKeys : List AccountRecipientKey := []
  relationships : List TrustedContactRelationship := []
  deriving DecidableEq, Repr

namespace SharingDB

/-- The contact keys of one contact. -/
def contactKeysOf (d : SharingDB) (owner contact : String) : List ContactPublicKey :=
  d.db.contactKeys.filter fun k => k.ownerAccountID == owner && k.contactID == contact

/-- The account recipient keys of one recipient. -/
def recipientKeysOf (d : SharingDB) (owner recipient : String) : List AccountRecipientKey :=
  d.recipientKeys.filter fun k => k.ownerAccountID == owner && k.recipientID == recipient

/-- An open relationship of a pair of accounts, other than the excluded one. -/
def openRelationships (d : SharingDB) (owner recipient role : String) :
    List TrustedContactRelationship :=
  d.relationships.filter fun r =>
    r.ownerAccountID == owner && r.recipientAccountID == recipient && r.relationshipRole == role &&
      !terminalRelationshipState r.relationshipState

end SharingDB

/-! ### Reads -/

/-- The statements that read. -/
inductive Read
  | contactKey (owner id : String)
  | contactRecipient (owner contact : String)
  | contactVersion (owner contact : String)
  | activeAccount (id : String)
  | recipientKey (owner id : String)
  | recipientKeyCount (owner recipient : String)
  | recipientKeyVersion (owner recipient : String)
  | relationshipFor (account id : String)
  | relationship (id : String)
  | openRelationship (owner recipient role exclude : String)
  deriving DecidableEq, Repr

/-- What a read returns. -/
@[reducible] def Read.Result : Read → Type
  | contactKey .. => Option ContactPublicKey
  | contactRecipient .. => Option String
  | contactVersion .. => Int
  | activeAccount _ => Bool
  | recipientKey .. => Option AccountRecipientKey
  | recipientKeyCount .. => Nat
  | recipientKeyVersion .. => Int
  | relationshipFor .. => Option TrustedContactRelationship
  | relationship _ => Option TrustedContactRelationship
  | openRelationship .. => Bool

/-- The row with the highest version: `ORDER BY version DESC … LIMIT 1`. -/
def newest (keys : List ContactPublicKey) : Option ContactPublicKey :=
  keys.find? fun k => keys.all (·.version ≤ k.version)

/-- `COALESCE(MAX(version), 0) + 1`. -/
def nextVersion (versions : List Int) : Int := versions.foldl max 0 + 1

/-- The read on the tables. -/
def Read.run (d : SharingDB) : (q : Read) → q.Result
  | contactKey o i => d.db.contactKeys.find? fun k => k.ownerAccountID == o && k.id == i
  | contactRecipient o c => (newest (d.contactKeysOf o c)).map (·.recipientAccountID)
  | contactVersion o c => nextVersion ((d.contactKeysOf o c).map (·.version))
  | activeAccount a => d.activeAccounts.contains a
  | recipientKey o i => d.recipientKeys.find? fun k => k.ownerAccountID == o && k.id == i
  | recipientKeyCount o r => (d.recipientKeysOf o r).length
  | recipientKeyVersion o r => nextVersion ((d.recipientKeysOf o r).map (·.version))
  | relationshipFor a i => d.relationships.find? fun r =>
      r.id == i && (r.ownerAccountID == a || r.recipientAccountID == a)
  | relationship i => d.relationships.find? (·.id == i)
  | openRelationship o r role exclude => (d.openRelationships o r role).any fun x =>
      exclude == "" || x.id != exclude

/-! ### Writes -/

/-- The statements that write. -/
inductive Write
  | insertContactKey (row : ContactPublicKey)
  | updateContactKey (owner id label : String) (state : ContactKeyState) (now : Time)
  | setContactKeyState (owner id : String) (state : ContactKeyState) (revokedAt lostAt : Option Time)
      (now : Time)
  | markOpenContactKeysReplaced (owner contact replacement : String) (replacedAt : Time)
  | insertAuditEvent (event : SharingAuditEvent)
  | insertRecipientKey (row : AccountRecipientKey)
  | updateRecipientKey (owner id label : String) (state : AccountRecipientKeyState) (now : Time)
  | setRecipientKeyState (owner id : String) (state : AccountRecipientKeyState)
      (revokedAt lostAt : Option Time) (now : Time)
  | replaceRecipientKey (owner id replacement : String) (now : Time)
  | insertRelationship (row : TrustedContactRelationship)
  | answerRelationship (recipient id : String) (state : RelationshipState)
      (acceptedAt declinedAt : Option Time) (now : Time)
  | revokeRelationship (owner id revokedBy : String) (now : Time)
  | replaceRelationship (owner id : String) (now : Time)
  | linkRelationship (owner id replacement : String)
  /-- Account management, outside this part, adds accounts and decides which are active. -/
  | setAccounts (new active : List String)
  deriving DecidableEq, Repr

/-- `isConstraint`, or any other error. -/
inductive SqlError
  | constraint | failed
  deriving DecidableEq, Repr

/-- What can be locked: a row by its primary key, or an entry of a unique index. -/
inductive Key
  | contactKey (id : String)
  | contactVersion (owner contact : String) (version : Int)
  | recipientKey (id : String)
  | recipientVersion (owner recipient : String) (version : Int)
  | recipientKeyID (owner keyID : String)
  | relationship (id : String)
  | openPair (owner recipient role : String)
  deriving DecidableEq, Repr

namespace Write

/-- The rows an update finds. -/
def rows (d : SharingDB) : Write → List String
  | updateContactKey o i .. | setContactKeyState o i .. =>
    (d.db.contactKeys.filter fun k => k.ownerAccountID == o && k.id == i).map (·.id)
  | markOpenContactKeysReplaced o c replacement _ =>
    ((d.contactKeysOf o c).filter fun k =>
      k.id != replacement && !terminalKeyState k.keyState).map (·.id)
  | updateRecipientKey o i .. | setRecipientKeyState o i .. | replaceRecipientKey o i .. =>
    (d.recipientKeys.filter fun k => k.ownerAccountID == o && k.id == i).map (·.id)
  | answerRelationship a i .. =>
    (d.relationships.filter fun r => r.recipientAccountID == a && r.id == i &&
      r.relationshipState == .pendingInvite).map (·.id)
  | revokeRelationship o i .. | replaceRelationship o i _ | linkRelationship o i _ =>
    (d.relationships.filter fun r => r.ownerAccountID == o && r.id == i).map (·.id)
  | insertContactKey _ | insertAuditEvent _ | insertRecipientKey _ | insertRelationship _
  | setAccounts .. => []

/-- The length of a text column is checked. -/
def textWithin (text : String) (limit : Nat) : Bool := 0 < text.length && text.length ≤ limit

/-- The write violates a constraint of its table. -/
def violates (d : SharingDB) : Write → Bool
  | insertContactKey row =>
    d.db.contactKeys.any (fun k => k.id == row.id ||
      (k.ownerAccountID == row.ownerAccountID && k.contactID == row.contactID &&
        k.version == row.version)) ||
    !d.db.accounts.contains row.ownerAccountID ||
    !(row.recipientAccountID == "" || d.db.accounts.contains row.recipientAccountID) ||
    !decide (0 < row.version) || !textWithin row.wrappingAlgorithm 80 ||
    !textWithin row.publicKey 4096 || !textWithin row.publicKeyFingerprint 256
  | insertRecipientKey row =>
    d.recipientKeys.any (fun k => k.id == row.id ||
      (k.ownerAccountID == row.ownerAccountID && k.recipientID == row.recipientID &&
        k.version == row.version) ||
      (k.ownerAccountID == row.ownerAccountID && k.keyID == row.keyID)) ||
    !d.db.accounts.contains row.ownerAccountID || !decide (0 < row.version) ||
    !textWithin row.keyID 255 || !textWithin row.scheme 120 || !textWithin row.suiteID 160 ||
    !textWithin row.publicKey 4096 || !textWithin row.publicKeyFingerprint 256
  | insertRelationship row =>
    d.relationships.any (·.id == row.id) ||
    (!terminalRelationshipState row.relationshipState && !(d.openRelationships row.ownerAccountID
      row.recipientAccountID row.relationshipRole).isEmpty) ||
    !d.db.accounts.contains row.ownerAccountID || !d.db.accounts.contains row.recipientAccountID ||
    row.relationshipRole != "trusted_contact" || row.ownerAccountID == row.recipientAccountID
  | _ => false

/-- The rows and index entries a write is about, given the rows it found. -/
def keys (rows : List String) : Write → List Key
  | insertContactKey row =>
    [.contactKey row.id, .contactVersion row.ownerAccountID row.contactID row.version]
  | updateContactKey .. | setContactKeyState .. | markOpenContactKeysReplaced .. =>
    rows.map .contactKey
  | insertRecipientKey row =>
    [.recipientKey row.id, .recipientVersion row.ownerAccountID row.recipientID row.version,
      .recipientKeyID row.ownerAccountID row.keyID]
  | updateRecipientKey .. | setRecipientKeyState .. | replaceRecipientKey .. =>
    rows.map .recipientKey
  | insertRelationship row =>
    [.relationship row.id,
      .openPair row.ownerAccountID row.recipientAccountID row.relationshipRole]
  | answerRelationship .. | revokeRelationship .. | replaceRelationship .. | linkRelationship .. =>
    rows.map .relationship
  | insertAuditEvent _ | setAccounts .. => []

end Write

/-- A write together with the rows it has found. -/
structure Change where
  write : Write
  rows : List String

/-- Contact keys change. -/
def SharingDB.withContactKeys (d : SharingDB) (f : List ContactPublicKey → List ContactPublicKey) :
    SharingDB :=
  { d with db := { d.db with contactKeys := f d.db.contactKeys } }

/-- What a write does to the tables. -/
def Change.apply (c : Change) (d : SharingDB) : SharingDB :=
  match c.write with
  | .insertContactKey row => d.withContactKeys (insertRow (·.id) row)
  | .updateContactKey _ _ label state now => d.withContactKeys
      (updateWhere (fun k => c.rows.contains k.id)
        fun k => { k with displayLabel := label, keyState := state, updatedAt := now })
  | .setContactKeyState _ _ state revokedAt lostAt now => d.withContactKeys
      (updateWhere (fun k => c.rows.contains k.id)
        fun k => { k with keyState := state, updatedAt := now, revokedAt := revokedAt,
                          lostAt := lostAt })
  | .markOpenContactKeysReplaced _ _ replacement replacedAt => d.withContactKeys
      (updateWhere (fun k => c.rows.contains k.id)
        fun k => { k with keyState := .replaced, updatedAt := replacedAt,
                          replacedAt := some replacedAt, replacedByPublicKeyID := replacement })
  | .insertAuditEvent event =>
    { d with db := { d.db with auditEvents := d.db.auditEvents ++ [event] } }
  | .insertRecipientKey row => { d with recipientKeys := insertRow (·.id) row d.recipientKeys }
  | .updateRecipientKey _ _ label state now => { d with
      recipientKeys := updateWhere (fun k => c.rows.contains k.id)
        (fun k => { k with displayLabel := label, keyState := state, updatedAt := now })
        d.recipientKeys }
  | .setRecipientKeyState _ _ state revokedAt lostAt now => { d with
      recipientKeys := updateWhere (fun k => c.rows.contains k.id)
        (fun k => { k with keyState := state, updatedAt := now, revokedAt := revokedAt,
                           lostAt := lostAt }) d.recipientKeys }
  | .replaceRecipientKey _ _ replacement now => { d with
      recipientKeys := updateWhere (fun k => c.rows.contains k.id)
        (fun k => { k with keyState := .replaced, updatedAt := now, replacedAt := some now,
                           replacedByRecipientKeyID := replacement }) d.recipientKeys }
  | .insertRelationship row => { d with relationships := insertRow (·.id) row d.relationships }
  | .answerRelationship _ _ state acceptedAt declinedAt now => { d with
      relationships := updateWhere (fun r => c.rows.contains r.id)
        (fun r => { r with relationshipState := state, updatedAt := now, acceptedAt := acceptedAt,
                           declinedAt := declinedAt }) d.relationships }
  | .revokeRelationship _ _ revokedBy now => { d with
      relationships := updateWhere (fun r => c.rows.contains r.id)
        (fun r => { r with relationshipState := .revoked, updatedAt := now, revokedAt := some now,
                           revokedByAccountID := revokedBy }) d.relationships }
  | .replaceRelationship _ _ now => { d with
      relationships := updateWhere (fun r => c.rows.contains r.id)
        (fun r => { r with relationshipState := .replaced, updatedAt := now,
                           replacedAt := some now }) d.relationships }
  | .linkRelationship _ _ replacement => { d with
      relationships := updateWhere (fun r => c.rows.contains r.id)
        (fun r => { r with replacedByRelationshipID := replacement }) d.relationships }
  | .setAccounts new active => { d with
      db := { d.db with accounts := d.db.accounts ++ new }
      activeAccounts := active }

/-! ### Statements -/

/-- A statement; the reads in a PostgreSQL transaction that end in `FOR UPDATE` lock the
    rows they find. -/
inductive Stmt
  | select (q : Read)
  | selectForUpdate (q : Read)
  | write (w : Write)
  deriving DecidableEq, Repr

namespace Stmt

/-- What a statement returns; a write returns the number of rows it found. -/
@[reducible] def Result : Stmt → Type
  | select q | selectForUpdate q => q.Result
  | write _ => Nat

/-- The answer on what the statement sees. -/
def answer (d : SharingDB) : (s : Stmt) → Except SqlError s.Result
  | select q | selectForUpdate q => .ok (q.run d)
  | write w => if w.violates d then .error .constraint else .ok (w.rows d).length

/-- What the statement changes. -/
def changes (d : SharingDB) : Stmt → List Change
  | select _ | selectForUpdate _ => []
  | write w => [⟨w, w.rows d⟩]

/-- The rows and index entries a statement locks under `READ COMMITTED`. -/
def locks (d : SharingDB) : Stmt → List Key
  | select _ => []
  | selectForUpdate (.contactKey o i) =>
    (d.db.contactKeys.filter fun k => k.ownerAccountID == o && k.id == i).map fun k =>
      .contactKey k.id
  | selectForUpdate (.recipientKey o i) =>
    (d.recipientKeys.filter fun k => k.ownerAccountID == o && k.id == i).map fun k =>
      .recipientKey k.id
  | selectForUpdate (.relationship i) =>
    (d.relationships.filter (·.id == i)).map fun r => .relationship r.id
  | selectForUpdate _ => []
  | write w => w.keys (w.rows d)

end Stmt

/-- What the transactions of the sharing part return. -/
inductive Kind
  | contactKey | recipientKey | relationship
  deriving DecidableEq, Repr

/-- The row a transaction returns. -/
@[reducible] def Kind.Row : Kind → Type
  | contactKey => ContactPublicKey
  | recipientKey => AccountRecipientKey
  | relationship => TrustedContactRelationship

/-- The statements of the sharing part. -/
abbrev schema : Sql.Schema where
  State := SharingDB
  Stmt := Stmt
  Result := Stmt.Result
  Error := SqlError
  Change := Change
  Key := Key
  keyDecEq := inferInstance
  Kind := Kind
  Value := Kind.Row
  Failure := RepoError
  failed := .failed
  failure := .database
  answer := Stmt.answer
  changes := Stmt.changes
  apply := Change.apply
  locks := Stmt.locks
  touches c := c.write.keys c.rows
  touches_subset {db s c k} hc hk := by
    cases s with
    | select | selectForUpdate => cases hc
    | write w =>
      obtain rfl := List.mem_singleton.mp hc
      exact hk

end SafetyRecorder.Sharing
