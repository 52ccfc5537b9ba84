import SafetyRecorder.Sharing.Statements

namespace SafetyRecorder.Sharing

open Process

/-!
# Sharing — the repository methods

The methods of `sharing.go`, `account_recipient_keys.go` and
`trusted_contact_relationships.go` that write contact public keys, account recipient keys
and trusted-contact relationships, each as the program of the statements and transactions
it issues.  Both repositories issue the same ones.

* `TxM`, `RepoM` — programs inside and outside a transaction, which can end early with an
  error; the identifiers and clocks a program draws come with the answers;
* `createContactPublicKey`, …, `replaceTrustedContactRelationship` — the methods;
* `Request`, `main` — the program of a request.
-/

/-- The part of a method inside a transaction. -/
abbrev TxM := ExceptT RepoError (Prog Stmt schema.Reply)

/-- A repository method. -/
abbrev RepoM := ExceptT RepoError (Prog schema.Call schema.Answer)

/-- How a method reports an error of a statement: a violated constraint in its own way,
    every other error as it is. -/
def reports (onConstraint : RepoError) : SqlError → RepoError
  | .constraint => onConstraint
  | .failed => .database

/-- A statement of a transaction. -/
def statement (s : Stmt) (onConstraint : RepoError := .database) : TxM (s.Result × Sql.Tick) := do
  match ← (ExceptT.lift (Prog.perform s) : TxM (schema.Reply s)) with
  | (.ok r, tick) => return (r, tick)
  | (.error e, _) => throw (reports onConstraint e)

/-- A statement on its own. -/
def execute (s : Stmt) : RepoM (s.Result × Sql.Tick) := do
  match ← (ExceptT.lift (Prog.perform (Sql.Schema.Call.exec (S := schema) s)) : RepoM (schema.Reply s)) with
  | (.ok r, tick) => return (r, tick)
  | (.error e, _) => throw (reports .database e)

/-- `BeginTx`, the body, then `Commit`, or `Rollback` after an error. -/
def transaction (kind : Kind) (body : Sql.Tick → TxM kind.Row) : RepoM kind.Row :=
  ExceptT.mk (Prog.perform (Sql.Schema.Call.transaction (S := schema) kind fun t => (body t).run) :
    Prog schema.Call schema.Answer (Except RepoError kind.Row))

/-- The identifier a method draws after an answer. -/
def drawID (env : Env) (kind : String) (tick : Sql.Tick) : String := env.newID kind (2 * tick.serial)

/-- A second identifier drawn after the same answer. -/
def drawSecondID (env : Env) (kind : String) (tick : Sql.Tick) : String :=
  env.newID kind (2 * tick.serial + 1)

section Guards

variable {m : Type → Type} [Monad m] {α : Type}

/-- A row that has to be there. -/
def requireRow (row : Option α) : ExceptT RepoError m α :=
  match row with
  | some r => return r
  | none => throw .notFound

/-- A condition that has to hold. -/
def require (c : Prop) [Decidable c] (e : RepoError) : ExceptT RepoError m Unit :=
  if c then return () else throw e

end Guards

/-- `createSharingAuditEventTx`, with what the contact-key methods fill in. -/
def createSharingAuditEvent (env : Env) (tick : Sql.Tick) (owner : String) (action : AuditAction)
    (outcome : AuditOutcome) (contactID publicKeyID : String) (createdAt : Time) :
    TxM Sql.Tick := do
  require (owner ≠ "") .invalidState
  let r ← statement (.write (.insertAuditEvent
    { id := drawID env "sae" tick
      ownerAccountID := owner
      actorAccountID := owner
      action := action
      outcomeCategory := outcome
      contactID := contactID
      contactPublicKeyID := publicKeyID
      createdAt := createdAt }))
  return r.2

/-! ### Contact public keys -/

/-- `CreateContactPublicKeyParams`. -/
structure CreateContactPublicKeyParams where
  ownerAccountID : String
  contactID : String
  recipientAccountID : String
  displayLabel : String
  wrappingAlgorithm : String
  publicKey : String
  publicKeyFingerprint : String
  keyState : ContactKeyState
  deriving DecidableEq, Repr

/-- `UpdateContactPublicKeyParams`. -/
structure UpdateContactPublicKeyParams where
  ownerAccountID : String
  publicKeyID : String
  displayLabel : Option String
  keyState : Option ContactKeyState
  deriving DecidableEq, Repr

/-- `ReplaceContactPublicKeyParams`. -/
structure ReplaceContactPublicKeyParams where
  ownerAccountID : String
  publicKeyID : String
  displayLabel : String
  wrappingAlgorithm : String
  publicKey : String
  publicKeyFingerprint : String
  keyState : ContactKeyState
  deriving DecidableEq, Repr

/-- `newContactPublicKey`. -/
def newContactPublicKey (env : Env) (tick : Sql.Tick) (params : CreateContactPublicKeyParams)
    (contactID : String) (version : Int) : ContactPublicKey :=
  { id := drawID env "cpk" tick
    ownerAccountID := params.ownerAccountID
    contactID := contactID
    recipientAccountID := params.recipientAccountID
    version := version
    displayLabel := params.displayLabel
    wrappingAlgorithm := params.wrappingAlgorithm
    publicKey := params.publicKey
    publicKeyFingerprint := params.publicKeyFingerprint
    keyState := params.keyState
    createdAt := tick.now
    updatedAt := tick.now }

/-- `requireActiveAccountForTrustedContactTx`. -/
def requireActiveAccountForTrustedContact (accountID : String) : TxM Sql.Tick := do
  let r ← statement (.select (.activeAccount accountID))
  require (r.1 = true) .notFound
  return r.2

/-- `requireContactPublicKeyRecipientTx`. -/
def requireContactPublicKeyRecipient (tick : Sql.Tick) (owner recipient : String) :
    TxM Sql.Tick := do
  if recipient = "" then return tick
  else
    require (owner ≠ recipient) .invalidState
    requireActiveAccountForTrustedContact recipient

/-- The contact a new key belongs to, the recipient account it names and its version. -/
structure ContactSlot where
  contactID : String
  recipientAccountID : String
  version : Int
  tick : Sql.Tick

/-- The first part of `CreateContactPublicKey` for a contact without a key. -/
def newContact (env : Env) (params : CreateContactPublicKeyParams) (tick : Sql.Tick) :
    TxM ContactSlot := do
  let tick ← requireContactPublicKeyRecipient tick params.ownerAccountID params.recipientAccountID
  return ⟨drawSecondID env "ctc" tick, params.recipientAccountID, 1, tick⟩

/-- The first part of `CreateContactPublicKey` for a contact that is named. -/
def existingContact (params : CreateContactPublicKeyParams) : TxM ContactSlot := do
  let r ← statement (.select (.contactRecipient params.ownerAccountID params.contactID))
  let recipientAccountID ← requireRow r.1
  let recipient :=
    if params.recipientAccountID = "" then recipientAccountID else params.recipientAccountID
  require (params.recipientAccountID = "" ∨ recipientAccountID = "" ∨
    params.recipientAccountID = recipientAccountID) .invalidState
  let _ ← requireContactPublicKeyRecipient r.2 params.ownerAccountID recipient
  let v ← statement (.select (.contactVersion params.ownerAccountID params.contactID))
  require (v.1 ≠ (1 : Int)) .notFound
  return ⟨params.contactID, recipient, v.1, v.2⟩

/-- The first part of `CreateContactPublicKey`. -/
def contactSlot (env : Env) (params : CreateContactPublicKeyParams) (tick : Sql.Tick) :
    TxM ContactSlot :=
  if params.contactID = "" then newContact env params tick else existingContact params

/-- `CreateContactPublicKey`. -/
def createContactPublicKey (env : Env) (params : CreateContactPublicKeyParams) :
    RepoM ContactPublicKey := do
  require (terminalKeyState params.keyState = false) .invalidState
  transaction .contactKey fun tick => do
    let slot ← contactSlot env params tick
    let contactKey := newContactPublicKey env slot.tick
      { params with recipientAccountID := slot.recipientAccountID } slot.contactID slot.version
    let r ← statement (.write (.insertContactKey contactKey)) .notFound
    if params.contactID ≠ "" then
      let r ← statement (.write (.markOpenContactKeysReplaced params.ownerAccountID slot.contactID
        contactKey.id contactKey.createdAt))
      let _ ← createSharingAuditEvent env r.2 params.ownerAccountID .contactKeyReplaced .replaced
        slot.contactID contactKey.id contactKey.createdAt
      return contactKey
    else
      let _ ← createSharingAuditEvent env r.2 params.ownerAccountID .contactKeyRegistered .created
        slot.contactID contactKey.id contactKey.createdAt
      return contactKey

/-- `GetContactPublicKey`. -/
def getContactPublicKey (owner publicKeyID : String) : RepoM (ContactPublicKey × Sql.Tick) := do
  let r ← execute (.select (.contactKey owner publicKeyID))
  let row ← requireRow r.1
  return (row, r.2)

/-- `getContactPublicKeyTx`. -/
def getContactPublicKeyTx (owner publicKeyID : String) : TxM (ContactPublicKey × Sql.Tick) := do
  let r ← statement (.selectForUpdate (.contactKey owner publicKeyID))
  let row ← requireRow r.1
  return (row, r.2)

/-- `allowedContactKeyUpdate`. -/
def allowedContactKeyUpdate (current next : ContactKeyState) : Bool :=
  if current = next then true
  else if terminalKeyState current || terminalKeyState next then false
  else next == .pendingVerification || next == .active

/-- An allowed change of a state that is terminal is none. -/
theorem allowedContactKeyUpdate_terminal {current next : ContactKeyState}
    (h : allowedContactKeyUpdate current next = true) (hcurrent : terminalKeyState current = true) :
    current = next := by
  revert h hcurrent
  cases current <;> cases next <;> decide

/-- `UpdateContactPublicKey`: the read and the write are statements of their own. -/
def updateContactPublicKey (params : UpdateContactPublicKeyParams) : RepoM ContactPublicKey := do
  let current ← getContactPublicKey params.ownerAccountID params.publicKeyID
  let label := params.displayLabel.getD current.1.displayLabel
  let state := params.keyState.getD current.1.keyState
  require (allowedContactKeyUpdate current.1.keyState state = true) .invalidState
  let r ← execute (.write (.updateContactKey params.ownerAccountID params.publicKeyID label state
    current.2.now))
  require (r.1 ≠ (0 : Nat)) .notFound
  let row ← getContactPublicKey params.ownerAccountID params.publicKeyID
  return row.1

/-- The audit entry of a contact key that was revoked or lost. -/
def terminalAudit : ContactKeyState → AuditAction × AuditOutcome
  | .lost => (.contactKeyLost, .lost)
  | _ => (.contactKeyRevoked, .revoked)

/-- `setContactKeyTerminalState`. -/
def setContactKeyTerminalState (env : Env) (owner publicKeyID : String) (state : ContactKeyState) :
    RepoM ContactPublicKey :=
  transaction .contactKey fun _ => do
    let current ← getContactPublicKeyTx owner publicKeyID
    require (terminalKeyState current.1.keyState = false ∨ current.1.keyState = state) .invalidState
    if current.1.keyState = state then return current.1
    else
      let now := current.2.now
      let r ← statement (.write (.setContactKeyState owner publicKeyID state
        (if state = .revoked then some now else none) (if state = .lost then some now else none)
        now))
      require (r.1 ≠ (0 : Nat)) .notFound
      let _ ← createSharingAuditEvent env r.2 owner (terminalAudit state).1 (terminalAudit state).2
        current.1.contactID current.1.id now
      let row ← getContactPublicKeyTx owner publicKeyID
      return row.1

/-- `RevokeContactPublicKey`. -/
def revokeContactPublicKey (env : Env) (owner publicKeyID : String) : RepoM ContactPublicKey :=
  setContactKeyTerminalState env owner publicKeyID .revoked

/-- `MarkContactPublicKeyLost`. -/
def markContactPublicKeyLost (env : Env) (owner publicKeyID : String) : RepoM ContactPublicKey :=
  setContactKeyTerminalState env owner publicKeyID .lost

/-- `ReplaceContactPublicKey`. -/
def replaceContactPublicKey (env : Env) (params : ReplaceContactPublicKeyParams) :
    RepoM ContactPublicKey := do
  require (terminalKeyState params.keyState = false) .invalidState
  transaction .contactKey fun _ => do
    let current ← getContactPublicKeyTx params.ownerAccountID params.publicKeyID
    require (terminalKeyState current.1.keyState = false) .invalidState
    let v ← statement (.select (.contactVersion params.ownerAccountID current.1.contactID))
    let replacement := newContactPublicKey env v.2
      { ownerAccountID := params.ownerAccountID
        contactID := current.1.contactID
        recipientAccountID := current.1.recipientAccountID
        displayLabel := params.displayLabel
        wrappingAlgorithm := params.wrappingAlgorithm
        publicKey := params.publicKey
        publicKeyFingerprint := params.publicKeyFingerprint
        keyState := params.keyState } current.1.contactID v.1
    let r ← statement (.write (.insertContactKey replacement)) .notFound
    let marked ← statement (.write (.markOpenContactKeysReplaced params.ownerAccountID
      current.1.contactID replacement.id r.2.now))
    require (marked.1 ≠ (0 : Nat)) .notFound
    let _ ← createSharingAuditEvent env marked.2 params.ownerAccountID .contactKeyReplaced .replaced
      current.1.contactID replacement.id r.2.now
    return replacement

/-! ### Account recipient keys -/

/-- `CreateAccountRecipientKeyParams`. -/
structure CreateAccountRecipientKeyParams where
  ownerAccountID : String
  recipientID : String
  recipientType : AccountRecipientType
  keyID : String
  displayLabel : String
  scheme : String
  suiteID : String
  publicKey : String
  publicKeyFingerprint : String
  keyState : AccountRecipientKeyState
  deriving DecidableEq, Repr

/-- `UpdateAccountRecipientKeyParams`. -/
structure UpdateAccountRecipientKeyParams where
  ownerAccountID : String
  recipientKeyID : String
  displayLabel : Option String
  keyState : Option AccountRecipientKeyState
  deriving DecidableEq, Repr

/-- `ReplaceAccountRecipientKeyParams`. -/
structure ReplaceAccountRecipientKeyParams where
  ownerAccountID : String
  recipientKeyID : String
  keyID : String
  displayLabel : String
  scheme : String
  suiteID : String
  publicKey : String
  publicKeyFingerprint : String
  keyState : AccountRecipientKeyState
  deriving DecidableEq, Repr

/-- `newAccountRecipientKey`. -/
def newAccountRecipientKey (env : Env) (tick : Sql.Tick) (params : CreateAccountRecipientKeyParams)
    (recipientID : String) (version : Int) : AccountRecipientKey :=
  { id := drawID env "ark" tick
    ownerAccountID := params.ownerAccountID
    recipientID := recipientID
    recipientType := params.recipientType
    keyID := params.keyID
    version := version
    displayLabel := params.displayLabel
    scheme := params.scheme
    suiteID := params.suiteID
    publicKey := params.publicKey
    publicKeyFingerprint := params.publicKeyFingerprint
    keyState := params.keyState
    createdAt := tick.now
    updatedAt := tick.now }

/-- `CreateAccountRecipientKey`. -/
def createAccountRecipientKey (env : Env) (params : CreateAccountRecipientKeyParams) :
    RepoM AccountRecipientKey :=
  transaction .recipientKey fun tick => do
    let recipientID :=
      if params.recipientID = "" then drawID env "arcp" tick else params.recipientID
    let existing ← statement (.select (.recipientKeyCount params.ownerAccountID recipientID))
    require (existing.1 = (0 : Nat)) .duplicate
    let key := newAccountRecipientKey env existing.2 params recipientID 1
    let _ ← statement (.write (.insertRecipientKey key)) .duplicate
    return key

/-- `GetAccountRecipientKey`. -/
def getAccountRecipientKey (owner recipientKeyID : String) :
    RepoM (AccountRecipientKey × Sql.Tick) := do
  let r ← execute (.select (.recipientKey owner recipientKeyID))
  let row ← requireRow r.1
  return (row, r.2)

/-- `getAccountRecipientKeyTx`. -/
def getAccountRecipientKeyTx (owner recipientKeyID : String) :
    TxM (AccountRecipientKey × Sql.Tick) := do
  let r ← statement (.selectForUpdate (.recipientKey owner recipientKeyID))
  let row ← requireRow r.1
  return (row, r.2)

/-- `allowedAccountRecipientKeyUpdate`: unlike a contact key, an active key does not go
    back to pending verification. -/
def allowedAccountRecipientKeyUpdate (current next : AccountRecipientKeyState) : Bool :=
  if current = next then true
  else if terminalKeyState current || terminalKeyState next then false
  else current == .pendingVerification && next == .active

theorem allowedAccountRecipientKeyUpdate_terminal {current next : AccountRecipientKeyState}
    (h : allowedAccountRecipientKeyUpdate current next = true)
    (hcurrent : terminalKeyState current = true) : current = next := by
  revert h hcurrent
  cases current <;> cases next <;> decide

/-- `UpdateAccountRecipientKey`. -/
def updateAccountRecipientKey (params : UpdateAccountRecipientKeyParams) :
    RepoM AccountRecipientKey := do
  let current ← getAccountRecipientKey params.ownerAccountID params.recipientKeyID
  let label := params.displayLabel.getD current.1.displayLabel
  let state := params.keyState.getD current.1.keyState
  require (allowedAccountRecipientKeyUpdate current.1.keyState state = true) .invalidState
  let r ← execute (.write (.updateRecipientKey params.ownerAccountID params.recipientKeyID label
    state current.2.now))
  require (r.1 ≠ (0 : Nat)) .notFound
  let row ← getAccountRecipientKey params.ownerAccountID params.recipientKeyID
  return row.1

/-- `setAccountRecipientKeyTerminalState`: unlike for a contact key, the read and the write
    are statements of their own, and nothing is recorded for the audit. -/
def setAccountRecipientKeyTerminalState (owner recipientKeyID : String)
    (state : AccountRecipientKeyState) : RepoM AccountRecipientKey := do
  let current ← getAccountRecipientKey owner recipientKeyID
  require (terminalKeyState current.1.keyState = false ∨ current.1.keyState = state) .invalidState
  if current.1.keyState = state then return current.1
  else
    let now := current.2.now
    let r ← execute (.write (.setRecipientKeyState owner recipientKeyID state
      (if state = .revoked then some now else none) (if state = .lost then some now else none) now))
    require (r.1 ≠ (0 : Nat)) .notFound
    let row ← getAccountRecipientKey owner recipientKeyID
    return row.1

/-- `RevokeAccountRecipientKey`. -/
def revokeAccountRecipientKey (owner recipientKeyID : String) : RepoM AccountRecipientKey :=
  setAccountRecipientKeyTerminalState owner recipientKeyID .revoked

/-- `MarkAccountRecipientKeyLost`. -/
def markAccountRecipientKeyLost (owner recipientKeyID : String) : RepoM AccountRecipientKey :=
  setAccountRecipientKeyTerminalState owner recipientKeyID .lost

/-- `ReplaceAccountRecipientKey`. -/
def replaceAccountRecipientKey (env : Env) (params : ReplaceAccountRecipientKeyParams) :
    RepoM AccountRecipientKey :=
  transaction .recipientKey fun _ => do
    let current ← getAccountRecipientKeyTx params.ownerAccountID params.recipientKeyID
    require (terminalKeyState current.1.keyState = false) .invalidState
    let v ← statement (.select (.recipientKeyVersion params.ownerAccountID current.1.recipientID))
    let replacement := newAccountRecipientKey env v.2
      { ownerAccountID := params.ownerAccountID
        recipientID := current.1.recipientID
        recipientType := current.1.recipientType
        keyID := params.keyID
        displayLabel := params.displayLabel
        scheme := params.scheme
        suiteID := params.suiteID
        publicKey := params.publicKey
        publicKeyFingerprint := params.publicKeyFingerprint
        keyState := params.keyState } current.1.recipientID v.1
    let r ← statement (.write (.insertRecipientKey replacement)) .duplicate
    let marked ← statement (.write (.replaceRecipientKey params.ownerAccountID params.recipientKeyID
      replacement.id r.2.now))
    require (marked.1 ≠ (0 : Nat)) .notFound
    return replacement

/-! ### Trusted-contact relationships -/

/-- `CreateTrustedContactRelationshipParams`. -/
structure CreateTrustedContactRelationshipParams where
  ownerAccountID : String
  recipientAccountID : String
  relationshipRole : String
  displayLabel : String
  deriving DecidableEq, Repr

/-- `ReplaceTrustedContactRelationshipParams`. -/
structure ReplaceTrustedContactRelationshipParams where
  ownerAccountID : String
  relationshipID : String
  recipientAccountID : String
  relationshipRole : String
  displayLabel : String
  deriving DecidableEq, Repr

/-- `ValidTrustedContactRelationshipRole`. -/
def validTrustedContactRelationshipRole (role : String) : Bool := role == "trusted_contact"

/-- `newTrustedContactRelationship`. -/
def newTrustedContactRelationship (env : Env) (tick : Sql.Tick)
    (params : CreateTrustedContactRelationshipParams) : TrustedContactRelationship :=
  { id := drawID env "tcr" tick
    ownerAccountID := params.ownerAccountID
    recipientAccountID := params.recipientAccountID
    relationshipRole := params.relationshipRole
    relationshipState := .pendingInvite
    displayLabel := params.displayLabel
    createdAt := tick.now
    updatedAt := tick.now
    invitedAt := tick.now }

/-- `requireNoOpenTrustedContactRelationshipTx`. -/
def requireNoOpenTrustedContactRelationship (owner recipient role exclude : String) :
    TxM Sql.Tick := do
  let r ← statement (.select (.openRelationship owner recipient role exclude))
  require (r.1 = false) .duplicate
  return r.2

/-- `CreateTrustedContactRelationship`. -/
def createTrustedContactRelationship (env : Env) (params : CreateTrustedContactRelationshipParams) :
    RepoM TrustedContactRelationship := do
  let role := if params.relationshipRole = "" then "trusted_contact" else params.relationshipRole
  require (validTrustedContactRelationshipRole role = true) .invalidState
  transaction .relationship fun _ => do
    require (params.ownerAccountID ≠ params.recipientAccountID) .invalidState
    let _ ← requireActiveAccountForTrustedContact params.recipientAccountID
    let tick ← requireNoOpenTrustedContactRelationship params.ownerAccountID
      params.recipientAccountID role ""
    let relationship := newTrustedContactRelationship env tick
      { params with relationshipRole := role }
    let _ ← statement (.write (.insertRelationship relationship)) .duplicate
    return relationship

/-- `GetTrustedContactRelationshipForAccount`. -/
def getTrustedContactRelationshipForAccount (accountID relationshipID : String) :
    RepoM (TrustedContactRelationship × Sql.Tick) := do
  let r ← execute (.select (.relationshipFor accountID relationshipID))
  let row ← requireRow r.1
  return (row, r.2)

/-- `setRecipientTrustedContactRelationshipState`: the update checks the state itself; a
    failed lookup after it is reported as a missing row.  The method reads the clock before
    its first statement. -/
def setRecipientTrustedContactRelationshipState (recipient relationshipID : String)
    (state : RelationshipState) (now : Time) : RepoM TrustedContactRelationship := do
  let r ← execute (.write (.answerRelationship recipient relationshipID state
    (if state = .active then some now else none) (if state = .declined then some now else none)
    now))
  if r.1 = (0 : Nat) then
    match ← (ExceptT.lift (getTrustedContactRelationshipForAccount recipient relationshipID).run :
        RepoM (Except RepoError (TrustedContactRelationship × Sql.Tick))) with
    | .ok relationship =>
      if relationship.1.recipientAccountID = recipient then throw .invalidState
      else throw .notFound
    | .error _ => throw .notFound
  else
    let row ← getTrustedContactRelationshipForAccount recipient relationshipID
    return row.1

/-- `AcceptTrustedContactRelationship`. -/
def acceptTrustedContactRelationship (recipient relationshipID : String) (now : Time) :
    RepoM TrustedContactRelationship :=
  setRecipientTrustedContactRelationshipState recipient relationshipID .active now

/-- `DeclineTrustedContactRelationship`. -/
def declineTrustedContactRelationship (recipient relationshipID : String) (now : Time) :
    RepoM TrustedContactRelationship :=
  setRecipientTrustedContactRelationshipState recipient relationshipID .declined now

/-- `RevokeTrustedContactRelationship`: the read and the write are statements of their
    own. -/
def revokeTrustedContactRelationship (owner relationshipID revokedBy : String) :
    RepoM TrustedContactRelationship := do
  let current ← getTrustedContactRelationshipForAccount owner relationshipID
  require (current.1.ownerAccountID = owner) .notFound
  if current.1.relationshipState = .revoked then return current.1
  else
    require (terminalRelationshipState current.1.relationshipState = false) .invalidState
    let r ← execute (.write (.revokeRelationship owner relationshipID revokedBy current.2.now))
    require (r.1 ≠ (0 : Nat)) .notFound
    let row ← getTrustedContactRelationshipForAccount owner relationshipID
    return row.1

/-- `getTrustedContactRelationshipTx`. -/
def getTrustedContactRelationshipTx (relationshipID : String) :
    TxM (TrustedContactRelationship × Sql.Tick) := do
  let r ← statement (.selectForUpdate (.relationship relationshipID))
  let row ← requireRow r.1
  return (row, r.2)

/-- `ReplaceTrustedContactRelationship`. -/
def replaceTrustedContactRelationship (env : Env)
    (params : ReplaceTrustedContactRelationshipParams) : RepoM TrustedContactRelationship :=
  transaction .relationship fun _ => do
    let current ← getTrustedContactRelationshipTx params.relationshipID
    require (current.1.ownerAccountID = params.ownerAccountID) .notFound
    require (terminalRelationshipState current.1.relationshipState = false) .invalidState
    let recipient :=
      if params.recipientAccountID = "" then current.1.recipientAccountID
      else params.recipientAccountID
    let role :=
      if params.relationshipRole = "" then current.1.relationshipRole else params.relationshipRole
    require (validTrustedContactRelationshipRole role = true) .invalidState
    require (params.ownerAccountID ≠ recipient) .invalidState
    let _ ← requireActiveAccountForTrustedContact recipient
    let tick ← requireNoOpenTrustedContactRelationship params.ownerAccountID recipient role
      current.1.id
    let replacement := newTrustedContactRelationship env tick
      { ownerAccountID := params.ownerAccountID
        recipientAccountID := recipient
        relationshipRole := role
        displayLabel := params.displayLabel }
    let r ← statement (.write (.replaceRelationship params.ownerAccountID current.1.id tick.now))
    require (r.1 ≠ (0 : Nat)) .notFound
    let _ ← statement (.write (.insertRelationship replacement)) .duplicate
    let _ ← statement (.write (.linkRelationship params.ownerAccountID current.1.id replacement.id))
    return replacement

/-! ### Requests -/

/-- The calls of the repository, and what account management does to the accounts. -/
inductive Request
  | createContactPublicKey (params : CreateContactPublicKeyParams)
  | updateContactPublicKey (params : UpdateContactPublicKeyParams)
  | revokeContactPublicKey (owner publicKeyID : String)
  | markContactPublicKeyLost (owner publicKeyID : String)
  | replaceContactPublicKey (params : ReplaceContactPublicKeyParams)
  | createAccountRecipientKey (params : CreateAccountRecipientKeyParams)
  | updateAccountRecipientKey (params : UpdateAccountRecipientKeyParams)
  | revokeAccountRecipientKey (owner recipientKeyID : String)
  | markAccountRecipientKeyLost (owner recipientKeyID : String)
  | replaceAccountRecipientKey (params : ReplaceAccountRecipientKeyParams)
  | createTrustedContactRelationship (params : CreateTrustedContactRelationshipParams)
  | acceptTrustedContactRelationship (recipient relationshipID : String) (now : Time)
  | declineTrustedContactRelationship (recipient relationshipID : String) (now : Time)
  | revokeTrustedContactRelationship (owner relationshipID revokedBy : String)
  | replaceTrustedContactRelationship (params : ReplaceTrustedContactRelationshipParams)
  | setAccounts (new active : List String)
  deriving DecidableEq, Repr

/-- What a call returns. -/
inductive Row
  | contactKey (key : ContactPublicKey)
  | recipientKey (key : AccountRecipientKey)
  | relationship (relationship : TrustedContactRelationship)
  | none
  deriving DecidableEq, Repr

/-- A method, with its row among the rows of all methods. -/
def returning {α : Type} (f : α → Row) (method : RepoM α) :
    Prog schema.Call schema.Answer (Except RepoError Row) :=
  (f <$> method : RepoM Row).run

/-- The program of a call. -/
def main (env : Env) : Request → Prog schema.Call schema.Answer (Except RepoError Row)
  | .createContactPublicKey p => returning .contactKey (createContactPublicKey env p)
  | .updateContactPublicKey p => returning .contactKey (updateContactPublicKey p)
  | .revokeContactPublicKey o k => returning .contactKey (revokeContactPublicKey env o k)
  | .markContactPublicKeyLost o k => returning .contactKey (markContactPublicKeyLost env o k)
  | .replaceContactPublicKey p => returning .contactKey (replaceContactPublicKey env p)
  | .createAccountRecipientKey p => returning .recipientKey (createAccountRecipientKey env p)
  | .updateAccountRecipientKey p => returning .recipientKey (updateAccountRecipientKey p)
  | .revokeAccountRecipientKey o k => returning .recipientKey (revokeAccountRecipientKey o k)
  | .markAccountRecipientKeyLost o k => returning .recipientKey (markAccountRecipientKeyLost o k)
  | .replaceAccountRecipientKey p => returning .recipientKey (replaceAccountRecipientKey env p)
  | .createTrustedContactRelationship p =>
    returning .relationship (createTrustedContactRelationship env p)
  | .acceptTrustedContactRelationship a r now =>
    returning .relationship (acceptTrustedContactRelationship a r now)
  | .declineTrustedContactRelationship a r now =>
    returning .relationship (declineTrustedContactRelationship a r now)
  | .revokeTrustedContactRelationship o r b =>
    returning .relationship (revokeTrustedContactRelationship o r b)
  | .replaceTrustedContactRelationship p =>
    returning .relationship (replaceTrustedContactRelationship env p)
  | .setAccounts new active =>
    returning (fun _ => Row.none) (execute (.write (.setAccounts new active)))

end SafetyRecorder.Sharing
