import SafetyRecorder.Lib.Process
import SafetyRecorder.Incidents.Consistency

namespace SafetyRecorder

open Table Process

/-!
# PostgreSQL — statements, row locks and transactions

The PostgreSQL repository works under `READ COMMITTED`: the statements of different
transactions interleave, each sees the rows committed before it together with the
writes of its own transaction, and a row that is written or read `FOR UPDATE` stays
locked until the transaction ends.

* `Read`, `Write`, `Stmt` — the statements of the repository;
* `Pending` — a write resolved to the rows it has found; `Pending.apply` performs it
  when the transaction commits;
* `PgCall`, `pgExec` — the calls of a repository method: a statement waits (is not
  enabled) while another transaction holds a row it needs;
* a statement can fail, an error aborts its transaction, and the outcome of a commit
  can get lost.

The parent rows an insert refers to are rows its transaction holds already, so the
weaker locks of the foreign keys are not modelled.
-/

/-- The tables that have rows to lock. -/
inductive TableName
  | accounts | incidents | streams | chunks | checkins | tokens | uploads | grants | wrappedKeys
  | decisions | items
  deriving DecidableEq, Repr

/-- A row, by table and primary key. -/
abbrev RowKey := TableName × String

/-- The tables `CompleteIncidentDeletion` prunes, in its order. -/
inductive ChildTable
  | wrappedKeys | grants | uploads | tokens | checkins | chunks | streams
  deriving DecidableEq, Repr

/-- The statements that write. -/
inductive Write
  | insertIncident (row : Incident)
  | insertStream (row : MediaStream)
  | completeStream (incidentID streamID : String) (expectedChunkCount : Int) (now : Time)
  | failStream (incidentID streamID reason : String) (now : Time)
  | insertChunk (row : Chunk)
  | closeIncident (id : String) (now : Time)
  | insertDecision (row : DeletionDecision)
  | insertItem (row : DeletionItem)
  | setItemCount (decisionID : String) (itemCount : Int) (now : Time)
  | setDeletionState (incidentID : String) (state : DeletionState) (now : Time)
  | claimDecision (decisionID : String) (staleDeletingBefore now : Time)
  | itemDeleted (itemID : String) (now : Time)
  | itemFailed (itemID errorCode : String) (now : Time)
  | insertAuditEvent (row : SharingAuditEvent)
  | deleteChildren (table : ChildTable) (incidentID : String)
  | deleteItems (decisionID : String)
  | decisionDeleted (decisionID : String) (now : Time)
  | decisionFailed (decisionID errorCode : String) (now : Time)
  | tombstone (incidentID : String) (now : Time)
  | deleteIncident (incidentID : String)
  deriving DecidableEq, Repr

/-- The errors of a statement; `failed` covers lost connections, cancellations,
    deadlocks and statements on a transaction that is over. -/
inductive PgError
  | unique | foreignKey | check | failed
  deriving DecidableEq, Repr

/-- The given rows of one incident leave a table. -/
def deleteRows {α : Type} (incidentOf idOf : α → String) (incidentID : String) (rows : List String)
    (t : List α) : List α :=
  deleteWhere (fun r => incidentOf r == incidentID && rows.contains (idOf r)) t

namespace DB

/-- The identifiers of the rows of one incident in a child table. -/
def childRows (db : DB) (incidentID : String) : ChildTable → List String
  | .wrappedKeys => (db.wrappedKeys.filter (·.incidentID == incidentID)).map (·.id)
  | .grants => (db.grants.filter (·.incidentID == incidentID)).map (·.id)
  | .uploads => (db.uploads.filter (·.incidentID == incidentID)).map (·.id)
  | .tokens => (db.tokens.filter (·.incidentID == incidentID)).map (·.id)
  | .checkins => (db.checkins.filter (·.incidentID == incidentID)).map (·.id)
  | .chunks => (db.chunks.filter (·.incidentID == incidentID)).map (·.id)
  | .streams => (db.streams.filter (·.incidentID == incidentID)).map (·.id)

/-- Rows of one incident leave a child table. -/
def deleteChildRows (db : DB) (i : String) (rows : List String) : ChildTable → DB
  | .wrappedKeys => { db with wrappedKeys := deleteRows (·.incidentID) (·.id) i rows db.wrappedKeys }
  | .grants => { db with grants := deleteRows (·.incidentID) (·.id) i rows db.grants }
  | .uploads => { db with uploads := deleteRows (·.incidentID) (·.id) i rows db.uploads }
  | .tokens => { db with tokens := deleteRows (·.incidentID) (·.id) i rows db.tokens }
  | .checkins => { db with checkins := deleteRows (·.incidentID) (·.id) i rows db.checkins }
  | .chunks => { db with chunks := deleteRows (·.incidentID) (·.id) i rows db.chunks }
  | .streams => { db with streams := deleteRows (·.incidentID) (·.id) i rows db.streams }

end DB

/-- The table a child table is. -/
def ChildTable.name : ChildTable → TableName
  | .wrappedKeys => .wrappedKeys
  | .grants => .grants
  | .uploads => .uploads
  | .tokens => .tokens
  | .checkins => .checkins
  | .chunks => .chunks
  | .streams => .streams

namespace Write

/-- The rows an update or delete finds. -/
def rows (env : Env) (db : DB) : Write → List String
  | completeStream i s _ _ | failStream i s _ _ =>
    (db.streams.filter fun r => r.incidentID == i && r.id == s).map (·.id)
  | closeIncident i _ | setDeletionState i _ _ | tombstone i _ =>
    (db.incidents.filter (·.id == i)).map (·.id)
  | setItemCount d _ _ | decisionDeleted d _ | decisionFailed d _ _ =>
    (db.decisions.filter (·.id == d)).map (·.id)
  | claimDecision d stale _ =>
    (db.decisions.filter fun r => r.id == d && runnable env stale r).map (·.id)
  | itemDeleted i _ | itemFailed i _ _ => (db.items.filter (·.id == i)).map (·.id)
  | deleteChildren table i => db.childRows i table
  | deleteItems d => (db.items.filter (·.decisionID == d)).map (·.id)
  | deleteIncident i =>
    (db.incidents.filter fun r => r.id == i && r.deletionState == .deleted).map (·.id)
  | insertIncident _ | insertStream _ | insertChunk _ | insertDecision _ | insertItem _
  | insertAuditEvent _ => []

/-- The table whose rows a write updates or deletes. -/
def table : Write → TableName
  | completeStream .. | failStream .. | insertStream _ => .streams
  | closeIncident .. | setDeletionState .. | tombstone .. | deleteIncident _
  | insertIncident _ => .incidents
  | setItemCount .. | decisionDeleted .. | decisionFailed .. | claimDecision ..
  | insertDecision _ => .decisions
  | itemDeleted .. | itemFailed .. | deleteItems _ | insertItem _ => .items
  | deleteChildren table _ => table.name
  | insertChunk _ => .chunks
  | insertAuditEvent _ => .accounts

/-- The constraint a write violates. -/
def violation (db : DB) : Write → Option PgError
  | insertIncident row =>
    if row.ownerAccountID = "" ∨ row.ownerAccountID ∈ db.accounts then none else some .foreignKey
  | insertStream row =>
    if db.streams.any (·.id == row.id) then some .unique
    else if db.incidents.any (·.id == row.incidentID) then none else some .foreignKey
  | completeStream _ _ n _ => if 0 < n then none else some .check
  | insertChunk row =>
    if db.chunks.any (fun r => r.id == row.id ||
        sameIdentity r row.incidentID row.streamID row.mediaType row.chunkIndex) then some .unique
    else if row.chunkIndex < 0 ∨ (row.streamID ≠ "" ∧ row.chunkIndex ≤ 0) ∨ row.byteSize < 0 then
      some .check
    else if db.incidents.any (·.id == row.incidentID) && (row.streamID == "" || db.streams.any
        fun st => st.incidentID == row.incidentID && st.id == row.streamID &&
          st.mediaType == row.mediaType) then none
    else some .foreignKey
  | insertDecision row =>
    if db.decisions.any (fun r => r.id == row.id || r.incidentID == row.incidentID) then some .unique
    else if sourceColumnAccepts row.source = false then some .check
    else if db.incidents.any (·.id == row.incidentID) then none else some .foreignKey
  | insertItem row =>
    if db.items.any (fun r => r.id == row.id ||
        (r.decisionID == row.decisionID && r.storedPath == row.storedPath)) then some .unique
    else if db.decisions.any (·.id == row.decisionID) then none else some .foreignKey
  | _ => none

end Write

/-- A write together with the rows it has found. -/
structure Pending where
  write : Write
  rows : List String

/-- What a write does to the database. -/
def Pending.apply (p : Pending) (db : DB) : DB :=
  match p.write with
  | .insertIncident row => { db with incidents := db.incidents ++ [row] }
  | .insertStream row => { db with streams := db.streams ++ [row] }
  | .completeStream _ _ n now => { db with
      streams := updateWhere (fun r => p.rows.contains r.id) (markComplete ⟨0, now⟩ n) db.streams }
  | .failStream _ _ reason now => { db with
      streams := updateWhere (fun r => p.rows.contains r.id) (markFailed ⟨0, now⟩ reason) db.streams }
  | .insertChunk row => { db with chunks := db.chunks ++ [row] }
  | .closeIncident _ now => { db with
      incidents := updateWhere (fun r => p.rows.contains r.id)
        (fun r => { r with status := .closed, updatedAt := now }) db.incidents }
  | .insertDecision row => { db with decisions := db.decisions ++ [row] }
  | .insertItem row => { db with items := db.items ++ [row] }
  | .setItemCount _ n now => { db with
      decisions := updateWhere (fun r => p.rows.contains r.id)
        (fun r => { r with itemCount := n, updatedAt := now }) db.decisions }
  | .setDeletionState _ state now => { db with
      incidents := updateWhere (fun r => p.rows.contains r.id)
        (fun r => { r with deletionState := state, updatedAt := now }) db.incidents }
  | .claimDecision _ _ now => { db with
      decisions := updateWhere (fun r => p.rows.contains r.id) (markDeleting now) db.decisions }
  | .itemDeleted _ now => { db with
      items := updateWhere (fun r => p.rows.contains r.id) (itemDeleted now) db.items }
  | .itemFailed _ code now => { db with
      items := updateWhere (fun r => p.rows.contains r.id) (itemFailed now code) db.items }
  | .insertAuditEvent row => { db with auditEvents := db.auditEvents ++ [row] }
  | .deleteChildren table i => db.deleteChildRows i p.rows table
  | .deleteItems _ => { db with items := deleteWhere (fun r => p.rows.contains r.id) db.items }
  | .decisionDeleted _ now => { db with
      decisions := updateWhere (fun r => p.rows.contains r.id) (markDeleted now) db.decisions }
  | .decisionFailed _ code now => { db with
      decisions := updateWhere (fun r => p.rows.contains r.id) (markDeletionFailed now code)
        db.decisions }
  | .tombstone _ now => { db with
      incidents := updateWhere (fun r => p.rows.contains r.id) (tombstone now) db.incidents }
  -- the foreign keys of the child tables cascade
  | .deleteIncident _ => { db with
      incidents := deleteWhere (fun r => p.rows.contains r.id) db.incidents
      streams := deleteWhere (fun r => p.rows.contains r.incidentID) db.streams
      chunks := deleteWhere (fun r => p.rows.contains r.incidentID) db.chunks
      checkins := deleteWhere (fun r => p.rows.contains r.incidentID) db.checkins
      tokens := deleteWhere (fun r => p.rows.contains r.incidentID) db.tokens
      uploads := deleteWhere (fun r => p.rows.contains r.incidentID) db.uploads
      grants := deleteWhere (fun r => p.rows.contains r.incidentID) db.grants
      wrappedKeys := deleteWhere (fun r => p.rows.contains r.incidentID) db.wrappedKeys
      decisions := deleteWhere (fun r => p.rows.contains r.incidentID) db.decisions
      items := deleteWhere (fun r => p.rows.contains r.incidentID) db.items }

/-- The writes of a transaction, oldest first. -/
def applyAll (ws : List Pending) (db : DB) : DB := ws.foldl (fun db p => p.apply db) db

@[simp] theorem applyAll_nil (db : DB) : applyAll [] db = db := rfl

@[simp] theorem applyAll_append (ws : List Pending) (p : Pending) (db : DB) :
    applyAll (ws ++ [p]) db = p.apply (applyAll ws db) := by
  simp [applyAll]

/-! ### Reads -/

/-- The statements that read without locking. -/
inductive Read
  | stream (incidentID streamID : String)
  | incident (id : String)
  | completionChunks (incidentID streamID : String)
  | chunkIdentity (params : CreateChunkParams)
  | committedBlobBytes (accountID : String)
  | decisionOf (incidentID : String)
  | decision (id : String)
  | storedPaths (incidentID : String)
  | remainingItems (decisionID : String)
  | tombstones (cutoff : Time) (limit : Int)
  deriving DecidableEq, Repr

/-- The rows a read returns. -/
def Read.Result : Read → Type
  | stream .. => Option MediaStream
  | incident _ => Option Incident
  | completionChunks .. => List Chunk
  | chunkIdentity _ => Bool
  | committedBlobBytes _ => Int
  | decisionOf _ => Option DeletionDecision
  | decision _ => Option DeletionDecision
  | storedPaths _ => List String
  | remainingItems _ => Nat
  | tombstones .. => List String

/-- The read on what the statement sees. -/
def Read.run (env : Env) (db : DB) : (q : Read) → q.Result
  | stream i s => db.stream? i s
  | incident i => db.incident? i
  | completionChunks i s => completionRows db i s
  | chunkIdentity p => chunkIdentityExists db p
  | committedBlobBytes a => accountCommittedBlobBytes db a
  | decisionOf i => db.decisionOf? i
  | decision d => db.decision? d
  | storedPaths i => db.deletionStoredPaths i
  | remainingItems d => (db.items.filter fun it => it.decisionID == d && it.state != .deleted).length
  | tombstones cutoff limit => pruneTombstoneIncidentIDs env cutoff limit db

/-- A statement: a read `FOR UPDATE`, a plain read, or a write. -/
inductive Stmt
  | lockIncident (id : String)
  | lockStream (incidentID streamID : String)
  | lockAccount (id : String)
  | read (q : Read)
  | write (w : Write)
  deriving DecidableEq, Repr

namespace Stmt

/-- What a statement returns; a write returns the number of rows it found. -/
def Result : Stmt → Type
  | lockIncident _ => Option Incident
  | lockStream .. => Option MediaStream
  | lockAccount _ => Option String
  | read q => q.Result
  | write _ => Nat

/-- The rows a statement locks. -/
def locks (env : Env) (db : DB) : Stmt → List RowKey
  | lockIncident i => (db.incidents.filter (·.id == i)).map fun r => (.incidents, r.id)
  | lockStream i s =>
    (db.streams.filter fun r => r.incidentID == i && r.id == s).map fun r => (.streams, r.id)
  | lockAccount a => (db.accounts.filter (· == a)).map fun r => (.accounts, r)
  | read _ => []
  | write w => (w.rows env db).map fun r => (w.table, r)

/-- The statement on what it sees. -/
def result (env : Env) (db : DB) : (s : Stmt) → s.Result
  | lockIncident i => db.incident? i
  | lockStream i s => db.stream? i s
  | lockAccount a => db.accounts.find? (· == a)
  | read q => q.run env db
  | write w => (w.rows env db).length

/-- The constraint the statement violates. -/
def violation (db : DB) : Stmt → Option PgError
  | write w => w.violation db
  | _ => none

/-- What the statement adds to the writes of its transaction. -/
def pending (env : Env) (db : DB) : Stmt → List Pending
  | write w => [⟨w, w.rows env db⟩]
  | _ => []

end Stmt

/-! ### Transactions -/

/-- The repository method a transaction belongs to. -/
inductive PgOp
  | createMediaStream | completeMediaStream | failMediaStream | createChunk | closeIncident
  | requestIncidentDeletion | markIncidentDeletionDeleting
  | completeIncidentDeletion (decisionID : String) | failIncidentDeletion
  | pruneIncidentDeletionTombstones
  deriving DecidableEq, Repr

/-- A transaction in progress. -/
structure PgTx where
  op : PgOp
  writes : List Pending := []

/-- The database server. -/
structure PgWorld where
  /-- What is committed. -/
  db : DB := {}
  /-- The transactions in progress. -/
  txs : Nat → Option PgTx := fun _ => none
  /-- The row locks and who holds them. -/
  locks : RowKey → Option Nat := fun _ => none
  nextTx : Nat := 0
  nextID : Nat := 0

/-- What a repository method asks for. -/
inductive PgCall
  | timeNow
  | newID (p : String)
  | beginTx (op : PgOp)
  | stmt (tx : Nat) (s : Stmt)
  | commit (tx : Nat)
  | rollback (tx : Nat)
  /-- A statement outside a transaction, committed at once. -/
  | exec (w : Write)
  | query (q : Read)

/-- The answers. -/
def PgAnswer : PgCall → Type
  | .timeNow => Time
  | .newID _ => String
  | .beginTx _ => Except PgError Nat
  | .stmt _ s => Except PgError s.Result
  | .commit _ => Except PgError Unit
  | .rollback _ => Unit
  | .exec _ => Except PgError Nat
  | .query q => Except PgError q.Result

/-- What can go wrong with a call. -/
inductive PgFault
  | none | failed | lostCommit
  deriving DecidableEq, Repr

/-- What the environment chooses at a call. -/
structure PgChoice where
  now : Time := 0
  fault : PgFault := .none
  deriving DecidableEq, Repr

namespace PgWorld

/-- End a transaction: its locks are released. -/
def close (w : PgWorld) (tx : Nat) : PgWorld :=
  { w with
    txs := Function.update w.txs tx none
    locks := fun k => if w.locks k = some tx then none else w.locks k }

/-- Another transaction holds one of the rows. -/
def waits (w : PgWorld) (tx : Option Nat) (keys : List RowKey) : Bool :=
  keys.any fun k => w.locks k != none && w.locks k != tx

end PgWorld

/-- One call on the database server; `none` while a statement has to wait. -/
def pgExec (env : Env) (w : PgWorld) : (c : PgCall) → PgChoice → Option (PgAnswer c × PgWorld)
  | .timeNow, ch => some (ch.now, w)
  | .newID p, _ => some (env.newID p w.nextID, { w with nextID := w.nextID + 1 })
  | .beginTx op, ch =>
    if ch.fault = .none then
      some (.ok w.nextTx, { w with
        txs := Function.update w.txs w.nextTx (some ⟨op, []⟩)
        nextTx := w.nextTx + 1 })
    else some (.error .failed, w)
  | .stmt tx s, ch =>
    match w.txs tx with
    | none => some (.error .failed, w)
    | some t =>
      let view := applyAll t.writes w.db
      if ch.fault ≠ .none then some (.error .failed, w.close tx)
      else if w.waits (some tx) (s.locks env view) then none
      else match s.violation view with
        | some e => some (.error e, w.close tx)
        | none => some (.ok (s.result env view), { w with
            txs := Function.update w.txs tx (some { t with writes := t.writes ++ s.pending env view })
            locks := fun k => if k ∈ s.locks env view then some tx else w.locks k })
  | .commit tx, ch =>
    match w.txs tx with
    | none => some (.error .failed, w)
    | some t =>
      match ch.fault with
      | .none => some (.ok (), { w.close tx with db := applyAll t.writes w.db })
      | .lostCommit => some (.error .failed, { w.close tx with db := applyAll t.writes w.db })
      | .failed => some (.error .failed, w.close tx)
  | .rollback tx, _ => some ((), w.close tx)
  | .exec wr, ch =>
    if ch.fault = .failed then some (.error .failed, w)
    else if w.waits none ((Stmt.write wr).locks env w.db) then none
    else match wr.violation w.db with
      | some e => some (.error e, w)
      | none =>
        let w' := { w with db := Pending.apply ⟨wr, wr.rows env w.db⟩ w.db }
        if ch.fault = .none then some (.ok (wr.rows env w.db).length, w') else some (.error .failed, w')
  | .query q, ch =>
    if ch.fault = .none then some (.ok (q.run env w.db), w) else some (.error .failed, w)

end SafetyRecorder
