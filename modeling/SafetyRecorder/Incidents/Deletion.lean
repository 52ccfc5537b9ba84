import Mathlib.Data.List.Dedup
import Mathlib.Data.List.Sort
import SafetyRecorder.Incidents.Chunks

namespace SafetyRecorder

open Table Checked

/-!
# Incidents — deletion transactions

The transactions of `internal/incidents/deletion.go` and `retention_pruning.go`:
a deletion decision with one item for each stored path, the claim by a worker,
the outcome of each item, completion and failure, and the pruning of tombstones.

* `requestIncidentDeletion` snapshots the stored paths with the decision;
* `markIncidentDeletionDeleting` claims a runnable or stale decision;
* `completeIncidentDeletion` prunes the incident; `failIncidentDeletion` makes the
  decision retryable.  Neither looks at the state of the decision;
* `…_ok` — what each successful call has checked and written.
-/

/-- `IncidentDeletionRequest`. -/
structure IncidentDeletionRequest where
  incidentID : String
  source : DeletionSource
  reasonCode : String := ""
  actorAccountID : String := ""
  allowOpen : Bool := false
  requireOwnerID : String := ""
  retentionCutoff : Option Time := none
  deriving DecidableEq, Repr

namespace DB

/-- `getIncidentDeletionStatusTx`. -/
def decisionOf? (db : DB) (incidentID : String) : Option DeletionDecision :=
  db.decisions.find? (·.incidentID == incidentID)

/-- `getIncidentDeletionStatusByIDTx`. -/
def decision? (db : DB) (id : String) : Option DeletionDecision :=
  db.decisions.find? (·.id == id)

/-- `deletionStoredPaths`: the distinct stored paths of the incident's chunks, in
    order. -/
def deletionStoredPaths (db : DB) (incidentID : String) : List String :=
  ((db.chunks.filter (·.incidentID == incidentID)).map (·.storedPath)).dedup.insertionSort (· ≤ ·)

/-- The incident with the given id gets a new deletion state. -/
def setDeletionState (db : DB) (incidentID : String) (state : DeletionState) (now : Time) :
    List Incident :=
  updateWhere (·.id == incidentID) (fun i => { i with deletionState := state, updatedAt := now })
    db.incidents

end DB

variable {id : String}

theorem mem_of_decision? {db : DB} {dec : DeletionDecision}
    (h : db.decision? id = some dec) : dec ∈ db.decisions ∧ dec.id = id :=
  ⟨List.mem_of_find?_eq_some h, by simpa using List.find?_some h⟩

/-! ### Requesting a deletion -/

/-- The sources the `source` column of SQLite accepts. -/
def sourceColumnAccepts : DeletionSource → Bool
  | .operatorCLI => false
  | _ => true

/-- The decision `RequestIncidentDeletion` inserts. -/
def newDecision (env : Env) (d : Draw) (params : IncidentDeletionRequest) (itemCount : Nat) :
    DeletionDecision :=
  { id := env.newID "del" d.next
    incidentID := params.incidentID
    source := params.source
    reasonCode := params.reasonCode
    actorAccountID := params.actorAccountID
    allowOpen := params.allowOpen
    state := .pending
    itemCount := itemCount
    requestedAt := d.now
    updatedAt := d.now }

/-- The items `RequestIncidentDeletion` inserts, one for each path; the identifiers
    are drawn one after the other. -/
def newItems (env : Env) (now : Time) (decisionID incidentID : String) :
    Nat → List String → List DeletionItem
  | _, [] => []
  | k, path :: paths =>
    { id := env.newID "dli" k
      decisionID := decisionID
      incidentID := incidentID
      storedPath := path
      state := .pending
      createdAt := now
      updatedAt := now } :: newItems env now decisionID incidentID (k + 1) paths

/-- The checks `RequestIncidentDeletion` makes on an incident without a decision. -/
def requireDeletable (params : IncidentDeletionRequest) (inc : Incident) :
    Except RepoError Unit := do
  ensure (params.requireOwnerID = "" ∨ inc.ownerAccountID = params.requireOwnerID) .notFound
  ensure (inc.deletionState = .active) .invalidState
  ensure (inc.status = .open → params.allowOpen = true) .invalidState
  match params.retentionCutoff with
  | none => return ()
  | some cutoff => ensure (inc.status = .closed ∧ inc.updatedAt ≤ cutoff) .invalidState

/-- `RequestIncidentDeletion`.  A source the column does not accept violates its
    check and is reported as an invalid state. -/
def requestIncidentDeletion (env : Env) (d : Draw) (params : IncidentDeletionRequest) (db : DB) :
    Except RepoError (DeletionDecision × DB) := do
  match db.decisionOf? params.incidentID with
  | some existing =>
    if params.requireOwnerID = "" then
      return (existing, db)
    else
      let inc ← found (db.incident? params.incidentID) .notFound
      ensure (inc.ownerAccountID = params.requireOwnerID) .notFound
      return (existing, db)
  | none =>
    let inc ← found (db.incident? params.incidentID) .notFound
    requireDeletable params inc
    ensure (sourceColumnAccepts params.source = true) .invalidState
    let paths := db.deletionStoredPaths params.incidentID
    let decision := newDecision env d params paths.length
    return (decision,
      { db with
        incidents := db.setDeletionState params.incidentID .pending d.now
        decisions := db.decisions ++ [decision]
        items := db.items ++ newItems env d.now decision.id params.incidentID (d.next + 1) paths })

/-- The identifiers one request draws: the decision's and one for each path. -/
def requestDraws (db : DB) (params : IncidentDeletionRequest) : Nat :=
  1 + (db.deletionStoredPaths params.incidentID).length

/-! ### Reading deletion work -/

/-- The decisions a worker may claim. -/
def runnable (env : Env) (staleDeletingBefore : Time) (dec : DeletionDecision) : Bool :=
  dec.state == .pending || dec.state == .failed ||
    (dec.state == .deleting && env.dbTimeLE dec.updatedAt staleDeletingBefore)

/-- A limit that is not positive means the default of 25. -/
def rowLimit (limit : Int) : Nat := if limit ≤ 0 then 25 else limit.toNat

/-- `ORDER BY key ASC, id ASC`, with the database's comparison of times. -/
def orderBy {α : Type} (env : Env) (key : α → Time) (id : α → String) (rows : List α) : List α :=
  rows.insertionSort fun a b => env.dbTimeLE (key a) (key b) = true ∧
    (env.dbTimeLE (key b) (key a) = true → id a ≤ id b)

/-- `ListRunnableIncidentDeletions`. -/
def listRunnableIncidentDeletions (env : Env) (limit : Int) (staleDeletingBefore : Time) (db : DB) :
    List DeletionDecision :=
  (orderBy env (·.updatedAt) (·.id) (db.decisions.filter (runnable env staleDeletingBefore))).take
    (rowLimit limit)

/-- `ListIncidentDeletionItems`: the items of a decision that still need work. -/
def listIncidentDeletionItems (env : Env) (decisionID : String) (db : DB) : List DeletionItem :=
  orderBy env (·.createdAt) (·.id) (db.items.filter fun it =>
    it.decisionID == decisionID && (it.state == .pending || it.state == .failed))

/-- The incidents `QueueRetentionIncidentDeletions` selects. -/
def retentionCandidates (env : Env) (cutoff : Time) (limit : Int) (db : DB) : List Incident :=
  (orderBy env (·.updatedAt) (·.id) (db.incidents.filter fun i =>
    i.status == .closed && i.deletionState == .active && env.dbTimeLE i.updatedAt cutoff)).take
      (rowLimit limit)

/-! ### Working on a decision -/

/-- The update that claims a decision. -/
def markDeleting (now : Time) (dec : DeletionDecision) : DeletionDecision :=
  { dec with
    state := .deleting
    errorCode := ""
    updatedAt := now
    startedAt := some (dec.startedAt.getD now) }

/-- `MarkIncidentDeletionDeleting`. -/
def markIncidentDeletionDeleting (env : Env) (d : Draw) (decisionID : String)
    (staleDeletingBefore : Time) (db : DB) : Except RepoError (DeletionDecision × DB) := do
  let dec ← found (db.decisions.find? fun dec =>
    dec.id == decisionID && runnable env staleDeletingBefore dec) .notFound
  let claimed := markDeleting d.now dec
  return (claimed,
    { db with
      decisions := updateWhere (fun dec => dec.id == decisionID && runnable env staleDeletingBefore dec)
        (markDeleting d.now) db.decisions
      incidents := db.setDeletionState dec.incidentID .deleting d.now })

/-- The update that records a removed blob. -/
def itemDeleted (now : Time) (it : DeletionItem) : DeletionItem :=
  { it with
    state := .deleted
    attempts := it.attempts + 1
    errorCode := ""
    updatedAt := now
    lastAttemptAt := some now
    completedAt := some now }

/-- The update that records a blob that could not be removed. -/
def itemFailed (now : Time) (errorCode : String) (it : DeletionItem) : DeletionItem :=
  { it with
    state := .failed
    attempts := it.attempts + 1
    errorCode := errorCode
    updatedAt := now
    lastAttemptAt := some now }

/-- `MarkIncidentDeletionItemDeleted` and `MarkIncidentDeletionItemFailed`: update one
    item whatever its state is. -/
def markItem (f : DeletionItem → DeletionItem) (itemID : String) (db : DB) :
    Except RepoError (Unit × DB) := do
  ensure ((db.items.any (·.id == itemID)) = true) .notFound
  return ((), { db with items := updateWhere (·.id == itemID) f db.items })

/-- `MarkIncidentDeletionItemDeleted`. -/
def markIncidentDeletionItemDeleted (d : Draw) (itemID : String) (db : DB) :
    Except RepoError (Unit × DB) :=
  markItem (itemDeleted d.now) itemID db

/-- `MarkIncidentDeletionItemFailed`. -/
def markIncidentDeletionItemFailed (d : Draw) (itemID errorCode : String) (db : DB) :
    Except RepoError (Unit × DB) :=
  markItem (itemFailed d.now errorCode) itemID db

/-- `sharingAuditActorAccountID`. -/
def sharingAuditActorAccountID (actorAccountID ownerAccountID : String) : String :=
  if actorAccountID ≠ "" then actorAccountID else ownerAccountID

/-- The audit event written when the metadata of an owned incident is pruned. -/
def prunedEvent (env : Env) (d : Draw) (dec : DeletionDecision) (owner : String) :
    SharingAuditEvent :=
  { id := env.newID "sae" d.next
    ownerAccountID := owner
    actorAccountID := sharingAuditActorAccountID dec.actorAccountID owner
    action := .incidentMetadataPruned
    outcomeCategory := .deleted
    incidentID := dec.incidentID
    deletionDecisionID := dec.id
    createdAt := d.now }

/-- The update of the decision that completes a deletion. -/
def markDeleted (now : Time) (dec : DeletionDecision) : DeletionDecision :=
  { dec with
    state := .deleted
    errorCode := ""
    updatedAt := now
    completedAt := some now }

/-- The tombstone `CompleteIncidentDeletion` leaves of an incident. -/
def tombstone (now : Time) (inc : Incident) : Incident :=
  { inc with
    status := .closed
    updatedAt := now
    clientLabel := ""
    notes := ""
    incidentMode := none
    captureProfile := none
    escalationPolicy := none
    sharingState := none
    deletionState := .deleted }

/-- The rows of one incident leave the seven child tables. -/
def DB.pruneChildren (db : DB) (incidentID : String) : DB :=
  { db with
    wrappedKeys := deleteWhere (·.incidentID == incidentID) db.wrappedKeys
    grants := deleteWhere (·.incidentID == incidentID) db.grants
    uploads := deleteWhere (·.incidentID == incidentID) db.uploads
    tokens := deleteWhere (·.incidentID == incidentID) db.tokens
    checkins := deleteWhere (·.incidentID == incidentID) db.checkins
    chunks := deleteWhere (·.incidentID == incidentID) db.chunks
    streams := deleteWhere (·.incidentID == incidentID) db.streams }

/-- `CompleteIncidentDeletion`.  The state of the decision is not checked; what is
    checked is that no item is left that is not deleted. -/
def completeIncidentDeletion (env : Env) (d : Draw) (decisionID : String) (db : DB) :
    Except RepoError (DeletionDecision × DB) := do
  let dec ← found (db.decision? decisionID) .notFound
  ensure (db.items.all (fun it => !(it.decisionID == decisionID && it.state != .deleted)) = true)
    .invalidState
  let inc ← found (db.incident? dec.incidentID) .notFound
  let events := if inc.ownerAccountID = "" then [] else [prunedEvent env d dec inc.ownerAccountID]
  let pruned := db.pruneChildren dec.incidentID
  return (markDeleted d.now dec,
    { pruned with
      auditEvents := db.auditEvents ++ events
      items := deleteWhere (·.decisionID == decisionID) db.items
      decisions := updateWhere (·.id == decisionID) (markDeleted d.now) db.decisions
      incidents := updateWhere (·.id == dec.incidentID) (tombstone d.now) db.incidents })

/-- The update of the decision that makes it retryable. -/
def markDeletionFailed (now : Time) (errorCode : String) (dec : DeletionDecision) :
    DeletionDecision :=
  { dec with state := .failed, errorCode := errorCode, updatedAt := now }

/-- `FailIncidentDeletion`.  The state of the decision is not checked. -/
def failIncidentDeletion (d : Draw) (decisionID errorCode : String) (db : DB) :
    Except RepoError (DeletionDecision × DB) := do
  let dec ← found (db.decision? decisionID) .notFound
  return (markDeletionFailed d.now errorCode dec,
    { db with
      decisions := updateWhere (·.id == decisionID) (markDeletionFailed d.now errorCode) db.decisions
      incidents := db.setDeletionState dec.incidentID .failed d.now })

/-! ### Pruning -/

/-- The tokens `pruneTokenIDs` selects: expired or revoked before the cutoff. -/
def prunableToken (env : Env) (cutoff : Time) (t : IncidentToken) : Bool :=
  t.expiresAt.any (env.dbTimeLE · cutoff) || t.revokedAt.any (env.dbTimeLE · cutoff)

/-- `PruneIncidentTokenMetadata`. -/
def pruneIncidentTokenMetadata (env : Env) (cutoff : Time) (limit : Int) (db : DB) : Nat × DB :=
  let tokenIDs := ((((db.tokens.filter (prunableToken env cutoff)).map (·.id)).insertionSort
    (· ≤ ·)).take (rowLimit limit))
  (tokenIDs.length, { db with tokens := deleteWhere (fun t => tokenIDs.contains t.id) db.tokens })

/-- No row of the incident is left in the tables `pruneTombstoneIncidentIDs` looks
    at. -/
def DB.bare (db : DB) (incidentID : String) : Bool :=
  !(db.items.any (·.incidentID == incidentID)) && !(db.uploads.any (·.incidentID == incidentID)) &&
    !(db.tokens.any (·.incidentID == incidentID)) &&
    !(db.checkins.any (·.incidentID == incidentID)) &&
    !(db.chunks.any (·.incidentID == incidentID)) &&
    !(db.streams.any (·.incidentID == incidentID))

/-- The completed decisions whose tombstone may go. -/
def prunableTombstone (env : Env) (cutoff : Time) (db : DB) (dec : DeletionDecision) : Bool :=
  dec.state == .deleted && dec.completedAt.any (env.dbTimeLE · cutoff) &&
    db.bare dec.incidentID &&
    db.incidents.any fun i => i.id == dec.incidentID && i.deletionState == .deleted

/-- `DELETE FROM incidents` for the given ids, with the cascades of the foreign keys. -/
def DB.deleteIncidents (db : DB) (ids : List String) : DB :=
  { db with
    incidents := deleteWhere (fun i => ids.contains i.id && i.deletionState == .deleted) db.incidents
    streams := deleteWhere (fun r => ids.contains r.incidentID) db.streams
    chunks := deleteWhere (fun r => ids.contains r.incidentID) db.chunks
    checkins := deleteWhere (fun r => ids.contains r.incidentID) db.checkins
    tokens := deleteWhere (fun r => ids.contains r.incidentID) db.tokens
    uploads := deleteWhere (fun r => ids.contains r.incidentID) db.uploads
    grants := deleteWhere (fun r => ids.contains r.incidentID) db.grants
    wrappedKeys := deleteWhere (fun r => ids.contains r.incidentID) db.wrappedKeys
    decisions := deleteWhere (fun r => ids.contains r.incidentID) db.decisions
    items := deleteWhere (fun r => ids.contains r.incidentID) db.items }

/-- `pruneTombstoneIncidentIDs`. -/
def pruneTombstoneIncidentIDs (env : Env) (cutoff : Time) (limit : Int) (db : DB) : List String :=
  ((orderBy env (fun dec => dec.completedAt.getD 0) (·.incidentID)
    (db.decisions.filter (prunableTombstone env cutoff db))).take (rowLimit limit)).map
      (·.incidentID)

/-- `PruneIncidentDeletionTombstones`. -/
def pruneIncidentDeletionTombstones (env : Env) (cutoff : Time) (limit : Int) (db : DB) :
    Nat × DB :=
  let ids := pruneTombstoneIncidentIDs env cutoff limit db
  (ids.length, db.deleteIncidents ids)

/-! ### Inversion -/

variable {env : Env}

/-- The rows `ORDER BY` returns are the rows it is given. -/
theorem mem_orderBy {α : Type} {key : α → Time} {id : α → String} {rows : List α}
    {a : α} : a ∈ orderBy env key id rows ↔ a ∈ rows :=
  List.mem_insertionSort _

/-- A snapshotted path is the stored path of a chunk of the incident. -/
theorem mem_deletionStoredPaths {db : DB} {i p : String} :
    p ∈ db.deletionStoredPaths i ↔ ∃ c ∈ db.chunks, c.incidentID = i ∧ c.storedPath = p := by
  simp [DB.deletionStoredPaths, List.mem_insertionSort, and_assoc]

/-- The items a worker is given belong to the decision and are not deleted. -/
theorem mem_listIncidentDeletionItems {db : DB} {it : DeletionItem}
    (h : it ∈ listIncidentDeletionItems env id db) :
    it ∈ db.items ∧ it.decisionID = id ∧ it.state ≠ .deleted := by
  rw [listIncidentDeletionItems, mem_orderBy, List.mem_filter] at h
  obtain ⟨hmem, hsel⟩ := h
  simp only [Bool.and_eq_true, beq_iff_eq, Bool.or_eq_true] at hsel
  refine ⟨hmem, hsel.1, ?_⟩
  rcases hsel.2 with hst | hst <;> simp [hst]

variable {dec i : String} {paths : List String}

/-- New items carry the decision, the incident and consecutive identifiers. -/
theorem mem_newItems {now : Time} {k : Nat}
    {it : DeletionItem} (h : it ∈ newItems env now dec i k paths) :
    it.decisionID = dec ∧ it.incidentID = i ∧ it.state = .pending ∧ it.storedPath ∈ paths ∧
      ∃ j, k ≤ j ∧ j < k + paths.length ∧ it.id = env.newID "dli" j := by
  induction paths generalizing k with
  | nil => simp [newItems] at h
  | cons path paths ih =>
    rcases List.mem_cons.mp h with rfl | h
    · exact ⟨rfl, rfl, rfl, List.mem_cons_self, k, le_refl k, by simp, rfl⟩
    · obtain ⟨hdec, hinc, hst, hpath, j, hj, hjlt, hid⟩ := ih h
      exact ⟨hdec, hinc, hst, List.mem_cons_of_mem _ hpath, j, by omega, by
        rw [List.length_cons]; omega, hid⟩

/-- Every snapshotted path has a new item. -/
theorem exists_newItems {now : Time} {k : Nat}
    {p : String} (h : p ∈ paths) : ∃ it ∈ newItems env now dec i k paths, it.storedPath = p := by
  induction paths generalizing k with
  | nil => cases h
  | cons path paths ih =>
    rcases List.mem_cons.mp h with rfl | h
    · exact ⟨_, List.mem_cons_self, rfl⟩
    · obtain ⟨it, hit, hp⟩ := ih (k := k + 1) h
      exact ⟨it, List.mem_cons_of_mem _ hit, hp⟩

/-- The identifiers of new items are distinct. -/
theorem nodup_newItems {now : Time} {k : Nat} :
    ((newItems env now dec i k paths).map (·.id)).Nodup := by
  induction paths generalizing k with
  | nil => simp [newItems]
  | cons path paths ih =>
    rw [newItems, List.map_cons, List.nodup_cons]
    refine ⟨?_, ih⟩
    intro hmem
    obtain ⟨it, hit, hid⟩ := List.mem_map.mp hmem
    obtain ⟨-, -, -, -, j, hj, -, hj'⟩ := mem_newItems hit
    have := env.newID_inj (hj'.symm.trans hid)
    omega

variable {db db' : DB}

/-- **Inversion of `requestIncidentDeletion`.** Either the existing decision was
    returned, or an active incident without one got a decision and its items. -/
theorem requestIncidentDeletion_ok {d : Draw} {params : IncidentDeletionRequest}
    {dec : DeletionDecision} (h : requestIncidentDeletion env d params db = .ok (dec, db')) :
    (db' = db ∧ dec ∈ db.decisions ∧ dec.incidentID = params.incidentID) ∨
    ((∀ r ∈ db.decisions, r.incidentID ≠ params.incidentID) ∧
      (∃ inc ∈ db.incidents, inc.id = params.incidentID ∧ inc.deletionState = .active) ∧
      dec = newDecision env d params (db.deletionStoredPaths params.incidentID).length ∧
      db' = { db with
        incidents := db.setDeletionState params.incidentID .pending d.now
        decisions := db.decisions ++ [dec]
        items := db.items ++ newItems env d.now dec.id params.incidentID (d.next + 1)
          (db.deletionStoredPaths params.incidentID) }) := by
  unfold requestIncidentDeletion at h
  split at h
  next existing hex =>
    have hmem : existing ∈ db.decisions := List.mem_of_find?_eq_some hex
    have hinc : existing.incidentID = params.incidentID := by simpa using List.find?_some hex
    left
    split at h
    · rw [pure_ok, Prod.mk.injEq] at h
      obtain ⟨rfl, rfl⟩ := h
      exact ⟨rfl, hmem, hinc⟩
    · simp only [bind_ok, pure_ok, Prod.mk.injEq] at h
      obtain ⟨-, -, -, -, rfl, rfl⟩ := h
      exact ⟨rfl, hmem, hinc⟩
  next hnone =>
    right
    simp only [requireDeletable, bind_ok, found_ok, ensure_ok, pure_ok, Prod.mk.injEq] at h
    obtain ⟨inc, hinc, -, ⟨-, -, -, hactive, -⟩, -, -, rfl, rfl⟩ := h
    refine ⟨?_, ⟨inc, (mem_of_incident? hinc).1, (mem_of_incident? hinc).2, hactive⟩, rfl, rfl⟩
    intro r hr hri
    have := List.find?_eq_none.mp hnone r hr
    simp [hri] at this

/-- **Inversion of `markIncidentDeletionDeleting`.** -/
theorem markIncidentDeletionDeleting_ok {d : Draw} {stale : Time} {claimed : DeletionDecision}
    (h : markIncidentDeletionDeleting env d id stale db = .ok (claimed, db')) :
    ∃ dec ∈ db.decisions, dec.id = id ∧ runnable env stale dec = true ∧
      claimed = markDeleting d.now dec ∧
      db' = { db with
        decisions := updateWhere (fun dec => dec.id == id && runnable env stale dec)
          (markDeleting d.now) db.decisions
        incidents := db.setDeletionState dec.incidentID .deleting d.now } := by
  simp only [markIncidentDeletionDeleting, bind_ok, found_ok, pure_ok, Prod.mk.injEq] at h
  obtain ⟨dec, hdec, rfl, rfl⟩ := h
  have hsel := List.find?_some hdec
  simp only [Bool.and_eq_true, beq_iff_eq] at hsel
  exact ⟨dec, List.mem_of_find?_eq_some hdec, hsel.1, hsel.2, rfl, rfl⟩

theorem markItem_ok {f : DeletionItem → DeletionItem} {u : Unit}
    (h : markItem f id db = .ok (u, db')) :
    (∃ it ∈ db.items, it.id = id) ∧
      db' = { db with items := updateWhere (·.id == id) f db.items } := by
  simp only [markItem, bind_ok, ensure_ok, pure_ok, Prod.mk.injEq, List.any_eq_true, beq_iff_eq] at h
  obtain ⟨-, hex, -, rfl⟩ := h
  exact ⟨hex, rfl⟩

/-- **Inversion of `completeIncidentDeletion`.** Every item of the decision is
    deleted, and the incident, its decision and its children are rewritten. -/
theorem completeIncidentDeletion_ok {d : Draw}
    {done : DeletionDecision} (h : completeIncidentDeletion env d id db = .ok (done, db')) :
    ∃ dec ∈ db.decisions, dec.id = id ∧ done = markDeleted d.now dec ∧
      (∀ it ∈ db.items, it.decisionID = id → it.state = .deleted) ∧
      ∃ inc ∈ db.incidents, inc.id = dec.incidentID ∧
        db' = { db.pruneChildren dec.incidentID with
          auditEvents := db.auditEvents ++
            if inc.ownerAccountID = "" then [] else [prunedEvent env d dec inc.ownerAccountID]
          items := deleteWhere (·.decisionID == id) db.items
          decisions := updateWhere (·.id == id) (markDeleted d.now) db.decisions
          incidents := updateWhere (·.id == dec.incidentID) (tombstone d.now) db.incidents } := by
  simp only [completeIncidentDeletion, bind_ok, found_ok, ensure_ok, pure_ok, Prod.mk.injEq] at h
  obtain ⟨dec, hdec, -, hitems, inc, hinc, rfl, rfl⟩ := h
  obtain ⟨hmem, hid⟩ := mem_of_decision? hdec
  obtain ⟨hincMem, hincID⟩ := mem_of_incident? hinc
  refine ⟨dec, hmem, hid, rfl, ?_, inc, hincMem, hincID, rfl⟩
  intro it hit hdecID
  have := List.all_eq_true.mp hitems it hit
  simpa [hdecID] using this

/-- **Inversion of `failIncidentDeletion`.** -/
theorem failIncidentDeletion_ok {d : Draw} {id code : String}
    {failed : DeletionDecision} (h : failIncidentDeletion d id code db = .ok (failed, db')) :
    ∃ dec ∈ db.decisions, dec.id = id ∧ failed = markDeletionFailed d.now code dec ∧
      db' = { db with
        decisions := updateWhere (·.id == id) (markDeletionFailed d.now code) db.decisions
        incidents := db.setDeletionState dec.incidentID .failed d.now } := by
  simp only [failIncidentDeletion, bind_ok, found_ok, pure_ok, Prod.mk.injEq] at h
  obtain ⟨dec, hdec, rfl, rfl⟩ := h
  exact ⟨dec, (mem_of_decision? hdec).1, (mem_of_decision? hdec).2, rfl, rfl⟩

/-- A pruned tombstone belongs to a decision that reached `deleted`, and nothing is
    left below its incident. -/
theorem mem_pruneTombstoneIncidentIDs {cutoff : Time} {limit : Int} {db : DB}
    {i : String} (h : i ∈ pruneTombstoneIncidentIDs env cutoff limit db) :
    db.bare i = true ∧ ∃ dec ∈ db.decisions, dec.incidentID = i ∧ dec.state = .deleted := by
  obtain ⟨dec, hdec, rfl⟩ := List.mem_map.mp h
  have hsel := mem_orderBy.mp (List.mem_of_mem_take hdec)
  rw [List.mem_filter, prunableTombstone] at hsel
  simp only [Bool.and_eq_true, beq_iff_eq] at hsel
  exact ⟨hsel.2.1.2, dec, hsel.1, rfl, hsel.2.1.1.1⟩

/-- A bare incident has no chunks, no streams and no deletion items. -/
theorem DB.bare_rows {db : DB} {i : String} (h : db.bare i = true) :
    (∀ c ∈ db.chunks, c.incidentID ≠ i) ∧ (∀ st ∈ db.streams, st.incidentID ≠ i) ∧
      ∀ it ∈ db.items, it.incidentID ≠ i := by
  simp only [DB.bare, Bool.and_eq_true, Bool.not_eq_true', List.any_eq_false, beq_iff_eq] at h
  exact ⟨h.1.2, h.2, h.1.1.1.1.1⟩

end SafetyRecorder
