import SafetyRecorder.Incidents.Streams
import SafetyRecorder.Incidents.Deletion
import SafetyRecorder.Incidents.Children

namespace SafetyRecorder

open Table Checked

/-!
# Incidents — every write transaction, and what each can do

* `Tx` — one constructor for each call of the repository that writes; the writers
  of the account and contact-key tables, which touch no table of an incident,
  are the one constructor `other`;
* `Tx.run` — the call on the database;
* `Effect` — what a successful call can do to incidents, chunks, deletion
  decisions, deletion items and the rows below an incident;
* `effect_of_run` — **inversion**: every successful call has an effect.  The
  invariants of the deletion protocol are proved over the nine effects.
-/

/-- The write transactions of the repository. -/
inductive Tx
  | createIncidentForAccount (accountID : String) (params : CreateIncidentParams)
  | closeIncident (id : String)
  | reassignLegacyUnownedIncident (incidentID : String) (newOwner : Option String)
  | createMediaStream (incidentID : String) (mediaType : MediaType) (label : String)
  | completeMediaStream (incidentID streamID : String) (expectedChunkCount : Int)
  | failMediaStream (incidentID streamID reason : String)
  | createChunk (params : CreateChunkParams)
  | createCheckin (incidentID : String) (deviceBatteryPercent : Option Int)
      (deviceNetwork : Option String)
  | createIncidentToken (incidentID tokenHash label : String) (expiresAt : Option Time)
  | revokeIncidentToken (tokenID : String)
  | reserveUploadOperation (params : UploadOperationParams)
  | completeUploadOperation (params : UploadOperationParams) (chunk : Chunk)
  | createSharingGrant (params : CreateSharingGrantParams)
  | revokeSharingGrant (ownerAccountID grantID revokedByAccountID : String)
  | createWrappedKeyRecord (params : CreateWrappedKeyRecordParams)
  | revokeWrappedKeyRecord (ownerAccountID wrappedKeyID revokedByAccountID : String)
  | requestIncidentDeletion (params : IncidentDeletionRequest)
  | markIncidentDeletionDeleting (decisionID : String) (staleDeletingBefore : Time)
  | markIncidentDeletionItemDeleted (itemID : String)
  | markIncidentDeletionItemFailed (itemID errorCode : String)
  | completeIncidentDeletion (decisionID : String)
  | failIncidentDeletion (decisionID errorCode : String)
  | pruneIncidentTokenMetadata (cutoff : Time) (limit : Int)
  | pruneIncidentDeletionTombstones (cutoff : Time) (limit : Int)
  | other (accounts : List String) (contactKeys : List ContactPublicKey)
      (events : List SharingAuditEvent)
  deriving DecidableEq, Repr

namespace Tx

/-- What a call returns besides the error. -/
def Result : Tx → Type
  | createIncidentForAccount .. => Incident
  | closeIncident .. => Incident
  | createMediaStream .. => MediaStream
  | completeMediaStream .. => MediaStream
  | failMediaStream .. => MediaStream
  | createChunk .. => Chunk
  | createCheckin .. => Checkin
  | createIncidentToken .. => IncidentToken
  | reserveUploadOperation .. => UploadOperation
  | completeUploadOperation .. => UploadOperation
  | createSharingGrant .. => SharingGrant
  | revokeSharingGrant .. => SharingGrant
  | createWrappedKeyRecord .. => WrappedKeyRecord
  | revokeWrappedKeyRecord .. => WrappedKeyRecord
  | requestIncidentDeletion .. => DeletionDecision
  | markIncidentDeletionDeleting .. => DeletionDecision
  | completeIncidentDeletion .. => DeletionDecision
  | failIncidentDeletion .. => DeletionDecision
  | pruneIncidentTokenMetadata .. => Nat
  | pruneIncidentDeletionTombstones .. => Nat
  | reassignLegacyUnownedIncident .. => Unit
  | revokeIncidentToken .. => Unit
  | markIncidentDeletionItemDeleted .. => Unit
  | markIncidentDeletionItemFailed .. => Unit
  | other .. => Unit

/-- A writer of the account or contact-key tables: accounts are never deleted, and
    none of these writers records a pruned incident. -/
def runOther (accounts : List String) (contactKeys : List ContactPublicKey)
    (events : List SharingAuditEvent) (db : DB) : Except RepoError (Unit × DB) := do
  ensure (∀ e ∈ events, e.action ≠ .incidentMetadataPruned) .database
  return ((), { db with
    accounts := db.accounts ++ accounts
    contactKeys := contactKeys
    auditEvents := db.auditEvents ++ events })

/-- The call on the database. -/
def run (env : Env) (d : Draw) : (t : Tx) → DB → Except RepoError (t.Result × DB)
  | createIncidentForAccount a p => SafetyRecorder.createIncidentForAccount env d a p
  | closeIncident i => SafetyRecorder.closeIncident d i
  | reassignLegacyUnownedIncident i o => SafetyRecorder.reassignLegacyUnownedIncident i o
  | createMediaStream i m l => SafetyRecorder.createMediaStream env d i m l
  | completeMediaStream i s n => SafetyRecorder.completeMediaStream d i s n
  | failMediaStream i s r => SafetyRecorder.failMediaStream d i s r
  | createChunk p => SafetyRecorder.createChunk env d p
  | createCheckin i b n => SafetyRecorder.createCheckin env d i b n
  | createIncidentToken i h l e => SafetyRecorder.createIncidentToken env d i h l e
  | revokeIncidentToken t => SafetyRecorder.revokeIncidentToken d t
  | reserveUploadOperation p => SafetyRecorder.reserveUploadOperation env d p
  | completeUploadOperation p c => SafetyRecorder.completeUploadOperation d p c
  | createSharingGrant p => SafetyRecorder.createSharingGrant env d p
  | revokeSharingGrant o g b => SafetyRecorder.revokeSharingGrant env d o g b
  | createWrappedKeyRecord p => SafetyRecorder.createWrappedKeyRecord env d p
  | revokeWrappedKeyRecord o w b => SafetyRecorder.revokeWrappedKeyRecord env d o w b
  | requestIncidentDeletion p => SafetyRecorder.requestIncidentDeletion env d p
  | markIncidentDeletionDeleting i s => SafetyRecorder.markIncidentDeletionDeleting env d i s
  | markIncidentDeletionItemDeleted i => SafetyRecorder.markIncidentDeletionItemDeleted d i
  | markIncidentDeletionItemFailed i c => SafetyRecorder.markIncidentDeletionItemFailed d i c
  | completeIncidentDeletion i => SafetyRecorder.completeIncidentDeletion env d i
  | failIncidentDeletion i c => SafetyRecorder.failIncidentDeletion d i c
  | pruneIncidentTokenMetadata c l =>
    fun db => .ok (SafetyRecorder.pruneIncidentTokenMetadata env c l db)
  | pruneIncidentDeletionTombstones c l =>
    fun db => .ok (SafetyRecorder.pruneIncidentDeletionTombstones env c l db)
  | other a k e => runOther a k e

/-- How many identifiers the call draws at most. -/
def draws (db : DB) : Tx → Nat
  | requestIncidentDeletion p => requestDraws db p
  | _ => 2

end Tx

/-! ### Effects -/

namespace DB

/-- The incidents of all chunk, stream, check-in, token, grant, wrapped-key and
    upload-operation rows. -/
def childIncidents (db : DB) : List String :=
  db.chunks.map (·.incidentID) ++ db.streams.map (·.incidentID) ++
    db.checkins.map (·.incidentID) ++ db.tokens.map (·.incidentID) ++
    db.grants.map (·.incidentID) ++ db.wrappedKeys.map (·.incidentID) ++
    db.uploads.map (·.incidentID)

/-- The incident exists and no deletion was decided. -/
def Active (db : DB) (incidentID : String) : Prop :=
  ∃ inc ∈ db.incidents, inc.id = incidentID ∧ inc.deletionState = .active

/-- The audit events that record a pruned incident. -/
def prunedEvents (db : DB) : List SharingAuditEvent :=
  db.auditEvents.filter (·.action == .incidentMetadataPruned)

end DB

/-- A change of an incident row that leaves its deletion state, and the whole row
    once it is no longer active. -/
structure Benign (g : Incident → Incident) : Prop where
  id : ∀ i, (g i).id = i.id
  state : ∀ i, (g i).deletionState = i.deletionState
  frozen : ∀ i, i.deletionState ≠ .active → g i = i

/-- The calls that write media streams. -/
def Tx.writesStreams : Tx → Bool
  | .createMediaStream .. | .completeMediaStream .. | .failMediaStream .. => true
  | _ => false

/-- What a successful call can do, as far as the deletion protocol is concerned. -/
inductive Effect (env : Env) (d : Draw) : Tx → DB → DB → Prop
  /-- Rows are written below incidents that are active or already have rows. -/
  | quiet {t db db'} (g : Incident → Incident) (hg : Benign g)
      (incidents : db'.incidents = db.incidents.map g) (chunks : db'.chunks = db.chunks)
      (decisions : db'.decisions = db.decisions) (items : db'.items = db.items)
      (events : db'.prunedEvents = db.prunedEvents)
      (rows : ∀ i ∈ db'.childIncidents, i ∈ db.childIncidents ∨ db.Active i)
      (streams : t.writesStreams = true ∨ db'.streams = db.streams)
      (notChunk : ∀ p, t ≠ .createChunk p) (notItem : ∀ i, t ≠ .markIncidentDeletionItemDeleted i)
      (notDone : ∀ i, t ≠ .completeIncidentDeletion i) : Effect env d t db db'
  | incident {a p db} (inc : Incident) (id : inc.id = env.newID "inc" d.next)
      (active : inc.deletionState = .active) :
      Effect env d (.createIncidentForAccount a p) db { db with incidents := db.incidents ++ [inc] }
  | chunk {db} (p : CreateChunkParams) (active : db.Active p.incidentID)
      (fresh : ∀ r ∈ db.chunks, r.id ≠ (chunkRow env d p).id ∧
        sameIdentity r p.incidentID p.streamID p.mediaType p.chunkIndex = false)
      (index : 0 ≤ p.chunkIndex) :
      Effect env d (.createChunk p) db { db with chunks := db.chunks ++ [chunkRow env d p] }
  | request {db} (p : IncidentDeletionRequest)
      (undecided : ∀ r ∈ db.decisions, r.incidentID ≠ p.incidentID) (active : db.Active p.incidentID) :
      Effect env d (.requestIncidentDeletion p) db { db with
        incidents := db.setDeletionState p.incidentID .pending d.now
        decisions := db.decisions ++
          [newDecision env d p (db.deletionStoredPaths p.incidentID).length]
        items := db.items ++ newItems env d.now (env.newID "del" d.next) p.incidentID (d.next + 1)
          (db.deletionStoredPaths p.incidentID) }
  | claim {db} (dec : DeletionDecision) (stale : Time) (mem : dec ∈ db.decisions)
      (ready : runnable env stale dec = true) :
      Effect env d (.markIncidentDeletionDeleting dec.id stale) db { db with
        decisions := updateWhere (fun r => r.id == dec.id && runnable env stale r)
          (markDeleting d.now) db.decisions
        incidents := db.setDeletionState dec.incidentID .deleting d.now }
  | itemDeleted {db} (id : String) (mem : ∃ it ∈ db.items, it.id = id) :
      Effect env d (.markIncidentDeletionItemDeleted id) db
        { db with items := updateWhere (·.id == id) (itemDeleted d.now) db.items }
  | itemFailed {db} (id code : String) (mem : ∃ it ∈ db.items, it.id = id) :
      Effect env d (.markIncidentDeletionItemFailed id code) db
        { db with items := updateWhere (·.id == id) (itemFailed d.now code) db.items }
  | complete {db} (dec : DeletionDecision) (mem : dec ∈ db.decisions)
      (done : ∀ it ∈ db.items, it.decisionID = dec.id → it.state = .deleted)
      (inc : Incident) (incMem : inc ∈ db.incidents) (incID : inc.id = dec.incidentID) :
      Effect env d (.completeIncidentDeletion dec.id) db { db.pruneChildren dec.incidentID with
        auditEvents := db.auditEvents ++
          if inc.ownerAccountID = "" then [] else [prunedEvent env d dec inc.ownerAccountID]
        items := deleteWhere (·.decisionID == dec.id) db.items
        decisions := updateWhere (·.id == dec.id) (markDeleted d.now) db.decisions
        incidents := updateWhere (·.id == dec.incidentID) (tombstone d.now) db.incidents }
  | fail {db} (dec : DeletionDecision) (code : String) (mem : dec ∈ db.decisions) :
      Effect env d (.failIncidentDeletion dec.id code) db { db with
        decisions := updateWhere (·.id == dec.id) (markDeletionFailed d.now code) db.decisions
        incidents := db.setDeletionState dec.incidentID .failed d.now }
  | tombstones {db} (cutoff : Time) (limit : Int) :
      Effect env d (.pruneIncidentDeletionTombstones cutoff limit) db
        (db.deleteIncidents (pruneTombstoneIncidentIDs env cutoff limit db))

variable {env : Env} {d : Draw} {db db' : DB}

theorem Effect.chunk_inv {p : CreateChunkParams} (h : Effect env d (.createChunk p) db db') :
    db.Active p.incidentID ∧ db' = { db with chunks := db.chunks ++ [chunkRow env d p] } := by
  cases h with
  | quiet _ _ _ _ _ _ _ _ _ notChunk => exact absurd rfl (notChunk p)
  | chunk _ active => exact ⟨active, rfl⟩

/-! ### Inversion -/

theorem benign_id : Benign id := ⟨fun _ => rfl, fun _ => rfl, fun _ _ => rfl⟩

/-- Rewriting active incidents only, without their id and state, is benign. -/
theorem benign_update {p : Incident → Bool} {f : Incident → Incident}
    (hp : ∀ i, p i = true → i.deletionState = .active) (hid : ∀ i, (f i).id = i.id)
    (hstate : ∀ i, (f i).deletionState = i.deletionState) :
    Benign fun i => if p i then f i else i := by
  constructor
  · intro i; split
    · exact hid i
    · rfl
  · intro i; split
    · exact hstate i
    · rfl
  · intro i hi
    rw [if_neg]
    exact fun h => hi (hp i h)

/-- The calls that are always quiet. -/
def Tx.isQuiet : Tx → Bool
  | .closeIncident .. | .reassignLegacyUnownedIncident .. | .createMediaStream ..
  | .completeMediaStream .. | .failMediaStream .. | .createCheckin .. | .createIncidentToken ..
  | .revokeIncidentToken .. | .reserveUploadOperation .. | .completeUploadOperation ..
  | .createSharingGrant .. | .revokeSharingGrant .. | .createWrappedKeyRecord ..
  | .revokeWrappedKeyRecord .. | .requestIncidentDeletion .. | .pruneIncidentTokenMetadata ..
  | .other .. => true
  | _ => false

/-- A quiet effect from the tables it leaves alone. -/
theorem Effect.of_quiet {t : Tx} (ht : t.isQuiet = true) {g : Incident → Incident} (hg : Benign g)
    (incidents : db'.incidents = db.incidents.map g) (chunks : db'.chunks = db.chunks)
    (decisions : db'.decisions = db.decisions) (items : db'.items = db.items)
    (events : db'.prunedEvents = db.prunedEvents)
    (streams : t.writesStreams = true ∨ db'.streams = db.streams)
    (rows : ∀ i ∈ db'.childIncidents, i ∈ db.childIncidents ∨ db.Active i) :
    Effect env d t db db' := by
  refine .quiet g hg incidents chunks decisions items events rows streams ?_ ?_ ?_ <;>
    · rintro _ rfl
      cases ht

/-- A quiet effect on the rows below incidents alone. -/
theorem Effect.of_rows {t : Tx} (ht : t.isQuiet = true) (incidents : db'.incidents = db.incidents)
    (chunks : db'.chunks = db.chunks) (decisions : db'.decisions = db.decisions)
    (items : db'.items = db.items) (events : db'.prunedEvents = db.prunedEvents)
    (streams : t.writesStreams = true ∨ db'.streams = db.streams)
    (rows : ∀ i ∈ db'.childIncidents, i ∈ db.childIncidents ∨ db.Active i) :
    Effect env d t db db' :=
  .of_quiet ht benign_id (by rw [incidents, List.map_id]) chunks decisions items events streams rows

/-- An audit event of another action does not record a pruned incident. -/
theorem prunedEvents_append {e : SharingAuditEvent} (he : e.action ≠ .incidentMetadataPruned)
    (h : db'.auditEvents = db.auditEvents ++ [e]) : db'.prunedEvents = db.prunedEvents := by
  simp [DB.prunedEvents, h, he]

theorem createSharingAuditEvent_ok {e : SharingAuditEvent}
    (h : createSharingAuditEvent e db = .ok db') :
    db' = { db with auditEvents := db.auditEvents ++ [e] } := by
  simp only [createSharingAuditEvent, bind_ok, ensure_ok, pure_ok] at h
  obtain ⟨-, -, rfl⟩ := h
  rfl

theorem requireOwnedActiveIncident_ok {o i : String} {inc : Incident}
    (h : requireOwnedActiveIncident db o i = .ok inc) : db.Active i := by
  rw [requireOwnedActiveIncident, found_ok] at h
  have hsel := List.find?_some h
  simp only [Bool.and_eq_true, beq_iff_eq] at hsel
  exact ⟨inc, List.mem_of_find?_eq_some h, hsel.1.1.1, hsel.2⟩

/-- The tables that carry a share stay as they are. -/
def SameShares (db db' : DB) : Prop :=
  db'.contactKeys = db.contactKeys ∧ db'.grants = db.grants ∧ db'.wrappedKeys = db.wrappedKeys

theorem closeIncident_effect {i : String} {r : Incident}
    (h : closeIncident d i db = .ok (r, db')) :
    Effect env d (.closeIncident i) db db' ∧ SameShares db db' := by
  simp only [closeIncident, bind_ok, found_ok, ensure_ok, pure_ok, Prod.mk.injEq] at h
  obtain ⟨-, -, -, -, -, -, -, rfl⟩ := h
  refine ⟨.of_quiet rfl ?_ (List.map_congr_left fun _ _ => rfl) rfl rfl rfl rfl (.inr rfl)
    fun _ hi => .inl hi, rfl, rfl, rfl⟩
  refine benign_update ?_ (fun _ => rfl) (fun _ => rfl)
  intro inc hsel
  simp only [Bool.and_eq_true, beq_iff_eq] at hsel
  exact hsel.2

theorem reassign_effect {i : String} {o : Option String} {r : Unit}
    (h : reassignLegacyUnownedIncident i o db = .ok (r, db')) :
    Effect env d (.reassignLegacyUnownedIncident i o) db db' ∧ SameShares db db' := by
  simp only [reassignLegacyUnownedIncident, bind_ok] at h
  obtain ⟨-, -, inc, -, -, -, h⟩ := h
  cases o with
  | none =>
    rw [pure_ok, Prod.mk.injEq] at h
    obtain ⟨-, rfl⟩ := h
    exact ⟨.of_rows rfl rfl rfl rfl rfl rfl (.inr rfl) fun _ hi => .inl hi, rfl, rfl, rfl⟩
  | some owner =>
    rw [pure_ok, Prod.mk.injEq] at h
    obtain ⟨-, rfl⟩ := h
    refine ⟨.of_quiet rfl ?_ (List.map_congr_left fun _ _ => rfl) rfl rfl rfl rfl (.inr rfl)
      fun _ hi => .inl hi, rfl, rfl, rfl⟩
    refine benign_update ?_ (fun _ => rfl) (fun _ => rfl)
    intro inc hsel
    simp only [Bool.and_eq_true, beq_iff_eq] at hsel
    exact hsel.2

variable {r : MediaStream}

private theorem createMediaStream_effect {i l : String} {m : MediaType}
    (h : createMediaStream env d i m l db = .ok (r, db')) :
    Effect env d (.createMediaStream i m l) db db' := by
  obtain ⟨hactive, rfl, rfl⟩ := createMediaStream_ok h
  refine .of_rows rfl rfl rfl rfl rfl rfl (.inl rfl) ?_
  intro j hj
  simp only [DB.childIncidents, List.map_append, List.mem_append, List.map_singleton,
    List.mem_singleton, streamRow] at hj ⊢
  grind [DB.Active]

private theorem completeMediaStream_effect {i s : String} {n : Int}
    (h : completeMediaStream d i s n db = .ok (r, db')) :
    Effect env d (.completeMediaStream i s n) db db' := by
  obtain ⟨-, -, rfl, -⟩ := completeMediaStream_ok h
  refine .of_rows rfl rfl rfl rfl rfl rfl (.inl rfl) fun j hj => .inl ?_
  rwa [DB.childIncidents, map_updateWhere] at hj
  exact fun _ => rfl

private theorem failMediaStream_effect {i s reason : String}
    (h : failMediaStream d i s reason db = .ok (r, db')) :
    Effect env d (.failMediaStream i s reason) db db' := by
  obtain ⟨-, rfl⟩ := failMediaStream_ok h
  refine .of_rows rfl rfl rfl rfl rfl rfl (.inl rfl) fun j hj => .inl ?_
  rwa [DB.childIncidents, map_updateWhere] at hj
  exact fun _ => rfl

theorem createCheckin_effect {i : String} {b : Option Int} {n : Option String} {r : Checkin}
    (h : createCheckin env d i b n db = .ok (r, db')) :
    Effect env d (.createCheckin i b n) db db' ∧ SameShares db db' := by
  simp only [createCheckin, bind_ok, pure_ok, Prod.mk.injEq] at h
  obtain ⟨inc, hinc, -, rfl⟩ := h
  have hactive : db.Active i := ⟨inc, requireActiveIncident_ok hinc⟩
  refine ⟨.of_rows rfl rfl rfl rfl rfl rfl (.inr rfl) ?_, rfl, rfl, rfl⟩
  intro j hj
  simp only [DB.childIncidents, List.map_append, List.mem_append, List.map_singleton,
    List.mem_singleton] at hj ⊢
  grind

theorem createIncidentToken_effect {i hash l : String} {e : Option Time} {r : IncidentToken}
    (h : createIncidentToken env d i hash l e db = .ok (r, db')) :
    Effect env d (.createIncidentToken i hash l e) db db' ∧ SameShares db db' := by
  simp only [createIncidentToken, bind_ok, found_ok, ensure_ok, pure_ok, Prod.mk.injEq] at h
  obtain ⟨inc, hinc, -, hact, -, -, -, rfl⟩ := h
  have hactive : db.Active i := ⟨inc, (mem_of_incident? hinc).1, (mem_of_incident? hinc).2, hact⟩
  refine ⟨.of_rows rfl rfl rfl rfl rfl rfl (.inr rfl) ?_, rfl, rfl, rfl⟩
  intro j hj
  simp only [DB.childIncidents, List.map_append, List.mem_append, List.map_singleton,
    List.mem_singleton] at hj ⊢
  grind

theorem revokeIncidentToken_effect {t : String} {r : Unit}
    (h : revokeIncidentToken d t db = .ok (r, db')) :
    Effect env d (.revokeIncidentToken t) db db' ∧ SameShares db db' := by
  simp only [revokeIncidentToken, bind_ok, pure_ok, Prod.mk.injEq] at h
  obtain ⟨-, -, -, rfl⟩ := h
  refine ⟨.of_rows rfl rfl rfl rfl rfl rfl (.inr rfl) fun j hj => .inl ?_, rfl, rfl, rfl⟩
  rwa [DB.childIncidents, map_updateWhere] at hj
  exact fun _ => rfl

theorem reserveUploadOperation_effect {p : UploadOperationParams} {r : UploadOperation}
    (h : reserveUploadOperation env d p db = .ok (r, db')) :
    Effect env d (.reserveUploadOperation p) db db' ∧ SameShares db db' := by
  simp only [reserveUploadOperation, bind_ok] at h
  obtain ⟨inc, hinc, h⟩ := h
  have hactive : db.Active p.incidentID := ⟨inc, requireActiveIncident_ok hinc⟩
  split at h
  · simp only [bind_ok, pure_ok, Prod.mk.injEq] at h
    obtain ⟨-, -, -, -, -, rfl⟩ := h
    exact ⟨.of_rows rfl rfl rfl rfl rfl rfl (.inr rfl) fun _ hj => .inl hj, rfl, rfl, rfl⟩
  · rw [pure_ok, Prod.mk.injEq] at h
    obtain ⟨-, rfl⟩ := h
    refine ⟨.of_rows rfl rfl rfl rfl rfl rfl (.inr rfl) ?_, rfl, rfl, rfl⟩
    intro j hj
    simp only [DB.childIncidents, List.map_append, List.mem_append, List.map_singleton,
      List.mem_singleton, uploadRow] at hj ⊢
    grind

theorem completeUploadOperation_effect {p : UploadOperationParams} {c : Chunk}
    {r : UploadOperation} (h : completeUploadOperation d p c db = .ok (r, db')) :
    Effect env d (.completeUploadOperation p c) db db' ∧ SameShares db db' := by
  unfold completeUploadOperation at h
  split at h
  · simp only [bind_ok, pure_ok, Prod.mk.injEq] at h
    obtain ⟨-, -, -, rfl⟩ := h
    refine ⟨.of_rows rfl rfl rfl rfl rfl rfl (.inr rfl) fun j hj => .inl ?_, rfl, rfl, rfl⟩
    rwa [DB.childIncidents, map_updateWhere] at hj
    exact fun _ => rfl
  · simp only [bind_ok] at h
    obtain ⟨-, -, -, -, h⟩ := h
    cases h

private theorem createSharingGrant_effect {p : CreateSharingGrantParams} {r : SharingGrant}
    (h : createSharingGrant env d p db = .ok (r, db')) :
    Effect env d (.createSharingGrant p) db db' := by
  simp only [createSharingGrant, bind_ok, pure_ok, Prod.mk.injEq] at h
  obtain ⟨inc, hinc, -, -, key, -, -, -, db₁, hdb, -, rfl⟩ := h
  have hactive := requireOwnedActiveIncident_ok hinc
  obtain rfl := createSharingAuditEvent_ok hdb
  refine .of_rows rfl rfl rfl rfl rfl (prunedEvents_append (by simp) rfl) (.inr rfl) ?_
  intro j hj
  simp only [DB.childIncidents, List.map_append, List.mem_append, List.map_singleton,
    List.mem_singleton] at hj ⊢
  grind

private theorem revokeSharingGrant_effect {o g b : String} {r : SharingGrant}
    (h : revokeSharingGrant env d o g b db = .ok (r, db')) :
    Effect env d (.revokeSharingGrant o g b) db db' := by
  simp only [revokeSharingGrant, bind_ok, pure_ok, Prod.mk.injEq] at h
  obtain ⟨grant, -, db₁, hdb, -, rfl⟩ := h
  obtain rfl := createSharingAuditEvent_ok hdb
  refine .of_rows rfl rfl rfl rfl rfl (prunedEvents_append (by simp) rfl) (.inr rfl) fun j hj => .inl ?_
  rwa [DB.childIncidents, map_updateWhere] at hj
  exact fun _ => rfl

private theorem createWrappedKeyRecord_effect {p : CreateWrappedKeyRecordParams}
    {r : WrappedKeyRecord} (h : createWrappedKeyRecord env d p db = .ok (r, db')) :
    Effect env d (.createWrappedKeyRecord p) db db' := by
  simp only [createWrappedKeyRecord, bind_ok, pure_ok, Prod.mk.injEq] at h
  obtain ⟨inc, hinc, -, -, grant, -, -, -, -, -, -, -, db₁, hdb, -, rfl⟩ := h
  have hactive := requireOwnedActiveIncident_ok hinc
  obtain rfl := createSharingAuditEvent_ok hdb
  refine .of_rows rfl rfl rfl rfl rfl (prunedEvents_append (by simp) rfl) (.inr rfl) ?_
  intro j hj
  simp only [DB.childIncidents, List.map_append, List.mem_append, List.map_singleton,
    List.mem_singleton] at hj ⊢
  grind

private theorem revokeWrappedKeyRecord_effect {o w b : String} {r : WrappedKeyRecord}
    (h : revokeWrappedKeyRecord env d o w b db = .ok (r, db')) :
    Effect env d (.revokeWrappedKeyRecord o w b) db db' := by
  simp only [revokeWrappedKeyRecord, bind_ok, pure_ok, Prod.mk.injEq] at h
  obtain ⟨record, -, db₁, hdb, -, rfl⟩ := h
  obtain rfl := createSharingAuditEvent_ok hdb
  refine .of_rows rfl rfl rfl rfl rfl (prunedEvents_append (by simp) rfl) (.inr rfl) fun j hj => .inl ?_
  rwa [DB.childIncidents, map_updateWhere] at hj
  exact fun _ => rfl

private theorem other_effect {a : List String} {k : List ContactPublicKey}
    {e : List SharingAuditEvent} {r : Unit} (h : Tx.runOther a k e db = .ok (r, db')) :
    Effect env d (.other a k e) db db' := by
  simp only [Tx.runOther, bind_ok, ensure_ok, pure_ok, Prod.mk.injEq] at h
  obtain ⟨-, he, -, rfl⟩ := h
  refine .of_rows rfl rfl rfl rfl rfl ?_ (.inr rfl) fun _ hj => .inl hj
  have hnone : e.filter (·.action == .incidentMetadataPruned) = [] := by
    rw [List.filter_eq_nil_iff]
    intro x hx
    simpa using he x hx
  rw [DB.prunedEvents, List.filter_append, hnone, List.append_nil, DB.prunedEvents]

private theorem pruneTokens_effect {cutoff : Time} {limit : Int} :
    Effect env d (.pruneIncidentTokenMetadata cutoff limit) db
      (pruneIncidentTokenMetadata env cutoff limit db).2 := by
  refine .of_rows rfl rfl rfl rfl rfl rfl (.inr rfl) fun j hj => .inl ?_
  simp only [DB.childIncidents, pruneIncidentTokenMetadata, List.mem_append, List.mem_map,
    mem_deleteWhere] at hj ⊢
  grind

/-- **Inversion.** Every successful call has an effect. -/
theorem effect_of_run {t : Tx} {r : t.Result} (h : t.run env d db = .ok (r, db')) :
    Effect env d t db db' := by
  cases t with
  | createIncidentForAccount a p =>
    obtain ⟨hid, hactive, rfl⟩ := createIncidentForAccount_ok h
    exact .incident _ hid hactive
  | closeIncident i => exact (closeIncident_effect h).1
  | reassignLegacyUnownedIncident i o => exact (reassign_effect h).1
  | createMediaStream i m l => exact createMediaStream_effect h
  | completeMediaStream i s n => exact completeMediaStream_effect h
  | failMediaStream i s reason => exact failMediaStream_effect h
  | createChunk p =>
    obtain ⟨rfl, rfl, ⟨inc, hmem, hid, hact, -⟩, -, hfresh, hidx, -⟩ := createChunk_ok h
    exact .chunk p ⟨inc, hmem, hid, hact⟩ hfresh hidx
  | createCheckin i b n => exact (createCheckin_effect h).1
  | createIncidentToken i hash l e => exact (createIncidentToken_effect h).1
  | revokeIncidentToken i => exact (revokeIncidentToken_effect h).1
  | reserveUploadOperation p => exact (reserveUploadOperation_effect h).1
  | completeUploadOperation p c => exact (completeUploadOperation_effect h).1
  | createSharingGrant p => exact createSharingGrant_effect h
  | revokeSharingGrant o g b => exact revokeSharingGrant_effect h
  | createWrappedKeyRecord p => exact createWrappedKeyRecord_effect h
  | revokeWrappedKeyRecord o w b => exact revokeWrappedKeyRecord_effect h
  | requestIncidentDeletion p =>
    obtain ⟨rfl, -⟩ | ⟨hnone, hactive, rfl, rfl⟩ := requestIncidentDeletion_ok h
    · exact .of_rows rfl rfl rfl rfl rfl rfl (.inr rfl) fun _ hj => .inl hj
    · exact .request p hnone hactive
  | markIncidentDeletionDeleting i s =>
    obtain ⟨dec, hmem, rfl, hready, -, rfl⟩ := markIncidentDeletionDeleting_ok h
    exact .claim dec s hmem hready
  | markIncidentDeletionItemDeleted i =>
    obtain ⟨hmem, rfl⟩ := markItem_ok h
    exact .itemDeleted i hmem
  | markIncidentDeletionItemFailed i c =>
    obtain ⟨hmem, rfl⟩ := markItem_ok h
    exact .itemFailed i c hmem
  | completeIncidentDeletion i =>
    obtain ⟨dec, hmem, rfl, -, hdone, inc, hincMem, hincID, rfl⟩ := completeIncidentDeletion_ok h
    exact .complete dec hmem hdone inc hincMem hincID
  | failIncidentDeletion i c =>
    obtain ⟨dec, hmem, rfl, -, rfl⟩ := failIncidentDeletion_ok h
    exact .fail dec c hmem
  | pruneIncidentTokenMetadata c l =>
    obtain rfl : (pruneIncidentTokenMetadata env c l db).2 = db' :=
      congrArg Prod.snd (Except.ok.inj h)
    exact pruneTokens_effect
  | pruneIncidentDeletionTombstones c l =>
    obtain rfl : (pruneIncidentDeletionTombstones env c l db).2 = db' :=
      congrArg Prod.snd (Except.ok.inj h)
    exact .tombstones c l
  | other a k e => exact other_effect h

end SafetyRecorder
