import SafetyRecorder.Incidents.Models
import SafetyRecorder.Lib.Table

namespace SafetyRecorder

open Table Checked

/-!
# Incidents — incident and chunk transactions

The transactions of `internal/incidents/repository.go` and `chunks.go`.  A
transaction takes the database and returns its result with the new database, or
an error; SQL statements that find no row are lookups that fail.

* `createIncidentForAccount`, `closeIncident`, `getIncident`;
* `chunkExists`, `getChunkByIdentity`, `accountCommittedBlobBytes`;
* `createChunk` with its checks `validateChunkInsertState`,
  `chunkIdentityExists`, `enforceAccountBlobQuota` and the table's constraints;
* `createChunk_ok` — what a successful insert has checked.
-/

namespace DB

/-- `SELECT … FROM incidents WHERE id = ?`. -/
def incident? (db : DB) (id : String) : Option Incident :=
  db.incidents.find? (·.id == id)

/-- `SELECT … FROM media_streams WHERE incident_id = ? AND id = ?`. -/
def stream? (db : DB) (incidentID streamID : String) : Option MediaStream :=
  db.streams.find? fun s => s.incidentID == incidentID && s.id == streamID

end DB

variable {inc : Incident}

theorem mem_of_incident? {db : DB} {id : String} (h : db.incident? id = some inc) :
    inc ∈ db.incidents ∧ inc.id = id :=
  ⟨List.mem_of_find?_eq_some h, by simpa using List.find?_some h⟩

theorem mem_of_stream? {db : DB} {i s : String} {st : MediaStream} (h : db.stream? i s = some st) :
    st ∈ db.streams ∧ st.incidentID = i ∧ st.id = s :=
  ⟨List.mem_of_find?_eq_some h, by simpa using List.find?_some h⟩

/-- `requireActiveIncidentTx`. -/
def requireActiveIncident (db : DB) (incidentID : String) : Except RepoError Incident := do
  let inc ← found (db.incident? incidentID) .notFound
  ensure (inc.deletionState = .active) .incidentDeleting
  return inc

/-- A passed `requireActiveIncident` has read an active incident. -/
theorem requireActiveIncident_ok {db : DB} {i : String} (h : requireActiveIncident db i = .ok inc) :
    inc ∈ db.incidents ∧ inc.id = i ∧ inc.deletionState = .active := by
  simp only [requireActiveIncident, bind_ok, found_ok, ensure_ok, pure_ok] at h
  obtain ⟨inc', hinc, -, hactive, rfl⟩ := h
  exact ⟨(mem_of_incident? hinc).1, (mem_of_incident? hinc).2, hactive⟩

/-! ### Incidents -/

/-- `CreateIncidentParams`. -/
structure CreateIncidentParams where
  clientLabel : String
  notes : String
  incidentMode : Option IncidentMode
  captureProfile : Option CaptureProfile
  escalationPolicy : Option EscalationPolicy
  sharingState : Option SharingState
  deriving DecidableEq, Repr

/-- `CreateIncidentForAccount`; an owner that does not exist violates the foreign
    key and is reported as not found. -/
def createIncidentForAccount (env : Env) (d : Draw) (accountID : String)
    (params : CreateIncidentParams) (db : DB) : Except RepoError (Incident × DB) := do
  let incident : Incident :=
    { id := env.newID "inc" d.next
      ownerAccountID := accountID
      createdAt := d.now
      updatedAt := d.now
      status := .open
      clientLabel := params.clientLabel
      notes := params.notes
      incidentMode := params.incidentMode
      captureProfile := params.captureProfile
      escalationPolicy := params.escalationPolicy
      sharingState := params.sharingState }
  ensure (accountID = "" ∨ accountID ∈ db.accounts) .notFound
  return (incident, { db with incidents := db.incidents ++ [incident] })

/-- **Inversion of `createIncidentForAccount`.** -/
theorem createIncidentForAccount_ok {env : Env} {d : Draw} {a : String} {p : CreateIncidentParams}
    {db db' : DB} (h : createIncidentForAccount env d a p db = .ok (inc, db')) :
    inc.id = env.newID "inc" d.next ∧ inc.deletionState = .active ∧
      db' = { db with incidents := db.incidents ++ [inc] } := by
  simp only [createIncidentForAccount, bind_ok, pure_ok, Prod.mk.injEq] at h
  obtain ⟨-, -, rfl, rfl⟩ := h
  exact ⟨rfl, rfl, rfl⟩

/-- `GetIncident`. -/
def getIncident (db : DB) (id : String) : Except RepoError Incident :=
  found (db.incident? id) .notFound

/-- `CloseIncident`: the update touches active incidents only; when it found none
    the incident is read again to choose the error. -/
def closeIncident (d : Draw) (id : String) (db : DB) : Except RepoError (Incident × DB) := do
  let inc ← found (db.incident? id) .notFound
  ensure (inc.deletionState = .active) .incidentDeleting
  let db' := { db with
    incidents := updateWhere (fun i => i.id == id && i.deletionState == .active)
      (fun i => { i with status := .closed, updatedAt := d.now }) db.incidents }
  let closed ← getIncident db' id
  return (closed, db')

/-! ### Chunks -/

/-- `CreateChunkParams`. -/
structure CreateChunkParams where
  incidentID : String
  streamID : String
  chunkIndex : Int
  mediaType : MediaType
  startedAt : Time
  endedAt : Time
  originalFilename : String
  storedPath : String
  byteSize : Int
  sha256Hex : String
  accountBlobQuotaBytes : Int
  deriving DecidableEq, Repr

/-- The identity a chunk is addressed by: inside its stream by index alone, without
    a stream by media type and index. -/
def sameIdentity (c : Chunk) (incidentID streamID : String) (mediaType : MediaType)
    (chunkIndex : Int) : Bool :=
  if streamID != "" then
    c.incidentID == incidentID && c.streamID == streamID && c.chunkIndex == chunkIndex
  else
    c.incidentID == incidentID && c.streamID == "" && c.mediaType == mediaType &&
      c.chunkIndex == chunkIndex

/-- `ChunkExists`. -/
def chunkExists (db : DB) (incidentID streamID : String) (mediaType : MediaType)
    (chunkIndex : Int) : Bool :=
  db.chunks.any fun c => sameIdentity c incidentID streamID mediaType chunkIndex

/-- `GetChunkByIdentity`. -/
def getChunkByIdentity (db : DB) (incidentID streamID : String) (mediaType : MediaType)
    (chunkIndex : Int) : Except RepoError Chunk :=
  found (db.chunks.find? fun c => sameIdentity c incidentID streamID mediaType chunkIndex) .notFound

/-- `AccountCommittedBlobBytes`: the sum over the chunks of the account's
    incidents. -/
def accountCommittedBlobBytes (db : DB) (ownerAccountID : String) : Int :=
  if ownerAccountID = "" then 0
  else
    ((db.chunks.filter fun c =>
      db.incidents.any fun i => i.id == c.incidentID && i.ownerAccountID == ownerAccountID).map
        (·.byteSize)).sum

/-- `validateChunkInsertState`; returns the owner of the incident. -/
def validateChunkInsertState (db : DB) (params : CreateChunkParams) :
    Except RepoError String := do
  let inc ← found (db.incident? params.incidentID) .notFound
  ensure (inc.deletionState = .active) .incidentDeleting
  ensure (inc.status = .open) .incidentClosed
  if params.streamID = "" then
    return inc.ownerAccountID
  else
    let stream ← found (db.stream? params.incidentID params.streamID) .notFound
    ensure (stream.status = .open ∧ stream.mediaType = params.mediaType) .invalidState
    return inc.ownerAccountID

/-- `chunkIdentityExistsTx`. -/
def chunkIdentityExists (db : DB) (params : CreateChunkParams) : Bool :=
  chunkExists db params.incidentID params.streamID params.mediaType params.chunkIndex

/-- `enforceAccountBlobQuotaTx`. -/
def enforceAccountBlobQuota (db : DB) (ownerAccountID : String) (additionalBytes quotaBytes : Int) :
    Except RepoError Unit :=
  if ownerAccountID = "" ∨ quotaBytes ≤ 0 ∨ additionalBytes ≤ 0 then .ok ()
  else if additionalBytes > quotaBytes then .error .accountBlobQuotaExceeded
  else if accountCommittedBlobBytes db ownerAccountID > quotaBytes - additionalBytes then
    .error .accountBlobQuotaExceeded
  else .ok ()

/-- The constraints of table `chunks` that a new row can violate: primary key, the
    two unique identities, and the checks on index and size. -/
def chunkConstraint (db : DB) (c : Chunk) : Bool :=
  db.chunks.any (fun r => r.id == c.id ||
    sameIdentity r c.incidentID c.streamID c.mediaType c.chunkIndex) ||
    decide (c.chunkIndex < 0) || decide (c.byteSize < 0)

/-- The row `CreateChunk` inserts. -/
def chunkRow (env : Env) (d : Draw) (params : CreateChunkParams) : Chunk :=
  { id := env.newID "chk" d.next
    incidentID := params.incidentID
    streamID := params.streamID
    chunkIndex := params.chunkIndex
    mediaType := params.mediaType
    startedAt := params.startedAt
    endedAt := params.endedAt
    originalFilename := params.originalFilename
    storedPath := params.storedPath
    byteSize := params.byteSize
    sha256Hex := params.sha256Hex
    createdAt := d.now }

/-- `CreateChunk`, one transaction. -/
def createChunk (env : Env) (d : Draw) (params : CreateChunkParams) (db : DB) :
    Except RepoError (Chunk × DB) := do
  let owner ← validateChunkInsertState db params
  ensure (chunkIdentityExists db params = false) .duplicate
  enforceAccountBlobQuota db owner params.byteSize params.accountBlobQuotaBytes
  let chunk := chunkRow env d params
  ensure (chunkConstraint db chunk = false) .duplicate
  return (chunk, { db with chunks := db.chunks ++ [chunk] })

/-- What `validateChunkInsertState` has read when it passes. -/
theorem validateChunkInsertState_ok {db : DB} {params : CreateChunkParams} {owner : String}
    (h : validateChunkInsertState db params = .ok owner) :
    ∃ inc ∈ db.incidents, inc.id = params.incidentID ∧ inc.deletionState = .active ∧
      inc.status = .open ∧ inc.ownerAccountID = owner ∧
      (params.streamID ≠ "" → ∃ st ∈ db.streams, st.incidentID = params.incidentID ∧
        st.id = params.streamID ∧ st.status = .open ∧ st.mediaType = params.mediaType) := by
  simp only [validateChunkInsertState, bind_ok, found_ok, ensure_ok] at h
  obtain ⟨inc, hinc, -, hactive, -, hopen, h⟩ := h
  obtain ⟨hmem, hid⟩ := mem_of_incident? hinc
  split at h
  next hstream =>
    rw [pure_ok] at h
    exact ⟨inc, hmem, hid, hactive, hopen, h, fun hne => absurd hstream hne⟩
  next hstream =>
    simp only [bind_ok, found_ok, ensure_ok, pure_ok] at h
    obtain ⟨st, hst, -, ⟨hstOpen, hstType⟩, howner⟩ := h
    obtain ⟨hstMem, hstInc, hstID⟩ := mem_of_stream? hst
    exact ⟨inc, hmem, hid, hactive, hopen, howner,
      fun _ => ⟨st, hstMem, hstInc, hstID, hstOpen, hstType⟩⟩

/-- **Inversion of `createChunk`.** A successful insert appended one row to an open,
    active incident (and an open stream of its media type), and no row had its
    identity. -/
theorem createChunk_ok {env : Env} {d : Draw} {params : CreateChunkParams} {db db' : DB} {c : Chunk}
    (h : createChunk env d params db = .ok (c, db')) :
    c = chunkRow env d params ∧ db' = { db with chunks := db.chunks ++ [c] } ∧
      (∃ inc ∈ db.incidents, inc.id = params.incidentID ∧ inc.deletionState = .active ∧
        inc.status = .open) ∧
      (params.streamID ≠ "" → ∃ st ∈ db.streams, st.incidentID = params.incidentID ∧
        st.id = params.streamID ∧ st.status = .open ∧ st.mediaType = params.mediaType) ∧
      (∀ r ∈ db.chunks, r.id ≠ c.id ∧ sameIdentity r params.incidentID params.streamID
        params.mediaType params.chunkIndex = false) ∧
      0 ≤ params.chunkIndex ∧ 0 ≤ params.byteSize := by
  simp only [createChunk, bind_ok, ensure_ok, pure_ok, Prod.mk.injEq] at h
  obtain ⟨owner, hstate, -, -, -, -, -, hcons, rfl, rfl⟩ := h
  obtain ⟨inc, hmem, hid, hactive, hopen, -, hstream⟩ := validateChunkInsertState_ok hstate
  simp only [chunkConstraint, Bool.or_eq_false_iff, decide_eq_false_iff_not, Int.not_lt,
    List.any_eq_false, Bool.or_eq_true, beq_iff_eq, not_or, Bool.not_eq_true] at hcons
  exact ⟨rfl, rfl, ⟨inc, hmem, hid, hactive, hopen⟩, hstream, hcons.1.1, hcons.1.2, hcons.2⟩

end SafetyRecorder
