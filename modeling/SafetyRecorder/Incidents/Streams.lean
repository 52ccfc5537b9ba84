import Mathlib.Data.List.Sort
import SafetyRecorder.Incidents.Chunks

namespace SafetyRecorder

open Table Checked

/-!
# Incidents — media stream transactions

The transactions of `internal/incidents/streams.go`.

* `createMediaStream`, `completeMediaStream`, `failMediaStream`, `getMediaStream`;
* `scanCompletionChunks` — the row loop of `validateCompleteStreamChunkRows`;
* `scanCompletionChunks_ok` — the counting argument: the loop accepts exactly the
  rows whose indices are `1 … n` in order, all of the stream's media type;
* `completeMediaStream_ok`, `failMediaStream_ok` — what a successful call has done.
-/

/-- `GetMediaStream`. -/
def getMediaStream (db : DB) (incidentID streamID : String) : Except RepoError MediaStream :=
  found (db.stream? incidentID streamID) .notFound

/-- The row `CreateMediaStream` inserts. -/
def streamRow (env : Env) (d : Draw) (incidentID : String) (mediaType : MediaType)
    (label : String) : MediaStream :=
  { id := env.newID "str" d.next
    incidentID := incidentID
    mediaType := mediaType
    label := label
    status := .open
    createdAt := d.now
    updatedAt := d.now }

/-- `CreateMediaStream`. -/
def createMediaStream (env : Env) (d : Draw) (incidentID : String) (mediaType : MediaType)
    (label : String) (db : DB) : Except RepoError (MediaStream × DB) := do
  let _ ← requireActiveIncident db incidentID
  let stream := streamRow env d incidentID mediaType label
  return (stream, { db with streams := db.streams ++ [stream] })

/-! ### Completion -/

/-- The chunk rows of a stream. -/
def DB.streamChunks (db : DB) (incidentID streamID : String) : List Chunk :=
  db.chunks.filter fun c => c.incidentID == incidentID && c.streamID == streamID

/-- The rows `SELECT chunk_index, media_type … ORDER BY chunk_index ASC` returns. -/
def completionRows (db : DB) (incidentID streamID : String) : List Chunk :=
  (db.streamChunks incidentID streamID).insertionSort fun a b => a.chunkIndex ≤ b.chunkIndex

/-- The row loop: `count` rows were read before these; the result is the number of
    rows read in all. -/
def scanCompletionChunks (mediaType : MediaType) : Int → List Chunk → Except RepoError Int
  | count, [] => .ok count
  | count, c :: rows =>
    if c.chunkIndex ≠ count + 1 ∨ c.mediaType ≠ mediaType then .error .invalidState
    else scanCompletionChunks mediaType (count + 1) rows

/-- `validateCompleteStreamChunkRows`. -/
def validateCompleteStreamChunkRows (db : DB) (incidentID streamID : String)
    (mediaType : MediaType) (expectedChunkCount : Int) : Except RepoError Unit := do
  let count ← scanCompletionChunks mediaType 0 (completionRows db incidentID streamID)
  ensure (count = expectedChunkCount) .invalidState

/-- The open stream the guarded update of `CompleteMediaStream` and
    `FailMediaStream` selects. -/
def openStream (incidentID streamID : String) (s : MediaStream) : Bool :=
  s.incidentID == incidentID && s.id == streamID && s.status == .open

/-- The two ways a guarded update that changed no row is reported. -/
def requireOpenStream (db : DB) (incidentID streamID : String) : Except RepoError Unit := do
  let stream ← getMediaStream db incidentID streamID
  ensure (stream.status = .open) .invalidState

/-- The update of `CompleteMediaStream`. -/
def markComplete (d : Draw) (expectedChunkCount : Int) (s : MediaStream) : MediaStream :=
  { s with
    status := .complete
    expectedChunkCount := some expectedChunkCount
    updatedAt := d.now
    completedAt := some d.now
    failedAt := none
    failureReason := "" }

/-- `CompleteMediaStream`.  The column check on `expected_chunk_count` fails the
    update for counts that are not positive; every later error rolls it back. -/
def completeMediaStream (d : Draw) (incidentID streamID : String) (expectedChunkCount : Int)
    (db : DB) : Except RepoError (MediaStream × DB) := do
  let _ ← requireActiveIncident db incidentID
  requireOpenStream db incidentID streamID
  ensure (0 < expectedChunkCount) .database
  let db' := { db with
    streams := updateWhere (openStream incidentID streamID) (markComplete d expectedChunkCount)
      db.streams }
  let stream ← getMediaStream db' incidentID streamID
  validateCompleteStreamChunkRows db' incidentID streamID stream.mediaType expectedChunkCount
  return (stream, db')

/-- The update of `FailMediaStream`. -/
def markFailed (d : Draw) (reason : String) (s : MediaStream) : MediaStream :=
  { s with
    status := .failed
    updatedAt := d.now
    failedAt := some d.now
    failureReason := reason
    completedAt := none }

/-- `FailMediaStream`. -/
def failMediaStream (d : Draw) (incidentID streamID reason : String) (db : DB) :
    Except RepoError (MediaStream × DB) := do
  let _ ← requireActiveIncident db incidentID
  requireOpenStream db incidentID streamID
  let db' := { db with
    streams := updateWhere (openStream incidentID streamID) (markFailed d reason) db.streams }
  let stream ← getMediaStream db' incidentID streamID
  return (stream, db')

/-! ### What the row loop accepts -/

/-- The numbers `count + 1, …, count + n`. -/
def indicesFrom (count : Int) (n : Nat) : List Int :=
  (List.range n).map fun k : Nat => count + 1 + (k : Int)

theorem indicesFrom_succ (count : Int) (n : Nat) :
    indicesFrom count (n + 1) = (count + 1) :: indicesFrom (count + 1) n := by
  simp only [indicesFrom, List.range_succ_eq_map, List.map_cons, List.map_map]
  refine List.cons_eq_cons.mpr ⟨by simp, ?_⟩
  apply List.map_congr_left
  intro k _
  simp only [Function.comp_apply]
  omega

/-- **Counting.** The row loop accepts rows exactly when their indices continue the
    count one by one and all have the media type; it returns the new count. -/
theorem scanCompletionChunks_ok {mediaType : MediaType} {rows : List Chunk} {count n : Int} :
    scanCompletionChunks mediaType count rows = .ok n ↔
      rows.map (·.chunkIndex) = indicesFrom count rows.length ∧
        (∀ c ∈ rows, c.mediaType = mediaType) ∧ n = count + rows.length := by
  induction rows generalizing count with
  | nil => simp [scanCompletionChunks, indicesFrom, eq_comm]
  | cons c rows ih =>
    simp only [scanCompletionChunks]
    split
    next hbad =>
      simp only [reduceCtorEq, List.map_cons, List.length_cons, indicesFrom_succ,
        List.cons.injEq, List.mem_cons, forall_eq_or_imp, false_iff, not_and]
      rintro ⟨hidx, -⟩ ⟨htype, -⟩
      exact absurd hbad (by simp [hidx, htype])
    next hgood =>
      rw [not_or, not_not, not_not] at hgood
      rw [ih]
      simp only [List.map_cons, List.length_cons, indicesFrom_succ, List.cons.injEq,
        List.mem_cons, forall_eq_or_imp, hgood.1, hgood.2, true_and]
      refine and_congr_right fun _ => and_congr_right fun _ => ?_
      omega

/-- The chunk rows of a stream are exactly one for each index `1 … n`, all of one
    media type. -/
def Contiguous (db : DB) (incidentID streamID : String) (mediaType : MediaType) (n : Int) : Prop :=
  ((db.streamChunks incidentID streamID).map (·.chunkIndex)).Perm (indicesFrom 0 n.toNat) ∧
    (∀ c ∈ db.streamChunks incidentID streamID, c.mediaType = mediaType) ∧ 0 ≤ n

variable {i s : String}

/-- A passed row loop: the rows it has counted are contiguous. -/
theorem contiguous_of_scan {db : DB} {m : MediaType} {n : Int}
    (h : scanCompletionChunks m 0 (completionRows db i s) = .ok n) : Contiguous db i s m n := by
  obtain ⟨hidx, htype, hcount⟩ := scanCompletionChunks_ok.mp h
  have hperm : (completionRows db i s).Perm (db.streamChunks i s) := List.perm_insertionSort _ _
  have hlen : n.toNat = (completionRows db i s).length := by omega
  refine ⟨?_, fun c hc => htype c (hperm.mem_iff.mpr hc), by omega⟩
  rw [hlen, ← hidx]
  exact (hperm.map _).symm

/-- A passed `validateCompleteStreamChunkRows`: the rows are contiguous. -/
theorem validateCompleteStreamChunkRows_ok {db : DB} {m : MediaType} {n : Int}
    {u : Unit} (h : validateCompleteStreamChunkRows db i s m n = .ok u) :
    Contiguous db i s m n := by
  simp only [validateCompleteStreamChunkRows, bind_ok, ensure_ok] at h
  obtain ⟨count, hscan, rfl, -⟩ := h
  exact contiguous_of_scan hscan

/-! ### Inversion -/

/-- A passed `requireOpenStream` has found the stream open. -/
theorem requireOpenStream_ok {db : DB} {u : Unit} (h : requireOpenStream db i s = .ok u) :
    ∃ st ∈ db.streams, st.incidentID = i ∧ st.id = s ∧ st.status = .open := by
  simp only [requireOpenStream, getMediaStream, bind_ok, found_ok, ensure_ok] at h
  obtain ⟨st, hst, hopen⟩ := h
  obtain ⟨hmem, hinc, hid⟩ := mem_of_stream? hst
  exact ⟨st, hmem, hinc, hid, hopen⟩

variable {d : Draw} {db db' : DB} {st : MediaStream}

/-- **Inversion of `completeMediaStream`.** The incident is active, the open streams
    of that id are marked complete, and the chunk rows of the returned stream are
    contiguous. -/
theorem completeMediaStream_ok {n : Int} (h : completeMediaStream d i s n db = .ok (st, db')) :
    (∃ inc ∈ db.incidents, inc.id = i ∧ inc.deletionState = .active) ∧ 0 < n ∧
      db' = { db with streams := updateWhere (openStream i s) (markComplete d n) db.streams } ∧
      st ∈ db'.streams ∧ st.incidentID = i ∧ st.id = s ∧ Contiguous db i s st.mediaType n := by
  simp only [completeMediaStream, getMediaStream, bind_ok, found_ok, ensure_ok, pure_ok,
    Prod.mk.injEq] at h
  obtain ⟨inc, hinc, -, -, -, hpos, st', hst, _, hrows, rfl, rfl⟩ := h
  obtain ⟨hmem, hstInc, hstID⟩ := mem_of_stream? hst
  have hcont := validateCompleteStreamChunkRows_ok hrows
  exact ⟨⟨inc, requireActiveIncident_ok hinc⟩, hpos, rfl, hmem, hstInc, hstID, hcont⟩

theorem failMediaStream_ok {i s reason : String}
    (h : failMediaStream d i s reason db = .ok (st, db')) :
    (∃ inc ∈ db.incidents, inc.id = i ∧ inc.deletionState = .active) ∧
      db' = { db with streams := updateWhere (openStream i s) (markFailed d reason) db.streams } := by
  simp only [failMediaStream, getMediaStream, bind_ok, found_ok, pure_ok, Prod.mk.injEq] at h
  obtain ⟨inc, hinc, -, -, st', -, -, rfl⟩ := h
  exact ⟨⟨inc, requireActiveIncident_ok hinc⟩, rfl⟩

theorem completeMediaStream_open {n : Int} (h : completeMediaStream d i s n db = .ok (st, db')) :
    ∃ st ∈ db.streams, st.incidentID = i ∧ st.id = s ∧ st.status = .open := by
  simp only [completeMediaStream, bind_ok] at h
  obtain ⟨_, -, _, hopen, -⟩ := h
  exact requireOpenStream_ok hopen

theorem failMediaStream_open {i s reason : String}
    (h : failMediaStream d i s reason db = .ok (st, db')) :
    ∃ st ∈ db.streams, st.incidentID = i ∧ st.id = s ∧ st.status = .open := by
  simp only [failMediaStream, bind_ok] at h
  obtain ⟨_, -, _, hopen, -⟩ := h
  exact requireOpenStream_ok hopen

theorem createMediaStream_ok {env : Env} {i label : String} {m : MediaType}
    (h : createMediaStream env d i m label db = .ok (st, db')) :
    (∃ inc ∈ db.incidents, inc.id = i ∧ inc.deletionState = .active) ∧
      st = streamRow env d i m label ∧ db' = { db with streams := db.streams ++ [st] } := by
  simp only [createMediaStream, bind_ok, pure_ok, Prod.mk.injEq] at h
  obtain ⟨inc, hinc, rfl, rfl⟩ := h
  exact ⟨⟨inc, requireActiveIncident_ok hinc⟩, rfl, rfl⟩

end SafetyRecorder
