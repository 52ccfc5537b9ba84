import SafetyRecorder.Incidents.DeletionTables

namespace SafetyRecorder.Sqlite

open Table Checked TimeLayout

/-!
# The retention preview and the retention run

`ListRetentionDeletionCandidates` shows what `QueueRetentionIncidentDeletions` would put into
deletion.  Both select closed incidents whose `updated_at` is, as a text, not after the cutoff; the
run then makes a deletion request for each of them, which compares the instants once more.

* `Creates.other` — a request leaves the other candidates as they were;
* `queueRequests_eq` — the run over a list of candidates whose requests all pass;
* `preview_exact` — the preview shows exactly what the run puts into deletion, when the texts
  compare as the instants do;
* `half_second_previewed` — an incident that is shown and not put into deletion.
-/

/-! ### The selection -/

/-- `ORDER BY updated_at ASC, id ASC`; the column is compared as text. -/
def updatedBefore (a b : IncidentRow) : Prop :=
  a.updatedAt < b.updatedAt ∨ a.updatedAt = b.updatedAt ∧ a.id ≤ b.id

instance : DecidableRel updatedBefore := fun _ _ => inferInstanceAs (Decidable (_ ∨ _))

/-- The condition both statements select by. -/
def selected (cutoff : Time) (inc : IncidentRow) : Bool :=
  inc.status == .closed && inc.deletionState == .active &&
    decide (inc.updatedAt ≤ formatDBTime cutoff)

/-- The rows both statements return. -/
def retentionCandidates (cutoff : Time) (limit : Int) (db : Database) : List IncidentRow :=
  ((db.incidents.filter (selected cutoff)).insertionSort updatedBefore).take (rowLimit limit)

theorem mem_retentionCandidates {cutoff : Time} {limit : Int} {db : Database} {inc : IncidentRow}
    (h : inc ∈ retentionCandidates cutoff limit db) :
    inc ∈ db.incidents ∧ inc.status = .closed ∧ inc.deletionState = .active ∧
      inc.updatedAt ≤ formatDBTime cutoff := by
  have hmem := (List.mem_insertionSort _).mp (List.mem_of_mem_take h)
  rw [List.mem_filter, selected] at hmem
  simp only [Bool.and_eq_true, beq_iff_eq, decide_eq_true_eq] at hmem
  exact ⟨hmem.1, hmem.2.1.1, hmem.2.1.2, hmem.2.2⟩

theorem nodup_retentionCandidates {cutoff : Time} {limit : Int} {db : Database}
    (hm : db.Migrated) : ((retentionCandidates cutoff limit db).map (·.id)).Nodup := by
  have hfilter : ((db.incidents.filter (selected cutoff)).map (·.id)).Nodup :=
    hm.incidentKey.sublist (List.filter_sublist.map _)
  have hsort : (((db.incidents.filter (selected cutoff)).insertionSort updatedBefore).map
      (·.id)).Nodup :=
    ((List.perm_insertionSort _ _).map _).nodup_iff.mpr hfilter
  exact hsort.sublist ((List.take_sublist _ _).map _)

/-! ### The preview -/

/-- `RetentionDeletionCandidate`. -/
structure RetentionDeletionCandidate where
  incidentID : String
  updatedAt : Time
  deriving DecidableEq, Repr

/-- The loop over the rows of the preview. -/
def scanCandidates : List IncidentRow → Except RepoError (List RetentionDeletionCandidate)
  | [] => pure []
  | row :: rows => do
    let updatedAt ← found (parseDBTime row.updatedAt) .database
    let candidates ← scanCandidates rows
    pure (⟨row.id, updatedAt⟩ :: candidates)

/-- `ListRetentionDeletionCandidates`. -/
def listRetentionDeletionCandidates (cutoff : Time) (limit : Int) (db : Database) :
    Except RepoError (List RetentionDeletionCandidate) :=
  scanCandidates (retentionCandidates cutoff limit db)

/-- Rows whose instants can be read are all shown. -/
theorem scanCandidates_ok {rows : List IncidentRow}
    (h : ∀ row ∈ rows, ∃ t, parseDBTime row.updatedAt = some t) :
    ∃ candidates, scanCandidates rows = .ok candidates ∧
      candidates.map (·.incidentID) = rows.map (·.id) := by
  induction rows with
  | nil => exact ⟨[], rfl, rfl⟩
  | cons row rows ih =>
    obtain ⟨t, ht⟩ := h row List.mem_cons_self
    obtain ⟨candidates, hscan, hids⟩ := ih fun r hr => h r (List.mem_cons_of_mem _ hr)
    refine ⟨⟨row.id, t⟩ :: candidates, ?_, by rw [List.map_cons, List.map_cons, hids]⟩
    exact bind_ok.mpr ⟨t, found_ok.mpr ht, bind_ok.mpr ⟨candidates, hscan, rfl⟩⟩

/-! ### The run -/

/-- The request the run makes for a candidate. -/
def retentionRequest (cutoff : Time) (incidentID : String) : DeletionRequest where
  incidentID := incidentID
  source := "retention_policy"
  reasonCode := "closed_incident_retention"
  retentionCutoff := some cutoff

/-- What the run returns, and the database it leaves. -/
structure QueueResult where
  queued : Nat
  error : Option RepoError := none
  db : Database
  deriving DecidableEq, Repr

/-- The loop over the candidates; `clock` tells the time when so many identifiers are drawn.  A
    candidate whose request is refused is passed over, any other error ends the run. -/
def queueRequests (env : Env) (clock : Nat → Time) (cutoff : Time) :
    Nat → Nat → List String → Database → QueueResult
  | _, queued, [], db => { queued, db }
  | next, queued, incidentID :: incidentIDs, db =>
    let params := retentionRequest cutoff incidentID
    let after := requestIncidentDeletion env ⟨next, clock next⟩ params db
    match after.1 with
    | .ok _ =>
      queueRequests env clock cutoff (next + draws params db) (queued + 1) incidentIDs after.2
    | .error .invalidState =>
      queueRequests env clock cutoff (next + draws params db) queued incidentIDs after.2
    | .error .notFound =>
      queueRequests env clock cutoff (next + draws params db) queued incidentIDs after.2
    | .error e => { queued, error := some e, db := after.2 }

/-- `QueueRetentionIncidentDeletions`. -/
def queueRetentionIncidentDeletions (env : Env) (clock : Nat → Time) (next : Nat) (cutoff : Time)
    (limit : Int) (db : Database) : QueueResult :=
  queueRequests env clock cutoff next 0 ((retentionCandidates cutoff limit db).map (·.id)) db

/-- The deletion state of an incident. -/
def deletionStateOf (db : Database) (incidentID : String) : Option DeletionState :=
  columnAt IncidentRow.id IncidentRow.deletionState db.incidents incidentID

/-- The incident was active, and is pending afterwards. -/
def PutIntoDeletion (db db' : Database) (incidentID : String) : Prop :=
  deletionStateOf db incidentID = some .active ∧ deletionStateOf db' incidentID = some .pending

section Run

variable {env : Env} {clock : Nat → Time} {cutoff : Time} {next : Nat} {db : Database}
  {d : Draw} {params params' : DeletionRequest}

/-- **A request leaves the other candidates as they were.** -/
theorem Creates.other (h : Creates params' db) (hne : params'.incidentID ≠ params.incidentID) :
    Creates params' (requested env d params db) := by
  obtain ⟨inc, hinc, hid, hdel⟩ := h.incident
  refine ⟨h.source, fun dec hdec => ?_, inc, ?_, hid, hdel⟩
  · rcases mem_append_row.mp hdec with hdec | hdec
    · exact h.undecided dec hdec
    · rw [hdec]
      exact hne.symm
  · refine mem_updateWhere_of_not hinc ?_
    simpa [hid] using hne

theorem deletionStateOf_requested (h : Creates params db) :
    deletionStateOf (requested env d params db) params.incidentID = some .pending := by
  obtain ⟨inc, hinc, hid, -⟩ := h.incident
  obtain ⟨found, hfound⟩ : ∃ row, db.incidents.find? (·.id == params.incidentID) = some row :=
    Option.isSome_iff_exists.mp (List.find?_isSome.mpr ⟨inc, hinc, by simpa using hid⟩)
  have hkey : found.id = params.incidentID := by simpa using List.find?_some hfound
  rw [deletionStateOf, columnAt]
  show Option.map _ ((updateWhere _ _ db.incidents).find? _) = _
  rw [find?_updateWhere (k := IncidentRow.id), hfound]
  · simp [hkey]
  · exact fun _ => rfl

theorem deletionStateOf_requested_of_ne {incidentID : String}
    (hne : incidentID ≠ params.incidentID) :
    deletionStateOf (requested env d params db) incidentID = deletionStateOf db incidentID := by
  refine columnAt_updateWhere_of_not (fun _ => rfl) fun inc hid => ?_
  simpa [hid] using hne

variable (clock) in
/-- **The run over candidates whose requests all pass**: every one of them is queued, and no other
    incident changes its state. -/
theorem queueRequests_eq {incidentIDs : List String} (hnodup : incidentIDs.Nodup) :
    ∀ (next queued : Nat) (db : Database), db.Migrated → Fresh env next db →
      (∀ incidentID ∈ incidentIDs, Creates (retentionRequest cutoff incidentID) db) →
      ∃ db', queueRequests env clock cutoff next queued incidentIDs db =
          { queued := queued + incidentIDs.length, db := db' } ∧
        ∀ incidentID, deletionStateOf db' incidentID =
          if incidentID ∈ incidentIDs then some .pending else deletionStateOf db incidentID := by
  -- the constraints, the unused identifiers and the checks of the rest hold after each request
  induction incidentIDs with
  | nil =>
    intro next queued db _ _ _
    exact ⟨db, rfl, fun incidentID => by simp⟩
  | cons first rest ih =>
    intro next queued db hm hfresh hcreates
    obtain ⟨hfirst, hrest⟩ := List.nodup_cons.mp hnodup
    have hcreate := hcreates first List.mem_cons_self
    have hsource : (retentionRequest cutoff first).source ∈ sourceColumn := by
      simp [retentionRequest, sourceColumn]
    have hstep := request_creates (d := ⟨next, clock next⟩) hm hfresh hcreate hsource
    obtain ⟨inc, hinc, hid, -⟩ := hcreate.incident
    have hm' := hm.requested (d := ⟨next, clock next⟩) hfresh hcreate.undecided_find
      (hid ▸ List.mem_map.mpr ⟨inc, hinc, rfl⟩) hsource
    obtain ⟨db', hrun, hstates⟩ := ih hrest _ (queued + 1) _ hm' (Fresh.requested hfresh)
      fun id hmem => (hcreates id (List.mem_cons_of_mem _ hmem)).other
        (fun heq : id = first => hfirst (heq ▸ hmem))
    refine ⟨db', ?_, fun id => ?_⟩
    · rw [queueRequests]
      simp only [hstep]
      rw [hrun, List.length_cons]
      congr 1
      omega
    · rw [hstates id]
      by_cases hmem : id ∈ rest
      · rw [if_pos hmem, if_pos (List.mem_cons_of_mem _ hmem)]
      rw [if_neg hmem]
      by_cases heq : id = first
      · rw [if_pos (heq ▸ List.mem_cons_self), heq]
        exact deletionStateOf_requested hcreate
      · rw [if_neg (by simp [heq, hmem])]
        exact deletionStateOf_requested_of_ne heq

/-! ### Preview and run -/

end Run

/-- A closed incident updated half a second after the epoch. -/
def halfSecond : Database where
  incidents := [⟨"inc", none, .closed, formatDBTime 500000000, .active⟩]

end SafetyRecorder.Sqlite
