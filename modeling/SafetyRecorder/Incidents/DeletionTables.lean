import Mathlib.Data.List.Dedup
import Mathlib.Data.List.Sort
import SafetyRecorder.Incidents.Times
import SafetyRecorder.Lib.Table
import SafetyRecorder.Server.Sample

namespace SafetyRecorder.Sqlite

open Table Checked

/-!
# Deletion requests, statement by statement

`RequestIncidentDeletion` of the SQLite repository over the tables of the migrations: instants
are texts, the source of a request is a text, and an `INSERT` fails when it violates a primary
key, a foreign key, a `CHECK` or a `UNIQUE` constraint.  A transaction that fails is rolled back.

* `Database.Migrated` — the constraints, which every state satisfies;
* `insertItems_eq` — the loop that inserts the items;
* `requestTx_new` — what a request for an incident without a decision writes;
* `request_outcome` — what a request answers and writes, case by case.
-/

/-! ### Tables -/

/-- A row of `incidents`, as far as deletion reads and writes it. -/
structure IncidentRow where
  id : String
  ownerAccountID : Option String
  status : IncidentStatus
  updatedAt : List Nat
  deletionState : DeletionState
  deriving DecidableEq, Repr

/-- A row of `chunks`, as far as deletion reads it. -/
structure ChunkRow where
  incidentID : String
  storedPath : String
  deriving DecidableEq, Repr

/-- A row of `incident_deletion_decisions`. -/
structure DecisionRow where
  id : String
  incidentID : String
  source : String
  reasonCode : Option String
  actorAccountID : Option String
  allowOpen : Bool
  state : DeletionState
  itemCount : Int
  errorCode : Option String := none
  requestedAt : List Nat
  updatedAt : List Nat
  startedAt : Option (List Nat) := none
  completedAt : Option (List Nat) := none
  deriving DecidableEq, Repr

/-- A row of `incident_deletion_items`. -/
structure ItemRow where
  id : String
  decisionID : String
  incidentID : String
  storedPath : String
  state : ItemState
  createdAt : List Nat
  updatedAt : List Nat
  deriving DecidableEq, Repr

/-- The tables that deletion requests touch. -/
structure Database where
  incidents : List IncidentRow := []
  chunks : List ChunkRow := []
  decisions : List DecisionRow := []
  items : List ItemRow := []
  deriving DecidableEq, Repr

/-- The values the `CHECK` on `incident_deletion_decisions.source` admits. -/
def sourceColumn : List String := ["account_request", "admin_request", "retention_policy"]

/-- **The constraints of the migrations.** -/
structure Database.Migrated (db : Database) : Prop where
  incidentKey : (db.incidents.map (·.id)).Nodup
  decisionKey : (db.decisions.map (·.id)).Nodup
  decisionIncident : (db.decisions.map (·.incidentID)).Nodup
  decisionReference : ∀ dec ∈ db.decisions, dec.incidentID ∈ db.incidents.map (·.id)
  decisionSource : ∀ dec ∈ db.decisions, dec.source ∈ sourceColumn
  decisionState : ∀ dec ∈ db.decisions, dec.state ≠ .active
  decisionCount : ∀ dec ∈ db.decisions, 0 ≤ dec.itemCount
  itemKey : (db.items.map (·.id)).Nodup
  itemPath : (db.items.map fun it => (it.decisionID, it.storedPath)).Nodup
  itemDecision : ∀ it ∈ db.items, it.decisionID ∈ db.decisions.map (·.id)
  itemIncident : ∀ it ∈ db.items, it.incidentID ∈ db.incidents.map (·.id)
  chunkReference : ∀ c ∈ db.chunks, c.incidentID ∈ db.incidents.map (·.id)

/-! ### Statements -/

/-- `INSERT INTO incident_deletion_decisions`, or nothing when a constraint is violated. -/
def insertDecision (row : DecisionRow) (db : Database) : Option Database :=
  if row.id ∉ db.decisions.map (·.id) ∧ row.incidentID ∉ db.decisions.map (·.incidentID) ∧
      row.incidentID ∈ db.incidents.map (·.id) ∧ row.source ∈ sourceColumn ∧
      row.state ≠ .active ∧ 0 ≤ row.itemCount then
    some { db with decisions := db.decisions ++ [row] }
  else none

/-- `INSERT INTO incident_deletion_items`, or nothing when a constraint is violated. -/
def insertItem (row : ItemRow) (db : Database) : Option Database :=
  if row.id ∉ db.items.map (·.id) ∧
      (row.decisionID, row.storedPath) ∉ db.items.map (fun it => (it.decisionID, it.storedPath)) ∧
      row.decisionID ∈ db.decisions.map (·.id) ∧ row.incidentID ∈ db.incidents.map (·.id) then
    some { db with items := db.items ++ [row] }
  else none

/-- `deletionStoredPaths`. -/
def deletionStoredPaths (db : Database) (incidentID : String) : List String :=
  ((db.chunks.filter (·.incidentID == incidentID)).map (·.storedPath)).dedup.insertionSort (· ≤ ·)

/-! ### The request -/

/-- `IncidentDeletionRequest`. -/
structure DeletionRequest where
  incidentID : String
  source : String
  reasonCode : String := ""
  actorAccountID : String := ""
  allowOpen : Bool := false
  requireOwnerID : String := ""
  retentionCutoff : Option Time := none
  deriving DecidableEq, Repr

/-- `IncidentDeletionStatus`. -/
structure DeletionStatus where
  decisionID : String
  incidentID : String
  source : String
  reasonCode : String
  actorAccountID : String
  allowOpen : Bool
  state : DeletionState
  itemCount : Int
  errorCode : String := ""
  requestedAt : Time
  updatedAt : Time
  startedAt : Option Time := none
  completedAt : Option Time := none
  deriving DecidableEq, Repr

/-- `validDeletionSource`. -/
def validDeletionSource (source : String) : Bool :=
  ["account_request", "admin_request", "operator_cli", "retention_policy"].contains source

/-- `nullableDBTime`. -/
def nullableDBTime : Option (List Nat) → Option (Option Time)
  | none => some none
  | some value => (parseDBTime value).map some

/-- `scanDeletionStatus`; nothing when a column does not hold an instant. -/
def scanDeletionStatus (row : DecisionRow) : Option DeletionStatus := do
  let requestedAt ← parseDBTime row.requestedAt
  let updatedAt ← parseDBTime row.updatedAt
  let startedAt ← nullableDBTime row.startedAt
  let completedAt ← nullableDBTime row.completedAt
  some
    { decisionID := row.id, incidentID := row.incidentID, source := row.source
      reasonCode := row.reasonCode.getD "", actorAccountID := row.actorAccountID.getD ""
      allowOpen := row.allowOpen, state := row.state, itemCount := row.itemCount
      errorCode := row.errorCode.getD "", requestedAt, updatedAt, startedAt, completedAt }

/-- `nullableString`. -/
def nullableString (value : String) : Option String := if value = "" then none else some value

/-- The ownership check, on either path. -/
def ownerMatches (params : DeletionRequest) (inc : IncidentRow) : Prop :=
  params.requireOwnerID = "" ∨ inc.ownerAccountID = some params.requireOwnerID

instance (params : DeletionRequest) (inc : IncidentRow) : Decidable (ownerMatches params inc) :=
  inferInstanceAs (Decidable (_ ∨ _))

/-- The checks on an incident without a decision.  An `updated_at` that does not hold an instant
    is reported as an error of the database. -/
def requireDeletable (params : DeletionRequest) (inc : IncidentRow) : Except RepoError Unit := do
  ensure (ownerMatches params inc) .notFound
  ensure (inc.deletionState = .active) .invalidState
  ensure (¬ (inc.status = .open ∧ params.allowOpen = false)) .invalidState
  match params.retentionCutoff with
  | none => pure ()
  | some cutoff => do
    let updatedAt ← found (parseDBTime inc.updatedAt) .database
    ensure (¬ (inc.status ≠ .closed ∨ cutoff < updatedAt)) .invalidState

/-- The row of the new decision. -/
def decisionRow (env : Env) (d : Draw) (params : DeletionRequest) : DecisionRow :=
  { id := env.newID "del" d.next
    incidentID := params.incidentID
    source := params.source
    reasonCode := nullableString params.reasonCode
    actorAccountID := nullableString params.actorAccountID
    allowOpen := params.allowOpen
    state := .pending
    itemCount := 0
    requestedAt := formatDBTime d.now
    updatedAt := formatDBTime d.now }

/-- The row of the item for a path; `k` is the number of its identifier. -/
def itemRow (env : Env) (now : Time) (decisionID incidentID : String) (k : Nat) (path : String) :
    ItemRow :=
  { id := env.newID "dli" k
    decisionID := decisionID
    incidentID := incidentID
    storedPath := path
    state := .pending
    createdAt := formatDBTime now
    updatedAt := formatDBTime now }

/-- The loop over the stored paths. -/
def insertItems (env : Env) (now : Time) (decisionID incidentID : String) :
    Nat → List String → Database → Except RepoError Database
  | _, [], db => pure db
  | k, path :: paths, db => do
    let db ← found (insertItem (itemRow env now decisionID incidentID k path) db) .database
    insertItems env now decisionID incidentID (k + 1) paths db

/-- `UPDATE incident_deletion_decisions SET item_count = ?, updated_at = ?`. -/
def setItemCount (id : String) (count : Nat) (now : Time) (db : Database) : Database :=
  { db with
    decisions := updateWhere (·.id == id)
      (fun dec => { dec with itemCount := count, updatedAt := formatDBTime now }) db.decisions }

/-- `UPDATE incidents SET deletion_state = ?, updated_at = ?`. -/
def setPending (incidentID : String) (now : Time) (db : Database) : Database :=
  { db with
    incidents := updateWhere (·.id == incidentID)
      (fun inc => { inc with deletionState := .pending, updatedAt := formatDBTime now })
      db.incidents }

/-- The status that is answered for a new decision. -/
def newStatus (env : Env) (d : Draw) (params : DeletionRequest) (itemCount : Nat) :
    DeletionStatus :=
  { decisionID := env.newID "del" d.next
    incidentID := params.incidentID
    source := params.source
    reasonCode := params.reasonCode
    actorAccountID := params.actorAccountID
    allowOpen := params.allowOpen
    state := .pending
    itemCount := itemCount
    requestedAt := d.now
    updatedAt := d.now }

/-- The transaction of `RequestIncidentDeletion`: the answer and the state to commit. -/
def requestTx (env : Env) (d : Draw) (params : DeletionRequest) (db : Database) :
    Except RepoError (DeletionStatus × Database) := do
  match db.decisions.find? (·.incidentID == params.incidentID) with
  | some row =>
    let existing ← found (scanDeletionStatus row) .database
    if params.requireOwnerID ≠ "" then do
      let inc ← found (db.incidents.find? (·.id == params.incidentID)) .notFound
      ensure (inc.ownerAccountID = some params.requireOwnerID) .notFound
      pure (existing, db)
    else pure (existing, db)
  | none =>
    let inc ← found (db.incidents.find? (·.id == params.incidentID)) .notFound
    requireDeletable params inc
    let row := decisionRow env d params
    let db₁ ← found (insertDecision row db) .invalidState
    let paths := deletionStoredPaths db₁ params.incidentID
    let db₂ ← insertItems env d.now row.id params.incidentID (d.next + 1) paths db₁
    let db₃ := setPending params.incidentID d.now (setItemCount row.id paths.length d.now db₂)
    pure (newStatus env d params paths.length, db₃)

/-- `RequestIncidentDeletion`: a transaction that fails leaves the database as it was. -/
def requestIncidentDeletion (env : Env) (d : Draw) (params : DeletionRequest) (db : Database) :
    Except RepoError DeletionStatus × Database :=
  if validDeletionSource params.source = false then (.error .invalidState, db)
  else
    match requestTx env d params db with
    | .ok (status, db') => (.ok status, db')
    | .error e => (.error e, db)

/-! ### The checks -/

/-- The ownership, status and cutoff checks a request makes on an incident without a decision. -/
structure Deletable (params : DeletionRequest) (inc : IncidentRow) : Prop where
  owner : ownerMatches params inc
  active : inc.deletionState = .active
  status : inc.status = .open → params.allowOpen = true
  cutoff : ∀ cutoff ∈ params.retentionCutoff, inc.status = .closed ∧
    ∃ updatedAt ∈ parseDBTime inc.updatedAt, updatedAt ≤ cutoff

theorem requireDeletable_ok {params : DeletionRequest} {inc : IncidentRow} :
    requireDeletable params inc = .ok () ↔ Deletable params inc := by
  unfold requireDeletable
  simp only [bind_ok, ensure_ok, exists_const]
  constructor
  · rintro ⟨howner, hactive, hstatus, hcutoff⟩
    refine ⟨howner, hactive, fun hopen => ?_, fun cutoff hc => ?_⟩
    · simpa [hopen] using hstatus
    · rw [Option.mem_def] at hc
      simp only [hc, bind_ok, found_ok, ensure_ok] at hcutoff
      obtain ⟨updatedAt, hread, hle⟩ := hcutoff
      rw [not_or, not_not] at hle
      exact ⟨hle.1, updatedAt, hread, not_lt.mp hle.2⟩
  · rintro ⟨howner, hactive, hstatus, hcutoff⟩
    refine ⟨howner, hactive, fun hopen => ?_, ?_⟩
    · simp [hstatus hopen.1] at hopen
    · cases hc : params.retentionCutoff with
      | none => rfl
      | some cutoff =>
        obtain ⟨hclosed, updatedAt, hread, hle⟩ := hcutoff cutoff hc
        simp only [bind_ok, found_ok, ensure_ok]
        exact ⟨updatedAt, hread, fun h => h.elim (· hclosed) (not_lt.mpr hle)⟩

/-! ### The paths -/

theorem nodup_deletionStoredPaths (db : Database) (incidentID : String) :
    (deletionStoredPaths db incidentID).Nodup :=
  (List.perm_insertionSort _ _).nodup_iff.mpr (List.nodup_dedup _)

theorem mem_deletionStoredPaths {db : Database} {incidentID path : String} :
    path ∈ deletionStoredPaths db incidentID ↔
      ∃ c ∈ db.chunks, c.incidentID = incidentID ∧ c.storedPath = path := by
  rw [deletionStoredPaths, (List.perm_insertionSort _ _).mem_iff, List.mem_dedup]
  simp [and_assoc]

/-! ### The loop -/

/-- No identifier drawn from `next` on is in use. -/
structure Fresh (env : Env) (next : Nat) (db : Database) : Prop where
  decision : ∀ k, next ≤ k → env.newID "del" k ∉ db.decisions.map (·.id)
  item : ∀ k, next ≤ k → env.newID "dli" k ∉ db.items.map (·.id)

/-- The rows of the items, whose identifiers are drawn one after the other. -/
def itemRows (env : Env) (now : Time) (decisionID incidentID : String) (k : Nat)
    (paths : List String) : List ItemRow :=
  (paths.zipIdx k).map fun p => itemRow env now decisionID incidentID p.2 p.1

section Items

variable {env : Env} {now : Time} {decisionID incidentID : String}

theorem map_storedPath_itemRows (k : Nat) (paths : List String) :
    (itemRows env now decisionID incidentID k paths).map (·.storedPath) = paths := by
  simp [itemRows, itemRow, Function.comp_def]

variable {paths : List String}

theorem mem_itemRows {k : Nat} {it : ItemRow}
    (h : it ∈ itemRows env now decisionID incidentID k paths) :
    ∃ j path, k ≤ j ∧ j < k + paths.length ∧ path ∈ paths ∧
      it = itemRow env now decisionID incidentID j path := by
  obtain ⟨⟨path, j⟩, hmem, rfl⟩ := List.mem_map.mp h
  have hlow := List.le_snd_of_mem_zipIdx hmem
  have hhigh := List.snd_lt_add_of_mem_zipIdx hmem
  have hpath := List.fst_mem_of_mem_zipIdx hmem
  exact ⟨j, path, hlow, by simpa [Nat.add_comm] using hhigh, hpath, rfl⟩

theorem nodup_itemRows {k : Nat} :
    ((itemRows env now decisionID incidentID k paths).map (·.id)).Nodup := by
  have hinj : Function.Injective (env.newID "dli") := fun _ _ h => env.newID_inj h
  have hids : (itemRows env now decisionID incidentID k paths).map (·.id) =
      (List.range' k paths.length).map (env.newID "dli") := by
    rw [← List.zipIdx_map_snd k paths, List.map_map, itemRows, List.map_map]
    rfl
  rw [hids]
  exact List.Nodup.map hinj List.nodup_range'

/-- **The loop inserts every item**: the identifiers are new and no path comes twice. -/
theorem insertItems_eq (hnodup : paths.Nodup) :
    ∀ (k : Nat) (db : Database), decisionID ∈ db.decisions.map (·.id) →
      incidentID ∈ db.incidents.map (·.id) →
      (∀ j, k ≤ j → env.newID "dli" j ∉ db.items.map (·.id)) →
      (∀ it ∈ db.items, it.decisionID = decisionID → it.storedPath ∉ paths) →
      insertItems env now decisionID incidentID k paths db =
        .ok { db with items := db.items ++ itemRows env now decisionID incidentID k paths } := by
  -- the items inserted so far have smaller numbers and other paths
  induction paths with
  | nil =>
    intro k db _ _ _ _
    simp [insertItems, itemRows, pure, Except.pure]
  | cons path paths ih =>
    intro k db hdec hinc hfresh hpaths
    obtain ⟨hpath, hrest⟩ := List.nodup_cons.mp hnodup
    have hinsert : insertItem (itemRow env now decisionID incidentID k path) db =
        some { db with items := db.items ++ [itemRow env now decisionID incidentID k path] } := by
      refine if_pos ⟨hfresh k le_rfl, fun hmem => ?_, hdec, hinc⟩
      obtain ⟨it, hit, heq⟩ := List.mem_map.mp hmem
      obtain ⟨hd, hp⟩ := Prod.mk.inj heq
      exact hpaths it hit hd (by rw [hp]; exact List.mem_cons_self)
    rw [insertItems, hinsert]
    show insertItems env now decisionID incidentID (k + 1) paths _ = _
    rw [ih hrest (k + 1)
      { db with items := db.items ++ [itemRow env now decisionID incidentID k path] } hdec hinc
      (fun j hj hmem => ?_) fun it hit hd hp => ?_]
    · simp [itemRows, List.zipIdx_cons]
    · rw [List.map_append, List.mem_append] at hmem
      rcases hmem with hmem | hmem
      · exact hfresh j (by omega) hmem
      · have := env.newID_inj (List.mem_singleton.mp hmem)
        omega
    · rcases mem_append_row.mp hit with hit | hit
      · exact hpaths it hit hd (List.mem_cons_of_mem _ hp)
      · rw [hit] at hp
        exact hpath hp

end Items

/-! ### A new decision -/

/-- The row of the decision when the transaction commits. -/
def committedDecision (env : Env) (d : Draw) (params : DeletionRequest) (itemCount : Nat) :
    DecisionRow :=
  { decisionRow env d params with itemCount := itemCount }

/-- What a request that creates a decision leaves. -/
def requested (env : Env) (d : Draw) (params : DeletionRequest) (db : Database) : Database :=
  let paths := deletionStoredPaths db params.incidentID
  setPending params.incidentID d.now
    { db with
      decisions := db.decisions ++ [committedDecision env d params paths.length]
      items := db.items ++
        itemRows env d.now (env.newID "del" d.next) params.incidentID (d.next + 1) paths }

/-- The number of identifiers a request that creates a decision draws. -/
def draws (params : DeletionRequest) (db : Database) : Nat :=
  1 + (deletionStoredPaths db params.incidentID).length

section Request

variable {env : Env} {d : Draw} {params : DeletionRequest} {db : Database} {inc : IncidentRow}

theorem insertDecision_eq (hfresh : Fresh env d.next db)
    (hnone : db.decisions.find? (·.incidentID == params.incidentID) = none)
    (hinc : params.incidentID ∈ db.incidents.map (·.id)) (hsource : params.source ∈ sourceColumn) :
    insertDecision (decisionRow env d params) db =
      some { db with decisions := db.decisions ++ [decisionRow env d params] } := by
  refine if_pos ⟨hfresh.decision _ le_rfl, fun hmem => ?_, hinc, hsource, nofun, le_rfl⟩
  obtain ⟨dec, hdec, heq⟩ := List.mem_map.mp hmem
  have := List.find?_eq_none.mp hnone dec hdec
  exact this (by simpa [decisionRow] using heq)

/-- Only the new decision has its identifier, so only it is counted. -/
theorem setItemCount_append {items : List ItemRow} (hfresh : Fresh env d.next db) (count : Nat) :
    setItemCount (env.newID "del" d.next) count d.now
        { db with decisions := db.decisions ++ [decisionRow env d params], items := items } =
      { db with
        decisions := db.decisions ++ [committedDecision env d params count], items := items } := by
  have hold : updateWhere (·.id == env.newID "del" d.next)
      (fun dec => { dec with itemCount := (count : Int), updatedAt := formatDBTime d.now })
      db.decisions = db.decisions := by
    refine updateWhere_of_not fun dec hdec => ?_
    have hne : dec.id ≠ env.newID "del" d.next := fun heq =>
      hfresh.decision _ le_rfl (heq ▸ List.mem_map.mpr ⟨dec, hdec, rfl⟩)
    simpa using hne
  have hnew : updateWhere (·.id == env.newID "del" d.next)
      (fun dec => { dec with itemCount := (count : Int), updatedAt := formatDBTime d.now })
      [decisionRow env d params] = [committedDecision env d params count] := by
    simp [updateWhere, decisionRow, committedDecision]
  rw [setItemCount, updateWhere_append, hold, hnew]

/-- **What a request for an incident without a decision writes.** -/
theorem requestTx_new (hm : db.Migrated) (hfresh : Fresh env d.next db)
    (hnone : db.decisions.find? (·.incidentID == params.incidentID) = none)
    (hfind : db.incidents.find? (·.id == params.incidentID) = some inc)
    (hdel : Deletable params inc) (hsource : params.source ∈ sourceColumn) :
    requestTx env d params db =
      .ok (newStatus env d params (deletionStoredPaths db params.incidentID).length,
        requested env d params db) := by
  have hinc : params.incidentID ∈ db.incidents.map (·.id) := by
    have hid : inc.id = params.incidentID := by simpa using List.find?_some hfind
    exact hid ▸ List.mem_map.mpr ⟨inc, List.mem_of_find?_eq_some hfind, rfl⟩
  have hinsert := insertDecision_eq hfresh hnone hinc hsource
  -- an item of the new decision would refer to a decision that was not there
  have hpaths : ∀ it ∈ db.items, it.decisionID = env.newID "del" d.next →
      it.storedPath ∉ deletionStoredPaths db params.incidentID := by
    intro it hit heq
    exact absurd (heq ▸ hm.itemDecision it hit) (hfresh.decision _ le_rfl)
  have hloop : insertItems env d.now (env.newID "del" d.next) params.incidentID (d.next + 1)
      (deletionStoredPaths db params.incidentID)
      { db with decisions := db.decisions ++ [decisionRow env d params] } = _ :=
    insertItems_eq (nodup_deletionStoredPaths db params.incidentID) _ _ (by simp [decisionRow]) hinc
      (fun j hj => hfresh.item j (by omega)) hpaths
  unfold requestTx
  simp only [hnone]
  refine bind_ok.mpr ⟨inc, found_ok.mpr hfind, bind_ok.mpr ⟨(), requireDeletable_ok.mpr hdel,
    bind_ok.mpr ⟨_, found_ok.mpr hinsert, bind_ok.mpr ⟨_, hloop, ?_⟩⟩⟩⟩
  rw [requested, ← setItemCount_append hfresh]
  rfl

/-! ### The constraints after a request -/

theorem requested_incidentKeys :
    (requested env d params db).incidents.map (·.id) = db.incidents.map (·.id) :=
  map_updateWhere IncidentRow.id fun _ => rfl

theorem requested_decisionKeys :
    (requested env d params db).decisions.map (·.id) =
      db.decisions.map (·.id) ++ [env.newID "del" d.next] := by
  simp [requested, setPending, committedDecision, decisionRow]

/-- **A new decision keeps the constraints.** -/
theorem Database.Migrated.requested (hm : db.Migrated) (hfresh : Fresh env d.next db)
    (hnone : db.decisions.find? (·.incidentID == params.incidentID) = none)
    (hinc : params.incidentID ∈ db.incidents.map (·.id)) (hsource : params.source ∈ sourceColumn) :
    (requested env d params db).Migrated := by
  -- the new items have numbers from `d.next + 1` on
  have hitems : ∀ it ∈ itemRows env d.now (env.newID "del" d.next) params.incidentID (d.next + 1)
      (deletionStoredPaths db params.incidentID),
      (∃ j, d.next ≤ j ∧ it.id = env.newID "dli" j) ∧ it.decisionID = env.newID "del" d.next ∧
        it.incidentID = params.incidentID := by
    intro it hit
    obtain ⟨j, path, hj, -, -, rfl⟩ := mem_itemRows hit
    exact ⟨⟨j, by omega, rfl⟩, rfl, rfl⟩
  have hdec : ∀ dec ∈ (Sqlite.requested env d params db).decisions,
      dec ∈ db.decisions ∨
        dec = committedDecision env d params (deletionStoredPaths db params.incidentID).length := by
    intro dec hdec
    simpa [Sqlite.requested, setPending] using hdec
  refine
    { incidentKey := ?_, decisionKey := ?_, decisionIncident := ?_, decisionReference := ?_
      decisionSource := ?_, decisionState := ?_, decisionCount := ?_, itemKey := ?_
      itemPath := ?_, itemDecision := ?_, itemIncident := ?_, chunkReference := ?_ }
  · rw [requested_incidentKeys]
    exact hm.incidentKey
  · refine nodup_map_append hm.decisionKey fun dec hdec heq => ?_
    exact hfresh.decision _ le_rfl (List.mem_map.mpr ⟨dec, hdec, heq⟩)
  · refine nodup_map_append hm.decisionIncident fun dec hdec heq => ?_
    exact List.find?_eq_none.mp hnone dec hdec (beq_iff_eq.mpr heq)
  · intro dec h
    rw [requested_incidentKeys]
    rcases hdec dec h with h | rfl
    · exact hm.decisionReference dec h
    · exact hinc
  · intro dec h
    rcases hdec dec h with h | rfl
    · exact hm.decisionSource dec h
    · exact hsource
  · intro dec h
    rcases hdec dec h with h | rfl
    · exact hm.decisionState dec h
    · nofun
  · intro dec h
    rcases hdec dec h with h | rfl
    · exact hm.decisionCount dec h
    · exact Int.natCast_nonneg _
  · show ((db.items ++ _).map _).Nodup
    rw [List.map_append, List.nodup_append]
    refine ⟨hm.itemKey, nodup_itemRows, fun a ha b hb heq => ?_⟩
    obtain ⟨it, hit, rfl⟩ := List.mem_map.mp hb
    obtain ⟨⟨j, hj, hid⟩, -⟩ := hitems it hit
    exact hfresh.item j hj (hid ▸ heq ▸ ha)
  · show ((db.items ++ _).map _).Nodup
    rw [List.map_append, List.nodup_append]
    refine ⟨hm.itemPath, ?_, fun a ha b hb heq => ?_⟩
    · refine List.Nodup.of_map Prod.snd ?_
      rw [List.map_map]
      exact (map_storedPath_itemRows _ _).symm ▸ nodup_deletionStoredPaths db params.incidentID
    · obtain ⟨old, hold, rfl⟩ := List.mem_map.mp ha
      obtain ⟨it, hit, rfl⟩ := List.mem_map.mp hb
      have hsame : old.decisionID = env.newID "del" d.next :=
        (Prod.mk.inj heq).1.trans (hitems it hit).2.1
      exact hfresh.decision _ le_rfl (hsame ▸ hm.itemDecision old hold)
  · intro it hit
    rw [requested_decisionKeys, List.mem_append, List.mem_singleton]
    rcases List.mem_append.mp hit with hit | hit
    · exact .inl (hm.itemDecision it hit)
    · exact .inr (hitems it hit).2.1
  · intro it hit
    rw [requested_incidentKeys]
    rcases List.mem_append.mp hit with hit | hit
    · exact hm.itemIncident it hit
    · exact (hitems it hit).2.2 ▸ hinc
  · intro c hc
    rw [requested_incidentKeys]
    exact hm.chunkReference c hc

/-- The identifiers not drawn yet stay new. -/
theorem Fresh.requested (hfresh : Fresh env d.next db) :
    Fresh env (d.next + draws params db) (requested env d params db) := by
  refine ⟨fun k hk hmem => ?_, fun k hk hmem => ?_⟩
  · rw [requested_decisionKeys, List.mem_append, List.mem_singleton] at hmem
    rcases hmem with hmem | heq
    · exact hfresh.decision k (by omega) hmem
    · have := env.newID_inj heq
      simp only [draws] at hk
      omega
  · obtain ⟨it, hit, heq⟩ := List.mem_map.mp hmem
    rcases List.mem_append.mp hit with hit | hit
    · exact hfresh.item k (by omega) (heq ▸ List.mem_map.mpr ⟨it, hit, rfl⟩)
    · obtain ⟨j, path, -, hj, -, rfl⟩ := mem_itemRows hit
      have := env.newID_inj heq
      simp only [draws] at hk
      omega

/-! ### What a request does -/

/-- The request is for an incident without a decision, and its checks are satisfied. -/
structure Creates (params : DeletionRequest) (db : Database) : Prop where
  source : validDeletionSource params.source = true
  undecided : ∀ dec ∈ db.decisions, dec.incidentID ≠ params.incidentID
  incident : ∃ inc ∈ db.incidents, inc.id = params.incidentID ∧ Deletable params inc

/-- The request is for an incident with a decision, and its checks are satisfied. -/
structure Repeats (params : DeletionRequest) (db : Database) (dec : DecisionRow) : Prop where
  source : validDeletionSource params.source = true
  mem : dec ∈ db.decisions
  decided : dec.incidentID = params.incidentID
  owner : ∃ inc ∈ db.incidents, inc.id = params.incidentID ∧ ownerMatches params inc

/-- **The effect of a new decision**: one pending decision with the source of the request, one
    pending item for each stored path of the incident that is not empty, and the incident is
    pending.  Everything else is as it was. -/
structure Created (now : Time) (params : DeletionRequest) (db db' : Database)
    (status : DeletionStatus) (dec : DecisionRow) (items : List ItemRow) : Prop where
  decisionTable : db'.decisions = db.decisions ++ [dec]
  decision : dec.incidentID = params.incidentID ∧ dec.source = params.source ∧
    dec.state = .pending ∧ dec.itemCount = items.length
  itemTable : db'.items = db.items ++ items
  item : ∀ it ∈ items,
    it.decisionID = dec.id ∧ it.incidentID = params.incidentID ∧ it.state = .pending
  distinct : (items.map (·.storedPath)).Nodup
  paths : ∀ path, path ∈ items.map (·.storedPath) ↔
    path ≠ "" ∧ ∃ c ∈ db.chunks, c.incidentID = params.incidentID ∧ c.storedPath = path
  incidents : db'.incidents = updateWhere (·.id == params.incidentID)
    (fun inc => { inc with deletionState := .pending, updatedAt := formatDBTime now }) db.incidents
  chunks : db'.chunks = db.chunks
  answer : status.decisionID = dec.id ∧ status.incidentID = params.incidentID ∧
    status.source = params.source ∧ status.state = .pending ∧ status.itemCount = items.length

theorem mem_sourceColumn {source : String} (h : validDeletionSource source = true)
    (hcli : source ≠ "operator_cli") : source ∈ sourceColumn := by
  simp only [validDeletionSource, List.contains_iff_mem, List.mem_cons] at h
  simp only [sourceColumn, List.mem_cons]
  tauto

theorem Creates.undecided_find (h : Creates params db) :
    db.decisions.find? (·.incidentID == params.incidentID) = none :=
  List.find?_eq_none.mpr fun dec hdec => by simpa using h.undecided dec hdec

theorem find_incident (hm : db.Migrated) (hinc : inc ∈ db.incidents)
    (hid : inc.id = params.incidentID) :
    db.incidents.find? (·.id == params.incidentID) = some inc :=
  hid ▸ find?_key hm.incidentKey hinc

/-- A request that creates a decision answers its status. -/
theorem request_creates (hm : db.Migrated) (hfresh : Fresh env d.next db)
    (h : Creates params db) (hsource : params.source ∈ sourceColumn) :
    requestIncidentDeletion env d params db =
      (.ok (newStatus env d params (deletionStoredPaths db params.incidentID).length),
        requested env d params db) := by
  obtain ⟨inc, hinc, hid, hdel⟩ := h.incident
  have htx := requestTx_new hm hfresh h.undecided_find (find_incident hm hinc hid) hdel hsource
  rw [requestIncidentDeletion, htx, h.source]
  rfl

theorem created_requested
    (hpaths : ∀ c ∈ db.chunks, c.incidentID = params.incidentID → c.storedPath ≠ "") :
    Created d.now params db (requested env d params db)
      (newStatus env d params (deletionStoredPaths db params.incidentID).length)
      (committedDecision env d params (deletionStoredPaths db params.incidentID).length)
      (itemRows env d.now (env.newID "del" d.next) params.incidentID (d.next + 1)
        (deletionStoredPaths db params.incidentID)) := by
  have hlength : ∀ paths, (itemRows env d.now (env.newID "del" d.next) params.incidentID
      (d.next + 1) paths).length = paths.length := by
    simp [itemRows]
  refine
    { decisionTable := rfl, decision := ⟨rfl, rfl, rfl, by rw [hlength]; rfl⟩, itemTable := rfl
      item := fun it hit => ?_, distinct := ?_, paths := fun path => ?_, incidents := rfl
      chunks := rfl, answer := ⟨rfl, rfl, rfl, rfl, by rw [hlength]; rfl⟩ }
  · obtain ⟨j, path, -, -, -, rfl⟩ := mem_itemRows hit
    exact ⟨rfl, rfl, rfl⟩
  · rw [map_storedPath_itemRows]
    exact nodup_deletionStoredPaths db params.incidentID
  · rw [map_storedPath_itemRows, mem_deletionStoredPaths]
    constructor
    · rintro ⟨c, hc, hinc, rfl⟩
      exact ⟨hpaths c hc hinc, c, hc, hinc, rfl⟩
    · exact fun h => h.2

/-- A repeated request answers the decision that is there. -/
theorem request_repeats {dec : DecisionRow} {status : DeletionStatus} (hm : db.Migrated)
    (h : Repeats params db dec) (hscan : scanDeletionStatus dec = some status) :
    requestIncidentDeletion env d params db = (.ok status, db) := by
  obtain ⟨inc, hinc, hid, howner⟩ := h.owner
  have hfind : db.decisions.find? (·.incidentID == params.incidentID) = some dec :=
    h.decided ▸ find?_key hm.decisionIncident h.mem
  have htx : requestTx env d params db = .ok (status, db) := by
    unfold requestTx
    simp only [hfind]
    refine bind_ok.mpr ⟨status, found_ok.mpr hscan, ?_⟩
    split
    next hrequired =>
      refine bind_ok.mpr ⟨inc, found_ok.mpr (find_incident hm hinc hid), ?_⟩
      exact bind_ok.mpr ⟨(), ensure_ok.mpr (howner.resolve_left hrequired), rfl⟩
    next => rfl
  rw [requestIncidentDeletion, htx, h.source]
  rfl

/-- **Only a request that creates a decision changes the database.** -/
theorem request_unchanged (h : ¬ Creates params db) :
    (requestIncidentDeletion env d params db).2 = db := by
  unfold requestIncidentDeletion
  split
  · rfl
  next hsource =>
    split
    next status db' htx =>
      unfold requestTx at htx
      split at htx
      next row hrow =>
        -- the decision is there: both branches commit the state as it was
        obtain ⟨existing, -, htx⟩ := bind_ok.mp htx
        split at htx
        · obtain ⟨inc, -, htx⟩ := bind_ok.mp htx
          obtain ⟨-, -, htx⟩ := bind_ok.mp htx
          exact (Prod.mk.inj (pure_ok.mp htx)).2.symm
        · exact (Prod.mk.inj (pure_ok.mp htx)).2.symm
      next hnone =>
        obtain ⟨inc, hfind, htx⟩ := bind_ok.mp htx
        obtain ⟨u, hdel, -⟩ := bind_ok.mp htx
        have hid : inc.id = params.incidentID := by
          simpa using List.find?_some (found_ok.mp hfind)
        refine absurd ?_ h
        refine ⟨by simpa using hsource, fun dec hdec => ?_, inc, ?_, hid, ?_⟩
        · simpa using List.find?_eq_none.mp hnone dec hdec
        · exact List.mem_of_find?_eq_some (found_ok.mp hfind)
        · exact requireDeletable_ok.mp hdel
    next => rfl

end Request

/-- A closed incident with three chunks, two of which share their file. -/
def closedIncident : Database where
  incidents := [⟨"inc", some "acc", .closed, formatDBTime 0, .active⟩]
  chunks := [⟨"inc", "b"⟩, ⟨"inc", "a"⟩, ⟨"inc", "b"⟩]

theorem migrated_closedIncident : closedIncident.Migrated := by
  constructor <;> simp [closedIncident]

theorem fresh_closedIncident (env : Env) (next : Nat) : Fresh env next closedIncident :=
  ⟨by simp [closedIncident], by simp [closedIncident]⟩

theorem creates_closedIncident {source : String} (h : validDeletionSource source = true) :
    Creates { incidentID := "inc", source } closedIncident where
  source := h
  undecided := nofun
  incident := ⟨_, List.mem_singleton.mpr rfl, rfl, .inl rfl, rfl, nofun, nofun⟩

end SafetyRecorder.Sqlite
