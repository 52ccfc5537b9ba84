import SafetyRecorder.Incidents.Transactions

namespace SafetyRecorder

open Table

/-!
# Incidents — the consistency of the deletion tables

`Consistent` relates incidents, deletion decisions, deletion items and chunks, and
every write transaction keeps it:

* `consistent_restate` — a decision and its incident change state together;
* `consistent_effect` — every effect keeps `Consistent`;
* `incident_origin`, `decision_origin` — where the rows after a transaction come from;
* `Frozen` — the identifier of an incident that has been decided on, or is gone
  for good; `frozen_effect` — it stays so, because identifiers are never drawn
  twice and no transaction makes an incident active again;
* `chunks_of_frozen`, `rows_of_frozen` — no chunk and, after pruning, no row at all
  is written below a frozen incident;
* `chunks_of_effect`, `items_of_effect` — where the chunks and items after a
  transaction come from.
-/

/-- The identifier was drawn before the `n`-th draw. -/
def Issued (env : Env) (n : Nat) (id : String) : Prop :=
  ∃ p k, k < n ∧ id = env.newID p k

theorem Issued.mono {env : Env} {n m : Nat} {id : String} (h : Issued env n id) (hnm : n ≤ m) :
    Issued env m id := by
  obtain ⟨p, k, hk, rfl⟩ := h
  exact ⟨p, k, lt_of_lt_of_le hk hnm, rfl⟩

/-- A new identifier differs from every identifier drawn before. -/
theorem Issued.ne_newID {env : Env} {n k : Nat} {id p : String} (h : Issued env n id)
    (hk : n ≤ k) : id ≠ env.newID p k := by
  obtain ⟨q, j, hj, rfl⟩ := h
  intro heq
  have := env.newID_inj heq
  omega

/-- The consistency of the deletion tables, when `n` identifiers have been drawn. -/
structure Consistent (env : Env) (n : Nat) (db : DB) : Prop where
  incidentIDs : (db.incidents.map (·.id)).Nodup
  decisionIDs : (db.decisions.map (·.id)).Nodup
  decisionIncidents : (db.decisions.map (·.incidentID)).Nodup
  itemIDs : (db.items.map (·.id)).Nodup
  /-- A decision's incident exists and carries the decision's state. -/
  decisionState : ∀ dec ∈ db.decisions, dec.state ≠ .active ∧
    ∃ inc ∈ db.incidents, inc.id = dec.incidentID ∧ inc.deletionState = dec.state
  /-- An incident that is not active has a decision. -/
  decided : ∀ inc ∈ db.incidents, inc.deletionState ≠ .active →
    ∃ dec ∈ db.decisions, dec.incidentID = inc.id
  itemDecision : ∀ it ∈ db.items,
    ∃ dec ∈ db.decisions, dec.id = it.decisionID ∧ dec.incidentID = it.incidentID
  /-- The snapshot of a decision covers the chunks of its incident. -/
  chunkItem : ∀ dec ∈ db.decisions, ∀ c ∈ db.chunks, c.incidentID = dec.incidentID →
    ∃ it ∈ db.items, it.decisionID = dec.id ∧ it.storedPath = c.storedPath
  rowIncident : ∀ i ∈ db.childIncidents, ∃ inc ∈ db.incidents, inc.id = i
  issuedIncidents : ∀ inc ∈ db.incidents, Issued env n inc.id
  issuedDecisions : ∀ dec ∈ db.decisions, Issued env n dec.id
  issuedItems : ∀ it ∈ db.items, Issued env n it.id

theorem consistent_empty (env : Env) : Consistent env 0 {} := by
  constructor <;> simp [DB.childIncidents]

variable {env : Env} {n : Nat} {db db' : DB}

variable {c : Chunk}

theorem mem_childIncidents_of_chunk (hc : c ∈ db.chunks) :
    c.incidentID ∈ db.childIncidents := by
  simp only [DB.childIncidents, List.mem_append, List.mem_map]
  exact .inl (.inl (.inl (.inl (.inl (.inl ⟨c, hc, rfl⟩)))))

namespace Consistent

/-- Drawing further identifiers keeps consistency. -/
theorem mono (h : Consistent env n db) {m : Nat} (hnm : n ≤ m) : Consistent env m db :=
  { h with
    issuedIncidents := fun inc hi => (h.issuedIncidents inc hi).mono hnm
    issuedDecisions := fun dec hd => (h.issuedDecisions dec hd).mono hnm
    issuedItems := fun it hi => (h.issuedItems it hi).mono hnm }

/-- The incident of a decision is not active. -/
theorem not_active (h : Consistent env n db) {dec : DeletionDecision} (hdec : dec ∈ db.decisions)
    {inc : Incident} (hinc : inc ∈ db.incidents) (hid : inc.id = dec.incidentID) :
    inc.deletionState = dec.state ∧ inc.deletionState ≠ .active := by
  obtain ⟨hne, inc', hinc', hid', hst⟩ := h.decisionState dec hdec
  obtain rfl := eq_of_key h.incidentIDs hinc hinc' (hid.trans hid'.symm)
  exact ⟨hst, hst ▸ hne⟩

/-- An incident is active exactly when it has no decision. -/
theorem active_iff (h : Consistent env n db) {inc : Incident} (hinc : inc ∈ db.incidents) :
    inc.deletionState = .active ↔ ∀ dec ∈ db.decisions, dec.incidentID ≠ inc.id := by
  constructor
  · intro hact dec hdec hid
    exact (h.not_active hdec hinc hid.symm).2 hact
  · intro hnone
    by_contra hne
    obtain ⟨dec, hdec, hid⟩ := h.decided inc hinc hne
    exact hnone dec hdec hid

/-- The incident of a chunk row exists. -/
theorem chunkIncident (h : Consistent env n db) {c : Chunk} (hc : c ∈ db.chunks) :
    ∃ inc ∈ db.incidents, inc.id = c.incidentID :=
  h.rowIncident _ (mem_childIncidents_of_chunk hc)

end Consistent

/-- The rows below incidents, when those of one incident are pruned. -/
private theorem childIncidents_prune {i j : String} (h : i ∈ (db.pruneChildren j).childIncidents) :
    i ∈ db.childIncidents := by
  simp only [DB.childIncidents, DB.pruneChildren, List.mem_append, List.mem_map,
    mem_deleteWhere] at h ⊢
  grind

private theorem childIncidents_deleteIncidents {i : String} {ids : List String}
    (h : i ∈ (db.deleteIncidents ids).childIncidents) : i ∈ db.childIncidents ∧ i ∉ ids := by
  simp only [DB.childIncidents, DB.deleteIncidents, List.mem_append, List.mem_map,
    mem_deleteWhere, List.contains_eq_mem, decide_eq_false_iff_not] at h ⊢
  grind

private theorem childIncidents_chunk {i : String}
    (h : i ∈ DB.childIncidents { db with chunks := db.chunks ++ [c] }) :
    i ∈ db.childIncidents ∨ i = c.incidentID := by
  simp only [DB.childIncidents, List.map_append, List.map_singleton, List.mem_append,
    List.mem_singleton] at h ⊢
  tauto

/-- The item after a transaction is the item before it, as far as its keys go. -/
structure SameItem (it it' : DeletionItem) : Prop where
  id : it'.id = it.id
  decisionID : it'.decisionID = it.decisionID
  incidentID : it'.incidentID = it.incidentID
  storedPath : it'.storedPath = it.storedPath

/-! ### Effects on one table -/

private theorem consistent_incident (h : Consistent env n db) {inc : Incident}
    (id : inc.id = env.newID "inc" n) (active : inc.deletionState = .active) :
    Consistent env (n + 1) { db with incidents := db.incidents ++ [inc] } := by
  have hmono := h.mono (Nat.le_succ n)
  have hkeep : ∀ x ∈ db.incidents, x ∈ db.incidents ++ [inc] :=
    fun x hx => List.mem_append_left _ hx
  refine { hmono with incidentIDs := ?_, decisionState := ?_, decided := ?_, rowIncident := ?_,
                      issuedIncidents := ?_ }
  · refine nodup_map_append h.incidentIDs fun r hr => ?_
    rw [id]
    exact (h.issuedIncidents r hr).ne_newID (le_refl n)
  · intro dec hdec
    obtain ⟨hne, x, hx, hrest⟩ := h.decisionState dec hdec
    exact ⟨hne, x, hkeep x hx, hrest⟩
  · intro x hx hne
    rcases mem_append_row.mp hx with hx | rfl
    · exact h.decided x hx hne
    · exact absurd active hne
  · intro i hi
    obtain ⟨x, hx, hid⟩ := h.rowIncident i hi
    exact ⟨x, hkeep x hx, hid⟩
  · intro x hx
    rcases mem_append_row.mp hx with hx | rfl
    · exact hmono.issuedIncidents x hx
    · exact ⟨"inc", n, Nat.lt_succ_self n, id⟩

private theorem consistent_chunk (h : Consistent env n db) (active : db.Active c.incidentID) :
    Consistent env n { db with chunks := db.chunks ++ [c] } := by
  obtain ⟨inc, hinc, hid, hact⟩ := active
  refine { h with chunkItem := ?_, rowIncident := ?_ }
  · intro dec hdec c' hc' hinc'
    rcases mem_append_row.mp hc' with hc' | rfl
    · exact h.chunkItem dec hdec c' hc' hinc'
    · -- the incident of the new row is active, so it has no decision
      exact absurd hact (h.not_active hdec hinc (hid.trans hinc')).2
  · intro i hi
    rcases childIncidents_chunk hi with hold | rfl
    · exact h.rowIncident i hold
    · exact ⟨inc, hinc, hid⟩

private theorem consistent_items (h : Consistent env n db) {p : DeletionItem → Bool}
    (f : DeletionItem → DeletionItem) (hf : ∀ it, SameItem it (f it)) :
    Consistent env n { db with items := updateWhere p f db.items } := by
  have hback : ∀ it' ∈ updateWhere p f db.items, ∃ it ∈ db.items, SameItem it it' := by
    intro it' hit'
    rcases of_mem_updateWhere hit' with ⟨hit, -⟩ | ⟨it, hit, -, rfl⟩
    · exact ⟨it', hit, rfl, rfl, rfl, rfl⟩
    · exact ⟨it, hit, hf it⟩
  refine { h with itemIDs := ?_, itemDecision := ?_, chunkItem := ?_, issuedItems := ?_ }
  · exact nodup_map_updateWhere (fun it => (hf it).id) h.itemIDs
  · intro it' hit'
    obtain ⟨it, hit, hsame⟩ := hback it' hit'
    rw [hsame.decisionID, hsame.incidentID]
    exact h.itemDecision it hit
  · intro dec hdecMem c hc hci
    obtain ⟨it, hit, hd, hp⟩ := h.chunkItem dec hdecMem c hc hci
    exact exists_updateWhere hit ⟨hd, hp⟩ ⟨(hf it).decisionID.trans hd, (hf it).storedPath.trans hp⟩
  · intro it' hit'
    obtain ⟨it, hit, hsame⟩ := hback it' hit'
    exact hsame.id ▸ h.issuedItems it hit

/-! ### Effects on decisions and incidents -/

/-- Incidents and decisions change in place: an active incident stays active, and the
    others have the states of their decisions. -/
private theorem consistent_map (h : Consistent env n db) {g : Incident → Incident}
    {f : DeletionDecision → DeletionDecision} (hg : ∀ x, (g x).id = x.id)
    (hf : ∀ r, (f r).id = r.id ∧ (f r).incidentID = r.incidentID)
    (hactive : ∀ x ∈ db.incidents, x.deletionState = .active → (g x).deletionState = .active)
    (hstate : ∀ r ∈ db.decisions, ∀ x ∈ db.incidents, x.id = r.incidentID →
      (f r).state ≠ .active ∧ (g x).deletionState = (f r).state)
    (incidents : db'.incidents = db.incidents.map g)
    (decisions : db'.decisions = db.decisions.map f)
    (chunks : db'.chunks = db.chunks) (items : db'.items = db.items)
    (rows : ∀ i ∈ db'.childIncidents, i ∈ db.childIncidents ∨ db.Active i) :
    Consistent env n db' := by
  have hinc : ∀ x ∈ db.incidents, g x ∈ db'.incidents := fun x hx =>
    incidents ▸ List.mem_map_of_mem hx
  have hdec : ∀ r ∈ db.decisions, f r ∈ db'.decisions := fun r hr =>
    decisions ▸ List.mem_map_of_mem hr
  constructor
  case incidentIDs => rw [incidents, map_key hg]; exact h.incidentIDs
  case decisionIDs => rw [decisions, map_key fun r => (hf r).1]; exact h.decisionIDs
  case decisionIncidents => rw [decisions, map_key fun r => (hf r).2]; exact h.decisionIncidents
  case itemIDs => rw [items]; exact h.itemIDs
  case decisionState =>
    rw [decisions, List.forall_mem_map]
    intro r hr
    obtain ⟨-, x, hx, hid, -⟩ := h.decisionState r hr
    obtain ⟨hne, hst⟩ := hstate r hr x hx hid
    exact ⟨hne, g x, hinc x hx, by rw [hg, hid, (hf r).2], hst⟩
  case decided =>
    rw [incidents, List.forall_mem_map]
    intro x hx hne
    obtain ⟨r, hr, hid⟩ := h.decided x hx fun hact => hne (hactive x hx hact)
    exact ⟨f r, hdec r hr, by rw [(hf r).2, hid, hg]⟩
  case itemDecision =>
    rw [items]
    intro it hit
    obtain ⟨r, hr, hid, hincID⟩ := h.itemDecision it hit
    exact ⟨f r, hdec r hr, (hf r).1.trans hid, (hf r).2.trans hincID⟩
  case chunkItem =>
    rw [items, chunks, decisions, List.forall_mem_map]
    intro r hr c hc hci
    rw [(hf r).1]
    exact h.chunkItem r hr c hc (hci.trans (hf r).2)
  case rowIncident =>
    intro i hi
    obtain ⟨x, hx, hid⟩ : ∃ x ∈ db.incidents, x.id = i := by
      rcases rows i hi with hold | ⟨x, hx, hid, -⟩
      · exact h.rowIncident i hold
      · exact ⟨x, hx, hid⟩
    exact ⟨g x, hinc x hx, (hg x).trans hid⟩
  case issuedIncidents =>
    rw [incidents, List.forall_mem_map]
    exact fun x hx => (hg x).symm ▸ h.issuedIncidents x hx
  case issuedDecisions =>
    rw [decisions, List.forall_mem_map]
    exact fun r hr => (hf r).1.symm ▸ h.issuedDecisions r hr
  case issuedItems => rw [items]; exact h.issuedItems

private theorem consistent_quiet (h : Consistent env n db) {g : Incident → Incident}
    (hg : Benign g) (incidents : db'.incidents = db.incidents.map g)
    (chunks : db'.chunks = db.chunks) (decisions : db'.decisions = db.decisions)
    (items : db'.items = db.items)
    (rows : ∀ i ∈ db'.childIncidents, i ∈ db.childIncidents ∨ db.Active i) :
    Consistent env n db' := by
  refine consistent_map h hg.id (fun _ => ⟨rfl, rfl⟩) (fun x _ => (hg.state x).trans) ?_ incidents
    (decisions.trans (List.map_id' _).symm) chunks items rows
  intro r hr x hx hid
  obtain ⟨hst, hne⟩ := h.not_active hr hx hid
  exact ⟨hst ▸ hne, (hg.state x).trans hst⟩

variable {dec : DeletionDecision}

/-- A decision and its incident change state together. -/
private theorem consistent_restate (h : Consistent env n db)
    (hdec : dec ∈ db.decisions) (st : DeletionState) (hst : st ≠ .active)
    {p : DeletionDecision → Bool} (hp : ∀ r ∈ db.decisions, p r = true ↔ r = dec)
    (f : DeletionDecision → DeletionDecision)
    (hf : ∀ r, (f r).id = r.id ∧ (f r).incidentID = r.incidentID ∧ (f r).state = st)
    (g : Incident → Incident) (hg : ∀ i, (g i).id = i.id ∧ (g i).deletionState = st)
    (decisions : db'.decisions = updateWhere p f db.decisions)
    (incidents : db'.incidents = updateWhere (·.id == dec.incidentID) g db.incidents)
    (chunks : db'.chunks = db.chunks) (items : db'.items = db.items)
    (rows : ∀ i ∈ db'.childIncidents, i ∈ db.childIncidents) : Consistent env n db' := by
  refine consistent_map h ?_ ?_ ?_ ?_ incidents decisions chunks items fun i hi => .inl (rows i hi)
  · exact fun x => column_ite _ (hg x).1
  · exact fun r => ⟨column_ite _ (hf r).1, column_ite _ (hf r).2.1⟩
  · intro x hx hact
    have hne : x.id ≠ dec.incidentID := fun hid => (h.not_active hdec hx hid).2 hact
    simpa [hne] using hact
  · intro r hr x hx hid
    obtain ⟨hstate, hact⟩ := h.not_active hr hx hid
    by_cases hsel : r = dec
    · obtain rfl := hsel
      simp [(hp r hr).mpr rfl, hid, (hf r).2.2, (hg x).2, hst]
    · -- another decision is the decision of another incident
      have hne : x.id ≠ dec.incidentID := fun heq =>
        hsel (eq_of_key h.decisionIncidents hr hdec (hid.symm.trans heq))
      have hnot : p r = false := Bool.eq_false_iff.mpr fun hpr => hsel ((hp r hr).mp hpr)
      simp [hne, hnot, ← hstate, hact]

/-- The decision with a given id, as a selection. -/
private theorem select_decision (h : Consistent env n db)
    (hdec : dec ∈ db.decisions) : ∀ r ∈ db.decisions, (r.id == dec.id) = true ↔ r = dec := by
  intro r hr
  rw [beq_iff_eq]
  exact ⟨fun hid => eq_of_key h.decisionIDs hr hdec hid, fun he => he ▸ rfl⟩

/-- Pruning the children and the items of a decision keeps consistency. -/
private theorem consistent_prune (h : Consistent env n db) (hdec : dec ∈ db.decisions) :
    Consistent env n { db.pruneChildren dec.incidentID with
      items := deleteWhere (·.decisionID == dec.id) db.items } := by
  refine { h with itemIDs := ?_, itemDecision := ?_, chunkItem := ?_, rowIncident := ?_,
                  issuedItems := ?_ }
  · exact nodup_map_deleteWhere h.itemIDs
  · intro it hit
    exact h.itemDecision it (mem_deleteWhere.mp hit).1
  · intro r hr c hc hci
    obtain ⟨hcMem, hcKeep⟩ := mem_deleteWhere.mp hc
    obtain ⟨it, hit, hitDec, hpath⟩ := h.chunkItem r hr c hcMem hci
    -- the chunk is kept, so it is a chunk of another incident and of another decision
    have hne : r.id ≠ dec.id := by
      intro hid
      obtain rfl := eq_of_key h.decisionIDs hr hdec hid
      simp [hci] at hcKeep
    exact ⟨it, mem_deleteWhere.mpr ⟨hit, by simpa [hitDec] using hne⟩, hitDec, hpath⟩
  · exact fun i hi => h.rowIncident i (childIncidents_prune hi)
  · exact fun it hit => h.issuedItems it (mem_deleteWhere.mp hit).1

variable {d : Draw}

private theorem consistent_complete (h : Consistent env n db)
    (hdec : dec ∈ db.decisions) {events : List SharingAuditEvent} :
    Consistent env n { db.pruneChildren dec.incidentID with
      auditEvents := events
      items := deleteWhere (·.decisionID == dec.id) db.items
      decisions := updateWhere (·.id == dec.id) (markDeleted d.now) db.decisions
      incidents := updateWhere (·.id == dec.incidentID) (tombstone d.now) db.incidents } := by
  have hselect := select_decision h hdec
  exact consistent_restate (consistent_prune h hdec) hdec .deleted (by decide) hselect
    (markDeleted d.now) (fun _ => ⟨rfl, rfl, rfl⟩) (tombstone d.now) (fun _ => ⟨rfl, rfl⟩)
    rfl rfl rfl rfl fun _ hi => hi

private theorem consistent_request (h : Consistent env n db) {now : Time}
    {p : IncidentDeletionRequest} (undecided : ∀ r ∈ db.decisions, r.incidentID ≠ p.incidentID)
    (active : db.Active p.incidentID) :
    Consistent env (n + (1 + (db.deletionStoredPaths p.incidentID).length)) { db with
      incidents := db.setDeletionState p.incidentID .pending now
      decisions := db.decisions ++
        [newDecision env ⟨n, now⟩ p (db.deletionStoredPaths p.incidentID).length]
      items := db.items ++ newItems env now (env.newID "del" n) p.incidentID (n + 1)
        (db.deletionStoredPaths p.incidentID) } := by
  obtain ⟨inc, hinc, hid, hact⟩ := active
  have hmono := h.mono (Nat.le_add_right n (1 + (db.deletionStoredPaths p.incidentID).length))
  have hnewMem : newDecision env ⟨n, now⟩ p (db.deletionStoredPaths p.incidentID).length ∈
      db.decisions ++ [newDecision env ⟨n, now⟩ p (db.deletionStoredPaths p.incidentID).length] :=
    List.mem_append_right _ (List.mem_singleton_self _)
  let g : Incident → Incident := fun x =>
    if x.id == p.incidentID then { x with deletionState := .pending, updatedAt := now } else x
  have hg : ∀ x, (g x).id = x.id := by
    intro x
    unfold g
    split <;> rfl
  constructor
  case incidentIDs => exact nodup_map_updateWhere (fun _ => rfl) h.incidentIDs
  case decisionIDs =>
    refine nodup_map_append h.decisionIDs fun r hr => ?_
    exact (h.issuedDecisions r hr).ne_newID (le_refl n)
  case decisionIncidents => exact nodup_map_append h.decisionIncidents undecided
  case itemIDs =>
    show ((db.items ++ _).map (·.id)).Nodup
    rw [List.map_append, List.nodup_append]
    refine ⟨h.itemIDs, nodup_newItems, ?_⟩
    intro a ha b hb
    obtain ⟨it, hit, rfl⟩ := List.mem_map.mp ha
    obtain ⟨it', hit', rfl⟩ := List.mem_map.mp hb
    obtain ⟨-, -, -, -, j, hj, -, hjd⟩ := mem_newItems hit'
    rw [hjd]
    exact (h.issuedItems it hit).ne_newID (by omega)
  case decisionState =>
    intro r hr
    rcases mem_append_row.mp hr with hr | rfl
    · obtain ⟨hne, x, hx, hri, hst⟩ := h.decisionState r hr
      have hother : x.id ≠ p.incidentID := hri ▸ undecided r hr
      exact ⟨hne, g x, List.mem_map_of_mem hx, (hg x).trans hri, by simpa [g, hother] using hst⟩
    · exact ⟨by simp [newDecision], g inc, List.mem_map_of_mem hinc, (hg inc).trans hid,
        by simp [g, hid, newDecision]⟩
  case decided =>
    refine List.forall_mem_map.mpr fun x hx hne => ?_
    by_cases hxi : x.id = p.incidentID
    · exact ⟨_, hnewMem, ((hg x).trans hxi).symm⟩
    · obtain ⟨r, hr, hri⟩ := h.decided x hx (by simpa [hxi] using hne)
      exact ⟨r, List.mem_append_left _ hr, hri.trans (hg x).symm⟩
  case itemDecision =>
    intro it hit
    rcases List.mem_append.mp hit with hit | hit
    · obtain ⟨r, hr, hrest⟩ := h.itemDecision it hit
      exact ⟨r, List.mem_append_left _ hr, hrest⟩
    · obtain ⟨hdec, hincID, -⟩ := mem_newItems hit
      exact ⟨_, hnewMem, hdec.symm, hincID.symm⟩
  case chunkItem =>
    intro r hr c hc hci
    rcases mem_append_row.mp hr with hr | rfl
    · obtain ⟨it, hit, hrest⟩ := h.chunkItem r hr c hc hci
      exact ⟨it, List.mem_append_left _ hit, hrest⟩
    · -- the new decision: the snapshot has an item for the chunk's path
      have hpath : c.storedPath ∈ db.deletionStoredPaths p.incidentID :=
        mem_deletionStoredPaths.mpr ⟨c, hc, hci, rfl⟩
      obtain ⟨it, hit, hp⟩ : ∃ it ∈ newItems env now (env.newID "del" n) p.incidentID (n + 1)
          (db.deletionStoredPaths p.incidentID), it.storedPath = c.storedPath :=
        exists_newItems hpath
      exact ⟨it, List.mem_append_right _ hit, (mem_newItems hit).1, hp⟩
  case rowIncident =>
    intro i hi
    obtain ⟨x, hx, hxi⟩ := h.rowIncident i hi
    exact ⟨g x, List.mem_map_of_mem hx, (hg x).trans hxi⟩
  case issuedIncidents =>
    exact List.forall_mem_map.mpr fun x hx => (hg x).symm ▸ hmono.issuedIncidents x hx
  case issuedDecisions =>
    intro r hr
    rcases mem_append_row.mp hr with hr | rfl
    · exact hmono.issuedDecisions r hr
    · exact ⟨"del", n, by omega, rfl⟩
  case issuedItems =>
    intro it hit
    rcases List.mem_append.mp hit with hit | hit
    · exact hmono.issuedItems it hit
    · obtain ⟨-, -, -, -, j, -, hjlt, hid⟩ := mem_newItems hit
      exact ⟨"dli", j, by omega, hid⟩

private theorem consistent_tombstones (h : Consistent env n db) {cutoff : Time} {limit : Int} :
    Consistent env n (db.deleteIncidents (pruneTombstoneIncidentIDs env cutoff limit db)) := by
  generalize hids : pruneTombstoneIncidentIDs env cutoff limit db = ids
  have hsel : ∀ i ∈ ids, ∃ dec ∈ db.decisions, dec.incidentID = i ∧ dec.state = .deleted :=
    fun i hi => (mem_pruneTombstoneIncidentIDs (hids ▸ hi)).2
  -- an incident whose id is selected is in state deleted, so it goes away
  have hgone : ∀ inc ∈ db.incidents, inc.id ∈ ids → inc.deletionState = .deleted := by
    intro inc hinc hid
    obtain ⟨dec, hdec, hdi, hst⟩ := hsel _ hid
    rw [(h.not_active hdec hinc hdi.symm).1, hst]
  have hkeepInc : ∀ inc ∈ db.incidents, inc.id ∉ ids → inc ∈ (db.deleteIncidents ids).incidents :=
    fun inc hinc hid => mem_deleteWhere.mpr ⟨hinc, by simp [hid]⟩
  constructor
  case incidentIDs => exact nodup_map_deleteWhere h.incidentIDs
  case decisionIDs => exact nodup_map_deleteWhere h.decisionIDs
  case decisionIncidents => exact nodup_map_deleteWhere h.decisionIncidents
  case itemIDs => exact nodup_map_deleteWhere h.itemIDs
  case decisionState =>
    intro dec hdec
    obtain ⟨hmem, hkeep⟩ := mem_deleteWhere.mp hdec
    obtain ⟨hne, inc, hinc, hid, hst⟩ := h.decisionState dec hmem
    refine ⟨hne, inc, hkeepInc inc hinc ?_, hid, hst⟩
    rw [hid]
    simpa using hkeep
  case decided =>
    intro inc hinc hne
    obtain ⟨hmem, hkeep⟩ := mem_deleteWhere.mp hinc
    obtain ⟨dec, hdec, hid⟩ := h.decided inc hmem hne
    refine ⟨dec, mem_deleteWhere.mpr ⟨hdec, ?_⟩, hid⟩
    have hnot : inc.id ∉ ids := fun hin => by simp [hin, hgone inc hmem hin] at hkeep
    simpa [hid] using hnot
  case itemDecision =>
    intro it hit
    obtain ⟨hmem, hkeep⟩ := mem_deleteWhere.mp hit
    obtain ⟨dec, hdec, hid, hinc⟩ := h.itemDecision it hmem
    exact ⟨dec, mem_deleteWhere.mpr ⟨hdec, by rw [hinc]; exact hkeep⟩, hid, hinc⟩
  case chunkItem =>
    intro dec hdec c hc hci
    obtain ⟨hdecMem, hdecKeep⟩ := mem_deleteWhere.mp hdec
    obtain ⟨it, hit, hid, hpath⟩ := h.chunkItem dec hdecMem c (mem_deleteWhere.mp hc).1 hci
    obtain ⟨dec', hdec', hid', hinc'⟩ := h.itemDecision it hit
    obtain rfl := eq_of_key h.decisionIDs hdec' hdecMem (hid'.trans hid)
    exact ⟨it, mem_deleteWhere.mpr ⟨hit, by rw [← hinc']; exact hdecKeep⟩, hid, hpath⟩
  case rowIncident =>
    intro i hi
    obtain ⟨hold, hnot⟩ := childIncidents_deleteIncidents hi
    obtain ⟨inc, hinc, hid⟩ := h.rowIncident i hold
    exact ⟨inc, hkeepInc inc hinc (hid ▸ hnot), hid⟩
  case issuedIncidents => exact fun inc hinc => h.issuedIncidents inc (mem_deleteWhere.mp hinc).1
  case issuedDecisions => exact fun dec hdec => h.issuedDecisions dec (mem_deleteWhere.mp hdec).1
  case issuedItems => exact fun it hit => h.issuedItems it (mem_deleteWhere.mp hit).1

variable {t : Tx}

/-- **Preservation.** Every successful call keeps the deletion tables consistent. -/
theorem consistent_effect (h : Consistent env d.next db)
    (he : Effect env d t db db') : Consistent env (d.next + t.draws db) db' := by
  cases he with
  | quiet g hg incidents chunks decisions items events rows =>
    exact (consistent_quiet h hg incidents chunks decisions items rows).mono (Nat.le_add_right _ _)
  | incident inc id active => exact (consistent_incident h id active).mono (Nat.le_succ _)
  | chunk p active => exact (consistent_chunk h active).mono (Nat.le_add_right _ _)
  | request p undecided active => exact consistent_request h undecided active
  | claim dec stale mem ready =>
    refine Consistent.mono ?_ (Nat.le_add_right _ _)
    refine consistent_restate h mem .deleting (by decide) ?_ (markDeleting d.now)
      (fun _ => ⟨rfl, rfl, rfl⟩) (fun i => { i with deletionState := .deleting, updatedAt := d.now })
      (fun _ => ⟨rfl, rfl⟩) rfl rfl rfl rfl fun _ hi => hi
    intro r hr
    rw [Bool.and_eq_true, select_decision h mem r hr]
    exact ⟨fun hsel => hsel.1, fun he => ⟨he, he ▸ ready⟩⟩
  | itemDeleted id mem =>
    exact (consistent_items h (itemDeleted d.now) fun _ => ⟨rfl, rfl, rfl, rfl⟩).mono
      (Nat.le_add_right _ _)
  | itemFailed id code mem =>
    exact (consistent_items h (itemFailed d.now code) fun _ => ⟨rfl, rfl, rfl, rfl⟩).mono
      (Nat.le_add_right _ _)
  | complete dec mem done inc incMem incID =>
    exact (consistent_complete h mem).mono (Nat.le_add_right _ _)
  | fail dec code mem =>
    refine Consistent.mono ?_ (Nat.le_add_right _ _)
    exact consistent_restate h mem .failed (by decide) (select_decision h mem)
      (markDeletionFailed d.now code) (fun _ => ⟨rfl, rfl, rfl⟩)
      (fun i => { i with deletionState := .failed, updatedAt := d.now }) (fun _ => ⟨rfl, rfl⟩)
      rfl rfl rfl rfl fun _ hi => hi
  | tombstones cutoff limit => exact (consistent_tombstones h).mono (Nat.le_add_right _ _)

/-! ### Where incidents and decisions come from -/

/-- The decision that a transaction completes or fails. -/
def Tx.finishes : Tx → Option String
  | .completeIncidentDeletion d => some d
  | .failIncidentDeletion d _ => some d
  | _ => none

/-- Where an incident comes from. -/
inductive IncidentOrigin (env : Env) (d : Draw) (t : Tx) (db : DB) (inc' : Incident) : Prop
  /-- No transaction but a deletion changes an incident that is not active. -/
  | kept (inc : Incident) (mem : inc ∈ db.incidents) (id : inc.id = inc'.id)
      (state : inc.deletionState = inc'.deletionState)
      (same : inc.deletionState ≠ .active → inc' = inc)
  | new (id : inc'.id = env.newID "inc" d.next) (active : inc'.deletionState = .active)
  /-- Its deletion is requested, or its decision is claimed or finished. -/
  | restated (inc : Incident) (mem : inc ∈ db.incidents) (id : inc.id = inc'.id)
      (owner : inc.ownerAccountID = inc'.ownerAccountID) (state : inc'.deletionState ≠ .active)
      (decision : db.Active inc.id ∨ ∃ dec ∈ db.decisions, dec.incidentID = inc.id ∧
        (dec.state ≠ .deleted ∨ t.finishes = some dec.id))

theorem ne_deleted_of_runnable {stale : Time} (h : runnable env stale dec = true) :
    dec.state ≠ .deleted := by
  intro hst
  simp [runnable, hst] at h

theorem incident_origin (he : Effect env d t db db') {inc' : Incident}
    (hinc' : inc' ∈ db'.incidents) : IncidentOrigin env d t db inc' := by
  have hsame (hinc : inc' ∈ db.incidents) : IncidentOrigin env d t db inc' :=
    .kept inc' hinc rfl rfl fun _ => rfl
  have hset {i : String} {g : Incident → Incident}
      (hinc' : inc' ∈ updateWhere (·.id == i) g db.incidents)
      (hg : ∀ x, x.id = (g x).id ∧ x.ownerAccountID = (g x).ownerAccountID ∧
        (g x).deletionState ≠ .active)
      (hdec : db.Active i ∨ ∃ dec ∈ db.decisions, dec.incidentID = i ∧
        (dec.state ≠ .deleted ∨ t.finishes = some dec.id)) : IncidentOrigin env d t db inc' := by
    rcases of_mem_updateWhere hinc' with ⟨hinc, -⟩ | ⟨inc, hinc, hsel, rfl⟩
    · exact hsame hinc
    · obtain rfl := beq_iff_eq.mp hsel
      obtain ⟨hid, howner, hstate⟩ := hg inc
      exact .restated inc hinc hid howner hstate hdec
  cases he with
  | quiet g hg incidents =>
    rw [incidents] at hinc'
    obtain ⟨inc, hinc, rfl⟩ := List.mem_map.mp hinc'
    exact .kept inc hinc (hg.id inc).symm (hg.state inc).symm (hg.frozen inc)
  | incident inc id active =>
    rcases mem_append_row.mp hinc' with hold | rfl
    · exact hsame hold
    · exact .new id active
  | chunk | itemDeleted | itemFailed => exact hsame hinc'
  | request p undecided active => exact hset hinc' (fun _ => ⟨rfl, rfl, by simp⟩) (.inl active)
  | claim dec stale mem ready =>
    exact hset hinc' (fun _ => ⟨rfl, rfl, by simp⟩)
      (.inr ⟨dec, mem, rfl, .inl (ne_deleted_of_runnable ready)⟩)
  | complete dec mem =>
    exact hset hinc' (fun _ => ⟨rfl, rfl, by simp [tombstone]⟩) (.inr ⟨dec, mem, rfl, .inr rfl⟩)
  | fail dec code mem =>
    exact hset hinc' (fun _ => ⟨rfl, rfl, by simp⟩) (.inr ⟨dec, mem, rfl, .inr rfl⟩)
  | tombstones cutoff limit => exact hsame (mem_deleteWhere.mp hinc').1

/-- Where a decision comes from. -/
inductive DecisionOrigin (env : Env) (d : Draw) (t : Tx) (db : DB) (r' : DeletionDecision) : Prop
  | kept (mem : r' ∈ db.decisions) (other : t ≠ .completeIncidentDeletion r'.id)
  | new (id : r'.id = env.newID "del" d.next) (state : r'.state = .pending)
      (active : db.Active r'.incidentID) (other : t ≠ .completeIncidentDeletion r'.id)
  /-- It is claimed or finished. -/
  | restated (r : DeletionDecision) (mem : r ∈ db.decisions) (id : r.id = r'.id)
      (incidentID : r.incidentID = r'.incidentID)
      (before : r.state ≠ .deleted ∨ t.finishes = some r.id)
      (after : r'.state = .deleted ↔ t = .completeIncidentDeletion r.id)

theorem decision_origin (he : Effect env d t db db') {r' : DeletionDecision}
    (hr' : r' ∈ db'.decisions) : DecisionOrigin env d t db r' := by
  cases he with
  | quiet g hg incidents chunks decisions items events rows streams notChunk notItem notDone =>
    exact .kept (decisions ▸ hr') (notDone _)
  | incident | chunk | itemDeleted | itemFailed => exact .kept hr' (by simp)
  | request p undecided active =>
    rcases mem_append_row.mp hr' with hold | rfl
    · exact .kept hold (by simp)
    · exact .new rfl rfl active (by simp)
  | claim dec stale mem ready =>
    rcases of_mem_updateWhere hr' with ⟨hr, -⟩ | ⟨r, hr, hsel, rfl⟩
    · exact .kept hr (by simp)
    · rw [Bool.and_eq_true] at hsel
      exact .restated r hr rfl rfl (.inl (ne_deleted_of_runnable hsel.2)) (by simp [markDeleting])
  | complete dec mem =>
    rcases of_mem_updateWhere hr' with ⟨hr, hnot⟩ | ⟨r, hr, hsel, rfl⟩
    · refine .kept hr fun ht => ?_
      rw [Tx.completeIncidentDeletion.inj ht, beq_self_eq_true] at hnot
      cases hnot
    · obtain hid : r.id = dec.id := beq_iff_eq.mp hsel
      exact .restated r hr rfl rfl (.inr (by rw [hid]; rfl)) (by simp [hid, markDeleted])
  | fail dec code mem =>
    rcases of_mem_updateWhere hr' with ⟨hr, -⟩ | ⟨r, hr, hsel, rfl⟩
    · exact .kept hr (by simp)
    · obtain hid : r.id = dec.id := beq_iff_eq.mp hsel
      exact .restated r hr rfl rfl (.inr (by rw [hid]; rfl)) (by simp [markDeletionFailed])
  | tombstones cutoff limit => exact .kept (mem_deleteWhere.mp hr').1 (by simp)

/-! ### Frozen incidents -/

/-- The identifier belongs to an incident on whose deletion has been decided, or
    that has been removed altogether. -/
def Frozen (env : Env) (n : Nat) (db : DB) (i : String) : Prop :=
  Issued env n i ∧ ∀ inc ∈ db.incidents, inc.id = i → inc.deletionState ≠ .active

variable {i : String}

theorem Frozen.not_active (h : Frozen env n db i) : ¬ db.Active i := by
  rintro ⟨inc, hinc, hid, hact⟩
  exact h.2 inc hinc hid hact

/-- An incident with a decision is frozen. -/
theorem Consistent.frozen (h : Consistent env n db)
    (hdec : dec ∈ db.decisions) : Frozen env n db dec.incidentID := by
  obtain ⟨-, inc, hinc, hid, -⟩ := h.decisionState dec hdec
  refine ⟨hid ▸ h.issuedIncidents inc hinc, fun inc' hinc' hid' => ?_⟩
  exact (h.not_active hdec hinc' hid').2

/-- **Stability.** Once frozen, an incident stays frozen: its identifier is not drawn
    again and its state does not go back to active. -/
theorem frozen_effect (h : Frozen env d.next db i)
    (he : Effect env d t db db') : Frozen env (d.next + t.draws db) db' i := by
  refine ⟨h.1.mono (Nat.le_add_right _ _), fun inc' hinc' hid hact => ?_⟩
  cases incident_origin he hinc' with
  | kept inc mem id state => exact h.2 inc mem (id.trans hid) (state.trans hact)
  | new id => exact h.1.ne_newID (le_refl _) (hid.symm.trans id)
  | restated inc mem id owner state => exact state hact

/-- No chunk is added to a frozen incident. -/
theorem chunks_of_frozen (h : Frozen env n db i)
    (he : Effect env d t db db') (hc : c ∈ db'.chunks) (hi : c.incidentID = i) :
    c ∈ db.chunks := by
  cases he with
  | quiet g hg incidents chunks => exact chunks ▸ hc
  | chunk p active =>
    rcases mem_append_row.mp hc with hc | rfl
    · exact hc
    · exact absurd (hi ▸ active) h.not_active
  | complete | tombstones => exact (mem_deleteWhere.mp hc).1
  | _ => exact hc

/-- A frozen incident below which there is no row stays without rows. -/
theorem rows_of_frozen (h : Frozen env n db i)
    (hnone : i ∉ db.childIncidents) (he : Effect env d t db db') : i ∉ db'.childIncidents := by
  cases he with
  | quiet g hg incidents chunks decisions items events rows =>
    intro hi
    rcases rows i hi with hold | hactive
    · exact hnone hold
    · exact h.not_active hactive
  | chunk p active =>
    intro hi
    rcases childIncidents_chunk hi with hold | rfl
    · exact hnone hold
    · exact h.not_active active
  | complete => exact fun hi => hnone (childIncidents_prune hi)
  | tombstones => exact fun hi => hnone (childIncidents_deleteIncidents hi).1
  | _ => exact hnone

/-- Only `CreateChunk` adds chunks. -/
theorem chunks_of_effect (he : Effect env d t db db')
    (ht : ∀ p, t ≠ .createChunk p) (hc : c ∈ db'.chunks) : c ∈ db.chunks := by
  cases he with
  | quiet g hg incidents chunks => exact chunks ▸ hc
  | chunk p active => exact absurd rfl (ht p)
  | complete | tombstones => exact (mem_deleteWhere.mp hc).1
  | _ => exact hc

/-- The items after a transaction: an old one, which only its own marking turns
    deleted, or a pending one for the path of a chunk. -/
theorem items_of_effect (he : Effect env d t db db') {it' : DeletionItem} (hit : it' ∈ db'.items) :
    (∃ it ∈ db.items, SameItem it it' ∧
      (it'.state = .deleted → it.state = .deleted ∨ t = .markIncidentDeletionItemDeleted it.id)) ∨
    (it'.state = .pending ∧ (∃ c ∈ db.chunks, c.incidentID = it'.incidentID ∧
      c.storedPath = it'.storedPath) ∧ ∃ k, d.next < k ∧ it'.id = env.newID "dli" k) := by
  have hold : it' ∈ db.items → ∃ it ∈ db.items, SameItem it it' ∧
      (it'.state = .deleted → it.state = .deleted ∨ t = .markIncidentDeletionItemDeleted it.id) :=
    fun h => ⟨it', h, ⟨rfl, rfl, rfl, rfl⟩, fun hst => .inl hst⟩
  cases he with
  | quiet g hg incidents chunks decisions items => exact .inl (hold (items ▸ hit))
  | request p undecided active =>
    rcases List.mem_append.mp hit with hit | hit
    · exact .inl (hold hit)
    · obtain ⟨-, hinc, hst, hpath, j, hj, -, hid⟩ := mem_newItems hit
      obtain ⟨c, hc, hci, hcp⟩ := mem_deletionStoredPaths.mp hpath
      exact .inr ⟨hst, ⟨c, hc, hci.trans hinc.symm, hcp⟩, j, by omega, hid⟩
  | itemDeleted id mem =>
    rcases of_mem_updateWhere hit with ⟨hmem, -⟩ | ⟨it, hmem, hsel, rfl⟩
    · exact .inl (hold hmem)
    · exact .inl ⟨it, hmem, ⟨rfl, rfl, rfl, rfl⟩, fun _ => .inr (by rw [beq_iff_eq.mp hsel])⟩
  | itemFailed id code mem =>
    rcases of_mem_updateWhere hit with ⟨hmem, -⟩ | ⟨it, hmem, -, rfl⟩
    · exact .inl (hold hmem)
    · exact .inl ⟨it, hmem, ⟨rfl, rfl, rfl, rfl⟩, fun hst => by cases hst⟩
  | complete | tombstones => exact .inl (hold (mem_deleteWhere.mp hit).1)
  | _ => exact .inl (hold hit)

/-- An item stays, up to its state, until its decision is completed; then it is
    deleted. -/
theorem item_kept_of_effect (he : Effect env d t db db') {it : DeletionItem} (hit : it ∈ db.items) :
    (∃ it' ∈ db'.items, SameItem it it') ∨
      (t = .completeIncidentDeletion it.decisionID ∧ it.state = .deleted) := by
  have hsame : it ∈ db'.items → ∃ it' ∈ db'.items, SameItem it it' :=
    fun h => ⟨it, h, ⟨rfl, rfl, rfl, rfl⟩⟩
  cases he with
  | quiet g hg incidents chunks decisions items => exact .inl (hsame (items ▸ hit))
  | request p undecided active => exact .inl (hsame (List.mem_append_left _ hit))
  | itemDeleted | itemFailed =>
    exact .inl (exists_updateWhere hit ⟨rfl, rfl, rfl, rfl⟩ ⟨rfl, rfl, rfl, rfl⟩)
  | complete dec mem done inc incMem incID =>
    by_cases hid : it.decisionID = dec.id
    · exact .inr ⟨by rw [hid], done it hit hid⟩
    · exact .inl (hsame (mem_deleteWhere.mpr ⟨hit, by simpa using hid⟩))
  | tombstones cutoff limit =>
    -- only incidents without items go
    refine .inl (hsame (mem_deleteWhere.mpr ⟨hit, ?_⟩))
    have hnot : it.incidentID ∉ pruneTombstoneIncidentIDs env cutoff limit db := fun hin =>
      (DB.bare_rows (mem_pruneTombstoneIncidentIDs hin).1).2.2 it hit rfl
    simpa using hnot
  | _ => exact .inl (hsame hit)

/-- A completed deletion leaves no row below its incident. -/
theorem rows_of_complete {r : DeletionDecision}
    (h : completeIncidentDeletion env d dec.id db = .ok (r, db')) (hc : Consistent env n db)
    (hdec : dec ∈ db.decisions) : dec.incidentID ∉ db'.childIncidents := by
  obtain ⟨dec', hdec', hid, -, -, inc, -, -, rfl⟩ := completeIncidentDeletion_ok h
  obtain rfl := eq_of_key hc.decisionIDs hdec' hdec hid
  simp [DB.childIncidents, DB.pruneChildren, deleteWhere]

end SafetyRecorder
