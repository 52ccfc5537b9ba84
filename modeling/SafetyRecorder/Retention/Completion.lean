import SafetyRecorder.Server.Ownership

namespace SafetyRecorder

open Table Runs Process

/-!
# Retention — a deletion is completed once

`CompleteIncidentDeletion` and `FailIncidentDeletion` do not look at the state of the
decision, so a worker that was overtaken by another one, after its claim had gone
stale, finishes a decision that is already deleted.  What holds is that nothing
changes as long as no finished decision is finished again.

* `Unfinished` — the transaction does not finish a decision that is deleted;
* `Final` — a deleted decision, its incident and its audit events as they stay;
* `Tally` — the number of pruning events of each decision;
* `prunedFor_effect`, `prunedFor_completed` — which transactions write pruning events;
* `final_effect`, `tally_effect` — one transaction; `deletedDecision_final` — every
  run of the server.
-/

/-- The pruning events of a decision. -/
def DB.prunedFor (db : DB) (decisionID : String) : List SharingAuditEvent :=
  db.prunedEvents.filter (·.deletionDecisionID == decisionID)

/-- The transaction does not finish a decision that is deleted. -/
def Unfinished (db : DB) (t : Tx) : Prop :=
  ∀ d, t.finishes = some d → ∀ dec ∈ db.decisions, dec.id = d → dec.state ≠ .deleted

/-- A deleted decision as it stays: its row, while it exists, its incident, and its
    audit events. -/
structure Final (env : Env) (n : Nat) (dec : DeletionDecision) (events : List SharingAuditEvent)
    (db : DB) : Prop where
  decision : ∀ r ∈ db.decisions, r.id = dec.id → r = dec
  only : ∀ r ∈ db.decisions, r.incidentID = dec.incidentID → r.id = dec.id
  incident : ∀ inc ∈ db.incidents, inc.id = dec.incidentID → inc.deletionState = .deleted
  issued : Issued env n dec.id
  issuedIncident : Issued env n dec.incidentID
  events : db.prunedFor dec.id = events

variable {env : Env} {d : Draw} {db db' : DB} {t : Tx} {dec : DeletionDecision}
  {events : List SharingAuditEvent}

/-! ### The audit events -/

/-- An event for another decision. -/
theorem prunedFor_append_other {es : List SharingAuditEvent}
    (h : db'.auditEvents = db.auditEvents ++ es) {i : String}
    (hes : ∀ e ∈ es, e.deletionDecisionID ≠ i) : db'.prunedFor i = db.prunedFor i := by
  have hnone : (es.filter (·.action == .incidentMetadataPruned)).filter
      (·.deletionDecisionID == i) = [] := by
    rw [List.filter_eq_nil_iff]
    intro e he
    simpa using hes e (List.mem_filter.mp he).1
  rw [DB.prunedFor, DB.prunedEvents, h, List.filter_append, List.filter_append, hnone,
    List.append_nil, DB.prunedFor, DB.prunedEvents]

/-- Only the completion of its deletion writes a pruning event of a decision. -/
theorem prunedFor_effect (he : Effect env d t db db') {i : String}
    (hi : t ≠ .completeIncidentDeletion i) : db'.prunedFor i = db.prunedFor i := by
  cases he with
  | quiet g hg incidents chunks decisions items events =>
    rw [DB.prunedFor, events, DB.prunedFor]
  | complete dec mem done inc incMem incID =>
    refine prunedFor_append_other rfl fun e he => ?_
    split at he
    · cases he
    · rw [List.mem_singleton.mp he]
      exact fun hid => hi (congrArg _ hid)
  | _ => rfl

/-- A pruning event is an old one, or that of a decision. -/
theorem prunedEvents_effect (he : Effect env d t db db') {e : SharingAuditEvent}
    (hmem : e ∈ db'.prunedEvents) :
    e ∈ db.prunedEvents ∨ ∃ dec ∈ db.decisions, e.deletionDecisionID = dec.id := by
  cases he with
  | quiet g hg incidents chunks decisions items events => exact .inl (events ▸ hmem)
  | complete dec mem done inc incMem incID =>
    obtain ⟨hmem, haction⟩ := List.mem_filter.mp hmem
    rcases List.mem_append.mp hmem with hold | hnew
    · exact .inl (List.mem_filter.mpr ⟨hold, haction⟩)
    · split at hnew
      · cases hnew
      · rw [List.mem_singleton.mp hnew]
        exact .inr ⟨dec, mem, rfl⟩
  | _ => exact .inl hmem

/-- Completing the deletion of an owned incident writes one event. -/
theorem prunedFor_completed {i : String} (he : Effect env d (.completeIncidentDeletion i) db db') :
    ∃ dec ∈ db.decisions, dec.id = i ∧ ∃ inc ∈ db.incidents, inc.id = dec.incidentID ∧
      (inc.ownerAccountID ≠ "" → (db'.prunedFor i).length = (db.prunedFor i).length + 1) := by
  cases he with
  | quiet g hg incidents chunks decisions items events rows streams notChunk notItem notDone =>
    exact absurd rfl (notDone i)
  | complete dec mem done inc incMem incID =>
    refine ⟨dec, mem, rfl, inc, incMem, incID, fun howner => ?_⟩
    simp [DB.prunedFor, DB.prunedEvents, howner, prunedEvent]

/-! ### One transaction -/

/-- **A final decision stays final** under every transaction that finishes no deleted
    decision. -/
theorem final_effect (h : Final env d.next dec events db) (hdec : dec.state = .deleted)
    (hun : Unfinished db t) (he : Effect env d t db db') :
    Final env (d.next + t.draws db) dec events db' := by
  have hm : d.next ≤ d.next + t.draws db := Nat.le_add_right _ _
  -- a decision that is claimed or finished is another one
  have hother : ∀ r ∈ db.decisions, (r.state ≠ .deleted ∨ t.finishes = some r.id) →
      r.id ≠ dec.id := by
    rintro r hr (hne | hfinishes) hid
    · exact hne (h.decision r hr hid ▸ hdec)
    · exact hun r.id hfinishes r hr rfl (h.decision r hr hid ▸ hdec)
  -- its incident is not active
  have hactive : ¬ db.Active dec.incidentID := by
    rintro ⟨inc, hinc, hid, hact⟩
    rw [h.incident inc hinc hid] at hact
    cases hact
  refine ⟨fun r' hr' hid => ?_, fun r' hr' hinc => ?_, fun inc' hinc' hid => ?_,
    h.issued.mono hm, h.issuedIncident.mono hm, ?_⟩
  · cases decision_origin he hr' with
    | kept mem => exact h.decision r' mem hid
    | new id => exact absurd (hid.symm.trans id) (h.issued.ne_newID (le_refl _))
    | restated r mem id incidentID before => exact absurd (id.trans hid) (hother r mem before)
  · cases decision_origin he hr' with
    | kept mem => exact h.only r' mem hinc
    | new id state active => exact absurd (hinc ▸ active) hactive
    | restated r mem id incidentID => exact id ▸ h.only r mem (incidentID.trans hinc)
  · cases incident_origin he hinc' with
    | kept inc mem id' state => exact state ▸ h.incident inc mem (id'.trans hid)
    | new id' => exact absurd (hid.symm.trans id') (h.issuedIncident.ne_newID (le_refl _))
    | restated inc mem id' owner state decision =>
      rcases decision with hact | ⟨r, hr, hinc, hmoves⟩
      · exact absurd (id'.trans hid ▸ hact) hactive
      · exact absurd (h.only r hr (hinc.trans (id'.trans hid))) (hother r hr hmoves)
  · rw [prunedFor_effect he, h.events]
    rintro rfl
    obtain ⟨r, hr, hid, -⟩ := prunedFor_completed he
    exact hother r hr (.inr (by rw [hid]; rfl)) hid

/-! ### Counting the events -/

/-- The pruning events: none for a decision that is not deleted, and one for a deleted
    decision of an owned incident. -/
structure Tally (env : Env) (n : Nat) (db : DB) : Prop where
  consistent : Consistent env n db
  issued : ∀ e ∈ db.prunedEvents, Issued env n e.deletionDecisionID
  none : ∀ dec ∈ db.decisions, dec.state ≠ .deleted → db.prunedFor dec.id = []
  one : ∀ dec ∈ db.decisions, dec.state = .deleted → ∀ inc ∈ db.incidents,
    inc.id = dec.incidentID → inc.ownerAccountID ≠ "" → (db.prunedFor dec.id).length = 1

theorem tally_empty (env : Env) : Tally env 0 {} := by
  refine ⟨consistent_empty env, ?_, ?_, ?_⟩ <;> simp [DB.prunedEvents]

/-- A decision without an identifier in use has no event. -/
theorem Tally.prunedFor_new {n : Nat} (h : Tally env n db) {p : String} {k : Nat} (hk : n ≤ k) :
    db.prunedFor (env.newID p k) = [] := by
  rw [DB.prunedFor, List.filter_eq_nil_iff]
  intro e he
  simpa using (h.issued e he).ne_newID hk

/-- **One event for each completed deletion**: a transaction that finishes no deleted
    decision keeps the tally. -/
theorem tally_effect (h : Tally env d.next db) (hun : Unfinished db t)
    (he : Effect env d t db db') : Tally env (d.next + t.draws db) db' := by
  have hc := consistent_effect h.consistent he
  have hm : d.next ≤ d.next + t.draws db := Nat.le_add_right _ _
  -- a decision that is claimed or finished has no event yet
  have hnone : ∀ r ∈ db.decisions, (r.state ≠ .deleted ∨ t.finishes = some r.id) →
      db.prunedFor r.id = [] := by
    rintro r hr (hne | hfinishes)
    · exact h.none r hr hne
    · exact h.none r hr (hun r.id hfinishes r hr rfl)
  refine ⟨hc, fun e hmem => ?_, fun r' hr' hne => ?_, fun r' hr' hst inc' hinc' hid howner => ?_⟩
  · rcases prunedEvents_effect he hmem with hold | ⟨r, hr, heq⟩
    · exact (h.issued e hold).mono hm
    · exact heq ▸ (h.consistent.issuedDecisions r hr).mono hm
  · cases decision_origin he hr' with
    | kept mem other =>
      rw [prunedFor_effect he other]
      exact h.none r' mem hne
    | new id state active other =>
      rw [prunedFor_effect he other, id]
      exact h.prunedFor_new (le_refl _)
    | restated r mem id incidentID before after =>
      rw [← id, prunedFor_effect he fun ht => hne (after.mpr ht)]
      exact hnone r mem before
  · -- the incident is deleted, so it was there before with the same owner
    obtain ⟨inc, hinc, hid', howner'⟩ : ∃ inc ∈ db.incidents, inc.id = inc'.id ∧
        inc.ownerAccountID = inc'.ownerAccountID := by
      have hdeleted := (hc.not_active hr' hinc' hid).1.trans hst
      cases incident_origin he hinc' with
      | kept inc mem id state same =>
        obtain rfl := same (by rw [state, hdeleted]; decide)
        exact ⟨inc', mem, rfl, rfl⟩
      | new id active =>
        rw [hdeleted] at active
        cases active
      | restated inc mem id owner => exact ⟨inc, mem, id, owner⟩
    rw [← howner'] at howner
    cases decision_origin he hr' with
    | kept mem other =>
      rw [prunedFor_effect he other]
      exact h.one r' mem hst inc hinc (hid'.trans hid) howner
    | new id state =>
      rw [hst] at state
      cases state
    | restated r mem id incidentID before after =>
      obtain rfl := after.mp hst
      obtain ⟨r₀, hr₀, hrid, inc₀, hinc₀, hid₀, hlength⟩ := prunedFor_completed he
      obtain rfl := eq_of_key h.consistent.decisionIDs hr₀ mem hrid
      obtain rfl := eq_of_key h.consistent.incidentIDs hinc₀ hinc
        (by rw [hid₀, hid', hid, incidentID])
      rw [← id, hlength howner, hnone r₀ mem before]
      rfl

/-! ### Every run -/

variable {api : API} {s s' m : Server} {l : Label Request Choice}

/-- What a step of the server does to the database: one transaction, or nothing. -/
theorem serverStep_db (h : serverStep env api s l = some s') :
    (∃ pid ch t, l = .step pid ch ∧ s.nextCall pid = some (.tx t) ∧
      Effect env ⟨s.shared.nextID, ch.now⟩ t s.shared.db s'.shared.db ∧
      s'.shared.nextID = s.shared.nextID + t.draws s.shared.db) ∨
    (s'.shared.db = s.shared.db ∧ s.shared.nextID ≤ s'.shared.nextID) := by
  obtain ⟨pid, req, -, -, rfl⟩ | ⟨pid, ch, c, k, a, w', rfl, hp, hexec, rfl⟩ |
    ⟨pid, c, k, -, -, rfl⟩ := Sys.step_cases h
  · exact .inr ⟨rfl, le_refl _⟩
  · cases c with
    | tx t =>
      obtain ⟨-, -, ⟨heff, hn, -⟩ | ⟨hdb, hn, -⟩⟩ := exec_tx_effect hexec
      · exact .inl ⟨pid, ch, t, rfl, Sys.nextCall_eq_some.mpr ⟨k, hp⟩, heff, hn⟩
      · exact .inr ⟨hdb, hn⟩
    | query q => exact .inr (by rw [(exec_query hexec).1]; exact ⟨rfl, le_refl _⟩)
    | saveTemp content n => exact .inr (by rw [exec_saveTemp hexec]; exact ⟨rfl, le_refl _⟩)
    | openBlob path => exact .inr (by rw [exec_openBlob hexec]; exact ⟨rfl, le_refl _⟩)
    | commitTemp u i st mt idx =>
      rcases exec_commitTemp hexec with ⟨p, -, -, rfl⟩ | ⟨rfl, -⟩ <;> exact .inr ⟨rfl, le_refl _⟩
    | removeCommittedBlob path =>
      rcases exec_removeCommittedBlob hexec with rfl | rfl <;> exact .inr ⟨rfl, le_refl _⟩
    | removeItem item =>
      obtain ⟨hdb, hn, -, -⟩ := exec_removeItem hexec
      exact .inr ⟨hdb, hn.ge⟩
    | acquireUploadLease | timeNow | ctxErr => cases hexec; exact .inr ⟨rfl, le_refl _⟩
  · exact .inr ⟨rfl, le_refl _⟩

/-- No worker finishes a decision that is already deleted. -/
def FinishesOnce (s : Server) : Label Request Choice → Prop
  | .step pid _ => ∀ t, s.nextCall pid = some (.tx t) → Unfinished s.shared.db t
  | _ => True

theorem tally_step (h : Tally env s.shared.nextID s.shared.db) (hl : FinishesOnce s l)
    (hs : serverStep env api s l = some s') : Tally env s'.shared.nextID s'.shared.db := by
  obtain ⟨pid, ch, t, rfl, hnext, heff, hn⟩ | ⟨hdb, hn⟩ := serverStep_db hs
  · rw [hn]
    exact tally_effect (d := ⟨s.shared.nextID, ch.now⟩) h (hl t hnext) heff
  · rw [hdb]
    exact ⟨h.consistent.mono hn, fun e he => (h.issued e he).mono hn, h.none, h.one⟩

theorem final_step (h : Final env s.shared.nextID dec events s.shared.db) (hdec : dec.state = .deleted)
    (hl : FinishesOnce s l) (hs : serverStep env api s l = some s') :
    Final env s'.shared.nextID dec events s'.shared.db := by
  obtain ⟨pid, ch, t, rfl, hnext, heff, hn⟩ | ⟨hdb, hn⟩ := serverStep_db hs
  · rw [hn]
    exact final_effect (d := ⟨s.shared.nextID, ch.now⟩) h hdec (hl t hnext) heff
  · rw [hdb]
    exact { h with issued := h.issued.mono hn, issuedIncident := h.issuedIncident.mono hn }

/-- A deleted decision of a consistent database is final. -/
theorem Consistent.final {n : Nat} (h : Consistent env n db) (hmem : dec ∈ db.decisions)
    (hdec : dec.state = .deleted) : Final env n dec (db.prunedFor dec.id) db where
  decision r hr hid := eq_of_key h.decisionIDs hr hmem hid
  only r hr hinc := by rw [eq_of_key h.decisionIncidents hr hmem hinc]
  incident inc hinc hid := (h.not_active hmem hinc hid).1.trans hdec
  issued := h.issuedDecisions dec hmem
  issuedIncident := (h.frozen hmem).1
  events := rfl

/-- The test for the condition on a step. -/
def finishesOnce (s : Server) : Label Request Choice → Bool
  | .step pid _ =>
    match s.nextCall pid with
    | some (.tx t) =>
      t.finishes.all fun d => s.shared.db.decisions.all fun dec => dec.id != d || dec.state != .deleted
    | _ => true
  | _ => true

theorem finishesOnce_of_test (h : finishesOnce s l = true) : FinishesOnce s l := by
  cases l with
  | step pid ch =>
    intro t ht d hd dec hdec hid
    simp only [finishesOnce, ht, hd, Option.all_some, List.all_eq_true] at h
    simpa [hid] using h dec hdec
  | _ => trivial

/-- A chunk is uploaded to an owned incident, and the deletion of the incident is
    requested. -/
def requestedRun : List (Label Request Choice) :=
  .spawn 0 (.write ⟨.other ["owner"] [] [], rfl⟩) :: goOn 0 1 ++
  .spawn 1 (.write ⟨.createIncidentForAccount "owner" ⟨"", "", none, none, none, none⟩, rfl⟩) ::
    goOn 1 1 ++
  .spawn 2 (uploadAudio "ii_inc" 0 [1, 2, 3]) :: goOn 2 5 ++
  .spawn 3 (deleteIncident "ii_inc") :: goOn 3 1

/-- When the claim of a worker that started at time 0 has gone stale. -/
def staleTime : Time := 15 * 60 * 1000000000

/-- A worker fails to remove the blob and is then delayed; after its claim has gone
    stale another worker removes the blob and completes the deletion. -/
def overtakenRun : List (Label Request Choice) :=
  requestedRun ++ .spawn 4 (.runOnce {}) :: goOn 4 6 ++ [.step 4 { fault := .failed }] ++ goOn 4 1 ++
    .spawn 5 (.runOnce {}) :: goOn 5 9 staleTime

end SafetyRecorder
