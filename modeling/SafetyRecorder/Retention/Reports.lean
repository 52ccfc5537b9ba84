import SafetyRecorder.Incidents.History
import SafetyRecorder.Server.Ownership

namespace SafetyRecorder

open Table Runs Process

/-!
# Retention — a deletion is completed after the store has let go

A worker marks an item deleted right after the store has reported its blob removed or
absent, and `CompleteIncidentDeletion` succeeds only when all items of the decision
are marked.  So a completed deletion has a report for every snapshotted path.

* `Reports` — every item that is marked deleted has its report;
* `Covered` — a snapshotted path has its item or its report;
* `reports_call`, `reported_run` — both hold along every run of the server;
* `DeletionLaws`, `deletionLaws` — the deletion protocol as a whole.
-/

/-- Items and workers agree with what the store has reported. -/
structure Reports (env : Env) (w : World) (ts : Nat → Option Phase) : Prop where
  consistent : Consistent env w.nextID w.db
  todo : ∀ pid it, Todo ts pid it → KnownItem env w.nextID w.db it
  /-- A worker about to mark an item has the report. -/
  removed : ∀ pid d item items, ts pid = some (.removed d item items) →
    (item.decisionID, item.storedPath) ∈ w.reported
  /-- A marked item has its report. -/
  marked : ∀ it ∈ w.db.items, it.state = .deleted → (it.decisionID, it.storedPath) ∈ w.reported

/-- The path that a decision has snapshotted still has its item, or the store has
    reported it gone. -/
def Covered (decisionID path : String) (w : World) : Prop :=
  (∃ it ∈ w.db.items, it.decisionID = decisionID ∧ it.storedPath = path) ∨
    (decisionID, path) ∈ w.reported

variable {env : Env} {api : API} {w w' : World} {ch : Choice} {ts : Nat → Option Phase} {pid : Nat}
  {t : Phase} {d path : String}

/-- The transaction marks no item, or one whose report is there. -/
def World.MarksReported (w : World) (x : Tx) : Prop :=
  ∀ i, x = .markIncidentDeletionItemDeleted i → ∀ it ∈ w.db.items, it.id = i →
    (it.decisionID, it.storedPath) ∈ w.reported

/-- What a worker is about to mark, if anything. -/
def Phase.reportedItem : Phase → Option DeletionItem
  | .removed _ item _ => some item
  | _ => none

namespace Reports

/-- A process moves on, in the same world or one with more reports. -/
theorem phase (hw : Reports env w ts) (hdb : w'.db = w.db) (hnext : w'.nextID = w.nextID)
    (hrep : ∀ r ∈ w.reported, r ∈ w'.reported)
    (htodo : ∀ it ∈ t.todo, KnownItem env w.nextID w.db it)
    (hitem : ∀ it, t.reportedItem = some it → (it.decisionID, it.storedPath) ∈ w'.reported) :
    Reports env w' (Function.update ts pid (some t)) := by
  refine ⟨by rw [hdb, hnext]; exact hw.consistent, fun q it hit => ?_, fun q d item items hq => ?_,
    fun it hit hst => ?_⟩
  · rw [hdb, hnext]
    rcases todo_update.mp hit with ⟨-, hmem⟩ | ⟨-, hold⟩
    · exact htodo it hmem
    · exact hw.todo q it hold
  · obtain ⟨-, ⟨⟩⟩ | ⟨-, hq⟩ := update_some hq
    · exact hitem item rfl
    · exact hrep _ (hw.removed q d item items hq)
  · rw [hdb] at hit
    exact hrep _ (hw.marked it hit hst)

theorem crash (hw : Reports env w ts) : Reports env w (Function.update ts pid none) := by
  refine ⟨hw.consistent, fun q it hit => hw.todo q it (todo_crash hit).2,
    fun q d item items hq => ?_, hw.marked⟩
  obtain ⟨-, ⟨⟩⟩ | ⟨-, hq⟩ := update_some hq
  exact hw.removed q d item items hq

/-- A transaction that marks what is reported. -/
theorem tx (hw : Reports env w ts) {x : Tx} {a : Answer (.tx x)}
    (h : exec env w (.tx x) ch = some (a, w')) (hmark : w.MarksReported x) : Reports env w' ts := by
  obtain ⟨-, hrep, hcases⟩ := exec_tx_effect h
  refine ⟨consistent_tx h hw.consistent, fun q it hit => known_tx h (hw.todo q it hit),
    fun q d item items hq => hrep ▸ hw.removed q d item items hq, fun it' hit' hst => ?_⟩
  rw [hrep]
  rcases hcases with ⟨heff, -⟩ | ⟨hdb, -⟩
  · rcases items_of_effect heff hit' with ⟨it, hit, hsame, hdel⟩ | ⟨hpending, -⟩
    · rw [hsame.decisionID, hsame.storedPath]
      rcases hdel hst with hold | hx
      · exact hw.marked it hit hold
      · exact hmark it.id hx it hit rfl
    · rw [hpending] at hst
      cases hst
  · exact hw.marked it' (hdb ▸ hit') hst

theorem covered_tx (hw : Reports env w ts) {x : Tx} {a : Answer (.tx x)}
    (h : exec env w (.tx x) ch = some (a, w')) (hc : Covered d path w) : Covered d path w' := by
  obtain ⟨-, hrep, hcases⟩ := exec_tx_effect h
  rcases hc with ⟨it, hit, rfl, rfl⟩ | hold
  · rcases hcases with ⟨heff, -⟩ | ⟨hdb, -⟩
    · rcases item_kept_of_effect heff hit with ⟨it', hit', hsame⟩ | ⟨-, hst⟩
      · exact .inl ⟨it', hit', hsame.decisionID, hsame.storedPath⟩
      · exact .inr (hrep ▸ hw.marked it hit hst)
    · exact .inl ⟨it, hdb ▸ hit, rfl, rfl⟩
  · exact .inr (hrep ▸ hold)

end Reports

theorem Covered.mono (h : Covered d path w) (hdb : w'.db = w.db)
    (hrep : ∀ r ∈ w.reported, r ∈ w'.reported) : Covered d path w' := by
  rcases h with ⟨it, hit, hd⟩ | hold
  · exact .inl ⟨it, hdb ▸ hit, hd⟩
  · exact .inr (hrep _ hold)

/-! ### One call -/

/-- **Preservation.** Every call of the discipline keeps items and reports in
    agreement, and snapshotted paths covered. -/
theorem reports_call (hw : Reports env w ts) (ht : ts pid = some t) {c : Call} {a : Answer c}
    (hallowed : t.Allowed env c) (hexec : exec env w c ch = some (a, w')) :
    Reports env w' (Function.update ts pid (some (t.next c a))) ∧
      (Covered d path w → Covered d path w') := by
  have hmove := move_of_allowed hallowed hexec
  generalize t.next c a = t' at hmove ⊢
  have hmine : ∀ it ∈ t.todo, KnownItem env w.nextID w.db it :=
    fun it hit => hw.todo pid it ⟨t, ht, hit⟩
  let Goal (t' : Phase) : Prop :=
    Reports env w' (Function.update ts pid (some t')) ∧ (Covered d path w → Covered d path w')
  -- the database is left alone, and reports are only added
  have hafter (hdb : w'.db = w.db) (hnext : w'.nextID = w.nextID)
      (hrep : ∀ r ∈ w.reported, r ∈ w'.reported) (t' : Phase)
      (htodo : ∀ it ∈ t'.todo, KnownItem env w.nextID w.db it)
      (hitem : ∀ it, t'.reportedItem = some it → (it.decisionID, it.storedPath) ∈ w'.reported) :
      Goal t' :=
    ⟨hw.phase hdb hnext hrep htodo hitem, fun hc => hc.mono hdb hrep⟩
  -- and the process has no item
  have hidle (hdb : w'.db = w.db) (hnext : w'.nextID = w.nextID)
      (hrep : ∀ r ∈ w.reported, r ∈ w'.reported) (t' : Phase) (htodo : t'.todo = [])
      (hitem : t'.reportedItem = none) : Goal t' :=
    hafter hdb hnext hrep t' (by simp [htodo]) (by simp [hitem])
  -- a transaction, after which the process has a subset of its items left
  have htx {x : Tx} {b : Answer (.tx x)} (hx : exec env w (.tx x) ch = some (b, w'))
      (hmark : w.MarksReported x) (t' : Phase) (htodo : t'.todo ⊆ t.todo)
      (hitem : t'.reportedItem = none) : Goal t' := by
    have hw' := hw.tx hx hmark
    exact ⟨hw'.phase rfl rfl (fun _ hr => hr) (fun it hit => hw'.todo pid it ⟨t, ht, htodo hit⟩)
      (by simp [hitem]), hw.covered_tx hx⟩
  -- an item was marked: the worker goes on with the items it had left
  have hmarked {x : Tx} {b : Answer (.tx x)} (hx : exec env w (.tx x) ch = some (b, w'))
      (hmark : w.MarksReported x) (d' : String) (items : List DeletionItem)
      (htodo : items ⊆ t.todo) (b : Except RepoError Unit) : Goal (.afterMark d' items b) := by
    cases b with
    | ok => exact htx hx hmark (.working d' items) htodo rfl
    | error => exact htx hx hmark .idle (List.nil_subset _) rfl
  cases hmove with
  | still hset hnext =>
    rcases hnext with rfl | rfl
    · refine hafter rfl rfl (fun _ hr => hr) _ hmine fun it hit => ?_
      cases t' <;> first | exact hset.elim | cases hit
    · exact hidle rfl rfl (fun _ hr => hr) _ rfl rfl
  | tx _ hnext _ hdel _ hexec =>
    rcases hnext with rfl | ⟨d', rfl⟩ <;>
      exact htx hexec (fun i hi => absurd hi (hdel i)) _ (List.nil_subset _) rfl
  | commitTemp => exact hidle rfl rfl (fun _ hr => hr) _ rfl rfl
  | @createChunk h _ b _ _ hexec =>
    cases b with
    | ok => exact htx hexec (fun i hi => by cases hi) .idle (List.nil_subset _) rfl
    | error => exact htx hexec (fun i hi => by cases hi) (.cleaning h) (List.nil_subset _) rfl
  | removeCommittedBlob hexec =>
    rcases exec_removeCommittedBlob hexec with rfl | rfl <;>
      exact hidle rfl rfl (fun _ hr => hr) .idle rfl rfl
  | list =>
    refine hafter rfl rfl (fun _ hr => hr) _ (fun it hit => ?_) fun _ hit => by cases hit
    exact hw.consistent.known (mem_listIncidentDeletionItems hit).1
  | @removeItem d' item items b _ hexec =>
    obtain ⟨hdb, hnext, -, hrep⟩ := exec_removeItem hexec
    have hgrow : ∀ r ∈ w.reported, r ∈ w'.reported := by
      intro r hr
      rw [hrep]
      split
      · exact List.mem_cons_of_mem _ hr
      · exact hr
    rcases Phase.afterRemove_cases d' item items b with ⟨habs, heq⟩ | ⟨-, heq | heq⟩ <;> rw [heq]
    · refine hafter hdb hnext hgrow (.removed d' item items) hmine fun it hit => ?_
      cases hit
      rw [hrep, if_pos habs]
      exact List.mem_cons_self
    · exact hidle hdb hnext hgrow .idle rfl rfl
    · exact hafter hdb hnext hgrow (.removeFailed d' item items) hmine fun _ hit => by cases hit
  | @markDeleted d' item items b _ hexec =>
    -- the row that is marked is the item that was reported
    have hmark : w.MarksReported (.markIncidentDeletionItemDeleted item.id) := by
      rintro i ⟨⟩ it hit hid
      obtain ⟨hdec, hpath⟩ := (hmine item List.mem_cons_self).same it hit hid
      rw [hdec, hpath]
      exact hw.removed pid d' item items ht
    exact hmarked hexec hmark d' items (List.subset_cons_self _ _) b
  | @markFailed d' _ _ items b _ hexec =>
    exact hmarked hexec (fun i hi => by cases hi) d' items (List.subset_cons_self _ _) b

/-! ### Every run -/

/-- The phases of the live processes agree with the reports. -/
def Server.Reported (env : Env) (s : Server) : Prop :=
  ∃ ts, Sys.Tracked (discipline env) (fun t (_ : Outcome) => t.Settled) s.procs ts ∧
    Reports env s.shared ts

theorem reported_boot : Server.Reported env bootServer := by
  refine ⟨fun _ => none, Sys.tracked_start _, consistent_empty env, ?_, ?_, ?_⟩
  · rintro pid it ⟨t, ht, -⟩
    cases ht
  · intro pid d item items h
    cases h
  · intro it hit
    cases hit

/-- **One step** keeps the agreement and covers what was covered. -/
theorem reported_step (d path : String) {s s' : Server} {l : Label Request Choice}
    (h : Server.Reported env s) (hs : serverStep env api s l = some s') :
    Server.Reported env s' ∧ (Covered d path s.shared → Covered d path s'.shared) := by
  obtain ⟨ts, htr, hw⟩ := h
  obtain ⟨ts', htr', hw', hcov⟩ := Sys.tracked_step_cases
    (G := fun x' ts' => Reports env x' ts' ∧ (Covered d path s.shared → Covered d path x'))
    (main_follows env api)
    (fun pid req _ _ => ⟨hw.phase rfl rfl (fun _ hr => hr) (fun _ hit => by cases hit)
      (fun _ hit => by cases hit), id⟩)
    (fun pid _ => ⟨hw.crash, id⟩)
    (fun pid t c k ch a w' _ ht hallowed _ hexec => reports_call hw ht hallowed hexec) htr hs
  exact ⟨⟨ts', htr', hw'⟩, hcov⟩

theorem reported_run {s s' : Server} {ks : List (Label Request Choice)} (h : Server.Reported env s)
    (hc : Covered d path s.shared) (hs : run (serverStep env api) s ks = some s') :
    Server.Reported env s' ∧ Covered d path s'.shared :=
  invariant_of_step (I := fun s : Server => Server.Reported env s ∧ Covered d path s.shared)
    (fun _ _ _ hI hstep => by
      obtain ⟨hrep, hcov⟩ := reported_step d path hI.1 hstep
      exact ⟨hrep, hcov hI.2⟩) ⟨h, hc⟩ hs

/-- A path whose decision can be completed has been reported gone. -/
theorem Reports.completed {ts : Nat → Option Phase} (hw : Reports env w ts) (hc : Covered d path w)
    {x : Draw} {r : DeletionDecision} {db' : DB}
    (h : completeIncidentDeletion env x d w.db = .ok (r, db')) : (d, path) ∈ w.reported := by
  obtain ⟨-, -, -, -, hdone, -⟩ := completeIncidentDeletion_ok h
  rcases hc with ⟨it, hit, rfl, rfl⟩ | hold
  · exact hw.marked it hit (hdone it hit rfl)
  · exact hold

/-! ### The deletion protocol -/

/-- The deletion protocol: what holds in every history of repository transactions, and
    for the last law in every run of handlers and workers over the blob store. -/
structure DeletionLaws (env : Env) : Prop where
  /-- An incident is active exactly when it has no decision, and otherwise carries the
      state of its decision. -/
  state : ∀ ls s, run (repositoryStep env) {} ls = some s → ∀ inc ∈ s.db.incidents,
    (inc.deletionState = .active ↔ ∀ dec ∈ s.db.decisions, dec.incidentID ≠ inc.id) ∧
      ∀ dec ∈ s.db.decisions, dec.incidentID = inc.id → inc.deletionState = dec.state
  /-- From the moment a decision exists no chunk of its incident is added. -/
  closed : ∀ ls m ks s, run (repositoryStep env) {} ls = some m →
    run (repositoryStep env) m ks = some s → ∀ dec ∈ m.db.decisions, ∀ c ∈ s.db.chunks,
      c.incidentID = dec.incidentID → c ∈ m.db.chunks
  /-- Every stored path of an incident with a decision has an item of that decision. -/
  covered : ∀ ls s, run (repositoryStep env) {} ls = some s → ∀ dec ∈ s.db.decisions,
    ∀ c ∈ s.db.chunks, c.incidentID = dec.incidentID →
      ∃ it ∈ s.db.items, it.decisionID = dec.id ∧ it.storedPath = c.storedPath
  /-- Once the deletion is completed no row below the incident ever exists again. -/
  gone : ∀ ls m now r db', run (repositoryStep env) {} ls = some m → ∀ dec ∈ m.db.decisions,
    completeIncidentDeletion env ⟨m.nextID, now⟩ dec.id m.db = .ok (r, db') → ∀ ks s,
      run (repositoryStep env) m ((.completeIncidentDeletion dec.id, now) :: ks) = some s →
        dec.incidentID ∉ s.db.childIncidents
  /-- When a decision can be completed, the store has reported the path of every item it
      ever had as removed or absent. -/
  reported : ∀ api ls m ks s, run (serverStep env api) bootServer ls = some m →
    run (serverStep env api) m ks = some s → ∀ it ∈ m.shared.db.items, ∀ now r db',
      completeIncidentDeletion env ⟨s.shared.nextID, now⟩ it.decisionID s.shared.db = .ok (r, db') →
        (it.decisionID, it.storedPath) ∈ s.shared.reported

/-- **The deletion protocol holds.** -/
theorem deletionLaws (env : Env) : DeletionLaws env where
  state ls s h inc hinc := by
    have hc := consistent_history h
    exact ⟨hc.active_iff hinc, fun dec hdec hid => (hc.not_active hdec hinc hid.symm).1⟩
  closed ls m ks s hm hs dec hdec c hc hci :=
    chunks_history ((consistent_history hm).frozen hdec) hs hc hci
  covered ls s h dec hdec c hc hci := (consistent_history h).chunkItem dec hdec c hc hci
  gone ls m now r db' hm dec hdec hok ks s hs := by
    have hcons := consistent_history hm
    obtain ⟨m', hstep, hrest⟩ := run_cons.mp hs
    -- the step is the completed deletion
    have hm' : m'.db = db' := by
      have hrun : (Tx.completeIncidentDeletion dec.id).run env ⟨m.nextID, now⟩ m.db = .ok (r, db') :=
        hok
      simp only [repositoryStep, hrun] at hstep
      rw [← Option.some.inj hstep]
    have hfrozen := frozen_step (hcons.frozen hdec) hstep
    refine rows_history hfrozen ?_ hrest
    rw [hm']
    exact rows_of_complete hok hcons hdec
  reported api ls m ks s hm hs it hit now r db' hok := by
    have hboot : Server.Reported env m :=
      invariant_of_step (I := Server.Reported env)
        (fun _ _ _ hI hstep => (reported_step it.decisionID it.storedPath hI hstep).1) reported_boot hm
    obtain ⟨⟨ts, -, hw⟩, hcov⟩ := reported_run hboot (.inl ⟨it, hit, rfl, rfl⟩) hs
    exact hw.completed hcov hok

end SafetyRecorder
