import SafetyRecorder.PostgresDB.Typestate
import SafetyRecorder.Incidents.StreamLaws

namespace SafetyRecorder

open Table Process

/-!
# PostgreSQL — the pending writes of a transaction

What a transaction has written and not yet committed, as its stage says.

* `apply_inert`, `apply_incidents`, `apply_decisions` — what single writes leave
  alone;
* `Stage.Describes` — the effect of the pending writes on any database;
* `TxKnow.Justified` — what the stage rests on;
* `describes_write`, `justified_write` — a write the discipline allows moves both to
  the next stage.
-/

/-- Streams and chunks are the same. -/
structure SameStreams (db db' : DB) : Prop where
  streams : db'.streams = db.streams
  chunks : db'.chunks = db.chunks

/-- Every decision after belongs to an incident that had one before. -/
def KeepsDecided (db db' : DB) : Prop :=
  ∀ dec' ∈ db'.decisions, ∃ dec ∈ db.decisions, dec.incidentID = dec'.incidentID

/-- No stream and no chunk belongs to the incident. -/
def DB.Childless (db : DB) (i : String) : Prop :=
  (∀ st ∈ db.streams, st.incidentID ≠ i) ∧ ∀ c ∈ db.chunks, c.incidentID ≠ i

/-- The incident is not active. -/
def DB.Inactive (db : DB) (i : String) : Prop :=
  ∀ inc ∈ db.incidents, inc.id = i → inc.deletionState ≠ .active

/-! ### Single writes -/

theorem keepsDecided_update {db : DB} {p : DeletionDecision → Bool}
    {f : DeletionDecision → DeletionDecision} (hf : ∀ r, (f r).incidentID = r.incidentID) :
    KeepsDecided db { db with decisions := updateWhere p f db.decisions } := by
  intro dec' hdec'
  rcases of_mem_updateWhere hdec' with ⟨hdec, -⟩ | ⟨dec, hdec, -, rfl⟩
  · exact ⟨dec', hdec, rfl⟩
  · exact ⟨dec, hdec, (hf dec).symm⟩

/-- Inert writes leave incidents, streams and chunks alone. -/
theorem apply_inert {p : Pending} (hp : p.write.inert = true) (db : DB) :
    SameStreams db (p.apply db) ∧ (p.apply db).incidents = db.incidents ∧
      KeepsDecided db (p.apply db) := by
  have hsame : KeepsDecided db db := fun dec hdec => ⟨dec, hdec, rfl⟩
  obtain ⟨w, rows⟩ := p
  cases w with
  | setItemCount | claimDecision | decisionDeleted | decisionFailed =>
    exact ⟨⟨rfl, rfl⟩, rfl, keepsDecided_update fun _ => rfl⟩
  | insertItem | itemDeleted | itemFailed | insertAuditEvent | deleteItems =>
    exact ⟨⟨rfl, rfl⟩, rfl, hsame⟩
  | deleteChildren table i =>
    cases table with
    | chunks | streams => cases hp
    | _ => exact ⟨⟨rfl, rfl⟩, rfl, hsame⟩
  | _ => cases hp

/-- The incident rows a pending write changes. -/
def Pending.incidentRows (p : Pending) : List String :=
  if p.write.table = .incidents then p.rows else []

/-- The write makes no incident active. -/
def Write.Calm : Write → Prop
  | .insertIncident _ => False
  | .setDeletionState _ state _ => state ≠ .active
  | _ => True

/-- What a calm write does to incidents: it changes only the rows it has found, and
    makes none active. -/
structure CalmStep (rows : List String) (db db' : DB) : Prop where
  ids : ∀ inc' ∈ db'.incidents, ∃ inc ∈ db.incidents, inc.id = inc'.id
  keeps : ∀ inc ∈ db.incidents, inc.id ∉ rows → inc ∈ db'.incidents
  origin : ∀ inc' ∈ db'.incidents, inc'.deletionState = .active →
    ∃ inc ∈ db.incidents, inc.id = inc'.id ∧ inc.deletionState = .active

variable {rows : List String}

/-- An update of incident rows that activates none. -/
theorem calmStep_update {db db' : DB} {f : Incident → Incident} (hid : ∀ i, (f i).id = i.id)
    (hf : ∀ i, (f i).deletionState = .active → i.deletionState = .active)
    (h : db'.incidents = updateWhere (fun r => rows.contains r.id) f db.incidents) :
    CalmStep rows db db' := by
  constructor
  · intro inc' hinc'
    rw [h] at hinc'
    rcases of_mem_updateWhere hinc' with ⟨hinc, -⟩ | ⟨inc, hinc, -, rfl⟩
    · exact ⟨inc', hinc, rfl⟩
    · exact ⟨inc, hinc, (hid inc).symm⟩
  · intro inc hinc hnot
    rw [h]
    exact mem_updateWhere_of_not hinc (by simpa using hnot)
  · intro inc' hinc' hact
    rw [h] at hinc'
    rcases of_mem_updateWhere hinc' with ⟨hinc, -⟩ | ⟨inc, hinc, -, rfl⟩
    · exact ⟨inc', hinc, rfl, hact⟩
    · exact ⟨inc, hinc, (hid inc).symm, hf inc hact⟩

theorem calmStep_same {db db' : DB} (h : db'.incidents = db.incidents) :
    CalmStep rows db db' :=
  ⟨fun inc' hinc' => ⟨inc', h ▸ hinc', rfl⟩, fun _ hinc _ => h ▸ hinc,
    fun inc' hinc' hact => ⟨inc', h ▸ hinc', rfl, hact⟩⟩

/-- **A calm write is a calm step.** -/
theorem apply_incidents {p : Pending} (hp : p.write.Calm) (db : DB) :
    CalmStep p.incidentRows db (p.apply db) := by
  obtain ⟨w, rows⟩ := p
  cases w with
  | insertIncident => exact hp.elim
  | closeIncident i now =>
    exact calmStep_update (f := fun r => { r with status := .closed, updatedAt := now })
      (fun _ => rfl) (fun _ h => h) rfl
  | setDeletionState i state now =>
    exact calmStep_update (f := fun r => { r with deletionState := state, updatedAt := now })
      (fun _ => rfl) (fun _ h => absurd h hp) rfl
  | tombstone i now =>
    exact calmStep_update (f := tombstone now) (fun _ => rfl) (fun _ h => (by cases h)) rfl
  | deleteIncident i =>
    show CalmStep rows db _
    constructor
    · intro inc' hinc'
      exact ⟨inc', (mem_deleteWhere.mp hinc').1, rfl⟩
    · intro inc hinc hnot
      exact mem_deleteWhere.mpr ⟨hinc, by simpa using hnot⟩
    · intro inc' hinc' hact
      exact ⟨inc', (mem_deleteWhere.mp hinc').1, rfl, hact⟩
  | deleteChildren table i => cases table <;> exact calmStep_same rfl
  | _ => exact calmStep_same rfl

/-- **The writes of a transaction, one after the other**, are a calm step. -/
theorem applyAll_incidents {ws : List Pending} (hws : ∀ p ∈ ws, p.write.Calm) (db : DB) :
    CalmStep (ws.flatMap Pending.incidentRows) db (applyAll ws db) := by
  induction ws generalizing db with
  | nil => exact calmStep_same rfl
  | cons p ws ih =>
    have hstep := apply_incidents (hws p List.mem_cons_self) db
    have hrest := ih (fun q hq => hws q (List.mem_cons_of_mem _ hq)) (p.apply db)
    constructor
    · intro inc' hinc'
      obtain ⟨inc, hinc, hid⟩ := hrest.ids inc' hinc'
      obtain ⟨inc₀, hinc₀, hid₀⟩ := hstep.ids inc hinc
      exact ⟨inc₀, hinc₀, hid₀.trans hid⟩
    · intro inc hinc hnot
      rw [List.flatMap_cons, List.mem_append, not_or] at hnot
      exact hrest.keeps inc (hstep.keeps inc hinc hnot.1) hnot.2
    · intro inc' hinc' hact'
      obtain ⟨inc, hinc, hid, hact⟩ := hrest.origin inc' hinc' hact'
      obtain ⟨inc₀, hinc₀, hid₀, hact₀⟩ := hstep.origin inc hinc hact
      exact ⟨inc₀, hinc₀, hid₀.trans hid, hact₀⟩

/-- A decision after a write is an old one, or the write has inserted it. -/
theorem apply_decisions (p : Pending) (db : DB) : ∀ dec' ∈ (p.apply db).decisions,
    (∃ dec ∈ db.decisions, dec.incidentID = dec'.incidentID) ∨
      ∃ row, p.write = .insertDecision row ∧ row.incidentID = dec'.incidentID := by
  intro dec' hdec'
  by_cases hp : p.write.inert = true
  · exact .inl ((apply_inert hp db).2.2 dec' hdec')
  obtain ⟨w, rows⟩ := p
  cases w with
  | insertDecision row =>
    rcases mem_append_row.mp hdec' with hold | rfl
    · exact .inl ⟨dec', hold, rfl⟩
    · exact .inr ⟨dec', rfl, rfl⟩
  | deleteIncident i => exact .inl ⟨dec', (mem_deleteWhere.mp hdec').1, rfl⟩
  | deleteChildren table i => cases table <;> exact .inl ⟨dec', hdec', rfl⟩
  | setItemCount | claimDecision | decisionDeleted | decisionFailed => exact absurd rfl hp
  | _ => exact .inl ⟨dec', hdec', rfl⟩

/-! ### The stage of a transaction -/

/-- The pending writes of a transaction, as its stage says; `db₀` is what is
    committed. -/
def Stage.Describes (db₀ : DB) (ws : List Pending) : Stage → Prop
  | start => ws = []
  | clean ds => ∀ db : DB, (∀ i ∈ ds, db.Childless i) → SameStreams db (applyAll ws db)
  | deciding _ => ∀ db, SameStreams db (applyAll ws db) ∧ (applyAll ws db).incidents = db.incidents
  | decided i => ∀ db, SameStreams db (applyAll ws db) ∧ (applyAll ws db).Inactive i
  | create row => ∀ db, (applyAll ws db).streams = db.streams ++ [row] ∧
      (applyAll ws db).chunks = db.chunks
  | chunk row => ∀ db, (applyAll ws db).streams = db.streams ∧
      (applyAll ws db).chunks = db.chunks ++ [row]
  | completed _ s n now => ∃ rows : List String, (∀ x, x ∈ rows ↔ x = s) ∧ ∀ db,
      (applyAll ws db).streams =
        updateWhere (fun r => rows.contains r.id) (markComplete ⟨0, now⟩ n) db.streams ∧
      (applyAll ws db).chunks = db.chunks
  | failed _ s reason now => ∃ rows : List String, (∀ x, x ∈ rows ↔ x = s) ∧ ∀ db,
      (applyAll ws db).streams =
        updateWhere (fun r => rows.contains r.id) (markFailed ⟨0, now⟩ reason) db.streams ∧
      (applyAll ws db).chunks = db.chunks
  | pruning i => ∃ rows, ⟨.deleteChildren .chunks i, rows⟩ ∈ ws ∧
      (∀ c ∈ db₀.chunks, c.incidentID = i → c.id ∈ rows) ∧ ∀ db,
      (applyAll ws db).streams = db.streams ∧
      (applyAll ws db).chunks = deleteRows (·.incidentID) (·.id) i rows db.chunks
  | pruned i => ∃ rows rows', ⟨.deleteChildren .chunks i, rows⟩ ∈ ws ∧
      (∀ c ∈ db₀.chunks, c.incidentID = i → c.id ∈ rows) ∧
      (∀ st ∈ db₀.streams, st.incidentID = i → st.id ∈ rows') ∧ ∀ db,
      (applyAll ws db).streams = deleteRows (·.incidentID) (·.id) i rows' db.streams ∧
      (applyAll ws db).chunks = deleteRows (·.incidentID) (·.id) i rows db.chunks

/-- The incident for which the transaction inserts a decision. -/
def Stage.decisionFor : Stage → Option String
  | deciding i | decided i => some i
  | _ => none

/-- What the stage of a transaction rests on. -/
def TxKnow.Justified (k : TxKnow) (un : Option String) : Prop :=
  match k.stage with
  | .start => True
  | .clean ds => ∀ i ∈ ds, i ∈ k.bare
  | .deciding i | .decided i => k.active = some i
  | .create row => k.active = some row.incidentID ∧ un = some row.id ∧ row.status = .open
  | .chunk row => k.active = some row.incidentID ∧
      (row.streamID = "" ∨ ∃ st, k.stream = some st ∧ st.id = row.streamID)
  | .completed i s n _ => k.count = some n ∧ ∃ st, k.stream = some st ∧ st.incidentID = i ∧ st.id = s
  | .failed i s _ _ => ∃ st, k.stream = some st ∧ st.incidentID = i ∧ st.id = s
  | .pruning i | .pruned i => k.decision = some i ∧ ∃ d, k.op = .completeIncidentDeletion d

variable {env : Env} {db db₀ : DB} {ws : List Pending} {p : Pending}

/-- A write that leaves incidents, streams and chunks alone leaves the description
    as it is. -/
theorem describes_append_same {stage : Stage} (h : stage.Describes db₀ ws)
    (hstart : stage ≠ .start)
    (hp : ∀ db, SameStreams db (p.apply db))
    (hinc : (∃ i, stage = .deciding i ∨ stage = .decided i) →
      ∀ db, (p.apply db).incidents = db.incidents) :
    stage.Describes db₀ (ws ++ [p]) := by
  have hstreams : ∀ db, (applyAll (ws ++ [p]) db).streams = (applyAll ws db).streams := fun db => by
    rw [applyAll_append]; exact (hp _).streams
  have hchunks : ∀ db, (applyAll (ws ++ [p]) db).chunks = (applyAll ws db).chunks := fun db => by
    rw [applyAll_append]; exact (hp _).chunks
  cases stage with
  | start => exact absurd rfl hstart
  | clean ds =>
    intro db hds
    exact ⟨(hstreams db).trans (h db hds).streams, (hchunks db).trans (h db hds).chunks⟩
  | deciding i =>
    intro db
    obtain ⟨hsame, hincs⟩ := h db
    refine ⟨⟨(hstreams db).trans hsame.streams, (hchunks db).trans hsame.chunks⟩, ?_⟩
    rw [applyAll_append, hinc ⟨i, .inl rfl⟩, hincs]
  | decided i =>
    intro db
    obtain ⟨hsame, hincs⟩ := h db
    refine ⟨⟨(hstreams db).trans hsame.streams, (hchunks db).trans hsame.chunks⟩, ?_⟩
    rw [DB.Inactive, applyAll_append, hinc ⟨i, .inr rfl⟩]
    exact hincs
  | create | chunk | completed | failed =>
    simpa only [Stage.Describes, hstreams, hchunks] using h
  | pruning i =>
    obtain ⟨rows, hmem, hcover, hdb⟩ := h
    refine ⟨rows, List.mem_append_left _ hmem, hcover, ?_⟩
    simpa only [hstreams, hchunks] using hdb
  | pruned i =>
    obtain ⟨rows, rows', hmem, hcover, hcover', hdb⟩ := h
    refine ⟨rows, rows', List.mem_append_left _ hmem, hcover, hcover', ?_⟩
    simpa only [hstreams, hchunks] using hdb

/-- The same, when it is the first write. -/
theorem describes_afterInert {stage : Stage} (h : stage.Describes db₀ ws)
    (hp : ∀ db, SameStreams db (p.apply db))
    (hinc : (∃ i, stage = .deciding i ∨ stage = .decided i) →
      ∀ db, (p.apply db).incidents = db.incidents) :
    stage.afterInert.Describes db₀ (ws ++ [p]) := by
  by_cases hstart : stage = .start
  · subst hstart
    obtain rfl : ws = [] := h
    exact fun db _ => hp db
  · have hsame : stage.afterInert = stage := by
      cases stage <;> first | rfl | exact absurd rfl hstart
    rw [hsame]
    exact describes_append_same h hstart hp hinc

/-- Deleting rows of bare incidents takes no stream and no chunk with it. -/
theorem deleteIncident_same {i j : String} (hrows : ∀ x ∈ rows, x = i)
    (hi : db.Childless i) : SameStreams db (Pending.apply ⟨.deleteIncident j, rows⟩ db) := by
  constructor
  · show deleteWhere _ db.streams = db.streams
    refine List.filter_eq_self.mpr fun st hst => ?_
    have hnot : st.incidentID ∉ rows := fun hin => hi.1 st hst (hrows _ hin)
    simpa using hnot
  · show deleteWhere _ db.chunks = db.chunks
    refine List.filter_eq_self.mpr fun c hc => ?_
    have hnot : c.incidentID ∉ rows := fun hin => hi.2 c hc (hrows _ hin)
    simpa using hnot

/-- The row an update of a locked stream finds. -/
theorem streamRows_iff {i s x : String} (h : ∃ st ∈ db.streams, st.incidentID = i ∧ st.id = s) :
    x ∈ (db.streams.filter fun r => r.incidentID == i && r.id == s).map (·.id) ↔ x = s := by
  simp only [List.mem_map, List.mem_filter, Bool.and_eq_true, beq_iff_eq]
  constructor
  · rintro ⟨r, ⟨-, -, hid⟩, rfl⟩
    exact hid
  · rintro rfl
    obtain ⟨st, hst, hinc, hid⟩ := h
    exact ⟨st, ⟨hst, hinc, hid⟩, hid⟩

/-- The rows of an incident that a prune finds. -/
theorem mem_childRows_chunks {i : String} {c : Chunk} (hc : c ∈ db.chunks) (hi : c.incidentID = i) :
    c.id ∈ db.childRows i .chunks :=
  List.mem_map_of_mem (List.mem_filter.mpr ⟨hc, by simpa using hi⟩)

theorem mem_childRows_streams {i : String} {st : MediaStream} (hst : st ∈ db.streams)
    (hi : st.incidentID = i) : st.id ∈ db.childRows i .streams :=
  List.mem_map_of_mem (List.mem_filter.mpr ⟨hst, by simpa using hi⟩)

variable {k : TxKnow} {un : Option String} {wr : Write}

/-- **A justified write moves the description to the next stage.** -/
theorem describes_write
    (hd : k.stage.Describes db₀ ws) (hj : k.Justified un) (hallow : k.Allows un wr)
    (hactive : ∀ i, k.active = some i → db₀.Active i)
    (hstream : ∀ l, k.stream = some l → ∃ st ∈ db₀.streams, st.incidentID = l.incidentID ∧ st.id = l.id) :
    (k.stage.afterWrite wr).Describes db₀ (ws ++ [⟨wr, wr.rows env (applyAll ws db₀)⟩]) := by
  -- a stage that has touched no stream decides on no incident
  have hundecided : k.stage.Untouched → ¬ ∃ i, k.stage = .deciding i ∨ k.stage = .decided i := by
    rintro hu ⟨i, hs | hs⟩ <;> rw [hs] at hu <;> exact hu
  cases wr with
  | insertIncident row => exact hallow.elim
  | insertStream row | insertChunk row =>
    obtain ⟨hs, -⟩ := hallow
    rw [hs] at hd ⊢
    obtain rfl : ws = [] := hd
    exact fun db => ⟨rfl, rfl⟩
  | completeStream i s n now =>
    obtain ⟨hs, -, l, hl, rfl, rfl⟩ := hallow
    rw [hs] at hd ⊢
    obtain rfl : ws = [] := hd
    exact ⟨_, fun x => streamRows_iff (hstream l hl), fun db => ⟨rfl, rfl⟩⟩
  | failStream i s reason now =>
    obtain ⟨hs, l, hl, rfl, rfl⟩ := hallow
    rw [hs] at hd ⊢
    obtain rfl : ws = [] := hd
    exact ⟨_, fun x => streamRows_iff (hstream l hl), fun db => ⟨rfl, rfl⟩⟩
  | insertDecision row =>
    obtain ⟨hs, -⟩ := hallow
    rw [hs] at hd ⊢
    obtain rfl : ws = [] := hd
    exact fun db => ⟨⟨rfl, rfl⟩, rfl⟩
  | closeIncident i now =>
    exact describes_afterInert hd (fun db => ⟨rfl, rfl⟩) fun h => absurd h (hundecided hallow)
  | tombstone i now =>
    refine describes_afterInert hd (fun db => ⟨rfl, rfl⟩) fun h => ?_
    rcases hallow with hu | ⟨j, hs⟩
    · exact absurd h (hundecided hu)
    · obtain ⟨j', hj' | hj'⟩ := h <;> rw [hs] at hj' <;> cases hj'
  | setDeletionState i state now =>
    obtain ⟨hne, hu | hs⟩ := hallow
    · have hafter : k.stage.afterWrite (.setDeletionState i state now) = k.stage.afterInert := by
        cases hk : k.stage <;> first | rfl | (rw [hk] at hu; exact hu.elim)
      rw [hafter]
      exact describes_afterInert hd (fun db => ⟨rfl, rfl⟩) fun h => absurd h (hundecided hu)
    · -- the incident is still there, so the update finds it
      rw [hs] at hd ⊢
      rw [TxKnow.Justified, hs] at hj
      obtain ⟨inc, hinc, hid, -⟩ := hactive i hj
      have hrow : i ∈ (Write.setDeletionState i state now).rows env (applyAll ws db₀) := by
        show i ∈ ((applyAll ws db₀).incidents.filter (·.id == i)).map (·.id)
        rw [(hd db₀).2]
        exact List.mem_map.mpr ⟨inc, List.mem_filter.mpr ⟨hinc, by simpa using hid⟩, hid⟩
      intro db
      refine ⟨⟨?_, ?_⟩, ?_⟩
      · rw [applyAll_append]; exact (hd db).1.streams
      · rw [applyAll_append]; exact (hd db).1.chunks
      · rw [applyAll_append]
        intro inc' hinc' hid'
        rcases of_mem_updateWhere hinc' with ⟨-, hnot⟩ | ⟨r, -, -, rfl⟩
        · rw [hid', List.contains_iff_mem.mpr hrow] at hnot
          cases hnot
        · exact hne
  | deleteChildren table i =>
    cases table with
    | chunks =>
      obtain ⟨hs, -⟩ := hallow
      -- nothing has touched streams and chunks yet
      have hsame : ∀ db, SameStreams db (applyAll ws db) := by
        rcases hs with hs | hs <;> rw [hs] at hd
        · obtain rfl : ws = [] := hd
          exact fun db => ⟨rfl, rfl⟩
        · exact fun db => hd db (by simp)
      refine ⟨_, List.mem_append_right _ (List.mem_singleton_self _), fun c hc hci => ?_, fun db => ?_⟩
      · exact mem_childRows_chunks (by rw [(hsame db₀).chunks]; exact hc) hci
      · rw [applyAll_append]
        refine ⟨(hsame db).streams, ?_⟩
        show deleteRows _ _ i _ (applyAll ws db).chunks = _
        rw [(hsame db).chunks]
    | streams =>
      have hs : k.stage = .pruning i := hallow
      rw [hs] at hd
      obtain ⟨rows, hmem, hcover, hdb⟩ := hd
      refine ⟨rows, (applyAll ws db₀).childRows i .streams, List.mem_append_left _ hmem, hcover,
        fun st hst hsti => ?_, fun db => ?_⟩
      · exact mem_childRows_streams (by rw [(hdb db₀).1]; exact hst) hsti
      · rw [applyAll_append]
        refine ⟨?_, (hdb db).2⟩
        show deleteRows _ _ i _ (applyAll ws db).streams = _
        rw [(hdb db).1]
        rfl
    | _ => exact describes_afterInert hd (fun db => ⟨rfl, rfl⟩) fun _ db => rfl
  | deleteIncident i =>
    obtain ⟨hu, -⟩ := hallow
    have hrows : ∀ x ∈ (Write.deleteIncident i).rows env (applyAll ws db₀), x = i := by
      intro x hx
      obtain ⟨r, hr, rfl⟩ := List.mem_map.mp hx
      have hsel := (List.mem_filter.mp hr).2
      simp only [Bool.and_eq_true, beq_iff_eq] at hsel
      exact hsel.1
    cases hs : k.stage with
    | start =>
      rw [hs] at hd
      obtain rfl : ws = [] := hd
      exact fun db hds => deleteIncident_same hrows (hds i List.mem_cons_self)
    | clean ds =>
      rw [hs] at hd
      intro db hds
      have hsame := hd db fun j hj => hds j (List.mem_cons_of_mem _ hj)
      have hi : (applyAll ws db).Childless i := by
        rw [DB.Childless, hsame.streams, hsame.chunks]
        exact hds i List.mem_cons_self
      have hlast := deleteIncident_same (j := i) hrows hi
      rw [applyAll_append]
      exact ⟨hlast.streams.trans hsame.streams, hlast.chunks.trans hsame.chunks⟩
    | _ => rw [hs] at hu; exact hu.elim
  | _ =>
    refine describes_afterInert hd (fun db => ?_) fun _ db => ?_
    · exact (apply_inert (by rfl) db).1
    · exact (apply_inert (by rfl) db).2.1

/-- What the stage rests on, after a write. -/
theorem justified_write (hj : k.Justified un)
    (hallow : k.Allows un wr) : TxKnow.Justified { k with stage := k.stage.afterWrite wr } un := by
  -- an inert write changes the stage from the start only
  have hinert : TxKnow.Justified { k with stage := k.stage.afterInert } un := by
    unfold TxKnow.Justified at hj ⊢
    cases hs : k.stage with
    | start => exact fun i hi => (by cases hi)
    | _ => rw [hs] at hj; exact hj
  cases wr with
  | insertIncident row => exact hallow.elim
  | insertStream | insertChunk | completeStream | failStream | insertDecision => exact hallow.2
  | setDeletionState i state now =>
    cases hs : k.stage with
    | deciding j =>
      simp only [TxKnow.Justified, hs] at hj
      exact hj
    | _ => rw [hs] at hinert; exact hinert
  | deleteChildren table i =>
    cases table with
    | chunks => exact hallow.2
    | streams =>
      have hs : k.stage = .pruning i := hallow
      simp only [TxKnow.Justified, hs] at hj
      exact hj
    | _ => exact hinert
  | deleteIncident i =>
    obtain ⟨hu, hbare⟩ := hallow
    cases hs : k.stage with
    | start => exact fun j hj => (by rw [List.mem_singleton.mp hj]; exact hbare)
    | clean ds =>
      simp only [TxKnow.Justified, hs] at hj
      intro j hmem
      rcases List.mem_cons.mp hmem with rfl | hold
      · exact hbare
      · exact hj j hold
    | _ => rw [hs] at hu; exact hu.elim
  | _ => exact hinert

/-- A stage that has inserted a decision keeps it. -/
theorem decisionFor_write {i : String}
    (hallow : k.Allows un wr) (h : k.stage.decisionFor = some i) :
    (k.stage.afterWrite wr).decisionFor = some i := by
  have hinert : k.stage.afterInert.decisionFor = some i := by
    cases hs : k.stage <;> rw [hs] at h <;> exact h
  cases wr with
  | insertIncident row => exact hallow.elim
  | insertStream row | insertChunk row | completeStream | failStream | insertDecision row =>
    rw [hallow.1] at h
    cases h
  | setDeletionState j state now =>
    cases hs : k.stage <;> rw [hs] at h <;> exact h
  | deleteChildren table j =>
    cases table with
    | chunks => rcases hallow.1 with hs | hs <;> rw [hs] at h <;> cases h
    | streams =>
      have hs : k.stage = .pruning j := hallow
      rw [hs] at h
      cases h
    | _ => exact hinert
  | deleteIncident j =>
    have hu := hallow.1
    cases hs : k.stage <;> rw [hs] at h hu <;> first | exact hu.elim | cases h
  | _ => exact hinert

/-- The discipline allows calm writes only. -/
theorem calm_of_allows (h : k.Allows un wr) :
    wr.Calm := by
  cases wr with
  | insertIncident row => exact h.elim
  | setDeletionState i state now => exact h.1
  | _ => trivial

end SafetyRecorder
