import SafetyRecorder.Server.Ownership

namespace SafetyRecorder

open Process Runs Table

/-!
# Server — blobs and rows in a quiescent state

When no process is in progress, the blobs in the store are exactly the stored paths
of the chunk rows, minus those whose deletion item is done.  In between, a blob may
be held by a handler, and a row may miss its blob because a worker has removed it
and not yet recorded that.

* `Tidy` — the invariant with these two exceptions;
* `KeepsPaths` — what the transactions other than inserting a chunk and marking an
  item do to rows and items;
* `tidy_call` — every call keeps `Tidy`, when removals succeed and a removal that
  succeeded is recorded;
* `quiescent_blobs` — the exceptions are gone when nothing is in progress.
-/

/-! ### Paths that are done, held, or being removed -/

/-- The deletion item of the path is in state `deleted`. -/
def DB.Done (db : DB) (path : String) : Prop :=
  ∃ it ∈ db.items, it.storedPath = path ∧ it.state = .deleted

/-- Some process holds the blob at the path. -/
def HeldPath (ts : Nat → Option Phase) (path : String) : Prop :=
  ∃ pid h, Holds ts pid h ∧ h.path = path

/-- The item whose blob is removed and whose removal is not recorded yet. -/
def Phase.current : Phase → Option DeletionItem
  | removed _ item _ => some item
  | _ => none

/-- A process that may end is not between a removal and its recording. -/
theorem Phase.Settled.current {t : Phase} (h : t.Settled) : t.current = none := by
  cases t <;> first | rfl | exact h.elim

/-- The process has removed the blob of the item. -/
def Removing (ts : Nat → Option Phase) (pid : Nat) (item : DeletionItem) : Prop :=
  ∃ t, ts pid = some t ∧ t.current = some item

/-- Some process has removed the blob at the path. -/
def RemovedPath (ts : Nat → Option Phase) (path : String) : Prop :=
  ∃ pid item, Removing ts pid item ∧ item.storedPath = path

section Update

variable {ts : Nat → Option Phase} {pid q : Nat} {t : Phase} {item : DeletionItem} {p : String}

theorem removing_update : Removing (Function.update ts pid (some t)) q item ↔
    (q = pid ∧ t.current = some item) ∨ (q ≠ pid ∧ Removing ts q item) := phase_update

/-- An item whose blob was removed is one the process works on. -/
theorem Removing.todo (h : Removing ts pid item) : Todo ts pid item := by
  obtain ⟨t, ht, hc⟩ := h
  refine ⟨t, ht, ?_⟩
  cases t with
  | removed d it items =>
    obtain rfl : it = item := Option.some.inj hc
    exact List.mem_cons_self
  | _ => cases hc

/-- The phase of the process says what it has removed. -/
theorem removing_iff (hpid : ts pid = some t) : Removing ts pid item ↔ t.current = some item := by
  simp [Removing, hpid]

/-- Neither phase of the process has removed a blob. -/
theorem not_removing {t₀ : Phase} (hpid : ts pid = some t₀) (h₀ : t₀.current = none)
    (h : t.current = none) (it : DeletionItem) : Removing ts pid it ↔ t.current = some it := by
  rw [removing_iff hpid, h₀, h]

/-- A process that keeps its hold on the path. -/
theorem heldPath_update (hsame : ∀ h, h.path = p → (Holds ts pid h ↔ t.held = some h)) :
    HeldPath (Function.update ts pid (some t)) p ↔ HeldPath ts p := by
  refine exists_congr fun q => exists_congr fun h => and_congr_left fun hp => ?_
  rw [holds_update]
  by_cases hq : q = pid
  · subst hq
    simp [hsame h hp]
  · simp [hq]

/-- A process that has removed the same at the path. -/
theorem removedPath_update
    (hsame : ∀ it, it.storedPath = p → (Removing ts pid it ↔ t.current = some it)) :
    RemovedPath (Function.update ts pid (some t)) p ↔ RemovedPath ts p := by
  refine exists_congr fun q => exists_congr fun it => and_congr_left fun hp => ?_
  rw [removing_update]
  by_cases hq : q = pid
  · subst hq
    simp [hsame it hp]
  · simp [hq]

end Update

/-! ### The invariant -/

/-- The item is still in the database, or nothing is left of the chunks it was for. -/
def ItemKept (db : DB) (item : DeletionItem) : Prop :=
  (∃ x ∈ db.items, x.id = item.id) ∨ ∀ c ∈ db.chunks, c.incidentID ≠ item.incidentID

/-- Blobs and rows agree, up to blobs in the hands of a process. -/
structure Tidy (env : Env) (w : World) (ts : Nat → Option Phase) : Prop where
  owned : Owned env w ts
  /-- Removals do not fail. -/
  noFailure : ∀ pid d it items, ts pid ≠ some (.removeFailed d it items)
  kept : ∀ pid it, Todo ts pid it → ItemKept w.db it
  /-- After a removal the blob is gone, or a late upload holds a new one. -/
  removing : ∀ pid it, Removing ts pid it →
    w.blobs it.storedPath = none ∨ HeldPath ts it.storedPath
  rowBlob : ∀ c ∈ w.db.chunks, ¬ w.db.Done c.storedPath →
    (w.blobs c.storedPath ≠ none ∧ ¬ HeldPath ts c.storedPath) ∨
      ∃ pid it, Removing ts pid it ∧ it.storedPath = c.storedPath
  blobRow : ∀ p, w.blobs p ≠ none →
    (∃ c ∈ w.db.chunks, c.storedPath = p ∧ ¬ w.db.Done p) ∨ HeldPath ts p

/-- Rows whose blob is due stay, rows only go away when their item is done, and no item
    changes between done and not done. -/
structure KeepsPaths (env : Env) (db db' : DB) : Prop where
  chunks : ∀ c ∈ db'.chunks, c ∈ db.chunks
  done : ∀ c ∈ db'.chunks, db.Done c.storedPath → db'.Done c.storedPath
  due : ∀ c ∈ db.chunks, ¬ db.Done c.storedPath → c ∈ db'.chunks ∧ ¬ db'.Done c.storedPath
  item : ∀ n it, GivenItem env n db it → ItemKept db it → ItemKept db' it

variable {env : Env} {api : API} {w w' : World} {ch : Choice} {ts ts' : Nat → Option Phase}
variable {pid : Nat} {t : Phase} {db db' : DB}

/-- A row refers to the path, and its item is not done. -/
def DB.Due (db : DB) (path : String) : Prop :=
  (∃ c ∈ db.chunks, c.storedPath = path) ∧ ¬ db.Done path

/-- Blob, row and processes agree on one path. -/
structure Agrees (w : World) (ts : Nat → Option Phase) (p : String) : Prop where
  removed : RemovedPath ts p → w.blobs p = none ∨ HeldPath ts p
  due : w.db.Due p → (w.blobs p ≠ none ∧ ¬ HeldPath ts p) ∨ RemovedPath ts p
  blob : w.blobs p ≠ none → w.db.Due p ∨ HeldPath ts p

/-- A path at which nothing has happened. -/
theorem Agrees.congr {p : String} (h : Agrees w ts p) (hb : w'.blobs p = w.blobs p)
    (hd : w'.db.Due p ↔ w.db.Due p) (hheld : HeldPath ts' p ↔ HeldPath ts p)
    (hr : RemovedPath ts' p ↔ RemovedPath ts p) : Agrees w' ts' p := by
  constructor
  · rw [hb, hheld, hr]; exact h.removed
  · rw [hb, hd, hheld, hr]; exact h.due
  · rw [hb, hd, hheld]; exact h.blob

/-- Tables that stay the same keep the paths. -/
theorem keepsPaths_of_eq (hc : db'.chunks = db.chunks) (hi : db'.items = db.items) :
    KeepsPaths env db db' := by
  constructor
  · exact fun c h => hc ▸ h
  · intro c _ h
    unfold DB.Done
    rw [hi]; exact h
  · intro c h hd
    unfold DB.Done
    rw [hc, hi]
    exact ⟨h, hd⟩
  · intro n it _ h
    unfold ItemKept
    rw [hc, hi]; exact h

/-- New pending items leave everything that is done as it is. -/
theorem keepsPaths_request {items : List DeletionItem} (hnew : ∀ it ∈ items, it.state = .pending)
    (hc : db'.chunks = db.chunks) (hi : db'.items = db.items ++ items) : KeepsPaths env db db' := by
  have hdone : ∀ p, db'.Done p ↔ db.Done p := by
    intro p
    unfold DB.Done
    rw [hi]
    constructor
    · rintro ⟨it, hit, hp, hst⟩
      rcases List.mem_append.mp hit with hit | hit
      · exact ⟨it, hit, hp, hst⟩
      · rw [hnew it hit] at hst; cases hst
    · rintro ⟨it, hit, hrest⟩
      exact ⟨it, List.mem_append_left _ hit, hrest⟩
  constructor
  · exact fun c h => hc ▸ h
  · exact fun c _ h => (hdone _).mpr h
  · exact fun c h hd => ⟨hc ▸ h, fun h' => hd ((hdone _).mp h')⟩
  · rintro n it _ (⟨x, hx, hrest⟩ | hnone)
    · exact .inl ⟨x, hi ▸ List.mem_append_left _ hx, hrest⟩
    · exact .inr (hc ▸ hnone)

/-- The rows and items below some incidents are deleted, and their chunks were done. -/
theorem keepsPaths_delete {G : String → Prop} (hw : Owned env w ts)
    (hchunks : ∀ c, c ∈ db'.chunks ↔ c ∈ w.db.chunks ∧ ¬ G c.incidentID)
    (hitems : ∀ it, it ∈ db'.items ↔ it ∈ w.db.items ∧ ¬ G it.incidentID)
    (hdone : ∀ c ∈ w.db.chunks, G c.incidentID → w.db.Done c.storedPath) :
    KeepsPaths env w.db db' := by
  have hsub : ∀ p, db'.Done p → w.db.Done p := by
    rintro p ⟨it, hit, hrest⟩
    exact ⟨it, ((hitems it).mp hit).1, hrest⟩
  constructor
  · exact fun c h => ((hchunks c).mp h).1
  · rintro c hc ⟨it, hit, hp, hst⟩
    -- an item with the path of the row belongs to the row's incident
    obtain ⟨hmem, hkeep⟩ := (hchunks c).mp hc
    obtain ⟨s, m, k, hbelow⟩ := hw.itemPath it hit
    have hinc := hw.incident_of_path hbelow hmem hp.symm
    exact ⟨it, (hitems it).mpr ⟨hit, hinc ▸ hkeep⟩, hp, hst⟩
  · intro c hc hd
    exact ⟨(hchunks c).mpr ⟨hc, fun hg => hd (hdone c hc hg)⟩, fun h => hd (hsub _ h)⟩
  · rintro n it hgiven (⟨x, hx, hid⟩ | hnone)
    · obtain ⟨s, m, k, hbelow⟩ := hgiven.below
      obtain ⟨s', m', k', hx'⟩ := hw.itemPath x hx
      have hinc : x.incidentID = it.incidentID :=
        (storedBlobPath_inj ((hgiven.same x hx hid).2 ▸ hx') hbelow).1
      by_cases hg : G it.incidentID
      · exact .inr fun c hc heq => ((hchunks c).mp hc).2 (heq ▸ hg)
      · exact .inl ⟨x, (hitems x).mpr ⟨hx, hinc ▸ hg⟩, hid⟩
    · exact .inr fun c hc => hnone c ((hchunks c).mp hc).1

/-- The transactions other than inserting a chunk and marking an item keep the paths. -/
theorem keepsPaths_effect (hw : Owned env w ts) {d : Draw} {t : Tx} (he : Effect env d t w.db db')
    (hchunk : ∀ p, t ≠ .createChunk p) (hdel : ∀ i, t ≠ .markIncidentDeletionItemDeleted i)
    (hfail : ∀ i c, t ≠ .markIncidentDeletionItemFailed i c) : KeepsPaths env w.db db' := by
  cases he with
  | quiet g hg incidents chunks decisions items => exact keepsPaths_of_eq chunks items
  | incident | claim | fail => exact keepsPaths_of_eq rfl rfl
  | chunk p => exact absurd rfl (hchunk p)
  | request p => exact keepsPaths_request (fun it hit => (mem_newItems hit).2.2.1) rfl rfl
  | itemDeleted id => exact absurd rfl (hdel id)
  | itemFailed id code => exact absurd rfl (hfail id code)
  | complete dec mem done inc =>
    refine keepsPaths_delete (G := fun i => i = dec.incidentID) hw ?_ ?_ ?_
    · intro c
      exact mem_deleteWhere.trans (by simp)
    · intro it
      refine mem_deleteWhere.trans (and_congr_right fun hit => ?_)
      -- an item belongs to this decision exactly when it belongs to its incident
      obtain ⟨dec', hdec', hid, hinc⟩ := hw.consistent.itemDecision it hit
      rw [beq_eq_false_iff_ne, not_iff_not]
      constructor
      · intro h
        rw [← hinc, eq_of_key hw.consistent.decisionIDs hdec' mem (hid.trans h)]
      · intro h
        rw [← hid, eq_of_key hw.consistent.decisionIncidents hdec' mem (hinc.trans h)]
    · intro c hc hgone
      obtain ⟨it, hit, hid, hp⟩ := hw.consistent.chunkItem dec mem c hc hgone
      exact ⟨it, hit, hp, done it hit hid⟩
  | tombstones cutoff limit =>
    refine keepsPaths_delete (G := fun i => i ∈ pruneTombstoneIncidentIDs env cutoff limit w.db)
      hw ?_ ?_ ?_
    · intro c
      exact mem_deleteWhere.trans (by simp)
    · intro it
      exact mem_deleteWhere.trans (by simp)
    · intro c hc hgone
      exact absurd rfl ((DB.bare_rows (mem_pruneTombstoneIncidentIDs hgone).1).1 c hc)

/-! ### Calls -/

namespace Tidy

theorem agrees (hw : Tidy env w ts) (p : String) : Agrees w ts p := by
  constructor
  · rintro ⟨q, it, hit, rfl⟩
    exact hw.removing q it hit
  · rintro ⟨⟨c, hc, rfl⟩, hd⟩
    exact hw.rowBlob c hc hd
  · intro hb
    rcases hw.blobRow p hb with ⟨c, hc, hp, hd⟩ | hheld
    · exact .inl ⟨⟨c, hc, hp⟩, hd⟩
    · exact .inr hheld

theorem of_agrees (howned : Owned env w ts)
    (hnf : ∀ pid d it items, ts pid ≠ some (.removeFailed d it items))
    (hkept : ∀ pid it, Todo ts pid it → ItemKept w.db it) (h : ∀ p, Agrees w ts p) :
    Tidy env w ts := by
  refine ⟨howned, hnf, hkept, fun q it hit => (h _).removed ⟨q, it, hit, rfl⟩,
    fun c hc hd => (h _).due ⟨⟨c, hc, rfl⟩, hd⟩, fun p hb => ?_⟩
  rcases (h p).blob hb with ⟨⟨c, hc, hp⟩, hd⟩ | hheld
  · exact .inl ⟨c, hc, hp, hd⟩
  · exact .inr hheld

/-- **One process moves.** The invariant is left to be shown path by path. -/
theorem move (hw : Tidy env w ts) (howned : Owned env w' (Function.update ts pid (some t)))
    (hnf : ∀ d it items, t ≠ .removeFailed d it items) (hmine : ∀ it ∈ t.todo, ItemKept w'.db it)
    (hkept : ∀ q it, Todo ts q it → ItemKept w'.db it)
    (hagrees : ∀ p, Agrees w' (Function.update ts pid (some t)) p) :
    Tidy env w' (Function.update ts pid (some t)) := by
  refine of_agrees howned (fun q d it items => ?_) (fun q it hit => ?_) hagrees
  · by_cases hq : q = pid
    · subst hq
      simpa using hnf d it items
    · simpa [Function.update_of_ne hq] using hw.noFailure q d it items
  · rcases todo_update.mp hit with ⟨-, hmem⟩ | ⟨-, hk⟩
    · exact hmine it hmem
    · exact hkept q it hk

/-- A process changes its phase without taking or giving up a blob. -/
theorem phase (hw : Tidy env w ts) (hheld : ∀ h, Holds ts pid h ↔ t.held = some h)
    (hcur : ∀ it, Removing ts pid it ↔ t.current = some it)
    (htodo : ∀ it ∈ t.todo, Given env w it ∧ ItemKept w.db it)
    (hnf : ∀ d it items, t ≠ .removeFailed d it items) :
    Tidy env w (Function.update ts pid (some t)) := by
  have howned := hw.owned.phase (fun h hh => (hheld h).mpr hh) fun it hit => (htodo it hit).1
  refine hw.move howned hnf (fun it hit => (htodo it hit).2) hw.kept fun p => ?_
  exact (hw.agrees p).congr rfl Iff.rfl (heldPath_update fun h _ => hheld h)
    (removedPath_update fun it _ => hcur it)

/-- Neither phase has a blob in its hands. -/
theorem release {t₀ : Phase} (hw : Tidy env w ts) (hpid : ts pid = some t₀) (h₀ : t₀.Settled)
    (h : t.Settled) (htodo : ∀ it ∈ t.todo, Given env w it ∧ ItemKept w.db it) :
    Tidy env w (Function.update ts pid (some t)) := by
  refine hw.phase (fun h' => ?_) (not_removing hpid h₀.current h.current) htodo ?_
  · rw [holds_iff hpid, h₀.held, h.held]
  · rintro d it items rfl
    exact h

/-- A transaction that keeps the paths. -/
theorem keep (hw : Tidy env w ts) (howned : Owned env w' ts) (hblobs : w'.blobs = w.blobs)
    (hk : KeepsPaths env w.db w'.db) :
    Tidy env w' ts := by
  refine of_agrees howned hw.noFailure (fun q it hit => ?_) fun p =>
    (hw.agrees p).congr (by rw [hblobs]) ⟨?_, ?_⟩ Iff.rfl Iff.rfl
  · exact hk.item _ it (hw.owned.todo q it hit) (hw.kept q it hit)
  · rintro ⟨⟨c, hc, rfl⟩, hd⟩
    exact ⟨⟨c, hk.chunks c hc, rfl⟩, fun h => hd (hk.done c hc h)⟩
  · rintro ⟨⟨c, hc, rfl⟩, hd⟩
    obtain ⟨hc', hd'⟩ := hk.due c hc hd
    exact ⟨⟨c, hc', rfl⟩, hd'⟩

/-- A transaction call other than inserting a chunk and marking an item. -/
theorem tx (hw : Tidy env w ts) {t : Tx} {a : Answer (.tx t)}
    (h : exec env w (.tx t) ch = some (a, w')) (hchunk : ∀ p, t ≠ .createChunk p)
    (hdel : ∀ i, t ≠ .markIncidentDeletionItemDeleted i)
    (hfail : ∀ i c, t ≠ .markIncidentDeletionItemFailed i c) : Tidy env w' ts := by
  obtain ⟨hblobs, -, hcases⟩ := exec_tx_effect h
  refine hw.keep (hw.owned.tx h hchunk) hblobs ?_
  rcases hcases with ⟨heff, -⟩ | ⟨hdb, -⟩
  · exact keepsPaths_effect hw.owned heff hchunk hdel hfail
  · exact keepsPaths_of_eq (by rw [hdb]) (by rw [hdb])

/-- The items a worker is given. -/
theorem listed (hw : Tidy env w ts) {d : String} {it : DeletionItem}
    (hit : it ∈ listIncidentDeletionItems env d w.db) :
    Given env w it ∧ ItemKept w.db it :=
  ⟨hw.owned.listed hit, .inl ⟨it, (mem_listIncidentDeletionItems hit).1, rfl⟩⟩

/-- `CommitTemp` succeeded: the new blob is held. -/
theorem commitTemp (hw : Tidy env w ts) {u : TempUpload} {i s : String} {m : MediaType} {k : Int}
    {p : String} (hp : storedBlobPath i s m k = .ok p) (hnone : w.blobs p = none)
    (hidle : ts pid = some .idle) :
    Tidy env { w with blobs := Function.update w.blobs p (some u.content) }
      (Function.update ts pid (some (.holding ⟨u, i, s, m, k, p, hp⟩))) := by
  refine hw.move (hw.owned.commitTemp hp hnone) (by simp) (fun _ hit => by cases hit) hw.kept
    fun q => ?_
  have hrem := removedPath_update (t := .holding ⟨u, i, s, m, k, p, hp⟩) (p := q) fun it _ =>
    not_removing hidle rfl rfl it
  by_cases hq : q = p
  · subst hq
    have hmine : HeldPath (Function.update ts pid (some (.holding ⟨u, i, s, m, k, q, hp⟩))) q :=
      ⟨pid, _, holds_update.mpr (.inl ⟨rfl, rfl⟩), rfl⟩
    refine ⟨fun _ => .inr hmine, fun hdue => .inr (hrem.mpr ?_), fun _ => .inr hmine⟩
    -- the blob was not there, so a row that is due has lost it to a worker
    exact ((hw.agrees q).due hdue).resolve_left fun h => h.1 hnone
  · refine (hw.agrees q).congr (Function.update_of_ne hq ..) Iff.rfl
      (heldPath_update fun h hpath => ?_) hrem
    rw [holds_iff hidle]
    constructor
    · intro hh; cases hh
    · intro hh; cases hh
      exact absurd hpath.symm hq

/-- `CreateChunk` by the holder: the row takes over the blob, or nothing happened. -/
theorem createChunk (hw : Tidy env w ts) {p : CreateChunkParams} {a : Answer (.tx (.createChunk p))}
    (h : exec env w (.tx (.createChunk p)) ch = some (a, w')) {hold : Holding}
    (hpid : ts pid = some (.holding hold)) (hrec : hold.Records env p)
    (hf : ch.fault ≠ .lostCommit) :
    Tidy env w' (Function.update ts pid (some (Phase.afterCreate hold a))) := by
  have hmine : Holds ts pid hold := ⟨_, hpid, rfl⟩
  have howned := hw.owned.createChunk h hmine hrec hf
  obtain ⟨hblobs, -, ⟨heff, -, hok⟩ | ⟨hdb, hn, e, rfl⟩⟩ := exec_tx_effect h
  · obtain ⟨r, rfl⟩ := hok hf
    obtain ⟨active, hdb⟩ := heff.chunk_inv
    have hnf : ¬ w.Frozen env hold.incidentID := fun hfr => (hrec.incidentID ▸ hfr).not_active active
    have hitems : w'.db.items = w.db.items := by rw [hdb]
    have hdone : ∀ q, w'.db.Done q ↔ w.db.Done q := fun q => by rw [DB.Done, DB.Done, hitems]
    have hchunks : ∀ c, c ∈ w'.db.chunks ↔ c ∈ w.db.chunks ∨
        c = chunkRow env ⟨w.nextID, ch.now⟩ p := fun c => by rw [hdb]; exact mem_append_row
    -- the blob of an active incident is on no worker's list and not done
    have hpath : ∀ {it : DeletionItem}, w.Frozen env it.incidentID → it.Below →
        it.storedPath ≠ hold.path := by
      rintro it hfr ⟨s, m, k, hbelow⟩ hp
      exact hnf ((storedBlobPath_inj (hp ▸ hbelow) hold.path_ok).1 ▸ hfr)
    refine hw.move howned (by simp [Phase.afterCreate]) (fun _ hit => by cases hit)
      (fun q it hk => ?_) fun q => ?_
    · rcases hw.kept q it hk with ⟨x, hx, hid⟩ | hnone
      · exact .inl ⟨x, hitems ▸ hx, hid⟩
      · refine .inr fun c hc => ?_
        rcases (hchunks c).mp hc with hc | rfl
        · exact hnone c hc
        · intro heq
          exact (heq ▸ (hw.owned.todo q it hk).frozen).not_active active
    have hrem := removedPath_update (t := .idle) (p := q) fun it _ => not_removing hpid rfl rfl it
    by_cases hq : q = hold.path
    · -- the new row: its blob is there and was held by this process alone
      subst hq
      refine ⟨fun hr => ?_, fun _ => .inl ⟨?_, ?_⟩, fun _ => .inl ⟨?_, ?_⟩⟩
      · obtain ⟨q, it, hit, hp⟩ := hrem.mp hr
        have hg := hw.owned.todo q it hit.todo
        exact absurd hp (hpath hg.frozen hg.below)
      · rw [hblobs, hw.owned.heldBlob pid hold hmine hnf]; simp
      · rintro ⟨q, h', hh, hp⟩
        rcases holds_update.mp hh with ⟨-, hheld⟩ | ⟨hq, hh'⟩
        · cases hheld
        · exact hq (hw.owned.heldAlone pid hold q h' hmine hh' hp hnf)
      · exact ⟨_, (hchunks _).mpr (.inr rfl), hrec.storedPath⟩
      · rw [hdone]
        rintro ⟨it, hit, hp, -⟩
        obtain ⟨dec, hdec, -, hinc⟩ := hw.owned.consistent.itemDecision it hit
        exact hpath (hinc ▸ hw.owned.consistent.frozen hdec) (hw.owned.itemPath it hit) hp
    · refine (hw.agrees q).congr (by rw [hblobs]) ?_ (heldPath_update fun h' hp => ?_) hrem
      · refine and_congr ?_ (not_congr (hdone q))
        constructor
        · rintro ⟨c, hc, hcp⟩
          rcases (hchunks c).mp hc with hc | rfl
          · exact ⟨c, hc, hcp⟩
          · exact absurd (hcp.symm.trans hrec.storedPath) hq
        · rintro ⟨c, hc, hcp⟩
          exact ⟨c, (hchunks c).mpr (.inl hc), hcp⟩
      · rw [holds_iff hpid]
        constructor
        · intro hh; cases hh
          exact absurd hp.symm hq
        · intro hh; cases hh
  · -- rejected: the process goes on holding the blob
    have hsame : Tidy env w' ts := by
      refine hw.keep ?_ hblobs (keepsPaths_of_eq (by rw [hdb]) (by rw [hdb]))
      exact hw.owned.shrink (consistent_tx h hw.owned.consistent) hblobs (fun i => frozen_tx h)
        (fun c hc => hdb ▸ hc) (fun it hit => hw.owned.itemPath it (hdb ▸ hit)) (fun _ _ hh => hh)
        fun q it hit => given_tx h (hw.owned.todo q it hit)
    exact hsame.phase (fun h' => holds_iff (t := .holding hold) hpid) (not_removing hpid rfl rfl)
      (fun _ hit => by cases hit) (by simp [Phase.afterCreate])

/-- A blob goes away that the process held, or whose removal it now has to record. -/
theorem remove (hw : Tidy env w ts) {p : String} (hdb : w'.db = w.db)
    (hblobs : w'.blobs = Function.update w.blobs p none)
    (howned : Owned env w' (Function.update ts pid (some t)))
    (hpid : ∀ h, Holds ts pid h → h.path = p) (hnone : t.held = none)
    (hcur : ∀ it, Removing ts pid it → t.current = some it)
    (hnew : ∀ it, t.current = some it → it.storedPath = p)
    (htodo : ∀ it ∈ t.todo, Todo ts pid it) (hnf : ∀ d it items, t ≠ .removeFailed d it items)
    (hcover : HeldPath ts p ∨ ∃ it, t.current = some it) :
    Tidy env w' (Function.update ts pid (some t)) := by
  refine hw.move howned hnf (fun it hit => hdb ▸ hw.kept pid it (htodo it hit)) (hdb ▸ hw.kept)
    fun q => ?_
  by_cases hq : q = p
  · subst hq
    have hat : w'.blobs q = none := by rw [hblobs, Function.update_self]
    refine ⟨fun _ => .inl hat, fun hdue => .inr ?_, fun hb => absurd hat hb⟩
    rw [hdb] at hdue
    rcases (hw.agrees q).due hdue with ⟨-, hno⟩ | ⟨r, it, hit, hp⟩
    · -- nobody held the row's blob, so this is the removal of a worker
      obtain ⟨it, hit⟩ := hcover.resolve_left hno
      exact ⟨pid, it, removing_update.mpr (.inl ⟨rfl, hit⟩), hnew it hit⟩
    · refine ⟨r, it, removing_update.mpr ?_, hp⟩
      by_cases hr : r = pid
      · exact .inl ⟨hr, hcur it (hr ▸ hit)⟩
      · exact .inr ⟨hr, hit⟩
  · refine (hw.agrees q).congr (by rw [hblobs, Function.update_of_ne hq]) (by rw [hdb])
      (heldPath_update fun h hp => ?_) (removedPath_update fun it hp => ?_)
    · rw [hnone]
      exact ⟨fun hh => absurd (hp.symm.trans (hpid h hh)) hq, fun hh => by cases hh⟩
    · exact ⟨hcur it, fun hc => absurd (hp.symm.trans (hnew it hc)) hq⟩

/-- A process is done with the item whose blob it removed: the rows of that path are
    gone or done. -/
theorem settle (hw : Tidy env w ts) {d : String} {item : DeletionItem} {items : List DeletionItem}
    (hpid : ts pid = some (.removed d item items)) (howned : Owned env w' ts)
    (hblobs : w'.blobs = w.blobs) (hchunks : w'.db.chunks = w.db.chunks)
    (hkept : ∀ it, ItemKept w.db it → ItemKept w'.db it)
    (hgrow : ∀ q, w.db.Done q → w'.db.Done q)
    (hdone : ∀ q, w'.db.Done q → w.db.Done q ∨ q = item.storedPath)
    (hrow : ∀ c ∈ w.db.chunks, c.storedPath = item.storedPath → w'.db.Done c.storedPath)
    (a : Except RepoError Unit) :
    Tidy env w' (Function.update ts pid (some (Phase.afterMark d items a))) := by
  have hheld : (Phase.afterMark d items a).held = none := by cases a <;> rfl
  have hcur : (Phase.afterMark d items a).current = none := by cases a <;> rfl
  have htodo : ∀ it ∈ (Phase.afterMark d items a).todo, Todo ts pid it := by
    intro it hit
    cases a with
    | ok _ => exact ⟨_, hpid, List.mem_cons_of_mem _ hit⟩
    | error e => cases hit
  have hpath : ∀ q, HeldPath (Function.update ts pid (some (Phase.afterMark d items a))) q ↔
      HeldPath ts q := fun q => heldPath_update fun h _ => by rw [holds_iff hpid, hheld]; rfl
  refine hw.move (howned.release hheld htodo) (by cases a <;> simp [Phase.afterMark])
    (fun it hit => hkept it (hw.kept pid it (htodo it hit)))
    (fun q it hit => hkept it (hw.kept q it hit)) fun q => ?_
  by_cases hq : q = item.storedPath
  · subst hq
    refine ⟨fun hr => ?_, fun hdue => ?_, fun hb => .inr ?_⟩
    · rw [hblobs, hpath]
      obtain ⟨r, it, hit, hp⟩ := hr
      rcases removing_update.mp hit with ⟨-, hc⟩ | ⟨-, hold⟩
      · rw [hcur] at hc; cases hc
      · exact (hw.agrees _).removed ⟨r, it, hold, hp⟩
    · obtain ⟨⟨c, hc, hp⟩, hd⟩ := hdue
      exact absurd (hp ▸ hrow c (hchunks ▸ hc) hp) hd
    · -- the blob at the path just done was put there by a late upload
      rw [hblobs] at hb
      exact (hpath _).mpr ((hw.removing pid item ⟨_, hpid, rfl⟩).resolve_left hb)
  · refine (hw.agrees q).congr (by rw [hblobs]) (and_congr (by rw [hchunks]) (not_congr ?_))
      (hpath q) (removedPath_update fun it hp => ?_)
    · exact ⟨fun h => (hdone q h).resolve_right hq, hgrow q⟩
    · rw [removing_iff hpid, hcur]
      constructor
      · intro hc; cases hc
        exact absurd hp.symm hq
      · intro hc; cases hc

/-- The removal is recorded. -/
theorem markDeleted (hw : Tidy env w ts) {d : String} {item : DeletionItem}
    {items : List DeletionItem} {a : Answer (.tx (.markIncidentDeletionItemDeleted item.id))}
    (hpid : ts pid = some (.removed d item items))
    (h : exec env w (.tx (.markIncidentDeletionItemDeleted item.id)) ch = some (a, w'))
    (hf : ch.fault = .none ∨ ch.fault = .lostCommit) :
    Tidy env w' (Function.update ts pid (some (Phase.afterMark d items a))) := by
  have howned := hw.owned.tx h (by simp)
  have hgiven := hw.owned.todo pid item ⟨_, hpid, List.mem_cons_self⟩
  -- a row with the item's path belongs to the item's incident
  have hinc : ∀ c ∈ w.db.chunks, c.storedPath = item.storedPath → c.incidentID = item.incidentID := by
    intro c hc hp
    obtain ⟨s, m, k, hbelow⟩ := hgiven.below
    exact hw.owned.incident_of_path hbelow hc hp
  obtain ⟨r, db', hrun, rfl, -⟩ | ⟨n, e, -, rfl, -, hlost, herr⟩ := exec_tx h
  · obtain ⟨⟨x, hx, hid⟩, rfl⟩ := markItem_ok hrun
    refine hw.settle hpid howned rfl rfl ?_ ?_ ?_ ?_ a
    · rintro it (⟨y, hy, hyid⟩ | hnone)
      · exact .inl (exists_updateWhere hy hyid hyid)
      · exact .inr hnone
    · rintro q ⟨y, hy, hp, hst⟩
      exact exists_updateWhere hy ⟨hp, hst⟩ ⟨hp, rfl⟩
    · rintro q ⟨y', hy', hp, hst⟩
      rcases of_mem_updateWhere hy' with ⟨hy, -⟩ | ⟨y, hy, hsel, rfl⟩
      · exact .inl ⟨y', hy, hp, hst⟩
      · exact .inr (hp.symm.trans (hgiven.same y hy (by simpa using hsel)).2)
    · intro c hc hp
      refine ⟨_, mem_updateWhere_of_pos hx (by simpa using hid), ?_, rfl⟩
      exact hp ▸ (hgiven.same x hx hid).2
  · -- the item is gone with the rows of its incident
    have hgone : ∀ x ∈ w.db.items, x.id ≠ item.id := by
      intro x hx hid
      have hrun := herr (hf.resolve_right hlost)
      simp only [Tx.run, markIncidentDeletionItemDeleted, markItem, Checked.ensure] at hrun
      rw [if_pos (List.any_eq_true.mpr ⟨x, hx, by simpa using hid⟩)] at hrun
      cases hrun
    refine hw.settle hpid howned rfl rfl (fun _ h => h) (fun _ h => h) (fun _ h => .inl h) ?_ a
    intro c hc hp
    rcases hw.kept pid item ⟨_, hpid, List.mem_cons_self⟩ with ⟨x, hx, hid⟩ | hnone
    · exact absurd hid (hgone x hx)
    · exact absurd (hinc c hc hp) (hnone c hc)

end Tidy

/-- **Preservation.** Every call of the discipline keeps the invariant, when removals
    succeed and their recording does not fail without an effect. -/
theorem tidy_call (hw : Tidy env w ts) (ht : ts pid = some t) {c : Call} {a : Answer c}
    (hallowed : t.Allowed env c) (hexec : exec env w c ch = some (a, w'))
    (hcreate : ∀ p, c = .tx (.createChunk p) → ch.fault ≠ .lostCommit)
    (hremove : ∀ p, c = .removeCommittedBlob p → ch.fault = .none)
    (hitem : ∀ it, c = .removeItem it → ch.fault = .none)
    (hmark : ∀ i, c = .tx (.markIncidentDeletionItemDeleted i) →
      ch.fault = .none ∨ ch.fault = .lostCommit) :
    Tidy env w' (Function.update ts pid (some (t.next c a))) := by
  have hmove := move_of_allowed hallowed hexec
  have howned := owned_call hw.owned ht hallowed hexec hcreate
  generalize t.next c a = t' at hmove howned ⊢
  cases hmove with
  | still hset hnext =>
    rcases hnext with rfl | rfl
    · exact hw.release ht hset hset fun it hit =>
        ⟨hw.owned.todo pid it ⟨_, ht, hit⟩, hw.kept pid it ⟨_, ht, hit⟩⟩
    · exact hw.release ht hset trivial fun _ hit => by cases hit
  | tx hset hnext hchunk hdel hfail hexec =>
    rcases hnext with rfl | ⟨d, rfl⟩
    · exact (hw.tx hexec hchunk hdel hfail).release ht hset trivial fun _ hit => by cases hit
    · exact (hw.tx hexec hchunk hdel hfail).release ht hset trivial fun _ hit => by cases hit
  | commitTemp hp hnone => exact hw.commitTemp hp hnone ht
  | createChunk hrec hexec => exact hw.createChunk hexec ht hrec (hcreate _ rfl)
  | @removeCommittedBlob h _ _ hexec =>
    have hw' := exec_removeCommittedBlob_none hexec (hremove _ rfl)
      (cleanStoredPath_storedBlobPath h.path_ok)
    refine hw.remove (by rw [hw']) (by rw [hw']) howned (fun h' hh => ?_) rfl (fun it hit => ?_)
      (fun _ hc => by cases hc) (fun _ hit => by cases hit) (by simp) (.inl ⟨pid, h, ⟨_, ht, rfl⟩, rfl⟩)
    · obtain ⟨⟩ := (holds_iff ht).mp hh
      rfl
    · cases (removing_iff ht).mp hit
  | list => exact hw.release ht trivial trivial fun it hit => hw.listed hit
  | @removeItem d item items b _ hexec =>
    have hmine : ∀ it ∈ item :: items, Todo ts pid it := fun it hit => ⟨_, ht, hit⟩
    obtain ⟨s, m, k, hbelow⟩ := (hw.owned.todo pid item (hmine item List.mem_cons_self)).below
    obtain ⟨hreport, hdb, hnext, hblobs⟩ := exec_removeItem_none hexec (hitem item rfl)
      (cleanStoredPath_storedBlobPath hbelow)
    -- the store reported the blob gone, so the worker goes on to record that
    rcases Phase.afterRemove_cases d item items b with ⟨-, heq⟩ | ⟨hno, -⟩
    case inr => exact absurd (hreport.symm.trans hno) (by decide)
    rw [heq] at howned ⊢
    refine hw.remove hdb hblobs howned (fun h hh => ?_) rfl (fun it hit => ?_) (fun it hc => ?_)
      hmine (by simp) (.inr ⟨item, rfl⟩)
    · cases (holds_iff ht).mp hh
    · cases (removing_iff ht).mp hit
    · rw [← Option.some.inj hc]
  | markDeleted hexec => exact hw.markDeleted ht hexec (hmark _ rfl)
  | markFailed => exact absurd ht (hw.noFailure pid _ _ _)

/-! ### Whole runs -/

/-- The assumptions on a step: no process crashes, removals succeed, and an error of
    `CreateChunk` means that no row was inserted. -/
def Orderly (s : Server) : Label Request Choice → Prop
  | .spawn _ _ => True
  | .crash _ => False
  | .step pid ch =>
    (∀ p, s.nextCall pid = some (.tx (.createChunk p)) → ch.fault ≠ .lostCommit) ∧
      (∀ p, s.nextCall pid = some (.removeCommittedBlob p) → ch.fault = .none) ∧
      ∀ it, s.nextCall pid = some (.removeItem it) → ch.fault = .none

/-- The recording of a removal does not fail without having been applied. -/
def RemovalRecorded (s : Server) : Label Request Choice → Prop
  | .step pid ch => ∀ i, s.nextCall pid = some (.tx (.markIncidentDeletionItemDeleted i)) →
      ch.fault = .none ∨ ch.fault = .lostCommit
  | _ => True

theorem tidy_start : Tidy env {} fun _ => none := by
  constructor
  case owned => exact owned_start
  case noFailure => intro pid d it items h; cases h
  case kept => rintro pid it ⟨t, ht, -⟩; cases ht
  case removing => rintro pid it ⟨t, ht, -⟩; cases ht
  case rowBlob => intro c hc; cases hc
  case blobRow => intro p hp; exact absurd rfl hp

/-- The obligations of the invariant rule. -/
theorem tidy_preserved (env : Env) (api : API) :
    Sys.Preserved (discipline env) (fun t (_ : Outcome) => t.Settled) (main env api) (exec env)
      (fun _ => .idle) (fun s l => Orderly s l ∧ RemovalRecorded s l) (Tidy env) where
  follows := main_follows env api
  spawn w ts pid _ hw hnone := by
    refine hw.phase (fun h => ?_) (fun it => ?_) (fun _ hit => by cases hit) (by simp)
    · constructor
      · rintro ⟨t, ht, -⟩
        rw [hnone] at ht; cases ht
      · intro hh; cases hh
    · constructor
      · rintro ⟨t, ht, -⟩
        rw [hnone] at ht; cases ht
      · intro hc; cases hc
  crash _ _ _ _ hK := hK.1.elim
  call s ts pid t c k ch a w' hw ht hallowed hproc hK hexec := by
    have hnext : s.nextCall pid = some c := Sys.nextCall_eq_some.mpr ⟨k, hproc⟩
    obtain ⟨⟨hcreate, hremove, hitem⟩, hmark⟩ := hK
    refine tidy_call hw ht hallowed hexec ?_ ?_ ?_ ?_
    · rintro p rfl; exact hcreate p hnext
    · rintro p rfl; exact hremove p hnext
    · rintro it rfl; exact hitem it hnext
    · rintro i rfl; exact hmark i hnext

/-- The test for the assumptions on a step. -/
def orderly (s : Server) : Label Request Choice → Bool
  | .spawn _ _ => true
  | .crash _ => false
  | .step pid ch =>
    match s.nextCall pid with
    | some (.tx (.createChunk _)) => ch.fault != .lostCommit
    | some (.removeCommittedBlob _) => ch.fault == .none
    | some (.removeItem _) => ch.fault == .none
    | _ => true

theorem orderly_of_test {s : Server} {l : Label Request Choice} (h : orderly s l = true) : Orderly s l := by
  cases l with
  | spawn pid req => trivial
  | crash pid => cases h
  | step pid ch =>
    refine ⟨fun p hp => ?_, fun p hp => ?_, fun it hp => ?_⟩ <;> simpa [orderly, hp] using h

/-- A chunk is uploaded and its incident deleted; the worker removes the blob, and the
    database fails when the removal is to be recorded. -/
def unrecordedRun : List (Label Request Choice) :=
  uploadRun ++ .spawn 2 (deleteIncident "_inc") :: goOn 2 1 ++ .spawn 3 (.runOnce {}) :: goOn 3 7 ++
    [.step 3 { fault := .failed }]

end SafetyRecorder
