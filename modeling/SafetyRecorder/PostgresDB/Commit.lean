import SafetyRecorder.PostgresDB.Isolation
import SafetyRecorder.Server.Sample

namespace SafetyRecorder

open Table Process Runs

/-!
# PostgreSQL — what a commit does

A transaction that commits does one of a few things to streams and chunks, and what
it has read under lock is still true when it does.

* `Committed` — the effect of a commit on streams and chunks;
* `committed_of_facts` — the effect follows from the facts of the transaction;
* `Committed.below`, `Committed.others` — what it leaves alone for others;
* `pgInv_commit`, `pgInv_exec` — the calls that change the committed rows keep the
  invariant;
* `streamLaws_postgres` — every run obeys the laws of media streams;
* `decided_inactive` — an incident with a deletion decision is not active.
-/

/-- The transaction completes the deletion of the incident. -/
def PgTx.Prunes (x : PgTx) (i : String) : Prop :=
  (∃ d, x.op = .completeIncidentDeletion d) ∧ ∃ rows, ⟨.deleteChildren .chunks i, rows⟩ ∈ x.writes

/-- The transaction `tx` holds the incident and the incident is active. -/
def PgWorld.Owns (w : PgWorld) (tx : Nat) (i : String) : Prop :=
  w.locks (.incidents, i) = some tx ∧ w.db.Active i

variable {env : Env} {w w' : PgWorld} {ts ts' : Phases} {un : Option String} {k : TxKnow} {x : PgTx}
  {pid : Nat} {t : PgPhase}

/-- What a commit does to streams and chunks. -/
inductive Committed (env : Env) (w : PgWorld) (ts : Phases) (un : Option String) (tx : Nat)
    (x : PgTx) (db' : DB) : Prop
  | keep (same : SameStreams w.db db')
  | create (row : MediaStream) (owns : w.Owns tx row.incidentID) (drawn : un = some row.id)
      (isOpen : row.status = .open) (streams : db'.streams = w.db.streams ++ [row])
      (chunks : db'.chunks = w.db.chunks)
  | chunk (row : Chunk) (owns : w.Owns tx row.incidentID)
      (intoOpen : row.streamID ≠ "" → ∃ st ∈ w.db.streams, st.id = row.streamID ∧ st.status = .open)
      (streams : db'.streams = w.db.streams) (chunks : db'.chunks = w.db.chunks ++ [row])
  | finish (st : MediaStream) (f : MediaStream → MediaStream) (mem : st ∈ w.db.streams)
      (owns : w.Owns tx st.incidentID) (isOpen : st.status = .open)
      (row : ∀ r, (f r).id = r.id ∧ (f r).incidentID = r.incidentID ∧ (f r).mediaType = r.mediaType)
      (status : (f st).status = .failed ∨ (f st).status = .complete ∧ ∃ n,
        (f st).expectedChunkCount = some n ∧ Contiguous w.db st.incidentID st.id st.mediaType n)
      (streams : db'.streams = updateWhere (·.id == st.id) f w.db.streams)
      (chunks : db'.chunks = w.db.chunks)
  | prune (i : String) (condemned : Condemned env w ts i) (prunes : x.Prunes i)
      (streams : db'.streams = deleteWhere (·.incidentID == i) w.db.streams)
      (chunks : db'.chunks = deleteWhere (·.incidentID == i) w.db.chunks)

/-- A test that finds exactly one identifier. -/
theorem updateWhere_rows {rows : List String} {s : String} (h : ∀ x, x ∈ rows ↔ x = s)
    (f : MediaStream → MediaStream) (t : List MediaStream) :
    updateWhere (fun r => rows.contains r.id) f t = updateWhere (·.id == s) f t := by
  unfold updateWhere
  refine List.map_congr_left fun r _ => ?_
  by_cases hr : r.id = s
  · have hin : r.id ∈ rows := (h r.id).mpr hr
    simp [hr, (h s).mpr rfl]
  · have hout : r.id ∉ rows := fun hin => hr ((h r.id).mp hin)
    simp [hr, hout]

/-- A deletion that has found all rows of the incident. -/
theorem deleteRows_all {α : Type} {incidentOf idOf : α → String} {i : String} {rows : List String}
    {t : List α} (h : ∀ r ∈ t, incidentOf r = i → idOf r ∈ rows) :
    deleteRows incidentOf idOf i rows t = deleteWhere (incidentOf · == i) t := by
  refine List.filter_congr fun r hr => ?_
  by_cases hi : incidentOf r = i
  · simp [hi, h r hr hi]
  · simp [hi]

/-- **The effect of a commit**, from what the transaction knows. -/
theorem committed_of_facts (h : TxFacts env w ts un k x) (hcommit : k.stage.Committable) :
    Committed env w ts un k.tx x (applyAll x.writes w.db) := by
  have hd := h.describes
  have hj := h.justified
  unfold TxKnow.Justified at hj
  cases hs : k.stage with
  | start =>
    rw [hs] at hd
    have hnil : x.writes = [] := hd
    rw [hnil]
    exact .keep ⟨rfl, rfl⟩
  | clean ds =>
    rw [hs] at hd hj
    exact .keep (hd w.db fun i hi => (h.bare i (hj i hi)).2)
  | deciding | pruning => rw [hs] at hcommit; exact hcommit.elim
  | decided i =>
    rw [hs] at hd
    exact .keep (hd w.db).1
  | create row =>
    rw [hs] at hd hj
    obtain ⟨hact, hdrawn, hopen⟩ := hj
    exact .create row (h.active _ hact) hdrawn hopen (hd w.db).1 (hd w.db).2
  | chunk row =>
    rw [hs] at hd hj
    obtain ⟨hact, hstream⟩ := hj
    refine .chunk row (h.active _ hact) (fun hne => ?_) (hd w.db).1 (hd w.db).2
    obtain ⟨l, hl, hid⟩ := hstream.resolve_left hne
    obtain ⟨-, st, hst, -, hst', -, hopen⟩ := h.stream l hl
    exact ⟨st, hst, hst'.trans hid, hopen⟩
  | completed i s n now =>
    rw [hs] at hd hj
    obtain ⟨hcount, l, hl, rfl, rfl⟩ := hj
    obtain ⟨rows, hrows, hdb⟩ := hd
    obtain ⟨hact, st, hst, hinc, hid, htype, hopen⟩ := h.stream l hl
    obtain ⟨l', hl', hcont⟩ := h.count n hcount
    obtain rfl : l' = l := Option.some.inj (hl'.symm.trans hl)
    refine .finish st (markComplete ⟨0, now⟩ n) hst ?_ hopen (fun r => ⟨rfl, rfl, rfl⟩)
      (.inr ⟨rfl, n, rfl, ?_⟩) ?_ (hdb w.db).2
    · rw [hinc]; exact h.active _ hact
    · rw [hinc, hid, htype]; exact hcont
    · rw [(hdb w.db).1, updateWhere_rows hrows, hid]
  | failed i s reason now =>
    rw [hs] at hd hj
    obtain ⟨l, hl, rfl, rfl⟩ := hj
    obtain ⟨rows, hrows, hdb⟩ := hd
    obtain ⟨hact, st, hst, hinc, hid, htype, hopen⟩ := h.stream l hl
    refine .finish st (markFailed ⟨0, now⟩ reason) hst ?_ hopen (fun r => ⟨rfl, rfl, rfl⟩)
      (.inl rfl) ?_ (hdb w.db).2
    · rw [hinc]; exact h.active _ hact
    · rw [(hdb w.db).1, updateWhere_rows hrows, hid]
  | pruned i =>
    rw [hs] at hd hj
    obtain ⟨hdec, hop⟩ := hj
    obtain ⟨rows, rows', hmem, hcover, hcover', hdb⟩ := hd
    refine .prune i (h.decision i hdec) ⟨h.op ▸ hop, rows, hmem⟩ ?_ ?_
    · rw [(hdb w.db).1, deleteRows_all hcover']
    · rw [(hdb w.db).2, deleteRows_all hcover]

/-- The effect of a commit is a stream effect. -/
theorem Committed.streamEffect {db' : DB} {used' : String → Prop}
    (h : Committed env w ts un k.tx x db') (hun : ∀ u, un = some u →
      u ≠ "" ∧ ¬ Settled env w ts u ∧ used' u) :
    StreamEffect (Settled env w ts) used' x.Prunes w.db db' := by
  cases h with
  | keep same => exact .keep same.streams same.chunks
  | create row owns drawn isOpen streams chunks =>
    obtain ⟨hnamed, hfresh, hgiven⟩ := hun _ drawn
    exact .create row isOpen hnamed hfresh hgiven streams chunks
  | chunk row owns intoOpen streams chunks => exact .chunk row intoOpen streams chunks
  | finish st f mem owns isOpen row status streams chunks =>
    refine .finish st (f st) mem isOpen (row st).1 (row st).2.1 (row st).2.2 status
      (fun r => if r.id == st.id then f r else r) (fun r hr => ?_) ?_ streams chunks
    · simp [hr]
    · simp
  | prune i condemned prunes streams chunks => exact .prune i prunes streams chunks

/-- A condemned incident is not one that a transaction owns. -/
theorem PgWorld.Owns.ne_condemned {tx : Nat} {i j : String} (h : w.Owns tx i)
    (hj : Condemned env w ts j) : i ≠ j := by
  rintro rfl
  obtain ⟨-, inc, hinc, hid, hact⟩ := h
  exact hj.2 inc hinc hid hact

/-- Nothing is added below a condemned incident. -/
theorem Committed.below {db' : DB} (h : Committed env w ts un k.tx x db') {i : String}
    (hi : Condemned env w ts i) :
    (∀ c ∈ db'.chunks, c.incidentID = i → c ∈ w.db.chunks) ∧
      ∀ st' ∈ db'.streams, st'.incidentID = i →
        ∃ st ∈ w.db.streams, st.incidentID = i ∧ st.id = st'.id := by
  have hsame : ∀ {db' : DB}, db'.streams = w.db.streams → ∀ st' ∈ db'.streams, st'.incidentID = i →
      ∃ st ∈ w.db.streams, st.incidentID = i ∧ st.id = st'.id :=
    fun heq st' hst' hinc => ⟨st', heq ▸ hst', hinc, rfl⟩
  cases h with
  | keep same => exact ⟨fun c hc _ => same.chunks ▸ hc, hsame same.streams⟩
  | create row owns drawn isOpen streams chunks =>
    refine ⟨fun c hc _ => chunks ▸ hc, fun st' hst' hinc => ?_⟩
    rw [streams] at hst'
    rcases mem_append_row.mp hst' with hold | hnew
    · exact ⟨st', hold, hinc, rfl⟩
    · rw [hnew] at hinc
      exact absurd hinc (owns.ne_condemned hi)
  | chunk row owns intoOpen streams chunks =>
    refine ⟨fun c hc hinc => ?_, hsame streams⟩
    rw [chunks] at hc
    rcases mem_append_row.mp hc with hold | hnew
    · exact hold
    · rw [hnew] at hinc
      exact absurd hinc (owns.ne_condemned hi)
  | finish st f mem owns isOpen row status streams chunks =>
    refine ⟨fun c hc _ => chunks ▸ hc, fun st' hst' hinc => ?_⟩
    rw [streams] at hst'
    rcases of_mem_updateWhere hst' with ⟨hst, -⟩ | ⟨r, hr, -, rfl⟩
    · exact ⟨st', hst, hinc, rfl⟩
    · exact ⟨r, hr, (row r).2.1 ▸ hinc, (row r).1.symm⟩
  | prune j condemned prunes streams chunks =>
    refine ⟨fun c hc _ => ?_, fun st' hst' hinc => ?_⟩
    · rw [chunks] at hc
      exact (mem_deleteWhere.mp hc).1
    · rw [streams] at hst'
      exact ⟨st', (mem_deleteWhere.mp hst').1, hinc, rfl⟩

/-- What another transaction owns is left alone. -/
theorem Committed.others {db' : DB} (hids : (w.db.streams.map (·.id)).Nodup)
    (h : Committed env w ts un k.tx x db') {tx : Nat} (htx : tx ≠ k.tx) {i : String}
    (hi : w.Owns tx i) :
    (∀ st ∈ w.db.streams, st.incidentID = i → st ∈ db'.streams) ∧
      ∀ s, db'.streamChunks i s = w.db.streamChunks i s := by
  -- an incident has one owner
  have hne : ∀ {j}, w.Owns k.tx j → j ≠ i := by
    rintro j hj rfl
    exact htx (Option.some.inj (hi.1.symm.trans hj.1))
  cases h with
  | keep same =>
    exact ⟨fun st hst _ => same.streams ▸ hst, fun s => streamChunks_of_eq same.chunks i s⟩
  | create row owns drawn isOpen streams chunks =>
    exact ⟨fun st hst _ => streams ▸ List.mem_append_left _ hst,
      fun s => streamChunks_of_eq chunks i s⟩
  | chunk row owns intoOpen streams chunks =>
    refine ⟨fun st hst _ => streams ▸ hst, fun s => ?_⟩
    rw [DB.streamChunks, chunks, List.filter_append]
    simp [DB.streamChunks, hne owns]
  | finish st₀ f mem owns isOpen row status streams chunks =>
    refine ⟨fun st hst hinc => ?_, fun s => streamChunks_of_eq chunks i s⟩
    have hother : st.id ≠ st₀.id := by
      intro heq
      obtain rfl := eq_of_key hids hst mem heq
      exact hne owns hinc
    rw [streams]
    exact mem_updateWhere_of_not hst (by simpa using hother)
  | prune j condemned prunes streams chunks =>
    have hij : i ≠ j := hi.ne_condemned condemned
    refine ⟨fun st hst hinc => ?_, fun s => streamChunks_prune chunks hij⟩
    rw [streams]
    exact mem_deleteWhere.mpr ⟨hst, by simpa [hinc] using hij⟩

/-! ### The calls that change the committed rows -/

/-- An identifier that its process lets go of is settled. -/
theorem settled_given (hinv : PgInv env w ts) (ht : ts pid = some t) {u : String}
    (hu : t.unspent = some u) {t' : PgPhase} (ht' : t'.unspent = none) (hid : w'.nextID = w.nextID) :
    Settled env w' (Function.update ts pid (some t')) u := by
  refine ⟨hid ▸ hinv.issued pid t u ht hu, fun pid' t'' ht'' hun => ?_⟩
  obtain ⟨-, ⟨⟩⟩ | ⟨hp, ht''⟩ := update_some ht''
  · rw [ht'] at hun
    cases hun
  · exact hp (hinv.unshared pid' pid t'' t u ht'' ht hun hu)

/-- An identifier that a process is about to use is a name nobody has. -/
theorem unspent_fresh (hinv : PgInv env w ts) (ht : ts pid = some t) {u : String}
    (hu : t.unspent = some u) : u ≠ "" ∧ ¬ Settled env w ts u := by
  refine ⟨?_, fun hset => hset.2 pid t ht hu⟩
  obtain ⟨p, n, -, rfl⟩ := hinv.issued pid t u ht hu
  exact env.newID_ne_empty

/-- The database server after a commit. -/
abbrev PgWorld.commit (w : PgWorld) (tx : Nat) (x : PgTx) : PgWorld :=
  { w.close tx with db := applyAll x.writes w.db }

/-- **A commit keeps the invariant.** -/
theorem pgInv_commit (hinv : PgInv env w ts) (hwf : StreamsWF w.db) (ht : ts pid = some t)
    (hk : t.tx = some k) (hx : w.txs k.tx = some x) (hcommit : k.stage.Committable) :
    Frame env w (w.commit k.tx x) ts (Function.update ts pid (some {})) ∧
      PgInv env (w.commit k.tx x) (Function.update ts pid (some {})) := by
  have hfacts := hinv.facts pid t k x ht hk hx
  have heff := committed_of_facts hfacts hcommit
  have hincs := applyAll_incidents hfacts.calm w.db
  have hforget : Forgets ts pid (some ({} : PgPhase)) :=
    forgets_of_phase ht (.inl rfl) (.inl rfl)
  have hframe : Frame env w (w.commit k.tx x) ts (Function.update ts pid (some {})) := by
    refine ⟨fun i hi => settled_update (le_refl _) hforget.draws hi, fun i hi => ?_,
      fun i hi => (heff.below hi).1, fun i hi => (heff.below hi).2⟩
    intro inc' hinc' hid' hact'
    obtain ⟨inc, hinc, hid, hact⟩ := hincs.origin inc' hinc' hact'
    exact hi.2 inc hinc (hid.trans hid') hact
  refine ⟨hframe, pgInv_update hinv hframe ?_ (le_refl _) (le_refl _) ?_ ?_ ?_ hforget.draws ?_⟩
  · intro pid' t' k' x' hp ht' hk' hx'
    have hne : k'.tx ≠ k.tx := fun heq => hp (hinv.distinct pid' pid t' t k' k ht' ht hk' hk heq)
    have hends : Ends w (w.close k.tx) := .inr ⟨k.tx, rfl⟩
    obtain ⟨hx₀, hlocks⟩ := hends.keeps hx'
    refine ⟨hx₀, hlocks, fun i hlock hact => ?_, fun st hst hlock hact => ?_,
      fun i s hlock hact => ?_⟩
    · -- the incident rows that were written are held by the committing transaction
      obtain ⟨inc, hinc, hid, hstate⟩ := hact
      refine ⟨inc, hincs.keeps inc hinc fun hin => hne ?_, hid, hstate⟩
      obtain ⟨p, hp', hin⟩ := List.mem_flatMap.mp hin
      exact Option.some.inj (hlock.symm.trans (hfacts.held p hp' i (hid ▸ hin)))
    · exact (heff.others hwf.ids hne ⟨hlock, hact⟩).1 st hst rfl
    · exact (heff.others hwf.ids hne ⟨hlock, hact⟩).2 s
  · intro inc' hinc'
    obtain ⟨inc, hinc, hid⟩ := hincs.ids inc' hinc'
    rw [← hid]
    exact hframe.settled _ (hinv.incidents inc hinc)
  · intro dec' hdec'
    rcases hfacts.decisions w.db dec' hdec' with ⟨dec, hdec, hinc⟩ | hnew
    · rw [← hinc]
      exact hframe.condemned (hinv.decided dec hdec)
    · -- the decision was inserted below an active incident, whose state is now set
      have hd := hfacts.describes
      have hj := hfacts.justified
      unfold TxKnow.Justified at hj
      cases hs : k.stage with
      | decided i =>
        rw [hs] at hd hj hnew
        cases hnew
        obtain ⟨-, inc, hinc, hid, -⟩ := hfacts.active _ hj
        refine ⟨hframe.settled _ ?_, (hd w.db).2⟩
        rw [← hid]
        exact hinv.incidents inc hinc
      | deciding i => rw [hs] at hcommit; exact hcommit.elim
      | _ => rw [hs] at hnew; cases hnew
  · rintro t' k' ⟨⟩ hk'
    cases hk'
  · rintro t' u ⟨⟩ hu
    cases hu

/-- What a statement outside a transaction leaves alone. -/
theorem exec_same {wr : Write} (hallow : t.Allowed (.exec wr)) (rows : List String) (db : DB) :
    SameStreams db (Pending.apply ⟨wr, rows⟩ db) ∧
      KeepsDecided db (Pending.apply ⟨wr, rows⟩ db) ∧
      ((Pending.apply ⟨wr, rows⟩ db).incidents = db.incidents ∨
        ∃ row : Incident, t.unspent = some row.id ∧
          (Pending.apply ⟨wr, rows⟩ db).incidents = db.incidents ++ [row]) := by
  obtain ⟨-, ⟨row, rfl, hun⟩ | hinert⟩ := hallow
  · exact ⟨⟨rfl, rfl⟩, fun dec hdec => ⟨dec, hdec, rfl⟩, .inr ⟨row, hun, rfl⟩⟩
  · obtain ⟨hsame, hinc, hdec⟩ := apply_inert (p := ⟨wr, rows⟩) hinert db
    exact ⟨hsame, hdec, .inl hinc⟩

/-- **A statement outside a transaction keeps the invariant.** -/
theorem pgInv_exec {wr : Write} (hinv : PgInv env w ts) (ht : ts pid = some t)
    (hallow : t.Allowed (.exec wr)) (rows : List String) :
    Frame env w { w with db := Pending.apply ⟨wr, rows⟩ w.db } ts
        (Function.update ts pid (some { t with unspent := none })) ∧
      PgInv env { w with db := Pending.apply ⟨wr, rows⟩ w.db }
        (Function.update ts pid (some { t with unspent := none })) := by
  obtain ⟨hsame, hdecs, hincs⟩ := exec_same hallow rows w.db
  have hforget : Forgets ts pid (some { t with unspent := none }) :=
    forgets_of_phase ht (.inl hallow.1) (.inl rfl)
  -- a new incident has an identifier that was not in use
  have hframe : Frame env w { w with db := Pending.apply ⟨wr, rows⟩ w.db } ts
      (Function.update ts pid (some { t with unspent := none })) := by
    refine ⟨fun i hi => settled_update (le_refl _) hforget.draws hi, fun i hi inc hinc hid => ?_,
      fun i _ c hc _ => hsame.chunks ▸ hc, fun i _ st hst hinc => ⟨st, hsame.streams ▸ hst, hinc, rfl⟩⟩
    rcases hincs with heq | ⟨row, hun, heq⟩
    · exact hi.2 inc (heq ▸ hinc) hid
    · rcases mem_append_row.mp (heq ▸ hinc) with hold | hnew
      · exact hi.2 inc hold hid
      · rw [hnew] at hid
        exact absurd (hid ▸ hun) (hi.1.2 pid t ht)
  refine ⟨hframe, pgInv_update hinv hframe ?_ (le_refl _) (le_refl _) ?_ ?_ ?_ hforget.draws ?_⟩
  · intro pid' t' k' x' _ _ _ hx'
    refine ⟨hx', fun _ h => h, fun i _ hact => ?_, fun st hst _ _ => ?_, fun i s _ _ => ?_⟩
    · obtain ⟨inc, hinc, hid, hstate⟩ := hact
      refine ⟨inc, ?_, hid, hstate⟩
      rcases hincs with heq | ⟨row, -, heq⟩
      · exact heq ▸ hinc
      · exact heq ▸ List.mem_append_left _ hinc
    · exact hsame.streams ▸ hst
    · exact streamChunks_of_eq hsame.chunks i s
  · intro inc hinc
    rcases hincs with heq | ⟨row, hun, heq⟩
    · exact hframe.settled _ (hinv.incidents inc (heq ▸ hinc))
    · rcases mem_append_row.mp (heq ▸ hinc) with hold | hnew
      · exact hframe.settled _ (hinv.incidents inc hold)
      · rw [hnew]
        exact settled_given hinv ht hun rfl rfl
  · intro dec' hdec'
    obtain ⟨dec, hdec, hinc⟩ := hdecs dec' hdec'
    rw [← hinc]
    exact hframe.condemned (hinv.decided dec hdec)
  · rintro t' k' ⟨⟩ hk'
    rw [hallow.1] at hk'
    cases hk'
  · rintro t' u ⟨⟩ hu
    cases hu

/-! ### Every call -/

/-- What a step of the repository does: it keeps the invariant and has a stream
    effect. -/
structure PgMove (env : Env) (pruned : String → Prop) (w w' : PgWorld) (ts ts' : Phases) : Prop where
  inv : PgInv env w' ts'
  settled : ∀ i, Settled env w ts i → Settled env w' ts' i
  effect : StreamEffect (Settled env w ts) (Settled env w' ts') pruned w.db w'.db

variable {pruned : String → Prop} {o : Option PgPhase}

/-- Ending a transaction, or forgetting. -/
theorem pgMove_forget (hinv : PgInv env w ts) (ho : Forgets ts pid o) (hends : Ends w w') :
    PgMove env pruned w w' ts (Function.update ts pid o) := by
  obtain ⟨hinv', hset⟩ := pgInv_forget hinv ho hends
  refine ⟨hinv', hset, ?_⟩
  rw [hends.same.1]
  exact .keep rfl rfl

/-- **Every call of a method that follows the discipline is a move.** -/
theorem pgMove_call {c : PgCall} {ch : PgChoice} {a : PgAnswer c} (hinv : PgInv env w ts)
    (hwf : StreamsWF w.db) (ht : ts pid = some t) (hallow : t.Allowed c)
    (hexec : pgExec env w c ch = some (a, w')) :
    PgMove env (fun i => ∃ tx x, c = .commit tx ∧ w.txs tx = some x ∧ x.Prunes i) w w' ts
      (Function.update ts pid (some (t.next c a))) := by
  have hstay : Forgets ts pid (some t) := forgets_of_phase ht (.inr rfl) (.inr rfl)
  cases c with
  | timeNow =>
    cases hexec
    exact pgMove_forget hinv hstay (.inl rfl)
  | newID p =>
    cases hexec
    obtain ⟨hinv', hset⟩ := pgInv_newID hinv ht hallow
    exact ⟨hinv', hset, .keep rfl rfl⟩
  | beginTx op =>
    simp only [pgExec] at hexec
    split at hexec
    · cases hexec
      obtain ⟨hinv', hset⟩ := pgInv_beginTx hinv ht
      exact ⟨hinv', hset, .keep rfl rfl⟩
    · cases hexec
      exact pgMove_forget hinv hstay (.inl rfl)
  | stmt tx s =>
    obtain ⟨k, hk, rfl, hwrite⟩ := hallow
    simp only [pgExec] at hexec
    split at hexec
    · cases hexec
      exact pgMove_forget hinv hstay (.inl rfl)
    next x hx =>
      split at hexec
      · cases hexec
        exact pgMove_forget hinv hstay (.inr ⟨k.tx, rfl⟩)
      · split at hexec
        · cases hexec
        next hwait =>
          split at hexec
          · cases hexec
            exact pgMove_forget hinv hstay (.inr ⟨k.tx, rfl⟩)
          · cases hexec
            obtain ⟨hinv', hset⟩ := pgInv_stmt hinv ht hk hwrite hx (by simpa using hwait)
            have hnext : t.next (.stmt k.tx s) (.ok (s.result env (applyAll x.writes w.db))) =
                { t with tx := some (k.after s (s.result env (applyAll x.writes w.db))) } := by
              simp only [PgPhase.next, PgPhase.afterStmt, hk, Option.map_some]
            rw [hnext]
            exact ⟨hinv', hset, .keep rfl rfl⟩
  | commit tx =>
    obtain ⟨k, hk, rfl, hcommit⟩ := hallow
    have hdrop : Forgets ts pid (some ({} : PgPhase)) := forgets_of_phase ht (.inl rfl) (.inl rfl)
    simp only [pgExec] at hexec
    split at hexec
    · cases hexec
      exact pgMove_forget hinv hdrop (.inl rfl)
    next x hx =>
      -- the transaction is applied, whether or not the client learns of it
      have happly : PgMove env
          (fun i => ∃ tx' x', PgCall.commit k.tx = .commit tx' ∧ w.txs tx' = some x' ∧ x'.Prunes i)
          w (w.commit k.tx x) ts (Function.update ts pid (some {})) := by
        obtain ⟨hframe, hinv'⟩ := pgInv_commit hinv hwf ht hk hx hcommit
        have heff := committed_of_facts (hinv.facts pid t k x ht hk hx) hcommit
        refine ⟨hinv', hframe.settled, ?_⟩
        refine (heff.streamEffect fun u hu => ?_).mono fun i hi => ⟨k.tx, x, rfl, hx, hi⟩
        obtain ⟨hnamed, hfresh⟩ := unspent_fresh hinv ht hu
        exact ⟨hnamed, hfresh, settled_given hinv ht hu rfl rfl⟩
      split at hexec
      · cases hexec
        exact happly
      · cases hexec
        exact happly
      · cases hexec
        exact pgMove_forget hinv hdrop (.inr ⟨k.tx, rfl⟩)
  | rollback tx =>
    cases hexec
    refine pgMove_forget hinv ?_ (.inr ⟨tx, rfl⟩)
    show Forgets ts pid (some (if t.tx.any (·.tx == tx) then { t with tx := none } else t))
    split
    · exact forgets_of_phase ht (.inl rfl) (.inr rfl)
    · exact hstay
  | exec wr =>
    have hdrop : Forgets ts pid (some { t with unspent := none }) :=
      forgets_of_phase ht (.inl hallow.1) (.inl rfl)
    have happly : PgMove env
        (fun i => ∃ tx x, PgCall.exec wr = .commit tx ∧ w.txs tx = some x ∧ x.Prunes i)
        w { w with db := Pending.apply ⟨wr, wr.rows env w.db⟩ w.db } ts
        (Function.update ts pid (some { t with unspent := none })) := by
      obtain ⟨hframe, hinv'⟩ := pgInv_exec hinv ht hallow (wr.rows env w.db)
      obtain ⟨hsame, -⟩ := exec_same hallow (wr.rows env w.db) w.db
      exact ⟨hinv', hframe.settled, .keep hsame.streams hsame.chunks⟩
    simp only [pgExec] at hexec
    split at hexec
    · cases hexec
      exact pgMove_forget hinv hdrop (.inl rfl)
    · split at hexec
      · cases hexec
      · split at hexec
        · cases hexec
          exact pgMove_forget hinv hdrop (.inl rfl)
        · split at hexec <;> cases hexec <;> exact happly
  | query q =>
    simp only [pgExec] at hexec
    split at hexec <;> cases hexec <;> exact pgMove_forget hinv hstay (.inl rfl)

/-! ### Every run -/

/-- The step commits the completed deletion of an incident. -/
def PrunesIncident (s : PgServer) (l : Label PgRequest PgChoice) (i : String) : Prop :=
  ∃ pid ch tx x, l = .step pid ch ∧ s.nextCall pid = some (.commit tx) ∧
    s.shared.txs tx = some x ∧ x.Prunes i

/-- The invariant holds of the empty repository. -/
theorem pgInv_boot (accounts : List String) :
    PgInv env (bootPostgres accounts).shared (fun _ => none) := by
  constructor
  case incidents => exact fun inc hinc => (by cases hinc)
  case decided => exact fun dec hdec => (by cases hdec)
  all_goals
    intros
    contradiction

/-- Every step of the server is a move. -/
theorem pgMove_step {s s' : PgServer} {l : Label PgRequest PgChoice} {ts : Phases}
    (htr : Sys.Tracked pgDiscipline Idle s.procs ts) (hinv : PgInv env s.shared ts)
    (hwf : StreamsWF s.shared.db) (h : pgStep env s l = some s') :
    ∃ ts', Sys.Tracked pgDiscipline Idle s'.procs ts' ∧
      PgMove env (PrunesIncident s l) s.shared s'.shared ts ts' := by
  refine Sys.tracked_step_cases (G := fun x' ts' => PgMove env (PrunesIncident s l) s.shared x' ts ts')
    pgMain_follows (fun pid req hl hnone => ?_) (fun pid hl => ?_)
    (fun pid t c k d a x' hl ht hallow hp hexec => ?_) htr h
  · refine pgMove_forget hinv ?_ (.inl rfl)
    rintro t' ⟨⟩
    exact ⟨.inl rfl, fun u hu => (by cases hu)⟩
  · exact pgMove_forget hinv (fun t' ht' => (by cases ht')) (.inl rfl)
  · obtain ⟨hinv', hset, heff⟩ := pgMove_call hinv hwf ht hallow hexec
    refine ⟨hinv', hset, heff.mono ?_⟩
    rintro i ⟨tx, x, rfl, hx, hi⟩
    exact ⟨pid, d, tx, x, hl, Sys.nextCall_eq_some.mpr ⟨k, hp⟩, hx, hi⟩

/-- **The PostgreSQL repository obeys the laws of media streams**, in every
    interleaving of its statements that the row locks admit. -/
theorem streamLaws_postgres (env : Env) (accounts : List String) :
    StreamLaws (pgStep env) (bootPostgres accounts) (·.shared.db) PrunesIncident := by
  refine streamLaws_of_effects (γ := Phases)
    (I := fun s ts => Sys.Tracked pgDiscipline Idle s.procs ts ∧ PgInv env s.shared ts)
    (U := fun s ts => Settled env s.shared ts) _ _ _ rfl
    ⟨fun _ => none, Sys.tracked_start _, pgInv_boot accounts⟩ ?_
  rintro s l s' ts ⟨htr, hinv⟩ hwf hs
  obtain ⟨ts', htr', hmove⟩ := pgMove_step htr hinv hwf hs
  exact ⟨ts', ⟨htr', hmove.inv⟩, hmove.effect, hmove.settled⟩

/-- **Media streams on both repositories.** On SQLite, where transactions are
    serialised, and on PostgreSQL, where statements interleave subject to the row
    locks, a complete stream has one chunk for each index it promised, keeps them
    until its deletion is completed, and a status changes once. -/
theorem streamLaws_repositories (env : Env) (accounts : List String) :
    StreamLaws (repositoryStep env) {} (·.db) CompletesDeletion ∧
      StreamLaws (pgStep env) (bootPostgres accounts) (·.shared.db) PrunesIncident :=
  ⟨streamLaws_repository env, streamLaws_postgres env accounts⟩

/-- **Decided incidents.** On PostgreSQL too, in every interleaving that the row locks admit,
    an incident with a committed deletion decision is not active. -/
theorem decided_inactive {accounts : List String} {ls : List (Label PgRequest PgChoice)}
    {s : PgServer} (hrun : run (pgStep env) (bootPostgres accounts) ls = some s)
    {dec : DeletionDecision} (hdec : dec ∈ s.shared.db.decisions) :
    s.shared.db.Inactive dec.incidentID := by
  -- the phases of the clients are ghost state, as in the laws of media streams
  have hgood := invariant_of_step (I := fun s : PgServer => ∃ ts,
    Sys.Tracked pgDiscipline Idle s.procs ts ∧ PgInv env s.shared ts ∧ StreamsWF s.shared.db ∧
      ∀ st ∈ s.shared.db.streams, Settled env s.shared ts st.id) ?_ ?_ hrun
  · obtain ⟨ts, -, hinv, -⟩ := hgood
    exact (hinv.decided dec hdec).2
  · rintro s l s' ⟨ts, htr, hinv, hwf, hused⟩ hs
    obtain ⟨ts', htr', hmove⟩ := pgMove_step htr hinv hwf hs
    exact ⟨ts', htr', hmove.inv, streamsWF_effect hwf hused hmove.effect,
      used_of_effect hwf hused hmove.settled hmove.effect⟩
  · have hempty : (bootPostgres accounts).shared.db.streams = [] := rfl
    exact ⟨fun _ => none, Sys.tracked_start _, pgInv_boot accounts,
      by constructor <;> simp [hempty], by simp [hempty]⟩

/-- An incident is created, and its deletion requested. -/
def deletionRun : List (Label PgRequest PgChoice) :=
  .spawn 0 (.createIncidentForAccount "a" ⟨"", "", none, none, none, none⟩) ::
    .replicate 3 (.step 0 {}) ++
  .spawn 1 (.requestIncidentDeletion ⟨"_inc", .accountRequest, "", "", true, "", none⟩) ::
    .replicate 10 (.step 1 {})

theorem decided_inactive_deletionRun :
    ∃ s dec, run (pgStep sampleEnv) (bootPostgres ["a"]) deletionRun = some s ∧
      dec ∈ s.shared.db.decisions ∧ s.shared.db.Inactive dec.incidentID :=
  ⟨_, _, rfl, .head _, @decided_inactive sampleEnv ["a"] deletionRun _ rfl _ (.head _)⟩

end SafetyRecorder
