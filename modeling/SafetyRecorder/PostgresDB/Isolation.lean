import SafetyRecorder.PostgresDB.Stages

namespace SafetyRecorder

open Table Process

/-!
# PostgreSQL — isolation by row locks

What a transaction knows stays true until it ends, although the statements of other
transactions interleave with its own: whoever changes an incident holds its row, and
below an incident that is being deleted nothing is ever added.

* `TxFacts` — what a transaction knows holds of the committed rows;
* `Frame`, `Keeps` — what a call leaves alone, for everybody and for one other
  transaction;
* `TxFacts.keeps`, `TxFacts.write`, `TxFacts.learn` — the facts survive the calls of
  others, and own statements add to them;
* `PgInv`, `pgInv_update` — the invariant of the repository under concurrent use.
-/

/-- Who is in which phase. -/
abbrev Phases := Nat → Option PgPhase

section Facts

variable (env : Env) (w : PgWorld) (ts : Phases)

/-- The identifier was drawn, and nobody is about to use it. -/
def Settled (i : String) : Prop :=
  Issued env w.nextID i ∧ ∀ pid t, ts pid = some t → t.unspent ≠ some i

/-- The incident is not active and never will be. -/
def Condemned (i : String) : Prop := Settled env w ts i ∧ w.db.Inactive i

/-- What the transaction `x` knows and what it has written. -/
structure TxFacts (un : Option String) (k : TxKnow) (x : PgTx) : Prop where
  op : x.op = k.op
  describes : k.stage.Describes w.db x.writes
  justified : k.Justified un
  calm : ∀ p ∈ x.writes, p.write.Calm
  /-- It holds the incident rows it changes. -/
  held : ∀ p ∈ x.writes, ∀ i ∈ p.incidentRows, w.locks (.incidents, i) = some k.tx
  decisions : ∀ db, ∀ dec' ∈ (applyAll x.writes db).decisions,
    (∃ dec ∈ db.decisions, dec.incidentID = dec'.incidentID) ∨
      k.stage.decisionFor = some dec'.incidentID
  active : ∀ i, k.active = some i → w.locks (.incidents, i) = some k.tx ∧ w.db.Active i
  stream : ∀ l, k.stream = some l → k.active = some l.incidentID ∧ ∃ st ∈ w.db.streams,
    st.incidentID = l.incidentID ∧ st.id = l.id ∧ st.mediaType = l.mediaType ∧ st.status = .open
  count : ∀ n, k.count = some n → ∃ l, k.stream = some l ∧
    Contiguous w.db l.incidentID l.id l.mediaType n
  decision : ∀ i, k.decision = some i → Condemned env w ts i
  bare : ∀ i ∈ k.bare, Condemned env w ts i ∧ w.db.Childless i

end Facts

/-! ### Frames -/

/-- What a call leaves alone for everybody: a condemned incident stays condemned,
    and nothing is added below it. -/
structure Frame (env : Env) (w w' : PgWorld) (ts ts' : Phases) : Prop where
  settled : ∀ i, Settled env w ts i → Settled env w' ts' i
  inactive : ∀ i, Condemned env w ts i → w'.db.Inactive i
  chunks : ∀ i, Condemned env w ts i → ∀ c ∈ w'.db.chunks, c.incidentID = i → c ∈ w.db.chunks
  streams : ∀ i, Condemned env w ts i → ∀ st' ∈ w'.db.streams, st'.incidentID = i →
    ∃ st ∈ w.db.streams, st.incidentID = i ∧ st.id = st'.id

/-- What a call leaves alone for the transaction `tx`: its locks, and below an active
    incident it has locked the streams and the chunks. -/
structure Keeps (w w' : PgWorld) (tx : Nat) : Prop where
  locks : ∀ key, w.locks key = some tx → w'.locks key = some tx
  active : ∀ i, w.locks (.incidents, i) = some tx → w.db.Active i → w'.db.Active i
  streams : ∀ st ∈ w.db.streams, w.locks (.incidents, st.incidentID) = some tx →
    w.db.Active st.incidentID → st ∈ w'.db.streams
  chunks : ∀ i s, w.locks (.incidents, i) = some tx → w.db.Active i →
    w'.db.streamChunks i s = w.db.streamChunks i s

variable {env : Env} {w w' : PgWorld} {ts ts' : Phases} {un : Option String} {k : TxKnow} {x : PgTx}

theorem Frame.condemned (h : Frame env w w' ts ts') {i : String} (hi : Condemned env w ts i) :
    Condemned env w' ts' i :=
  ⟨h.settled i hi.1, h.inactive i hi⟩

theorem Frame.childless (h : Frame env w w' ts ts') {i : String} (hi : Condemned env w ts i)
    (hless : w.db.Childless i) : w'.db.Childless i := by
  constructor
  · intro st' hst' hinc
    obtain ⟨st, hst, hst', -⟩ := h.streams i hi st' hst' hinc
    exact hless.1 st hst hst'
  · intro c hc hinc
    exact hless.2 c (h.chunks i hi c hc hinc) hinc

/-- A call that leaves the committed rows alone. -/
theorem Frame.same (hdb : w'.db = w.db) (h : ∀ i, Settled env w ts i → Settled env w' ts' i) :
    Frame env w w' ts ts' := by
  refine ⟨h, fun i hi => ?_, fun i _ c hc _ => ?_, fun i _ st hst hinc => ?_⟩
  · rw [hdb]; exact hi.2
  · rwa [hdb] at hc
  · rw [hdb] at hst; exact ⟨st, hst, hinc, rfl⟩

theorem Keeps.same {tx : Nat} (hdb : w'.db = w.db)
    (h : ∀ key, w.locks key = some tx → w'.locks key = some tx) : Keeps w w' tx := by
  refine ⟨h, fun i _ hact => ?_, fun st hst _ _ => ?_, fun i s _ _ => ?_⟩
  · rw [hdb]; exact hact
  · rw [hdb]; exact hst
  · rw [hdb]

/-- **The facts survive the calls of others.** -/
theorem TxFacts.keeps (h : TxFacts env w ts un k x) (hf : Frame env w w' ts ts')
    (hk : Keeps w w' k.tx) : TxFacts env w' ts' un k x where
  op := h.op
  describes := by
    have hd := h.describes
    have hj := h.justified
    -- only a pruning speaks of the committed rows, and its incident is condemned
    cases hs : k.stage with
    | pruning i =>
      rw [hs] at hd
      simp only [TxKnow.Justified, hs] at hj
      obtain ⟨rows, hmem, hcover, hdb⟩ := hd
      have hcond := h.decision i hj.1
      exact ⟨rows, hmem, fun c hc hci => hcover c (hf.chunks i hcond c hc hci) hci, hdb⟩
    | pruned i =>
      rw [hs] at hd
      simp only [TxKnow.Justified, hs] at hj
      obtain ⟨rows, rows', hmem, hcover, hcover', hdb⟩ := hd
      have hcond := h.decision i hj.1
      refine ⟨rows, rows', hmem, fun c hc hci => hcover c (hf.chunks i hcond c hc hci) hci,
        fun st' hst' hinc' => ?_, hdb⟩
      obtain ⟨st, hst, hinc, hid⟩ := hf.streams i hcond st' hst' hinc'
      rw [← hid]
      exact hcover' st hst hinc
    | _ => rw [hs] at hd; exact hd
  justified := h.justified
  calm := h.calm
  held := fun p hp i hi => hk.locks _ (h.held p hp i hi)
  decisions := h.decisions
  active := fun i hi => by
    obtain ⟨hlock, hact⟩ := h.active i hi
    exact ⟨hk.locks _ hlock, hk.active i hlock hact⟩
  stream := fun l hl => by
    obtain ⟨hact, st, hst, hinc, hrest⟩ := h.stream l hl
    obtain ⟨hlock, hactive⟩ := h.active _ hact
    refine ⟨hact, st, hk.streams st hst ?_ ?_, hinc, hrest⟩
    · rw [hinc]; exact hlock
    · rw [hinc]; exact hactive
  count := fun n hn => by
    obtain ⟨l, hl, hcont⟩ := h.count n hn
    obtain ⟨hact, -⟩ := h.stream l hl
    obtain ⟨hlock, hactive⟩ := h.active _ hact
    exact ⟨l, hl, hcont.congr (hk.chunks _ _ hlock hactive)⟩
  decision := fun i hi => hf.condemned (h.decision i hi)
  bare := fun i hi => by
    obtain ⟨hcond, hless⟩ := h.bare i hi
    exact ⟨hf.condemned hcond, hf.childless hcond hless⟩

/-! ### Own statements -/

/-- **A write adds to what a transaction has pending.** -/
theorem TxFacts.write (h : TxFacts env w ts un k x) {wr : Write} (hallow : k.Allows un wr)
    (hlocks : ∀ key ∈ (Stmt.write wr).locks env (applyAll x.writes w.db), w.locks key = some k.tx) :
    TxFacts env w ts un { k with stage := k.stage.afterWrite wr }
      { x with writes := x.writes ++ [⟨wr, wr.rows env (applyAll x.writes w.db)⟩] } where
  op := h.op
  describes := by
    refine describes_write h.describes h.justified hallow (fun i hi => (h.active i hi).2) fun l hl => ?_
    obtain ⟨-, st, hst, hinc, hid, -⟩ := h.stream l hl
    exact ⟨st, hst, hinc, hid⟩
  justified := justified_write h.justified hallow
  calm := fun p hp => by
    rcases mem_append_row.mp hp with hold | hnew
    · exact h.calm p hold
    · rw [hnew]
      exact calm_of_allows hallow
  held := fun p hp i hi => by
    rcases mem_append_row.mp hp with hold | hnew
    · exact h.held p hold i hi
    · rw [hnew, Pending.incidentRows] at hi
      split at hi
      next htable => exact hlocks _ (List.mem_map.mpr ⟨i, hi, by rw [← htable]⟩)
      next => cases hi
  decisions := fun db dec' hdec' => by
    rw [applyAll_append] at hdec'
    rcases apply_decisions _ _ dec' hdec' with ⟨dec, hdec, hinc⟩ | ⟨row, hrow, hinc⟩
    · rcases h.decisions db dec hdec with ⟨dec₀, hdec₀, hinc₀⟩ | hfor
      · exact .inl ⟨dec₀, hdec₀, hinc₀.trans hinc⟩
      · exact .inr (decisionFor_write hallow (hinc ▸ hfor))
    · obtain rfl : wr = .insertDecision row := hrow
      exact .inr (by rw [← hinc]; rfl)
  active := h.active
  stream := h.stream
  count := h.count
  decision := h.decision
  bare := h.bare

/-- **A read teaches what it has seen**: before the first write a statement sees the
    committed rows. -/
theorem TxFacts.learn (h : TxFacts env w ts un k x) (hstart : k.stage = .start)
    (hdecided : ∀ dec ∈ w.db.decisions, Condemned env w ts dec.incidentID) (s : Stmt)
    (hlocks : ∀ key ∈ s.locks env w.db, w.locks key = some k.tx) :
    TxFacts env w ts un (k.learn s (s.result env w.db)) x := by
  cases s with
  | lockIncident i =>
    show TxFacts env w ts un (k.learn (.lockIncident i) (w.db.incident? i)) x
    cases hrow : w.db.incident? i with
    | none => exact h
    | some inc =>
      simp only [TxKnow.learn]
      split
      next hact =>
        have hmem : inc ∈ w.db.incidents := List.mem_of_find?_eq_some hrow
        have hid : inc.id = i := by simpa using List.find?_some hrow
        refine { h with
          justified := by simp [TxKnow.Justified, hstart]
          active := fun j hj => ?_
          stream := fun l hl => (by cases hl)
          count := fun n hn => (by cases hn) }
        cases hj
        refine ⟨hlocks _ ?_, inc, hmem, hid, hact⟩
        exact List.mem_map.mpr ⟨inc, List.mem_filter.mpr ⟨hmem, by simpa using hid⟩, by rw [hid]⟩
      next => exact h
  | lockStream i s =>
    show TxFacts env w ts un (k.learn (.lockStream i s) (w.db.stream? i s)) x
    cases hrow : w.db.stream? i s with
    | none => exact h
    | some st =>
      simp only [TxKnow.learn]
      split
      next hcond =>
        have hmem : st ∈ w.db.streams := List.mem_of_find?_eq_some hrow
        have hsel : st.incidentID = i ∧ st.id = s := by simpa using List.find?_some hrow
        refine { h with
          justified := by simp [TxKnow.Justified, hstart]
          stream := fun l hl => ?_
          count := fun n hn => (by cases hn) }
        cases hl
        exact ⟨hcond.1, st, hmem, hsel.1, hsel.2, rfl, hcond.2⟩
      next => exact h
  | lockAccount | write => exact h
  | read q =>
    cases q with
    | completionChunks i s =>
      show TxFacts env w ts un (k.learn (.read (.completionChunks i s)) (completionRows w.db i s)) x
      simp only [TxKnow.learn]
      split
      next => exact h
      next l hl =>
        split
        next hsel =>
          split
          next n hscan =>
            refine { h with
              justified := by simp [TxKnow.Justified, hstart]
              count := fun m hm => ?_ }
            cases hm
            obtain ⟨rfl, rfl⟩ := hsel
            exact ⟨l, hl, contiguous_of_scan hscan⟩
          next => exact h
        next => exact h
    | decision d =>
      show TxFacts env w ts un (k.learn (.read (.decision d)) (w.db.decision? d)) x
      cases hrow : w.db.decision? d with
      | none => exact h
      | some dec =>
        refine { h with
          justified := by simp [TxKnow.learn, TxKnow.Justified, hstart]
          decision := fun i hi => ?_ }
        cases hi
        exact hdecided dec (List.mem_of_find?_eq_some hrow)
    | tombstones cutoff limit =>
      refine { h with
        justified := by simp [TxKnow.learn, TxKnow.Justified, hstart]
        bare := fun i hi => ?_ }
      obtain ⟨hbare, dec, hdec, rfl, -⟩ := mem_pruneTombstoneIncidentIDs hi
      obtain ⟨hchunks, hstreams, -⟩ := DB.bare_rows hbare
      exact ⟨hdecided dec hdec, hstreams, hchunks⟩
    | _ => exact h

/-- **A statement that succeeds.** -/
theorem TxFacts.after (h : TxFacts env w ts un k x)
    (hdecided : ∀ dec ∈ w.db.decisions, Condemned env w ts dec.incidentID) (s : Stmt)
    (hallow : ∀ wr, s = .write wr → k.Allows un wr)
    (hlocks : ∀ key ∈ s.locks env (applyAll x.writes w.db), w.locks key = some k.tx) :
    TxFacts env w ts un (k.after s (s.result env (applyAll x.writes w.db)))
      { x with writes := x.writes ++ s.pending env (applyAll x.writes w.db) } := by
  by_cases hw : ∃ wr, s = .write wr
  · obtain ⟨wr, rfl⟩ := hw
    exact h.write (hallow wr rfl) hlocks
  have hpending : s.pending env (applyAll x.writes w.db) = [] := by
    cases s with
    | write wr => exact absurd ⟨wr, rfl⟩ hw
    | _ => rfl
  rw [hpending, List.append_nil]
  by_cases hstart : k.stage = .start
  · have hview : applyAll x.writes w.db = w.db := by
      have hd := h.describes
      rw [hstart] at hd
      have hnil : x.writes = [] := hd
      rw [hnil, applyAll_nil]
    have hafter : ∀ r, k.after s r = k.learn s r := by
      intro r
      cases s with
      | write wr => exact absurd ⟨wr, rfl⟩ hw
      | _ => simp only [TxKnow.after, hstart]
    rw [hafter]
    rw [hview] at hlocks ⊢
    exact h.learn hstart hdecided s hlocks
  · have hafter : ∀ r, k.after s r = k := by
      intro r
      cases s with
      | write wr => exact absurd ⟨wr, rfl⟩ hw
      | _ => simp only [TxKnow.after]
    rw [hafter]
    exact h

/-! ### The invariant -/

/-- The invariant of the repository under concurrent use. -/
structure PgInv (env : Env) (w : PgWorld) (ts : Phases) : Prop where
  below : ∀ pid t k, ts pid = some t → t.tx = some k → k.tx < w.nextTx
  distinct : ∀ pid pid' t t' k k', ts pid = some t → ts pid' = some t' → t.tx = some k →
    t'.tx = some k' → k.tx = k'.tx → pid = pid'
  issued : ∀ pid t u, ts pid = some t → t.unspent = some u → Issued env w.nextID u
  unshared : ∀ pid pid' t t' u, ts pid = some t → ts pid' = some t' → t.unspent = some u →
    t'.unspent = some u → pid = pid'
  incidents : ∀ inc ∈ w.db.incidents, Settled env w ts inc.id
  decided : ∀ dec ∈ w.db.decisions, Condemned env w ts dec.incidentID
  facts : ∀ pid t k x, ts pid = some t → t.tx = some k → w.txs k.tx = some x →
    TxFacts env w ts t.unspent k x

/-- A step keeps the invariant and what is settled. -/
structure Carries (env : Env) (w w' : PgWorld) (ts ts' : Phases) : Prop where
  inv : PgInv env w' ts'
  settled : ∀ i, Settled env w ts i → Settled env w' ts' i

variable {pid : Nat} {o : Option PgPhase}

/-- The phase that a process enters holds an identifier it held before, or one that
    was just drawn. -/
def Draws (env : Env) (w : PgWorld) (ts : Phases) (pid : Nat) (o : Option PgPhase) : Prop :=
  ∀ t' u, o = some t' → t'.unspent = some u →
    (∃ t, ts pid = some t ∧ t.unspent = some u) ∨ ¬ Issued env w.nextID u

theorem settled_update (hid : w.nextID ≤ w'.nextID) (ho : Draws env w ts pid o) {i : String}
    (h : Settled env w ts i) : Settled env w' (Function.update ts pid o) i := by
  refine ⟨h.1.mono hid, fun pid' t' ht' hun => ?_⟩
  obtain ⟨rfl, ho'⟩ | ⟨-, ht'⟩ := update_some ht'
  · rcases ho t' i ho' hun with ⟨t, ht, hold⟩ | hnew
    · exact h.2 _ t ht hold
    · exact hnew h.1
  · exact h.2 pid' t' ht' hun

/-- A phase that keeps its identifier. -/
theorem draws_of_phase {t : PgPhase} (ht : ts pid = some t) (k : Option TxKnow) :
    Draws env w ts pid (some { t with tx := k }) := by
  rintro _ u ⟨⟩ hu
  exact .inl ⟨t, ht, hu⟩

/-- The transaction of the new phase is new or the one the process had, and what the phase
    knows of it holds. -/
def OwnTx (env : Env) (w w' : PgWorld) (ts : Phases) (pid : Nat) (o : Option PgPhase) : Prop :=
  ∀ t k, o = some t → t.tx = some k → k.tx < w'.nextTx ∧
    (w.nextTx ≤ k.tx ∨ ∃ t₀ k₀, ts pid = some t₀ ∧ t₀.tx = some k₀ ∧ k₀.tx = k.tx) ∧
    ∀ x, w'.txs k.tx = some x → TxFacts env w' (Function.update ts pid o) t.unspent k x

/-- **One process moves.** The invariant holds afterwards when the call keeps what
    everybody and the other transactions know, and the mover's own knowledge holds. -/
theorem pgInv_update (hinv : PgInv env w ts)
    (hframe : Frame env w w' ts (Function.update ts pid o))
    (hkeeps : ∀ pid' t k x, pid' ≠ pid → ts pid' = some t → t.tx = some k →
      w'.txs k.tx = some x → w.txs k.tx = some x ∧ Keeps w w' k.tx)
    (htx : w.nextTx ≤ w'.nextTx) (hid : w.nextID ≤ w'.nextID)
    (hincidents : ∀ inc ∈ w'.db.incidents, Settled env w' (Function.update ts pid o) inc.id)
    (hdecided : ∀ dec ∈ w'.db.decisions, Condemned env w' (Function.update ts pid o) dec.incidentID)
    (howntx : OwnTx env w w' ts pid o) (hdraws : Draws env w ts pid o)
    (hissued : ∀ t u, o = some t → t.unspent = some u → Issued env w'.nextID u) :
    PgInv env w' (Function.update ts pid o) := by
  -- another process's transaction is not the mover's
  have hother : ∀ pid' t t' k k', pid' ≠ pid → o = some t → t.tx = some k → ts pid' = some t' →
      t'.tx = some k' → k.tx ≠ k'.tx := by
    intro pid' t t' k k' hp ho hk ht' hk' heq
    obtain ⟨-, hnew | ⟨t₀, k₀, ht₀, hk₀, hsame⟩, -⟩ := howntx t k ho hk
    · have := hinv.below pid' t' k' ht' hk'
      omega
    · exact hp (hinv.distinct pid' pid t' t₀ k' k₀ ht' ht₀ hk' hk₀ (heq.symm.trans hsame.symm))
  have hfresh : ∀ pid' t t' u, pid' ≠ pid → o = some t → t.unspent = some u → ts pid' = some t' →
      t'.unspent ≠ some u := by
    intro pid' t t' u hp ho hun ht' hun'
    rcases hdraws t u ho hun with ⟨t₀, ht₀, hold⟩ | hnew
    · exact hp (hinv.unshared pid' pid t' t₀ u ht' ht₀ hun' hold)
    · exact hnew (hinv.issued pid' t' u ht' hun')
  constructor
  case below =>
    intro pid' t k ht hk
    obtain ⟨-, ho⟩ | ⟨-, ht⟩ := update_some ht
    · exact (howntx t k ho hk).1
    · exact lt_of_lt_of_le (hinv.below pid' t k ht hk) htx
  case distinct =>
    intro p p' t t' k k' ht ht' hk hk' heq
    obtain ⟨hp, ho⟩ | ⟨hp, ht⟩ := update_some ht <;>
      obtain ⟨hp', ho'⟩ | ⟨hp', ht'⟩ := update_some ht'
    · rw [hp, hp']
    · exact absurd heq (hother p' t t' k k' hp' ho hk ht' hk')
    · exact absurd heq.symm (hother p t' t k' k hp ho' hk' ht hk)
    · exact hinv.distinct p p' t t' k k' ht ht' hk hk' heq
  case issued =>
    intro p t u ht hun
    obtain ⟨-, ho⟩ | ⟨-, ht⟩ := update_some ht
    · exact hissued t u ho hun
    · exact (hinv.issued p t u ht hun).mono hid
  case unshared =>
    intro p p' t t' u ht ht' hun hun'
    obtain ⟨hp, ho⟩ | ⟨hp, ht⟩ := update_some ht <;>
      obtain ⟨hp', ho'⟩ | ⟨hp', ht'⟩ := update_some ht'
    · rw [hp, hp']
    · exact absurd hun' (hfresh p' t t' u hp' ho hun ht')
    · exact absurd hun (hfresh p t' t u hp ho' hun' ht)
    · exact hinv.unshared p p' t t' u ht ht' hun hun'
  case incidents => exact hincidents
  case decided => exact hdecided
  case facts =>
    intro p t k x ht hk hx
    obtain ⟨-, ho⟩ | ⟨hp, ht⟩ := update_some ht
    · exact (howntx t k ho hk).2.2 x hx
    · obtain ⟨hx₀, hkeep⟩ := hkeeps p t k x hp ht hk hx
      exact (hinv.facts p t k x ht hk hx₀).keeps hframe hkeep

/-- The same, for a call that leaves the committed rows alone. -/
theorem pgInv_same (hinv : PgInv env w ts) (hdb : w'.db = w.db)
    (hothers : ∀ tx x, tx < w.nextTx → (∀ t k, ts pid = some t → t.tx = some k → k.tx ≠ tx) →
      w'.txs tx = some x → w.txs tx = some x ∧ ∀ key, w.locks key = some tx → w'.locks key = some tx)
    (htx : w.nextTx ≤ w'.nextTx) (hid : w.nextID ≤ w'.nextID)
    (howntx : OwnTx env w w' ts pid o) (hdraws : Draws env w ts pid o)
    (hissued : ∀ t u, o = some t → t.unspent = some u → Issued env w'.nextID u) :
    Carries env w w' ts (Function.update ts pid o) := by
  have hframe : Frame env w w' ts (Function.update ts pid o) :=
    Frame.same hdb fun i hi => settled_update hid hdraws hi
  refine ⟨pgInv_update hinv hframe ?_ htx hid ?_ ?_ howntx hdraws hissued, hframe.settled⟩
  · intro pid' t k x hp ht hk hx
    have hne : ∀ t₀ k₀, ts pid = some t₀ → t₀.tx = some k₀ → k₀.tx ≠ k.tx := fun t₀ k₀ ht₀ hk₀ heq =>
      hp (hinv.distinct pid' pid t t₀ k k₀ ht ht₀ hk hk₀ heq.symm)
    obtain ⟨hx₀, hlocks⟩ := hothers k.tx x (hinv.below pid' t k ht hk) hne hx
    exact ⟨hx₀, Keeps.same hdb hlocks⟩
  · intro inc hinc
    rw [hdb] at hinc
    exact hframe.settled _ (hinv.incidents inc hinc)
  · intro dec hdec
    rw [hdb] at hdec
    exact hframe.condemned (hinv.decided dec hdec)

/-- The new phase knows nothing that the process did not know before. -/
def Forgets (ts : Phases) (pid : Nat) (o : Option PgPhase) : Prop :=
  ∀ t', o = some t' →
    (t'.tx = none ∨ ∃ t, ts pid = some t ∧ t.tx = t'.tx ∧ t.unspent = t'.unspent) ∧
    ∀ u, t'.unspent = some u → ∃ t, ts pid = some t ∧ t.unspent = some u

/-- The database server is as before, up to a transaction that has ended. -/
def Ends (w w' : PgWorld) : Prop := w' = w ∨ ∃ tx, w' = w.close tx

theorem Ends.same (h : Ends w w') :
    w'.db = w.db ∧ w'.nextTx = w.nextTx ∧ w'.nextID = w.nextID := by
  rcases h with rfl | ⟨tx, rfl⟩ <;> exact ⟨rfl, rfl, rfl⟩

/-- A transaction that goes on keeps its locks when another one ends. -/
theorem Ends.keeps (h : Ends w w') {tx : Nat} (hx : w'.txs tx = some x) :
    w.txs tx = some x ∧ ∀ key, w.locks key = some tx → w'.locks key = some tx := by
  rcases h with rfl | ⟨tx', rfl⟩
  · exact ⟨hx, fun _ h => h⟩
  · have hne : tx ≠ tx' := by
      rintro rfl
      simp only [PgWorld.close, Function.update_self] at hx
      cases hx
    simp only [PgWorld.close, Function.update_of_ne hne] at hx
    refine ⟨hx, fun key hkey => ?_⟩
    rw [PgWorld.close]
    simp [hkey, hne]

theorem Forgets.draws (h : Forgets ts pid o) : Draws env w ts pid o :=
  fun t' u ho hun => .inl ((h t' ho).2 u hun)

/-- **Calls that only end a transaction or forget.** -/
theorem pgInv_forget (hinv : PgInv env w ts) (ho : Forgets ts pid o) (hends : Ends w w') :
    Carries env w w' ts (Function.update ts pid o) := by
  obtain ⟨hdb, hnextTx, hnextID⟩ := hends.same
  refine pgInv_same hinv hdb (fun tx x _ _ hx => hends.keeps hx) hnextTx.ge hnextID.ge ?_ ho.draws ?_
  · intro t' k ht' hk
    rcases (ho t' ht').1 with hnone | ⟨t, ht, htx, hun⟩
    · rw [hnone] at hk
      cases hk
    · rw [← htx] at hk
      refine ⟨hnextTx ▸ hinv.below pid t k ht hk, .inr ⟨t, k, ht, hk, rfl⟩, fun x hx => ?_⟩
      obtain ⟨hx₀, hlocks⟩ := hends.keeps hx
      rw [← hun]
      refine (hinv.facts pid t k x ht hk hx₀).keeps (Frame.same hdb fun i hi => ?_)
        (Keeps.same hdb hlocks)
      exact settled_update hnextID.ge ho.draws hi
  · intro t' u ht' hun'
    obtain ⟨t, ht, hun⟩ := (ho t' ht').2 u hun'
    exact (hinv.issued pid t u ht hun).mono hnextID.ge

/-- Staying in a phase, or dropping the transaction or the identifier. -/
theorem forgets_of_phase {t t' : PgPhase} (ht : ts pid = some t) (htx : t'.tx = none ∨ t' = t)
    (hun : t'.unspent = none ∨ t'.unspent = t.unspent) : Forgets ts pid (some t') := by
  rintro t'' ⟨⟩
  constructor
  · rcases htx with hnone | rfl
    · exact .inl hnone
    · exact .inr ⟨t', ht, rfl, rfl⟩
  · intro u hu
    rcases hun with hnone | hsame
    · rw [hnone] at hu
      cases hu
    · exact ⟨t, ht, hsame ▸ hu⟩

/-- An identifier is no fact that a transaction rests on before it creates a
    stream. -/
theorem TxFacts.unspent (h : TxFacts env w ts un k x) (hstage : ∀ row, k.stage ≠ .create row)
    (un' : Option String) : TxFacts env w ts un' k x := by
  refine { h with justified := ?_ }
  have hj := h.justified
  unfold TxKnow.Justified at hj ⊢
  cases hs : k.stage with
  | create row => exact absurd hs (hstage row)
  | _ => rw [hs] at hj; exact hj

theorem pgInv_newID {t : PgPhase} {p : String} (hinv : PgInv env w ts) (ht : ts pid = some t)
    (hallow : t.Allowed (.newID p)) :
    Carries env w { w with nextID := w.nextID + 1 } ts
      (Function.update ts pid (some { t with unspent := some (env.newID p w.nextID) })) := by
  have hdraws : Draws env w ts pid (some { t with unspent := some (env.newID p w.nextID) }) := by
    rintro t' u ⟨⟩ hu
    cases hu
    exact .inr fun hissued => hissued.ne_newID (le_refl _) rfl
  refine pgInv_same hinv rfl (fun tx x _ _ hx => ⟨hx, fun _ h => h⟩) (le_refl _) (Nat.le_succ _) ?_
    hdraws ?_
  · rintro t' k ⟨⟩ hk
    refine ⟨hinv.below pid t k ht hk, .inr ⟨t, k, ht, hk, rfl⟩, fun x hx => ?_⟩
    have hfacts := (hinv.facts pid t k x ht hk hx).unspent (fun row => hallow k row hk)
      (some (env.newID p w.nextID))
    refine hfacts.keeps ?_ ?_
    · exact Frame.same rfl fun i hi => settled_update (Nat.le_succ _) hdraws hi
    · exact Keeps.same rfl fun _ h => h
  · rintro t' u ⟨⟩ hu
    cases hu
    exact ⟨p, w.nextID, Nat.lt_succ_self _, rfl⟩

theorem pgInv_beginTx {t : PgPhase} {op : PgOp} (hinv : PgInv env w ts) (ht : ts pid = some t) :
    Carries env w
      { w with
        txs := Function.update w.txs w.nextTx (some ⟨op, []⟩)
        nextTx := w.nextTx + 1 } ts
      (Function.update ts pid (some { t with tx := some { tx := w.nextTx, op := op } })) := by
  refine pgInv_same hinv rfl ?_ (Nat.le_succ _) (le_refl _) ?_ (draws_of_phase ht _) ?_
  · intro tx x hlt _ hx
    simp only [Function.update_of_ne (Nat.ne_of_lt hlt)] at hx
    exact ⟨hx, fun _ h => h⟩
  · rintro t' k ⟨⟩ hk
    cases hk
    refine ⟨Nat.lt_succ_self _, .inl (le_refl _), fun x hx => ?_⟩
    simp only [Function.update_self] at hx
    cases hx
    -- it has read nothing and written nothing
    constructor
    case op => rfl
    case describes => rfl
    case justified => trivial
    case calm => exact fun p hp => (by cases hp)
    case held => exact fun p hp => (by cases hp)
    case decisions => exact fun db dec hdec => .inl ⟨dec, hdec, rfl⟩
    case active => exact fun i hi => (by cases hi)
    case stream => exact fun l hl => (by cases hl)
    case count => exact fun n hn => (by cases hn)
    case decision => exact fun i hi => (by cases hi)
    case bare => exact fun i hi => (by cases hi)
  · rintro t' u ⟨⟩ hu
    exact hinv.issued pid t u ht hu

/-- The locks after a statement that did not have to wait: its own rows are held by
    its transaction, and nobody has lost a lock. -/
theorem locks_of_not_waits {tx : Nat} {keys : List RowKey} (h : w.waits (some tx) keys = false)
    {tx' : Nat} {key : RowKey} (hkey : w.locks key = some tx') :
    (if key ∈ keys then some tx else w.locks key) = some tx' := by
  split
  next hmem =>
    have hfree := List.any_eq_false.mp h key hmem
    rw [hkey] at hfree
    have heq : tx' = tx := by
      by_contra hne
      exact hfree (by simp [hne])
    rw [heq]
  next => exact hkey

theorem pgInv_stmt {t : PgPhase} {s : Stmt} (hinv : PgInv env w ts) (ht : ts pid = some t)
    (hk : t.tx = some k) (hallow : ∀ wr, s = .write wr → k.Allows t.unspent wr)
    (hx : w.txs k.tx = some x)
    (hwait : w.waits (some k.tx) (s.locks env (applyAll x.writes w.db)) = false) :
    Carries env w
      { w with
        txs := Function.update w.txs k.tx
          (some { x with writes := x.writes ++ s.pending env (applyAll x.writes w.db) })
        locks := fun key =>
          if key ∈ s.locks env (applyAll x.writes w.db) then some k.tx else w.locks key } ts
      (Function.update ts pid
        (some { t with tx := some (k.after s (s.result env (applyAll x.writes w.db))) })) := by
  refine pgInv_same hinv rfl ?_ (le_refl _) (le_refl _) ?_ (draws_of_phase ht _) ?_
  · intro tx x' _ hne hx'
    simp only [Function.update_of_ne (hne t k ht hk).symm] at hx'
    exact ⟨hx', fun key hkey => locks_of_not_waits hwait hkey⟩
  · rintro t' k' ⟨⟩ hk'
    cases hk'
    rw [k.after_tx]
    refine ⟨hinv.below pid t k ht hk, .inr ⟨t, k, ht, hk, rfl⟩, fun x' hx' => ?_⟩
    simp only [Function.update_self] at hx'
    cases hx'
    -- the facts hold with the new locks, and the statement adds to them
    have hframe : Frame env w
        { w with
          txs := Function.update w.txs k.tx
            (some { x with writes := x.writes ++ s.pending env (applyAll x.writes w.db) })
          locks := fun key =>
            if key ∈ s.locks env (applyAll x.writes w.db) then some k.tx else w.locks key } ts _ :=
      Frame.same rfl fun i hi => settled_update (le_refl _)
        (draws_of_phase ht (some (k.after s (s.result env (applyAll x.writes w.db))))) hi
    have hfacts := (hinv.facts pid t k x ht hk hx).keeps hframe
      (Keeps.same rfl fun key hkey => locks_of_not_waits hwait hkey)
    refine hfacts.after (fun dec hdec => hframe.condemned (hinv.decided dec hdec)) s hallow ?_
    intro key hkey
    exact if_pos hkey
  · rintro t' u ⟨⟩ hu
    exact hinv.issued pid t u ht hu

end SafetyRecorder
