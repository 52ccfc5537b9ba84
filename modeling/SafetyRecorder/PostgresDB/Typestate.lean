import SafetyRecorder.PostgresDB.Repository

namespace SafetyRecorder

open Process Protocol

/-!
# PostgreSQL — what a transaction knows

A repository method learns facts from the rows it reads under lock, and what it
writes is justified by them.  `PgPhase` records both, and `pgDiscipline` is the
protocol that ties the writes to the facts:

* a stream, a chunk or a decision is written below an incident that the transaction
  holds locked and has seen active;
* a stream is finished after it was seen open under lock, and completed after its
  chunk rows were seen contiguous;
* chunks and streams are deleted below an incident with a deletion decision, both
  in one transaction of `CompleteIncidentDeletion`.

`pgMain_follows` — every method of the repository follows the discipline.
-/

/-- What a transaction has written so far. -/
inductive Stage
  | start
  /-- Rows besides streams and chunks, and these bare incidents deleted. -/
  | clean (dropped : List String)
  /-- A decision for the incident whose state is still to be set. -/
  | deciding (incidentID : String)
  /-- A decision for the incident, and its state. -/
  | decided (incidentID : String)
  | create (row : MediaStream)
  | chunk (row : Chunk)
  | completed (incidentID streamID : String) (expectedChunkCount : Int) (now : Time)
  | failed (incidentID streamID reason : String) (now : Time)
  /-- The chunks of the incident are deleted, its streams are not. -/
  | pruning (incidentID : String)
  | pruned (incidentID : String)

/-- A transaction may commit in this stage. -/
def Stage.Committable : Stage → Prop
  | deciding _ | pruning _ => False
  | _ => True

/-- A stream row as it was seen under lock. -/
structure LockedStream where
  incidentID : String
  id : String
  mediaType : MediaType

/-- What a transaction knows of the committed rows. -/
structure TxKnow where
  tx : Nat
  op : PgOp
  stage : Stage := .start
  /-- An incident it has locked and seen active. -/
  active : Option String := none
  /-- A stream of that incident it has seen open. -/
  stream : Option LockedStream := none
  /-- The number of that stream's chunks, seen to be contiguous. -/
  count : Option Int := none
  /-- An incident whose decision it has read. -/
  decision : Option String := none
  /-- Incidents it has seen deleted and without rows. -/
  bare : List String := []

/-- What a repository method knows. -/
structure PgPhase where
  /-- An identifier it has drawn and not yet used. -/
  unspent : Option String := none
  /-- Its transaction. -/
  tx : Option TxKnow := none

/-- The writes that touch neither incidents nor streams nor chunks and add no
    decision. -/
def Write.inert : Write → Bool
  | insertItem _ | setItemCount .. | claimDecision .. | itemDeleted .. | itemFailed ..
  | insertAuditEvent _ | deleteItems _ | decisionDeleted .. | decisionFailed .. => true
  | deleteChildren .chunks _ | deleteChildren .streams _ => false
  | deleteChildren .. => true
  | _ => false

/-- The statements after which more is known. -/
def Stmt.teaches : Stmt → Bool
  | lockIncident _ | lockStream .. | write _ | read (.completionChunks ..) | read (.decision _)
  | read (.tombstones ..) => true
  | _ => false

namespace Stage

/-- Streams and chunks are as they were, up to deleted bare incidents. -/
def Untouched : Stage → Prop
  | start | clean _ => True
  | _ => False

/-- The stage after an inert write. -/
def afterInert : Stage → Stage
  | start => clean []
  | s => s

/-- The stage after a write. -/
def afterWrite (s : Stage) (w : Write) : Stage :=
  match w, s with
  | .insertStream row, _ => create row
  | .insertChunk row, _ => chunk row
  | .completeStream i st n now, _ => completed i st n now
  | .failStream i st reason now, _ => failed i st reason now
  | .insertDecision row, _ => deciding row.incidentID
  | .setDeletionState _ _ _, deciding i => decided i
  | .deleteChildren .chunks i, _ => pruning i
  | .deleteChildren .streams i, _ => pruned i
  | .deleteIncident i, clean ds => clean (i :: ds)
  | .deleteIncident i, start => clean [i]
  | _, s => s.afterInert

end Stage

namespace TxKnow

/-- The write is justified by what the transaction knows. -/
def Allows (k : TxKnow) (unspent : Option String) : Write → Prop
  | .insertStream row => k.stage = .start ∧ k.active = some row.incidentID ∧
      unspent = some row.id ∧ row.status = .open
  | .insertChunk row => k.stage = .start ∧ k.active = some row.incidentID ∧
      (row.streamID = "" ∨ ∃ st, k.stream = some st ∧ st.id = row.streamID)
  | .completeStream i s n _ => k.stage = .start ∧ k.count = some n ∧
      ∃ st, k.stream = some st ∧ st.incidentID = i ∧ st.id = s
  | .failStream i s _ _ => k.stage = .start ∧ ∃ st, k.stream = some st ∧ st.incidentID = i ∧ st.id = s
  | .insertDecision row => k.stage = .start ∧ k.active = some row.incidentID
  | .closeIncident .. => k.stage.Untouched
  | .tombstone .. => k.stage.Untouched ∨ ∃ i, k.stage = .pruned i
  | .setDeletionState i state _ => state ≠ .active ∧ (k.stage.Untouched ∨ k.stage = .deciding i)
  | .deleteChildren .chunks i => (k.stage = .start ∨ k.stage = .clean []) ∧ k.decision = some i ∧
      ∃ d, k.op = .completeIncidentDeletion d
  | .deleteChildren .streams i => k.stage = .pruning i
  | .deleteIncident i => k.stage.Untouched ∧ i ∈ k.bare
  | .insertIncident _ => False
  | w => w.inert = true

/-- What a read teaches; facts are learned before the first write only. -/
def learn (k : TxKnow) : (s : Stmt) → s.Result → TxKnow
  | .lockIncident i, (some inc : Option Incident) =>
    if inc.deletionState = .active then { k with active := some i, stream := none, count := none }
    else k
  | .lockStream i s, (some st : Option MediaStream) =>
    if k.active = some i ∧ st.status = .open then
      { k with stream := some ⟨i, s, st.mediaType⟩, count := none }
    else k
  | .read (.completionChunks i s), (rows : List Chunk) =>
    match k.stream with
    | none => k
    | some st =>
      if st.incidentID = i ∧ st.id = s then
        match scanCompletionChunks st.mediaType 0 rows with
        | .ok n => { k with count := some n }
        | .error _ => k
      else k
  | .read (.decision _), (some dec : Option DeletionDecision) =>
    { k with decision := some dec.incidentID }
  | .read (.tombstones _ _), (ids : List String) => { k with bare := ids }
  | _, _ => k

/-- What the transaction knows after a statement. -/
def after (k : TxKnow) : (s : Stmt) → s.Result → TxKnow
  | .write w, _ => { k with stage := k.stage.afterWrite w }
  | s, r =>
    match k.stage with
    | .start => k.learn s r
    | _ => k

end TxKnow

namespace PgPhase

/-- The calls allowed in a phase. -/
def Allowed (t : PgPhase) : PgCall → Prop
  | .newID _ => ∀ k row, t.tx = some k → k.stage ≠ .create row
  | .beginTx _ => t.tx = none
  | .stmt tx s => ∃ k, t.tx = some k ∧ k.tx = tx ∧ ∀ w, s = .write w → k.Allows t.unspent w
  | .commit tx => ∃ k, t.tx = some k ∧ k.tx = tx ∧ k.stage.Committable
  | .exec w => t.tx = none ∧
      ((∃ row, w = .insertIncident row ∧ t.unspent = some row.id) ∨ w.inert = true)
  | _ => True

/-- The phase after `BeginTx`. -/
def afterBegin (t : PgPhase) (op : PgOp) : Except PgError Nat → PgPhase
  | .ok tx => { t with tx := some { tx := tx, op := op } }
  | .error _ => t

/-- The phase after a statement. -/
def afterStmt (t : PgPhase) (s : Stmt) : Except PgError s.Result → PgPhase
  | .ok r => { t with tx := t.tx.map fun k => k.after s r }
  | .error _ => t

/-- The phase after a call was answered. -/
def next (t : PgPhase) : (c : PgCall) → PgAnswer c → PgPhase
  | .newID _, id => { t with unspent := some id }
  | .beginTx op, a => t.afterBegin op a
  | .stmt _ s, a => t.afterStmt s a
  | .commit _, _ => {}
  | .rollback tx, _ => if t.tx.any (·.tx == tx) then { t with tx := none } else t
  | .exec _, _ => { t with unspent := none }
  | _, _ => t

end PgPhase

/-- The discipline of the repository methods. -/
def pgDiscipline : Protocol PgCall PgAnswer PgPhase where
  allowed := PgPhase.Allowed
  next := PgPhase.next

/-! ### Rules -/

/-- The program has no transaction open. -/
def Idle {α : Type} (t : PgPhase) (_ : α) : Prop := t.tx = none

/-- The body of a transaction leaves it open and, unless it failed, ready to
    commit. -/
def InBody {α : Type} (tx : Nat) (t : PgPhase) (r : Except RepoError α) : Prop :=
  ∃ k, t.tx = some k ∧ k.tx = tx ∧ ∀ a, r = .ok a → k.stage.Committable

/-- A part of a body after which the rest `f` follows. -/
def Then {α β : Type} (tx : Nat) (f : α → PgM β) (t : PgPhase) (r : Except RepoError α) : Prop :=
  (∀ a, r = .ok a → pgDiscipline.Follows (InBody tx) t (f a).run) ∧
    ∀ e, r = .error e → InBody (α := β) tx t (.error e)

/-- The method follows the discipline between transactions. -/
def FollowsIdle {α : Type} (x : PgM α) : Prop :=
  ∀ t : PgPhase, t.tx = none → pgDiscipline.Follows Idle t x.run

variable {α β : Type} {un : Option String} {k : TxKnow} {tx : Nat}

/-- The rest of a body follows the discipline. -/
abbrev Body (tx : Nat) (un : Option String) (k : TxKnow) (x : PgM β) : Prop :=
  pgDiscipline.Follows (InBody tx) ⟨un, some k⟩ x.run

/-- What a program promises of its end allows the transaction to fail. -/
class Aborts (tx : Nat) (Q : PgPhase → Except RepoError α → Prop) : Prop where
  error {un : Option String} {k : TxKnow} {e : RepoError} : k.tx = tx → Q ⟨un, some k⟩ (.error e)

/-- A failed body leaves its transaction open. -/
theorem inBody_error {e : RepoError} (hk : k.tx = tx) :
    InBody (α := α) tx ⟨un, some k⟩ (.error e) := ⟨k, rfl, hk, fun _ h => (by cases h)⟩

/-- A body ends in a stage that can commit. -/
theorem inBody_ok {a : α} (hk : k.tx = tx) (h : k.stage.Committable) :
    InBody tx ⟨un, some k⟩ (.ok a) := ⟨k, rfl, hk, fun _ _ => h⟩

theorem then_ok {f : α → PgM β} {t : PgPhase} {a : α}
    (h : pgDiscipline.Follows (InBody tx) t (f a).run) : Then tx f t (.ok a) :=
  ⟨fun _ ha => (by cases ha; exact h), fun _ he => (by cases he)⟩

instance : Aborts (α := α) tx (InBody tx) := ⟨inBody_error⟩

instance {f : α → PgM β} : Aborts tx (Then tx f) :=
  ⟨fun hk => ⟨fun _ ha => (by cases ha), fun _ he => (by cases he; exact inBody_error hk)⟩⟩

/-- What a statement teaches leaves the transaction the same. -/
theorem TxKnow.after_tx (k : TxKnow) (s : Stmt) (r : s.Result) : (k.after s r).tx = k.tx := by
  unfold after
  split
  · rfl
  · split
    · unfold learn
      repeat' split
      all_goals rfl
    · rfl

/-- Other reads leave the knowledge as it was. -/
theorem TxKnow.after_of_not_teaches (k : TxKnow) {s : Stmt} {r : s.Result} (hs : s.teaches = false) :
    k.after s r = k := by
  cases s with
  | lockAccount a =>
    simp only [after]
    split <;> rfl
  | read q =>
    cases q with
    | completionChunks | decision | tombstones => cases hs
    | _ =>
      simp only [after]
      split <;> rfl
  | _ => cases hs

/-- A part of a body, and the rest. -/
theorem follows_part {x : PgM α} {f : α → PgM β}
    (h : pgDiscipline.Follows (Then tx f) ⟨un, some k⟩ x.run) : Body tx un k (x >>= f) :=
  follows_seq h

section Rules

variable {Q : PgPhase → Except RepoError β → Prop} [Aborts tx Q] {e : RepoError}
  {onError : PgError → RepoError}

theorem follows_statement {s : Stmt} {f : s.Result → PgM β} (hk : k.tx = tx)
    (hwrite : ∀ w, s = .write w → k.Allows un w)
    (hf : ∀ r, pgDiscipline.Follows Q ⟨un, some (k.after s r)⟩ (f r).run) :
    pgDiscipline.Follows Q ⟨un, some k⟩ (statement tx s onError >>= f).run := by
  refine ⟨⟨k, rfl, hk, hwrite⟩, fun a => ?_⟩
  cases a with
  | ok r => exact hf r
  | error e => exact Aborts.error hk

/-- A plain read or a read under lock needs no justification. -/
theorem follows_look {s : Stmt} {f : s.Result → PgM β} (hk : k.tx = tx) (hs : ∀ w, s ≠ .write w)
    (hf : ∀ r, (k.after s r).tx = tx →
      pgDiscipline.Follows Q ⟨un, some (k.after s r)⟩ (f r).run) :
    pgDiscipline.Follows Q ⟨un, some k⟩ (statement tx s onError >>= f).run :=
  follows_statement hk (fun w h => absurd h (hs w)) fun r => hf r ((k.after_tx s r).trans hk)

/-- A statement that teaches nothing. -/
theorem follows_read {s : Stmt} {f : s.Result → PgM β} (hk : k.tx = tx) (hs : s.teaches = false)
    (hf : ∀ r, pgDiscipline.Follows Q ⟨un, some k⟩ (f r).run) :
    pgDiscipline.Follows Q ⟨un, some k⟩ (statement tx s onError >>= f).run := by
  refine follows_look hk (fun w hw => ?_) fun r _ => ?_
  · subst hw
    cases hs
  · rw [k.after_of_not_teaches hs]
    exact hf r

theorem follows_write {w : Write} {f : Nat → PgM β} (hk : k.tx = tx) (hw : k.Allows un w)
    (hf : ∀ n, pgDiscipline.Follows Q
      ⟨un, some { k with stage := k.stage.afterWrite w }⟩ (f n).run) :
    pgDiscipline.Follows Q ⟨un, some k⟩ (statement tx (.write w) onError >>= f).run :=
  follows_statement hk (fun _ h => by cases h; exact hw) hf

theorem follows_requireRow {row : Option α} {f : α → PgM β} (hk : k.tx = tx)
    (hf : ∀ r, row = some r → pgDiscipline.Follows Q ⟨un, some k⟩ (f r).run) :
    pgDiscipline.Follows Q ⟨un, some k⟩ (requireRow row e >>= f).run := by
  cases row with
  | none => exact Aborts.error hk
  | some r => exact hf r rfl

theorem follows_requirePg {c : Prop} [Decidable c] {f : Unit → PgM β} (hk : k.tx = tx)
    (hf : c → pgDiscipline.Follows Q ⟨un, some k⟩ (f ()).run) :
    pgDiscipline.Follows Q ⟨un, some k⟩ (requirePg c e >>= f).run := by
  unfold requirePg
  split
  next hc => exact hf hc
  next => exact Aborts.error hk

/-- A condition that ends a part. -/
theorem follows_lastRequire {Q : PgPhase → Except RepoError Unit → Prop} [Aborts tx Q] {c : Prop}
    [Decidable c] (hk : k.tx = tx) (hf : c → Q ⟨un, some k⟩ (.ok ())) :
    pgDiscipline.Follows Q ⟨un, some k⟩ (requirePg c e).run := by
  unfold requirePg
  split
  next hc => exact hf hc
  next => exact Aborts.error hk

end Rules

theorem follows_inTx {op : PgOp} {body : Nat → PgM α}
    (hbody : ∀ tx un, pgDiscipline.Follows (InBody tx) ⟨un, some { tx := tx, op := op }⟩ (body tx).run) :
    FollowsIdle (inTx op body) := by
  rintro ⟨un, k⟩ rfl
  refine ⟨rfl, fun a => ?_⟩
  cases a with
  | error e => exact rfl
  | ok tx =>
    show pgDiscipline.Follows Idle ⟨un, some { tx := tx, op := op }⟩ ((body tx).run >>= _)
    refine follows_bind (Follows.mono ?_ (hbody tx un))
    rintro ⟨un', k'⟩ r ⟨k, rfl, rfl, hcommit⟩
    cases r with
    | error e =>
      refine ⟨trivial, fun u => ?_⟩
      show (PgPhase.next ⟨un', some k⟩ (.rollback k.tx) u).tx = none
      simp [PgPhase.next]
    | ok r =>
      refine ⟨⟨k, rfl, rfl, hcommit r rfl⟩, fun a => ?_⟩
      cases a <;> exact rfl

/-- A method that goes on after another one. -/
theorem FollowsIdle.seq {x : PgM α} {f : α → PgM β} (hx : FollowsIdle x)
    (hf : ∀ a, FollowsIdle (f a)) : FollowsIdle (x >>= f) := by
  intro t ht
  refine follows_seq (Follows.mono ?_ (hx t ht))
  intro t' r ht'
  exact ⟨fun a _ => hf a t' ht', fun e _ => ht'⟩

theorem followsIdle_time {f : Time → PgM β} (hf : ∀ now, FollowsIdle (f now)) :
    FollowsIdle (pgPerform .timeNow >>= f) :=
  fun t ht => ⟨trivial, fun now => hf now t ht⟩

theorem followsIdle_pure (a : α) : FollowsIdle (pure a : PgM α) := fun _ ht => ht

theorem followsIdle_throw (e : RepoError) : FollowsIdle (throw e : PgM α) := fun _ ht => ht

theorem followsIdle_requireRow (row : Option α) (e : RepoError) : FollowsIdle (requireRow row e) := by
  cases row with
  | none => exact followsIdle_throw e
  | some r => exact followsIdle_pure r

theorem followsIdle_requirePg (c : Prop) [Decidable c] (e : RepoError) :
    FollowsIdle (requirePg c e) := by
  unfold requirePg
  split
  · exact followsIdle_pure ()
  · exact followsIdle_throw e

/-! ### Incidents and streams -/

namespace Postgres

theorem createIncidentForAccount_follows (a : String) (p : CreateIncidentParams) :
    FollowsIdle (createIncidentForAccount a p) := by
  refine followsIdle_time fun now t ht => ?_
  refine follows_call_then (fun k row hk => absurd (ht.symm.trans hk) (by simp)) fun id => ?_
  refine follows_call_then ⟨ht, .inl ⟨_, rfl, rfl⟩⟩ fun answer => ?_
  cases answer with
  | ok | error => exact ht

theorem getIncident_follows (i : String) : FollowsIdle (getIncident i) := by
  intro t ht
  refine follows_call_then trivial fun answer => ?_
  cases answer with
  | ok row => exact followsIdle_requireRow row _ t ht
  | error e => exact ht

theorem getMediaStream_follows (i s : String) : FollowsIdle (getMediaStream i s) := by
  intro t ht
  refine follows_call_then trivial fun answer => ?_
  cases answer with
  | ok row => exact followsIdle_requireRow row _ t ht
  | error e => exact ht

/-- An incident that was locked and is active is known to be. -/
theorem after_lockIncident {i : String} {inc : Incident} {row : Option Incident}
    (hstart : k.stage = .start) (hrow : row = some inc) (hactive : inc.deletionState = .active) :
    k.after (.lockIncident i) row = { k with active := some i, stream := none, count := none } := by
  subst hrow
  simp [TxKnow.after, TxKnow.learn, hstart, hactive]

/-- After `lockActiveIncident` the incident is known to be active. -/
theorem lockActiveIncident_follows {i : String} {f : Unit → PgM β} (hk : k.tx = tx)
    (hstart : k.stage = .start)
    (hf : Body tx un { k with active := some i, stream := none, count := none } (f ())) :
    Body tx un k (lockActiveIncident tx i >>= f) := by
  refine follows_part (x := lockActiveIncident tx i) ?_
  refine follows_look hk (by simp) fun row hk' => ?_
  refine follows_requireRow hk' fun inc hrow => ?_
  refine follows_lastRequire hk' fun hactive => then_ok ?_
  rw [after_lockIncident hstart hrow hactive]
  exact hf

/-- A stream of the incident that was locked and is open is known to be. -/
theorem after_lockStream {i s : String} {st : MediaStream} {row : Option MediaStream}
    (hstart : k.stage = .start) (hactive : k.active = some i) (hrow : row = some st)
    (hopen : st.status = .open) :
    k.after (.lockStream i s) row =
      { k with stream := some ⟨i, s, st.mediaType⟩, count := none } := by
  subst hrow
  simp [TxKnow.after, TxKnow.learn, hstart, hactive, hopen]

/-- After `lockOpenMediaStream` the stream is known to be open. -/
theorem lockOpenMediaStream_follows {i s : String} {f : MediaType → PgM β} (hk : k.tx = tx)
    (hstart : k.stage = .start) (hactive : k.active = some i)
    (hf : ∀ m, Body tx un { k with stream := some ⟨i, s, m⟩, count := none } (f m)) :
    Body tx un k (lockOpenMediaStream tx i s >>= f) := by
  refine follows_part (x := lockOpenMediaStream tx i s) ?_
  refine follows_look hk (by simp) fun row hk' => ?_
  refine follows_requireRow hk' fun st hrow => ?_
  refine follows_requirePg hk' fun hopen => then_ok ?_
  rw [after_lockStream hstart hactive hrow hopen]
  exact hf st.mediaType

/-- After `validateCompleteStreamChunkRows` the chunk rows are known to be
    contiguous. -/
theorem validateCompleteStreamChunkRows_follows {i s : String} {m : MediaType} {n : Int}
    {f : Unit → PgM β} (hk : k.tx = tx) (hstart : k.stage = .start)
    (hstream : k.stream = some ⟨i, s, m⟩) (hf : Body tx un { k with count := some n } (f ())) :
    Body tx un k (validateCompleteStreamChunkRows tx i s m n >>= f) := by
  refine follows_part (x := validateCompleteStreamChunkRows tx i s m n) ?_
  refine follows_look hk (by simp) fun rows hk' => ?_
  cases hscan : scanCompletionChunks m 0 rows with
  | error e => exact follows_throw (Aborts.error hk')
  | ok count =>
    refine follows_lastRequire hk' fun hcount => then_ok ?_
    have hlearn : k.after (.read (.completionChunks i s)) rows = { k with count := some n } := by
      simp [TxKnow.after, TxKnow.learn, hstart, hstream, hscan, hcount]
    rw [hlearn]
    exact hf

theorem closeIncident_follows (i : String) : FollowsIdle (closeIncident i) := by
  refine FollowsIdle.seq (follows_inTx fun tx un => ?_) fun _ => getIncident_follows i
  refine lockActiveIncident_follows rfl rfl ?_
  refine follows_call_then trivial fun now => ?_
  exact follows_write rfl trivial fun r => inBody_ok rfl trivial

theorem createMediaStream_follows (i : String) (m : MediaType) (label : String) :
    FollowsIdle (createMediaStream i m label) := by
  refine follows_inTx fun tx un => ?_
  refine lockActiveIncident_follows rfl rfl ?_
  refine follows_call_then trivial fun now => ?_
  refine follows_call_then (fun k row hk hrow => ?_) fun id => ?_
  · cases hk
    cases hrow
  · exact follows_write rfl ⟨rfl, rfl, rfl, rfl⟩ fun r => inBody_ok rfl trivial

theorem completeMediaStream_follows (i s : String) (n : Int) :
    FollowsIdle (completeMediaStream i s n) := by
  refine followsIdle_time fun now => ?_
  refine FollowsIdle.seq (follows_inTx fun tx un => ?_) fun _ => getMediaStream_follows i s
  refine lockActiveIncident_follows rfl rfl ?_
  refine lockOpenMediaStream_follows rfl rfl rfl fun m => ?_
  refine validateCompleteStreamChunkRows_follows rfl rfl rfl ?_
  exact follows_write rfl ⟨rfl, rfl, _, rfl, rfl, rfl⟩ fun r => inBody_ok rfl trivial

theorem failMediaStream_follows (i s reason : String) :
    FollowsIdle (failMediaStream i s reason) := by
  refine followsIdle_time fun now => ?_
  refine FollowsIdle.seq (follows_inTx fun tx un => ?_) fun _ => getMediaStream_follows i s
  refine lockActiveIncident_follows rfl rfl ?_
  refine lockOpenMediaStream_follows rfl rfl rfl fun m => ?_
  exact follows_write rfl ⟨rfl, _, rfl, rfl, rfl⟩ fun r => inBody_ok rfl trivial

/-! ### Chunks -/

/-- After `validateChunkInsertState` the incident is known to be active, and the
    stream, if there is one, to be open. -/
theorem validateChunkInsertState_follows {p : CreateChunkParams} {f : String → PgM β} (hk : k.tx = tx)
    (hstart : k.stage = .start)
    (hf : ∀ owner (k' : TxKnow), k'.tx = tx → k'.stage = .start → k'.active = some p.incidentID →
      (p.streamID = "" ∨ ∃ st, k'.stream = some st ∧ st.id = p.streamID) → Body tx un k' (f owner)) :
    Body tx un k (validateChunkInsertState tx p >>= f) := by
  refine follows_part (x := validateChunkInsertState tx p) ?_
  refine follows_look hk (by simp) fun row hk' => ?_
  refine follows_requireRow hk' fun inc hrow => ?_
  refine follows_requirePg hk' fun hactive => ?_
  refine follows_requirePg hk' fun _ => ?_
  rw [after_lockIncident hstart hrow hactive]
  split
  next hnone => exact then_ok (hf _ _ hk hstart rfl (.inl hnone))
  next =>
    refine follows_look hk (by simp) fun row hk'' => ?_
    refine follows_requireRow hk'' fun st hst => ?_
    refine follows_requirePg hk'' fun hopen => then_ok ?_
    rw [after_lockStream ?_ ?_ hst hopen.1]
    · exact hf _ _ hk hstart rfl (.inr ⟨_, rfl, rfl⟩)
    · exact hstart
    · rfl

/-- The quota check teaches nothing. -/
theorem enforceAccountBlobQuota_follows {owner : String} {additional quota : Int}
    {f : Unit → PgM β} (hk : k.tx = tx) (hf : Body tx un k (f ())) :
    Body tx un k (enforceAccountBlobQuota tx owner additional quota >>= f) := by
  refine follows_part (x := enforceAccountBlobQuota tx owner additional quota) ?_
  unfold enforceAccountBlobQuota
  split
  next => exact then_ok hf
  next =>
    refine follows_requirePg hk fun _ => ?_
    refine follows_read hk rfl fun row => ?_
    refine follows_requireRow hk fun _ _ => ?_
    refine follows_read hk rfl fun (bytes : Int) => ?_
    exact follows_lastRequire hk fun _ => then_ok hf

theorem createChunk_follows (p : CreateChunkParams) : FollowsIdle (createChunk p) := by
  intro t ht
  refine follows_call_then (fun k row hk => absurd (ht.symm.trans hk) (by simp)) fun id => ?_
  refine followsIdle_time (fun now => follows_inTx fun tx un => ?_) _ ht
  refine validateChunkInsertState_follows rfl rfl fun owner k hk hstart hactive hstream => ?_
  refine follows_read hk rfl fun (found : Bool) => ?_
  refine follows_requirePg hk fun _ => ?_
  refine enforceAccountBlobQuota_follows hk ?_
  exact follows_write hk ⟨hstart, hactive, hstream⟩ fun r => inBody_ok hk trivial

/-! ### Deletion -/

theorem markItem_follows {write : Time → Write} (hw : ∀ now, (write now).inert = true) :
    FollowsIdle (markItem write) := by
  refine followsIdle_time fun now t ht => ?_
  refine follows_call_then ⟨ht, .inr (hw now)⟩ fun answer => ?_
  cases answer with
  | ok n => exact followsIdle_requirePg _ _ _ ht
  | error e => exact ht

/-- An inert write is always justified. -/
theorem allows_inert {w : Write} (hw : w.inert = true) : k.Allows un w := by
  cases w with
  | deleteChildren table i => cases table <;> first | exact hw | cases hw
  | _ => first | exact hw | cases hw

theorem afterWrite_inert {s : Stage} {w : Write} (hw : w.inert = true) :
    s.afterWrite w = s.afterInert := by
  cases w with
  | deleteChildren table i => cases table <;> first | rfl | cases hw
  | _ => first | rfl | cases hw

theorem follows_inert {w : Write} {onError : PgError → RepoError} {f : Nat → PgM β}
    {Q : PgPhase → Except RepoError β → Prop} [Aborts tx Q] (hk : k.tx = tx) (hw : w.inert = true)
    (hf : ∀ n, pgDiscipline.Follows Q
      ⟨un, some { k with stage := k.stage.afterInert }⟩ (f n).run) :
    pgDiscipline.Follows Q ⟨un, some k⟩ (statement tx (.write w) onError >>= f).run := by
  refine follows_write hk (allows_inert hw) fun n => ?_
  rw [afterWrite_inert hw]
  exact hf n

/-- The items of a new decision are inserted while it is being decided. -/
theorem insertItems_follows {d i j : String} {now : Time} {paths : List String} (hk : k.tx = tx)
    (hstage : k.stage = .deciding j) :
    pgDiscipline.Follows (fun t _ => ∃ un, t = ⟨un, some k⟩) ⟨un, some k⟩
      (insertItems tx d i now paths).run := by
  induction paths generalizing un with
  | nil => exact ⟨un, rfl⟩
  | cons path paths ih =>
    refine follows_call_then (fun k' row hk' hrow => ?_) fun id => ?_
    · cases hk'
      rw [hstage] at hrow
      cases hrow
    · refine ⟨⟨k, rfl, hk, fun w hw => by cases hw; exact allows_inert rfl⟩, fun a => ?_⟩
      cases a with
      | error e => exact ⟨_, rfl⟩
      | ok n =>
        have hsame : k.after (.write (.insertItem _)) n = k := by
          obtain ⟨tx, op, stage, active, stream, count, decision, bare⟩ := k
          obtain rfl : stage = .deciding j := hstage
          rfl
        show pgDiscipline.Follows _ ⟨_, some (k.after (.write (.insertItem _)) n)⟩ _
        rw [hsame]
        exact ih

/-- A new decision is followed by the state of its incident. -/
theorem insertDeletion_follows {now : Time} {p : IncidentDeletionRequest} (hk : k.tx = tx)
    (hstart : k.stage = .start) (hactive : k.active = some p.incidentID) :
    Body tx un k (insertDeletion tx now p) := by
  obtain ⟨_, op, _, active, stream, count, decision, bare⟩ := k
  obtain rfl := hk
  obtain rfl := hstart
  refine follows_call_then (fun k' row hk' hrow => ?_) fun id => ?_
  · cases hk'
    cases hrow
  refine follows_write rfl ⟨rfl, hactive⟩ fun _ => ?_
  refine follows_read rfl rfl fun paths => ?_
  refine follows_seq (Q := InBody _) (Follows.mono ?_ (insertItems_follows rfl rfl))
  rintro t r ⟨un, rfl⟩
  refine ⟨fun _ _ => ?_, fun e _ => inBody_error rfl⟩
  refine follows_write rfl (allows_inert rfl) fun _ => ?_
  exact follows_write rfl ⟨by simp, .inr rfl⟩ fun _ => inBody_ok rfl trivial

theorem requestIncidentDeletion_follows (p : IncidentDeletionRequest) :
    FollowsIdle (requestIncidentDeletion p) := by
  refine followsIdle_time fun now => follows_inTx fun tx un => ?_
  refine follows_read rfl rfl fun (existing : Option DeletionDecision) => ?_
  cases existing with
  | some dec =>
    show pgDiscipline.Follows _ _ (ite _ _ _ : PgM _).run
    split
    · exact inBody_ok rfl trivial
    · refine follows_part (x := requireIncidentOwner tx _ _) ?_
      refine follows_read rfl rfl fun row => ?_
      refine follows_requireRow rfl fun inc _ => ?_
      exact follows_lastRequire rfl fun _ => then_ok (inBody_ok rfl trivial)
  | none =>
    refine follows_look rfl (by simp) fun row hk => ?_
    refine follows_requireRow hk fun inc hrow => ?_
    refine follows_part (x := requireDeletableRow p inc) ?_
    refine follows_requirePg hk fun _ => ?_
    refine follows_requirePg hk fun hactive => ?_
    refine follows_requirePg hk fun _ => ?_
    have hrest : Then tx (fun _ => insertDeletion tx now p)
        ⟨un, some { tx := tx, op := .requestIncidentDeletion, active := some p.incidentID }⟩ (.ok ()) :=
      then_ok (insertDeletion_follows rfl rfl rfl)
    rw [after_lockIncident rfl hrow hactive]
    split
    · exact hrest
    · exact follows_lastRequire rfl fun _ => hrest

/-- Reading a decision again at the end of a body. -/
theorem deletionStatusByID_ends {d : String} (hk : k.tx = tx) (hstage : k.stage.Committable) :
    Body tx un k (deletionStatusByID tx d) := by
  refine follows_look hk (by simp) fun row hk' => ?_
  cases row with
  | none => exact inBody_error hk'
  | some dec =>
    refine inBody_ok hk' ?_
    have hsame : (k.after (.read (.decision d)) (some dec : Option DeletionDecision)).stage = k.stage := by
      simp only [TxKnow.after, TxKnow.learn]
      split <;> simp [*]
    rw [hsame]
    exact hstage

theorem markIncidentDeletionDeleting_follows (d : String) (stale : Time) :
    FollowsIdle (markIncidentDeletionDeleting d stale) := by
  refine followsIdle_time fun now => follows_inTx fun tx un => ?_
  refine follows_inert rfl rfl fun (n : Nat) => ?_
  refine follows_requirePg rfl fun _ => ?_
  refine follows_look rfl (by simp) fun row hk => ?_
  refine follows_requireRow hk fun dec _ => ?_
  exact follows_write rfl ⟨by simp, .inl trivial⟩ fun _ => deletionStatusByID_ends rfl trivial

theorem failIncidentDeletion_follows (d code : String) :
    FollowsIdle (failIncidentDeletion d code) := by
  refine followsIdle_time fun now => follows_inTx fun tx un => ?_
  refine follows_part (x := deletionStatusByID tx d) ?_
  refine follows_look rfl (by simp) fun row hk => ?_
  cases row with
  | none => exact Aborts.error hk
  | some dec =>
    refine then_ok ?_
    refine follows_inert rfl rfl fun _ => ?_
    exact follows_write rfl ⟨by simp, .inl trivial⟩ fun _ => deletionStatusByID_ends rfl trivial

/-- The tombstones deleted so far are bare. -/
theorem deleteTombstones_follows {ids : List String} {n : Nat} (hk : k.tx = tx)
    (hstage : k.stage.Untouched) (hbare : ∀ i ∈ ids, i ∈ k.bare) :
    Body tx un k (deleteTombstones tx ids n) := by
  induction ids generalizing k n with
  | nil =>
    refine inBody_ok hk ?_
    cases hs : k.stage <;> first | trivial | (rw [hs] at hstage; cases hstage)
  | cons i ids ih =>
    refine follows_write hk ⟨hstage, hbare i List.mem_cons_self⟩ fun (m : Nat) => ?_
    refine ih hk ?_ fun j hj => hbare j (List.mem_cons_of_mem _ hj)
    show (k.stage.afterWrite (.deleteIncident i)).Untouched
    cases hs : k.stage <;> first | trivial | (rw [hs] at hstage; cases hstage)

theorem pruneIncidentDeletionTombstones_follows (cutoff : Time) (limit : Int) :
    FollowsIdle (pruneIncidentDeletionTombstones cutoff limit) := by
  refine follows_inTx fun tx un => ?_
  refine follows_look rfl (by simp) fun (ids : List String) _ => ?_
  exact deleteTombstones_follows rfl trivial fun i hi => hi

/-- After the audit event nothing but inert writes has been made. -/
theorem recordPruned_follows {now : Time} {dec : DeletionDecision} {owner : String} {f : Unit → PgM β}
    (hk : k.tx = tx) (hstart : k.stage = .start)
    (hf : ∀ un stage, stage = .start ∨ stage = .clean [] →
      Body tx un { k with stage := stage } (f ())) :
    Body tx un k (recordPruned tx now dec owner >>= f) := by
  obtain ⟨_, op, _, active, stream, count, decision, bare⟩ := k
  obtain rfl := hk
  obtain rfl := hstart
  refine follows_part (x := recordPruned _ now dec owner) ?_
  unfold recordPruned
  split
  next => exact then_ok (hf un .start (.inl rfl))
  next =>
    refine follows_call_then (fun k' row hk' hrow => ?_) fun id => ?_
    · cases hk'
      cases hrow
    · exact follows_inert rfl rfl fun _ => then_ok (hf _ (.clean []) (.inr rfl))

/-- Pruning the child tables ends with the chunks and the streams. -/
theorem pruneTables_follows {i : String} {f : Unit → PgM β} (hk : k.tx = tx)
    (hstage : k.stage = .start ∨ k.stage = .clean []) (hdec : k.decision = some i)
    (hop : ∃ d, k.op = .completeIncidentDeletion d)
    (hf : Body tx un { k with stage := .pruned i } (f ())) :
    Body tx un k (pruneTables tx i
      [.wrappedKeys, .grants, .uploads, .tokens, .checkins, .chunks, .streams] >>= f) := by
  have hinert : k.stage.afterInert = .clean [] := by
    rcases hstage with hs | hs <;> rw [hs] <;> rfl
  refine follows_part ?_
  refine follows_inert hk rfl fun _ => ?_
  rw [hinert]
  refine follows_inert hk rfl fun _ => ?_
  refine follows_inert hk rfl fun _ => ?_
  refine follows_inert hk rfl fun _ => ?_
  refine follows_inert hk rfl fun _ => ?_
  refine follows_write hk ⟨.inr rfl, hdec, hop⟩ fun _ => ?_
  exact follows_write hk rfl fun _ => then_ok hf

theorem completeIncidentDeletion_follows (d : String) : FollowsIdle (completeIncidentDeletion d) := by
  refine followsIdle_time fun now => follows_inTx fun tx un => ?_
  refine follows_part (x := deletionStatusByID tx d) ?_
  refine follows_look rfl (by simp) fun row hk => ?_
  cases row with
  | none => exact Aborts.error hk
  | some dec =>
    refine then_ok ?_
    refine follows_read hk rfl fun (remaining : Nat) => ?_
    refine follows_requirePg hk fun _ => ?_
    refine follows_read hk rfl fun row => ?_
    refine follows_requireRow hk fun inc _ => ?_
    refine recordPruned_follows hk rfl fun un stage hstage => ?_
    refine pruneTables_follows rfl hstage rfl ⟨d, rfl⟩ ?_
    refine follows_inert rfl rfl fun _ => ?_
    refine follows_inert rfl rfl fun _ => ?_
    exact follows_write rfl (.inr ⟨_, rfl⟩) fun _ => deletionStatusByID_ends rfl trivial

end Postgres

/-! ### All methods -/

theorem wrap_follows {x : PgM α} {f : α → PgResult} (hx : FollowsIdle x) : FollowsIdle (x.wrap f) :=
  hx.seq fun _ => followsIdle_pure _

/-- **Every method of the repository follows the discipline.** -/
theorem pgMain_follows (req : PgRequest) : pgDiscipline.Follows Idle {} (pgMain req) := by
  have hmethod : FollowsIdle (pgMethod req) := by
    cases req with
    | createIncidentForAccount a p =>
      exact wrap_follows (Postgres.createIncidentForAccount_follows a p)
    | closeIncident i => exact wrap_follows (Postgres.closeIncident_follows i)
    | createMediaStream i m l => exact wrap_follows (Postgres.createMediaStream_follows i m l)
    | completeMediaStream i s n => exact wrap_follows (Postgres.completeMediaStream_follows i s n)
    | failMediaStream i s r => exact wrap_follows (Postgres.failMediaStream_follows i s r)
    | createChunk p => exact wrap_follows (Postgres.createChunk_follows p)
    | requestIncidentDeletion p => exact wrap_follows (Postgres.requestIncidentDeletion_follows p)
    | markIncidentDeletionDeleting d t =>
      exact wrap_follows (Postgres.markIncidentDeletionDeleting_follows d t)
    | markIncidentDeletionItemDeleted | markIncidentDeletionItemFailed =>
      exact wrap_follows (Postgres.markItem_follows fun _ => rfl)
    | completeIncidentDeletion d => exact wrap_follows (Postgres.completeIncidentDeletion_follows d)
    | failIncidentDeletion d c => exact wrap_follows (Postgres.failIncidentDeletion_follows d c)
    | pruneIncidentDeletionTombstones c l =>
      exact wrap_follows (Postgres.pruneIncidentDeletionTombstones_follows c l)
    | abort tx =>
      refine wrap_follows fun t ht => follows_lift trivial fun u => ?_
      show (PgPhase.next t (.rollback tx) u).tx = none
      simp [PgPhase.next, ht]
  exact hmethod {} rfl

end SafetyRecorder
