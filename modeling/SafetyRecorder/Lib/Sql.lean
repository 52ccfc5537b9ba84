import SafetyRecorder.Lib.Process

namespace Sql

open Process

/-!
# Statements and transactions on a database server

An application issues single statements, each committed at once, and transactions,
whose statements take effect together or not at all.  The same programs run on two
kinds of servers.

* `Schema` — the statements of an application: what each answers, what it changes and
  which rows it locks;
* `Schema.Body`, `Schema.Call` — transaction bodies, and programs of single statements
  and transactions;
* `Schema.Leaves` — what a transaction body leaves when it runs on its own;
* `Exclusive` — a server with one connection: a transaction excludes every other
  statement;
* `Server` — a server under `READ COMMITTED`: the statements of different transactions
  interleave, each sees what is committed and the writes of its own transaction, and a
  row that is written or read `FOR UPDATE` stays locked until the transaction ends;
* `Schema.compile` — the statements a program issues on such a server.
-/

/-- The statements of an application and what they mean. -/
structure Schema where
  /-- What the tables hold. -/
  State : Type
  Stmt : Type
  /-- What a statement returns. -/
  Result : Stmt → Type
  /-- The errors of a statement. -/
  Error : Type
  /-- A write that is resolved to the rows it found. -/
  Change : Type
  /-- What can be locked: rows and entries of unique indexes. -/
  Key : Type
  keyDecEq : DecidableEq Key
  /-- The kinds of transactions, by what they return. -/
  Kind : Type
  Value : Kind → Type
  /-- How the application reports a failure. -/
  Failure : Type
  /-- A lost connection, a cancellation, a deadlock. -/
  failed : Error
  /-- How the application reports such an error of a transaction. -/
  failure : Failure
  answer : State → (s : Stmt) → Except Error (Result s)
  changes : State → Stmt → List Change
  apply : Change → State → State
  locks : State → Stmt → List Key
  /-- The rows and index entries a change is about. -/
  touches : Change → List Key
  touches_subset : ∀ {db s c k}, c ∈ changes db s → k ∈ touches c → k ∈ locks db s

/-- What a client draws with the answer to a statement: a number that never repeats, and
    the clock. -/
structure Tick where
  serial : Nat
  now : Int
  deriving DecidableEq, Repr

/-- What can go wrong with a call: it fails without effect, or it takes effect and the
    answer gets lost. -/
inductive Fault
  | none | failed | lost
  deriving DecidableEq, Repr

/-- What the environment chooses at a call. -/
structure Choice where
  now : Int := 0
  fault : Fault := .none
  deriving DecidableEq, Repr

namespace Schema

variable (S : Schema)

instance : DecidableEq S.Key := S.keyDecEq

/-- The answer to a statement. -/
abbrev Reply (s : S.Stmt) : Type := Except S.Error (S.Result s) × Tick

/-- The statements between `BEGIN` and `COMMIT`. -/
abbrev Body (R : Type) : Type := Prog S.Stmt S.Reply R

/-- What an application does next: a statement on its own, or a transaction. -/
inductive Call
  | exec (s : S.Stmt)
  | transaction (kind : S.Kind) (body : Tick → S.Body (Except S.Failure (S.Value kind)))

/-- The answers. -/
def Answer : S.Call → Type
  | .exec s => S.Reply s
  | .transaction kind _ => Except S.Failure (S.Value kind)

/-- Programs of statements and transactions. -/
abbrev Proc (R : Type) : Type := Prog S.Call S.Answer R

variable {S}

/-- Changes one after the other. -/
def applyAll (cs : List S.Change) (db : S.State) : S.State := cs.foldl (fun db c => S.apply c db) db

@[simp] theorem applyAll_nil (db : S.State) : applyAll [] db = db := rfl

@[simp] theorem applyAll_cons (c : S.Change) (cs : List S.Change) (db : S.State) :
    applyAll (c :: cs) db = applyAll cs (S.apply c db) := rfl

theorem applyAll_append (cs ds : List S.Change) (db : S.State) :
    applyAll (cs ++ ds) db = applyAll ds (applyAll cs db) := List.foldl_append

/-- The rows the given changes are about. -/
def touched (cs : List S.Change) : List S.Key := cs.flatMap S.touches

theorem mem_touched {cs : List S.Change} {k : S.Key} :
    k ∈ touched cs ↔ ∃ c ∈ cs, k ∈ S.touches c := List.mem_flatMap

/-- Execute a transaction body with no other statement in between: its result, the
    tables, the changes made, and the next number. -/
def runBody {R : Type} (now : Int) : S.Body R → S.State → Nat → R × S.State × List S.Change × Nat
  | .ret r, db, n => (r, db, [], n)
  | .call s k, db, n =>
    match S.answer db s with
    | .ok r =>
      let rest := runBody now (k (.ok r, ⟨n, now⟩)) (applyAll (S.changes db s) db) (n + 1)
      (rest.1, rest.2.1, S.changes db s ++ rest.2.2.1, rest.2.2.2)
    | .error e => runBody now (k (.error e, ⟨n, now⟩)) db (n + 1)

variable {R : Type} {now : Int} {body : S.Body R} {db : S.State} {n : Nat}

/-- The tables after a body are what its changes make of them. -/
theorem runBody_state :
    (runBody now body db n).2.1 = applyAll (runBody now body db n).2.2.1 db := by
  induction body generalizing db n with
  | ret r => rfl
  | call s k ih =>
    rw [runBody]
    cases S.answer db s with
    | ok r => simpa only [applyAll_append] using ih _
    | error e => exact ih _

/-- The number of the next answer only grows. -/
theorem runBody_serial :
    n ≤ (runBody now body db n).2.2.2 := by
  induction body generalizing db n with
  | ret r => exact Nat.le_refl n
  | call s k ih =>
    rw [runBody]
    cases S.answer db s with
    | ok | error => exact Nat.le_of_succ_le (ih _)

/-- Run on its own, the body ends with `Q`. -/
def Leaves {R : Type} (now : Int) (Q : R → S.State → Nat → Prop) : S.Body R → S.State → Nat → Prop
  | .ret r, db, n => Q r db n
  | .call s k, db, n =>
    match S.answer db s with
    | .ok r => Leaves now Q (k (.ok r, ⟨n, now⟩)) (applyAll (S.changes db s) db) (n + 1)
    | .error e => Leaves now Q (k (.error e, ⟨n, now⟩)) db (n + 1)

/-- **Soundness** of the judgement. -/
theorem Leaves.runBody {Q : R → S.State → Nat → Prop} (h : Leaves now Q body db n) :
    Q (Schema.runBody now body db n).1 (Schema.runBody now body db n).2.1
      (Schema.runBody now body db n).2.2.2 := by
  induction body generalizing db n with
  | ret r => exact h
  | call s k ih =>
    rw [Leaves] at h
    rw [Schema.runBody]
    cases hs : S.answer db s with
    | ok | error =>
      rw [hs] at h
      exact ih _ h

theorem leaves_bind {T : Type} {Q : T → S.State → Nat → Prop} {x : S.Body R} {f : R → S.Body T}
    (h : Leaves now (fun r db n => Leaves now Q (f r) db n) x db n) :
    Leaves now Q (x >>= f) db n := by
  induction x generalizing db n with
  | ret r => exact h
  | call s k ih =>
    rw [Leaves] at h
    rw [Prog.call_bind, Leaves]
    cases hs : S.answer db s with
    | ok | error =>
      rw [hs] at h
      exact ih _ h

/-- A weaker end condition is met as well. -/
theorem Leaves.mono {Q Q' : R → S.State → Nat → Prop}
    (hQ : ∀ r db n, Q r db n → Q' r db n) (h : Leaves now Q body db n) :
    Leaves now Q' body db n := by
  induction body generalizing db n with
  | ret r => exact hQ r db n h
  | call s k ih =>
    rw [Leaves] at h ⊢
    cases hs : S.answer db s with
    | ok | error =>
      rw [hs] at h
      exact ih _ h

/-- Every accepted statement keeps `I`. -/
def Maintains (I : S.State → Prop) : Prop :=
  ∀ db s r, I db → S.answer db s = .ok r → I (applyAll (S.changes db s) db)

theorem Maintains.runBody {I : S.State → Prop} (hI : Maintains I)
    (h : I db) : I (runBody now body db n).2.1 := by
  induction body generalizing db n with
  | ret r => exact h
  | call s k ih =>
    rw [Schema.runBody]
    cases hs : S.answer db s with
    | ok r => exact ih _ (hI db s r h hs)
    | error e => exact ih _ h

end Schema

/-! ### One connection -/

/-- A server whose only connection serves one statement or transaction at a time. -/
structure Exclusive (S : Schema) where
  db : S.State
  serial : Nat := 0

namespace Exclusive

variable {S : Schema}

/-- One call.  A transaction whose body ends with an error is rolled back. -/
def exec (w : Exclusive S) : (c : S.Call) → Choice → Option (S.Answer c × Exclusive S)
  | .exec s, ch =>
    let tick : Tick := ⟨w.serial, ch.now⟩
    if ch.fault = .failed then some ((.error S.failed, tick), { w with serial := w.serial + 1 })
    else match S.answer w.db s with
      | .error e => some ((.error e, tick), { w with serial := w.serial + 1 })
      | .ok r =>
        let w' := ⟨Schema.applyAll (S.changes w.db s) w.db, w.serial + 1⟩
        some ((if ch.fault = .none then .ok r else .error S.failed, tick), w')
  | .transaction _ body, ch =>
    let done := Schema.runBody ch.now (body ⟨w.serial, ch.now⟩) w.db (w.serial + 1)
    if ch.fault = .failed then some (.error S.failure, { w with serial := done.2.2.2 })
    else match done.1 with
      | .error e => some (.error e, { w with serial := done.2.2.2 })
      | .ok v =>
        some (if ch.fault = .none then .ok v else .error S.failure, ⟨done.2.1, done.2.2.2⟩)

/-- The rows a call writes. -/
def writes (w : Exclusive S) (ch : Choice) : S.Call → List S.Key
  | .exec s => Schema.touched (S.changes w.db s)
  | .transaction _ body =>
    Schema.touched (Schema.runBody ch.now (body ⟨w.serial, ch.now⟩) w.db (w.serial + 1)).2.2.1

variable {w w' : Exclusive S} {ch : Choice}

/-- **Inversion** of a statement on its own: it took effect, or the tables are as
    before. -/
theorem exec_stmt {s : S.Stmt} {a : S.Reply s} (h : w.exec (.exec s) ch = some (a, w')) :
    (∃ r, S.answer w.db s = .ok r ∧ w'.db = Schema.applyAll (S.changes w.db s) w.db ∧
      (a.1 = .ok r ∨ ∃ e, a.1 = .error e)) ∨ w'.db = w.db ∧ ∃ e, a.1 = .error e := by
  simp only [exec] at h
  split at h
  · obtain ⟨⟩ := h
    exact .inr ⟨rfl, _, rfl⟩
  · split at h
    next e _ =>
      obtain ⟨⟩ := h
      exact .inr ⟨rfl, e, rfl⟩
    next r hr =>
      obtain ⟨⟩ := h
      refine .inl ⟨r, hr, rfl, ?_⟩
      by_cases hf : ch.fault = .none
      · exact .inl (by simp [hf])
      · exact .inr ⟨S.failed, by simp [hf]⟩

/-- **Inversion** of a transaction: its changes took effect, or the tables are as
    before. -/
theorem exec_transaction {kind : S.Kind} {body : Tick → S.Body (Except S.Failure (S.Value kind))}
    {a : Except S.Failure (S.Value kind)} (h : w.exec (.transaction kind body) ch = some (a, w')) :
    (∃ v, (Schema.runBody ch.now (body ⟨w.serial, ch.now⟩) w.db (w.serial + 1)).1 = .ok v ∧
      w'.db = (Schema.runBody ch.now (body ⟨w.serial, ch.now⟩) w.db (w.serial + 1)).2.1 ∧
      (a = .ok v ∨ ∃ e, a = .error e)) ∨ w'.db = w.db ∧ ∃ e, a = .error e := by
  simp only [exec] at h
  split at h
  · obtain ⟨⟩ := h
    exact .inr ⟨rfl, _, rfl⟩
  · split at h
    next e _ =>
      obtain ⟨⟩ := h
      exact .inr ⟨rfl, e, rfl⟩
    next v hv =>
      obtain ⟨⟩ := h
      refine .inl ⟨v, hv, rfl, ?_⟩
      by_cases hf : ch.fault = .none
      · exact .inl (by simp [hf])
      · exact .inr ⟨S.failure, by simp [hf]⟩

/-- The number and the clock that come with an answer. -/
theorem exec_stmt_tick {s : S.Stmt} {a : S.Reply s} (h : w.exec (.exec s) ch = some (a, w')) :
    w'.serial = w.serial + 1 ∧ a.2 = ⟨w.serial, ch.now⟩ := by
  simp only [exec] at h
  split at h
  · obtain ⟨⟩ := h
    exact ⟨rfl, rfl⟩
  · split at h
    · obtain ⟨⟩ := h
      exact ⟨rfl, rfl⟩
    · obtain ⟨⟩ := h
      exact ⟨rfl, rfl⟩

theorem exec_transaction_serial {kind : S.Kind}
    {body : Tick → S.Body (Except S.Failure (S.Value kind))} {a : Except S.Failure (S.Value kind)}
    (h : w.exec (.transaction kind body) ch = some (a, w')) :
    w'.serial = (Schema.runBody ch.now (body ⟨w.serial, ch.now⟩) w.db (w.serial + 1)).2.2.2 := by
  simp only [exec] at h
  split at h
  · obtain ⟨-, rfl⟩ := Prod.mk.inj (Option.some.inj h)
    rfl
  · split at h
    · obtain ⟨-, rfl⟩ := Prod.mk.inj (Option.some.inj h)
      rfl
    · obtain ⟨-, rfl⟩ := Prod.mk.inj (Option.some.inj h)
      rfl

/-- What every accepted statement keeps is kept by every call. -/
theorem exec_maintains {I : S.State → Prop} (hI : Schema.Maintains I)
    {c : S.Call} {a : S.Answer c} (h : I w.db) (hexec : w.exec c ch = some (a, w')) :
    I w'.db := by
  cases c with
  | exec s =>
    obtain ⟨r, hr, hdb, -⟩ | ⟨hdb, -⟩ := exec_stmt hexec
    · exact hdb ▸ hI _ s r h hr
    · exact hdb ▸ h
  | transaction kind body =>
    obtain ⟨v, -, hdb, -⟩ | ⟨hdb, -⟩ := exec_transaction hexec
    · exact hdb ▸ hI.runBody h
    · exact hdb ▸ h

/-- The number of the next answer only grows. -/
theorem serial_exec {c : S.Call} {a : S.Answer c}
    (h : w.exec c ch = some (a, w')) : w.serial ≤ w'.serial := by
  cases c with
  | exec s =>
    rw [(exec_stmt_tick h).1]
    exact Nat.le_succ _
  | transaction kind body =>
    rw [exec_transaction_serial h]
    exact Nat.le_of_succ_le Schema.runBody_serial

end Exclusive

/-! ### `READ COMMITTED` -/

/-- What goes over the connection to a server with many of them. -/
inductive Schema.Wire (S : Schema)
  | «begin»
  | stmt (tx : Nat) (s : S.Stmt)
  | commit (tx : Nat)
  | rollback (tx : Nat)
  /-- A statement outside a transaction, committed at once. -/
  | exec (s : S.Stmt)

/-- The answers. -/
def Schema.WireAnswer (S : Schema) : S.Wire → Type
  | .begin => Except S.Error Nat × Tick
  | .stmt _ s => S.Reply s
  | .commit _ => Except S.Error Unit
  | .rollback _ => Unit
  | .exec s => S.Reply s

/-- A database server with any number of transactions in progress. -/
structure Server (S : Schema) where
  /-- What is committed. -/
  db : S.State
  /-- The changes of the transactions in progress, oldest first. -/
  txs : Nat → Option (List S.Change) := fun _ => none
  /-- The locks and who holds them. -/
  locks : S.Key → Option Nat := fun _ => none
  nextTx : Nat := 0
  serial : Nat := 0

namespace Server

variable {S : Schema}

/-- End a transaction: its locks are released. -/
def close (w : Server S) (tx : Nat) : Server S :=
  { w with
    txs := Function.update w.txs tx none
    locks := fun k => if w.locks k = some tx then none else w.locks k }

/-- Another transaction holds one of the locks. -/
def waits (w : Server S) (tx : Option Nat) (keys : List S.Key) : Bool :=
  keys.any fun k => w.locks k != none && w.locks k != tx

/-- One call; `none` while a statement has to wait.  An error aborts the transaction. -/
def exec (w : Server S) : (c : S.Wire) → Choice → Option (S.WireAnswer c × Server S)
  | .begin, ch =>
    let tick : Tick := ⟨w.serial, ch.now⟩
    if ch.fault = .none then
      some ((.ok w.nextTx, tick), { w with
        txs := Function.update w.txs w.nextTx (some [])
        nextTx := w.nextTx + 1
        serial := w.serial + 1 })
    else some ((.error S.failed, tick), { w with serial := w.serial + 1 })
  | .stmt tx s, ch =>
    let tick : Tick := ⟨w.serial, ch.now⟩
    let w := { w with serial := w.serial + 1 }
    match w.txs tx with
    | none => some ((.error S.failed, tick), w)
    | some cs =>
      let view := Schema.applyAll cs w.db
      if ch.fault ≠ .none then some ((.error S.failed, tick), w.close tx)
      else if w.waits (some tx) (S.locks view s) then none
      else match S.answer view s with
        | .error e => some ((.error e, tick), w.close tx)
        | .ok r => some ((.ok r, tick), { w with
            txs := Function.update w.txs tx (some (cs ++ S.changes view s))
            locks := fun k => if k ∈ S.locks view s then some tx else w.locks k })
  | .commit tx, ch =>
    match w.txs tx with
    | none => some (.error S.failed, w)
    | some cs =>
      match ch.fault with
      | .none => some (.ok (), { w.close tx with db := Schema.applyAll cs w.db })
      | .lost => some (.error S.failed, { w.close tx with db := Schema.applyAll cs w.db })
      | .failed => some (.error S.failed, w.close tx)
  | .rollback tx, _ => some ((), w.close tx)
  | .exec s, ch =>
    let tick : Tick := ⟨w.serial, ch.now⟩
    let w := { w with serial := w.serial + 1 }
    if ch.fault = .failed then some ((.error S.failed, tick), w)
    else if w.waits none (S.locks w.db s) then none
    else match S.answer w.db s with
      | .error e => some ((.error e, tick), w)
      | .ok r =>
        some ((if ch.fault = .none then .ok r else .error S.failed, tick),
          { w with db := Schema.applyAll (S.changes w.db s) w.db })

/-- The rows a call commits a write to. -/
def writes (w : Server S) : S.Wire → List S.Key
  | .exec s => Schema.touched (S.changes w.db s)
  | .commit tx => Schema.touched ((w.txs tx).getD [])
  | _ => []

/-- A lock that does not make the statement wait is free or its own. -/
theorem not_waits {w : Server S} {tx : Option Nat} {keys : List S.Key}
    (h : w.waits tx keys = false) {k : S.Key} (hk : k ∈ keys) :
    w.locks k = none ∨ w.locks k = tx := by
  simp only [waits, List.any_eq_false, Bool.and_eq_true, bne_iff_ne, not_and, not_not] at h
  by_cases hnone : w.locks k = none
  · exact .inl hnone
  · exact .inr (h k hk hnone)

/-- A transaction that is left when another one ends. -/
theorem close_txs {w : Server S} {tx tx' : Nat} {cs : List S.Change}
    (h : (w.close tx).txs tx' = some cs) : tx' ≠ tx ∧ w.txs tx' = some cs := by
  by_cases htx : tx' = tx
  · subst htx
    simp [close] at h
  · exact ⟨htx, by simpa [close, Function.update_of_ne htx] using h⟩

/-- The other transactions keep their locks. -/
theorem close_locks {w : Server S} {tx tx' : Nat} (htx : tx' ≠ tx) {k : S.Key}
    (h : w.locks k = some tx') : (w.close tx).locks k = some tx' := by
  simp [close, h, htx]

end Server

/-! ### The statements of a program -/

namespace Schema

variable {S : Schema} {R : Type}

/-- The statements of a body, in transaction `tx`. -/
def inTx (tx : Nat) : S.Body R → Prog S.Wire S.WireAnswer R
  | .ret r => .ret r
  | .call s k => .call (.stmt tx s) fun a => inTx tx (k a)

/-- A transaction on the wire: commit after the body, roll back when it fails. -/
def transact {α : Type} (body : Tick → S.Body (Except S.Failure α)) :
    Prog S.Wire S.WireAnswer (Except S.Failure α) :=
  .call .begin fun
    | (.error _, _) => .ret (.error S.failure)
    | (.ok tx, tick) => (inTx tx (body tick)).bind fun
      | .error e => .call (.rollback tx) fun _ => .ret (.error e)
      | .ok v => .call (.commit tx) fun
        | .ok _ => .ret (.ok v)
        | .error _ => .ret (.error S.failure)

/-- The statements of a program. -/
def compile : S.Proc R → Prog S.Wire S.WireAnswer R
  | .ret r => .ret r
  | .call (.exec s) k => .call (.exec s) fun a => compile (k a)
  | .call (.transaction _ body) k => (transact body).bind fun a => compile (k a)

/-- What a server with many connections does: requests, and transactions it aborts because
    their client is gone or takes too long. -/
inductive Job (Q : Type)
  | request (q : Q)
  | abort (tx : Nat)

/-- The program of a job. -/
def jobs {Q : Type} (main : Q → S.Proc R) (aborted : R) : Job Q → Prog S.Wire S.WireAnswer R
  | .request q => compile (main q)
  | .abort tx => .call (.rollback tx) fun _ => .ret aborted

end Schema

end Sql
