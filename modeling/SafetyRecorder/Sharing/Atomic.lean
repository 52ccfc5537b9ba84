import SafetyRecorder.Lib.Alone
import SafetyRecorder.Lib.Run
import SafetyRecorder.Sharing.Repository

namespace SafetyRecorder.Sharing

open Process Sql

/-!
# Sharing — calls that run on their own

A call of the repository that no other call interrupts: what its transaction bodies leave
in the tables, and which properties of the tables it keeps.

* `Commits now Q body d n` — a body that ends without an error leaves tables with `Q`;
* `Safe I method d n` — the method keeps `I` at every statement;
* one rule for each way a body or a method goes on;
* `atomicStep` — one call after the other.
-/

/-! ### Transaction bodies -/

/-- Run on its own, a body that ends without an error leaves `Q`. -/
def Commits {α : Type} (now : Int) (Q : α → SharingDB → Nat → Prop) (body : TxM α) (d : SharingDB)
    (n : Nat) : Prop :=
  Schema.Leaves (S := schema) now (fun r d n => ∀ a, r = .ok a → Q a d n) body.run d n

section Commits

variable {α β : Type} {now : Int} {Q : α → SharingDB → Nat → Prop} {d : SharingDB} {n : Nat}

theorem commits_pure {a : α} (h : Q a d n) : Commits now Q (pure a) d n := by
  intro a' ha'
  obtain ⟨⟩ := ha'
  exact h

variable {e : RepoError}

theorem commits_throw : Commits now Q (throw e : TxM α) d n := by
  intro a' ha'
  cases ha'

theorem Commits.mono {Q' : α → SharingDB → Nat → Prop} {x : TxM α} (h : Commits now Q x d n)
    (hQ : ∀ a d n, Q a d n → Q' a d n) : Commits now Q' x d n :=
  Schema.Leaves.mono (fun _ d n hr a ha => hQ a d n (hr a ha)) h

theorem commits_bind {Q : β → SharingDB → Nat → Prop} {x : TxM α} {f : α → TxM β}
    (h : Commits now (fun a d' n' => Commits now Q (f a) d' n') x d n) :
    Commits now Q (x >>= f) d n := by
  refine Schema.leaves_bind (Schema.Leaves.mono (fun r d' n' hr => ?_) h)
  cases r with
  | ok a => exact hr a rfl
  | error e =>
    intro b hb
    cases hb

theorem commits_require_then {Q : β → SharingDB → Nat → Prop} {c : Prop} [Decidable c]
    {f : Unit → TxM β} (hf : c → Commits now Q (f ()) d n) :
    Commits now Q (require c e >>= f) d n := by
  unfold require
  split
  next hc => exact hf hc
  · exact commits_throw

theorem commits_requireRow_then {Q : β → SharingDB → Nat → Prop} {row : Option α} {f : α → TxM β}
    (hf : ∀ r, row = some r → Commits now Q (f r) d n) :
    Commits now Q (requireRow row >>= f) d n := by
  cases row with
  | none => exact commits_throw
  | some r => exact hf r rfl

theorem commits_statement_then {Q : β → SharingDB → Nat → Prop} {s : Stmt} {e : RepoError}
    {f : s.Result × Tick → TxM β}
    (hf : ∀ r, s.answer d = .ok r → Commits now Q (f (r, ⟨n, now⟩))
      (Schema.applyAll (S := schema) (s.changes d) d) (n + 1)) :
    Commits now Q (statement s e >>= f) d n := by
  unfold Commits
  change Schema.Leaves (S := schema) now _ (Prog.call s _) d n
  rw [Schema.Leaves]
  cases hs : schema.answer d s with
  | ok r => exact hf r hs
  | error e =>
    intro a ha
    cases ha

/-- A read answers from the tables and leaves them alone. -/
theorem commits_select_then {Q : β → SharingDB → Nat → Prop} {q : Read}
    {f : q.Result × Tick → TxM β} (hf : Commits now Q (f (q.run d, ⟨n, now⟩)) d (n + 1)) :
    Commits now Q (statement (.select q) e >>= f) d n := by
  refine commits_statement_then fun r hr => ?_
  obtain ⟨⟩ := hr
  exact hf

theorem commits_selectForUpdate_then {Q : β → SharingDB → Nat → Prop} {q : Read}
    {f : q.Result × Tick → TxM β} (hf : Commits now Q (f (q.run d, ⟨n, now⟩)) d (n + 1)) :
    Commits now Q (statement (.selectForUpdate q) e >>= f) d n := by
  refine commits_statement_then fun r hr => ?_
  obtain ⟨⟩ := hr
  exact hf

/-- A write that is not rejected violates no constraint. -/
theorem answer_write {w : Write} {r : Nat} (h : (Stmt.write w).answer d = .ok r) :
    w.violates d = false ∧ r = (w.rows d).length := by
  simp only [Stmt.answer] at h
  split at h
  · cases h
  next hv => exact ⟨Bool.of_not_eq_true hv, (Except.ok.inj h).symm⟩

/-- A write that violates no constraint changes the tables. -/
theorem commits_write_then {Q : β → SharingDB → Nat → Prop} {w : Write} {f : Nat × Tick → TxM β}
    (hf : w.violates d = false →
      Commits now Q (f ((w.rows d).length, ⟨n, now⟩)) (Change.apply ⟨w, w.rows d⟩ d) (n + 1)) :
    Commits now Q (statement (.write w) e >>= f) d n := by
  refine commits_statement_then fun r hr => ?_
  obtain ⟨hv, rfl⟩ := answer_write hr
  exact hf hv

/-- A row read `FOR UPDATE`. -/
theorem commits_locked_then {ρ : Type} {Q : β → SharingDB → Nat → Prop} {q : Read}
    {g : q.Result → Option ρ} {f : ρ × Tick → TxM β}
    (hf : ∀ row, g (q.run d) = some row → Commits now Q (f (row, ⟨n, now⟩)) d (n + 1)) :
    Commits now Q ((statement (.selectForUpdate q) e >>= fun r => requireRow (g r.1) >>= fun row =>
      pure (row, r.2)) >>= f) d n := by
  simp only [bind_assoc, pure_bind]
  exact commits_selectForUpdate_then (commits_requireRow_then hf)

end Commits

/-! ### Methods -/

/-- A property of the tables that may depend on how many answers were given. -/
structure Kept (I : Nat → SharingDB → Prop) : Prop where
  mono : ∀ {n n' d}, n ≤ n' → I n d → I n' d

/-- Run on its own, the method keeps `I`. -/
def Safe {α : Type} (I : Nat → SharingDB → Prop) (method : RepoM α) (d : SharingDB) (n : Nat) :
    Prop :=
  Prog.Ensures Exclusive.exec (fun w : Exclusive schema => I w.serial w.db) (fun _ _ => True)
    method.run ⟨d, n⟩

section Safe

variable {α β : Type} {I : Nat → SharingDB → Prop} {d : SharingDB} {n : Nat}

theorem safe_pure {a : α} (h : I n d) : Safe I (pure a) d n := ⟨h, trivial⟩

theorem safe_throw {e : RepoError} (h : I n d) : Safe I (throw e : RepoM α) d n := ⟨h, trivial⟩

theorem safe_require_then {c : Prop} [Decidable c] {e : RepoError} {f : Unit → RepoM β} (h : I n d)
    (hf : c → Safe I (f ()) d n) : Safe I (require c e >>= f) d n := by
  unfold require
  split
  next hc => exact hf hc
  · exact safe_throw h

theorem safe_requireRow_then {row : Option α} {f : α → RepoM β} (h : I n d)
    (hf : ∀ r, row = some r → Safe I (f r) d n) : Safe I (requireRow row >>= f) d n := by
  cases row with
  | none => exact safe_throw h
  | some r => exact hf r rfl

/-- A transaction that commits leaves `I`; one that fails leaves the tables alone. -/
theorem safe_transaction (hI : Kept I) {kind : Kind} {body : Tick → TxM kind.Row} (h : I n d)
    (hbody : ∀ now, Commits now (fun _ d' n' => I n' d') (body ⟨n, now⟩) d (n + 1)) :
    Safe I (transaction kind body) d n := by
  refine ⟨h, fun ch a w' hexec => ⟨?_, trivial⟩⟩
  show I w'.serial w'.db
  have hserial := Exclusive.exec_transaction_serial hexec
  obtain ⟨v, hv, hdb, -⟩ | ⟨hdb, -⟩ := Exclusive.exec_transaction hexec
  · rw [hserial, hdb]
    exact (hbody ch.now).runBody v hv
  · rw [hserial, hdb]
    exact hI.mono (Nat.le_of_succ_le Schema.runBody_serial) h

/-- A statement on its own: it takes effect, and then its answer arrives or gets lost. -/
theorem safe_execute_then (hI : Kept I) {s : Stmt} {f : s.Result × Tick → RepoM β} (h : I n d)
    (hstate : ∀ r, s.answer d = .ok r → I (n + 1) (Schema.applyAll (S := schema) (s.changes d) d))
    (hf : ∀ r now, s.answer d = .ok r →
      Safe I (f (r, ⟨n, now⟩)) (Schema.applyAll (S := schema) (s.changes d) d) (n + 1)) :
    Safe I (execute s >>= f) d n := by
  refine ⟨h, ?_⟩
  rintro ch ⟨a, tick⟩ ⟨d', n'⟩ hexec
  obtain ⟨hserial, htick⟩ := Exclusive.exec_stmt_tick hexec
  have hn' : n' = n + 1 := hserial
  have htick : tick = ⟨n, ch.now⟩ := htick
  subst hn' htick
  obtain ⟨r, hr, hdb, hok | ⟨e, he⟩⟩ | ⟨hdb, e, he⟩ := Exclusive.exec_stmt hexec
  · have ha : a = .ok r := hok
    have hd' : d' = Schema.applyAll (S := schema) (s.changes d) d := hdb
    subst ha hd'
    exact hf r ch.now hr
  · have ha : a = .error e := he
    have hd' : d' = Schema.applyAll (S := schema) (s.changes d) d := hdb
    subst ha hd'
    exact ⟨hstate r hr, trivial⟩
  · have ha : a = .error e := he
    have hd' : d' = d := hdb
    subst ha hd'
    exact ⟨hI.mono (Nat.le_succ n) h, trivial⟩

/-- A read on its own. -/
theorem safe_select_then (hI : Kept I) {q : Read} {f : q.Result × Tick → RepoM β} (h : I n d)
    (hf : ∀ now, Safe I (f (q.run d, ⟨n, now⟩)) d (n + 1)) :
    Safe I (execute (.select q) >>= f) d n := by
  refine safe_execute_then hI h (fun _ _ => hI.mono (Nat.le_succ n) h) fun r now hr => ?_
  obtain ⟨⟩ := hr
  exact hf now

theorem safe_read_then (hI : Kept I) {ρ : Type} {q : Read} {g : q.Result → Option ρ}
    {f : ρ × Tick → RepoM β} (h : I n d)
    (hf : ∀ row now, g (q.run d) = some row → Safe I (f (row, ⟨n, now⟩)) d (n + 1)) :
    Safe I ((execute (.select q) >>= fun r => requireRow (g r.1) >>= fun row =>
      pure (row, r.2)) >>= f) d n := by
  simp only [bind_assoc, pure_bind]
  exact safe_select_then hI h fun now =>
    safe_requireRow_then (hI.mono (Nat.le_succ n) h) fun row hrow => hf row now hrow

theorem safe_write_then (hI : Kept I) {w : Write} {f : Nat × Tick → RepoM β} (h : I n d)
    (hstate : w.violates d = false → I (n + 1) (Change.apply ⟨w, w.rows d⟩ d))
    (hf : ∀ now, I (n + 1) (Change.apply ⟨w, w.rows d⟩ d) →
      Safe I (f ((w.rows d).length, ⟨n, now⟩)) (Change.apply ⟨w, w.rows d⟩ d) (n + 1)) :
    Safe I (execute (.write w) >>= f) d n := by
  refine safe_execute_then hI h (fun r hr => hstate (answer_write hr).1) fun r now hr => ?_
  obtain ⟨hv, rfl⟩ := answer_write hr
  exact hf now (hstate hv)

/-- A write on its own, and the row is read again. -/
theorem safe_write_reread (hI : Kept I) {w : Write} (q : Read) {g : q.Result → Option β}
    (h : I n d) (hstate : w.violates d = false → I (n + 1) (Change.apply ⟨w, w.rows d⟩ d)) :
    Safe I (execute (.write w) >>= fun r => require (r.1 ≠ (0 : Nat)) .notFound >>= fun _ =>
      (execute (.select q) >>= fun r => requireRow (g r.1) >>= fun row => pure (row, r.2)) >>=
        fun row => pure row.1) d n := by
  refine safe_write_then hI h hstate fun _ h₁ => safe_require_then h₁ fun _ => ?_
  exact safe_read_then hI h₁ fun _ _ _ => safe_pure (hI.mono (Nat.le_succ _) h₁)

/-- The result of a method is put among the rows of all methods. -/
theorem safe_returning {g : α → Row} {method : RepoM α} (h : Safe I method d n) :
    Prog.Ensures Exclusive.exec (fun w : Exclusive schema => I w.serial w.db) (fun _ _ => True)
      (returning g method) ⟨d, n⟩ := by
  refine Prog.ensures_bind (Prog.Ensures.mono ?_ h)
  intro r w hw _
  cases r with
  | ok | error => exact ⟨hw, trivial⟩

end Safe

/-! ### Sequences of calls -/

/-- A call that no other call interrupts, with as many statements as there are choices: the
    whole call, or what it did before the process was gone. -/
def atomicStep (env : Env) (w : Exclusive schema) (l : Request × List Sql.Choice) :
    Option (Exclusive schema) :=
  ((main env l.1).advance Exclusive.exec w l.2).map (·.2)

/-- What every statement of a call keeps holds after the call. -/
theorem atomicStep_safe {env : Env} {I : Nat → SharingDB → Prop} {w w' : Exclusive schema}
    {l : Request × List Sql.Choice}
    (h : Prog.Ensures Exclusive.exec (fun w : Exclusive schema => I w.serial w.db)
      (fun _ _ => True) (main env l.1) w)
    (hstep : atomicStep env w l = some w') : I w'.serial w'.db := by
  obtain ⟨⟨p, w''⟩, hadv, rfl⟩ := Option.map_eq_some_iff.mp hstep
  exact (h.advance hadv).inv

end SafetyRecorder.Sharing
