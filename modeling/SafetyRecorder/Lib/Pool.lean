import Mathlib.Data.Nat.Find
import Mathlib.Logic.Function.Basic
import Mathlib.Order.Lattice
import Mathlib.Tactic.SplitIfs
import SafetyRecorder.Lib.Sql

namespace Pool

open Process
open Sql (Fault)

/-!
# A pool with one connection

Clients share a pool with a single connection.  A statement on the pool takes the connection and
gives it back; a transaction keeps it until it is committed or rolled back.  Whoever asks for the
connection while it is taken waits, so a client that asks for it in the middle of its own
transaction waits forever.

* `Call`, `State.step` — what clients ask of the pool, and the interleavings of any number of them;
* `Disciplined` — a client that never asks for the connection inside its transaction, provided its
  transactions begin in states with `G`;
* `Tidy.step` — what one step keeps of a system of such clients;
* `Execution.released` — in a fair execution the connection is given back again and again;
* `Execution.returns` — in a fair execution every client returns;
* `alone` — what a client does that has the pool for itself;
* `waits_forever` — a client that asks inside its own transaction never goes on.
-/

variable {Ω σ R : Type}

/-- What a client asks of the pool, over tables `σ`.  A statement is refused where it is not
    defined; `op` names the transaction that begins. -/
inductive Call (Ω σ : Type)
  | query (f : σ → Option σ)
  | begin (op : Ω)
  | stmt (f : σ → Option σ)
  | commit
  | rollback

/-- The answers: for a statement the tables it was executed on, or nothing if it failed. -/
def Answer : Call Ω σ → Type
  | .query _ => Option σ
  | .begin _ => Bool
  | .stmt _ => Option σ
  | .commit => Bool
  | .rollback => Unit

/-- The programs of the clients. -/
abbrev Client (Ω σ R : Type) : Type := Prog (Call Ω σ) Answer R

/-- Execute a statement: what is answered, and the tables afterwards. -/
def execute (f : σ → Option σ) (db : σ) : Fault → Option σ × σ
  | .none => ((f db).map fun _ => db, (f db).getD db)
  | .failed => (none, db)
  | .lost => (none, (f db).getD db)

/-- The tables, who has the connection with the tables its transaction began with, and the
    clients. -/
structure State (Ω σ R : Type) where
  db : σ
  holder : Option (Nat × σ) := none
  procs : Nat → Option (Client Ω σ R)

/-- A call of a client.  It is not enabled while the client has to wait for the connection; a
    statement on a transaction that has ended fails at once. -/
def exec (pid : Nat) (db : σ) (holder : Option (Nat × σ)) :
    (c : Call Ω σ) → Fault → Option (Answer c × σ × Option (Nat × σ))
  | .query f, fault =>
    match holder with
    | none => some ((execute f db fault).1, (execute f db fault).2, none)
    | some _ => none
  | .begin _, fault =>
    match holder with
    | none => some (if fault = .none then (true, db, some (pid, db)) else (false, db, none))
    | some _ => none
  | .stmt f, fault =>
    match holder with
    | none => some (none, db, none)
    | some (q, saved) =>
      if q = pid then some ((execute f db fault).1, (execute f db fault).2, some (q, saved))
      else some (none, db, some (q, saved))
  | .commit, fault =>
    match holder with
    | none => some (false, db, none)
    | some (q, saved) =>
      if q = pid then
        some (decide (fault = .none), if fault = .failed then saved else db, none)
      else some (false, db, some (q, saved))
  | .rollback, _ =>
    match holder with
    | none => some ((), db, none)
    | some (q, saved) => if q = pid then some ((), saved, none) else some ((), db, some (q, saved))

/-- What can happen: a client arrives, or a client makes its next call. -/
inductive Label (Ω σ R : Type)
  | spawn (pid : Nat) (p : Client Ω σ R)
  | step (pid : Nat) (fault : Fault)

namespace State

/-- One step of the system. -/
def step (s : State Ω σ R) : Label Ω σ R → Option (State Ω σ R)
  | .spawn pid p =>
    match s.procs pid with
    | none => some { s with procs := Function.update s.procs pid (some p) }
    | some _ => none
  | .step pid fault =>
    match s.procs pid with
    | some (.call c k) =>
      (exec pid s.db s.holder c fault).map fun r =>
        { db := r.2.1, holder := r.2.2, procs := Function.update s.procs pid (some (k r.1)) }
    | _ => none

/-- The client has the connection for a transaction. -/
def Holds (s : State Ω σ R) (pid : Nat) : Prop := ∃ saved, s.holder = some (pid, saved)

/-- The client asks the pool for the connection. -/
def Requests (s : State Ω σ R) (pid : Nat) : Prop :=
  (∃ f k, s.procs pid = some (.call (.query f) k)) ∨ ∃ op k, s.procs pid = some (.call (.begin op) k)

/-- The tables of the transaction the client is in. -/
def phase (s : State Ω σ R) (pid : Nat) : Option σ :=
  match s.holder with
  | none => none
  | some (q, _) => if q = pid then some s.db else none

end State

/-! ### Discipline -/

/-- The client never asks for the connection inside a transaction, and ends every transaction
    before it returns, provided its transactions begin with tables in `G`.  Inside a transaction
    the tables are known: nobody else writes. -/
def Disciplined (G : Ω → σ → Prop) : Option σ → Client Ω σ R → Prop
  | t, .ret _ => t = none
  | none, .call (.query _) k => ∀ a, Disciplined G none (k a)
  | none, .call (.begin op) k =>
    Disciplined G none (k false) ∧ ∀ db, G op db → Disciplined G (some db) (k true)
  | some db, .call (.stmt f) k =>
    ∀ fault, Disciplined G (some (execute f db fault).2) (k (execute f db fault).1)
  | some _, .call .commit k => ∀ a, Disciplined G none (k a)
  | some _, .call .rollback k => Disciplined G none (k ())
  | _, _ => False

/-- Every client is disciplined from where it stands, and whoever has the connection is there. -/
structure Tidy (G : Ω → σ → Prop) (s : State Ω σ R) : Prop where
  disciplined : ∀ pid p, s.procs pid = some p → Disciplined G (s.phase pid) p
  live : ∀ pid, s.Holds pid → ∃ p, s.procs pid = some p

/-- A disciplined client arrives, or a transaction begins with tables in `G`. -/
def Allowed (G : Ω → σ → Prop) (s : State Ω σ R) : Label Ω σ R → Prop
  | .spawn _ p => Disciplined G none p
  | .step pid _ => ∀ op k, s.procs pid = some (.call (.begin op) k) → G op s.db

variable {G : Ω → σ → Prop} {s s' : State Ω σ R} {pid : Nat}

open State

theorem phase_of_holds (h : s.Holds pid) : s.phase pid = some s.db := by
  obtain ⟨saved, h⟩ := h
  simp [phase, h]

theorem phase_of_not_holds (h : ¬ s.Holds pid) : s.phase pid = none := by
  unfold phase
  split
  · rfl
  next q saved hq =>
    rw [if_neg]
    rintro rfl
    exact h ⟨saved, hq⟩

/-- **Inside its transaction a disciplined client does not ask for the connection.** -/
theorem Tidy.not_requests (h : Tidy G s) (hholds : s.Holds pid) : ¬ s.Requests pid := by
  have hdisc {p : Client Ω σ R} (hp : s.procs pid = some p) : Disciplined G (some s.db) p :=
    phase_of_holds hholds ▸ h.disciplined pid p hp
  rintro (⟨f, k, hp⟩ | ⟨op, k, hp⟩)
  · exact hdisc hp
  · exact hdisc hp

variable {fault : Fault}

/-- What a call of a disciplined client does: the connection was free or its own before the call,
    and is free or its own afterwards, and the client goes on in discipline. -/
theorem exec_disciplined {c : Call Ω σ} {k : Answer c → Client Ω σ R}
    {a : Answer c} {db' : σ} {holder' : Option (Nat × σ)}
    (h : Disciplined G (s.phase pid) (.call c k)) (hbegin : ∀ op, c = .begin op → G op s.db)
    (hexec : exec pid s.db s.holder c fault = some (a, db', holder')) :
    (s.holder = none ∨ s.Holds pid) ∧
      ((holder' = none ∧ Disciplined G none (k a)) ∨
        ∃ saved, holder' = some (pid, saved) ∧ Disciplined G (some db') (k a)) := by
  by_cases hholds : s.Holds pid
  · -- inside a transaction: a statement on it, or its end
    refine ⟨.inr hholds, ?_⟩
    rw [phase_of_holds hholds] at h
    obtain ⟨saved, hholder⟩ := hholds
    cases c with
    | query | begin => exact h.elim
    | stmt f =>
      simp only [exec, hholder, if_pos, Option.some.injEq] at hexec
      cases hexec
      exact .inr ⟨saved, rfl, h fault⟩
    | commit =>
      simp only [exec, hholder, if_pos, Option.some.injEq] at hexec
      cases hexec
      exact .inl ⟨rfl, h _⟩
    | rollback =>
      simp only [exec, hholder, if_pos, Option.some.injEq] at hexec
      cases hexec
      exact .inl ⟨rfl, h⟩
  · -- outside: the connection has to be free
    rw [phase_of_not_holds hholds] at h
    cases c with
    | query f =>
      cases hholder : s.holder with
      | none =>
        simp only [exec, hholder, Option.some.injEq] at hexec
        cases hexec
        exact ⟨.inl rfl, .inl ⟨rfl, h _⟩⟩
      | some q => simp [exec, hholder] at hexec
    | begin op =>
      cases hholder : s.holder with
      | none =>
        simp only [exec, hholder, Option.some.injEq] at hexec
        split_ifs at hexec
        · cases hexec
          exact ⟨.inl rfl, .inr ⟨s.db, rfl, h.2 s.db (hbegin op rfl)⟩⟩
        · cases hexec
          exact ⟨.inl rfl, .inl ⟨rfl, h.1⟩⟩
      | some q => simp [exec, hholder] at hexec
    | stmt | commit | rollback => exact h.elim

theorem phase_of_holder {q : Nat} (h : s.holder = none ∨ s.Holds pid) (hq : q ≠ pid) :
    s.phase q = none := by
  refine phase_of_not_holds ?_
  rintro ⟨saved, hholder⟩
  rcases h with hnone | ⟨saved', hpid⟩
  · rw [hnone] at hholder
    exact absurd hholder nofun
  · rw [hpid] at hholder
    exact hq (Prod.mk.inj (Option.some.inj hholder)).1.symm

theorem step_spawn {p : Client Ω σ R} (h : s.step (.spawn pid p) = some s') :
    s.procs pid = none ∧ s' = { s with procs := Function.update s.procs pid (some p) } := by
  simp only [State.step] at h
  split at h
  next hnew => exact ⟨hnew, (Option.some.inj h).symm⟩
  next => exact absurd h nofun

theorem step_step (h : s.step (.step pid fault) = some s') :
    ∃ c k a, s.procs pid = some (.call c k) ∧
      exec pid s.db s.holder c fault = some (a, s'.db, s'.holder) ∧
      s'.procs = Function.update s.procs pid (some (k a)) := by
  simp only [State.step] at h
  split at h
  next c k hp =>
    obtain ⟨⟨a, db', holder'⟩, hexec, rfl⟩ := Option.map_eq_some_iff.mp h
    exact ⟨c, k, a, hp, hexec, rfl⟩
  next => exact absurd h nofun

theorem Tidy.spawn {p : Client Ω σ R} (h : Tidy G s) (hp : Disciplined G none p)
    (hstep : s.step (.spawn pid p) = some s') : Tidy G s' := by
  obtain ⟨hnew, rfl⟩ := step_spawn hstep
  have hfree : ¬ s.Holds pid := by
    intro hholds
    obtain ⟨p', hp'⟩ := h.live pid hholds
    rw [hnew] at hp'
    exact absurd hp' nofun
  refine ⟨fun q p' hp' => ?_, fun q hq => ?_⟩
  · obtain ⟨rfl, ⟨⟩⟩ | ⟨-, hp'⟩ := Process.update_some hp'
    · exact (phase_of_not_holds hfree).symm ▸ hp
    · exact h.disciplined q p' hp'
  · obtain ⟨p', hp'⟩ := h.live q hq
    have hne : q ≠ pid := fun heq => hfree (heq ▸ hq)
    exact ⟨p', (Function.update_of_ne hne ..).trans hp'⟩

theorem Tidy.call (h : Tidy G s)
    (hbegin : ∀ op k, s.procs pid = some (.call (.begin op) k) → G op s.db)
    (hstep : s.step (.step pid fault) = some s') : Tidy G s' := by
  obtain ⟨c, k, a, hp, hexec, hprocs⟩ := step_step hstep
  obtain ⟨hbefore, hafter⟩ := exec_disciplined (h.disciplined pid _ hp)
    (fun op hop => by subst hop; exact hbegin op k hp) hexec
  have howner : s'.holder = none ∨ s'.Holds pid :=
    hafter.imp And.left fun ⟨saved, hholder, _⟩ => ⟨saved, hholder⟩
  refine ⟨fun q p' hp' => ?_, fun q hq => ?_⟩
  · rw [hprocs] at hp'
    obtain ⟨rfl, ⟨⟩⟩ | ⟨hq, hp'⟩ := Process.update_some hp'
    · rcases hafter with ⟨hnone, hk⟩ | ⟨saved, hholder, hk⟩
      · rwa [phase_of_not_holds]
        rintro ⟨saved, hholder⟩
        rw [hnone] at hholder
        exact absurd hholder nofun
      · rwa [phase_of_holds ⟨saved, hholder⟩]
    · -- the others are outside, before and after
      rw [phase_of_holder howner hq, ← phase_of_holder hbefore hq]
      exact h.disciplined q p' hp'
  · have hqp : q = pid := by
      by_contra hne
      have hout := phase_of_holder howner hne
      rw [phase_of_holds hq] at hout
      exact absurd hout nofun
    exact ⟨k a, by rw [hprocs, hqp, Function.update_self]⟩

/-- **One step** keeps a tidy system tidy. -/
theorem Tidy.step {l : Label Ω σ R} (h : Tidy G s) (hl : Allowed G s l)
    (hstep : s.step l = some s') : Tidy G s' := by
  cases l with
  | spawn pid p => exact h.spawn hl hstep
  | step pid fault => exact h.call hl hstep

/-! ### Executions -/

/-- An infinite execution; without a label nothing happens. -/
structure Execution (Ω σ R : Type) where
  state : Nat → State Ω σ R
  label : Nat → Option (Label Ω σ R)
  next : ∀ n, (label n).elim (some (state n)) (state n).step = some (state (n + 1))

namespace Execution

/-- The client can make its next call. -/
def Enabled (s : State Ω σ R) (pid : Nat) : Prop := ∃ fault s', s.step (.step pid fault) = some s'

/-- The client makes its next call at time `n`. -/
def Moves (e : Execution Ω σ R) (pid n : Nat) : Prop := ∃ fault, e.label n = some (.step pid fault)

/-- A client that can go on again and again goes on. -/
def Fair (e : Execution Ω σ R) : Prop :=
  ∀ pid, (∀ n, ∃ m, n ≤ m ∧ Enabled (e.state m) pid) → ∀ n, ∃ m, n ≤ m ∧ e.Moves pid m

/-- Only what is allowed happens, from a tidy state on. -/
structure Respects (e : Execution Ω σ R) (G : Ω → σ → Prop) : Prop where
  start : Tidy G (e.state 0)
  allowed : ∀ n l, e.label n = some l → Allowed G (e.state n) l

variable {e : Execution Ω σ R} {n m : Nat} {p : Client Ω σ R}

theorem next_of_label {l : Label Ω σ R} (h : e.label n = some l) :
    (e.state n).step l = some (e.state (n + 1)) := by
  have := e.next n
  rwa [h] at this

/-- **A whole execution** stays tidy. -/
theorem Respects.tidy (h : e.Respects G) (n : Nat) : Tidy G (e.state n) := by
  induction n with
  | zero => exact h.start
  | succ n ih =>
    cases hl : e.label n with
    | none =>
      have hnext := e.next n
      rw [hl] at hnext
      exact Option.some.inj hnext ▸ ih
    | some l => exact ih.step (h.allowed n l hl) (next_of_label hl)

/-- A client that does not move stays where it is. -/
theorem procs_succ (hp : (e.state n).procs pid = some p) (hm : ¬ e.Moves pid n) :
    (e.state (n + 1)).procs pid = some p := by
  cases hl : e.label n with
  | none =>
    have hnext := e.next n
    rw [hl] at hnext
    exact Option.some.inj hnext ▸ hp
  | some l =>
    have hstep := next_of_label hl
    cases l with
    | spawn q p' =>
      obtain ⟨hnew, hs⟩ := step_spawn hstep
      have hne : pid ≠ q := by
        rintro rfl
        rw [hnew] at hp
        exact absurd hp nofun
      rw [hs]
      exact (Function.update_of_ne hne ..).trans hp
    | step q fault =>
      obtain ⟨c, k, a, -, -, hprocs⟩ := step_step hstep
      have hne : pid ≠ q := fun heq => hm ⟨fault, heq ▸ hl⟩
      rw [hprocs, Function.update_of_ne hne]
      exact hp

/-- A client that does not move up to time `m` is still where it was. -/
theorem procs_of_idle (hp : (e.state n).procs pid = some p) (hnm : n ≤ m)
    (hm : ∀ i, n ≤ i → i < m → ¬ e.Moves pid i) : (e.state m).procs pid = some p := by
  induction m, hnm using Nat.le_induction with
  | base => exact hp
  | succ m hnm ih =>
    exact procs_succ (ih fun i hi hlt => hm i hi (by omega)) (hm m hnm (by omega))

variable (pid) in
/-- **A client that can go on again and again makes its next call.** -/
theorem first_move (hfair : e.Fair)
    (henabled : (∀ m, n ≤ m → ¬ e.Moves pid m) → ∀ i, ∃ m, i ≤ m ∧ Enabled (e.state m) pid) :
    ∃ m, n ≤ m ∧ e.Moves pid m ∧ ∀ i, n ≤ i → i < m → ¬ e.Moves pid i := by
  classical
  have hmove : ∃ m, n ≤ m ∧ e.Moves pid m := by
    by_contra hnever
    exact hnever (hfair pid (henabled fun m hm hmove => hnever ⟨m, hm, hmove⟩) n)
  obtain ⟨hle, hfirst⟩ := Nat.find_spec hmove
  exact ⟨Nat.find hmove, hle, hfirst, fun i hi hlt hi' => Nat.find_min hmove hlt ⟨hi, hi'⟩⟩

/-- While somebody has the connection, nobody else makes a call. -/
theorem holds_succ (h : e.Respects G) (hholds : (e.state n).Holds pid) (hm : ¬ e.Moves pid n) :
    (e.state (n + 1)).Holds pid := by
  cases hl : e.label n with
  | none =>
    have hnext := e.next n
    rw [hl] at hnext
    exact Option.some.inj hnext ▸ hholds
  | some l =>
    have hstep := next_of_label hl
    cases l with
    | spawn q p' =>
      obtain ⟨-, hs⟩ := step_spawn hstep
      rw [hs]
      exact hholds
    | step q fault =>
      obtain ⟨c, k, a, hp, hexec, -⟩ := step_step hstep
      have hbegin : ∀ op, c = .begin op → G op (e.state n).db := by
        rintro op rfl
        exact h.allowed n _ hl op k hp
      have hne : pid ≠ q := fun heq => hm ⟨fault, heq ▸ hl⟩
      have hbefore := (exec_disciplined ((h.tidy n).disciplined q _ hp) hbegin hexec).1
      have hout := phase_of_holder hbefore hne
      rw [phase_of_holds hholds] at hout
      exact absurd hout nofun

theorem holds_of_idle (h : e.Respects G) (hholds : (e.state n).Holds pid) (hnm : n ≤ m)
    (hm : ∀ i, n ≤ i → i < m → ¬ e.Moves pid i) : (e.state m).Holds pid := by
  induction m, hnm using Nat.le_induction with
  | base => exact hholds
  | succ m hnm ih =>
    exact holds_succ h (ih fun i hi hlt => hm i hi (by omega)) (hm m hnm (by omega))

/-- A call is enabled when the connection is free. -/
theorem enabled_of_free {s : State Ω σ R} {c : Call Ω σ} {k : Answer c → Client Ω σ R}
    (hp : s.procs pid = some (.call c k)) (hfree : s.holder = none) : Enabled s pid := by
  refine ⟨.none, ?_⟩
  cases c <;> exact ⟨_, by simp only [State.step, hp, exec, hfree]; rfl⟩

/-- The statements of a transaction are enabled for the client that is in it. -/
theorem enabled_of_holds {s : State Ω σ R} {p : Client Ω σ R} (h : Tidy G s)
    (hp : s.procs pid = some p) (hholds : s.Holds pid) : Enabled s pid := by
  have hdisc := h.disciplined pid p hp
  rw [phase_of_holds hholds] at hdisc
  obtain ⟨saved, hholder⟩ := hholds
  refine ⟨.none, ?_⟩
  cases p with
  | ret r => exact absurd hdisc nofun
  | call c k =>
    cases c with
    | query | begin => exact hdisc.elim
    | stmt | commit | rollback => exact ⟨_, by simp only [State.step, hp, exec, hholder]; rfl⟩

/-- Whoever has the connection gives it back: the induction is on the rest of its program. -/
theorem released_of_holds (h : e.Respects G) (hfair : e.Fair) :
    ∀ (p : Client Ω σ R) (n : Nat), (e.state n).procs pid = some p → (e.state n).Holds pid →
      ∃ m, n ≤ m ∧ (e.state m).holder = none := by
  intro p
  induction p with
  | ret r =>
    intro n hp hholds
    have hdisc := (h.tidy n).disciplined pid _ hp
    rw [phase_of_holds hholds] at hdisc
    exact absurd hdisc nofun
  | call c k ih =>
    intro n hp hholds
    obtain ⟨m, hnm, ⟨fault, hl⟩, hidle⟩ := first_move pid (n := n) hfair fun hnever i => by
      have hlater : n ≤ max n i := le_max_left n i
      refine ⟨max n i, le_max_right n i, enabled_of_holds (h.tidy _) (procs_of_idle hp hlater ?_)
        (holds_of_idle h hholds hlater ?_)⟩
      · exact fun j hj _ => hnever j hj
      · exact fun j hj _ => hnever j hj
    have hpm := procs_of_idle hp hnm hidle
    obtain ⟨c', k', a, hp', hexec, hprocs⟩ := step_step (next_of_label hl)
    obtain ⟨rfl, hk⟩ := Prog.call.inj (Option.some.inj (hpm.symm.trans hp'))
    obtain rfl := eq_of_heq hk
    have hafter := (exec_disciplined ((h.tidy m).disciplined pid _ hpm)
      (fun op hop => by subst hop; exact h.allowed m _ hl op k hpm) hexec).2
    rcases hafter with ⟨hnone, -⟩ | ⟨saved, hholder, -⟩
    · exact ⟨m + 1, by omega, hnone⟩
    · obtain ⟨i, hi, hfree⟩ := ih a (m + 1) (by rw [hprocs, Function.update_self])
        ⟨saved, hholder⟩
      exact ⟨i, by omega, hfree⟩

/-- **The connection is free again and again.** -/
theorem released (h : e.Respects G) (hfair : e.Fair) (n : Nat) :
    ∃ m, n ≤ m ∧ (e.state m).holder = none := by
  cases hholder : (e.state n).holder with
  | none => exact ⟨n, le_rfl, hholder⟩
  | some held =>
    have hholds : (e.state n).Holds held.1 := ⟨held.2, hholder⟩
    obtain ⟨p, hp⟩ := (h.tidy n).live held.1 hholds
    exact released_of_holds h hfair p n hp hholds

/-- **Every client returns.** -/
theorem returns (h : e.Respects G) (hfair : e.Fair) :
    ∀ (p : Client Ω σ R) (n : Nat), (e.state n).procs pid = some p →
      ∃ m r, n ≤ m ∧ (e.state m).procs pid = some (.ret r) := by
  intro p
  induction p with
  | ret r => exact fun n hp => ⟨n, r, le_rfl, hp⟩
  | call c k ih =>
    intro n hp
    obtain ⟨m, hnm, ⟨fault, hl⟩, hidle⟩ := first_move pid (n := n) hfair fun hnever i => by
      -- as long as it waits, the connection becomes free again and again
      obtain ⟨m, hm, hfree⟩ := released h hfair (max n i)
      have hnm : n ≤ m := (le_max_left n i).trans hm
      refine ⟨m, (le_max_right n i).trans hm, enabled_of_free (procs_of_idle hp hnm ?_) hfree⟩
      exact fun j hj _ => hnever j hj
    have hpm := procs_of_idle hp hnm hidle
    obtain ⟨c', k', a, hp', -, hprocs⟩ := step_step (next_of_label hl)
    obtain ⟨rfl, hk⟩ := Prog.call.inj (Option.some.inj (hpm.symm.trans hp'))
    obtain rfl := eq_of_heq hk
    obtain ⟨i, r, hi, hret⟩ := ih a (m + 1) (by rw [hprocs, Function.update_self])
    exact ⟨i, r, by omega, hret⟩

/-! ### Executions that come to an end -/

/-- The execution of a finite run, after which nothing happens. -/
def ofRun (s : State Ω σ R) (ls : List (Label Ω σ R)) (h : (Runs.run State.step s ls).isSome) :
    Execution Ω σ R where
  state n := (Runs.run State.step s (ls.take n)).getD s
  label n := ls[n]?
  next n := by
    cases hl : ls[n]? with
    | none =>
      have hlen : ls.length ≤ n := List.getElem?_eq_none_iff.mp hl
      rw [List.take_of_length_le hlen, List.take_of_length_le (by omega)]
      rfl
    | some l =>
      obtain ⟨last, hlast⟩ := Option.isSome_iff_exists.mp h
      rw [← List.take_append_drop (n + 1) ls, Runs.run_append] at hlast
      obtain ⟨after, hafter, -⟩ := hlast
      have htake : ls.take (n + 1) = ls.take n ++ [l] := by rw [List.take_add_one, hl]; rfl
      obtain ⟨before, hbefore, hstep⟩ := Runs.run_append.mp (htake ▸ hafter)
      obtain ⟨after', hstep, hsame⟩ := Runs.run_cons.mp hstep
      rw [hafter, hbefore]
      exact hstep.trans hsame

/-- It is fair when everybody has returned in the end. -/
theorem fair_ofRun {s last : State Ω σ R} {ls : List (Label Ω σ R)}
    (h : Runs.run State.step s ls = some last) (hend : ∀ pid, ¬ Enabled last pid) :
    (ofRun s ls (Option.isSome_of_eq_some h)).Fair := by
  intro pid henabled
  obtain ⟨m, hm, hm'⟩ := henabled ls.length
  have hlast : (ofRun s ls (Option.isSome_of_eq_some h)).state m = last := by
    show (Runs.run State.step s (ls.take m)).getD s = last
    rw [List.take_of_length_le hm, h]
    rfl
  exact absurd (hlast ▸ hm') (hend pid)

end Execution

/-! ### A client with the pool for itself -/

/-- What the client returns and leaves when it is alone and nothing fails; nothing if it comes to
    wait for itself, or returns inside a transaction. -/
def alone : Client Ω σ R → σ → Option (Nat × σ) → Option (R × σ)
  | .ret r, db, none => some (r, db)
  | .ret _, _, some _ => none
  | .call c k, db, holder =>
    match exec 0 db holder c .none with
    | some (a, db', holder') => alone (k a) db' holder'
    | none => none

/-! ### A client that waits for itself -/

/-- Nobody else can do anything about the connection of a transaction. -/
theorem exec_of_other {q : Nat} {c : Call Ω σ} {a : Answer c} {db db' saved : σ}
    {holder' : Option (Nat × σ)} (hne : pid ≠ q)
    (h : exec q db (some (pid, saved)) c fault = some (a, db', holder')) :
    holder' = some (pid, saved) := by
  cases c with
  | query | begin => exact absurd h nofun
  | stmt | commit | rollback =>
    simp only [exec, if_neg hne, Option.some.injEq] at h
    cases h
    rfl

/-- The client asks for the connection it has itself. -/
def WaitsForItself (s : State Ω σ R) (pid : Nat) : Prop := s.Holds pid ∧ s.Requests pid

theorem WaitsForItself.step {l : Label Ω σ R} (h : WaitsForItself s pid)
    (hstep : s.step l = some s') : WaitsForItself s' pid ∧ s'.procs pid = s.procs pid := by
  obtain ⟨⟨saved, hholder⟩, hrequests⟩ := h
  have hlive : s.procs pid ≠ none := by
    rcases hrequests with ⟨f, k, hp⟩ | ⟨op, k, hp⟩ <;> simp [hp]
  suffices hsame : s'.holder = s.holder ∧ s'.procs pid = s.procs pid by
    refine ⟨⟨⟨saved, hsame.1.trans hholder⟩, ?_⟩, hsame.2⟩
    simpa only [Requests, hsame.2] using hrequests
  cases l with
  | spawn q p =>
    obtain ⟨hnew, rfl⟩ := step_spawn hstep
    have hne : pid ≠ q := fun heq => hlive (heq ▸ hnew)
    exact ⟨rfl, Function.update_of_ne hne ..⟩
  | step q fault =>
    obtain ⟨c, k, a, hp, hexec, hprocs⟩ := step_step hstep
    rw [hholder] at hexec
    have hne : pid ≠ q := by
      rintro rfl
      -- its own call is not enabled
      rcases hrequests with ⟨f, k', hp'⟩ | ⟨op, k', hp'⟩
      · obtain ⟨rfl, -⟩ := Prog.call.inj (Option.some.inj (hp.symm.trans hp'))
        exact absurd hexec nofun
      · obtain ⟨rfl, -⟩ := Prog.call.inj (Option.some.inj (hp.symm.trans hp'))
        exact absurd hexec nofun
    exact ⟨(exec_of_other hne hexec).trans hholder.symm, by
      rw [hprocs, Function.update_of_ne hne]⟩

/-- **A client that waits for itself never goes on**, whatever else happens. -/
theorem waits_forever {ls : List (Label Ω σ R)} (h : WaitsForItself s pid)
    (hrun : Runs.run State.step s ls = some s') :
    WaitsForItself s' pid ∧ s'.procs pid = s.procs pid := by
  refine Runs.invariant_of_step (I := fun t => WaitsForItself t pid ∧ t.procs pid = s.procs pid)
    (fun t l t' ht hstep => ?_) ⟨h, rfl⟩ hrun
  obtain ⟨hwaits, hsame⟩ := ht.1.step hstep
  exact ⟨hwaits, hsame.trans ht.2⟩

end Pool
