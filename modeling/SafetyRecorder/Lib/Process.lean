import Mathlib.Logic.Function.Basic
import Mathlib.Data.Option.Basic
import SafetyRecorder.Lib.Run

namespace Process

open Runs

/-!
# Interleaved processes over a shared state

A request handler is a program `Prog C A R`: it makes calls `c : C`, receives an
answer of type `A c` for each and ends with a result.  `Sys` puts any number of
such programs over one shared state; a step executes one call of one program, so
a run of `Sys.step` is an interleaving of the individual calls, with crashes
between any two of them.

* `Protocol` / `Protocol.Follows` — a typestate discipline for programs: which
  calls a program may make in a phase, and how an answer changes the phase;
* `Sys.step_cases` — everything a step of the system can do;
* `tracked_step_cases` / `tracked_step` / `tracked_run` — the invariant rule: when all
  programs follow a protocol, an invariant over the shared state and the phases of the
  live processes need only be checked against single calls;
* `located_run` — the rule for invariants that speak of one process at a time and of
  the call it makes next.
-/

/-- Programs that make calls `c : C` with answers in `A c` and end in an `R`. -/
inductive Prog (C : Type) (A : C → Type) (R : Type) : Type
  | ret (r : R) : Prog C A R
  | call (c : C) (k : A c → Prog C A R) : Prog C A R

namespace Prog

variable {C : Type} {A : C → Type} {R S : Type}

/-- Sequential composition. -/
def bind : Prog C A R → (R → Prog C A S) → Prog C A S
  | .ret r, f => f r
  | .call c k, f => .call c fun a => (k a).bind f

instance : Monad (Prog C A) where
  pure := .ret
  bind := .bind

/-- Sequential composition is associative and has the programs without calls as units. -/
instance : LawfulMonad (Prog C A) :=
  LawfulMonad.mk' (Prog C A)
    (fun p => by
      show p.bind _ = p
      induction p with
      | ret r => rfl
      | call c k ih => exact congrArg (Prog.call c) (funext ih))
    (fun _ _ => rfl)
    (fun p f g => by
      show (p.bind f).bind g = p.bind fun r => (f r).bind g
      induction p with
      | ret r => rfl
      | call c k ih => exact congrArg (Prog.call c) (funext ih))

/-- The program that makes one call and returns its answer. -/
def perform (c : C) : Prog C A (A c) := .call c .ret

/-- The program has ended. -/
def Done : Prog C A R → Prop
  | .ret _ => True
  | .call _ _ => False

/-- The call the program makes next. -/
def next? : Prog C A R → Option C
  | .ret _ => none
  | .call c _ => some c

@[simp] theorem call_bind (c : C) (k : A c → Prog C A R) (f : R → Prog C A S) :
    (Prog.call c k >>= f) = .call c fun a => k a >>= f := rfl

end Prog

/-! ### Protocols -/

/-- A typestate discipline: the calls allowed in a phase and the phase after an
    answer. -/
structure Protocol (C : Type) (A : C → Type) (τ : Type) where
  /-- The call may be made in this phase. -/
  allowed : τ → C → Prop
  /-- The phase after the call was answered. -/
  next : τ → (c : C) → A c → τ

namespace Protocol

variable {C : Type} {A : C → Type} {R S τ : Type} (P : Protocol C A τ)

/-- The program makes only allowed calls from phase `t` on, whatever the answers
    are, and ends in a phase and with a result that satisfy `Q`. -/
def Follows (Q : τ → R → Prop) : τ → Prog C A R → Prop
  | t, .ret r => Q t r
  | t, .call c k => P.allowed t c ∧ ∀ a, Follows Q (P.next t c a) (k a)

variable {P} {Q : τ → R → Prop}

/-- A composed program follows the protocol when its second part follows it from
    every phase the first part can end in. -/
theorem follows_bind {Q : τ → S → Prop} {f : R → Prog C A S} {p : Prog C A R} {t : τ}
    (h : P.Follows (fun t' r => P.Follows Q t' (f r)) t p) : P.Follows Q t (p >>= f) := by
  induction p generalizing t with
  | ret r => exact h
  | call c k ih => exact ⟨h.1, fun a => ih a (h.2 a)⟩

/-- A weaker end condition is met as well. -/
theorem Follows.mono {Q' : τ → R → Prop} (hQ : ∀ t r, Q t r → Q' t r) {p : Prog C A R} {t : τ}
    (h : P.Follows Q t p) : P.Follows Q' t p := by
  induction p generalizing t with
  | ret r => exact hQ t r h
  | call c k ih => exact ⟨h.1, fun a => ih a (h.2 a)⟩

/-! ### Programs that can end early

A program with early exits is an `ExceptT` program; the rules below follow its
sequential structure. -/

section Except

variable {ε : Type} {Q : τ → Except ε R → Prop} {t : τ}

theorem follows_pure {a : R} (h : Q t (.ok a)) :
    P.Follows Q t (pure a : ExceptT ε (Prog C A) R).run := h

theorem follows_throw {e : ε} (h : Q t (.error e)) :
    P.Follows Q t (throw e : ExceptT ε (Prog C A) R).run := h

theorem follows_lift {c : C} {Q : τ → Except ε (A c) → Prop} (hallowed : P.allowed t c)
    (hnext : ∀ a, Q (P.next t c a) (.ok a)) :
    P.Follows Q t (ExceptT.lift (Prog.perform c) : ExceptT ε (Prog C A) (A c)).run :=
  ⟨hallowed, hnext⟩

variable {f : R → ExceptT ε (Prog C A) S}

/-- Sequential composition: an early exit of the first part ends the whole. -/
theorem follows_seq {Q : τ → Except ε S → Prop} {x : ExceptT ε (Prog C A) R}
    (h : P.Follows (fun t' r => (∀ a, r = .ok a → P.Follows Q t' (f a).run) ∧
      ∀ e, r = .error e → Q t' (.error e)) t x.run) : P.Follows Q t (x >>= f).run := by
  refine follows_bind (Follows.mono ?_ h)
  intro t' r hr
  cases r with
  | ok a => exact hr.1 a rfl
  | error e => exact hr.2 e rfl

/-- Composition after a part that stays in its phase. -/
theorem follows_then {Q : τ → Except ε S → Prop} {x : ExceptT ε (Prog C A) R}
    (hx : P.Follows (fun t' _ => t' = t) t x.run)
    (hf : ∀ a, P.Follows Q t (f a).run) (he : ∀ e, Q t (.error e)) :
    P.Follows Q t (x >>= f).run := by
  refine follows_seq (Follows.mono ?_ hx)
  rintro t' r rfl
  exact ⟨fun a _ => hf a, fun e _ => he e⟩

theorem follows_call_then {c : C} {Q : τ → Except ε S → Prop} {f : A c → ExceptT ε (Prog C A) S}
    (hallowed : P.allowed t c) (hf : ∀ a, P.Follows Q (P.next t c a) (f a).run) :
    P.Follows Q t ((ExceptT.lift (Prog.perform c) : ExceptT ε (Prog C A) (A c)) >>= f).run :=
  ⟨hallowed, hf⟩

end Except

end Protocol

/-! ### Systems of processes -/

/-- An entry of a table of processes, after one of them has moved. -/
theorem update_some {β : Type} {f : Nat → Option β} {pid q : Nat} {o : Option β} {b : β}
    (h : Function.update f pid o q = some b) : q = pid ∧ o = some b ∨ q ≠ pid ∧ f q = some b := by
  by_cases hq : q = pid
  · subst hq
    exact .inl ⟨rfl, by rwa [Function.update_self] at h⟩
  · exact .inr ⟨hq, by rwa [Function.update_of_ne hq] at h⟩

/-- A shared state and the processes that run over it.  A process that crashed is
    gone; one that ended stays as its result. -/
structure Sys (σ : Type) (C : Type) (A : C → Type) (R : Type) where
  /-- The state all processes work on. -/
  shared : σ
  /-- The processes, by process number. -/
  procs : Nat → Option (Prog C A R)

/-- What can happen next: a request arrives, a process executes its next call
    (with the environment's choices `d`), or a process crashes. -/
inductive Label (Q D : Type)
  | spawn (pid : Nat) (req : Q)
  | step (pid : Nat) (d : D)
  | crash (pid : Nat)

/-- The process a label is about. -/
def Label.pid {Q D : Type} : Label Q D → Nat
  | .spawn pid _ => pid
  | .step pid _ => pid
  | .crash pid => pid

namespace Sys

variable {σ C R Q D τ : Type} {A : C → Type}

/-- One step of the system: `main` is the program of a request and `exec` what a
    call does to the shared state. -/
def step (main : Q → Prog C A R) (exec : σ → (c : C) → D → Option (A c × σ))
    (s : Sys σ C A R) : Label Q D → Option (Sys σ C A R)
  | .spawn pid req =>
    match s.procs pid with
    | none => some { s with procs := Function.update s.procs pid (some (main req)) }
    | some _ => none
  | .step pid d =>
    match s.procs pid with
    | some (.call c k) =>
      (exec s.shared c d).map fun r =>
        { shared := r.2, procs := Function.update s.procs pid (some (k r.1)) }
    | _ => none
  | .crash pid =>
    match s.procs pid with
    | some (.call _ _) => some { s with procs := Function.update s.procs pid none }
    | _ => none

/-- No process is in progress. -/
def Quiescent (s : Sys σ C A R) : Prop := ∀ pid p, s.procs pid = some p → p.Done

/-- The call a process makes next. -/
def nextCall (s : Sys σ C A R) (pid : Nat) : Option C :=
  match s.procs pid with
  | some (.call c _) => some c
  | _ => none

variable {pid : Nat}

theorem nextCall_of_proc {s : Sys σ C A R} {p : Prog C A R} (hp : s.procs pid = some p) :
    s.nextCall pid = p.next? := by
  cases p <;> simp [nextCall, hp, Prog.next?]

theorem nextCall_eq_some {s : Sys σ C A R} {c : C} :
    s.nextCall pid = some c ↔ ∃ k, s.procs pid = some (.call c k) := by
  constructor
  · intro h
    unfold nextCall at h
    split at h
    next c' k hp =>
      obtain ⟨⟩ := h
      exact ⟨k, hp⟩
    · cases h
  · rintro ⟨k, hp⟩
    exact nextCall_of_proc hp

/-- The state a system starts from: no process yet. -/
def start (s : σ) : Sys σ C A R := { shared := s, procs := fun _ => none }

variable {main : Q → Prog C A R} {exec : σ → (c : C) → D → Option (A c × σ)}
variable {s s' : Sys σ C A R}

variable {l : Label Q D}

/-- **Inversion.** Everything a step of the system can do. -/
theorem step_cases (h : step main exec s l = some s') :
    (∃ pid req, l = .spawn pid req ∧ s.procs pid = none ∧
      s' = { s with procs := Function.update s.procs pid (some (main req)) }) ∨
    (∃ pid d c k a σ', l = .step pid d ∧ s.procs pid = some (.call c k) ∧
      exec s.shared c d = some (a, σ') ∧
      s' = { shared := σ', procs := Function.update s.procs pid (some (k a)) }) ∨
    (∃ pid c k, l = .crash pid ∧ s.procs pid = some (.call c k) ∧
      s' = { s with procs := Function.update s.procs pid none }) := by
  cases l with
  | spawn pid req =>
    simp only [step] at h
    split at h
    · exact .inl ⟨pid, req, rfl, ‹_›, (Option.some.inj h).symm⟩
    · cases h
  | step pid d =>
    simp only [step] at h
    split at h
    next c k hp =>
      obtain ⟨⟨a, σ'⟩, hexec, rfl⟩ := Option.map_eq_some_iff.mp h
      exact .inr (.inl ⟨pid, d, c, k, a, σ', rfl, hp, hexec, rfl⟩)
    · cases h
  | crash pid =>
    simp only [step] at h
    split at h
    next c k hp => exact .inr (.inr ⟨pid, c, k, rfl, hp, (Option.some.inj h).symm⟩)
    · cases h

/-- A property of the shared state that every call keeps is kept by every step. -/
theorem shared_step {I : σ → Prop} (hcall : ∀ x c d a x', I x → exec x c d = some (a, x') → I x')
    (hI : I s.shared) (h : step main exec s l = some s') : I s'.shared := by
  obtain ⟨pid, req, -, -, rfl⟩ | ⟨pid, d, c, k, a, x', -, -, hexec, rfl⟩ | ⟨pid, c, k, -, -, rfl⟩ :=
    step_cases h
  · exact hI
  · exact hcall _ c d a x' hI hexec
  · exact hI

/-! ### The invariant rule -/

/-- Every live process has a phase from which it follows the protocol. -/
def Tracked (P : Protocol C A τ) (E : τ → R → Prop) (procs : Nat → Option (Prog C A R))
    (ts : Nat → Option τ) : Prop :=
  ∀ pid, Option.Rel (fun p t => P.Follows E t p) (procs pid) (ts pid)

variable {P : Protocol C A τ} {E : τ → R → Prop}

variable {procs : Nat → Option (Prog C A R)} {ts : Nat → Option τ}

theorem Tracked.phase (h : Tracked P E procs ts) {p : Prog C A R} (hp : procs pid = some p) :
    ∃ t, ts pid = some t ∧ P.Follows E t p := by
  have hrel := h pid
  rw [hp] at hrel
  cases hts : ts pid with
  | none => rw [hts] at hrel; cases hrel
  | some t =>
    rw [hts] at hrel
    cases hrel with
    | some hf => exact ⟨t, rfl, hf⟩

/-- A process number that is not in use has no phase. -/
theorem Tracked.phase_none (h : Tracked P E procs ts) (hp : procs pid = none) : ts pid = none := by
  have hrel := h pid
  rw [hp] at hrel
  cases hts : ts pid with
  | none => rfl
  | some t => rw [hts] at hrel; cases hrel

theorem Tracked.proc (h : Tracked P E procs ts) {t : τ} (ht : ts pid = some t) :
    ∃ p, procs pid = some p ∧ P.Follows E t p := by
  have hrel := h pid
  rw [ht] at hrel
  cases hp : procs pid with
  | none => rw [hp] at hrel; cases hrel
  | some p =>
    rw [hp] at hrel
    cases hrel with
    | some hf => exact ⟨p, rfl, hf⟩

private theorem Tracked.update
    (h : Tracked P E procs ts) (pid : Nat) {p : Option (Prog C A R)} {t : Option τ}
    (hpt : Option.Rel (fun p t => P.Follows E t p) p t) :
    Tracked P E (Function.update procs pid p) (Function.update ts pid t) := by
  intro q
  by_cases hq : q = pid
  · subst hq; simpa using hpt
  · simpa [Function.update_of_ne hq] using h q

/-- A system without processes is tracked. -/
theorem tracked_start (x : σ) : Tracked P E (start (C := C) (A := A) (R := R) x).procs
    (fun _ => (none : Option τ)) := fun _ => .none

/-- The obligations of an invariant over the shared state and the phases of the
    live processes, for the steps that meet `K`. -/
structure Preserved (P : Protocol C A τ) (E : τ → R → Prop) (main : Q → Prog C A R)
    (exec : σ → (c : C) → D → Option (A c × σ)) (first : Q → τ)
    (K : Sys σ C A R → Label Q D → Prop) (J : σ → (Nat → Option τ) → Prop) : Prop where
  /-- Every program follows the protocol from its first phase. -/
  follows : ∀ req, P.Follows E (first req) (main req)
  /-- A new request keeps the invariant. -/
  spawn : ∀ x ts pid req, J x ts → ts pid = none →
    J x (Function.update ts pid (some (first req)))
  /-- A crash keeps the invariant. -/
  crash : ∀ s : Sys σ C A R, ∀ ts pid, J s.shared ts → K s (.crash pid) →
    J s.shared (Function.update ts pid none)
  /-- An allowed call keeps the invariant. -/
  call : ∀ s : Sys σ C A R, ∀ ts pid t c k d a x', J s.shared ts → ts pid = some t →
    P.allowed t c → s.procs pid = some (.call c k) → K s (.step pid d) →
    exec s.shared c d = some (a, x') → J x' (Function.update ts pid (some (P.next t c a)))

variable {first : Q → τ} {K : Sys σ C A R → Label Q D → Prop}
variable {J : σ → (Nat → Option τ) → Prop}

/-- **One step, with the phases.** A step of a system whose programs follow the
    protocol is a new request, a crash or an allowed call; what holds of the phases
    in each case holds of some phases after the step. -/
theorem tracked_step_cases (hfollows : ∀ req, P.Follows E (first req) (main req))
    {G : σ → (Nat → Option τ) → Prop} (hspawn : ∀ pid req, l = .spawn pid req → ts pid = none →
      G s.shared (Function.update ts pid (some (first req))))
    (hcrash : ∀ pid, l = .crash pid → G s.shared (Function.update ts pid none))
    (hcall : ∀ pid t c k d a x', l = .step pid d → ts pid = some t → P.allowed t c →
      s.procs pid = some (.call c k) → exec s.shared c d = some (a, x') →
      G x' (Function.update ts pid (some (P.next t c a))))
    (htr : Tracked P E s.procs ts) (h : step main exec s l = some s') :
    ∃ ts', Tracked P E s'.procs ts' ∧ G s'.shared ts' := by
  obtain ⟨pid, req, rfl, hp, rfl⟩ | ⟨pid, d, c, k, a, x', rfl, hp, hexec, rfl⟩ |
    ⟨pid, c, k, rfl, hp, rfl⟩ := step_cases h
  · exact ⟨_, htr.update pid (.some (hfollows req)), hspawn pid req rfl (htr.phase_none hp)⟩
  · obtain ⟨t, ht, hallowed, hnext⟩ := htr.phase hp
    exact ⟨_, htr.update pid (.some (hnext a)), hcall pid t c k d a x' rfl ht hallowed hp hexec⟩
  · exact ⟨_, htr.update pid .none, hcrash pid rfl⟩

/-- One step of a system whose programs follow the protocol keeps the invariant. -/
theorem tracked_step (hP : Preserved P E main exec first K J)
    (htr : Tracked P E s.procs ts) (hI : J s.shared ts) (hK : K s l)
    (h : step main exec s l = some s') :
    ∃ ts', Tracked P E s'.procs ts' ∧ J s'.shared ts' := by
  refine tracked_step_cases hP.follows (fun pid req hl hnone => ?_) (fun pid hl => ?_)
    (fun pid t c k d a x' hl ht hallowed hp hexec => ?_) htr h
  · exact hP.spawn _ ts pid req hI hnone
  · exact hP.crash s ts pid hI (hl ▸ hK)
  · exact hP.call s ts pid t c k d a x' hI ht hallowed hp (hl ▸ hK) hexec

variable {ls : List (Label Q D)}

/-- **Invariant rule.** Along every run whose steps meet `K`, the programs that are
    still running have phases for which the invariant holds. -/
theorem tracked_run (hP : Preserved P E main exec first K J) {x : σ} (hx : J x fun _ => none)
    (hK : Meets (step main exec) K (start x) ls)
    (hrun : run (step main exec) (start x) ls = some s) :
    ∃ ts, Tracked P E s.procs ts ∧ J s.shared ts :=
  invariant_run (I := fun s : Sys σ C A R => ∃ ts, Tracked P E s.procs ts ∧ J s.shared ts)
    (fun _ _ _ ⟨_, htr, hI⟩ hC h => tracked_step hP htr hI hC h)
    ⟨_, tracked_start x, hx⟩ hK hrun

/-! ### The rule for single processes

An invariant that speaks of one process at a time may also depend on the call the
process makes next. -/

/-- Every process has a phase from which it follows the protocol and for which, with
    its next call, `J` holds. -/
def Located (P : Protocol C A τ) (E : τ → R → Prop) (J : σ → τ → Option C → Prop)
    (s : Sys σ C A R) : Prop :=
  ∀ pid p, s.procs pid = some p → ∃ t, P.Follows E t p ∧ J s.shared t p.next?

/-- Process `pid` makes the call `c` in phase `t`, which is answered with `a`. -/
structure Calls (P : Protocol C A τ) (exec : σ → (c : C) → D → Option (A c × σ))
    (K : Sys σ C A R → Label Q D → Prop) (s : Sys σ C A R) (pid : Nat) (t : τ) (c : C) (d : D)
    (a : A c) (x' : σ) : Prop where
  proc : ∃ k, s.procs pid = some (.call c k)
  allowed : P.allowed t c
  cond : K s (.step pid d)
  exec : exec s.shared c d = some (a, x')

/-- The obligations of an invariant `G` of the shared state and `J` of every process,
    for the steps that meet `K`. -/
structure Stable (P : Protocol C A τ) (E : τ → R → Prop) (main : Q → Prog C A R)
    (exec : σ → (c : C) → D → Option (A c × σ)) (first : Q → τ)
    (K : Sys σ C A R → Label Q D → Prop) (G : σ → Prop) (J : σ → τ → Option C → Prop) : Prop where
  /-- Every program follows the protocol from its first phase. -/
  follows : ∀ req, P.Follows E (first req) (main req)
  /-- A new process satisfies `J`. -/
  spawn : ∀ x req nc, J x (first req) nc
  /-- An allowed call keeps `G`. -/
  shared : ∀ s pid t c d a x', G s.shared → J s.shared t (some c) →
    Calls P exec K s pid t c d a x' → G x'
  /-- The process that made the call satisfies `J` in its next phase. -/
  own : ∀ s pid t c d a x', G s.shared → J s.shared t (some c) →
    Calls P exec K s pid t c d a x' →
    ∀ nc, (∀ c', nc = some c' → P.allowed (P.next t c a) c') → J x' (P.next t c a) nc
  /-- The other processes still satisfy `J`. -/
  other : ∀ s pid t c d a x', G s.shared → J s.shared t (some c) →
    Calls P exec K s pid t c d a x' →
    ∀ pid' t' p', pid' ≠ pid → s.procs pid' = some p' → P.Follows E t' p' →
      J s.shared t' p'.next? → J x' t' p'.next?

variable {G : σ → Prop} {L : σ → τ → Option C → Prop}

/-- One step keeps the invariant of the shared state and of every process. -/
theorem located_step (hP : Stable P E main exec first K G L)
    (hI : G s.shared ∧ Located P E L s) (hK : K s l) (h : step main exec s l = some s') :
    G s'.shared ∧ Located P E L s' := by
  obtain ⟨hG, hloc⟩ := hI
  obtain ⟨pid, req, rfl, hp, rfl⟩ | ⟨pid, d, c, k, a, x', rfl, hp, hexec, rfl⟩ |
    ⟨pid, c, k, rfl, hp, rfl⟩ := step_cases h
  · refine ⟨hG, fun pid' p hp' => ?_⟩
    obtain ⟨-, ⟨⟩⟩ | ⟨-, hp'⟩ := update_some hp'
    · exact ⟨first req, hP.follows req, hP.spawn _ req _⟩
    · exact hloc pid' p hp'
  · obtain ⟨t, ⟨hallowed, hnext⟩, hL⟩ := hloc pid _ hp
    have hcalls : Calls P exec K s pid t c d a x' := ⟨⟨k, hp⟩, hallowed, hK, hexec⟩
    refine ⟨hP.shared s pid t c d a x' hG hL hcalls, fun pid' p hp' => ?_⟩
    obtain ⟨rfl, ⟨⟩⟩ | ⟨hpid, hp'⟩ := update_some hp'
    · refine ⟨P.next t c a, hnext a, hP.own s pid' t c d a x' hG hL hcalls _ ?_⟩
      intro c' hc'
      have hfollows := hnext a
      cases hka : k a with
      | ret r => rw [hka] at hc'; cases hc'
      | call c'' k' =>
        rw [hka] at hc' hfollows
        cases hc'
        exact hfollows.1
    · obtain ⟨t', hfollows, hL'⟩ := hloc pid' p hp'
      exact ⟨t', hfollows,
        hP.other s pid t c d a x' hG hL hcalls pid' t' p hpid hp' hfollows hL'⟩
  · refine ⟨hG, fun pid' p hp' => ?_⟩
    obtain ⟨-, hnone⟩ | ⟨-, hp'⟩ := update_some hp'
    · cases hnone
    · exact hloc pid' p hp'

/-- **Invariant rule.** Along every run whose steps meet `K`, the invariant of the
    shared state and of every process holds. -/
theorem located_run (hP : Stable P E main exec first K G L) {x : σ} (hx : G x)
    (hK : Meets (step main exec) K (start x) ls)
    (hrun : run (step main exec) (start x) ls = some s) : G s.shared ∧ Located P E L s :=
  invariant_run (I := fun s => G s.shared ∧ Located P E L s)
    (fun _ _ _ hI hC h => located_step hP hI hC h)
    ⟨hx, fun pid p hp => by cases hp⟩ hK hrun

/-- What every call of a located process keeps holds for the rest of a run. -/
theorem located_keeps (hP : Stable P E main exec first K G L) {x : σ} (hx : G x)
    {ks : List (Label Q D)} (hK : Meets (step main exec) K (start x) (ls ++ ks))
    (hls : run (step main exec) (start x) ls = some s)
    (hks : run (step main exec) s ks = some s') {F : σ → Prop} (hF : F s.shared)
    (hcall : ∀ y t c d a y', G y → L y t (some c) → P.allowed t c → exec y c d = some (a, y') →
      F y → F y') : F s'.shared := by
  obtain ⟨hbefore, hafter⟩ := hK.append hls
  refine (invariant_run (I := fun y => (G y.shared ∧ Located P E L y) ∧ F y.shared) ?_
    ⟨located_run hP hx hbefore hls, hF⟩ hafter hks).2
  rintro y l y' ⟨hy, hFy⟩ hC hstep
  refine ⟨located_step hP hy hC hstep, ?_⟩
  obtain ⟨pid, req, -, -, rfl⟩ | ⟨pid, d, c, k, a, x', -, hp, hexec, rfl⟩ | ⟨pid, c, k, -, -, rfl⟩ :=
    step_cases hstep
  · exact hFy
  · obtain ⟨t, ⟨hallowed, -⟩, hL⟩ := hy.2 pid _ hp
    exact hcall _ t c d a x' hy.1 hL hallowed hexec hFy
  · exact hFy

/-! ### Testing a condition along a run -/

/-- No process number from `n` on is in use. -/
def Below (n : Nat) (s : Sys σ C A R) : Prop := ∀ pid, n ≤ pid → s.procs pid = none

theorem below_step {n : Nat} (hs : s.Below n) (hl : l.pid < n)
    (h : step main exec s l = some s') : s'.Below n := by
  have hupdated {procs : Nat → Option (Prog C A R)} {pid : Nat} {p : Option (Prog C A R)}
      (hprocs : ∀ q, n ≤ q → procs q = none) (hpid : pid < n) :
      ∀ q, n ≤ q → Function.update procs pid p q = none := by
    intro q hq
    rw [Function.update_of_ne (by omega)]
    exact hprocs q hq
  obtain ⟨pid, req, rfl, -, rfl⟩ | ⟨pid, d, c, k, a, x', rfl, -, -, rfl⟩ | ⟨pid, c, k, rfl, -, rfl⟩ :=
    step_cases h
  · exact hupdated hs hl
  · exact hupdated hs hl
  · exact hupdated hs hl

/-- A run of processes below `n` that passes a test meets a condition, if the test decides
    the condition for such systems. -/
theorem meets_of_check_below {n : Nat} {c : Sys σ C A R → Label Q D → Bool}
    (hc : ∀ s l, s.Below n → c s l = true → K s l)
    (hls : ∀ l ∈ ls, l.pid < n) (hs : s.Below n) (h : check (step main exec) c s ls = true) :
    Meets (step main exec) K s ls := by
  induction ls generalizing s with
  | nil => trivial
  | cons l ls ih =>
    rw [check, Bool.and_eq_true] at h
    refine ⟨hc s l hs h.1, fun s' hs' => ?_⟩
    refine ih (fun l' hl' => hls l' (List.mem_cons_of_mem l hl'))
      (below_step hs (hls l List.mem_cons_self) hs') ?_
    simpa [hs'] using h.2

/-- No process but the one of the label has a call to make. -/
def soleTest (n : Nat) (s : Sys σ C A R) (l : Label Q D) : Bool :=
  (List.range n).all fun pid => pid == l.pid || (s.nextCall pid).isNone

theorem nextCall_of_soleTest {n : Nat} (hs : s.Below n)
    (h : soleTest n s l = true) (hpid : pid ≠ l.pid) : s.nextCall pid = none := by
  by_cases hlt : pid < n
  · have htest := List.all_eq_true.mp h pid (List.mem_range.mpr hlt)
    simpa [hpid] using htest
  · have hnone : s.procs pid = none := hs pid (Nat.le_of_not_lt hlt)
    simp [nextCall, hnone]

end Sys

end Process
