import SafetyRecorder.Lib.Process

namespace Process

/-!
# A program alone

What a program does when no other process makes a call before it ends.

* `Prog.advance` — the program and the state after some of its calls;
* `Prog.Ensures exec I Q p s` — run alone from `s`, the program keeps `I` at every
  call and ends with `Q`;
* `Ensures.advance`, `Ensures.inv` — **soundness** of the judgement;
* `ensures_of_kept` — an invariant of every call;
* `ensures_seq`, `ensures_call_then` — the rules for sequential programs.
-/

namespace Prog

variable {C : Type} {A : C → Type} {R S σ D : Type}

/-- Execute as many calls as there are choices: what is left of the program, and the
    state. -/
def advance (exec : σ → (c : C) → D → Option (A c × σ)) :
    Prog C A R → σ → List D → Option (Prog C A R × σ)
  | p, s, [] => some (p, s)
  | .ret _, _, _ :: _ => none
  | .call c k, s, d :: ds => (exec s c d).bind fun r => advance exec (k r.1) r.2 ds

/-- Run alone, the program keeps `I` and ends with `Q`. -/
def Ensures (exec : σ → (c : C) → D → Option (A c × σ)) (I : σ → Prop) (Q : R → σ → Prop) :
    Prog C A R → σ → Prop
  | .ret r, s => I s ∧ Q r s
  | .call c k, s => I s ∧ ∀ d a s', exec s c d = some (a, s') → Ensures exec I Q (k a) s'

variable {exec : σ → (c : C) → D → Option (A c × σ)} {I : σ → Prop} {Q : R → σ → Prop}
variable {p p' : Prog C A R} {s s' : σ} {ds : List D}

/-- The invariant holds where the program stands. -/
theorem Ensures.inv (h : Ensures exec I Q p s) : I s := by
  cases p with
  | ret | call => exact h.1

/-- What is left of the program ensures the same. -/
theorem Ensures.advance (h : Ensures exec I Q p s)
    (hadv : p.advance exec s ds = some (p', s')) : Ensures exec I Q p' s' := by
  induction ds generalizing p s with
  | nil =>
    cases p <;> cases hadv <;> exact h
  | cons d ds ih =>
    cases p with
    | ret r => cases hadv
    | call c k =>
      obtain ⟨⟨a, m⟩, hexec, hrest⟩ := Option.bind_eq_some_iff.mp hadv
      exact ih (h.2 d a m hexec) hrest

/-- A weaker end condition is met as well. -/
theorem Ensures.mono {Q' : R → σ → Prop} (hQ : ∀ r s, I s → Q r s → Q' r s)
    (h : Ensures exec I Q p s) : Ensures exec I Q' p s := by
  induction p generalizing s with
  | ret r => exact ⟨h.1, hQ r s h.1 h.2⟩
  | call c k ih => exact ⟨h.1, fun d a s' hexec => ih a (h.2 d a s' hexec)⟩

/-- A property that every call keeps holds throughout. -/
theorem ensures_of_kept (hcall : ∀ x c d a x', I x → exec x c d = some (a, x') → I x') (hs : I s) :
    Ensures exec I (fun _ _ => True) p s := by
  induction p generalizing s with
  | ret r => exact ⟨hs, trivial⟩
  | call c k ih => exact ⟨hs, fun d a s' h => ih a (hcall s c d a s' hs h)⟩

theorem ensures_bind {Q : S → σ → Prop} {f : R → Prog C A S}
    (h : Ensures exec I (fun r s => Ensures exec I Q (f r) s) p s) :
    Ensures exec I Q (p >>= f) s := by
  induction p generalizing s with
  | ret r => exact h.2
  | call c k ih => exact ⟨h.1, fun d a s' hexec => ih a (h.2 d a s' hexec)⟩

section Except

variable {ε : Type} {Q : Except ε R → σ → Prop}

theorem ensures_pure {a : R} (hI : I s) (h : Q (.ok a) s) :
    Ensures exec I Q (pure a : ExceptT ε (Prog C A) R).run s := ⟨hI, h⟩

theorem ensures_throw {e : ε} (hI : I s) (h : Q (.error e) s) :
    Ensures exec I Q (throw e : ExceptT ε (Prog C A) R).run s := ⟨hI, h⟩

/-- Composition: an early exit of the first part ends the whole. -/
theorem ensures_seq {Q : Except ε S → σ → Prop} {x : ExceptT ε (Prog C A) R}
    {f : R → ExceptT ε (Prog C A) S}
    (h : Ensures exec I (fun r s => (∀ a, r = .ok a → Ensures exec I Q (f a).run s) ∧
      ∀ e, r = .error e → Q (.error e) s) x.run s) : Ensures exec I Q (x >>= f).run s := by
  refine ensures_bind (Ensures.mono ?_ h)
  intro r s' hI hr
  cases r with
  | ok a => exact hr.1 a rfl
  | error e => exact ⟨hI, hr.2 e rfl⟩

theorem ensures_call_then {c : C} {Q : Except ε S → σ → Prop} {f : A c → ExceptT ε (Prog C A) S}
    (hI : I s) (hf : ∀ d a s', exec s c d = some (a, s') → Ensures exec I Q (f a).run s') :
    Ensures exec I Q
      ((ExceptT.lift (Prog.perform c) : ExceptT ε (Prog C A) (A c)) >>= f).run s :=
  ⟨hI, hf⟩

end Except

end Prog

end Process
