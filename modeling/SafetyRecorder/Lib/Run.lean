import Mathlib.Data.List.Basic

namespace Runs

/-!
# Runs of a labelled transition system

A system is a partial step function `step : σ → ℓ → Option σ`: the label carries
every choice the environment makes, so a run is a list of labels.

* `run step s ls` executes the labels `ls` from `s`;
* `Meets step C s ls` — every step of that run meets the condition `C` on the
  state before the step and the label taken;
* `invariant_run` — a property kept by every step that meets `C` holds in every
  state such a run reaches;
* `run_append` / `Meets.append` — cutting a run at an intermediate state;
* `check` / `meets_of_check` — deciding a condition along a given run.
-/

variable {σ : Type*} {ℓ : Type*}

/-- Execute a list of labels; `none` as soon as one of them is not enabled. -/
def run (step : σ → ℓ → Option σ) : σ → List ℓ → Option σ
  | s, [] => some s
  | s, l :: ls => (step s l).bind fun s' => run step s' ls

/-- Every step of the run `ls` from `s` meets the condition `C`. -/
def Meets (step : σ → ℓ → Option σ) (C : σ → ℓ → Prop) : σ → List ℓ → Prop
  | _, [] => True
  | s, l :: ls => C s l ∧ ∀ s', step s l = some s' → Meets step C s' ls

variable {step : σ → ℓ → Option σ} {C : σ → ℓ → Prop}

variable {s s' : σ} {ls : List ℓ}

@[simp] theorem run_nil (s : σ) : run step s [] = some s := rfl

/-- The first label of a run leads to the state the rest starts from. -/
theorem run_cons {l : ℓ} :
    run step s (l :: ls) = some s' ↔ ∃ m, step s l = some m ∧ run step m ls = some s' := by
  simp [run, Option.bind_eq_some_iff]

/-- A run over two lists of labels passes through the state between them. -/
theorem run_append {ls ks : List ℓ} :
    run step s (ls ++ ks) = some s' ↔
      ∃ m, run step s ls = some m ∧ run step m ks = some s' := by
  induction ls generalizing s with
  | nil => simp
  | cons l ls ih =>
    rw [List.cons_append, run_cons]
    constructor
    · rintro ⟨m, hm, hrest⟩
      obtain ⟨n, hn, hks⟩ := ih.mp hrest
      exact ⟨n, run_cons.mpr ⟨m, hm, hn⟩, hks⟩
    · rintro ⟨n, hn, hks⟩
      obtain ⟨m, hm, hls⟩ := run_cons.mp hn
      exact ⟨m, hm, ih.mpr ⟨n, hls, hks⟩⟩

/-- The two parts of a run that meets a condition meet it as well. -/
theorem Meets.append {s m : σ} {ls ks : List ℓ} (h : Meets step C s (ls ++ ks))
    (hrun : run step s ls = some m) : Meets step C s ls ∧ Meets step C m ks := by
  induction ls generalizing s with
  | nil =>
    rw [run_nil, Option.some.injEq] at hrun
    subst hrun
    exact ⟨trivial, h⟩
  | cons l ls ih =>
    obtain ⟨n, hn, hrest⟩ := run_cons.mp hrun
    obtain ⟨hC, htail⟩ := h
    refine ⟨⟨hC, ?_⟩, (ih (htail n hn) hrest).2⟩
    intro n' hn'
    rw [hn, Option.some.injEq] at hn'
    subst hn'
    exact (ih (htail n hn) hrest).1

theorem Meets.mono {C' : σ → ℓ → Prop} {s : σ} (h : Meets step C s ls)
    (hC : ∀ s l, C s l → C' s l) : Meets step C' s ls := by
  induction ls generalizing s with
  | nil => trivial
  | cons l ls ih => exact ⟨hC s l h.1, fun s' hs' => ih (h.2 s' hs')⟩

/-- A condition that every label of a run meets in every state is met by the run. -/
theorem meets_of_labels (h : ∀ l ∈ ls, ∀ s, C s l) (s : σ) : Meets step C s ls := by
  induction ls generalizing s with
  | nil => trivial
  | cons l ls ih =>
    exact ⟨h l List.mem_cons_self s,
      fun s' _ => ih (fun l' hl' => h l' (List.mem_cons_of_mem l hl')) s'⟩

/-- Evaluate a test at every step of a run. -/
def check (step : σ → ℓ → Option σ) (c : σ → ℓ → Bool) : σ → List ℓ → Bool
  | _, [] => true
  | s, l :: ls => c s l && (step s l).all fun s' => check step c s' ls

/-- A run that passes a test meets the condition the test decides. -/
theorem meets_of_check {c : σ → ℓ → Bool} (hc : ∀ s l, c s l = true → C s l) {s : σ}
    (h : check step c s ls = true) : Meets step C s ls := by
  induction ls generalizing s with
  | nil => trivial
  | cons l ls ih =>
    rw [check, Bool.and_eq_true] at h
    refine ⟨hc s l h.1, fun s' hs' => ih ?_⟩
    simpa [hs'] using h.2

/-- **Invariant rule.** A property kept by every step that meets `C` is kept by
    every run whose steps meet `C`. -/
theorem invariant_run {I : σ → Prop} (hstep : ∀ s l s', I s → C s l → step s l = some s' → I s')
    (hs : I s) (hC : Meets step C s ls) (hrun : run step s ls = some s') : I s' := by
  induction ls generalizing s with
  | nil =>
    rw [run_nil, Option.some.injEq] at hrun
    exact hrun ▸ hs
  | cons l ls ih =>
    obtain ⟨m, hm, hrest⟩ := run_cons.mp hrun
    exact ih (hstep s l m hs hC.1 hm) (hC.2 m hm) hrest

/-- The invariant rule for runs without a side condition. -/
theorem invariant_of_step {I : σ → Prop} (hstep : ∀ s l s', I s → step s l = some s' → I s')
    (hs : I s) (hrun : run step s ls = some s') : I s' :=
  invariant_run (C := fun _ _ => True) (fun s l s' hi _ h => hstep s l s' hi h) hs
    (meets_of_labels (fun _ _ _ => trivial) s) hrun

end Runs
