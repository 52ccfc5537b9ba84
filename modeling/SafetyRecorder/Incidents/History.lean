import SafetyRecorder.Lib.Run
import SafetyRecorder.Incidents.Consistency

namespace SafetyRecorder

open Runs

/-!
# Incidents — histories of atomic transactions

The SQLite repository runs its write transactions one after the other.  A history is
a sequence of such calls, each with the clock it reads, from the empty database.

* `Repository`, `repositoryStep` — the database and the number of identifiers drawn;
  a call that fails leaves the database as it was;
* `repositoryStep_cases` — **inversion**: a step has an effect or changes no row;
* `consistent_history`, `chunks_history`, `rows_history` — what holds along every
  history.
-/

/-- The repository between two transactions. -/
structure Repository where
  db : DB := {}
  nextID : Nat := 0
  deriving DecidableEq, Repr

/-- One call of a write transaction, at the given time. -/
def repositoryStep (env : Env) (s : Repository) (l : Tx × Time) : Option Repository :=
  let drawn := s.nextID + l.1.draws s.db
  match l.1.run env ⟨s.nextID, l.2⟩ s.db with
  | .ok (_, db') => some ⟨db', drawn⟩
  | .error _ => some ⟨s.db, drawn⟩

variable {env : Env} {s s' : Repository} {l : Tx × Time}

/-- **Inversion.** The call succeeded, or it left the database alone. -/
theorem repositoryStep_cases (h : repositoryStep env s l = some s') :
    s'.nextID = s.nextID + l.1.draws s.db ∧
      ((∃ r, l.1.run env ⟨s.nextID, l.2⟩ s.db = .ok (r, s'.db)) ∨ s'.db = s.db) := by
  unfold repositoryStep at h
  split at h
  next r db' hrun =>
    obtain ⟨⟩ := h
    exact ⟨rfl, .inl ⟨r, hrun⟩⟩
  next e hrun =>
    obtain ⟨⟩ := h
    exact ⟨rfl, .inr rfl⟩

/-- A step has an effect on the database or leaves it alone. -/
theorem repositoryStep_effect (h : repositoryStep env s l = some s') :
    Effect env ⟨s.nextID, l.2⟩ l.1 s.db s'.db ∨ s'.db = s.db := by
  obtain ⟨-, ⟨r, hrun⟩ | hsame⟩ := repositoryStep_cases h
  · exact .inl (effect_of_run hrun)
  · exact .inr hsame

/-- A step keeps the deletion tables consistent. -/
theorem consistent_step (hc : Consistent env s.nextID s.db)
    (h : repositoryStep env s l = some s') : Consistent env s'.nextID s'.db := by
  have hdraws := (repositoryStep_cases h).1
  rcases repositoryStep_effect h with heff | hsame
  · rw [hdraws]
    exact consistent_effect (d := ⟨s.nextID, l.2⟩) hc heff
  · rw [hdraws, hsame]
    exact hc.mono (Nat.le_add_right _ _)

/-- A step keeps a frozen incident frozen. -/
theorem frozen_step {i : String} (hi : Frozen env s.nextID s.db i)
    (h : repositoryStep env s l = some s') : Frozen env s'.nextID s'.db i := by
  have hdraws := (repositoryStep_cases h).1
  rcases repositoryStep_effect h with heff | hsame
  · rw [hdraws]
    exact frozen_effect (d := ⟨s.nextID, l.2⟩) hi heff
  · rw [hdraws, hsame]
    exact ⟨hi.1.mono (Nat.le_add_right _ _), hi.2⟩

/-- Every history keeps the deletion tables consistent. -/
theorem consistent_history {ls : List (Tx × Time)} (h : run (repositoryStep env) {} ls = some s) :
    Consistent env s.nextID s.db :=
  invariant_of_step (I := fun s : Repository => Consistent env s.nextID s.db)
    (fun _ _ _ hc hstep => consistent_step hc hstep) (consistent_empty env) h

/-- No chunk is added below a frozen incident. -/
theorem chunks_history {i : String} (hi : Frozen env s.nextID s.db i) {ks : List (Tx × Time)}
    (h : run (repositoryStep env) s ks = some s') {c : Chunk} (hc : c ∈ s'.db.chunks)
    (hci : c.incidentID = i) : c ∈ s.db.chunks := by
  have hinv : Frozen env s'.nextID s'.db i ∧
      ∀ c ∈ s'.db.chunks, c.incidentID = i → c ∈ s.db.chunks := by
    refine invariant_of_step (I := fun x : Repository => Frozen env x.nextID x.db i ∧
      ∀ c ∈ x.db.chunks, c.incidentID = i → c ∈ s.db.chunks) ?_ ⟨hi, fun c hc _ => hc⟩ h
    rintro x l x' ⟨hfrozen, hold⟩ hstep
    refine ⟨frozen_step hfrozen hstep, fun c hc hci => hold c ?_ hci⟩
    rcases repositoryStep_effect hstep with heff | hsame
    · exact chunks_of_frozen hfrozen heff hc hci
    · exact hsame ▸ hc
  exact hinv.2 c hc hci

/-- A frozen incident without rows stays without rows. -/
theorem rows_history {i : String} (hi : Frozen env s.nextID s.db i) (hnone : i ∉ s.db.childIncidents)
    {ks : List (Tx × Time)} (h : run (repositoryStep env) s ks = some s') :
    i ∉ s'.db.childIncidents := by
  have hinv : Frozen env s'.nextID s'.db i ∧ i ∉ s'.db.childIncidents := by
    refine invariant_of_step (I := fun x : Repository => Frozen env x.nextID x.db i ∧
      i ∉ x.db.childIncidents) ?_ ⟨hi, hnone⟩ h
    rintro x l x' ⟨hfrozen, hless⟩ hstep
    refine ⟨frozen_step hfrozen hstep, ?_⟩
    rcases repositoryStep_effect hstep with heff | hsame
    · exact rows_of_frozen hfrozen hless heff
    · rw [hsame]
      exact hless
  exact hinv.2

end SafetyRecorder
