import Mathlib.Data.List.Nodup
import Mathlib.Logic.Function.Basic

namespace SafetyRecorder.Coordination

/-!
# Coordination — upload leases

`AcquireUploadLease` and `ReleaseUploadLease` of the Valkey coordinator
(`internal/coordination/coordinator.go`), over a server whose `SET NX` and compare-and-delete are
atomic and whose keys expire at any time.  A journal of operations lists the newest one first.

* `Leased` — a lease in use is the value of its key;
* `lease_exclusive` — **a key has one lease at a time, and nobody gives back another's**;
* `empty_key_shared` — the empty key is given to everybody.
-/

/-- `UploadLease`. -/
structure UploadLease where
  key : String := ""
  token : String := ""
  acquired : Bool := false
  retryAfter : Int := 0
  deriving DecidableEq, Repr

/-- The values of the server, and the leases that were acquired and have neither expired nor been
    given back, each with its key and token. -/
structure State where
  store : String → Option String := fun _ => none
  held : List (String × String) := []

/-- What happens.  `token` is what `newLeaseToken` draws; a lost call is executed by the server and
    ends with an error. -/
inductive Op
  | acquire (key : String) (ttl : Int) (token : String) (lost : Bool)
  | release (lease : UploadLease)
  | expire (key : String)
  deriving DecidableEq, Repr

/-- `AcquireUploadLease`: the lease that is returned. -/
def acquireUploadLease (s : State) (key : String) (ttl : Int) (token : String) : UploadLease :=
  if key = "" ∨ ttl ≤ 0 then { acquired := true }
  else if (s.store key).isSome then { key, retryAfter := ttl }
  else { key, token, acquired := true, retryAfter := ttl }

/-- The value of the key is deleted, if it is the token: `DeleteIfValue`, and an expiry. -/
def State.deleteIfValue (s : State) (key token : String) : State :=
  if s.store key = some token then
    { store := Function.update s.store key none, held := s.held.filter (· ≠ (key, token)) }
  else s

/-- One operation. -/
def step (s : State) : Op → State
  | .acquire key ttl token lost =>
    if key = "" ∨ ttl ≤ 0 ∨ (s.store key).isSome then s
    else
      { store := Function.update s.store key (some token)
        held := if lost then s.held else (key, token) :: s.held }
  | .release lease =>
    -- `ReleaseUploadLease`
    if lease.key = "" ∨ lease.token = "" then s else s.deleteIfValue lease.key lease.token
  | .expire key => s.deleteIfValue key ((s.store key).getD "")

/-- The state after a journal. -/
def after : List Op → State
  | [] => {}
  | op :: earlier => step (after earlier) op

/-- The token that an operation draws. -/
def Op.token? : Op → Option String
  | .acquire _ _ token _ => some token
  | _ => none

/-- The tokens that a journal draws. -/
def tokens (ops : List Op) : List String := ops.filterMap Op.token?

/-- **The invariant**: a lease in use is the value of its key, and no key has two. -/
structure Leased (s : State) : Prop where
  stored : ∀ k t, (k, t) ∈ s.held → s.store k = some t
  once : (s.held.map Prod.fst).Nodup

section

variable {s : State}

/-- Only the value that is named is deleted. -/
theorem deleteIfValue_store {key token k t : String} :
    (s.deleteIfValue key token).store k = some t ↔ s.store k = some t ∧ (k, t) ≠ (key, token) := by
  unfold State.deleteIfValue
  by_cases hk : k = key
  · subst hk
    split <;> grind
  · split <;> simp [hk]

theorem Leased.deleteIfValue (h : Leased s) (key token : String) :
    Leased (s.deleteIfValue key token) := by
  constructor
  · intro k t hkt
    unfold State.deleteIfValue at hkt
    split at hkt
    · obtain ⟨hold, hother⟩ := List.mem_filter.mp hkt
      exact deleteIfValue_store.mpr ⟨h.stored k t hold, of_decide_eq_true hother⟩
    next hnot =>
      refine deleteIfValue_store.mpr ⟨h.stored k t hkt, ?_⟩
      rintro ⟨⟩
      exact hnot (h.stored _ _ hkt)
  · unfold State.deleteIfValue
    split
    · exact h.once.sublist (List.Sublist.map _ List.filter_sublist)
    · exact h.once

/-- **One operation** keeps the invariant. -/
theorem Leased.step (h : Leased s) (op : Op) : Leased (step s op) := by
  cases op with
  | release lease =>
    rw [Coordination.step]
    split
    · exact h
    · exact h.deleteIfValue _ _
  | expire key => exact h.deleteIfValue _ _
  | acquire key ttl token lost =>
    rw [Coordination.step]
    split
    · exact h
    next hfree =>
      have hnone : s.store key = none := by
        simpa using (not_or.mp (not_or.mp hfree).2).2
      -- a lease in use has another key
      have hkey : ∀ k t, (k, t) ∈ s.held → k ≠ key := by
        rintro k t hkt rfl
        cases hnone.symm.trans (h.stored k t hkt)
      have hkept : ∀ k t, (k, t) ∈ s.held → Function.update s.store key (some token) k = some t :=
        fun k t hkt => (Function.update_of_ne (hkey k t hkt) ..).trans (h.stored k t hkt)
      cases lost with
      | true => exact ⟨hkept, h.once⟩
      | false =>
        constructor
        · intro k t hkt
          rcases List.mem_cons.mp hkt with heq | hold
          · cases heq
            exact Function.update_self ..
          · exact hkept k t hold
        · refine List.nodup_cons.mpr ⟨fun hmem => ?_, h.once⟩
          obtain ⟨⟨k, t⟩, hkt, rfl⟩ := List.mem_map.mp hmem
          exact hkey k t hkt rfl

/-- **A whole journal** keeps the invariant. -/
theorem leased_after (ops : List Op) : Leased (after ops) := by
  induction ops with
  | nil => exact ⟨by simp [after], List.nodup_nil⟩
  | cons op ops ih => exact ih.step op

/-- A token that the server does not hold, and that is not drawn again, does not come back. -/
theorem gone_after {k t : String} {earlier later : List Op} (hnew : t ∉ tokens later)
    (h : (after earlier).store k ≠ some t) : (after (later ++ earlier)).store k ≠ some t := by
  induction later with
  | nil => exact h
  | cons op later ih =>
    have hold := ih fun hmem => hnew (by cases op <;> simp [tokens, Op.token?] at hmem ⊢ <;> grind)
    intro hstore
    simp only [List.cons_append, after] at hstore
    cases op with
    | release lease =>
      rw [step] at hstore
      split at hstore
      · exact hold hstore
      · exact hold (deleteIfValue_store.mp hstore).1
    | expire key => exact hold (deleteIfValue_store.mp hstore).1
    | acquire key ttl token lost =>
      rw [step] at hstore
      split at hstore
      · exact hold hstore
      · by_cases hk : k = key
        · subst hk
          simp only [Function.update_self, Option.some.injEq] at hstore
          exact hnew (by simp [tokens, Op.token?, hstore])
        · exact hold ((Function.update_of_ne hk ..).symm.trans hstore)

end

/-- What an acquired lease is: it names the key and the token, and is in use from now on. -/
theorem acquired_held {key token : String} {ttl : Int} (s : State) (hkey : key ≠ "") (httl : 0 < ttl)
    (h : (acquireUploadLease s key ttl token).acquired = true) :
    acquireUploadLease s key ttl token = ⟨key, token, true, ttl⟩ ∧
      (step s (.acquire key ttl token false)).held = (key, token) :: s.held := by
  cases hstore : s.store key <;>
    simp [acquireUploadLease, step, hkey, Int.not_le.mpr httl, hstore] at h ⊢

/-- **A key has one lease at a time.** After every journal of operations that draw different tokens:
    a call with a key and a lifetime that acquires a lease has it in use; of the leases in use, each
    is the value of its key, and no two have one key; giving a lease back changes no key that has
    another value; and a lease that was given back once is not given back again. -/
theorem lease_exclusive {ops : List Op} (htokens : (tokens ops).Nodup) :
    (∀ key ttl token, key ≠ "" → 0 < ttl →
      (acquireUploadLease (after ops) key ttl token).acquired = true →
      acquireUploadLease (after ops) key ttl token = ⟨key, token, true, ttl⟩ ∧
        (after (.acquire key ttl token false :: ops)).held = (key, token) :: (after ops).held) ∧
    (∀ k t, (k, t) ∈ (after ops).held → (after ops).store k = some t) ∧
    ((after ops).held.map Prod.fst).Nodup ∧
    (∀ lease k t, (after ops).store k = some t → (k, t) ≠ (lease.key, lease.token) →
      (after (.release lease :: ops)).store k = some t) ∧
    ∀ lease later earlier, ops = later ++ .release lease :: earlier →
      lease.token ∈ tokens earlier → after (.release lease :: ops) = after ops := by
  refine ⟨fun key ttl token => acquired_held _, (leased_after ops).stored, (leased_after ops).once,
    ?_, ?_⟩
  · intro lease k t hstore hother
    rw [after, step]
    split
    · exact hstore
    · exact deleteIfValue_store.mpr ⟨hstore, hother⟩
  · rintro lease later earlier rfl hdrawn
    rw [after, step]
    split
    · rfl
    next hproper =>
      -- the token was drawn before the first release, so nobody draws it later
      have hlater : lease.token ∉ tokens later := fun hmem => by
        simp only [tokens, List.filterMap_append, List.filterMap_cons, Op.token?] at htokens
        exact (List.nodup_append.mp htokens).2.2 _ hmem _ hdrawn rfl
      refine if_neg (gone_after hlater fun hstore => ?_)
      rw [after, step, if_neg hproper] at hstore
      exact (deleteIfValue_store.mp hstore).2 rfl

/-- Two leases for a key, the second after the first has expired; the first is given back late. -/
def sampleOps : List Op :=
  [.release ⟨"k", "a", true, 5⟩, .acquire "k" 5 "b" false, .expire "k", .acquire "k" 5 "a" false]

theorem lease_exclusive_late :
    (after sampleOps).held = [("k", "b")] ∧
      after (.release ⟨"k", "a", true, 5⟩ :: sampleOps) = after sampleOps :=
  ⟨by decide, (lease_exclusive (by decide)).2.2.2.2 _ [] _ rfl (by decide)⟩

/-- **The empty key is given to everybody**: two calls acquire it at once. -/
theorem empty_key_shared :
    acquireUploadLease {} "" 5 "a" = { acquired := true } ∧
      acquireUploadLease (after [.acquire "" 5 "a" false]) "" 5 "b" = { acquired := true } := by
  decide

end SafetyRecorder.Coordination
