import SafetyRecorder.Lib.Lifecycle

namespace Sql

open Process Runs

/-!
# Closed rows under row locks

The discipline of `Lifecycle` on a server under `READ COMMITTED`, where the statements of
different transactions interleave.

* `Lifecycle.wireProtocol`, `compile_follows` — the discipline of the statements a program
  issues, from the discipline of the program;
* `Server.Frame` — what a call leaves alone: the rows that other transactions have locked;
* `Server.Sound` — the changes of a transaction in progress go to open rows it has locked;
* `Server.Holds` — what a program may rely on at its next call;
* `Server.closed_run` — along every undisturbed run a closed row keeps its stage.
-/

/-- Where a program on the wire stands: outside a transaction with what it has read last,
    or in a transaction with the rows it holds and has found open. -/
inductive Lifecycle.WirePhase {S : Schema} (L : Lifecycle S)
  | outside (t : Option (S.Key × L.Stage))
  | inside (tx : Nat) (ks : List S.Key)

/-- The discipline on the wire. -/
def Lifecycle.wireProtocol {S : Schema} (L : Lifecycle S) :
    Protocol S.Wire S.WireAnswer L.WirePhase where
  allowed
    | .outside t, .exec s => L.WritesBack t s
    | .outside _, .begin => True
    | .inside tx ks, .stmt tx' s => tx' = tx ∧ ∀ k p, L.sets s = some (k, p) → k ∈ ks
    | .inside _ _, .commit _ => True
    | _, .rollback _ => True
    | _, _ => False
  next
    | .outside _, .exec s, a => .outside (L.seen s a)
    | .outside _, .begin, a =>
      match a.1 with
      | .ok tx => .inside tx []
      | .error _ => .outside none
    | .inside tx ks, .stmt _ s, a => .inside tx (L.held ks s a)
    | _, _, _ => .outside none

namespace Lifecycle

variable {S : Schema} {L : Lifecycle S} {R : Type}

/-- The statements of a disciplined transaction. -/
theorem inTx_follows {Q : L.WirePhase → R → Prop} {tx : Nat} {ks : List S.Key} {body : S.Body R}
    (hbody : L.bodyProtocol.Follows (fun _ _ => True) ks body)
    (hQ : ∀ ks r, Q (.inside tx ks) r) :
    L.wireProtocol.Follows Q (.inside tx ks) (Schema.inTx tx body) := by
  induction body generalizing ks with
  | ret r => exact hQ ks r
  | call s k ih => exact ⟨⟨rfl, hbody.1⟩, fun a => ih a (hbody.2 a)⟩

/-- A disciplined transaction on the wire ends outside a transaction. -/
theorem transact_follows {α : Type} {Q : L.WirePhase → Except S.Failure α → Prop}
    {t : Option (S.Key × L.Stage)} {body : Tick → S.Body (Except S.Failure α)}
    (hbody : L.Disciplined body) (hQ : ∀ r, Q (.outside none) r) :
    L.wireProtocol.Follows Q (.outside t) (Schema.transact body) := by
  refine ⟨trivial, fun a => ?_⟩
  obtain ⟨a, tick⟩ := a
  cases a with
  | error e => exact hQ _
  | ok tx =>
    refine Protocol.follows_bind (inTx_follows (hbody tick) fun ks r => ?_)
    cases r with
    | error e => exact ⟨trivial, fun _ => hQ _⟩
    | ok v =>
      refine ⟨trivial, fun a => ?_⟩
      cases a with
      | ok | error => exact hQ _

/-- The statements of a disciplined program are disciplined. -/
theorem compile_follows {t : Option (S.Key × L.Stage)} {p : S.Proc R}
    (hp : L.protocol.Follows (fun _ _ => True) t p) :
    L.wireProtocol.Follows (fun _ _ => True) (.outside t) (Schema.compile p) := by
  induction p generalizing t with
  | ret r => trivial
  | call c k ih =>
    cases c with
    | exec s => exact ⟨hp.1, fun a => ih a (hp.2 a)⟩
    | transaction kind body =>
      exact Protocol.follows_bind (transact_follows hp.1 fun a => ih a (hp.2 a))

end Lifecycle

namespace Server

variable {S : Schema} {L : Lifecycle S} {P : S.Key → Bool} {R Q : Type}
variable {w w' : Server S} {ch : Choice}

/-- Programs over a server under `READ COMMITTED`. -/
abbrev System (S : Schema) (R : Type) : Type := Sys (Server S) S.Wire S.WireAnswer R

/-- No other program is about to write unchecked one of the rows the step commits a write
    to. -/
def Undisturbed (L : Lifecycle S) (P : S.Key → Bool) (s : System S R) : Label Q Choice → Prop
  | .step pid _ => ∀ pid' c stmt k p, pid' ≠ pid → s.nextCall pid = some c →
      s.nextCall pid' = some (.exec stmt) → L.sets stmt = some (k, p) → P k = true →
      k ∉ s.shared.writes c
  | _ => True

/-- A process without company disturbs no other. -/
theorem undisturbed_of_soleTest {n : Nat} (s : System S R) (l : Label Q Choice) (hs : s.Below n)
    (h : Sys.soleTest n s l = true) : Undisturbed L P s l := by
  cases l with
  | spawn | crash => trivial
  | step pid ch =>
    intro pid' c stmt k p hpid _ hnext
    rw [Sys.nextCall_of_soleTest hs h hpid] at hnext
    cases hnext

/-! What a call can do. -/

/-- What a call leaves alone: the transactions that are still in progress after it keep
    their locks, and what they have locked. -/
structure Frame (L : Lifecycle S) (w w' : Server S) : Prop where
  nextTx : w.nextTx ≤ w'.nextTx
  txs : ∀ tx, tx < w.nextTx → w'.txs tx ≠ none → w.txs tx ≠ none
  locks : ∀ tx k, w'.txs tx ≠ none → w.locks k = some tx → w'.locks k = some tx
  look : ∀ tx k, w'.txs tx ≠ none → w.locks k = some tx → L.look w'.db k = L.look w.db k

/-- The changes of a transaction in progress go to open rows it has locked. -/
structure Sound (L : Lifecycle S) (w : Server S) : Prop where
  inv : L.Inv w.db
  pending : ∀ tx cs k, w.txs tx = some cs → k ∈ Schema.touched cs →
    w.locks k = some tx ∧ L.Open w.db k

variable {tx : Nat} {k : S.Key}

/-- What holds of locked rows survives a call. -/
theorem Frame.held (h : Frame L w w') (htx : w'.txs tx ≠ none)
    (hk : w.locks k = some tx ∧ L.Open w.db k) : w'.locks k = some tx ∧ L.Open w'.db k := by
  refine ⟨h.locks tx k htx hk.1, ?_⟩
  unfold Lifecycle.Open
  rw [h.look tx k htx hk.1]
  exact hk.2

/-- A sound server after a call: what is new in the transactions has to be checked. -/
theorem Sound.of_frame (hw : Sound L w) (h : Frame L w w') (hinv : L.Inv w'.db)
    (hnew : ∀ tx cs k, w'.txs tx = some cs → k ∈ Schema.touched cs →
      (∃ cs₀, w.txs tx = some cs₀ ∧ k ∈ Schema.touched cs₀) ∨
        w'.locks k = some tx ∧ L.Open w'.db k) : Sound L w' where
  inv := hinv
  pending tx cs k hcs hk := by
    obtain ⟨cs₀, hcs₀, hk₀⟩ | hheld := hnew tx cs k hcs hk
    · exact h.held (by simp [hcs]) (hw.pending tx cs₀ k hcs₀ hk₀)
    · exact hheld

/-- Ending a transaction without a commit. -/
theorem frame_close (tx : Nat) : Frame L w (w.close tx) where
  nextTx := Nat.le_refl _
  txs tx' _ h := by
    obtain ⟨cs, hcs⟩ := Option.ne_none_iff_exists'.mp h
    simp [(close_txs hcs).2]
  locks tx' k h hk := by
    obtain ⟨cs, hcs⟩ := Option.ne_none_iff_exists'.mp h
    exact close_locks (close_txs hcs).1 hk
  look _ _ _ _ := rfl

theorem sound_close (hw : Sound L w) (tx : Nat) : Sound L (w.close tx) :=
  hw.of_frame (frame_close tx) hw.inv fun _ cs _ hcs hk => .inl ⟨cs, (close_txs hcs).2, hk⟩

/-- The number of the next answer plays no role. -/
theorem sound_serial (hw : Sound L w) (n : Nat) : Sound L { w with serial := n } :=
  ⟨hw.inv, hw.pending⟩

theorem frame_serial (n : Nat) : Frame L w { w with serial := n } where
  nextTx := Nat.le_refl _
  txs _ _ h := h
  locks _ _ _ h := h
  look _ _ _ _ := rfl

theorem frame_begin {a : S.WireAnswer .begin} (h : w.exec .begin ch = some (a, w')) :
    Frame L w w' ∧ w'.db = w.db ∧
      (∀ tx cs, w'.txs tx = some cs → w.txs tx = some cs ∨ cs = []) ∧
      ∀ tx, a.1 = .ok tx → tx < w'.nextTx := by
  simp only [exec] at h
  split at h
  · obtain ⟨⟩ := h
    refine ⟨⟨Nat.le_succ _, ?_, fun _ _ _ hk => hk, fun _ _ _ _ => rfl⟩, rfl, ?_, ?_⟩
    · intro tx htx
      simp [Function.update_of_ne (Nat.ne_of_lt htx)]
    · intro tx cs hcs
      by_cases htx : tx = w.nextTx
      · subst htx
        exact .inr (by simpa using hcs.symm)
      · exact .inl (by simpa [Function.update_of_ne htx] using hcs)
    · intro tx htx
      cases htx
      exact Nat.lt_succ_self _
  · obtain ⟨⟩ := h
    exact ⟨frame_serial _, rfl, fun tx cs hcs => .inl hcs, fun tx htx => by cases htx⟩

variable {s : S.Stmt}

/-- **Inversion** of a statement in a transaction: it succeeded on what the transaction
    sees, or nothing is committed and the transaction is over or was over before. -/
theorem exec_stmt {a : S.Reply s} (h : w.exec (.stmt tx s) ch = some (a, w')) :
    (∃ cs r, w.txs tx = some cs ∧ w.waits (some tx) (S.locks (Schema.applyAll cs w.db) s) = false ∧
      S.answer (Schema.applyAll cs w.db) s = .ok r ∧ a.1 = .ok r ∧
      w' = { w with
        serial := w.serial + 1
        txs := Function.update w.txs tx (some (cs ++ S.changes (Schema.applyAll cs w.db) s))
        locks := fun k => if k ∈ S.locks (Schema.applyAll cs w.db) s then some tx else w.locks k }) ∨
    (∃ e, a.1 = .error e) ∧ (w' = { w with serial := w.serial + 1 } ∨
      w' = ({ w with serial := w.serial + 1 } : Server S).close tx) := by
  simp only [exec] at h
  split at h
  next htx =>
    obtain ⟨⟩ := h
    exact .inr ⟨⟨_, rfl⟩, .inl rfl⟩
  next cs hcs =>
    split at h
    · obtain ⟨⟩ := h
      exact .inr ⟨⟨_, rfl⟩, .inr rfl⟩
    · split at h
      · cases h
      next hwaits =>
        split at h
        next e he =>
          obtain ⟨⟩ := h
          exact .inr ⟨⟨e, rfl⟩, .inr rfl⟩
        next r hr =>
          obtain ⟨⟩ := h
          exact .inl ⟨cs, r, hcs, Bool.of_not_eq_true hwaits, hr, rfl, rfl⟩

/-- **Inversion** of a statement on its own. -/
theorem exec_exec {a : S.Reply s} (h : w.exec (.exec s) ch = some (a, w')) :
    (∃ r, w.waits none (S.locks w.db s) = false ∧ S.answer w.db s = .ok r ∧
      (a.1 = .ok r ∨ ∃ e, a.1 = .error e) ∧
      w' = { w with serial := w.serial + 1, db := Schema.applyAll (S.changes w.db s) w.db }) ∨
    (∃ e, a.1 = .error e) ∧ w' = { w with serial := w.serial + 1 } := by
  simp only [exec] at h
  split at h
  · obtain ⟨⟩ := h
    exact .inr ⟨⟨_, rfl⟩, rfl⟩
  · split at h
    · cases h
    next hwaits =>
      split at h
      next e he =>
        obtain ⟨⟩ := h
        exact .inr ⟨⟨e, rfl⟩, rfl⟩
      next r hr =>
        obtain ⟨⟩ := h
        refine .inl ⟨r, Bool.of_not_eq_true hwaits, hr, ?_, rfl⟩
        by_cases hf : ch.fault = .none
        · exact .inl (by simp [hf])
        · exact .inr ⟨S.failed, by simp [hf]⟩

theorem exec_commit {a : S.WireAnswer (.commit tx)} (h : w.exec (.commit tx) ch = some (a, w')) :
    (∃ cs, w.txs tx = some cs ∧ w' = { w.close tx with db := Schema.applyAll cs w.db }) ∨
      w' = w ∨ w' = w.close tx := by
  simp only [exec] at h
  split at h
  next htx =>
    obtain ⟨⟩ := h
    exact .inr (.inl rfl)
  next cs hcs =>
    split at h
    · obtain ⟨⟩ := h
      exact .inl ⟨cs, hcs, rfl⟩
    · obtain ⟨⟩ := h
      exact .inl ⟨cs, hcs, rfl⟩
    · obtain ⟨⟩ := h
      exact .inr (.inr rfl)

variable {cs : List S.Change}

/-- A transaction sees the closed rows as they are. -/
theorem Sound.keeps_view (hw : Sound L w)
    (hcs : w.txs tx = some cs) : L.Keeps w.db (Schema.applyAll cs w.db) :=
  Lifecycle.keeps_applyAll fun k hk => (hw.pending tx cs k hcs hk).2

/-- A statement on its own touches no locked row. -/
theorem free_of_exec (hwaits : w.waits none (S.locks w.db s) = false)
    (hk : k ∈ Schema.touched (S.changes w.db s)) : w.locks k = none := by
  obtain ⟨c, hc, hkc⟩ := Schema.mem_touched.mp hk
  rcases not_waits hwaits (S.touches_subset hc hkc) with hnone | hnone
  · exact hnone
  · exact hnone

theorem frame_commit (hw : Sound L w) (hcs : w.txs tx = some cs) :
    Frame L w { w.close tx with db := Schema.applyAll cs w.db } where
  nextTx := Nat.le_refl _
  txs := (frame_close (L := L) tx).txs
  locks := (frame_close (L := L) tx).locks
  look tx' k htx' hk := by
    obtain ⟨cs', hcs'⟩ := Option.ne_none_iff_exists'.mp htx'
    -- a row another transaction has locked is not among the changes
    refine Lifecycle.look_applyAll fun hmem => (close_txs hcs').1 ?_
    have hlock := (hw.pending tx cs k hcs hmem).1
    rw [hk] at hlock
    exact Option.some.inj hlock

/-- What a statement on its own leaves alone. -/
theorem frame_exec (hwaits : w.waits none (S.locks w.db s) = false) (n : Nat) :
    Frame L w { w with serial := n, db := Schema.applyAll (S.changes w.db s) w.db } where
  nextTx := Nat.le_refl _
  txs _ _ h := h
  locks _ _ _ h := h
  look tx k _ hk := by
    refine Lifecycle.look_applyAll fun hmem => ?_
    rw [free_of_exec hwaits hmem] at hk
    cases hk

/-- What a statement in a transaction leaves alone. -/
theorem frame_stmt {keys : List S.Key} (hcs : w.txs tx = some cs)
    (hwaits : w.waits (some tx) keys = false) (cs' : List S.Change) (n : Nat) :
    Frame L w { w with
      serial := n
      txs := Function.update w.txs tx (some cs')
      locks := fun k => if k ∈ keys then some tx else w.locks k } where
  nextTx := Nat.le_refl _
  txs tx' _ h := by
    by_cases htx : tx' = tx
    · simp [htx, hcs]
    · simpa [Function.update_of_ne htx] using h
  locks tx' k _ hk := by
    show (if k ∈ keys then some tx else w.locks k) = some tx'
    split
    next hmem =>
      rcases not_waits hwaits hmem with hnone | hown
      · rw [hnone] at hk
        cases hk
      · rw [← hown, hk]
    · exact hk
  look _ _ _ _ := rfl

/-! The invariant of the programs. -/

/-- Outside a transaction: see `Lifecycle.Current`.  In a transaction: the rows it has
    found open are locked and still open, as long as the transaction is in progress. -/
def Holds (L : Lifecycle S) (P : S.Key → Bool) (w : Server S) : L.WirePhase → Option S.Wire → Prop
  | .outside t, nc => ∀ s, nc = some (.exec s) → L.Current P w.db t s
  | .inside tx ks, _ => tx < w.nextTx ∧
      (w.txs tx ≠ none → ∀ k ∈ ks, w.locks k = some tx ∧ L.Open w.db k)

variable {ph : L.WirePhase}

/-- What a program holds survives the calls of others. -/
theorem Holds.frame {nc : Option S.Wire} (h : Frame L w w')
    (hlook : ∀ s k p, nc = some (.exec s) → L.sets s = some (k, p) → P k = true →
      L.look w'.db k = L.look w.db k) (hold : Holds L P w ph nc) : Holds L P w' ph nc := by
  cases ph with
  | outside t =>
    intro s hs k p q hsets hk ht
    rw [hlook s k p hs hsets hk]
    exact hold s hs k p q hsets hk ht
  | inside tx ks =>
    refine ⟨Nat.lt_of_lt_of_le hold.1 h.nextTx, fun htx k hk => ?_⟩
    exact h.held htx (hold.2 (h.txs tx hold.1 htx) k hk)

/-- The rows found open by one more statement of a transaction. -/
theorem open_held {r : S.Result s} {a : S.Reply s}
    {ks : List S.Key} (hw : Sound L w) (hcs : w.txs tx = some cs)
    (hr : S.answer (Schema.applyAll cs w.db) s = .ok r) (ha : a.1 = .ok r)
    (hk : k ∈ L.held ks s a) :
    k ∈ ks ∨ k ∈ S.locks (Schema.applyAll cs w.db) s ∧ L.Open w.db k := by
  have hinv : L.Inv (Schema.applyAll cs w.db) := Lifecycle.inv_applyAll hw.inv
  simp only [Lifecycle.held, ha] at hk
  split at hk
  next k' p hshows =>
    split at hk
    next hlock =>
      simp only [Bool.and_eq_true, Bool.not_eq_true'] at hlock
      rcases List.mem_cons.mp hk with rfl | hk
      · refine .inr ⟨L.shows_locks hinv hr hshows hlock.1, ?_⟩
        refine Lifecycle.Open.of_keeps (hw.keeps_view hcs) fun q hq => ?_
        rw [L.shows_look hinv hr hshows] at hq
        obtain ⟨⟩ := hq
        exact hlock.2
      · exact .inl hk
    · exact .inl hk
  · exact .inl hk

/-- What a statement of a transaction writes is open and locked. -/
theorem open_touched {r : S.Result s} {ks : List S.Key} (hw : Sound L w) (hcs : w.txs tx = some cs)
    (hr : S.answer (Schema.applyAll cs w.db) s = .ok r)
    (hallowed : ∀ k p, L.sets s = some (k, p) → k ∈ ks)
    (hks : ∀ k ∈ ks, w.locks k = some tx ∧ L.Open w.db k)
    (hk : k ∈ Schema.touched (S.changes (Schema.applyAll cs w.db) s)) : L.Open w.db k := by
  cases hs : L.sets s with
  | none =>
    have hopen := Lifecycle.open_of_guarded (Lifecycle.inv_applyAll hw.inv) hs hr hk
    exact Lifecycle.Open.of_keeps (hw.keeps_view hcs) hopen
  | some kp =>
    obtain rfl := Lifecycle.touched_of_sets hs hk
    exact (hks _ (hallowed _ _ hs)).2

variable {c : S.Wire} {a : S.WireAnswer c}

/-- Every call of a disciplined program leaves the other transactions alone and the server
    sound. -/
theorem frame_call (hw : Sound L w)
    (hold : Holds L P w ph (some c)) (hallowed : L.wireProtocol.allowed ph c)
    (h : w.exec c ch = some (a, w')) : Frame L w w' ∧ Sound L w' := by
  cases c with
  | «begin» =>
    obtain ⟨hframe, hdb, htxs, -⟩ := frame_begin (L := L) h
    refine ⟨hframe, hw.of_frame hframe (hdb ▸ hw.inv) fun tx cs k hcs hk => ?_⟩
    rcases htxs tx cs hcs with hcs | rfl
    · exact .inl ⟨cs, hcs, hk⟩
    · simp [Schema.touched] at hk
  | rollback tx =>
    obtain ⟨-, rfl⟩ := Prod.mk.inj (Option.some.inj h)
    exact ⟨frame_close tx, sound_close hw tx⟩
  | commit tx =>
    obtain ⟨cs, hcs, rfl⟩ | rfl | rfl := exec_commit h
    · have hframe := frame_commit hw hcs
      refine ⟨hframe, hw.of_frame hframe (Lifecycle.inv_applyAll hw.inv) fun tx' cs' k hcs' hk => ?_⟩
      exact .inl ⟨cs', (close_txs hcs').2, hk⟩
    · exact ⟨frame_serial _, hw⟩
    · exact ⟨frame_close tx, sound_close hw tx⟩
  | exec s =>
    obtain ⟨r, hwaits, -, -, rfl⟩ | ⟨-, rfl⟩ := exec_exec h
    · have hframe := frame_exec (L := L) hwaits (w.serial + 1)
      exact ⟨hframe, hw.of_frame hframe (Lifecycle.inv_applyAll hw.inv)
        fun tx cs k hcs hk => .inl ⟨cs, hcs, hk⟩⟩
    · exact ⟨frame_serial _, sound_serial hw _⟩
  | stmt tx s =>
    obtain ⟨cs, r, hcs, hwaits, hr, -, rfl⟩ | ⟨-, rfl | rfl⟩ := exec_stmt h
    · have hframe := frame_stmt (L := L) hcs hwaits
        (cs ++ S.changes (Schema.applyAll cs w.db) s) (w.serial + 1)
      refine ⟨hframe, hw.of_frame hframe hw.inv fun tx' cs' k hcs' hk => ?_⟩
      by_cases htx : tx' = tx
      · subst htx
        obtain rfl : cs ++ S.changes (Schema.applyAll cs w.db) s = cs' := by simpa using hcs'
        rw [Schema.touched, List.flatMap_append, List.mem_append] at hk
        rcases hk with hk | hk
        · exact .inl ⟨cs, hcs, hk⟩
        · -- a new write of this transaction
          cases ph with
          | outside t => exact hallowed.elim
          | inside tx ks =>
            obtain ⟨rfl, hsets⟩ := hallowed
            obtain ⟨c, hc, hkc⟩ := Schema.mem_touched.mp hk
            have hopen := open_touched hw hcs hr hsets (hold.2 (by simp [hcs])) hk
            exact .inr ⟨if_pos (S.touches_subset hc hkc), hopen⟩
      · exact .inl ⟨cs', by simpa [Function.update_of_ne htx] using hcs', hk⟩
    · exact ⟨frame_serial _, sound_serial hw _⟩
    · have hserial : Frame L w ({ w with serial := w.serial + 1 } : Server S) := frame_serial _
      have hclose := frame_close (L := L) (w := { w with serial := w.serial + 1 }) tx
      refine ⟨⟨Nat.le_refl _, hclose.txs, hclose.locks, hclose.look⟩, sound_close (sound_serial hw _) tx⟩

/-- What a program holds after its own call. -/
theorem holds_next (hw : Sound L w)
    (hold : Holds L P w ph (some c)) (hallowed : L.wireProtocol.allowed ph c)
    (h : w.exec c ch = some (a, w')) (nc : Option S.Wire) :
    Holds L P w' (L.wireProtocol.next ph c a) nc := by
  have hfresh : ∀ w : Server S, Holds L P w (.outside none) nc := by
    intro w s _ k p q _ _ ht
    cases ht
  cases c with
  | «begin» =>
    cases ph with
    | inside tx ks => exact hallowed.elim
    | outside t =>
      obtain ⟨-, -, -, hlt⟩ := frame_begin (L := L) h
      obtain ⟨a, tick⟩ := a
      cases a with
      | ok tx => exact ⟨hlt tx rfl, fun _ k hk => by simp at hk⟩
      | error e => exact hfresh w'
  | rollback | commit => cases ph <;> exact hfresh w'
  | exec s =>
    cases ph with
    | inside tx ks => exact hallowed.elim
    | outside t =>
      intro s' _
      refine Lifecycle.current_seen fun r hr k p hshows => ?_
      obtain ⟨r', -, hr', ha, rfl⟩ | ⟨⟨e, he⟩, -⟩ := exec_exec h
      · -- a read changes nothing
        have hrr : r' = r := by
          rcases ha with ha | ⟨e, he⟩
          · rw [hr] at ha
            exact (Except.ok.inj ha).symm
          · rw [hr] at he
            cases he
        subst hrr
        show L.look (Schema.applyAll (S.changes w.db s) w.db) k = some p
        rw [L.shows_changes hshows, Schema.applyAll_nil]
        exact L.shows_look hw.inv hr' hshows
      · rw [hr] at he
        cases he
  | stmt tx s =>
    cases ph with
    | outside t => exact hallowed.elim
    | inside tx' ks =>
      obtain ⟨rfl, hsets⟩ := hallowed
      have hframe := (frame_call hw hold ⟨rfl, hsets⟩ h).1
      refine ⟨Nat.lt_of_lt_of_le hold.1 hframe.nextTx, fun htx k hk => ?_⟩
      obtain ⟨cs, r, hcs, -, hr, ha, rfl⟩ | ⟨⟨e, he⟩, -⟩ := exec_stmt h
      · rcases open_held hw hcs hr ha hk with hk | ⟨hlock, hopen⟩
        · exact hframe.held htx (hold.2 (by simp [hcs]) k hk)
        · exact ⟨if_pos hlock, hopen⟩
      · have hk : k ∈ L.held ks s a := hk
        simp only [Lifecycle.held, he] at hk
        exact hframe.held htx (hold.2 (hframe.txs tx hold.1 htx) k hk)

/-- A row the call does not write keeps its stage. -/
theorem look_exec (hk : k ∉ w.writes c)
    (h : w.exec c ch = some (a, w')) : L.look w'.db k = L.look w.db k := by
  cases c with
  | «begin» => rw [(frame_begin (L := L) h).2.1]
  | rollback tx =>
    obtain ⟨-, rfl⟩ := Prod.mk.inj (Option.some.inj h)
    rfl
  | commit tx =>
    obtain ⟨cs, hcs, rfl⟩ | rfl | rfl := exec_commit h
    · simp only [writes, hcs, Option.getD_some] at hk
      exact Lifecycle.look_applyAll hk
    · rfl
    · rfl
  | exec s =>
    obtain ⟨r, -, -, -, rfl⟩ | ⟨-, rfl⟩ := exec_exec h
    · exact Lifecycle.look_applyAll hk
    · rfl
  | stmt tx s =>
    obtain ⟨cs, r, -, -, -, -, rfl⟩ | ⟨-, rfl | rfl⟩ := exec_stmt h
    · rfl
    · rfl
    · rfl

/-- What the programs have read and locked stays so. -/
theorem holds_stable {main : Q → Prog S.Wire S.WireAnswer R}
    (hmain : ∀ q, L.wireProtocol.Follows (fun _ _ => True) (.outside none) (main q)) :
    Sys.Stable L.wireProtocol (fun _ _ => True) main exec (fun _ => .outside none)
      (Undisturbed (Q := Q) L P) (Sound L) (Holds L P) where
  follows := hmain
  spawn _ _ _ s _ k p q _ _ ht := by cases ht
  shared _ _ _ _ _ _ _ hw hold hcall := (frame_call hw hold hcall.allowed hcall.exec).2
  own _ _ _ _ _ _ _ hw hold hcall nc _ := holds_next hw hold hcall.allowed hcall.exec nc
  other sys pid t c ch a w' hw hold hcall pid' t' p hpid hp _ hother := by
    refine hother.frame (frame_call hw hold hcall.allowed hcall.exec).1 fun s k q hs hsets hk => ?_
    have hnext : sys.nextCall pid' = some (.exec s) := (Sys.nextCall_of_proc hp).trans hs
    refine look_exec ?_ hcall.exec
    exact hcall.cond pid' c s k q hpid (Sys.nextCall_eq_some.mpr hcall.proc) hnext hsets hk

/-- A call of a disciplined program keeps a closed row. -/
theorem closed_exec (hw : Sound L w)
    (hold : Holds L P w ph (some c)) (hallowed : L.wireProtocol.allowed ph c)
    (h : w.exec c ch = some (a, w')) {p : L.Stage} (hk : P k = true)
    (hp : L.look w.db k = some p) (hclosed : L.closed p = true) : L.look w'.db k = some p := by
  by_cases hwrites : k ∈ w.writes c
  · cases c with
    | «begin» => cases hwrites
    | stmt | rollback => cases hwrites
    | commit tx =>
      obtain ⟨cs, hcs, rfl⟩ | rfl | rfl := exec_commit h
      · exact hw.keeps_view hcs k p hp hclosed
      · exact hp
      · exact hp
    | exec s =>
      cases ph with
      | inside tx ks => exact hallowed.elim
      | outside t =>
        obtain ⟨r, -, hr, -, rfl⟩ | ⟨-, rfl⟩ := exec_exec h
        · exact Lifecycle.keeps_stmt hw.inv hr hallowed hp hclosed
            fun q r hsets ht => hold s rfl k q r hsets hk ht
        · exact hp
  · rw [look_exec hwrites h, hp]

/-- **Closed rows stay closed** along every undisturbed run of disciplined programs. -/
theorem closed_run {main : Q → Prog S.Wire S.WireAnswer R}
    (hmain : ∀ q, L.wireProtocol.Follows (fun _ _ => True) (.outside none) (main q))
    {db : S.State} (hdb : L.Inv db) {ls ks : List (Label Q Choice)} {s s' : System S R}
    (hmeets : Meets (Sys.step main exec) (Undisturbed L P) (Sys.start { db := db }) (ls ++ ks))
    (hls : run (Sys.step main exec) (Sys.start { db := db }) ls = some s)
    (hks : run (Sys.step main exec) s ks = some s') {k : S.Key} {p : L.Stage} (hk : P k = true)
    (hp : L.look s.shared.db k = some p) (hclosed : L.closed p = true) :
    L.look s'.shared.db k = some p := by
  have hsound : Sound L ({ db := db } : Server S) := ⟨hdb, fun tx cs k hcs => by cases hcs⟩
  refine Sys.located_keeps (F := fun w : Server S => L.look w.db k = some p)
    (holds_stable (P := P) hmain) hsound hmeets hls hks hp ?_
  intro w t c ch a w' hw hold hallowed hexec hlook
  exact closed_exec hw hold hallowed hexec hk hlook hclosed

end Server

end Sql
