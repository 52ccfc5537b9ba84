import SafetyRecorder.Lib.Alone
import SafetyRecorder.Lib.Sql

namespace Sql

open Process Runs

/-!
# Closed rows

A row with a lifecycle has a stage, and some stages are closed: a row that reached one
should stay there.  Statements that check the stage of the rows they write keep this up
by themselves; a statement that writes whatever row it finds relies on what its program
has read before.

* `Lifecycle` — the stages of the rows, the statements that write without a check of their
  own (`sets`) and the reads that show a stage (`shows`);
* `Lifecycle.bodyProtocol`, `Lifecycle.protocol` — the discipline of the programs: an
  unchecked write in a transaction goes to a row the transaction has locked and found
  open, one outside a transaction to the row just read;
* `Exclusive.Undisturbed` — no call commits a write to a row that another program is about
  to write unchecked;
* `Exclusive.closed_advance` — a disciplined program that runs alone keeps a closed row;
* `Exclusive.closed_run` — on a server with one connection, along every such run of
  disciplined programs a closed row keeps its stage.
-/

/-- Rows with a lifecycle. -/
structure Lifecycle (S : Schema) where
  Stage : Type
  /-- A condition on the tables that every change keeps. -/
  Inv : S.State → Prop
  /-- The stage of a row. -/
  look : S.State → S.Key → Option Stage
  closed : Stage → Bool
  /-- The row a statement writes without checking its stage, and the stage it writes. -/
  sets : S.Stmt → Option (S.Key × Stage)
  /-- The row and the stage a read has found. -/
  shows : (s : S.Stmt) → S.Result s → Option (S.Key × Stage)
  /-- The read is `FOR UPDATE`. -/
  locking : S.Stmt → Bool
  inv_apply : ∀ {db c}, Inv db → Inv (S.apply c db)
  look_apply : ∀ {db c k}, k ∉ S.touches c → look (S.apply c db) k = look db k
  guarded : ∀ {db s r c k p}, Inv db → sets s = none → S.answer db s = .ok r →
    c ∈ S.changes db s → k ∈ S.touches c → look db k = some p → closed p = false
  sets_touches : ∀ {db s c k p k'}, sets s = some (k, p) → c ∈ S.changes db s →
    k' ∈ S.touches c → k' = k
  sets_same : ∀ {db s k p}, Inv db → sets s = some (k, p) → look db k = some p →
    look (Schema.applyAll (S.changes db s) db) k = some p
  shows_look : ∀ {db s r k p}, Inv db → S.answer db s = .ok r → shows s r = some (k, p) →
    look db k = some p
  shows_locks : ∀ {db s r k p}, Inv db → S.answer db s = .ok r → shows s r = some (k, p) →
    locking s = true → k ∈ S.locks db s
  shows_changes : ∀ {db s r k p}, shows s r = some (k, p) → S.changes db s = []

namespace Lifecycle

variable {S : Schema} (L : Lifecycle S) {R Q : Type}

/-- The row is not in a closed stage. -/
def Open (db : S.State) (k : S.Key) : Prop := ∀ p, L.look db k = some p → L.closed p = false

/-- The closed rows of `db` are in the same stage in `db'`. -/
def Keeps (db db' : S.State) : Prop :=
  ∀ k p, L.look db k = some p → L.closed p = true → L.look db' k = some p

/-- The rows a transaction holds and has found open, after one more answer. -/
def held (ks : List S.Key) (s : S.Stmt) (a : S.Reply s) : List S.Key :=
  match a.1 with
  | .error _ => ks
  | .ok r =>
    match L.shows s r with
    | some (k, p) => if L.locking s && !L.closed p then k :: ks else ks
    | none => ks

/-- The discipline of a transaction: unchecked writes go to rows it has locked and found
    open. -/
def bodyProtocol : Protocol S.Stmt S.Reply (List S.Key) where
  allowed ks s := ∀ k p, L.sets s = some (k, p) → k ∈ ks
  next := L.held

/-- What a program has read last. -/
def seen (s : S.Stmt) (a : S.Reply s) : Option (S.Key × L.Stage) :=
  match a.1 with
  | .error _ => none
  | .ok r => L.shows s r

/-- An unchecked write outside a transaction goes to the row just read; a closed stage is
    written back as it was. -/
def WritesBack (t : Option (S.Key × L.Stage)) (s : S.Stmt) : Prop :=
  ∀ k p, L.sets s = some (k, p) → ∃ q, t = some (k, q) ∧ (L.closed q = true → q = p)

/-- The transaction follows the discipline. -/
def Disciplined {α : Type} (body : Tick → S.Body α) : Prop :=
  ∀ tick, L.bodyProtocol.Follows (fun _ _ => True) [] (body tick)

/-- The discipline of a program of statements and transactions. -/
def protocol : Protocol S.Call S.Answer (Option (S.Key × L.Stage)) where
  allowed t
    | .exec s => L.WritesBack t s
    | .transaction _ body => L.Disciplined body
  next _
    | .exec s => L.seen s
    | .transaction _ _ => fun _ => none

variable {L} {db db' : S.State} {k : S.Key} {cs : List S.Change}

theorem Keeps.refl : L.Keeps db db := fun _ _ h _ => h

/-- Changes that do not touch a row leave its stage alone. -/
theorem look_applyAll (h : k ∉ Schema.touched cs) :
    L.look (Schema.applyAll cs db) k = L.look db k := by
  induction cs generalizing db with
  | nil => rfl
  | cons c cs ih =>
    simp only [Schema.touched, List.flatMap_cons, List.mem_append, not_or] at h
    rw [Schema.applyAll_cons, ih h.2, L.look_apply h.1]

theorem inv_applyAll (h : L.Inv db) : L.Inv (Schema.applyAll cs db) := by
  induction cs generalizing db with
  | nil => exact h
  | cons c cs ih => exact ih (L.inv_apply h)

/-- Changes to open rows keep every closed row. -/
theorem keeps_applyAll (h : ∀ k ∈ Schema.touched cs, L.Open db k) :
    L.Keeps db (Schema.applyAll cs db) := by
  intro k p hp hclosed
  rw [look_applyAll, hp]
  intro hk
  rw [h k hk p hp] at hclosed
  cases hclosed

/-- A row that is open after a change that keeps the closed rows was open before. -/
theorem Open.of_keeps (h : L.Keeps db db') (hopen : L.Open db' k) : L.Open db k := by
  intro p hp
  by_contra hne
  have hclosed : L.closed p = true := by simpa using hne
  exact hne (hopen p (h k p hp hclosed))

/-- A statement that checks what it writes touches open rows. -/
theorem open_of_guarded {s : S.Stmt} {r : S.Result s} (hinv : L.Inv db) (hs : L.sets s = none)
    (hr : S.answer db s = .ok r) (hk : k ∈ Schema.touched (S.changes db s)) : L.Open db k := by
  obtain ⟨c, hc, hkc⟩ := Schema.mem_touched.mp hk
  exact fun p hp => L.guarded hinv hs hr hc hkc hp

/-- The rows an unchecked write touches. -/
theorem touched_of_sets {s : S.Stmt} {k' : S.Key} {p : L.Stage} (hs : L.sets s = some (k, p))
    (hk : k' ∈ Schema.touched (S.changes db s)) : k' = k := by
  obtain ⟨c, hc, hkc⟩ := Schema.mem_touched.mp hk
  exact L.sets_touches hs hc hkc

/-- A disciplined transaction that runs on its own keeps the rows that were closed before
    it. -/
theorem keeps_runBody {now : Int} {body : S.Body R} {db₀ : S.State} {ks : List S.Key} {n : Nat}
    (hbody : L.bodyProtocol.Follows (fun _ _ => True) ks body) (hinv : L.Inv db)
    (hkeeps : L.Keeps db₀ db) (hks : ∀ k ∈ ks, L.Open db₀ k) :
    L.Keeps db₀ (Schema.runBody now body db n).2.1 := by
  induction body generalizing db ks n with
  | ret r => exact hkeeps
  | call s k ih =>
    obtain ⟨hallowed, hnext⟩ := hbody
    rw [Schema.runBody]
    cases hr : S.answer db s with
    | error e => exact ih _ (hnext _) hinv hkeeps hks
    | ok r =>
      -- whatever the statement writes was open before the transaction
      have hopen : ∀ k ∈ Schema.touched (S.changes db s), L.Open db₀ k := by
        intro k' hk'
        cases hs : L.sets s with
        | none => exact Open.of_keeps hkeeps (open_of_guarded hinv hs hr hk')
        | some kp =>
          obtain rfl := touched_of_sets hs hk'
          exact hks _ (hallowed _ _ hs)
      have hkeeps' : L.Keeps db₀ (Schema.applyAll (S.changes db s) db) := by
        intro k' p hp hclosed
        rw [look_applyAll, hkeeps k' p hp hclosed]
        intro hk'
        rw [hopen k' hk' p hp] at hclosed
        cases hclosed
      refine ih _ (hnext _) (inv_applyAll hinv) hkeeps' ?_
      intro k' hk'
      simp only [bodyProtocol, held] at hk'
      split at hk'
      next k₁ p hshows =>
        split at hk'
        next hlock =>
          rcases List.mem_cons.mp hk' with rfl | hk'
          · refine Open.of_keeps hkeeps fun q hq => ?_
            rw [L.shows_look hinv hr hshows] at hq
            obtain ⟨⟩ := hq
            simp only [Bool.and_eq_true, Bool.not_eq_true'] at hlock
            exact hlock.2
          · exact hks k' hk'
        · exact hks k' hk'
      · exact hks k' hk'

/-- A write that goes back to a row in the stage its program has read keeps the closed
    rows. -/
theorem keeps_stmt {s : S.Stmt} {r : S.Result s} {t : Option (S.Key × L.Stage)} (hinv : L.Inv db)
    (hr : S.answer db s = .ok r) (hs : L.WritesBack t s) {k : S.Key} {p : L.Stage}
    (hp : L.look db k = some p) (hclosed : L.closed p = true)
    (hread : ∀ q r, L.sets s = some (k, q) → t = some (k, r) → L.look db k = some r) :
    L.look (Schema.applyAll (S.changes db s) db) k = some p := by
  by_cases hk : k ∈ Schema.touched (S.changes db s)
  · cases hsets : L.sets s with
    | none =>
      have hopen := open_of_guarded hinv hsets hr hk p hp
      rw [hopen] at hclosed
      cases hclosed
    | some kp =>
      obtain ⟨k', q⟩ := kp
      obtain rfl := touched_of_sets hsets hk
      obtain ⟨r', ht, hsame⟩ := hs k q hsets
      -- the program has read the closed stage, so it writes it back
      have hr' : r' = p := by
        have hlook := hread q r' hsets ht
        rw [hp] at hlook
        exact (Option.some.inj hlook).symm
      subst hr'
      obtain rfl := hsame hclosed
      exact L.sets_same hinv hsets hp
  · rw [look_applyAll hk, hp]

/-- The row a program is about to write unchecked is in the stage the program has read. -/
def Current (L : Lifecycle S) (P : S.Key → Bool) (db : S.State) (t : Option (S.Key × L.Stage))
    (s : S.Stmt) : Prop :=
  ∀ k p q, L.sets s = some (k, p) → P k = true → t = some (k, q) → L.look db k = some q

/-- What a program has just read is the stage of the row. -/
theorem current_seen {P : S.Key → Bool} {s s' : S.Stmt} {a : S.Reply s}
    (ha : ∀ r, a.1 = .ok r → ∀ k p, L.shows s r = some (k, p) → L.look db k = some p) :
    L.Current P db (L.seen s a) s' := by
  intro k p q _ _ ht
  unfold seen at ht
  split at ht
  · cases ht
  next r hr => exact ha r hr k q ht

end Lifecycle

/-! ### One connection -/

namespace Exclusive

variable {S : Schema} {L : Lifecycle S} {P : S.Key → Bool} {R Q : Type}

/-- Programs over a server with one connection. -/
abbrev System (S : Schema) (R : Type) : Type := Sys (Exclusive S) S.Call S.Answer R

/-- No other program is about to write unchecked one of the rows the step writes. -/
def Undisturbed (L : Lifecycle S) (P : S.Key → Bool) (s : System S R) : Label Q Choice → Prop
  | .step pid ch => ∀ pid' c stmt k p, pid' ≠ pid → s.nextCall pid = some c →
      s.nextCall pid' = some (.exec stmt) → L.sets stmt = some (k, p) → P k = true →
      k ∉ s.shared.writes ch c
  | _ => True

/-- A process without company disturbs no other. -/
theorem undisturbed_of_soleTest {n : Nat} (s : System S R) (l : Label Q Choice) (hs : s.Below n)
    (h : Sys.soleTest n s l = true) : Undisturbed L P s l := by
  cases l with
  | spawn | crash => trivial
  | step pid ch =>
    intro pid' c stmt k p hpid _ hnext
    rw [Sys.nextCall_of_soleTest hs h hpid] at hnext
    cases hnext

variable {w w' : Exclusive S} {c : S.Call} {ch : Choice} {a : S.Answer c}

theorem inv_exec (hinv : L.Inv w.db) (h : w.exec c ch = some (a, w')) : L.Inv w'.db := by
  cases c with
  | exec s =>
    obtain ⟨r, -, hdb, -⟩ | ⟨hdb, -⟩ := exec_stmt h
    · exact hdb ▸ Lifecycle.inv_applyAll hinv
    · exact hdb ▸ hinv
  | transaction kind body =>
    obtain ⟨v, -, hdb, -⟩ | ⟨hdb, -⟩ := exec_transaction h
    · rw [hdb, Schema.runBody_state]
      exact Lifecycle.inv_applyAll hinv
    · exact hdb ▸ hinv

/-- A row the call does not write keeps its stage. -/
theorem look_exec {k : S.Key} (hk : k ∉ w.writes ch c) (h : w.exec c ch = some (a, w')) :
    L.look w'.db k = L.look w.db k := by
  cases c with
  | exec s =>
    obtain ⟨r, -, hdb, -⟩ | ⟨hdb, -⟩ := exec_stmt h
    · rw [hdb, Lifecycle.look_applyAll hk]
    · rw [hdb]
  | transaction kind body =>
    obtain ⟨v, -, hdb, -⟩ | ⟨hdb, -⟩ := exec_transaction h
    · rw [hdb, Schema.runBody_state, Lifecycle.look_applyAll hk]
    · rw [hdb]

/-- The invariant of a program: see `Lifecycle.Current`. -/
def Reads (L : Lifecycle S) (P : S.Key → Bool) (w : Exclusive S) (t : Option (S.Key × L.Stage))
    (nc : Option S.Call) : Prop :=
  ∀ s, nc = some (.exec s) → L.Current P w.db t s

/-- What a program has read with its own call is current right after it. -/
theorem reads_own
    (hinv : L.Inv w.db) (h : w.exec c ch = some (a, w')) (t : Option (S.Key × L.Stage))
    (nc : Option S.Call) : Reads L P w' (L.protocol.next t c a) nc := by
  intro s _
  cases c with
  | transaction kind body =>
    intro k p q _ _ ht
    cases ht
  | exec s₀ =>
    refine Lifecycle.current_seen fun r hr k p hshows => ?_
    obtain ⟨r', hr', hdb, ha⟩ | ⟨-, e, he⟩ := exec_stmt h
    · -- a read changes nothing
      have hrr : r' = r := by
        rcases ha with ha | ⟨e, he⟩
        · rw [hr] at ha
          exact (Except.ok.inj ha).symm
        · rw [hr] at he
          cases he
      subst hrr
      rw [hdb, L.shows_changes hshows, Schema.applyAll_nil]
      exact L.shows_look hinv hr' hshows
    · rw [hr] at he
      cases he

/-- What a program has read stays so until it writes. -/
theorem reads_stable {main : Q → S.Proc R}
    (hmain : ∀ q, L.protocol.Follows (fun _ _ => True) none (main q)) :
    Sys.Stable L.protocol (fun _ _ => True) main exec (fun _ => none)
      (Undisturbed (Q := Q) L P) (fun w => L.Inv w.db) (Reads L P) where
  follows := hmain
  spawn _ _ _ s _ k p q _ _ ht := by cases ht
  shared _ _ _ _ _ _ _ hinv _ hcall := inv_exec hinv hcall.exec
  own sys pid t c ch a w' hinv _ hcall nc _ := reads_own hinv hcall.exec t nc
  other sys pid t c ch a w' hinv _ hcall pid' t' p hpid hp _ hreads s hs := by
    intro k q r hsets hk ht
    have hnext : sys.nextCall pid' = some (.exec s) := (Sys.nextCall_of_proc hp).trans hs
    have hwrites : k ∉ sys.shared.writes ch c :=
      hcall.cond pid' c s k q hpid (Sys.nextCall_eq_some.mpr hcall.proc) hnext hsets hk
    rw [look_exec hwrites hcall.exec]
    exact hreads s hs k q r hsets hk ht

/-- A call of a disciplined program keeps a closed row. -/
theorem closed_exec {t : Option (S.Key × L.Stage)}
    (hinv : L.Inv w.db) (hreads : Reads L P w t (some c))
    (hallowed : L.protocol.allowed t c) (h : w.exec c ch = some (a, w')) {k : S.Key} {p : L.Stage}
    (hk : P k = true) (hp : L.look w.db k = some p) (hclosed : L.closed p = true) :
    L.look w'.db k = some p := by
  cases c with
  | exec s =>
    obtain ⟨r, hr, hdb, -⟩ | ⟨hdb, -⟩ := exec_stmt h
    · rw [hdb]
      exact Lifecycle.keeps_stmt hinv hr hallowed hp hclosed
        fun q r hsets ht => hreads s rfl k q r hsets hk ht
    · rw [hdb, hp]
  | transaction kind body =>
    obtain ⟨v, -, hdb, -⟩ | ⟨hdb, -⟩ := exec_transaction h
    · rw [hdb]
      exact Lifecycle.keeps_runBody (hallowed _) hinv .refl (by simp) k p hp hclosed
    · rw [hdb, hp]

/-- A disciplined program that runs on its own keeps a closed row. -/
theorem closed_advance {p p' : S.Proc R} {t : Option (S.Key × L.Stage)}
    {chs : List Choice} (hp : L.protocol.Follows (fun _ _ => True) t p) (hinv : L.Inv w.db)
    (hreads : Reads L P w t p.next?) (h : p.advance exec w chs = some (p', w')) {k : S.Key}
    {st : L.Stage} (hk : P k = true) (hst : L.look w.db k = some st) (hclosed : L.closed st = true) :
    L.look w'.db k = some st := by
  induction chs generalizing p w t with
  | nil => cases p <;> cases h <;> exact hst
  | cons ch chs ih =>
    cases p with
    | ret r => cases h
    | call c cont =>
      obtain ⟨⟨a, w₁⟩, hexec, hrest⟩ := Option.bind_eq_some_iff.mp h
      have hst₁ := closed_exec hinv hreads hp.1 hexec hk hst hclosed
      exact ih (hp.2 a) (inv_exec hinv hexec) (reads_own hinv hexec t _) hrest hst₁

/-- **Closed rows stay closed** along every undisturbed run of disciplined programs. -/
theorem closed_run {main : Q → S.Proc R}
    (hmain : ∀ q, L.protocol.Follows (fun _ _ => True) none (main q)) {w : Exclusive S}
    (hw : L.Inv w.db) {ls ks : List (Label Q Choice)} {s s' : System S R}
    (hmeets : Meets (Sys.step main exec) (Undisturbed L P) (Sys.start w) (ls ++ ks))
    (hls : run (Sys.step main exec) (Sys.start w) ls = some s)
    (hks : run (Sys.step main exec) s ks = some s') {k : S.Key} {p : L.Stage} (hk : P k = true)
    (hp : L.look s.shared.db k = some p) (hclosed : L.closed p = true) :
    L.look s'.shared.db k = some p := by
  refine Sys.located_keeps (F := fun w : Exclusive S => L.look w.db k = some p)
    (reads_stable (P := P) hmain) hw hmeets hls hks hp ?_
  intro w t c ch a w' hinv hreads hallowed hexec hlook
  exact closed_exec hinv hreads hallowed hexec hk hlook hclosed

end Exclusive

end Sql
