import SafetyRecorder.Auth.Records
import SafetyRecorder.Auth.Sample

namespace SafetyRecorder.Auth

open Process Protocol Runs Table

/-!
# Auth — TOTP factors along a run

Two questions about interleaved enrolments and verifications.

* Replay: `recorded` lists the time steps that were recorded for a factor, newest first.
  `Steps` ties the row of a factor to that list; `totp_steps_increase` — the steps
  increase and each of them verifies at most one session.
* The proved secret: `ProvedSecret` — the secret of an active factor is one for which a
  code was accepted.  A start of an enrolment between the reading of the secret and the
  activation of the factor breaks it (`unproved_secret_activated`); `active_secret_proved`
  is the rest.
-/

variable {env : Env} {api : API} {w w' : World}

/-! ### The identifiers of the factors -/

/-- The identifier was drawn by one of the entries. -/
def Created (env : Env) (factorID : String) (es : List Entry) : Prop :=
  ∃ e ∈ es, factorID = env.newID "sf" e.draw.next

/-- Identifiers that have been drawn are below the next one. -/
def World.Drawn (w : World) : Prop := ∀ e ∈ w.history, e.draw.next + Tx.draws ≤ w.nextID

variable {f : String} {es : List Entry}

theorem Created.cons (e : Entry) (h : Created env f es) :
    Created env f (e :: es) := by
  obtain ⟨e', he', hid⟩ := h
  exact ⟨e', List.mem_cons_of_mem _ he', hid⟩

/-- A new identifier was not drawn before. -/
theorem World.Drawn.fresh (hw : w.Drawn) : ¬ Created env (env.newID "sf" w.nextID) w.history := by
  rintro ⟨e, he, hid⟩
  have hlower : e.draw.next + Tx.draws ≤ w.nextID := hw e he
  have hsame : w.nextID = e.draw.next := env.newID_inj hid
  have hpositive : 0 < Tx.draws := by decide
  omega

variable {o : Origin} {db' : AuthDB}

theorem World.Drawn.commit (hw : w.Drawn) {t : Tx} {now : Time} :
    (w.commit t o now db').Drawn := by
  intro e he
  rcases List.mem_cons.mp he with rfl | he
  · exact Nat.le_refl _
  · exact (hw e he).trans (Nat.le_add_right _ _)

variable {c : Call} {ch : Choice} {a : Answer c}

theorem World.Drawn.exec (hw : w.Drawn) (h : exec env w c ch = some (a, w')) : w'.Drawn := by
  rcases exec_cases h with ⟨t, o, r, db', -, -, rfl⟩ | ⟨-, hhistory, hnext⟩
  · exact hw.commit
  · intro e he
    exact (hw e (hhistory ▸ he)).trans hnext

/-! ### Recorded time steps -/

/-- The time step a transaction records for the factor. -/
def Tx.records (factorID : String) : Tx → Option Int
  | .activateTOTPSecondFactor _ f _ step => if f = factorID then some step else none
  | .markTOTPSecondFactorUsed f _ step => if f = factorID then some step else none
  | _ => none

/-- The recorded time steps of the factor, newest first. -/
def recorded (factorID : String) (es : List Entry) : List Int :=
  es.filterMap fun e => e.tx.records factorID

variable {e : Entry}

theorem recorded_cons :
    recorded f (e :: es) = (e.tx.records f).toList ++ recorded f es := by
  unfold recorded
  cases h : e.tx.records f with
  | none | some => simp [h]

/-- The row of a factor and its recorded steps: none while it is pending, and the last
    one is stored while it is active. -/
def TOTPFactor.Tied (f : TOTPFactor) (steps : List Int) : Prop :=
  (f.factorState = .pending → steps = []) ∧
    (f.factorState = .active → ∃ last rest, steps = last :: rest ∧ f.lastUsedTimeStep = some last)

/-- **The invariant of the recorded steps.** -/
structure Steps (env : Env) (es : List Entry) (db : AuthDB) : Prop where
  created : ∀ f ∈ db.totpFactors, Created env f.id es
  known : ∀ f, recorded f es ≠ [] → Created env f es
  tied : ∀ f ∈ db.totpFactors, f.Tied (recorded f.id es)
  increasing : ∀ f, (recorded f es).Pairwise (· > ·)

theorem steps_boot {accounts : List Account} :
    Steps env (bootWorld accounts).history (bootWorld accounts).db :=
  ⟨by simp [bootWorld], by simp [bootWorld, recorded], by simp [bootWorld],
    by simp [bootWorld, recorded]⟩

variable {step : Int}

/-- A transaction records a step only for a stored factor, and one that is later than
    all before. -/
theorem Steps.later {d : Draw} {t : Tx} {db db' : AuthDB}
    (h : Steps env es db) (heffect : Effect env d db t db') (hstep : t.records f = some step) :
    Created env f es ∧ ∀ old ∈ recorded f es, old < step := by
  cases heffect with
  | activateTOTP accountID factorID v timeStep hpending =>
    obtain ⟨row, hrow, rfl, -, hstate⟩ := hpending
    simp only [Tx.records, Option.ite_none_right_eq_some] at hstep
    obtain ⟨rfl, -⟩ := hstep
    -- a pending factor has no recorded step
    have hnone : recorded row.id es = [] := (h.tied row hrow).1 hstate
    exact ⟨h.created row hrow, by simp [hnone]⟩
  | useTOTP factorID v timeStep hactive =>
    obtain ⟨row, hrow, rfl, hstate, hlater⟩ := hactive
    simp only [Tx.records, Option.ite_none_right_eq_some, Option.some.injEq] at hstep
    obtain ⟨rfl, rfl⟩ := hstep
    obtain ⟨last, rest, hsteps, hlast⟩ := (h.tied row hrow).2 hstate
    have hlt : last < timeStep := by simpa [hlast] using hlater
    have hsorted := h.increasing row.id
    refine ⟨h.created row hrow, fun old hold => ?_⟩
    rw [hsteps] at hold hsorted
    rcases List.mem_cons.mp hold with rfl | hold
    · exact hlt
    · exact (List.rel_of_pairwise_cons hsorted hold).trans hlt
  | _ => cases hstep

/-- The rows of the factors after a transaction, and the steps they are tied to. -/
theorem Steps.tied_commit {d : Draw} {t : Tx}
    (h : Steps env w.history w.db) (hdrawn : w.Drawn) (hdb : Sound w.db)
    (heffect : Effect env d w.db t db') (hd : d.next = w.nextID) {f' : TOTPFactor}
    (hf' : f' ∈ db'.totpFactors) :
    f'.Tied (recorded f'.id (⟨t, o, d, w.db⟩ :: w.history)) ∧
      Created env f'.id (⟨t, o, d, w.db⟩ :: w.history) := by
  rw [recorded_cons]
  -- a row that the transaction leaves alone and records nothing for
  have hkept (hf : f' ∈ w.db.totpFactors) (hnone : t.records f'.id = none) :
      f'.Tied ((t.records f'.id).toList ++ recorded f'.id w.history) ∧
        Created env f'.id (⟨t, o, d, w.db⟩ :: w.history) := by
    rw [hnone]
    exact ⟨h.tied f' hf, (h.created f' hf).cons _⟩
  cases heffect with
  | newTOTPFactor params factor haccount hid hfactor hnone =>
    rcases mem_append_row.mp hf' with hf | rfl
    · exact hkept hf rfl
    · have hfresh : recorded f'.id w.history = [] := by
        by_contra hsome
        have hcreated : Created env f'.id w.history := h.known f'.id hsome
        rw [hid, hd] at hcreated
        exact hdrawn.fresh hcreated
      refine ⟨⟨fun _ => hfresh, fun hactive => ?_⟩, _, List.mem_cons_self, hid⟩
      cases hfactor.2.symm.trans hactive
  | pendingTOTPFactor params factor hfactor haccount hpending =>
    obtain ⟨f, hf, heq⟩ := mem_updateWhere.mp hf'
    split at heq
    next hp =>
      obtain rfl : f = factor := eq_of_key hdb.totpIDs hf hfactor (beq_iff_eq.mp hp)
      have hnone : recorded f.id w.history = [] := (h.tied f hf).1 hpending
      subst heq
      refine ⟨⟨fun _ => hnone, fun hactive => ?_⟩, (h.created f hf).cons _⟩
      cases hpending.symm.trans hactive
    · exact hkept (heq ▸ hf) rfl
  | activateTOTP accountID factorID v timeStep hpending =>
    obtain ⟨row, hrow, rfl, haccount, hstate⟩ := hpending
    obtain ⟨f, hf, heq⟩ := mem_updateWhere.mp hf'
    by_cases hfid : f.id = row.id
    · -- the identifier is that of the activated factor
      obtain rfl : f = row := eq_of_key hdb.totpIDs hf hrow hfid
      rw [if_pos (by simp [haccount, hstate])] at heq
      subst heq
      have hnone : recorded f.id w.history = [] := (h.tied f hf).1 hstate
      refine ⟨⟨fun hpending => ?_, fun _ => ⟨timeStep, [], ?_, rfl⟩⟩, (h.created f hf).cons _⟩
      · cases hpending
      · simp [Tx.records, activate, hnone]
    · rw [if_neg (by simp [hfid])] at heq
      subst heq
      exact hkept hf (by simp [Tx.records, Ne.symm hfid])
  | useTOTP factorID v timeStep hactive =>
    obtain ⟨row, hrow, rfl, hstate, hlater⟩ := hactive
    obtain ⟨f, hf, heq⟩ := mem_updateWhere.mp hf'
    by_cases hfid : f.id = row.id
    · obtain rfl : f = row := eq_of_key hdb.totpIDs hf hrow hfid
      rw [if_pos (by simp [hstate, hlater])] at heq
      subst heq
      refine ⟨⟨fun hpending => ?_, fun _ => ⟨timeStep, recorded f.id w.history, ?_, rfl⟩⟩,
        (h.created f hf).cons _⟩
      · cases hpending.symm.trans hstate
      · simp [Tx.records, use]
    · rw [if_neg (by simp [hfid])] at heq
      subst heq
      exact hkept hf (by simp [Tx.records, Ne.symm hfid])
  | reset accountID admin reason event => exact hkept (mem_deleteWhere.mp hf').1 rfl
  | _ => exact hkept hf' rfl

/-- **One transaction** keeps the invariant. -/
theorem Steps.commit {d : Draw} {t : Tx}
    (h : Steps env w.history w.db) (hdrawn : w.Drawn) (hdb : Sound w.db)
    (heffect : Effect env d w.db t db') (hd : d.next = w.nextID) :
    Steps env (⟨t, o, d, w.db⟩ :: w.history) db' := by
  refine ⟨fun f hf => (h.tied_commit hdrawn hdb heffect hd hf).2, fun f hne => ?_,
    fun f hf => (h.tied_commit hdrawn hdb heffect hd hf).1, fun f => ?_⟩
  · rw [recorded_cons] at hne
    cases hrecords : t.records f with
    | none =>
      rw [hrecords] at hne
      exact (h.known f hne).cons _
    | some step => exact (h.later heffect hrecords).1.cons _
  · rw [recorded_cons]
    cases hrecords : t.records f with
    | none => exact h.increasing f
    | some step => exact List.Pairwise.cons (h.later heffect hrecords).2 (h.increasing f)

/-! ### One verification for a step -/

/-- The entry verifies a session with the time step of the factor. -/
def Entry.verifiesWith (factorID : String) (timeStep : Int) (e : Entry) : Bool :=
  match e.tx with
  | .markSessionSecondFactorVerified _ f .totp _ =>
    f == factorID && e.origin.accepted.map (·.timeStep) == some timeStep
  | _ => false

/-- A process is about to verify its session with the time step. -/
def Due (ts : Nat → Option Phase) (pid : Nat) (factorID : String) (timeStep : Int) : Prop :=
  ∃ s a code, ts pid = some (.accepted s a factorID code) ∧ code.timeStep = timeStep

/-- The returned factor is the activated one. -/
theorem activateTOTP_ok {accountID factorID : String} {v : Time} {db db' : AuthDB}
    {r : TOTPFactor × Account}
    (h : activateTOTPSecondFactor accountID factorID v step db = .ok (r, db')) :
    r.1.id = factorID := by
  simp only [activateTOTPSecondFactor, Checked.bind_ok, Checked.found_ok, Checked.pure_ok] at h
  obtain ⟨_, _, factor, hfound, account, _, heq⟩ := h
  cases heq
  have hid := List.find?_some hfound
  exact beq_iff_eq.mp hid

theorem markTOTPUsed_ok {factorID : String} {v : Time} {db db' : AuthDB}
    {r : TOTPFactor} (h : markTOTPSecondFactorUsed factorID v step db = .ok (r, db')) :
    r.id = factorID := by
  simp only [markTOTPSecondFactorUsed, Checked.bind_ok, Checked.found_ok, Checked.pure_ok] at h
  obtain ⟨_, _, factor, hfound, heq⟩ := h
  cases heq
  have hid := List.find?_some hfound
  exact beq_iff_eq.mp hid

variable {t : Phase}

/-- A session is about to be verified only after the step was recorded. -/
theorem records_of_accepted
    (hallowed : t.Allowed api c) (hexec : exec env w c ch = some (a, w')) {s acct f : String}
    {code : AcceptedCode} (h : t.next c a = .accepted s acct f code) :
    ∃ x o r db', c = .tx x o ∧ x.records f = some code.timeStep ∧
      x.run env ⟨w.nextID, ch.now⟩ w.db = .ok (r, db') ∧ w' = w.commit x o ch.now db' := by
  cases c with
  | timeNow => cases t <;> first | exact hallowed.elim | cases h
  | query q =>
    obtain ⟨value, now, ticket⟩ := a
    cases t with
    | start | looked | signedIn =>
      cases q <;> first | cases h | (cases value <;> cases h)
    | _ => exact hallowed.elim
  | tx x o =>
    obtain ⟨value, now, ticket⟩ := a
    cases t with
    | signedIn s' a' read =>
      cases x with
      | activateTOTPSecondFactor acct' f' v step =>
        obtain ⟨-, -, factor, now', code', -, -, hcode, rfl, -⟩ := hallowed
        cases value with
        | error e => cases h
        | ok result =>
          simp only [Phase.next, Phase.afterTx, hcode] at h
          cases h
          obtain ⟨db', hrun, rfl, -⟩ := exec_tx_ok hexec rfl
          have hid : result.1.id = f' := activateTOTP_ok hrun
          exact ⟨_, o, result, db', rfl, by simp [Tx.records, hid], hrun, rfl⟩
      | markTOTPSecondFactorUsed f' v step =>
        obtain ⟨factor, now', code', -, -, hcode, rfl, -⟩ := hallowed
        cases value with
        | error e => cases h
        | ok result =>
          simp only [Phase.next, Phase.afterTx, hcode] at h
          cases h
          obtain ⟨db', hrun, rfl, -⟩ := exec_tx_ok hexec rfl
          have hid : result.id = f' := markTOTPUsed_ok hrun
          exact ⟨_, o, result, db', rfl, by simp [Tx.records, hid], hrun, rfl⟩
      | updateAccountPassword => cases value <;> cases h
      | _ => cases h
    | updated =>
      cases x with
      | revokeAccountSessions => cases value <;> cases h
      | _ => exact hallowed.elim
    | _ => cases h

theorem verifiesWith_iff :
    e.verifiesWith f step = true ↔ ∃ sid v, e.tx = .markSessionSecondFactorVerified sid f .totp v ∧
      e.origin.accepted.map (·.timeStep) = some step := by
  obtain ⟨tx, o, d, db⟩ := e
  cases tx with
  | markSessionSecondFactorVerified sid g method v => cases method <;> simp [Entry.verifiesWith]
  | _ => simp [Entry.verifiesWith]

/-- A session is verified with a time step only by a process that is about to. -/
theorem accepted_of_verifiesWith (hallowed : t.Allowed api (.tx e.tx e.origin))
    (h : e.verifiesWith f step = true) : ∃ s a code, t = .accepted s a f code ∧ code.timeStep = step := by
  obtain ⟨sid, v, htx, hstep⟩ := verifiesWith_iff.mp h
  rw [htx] at hallowed
  cases t with
  | accepted s a g code =>
    obtain ⟨-, rfl, -, horigin⟩ := hallowed
    rw [horigin] at hstep
    exact ⟨s, a, code, rfl, Option.some.inj hstep⟩
  | signedIn s a read => exact (hallowed.2 rfl).elim
  | _ => exact hallowed.elim

/-- **The invariant of replay protection.** A process that is about to verify a session
    holds the only use of its time step. -/
structure Replay (env : Env) (w : World) (ts : Nat → Option Phase) : Prop where
  sound : Sound w.db
  drawn : w.Drawn
  steps : Steps env w.history w.db
  due : ∀ pid f step, Due ts pid f step →
    step ∈ recorded f w.history ∧ w.history.countP (Entry.verifiesWith f step) = 0
  alone : ∀ pid pid' f step, Due ts pid f step → Due ts pid' f step → pid = pid'
  once : ∀ f step, w.history.countP (Entry.verifiesWith f step) ≤ 1
  based : ∀ f step, w.history.countP (Entry.verifiesWith f step) ≠ 0 → step ∈ recorded f w.history

/-- Processes that are not about to verify a session do not matter. -/
theorem Replay.forget {ts ts' : Nat → Option Phase} (h : Replay env w ts)
    (hts : ∀ pid f step, Due ts' pid f step → Due ts pid f step) : Replay env w ts' where
  sound := h.sound
  drawn := h.drawn
  steps := h.steps
  due pid f step hdue := h.due pid f step (hts pid f step hdue)
  alone pid pid' f step hdue hdue' :=
    h.alone pid pid' f step (hts pid f step hdue) (hts pid' f step hdue')
  once := h.once
  based := h.based

/-- A recorded step stays recorded. -/
theorem mem_recorded_cons (h : step ∈ recorded f es) : step ∈ recorded f (e :: es) := by
  rw [recorded_cons]
  exact List.mem_append_right _ h

/-- A transaction that records a step verifies nothing. -/
theorem not_verifiesWith_of_records {f g : String} {step step' : Int}
    (h : e.tx.records f = some step) : e.verifiesWith g step' = false := by
  by_contra hverifies
  obtain ⟨sid, v, htx, -⟩ := verifiesWith_iff.mp (by simpa using hverifies)
  rw [htx] at h
  cases h

/-- **One committed transaction.** -/
theorem Replay.commit {ts ts' : Nat → Option Phase} {pid : Nat} {x : Tx}
    {now : Time} {r : x.Result} (h : Replay env w ts)
    (hrun : x.run env ⟨w.nextID, now⟩ w.db = .ok (r, db')) (ht : ts pid = some t)
    (hallowed : t.Allowed api (.tx x o))
    -- the process is about to verify only with the step it has just recorded
    (hown : ∀ f step, Due ts' pid f step → x.records f = some step)
    (hothers : ∀ pid' f step, pid' ≠ pid → Due ts' pid' f step → Due ts pid' f step) :
    Replay env (w.commit x o now db') ts' := by
  have heffect := effect_of_run hrun
  set e : Entry := ⟨x, o, ⟨w.nextID, now⟩, w.db⟩ with he
  have hcount (f : String) (step : Int) :
      (e :: w.history).countP (Entry.verifiesWith f step) =
        w.history.countP (Entry.verifiesWith f step) +
          if e.verifiesWith f step = true then 1 else 0 := List.countP_cons
  -- the entry verifies only what its process was about to verify
  have hverifies {f : String} {step : Int} (hv : e.verifiesWith f step = true) : Due ts pid f step := by
    obtain ⟨s, a, code, rfl, hstep⟩ := accepted_of_verifiesWith (e := e) hallowed hv
    exact ⟨s, a, code, ht, hstep⟩
  -- a step that has just been recorded is a new one
  have hnew {f : String} {step : Int} (hdue : Due ts' pid f step) : step ∉ recorded f w.history :=
    fun hold => lt_irrefl step ((h.steps.later heffect (hown f step hdue)).2 step hold)
  refine ⟨sound_effect h.sound heffect, h.drawn.commit,
    h.steps.commit h.drawn h.sound heffect rfl, ?_, ?_, ?_, ?_⟩
  · intro pid' f step hdue
    by_cases hpid : pid' = pid
    · subst hpid
      have hrecords : e.tx.records f = some step := hown f step hdue
      have hunused : w.history.countP (Entry.verifiesWith f step) = 0 := by
        by_contra hused
        exact hnew hdue (h.based f step hused)
      refine ⟨?_, ?_⟩
      · show step ∈ recorded f (e :: w.history)
        rw [recorded_cons, hrecords]
        exact List.mem_append_left _ (List.mem_singleton_self step)
      · show (e :: w.history).countP (Entry.verifiesWith f step) = 0
        rw [hcount, hunused, not_verifiesWith_of_records hrecords]
        rfl
    · have hdue' := hothers pid' f step hpid hdue
      obtain ⟨hmem, hunused⟩ := h.due pid' f step hdue'
      refine ⟨mem_recorded_cons hmem, ?_⟩
      show (e :: w.history).countP (Entry.verifiesWith f step) = 0
      rw [hcount, hunused, if_neg fun hv => hpid (h.alone pid' pid f step hdue' (hverifies hv))]
  · intro pid₁ pid₂ f step hdue₁ hdue₂
    by_cases hpid₁ : pid₁ = pid
    · by_cases hpid₂ : pid₂ = pid
      · exact hpid₁.trans hpid₂.symm
      · have hold := (h.due pid₂ f step (hothers pid₂ f step hpid₂ hdue₂)).1
        exact (hnew (hpid₁ ▸ hdue₁) hold).elim
    · have hdue₁' := hothers pid₁ f step hpid₁ hdue₁
      by_cases hpid₂ : pid₂ = pid
      · exact (hnew (hpid₂ ▸ hdue₂) (h.due pid₁ f step hdue₁').1).elim
      · exact h.alone pid₁ pid₂ f step hdue₁' (hothers pid₂ f step hpid₂ hdue₂)
  · intro f step
    show (e :: w.history).countP (Entry.verifiesWith f step) ≤ 1
    rw [hcount]
    split
    next hv => rw [(h.due pid f step (hverifies hv)).2]
    · exact h.once f step
  · intro f step hused
    by_cases hv : e.verifiesWith f step = true
    · exact mem_recorded_cons (h.due pid f step (hverifies hv)).1
    · refine mem_recorded_cons (h.based f step fun hunused => hused ?_)
      show (e :: w.history).countP (Entry.verifiesWith f step) = 0
      rw [hcount, hunused, if_neg hv]

variable {ts : Nat → Option Phase}

/-- The phases after a step of one process. -/
theorem due_update {pid pid' : Nat} {t : Option Phase}
    (hne : pid' ≠ pid) (h : Due (Function.update ts pid t) pid' f step) :
    Due ts pid' f step := by
  obtain ⟨s, a, code, hphase, hstep⟩ := h
  exact ⟨s, a, code, by rwa [Function.update_of_ne hne] at hphase, hstep⟩

/-- A process without a verification ahead. -/
theorem Replay.idle (h : Replay env w ts) (pid : Nat) {t : Option Phase}
    (ht : ∀ s a f code, t ≠ some (.accepted s a f code)) :
    Replay env w (Function.update ts pid t) := by
  refine h.forget fun pid' f step hdue => ?_
  by_cases hpid : pid' = pid
  · subst hpid
    obtain ⟨s, a, code, hphase, -⟩ := hdue
    rw [Function.update_self] at hphase
    exact (ht s a f code hphase).elim
  · exact due_update hpid hdue

/-- **One call** of a process that follows the discipline. -/
theorem Replay.call {pid : Nat}
    (h : Replay env w ts) (ht : ts pid = some t) (hallowed : t.Allowed api c)
    (hexec : exec env w c ch = some (a, w')) :
    Replay env w' (Function.update ts pid (some (t.next c a))) := by
  rcases exec_cases hexec with ⟨x, o, r, db', rfl, hrun, rfl⟩ | ⟨hdb, hhistory, hnext⟩
  · refine h.commit hrun ht hallowed (fun f step hdue => ?_) fun _ _ _ hne hdue => due_update hne hdue
    obtain ⟨s, acct, code, hphase, rfl⟩ := hdue
    rw [Function.update_self] at hphase
    obtain ⟨x', o', -, -, hcall, hrecords, -⟩ :=
      records_of_accepted hallowed hexec (Option.some.inj hphase)
    cases hcall
    exact hrecords
  · -- nothing was committed, so no step was recorded
    have hsame : Replay env w' ts := by
      refine ⟨hdb ▸ h.sound, h.drawn.exec hexec, ?_, ?_, h.alone, ?_, ?_⟩
      · rw [hdb, hhistory]
        exact h.steps
      all_goals rw [hhistory]
      · exact h.due
      · exact h.once
      · exact h.based
    refine hsame.idle pid fun s acct f code hphase => ?_
    obtain ⟨x, o, _, _, -, -, -, hcommit⟩ :=
      records_of_accepted hallowed hexec (Option.some.inj hphase)
    rw [hcommit] at hhistory
    exact absurd hhistory (List.cons_ne_self _ _)

variable {accounts : List Account} {ls : List (Label Request Choice)} {s : AuthServer}

/-- **Replay protection.** In every interleaving of any requests, with lost commits and
    crashes: the time steps recorded for a factor increase strictly, from its activation
    on, and each of them verifies at most one session. -/
theorem totp_steps_increase (hids : (accounts.map (·.id)).Nodup)
    (hrun : run (authStep env api) (bootAuth accounts) ls = some s) (factorID : String) :
    (recorded factorID s.shared.history).Pairwise (fun newer older => older < newer) ∧
    ∀ step, s.shared.history.countP (Entry.verifiesWith factorID step) ≤ 1 := by
  have hpreserved : Sys.Preserved (discipline api) Answers (main api) (exec env)
      (fun _ => Phase.start) (fun _ _ => True) (Replay env) :=
    { follows := main_follows
      spawn := fun x ts pid req h _ => h.idle pid (by simp)
      crash := fun s ts pid h _ => h.idle pid (by simp)
      call := fun s ts pid t c k d a x' h ht hallowed _ _ hexec => h.call ht hallowed hexec }
  have hboot : Replay env (bootWorld accounts) fun _ => none := by
    refine ⟨sound_accounts hids, by simp [World.Drawn, bootWorld], steps_boot, ?_, ?_, ?_, ?_⟩
    · rintro pid f step ⟨s, a, code, hphase, -⟩
      cases hphase
    · rintro pid pid' f step ⟨s, a, code, hphase, -⟩
      cases hphase
    · simp [bootWorld]
    · simp [bootWorld]
  have hmeets : Meets (authStep env api) (fun _ _ => True) (bootAuth accounts) ls :=
    meets_of_labels (fun _ _ _ => trivial) _
  obtain ⟨ts, -, hreplay⟩ := Sys.tracked_run hpreserved hboot hmeets hrun
  exact ⟨hreplay.steps.increasing factorID, hreplay.once factorID⟩

/-- The sample account enrols TOTP, signs in again and verifies the second session a
    minute later. -/
def verifiedRun : List (Label Request Choice) :=
  .spawn 0 (loginAs "a") :: steps 0 2 ++
  .spawn 1 (asSession "_tok" totpEnrollRoute { secret := "123456" }) :: steps 1 3 ++
  .spawn 2 (asSession "_tok" totpConfirmRoute { code := "123456" }) :: steps 2 5 ++
  .spawn 3 (loginAs "a") :: steps 3 4 ++
  .spawn 4 (asSession (sampleID "tok" 12) totpVerifyRoute { code := "123456" }) ::
    List.replicate 7 (.step 4 { later := 60000000000 })

theorem totp_steps_increase_verifiedRun :
    ∃ s,
      run (authStep sampleEnv sampleAuthAPI) (bootAuth [sampleAccount "a" .user .setupRequired])
        verifiedRun = some s ∧
      recorded (sampleID "sf" 3) s.shared.history = [1, 0] ∧
      s.shared.history.countP (Entry.verifiesWith (sampleID "sf" 3) 1) = 1 ∧
      (recorded (sampleID "sf" 3) s.shared.history).Pairwise (fun newer older => older < newer) ∧
      ∀ step, s.shared.history.countP (Entry.verifiesWith (sampleID "sf" 3) step) ≤ 1 :=
  ⟨_, rfl, rfl, rfl, @totp_steps_increase sampleEnv sampleAuthAPI
    [sampleAccount "a" .user .setupRequired] verifiedRun _ (List.nodup_singleton _) rfl _⟩

/-! ### The proved secret -/

/-- A request has presented a code that `MatchTOTPCode` accepted against the secret of
    the factor, and has activated the factor with it. -/
def ProvedSecret (api : API) (f : TOTPFactor) (es : List Entry) : Prop :=
  ∃ e ∈ es, ∃ v step code, e.tx = .activateTOTPSecondFactor f.accountID f.id v step ∧
    e.origin.accepted = some code ∧ code.secret = f.secret ∧
    matchTOTPCode api.totp f.secret code.code code.now f.periodSeconds f.digits f.algorithm =
      .ok (some code.timeStep)

/-- No enrolment of an account is started while the activation of one of its factors is
    the next call of a request. -/
def NoRestartBeforeActivation (s : AuthServer) (l : Label Request Choice) : Prop :=
  ∀ pid ch params o, l = .step pid ch →
    s.nextCall pid = some (.tx (.createTOTPSecondFactorEnrollment params) o) →
    ∀ pid' a f v step o', s.nextCall pid' = some (.tx (.activateTOTPSecondFactor a f v step) o') →
      a ≠ params.accountID

/-- The two versions of a factor have one secret, used in one way. -/
structure TOTPFactor.SameSecret (f g : TOTPFactor) : Prop where
  secret : f.secret = g.secret
  periodSeconds : f.periodSeconds = g.periodSeconds
  digits : f.digits = g.digits
  algorithm : f.algorithm = g.algorithm

/-- The factor that a process has read is still the stored one. -/
structure Current (env : Env) (w : World) (factor : TOTPFactor) (accountID : String) : Prop where
  created : Created env factor.id w.history
  owner : ∀ row ∈ w.db.totpFactors, row.id = factor.id → row.accountID = factor.accountID
  secret : factor.accountID = accountID → ∀ row ∈ w.db.totpFactors, row.id = factor.id →
    row.SameSecret factor

/-- A process whose next call activates a factor works with the stored secret. -/
def ReadsCurrent (env : Env) (w : World) (t : Phase) (next : Option Call) : Prop :=
  ∀ sid acct factor now a f v step o, t = .signedIn sid acct (some (factor, now)) →
    next = some (.tx (.activateTOTPSecondFactor a f v step) o) → Current env w factor acct

/-- Every active factor has a proved secret. -/
structure Proved (env : Env) (api : API) (w : World) : Prop where
  sound : Sound w.db
  drawn : w.Drawn
  steps : Steps env w.history w.db
  proved : ∀ f ∈ w.db.totpFactors, f.factorState = .active → ProvedSecret api f w.history

theorem ProvedSecret.cons {f : TOTPFactor} (e : Entry) (h : ProvedSecret api f es) :
    ProvedSecret api f (e :: es) := by
  obtain ⟨e', he', hrest⟩ := h
  exact ⟨e', List.mem_cons_of_mem _ he', hrest⟩

/-- **A call that the discipline allows** keeps the secrets proved, when its process works
    with the stored secret. -/
theorem Proved.exec (h : Proved env api w)
    (hallowed : t.Allowed api c) (ht : ReadsCurrent env w t (some c))
    (hexec : exec env w c ch = some (a, w')) : Proved env api w' := by
  rcases exec_cases hexec with ⟨x, o, r, db', rfl, hrun, rfl⟩ | ⟨hdb, hhistory, hnext⟩
  · have heffect := effect_of_run hrun
    refine ⟨sound_effect h.sound heffect, h.drawn.commit,
      h.steps.commit h.drawn h.sound heffect rfl, ?_⟩
    intro f' hf' hactive
    cases totpFactor_origin heffect h.sound.totpIDs hf' with
    | kept hf => exact (h.proved f' hf hactive).cons _
    | new params hx hid hpending => cases hpending.symm.trans hactive
    | refreshed params f hf hx hpending haccount heq =>
      rw [heq] at hactive
      cases hpending.symm.trans hactive
    | used v step f hf hx hstate hlater heq =>
      obtain ⟨e, he, hrest⟩ := h.proved f hf hstate
      subst heq
      exact ⟨e, List.mem_cons_of_mem _ he, hrest⟩
    | activated v step f hf hx hpending heq =>
      -- the code was accepted against the factor that was read, and that is the stored one
      subst hx
      cases t with
      | signedIn sid acct read =>
        obtain ⟨rfl, -, factor, now, code, rfl, hid, hcode, rfl, haccepts⟩ := hallowed
        have hcurrent := ht sid f.accountID factor now _ _ _ _ _ rfl rfl
        have hsame := hcurrent.secret (hcurrent.owner f hf hid).symm f hf hid
        subst heq
        refine ⟨_, List.mem_cons_self, v, code.timeStep, code, rfl, hcode, ?_, ?_⟩
        · exact haccepts.secret.trans hsame.secret.symm
        · have hmatch := haccepts.accepted
          rw [haccepts.secret, ← hsame.secret, ← hsame.periodSeconds, ← hsame.digits,
            ← hsame.algorithm] at hmatch
          exact hmatch
      | _ => exact hallowed.elim
  · refine ⟨hdb ▸ h.sound, h.drawn.exec hexec, ?_, ?_⟩
    · rw [hdb, hhistory]
      exact h.steps
    · rw [hdb, hhistory]
      exact h.proved

variable {factor : TOTPFactor}

/-- **A call of another process** leaves the factor as it was read, unless it starts an
    enrolment of the account. -/
theorem Current.exec {acct : String} (h : Current env w factor acct) (hw : Proved env api w)
    (hrestart : ∀ params o, c = .tx (.createTOTPSecondFactorEnrollment params) o →
      acct ≠ params.accountID) (hexec : Auth.exec env w c ch = some (a, w')) :
    Current env w' factor acct := by
  rcases exec_cases hexec with ⟨x, o, r, db', rfl, hrun, rfl⟩ | ⟨hdb, hhistory, hnext⟩
  · have horigin {row : TOTPFactor} (hrow : row ∈ db'.totpFactors) :=
      totpFactor_origin (effect_of_run hrun) hw.sound.totpIDs hrow
    -- a new factor has another identifier
    have hfresh {row : TOTPFactor} (hid : row.id = factor.id)
        (hnew : row.id = env.newID "sf" w.nextID) : False := by
      have hcreated := h.created
      rw [← hid, hnew] at hcreated
      exact hw.drawn.fresh hcreated
    refine ⟨h.created.cons _, fun row hrow hid => ?_, fun hacct row hrow hid => ?_⟩
    · cases horigin hrow with
      | kept hf => exact h.owner row hf hid
      | new params hx hnew => exact (hfresh hid hnew).elim
      | refreshed params f hf hx hpending haccount heq => subst heq; exact h.owner f hf hid
      | activated v step f hf hx hpending heq => subst heq; exact h.owner f hf hid
      | used v step f hf hx hstate hlater heq => subst heq; exact h.owner f hf hid
    · cases horigin hrow with
      | kept hf => exact h.secret hacct row hf hid
      | new params hx hnew => exact (hfresh hid hnew).elim
      | refreshed params f hf hx hpending haccount heq =>
        subst heq hx
        refine (hrestart params o rfl ?_).elim
        rw [← hacct, ← haccount]
        exact (h.owner f hf hid).symm
      | activated v step f hf hx hpending heq =>
        subst heq
        obtain ⟨hsecret, hperiod, hdigits, halgorithm⟩ := h.secret hacct f hf hid
        exact ⟨hsecret, hperiod, hdigits, halgorithm⟩
      | used v step f hf hx hstate hlater heq =>
        subst heq
        obtain ⟨hsecret, hperiod, hdigits, halgorithm⟩ := h.secret hacct f hf hid
        exact ⟨hsecret, hperiod, hdigits, halgorithm⟩
  · refine ⟨hhistory ▸ h.created, ?_, ?_⟩
    · rw [hdb]
      exact h.owner
    · rw [hdb]
      exact h.secret

/-- A factor that is stored is the one with its identifier. -/
theorem current_of_mem {acct : String} (hw : Proved env api w)
    (h : factor ∈ w.db.totpFactors) : Current env w factor acct := by
  have hunique {row : TOTPFactor} (hrow : row ∈ w.db.totpFactors) (hid : row.id = factor.id) :
      row = factor := eq_of_key hw.sound.totpIDs hrow h hid
  refine ⟨hw.steps.created factor h, fun row hrow hid => ?_, fun _ row hrow hid => ?_⟩
  · rw [hunique hrow hid]
  · obtain rfl := hunique hrow hid
    exact ⟨rfl, rfl, rfl, rfl⟩

/-- A factor is known only right after it was read. -/
theorem current_of_read (hw : Proved env api w)
    (hexec : exec env w c ch = some (a, w')) {sid acct : String} {now : Time}
    (h : t.next c a = .signedIn sid acct (some (factor, now))) : Current env w' factor acct := by
  cases c with
  | timeNow => cases t <;> cases h
  | query q =>
    obtain ⟨rfl, hvalue⟩ := exec_query hexec
    obtain ⟨value, now', ticket⟩ := a
    cases t with
    | signedIn =>
      cases q with
      | getPendingTOTPSecondFactor | getActiveTOTPSecondFactor =>
        cases value with
        | error e => cases h
        | ok row =>
          cases h
          exact current_of_mem hw
            (getTOTPSecondFactor_ok (hvalue.resolve_right (by simp)).symm).1
      | _ => cases h
    | start | looked => cases q <;> first | cases h | (cases value <;> cases h)
    | _ => cases h
  | tx x o =>
    obtain ⟨value, now', ticket⟩ := a
    cases t with
    | signedIn =>
      cases x with
      | activateTOTPSecondFactor | markTOTPSecondFactorUsed =>
        simp only [Phase.next, Phase.afterTx] at h
        split at h <;> cases h
      | updateAccountPassword => cases value <;> cases h
      | _ => cases h
    | updated => cases x <;> first | cases h | (cases value <;> cases h)
    | _ => cases h

/-- **The secret of an active factor was proved.** In every interleaving of any requests
    in which no enrolment of an account is started between the reading of the pending
    secret and the activation: whenever a TOTP factor is active, some request has
    presented a code that `MatchTOTPCode` accepted against exactly the stored secret. -/
theorem active_secret_proved (hids : (accounts.map (·.id)).Nodup)
    (hC : Meets (authStep env api) NoRestartBeforeActivation (bootAuth accounts) ls)
    (hrun : run (authStep env api) (bootAuth accounts) ls = some s) {f : TOTPFactor}
    (hf : f ∈ s.shared.db.totpFactors) (hactive : f.factorState = .active) :
    ProvedSecret api f s.shared.history := by
  have hstable : Sys.Stable (discipline api) Answers (main api) (exec env) (fun _ => Phase.start)
      NoRestartBeforeActivation (Proved env api) (ReadsCurrent env) := by
    refine ⟨main_follows, ?_, ?_, ?_, ?_⟩
    · rintro w req nc sid acct factor now a f v step o ⟨⟩
    · intro s pid t c ch a w' hG ht hcall
      exact hG.exec hcall.allowed ht hcall.exec
    · rintro s pid t c ch a w' hG ht hcall nc - sid acct factor now a' f v step o hphase -
      exact current_of_read hG hcall.exec hphase
    · intro s pid t c ch a w' hG ht hcall pid' t' p' hne hp' hfollows ht'
      rintro sid acct factor now a' f v step o rfl hnext
      refine (ht' sid acct factor now a' f v step o rfl hnext).exec hG ?_ hcall.exec
      -- the other process is about to activate a factor of its account
      rintro params o' rfl
      cases p' with
      | ret r => cases hnext
      | call c' k =>
        cases hnext
        obtain rfl : a' = acct := hfollows.1.1
        exact hcall.cond pid ch params o' rfl (Sys.nextCall_eq_some.mpr hcall.proc) pid' _ _ _ _ _
          (Sys.nextCall_eq_some.mpr ⟨k, hp'⟩)
  have hboot : Proved env api (bootWorld accounts) :=
    ⟨sound_accounts hids, by simp [World.Drawn, bootWorld], steps_boot, by simp [bootWorld]⟩
  obtain ⟨hproved, -⟩ := Sys.located_run hstable hboot hC hrun
  exact hproved.proved f hf hactive

/-- The condition, tested for processes below `n`. -/
def noRestart (n : Nat) (s : AuthServer) : Label Request Choice → Bool
  | .step pid _ =>
    match s.nextCall pid with
    | some (.tx (.createTOTPSecondFactorEnrollment params) _) =>
      (List.range n).all fun pid' =>
        match s.nextCall pid' with
        | some (.tx (.activateTOTPSecondFactor a ..) _) => a != params.accountID
        | _ => true
    | _ => true
  | _ => true

theorem noRestart_of_test {n : Nat} {s : AuthServer} {l : Label Request Choice} (hs : s.Below n)
    (h : noRestart n s l = true) : NoRestartBeforeActivation s l := by
  rintro pid ch params o rfl hnext pid' a f v step o' hnext'
  simp only [noRestart, hnext] at h
  obtain ⟨k, hproc⟩ := Sys.nextCall_eq_some.mp hnext'
  have hlt : pid' < n := by
    by_contra hge
    rw [hs pid' (by omega)] at hproc
    cases hproc
  have hall := List.all_eq_true.mp h pid' (List.mem_range.mpr hlt)
  simpa [hnext'] using hall

theorem active_secret_proved_verifiedRun :
    ∃ s f,
      run (authStep sampleEnv sampleAuthAPI) (bootAuth [sampleAccount "a" .user .setupRequired])
        verifiedRun = some s ∧
      f ∈ s.shared.db.totpFactors ∧ f.factorState = .active ∧ f.secret = "123456" ∧
      ProvedSecret sampleAuthAPI f s.shared.history := by
  have hC : Meets (authStep sampleEnv sampleAuthAPI) NoRestartBeforeActivation
      (bootAuth [sampleAccount "a" .user .setupRequired]) verifiedRun :=
    Sys.meets_of_check_below (n := 5) (c := noRestart 5) (fun _ _ => noRestart_of_test)
      (by decide) (fun _ _ => rfl) (by rfl)
  exact ⟨_, _, rfl, .head _, rfl, rfl, @active_secret_proved sampleEnv sampleAuthAPI
    [sampleAccount "a" .user .setupRequired] verifiedRun _ (List.nodup_singleton _) hC rfl _
    (.head _) rfl⟩

/-- The account confirms its enrolment; another request starts a new one after the secret
    was read. -/
def restartedRun : List (Label Request Choice) :=
  .spawn 0 (loginAs "a") :: steps 0 2 ++
  .spawn 1 (asSession "_tok" totpEnrollRoute { secret := "123456" }) :: steps 1 3 ++
  .spawn 2 (asSession "_tok" totpConfirmRoute { code := "123456" }) :: steps 2 3 ++
  .spawn 3 (asSession "_tok" totpEnrollRoute { secret := "654321" }) :: steps 3 3 ++ steps 2 1

/-- **A secret is activated for which no code was presented.** -/
theorem unproved_secret_activated :
    ∃ s f,
      run (authStep sampleEnv sampleAuthAPI) (bootAuth [sampleAccount "a" .user .setupRequired])
        restartedRun = some s ∧
      f ∈ s.shared.db.totpFactors ∧ f.factorState = .active ∧
      ¬ ProvedSecret sampleAuthAPI f s.shared.history := by
  refine ⟨_, _, rfl, .head _, rfl, ?_⟩
  rintro ⟨e, he, v, step, code, htx, hcode, hsecret, -⟩
  -- the only activation accepted a code for the first secret
  rcases List.mem_cons.mp he with rfl | he
  · cases hcode
    exact absurd hsecret (by decide)
  rcases List.mem_cons.mp he with rfl | he
  · cases htx
  rcases List.mem_cons.mp he with rfl | he
  · cases htx
  · obtain rfl := List.mem_singleton.mp he
    cases htx

end SafetyRecorder.Auth
