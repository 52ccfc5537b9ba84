import SafetyRecorder.Sharing.Lifecycle

namespace SafetyRecorder.Sharing

open Process

/-!
# Sharing — what the methods rely on

Every method follows the discipline of `Sql.Lifecycle`: in a transaction it writes a state
unchecked only to a row it has read `FOR UPDATE` and found open, and outside one only to the
row it has just read.

* `Under` — what a transaction body may write, with one rule for each way it goes on;
* `Outside` — the same for the statements outside a transaction;
* `main_follows` — every method follows the discipline.
-/

/-! ### Transaction bodies -/

/-- The body writes unchecked only the rows `K`, and rows it locks and finds open. -/
def Under {α : Type} (K : List Key) (body : TxM α) : Prop :=
  ∀ ks, K ⊆ ks → lifecycle.bodyProtocol.Follows (fun _ _ => True) ks body.run

section Under

variable {α β : Type} {K : List Key} {x : TxM α} {f : α → TxM β}

theorem under_pure (a : α) : Under K (pure a : TxM α) := fun _ _ => trivial

theorem under_throw (e : RepoError) : Under K (throw e : TxM α) := fun _ _ => trivial

/-- Whatever the rows held so far are, the next statement leaves them held. -/
theorem subset_held {s : Stmt} {a : schema.Reply s} {ks : List Key} :
    ks ⊆ lifecycle.held ks s a := by
  intro k hk
  unfold Sql.Lifecycle.held
  split
  · exact hk
  · split
    · split
      · exact List.mem_cons_of_mem _ hk
      · exact hk
    · exact hk

/-- A body that follows the discipline from any rows on keeps the rows it holds. -/
theorem follows_under {R : Type} {ks : List Key} {body : Prog Stmt schema.Reply R}
    (h : lifecycle.bodyProtocol.Follows (fun _ _ => True) ks body) :
    lifecycle.bodyProtocol.Follows (fun ks' _ => ks ⊆ ks') ks body := by
  induction body generalizing ks with
  | ret r => exact List.Subset.refl ks
  | call s k ih =>
    refine ⟨h.1, fun a => Protocol.Follows.mono ?_ (ih a (h.2 a))⟩
    exact fun ks' _ hks' => List.Subset.trans subset_held hks'

theorem under_bind (hx : Under K x) (hf : ∀ a, Under K (f a)) : Under K (x >>= f) := by
  intro ks hK
  refine Protocol.follows_seq (Protocol.Follows.mono ?_ (follows_under (hx ks hK)))
  intro ks' r hks'
  exact ⟨fun a _ => hf a ks' (List.Subset.trans hK hks'), fun _ _ => trivial⟩

variable {e : RepoError}

/-- A statement that checks the state, or writes one of the rows `K`. -/
theorem under_statement {s : Stmt} (hs : ∀ k p, s.sets = some (k, p) → k ∈ K) :
    Under K (statement s e) := by
  intro ks hK
  refine Protocol.follows_call_then (fun k p h => hK (hs k p h)) ?_
  rintro ⟨r | r, tick⟩
  · exact trivial
  · exact trivial

/-- A statement that writes no row unchecked. -/
theorem under_guarded {s : Stmt} (hs : s.sets = none) : Under K (statement s e) :=
  under_statement fun k p h => by rw [hs] at h; cases h

/-- A statement that writes the row that was found open. -/
theorem under_own {s : Stmt} {k : Key} {p : Stage} (hs : s.sets = some (k, p)) :
    Under (k :: K) (statement s e) := by
  refine under_statement fun k' p' h => ?_
  rw [hs] at h
  cases h
  exact List.mem_cons_self

theorem under_require_then {c : Prop} [Decidable c] {f : Unit → TxM β}
    (hf : c → Under K (f ())) : Under K (require c e >>= f) := by
  unfold require
  split
  next hc => exact hf hc
  · exact under_throw e

theorem under_requireRow_then {row : Option α} (hf : ∀ r, Under K (f r)) :
    Under K (requireRow row >>= f) := by
  cases row with
  | none => exact under_throw .notFound
  | some r => exact hf r

/-- The rest of a transaction after a read `FOR UPDATE` of one row may write the row if it
    was found open. -/
theorem under_locked_then {ρ : Type} {s : Stmt} {g : s.Result → Option ρ}
    (key : ρ → Key) (stage : ρ → Stage) {f : ρ × Sql.Tick → TxM β}
    (hshows : ∀ r, s.shows r = (g r).map fun row => (key row, stage row))
    (hlock : s.locking = true) (hsets : s.sets = none)
    (hopen : ∀ row tick, (stage row).closed = false → Under (key row :: K) (f (row, tick)))
    (hclosed : ∀ row tick, (stage row).closed = true → Under K (f (row, tick))) :
    Under K ((statement s e >>= fun r => requireRow (g r.1) >>= fun row => pure (row, r.2)) >>= f) := by
  intro ks hK
  refine ⟨?_, ?_⟩
  · intro k p h
    rw [show lifecycle.sets s = none from hsets] at h
    cases h
  · rintro ⟨r | r, tick⟩
    · exact trivial
    · have hheld : lifecycle.held ks s (.ok r, tick) =
          (g r).elim ks fun row => if (stage row).closed then ks else key row :: ks := by
        simp only [Sql.Lifecycle.held, show lifecycle.shows s r = _ from hshows r,
          show lifecycle.locking s = true from hlock]
        cases g r with
        | none => rfl
        | some row =>
          simp only [Option.map_some, Option.elim_some, Bool.true_and]
          show (if (!(stage row).closed) = true then _ else _) = _
          cases (stage row).closed <;> rfl
      have hnext : lifecycle.bodyProtocol.Follows (fun _ _ => True)
          (lifecycle.held ks s (.ok r, tick))
          ((requireRow (g r) >>= fun row => pure (row, tick)) >>= f).run := by
        rw [hheld]
        cases g r with
        | none => exact trivial
        | some row =>
          show lifecycle.bodyProtocol.Follows _ (if (stage row).closed then ks else key row :: ks)
            (f (row, tick)).run
          split
          next hc => exact hclosed row tick hc ks hK
          next hc =>
            exact hopen row tick (Bool.of_not_eq_true hc) _ (List.cons_subset_cons _ hK)
      exact hnext

end Under

/-- `createSharingAuditEventTx` inserts a row. -/
theorem under_audit {env : Env} {K : List Key} {tick : Sql.Tick} {o c i : String}
    {action : AuditAction} {outcome : AuditOutcome} {now : Time} :
    Under K (createSharingAuditEvent env tick o action outcome c i now) :=
  under_require_then fun _ => under_bind (under_guarded rfl) fun _ => under_pure _

theorem under_activeAccount {K : List Key} {a : String} :
    Under K (requireActiveAccountForTrustedContact a) :=
  under_bind (under_guarded rfl) fun _ => under_require_then fun _ => under_pure _

theorem under_recipient {K : List Key} {tick : Sql.Tick} {o r : String} :
    Under K (requireContactPublicKeyRecipient tick o r) := by
  unfold requireContactPublicKeyRecipient
  split
  · exact under_pure _
  · exact under_require_then fun _ => under_activeAccount

theorem under_noOpenRelationship {K : List Key} {o r role exclude : String} :
    Under K (requireNoOpenTrustedContactRelationship o r role exclude) :=
  under_bind (under_guarded rfl) fun _ => under_require_then fun _ => under_pure _

section Bodies

variable {β : Type} {K : List Key} {o i : String}

theorem under_getContactPublicKeyTx {f : ContactPublicKey × Sql.Tick → TxM β}
    (hopen : ∀ row tick, terminalKeyState row.keyState = false →
      Under (.contactKey i :: K) (f (row, tick)))
    (hclosed : ∀ row tick, terminalKeyState row.keyState = true → Under K (f (row, tick))) :
    Under K (getContactPublicKeyTx o i >>= f) :=
  under_locked_then (s := .selectForUpdate (.contactKey o i)) (g := id)
    (fun _ => .contactKey i) (fun k => .key k.keyState) (fun _ => rfl) rfl rfl
    hopen hclosed

theorem under_getAccountRecipientKeyTx {f : AccountRecipientKey × Sql.Tick → TxM β}
    (hopen : ∀ row tick, terminalKeyState row.keyState = false →
      Under (.recipientKey i :: K) (f (row, tick)))
    (hclosed : ∀ row tick, terminalKeyState row.keyState = true → Under K (f (row, tick))) :
    Under K (getAccountRecipientKeyTx o i >>= f) :=
  under_locked_then (s := .selectForUpdate (.recipientKey o i)) (g := id)
    (fun _ => .recipientKey i) (fun k => .key k.keyState) (fun _ => rfl) rfl rfl
    hopen hclosed

theorem under_getTrustedContactRelationshipTx {f : TrustedContactRelationship × Sql.Tick → TxM β}
    (hopen : ∀ row tick, terminalRelationshipState row.relationshipState = false →
      Under (.relationship row.id :: K) (f (row, tick)))
    (hclosed : ∀ row tick, terminalRelationshipState row.relationshipState = true →
      Under K (f (row, tick))) :
    Under K (getTrustedContactRelationshipTx i >>= f) :=
  under_locked_then (s := .selectForUpdate (.relationship i)) (g := id)
    (fun r => .relationship r.id) (fun r => .relationship r.relationshipState) (fun _ => rfl) rfl rfl
    hopen hclosed

end Bodies

/-! ### Outside a transaction -/

/-- The program follows the discipline, given what it has read last. -/
def Outside {α : Type} (t : Option (Key × Stage)) (method : RepoM α) : Prop :=
  lifecycle.protocol.Follows (fun _ _ => True) t method.run

section Outside

variable {α β : Type} {t : Option (Key × Stage)} {f : α → RepoM β}

theorem outside_pure (a : α) : Outside t (pure a : RepoM α) := trivial

theorem outside_throw (e : RepoError) : Outside t (throw e : RepoM α) := trivial

theorem outside_require_then {c : Prop} [Decidable c] {e : RepoError} {f : Unit → RepoM β}
    (hf : c → Outside t (f ())) : Outside t (require c e >>= f) := by
  unfold require
  split
  next hc => exact hf hc
  · exact outside_throw e

/-- A transaction is judged by its body. -/
theorem outside_transaction {kind : Kind} {body : Sql.Tick → TxM kind.Row}
    (hbody : ∀ tick, Under [] (body tick)) : Outside t (transaction kind body) :=
  ⟨fun tick => hbody tick [] (List.Subset.refl []), fun _ => trivial⟩

/-- An update of the row that was read, to the same stage if that is a closed one. -/
theorem writesBack_read {s : Stmt} {k : Key} {p q : Stage} (hs : s.sets = some (k, p))
    (h : q.closed = true → q = p) : lifecycle.WritesBack (some (k, q)) s := by
  intro k' p' hs'
  rw [show lifecycle.sets s = _ from hs] at hs'
  cases hs'
  exact ⟨q, rfl, h⟩

/-- A statement that writes back what was read; the rest has read nothing. -/
theorem outside_write_then {s : Stmt} {f : s.Result × Sql.Tick → RepoM β}
    (hs : lifecycle.WritesBack t s) (hf : ∀ r t', Outside t' (f r)) :
    Outside t (execute s >>= f) := by
  refine ⟨hs, ?_⟩
  rintro ⟨r | r, tick⟩
  · exact trivial
  · exact hf (r, tick) _

/-- A read of one row; the rest may write the row it has found. -/
theorem outside_read_then {ρ : Type} {s : Stmt} {g : s.Result → Option ρ} {key : ρ → Key}
    {stage : ρ → Stage} {f : ρ × Sql.Tick → RepoM β}
    (hshows : ∀ r, s.shows r = (g r).map fun row => (key row, stage row)) (hsets : s.sets = none)
    (hf : ∀ row tick, Outside (some (key row, stage row)) (f (row, tick))) :
    Outside t ((execute s >>= fun r => requireRow (g r.1) >>= fun row => pure (row, r.2)) >>= f) := by
  refine ⟨?_, ?_⟩
  · intro k p h
    rw [show lifecycle.sets s = none from hsets] at h
    cases h
  · rintro ⟨r | r, tick⟩
    · exact trivial
    · have hseen : lifecycle.seen s (.ok r, tick) = (g r).map fun row => (key row, stage row) :=
        hshows r
      show lifecycle.protocol.Follows _ (lifecycle.seen s (.ok r, tick))
        ((requireRow (g r) >>= fun row => pure (row, tick)) >>= f).run
      rw [hseen]
      cases g r with
      | none => exact trivial
      | some row => exact hf row tick

theorem outside_getContactPublicKey {o i : String} {f : ContactPublicKey × Sql.Tick → RepoM β}
    (hf : ∀ row tick, Outside (some (.contactKey i, .key row.keyState)) (f (row, tick))) :
    Outside t (getContactPublicKey o i >>= f) :=
  outside_read_then (s := .select (.contactKey o i)) (g := id) (fun _ => rfl) rfl hf

theorem outside_getAccountRecipientKey {o i : String}
    {f : AccountRecipientKey × Sql.Tick → RepoM β}
    (hf : ∀ row tick, Outside (some (.recipientKey i, .key row.keyState)) (f (row, tick))) :
    Outside t (getAccountRecipientKey o i >>= f) :=
  outside_read_then (s := .select (.recipientKey o i)) (g := id) (fun _ => rfl) rfl hf

theorem outside_getTrustedContactRelationship {a i : String}
    {f : TrustedContactRelationship × Sql.Tick → RepoM β}
    (hf : ∀ row tick,
      Outside (some (.relationship i, .relationship row.relationshipState)) (f (row, tick))) :
    Outside t (getTrustedContactRelationshipForAccount a i >>= f) :=
  outside_read_then (s := .select (.relationshipFor a i)) (g := id) (fun _ => rfl) rfl hf

/-- The result of a method is put among the rows of all methods. -/
theorem outside_returning {g : α → Row} {method : RepoM α} (h : Outside t method) :
    lifecycle.protocol.Follows (fun _ _ => True) t (returning g method) := by
  refine Protocol.follows_bind (Protocol.Follows.mono ?_ h)
  intro t' r _
  cases r with
  | ok | error => exact trivial

end Outside

/-! ### The methods -/

section Methods

variable {env : Env}

theorem createContactPublicKey_outside {p : CreateContactPublicKeyParams} :
    Outside none (createContactPublicKey env p) := by
  refine outside_require_then fun _ => outside_transaction fun tick => ?_
  have hslot : Under [] (contactSlot env p tick) := by
    unfold contactSlot
    split
    · exact under_bind under_recipient fun _ => under_pure _
    · refine under_bind (under_guarded rfl) fun _ => under_requireRow_then fun _ => ?_
      refine under_require_then fun _ => under_bind under_recipient fun _ => ?_
      exact under_bind (under_guarded rfl) fun _ => under_require_then fun _ => under_pure _
  refine under_bind hslot fun slot => ?_
  refine under_bind (under_guarded rfl) fun r => ?_
  split
  · refine under_bind (under_guarded rfl) fun _ => ?_
    exact under_bind under_audit fun _ => under_pure _
  · exact under_bind under_audit fun _ => under_pure _

theorem updateContactPublicKey_outside {p : UpdateContactPublicKeyParams} :
    Outside none (updateContactPublicKey p) := by
  refine outside_getContactPublicKey fun row tick => outside_require_then fun hallowed => ?_
  -- the state that is written is the one that was read, or an open one after an open one
  refine outside_write_then (writesBack_read rfl fun hclosed => ?_) fun r t => ?_
  · exact congrArg Stage.key (allowedContactKeyUpdate_terminal hallowed hclosed)
  · exact outside_require_then fun _ => outside_getContactPublicKey fun _ _ => outside_pure _

theorem setContactKeyTerminalState_outside {o i : String} {state : ContactKeyState} :
    Outside none (setContactKeyTerminalState env o i state) := by
  refine outside_transaction fun _ => ?_
  refine under_getContactPublicKeyTx (fun row tick hopen => ?_) (fun row tick hclosed => ?_)
  · refine under_require_then fun _ => ?_
    split
    · exact under_pure _
    · refine under_bind (under_own rfl) fun r => under_require_then fun _ => ?_
      refine under_bind under_audit fun _ => ?_
      exact under_getContactPublicKeyTx (fun _ _ _ => under_pure _) (fun _ _ _ => under_pure _)
  · -- a terminal state only passes the check when it is the requested one
    refine under_require_then fun hstate => ?_
    rcases hstate with hopen | hsame
    · cases hopen.symm.trans hclosed
    · rw [if_pos hsame]
      exact under_pure _

theorem replaceContactPublicKey_outside {p : ReplaceContactPublicKeyParams} :
    Outside none (replaceContactPublicKey env p) := by
  refine outside_require_then fun _ => outside_transaction fun _ => ?_
  refine under_bind ?_ fun row => under_require_then fun _ => ?_
  · exact under_bind (under_guarded rfl) fun _ => under_requireRow_then fun _ => under_pure _
  · -- the rows that are marked as replaced are open by the condition of the `UPDATE`
    refine under_bind (under_guarded rfl) fun _ => ?_
    refine under_bind (under_guarded rfl) fun _ => under_bind (under_guarded rfl) fun _ => ?_
    exact under_require_then fun _ => under_bind under_audit fun _ => under_pure _

theorem createAccountRecipientKey_outside {p : CreateAccountRecipientKeyParams} :
    Outside none (createAccountRecipientKey env p) := by
  refine outside_transaction fun tick => under_bind (under_guarded rfl) fun _ => ?_
  exact under_require_then fun _ => under_bind (under_guarded rfl) fun _ => under_pure _

theorem updateAccountRecipientKey_outside {p : UpdateAccountRecipientKeyParams} :
    Outside none (updateAccountRecipientKey p) := by
  refine outside_getAccountRecipientKey fun row tick => outside_require_then fun hallowed => ?_
  refine outside_write_then (writesBack_read rfl fun hclosed => ?_) fun r t => ?_
  · exact congrArg Stage.key (allowedAccountRecipientKeyUpdate_terminal hallowed hclosed)
  · exact outside_require_then fun _ => outside_getAccountRecipientKey fun _ _ => outside_pure _

theorem setAccountRecipientKeyTerminalState_outside {o i : String}
    {state : AccountRecipientKeyState} :
    Outside none (setAccountRecipientKeyTerminalState o i state) := by
  refine outside_getAccountRecipientKey fun row tick => outside_require_then fun hstate => ?_
  split
  · exact outside_pure _
  next hne =>
    refine outside_write_then (writesBack_read rfl fun hclosed => ?_) fun r t => ?_
    · cases (hstate.resolve_right hne).symm.trans hclosed
    · exact outside_require_then fun _ => outside_getAccountRecipientKey fun _ _ => outside_pure _

theorem replaceAccountRecipientKey_outside {p : ReplaceAccountRecipientKeyParams} :
    Outside none (replaceAccountRecipientKey env p) := by
  refine outside_transaction fun _ => ?_
  refine under_getAccountRecipientKeyTx (fun row tick _ => ?_) (fun row tick hclosed => ?_)
  · refine under_require_then fun _ => under_bind (under_guarded rfl) fun _ => ?_
    refine under_bind (under_guarded rfl) fun _ => under_bind (under_own rfl) fun _ => ?_
    exact under_require_then fun _ => under_pure _
  · exact under_require_then fun hopen => by cases hopen.symm.trans hclosed

theorem createTrustedContactRelationship_outside {p : CreateTrustedContactRelationshipParams} :
    Outside none (createTrustedContactRelationship env p) := by
  refine outside_require_then fun _ => outside_transaction fun _ => under_require_then fun _ => ?_
  refine under_bind under_activeAccount fun _ => under_bind under_noOpenRelationship fun _ => ?_
  exact under_bind (under_guarded rfl) fun _ => under_pure _

theorem setRecipientTrustedContactRelationshipState_outside {a i : String}
    {state : RelationshipState} {now : Time} :
    Outside none (setRecipientTrustedContactRelationshipState a i state now) := by
  refine outside_write_then (fun _ _ hs => nomatch hs) fun r t => ?_
  split
  · -- the lookup that explains why no row was updated
    have hread : lifecycle.WritesBack t (.select (.relationshipFor a i)) := fun _ _ hs => nomatch hs
    refine ⟨hread, ?_⟩
    rintro ⟨r | r, tick⟩
    · exact trivial
    · cases r with
      | none => exact trivial
      | some row =>
        show lifecycle.protocol.Follows _ _ (ExceptT.run (if row.recipientAccountID = a then
          throw RepoError.invalidState else throw RepoError.notFound : RepoM _))
        split
        · exact trivial
        · exact trivial
  · exact outside_getTrustedContactRelationship fun _ _ => outside_pure _

theorem revokeTrustedContactRelationship_outside {o i b : String} :
    Outside none (revokeTrustedContactRelationship o i b) := by
  refine outside_getTrustedContactRelationship fun row tick => outside_require_then fun _ => ?_
  split
  · exact outside_pure _
  · refine outside_require_then fun hopen => ?_
    refine outside_write_then (writesBack_read rfl fun hclosed => ?_) fun r t => ?_
    · cases hopen.symm.trans hclosed
    · exact outside_require_then fun _ =>
        outside_getTrustedContactRelationship fun _ _ => outside_pure _

theorem replaceTrustedContactRelationship_outside {p : ReplaceTrustedContactRelationshipParams} :
    Outside none (replaceTrustedContactRelationship env p) := by
  refine outside_transaction fun _ => ?_
  refine under_getTrustedContactRelationshipTx (fun row tick _ => ?_) (fun row tick hclosed => ?_)
  · refine under_require_then fun _ => under_require_then fun _ => under_require_then fun _ => ?_
    refine under_require_then fun _ => under_bind under_activeAccount fun _ => ?_
    refine under_bind under_noOpenRelationship fun _ => under_bind (under_own rfl) fun _ => ?_
    refine under_require_then fun _ => under_bind (under_guarded rfl) fun _ => ?_
    exact under_bind (under_own rfl) fun _ => under_pure _
  · refine under_require_then fun _ => under_require_then fun hopen => ?_
    cases hopen.symm.trans hclosed

end Methods

/-- **Every method follows the discipline.** -/
theorem main_follows (env : Env) (req : Request) :
    lifecycle.protocol.Follows (fun _ _ => True) none (main env req) := by
  cases req with
  | createContactPublicKey p => exact outside_returning createContactPublicKey_outside
  | updateContactPublicKey p => exact outside_returning updateContactPublicKey_outside
  | revokeContactPublicKey | markContactPublicKeyLost =>
    exact outside_returning setContactKeyTerminalState_outside
  | replaceContactPublicKey p => exact outside_returning replaceContactPublicKey_outside
  | createAccountRecipientKey p => exact outside_returning createAccountRecipientKey_outside
  | updateAccountRecipientKey p => exact outside_returning updateAccountRecipientKey_outside
  | revokeAccountRecipientKey | markAccountRecipientKeyLost =>
    exact outside_returning setAccountRecipientKeyTerminalState_outside
  | replaceAccountRecipientKey p => exact outside_returning replaceAccountRecipientKey_outside
  | createTrustedContactRelationship p =>
    exact outside_returning createTrustedContactRelationship_outside
  | acceptTrustedContactRelationship | declineTrustedContactRelationship =>
    exact outside_returning setRecipientTrustedContactRelationshipState_outside
  | revokeTrustedContactRelationship o r b =>
    exact outside_returning revokeTrustedContactRelationship_outside
  | replaceTrustedContactRelationship p =>
    exact outside_returning replaceTrustedContactRelationship_outside
  | setAccounts new active =>
    have hwrite : lifecycle.WritesBack none (.write (.setAccounts new active)) :=
      fun _ _ hs => nomatch hs
    refine outside_returning ⟨hwrite, ?_⟩
    rintro ⟨r | r, tick⟩
    · exact trivial
    · exact trivial

end SafetyRecorder.Sharing
