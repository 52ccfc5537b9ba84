import Mathlib.Data.List.ProdSigma
import Mathlib.Data.List.Sort
import SafetyRecorder.Incidents.Grants
import SafetyRecorder.Sharing.Discipline
import SafetyRecorder.Sharing.Versions

namespace SafetyRecorder.Sharing

open Table Process Sql Runs

/-!
# Sharing — what a trusted contact may read

A trusted contact reads wrapped keys through a join of five tables.  What the join does not
check was checked when the rows were written, and what was revoked stays revoked.

* `listTrustedContactWrappedKeyRecords`, `getTrustedContactWrappedKeyRecord` — the queries;
* `Operation`, `operationStep` — the calls of the incident repository and of the sharing
  part, one after the other;
* `SharingDB.Paired`, `Sound` — the invariant of the tables;
* `Entitled` — what a returned record rests on;
* `Barred` — a record that is revoked, or whose grant or contact key is;
* `trusted_contact_delivery` — the queries return exactly the records a recipient is
  entitled to, and nothing that was barred once.
-/

/-! ### The queries -/

/-- The rows of the five tables that a query looks at together. -/
abbrev JoinedRow : Type :=
  WrappedKeyRecord × SharingGrant × ContactPublicKey × Incident × TrustedContactRelationship

/-- A column that may be `NULL` (the empty text here) equals a value. -/
def nullableEq (column value : String) : Bool := column != "" && column == value

/-- The conditions of `activeWrappedKeyJoins`. -/
def activeWrappedKeyJoins (w : WrappedKeyRecord) (sg : SharingGrant) (cpk : ContactPublicKey) :
    Bool :=
  sg.id == w.grantID && sg.ownerAccountID == w.ownerAccountID && sg.incidentID == w.incidentID &&
    sg.contactID == w.contactID && sg.contactPublicKeyID == w.contactPublicKeyID &&
    cpk.id == w.contactPublicKeyID && cpk.ownerAccountID == w.ownerAccountID

/-- `trustedContactWrappedKeyJoins`. -/
def trustedContactWrappedKeyJoins (d : SharingDB) : List JoinedRow :=
  (d.db.wrappedKeys ×ˢ d.db.grants ×ˢ d.db.contactKeys ×ˢ d.db.incidents ×ˢ d.relationships).filter
    fun (w, sg, cpk, i, tcr) =>
      activeWrappedKeyJoins w sg cpk && i.id == w.incidentID &&
        nullableEq i.ownerAccountID w.ownerAccountID && tcr.ownerAccountID == w.ownerAccountID

/-- The conditions that both queries put on a joined row. -/
def deliverable (env : Env) (now : Time) (recipient : String) : JoinedRow → Bool
  | (w, sg, cpk, i, tcr) =>
    i.deletionState == .active && w.recipientType == "trusted_contact" &&
      sg.recipientType == "trusted_contact" &&
      (sg.dataClass == .ciphertext || sg.dataClass == .metadataCiphertext) &&
      w.wrappedKeyState == .active && sg.grantState == .active &&
      !(sg.expiresAt.any (env.dbTimeLE · now)) && cpk.keyState == .active &&
      nullableEq cpk.recipientAccountID recipient && tcr.recipientAccountID == recipient &&
      tcr.relationshipRole == "trusted_contact" && tcr.relationshipState == .active

/-- `ORDER BY created_at, id`. -/
def createdBefore (env : Env) (a b : WrappedKeyRecord) : Bool :=
  env.dbTimeLE a.createdAt b.createdAt &&
    (!env.dbTimeLE b.createdAt a.createdAt || decide (a.id ≤ b.id))

/-- `ListTrustedContactWrappedKeyRecords`. -/
def listTrustedContactWrappedKeyRecords (env : Env) (now : Time) (recipient incidentID : String)
    (d : SharingDB) : List WrappedKeyRecord :=
  (((trustedContactWrappedKeyJoins d).filter fun row =>
    row.1.incidentID == incidentID && deliverable env now recipient row).map (·.1)).insertionSort
      fun a b => createdBefore env a b = true

/-- `GetTrustedContactWrappedKeyRecord`. -/
def getTrustedContactWrappedKeyRecord (env : Env) (now : Time) (recipient wrappedKeyID : String)
    (d : SharingDB) : Except RepoError WrappedKeyRecord :=
  Checked.found (((trustedContactWrappedKeyJoins d).filter fun row =>
    row.1.id == wrappedKeyID && deliverable env now recipient row).map (·.1)).head? .notFound

/-! ### Operations -/

/-- A call of the repository. -/
inductive Operation
  | incidents (t : Tx) (now : Time)
  | sharing (req : Request) (choices : List Sql.Choice)

/-- One call, executed alone.  The writers of the contact-key and account tables are the
    calls of the sharing part. -/
def operationStep (env : Env) (w : Exclusive schema) : Operation → Option (Exclusive schema)
  | .incidents t now =>
    if t.isOther then none
    else
      let serial := w.serial + 1 + t.draws w.db.db
      match t.run env ⟨2 * w.serial, now⟩ w.db.db with
      | .ok (_, db') => some ⟨{ w.db with db := db' }, serial⟩
      | .error _ => some ⟨w.db, serial⟩
  | .sharing req choices => atomicStep env w (req, choices)

/-! ### What every statement keeps -/

/-- Keys are unique, and so are the open relationships between two accounts. -/
structure SharingDB.Paired (d : SharingDB) : Prop where
  keyed : d.Keyed
  pairs : ∀ r ∈ d.relationships, ∀ r' ∈ d.relationships,
    terminalRelationshipState r.relationshipState = false →
    terminalRelationshipState r'.relationshipState = false →
    r.ownerAccountID = r'.ownerAccountID → r.recipientAccountID = r'.recipientAccountID →
    r.relationshipRole = r'.relationshipRole → r.id = r'.id
  roles : ∀ r ∈ d.relationships, r.relationshipRole = "trusted_contact"

/-- The tables of the incident repository that the sharing part does not write. -/
def SameIncidents (db db' : DB) : Prop :=
  ∃ accounts contactKeys auditEvents, db' =
    { db with accounts := accounts, contactKeys := contactKeys, auditEvents := auditEvents }

theorem sameIncidents_refl (db : DB) : SameIncidents db db := ⟨_, _, _, rfl⟩

theorem sameIncidents_apply (c : Change) (d : SharingDB) {db : DB} (h : SameIncidents db d.db) :
    SameIncidents db (c.apply d).db := by
  obtain ⟨w, rows⟩ := c
  obtain ⟨a, k, e, hdb⟩ := h
  cases w <;> simp only [Change.apply, SharingDB.withContactKeys, hdb] <;> exact ⟨_, _, _, rfl⟩

/-- A statement that changes relationships in place, and opens none. -/
theorem paired_update {d d' : SharingDB} {p : TrustedContactRelationship → Bool}
    {f : TrustedContactRelationship → TrustedContactRelationship} (h : d.Paired) (hd : d'.Keyed)
    (hrel : d'.relationships = updateWhere p f d.relationships)
    (hf : ∀ r, (f r).id = r.id ∧ (f r).ownerAccountID = r.ownerAccountID ∧
      (f r).recipientAccountID = r.recipientAccountID ∧ (f r).relationshipRole = r.relationshipRole)
    (hopens : ∀ r ∈ d.relationships, p r = true →
      terminalRelationshipState (f r).relationshipState = false →
      terminalRelationshipState r.relationshipState = false) : d'.Paired := by
  have hrow : ∀ r' ∈ d'.relationships, ∃ r ∈ d.relationships, r'.id = r.id ∧
      r'.ownerAccountID = r.ownerAccountID ∧ r'.recipientAccountID = r.recipientAccountID ∧
      r'.relationshipRole = r.relationshipRole ∧
      (terminalRelationshipState r'.relationshipState = false →
        terminalRelationshipState r.relationshipState = false) := by
    intro r' hr'
    rw [hrel] at hr'
    rcases of_mem_updateWhere hr' with ⟨hr, -⟩ | ⟨r, hr, hp, rfl⟩
    · exact ⟨r', hr, rfl, rfl, rfl, rfl, fun hopen => hopen⟩
    · exact ⟨r, hr, (hf r).1, (hf r).2.1, (hf r).2.2.1, (hf r).2.2.2, hopens r hr hp⟩
  refine ⟨hd, ?_, ?_⟩
  · intro r₁ hr₁ r₂ hr₂ hopen₁ hopen₂ howner hrecipient hrole
    obtain ⟨r, hr, hid, ho, hrc, hrl, hopen⟩ := hrow r₁ hr₁
    obtain ⟨r', hr', hid', ho', hrc', hrl', hopen'⟩ := hrow r₂ hr₂
    rw [hid, hid']
    exact h.pairs r hr r' hr' (hopen hopen₁) (hopen' hopen₂) (by rw [← ho, ← ho', howner])
      (by rw [← hrc, ← hrc', hrecipient]) (by rw [← hrl, ← hrl', hrole])
  · intro r' hr'
    obtain ⟨r, hr, -, -, -, hrl, -⟩ := hrow r' hr'
    rw [hrl]
    exact h.roles r hr

/-- A statement that leaves the relationships alone. -/
theorem paired_of_eq {d d' : SharingDB} (h : d.Paired) (hd : d'.Keyed)
    (hrel : d'.relationships = d.relationships) : d'.Paired :=
  ⟨hd, hrel ▸ h.pairs, hrel ▸ h.roles⟩

/-- `INSERT` of a relationship: the partial unique index refuses a second open one. -/
theorem paired_insert {d : SharingDB} {row : TrustedContactRelationship} (h : d.Paired)
    (hok : (Write.insertRelationship row).violates d = false) (rows : List String) :
    (Change.apply ⟨.insertRelationship row, rows⟩ d).Paired := by
  simp only [Write.violates, Bool.or_eq_false_iff, List.any_eq_false, Bool.and_eq_false_iff,
    bne_eq_false_iff_eq, beq_iff_eq, Bool.not_eq_false', List.isEmpty_iff] at hok
  obtain ⟨⟨⟨⟨⟨hfresh, hopen⟩, -⟩, -⟩, hrole⟩, -⟩ := hok
  have hmem : ∀ r ∈ (Change.apply ⟨.insertRelationship row, rows⟩ d).relationships,
      r ∈ d.relationships ∨ r = row := by
    intro r hr
    have hr : r ∈ insertRow (·.id) row d.relationships := hr
    rw [mem_insertRow hfresh, List.mem_append, List.mem_singleton] at hr
    exact hr
  -- an open row next to the new one is among those the index has looked at
  have hnew : ∀ r ∈ d.relationships, terminalRelationshipState r.relationshipState = false →
      terminalRelationshipState row.relationshipState = false →
      r.ownerAccountID = row.ownerAccountID → r.recipientAccountID = row.recipientAccountID →
      r.relationshipRole = row.relationshipRole → r.id = row.id := by
    intro r hr hopenr hopenrow howner hrecipient hrl
    rcases hopen with hterminal | hnone
    · simp [hopenrow] at hterminal
    · have hmem : r ∈ d.openRelationships row.ownerAccountID row.recipientAccountID
          row.relationshipRole :=
        List.mem_filter.mpr ⟨hr, by simp [howner, hrecipient, hrl, hopenr]⟩
      rw [hnone] at hmem
      cases hmem
  refine ⟨keyed_apply h.keyed, ?_, ?_⟩
  · intro r hr r' hr'
    rcases hmem r hr with hold | rfl <;> rcases hmem r' hr' with hold' | rfl
    · exact h.pairs r hold r' hold'
    · exact hnew r hold
    · exact fun hopen' hopen ho hrc hrl =>
        (hnew r' hold' hopen hopen' ho.symm hrc.symm hrl.symm).symm
    · exact fun _ _ _ _ _ => rfl
  · intro r hr
    rcases hmem r hr with hold | rfl
    · exact h.roles r hold
    · exact hrole

/-- Every accepted statement keeps the relationships paired. -/
theorem maintains_paired : Schema.Maintains (S := schema) SharingDB.Paired := by
  intro d s r h hs
  cases s with
  | select | selectForUpdate => exact h
  | write w =>
    have hok := (answer_write hs).1
    have hkeyed : (Change.apply ⟨w, w.rows d⟩ d).Keyed := keyed_apply h.keyed
    show (Change.apply ⟨w, w.rows d⟩ d).Paired
    cases w with
    | insertRelationship row => exact paired_insert h hok _
    | answerRelationship a i state acceptedAt declinedAt now =>
      -- the rows it finds are open already
      refine paired_update h hkeyed rfl (fun _ => ⟨rfl, rfl, rfl, rfl⟩) fun r hr hsel _ => ?_
      have hsel : ((d.relationships.filter fun r => r.recipientAccountID == a && r.id == i &&
        r.relationshipState == .pendingInvite).map (·.id)).contains r.id = true := hsel
      rw [contains_rows h.keyed.relationships hr] at hsel
      simp only [Bool.and_eq_true, beq_iff_eq] at hsel
      rw [hsel.2]
      rfl
    | revokeRelationship | replaceRelationship =>
      exact paired_update h hkeyed rfl (fun _ => ⟨rfl, rfl, rfl, rfl⟩)
        fun _ _ _ hopen => Bool.noConfusion hopen
    | linkRelationship o i replacement =>
      exact paired_update h hkeyed rfl (fun _ => ⟨rfl, rfl, rfl, rfl⟩) fun _ _ _ hopen => hopen
    | insertContactKey | updateContactKey | setContactKeyState | markOpenContactKeysReplaced
    | insertAuditEvent | insertRecipientKey | updateRecipientKey | setRecipientKeyState
    | replaceRecipientKey | setAccounts => exact paired_of_eq h hkeyed rfl

/-- No statement of the sharing part writes the other tables of the repository. -/
theorem maintains_sameIncidents (db : DB) :
    Schema.Maintains (S := schema) fun d => SameIncidents db d.db := by
  intro d s r h hs
  cases s with
  | select | selectForUpdate => exact h
  | write w => exact sameIncidents_apply ⟨w, w.rows d⟩ d h

/-! ### The invariant of a run -/

/-- What holds of all tables after `n` answers. -/
structure Sound (env : Env) (n : Nat) (d : SharingDB) : Prop where
  consistent : Consistent env (2 * n) d.db
  grantRows : GrantRows env (2 * n) d.db
  paired : d.Paired

variable {env : Env} {w w' : Exclusive schema}

/-- The two invariants of the incident repository do not look at contact keys. -/
theorem sound_sameIncidents {n n' : Nat} {d d' : SharingDB} (h : Sound env n d) (hn : n ≤ n')
    (hsame : SameIncidents d.db d'.db) (hpaired : d'.Paired) : Sound env n' d' := by
  obtain ⟨a, k, e, hdb⟩ := hsame
  have hle : 2 * n ≤ 2 * n' := by omega
  refine ⟨?_, ?_, hpaired⟩
  · rw [hdb]
    exact { h.consistent.mono hle with }
  · rw [hdb]
    exact { h.grantRows.mono hle with }

/-- What a call of the sharing part leaves. -/
theorem atomicStep_frame {l : Request × List Sql.Choice} (hpaired : w.db.Paired)
    (h : atomicStep env w l = some w') :
    w.serial ≤ w'.serial ∧ w'.db.Paired ∧ SameIncidents w.db.db w'.db.db := by
  obtain ⟨⟨p, w₁⟩, hadv, rfl⟩ := Option.map_eq_some_iff.mp h
  refine ((Prog.ensures_of_kept (I := fun x : Exclusive schema =>
    w.serial ≤ x.serial ∧ x.db.Paired ∧ SameIncidents w.db.db x.db.db) ?_ ?_).advance hadv).inv
  · rintro x c ch a x' ⟨hserial, hx, hsame⟩ hexec
    exact ⟨hserial.trans (Exclusive.serial_exec hexec),
      Exclusive.exec_maintains maintains_paired hx hexec,
      Exclusive.exec_maintains (maintains_sameIncidents w.db.db) hsame hexec⟩
  · exact ⟨Nat.le_refl _, hpaired, sameIncidents_refl _⟩

/-- A call of the sharing part keeps a terminal contact key. -/
theorem atomicStep_closed {l : Request × List Sql.Choice} (hpaired : w.db.Paired)
    (h : atomicStep env w l = some w') {key : String} {st : ContactKeyState}
    (hst : w.db.stage (.contactKey key) = some (.key st)) (hterminal : terminalKeyState st = true) :
    w'.db.stage (.contactKey key) = some (.key st) := by
  obtain ⟨⟨p, w₁⟩, hadv, rfl⟩ := Option.map_eq_some_iff.mp h
  refine Exclusive.closed_advance (L := lifecycle) (P := fun _ => true) (main_follows env l.1)
    hpaired.keyed ?_ hadv (k := .contactKey key) rfl hst hterminal
  intro s _ k p q _ _ ht
  cases ht

/-- **Inversion** of a call of the incident repository. -/
theorem operationStep_incidents {t : Tx} {now : Time}
    (h : operationStep env w (.incidents t now) = some w') :
    t.isOther = false ∧ w'.serial = w.serial + 1 + t.draws w.db.db ∧
      ((∃ r db', t.run env ⟨2 * w.serial, now⟩ w.db.db = .ok (r, db') ∧
        w'.db = { w.db with db := db' }) ∨ w'.db = w.db) := by
  simp only [operationStep] at h
  split at h
  · cases h
  next hother =>
    refine ⟨by simpa using hother, ?_⟩
    split at h
    next r db' hrun =>
      obtain ⟨⟩ := h
      exact ⟨rfl, .inl ⟨r, db', hrun, rfl⟩⟩
    next e hrun =>
      obtain ⟨⟩ := h
      exact ⟨rfl, .inr rfl⟩

/-- Step lemma: every call keeps the invariant. -/
theorem sound_step {l : Operation} (h : Sound env w.serial w.db)
    (hstep : operationStep env w l = some w') : Sound env w'.serial w'.db := by
  cases l with
  | sharing req choices =>
    obtain ⟨hserial, hpaired, hsame⟩ := atomicStep_frame h.paired hstep
    exact sound_sameIncidents h hserial hsame hpaired
  | incidents t now =>
    obtain ⟨hother, hserial, ⟨r, db', hrun, hdb⟩ | hdb⟩ := operationStep_incidents hstep
    · have hgrants := grantsEffect_of_run hother hrun
      rw [hdb, hserial]
      have hdrawn : 2 * w.serial + t.draws w.db.db < 2 * (w.serial + 1 + t.draws w.db.db) := by
        omega
      have hconsistent := consistent_effect (d := ⟨2 * w.serial, now⟩) h.consistent
        (effect_of_run hrun)
      refine ⟨hconsistent.mono hdrawn.le, ?_, ?_⟩
      · exact grantRows_effect h.grantRows hgrants (Nat.lt_of_le_of_lt (Nat.le_add_right _ _) hdrawn)
      · have hkeyed := h.paired.keyed
        refine paired_of_eq h.paired ⟨?_, hkeyed.recipientKeys, hkeyed.relationships⟩ rfl
        show (db'.contactKeys.map (·.id)).Nodup
        rw [hgrants.contactKeys_eq]
        exact hkeyed.contactKeys
    · rw [hdb, hserial]
      exact sound_sameIncidents h (by omega) (sameIncidents_refl _) h.paired

/-- A database with accounts and nothing else. -/
theorem sound_empty (env : Env) (accounts active : List String) :
    Sound env 0 { db := { accounts := accounts }, activeAccounts := active } := by
  refine ⟨?_, grantRows_empty env accounts, ⟨⟨List.nodup_nil, List.nodup_nil, List.nodup_nil⟩, ?_, ?_⟩⟩
  · constructor <;> simp [DB.childIncidents]
  · exact fun _ hr => absurd hr List.not_mem_nil
  · exact fun _ hr => absurd hr List.not_mem_nil

/-! ### Records that stay barred -/

/-- The record is revoked, or its grant is, or its contact key is in a terminal state. -/
def Barred (d : SharingDB) (id : String) : Prop :=
  ∀ w ∈ d.db.wrappedKeys, w.id = id → w.wrappedKeyState ≠ .active ∨
    (∀ g ∈ d.db.grants, g.id = w.grantID → g.grantState = .revoked) ∨
    ∃ st, d.stage (.contactKey w.contactPublicKeyID) = some (.key st) ∧ terminalKeyState st = true

variable {id : String}

/-- The calls of the incident repository keep a record barred. -/
theorem barred_effect {d : SharingDB} {db' : DB} (dr : Draw)
    (h : GrantRows env dr.next d.db) (hid : Issued env dr.next id) (hbarred : Barred d id)
    (he : GrantsEffect env dr d.db db') : Barred { d with db := db' } id := by
  intro w' hw' hwid
  rcases he.wrapped_origin hw' with ⟨w, hw, hage⟩ | ⟨hnew, -⟩
  · rcases hbarred w hw (hage.id.symm.trans hwid) with hstate | hgrant | hkey
    · exact .inl (hage.revoked hstate)
    · refine .inr (.inl fun g' hg' heq => ?_)
      rw [hage.grantID] at heq
      rcases he.grant_origin hg' with ⟨g, hg, hgage⟩ | ⟨hnew, -⟩
      · exact hgage.revoked (hgrant g hg (hgage.id ▸ heq))
      · -- the identifier the record names was drawn before
        exact absurd (heq.symm.trans hnew) ((h.issuedWrapped w hw).2.ne_newID (Nat.le_refl _))
    · refine .inr (.inr ?_)
      show ∃ st, columnAt _ _ db'.contactKeys w'.contactPublicKeyID = _ ∧ _
      rw [he.contactKeys_eq, hage.contactPublicKeyID]
      exact hkey
  · exact absurd (hwid.symm.trans hnew) (hid.ne_newID (Nat.le_refl _))

/-- Step lemma: a barred record stays barred. -/
theorem barred_step {l : Operation} (h : Sound env w.serial w.db)
    (hid : Issued env (2 * w.serial) id) (hbarred : Barred w.db id)
    (hstep : operationStep env w l = some w') : Barred w'.db id := by
  cases l with
  | sharing req choices =>
    obtain ⟨-, -, a, k, e, hdb⟩ := atomicStep_frame h.paired hstep
    intro r hr hrid
    have hr : r ∈ w.db.db.wrappedKeys := by rwa [hdb] at hr
    rcases hbarred r hr hrid with hstate | hgrant | ⟨st, hst, hterminal⟩
    · exact .inl hstate
    · refine .inr (.inl fun g hg heq => hgrant g ?_ heq)
      rwa [hdb] at hg
    · exact .inr (.inr ⟨st, atomicStep_closed h.paired hstep hst hterminal, hterminal⟩)
  | incidents t now =>
    obtain ⟨hother, -, ⟨r, db', hrun, hdb⟩ | hdb⟩ := operationStep_incidents hstep
    · rw [hdb]
      exact barred_effect ⟨2 * w.serial, now⟩ h.grantRows hid hbarred
        (grantsEffect_of_run hother hrun)
    · rw [hdb]
      exact hbarred

theorem barred_run {ks : List Operation} (h : Sound env w.serial w.db)
    (hid : Issued env (2 * w.serial) id) (hbarred : Barred w.db id)
    (hrun : run (operationStep env) w ks = some w') : Barred w'.db id := by
  have hinv := invariant_of_step (I := fun x : Exclusive schema =>
    Sound env x.serial x.db ∧ Issued env (2 * x.serial) id ∧ Barred x.db id) ?_
    ⟨h, hid, hbarred⟩ hrun
  · exact hinv.2.2
  · rintro x l x' ⟨hx, hxid, hxb⟩ hstep
    refine ⟨sound_step hx hstep, hxid.mono ?_, barred_step hx hxid hxb hstep⟩
    cases l with
    | sharing req choices =>
      have := (atomicStep_frame hx.paired hstep).1
      omega
    | incidents t now =>
      have := (operationStep_incidents hstep).2.1
      omega

/-! ### What the queries return -/

/-- The grant a record is delivered under at the given time. -/
structure Covers (env : Env) (now : Time) (w : WrappedKeyRecord) (g : SharingGrant) : Prop where
  id : g.id = w.grantID
  state : g.grantState = .active
  unexpired : g.expiresAt.any (env.dbTimeLE · now) = false
  dataClass : g.dataClass = .ciphertext ∨ g.dataClass = .metadataCiphertext
  owner : g.ownerAccountID = w.ownerAccountID
  incident : g.incidentID = w.incidentID
  contact : g.contactID = w.contactID
  contactKey : g.contactPublicKeyID = w.contactPublicKeyID
  stream : g.streamID = "" ∨ g.streamID = w.streamID

/-- The recipient may have the record: it is active, and so are its incident, its grant, its
    contact key and the relationship between its owner and the recipient. -/
structure Entitled (env : Env) (now : Time) (d : SharingDB) (recipient : String)
    (w : WrappedKeyRecord) : Prop where
  state : w.wrappedKeyState = .active
  incident : ∃ i ∈ d.db.incidents, i.id = w.incidentID ∧ i.ownerAccountID = w.ownerAccountID ∧
    i.ownerAccountID ≠ "" ∧ i.deletionState = .active
  grant : ∃ g ∈ d.db.grants, Covers env now w g
  contactKey : ∃ k ∈ d.db.contactKeys, k.id = w.contactPublicKeyID ∧
    k.ownerAccountID = w.ownerAccountID ∧ k.keyState = .active ∧
    k.recipientAccountID = recipient ∧ k.recipientAccountID ≠ ""
  relationship : ∃ r ∈ d.relationships, r.ownerAccountID = w.ownerAccountID ∧
    r.recipientAccountID = recipient ∧ r.relationshipState = .active

variable {now : Time} {recipient : String} {d : SharingDB} {n : Nat}

variable {r : WrappedKeyRecord}

/-- A joined row passes the conditions exactly when it shows that the recipient is
    entitled. -/
theorem mem_joins {g : SharingGrant} {k : ContactPublicKey} {i : Incident}
    {tcr : TrustedContactRelationship} (h : Sound env n d) :
    (r, g, k, i, tcr) ∈ (trustedContactWrappedKeyJoins d).filter (deliverable env now recipient) ↔
      r ∈ d.db.wrappedKeys ∧ r.wrappedKeyState = .active ∧
      (g ∈ d.db.grants ∧ Covers env now r g) ∧
      (k ∈ d.db.contactKeys ∧ k.id = r.contactPublicKeyID ∧ k.ownerAccountID = r.ownerAccountID ∧
        k.keyState = .active ∧ k.recipientAccountID = recipient ∧ k.recipientAccountID ≠ "") ∧
      (i ∈ d.db.incidents ∧ i.id = r.incidentID ∧ i.ownerAccountID = r.ownerAccountID ∧
        i.ownerAccountID ≠ "" ∧ i.deletionState = .active) ∧
      (tcr ∈ d.relationships ∧ tcr.ownerAccountID = r.ownerAccountID ∧
        tcr.recipientAccountID = recipient ∧ tcr.relationshipState = .active) := by
  simp only [trustedContactWrappedKeyJoins, List.mem_filter, List.mem_product,
    activeWrappedKeyJoins, deliverable, nullableEq, Bool.and_eq_true, Bool.or_eq_true, beq_iff_eq,
    bne_iff_ne, Bool.not_eq_true', and_assoc]
  constructor
  · rintro ⟨hr, hg, hk, hi, ht, hgid, hgo, hgi, hgc, hgk, hkid, hko, hiid, hine, hio, hto, hidel, -, -,
      hclass, hrs, hgs, hexp, hks, hkne, hkr, htr, -, hts⟩
    have hcovers : Covers env now r g :=
      ⟨hgid, hgs, hexp, hclass, hgo, hgi, hgc, hgk, h.grantRows.scope r hr g hg hgid⟩
    exact ⟨hr, hrs, hg, hcovers, hk, hkid, hko, hks, hkr, hkne, hi, hiid, hio, hine, hidel, ht, hto,
      htr, hts⟩
  · rintro ⟨hr, hrs, hg, ⟨hgid, hgs, hexp, hclass, hgo, hgi, hgc, hgk, -⟩, hk, hkid, hko, hks, hkr,
      hkne, hi, hiid, hio, hine, hidel, ht, hto, htr, hts⟩
    exact ⟨hr, hg, hk, hi, ht, hgid, hgo, hgi, hgc, hgk, hkid, hko, hiid, hine, hio, hto, hidel,
      h.grantRows.wrappedType r hr, h.grantRows.grantType g hg, hclass, hrs, hgs, hexp, hks, hkne,
      hkr, htr, h.paired.roles tcr ht, hts⟩

/-- The records of the joined rows that pass the conditions. -/
theorem entitled_iff (h : Sound env n d) :
    (∃ row ∈ (trustedContactWrappedKeyJoins d).filter (deliverable env now recipient), row.1 = r) ↔
      r ∈ d.db.wrappedKeys ∧ Entitled env now d recipient r := by
  constructor
  · rintro ⟨⟨r, g, k, i, tcr⟩, hrow, rfl⟩
    obtain ⟨hr, hrs, ⟨hg, hcovers⟩, hk, hi, ht⟩ := (mem_joins h).mp hrow
    exact ⟨hr, hrs, ⟨i, hi⟩, ⟨g, hg, hcovers⟩, ⟨k, hk⟩, tcr, ht⟩
  · rintro ⟨hr, hrs, ⟨i, hi⟩, ⟨g, hg, hcovers⟩, ⟨k, hk⟩, tcr, ht⟩
    exact ⟨(r, g, k, i, tcr), (mem_joins h).mpr ⟨hr, hrs, ⟨hg, hcovers⟩, hk, hi, ht⟩, rfl⟩

/-- Every entitled record comes from one joined row only: the other four rows are determined
    by the keys of their tables and by the index on open pairs. -/
theorem joins_nodup (h : Sound env n d) :
    (((trustedContactWrappedKeyJoins d).filter (deliverable env now recipient)).map
      (·.1.id)).Nodup := by
  have hkeyed := h.paired.keyed
  have hjoins : (trustedContactWrappedKeyJoins d).Nodup :=
    List.Nodup.filter _ ((h.grantRows.wrappedIDs.of_map _).product
      ((h.grantRows.grantIDs.of_map _).product ((hkeyed.contactKeys.of_map _).product
        ((h.consistent.incidentIDs.of_map _).product (hkeyed.relationships.of_map _)))))
  refine List.Nodup.map_on ?_ (hjoins.filter _)
  rintro ⟨r, g, k, i, t⟩ hrow ⟨r', g', k', i', t'⟩ hrow' heq
  obtain ⟨hr, -, ⟨hg, hcovers⟩, ⟨hk, hkid, -⟩, ⟨hi, hiid, -⟩, ht, hto, htr, hts⟩ :=
    (mem_joins h).mp hrow
  obtain ⟨hr', -, ⟨hg', hcovers'⟩, ⟨hk', hkid', -⟩, ⟨hi', hiid', -⟩, ht', hto', htr', hts'⟩ :=
    (mem_joins h).mp hrow'
  obtain rfl := eq_of_key h.grantRows.wrappedIDs hr hr' heq
  obtain rfl := eq_of_key h.grantRows.grantIDs hg hg' (hcovers.id.trans hcovers'.id.symm)
  obtain rfl := eq_of_key hkeyed.contactKeys hk hk' (hkid.trans hkid'.symm)
  obtain rfl := eq_of_key h.consistent.incidentIDs hi hi' (hiid.trans hiid'.symm)
  have hpair : t.id = t'.id := by
    refine h.paired.pairs t ht t' ht' ?_ ?_ (hto.trans hto'.symm) (htr.trans htr'.symm) ?_
    · rw [hts]; rfl
    · rw [hts']; rfl
    · rw [h.paired.roles t ht, h.paired.roles t' ht']
  obtain rfl := eq_of_key hkeyed.relationships ht ht' hpair
  rfl

/-- The records that a query selects. -/
theorem mem_selected {p : WrappedKeyRecord → Bool} (h : Sound env n d) :
    r ∈ ((trustedContactWrappedKeyJoins d).filter fun row =>
        p row.1 && deliverable env now recipient row).map (·.1) ↔
      r ∈ d.db.wrappedKeys ∧ p r = true ∧ Entitled env now d recipient r := by
  rw [← List.filter_filter, List.mem_map]
  simp only [List.mem_filter (p := fun row : JoinedRow => p row.1)]
  constructor
  · rintro ⟨row, ⟨hrow, hp⟩, rfl⟩
    obtain ⟨hr, hentitled⟩ := (entitled_iff h).mp ⟨row, hrow, rfl⟩
    exact ⟨hr, hp, hentitled⟩
  · rintro ⟨hr, hp, hentitled⟩
    obtain ⟨row, hrow, rfl⟩ := (entitled_iff h).mpr ⟨hr, hentitled⟩
    exact ⟨row, ⟨hrow, hp⟩, rfl⟩

theorem mem_list {incidentID : String} (h : Sound env n d) :
    r ∈ listTrustedContactWrappedKeyRecords env now recipient incidentID d ↔
      r ∈ d.db.wrappedKeys ∧ r.incidentID = incidentID ∧ Entitled env now d recipient r := by
  rw [listTrustedContactWrappedKeyRecords, List.mem_insertionSort,
    mem_selected (p := fun r => r.incidentID == incidentID) h, beq_iff_eq]

theorem list_nodup {incidentID : String} (h : Sound env n d) :
    ((listTrustedContactWrappedKeyRecords env now recipient incidentID d).map (·.id)).Nodup := by
  rw [listTrustedContactWrappedKeyRecords, ← List.filter_filter]
  refine ((List.perm_insertionSort _ _).map _).nodup_iff.mpr ?_
  rw [List.map_map]
  exact (joins_nodup h).sublist (List.filter_sublist.map _)

theorem mem_found (h : Sound env n d) :
    r ∈ ((trustedContactWrappedKeyJoins d).filter fun row =>
        row.1.id == id && deliverable env now recipient row).map (·.1) ↔
      r ∈ d.db.wrappedKeys ∧ r.id = id ∧ Entitled env now d recipient r := by
  rw [mem_selected (p := fun r => r.id == id) h, beq_iff_eq]

theorem get_eq_ok (h : Sound env n d) :
    getTrustedContactWrappedKeyRecord env now recipient id d = .ok r ↔
      r ∈ d.db.wrappedKeys ∧ r.id = id ∧ Entitled env now d recipient r := by
  rw [getTrustedContactWrappedKeyRecord, Checked.found_ok, ← mem_found h]
  constructor
  · exact List.mem_of_mem_head?
  · intro hr
    obtain ⟨r', hr'⟩ := Option.ne_none_iff_exists'.mp
      (mt List.head?_eq_none_iff.mp (List.ne_nil_of_mem hr))
    -- there is only one record with this identifier
    have hmem' := (mem_found h).mp (List.mem_of_mem_head? hr')
    have hmem := (mem_found h).mp hr
    rw [hr', eq_of_key h.grantRows.wrappedIDs hmem'.1 hmem.1 (hmem'.2.1.trans hmem.2.1.symm)]

/-- One of the queries returns the record, to some recipient at some time. -/
def Returned (env : Env) (d : SharingDB) (id : String) : Prop :=
  ∃ recipient now,
    (∃ incidentID, ∃ r ∈ listTrustedContactWrappedKeyRecords env now recipient incidentID d,
      r.id = id) ∨
    ∃ r, getTrustedContactWrappedKeyRecord env now recipient id d = .ok r

/-- No query returns a barred record. -/
theorem not_returned (h : Sound env n d) (hbarred : Barred d id) :
    ¬ Returned env d id := by
  rintro ⟨recipient, now, hreturned⟩
  obtain ⟨r, hr, hid, hentitled⟩ : ∃ r ∈ d.db.wrappedKeys, r.id = id ∧
      Entitled env now d recipient r := by
    rcases hreturned with ⟨incidentID, r, hr, hid⟩ | ⟨r, hr⟩
    · obtain ⟨hmem, -, hentitled⟩ := (mem_list h).mp hr
      exact ⟨r, hmem, hid, hentitled⟩
    · obtain ⟨hmem, hid, hentitled⟩ := (get_eq_ok h).mp hr
      exact ⟨r, hmem, hid, hentitled⟩
  rcases hbarred r hr hid with hstate | hgrant | ⟨st, hst, hterminal⟩
  · exact hstate hentitled.state
  · obtain ⟨g, hg, hcovers⟩ := hentitled.grant
    have hrevoked := hgrant g hg hcovers.id
    rw [hcovers.state] at hrevoked
    cases hrevoked
  · obtain ⟨k, hk, hkid, -, hstate, -⟩ := hentitled.contactKey
    have hlook : d.stage (.contactKey k.id) = some (.key k.keyState) :=
      columnAt_of_mem h.paired.keyed.contactKeys hk
    rw [hkid, hst, hstate] at hlook
    cases hlook
    cases hterminal

/-! ### Every run -/

/-- A successful `RevokeWrappedKeyRecord` bars the record. -/
theorem barred_of_revokeWrappedKeyRecord {o id b : String} {dr : Draw}
    {db' : DB} (h : Sound env n d) (hrun : revokeWrappedKeyRecord env dr o id b d.db = .ok (r, db')) :
    Barred { d with db := db' } id := by
  obtain ⟨⟨record, hrecord, hid, howner⟩, -, -, hwrapped⟩ := revokeWrappedKeyRecord_ok hrun
  intro w hw hwid
  have hw : w ∈ db'.wrappedKeys := hw
  rw [hwrapped] at hw
  obtain ⟨w₀, hw₀, rfl⟩ := mem_updateWhere.mp hw
  refine .inl ?_
  split
  · exact nofun
  next hsel =>
    rw [if_neg hsel] at hwid
    obtain rfl := eq_of_key h.grantRows.wrappedIDs hw₀ hrecord (hwid.trans hid.symm)
    simpa [hid, howner] using hsel

/-- A successful `RevokeSharingGrant` bars the records of the grant. -/
theorem barred_of_revokeSharingGrant {o g b : String} {r : SharingGrant} {dr : Draw} {db' : DB}
    (h : Sound env n d) (hrun : revokeSharingGrant env dr o g b d.db = .ok (r, db'))
    {record : WrappedKeyRecord} (hrecord : record ∈ d.db.wrappedKeys) (hgrant : record.grantID = g) :
    Barred { d with db := db' } record.id := by
  obtain ⟨⟨grant, hmem, hid, howner, hlive⟩, -, hwrapped, hgrants⟩ := revokeSharingGrant_ok hrun
  intro w hw hwid
  have hw : w ∈ d.db.wrappedKeys := hwrapped ▸ hw
  obtain rfl := eq_of_key h.grantRows.wrappedIDs hw hrecord hwid
  refine .inr (.inl fun g' hg' heq => ?_)
  have hg' : g' ∈ db'.grants := hg'
  rw [hgrants] at hg'
  obtain ⟨g₀, hg₀, rfl⟩ := mem_updateWhere.mp hg'
  split
  · rfl
  next hsel =>
    -- the one grant with this identifier is the grant that was revoked
    rw [if_neg hsel] at heq
    obtain rfl := eq_of_key h.grantRows.grantIDs hg₀ hmem (heq.trans (hgrant.trans hid.symm))
    exact absurd (by simp [hid, howner, hlive]) hsel

theorem sound_run {ks : List Operation} (h : Sound env w.serial w.db)
    (hrun : run (operationStep env) w ks = some w') : Sound env w'.serial w'.db :=
  invariant_of_step (I := fun x : Exclusive schema => Sound env x.serial x.db)
    (fun _ _ _ hx hstep => sound_step hx hstep) h hrun

/-- A record that a call has barred is not returned in any state after it. -/
theorem not_returned_after {t : Tx} {x : t.Result} {db' : DB} (h : Sound env w.serial w.db)
    (ht : t.isOther = false) (hok : t.run env ⟨2 * w.serial, now⟩ w.db.db = .ok (x, db'))
    (hid : Issued env (2 * w.serial) id) (hbarred : Barred { w.db with db := db' } id)
    {ks : List Operation} (hks : run (operationStep env) w (.incidents t now :: ks) = some w') :
    ¬ Returned env w'.db id := by
  obtain ⟨w₁, hstep, hrest⟩ := run_cons.mp hks
  have hsound := sound_step h hstep
  obtain ⟨-, hserial, -⟩ := operationStep_incidents hstep
  have hdb : w₁.db = { w.db with db := db' } := by
    simp only [operationStep, hok, ht, Bool.false_eq_true, if_false] at hstep
    exact congrArg (·.db) (Option.some.inj hstep).symm
  refine not_returned (sound_run hsound hrest) (barred_run hsound ?_ (hdb ▸ hbarred) hrest)
  exact hid.mono (by omega)

/-- **Delivery to trusted contacts.**  After every sequence of calls that starts without
    incidents, keys and relationships:

    * both queries return exactly the records the recipient is entitled to, the list each of
      them once;
    * once `RevokeWrappedKeyRecord` or `RevokeSharingGrant` has succeeded, or the contact key
      is in a terminal state, the records concerned are never returned again. -/
theorem trusted_contact_delivery (env : Env) (accounts active : List String) (ls : List Operation)
    (w : Exclusive schema)
    (hrun : run (operationStep env)
      { db := { db := { accounts := accounts }, activeAccounts := active } } ls = some w) :
    (∀ recipient incidentID now r,
      r ∈ listTrustedContactWrappedKeyRecords env now recipient incidentID w.db ↔
        r ∈ w.db.db.wrappedKeys ∧ r.incidentID = incidentID ∧ Entitled env now w.db recipient r) ∧
    (∀ recipient incidentID now,
      ((listTrustedContactWrappedKeyRecords env now recipient incidentID w.db).map (·.id)).Nodup) ∧
    (∀ recipient id now r,
      getTrustedContactWrappedKeyRecord env now recipient id w.db = .ok r ↔
        r ∈ w.db.db.wrappedKeys ∧ r.id = id ∧ Entitled env now w.db recipient r) ∧
    (∀ owner id revokedBy now r db',
      (Tx.revokeWrappedKeyRecord owner id revokedBy).run env ⟨2 * w.serial, now⟩ w.db.db =
        .ok (r, db') →
      ∀ ks w', run (operationStep env) w
        (.incidents (.revokeWrappedKeyRecord owner id revokedBy) now :: ks) = some w' →
        ¬ Returned env w'.db id) ∧
    (∀ owner grantID revokedBy now r db',
      (Tx.revokeSharingGrant owner grantID revokedBy).run env ⟨2 * w.serial, now⟩ w.db.db =
        .ok (r, db') →
      ∀ ks w', run (operationStep env) w
        (.incidents (.revokeSharingGrant owner grantID revokedBy) now :: ks) = some w' →
        ∀ record ∈ w.db.db.wrappedKeys, record.grantID = grantID →
          ¬ Returned env w'.db record.id) ∧
    (∀ key state, w.db.stage (.contactKey key) = some (.key state) → terminalKeyState state = true →
      ∀ ks w', run (operationStep env) w ks = some w' →
        ∀ record ∈ w.db.db.wrappedKeys, record.contactPublicKeyID = key →
          ¬ Returned env w'.db record.id) := by
  have h : Sound env w.serial w.db := sound_run (sound_empty env accounts active) hrun
  have hissued : ∀ r ∈ w.db.db.wrappedKeys, Issued env (2 * w.serial) r.id :=
    fun r hr => (h.grantRows.issuedWrapped r hr).1
  refine ⟨fun _ _ _ _ => mem_list h, fun _ _ _ => list_nodup h, fun _ _ _ _ => get_eq_ok h, ?_, ?_, ?_⟩
  · intro owner id revokedBy now r db' hok ks w' hks
    obtain ⟨⟨record, hrecord, hid, -⟩, -⟩ := revokeWrappedKeyRecord_ok hok
    exact not_returned_after h rfl hok (hid ▸ hissued record hrecord)
      (barred_of_revokeWrappedKeyRecord h hok) hks
  · intro owner grantID revokedBy now r db' hok ks w' hks record hrecord hgrant
    exact not_returned_after h rfl hok (hissued record hrecord)
      (barred_of_revokeSharingGrant h hok hrecord hgrant) hks
  · intro key state hstate hterminal ks w' hks record hrecord hkey
    refine not_returned (sound_run h hks) (barred_run h (hissued record hrecord) ?_ hks)
    intro r hr hrid
    obtain rfl := eq_of_key h.grantRows.wrappedIDs hr hrecord hrid
    exact .inr (.inr ⟨state, hkey ▸ hstate, hterminal⟩)

/-- The identifiers drawn in the sample run below. -/
def sampleIncidentID : String := sampleEnv.newID "inc" 20

def sampleRecordID : String := sampleEnv.newID "wkey" 32

/-- The owner registers a key and shares an incident with a friend who has accepted. -/
def shareWithFriend : List Operation :=
  [.sharing register [{}],
    .sharing (.createTrustedContactRelationship ⟨"owner", "friend", "", ""⟩) [{}],
    .sharing (.acceptTrustedContactRelationship "friend" (sampleEnv.newID "tcr" 12) 1) [{}, {}],
    .incidents (.createIncidentForAccount "owner" ⟨"", "", none, none, none, none⟩) 2,
    .incidents (.createSharingGrant ⟨"owner", sampleIncidentID, "", "trusted_contact",
      sampleEnv.newID "ctc" 3, "", .ciphertext, none⟩) 3,
    .incidents (.createWrappedKeyRecord ⟨"owner", sampleIncidentID, "", sampleEnv.newID "sgr" 26,
      "media", "wrapped"⟩) 4]

/-- The friend reads the record until the owner revokes it. -/
theorem trusted_contact_delivery_revoked :
    ∃ w, run (operationStep sampleEnv) { db := emptySharingDB } shareWithFriend = some w ∧
      (listTrustedContactWrappedKeyRecords sampleEnv 5 "friend" sampleIncidentID w.db).map (·.id) =
        [sampleRecordID] ∧
      ∃ w', run (operationStep sampleEnv) w
          [.incidents (.revokeWrappedKeyRecord "owner" sampleRecordID "owner") 6] = some w' ∧
        ¬ Returned sampleEnv w'.db sampleRecordID := by
  refine ⟨_, rfl, rfl, _, rfl, ?_⟩
  have hdelivery := trusted_contact_delivery sampleEnv ["owner", "friend"] ["owner", "friend"]
    shareWithFriend _ rfl
  exact hdelivery.2.2.2.1 "owner" sampleRecordID "owner" 6 _ _ rfl [] _ rfl

end SafetyRecorder.Sharing
