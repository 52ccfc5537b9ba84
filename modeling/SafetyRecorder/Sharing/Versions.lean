import SafetyRecorder.Lib.Versions
import SafetyRecorder.Server.Sample
import SafetyRecorder.Sharing.Atomic
import SafetyRecorder.Sharing.Lifecycle

namespace SafetyRecorder.Sharing

open Table Process Sql Versions Runs

/-!
# Sharing — key versions

The contact public keys of a contact, and the account recipient keys of a recipient, are
versions of one key: numbered without gaps, and only the newest one can be in use.

* `Ledger` — the invariant of the two tables: numbering, inheritance of the recipient
  account, and contact identifiers that were drawn before;
* `ledger_updateContact`, `ledger_supersedeContact`, … — what the writes of the methods do
  to it;
* `key_versions` — the invariant after every sequence of key operations.
-/

/-- The contact a key belongs to. -/
def contactGroup (k : ContactPublicKey) : String × String := (k.ownerAccountID, k.contactID)

/-- The recipient a key belongs to. -/
def recipientGroup (k : AccountRecipientKey) : String × String :=
  (k.ownerAccountID, k.recipientID)

/-- The key is pending or active. -/
def openContactKey (k : ContactPublicKey) : Bool := !terminalKeyState k.keyState

def openRecipientKey (k : AccountRecipientKey) : Bool := !terminalKeyState k.keyState

theorem contactKeysOf_eq (d : SharingDB) (o c : String) :
    d.contactKeysOf o c = rowsOf contactGroup d.db.contactKeys (o, c) := by
  refine List.filter_congr fun k _ => ?_
  simp [contactGroup, Prod.ext_iff, Bool.decide_and, beq_eq_decide]

theorem recipientKeysOf_eq (d : SharingDB) (o r : String) :
    d.recipientKeysOf o r = rowsOf recipientGroup d.recipientKeys (o, r) := by
  refine List.filter_congr fun k _ => ?_
  simp [recipientGroup, Prod.ext_iff, Bool.decide_and, beq_eq_decide]

/-- A newer key of a contact names the recipient account that an older one names. -/
def Inherits (t : List ContactPublicKey) : Prop :=
  ∀ k ∈ t, ∀ k' ∈ t, contactGroup k = contactGroup k' → k.version ≤ k'.version → k.recipientAccountID ≠ "" →
    k'.recipientAccountID = k.recipientAccountID

/-- The invariant of the key tables after `n` answers. -/
structure Ledger (env : Env) (n : Nat) (d : SharingDB) : Prop where
  keyed : d.Keyed
  contacts : Numbered contactGroup (·.version) openContactKey d.db.contactKeys
  inherits : Inherits d.db.contactKeys
  drawn : ∀ k ∈ d.db.contactKeys, ∃ kind m, m < 2 * n ∧ k.contactID = env.newID kind m
  recipients : Numbered recipientGroup (·.version) openRecipientKey d.recipientKeys

variable {env : Env} {n n' : Nat} {d : SharingDB}

theorem ledger_kept (env : Env) : Kept (Ledger env) where
  mono hle h :=
    { h with
      drawn := fun k hk => by
        obtain ⟨kind, m, hm, hid⟩ := h.drawn k hk
        exact ⟨kind, m, by omega, hid⟩ }

/-! ### Writes by identifier -/

theorem nextVersion_contact (h : Ledger env n d) (o c : String) :
    nextVersion ((d.contactKeysOf o c).map (·.version)) = (d.contactKeysOf o c).length + 1 := by
  rw [nextVersion, contactKeysOf_eq, (h.contacts (o, c)).highest]

theorem nextVersion_recipient (h : Ledger env n d) (o r : String) :
    nextVersion ((d.recipientKeysOf o r).map (·.version)) = (d.recipientKeysOf o r).length + 1 := by
  rw [nextVersion, recipientKeysOf_eq, (h.recipients (o, r)).highest]

/-- A write to other tables. -/
theorem ledger_of_eq {d' : SharingDB} (h : Ledger env n d) (hle : n ≤ n')
    (hcontacts : d'.db.contactKeys = d.db.contactKeys) (hrecipients : d'.recipientKeys = d.recipientKeys)
    (hrel : d'.relationships = d.relationships) : Ledger env n' d' := by
  obtain ⟨hkeyed, hnumbered, hinherits, hdrawn, hrec⟩ := (ledger_kept env).mono hle h
  refine ⟨⟨?_, ?_, ?_⟩, ?_, ?_, ?_, ?_⟩
  all_goals simp only [hcontacts, hrecipients, hrel]
  exacts [hkeyed.contactKeys, hkeyed.recipientKeys, hkeyed.relationships, hnumbered, hinherits,
    hdrawn, hrec]

/-- A change of a contact key that leaves what identifies it, and opens none. -/
structure ContactEdit (t : List ContactPublicKey) (f : ContactPublicKey → ContactPublicKey) :
    Prop where
  id : ∀ k, (f k).id = k.id
  owner : ∀ k, (f k).ownerAccountID = k.ownerAccountID
  contact : ∀ k, (f k).contactID = k.contactID
  version : ∀ k, (f k).version = k.version
  recipient : ∀ k, (f k).recipientAccountID = k.recipientAccountID
  opens : ∀ k ∈ t, openContactKey (f k) = true → openContactKey k = true

namespace ContactEdit

variable {t : List ContactPublicKey} {f : ContactPublicKey → ContactPublicKey}

theorem group (h : ContactEdit t f) (k : ContactPublicKey) : contactGroup (f k) = contactGroup k := by
  rw [contactGroup, h.owner, h.contact, contactGroup]

theorem inherits (h : ContactEdit t f) (ht : Inherits t) : Inherits (t.map f) := by
  intro k hk k' hk' hgroup hversion hne
  obtain ⟨k₀, hk₀, rfl⟩ := List.mem_map.mp hk
  obtain ⟨k₁, hk₁, rfl⟩ := List.mem_map.mp hk'
  rw [h.group, h.group] at hgroup
  rw [h.version, h.version] at hversion
  rw [h.recipient] at hne
  rw [h.recipient, h.recipient]
  exact ht k₀ hk₀ k₁ hk₁ hgroup hversion hne

end ContactEdit

/-- `UPDATE` of contact keys in place. -/
theorem ledger_updateContact {f : ContactPublicKey → ContactPublicKey} (h : Ledger env n d)
    (hf : ContactEdit d.db.contactKeys f) :
    Ledger env n (d.withContactKeys (List.map f)) where
  keyed :=
    { h.keyed with
      contactKeys := by
        show ((d.db.contactKeys.map f).map (·.id)).Nodup
        rw [map_key hf.id]
        exact h.keyed.contactKeys }
  contacts := numbered_map h.contacts (fun k _ => hf.group k) (fun k _ => hf.version k) hf.opens
  inherits := hf.inherits h.inherits
  drawn k hk := by
    obtain ⟨k₀, hk₀, rfl⟩ := List.mem_map.mp hk
    rw [hf.contact]
    exact h.drawn k₀ hk₀
  recipients := h.recipients

variable {row : ContactPublicKey}

/-- `INSERT` of a new version of a contact key, and then `UPDATE` of the older ones. -/
theorem ledger_supersedeContact {f : ContactPublicKey → ContactPublicKey}
    (h : Ledger env n d) (hf : ContactEdit d.db.contactKeys f) (hself : f row = row)
    (hid : ∀ k ∈ d.db.contactKeys, k.id ≠ row.id)
    (hversion : row.version = (d.contactKeysOf row.ownerAccountID row.contactID).length + 1)
    (hclosed : ∀ k ∈ d.contactKeysOf row.ownerAccountID row.contactID, openContactKey (f k) = false)
    (hrecipient : ∀ k ∈ d.contactKeysOf row.ownerAccountID row.contactID,
      k.recipientAccountID ≠ "" → row.recipientAccountID = k.recipientAccountID)
    (hdrawn : ∃ kind m, m < 2 * n ∧ row.contactID = env.newID kind m) :
    Ledger env n (d.withContactKeys fun t => (t ++ [row]).map f) := by
  simp only [contactKeysOf_eq] at hversion hclosed hrecipient
  have hgroup : contactGroup row = (row.ownerAccountID, row.contactID) := rfl
  constructor
  · exact { h.keyed with
      contactKeys := by
        show (((d.db.contactKeys ++ [row]).map f).map (·.id)).Nodup
        rw [map_key hf.id]
        exact nodup_map_append h.keyed.contactKeys hid }
  · refine numbered_supersede h.contacts (fun k _ => hf.group k) (fun k _ => hf.version k) hf.opens
      ?_ hself ?_
    · rw [hgroup, hversion]
    · rw [hgroup]
      exact hclosed
  · show Inherits ((d.db.contactKeys ++ [row]).map f)
    rw [List.map_append, List.map_singleton, hself]
    intro k hk k' hk' hg hv hne
    rcases mem_append_row.mp hk with hold | rfl <;> rcases mem_append_row.mp hk' with hold' | rfl
    · exact hf.inherits h.inherits k hold k' hold' hg hv hne
    · -- the new key takes the recipient over
      obtain ⟨k₀, hk₀, rfl⟩ := List.mem_map.mp hold
      rw [hf.group] at hg
      rw [hf.recipient] at hne ⊢
      exact hrecipient k₀ (mem_rowsOf.mpr ⟨hk₀, hg⟩) hne
    · -- no older key has a higher version
      obtain ⟨k₀, hk₀, rfl⟩ := List.mem_map.mp hold'
      rw [hf.group] at hg
      rw [hf.version] at hv
      have hle := (h.contacts (contactGroup k)).le (mem_rowsOf.mpr ⟨hk₀, hg.symm⟩)
      rw [hgroup] at hle
      omega
    · rfl
  · intro k hk
    obtain ⟨k₀, hk₀, rfl⟩ := List.mem_map.mp hk
    rcases mem_append_row.mp hk₀ with hold | rfl
    · rw [hf.contact]
      exact h.drawn k₀ hold
    · rw [hf.contact]
      exact hdrawn
  · exact h.recipients

/-- A change of an account recipient key that leaves what identifies it, and opens none. -/
structure RecipientEdit (t : List AccountRecipientKey)
    (f : AccountRecipientKey → AccountRecipientKey) : Prop where
  id : ∀ k, (f k).id = k.id
  group : ∀ k, recipientGroup (f k) = recipientGroup k
  version : ∀ k, (f k).version = k.version
  opens : ∀ k ∈ t, openRecipientKey (f k) = true → openRecipientKey k = true

/-- `UPDATE` of account recipient keys in place. -/
theorem ledger_updateRecipient {f : AccountRecipientKey → AccountRecipientKey} (h : Ledger env n d)
    (hf : RecipientEdit d.recipientKeys f) :
    Ledger env n { d with recipientKeys := d.recipientKeys.map f } where
  keyed :=
    { h.keyed with
      recipientKeys := by
        show ((d.recipientKeys.map f).map (·.id)).Nodup
        rw [map_key hf.id]
        exact h.keyed.recipientKeys }
  contacts := h.contacts
  inherits := h.inherits
  drawn := h.drawn
  recipients := numbered_map h.recipients (fun k _ => hf.group k) (fun k _ => hf.version k) hf.opens

/-- `INSERT` of a new version of an account recipient key, and then `UPDATE` of the older
    ones. -/
theorem ledger_supersedeRecipient {f : AccountRecipientKey → AccountRecipientKey}
    {row : AccountRecipientKey} (h : Ledger env n d) (hf : RecipientEdit d.recipientKeys f)
    (hself : f row = row) (hid : ∀ k ∈ d.recipientKeys, k.id ≠ row.id)
    (hversion : row.version = (d.recipientKeysOf row.ownerAccountID row.recipientID).length + 1)
    (hclosed : ∀ k ∈ d.recipientKeysOf row.ownerAccountID row.recipientID,
      openRecipientKey (f k) = false) :
    Ledger env n { d with recipientKeys := (d.recipientKeys ++ [row]).map f } := by
  simp only [recipientKeysOf_eq] at hversion hclosed
  refine ⟨{ h.keyed with recipientKeys := ?_ }, h.contacts, h.inherits, h.drawn, ?_⟩
  · show (((d.recipientKeys ++ [row]).map f).map (·.id)).Nodup
    rw [map_key hf.id]
    exact nodup_map_append h.keyed.recipientKeys hid
  · exact numbered_supersede h.recipients (fun k _ => hf.group k) (fun k _ => hf.version k) hf.opens
      hversion hself hclosed

/-! ### Contact public keys -/

variable {o i : String}

/-- A row that is found by owner and identifier. -/
theorem contactKey_found {k : ContactPublicKey} (h : Read.run d (.contactKey o i) = some k) :
    k ∈ d.db.contactKeys ∧ k.ownerAccountID = o ∧ k.id = i := by
  obtain ⟨hmem, howner, hid⟩ := find?_and h
  exact ⟨hmem, beq_iff_eq.mp howner, beq_iff_eq.mp hid⟩

/-- The edit of the one key with the given identifier. -/
theorem contactEdit_found {current : ContactPublicKey}
    {f : ContactPublicKey → ContactPublicKey} (hkeyed : d.Keyed)
    (hcurrent : Read.run d (.contactKey o i) = some current)
    (hf : ∀ k, (f k).id = k.id ∧ (f k).ownerAccountID = k.ownerAccountID ∧
      (f k).contactID = k.contactID ∧ (f k).version = k.version ∧
      (f k).recipientAccountID = k.recipientAccountID)
    (hopens : openContactKey (f current) = true → openContactKey current = true) :
    ContactEdit d.db.contactKeys fun k =>
      if ((d.db.contactKeys.filter fun k => k.ownerAccountID == o && k.id == i).map
        (·.id)).contains k.id then f k else k := by
  obtain ⟨hmem, -, hid⟩ := contactKey_found hcurrent
  refine ⟨fun k => column_ite _ (hf k).1, fun k => column_ite _ (hf k).2.1,
    fun k => column_ite _ (hf k).2.2.1, fun k => column_ite _ (hf k).2.2.2.1,
    fun k => column_ite _ (hf k).2.2.2.2, opens_selected hkeyed.contactKeys hmem ?_ hopens⟩
  simp +contextual [hid]

/-- A state that an update may write opens no key. -/
theorem opens_of_allowed {current next : ContactKeyState}
    (h : terminalKeyState current = true → current = next) (hnext : terminalKeyState next = false) :
    terminalKeyState current = false := by
  by_contra hne
  have hcurrent : terminalKeyState current = true := Bool.of_not_eq_false hne
  rw [h hcurrent, hnext] at hcurrent
  cases hcurrent

theorem updateContactPublicKey_safe {p : UpdateContactPublicKeyParams} (h : Ledger env n d) :
    Safe (Ledger env) (updateContactPublicKey p) d n := by
  have hkept := ledger_kept env
  refine safe_read_then (q := .contactKey p.ownerAccountID p.publicKeyID) (g := id) hkept h
    fun current now hcurrent => ?_
  have h₁ : Ledger env (n + 1) d := hkept.mono (Nat.le_succ n) h
  refine safe_require_then h₁ fun hallowed => ?_
  refine safe_write_reread (g := id) hkept (.contactKey p.ownerAccountID p.publicKeyID) h₁ fun _ => ?_
  refine hkept.mono (Nat.le_succ _) (ledger_updateContact h₁ (contactEdit_found h.keyed hcurrent
    (fun k => ⟨rfl, rfl, rfl, rfl, rfl⟩) fun hopen => ?_))
  simp only [openContactKey, Bool.not_eq_true'] at hopen ⊢
  exact opens_of_allowed (allowedContactKeyUpdate_terminal hallowed) hopen

variable {now : Int}

/-- An audit entry leaves the keys alone. -/
theorem audit_commits {tick : Tick} {o c i : String} {action : AuditAction}
    {outcome : AuditOutcome} {at' : Time} (h : Ledger env n d) :
    Commits now (fun _ d' n' => Ledger env n' d')
      (createSharingAuditEvent env tick o action outcome c i at') d n := by
  refine commits_require_then fun _ => commits_write_then fun _ => commits_pure ?_
  exact ledger_of_eq h (Nat.le_succ n) rfl rfl rfl

theorem setContactKeyTerminalState_safe {state : ContactKeyState}
    (hstate : terminalKeyState state = true) (h : Ledger env n d) :
    Safe (Ledger env) (setContactKeyTerminalState env o i state) d n := by
  have hkept := ledger_kept env
  have hread {m : Nat} {d : SharingDB} {now : Int} (h : Ledger env m d) :
      Commits now (fun _ d' n' => Ledger env n' d')
        (getContactPublicKeyTx o i >>= fun row => pure row.1) d m :=
    commits_locked_then (q := .contactKey o i) (g := id) fun row _ =>
      commits_pure (hkept.mono (Nat.le_succ m) h)
  refine safe_transaction hkept h fun now => ?_
  refine commits_locked_then (q := .contactKey o i) (g := id) fun current hcurrent => ?_
  have h₁ : Ledger env (n + 1 + 1) d := hkept.mono (by omega) h
  refine commits_require_then fun _ => ?_
  split
  · exact commits_pure h₁
  · refine commits_write_then fun _ => ?_
    have h₂ := ledger_updateContact h₁ (contactEdit_found (f := fun k =>
      { k with keyState := state, updatedAt := now,
               revokedAt := if state = .revoked then some now else none,
               lostAt := if state = .lost then some now else none }) h.keyed hcurrent
      (fun k => ⟨rfl, rfl, rfl, rfl, rfl⟩) (by simp [openContactKey, hstate]))
    refine commits_require_then fun _ => commits_bind ?_
    exact (audit_commits (hkept.mono (Nat.le_succ _) h₂)).mono fun _ d' n' h₃ => hread h₃

/-- The change `markOpenContactKeysReplaced` makes to the keys with the given identifiers. -/
def markReplaced (ids : List String) (replacement : String) (replacedAt : Time)
    (k : ContactPublicKey) : ContactPublicKey :=
  if ids.contains k.id then
    { k with keyState := .replaced, updatedAt := replacedAt, replacedAt := some replacedAt,
             replacedByPublicKeyID := replacement }
  else k

theorem markReplaced_edit {t : List ContactPublicKey} (ids : List String) {replacement : String}
    {replacedAt : Time} : ContactEdit t (markReplaced ids replacement replacedAt) := by
  constructor
  all_goals
    intro k
    unfold markReplaced
    split
  case opens.isTrue => exact fun _ hopen => nomatch hopen
  all_goals first | rfl | exact fun _ hopen => hopen

/-- A new version of a contact key: it is inserted, and the open ones are marked. -/
theorem supersede_commits {β : Type} {Q : β → SharingDB → Nat → Prop}
    {f : Nat × Tick → Nat × Tick → TxM β} (at' : Tick → Time) (h : Ledger env n d)
    (hversion : row.version = (d.contactKeysOf row.ownerAccountID row.contactID).length + 1)
    (hrecipient : ∀ k ∈ d.contactKeysOf row.ownerAccountID row.contactID,
      k.recipientAccountID ≠ "" → row.recipientAccountID = k.recipientAccountID)
    (hdrawn : ∃ kind m, m < 2 * n ∧ row.contactID = env.newID kind m)
    (hf : ∀ r marked d', Ledger env (n + 2) d' → Commits now Q (f r marked) d' (n + 2)) :
    Commits now Q (do
      let r ← statement (.write (.insertContactKey row)) .notFound
      let marked ← statement (.write (.markOpenContactKeysReplaced row.ownerAccountID
        row.contactID row.id (at' r.2)))
      f r marked) d n := by
  refine commits_write_then fun hok => commits_write_then fun _ => hf _ _ _ ?_
  have hfresh := insertContactKey_fresh hok
  have hinsert : Change.apply ⟨.insertContactKey row, (Write.insertContactKey row).rows d⟩ d =
      d.withContactKeys (· ++ [row]) := by
    simp only [Change.apply, SharingDB.withContactKeys, mem_insertRow hfresh]
  rw [hinsert]
  have hnodup : ((d.db.contactKeys ++ [row]).map (·.id)).Nodup :=
    nodup_map_append h.keyed.contactKeys hfresh
  set ids := (Write.markOpenContactKeysReplaced row.ownerAccountID row.contactID row.id
    (at' ⟨n, now⟩)).rows (d.withContactKeys (· ++ [row])) with hids
  have hselected : ∀ k ∈ d.db.contactKeys ++ [row], ids.contains k.id =
      (k.id != row.id && !terminalKeyState k.keyState &&
        (k.ownerAccountID == row.ownerAccountID && k.contactID == row.contactID)) := by
    intro k hk
    rw [hids, Write.rows, SharingDB.contactKeysOf, List.filter_filter]
    exact contains_rows hnodup hk
  have hself : markReplaced ids row.id (at' ⟨n, now⟩) row = row := by
    rw [markReplaced, if_neg]
    rw [hselected row (by simp)]
    simp
  have hclosed : ∀ k ∈ d.contactKeysOf row.ownerAccountID row.contactID,
      openContactKey (markReplaced ids row.id (at' ⟨n, now⟩) k) = false := by
    intro k hk
    have hmem := List.mem_filter.mp hk
    simp only [Bool.and_eq_true, beq_iff_eq] at hmem
    unfold markReplaced
    split
    · rfl
    next hnot =>
      -- a key of this contact that is not marked is closed already
      rw [hselected k (List.mem_append_left _ hmem.1)] at hnot
      simpa [hfresh k hmem.1, hmem.2, openContactKey] using hnot
  exact (ledger_kept env).mono (Nat.le_add_right n 2)
    (ledger_supersedeContact h (markReplaced_edit ids) hself hfresh hversion hclosed hrecipient
      hdrawn)

/-- Where a new key of an owner goes. -/
structure SlotFor (env : Env) (n : Nat) (d : SharingDB) (owner : String) (slot : ContactSlot) :
    Prop where
  version : slot.version = (d.contactKeysOf owner slot.contactID).length + 1
  recipient : ∀ k ∈ d.contactKeysOf owner slot.contactID, k.recipientAccountID ≠ "" →
    slot.recipientAccountID = k.recipientAccountID
  drawn : ∃ kind m, m < 2 * n ∧ slot.contactID = env.newID kind m

theorem recipient_commits {tick : Tick} {o r : String} (htick : tick.serial < n) :
    Commits now (fun t d' n' => d' = d ∧ n ≤ n' ∧ tick.serial ≤ t.serial ∧ t.serial < n')
      (requireContactPublicKeyRecipient tick o r) d n := by
  unfold requireContactPublicKeyRecipient
  split
  · exact commits_pure ⟨rfl, Nat.le_refl n, Nat.le_refl _, htick⟩
  · refine commits_require_then fun _ => commits_select_then ?_
    refine commits_require_then fun _ => commits_pure ⟨rfl, Nat.le_succ n, ?_, Nat.lt_succ_self n⟩
    exact Nat.le_of_lt htick

variable {p : CreateContactPublicKeyParams}

/-- A new contact has no key yet. -/
theorem newContact_commits (h : Ledger env n d) :
    Commits now (fun slot d' n' => d' = d ∧ n ≤ n' ∧ SlotFor env n' d p.ownerAccountID slot ∧
        d.contactKeysOf p.ownerAccountID slot.contactID = [])
      (newContact env p ⟨n, now⟩) d (n + 1) := by
  refine commits_bind ((recipient_commits (Nat.lt_succ_self n)).mono ?_)
  rintro tick d' n' ⟨rfl, hn', hlow, hhigh⟩
  have hnone : d'.contactKeysOf p.ownerAccountID (drawSecondID env "ctc" tick) = [] := by
    refine List.filter_eq_nil_iff.mpr fun k hk hsel => ?_
    simp only [Bool.and_eq_true, beq_iff_eq] at hsel
    obtain ⟨kind, m, hm, hid⟩ := h.drawn k hk
    -- the identifier is drawn now, those of the table were drawn before
    have hm' : m = 2 * tick.serial + 1 := env.newID_inj (hid.symm.trans hsel.2)
    have hlow : n ≤ tick.serial := hlow
    omega
  refine commits_pure ⟨rfl, by omega, ⟨?_, ?_, "ctc", 2 * tick.serial + 1, by omega, rfl⟩, hnone⟩
  · rw [hnone]
    rfl
  · rw [hnone]
    intro k hk
    cases hk

/-- The newest key has the highest version. -/
theorem newest_some {keys : List ContactPublicKey} {k : ContactPublicKey}
    (h : newest keys = some k) : k ∈ keys ∧ ∀ k' ∈ keys, k'.version ≤ k.version := by
  have hall := List.find?_some h
  refine ⟨List.mem_of_find?_eq_some h, fun k' hk' => ?_⟩
  simpa using List.all_eq_true.mp hall k' hk'

/-- A contact that has keys gets the next version, for the recipient account it has. -/
theorem existingContact_commits (h : Ledger env n d) :
    Commits now (fun slot d' n' => d' = d ∧ n ≤ n' ∧ SlotFor env n' d p.ownerAccountID slot ∧
        slot.contactID = p.contactID)
      (existingContact p) d (n + 1) := by
  refine commits_select_then (commits_requireRow_then fun recipient hrecipient => ?_)
  obtain ⟨k, hk, rfl⟩ := Option.map_eq_some_iff.mp hrecipient
  obtain ⟨hmem, hnewest⟩ := newest_some hk
  refine commits_require_then fun hmatch => commits_bind ?_
  refine (recipient_commits (Nat.lt_succ_self (n + 1))).mono ?_
  rintro tick d' n' ⟨rfl, hn', -, -⟩
  refine commits_select_then (commits_require_then fun _ => commits_pure
    ⟨rfl, by omega, ⟨nextVersion_contact h _ _, ?_, ?_⟩, rfl⟩)
  · intro k' hk' hne
    rw [contactKeysOf_eq] at hmem hk'
    obtain ⟨hkt, hkg⟩ := mem_rowsOf.mp hmem
    obtain ⟨hkt', hkg'⟩ := mem_rowsOf.mp hk'
    have hsame : k.recipientAccountID = k'.recipientAccountID :=
      h.inherits k' hkt' k hkt (hkg'.trans hkg.symm)
        (hnewest k' (by rw [contactKeysOf_eq]; exact hk')) hne
    show (if p.recipientAccountID = "" then k.recipientAccountID else p.recipientAccountID) =
      k'.recipientAccountID
    split
    · exact hsame
    next hp =>
      have hk : k.recipientAccountID ≠ "" := by rw [hsame]; exact hne
      rw [← hsame]
      exact (hmatch.resolve_left hp).resolve_left hk
  · have hkt := List.mem_filter.mp hmem
    simp only [Bool.and_eq_true, beq_iff_eq] at hkt
    obtain ⟨kind, m, hm, hid⟩ := h.drawn k hkt.1
    exact ⟨kind, m, by omega, hkt.2.2.symm.trans hid⟩

/-- `INSERT` of the first key of a contact. -/
theorem ledger_firstContact (h : Ledger env n d)
    (hok : (Write.insertContactKey row).violates d = false)
    (hnone : d.contactKeysOf row.ownerAccountID row.contactID = [])
    (hversion : row.version = (d.contactKeysOf row.ownerAccountID row.contactID).length + 1)
    (hdrawn : ∃ kind m, m < 2 * n ∧ row.contactID = env.newID kind m) (rows : List String) :
    Ledger env n (Change.apply ⟨.insertContactKey row, rows⟩ d) := by
  have hfresh := insertContactKey_fresh hok
  have hsame : ContactEdit d.db.contactKeys fun k => k :=
    ⟨fun _ => rfl, fun _ => rfl, fun _ => rfl, fun _ => rfl, fun _ => rfl, fun _ _ hk => hk⟩
  have hinsert := ledger_supersedeContact h hsame rfl hfresh hversion
    (by rw [hnone]; exact fun _ hk => nomatch hk) (by rw [hnone]; exact fun _ hk => nomatch hk) hdrawn
  simp only [List.map_id'] at hinsert
  simpa only [Change.apply, SharingDB.withContactKeys, mem_insertRow hfresh] using hinsert

theorem createContactPublicKey_safe (h : Ledger env n d) :
    Safe (Ledger env) (createContactPublicKey env p) d n := by
  have hkept := ledger_kept env
  refine safe_require_then h fun _ => safe_transaction hkept h fun now => ?_
  refine commits_bind ?_
  unfold contactSlot
  by_cases hnew : p.contactID = ""
  · -- the first key of a new contact
    rw [if_pos hnew]
    refine (newContact_commits h).mono ?_
    rintro slot d' n' ⟨rfl, hn', hslot, hnone⟩
    refine commits_write_then fun hok => ?_
    rw [if_neg (by simpa using hnew)]
    refine commits_bind ((audit_commits ?_).mono fun _ _ _ h₃ => commits_pure h₃)
    exact hkept.mono (Nat.le_succ n') (ledger_firstContact (hkept.mono hn' h) hok hnone hslot.version
      hslot.drawn _)
  · -- a newer key of a contact that has some
    rw [if_neg hnew]
    refine (existingContact_commits h).mono ?_
    rintro slot d' n' ⟨rfl, hn', hslot, -⟩
    simp only [if_pos (show p.contactID ≠ "" from hnew)]
    refine supersede_commits (fun _ => slot.tick.now) (hkept.mono hn' h) hslot.version
      hslot.recipient hslot.drawn fun r marked d₁ h₁ => ?_
    exact commits_bind ((audit_commits h₁).mono fun _ _ _ h₂ => commits_pure h₂)

theorem replaceContactPublicKey_safe {p : ReplaceContactPublicKeyParams} (h : Ledger env n d) :
    Safe (Ledger env) (replaceContactPublicKey env p) d n := by
  have hkept := ledger_kept env
  refine safe_require_then h fun _ => safe_transaction hkept h fun now => ?_
  refine commits_locked_then (q := .contactKey p.ownerAccountID p.publicKeyID) (g := id)
    fun current hcurrent => commits_require_then fun hopen => commits_select_then ?_
  obtain ⟨hmem, howner, -⟩ := contactKey_found hcurrent
  have hgroup : current ∈ rowsOf contactGroup d.db.contactKeys (p.ownerAccountID, current.contactID) :=
    mem_rowsOf.mpr ⟨hmem, by rw [contactGroup, howner]⟩
  -- the key that is replaced is open, so it is the newest one
  have hnewest := (h.contacts _).newest current hgroup (by simpa [openContactKey] using hopen)
  refine supersede_commits (fun t => t.now) (hkept.mono (by omega) h)
    (nextVersion_contact h _ _) ?_ ?_ fun r marked d₁ h₁ => ?_
  · intro k hk hne
    have hk : k ∈ d.contactKeysOf p.ownerAccountID current.contactID := hk
    rw [contactKeysOf_eq] at hk
    obtain ⟨hkt, hkg⟩ := mem_rowsOf.mp hk
    refine h.inherits k hkt current hmem (hkg.trans (mem_rowsOf.mp hgroup).2.symm) ?_ hne
    rw [hnewest]
    exact (h.contacts _).le hk
  · obtain ⟨kind, m, hm, hid⟩ := h.drawn current hmem
    exact ⟨kind, m, by omega, hid⟩
  · refine commits_require_then fun _ => ?_
    exact commits_bind ((audit_commits h₁).mono fun _ _ _ h₂ => commits_pure h₂)

/-! ### Account recipient keys -/

theorem recipientKey_found {k : AccountRecipientKey} (h : Read.run d (.recipientKey o i) = some k) :
    k ∈ d.recipientKeys ∧ k.ownerAccountID = o ∧ k.id = i := by
  obtain ⟨hmem, howner, hid⟩ := find?_and h
  exact ⟨hmem, beq_iff_eq.mp howner, beq_iff_eq.mp hid⟩

/-- The edit of the one key with the given identifier. -/
theorem recipientEdit_found {current : AccountRecipientKey}
    {f : AccountRecipientKey → AccountRecipientKey} (hkeyed : d.Keyed)
    (hcurrent : Read.run d (.recipientKey o i) = some current)
    (hf : ∀ k, (f k).id = k.id ∧ recipientGroup (f k) = recipientGroup k ∧
      (f k).version = k.version)
    (hopens : openRecipientKey (f current) = true → openRecipientKey current = true) :
    RecipientEdit d.recipientKeys fun k =>
      if ((d.recipientKeys.filter fun k => k.ownerAccountID == o && k.id == i).map
        (·.id)).contains k.id then f k else k := by
  obtain ⟨hmem, -, hid⟩ := recipientKey_found hcurrent
  refine ⟨fun k => column_ite _ (hf k).1, fun k => column_ite _ (hf k).2.1,
    fun k => column_ite _ (hf k).2.2, opens_selected hkeyed.recipientKeys hmem ?_ hopens⟩
  simp +contextual [hid]

/-- `INSERT` of the first key of a recipient. -/
theorem ledger_firstRecipient {row : AccountRecipientKey} (h : Ledger env n d)
    (hok : (Write.insertRecipientKey row).violates d = false)
    (hnone : d.recipientKeysOf row.ownerAccountID row.recipientID = []) (hversion : row.version = 1)
    (rows : List String) : Ledger env n (Change.apply ⟨.insertRecipientKey row, rows⟩ d) := by
  have hfresh := insertRecipientKey_fresh hok
  have hsame : RecipientEdit d.recipientKeys fun k => k :=
    ⟨fun _ => rfl, fun _ => rfl, fun _ => rfl, fun _ _ hk => hk⟩
  have hinsert := ledger_supersedeRecipient h hsame rfl hfresh (by rw [hversion, hnone]; rfl)
    (by rw [hnone]; exact fun _ hk => nomatch hk)
  simp only [List.map_id'] at hinsert
  simpa only [Change.apply, mem_insertRow hfresh] using hinsert

theorem createAccountRecipientKey_safe {p : CreateAccountRecipientKeyParams} (h : Ledger env n d) :
    Safe (Ledger env) (createAccountRecipientKey env p) d n := by
  have hkept := ledger_kept env
  refine safe_transaction hkept h fun now => commits_select_then (commits_require_then fun hnone => ?_)
  refine commits_write_then fun hok => commits_pure (hkept.mono (Nat.le_add_right n 3) ?_)
  exact ledger_firstRecipient h hok (List.eq_nil_of_length_eq_zero hnone) rfl _

theorem updateAccountRecipientKey_safe {p : UpdateAccountRecipientKeyParams} (h : Ledger env n d) :
    Safe (Ledger env) (updateAccountRecipientKey p) d n := by
  have hkept := ledger_kept env
  refine safe_read_then (q := .recipientKey p.ownerAccountID p.recipientKeyID) (g := id) hkept h
    fun current now hcurrent => ?_
  have h₁ : Ledger env (n + 1) d := hkept.mono (Nat.le_succ n) h
  refine safe_require_then h₁ fun hallowed => ?_
  refine safe_write_reread (g := id) hkept (.recipientKey p.ownerAccountID p.recipientKeyID) h₁
    fun _ => ?_
  refine hkept.mono (Nat.le_succ _) (ledger_updateRecipient h₁ (recipientEdit_found h.keyed
    hcurrent (fun k => ⟨rfl, rfl, rfl⟩) fun hopen => ?_))
  simp only [openRecipientKey, Bool.not_eq_true'] at hopen ⊢
  exact opens_of_allowed (allowedAccountRecipientKeyUpdate_terminal hallowed) hopen

theorem setAccountRecipientKeyTerminalState_safe {state : AccountRecipientKeyState}
    (hstate : terminalKeyState state = true) (h : Ledger env n d) :
    Safe (Ledger env) (setAccountRecipientKeyTerminalState o i state) d n := by
  have hkept := ledger_kept env
  refine safe_read_then (q := .recipientKey o i) (g := id) hkept h fun current now hcurrent => ?_
  have h₁ : Ledger env (n + 1) d := hkept.mono (Nat.le_succ n) h
  refine safe_require_then h₁ fun _ => ?_
  split
  · exact safe_pure h₁
  · refine safe_write_reread (g := id) hkept (.recipientKey o i) h₁ fun _ => ?_
    exact hkept.mono (Nat.le_succ _) (ledger_updateRecipient h₁ (recipientEdit_found h.keyed
      hcurrent (fun k => ⟨rfl, rfl, rfl⟩) (by simp [openRecipientKey, hstate])))

/-- The change `replaceAccountRecipientKey` makes to the keys with the given identifiers. -/
def markRecipientReplaced (ids : List String) (replacement : String) (replacedAt : Time)
    (k : AccountRecipientKey) : AccountRecipientKey :=
  if ids.contains k.id then
    { k with keyState := .replaced, updatedAt := replacedAt, replacedAt := some replacedAt,
             replacedByRecipientKeyID := replacement }
  else k

theorem markRecipientReplaced_edit {t : List AccountRecipientKey} (ids : List String)
    {replacement : String} {replacedAt : Time} :
    RecipientEdit t (markRecipientReplaced ids replacement replacedAt) := by
  constructor
  all_goals
    intro k
    unfold markRecipientReplaced
    split
  case opens.isTrue => exact fun _ hopen => nomatch hopen
  all_goals first | rfl | exact fun _ hopen => hopen

/-- A new version of a recipient key: it is inserted, and the open one is marked.  The
    statement names that one key, and it was the only open one. -/
theorem ledger_replaceRecipient {row current : AccountRecipientKey} (h : Ledger env n d)
    (hok : (Write.insertRecipientKey row).violates d = false)
    (hcurrent : current ∈ d.recipientKeys) (howner : current.ownerAccountID = row.ownerAccountID)
    (hrecipient : current.recipientID = row.recipientID) (hopen : openRecipientKey current = true)
    (hversion : row.version = (d.recipientKeysOf row.ownerAccountID row.recipientID).length + 1)
    (rows : List String) (now : Time) :
    Ledger env n (Change.apply ⟨.replaceRecipientKey row.ownerAccountID current.id row.id now,
      (Write.replaceRecipientKey row.ownerAccountID current.id row.id now).rows
        (Change.apply ⟨.insertRecipientKey row, rows⟩ d)⟩
      (Change.apply ⟨.insertRecipientKey row, rows⟩ d)) := by
  have hfresh := insertRecipientKey_fresh hok
  have hinsert : Change.apply ⟨.insertRecipientKey row, rows⟩ d =
      { d with recipientKeys := d.recipientKeys ++ [row] } := by
    simp only [Change.apply, mem_insertRow hfresh]
  rw [hinsert]
  have hnodup : ((d.recipientKeys ++ [row]).map (·.id)).Nodup :=
    nodup_map_append h.keyed.recipientKeys hfresh
  set ids := (Write.replaceRecipientKey row.ownerAccountID current.id row.id now).rows
    { d with recipientKeys := d.recipientKeys ++ [row] } with hids
  have hselected : ∀ k ∈ d.recipientKeys ++ [row], ids.contains k.id =
      (k.ownerAccountID == row.ownerAccountID && k.id == current.id) := by
    intro k hk
    exact contains_rows hnodup hk
  have hself : markRecipientReplaced ids row.id now row = row := by
    rw [markRecipientReplaced, if_neg]
    rw [hselected row (by simp)]
    simpa using (hfresh current hcurrent).symm
  have hclosed : ∀ k ∈ d.recipientKeysOf row.ownerAccountID row.recipientID,
      openRecipientKey (markRecipientReplaced ids row.id now k) = false := by
    intro k hk
    have hmem := List.mem_filter.mp hk
    simp only [Bool.and_eq_true, beq_iff_eq] at hmem
    unfold markRecipientReplaced
    split
    · rfl
    next hnot =>
      rw [hselected k (List.mem_append_left _ hmem.1)] at hnot
      by_contra hne
      -- an open key of this recipient is the key the statement names
      have hgroup : current ∈ d.recipientKeysOf row.ownerAccountID row.recipientID :=
        List.mem_filter.mpr ⟨hcurrent, by simp [howner, hrecipient]⟩
      rw [recipientKeysOf_eq] at hk hgroup
      obtain rfl := (h.recipients _).open_unique hk hgroup (by simpa using hne) hopen
      exact hnot (by simp [howner])
  exact ledger_supersedeRecipient h (markRecipientReplaced_edit ids) hself hfresh hversion hclosed

theorem replaceAccountRecipientKey_safe {p : ReplaceAccountRecipientKeyParams}
    (h : Ledger env n d) : Safe (Ledger env) (replaceAccountRecipientKey env p) d n := by
  have hkept := ledger_kept env
  refine safe_transaction hkept h fun now => ?_
  refine commits_locked_then (q := .recipientKey p.ownerAccountID p.recipientKeyID) (g := id)
    fun current hcurrent => commits_require_then fun hopen => commits_select_then ?_
  obtain ⟨hmem, howner, hid⟩ := recipientKey_found hcurrent
  refine commits_write_then fun hok => commits_write_then fun _ => ?_
  refine commits_require_then fun _ => commits_pure (hkept.mono (Nat.le_add_right n 5) ?_)
  rw [← hid]
  exact ledger_replaceRecipient h hok hmem howner rfl (by simpa [openRecipientKey] using hopen)
    (nextVersion_recipient h _ _) _ _

/-! ### Every run -/

/-- The operations on keys, and the management of accounts. -/
def Request.onKeys : Request → Bool
  | .createTrustedContactRelationship .. | .acceptTrustedContactRelationship ..
  | .declineTrustedContactRelationship .. | .revokeTrustedContactRelationship ..
  | .replaceTrustedContactRelationship .. => false
  | _ => true

/-- Step lemma: every operation on keys keeps the ledger. -/
theorem ledger_step {w w' : Exclusive schema} {l : Request × List Sql.Choice}
    (h : Ledger env w.serial w.db) (hl : l.1.onKeys = true) (hstep : atomicStep env w l = some w') :
    Ledger env w'.serial w'.db := by
  obtain ⟨req, choices⟩ := l
  obtain ⟨d, n⟩ := w
  refine atomicStep_safe (I := Ledger env) ?_ hstep
  cases req with
  | createContactPublicKey p => exact safe_returning (createContactPublicKey_safe h)
  | updateContactPublicKey p => exact safe_returning (updateContactPublicKey_safe h)
  | revokeContactPublicKey | markContactPublicKeyLost =>
    exact safe_returning (setContactKeyTerminalState_safe rfl h)
  | replaceContactPublicKey p => exact safe_returning (replaceContactPublicKey_safe h)
  | createAccountRecipientKey p => exact safe_returning (createAccountRecipientKey_safe h)
  | updateAccountRecipientKey p => exact safe_returning (updateAccountRecipientKey_safe h)
  | revokeAccountRecipientKey | markAccountRecipientKeyLost =>
    exact safe_returning (setAccountRecipientKeyTerminalState_safe rfl h)
  | replaceAccountRecipientKey p => exact safe_returning (replaceAccountRecipientKey_safe h)
  | setAccounts new active =>
    have hset : Ledger env (n + 1) (Change.apply ⟨.setAccounts new active, []⟩ d) :=
      ledger_of_eq h (Nat.le_succ n) rfl rfl rfl
    have hsafe : Safe (Ledger env) (execute (.write (.setAccounts new active))) d n := by
      rw [← bind_pure (execute _)]
      exact safe_write_then (ledger_kept env) h (fun _ => hset) fun _ h₁ => safe_pure h₁
    exact safe_returning hsafe
  | createTrustedContactRelationship | acceptTrustedContactRelationship
  | declineTrustedContactRelationship | revokeTrustedContactRelationship
  | replaceTrustedContactRelationship => cases hl

theorem ledger_empty (env : Env) {d : SharingDB} (hcontacts : d.db.contactKeys = [])
    (hrecipients : d.recipientKeys = []) (hrel : (d.relationships.map (·.id)).Nodup) :
    Ledger env 0 d := by
  refine ⟨⟨?_, ?_, hrel⟩, ?_, ?_, ?_, ?_⟩
  all_goals simp [hcontacts, hrecipients, numbered_nil, Inherits]

/-- Two keys of one contact that name a recipient account name the same one. -/
theorem Ledger.recipient_eq (h : Ledger env n d) {o c : String} {k k' : ContactPublicKey}
    (hk : k ∈ d.contactKeysOf o c) (hk' : k' ∈ d.contactKeysOf o c)
    (hne : k.recipientAccountID ≠ "") (hne' : k'.recipientAccountID ≠ "") :
    k.recipientAccountID = k'.recipientAccountID := by
  rw [contactKeysOf_eq] at hk hk'
  obtain ⟨hmem, hg⟩ := mem_rowsOf.mp hk
  obtain ⟨hmem', hg'⟩ := mem_rowsOf.mp hk'
  rcases le_total k.version k'.version with hle | hle
  · exact (h.inherits k hmem k' hmem' (hg.trans hg'.symm) hle hne).symm
  · exact h.inherits k' hmem' k hmem (hg'.trans hg.symm) hle hne'

/-- **Key versions.**  After every sequence of operations on keys that starts without keys,
    each of them executed alone (to its end, or until the process or a statement fails): the
    versions of a contact are `1, …, n`, one key each; a key that is not in a terminal state
    is the one with version `n`; and the keys that name a recipient account name the same
    one.  The account recipient keys of a recipient are numbered the same way. -/
theorem key_versions (env : Env) (d : SharingDB) (hcontacts : d.db.contactKeys = [])
    (hrecipients : d.recipientKeys = []) (hrel : (d.relationships.map (·.id)).Nodup)
    (ls : List (Request × List Sql.Choice)) (hls : ∀ l ∈ ls, l.1.onKeys = true)
    (w : Exclusive schema) (hrun : run (atomicStep env) { db := d } ls = some w) :
    (∀ owner contact, ∃ n : Nat,
      (∀ v : Int, (∃ k ∈ w.db.contactKeysOf owner contact, k.version = v) ↔ 1 ≤ v ∧ v ≤ n) ∧
      ((w.db.contactKeysOf owner contact).map (·.version)).Nodup ∧
      (∀ k ∈ w.db.contactKeysOf owner contact, terminalKeyState k.keyState = false →
        k.version = n ∧ ∀ k' ∈ w.db.contactKeysOf owner contact,
          terminalKeyState k'.keyState = false → k' = k) ∧
      ∀ k ∈ w.db.contactKeysOf owner contact, ∀ k' ∈ w.db.contactKeysOf owner contact,
        k.recipientAccountID ≠ "" → k'.recipientAccountID ≠ "" →
          k.recipientAccountID = k'.recipientAccountID) ∧
    ∀ owner recipient, ∃ n : Nat,
      (∀ v : Int, (∃ k ∈ w.db.recipientKeysOf owner recipient, k.version = v) ↔ 1 ≤ v ∧ v ≤ n) ∧
      ((w.db.recipientKeysOf owner recipient).map (·.version)).Nodup ∧
      ∀ k ∈ w.db.recipientKeysOf owner recipient, terminalKeyState k.keyState = false →
        k.version = n ∧ ∀ k' ∈ w.db.recipientKeysOf owner recipient,
          terminalKeyState k'.keyState = false → k' = k := by
  have hledger : Ledger env w.serial w.db :=
    invariant_run (I := fun w : Exclusive schema => Ledger env w.serial w.db)
      (C := fun _ l => l.1.onKeys = true) (fun _ _ _ h hl hstep => ledger_step h hl hstep)
      (ledger_empty env hcontacts hrecipients hrel)
      (meets_of_labels (fun l hl _ => hls l hl) _) hrun
  constructor
  · intro owner contact
    have hchain := hledger.contacts (owner, contact)
    rw [← contactKeysOf_eq] at hchain
    refine ⟨_, hchain.mem_iff, hchain.nodup, ?_, fun k hk k' hk' => hledger.recipient_eq hk hk'⟩
    intro k hk hopen
    have hopen : openContactKey k = true := by simp [openContactKey, hopen]
    refine ⟨hchain.newest k hk hopen, fun k' hk' hopen' => ?_⟩
    exact hchain.open_unique hk' hk (by simp [openContactKey, hopen']) hopen
  · intro owner recipient
    have hchain := hledger.recipients (owner, recipient)
    rw [← recipientKeysOf_eq] at hchain
    refine ⟨_, hchain.mem_iff, hchain.nodup, ?_⟩
    intro k hk hopen
    have hopen : openRecipientKey k = true := by simp [openRecipientKey, hopen]
    refine ⟨hchain.newest k hk hopen, fun k' hk' hopen' => ?_⟩
    exact hchain.open_unique hk' hk (by simp [openRecipientKey, hopen']) hopen

/-- Two accounts, and nothing shared. -/
def emptySharingDB : SharingDB where
  db := { accounts := ["owner", "friend"] }
  activeAccounts := ["owner", "friend"]

/-- The owner registers a key for a new contact. -/
def register : Request :=
  .createContactPublicKey
    { ownerAccountID := "owner", contactID := "", recipientAccountID := "friend",
      displayLabel := "", wrappingAlgorithm := "x25519", publicKey := "first",
      publicKeyFingerprint := "1", keyState := .active }

/-- The owner replaces that key. -/
def replaceRegistered : Request :=
  .replaceContactPublicKey
    { ownerAccountID := "owner", publicKeyID := sampleEnv.newID "cpk" 2, displayLabel := "",
      wrappingAlgorithm := "x25519", publicKey := "second", publicKeyFingerprint := "2",
      keyState := .active }

/-- A key is registered and replaced: two versions, and the second one is in use. -/
theorem key_versions_replaced :
    ∃ w, run (atomicStep sampleEnv) { db := emptySharingDB }
        [(register, [{}]), (replaceRegistered, [{}])] = some w ∧
      (w.db.contactKeysOf "owner" (sampleEnv.newID "ctc" 3)).map (fun k => (k.version, k.keyState)) =
        [(1, .replaced), (2, .active)] ∧
      ∃ n : Nat, ∀ v : Int,
        (∃ k ∈ w.db.contactKeysOf "owner" (sampleEnv.newID "ctc" 3), k.version = v) ↔ 1 ≤ v ∧ v ≤ n := by
  refine ⟨_, rfl, rfl, ?_⟩
  have hversions := (key_versions sampleEnv emptySharingDB rfl rfl List.nodup_nil
    [(register, [{}]), (replaceRegistered, [{}])] (by decide) _ rfl).1
  obtain ⟨n, hn, -⟩ := hversions "owner" (sampleEnv.newID "ctc" 3)
  exact ⟨n, hn⟩

end SafetyRecorder.Sharing
