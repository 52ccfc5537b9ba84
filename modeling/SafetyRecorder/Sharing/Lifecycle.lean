import SafetyRecorder.Lib.RowLocks
import SafetyRecorder.Sharing.Repository

namespace SafetyRecorder.Sharing

open Table Process Runs

/-!
# Sharing — the lifecycles of keys and relationships

Contact public keys, account recipient keys and relationships end in a terminal state.
This module says which statements check the state of the rows they write, and which write
whatever row they find.

* `SharingDB.Keyed` — the primary keys of the three tables;
* `SharingDB.stage` — the state of a row;
* `Stmt.sets`, `Stmt.shows` — the statements that write a state unchecked, and the reads
  that show one;
* `lifecycle` — all of it as a `Sql.Lifecycle`.
-/

/-- The primary keys of the sharing tables. -/
structure SharingDB.Keyed (d : SharingDB) : Prop where
  contactKeys : (d.db.contactKeys.map (·.id)).Nodup
  recipientKeys : (d.recipientKeys.map (·.id)).Nodup
  relationships : (d.relationships.map (·.id)).Nodup

/-- The state of a key or of a relationship. -/
inductive Stage
  | key (state : ContactKeyState)
  | relationship (state : RelationshipState)
  deriving DecidableEq, Repr

/-- The state is terminal. -/
def Stage.closed : Stage → Bool
  | key s => terminalKeyState s
  | relationship s => terminalRelationshipState s

/-- The state of a row. -/
def SharingDB.stage (d : SharingDB) : Key → Option Stage
  | .contactKey i => columnAt (·.id) (fun k => .key k.keyState) d.db.contactKeys i
  | .recipientKey i => columnAt (·.id) (fun k => .key k.keyState) d.recipientKeys i
  | .relationship i => columnAt (·.id) (fun r => .relationship r.relationshipState) d.relationships i
  | _ => none

/-- The row a statement writes whatever its state is, and the state it writes. -/
def Stmt.sets : Stmt → Option (Key × Stage)
  | .write (.updateContactKey _ i _ state _) => some (.contactKey i, .key state)
  | .write (.setContactKeyState _ i state _ _ _) => some (.contactKey i, .key state)
  | .write (.updateRecipientKey _ i _ state _) => some (.recipientKey i, .key state)
  | .write (.setRecipientKeyState _ i state _ _ _) => some (.recipientKey i, .key state)
  | .write (.replaceRecipientKey _ i _ _) => some (.recipientKey i, .key .replaced)
  | .write (.revokeRelationship _ i _ _) => some (.relationship i, .relationship .revoked)
  | .write (.replaceRelationship _ i _) => some (.relationship i, .relationship .replaced)
  | .write (.linkRelationship _ i _) => some (.relationship i, .relationship .replaced)
  | _ => none

/-- The row a read has found, and its state. -/
def Read.shows : (q : Read) → q.Result → Option (Key × Stage)
  | .contactKey _ i, row => row.map fun k => (.contactKey i, .key k.keyState)
  | .recipientKey _ i, row => row.map fun k => (.recipientKey i, .key k.keyState)
  | .relationshipFor _ i, row => row.map fun r => (.relationship i, .relationship r.relationshipState)
  | .relationship _, row => row.map fun r => (.relationship r.id, .relationship r.relationshipState)
  | _, _ => none

/-- The row a statement has found, and its state. -/
def Stmt.shows : (s : Stmt) → s.Result → Option (Key × Stage)
  | .select q, r => q.shows r
  | .selectForUpdate (.contactKey o i), r => (Read.contactKey o i).shows r
  | .selectForUpdate (.recipientKey o i), r => (Read.recipientKey o i).shows r
  | .selectForUpdate (.relationship i), r => (Read.relationship i).shows r
  | _, _ => none

/-- The statement is a read `FOR UPDATE`. -/
def Stmt.locking : Stmt → Bool
  | .selectForUpdate _ => true
  | _ => false

/-! ### The laws -/

section Laws

variable {d : SharingDB} {k : Key} {p : Stage}

/-- A row found by its key and one more condition is the row with that key. -/
private theorem columnAt_of_find {α β : Type} {key : α → String} {column : α → β} {c : α → Bool}
    {t : List α} {i : String} {r : α} (hnodup : (t.map key).Nodup)
    (hc : ∀ r, c r = true → key r = i) (h : t.find? c = some r) :
    columnAt key column t i = some (column r) := by
  have hkey : key r = i := hc r (List.find?_some h)
  have hcol : columnAt key column t (key r) = some (column r) :=
    columnAt_of_mem hnodup (List.mem_of_find?_eq_some h)
  rwa [hkey] at hcol

theorem keyed_apply {c : Change} (h : d.Keyed) : (c.apply d).Keyed := by
  obtain ⟨w, rows⟩ := c
  obtain ⟨hcontact, hrecipient, hrel⟩ := h
  cases w with
  | insertContactKey row => exact ⟨nodup_insertRow hcontact, hrecipient, hrel⟩
  | insertRecipientKey row => exact ⟨hcontact, nodup_insertRow hrecipient, hrel⟩
  | insertRelationship row => exact ⟨hcontact, hrecipient, nodup_insertRow hrel⟩
  | insertAuditEvent | setAccounts => exact ⟨hcontact, hrecipient, hrel⟩
  | updateContactKey | setContactKeyState | markOpenContactKeysReplaced =>
    refine ⟨?_, hrecipient, hrel⟩
    simp only [Change.apply, SharingDB.withContactKeys]
    rw [map_updateWhere]
    · exact hcontact
    · exact fun _ => rfl
  | updateRecipientKey | setRecipientKeyState | replaceRecipientKey =>
    refine ⟨hcontact, ?_, hrel⟩
    simp only [Change.apply]
    rw [map_updateWhere]
    · exact hrecipient
    · exact fun _ => rfl
  | answerRelationship | revokeRelationship | replaceRelationship | linkRelationship =>
    refine ⟨hcontact, hrecipient, ?_⟩
    simp only [Change.apply]
    rw [map_updateWhere]
    · exact hrel
    · exact fun _ => rfl

/-- The rows a change is not about keep their state. -/
theorem stage_apply {c : Change} (hk : k ∉ c.write.keys c.rows) :
    (c.apply d).stage k = d.stage k := by
  obtain ⟨w, rows⟩ := c
  have hrow {α : Type} {key : α → String} {i : String} (hi : i ∉ rows) :
      ∀ r : α, key r = i → rows.contains (key r) = false := by
    rintro r rfl
    simpa using hi
  cases w with
  | insertAuditEvent | setAccounts => cases k <;> rfl
  | insertContactKey row =>
    cases k with
    | contactKey i => exact columnAt_insertRow (by simpa [Write.keys] using hk)
    | _ => rfl
  | insertRecipientKey row =>
    cases k with
    | recipientKey i => exact columnAt_insertRow (by simpa [Write.keys] using hk)
    | _ => rfl
  | insertRelationship row =>
    cases k with
    | relationship i => exact columnAt_insertRow (by simpa [Write.keys] using hk)
    | _ => rfl
  | updateContactKey | setContactKeyState | markOpenContactKeysReplaced =>
    cases k with
    | contactKey i =>
      exact columnAt_updateWhere_of_not (fun _ => rfl) (hrow (by simpa [Write.keys] using hk))
    | _ => rfl
  | updateRecipientKey | setRecipientKeyState | replaceRecipientKey =>
    cases k with
    | recipientKey i =>
      exact columnAt_updateWhere_of_not (fun _ => rfl) (hrow (by simpa [Write.keys] using hk))
    | _ => rfl
  | answerRelationship | revokeRelationship | replaceRelationship | linkRelationship =>
    cases k with
    | relationship i =>
      exact columnAt_updateWhere_of_not (fun _ => rfl) (hrow (by simpa [Write.keys] using hk))
    | _ => rfl

/-- A row that is found with an open state. -/
private theorem open_of_found {α : Type} {key : α → String} {column : α → Stage} {c : α → Bool}
    {t : List α} {i : String} (hnodup : (t.map key).Nodup)
    (hopen : ∀ r, c r = true → (column r).closed = false) (hi : i ∈ (t.filter c).map key)
    (hp : columnAt key column t i = some p) : p.closed = false := by
  obtain ⟨r, hr, rfl⟩ := List.mem_map.mp hi
  obtain ⟨hmem, hc⟩ := List.mem_filter.mp hr
  rw [columnAt_of_mem hnodup hmem] at hp
  obtain ⟨⟩ := hp
  exact hopen r hc

private theorem new_of_insert {α : Type} {key : α → String} {column : α → Stage} {t : List α}
    {i : String} (hnew : ∀ r ∈ t, key r ≠ i) (hp : columnAt key column t i = some p) : False := by
  obtain ⟨r, hr, hkey, -⟩ := exists_of_columnAt hp
  exact hnew r hr hkey

/-- An identifier that is not taken. -/
theorem insertContactKey_fresh {row : ContactPublicKey}
    (h : (Write.insertContactKey row).violates d = false) :
    ∀ k ∈ d.db.contactKeys, k.id ≠ row.id := by
  simp only [Write.violates, Bool.or_eq_false_iff, List.any_eq_false] at h
  intro k hk heq
  simpa [heq] using h.1.1.1.1.1.1 k hk

theorem insertRecipientKey_fresh {row : AccountRecipientKey}
    (h : (Write.insertRecipientKey row).violates d = false) :
    ∀ k ∈ d.recipientKeys, k.id ≠ row.id := by
  simp only [Write.violates, Bool.or_eq_false_iff, List.any_eq_false] at h
  intro k hk heq
  simpa [heq] using h.1.1.1.1.1.1.1 k hk

theorem insertRelationship_fresh {row : TrustedContactRelationship}
    (h : (Write.insertRelationship row).violates d = false) :
    ∀ r ∈ d.relationships, r.id ≠ row.id := by
  simp only [Write.violates, Bool.or_eq_false_iff] at h
  simpa using h.1.1.1.1.1

/-- The statements that check the state, or insert a new row, write no row in a terminal
    state. -/
theorem open_of_guarded {w : Write} (hd : d.Keyed) (hsets : (Stmt.write w).sets = none)
    (hok : w.violates d = false) (hk : k ∈ w.keys (w.rows d)) (hp : d.stage k = some p) :
    p.closed = false := by
  cases w with
  | insertAuditEvent | setAccounts => cases hk
  | updateContactKey | setContactKeyState | updateRecipientKey | setRecipientKeyState
  | replaceRecipientKey | revokeRelationship | replaceRelationship | linkRelationship => cases hsets
  | insertContactKey row =>
    simp only [Write.keys, List.mem_cons, List.not_mem_nil, or_false] at hk
    rcases hk with rfl | rfl
    · exact (new_of_insert (insertContactKey_fresh hok) hp).elim
    · cases hp
  | insertRecipientKey row =>
    simp only [Write.keys, List.mem_cons, List.not_mem_nil, or_false] at hk
    rcases hk with rfl | rfl | rfl
    · exact (new_of_insert (insertRecipientKey_fresh hok) hp).elim
    · cases hp
    · cases hp
  | insertRelationship row =>
    simp only [Write.keys, List.mem_cons, List.not_mem_nil, or_false] at hk
    rcases hk with rfl | rfl
    · exact (new_of_insert (insertRelationship_fresh hok) hp).elim
    · cases hp
  | markOpenContactKeysReplaced o c replacement replacedAt =>
    obtain ⟨i, hi, rfl⟩ := List.mem_map.mp hk
    simp only [Write.rows, SharingDB.contactKeysOf, List.filter_filter] at hi
    refine open_of_found hd.contactKeys ?_ hi hp
    intro r hr
    simp only [Bool.and_eq_true, Bool.not_eq_true'] at hr
    exact hr.1.2
  | answerRelationship a j state acceptedAt declinedAt now =>
    obtain ⟨i, hi, rfl⟩ := List.mem_map.mp hk
    refine open_of_found hd.relationships ?_ hi hp
    intro r hr
    simp only [Bool.and_eq_true, beq_iff_eq] at hr
    simp [Stage.closed, hr.2, terminalRelationshipState]

/-- The rows an unchecked write is about. -/
theorem keys_of_sets {w : Write} {k' : Key} (hsets : (Stmt.write w).sets = some (k, p))
    (hk : k' ∈ w.keys (w.rows d)) : k' = k := by
  have hfound {α : Type} {owner key : α → String} {t : List α} {o i j : String}
      (hj : j ∈ (t.filter fun r => owner r == o && key r == i).map key) : j = i := by
    obtain ⟨r, hr, rfl⟩ := List.mem_map.mp hj
    simp only [List.mem_filter, Bool.and_eq_true, beq_iff_eq] at hr
    exact hr.2.2
  cases w with
  | insertContactKey | markOpenContactKeysReplaced | insertAuditEvent | insertRecipientKey
  | insertRelationship | answerRelationship | setAccounts => cases hsets
  | updateContactKey | setContactKeyState | updateRecipientKey | setRecipientKeyState
  | replaceRecipientKey | revokeRelationship | replaceRelationship | linkRelationship =>
    obtain ⟨i, hi, rfl⟩ := List.mem_map.mp hk
    cases hsets
    rw [hfound hi]

/-- Writing the state a row has. -/
theorem stage_of_sets {w : Write} (hsets : (Stmt.write w).sets = some (k, p))
    (hp : d.stage k = some p) : (Change.apply ⟨w, w.rows d⟩ d).stage k = some p := by
  cases w with
  | insertContactKey | markOpenContactKeysReplaced | insertAuditEvent | insertRecipientKey
  | insertRelationship | answerRelationship | setAccounts => cases hsets
  | updateContactKey | setContactKeyState | updateRecipientKey | setRecipientKeyState
  | replaceRecipientKey | revokeRelationship | replaceRelationship =>
    cases hsets
    exact columnAt_updateWhere_same (fun _ => rfl) (fun _ _ => rfl) hp
  | linkRelationship =>
    cases hsets
    exact columnAt_updateWhere_same (fun _ => rfl) (fun _ h => h) hp

/-- A read shows the state of the row. -/
theorem stage_of_shows {q : Read} (hd : d.Keyed) (h : q.shows (q.run d) = some (k, p)) :
    d.stage k = some p := by
  cases q with
  | contactRecipient | contactVersion | activeAccount | recipientKeyCount | recipientKeyVersion
  | openRelationship => cases h
  | contactKey o i =>
    obtain ⟨r, hr, hkp⟩ := Option.map_eq_some_iff.mp h
    cases hkp
    refine columnAt_of_find hd.contactKeys ?_ hr
    intro r hc
    simp only [Bool.and_eq_true, beq_iff_eq] at hc
    exact hc.2
  | recipientKey o i =>
    obtain ⟨r, hr, hkp⟩ := Option.map_eq_some_iff.mp h
    cases hkp
    refine columnAt_of_find hd.recipientKeys ?_ hr
    intro r hc
    simp only [Bool.and_eq_true, beq_iff_eq] at hc
    exact hc.2
  | relationshipFor a i =>
    obtain ⟨r, hr, hkp⟩ := Option.map_eq_some_iff.mp h
    cases hkp
    refine columnAt_of_find hd.relationships ?_ hr
    intro r hc
    simp only [Bool.and_eq_true, beq_iff_eq] at hc
    exact hc.1
  | relationship i =>
    obtain ⟨r, hr, hkp⟩ := Option.map_eq_some_iff.mp h
    cases hkp
    exact columnAt_of_mem hd.relationships (List.mem_of_find?_eq_some hr)

end Laws

/-- The lifecycles of keys and relationships. -/
def lifecycle : Sql.Lifecycle schema where
  Stage := Stage
  Inv := SharingDB.Keyed
  look := SharingDB.stage
  closed := Stage.closed
  sets := Stmt.sets
  shows := Stmt.shows
  locking := Stmt.locking
  inv_apply h := keyed_apply h
  look_apply h := stage_apply h
  guarded {db s r c k p} hd hsets hr hc hk hp := by
    cases s with
    | select | selectForUpdate => cases hc
    | write w =>
      obtain rfl := List.mem_singleton.mp hc
      refine open_of_guarded hd hsets ?_ hk hp
      by_contra hv
      have hv : w.violates db = true := by simpa using hv
      simp [Stmt.answer, hv] at hr
  sets_touches {db s c k p k'} hsets hc hk := by
    cases s with
    | select | selectForUpdate => cases hc
    | write w =>
      obtain rfl := List.mem_singleton.mp hc
      exact keys_of_sets hsets hk
  sets_same {db s k p} _ hsets hp := by
    cases s with
    | select | selectForUpdate => cases hsets
    | write w => exact stage_of_sets hsets hp
  shows_look {db s r k p} hd hr hshows := by
    cases s with
    | write w => cases hshows
    | select q =>
      obtain ⟨⟩ := hr
      exact stage_of_shows hd hshows
    | selectForUpdate q =>
      obtain ⟨⟩ := hr
      cases q with
      | contactKey o i => exact stage_of_shows (q := .contactKey o i) hd hshows
      | recipientKey o i => exact stage_of_shows (q := .recipientKey o i) hd hshows
      | relationship i => exact stage_of_shows (q := .relationship i) hd hshows
      | _ => cases hshows
  shows_locks {db s r k p} _ hr hshows hlock := by
    cases s with
    | write w => cases hshows
    | select q => cases hlock
    | selectForUpdate q =>
      obtain ⟨⟩ := hr
      cases q with
      | contactKey | recipientKey =>
        obtain ⟨row, hrow, hkp⟩ := Option.map_eq_some_iff.mp hshows
        cases hkp
        have hsel := List.find?_some hrow
        refine List.mem_map.mpr ⟨row, List.mem_filter.mpr ⟨List.mem_of_find?_eq_some hrow, hsel⟩, ?_⟩
        simp only [Bool.and_eq_true, beq_iff_eq] at hsel
        rw [hsel.2]
      | relationship i =>
        obtain ⟨row, hrow, hkp⟩ := Option.map_eq_some_iff.mp hshows
        cases hkp
        have hfind : db.relationships.find? (fun r => r.id == i) = some row := hrow
        have hsel := List.find?_some hfind
        exact List.mem_map.mpr
          ⟨row, List.mem_filter.mpr ⟨List.mem_of_find?_eq_some hfind, hsel⟩, rfl⟩
      | _ => cases hshows
  shows_changes {db s r k p} hshows := by
    cases s with
    | write w => cases hshows
    | select | selectForUpdate => rfl

end SafetyRecorder.Sharing
