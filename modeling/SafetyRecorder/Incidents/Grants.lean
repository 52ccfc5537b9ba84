import SafetyRecorder.Incidents.Consistency

namespace SafetyRecorder

open Table Checked

/-!
# Incidents — sharing grants and wrapped keys

What the write transactions do to the tables that carry a share: apart from the calls that
create a grant or a wrapped key, rows only age.  A grant or a wrapped key keeps everything
that ties it to the other tables, and a revoked one is never made active again.

* `SharingGrant.Ages`, `WrappedKeyRecord.Ages` — how a row may change;
* `GrantsEffect`, `grantsEffect_of_run` — **inversion**: the rows age, or one row is new;
* `GrantRows`, `grantRows_effect` — identifiers are unique and never drawn again, and a
  wrapped key belongs to the stream its grant is restricted to.
-/

/-- What a transaction leaves of a grant. -/
structure SharingGrant.Ages (g g' : SharingGrant) : Prop where
  id : g'.id = g.id
  streamID : g'.streamID = g.streamID
  recipientType : g'.recipientType = g.recipientType
  revoked : g.grantState = .revoked → g'.grantState = .revoked

/-- What a transaction leaves of a wrapped key. -/
structure WrappedKeyRecord.Ages (w w' : WrappedKeyRecord) : Prop where
  id : w'.id = w.id
  grantID : w'.grantID = w.grantID
  streamID : w'.streamID = w.streamID
  recipientType : w'.recipientType = w.recipientType
  contactPublicKeyID : w'.contactPublicKeyID = w.contactPublicKeyID
  revoked : w.wrappedKeyState ≠ .active → w'.wrappedKeyState ≠ .active

theorem SharingGrant.ages_refl (g : SharingGrant) : g.Ages g := ⟨rfl, rfl, rfl, fun h => h⟩

theorem WrappedKeyRecord.ages_refl (w : WrappedKeyRecord) : w.Ages w :=
  ⟨rfl, rfl, rfl, rfl, rfl, fun h => h⟩

/-- The grants table ages. -/
abbrev GrantsAge (db db' : DB) : Prop := Aged (·.id) SharingGrant.Ages db.grants db'.grants

/-- The wrapped-key table ages. -/
abbrev WrappedKeysAge (db db' : DB) : Prop :=
  Aged (·.id) WrappedKeyRecord.Ages db.wrappedKeys db'.wrappedKeys

/-- What a successful call can do to the tables of a share. -/
inductive GrantsEffect (env : Env) (d : Draw) (db db' : DB) : Prop
  | aged (contactKeys : db'.contactKeys = db.contactKeys) (grants : GrantsAge db db')
      (wrappedKeys : WrappedKeysAge db db')
  | granted (g : SharingGrant) (id : g.id = env.newID "sgr" d.next)
      (recipientType : g.recipientType = "trusted_contact")
      (contactKeys : db'.contactKeys = db.contactKeys) (grants : db'.grants = db.grants ++ [g])
      (wrappedKeys : db'.wrappedKeys = db.wrappedKeys)
  /-- A new wrapped key belongs to a grant, and to the stream of the grant if that has
      one. -/
  | wrapped (w : WrappedKeyRecord) (id : w.id = env.newID "wkey" d.next) (g : SharingGrant)
      (mem : g ∈ db.grants) (grantID : w.grantID = g.id)
      (scope : g.streamID = "" ∨ g.streamID = w.streamID)
      (recipientType : w.recipientType = g.recipientType)
      (contactKeys : db'.contactKeys = db.contactKeys) (grants : db'.grants = db.grants)
      (wrappedKeys : db'.wrappedKeys = db.wrappedKeys ++ [w])

variable {env : Env} {d : Draw} {db db' : DB}

/-- A call that leaves the three tables alone. -/
theorem GrantsEffect.of_eq (hkeys : db'.contactKeys = db.contactKeys)
    (hgrants : db'.grants = db.grants) (hwrapped : db'.wrappedKeys = db.wrappedKeys) :
    GrantsEffect env d db db' := by
  refine .aged hkeys ?_ ?_
  · rw [GrantsAge, hgrants]
    exact aged_refl SharingGrant.ages_refl
  · rw [WrappedKeysAge, hwrapped]
    exact aged_refl WrappedKeyRecord.ages_refl

private theorem GrantsEffect.of_same {t : Tx} (h : Effect env d t db db' ∧ SameShares db db') :
    GrantsEffect env d db db' :=
  .of_eq h.2.1 h.2.2.1 h.2.2.2

private theorem createSharingGrant_grants {p : CreateSharingGrantParams} {r : SharingGrant}
    (h : createSharingGrant env d p db = .ok (r, db')) : GrantsEffect env d db db' := by
  simp only [createSharingGrant, bind_ok, ensure_ok, pure_ok, Prod.mk.injEq] at h
  obtain ⟨-, -, -, -, key, -, -, htype, db₁, hdb, -, rfl⟩ := h
  obtain rfl := createSharingAuditEvent_ok hdb
  exact .granted _ rfl htype rfl rfl rfl

/-- **Inversion of `revokeSharingGrant`.** -/
theorem revokeSharingGrant_ok {o g b : String} {r : SharingGrant}
    (h : revokeSharingGrant env d o g b db = .ok (r, db')) :
    (∃ grant ∈ db.grants, grant.id = g ∧ grant.ownerAccountID = o ∧ grant.revokedAt = none) ∧
      db'.contactKeys = db.contactKeys ∧ db'.wrappedKeys = db.wrappedKeys ∧
      db'.grants = updateWhere
        (fun x => x.ownerAccountID == o && x.id == g && x.revokedAt.isNone)
        (fun x => { x with
          grantState := .revoked
          updatedAt := d.now
          revokedAt := some d.now
          revokedByAccountID := b }) db.grants := by
  simp only [revokeSharingGrant, bind_ok, found_ok, pure_ok, Prod.mk.injEq] at h
  obtain ⟨grant, hgrant, db₁, hdb, -, rfl⟩ := h
  obtain rfl := createSharingAuditEvent_ok hdb
  have hsel := List.find?_some hgrant
  simp only [Bool.and_eq_true, beq_iff_eq, Option.isNone_iff_eq_none] at hsel
  exact ⟨⟨grant, List.mem_of_find?_eq_some hgrant, hsel.1.2, hsel.1.1, hsel.2⟩, rfl, rfl, rfl⟩

private theorem revokeSharingGrant_grants {o g b : String} {r : SharingGrant}
    (h : revokeSharingGrant env d o g b db = .ok (r, db')) : GrantsEffect env d db db' := by
  obtain ⟨-, hkeys, hwrapped, hgrants⟩ := revokeSharingGrant_ok h
  refine .aged hkeys ?_ ?_
  · rw [GrantsAge, hgrants]
    exact aged_updateWhere SharingGrant.ages_refl (fun _ => rfl)
      fun _ => ⟨rfl, rfl, rfl, fun _ => rfl⟩
  · rw [WrappedKeysAge, hwrapped]
    exact aged_refl WrappedKeyRecord.ages_refl

variable {r : WrappedKeyRecord}

private theorem createWrappedKeyRecord_grants {p : CreateWrappedKeyRecordParams}
    (h : createWrappedKeyRecord env d p db = .ok (r, db')) :
    GrantsEffect env d db db' := by
  simp only [createWrappedKeyRecord, activeGrantForWrappedKey, bind_ok, ensure_ok, found_ok, pure_ok,
    Prod.mk.injEq] at h
  obtain ⟨-, -, -, -, grant, ⟨grant', hfound, -, -, rfl⟩, -, -, -, hscope, -, -, db₁, hdb, -, rfl⟩ := h
  obtain rfl := createSharingAuditEvent_ok hdb
  exact .wrapped _ rfl grant' (List.mem_of_find?_eq_some hfound) rfl hscope rfl rfl rfl rfl

/-- **Inversion of `revokeWrappedKeyRecord`.** -/
theorem revokeWrappedKeyRecord_ok {o w b : String}
    (h : revokeWrappedKeyRecord env d o w b db = .ok (r, db')) :
    (∃ record ∈ db.wrappedKeys, record.id = w ∧ record.ownerAccountID = o) ∧
      db'.contactKeys = db.contactKeys ∧ db'.grants = db.grants ∧
      db'.wrappedKeys = updateWhere
        (fun x => x.ownerAccountID == o && x.id == w && x.wrappedKeyState == .active)
        (fun x => { x with
          wrappedKeyState := .revoked
          updatedAt := d.now
          revokedAt := some d.now
          revokedByAccountID := b }) db.wrappedKeys := by
  simp only [revokeWrappedKeyRecord, bind_ok, found_ok, pure_ok, Prod.mk.injEq] at h
  obtain ⟨record, hrecord, db₁, hdb, -, rfl⟩ := h
  obtain rfl := createSharingAuditEvent_ok hdb
  have hsel := List.find?_some hrecord
  simp only [Bool.and_eq_true, beq_iff_eq] at hsel
  exact ⟨⟨record, List.mem_of_find?_eq_some hrecord, hsel.1.2, hsel.1.1⟩, rfl, rfl, rfl⟩

private theorem revokeWrappedKeyRecord_grants {o w b : String}
    (h : revokeWrappedKeyRecord env d o w b db = .ok (r, db')) : GrantsEffect env d db db' := by
  obtain ⟨-, hkeys, hgrants, hwrapped⟩ := revokeWrappedKeyRecord_ok h
  refine .aged hkeys ?_ ?_
  · rw [GrantsAge, hgrants]
    exact aged_refl SharingGrant.ages_refl
  · rw [WrappedKeysAge, hwrapped]
    exact aged_updateWhere WrappedKeyRecord.ages_refl (fun _ => rfl)
      fun _ => ⟨rfl, rfl, rfl, rfl, rfl, fun _ => nofun⟩

/-- Rows are deleted from both tables. -/
private theorem GrantsEffect.of_delete {p : SharingGrant → Bool} {q : WrappedKeyRecord → Bool}
    (hkeys : db'.contactKeys = db.contactKeys) (hgrants : db'.grants = deleteWhere p db.grants)
    (hwrapped : db'.wrappedKeys = deleteWhere q db.wrappedKeys) : GrantsEffect env d db db' := by
  refine .aged hkeys ?_ ?_
  · rw [GrantsAge, hgrants]
    exact aged_deleteWhere SharingGrant.ages_refl
  · rw [WrappedKeysAge, hwrapped]
    exact aged_deleteWhere WrappedKeyRecord.ages_refl

/-- The writers of the account and contact-key tables. -/
def Tx.isOther : Tx → Bool
  | .other .. => true
  | _ => false

/-- **Inversion.** In the tables of a share rows age, or one row is new. -/
theorem grantsEffect_of_run {t : Tx} {r : t.Result} (ht : t.isOther = false)
    (h : t.run env d db = .ok (r, db')) : GrantsEffect env d db db' := by
  cases t with
  | createIncidentForAccount a p =>
    obtain ⟨-, -, rfl⟩ := createIncidentForAccount_ok h
    exact .of_eq rfl rfl rfl
  | closeIncident i => exact .of_same (closeIncident_effect h)
  | reassignLegacyUnownedIncident i o => exact .of_same (reassign_effect h)
  | createMediaStream i m l =>
    obtain ⟨-, -, rfl⟩ := createMediaStream_ok h
    exact .of_eq rfl rfl rfl
  | completeMediaStream i s n =>
    obtain ⟨-, -, rfl, -⟩ := completeMediaStream_ok h
    exact .of_eq rfl rfl rfl
  | failMediaStream i s reason =>
    obtain ⟨-, rfl⟩ := failMediaStream_ok h
    exact .of_eq rfl rfl rfl
  | createChunk p =>
    obtain ⟨-, rfl, -⟩ := createChunk_ok h
    exact .of_eq rfl rfl rfl
  | createCheckin i b n => exact .of_same (createCheckin_effect h)
  | createIncidentToken i hash l e => exact .of_same (createIncidentToken_effect h)
  | revokeIncidentToken i => exact .of_same (revokeIncidentToken_effect h)
  | reserveUploadOperation p => exact .of_same (reserveUploadOperation_effect h)
  | completeUploadOperation p c => exact .of_same (completeUploadOperation_effect h)
  | createSharingGrant p => exact createSharingGrant_grants h
  | revokeSharingGrant o g b => exact revokeSharingGrant_grants h
  | createWrappedKeyRecord p => exact createWrappedKeyRecord_grants h
  | revokeWrappedKeyRecord o w b => exact revokeWrappedKeyRecord_grants h
  | requestIncidentDeletion p =>
    obtain ⟨rfl, -⟩ | ⟨-, -, -, rfl⟩ := requestIncidentDeletion_ok h
    · exact .of_eq rfl rfl rfl
    · exact .of_eq rfl rfl rfl
  | markIncidentDeletionDeleting i s =>
    obtain ⟨dec, -, -, -, -, rfl⟩ := markIncidentDeletionDeleting_ok h
    exact .of_eq rfl rfl rfl
  | markIncidentDeletionItemDeleted | markIncidentDeletionItemFailed =>
    obtain ⟨-, rfl⟩ := markItem_ok h
    exact .of_eq rfl rfl rfl
  | completeIncidentDeletion i =>
    obtain ⟨dec, -, -, -, -, inc, -, -, rfl⟩ := completeIncidentDeletion_ok h
    exact .of_delete rfl rfl rfl
  | failIncidentDeletion i c =>
    obtain ⟨dec, -, -, -, rfl⟩ := failIncidentDeletion_ok h
    exact .of_eq rfl rfl rfl
  | pruneIncidentTokenMetadata c l =>
    obtain rfl : (pruneIncidentTokenMetadata env c l db).2 = db' :=
      congrArg Prod.snd (Except.ok.inj h)
    exact .of_eq rfl rfl rfl
  | pruneIncidentDeletionTombstones c l =>
    obtain rfl : (pruneIncidentDeletionTombstones env c l db).2 = db' :=
      congrArg Prod.snd (Except.ok.inj h)
    exact .of_delete rfl rfl rfl
  | other a k e => cases ht

/-! ### Where the rows come from -/

namespace GrantsEffect

theorem contactKeys_eq (he : GrantsEffect env d db db') : db'.contactKeys = db.contactKeys := by
  cases he with
  | aged hkeys => exact hkeys
  | granted _ _ _ hkeys => exact hkeys
  | wrapped _ _ _ _ _ _ _ hkeys => exact hkeys

/-- A grant was there, or is new. -/
theorem grant_origin (he : GrantsEffect env d db db') {g' : SharingGrant} (hg' : g' ∈ db'.grants) :
    (∃ g ∈ db.grants, g.Ages g') ∨
      g'.id = env.newID "sgr" d.next ∧ g'.recipientType = "trusted_contact" := by
  cases he with
  | aged _ hgrants => exact .inl (hgrants.rows g' hg')
  | granted g hid htype _ hgrants =>
    rw [hgrants] at hg'
    rcases mem_append_row.mp hg' with hold | rfl
    · exact .inl ⟨g', hold, g'.ages_refl⟩
    · exact .inr ⟨hid, htype⟩
  | wrapped _ _ _ _ _ _ _ _ hgrants => exact .inl ⟨g', hgrants ▸ hg', g'.ages_refl⟩

/-- A wrapped key was there, or is new and belongs to a grant. -/
theorem wrapped_origin (he : GrantsEffect env d db db') {w' : WrappedKeyRecord}
    (hw' : w' ∈ db'.wrappedKeys) :
    (∃ w ∈ db.wrappedKeys, w.Ages w') ∨
      w'.id = env.newID "wkey" d.next ∧ db'.grants = db.grants ∧
        ∃ g ∈ db.grants, w'.grantID = g.id ∧ (g.streamID = "" ∨ g.streamID = w'.streamID) ∧
          w'.recipientType = g.recipientType := by
  cases he with
  | aged _ _ hwrapped => exact .inl (hwrapped.rows w' hw')
  | granted _ _ _ _ _ hwrapped => exact .inl ⟨w', hwrapped ▸ hw', w'.ages_refl⟩
  | wrapped w hid g hg hgrantID hscope htype _ hgrants hwrapped =>
    rw [hwrapped] at hw'
    rcases mem_append_row.mp hw' with hold | rfl
    · exact .inl ⟨w', hold, w'.ages_refl⟩
    · exact .inr ⟨hid, hgrants, g, hg, hgrantID, hscope, htype⟩

end GrantsEffect

/-! ### The invariant of the two tables -/

/-- What holds of grants and wrapped keys after `n` draws. -/
structure GrantRows (env : Env) (n : Nat) (db : DB) : Prop where
  grantIDs : (db.grants.map (·.id)).Nodup
  wrappedIDs : (db.wrappedKeys.map (·.id)).Nodup
  issuedGrants : ∀ g ∈ db.grants, Issued env n g.id
  issuedWrapped : ∀ w ∈ db.wrappedKeys, Issued env n w.id ∧ Issued env n w.grantID
  scope : ∀ w ∈ db.wrappedKeys, ∀ g ∈ db.grants, g.id = w.grantID →
    g.streamID = "" ∨ g.streamID = w.streamID
  grantType : ∀ g ∈ db.grants, g.recipientType = "trusted_contact"
  wrappedType : ∀ w ∈ db.wrappedKeys, w.recipientType = "trusted_contact"

variable {n n' : Nat}

theorem grantRows_empty (env : Env) (accounts : List String) :
    GrantRows env 0 { accounts := accounts } := by
  constructor <;> simp

theorem GrantRows.mono (h : GrantRows env n db) (hn : n ≤ n') : GrantRows env n' db :=
  { h with
    issuedGrants := fun g hg => (h.issuedGrants g hg).mono hn
    issuedWrapped := fun w hw =>
      ⟨(h.issuedWrapped w hw).1.mono hn, (h.issuedWrapped w hw).2.mono hn⟩ }

/-- Every successful call keeps the invariant. -/
theorem grantRows_effect (h : GrantRows env d.next db) (he : GrantsEffect env d db db')
    (hn : d.next < n') : GrantRows env n' db' := by
  have hold := h.mono hn.le
  constructor
  case grantIDs =>
    cases he with
    | aged _ hgrants => exact h.grantIDs.sublist hgrants.keys
    | granted g hid _ _ hgrants =>
      rw [hgrants]
      exact nodup_map_append h.grantIDs fun g' hg' =>
        hid ▸ (h.issuedGrants g' hg').ne_newID (Nat.le_refl _)
    | wrapped _ _ _ _ _ _ _ _ hgrants => exact hgrants ▸ h.grantIDs
  case wrappedIDs =>
    cases he with
    | aged _ _ hwrapped => exact h.wrappedIDs.sublist hwrapped.keys
    | granted _ _ _ _ _ hwrapped => exact hwrapped ▸ h.wrappedIDs
    | wrapped w hid _ _ _ _ _ _ _ hwrapped =>
      rw [hwrapped]
      exact nodup_map_append h.wrappedIDs fun w' hw' =>
        hid ▸ (h.issuedWrapped w' hw').1.ne_newID (Nat.le_refl _)
  case issuedGrants =>
    intro g' hg'
    rcases he.grant_origin hg' with ⟨g, hg, hage⟩ | ⟨hid, -⟩
    · rw [hage.id]
      exact hold.issuedGrants g hg
    · exact ⟨"sgr", d.next, hn, hid⟩
  case issuedWrapped =>
    intro w' hw'
    rcases he.wrapped_origin hw' with ⟨w, hw, hage⟩ | ⟨hid, -, g, hg, hgrantID, -⟩
    · rw [hage.id, hage.grantID]
      exact hold.issuedWrapped w hw
    · exact ⟨⟨"wkey", d.next, hn, hid⟩, hgrantID ▸ hold.issuedGrants g hg⟩
  case scope =>
    intro w' hw' g' hg' heq
    rcases he.wrapped_origin hw' with ⟨w, hw, hwage⟩ | ⟨-, hsame, g, hg, hgrantID, hscope, -⟩
    · rw [hwage.grantID] at heq
      rw [hwage.streamID]
      rcases he.grant_origin hg' with ⟨g, hg, hgage⟩ | ⟨hid, -⟩
      · rw [hgage.streamID]
        exact h.scope w hw g hg (hgage.id ▸ heq)
      · -- a new grant has an identifier that no wrapped key names
        exact absurd (heq.symm.trans hid) ((h.issuedWrapped w hw).2.ne_newID (Nat.le_refl _))
    · -- the one grant with its grant identifier is the one it was made for
      obtain rfl := eq_of_key h.grantIDs (hsame ▸ hg') hg (heq.trans hgrantID)
      exact hscope
  case grantType =>
    intro g' hg'
    rcases he.grant_origin hg' with ⟨g, hg, hage⟩ | ⟨-, htype⟩
    · rw [hage.recipientType]
      exact h.grantType g hg
    · exact htype
  case wrappedType =>
    intro w' hw'
    rcases he.wrapped_origin hw' with ⟨w, hw, hage⟩ | ⟨-, -, g, hg, -, -, htype⟩
    · rw [hage.recipientType]
      exact h.wrappedType w hw
    · rw [htype]
      exact h.grantType g hg

end SafetyRecorder
