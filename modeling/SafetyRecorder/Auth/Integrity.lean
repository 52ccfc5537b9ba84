import SafetyRecorder.Auth.Effects

namespace SafetyRecorder.Auth

open Table

/-!
# Auth — integrity of the account tables

* `Sound` — keys are unique, factors belong to accounts, an account with an active
  factor has completed its setup, and an open challenge of an active e-mail factor was
  sent to the address of that factor;
* `sound_effect` — every transaction keeps it.
-/

/-- The integrity of the account tables. -/
structure Sound (db : AuthDB) : Prop where
  accountIDs : (db.accounts.map (·.id)).Nodup
  sessionIDs : (db.sessions.map (·.id)).Nodup
  emailIDs : (db.emailFactors.map (·.id)).Nodup
  totpIDs : (db.totpFactors.map (·.id)).Nodup
  totpAccounts : (db.totpFactors.map (·.accountID)).Nodup
  emailAccount : ∀ f ∈ db.emailFactors, ∃ a ∈ db.accounts, a.id = f.accountID
  totpAccount : ∀ f ∈ db.totpFactors, ∃ a ∈ db.accounts, a.id = f.accountID
  credentialAccount : ∀ c ∈ db.webAuthnCredentials, ∃ a ∈ db.accounts, a.id = c.accountID
  complete : ∀ a ∈ db.accounts, db.HasActiveFactor a.id → a.secondFactorSetup = .complete
  challengeFactor : ∀ c ∈ db.emailChallenges,
    ∃ f ∈ db.emailFactors, f.id = c.factorID ∧ f.accountID = c.accountID
  openChallenge : ∀ c ∈ db.emailChallenges, c.consumedAt = none → ∀ f ∈ db.emailFactors,
    f.id = c.factorID → f.factorState = .active → f.emailNormalized = c.emailNormalized

/-- Accounts alone are sound: nobody has enrolled or signed in yet. -/
theorem sound_accounts {accounts : List Account} (h : (accounts.map (·.id)).Nodup) :
    Sound { accounts := accounts } where
  accountIDs := h
  sessionIDs := List.nodup_nil
  emailIDs := List.nodup_nil
  totpIDs := List.nodup_nil
  totpAccounts := List.nodup_nil
  emailAccount := by simp
  totpAccount := by simp
  credentialAccount := by simp
  complete := by simp [AuthDB.HasActiveFactor]
  challengeFactor := by simp
  openChallenge := by simp

variable {env : Env} {d : Draw} {db db' : AuthDB} {t : Tx}

/-! ### Keys -/

theorem accountIDs_effect (hdb : (db.accounts.map (·.id)).Nodup) (h : Effect env d db t db') :
    (db'.accounts.map (·.id)).Nodup := by
  cases h with
  | createAccount params account hnew => exact nodup_map_append hdb hnew
  | consumeAccountVerificationToken | updateAccountPassword | consumeEmail | activateTOTP
  | createWebAuthnCredential | reset => exact nodup_map_updateWhere (fun _ => rfl) hdb
  | _ => exact hdb

theorem sessionIDs_effect (hdb : (db.sessions.map (·.id)).Nodup) (h : Effect env d db t db') :
    (db'.sessions.map (·.id)).Nodup := by
  cases h with
  | createSession accountID expiresAt session hid haccount hverified hfresh =>
    exact nodup_map_append hdb fun s hs => (hfresh s hs).1
  | markSession | revokeSession | revokeAccountSessions | reset =>
    exact nodup_map_updateWhere (fun _ => rfl) hdb
  | _ => exact hdb

theorem emailIDs_effect (hdb : (db.emailFactors.map (·.id)).Nodup) (h : Effect env d db t db') :
    (db'.emailFactors.map (·.id)).Nodup := by
  cases h with
  | newEmailFactor accountID email expiresAt factor challenge haccount hfactor hnone =>
    exact nodup_map_append hdb fun f hf => (hnone f hf).2
  | pendingEmailFactor | consumeEmail => exact nodup_map_updateWhere (fun _ => rfl) hdb
  | reset => exact nodup_map_deleteWhere hdb
  | _ => exact hdb

/-- A TOTP factor is known by its identifier and by its account. -/
theorem totpKeys_effect {k : TOTPFactor → String} (hk : k = (·.id) ∨ k = (·.accountID))
    (hdb : (db.totpFactors.map k).Nodup) (h : Effect env d db t db') :
    (db'.totpFactors.map k).Nodup := by
  cases h with
  | newTOTPFactor params factor haccount hid hfactor hnone =>
    refine nodup_map_append hdb fun f hf => ?_
    rcases hk with rfl | rfl
    · exact (hnone f hf).2
    · intro heq
      exact (hnone f hf).1 (heq.trans hfactor.1)
  | pendingTOTPFactor | activateTOTP | useTOTP =>
    refine nodup_map_updateWhere (fun _ => ?_) hdb
    rcases hk with rfl | rfl <;> rfl
  | reset => exact nodup_map_deleteWhere hdb
  | _ => exact hdb

/-! ### The accounts of the factors -/

/-- An e-mail factor after a transaction belongs to an account that was there before. -/
theorem emailAccount_before (hdb : Sound db) (h : Effect env d db t db') {f' : EmailFactor}
    (hf' : f' ∈ db'.emailFactors) : ∃ a ∈ db.accounts, a.id = f'.accountID := by
  cases h with
  | newEmailFactor accountID email expiresAt factor challenge haccount hfactor =>
    rcases mem_append_row.mp hf' with hf | rfl
    · exact hdb.emailAccount f' hf
    · exact hfactor.1 ▸ haccount
  | pendingEmailFactor | consumeEmail =>
    rcases of_mem_updateWhere hf' with ⟨hf, -⟩ | ⟨f, hf, -, rfl⟩
    · exact hdb.emailAccount f' hf
    · exact hdb.emailAccount f hf
  | reset => exact hdb.emailAccount f' (mem_deleteWhere.mp hf').1
  | _ => exact hdb.emailAccount f' hf'

theorem totpAccount_before (hdb : Sound db) (h : Effect env d db t db') {f' : TOTPFactor}
    (hf' : f' ∈ db'.totpFactors) : ∃ a ∈ db.accounts, a.id = f'.accountID := by
  cases totpFactor_origin h hdb.totpIDs hf' with
  | kept hf => exact hdb.totpAccount f' hf
  | new params ht hid hpending haccount => exact haccount
  | refreshed params f hf ht hpending haccount heq => exact heq ▸ hdb.totpAccount f hf
  | activated verifiedAt timeStep f hf ht hpending heq => exact heq ▸ hdb.totpAccount f hf
  | used verifiedAt timeStep f hf ht hactive hlater heq => exact heq ▸ hdb.totpAccount f hf

theorem credentialAccount_before (hdb : Sound db) (h : Effect env d db t db')
    {c' : WebAuthnCredential} (hc' : c' ∈ db'.webAuthnCredentials) :
    ∃ a ∈ db.accounts, a.id = c'.accountID := by
  rcases credential_origin h hc' with ⟨c, hc, -, haccount⟩ | ht
  · exact haccount ▸ hdb.credentialAccount c hc
  · cases h with
    | createWebAuthnCredential accountID rpID authenticator verifiedAt credential haccount =>
      obtain ⟨⟩ := ht
      exact haccount
    | consumeEmail | activateTOTP => exact hdb.credentialAccount c' hc'
    | _ => cases ht

/-! ### Setup -/

variable {accountID : String}

/-- A second factor, by its identifier. -/
inductive FactorKey
  | email (id : String)
  | totp (id : String)
  | webauthn (id : String)
  deriving DecidableEq, Repr

/-- The factor is an active one of the account. -/
def AuthDB.Active (db : AuthDB) (accountID : String) : FactorKey → Prop
  | .email id => ∃ f ∈ db.emailFactors, f.id = id ∧ f.accountID = accountID ∧ f.factorState = .active
  | .totp id => ∃ f ∈ db.totpFactors, f.id = id ∧ f.accountID = accountID ∧ f.factorState = .active
  | .webauthn id => ∃ c ∈ db.webAuthnCredentials, c.id = id ∧ c.accountID = accountID

theorem hasActiveFactor_iff : db.HasActiveFactor accountID ↔ ∃ k, db.Active accountID k := by
  constructor
  · rintro (⟨f, hf, h⟩ | ⟨f, hf, h⟩ | ⟨c, hc, h⟩)
    · exact ⟨.email f.id, f, hf, rfl, h⟩
    · exact ⟨.totp f.id, f, hf, rfl, h⟩
    · exact ⟨.webauthn c.id, c, hc, rfl, h⟩
  · rintro ⟨_ | _ | _, r, hr, -, h⟩
    · exact .inl ⟨r, hr, h⟩
    · exact .inr (.inl ⟨r, hr, h⟩)
    · exact .inr (.inr ⟨r, hr, h⟩)

/-- A factor becomes active only by a transaction that completes the setup. -/
theorem active_origin (hdb : Sound db) (h : Effect env d db t db') {k : FactorKey}
    (hk : db'.Active accountID k) : db.Active accountID k ∨ t.completes = some accountID := by
  cases k with
  | email id =>
    obtain ⟨f, hf, hid, rfl, hactive⟩ := hk
    rcases emailFactor_origin h hf hactive with ⟨f₀, hf₀, hid₀, haccount, hactive₀⟩ | ht
    · exact .inl ⟨f₀, hf₀, hid₀.trans hid, haccount, hactive₀⟩
    · exact .inr ht
  | totp id =>
    obtain ⟨f, hf, hid, rfl, hactive⟩ := hk
    cases totpFactor_origin h hdb.totpIDs hf with
    | kept hf => exact .inl ⟨f, hf, hid, rfl, hactive⟩
    | new params ht hid hpending => rw [hpending] at hactive; cases hactive
    | refreshed params f₀ hf₀ ht hpending haccount heq =>
      rw [heq] at hactive
      cases hpending.symm.trans hactive
    | activated v step f₀ hf₀ ht hpending heq => exact .inr (by rw [ht, heq]; rfl)
    | used v step f₀ hf₀ ht hactive₀ hlater heq =>
      exact .inl ⟨f₀, hf₀, by rw [← hid, heq]; rfl, by rw [heq]; rfl, hactive₀⟩
  | webauthn id =>
    obtain ⟨c, hc, hid, rfl⟩ := hk
    rcases credential_origin h hc with ⟨c₀, hc₀, hid₀, haccount⟩ | ht
    · exact .inl ⟨c₀, hc₀, hid₀.trans hid, haccount⟩
    · exact .inr ht

/-- An active factor was active before, or the transaction completed its account. -/
theorem hasActiveFactor_origin (hdb : Sound db) (h : Effect env d db t db')
    (hactive : db'.HasActiveFactor accountID) :
    db.HasActiveFactor accountID ∨ t.completes = some accountID := by
  obtain ⟨k, hk⟩ := hasActiveFactor_iff.mp hactive
  rcases active_origin hdb h hk with hk | ht
  · exact .inl (hasActiveFactor_iff.mpr ⟨k, hk⟩)
  · exact .inr ht

/-- An account with a factor exists. -/
theorem Sound.account_of_active (hdb : Sound db)
    (h : db.HasActiveFactor accountID) : ∃ a ∈ db.accounts, a.id = accountID := by
  rcases h with ⟨f, hf, rfl, -⟩ | ⟨f, hf, rfl, -⟩ | ⟨c, hc, rfl⟩
  · exact hdb.emailAccount f hf
  · exact hdb.totpAccount f hf
  · exact hdb.credentialAccount c hc

/-- A transaction that resets an account is a recovery reset. -/
theorem not_active_of_resets (h : Effect env d db t db')
    (ht : t.resets = some accountID) : ¬ db'.HasActiveFactor accountID := by
  cases t with
  | resetAccountSecondFactorRecovery a b reason =>
    obtain ⟨⟩ := ht
    exact no_factor_of_reset h
  | _ => cases ht

theorem complete_effect (hdb : Sound db) (h : Effect env d db t db') {a' : Account}
    (ha' : a' ∈ db'.accounts) (hactive : db'.HasActiveFactor a'.id) :
    a'.secondFactorSetup = .complete := by
  rcases hasActiveFactor_origin hdb h hactive with hbefore | hcompletes
  · rcases account_origin h ha' with ⟨a, ha, hid, hsetup | ⟨-, hsetup⟩ | ⟨hresets, -⟩⟩ | hnew
    · rw [hsetup]
      exact hdb.complete a ha (hid ▸ hbefore)
    · exact hsetup
    · exact (not_active_of_resets h hresets hactive).elim
    · obtain ⟨a, ha, hid⟩ := hdb.account_of_active hbefore
      exact (hnew a ha hid).elim
  · exact complete_of_completes h ha' hcompletes

/-! ### Challenges -/

/-- A challenge after one was consumed: a challenge from before, open only if it was
    open and belongs to another factor. -/
theorem mem_consumed {challenge c' : EmailChallenge} {now : Time}
    {t : List EmailChallenge} (h : c' ∈ consumed accountID challenge now t) :
    ∃ c ∈ t, c'.factorID = c.factorID ∧ c'.accountID = c.accountID ∧
      c'.emailNormalized = c.emailNormalized ∧ (c'.consumedAt = none → c.consumedAt = none ∧
        (c.accountID = accountID → c.factorID ≠ challenge.factorID)) := by
  -- a challenge that is still open was selected by neither of the two updates
  rcases of_mem_updateWhere h with ⟨h₁, hsibling⟩ | ⟨c₁, h₁, -, rfl⟩
  · rcases of_mem_updateWhere h₁ with ⟨hc, -⟩ | ⟨c, hc, -, rfl⟩
    · refine ⟨c', hc, rfl, rfl, rfl, fun hopen => ⟨hopen, fun haccount hfactor => ?_⟩⟩
      simp [haccount, hfactor, hopen] at hsibling
    · exact ⟨c, hc, rfl, rfl, rfl, fun hopen => by cases hopen⟩
  · rcases of_mem_updateWhere h₁ with ⟨hc, -⟩ | ⟨c, hc, -, rfl⟩
    · exact ⟨c₁, hc, rfl, rfl, rfl, fun hopen => by cases hopen⟩
    · exact ⟨c, hc, rfl, rfl, rfl, fun hopen => by cases hopen⟩

theorem challengeFactor_effect (hdb : Sound db) (h : Effect env d db t db') {c' : EmailChallenge}
    (hc' : c' ∈ db'.emailChallenges) :
    ∃ f ∈ db'.emailFactors, f.id = c'.factorID ∧ f.accountID = c'.accountID := by
  cases h with
  | newEmailFactor accountID email expiresAt factor challenge haccount hfactor hnone hfor =>
    rcases mem_append_row.mp hc' with hc | rfl
    · obtain ⟨f, hf, hids⟩ := hdb.challengeFactor c' hc
      exact ⟨f, List.mem_append_left _ hf, hids⟩
    · exact ⟨factor, List.mem_append_right _ (List.mem_singleton.mpr rfl), hfor.factorID.symm,
        hfor.accountID.symm⟩
  | pendingEmailFactor accountID email expiresAt factor challenge hfactor haccount hpending hfor =>
    rcases mem_append_row.mp hc' with hc | rfl
    · obtain ⟨f, hf, hids⟩ := hdb.challengeFactor c' hc
      exact exists_updateWhere hf hids hids
    · have hids := And.intro hfor.factorID.symm hfor.accountID.symm
      exact exists_updateWhere hfactor hids hids
  | activeEmailFactor accountID expiresAt factor challenge hfactor haccount hfor =>
    rcases mem_append_row.mp hc' with hc | rfl
    · exact hdb.challengeFactor c' hc
    · exact ⟨factor, hfactor, hfor.factorID.symm, hfor.accountID.symm⟩
  | consumeEmail accountID token now challenge =>
    obtain ⟨c, hc, hfactorID, haccountID, -⟩ := mem_consumed hc'
    obtain ⟨f, hf, hids⟩ := hdb.challengeFactor c hc
    rw [← hfactorID, ← haccountID] at hids
    exact exists_updateWhere hf hids hids
  | reset accountID admin reason event =>
    obtain ⟨hc, hother⟩ := mem_deleteWhere.mp hc'
    obtain ⟨f, hf, hid, haccount⟩ := hdb.challengeFactor c' hc
    exact ⟨f, mem_deleteWhere.mpr ⟨hf, by rw [haccount]; exact hother⟩, hid, haccount⟩
  | _ => exact hdb.challengeFactor c' hc'

theorem openChallenge_effect (hdb : Sound db) (h : Effect env d db t db') {c' : EmailChallenge}
    (hc' : c' ∈ db'.emailChallenges) (hopen : c'.consumedAt = none) {f' : EmailFactor}
    (hf' : f' ∈ db'.emailFactors) (hid : f'.id = c'.factorID) (hactive : f'.factorState = .active) :
    f'.emailNormalized = c'.emailNormalized := by
  cases h with
  | newEmailFactor accountID email expiresAt factor challenge haccount hfactor hnone hfor =>
    rcases mem_append_row.mp hf' with hf | rfl
    · rcases mem_append_row.mp hc' with hc | hc
      · exact hdb.openChallenge c' hc hopen f' hf hid hactive
      · -- the new challenge is for the new factor
        obtain rfl := hc
        exact ((hnone f' hf).2 (hid.trans hfor.factorID)).elim
    · rw [hfactor.2] at hactive
      cases hactive
  | pendingEmailFactor accountID email expiresAt factor challenge hfactor haccount hpending hfor =>
    rcases of_mem_updateWhere hf' with ⟨hf, hne⟩ | ⟨f, hf, -, rfl⟩
    · rcases mem_append_row.mp hc' with hc | rfl
      · exact hdb.openChallenge c' hc hopen f' hf hid hactive
      · rw [hfor.factorID] at hid
        simp [hid] at hne
    · cases hactive
  | activeEmailFactor accountID expiresAt factor challenge hfactor haccount hfor =>
    rcases mem_append_row.mp hc' with hc | rfl
    · exact hdb.openChallenge c' hc hopen f' hf' hid hactive
    · obtain rfl : f' = factor := eq_of_key hdb.emailIDs hf' hfactor (hid.trans hfor.factorID)
      exact hfor.emailNormalized.symm
  | consumeEmail accountID token now challenge hchallenge haccount htoken hopen' =>
    obtain ⟨c, hc, hfactorID, haccountID, hemail, hwas⟩ := mem_consumed hc'
    obtain ⟨hopen, hother⟩ := hwas hopen
    rcases of_mem_updateWhere hf' with ⟨hf, -⟩ | ⟨f, hf, hselected, rfl⟩
    · rw [hemail]
      exact hdb.openChallenge c hc hopen f' hf (hid.trans hfactorID) hactive
    · -- the activated factor has no open challenge left
      simp only [Bool.and_eq_true, beq_iff_eq] at hselected
      obtain ⟨g, hg, hgid, hgaccount⟩ := hdb.challengeFactor c hc
      have hsame : f.id = c.factorID := hid.trans hfactorID
      obtain rfl : f = g := eq_of_key hdb.emailIDs hf hg (hsame.trans hgid.symm)
      exact (hother (hgaccount.symm.trans hselected.2) (hsame.symm.trans hselected.1)).elim
  | reset accountID admin reason event =>
    exact hdb.openChallenge c' (mem_deleteWhere.mp hc').1 hopen f' (mem_deleteWhere.mp hf').1 hid
      hactive
  | _ => exact hdb.openChallenge c' hc' hopen f' hf' hid hactive

/-- **Every transaction keeps the tables sound.** -/
theorem sound_effect (hdb : Sound db) (h : Effect env d db t db') : Sound db' where
  accountIDs := accountIDs_effect hdb.accountIDs h
  sessionIDs := sessionIDs_effect hdb.sessionIDs h
  emailIDs := emailIDs_effect hdb.emailIDs h
  totpIDs := totpKeys_effect (.inl rfl) hdb.totpIDs h
  totpAccounts := totpKeys_effect (.inr rfl) hdb.totpAccounts h
  emailAccount _ hf := account_kept h (emailAccount_before hdb h hf)
  totpAccount _ hf := account_kept h (totpAccount_before hdb h hf)
  credentialAccount _ hc := account_kept h (credentialAccount_before hdb h hc)
  complete _ ha hactive := complete_effect hdb h ha hactive
  challengeFactor _ hc := challengeFactor_effect hdb h hc
  openChallenge _ hc hopen _ hf hid hactive := openChallenge_effect hdb h hc hopen hf hid hactive

end SafetyRecorder.Auth
