import Mathlib.Data.List.DropRight
import SafetyRecorder.Lib.ServeMux

namespace SafetyRecorder

open ServeMux

/-!
# HTTP API — the routes of the main listener, and the routes open before verification

`internal/httpapi/routes.go` and the two route tests of `auth_middleware.go`.

* `mainRoutes` — the route table, in the order of registration;
* `secondFactorSetupAllowedRoute`, `secondFactorVerificationAllowedRoute` — the tests
  the middleware makes on the method and the escaped path of a request;
* `allowed_of_dispatch` — **the two readings of a path agree**: whatever the
  encoding, a request that passes one of these tests is dispatched to no guarded
  route but one that the test lists.
-/

/-- The handlers of the main listener. -/
inductive Endpoint
  | login | registerAccount | verifyAccountEmail | logout | webLogin | webLogout | webCSRF
  | getCurrentAccount | changeOwnPassword | requestEmailSecondFactorChallenge
  | verifyEmailSecondFactorChallenge | startTOTPSecondFactorEnrollment
  | confirmTOTPSecondFactorEnrollment | verifyTOTPSecondFactorChallenge
  | startWebAuthnRegistration | finishWebAuthnRegistration | startWebAuthnVerification
  | finishWebAuthnVerification | createContactPublicKey | listContactPublicKeys
  | getContactPublicKey | updateContactPublicKey | revokeContactPublicKey
  | markContactPublicKeyLost | replaceContactPublicKey | createAccountRecipientKey
  | listAccountRecipientKeys | getAccountRecipientKey | updateAccountRecipientKey
  | revokeAccountRecipientKey | markAccountRecipientKeyLost | replaceAccountRecipientKey
  | createTrustedContactRelationship | listTrustedContactRelationships
  | getTrustedContactRelationship | acceptTrustedContactRelationship
  | declineTrustedContactRelationship | revokeTrustedContactRelationship
  | replaceTrustedContactRelationship | listTrustedContactWrappedKeyRecords
  | getTrustedContactWrappedKeyRecord | createIncident | listAccountIncidents | getIncident
  | getIncidentDeletion | requestIncidentDeletion | createSharingGrant | listSharingGrants
  | createWrappedKeyRecord | listWrappedKeyRecords | reconcileChunk | uploadChunk | listChunks
  | getChunkBytes | downloadPrivateIncidentBundle | createCheckin | closeIncident
  | createMediaStream | listMediaStreams | getMediaStream | createRelaySession
  | completeMediaStream | failMediaStream | downloadPrivateStreamBundle | relayPreflight
  | relayCommit | relayFanoutAuthorize | listIncidentTokens | createIncidentToken
  | getIncidentTokenMetadata | revokeIncidentToken | getSharingGrant | revokeSharingGrant
  | getWrappedKeyRecord | revokeWrappedKeyRecord | incidentViewerPage | incidentViewData
  | webClientViewerPayload | downloadIncidentViewerStreamBundle
  | downloadIncidentViewerIncidentBundle | incidentViewerStaticHandler | notFound
  deriving DecidableEq, Repr

/-- The pieces of the registered paths: words, `{name}` and the trailing slash of a
    subtree. -/
inductive Piece
  | v1 | auth | login | register | email | verify | logout | web | csrf | account | password
  | secondFactor | challenge | totp | enroll | confirm | webauthn | start | finish
  | contactPublicKeys | revoke | lost | replace | accountRecipientKeys
  | trustedContactRelationships | accept | decline | trustedContact | incidents | wrappedKeys
  | deletion | sharingGrants | chunks | reconcile | download | checkins | close | streams
  | relaySession | complete | fail | relay | preflight | commit | fanoutAuthorize
  | incidentTokens | i | data | viewerPayload | incident | e | static | param | subtree
  deriving DecidableEq, Repr

/-- A piece as it is written. -/
def Piece.text : Piece → String
  | .v1 => "v1"
  | .auth => "auth"
  | .login => "login"
  | .register => "register"
  | .email => "email"
  | .verify => "verify"
  | .logout => "logout"
  | .web => "web"
  | .csrf => "csrf"
  | .account => "account"
  | .password => "password"
  | .secondFactor => "second-factor"
  | .challenge => "challenge"
  | .totp => "totp"
  | .enroll => "enroll"
  | .confirm => "confirm"
  | .webauthn => "webauthn"
  | .start => "start"
  | .finish => "finish"
  | .contactPublicKeys => "contact-public-keys"
  | .revoke => "revoke"
  | .lost => "lost"
  | .replace => "replace"
  | .accountRecipientKeys => "account-recipient-keys"
  | .trustedContactRelationships => "trusted-contact-relationships"
  | .accept => "accept"
  | .decline => "decline"
  | .trustedContact => "trusted-contact"
  | .incidents => "incidents"
  | .wrappedKeys => "wrapped-keys"
  | .deletion => "deletion"
  | .sharingGrants => "sharing-grants"
  | .chunks => "chunks"
  | .reconcile => "reconcile"
  | .download => "download"
  | .checkins => "checkins"
  | .close => "close"
  | .streams => "streams"
  | .relaySession => "relay-session"
  | .complete => "complete"
  | .fail => "fail"
  | .relay => "relay"
  | .preflight => "preflight"
  | .commit => "commit"
  | .fanoutAuthorize => "fanout-authorize"
  | .incidentTokens => "incident-tokens"
  | .i => "i"
  | .data => "data"
  | .viewerPayload => "viewer-payload"
  | .incident => "incident"
  | .e => "e"
  | .static => "static"
  | .param => "{}"
  | .subtree => ""

/-- The segment of a pattern for a piece. -/
def Piece.seg : Piece → Seg
  | .param => .wild
  | .subtree => .multi
  | w => .literal w.text.toList

/-- A registered handler with its route; `guarded` is `withPrivateAuth`. -/
structure Route where
  method : String
  pieces : List Piece
  guarded : Bool
  endpoint : Endpoint
  deriving DecidableEq, Repr

/-- The path of a route. -/
def Route.path (r : Route) : List Char := '/' :: ['/'].intercalate (r.pieces.map (·.text.toList))

/-- The pattern of a route. -/
def Route.pattern (r : Route) : Pattern Route := ⟨some r.method, r.pieces.map Piece.seg, r⟩

/-- `mux.HandleFunc("METHOD /path", a.handler)`. -/
def handleFunc (method : String) (pieces : List Piece) (endpoint : Endpoint) : Route :=
  ⟨method, pieces, false, endpoint⟩

/-- `mux.HandleFunc("METHOD /path", a.withPrivateAuth(a.handler))`. -/
def handlePrivate (method : String) (pieces : List Piece) (endpoint : Endpoint) : Route :=
  ⟨method, pieces, true, endpoint⟩

/-- `registerMainAuthRoutes`. -/
def registerMainAuthRoutes : List Route :=
  [handleFunc "POST" [.v1, .auth, .login] .login,
   handleFunc "POST" [.v1, .auth, .register] .registerAccount,
   handleFunc "POST" [.v1, .auth, .email, .verify] .verifyAccountEmail,
   handlePrivate "POST" [.v1, .auth, .logout] .logout,
   handleFunc "POST" [.v1, .auth, .web, .login] .webLogin,
   handleFunc "POST" [.v1, .auth, .web, .logout] .webLogout,
   handlePrivate "GET" [.v1, .auth, .web, .csrf] .webCSRF,
   handlePrivate "GET" [.v1, .account] .getCurrentAccount,
   handlePrivate "POST" [.v1, .account, .password] .changeOwnPassword,
   handlePrivate "POST" [.v1, .account, .secondFactor, .email, .challenge]
      .requestEmailSecondFactorChallenge,
   handlePrivate "POST" [.v1, .account, .secondFactor, .email, .verify]
      .verifyEmailSecondFactorChallenge,
   handlePrivate "POST" [.v1, .account, .secondFactor, .totp, .enroll]
      .startTOTPSecondFactorEnrollment,
   handlePrivate "POST" [.v1, .account, .secondFactor, .totp, .confirm]
      .confirmTOTPSecondFactorEnrollment,
   handlePrivate "POST" [.v1, .account, .secondFactor, .totp, .verify]
      .verifyTOTPSecondFactorChallenge,
   handlePrivate "POST" [.v1, .account, .secondFactor, .webauthn, .register, .start]
      .startWebAuthnRegistration,
   handlePrivate "POST" [.v1, .account, .secondFactor, .webauthn, .register, .finish]
      .finishWebAuthnRegistration,
   handlePrivate "POST" [.v1, .account, .secondFactor, .webauthn, .verify, .start]
      .startWebAuthnVerification,
   handlePrivate "POST" [.v1, .account, .secondFactor, .webauthn, .verify, .finish]
      .finishWebAuthnVerification]

/-- `registerMainContactRoutes`. -/
def registerMainContactRoutes : List Route :=
  [handlePrivate "POST" [.v1, .contactPublicKeys] .createContactPublicKey,
   handlePrivate "GET" [.v1, .contactPublicKeys] .listContactPublicKeys,
   handlePrivate "GET" [.v1, .contactPublicKeys, .param] .getContactPublicKey,
   handlePrivate "PATCH" [.v1, .contactPublicKeys, .param] .updateContactPublicKey,
   handlePrivate "POST" [.v1, .contactPublicKeys, .param, .revoke] .revokeContactPublicKey,
   handlePrivate "POST" [.v1, .contactPublicKeys, .param, .lost] .markContactPublicKeyLost,
   handlePrivate "POST" [.v1, .contactPublicKeys, .param, .replace] .replaceContactPublicKey]

/-- `registerMainAccountRecipientKeyRoutes`. -/
def registerMainAccountRecipientKeyRoutes : List Route :=
  [handlePrivate "POST" [.v1, .accountRecipientKeys] .createAccountRecipientKey,
   handlePrivate "GET" [.v1, .accountRecipientKeys] .listAccountRecipientKeys,
   handlePrivate "GET" [.v1, .accountRecipientKeys, .param] .getAccountRecipientKey,
   handlePrivate "PATCH" [.v1, .accountRecipientKeys, .param] .updateAccountRecipientKey,
   handlePrivate "POST" [.v1, .accountRecipientKeys, .param, .revoke] .revokeAccountRecipientKey,
   handlePrivate "POST" [.v1, .accountRecipientKeys, .param, .lost] .markAccountRecipientKeyLost,
   handlePrivate "POST" [.v1, .accountRecipientKeys, .param, .replace]
      .replaceAccountRecipientKey]

/-- `registerMainTrustedContactRelationshipRoutes`. -/
def registerMainTrustedContactRelationshipRoutes : List Route :=
  [handlePrivate "POST" [.v1, .trustedContactRelationships] .createTrustedContactRelationship,
   handlePrivate "GET" [.v1, .trustedContactRelationships] .listTrustedContactRelationships,
   handlePrivate "GET" [.v1, .trustedContactRelationships, .param] .getTrustedContactRelationship,
   handlePrivate "POST" [.v1, .trustedContactRelationships, .param, .accept]
      .acceptTrustedContactRelationship,
   handlePrivate "POST" [.v1, .trustedContactRelationships, .param, .decline]
      .declineTrustedContactRelationship,
   handlePrivate "POST" [.v1, .trustedContactRelationships, .param, .revoke]
      .revokeTrustedContactRelationship,
   handlePrivate "POST" [.v1, .trustedContactRelationships, .param, .replace]
      .replaceTrustedContactRelationship]

/-- `registerMainTrustedContactDeliveryRoutes`. -/
def registerMainTrustedContactDeliveryRoutes : List Route :=
  [handlePrivate "GET" [.v1, .trustedContact, .incidents, .param, .wrappedKeys]
      .listTrustedContactWrappedKeyRecords,
   handlePrivate "GET" [.v1, .trustedContact, .wrappedKeys, .param]
      .getTrustedContactWrappedKeyRecord]

/-- `registerMainIncidentRoutes`. -/
def registerMainIncidentRoutes : List Route :=
  [handlePrivate "POST" [.v1, .incidents] .createIncident,
   handlePrivate "GET" [.v1, .incidents] .listAccountIncidents,
   handlePrivate "GET" [.v1, .incidents, .param] .getIncident,
   handlePrivate "GET" [.v1, .incidents, .param, .deletion] .getIncidentDeletion,
   handlePrivate "POST" [.v1, .incidents, .param, .deletion] .requestIncidentDeletion,
   handlePrivate "POST" [.v1, .incidents, .param, .sharingGrants] .createSharingGrant,
   handlePrivate "GET" [.v1, .incidents, .param, .sharingGrants] .listSharingGrants,
   handlePrivate "POST" [.v1, .incidents, .param, .wrappedKeys] .createWrappedKeyRecord,
   handlePrivate "GET" [.v1, .incidents, .param, .wrappedKeys] .listWrappedKeyRecords,
   handlePrivate "POST" [.v1, .incidents, .param, .chunks, .reconcile] .reconcileChunk,
   handlePrivate "POST" [.v1, .incidents, .param, .chunks] .uploadChunk,
   handlePrivate "GET" [.v1, .incidents, .param, .chunks] .listChunks,
   handlePrivate "GET" [.v1, .incidents, .param, .chunks, .param, .param] .getChunkBytes,
   handlePrivate "GET" [.v1, .incidents, .param, .download] .downloadPrivateIncidentBundle,
   handlePrivate "POST" [.v1, .incidents, .param, .checkins] .createCheckin,
   handlePrivate "POST" [.v1, .incidents, .param, .close] .closeIncident]

/-- `registerMainStreamRoutes`. -/
def registerMainStreamRoutes : List Route :=
  [handlePrivate "POST" [.v1, .incidents, .param, .streams] .createMediaStream,
   handlePrivate "GET" [.v1, .incidents, .param, .streams] .listMediaStreams,
   handlePrivate "GET" [.v1, .incidents, .param, .streams, .param] .getMediaStream,
   handlePrivate "POST" [.v1, .incidents, .param, .streams, .param, .relaySession]
      .createRelaySession,
   handlePrivate "POST" [.v1, .incidents, .param, .streams, .param, .complete]
      .completeMediaStream,
   handlePrivate "POST" [.v1, .incidents, .param, .streams, .param, .fail] .failMediaStream,
   handlePrivate "GET" [.v1, .incidents, .param, .streams, .param, .download]
      .downloadPrivateStreamBundle]

/-- `registerMainRelayRoutes`. -/
def registerMainRelayRoutes : List Route :=
  [handleFunc "POST" [.v1, .relay, .preflight] .relayPreflight,
   handleFunc "POST" [.v1, .relay, .commit] .relayCommit,
   handleFunc "POST" [.v1, .relay, .fanoutAuthorize] .relayFanoutAuthorize]

/-- `registerMainIncidentTokenRoutes`. -/
def registerMainIncidentTokenRoutes : List Route :=
  [handlePrivate "GET" [.v1, .incidents, .param, .incidentTokens] .listIncidentTokens,
   handlePrivate "POST" [.v1, .incidents, .param, .incidentTokens] .createIncidentToken,
   handlePrivate "GET" [.v1, .incidents, .param, .incidentTokens, .param]
      .getIncidentTokenMetadata,
   handlePrivate "POST" [.v1, .incidentTokens, .param, .revoke] .revokeIncidentToken]

/-- `registerMainSharingGrantRoutes`. -/
def registerMainSharingGrantRoutes : List Route :=
  [handlePrivate "GET" [.v1, .sharingGrants, .param] .getSharingGrant,
   handlePrivate "POST" [.v1, .sharingGrants, .param, .revoke] .revokeSharingGrant]

/-- `registerMainWrappedKeyRoutes`. -/
def registerMainWrappedKeyRoutes : List Route :=
  [handlePrivate "GET" [.v1, .wrappedKeys, .param] .getWrappedKeyRecord,
   handlePrivate "POST" [.v1, .wrappedKeys, .param, .revoke] .revokeWrappedKeyRecord]

/-- `registerPublicIncidentViewerRoutes`. -/
def registerPublicIncidentViewerRoutes : List Route :=
  [handleFunc "GET" [.i, .param] .incidentViewerPage,
   handleFunc "GET" [.i, .param, .data] .incidentViewData,
   handleFunc "GET" [.i, .param, .viewerPayload] .webClientViewerPayload,
   handleFunc "GET" [.i, .param, .streams, .param, .download] .downloadIncidentViewerStreamBundle,
   handleFunc "GET" [.i, .param, .incident, .download] .downloadIncidentViewerIncidentBundle,
   handleFunc "GET" [.e, .param] .incidentViewerPage,
   handleFunc "GET" [.e, .param, .data] .incidentViewData,
   handleFunc "GET" [.e, .param, .streams, .param, .download] .downloadIncidentViewerStreamBundle,
   handleFunc "GET" [.e, .param, .incident, .download] .downloadIncidentViewerIncidentBundle,
   handleFunc "GET" [.static, .subtree] .incidentViewerStaticHandler]

/-- The routes of `mainRoutes` with a method. -/
def mainTable : List Route :=
  registerMainAuthRoutes ++ registerMainContactRoutes ++ registerMainAccountRecipientKeyRoutes ++
  registerMainTrustedContactRelationshipRoutes ++ registerMainTrustedContactDeliveryRoutes ++
  registerMainIncidentRoutes ++ registerMainStreamRoutes ++ registerMainRelayRoutes ++
  registerMainIncidentTokenRoutes ++ registerMainSharingGrantRoutes ++
  registerMainWrappedKeyRoutes ++ registerPublicIncidentViewerRoutes

/-- `mainRoutes`; the last pattern takes every other path. -/
def mainRoutes : List (Pattern Route) :=
  mainTable.map Route.pattern ++ [⟨none, [.multi], ⟨"", [.subtree], false, .notFound⟩⟩]

/-! ### The routes open before verification -/

/-- `strings.Trim(s, "/")`. -/
def trimSlashes (s : List Char) : List Char :=
  (s.dropWhile (· == '/')).rdropWhile (· == '/')

/-- The common beginning of the second-factor routes. -/
def secondFactorRoutes : List Char := "v1/account/second-factor".toList

/-- The routes an account that still has to set up a second factor may use besides
    `secondFactorRoutes`. -/
def setupRoutes : List (String × List Char) :=
  [("GET", "v1/account".toList),
   ("POST", "v1/auth/logout".toList),
   ("GET", "v1/auth/web/csrf".toList)]

/-- `secondFactorSetupAllowedRoute`. -/
def secondFactorSetupAllowedRoute (method : String) (escapedPath : List Char) : Bool :=
  let path := trimSlashes escapedPath
  secondFactorRoutes.isPrefixOf path || setupRoutes.contains (method, path)

/-- The routes an unverified session of an account with a second factor may use. -/
def verificationRoutes : List (String × List Char) :=
  [("GET", "v1/account".toList),
   ("POST", "v1/auth/logout".toList),
   ("GET", "v1/auth/web/csrf".toList),
   ("POST", "v1/account/second-factor/email/challenge".toList),
   ("POST", "v1/account/second-factor/email/verify".toList),
   ("POST", "v1/account/second-factor/totp/verify".toList),
   ("POST", "v1/account/second-factor/webauthn/verify/start".toList),
   ("POST", "v1/account/second-factor/webauthn/verify/finish".toList)]

/-- `secondFactorVerificationAllowedRoute`. -/
def secondFactorVerificationAllowedRoute (method : String) (escapedPath : List Char) : Bool :=
  verificationRoutes.contains (method, trimSlashes escapedPath)

/-- The route is listed in `secondFactorSetupAllowedRoute`. -/
def Route.setupListed (r : Route) : Bool := secondFactorSetupAllowedRoute r.method r.path

/-- The route is listed in `secondFactorVerificationAllowedRoute`. -/
def Route.verificationListed (r : Route) : Bool :=
  secondFactorVerificationAllowedRoute r.method r.path

/-! ### Guarded routes -/

/-- No piece is written as a slash. -/
theorem Piece.seg_ne_slash (w : Piece) : w.seg ≠ .literal ['/'] := by
  cases w <;> decide

variable {w : Piece}

/-- Only the piece `account` is written so. -/
theorem Piece.account_of_seg (h : w.seg = .literal "account".toList) : w = .account := by
  revert h
  cases w <;> decide

/-- Only the piece `second-factor` begins so. -/
theorem Piece.secondFactor_of_seg {s : List Char}
    (h : w.seg = .literal ("second-factor".toList ++ s)) : w = .secondFactor := by
  have hshape : ∀ w : Piece, w.seg = .wild ∨ w.seg = .multi ∨ w = .secondFactor ∨
      ∃ t, w.seg = .literal t ∧ "second-factor".toList.isPrefixOf t = false := by
    intro w
    cases w <;> first | exact .inl rfl | exact .inr (.inl rfl) | exact .inr (.inr (.inl rfl)) |
      exact .inr (.inr (.inr ⟨_, rfl, by decide⟩))
  rcases hshape w with hw | hw | hw | ⟨t, hw, ht⟩
  · rw [hw] at h
    cases h
  · rw [hw] at h
    cases h
  · exact hw
  · rw [hw] at h
    cases h
    simp at ht

theorem Piece.param_of_seg (h : w.seg = .wild) : w = .param := by
  revert h
  cases w <;> decide

theorem Piece.subtree_of_seg (h : w.seg = .multi) : w = .subtree := by
  revert h
  cases w <;> decide

/-- The routes admit `GET`, `POST` and `PATCH`, and no subtree is guarded. -/
theorem table_methods : mainTable.all (fun r => ["GET", "POST", "PATCH"].contains r.method &&
    (!r.guarded || !r.pieces.contains .subtree)) = true := by
  decide +kernel

/-- Below `/v1/account`, a guarded route goes on with a word, and every one that goes on
    with `second-factor` is listed. -/
def accountRoutesListed (r : Route) : Bool :=
  match r.pieces with
  | _ :: p :: q :: _ =>
    p != .param && (p != .account || (q != .param && (q != .secondFactor || r.setupListed)))
  | _ => true

theorem guarded_account :
    mainTable.all (fun r => !r.guarded || accountRoutesListed r) = true := by
  decide +kernel

/-- The listed routes are dispatched to themselves. -/
theorem lookup_setupRoutes :
    setupRoutes.all (fun r => (lookup mainRoutes r.1 ('/' :: r.2)).all
      (·.handler.setupListed)) = true := by
  decide +kernel

theorem lookup_verificationRoutes :
    verificationRoutes.all (fun r => (lookup mainRoutes r.1 ('/' :: r.2)).all
      (·.handler.verificationListed)) = true := by
  decide +kernel

variable {P : Pattern Route} {method : String} {path : List Char}

/-- A pattern with a method is that of a route of the table, and admits the method of
    the request. -/
theorem lookup_route (hlookup : lookup mainRoutes method path = some P) (hown : P.method ≠ none) :
    P.handler ∈ mainTable ∧ P = P.handler.pattern ∧
      PathMatches (segments path) (P.handler.pieces.map Piece.seg) ∧
      (P.handler.method = method ∨ method = "HEAD" ∧ P.handler.method = "GET") := by
  obtain ⟨hmem, hmatch, hmethod⟩ := lookup_some hlookup
  obtain ⟨r, hr, rfl⟩ : ∃ r ∈ mainTable, P = r.pattern := by
    rcases List.mem_append.mp hmem with hmem | hlast
    · obtain ⟨r, hr, rfl⟩ := List.mem_map.mp hmem
      exact ⟨r, hr, rfl⟩
    · rw [List.mem_singleton.mp hlast] at hown
      exact (hown rfl).elim
  refine ⟨hr, rfl, hmatch, ?_⟩
  rcases hmethod with h | ⟨hhead, h⟩ | h
  · exact .inl (Option.some.inj h)
  · exact .inr ⟨hhead, Option.some.inj h⟩
  · exact (hown h).elim

theorem not_connect {r : Route} (hr : r ∈ mainTable)
    (hmethod : r.method = method ∨ method = "HEAD" ∧ r.method = "GET") : method ≠ "CONNECT" := by
  have hadmits := List.all_eq_true.mp table_methods r hr
  rw [Bool.and_eq_true] at hadmits
  rintro rfl
  rcases hmethod with h | ⟨h, -⟩
  · rw [h] at hadmits
    exact absurd hadmits.1 (by decide)
  · exact absurd h (by decide)

/-- A route without a subtree has as many pieces as the path has segments. -/
theorem exact_of_matches {r : Route}
    (hmatch : PathMatches (segments path) (r.pieces.map Piece.seg)) (hsubtree : .subtree ∉ r.pieces) :
    List.Forall₂ SegMatches (segments path) (r.pieces.map Piece.seg) := by
  refine hmatch.exact fun hmulti => ?_
  obtain ⟨w, hw, hseg⟩ := List.mem_map.mp hmulti
  rw [Piece.subtree_of_seg hseg] at hw
  exact hsubtree hw

/-- A guarded handler is found through its own pattern, whose segments match those of
    the path one by one. -/
theorem lookup_guarded (hlookup : lookup mainRoutes method path = some P)
    (hguarded : P.handler.guarded = true) :
    P.handler ∈ mainTable ∧ List.Forall₂ SegMatches (segments path) (P.handler.pieces.map Piece.seg) ∧
      method ≠ "CONNECT" := by
  have hown : P.method ≠ none := by
    obtain ⟨hmem, -⟩ := lookup_some hlookup
    rcases List.mem_append.mp hmem with hmem | hlast
    · obtain ⟨r, -, rfl⟩ := List.mem_map.mp hmem
      exact Option.some_ne_none _
    · rw [List.mem_singleton.mp hlast] at hguarded
      cases hguarded
  obtain ⟨hr, -, hmatch, hmethod⟩ := lookup_route hlookup hown
  have hplain := List.all_eq_true.mp table_methods _ hr
  rw [hguarded, Bool.not_true, Bool.false_or, Bool.and_eq_true, Bool.not_eq_true'] at hplain
  refine ⟨hr, exact_of_matches hmatch fun hmem => ?_, not_connect hr hmethod⟩
  rw [List.contains_iff_mem.mpr hmem] at hplain
  exact absurd hplain.2 (by decide)

/-- A clean path whose segments match pieces one by one is a slash and the trimmed path. -/
theorem eq_trimSlashes_of_exact (hclean : cleanPath path = path) {pieces : List Piece}
    (hexact : List.Forall₂ SegMatches (segments path) (pieces.map Piece.seg)) :
    path = '/' :: trimSlashes path := by
  -- the path does not end in a slash, which no piece of the route would match
  have hlast : ∀ q, path ≠ q ++ ['/'] := by
    rintro q rfl
    obtain ⟨w, -, hw⟩ := List.mem_map.mp (PathMatches.not_trailing hexact)
    exact w.seg_ne_slash hw
  rcases cleanPath_head hclean with rfl | ⟨c, q, rfl, hc⟩
  · exact (hlast [] rfl).elim
  · have hdrop : List.dropWhile (· == '/') ('/' :: c :: q) = c :: q := by
      rw [List.dropWhile_cons_of_pos (by decide), List.dropWhile_cons_of_neg (by simpa using hc)]
    rw [trimSlashes, hdrop, List.rdropWhile_eq_self_iff.mpr]
    intro hne hlastSlash
    obtain ⟨init, hinit⟩ := List.getLast?_eq_some_iff.mp (List.getLast?_eq_some_getLast hne)
    refine hlast ('/' :: init) ?_
    rw [beq_iff_eq] at hlastSlash
    rw [hlastSlash] at hinit
    rw [hinit, List.cons_append]

/-- A path that is dispatched to a guarded route is a slash and the trimmed path. -/
theorem eq_trimSlashes (hdispatch : dispatch mainRoutes method path = .handler P)
    (hguarded : P.handler.guarded = true) : path = '/' :: trimSlashes path := by
  obtain ⟨hclean, hlookup⟩ := dispatch_handler hdispatch
  obtain ⟨-, hexact, hconnect⟩ := lookup_guarded hlookup hguarded
  exact eq_trimSlashes_of_exact (hclean.resolve_left hconnect) hexact

/-- The segments of a path that begins like the second-factor routes. -/
theorem segments_secondFactor (rest : List Char) :
    ∃ s tail, segments ('/' :: (secondFactorRoutes ++ rest)) =
      "v1".toList :: "account".toList :: ("second-factor".toList ++ s) :: tail := by
  have hcut : secondFactorRoutes ++ rest =
      "v1".toList ++ '/' :: ("account".toList ++ '/' :: ("second-factor".toList ++ rest)) := rfl
  obtain ⟨s, tail, hs⟩ := segments_prefix (a := "second-factor".toList) (by decide) (by decide)
    (by decide) rest
  refine ⟨s, tail, ?_⟩
  rw [hcut, segments_cons (by decide) (by decide), segments_cons (by decide) (by decide), hs]

/-- A guarded route that such a path matches is listed. -/
theorem setupListed_of_segments {r : Route} (hr : r ∈ mainTable) (hguarded : r.guarded = true)
    {a s : List Char} {tail : List (List Char)}
    (hmatch : List.Forall₂ SegMatches (a :: "account".toList :: ("second-factor".toList ++ s) :: tail)
      (r.pieces.map Piece.seg)) : r.setupListed = true := by
  have hlisted := List.all_eq_true.mp guarded_account r hr
  rw [hguarded, Bool.not_true, Bool.false_or, accountRoutesListed] at hlisted
  obtain ⟨p₀, ps, -, htail, hp⟩ := List.forall₂_cons_left_iff.mp hmatch
  obtain ⟨p₁, qs, haccount, htail', rfl⟩ := List.forall₂_cons_left_iff.mp htail
  obtain ⟨p₂, rs, hsecond, -, rfl⟩ := List.forall₂_cons_left_iff.mp htail'
  obtain ⟨w₀, ws, hpieces, -, hws⟩ := List.map_eq_cons_iff.mp hp
  obtain ⟨w₁, ws', rfl, hw₁, hws'⟩ := List.map_eq_cons_iff.mp hws
  obtain ⟨w₂, ws'', rfl, hw₂, -⟩ := List.map_eq_cons_iff.mp hws'
  simp only [hpieces, Bool.and_eq_true, bne_iff_ne, ne_eq] at hlisted
  obtain ⟨hparam, hbelow⟩ := hlisted
  generalize haw : "account".toList = accountText at haccount
  generalize hsw : "second-factor".toList ++ s = secondText at hsecond
  cases haccount with
  | wild => exact (hparam (Piece.param_of_seg hw₁)).elim
  | literal =>
    subst haw
    obtain rfl := Piece.account_of_seg hw₁
    rw [bne_self_eq_false, Bool.false_or, Bool.and_eq_true, bne_iff_ne] at hbelow
    obtain ⟨hparam, hbelow⟩ := hbelow
    cases hsecond with
    | wild => exact (hparam (Piece.param_of_seg hw₂)).elim
    | literal =>
      subst hsw
      obtain rfl := Piece.secondFactor_of_seg hw₂
      rwa [bne_self_eq_false, Bool.false_or] at hbelow

/-- **The gate and the dispatch agree** on the routes open before second-factor setup
    and before verification. -/
theorem allowed_of_dispatch (hdispatch : dispatch mainRoutes method path = .handler P)
    (hguarded : P.handler.guarded = true) :
    (secondFactorSetupAllowedRoute method path = true → P.handler.setupListed = true) ∧
    (secondFactorVerificationAllowedRoute method path = true →
      P.handler.verificationListed = true) := by
  have hpath := eq_trimSlashes hdispatch hguarded
  obtain ⟨-, hlookup⟩ := dispatch_handler hdispatch
  -- a path that is listed as it stands
  have hlisted : ∀ (routes : List (String × List Char)) (listed : Pattern Route → Bool),
      routes.all (fun r => (lookup mainRoutes r.1 ('/' :: r.2)).all listed) = true →
      (method, trimSlashes path) ∈ routes → listed P = true := by
    intro routes listed hall hmem
    have h := List.all_eq_true.mp hall _ hmem
    rw [← hpath, hlookup] at h
    exact h
  constructor
  · intro hallowed
    rw [secondFactorSetupAllowedRoute, Bool.or_eq_true] at hallowed
    rcases hallowed with hbelow | hroute
    · obtain ⟨rest, hrest⟩ := List.isPrefixOf_iff_prefix.mp hbelow
      obtain ⟨hr, hexact, -⟩ := lookup_guarded hlookup hguarded
      obtain ⟨s, tail, hsegs⟩ := segments_secondFactor rest
      rw [hpath, ← hrest, hsegs] at hexact
      exact setupListed_of_segments hr hguarded hexact
    · exact hlisted setupRoutes (·.handler.setupListed) lookup_setupRoutes
        (List.contains_iff_mem.mp hroute)
  · intro hallowed
    exact hlisted verificationRoutes (·.handler.verificationListed) lookup_verificationRoutes
      (List.contains_iff_mem.mp hallowed)

end SafetyRecorder
