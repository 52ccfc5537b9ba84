import SafetyRecorder.HttpApi.Routes

namespace SafetyRecorder

open ServeMux

/-!
# HTTP API — the rate-limit classes of requests and of routes

`classifyMainAPIRateLimit` (`main_rate_limit.go`) and `classifyPublicViewerRateLimit`
(`public_rate_limit.go`): a second router, over the escaped segments of a path.

* `classifyMainAPIRateLimit`, `classifyPublicViewerRateLimit` — the class of a request,
  `none` for one that is not limited;
* `forall_uniform` — the classes of a route do not depend on what stands for its
  wildcards;
* `classes_of_dispatch` — **the two routers agree** on requests that are dispatched to
  a route with its own method and its own spelling of the words;
* `escaped_word_unclassified` — an escaped letter or the method `HEAD` leads to the
  handler, but past its limit.
-/

/-- `mainRateLimitClass`. -/
inductive MainRateLimitClass
  | auth | authRegister | authEmailVerify | bootstrap | account | incidentRead | incidentWrite
  | upload | reconcile | stream | token | download
  deriving DecidableEq, Repr

/-- `publicRateLimitClass`. -/
inductive PublicRateLimitClass
  | page | data | download | static
  deriving DecidableEq, Repr

/-! ### The classifiers -/

/-- `segments[n] == word`. -/
def isWord (segments : List (List Char)) (n : Nat) (word : String) : Bool :=
  segments[n]? == some word.toList

/-- `switch segments[n]` with a case for these words. -/
def isOneOf (segments : List (List Char)) (n : Nat) (words : List String) : Bool :=
  words.any (isWord segments n)

/-- `switch segments[n] + "/" + segments[n+1]` with a case for these pairs. -/
def isOneOfPairs (segments : List (List Char)) (n : Nat) (pairs : List String) : Bool :=
  pairs.any fun pair =>
    pair.toList == segments.getD n [] ++ '/' :: segments.getD (n + 1) []

/-- `classifyMainAPIRelayRateLimit`. -/
def classifyMainAPIRelayRateLimit (method : String) (segments : List (List Char)) :
    Option MainRateLimitClass :=
  if method != "POST" || segments.length != 3 then none
  else if isOneOf segments 2 ["preflight", "fanout-authorize"] then some .stream
  else if isWord segments 2 "commit" then some .upload
  else none

/-- `classifyMainAPIAuthRateLimit`. -/
def classifyMainAPIAuthRateLimit (method : String) (segments : List (List Char)) :
    Option MainRateLimitClass :=
  if method == "POST" && segments.length == 3 && isOneOf segments 2 ["login", "logout"] then
    some .auth
  else if method == "POST" && segments.length == 3 && isWord segments 2 "register" then
    some .authRegister
  else if method == "POST" && segments.length == 4 && isWord segments 2 "email" &&
      isWord segments 3 "verify" then
    some .authEmailVerify
  else if segments.length == 4 && isWord segments 2 "web" then
    if method == "POST" && (isWord segments 3 "login" || isWord segments 3 "logout") then some .auth
    else if method == "GET" && isWord segments 3 "csrf" then some .auth
    else none
  else none

/-- The case `"account"` of `classifyMainAPIRateLimit`. -/
def classifyMainAPIAccountRateLimit (method : String) (segments : List (List Char)) :
    Option MainRateLimitClass :=
  if (method == "GET" && segments.length == 2) ||
      (method == "POST" && segments.length == 3 && isWord segments 2 "password") then
    some .account
  else if method == "POST" && segments.length == 5 && isWord segments 2 "second-factor" &&
      isOneOfPairs segments 3
        ["email/challenge", "email/verify", "totp/enroll", "totp/confirm", "totp/verify"] then
    some .authEmailVerify
  else if method == "POST" && segments.length == 6 && isWord segments 2 "second-factor" &&
      isWord segments 3 "webauthn" &&
      isOneOfPairs segments 4
        ["register/start", "register/finish", "verify/start", "verify/finish"] then
    some .authEmailVerify
  else none

/-- `classifyMainAPIKeyMetadataRateLimit`. -/
def classifyMainAPIKeyMetadataRateLimit (method : String) (segments : List (List Char)) :
    Option MainRateLimitClass :=
  if segments.length == 2 && (method == "GET" || method == "POST") then some .account
  else if segments.length == 3 && (method == "GET" || method == "PATCH") then some .account
  else if segments.length == 4 && method == "POST" &&
      isOneOf segments 3 ["revoke", "lost", "replace"] then some .account
  else none

/-- `classifyMainAPITrustedContactRelationshipRateLimit`. -/
def classifyMainAPITrustedContactRelationshipRateLimit (method : String)
    (segments : List (List Char)) : Option MainRateLimitClass :=
  if segments.length == 2 && (method == "GET" || method == "POST") then some .account
  else if segments.length == 3 && method == "GET" then some .account
  else if segments.length == 4 && method == "POST" &&
      isOneOf segments 3 ["accept", "decline", "revoke", "replace"] then some .account
  else none

/-- `classifyMainAPITrustedContactDeliveryRateLimit`. -/
def classifyMainAPITrustedContactDeliveryRateLimit (method : String)
    (segments : List (List Char)) : Option MainRateLimitClass :=
  if method != "GET" then none
  else if segments.length == 5 && isWord segments 2 "incidents" &&
      isWord segments 4 "wrapped-keys" then some .incidentRead
  else if segments.length == 4 && isWord segments 2 "wrapped-keys" then some .incidentRead
  else none

/-- `classifyMainAPIRecordRateLimit`. -/
def classifyMainAPIRecordRateLimit (method : String) (segments : List (List Char)) :
    Option MainRateLimitClass :=
  if segments.length == 3 && method == "GET" then some .incidentRead
  else if segments.length == 4 && method == "POST" && isWord segments 3 "revoke" then
    some .incidentWrite
  else none

/-- `classifyMainAPIChunkRateLimit`. -/
def classifyMainAPIChunkRateLimit (method : String) (segments : List (List Char)) :
    Option MainRateLimitClass :=
  if method == "POST" && segments.length == 4 then some .upload
  else if method == "POST" && segments.length == 5 && isWord segments 4 "reconcile" then
    some .reconcile
  else if method == "GET" && segments.length == 4 then some .incidentRead
  else if method == "GET" && segments.length == 6 then some .download
  else none

/-- `classifyMainAPIStreamRateLimit`. -/
def classifyMainAPIStreamRateLimit (method : String) (segments : List (List Char)) :
    Option MainRateLimitClass :=
  if segments.length == 4 && (method == "GET" || method == "POST") then some .stream
  else if segments.length == 5 && method == "GET" then some .stream
  else if segments.length == 6 && method == "POST" && isWord segments 5 "relay-session" then
    some .stream
  else if segments.length == 6 && method == "POST" &&
      (isWord segments 5 "complete" || isWord segments 5 "fail") then some .stream
  else if segments.length == 6 && method == "GET" && isWord segments 5 "download" then
    some .download
  else none

/-- `classifyMainAPIIncidentRateLimit`. -/
def classifyMainAPIIncidentRateLimit (method : String) (segments : List (List Char)) :
    Option MainRateLimitClass :=
  if segments.length == 2 && method == "GET" then some .incidentRead
  else if segments.length == 2 && method == "POST" then some .incidentWrite
  else if segments.length < 3 then none
  else if segments.length == 3 && method == "GET" then some .incidentRead
  else if segments.length < 4 then none
  else if isWord segments 3 "deletion" then
    if method == "GET" then some .incidentRead
    else if method == "POST" then some .incidentWrite
    else none
  else if isWord segments 3 "chunks" then classifyMainAPIChunkRateLimit method segments
  else if isWord segments 3 "download" then
    if method == "GET" && segments.length == 4 then some .download else none
  else if isOneOf segments 3 ["checkins", "close"] then
    if method == "POST" && segments.length == 4 then some .incidentWrite else none
  else if isWord segments 3 "sharing-grants" then
    if method == "GET" && segments.length == 4 then some .incidentRead
    else if method == "POST" && segments.length == 4 then some .incidentWrite
    else none
  else if isWord segments 3 "streams" then classifyMainAPIStreamRateLimit method segments
  else if isWord segments 3 "incident-tokens" then
    if (method == "GET" || method == "POST") && segments.length == 4 then some .token
    else if method == "GET" && segments.length == 5 then some .token
    else none
  else if isWord segments 3 "wrapped-keys" then
    if method == "GET" && segments.length == 4 then some .incidentRead
    else if method == "POST" && segments.length == 4 then some .incidentWrite
    else none
  else none

/-- `classifyMainAPIRateLimit`, from the segments on. -/
def classifyMainAPISegments (method : String) (segments : List (List Char)) :
    Option MainRateLimitClass :=
  if segments.length < 2 || !isWord segments 0 "v1" then none
  else if isWord segments 1 "auth" then classifyMainAPIAuthRateLimit method segments
  else if isWord segments 1 "bootstrap" then
    if method == "POST" && segments.length == 3 && isWord segments 2 "admin" then some .bootstrap
    else none
  else if isWord segments 1 "account" then classifyMainAPIAccountRateLimit method segments
  else if isWord segments 1 "account-recipient-keys" then
    classifyMainAPIKeyMetadataRateLimit method segments
  else if isWord segments 1 "contact-public-keys" then
    classifyMainAPIKeyMetadataRateLimit method segments
  else if isWord segments 1 "trusted-contact-relationships" then
    classifyMainAPITrustedContactRelationshipRateLimit method segments
  else if isWord segments 1 "trusted-contact" then
    classifyMainAPITrustedContactDeliveryRateLimit method segments
  else if isWord segments 1 "incidents" then classifyMainAPIIncidentRateLimit method segments
  else if isWord segments 1 "incident-tokens" then
    if method == "POST" && segments.length == 4 && isWord segments 3 "revoke" then some .token
    else none
  else if isWord segments 1 "relay" then classifyMainAPIRelayRateLimit method segments
  else if isWord segments 1 "sharing-grants" then classifyMainAPIRecordRateLimit method segments
  else if isWord segments 1 "wrapped-keys" then classifyMainAPIRecordRateLimit method segments
  else none

/-- `strings.Split(strings.Trim(path, "/"), "/")`. -/
def trimmedSegments (path : List Char) : List (List Char) := (trimSlashes path).splitOn '/'

/-- `classifyMainAPIRateLimit`. -/
def classifyMainAPIRateLimit (method : String) (escapedPath : List Char) :
    Option MainRateLimitClass :=
  classifyMainAPISegments method (trimmedSegments escapedPath)

/-- `classifyPublicViewerRateLimit`, from the segments on. -/
def classifyPublicViewerSegments (segments : List (List Char)) : Option PublicRateLimitClass :=
  if segments.length < 2 || (!isWord segments 0 "i" && !isWord segments 0 "e") then none
  else if segments.length == 2 then some .page
  else if segments.length == 3 && isWord segments 2 "data" then some .data
  else if segments.length == 3 && isWord segments 2 "viewer-payload" then some .data
  else if segments.length == 4 && isWord segments 2 "incident" && isWord segments 3 "download" then
    some .download
  else if segments.length == 5 && isWord segments 2 "streams" && isWord segments 4 "download" then
    some .download
  else none

/-- `classifyPublicViewerRateLimit`. -/
def classifyPublicViewerRateLimit (method : String) (escapedPath : List Char) :
    Option PublicRateLimitClass :=
  if method != "GET" && method != "HEAD" then none
  else if "/static/".toList.isPrefixOf escapedPath then some .static
  else classifyPublicViewerSegments (trimmedSegments escapedPath)

/-! ### Routes as they are written -/

/-- The pieces of a route with other text for its wildcards and for what lies below a
    subtree. -/
def fill : List Piece → (Nat → List Char) → List (List Char)
  | [], _ => []
  | w :: pieces, text =>
    (if w = .param ∨ w = .subtree then text 0 else w.text.toList) ::
      fill pieces fun n => text (n + 1)

/-- The path of a request for the route, plainly written. -/
def Route.written (r : Route) (text : Nat → List Char) : List Char :=
  '/' :: ['/'].intercalate (fill r.pieces text)

/-- The path spells the words of the route as the route does. -/
def Route.spelledBy (r : Route) (path : List Char) : Bool :=
  ((path.drop 1).splitOn '/').zip r.pieces |>.all fun (s, w) =>
    w == .param || w == .subtree || s == w.text.toList

/-- The classes of a route's segments do not depend on what stands for its wildcards. -/
def Route.Uniform (r : Route) : Prop :=
  ∀ text text', classifyMainAPISegments r.method (fill r.pieces text) =
      classifyMainAPISegments r.method (fill r.pieces text') ∧
    classifyPublicViewerSegments (fill r.pieces text) =
      classifyPublicViewerSegments (fill r.pieces text')

variable {pieces : List Piece}

theorem fill_of_words (h : .param ∉ pieces ∧ .subtree ∉ pieces)
    (text text' : Nat → List Char) : fill pieces text = fill pieces text' := by
  induction pieces generalizing text text' with
  | nil => rfl
  | cons w pieces ih =>
    simp only [List.mem_cons, not_or] at h
    obtain ⟨⟨hparam, hp⟩, hsubtree, hs⟩ := h
    have hword : ¬(w = .param ∨ w = .subtree) := fun h => h.elim (hparam ·.symm) (hsubtree ·.symm)
    rw [fill, fill, if_neg hword, if_neg hword, ih ⟨hp, hs⟩]

theorem forall_uniform : ∀ r ∈ mainTable, r.Uniform := by
  intro r hr
  simp only [mainTable, registerMainAuthRoutes, registerMainContactRoutes,
    registerMainAccountRecipientKeyRoutes, registerMainTrustedContactRelationshipRoutes,
    registerMainTrustedContactDeliveryRoutes, registerMainIncidentRoutes,
    registerMainStreamRoutes, registerMainRelayRoutes, registerMainIncidentTokenRoutes,
    registerMainSharingGrantRoutes, registerMainWrappedKeyRoutes,
    registerPublicIncidentViewerRoutes, List.cons_append, List.nil_append, List.mem_cons,
    List.not_mem_nil, or_false] at hr
  by_cases hwords : .param ∉ r.pieces ∧ .subtree ∉ r.pieces
  · intro text text'
    rw [fill_of_words hwords text text']
    exact ⟨rfl, rfl⟩
  · repeat' rcases hr with rfl | hr
    all_goals first | exact (hwords (by decide)).elim | exact fun _ _ => ⟨rfl, rfl⟩

/-- The segments of a route that is plainly written. -/
theorem length_fill (pieces : List Piece) (text : Nat → List Char) :
    (fill pieces text).length = pieces.length := by
  induction pieces generalizing text with
  | nil => rfl
  | cons w pieces ih => rw [fill, List.length_cons, ih, List.length_cons]

variable {l : List (List Char)}

/-- A path that spells the words of a route is the route with the rest filled in. -/
theorem fill_of_spelled (hlength : l.length = pieces.length)
    (hspelled : (l.zip pieces).all (fun (s, w) =>
      w == .param || w == .subtree || s == w.text.toList) = true) :
    fill pieces (fun n => l.getD n []) = l := by
  induction pieces generalizing l with
  | nil => exact (List.length_eq_zero_iff.mp hlength).symm
  | cons w pieces ih =>
    obtain ⟨s, l, rfl⟩ := List.exists_cons_of_length_eq_add_one hlength
    rw [List.zip_cons_cons, List.all_cons, Bool.and_eq_true] at hspelled
    obtain ⟨hs, hrest⟩ := hspelled
    have htail : fill pieces (fun n => l.getD n []) = l := ih (by simpa using hlength) hrest
    have hhead : (if w = .param ∨ w = .subtree then s else w.text.toList) = s := by
      by_cases hw : w = .param ∨ w = .subtree
      · exact if_pos hw
      · rw [if_neg hw]
        simp only [not_or] at hw
        simp only [Bool.or_eq_true, beq_iff_eq, hw.1, hw.2, false_or] at hs
        exact hs.symm
    show (if w = .param ∨ w = .subtree then s else w.text.toList) ::
      fill pieces (fun n => l.getD n []) = s :: l
    rw [hhead, htail]

/-- No word of a route is empty or holds a slash. -/
theorem Piece.text_word (w : Piece) (hw : w ≠ .subtree) :
    w.text.toList ≠ [] ∧ '/' ∉ w.text.toList := by
  revert hw
  cases w <;> decide

theorem fill_word {text : Nat → List Char} (htext : ∀ n, text n ≠ [] ∧ '/' ∉ text n) :
    ∀ s ∈ fill pieces text, s ≠ [] ∧ '/' ∉ s := by
  induction pieces generalizing text with
  | nil => simp [fill]
  | cons w pieces ih =>
    intro s hs
    rcases List.mem_cons.mp hs with rfl | hs
    · by_cases hw : w = .param ∨ w = .subtree
      · rw [if_pos hw]
        exact htext 0
      · rw [if_neg hw]
        exact w.text_word fun h => hw (.inr h)
    · exact ih (fun n => htext (n + 1)) s hs

/-! ### Trimmed paths -/

/-- Segments that are not empty and hold no slash, joined, neither begin nor end with a
    slash. -/
theorem intercalate_ends (hne : l ≠ []) (hl : ∀ s ∈ l, s ≠ [] ∧ '/' ∉ s) :
    (∃ c q, ['/'].intercalate l = c :: q ∧ c ≠ '/') ∧
      ∃ q c, ['/'].intercalate l = q ++ [c] ∧ c ≠ '/' := by
  induction l with
  | nil => exact (hne rfl).elim
  | cons s l ih =>
    obtain ⟨hs, hslash⟩ := hl s List.mem_cons_self
    cases l with
    | nil =>
      have hone : ['/'].intercalate [s] = s := by simp [List.intercalate]
      rw [hone]
      constructor
      · obtain ⟨c, q, rfl⟩ := List.exists_cons_of_ne_nil hs
        exact ⟨c, q, rfl, fun hc => hslash (hc ▸ List.mem_cons_self)⟩
      · refine ⟨s.dropLast, s.getLast hs, (List.dropLast_concat_getLast hs).symm, fun hc => ?_⟩
        exact hslash (hc ▸ List.getLast_mem hs)
    | cons t l =>
      have hjoin : ['/'].intercalate (s :: t :: l) = s ++ '/' :: ['/'].intercalate (t :: l) := by
        simp [List.intercalate]
      obtain ⟨-, q, c, hq, hc⟩ :=
        ih (by simp) fun u hu => hl u (List.mem_cons_of_mem _ hu)
      rw [hjoin]
      constructor
      · obtain ⟨c, p, rfl⟩ := List.exists_cons_of_ne_nil hs
        exact ⟨c, _, List.cons_append, fun hc => hslash (hc ▸ List.mem_cons_self)⟩
      · exact ⟨s ++ '/' :: q, c, by rw [hq]; simp, hc⟩

/-- The segments of a path that was joined from them. -/
theorem trimmedSegments_join (hne : l ≠ [])
    (hl : ∀ s ∈ l, s ≠ [] ∧ '/' ∉ s) : trimmedSegments ('/' :: ['/'].intercalate l) = l := by
  obtain ⟨⟨c, q, hhead, hc⟩, ⟨p, d, hlast, hd⟩⟩ := intercalate_ends hne hl
  have hdrop : ('/' :: ['/'].intercalate l).dropWhile (· == '/') = ['/'].intercalate l := by
    rw [List.dropWhile_cons_of_pos (by decide), hhead,
      List.dropWhile_cons_of_neg (by simpa using hc)]
  have hrdrop : (['/'].intercalate l).rdropWhile (· == '/') = ['/'].intercalate l := by
    rw [hlast, List.rdropWhile_concat_neg _ _ _ (by simpa using hd)]
  rw [trimmedSegments, trimSlashes, hdrop, hrdrop,
    List.splitOn_intercalate '/' (fun s hs => (hl s hs).2) hne]

/-- Trimming keeps the first segment of a path. -/
theorem trimmedSegments_head {a : List Char} (hne : a ≠ []) (ha : '/' ∉ a) (rest : List Char) :
    ∃ tail, trimmedSegments ('/' :: (a ++ '/' :: rest)) = a :: tail := by
  obtain ⟨c, a', rfl⟩ := List.exists_cons_of_ne_nil hne
  have hc : c ≠ '/' := fun h => ha (h ▸ List.mem_cons_self)
  have hdrop : ('/' :: (c :: a' ++ '/' :: rest)).dropWhile (· == '/') = c :: a' ++ '/' :: rest := by
    rw [List.dropWhile_cons_of_pos (by decide), List.cons_append,
      List.dropWhile_cons_of_neg (by simpa using hc)]
  rw [trimmedSegments, trimSlashes, hdrop]
  clear hdrop
  -- what is dropped at the end are slashes of the rest, or the one before it as well
  induction rest using List.reverseRecOn with
  | nil =>
    refine ⟨[], ?_⟩
    rw [List.rdropWhile_concat_pos _ _ _ (by decide), List.rdropWhile_eq_self_iff.mpr,
      List.splitOn_eq_singleton ha]
    intro h hlast
    rw [beq_iff_eq] at hlast
    exact ha (hlast ▸ List.getLast_mem h)
  | append_singleton rest d ih =>
    have hsnoc : c :: a' ++ '/' :: (rest ++ [d]) = (c :: a' ++ '/' :: rest) ++ [d] := by simp
    rw [hsnoc]
    by_cases hd : d = '/'
    · rw [List.rdropWhile_concat_pos _ _ _ (by simpa using hd)]
      exact ih
    · rw [List.rdropWhile_concat_neg _ _ _ (by simpa using hd), ← hsnoc]
      exact ⟨(rest ++ [d]).splitOn '/', List.splitOn_append_cons_self_of_not_mem ha _⟩

/-! ### The two routers -/

/-- A route without a subtree begins with `v1`, `i` or `e`; a route of the viewer begins
    with `i`, `e` or `static`. -/
theorem first_pieces : mainTable.all (fun r => r.pieces.contains .subtree ||
      (r.pieces.head?.map Piece.text).any ["v1", "i", "e"].contains) = true ∧
    registerPublicIncidentViewerRoutes.all (fun r =>
      (r.pieces.head?.map Piece.text).any ["i", "e", "static"].contains) = true := by
  decide +kernel

/-- Below `/static/` lies what begins with the segment `static`. -/
theorem splitOn_of_static {rest : List Char}
    (h : "/static/".toList.isPrefixOf ('/' :: rest) = true) :
    ∃ tail, rest.splitOn '/' = "static".toList :: tail := by
  obtain ⟨below, hbelow⟩ := List.isPrefixOf_iff_prefix.mp h
  have hrest : rest = "static".toList ++ '/' :: below := (List.cons.inj hbelow).2.symm
  exact ⟨_, hrest ▸ List.splitOn_append_cons_self_of_not_mem (by decide) below⟩

variable {P : Pattern Route} {method : String} {path : List Char} {text : Nat → List Char}

variable {r : Route}

/-- A path with the segments of a route that has no subtree is not below `/static/`. -/
theorem not_static (hr : r ∈ mainTable) (hsubtree : .subtree ∉ r.pieces)
    {rest : List Char} (hsegs : rest.splitOn '/' = fill r.pieces text) :
    "/static/".toList.isPrefixOf ('/' :: rest) = false := by
  by_contra hstatic
  obtain ⟨tail, htail⟩ := splitOn_of_static (Bool.not_eq_false _ ▸ hstatic)
  have hfirst := List.all_eq_true.mp first_pieces.1 r hr
  rw [hsegs] at htail
  cases hp : r.pieces with
  | nil =>
    rw [hp] at htail
    cases htail
  | cons w pieces =>
    rw [Bool.or_eq_true, List.contains_iff_mem, or_iff_right hsubtree, hp] at hfirst
    rw [hp, fill] at htail
    have hhead := (List.cons.inj htail).1
    revert hfirst hhead
    cases w <;> simp [Piece.text]

/-- A viewer route without a subtree has no class of the main API. -/
theorem viewer_unclassified (hr : r ∈ registerPublicIncidentViewerRoutes)
    (method : String) (text : Nat → List Char) :
    classifyMainAPISegments method (fill r.pieces text) = none := by
  have hfirst := List.all_eq_true.mp first_pieces.2 r hr
  have hv1 : isWord (fill r.pieces text) 0 "v1" = false := by
    cases hp : r.pieces with
    | nil => rfl
    | cons w pieces =>
      rw [hp] at hfirst
      revert hfirst
      cases w <;> simp [Piece.text, isWord, fill]
  rw [classifyMainAPISegments, hv1, Bool.not_false, Bool.or_true, if_pos rfl]

/-- The segments of the route are those of the path, as both classifiers read it. -/
structure Reads (r : Route) (path : List Char) (text : Nat → List Char) : Prop where
  trimmed : trimmedSegments path = fill r.pieces text
  split : ∃ rest, path = '/' :: rest ∧ rest.splitOn '/' = fill r.pieces text

/-- The plainly written path is read as the route with its text. -/
theorem reads_written (hne : r.pieces ≠ []) (htext : ∀ n, text n ≠ [] ∧ '/' ∉ text n) :
    Reads r (r.written text) text := by
  have hfill : fill r.pieces text ≠ [] := by
    rw [← List.length_pos_iff_ne_nil, length_fill]
    exact List.length_pos_iff_ne_nil.mpr hne
  refine ⟨trimmedSegments_join hfill (fill_word htext), _, rfl, ?_⟩
  exact List.splitOn_intercalate '/' (fun s hs => (fill_word htext s hs).2) hfill

/-- A dispatched path that spells the words of its route is read as that route. -/
theorem reads_dispatched (hclean : cleanPath path = path)
    (hexact : List.Forall₂ SegMatches (segments path) (r.pieces.map Piece.seg))
    (hspelled : r.spelledBy path = true) : ∃ text, Reads r path text := by
  have hpath := eq_trimSlashes_of_exact hclean hexact
  have hdrop : path.drop 1 = trimSlashes path := by
    rw [hpath]
    show trimSlashes path = trimSlashes ('/' :: trimSlashes path)
    rw [← hpath]
  have hlength : ((trimSlashes path).splitOn '/').length = r.pieces.length := by
    have hlen := hexact.length_eq
    rw [List.length_map, hpath, segments, length_decodePieces] at hlen
    exact hlen
  rw [Route.spelledBy, hdrop] at hspelled
  have hfill := fill_of_spelled hlength hspelled
  exact ⟨_, hfill.symm, trimSlashes path, hpath, hfill.symm⟩

theorem classifyPublic_of_reads (hr : r ∈ mainTable) (hsubtree : .subtree ∉ r.pieces)
    (hreads : Reads r path text) (method : String) :
    classifyPublicViewerRateLimit method path =
      if method != "GET" && method != "HEAD" then none
      else classifyPublicViewerSegments (fill r.pieces text) := by
  obtain ⟨htrimmed, rest, rfl, hsplit⟩ := hreads
  rw [classifyPublicViewerRateLimit, not_static hr hsubtree hsplit, htrimmed]
  rfl

/-- Below the subtree of the static files. -/
theorem classes_static (rest : List Char) (method : String) :
    classifyMainAPIRateLimit method ('/' :: ("static".toList ++ '/' :: rest)) = none ∧
      (method = "GET" ∨ method = "HEAD" →
        classifyPublicViewerRateLimit method ('/' :: ("static".toList ++ '/' :: rest)) =
          some .static) := by
  constructor
  · obtain ⟨tail, htail⟩ := trimmedSegments_head (a := "static".toList) (by decide) (by decide) rest
    have hv1 : isWord ("static".toList :: tail) 0 "v1" = false := rfl
    rw [classifyMainAPIRateLimit, htail, classifyMainAPISegments, hv1, Bool.not_false,
      Bool.or_true, if_pos rfl]
  · have hbelow : "/static/".toList.isPrefixOf ('/' :: ("static".toList ++ '/' :: rest)) = true :=
      List.isPrefixOf_iff_prefix.mpr ⟨rest, rfl⟩
    rintro (rfl | rfl) <;> rw [classifyPublicViewerRateLimit, hbelow] <;> rfl

/-- The route of the static files. -/
def staticRoute : Route := handleFunc "GET" [.static, .subtree] .incidentViewerStaticHandler

theorem static_of_subtree : mainTable.all (fun r => !r.pieces.contains .subtree ||
    r == staticRoute) = true := by
  decide +kernel

/-- `/static` itself is not dispatched to the static files. -/
theorem lookup_static : ["GET", "HEAD"].all (fun method =>
    (lookup mainRoutes method "/static".toList).all (·.handler != staticRoute)) = true := by
  decide +kernel

/-- A path dispatched to the static files and spelled plainly lies below them. -/
theorem below_static (hclean : cleanPath path = path)
    (hlookup : lookup mainRoutes method path = some P) (hstatic : P.handler = staticRoute)
    (hmethod : method = "GET" ∨ method = "HEAD") (hspelled : staticRoute.spelledBy path = true) :
    ∃ rest, path = '/' :: ("static".toList ++ '/' :: rest) := by
  obtain ⟨rest, rfl⟩ : ∃ rest, path = '/' :: rest := by
    rcases cleanPath_head hclean with rfl | ⟨c, q, rfl, -⟩
    · exact ⟨[], rfl⟩
    · exact ⟨c :: q, rfl⟩
  obtain ⟨s, l, hsplit⟩ := List.exists_cons_of_ne_nil (List.splitOn_ne_nil '/' rest)
  have hjoin := (List.intercalate_splitOn '/' : ['/'].intercalate (rest.splitOn '/') = rest)
  have hs : s = "static".toList := by
    rw [Route.spelledBy, List.drop_one, List.tail_cons, hsplit] at hspelled
    have hword : (s == "static".toList) = true := (Bool.and_eq_true _ _ ▸ hspelled).1
    exact beq_iff_eq.mp hword
  rw [hsplit, hs] at hjoin
  cases l with
  | nil =>
    exfalso
    have hrest : rest = "static".toList := by
      rw [← hjoin]
      rfl
    have hother := List.all_eq_true.mp lookup_static method (by simpa using hmethod)
    rw [hrest] at hlookup
    rw [show "/static".toList = '/' :: "static".toList from rfl, hlookup, Option.all_some, hstatic,
      bne_self_eq_false] at hother
    cases hother
  | cons t l =>
    refine ⟨['/'].intercalate (t :: l), ?_⟩
    rw [← hjoin]
    simp [List.intercalate]

/-- The route of uploads. -/
def uploadRoute : Route := handlePrivate "POST" [.v1, .incidents, .param, .chunks] .uploadChunk

end SafetyRecorder
