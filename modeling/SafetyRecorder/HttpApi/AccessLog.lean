import Mathlib.Data.List.Infix
import SafetyRecorder.HttpApi.RateLimits

namespace SafetyRecorder

open ServeMux

/-!
# HTTP API — what the request log says of a path

`safeLogPath` of `middleware.go`, behind the chain of `mainRoutes`: the log line is
written after the request, with the pattern the multiplexer has left in it, if the
request came that far.

* `exitOf` — the middleware that ends a request: the CORS answer, one of the limiters,
  or the multiplexer;
* `muxPattern` — the pattern the multiplexer sets, for redirects as well;
* `loggedPath` — the path of the log line;
* `token_not_logged` — **the viewer token is not logged**: two requests for a viewer
  route that differ in the token have one log line, if they come to the multiplexer
  with `GET` or `HEAD`, or have clean paths and the token is not taken for another word;
* `unclean_token_logged` — a preflight request with a doubled slash is logged as it is.
-/

/-! ### Redacted paths -/

/-- `strings.HasSuffix`. -/
def hasSuffix (s suffix : List Char) : Bool := decide (suffix <:+ s)

/-- `strings.Contains`. -/
def contains (s part : List Char) : Bool := decide (part <:+: s)

/-- `redactedViewerPath`. -/
def redactedViewerPath (path base : List Char) : List Char :=
  if hasSuffix path "/data".toList then base ++ "/\x7btoken\x7d/data".toList
  else if hasSuffix path "/viewer-payload".toList then base ++ "/\x7btoken\x7d/viewer-payload".toList
  else if hasSuffix path "/incident/download".toList then
    base ++ "/\x7btoken\x7d/incident/download".toList
  else if contains path "/streams/".toList && hasSuffix path "/download".toList then
    base ++ "/\x7btoken\x7d/streams/\x7bstream_id\x7d/download".toList
  else base ++ "/\x7btoken\x7d".toList

/-- `method + text`. -/
def withMethod (method text : String) : List Char := method.toList ++ text.toList

/-- `redactedAdminAPIPath`. -/
def redactedAdminAPIPath (method : String) (segments : List (List Char)) : List Char :=
  if segments.length < 3 then withMethod method " /admin/api/\x7broute\x7d"
  else if isWord segments 2 "accounts" && segments.length == 3 then
    withMethod method " /admin/api/accounts"
  else if isWord segments 2 "accounts" && segments.length == 5 && isWord segments 4 "password" then
    withMethod method " /admin/api/accounts/\x7baccount_id\x7d/password"
  else if isWord segments 2 "accounts" && segments.length == 7 &&
      isWord segments 4 "second-factor" && isWord segments 5 "recovery" &&
      isWord segments 6 "reset" then
    withMethod method " /admin/api/accounts/\x7baccount_id\x7d/second-factor/recovery/reset"
  else if isWord segments 2 "accounts" && segments.length == 6 && isWord segments 4 "sessions" &&
      isWord segments 5 "revoke" then
    withMethod method " /admin/api/accounts/\x7baccount_id\x7d/sessions/revoke"
  else if isWord segments 2 "incidents" && segments.length == 4 && isWord segments 3 "unowned" then
    withMethod method " /admin/api/incidents/unowned"
  else if isWord segments 2 "incidents" && segments.length == 5 &&
      isOneOf segments 4 ["deletion", "reassignment"] then
    withMethod method " /admin/api/incidents/\x7bincident_id\x7d/" ++ segments.getD 4 []
  else withMethod method " /admin/api/\x7broute\x7d"

/-- `redactedAuthPath`. -/
def redactedAuthPath (method : String) (segments : List (List Char)) : List Char :=
  if segments.length == 3 && isOneOf segments 2 ["login", "logout", "register"] then
    withMethod method " /v1/auth/" ++ segments.getD 2 []
  else if segments.length == 4 && isWord segments 2 "email" && isWord segments 3 "verify" then
    withMethod method " /v1/auth/email/verify"
  else if segments.length == 4 && isWord segments 2 "web" &&
      isOneOf segments 3 ["login", "logout", "csrf"] then
    withMethod method " /v1/auth/web/" ++ segments.getD 3 []
  else withMethod method " /v1/auth/\x7broute\x7d"

/-- `redactedRecordPath`. -/
def redactedRecordPath (method : String) (segments : List (List Char)) (base idName : String) :
    List Char :=
  let collection := withMethod method " /v1/" ++ base.toList
  let item := collection ++ "/\x7b".toList ++ idName.toList ++ "\x7d".toList
  if segments.length == 2 then collection
  else if segments.length == 3 then item
  else if segments.length == 4 && isOneOf segments 3 ["revoke", "lost", "replace"] then
    item ++ '/' :: segments.getD 3 []
  else collection ++ "/\x7broute\x7d".toList

/-- `redactedChunkPath`. -/
def redactedChunkPath (method : String) (segments : List (List Char)) : List Char :=
  if segments.length == 4 then withMethod method " /v1/incidents/\x7bincident_id\x7d/chunks"
  else if segments.length == 5 && isWord segments 4 "reconcile" then
    withMethod method " /v1/incidents/\x7bincident_id\x7d/chunks/reconcile"
  else if segments.length == 6 then
    withMethod method
      " /v1/incidents/\x7bincident_id\x7d/chunks/\x7bmedia_type\x7d/\x7bchunk_index\x7d"
  else withMethod method " /v1/incidents/\x7bincident_id\x7d/chunks/\x7broute\x7d"

/-- `redactedStreamPath`. -/
def redactedStreamPath (method : String) (segments : List (List Char)) : List Char :=
  if segments.length == 4 then withMethod method " /v1/incidents/\x7bincident_id\x7d/streams"
  else if segments.length == 5 then
    withMethod method " /v1/incidents/\x7bincident_id\x7d/streams/\x7bstream_id\x7d"
  else if segments.length == 6 && isOneOf segments 5 ["complete", "fail", "download"] then
    withMethod method " /v1/incidents/\x7bincident_id\x7d/streams/\x7bstream_id\x7d/" ++
      segments.getD 5 []
  else withMethod method " /v1/incidents/\x7bincident_id\x7d/streams/\x7broute\x7d"

/-- `redactedIncidentPath`. -/
def redactedIncidentPath (method : String) (segments : List (List Char)) : List Char :=
  if segments.length == 2 then withMethod method " /v1/incidents"
  else if segments.length == 3 then withMethod method " /v1/incidents/\x7bincident_id\x7d"
  else if segments.length < 4 then withMethod method " /v1/incidents/\x7broute\x7d"
  else if isWord segments 3 "chunks" then redactedChunkPath method segments
  else if isWord segments 3 "streams" then redactedStreamPath method segments
  else if isOneOf segments 3 ["deletion", "download", "checkins", "close", "sharing-grants",
      "incident-tokens", "wrapped-keys"] && segments.length == 4 then
    withMethod method " /v1/incidents/\x7bincident_id\x7d/" ++ segments.getD 3 []
  else if segments.length == 5 && isWord segments 3 "incident-tokens" then
    withMethod method " /v1/incidents/\x7bincident_id\x7d/incident-tokens/\x7btoken_id\x7d"
  else withMethod method " /v1/incidents/\x7bincident_id\x7d/\x7broute\x7d"

/-- `redactedMainAPIPath`. -/
def redactedMainAPIPath (method : String) (rawPath : List Char) : List Char :=
  let segments := trimmedSegments rawPath
  if segments.length < 2 || !isWord segments 0 "v1" then withMethod method " /v1/\x7broute\x7d"
  else if isWord segments 1 "auth" then redactedAuthPath method segments
  else if isWord segments 1 "bootstrap" && segments.length == 3 && isWord segments 2 "admin" then
    withMethod method " /v1/bootstrap/admin"
  else if isWord segments 1 "account" && segments.length == 2 then withMethod method " /v1/account"
  else if isWord segments 1 "account" && segments.length == 3 && isWord segments 2 "password" then
    withMethod method " /v1/account/password"
  else if isWord segments 1 "account-recipient-keys" then
    redactedRecordPath method segments "account-recipient-keys" "recipient_key_id"
  else if isWord segments 1 "contact-public-keys" then
    redactedRecordPath method segments "contact-public-keys" "public_key_id"
  else if isWord segments 1 "incidents" then redactedIncidentPath method segments
  else if isWord segments 1 "incident-tokens" && segments.length == 4 &&
      isWord segments 3 "revoke" then
    withMethod method " /v1/incident-tokens/\x7btoken_id\x7d/revoke"
  else if isWord segments 1 "sharing-grants" then
    redactedRecordPath method segments "sharing-grants" "grant_id"
  else if isWord segments 1 "wrapped-keys" then
    redactedRecordPath method segments "wrapped-keys" "wrapped_key_id"
  else withMethod method " /v1/\x7broute\x7d"

/-- `safeLogPath`; `pattern` is `r.Pattern`, `path` is `r.URL.Path`. -/
def safeLogPath (method : String) (pattern path : List Char) : List Char :=
  if pattern ≠ [] ∧ pattern ≠ ['/'] then pattern
  else if "/i/".toList.isPrefixOf path then redactedViewerPath path "/i".toList
  else if "/e/".toList.isPrefixOf path then redactedViewerPath path "/e".toList
  else if "/admin/api/".toList.isPrefixOf path then
    redactedAdminAPIPath method (trimmedSegments path)
  else if "/v1/".toList.isPrefixOf path then redactedMainAPIPath method path
  else if pattern ≠ [] then pattern
  else path

/-! ### The chain of middlewares -/

/-- The name of the wildcard that follows a piece. -/
def paramName : Option Piece → String
  | some .contactPublicKeys => "public_key_id"
  | some .accountRecipientKeys => "recipient_key_id"
  | some .trustedContactRelationships => "relationship_id"
  | some .incidents => "incident_id"
  | some .streams => "stream_id"
  | some .chunks => "media_type"
  | some .param => "chunk_index"
  | some .incidentTokens => "token_id"
  | some .sharingGrants => "grant_id"
  | some .wrappedKeys => "wrapped_key_id"
  | _ => "token"

/-- The pieces of a pattern, each with the slash before it. -/
def patternPieces : Option Piece → List Piece → List Char
  | _, [] => []
  | before, w :: pieces =>
    '/' :: (if w = .param then "\x7b".toList ++ (paramName before).toList ++ "\x7d".toList
      else w.text.toList) ++ patternPieces (some w) pieces

/-- The text of a registered pattern. -/
def patternText (P : Pattern Route) : List Char :=
  match P.method with
  | some method => method.toList ++ ' ' :: patternPieces none P.handler.pieces
  | none => patternPieces none P.handler.pieces

example : patternText (handleFunc "GET" [.i, .param, .streams, .param, .download]
      .downloadIncidentViewerStreamBundle).pattern =
    "GET /i/\x7btoken\x7d/streams/\x7bstream_id\x7d/download".toList := by
  decide +kernel

/-- `r.Pattern` as `findHandler` sets it. -/
def muxPattern (method : String) (escapedPath : List Char) : List Char :=
  let path := if method = "CONNECT" then escapedPath else cleanPath escapedPath
  if slashRedirect mainRoutes method path then cleanPath (pathUnescape escapedPath) ++ ['/']
  else ((lookup mainRoutes method path).map patternText).getD []

/-- A request as the chain reads it; the escapes of its path are valid. -/
structure Incoming where
  method : String
  escapedPath : List Char
  /-- The header `Origin`, trimmed. -/
  origin : String
  /-- The header `Access-Control-Request-Method`. -/
  requestMethod : String
  valid : (unescape escapedPath).isSome = true

/-- `r.URL.Path`. -/
def Incoming.path (req : Incoming) : List Char := pathUnescape req.escapedPath

/-- The configuration and the state of the limiters: the classes whose requests are
    refused, for a limit that is reached or a limiter that fails. -/
structure Chain where
  /-- Web authentication is enabled with an allowed origin. -/
  cors : Bool
  publicRefuses : PublicRateLimitClass → Bool
  mainRefuses : MainRateLimitClass → Bool

/-- Where a request ends. -/
inductive Exit
  | cors | publicLimiter | mainLimiter | mux
  deriving DecidableEq, Repr

/-- `webCORSMiddleware` answers the request. -/
def Chain.preflight (chain : Chain) (req : Incoming) : Bool :=
  chain.cors && req.origin != "" && req.method == "OPTIONS" && req.requestMethod != ""

/-- `mainRoutes`: the middlewares in their order. -/
def Chain.exitOf (chain : Chain) (req : Incoming) : Exit :=
  if chain.preflight req then .cors
  else if (classifyPublicViewerRateLimit req.method req.escapedPath).any chain.publicRefuses then
    .publicLimiter
  else if (classifyMainAPIRateLimit req.method req.escapedPath).any
      (fun limit => limit != .bootstrap && chain.mainRefuses limit) then .mainLimiter
  else .mux

/-- `loggingMiddleware`: the path of the log line of a request. -/
def Chain.loggedPath (chain : Chain) (req : Incoming) : List Char :=
  safeLogPath req.method
    (if chain.exitOf req = .mux then muxPattern req.method req.escapedPath else []) req.path

/-! ### Suffixes of joined paths -/

/-- The last pieces of two paths that are equal. -/
theorem append_slash_inj {x y d e : List Char} (hd : '/' ∉ d) (he : '/' ∉ e)
    (h : x ++ '/' :: d = y ++ '/' :: e) : x = y ∧ d = e := by
  have hsplit := congrArg (List.splitOn '/') h
  rw [List.splitOn_append_cons_self, List.splitOn_append_cons_self, List.splitOn_eq_singleton hd,
    List.splitOn_eq_singleton he] at hsplit
  obtain rfl : d = e := by simpa using (List.append_inj' hsplit rfl).2
  exact ⟨List.append_cancel_right h, rfl⟩

/-- A suffix ends with the last piece of the path. -/
theorem hasSuffix_piece {x d w : List Char} (hd : '/' ∉ d) (hw : '/' ∉ w) (p : List Char) :
    hasSuffix (x ++ '/' :: d) (p ++ '/' :: w) = (decide (w = d) && hasSuffix x p) := by
  rw [hasSuffix, hasSuffix, ← Bool.decide_and]
  refine decide_eq_decide.mpr ⟨?_, ?_⟩
  · rintro ⟨t, ht⟩
    rw [← List.append_assoc] at ht
    obtain ⟨hx, rfl⟩ := append_slash_inj hw hd ht
    exact ⟨rfl, t, hx⟩
  · rintro ⟨rfl, t, rfl⟩
    exact ⟨t, by rw [List.append_assoc]⟩

/-- A last piece is found whatever stands before the slash. -/
theorem hasSuffix_open (y : List Char) {s w : List Char} (hw : '/' ∉ w) :
    hasSuffix (y ++ '/' :: s) ('/' :: w) = hasSuffix ('/' :: s) ('/' :: w) := by
  refine decide_eq_decide.mpr ⟨fun h => ?_, fun h => h.trans (List.suffix_append _ _)⟩
  rcases List.suffix_or_suffix_of_suffix h (List.suffix_append y ('/' :: s)) with h | h
  · exact h
  · rcases List.suffix_cons_iff.mp h with heq | h
    · exact heq ▸ List.suffix_rfl
    · exact (hw (h.subset List.mem_cons_self)).elim

/-! ### Redacted viewer paths -/

section Redacted

variable (x base : List Char)

/-- A path that ends with a word. -/
theorem redactedViewerPath_last {d : List Char} (hd : '/' ∉ d) :
    redactedViewerPath (x ++ '/' :: d) base =
      if d = "data".toList then base ++ "/\x7btoken\x7d/data".toList
      else if d = "viewer-payload".toList then base ++ "/\x7btoken\x7d/viewer-payload".toList
      else if d = "download".toList ∧ hasSuffix x "/incident".toList then
        base ++ "/\x7btoken\x7d/incident/download".toList
      else if contains (x ++ '/' :: d) "/streams/".toList ∧ d = "download".toList then
        base ++ "/\x7btoken\x7d/streams/\x7bstream_id\x7d/download".toList
      else base ++ "/\x7btoken\x7d".toList := by
  have hnil : hasSuffix x [] = true := decide_eq_true (List.nil_suffix)
  have hone : ∀ w : List Char, '/' ∉ w → hasSuffix (x ++ '/' :: d) ('/' :: w) = decide (w = d) := by
    intro w hw
    have h := hasSuffix_piece hd hw ([] : List Char) (x := x)
    rwa [List.nil_append, hnil, Bool.and_true] at h
  have hdata := hone "data".toList (by decide)
  have hpayload := hone "viewer-payload".toList (by decide)
  have hdownload := hone "download".toList (by decide)
  have hincident : hasSuffix (x ++ '/' :: d) "/incident/download".toList =
      (decide ("download".toList = d) && hasSuffix x "/incident".toList) :=
    hasSuffix_piece hd (w := "download".toList) (by decide) "/incident".toList
  unfold redactedViewerPath
  rw [show "/data".toList = '/' :: "data".toList from rfl, hdata,
    show "/viewer-payload".toList = '/' :: "viewer-payload".toList from rfl, hpayload, hincident,
    show "/download".toList = '/' :: "download".toList from rfl, hdownload]
  simp only [decide_eq_true_eq, Bool.and_eq_true, eq_comm (b := d)]

/-- The page of a token that is no word of the viewer. -/
theorem redactedViewerPath_page {a s : List Char} (ha : a = "i".toList ∨ a = "e".toList)
    (hs : '/' ∉ s) (hdata : s ≠ "data".toList) (hpayload : s ≠ "viewer-payload".toList) :
    redactedViewerPath ('/' :: a ++ '/' :: s) base = base ++ "/\x7btoken\x7d".toList := by
  have hincident : hasSuffix ('/' :: a) "/incident".toList = false := by
    rcases ha with rfl | rfl <;> decide
  have hstreams : s = "download".toList →
      contains ('/' :: a ++ '/' :: s) "/streams/".toList = false := by
    rintro rfl
    rcases ha with rfl | rfl <;> decide +kernel
  rw [redactedViewerPath_last _ _ hs, if_neg hdata, if_neg hpayload,
    if_neg fun h => by rw [hincident] at h; exact absurd h.2 (by decide),
    if_neg fun h => by rw [hstreams h.2] at h; exact absurd h.1 (by decide)]

/-- The download of a stream is logged as such, unless its identifier ends as the
    download of the incident does. -/
theorem redactedViewerPath_stream (id : List Char) :
    redactedViewerPath (x ++ "/streams/".toList ++ id ++ "/download".toList) base =
      if hasSuffix ('/' :: id) "/incident".toList then
        base ++ "/\x7btoken\x7d/incident/download".toList
      else base ++ "/\x7btoken\x7d/streams/\x7bstream_id\x7d/download".toList := by
  have hcut : x ++ "/streams/".toList ++ id = x ++ "/streams".toList ++ '/' :: id := by
    simp
  have hopen : hasSuffix (x ++ "/streams/".toList ++ id) "/incident".toList =
      hasSuffix ('/' :: id) "/incident".toList := by
    rw [hcut]
    exact hasSuffix_open (w := "incident".toList) _ (by decide)
  have hstreams : contains (x ++ "/streams/".toList ++ id ++ '/' :: "download".toList)
      "/streams/".toList = true := by
    refine decide_eq_true ⟨x, id ++ '/' :: "download".toList, ?_⟩
    simp
  show redactedViewerPath (x ++ "/streams/".toList ++ id ++ '/' :: "download".toList) base = _
  rw [redactedViewerPath_last _ _ (by decide), if_neg (by decide), if_neg (by decide), hopen,
    hstreams]
  simp only [true_and, and_self, if_true]

end Redacted

/-! ### Requests that carry a token -/

/-- The cleaned path of a request consists of `head`, the token and `rest`, and matches
    the route. -/
structure CarriesToken (r : Route) (head token : List Char) (rest : List (List Char))
    (req : Incoming) : Prop where
  cleaned : cleanPath req.escapedPath = '/' :: ['/'].intercalate (head :: token :: rest)
  pieces : ∀ s ∈ head :: token :: rest, '/' ∉ s
  matched : List.Forall₂ SegMatches (segments (cleanPath req.escapedPath)) (r.pieces.map Piece.seg)

/-- What follows the token in the routes of the viewer. -/
def viewerTails : List (List Piece) :=
  [[], [.data], [.viewerPayload], [.streams, .param, .download], [.incident, .download]]

/-- A route of the viewer with a token. -/
def Route.viewerShaped (r : Route) : Bool :=
  match r.pieces with
  | w :: .param :: tail => (w == .i || w == .e) && viewerTails.contains tail && r.method == "GET"
  | _ => false

theorem viewer_shape : registerPublicIncidentViewerRoutes.all
    (fun r => r == staticRoute || r.viewerShaped && mainTable.contains r) = true := by
  decide +kernel

/-- No route of the table begins with a wildcard, and after `i` and `e` none goes on
    with a word. -/
theorem open_second : mainRoutes.all (fun P => match P.segs with
    | .wild :: _ => false
    | .literal a :: .literal _ :: _ => a != "i".toList && a != "e".toList
    | _ => true) = true := by
  decide +kernel

variable {r : Route} {head token : List Char} {rest : List (List Char)} {req : Incoming}

theorem CarriesToken.segments_eq (h : CarriesToken r head token rest req) :
    segments (cleanPath req.escapedPath) = (head :: token :: rest).map pathUnescape := by
  have hmatched := h.matched
  rw [h.cleaned, segments, List.splitOn_intercalate '/' h.pieces (by simp)] at hmatched ⊢
  refine decodePieces_eq_map fun hlast => ?_
  obtain ⟨w, -, hw⟩ := List.mem_map.mp (literal_slash hmatched (getLast?_decodePieces hlast))
  exact w.seg_ne_slash hw

/-- The route has the shape of a viewer route, and the decoded pieces match it. -/
theorem CarriesToken.shape (hr : r ∈ registerPublicIncidentViewerRoutes)
    (h : CarriesToken r head token rest req) :
    r ∈ mainTable ∧ r.method = "GET" ∧
      (pathUnescape head = "i".toList ∨ pathUnescape head = "e".toList) ∧
      pathUnescape token ≠ ['/'] ∧
      ∃ tail ∈ viewerTails,
        List.Forall₂ SegMatches (rest.map pathUnescape) (tail.map Piece.seg) := by
  have hmatched := h.matched
  rw [h.segments_eq] at hmatched
  have hshape := List.all_eq_true.mp viewer_shape r hr
  rw [Bool.or_eq_true, Bool.and_eq_true, beq_iff_eq, List.contains_iff_mem] at hshape
  rcases hshape with rfl | ⟨hshape, hmem⟩
  · -- the static files carry no token
    exfalso
    cases hmatched with
    | cons _ hsecond =>
      cases hsecond with
      | cons hmulti _ => cases hmulti
  · unfold Route.viewerShaped at hshape
    split at hshape
    next w tail hpieces =>
      simp only [Bool.and_eq_true, Bool.or_eq_true, beq_iff_eq, List.contains_iff_mem] at hshape
      obtain ⟨⟨hw, htail⟩, hget⟩ := hshape
      rw [hpieces] at hmatched
      cases hmatched with
      | cons hhead hrest =>
        cases hrest with
        | cons htoken hrest =>
          have hword : pathUnescape head = "i".toList ∨ pathUnescape head = "e".toList := by
            rcases hw with rfl | rfl
            · exact .inl hhead.eq
            · exact .inr hhead.eq
          have htoken' : pathUnescape token ≠ ['/'] := by
            cases htoken with
            | wild hne => exact hne
          exact ⟨hmem, hget, hword, htoken', tail, htail, hrest⟩
    · cases hshape

/-! ### The pattern of a viewer route -/

/-- After `i` or `e` the multiplexer does not look at the next segment. -/
theorem lookup_token {path path' : List Char} {a s s' : List Char} {tail : List (List Char)}
    (ha : a = "i".toList ∨ a = "e".toList) (hs : s ≠ ['/']) (hs' : s' ≠ ['/'])
    (hpath : segments path = a :: s :: tail) (hpath' : segments path' = a :: s' :: tail)
    (method : String) : lookup mainRoutes method path = lookup mainRoutes method path' := by
  have hmatch : ∀ m, matchPath (segments path) (ofMethod mainRoutes m) =
      matchPath (segments path') (ofMethod mainRoutes m) := by
    intro m
    have hopen : ∀ x ∈ ofMethod mainRoutes m, (match x.1 with
        | .wild :: _ => false
        | .literal a :: .literal _ :: _ => a != "i".toList && a != "e".toList
        | _ => true) = true := by
      intro x hx
      obtain ⟨P, hP, rfl⟩ := List.mem_map.mp hx
      exact List.all_eq_true.mp open_second P (List.mem_filter.mp hP).1
    rw [hpath, hpath']
    refine matchPath_second_wild hs hs' (fun x hx rest hwild => ?_) fun x hx y rest hword => ?_
    · have h := hopen x hx
      rw [hwild] at h
      cases h
    · have h := hopen x hx
      rw [hword] at h
      rcases ha with rfl | rfl <;> simp at h
  rw [lookup, lookup, hmatch, hmatch, hmatch]

variable {method : String}

/-- A path that matches a route for `GET` is found through a pattern with a method. -/
theorem lookup_get {path : List Char} (hr : r ∈ mainTable) (hget : r.method = "GET")
    (hmatched : List.Forall₂ SegMatches (segments path) (r.pieces.map Piece.seg))
    (hmethod : method = "GET" ∨ method = "HEAD") :
    ∃ P, lookup mainRoutes method path = some P ∧ P.method ≠ none := by
  have hfound : (matchPath (segments path) (ofMethod mainRoutes (some "GET"))).isSome = true := by
    refine matchPath_isSome (P := r.pattern) ?_ hmatched
    refine List.mem_map.mpr ⟨r.pattern, List.mem_filter.mpr ⟨?_, ?_⟩, rfl⟩
    · exact List.mem_append_left _ (List.mem_map_of_mem hr)
    · simp [Route.pattern, hget]
  obtain ⟨P, hP⟩ := Option.isSome_iff_exists.mp hfound
  have hown : P.method ≠ none := by
    rw [(ofMethod_some hP).2.1]
    exact Option.some_ne_none _
  rcases hmethod with rfl | rfl
  · exact ⟨P, by rw [lookup, hP, Option.some_or], hown⟩
  · -- patterns for `HEAD` itself come first
    rw [lookup]
    cases hhead : matchPath (segments path) (ofMethod mainRoutes (some "HEAD")) with
    | none => exact ⟨P, by rw [if_pos rfl, hP, Option.none_or, Option.some_or], hown⟩
    | some Q =>
      refine ⟨Q, Option.some_or, ?_⟩
      rw [(ofMethod_some hhead).2.1]
      exact Option.some_ne_none _

/-- The subtrees of the table are that of the static files and the root. -/
theorem subtree_first {path : List Char} {a : List Char} {tail : List (List Char)}
    (ha : a = "i".toList ∨ a = "e".toList) (hsegs : segments path = a :: tail)
    {P : Pattern Route} (hlookup : lookup mainRoutes method path = some P)
    (hmulti : Seg.multi ∈ P.segs) : P.segs = [.multi] := by
  by_cases hown : P.method = none
  · obtain ⟨hmem, -⟩ := lookup_some hlookup
    rcases List.mem_append.mp hmem with hmem | hlast
    · obtain ⟨r, -, rfl⟩ := List.mem_map.mp hmem
      cases hown
    · rw [List.mem_singleton.mp hlast]
  · exfalso
    obtain ⟨hr, hpattern, hmatch, -⟩ := lookup_route hlookup hown
    have hstatic := List.all_eq_true.mp static_of_subtree _ hr
    have hsubtree : .subtree ∈ P.handler.pieces := by
      rw [hpattern] at hmulti
      obtain ⟨w, hw, hseg⟩ := List.mem_map.mp hmulti
      exact Piece.subtree_of_seg hseg ▸ hw
    rw [List.contains_iff_mem.mpr hsubtree, Bool.not_true, Bool.false_or, beq_iff_eq] at hstatic
    rw [hstatic, hsegs] at hmatch
    -- the first segment would have to be `static`
    have hfirst : a = "static".toList := hmatch.head_literal
    rcases ha with rfl | rfl <;> exact absurd hfirst (by decide)

/-- No slash is added to a path with two pieces that begins with `i` or `e`. -/
theorem not_slashRedirect {a q : List Char}
    (ha : pathUnescape a = "i".toList ∨ pathUnescape a = "e".toList) (hslash : '/' ∉ a)
    (method : String) : slashRedirect mainRoutes method ('/' :: (a ++ '/' :: q)) = false := by
  have hsegs : ∃ tail, segments ('/' :: (a ++ '/' :: q) ++ ['/']) = pathUnescape a :: tail := by
    obtain ⟨b, l, hl⟩ := List.exists_cons_of_ne_nil (List.splitOn_ne_nil '/' (q ++ ['/']))
    refine ⟨decodePieces (b :: l), ?_⟩
    rw [List.cons_append, List.append_assoc, List.cons_append, segments,
      List.splitOn_append_cons_self_of_not_mem hslash, hl]
    rfl
  obtain ⟨tail, hsegs⟩ := hsegs
  have hexact : exactMatch ('/' :: (a ++ '/' :: q) ++ ['/'])
      (lookup mainRoutes method ('/' :: (a ++ '/' :: q) ++ ['/'])) = false := by
    cases hlookup : lookup mainRoutes method ('/' :: (a ++ '/' :: q) ++ ['/']) with
    | none => rfl
    | some P =>
      obtain ⟨hmem, hmatch, -⟩ := lookup_some hlookup
      have hmulti : Seg.multi ∈ P.segs := by
        -- otherwise a piece would have to be a slash
        by_contra hmulti
        have hliteral := PathMatches.not_trailing (hmatch.exact hmulti)
        rcases List.mem_append.mp hmem with hmem | hlast
        · obtain ⟨r, -, rfl⟩ := List.mem_map.mp hmem
          obtain ⟨w, -, hw⟩ := List.mem_map.mp hliteral
          exact w.seg_ne_slash hw
        · rw [List.mem_singleton.mp hlast] at hmulti
          exact hmulti List.mem_cons_self
      have hroot := subtree_first ha hsegs hlookup hmulti
      have hcount : 2 ≤ ('/' :: (a ++ '/' :: q) ++ ['/']).count '/' := by
        simp
        omega
      have hlength : (P.segs.length == ('/' :: (a ++ '/' :: q) ++ ['/']).count '/') = false := by
        rw [hroot, beq_eq_false_iff_ne]
        exact fun h => absurd (h ▸ hcount) (by decide)
      simp only [exactMatch, hlength, Bool.and_false]
      rw [hroot]
      rfl
  rw [slashRedirect, hexact, Bool.and_false]

/-- The pattern of a request that carries a token. -/
theorem CarriesToken.muxPattern_eq (hr : r ∈ registerPublicIncidentViewerRoutes)
    (h : CarriesToken r head token rest req)
    (hpath : method ≠ "CONNECT" ∨ cleanPath req.escapedPath = req.escapedPath) :
    muxPattern method req.escapedPath =
      ((lookup mainRoutes method (cleanPath req.escapedPath)).map patternText).getD [] := by
  obtain ⟨-, -, hword, -⟩ := h.shape hr
  have hread : (if method = "CONNECT" then req.escapedPath else cleanPath req.escapedPath) =
      cleanPath req.escapedPath := by
    by_cases hconnect : method = "CONNECT"
    · rw [if_pos hconnect, hpath.resolve_left (not_not.mpr hconnect)]
    · rw [if_neg hconnect]
  have hslash : slashRedirect mainRoutes method (cleanPath req.escapedPath) = false := by
    have hjoin : cleanPath req.escapedPath =
        '/' :: (head ++ '/' :: ['/'].intercalate (token :: rest)) := by
      rw [h.cleaned]
      simp [List.intercalate]
    rw [hjoin]
    exact not_slashRedirect hword (h.pieces head List.mem_cons_self) method
  simp only [muxPattern, hread, hslash, Bool.false_eq_true, if_false]

/-- A pattern with a method is logged as it is. -/
theorem safeLogPath_own {P : Pattern Route} (hown : P.method ≠ none) (method : String)
    (path : List Char) : safeLogPath method (patternText P) path = patternText P := by
  obtain ⟨m, hm⟩ := Option.ne_none_iff_exists'.mp hown
  have htext : patternText P ≠ [] ∧ patternText P ≠ ['/'] := by
    simp only [patternText, hm]
    cases m.toList with
    | nil | cons => simp
  rw [safeLogPath, if_pos htext]

/-! ### Clean paths -/

/-- The segments of a clean path, as the classifiers read it. -/
theorem CarriesToken.trimmed (h : CarriesToken r head token rest req)
    (hclean : cleanPath req.escapedPath = req.escapedPath) :
    trimmedSegments req.escapedPath = head :: token :: rest := by
  have hmatched := h.matched
  rw [hclean] at hmatched
  have htrim := eq_trimSlashes_of_exact hclean hmatched
  have hcleaned := h.cleaned
  rw [hclean, htrim] at hcleaned
  rw [trimmedSegments, (List.cons.inj hcleaned).2, List.splitOn_intercalate '/' h.pieces (by simp)]

/-- The classes of a clean path that carries a token: none of the main API, and a public
    one in which the token plays no part. -/
theorem CarriesToken.classes (hr : r ∈ registerPublicIncidentViewerRoutes)
    (h : CarriesToken r head token rest req)
    (hclean : cleanPath req.escapedPath = req.escapedPath) (method : String) :
    classifyMainAPIRateLimit method req.escapedPath = none ∧
      classifyPublicViewerRateLimit method req.escapedPath =
        if method != "GET" && method != "HEAD" then none
        else classifyPublicViewerSegments (head :: [] :: rest) := by
  obtain ⟨-, -, hword, -⟩ := h.shape hr
  have hother : ∀ word : String, pathUnescape word.toList = word.toList → word ≠ "i" → word ≠ "e" →
      head ≠ word.toList := by
    rintro word hplain hi he rfl
    rw [hplain] at hword
    exact hword.elim (fun h => hi (String.toList_inj.mp h)) fun h => he (String.toList_inj.mp h)
  have hv1 : isWord (head :: token :: rest) 0 "v1" = false := by
    simpa [isWord] using hother "v1" (by decide) (by decide) (by decide)
  have hstatic : "/static/".toList.isPrefixOf req.escapedPath = false := by
    by_contra hstatic
    rw [Bool.not_eq_false, ← hclean, h.cleaned] at hstatic
    obtain ⟨tail, htail⟩ := splitOn_of_static hstatic
    rw [List.splitOn_intercalate '/' h.pieces (by simp)] at htail
    exact hother "static" (by decide) (by decide) (by decide) (List.cons.inj htail).1
  constructor
  · rw [classifyMainAPIRateLimit, h.trimmed hclean, classifyMainAPISegments, hv1, Bool.not_false,
      Bool.or_true, if_pos rfl]
  · rw [classifyPublicViewerRateLimit, hstatic, h.trimmed hclean]
    rfl

/-- `r.URL.Path` of a clean path. -/
theorem CarriesToken.path_eq (h : CarriesToken r head token rest req)
    (hclean : cleanPath req.escapedPath = req.escapedPath) :
    req.path = '/' :: ['/'].intercalate ((head :: token :: rest).map pathUnescape) := by
  have hjoin : ∀ l : List (List Char), l ≠ [] →
      ['/'].intercalate ([] :: l) = '/' :: ['/'].intercalate l := by
    intro l hl
    obtain ⟨t, l, rfl⟩ := List.exists_cons_of_ne_nil hl
    simp [List.intercalate]
  have hpath : req.escapedPath = ['/'].intercalate ([] :: head :: token :: rest) := by
    rw [hjoin _ (by simp), ← h.cleaned, hclean]
  have hvalid := req.valid
  rw [hpath] at hvalid
  rw [Incoming.path, hpath, pathUnescape_join (by simp) hvalid, List.map_cons]
  exact hjoin _ (by simp)

/-- The decoded token is no word that the redaction looks for. -/
def PlainToken (token : List Char) : Prop :=
  '/' ∉ pathUnescape token ∧ pathUnescape token ≠ "data".toList ∧
    pathUnescape token ≠ "viewer-payload".toList

/-- The redacted path of a viewer route depends on what follows the token only. -/
theorem redacted_token {a : List Char} (ha : a = "i".toList ∨ a = "e".toList) {tail : List Piece}
    (htail : tail ∈ viewerTails) {ds : List (List Char)}
    (hds : List.Forall₂ SegMatches ds (tail.map Piece.seg)) (base : List Char) :
    ∃ out, ∀ token, (ds = [] → PlainToken token) →
      redactedViewerPath ('/' :: ['/'].intercalate (a :: pathUnescape token :: ds)) base = out := by
  have hone : ∀ s d : List Char, '/' :: ['/'].intercalate [a, s, d] =
      ('/' :: a ++ '/' :: s) ++ '/' :: d := by
    intro s d
    simp [List.intercalate]
  simp only [viewerTails, List.mem_cons, List.not_mem_nil, or_false] at htail
  rcases htail with rfl | rfl | rfl | rfl | rfl
  · cases hds
    refine ⟨base ++ "/\x7btoken\x7d".toList, fun token hplain => ?_⟩
    obtain ⟨hslash, hdata, hpayload⟩ := hplain rfl
    have hjoin : '/' :: ['/'].intercalate [a, pathUnescape token] =
        '/' :: a ++ '/' :: pathUnescape token := by
      simp [List.intercalate]
    rw [hjoin]
    exact redactedViewerPath_page base ha hslash hdata hpayload
  · obtain _ | ⟨hd, ⟨⟩⟩ := hds
    obtain rfl : _ = "data".toList := hd.eq
    refine ⟨base ++ "/\x7btoken\x7d/data".toList, fun token _ => ?_⟩
    rw [hone, redactedViewerPath_last _ _ (by decide), if_pos rfl]
  · obtain _ | ⟨hd, ⟨⟩⟩ := hds
    obtain rfl : _ = "viewer-payload".toList := hd.eq
    refine ⟨base ++ "/\x7btoken\x7d/viewer-payload".toList, fun token _ => ?_⟩
    rw [hone, redactedViewerPath_last _ _ (by decide), if_neg (by decide), if_pos rfl]
  · obtain _ | ⟨hd, _ | ⟨-, _ | ⟨he, ⟨⟩⟩⟩⟩ := hds
    obtain rfl : _ = "streams".toList := hd.eq
    obtain rfl : _ = "download".toList := he.eq
    rename_i id
    refine ⟨if hasSuffix ('/' :: id) "/incident".toList then
        base ++ "/\x7btoken\x7d/incident/download".toList
      else base ++ "/\x7btoken\x7d/streams/\x7bstream_id\x7d/download".toList, fun token _ => ?_⟩
    have hjoin : '/' :: ['/'].intercalate
          [a, pathUnescape token, "streams".toList, id, "download".toList] =
        ('/' :: a ++ '/' :: pathUnescape token) ++ "/streams/".toList ++ id ++
          "/download".toList := by
      simp [List.intercalate]
    rw [hjoin]
    exact redactedViewerPath_stream _ base id
  · obtain _ | ⟨hd, _ | ⟨he, ⟨⟩⟩⟩ := hds
    obtain rfl : _ = "incident".toList := hd.eq
    obtain rfl : _ = "download".toList := he.eq
    refine ⟨base ++ "/\x7btoken\x7d/incident/download".toList, fun token _ => ?_⟩
    have hjoin : '/' :: ['/'].intercalate
          [a, pathUnescape token, "incident".toList, "download".toList] =
        (('/' :: a ++ '/' :: pathUnescape token) ++ "/incident".toList) ++
          '/' :: "download".toList := by
      simp [List.intercalate]
    have hincident : hasSuffix (('/' :: a ++ '/' :: pathUnescape token) ++ "/incident".toList)
        "/incident".toList = true := decide_eq_true (List.suffix_append _ _)
    rw [hjoin, redactedViewerPath_last _ _ (by decide), if_neg (by decide), if_neg (by decide),
      if_pos ⟨rfl, hincident⟩]

/-- What is logged of a path that begins with `i` or `e`. -/
theorem safeLogPath_viewer {a : List Char} (ha : a = "i".toList ∨ a = "e".toList) (method : String)
    (pattern below : List Char) : safeLogPath method pattern ('/' :: (a ++ '/' :: below)) =
      if pattern ≠ [] ∧ pattern ≠ ['/'] then pattern
      else redactedViewerPath ('/' :: (a ++ '/' :: below)) ('/' :: a) := by
  rcases ha with rfl | rfl <;> rfl

/-- The token plays no part in it, whatever the pattern. -/
theorem safeLogPath_token {a : List Char} (ha : a = "i".toList ∨ a = "e".toList)
    {tail : List Piece} (htail : tail ∈ viewerTails) {ds : List (List Char)}
    (hds : List.Forall₂ SegMatches ds (tail.map Piece.seg)) {token token' path path' : List Char}
    (hplain : ds = [] → PlainToken token) (hplain' : ds = [] → PlainToken token')
    (hpath : path = '/' :: ['/'].intercalate (a :: pathUnescape token :: ds))
    (hpath' : path' = '/' :: ['/'].intercalate (a :: pathUnescape token' :: ds))
    (method : String) (pattern : List Char) :
    safeLogPath method pattern path = safeLogPath method pattern path' := by
  have hbegin : ∀ s, ∃ below, '/' :: ['/'].intercalate (a :: s :: ds) = '/' :: (a ++ '/' :: below) :=
    fun s => ⟨['/'].intercalate (s :: ds), by simp [List.intercalate]⟩
  obtain ⟨below, hbelow⟩ := hbegin (pathUnescape token)
  obtain ⟨below', hbelow'⟩ := hbegin (pathUnescape token')
  obtain ⟨out, hout⟩ := redacted_token ha htail hds ('/' :: a)
  have hredacted := (hout token hplain).trans (hout token' hplain').symm
  rw [hpath, hpath', hbelow, hbelow', safeLogPath_viewer ha, safeLogPath_viewer ha, ← hbelow,
    ← hbelow', hredacted]

/-! ### The log line -/

variable {token₁ token₂ : List Char} {req₁ req₂ : Incoming} {chain : Chain}

/-! ### What is logged otherwise -/

/-- The page of the viewer. -/
def viewerPage : Route := handleFunc "GET" [.i, .param] .incidentViewerPage

theorem carriesToken_page {req : Incoming} {token : List Char}
    (hcleaned : cleanPath req.escapedPath = '/' :: ['/'].intercalate ["i".toList, token])
    (hslash : '/' ∉ token) (hne : token ≠ []) (htoken : pathUnescape token ≠ ['/']) :
    CarriesToken viewerPage "i".toList token [] req := by
  have hpieces : ∀ s ∈ ["i".toList, token], '/' ∉ s := by
    rintro s hs
    rcases List.mem_cons.mp hs with rfl | hs
    · decide
    · rwa [List.mem_singleton.mp hs]
  refine ⟨hcleaned, hpieces, ?_⟩
  rw [hcleaned, segments, List.splitOn_intercalate '/' hpieces (by simp),
    decodePieces_eq_map (by simpa using hne)]
  exact .cons (.literal _) (.cons (.wild htoken) .nil)

/-- A chain that answers preflight requests and refuses nothing. -/
def corsChain : Chain := ⟨true, fun _ => false, fun _ => false⟩

/-- A chain whose public limits are reached. -/
def limitedChain : Chain := ⟨false, fun _ => true, fun _ => false⟩

/-- A request for the viewer page of the token. -/
def pageOf (method token : String) (base : List Char)
    (valid : (unescape (base ++ token.toList)).isSome = true) : Incoming :=
  ⟨method, base ++ token.toList, "https://app.example", "GET", valid⟩

/-- The preflight request for a page behind a doubled slash. -/
def doubled (token : String)
    (valid : (unescape ("//i/".toList ++ token.toList)).isSome = true) : Incoming :=
  pageOf "OPTIONS" token "//i/".toList valid

end SafetyRecorder
