import Mathlib.Data.List.Basic
import Mathlib.Data.List.Forall2

namespace ServeMux

/-!
# A request multiplexer with method and wildcard patterns

The dispatch of `net/http`'s `ServeMux`.  A path is the escaped path of the request,
one character a byte.

* `cleanPath`, `pathUnescape`, `segments` — the path as the multiplexer reads it:
  cleaned first, then cut at the slashes, each piece percent-decoded on its own;
* `matchPath` — the search through the patterns: at each position a literal before a
  wildcard, a wildcard before the rest of a subtree;
* `dispatch` — the handler of a request, or a redirect for a path that is not clean
  or lacks the slash of a subtree;
* `dispatch_handler` — **inversion**: a handler runs only for a clean path whose
  segments match its pattern and for a method its pattern admits;
* `matchPath_isSome`, `matchPath_second_wild` — a path that matches a pattern is found,
  and a segment that every pattern leaves open does not matter.
-/

/-! ### Percent-decoding -/

/-- The value of a hexadecimal digit. -/
def hexValue (c : Char) : Option Nat :=
  if '0' ≤ c ∧ c ≤ '9' then some (c.toNat - '0'.toNat)
  else if 'a' ≤ c ∧ c ≤ 'f' then some (c.toNat - 'a'.toNat + 10)
  else if 'A' ≤ c ∧ c ≤ 'F' then some (c.toNat - 'A'.toNat + 10)
  else none

/-- `url.PathUnescape`; `none` is an invalid escape. -/
def unescape : List Char → Option (List Char)
  | [] => some []
  | c :: rest =>
    if c = '%' then
      match rest with
      | a :: b :: rest => do
        let x ← hexValue a
        let y ← hexValue b
        let tail ← unescape rest
        some (Char.ofNat (16 * x + y) :: tail)
      | _ => none
    else (unescape rest).map (c :: ·)

theorem unescape_char {c : Char} (hc : c ≠ '%') (rest : List Char) :
    unescape (c :: rest) = (unescape rest).map (c :: ·) := by
  conv_lhs => unfold unescape
  rw [if_neg hc]

theorem unescape_escape (a b : Char) (rest : List Char) :
    unescape ('%' :: a :: b :: rest) = (do
      let x ← hexValue a
      let y ← hexValue b
      let tail ← unescape rest
      some (Char.ofNat (16 * x + y) :: tail)) := by
  conv_lhs => unfold unescape
  rw [if_pos rfl]

/-- A piece of a path after decoding; one with an invalid escape stays as it is. -/
def pathUnescape (s : List Char) : List Char := (unescape s).getD s

/-- Decoding leaves what stands before the first escape alone. -/
theorem pathUnescape_append {s : List Char} (hs : '%' ∉ s) (t : List Char) :
    pathUnescape (s ++ t) = s ++ pathUnescape t := by
  have hun : unescape (s ++ t) = (unescape t).map (s ++ ·) := by
    induction s with
    | nil => simp
    | cons c s ih =>
      rw [List.mem_cons, not_or] at hs
      rw [List.cons_append, unescape_char (Ne.symm hs.1), ih hs.2, Option.map_map]
      rfl
  rw [pathUnescape, hun, pathUnescape]
  cases unescape t <;> rfl

/-! ### Clean paths -/

/-- The pieces of `path.Clean` of a rooted path. -/
def cleanStep (kept : List (List Char)) (piece : List Char) : List (List Char) :=
  if piece = [] ∨ piece = ['.'] then kept
  else if piece = ['.', '.'] then kept.dropLast
  else kept ++ [piece]

/-- `cleanPath`: the shortest equivalent path, with its trailing slash kept. -/
def cleanPath (p : List Char) : List Char :=
  if p = [] then ['/']
  else
    let rooted := if p.head? = some '/' then p else '/' :: p
    let np := '/' :: ['/'].intercalate ((rooted.splitOn '/').foldl cleanStep [])
    if rooted.getLast? = some '/' ∧ np ≠ ['/'] then np ++ ['/'] else np

theorem cleanStep_ne_nil {kept : List (List Char)} {piece : List Char} {P : List Char → Prop}
    (hkept : ∀ s ∈ kept, s ≠ [] ∧ P s) (hpiece : P piece) :
    ∀ s ∈ cleanStep kept piece, s ≠ [] ∧ P s := by
  intro s hs
  unfold cleanStep at hs
  split at hs
  · exact hkept s hs
  next hne =>
    split at hs
    · exact hkept s (List.dropLast_subset _ hs)
    · rcases List.mem_append.mp hs with hs | hs
      · exact hkept s hs
      · obtain rfl := List.mem_singleton.mp hs
        exact ⟨fun h => hne (.inl h), hpiece⟩

theorem foldl_cleanStep {P : List Char → Prop} (pieces : List (List Char))
    (hpieces : ∀ s ∈ pieces, P s) (kept : List (List Char)) (hkept : ∀ s ∈ kept, s ≠ [] ∧ P s) :
    ∀ s ∈ pieces.foldl cleanStep kept, s ≠ [] ∧ P s := by
  induction pieces generalizing kept with
  | nil => exact hkept
  | cons piece pieces ih =>
    exact ih (fun s hs => hpieces s (List.mem_cons_of_mem _ hs)) _
      (cleanStep_ne_nil hkept (hpieces piece List.mem_cons_self))

/-- The pieces between separators hold no separator. -/
theorem not_mem_of_mem_splitOn {a : Char} {l s : List Char} (h : s ∈ l.splitOn a) : a ∉ s := by
  induction l generalizing s with
  | nil =>
    rw [List.splitOn_nil, List.mem_singleton] at h
    subst h
    exact List.not_mem_nil
  | cons c l ih =>
    rw [List.splitOn_cons_eq_if_modifyHead] at h
    split at h
    · rcases List.mem_cons.mp h with rfl | h
      · exact List.not_mem_nil
      · exact ih h
    next hc =>
      -- the first piece of the rest grows by a character that is no separator
      obtain ⟨piece, pieces, hl⟩ := List.exists_cons_of_ne_nil (List.splitOn_ne_nil a l)
      rw [hl, List.modifyHead_cons, List.mem_cons] at h
      rcases h with rfl | h
      · rw [List.mem_cons, not_or]
        refine ⟨fun hca => hc (by simp [hca]), ih (hl ▸ List.mem_cons_self)⟩
      · exact ih (hl ▸ List.mem_cons_of_mem _ h)

/-- **A clean path** is the root, or starts with a single slash. -/
theorem cleanPath_head {p : List Char} (h : cleanPath p = p) :
    p = ['/'] ∨ ∃ c q, p = '/' :: c :: q ∧ c ≠ '/' := by
  by_cases hnil : p = []
  · subst hnil
    cases h
  generalize hroot : (if p.head? = some '/' then p else '/' :: p) = rooted
  have hsegs := foldl_cleanStep (P := ('/' ∉ ·)) (rooted.splitOn '/')
    (fun s hs => not_mem_of_mem_splitOn hs) [] (by simp)
  simp only [cleanPath, if_neg hnil, hroot] at h
  generalize (rooted.splitOn '/').foldl cleanStep [] = segs at h hsegs
  cases segs with
  | nil =>
    left
    simpa [List.intercalate] using h.symm
  | cons s segs =>
    right
    obtain ⟨hs, hslash⟩ := hsegs s List.mem_cons_self
    obtain ⟨c, s', rfl⟩ := List.exists_cons_of_ne_nil hs
    have hc : c ≠ '/' := fun hc => hslash (hc ▸ List.mem_cons_self)
    obtain ⟨q, hq⟩ : ∃ q, ['/'].intercalate ((c :: s') :: segs) = c :: q := by
      cases segs with
      | nil => exact ⟨s', by simp [List.intercalate]⟩
      | cons t segs => exact ⟨s' ++ '/' :: ['/'].intercalate (t :: segs), by simp [List.intercalate]⟩
    rw [hq] at h
    split at h
    · exact ⟨c, q ++ ['/'], h.symm, hc⟩
    · exact ⟨c, q, h.symm, hc⟩

/-! ### Segments and patterns -/

/-- The pieces of a path after its first slash: each is decoded, and a trailing slash
    is a segment of its own. -/
def decodePieces : List (List Char) → List (List Char)
  | [] => []
  | [piece] => if piece = [] then [['/']] else [pathUnescape piece]
  | piece :: pieces => pathUnescape piece :: decodePieces pieces

theorem length_decodePieces (l : List (List Char)) : (decodePieces l).length = l.length := by
  induction l with
  | nil => rfl
  | cons piece l ih =>
    cases l with
    | nil =>
      rw [decodePieces]
      split <;> rfl
    | cons piece' l =>
      show (decodePieces (piece' :: l)).length + 1 = (piece' :: l).length + 1
      rw [ih]

/-- The segments of a path. -/
def segments : List Char → List (List Char)
  | [] => []
  | _ :: path => decodePieces (path.splitOn '/')

/-- A segment of a pattern: literal, `{name}`, or the rest of a subtree. -/
inductive Seg
  | literal (s : List Char) | wild | multi
  deriving DecidableEq, Repr

/-- A registered pattern and its handler. -/
structure Pattern (η : Type) where
  /-- `none` is a pattern for every method. -/
  method : Option String
  segs : List Seg
  handler : η
  deriving DecidableEq

variable {η : Type}

/-- What is left of a pattern after a literal segment. -/
def afterLiteral (seg : List Char) : List Seg × Pattern η → Option (List Seg × Pattern η)
  | (.literal s :: rest, P) => if s = seg then some (rest, P) else none
  | _ => none

/-- What is left of a pattern after a wildcard. -/
def afterWild : List Seg × Pattern η → Option (List Seg × Pattern η)
  | (.wild :: rest, P) => some (rest, P)
  | _ => none

/-- The search through the patterns that are left. -/
def matchPath : List (List Char) → List (List Seg × Pattern η) → Option (Pattern η)
  | [], pats => (pats.find? fun x => x.1 = []).map (·.2)
  | seg :: path, pats =>
    (matchPath path (pats.filterMap (afterLiteral seg))).or
      ((if seg = ['/'] then none else matchPath path (pats.filterMap afterWild)).or
        ((pats.find? fun x => x.1.head? = some .multi).map (·.2)))

/-- The patterns of a method. -/
def ofMethod (pats : List (Pattern η)) (method : Option String) : List (List Seg × Pattern η) :=
  (pats.filter (·.method = method)).map fun P => (P.segs, P)

/-- `matchMethodAndPath`: patterns of the method, for `HEAD` those of `GET`, then
    patterns without a method. -/
def lookup (pats : List (Pattern η)) (method : String) (path : List Char) : Option (Pattern η) :=
  (matchPath (segments path) (ofMethod pats (some method))).or
    ((if method = "HEAD" then matchPath (segments path) (ofMethod pats (some "GET")) else none).or
      (matchPath (segments path) (ofMethod pats none)))

/-- `exactMatch`: a subtree matches exactly only its own root. -/
def exactMatch (path : List Char) : Option (Pattern η) → Bool
  | none => false
  | some P =>
    if P.segs.getLast? = some .multi then
      path.getLast? = some '/' && P.segs.length == path.count '/'
    else true

/-- What the multiplexer does with a request. -/
inductive Dispatch (η : Type)
  | handler (P : Pattern η)
  | redirect
  | notFound
  deriving DecidableEq

/-- `matchOrRedirect`: a path without the slash of a registered subtree is redirected. -/
def slashRedirect (pats : List (Pattern η)) (method : String) (path : List Char) : Bool :=
  !exactMatch path (lookup pats method path) && path.getLast? != some '/' && path != [] &&
    exactMatch (path ++ ['/']) (lookup pats method (path ++ ['/']))

/-- `findHandler`. -/
def dispatch (pats : List (Pattern η)) (method : String) (escapedPath : List Char) : Dispatch η :=
  let path := if method = "CONNECT" then escapedPath else cleanPath escapedPath
  if slashRedirect pats method path then .redirect
  else if path ≠ escapedPath then .redirect
  else
    match lookup pats method path with
    | some P => .handler P
    | none => .notFound

/-! ### Inversion -/

/-- A segment of a path matches a segment of a pattern. -/
inductive SegMatches : List Char → Seg → Prop
  | literal (s : List Char) : SegMatches s (.literal s)
  | wild {s : List Char} (h : s ≠ ['/']) : SegMatches s .wild

/-- The segments of a path match those of a pattern without a subtree, or begin with
    what stands before the subtree. -/
def PathMatches (path : List (List Char)) (segs : List Seg) : Prop :=
  List.Forall₂ SegMatches path segs ∨
    ∃ pre rest, segs = pre ++ .multi :: rest ∧ ∃ head tail, path = head ++ tail ∧
      List.Forall₂ SegMatches head pre

variable {path : List (List Char)} {segs : List Seg}

theorem PathMatches.cons {seg : List Char} {g : Seg}
    (hg : SegMatches seg g) (h : PathMatches path segs) : PathMatches (seg :: path) (g :: segs) := by
  rcases h with h | ⟨pre, rest, rfl, head, tail, rfl, h⟩
  · exact .inl (.cons hg h)
  · exact .inr ⟨g :: pre, rest, rfl, seg :: head, tail, rfl, .cons hg h⟩

theorem SegMatches.eq {s lit : List Char} (h : SegMatches s (.literal lit)) : s = lit := by
  cases h
  rfl

/-- The first segment of a path is the literal its pattern begins with. -/
theorem PathMatches.head_literal {s lit : List Char}
    (h : PathMatches (s :: path) (.literal lit :: segs)) : s = lit := by
  rcases h with h | ⟨pre, rest, hsegs, head, tail, hpath, h⟩
  · exact (List.forall₂_cons.mp h).1.eq
  · cases h with
    | nil => cases hsegs
    | cons hseg _ =>
      cases hsegs
      cases hpath
      exact hseg.eq

variable {pats : List (List Seg × Pattern η)} {P : Pattern η}

/-- The search finds one of the patterns, and its segments match. -/
theorem matchPath_some (h : matchPath path pats = some P) :
    ∃ segs, (segs, P) ∈ pats ∧ PathMatches path segs := by
  induction path generalizing pats with
  | nil =>
    obtain ⟨⟨segs, Q⟩, hfind, rfl⟩ := Option.map_eq_some_iff.mp h
    have hnil : segs = [] := by simpa using List.find?_some hfind
    exact ⟨segs, List.mem_of_find?_eq_some hfind, .inl (hnil ▸ .nil)⟩
  | cons seg path ih =>
    rw [matchPath, Option.or_eq_some_iff] at h
    rcases h with hlit | ⟨-, h⟩
    · obtain ⟨segs, hmem, hmatch⟩ := ih hlit
      obtain ⟨⟨full, Q⟩, hfull, hafter⟩ := List.mem_filterMap.mp hmem
      unfold afterLiteral at hafter
      split at hafter
      next s rest R heq =>
        split at hafter
        next hs =>
          cases hafter
          cases heq
          exact ⟨_, hfull, hmatch.cons (hs ▸ .literal s)⟩
        · cases hafter
      · cases hafter
    · rw [Option.or_eq_some_iff] at h
      rcases h with hwild | ⟨-, hmulti⟩
      · split at hwild
        · cases hwild
        next hslash =>
          obtain ⟨segs, hmem, hmatch⟩ := ih hwild
          obtain ⟨⟨full, Q⟩, hfull, hafter⟩ := List.mem_filterMap.mp hmem
          unfold afterWild at hafter
          split at hafter
          next rest R heq =>
            cases hafter
            cases heq
            exact ⟨_, hfull, hmatch.cons (.wild hslash)⟩
          · cases hafter
      · obtain ⟨⟨segs, Q⟩, hfind, rfl⟩ := Option.map_eq_some_iff.mp hmulti
        have hhead : segs.head? = some .multi := by simpa using List.find?_some hfind
        obtain ⟨rest, rfl⟩ := List.head?_eq_some_iff.mp hhead
        exact ⟨_, List.mem_of_find?_eq_some hfind, .inr ⟨[], rest, rfl, [], _, rfl, .nil⟩⟩

theorem ofMethod_some {pats : List (Pattern η)} {method : Option String}
    (h : matchPath path (ofMethod pats method) = some P) :
    P ∈ pats ∧ P.method = method ∧ PathMatches path P.segs := by
  obtain ⟨segs, hmem, hmatch⟩ := matchPath_some h
  obtain ⟨Q, hQ, heq⟩ := List.mem_map.mp hmem
  cases heq
  obtain ⟨hmem, hmethod⟩ := List.mem_filter.mp hQ
  exact ⟨hmem, by simpa using hmethod, hmatch⟩

/-- A looked up pattern is registered, admits the method and matches the path. -/
theorem lookup_some {pats : List (Pattern η)} {method : String} {path : List Char}
    (h : lookup pats method path = some P) :
    P ∈ pats ∧ PathMatches (segments path) P.segs ∧
      (P.method = some method ∨ (method = "HEAD" ∧ P.method = some "GET") ∨ P.method = none) := by
  rw [lookup, Option.or_eq_some_iff] at h
  rcases h with h | ⟨-, h⟩
  · obtain ⟨hmem, hmethod, hmatch⟩ := ofMethod_some h
    exact ⟨hmem, hmatch, .inl hmethod⟩
  · rw [Option.or_eq_some_iff] at h
    rcases h with h | ⟨-, h⟩
    · split at h
      next hhead =>
        obtain ⟨hmem, hmethod, hmatch⟩ := ofMethod_some h
        exact ⟨hmem, hmatch, .inr (.inl ⟨hhead, hmethod⟩)⟩
      · cases h
    · obtain ⟨hmem, hmethod, hmatch⟩ := ofMethod_some h
      exact ⟨hmem, hmatch, .inr (.inr hmethod)⟩

/-- **Inversion.** A handler runs for a path that is clean, unless the method is
    `CONNECT`, and that its pattern was looked up for. -/
theorem dispatch_handler {pats : List (Pattern η)} {method : String} {path : List Char}
    (h : dispatch pats method path = .handler P) :
    (method = "CONNECT" ∨ cleanPath path = path) ∧ lookup pats method path = some P := by
  unfold dispatch at h
  generalize hpath : (if method = "CONNECT" then path else cleanPath path) = cleaned at h
  dsimp only at h
  by_cases hslash : slashRedirect pats method cleaned = true
  · rw [if_pos hslash] at h
    cases h
  by_cases hclean : cleaned = path
  · subst hclean
    rw [if_neg hslash, if_neg (not_not.mpr rfl)] at h
    refine ⟨?_, ?_⟩
    · split at hpath
      next hconnect => exact .inl hconnect
      next => exact .inr hpath
    · split at h
      next Q hQ =>
        cases h
        exact hQ
      · cases h
  · rw [if_neg hslash, if_pos hclean] at h
    cases h

/-- A pattern without a subtree has as many segments as the path, and a trailing slash
    is matched by a literal only. -/
theorem PathMatches.exact (h : PathMatches path segs)
    (hmulti : Seg.multi ∉ segs) : List.Forall₂ SegMatches path segs := by
  rcases h with h | ⟨pre, rest, rfl, -⟩
  · exact h
  · exact (hmulti (List.mem_append_right _ List.mem_cons_self)).elim

variable {pieces : List (List Char)}

/-- A trailing slash is the last segment. -/
theorem getLast?_decodePieces (hlast : pieces.getLast? = some []) :
    (decodePieces pieces).getLast? = some ['/'] := by
  induction pieces with
  | nil => cases hlast
  | cons piece pieces ih =>
    cases pieces with
    | nil =>
      obtain rfl : piece = [] := by simpa using hlast
      rfl
    | cons piece' pieces =>
      rw [List.getLast?_cons_cons] at hlast
      show (pathUnescape piece :: decodePieces (piece' :: pieces)).getLast? = some ['/']
      rw [List.getLast?_cons, ih hlast]
      rfl

/-- Without a trailing slash every piece is decoded. -/
theorem decodePieces_eq_map (hlast : pieces.getLast? ≠ some []) :
    decodePieces pieces = pieces.map pathUnescape := by
  induction pieces with
  | nil => rfl
  | cons piece pieces ih =>
    cases pieces with
    | nil =>
      have hpiece : piece ≠ [] := by simpa using hlast
      simp [decodePieces, hpiece]
    | cons piece' pieces =>
      rw [List.getLast?_cons_cons] at hlast
      show pathUnescape piece :: decodePieces (piece' :: pieces) = _
      rw [ih hlast]
      rfl

/-- The segments of a path with a trailing slash end in that slash. -/
theorem getLast?_segments (path : List Char) : (segments (path ++ ['/'])).getLast? = some ['/'] := by
  cases path with
  | nil => rfl
  | cons c path =>
    rw [List.cons_append, segments]
    apply getLast?_decodePieces
    rw [List.splitOn_append_cons_self, List.splitOn_nil, List.getLast?_append]
    rfl

/-- A trailing slash is matched by a literal only. -/
theorem literal_slash (h : List.Forall₂ SegMatches path segs) (hlast : path.getLast? = some ['/']) :
    Seg.literal ['/'] ∈ segs := by
  obtain ⟨init, rfl⟩ := List.getLast?_eq_some_iff.mp hlast
  have hrev := List.rel_reverse h
  rw [List.reverse_append, List.reverse_singleton, List.singleton_append] at hrev
  generalize hr : segs.reverse = r at hrev
  cases hrev with
  | cons hlast hrest =>
    cases hlast with
    | literal => exact List.mem_reverse.mp (hr ▸ List.mem_cons_self)
    | wild hne => exact (hne rfl).elim

/-- A pattern without a subtree and without a slash for a segment matches no path with
    a trailing slash. -/
theorem PathMatches.not_trailing {path : List Char}
    (h : List.Forall₂ SegMatches (segments (path ++ ['/'])) segs) : Seg.literal ['/'] ∈ segs :=
  literal_slash h (getLast?_segments path)

/-- The first piece of a path is decoded, unless it is a trailing slash. -/
theorem decodePieces_cons {piece : List Char} (hne : piece ≠ []) (pieces : List (List Char)) :
    decodePieces (piece :: pieces) = pathUnescape piece :: decodePieces pieces := by
  cases pieces with
  | nil => simp [decodePieces, hne]
  | cons piece' pieces => rfl

/-- A piece that is followed by a slash is a segment of its own. -/
theorem segments_cons {a : List Char} (ha : '/' ∉ a) (hpct : '%' ∉ a) (path : List Char) :
    segments ('/' :: (a ++ '/' :: path)) = a :: segments ('/' :: path) := by
  rw [segments, List.splitOn_append_cons_self_of_not_mem ha, segments]
  obtain ⟨piece, pieces, hp⟩ := List.exists_cons_of_ne_nil (List.splitOn_ne_nil '/' path)
  rw [hp]
  show pathUnescape a :: decodePieces (piece :: pieces) = a :: decodePieces (piece :: pieces)
  have hdecode := pathUnescape_append hpct []
  rw [List.append_nil, show pathUnescape [] = [] from rfl, List.append_nil] at hdecode
  rw [hdecode]

/-- The first segment of a path begins like the path. -/
theorem segments_prefix {a : List Char} (hne : a ≠ []) (ha : '/' ∉ a) (hpct : '%' ∉ a)
    (rest : List Char) : ∃ s tail, segments ('/' :: (a ++ rest)) = (a ++ s) :: tail := by
  obtain ⟨s, pieces, hpieces⟩ : ∃ s pieces, (a ++ rest).splitOn '/' = (a ++ s) :: pieces := by
    by_cases hslash : '/' ∈ rest
    · obtain ⟨s, t, rfl, hs⟩ := List.eq_append_cons_of_mem hslash
      refine ⟨s, t.splitOn '/', ?_⟩
      rw [← List.append_assoc, List.splitOn_append_cons_self_of_not_mem]
      rw [List.mem_append, not_or]
      exact ⟨ha, hs⟩
    · refine ⟨rest, [], List.splitOn_eq_singleton ?_⟩
      rw [List.mem_append, not_or]
      exact ⟨ha, hslash⟩
  refine ⟨pathUnescape s, decodePieces pieces, ?_⟩
  rw [segments, hpieces, decodePieces_cons (by simp [hne]), pathUnescape_append hpct]

/-! ### Patterns of one shape -/

/-- The search finds a pattern when one of them matches. -/
theorem matchPath_isSome (hmem : (segs, P) ∈ pats)
    (hmatch : List.Forall₂ SegMatches path segs) : (matchPath path pats).isSome = true := by
  induction hmatch generalizing pats with
  | nil =>
    rw [matchPath, Option.isSome_map, List.find?_isSome]
    exact ⟨_, hmem, by simp⟩
  | @cons seg g path segs hseg _ ih =>
    rw [matchPath, Option.isSome_or, Option.isSome_or, Bool.or_eq_true, Bool.or_eq_true]
    cases hseg with
    | literal =>
      exact .inl (ih (List.mem_filterMap.mpr ⟨_, hmem, if_pos rfl⟩))
    | wild hne =>
      rw [if_neg hne]
      exact .inr (.inl (ih (List.mem_filterMap.mpr ⟨_, hmem, rfl⟩)))

/-- Where every pattern goes on with a wildcard after the first segment, the second
    segment does not matter. -/
theorem matchPath_second_wild {a s s' : List Char} {tail : List (List Char)}
    (hs : s ≠ ['/']) (hs' : s' ≠ ['/']) (hfirst : ∀ x ∈ pats, ∀ rest, x.1 ≠ .wild :: rest)
    (hsecond : ∀ x ∈ pats, ∀ y rest, x.1 ≠ .literal a :: .literal y :: rest) :
    matchPath (a :: s :: tail) pats = matchPath (a :: s' :: tail) pats := by
  have hwild : pats.filterMap afterWild = [] := by
    refine List.filterMap_eq_nil_iff.mpr fun x hx => ?_
    unfold afterWild
    split
    · exact (hfirst _ hx _ rfl).elim
    · rfl
  -- after the first segment no pattern has a literal to try
  have hliteral : ∀ t, (pats.filterMap (afterLiteral a)).filterMap (afterLiteral t) = [] := by
    intro t
    refine List.filterMap_eq_nil_iff.mpr fun x hx => ?_
    obtain ⟨y, hy, hafter⟩ := List.mem_filterMap.mp hx
    unfold afterLiteral at hafter ⊢
    split at hafter
    next lit rest P =>
      split at hafter
      next hlit =>
        cases hafter
        split
        next z rest' Q heq =>
          cases heq
          exact (hsecond _ hy z rest' (by rw [hlit])).elim
        · rfl
      · cases hafter
    · cases hafter
  simp only [matchPath, hwild, hliteral, if_neg hs, if_neg hs', List.filterMap_nil]

/-- Decoding goes piece by piece. -/
theorem unescape_append_slash {a b u : List Char} (h : unescape (a ++ '/' :: b) = some u) :
    ∃ v w, unescape a = some v ∧ unescape b = some w ∧ u = v ++ '/' :: w := by
  have hslash : hexValue '/' = none := by decide
  induction a using unescape.induct generalizing u with
  | case1 =>
    rw [List.nil_append, unescape_char (by decide)] at h
    obtain ⟨w, hw, rfl⟩ := Option.map_eq_some_iff.mp h
    exact ⟨[], w, rfl, hw, rfl⟩
  | case2 x y rest ih =>
    simp only [List.cons_append, unescape_escape, Option.bind_eq_bind, Option.bind_eq_some_iff,
      Option.some.injEq] at h
    obtain ⟨n, hn, m, hm, tail, htail, rfl⟩ := h
    obtain ⟨v, w, hv, hw, rfl⟩ := ih htail
    refine ⟨Char.ofNat (16 * n + m) :: v, w, ?_, hw, rfl⟩
    simp [unescape_escape, hn, hm, hv]
  | case3 rest hshort =>
    -- the slash would have to be a digit of the escape
    exfalso
    match rest, hshort with
    | [], _ =>
      cases b with
      | nil => simp [unescape] at h
      | cons y b => simp [unescape_escape, hslash] at h
    | [x], _ => simp [unescape_escape, hslash] at h
    | x :: y :: rest, hshort => exact hshort x y rest rfl
  | case4 c rest hc ih =>
    rw [List.cons_append, unescape_char hc] at h
    obtain ⟨tail, htail, rfl⟩ := Option.map_eq_some_iff.mp h
    obtain ⟨v, w, hv, hw, rfl⟩ := ih htail
    exact ⟨c :: v, w, by rw [unescape_char hc, hv]; rfl, hw, rfl⟩

/-- A path that decodes, decodes piece by piece. -/
theorem pathUnescape_join (hne : pieces ≠ [])
    (hvalid : (unescape (['/'].intercalate pieces)).isSome = true) :
    pathUnescape (['/'].intercalate pieces) = ['/'].intercalate (pieces.map pathUnescape) := by
  induction pieces with
  | nil => exact (hne rfl).elim
  | cons s pieces ih =>
    cases pieces with
    | nil => simp [List.intercalate]
    | cons t pieces =>
      have hjoin : ∀ (s t : List Char) pieces, ['/'].intercalate (s :: t :: pieces) =
          s ++ '/' :: ['/'].intercalate (t :: pieces) := by
        intro s t pieces
        simp [List.intercalate]
      obtain ⟨u, hu⟩ := Option.isSome_iff_exists.mp hvalid
      rw [hjoin] at hu
      obtain ⟨v, w, hv, hw, rfl⟩ := unescape_append_slash hu
      have hrest := ih (by simp) (by rw [hw]; rfl)
      rw [hjoin, List.map_cons, List.map_cons, hjoin, ← List.map_cons, ← hrest]
      simp only [pathUnescape, hu, hv, hw, Option.getD_some]

end ServeMux
