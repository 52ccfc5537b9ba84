import SafetyRecorder.Lib.Text
import SafetyRecorder.Lib.TimeText

namespace SafetyRecorder.Confinement

open Wire (Bytes bytes)
open Text (slash trimSpace)

/-!
# Storage — paths and object keys stay below their root

The path functions of `internal/storage` on arbitrary byte strings, with `path.Clean` and the
two `Join`s they call.

* `clean_of_safe` — a path without dot entries and empty elements is clean already;
* `elements_append` — such a path after a directory adds its elements to those of the directory;
* `storage_paths_confined` — **stored paths tell chunks apart, and files and objects lie below
  the data directory and the prefix**.
-/

/-- `safePathSegment`. -/
def safePathSegment (value : Bytes) : Bool :=
  value != [] && value != [46] && value != [46, 46] && !value.contains slash && !value.contains 92

/-- `path.IsAbs`. -/
def isAbs (p : Bytes) : Bool := p.head? = some slash

/-- One element of a path in `path.Clean`: a dot is dropped, two dots take the last element back. -/
def cleanStep (rooted : Bool) (kept : List Bytes) (element : Bytes) : List Bytes :=
  if element = [] ∨ element = [46] then kept
  else if element = [46, 46] then
    if kept.getLast?.any (· ≠ [46, 46]) then kept.dropLast
    else if rooted then kept
    else kept ++ [element]
  else kept ++ [element]

/-- The elements `path.Clean` keeps. -/
def elements (p : Bytes) : List Bytes := (p.splitOn slash).foldl (cleanStep (isAbs p)) []

/-- `path.Clean`. -/
def clean (p : Bytes) : Bytes :=
  if isAbs p then slash :: [slash].intercalate (elements p)
  else if elements p = [] then [46]
  else [slash].intercalate (elements p)

/-- `path.Join` and `filepath.Join`. -/
def join (elems : List Bytes) : Bytes :=
  let elems := elems.filter (· ≠ [])
  if elems = [] then [] else clean ([slash].intercalate elems)

/-- `%s_%06d.enc` of an index that is not negative. -/
def blobFilename (mediaType : Bytes) (chunkIndex : Nat) : Bytes :=
  mediaType ++ 95 :: ((List.leftpad 6 48 (Decimal.formatNat chunkIndex)).map UInt8.ofNat ++
    bytes ".enc")

/-- `storedBlobPath`; `none` is `ErrUnsafePath`. -/
def storedBlobPath (incidentID streamID mediaType : Bytes) (chunkIndex : Int) : Option Bytes :=
  if chunkIndex < 0 || !safePathSegment incidentID || !safePathSegment mediaType then none
  else if streamID ≠ [] && !safePathSegment streamID then none
  else if streamID ≠ [] then
    some (join [bytes "incidents", incidentID, bytes "streams", streamID,
      blobFilename mediaType chunkIndex.toNat])
  else some (join [bytes "incidents", incidentID, blobFilename mediaType chunkIndex.toNat])

/-- `cleanStoredPath`. -/
def cleanStoredPath (storedPath : Bytes) : Option Bytes :=
  if storedPath = [] ∨ isAbs storedPath ∨ 92 ∈ storedPath then none
  else if (storedPath.splitOn slash).all safePathSegment then some (clean storedPath)
  else none

/-- `Store.fullPath`. -/
def fullPath (dataDir relPath : Bytes) : Option Bytes :=
  (cleanStoredPath relPath).map fun clean => join [dataDir, clean]

/-- `S3Store.objectKey`. -/
def objectKey (keyPrefix storedPath : Bytes) : Option Bytes :=
  (cleanStoredPath storedPath).map fun clean =>
    if keyPrefix = [] then clean else join [keyPrefix, clean]

/-- `strings.TrimSuffix` with a slash. -/
def trimSlash (s : Bytes) : Bytes := if s.getLast? = some slash then s.dropLast else s

/-- `cleanS3Prefix`. -/
def cleanS3Prefix (value : Bytes) : Option Bytes :=
  if trimSpace value = [] then some []
  else if isAbs (trimSpace value) ∨ 92 ∈ trimSpace value then none
  else if ((trimSlash (trimSpace value)).splitOn slash).all safePathSegment then
    some (trimSlash (trimSpace value))
  else none

/-- Every element of the path is a plain name. -/
def Safe (p : Bytes) : Prop := ∀ s ∈ p.splitOn slash, safePathSegment s = true

/-- Strictly inside a directory: the elements of the directory, and at least one plain name
    after them. -/
def Below (dir p : Bytes) : Prop :=
  ∃ names : List Bytes, names ≠ [] ∧ (∀ s ∈ names, safePathSegment s = true) ∧
    p = (if isAbs dir then [slash] else []) ++ [slash].intercalate (elements dir ++ names)

/-- What the paths of the stores satisfy. -/
structure PathLaws : Prop where
  /-- A path determines its chunk. -/
  injective : ∀ i s m k i' s' m' k' p, storedBlobPath i s m k = some p →
    storedBlobPath i' s' m' k' = some p → i = i' ∧ s = s' ∧ m = m' ∧ k = k'
  /-- The paths that are handed out are accepted unchanged. -/
  accepted : ∀ i s m k p, storedBlobPath i s m k = some p → cleanStoredPath p = some p
  /-- A file lies strictly inside the data directory. -/
  inside : ∀ dataDir stored p, fullPath dataDir stored = some p → Below dataDir p
  /-- An object lies strictly under the prefix. -/
  under : ∀ raw keyPrefix stored key, cleanS3Prefix raw = some keyPrefix →
    objectKey keyPrefix stored = some key → ∃ c, cleanStoredPath stored = some c ∧ c ≠ [] ∧ Safe c ∧
      key = if keyPrefix = [] then c else keyPrefix ++ slash :: c
  /-- Distinct paths have distinct keys. -/
  distinct : ∀ raw keyPrefix a b key, cleanS3Prefix raw = some keyPrefix →
    objectKey keyPrefix a = some key → objectKey keyPrefix b = some key →
      cleanStoredPath a = cleanStoredPath b

variable {p q : Bytes} {names : List Bytes}

/-! ### Plain names -/

theorem safePathSegment_iff {s : Bytes} : safePathSegment s = true ↔
    s ≠ [] ∧ s ≠ [46] ∧ s ≠ [46, 46] ∧ slash ∉ s ∧ 92 ∉ s := by
  simp [safePathSegment, and_assoc]

/-- Plain names are kept. -/
theorem foldl_cleanStep {rooted : Bool} (h : ∀ s ∈ names, safePathSegment s = true)
    (kept : List Bytes) : names.foldl (cleanStep rooted) kept = kept ++ names := by
  induction names generalizing kept with
  | nil => simp
  | cons s names ih =>
    obtain ⟨hne, hdot, hdots, -⟩ := safePathSegment_iff.mp (h s List.mem_cons_self)
    have hstep : cleanStep rooted kept s = kept ++ [s] := by simp [cleanStep, hne, hdot, hdots]
    rw [List.foldl_cons, hstep, ih fun t ht => h t (List.mem_cons_of_mem _ ht), List.append_assoc]
    rfl

theorem Safe.ne_nil (h : Safe p) : p ≠ [] := by
  rintro rfl
  exact absurd (h [] (by simp)) (by decide)

theorem Safe.isAbs_eq_false (h : Safe p) : isAbs p = false := by
  refine decide_eq_false fun hp => absurd (h [] (Text.nil_mem_splitOn fun b hb => ?_)) (by decide)
  exact Option.some.inj (hb.symm.trans hp)

/-- **A safe path is clean already.** -/
theorem clean_of_safe (h : Safe p) : clean p = p ∧ elements p = p.splitOn slash := by
  have helements : elements p = p.splitOn slash := foldl_cleanStep h []
  refine ⟨?_, helements⟩
  rw [clean, if_neg (by simp [h.isAbs_eq_false]), helements, if_neg (List.splitOn_ne_nil _ _)]
  exact List.intercalate_splitOn slash

theorem splitOn_names (hne : names ≠ []) (h : ∀ s ∈ names, safePathSegment s = true) :
    ([slash].intercalate names).splitOn slash = names :=
  List.splitOn_intercalate slash (fun s hs => (safePathSegment_iff.mp (h s hs)).2.2.2.1) hne

/-- Joined names are a safe path. -/
theorem join_names (hne : names ≠ []) (h : ∀ s ∈ names, safePathSegment s = true) :
    join names = [slash].intercalate names ∧ Safe (join names) := by
  have hsafe : Safe ([slash].intercalate names) := by rwa [Safe, splitOn_names hne h]
  have hfilter : names.filter (· ≠ []) = names := by
    refine List.filter_eq_self.mpr fun s hs => ?_
    simpa using (safePathSegment_iff.mp (h s hs)).1
  have hjoin : join names = [slash].intercalate names := by
    simp only [join, hfilter, if_neg hne]
    exact (clean_of_safe hsafe).1
  exact ⟨hjoin, hjoin ▸ hsafe⟩

theorem join_inj {names' : List Bytes} (hne : names ≠ []) (hne' : names' ≠ [])
    (h : ∀ s ∈ names, safePathSegment s = true) (h' : ∀ s ∈ names', safePathSegment s = true)
    (heq : join names = join names') : names = names' := by
  rw [(join_names hne h).1, (join_names hne' h').1] at heq
  rw [← splitOn_names hne h, heq, splitOn_names hne' h']

/-- What the check of stored paths lets pass. -/
theorem cleanStoredPath_eq_some : cleanStoredPath p = some q ↔ p = q ∧ Safe q := by
  constructor
  · intro h
    unfold cleanStoredPath at h
    split_ifs at h with hbad hall
    have hsafe : Safe p := List.all_eq_true.mp hall
    rw [(clean_of_safe hsafe).1] at h
    obtain rfl := Option.some.inj h
    exact ⟨rfl, hsafe⟩
  · rintro ⟨rfl, hsafe⟩
    have hback : 92 ∉ p := by
      intro hmem
      obtain ⟨s, hs, hmem⟩ := Text.exists_mem_splitOn hmem (show 92 ≠ slash by decide)
      exact (safePathSegment_iff.mp (hsafe s hs)).2.2.2.2 hmem
    rw [cleanStoredPath, if_neg, if_pos (List.all_eq_true.mpr hsafe), (clean_of_safe hsafe).1]
    simp [hsafe.ne_nil, hsafe.isAbs_eq_false, hback]

/-! ### File names -/

/-- The number in a file name consists of digits. -/
theorem digit_of_mem_number {n : Nat} {b : UInt8}
    (h : b ∈ (List.leftpad 6 48 (Decimal.formatNat n)).map UInt8.ofNat) : 48 ≤ b ∧ b ≤ 57 := by
  obtain ⟨c, hc, rfl⟩ := List.mem_map.mp h
  have hrange : 48 ≤ c ∧ c ≤ 57 := by
    rcases List.mem_append.mp hc with hc | hc
    · rw [List.eq_of_mem_replicate hc]
      decide
    · exact Decimal.mem_formatNat hc
  obtain ⟨hlo, hhi⟩ := hrange
  interval_cases c <;> decide

/-- A file name determines the media type and the index: the last underscore parts them. -/
theorem blobFilename_inj {m m' : Bytes} {k k' : Nat} (h : blobFilename m k = blobFilename m' k') :
    m = m' ∧ k = k' := by
  have hno : ∀ n, 95 ∉ (List.leftpad 6 48 (Decimal.formatNat n)).map UInt8.ofNat ++
      bytes ".enc" := by
    intro n hmem
    rcases List.mem_append.mp hmem with hmem | hmem
    · exact absurd (digit_of_mem_number hmem) (by decide)
    · revert hmem
      decide +kernel
  have hvalue : ∀ n, TimeLayout.digits (List.leftpad 6 48 (Decimal.formatNat n)) = n := by
    intro n
    rw [List.leftpad, TimeLayout.digits_append, TimeLayout.digits_replicate, Nat.zero_mul,
      Nat.zero_add, TimeLayout.digits_formatNat]
  have hlt : ∀ n, ∀ c ∈ List.leftpad 6 48 (Decimal.formatNat n), c < 256 := by
    intro n c hc
    rcases List.mem_append.mp hc with hc | hc
    · rw [List.eq_of_mem_replicate hc]
      decide
    · have := Decimal.mem_formatNat hc
      omega
  obtain ⟨hmedia, hnumber⟩ := Decimal.append_cons_inj_of_last (hno k) (hno k') h
  have hpad := Wire.map_ofNat_injective (hlt k) (hlt k') (List.append_cancel_right hnumber)
  exact ⟨hmedia, by rw [← hvalue k, hpad, hvalue]⟩

theorem safePathSegment_blobFilename {m : Bytes} (h : safePathSegment m = true) (k : Nat) :
    safePathSegment (blobFilename m k) = true := by
  obtain ⟨-, -, -, hslash, hback⟩ := safePathSegment_iff.mp h
  have hmem : 95 ∈ blobFilename m k := List.mem_append_right _ List.mem_cons_self
  have hdot : ∀ t : Bytes, 95 ∉ t → blobFilename m k ≠ t := fun t ht heq => ht (heq ▸ hmem)
  have hno : ∀ b : UInt8, b ∉ m → ¬(48 ≤ b ∧ b ≤ 57) → b ∉ 95 :: bytes ".enc" →
      b ∉ blobFilename m k := by
    intro b hm hdigit hrest hb
    simp only [blobFilename, List.mem_append, List.mem_cons] at hb hrest
    rcases hb with hb | hb | hb | hb
    · exact hm hb
    · exact hrest (.inl hb)
    · exact hdigit (digit_of_mem_number hb)
    · exact hrest (.inr hb)
  exact safePathSegment_iff.mpr ⟨hdot _ (by decide), hdot _ (by decide), hdot _ (by decide),
    hno _ hslash (by decide) (by decide +kernel), hno _ hback (by decide) (by decide +kernel)⟩

/-! ### The laws -/

/-- The names `storedBlobPath` joins. -/
def blobNames (i s m : Bytes) (k : Int) : List Bytes :=
  if s = [] then [bytes "incidents", i, blobFilename m k.toNat]
  else [bytes "incidents", i, bytes "streams", s, blobFilename m k.toNat]

theorem storedBlobPath_some {i s m : Bytes} {k : Int} (h : storedBlobPath i s m k = some p) :
    0 ≤ k ∧ (∀ t ∈ blobNames i s m k, safePathSegment t = true) ∧
      p = join (blobNames i s m k) := by
  have hwords : safePathSegment (bytes "incidents") = true ∧
      safePathSegment (bytes "streams") = true := by
    decide +kernel
  unfold storedBlobPath at h
  split_ifs at h with hbad hstream hs <;> obtain ⟨⟩ := h <;>
    simp only [Bool.or_eq_true, decide_eq_true_eq, Bool.not_eq_true', not_or, Int.not_lt,
      Bool.not_eq_false] at hbad
  · have hsafe : safePathSegment s = true := by simpa [hs] using hstream
    refine ⟨hbad.1.1, ?_, by simp [blobNames, hs]⟩
    simp [blobNames, hs, hwords, hbad, hsafe, safePathSegment_blobFilename]
  · rw [not_not] at hs
    refine ⟨hbad.1.1, ?_, by simp [blobNames, hs]⟩
    simp [blobNames, hs, hwords, hbad, safePathSegment_blobFilename]

theorem blobNames_ne_nil (i s m : Bytes) (k : Int) : blobNames i s m k ≠ [] := by
  unfold blobNames
  split <;> simp

/-- A safe path after a directory adds its names. -/
theorem elements_append {dir : Bytes} (hdir : dir ≠ []) (h : Safe p) :
    isAbs (dir ++ slash :: p) = isAbs dir ∧
      elements (dir ++ slash :: p) = elements dir ++ p.splitOn slash := by
  obtain ⟨b, dir, rfl⟩ := List.exists_cons_of_ne_nil hdir
  refine ⟨rfl, ?_⟩
  rw [elements, List.splitOn_append_cons_self, List.foldl_append, foldl_cleanStep h]
  rfl

/-- The two elements of a `Join` are put together and cleaned. -/
theorem join_pair {dir : Bytes} (hdir : dir ≠ []) (h : Safe p) :
    join [dir, p] = clean (dir ++ slash :: p) := by
  simp [join, hdir, h.ne_nil, List.intercalate]

/-- A prefix that is accepted is empty or safe. -/
theorem cleanS3Prefix_some {raw keyPrefix : Bytes} (h : cleanS3Prefix raw = some keyPrefix) :
    keyPrefix = [] ∨ Safe keyPrefix := by
  unfold cleanS3Prefix at h
  split_ifs at h with hempty hbad hall <;> obtain rfl := Option.some.inj h
  · exact .inl rfl
  · exact .inr (List.all_eq_true.mp hall)

/-- The key is the prefix, a slash and the stored path, all as they are. -/
theorem objectKey_some {raw keyPrefix stored key : Bytes}
    (hclean : cleanS3Prefix raw = some keyPrefix) (h : objectKey keyPrefix stored = some key) :
    ∃ c, cleanStoredPath stored = some c ∧ Safe c ∧
      key = if keyPrefix = [] then c else keyPrefix ++ slash :: c := by
  obtain ⟨c, hc, rfl⟩ := Option.map_eq_some_iff.mp h
  obtain ⟨-, hsafe⟩ := cleanStoredPath_eq_some.mp hc
  refine ⟨c, hc, hsafe, ?_⟩
  rcases cleanS3Prefix_some hclean with rfl | hp
  · rfl
  · have hboth : Safe (keyPrefix ++ slash :: c) := by
      intro s hs
      rw [List.splitOn_append_cons_self] at hs
      exact (List.mem_append.mp hs).elim (hp s) (hsafe s)
    rw [if_neg hp.ne_nil, if_neg hp.ne_nil, join_pair hp.ne_nil hsafe, (clean_of_safe hboth).1]

/-- **Stored paths tell chunks apart, and files and objects lie below the data directory and the
    prefix.** -/
theorem storage_paths_confined : PathLaws where
  injective := by
    intro i s m k i' s' m' k' p h h'
    obtain ⟨hk, hsafe, rfl⟩ := storedBlobPath_some h
    obtain ⟨hk', hsafe', heq⟩ := storedBlobPath_some h'
    have hnames : blobNames i s m k = blobNames i' s' m' k' :=
      join_inj (blobNames_ne_nil i s m k) (blobNames_ne_nil i' s' m' k') hsafe hsafe' heq
    unfold blobNames at hnames
    split_ifs at hnames with hs hs' hs'
    · simp only [List.cons.injEq, true_and, and_true] at hnames
      obtain ⟨hm, hn⟩ := blobFilename_inj hnames.2
      exact ⟨hnames.1, hs.trans hs'.symm, hm, by omega⟩
    · simp at hnames
    · simp at hnames
    · simp only [List.cons.injEq, true_and, and_true] at hnames
      obtain ⟨hm, hn⟩ := blobFilename_inj hnames.2.2
      exact ⟨hnames.1, hnames.2.1, hm, by omega⟩
  accepted := by
    intro i s m k p h
    obtain ⟨-, hsafe, rfl⟩ := storedBlobPath_some h
    exact cleanStoredPath_eq_some.mpr ⟨rfl, (join_names (blobNames_ne_nil i s m k) hsafe).2⟩
  inside := by
    intro dir stored p h
    obtain ⟨c, hc, rfl⟩ := Option.map_eq_some_iff.mp h
    obtain ⟨-, hsafe⟩ := cleanStoredPath_eq_some.mp hc
    refine ⟨c.splitOn slash, List.splitOn_ne_nil _ _, hsafe, ?_⟩
    by_cases hdir : dir = []
    · subst hdir
      have hjoin : join [[], c] = clean c := by simp [join, hsafe.ne_nil, List.intercalate]
      rw [hjoin, (clean_of_safe hsafe).1]
      exact (List.intercalate_splitOn slash).symm
    · obtain ⟨habs, helements⟩ := elements_append hdir hsafe
      rw [join_pair hdir hsafe, clean, habs, helements]
      cases isAbs dir <;> simp [List.splitOn_ne_nil]
  under := by
    intro raw keyPrefix stored key hclean h
    obtain ⟨c, hc, hsafe, hkey⟩ := objectKey_some hclean h
    exact ⟨c, hc, hsafe.ne_nil, hsafe, hkey⟩
  distinct := by
    intro raw keyPrefix a b key hclean ha hb
    obtain ⟨c, hc, -, rfl⟩ := objectKey_some hclean ha
    obtain ⟨d, hd, -, hkey⟩ := objectKey_some hclean hb
    rw [hc, hd]
    by_cases hempty : keyPrefix = []
    · simpa [hempty] using hkey
    · simpa [hempty] using hkey

end SafetyRecorder.Confinement
