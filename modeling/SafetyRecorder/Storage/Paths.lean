import Mathlib.Data.List.Basic
import SafetyRecorder.Incidents.Models
import SafetyRecorder.Lib.Text

namespace SafetyRecorder

/-!
# Storage — the paths of committed blobs

`storedBlobPath` (`internal/storage/paths.go`) places a chunk below its incident,
and below its stream when it has one; `cleanStoredPath` is the check every later
use of a path makes.

* `storedBlobPath_inj` — two chunks share a path only when they are the same chunk,
  which is what makes a path name one owner;
* `cleanStoredPath_storedBlobPath` — the paths the store hands out pass its check.
-/

/-- The errors of the blob store; `other` is every wrapped I/O error. -/
inductive StoreError
  | unsafePath | alreadyExists | notExist | tooLarge | tempStagingQuotaExceeded | canceled | other
  deriving DecidableEq, Repr

/-- A single directory entry name: not empty, no dot entry, no separator. -/
def safePathSegment (value : String) : Bool :=
  value != "" && value != "." && value != ".." &&
    !value.toList.contains '/' && !value.toList.contains (Char.ofNat 92)

/-- `%06d` of a chunk index that is not negative. -/
def pad6 (n : Nat) : List Char := List.leftpad 6 '0' (Nat.toDigits 10 n)

/-- `%s_%06d.enc`. -/
def blobFilename (mediaType : MediaType) (chunkIndex : Int) : String :=
  mediaType.name ++ "_" ++ String.ofList (pad6 chunkIndex.toNat) ++ ".enc"

/-- The path of a chunk's blob.  All segments are safe, so `path.Join` puts slashes
    between them and cleans nothing away. -/
def storedBlobPath (incidentID streamID : String) (mediaType : MediaType) (chunkIndex : Int) :
    Except StoreError String :=
  if chunkIndex < 0 || !safePathSegment incidentID || !safePathSegment mediaType.name then
    .error .unsafePath
  else if streamID != "" && !safePathSegment streamID then
    .error .unsafePath
  else if streamID != "" then
    .ok ("/".intercalate
      ["incidents", incidentID, "streams", streamID, blobFilename mediaType chunkIndex])
  else
    .ok ("/".intercalate ["incidents", incidentID, blobFilename mediaType chunkIndex])

/-- `cleanStoredPath`; when all segments are safe `path.Clean` changes nothing. -/
def cleanStoredPath (storedPath : String) : Except StoreError String :=
  if storedPath = "" ∨ storedPath.toList.head? = some '/' ∨
      storedPath.toList.contains (Char.ofNat 92) = true then
    .error .unsafePath
  else if ((storedPath.toList.splitOn '/').map String.ofList).all safePathSegment then
    .ok storedPath
  else .error .unsafePath

example : storedBlobPath "inc_1" "" .audio 12 = .ok "incidents/inc_1/audio_000012.enc" := by decide

example : storedBlobPath "inc_1" "str_2" .video 1234567 =
    .ok "incidents/inc_1/streams/str_2/video_1234567.enc" := by decide

/-! ### Names -/

theorem safePathSegment_iff {s : String} : safePathSegment s = true ↔
    s ≠ "" ∧ s ≠ "." ∧ s ≠ ".." ∧ '/' ∉ s.toList ∧ Char.ofNat 92 ∉ s.toList := by
  simp [safePathSegment, and_assoc]

/-- Joined names can be taken apart again. -/
theorem splitOn_names {names : List String} (hne : names ≠ [])
    (h : ∀ s ∈ names, safePathSegment s = true) :
    ("/".intercalate names).toList.splitOn '/' = names.map String.toList := by
  have hsep : "/".toList = ['/'] := by decide
  rw [String.toList_intercalate, hsep]
  refine List.splitOn_intercalate '/' ?_ (by simpa using hne)
  simpa using fun s hs => (safePathSegment_iff.mp (h s hs)).2.2.2.1

/-- Joined names are a clean path. -/
theorem cleanStoredPath_intercalate {names : List String} (hne : names ≠ [])
    (h : ∀ s ∈ names, safePathSegment s = true) :
    cleanStoredPath ("/".intercalate names) = .ok ("/".intercalate names) := by
  have hsplit := splitOn_names hne h
  have hempty : [] ∉ ("/".intercalate names).toList.splitOn '/' := by
    rw [hsplit, List.mem_map]
    rintro ⟨s, hs, hnil⟩
    exact (safePathSegment_iff.mp (h s hs)).1 (String.toList_inj.mp hnil)
  rw [cleanStoredPath, if_neg, if_pos]
  · rw [hsplit]
    simpa using h
  · rintro (hp | hp | hp)
    · exact hempty (by simp [hp])
    · exact hempty (Text.nil_mem_splitOn fun b hb => Option.some.inj (hb.symm.trans hp))
    · obtain ⟨l, hl, hmem⟩ := Text.exists_mem_splitOn (List.contains_iff_mem.mp hp)
        (show Char.ofNat 92 ≠ '/' by decide)
      rw [hsplit] at hl
      obtain ⟨s, hs, rfl⟩ := List.mem_map.mp hl
      exact (safePathSegment_iff.mp (h s hs)).2.2.2.2 hmem

/-! ### File names -/

/-- The zero-padded number can be read back. -/
theorem ofDigitChars_pad6 (n : Nat) : Nat.ofDigitChars 10 (pad6 n) 0 = n := by
  rw [pad6, List.leftpad, Nat.ofDigitChars_append, Nat.ofDigitChars_replicate_zero, Nat.mul_zero,
    Nat.ofDigitChars_ten_toDigits]

/-- The characters of a padded number are digits. -/
theorem isDigit_of_mem_pad6 {n : Nat} {c : Char} (h : c ∈ pad6 n) : c.isDigit = true := by
  rcases List.mem_append.mp h with h | h
  · rw [List.eq_of_mem_replicate h]; decide
  · exact Nat.isDigit_of_mem_toDigits (by decide) (by decide) h

/-- Media types are told apart by the first letter of their names, which begins a file name. -/
theorem head_blobFilename (m : MediaType) (k : Int) :
    (blobFilename m k).toList.head? = m.name.toList.head? := by
  cases m <;> simp [blobFilename, MediaType.name]

theorem MediaType.eq_of_head_name {m n : MediaType}
    (h : m.name.toList.head? = n.name.toList.head?) : m = n := by
  revert h
  cases m <;> cases n <;> decide

/-- A file name determines the media type and the index. -/
theorem blobFilename_inj {m n : MediaType} {k l : Int} (hk : 0 ≤ k) (hl : 0 ≤ l)
    (h : blobFilename m k = blobFilename n l) : m = n ∧ k = l := by
  obtain rfl : m = n := MediaType.eq_of_head_name (by
    rw [← head_blobFilename m k, h, head_blobFilename])
  have hlist := congrArg String.toList h
  simp only [blobFilename, String.toList_append, String.toList_ofList] at hlist
  -- with equal media types the common parts cancel and the padded numbers remain
  have hpad : pad6 k.toNat = pad6 l.toNat :=
    List.append_cancel_left (List.append_cancel_right hlist)
  have hnat : k.toNat = l.toNat := by
    rw [← ofDigitChars_pad6 k.toNat, hpad, ofDigitChars_pad6]
  exact ⟨rfl, by omega⟩

theorem safePathSegment_blobFilename (m : MediaType) (k : Int) :
    safePathSegment (blobFilename m k) = true := by
  have hno : ∀ c : Char, c.isDigit = false → c ∉ (m.name ++ "_").toList → c ∉ ".enc".toList →
      c ∉ (blobFilename m k).toList := by
    intro c hdigit hname henc hc
    simp only [blobFilename, String.toList_append, String.toList_ofList, List.mem_append] at hc hname
    rcases hc with (hc | hc) | hc
    · exact hname hc
    · exact absurd (isDigit_of_mem_pad6 hc) (by simp [hdigit])
    · exact henc hc
  -- the first letter is that of the media type, so the name is no dot entry
  have hhead : ∀ t : String, t.toList.head? ≠ m.name.toList.head? → blobFilename m k ≠ t := by
    rintro t ht rfl
    exact ht (head_blobFilename m k)
  refine safePathSegment_iff.mpr ⟨hhead _ ?_, hhead _ ?_, hhead _ ?_, hno _ rfl ?_ ?_, hno _ rfl ?_ ?_⟩ <;>
    cases m <;> decide

/-! ### Stored paths -/

/-- What a successful `storedBlobPath` has checked, and the names it joins. -/
theorem storedBlobPath_ok {i s p : String} {m : MediaType} {k : Int}
    (h : storedBlobPath i s m k = .ok p) :
    0 ≤ k ∧ ∃ names, (names = if s = "" then ["incidents", i, blobFilename m k]
        else ["incidents", i, "streams", s, blobFilename m k]) ∧
      names ≠ [] ∧ (∀ t ∈ names, safePathSegment t = true) ∧ p = "/".intercalate names := by
  have hwords : safePathSegment "incidents" = true ∧ safePathSegment "streams" = true := by decide
  unfold storedBlobPath at h
  split_ifs at h with hbad hstream hs <;> obtain ⟨⟩ := h <;>
    simp only [Bool.or_eq_true, decide_eq_true_eq, Bool.not_eq_true', not_or, Int.not_lt,
      Bool.not_eq_false] at hbad <;> refine ⟨hbad.1.1, _, rfl, ?_⟩
  · have hsafe : safePathSegment s = true := by simpa [hs] using hstream
    simp only [bne_iff_ne] at hs
    simp [hs, hwords, hbad, hsafe, safePathSegment_blobFilename]
  · simp only [bne_iff_ne, not_not] at hs
    simp [hs, hwords, hbad, safePathSegment_blobFilename]

/-- **Injectivity.** Two chunks share a stored path only when they are the same
    chunk: same incident, stream, media type and index. -/
theorem storedBlobPath_inj {i s i' s' p : String} {m m' : MediaType} {k k' : Int}
    (h : storedBlobPath i s m k = .ok p) (h' : storedBlobPath i' s' m' k' = .ok p) :
    i = i' ∧ s = s' ∧ m = m' ∧ k = k' := by
  obtain ⟨hk, names, hnames, hne, hsafe, rfl⟩ := storedBlobPath_ok h
  obtain ⟨hk', names', hnames', hne', hsafe', hp⟩ := storedBlobPath_ok h'
  have hsegs : names.map String.toList = names'.map String.toList := by
    rw [← splitOn_names hne hsafe, hp, splitOn_names hne' hsafe']
  have heq := List.map_injective_iff.mpr (fun _ _ hst => String.toList_inj.mp hst) hsegs
  rw [hnames, hnames'] at heq
  split_ifs at heq with hs hs' hs'
  · simp only [List.cons.injEq, and_true, true_and] at heq
    exact ⟨heq.1, hs.trans hs'.symm, blobFilename_inj hk hk' heq.2⟩
  · simp at heq
  · simp at heq
  · simp only [List.cons.injEq, and_true, true_and] at heq
    exact ⟨heq.1, heq.2.1, blobFilename_inj hk hk' heq.2.2⟩

/-- The paths the store hands out pass its own check. -/
theorem cleanStoredPath_storedBlobPath {i s p : String} {m : MediaType} {k : Int}
    (h : storedBlobPath i s m k = .ok p) : cleanStoredPath p = .ok p := by
  obtain ⟨-, names, -, hne, hsafe, rfl⟩ := storedBlobPath_ok h
  exact cleanStoredPath_intercalate hne hsafe

end SafetyRecorder
