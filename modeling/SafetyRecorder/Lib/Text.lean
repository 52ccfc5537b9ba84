import SafetyRecorder.Lib.Wire
import Mathlib.Data.List.DropRight
import Mathlib.Data.List.Find
import Mathlib.Data.List.Infix

namespace Text

open Wire

/-!
# Strings

Go's `strings`, `path` and `unicode/utf8` over byte strings.

* `encodeRune` — the UTF-8 encoding of a code point;
* `trimSpace` — white space as Unicode has it, cut at both ends; what is left neither begins
  nor ends with white space (`trimmed_trimSpace`), and such a string is left alone
  (`trimSpace_eq_self`), so cutting twice is cutting once;
* `base` — the last element of a slash-separated path.
-/

/-- `utf8.AppendRune` for a code point. -/
def encodeRune (c : Nat) : Bytes :=
  if c < 0x80 then [UInt8.ofNat c]
  else if c < 0x800 then [UInt8.ofNat (0xC0 + c / 64), UInt8.ofNat (0x80 + c % 64)]
  else if c < 0x10000 then
    [UInt8.ofNat (0xE0 + c / 4096), UInt8.ofNat (0x80 + c / 64 % 64), UInt8.ofNat (0x80 + c % 64)]
  else
    [UInt8.ofNat (0xF0 + c / 262144), UInt8.ofNat (0x80 + c / 4096 % 64),
      UInt8.ofNat (0x80 + c / 64 % 64), UInt8.ofNat (0x80 + c % 64)]

/-! ### White space -/

/-- The code points of `unicode.IsSpace`. -/
def spaceRunes : List Nat :=
  [0x09, 0x0A, 0x0B, 0x0C, 0x0D, 0x20, 0x85, 0xA0, 0x1680, 0x2000, 0x2001, 0x2002, 0x2003, 0x2004,
    0x2005, 0x2006, 0x2007, 0x2008, 0x2009, 0x200A, 0x2028, 0x2029, 0x202F, 0x205F, 0x3000]

/-- Their encodings.  A byte that is no part of an encoding is no white space. -/
def spaces : List Bytes := spaceRunes.map encodeRune

/-- Cut words from the front, at most `fuel` of them. -/
def dropWords (words : List Bytes) : Nat → Bytes → Bytes
  | 0, s => s
  | fuel + 1, s =>
    match words.find? (· <+: s) with
    | some w => dropWords words fuel (s.drop w.length)
    | none => s

/-- `strings.TrimLeftFunc` with `unicode.IsSpace`. -/
def trimLeft (s : Bytes) : Bytes := dropWords spaces s.length s

/-- `strings.TrimRightFunc` with `unicode.IsSpace`. -/
def trimRight (s : Bytes) : Bytes :=
  (dropWords (spaces.map List.reverse) s.length s.reverse).reverse

/-- `strings.TrimSpace`. -/
def trimSpace (s : Bytes) : Bytes := trimRight (trimLeft s)

example : trimSpace (bytes "  a b \n") = bytes "a b" := by decide +kernel

variable {words : List Bytes} {s : Bytes}

theorem dropWords_eq_self {fuel : Nat}
    (h : ∀ w ∈ words, ¬ w <+: s) : dropWords words fuel s = s := by
  cases fuel with
  | zero => rfl
  | succ fuel =>
    have hnone : words.find? (· <+: s) = none := by simpa using h
    rw [dropWords, hnone]

theorem dropWords_suffix (words : List Bytes) (fuel : Nat) (s : Bytes) :
    dropWords words fuel s <:+ s := by
  induction fuel generalizing s with
  | zero => exact List.suffix_rfl
  | succ fuel ih =>
    rw [dropWords]
    split
    · exact (ih _).trans (List.drop_suffix _ _)
    · exact List.suffix_rfl

/-- With enough fuel no word is left in front. -/
theorem not_prefix_dropWords (hne : ∀ w ∈ words, w ≠ []) {fuel : Nat}
    (hfuel : s.length ≤ fuel) {w : Bytes} (hw : w ∈ words) :
    ¬ w <+: dropWords words fuel s := by
  induction fuel generalizing s with
  | zero =>
    obtain rfl : s = [] := List.length_eq_zero_iff.mp (by omega)
    exact fun hp => hne w hw (List.prefix_nil.mp hp)
  | succ fuel ih =>
    rw [dropWords]
    split
    next v hv =>
      have hpos := List.length_pos_iff.mpr (hne v (List.mem_of_find?_eq_some hv))
      refine ih ?_
      rw [List.length_drop]
      omega
    next hnone =>
      simpa using List.find?_eq_none.mp hnone w hw

theorem spaces_ne_nil : ∀ w ∈ spaces, w ≠ [] := by decide +kernel

/-- A string that neither begins nor ends with white space. -/
def Trimmed (s : Bytes) : Prop := ∀ w ∈ spaces, ¬ w <+: s ∧ ¬ w <:+ s

instance (s : Bytes) : Decidable (Trimmed s) := inferInstanceAs (Decidable (∀ _ ∈ _, _))

theorem trimLeft_eq_self (h : ∀ w ∈ spaces, ¬ w <+: s) : trimLeft s = s :=
  dropWords_eq_self h

theorem trimRight_eq_self (h : ∀ w ∈ spaces, ¬ w <:+ s) : trimRight s = s := by
  have hrev : ∀ w ∈ spaces.map List.reverse, ¬ w <+: s.reverse := by
    intro w hw hp
    obtain ⟨v, hv, rfl⟩ := List.mem_map.mp hw
    exact h v hv (List.reverse_prefix.mp hp)
  rw [trimRight, dropWords_eq_self hrev, List.reverse_reverse]

/-- **A trimmed string is left alone.** -/
theorem trimSpace_eq_self (h : Trimmed s) : trimSpace s = s := by
  rw [trimSpace, trimLeft_eq_self fun w hw => (h w hw).1,
    trimRight_eq_self fun w hw => (h w hw).2]

theorem trimRight_begins (s : Bytes) : trimRight s <+: s := by
  have h := dropWords_suffix (spaces.map List.reverse) s.length s.reverse
  rw [trimRight, ← List.reverse_suffix, List.reverse_reverse]
  exact h

/-- **What is left is trimmed**: the end is cut from a string whose front is clean already. -/
theorem trimmed_trimSpace (s : Bytes) : Trimmed (trimSpace s) := by
  intro w hw
  constructor
  · intro hp
    have hfront := not_prefix_dropWords spaces_ne_nil (le_refl s.length) hw
    exact hfront (hp.trans (trimRight_begins _))
  · intro hs
    have hne : ∀ v ∈ spaces.map List.reverse, v ≠ [] := by
      intro v hv
      obtain ⟨u, hu, rfl⟩ := List.mem_map.mp hv
      simpa using spaces_ne_nil u hu
    have hlen : (trimLeft s).reverse.length ≤ (trimLeft s).length := by simp
    have hback := not_prefix_dropWords hne hlen (List.mem_map_of_mem hw)
    refine hback ?_
    rw [← List.reverse_suffix, List.reverse_reverse]
    exact hs

@[simp] theorem trimSpace_trimSpace (s : Bytes) : trimSpace (trimSpace s) = trimSpace s :=
  trimSpace_eq_self (trimmed_trimSpace s)

theorem trimSpace_eq_self_iff : trimSpace s = s ↔ Trimmed s :=
  ⟨fun h => h ▸ trimmed_trimSpace s, trimSpace_eq_self⟩

theorem trimSpace_sublist (s : Bytes) : (trimSpace s).Sublist s :=
  (trimRight_begins _).sublist.trans (dropWords_suffix _ _ _).sublist

/-- White space is made of bytes outside the printable ASCII range. -/
theorem spaces_unprintable : ∀ w ∈ spaces, ∀ b ∈ w, ¬ (0x21 ≤ b ∧ b < 0x80) := by
  decide +kernel

/-- A string of printable ASCII characters other than the blank is trimmed. -/
theorem trimmed_of_printable (h : ∀ b ∈ s, 0x21 ≤ b ∧ b < 0x80) : Trimmed s := by
  have hout : ∀ w ∈ spaces, ¬ w ⊆ s := by
    intro w hw hsub
    obtain ⟨b, t, rfl⟩ := List.exists_cons_of_ne_nil (spaces_ne_nil w hw)
    have hb : b ∈ b :: t := List.mem_cons_self ..
    exact spaces_unprintable _ hw b hb (h b (hsub hb))
  exact fun w hw => ⟨fun hp => hout w hw hp.subset, fun hs => hout w hw hs.subset⟩

variable {f : UInt8 → UInt8}

/-- A word begins the image of a string exactly when it begins the string, if its bytes are the
    images of themselves only. -/
theorem begins_map_iff {w s : Bytes} (h : ∀ b ∈ w, ∀ c, f c = b ↔ c = b) :
    w <+: s.map f ↔ w <+: s := by
  induction w generalizing s with
  | nil => simp
  | cons b w ih =>
    cases s with
    | nil => simp
    | cons c s =>
      rw [List.map_cons, List.cons_prefix_cons, List.cons_prefix_cons, eq_comm,
        h b List.mem_cons_self, ih fun b' hb' => h b' (List.mem_cons_of_mem _ hb'), eq_comm]

theorem dropWords_map (h : ∀ w ∈ words, ∀ b ∈ w, ∀ c, f c = b ↔ c = b) (fuel : Nat) (s : Bytes) :
    dropWords words fuel (s.map f) = (dropWords words fuel s).map f := by
  induction fuel generalizing s with
  | zero => rfl
  | succ fuel ih =>
    have hfind : words.find? (· <+: s.map f) = words.find? (· <+: s) :=
      List.find?_congr fun w hw => by simp only [begins_map_iff (h w hw)]
    rw [dropWords, dropWords, hfind]
    split
    · rw [← List.map_drop, ih]
    · rfl

/-- **White space is cut before or after bytes are replaced**, if it has none of them. -/
theorem trimSpace_map (h : ∀ w ∈ spaces, ∀ b ∈ w, ∀ c, f c = b ↔ c = b)
    (s : Bytes) : trimSpace (s.map f) = (trimSpace s).map f := by
  have hrev : ∀ w ∈ spaces.map List.reverse, ∀ b ∈ w, ∀ c, f c = b ↔ c = b := by
    intro w hw b hb
    obtain ⟨v, hv, rfl⟩ := List.mem_map.mp hw
    exact h v hv b (List.mem_reverse.mp hb)
  rw [trimSpace, trimSpace, trimLeft, trimLeft, List.length_map, dropWords_map h, trimRight,
    trimRight, List.length_map, ← List.map_reverse, dropWords_map hrev, List.map_reverse]

/-! ### Paths -/

/-- `strings.ReplaceAll` with strings of one byte. -/
def replaceByte (old new : UInt8) (s : Bytes) : Bytes := s.map fun b => if b = old then new else b

variable {old new : UInt8}

theorem not_mem_replaceByte (h : new ≠ old) (s : Bytes) :
    old ∉ replaceByte old new s := by
  intro hmem
  obtain ⟨b, -, hb⟩ := List.mem_map.mp hmem
  by_cases hold : b = old
  · rw [if_pos hold] at hb
    exact h hb
  · rw [if_neg hold] at hb
    exact hold hb

theorem replaceByte_eq_self (h : old ∉ s) :
    replaceByte old new s = s := by
  have hid : ∀ b ∈ s, (if b = old then new else b) = id b := by
    intro b hb
    have hne : b ≠ old := fun heq => h (heq ▸ hb)
    rw [if_neg hne, id]
  rw [replaceByte, List.map_congr_left hid, List.map_id]

/-- Printable bytes are replaced before or after white space is cut. -/
theorem trimSpace_replaceByte (hold : 0x21 ≤ old ∧ old < 0x80)
    (hnew : 0x21 ≤ new ∧ new < 0x80) (s : Bytes) :
    trimSpace (replaceByte old new s) = replaceByte old new (trimSpace s) := by
  refine trimSpace_map (fun w hw b hb c => ?_) s
  have hne : ∀ a : UInt8, 0x21 ≤ a ∧ a < 0x80 → a ≠ b := by
    rintro a ha rfl
    exact spaces_unprintable w hw a hb ha
  by_cases hc : c = old
  · rw [if_pos hc, hc]
    exact iff_of_false (hne new hnew) (hne old hold)
  · rw [if_neg hc]

/-- The slash. -/
def slash : UInt8 := 47

/-- What stands after the last slash that is not at the end, without the slashes at the end. -/
def lastElement (s : Bytes) : Bytes := (s.rdropWhile (· == slash)).rtakeWhile (· != slash)

/-- `path.Base`. -/
def base (s : Bytes) : Bytes :=
  if s = [] then [46]
  else if lastElement s = [] then [slash]
  else lastElement s

example : base (bytes "dir/ name/") = bytes " name" := by decide +kernel

/-- A last element is a part of the path without a slash. -/
theorem base_cases (s : Bytes) :
    base s = [46] ∨ base s = [slash] ∨ (base s).Sublist s ∧ base s ≠ [] ∧ slash ∉ base s := by
  unfold base
  split
  · exact .inl rfl
  · split
    · exact .inr (.inl rfl)
    next hne =>
      refine .inr (.inr ⟨?_, hne, fun hmem => ?_⟩)
      · exact (List.rtakeWhile_suffix _ _).sublist.trans (List.rdropWhile_prefix _ _).sublist
      · simpa using List.mem_rtakeWhile_imp hmem

/-- A name without a slash is its own last element. -/
theorem base_eq_self (hne : s ≠ []) (h : slash ∉ s) : base s = s := by
  have hdrop : s.rdropWhile (· == slash) = s := by
    refine List.rdropWhile_eq_self_iff.mpr fun hl hlast => h ?_
    have heq : s.getLast hl = slash := by simpa using hlast
    exact heq ▸ List.getLast_mem hl
  have htake : s.rtakeWhile (· != slash) = s := by
    refine List.rtakeWhile_eq_self_iff.mpr fun b hb => ?_
    have hb' : b ≠ slash := fun heq => h (heq ▸ hb)
    simpa using hb'
  rw [base, lastElement, hdrop, htake, if_neg hne, if_neg hne]

/-! ### Elements between separators -/

section

variable {α : Type} [DecidableEq α] {c sep : α} {p : List α}

/-- What is no separator stands in one of the elements. -/
theorem exists_mem_splitOn (h : c ∈ p) (hc : c ≠ sep) : ∃ s ∈ p.splitOn sep, c ∈ s := by
  induction p with
  | nil => cases h
  | cons b p ih =>
    obtain ⟨x, xs, hx⟩ := List.exists_cons_of_ne_nil (List.splitOn_ne_nil sep p)
    rw [List.splitOn_cons_eq_if_modifyHead]
    rw [hx] at ih ⊢
    split <;> simp only [List.modifyHead_cons, List.mem_cons, exists_eq_or_imp] at h ih ⊢ <;> grind

/-- An empty list, and one that begins with a separator, has an empty element. -/
theorem nil_mem_splitOn (h : ∀ b ∈ p.head?, b = sep) : [] ∈ p.splitOn sep := by
  cases p with
  | nil => simp
  | cons b p => simp [List.splitOn_cons_eq_if_modifyHead, h b rfl]

end

end Text
