import SafetyRecorder.Lib.Decimal
import SafetyRecorder.Lib.Text
import Mathlib.Tactic.IntervalCases
import Mathlib.Tactic.SplitIfs

namespace Json

open Wire

/-!
# JSON records

Go's `encoding/json` for flat records: the writer as it is, byte by byte, and what a reader has
to do with what was written.

* `runes`, `coerce` — a byte string taken apart into UTF-8 encodings; a byte that belongs to
  none is replaced by U+FFFD, which is all that a JSON string keeps of it;
* `quote`, `marshal` — the writer, with its escapes;
* `utf8Valid_marshal` — what is written is UTF-8;
* `Reader` — a decoder that reads what was written, up to `coerce`; `strict` is one, which
  accepts nothing else;
* `Names.getString`, `Names.getInt` — the fields of a record that was sent.
-/

/-! ### Runes -/

/-- The length of the encoding a string begins with, zero when it begins with none. -/
def runeLen : Bytes → Nat
  | [] => 0
  | a :: rest =>
    if a < 0x80 then 1
    else if 0xC2 ≤ a && a ≤ 0xDF then
      match rest with
      | b :: _ => if isCont b then 2 else 0
      | _ => 0
    else if 0xE0 ≤ a && a ≤ 0xEF then
      match rest with
      | b :: c :: _ => if secondByte a b && isCont c then 3 else 0
      | _ => 0
    else if 0xF0 ≤ a && a ≤ 0xF4 then
      match rest with
      | b :: c :: d :: _ => if secondByte a b && isCont c && isCont d then 4 else 0
      | _ => 0
    else 0

/-- The encodings in a string, `none` for a byte that belongs to none. -/
def split : Nat → Bytes → List (Option Bytes)
  | 0, _ => []
  | _ + 1, [] => []
  | n + 1, a :: s =>
    match runeLen (a :: s) with
    | 0 => none :: split n s
    | k + 1 => some (a :: s.take k) :: split n (s.drop k)

def runes (s : Bytes) : List (Option Bytes) := split s.length s

/-- U+FFFD. -/
def replacement : Bytes := [0xEF, 0xBF, 0xBD]

/-- A string with U+FFFD in place of the bytes that are not UTF-8. -/
def coerce (s : Bytes) : Bytes := (runes s).flatMap fun r => r.getD replacement

/-- **An encoding of a code point.** -/
inductive IsRune : Bytes → Prop
  | one {a : UInt8} (ha : a < 0x80) : IsRune [a]
  | two {a b : UInt8} (ha : 0xC2 ≤ a ∧ a ≤ 0xDF) (hb : isCont b = true) : IsRune [a, b]
  | three {a b c : UInt8} (ha : 0xE0 ≤ a ∧ a ≤ 0xEF) (hb : secondByte a b = true)
      (hc : isCont c = true) : IsRune [a, b, c]
  | four {a b c d : UInt8} (ha : 0xF0 ≤ a ∧ a ≤ 0xF4) (hb : secondByte a b = true)
      (hc : isCont c = true) (hd : isCont d = true) : IsRune [a, b, c, d]

variable {s : Bytes}

/-- What a string begins with when it begins with an encoding. -/
theorem exists_rune (h : runeLen s ≠ 0) :
    ∃ r t, s = r ++ t ∧ IsRune r ∧ runeLen s = r.length := by
  match s with
  | [] => exact absurd rfl h
  | a :: s =>
    simp only [runeLen, Bool.and_eq_true, decide_eq_true_eq] at h ⊢
    split_ifs at h ⊢ with h1 h2 h3 h4
    · exact ⟨[a], s, rfl, .one h1, rfl⟩
    · match s, h with
      | b :: s, h =>
        simp only [ne_eq, ite_eq_right_iff, OfNat.ofNat_ne_zero, imp_false, not_not] at h
        exact ⟨[a, b], s, rfl, .two h2 h, by simp [h]⟩
    · match s, h with
      | b :: c :: s, h =>
        simp only [ne_eq, ite_eq_right_iff, OfNat.ofNat_ne_zero, imp_false, not_not] at h
        exact ⟨[a, b, c], s, rfl, .three h3 h.1 h.2, by simp [h]⟩
    · match s, h with
      | b :: c :: d :: s, h =>
        simp only [ne_eq, ite_eq_right_iff, OfNat.ofNat_ne_zero, imp_false, not_not] at h
        exact ⟨[a, b, c, d], s, rfl, .four h4 h.1.1 h.1.2 h.2, by simp [h]⟩
    · exact absurd rfl h

variable {a : UInt8}

/-- A leading byte is not ASCII and belongs to one class only. -/
theorem lead_classes :
    (0xC2 ≤ a ∧ a ≤ 0xDF → ¬ a < 0x80) ∧
      (0xE0 ≤ a ∧ a ≤ 0xEF → ¬ a < 0x80 ∧ ¬ (0xC2 ≤ a ∧ a ≤ 0xDF)) ∧
      (0xF0 ≤ a ∧ a ≤ 0xF4 →
        ¬ a < 0x80 ∧ ¬ (0xC2 ≤ a ∧ a ≤ 0xDF) ∧ ¬ (0xE0 ≤ a ∧ a ≤ 0xEF)) := by
  simp only [UInt8.le_iff_toNat_le, UInt8.lt_iff_toNat_lt]
  have h80 : (0x80 : UInt8).toNat = 128 := rfl
  have hC2 : (0xC2 : UInt8).toNat = 194 := rfl
  have hDF : (0xDF : UInt8).toNat = 223 := rfl
  have hE0 : (0xE0 : UInt8).toNat = 224 := rfl
  have hEF : (0xEF : UInt8).toNat = 239 := rfl
  have hF0 : (0xF0 : UInt8).toNat = 240 := rfl
  have hF4 : (0xF4 : UInt8).toNat = 244 := rfl
  refine ⟨?_, ?_, ?_⟩ <;> omega

variable {r : Bytes}

theorem IsRune.runeLen_append (h : IsRune r) (t : Bytes) :
    runeLen (r ++ t) = r.length := by
  cases h with
  | one ha => simp [runeLen, ha]
  | two ha hb => simp [runeLen, lead_classes.1 ha, ha, hb]
  | three ha hb hc =>
    obtain ⟨h1, h2⟩ := lead_classes.2.1 ha
    simp [runeLen, h1, h2, ha, hb, hc]
  | four ha hb hc hd =>
    obtain ⟨h1, h2, h3⟩ := lead_classes.2.2 ha
    simp [runeLen, h1, h2, h3, ha, hb, hc, hd]

theorem IsRune.utf8Valid_append (h : IsRune r) (t : Bytes) :
    utf8Valid (r ++ t) = utf8Valid t := by
  cases h with
  | one ha => simp only [List.singleton_append, utf8Valid.eq_def (_ :: t), if_pos ha]
  | two ha hb => simp [utf8Valid, lead_classes.1 ha, ha, hb]
  | three ha hb hc =>
    obtain ⟨h1, h2⟩ := lead_classes.2.1 ha
    simp [utf8Valid, h1, h2, ha, hb, hc]
  | four ha hb hc hd =>
    obtain ⟨h1, h2, h3⟩ := lead_classes.2.2 ha
    simp [utf8Valid, h1, h2, h3, ha, hb, hc, hd]

variable {b : UInt8}

theorem isCont_ge (h : isCont b = true) : 0x80 ≤ b := by
  simp only [isCont, Bool.and_eq_true, decide_eq_true_eq] at h
  exact h.1

theorem secondByte_ge {a b : UInt8} (h : secondByte a b = true) : 0x80 ≤ b := by
  have hA0 : (0x80 : UInt8) ≤ 0xA0 := by decide
  have h90 : (0x80 : UInt8) ≤ 0x90 := by decide
  unfold secondByte at h
  split_ifs at h
  · simp only [Bool.and_eq_true, decide_eq_true_eq] at h
    exact UInt8.le_trans hA0 h.1
  · simp only [Bool.and_eq_true, decide_eq_true_eq] at h
    exact h.1
  · simp only [Bool.and_eq_true, decide_eq_true_eq] at h
    exact UInt8.le_trans h90 h.1
  · simp only [Bool.and_eq_true, decide_eq_true_eq] at h
    exact h.1
  · exact isCont_ge h

/-- An encoding is an ASCII byte, or bytes above that range. -/
theorem IsRune.shape (h : IsRune r) :
    (∃ a, a < 0x80 ∧ r = [a]) ∨ 2 ≤ r.length ∧ ∀ b ∈ r, 0x80 ≤ b := by
  cases h with
  | one ha => exact .inl ⟨_, ha, rfl⟩
  | two ha hb =>
    refine .inr ⟨le_rfl, ?_⟩
    simpa using ⟨UInt8.not_lt.mp (lead_classes.1 ha), isCont_ge hb⟩
  | three ha hb hc =>
    refine .inr ⟨Nat.le_succ 2, ?_⟩
    simpa using ⟨UInt8.not_lt.mp (lead_classes.2.1 ha).1, secondByte_ge hb, isCont_ge hc⟩
  | four ha hb hc hd =>
    refine .inr ⟨by simp, ?_⟩
    simpa using ⟨UInt8.not_lt.mp (lead_classes.2.2 ha).1, secondByte_ge hb, isCont_ge hc, isCont_ge hd⟩

theorem IsRune.ne_nil (h : IsRune r) : r ≠ [] := by
  cases h <;> simp

/-- A valid string is empty or begins with an encoding. -/
theorem runeLen_ne_zero (h : utf8Valid s = true) (hne : s ≠ []) :
    runeLen s ≠ 0 := by
  match s with
  | [] => exact absurd rfl hne
  | a :: s =>
    simp only [utf8Valid.eq_def (a :: s)] at h
    simp only [runeLen.eq_def]
    split_ifs at h ⊢ with h1 h2 h3 h4
    · decide
    · rcases s with _ | ⟨b, s⟩ <;> simp_all
    · rcases s with _ | ⟨b, _ | ⟨c, s⟩⟩ <;> simp_all
    · rcases s with _ | ⟨b, _ | ⟨c, _ | ⟨d, s⟩⟩⟩ <;> simp_all

/-- Valid strings, encoding by encoding. -/
theorem utf8Valid_induction {motive : Bytes → Prop} (nil : motive [])
    (append : ∀ r t, IsRune r → utf8Valid t = true → motive t → motive (r ++ t))
    (h : utf8Valid s = true) : motive s := by
  generalize hn : s.length = n
  induction n using Nat.strong_induction_on generalizing s with
  | _ n ih =>
    by_cases hs : s = []
    · rwa [hs]
    obtain ⟨r, t, rfl, hr, -⟩ := exists_rune (runeLen_ne_zero h hs)
    rw [hr.utf8Valid_append] at h
    have hpos := List.length_pos_iff.mpr hr.ne_nil
    rw [List.length_append] at hn
    exact append r t hr h (ih _ (by omega) h rfl)

theorem utf8Valid_append {s t : Bytes} (hs : utf8Valid s = true) (ht : utf8Valid t = true) :
    utf8Valid (s ++ t) = true := by
  refine utf8Valid_induction (motive := fun s => utf8Valid (s ++ t) = true) ht ?_ hs
  intro r s hr _ ih
  rw [List.append_assoc, hr.utf8Valid_append, ih]

/-! ### Strings as JSON keeps them -/

theorem split_rune (hr : IsRune r) (t : Bytes) (n : Nat) :
    split (n + 1) (r ++ t) = some r :: split n t := by
  obtain ⟨a, r, rfl⟩ := List.exists_cons_of_ne_nil hr.ne_nil
  have hlen := hr.runeLen_append t
  rw [List.cons_append] at hlen ⊢
  rw [split, hlen, List.length_cons]
  simp

/-- What a string is split into are encodings. -/
theorem isRune_of_mem_split {n : Nat} {s r : Bytes} (h : some r ∈ split n s) : IsRune r := by
  induction n generalizing s with
  | zero => simp [split] at h
  | succ n ih =>
    by_cases hs : runeLen s = 0
    · cases s with
      | nil => simp [split] at h
      | cons a s =>
        rw [split, hs] at h
        exact ih (by simpa using h)
    · obtain ⟨r', t, rfl, hr', -⟩ := exists_rune hs
      rw [split_rune hr'] at h
      rcases List.mem_cons.mp h with heq | h
      · exact (Option.some.inj heq) ▸ hr'
      · exact ih h

theorem isRune_of_mem {s r : Bytes} (h : some r ∈ runes s) : IsRune r := isRune_of_mem_split h

/-- **A string that is UTF-8 stays as it is.** -/
theorem coerce_eq_self (h : utf8Valid s = true) : coerce s = s := by
  have hsplit : ∀ n, s.length ≤ n → (split n s).flatMap (fun r => r.getD replacement) = s := by
    refine utf8Valid_induction
      (motive := fun s => ∀ n, s.length ≤ n →
        (split n s).flatMap (fun r => r.getD replacement) = s) ?_ ?_ h
    · intro n _
      cases n <;> rfl
    · intro r t hr _ ih n hn
      have hpos := List.length_pos_iff.mpr hr.ne_nil
      rw [List.length_append] at hn
      obtain ⟨m, rfl⟩ : ∃ m, n = m + 1 := ⟨n - 1, by omega⟩
      rw [split_rune hr, List.flatMap_cons, ih m (by omega)]
      rfl
  exact hsplit _ le_rfl

/-- A byte of the string that JSON keeps is one of the string, or of U+FFFD. -/
theorem mem_coerce (h : b ∈ coerce s) : b ∈ s ∨ b ∈ replacement := by
  have hsplit : ∀ n, ∀ s : Bytes, b ∈ (split n s).flatMap (fun r => r.getD replacement) →
      b ∈ s ∨ b ∈ replacement := by
    intro n
    induction n with
    | zero => simp [split]
    | succ n ih =>
      intro s hb
      by_cases hs : runeLen s = 0
      · cases s with
        | nil => simp [split] at hb
        | cons a s =>
          rw [split, hs, List.flatMap_cons, List.mem_append] at hb
          rcases hb with hb | hb
          · exact .inr hb
          · exact (ih s hb).imp_left fun hb => List.mem_cons_of_mem _ hb
      · obtain ⟨r, t, rfl, hr, -⟩ := exists_rune hs
        rw [split_rune hr, List.flatMap_cons, List.mem_append] at hb
        rcases hb with hb | hb
        · exact .inl (List.mem_append_left _ hb)
        · exact (ih t hb).imp_left fun hb => List.mem_append_right _ hb
  exact hsplit _ s h

theorem coerce_ne_nil (h : s ≠ []) : coerce s ≠ [] := by
  obtain ⟨a, s, rfl⟩ := List.exists_cons_of_ne_nil h
  rw [coerce, runes, List.length_cons]
  by_cases hs : runeLen (a :: s) = 0
  · rw [split, hs, List.flatMap_cons]
    simp [replacement]
  · obtain ⟨r, t, heq, hr, -⟩ := exists_rune hs
    rw [heq, split_rune hr, List.flatMap_cons]
    simp [hr.ne_nil]

/-! ### The writer -/

/-- A hexadecimal digit. -/
def hexDigit (n : Nat) : UInt8 := UInt8.ofNat (if n < 10 then 48 + n else 87 + n)

/-- An ASCII character within a string: the HTML characters are escaped too. -/
def escape (a : UInt8) : Bytes :=
  if a = 34 ∨ a = 92 then [92, a]
  else if a = 8 then [92, 98]
  else if a = 12 then [92, 102]
  else if a = 10 then [92, 110]
  else if a = 13 then [92, 114]
  else if a = 9 then [92, 116]
  else if a < 0x20 ∨ a = 60 ∨ a = 62 ∨ a = 38 then
    [92, 117, 48, 48, hexDigit (a.toNat / 16), hexDigit (a.toNat % 16)]
  else [a]

/-- A piece of a string: an encoding, with U+2028 and U+2029 escaped, or the escape of U+FFFD. -/
def quoteRune : Option Bytes → Bytes
  | none => [92, 117, 102, 102, 102, 100]
  | some [a] => escape a
  | some r =>
    if r = [0xE2, 0x80, 0xA8] then [92, 117, 50, 48, 50, 56]
    else if r = [0xE2, 0x80, 0xA9] then [92, 117, 50, 48, 50, 57]
    else r

/-- A string with its quotes. -/
def quote (s : Bytes) : Bytes := 34 :: ((runes s).flatMap quoteRune ++ [34])

/-- The values of a flat record. -/
inductive Value
  | str (s : Bytes)
  | int (i : Int64)
  | strs (l : List Bytes)
  deriving DecidableEq, Repr

/-- Items with commas between them and the closing character. -/
def joined {α : Type} (write : α → Bytes) (close : UInt8) : List α → Bytes
  | [] => [close]
  | [a] => write a ++ [close]
  | a :: as => write a ++ 44 :: joined write close as

def marshalValue : Value → Bytes
  | .str s => quote s
  | .int i => (Decimal.formatInt i.toInt).map UInt8.ofNat
  | .strs l => 91 :: joined quote 93 l

def marshalField (f : Bytes × Value) : Bytes := quote f.1 ++ 58 :: marshalValue f.2

/-- `json.Marshal` of a flat record, given as its fields in order. -/
def marshal (fields : List (Bytes × Value)) : Bytes := 123 :: joined marshalField 125 fields

example : marshal [(bytes "a", .str (bytes "x\n<")), (bytes "b", .int 7)] =
    bytes "\x7b\"a\":\"x\\n\\u003c\",\"b\":7\x7d" := by
  decide +kernel

/-- What a reader gets of a value. -/
def Value.coerce : Value → Value
  | .str s => .str (Json.coerce s)
  | .int i => .int i
  | .strs l => .strs (l.map Json.coerce)

/-- What a reader gets of a record. -/
def transported (fields : List (Bytes × Value)) : List (Bytes × Value) :=
  fields.map fun f => (coerce f.1, f.2.coerce)

/-- **A decoder that reads what was written.** -/
structure Reader where
  decode : Bytes → Option (List (Bytes × Value))
  decode_marshal : ∀ fields, decode (marshal fields) = some (transported fields)

/-! ### Fields by name -/

/-- A string of a record: empty when there is none, `none` when it is no string. -/
def getString (fields : List (Bytes × Value)) (name : String) : Option Bytes :=
  match fields.lookup (bytes name) with
  | none => some []
  | some (.str s) => some s
  | some _ => none

/-- A list of strings of a record. -/
def getStrings (fields : List (Bytes × Value)) (name : String) : Option (List Bytes) :=
  match fields.lookup (bytes name) with
  | none => some []
  | some (.strs l) => some l
  | some _ => none

/-- A number of a record. -/
def getInt (fields : List (Bytes × Value)) (name : String) : Option Int64 :=
  match fields.lookup (bytes name) with
  | none => some 0
  | some (.int i) => some i
  | some _ => none

/-- A number that may be missing. -/
def getInt? (fields : List (Bytes × Value)) (name : String) : Option (Option Int64) :=
  match fields.lookup (bytes name) with
  | none => some none
  | some (.int i) => some (some i)
  | some _ => none

/-- Names that JSON leaves alone and that differ from each other. -/
structure Names (names : List Bytes) : Prop where
  kept : ∀ name ∈ names, coerce name = name
  nodup : names.Nodup

variable {fields : List (Bytes × Value)}

theorem lookup_of_mem (hnodup : (fields.map (·.1)).Nodup)
    {name : Bytes} {v : Value} (h : (name, v) ∈ fields) : fields.lookup name = some v := by
  induction fields with
  | nil => cases h
  | cons f fields ih =>
    rw [List.map_cons, List.nodup_cons] at hnodup
    obtain ⟨k, w⟩ := f
    rcases List.mem_cons.mp h with heq | hrest
    · cases heq
      exact List.lookup_cons_self
    · have hne : name ≠ k := by
        rintro rfl
        exact hnodup.1 (List.mem_map.mpr ⟨_, hrest, rfl⟩)
      rw [List.lookup_cons, beq_false_of_ne hne]
      exact ih hnodup.2 hrest

theorem Names.map_transported (h : Names (fields.map (·.1))) :
    (transported fields).map (·.1) = fields.map (·.1) := by
  rw [transported, List.map_map]
  exact List.map_congr_left fun f hf => h.kept f.1 (List.mem_map_of_mem (f := Prod.fst) hf)

theorem Names.mem (h : Names (fields.map (·.1)))
    {f : Bytes × Value} (hf : f ∈ transported fields) : f.1 ∈ fields.map (·.1) :=
  h.map_transported ▸ List.mem_map_of_mem hf

/-- A field of a record is found after the transport. -/
theorem Names.lookup (h : Names (fields.map (·.1))) {name : Bytes}
    {v : Value} (hmem : (name, v) ∈ fields) : (transported fields).lookup name = some v.coerce := by
  refine lookup_of_mem (h.map_transported ▸ h.nodup) (List.mem_map.mpr ⟨_, hmem, ?_⟩)
  rw [h.kept name (List.mem_map_of_mem (f := Prod.fst) hmem)]

variable {name : String}

theorem Names.getString (h : Names (fields.map (·.1))) (hmem : (bytes name, .str s) ∈ fields) :
    getString (transported fields) name = some (coerce s) := by
  rw [Json.getString, h.lookup hmem]
  rfl

theorem Names.getStrings (h : Names (fields.map (·.1)))
    {l : List Bytes} (hmem : (bytes name, .strs l) ∈ fields) :
    getStrings (transported fields) name = some (l.map coerce) := by
  rw [Json.getStrings, h.lookup hmem]
  rfl

theorem Names.getInt (h : Names (fields.map (·.1)))
    {i : Int64} (hmem : (bytes name, .int i) ∈ fields) :
    getInt (transported fields) name = some i := by
  rw [Json.getInt, h.lookup hmem]
  rfl

theorem Names.getInt? (h : Names (fields.map (·.1)))
    {i : Int64} (hmem : (bytes name, .int i) ∈ fields) :
    getInt? (transported fields) name = some (some i) := by
  rw [Json.getInt?, h.lookup hmem]
  rfl

/-! ### What is written is UTF-8 -/

theorem utf8Valid_ascii (h : ∀ b ∈ s, b < 0x80) : utf8Valid s = true := by
  induction s with
  | nil => rfl
  | cons a s ih =>
    have ha := IsRune.one (h a (List.mem_cons_self ..))
    exact (ha.utf8Valid_append s).trans (ih fun b hb => h b (List.mem_cons_of_mem _ hb))

theorem hexDigit_lt {n : Nat} (h : n < 16) : hexDigit n < 0x80 := by
  revert n
  decide

theorem escape_lt (h : a < 0x80) : ∀ b ∈ escape a, b < 0x80 := by
  have hhi : a.toNat / 16 < 16 := by have := a.toNat_lt; omega
  have hlo : a.toNat % 16 < 16 := Nat.mod_lt _ (by decide)
  unfold escape
  split_ifs
  all_goals
    intro b hb
    simp only [List.mem_cons, List.not_mem_nil, or_false] at hb
  · rcases hb with rfl | rfl
    · decide
    · exact h
  iterate 5
    · rcases hb with rfl | rfl <;> decide
  · rcases hb with rfl | rfl | rfl | rfl | rfl | rfl
    iterate 4
      · decide
    · exact hexDigit_lt hhi
    · exact hexDigit_lt hlo
  · exact hb ▸ h

variable {p : Option Bytes}

/-- The ways a piece of a string is written: an invalid byte and the two line separators by their
    code points, an ASCII character with its escape, and everything else as it is. -/
theorem quoteRune_cases (h : ∀ r, p = some r → IsRune r) :
    p = none ∨ (∃ b : UInt8, b < 0x80 ∧ p = some [b]) ∨ p = some [0xE2, 0x80, 0xA8] ∨
      p = some [0xE2, 0x80, 0xA9] ∨
      ∃ r, p = some r ∧ (∀ b ∈ r, 0x80 ≤ b) ∧ quoteRune p = r := by
  rcases p with _ | r
  · exact .inl rfl
  rcases (h r rfl).shape with ⟨b, hb, rfl⟩ | ⟨hlen, hhigh⟩
  · exact .inr (.inl ⟨b, hb, rfl⟩)
  by_cases h8 : r = [0xE2, 0x80, 0xA8]
  · exact .inr (.inr (.inl (congrArg some h8)))
  by_cases h9 : r = [0xE2, 0x80, 0xA9]
  · exact .inr (.inr (.inr (.inl (congrArg some h9))))
  have hone : ∀ a, r ≠ [a] := by
    rintro a rfl
    simp at hlen
  exact .inr (.inr (.inr (.inr ⟨r, rfl, hhigh, by simp [quoteRune, h8, h9]⟩)))

theorem utf8Valid_quoteRune (h : ∀ r, p = some r → IsRune r) :
    utf8Valid (quoteRune p) = true := by
  rcases quoteRune_cases h with rfl | ⟨b, hb, rfl⟩ | rfl | rfl | ⟨r, rfl, -, hr⟩
  · decide
  · exact utf8Valid_ascii (escape_lt hb)
  · decide
  · decide
  · rw [hr]
    have hvalid := (h r rfl).utf8Valid_append []
    rwa [List.append_nil] at hvalid

theorem utf8Valid_flatMap {α : Type} {f : α → Bytes} {l : List α}
    (h : ∀ a ∈ l, utf8Valid (f a) = true) : utf8Valid (l.flatMap f) = true := by
  induction l with
  | nil => rfl
  | cons a l ih =>
    rw [List.flatMap_cons]
    exact utf8Valid_append (h a (List.mem_cons_self ..))
      (ih fun b hb => h b (List.mem_cons_of_mem _ hb))

theorem utf8Valid_cons (ha : a < 0x80) (h : utf8Valid s = true) :
    utf8Valid (a :: s) = true :=
  ((IsRune.one ha).utf8Valid_append s).trans h

theorem utf8Valid_quote (s : Bytes) : utf8Valid (quote s) = true := by
  refine utf8Valid_cons (by decide) (utf8Valid_append (utf8Valid_flatMap fun p hp => ?_) (by decide))
  exact utf8Valid_quoteRune fun r hr => isRune_of_mem (hr ▸ hp)

theorem utf8Valid_joined {α : Type} {write : α → Bytes} {close : UInt8} (hclose : close < 0x80)
    (h : ∀ a, utf8Valid (write a) = true) (l : List α) :
    utf8Valid (joined write close l) = true := by
  induction l with
  | nil => exact utf8Valid_cons hclose rfl
  | cons a l ih =>
    cases l with
    | nil => exact utf8Valid_append (h a) (utf8Valid_cons hclose rfl)
    | cons b l => exact utf8Valid_append (h a) (utf8Valid_cons (by decide) ih)

/-- The bytes of a number. -/
def isNumeric (b : UInt8) : Bool := b = 45 || (48 ≤ b && b ≤ 57)

theorem isNumeric_formatInt {i : Int}
    (h : b ∈ (Decimal.formatInt i).map UInt8.ofNat) : isNumeric b = true := by
  obtain ⟨c, hc, rfl⟩ := List.mem_map.mp h
  have hunits := Decimal.mem_formatInt hc
  have hrange : 45 ≤ c ∧ c < 58 := by omega
  obtain ⟨hlo, hhi⟩ := hrange
  interval_cases c <;> simp_all <;> decide

theorem isNumeric_lt (h : isNumeric b = true) : b < 0x80 := by
  simp only [isNumeric, Bool.or_eq_true, Bool.and_eq_true, decide_eq_true_eq] at h
  rcases h with rfl | ⟨-, hb⟩
  · decide
  · exact UInt8.lt_of_le_of_lt hb (by decide)

theorem utf8Valid_marshal (fields : List (Bytes × Value)) : utf8Valid (marshal fields) = true := by
  have hvalue : ∀ v, utf8Valid (marshalValue v) = true := by
    intro v
    cases v with
    | str s => exact utf8Valid_quote s
    | int i => exact utf8Valid_ascii fun b hb => isNumeric_lt (isNumeric_formatInt hb)
    | strs l => exact utf8Valid_cons (by decide) (utf8Valid_joined (by decide) utf8Valid_quote l)
  refine utf8Valid_cons (by decide) (utf8Valid_joined (by decide) (fun f => ?_) fields)
  exact utf8Valid_append (utf8Valid_quote f.1) (utf8Valid_cons (by decide) (hvalue f.2))

/-! ### A reader -/

/-- The value of a hexadecimal digit. -/
def hexValue (b : UInt8) : Option Nat :=
  if 48 ≤ b ∧ b ≤ 57 then some (b.toNat - 48)
  else if 97 ≤ b ∧ b ≤ 102 then some (b.toNat - 87)
  else none

/-- The character behind a backslash. -/
def unescape (e : UInt8) : Option UInt8 :=
  if e = 34 ∨ e = 92 then some e
  else if e = 98 then some 8
  else if e = 102 then some 12
  else if e = 110 then some 10
  else if e = 114 then some 13
  else if e = 116 then some 9
  else none

/-- The rest of a string behind its opening quote, and what follows it. -/
def readString : Bytes → Option (Bytes × Bytes)
  | [] => none
  | b :: rest =>
    if b = 34 then some ([], rest)
    else if b = 92 then
      match rest with
      | [] => none
      | e :: rest =>
        if e = 117 then
          match rest with
          | h₁ :: h₂ :: h₃ :: h₄ :: rest => do
            let n₁ ← hexValue h₁
            let n₂ ← hexValue h₂
            let n₃ ← hexValue h₃
            let n₄ ← hexValue h₄
            let (s, rest) ← readString rest
            some (Text.encodeRune (((n₁ * 16 + n₂) * 16 + n₃) * 16 + n₄) ++ s, rest)
          | _ => none
        else do
          let c ← unescape e
          let (s, rest) ← readString rest
          some (c :: s, rest)
    else do
      let (s, rest) ← readString rest
      some (b :: s, rest)

/-- A quoted string, and what follows it. -/
def readQuoted : Bytes → Option (Bytes × Bytes)
  | 34 :: rest => readString rest
  | _ => none

/-- Items with commas between them up to the closing character, at most `fuel` of them. -/
def readItems {α : Type} (item : Bytes → Option (α × Bytes)) (close : UInt8) :
    Nat → Bytes → Option (List α × Bytes)
  | 0, _ => none
  | fuel + 1, s => do
    let (a, s) ← item s
    match s with
    | [] => none
    | c :: s =>
      if c = close then some ([a], s)
      else if c = 44 then do
        let (as, s) ← readItems item close fuel s
        some (a :: as, s)
      else none

/-- A possibly empty list of items. -/
def readList {α : Type} (item : Bytes → Option (α × Bytes)) (close : UInt8) (s : Bytes) :
    Option (List α × Bytes) :=
  match s with
  | [] => none
  | c :: rest => if c = close then some ([], rest) else readItems item close s.length s

def readInt (s : Bytes) : Option (Int64 × Bytes) := do
  let i ← Decimal.parseInt 64 ((s.takeWhile isNumeric).map UInt8.toNat)
  some (Int64.ofInt i, s.dropWhile isNumeric)

def readValue (s : Bytes) : Option (Value × Bytes) :=
  if s.head? = some 34 then (readQuoted s).map fun (s, rest) => (.str s, rest)
  else if s.head? = some 91 then
    (readList readQuoted 93 s.tail).map fun (l, rest) => (.strs l, rest)
  else (readInt s).map fun (i, rest) => (.int i, rest)

def readField (s : Bytes) : Option ((Bytes × Value) × Bytes) := do
  let (name, s) ← readQuoted s
  match s with
  | 58 :: s => do
    let (value, s) ← readValue s
    some ((name, value), s)
  | _ => none

def readRecord : Bytes → Option (List (Bytes × Value))
  | 123 :: s => do
    let (fields, rest) ← readList readField 125 s
    if rest = [] then some fields else none
  | _ => none

/-- A byte of a string that stands for itself. -/
theorem readString_plain (h34 : b ≠ 34) (h92 : b ≠ 92) (rest : Bytes) :
    readString (b :: rest) = (readString rest).map fun (s, t) => (b :: s, t) := by
  rw [readString.eq_def]
  simp only [if_neg h34, if_neg h92]
  cases readString rest <;> rfl

theorem readString_unicode {h₁ h₂ h₃ h₄ : UInt8} {n₁ n₂ n₃ n₄ : Nat}
    (e₁ : hexValue h₁ = some n₁) (e₂ : hexValue h₂ = some n₂) (e₃ : hexValue h₃ = some n₃)
    (e₄ : hexValue h₄ = some n₄) (rest : Bytes) :
    readString (92 :: 117 :: h₁ :: h₂ :: h₃ :: h₄ :: rest) = (readString rest).map fun (s, t) =>
      (Text.encodeRune (((n₁ * 16 + n₂) * 16 + n₃) * 16 + n₄) ++ s, t) := by
  rw [readString.eq_def]
  simp only [e₁, e₂, e₃, e₄, Option.bind_eq_bind, Option.bind_some]
  cases readString rest <;> rfl

theorem readString_short {e c : UInt8} (he : e ≠ 117) (hc : unescape e = some c) (rest : Bytes) :
    readString (92 :: e :: rest) = (readString rest).map fun (s, t) => (c :: s, t) := by
  rw [readString.eq_def]
  simp only [if_neg he, hc, Option.bind_eq_bind, Option.bind_some]
  cases readString rest <;> rfl

theorem hexValue_hexDigit {n : Nat} (h : n < 16) : hexValue (hexDigit n) = some n := by
  revert n
  decide

/-- An escaped character is read back. -/
theorem readString_escape (h : a < 0x80) (rest : Bytes) :
    readString (escape a ++ rest) = (readString rest).map fun (s, t) => (a :: s, t) := by
  have hlt := a.toNat_lt
  have hhi : a.toNat / 16 < 16 := by omega
  have hlo : a.toNat % 16 < 16 := Nat.mod_lt _ (by decide)
  unfold escape
  split_ifs with h1 h2 h3 h4 h5 h6 h7
  · exact readString_short (by rcases h1 with rfl | rfl <;> decide) (if_pos h1) rest
  · subst h2; exact readString_short (by decide) rfl rest
  · subst h3; exact readString_short (by decide) rfl rest
  · subst h4; exact readString_short (by decide) rfl rest
  · subst h5; exact readString_short (by decide) rfl rest
  · subst h6; exact readString_short (by decide) rfl rest
  · have hval : ((0 * 16 + 0) * 16 + a.toNat / 16) * 16 + a.toNat % 16 = a.toNat := by omega
    have hsmall : a.toNat < 0x80 := UInt8.lt_iff_toNat_lt.mp h
    have hrune : Text.encodeRune a.toNat = [a] := by
      rw [Text.encodeRune, if_pos hsmall, UInt8.ofNat_toNat]
    have hzero : hexValue 48 = some 0 := by decide
    have hread := readString_unicode hzero hzero (hexValue_hexDigit hhi) (hexValue_hexDigit hlo) rest
    rw [hval, hrune] at hread
    exact hread
  · exact readString_plain (fun h34 => h1 (.inl h34)) (fun h92 => h1 (.inr h92)) rest

theorem readString_high (h : ∀ b ∈ r, 0x80 ≤ b) (rest : Bytes) :
    readString (r ++ rest) = (readString rest).map fun (s, t) => (r ++ s, t) := by
  induction r with
  | nil =>
    rw [List.nil_append]
    cases readString rest <;> rfl
  | cons b r ih =>
    have hb := h b (List.mem_cons_self ..)
    have h34 : b ≠ 34 := by rintro rfl; exact absurd hb (by decide)
    have h92 : b ≠ 92 := by rintro rfl; exact absurd hb (by decide)
    rw [List.cons_append, readString_plain h34 h92, ih fun c hc => h c (List.mem_cons_of_mem _ hc)]
    cases readString rest <;> rfl

/-- A piece of a string is read back, an invalid byte as U+FFFD. -/
theorem readString_quoteRune (h : ∀ r, p = some r → IsRune r) (rest : Bytes) :
    readString (quoteRune p ++ rest) =
      (readString rest).map fun (s, t) => (p.getD replacement ++ s, t) := by
  have hf : hexValue 102 = some 15 := by decide
  have h2 : hexValue 50 = some 2 := by decide
  have h0 : hexValue 48 = some 0 := by decide
  rcases quoteRune_cases h with rfl | ⟨b, hb, rfl⟩ | rfl | rfl | ⟨r, rfl, hhigh, hr⟩
  · exact readString_unicode hf hf hf (show hexValue 100 = some 13 by decide) rest
  · exact readString_escape hb rest
  · exact readString_unicode h2 h0 h2 (show hexValue 56 = some 8 by decide) rest
  · exact readString_unicode h2 h0 h2 (show hexValue 57 = some 9 by decide) rest
  · rw [hr]
    exact readString_high hhigh rest

/-- **A written string is read back**, up to its invalid bytes. -/
theorem readQuoted_quote (s rest : Bytes) :
    readQuoted (quote s ++ rest) = some (coerce s, rest) := by
  have hpieces : ∀ ps : List (Option Bytes), (∀ r, some r ∈ ps → IsRune r) →
      readString (ps.flatMap quoteRune ++ 34 :: rest) =
        some (ps.flatMap (fun r => r.getD replacement), rest) := by
    intro ps hps
    induction ps with
    | nil =>
      show readString (34 :: rest) = some ([], rest)
      rw [readString.eq_def]
      rfl
    | cons p ps ih =>
      have hp : ∀ r, p = some r → IsRune r := fun r hr => hps r (hr ▸ List.mem_cons_self ..)
      rw [List.flatMap_cons, List.append_assoc, readString_quoteRune hp,
        ih fun r hr => hps r (List.mem_cons_of_mem _ hr)]
      rfl
  have hread := hpieces (runes s) fun r hr => isRune_of_mem hr
  rw [quote, List.cons_append, List.append_assoc]
  exact hread

/-- Items are read back when each of them is, in front of a comma or the end. -/
theorem readItems_joined {α β : Type} {write : α → Bytes} {item : Bytes → Option (β × Bytes)}
    {f : α → β} {close : UInt8} (hclose : close ≠ 44)
    (hitem : ∀ a c rest, c = 44 ∨ c = close →
      item (write a ++ c :: rest) = some (f a, c :: rest))
    {l : List α} (hl : l ≠ []) {fuel : Nat} (hfuel : l.length ≤ fuel) (rest : Bytes) :
    readItems item close fuel (joined write close l ++ rest) = some (l.map f, rest) := by
  induction l generalizing fuel with
  | nil => exact absurd rfl hl
  | cons a l ih =>
    obtain ⟨n, rfl⟩ : ∃ n, fuel = n + 1 := ⟨fuel - 1, by simp at hfuel; omega⟩
    cases l with
    | nil =>
      have hread := hitem a close rest (.inr rfl)
      rw [joined, List.append_assoc, List.singleton_append, readItems, hread]
      simp
    | cons b l =>
      have hread := hitem a 44 (joined write close (b :: l) ++ rest) (.inl rfl)
      have hmore := ih (List.cons_ne_nil b l) (show (b :: l).length ≤ n by simpa using hfuel)
      rw [joined, List.append_assoc, List.cons_append, readItems, hread]
      · simp only [Option.bind_eq_bind, Option.bind_some, if_neg hclose.symm, if_true, hmore]
        rfl
      · simp

theorem length_le_joined {α : Type} (write : α → Bytes) (close : UInt8) (l : List α) :
    l.length ≤ (joined write close l).length := by
  induction l with
  | nil => simp
  | cons a l ih =>
    cases l with
    | nil => simp [joined]
    | cons b l =>
      rw [joined, List.length_append, List.length_cons, List.length_cons]
      · simp only [List.length_cons] at ih ⊢
        omega
      · simp

/-- A list is read back; no item begins with the closing character. -/
theorem readList_joined {α β : Type} {write : α → Bytes} {item : Bytes → Option (β × Bytes)}
    {f : α → β} {close : UInt8} (hclose : close ≠ 44)
    (hitem : ∀ a c rest, c = 44 ∨ c = close →
      item (write a ++ c :: rest) = some (f a, c :: rest))
    (hhead : ∀ a, ∃ c s, write a = c :: s ∧ c ≠ close) (l : List α) (rest : Bytes) :
    readList item close (joined write close l ++ rest) = some (l.map f, rest) := by
  cases l with
  | nil => simp [joined, readList]
  | cons a l =>
    obtain ⟨c, s, hs, hc⟩ := hhead a
    obtain ⟨t, ht⟩ : ∃ t, joined write close (a :: l) ++ rest = c :: t := by
      cases l with
      | nil => exact ⟨_, by rw [joined, hs, List.cons_append, List.cons_append]⟩
      | cons b l => exact ⟨_, by rw [joined, hs, List.cons_append, List.cons_append]; simp⟩
    have hfuel : (a :: l).length ≤ (joined write close (a :: l) ++ rest).length := by
      have := length_le_joined write close (a :: l)
      rw [List.length_append]
      omega
    have hread := readItems_joined hclose hitem (List.cons_ne_nil a l) hfuel rest
    rw [ht] at hread ⊢
    rw [readList.eq_def]
    simp only [if_neg hc, hread]

theorem quote_cons (s : Bytes) : ∃ t, quote s = 34 :: t := ⟨_, rfl⟩

theorem readInt_formatInt (i : Int64) {c : UInt8} (hc : isNumeric c = false) (rest : Bytes) :
    readInt ((Decimal.formatInt i.toInt).map UInt8.ofNat ++ c :: rest) = some (i, c :: rest) := by
  have hnum : ∀ b ∈ (Decimal.formatInt i.toInt).map UInt8.ofNat, isNumeric b = true :=
    fun b hb => isNumeric_formatInt hb
  have htake : ((Decimal.formatInt i.toInt).map UInt8.ofNat ++ c :: rest).takeWhile isNumeric =
      (Decimal.formatInt i.toInt).map UInt8.ofNat := by
    rw [List.takeWhile_append_of_pos hnum]
    simp [hc]
  have hdrop : ((Decimal.formatInt i.toInt).map UInt8.ofNat ++ c :: rest).dropWhile isNumeric =
      c :: rest := by
    rw [List.dropWhile_append_of_pos hnum]
    simp [hc]
  have hback : ((Decimal.formatInt i.toInt).map UInt8.ofNat).map UInt8.toNat =
      Decimal.formatInt i.toInt := by
    rw [List.map_map]
    refine (List.map_congr_left fun c hc => ?_).trans (List.map_id _)
    simpa using Nat.mod_eq_of_lt (Decimal.formatInt_lt hc)
  have hparse := Decimal.parseInt_formatInt 64 (i := i.toInt) (Int64.le_toInt i) (Int64.toInt_lt i)
  rw [readInt, htake, hdrop, hback, hparse]
  simp

theorem readValue_marshalValue (v : Value) {c : UInt8} (hc : c = 44 ∨ c = 125) (rest : Bytes) :
    readValue (marshalValue v ++ c :: rest) = some (v.coerce, c :: rest) := by
  cases v with
  | str s =>
    obtain ⟨t, ht⟩ := quote_cons s
    have hhead : (marshalValue (.str s) ++ c :: rest).head? = some 34 := by
      rw [marshalValue, ht]
      rfl
    rw [readValue, if_pos hhead, marshalValue, readQuoted_quote]
    rfl
  | int i =>
    have hnum : isNumeric c = false := by rcases hc with rfl | rfl <;> decide
    have hread := readInt_formatInt i hnum rest
    -- a numeral begins neither as a string nor as a list
    have hhead : ∀ x, isNumeric x = false →
        ((Decimal.formatInt i.toInt).map UInt8.ofNat ++ c :: rest).head? ≠ some x := by
      intro x hx heq
      cases hf : (Decimal.formatInt i.toInt).map UInt8.ofNat with
      | nil =>
        rw [hf] at heq hread
        simp [readInt, hnum, Decimal.parseInt, Decimal.parseUint] at hread
      | cons b bs =>
        rw [hf] at heq
        obtain rfl : b = x := by simpa using heq
        have hb := isNumeric_formatInt (i := i.toInt) (b := b) (by simp [hf])
        rw [hx] at hb
        cases hb
    rw [marshalValue, readValue, if_neg (hhead 34 (by decide)), if_neg (hhead 91 (by decide)), hread]
    rfl
  | strs l =>
    have hitem : ∀ s c rest, c = 44 ∨ c = 93 →
        readQuoted (quote s ++ c :: rest) = some (coerce s, c :: rest) :=
      fun s c rest _ => readQuoted_quote s (c :: rest)
    have hread := readList_joined (by decide) hitem
      (fun s => ⟨34, _, rfl, by decide⟩) l (c :: rest)
    rw [readValue, if_neg (by simp [marshalValue]), if_pos (by simp [marshalValue]), marshalValue,
      List.cons_append, List.tail_cons, hread]
    rfl

theorem readField_marshalField (f : Bytes × Value) (c : UInt8) (rest : Bytes)
    (hc : c = 44 ∨ c = 125) :
    readField (marshalField f ++ c :: rest) =
      some ((coerce f.1, f.2.coerce), c :: rest) := by
  rw [marshalField, List.append_assoc, readField, readQuoted_quote]
  simp only [Option.bind_eq_bind, Option.bind_some, List.cons_append,
    readValue_marshalValue f.2 hc rest]

/-- **A reader of what is written and of nothing else.** -/
def strict : Reader where
  decode := readRecord
  decode_marshal fields := by
    have hread := readList_joined (by decide) readField_marshalField
      (fun f => ⟨34, _, by rw [marshalField]; rfl, by decide⟩) fields []
    rw [List.append_nil] at hread
    rw [marshal, readRecord, hread]
    rfl

end Json
