import Mathlib.Data.List.Basic
import Mathlib.Tactic.Ring

namespace Wire

/-!
# Byte strings on the wire

What a binary format needs from the bytes it is written in, and nothing about any format.

* `bytes` — the bytes of a string literal;
* `putBE`, `readBE` — unsigned integers in a fixed number of bytes, most significant first,
  with both round trips;
* `readBE_take_putBE`, `drop_putBE`, `putBE_readBE_take` — a number in front of a message;
* `utf8Valid` — the byte strings that are UTF-8;
* `readFull` — filling a buffer from a reader that hands out its content in pieces; it sees
  only the concatenation (`readFull_some`).
-/

/-- A byte string.  Go's `string` and `[]byte` are both byte strings. -/
abbrev Bytes := List UInt8

-- Membership in a list of byte strings is decided by one instance in every module.
instance : LawfulBEq Bytes := inferInstance

/-- The bytes of a literal. -/
def bytes (s : String) : Bytes := s.toUTF8.data.toList

/-! ### Fixed-width integers -/

/-- The low `w` bytes of `n`, most significant first; higher bits are dropped, as a
    conversion to the fixed-width type drops them. -/
def putBE : Nat → Nat → Bytes
  | 0, _ => []
  | w + 1, n => UInt8.ofNat (n / 256 ^ w) :: putBE w n

/-- The number a byte string is, most significant byte first. -/
def readBE : Bytes → Nat
  | [] => 0
  | b :: bs => b.toNat * 256 ^ bs.length + readBE bs

@[simp] theorem length_putBE (w n : Nat) : (putBE w n).length = w := by
  induction w with
  | zero => rfl
  | succ w ih => simp [putBE, ih]

/-- What is read fits the number of bytes read. -/
theorem readBE_lt (bs : Bytes) : readBE bs < 256 ^ bs.length := by
  induction bs with
  | nil => simp [readBE]
  | cons b bs ih =>
    have hb : b.toNat + 1 ≤ 256 := b.toNat_lt
    calc b.toNat * 256 ^ bs.length + readBE bs
        < b.toNat * 256 ^ bs.length + 256 ^ bs.length := Nat.add_lt_add_left ih _
      _ = (b.toNat + 1) * 256 ^ bs.length := by ring
      _ ≤ 256 * 256 ^ bs.length := Nat.mul_le_mul_right _ hb
      _ = 256 ^ (b :: bs).length := by simp [pow_succ, Nat.mul_comm]

/-- Reading drops exactly what writing dropped. -/
theorem readBE_putBE_mod (w n : Nat) : readBE (putBE w n) = n % 256 ^ w := by
  induction w with
  | zero => simp [putBE, readBE, Nat.mod_one]
  | succ w ih =>
    have hbyte : (UInt8.ofNat (n / 256 ^ w)).toNat = n / 256 ^ w % 256 := by simp
    simp only [putBE, readBE, length_putBE, ih, hbyte]
    rw [pow_succ, Nat.mod_mul, Nat.mul_comm (256 ^ w), Nat.add_comm]

/-- **Write, then read**: a number that fits comes back. -/
theorem readBE_putBE {w n : Nat} (h : n < 256 ^ w) : readBE (putBE w n) = n := by
  rw [readBE_putBE_mod, Nat.mod_eq_of_lt h]

/-- Only the low bits are written, so a multiple of the width in front makes no difference. -/
theorem putBE_add_mul (w k n : Nat) : putBE w (k * 256 ^ w + n) = putBE w n := by
  induction w generalizing k with
  | zero => rfl
  | succ w ih =>
    have hpos : 0 < 256 ^ w := Nat.pow_pos (by decide)
    have hsplit : k * 256 ^ (w + 1) + n = (k * 256) * 256 ^ w + n := by ring
    have hbyte : (k * 256 ^ (w + 1) + n) / 256 ^ w = k * 256 + n / 256 ^ w := by
      rw [hsplit, Nat.add_comm, Nat.add_mul_div_right _ _ hpos, Nat.add_comm]
    have hlow : UInt8.ofNat (k * 256 + n / 256 ^ w) = UInt8.ofNat (n / 256 ^ w) := by
      apply UInt8.toNat.inj
      simp
    rw [putBE, putBE, hbyte, hlow, hsplit, ih]

/-- **Read, then write**: the bytes come back. -/
theorem putBE_readBE (bs : Bytes) : putBE bs.length (readBE bs) = bs := by
  induction bs with
  | nil => rfl
  | cons b bs ih =>
    have hpos : 0 < 256 ^ bs.length := Nat.pow_pos (by decide)
    have hdiv : (b.toNat * 256 ^ bs.length + readBE bs) / 256 ^ bs.length = b.toNat := by
      rw [Nat.add_comm, Nat.add_mul_div_right _ _ hpos,
        Nat.div_eq_of_lt (readBE_lt bs), Nat.zero_add]
    simp only [List.length_cons, putBE, readBE, hdiv, putBE_add_mul, ih, UInt8.ofNat_toNat]

/-! ### A number in front of a message -/

/-- The number in front of a message. -/
theorem readBE_take_putBE {w n : Nat} (h : n < 256 ^ w) (rest : Bytes) :
    readBE ((putBE w n ++ rest).take w) = n := by
  rw [List.take_left' (length_putBE w n), readBE_putBE h]

theorem drop_putBE (w n : Nat) (rest : Bytes) : (putBE w n ++ rest).drop w = rest :=
  List.drop_left' (length_putBE w n)

/-- A byte string that is long enough starts with the number its first bytes are. -/
theorem putBE_readBE_take {w : Nat} {bs : Bytes} (h : w ≤ bs.length) :
    putBE w (readBE (bs.take w)) ++ bs.drop w = bs := by
  have hlen : (bs.take w).length = w := by simp [h]
  have hback := putBE_readBE (bs.take w)
  rw [hlen] at hback
  rw [hback, List.take_append_drop]

/-- A number read from `w` bytes fits `w` bytes. -/
theorem readBE_take_lt (w : Nat) (bs : Bytes) : readBE (bs.take w) < 256 ^ w := by
  have hle : (bs.take w).length ≤ w := by simp
  exact lt_of_lt_of_le (readBE_lt _) (Nat.pow_le_pow_right (by decide) hle)

/-! ### UTF-8 -/

/-- A continuation byte. -/
def isCont (b : UInt8) : Bool := 0x80 ≤ b && b ≤ 0xBF

/-- The second bytes a leading byte admits: overlong forms, surrogates and what lies above
    U+10FFFF are cut off here. -/
def secondByte (lead b : UInt8) : Bool :=
  if lead = 0xE0 then 0xA0 ≤ b && b ≤ 0xBF
  else if lead = 0xED then 0x80 ≤ b && b ≤ 0x9F
  else if lead = 0xF0 then 0x90 ≤ b && b ≤ 0xBF
  else if lead = 0xF4 then 0x80 ≤ b && b ≤ 0x8F
  else isCont b

/-- `utf8.Valid`. -/
def utf8Valid : Bytes → Bool
  | [] => true
  | a :: rest =>
    if a < 0x80 then utf8Valid rest
    else if 0xC2 ≤ a && a ≤ 0xDF then
      match rest with
      | b :: rest => isCont b && utf8Valid rest
      | _ => false
    else if 0xE0 ≤ a && a ≤ 0xEF then
      match rest with
      | b :: c :: rest => secondByte a b && isCont c && utf8Valid rest
      | _ => false
    else if 0xF0 ≤ a && a ≤ 0xF4 then
      match rest with
      | b :: c :: d :: rest => secondByte a b && isCont c && isCont d && utf8Valid rest
      | _ => false
    else false

/-! ### Readers -/

/-- `io.ReadFull` on a reader that hands out `pieces` one after the other, a piece that is
    longer than the space left in several reads: the `n` bytes and what the reader still
    holds, or nothing when it ends first.  Whether the end is reported with the last bytes or
    by a read of its own makes no difference, since the count is looked at first. -/
def readFull : List Bytes → Nat → Option (Bytes × List Bytes)
  | pieces, 0 => some ([], pieces)
  | [], _ + 1 => none
  | p :: pieces, n + 1 =>
    if n + 1 < p.length then some (p.take (n + 1), p.drop (n + 1) :: pieces)
    else do
      let (more, rest) ← readFull pieces (n + 1 - p.length)
      pure (p ++ more, rest)

/-- **A buffer is filled from the concatenation of the pieces**, however they are cut, as
    long as they hold enough. -/
theorem readFull_some {pieces : List Bytes} {n : Nat} (h : n ≤ pieces.flatten.length) :
    ∃ rest, readFull pieces n = some (pieces.flatten.take n, rest) ∧
      rest.flatten = pieces.flatten.drop n := by
  induction pieces generalizing n with
  | nil =>
    obtain rfl : n = 0 := by simpa using h
    exact ⟨[], rfl, rfl⟩
  | cons p pieces ih =>
    rw [List.flatten_cons, List.length_append] at h
    cases n with
    | zero => exact ⟨p :: pieces, by simp [readFull], rfl⟩
    | succ n =>
      by_cases hlt : n + 1 < p.length
      · -- the first piece fills the buffer and keeps its tail
        refine ⟨p.drop (n + 1) :: pieces, ?_, ?_⟩
        · rw [List.flatten_cons, List.take_append_of_le_length hlt.le]
          simp [readFull, hlt]
        · rw [List.flatten_cons, List.flatten_cons, List.drop_append_of_le_length hlt.le]
      · -- the whole piece goes into the buffer, the rest comes from the others
        have hge : p.length ≤ n + 1 := by omega
        obtain ⟨rest, hread, hrest⟩ := ih (n := n + 1 - p.length) (by omega)
        refine ⟨rest, ?_, ?_⟩
        · rw [List.flatten_cons, List.take_append, List.take_of_length_le hge]
          simp [readFull, hlt, hread]
        · rw [hrest, List.flatten_cons, List.drop_append, List.drop_of_length_le hge,
            List.nil_append]

/-- A text of characters below 256 is read off its bytes. -/
theorem map_ofNat_injective {as bs : List Nat} (ha : ∀ c ∈ as, c < 256) (hb : ∀ c ∈ bs, c < 256)
    (h : as.map UInt8.ofNat = bs.map UInt8.ofNat) : as = bs := by
  have hback : ∀ {cs : List Nat}, (∀ c ∈ cs, c < 256) →
      (cs.map UInt8.ofNat).map UInt8.toNat = cs := by
    intro cs hcs
    rw [List.map_map]
    refine (List.map_congr_left fun c hc => ?_).trans (List.map_id cs)
    simpa using hcs c hc
  rw [← hback ha, h, hback hb]

end Wire
