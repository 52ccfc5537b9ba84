import SafetyRecorder.Lib.Wire

namespace Base64

open Wire

/-!
# Unpadded base64url

Go's `base64.RawURLEncoding`.  The decoder is lenient: it skips line breaks and ignores the
bits of the last character that fall outside the data, so several texts decode to one byte
string and only one of them is its encoding.

* `encode`, `decode` — `EncodeToString` and `DecodeString`;
* `decode_encode` — decoding what was encoded gives it back;
* `mem_encode` — an encoding consists of characters of the alphabet.
-/

/-- The character of a 6-bit value. -/
def encodeChar (n : Nat) : UInt8 :=
  if n < 26 then UInt8.ofNat (65 + n)
  else if n < 52 then UInt8.ofNat (71 + n)
  else if n < 62 then UInt8.ofNat (n - 4)
  else if n = 62 then 45
  else 95

/-- The value of a character of the alphabet. -/
def decodeChar (c : UInt8) : Option Nat :=
  if 65 ≤ c ∧ c ≤ 90 then some (c.toNat - 65)
  else if 97 ≤ c ∧ c ≤ 122 then some (c.toNat - 71)
  else if 48 ≤ c ∧ c ≤ 57 then some (c.toNat + 4)
  else if c = 45 then some 62
  else if c = 95 then some 63
  else none

/-- `RawURLEncoding.EncodeToString`. -/
def encode : Bytes → Bytes
  | [] => []
  | [a] => [encodeChar (a.toNat / 4), encodeChar (a.toNat % 4 * 16)]
  | [a, b] =>
    [encodeChar (a.toNat / 4), encodeChar (a.toNat % 4 * 16 + b.toNat / 16),
      encodeChar (b.toNat % 16 * 4)]
  | a :: b :: c :: rest =>
    encodeChar (a.toNat / 4) :: encodeChar (a.toNat % 4 * 16 + b.toNat / 16) ::
      encodeChar (b.toNat % 16 * 4 + c.toNat / 64) :: encodeChar (c.toNat % 64) :: encode rest

/-- The groups of four characters; a last group has two or three. -/
def decodeGroups : Bytes → Option Bytes
  | [] => some []
  | [_] => none
  | [p, q] => do
    let w ← decodeChar p
    let x ← decodeChar q
    pure [UInt8.ofNat (w * 4 + x / 16)]
  | [p, q, r] => do
    let w ← decodeChar p
    let x ← decodeChar q
    let y ← decodeChar r
    pure [UInt8.ofNat (w * 4 + x / 16), UInt8.ofNat (x % 16 * 16 + y / 4)]
  | p :: q :: r :: s :: rest => do
    let w ← decodeChar p
    let x ← decodeChar q
    let y ← decodeChar r
    let z ← decodeChar s
    let more ← decodeGroups rest
    pure (UInt8.ofNat (w * 4 + x / 16) :: UInt8.ofNat (x % 16 * 16 + y / 4) ::
      UInt8.ofNat (y % 4 * 64 + z) :: more)

/-- `RawURLEncoding.DecodeString`: line breaks are skipped. -/
def decode (s : Bytes) : Option Bytes := decodeGroups (s.filter fun c => c ≠ 10 && c ≠ 13)

/-! ### Characters -/

theorem decodeChar_encodeChar {n : Nat} (h : n < 64) : decodeChar (encodeChar n) = some n := by
  have hall : ∀ n < 64, decodeChar (encodeChar n) = some n := by decide
  exact hall n h

/-- A 6-bit value is in a character of the alphabet. -/
theorem decodeChar_isSome (n : Nat) : (decodeChar (encodeChar n)).isSome = true := by
  by_cases h : n < 64
  · rw [decodeChar_encodeChar h]
    rfl
  · have henc : encodeChar n = 95 := by
      unfold encodeChar
      rw [if_neg (by omega), if_neg (by omega), if_neg (by omega), if_neg (by omega)]
    rw [henc]
    rfl

variable {b : Bytes}

/-- Every character of an encoding is in the alphabet. -/
theorem mem_encode {c : UInt8} (h : c ∈ encode b) : (decodeChar c).isSome = true := by
  induction b using encode.induct with
  | case1 => cases h
  | case2 a =>
    simp only [encode, List.mem_cons, List.not_mem_nil, or_false] at h
    rcases h with rfl | rfl <;> exact decodeChar_isSome _
  | case3 a b =>
    simp only [encode, List.mem_cons, List.not_mem_nil, or_false] at h
    rcases h with rfl | rfl | rfl <;> exact decodeChar_isSome _
  | case4 a b c rest ih =>
    simp only [encode, List.mem_cons] at h
    rcases h with rfl | rfl | rfl | rfl | h
    · exact decodeChar_isSome _
    · exact decodeChar_isSome _
    · exact decodeChar_isSome _
    · exact decodeChar_isSome _
    · exact ih h

/-- The characters of an encoding are printable ASCII. -/
theorem printable_encode {c : UInt8} (h : c ∈ encode b) : 0x21 ≤ c ∧ c < 0x80 := by
  have hall : ∀ n < 256, (decodeChar (UInt8.ofNat n)).isSome = true →
      0x21 ≤ UInt8.ofNat n ∧ UInt8.ofNat n < 0x80 := by
    decide +kernel
  have hsome := mem_encode h
  rw [← UInt8.ofNat_toNat (x := c)] at hsome ⊢
  exact hall c.toNat c.toNat_lt hsome

/-- A character outside the alphabet is in no encoding. -/
theorem not_mem_encode {c : UInt8} (h : decodeChar c = none) : c ∉ encode b := by
  intro hmem
  have hsome := mem_encode hmem
  rw [h] at hsome
  cases hsome

/-! ### Round trip -/

theorem ofNat_eq {n : Nat} {a : UInt8} (h : n = a.toNat) : UInt8.ofNat n = a := by
  subst h
  exact UInt8.ofNat_toNat

theorem decodeGroups_encode (b : Bytes) : decodeGroups (encode b) = some b := by
  induction b using encode.induct with
  | case1 => rfl
  | case2 a =>
    have ha := a.toNat_lt
    have hw := decodeChar_encodeChar (n := a.toNat / 4) (by omega)
    have hx := decodeChar_encodeChar (n := a.toNat % 4 * 16) (by omega)
    have h1 : UInt8.ofNat (a.toNat / 4 * 4 + a.toNat % 4 * 16 / 16) = a :=
      ofNat_eq (by omega)
    simp only [encode, decodeGroups, hw, hx, h1, Option.bind_eq_bind, Option.bind_some,
      Option.pure_def]
  | case3 a b =>
    have ha := a.toNat_lt
    have hb := b.toNat_lt
    have hw := decodeChar_encodeChar (n := a.toNat / 4) (by omega)
    have hx := decodeChar_encodeChar (n := a.toNat % 4 * 16 + b.toNat / 16) (by omega)
    have hy := decodeChar_encodeChar (n := b.toNat % 16 * 4) (by omega)
    have h1 : UInt8.ofNat (a.toNat / 4 * 4 + (a.toNat % 4 * 16 + b.toNat / 16) / 16) = a :=
      ofNat_eq (by omega)
    have h2 : UInt8.ofNat ((a.toNat % 4 * 16 + b.toNat / 16) % 16 * 16
        + b.toNat % 16 * 4 / 4) = b :=
      ofNat_eq (by omega)
    simp only [encode, decodeGroups, hw, hx, hy, h1, h2, Option.bind_eq_bind, Option.bind_some,
      Option.pure_def]
  | case4 a b c rest ih =>
    have ha := a.toNat_lt
    have hb := b.toNat_lt
    have hc := c.toNat_lt
    have hw := decodeChar_encodeChar (n := a.toNat / 4) (by omega)
    have hx := decodeChar_encodeChar (n := a.toNat % 4 * 16 + b.toNat / 16) (by omega)
    have hy := decodeChar_encodeChar (n := b.toNat % 16 * 4 + c.toNat / 64) (by omega)
    have hz := decodeChar_encodeChar (n := c.toNat % 64) (by omega)
    have h1 : UInt8.ofNat (a.toNat / 4 * 4 + (a.toNat % 4 * 16 + b.toNat / 16) / 16) = a :=
      ofNat_eq (by omega)
    have h2 : UInt8.ofNat ((a.toNat % 4 * 16 + b.toNat / 16) % 16 * 16
        + (b.toNat % 16 * 4 + c.toNat / 64) / 4) = b :=
      ofNat_eq (by omega)
    have h3 : UInt8.ofNat ((b.toNat % 16 * 4 + c.toNat / 64) % 4 * 64 + c.toNat % 64) = c :=
      ofNat_eq (by omega)
    simp only [encode, decodeGroups, hw, hx, hy, hz, ih, h1, h2, h3, Option.bind_eq_bind,
      Option.bind_some, Option.pure_def]

/-- **Decoding what was encoded gives it back.** -/
theorem decode_encode (b : Bytes) : decode (encode b) = some b := by
  have hkeep : (encode b).filter (fun c => c ≠ 10 && c ≠ 13) = encode b := by
    apply List.filter_eq_self.mpr
    intro c hc
    have h10 : c ≠ 10 := fun h => not_mem_encode (by rw [h]; rfl) hc
    have h13 : c ≠ 13 := fun h => not_mem_encode (by rw [h]; rfl) hc
    simp [h10, h13]
  rw [decode, hkeep, decodeGroups_encode]

/-- Different byte strings have different encodings. -/
theorem encode_injective {a b : Bytes} (h : encode a = encode b) : a = b := by
  have hdec : decode (encode a) = decode (encode b) := by rw [h]
  rw [decode_encode, decode_encode] at hdec
  exact Option.some.inj hdec

/-- Only the empty byte string has an empty encoding. -/
theorem encode_eq_nil (h : encode b = []) : b = [] :=
  encode_injective (b := []) h

end Base64
