import Mathlib.Data.Nat.Digits.Lemmas

namespace Decimal

/-!
# Decimal numerals

Go's `strconv` for base 10, over the code units of a text, so that it serves byte strings and
strings of characters alike.

* `formatNat`, `formatInt` — `Itoa` and `FormatInt`;
* `parseUint`, `parseInt` — `ParseInt` with a bit size: an optional sign, at least one digit,
  leading zeros allowed, the value within the range of the type; `Atoi` is the 64-bit case;
* `parseInt_formatInt` — a number that fits is read back; `parseInt_range` — and no other;
* `IsCanonical`, `formatInt_of_parseInt` — of the texts of a number only the one without a
  plus sign and without leading zeros is what formatting gives.
-/

/-- The numeral of a natural number. -/
def formatNat (n : Nat) : List Nat :=
  if n = 0 then [48] else ((Nat.digits 10 n).map (48 + ·)).reverse

/-- `strconv.FormatInt(i, 10)`. -/
def formatInt (i : Int) : List Nat :=
  if i < 0 then 45 :: formatNat i.natAbs else formatNat i.natAbs

/-- The value of a digit. -/
def digitVal (c : Nat) : Option Nat := if 48 ≤ c ∧ c ≤ 57 then some (c - 48) else none

/-- The digits from the left: `n = n*10 + digit`. -/
def parseDigits : Nat → List Nat → Option Nat
  | n, [] => some n
  | n, c :: cs => do
    let d ← digitVal c
    parseDigits (n * 10 + d) cs

/-- The magnitude: at least one digit. -/
def parseUint : List Nat → Option Nat
  | [] => none
  | c :: cs => parseDigits 0 (c :: cs)

/-- A magnitude within the range of a signed type, with its sign. -/
def signed (bits : Nat) (neg : Bool) (n : Nat) : Option Int :=
  if neg then if n ≤ 2 ^ (bits - 1) then some (-(n : Int)) else none
  else if n < 2 ^ (bits - 1) then some (n : Int) else none

/-- `strconv.ParseInt(s, 10, bits)`. -/
def parseInt (bits : Nat) : List Nat → Option Int
  | 45 :: cs => (parseUint cs).bind (signed bits true)
  | 43 :: cs => (parseUint cs).bind (signed bits false)
  | cs => (parseUint cs).bind (signed bits false)

/-! ### Digits -/

theorem digitVal_add {d : Nat} (h : d < 10) : digitVal (48 + d) = some d := by
  have hr : 48 ≤ 48 + d ∧ 48 + d ≤ 57 := by omega
  rw [digitVal, if_pos hr, Nat.add_sub_cancel_left]

theorem digitVal_some {c d : Nat} (h : digitVal c = some d) : c = 48 + d ∧ d < 10 := by
  unfold digitVal at h
  split at h
  · simp only [Option.some.injEq] at h
    omega
  · cases h

variable {cs : List Nat}

/-- Reading one more digit at the end. -/
theorem parseDigits_concat {n m d : Nat} (hcs : parseDigits n cs = some m)
    (hd : d < 10) : parseDigits n (cs ++ [48 + d]) = some (m * 10 + d) := by
  induction cs generalizing n with
  | nil =>
    simp only [parseDigits, Option.some.injEq] at hcs
    subst hcs
    simp [parseDigits, digitVal_add hd]
  | cons c cs ih =>
    simp only [parseDigits, Option.bind_eq_bind, Option.bind_eq_some_iff] at hcs
    obtain ⟨e, he, hrest⟩ := hcs
    simp only [List.cons_append, parseDigits, he, Option.bind_eq_bind, Option.bind_some]
    exact ih hrest

/-- The digits of a number, most significant first, are read as that number. -/
theorem parseDigits_digits (ds : List Nat) (h : ∀ d ∈ ds, d < 10) :
    parseDigits 0 (ds.map (48 + ·)).reverse = some (Nat.ofDigits 10 ds) := by
  induction ds with
  | nil => rfl
  | cons d ds ih =>
    have hd : d < 10 := h d (List.mem_cons_self ..)
    have hds : ∀ e ∈ ds, e < 10 := fun e he => h e (List.mem_cons_of_mem _ he)
    have hread := parseDigits_concat (ih hds) hd
    rw [List.map_cons, List.reverse_cons, hread, Nat.ofDigits_cons]
    congr 1
    omega

/-- What is read are digits, and the value is theirs after the number read before them. -/
theorem parseDigits_some {n m : Nat} (h : parseDigits n cs = some m) :
    ∃ ds : List Nat, (∀ d ∈ ds, d < 10) ∧ cs = (ds.map (48 + ·)).reverse ∧
      m = Nat.ofDigits 10 ds + 10 ^ ds.length * n := by
  induction cs generalizing n with
  | nil =>
    simp only [parseDigits, Option.some.injEq] at h
    exact ⟨[], by simp, rfl, by simp [h]⟩
  | cons c cs ih =>
    simp only [parseDigits, Option.bind_eq_bind, Option.bind_eq_some_iff] at h
    obtain ⟨d, hd, hrest⟩ := h
    obtain ⟨hc, hlt⟩ := digitVal_some hd
    obtain ⟨ds, hds, hcs, hm⟩ := ih hrest
    refine ⟨ds ++ [d], ?_, ?_, ?_⟩
    · intro e he
      rcases List.mem_append.mp he with he | he
      · exact hds e he
      · rw [List.mem_singleton.mp he]
        exact hlt
    · simp [hc, hcs]
    · rw [Nat.ofDigits_append, Nat.ofDigits_singleton, List.length_append, List.length_singleton,
        pow_succ, hm]
      ring

/-! ### Round trips -/

theorem formatNat_ne_nil (n : Nat) : formatNat n ≠ [] := by
  unfold formatNat
  split
  · simp
  · rename_i h
    simpa using Nat.digits_ne_nil_iff_ne_zero.mpr h

theorem mem_formatNat {n c : Nat} (h : c ∈ formatNat n) : 48 ≤ c ∧ c ≤ 57 := by
  unfold formatNat at h
  split at h
  · rw [List.mem_singleton.mp h]
    decide
  · simp only [List.mem_reverse, List.mem_map] at h
    obtain ⟨d, hd, rfl⟩ := h
    have hlt : d < 10 := Nat.digits_lt_base (by decide) hd
    omega

theorem formatNat_cons {n c : Nat} (h : formatNat n = c :: cs) :
    48 ≤ c ∧ c ≤ 57 :=
  mem_formatNat (h ▸ List.mem_cons_self ..)

variable {i : Int}

/-- A numeral consists of digits after an optional sign. -/
theorem mem_formatInt {c : Nat} (h : c ∈ formatInt i) : c = 45 ∨ 48 ≤ c ∧ c ≤ 57 := by
  unfold formatInt at h
  split at h
  · exact (List.mem_cons.mp h).imp_right mem_formatNat
  · exact .inr (mem_formatNat h)

theorem formatInt_lt {c : Nat} (h : c ∈ formatInt i) : c < 256 := by
  have hc := mem_formatInt h
  omega

theorem parseUint_formatNat (n : Nat) : parseUint (formatNat n) = some n := by
  have hread : parseDigits 0 (formatNat n) = some n := by
    unfold formatNat
    split
    · rename_i h
      subst h
      rfl
    · rw [parseDigits_digits _ (fun d hd => Nat.digits_lt_base (by decide) hd),
        Nat.ofDigits_digits]
  cases hf : formatNat n with
  | nil => exact absurd hf (formatNat_ne_nil n)
  | cons c cs => rw [parseUint, ← hf, hread]

/-- **A number that fits is read back.** -/
theorem parseInt_formatInt (bits : Nat) (hlo : -((2 ^ (bits - 1) : Nat) : Int) ≤ i)
    (hhi : i < ((2 ^ (bits - 1) : Nat) : Int)) : parseInt bits (formatInt i) = some i := by
  unfold formatInt
  split
  · -- a minus sign in front of the magnitude
    rename_i hneg
    have habs : -(i.natAbs : Int) = i := by omega
    have hle : i.natAbs ≤ 2 ^ (bits - 1) := by omega
    rw [parseInt, parseUint_formatNat, Option.bind_some, signed, if_pos rfl, if_pos hle, habs]
  · rename_i hneg
    have habs : (i.natAbs : Int) = i := by omega
    have hlt : i.natAbs < 2 ^ (bits - 1) := by omega
    -- the numeral starts with a digit, so neither sign case applies
    cases hf : formatNat i.natAbs with
    | nil => exact absurd hf (formatNat_ne_nil _)
    | cons c cs =>
      have hc := formatNat_cons hf
      have hread : parseUint (c :: cs) = some i.natAbs := by rw [← hf, parseUint_formatNat]
      unfold parseInt
      split
      · rename_i heq
        simp only [List.cons.injEq] at heq
        omega
      · rename_i heq
        simp only [List.cons.injEq] at heq
        omega
      · rw [hread, Option.bind_some, signed, if_neg (by decide), if_pos hlt, habs]

/-- Different numbers have different numerals. -/
theorem formatInt_injective {i j : Int} (h : formatInt i = formatInt j) : i = j := by
  -- a bit size that holds both
  have hpow : i.natAbs + j.natAbs < 2 ^ (i.natAbs + j.natAbs) := Nat.lt_two_pow_self
  have hi := parseInt_formatInt (i.natAbs + j.natAbs + 1) (i := i)
    (by simp only [Nat.add_sub_cancel]; omega) (by simp only [Nat.add_sub_cancel]; omega)
  have hj := parseInt_formatInt (i.natAbs + j.natAbs + 1) (i := j)
    (by simp only [Nat.add_sub_cancel]; omega) (by simp only [Nat.add_sub_cancel]; omega)
  rw [h, hj] at hi
  exact (Option.some.inj hi).symm

/-- What is read is in the range of the type. -/
theorem parseInt_range {bits : Nat} (h : parseInt bits cs = some i) :
    -((2 ^ (bits - 1) : Nat) : Int) ≤ i ∧ i < ((2 ^ (bits - 1) : Nat) : Int) := by
  have hpos : 0 < 2 ^ (bits - 1) := Nat.two_pow_pos _
  have hsigned : ∀ neg n, signed bits neg n = some i →
      -((2 ^ (bits - 1) : Nat) : Int) ≤ i ∧ i < ((2 ^ (bits - 1) : Nat) : Int) := by
    intro neg n hn
    unfold signed at hn
    split at hn
    · split at hn
      · simp only [Option.some.injEq] at hn
        omega
      · cases hn
    · split at hn
      · simp only [Option.some.injEq] at hn
        omega
      · cases hn
  unfold parseInt at h
  split at h
  · obtain ⟨n, -, hn⟩ := Option.bind_eq_some_iff.mp h
    exact hsigned _ n hn
  · obtain ⟨n, -, hn⟩ := Option.bind_eq_some_iff.mp h
    exact hsigned _ n hn
  · obtain ⟨n, -, hn⟩ := Option.bind_eq_some_iff.mp h
    exact hsigned _ n hn

/-- **A number is read in every size it fits.** -/
theorem parseInt_resize {bits bits' : Nat} (h : parseInt bits cs = some i)
    (hlo : -((2 ^ (bits' - 1) : Nat) : Int) ≤ i) (hhi : i < ((2 ^ (bits' - 1) : Nat) : Int)) :
    parseInt bits' cs = some i := by
  have hsigned : ∀ neg n, signed bits neg n = some i → signed bits' neg n = some i := by
    intro neg n hn
    cases neg with
    | true =>
      rw [signed, if_pos rfl, ite_eq_iff] at hn ⊢
      obtain ⟨-, hi⟩ | ⟨-, hi⟩ := hn
      · have hval := Option.some.inj hi
        exact .inl ⟨by omega, hi⟩
      · cases hi
    | false =>
      rw [signed, if_neg Bool.false_ne_true, ite_eq_iff] at hn ⊢
      obtain ⟨-, hi⟩ | ⟨-, hi⟩ := hn
      · have hval := Option.some.inj hi
        exact .inl ⟨by omega, hi⟩
      · cases hi
  have hbind : ∀ neg ds, (parseUint ds).bind (signed bits neg) = some i →
      (parseUint ds).bind (signed bits' neg) = some i := by
    intro neg ds hd
    obtain ⟨n, hn, hi⟩ := Option.bind_eq_some_iff.mp hd
    exact Option.bind_eq_some_iff.mpr ⟨n, hn, hsigned neg n hi⟩
  unfold parseInt at h ⊢
  split at h
  · exact hbind _ _ h
  · exact hbind _ _ h
  · exact hbind _ _ h

/-! ### Canonical numerals -/

/-- A numeral of a non-negative number without a plus sign and without leading zeros. -/
def IsCanonical (cs : List Nat) : Bool :=
  cs = [48] || (cs.head? ≠ some 43 && cs.head? ≠ some 48)

/-- **A canonical numeral of a positive number is what formatting gives.** -/
theorem formatInt_of_parseInt {bits : Nat}
    (h : parseInt bits cs = some i) (hpos : 0 < i) (hcanon : IsCanonical cs = true) :
    formatInt i = cs := by
  have hmag : parseUint cs = some i.natAbs := by
    unfold parseInt at h
    split at h
    · -- a minus sign gives no positive number
      obtain ⟨n, -, hn⟩ := Option.bind_eq_some_iff.mp h
      simp only [signed, if_true] at hn
      split at hn
      · simp only [Option.some.injEq] at hn
        omega
      · cases hn
    · simp [IsCanonical] at hcanon
    · obtain ⟨n, hread, hn⟩ := Option.bind_eq_some_iff.mp h
      simp only [signed, Bool.false_eq_true, if_false] at hn
      split at hn
      · simp only [Option.some.injEq] at hn
        rw [hread, ← hn, Int.natAbs_natCast]
      · cases hn
  cases cs with
  | nil => cases hmag
  | cons c cs =>
    obtain ⟨ds, hds, hcs, hn⟩ := parseDigits_some hmag
    rw [Nat.mul_zero, Nat.add_zero] at hn
    have hne : i.natAbs ≠ 0 := by omega
    -- the first character is not a zero, so the most significant digit is not one
    have hlast : ∀ hds' : ds ≠ [], ds.getLast hds' ≠ 0 := by
      intro hds' hzero
      have hhead : (c :: cs).head? = some 48 := by
        rw [hcs, List.head?_reverse, List.getLast?_map, List.getLast?_eq_some_getLast hds', hzero]
        rfl
      have hc : c = 48 := by simpa using hhead
      subst hc
      simp only [IsCanonical, List.head?_cons, ne_eq, not_true, decide_false, Bool.and_false,
        Bool.or_false, decide_eq_true_eq] at hcanon
      rw [hcanon] at hmag
      simp only [parseUint, parseDigits, digitVal] at hmag
      simp at hmag
      omega
    have hdigits : Nat.digits 10 i.natAbs = ds := by
      rw [hn]
      exact Nat.digits_ofDigits 10 (by decide) ds hds hlast
    rw [formatInt, if_neg (by omega), formatNat, if_neg hne, hdigits, ← hcs]

/-- Texts with a sign between them, before its first occurrence and after it. -/
theorem append_cons_inj {α : Type} {c : α} {as bs : List α} :
    ∀ {xs ys : List α}, c ∉ xs → c ∉ ys → xs ++ c :: as = ys ++ c :: bs → xs = ys ∧ as = bs
  | [], [], _, _, h => ⟨rfl, (List.cons.inj h).2⟩
  | [], y :: ys, _, hy, h => absurd ((List.cons.inj h).1 ▸ List.mem_cons_self) hy
  | x :: xs, [], hx, _, h => absurd ((List.cons.inj h).1 ▸ List.mem_cons_self) hx
  | x :: xs, y :: ys, hx, hy, h => by
    obtain ⟨rfl, hrest⟩ := List.cons.inj h
    obtain ⟨rfl, heq⟩ := append_cons_inj (fun hc => hx (List.mem_cons_of_mem _ hc))
      (fun hc => hy (List.mem_cons_of_mem _ hc)) hrest
    exact ⟨rfl, heq⟩

/-- The same for the last occurrence. -/
theorem append_cons_inj_of_last {α : Type} {c : α} {as bs xs ys : List α} (ha : c ∉ as) (hb : c ∉ bs)
    (h : xs ++ c :: as = ys ++ c :: bs) : xs = ys ∧ as = bs := by
  have hrev := congrArg List.reverse h
  simp only [List.reverse_append, List.reverse_cons, List.append_assoc, List.singleton_append] at hrev
  obtain ⟨has, hxs⟩ := append_cons_inj (by simpa using ha) (by simpa using hb) hrev
  exact ⟨List.reverse_injective hxs, List.reverse_injective has⟩

end Decimal
