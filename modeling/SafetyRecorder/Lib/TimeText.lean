import SafetyRecorder.Lib.Decimal
import SafetyRecorder.Lib.TimeLayout
import Mathlib.Data.List.DropRight
import Mathlib.Tactic.IntervalCases

namespace TimeLayout

/-!
# Time stamps written along a layout

Go's `Format` of a UTC time in the layout of RFC 3339 with nanoseconds: fixed fields, then the
fraction of a second without its trailing zeros.

* `parse_format` — **a time whose year has four digits is read back**;
* `format_injective` — different times have different texts, whatever their years;
* `format_le_iff` — how the texts compare.  Cutting trailing zeros
  costs the order: a time that is another one cut to fewer decimals is written with a `Z` where
  the other one goes on, and `Z` comes after the digits and the period.
-/

/-! ### Fixed-width numbers -/

/-- The last `w` digits of a number. -/
def fixed : Nat → Nat → List Nat
  | 0, _ => []
  | w + 1, n => (48 + n / 10 ^ w % 10) :: fixed w n

@[simp] theorem length_fixed (w n : Nat) : (fixed w n).length = w := by
  induction w with
  | zero => rfl
  | succ w ih => simp [fixed, ih]

theorem digit_add {d : Nat} (h : d < 10) : digit (48 + d) = some d := by
  rw [digit, if_pos (by omega), Nat.add_sub_cancel_left]

theorem digit_lt (c : Nat) : (digit c).getD 0 < 10 := by
  unfold digit
  split
  · simp only [Option.getD_some]
    omega
  · decide

theorem isDigit_iff {c : Nat} : isDigit c = true ↔ 48 ≤ c ∧ c ≤ 57 := by
  unfold isDigit digit
  split <;> simp_all

theorem isDigit_fixed {w n c : Nat} (h : c ∈ fixed w n) : isDigit c = true := by
  induction w with
  | zero => simp [fixed] at h
  | succ w ih =>
    rcases List.mem_cons.mp h with rfl | h
    · have hd : n / 10 ^ w % 10 < 10 := Nat.mod_lt _ (by decide)
      rw [isDigit, digit_add hd]
      rfl
    · exact ih h

theorem foldl_digits (n : Nat) (ds : List Nat) :
    ds.foldl (fun n d => 10 * n + (digit d).getD 0) n = n * 10 ^ ds.length + digits ds := by
  induction ds generalizing n with
  | nil => simp [digits]
  | cons d ds ih =>
    rw [digits, List.foldl_cons, List.foldl_cons, ih, ih (10 * 0 + _), List.length_cons, pow_succ]
    ring

theorem digits_append (as bs : List Nat) :
    digits (as ++ bs) = digits as * 10 ^ bs.length + digits bs := by
  rw [digits, List.foldl_append, foldl_digits]
  rfl

theorem digits_cons (d : Nat) (ds : List Nat) :
    digits (d :: ds) = (digit d).getD 0 * 10 ^ ds.length + digits ds := by
  rw [digits, List.foldl_cons, foldl_digits, Nat.mul_zero, Nat.zero_add]

theorem digits_lt (ds : List Nat) : digits ds < 10 ^ ds.length := by
  induction ds with
  | nil => simp [digits]
  | cons d ds ih =>
    have hd : (digit d).getD 0 + 1 ≤ 10 := digit_lt d
    rw [digits_cons, List.length_cons]
    calc (digit d).getD 0 * 10 ^ ds.length + digits ds
        < (digit d).getD 0 * 10 ^ ds.length + 10 ^ ds.length := Nat.add_lt_add_left ih _
      _ = ((digit d).getD 0 + 1) * 10 ^ ds.length := by ring
      _ ≤ 10 * 10 ^ ds.length := Nat.mul_le_mul_right _ hd
      _ = 10 ^ (ds.length + 1) := by ring

/-- A number that fits is read back from its digits. -/
theorem digits_fixed {w n : Nat} (h : n < 10 ^ w) : digits (fixed w n) = n := by
  have hmod : digits (fixed w n) = n % 10 ^ w := by
    clear h
    induction w with
    | zero => simp [fixed, digits, Nat.mod_one]
    | succ w ih =>
      have hd : n / 10 ^ w % 10 < 10 := Nat.mod_lt _ (by decide)
      rw [fixed, digits_cons, digit_add hd, ih, length_fixed, Option.getD_some, pow_succ,
        Nat.mod_mul, Nat.mul_comm, Nat.add_comm]
  rw [hmod, Nat.mod_eq_of_lt h]

/-! ### Formatting -/

/-- `appendInt`. -/
def appendInt (width : Nat) (x : Int) : List Nat :=
  (if x < 0 then [dash] else []) ++
    if x.natAbs < 10 ^ width then fixed width x.natAbs else Decimal.formatNat x.natAbs

/-- The digits of a fraction of a second without trailing zeros. -/
def trimmed (nanosecond : Nat) : List Nat := (fixed 9 nanosecond).rdropWhile (· == 48)

/-- `appendNano` for the layout with nanoseconds. -/
def appendNano (nanosecond : Nat) : List Nat :=
  if nanosecond = 0 then [] else period :: trimmed nanosecond

/-- The text of a second. -/
def stamp (second : Int) : List Nat :=
  let date := Calendar.dateOf (second / 86400 + epoch)
  let clock := second % 86400
  appendInt 4 date.year ++ dash :: (appendInt 2 date.month ++ dash :: (appendInt 2 date.day ++
    letterT :: (appendInt 2 (clock / 3600) ++ colon :: (appendInt 2 (clock / 60 % 60) ++
      colon :: appendInt 2 (clock % 60)))))

/-- `Format(RFC3339Nano)` of a UTC time. -/
def format (t : Int) : List Nat :=
  stamp (t / 1000000000) ++ (appendNano (t % 1000000000).toNat ++ [letterZ])

example : format 86400500000000 = "1970-01-02T00:00:00.5Z".toList.map Char.toNat := by
  decide +kernel

theorem mem_appendInt {w : Nat} {x : Int} {c : Nat} (h : c ∈ appendInt w x) : 45 ≤ c ∧ c ≤ 57 := by
  rcases List.mem_append.mp h with h | h
  · split_ifs at h
    · rw [List.mem_singleton.mp h]
      decide
    · exact absurd h List.not_mem_nil
  · split_ifs at h
    · have := isDigit_iff.mp (isDigit_fixed h)
      omega
    · have := Decimal.mem_formatNat h
      omega

theorem mem_appendNano {n c : Nat} (h : c ∈ appendNano n) : 45 ≤ c ∧ c ≤ 57 := by
  unfold appendNano at h
  split_ifs at h
  · exact absurd h List.not_mem_nil
  · rcases List.mem_cons.mp h with rfl | h
    · decide
    · have := isDigit_iff.mp (isDigit_fixed ((List.rdropWhile_prefix _ _).subset h))
      omega

/-- A formatted time consists of printable characters. -/
theorem mem_format {t : Int} {c : Nat} (h : c ∈ format t) : 45 ≤ c ∧ c ≤ 90 := by
  have hnumber : ∀ {c : Nat}, 45 ≤ c ∧ c ≤ 57 → 45 ≤ c ∧ c ≤ 90 := fun h => by omega
  have hsign : ∀ s ∈ [dash, letterT, colon, letterZ], 45 ≤ s ∧ s ≤ 90 := by decide
  simp only [format, stamp, List.mem_append, List.mem_cons, List.not_mem_nil, or_false] at h
  rcases h with (h | rfl | h | rfl | h | rfl | h | rfl | h | rfl | h) | h | rfl
  all_goals first
    | exact hnumber (mem_appendInt h)
    | exact hnumber (mem_appendNano h)
    | exact hsign _ (by decide)

/-- The year of a second. -/
def yearOf (second : Int) : Int := Calendar.yearOf (second / 86400 + epoch)

/-- A time whose year is written with four digits. -/
def FourDigits (t : Int) : Prop :=
  0 ≤ yearOf (t / 1000000000) ∧ yearOf (t / 1000000000) ≤ 9999

instance (t : Int) : Decidable (FourDigits t) := inferInstanceAs (Decidable (_ ∧ _))

theorem appendInt_natCast {w n : Nat} (h : n < 10 ^ w) : appendInt w (n : Int) = fixed w n := by
  rw [appendInt, if_neg (by omega), Int.natAbs_natCast, if_pos h, List.nil_append]

theorem appendInt_eq {w : Nat} {x : Int} (hlo : 0 ≤ x) (hhi : x < 10 ^ w) :
    appendInt w x = fixed w x.toNat := by
  obtain ⟨n, rfl⟩ := Int.eq_ofNat_of_zero_le hlo
  have hn : n < 10 ^ w := by exact_mod_cast hhi
  rw [appendInt_natCast hn, Int.toNat_natCast]

/-! ### Reading back -/

/-- The fields of a second. -/
def fieldsOf (second : Int) : Fields :=
  let date := Calendar.dateOf (second / 86400 + epoch)
  let clock := (second % 86400).toNat
  { year := date.year.toNat, month := date.month, day := date.day, hour := clock / 3600
    minute := clock / 60 % 60, second := clock % 60 }

/-- What the fields of a second satisfy. -/
theorem fieldsOf_range (second : Int) :
    (1 ≤ (fieldsOf second).month ∧ (fieldsOf second).month ≤ 12) ∧
      (1 ≤ (fieldsOf second).day ∧ (fieldsOf second).day ≤ 31) ∧
      (fieldsOf second).hour ≤ 23 ∧ (fieldsOf second).minute ≤ 59 ∧
      (fieldsOf second).second ≤ 59 := by
  have hvalid := Calendar.dateOf_valid (second / 86400 + epoch)
  have hday : ∀ month year, Calendar.daysIn month year ≤ 31 := by
    intro month year
    unfold Calendar.daysIn
    repeat' split
    all_goals decide
  have hle := hvalid.day_le.trans (hday _ _)
  refine ⟨⟨hvalid.month_pos, hvalid.month_le⟩, ⟨hvalid.day_pos, hle⟩, ?_, ?_, ?_⟩ <;>
    simp only [fieldsOf] <;> omega

/-- The text of a second is its fields at a fixed width. -/
theorem stamp_eq {second : Int} (hlo : 0 ≤ yearOf second) (hhi : yearOf second ≤ 9999) :
    stamp second = fixed 4 (fieldsOf second).year ++ dash :: (fixed 2 (fieldsOf second).month ++
      dash :: (fixed 2 (fieldsOf second).day ++ letterT :: (fixed 2 (fieldsOf second).hour ++
        colon :: (fixed 2 (fieldsOf second).minute ++ colon ::
          fixed 2 (fieldsOf second).second)))) := by
  obtain ⟨⟨-, hmonth⟩, ⟨-, hday⟩, -, -, -⟩ := fieldsOf_range second
  have hyear : appendInt 4 (Calendar.dateOf (second / 86400 + epoch)).year =
      fixed 4 (fieldsOf second).year :=
    appendInt_eq hlo (lt_of_le_of_lt hhi (by decide))
  have hmonth' : appendInt 2 ((Calendar.dateOf (second / 86400 + epoch)).month : Int) =
      fixed 2 (fieldsOf second).month :=
    appendInt_natCast (lt_of_le_of_lt hmonth (by decide))
  have hday' : appendInt 2 ((Calendar.dateOf (second / 86400 + epoch)).day : Int) =
      fixed 2 (fieldsOf second).day :=
    appendInt_natCast (lt_of_le_of_lt hday (by decide))
  have hhour : appendInt 2 (second % 86400 / 3600) = fixed 2 (fieldsOf second).hour := by
    rw [appendInt_eq (by omega) (by omega)]
    congr 1
    simp only [fieldsOf]
    omega
  have hminute : appendInt 2 (second % 86400 / 60 % 60) = fixed 2 (fieldsOf second).minute := by
    rw [appendInt_eq (by omega) (by omega)]
    congr 1
    simp only [fieldsOf]
    omega
  have hsecond : appendInt 2 (second % 86400 % 60) = fixed 2 (fieldsOf second).second := by
    rw [appendInt_eq (by omega) (by omega)]
    congr 1
    simp only [fieldsOf]
    omega
  simp only [stamp, hyear, hmonth', hday', hhour, hminute, hsecond]

variable {n : Nat}

theorem getnum_fixed (b : Bool) (h : n < 100) (rest : List Nat) :
    getnum b (fixed 2 n ++ rest) = some (n, rest) := by
  have htens : digit (48 + n / 10 ^ 1 % 10) = some (n / 10) := by
    rw [digit_add (Nat.mod_lt _ (by decide)), pow_one, Nat.mod_eq_of_lt (by omega)]
  have hones : digit (48 + n / 10 ^ 0 % 10) = some (n % 10) := by
    rw [digit_add (Nat.mod_lt _ (by decide)), pow_zero, Nat.div_one]
  have hsum : 10 * (n / 10) + n % 10 = n := Nat.div_add_mod n 10
  simp only [fixed, List.cons_append, List.nil_append, getnum, htens, hones, hsum]

theorem ranged_fixed (b : Bool) {n low high : Nat} (hlo : low ≤ n) (hhi : n ≤ high)
    (h : n < 100) (rest : List Nat) :
    ranged b low high (fixed 2 n ++ rest) = some (n, rest) := by
  simp [ranged, getnum_fixed b h, hlo, hhi]

theorem longYear_fixed (fields : Fields) (h : n < 10000) (rest : List Nat) :
    longYear fields (fixed 4 n ++ rest) = some ({ fields with year := n }, rest) := by
  have hall : ∀ c ∈ fixed 4 n, isDigit c = true := fun c hc => isDigit_fixed hc
  have hval : digits (fixed 4 n) = n := digits_fixed h
  simp only [fixed] at hall hval
  have hall' := List.all_eq_true.mpr hall
  simp only [fixed, List.cons_append, List.nil_append, longYear, hall', hval, if_true]

/-- What is cut from a fraction are zeros. -/
theorem trimmed_append (n : Nat) :
    trimmed n ++ List.replicate (9 - (trimmed n).length) 48 = fixed 9 n := by
  have hjoin : trimmed n ++ (fixed 9 n).rtakeWhile (· == 48) = fixed 9 n :=
    List.rdropWhile_append_rtakeWhile
  have hlen : (trimmed n).length + ((fixed 9 n).rtakeWhile (· == 48)).length = 9 := by
    rw [← List.length_append, hjoin, length_fixed]
  have hzeros : (fixed 9 n).rtakeWhile (· == 48) =
      List.replicate (9 - (trimmed n).length) 48 := by
    rw [List.eq_replicate_iff]
    refine ⟨by omega, fun c hc => ?_⟩
    simpa using List.mem_rtakeWhile_imp hc
  rw [← hzeros, hjoin]

theorem length_trimmed_le (n : Nat) : (trimmed n).length ≤ 9 := by
  have h := (List.rdropWhile_prefix (· == 48) (fixed 9 n)).length_le
  rwa [length_fixed] at h

theorem digits_replicate (k : Nat) : digits (List.replicate k 48) = 0 := by
  induction k with
  | zero => rfl
  | succ k ih =>
    rw [List.replicate_succ, digits_cons, ih]
    simp [digit]

theorem isDigit_trimmed {n c : Nat} (h : c ∈ trimmed n) : isDigit c = true :=
  isDigit_fixed ((List.rdropWhile_prefix (· == 48) (fixed 9 n)).subset h)

/-- The value of a trimmed fraction. -/
theorem digits_trimmed (h : n < 10 ^ 9) :
    digits (trimmed n) * 10 ^ (9 - (trimmed n).length) = n := by
  have hval := digits_fixed h
  rw [← trimmed_append, digits_append, digits_replicate, List.length_replicate] at hval
  simpa using hval

theorem trimmed_ne_nil (h : n < 10 ^ 9) (hne : n ≠ 0) : trimmed n ≠ [] := by
  intro hnil
  have hval := digits_trimmed h
  rw [hnil] at hval
  simp [digits] at hval
  omega

theorem fraction_appendNano {fields : Fields} (hf : fields.nanosecond = 0) (h : n < 10 ^ 9) :
    fraction fields (appendNano n ++ [letterZ]) =
      ({ fields with nanosecond := n }, [letterZ]) := by
  by_cases hn : n = 0
  · subst hn
    cases fields with
    | mk _ _ _ _ _ _ nanosecond _ =>
      obtain rfl : nanosecond = 0 := hf
      rfl
  obtain ⟨d, rest, hd⟩ := List.exists_cons_of_ne_nil (trimmed_ne_nil h hn)
  have hdigit : isDigit d = true := isDigit_trimmed (by rw [hd]; exact List.mem_cons_self ..)
  have htake : (trimmed n ++ [letterZ]).takeWhile isDigit = trimmed n := by
    rw [List.takeWhile_append_of_pos fun c hc => isDigit_trimmed hc]
    simp [letterZ, isDigit, digit]
  have hdrop : (trimmed n ++ [letterZ]).dropWhile isDigit = [letterZ] := by
    rw [List.dropWhile_append_of_pos fun c hc => isDigit_trimmed hc]
    simp [letterZ, isDigit, digit]
  have hval : nanoseconds (trimmed n) = n := by
    rw [nanoseconds, List.take_of_length_le (length_trimmed_le n), digits_trimmed h]
  have htext : appendNano n ++ [letterZ] = period :: d :: (rest ++ [letterZ]) := by
    rw [appendNano, if_neg hn, hd]
    rfl
  have hcons : d :: (rest ++ [letterZ]) = trimmed n ++ [letterZ] := by rw [hd]; rfl
  rw [htext, fraction, if_pos ⟨.inr rfl, hdigit⟩, hcons, htake, hdrop, hval]

/-- **A time whose year has four digits is read back.** -/
theorem parse_format {t : Int} (h : FourDigits t) : parse rfc3339Nano (format t) = some t := by
  obtain ⟨hlo, hhi⟩ := h
  generalize hs : t / 1000000000 = s at *
  obtain ⟨hmonth, hday, hhour, hminute, hsecond⟩ := fieldsOf_range s
  have hyear : (fieldsOf s).year < 10000 := by
    have : ((fieldsOf s).year : Int) = yearOf s := Int.toNat_of_nonneg hlo
    omega
  have hday100 : (fieldsOf s).day < 100 := by omega
  have hnano : (t % 1000000000).toNat < 10 ^ 9 := by omega
  -- the loop, chunk by chunk
  have hloop : chunks rfc3339Nano {} (format t) =
      some { fieldsOf s with nanosecond := (t % 1000000000).toNat } := by
    have hlayout : rfc3339Nano = [⟨[], .longYear⟩, ⟨[dash], .zeroMonth⟩, ⟨[dash], .zeroDay⟩,
        ⟨[letterT], .hour⟩, ⟨[colon], .zeroMinute⟩, ⟨[colon], .zeroSecond⟩, ⟨[], .fracSecond9⟩,
        ⟨[], .iso8601ColonTZ⟩] := rfl
    rw [format, hs, stamp_eq hlo hhi, hlayout]
    simp only [List.append_assoc, List.cons_append, chunks, skip, step, Option.bind_eq_bind,
      Option.bind_some, Option.map_some, if_true, List.head?_cons, longYear_fixed _ hyear,
      ranged_fixed true hmonth.1 hmonth.2 (by omega), getnum_fixed true hday100,
      ranged_fixed false (Nat.zero_le _) hhour (by omega),
      ranged_fixed true (Nat.zero_le _) hminute (by omega),
      ranged_fixed true (Nat.zero_le _) hsecond (by omega)]
    rw [fraction_appendNano rfl hnano]
    rfl
  have hvalid := Calendar.dateOf_valid (s / 86400 + epoch)
  have hdate : (⟨((fieldsOf s).year : Nat), (fieldsOf s).month, (fieldsOf s).day⟩ : Calendar.Date) =
      Calendar.dateOf (s / 86400 + epoch) := by
    have hy : ((fieldsOf s).year : Int) = (Calendar.dateOf (s / 86400 + epoch)).year :=
      Int.toNat_of_nonneg hlo
    rw [hy]
    rfl
  have hin : (fieldsOf s).day ≤ Calendar.daysIn (fieldsOf s).month (fieldsOf s).year := by
    have hle := hvalid.day_le
    rw [← hdate] at hle
    exact hle
  have hinstant : ({ fieldsOf s with nanosecond := (t % 1000000000).toNat } : Fields).instant = t := by
    have hdays := Calendar.daysOf_dateOf (s / 86400 + epoch)
    rw [← hdate] at hdays
    have hclock : (((fieldsOf s).hour : Int) * 3600 + (fieldsOf s).minute * 60 +
        (fieldsOf s).second) = s % 86400 := by
      simp only [fieldsOf]
      omega
    have hoffset : (fieldsOf s).offset = 0 := rfl
    simp only [Fields.instant, hdays, hoffset]
    omega
  rw [parse, hloop, Option.bind_some, if_pos ⟨hday.1, hin⟩, hinstant]

/-! ### Other years -/

/-- A text that does not begin with four digits and a dash is no time. -/
theorem parse_eq_none {value : List Nat}
    (h : ∀ a b c d rest, value = a :: b :: c :: d :: dash :: rest → isDigit a = false) :
    parse rfc3339Nano value = none := by
  have hloop : chunks rfc3339Nano {} value = none := by
    show chunks (⟨[], .longYear⟩ :: ⟨[dash], .zeroMonth⟩ :: _) {} value = none
    match value with
    | [] | [_] | [_, _] | [_, _, _] => rfl
    | a :: b :: c :: d :: rest =>
      simp only [chunks, skip, step, longYear, Option.bind_eq_bind, Option.bind_some]
      split
      next hall =>
        cases rest with
        | nil => rfl
        | cons e rest =>
          by_cases he : dash = e
          · subst he
            have ha := h a b c d rest rfl
            simp [ha] at hall
          · simp [skip, he]
      · rfl
  rw [parse, hloop]
  rfl

theorem formatNat_five (h : 10000 ≤ n) :
    ∃ a b c d e rest, Decimal.formatNat n = a :: b :: c :: d :: e :: rest ∧ e ≠ dash := by
  have hne : n ≠ 0 := by omega
  have hlen : 4 < (Nat.digits 10 n).length := (Nat.lt_digits_length_iff (by decide) n).mpr h
  have hform : Decimal.formatNat n = ((Nat.digits 10 n).map (48 + ·)).reverse := by
    rw [Decimal.formatNat, if_neg hne]
  have hlen' : 4 < (Decimal.formatNat n).length := by simpa [hform] using hlen
  rcases hf : Decimal.formatNat n with _ | ⟨a, _ | ⟨b, _ | ⟨c, _ | ⟨d, _ | ⟨e, rest⟩⟩⟩⟩⟩
  case cons.cons.cons.cons.cons =>
    refine ⟨a, b, c, d, e, rest, rfl, ?_⟩
    have hdigit := Decimal.mem_formatNat (n := n) (c := e) (by simp [hf])
    have hdash : dash = 45 := rfl
    omega
  all_goals simp [hf] at hlen'

/-- **Exactly the times whose year has four digits are read back.** -/
theorem parse_format_iff {t : Int} : parse rfc3339Nano (format t) = some t ↔ FourDigits t := by
  refine ⟨fun h => ?_, parse_format⟩
  by_contra hnot
  have hnone : parse rfc3339Nano (format t) = none := by
    refine parse_eq_none fun a b c d rest heq => ?_
    have hyear : (Calendar.dateOf (t / 1000000000 / 86400 + epoch)).year =
        yearOf (t / 1000000000) := rfl
    have hout : yearOf (t / 1000000000) < 0 ∨ 9999 < yearOf (t / 1000000000) := by
      by_contra hin
      exact hnot ⟨by omega, by omega⟩
    simp only [format, stamp, hyear, List.append_assoc] at heq
    generalize yearOf (t / 1000000000) = y at heq hout
    rcases hout with hneg | hbig
    · -- the text begins with the sign
      rw [appendInt, if_pos hneg, List.append_assoc, List.singleton_append, List.cons.injEq] at heq
      rw [← heq.1]
      rfl
    · -- the year goes on where the dash is looked for
      obtain ⟨a', b', c', d', e, more, hf, he⟩ := formatNat_five (n := y.natAbs) (by omega)
      have hwide : ¬ y.natAbs < 10 ^ 4 := by omega
      rw [appendInt, if_neg (by omega), if_neg hwide, List.nil_append, hf] at heq
      simp only [List.cons_append, List.cons.injEq] at heq
      exact absurd heq.2.2.2.2.1 he
  rw [hnone] at h
  cases h

/-! ### Different times have different texts -/

/-- The digits that `parseDigits` accepts have the value `digits` gives them. -/
theorem digits_formatNat (n : Nat) : digits (Decimal.formatNat n) = n := by
  have hread : ∀ {cs : List Nat} {k m : Nat}, Decimal.parseDigits k cs = some m →
      cs.foldl (fun n d => 10 * n + (digit d).getD 0) k = m := by
    intro cs
    induction cs with
    | nil => exact fun h => Option.some.inj h
    | cons c cs ih =>
      intro k m h
      obtain ⟨d, hd, hrest⟩ := Option.bind_eq_some_iff.mp h
      have hdigit : digit c = some d := hd
      rw [List.foldl_cons, hdigit, Option.getD_some, Nat.mul_comm]
      exact ih hrest
  have hparse := Decimal.parseUint_formatNat n
  cases hf : Decimal.formatNat n with
  | nil => exact absurd hf (Decimal.formatNat_ne_nil n)
  | cons c cs =>
    rw [hf] at hparse
    exact hread hparse

/-- A dash counts as a leading zero. -/
theorem digits_appendInt (w : Nat) (x : Int) : digits (appendInt w x) = x.natAbs := by
  have hsign : digits (if x < 0 then [dash] else []) = 0 := by split <;> rfl
  rw [appendInt, digits_append, hsign, Nat.zero_mul, Nat.zero_add]
  split_ifs with h
  · exact digits_fixed h
  · exact digits_formatNat _

theorem appendInt_injective {w : Nat} {x y : Int} (h : appendInt w x = appendInt w y) : x = y := by
  have habs : x.natAbs = y.natAbs := by
    rw [← digits_appendInt w x, h, digits_appendInt]
  rw [appendInt, appendInt, habs, List.append_left_inj] at h
  split_ifs at h <;> omega

theorem appendNano_injective {m n : Nat} (hm : m < 10 ^ 9) (hn : n < 10 ^ 9)
    (h : appendNano m = appendNano n) : m = n := by
  unfold appendNano at h
  split_ifs at h with hm0 hn0
  · rw [hm0, hn0]
  · rw [← digits_trimmed hm, (List.cons.inj h).2, digits_trimmed hn]

/-- The text of a day. -/
def dateText (days : Int) : List Nat :=
  let date := Calendar.dateOf days
  appendInt 4 date.year ++ dash :: (appendInt 2 date.month ++ dash :: appendInt 2 date.day)

/-- The text of the time of day, with its fraction of a second. -/
def clockText (clock : Int) (nanosecond : Nat) : List Nat :=
  appendInt 2 (clock / 3600) ++ colon :: (appendInt 2 (clock / 60 % 60) ++ colon ::
    (appendInt 2 (clock % 60) ++ (appendNano nanosecond ++ [letterZ])))

theorem format_eq (t : Int) : format t = dateText (t / 1000000000 / 86400 + epoch) ++
    letterT :: clockText (t / 1000000000 % 86400) (t % 1000000000).toNat := by
  simp [format, stamp, dateText, clockText]

theorem not_mem_appendInt {w c : Nat} {x : Int} (h : 57 < c) : c ∉ appendInt w x := fun hc =>
  absurd (mem_appendInt hc).2 (by omega)

theorem length_appendInt {x : Int} (hlo : 0 ≤ x) (hhi : x < 10 ^ 2) : (appendInt 2 x).length = 2 := by
  rw [appendInt_eq hlo hhi, length_fixed]

theorem dateText_injective {d e : Int} (h : dateText d = dateText e) : d = e := by
  have hmonth : ∀ d, (appendInt 2 (Calendar.dateOf d).month).length = 2 := fun d =>
    length_appendInt (by omega) (by have := (Calendar.dateOf_valid d).month_le; omega)
  have hday : ∀ d, (appendInt 2 (Calendar.dateOf d).day).length = 2 := fun d =>
    length_appendInt (by omega) (by
      have := (fieldsOf_range ((d - epoch) * 86400)).2.1.2
      simp only [fieldsOf, Int.mul_ediv_cancel _ (by decide : (86400 : Int) ≠ 0),
        Int.sub_add_cancel] at this
      omega)
  obtain ⟨hy, hrest⟩ := List.append_inj' h (by simp [hmonth, hday])
  obtain ⟨hm, hd⟩ := List.append_inj (List.cons.inj hrest).2 ((hmonth d).trans (hmonth e).symm)
  have hdate : Calendar.dateOf d = Calendar.dateOf e := by
    rw [Calendar.Date.mk.injEq]
    exact ⟨appendInt_injective hy, Int.ofNat.inj (appendInt_injective hm),
      Int.ofNat.inj (appendInt_injective (List.cons.inj hd).2)⟩
  rw [← Calendar.daysOf_dateOf d, hdate, Calendar.daysOf_dateOf]

theorem clockText_injective {c d : Int} {m n : Nat} (hm : m < 10 ^ 9) (hn : n < 10 ^ 9)
    (h : clockText c m = clockText d n) : c = d ∧ m = n := by
  have hcolon : ∀ x, colon ∉ appendInt 2 x := fun _ => not_mem_appendInt (by decide)
  obtain ⟨hhour, h⟩ := Decimal.append_cons_inj (hcolon _) (hcolon _) h
  obtain ⟨hminute, h⟩ := Decimal.append_cons_inj (hcolon _) (hcolon _) h
  obtain ⟨hsecond, h⟩ := List.append_inj h (by
    rw [length_appendInt (by omega) (by omega), length_appendInt (by omega) (by omega)])
  have h₁ := appendInt_injective hhour
  have h₂ := appendInt_injective hminute
  have h₃ := appendInt_injective hsecond
  exact ⟨by omega, appendNano_injective hm hn (List.append_cancel_right h)⟩

/-- **Different times have different texts**, also when the year has a sign or more than four
    digits. -/
theorem format_injective {t u : Int} (h : format t = format u) : t = u := by
  have hdate : ∀ d, letterT ∉ dateText d := by
    intro d
    simp [dateText, not_mem_appendInt, letterT, dash]
  rw [format_eq, format_eq] at h
  obtain ⟨hd, hc⟩ := Decimal.append_cons_inj (hdate _) (hdate _) h
  have hday := dateText_injective hd
  have hclock := clockText_injective (by omega) (by omega) hc
  omega

end TimeLayout
