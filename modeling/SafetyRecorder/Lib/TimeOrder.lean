import SafetyRecorder.Lib.TimeText

namespace TimeLayout

/-!
# How time stamps compare as texts

The fixed fields of a time stamp compare as the seconds do.  Within a second the fractions
compare digit by digit up to the point where one of them ends, and there `Z` stands against a
digit or a period.

* `stamp_lt` — later seconds have later texts;
* `Truncated` — one time is the other one cut to fewer decimals;
* `format_le_iff` — **without such a cut the texts compare as the times do**.
-/

/-! ### Lists in lexicographic order -/

variable {as bs : List Nat}

/-- Beginnings of one length decide, unless they are equal. -/
theorem append_lt_append_iff (h : as.length = bs.length) (xs ys : List Nat) :
    as ++ xs < bs ++ ys ↔ as < bs ∨ as = bs ∧ xs < ys := by
  induction as generalizing bs with
  | nil =>
    obtain rfl := List.length_eq_zero_iff.mp h.symm
    simp
  | cons a as ih =>
    cases bs with
    | nil => cases h
    | cons b bs =>
      have hlen : as.length = bs.length := by simpa using h
      simp only [List.cons_append, List.cons_lt_cons_iff, ih hlen, List.cons.injEq]
      tauto

/-- Beginnings of which neither is the beginning of the other decide. -/
theorem append_lt_append_of_diverge (h : ¬ as <+: bs) (h' : ¬ bs <+: as)
    (xs ys : List Nat) : as ++ xs < bs ++ ys ↔ as < bs := by
  induction as generalizing bs with
  | nil => exact absurd List.nil_prefix h
  | cons a as ih =>
    cases bs with
    | nil => exact absurd List.nil_prefix h'
    | cons b bs =>
      simp only [List.cons_append, List.cons_lt_cons_iff]
      by_cases hab : a = b
      · subst hab
        have hp : ¬ as <+: bs := fun hp => h (List.cons_prefix_cons.mpr ⟨rfl, hp⟩)
        have hp' : ¬ bs <+: as := fun hp => h' (List.cons_prefix_cons.mpr ⟨rfl, hp⟩)
        rw [ih hp hp']
      · simp [hab]

theorem append_lt_append_left (as : List Nat) {xs ys : List Nat} (h : xs < ys) :
    as ++ xs < as ++ ys :=
  (append_lt_append_iff rfl xs ys).mpr (.inr ⟨rfl, h⟩)

/-! ### Rows of digits -/

/-- Rows of one length compare as their values do. -/
theorem digits_lt_digits (hlen : as.length = bs.length)
    (hb : ∀ c ∈ bs, isDigit c = true) (ha : ∀ c ∈ as, isDigit c = true) (h : as < bs) :
    digits as < digits bs := by
  induction as generalizing bs with
  | nil =>
    obtain rfl := List.length_eq_zero_iff.mp hlen.symm
    exact absurd h (List.lt_irrefl _)
  | cons a as ih =>
    cases bs with
    | nil => cases hlen
    | cons b bs =>
      have hlen' : as.length = bs.length := by simpa using hlen
      have hda := isDigit_iff.mp (ha a (List.mem_cons_self ..))
      have hdb := isDigit_iff.mp (hb b (List.mem_cons_self ..))
      have hva : (digit a).getD 0 = a - 48 := by simp [digit, hda]
      have hvb : (digit b).getD 0 = b - 48 := by simp [digit, hdb]
      rw [digits_cons, digits_cons, hva, hvb, hlen']
      rcases List.cons_lt_cons_iff.mp h with hlt | ⟨rfl, hrest⟩
      · -- the first digit decides, whatever follows
        have hstep : a - 48 + 1 ≤ b - 48 := by omega
        have hfollow := digits_lt as
        rw [hlen'] at hfollow
        calc (a - 48) * 10 ^ bs.length + digits as
            < (a - 48) * 10 ^ bs.length + 10 ^ bs.length := Nat.add_lt_add_left hfollow _
          _ = (a - 48 + 1) * 10 ^ bs.length := by ring
          _ ≤ (b - 48) * 10 ^ bs.length := Nat.mul_le_mul_right _ hstep
          _ ≤ (b - 48) * 10 ^ bs.length + digits bs := Nat.le_add_right _ _
      · have hrec := ih hlen' (fun c hc => hb c (List.mem_cons_of_mem _ hc))
          (fun c hc => ha c (List.mem_cons_of_mem _ hc)) hrest
        exact Nat.add_lt_add_left hrec _

theorem fixed_lt_iff {w n m : Nat} (hn : n < 10 ^ w) (hm : m < 10 ^ w) :
    fixed w n < fixed w m ↔ n < m := by
  have hmono : ∀ {k l}, k < 10 ^ w → l < 10 ^ w → fixed w k < fixed w l → k < l := by
    intro k l hk hl hlt
    have hval := digits_lt_digits (by simp) (fun c hc => isDigit_fixed hc)
      (fun c hc => isDigit_fixed hc) hlt
    rwa [digits_fixed hk, digits_fixed hl] at hval
  refine ⟨hmono hn hm, fun hlt => ?_⟩
  by_contra hnot
  rcases List.le_iff_lt_or_eq.mp (List.not_lt.mp hnot) with hgt | heq
  · have hback := hmono hm hn hgt
    omega
  · have hval := digits_fixed hm
    rw [heq, digits_fixed hn] at hval
    omega

/-! ### Seconds -/

/-- The smaller field decides, and among equal fields what comes after them. -/
theorem fixed_append_lt {w n m c : Nat} {xs ys : List Nat} (hn : n < 10 ^ w) (hm : m < 10 ^ w)
    (h : n < m ∨ n = m ∧ xs < ys) : fixed w n ++ c :: xs < fixed w m ++ c :: ys := by
  rcases h with hlt | ⟨rfl, hlt⟩
  · exact (append_lt_append_iff (by simp) _ _).mpr (.inl ((fixed_lt_iff hn hm).mpr hlt))
  · exact append_lt_append_left _ (List.cons_lt_cons_iff.mpr (.inr ⟨rfl, hlt⟩))

/-- **Later seconds have later texts.** -/
theorem stamp_lt {s s' : Int} (hlo : 0 ≤ yearOf s) (hhi : yearOf s' ≤ 9999) (h : s < s') :
    stamp s < stamp s' := by
  have hle : yearOf s ≤ yearOf s' := Calendar.yearOf_le (by omega)
  rw [stamp_eq hlo (hle.trans hhi), stamp_eq (hlo.trans hle) hhi]
  obtain ⟨⟨-, hmonth⟩, ⟨-, hday⟩, hhour, hminute, hsecond⟩ := fieldsOf_range s
  obtain ⟨⟨-, hmonth'⟩, ⟨-, hday'⟩, hhour', hminute', hsecond'⟩ := fieldsOf_range s'
  have hyear : (fieldsOf s).year = (yearOf s).toNat := rfl
  have hyear' : (fieldsOf s').year = (yearOf s').toNat := rfl
  -- within a day the clock decides, otherwise the date
  have hclock : s / 86400 = s' / 86400 → (fieldsOf s).hour < (fieldsOf s').hour ∨
      (fieldsOf s).hour = (fieldsOf s').hour ∧ ((fieldsOf s).minute < (fieldsOf s').minute ∨
        (fieldsOf s).minute = (fieldsOf s').minute ∧
          (fieldsOf s).second < (fieldsOf s').second) := by
    intro hdays
    simp only [fieldsOf]
    omega
  have hlex : (fieldsOf s).year < (fieldsOf s').year ∨ (fieldsOf s).year = (fieldsOf s').year ∧
      ((fieldsOf s).month < (fieldsOf s').month ∨ (fieldsOf s).month = (fieldsOf s').month ∧
        ((fieldsOf s).day < (fieldsOf s').day ∨ (fieldsOf s).day = (fieldsOf s').day ∧
          s / 86400 = s' / 86400)) := by
    rcases lt_or_eq_of_le (show s / 86400 ≤ s' / 86400 by omega) with hdays | hdays
    · rcases Calendar.dateOf_lt (show s / 86400 + epoch < s' / 86400 + epoch by omega) with
        hy | ⟨hy, hm | ⟨hm, hd⟩⟩
      · have hlt : yearOf s < yearOf s' := hy
        omega
      · exact .inr ⟨congrArg Int.toNat hy, .inl hm⟩
      · exact .inr ⟨congrArg Int.toNat hy, .inr ⟨hm, .inl hd⟩⟩
    · simp only [fieldsOf, hdays, and_self, or_true]
  refine fixed_append_lt (by omega) (by omega) (hlex.imp_right (And.imp_right fun hlex => ?_))
  refine fixed_append_lt (by omega) (by omega) (hlex.imp_right (And.imp_right fun hlex => ?_))
  refine fixed_append_lt (by omega) (by omega) (hlex.imp_right (And.imp_right fun hdays => ?_))
  have hlex := hclock hdays
  refine fixed_append_lt (by omega) (by omega) (hlex.imp_right (And.imp_right fun hlex => ?_))
  refine fixed_append_lt (by omega) (by omega) (hlex.imp_right (And.imp_right fun hlex => ?_))
  exact (fixed_lt_iff (by omega) (by omega)).mpr hlex

/-! ### Fractions -/

/-- One fraction is the other one cut to fewer decimals, in nanoseconds. -/
def Cut (n m : Nat) : Prop := ∃ k ≤ 9, n = m / 10 ^ k * 10 ^ k

/-- The digits of a cut fraction are the beginning of the digits of the other one. -/
theorem cut_of_begins {n m : Nat} (hn : n < 10 ^ 9) (hm : m < 10 ^ 9)
    (h : trimmed n <+: trimmed m) : Cut n m := by
  refine ⟨9 - (trimmed n).length, Nat.sub_le _ _, ?_⟩
  obtain ⟨rest, hrest⟩ := h.trans (List.rdropWhile_prefix (· == 48) (fixed 9 m))
  have hlen : rest.length = 9 - (trimmed n).length := by
    have := congrArg List.length hrest
    rw [List.length_append, length_fixed] at this
    omega
  have hval : digits (trimmed n) * 10 ^ rest.length + digits rest = m := by
    rw [← digits_append, hrest, digits_fixed hm]
  have hdiv : m / 10 ^ rest.length = digits (trimmed n) := by
    rw [← hval, Nat.add_comm, Nat.add_mul_div_right _ _ (Nat.pow_pos (by decide)),
      Nat.div_eq_of_lt (digits_lt rest), Nat.zero_add]
  rw [← hlen, hdiv, hlen, digits_trimmed hn]

theorem cut_zero {m : Nat} (hm : m < 10 ^ 9) : Cut 0 m :=
  ⟨9, le_rfl, by rw [Nat.div_eq_of_lt hm, Nat.zero_mul]⟩

/-- Fractions of which neither is the other one cut compare as the numbers do. -/
theorem appendNano_lt_iff {n m : Nat} (hn : n < 10 ^ 9) (hm : m < 10 ^ 9) (h : ¬ Cut n m)
    (h' : ¬ Cut m n) : appendNano n ++ [letterZ] < appendNano m ++ [letterZ] ↔ n < m := by
  have hn0 : n ≠ 0 := fun h0 => h (h0 ▸ cut_zero hm)
  have hm0 : m ≠ 0 := fun h0 => h' (h0 ▸ cut_zero hn)
  have hp : ¬ trimmed n <+: trimmed m := fun hp => h (cut_of_begins hn hm hp)
  have hp' : ¬ trimmed m <+: trimmed n := fun hp => h' (cut_of_begins hm hn hp)
  calc appendNano n ++ [letterZ] < appendNano m ++ [letterZ]
      ↔ trimmed n ++ [letterZ] < trimmed m ++ [letterZ] := by
        rw [appendNano, appendNano, if_neg hn0, if_neg hm0, List.cons_append, List.cons_append,
          List.cons_lt_cons_iff]
        simp
    _ ↔ trimmed n < trimmed m := append_lt_append_of_diverge hp hp' _ _
    _ ↔ fixed 9 n < fixed 9 m := by
        rw [← trimmed_append n, ← trimmed_append m, append_lt_append_of_diverge hp hp']
    _ ↔ n < m := fixed_lt_iff hn hm

/-! ### Times -/

/-- **One time is the other one cut to fewer decimals of a second**, down to none. -/
def Truncated (t u : Int) : Prop := ∃ k ≤ 9, t = u / 10 ^ k * 10 ^ k

variable {t u : Int}

/-- A cut leaves the second and cuts the fraction. -/
theorem truncated_iff : Truncated t u ↔
    t / 1000000000 = u / 1000000000 ∧ Cut (t % 1000000000).toNat (u % 1000000000).toNat := by
  constructor
  · rintro ⟨k, hk, ht⟩
    have hsecond : t / 1000000000 = u / 1000000000 := by
      interval_cases k <;> norm_num at ht <;> omega
    refine ⟨hsecond, k, hk, ?_⟩
    interval_cases k <;> norm_num at ht ⊢ <;> omega
  · rintro ⟨hsecond, k, hk, ht⟩
    refine ⟨k, hk, ?_⟩
    interval_cases k <;> norm_num at ht ⊢ <;> omega

/-- Texts compare by the second first and by the fraction within it. -/
theorem format_lt_format_iff (ht : FourDigits t) (hu : FourDigits u) :
    format t < format u ↔ t / 1000000000 < u / 1000000000 ∨
      t / 1000000000 = u / 1000000000 ∧
        appendNano (t % 1000000000).toNat ++ [letterZ] <
          appendNano (u % 1000000000).toNat ++ [letterZ] := by
  have hlen : (stamp (t / 1000000000)).length = (stamp (u / 1000000000)).length := by
    rw [stamp_eq ht.1 ht.2, stamp_eq hu.1 hu.2]
    simp
  rw [format, format, append_lt_append_iff hlen]
  rcases lt_trichotomy (t / 1000000000) (u / 1000000000) with hlt | heq | hgt
  · have hstamp := stamp_lt ht.1 hu.2 hlt
    simp only [hstamp, hlt, true_or]
  · simp only [heq, lt_irrefl, true_and, false_or]
  · have hstamp := stamp_lt hu.1 ht.2 hgt
    have hnot : ¬ stamp (t / 1000000000) < stamp (u / 1000000000) := fun h =>
      List.lt_irrefl _ (List.lt_trans h hstamp)
    have hne : stamp (t / 1000000000) ≠ stamp (u / 1000000000) := fun h =>
      List.lt_irrefl _ (h ▸ hstamp)
    simp only [hnot, hne, false_and, or_false, false_iff, not_or, not_and]
    exact ⟨by omega, fun h => by omega⟩

/-- Neither of two different times is the other one cut to fewer decimals. -/
def Comparable (t u : Int) : Prop := t = u ∨ ¬ Truncated t u ∧ ¬ Truncated u t

theorem Comparable.symm (h : Comparable t u) : Comparable u t :=
  h.imp Eq.symm And.symm

/-- **Comparable times compare as their texts.** -/
theorem format_lt_iff (ht : FourDigits t) (hu : FourDigits u)
    (h : Comparable t u) : format t < format u ↔ t < u := by
  rw [format_lt_format_iff ht hu]
  rcases h with rfl | ⟨h, h'⟩
  · simp
  by_cases hsecond : t / 1000000000 = u / 1000000000
  · rw [truncated_iff] at h h'
    have hcut : ¬ Cut (t % 1000000000).toNat (u % 1000000000).toNat := fun hc => h ⟨hsecond, hc⟩
    have hcut' : ¬ Cut (u % 1000000000).toNat (t % 1000000000).toNat := fun hc =>
      h' ⟨hsecond.symm, hc⟩
    rw [appendNano_lt_iff (by omega) (by omega) hcut hcut']
    omega
  · simp only [hsecond, false_and, or_false]
    omega

theorem format_le_iff (ht : FourDigits t) (hu : FourDigits u)
    (h : Comparable t u) : format t ≤ format u ↔ t ≤ u := by
  rw [← not_lt, format_lt_iff hu ht h.symm, not_lt]

end TimeLayout
