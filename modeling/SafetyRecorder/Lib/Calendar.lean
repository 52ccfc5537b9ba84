import Mathlib.Data.Int.Basic
import Mathlib.Tactic.NormNum

namespace Calendar

/-!
# The Gregorian calendar

Days counted from 1 January of the year 0, in both directions, and the dates they fall on.

* `daysToYear`, `yearOf` — the first day of a year, and the year of a day (`yearOf_spec`);
* `dateOf`, `daysOf` — the date of a day and the day of a date (`daysOf_dateOf`);
* `dateOf_valid` — what is computed is a date;
* `dateOf_lt` — **later days have later dates**, compared by year, month and day.
-/

/-- `isLeap`. -/
def isLeap (year : Int) : Bool := year % 4 = 0 && (year % 100 ≠ 0 || year % 400 = 0)

/-- The first day of a year. -/
def daysToYear (year : Int) : Int :=
  365 * year + (year + 3) / 4 - (year + 99) / 100 + (year + 399) / 400

/-- The days of a year before each of its months. -/
def monthStarts (leap : Bool) : List Nat :=
  if leap then [0, 31, 60, 91, 121, 152, 182, 213, 244, 274, 305, 335]
  else [0, 31, 59, 90, 120, 151, 181, 212, 243, 273, 304, 334]

/-- The days of a year before a month, numbered from one. -/
def monthStart (leap : Bool) (month : Nat) : Nat := ((monthStarts leap)[month - 1]?).getD 0

/-- `daysIn`. -/
def daysIn (month : Nat) (year : Int) : Nat :=
  if month = 2 then if isLeap year then 29 else 28
  else if month ∈ [4, 6, 9, 11] then 30
  else 31

/-- A date. -/
structure Date where
  year : Int
  month : Nat
  day : Nat
  deriving DecidableEq, Repr

/-- The day of a date. -/
def daysOf (date : Date) : Int :=
  daysToYear date.year + monthStart (isLeap date.year) date.month + (date.day - 1 : Int)

/-- The year of a day: the mean length of a year gives it up to one. -/
def yearOf (days : Int) : Int :=
  let year := days * 400 / 146097
  if daysToYear (year + 1) ≤ days then year + 1
  else if days < daysToYear year then year - 1
  else year

/-- The month of a day of the year: how many months have begun. -/
def monthOf (leap : Bool) (yday : Nat) : Nat := (monthStarts leap).countP (· ≤ yday)

/-- The date of a day. -/
def dateOf (days : Int) : Date :=
  let year := yearOf days
  let yday := (days - daysToYear year).toNat
  let month := monthOf (isLeap year) yday
  ⟨year, month, yday - monthStart (isLeap year) month + 1⟩

example : dateOf 719528 = ⟨1970, 1, 1⟩ := by decide
example : dateOf (-1) = ⟨-1, 12, 31⟩ := by decide

/-! ### Years -/

/-- The length of a year. -/
def yearLength (leap : Bool) : Nat := if leap then 366 else 365

theorem daysToYear_succ (year : Int) :
    daysToYear (year + 1) = daysToYear year + yearLength (isLeap year) := by
  have hleap : isLeap year = true ↔ year % 4 = 0 ∧ (year % 100 ≠ 0 ∨ year % 400 = 0) := by
    simp [isLeap]
  -- each of the three counts goes up in the years its period divides
  have h4 : (year + 1 + 3) / 4 = (year + 3) / 4 + if year % 4 = 0 then 1 else 0 := by
    split <;> omega
  have h100 : (year + 1 + 99) / 100 = (year + 99) / 100 + if year % 100 = 0 then 1 else 0 := by
    split <;> omega
  have h400 : (year + 1 + 399) / 400 = (year + 399) / 400 + if year % 400 = 0 then 1 else 0 := by
    split <;> omega
  have hdvd : year % 100 = 0 → year % 4 = 0 := by omega
  have hdvd' : year % 400 = 0 → year % 100 = 0 := by omega
  have hlength : (yearLength (isLeap year) : Int) = 365 + (if year % 4 = 0 then 1 else 0) -
      (if year % 100 = 0 then 1 else 0) + if year % 400 = 0 then 1 else 0 := by
    by_cases h : isLeap year = true
    · have hyear := hleap.mp h
      rw [h, yearLength, if_pos rfl, if_pos hyear.1]
      split <;> split <;> omega
    · have hyear : ¬ (year % 4 = 0 ∧ (year % 100 ≠ 0 ∨ year % 400 = 0)) := fun hyp =>
        h (hleap.mpr hyp)
      rw [yearLength, if_neg h]
      split <;> split <;> split <;> omega
  rw [daysToYear, daysToYear, h4, h100, h400, hlength]
  omega

theorem daysToYear_le {y z : Int} (h : y ≤ z) : daysToYear y ≤ daysToYear z := by
  unfold daysToYear
  omega

/-- **The year of a day.** -/
theorem yearOf_spec (days : Int) :
    daysToYear (yearOf days) ≤ days ∧ days < daysToYear (yearOf days + 1) := by
  -- the estimate is off by at most one: a year before it ends too early, two later too late
  have hlo : daysToYear (days * 400 / 146097 - 1) ≤ days := by
    unfold daysToYear
    omega
  have hhi : days < daysToYear (days * 400 / 146097 + 1 + 1) := by
    unfold daysToYear
    omega
  unfold yearOf
  simp only
  split
  next h => exact ⟨h, hhi⟩
  next h =>
    split
    next h' => exact ⟨hlo, by rwa [Int.sub_add_cancel]⟩
    next h' => exact ⟨not_lt.mp h', not_le.mp h⟩

theorem yearOf_le {d e : Int} (h : d ≤ e) : yearOf d ≤ yearOf e := by
  by_contra hlt
  have hstep : yearOf e + 1 ≤ yearOf d := by omega
  have hle := daysToYear_le hstep
  have hd := (yearOf_spec d).1
  have he := (yearOf_spec e).2
  omega

/-! ### Months -/

/-- What the table of months says about a day of the year. -/
theorem monthOf_spec : ∀ leap : Bool, ∀ yday < yearLength leap,
    1 ≤ monthOf leap yday ∧ monthOf leap yday ≤ 12 ∧
      monthStart leap (monthOf leap yday) ≤ yday := by
  decide +kernel

/-- A day of the year lies within its month. -/
theorem day_le_daysIn : ∀ leap : Bool, ∀ yday < yearLength leap,
    yday - monthStart leap (monthOf leap yday) + 1 ≤
      daysIn (monthOf leap yday) (if leap then 0 else 1) := by
  decide +kernel

theorem monthOf_le {leap : Bool} {m n : Nat} (h : m ≤ n) : monthOf leap m ≤ monthOf leap n := by
  refine List.countP_mono_left fun start _ hstart => ?_
  simp only [decide_eq_true_eq] at hstart ⊢
  omega

theorem daysIn_congr {y z : Int} (h : isLeap y = isLeap z) (month : Nat) :
    daysIn month y = daysIn month z := by
  simp only [daysIn, h]

/-! ### Dates -/

/-- The day of the year lies within the year. -/
theorem yday_lt (days : Int) :
    (days - daysToYear (yearOf days)).toNat < yearLength (isLeap (yearOf days)) := by
  obtain ⟨hlo, hhi⟩ := yearOf_spec days
  rw [daysToYear_succ] at hhi
  omega

/-- **The date of a day is that day.** -/
theorem daysOf_dateOf (days : Int) : daysOf (dateOf days) = days := by
  have hlo := (yearOf_spec days).1
  have hmonth := (monthOf_spec _ _ (yday_lt days)).2.2
  simp only [daysOf, dateOf]
  omega

/-- What a date has to satisfy. -/
structure Date.Valid (date : Date) : Prop where
  month_pos : 1 ≤ date.month
  month_le : date.month ≤ 12
  day_pos : 1 ≤ date.day
  day_le : date.day ≤ daysIn date.month date.year

theorem dateOf_valid (days : Int) : (dateOf days).Valid := by
  have hyday := yday_lt days
  obtain ⟨hpos, hle, -⟩ := monthOf_spec _ _ hyday
  have hday := day_le_daysIn _ _ hyday
  have hleap : isLeap (if isLeap (yearOf days) then 0 else 1) = isLeap (yearOf days) := by
    cases isLeap (yearOf days) <;> rfl
  rw [daysIn_congr hleap] at hday
  exact ⟨hpos, hle, Nat.le_add_left _ _, hday⟩

/-- The order of dates. -/
def Date.Before (d e : Date) : Prop :=
  d.year < e.year ∨ d.year = e.year ∧
    (d.month < e.month ∨ d.month = e.month ∧ d.day < e.day)

/-- **Later days have later dates.** -/
theorem dateOf_lt {d e : Int} (h : d < e) : (dateOf d).Before (dateOf e) := by
  rcases lt_or_eq_of_le (yearOf_le h.le) with hyear | hyear
  · exact .inl hyear
  refine .inr ⟨hyear, ?_⟩
  have hd := (yearOf_spec d).1
  have he := (yearOf_spec e).1
  have hstart := (monthOf_spec _ _ (yday_lt d)).2.2
  simp only [dateOf, ← hyear] at *
  have hlt : (d - daysToYear (yearOf d)).toNat < (e - daysToYear (yearOf d)).toNat := by omega
  rcases lt_or_eq_of_le (monthOf_le hlt.le) with hmonth | hmonth
  · exact .inl hmonth
  · rw [← hmonth]
    exact .inr ⟨rfl, by omega⟩

end Calendar
