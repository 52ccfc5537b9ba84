import Mathlib.Algebra.Order.Ring.Int
import Mathlib.Tactic.SplitIfs

namespace Duration

/-!
# Durations

Go's `time.Duration`, a signed number of nanoseconds in 64 bits, over instants in nanoseconds.

* `sub` — the difference of two instants, cut to the range of a duration (`sub_eq`);
* `near` — whether the difference is below a tolerance in absolute value, with the negation of
  64-bit arithmetic (`near_iff`): the least duration has no negative.
-/

/-- The number of durations. -/
def span : Int := 18446744073709551616

/-- The least duration is the negative of this, the greatest is one less than it. -/
def half : Int := 9223372036854775808

/-- The value of a 64-bit computation. -/
def wrap (x : Int) : Int := (x + half) % span - half

/-- `time.Time.Sub`. -/
def sub (t u : Int) : Int :=
  let d := wrap ((t / 1000000000 - u / 1000000000) * 1000000000 +
    (t % 1000000000 - u % 1000000000))
  if u + d = t then d
  else if t < u then -half
  else half - 1

/-- The absolute difference is below the tolerance, as a program computes it. -/
def near (tolerance t u : Int) : Bool :=
  let delta := sub t u
  let delta := if delta < 0 then wrap (-delta) else delta
  delta < tolerance

/-- `time.Microsecond`. -/
def microsecond : Int := 1000

/-- **The difference, cut to the range of a duration.** -/
theorem sub_eq (t u : Int) : sub t u = max (-half) (min (t - u) (half - 1)) := by
  have hdiff : (t / 1000000000 - u / 1000000000) * 1000000000 +
      (t % 1000000000 - u % 1000000000) = t - u := by
    omega
  rw [sub, hdiff]
  simp only [wrap, span, half]
  split_ifs <;> omega

/-- **Which instants are near each other**: those less than the tolerance apart, and those whose
    difference is cut to the least duration. -/
theorem near_iff {tolerance : Int} (hpos : 0 < tolerance) (hle : tolerance < half) (t u : Int) :
    near tolerance t u = true ↔ |t - u| < tolerance ∨ t - u ≤ -half := by
  rw [near, sub_eq, decide_eq_true_eq, abs_lt]
  simp only [wrap, span, half] at *
  split_ifs <;> omega

end Duration
