import SafetyRecorder.Lib.Calendar
import Mathlib.Data.List.Basic

namespace TimeLayout

/-!
# Time stamps read along a layout

Go's `time.Parse` for the layouts of RFC 3339, over the code units of a text.  A layout is a
list of chunks, each the text before it and what it stands for; the value is read chunk by
chunk.

* `getnum`, `fraction`, `zone` — the numbers, the fraction of a second and the offset;
* `parse` — an instant in nanoseconds since 1970, or `none`;
* `parse_rfc3339Nano` — **the two layouts read alike**: a fraction that the layout does not
  name is taken with the seconds.
-/

/-- What a chunk of a layout stands for. -/
inductive Std
  | longYear | zeroMonth | zeroDay | hour | zeroMinute | zeroSecond | fracSecond9
  | iso8601ColonTZ
  deriving DecidableEq, Repr

/-- The code units of the punctuation of the layouts. -/
def dash : Nat := 45
def colon : Nat := 58
def period : Nat := 46
def comma : Nat := 44
def plus : Nat := 43
def letterT : Nat := 84
def letterZ : Nat := 90

/-- A chunk of a layout and the text before it. -/
structure Chunk where
  before : List Nat
  std : Std

/-- `2006-01-02T15:04`, the beginning of both layouts. -/
def minutes : List Chunk :=
  [⟨[], .longYear⟩, ⟨[dash], .zeroMonth⟩, ⟨[dash], .zeroDay⟩, ⟨[letterT], .hour⟩,
    ⟨[colon], .zeroMinute⟩]

/-- `time.RFC3339`. -/
def rfc3339 : List Chunk := minutes ++ [⟨[colon], .zeroSecond⟩, ⟨[], .iso8601ColonTZ⟩]

/-- `time.RFC3339Nano`. -/
def rfc3339Nano : List Chunk :=
  minutes ++ [⟨[colon], .zeroSecond⟩, ⟨[], .fracSecond9⟩, ⟨[], .iso8601ColonTZ⟩]

/-- The time under construction; `offset` is in seconds. -/
structure Fields where
  year : Nat := 0
  month : Nat := 0
  day : Nat := 0
  hour : Nat := 0
  minute : Nat := 0
  second : Nat := 0
  nanosecond : Nat := 0
  offset : Int := 0

/-! ### Chunks -/

/-- The value of a digit. -/
def digit (c : Nat) : Option Nat := if 48 ≤ c ∧ c ≤ 57 then some (c - 48) else none

/-- `isDigit`. -/
def isDigit (c : Nat) : Bool := (digit c).isSome

/-- `getnum`: two digits, or one unless both are asked for. -/
def getnum (fixed : Bool) : List Nat → Option (Nat × List Nat)
  | [] => none
  | [c] => if fixed then none else (digit c).map (·, [])
  | c :: d :: rest =>
    match digit c, digit d with
    | some n, some m => some (10 * n + m, rest)
    | some n, none => if fixed then none else some (n, d :: rest)
    | none, _ => none

/-- `skip`: the text of a layout between chunks. -/
def skip : List Nat → List Nat → Option (List Nat)
  | [], value => some value
  | _ :: _, [] => none
  | p :: before, c :: value => if p = c then skip before value else none

/-- The value of a row of digits. -/
def digits (ds : List Nat) : Nat := ds.foldl (fun n d => 10 * n + (digit d).getD 0) 0

/-- `parseNanoseconds`: at most nine digits count. -/
def nanoseconds (ds : List Nat) : Nat := digits (ds.take 9) * 10 ^ (9 - (ds.take 9).length)

/-- A fraction of a second after a comma or a period, when one is there. -/
def fraction (fields : Fields) (value : List Nat) : Fields × List Nat :=
  match value with
  | sep :: d :: rest =>
    if (sep = comma ∨ sep = period) ∧ isDigit d then
      ({ fields with nanosecond := nanoseconds ((d :: rest).takeWhile isDigit) },
        (d :: rest).dropWhile isDigit)
    else (fields, value)
  | _ => (fields, value)

/-- `+07:00`: a sign, hours and minutes. -/
def numericZone (fields : Fields) : List Nat → Option (Fields × List Nat)
  | sign :: h₁ :: h₂ :: sep :: m₁ :: m₂ :: rest => do
    let (hours, _) ← getnum true [h₁, h₂]
    let (minutes, _) ← getnum true [m₁, m₂]
    let seconds : Int := ((hours * 60 + minutes) * 60 : Nat)
    if sep ≠ colon then none
    else if hours > 24 ∨ minutes > 60 then none
    else if sign = plus then some ({ fields with offset := seconds }, rest)
    else if sign = dash then some ({ fields with offset := -seconds }, rest)
    else none
  | _ => none

/-- `Z07:00`: `Z`, or an offset. -/
def zone (fields : Fields) (value : List Nat) : Option (Fields × List Nat) :=
  match value with
  | c :: rest =>
    if c = letterZ then some ({ fields with offset := 0 }, rest) else numericZone fields value
  | [] => none

/-- A number within a range. -/
def ranged (fixed : Bool) (low high : Nat) (value : List Nat) : Option (Nat × List Nat) :=
  (getnum fixed value).filter fun x => low ≤ x.1 ∧ x.1 ≤ high

/-- `stdLongYear`: four digits. -/
def longYear (fields : Fields) : List Nat → Option (Fields × List Nat)
  | a :: b :: c :: d :: rest =>
    if [a, b, c, d].all isDigit then some ({ fields with year := digits [a, b, c, d] }, rest)
    else none
  | _ => none

/-- One turn of the loop of `parse`; `next` is the chunk after this one. -/
def step (std : Std) (next : Option Std) (fields : Fields) (value : List Nat) :
    Option (Fields × List Nat) :=
  match std with
  | .longYear => longYear fields value
  | .zeroMonth => (ranged true 1 12 value).map fun (n, v) => ({ fields with month := n }, v)
  | .zeroDay => (getnum true value).map fun (n, v) => ({ fields with day := n }, v)
  | .hour => (ranged false 0 23 value).map fun (n, v) => ({ fields with hour := n }, v)
  | .zeroMinute => (ranged true 0 59 value).map fun (n, v) => ({ fields with minute := n }, v)
  | .zeroSecond =>
    (ranged true 0 59 value).map fun (n, v) =>
      if next = some .fracSecond9 then ({ fields with second := n }, v)
      else fraction { fields with second := n } v
  | .fracSecond9 => some (fraction fields value)
  | .iso8601ColonTZ => zone fields value

/-- The loop of `parse`. -/
def chunks : List Chunk → Fields → List Nat → Option Fields
  | [], fields, value => if value = [] then some fields else none
  | chunk :: layout, fields, value => do
    let value ← skip chunk.before value
    let (fields, value) ← step chunk.std (layout.head?.map Chunk.std) fields value
    chunks layout fields value

/-! ### Instants -/

/-- The day 1 January 1970. -/
def epoch : Int := Calendar.daysToYear 1970

/-- `Date`, in nanoseconds since 1970. -/
def Fields.instant (f : Fields) : Int :=
  let days := Calendar.daysOf ⟨f.year, f.month, f.day⟩ - epoch
  let seconds := days * 86400 + f.hour * 3600 + f.minute * 60 + f.second - f.offset
  seconds * 1000000000 + f.nanosecond

/-- `time.Parse`. -/
def parse (layout : List Chunk) (value : List Nat) : Option Int :=
  (chunks layout {} value).bind fun f =>
    if 1 ≤ f.day ∧ f.day ≤ Calendar.daysIn f.month f.year then some f.instant else none

example : parse rfc3339Nano ("1970-01-02T1:00:00.5+01:00".toList.map Char.toNat) =
    some 86400500000000 := by
  decide +kernel

/-! ### The two layouts -/

/-- Layouts that go on alike after a common beginning. -/
theorem chunks_append {layout layout' : List Chunk}
    (h : ∀ fields value, chunks layout fields value = chunks layout' fields value)
    (hnext : layout.head?.map Chunk.std = layout'.head?.map Chunk.std)
    (begin : List Chunk) (fields : Fields) (value : List Nat) :
    chunks (begin ++ layout) fields value = chunks (begin ++ layout') fields value := by
  induction begin generalizing fields value with
  | nil => exact h fields value
  | cons chunk begin ih =>
    have hhead : (begin ++ layout).head?.map Chunk.std = (begin ++ layout').head?.map Chunk.std := by
      cases begin with
      | nil => exact hnext
      | cons c begin => rfl
    simp only [List.cons_append, chunks, hhead, ih]

/-- Seconds with a fraction that the layout does not name. -/
theorem chunks_fraction (layout : List Chunk) (fields : Fields) (value : List Nat)
    (hnext : layout.head?.map Chunk.std ≠ some .fracSecond9) :
    chunks (⟨[colon], .zeroSecond⟩ :: layout) fields value =
      chunks (⟨[colon], .zeroSecond⟩ :: ⟨[], .fracSecond9⟩ :: layout) fields value := by
  have hnamed : (List.head? (⟨[], .fracSecond9⟩ :: layout)).map Chunk.std = some .fracSecond9 := rfl
  simp only [chunks, step, hnamed, if_neg hnext, if_true]
  cases skip [colon] value with
  | none => rfl
  | some rest =>
    cases hr : ranged true 0 59 rest with
    | none => simp [hr]
    | some x => simp [hr, skip]

/-- **The two layouts of RFC 3339 read alike.** -/
theorem parse_rfc3339Nano (value : List Nat) : parse rfc3339Nano value = parse rfc3339 value := by
  have hseconds : ∀ fields value,
      chunks [⟨[colon], .zeroSecond⟩, ⟨[], .iso8601ColonTZ⟩] fields value =
        chunks [⟨[colon], .zeroSecond⟩, ⟨[], .fracSecond9⟩, ⟨[], .iso8601ColonTZ⟩] fields value :=
    fun fields value => chunks_fraction _ fields value (by decide)
  have hchunks := chunks_append hseconds rfl minutes {} value
  rw [parse, parse, rfc3339, rfc3339Nano, hchunks]

end TimeLayout
