import Mathlib.Data.List.Nodup
import Mathlib.Data.List.Range
import SafetyRecorder.Lib.Table

namespace Versions

/-!
# Versioned rows

The rows of a table fall into groups, and the rows of a group are the versions of one
thing.  A new version is numbered after the highest one, and the older versions are closed.

* `Chain version isOpen rows` — the rows are numbered from 1 on without gaps, and only the
  newest can be open;
* `Chain.highest` — the highest version is the number of rows;
* `Numbered group version isOpen t` — every group of the table is such a chain;
* `numbered_map`, `numbered_insert`, `numbered_supersede` — updates in place, a first
  version, and a new version that closes the older ones.
-/

variable {α γ : Type}

/-- The rows are numbered in order, and only the last can be open. -/
structure Chain (version : α → Int) (isOpen : α → Bool) (rows : List α) : Prop where
  numbered : rows.map version = (List.range rows.length).map fun i : Nat => (i : Int) + 1
  newest : ∀ r ∈ rows, isOpen r = true → version r = rows.length

variable {version : α → Int} {isOpen : α → Bool} {rows : List α}

theorem chain_nil : Chain version isOpen [] := ⟨rfl, fun _ h => by cases h⟩

private theorem foldl_max_range (n : Nat) :
    ((List.range n).map fun i : Nat => (i : Int) + 1).foldl max 0 = n := by
  induction n with
  | zero => rfl
  | succ n ih =>
    rw [List.range_succ, List.map_append, List.foldl_append, ih, List.map_singleton,
      List.foldl_cons, List.foldl_nil]
    omega

/-- The highest version is the number of rows. -/
theorem Chain.highest (h : Chain version isOpen rows) :
    (rows.map version).foldl max 0 = rows.length := by
  rw [h.numbered, foldl_max_range]

theorem Chain.nodup (h : Chain version isOpen rows) : (rows.map version).Nodup := by
  rw [h.numbered]
  refine List.nodup_range.map ?_
  intro i j hij
  have heq : (i : Int) + 1 = j + 1 := hij
  omega

/-- The versions are exactly `1, …, n`. -/
theorem Chain.mem_iff (h : Chain version isOpen rows) (v : Int) :
    (∃ r ∈ rows, version r = v) ↔ 1 ≤ v ∧ v ≤ rows.length := by
  rw [← List.mem_map, h.numbered, List.mem_map]
  constructor
  · rintro ⟨i, hi, rfl⟩
    have hlt := List.mem_range.mp hi
    omega
  · rintro ⟨hlow, hhigh⟩
    exact ⟨(v - 1).toNat, List.mem_range.mpr (by omega), by omega⟩

/-- No row has a higher version than the number of rows. -/
theorem Chain.le (h : Chain version isOpen rows) {r : α} (hr : r ∈ rows) :
    version r ≤ rows.length :=
  ((h.mem_iff _).mp ⟨r, hr, rfl⟩).2

/-- There is at most one open row. -/
theorem Chain.open_unique (h : Chain version isOpen rows) {r r' : α} (hr : r ∈ rows)
    (hr' : r' ∈ rows) (hopen : isOpen r = true) (hopen' : isOpen r' = true) : r = r' := by
  refine List.inj_on_of_nodup_map h.nodup hr hr' ?_
  rw [h.newest r hr hopen, h.newest r' hr' hopen']

variable {f : α → α}

/-- An update in place that opens no row. -/
theorem Chain.map (h : Chain version isOpen rows) (hversion : ∀ r ∈ rows, version (f r) = version r)
    (hopen : ∀ r ∈ rows, isOpen (f r) = true → isOpen r = true) :
    Chain version isOpen (rows.map f) := by
  constructor
  · rw [List.map_map, List.length_map, ← h.numbered]
    exact List.map_congr_left hversion
  · intro r hr hr'
    obtain ⟨r₀, hr₀, rfl⟩ := List.mem_map.mp hr
    rw [hversion r₀ hr₀, List.length_map]
    exact h.newest r₀ hr₀ (hopen r₀ hr₀ hr')

/-- A new version after the others are closed. -/
theorem Chain.extend (h : Chain version isOpen rows) {r : α}
    (hversion : version r = rows.length + 1) (hclosed : ∀ r' ∈ rows, isOpen r' = false) :
    Chain version isOpen (rows ++ [r]) := by
  constructor
  · rw [List.map_append, h.numbered, List.length_append, List.length_singleton, List.range_succ,
      List.map_append, List.map_singleton, List.map_singleton, hversion]
  · intro r' hr' hopen
    rcases List.mem_append.mp hr' with hold | hnew
    · rw [hclosed r' hold] at hopen
      cases hopen
    · obtain rfl := List.mem_singleton.mp hnew
      rw [hversion, List.length_append, List.length_singleton]
      omega

/-! ### Tables -/

variable [DecidableEq γ]

/-- The rows of one group. -/
def rowsOf (group : α → γ) (t : List α) (g : γ) : List α := t.filter fun r => decide (group r = g)

/-- Every group is a chain. -/
def Numbered (group : α → γ) (version : α → Int) (isOpen : α → Bool) (t : List α) : Prop :=
  ∀ g, Chain version isOpen (rowsOf group t g)

variable {group : α → γ} {t : List α} {r : α} {g : γ}

@[simp] theorem mem_rowsOf : r ∈ rowsOf group t g ↔ r ∈ t ∧ group r = g := by
  simp [rowsOf]

theorem rowsOf_map (hf : ∀ r ∈ t, group (f r) = group r) :
    rowsOf group (t.map f) g = (rowsOf group t g).map f := by
  rw [rowsOf, rowsOf, List.filter_map]
  congr 1
  refine List.filter_congr fun r hr => ?_
  simp [hf r hr]

theorem rowsOf_append : rowsOf group (t ++ [r]) g =
    rowsOf group t g ++ if group r = g then [r] else [] := by
  by_cases h : group r = g
  · simp [rowsOf, h]
  · simp [rowsOf, h]

theorem numbered_nil : Numbered group version isOpen [] := fun _ => chain_nil

theorem numbered_map (h : Numbered group version isOpen t)
    (hgroup : ∀ r ∈ t, group (f r) = group r) (hversion : ∀ r ∈ t, version (f r) = version r)
    (hopen : ∀ r ∈ t, isOpen (f r) = true → isOpen r = true) :
    Numbered group version isOpen (t.map f) := by
  intro g
  rw [rowsOf_map hgroup]
  exact (h g).map (fun r hr => hversion r (mem_rowsOf.mp hr).1)
    fun r hr => hopen r (mem_rowsOf.mp hr).1

/-- A change of the one row that a condition selects opens no row, unless it opens that
    one. -/
theorem opens_selected {κ : Type} [DecidableEq κ] {k : α → κ} {p : α → Bool}
    (h : (t.map k).Nodup) (hr : r ∈ t) (hp : ∀ r', p r' = true → k r' = k r)
    (hopen : isOpen (f r) = true → isOpen r = true) (r' : α) (hr' : r' ∈ t) :
    isOpen (if ((t.filter p).map k).contains (k r') then f r' else r') = true →
      isOpen r' = true := by
  rw [Table.contains_rows h hr']
  split
  next hsel =>
    obtain rfl := Table.eq_of_key h hr' hr (hp r' hsel)
    exact hopen
  · exact fun h => h

/-- A new version of a group without open rows. -/
theorem numbered_insert (h : Numbered group version isOpen t)
    (hversion : version r = (rowsOf group t (group r)).length + 1)
    (hclosed : ∀ r' ∈ rowsOf group t (group r), isOpen r' = false) :
    Numbered group version isOpen (t ++ [r]) := by
  intro g
  rw [rowsOf_append]
  split
  next hg =>
    subst hg
    exact (h _).extend hversion hclosed
  · rw [List.append_nil]
    exact h g

/-- A new version, and then an update that closes the older ones. -/
theorem numbered_supersede (h : Numbered group version isOpen t)
    (hgroup : ∀ r ∈ t, group (f r) = group r) (hversion : ∀ r ∈ t, version (f r) = version r)
    (hopen : ∀ r ∈ t, isOpen (f r) = true → isOpen r = true)
    (hnew : version r = (rowsOf group t (group r)).length + 1) (hself : f r = r)
    (hclosed : ∀ r' ∈ rowsOf group t (group r), isOpen (f r') = false) :
    Numbered group version isOpen ((t ++ [r]).map f) := by
  rw [List.map_append, List.map_singleton, hself]
  refine numbered_insert (numbered_map h hgroup hversion hopen) ?_ ?_
  · rw [rowsOf_map hgroup, List.length_map, hnew]
  · intro r' hr'
    rw [rowsOf_map hgroup] at hr'
    obtain ⟨r₀, hr₀, rfl⟩ := List.mem_map.mp hr'
    exact hclosed r₀ hr₀

end Versions
