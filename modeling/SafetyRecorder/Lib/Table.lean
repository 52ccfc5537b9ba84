import Mathlib.Data.List.Nodup
import Mathlib.Data.List.Perm.Basic

/-!
# Tables and checked transactions

A database table is the list of its rows.  The writes of a transaction are the
three SQL forms — append a row, `updateWhere`, `deleteWhere` — and a transaction
that can fail is a computation in `Except`, whose error leaves the database as it
was because the new state is part of the result.

* `mem_updateWhere`, `mem_deleteWhere` — the rows after a write;
* `insertRow`, `columnAt` — inserts and lookups by primary key;
* `Aged` — a table whose rows were deleted or changed in an allowed way;
* `map_updateWhere`, `nodup_map_deleteWhere`, `nodup_map_append` — keys stay unique;
* `bind_ok`, `ensure_ok`, `found_ok` — inversion of a transaction that succeeded.
-/

namespace Table

variable {α : Type*} {κ : Type*}

/-- `UPDATE … SET f WHERE p`. -/
def updateWhere (p : α → Bool) (f : α → α) (t : List α) : List α :=
  t.map fun r => if p r then f r else r

/-- `DELETE … WHERE p`. -/
def deleteWhere (p : α → Bool) (t : List α) : List α :=
  t.filter fun r => !p r

/-- `INSERT` of a row; there is never a second row with its primary key. -/
def insertRow [DecidableEq κ] (k : α → κ) (row : α) (t : List α) : List α :=
  if t.any (fun r => k r == k row) then t else t ++ [row]

/-- A column of the row with the given primary key. -/
def columnAt {β : Type*} [DecidableEq κ] (k : α → κ) (column : α → β) (t : List α) (i : κ) :
    Option β :=
  (t.find? fun r => k r == i).map column

variable {p : α → Bool} {f : α → α} {t : List α} {r : α}

/-- A row after an update is the image of a row before it. -/
theorem mem_updateWhere :
    r ∈ updateWhere p f t ↔ ∃ r₀ ∈ t, r = if p r₀ then f r₀ else r₀ := by
  rw [updateWhere, List.mem_map]
  exact ⟨fun ⟨r₀, h, he⟩ => ⟨r₀, h, he.symm⟩, fun ⟨r₀, h, he⟩ => ⟨r₀, h, he.symm⟩⟩

/-- The rows after an update: those it does not select, and the selected ones in their
    new form. -/
theorem of_mem_updateWhere (h : r ∈ updateWhere p f t) :
    r ∈ t ∧ p r = false ∨ ∃ r₀ ∈ t, p r₀ = true ∧ r = f r₀ := by
  obtain ⟨r₀, hr₀, rfl⟩ := mem_updateWhere.mp h
  by_cases hp : p r₀ = true
  · exact .inr ⟨r₀, hr₀, hp, if_pos hp⟩
  · rw [if_neg hp]
    exact .inl ⟨hr₀, by simpa using hp⟩

/-- A row that the condition does not select survives the update. -/
theorem mem_updateWhere_of_not (h : r ∈ t) (hp : p r = false) : r ∈ updateWhere p f t :=
  mem_updateWhere.mpr ⟨r, h, by simp [hp]⟩

/-- A selected row is there in its new form. -/
theorem mem_updateWhere_of_pos (h : r ∈ t) (hp : p r = true) : f r ∈ updateWhere p f t :=
  mem_updateWhere.mpr ⟨r, h, by simp [hp]⟩

/-- A property of a row that the update keeps. -/
theorem exists_updateWhere {P : α → Prop} (h : r ∈ t) (hr : P r) (hf : P (f r)) :
    ∃ r' ∈ updateWhere p f t, P r' := by
  by_cases hp : p r = true
  · exact ⟨f r, mem_updateWhere_of_pos h hp, hf⟩
  · exact ⟨r, mem_updateWhere_of_not h (by simpa using hp), hr⟩

theorem updateWhere_of_not (h : ∀ r ∈ t, p r = false) : updateWhere p f t = t := by
  rw [updateWhere, List.map_congr_left (g := id) fun r hr => by simp [h r hr], List.map_id]

theorem updateWhere_append (t' : List α) :
    updateWhere p f (t ++ t') = updateWhere p f t ++ updateWhere p f t' :=
  List.map_append

theorem mem_append_row {x : α} : r ∈ t ++ [x] ↔ r ∈ t ∨ r = x := by
  simp

@[simp] theorem mem_deleteWhere : r ∈ deleteWhere p t ↔ r ∈ t ∧ p r = false := by
  simp [deleteWhere]

/-- A column the update does not write keeps its values. -/
theorem map_updateWhere (k : α → κ) (hk : ∀ r, k (f r) = k r) :
    (updateWhere p f t).map k = t.map k := by
  simp only [updateWhere, List.map_map]
  apply List.map_congr_left
  intro r _
  simp only [Function.comp_apply]
  split
  · exact hk r
  · rfl

/-- A column of a row that is perhaps updated. -/
theorem column_ite {c : Prop} [Decidable c] {β : Type*} (column : α → β)
    (h : column (f r) = column r) : column (if c then f r else r) = column r := by
  split
  · exact h
  · rfl

/-- The keys after a change that leaves them. -/
theorem map_key {k : α → κ} (hk : ∀ r, k (f r) = k r) : (t.map f).map k = t.map k := by
  rw [List.map_map]
  exact List.map_congr_left fun r _ => hk r

/-- A unique column stays unique under a delete. -/
theorem nodup_map_deleteWhere {k : α → κ} (h : (t.map k).Nodup) :
    ((deleteWhere p t).map k).Nodup :=
  h.sublist ((List.filter_sublist).map k)

/-- An update that keeps the key keeps its uniqueness. -/
theorem nodup_map_updateWhere {k : α → κ} (hk : ∀ r, k (f r) = k r) (h : (t.map k).Nodup) :
    ((updateWhere p f t).map k).Nodup := by
  rwa [map_updateWhere k hk]

/-- A unique column stays unique when a row with a new key is appended. -/
theorem nodup_map_append {k : α → κ} (h : (t.map k).Nodup) (hr : ∀ r' ∈ t, k r' ≠ k r) :
    ((t ++ [r]).map k).Nodup := by
  rw [List.map_append, List.map_singleton, List.nodup_append]
  refine ⟨h, List.nodup_singleton _, ?_⟩
  intro a ha b hb
  obtain ⟨r', hr', rfl⟩ := List.mem_map.mp ha
  rw [List.mem_singleton] at hb
  subst hb
  exact hr r' hr'

/-- Two rows with the same unique key are the same row. -/
theorem eq_of_key {k : α → κ} (h : (t.map k).Nodup) {a b : α} (ha : a ∈ t) (hb : b ∈ t)
    (hk : k a = k b) : a = b :=
  List.inj_on_of_nodup_map h ha hb hk

/-- Looking up a row by its unique key finds it. -/
theorem find?_key [DecidableEq κ] {k : α → κ} (h : (t.map k).Nodup) (hr : r ∈ t) :
    t.find? (fun x => k x == k r) = some r := by
  cases hf : t.find? fun x => k x == k r with
  | none =>
    have := List.find?_eq_none.mp hf r hr
    simp at this
  | some x =>
    have hx : k x = k r := by simpa using List.find?_some hf
    rw [eq_of_key h (List.mem_of_find?_eq_some hf) hr hx]

/-- A row that a search with two conditions finds. -/
theorem find?_and {q : α → Bool} (h : (t.find? fun r => p r && q r) = some r) :
    r ∈ t ∧ p r = true ∧ q r = true := by
  have hsel := List.find?_some h
  exact ⟨List.mem_of_find?_eq_some h, Bool.and_eq_true_iff.mp hsel⟩

/-- Looking for a row among the keys of the rows a condition selects. -/
theorem contains_rows [DecidableEq κ] {k : α → κ} (h : (t.map k).Nodup) (hr : r ∈ t) :
    ((t.filter p).map k).contains (k r) = p r := by
  rw [Bool.eq_iff_iff, List.contains_iff_mem]
  constructor
  · intro hmem
    obtain ⟨r', hr', hkey⟩ := List.mem_map.mp hmem
    obtain ⟨hr'mem, hp⟩ := List.mem_filter.mp hr'
    obtain rfl := eq_of_key h hr'mem hr hkey
    exact hp
  · intro hp
    exact List.mem_map.mpr ⟨r, List.mem_filter.mpr ⟨hr, hp⟩, rfl⟩

/-! ### Tables that age -/

/-- The rows of `t'` are rows of `t`, changed at most as `keeps` allows; some may be gone. -/
structure Aged (k : α → κ) (keeps : α → α → Prop) (t t' : List α) : Prop where
  keys : (t'.map k).Sublist (t.map k)
  rows : ∀ r' ∈ t', ∃ r ∈ t, keeps r r'

variable {keeps : α → α → Prop}

theorem aged_refl {k : α → κ} (h : ∀ r, keeps r r) : Aged k keeps t t :=
  ⟨.refl _, fun r hr => ⟨r, hr, h r⟩⟩

theorem aged_deleteWhere {k : α → κ} (h : ∀ r, keeps r r) :
    Aged k keeps t (deleteWhere p t) :=
  ⟨List.filter_sublist.map k, fun r hr => ⟨r, (mem_deleteWhere.mp hr).1, h r⟩⟩

theorem aged_updateWhere {k : α → κ} (h : ∀ r, keeps r r)
    (hk : ∀ r, k (f r) = k r) (hf : ∀ r, keeps r (f r)) : Aged k keeps t (updateWhere p f t) := by
  refine ⟨by rw [map_updateWhere k hk], fun r' hr' => ?_⟩
  obtain ⟨r, hr, rfl⟩ := mem_updateWhere.mp hr'
  refine ⟨r, hr, ?_⟩
  split
  · exact hf r
  · exact h r

/-! ### Inserts and lookups by primary key -/

section Columns

variable {β : Type*} [DecidableEq κ] {k : α → κ} {column : α → β} {i : κ}

/-- A primary key stays one. -/
theorem nodup_insertRow (h : (t.map k).Nodup) : ((insertRow k r t).map k).Nodup := by
  unfold insertRow
  split
  · exact h
  next hnew =>
    refine nodup_map_append h fun r' hr' heq => hnew ?_
    exact List.any_eq_true.mpr ⟨r', hr', by simp [heq]⟩

theorem mem_insertRow (h : ∀ r' ∈ t, k r' ≠ k r) : insertRow k r t = t ++ [r] := by
  unfold insertRow
  rw [if_neg]
  intro hany
  obtain ⟨r', hr', heq⟩ := List.any_eq_true.mp hany
  exact h r' hr' (by simpa using heq)

/-- The other rows are as before. -/
theorem columnAt_insertRow (hi : i ≠ k r) :
    columnAt k column (insertRow k r t) i = columnAt k column t i := by
  unfold insertRow
  split
  · rfl
  · have hne : (k r == i) = false := by simpa using Ne.symm hi
    simp [columnAt, List.find?_append, hne]

/-- The row with a key, after an update that does not write the key. -/
theorem find?_updateWhere (hk : ∀ r, k (f r) = k r) :
    ((updateWhere p f t).find? fun r => k r == i) =
      (t.find? fun r => k r == i).map fun r => if p r then f r else r := by
  have hkey : ∀ r, k (if p r then f r else r) = k r := by
    intro r
    split
    · exact hk r
    · rfl
  simp only [updateWhere, List.find?_map]
  congr 1
  congr 1
  funext r
  simp [hkey]

/-- A row that the update does not find is as before. -/
theorem columnAt_updateWhere_of_not (hk : ∀ r, k (f r) = k r)
    (hp : ∀ r, k r = i → p r = false) :
    columnAt k column (updateWhere p f t) i = columnAt k column t i := by
  rw [columnAt, find?_updateWhere hk, Option.map_map, columnAt]
  cases hfind : t.find? fun r => k r == i with
  | none => rfl
  | some r =>
    have hr : k r = i := by simpa using List.find?_some hfind
    simp [hp r hr]

/-- An update that writes the value a column has. -/
theorem columnAt_updateWhere_same {v : β} (hk : ∀ r, k (f r) = k r)
    (hv : ∀ r, column r = v → column (f r) = v) (h : columnAt k column t i = some v) :
    columnAt k column (updateWhere p f t) i = some v := by
  obtain ⟨r, hr, hcol⟩ := Option.map_eq_some_iff.mp h
  rw [columnAt, find?_updateWhere hk, hr]
  simp only [Option.map_some, Option.some.injEq]
  split
  · exact hv r hcol
  · exact hcol

/-- The column of a row that is there. -/
theorem columnAt_of_mem (h : (t.map k).Nodup) (hr : r ∈ t) :
    columnAt k column t (k r) = some (column r) := by
  rw [columnAt, find?_key h hr, Option.map_some]

/-- The row whose column was found. -/
theorem exists_of_columnAt {v : β} (h : columnAt k column t i = some v) :
    ∃ r ∈ t, k r = i ∧ column r = v := by
  obtain ⟨r, hr, hcol⟩ := Option.map_eq_some_iff.mp h
  exact ⟨r, List.mem_of_find?_eq_some hr, by simpa using List.find?_some hr, hcol⟩

end Columns

end Table

namespace Checked

variable {ε : Type*} {α β : Type}

/-- Abort with `e` unless the condition holds. -/
def ensure (c : Prop) [Decidable c] (e : ε) : Except ε Unit :=
  if c then .ok () else .error e

/-- Abort with `e` when a lookup finds nothing. -/
def found (o : Option α) (e : ε) : Except ε α :=
  match o with
  | some a => .ok a
  | none => .error e

/-- A composed transaction succeeded: both parts did. -/
theorem bind_ok {x : Except ε α} {f : α → Except ε β} {b : β} :
    (x >>= f) = .ok b ↔ ∃ a, x = .ok a ∧ f a = .ok b := by
  cases x with
  | error | ok => simp [Bind.bind, Except.bind]

/-- A passed check: the condition holds. -/
theorem ensure_ok {c : Prop} [Decidable c] {e : ε} {u : Unit} :
    ensure c e = .ok u ↔ c := by
  unfold ensure
  split <;> simp [*]

theorem found_ok {o : Option α} {e : ε} {a : α} : found o e = .ok a ↔ o = some a := by
  cases o <;> simp [found]

/-- The result of a finished transaction. -/
theorem pure_ok {a b : α} : (pure a : Except ε α) = .ok b ↔ a = b := by
  simp [Pure.pure, Except.pure]

end Checked
