import Mathlib.Data.List.Basic

namespace Journal

/-!
# Journals

A journal is the list of the transitions that led to a state, newest first.

* `Leads step s es t` — the entries `es` lead from `s` to `t`;
* `leads_split` — a journal cut at one of its entries;
* `Leads.since` — what holds now held at the beginning, or an entry brought it about;
* `Each P es` — every entry has `P`, which may speak of the entries before it.
-/

variable {σ ε α : Type*}

/-- The entries lead from `s` to `t`. -/
def Leads (step : ε → σ → σ → Prop) : σ → List ε → σ → Prop
  | s, [], t => s = t
  | s, e :: es, t => ∃ m, Leads step s es m ∧ step e m t

variable {step : ε → σ → σ → Prop} {s t : σ} {es later earlier : List ε} {e : ε}

/-- A journal in two parts passes through the state between them. -/
theorem leads_append :
    Leads step s (later ++ earlier) t ↔ ∃ m, Leads step s earlier m ∧ Leads step m later t := by
  induction later generalizing t with
  | nil => exact ⟨fun h => ⟨t, h, rfl⟩, fun ⟨m, h, hm⟩ => hm ▸ h⟩
  | cons e later ih =>
    constructor
    · rintro ⟨n, hn, hstep⟩
      obtain ⟨m, hm, hlater⟩ := ih.mp hn
      exact ⟨m, hm, n, hlater, hstep⟩
    · rintro ⟨m, hm, n, hlater, hstep⟩
      exact ⟨n, ih.mpr ⟨m, hm, hlater⟩, hstep⟩

/-- A journal cut at one of its entries: the states before and after it. -/
theorem leads_split (h : Leads step s (later ++ e :: earlier) t) :
    ∃ m m', Leads step s earlier m ∧ step e m m' ∧ Leads step m' later t := by
  obtain ⟨m', ⟨m, hearlier, hstep⟩, hlater⟩ := leads_append.mp h
  exact ⟨m, m', hearlier, hstep, hlater⟩

/-- **Origin rule.** When an entry brings `P` about only for what it is `N` for, then
    what has `P` now had it at the beginning or owes it to an entry. -/
theorem Leads.since {P : σ → α → Prop} {N : ε → α → Prop}
    (hstep : ∀ e m m' x, step e m m' → P m' x → P m x ∨ N e x) {x : α}
    (h : Leads step s es t) (ht : P t x) : P s x ∨ ∃ e ∈ es, N e x := by
  induction es generalizing t with
  | nil => exact .inl (h ▸ ht)
  | cons e es ih =>
    obtain ⟨m, hm, he⟩ := h
    rcases hstep e m t x he ht with hP | hN
    · rcases ih hm hP with hs | ⟨e', he', hN⟩
      · exact .inl hs
      · exact .inr ⟨e', List.mem_cons_of_mem _ he', hN⟩
    · exact .inr ⟨e, List.mem_cons_self, hN⟩

/-- Every entry has `P`, with the entries before it. -/
def Each (P : ε → List ε → Prop) : List ε → Prop
  | [] => True
  | e :: es => P e es ∧ Each P es

variable {P : ε → List ε → Prop}

theorem Each.append_right (h : Each P (later ++ earlier)) : Each P earlier := by
  induction later with
  | nil => exact h
  | cons e later ih => exact ih h.2

/-- The entry at which a journal is cut. -/
theorem Each.at (h : Each P (later ++ e :: earlier)) : P e earlier :=
  h.append_right.1

end Journal
