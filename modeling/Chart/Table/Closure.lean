import Chart.Table.Basic

/-!
# Table/Closure — closing a cell under unit rules

A unit rule `a → b` asks that a cell which holds `b` also holds `a`.  Closing works in **rounds**: a
round adds the left-hand side of every rule that asks for it, all at once, and the closure is reached
when a round adds nothing.  After the first round only **the symbols that the last one added** can ask
for more, so no other symbol is looked at again.

* `Cell.missing` — what the next round adds.
* `Cell.close` — the closed cell; it ends because each round uses up at least one left-hand side that
  was not in the cell.  `Cell.closeUnder?` closes under rows.
* `mem_close_of_mem`, `mem_close_of_rule` — the closed cell holds the cell and what the rules ask for.
-/

namespace Chart.Cell

/-- The left-hand sides that the rules ask for on account of the latest symbols, and the cell lacks. -/
def missing (rules : List (Symbol × Symbol)) (latest : List Symbol) (cell : Cell) : List Symbol :=
  (rules.filter fun r => decide (r.2 ∈ latest ∧ r.1 ∉ cell)).map Prod.fst

/-- The rules whose left-hand side the cell lacks: each round that adds something lowers their
number. -/
def pending (rules : List (Symbol × Symbol)) (cell : Cell) : Nat :=
  rules.countP fun r => decide (r.1 ∉ cell)

theorem mem_missing {rules : List (Symbol × Symbol)} {latest : List Symbol} {cell : Cell}
    {a : Symbol} : a ∈ missing rules latest cell ↔ a ∉ cell ∧ ∃ b ∈ latest, (a, b) ∈ rules := by
  simp only [missing, List.mem_map, List.mem_filter, decide_eq_true_eq, Prod.exists,
    exists_and_right, exists_eq_right]
  constructor
  · rintro ⟨b, hr, hb, ha⟩
    exact ⟨ha, b, hb, hr⟩
  · rintro ⟨ha, b, hb, hr⟩
    exact ⟨b, hr, hb, ha⟩

/-- Fewer members pass the stronger test, if one passes only the weaker. -/
theorem countP_lt_countP {α : Type} {p q : α → Bool} (hpq : ∀ x, p x = true → q x = true) :
    ∀ {l : List α}, (∃ x ∈ l, q x = true ∧ p x = false) → l.countP p < l.countP q
  | y :: l, ⟨x, hx, hq, hp⟩ => by
    have hle : l.countP p ≤ l.countP q := List.countP_mono_left fun z _ => hpq z
    rw [List.countP_cons, List.countP_cons]
    rcases List.mem_cons.1 hx with rfl | hx
    · simp only [hp, hq, if_true, Bool.false_eq_true, if_false]
      omega
    · have hlt := countP_lt_countP hpq ⟨x, hx, hq, hp⟩
      have hy : (if p y = true then 1 else 0) ≤ if q y = true then 1 else 0 := by
        by_cases h : p y = true
        · simp [h, hpq y h]
        · simp [h]
      omega

/-- **A round that adds something leaves fewer rules pending.** -/
theorem pending_union_missing_lt {rules : List (Symbol × Symbol)} {latest : List Symbol}
    {cell : Cell} (h : missing rules latest cell ≠ []) :
    pending rules (union cell (missing rules latest cell)) < pending rules cell := by
  obtain ⟨a, ha⟩ := List.exists_mem_of_ne_nil _ h
  obtain ⟨hac, b, hb, hr⟩ := mem_missing.1 ha
  refine countP_lt_countP (fun r hr => ?_) ⟨(a, b), hr, by simp [hac], by simp [mem_union, ha]⟩
  simp only [decide_eq_true_eq, mem_union, not_or] at hr ⊢
  exact hr.1

/-- The closure of a cell in which only the latest symbols can ask for more. -/
def closeFrom (rules : List (Symbol × Symbol)) (latest : List Symbol) (cell : Cell) : Cell :=
  match _h : missing rules latest cell with
  | [] => cell
  | a :: new => closeFrom rules (a :: new) (union cell (a :: new))
termination_by pending rules cell
decreasing_by
  rw [← _h]
  exact pending_union_missing_lt (by simp [_h])

/-- **The closure of a cell under unit rules.** -/
def close (rules : List (Symbol × Symbol)) (cell : Cell) : Cell := closeFrom rules cell cell

/-- The closure of a cell under rows, of which only the first symbol on the right counts; a row without one
leaves no result. -/
def closeUnder? (rows : List Row) (cell : Cell) : Option Cell :=
  (rows.mapM Row.sides?).map fun rules => close rules cell

theorem mem_closeFrom_of_mem {rules : List (Symbol × Symbol)} {latest : List Symbol} {cell : Cell}
    {a : Symbol} (h : a ∈ cell) : a ∈ closeFrom rules latest cell := by
  fun_induction closeFrom rules latest cell with
  | case1 => exact h
  | case2 latest cell b new heq ih => exact ih (mem_union.2 (Or.inl h))

/-- **After a round only what it added asks for more.** -/
theorem mem_missing_or_of_mem_union {rules : List (Symbol × Symbol)} {latest : List Symbol}
    {cell : Cell} (hcell : ∀ r ∈ rules, r.2 ∈ cell → r.2 ∈ latest ∨ r.1 ∈ cell) :
    ∀ r ∈ rules, r.2 ∈ union cell (missing rules latest cell) →
      r.2 ∈ missing rules latest cell ∨ r.1 ∈ union cell (missing rules latest cell) := by
  intro r hr hmem
  rw [mem_union] at hmem ⊢
  rcases hmem with hold | hnew
  · by_cases hleft : r.1 ∈ cell
    · exact Or.inr (Or.inl hleft)
    · have hlatest : r.2 ∈ latest := (hcell r hr hold).resolve_right hleft
      exact Or.inr (Or.inr (mem_missing.2 ⟨hleft, r.2, hlatest, hr⟩))
  · exact Or.inl hnew

/-- The rules ask for nothing more if those that the latest symbols leave out ask for nothing. -/
theorem mem_closeFrom_of_rule {rules : List (Symbol × Symbol)} {latest : List Symbol} {cell : Cell}
    (hcell : ∀ r ∈ rules, r.2 ∈ cell → r.2 ∈ latest ∨ r.1 ∈ cell) {r : Symbol × Symbol}
    (hr : r ∈ rules) (h : r.2 ∈ closeFrom rules latest cell) :
    r.1 ∈ closeFrom rules latest cell := by
  fun_induction closeFrom rules latest cell with
  | case1 latest cell hnone =>
    rcases hcell r hr h with hlatest | hmem
    · by_cases hmem : r.1 ∈ cell
      · exact hmem
      · have hmissing := mem_missing.2 ⟨hmem, r.2, hlatest, hr⟩
        rw [hnone] at hmissing
        exact absurd hmissing List.not_mem_nil
    · exact hmem
  | case2 latest cell b new heq ih =>
    have hround := mem_missing_or_of_mem_union hcell
    rw [heq] at hround
    exact ih hround h

/-- **The closure holds the cell.** -/
theorem mem_close_of_mem {rules : List (Symbol × Symbol)} {cell : Cell} {a : Symbol}
    (h : a ∈ cell) : a ∈ close rules cell :=
  mem_closeFrom_of_mem h

/-- **The closure holds what the rules ask for.** -/
theorem mem_close_of_rule {rules : List (Symbol × Symbol)} {cell : Cell} {r : Symbol × Symbol}
    (hr : r ∈ rules) (h : r.2 ∈ close rules cell) : r.1 ∈ close rules cell :=
  mem_closeFrom_of_rule (fun _ _ hmem => Or.inl hmem) hr h

end Chart.Cell
