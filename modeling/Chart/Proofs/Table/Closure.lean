import Mathlib.Data.List.Nodup
import Mathlib.Order.Bounds.Defs
import Chart.Table.Closure

/-!
# Proofs/Table/Closure — the closure of a cell is the least closed set

What holds of a cell and passes along the rules holds of the closure (`forall_mem_closeFrom`), so **the
closure lies in every closed set that holds the cell**, and everything else about it follows: neither the
order of the rules nor the rounds can matter.

* `isLeast_close` — the least closed set; `close_subset`, `close_eq_self`, `mem_of_mem_close` — larger cells
  and rules, closed cells, and why a symbol was added.
* `ClosesIn` — closing in rounds over the whole cell, each of which adds a whole batch; `closesIn_close` —
  it ends, after as many rounds as there are rules whose left-hand side the cell lacks, if not before.
* `closure_is_least` — the same for rows.
-/

namespace Chart

namespace Cell

variable {rules rules' : List (Symbol × Symbol)} {latest : List Symbol} {cell cell' closed : Cell}

/-! ## The least closed set -/

/-- **What holds of a cell and passes from right to left along the rules holds of the closure.** -/
theorem forall_mem_closeFrom {P : Symbol → Prop} (hrules : ∀ r ∈ rules, P r.2 → P r.1)
    (hlatest : ∀ a ∈ latest, P a) (hcell : ∀ a ∈ cell, P a) :
    ∀ a ∈ closeFrom rules latest cell, P a := by
  fun_induction closeFrom rules latest cell with
  | case1 => exact hcell
  | case2 latest cell b new heq ih =>
    have hnew : ∀ a ∈ b :: new, P a := by
      intro a ha
      obtain ⟨-, c, hc, hr⟩ := mem_missing.1 (heq ▸ ha)
      exact hrules (a, c) hr (hlatest c hc)
    refine ih hnew fun a ha => ?_
    rcases mem_union.1 ha with hold | hadded
    · exact hcell a hold
    · exact hnew a hadded

/-- **The closure is the least set that holds the cell and what the rules ask for.** -/
theorem isLeast_close (rules : List (Symbol × Symbol)) (cell : Cell) :
    IsLeast {s : Set Symbol | (∀ a ∈ cell, a ∈ s) ∧ ∀ r ∈ rules, r.2 ∈ s → r.1 ∈ s}
      {a | a ∈ close rules cell} := by
  refine ⟨⟨fun a => mem_close_of_mem, fun r => mem_close_of_rule⟩, ?_⟩
  rintro s ⟨hcell, hrules⟩ a ha
  exact forall_mem_closeFrom hrules hcell hcell a ha

/-- **A symbol is only added on account of a rule** whose right-hand side is in the closure. -/
theorem mem_of_mem_close {a : Symbol} (h : a ∈ close rules cell)
    (hrules : ∀ b, (a, b) ∈ rules → b ∉ close rules cell) : a ∈ cell := by
  have hcell : ∀ c ∈ cell, c ∈ close rules cell ∧ (c = a → a ∈ cell) :=
    fun c hc => ⟨mem_close_of_mem hc, fun heq => heq ▸ hc⟩
  refine (forall_mem_closeFrom (fun r hr hright => ?_) hcell hcell a h).2 rfl
  refine ⟨mem_close_of_rule hr hright.1, ?_⟩
  rintro rfl
  exact absurd hright.1 (hrules r.2 hr)

/-- A cell that the rules ask nothing more of is its closure. -/
theorem close_eq_self (h : ∀ r ∈ rules, r.2 ∈ cell → r.1 ∈ cell) : close rules cell = cell := by
  have hnone : missing rules cell cell = [] := by
    refine List.eq_nil_iff_forall_not_mem.2 fun a ha => ?_
    obtain ⟨hnot, b, hb, hr⟩ := mem_missing.1 ha
    exact hnot (h (a, b) hr hb)
  rw [close, closeFrom]
  split
  · rfl
  · rename_i hsome
    rw [hnone] at hsome
    cases hsome

/-- More rules close a larger cell to a larger one, whatever their order and the rounds it takes. -/
theorem close_subset (hrules : rules ⊆ rules') (hcell : cell ⊆ cell') :
    close rules cell ⊆ close rules' cell' := by
  have hmem : ∀ a ∈ cell, a ∈ close rules' cell' := fun a ha => mem_close_of_mem (hcell ha)
  have hclosed : ∀ r ∈ rules, r.2 ∈ close rules' cell' → r.1 ∈ close rules' cell' :=
    fun r hr h => mem_close_of_rule (hrules hr) h
  intro a ha
  exact forall_mem_closeFrom hclosed hmem hmem a ha

/-! ## Repetitions -/

theorem nodup_union (h : cell.Nodup) (symbols : List Symbol) : (union cell symbols).Nodup := by
  induction symbols generalizing cell with
  | nil => exact h
  | cons a symbols ih => exact ih h.insert

/-- **Closing a cell repeats no symbol.** -/
theorem nodup_closeFrom (h : cell.Nodup) : (closeFrom rules latest cell).Nodup := by
  fun_induction closeFrom rules latest cell with
  | case1 => exact h
  | case2 latest cell b new heq ih => exact ih (nodup_union h _)

/-! ## Rounds -/

/-- **Closing in rounds**: as long as a round over the whole cell adds something, there is another one. -/
inductive ClosesIn (rules : List (Symbol × Symbol)) : Cell → Nat → Cell → Prop where
  | stop {cell : Cell} (h : missing rules cell cell = []) : ClosesIn rules cell 0 cell
  | round {cell closed : Cell} {rounds : Nat} (h : missing rules cell cell ≠ [])
      (hrest : ClosesIn rules (union cell (missing rules cell cell)) rounds closed) :
      ClosesIn rules cell (rounds + 1) closed

/-- Where only the latest symbols ask for more, a round over the whole cell adds what one over them adds. -/
theorem missing_eq_missing (hlatest : latest ⊆ cell)
    (hcell : ∀ r ∈ rules, r.2 ∈ cell → r.2 ∈ latest ∨ r.1 ∈ cell) :
    missing rules cell cell = missing rules latest cell := by
  rw [missing, missing]
  refine congrArg (List.map Prod.fst) (List.filter_congr fun r hr => decide_eq_decide.2 ?_)
  exact ⟨fun h => ⟨(hcell r hr h.1).resolve_right h.2, h.2⟩, fun h => ⟨hlatest h.1, h.2⟩⟩

theorem exists_closesIn (hlatest : latest ⊆ cell)
    (hcell : ∀ r ∈ rules, r.2 ∈ cell → r.2 ∈ latest ∨ r.1 ∈ cell) :
    ∃ rounds ≤ pending rules cell, ClosesIn rules cell rounds (closeFrom rules latest cell) := by
  fun_induction closeFrom rules latest cell with
  | case1 latest cell hnone =>
    exact ⟨0, Nat.zero_le _, .stop ((missing_eq_missing hlatest hcell).trans hnone)⟩
  | case2 latest cell b new heq ih =>
    have hround := mem_missing_or_of_mem_union hcell
    have hpending := pending_union_missing_lt (heq ▸ List.cons_ne_nil b new)
    rw [heq] at hround hpending
    have hadded : missing rules cell cell = b :: new := (missing_eq_missing hlatest hcell).trans heq
    obtain ⟨rounds, hle, hcloses⟩ := ih (fun a ha => mem_union.2 (Or.inr ha)) hround
    refine ⟨rounds + 1, by omega, .round (hadded ▸ List.cons_ne_nil b new) ?_⟩
    rwa [hadded]

/-- **Closing in rounds ends with the closure**, after as many rounds as there are rules whose left-hand side
the cell lacks, if not before. -/
theorem closesIn_close (rules : List (Symbol × Symbol)) (cell : Cell) :
    ∃ rounds ≤ pending rules cell, ClosesIn rules cell rounds (close rules cell) :=
  exists_closesIn (List.Subset.refl cell) fun _ _ h => Or.inl h

/-! ## Rows -/

variable {rows rows' : List Row}

theorem mapM_sides? (h : ∀ row ∈ rows, 2 ≤ row.length) :
    rows.mapM Row.sides? = some (rows.filterMap Row.sides?) := by
  induction rows with
  | nil => rfl
  | cons row rows ih =>
    obtain ⟨hrow, hrest⟩ := List.forall_mem_cons.1 h
    match row, hrow with
    | a :: x :: rest, _ =>
      rw [List.mapM_cons, ih hrest]
      rfl

theorem mem_filterMap_sides? {a x : Symbol} :
    (a, x) ∈ rows.filterMap Row.sides? ↔ ∃ rest, a :: x :: rest ∈ rows := by
  rw [List.mem_filterMap]
  constructor
  · rintro ⟨row, hrow, hsides⟩
    match row, hsides with
    | _ :: _ :: rest, hsides =>
      cases hsides
      exact ⟨rest, hrow⟩
  · rintro ⟨rest, hrow⟩
    exact ⟨_, hrow, rfl⟩

theorem filterMap_sides?_subset (h : rows ⊆ rows') :
    rows.filterMap Row.sides? ⊆ rows'.filterMap Row.sides? := by
  rintro ⟨a, x⟩ hr
  obtain ⟨rest, hrow⟩ := mem_filterMap_sides?.1 hr
  exact mem_filterMap_sides?.2 ⟨rest, h hrow⟩

theorem closeUnder?_eq_some (h : ∀ row ∈ rows, 2 ≤ row.length) (cell : Cell) :
    closeUnder? rows cell = some (close (rows.filterMap Row.sides?) cell) := by
  rw [closeUnder?, mapM_sides? h, Option.map_some]

/-- **The closure of a cell is the least closed set, and closing ends.**  Under any rows of at least two
symbols a cell has a closure.  It is the least set that holds the cell and with the second symbol of a row
also the first; closing in rounds comes to it.  So the order of the rows and how often they stand there do
not matter, more rows and larger cells have larger closures, and what is closed is its own closure. -/
theorem closure_is_least (hrows : ∀ row ∈ rows, 2 ≤ row.length) (cell : Cell) :
    ∃ closed, closeUnder? rows cell = some closed ∧
      IsLeast {s : Set Symbol | (∀ a ∈ cell, a ∈ s) ∧
        ∀ a x rest, a :: x :: rest ∈ rows → x ∈ s → a ∈ s} {a | a ∈ closed} ∧
      (∃ rounds ≤ rows.length, ClosesIn (rows.filterMap Row.sides?) cell rounds closed) ∧
      (cell.Nodup → closed.Nodup) ∧
      (∀ rows' cell', rows ⊆ rows' → cell ⊆ cell' → (∀ row ∈ rows', 2 ≤ row.length) →
        ∃ closed', closeUnder? rows' cell' = some closed' ∧ closed ⊆ closed') ∧
      (∀ rows' cell', (∀ row, row ∈ rows' ↔ row ∈ rows) → (∀ a, a ∈ cell' ↔ a ∈ cell) →
        ∃ closed', closeUnder? rows' cell' = some closed' ∧ ∀ a, a ∈ closed' ↔ a ∈ closed) ∧
      closeUnder? rows closed = some closed := by
  refine ⟨_, closeUnder?_eq_some hrows cell, ?_, ?_, nodup_closeFrom, ?_, ?_, ?_⟩
  · have hasks : ∀ s : Set Symbol, (∀ r ∈ rows.filterMap Row.sides?, r.2 ∈ s → r.1 ∈ s) ↔
        ∀ a x rest, a :: x :: rest ∈ rows → x ∈ s → a ∈ s := by
      intro s
      constructor
      · exact fun h a x rest hrow => h (a, x) (mem_filterMap_sides?.2 ⟨rest, hrow⟩)
      · rintro h ⟨a, x⟩ hr
        obtain ⟨rest, hrow⟩ := mem_filterMap_sides?.1 hr
        exact h a x rest hrow
    have hleast := isLeast_close (rows.filterMap Row.sides?) cell
    simpa only [hasks] using hleast
  · obtain ⟨rounds, hle, hcloses⟩ := closesIn_close (rows.filterMap Row.sides?) cell
    refine ⟨rounds, ?_, hcloses⟩
    calc rounds ≤ pending (rows.filterMap Row.sides?) cell := hle
      _ ≤ (rows.filterMap Row.sides?).length := List.countP_le_length
      _ ≤ rows.length := List.length_filterMap_le _ _
  · intro rows' cell' hsub hcell hrows'
    exact ⟨_, closeUnder?_eq_some hrows' cell', close_subset (filterMap_sides?_subset hsub) hcell⟩
  · intro rows' cell' hsame hcell
    refine ⟨_, closeUnder?_eq_some (fun row hrow => hrows row ((hsame row).1 hrow)) cell', fun a => ?_⟩
    have hrules := filterMap_sides?_subset fun row => (hsame row).1
    have hrules' := filterMap_sides?_subset fun row => (hsame row).2
    exact ⟨fun h => close_subset hrules (fun a => (hcell a).1) h,
      fun h => close_subset hrules' (fun a => (hcell a).2) h⟩
  · rw [closeUnder?_eq_some hrows, close_eq_self fun r hr => mem_close_of_rule hr]

/-! ### A chain against the order of its rows -/

/-- A chain whose last row comes first, a row for itself, a cycle, and a row for what is never added. -/
def chainRows : List Row :=
  [[['A'], ['B']], [['B'], ['C'], ['z']], [['C'], ['C']], [['C'], ['A']], [['D'], ['x']]]

/-- Closing goes along the chain and adds nothing else. -/
theorem closure_is_least_of_chain : (∀ row ∈ chainRows, 2 ≤ row.length) ∧
    ∃ closed, closeUnder? chainRows [['C']] = some closed ∧ closed.Nodup ∧
      (∀ a, a ∈ closed ↔ a ∈ [['A'], ['B'], ['C']]) ∧ closeUnder? chainRows closed = some closed := by
  have hrows : ∀ row ∈ chainRows, 2 ≤ row.length := by decide
  obtain ⟨closed, hclosed, ⟨⟨hcell, hasks⟩, hleast⟩, -, hnodup, -, -, hagain⟩ :=
    closure_is_least hrows [['C']]
  have hlast : ['C'] ∈ closed := hcell ['C'] List.mem_cons_self
  have hmiddle : ['B'] ∈ closed := hasks ['B'] ['C'] [['z']] (by decide) hlast
  have hfirst : ['A'] ∈ closed := hasks ['A'] ['B'] [] (by decide) hmiddle
  have hothers : ∀ r ∈ chainRows.filterMap Row.sides?,
      r.2 ∈ [['A'], ['B'], ['C']] → r.1 ∈ [['A'], ['B'], ['C']] := by decide
  have hnone : {a | a ∈ closed} ⊆ {a | a ∈ [['A'], ['B'], ['C']]} := by
    refine hleast ⟨fun a ha => ?_, fun a x rest hrow => hothers (a, x) ?_⟩
    · exact List.mem_cons_of_mem _ (List.mem_cons_of_mem _ ha)
    · exact mem_filterMap_sides?.2 ⟨rest, hrow⟩
  refine ⟨hrows, closed, hclosed, hnodup (List.nodup_singleton _), fun a => ⟨fun h => hnone h, ?_⟩, hagain⟩
  intro h
  simp only [List.mem_cons, List.not_mem_nil, or_false] at h
  obtain rfl | rfl | rfl := h
  · exact hfirst
  · exact hmiddle
  · exact hlast

end Cell

end Chart
