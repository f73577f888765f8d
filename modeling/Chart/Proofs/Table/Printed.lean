import Mathlib.Data.List.Basic
import Chart.Proofs.Table.Filled
import Chart.Proofs.Text.Lines

/-!
# Proofs/Table/Printed — the text of a table

The text of a table has a line for each cell on or above the diagonal that is not empty (`Table.listed`,
`toText_eq`), so **it is empty exactly if there is no such cell**: `toText_eq_nil_iff`.
-/

namespace Chart.Table

variable {t : Table} {i j n : Nat}

theorem mem_positions : (i, j) ∈ positions n ↔ i ≤ j ∧ j < n := by
  simp only [positions, List.mem_flatMap, List.mem_range, List.mem_map, List.mem_range'_1,
    Prod.mk.injEq]
  constructor
  · rintro ⟨i', hi, j', hj, rfl, rfl⟩
    omega
  · rintro ⟨hij, hj⟩
    exact ⟨i, by omega, j, by omega, rfl, rfl⟩

theorem cellLine_ne_nil (i j : Nat) (cell : Cell) : cellLine i j cell ≠ [] := by
  simp [cellLine]

/-- The line of a position. -/
def lineAt (t : Table) (p : Nat × Nat) : Text := cellLine p.1 p.2 (t.get p.1 p.2)

/-- **The positions that have a line**: those of the cells on and above the diagonal that are not empty. -/
def listed (t : Table) : List (Nat × Nat) :=
  (positions t.size).filter fun p => decide (t.get p.1 p.2 ≠ [])

theorem mem_listed : (i, j) ∈ t.listed ↔ (i ≤ j ∧ j < t.size) ∧ t.get i j ≠ [] := by
  rw [listed, List.mem_filter, mem_positions, decide_eq_true_iff]

/-- **The text of a table is made up of its lines.** -/
theorem toText_eq (t : Table) : t.toText = ['\n'].intercalate (t.listed.map t.lineAt) := by
  rw [toText, listed, ← List.filterMap_eq_map, List.filterMap_filter]
  refine congrArg _ (List.filterMap_congr fun p _ => ?_)
  cases hcell : t.get p.1 p.2 <;> simp [lineAt, hcell]

/-- A table is printed as nothing exactly if no position has a line. -/
theorem toText_eq_nil_iff_listed : t.toText = [] ↔ t.listed = [] := by
  rw [toText_eq, Text.intercalate_eq_nil_iff, List.map_eq_nil_iff]
  intro line hline
  obtain ⟨p, -, rfl⟩ := List.mem_map.1 hline
  exact cellLine_ne_nil _ _ _

/-- **A table is printed as nothing exactly if its cells on and above the diagonal are empty.** -/
theorem toText_eq_nil_iff : t.toText = [] ↔ ∀ i j, i ≤ j → j < t.size → t.get i j = [] := by
  rw [toText_eq_nil_iff_listed, List.eq_nil_iff_forall_not_mem, Prod.forall]
  refine forall₂_congr fun i j => ?_
  rw [mem_listed, not_and_not_right, and_imp]

end Chart.Table

namespace Chart.Grammar

theorem size_filled (g : Grammar) (word : Text) : (g.filled word).size = word.length :=
  (isSquare_filledTo g word word.length).size_rows

/-- **The filled table of a word is printed as something exactly if some cell of it is not empty.** -/
theorem toText_filled_ne_nil_iff (g : Grammar) (word : Text) :
    (g.filled word).toText ≠ [] ↔ ∃ i j, (g.filled word).get i j ≠ [] := by
  rw [Ne, Table.toText_eq_nil_iff, size_filled]
  constructor
  · intro h
    by_contra! hempty
    exact h fun i j _ _ => hempty i j
  · rintro ⟨i, j, hcell⟩ h
    have hspan : i ≤ j ∧ j < word.length := by
      by_contra hspan
      exact hcell (get_filled_eq_nil hspan)
    exact hcell (h i j hspan.1 hspan.2)

end Chart.Grammar
