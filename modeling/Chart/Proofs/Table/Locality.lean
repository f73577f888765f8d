import Chart.Proofs.Table.Inclusion
import Chart.Proofs.Table.Exact

/-!
# Proofs/Table/Locality — a cell depends on its span alone

What stands before and behind a span in a word never enters its cell, and neither does the place of the
span: `mem_filled_iff_of_slice_eq`.  So the cell is that of the span taken as a word of its own, and the
start variable is an entry exactly if that word is accepted: `cells_depend_on_spans`.
-/

namespace Chart.Grammar

variable {g : Grammar} {word word' : Text} {i i' j j' : Nat} {a : Symbol}

/-- **Two spans with the same text have the same cell**, in one word or in two. -/
theorem mem_filled_iff_of_slice_eq (hij : i ≤ j) (hj : j < word.length) (hij' : i' ≤ j')
    (hj' : j' < word'.length) (hslice : word.slice i j = word'.slice i' j') :
    a ∈ (g.filled word).get i j ↔ a ∈ (g.filled word').get i' j' := by
  have hlength := congrArg List.length hslice
  rw [Text.length_slice hj hij, Text.length_slice hj' hij'] at hlength
  obtain ⟨len, rfl⟩ := Nat.exists_eq_add_of_le hij
  obtain rfl : j' = i' + len := by omega
  have hrules : g.rules.Sublist g.rules := List.Sublist.refl _
  constructor
  · intro h
    exact get_filled_subset hrules hj hj' hslice h
  · intro h
    exact get_filled_subset hrules hj' hj hslice.symm h

/-- The cell of a span is the last cell in the first row of the table of its text. -/
theorem mem_filled_iff_mem_filled_slice (hij : i ≤ j) (hj : j < word.length) :
    a ∈ (g.filled word).get i j ↔ a ∈ (g.filled (word.slice i j)).get 0 (j - i) := by
  refine mem_filled_iff_of_slice_eq hij hj (Nat.zero_le _) ?_ ?_
  · rw [Text.length_slice hj hij]
    omega
  · rw [Text.slice_slice (by omega)]
    exact congrArg (word.slice i) (by omega)

theorem mem_filled_iff_verdict_slice (hij : i ≤ j) (hj : j < word.length) :
    g.start ∈ (g.filled word).get i j ↔ g.verdict (word.slice i j) = true := by
  have hlength := Text.length_slice hj hij
  have hne : word.slice i j ≠ [] := List.ne_nil_of_length_pos (by omega)
  have hlast : (word.slice i j).length - 1 = j - i := by omega
  rw [verdict_iff_mem hne, hlast]
  exact mem_filled_iff_mem_filled_slice hij hj

/-- **Every cell depends on its span alone**, whatever texts the symbols are.  It has the entries of the
last cell in the first row of the table of the span; so any two spans with the same text have the same
cell, and the start variable is an entry exactly if the span is accepted as a word. -/
theorem cells_depend_on_spans (g : Grammar) (word : Text) (clock : Clock) :
    ∃ t, g.table word none clock = .ok t ∧ ∀ i j, i ≤ j → j < word.length →
      (∃ u, g.table (word.slice i j) none clock = .ok u ∧
        ∀ a, a ∈ t.get i j ↔ a ∈ u.get 0 (j - i)) ∧
      (∀ word' i' j', i' ≤ j' → j' < word'.length → word'.slice i' j' = word.slice i j →
        ∃ t', g.table word' none clock = .ok t' ∧ ∀ a, a ∈ t.get i j ↔ a ∈ t'.get i' j') ∧
      ∃ isIn, g.accepts (word.slice i j) none clock = .ok isIn ∧
        (g.start ∈ t.get i j ↔ isIn = true) := by
  refine ⟨g.filled word, table_none g word clock, fun i j hij hj => ⟨?_, ?_, ?_⟩⟩
  · refine ⟨g.filled (word.slice i j), table_none g _ clock, fun a => ?_⟩
    exact mem_filled_iff_mem_filled_slice hij hj
  · intro word' i' j' hij' hj' hslice
    refine ⟨g.filled word', table_none g word' clock, fun a => ?_⟩
    exact mem_filled_iff_of_slice_eq hij hj hij' hj' hslice.symm
  · exact ⟨g.verdict (word.slice i j), accepts_none g _ clock, mem_filled_iff_verdict_slice hij hj⟩

end Chart.Grammar
