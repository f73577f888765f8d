import Chart.Proofs.Table.Filled

/-!
# Proofs/Table/Inclusion — cells within cells

Two tables are filled side by side: one for a grammar and a word, the other for a grammar that has the
same rules in the same order, others between them, and a word that has the same text somewhere.  What is
an entry for a span of that text in the first table is an entry for it in the second.

A rule may read the cell that is being filled, where one of its symbols is the empty text.  So the cells
are compared **rule by rule**, not only when they are complete.

* `filling_subset` — one cell.
* `get_filled_subset` — the filled tables.
-/

namespace Chart.Grammar

open Table

variable {g h : Grammar} {word word' : Text} {t t' : Table} {i i' len : Nat} {cell cell' : Cell}

/-! ## One cell -/

/-- A rule adds to a larger cell at least what it adds to a smaller one. -/
theorem addBinary_subset (hwithin : t.IsWithinBelow t' word word' i i' len) (hcell : cell ⊆ cell')
    (r : Symbol × Symbol × Symbol) :
    addBinary word t i (i + len) cell r ⊆ addBinary word' t' i' (i' + len) cell' r := by
  intro a ha
  rw [addBinary] at ha
  split at ha
  · rename_i hsplits
    rcases List.mem_insert_iff.1 ha with rfl | hold
    · rw [addBinary, if_pos (hwithin.splits_put hcell hsplits)]
      exact List.mem_insert_self
    · exact mem_addBinary_of_mem (hcell hold) r
  · exact mem_addBinary_of_mem (hcell ha) r

/-- Rules between the others only make the cell larger that the others are tried on. -/
theorem foldl_addBinary_subset (hwithin : t.IsWithinBelow t' word word' i i' len)
    {rules rules' : List (Symbol × Symbol × Symbol)} (hrules : rules.Sublist rules')
    (hcell : cell ⊆ cell') :
    rules.foldl (addBinary word t i (i + len)) cell ⊆
      rules'.foldl (addBinary word' t' i' (i' + len)) cell' := by
  induction hrules generalizing cell cell' with
  | slnil => exact hcell
  | cons r _ ih => exact ih fun a ha => mem_addBinary_of_mem (hcell ha) r
  | cons_cons r _ ih => exact ih (addBinary_subset hwithin hcell r)

/-- **The filling of a cell lies within its filling by more rules** over a larger table. -/
theorem filling_subset (hrules : g.rules.Sublist h.rules)
    (hwithin : t.IsWithinBelow t' word word' i i' len) (hcell : cell ⊆ cell') :
    g.filling word t i (i + len) cell ⊆ h.filling word' t' i' (i' + len) cell' :=
  Cell.close_subset (hrules.filterMap Rule.unit?).subset
    (foldl_addBinary_subset hwithin (hrules.filterMap Rule.binary?) hcell)

/-! ## The filled tables -/

theorem get_seed_subset (hrules : g.rules.Sublist h.rules) (hj : i + len < word.length)
    (hj' : i' + len < word'.length)
    (hslice : word.slice i (i + len) = word'.slice i' (i' + len)) :
    (g.seed word).get i (i + len) ⊆ (h.seed word').get i' (i' + len) := by
  intro a ha
  obtain ⟨hdiagonal, c, hc, hr⟩ := (mem_get_seed (by omega) hj).1 ha
  obtain rfl : len = 0 := by omega
  refine (mem_get_seed hj' hj').2 ⟨rfl, c, ?_, hrules.subset hr⟩
  rw [← Text.slice_self_eq_iff] at hc ⊢
  exact hslice.symm.trans hc

/-- **Where words have the same text, more rules give larger cells**: by the length of the span, since
the cells of shorter spans are compared before. -/
theorem get_filled_subset (hrules : g.rules.Sublist h.rules) (hj : i + len < word.length)
    (hj' : i' + len < word'.length)
    (hslice : word.slice i (i + len) = word'.slice i' (i' + len)) :
    (g.filled word).get i (i + len) ⊆ (h.filled word').get i' (i' + len) := by
  induction len using Nat.strongRecOn generalizing i i' with
  | ind len ih =>
    have hwithin : (g.filled word).IsWithinBelow (h.filled word') word word' i i' len :=
      { lt := hj
        lt' := hj'
        slice_eq := hslice
        isSquare := isSquare_filled g word
        isSquare' := isSquare_filled h word'
        subset := by
          intro k m hkm hm hlt
          obtain ⟨d, rfl⟩ := Nat.exists_eq_add_of_le hkm
          have hpart := Text.slice_eq_of_within (k := k) hslice hm
          rw [← Nat.add_assoc, ← Nat.add_assoc] at hpart ⊢
          exact ih d (by omega) (by omega) (by omega) hpart }
    rw [get_filled (by omega) hj, get_filled (by omega) hj']
    exact filling_subset hrules hwithin (get_seed_subset hrules hj hj' hslice)

end Chart.Grammar
