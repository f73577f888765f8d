import Chart.Proofs.Table.Guarded

/-!
# Proofs/Table/Cuts — two symbols cover a span at one of its cuts

`Table.splits` asks four questions, each with a guard of its own: both symbols as entries, one of them as
the text of an end, or both as texts.  For symbols that are not empty these are **the four ways to read two
symbols at one cut** of the span: `splits_iff_exists_cut`.  The parts before and behind a cut are shorter
than the span, so its own cell is never looked up; it may as well be missing (`cutRow`).
-/

namespace Chart

namespace Table

variable {t : Table} {word : Text} {x y : Symbol} {i j : Nat}

/-! ## The parts of a span -/

/-- **A symbol covers a span** as an entry of its cell or as its text. -/
def Covers (t : Table) (word : Text) (x : Symbol) (i j : Nat) : Prop :=
  x ∈ t.get i j ∨ x = word.slice i j

/-- **Two texts that are not empty make up a span at a cut**, each as the text of its part. -/
theorem exists_cut_of_append (hij : i ≤ j) (hj : j < word.length) {u v : Text} (hu : u ≠ [])
    (hv : v ≠ []) (h : word.slice i j = u ++ v) :
    ∃ k, i ≤ k ∧ k < j ∧ k + 1 = i + u.length ∧ u = word.slice i k ∧ v = word.slice (k + 1) j := by
  obtain ⟨hle, hfirst, hsecond⟩ := Text.eq_slice_of_append hj hij h hu hv
  have hpos : 0 < u.length := List.length_pos_iff.2 hu
  have hcut : i + u.length - 1 + 1 = i + u.length := by omega
  exact ⟨i + u.length - 1, by omega, by omega, hcut, hfirst, by rwa [hcut]⟩

theorem slice_ne_nil (hij : i ≤ j) (hj : j < word.length) : word.slice i j ≠ [] :=
  List.ne_nil_of_length_pos (by rw [Text.length_slice hj hij]; omega)

/-- What covers the parts before and behind a cut covers the span. -/
theorem splits_of_cut {k : Nat} (hj : j < word.length) (hik : i ≤ k) (hkj : k < j)
    (hx : t.Covers word x i k) (hy : t.Covers word y (k + 1) j) : t.splits word x y i j = true := by
  have hspan : word.slice i k ++ word.slice (k + 1) j = word.slice i j :=
    Text.slice_append hik (Nat.le_of_lt hkj)
  rw [splits_iff hj]
  rcases hx with hx | rfl
  · rcases hy with hy | rfl
    · exact Or.inl ⟨k, hik, hkj, hx, hy⟩
    · have hlength := Text.length_slice (i := k + 1) hj hkj
      have hlast : j - (word.slice (k + 1) j).length = k := by omega
      refine Or.inr (Or.inr (Or.inl ⟨by omega, ?_, hlast.symm ▸ hx⟩))
      rw [hlast, hspan]
  · have hlength := Text.length_slice (w := word) (j := k) (by omega) hik
    have hnext : i + (word.slice i k).length = k + 1 := by omega
    rcases hy with hy | rfl
    · refine Or.inr (Or.inl ⟨by omega, ?_, hnext.symm ▸ hy⟩)
      rw [hnext, hspan]
    · exact Or.inr (Or.inr (Or.inr hspan.symm))

/-- **Two symbols that are not empty cover a span exactly if at one of its cuts the first one covers the
part before it and the second one the part behind.** -/
theorem splits_iff_exists_cut (hij : i ≤ j) (hj : j < word.length) (hx : x ≠ []) (hy : y ≠ []) :
    t.splits word x y i j = true ↔
      ∃ k, i ≤ k ∧ k < j ∧ t.Covers word x i k ∧ t.Covers word y (k + 1) j := by
  refine ⟨fun h => ?_, fun ⟨k, hik, hkj, hfirst, hsecond⟩ => splits_of_cut hj hik hkj hfirst hsecond⟩
  rcases (splits_iff hj).1 h with ⟨k, hik, hkj, hfirst, hsecond⟩ | ⟨hle, hslice, hsecond⟩ |
    ⟨hle, hslice, hfirst⟩ | hslice
  · exact ⟨k, hik, hkj, Or.inl hfirst, Or.inl hsecond⟩
  · obtain ⟨k, hik, hkj, hnext, hfirst, -⟩ :=
      exists_cut_of_append hij hj hx (slice_ne_nil hle hj) hslice
    exact ⟨k, hik, hkj, Or.inr hfirst, Or.inl (hnext ▸ hsecond)⟩
  · have hrest : word.slice i (j - y.length) ≠ [] := slice_ne_nil (by omega) (by omega)
    obtain ⟨k, hik, hkj, hnext, -, hsecond⟩ := exists_cut_of_append hij hj hrest hy hslice
    rw [Text.length_slice (by omega) (by omega)] at hnext
    have hcut : j - y.length = k := by omega
    exact ⟨k, hik, hkj, Or.inl (hcut ▸ hfirst), Or.inr hsecond⟩
  · obtain ⟨k, hik, hkj, -, hfirst, hsecond⟩ := exists_cut_of_append hij hj hx hy hslice
    exact ⟨k, hik, hkj, Or.inr hfirst, Or.inr hsecond⟩

/-! ## A table without the cell of the span -/

/-- The table whose row `i` ends before column `j`. -/
def cutRow (t : Table) (i j : Nat) : Table := ⟨t.rows.modify i fun row => row.extract 0 j⟩

theorem getElem?_extract_of_lt {row : Array Cell} {m : Nat} (hm : m < j) :
    (row.extract 0 j)[m]? = row[m]? := by
  rw [Array.getElem?_extract, Nat.zero_add, Nat.sub_zero]
  by_cases hrow : m < row.size
  · rw [if_pos (Nat.lt_min.2 ⟨hm, hrow⟩)]
  · rw [if_neg fun h => hrow (Nat.lt_min.1 h).2, Array.getElem?_eq_none (Nat.le_of_not_lt hrow)]

/-- The cells that are left are as before. -/
theorem cell?_cutRow {k m : Nat} (hkept : k = i → m < j) :
    Guarded.cell? (t.cutRow i j) k m = Guarded.cell? t k m := by
  have hsame : ((t.cutRow i j).rows[k]?.bind fun row => row[m]?) =
      t.rows[k]?.bind fun row => row[m]? := by
    rw [cutRow, Array.getElem?_modify]
    by_cases hk : i = k
    · rw [if_pos hk]
      cases t.rows[k]? with
      | none => rfl
      | some row => exact getElem?_extract_of_lt (hkept hk.symm)
    · rw [if_neg hk]
  rw [Guarded.cell?, Guarded.cell?, Int.toNat_natCast, Int.toNat_natCast, hsame]

/-- The cell of the span is not left. -/
theorem cell?_cutRow_self (t : Table) (i j : Nat) : Guarded.cell? (t.cutRow i j) i j = none := by
  have hnone : ((t.cutRow i j).rows[i]?.bind fun row => row[j]?) = none := by
    rw [cutRow, Array.getElem?_modify, if_pos rfl]
    cases t.rows[i]? with
    | none => rfl
    | some row =>
      refine Array.getElem?_eq_none ?_
      rw [Array.size_extract]
      omega
  rw [Guarded.cell?, Int.toNat_natCast, Int.toNat_natCast, hnone, ite_self]

/-- **Two symbols are tried at every cut of a span and nowhere else.**  Over a table of any contents they
cover the span exactly if there is a position behind which it is cut so that each of them covers its part,
as an entry or as its text.  So a single character is never covered.  All cells that are looked up exist,
and the one of the span is not among them: what it holds does not matter, and it may be missing. -/
theorem splits_at_some_cut (ht : t.IsSquare word.length) (hij : i ≤ j) (hj : j < word.length)
    (hx : x ≠ []) (hy : y ≠ []) :
    (t.splits word x y i j = true ↔ ∃ k, i ≤ k ∧ k < j ∧ (x ∈ t.get i k ∨ x = word.slice i k) ∧
      (y ∈ t.get (k + 1) j ∨ y = word.slice (k + 1) j)) ∧
    (i = j → t.splits word x y i j = false) ∧
    (∀ cell, (t.put i j cell).splits word x y i j = t.splits word x y i j) ∧
    (∀ a, Guarded.splits? t word [a, x, y] i j = some (t.splits word x y i j)) ∧
    Guarded.cell? (t.cutRow i j) i j = none ∧
    ∀ a, Guarded.splits? (t.cutRow i j) word [a, x, y] i j = some (t.splits word x y i j) := by
  refine ⟨splits_iff_exists_cut hij hj hx hy, ?_, fun cell => ?_, Guarded.splits?_eq_some ht hj,
    cell?_cutRow_self t i j, ?_⟩
  · rintro rfl
    refine Bool.eq_false_iff.2 fun h => ?_
    obtain ⟨k, hik, hki, -⟩ := (splits_iff_exists_cut hij hj hx hy).1 h
    omega
  · have hi : i < word.length := Nat.lt_of_le_of_lt hij hj
    refine splits_congr hj (fun k _ _ hown => ?_) fun k _ _ hown => ?_
    · rw [ht.get_put hi hj, if_neg fun h => hy (hown h.2)]
    · rw [ht.get_put hi hj, if_neg fun h => hx (hown h.1)]
  · refine Guarded.splits?_eq_some_of_cells (fun k hik hkj hown => ?_) fun k hik hkj hown => ?_
    · have hkept : i = i → k < j := fun _ => Nat.lt_of_le_of_ne hkj fun h => hy (hown h)
      rw [cell?_cutRow hkept, Guarded.cell?_eq_some ht hik (by omega)]
    · have hkept : k = i → j < j := fun h => absurd (hown h) hx
      rw [cell?_cutRow hkept, Guarded.cell?_eq_some ht hkj hj]

/-! ### A text of two characters before an entry -/

/-- A table of three rows in which a symbol stands for the last character, and for the whole word. -/
def lastEntry : Table :=
  ⟨#[#[[], [], [['C']]], #[[], [], []], #[[], [], [['C']]]]⟩

theorem isSquare_lastEntry : lastEntry.IsSquare 3 where
  size_rows := rfl
  size_row := by simp [lastEntry]

/-- The word is cut behind its second character, whether the table has a cell for the whole word or not. -/
theorem splits_at_some_cut_of_text_and_entry :
    lastEntry.IsSquare 3 ∧ lastEntry.splits ['a', 'b', 'c'] ['a', 'b'] ['C'] 0 2 = true ∧
      Guarded.cell? (lastEntry.cutRow 0 2) 0 2 = none ∧
      Guarded.splits? (lastEntry.cutRow 0 2) ['a', 'b', 'c'] [['S'], ['a', 'b'], ['C']] 0 2 = some true := by
  obtain ⟨hcut, -, -, -, hnone, hsame⟩ := @splits_at_some_cut lastEntry ['a', 'b', 'c'] ['a', 'b'] ['C']
    0 2 isSquare_lastEntry (Nat.zero_le 2) (by decide) (by decide) (by decide)
  have hsplits : lastEntry.splits ['a', 'b', 'c'] ['a', 'b'] ['C'] 0 2 = true :=
    hcut.2 ⟨1, by decide, by decide, Or.inr rfl, Or.inl List.mem_cons_self⟩
  exact ⟨isSquare_lastEntry, hsplits, hnone, hsplits ▸ hsame ['S']⟩

end Table

end Chart
