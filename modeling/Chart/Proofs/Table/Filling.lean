import Chart.Proofs.Table.Closure
import Chart.Proofs.Table.Square
import Chart.Proofs.Text.Slice

/-!
# Proofs/Table/Filling — what a cell becomes when it is filled

Filling a cell reads the cells of shorter spans within its own and, where a symbol is the empty text,
the cell itself as the rules before left it.  So what the cell becomes is a function of what it holds
at first, over a table of which only those shorter spans matter.

* `Table.splits_iff` — how two symbols cover a span; `splits_congr` — which cells that reads.
* `Table.IsWithinBelow` — two tables over the same text, the one within the other for shorter spans;
  `splits_put` — what the one covers the other covers.
* `Grammar.filling` — what a cell becomes; `fillCell_eq_put` — filling a cell puts it.
* `filling_congr` — only the cells of shorter spans matter.
* `forall_mem_filling`, `mem_filling_of_mem`, `mem_filling_of_turn`, `mem_filling_of_binary`,
  `mem_filling_of_unit`, `nodup_filling` — what the filling of a cell holds.
-/

namespace Chart

/-! ## What a rule with two symbols reads -/

namespace Table

variable {t t' : Table} {word x y : Text} {i j : Nat}

/-- **Two symbols cover a span** if it is cut so that each part has its symbol as an entry, if one of
them is the text of an end and the other an entry of the rest, or if their texts make it up. -/
theorem splits_iff (hj : j < word.length) : t.splits word x y i j = true ↔
    (∃ k, i ≤ k ∧ k < j ∧ x ∈ t.get i k ∧ y ∈ t.get (k + 1) j) ∨
    (i + x.length ≤ j ∧ word.slice i j = x ++ word.slice (i + x.length) j ∧
      y ∈ t.get (i + x.length) j) ∨
    (i + y.length ≤ j ∧ word.slice i j = word.slice i (j - y.length) ++ y ∧
      x ∈ t.get i (j - y.length)) ∨
    word.slice i j = x ++ y := by
  have hcut : ∀ k, k ∈ List.range' i (j - i) ↔ i ≤ k ∧ k < j := fun k => by
    rw [List.mem_range'_1]
    omega
  simp only [splits, Bool.or_eq_true, Bool.and_eq_true, List.any_eq_true, decide_eq_true_eq,
    beq_iff_eq, List.isPrefixOf_iff_prefix, List.isSuffixOf_iff_suffix, hcut, or_assoc, and_assoc]
  refine or_congr_right (or_congr ?_ (or_congr_left ?_))
  · rw [Text.prefix_slice_iff]
    exact and_left_comm
  · refine Iff.trans and_left_comm (and_congr_right fun hy => and_congr_left fun _ => ?_)
    exact Text.suffix_slice_iff hj hy

/-- **What two symbols read**: the first one is looked up in spans at the start, the second one in spans at
the end, and either in the whole span only if the other is the empty text. -/
theorem splits_congr (hj : j < word.length)
    (hx : ∀ k, i ≤ k → k ≤ j → (k = j → y = []) → (x ∈ t.get i k ↔ x ∈ t'.get i k))
    (hy : ∀ k, i ≤ k → k ≤ j → (k = i → x = []) → (y ∈ t.get k j ↔ y ∈ t'.get k j)) :
    t.splits word x y i j = t'.splits word x y i j := by
  rw [Bool.eq_iff_iff, splits_iff hj, splits_iff hj]
  refine or_congr (exists_congr fun k => and_congr_right fun hik => and_congr_right fun hkj =>
    and_congr ?_ ?_) (or_congr ?_ (or_congr_left ?_))
  · exact hx k hik (by omega) (by omega)
  · exact hy (k + 1) (by omega) hkj (by omega)
  · refine and_congr_right fun hle => and_congr_right fun _ => ?_
    exact hy _ (by omega) hle fun h => List.length_eq_zero_iff.1 (by omega)
  · refine and_congr_right fun hle => and_congr_right fun _ => ?_
    exact hx _ (by omega) (by omega) fun h => List.length_eq_zero_iff.1 (by omega)

/-- The tables have the same entries for the shorter spans within a span. -/
def AgreeBelow (t t' : Table) (i j : Nat) : Prop :=
  ∀ k m, i ≤ k → k ≤ m → m ≤ j → m - k < j - i → t.get k m = t'.get k m

theorem AgreeBelow.refl (t : Table) (i j : Nat) : t.AgreeBelow t i j := fun _ _ _ _ _ _ => rfl

theorem AgreeBelow.symm (h : t.AgreeBelow t' i j) : t'.AgreeBelow t i j :=
  fun k m hik hkm hmj hlt => (h k m hik hkm hmj hlt).symm

/-- **One table is within another below a span**: the same text stands at `i` in one word and at `i'` in
the other, over `len + 1` positions, and every entry for a shorter span within it is an entry for the
span that lies alike in the other table. -/
structure IsWithinBelow (t t' : Table) (word word' : Text) (i i' len : Nat) : Prop where
  /-- The span lies in the word. -/
  lt : i + len < word.length
  /-- The other span lies in the other word. -/
  lt' : i' + len < word'.length
  /-- The same text stands there. -/
  slice_eq : word.slice i (i + len) = word'.slice i' (i' + len)
  /-- The table belongs to the word. -/
  isSquare : t.IsSquare word.length
  /-- The other table belongs to the other word. -/
  isSquare' : t'.IsSquare word'.length
  /-- Entries for shorter spans are kept. -/
  subset : ∀ k m, k ≤ m → m ≤ len → m - k < len →
    t.get (i + k) (i + m) ⊆ t'.get (i' + k) (i' + m)

variable {word' : Text} {i' len : Nat} {cell cell' : Cell}

theorem AgreeBelow.isWithinBelow (h : t.AgreeBelow t' i (i + len)) (ht : t.IsSquare word.length)
    (ht' : t'.IsSquare word.length) (hj : i + len < word.length) :
    t.IsWithinBelow t' word word i i len where
  lt := hj
  lt' := hj
  slice_eq := rfl
  isSquare := ht
  isSquare' := ht'
  subset k m hkm hm hlt := by
    rw [h (i + k) (i + m) (by omega) (by omega) (by omega) (by omega)]
    exact List.Subset.refl _

namespace IsWithinBelow

/-- Under a larger cell, every entry within the span is kept. -/
theorem get_put_subset (h : t.IsWithinBelow t' word word' i i' len) (hcell : cell ⊆ cell') {k m : Nat}
    (hkm : k ≤ m) (hm : m ≤ len) :
    (t.put i (i + len) cell).get (i + k) (i + m) ⊆
      (t'.put i' (i' + len) cell').get (i' + k) (i' + m) := by
  have hi : i < word.length := Nat.lt_of_le_of_lt (Nat.le_add_right i len) h.lt
  have hi' : i' < word'.length := Nat.lt_of_le_of_lt (Nat.le_add_right i' len) h.lt'
  rw [h.isSquare.get_put hi h.lt, h.isSquare'.get_put hi' h.lt']
  by_cases hspan : k = 0 ∧ m = len
  · rw [if_pos (by omega), if_pos (by omega)]
    exact hcell
  · rw [if_neg (by omega), if_neg (by omega)]
    exact h.subset k m hkm hm (by omega)

/-- **What two symbols cover, they cover in the other table**, under a cell that holds at least as
much. -/
theorem splits_put (h : t.IsWithinBelow t' word word' i i' len) (hcell : cell ⊆ cell')
    (hsplits : (t.put i (i + len) cell).splits word x y i (i + len) = true) :
    (t'.put i' (i' + len) cell').splits word' x y i' (i' + len) = true := by
  rw [splits_iff h.lt] at hsplits
  rw [splits_iff h.lt', ← h.slice_eq]
  rcases hsplits with ⟨k, hik, hkj, hx, hy⟩ | ⟨hle, hslice, hy⟩ | ⟨hle, hslice, hx⟩ | hslice
  · obtain ⟨d, rfl⟩ := Nat.exists_eq_add_of_le hik
    exact Or.inl ⟨i' + d, by omega, by omega, h.get_put_subset hcell (Nat.zero_le d) (by omega) hx,
      h.get_put_subset hcell (show d + 1 ≤ len by omega) (Nat.le_refl len) hy⟩
  · have hlen : x.length ≤ len := by omega
    refine Or.inr (Or.inl ⟨by omega, ?_, h.get_put_subset hcell hlen (Nat.le_refl len) hy⟩)
    rw [hslice, Text.slice_eq_of_within h.slice_eq (Nat.le_refl len)]
  · have hlen : y.length ≤ len := by omega
    rw [Nat.add_sub_assoc hlen] at hslice hx ⊢
    have hx' := h.get_put_subset hcell (Nat.zero_le (len - y.length)) (Nat.sub_le len y.length) hx
    refine Or.inr (Or.inr (Or.inl ⟨by omega, ?_, hx'⟩))
    rw [hslice]
    exact congrArg (· ++ y) (Text.slice_eq_of_within (k := 0) h.slice_eq (Nat.sub_le len y.length))
  · exact Or.inr (Or.inr (Or.inr hslice))

end IsWithinBelow

end Table

namespace Grammar

variable {g : Grammar} {word : Text} {t t' : Table} {i j n : Nat} {cell : Cell}

/-! ## Filling a cell -/

/-- A cell after a rule with two symbols was tried on its span. -/
def addBinary (word : Text) (t : Table) (i j : Nat) (cell : Cell) (r : Symbol × Symbol × Symbol) :
    Cell :=
  if (t.put i j cell).splits word r.2.1 r.2.2 i j then cell.insert r.1 else cell

/-- **What a cell becomes**, over the cells of shorter spans. -/
def filling (g : Grammar) (word : Text) (t : Table) (i j : Nat) (cell : Cell) : Cell :=
  (g.binaryRules.foldl (addBinary word t i j) cell).close g.unitRules

theorem applyBinary_put (r : Symbol × Symbol × Symbol) :
    applyBinary word i j (t.put i j cell) r = t.put i j (addBinary word t i j cell r) := by
  rw [applyBinary, addBinary]
  split
  · exact Table.modify_put t i j cell _
  · rfl

theorem foldl_applyBinary_put (word : Text) (t : Table) (i j : Nat) (cell : Cell)
    (rules : List (Symbol × Symbol × Symbol)) :
    rules.foldl (applyBinary word i j) (t.put i j cell) =
      t.put i j (rules.foldl (addBinary word t i j) cell) := by
  induction rules generalizing cell with
  | nil => rfl
  | cons r rules ih => rw [List.foldl_cons, List.foldl_cons, applyBinary_put, ih]

/-- **Filling a cell puts its filling.** -/
theorem fillCell_eq_put (g : Grammar) (word : Text) (t : Table) (i j : Nat) :
    g.fillCell word t i j = t.put i j (g.filling word t i j (t.get i j)) := by
  have hfold := foldl_applyBinary_put word t i j (t.get i j) g.binaryRules
  rw [Table.put_get] at hfold
  rw [fillCell, hfold, Table.modify_put, filling]

theorem addBinary_congr (hn : n = word.length) (ht : t.IsSquare n) (ht' : t'.IsSquare n)
    (hij : i ≤ j) (hj : j < n) (h : t.AgreeBelow t' i j) (r : Symbol × Symbol × Symbol) :
    addBinary word t i j cell r = addBinary word t' i j cell r := by
  subst hn
  obtain ⟨len, rfl⟩ := Nat.exists_eq_add_of_le hij
  have hsplits : (t.put i (i + len) cell).splits word r.2.1 r.2.2 i (i + len) =
      (t'.put i (i + len) cell).splits word r.2.1 r.2.2 i (i + len) := by
    refine Bool.eq_iff_iff.2 ⟨?_, ?_⟩
    · exact (h.isWithinBelow ht ht' hj).splits_put (List.Subset.refl cell)
    · exact (h.symm.isWithinBelow ht' ht hj).splits_put (List.Subset.refl cell)
  rw [addBinary, addBinary, hsplits]

/-- **The filling of a cell depends on the cells of shorter spans within its own alone.** -/
theorem filling_congr (hn : n = word.length) (ht : t.IsSquare n) (ht' : t'.IsSquare n)
    (hij : i ≤ j) (hj : j < n) (h : t.AgreeBelow t' i j) :
    g.filling word t i j cell = g.filling word t' i j cell := by
  have hstep : addBinary word t i j = addBinary word t' i j :=
    funext fun _ => funext fun r => addBinary_congr hn ht ht' hij hj h r
  rw [filling, filling, hstep]

/-! ## What the filling of a cell holds -/

theorem mem_unitRules {a b : Symbol} : (a, b) ∈ g.unitRules ↔ Rule.unit a b ∈ g.rules := by
  rw [unitRules, List.mem_filterMap]
  constructor
  · rintro ⟨r, hr, hab⟩
    cases r <;> cases hab
    exact hr
  · exact fun h => ⟨_, h, rfl⟩

theorem mem_binaryRules {a x y : Symbol} :
    (a, x, y) ∈ g.binaryRules ↔ Rule.binary a x y ∈ g.rules := by
  rw [binaryRules, List.mem_filterMap]
  constructor
  · rintro ⟨r, hr, haxy⟩
    cases r <;> cases haxy
    exact hr
  · exact fun h => ⟨_, h, rfl⟩

theorem mem_addBinary_of_mem {a : Symbol} (h : a ∈ cell) (r : Symbol × Symbol × Symbol) :
    a ∈ addBinary word t i j cell r := by
  rw [addBinary]
  split
  · exact List.mem_insert_of_mem h
  · exact h

theorem mem_foldl_addBinary_of_mem {a : Symbol} (h : a ∈ cell)
    (rules : List (Symbol × Symbol × Symbol)) :
    a ∈ rules.foldl (addBinary word t i j) cell := by
  induction rules generalizing cell with
  | nil => exact h
  | cons r rules ih => exact ih (mem_addBinary_of_mem h r)

/-- What the rules with two symbols add to a cell are their left-hand sides. -/
theorem mem_or_of_mem_foldl_addBinary {a : Symbol} {rules : List (Symbol × Symbol × Symbol)}
    (h : a ∈ rules.foldl (addBinary word t i j) cell) : a ∈ cell ∨ ∃ r ∈ rules, r.1 = a := by
  induction rules generalizing cell with
  | nil => exact Or.inl h
  | cons r rules ih =>
    rcases ih h with hadded | ⟨q, hq, rfl⟩
    · rw [addBinary] at hadded
      split at hadded
      · rcases List.mem_insert_iff.1 hadded with rfl | hold
        · exact Or.inr ⟨r, List.mem_cons_self, rfl⟩
        · exact Or.inl hold
      · exact Or.inl hadded
    · exact Or.inr ⟨q, List.mem_cons_of_mem r hq, rfl⟩

theorem mem_filling_of_mem {a : Symbol} (h : a ∈ cell) : a ∈ g.filling word t i j cell :=
  Cell.mem_close_of_mem (mem_foldl_addBinary_of_mem h _)

/-- **The filling of a cell is closed under the unit rules.** -/
theorem mem_filling_of_unit {a b : Symbol} (hr : Rule.unit a b ∈ g.rules)
    (h : b ∈ g.filling word t i j cell) : a ∈ g.filling word t i j cell :=
  Cell.mem_close_of_rule (mem_unitRules.2 hr) h

/-- **A rule adds its left-hand side if its symbols cover the span in its turn**, by what the rules before
it left in the cell. -/
theorem mem_filling_of_turn {a x y : Symbol} {earlier later : List (Symbol × Symbol × Symbol)}
    (hrules : g.binaryRules = earlier ++ (a, x, y) :: later)
    (h : (t.put i j (earlier.foldl (addBinary word t i j) cell)).splits word x y i j = true) :
    a ∈ g.filling word t i j cell := by
  refine Cell.mem_close_of_mem ?_
  rw [hrules, List.foldl_append, List.foldl_cons]
  refine mem_foldl_addBinary_of_mem ?_ _
  rw [addBinary, if_pos h]
  exact List.mem_insert_self

/-- **A rule adds its left-hand side if its symbols cover the span by what the cell holds at first**,
since the rules before it only add to the cell. -/
theorem mem_filling_of_binary (ht : t.IsSquare word.length) (hij : i ≤ j) (hj : j < word.length)
    {a x y : Symbol} (hr : Rule.binary a x y ∈ g.rules)
    (h : (t.put i j cell).splits word x y i j = true) : a ∈ g.filling word t i j cell := by
  obtain ⟨len, rfl⟩ := Nat.exists_eq_add_of_le hij
  obtain ⟨earlier, later, hrules⟩ := List.append_of_mem (mem_binaryRules.2 hr)
  have hgrown : cell ⊆ earlier.foldl (addBinary word t i (i + len)) cell :=
    fun b hb => mem_foldl_addBinary_of_mem hb earlier
  have hself := (Table.AgreeBelow.refl t i (i + len)).isWithinBelow ht ht hj
  exact mem_filling_of_turn hrules (hself.splits_put hgrown h)

/-- **What holds of a cell at first, of the left-hand sides that rules with two symbols add to cells
of which it holds, and passes along the unit rules, holds of the filling.** -/
theorem forall_mem_filling {P : Symbol → Prop} (hcell : ∀ a ∈ cell, P a)
    (hbinary : ∀ a x y, Rule.binary a x y ∈ g.rules → ∀ cell' : Cell, (∀ b ∈ cell', P b) →
      (t.put i j cell').splits word x y i j = true → P a)
    (hunit : ∀ a b, Rule.unit a b ∈ g.rules → P b → P a) :
    ∀ a ∈ g.filling word t i j cell, P a := by
  have hfold : ∀ (rules : List (Symbol × Symbol × Symbol)) (cell : Cell),
      (∀ r ∈ rules, r ∈ g.binaryRules) → (∀ a ∈ cell, P a) →
        ∀ a ∈ rules.foldl (addBinary word t i j) cell, P a := by
    intro rules
    induction rules with
    | nil => exact fun _ _ hcell => hcell
    | cons r rules ih =>
      intro cell hrules hcell
      refine ih _ (fun q hq => hrules q (List.mem_cons_of_mem r hq)) fun a ha => ?_
      rw [addBinary] at ha
      split at ha
      · rename_i hsplits
        rcases List.mem_insert_iff.1 ha with rfl | hold
        · exact hbinary _ _ _ (mem_binaryRules.1 (hrules r List.mem_cons_self)) cell hcell hsplits
        · exact hcell a hold
      · exact hcell a ha
  have hadded := hfold g.binaryRules cell (fun _ h => h) hcell
  refine Cell.forall_mem_closeFrom (fun r hr h => ?_) hadded hadded
  exact hunit r.1 r.2 (mem_unitRules.1 hr) h

/-- **Filling a cell repeats no symbol.** -/
theorem nodup_filling (h : cell.Nodup) : (g.filling word t i j cell).Nodup := by
  have hfold : ∀ rules : List (Symbol × Symbol × Symbol),
      (rules.foldl (addBinary word t i j) cell).Nodup := by
    intro rules
    induction rules generalizing cell with
    | nil => exact h
    | cons r rules ih =>
      refine ih ?_
      rw [addBinary]
      split
      · exact h.insert
      · exact h
  exact Cell.nodup_closeFrom (hfold g.binaryRules)

end Grammar

end Chart
