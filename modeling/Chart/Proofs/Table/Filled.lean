import Chart.Proofs.Table.Filling

/-!
# Proofs/Table/Filled — the equation of the filled table

Each cell is filled once, when the spans of its length are, and what it becomes depends on shorter
spans alone.  So the filled table solves an equation in which no order of the cells is left:

    cell of a span = filling, over the filled table, of what stands for a single character

* `Grammar.filledTo` — the table when the spans up to a length are filled.
* `table_none`, `eq_filled_of_table` — the membership table is the filled table, whatever the clock.
* `get_filled` — the equation; `get_filled_eq_nil` — the cells that belong to no span.
* `exists_rule_of_mem_filled`, `nodup_get_filled` — the cells are sets of left-hand sides.
-/

namespace Chart.Grammar

variable {g : Grammar} {word : Text} {t : Table} {i j n len : Nat}

/-- The table in which the spans up to a length are filled. -/
def filledTo (g : Grammar) (word : Text) : Nat → Table
  | 0 => g.seed word
  | len + 1 => g.fillLength word (g.filledTo word len) (len + 1)

/-- **The filled table of a word.** -/
def filled (g : Grammar) (word : Text) : Table := g.filledTo word word.length

/-! ## The membership table is the filled table -/

theorem fillLengths_of_forall_late {late : Nat → Bool} (hlate : ∀ len, late len = false) :
    ∀ (lengths : List Nat) (t : Table),
      g.fillLengths word late lengths t = .ok (lengths.foldl (g.fillLength word) t)
  | [], _ => rfl
  | len :: rest, t => by
    rw [fillLengths, hlate len, List.foldl_cons]
    exact fillLengths_of_forall_late hlate rest _

theorem eq_foldl_of_fillLengths {late : Nat → Bool} :
    ∀ {lengths : List Nat} {t t' : Table}, g.fillLengths word late lengths t = .ok t' →
      t' = lengths.foldl (g.fillLength word) t
  | [], _, _, h => (Except.ok.inj h).symm
  | len :: _, _, _, h => by
    rw [fillLengths] at h
    split at h
    · exact nomatch h
    · rw [List.foldl_cons]
      exact eq_foldl_of_fillLengths h

theorem foldl_fillLength_eq_filledTo (g : Grammar) (word : Text) (n : Nat) :
    (List.range' 1 n).foldl (g.fillLength word) (g.seed word) = g.filledTo word n := by
  induction n with
  | zero => rfl
  | succ n ih =>
    rw [List.range'_concat, List.foldl_append, ih, Nat.one_mul, Nat.add_comm 1 n]
    rfl

/-- **Without a time limit there is a membership table**, the filled one. -/
theorem table_none (g : Grammar) (word : Text) (clock : Clock) :
    g.table word none clock = .ok (g.filled word) := by
  have hlate : ∀ len, isLate none clock len = false := fun _ => rfl
  rw [table, fillLengths_of_forall_late hlate]
  exact congrArg Except.ok (foldl_fillLength_eq_filledTo g word word.length)

/-- A time limit decides whether there is a membership table, but not which. -/
theorem eq_filled_of_table {limit : Option Rat} {clock : Clock}
    (h : g.table word limit clock = .ok t) : t = g.filled word :=
  (eq_foldl_of_fillLengths h).trans (foldl_fillLength_eq_filledTo g word word.length)

/-! ## The seed -/

theorem mem_preterminals {a : Symbol} {c : Char} :
    a ∈ g.preterminals c ↔ Rule.unit a [c] ∈ g.rules := by
  rw [preterminals, List.mem_map]
  constructor
  · rintro ⟨⟨b, x⟩, hr, rfl⟩
    obtain ⟨hmem, hx⟩ := List.mem_filter.1 hr
    rw [← eq_of_beq hx]
    exact mem_unitRules.1 hmem
  · exact fun h => ⟨(a, [c]), List.mem_filter.2 ⟨mem_unitRules.2 h, beq_self_eq_true _⟩, rfl⟩

/-- The table with what stands for each character of a text added to the diagonal, from `k` on. -/
def seedFrom (g : Grammar) (text : Text) (k : Nat) (t : Table) : Table :=
  (text.zipIdx k).foldl (fun t (c, i) => t.modify i i (·.union (g.preterminals c))) t

theorem isSquare_seedFrom (ht : t.IsSquare n) (text : Text) (k : Nat) :
    (g.seedFrom text k t).IsSquare n := by
  induction text generalizing k t with
  | nil => exact ht
  | cons c text ih => exact ih (ht.modify k k _) (k + 1)

theorem isSquare_seed (g : Grammar) (word : Text) : (g.seed word).IsSquare word.length :=
  isSquare_seedFrom (Table.isSquare_empty _) word 0

theorem mem_get_seedFrom {a : Symbol} (hi : i < n) (hj : j < n) :
    ∀ {text : Text} {k : Nat} {t : Table}, t.IsSquare n → k + text.length = n →
      (a ∈ (g.seedFrom text k t).get i j ↔ a ∈ t.get i j ∨
        (i = j ∧ k ≤ i ∧ ∃ c, text[i - k]? = some c ∧ Rule.unit a [c] ∈ g.rules))
  | [], k, t, _, _ => by simp [seedFrom]
  | c :: text, k, t, ht, hk => by
    rw [List.length_cons] at hk
    have hcons : g.seedFrom (c :: text) k t =
        g.seedFrom text (k + 1) (t.modify k k (·.union (g.preterminals c))) := rfl
    rw [hcons, mem_get_seedFrom hi hj (ht.modify k k _) (by omega),
      ht.get_modify (by omega) (by omega)]
    rcases Nat.lt_trichotomy i k with hlt | rfl | hlt
    · have hne : i ≠ k := by omega
      have hle : ¬ k ≤ i := by omega
      have hle' : ¬ k + 1 ≤ i := by omega
      simp [hne, hle, hle']
    · by_cases hij : i = j
      · subst hij
        have hsucc : ¬ i + 1 ≤ i := by omega
        simp [hsucc, Cell.mem_union, mem_preterminals]
      · simp [hij, Ne.symm hij]
    · obtain ⟨m, rfl⟩ : ∃ m, i = k + (m + 1) := ⟨i - (k + 1), by omega⟩
      have hsub : k + (m + 1) - k = m + 1 := by omega
      have hsub' : k + (m + 1) - (k + 1) = m := by omega
      have hle : k ≤ k + (m + 1) := by omega
      simp [hsub, hsub', hle, Nat.succ_le_of_lt hlt]

/-- **The seed has entries on the diagonal alone**: what stands for the character there. -/
theorem mem_get_seed {a : Symbol} (hi : i < word.length) (hj : j < word.length) :
    a ∈ (g.seed word).get i j ↔ i = j ∧ ∃ c, word[i]? = some c ∧ Rule.unit a [c] ∈ g.rules := by
  have hseed : g.seed word = g.seedFrom word 0 (Table.empty word.length) := rfl
  rw [hseed, mem_get_seedFrom hi hj (Table.isSquare_empty _) (Nat.zero_add _), Table.get_empty]
  simp

/-! ## Filling the spans of a length -/

theorem isSquare_fillCell (h : t.IsSquare n) (i j : Nat) : (g.fillCell word t i j).IsSquare n := by
  rw [fillCell_eq_put]
  exact h.put i j _

/-- The table with the first spans of length `len + 1` filled, from left to right. -/
def fillFirst (g : Grammar) (word : Text) (t : Table) (len : Nat) : Nat → Table
  | 0 => t
  | count + 1 => g.fillCell word (g.fillFirst word t len count) count (count + len)

theorem fillLength_eq_fillFirst (g : Grammar) (word : Text) (t : Table) (len : Nat) :
    g.fillLength word t (len + 1) = g.fillFirst word t len (word.length - len) := by
  have hfold : ∀ count, (List.range count).foldl
      (fun t i => g.fillCell word t i (i + (len + 1) - 1)) t = g.fillFirst word t len count := by
    intro count
    induction count with
    | zero => rfl
    | succ count ih =>
      rw [List.range_succ, List.foldl_append, ih]
      rfl
  rw [fillLength, Nat.add_sub_add_right]
  exact hfold _

theorem isSquare_fillFirst (ht : t.IsSquare n) (count : Nat) :
    (g.fillFirst word t len count).IsSquare n := by
  induction count with
  | zero => exact ht
  | succ count ih => exact isSquare_fillCell ih _ _

/-- The spans to the left of a span, which are filled before it, do not lie within it. -/
theorem get_fillFirst (ht : t.IsSquare word.length) {count : Nat}
    (hcount : count ≤ word.length - len) (k m : Nat) :
    (g.fillFirst word t len count).get k m =
      if m = k + len ∧ k < count then g.filling word t k m (t.get k m) else t.get k m := by
  induction count generalizing k m with
  | zero => simp [fillFirst]
  | succ count ih =>
    have hsquare : (g.fillFirst word t len count).IsSquare word.length := isSquare_fillFirst ht count
    have hi : count < word.length := by omega
    have hj : count + len < word.length := by omega
    have hsame : ∀ cell, g.filling word (g.fillFirst word t len count) count (count + len) cell =
        g.filling word t count (count + len) cell := by
      intro cell
      refine filling_congr rfl hsquare ht (by omega) hj fun k m hk _ _ _ => ?_
      rw [ih (by omega), if_neg (by omega)]
    rw [fillFirst, fillCell_eq_put, hsame, hsquare.get_put hi hj, ih (by omega), ih (by omega)]
    by_cases hk : k = count ∧ m = count + len
    · obtain ⟨rfl, rfl⟩ := hk
      rw [if_pos ⟨rfl, rfl⟩, if_neg (by omega), if_pos ⟨rfl, by omega⟩]
    · rw [if_neg hk]
      by_cases hm : m = k + len ∧ k < count
      · rw [if_pos hm, if_pos ⟨hm.1, by omega⟩]
      · rw [if_neg hm, if_neg (by omega)]

theorem isSquare_fillLength (ht : t.IsSquare n) (len : Nat) :
    (g.fillLength word t (len + 1)).IsSquare n := by
  rw [fillLength_eq_fillFirst]
  exact isSquare_fillFirst ht _

/-- **One length fills its own spans and touches no other cell.** -/
theorem get_fillLength (ht : t.IsSquare word.length) (hij : i ≤ j) (hj : j < word.length) :
    (g.fillLength word t (len + 1)).get i j =
      if j - i = len then g.filling word t i j (t.get i j) else t.get i j := by
  rw [fillLength_eq_fillFirst, get_fillFirst ht (Nat.le_refl _)]
  by_cases hlen : j - i = len
  · rw [if_pos hlen, if_pos (by omega)]
  · rw [if_neg hlen, if_neg (by omega)]

/-! ## The equation -/

theorem isSquare_filledTo (g : Grammar) (word : Text) (len : Nat) :
    (g.filledTo word len).IsSquare word.length := by
  induction len with
  | zero => exact isSquare_seed g word
  | succ len ih => exact isSquare_fillLength ih len

theorem isSquare_filled (g : Grammar) (word : Text) : (g.filled word).IsSquare word.length :=
  isSquare_filledTo g word _

/-- A cell is that of the seed as long as spans of its length are not filled. -/
theorem get_filledTo_of_ne (hne : ∀ m < len, j ≠ i + m) :
    (g.filledTo word len).get i j = (g.seed word).get i j := by
  induction len with
  | zero => rfl
  | succ len ih =>
    have hlast : j ≠ i + len := hne len (Nat.lt_succ_self len)
    rw [filledTo, fillLength_eq_fillFirst,
      get_fillFirst (isSquare_filledTo g word len) (Nat.le_refl _), if_neg (by omega),
      ih fun m hm => hne m (Nat.lt_succ_of_lt hm)]

/-- After its length, the cell of a span stays as it is. -/
theorem get_filledTo_of_lt (hij : i ≤ j) (hj : j < word.length) (hlen : j - i < len) :
    (g.filledTo word len).get i j = (g.filledTo word (j - i + 1)).get i j := by
  induction len with
  | zero => omega
  | succ len ih =>
    rcases Nat.lt_or_ge (j - i) len with hlt | hge
    · rw [filledTo, get_fillLength (isSquare_filledTo g word len) hij hj, if_neg (by omega), ih hlt]
    · obtain rfl : len = j - i := by omega
      rfl

/-- **The equation of the filled table.** -/
theorem get_filled (hij : i ≤ j) (hj : j < word.length) :
    (g.filled word).get i j = g.filling word (g.filled word) i j ((g.seed word).get i j) := by
  have hsquare : (g.filledTo word (j - i)).IsSquare word.length := isSquare_filledTo g word _
  have hbelow : (g.filledTo word (j - i)).AgreeBelow (g.filled word) i j := by
    intro k m hik hkm hmj hlt
    exact (get_filledTo_of_lt hkm (by omega) hlt).trans
      (get_filledTo_of_lt hkm (by omega) (by omega)).symm
  calc (g.filled word).get i j
      = (g.filledTo word (j - i + 1)).get i j := get_filledTo_of_lt hij hj (by omega)
    _ = g.filling word (g.filledTo word (j - i)) i j ((g.filledTo word (j - i)).get i j) := by
        rw [filledTo, get_fillLength hsquare hij hj, if_pos rfl]
    _ = g.filling word (g.filledTo word (j - i)) i j ((g.seed word).get i j) := by
        rw [get_filledTo_of_ne fun m hm => by omega]
    _ = g.filling word (g.filled word) i j ((g.seed word).get i j) :=
        filling_congr rfl hsquare (isSquare_filled g word) hij hj hbelow

/-- **A cell that belongs to no span is empty.** -/
theorem get_filled_eq_nil (hij : ¬(i ≤ j ∧ j < word.length)) : (g.filled word).get i j = [] := by
  by_cases hin : i < word.length ∧ j < word.length
  · rw [filled, get_filledTo_of_ne fun m _ => by omega, List.eq_nil_iff_forall_not_mem]
    intro a ha
    have hdiagonal := ((mem_get_seed hin.1 hin.2).1 ha).1
    omega
  · exact (isSquare_filled g word).get_eq_nil (by omega)

/-! ## What the cells hold -/

/-- Only rules with a symbol on their right add to a cell. -/
theorem exists_rule_of_mem_filled {a : Symbol} (h : a ∈ (g.filled word).get i j) :
    ∃ r ∈ g.rules, r.lhs = a ∧ (r.rhs.length = 1 ∨ r.rhs.length = 2) := by
  by_cases hspan : i ≤ j ∧ j < word.length
  · rw [get_filled hspan.1 hspan.2] at h
    refine forall_mem_filling (P := fun a => ∃ r ∈ g.rules, r.lhs = a ∧
      (r.rhs.length = 1 ∨ r.rhs.length = 2)) ?_ ?_ ?_ a h
    · intro b hb
      obtain ⟨-, c, -, hr⟩ := (mem_get_seed (by omega) hspan.2).1 hb
      exact ⟨_, hr, rfl, Or.inl rfl⟩
    · exact fun b x y hr _ _ _ => ⟨_, hr, rfl, Or.inr rfl⟩
    · exact fun b x hr _ => ⟨_, hr, rfl, Or.inl rfl⟩
  · rw [get_filled_eq_nil hspan] at h
    exact absurd h List.not_mem_nil

theorem nodup_get_seedFrom {text : Text} {k : Nat} (ht : t.IsSquare n) (h : ∀ i j, (t.get i j).Nodup)
    (hk : k + text.length = n) : ((g.seedFrom text k t).get i j).Nodup := by
  induction text generalizing k t with
  | nil => exact h i j
  | cons c text ih =>
    rw [List.length_cons] at hk
    refine ih (ht.modify k k _) (k := k + 1) (fun i j => ?_) (by omega)
    rw [ht.get_modify (by omega) (by omega)]
    split
    · exact Cell.nodup_union (h k k) _
    · exact h i j

/-- **No cell of a filled table repeats a symbol.** -/
theorem nodup_get_filled (g : Grammar) (word : Text) (i j : Nat) : ((g.filled word).get i j).Nodup := by
  by_cases hspan : i ≤ j ∧ j < word.length
  · rw [get_filled hspan.1 hspan.2]
    refine nodup_filling (nodup_get_seedFrom (Table.isSquare_empty _) (fun i j => ?_) (Nat.zero_add _))
    rw [Table.get_empty]
    exact List.nodup_nil
  · rw [get_filled_eq_nil hspan]
    exact List.nodup_nil

end Chart.Grammar
