import Chart.Table.Guarded
import Chart.Proofs.Table.Exact

/-!
# Proofs/Table/Guarded — recognition never leaves its table

The guarded recognizer fails where it would have to guess: at a cell that is not there or lies below the
diagonal, at a row of another length, at a cell that takes too many rounds to close.  Over a square table
**each of its steps succeeds and does what the recognizer does**, so it fails nowhere.

* `splits?_eq_some` — the cells of shorter spans exist: each index is computed only after a comparison
  that keeps it within the span.
* `closeWithin?_eq_closeFrom` — closing ends, as a round that adds something leaves fewer rules pending.
* `table?_eq_some`, `accepts?_eq_some` — the table and the verdict; `recognition_stays_in_table` says what
  is in the table.
-/

namespace Chart

/-- **A fold whose steps all succeed succeeds**, along states of which an invariant holds. -/
theorem foldlM_eq_some {α β : Type} {step? : β → α → Option β} {step : β → α → β} {P : β → Prop}
    {l : List α} (h : ∀ b, P b → ∀ a ∈ l, step? b a = some (step b a) ∧ P (step b a)) {b : β}
    (hb : P b) : l.foldlM step? b = some (l.foldl step b) ∧ P (l.foldl step b) := by
  induction l generalizing b with
  | nil => exact ⟨rfl, hb⟩
  | cons a rest ih =>
    obtain ⟨hstep, hP⟩ := h b hb a List.mem_cons_self
    rw [List.foldlM_cons, hstep, List.foldl_cons]
    exact ih (fun b hb a ha => h b hb a (List.mem_cons_of_mem _ ha)) hP

/-- The left-hand side of a rule with nothing on its right. -/
def Rule.epsilon? : Rule → Option Symbol
  | epsilon a => some a
  | _ => none

namespace Guarded

variable {g : Grammar} {word : Text} {t : Table} {i j n : Nat} {cell : Cell} {x y : Symbol}

/-! ## Questions -/

theorem both?_some (p : Bool) {q? : Option Bool} {q : Bool} (h : p = true → q? = some q) :
    both? (some p) q? = some (p && q) := by
  cases p with
  | false => rfl
  | true => rw [both?, h rfl, Bool.true_and]

theorem either?_some (p : Bool) {q? : Option Bool} {q : Bool} (h : q? = some q) :
    either? (some p) q? = some (p || q) := by
  cases p with
  | false => rw [either?, h, Bool.false_or]
  | true => rfl

theorem any?_eq_some {α : Type} {test? : α → Option Bool} {test : α → Bool} {l : List α}
    (h : ∀ a ∈ l, test? a = some (test a)) : any? test? l = some (l.any test) := by
  induction l with
  | nil => rfl
  | cons a rest ih =>
    obtain ⟨ha, hrest⟩ := List.forall_mem_cons.1 h
    rw [any?, ha, either?_some _ (ih hrest), List.any_cons]

/-! ## Cells -/

/-- **A square has every cell on or above the diagonal.** -/
theorem cell?_eq_some (ht : t.IsSquare n) (hij : i ≤ j) (hj : j < n) :
    cell? t i j = some (t.get i j) := by
  have hi : i < t.rows.size := ht.size_rows ▸ Nat.lt_of_le_of_lt hij hj
  have hrow : t.rows[i].size = n := ht.size_row _ (Array.getElem_mem hi)
  have hindexes : (0 : Int) ≤ i ∧ (i : Int) ≤ j := by omega
  rw [cell?, if_pos hindexes, Int.toNat_natCast, Int.toNat_natCast, Table.get_eq,
    Array.getElem?_eq_getElem hi, Option.bind_some, Option.getD_some,
    Array.getElem?_eq_getElem (hrow ▸ hj), Option.getD_some]

theorem holds?_of_cell? (hcell : cell? t i j = some cell) (a : Symbol) {k m : Int} (hk : k = i)
    (hm : m = j) : holds? t k m a = some (decide (a ∈ cell)) := by
  rw [holds?, hk, hm, hcell, Option.map_some]

theorem holds?_eq_some (ht : t.IsSquare n) (hij : i ≤ j) (hj : j < n) (a : Symbol) {k m : Int}
    (hk : k = i) (hm : m = j) : holds? t k m a = some (decide (a ∈ t.get i j)) :=
  holds?_of_cell? (cell?_eq_some ht hij hj) a hk hm

theorem modify?_eq_some (ht : t.IsSquare n) (hij : i ≤ j) (hj : j < n) {f? : Cell → Option Cell}
    {f : Cell → Cell} (hf : f? (t.get i j) = some (f (t.get i j))) :
    modify? t i j f? = some (t.modify i j f) := by
  rw [modify?, cell?_eq_some ht hij hj, Option.bind_some, hf, Option.map_some, Int.toNat_natCast,
    Int.toNat_natCast, Table.modify_eq_put t i j f]
  rfl

/-! ## Rows -/

/-- **The rows of a length are those of the rules of that length**, if a function picks the latter. -/
theorem withRhsLength_eq {α : Type} {pick : Rule → Option α} {row : α → Row} {length : Nat}
    (h : ∀ r : Rule, Option.guard (fun row => row.rhs.length == length) r.symbols =
      (pick r).map row) (rules : List Rule) :
    withRhsLength (rules.map Rule.symbols) length = (rules.filterMap pick).map row := by
  rw [withRhsLength, ← List.filterMap_eq_filter, List.filterMap_map, List.map_filterMap]
  exact List.filterMap_congr fun r _ => h r

theorem withRhsLength_zero (g : Grammar) :
    withRhsLength g.rows 0 = (g.rules.filterMap Rule.epsilon?).map fun a => [a] :=
  withRhsLength_eq (fun r => by cases r <;> rfl) g.rules

theorem withRhsLength_one (g : Grammar) :
    withRhsLength g.rows 1 = g.unitRules.map fun r => [r.1, r.2] :=
  withRhsLength_eq (fun r => by cases r <;> rfl) g.rules

theorem withRhsLength_two (g : Grammar) :
    withRhsLength g.rows 2 = g.binaryRules.map fun r => [r.1, r.2.1, r.2.2] :=
  withRhsLength_eq (fun r => by cases r <;> rfl) g.rules

theorem leftSides?_eq_some {α : Type} {row : α → Row} {left : α → Symbol} {test? : Row → Option Bool}
    {test : α → Bool} {l : List α} (hleft : ∀ a, (row a).head? = some (left a))
    (htest : ∀ a, test? (row a) = some (test a)) :
    leftSides? test? (l.map row) = some ((l.filter test).map left) := by
  induction l with
  | nil => rfl
  | cons a rest ih =>
    rw [List.map_cons, leftSides?, htest, Option.bind_some, List.filter_cons]
    cases test a with
    | true => rw [if_pos rfl, if_pos rfl, hleft, Option.bind_some, ih]; rfl
    | false => exact ih

/-! ## Filling a cell -/

/-- **The cells that two symbols are looked up in**: those of spans at the start for the first one, of
spans at the end for the second one, and the one of the whole span only beside the empty text.  Another
table will do if it has these cells, since what is asked before keeps the index within the span. -/
theorem splits?_eq_some_of_cells {t' : Table}
    (hx : ∀ k, i ≤ k → k ≤ j → (k = j → y = []) → cell? t' i k = some (t.get i k))
    (hy : ∀ k, i ≤ k → k ≤ j → (k = i → x = []) → cell? t' k j = some (t.get k j)) (a : Symbol) :
    splits? t' word [a, x, y] i j = some (t.splits word x y i j) := by
  -- both symbols in cells, one of them literally at the start or at the end of the span
  have hhalves : any? (fun k : Nat => both? (holds? t' i k x) (holds? t' (k + 1) j y))
      (List.range' i (j - i)) =
      some ((List.range' i (j - i)).any fun k => decide (x ∈ t.get i k ∧ y ∈ t.get (k + 1) j)) := by
    refine any?_eq_some fun k hk => ?_
    obtain ⟨hik, hkj⟩ : i ≤ k ∧ k < j := by
      have := List.mem_range'_1.1 hk
      omega
    rw [holds?_of_cell? (hx k hik (by omega) (by omega)) x rfl rfl, Bool.decide_and]
    exact both?_some _ fun _ => holds?_of_cell? (hy (k + 1) (by omega) hkj (by omega)) y rfl rfl
  have hprefix : both? (some (decide ((i : Int) + x.length ≤ j))) (holds? t' (i + x.length) j y) =
      some (decide (i + x.length ≤ j ∧ y ∈ t.get (i + x.length) j)) := by
    have hle : ((i : Int) + x.length ≤ j) ↔ i + x.length ≤ j := by omega
    rw [Bool.decide_and, decide_eq_decide.2 hle]
    refine both?_some _ fun h => holds?_of_cell? (hy (i + x.length) (by omega) ?_ ?_) y rfl rfl
    · exact of_decide_eq_true h
    · exact fun hown => List.length_eq_zero_iff.1 (by omega)
  have hsuffix : both? (some (decide ((i : Int) ≤ j - y.length))) (holds? t' i (j - y.length) x) =
      some (decide (i + y.length ≤ j ∧ x ∈ t.get i (j - y.length))) := by
    -- the comparison is one of integers: a symbol longer than the span would lead below zero
    have hle : ((i : Int) ≤ j - y.length) ↔ i + y.length ≤ j := by omega
    rw [Bool.decide_and, decide_eq_decide.2 hle]
    refine both?_some _ fun h => ?_
    have hspan : i + y.length ≤ j := of_decide_eq_true h
    refine holds?_of_cell? (hx (j - y.length) (by omega) (by omega) fun hown => ?_) x rfl (by omega)
    exact List.length_eq_zero_iff.1 (by omega)
  rw [splits?, Row.rhs, List.drop_one, List.tail_cons, symbols?, Option.bind_some]
  dsimp only
  rw [hhalves, hprefix, hsuffix, both?_some _ fun _ => rfl, both?_some _ fun _ => rfl,
    either?_some _ (either?_some _ (either?_some _ rfl)), Table.splits, Bool.or_assoc, Bool.or_assoc]

/-- **Every cell that two symbols are looked up in is in the table.** -/
theorem splits?_eq_some (ht : t.IsSquare n) (hj : j < n) (a : Symbol) :
    splits? t word [a, x, y] i j = some (t.splits word x y i j) :=
  splits?_eq_some_of_cells (fun _ hik hkj _ => cell?_eq_some ht hik (by omega))
    (fun _ _ hkj _ => cell?_eq_some ht hkj hj) a

theorem applyBinary?_eq_some (ht : t.IsSquare n) (hij : i ≤ j) (hj : j < n)
    (r : Symbol × Symbol × Symbol) :
    applyBinary? word i j t [r.1, r.2.1, r.2.2] = some (Grammar.applyBinary word i j t r) := by
  rw [applyBinary?, splits?_eq_some ht hj, Option.bind_some, Grammar.applyBinary]
  split
  · rw [List.head?_cons, Option.bind_some]
    exact modify?_eq_some ht hij hj rfl
  · rfl

/-! ## Closing a cell -/

theorem missing?_eq_some (rules : List (Symbol × Symbol)) (cell : Cell) :
    missing? (rules.map fun r => [r.1, r.2]) cell = some (Cell.missing rules cell cell) := by
  refine leftSides?_eq_some (fun _ => rfl) fun r => ?_
  rw [Bool.decide_and]
  exact both?_some _ fun _ => rfl

theorem closeWithin?_succ {rules : List (Symbol × Symbol)} {latest : List Symbol} {cell : Cell}
    (hlatest : latest ⊆ cell) (hcell : ∀ r ∈ rules, r.2 ∈ cell → r.2 ∈ latest ∨ r.1 ∈ cell)
    (rounds : Nat) :
    closeWithin? (rules.map fun r => [r.1, r.2]) (rounds + 1) cell =
      match Cell.missing rules latest cell with
      | [] => some cell
      | a :: new => closeWithin? (rules.map fun r => [r.1, r.2]) rounds (cell.union (a :: new)) := by
  rw [closeWithin?, missing?_eq_some, Cell.missing_eq_missing hlatest hcell]
  rfl

/-- **Closing ends within as many rounds as there are pending rules, and a last one.** -/
theorem closeWithin?_eq_closeFrom {rules : List (Symbol × Symbol)} {latest : List Symbol}
    {cell : Cell} (hlatest : latest ⊆ cell)
    (hcell : ∀ r ∈ rules, r.2 ∈ cell → r.2 ∈ latest ∨ r.1 ∈ cell) {rounds : Nat}
    (hrounds : Cell.pending rules cell ≤ rounds) :
    closeWithin? (rules.map fun r => [r.1, r.2]) (rounds + 1) cell =
      some (Cell.closeFrom rules latest cell) := by
  fun_induction Cell.closeFrom rules latest cell generalizing rounds with
  | case1 latest cell hnone => rw [closeWithin?_succ hlatest hcell, hnone]
  | case2 latest cell b new heq ih =>
    have hround := Cell.mem_missing_or_of_mem_union hcell
    have hpending := Cell.pending_union_missing_lt (heq ▸ List.cons_ne_nil b new)
    rw [heq] at hround hpending
    obtain ⟨rounds, rfl⟩ : ∃ fewer, rounds = fewer + 1 := ⟨rounds - 1, by omega⟩
    rw [closeWithin?_succ hlatest hcell, heq]
    exact ih (fun a ha => Cell.mem_union.2 (Or.inr ha)) hround (by omega)

theorem closeWithin?_eq_some (rules : List (Symbol × Symbol)) (cell : Cell) :
    closeWithin? (rules.map fun r => [r.1, r.2]) (rules.length + 1) cell = some (cell.close rules) :=
  closeWithin?_eq_closeFrom (List.Subset.refl cell) (fun _ _ h => Or.inl h) List.countP_le_length

/-! ## Filling the table -/

theorem isSquare_applyBinary (ht : t.IsSquare n) (r : Symbol × Symbol × Symbol) :
    (Grammar.applyBinary word i j t r).IsSquare n := by
  rw [Grammar.applyBinary]
  split
  · exact ht.modify i j _
  · exact ht

theorem fillCell?_eq_some (g : Grammar) (word : Text) (ht : t.IsSquare n) (hij : i ≤ j)
    (hj : j < n) : fillCell? g.rows word t i j = some (g.fillCell word t i j) := by
  have hstep : ∀ t : Table, t.IsSquare n → ∀ r ∈ g.binaryRules,
      applyBinary? word i j t [r.1, r.2.1, r.2.2] = some (Grammar.applyBinary word i j t r) ∧
        (Grammar.applyBinary word i j t r).IsSquare n := fun t ht r _ =>
    ⟨applyBinary?_eq_some ht hij hj r, isSquare_applyBinary ht r⟩
  obtain ⟨hbinary, hsquare⟩ := foldlM_eq_some hstep ht
  rw [fillCell?, withRhsLength_two, withRhsLength_one, List.foldlM_map, hbinary, Option.bind_some,
    List.length_map, Grammar.fillCell]
  exact modify?_eq_some hsquare hij hj (closeWithin?_eq_some g.unitRules _)

theorem fillLength?_eq_some (g : Grammar) (ht : t.IsSquare word.length) {length : Nat}
    (hpos : 1 ≤ length) (hlength : length ≤ word.length) :
    fillLength? g.rows word t length = some (g.fillLength word t length) ∧
      (g.fillLength word t length).IsSquare word.length := by
  refine foldlM_eq_some (P := (Table.IsSquare · word.length)) (fun t ht i hi => ?_) ht
  have hi := List.mem_range.1 hi
  exact ⟨fillCell?_eq_some g word ht (by omega) (by omega), Grammar.isSquare_fillCell ht _ _⟩

theorem seedAt?_eq_some (g : Grammar) (ht : t.IsSquare n) (hi : i < n) (c : Char) :
    seedAt? g.rows t (c, i) = some (t.modify i i (·.union (g.preterminals c))) := by
  have hleft : leftSides? (fun row => (symbol? row.rhs).map (· == [c])) (withRhsLength g.rows 1) =
      some (g.preterminals c) := by
    rw [withRhsLength_one]
    exact leftSides?_eq_some (fun _ => rfl) fun _ => rfl
  rw [seedAt?, hleft]
  exact modify?_eq_some ht (Nat.le_refl i) hi rfl

theorem seed?_eq_some (g : Grammar) (word : Text) :
    word.zipIdx.foldlM (seedAt? g.rows) (Table.empty word.length) = some (g.seed word) ∧
      (g.seed word).IsSquare word.length := by
  refine foldlM_eq_some (P := (Table.IsSquare · word.length)) (fun t ht place hplace => ?_)
    (Table.isSquare_empty _)
  obtain ⟨c, i⟩ := place
  have hi : i < word.length := by
    have := List.mem_zipIdx hplace
    omega
  exact ⟨seedAt?_eq_some g ht hi c, ht.modify i i _⟩

/-- **The guarded recognizer fills the table.** -/
theorem table?_eq_some (g : Grammar) (word : Text) :
    table? g.rows word = some (g.filled word) := by
  obtain ⟨hseed, hsquare⟩ := seed?_eq_some g word
  rw [table?, hseed, Option.bind_some]
  have hfold : (List.range' 1 word.length).foldlM (fillLength? g.rows word) (g.seed word) =
      some ((List.range' 1 word.length).foldl (g.fillLength word) (g.seed word)) := by
    refine (foldlM_eq_some (P := (Table.IsSquare · word.length))
      (fun t ht length hlength => ?_) hsquare).1
    have hlength := List.mem_range'_1.1 hlength
    exact fillLength?_eq_some g ht hlength.1 (by omega)
  rw [hfold, Grammar.foldl_fillLength_eq_filledTo, Grammar.filled]

theorem start?_eq_some (g : Grammar) : start? g.rows = some g.start := by
  have hhead : g.rules.head? = some (g.rules.head g.rules_ne_nil) := List.head?_eq_some_head _
  rw [start?, Grammar.rows, List.head?_map, hhead]
  rfl

theorem mem_epsilonRules {a : Symbol} :
    a ∈ g.rules.filterMap Rule.epsilon? ↔ Rule.epsilon a ∈ g.rules := by
  rw [List.mem_filterMap]
  constructor
  · rintro ⟨r, hr, ha⟩
    cases r <;> cases ha
    exact hr
  · exact fun h => ⟨_, h, rfl⟩

theorem hasEpsilonStartRule?_eq_some (g : Grammar) :
    any? (fun row => row.head?.map (· == g.start)) (withRhsLength g.rows 0) =
      some g.hasEpsilonStartRule := by
  have htest : ∀ row ∈ withRhsLength g.rows 0,
      row.head?.map (· == g.start) = some (row == [g.start]) := by
    rw [withRhsLength_zero]
    intro row hrow
    obtain ⟨a, -, rfl⟩ := List.mem_map.1 hrow
    simp
  rw [any?_eq_some htest, withRhsLength_zero, List.any_map, Grammar.hasEpsilonStartRule]
  refine congrArg some (Bool.eq_iff_iff.2 ?_)
  rw [List.any_eq_true, decide_eq_true_iff, ← mem_epsilonRules]
  constructor
  · rintro ⟨a, ha, hstart⟩
    cases eq_of_beq hstart
    exact ha
  · exact fun h => ⟨g.start, h, beq_self_eq_true _⟩

/-- **The guarded recognizer comes to the verdict.** -/
theorem accepts?_eq_some (g : Grammar) (word : Text) :
    accepts? g.rows word = some (g.verdict word) := by
  rw [accepts?, start?_eq_some, Option.bind_some]
  cases word with
  | nil => exact hasEpsilonStartRule?_eq_some g
  | cons c word =>
    have hlast : ((c :: word).length : Int) - 1 = ((c :: word).length - 1 : Nat) := by simp
    simp only [table?_eq_some, Option.bind_some]
    exact holds?_eq_some (Grammar.isSquare_filledTo g (c :: word) _) (Nat.zero_le _)
      (Nat.sub_lt (Nat.succ_pos _) Nat.one_pos) g.start rfl hlast

end Guarded

/-- **Recognition never leaves its table.**  For every grammar and every word, the guarded recognizer comes
to a table and to a verdict, and they are those of the recognizer: no cell is asked for that is not there
or lies below the diagonal, each row has the length it is taken apart at, and closing a cell ends.  The
table is a square; its cells below the diagonal are empty, and the others hold left-hand sides of rules
with one or two symbols. -/
theorem recognition_stays_in_table (g : Grammar) (word : Text) (clock : Clock) :
    (∀ rows form, Grammar.ofRows rows form = .ok g → g.rows = rows) ∧
    ∃ t isIn, Guarded.table? g.rows word = some t ∧ g.table word none clock = .ok t ∧
      Guarded.accepts? g.rows word = some isIn ∧ g.accepts word none clock = .ok isIn ∧
      t.IsSquare word.length ∧ (∀ i j, j < i → t.get i j = []) ∧
      ∀ i j, ∀ a ∈ t.get i j,
        ∃ r ∈ g.rules, r.lhs = a ∧ (r.rhs.length = 1 ∨ r.rhs.length = 2) := by
  refine ⟨fun rows form h => (Grammar.rows_ofRows h).1, g.filled word, g.verdict word, ?_⟩
  refine ⟨Guarded.table?_eq_some g word, Grammar.table_none g word clock,
    Guarded.accepts?_eq_some g word, Grammar.accepts_none g word clock,
    Grammar.isSquare_filledTo g word _, fun i j hij => ?_, fun i j a => ?_⟩
  · exact Grammar.get_filled_eq_nil (by omega)
  · exact Grammar.exists_rule_of_mem_filled

end Chart
