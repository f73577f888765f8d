import Mathlib.Data.List.Basic
import Mathlib.Data.Prod.Lex
import Chart.Proofs.Grammar.Parsed
import Chart.Proofs.Table.Printed
import Chart.Proofs.Text.Order

/-!
# Proofs/Table/Rendering — the text of a table loses nothing

A symbol may look like the line of a cell, or be empty; what it cannot hold in the table of a grammar that was
parsed are a comma and a line break.  So the text of a table is taken apart at its line feeds, and a line at
its commas: the first piece ends in one numeral, the second begins with the other one and goes on with the
first symbol, and each further piece is a space and a symbol.

* `cellLine_inj` — the line of a cell that is not empty tells its position and its symbols.
* `pairwise_listed` — the lines stand in increasing order of their positions.
* `Table.IsLegible` — the tables whose symbols keep lines and names apart; `isLegible_of_table`.
* `IsLegible.splitOn_toText` — cutting the text at its line feeds gives the lines.
* `text_loses_nothing` — legible tables have the same text exactly if they have the same cells.
-/

namespace Chart

/-! ## Numerals -/

namespace Text

/-- **A numeral tells its number.** -/
theorem ofNat_injective : Function.Injective ofNat := fun m n h => by
  rw [← Nat.ofDigitChars_ten_toDigits (n := m), ← Nat.ofDigitChars_ten_toDigits (n := n)]
  exact congrArg (Nat.ofDigitChars 10 · 0) h

theorem isDigit_of_mem_ofNat {n : Nat} {c : Char} (hc : c ∈ ofNat n) : c.isDigit = true :=
  Nat.isDigit_of_mem_toDigits (by decide) (by decide) hc

end Text

/-- **A cell that can be read back from its line**: a set of symbols that hold neither what stands between
symbols nor what stands between lines. -/
structure Cell.IsLegible (cell : Cell) : Prop where
  /-- It is a set. -/
  nodup : cell.Nodup
  /-- No symbol holds a comma. -/
  no_comma : ∀ a ∈ cell, ',' ∉ a
  /-- No symbol holds a line feed. -/
  no_feed : ∀ a ∈ cell, '\n' ∉ a

instance : DecidablePred Cell.IsLegible := fun cell =>
  decidable_of_iff (cell.Nodup ∧ (∀ a ∈ cell, ',' ∉ a) ∧ ∀ a ∈ cell, '\n' ∉ a)
    ⟨fun ⟨hnodup, hcomma, hfeed⟩ => ⟨hnodup, hcomma, hfeed⟩, fun h => ⟨h.nodup, h.no_comma, h.no_feed⟩⟩

theorem Cell.isLegible_nil : Cell.IsLegible [] := by decide

namespace Table

open Text

variable {t u : Table} {i j i' j' n : Nat} {cell cell' : Cell} {a : Symbol} {names : List Symbol}

/-! ## The line of a cell -/

/-- The line of a cell between its commas. -/
def cellPieces (i j : Nat) (a : Symbol) (names : List Symbol) : List Text :=
  ('[' :: ofNat i) :: (ofNat j ++ ("]: ".toList ++ a)) :: names.map (' ' :: ·)

theorem cellLine_eq (hcell : sorted cell = a :: names) :
    cellLine i j cell = [','].intercalate (cellPieces i j a names) := by
  have hnames := intercalate_cons ',' [' '] a names
  rw [cellLine, hcell]
  rw [cellPieces, intercalate_cons_cons, intercalate_append_cons, intercalate_append_cons]
  simpa using hnames

/-- A character is in no piece of a line if it is no sign, no digit and in no symbol of the cell. -/
theorem not_mem_cellPieces {c : Char} (hsign : c ∉ ['[', ']', ':', ' ']) (hdigit : c.isDigit = false)
    (hnames : ∀ b ∈ a :: names, c ∉ b) : ∀ piece ∈ cellPieces i j a names, c ∉ piece := by
  have hnumeral : ∀ k, c ∉ ofNat k := fun k hc =>
    Bool.false_ne_true (hdigit.symm.trans (isDigit_of_mem_ofNat hc))
  have hclose : c ∉ "]: ".toList := fun hc => hsign (List.mem_cons_of_mem '[' hc)
  intro piece hpiece hc
  rw [cellPieces, List.mem_cons, List.mem_cons, List.mem_map] at hpiece
  rcases hpiece with rfl | rfl | ⟨b, hb, rfl⟩
  · rcases List.mem_cons.1 hc with rfl | hc
    · exact hsign List.mem_cons_self
    · exact hnumeral i hc
  · rcases List.mem_append.1 hc with hc | hc
    · exact hnumeral j hc
    · rcases List.mem_append.1 hc with hc | hc
      · exact hclose hc
      · exact hnames a List.mem_cons_self hc
  · rcases List.mem_cons.1 hc with rfl | hc
    · exact hsign (by simp)
    · exact hnames b (List.mem_cons_of_mem a hb) hc

theorem splitOn_cellLine (h : cell.IsLegible) (hcell : sorted cell = a :: names) :
    (cellLine i j cell).splitOn ',' = cellPieces i j a names := by
  have hnames : ∀ b ∈ a :: names, ',' ∉ b := fun b hb => h.no_comma b (mem_sorted.1 (hcell ▸ hb))
  rw [cellLine_eq hcell]
  exact List.splitOn_intercalate ',' (not_mem_cellPieces (by decide) rfl hnames) (List.cons_ne_nil _ _)

theorem exists_sorted_eq_cons (hne : cell ≠ []) : ∃ a names, sorted cell = a :: names := by
  refine List.exists_cons_of_ne_nil fun hnil => hne ?_
  exact List.eq_nil_of_length_eq_zero (by rw [← length_sorted, hnil, List.length_nil])

theorem feed_not_mem_cellLine (h : cell.IsLegible) (hne : cell ≠ []) : '\n' ∉ cellLine i j cell := by
  obtain ⟨a, names, hcell⟩ := exists_sorted_eq_cons hne
  have hnames : ∀ b ∈ a :: names, '\n' ∉ b := fun b hb => h.no_feed b (mem_sorted.1 (hcell ▸ hb))
  rw [cellLine_eq hcell]
  exact not_mem_intercalate (by decide) (not_mem_cellPieces (by decide) rfl hnames)

/-- **The line of a cell that is not empty tells its position and its symbols.** -/
theorem cellLine_inj (h : cell.IsLegible) (h' : cell'.IsLegible) (hne : cell ≠ []) (hne' : cell' ≠ [])
    (heq : cellLine i j cell = cellLine i' j' cell') : i = i' ∧ j = j' ∧ sorted cell = sorted cell' := by
  obtain ⟨a, names, hcell⟩ := exists_sorted_eq_cons hne
  obtain ⟨a', names', hcell'⟩ := exists_sorted_eq_cons hne'
  have hpieces : cellPieces i j a names = cellPieces i' j' a' names' := by
    rw [← splitOn_cellLine h hcell, heq, splitOn_cellLine h' hcell']
  obtain ⟨hrow, hrest⟩ := List.cons.inj hpieces
  obtain ⟨hsecond, hothers⟩ := List.cons.inj hrest
  -- the second numeral ends where the digits do
  have hspan : ∀ k (b : Symbol), (ofNat k ++ ("]: ".toList ++ b)).span Char.isDigit =
      (ofNat k, "]: ".toList ++ b) := fun k b =>
    span_append_cons (fun _ => isDigit_of_mem_ofNat) rfl
  obtain ⟨hcolumn, hfirst⟩ := Prod.mk.inj ((hspan j a).symm.trans (hsecond ▸ hspan j' a'))
  obtain rfl := ofNat_injective (List.cons.inj hrow).2
  obtain rfl := ofNat_injective hcolumn
  obtain rfl := List.append_cancel_left hfirst
  obtain rfl := List.map_injective_iff.2 (List.cons_injective (a := ' ')) hothers
  exact ⟨rfl, rfl, hcell.trans hcell'.symm⟩

/-- With commas in its symbols a cell would be taken for another one. -/
example : cellLine 0 0 [['A', ',', ' ', 'B']] = cellLine 0 0 [['B'], ['A']] := by cbv

/-! ## The lines -/

/-- Positions go row by row, and through each row from left to right. -/
theorem pairwise_positions (n : Nat) : (positions n).Pairwise (Prod.Lex (· < ·) (· < ·)) := by
  rw [positions, List.pairwise_flatMap]
  constructor
  · intro i _
    rw [List.pairwise_map]
    exact (List.pairwise_lt_range' 1).imp fun hlt => Prod.Lex.right i hlt
  · refine List.pairwise_lt_range.imp fun hlt p hp q hq => ?_
    obtain ⟨j, -, rfl⟩ := List.mem_map.1 hp
    obtain ⟨j', -, rfl⟩ := List.mem_map.1 hq
    exact Prod.Lex.left j j' hlt

theorem pairwise_listed (t : Table) : t.listed.Pairwise (Prod.Lex (· < ·) (· < ·)) :=
  (pairwise_positions t.size).filter _

/-! ## Legible tables -/

/-- **A square of `n` rows that can be read back from its text**: only cells of spans hold symbols, and
every cell can be read back from its line. -/
structure IsLegible (t : Table) (n : Nat) : Prop where
  /-- It is a square of `n` rows. -/
  isSquare : t.IsSquare n
  /-- The cells below the diagonal are empty. -/
  get_eq_nil : ∀ i j, j < i → t.get i j = []
  /-- The others can be read back. -/
  isLegible_get : ∀ i j, (t.get i j).IsLegible

/-- Whether a square is legible is decided cell by cell. -/
theorem isLegible_of_cells (h : t.IsSquare n)
    (hcells : ∀ i < n, ∀ j < n, (j < i → t.get i j = []) ∧ (t.get i j).IsLegible) : t.IsLegible n := by
  have hall : ∀ i j, (j < i → t.get i j = []) ∧ (t.get i j).IsLegible := by
    intro i j
    by_cases hin : i < n ∧ j < n
    · exact hcells i hin.1 j hin.2
    · rw [h.get_eq_nil (by omega)]
      exact ⟨fun _ => rfl, Cell.isLegible_nil⟩
  exact ⟨h, fun i j => (hall i j).1, fun i j => (hall i j).2⟩

/-- **The membership tables of a grammar that was parsed are legible**, whatever the word, the time limit and
the clock. -/
theorem isLegible_of_table {text : Text} {form : NormalForm} {g : Grammar} {word : Text}
    {limit : Option Rat} {clock : Clock} (hg : Grammar.parse text form = .ok g)
    (h : g.table word limit clock = .ok t) : t.IsLegible word.length := by
  obtain rfl := Grammar.eq_filled_of_table h
  refine ⟨Grammar.isSquare_filled g word, fun i j hij => Grammar.get_filled_eq_nil (by omega), fun i j => ?_⟩
  have htoken : ∀ a ∈ (g.filled word).get i j, Row.IsToken a := by
    intro a ha
    obtain ⟨r, hr, rfl, -⟩ := Grammar.exists_rule_of_mem_filled ha
    exact Grammar.hasTokens_of_parse hg r hr r.lhs List.mem_cons_self
  exact {
    nodup := Grammar.nodup_get_filled g word i j
    no_comma := fun a ha => (htoken a ha).no_comma
    no_feed := fun a ha hfeed => Bool.false_ne_true ((htoken a ha).no_break _ hfeed).symm }

namespace IsLegible

/-- In a legible table every cell that is not empty has a line. -/
theorem mem_listed_iff (h : t.IsLegible n) : (i, j) ∈ t.listed ↔ t.get i j ≠ [] := by
  have hsize : t.size = n := h.isSquare.size_rows
  rw [mem_listed, hsize, and_iff_right_iff_imp]
  intro hcell
  by_contra hspan
  rcases Nat.lt_or_ge j i with hlt | hge
  · exact hcell (h.get_eq_nil i j hlt)
  · exact hcell (h.isSquare.get_eq_nil (Or.inr (by omega)))

/-- **Cutting the text at its line feeds gives the lines**, if there are any. -/
theorem splitOn_toText (h : t.IsLegible n) (hne : t.listed ≠ []) :
    t.toText.splitOn '\n' = t.listed.map t.lineAt := by
  rw [toText_eq]
  refine List.splitOn_intercalate '\n' (fun line hline => ?_) (mt List.map_eq_nil_iff.1 hne)
  obtain ⟨⟨i, j⟩, hp, rfl⟩ := List.mem_map.1 hline
  exact feed_not_mem_cellLine (h.isLegible_get i j) (h.mem_listed_iff.1 hp)

/-- Tables with the same text have the same lines. -/
theorem lines_eq (ht : t.IsLegible n) (hu : u.IsLegible n) (h : t.toText = u.toText) :
    t.listed.map t.lineAt = u.listed.map u.lineAt := by
  have hnil : t.listed = [] ↔ u.listed = [] := by
    rw [← toText_eq_nil_iff_listed, h, toText_eq_nil_iff_listed]
  by_cases ht' : t.listed = []
  · rw [ht', hnil.1 ht', List.map_nil, List.map_nil]
  · rw [← ht.splitOn_toText ht', h, hu.splitOn_toText (mt hnil.2 ht')]

/-- **A cell stands in every legible table of the same text.** -/
theorem subset_of_toText_eq (ht : t.IsLegible n) (hu : u.IsLegible n) (h : t.toText = u.toText) :
    t.get i j ⊆ u.get i j := by
  intro a ha
  have hcell : t.get i j ≠ [] := List.ne_nil_of_mem ha
  have hline : t.lineAt (i, j) ∈ u.listed.map u.lineAt :=
    ht.lines_eq hu h ▸ List.mem_map_of_mem (ht.mem_listed_iff.2 hcell)
  obtain ⟨⟨i', j'⟩, hp, heq⟩ := List.mem_map.1 hline
  obtain ⟨rfl, rfl, hsorted⟩ := cellLine_inj (hu.isLegible_get i' j') (ht.isLegible_get i j)
    (hu.mem_listed_iff.1 hp) hcell heq
  rw [← mem_sorted, hsorted, mem_sorted]
  exact ha

/-- **Tables with the same cells have the same text**, in whatever order the cells list their symbols. -/
theorem toText_eq_of_mem_iff (ht : t.IsLegible n) (hu : u.IsLegible n)
    (h : ∀ i j a, a ∈ t.get i j ↔ a ∈ u.get i j) : t.toText = u.toText := by
  have hsize : t.size = u.size := ht.isSquare.size_rows.trans hu.isSquare.size_rows.symm
  have hempty : ∀ i j, t.get i j = [] ↔ u.get i j = [] := fun i j => by
    rw [List.eq_nil_iff_forall_not_mem, List.eq_nil_iff_forall_not_mem]
    exact forall_congr' fun a => not_congr (h i j a)
  have hlisted : t.listed = u.listed := by
    rw [listed, listed, hsize]
    exact List.filter_congr fun p _ => decide_eq_decide.2 (not_congr (hempty p.1 p.2))
  have hline : t.lineAt = u.lineAt := funext fun p => by
    have hnodup := (ht.isLegible_get p.1 p.2).nodup
    have hnodup' := (hu.isLegible_get p.1 p.2).nodup
    rw [lineAt, lineAt, cellLine, cellLine, (sorted_eq_sorted_iff hnodup hnodup').2 (h p.1 p.2)]
  rw [toText_eq, toText_eq, hlisted, hline]

end IsLegible

/-- **The text of a table loses nothing.**  Two legible tables of as many rows have the same text exactly if
each cell of the one holds the symbols of that cell of the other, so the empty text stands for empty cells
alone.  The text is made up of a line for each cell that is not empty, by row and column, and cutting it at
its line feeds gives these lines.  Every membership table of a grammar that was parsed is legible. -/
theorem text_loses_nothing (ht : t.IsLegible n) (hu : u.IsLegible n) :
    (t.toText = u.toText ↔ ∀ i j a, a ∈ t.get i j ↔ a ∈ u.get i j) ∧
    (t.toText = [] ↔ ∀ i j, t.get i j = []) ∧
    (∃ listed : List (Nat × Nat), listed.Pairwise (Prod.Lex (· < ·) (· < ·)) ∧
      (∀ i j, (i, j) ∈ listed ↔ t.get i j ≠ []) ∧
      t.toText = ['\n'].intercalate (listed.map fun p => cellLine p.1 p.2 (t.get p.1 p.2)) ∧
      (listed ≠ [] → t.toText.splitOn '\n' = listed.map fun p => cellLine p.1 p.2 (t.get p.1 p.2))) ∧
    ∀ text form g word limit clock t', Grammar.parse text form = .ok g →
      g.table word limit clock = .ok t' → t'.IsLegible word.length := by
  refine ⟨⟨fun h i j a => ?_, fun h => ?_⟩, ?_, ⟨t.listed, pairwise_listed t, fun i j => ?_, ?_, ?_⟩, ?_⟩
  · exact ⟨fun ha => ht.subset_of_toText_eq hu h ha, fun ha => hu.subset_of_toText_eq ht h.symm ha⟩
  · exact ht.toText_eq_of_mem_iff hu h
  · rw [toText_eq_nil_iff_listed, List.eq_nil_iff_forall_not_mem, Prod.forall]
    exact forall₂_congr fun i j => by rw [ht.mem_listed_iff, not_not]
  · exact ht.mem_listed_iff
  · exact toText_eq t
  · exact ht.splitOn_toText
  · exact fun _ _ _ _ _ _ _ => isLegible_of_table

/-! ### Symbols that look like lines -/

/-- Two rows of cells, one of which holds what looks like the position of a line and one a symbol that begins
with a space. -/
def lookalike (last : Cell) : Table :=
  ⟨#[#[[['A'], [' ', 'B']], [['0', ']', ':', ' ', 'A']]], #[[], last]]⟩

theorem isSquare_lookalike (last : Cell) : (lookalike last).IsSquare 2 where
  size_rows := rfl
  size_row := by simp [lookalike]

/-- A cell that holds the empty symbol alone is not taken for an empty one. -/
theorem text_loses_nothing_of_lookalike :
    ((lookalike [[]]).IsLegible 2 ∧ (lookalike []).IsLegible 2) ∧
      (lookalike [[]]).toText ≠ (lookalike []).toText ∧ (lookalike []).toText ≠ [] := by
  have ht : (lookalike [[]]).IsLegible 2 := isLegible_of_cells (isSquare_lookalike _) (by decide)
  have hu : (lookalike []).IsLegible 2 := isLegible_of_cells (isSquare_lookalike _) (by decide)
  refine ⟨⟨ht, hu⟩, fun h => ?_, fun h => ?_⟩
  · exact absurd ((text_loses_nothing ht hu).1.1 h 1 1 []) (by decide)
  · exact absurd ((text_loses_nothing hu ht).2.1.1 h 0 0) (by decide)

end Table

end Chart
