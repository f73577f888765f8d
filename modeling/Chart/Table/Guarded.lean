import Chart.Table.Filling

/-!
# Table/Guarded — recognition that takes nothing for granted

A table answers for cells that it does not have, a rule knows how many symbols it has, and closing a cell
goes on for as long as it takes.  Here **nothing of this is taken for granted**: indexes are integers and
a cell must exist on or above the diagonal, rows are taken apart by their length, closing has a number of
rounds, and whatever fails leaves no result.  What is not asked, as the answer is known before, cannot
fail.

* `Guarded.cell?` — the only way to a cell; `Guarded.symbol?`, `Guarded.symbols?` — the only ways to the
  symbols of a row.
* `Guarded.splits?`, `Guarded.closeWithin?`, `Guarded.fillCell?` — the steps of the recognizer.
* `Guarded.table?`, `Guarded.accepts?` — the membership table and the verdict that the rows of a grammar
  give on a word.
-/

namespace Chart.Guarded

/-! ## Questions -/

/-- A question whose second part is only asked if the first one holds. -/
def both? (first second : Option Bool) : Option Bool :=
  match first with
  | some true => second
  | known => known

/-- A question whose second part is only asked if the first one fails. -/
def either? (first second : Option Bool) : Option Bool :=
  match first with
  | some false => second
  | known => known

/-- Whether some member of a list passes a test; those after it are not tested. -/
def any? {α : Type} (test : α → Option Bool) : List α → Option Bool
  | [] => some false
  | a :: rest => either? (test a) (any? test rest)

/-! ## Cells -/

/-- **Cell `(i, j)`**, if there is one and it is not below the diagonal. -/
def cell? (t : Table) (i j : Int) : Option Cell :=
  if 0 ≤ i ∧ i ≤ j then t.rows[i.toNat]?.bind fun row => row[j.toNat]? else none

/-- Whether cell `(i, j)` holds a symbol. -/
def holds? (t : Table) (i j : Int) (a : Symbol) : Option Bool :=
  (cell? t i j).map fun cell => decide (a ∈ cell)

/-- The table with what stands in cell `(i, j)` changed. -/
def modify? (t : Table) (i j : Int) (f : Cell → Option Cell) : Option Table :=
  (cell? t i j).bind fun cell =>
    (f cell).map fun changed => t.modify i.toNat j.toNat fun _ => changed

/-! ## Rows -/

/-- The one symbol of a right-hand side. -/
def symbol? : List Symbol → Option Symbol
  | [x] => some x
  | _ => none

/-- The two symbols of a right-hand side. -/
def symbols? : List Symbol → Option (Symbol × Symbol)
  | [x, y] => some (x, y)
  | _ => none

/-- The rows with the given number of symbols on their right-hand side. -/
def withRhsLength (rows : List Row) (length : Nat) : List Row :=
  rows.filter fun row => row.rhs.length == length

/-- The left-hand sides of the rows that pass a test. -/
def leftSides? (test : Row → Option Bool) : List Row → Option (List Symbol)
  | [] => some []
  | row :: rest =>
    (test row).bind fun passes =>
      if passes then row.head?.bind fun a => (leftSides? test rest).map (a :: ·)
      else leftSides? test rest

/-! ## Filling -/

/-- Whether the two symbols of a row cover the span from `i` to `j`. -/
def splits? (t : Table) (word : Text) (row : Row) (i j : Nat) : Option Bool :=
  (symbols? row.rhs).bind fun (x, y) =>
    either? (any? (fun k : Nat => both? (holds? t i k x) (holds? t (k + 1) j y))
      (List.range' i (j - i))) <|
    either? (both? (some (x.isPrefixOf (word.slice i j))) <|
      both? (some (decide ((i : Int) + x.length ≤ j))) (holds? t (i + x.length) j y)) <|
    either? (both? (some (y.isSuffixOf (word.slice i j))) <|
      both? (some (decide ((i : Int) ≤ j - y.length))) (holds? t i (j - y.length) x)) <|
    some (word.slice i j == x ++ y)

/-- The table with the left-hand side of a row added to cell `(i, j)`, if its symbols cover the span. -/
def applyBinary? (word : Text) (i j : Nat) (t : Table) (row : Row) : Option Table :=
  (splits? t word row i j).bind fun covers =>
    if covers then row.head?.bind fun a => modify? t i j fun cell => some (cell.insert a)
    else some t

/-- What one round of closing adds to a cell. -/
def missing? (rows : List Row) (cell : Cell) : Option (List Symbol) :=
  leftSides? (fun row => both? ((symbol? row.rhs).map fun x => decide (x ∈ cell))
    (row.head?.map fun a => decide (a ∉ cell))) rows

/-- **The closure of a cell**, if it is reached within a number of rounds. -/
def closeWithin? (rows : List Row) : Nat → Cell → Option Cell
  | 0, _ => none
  | rounds + 1, cell =>
    (missing? rows cell).bind fun
      | [] => some cell
      | a :: new => closeWithin? rows rounds (cell.union (a :: new))

/-- The table with cell `(i, j)` filled.  Closing has one round for each row, and a last one. -/
def fillCell? (rows : List Row) (word : Text) (t : Table) (i j : Nat) : Option Table :=
  ((withRhsLength rows 2).foldlM (applyBinary? word i j) t).bind fun t =>
    modify? t i j (closeWithin? (withRhsLength rows 1) ((withRhsLength rows 1).length + 1))

/-- The table with all cells for spans of a length filled, from left to right. -/
def fillLength? (rows : List Row) (word : Text) (t : Table) (length : Nat) : Option Table :=
  (List.range (word.length + 1 - length)).foldlM
    (fun t i => fillCell? rows word t i (i + length - 1)) t

/-- The table with what stands for a single character added to the diagonal. -/
def seedAt? (rows : List Row) (t : Table) : Char × Nat → Option Table
  | (c, i) => modify? t i i fun cell =>
      (leftSides? (fun row => (symbol? row.rhs).map (· == [c])) (withRhsLength rows 1)).map cell.union

/-- **The membership table of a word.** -/
def table? (rows : List Row) (word : Text) : Option Table :=
  (word.zipIdx.foldlM (seedAt? rows) (Table.empty word.length)).bind fun t =>
    (List.range' 1 word.length).foldlM (fillLength? rows word) t

/-- The left-hand side of the first row. -/
def start? (rows : List Row) : Option Symbol := rows.head?.bind List.head?

/-- **Whether a word is in the language of the grammar that rows write.** -/
def accepts? (rows : List Row) (word : Text) : Option Bool :=
  (start? rows).bind fun start =>
    match word with
    | [] => any? (fun row => row.head?.map (· == start)) (withRhsLength rows 0)
    | _ => (table? rows word).bind fun t => holds? t 0 (word.length - 1) start

end Chart.Guarded
