import Chart.Grammar.Rule

/-!
# Table/Basic — cells and tables

A **cell** is a set of symbols, kept as a list without repetitions; a **table** is a square of cells.
Cell `(i, j)` speaks about the characters `i` to `j` of a word, ends included, so only the cells with
`i ≤ j` are ever filled.

* `Table.ofRows?` — the table that rows of cells are, if no row is too short.
* `Table.get`, `Table.modify` — outside the square there are only empty cells, and a change there
  changes nothing.
* `Table.toText` — one line for each cell that is not empty, by row and column.
-/

namespace Chart

/-- A set of symbols, as a list without repetitions. -/
abbrev Cell := List Symbol

namespace Cell

/-- The cell with symbols added. -/
def union (cell : Cell) (symbols : List Symbol) : Cell :=
  symbols.foldl (fun cell a => cell.insert a) cell

theorem mem_union {a : Symbol} : ∀ {symbols : List Symbol} {cell : Cell},
    a ∈ union cell symbols ↔ a ∈ cell ∨ a ∈ symbols
  | [], cell => by simp [union]
  | b :: symbols, cell => by
    have h : union cell (b :: symbols) = union (cell.insert b) symbols := rfl
    rw [h, mem_union, List.mem_insert_iff, List.mem_cons]
    constructor
    · rintro ((h | h) | h) <;> simp [h]
    · rintro (h | h | h) <;> simp [h]

/-- The cell of a list of symbols. -/
def ofList (symbols : List Symbol) : Cell := union [] symbols

end Cell

/-- **A square of cells**, row by row. -/
structure Table where
  /-- The rows. -/
  rows : Array (Array Cell)

namespace Table

/-- The number of rows. -/
def size (t : Table) : Nat := t.rows.size

/-- The table of rows of cells, if every row is as long as there are rows; further cells are cut. -/
def ofRows? (rows : List (List Cell)) : Option Table :=
  if rows.all fun row => decide (rows.length ≤ row.length) then
    some ⟨(rows.map fun row => (row.take rows.length).toArray).toArray⟩
  else none

/-- The square of `n` rows and columns whose cells are empty. -/
def empty (n : Nat) : Table := ⟨Array.replicate n (Array.replicate n [])⟩

/-- Cell `(i, j)`. -/
def get (t : Table) (i j : Nat) : Cell := (t.rows.getD i #[]).getD j []

/-- The table with cell `(i, j)` changed by `f`. -/
def modify (t : Table) (i j : Nat) (f : Cell → Cell) : Table :=
  ⟨t.rows.modify i fun row => row.modify j f⟩

/-- The table with a symbol added to cell `(i, j)`. -/
def insert (t : Table) (i j : Nat) (a : Symbol) : Table := t.modify i j (·.insert a)

/-- The line of cell `(i, j)`: its symbols by code point. -/
def cellLine (i j : Nat) (cell : Cell) : Text :=
  '[' :: Text.ofNat i ++ ',' :: Text.ofNat j ++ "]: ".toList ++
    ", ".toList.intercalate (Text.sorted cell)

/-- The positions on and above the diagonal of a square of `n` rows, row by row. -/
def positions (n : Nat) : List (Nat × Nat) :=
  (List.range n).flatMap fun i => (List.range' i (n - i)).map fun j => (i, j)

/-- **The text of a table**: a line for each cell on or above the diagonal that is not empty. -/
def toText (t : Table) : Text :=
  ['\n'].intercalate <| (positions t.size).filterMap fun (i, j) =>
    match t.get i j with
    | [] => none
    | cell => some (cellLine i j cell)

end Table

end Chart
