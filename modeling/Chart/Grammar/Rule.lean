import Chart.Text.Basic

/-!
# Grammar/Rule — symbols, rows and rules

A **row** is a rule as it is written: the left-hand side, then the right-hand side, of any length.  A
**rule** is a row that a table can be filled with: nothing, one symbol or two on the right.

* `Rule.ofRow?` — the rule a row writes, and `Rule.symbols` — the row of a rule; `ofRow?_eq_some_iff`
  says that they are inverse.
* `Row.groups` — the rows of each right-hand side length, in their order.
-/

namespace Chart

/-- Variables and terminals alike are texts; which is which is decided by the grammar. -/
abbrev Symbol := Text

/-- A rule as it is written: the left-hand side and the symbols of the right-hand side. -/
abbrev Row := List Symbol

namespace Row

/-- The right-hand side of a row; the empty row has an empty one. -/
def rhs (row : Row) : List Symbol := row.drop 1

/-- The left-hand side and the first symbol on the right, if a row has both. -/
def sides? : Row → Option (Symbol × Symbol)
  | a :: x :: _ => some (a, x)
  | _ => none

/-- A rule in readable form; an empty right-hand side is shown as `ε`. -/
def arrow (lhs : Symbol) (rhs : List Symbol) : Text :=
  [' '].intercalate (lhs :: "->".toList :: if rhs.isEmpty then ["ε".toList] else rhs)

/-- The readable form of a row that has a left-hand side. -/
def arrow? : Row → Option Text
  | [] => none
  | lhs :: rhs => some (arrow lhs rhs)

/-- The rows of each right-hand side length that occurs, by increasing length. -/
def groups (rows : List Row) : List (Nat × List Row) :=
  let lengths := (rows.map (·.rhs.length)).eraseDups.mergeSort fun a b => decide (a ≤ b)
  lengths.map fun length => (length, rows.filter (·.rhs.length == length))

end Row

/-- **A rule with at most two symbols on its right-hand side.** -/
inductive Rule where
  /-- `lhs → ε` -/
  | epsilon (lhs : Symbol)
  /-- `lhs → x` -/
  | unit (lhs x : Symbol)
  /-- `lhs → x y` -/
  | binary (lhs x y : Symbol)
  deriving DecidableEq

namespace Rule

/-- The left-hand side. -/
def lhs : Rule → Symbol
  | epsilon a | unit a _ | binary a _ _ => a

/-- The symbols of the right-hand side. -/
def rhs : Rule → List Symbol
  | epsilon _ => []
  | unit _ x => [x]
  | binary _ x y => [x, y]

/-- The row that writes a rule. -/
def symbols (r : Rule) : Row := r.lhs :: r.rhs

/-- The rule that a row of one, two or three symbols writes. -/
def ofRow? : Row → Option Rule
  | [a] => some (epsilon a)
  | [a, x] => some (unit a x)
  | [a, x, y] => some (binary a x y)
  | _ => none

/-- The left-hand side and the symbol of a rule with one symbol on its right. -/
def unit? : Rule → Option (Symbol × Symbol)
  | unit a x => some (a, x)
  | _ => none

/-- The left-hand side and the symbols of a rule with two symbols on its right. -/
def binary? : Rule → Option (Symbol × Symbol × Symbol)
  | binary a x y => some (a, x, y)
  | _ => none

@[simp] theorem ofRow?_symbols (r : Rule) : ofRow? r.symbols = some r := by
  cases r <;> rfl

/-- **A row writes a rule exactly if it is the row of that rule.** -/
theorem ofRow?_eq_some_iff {row : Row} {r : Rule} : ofRow? row = some r ↔ row = r.symbols := by
  refine ⟨fun h => ?_, fun h => h ▸ ofRow?_symbols r⟩
  match row, h with
  | [_], h => cases h; rfl
  | [_, _], h => cases h; rfl
  | [_, _, _], h => cases h; rfl

/-- A row writes a rule unless it is empty or has more than two symbols on its right. -/
theorem exists_ofRow? {row : Row} (hne : row ≠ []) (hlen : row.rhs.length ≤ 2) :
    ∃ r, ofRow? row = some r := by
  match row, hne, hlen with
  | [a], _, _ => exact ⟨epsilon a, rfl⟩
  | [a, x], _, _ => exact ⟨unit a x, rfl⟩
  | [a, x, y], _, _ => exact ⟨binary a x y, rfl⟩
  | _ :: _ :: _ :: _ :: _, _, h => simp [Row.rhs] at h

@[simp] theorem rhs_symbols (r : Rule) : r.symbols.rhs = r.rhs := rfl

theorem length_rhs_le (r : Rule) : r.rhs.length ≤ 2 := by cases r <;> simp [rhs]

end Rule

end Chart
