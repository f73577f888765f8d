import Chart.Grammar.Basic
import Chart.Table.Closure

/-!
# Table/Filling — the membership table of a word

Cell `(i, j)` collects the symbols that the characters `i` to `j` of a word can be derived from,
**shorter spans first**.  A symbol on a right-hand side is read in two ways at once: as an entry of a
cell, and as the literal text it is.

* `Table.splits` — whether two symbols cover a span: both as entries, one of them literally at an end
  of the span, or both literally.
* `Grammar.fillCell` — one cell: each binary rule in turn adds its left-hand side to the cell, which
  the next rules already see, and then the cell is closed under the unit rules.
* `Grammar.table` — the whole table, or the length at which time ran out.
-/

namespace Chart

/-- The characters `i` to `j` of a word, ends included. -/
def Text.slice (word : Text) (i j : Nat) : Text := (word.drop i).take (j + 1 - i)

/-- **Whether the symbols `x` and `y` cover the span from `i` to `j`**, by the entries of a table whose
cells for shorter spans are filled. -/
def Table.splits (t : Table) (word : Text) (x y : Symbol) (i j : Nat) : Bool :=
  (List.range' i (j - i)).any (fun k => decide (x ∈ t.get i k ∧ y ∈ t.get (k + 1) j)) ||
  (x.isPrefixOf (word.slice i j) && decide (i + x.length ≤ j ∧ y ∈ t.get (i + x.length) j)) ||
  (y.isSuffixOf (word.slice i j) && decide (i + y.length ≤ j ∧ x ∈ t.get i (j - y.length))) ||
  word.slice i j == x ++ y

/-- The readings of a clock, in seconds: reading `0` is taken before the first length, reading `n`
before length `n`. -/
abbrev Clock := Nat → Rat

/-- The length of the spans that were not begun in time. -/
structure TimedOut where
  /-- The length of the spans. -/
  length : Nat
  deriving DecidableEq

/-- Whether more time than the limit has passed when spans of a length are begun. -/
def isLate (limit : Option Rat) (clock : Clock) (length : Nat) : Bool :=
  match limit with
  | none => false
  | some seconds => decide (seconds < clock length - clock 0)

namespace Grammar

/-- The left-hand sides of the unit rules whose symbol is one character. -/
def preterminals (g : Grammar) (c : Char) : List Symbol :=
  (g.unitRules.filter fun r => r.2 == [c]).map Prod.fst

/-- The table before the first length: the diagonal holds what stands for a single character. -/
def seed (g : Grammar) (word : Text) : Table :=
  word.zipIdx.foldl (fun t (c, i) => t.modify i i (·.union (g.preterminals c)))
    (Table.empty word.length)

/-- The table with a rule's left-hand side added to cell `(i, j)`, if its symbols cover the span. -/
def applyBinary (word : Text) (i j : Nat) (t : Table) (r : Symbol × Symbol × Symbol) : Table :=
  if t.splits word r.2.1 r.2.2 i j then t.insert i j r.1 else t

/-- The table with cell `(i, j)` filled: the binary rules in order, then the unit rules. -/
def fillCell (g : Grammar) (word : Text) (t : Table) (i j : Nat) : Table :=
  (g.binaryRules.foldl (applyBinary word i j) t).modify i j (·.close g.unitRules)

/-- The table with all cells for spans of a length filled, from left to right. -/
def fillLength (g : Grammar) (word : Text) (t : Table) (length : Nat) : Table :=
  (List.range (word.length + 1 - length)).foldl
    (fun t i => g.fillCell word t i (i + length - 1)) t

/-- The table with the given lengths filled, in order, unless one of them is begun too late. -/
def fillLengths (g : Grammar) (word : Text) (late : Nat → Bool) :
    List Nat → Table → Except TimedOut Table
  | [], t => .ok t
  | length :: rest, t =>
    if late length then .error ⟨length⟩
    else fillLengths g word late rest (g.fillLength word t length)

/-- The lengths of the spans of a word. -/
def lengths (word : Text) : List Nat := List.range' 1 word.length

/-- **The membership table of a word**, if it can be filled within the limit. -/
def table (g : Grammar) (word : Text) (limit : Option Rat) (clock : Clock) :
    Except TimedOut Table :=
  g.fillLengths word (isLate limit clock) (lengths word) (g.seed word)

/-- Whether the table of a word that is not empty says that the start variable derives it. -/
def startsIn (g : Grammar) (word : Text) (t : Table) : Bool :=
  decide (g.start ∈ t.get 0 (word.length - 1))

/-- **Whether a word is in the language of a grammar.**  The empty word has no table: it is in the
language if the start variable may stand for nothing. -/
def accepts (g : Grammar) (word : Text) (limit : Option Rat) (clock : Clock) :
    Except TimedOut Bool :=
  match word with
  | [] => .ok g.hasEpsilonStartRule
  | _ => (g.table word limit clock).map (g.startsIn word)

end Grammar

end Chart
