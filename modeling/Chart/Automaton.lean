import Chart.Text.Basic

/-!
# Automaton — deterministic finite automata

An automaton reads a word from left to right and moves from state to state; it accepts by its last
state.  States are integers, and **a move may be undefined**.

* `Automaton.run?` — the state after a word, if every move on the way is defined.
* `doubleA` — the automaton that accepts the words in which no two `a` stand next to each other.
-/

namespace Chart

/-- **A deterministic finite automaton**, possibly with moves left out. -/
structure Automaton where
  /-- The state before the first character. -/
  initial : Int
  /-- The state after a character. -/
  next? : Int → Char → Option Int
  /-- The accepting states. -/
  isFinal : Int → Bool

namespace Automaton

/-- The state that a word leads to from a given state. -/
def runFrom? (m : Automaton) : Int → Text → Option Int
  | state, [] => some state
  | state, c :: rest =>
    match m.next? state c with
    | none => none
    | some state => runFrom? m state rest

/-- **The state after a word**, if no move is undefined. -/
def run? (m : Automaton) (word : Text) : Option Int := m.runFrom? m.initial word

/-- Whether the state after a word is accepting. -/
def accepts? (m : Automaton) (word : Text) : Option Bool := (m.run? word).map m.isFinal

/-- The automaton of a list of moves; where none is listed the default state follows, if there is
one.  Of two moves for the same state and character the later one holds. -/
def ofMoves (initial : Int) (moves : List ((Int × Char) × Int)) (default? : Option Int)
    (finals : List Int) : Automaton where
  initial := initial
  next? state c := (moves.reverse.lookup (state, c)).or default?
  isFinal state := finals.contains state

end Automaton

/-- The moves of `doubleA`: state `0` after a character that is no `a`, state `1` after a single `a`,
and every other state leads to state `2`, which is never left.  A letter is a text, and only the text
`a` is an `a`. -/
def doubleAStep (state : Int) (letter : Text) : Int :=
  if state = 0 then if letter = ['a'] then 1 else 0
  else if state = 1 then if letter = ['a'] then 2 else 0
  else 2

/-- **The automaton of the words without two consecutive `a`.** -/
def doubleA : Automaton where
  initial := 0
  next? state c := some (doubleAStep state [c])
  isFinal state := decide (state = 0 ∨ state = 1)

/-- The alphabet of `doubleA`. -/
def isOverAB (word : Text) : Bool := word.all fun c => c == 'a' || c == 'b'

end Chart
