import Chart.Text.Lines

/-!
# Grammar/LinePattern — the strict line format

The strict format is `L:X,Y`: `L` is a **binary numeral**, a non-empty text of `0` and `1`; `X` is one
too, or the terminal `a` or `b`; `Y` may moreover be `e`, for no symbol.  Nothing is stripped, and only
the empty line is skipped.

* `LinePattern.accepts` — whether a line has the format.
* `LinePattern.firstMalformed?` — the first line of a text that has not, with its number.
-/

namespace Chart.LinePattern

/-- A non-empty text of `0` and `1`. -/
def isNumeral (t : Text) : Bool := !t.isEmpty && t.all fun c => c == '0' || c == '1'

/-- A numeral, or one of the terminals `a` and `b`. -/
def isFirstSlot (t : Text) : Bool := isNumeral t || t == ['a'] || t == ['b']

/-- A numeral, one of the terminals, or the token for no symbol. -/
def isSecondSlot (t : Text) : Bool := isFirstSlot t || t == ['e']

/-- **Whether a line has the form `L:X,Y`.** -/
def accepts (line : Text) : Bool :=
  match line.span (· != ':') with
  | (left, _ :: right) =>
    match right.span (· != ',') with
    | (first, _ :: second) => isNumeral left && isFirstSlot first && isSecondSlot second
    | (_, []) => false
  | (_, []) => false

/-- The first line at fault, numbered from `number`; empty lines count and are never at fault. -/
def firstMalformedFrom (number : Nat) : List Text → Option (Nat × Text)
  | [] => none
  | line :: rest =>
    if line.isEmpty || accepts line then firstMalformedFrom (number + 1) rest
    else some (number, line)

/-- The first malformed line of a text, with its number. -/
def firstMalformed? (text : Text) : Option (Nat × Text) := firstMalformedFrom 1 text.lines

/-- **Whether every line of a text is empty or has the strict format.** -/
def acceptsAll (text : Text) : Bool := (firstMalformed? text).isNone

end Chart.LinePattern
