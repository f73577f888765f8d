import Chart.Grammar.Basic
import Chart.Text.Lines

/-!
# Grammar/Format — the line format of grammars

One rule a line, `L:X,Y`.  Reading is lenient: `:` and `,` separate alike, the token `e` and nothing
at all both mean **an absent symbol**, and blank lines are skipped.  Writing has one form: two slots on
the right of every rule, absent symbols written `e`.

* `Grammar.parse` — the grammar of a text, or its first fault.
* `Grammar.toText` — the text of a grammar.
* `Grammar.summary` — a form for the eye, which is not read back.
-/

namespace Chart

/-- The token for an absent symbol. -/
def absent : Symbol := ['e']

namespace Row

/-- The characters between the symbols of a line. -/
def isSeparator (c : Char) : Bool := c == ':' || c == ','

/-- **The row a line writes**: its pieces between separators, without the absent ones. -/
def parse (line : Text) : Except GrammarError Row :=
  match ((line.strip).pieces isSeparator).filter fun piece => piece != [] && piece != absent with
  | [] => .error .emptyRule
  | row => .ok row

/-- The rows of the lines, or the fault of the first line without one. -/
def parseEach : List Text → Except GrammarError (List Row)
  | [] => .ok []
  | line :: rest =>
    match parse line with
    | .error fault => .error fault
    | .ok row => (parseEach rest).map (row :: ·)

/-- The rows of a text, one for each line that is not blank. -/
def parseAll (text : Text) : Except GrammarError (List Row) :=
  parseEach (text.lines.filter fun line => line.strip != [])

end Row

namespace Rule

/-- **The line of a rule**, with two slots on the right. -/
def toLine (r : Rule) : Text :=
  r.lhs ++ ':' :: [','].intercalate (r.rhs ++ List.replicate (2 - r.rhs.length) absent)

/-- The line of a rule in the summary of a grammar: the right-hand side is quoted, `}{` stands between
its symbols. -/
def toSummaryLine (r : Rule) : Text :=
  r.lhs ++ " -> '".toList ++ "\x7d\x7b".toList.intercalate r.rhs ++ ['\x27']

end Rule

namespace Grammar

/-- **The grammar of a text.**  A line that is no rule is reported before any fault of the list. -/
def parse (text : Text) (form : NormalForm) : Except GrammarError Grammar :=
  match Row.parseAll text with
  | .error fault => .error fault
  | .ok rows => ofRows rows form

/-- **The text of a grammar**, one line a rule. -/
def toText (g : Grammar) : Text := ['\n'].intercalate (g.rules.map Rule.toLine)

/-- The start variable, then one line a rule. -/
def summary (g : Grammar) : Text :=
  g.start ++ '\n' :: ['\n'].intercalate (g.rules.map Rule.toSummaryLine)

end Grammar

end Chart
