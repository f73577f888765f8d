import Chart.Command.Loading
import Chart.CommandLine.Invocation
import Chart.Grammar.LinePattern
import Chart.Table.Filling

/-!
# Command/Check — the command that checks a word

The command reads a grammar file, checks its lines if it is asked to, builds the grammar and says
whether the word is in its language.  **A malformed line is an answer, `NO`**, and not an error.

* `Check.prepare` — everything before the table: a grammar and a time limit, or the outcome without
  them.
* `Check.tabulate`, `Check.judge` — the two ways to a verdict, with the table in print and without.
* `Check.act` — the log and the outcome for what is read from the grammar file and a clock; `Check.run` —
  the outcome of a run that logs for itself.
-/

namespace Chart.Check

/-- The name of the command in reports. -/
def name : Text := Command.check.name

/-- The record of a malformed line. -/
def malformed (number : Nat) (line : Text) : LogRecord where
  level := .info
  source := "loader".toList
  message := "Malformed grammar line ".toList ++ Text.ofNat number ++ ": ".toList ++ line.quoted

/-- The record of a table. -/
def filled (word : Text) (t : Table) : LogRecord where
  level := .debug
  source := "recognizer".toList
  message := "Membership table for ".toList ++ word.quoted ++ ":\n".toList ++ t.toText

/-- The record of spans that were begun too late. -/
def late (t : TimedOut) : LogRecord where
  level := .debug
  source := "recognizer".toList
  message := "TIMEOUT at substring length ".toList ++ Text.ofNat t.length

/-- The answer. -/
def answer (isIn : Bool) : Text := if isIn then "YES".toList else "NO".toList

/-- The grammar of a result and the time limit. -/
def withTimeout (s : CheckSettings) (result : Result Grammar) : Except Outcome (Grammar × Timeout) :=
  match Loading.grammarOrExit name result with
  | .error o => .error o
  | .ok g =>
    match s.timeout with
    | none => .error (.raised .noSetting)
    | some timeout => .ok (g, timeout)

/-- The grammar of a text that passed the line check, and the time limit. -/
def build (s : CheckSettings) (text : Text) :
    List LogRecord × Except Outcome (Grammar × Timeout) :=
  match Loading.normalForm s.normalForm with
  | .error f => ([], .error (.raised f))
  | .ok form =>
    match Loading.grammarFromText text form with
    | (records, .error f) => (records, .error (.raised f))
    | (records, .ok result) => (records, withTimeout s result)

/-- **Everything before the table**: the log so far, and a grammar with a time limit or the outcome
without them.  The command reads the file itself, since the lines are checked before the text is parsed, so
it reports a file that cannot be read itself, too. -/
def prepare (s : CheckSettings) (read : ReadResult) :
    List LogRecord × Except Outcome (Grammar × Timeout) :=
  match Loading.readGrammarFile s.grammarFile read with
  | .error (.grammarFile path fault) =>
    ([], .error (.failed 1 (Loading.report name (Failure.unreadable path fault))))
  | .error f => ([], .error (.raised f))
  | .ok text =>
    match if s.lineCheck then LinePattern.firstMalformed? text else none with
    | some (number, line) => ([malformed number line], .error (.done (answer false)))
    | none => build s text

/-- What is printed of a table: its text as a paragraph of its own, or nothing if it has none. -/
def printed (t : Table) : Text :=
  match t.toText with
  | [] => []
  | text => Outcome.line text

/-- **The table of a word in print, and the verdict read off it.** -/
def tabulate (g : Grammar) (word : Text) :
    Except TimedOut Table → List LogRecord × Except TimedOut (Text × Bool)
  | .error t => ([late t], .error t)
  | .ok t => ([], .ok (printed t, g.startsIn word t))

/-- **The verdict on a word alone**, as `Grammar.accepts` gives it: the empty word needs no table.  A table
that is not printed is logged. -/
def judge (g : Grammar) (word : Text) (result : Except TimedOut Table) :
    List LogRecord × Except TimedOut Bool :=
  match word with
  | [] => ([], .ok g.hasEpsilonStartRule)
  | word =>
    match result with
    | .error t => ([late t], .error t)
    | .ok t => ([filled word t], .ok (g.startsIn word t))

/-- The outcome for a verdict and what is printed before it. -/
def conclude (timeout : Timeout) : Except TimedOut (Text × Bool) → Outcome
  | .error _ =>
    .failed 1 (Loading.report name
      ("timeout after ".toList ++ timeout.shown ++ " seconds".toList))
  | .ok (before, isIn) => ⟨before ++ Outcome.line (answer isIn), [], .exit 0⟩

/-- The outcome for the table of the word, if it could be filled in time.  Only the table of a word that
is not empty is printed. -/
def recognise (s : CheckSettings) (timeout : Timeout) (g : Grammar) (result : Except TimedOut Table) :
    List LogRecord × Outcome :=
  if s.printTable && !s.input.isEmpty then
    let (records, verdict) := tabulate g s.input result
    (records, conclude timeout verdict)
  else
    let (records, verdict) := judge g s.input result
    (records, conclude timeout (verdict.map fun isIn => ([], isIn)))

/-- **What the command logs, and its outcome**, the log apart. -/
def act (s : CheckSettings) (clock : Clock) (read : ReadResult) : List LogRecord × Outcome :=
  match prepare s read with
  | (records, .error o) => (records, o)
  | (records, .ok (g, timeout)) =>
    let (more, o) := recognise s timeout g (g.table s.input timeout.limit clock)
    (records ++ more, o)

/-- The outcome of the command in a run that logs for itself. -/
def run (s : CheckSettings) (level : LogLevel) (clock : Clock) (read : ReadResult) : Outcome :=
  (act s clock read).2.logged level (act s clock read).1

end Chart.Check
