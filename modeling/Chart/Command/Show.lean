import Chart.Command.Loading
import Chart.CommandLine.Invocation

/-!
# Command/Show — the command that shows a grammar

The command reads a grammar file and prints the grammar, as a text that can be read again or as a
summary.  **The normal form is judged before the file is opened.**

* `Show.act` — the log and the outcome for what is read from the grammar file; `Show.run` — the outcome of
  a run that logs for itself.
-/

namespace Chart.Show

/-- The name of the command in reports. -/
def name : Text := Command.show.name

/-- A grammar in a format; every format but `text` is a summary. -/
def display (format : Option Setting) (g : Grammar) : Text :=
  if format = some (.text "text".toList) then g.toText else g.summary

/-- The outcome for a result of loading. -/
def conclude (s : ShowSettings) (result : Result Grammar) : Outcome :=
  match Loading.grammarOrExit name result with
  | .error o => o
  | .ok g => .done (display s.format g)

/-- The log and the outcome, once the normal form is known. -/
def load (s : ShowSettings) (form : NormalForm) (read : ReadResult) : List LogRecord × Outcome :=
  match Loading.loadGrammar s.grammarFile read form with
  | (records, .error f) => (records, .raised f)
  | (records, .ok result) => (records, conclude s result)

/-- **What the command logs, and its outcome**, the log apart. -/
def act (s : ShowSettings) (read : ReadResult) : List LogRecord × Outcome :=
  match Loading.normalForm s.normalForm with
  | .error f => ([], .raised f)
  | .ok form => load s form read

/-- The outcome of the command in a run that logs for itself. -/
def run (s : ShowSettings) (level : LogLevel) (read : ReadResult) : Outcome :=
  (act s read).2.logged level (act s read).1

end Chart.Show
