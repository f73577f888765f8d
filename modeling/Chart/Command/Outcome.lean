import Chart.Config.Setting
import Chart.Files.Basic
import Chart.Grammar.Validation

/-!
# Command/Outcome — how a run ends

A run writes to two channels and ends with an **exit code**, or with a failure that no command
reports.

* `Failure` — what can go wrong; whether it is caught and reported is for the commands to say.
* `Outcome` — the texts and the end of a run; `Outcome.done`, `Outcome.failed` — the usual ends.
* `LogRecord` — a line of the log, which goes to the second channel if its level is high enough.
* `Log` — the log of a process, which stays with the run that opened it.
-/

namespace Chart

/-- **What can go wrong.**  A failure that is not caught ends a run without a report. -/
inductive Failure where
  /-- A grammar file cannot be read. -/
  | grammarFile (path : Text) (fault : FileFault)
  /-- A text is no grammar. -/
  | invalidGrammar (e : GrammarError)
  /-- A result that a command does not know what to do with. -/
  | unexpectedResult (f : Failure)
  /-- The bytes of a file are no text. -/
  | notUtf8
  /-- A path holds a null character. -/
  | nullCharacter
  /-- A setting, or nothing, names no normal form. -/
  | unknownNormalForm (s : Option Setting)
  /-- A default names no level of the log. -/
  | unknownLogLevel
  /-- A default that should be a path is none. -/
  | notAPath
  /-- A default that should be a path is a negative number. -/
  | negativeStream
  /-- A default that should be a path is the number of a stream that is not open. -/
  | closedStream
  /-- There is nothing where a setting is needed. -/
  | noSetting
  /-- A file cannot be written. -/
  | cannotWrite (fault : FileFault) (path : Text)
  deriving DecidableEq

/-- The words on a grammar file that cannot be read.  The path is named as it was given, and once more as
it was followed. -/
def Failure.unreadable (path : Text) (fault : FileFault) : Text :=
  "could not read grammar file ".toList ++ path ++ " (".toList ++
    fault.message (Path.normalised path) ++ [')']

/-- The words of a failure, if it has some. -/
def Failure.message? : Failure → Option Text
  | grammarFile path fault => some (unreadable path fault)
  | invalidGrammar e => some e.message
  | unexpectedResult f =>
    f.message?.map fun words => "Unexpected result <Failure: ".toList ++ words ++ ['>']
  | nullCharacter => some "embedded null byte".toList
  | unknownNormalForm s =>
    some ((s.map Setting.quoted).getD "[]".toList ++ " is not a valid NormalForm".toList)
  | cannotWrite fault path => some (fault.message path)
  | negativeStream => some "negative file descriptor".toList
  | closedStream => some "[Errno 9] Bad file descriptor".toList
  | notUtf8 | unknownLogLevel | notAPath | noSetting => none

/-- The end of a run. -/
inductive Ending where
  | exit (code : Nat)
  | failure (f : Failure)
  deriving DecidableEq

/-- **What a run leaves**: the texts on both channels and its end. -/
structure Outcome where
  stdout : Text
  stderr : Text
  ending : Ending
  deriving DecidableEq

namespace Outcome

/-- A text with a line break behind it. -/
def line (t : Text) : Text := t ++ ['\n']

/-- A run that ends well with a line of text. -/
def done (stdout : Text) : Outcome := ⟨line stdout, [], .exit 0⟩

/-- A run that ends with a report. -/
def failed (code : Nat) (report : Text) : Outcome := ⟨[], line report, .exit code⟩

/-- A run that ends with a failure. -/
def raised (f : Failure) : Outcome := ⟨[], [], .failure f⟩

/-- The outcome with a text before all else on the second channel. -/
def afterStderr (stderr : Text) (o : Outcome) : Outcome := { o with stderr := stderr ++ o.stderr }

end Outcome

/-! ## The log -/

/-- The levels of the log. -/
inductive LogLevel where
  | error
  | warning
  | info
  | debug
  deriving DecidableEq

namespace LogLevel

/-- The name of a level. -/
def name : LogLevel → Text
  | error => "ERROR".toList
  | warning => "WARNING".toList
  | info => "INFO".toList
  | debug => "DEBUG".toList

/-- The levels, the most important one first. -/
def all : List LogLevel := [error, warning, info, debug]

/-- The level of a name. -/
def ofName? (t : Text) : Option LogLevel := all.find? (·.name == t)

/-- **The level that a setting names.** -/
def ofSetting : Option Setting → Except Failure LogLevel
  | none => .error .noSetting
  | some (.text t) =>
    match ofName? t with
    | some level => .ok level
    | none => .error .unknownLogLevel
  | some _ => .error .unknownLogLevel

/-- The rank of a level: the more important, the lower. -/
def rank : LogLevel → Nat
  | error => 0
  | warning => 1
  | info => 2
  | debug => 3

end LogLevel

/-- A line of the log: its level, the part of the program it is from, and what it says. -/
structure LogRecord where
  level : LogLevel
  source : Text
  message : Text

namespace LogRecord

/-- The text of a record. -/
def toText (r : LogRecord) : Text :=
  Outcome.line (r.level.name ++ ":cyk.".toList ++ r.source ++ ':' :: r.message)

/-- **The text of a log** at a level: the records that are at least as important. -/
def log (level : LogLevel) (records : List LogRecord) : Text :=
  (records.filter fun r => r.level.rank ≤ level.rank).flatMap toText

end LogRecord

/-- The outcome of a run that wrote records on its own second channel before all else there. -/
def Outcome.logged (level : LogLevel) (records : List LogRecord) (o : Outcome) : Outcome :=
  o.afterStderr (LogRecord.log level records)

/-- **The log of a process.**  The run that opens it gives it its level and its own second channel, for good:
what is logged afterwards goes there too, whoever logs it. -/
structure Log where
  level : LogLevel
  /-- What the channel got since that run. -/
  later : Text

/-- The log after more records. -/
def Log.add (log : Log) (records : List LogRecord) : Log :=
  { log with later := log.later ++ LogRecord.log log.level records }

end Chart
