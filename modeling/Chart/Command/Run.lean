import Chart.Automaton
import Chart.Command.Check
import Chart.Command.Show
import Chart.Config.Snapshots

/-!
# Command/Run — running a command line

A run reads the configuration, understands its arguments and carries out the command.  It may read one
file and write one; **nothing else of the file system matters**.

* `Request.runIn` — a command on a file system, in a process that has a log or none; `Request.run` — in a
  process of its own.
* `CommandLine.runIn` — a whole command line, which leaves a file system, the snapshots of the
  configuration and the log of the process; `CommandLine.run` — in a process without a log.

How documents are read is left open: a run is given a reader of documents.
-/

namespace Chart

/-! ## Commands -/

/-- **The outcome of the automaton**: only words over its alphabet are answered. -/
def DoubleA.run (input : Text) : Outcome :=
  if isOverAB input then .done (Check.answer (doubleA.accepts? input == some true))
  else ⟨Outcome.line "Only expected a or b.".toList, [], .exit 1⟩

namespace DumpConfig

/-- Where the bundled configuration goes. -/
inductive Target where
  | stdout
  | file (path : Text)
  /-- What was given as a path is none. -/
  | refused (f : Failure)
  deriving DecidableEq

/-- Why a number is no path.  A number of 32 bits that is not one of the three usual streams is taken for
a stream that is not open. -/
def streamFailure (n : Int) : Failure :=
  if -0x80000000 ≤ n ∧ n < 0 then .negativeStream
  else if 2 < n ∧ n < 0x80000000 then .closedStream
  else .notAPath

/-- The target that a setting names; a setting that is not on names none. -/
def target : Option Setting → Target
  | none => .stdout
  | some s =>
    if s.isOn then
      match s with
      | .text path => .file path
      | .integer n => .refused (streamFailure n)
      | .float _ | .flag _ => .refused .notAPath
    else .stdout

/-- The outcome of writing to a file. -/
def written (path : Text) : Except FileFault Unit → Outcome
  | .ok () => ⟨[], [], .exit 0⟩
  | .error fault => .raised (.cannotWrite fault path)

/-- **The outcome of the command**, and the file system after it. -/
def run (outputFile : Option Setting) (fs : FileSystem) : Outcome × FileSystem :=
  match target outputFile with
  | .stdout => (.done Bundled.config, fs)
  | .refused f => (.raised f, fs)
  | .file path =>
    if '\x00' ∈ path then (.raised .nullCharacter, fs)
    else
      match fs.write path (Text.toUtf8 Bundled.config) with
      | .ok fs => (written path (.ok ()), fs)
      | .error fault => (written path (.error fault), fs)

end DumpConfig

namespace Request

/-- **What a command logs, its outcome** but for the log, and the file system after it. -/
def act (request : Request) (clock : Clock) (fs : FileSystem) :
    (List LogRecord × Outcome) × FileSystem :=
  match request with
  | .check s => (Check.act s clock (fs.readText s.grammarFile), fs)
  | .show s => (Show.act s (fs.readText s.grammarFile), fs)
  | .automaton input => (([], DoubleA.run input), fs)
  | .dumpConfig outputFile =>
    let (o, fs) := DumpConfig.run outputFile fs
    (([], o), fs)

/-- Whether a command sets up the log. -/
def opensLog : Request → Bool
  | .check _ | .show _ | .automaton _ => true
  | .dumpConfig _ => false

/-- **A command on a file system, in a process that may have a log.**  Only the first command that sets up
the log has its way; what the others log goes where the first one did, at its level. -/
def runIn (request : Request) (log : Option Log) (level : LogLevel) (clock : Clock) (fs : FileSystem) :
    Outcome × FileSystem × Option Log :=
  let ((records, o), fs) := request.act clock fs
  match log with
  | some log => (o, fs, some (log.add records))
  | none =>
    if request.opensLog then (o.logged level records, fs, some ⟨level, []⟩) else (o, fs, none)

/-- **A command on a file system**, in a process of its own. -/
def run (request : Request) (level : LogLevel) (clock : Clock) (fs : FileSystem) :
    Outcome × FileSystem :=
  let (o, fs, _) := request.runIn none level clock fs
  (o, fs)

end Request

/-! ## Command lines -/

/-- The name of configuration files. -/
def ConfigFiles.fileName : Text := ".cykrc".toList

/-- The configuration files of a file system; what is no regular file does not count. -/
def FileSystem.configFiles (fs : FileSystem) : ConfigFiles where
  work := fs.fileAt? (FileSystem.work ++ [ConfigFiles.fileName])
  home := fs.fileAt? (FileSystem.home ++ [ConfigFiles.fileName])

namespace CommandLine

/-- The outcome of a program whose configuration cannot be read. -/
def unconfigured (program : Text) : ConfigFault → Outcome
  | .notUtf8 => .raised .notUtf8
  | .bad e =>
    .failed 1 (program ++ ": error: could not load .cykrc (".toList ++ e.message ++ [')'])

/-- The program as its first argument makes it known: a flag says nothing about it. -/
def program : List Text → Text
  | [] | ('-' :: _) :: _ => "cyk".toList
  | argument :: _ => "cyk ".toList ++ argument

/-- The version of the program. -/
def versionText : Text := "cyk version 0.1.0".toList

/-- **What is to be run under given defaults**: a command at a level of the log, or nothing more than
an outcome. -/
def plan (d : Defaults) (arguments : List Text) : Except Outcome (Request × LogLevel) :=
  match Invocation.ofArguments d arguments with
  | .error o => .error o
  | .ok .version => .error (.done versionText)
  | .ok (.run request (.ok level)) => .ok (request, level)
  | .ok (.run _ (.error f)) => .error (.raised f)

/-- The defaults for a command line, or the outcome without them, and the snapshots after it.  The
configuration is read at start-up, and again when the defaults of the commands are looked up, those of
`check` first. -/
def defaults (reader : DocumentReader) (snapshots : Snapshots) (files : ConfigFiles)
    (arguments : List Text) : Except Outcome Defaults × Snapshots :=
  match snapshots.ask reader .startUp files with
  | (.error fault, snapshots) => (.error (unconfigured (program arguments) fault), snapshots)
  | (.ok _, snapshots) =>
    match snapshots.ask reader (.defaults none) files with
    | (.error fault, snapshots) => (.error (unconfigured (program [Check.name]) fault), snapshots)
    | (.ok d, snapshots) => (.ok d, snapshots)

/-- **A whole command line, in a process that may have a log.** -/
def runIn (reader : DocumentReader) (snapshots : Snapshots) (log : Option Log) (clock : Clock)
    (arguments : List Text) (fs : FileSystem) : Outcome × FileSystem × Snapshots × Option Log :=
  match defaults reader snapshots fs.configFiles arguments with
  | (.error o, snapshots) => (o, fs, snapshots, log)
  | (.ok d, snapshots) =>
    match plan d arguments with
    | .error o => (o, fs, snapshots, log)
    | .ok (request, level) =>
      let (o, fs, log) := request.runIn log level clock fs
      (o, fs, snapshots, log)

/-- **A whole command line**, in a process without a log. -/
def run (reader : DocumentReader) (snapshots : Snapshots) (clock : Clock) (arguments : List Text)
    (fs : FileSystem) : Outcome × FileSystem × Snapshots :=
  let (o, fs, snapshots, _) := runIn reader snapshots none clock arguments fs
  (o, fs, snapshots)

end CommandLine

end Chart
