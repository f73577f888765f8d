import Chart.CommandLine.Help
import Chart.CommandLine.Scan
import Chart.Command.Outcome
import Chart.Number.Numeral

/-!
# CommandLine/Invocation — what a command line asks for

The occurrences that a scan found are read **in their order**, so the first flag that asks for help or
has a bad argument decides; only then the end of the scan counts, then the defaults of the flags that
did not occur, then the slots that were not filled, and last the arguments left over.

* `Invocation.ofArguments` — the command that arguments ask for, with all its settings, or the outcome
  of a command line that asks for none.
* `Timeout.ofSetting?` — how the setting of a time limit is understood.

A flag whose argument is two hyphens is set to **nothing**, which is no setting; only the command finds
out whether it needs one.
-/

namespace Chart

/-! ## Time limits -/

/-- **A time limit**: how it is shown, and the seconds it grants, unless it grants all the time. -/
structure Timeout where
  shown : Text
  limit : Option Rat

namespace Timeout

/-- Seconds as a limit: negative ones are none. -/
def limit? (seconds : Rat) : Option Rat := if 0 ≤ seconds then some seconds else none

/-- The time limit of a double; what is not finite is none. -/
def ofBinary64 (x : Binary64) : Timeout := ⟨x.toText, x.toRat?.bind limit?⟩

/-- **The time limit that a setting means**, unless it is a text that is no numeral. -/
def ofSetting? : Setting → Option Timeout
  | .text t => (Binary64.read? t).map ofBinary64
  | .integer n => some ⟨(Setting.integer n).toText, limit? n⟩
  | .float x => some (ofBinary64 x)
  | .flag b => some ⟨(Setting.flag b).toText, limit? (if b then 1 else 0)⟩

end Timeout

/-! ## Requests -/

/-- The settings of `check`; some of them may be nothing. -/
structure CheckSettings where
  grammarFile : Text
  input : Text
  normalForm : Option Setting
  lineCheck : Bool
  printTable : Bool
  timeout : Option Timeout

/-- The settings of `show`; some of them may be nothing. -/
structure ShowSettings where
  grammarFile : Text
  normalForm : Option Setting
  format : Option Setting

/-- **A command with its settings.** -/
inductive Request where
  | check (s : CheckSettings)
  | automaton (input : Text)
  | show (s : ShowSettings)
  | dumpConfig (outputFile : Option Setting)

/-- What a command line asks for: a command and the level of its log, which fails the command unless its
setting names one, or the version of the program. -/
inductive Invocation where
  | version
  | run (request : Request) (logLevel : Except Failure LogLevel)

/-! ## Assignments -/

/-- Why the reading of a command line stops. -/
inductive Stop where
  | help
  | usage (e : UsageError)

/-- The settings of the flags and the texts of the slots that occurred, the last ones first. -/
structure Assigned where
  flags : List (Flag × Option Setting)
  slots : List (Slot × Text)

namespace Assigned

/-- The setting that an argument is to a flag. -/
def ofArgument (flag : Flag) (argument : Text) : Except UsageError Setting :=
  match flag.choices? with
  | some choices =>
    if argument ∈ choices then .ok (.text argument)
    else .error (.invalidChoice flag.title argument choices)
  | none =>
    if flag = .timeout then
      match Binary64.read? argument with
      | some x => .ok (.float x)
      | none => .error (.invalidNumber flag argument)
    else .ok (.text argument)

/-- **What a flag was set to**; two hyphens set it to nothing. -/
def setting (flag : Flag) (name : Text) (argument : Option Text) :
    Except UsageError (Option Setting) :=
  match argument with
  | none => .ok (some (.flag (!("--no-".toList.isPrefixOf name))))
  | some argument =>
    if argument = "--".toList then .ok none else (ofArgument flag argument).map some

/-- The assignments after one more occurrence; a slot without arguments keeps the empty text. -/
def add (a : Assigned) : Occurrence → Except Stop Assigned
  | .flag .help _ _ => .error .help
  | .flag flag name argument =>
    match setting flag name argument with
    | .error e => .error (.usage e)
    | .ok s => .ok { a with flags := (flag, s) :: a.flags }
  | .slot slot arguments => .ok { a with slots := (slot, arguments.headD []) :: a.slots }

/-- The assignments of several occurrences, unless one of them stops the reading. -/
def addAll (a : Assigned) : List Occurrence → Except Stop Assigned
  | [] => .ok a
  | o :: rest =>
    match a.add o with
    | .error stop => .error stop
    | .ok a => a.addAll rest

/-- The setting of a flag, if it is not nothing: the one given last, else the default. -/
def get (a : Assigned) (command : Command) (d : Defaults) (flag : Flag) : Option Setting :=
  (a.flags.lookup flag).getD (command.default? d flag)

/-- Whether a flag switches something on. -/
def isOn (a : Assigned) (command : Command) (d : Defaults) (flag : Flag) : Bool :=
  (a.get command d flag).any Setting.isOn

/-- The time limit that is set, if it is not nothing, or the setting that is none. -/
def timeout (a : Assigned) (command : Command) (d : Defaults) : Except Setting (Option Timeout) :=
  match a.get command d .timeout with
  | none => .ok none
  | some s =>
    match Timeout.ofSetting? s with
    | none => .error s
    | some timeout => .ok (some timeout)

/-- The level of the log of a command; a command without one shows warnings. -/
def logLevel (a : Assigned) (command : Command) (d : Defaults) : Except Failure LogLevel :=
  if .logLevel ∈ command.flags then LogLevel.ofSetting (a.get command d .logLevel) else .ok .warning

/-- The text of a slot. -/
def slot (a : Assigned) (s : Slot) : Text := (a.slots.lookup s).getD []

/-- **The command with its settings.**  A default that is no time limit is reported before a slot that
is missing. -/
def toRequest (a : Assigned) (command : Command) (d : Defaults) : Except Stop Request :=
  match command with
  | .check =>
    match a.timeout command d with
    | .error s => .error (.usage (.invalidNumber .timeout s.toText))
    | .ok timeout =>
      match a.slots.lookup .grammarFile with
      | none => .error (.usage (.missingSlot .grammarFile))
      | some grammarFile => .ok <| .check
        { grammarFile := grammarFile
          input := a.slot .input
          normalForm := a.get command d .normalForm
          lineCheck := a.isOn command d .lineCheck
          printTable := a.isOn command d .printTable
          timeout := timeout }
  | .automaton => .ok (.automaton (a.slot .input))
  | .show =>
    match a.slots.lookup .grammarFile with
    | none => .error (.usage (.missingSlot .grammarFile))
    | some grammarFile => .ok <| .show
      { grammarFile := grammarFile
        normalForm := a.get command d .normalForm
        format := a.get command d .format }
  | .dumpConfig => .ok (.dumpConfig (a.get command d .outputFile))

end Assigned

/-! ## Commands -/

namespace Command

/-- The command that arguments behind its name ask for, the level of its log, and the arguments left
over. -/
def request (command : Command) (d : Defaults) (arguments : List Text) :
    Except Stop (Request × Except Failure LogLevel × List Text) :=
  let scan := Scan.ofArguments command.flags command.slots arguments
  match Assigned.addAll ⟨[], []⟩ scan.occurrences with
  | .error stop => .error stop
  | .ok a =>
    match scan.ending with
    | .error e => .error (.usage e)
    | .ok leftOver =>
      match a.toRequest command d with
      | .error stop => .error stop
      | .ok request => .ok (request, a.logLevel command d, leftOver)

/-- The outcome of a command whose arguments stop the reading. -/
def stopped (command : Command) (d : Defaults) : Stop → Outcome
  | .help => ⟨Help.ofCommand d command, [], .exit 0⟩
  | .usage e =>
    ⟨[], Help.unlines (Help.usage command ++
      ["cyk ".toList ++ command.name ++ ": error: ".toList ++ e.message]), .exit 2⟩

end Command

/-! ## The program -/

namespace Invocation

/-- The outcome of a program whose arguments stop the reading. -/
def stopped : Stop → Outcome
  | .help => ⟨Help.ofProgram, [], .exit 0⟩
  | .usage e =>
    ⟨[], Help.unlines (Help.programUsage ++ ["cyk: error: ".toList ++ e.message]), .exit 2⟩

/-- The outcome of a command line that asks for nothing. -/
def nothing : Outcome :=
  ⟨[], Help.unlines (Help.programUsage ++
    [("cyk: error: You have to choose a global option or one of the commands " ++
      "`check`, `automaton`, `show`, or `dump-config`").toList]), .exit 2⟩

/-- What the program was asked for so far. -/
structure Asked where
  version : Bool
  request : Option (Request × Except Failure LogLevel)
  leftOver : List Text

/-- What was asked for after one more occurrence, or the outcome of one that stops the reading. -/
def ask (d : Defaults) (a : Asked) : Occurrence → Except Outcome Asked
  | .flag .version _ _ => .ok { a with version := true }
  | .flag _ _ _ => .error (stopped .help)
  | .slot _ [] => .ok a
  | .slot _ (name :: arguments) =>
    match Command.ofName? name with
    | none => .error <| stopped <| .usage <|
        .invalidChoice Slot.command.title name (Command.all.map Command.name)
    | some command =>
      match command.request d arguments with
      | .error stop => .error (command.stopped d stop)
      | .ok (request, logLevel, leftOver) =>
        .ok { a with request := some (request, logLevel), leftOver := leftOver }

/-- What was asked for by several occurrences. -/
def askAll (d : Defaults) (a : Asked) : List Occurrence → Except Outcome Asked
  | [] => .ok a
  | o :: rest =>
    match ask d a o with
    | .error outcome => .error outcome
    | .ok a => askAll d a rest

/-- **What a command line asks for**, or its outcome if it asks for nothing that could be run.  The
version comes before any command. -/
def ofArguments (d : Defaults) (arguments : List Text) : Except Outcome Invocation :=
  let scan := Scan.ofArguments [.help, .version] [.command] arguments
  match askAll d ⟨false, none, []⟩ scan.occurrences with
  | .error outcome => .error outcome
  | .ok asked =>
    match scan.ending with
    | .error e => .error (stopped (.usage e))
    | .ok leftOver =>
      match leftOver ++ asked.leftOver with
      | [] =>
        if asked.version then .ok version
        else
          match asked.request with
          | some (request, logLevel) => .ok (run request logLevel)
          | none => .error nothing
      | leftOver => .error (stopped (.usage (.unrecognized leftOver)))

end Invocation

end Chart
