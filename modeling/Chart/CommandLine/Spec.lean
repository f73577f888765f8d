import Chart.Config.Setting

/-!
# CommandLine/Spec — commands and their arguments

A command has **slots**, filled by position, and **flags**, given by name.  A flag without an argument
switches something; the others take exactly one.  Every flag of a command that is no help flag has a
default, which the configuration may change.

* `Command.flags`, `Command.slots` — what a command takes.
* `UsageError.message` — what is reported about arguments that a command does not take.
-/

namespace Chart

/-- What is given by name. -/
inductive Flag where
  | help
  | version
  | normalForm
  | lineCheck
  | printTable
  | timeout
  | logLevel
  | format
  | outputFile
  deriving DecidableEq

/-- What is given by position. -/
inductive Slot where
  /-- The name of a command and all its arguments. -/
  | command
  | grammarFile
  | input
  deriving DecidableEq

/-- The commands. -/
inductive Command where
  | check
  | automaton
  | show
  | dumpConfig
  deriving DecidableEq

namespace Flag

/-- The spellings of a flag. -/
def names : Flag → List Text
  | help => ["-h".toList, "--help".toList]
  | version => ["-v".toList, "--version".toList]
  | normalForm => ["-n".toList, "--normal-form".toList]
  | lineCheck => ["--line-check".toList, "--no-line-check".toList]
  | printTable => ["--print-table".toList, "--no-print-table".toList]
  | timeout => ["-t".toList, "--timeout".toList]
  | logLevel => ["-l".toList, "--log-level".toList]
  | format => ["-f".toList, "--format".toList]
  | outputFile => ["-o".toList, "--output-file".toList]

/-- The name of a flag in the configuration. -/
def option : Flag → Text
  | help => "--help".toList
  | version => "--version".toList
  | normalForm => "--normal-form".toList
  | lineCheck => "--line-check".toList
  | printTable => "--print-table".toList
  | timeout => "--timeout".toList
  | logLevel => "--log-level".toList
  | format => "--format".toList
  | outputFile => "--output-file".toList

/-- The texts that a flag chooses from, if it does. -/
def choices? : Flag → Option (List Text)
  | normalForm => some ["2nf".toList, "cnf".toList]
  | logLevel => some ["ERROR".toList, "WARNING".toList, "INFO".toList, "DEBUG".toList]
  | format => some ["debug".toList, "text".toList]
  | _ => none

/-- How the argument of a flag is shown, if it takes one. -/
def argument? (flag : Flag) : Option Text :=
  match flag.choices? with
  | some choices => some ('\x7b' :: [','].intercalate choices ++ ['\x7d'])
  | none =>
    match flag with
    | timeout => some "TIMEOUT".toList
    | outputFile => some "OUTPUT_FILE".toList
    | _ => none

/-- Whether a flag takes an argument. -/
def takesArgument (flag : Flag) : Bool := flag.argument?.isSome

/-- The default of a flag where the configuration gives none. -/
def standard? : Flag → Option Setting
  | normalForm => some (.text "2nf".toList)
  | lineCheck => some (.flag true)
  | printTable => some (.flag false)
  | timeout => some (.float (.ofDecimal true 1 0))
  | logLevel => some (.text "WARNING".toList)
  | format => some (.text "debug".toList)
  | help | version | outputFile => none

/-- The name of a flag in reports: all its spellings. -/
def title (flag : Flag) : Text := ['/'].intercalate flag.names

end Flag

/-- The name of a slot in reports. -/
def Slot.title : Slot → Text
  | command => "command".toList
  | grammarFile => "GRAMMAR_FILE".toList
  | input => "INPUT".toList

namespace Command

/-- The name of a command. -/
def name : Command → Text
  | check => "check".toList
  | automaton => "automaton".toList
  | .show => "show".toList
  | dumpConfig => "dump-config".toList

/-- The commands in the order in which they are offered. -/
def all : List Command := [check, automaton, .show, dumpConfig]

/-- The command of a name. -/
def ofName? (t : Text) : Option Command := all.find? (·.name == t)

/-- **The flags of a command**, in the order in which they are listed. -/
def flags : Command → List Flag
  | check => [.help, .normalForm, .lineCheck, .printTable, .timeout, .logLevel]
  | automaton => [.help, .logLevel]
  | .show => [.help, .normalForm, .format, .logLevel]
  | dumpConfig => [.help, .outputFile]

/-- **The slots of a command**, in their order. -/
def slots : Command → List Slot
  | check => [.grammarFile, .input]
  | automaton => [.input]
  | .show => [.grammarFile]
  | dumpConfig => []

end Command

/-- Why arguments are refused. -/
inductive UsageError where
  /-- An abbreviated flag has several full spellings. -/
  | ambiguous (argument : Text) (names : List Text)
  /-- A flag that takes no argument was given one. -/
  | ignoredArgument (flag : Flag) (argument : Text)
  | missingArgument (flag : Flag)
  /-- An argument is none of the choices. -/
  | invalidChoice (title argument : Text) (choices : List Text)
  | invalidNumber (flag : Flag) (argument : Text)
  | missingSlot (slot : Slot)
  /-- Arguments were left over. -/
  | unrecognized (arguments : List Text)
  deriving DecidableEq

/-- The report on an argument with a title. -/
def UsageError.about (title message : Text) : Text :=
  "argument ".toList ++ title ++ ": ".toList ++ message

/-- **The report on refused arguments.** -/
def UsageError.message : UsageError → Text
  | ambiguous argument names =>
    "ambiguous option: ".toList ++ argument ++ " could match ".toList ++
      ", ".toList.intercalate names
  | ignoredArgument flag argument =>
    about flag.title ("ignored explicit argument ".toList ++ argument.quoted)
  | missingArgument flag => about flag.title "expected one argument".toList
  | invalidChoice title argument choices =>
    about title ("invalid choice: ".toList ++ argument.quoted ++ " (choose from ".toList ++
      ", ".toList.intercalate (choices.map Text.quoted) ++ [')'])
  | invalidNumber flag argument =>
    about flag.title ("invalid float value: ".toList ++ argument.quoted)
  | missingSlot slot =>
    "the following arguments are required: ".toList ++ slot.title
  | unrecognized arguments =>
    "unrecognized arguments: ".toList ++ [' '].intercalate arguments

end Chart
