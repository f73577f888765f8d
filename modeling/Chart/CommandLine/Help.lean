import Chart.CommandLine.Spec
import Chart.Config.Defaults
import Chart.Text.Paragraph

/-!
# CommandLine/Help — usage and help

The help of a command has its usage, a description and **two columns**: what can be given, and what it
is for, with its current default.

* `Help.ofCommand` — the help of a command under given defaults.
* `Help.ofProgram` — the help of the program.
* `Command.default?` — the default of a flag of a command.
-/

namespace Chart

/-- **The default of a flag of a command**: what the configuration says, else the standard. -/
def Command.default? (command : Command) (d : Defaults) (flag : Flag) : Option Setting :=
  (d.get? command.name flag.option).or flag.standard?

namespace Help

/-- The column in which explanations start. -/
def column : Nat := 24

/-- The greatest length of a line. -/
def width : Nat := 78

/-! ## Texts -/

/-- The usage of the program. -/
def programUsage : List Text :=
  ["usage: cyk [-h] [-v] \x7bcheck,automaton,show,dump-config\x7d ...".toList]

/-- What the program is for. -/
def programDescription : Text :=
  ("The CYK command line interface. Checks whether strings are in the language of a context-free " ++
    "grammar in second or Chomsky normal form.").toList

/-- The usage of a command. -/
def usage : Command → List Text
  | .check =>
    ["usage: cyk check [-h] [-n \x7b2nf,cnf\x7d] [--line-check | --no-line-check]",
      "                 [--print-table | --no-print-table] [-t TIMEOUT]",
      "                 [-l \x7bERROR,WARNING,INFO,DEBUG\x7d]",
      "                 GRAMMAR_FILE [INPUT]"].map String.toList
  | .automaton =>
    ["usage: cyk automaton [-h] [-l \x7bERROR,WARNING,INFO,DEBUG\x7d] [INPUT]".toList]
  | .show =>
    ["usage: cyk show [-h] [-n \x7b2nf,cnf\x7d] [-f \x7bdebug,text\x7d]",
      "                [-l \x7bERROR,WARNING,INFO,DEBUG\x7d]",
      "                GRAMMAR_FILE"].map String.toList
  | .dumpConfig => ["usage: cyk dump-config [-h] [-o OUTPUT_FILE]".toList]

/-- What a command does, in a few words. -/
def summary : Command → Text
  | .check => "check whether an input is in the language of a grammar".toList
  | .automaton => "run the example automaton accepting words without `aa`".toList
  | .show => "load a grammar and print it".toList
  | .dumpConfig => "dumps the default configuration file".toList

/-- What a command does. -/
def description : Command → Text
  | .check =>
    ("Check whether an input is derivable from a grammar. Prints `YES` if this is the case and " ++
      "`NO` otherwise. Grammar files contain one rule `LHS:RHS1,RHS2` per line; the token `e` " ++
      "stands for an absent symbol.").toList
  | .automaton =>
    ("Run a finite automaton over the alphabet \x7ba, b\x7d that accepts all words not containing " ++
      "`aa`. Prints `YES` or `NO`.").toList
  | .show =>
    ("Load and validate a grammar, and print it either in a readable debugging format or in the " ++
      "grammar file format.").toList
  | .dumpConfig => "Dumps the default `.cykrc` configuration file.".toList

/-- What a slot is for. -/
def ofSlot : Slot → Text
  | .command => []
  | .grammarFile => "the grammar file, one rule `LHS:RHS1,RHS2` per line".toList
  | .input => "the input to check (the empty string if omitted) (default: )".toList

/-- What a flag is for. -/
def ofFlag : Flag → Text
  | .help => "show this help message and exit".toList
  | .version => "Print the cyk version number".toList
  | .normalForm =>
    ("the normal form the grammar is validated against: second normal form (at most two " ++
      "right-hand side symbols) or Chomsky normal form").toList
  | .lineCheck =>
    ("Check each non-empty grammar line against the pattern " ++
      "`([01])+:(([01])+|a|b),(([01])+|a|b|e)` before loading the grammar. If any line does not " ++
      "match, the answer is `NO`").toList
  | .printTable => "print the non-empty cells of the CYK membership table".toList
  | .timeout =>
    ("The number of (fractions of) seconds after which the recognizer should give up. Negative " ++
      "numbers imply that no timeout is set").toList
  | .logLevel => "set the logging level".toList
  | .format => "the output format".toList
  | .outputFile =>
    ("The file into which to write the current default `.cykrc`. If no file is given, the " ++
      "configuration is printed to the standard output").toList

/-! ## Layout -/

/-- A title in the left column and its explanation in the right one; a title that is too long for its
column stands on a line of its own. -/
def entry (indent : Nat) (title explanation : Text) : List Text :=
  let blank (n : Nat) : Text := List.replicate n ' '
  let lines := Paragraph.wrap (width - column) explanation
  let head := blank indent ++ title
  if head.length + 2 ≤ column then
    match lines with
    | [] => [head]
    | first :: others =>
      (head ++ blank (column - head.length) ++ first) :: others.map (blank column ++ ·)
  else head :: lines.map (blank column ++ ·)

/-- The title of a flag: its spellings, each with the argument. -/
def flagTitle (flag : Flag) : Text :=
  match flag.argument? with
  | none => ", ".toList.intercalate flag.names
  | some argument => ", ".toList.intercalate (flag.names.map fun name => name ++ ' ' :: argument)

/-- The explanation of a flag with its default, if there is one. -/
def flagText (default? : Option Setting) (flag : Flag) : Text :=
  match default? with
  | none => ofFlag flag
  | some s => ofFlag flag ++ " (default: ".toList ++ s.toText ++ [')']

/-- Lines as a text, each with a break. -/
def unlines (lines : List Text) : Text := lines.flatMap (· ++ ['\n'])

/-- Sections with an empty line between each two. -/
def sections (parts : List (List Text)) : Text := unlines ([[]].intercalate parts)

/-- **The help of a command** under given defaults.  The flag of `dump-config` has no default to
show. -/
def ofCommand (d : Defaults) (command : Command) : Text :=
  let default? (flag : Flag) := if flag = .outputFile then none else command.default? d flag
  let slots :=
    if command.slots.isEmpty then []
    else [("positional arguments:".toList ::
      command.slots.flatMap fun slot => entry 2 slot.title (ofSlot slot))]
  let flags := "options:".toList ::
    command.flags.flatMap fun flag =>
      entry 2 (flagTitle flag) (flagText (if flag = .help then none else default? flag) flag)
  sections ([usage command, Paragraph.wrap width (description command)] ++ slots ++ [flags])

/-- **The help of the program.** -/
def ofProgram : Text :=
  let flags := "options:".toList ::
    [Flag.help, .version].flatMap fun flag => entry 2 (flagTitle flag) (ofFlag flag)
  let names := '\x7b' :: [','].intercalate (Command.all.map Command.name) ++ ['\x7d']
  let commands := "Commands:".toList :: ([' ', ' '] ++ names) ::
    Command.all.flatMap fun command => entry 4 command.name (summary command)
  sections [programUsage, Paragraph.wrap width programDescription, flags, commands]

end Help

end Chart
