import Chart.Command.Outcome
import Chart.Grammar.Format

/-!
# Command/Loading — grammars from files

A grammar file may be missing, may hold no text, or its text may be no grammar; **the file comes
first**.  Some of these failures are caught on the way and handed on as results, and the others pass.

* `Loading.readGrammarFile`, `Loading.parseGrammar` — the two steps, which fail each in its own way.
* `Loading.grammarFromText` — the second step with its failures caught; `Loading.loadGrammar` — both
  steps with the failures of both caught.
* `Loading.grammarOrExit` — what a command does with such a result.
-/

namespace Chart

/-- **What came of a computation whose failures were caught.** -/
inductive Result (α : Type) where
  | success (a : α)
  | failure (f : Failure)

/-- **A computation with failures caught**: the ones to catch become results, the others stay failures. -/
def Result.catching {α : Type} (isCaught : Failure → Bool) :
    Except Failure α → Except Failure (Result α)
  | .ok a => .ok (.success a)
  | .error f => if isCaught f then .ok (.failure f) else .error f

/-- Whether a failure is that of a grammar file. -/
def Failure.isGrammarFile : Failure → Bool
  | grammarFile .. => true
  | _ => false

/-- Whether a failure is that of a text that is no grammar. -/
def Failure.isInvalidGrammar : Failure → Bool
  | invalidGrammar _ => true
  | _ => false

/-- Whether a failure is one of loading a grammar: that of the file or that of its text. -/
def Failure.isOfLoading (f : Failure) : Bool := f.isGrammarFile || f.isInvalidGrammar

namespace Loading

/-! ## The log -/

/-- The record of a grammar that was loaded. -/
def parsed (g : Grammar) : LogRecord where
  level := .debug
  source := "grammar".toList
  message := "Parsed grammar in ".toList ++ g.normalForm.name ++ " with ".toList ++
    Text.ofNat g.rules.length ++ " rules, variables: ".toList ++
    ", ".toList.intercalate (Text.sorted g.vars)

/-- The record of a file about to be loaded. -/
def opening (path : Text) : LogRecord where
  level := .debug
  source := "loader".toList
  message := "Loading grammar from ".toList ++ path

/-! ## Reading and parsing -/

/-- The normal form that a setting names. -/
def normalForm (s : Option Setting) : Except Failure NormalForm :=
  match s with
  | some (.text t) =>
    match NormalForm.ofName? t with
    | some form => .ok form
    | none => .error (.unknownNormalForm s)
  | _ => .error (.unknownNormalForm s)

/-- **The text of a grammar file.**  What the system has against the file becomes a failure of its own;
bytes that are no text and a path that is none fail as they are. -/
def readGrammarFile (path : Text) : ReadResult → Except Failure Text
  | .text t => .ok t
  | .fault fault => .error (.grammarFile path fault)
  | .notUtf8 => .error .notUtf8
  | .nullCharacter => .error .nullCharacter

/-- The grammar of a text; only one that is made is logged. -/
def parseGrammar (text : Text) (form : NormalForm) : List LogRecord × Except Failure Grammar :=
  match Grammar.parse text form with
  | .ok g => ([parsed g], .ok g)
  | .error e => ([], .error (.invalidGrammar e))

/-- **The grammar of a text that has been read**, as a result. -/
def grammarFromText (text : Text) (form : NormalForm) :
    List LogRecord × Except Failure (Result Grammar) :=
  let (records, result) := parseGrammar text form
  (records, Result.catching Failure.isInvalidGrammar result)

/-- The grammar of a file, for what is read from it. -/
def readAndParse (path : Text) (read : ReadResult) (form : NormalForm) :
    List LogRecord × Except Failure Grammar :=
  match readGrammarFile path read with
  | .error f => ([], .error f)
  | .ok text => parseGrammar text form

/-- **The grammar of a file**, as a result; failures of the file are caught as well. -/
def loadGrammar (path : Text) (read : ReadResult) (form : NormalForm) :
    List LogRecord × Except Failure (Result Grammar) :=
  let (records, result) := readAndParse path read form
  (opening path :: records, Result.catching Failure.isOfLoading result)

/-! ## Commands that need a grammar -/

/-- A report of a command. -/
def report (command message : Text) : Text :=
  "cyk ".toList ++ command ++ ": error: ".toList ++ message

/-- **The grammar of a result, or the outcome of a command that needed one.** -/
def grammarOrExit (command : Text) : Result Grammar → Except Outcome Grammar
  | .success g => .ok g
  | .failure (.grammarFile path fault) =>
    .error (.failed 1 (report command (Failure.unreadable path fault)))
  | .failure (.invalidGrammar e) =>
    .error (.failed 65 (report command ("invalid grammar (".toList ++ e.message ++ [')'])))
  | .failure f => .error (.raised (.unexpectedResult f))

end Loading

end Chart
