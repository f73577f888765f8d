import Chart.Config.Bundled
import Chart.Text.Utf8

/-!
# Config/Snapshots — configurations that were read before

A process reads its configuration again and again, but **a reading that succeeded is kept**: the same
question gets the same answer, whatever has become of the files.  A failed reading is not kept.  The
question at start-up is not the one that looks up defaults, although neither brings a text of its own,
so each has its own snapshot.  None of this depends on how documents are read.

* `ConfigFiles.resolve` — what a question would be answered if nothing were kept.
* `Snapshots.ask` — the answer to a question, and the snapshots after it.
-/

namespace Chart

/-- Why the configuration could not be read. -/
inductive ConfigFault where
  /-- The bytes of a file are no text. -/
  | notUtf8
  /-- A source is bad. -/
  | bad (e : ConfigError)
  deriving DecidableEq

/-- The sources of a configuration before they are read: a text given directly, and the bytes of the
configuration files that exist. -/
structure ConfigFiles where
  work : Option ByteArray
  home : Option ByteArray

/-- The text of a configuration file, if there is one; none of the other sources matters when its bytes
are no text. -/
def ConfigFiles.text? : Option ByteArray → Except ConfigFault (Option Text)
  | none => .ok none
  | some data =>
    match Text.ofFile? data with
    | some t => .ok (some t)
    | none => .error .notUtf8

/-- **The configuration that a text, if one is given, and the files define** to a reader of documents. -/
def ConfigFiles.resolve (files : ConfigFiles) (reader : DocumentReader) (content : Option Text) :
    Except ConfigFault Defaults :=
  match text? files.work, text? files.home with
  | .ok work, .ok home =>
    match Defaults.resolve reader (Bundled.sources content work home) with
    | .ok d => .ok d
    | .error e => .error (.bad e)
  | _, _ => .error .notUtf8

/-- A question for the configuration. -/
inductive ConfigQuestion where
  /-- The one that a run of the command line starts with. -/
  | startUp
  /-- The one for defaults, with a text that comes before all files. -/
  | defaults (content : Option Text)
  deriving DecidableEq

/-- The text that a question brings. -/
def ConfigQuestion.content : ConfigQuestion → Option Text
  | startUp => none
  | defaults content => content

/-- **The answers that are kept**, the one used last first. -/
structure Snapshots where
  kept : List (ConfigQuestion × Defaults)

namespace Snapshots

/-- No answers. -/
def none : Snapshots := ⟨[]⟩

/-- The number of answers that can be kept; the one not used for longest is given up first. -/
def capacity : Nat := 128

/-- The snapshots after an answer was used. -/
def use (s : Snapshots) (question : ConfigQuestion) (answer : Defaults) : Snapshots :=
  ⟨((question, answer) :: s.kept.filter fun e => e.1 != question).take capacity⟩

/-- **The answer to a question**: the kept one, or else what the files say now. -/
def ask (s : Snapshots) (reader : DocumentReader) (question : ConfigQuestion) (files : ConfigFiles) :
    Except ConfigFault Defaults × Snapshots :=
  match s.kept.lookup question with
  | some answer => (.ok answer, s.use question answer)
  | .none =>
    match files.resolve reader question.content with
    | .ok answer => (.ok answer, s.use question answer)
    | .error fault => (.error fault, s)

end Snapshots

end Chart
