import Chart.Command.Run

/-!
# Command/Program — the program on a system

The program needs little of the system it runs on: the configuration files, the text at a path, a way to
write a file, and a clock.  It is written once for all systems, so **the program that runs is the one that
can be simulated**.

* `System` — what the program needs.
* `Program.run` — the outcome of a command line on a system.
* `System.simulated` — the system that is a file system and a list of clock readings; `Simulation.play` —
  what a program comes to on it.
-/

namespace Chart

/-- **A system that the program can run on.** -/
structure System (m : Type → Type) where
  configFiles : m ConfigFiles
  /-- The text at a path. -/
  readText : Text → m ReadResult
  /-- Writes bytes to a path. -/
  write : Text → ByteArray → m (Except FileFault Unit)
  /-- The seconds on the clock. -/
  now : m Rat

section

variable {m : Type → Type} [Monad m]

namespace Grammar

/-- Whether it is late, by a clock that is only read if there is a limit. -/
def isLateNow (now : m Rat) (start : Rat) : Option Rat → m Bool
  | none => return false
  | some seconds => return decide (seconds < (← now) - start)

/-- The table with the given lengths filled, in order, unless one of them is begun too late. -/
def fillLengthsNow (now : m Rat) (g : Grammar) (word : Text) (start : Rat) (limit : Option Rat) :
    List Nat → Table → m (Except TimedOut Table)
  | [], t => return .ok t
  | length :: rest, t => do
    if ← isLateNow now start limit then return .error ⟨length⟩
    else fillLengthsNow now g word start limit rest (g.fillLength word t length)

/-- **The membership table of a word by the clock of a system.** -/
def tableNow (now : m Rat) (g : Grammar) (word : Text) (limit : Option Rat) :
    m (Except TimedOut Table) := do
  g.fillLengthsNow now word (← now) limit (lengths word) (g.seed word)

end Grammar

namespace Program

/-- The outcome of `check`. -/
def check (system : System m) (s : CheckSettings) (level : LogLevel) : m Outcome := do
  match Check.prepare s (← system.readText s.grammarFile) with
  | (records, .error o) => return o.logged level records
  | (records, .ok (g, timeout)) =>
    let (more, o) := Check.recognise s timeout g (← g.tableNow system.now s.input timeout.limit)
    return o.logged level (records ++ more)

/-- The outcome of `dump-config`. -/
def dumpConfig (system : System m) (outputFile : Option Setting) : m Outcome := do
  match DumpConfig.target outputFile with
  | .stdout => return .done Bundled.config
  | .refused f => return .raised f
  | .file path =>
    if '\x00' ∈ path then return .raised .nullCharacter
    else return DumpConfig.written path (← system.write path (Text.toUtf8 Bundled.config))

/-- The outcome of a command, which logs for itself. -/
def request (system : System m) (level : LogLevel) : Request → m Outcome
  | .check s => check system s level
  | .show s => return Show.run s level (← system.readText s.grammarFile)
  | .automaton input => return DoubleA.run input
  | .dumpConfig outputFile => dumpConfig system outputFile

/-- **The outcome of a command line on a system**, in a process that has read nothing yet. -/
def run (system : System m) (reader : DocumentReader) (arguments : List Text) : m Outcome := do
  match (CommandLine.defaults reader Snapshots.none (← system.configFiles) arguments).1 with
  | .error o => return o
  | .ok d =>
    match CommandLine.plan d arguments with
    | .error o => return o
    | .ok (command, level) => request system level command

end Program

end

/-! ## Simulation -/

/-- A program that may read and change a file system, and counts how often it reads the clock. -/
abbrev Simulation := StateM (FileSystem × Nat)

/-- **What a simulated program comes to**, and the file system and the count after it. -/
def Simulation.play {α : Type} (x : Simulation α) (fs : FileSystem) (readings : Nat) :
    α × FileSystem × Nat :=
  (x.run (fs, readings)).run

/-- **The system that is a file system and a list of clock readings.** -/
def System.simulated (clock : Clock) : System Simulation where
  configFiles := do
    let (fs, _) ← get
    return fs.configFiles
  readText path := do
    let (fs, _) ← get
    return fs.readText path
  write path data := do
    let (fs, readings) ← get
    match fs.write path data with
    | .ok fs =>
      set (fs, readings)
      return .ok ()
    | .error fault => return .error fault
  now := do
    let (fs, readings) ← get
    set (fs, readings + 1)
    return clock readings

end Chart
