import Chart.Command.Program
import Chart.Proofs.Command.Check

/-!
# Proofs/Command/Program — the program is the command line

The program reads its clock only when it needs to, so the count of its readings is not always the length it
has come to; **while there is a limit it is**, and without one no reading matters.  From there on the program
does step by step what the model of it says: `Program.run_simulated`.
-/

namespace Chart

namespace Simulation

variable {α β : Type} {fs : FileSystem} {readings : Nat}

theorem play_pure (a : α) : play (pure a) fs readings = (a, fs, readings) := rfl

theorem play_bind (x : Simulation α) (f : α → Simulation β) :
    play (x >>= f) fs readings =
      play (f (play x fs readings).1) (play x fs readings).2.1 (play x fs readings).2.2 := rfl

theorem play_get : play get fs readings = ((fs, readings), fs, readings) := rfl

theorem play_now (clock : Clock) :
    play (System.simulated clock).now fs readings = (clock readings, fs, readings + 1) := rfl

theorem play_readText (clock : Clock) (path : Text) :
    play ((System.simulated clock).readText path) fs readings = (fs.readText path, fs, readings) := rfl

theorem play_configFiles (clock : Clock) :
    play (System.simulated clock).configFiles fs readings = (fs.configFiles, fs, readings) := rfl

theorem play_write (clock : Clock) (path : Text) (data : ByteArray) :
    play ((System.simulated clock).write path data) fs readings =
      match fs.write path data with
      | .ok fs => (.ok (), fs, readings)
      | .error fault => (.error fault, fs, readings) := by
  simp only [System.simulated, play_bind, play_get]
  cases fs.write path data <;> rfl

end Simulation

open Simulation

variable {fs : FileSystem} {readings : Nat}

/-! ## The table -/

namespace Grammar

/-- **The lengths are filled as by the readings of the clock**: with a limit the count of the readings is the
length to come. -/
theorem play_fillLengthsNow (clock : Clock) (g : Grammar) (word : Text) (limit : Option Rat)
    (count : Nat) (length : Nat) (t : Table) (hreadings : limit = none ∨ readings = length) :
    ∃ later, play (g.fillLengthsNow (System.simulated clock).now word (clock 0) limit
        (List.range' length count) t) fs readings =
      (g.fillLengths word (isLate limit clock) (List.range' length count) t, fs, later) := by
  induction count generalizing length readings t with
  | zero => exact ⟨readings, rfl⟩
  | succ count ih =>
    simp only [List.range'_succ, fillLengthsNow, fillLengths, play_bind]
    cases limit with
    | none =>
      obtain ⟨later, hlater⟩ := ih (length + 1) (g.fillLength word t length) (.inl rfl)
      exact ⟨later, hlater⟩
    | some seconds =>
      obtain rfl : readings = length := hreadings.resolve_left (Option.some_ne_none seconds)
      simp only [isLateNow, isLate, play_bind, play_now, play_pure]
      by_cases hlate : seconds < clock readings - clock 0
      · simp only [hlate, decide_true, if_true]
        exact ⟨_, rfl⟩
      · simp only [hlate, decide_false, Bool.false_eq_true, if_false]
        exact ih (readings + 1) _ (.inr rfl)

/-- **The table by the clock of a simulated system** is the table by its readings. -/
theorem play_tableNow (clock : Clock) (g : Grammar) (word : Text) (limit : Option Rat)
    (fs : FileSystem) :
    ∃ later, play (g.tableNow (System.simulated clock).now word limit) fs 0 =
      (g.table word limit clock, fs, later) := by
  simp only [tableNow, play_bind, play_now]
  exact play_fillLengthsNow clock g word limit word.length 1 _ (.inr rfl)

end Grammar

/-! ## Commands and command lines -/

namespace Program

theorem play_check (clock : Clock) (s : CheckSettings) (level : LogLevel) :
    ∃ later, play (check (System.simulated clock) s level) fs 0 =
      (Check.run s level clock (fs.readText s.grammarFile), fs, later) := by
  simp only [check, play_bind, play_readText, Check.run, Check.act]
  rcases Check.prepare s (fs.readText s.grammarFile) with ⟨records, o | ⟨g, timeout⟩⟩
  · exact ⟨0, rfl⟩
  · obtain ⟨later, hlater⟩ := g.play_tableNow clock s.input timeout.limit fs
    refine ⟨later, ?_⟩
    simp only [play_bind, hlater]
    rfl

theorem play_dumpConfig (clock : Clock) (outputFile : Option Setting) :
    play (dumpConfig (System.simulated clock) outputFile) fs readings =
      ((DumpConfig.run outputFile fs).1, (DumpConfig.run outputFile fs).2, readings) := by
  rw [dumpConfig, DumpConfig.run]
  cases DumpConfig.target outputFile with
  | stdout => rfl
  | refused f => rfl
  | file path =>
    dsimp only
    split
    · rfl
    · simp only [play_bind, play_write]
      cases fs.write path (Text.toUtf8 Bundled.config) <;> rfl

/-- **A command on a simulated system** leaves the outcome and the file system of the model. -/
theorem play_request (clock : Clock) (level : LogLevel) (command : Request) :
    ∃ later, play (request (System.simulated clock) level command) fs 0 =
      ((command.run level clock fs).1, (command.run level clock fs).2, later) := by
  cases command with
  | check s => exact play_check clock s level
  | automaton input => exact ⟨0, rfl⟩
  | «show» s => exact ⟨0, rfl⟩
  | dumpConfig outputFile => exact ⟨0, play_dumpConfig clock outputFile⟩

/-- **The program is the command line.**  On a simulated system, whatever its files and its clock, it comes to
the outcome and to the file system that the command line leaves in a process that has read nothing yet. -/
theorem run_simulated (reader : DocumentReader) (clock : Clock) (arguments : List Text)
    (fs : FileSystem) :
    ∃ readings, play (run (System.simulated clock) reader arguments) fs 0 =
      ((CommandLine.run reader Snapshots.none clock arguments fs).1,
        (CommandLine.run reader Snapshots.none clock arguments fs).2.1, readings) := by
  simp only [run, play_bind, play_configFiles]
  rcases hdefaults : CommandLine.defaults reader Snapshots.none fs.configFiles arguments
    with ⟨o | d, snapshots⟩
  · refine ⟨0, ?_⟩
    simp only [CommandLine.run, CommandLine.runIn, hdefaults]
    rfl
  · cases hplan : CommandLine.plan d arguments with
    | error o =>
      refine ⟨0, ?_⟩
      simp only [CommandLine.run, CommandLine.runIn, hdefaults, hplan]
      rfl
    | ok planned =>
      obtain ⟨command, level⟩ := planned
      rw [CommandLine.run_of_plan hdefaults hplan]
      simp only [hplan]
      exact play_request clock level command

end Program

end Chart
