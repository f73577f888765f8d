import Chart.Proofs.Command.Check
import Chart.Proofs.Files.Held
import Chart.Proofs.Grammar.StrictLines

/-!
# Proofs/Command/Cases — how a run of `check` can end

A run that gets to `check` ends in one of five ways, asked for in this order: the file cannot be read, a
line is malformed, the text is no grammar, time runs out, or there is an answer (`Check.Comes`).  The
conditions exclude one another (`Check.Comes.unique`), so no run mixes two of them: what is printed belongs
to the answer or is the table before it, and **a run that does not end well prints nothing**.  This is
`check_ends_in_one_case`.
-/

namespace Chart

namespace Check

variable {s : CheckSettings} {form : NormalForm} {timeout : Timeout} {clock : Clock} {read : ReadResult}
  {text : Text} {o o' : Outcome}

/-- The ways in which a run can end. -/
inductive Case where
  | unreadable
  | malformedLine
  | invalidGrammar
  | timedOut
  | answered
  deriving DecidableEq

/-- No line of a text is malformed: every line that is not empty has the strict format. -/
def IsWellFormed (text : Text) : Prop :=
  ∀ line ∈ text.lines, line ≠ [] → LinePattern.accepts line = true

/-- **What is read leads to an outcome in one of the cases**, whatever is reported. -/
inductive Comes (s : CheckSettings) (form : NormalForm) (timeout : Timeout) (clock : Clock)
    (read : ReadResult) : Case → Outcome → Prop
  | unreadable {fault : FileFault} {stderr : Text} (hread : read = .fault fault) :
      Comes s form timeout clock read .unreadable ⟨[], stderr, .exit 1⟩
  | malformedLine {text line stderr : Text} (hread : read = .text text) (hcheck : s.lineCheck = true)
      (hline : line ∈ text.lines) (hne : line ≠ []) (hmatch : LinePattern.accepts line = false) :
      Comes s form timeout clock read .malformedLine ⟨"NO\n".toList, stderr, .exit 0⟩
  | invalidGrammar {text stderr : Text} {e : GrammarError} (hread : read = .text text)
      (hlines : s.lineCheck = true → IsWellFormed text) (hg : Grammar.parse text form = .error e) :
      Comes s form timeout clock read .invalidGrammar ⟨[], stderr, .exit 65⟩
  | timedOut {text stderr : Text} {g : Grammar} {late : TimedOut} (hread : read = .text text)
      (hlines : s.lineCheck = true → IsWellFormed text) (hg : Grammar.parse text form = .ok g)
      (haccepts : g.accepts s.input timeout.limit clock = .error late) :
      Comes s form timeout clock read .timedOut ⟨[], stderr, .exit 1⟩
  | answered {text stderr : Text} {g : Grammar} {t : Table} {isIn : Bool} (hread : read = .text text)
      (hlines : s.lineCheck = true → IsWellFormed text) (hg : Grammar.parse text form = .ok g)
      (haccepts : g.accepts s.input timeout.limit clock = .ok isIn)
      (htable : g.table s.input timeout.limit clock = .ok t) :
      Comes s form timeout clock read .answered
        ⟨(if s.printTable = true ∧ s.input ≠ [] then printed t else []) ++
          Outcome.line (if isIn then "YES".toList else "NO".toList), stderr, .exit 0⟩

/-- **The cases exclude one another**: they differ in what is read, in whether a line is malformed, in
whether the text is a grammar, or in whether there is a verdict. -/
theorem Comes.unique {case other : Case} (h : Comes s form timeout clock read case o)
    (h' : Comes s form timeout clock read other o') : other = case := by
  cases h <;> cases h' <;> simp_all [IsWellFormed]

/-- The log does not matter. -/
theorem Comes.afterStderr {case : Case} (h : Comes s form timeout clock read case o) (log : Text) :
    Comes s form timeout clock read case (o.afterStderr log) := by
  cases h with
  | unreadable hread => exact .unreadable hread
  | malformedLine hread hcheck hline hne hmatch => exact .malformedLine hread hcheck hline hne hmatch
  | invalidGrammar hread hlines hg => exact .invalidGrammar hread hlines hg
  | timedOut hread hlines hg haccepts => exact .timedOut hread hlines hg haccepts
  | answered hread hlines hg haccepts htable => exact .answered hread hlines hg haccepts htable

/-- A run that does not end well prints nothing. -/
theorem Comes.stdout_eq_nil {case : Case} (h : Comes s form timeout clock read case o)
    (hend : o.ending ≠ .exit 0) : o.stdout = [] := by
  cases h with
  | unreadable | invalidGrammar | timedOut => rfl
  | malformedLine | answered => exact absurd rfl hend

/-! ## A case for every text -/

theorem acceptsAll_iff_isWellFormed : LinePattern.acceptsAll text = true ↔ IsWellFormed text := by
  rw [LinePattern.acceptsAll_iff, LinePattern.exists_writesAll_iff]
  refine forall₂_congr fun line _ => ?_
  rw [← LinePattern.accepts_iff]
  exact or_iff_not_imp_left

/-- What stands before the answer is the table of the word, if it is in print. -/
theorem shown_eq_of_table {g : Grammar} {t : Table}
    (htable : g.table s.input timeout.limit clock = .ok t) :
    shown s g = if s.printTable = true ∧ s.input ≠ [] then printed t else [] := by
  obtain rfl := Grammar.eq_filled_of_table htable
  by_cases hprints : s.printTable = true ∧ s.input ≠ []
  · rw [if_pos hprints, printed_eq, shown]
    simp only [hprints.1, true_and]
  · rw [if_neg hprints]
    exact shown_eq_nil (by simpa using hprints)

theorem exists_comes_text (hform : s.normalForm = some (.text form.name))
    (htimeout : s.timeout = some timeout) (clock : Clock) (text : Text) :
    ∃ case, Comes s form timeout clock (.text text) case (concluded s clock (.text text)) := by
  have hnormalForm : Loading.normalForm s.normalForm = .ok form := by
    rw [hform, Loading.normalForm_name]
  rw [concluded]
  -- the tests in the order of the command: the lines, the grammar, the time
  by_cases hlines : s.lineCheck = true → IsWellFormed text
  · rw [prepare_text fun hcheck => acceptsAll_iff_isWellFormed.2 (hlines hcheck)]
    cases hg : Grammar.parse text form with
    | error e =>
      simp only [build_eq_of_error hnormalForm hg]
      exact ⟨_, .invalidGrammar rfl hlines hg⟩
    | ok g =>
      simp only [build_eq hnormalForm hg htimeout]
      cases haccepts : g.accepts s.input timeout.limit clock with
      | error late => exact ⟨_, .timedOut rfl hlines hg haccepts⟩
      | ok isIn =>
        obtain ⟨t, htable⟩ := Grammar.exists_table_of_accepts haccepts
        refine ⟨.answered, ?_⟩
        simp only [Except.map, conclude, shown_eq_of_table htable]
        exact .answered rfl hlines hg haccepts htable
  · obtain ⟨hcheck, hnot⟩ := Classical.not_imp.1 hlines
    have hfalse : LinePattern.acceptsAll text = false :=
      Bool.eq_false_iff.2 fun h => hnot (acceptsAll_iff_isWellFormed.1 h)
    obtain ⟨line, hline, hne, hmatch⟩ : ∃ line ∈ text.lines, line ≠ [] ∧
        LinePattern.accepts line = false := by
      simpa [IsWellFormed] using hnot
    obtain ⟨number, first, hprepare⟩ := prepare_malformed hcheck hfalse
    rw [hprepare]
    exact ⟨_, .malformedLine rfl hcheck hline hne hmatch⟩

/-- **Whatever is read leads to one of the cases**, unless it is no text. -/
theorem exists_comes (hform : s.normalForm = some (.text form.name))
    (htimeout : s.timeout = some timeout) (clock : Clock) (hutf8 : read ≠ .notUtf8)
    (hpath : read ≠ .nullCharacter) :
    ∃ case, Comes s form timeout clock read case (concluded s clock read) := by
  cases read with
  | text text => exact exists_comes_text hform htimeout clock text
  | fault fault => exact ⟨_, .unreadable rfl⟩
  | notUtf8 => exact absurd rfl hutf8
  | nullCharacter => exact absurd rfl hpath

end Check

/-! ## Every run -/

theorem FileSystem.readText_ne_nullCharacter (fs : FileSystem) {path : Text}
    (hpath : '\x00' ∉ path) : fs.readText path ≠ .nullCharacter := by
  intro h
  rw [readText, if_neg hpath] at h
  split at h
  · cases h
  · split at h <;> cases h

/-- **A run of `check` ends in exactly one of its cases.**  It leaves the files as they are, and it prints
nothing unless it ends well; only a file that is no text makes it fail without a report. -/
theorem check_ends_in_one_case (s : CheckSettings) (form : NormalForm) (timeout : Timeout)
    (level : LogLevel) (clock : Clock) (fs : FileSystem) (hpath : '\x00' ∉ s.grammarFile)
    (hform : s.normalForm = some (.text form.name)) (htimeout : s.timeout = some timeout) :
    ∃ o, (Request.check s).run level clock fs = (o, fs) ∧
      (∀ reader snapshots arguments d snapshots',
        CommandLine.defaults reader snapshots fs.configFiles arguments = (.ok d, snapshots') →
        CommandLine.plan d arguments = .ok (.check s, level) →
        CommandLine.run reader snapshots clock arguments fs = (o, fs, snapshots')) ∧
      (fs.readText s.grammarFile = .notUtf8 → o.ending = .failure .notUtf8) ∧
      (fs.readText s.grammarFile ≠ .notUtf8 →
        ∃ case, Check.Comes s form timeout clock (fs.readText s.grammarFile) case o ∧
          ∀ other o', Check.Comes s form timeout clock (fs.readText s.grammarFile) other o' →
            other = case) ∧
      (o.ending ≠ .exit 0 → o.stdout = []) := by
  refine ⟨Check.run s level clock (fs.readText s.grammarFile), rfl, ?_, ?_⟩
  · intro reader snapshots arguments d snapshots' hdefaults hplan
    exact CommandLine.run_of_plan hdefaults hplan clock
  rw [Check.run_eq]
  by_cases hutf8 : fs.readText s.grammarFile = .notUtf8
  · rw [hutf8]
    exact ⟨fun _ => rfl, fun h => absurd rfl h, fun _ => rfl⟩
  · obtain ⟨case, hcase⟩ := Check.exists_comes hform htimeout clock hutf8
      (fs.readText_ne_nullCharacter hpath)
    have hcomes := hcase.afterStderr
      (LogRecord.log level (Check.act s clock (fs.readText s.grammarFile)).1)
    exact ⟨fun h => absurd h hutf8, fun _ => ⟨case, hcomes, fun other o' => hcomes.unique⟩,
      hcomes.stdout_eq_nil⟩

/-! ### A malformed line in a text that is no grammar -/

/-- A root with one file of one malformed line. -/
def malformedFiles : FileSystem := ⟨[], [([['g']], .file (Text.toUtf8 ['x']))]⟩

/-- The settings that check a word against the file, with the line check on and the table in print. -/
def malformedSettings : CheckSettings where
  grammarFile := ['g']
  input := ['a']
  normalForm := some (.text NormalForm.second.name)
  lineCheck := true
  printTable := true
  timeout := some ⟨['0'], some 0⟩

theorem holds_malformedFiles : malformedFiles.Holds ['g'] ['x'] := ⟨by decide, rfl⟩

/-- The answer is `NO`, although the text is no grammar and there is no time. -/
theorem check_ends_in_malformed_line :
    ∃ o, (Request.check malformedSettings).run .debug (fun n => n) malformedFiles =
        (o, malformedFiles) ∧ o.stdout = "NO\n".toList ∧ o.ending = .exit 0 := by
  have hread : malformedFiles.readText ['g'] = .text ['x'] :=
    FileSystem.readText_of_holds holds_malformedFiles
  obtain ⟨o, hrun, -, -, hcases, -⟩ := check_ends_in_one_case malformedSettings .second
    ⟨['0'], some 0⟩ .debug (fun n => n) malformedFiles (by decide) rfl rfl
  obtain ⟨case, hcomes, hunique⟩ := hcases fun h => nomatch hread.symm.trans h
  obtain rfl := hunique .malformedLine ⟨"NO\n".toList, [], .exit 0⟩
    (.malformedLine hread rfl List.mem_cons_self (List.cons_ne_nil _ _) rfl)
  cases hcomes
  exact ⟨_, hrun, rfl, rfl⟩

end Chart
