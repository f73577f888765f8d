import Chart.Proofs.Command.Cases
import Chart.Proofs.Files.Held
import Chart.Proofs.Table.Reading

/-!
# Proofs/Command/SameGrammar — two commands and one grammar file

The commands load a grammar in two ways.  `check` reads the file and catches the failure of the file itself,
looks at the lines if it is asked to, and then parses the text, whose failure becomes a result.  `show` has
both steps done in one go, and the failures of both become results; it meets the failure of the file where
`check` meets only that of the text.

Without the line check there is nothing that could tell the two apart.  A file is not loaded and reported
(`Unloadable`), or it ends the run without a report (`Escapes`), or **both commands go on with the same
grammar**: `check_and_show_load_alike`.
-/

namespace Chart

namespace Loading

/-- **What keeps a grammar file from being loaded**, with the exit code and the words of the report. -/
inductive Unloadable (path : Text) (form : NormalForm) : ReadResult → Nat → Text → Prop
  | unreadable (fault : FileFault) : Unloadable path form (.fault fault) 1
      ("could not read grammar file ".toList ++ path ++ " (".toList ++
        fault.message (Path.normalised path) ++ [')'])
  | invalid {text : Text} {e : GrammarError} (hg : Grammar.parse text form = .error e) :
      Unloadable path form (.text text) 65 ("invalid grammar (".toList ++ e.message ++ [')'])

/-- **What ends a run that reads a grammar file without a report.** -/
inductive Escapes : ReadResult → Failure → Prop
  | notUtf8 : Escapes .notUtf8 .notUtf8
  | nullCharacter : Escapes .nullCharacter .nullCharacter

/-- What is read from a file is a grammar, or one of these. -/
theorem parse_or_unloadable_or_escapes (path : Text) (form : NormalForm) (read : ReadResult) :
    (∃ code words, Unloadable path form read code words) ∨ (∃ f, Escapes read f) ∨
      ∃ text g, read = .text text ∧ Grammar.parse text form = .ok g := by
  cases read with
  | text text =>
    cases hg : Grammar.parse text form with
    | error e => exact .inl ⟨_, _, .invalid hg⟩
    | ok g => exact .inr (.inr ⟨text, g, rfl, hg⟩)
  | fault fault => exact .inl ⟨_, _, .unreadable fault⟩
  | notUtf8 => exact .inr (.inl ⟨_, .notUtf8⟩)
  | nullCharacter => exact .inr (.inl ⟨_, .nullCharacter⟩)

end Loading

variable {form : NormalForm} {read : ReadResult} {text words : Text} {code : Nat} {f : Failure}
  {g : Grammar} {clock : Clock}

/-! ## `check` without the line check -/

namespace Check

variable {s : CheckSettings} {timeout : Timeout}

theorem prepare_unchecked (hlines : s.lineCheck = false) (text : Text) :
    prepare s (.text text) = build s text :=
  prepare_text fun hcheck => absurd (hlines.symm.trans hcheck) Bool.false_ne_true

/-- The failure of the file is caught by hand, that of the text is a result. -/
theorem concluded_of_unloadable (hlines : s.lineCheck = false)
    (hform : Loading.normalForm s.normalForm = .ok form)
    (h : Loading.Unloadable s.grammarFile form read code words) :
    concluded s clock read = ⟨[], "cyk check: error: ".toList ++ words ++ ['\n'], .exit code⟩ := by
  cases h with
  | unreadable fault => rfl
  | invalid hg =>
    rw [concluded, prepare_unchecked hlines, build_eq_of_error hform hg]
    rfl

theorem concluded_of_escapes (h : Loading.Escapes read f) :
    concluded s clock read = ⟨[], [], .failure f⟩ := by
  cases h <;> rfl

/-- Without a time limit a grammar is what the run answers by. -/
theorem concluded_of_parse (hlines : s.lineCheck = false)
    (hform : Loading.normalForm s.normalForm = .ok form) (hg : Grammar.parse text form = .ok g)
    (htimeout : s.timeout = some timeout) (hlimit : timeout.limit = none) :
    ∃ table isIn, g.table s.input none clock = .ok table ∧ g.accepts s.input none clock = .ok isIn ∧
      concluded s clock (.text text) =
        ⟨(if s.printTable = true ∧ s.input ≠ [] then printed table else []) ++
          (if isIn then "YES\n".toList else "NO\n".toList), [], .exit 0⟩ := by
  have htable : g.table s.input timeout.limit clock = .ok (g.filled s.input) := by
    rw [hlimit, Grammar.table_none]
  refine ⟨g.filled s.input, g.verdict s.input, Grammar.table_none g _ clock,
    Grammar.accepts_none g _ clock, ?_⟩
  rw [concluded, prepare_unchecked hlines, build_eq hform hg htimeout]
  simp only [hlimit, Grammar.accepts_none, Except.map, conclude, shown_eq_of_table htable]
  cases g.verdict s.input <;> rfl

end Check

/-! ## `show` -/

namespace Show

variable {t : ShowSettings}

/-- Loading logs for debugging only. -/
theorem run_warning (hform : Loading.normalForm t.normalForm = .ok form) (read : ReadResult) :
    run t .warning read = (load t form read).2 := by
  have hact : act t read = load t form read := by rw [act, hform]
  have hload : (load t form read).1 = (Loading.loadGrammar t.grammarFile read form).1 := by
    rw [load]
    rcases Loading.loadGrammar t.grammarFile read form with ⟨records, f | result⟩ <;> rfl
  rw [run, hact]
  refine Outcome.logged_eq_self fun r hr => ?_
  rw [hload] at hr
  rw [Loading.level_of_mem_loadGrammar read r hr]
  decide

/-- The failures of the file and of the text are results alike. -/
theorem load_of_unloadable (h : Loading.Unloadable t.grammarFile form read code words) :
    (load t form read).2 = ⟨[], "cyk show: error: ".toList ++ words ++ ['\n'], .exit code⟩ := by
  cases h with
  | unreadable fault =>
    rw [load, Loading.loadGrammar_fault]
    rfl
  | invalid hg =>
    rw [load, Loading.loadGrammar_text, Loading.grammarFromText_of_error hg]
    rfl

theorem load_of_escapes (h : Loading.Escapes read f) : (load t form read).2 = ⟨[], [], .failure f⟩ := by
  rw [load, Loading.loadGrammar_eq]
  cases h <;> rfl

theorem load_of_parse (hg : Grammar.parse text form = .ok g) :
    (load t form (.text text)).2 =
      ⟨(if t.format = some (.text "text".toList) then g.toText else g.summary) ++ ['\n'], [],
        .exit 0⟩ := by
  rw [load, Loading.loadGrammar_text, Loading.grammarFromText_of_ok hg]
  rfl

end Show

/-! ## Both commands -/

/-- **`check` without the line check and `show` load every grammar file alike.**  At the log level `WARNING`
and without a time limit they come to the same end and leave the files as they are.  If the file cannot be
read, or its text is no grammar, both print nothing and report the same words, each under its name, with the
same exit code; if the file is no text, or the path none, both end in the same failure.  Else both have the
same grammar: the one answers by it, the other prints it. -/
theorem check_and_show_load_alike {s : CheckSettings} {t : ShowSettings} {timeout : Timeout}
    (form : NormalForm) (clock clock' : Clock) (fs : FileSystem) (hfile : t.grammarFile = s.grammarFile)
    (hform : s.normalForm = some (.text form.name)) (hform' : t.normalForm = some (.text form.name))
    (hlines : s.lineCheck = false) (htimeout : s.timeout = some timeout) (hlimit : timeout.limit = none) :
    ∃ checked shown : Outcome,
      (Request.check s).run .warning clock fs = (checked, fs) ∧
      (Request.show t).run .warning clock' fs = (shown, fs) ∧
      (∀ reader snapshots arguments d snapshots',
        CommandLine.defaults reader snapshots fs.configFiles arguments = (.ok d, snapshots') →
        (CommandLine.plan d arguments = .ok (.check s, .warning) →
          CommandLine.run reader snapshots clock arguments fs = (checked, fs, snapshots')) ∧
        (CommandLine.plan d arguments = .ok (.show t, .warning) →
          CommandLine.run reader snapshots clock' arguments fs = (shown, fs, snapshots'))) ∧
      checked.ending = shown.ending ∧
      ((∃ code words,
          Loading.Unloadable s.grammarFile form (fs.readText s.grammarFile) code words ∧
          checked = ⟨[], "cyk check: error: ".toList ++ words ++ ['\n'], .exit code⟩ ∧
          shown = ⟨[], "cyk show: error: ".toList ++ words ++ ['\n'], .exit code⟩) ∨
        (∃ f, Loading.Escapes (fs.readText s.grammarFile) f ∧
          checked = ⟨[], [], .failure f⟩ ∧ shown = ⟨[], [], .failure f⟩) ∨
        ∃ text g table isIn, fs.readText s.grammarFile = .text text ∧
          Grammar.parse text form = .ok g ∧ g.table s.input none clock = .ok table ∧
          g.accepts s.input none clock = .ok isIn ∧
          checked =
            ⟨(if s.printTable = true ∧ s.input ≠ [] then Check.printed table else []) ++
              (if isIn then "YES\n".toList else "NO\n".toList), [], .exit 0⟩ ∧
          shown =
            ⟨(if t.format = some (.text "text".toList) then g.toText else g.summary) ++ ['\n'], [],
              .exit 0⟩) := by
  have hcheck : Loading.normalForm s.normalForm = .ok form := by
    rw [hform, Loading.normalForm_name]
  have hshow : Loading.normalForm t.normalForm = .ok form := by
    rw [hform', Loading.normalForm_name]
  refine ⟨Check.run s .warning clock (fs.readText s.grammarFile),
    Show.run t .warning (fs.readText t.grammarFile), rfl, rfl, ?_, ?_⟩
  · intro reader snapshots arguments d snapshots' hdefaults
    exact ⟨fun hplan => CommandLine.run_of_plan hdefaults hplan clock,
      fun hplan => CommandLine.run_of_plan hdefaults hplan clock'⟩
  rw [Check.run_warning, Show.run_warning hshow, hfile]
  obtain ⟨code, words, h⟩ | ⟨f, h⟩ | ⟨text, g, hread, hg⟩ :=
    Loading.parse_or_unloadable_or_escapes s.grammarFile form (fs.readText s.grammarFile)
  · have h' := h
    rw [← hfile] at h'
    rw [Check.concluded_of_unloadable hlines hcheck h, ← hfile, Show.load_of_unloadable h', hfile]
    exact ⟨rfl, .inl ⟨code, words, h, rfl, rfl⟩⟩
  · rw [Check.concluded_of_escapes h, Show.load_of_escapes h]
    exact ⟨rfl, .inr (.inl ⟨f, h, rfl, rfl⟩)⟩
  · obtain ⟨table, isIn, htable, haccepts, hconcluded⟩ :=
      @Check.concluded_of_parse form text g clock s timeout hlines hcheck hg htimeout hlimit
    rw [hread, hconcluded, Show.load_of_parse hg]
    exact ⟨rfl, .inr (.inr ⟨text, g, table, isIn, rfl, hg, htable, haccepts, rfl, rfl⟩)⟩

/-! ### A rule that is too long, and a grammar -/

/-- The text of a rule with three symbols on its right. -/
def overlongText : Text := "S:a,b,c".toList

/-- The text of a grammar for the word `ab`. -/
def abText : Text := "S:A,B\nA:a\nB:b".toList

/-- The settings that check the word `ab` against the file, without the line check. -/
def uncheckedSettings : CheckSettings where
  grammarFile := ['g']
  input := ['a', 'b']
  normalForm := some (.text NormalForm.chomsky.name)
  lineCheck := false
  printTable := false
  timeout := some ⟨"-1.0".toList, none⟩

/-- The settings that show the file as a text. -/
def textSettings : ShowSettings where
  grammarFile := ['g']
  normalForm := some (.text NormalForm.chomsky.name)
  format := some (.text "text".toList)

/-- Both commands report the rule, and both have the grammar. -/
theorem check_and_show_load_alike_two_files :
    ((oneFile overlongText).readText ['g'] = .text overlongText ∧
      (Request.check uncheckedSettings).run .warning (fun _ => 0) (oneFile overlongText) =
        (⟨[], "cyk check: error: ".toList ++
          "invalid grammar (RHS too long in rule S -> a b c (expected 2 or less))".toList ++ ['\n'],
          .exit 65⟩, oneFile overlongText) ∧
      (Request.show textSettings).run .warning (fun _ => 0) (oneFile overlongText) =
        (⟨[], "cyk show: error: ".toList ++
          "invalid grammar (RHS too long in rule S -> a b c (expected 2 or less))".toList ++ ['\n'],
          .exit 65⟩, oneFile overlongText)) ∧
    (oneFile abText).readText ['g'] = .text abText ∧
      (Request.check uncheckedSettings).run .warning (fun _ => 0) (oneFile abText) =
        (⟨"YES\n".toList, [], .exit 0⟩, oneFile abText) ∧
      (Request.show textSettings).run .warning (fun _ => 0) (oneFile abText) =
        (⟨"S:A,B\nA:a,e\nB:b,e\n".toList, [], .exit 0⟩, oneFile abText) := by
  have hoverlong : (oneFile overlongText).readText uncheckedSettings.grammarFile = .text overlongText :=
    FileSystem.readText_of_holds (holds_oneFile overlongText)
  have hab : (oneFile abText).readText uncheckedSettings.grammarFile = .text abText :=
    FileSystem.readText_of_holds (holds_oneFile abText)
  have hfault : Grammar.parse overlongText .chomsky = .error (.tooLong ['S'] [['a'], ['b'], ['c']]) := rfl
  have hparse : Grammar.parse abText .chomsky = .ok Grammar.capitals := Grammar.parse_capitals
  have halike := fun fs => check_and_show_load_alike (s := uncheckedSettings) (t := textSettings) .chomsky
    (fun _ => 0) (fun _ => 0) fs rfl rfl rfl rfl rfl rfl
  refine ⟨⟨hoverlong, ?_⟩, hab, ?_⟩
  · obtain ⟨checked, shown, hcheck, hshow, -, -, hcases⟩ := halike (oneFile overlongText)
    rw [hcheck, hshow]
    rw [hoverlong] at hcases
    obtain ⟨code, words, h, rfl, rfl⟩ | ⟨f, h, -⟩ | ⟨text, g, table, isIn, htext, hg, -⟩ := hcases
    · cases h with
      | invalid hg =>
        cases hfault.symm.trans hg
        constructor <;> rfl
    · cases h
    · cases htext
      cases hfault.symm.trans hg
  · obtain ⟨checked, shown, hcheck, hshow, -, -, hcases⟩ := halike (oneFile abText)
    rw [hcheck, hshow]
    rw [hab] at hcases
    obtain ⟨code, words, h, -⟩ | ⟨f, h, -⟩ |
      ⟨text, g, table, isIn, htext, hg, -, haccepts, rfl, rfl⟩ := hcases
    · cases h with
      | invalid hg => cases hparse.symm.trans hg
    · cases h
    · cases htext
      cases hparse.symm.trans hg
      rw [Grammar.accepts_none] at haccepts
      cases haccepts.symm.trans (congrArg Except.ok Grammar.verdict_capitals)
      constructor <;> rfl

end Chart
