import Chart.Proofs.Command.Check
import Chart.Proofs.Files.Held
import Chart.Proofs.Table.StrictWords

/-!
# Proofs/Command/StrictCheck — checking words against strict grammar files

A file in the strict format is a grammar, whatever it says, and a word over its terminals has nothing to
misread.  So `check` with second normal form and no time limit reports no error, and its answer is whether
the file generates the word: `check_answers_strict_file`.  The line check may be on or off, since the file
passes it.
-/

namespace Chart

variable {s : CheckSettings} {fs : FileSystem} {text : Text} {timeout : Timeout}

/-- **`check` is right about strict grammar files.**  The answer is `YES` if the rules that the file writes
generate the word, and `NO` if they do not; the table stands before it if it is asked for, and the log holds
nothing but records for debugging. -/
theorem check_answers_strict_file (level : LogLevel) (clock : Clock)
    (hread : fs.readText s.grammarFile = .text text) (hlines : LinePattern.acceptsAll text = true)
    (hline : ∃ line ∈ text.lines, line ≠ []) (hword : ∀ c ∈ s.input, c = 'a' ∨ c = 'b')
    (hform : s.normalForm = some (.text NormalForm.second.name)) (htimeout : s.timeout = some timeout)
    (hlimit : timeout.limit = none) :
    ∃ g answer records, LinePattern.WritesAll text.lines g.rules ∧
      (answer = "YES\n".toList ↔ g.Generates s.input) ∧
      (answer = "NO\n".toList ↔ ¬ g.Generates s.input) ∧ (∀ r ∈ records, r.level = LogLevel.debug) ∧
      (Request.check s).run level clock fs =
        (⟨Check.shown s g ++ answer, LogRecord.log level records, .exit 0⟩, fs) := by
  obtain ⟨rules, hrules⟩ := LinePattern.acceptsAll_iff.1 hlines
  obtain ⟨line, hmem, hne⟩ := hline
  obtain ⟨g, hg, rfl⟩ := hrules.exists_parse (hrules.ne_nil hmem hne)
  have hnormalForm : Loading.normalForm s.normalForm = .ok .second := by
    rw [hform]
    rfl
  obtain ⟨records, hact, hdebug⟩ :=
    Check.act_eq_of_build clock (fun _ => hlines) hnormalForm hg htimeout hlimit
  have hverdict : g.verdict s.input = true ↔ g.Generates s.input := hrules.verdict_iff_generates hword
  refine ⟨g, Outcome.line (Check.answer (g.verdict s.input)), records, hrules, ?_, ?_, hdebug, ?_⟩
  · rw [← hverdict]
    cases g.verdict s.input <;> decide
  · rw [← hverdict]
    cases g.verdict s.input <;> decide
  · rw [Request.run_eq, Request.act, hread, hact]
    simp only [Outcome.logged, Outcome.afterStderr, Check.answered, List.append_nil]

/-! ### A file with three rules -/

/-- Three rules and an empty line. -/
def strictText : Text :=
  ['0', ':', '1', ',', '1', '0', '\n', '1', ':', 'a', ',', 'e', '\n', '\n', '1', '0', ':', 'b', ',', 'e']

/-- A root with one file. -/
def strictFiles : FileSystem := ⟨[], [([['g']], .file (Text.toUtf8 strictText))]⟩

/-- The settings that check the word `ab` against the file. -/
def strictSettings : CheckSettings where
  grammarFile := ['g']
  input := ['a', 'b']
  normalForm := some (.text NormalForm.second.name)
  lineCheck := true
  printTable := false
  timeout := some ⟨['-', '1'], none⟩

theorem readText_strictFiles : strictFiles.readText ['g'] = .text strictText := by
  have hholds : strictFiles.Holds ['g'] strictText := ⟨by decide, rfl⟩
  exact FileSystem.readText_of_holds hholds

/-- The rules of the file. -/
def strictRules : List Rule :=
  [.binary ['0'] ['1'] ['1', '0'], .unit ['1'] ['a'], .unit ['1', '0'] ['b']]

theorem writesAll_strictText : LinePattern.WritesAll strictText.lines strictRules := by
  have hzero : LinePattern.IsNumeral ['0'] := ⟨List.cons_ne_nil _ _, by simp⟩
  have hone : LinePattern.IsNumeral ['1'] := ⟨List.cons_ne_nil _ _, by simp⟩
  have htwo : LinePattern.IsNumeral ['1', '0'] := ⟨List.cons_ne_nil _ _, by simp⟩
  exact .write (.binary hzero (.inl hone) (.inl htwo))
    (.write (.unit hone (.inr (.inl rfl))) (.skip (.write (.unit htwo (.inr (.inr rfl))) .nil)))

/-- The rules of the file generate the word `ab`. -/
theorem generates_ab {g : Grammar} (h : g.rules = strictRules) : g.Generates ['a', 'b'] := by
  have hstart : g.start = ['0'] := by simp [Grammar.start, h, strictRules, Rule.lhs]
  have hmem : ∀ r ∈ strictRules, r ∈ g.rules := fun r hr => h ▸ hr
  have hfirst : g.Rewrites [['0']] [['1'], ['1', '0']] :=
    .replace [] [] (hmem (.binary ['0'] ['1'] ['1', '0']) (by decide))
  have hsecond : g.Rewrites [['1'], ['1', '0']] [['a'], ['1', '0']] :=
    .replace [] [['1', '0']] (hmem (.unit ['1'] ['a']) (by decide))
  have hthird : g.Rewrites [['a'], ['1', '0']] [['a'], ['b']] :=
    .replace [['a']] [] (hmem (.unit ['1', '0'] ['b']) (by decide))
  refine ⟨[['a'], ['b']], ?_, ?_, rfl⟩
  · rw [hstart]
    exact ((Grammar.Derives.refl.step hfirst).step hsecond).step hthird
  · simp [Grammar.isVariable, h, strictRules, Rule.lhs]

/-- The file with three rules generates the word `ab`, and the answer is `YES`. -/
theorem check_answers_strict_file_ab :
    strictFiles.readText ['g'] = .text strictText ∧ LinePattern.acceptsAll strictText = true ∧
    ∃ (g : Grammar) (records : List LogRecord),
      LinePattern.WritesAll strictText.lines g.rules ∧ g.Generates ['a', 'b'] ∧
      (∀ r ∈ records, r.level = LogLevel.debug) ∧
      (Request.check strictSettings).run .warning (fun _ => 0) strictFiles =
        (⟨"YES\n".toList, LogRecord.log .warning records, .exit 0⟩, strictFiles) := by
  have hlines : LinePattern.acceptsAll strictText = true := by decide
  have hline : ∃ line ∈ strictText.lines, line ≠ [] :=
    ⟨_, List.mem_cons_self, List.cons_ne_nil _ _⟩
  have hword : ∀ c ∈ strictSettings.input, c = 'a' ∨ c = 'b' := by simp [strictSettings]
  obtain ⟨g, answer, records, hrules, hyes, -, hdebug, hrun⟩ :=
    check_answers_strict_file .warning (fun _ => 0) readText_strictFiles hlines hline hword rfl rfl rfl
  have hgenerates : g.Generates ['a', 'b'] := generates_ab (writesAll_strictText.unique hrules)
  have hanswer : answer = "YES\n".toList := hyes.2 hgenerates
  have hshown : Check.shown strictSettings g = [] := Check.shown_eq_nil rfl
  refine ⟨readText_strictFiles, hlines, g, records, hrules, hgenerates, hdebug, ?_⟩
  rw [hrun, hanswer, hshown, List.nil_append]

end Chart
