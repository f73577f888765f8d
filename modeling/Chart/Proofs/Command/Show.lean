import Chart.Proofs.Files.Held
import Chart.Proofs.Grammar.RoundTrip

/-!
# Proofs/Command/Show — saving a grammar as it is shown

In the format `text` a grammar is shown as its text and a line feed.  A file that holds what was shown has
the lines of the grammar's rules again (`lines_line_toText`), so **it is loaded as the same rules exactly if
no rule is padded**: `shown_text_loads_iff`.  Not every grammar that was loaded is like that, since a line
may give a symbol the blanks that separators and tokens for absent symbols keep from being stripped:
`shown_text_loads_other_rules`.
-/

namespace Chart

variable {s : ShowSettings} {fs : FileSystem} {text : Text} {form : NormalForm} {g : Grammar}

theorem Grammar.lines_line_toText (hg : g.HasTokens) :
    (Outcome.line g.toText).lines = g.rules.map Rule.toLine := by
  have hne : g.rules.map Rule.toLine ≠ [] := fun h => g.rules_ne_nil (List.map_eq_nil_iff.1 h)
  rw [Outcome.line, toText, Text.lines_intercalate_append hne hg.isLineBreak_eq_false]
  exact List.append_nil _

/-- **A grammar is shown as its text.** -/
theorem Request.run_show_text (level : LogLevel) (clock : Clock)
    (hread : fs.readText s.grammarFile = .text text) (hform : s.normalForm = some (.text form.name))
    (hformat : s.format = some (.text "text".toList)) (hg : Grammar.parse text form = .ok g) :
    (Request.show s).run level clock fs =
      (⟨Outcome.line g.toText,
        LogRecord.log level [Loading.opening s.grammarFile, Loading.parsed g], .exit 0⟩, fs) := by
  have hnormalForm : Loading.normalForm s.normalForm = .ok form := by
    rw [hform]
    exact Loading.normalForm_name form
  have hact : Show.act s (.text text) =
      ([Loading.opening s.grammarFile, Loading.parsed g], .done g.toText) := by
    simp only [Show.act, hnormalForm, Show.load, Loading.loadGrammar_text,
      Loading.grammarFromText_of_ok hg, Show.conclude, Loading.grammarOrExit, Show.display, hformat,
      if_true]
  have hrun : (Request.show s).run level clock fs =
      (Show.run s level (fs.readText s.grammarFile), fs) := rfl
  rw [hrun, Show.run, hread, hact]
  simp only [Outcome.logged, Outcome.afterStderr, Outcome.done, List.append_nil]

/-- **When saving a grammar as it is shown preserves it.**  A grammar that was loaded is shown as its text
and a line feed.  A file that holds what was shown is loaded as the same rules exactly if no left-hand side
starts with a blank and no second symbol on the right ends with one; the text itself is then parsed to the
grammar.  So it is if there are no blanks inside the lines of the grammar file. -/
theorem shown_text_loads_iff (level : LogLevel) (clock : Clock)
    (hread : fs.readText s.grammarFile = .text text) (hform : s.normalForm = some (.text form.name))
    (hformat : s.format = some (.text "text".toList)) (hg : Grammar.parse text form = .ok g) :
    (Request.show s).run level clock fs =
      (⟨Outcome.line g.toText,
        LogRecord.log level [Loading.opening s.grammarFile, Loading.parsed g], .exit 0⟩, fs) ∧
    (∀ later : FileSystem, ∀ copy, later.Holds copy (Outcome.line g.toText) →
      (Session.load later copy form.name = .rules g.rows ↔ g.IsUnpadded)) ∧
    (Grammar.parse g.toText g.normalForm = .ok g ↔ g.IsUnpadded) ∧
    ((∀ line ∈ text.lines, ∀ c ∈ line.strip, Text.isBlank c = false) → g.IsUnpadded) := by
  have htokens : g.HasTokens := Grammar.hasTokens_of_parse hg
  have hrows : Grammar.ofRows g.rows form = .ok g := Grammar.ofRows_rows_of_parse hg
  have hnormalForm : g.normalForm = form := (Grammar.parseAll_of_parse hg).2
  refine ⟨Request.run_show_text level clock hread hform hformat hg, ?_, ?_,
    Grammar.isUnpadded_of_forall_strip hg⟩
  · intro later copy hholds
    rw [Session.load_of_holds hholds,
      ← Grammar.parse_eq_ok_iff_of_lines htokens hrows (Grammar.lines_line_toText htokens)]
    cases hparse : Grammar.parse (Outcome.line g.toText) form with
    | error e => simp
    | ok g' =>
      have hsame : g'.rows = g.rows ↔ g' = g :=
        ⟨fun h => Grammar.eq_of_rows_eq h
          ((Grammar.parseAll_of_parse hparse).2.trans hnormalForm.symm), congrArg Grammar.rows⟩
      simp [hsame]
  · rw [hnormalForm]
    exact Grammar.parse_eq_ok_iff_of_lines htokens hrows (Grammar.lines_toText htokens)

/-! ## Two grammar files -/

/-- A root with two files. -/
def twoFiles (first second : Text) : FileSystem :=
  ⟨[], [([['g']], .file (Text.toUtf8 first)), ([['h']], .file (Text.toUtf8 second))]⟩

theorem holds_first (first second : Text) : (twoFiles first second).Holds ['g'] first :=
  ⟨by decide, rfl⟩

theorem holds_second (first second : Text) : (twoFiles first second).Holds ['h'] second :=
  ⟨by decide, rfl⟩

/-- The settings that show the first file in the format of grammar files. -/
def showFirst : ShowSettings where
  grammarFile := ['g']
  normalForm := some (.text NormalForm.second.name)
  format := some (.text "text".toList)

/-- The text of a grammar with blanks inside its lines, freely spelled. -/
def spacedText : Text :=
  "S: A:B B,,\n\nB B,b ,e".toList

/-- Blanks inside the lines are preserved. -/
theorem shown_text_loads_spaced :
    Grammar.parse spacedText .second = .ok Grammar.spaced ∧
    ∃ fs : FileSystem, fs.Holds ['g'] spacedText ∧
      fs.Holds ['h'] (Outcome.line Grammar.spaced.toText) ∧
      (Request.show showFirst).run .warning (fun _ => 0) fs =
        (⟨Outcome.line Grammar.spaced.toText, [], .exit 0⟩, fs) ∧
      Session.load fs ['h'] NormalForm.second.name = .rules Grammar.spaced.rows := by
  have hg : Grammar.parse spacedText .second = .ok Grammar.spaced := rfl
  have hfirst := holds_first spacedText (Outcome.line Grammar.spaced.toText)
  have hsecond := holds_second spacedText (Outcome.line Grammar.spaced.toText)
  obtain ⟨hrun, hload, -, -⟩ := shown_text_loads_iff (s := showFirst) .warning (fun _ => 0)
    (FileSystem.readText_of_holds hfirst) rfl rfl hg
  exact ⟨hg, _, hfirst, hsecond, hrun, (hload _ _ hsecond).2 (by decide)⟩

/-- A grammar whose start variable starts with a blank. -/
def padded : Grammar where
  rules := [.unit [' ', 'S'] ['a']]
  normalForm := .second
  rules_ne_nil := List.cons_ne_nil _ _
  conforms := nofun

/-- **Saving a grammar as it is shown may change its rules.**  In the file the blank stands between a
separator and the symbol; in what is shown it stands at the start of the line and is stripped. -/
theorem shown_text_loads_other_rules :
    Grammar.parse [':', ' ', 'S', ',', 'a'] .second = .ok padded ∧
    Grammar.parse padded.toText padded.normalForm ≠ .ok padded ∧
    ∃ fs : FileSystem, fs.Holds ['g'] [':', ' ', 'S', ',', 'a'] ∧
      fs.Holds ['h'] (Outcome.line padded.toText) ∧
      (Request.show showFirst).run .warning (fun _ => 0) fs =
        (⟨Outcome.line padded.toText, [], .exit 0⟩, fs) ∧
      Session.load fs ['h'] NormalForm.second.name = .rules [[['S'], ['a']]] ∧
      [[['S'], ['a']]] ≠ padded.rows := by
  have hg : Grammar.parse [':', ' ', 'S', ',', 'a'] .second = .ok padded := rfl
  have hfirst := holds_first [':', ' ', 'S', ',', 'a'] (Outcome.line padded.toText)
  have hsecond := holds_second [':', ' ', 'S', ',', 'a'] (Outcome.line padded.toText)
  refine ⟨hg, ?_, _, hfirst, hsecond, ?_, ?_, by decide⟩
  · intro h
    have hunpadded := (Grammar.parse_eq_ok_iff_of_lines (g := padded) (by decide) rfl
      (Grammar.lines_toText (by decide))).1 h
    exact absurd hunpadded (by decide)
  · exact Request.run_show_text (s := showFirst) .warning (fun _ => 0)
      (FileSystem.readText_of_holds hfirst) rfl rfl hg
  · rw [Session.load_of_holds hsecond]
    rfl

end Chart
