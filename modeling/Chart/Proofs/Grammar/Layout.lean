import Chart.Proofs.Files.Held
import Chart.Proofs.Text.Layout

/-!
# Proofs/Grammar/Layout — the layout of a grammar does not matter

Blank lines are skipped and lines are stripped, so the parser sees what a text says line by line and nothing
else (`Grammar.parse_eq_of_content_eq`).  **Blanks around the lines and the kind of the line breaks make no
difference**, neither to the rules nor to the fault that is reported, and a file that holds the text is
loaded as the text is parsed: `layout_is_immaterial`.
-/

namespace Chart

variable {lines lines' : List Text} {text text' : Text}

/-- A line is parsed as it is without the blanks at its ends. -/
theorem Row.parseEach_eq_of_map_strip (h : lines.map Text.strip = lines'.map Text.strip) :
    parseEach lines = parseEach lines' := by
  induction lines generalizing lines' with
  | nil =>
    obtain rfl : lines' = [] := List.map_eq_nil_iff.1 h.symm
    rfl
  | cons line lines ih =>
    obtain ⟨line', others, rfl, hline, hlines⟩ := List.map_eq_cons_iff.1 h.symm
    rw [parseEach, parseEach, parse, parse, hline, ih hlines.symm]

/-- **The grammar of a text depends only on what the text says line by line.** -/
theorem Grammar.parse_eq_of_content_eq (h : text.content = text'.content) (form : NormalForm) :
    parse text form = parse text' form := by
  have hstrip : ∀ t : Text, (t.lines.filter fun line => line.strip != []).map Text.strip = t.content := by
    intro t
    rw [Text.content, Text.said, List.filter_map]
    rfl
  have hall : Row.parseAll text = Row.parseAll text' :=
    Row.parseEach_eq_of_map_strip (by rw [hstrip, hstrip, h])
  rw [parse, parse, hall]

/-- **Layout does not change a grammar.**  A text that lays out lines, with blanks around them and line
breaks of any kind between them, makes the grammar that the lines make when they are joined by line feeds, or
has the same fault.  A file that holds the text is read with its line breaks unified, and yet loaded as the
text is parsed. -/
theorem layout_is_immaterial (hlines : ∀ line ∈ lines, ∀ c ∈ line, Text.isLineBreak c = false)
    (htext : Text.LaysOut lines text) (form : NormalForm) :
    Grammar.parse text form = Grammar.parse (['\n'].intercalate lines) form ∧
    ∀ (fs : FileSystem) (path : Text), fs.Holds path text →
      fs.readText path = .text (Text.unifyBreaks text) ∧
      Session.load fs path form.name =
        match Grammar.parse text form with
        | .ok g => .rules g.rows
        | .error e => .unloaded (.invalidGrammar e) := by
  have hjoined : Text.content (['\n'].intercalate lines) = Text.said lines :=
    (Text.laysOut_intercalate lines).content_eq hlines
  refine ⟨Grammar.parse_eq_of_content_eq ((htext.content_eq hlines).trans hjoined.symm) form, ?_⟩
  intro fs path hholds
  exact ⟨FileSystem.readText_of_holds hholds, Session.load_of_holds hholds form⟩

/-! ### Breaks of several kinds -/

/-- Two lines with blanks around them.  A carriage return and a line feed stand between them, and breaks of
other kinds before and behind. -/
def scatteredText : Text :=
  ['\u2028', '\t'] ++ ("S:A,B".toList ++ ([' ', '\r'] ++ '\n' ::
    (['\x0c', ' '] ++ ("A:a".toList ++ ['\x85', '\r']))))

/-- The grammar of the two lines. -/
def scatteredGrammar : Grammar where
  rules := [.binary ['S'] ['A'] ['B'], .unit ['A'] ['a']]
  normalForm := .second
  rules_ne_nil := List.cons_ne_nil _ _
  conforms := nofun

theorem laysOut_scatteredText : Text.LaysOut ["S:A,B".toList, "A:a".toList] scatteredText :=
  .cons (List.all_eq_true.1 rfl) (List.all_eq_true.1 rfl) rfl
    (.last (List.all_eq_true.1 rfl) (List.all_eq_true.1 rfl))

/-- The grammar of the scattered lines is the grammar of the lines. -/
theorem layout_is_immaterial_scattered :
    (∀ line ∈ ["S:A,B".toList, "A:a".toList], ∀ c ∈ line, Text.isLineBreak c = false) ∧
    Text.LaysOut ["S:A,B".toList, "A:a".toList] scatteredText ∧
    Grammar.parse scatteredText .second = .ok scatteredGrammar ∧
    Session.load (oneFile scatteredText) ['g'] NormalForm.second.name =
      .rules [[['S'], ['A'], ['B']], [['A'], ['a']]] := by
  have hlines : ∀ line ∈ ["S:A,B".toList, "A:a".toList], ∀ c ∈ line, Text.isLineBreak c = false := by
    simp [Text.isLineBreak]
  have hjoined : Grammar.parse (['\n'].intercalate ["S:A,B".toList, "A:a".toList]) .second =
      .ok scatteredGrammar := rfl
  obtain ⟨hparse, hfile⟩ := layout_is_immaterial hlines laysOut_scatteredText .second
  have hload := (hfile _ _ (holds_oneFile scatteredText)).2
  rw [hparse, hjoined] at hload
  exact ⟨hlines, laysOut_scatteredText, hparse.trans hjoined, hload⟩

end Chart
