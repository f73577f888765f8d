import Chart.Proofs.Command.Loading
import Chart.Proofs.Text.Lines
import Chart.Session

/-!
# Proofs/Files/Held — reading a file that holds a text

A file **holds** a text if its bytes are the text in UTF-8.  It is read with the line breaks of the text
unified (`readText_of_holds`), which no line shows, so it is loaded as the text is parsed:
`load_of_holds`.
-/

namespace Chart

variable {fs : FileSystem} {path t : Text} {form : NormalForm}

/-- **The file at a path holds a text.** -/
structure FileSystem.Holds (fs : FileSystem) (path t : Text) : Prop where
  no_null : '\x00' ∉ path
  read : fs.read (Path.normalised path) = .ok (Text.toUtf8 t)

/-- A text is read with its line breaks unified. -/
theorem FileSystem.readText_of_holds (h : fs.Holds path t) :
    fs.readText path = .text (Text.unifyBreaks t) := by
  rw [readText, if_neg h.no_null, h.read]
  simp only [Text.ofFile?, Text.ofUtf8?_toUtf8, Option.map_some]

theorem NormalForm.ofName?_name (form : NormalForm) : ofName? form.name = some form := by
  cases form <;> rfl

/-- The name of a normal form is a setting that names it. -/
theorem Loading.normalForm_name (form : NormalForm) :
    normalForm (some (.text form.name)) = .ok form := by
  simp only [normalForm, NormalForm.ofName?_name]

theorem Grammar.parse_unifyBreaks (t : Text) (form : NormalForm) :
    parse (Text.unifyBreaks t) form = parse t form := by
  simp only [parse, Row.parseAll, Text.lines_unifyBreaks]

/-- **A file is loaded as the text that it holds is parsed.** -/
theorem Session.load_of_holds (h : fs.Holds path t) (form : NormalForm) :
    load fs path form.name =
      match Grammar.parse t form with
      | .ok g => .rules g.rows
      | .error e => .unloaded (.invalidGrammar e) := by
  rw [load, loading, Loading.normalForm_name, FileSystem.readText_of_holds h]
  simp only [Loading.loadGrammar_text]
  cases hparse : Grammar.parse t form with
  | ok g => rw [Loading.grammarFromText_of_ok ((Grammar.parse_unifyBreaks t form).trans hparse)]
  | error e => rw [Loading.grammarFromText_of_error ((Grammar.parse_unifyBreaks t form).trans hparse)]

/-! ## A single file -/

/-- A root with one file, which holds a text. -/
def oneFile (t : Text) : FileSystem := ⟨[], [([['g']], .file (Text.toUtf8 t))]⟩

theorem holds_oneFile (t : Text) : (oneFile t).Holds ['g'] t := ⟨by decide, rfl⟩

end Chart
