import Chart.Command.Run
import Chart.Proofs.Command.Check
import Chart.Proofs.Table.Printed

/-!
# Proofs/Command/PrintTable — printing the table changes nothing else

With the table in print `check` reads its answer off a table that it fills itself; without it the answer is
that of `Grammar.accepts`, which has a rule of its own for the empty word.  What comes before the table is
the same for both (`Check.Prepared`), and so is the verdict (`Check.run_warning`), time limit included.
So **the table stands before the answer and nothing else differs**: `printed_table_precedes_answer`.
-/

namespace Chart

namespace Check

variable {s : CheckSettings} {text : Text} {form : NormalForm} {g : Grammar}

/-- **What stands before the answer when the table is printed**: the table if the lines of the text pass or
are not checked, the word is not empty and some cell is not empty, and nothing otherwise. -/
inductive Precedes (s : CheckSettings) (clock : Clock) (text : Text) : Text → Prop
  | malformed (hcheck : s.lineCheck = true) (hlines : LinePattern.acceptsAll text = false) :
      Precedes s clock text []
  | noCell {form : NormalForm} {g : Grammar} {t : Table}
      (hlines : s.lineCheck = true → LinePattern.acceptsAll text = true)
      (hform : Loading.normalForm s.normalForm = .ok form) (hg : Grammar.parse text form = .ok g)
      (htable : g.table s.input none clock = .ok t)
      (hempty : s.input = [] ∨ ∀ i j, t.get i j = []) : Precedes s clock text []
  | table {form : NormalForm} {g : Grammar} {t : Table}
      (hlines : s.lineCheck = true → LinePattern.acceptsAll text = true)
      (hform : Loading.normalForm s.normalForm = .ok form) (hg : Grammar.parse text form = .ok g)
      (htable : g.table s.input none clock = .ok t) (hinput : s.input ≠ [])
      (hcell : ∃ i j, t.get i j ≠ []) : Precedes s clock text (Outcome.line t.toText)

theorem precedes_shown (clock : Clock)
    (hlines : s.lineCheck = true → LinePattern.acceptsAll text = true)
    (hform : Loading.normalForm s.normalForm = .ok form) (hg : Grammar.parse text form = .ok g) :
    Precedes s clock text (shown { s with printTable := true } g) := by
  have htable : g.table s.input none clock = .ok (g.filled s.input) := Grammar.table_none g _ clock
  by_cases hcell : ∃ i j, (g.filled s.input).get i j ≠ []
  · have hinput : s.input ≠ [] := by
      intro hinput
      obtain ⟨i, j, hcell⟩ := hcell
      rw [hinput] at hcell
      exact hcell (Grammar.get_filled_eq_nil (by simp))
    have hshown : shown { s with printTable := true } g = Outcome.line (g.filled s.input).toText :=
      if_pos ⟨rfl, (Grammar.toText_filled_ne_nil_iff g s.input).2 hcell⟩
    rw [hshown]
    exact .table hlines hform hg htable hinput hcell
  · have hshown : shown { s with printTable := true } g = [] :=
      if_neg fun h => hcell ((Grammar.toText_filled_ne_nil_iff g s.input).1 h.2)
    have hempty : ∀ i j, (g.filled s.input).get i j = [] := by simpa using hcell
    rw [hshown]
    exact .noCell hlines hform hg htable (Or.inr hempty)

/-- Whether the table is printed matters for what is shown before the answer alone. -/
theorem run_printTable (s : CheckSettings) (clock : Clock) (read : ReadResult) (printTable : Bool) :
    run { s with printTable } .warning clock read =
      match (prepare s read).2 with
      | .error o => o
      | .ok (g, timeout) =>
        conclude timeout ((g.accepts s.input timeout.limit clock).map
          fun isIn => (shown { s with printTable } g, isIn)) :=
  run_warning { s with printTable } clock read

end Check

/-- **Printing the table adds the table and changes nothing else.**  With the table in print and without,
`check` at the log level `WARNING` comes to the same end and reports the same.  If it does not end well,
nothing is printed either way; if it does, what is printed is the same but for what stands before it. -/
theorem printed_table_precedes_answer (s : CheckSettings) (clock : Clock) (fs : FileSystem) :
    ∃ plain printing : Outcome,
      (Request.check { s with printTable := false }).run .warning clock fs = (plain, fs) ∧
      (Request.check { s with printTable := true }).run .warning clock fs = (printing, fs) ∧
      printing.ending = plain.ending ∧ printing.stderr = plain.stderr ∧
      (plain.ending ≠ .exit 0 → plain.stdout = [] ∧ printing.stdout = []) ∧
      (plain.ending = .exit 0 → ∃ text before, fs.readText s.grammarFile = .text text ∧
        printing.stdout = before ++ plain.stdout ∧ Check.Precedes s clock text before) := by
  have hrun := Check.run_printTable s clock (fs.readText s.grammarFile)
  have hprepared := Check.prepared_prepare s (fs.readText s.grammarFile)
  generalize (Check.prepare s (fs.readText s.grammarFile)).2 = result at hrun hprepared
  cases hprepared with
  | @failed o h =>
    refine ⟨o, o, Prod.ext (hrun false) rfl, Prod.ext (hrun true) rfl, rfl, rfl, ?_, ?_⟩
    · exact fun _ => ⟨h.stdout, h.stdout⟩
    · exact fun hend => absurd hend h.ending
  | @malformed text hread hcheck hlines =>
    refine ⟨_, _, Prod.ext (hrun false) rfl, Prod.ext (hrun true) rfl, rfl, rfl, ?_, ?_⟩
    · exact fun hend => absurd rfl hend
    · exact fun _ => ⟨text, [], hread, rfl, .malformed hcheck hlines⟩
  | @ready text form g timeout hread hlines hform hg htimeout =>
    refine ⟨_, _, Prod.ext (hrun false) rfl, Prod.ext (hrun true) rfl, ?_⟩
    cases g.accepts s.input timeout.limit clock with
    | error late => exact ⟨rfl, rfl, fun _ => ⟨rfl, rfl⟩, nofun⟩
    | ok isIn =>
      have hplain : Check.shown { s with printTable := false } g = [] := Check.shown_eq_nil rfl
      refine ⟨rfl, rfl, fun hend => absurd rfl hend, fun _ => ⟨text, _, hread, ?_,
        Check.precedes_shown clock hlines hform hg⟩⟩
      simp only [Except.map, hplain, List.nil_append]

end Chart
