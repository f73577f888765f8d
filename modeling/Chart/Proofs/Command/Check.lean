import Chart.Proofs.Command.Loading
import Chart.Proofs.Table.Exact
import Chart.Command.Run

/-!
# Proofs/Command/Check — what a run of `check` leaves

What comes before the table fails, or finds a malformed line, or ends in a grammar and a time limit
(`Prepared`).  With these, recognition comes to the verdict of the recognizer: it may print the table before
the answer (`shown`), and then it reads the verdict off that table, but the verdict is the same
(`recognise_snd`).  What is logged is less than a warning.
-/

namespace Chart

theorem LogRecord.log_eq_nil {level : LogLevel} {records : List LogRecord}
    (h : ∀ r ∈ records, level.rank < r.level.rank) : log level records = [] := by
  have hnone : records.filter (fun r => r.level.rank ≤ level.rank) = [] :=
    List.filter_eq_nil_iff.2 fun r hr => by simpa using h r hr
  rw [log, hnone, List.flatMap_nil]

theorem Outcome.logged_eq_self {level : LogLevel} {records : List LogRecord} {o : Outcome}
    (h : ∀ r ∈ records, level.rank < r.level.rank) : o.logged level records = o := by
  rw [logged, LogRecord.log_eq_nil h, afterStderr, List.nil_append]

/-- **The run was in vain**: it says nothing on the first channel, and its end is not a good one. -/
structure Outcome.IsFailure (o : Outcome) : Prop where
  stdout : o.stdout = []
  ending : o.ending ≠ .exit 0

theorem Outcome.isFailure_raised (f : Failure) : (raised f).IsFailure := ⟨rfl, nofun⟩

theorem Outcome.isFailure_failed {code : Nat} (hcode : code ≠ 0) (report : Text) :
    (failed code report).IsFailure :=
  ⟨rfl, fun h => hcode (Ending.exit.inj h)⟩

namespace Check

variable {s : CheckSettings} {level : LogLevel} {clock : Clock} {read : ReadResult} {text : Text}
  {form : NormalForm} {timeout : Timeout} {g : Grammar}

/-! ## Before the table -/

/-- **What the run has before the table.** -/
inductive Prepared (s : CheckSettings) (read : ReadResult) :
    Except Outcome (Grammar × Timeout) → Prop
  | failed {o : Outcome} (h : o.IsFailure) : Prepared s read (.error o)
  | malformed {text : Text} (hread : read = .text text) (hcheck : s.lineCheck = true)
      (hlines : LinePattern.acceptsAll text = false) :
      Prepared s read (.error (.done (answer false)))
  | ready {text : Text} {form : NormalForm} {g : Grammar} {timeout : Timeout}
      (hread : read = .text text)
      (hlines : s.lineCheck = true → LinePattern.acceptsAll text = true)
      (hform : Loading.normalForm s.normalForm = .ok form) (hg : Grammar.parse text form = .ok g)
      (htimeout : s.timeout = some timeout) : Prepared s read (.ok (g, timeout))

/-- A malformed line is answered, if the line check is on. -/
theorem prepare_malformed (hcheck : s.lineCheck = true)
    (hlines : LinePattern.acceptsAll text = false) :
    ∃ number line, prepare s (.text text) =
      ([malformed number line], .error (.done (answer false))) := by
  have hsome : LinePattern.firstMalformed? text ≠ none := fun hnone => by
    rw [LinePattern.acceptsAll, hnone] at hlines
    exact nomatch hlines
  obtain ⟨⟨number, line⟩, hfirst⟩ := Option.ne_none_iff_exists'.1 hsome
  exact ⟨number, line, by simp only [prepare, Loading.readGrammarFile, hcheck, if_true, hfirst]⟩

/-- A text goes on to be built unless the line check is on and finds a malformed line. -/
theorem prepare_text (h : s.lineCheck = true → LinePattern.acceptsAll text = true) :
    prepare s (.text text) = build s text := by
  have hnone : (if s.lineCheck then LinePattern.firstMalformed? text else none) = none := by
    by_cases hcheck : s.lineCheck = true
    · rw [if_pos hcheck]
      exact Option.isNone_iff_eq_none.1 (h hcheck)
    · exact if_neg hcheck
  simp only [prepare, Loading.readGrammarFile, hnone]

/-- The grammar of a text and the time limit are built from settings that name a normal form and are not
nothing. -/
theorem build_eq (hform : Loading.normalForm s.normalForm = .ok form)
    (hg : Grammar.parse text form = .ok g) (htimeout : s.timeout = some timeout) :
    build s text = ([Loading.parsed g], .ok (g, timeout)) := by
  simp only [build, hform, Loading.grammarFromText_of_ok hg, withTimeout, Loading.grammarOrExit, htimeout]

/-- A text that is no grammar is reported. -/
theorem build_eq_of_error {e : GrammarError} (hform : Loading.normalForm s.normalForm = .ok form)
    (hg : Grammar.parse text form = .error e) :
    build s text = ([], .error (.failed 65 (Loading.report name
      ("invalid grammar (".toList ++ e.message ++ [')'])))) := by
  simp only [build, hform, Loading.grammarFromText_of_error hg, withTimeout, Loading.grammarOrExit]

theorem prepared_build (hlines : s.lineCheck = true → LinePattern.acceptsAll text = true) :
    Prepared s (.text text) (build s text).2 := by
  cases hform : Loading.normalForm s.normalForm with
  | error f =>
    simp only [build, hform]
    exact .failed (Outcome.isFailure_raised f)
  | ok form =>
    cases hg : Grammar.parse text form with
    | error e =>
      rw [build_eq_of_error hform hg]
      exact .failed (Outcome.isFailure_failed (by decide) _)
    | ok g =>
      cases htimeout : s.timeout with
      | none =>
        simp only [build, hform, Loading.grammarFromText_of_ok hg, withTimeout, Loading.grammarOrExit,
          htimeout]
        exact .failed (Outcome.isFailure_raised _)
      | some timeout =>
        rw [build_eq hform hg htimeout]
        exact .ready rfl hlines hform hg htimeout

/-- **Every run has one of these before the table.** -/
theorem prepared_prepare (s : CheckSettings) (read : ReadResult) :
    Prepared s read (prepare s read).2 := by
  cases read with
  | fault fault => exact .failed (Outcome.isFailure_failed (by decide) _)
  | notUtf8 => exact .failed (Outcome.isFailure_raised _)
  | nullCharacter => exact .failed (Outcome.isFailure_raised _)
  | text text =>
    by_cases hmalformed : s.lineCheck = true ∧ LinePattern.acceptsAll text = false
    · obtain ⟨number, line, hprepare⟩ := prepare_malformed hmalformed.1 hmalformed.2
      rw [hprepare]
      exact .malformed rfl hmalformed.1 hmalformed.2
    · have hlines : s.lineCheck = true → LinePattern.acceptsAll text = true := by
        simpa using hmalformed
      rw [prepare_text hlines]
      exact prepared_build hlines

/-- What is logged before the table is less than a warning. -/
theorem level_of_mem_prepare (s : CheckSettings) (read : ReadResult) :
    ∀ r ∈ (prepare s read).1, LogLevel.warning.rank < r.level.rank := by
  have hbuild : ∀ text, ∀ r ∈ (build s text).1, LogLevel.warning.rank < r.level.rank := by
    intro text
    rw [build]
    cases Loading.normalForm s.normalForm with
    | error f => simp
    | ok form =>
      obtain ⟨g, -, hresult⟩ | ⟨e, -, hresult⟩ := Loading.grammarFromText_cases text form <;>
        simp [hresult, Loading.parsed, LogLevel.rank]
  rw [prepare]
  split
  · simp
  · simp
  · split
    · simp [malformed, LogLevel.rank]
    · exact hbuild _

/-! ## Recognition

With the table in print the verdict is read off that table, without it the verdict is the one of
`Grammar.accepts`.  The log of either way holds records for debugging only. -/

/-- What is printed before the answer: the lines of the table, if they are asked for. -/
def shown (s : CheckSettings) (g : Grammar) : Text :=
  if s.printTable = true ∧ (g.filled s.input).toText ≠ [] then
    Outcome.line (g.filled s.input).toText
  else []

/-- The outcome of a run that comes to an answer. -/
def answered (s : CheckSettings) (g : Grammar) : Outcome :=
  ⟨shown s g ++ Outcome.line (answer (g.verdict s.input)), [], .exit 0⟩

theorem printed_eq (t : Table) :
    printed t = if t.toText ≠ [] then Outcome.line t.toText else [] := by
  rw [printed]
  cases t.toText with
  | nil => rfl
  | cons c text => rfl

theorem tabulate_snd (g : Grammar) (word : Text) (result : Except TimedOut Table) :
    (tabulate g word result).2 = result.map fun t => (printed t, g.startsIn word t) := by
  cases result <;> rfl

/-- **The verdict without the table in print is that of the recognizer.** -/
theorem judge_table (g : Grammar) (word : Text) (limit : Option Rat) (clock : Clock) :
    (judge g word (g.table word limit clock)).2 = g.accepts word limit clock := by
  cases word with
  | nil => rfl
  | cons c word =>
    simp only [judge, Grammar.accepts]
    cases g.table (c :: word) limit clock <;> rfl

/-- Nothing is printed before the answer unless the table is asked for and the word is not empty. -/
theorem shown_eq_nil (h : (s.printTable && !s.input.isEmpty) = false) : shown s g = [] := by
  refine if_neg fun hshown => ?_
  have hinput : s.input = [] := by simpa [hshown.1] using h
  rw [hinput] at hshown
  exact hshown.2 rfl

/-- **Recognition comes to the verdict of the recognizer, with the table in print or without.** -/
theorem recognise_snd (s : CheckSettings) (timeout : Timeout) (clock : Clock) (g : Grammar) :
    (recognise s timeout g (g.table s.input timeout.limit clock)).2 =
      conclude timeout
        ((g.accepts s.input timeout.limit clock).map fun isIn => (shown s g, isIn)) := by
  cases hprints : s.printTable && !s.input.isEmpty with
  | true =>
    obtain ⟨hprint, hinput⟩ : s.printTable = true ∧ s.input ≠ [] := by simpa using hprints
    have hsnd : (recognise s timeout g (g.table s.input timeout.limit clock)).2 =
        conclude timeout (tabulate g s.input (g.table s.input timeout.limit clock)).2 := by
      rw [recognise, if_pos hprints]
    rw [hsnd, tabulate_snd, Grammar.accepts_of_ne_nil hinput]
    cases htable : g.table s.input timeout.limit clock with
    | error late => rfl
    | ok t =>
      obtain rfl := Grammar.eq_filled_of_table htable
      simp [Except.map, printed_eq, shown, hprint]
  | false =>
    have hsnd : (recognise s timeout g (g.table s.input timeout.limit clock)).2 =
        conclude timeout ((judge g s.input (g.table s.input timeout.limit clock)).2.map
          fun isIn => ([], isIn)) := by
      rw [recognise, hprints]
      rfl
    rw [hsnd, judge_table, shown_eq_nil hprints]

/-- Recognition logs for debugging only. -/
theorem level_of_mem_recognise (result : Except TimedOut Table) :
    ∀ r ∈ (recognise s timeout g result).1, r.level = .debug := by
  have htabulate : ∀ r ∈ (tabulate g s.input result).1, r.level = .debug := by
    cases result <;> simp [tabulate, late]
  have hjudge : ∀ r ∈ (judge g s.input result).1, r.level = .debug := by
    rw [judge.eq_def]
    cases s.input <;> cases result <;> simp [late, filled]
  rw [recognise]
  split
  · exact htabulate
  · exact hjudge

/-- **Without a time limit recognition comes to an answer**, and logs for debugging only. -/
theorem recognise_eq (s : CheckSettings) (clock : Clock) (g : Grammar) (hlimit : timeout.limit = none) :
    ∃ records, recognise s timeout g (g.table s.input timeout.limit clock) = (records, answered s g) ∧
      ∀ r ∈ records, r.level = .debug := by
  refine ⟨_, Prod.ext rfl ?_, level_of_mem_recognise _⟩
  rw [recognise_snd, hlimit, Grammar.accepts_none]
  rfl

/-- **A run that builds a grammar without a time limit comes to an answer**, and logs for debugging only. -/
theorem act_eq_of_build (clock : Clock)
    (hlines : s.lineCheck = true → LinePattern.acceptsAll text = true)
    (hform : Loading.normalForm s.normalForm = .ok form) (hg : Grammar.parse text form = .ok g)
    (htimeout : s.timeout = some timeout) (hlimit : timeout.limit = none) :
    ∃ records, act s clock (.text text) = (records, answered s g) ∧
      ∀ r ∈ records, r.level = .debug := by
  obtain ⟨records, hrecognise, hdebug⟩ := recognise_eq s clock g hlimit
  refine ⟨Loading.parsed g :: records, ?_, List.forall_mem_cons.2 ⟨rfl, hdebug⟩⟩
  simp only [act, prepare_text hlines, build_eq hform hg htimeout, hrecognise]
  rfl

/-- What a run comes to, its log apart: what is prepared, or the conclusion from the verdict. -/
def concluded (s : CheckSettings) (clock : Clock) (read : ReadResult) : Outcome :=
  match (prepare s read).2 with
  | .error o => o
  | .ok (g, timeout) =>
    conclude timeout ((g.accepts s.input timeout.limit clock).map fun isIn => (shown s g, isIn))

theorem act_snd (s : CheckSettings) (clock : Clock) (read : ReadResult) :
    (act s clock read).2 = concluded s clock read := by
  rw [act, concluded]
  rcases prepare s read with ⟨records, o | ⟨g, timeout⟩⟩
  · rfl
  · exact recognise_snd s timeout clock g

/-- A run logs less than warnings. -/
theorem level_of_mem_act (s : CheckSettings) (clock : Clock) (read : ReadResult) :
    ∀ r ∈ (act s clock read).1, LogLevel.warning.rank < r.level.rank := by
  have hlevel := level_of_mem_prepare s read
  rw [act]
  rcases hprepare : prepare s read with ⟨records, o | ⟨g, timeout⟩⟩ <;> rw [hprepare] at hlevel
  · exact hlevel
  · intro r hr
    obtain hr | hr := List.mem_append.1 hr
    · exact hlevel r hr
    · rw [level_of_mem_recognise _ r hr]
      decide

/-- **A run leaves its conclusion and its log.** -/
theorem run_eq (s : CheckSettings) (level : LogLevel) (clock : Clock) (read : ReadResult) :
    run s level clock read = (concluded s clock read).logged level (act s clock read).1 := by
  rw [run, act_snd]

/-- **A run that logs only warnings** leaves what is prepared, or concludes with the verdict. -/
theorem run_warning (s : CheckSettings) (clock : Clock) (read : ReadResult) :
    run s .warning clock read = concluded s clock read := by
  rw [run_eq, Outcome.logged_eq_self (level_of_mem_act s clock read)]

end Check

/-! ## Commands and command lines -/

/-- A command in a process of its own leaves its outcome and its log. -/
theorem Request.run_eq (request : Request) (level : LogLevel) (clock : Clock) (fs : FileSystem) :
    request.run level clock fs =
      ((request.act clock fs).1.2.logged level (request.act clock fs).1.1,
        (request.act clock fs).2) := by
  cases request with
  | check s => rfl
  | automaton input => rfl
  | «show» s => rfl
  | dumpConfig outputFile => rfl

/-- A command line leaves what the command leaves that it plans. -/
theorem CommandLine.run_of_plan {reader : DocumentReader} {snapshots snapshots' : Snapshots}
    {fs : FileSystem} {arguments : List Text} {d : Defaults} {request : Request} {level : LogLevel}
    (hdefaults : defaults reader snapshots fs.configFiles arguments = (.ok d, snapshots'))
    (hplan : plan d arguments = .ok (request, level)) (clock : Clock) :
    run reader snapshots clock arguments fs =
      ((request.run level clock fs).1, (request.run level clock fs).2, snapshots') := by
  simp only [run, runIn, hdefaults, hplan]
  rfl

end Chart
