import Chart.Proofs.Command.Cases
import Chart.Proofs.Table.TimeLimit

/-!
# Proofs/Command/TimeLimit — time limits from the recognizer to the command

The recognizer takes every limit at its word: time that has passed exceeds a negative limit, if any spans
are begun at all.  `check` takes **a negative limit for none**, so it never runs out of time under one, and
neither the clock nor the number that was given matters (`Check.act_unlimited`).

* `Setting.IsNegative` — the settings that are numbers below zero; `Timeout.limit_eq_none` — they grant all
  the time.
* `time_limit_ends_or_changes_nothing` — the table, the verdict and the command under a limit.
-/

namespace Chart

/-! ## Negative settings -/

/-- A double below zero. -/
def Binary64.IsNegative (x : Binary64) : Prop :=
  x = .infinite true ∨ ∃ value, x.toRat? = some value ∧ value < 0

/-- **A setting below zero**: a number, or the text of one. -/
def Setting.IsNegative : Setting → Prop
  | .text t => ∃ x, Binary64.read? t = some x ∧ x.IsNegative
  | .integer n => n < 0
  | .float x => x.IsNegative
  | .flag _ => False

namespace Timeout

variable {setting : Setting} {timeout : Timeout}

theorem limit?_eq_none {seconds : Rat} (h : seconds < 0) : limit? seconds = none :=
  if_neg (Std.not_le.2 h)

theorem limit_ofBinary64_eq_none {x : Binary64} (h : x.IsNegative) : (ofBinary64 x).limit = none := by
  rcases h with rfl | ⟨value, hvalue, hneg⟩
  · rfl
  · rw [ofBinary64, hvalue]
    exact limit?_eq_none hneg

/-- **A setting below zero sets no limit.** -/
theorem limit_eq_none (htimeout : ofSetting? setting = some timeout) (hneg : setting.IsNegative) :
    timeout.limit = none := by
  cases setting with
  | text t =>
    obtain ⟨x, hread, hx⟩ := hneg
    rw [ofSetting?, hread] at htimeout
    cases htimeout
    exact limit_ofBinary64_eq_none hx
  | integer n =>
    cases htimeout
    exact limit?_eq_none (Rat.intCast_lt_intCast.2 hneg)
  | float x =>
    cases htimeout
    exact limit_ofBinary64_eq_none hneg
  | flag b => exact hneg.elim

end Timeout

namespace Check

variable {s : CheckSettings} {timeout : Timeout} {form : NormalForm} {clock : Clock} {read : ReadResult}
  {o : Outcome}

/-! ## Runs without a limit -/

/-- Before the table a time limit is only handed on. -/
theorem prepare_timeout {timeout' : Timeout} (htimeout : s.timeout = some timeout)
    (read : ReadResult) :
    prepare { s with timeout := some timeout' } read =
      Prod.map id (Except.map fun p => (p.1, timeout')) (prepare s read) := by
  have hbuild : ∀ text, build { s with timeout := some timeout' } text =
      Prod.map id (Except.map fun p => (p.1, timeout')) (build s text) := by
    intro text
    simp only [build]
    cases Loading.normalForm s.normalForm with
    | error f => rfl
    | ok form =>
      obtain ⟨g, -, hresult⟩ | ⟨e, -, hresult⟩ := Loading.grammarFromText_cases text form
      · simp only [hresult, withTimeout, Loading.grammarOrExit, htimeout]
        rfl
      · simp only [hresult]
        rfl
  cases read with
  | fault fault => rfl
  | notUtf8 => rfl
  | nullCharacter => rfl
  | text text =>
    simp only [prepare, Loading.readGrammarFile]
    cases if s.lineCheck = true then LinePattern.firstMalformed? text else none with
    | some line => rfl
    | none => exact hbuild text

/-- A table that was filled in time is used in the same way under every limit. -/
theorem recognise_ok (s : CheckSettings) (timeout timeout' : Timeout) (g : Grammar) (t : Table) :
    recognise s timeout g (.ok t) = recognise { s with timeout := some timeout' } timeout' g (.ok t) := by
  have hjudge : ∃ records isIn, judge g s.input (.ok t) = (records, .ok isIn) := by
    rw [judge.eq_def]
    cases s.input <;> exact ⟨_, _, rfl⟩
  obtain ⟨records, isIn, hjudge⟩ := hjudge
  simp only [recognise, tabulate, hjudge]
  rfl

/-- **Without a limit neither the clock nor how the limit is shown matters.** -/
theorem act_unlimited (s : CheckSettings) (clock clock' : Clock) (read : ReadResult)
    {timeout' : Timeout} (htimeout : s.timeout = some timeout) (hlimit : timeout.limit = none)
    (hlimit' : timeout'.limit = none) :
    act s clock read = act { s with timeout := some timeout' } clock' read := by
  have hprepared := prepared_prepare s read
  rw [act.eq_def, act.eq_def, prepare_timeout htimeout]
  rcases hprepare : prepare s read with ⟨records, o | ⟨g, τ⟩⟩
  · rfl
  · rw [hprepare] at hprepared
    cases hprepared with
    | ready hread hlines hform hg hτ =>
      obtain rfl : timeout = τ := Option.some.inj (htimeout.symm.trans hτ)
      simp only [Prod.map, Except.map, hlimit, hlimit', Grammar.table_none]
      rw [recognise_ok s timeout timeout']
      rfl

/-- **Without a limit no run ends because time ran out.** -/
theorem Comes.ne_timedOut {case : Case} (h : Comes s form timeout clock read case o)
    (hlimit : timeout.limit = none) : case ≠ .timedOut := by
  cases h with
  | timedOut _ _ _ haccepts =>
    rw [hlimit, Grammar.accepts_none] at haccepts
    cases haccepts
  | _ => nofun

/-- Without a limit every run that gets to text comes to one of the other ends. -/
theorem exists_comes_unlimited (level : LogLevel) (hform : s.normalForm = some (.text form.name))
    (htimeout : s.timeout = some timeout) (hlimit : timeout.limit = none) (hutf8 : read ≠ .notUtf8)
    (hpath : read ≠ .nullCharacter) :
    ∃ case, Comes s form timeout clock read case (run s level clock read) ∧ case ≠ .timedOut := by
  obtain ⟨case, hcase⟩ := exists_comes hform htimeout clock hutf8 hpath
  rw [run_eq]
  exact ⟨case, hcase.afterStderr _, hcase.ne_timedOut hlimit⟩

end Check

/-! ## Recognition and the command under a limit -/

/-- **A time limit ends recognition or changes nothing.**  The table of a word, and the verdict on it, fail
exactly if some length is begun when more time than the limit has passed, and else they are what they are
without a limit; the empty word has no length, so there is always a verdict on it.  On a clock that goes
steadily the last length decides, and on no clock does more time end what less time does not.

`check` takes a limit below zero for none: whatever the clock, it leaves what it leaves without a limit, and
it does not run out of time. -/
theorem time_limit_ends_or_changes_nothing (g : Grammar) (word : Text) (seconds : Rat) (clock : Clock) :
    Grammar.EndsOrAgrees word seconds clock (g.table word (some seconds) clock)
      (g.table word none clock) ∧
    Grammar.EndsOrAgrees word seconds clock (g.accepts word (some seconds) clock)
      (g.accepts word none clock) ∧
    g.accepts [] (some seconds) clock = .ok g.hasEpsilonStartRule ∧
    (∀ step, 0 ≤ step → (∀ m, clock (m + 1) = clock m + step) →
      ((∃ late, g.table word (some seconds) clock = .error late) ↔
        1 ≤ word.length ∧ seconds < word.length * step)) ∧
    (∀ more, seconds ≤ more → (∃ late, g.table word (some more) clock = .error late) →
      ∃ late, g.table word (some seconds) clock = .error late) ∧
    ∀ (s : CheckSettings) (setting : Setting) (timeout : Timeout) (level : LogLevel) (fs : FileSystem),
      s.timeout = some timeout → Timeout.ofSetting? setting = some timeout → setting.IsNegative →
      (∀ shown clock', (Request.check s).run level clock fs =
        (Request.check { s with timeout := some ⟨shown, none⟩ }).run level clock' fs) ∧
      ∀ form, s.normalForm = some (.text form.name) → '\x00' ∉ s.grammarFile →
        fs.readText s.grammarFile ≠ .notUtf8 →
        ∃ case o, (Request.check s).run level clock fs = (o, fs) ∧
          Check.Comes s form timeout clock (fs.readText s.grammarFile) case o ∧ case ≠ .timedOut := by
  have htable : ∀ limit, (∃ late, g.table word (some limit) clock = .error late) ↔
      ∃ length, Grammar.IsOverdue word limit clock length :=
    fun limit => (g.endsOrAgrees_table word limit clock).ends_iff
  refine ⟨g.endsOrAgrees_table word seconds clock, g.endsOrAgrees_accepts word seconds clock, rfl,
    ?_, ?_, ?_⟩
  · intro step hstep hsteady
    rw [htable, Grammar.exists_isOverdue_iff_of_steady hstep hsteady]
  · intro more hle hlate
    obtain ⟨length, hlength⟩ := (htable more).1 hlate
    exact (htable seconds).2 ⟨length, hlength.of_le hle⟩
  · intro s setting timeout level fs htimeout hsetting hneg
    have hlimit : timeout.limit = none := Timeout.limit_eq_none hsetting hneg
    refine ⟨fun shown clock' => ?_, fun form hform hpath hutf8 => ?_⟩
    · have hact := @Check.act_unlimited timeout s clock clock' (fs.readText s.grammarFile) ⟨shown, none⟩
        htimeout hlimit rfl
      rw [Request.run_eq, Request.run_eq, Request.act, Request.act, hact]
    · obtain ⟨case, hcomes, hcase⟩ := Check.exists_comes_unlimited level hform htimeout hlimit hutf8
        (fs.readText_ne_nullCharacter hpath)
      exact ⟨case, _, rfl, hcomes, hcase⟩

end Chart
