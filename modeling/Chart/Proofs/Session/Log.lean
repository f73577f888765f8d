import Chart.Proofs.Command.Check
import Chart.Proofs.Session.Inquiries

/-!
# Proofs/Session/Log — the log of a process

A process has no log until a run carries out a command that opens one.  **From then on the log is the same**:
no step changes its level, and no step takes back what it got (`Session.log_extends_after`), whatever level
the later runs ask for.  So the log of a process is that of the first run that opened one:
`Session.log_opened_once`.
-/

namespace Chart

/-- Nothing is added to a log without records. -/
theorem Log.add_nil (log : Log) : log.add [] = log := by
  rw [add, LogRecord.log, List.filter_nil, List.flatMap_nil, List.append_nil]

/-- **A log that goes on**: the level stays, and what was written stays. -/
structure Log.Extends (log log' : Log) : Prop where
  level : log'.level = log.level
  later : log.later <+: log'.later

namespace Log.Extends

theorem refl (log : Log) : log.Extends log := ⟨rfl, List.prefix_refl _⟩

theorem trans {log log' log'' : Log} (h : log.Extends log') (h' : log'.Extends log'') :
    log.Extends log'' :=
  ⟨h'.level.trans h.level, h.later.trans h'.later⟩

theorem add (log : Log) (records : List LogRecord) : log.Extends (log.add records) :=
  ⟨rfl, List.prefix_append _ _⟩

end Log.Extends

variable {reader : DocumentReader} {s : Session} {log : Log} {step : Step} {steps : List Step}

/-! ## Commands and command lines -/

/-- **A command in a process with a log** leaves what it leaves in a process of its own, at any level, but for
its records, which go to the log. -/
theorem Request.exists_runIn_some (request : Request) (log : Log) (clock : Clock) (fs : FileSystem) :
    ∃ o fs' records,
      (∀ level, request.runIn (some log) level clock fs = (o, fs', some (log.add records))) ∧
      ∀ level, request.run level clock fs = (o.logged level records, fs') :=
  ⟨_, _, _, fun _ => rfl, fun level => request.run_eq level clock fs⟩

/-- A command that opens the log gives it its level. -/
theorem Request.runIn_none (request : Request) (level : LogLevel) (clock : Clock) (fs : FileSystem) :
    (request.runIn none level clock fs).2.2 = if request.opensLog then some ⟨level, []⟩ else none := by
  simp only [runIn]
  cases request.opensLog <;> rfl

namespace CommandLine

variable {snapshots : Snapshots} {clock : Clock} {arguments : List Text} {fs : FileSystem}

theorem log_extends_runIn (log : Log) :
    ∃ log', (runIn reader snapshots (some log) clock arguments fs).2.2.2 = some log' ∧
      log.Extends log' := by
  unfold runIn
  rcases defaults reader snapshots fs.configFiles arguments with ⟨o | d, kept⟩
  · exact ⟨log, rfl, .refl log⟩
  · simp only
    cases plan d arguments with
    | error o => exact ⟨log, rfl, .refl log⟩
    | ok planned => exact ⟨_, rfl, .add log _⟩

/-- **A command line opens a log only by a command that it carries out**, at the level that was planned. -/
theorem exists_plan_of_log (h : (runIn reader snapshots none clock arguments fs).2.2.2 = some log) :
    ∃ d request, (defaults reader snapshots fs.configFiles arguments).1 = .ok d ∧
      plan d arguments = .ok (request, log.level) ∧ request.opensLog = true := by
  unfold runIn at h
  rcases hdefaults : defaults reader snapshots fs.configFiles arguments with ⟨o | d, kept⟩ <;>
    rw [hdefaults] at h
  · cases h
  · simp only at h
    cases hplan : plan d arguments with
    | error o =>
      rw [hplan] at h
      cases h
    | ok planned =>
      obtain ⟨request, level⟩ := planned
      simp only [hplan, Request.runIn_none] at h
      split at h
      · cases h
        exact ⟨d, request, rfl, hplan, ‹_›⟩
      · cases h

end CommandLine

namespace Session

/-! ## Steps -/

theorem log_change (s : Session) (path : Text) (files : Except FileFault FileSystem) :
    (s.change path files).2.log = s.log := by
  unfold change
  split
  · rfl
  · split <;> rfl

/-- A step is a run, or it adds records to the log, if there is one, and opens none. -/
theorem run_or_log_step (s : Session) (reader : DocumentReader) (step : Step) :
    (∃ arguments clock, step = .run arguments clock) ∨
      ∃ records, (s.step reader step).2.log = s.log.map (·.add records) := by
  have hsame : s.log = s.log.map (·.add []) := by
    cases s.log with
    | none => rfl
    | some log => rw [Option.map_some, Log.add_nil]
  cases step with
  | run arguments clock => exact .inl ⟨arguments, clock, rfl⟩
  | loadGrammar path form => exact .inr ⟨_, rfl⟩
  | write path data | makeDirectory path => exact .inr ⟨[], (s.log_change path _).trans hsame⟩
  | remove | config | default =>
    refine .inr ⟨[], hsame ▸ ?_⟩
    simp only [Session.step]
    split <;> rfl
  | cat | readGrammar | clear => exact .inr ⟨[], hsame⟩

/-- **No step takes the log back.** -/
theorem log_extends_step (reader : DocumentReader) (step : Step) (h : s.log = some log) :
    ∃ log', (s.step reader step).2.log = some log' ∧ log.Extends log' := by
  obtain ⟨arguments, clock, rfl⟩ | ⟨records, hrecords⟩ := s.run_or_log_step reader step
  · simp only [Session.step, h]
    exact CommandLine.log_extends_runIn log
  · rw [h] at hrecords
    exact ⟨_, hrecords, .add log records⟩

/-- **The log of a process stays its log**: it keeps its level and what it got. -/
theorem log_extends_after (reader : DocumentReader) (steps : List Step) (h : s.log = some log) :
    ∃ log', (s.after reader steps).log = some log' ∧ log.Extends log' := by
  induction steps generalizing s log with
  | nil => exact ⟨log, h, .refl log⟩
  | cons step rest ih =>
    obtain ⟨log', hstep, hextends⟩ := log_extends_step reader step h
    obtain ⟨log'', hrest, hextends'⟩ := ih hstep
    exact ⟨log'', hrest, hextends.trans hextends'⟩

/-- Only a run opens a log. -/
theorem exists_run_of_log (hnone : s.log = none) (h : (s.step reader step).2.log = some log) :
    ∃ arguments clock, step = .run arguments clock := by
  refine (s.run_or_log_step reader step).resolve_right ?_
  rintro ⟨records, hrecords⟩
  rw [hnone, h] at hrecords
  cases hrecords

/-- **The log of a process is that of the first run that opened one**: before that run there was none, and its
level is the one that was planned under the defaults of that run. -/
theorem log_opened_once (hnone : s.log = none) (h : (s.after reader steps).log = some log) :
    ∃ before arguments clock later d request,
      steps = before ++ .run arguments clock :: later ∧ (s.after reader before).log = none ∧
      (CommandLine.defaults reader (s.after reader before).snapshots
        (s.after reader before).files.configFiles arguments).1 = .ok d ∧
      CommandLine.plan d arguments = .ok (request, log.level) ∧ request.opensLog = true := by
  induction steps generalizing s with
  | nil => cases hnone.symm.trans h
  | cons step rest ih =>
    cases hstep : (s.step reader step).2.log with
    | none =>
      obtain ⟨before, arguments, clock, later, d, request, rfl, hbefore, hplan⟩ := ih hstep h
      exact ⟨step :: before, arguments, clock, later, d, request, rfl, hbefore, hplan⟩
    | some opened =>
      obtain ⟨arguments, clock, rfl⟩ := exists_run_of_log hnone hstep
      obtain ⟨log', hlog', hextends⟩ := log_extends_after reader rest hstep
      cases hlog'.symm.trans h
      simp only [Session.step, hnone] at hstep
      obtain ⟨d, request, hdefaults, hplan, hopens⟩ := CommandLine.exists_plan_of_log hstep
      rw [← hextends.level] at hplan
      exact ⟨[], arguments, clock, rest, d, request, rfl, hnone, hdefaults, hplan, hopens⟩

end Session

end Chart
