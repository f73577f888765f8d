import Chart.Proofs.Config.Kept
import Chart.Proofs.Config.Resolution

/-!
# Proofs/Session/Inquiries — what a process is told about its configuration

A step of a session asks for the configuration once, twice or never (`Session.inquiries`), and what it
replies is decided by the answers (`Session.Answered`).  The snapshots serve the inquiries of all steps in
their order, so **a question that was answered with a configuration is always answered with it**:
`kept_configuration`.

Start-up and the lookup of defaults are different questions about the same files.  A run puts both of
them, the one right after the other; so if a run is the first to be told a configuration, the two are
answered alike from then on.  If the defaults were looked up before, start-up still looks at the files:
`config_before_run_is_not_kept`.  None of this depends on how documents are read.
-/

namespace Chart

/-- The questions that a step may ask. -/
def Step.questions : Step → List ConfigQuestion
  | run _ _ => [.startUp, .defaults none]
  | config content | default _ _ content => [.defaults content]
  | _ => []

namespace Session

open Inquiry

variable {reader : DocumentReader} {s : Session} {steps : List Step} {step : Step}

/-- **The inquiries of a step**: a run that is told a configuration at start-up asks again for the
defaults. -/
def inquiries (s : Session) (reader : DocumentReader) : Step → List Inquiry
  | .run _ _ =>
    match s.snapshots.ask reader .startUp s.files.configFiles with
    | (.error fault, _) => [⟨.startUp, s.files.configFiles, .error fault⟩]
    | (.ok d, snapshots) =>
      [⟨.startUp, s.files.configFiles, .ok d⟩,
        ⟨.defaults none, s.files.configFiles,
          (snapshots.ask reader (.defaults none) s.files.configFiles).1⟩]
  | .config content | .default _ _ content =>
    [⟨.defaults content, s.files.configFiles,
      (s.snapshots.ask reader (.defaults content) s.files.configFiles).1⟩]
  | _ => []

/-- **The answers decide the reply** to a step that asks; a command that is carried out finds the files and
the log of the process. -/
inductive Answered (s : Session) : Step → List Inquiry → Reply → Prop
  | config {content : Option Text} {d : Defaults} :
      Answered s (.config content) [⟨.defaults content, s.files.configFiles, .ok d⟩] (.config d)
  | badConfig {content : Option Text} {fault : ConfigFault} :
      Answered s (.config content) [⟨.defaults content, s.files.configFiles, .error fault⟩]
        (.badConfig fault)
  | setting {command option : Text} {content : Option Text} {d : Defaults} :
      Answered s (.default command option content) [⟨.defaults content, s.files.configFiles, .ok d⟩]
        (.setting (d.get? command option))
  | noSetting {command option : Text} {content : Option Text} {fault : ConfigFault} :
      Answered s (.default command option content)
        [⟨.defaults content, s.files.configFiles, .error fault⟩]
        (.noSetting (CommandLine.unconfigured ("cyk ".toList ++ command) fault))
  | notStarted {arguments : List Text} {clock : Clock} {fault : ConfigFault} :
      Answered s (.run arguments clock) [⟨.startUp, s.files.configFiles, .error fault⟩]
        (.outcome (CommandLine.unconfigured (CommandLine.program arguments) fault))
  | noDefaults {arguments : List Text} {clock : Clock} {d : Defaults} {fault : ConfigFault} :
      Answered s (.run arguments clock)
        [⟨.startUp, s.files.configFiles, .ok d⟩, ⟨.defaults none, s.files.configFiles, .error fault⟩]
        (.outcome (CommandLine.unconfigured (CommandLine.program [Check.name]) fault))
  | refused {arguments : List Text} {clock : Clock} {d d' : Defaults} {o : Outcome}
      (hplan : CommandLine.plan d' arguments = .error o) :
      Answered s (.run arguments clock)
        [⟨.startUp, s.files.configFiles, .ok d⟩, ⟨.defaults none, s.files.configFiles, .ok d'⟩]
        (.outcome o)
  | carriedOut {arguments : List Text} {clock : Clock} {d d' : Defaults} {request : Request}
      {level : LogLevel} (hplan : CommandLine.plan d' arguments = .ok (request, level)) :
      Answered s (.run arguments clock)
        [⟨.startUp, s.files.configFiles, .ok d⟩, ⟨.defaults none, s.files.configFiles, .ok d'⟩]
        (.outcome (request.runIn s.log level clock s.files).1)

/-- Whoever asks for the configuration is told the answer. -/
theorem Answered.eq_config {content : Option Text} {inquiries : List Inquiry} {reply : Reply}
    {d : Defaults} (h : Answered s (.config content) inquiries reply)
    (hanswer : ∀ i ∈ inquiries, i.answer = .ok d) : reply = .config d := by
  cases h with
  | config => cases hanswer _ List.mem_cons_self; rfl
  | badConfig => cases hanswer _ List.mem_cons_self

/-- The session after several steps. -/
def after (s : Session) (reader : DocumentReader) (steps : List Step) : Session :=
  steps.foldl (fun s step => (s.step reader step).2) s

/-- **The inquiries of several steps**, in their order. -/
def asked (s : Session) (reader : DocumentReader) : List Step → List Inquiry
  | [] => []
  | step :: rest => s.inquiries reader step ++ (s.step reader step).2.asked reader rest

theorem asked_append (s : Session) (reader : DocumentReader) (before later : List Step) :
    s.asked reader (before ++ later) =
      s.asked reader before ++ (s.after reader before).asked reader later := by
  induction before generalizing s with
  | nil => rfl
  | cons step rest ih => simp only [List.cons_append, asked, ih, List.append_assoc]; rfl

/-! ## One step -/

/-- The answers to the inquiries of a step decide its reply. -/
theorem answered_inquiries (s : Session) (h : s.inquiries reader step ≠ []) :
    Answered s step (s.inquiries reader step) (s.step reader step).1 := by
  cases step with
  | run arguments clock =>
    simp only [inquiries, Session.step, CommandLine.runIn, CommandLine.defaults]
    obtain ⟨fault | d, snapshots⟩ := s.snapshots.ask reader .startUp s.files.configFiles
    · exact .notStarted
    · simp only
      obtain ⟨fault | d', snapshots'⟩ := snapshots.ask reader (.defaults none) s.files.configFiles
      · exact .noDefaults
      · simp only
        cases hplan : CommandLine.plan d' arguments with
        | error o => exact .refused hplan
        | ok planned => exact .carriedOut hplan
  | config content =>
    simp only [inquiries, Session.step]
    obtain ⟨fault | d, snapshots⟩ := s.snapshots.ask reader (.defaults content) s.files.configFiles
    · exact .badConfig
    · exact .config
  | default command option content =>
    simp only [inquiries, Session.step, Session.default]
    obtain ⟨fault | d, snapshots⟩ := s.snapshots.ask reader (.defaults content) s.files.configFiles
    · exact .noSetting
    · exact .setting
  | _ => exact absurd rfl h

/-- Only the lookup of the defaults changes the snapshots. -/
theorem snapshots_runIn (snapshots : Snapshots) (log : Option Log) (clock : Clock)
    (arguments : List Text) (fs : FileSystem) :
    (CommandLine.runIn reader snapshots log clock arguments fs).2.2.1 =
      (CommandLine.defaults reader snapshots fs.configFiles arguments).2 := by
  unfold CommandLine.runIn
  rcases CommandLine.defaults reader snapshots fs.configFiles arguments with ⟨_ | d, kept⟩
  · rfl
  · simp only
    cases CommandLine.plan d arguments <;> rfl

theorem snapshots_change (s : Session) (path : Text) (files : Except FileFault FileSystem) :
    (s.change path files).2.snapshots = s.snapshots := by
  unfold change
  split
  · rfl
  · split <;> rfl

/-- The snapshots serve the inquiries of a step that does not clear them. -/
theorem serves_inquiries (s : Session) (hclear : step ≠ .clear) :
    s.snapshots.Serves reader (s.inquiries reader step) (s.step reader step).2.snapshots := by
  cases step with
  | run arguments clock =>
    simp only [inquiries, Session.step, snapshots_runIn, CommandLine.defaults]
    rcases hstart : s.snapshots.ask reader .startUp s.files.configFiles with ⟨_ | d, snapshots⟩
    · exact .cons hstart (.nil _)
    · simp only
      rcases hask : snapshots.ask reader (.defaults none) s.files.configFiles
        with ⟨_ | d', snapshots'⟩ <;>
        exact .cons hstart (.cons hask (.nil _))
  | config content =>
    simp only [inquiries, Session.step]
    rcases hask : s.snapshots.ask reader (.defaults content) s.files.configFiles
      with ⟨_ | d, snapshots⟩ <;>
      exact .cons hask (.nil _)
  | default command option content =>
    simp only [inquiries, Session.step, Session.default]
    rcases hask : s.snapshots.ask reader (.defaults content) s.files.configFiles
      with ⟨_ | d, snapshots⟩ <;>
      exact .cons hask (.nil _)
  | write path data =>
    simp only [inquiries, Session.step, snapshots_change]
    exact .nil _
  | makeDirectory path =>
    simp only [inquiries, Session.step, snapshots_change]
    exact .nil _
  | remove path =>
    simp only [inquiries, Session.step]
    split <;> exact .nil _
  | clear => exact absurd rfl hclear
  | cat | readGrammar | loadGrammar => exact .nil _

theorem serves_asked (reader : DocumentReader) (s : Session) (hclear : Step.clear ∉ steps) :
    s.snapshots.Serves reader (s.asked reader steps) (s.after reader steps).snapshots := by
  induction steps generalizing s with
  | nil => exact .nil _
  | cons step rest ih =>
    have hstep : step ≠ .clear := fun h => hclear (h ▸ List.mem_cons_self)
    exact (serves_inquiries s hstep).append (ih _ fun h => hclear (List.mem_cons_of_mem _ h))

theorem question_mem_questions {i : Inquiry} (hi : i ∈ s.inquiries reader step) :
    i.question ∈ step.questions := by
  cases step with
  | run arguments clock =>
    simp only [inquiries] at hi
    split at hi <;> simp_all [Step.questions]
    obtain rfl | rfl := hi <;> simp
  | config content => simp_all [inquiries, Step.questions]
  | default command option content => simp_all [inquiries, Step.questions]
  | _ => cases hi

theorem question_mem_of_mem_asked {questions : List ConfigQuestion} {i : Inquiry}
    (hasked : ∀ step ∈ steps, step.questions ⊆ questions) (hi : i ∈ s.asked reader steps) :
    i.question ∈ questions := by
  induction steps generalizing s with
  | nil => cases hi
  | cons step rest ih =>
    obtain ⟨hstep, hrest⟩ := List.forall_mem_cons.1 hasked
    obtain hi | hi := List.mem_append.1 hi
    · exact hstep (question_mem_questions hi)
    · exact ih hrest hi

theorem replies_cons {t : Session} {reply : Reply} {rest : List Step}
    (h : s.step reader step = (reply, t)) :
    s.replies reader (step :: rest) = reply :: t.replies reader rest := by
  simp only [replies, h]

/-- Whoever asks for the configuration is told the answer. -/
theorem step_config_of_ask {content : Option Text} {d : Defaults} {snapshots : Snapshots}
    (h : s.snapshots.ask reader (.defaults content) s.files.configFiles = (.ok d, snapshots)) :
    s.step reader (.config content) = (.config d, ⟨s.files, snapshots, s.log⟩) := by
  simp only [Session.step, h]

/-- A run that is told no configuration at start-up does nothing else. -/
theorem step_run_of_fault {arguments : List Text} {clock : Clock} {fault : ConfigFault}
    {snapshots : Snapshots}
    (h : s.snapshots.ask reader .startUp s.files.configFiles = (.error fault, snapshots)) :
    s.step reader (.run arguments clock) =
      (.outcome (CommandLine.unconfigured (CommandLine.program arguments) fault),
        ⟨s.files, snapshots, s.log⟩) := by
  simp only [Session.step, CommandLine.runIn, CommandLine.defaults, h]

/-! ## Start-up and defaults -/

/-- A run asks once, or twice about the same files. -/
theorem inquiries_run (s : Session) (arguments : List Text) (clock : Clock) :
    (∃ fault, s.inquiries reader (.run arguments clock) =
      [⟨.startUp, s.files.configFiles, .error fault⟩]) ∨
    ∃ d answer, s.inquiries reader (.run arguments clock) =
      [⟨.startUp, s.files.configFiles, .ok d⟩, ⟨.defaults none, s.files.configFiles, answer⟩] := by
  rw [inquiries]
  rcases s.snapshots.ask reader .startUp s.files.configFiles with ⟨fault | d, snapshots⟩
  · exact .inl ⟨fault, rfl⟩
  · exact .inr ⟨d, _, rfl⟩

/-- **A run that is told a configuration where nothing is kept** is told the same one twice. -/
theorem inquiries_run_of_first {past : List Inquiry} {arguments : List Text} {clock : Clock}
    {d : Defaults} (hanswered : AllAnswered reader past (s.inquiries reader (.run arguments clock)))
    (hpast : ∀ question : ConfigQuestion, question.content = none → first? past question = none)
    (hresolve : s.files.configFiles.resolve reader none = .ok d) :
    s.inquiries reader (.run arguments clock) =
      [⟨.startUp, s.files.configFiles, .ok d⟩, ⟨.defaults none, s.files.configFiles, .ok d⟩] := by
  obtain ⟨fault, h⟩ | ⟨d', answer, h⟩ := inquiries_run s arguments clock <;> rw [h] at hanswered ⊢
  · have hstart := hanswered.1
    simp only [IsAnsweredAfter, hpast .startUp rfl] at hstart
    cases hstart.trans hresolve
  · obtain ⟨hstart, hdefaults, -⟩ := hanswered
    simp only [IsAnsweredAfter, hpast .startUp rfl] at hstart
    cases hstart.trans hresolve
    simp only [IsAnsweredAfter, first?_append, hpast (.defaults none) rfl, first?_singleton,
      reduceCtorEq, if_false, Option.or_none] at hdefaults
    rw [hdefaults.trans hresolve]

/-- **From a run that is told a configuration where nothing is kept**, start-up and defaults share it. -/
theorem answer_eq_of_run {past rest : List Inquiry} {arguments : List Text} {clock : Clock}
    {d : Defaults}
    (hanswered : AllAnswered reader past (s.inquiries reader (.run arguments clock) ++ rest))
    (hpast : ∀ question : ConfigQuestion, question.content = none → first? past question = none)
    (hresolve : s.files.configFiles.resolve reader none = .ok d) :
    ∀ i ∈ s.inquiries reader (.run arguments clock) ++ rest,
      i.question.content = none → i.answer = .ok d := by
  obtain ⟨hrun, hrest⟩ := allAnswered_append.1 hanswered
  rw [inquiries_run_of_first hrun hpast hresolve] at hrest ⊢
  -- after the run both questions have a first answer, and it is the same
  have hfirst : ∀ question : ConfigQuestion, question.content = none →
      first? (past ++ [⟨.startUp, s.files.configFiles, .ok d⟩,
        ⟨.defaults none, s.files.configFiles, .ok d⟩]) question = some d := by
    intro question hquestion
    rw [first?_append, hpast question hquestion, Option.none_or]
    cases question with
    | startUp => rfl
    | defaults content =>
      cases hquestion
      rfl
  intro i hi hcontent
  obtain hi | hi := List.mem_append.1 hi
  · simp only [List.mem_cons, List.not_mem_nil, or_false] at hi
    obtain rfl | rfl := hi <;> rfl
  · exact answer_eq_of_first? (hfirst _ hcontent) hrest i hi rfl

end Session

/-- **A question that was answered with a configuration is always answered with it**, whoever reads the
documents.  In a process that starts with nothing kept and does not clear what it keeps, as long as it has no
more questions than answers can be kept: every inquiry is answered with the first configuration that its
question was answered with, else with what the files say, and the answers decide the replies.  From the first
configuration that a run is told at start-up, all questions without a text are answered with it. -/
theorem kept_configuration (reader : DocumentReader) (s : Session) (steps : List Step)
    (questions : List ConfigQuestion) (hfresh : s.snapshots = Snapshots.none)
    (hclear : Step.clear ∉ steps) (hasked : ∀ step ∈ steps, step.questions ⊆ questions)
    (hcapacity : questions.length ≤ Snapshots.capacity) :
    Inquiry.AllAnswered reader [] (s.asked reader steps) ∧
    (∀ before arguments clock later d, steps = before ++ .run arguments clock :: later →
      (∀ i ∈ s.asked reader before, i.question.content = none → ∀ d', i.answer ≠ .ok d') →
      (s.after reader before).files.configFiles.resolve reader none = .ok d →
      ∀ i ∈ (s.after reader before).asked reader (.run arguments clock :: later),
        i.question.content = none → i.answer = .ok d) ∧
    ∀ (t : Session) (step : Step), t.inquiries reader step ≠ [] →
      Session.Answered t step (t.inquiries reader step) (t.step reader step).1 := by
  have hanswered : Inquiry.AllAnswered reader [] (s.asked reader steps) := by
    have hserves := Session.serves_asked reader s hclear
    rw [hfresh] at hserves
    exact Snapshots.allAnswered_of_serves hserves (Snapshots.remembers_none questions)
      (fun i hi => Session.question_mem_of_mem_asked hasked hi) hcapacity
  refine ⟨hanswered, ?_, fun t step => t.answered_inquiries⟩
  rintro before arguments clock later d rfl hpast hresolve
  rw [Session.asked_append, Inquiry.allAnswered_append, List.nil_append] at hanswered
  refine Session.answer_eq_of_run hanswered.2 (fun question hcontent => ?_) hresolve
  exact Inquiry.first?_eq_none_iff.2 fun i hi hquestion => hpast i hi (hquestion ▸ hcontent)

/-! ### A file that becomes malformed -/

/-- A step that leaves a malformed file in the working directory. -/
def breakConfig : Step := .write ConfigFiles.fileName (Text.toUtf8 "[[".toList)

/-- The file system after it. -/
def brokenFiles : FileSystem :=
  FileSystem.fresh.put (FileSystem.work ++ [ConfigFiles.fileName]) (.file (Text.toUtf8 "[[".toList))

/-- A run that asks for a word with an `a` before a `b`. -/
def askWord : Step := .run ["automaton".toList, "ab".toList] fun _ => 0

/-- What is kept after the bundled configuration was asked for. -/
def keptBundled : Snapshots := ⟨[(.defaults none, Bundled.sections)]⟩

theorem step_breakConfig (reader : DocumentReader) (snapshots : Snapshots) :
    (⟨FileSystem.fresh, snapshots, none⟩ : Session).step reader breakConfig =
      (.done, ⟨brokenFiles, snapshots, none⟩) :=
  rfl

theorem resolve_fresh {reader : DocumentReader}
    (hstates : Defaults.States reader Bundled.config Bundled.sections) :
    FileSystem.fresh.configFiles.resolve reader none = .ok Bundled.sections := by
  have hwork : ConfigFiles.text? FileSystem.fresh.configFiles.work = .ok none := rfl
  have hhome : ConfigFiles.text? FileSystem.fresh.configFiles.home = .ok none := rfl
  have hcombine : Defaults.combine [Bundled.sections] [] = Bundled.sections := by decide +kernel
  rw [ConfigFiles.resolve_eq_ok_iff hwork hhome, ← hcombine]
  exact Defaults.resolve_of_forall₂ (.cons hstates .nil)

theorem resolve_broken {reader : DocumentReader} {reason : Text}
    (hrefused : reader "[[".toList = .error reason) :
    brokenFiles.configFiles.resolve reader none = .error (.bad (.malformed reason)) := by
  have hdata : brokenFiles.configFiles.work = some (Text.toUtf8 "[[".toList) := rfl
  have hwork : ConfigFiles.text? brokenFiles.configFiles.work = .ok (some "[[".toList) := by
    rw [hdata]
    simp only [ConfigFiles.text?, Text.ofFile?, Text.ofUtf8?_toUtf8, Option.map_some]
    rfl
  have hhome : ConfigFiles.text? brokenFiles.configFiles.home = .ok none := rfl
  refine (ConfigFiles.resolve_eq_error_iff hwork hhome).2 ⟨_, ?_, rfl⟩
  exact Defaults.resolve_append .nil (.malformed hrefused) [Bundled.config]

/-- After a run, what it was told at start-up is told to whoever asks for the configuration. -/
theorem kept_configuration_broken :
    ((Session.fresh.after Document.read [askWord, breakConfig]).step Document.read (.config none)).1 =
      .config Bundled.sections := by
  obtain ⟨-, hrun, hreply⟩ := kept_configuration Document.read Session.fresh
    [askWord, breakConfig, .config none] [.startUp, .defaults none] rfl
    (by simp [askWord, breakConfig]) (by simp [askWord, breakConfig, Step.questions]) (by decide)
  have hanswer := hrun [] _ _ _ _ rfl nofun (resolve_fresh Bundled.states_sections)
  have hlast := hreply (Session.fresh.after Document.read [askWord, breakConfig]) (.config none)
    (List.cons_ne_nil _ _)
  refine hlast.eq_config fun i hi => hanswer i ?_ ?_
  · have hasked := Session.asked_append Session.fresh Document.read [askWord, breakConfig] [.config none]
    exact hasked ▸ List.mem_append_right _ (List.mem_append_left _ hi)
  · have hquestion := Session.question_mem_questions hi
    rw [List.mem_singleton.1 hquestion]
    rfl

/-- **Start-up does not share what was read before it**: after the configuration was asked for, a run
still looks at the files, and fails, while the configuration is told as before.  So it is for every reader
that reads the bundled configuration and refuses the malformed file, and there is such a reader. -/
theorem config_before_run_is_not_kept :
    (∃ (reader : DocumentReader) (reason : Text),
      Defaults.States reader Bundled.config Bundled.sections ∧ reader "[[".toList = .error reason) ∧
    ∀ (reader : DocumentReader) (reason : Text),
      Defaults.States reader Bundled.config Bundled.sections → reader "[[".toList = .error reason →
      Session.fresh.replies reader [.config none, breakConfig, askWord, .config none] =
        [.config Bundled.sections, .done,
          .outcome (.failed 1 ("cyk automaton: error: could not load .cykrc (Malformed TOML: ".toList ++
            reason ++ [')'])),
          .config Bundled.sections] := by
  refine ⟨⟨Document.read, Document.refusal, Bundled.states_sections, rfl⟩, ?_⟩
  intro reader reason hstates hrefused
  have hfirst : Session.fresh.step reader (.config none) =
      (.config Bundled.sections, ⟨FileSystem.fresh, keptBundled, none⟩) :=
    Session.step_config_of_ask (Snapshots.ask_of_resolve rfl (resolve_fresh hstates))
  have hrun : (⟨brokenFiles, keptBundled, none⟩ : Session).step reader askWord =
      (.outcome (CommandLine.unconfigured "cyk automaton".toList (.bad (.malformed reason))),
        ⟨brokenFiles, keptBundled, none⟩) :=
    Session.step_run_of_fault (Snapshots.ask_of_fault rfl (resolve_broken hrefused))
  have hlast : (⟨brokenFiles, keptBundled, none⟩ : Session).step reader (.config none) =
      (.config Bundled.sections, ⟨brokenFiles, keptBundled, none⟩) :=
    Session.step_config_of_ask (Snapshots.ask_of_lookup rfl)
  rw [Session.replies_cons hfirst, Session.replies_cons (step_breakConfig reader _),
    Session.replies_cons hrun, Session.replies_cons hlast]
  rfl

end Chart
