import Chart.Command.Run

/-!
# Session — a process that lives through several steps

A session works on one file system, and from step to step it keeps the snapshots of its configuration and
the log that its first command opened, so **what a step answers depends on the steps before it** in exactly
these ways.  How documents are read is left open.

* `Session.step` — the reply to a step, and the session after it.
* `Session.replies` — the replies to several steps.
-/

namespace Chart

/-- The state of a process: its files, the configurations it has read, and its log, if it has one. -/
structure Session where
  files : FileSystem
  snapshots : Snapshots
  log : Option Log

/-- What a process is asked to do. -/
inductive Step where
  | write (path : Text) (data : ByteArray)
  | makeDirectory (path : Text)
  | remove (path : Text)
  /-- The text of a file as it stands. -/
  | cat (path : Text)
  | run (arguments : List Text) (clock : Clock)
  /-- The configuration, with a text that comes before all files. -/
  | config (content : Option Text)
  /-- The default of an option of a command. -/
  | default (command option : Text) (content : Option Text)
  /-- Forget the configurations that were read. -/
  | clear
  | readGrammar (path : Text)
  | loadGrammar (path form : Text)

/-- What a process replies. -/
inductive Reply where
  | done
  | missing
  | text (t : Text)
  | outcome (o : Outcome)
  | config (d : Defaults)
  /-- The configuration could not be read. -/
  | badConfig (fault : ConfigFault)
  | setting (s : Option Setting)
  /-- A default could not be looked up. -/
  | noSetting (o : Outcome)
  | rules (rows : List Row)
  /-- A grammar could not be loaded, and the failure was caught. -/
  | unloaded (f : Failure)
  /-- A file could not be opened. -/
  | fault (path : Text) (f : FileFault)
  | failure (f : Failure)

namespace Session

/-- A process with empty directories that has read nothing and has no log. -/
def fresh : Session := ⟨FileSystem.fresh, Snapshots.none, none⟩

/-- **The default of an option of a command**, or the outcome of a command that cannot look it up. -/
def default (reader : DocumentReader) (snapshots : Snapshots) (files : ConfigFiles)
    (command option : Text) (content : Option Text) : Except Outcome (Option Setting) × Snapshots :=
  match snapshots.ask reader (.defaults content) files with
  | (.error fault, snapshots) =>
    (.error (CommandLine.unconfigured ("cyk ".toList ++ command) fault), snapshots)
  | (.ok d, snapshots) => (.ok (d.get? command option), snapshots)

/-- What is logged when a grammar is loaded, and the reply.  A name of no normal form is judged first. -/
def loading (fs : FileSystem) (path form : Text) : List LogRecord × Reply :=
  match Loading.normalForm (some (.text form)) with
  | .error f => ([], .failure f)
  | .ok form =>
    match Loading.loadGrammar path (fs.readText path) form with
    | (records, .error f) => (records, .failure f)
    | (records, .ok (.failure f)) => (records, .unloaded f)
    | (records, .ok (.success g)) => (records, .rules g.rows)

/-- **The grammar of a file.** -/
def load (fs : FileSystem) (path form : Text) : Reply := (loading fs path form).2

/-- The text at a path as the reader of grammar files sees it. -/
def read (fs : FileSystem) (path : Text) : Reply :=
  match Loading.readGrammarFile path (fs.readText path) with
  | .ok t => .text t
  | .error f => .failure f

/-- The text at a path as it stands. -/
def cat (fs : FileSystem) (path : Text) : Reply :=
  if '\x00' ∈ path then .failure .nullCharacter
  else
    match fs.read path with
    | .error f => .fault path f
    | .ok data =>
      match Text.ofUtf8? data with
      | some t => .text t
      | none => .failure .notUtf8

/-- The session after the file system was changed at a path, or not. -/
def change (s : Session) (path : Text) (files : Except FileFault FileSystem) : Reply × Session :=
  if '\x00' ∈ path then (.failure .nullCharacter, s)
  else
    match files with
    | .error f => (.fault path f, s)
    | .ok files => (.done, { s with files := files })

/-- **The reply to a step**, and the session after it. -/
def step (s : Session) (reader : DocumentReader) : Step → Reply × Session
  | .write path data => s.change path (s.files.write path data)
  | .makeDirectory path => s.change path (s.files.makeDirectory path)
  | .remove path =>
    match s.files.remove? path with
    | some files => (.done, { s with files := files })
    | none => (.missing, s)
  | .cat path => (cat s.files path, s)
  | .run arguments clock =>
    let (o, files, snapshots, log) :=
      CommandLine.runIn reader s.snapshots s.log clock arguments s.files
    (.outcome o, ⟨files, snapshots, log⟩)
  | .config content =>
    match s.snapshots.ask reader (.defaults content) s.files.configFiles with
    | (.ok d, snapshots) => (.config d, { s with snapshots := snapshots })
    | (.error fault, snapshots) => (.badConfig fault, { s with snapshots := snapshots })
  | .default command option content =>
    match default reader s.snapshots s.files.configFiles command option content with
    | (.ok setting, snapshots) => (.setting setting, { s with snapshots := snapshots })
    | (.error o, snapshots) => (.noSetting o, { s with snapshots := snapshots })
  | .clear => (.done, { s with snapshots := Snapshots.none })
  | .readGrammar path => (read s.files path, s)
  | .loadGrammar path form =>
    let (records, reply) := loading s.files path form
    (reply, { s with log := s.log.map (·.add records) })

/-- **The replies to several steps.** -/
def replies (s : Session) (reader : DocumentReader) : List Step → List Reply
  | [] => []
  | step :: rest =>
    let (reply, s) := s.step reader step
    reply :: s.replies reader rest

end Session

end Chart
