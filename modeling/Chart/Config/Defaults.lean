import Chart.Config.Setting

/-!
# Config/Defaults — the defaults of the command line

A configuration has one section for each command, and one named `default` for all of them; a section
gives settings to options.  Several sources may speak about the same option: **the first source that
does decides**.  How a source is written is not decided here: what follows holds for every reader of
documents.

* `Defaults.ofSource` — the sections of one source, or what is wrong with it.
* `Defaults.resolve` — the sections of several sources together.
* `Defaults.get?` — the setting of an option of a command: a command's own section comes before the
  common one, whatever source they are from.
-/

namespace Chart

/-- **A reader of documents**: the entries of the document that a text is, in their order, or what it says
against a text that is none. -/
abbrev DocumentReader := Text → Except Text (List (Text × Datum))

/-- A lookup tries the first entry, then the others. -/
theorem lookup_cons_eq_ite {α β : Type} [BEq α] [LawfulBEq α] [DecidableEq α] (key k : α) (b : β)
    (rest : List (α × β)) :
    List.lookup key ((k, b) :: rest) = if k = key then some b else rest.lookup key := by
  by_cases h : k = key
  · rw [h, List.lookup_cons_self, if_pos rfl]
  · rw [List.lookup_cons, beq_eq_false_iff_ne.2 (Ne.symm h), if_neg h]

/-- Why a source is no configuration. -/
inductive ConfigError where
  /-- The text is no document, for the reason that the reader gives. -/
  | malformed (reason : Text)
  /-- What stands under `defaults` is no table. -/
  | notATable
  /-- A section is not one table of settings. -/
  | badSection (command : Text)
  deriving DecidableEq

/-- The report of a bad source. -/
def ConfigError.message : ConfigError → Text
  | malformed reason => "Malformed TOML: ".toList ++ reason
  | notATable => "Unexpected .cykrc format: `defaults` is not a table".toList
  | badSection command =>
    "Unexpected defaults for `".toList ++ command ++ "`: expected one [[defaults.".toList ++
      command ++ "]] table".toList

/-- The settings of one section, by option. -/
abbrev Section := List (Text × Setting)

/-- **The sections of a configuration**, by command. -/
abbrev Defaults := List (Text × Section)

namespace Section

/-- The settings of a table, if each of its values is one. -/
def ofEntries? : List (Text × Datum) → Option Section
  | [] => some []
  | (option, v) :: rest =>
    match Setting.ofDatum? v with
    | some s => (ofEntries? rest).map ((option, s) :: ·)
    | none => none

/-- The section of a datum, which has to be a list of exactly one table of settings. -/
def ofDatum? : Datum → Option Section
  | .list [.table entries] => ofEntries? entries
  | _ => none

/-- The section with a setting for an option that had none. -/
def add (option : Text) (s : Setting) : Section → Section
  | [] => [(option, s)]
  | (o, old) :: rest => if o = option then (o, old) :: rest else (o, old) :: add option s rest

end Section

namespace Defaults

/-- The sections of the entries under `defaults`; the first bad one is reported. -/
def ofEntries : List (Text × Datum) → Except ConfigError Defaults
  | [] => .ok []
  | (command, v) :: rest =>
    match Section.ofDatum? v with
    | some options => (ofEntries rest).map ((command, options) :: ·)
    | none => .error (.badSection command)

/-- The sections of what stands under `defaults`. -/
def ofDatum : Datum → Except ConfigError Defaults
  | .table entries => ofEntries entries
  | _ => .error .notATable

/-- **The sections of a source.**  A source without `defaults` has none. -/
def ofSource (reader : DocumentReader) (source : Text) : Except ConfigError Defaults :=
  match reader source with
  | .error reason => .error (.malformed reason)
  | .ok entries => ofDatum ((Datum.find? "defaults".toList entries).getD (.table []))

/-- The sections with a setting for an option of a command that had none. -/
def add (command option : Text) (s : Setting) : Defaults → Defaults
  | [] => [(command, [(option, s)])]
  | (c, options) :: rest =>
    if c = command then (c, Section.add option s options) :: rest
    else (c, options) :: add command option s rest

/-- The sections with those of a later source added. -/
def addAll (later earlier : Defaults) : Defaults :=
  later.foldl (fun d (command, options) =>
    options.foldl (fun d (option, s) => add command option s d) d) earlier

/-- The sections with those of several later sources added, or what is wrong with the first bad one. -/
def resolveFrom (reader : DocumentReader) (earlier : Defaults) :
    List Text → Except ConfigError Defaults
  | [] => .ok earlier
  | source :: rest =>
    match ofSource reader source with
    | .error e => .error e
    | .ok later => resolveFrom reader (addAll later earlier) rest

/-- **The sections of several sources**, the most important source first. -/
def resolve (reader : DocumentReader) (sources : List Text) : Except ConfigError Defaults :=
  resolveFrom reader [] sources

/-- The setting of an option in the section of a command. -/
def find? (d : Defaults) (command option : Text) : Option Setting :=
  (d.lookup command).bind fun options => options.lookup option

/-- The section for all commands. -/
def common : Text := "default".toList

/-- **The default of an option of a command**: that of its own section, else the common one. -/
def get? (d : Defaults) (command option : Text) : Option Setting :=
  (d.find? command option).or (d.find? common option)

end Defaults

end Chart
