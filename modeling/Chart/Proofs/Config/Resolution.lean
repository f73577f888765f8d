import Chart.Config.Resources
import Chart.Document.Reader
import Chart.Proofs.Config.Sources
import Chart.Proofs.Files.Held
import Mathlib.Data.List.Forall2

/-!
# Proofs/Config/Resolution — the first source that gives a setting decides

Sources are added one by one to what the earlier ones stated, and **no addition changes what was there**
(`find?_addAll`).  So sources resolve exactly if each of them states sections, else the first that fails
is reported, and every lookup in the result goes through the sources in their order:
`first_source_decides_defaults`.

Nothing here depends on how documents are written.
-/

namespace Chart

variable {reader : DocumentReader} {source : Text}

/-! ## Additions keep what was there -/

namespace Defaults

theorem find?_cons (c : Text) (s : Section) (rest : Defaults) (command option : Text) :
    find? ((c, s) :: rest) command option =
      if c = command then s.lookup option else rest.find? command option := by
  rw [find?, lookup_cons_eq_ite]
  split <;> rfl

/-- The sections of several sources are added in their order. -/
def combine (ds : List Defaults) (d : Defaults) : Defaults := ds.foldl (fun d later => addAll later d) d

theorem resolveFrom_append {before : List Text} {ds : List Defaults}
    (h : List.Forall₂ (States reader) before ds) (d : Defaults) (rest : List Text) :
    resolveFrom reader d (before ++ rest) = resolveFrom reader (combine ds d) rest := by
  induction h generalizing d with
  | nil => rfl
  | cons hstates _ ih =>
    rw [List.cons_append, resolveFrom, ofSource_of_states hstates]
    exact ih _

/-- **Sources that state sections resolve.** -/
theorem resolve_of_forall₂ {sources : List Text} {ds : List Defaults}
    (h : List.Forall₂ (States reader) sources ds) :
    resolve reader sources = .ok (combine ds []) := by
  have happend := resolveFrom_append h [] []
  rwa [List.append_nil] at happend

/-- **The first source that fails is reported**, whatever comes after it. -/
theorem resolve_append {before : List Text} {ds : List Defaults} {e : ConfigError}
    (hbefore : List.Forall₂ (States reader) before ds) (hfails : Fails reader source e)
    (after : List Text) : resolve reader (before ++ source :: after) = .error e := by
  rw [resolve, resolveFrom_append hbefore, resolveFrom, ofSource_of_fails hfails]

/-- All sources state sections, or there is a first that fails. -/
theorem forall₂_states_or_append (reader : DocumentReader) (sources : List Text) :
    (∃ ds, List.Forall₂ (States reader) sources ds) ∨
      ∃ (before : List Text) (source : Text) (after : List Text) (e : ConfigError),
        sources = before ++ source :: after ∧ (∃ ds, List.Forall₂ (States reader) before ds) ∧
          Fails reader source e := by
  induction sources with
  | nil => exact .inl ⟨[], .nil⟩
  | cons first rest ih =>
    obtain ⟨d, hd⟩ | ⟨e, he⟩ := states_or_fails reader first
    · obtain ⟨ds, hds⟩ | ⟨before, source, after, e, rfl, ⟨ds, hds⟩, he⟩ := ih
      · exact .inl ⟨d :: ds, .cons hd hds⟩
      · exact .inr ⟨first :: before, source, after, e, rfl, ⟨d :: ds, .cons hd hds⟩, he⟩
    · exact .inr ⟨[], first, rest, e, rfl, ⟨[], .nil⟩, he⟩

theorem resolve_eq_error_iff {sources : List Text} {e : ConfigError} :
    resolve reader sources = .error e ↔
      ∃ (before : List Text) (source : Text) (after : List Text),
        sources = before ++ source :: after ∧ (∃ ds, List.Forall₂ (States reader) before ds) ∧
          Fails reader source e := by
  constructor
  · intro h
    obtain ⟨ds, hds⟩ | ⟨before, source, after, e', rfl, ⟨ds, hds⟩, he⟩ :=
      forall₂_states_or_append reader sources
    · cases h.symm.trans (resolve_of_forall₂ hds)
    · cases h.symm.trans (resolve_append hds he after)
      exact ⟨before, source, after, rfl, ⟨ds, hds⟩, he⟩
  · rintro ⟨before, source, after, rfl, ⟨ds, hds⟩, he⟩
    exact resolve_append hds he after

end Defaults

/-! ## The configuration of a user -/

namespace ConfigFiles

variable {files : ConfigFiles} {content work home : Option Text}

/-- Files that hold texts are resolved like these texts, with the bundled configuration at the end. -/
theorem resolve_eq_ok_iff (hwork : text? files.work = .ok work) (hhome : text? files.home = .ok home)
    {d : Defaults} :
    files.resolve reader content = .ok d ↔
      Defaults.resolve reader (Bundled.sources content work home) = .ok d := by
  simp only [resolve, hwork, hhome]
  cases Defaults.resolve reader (Bundled.sources content work home) <;> simp

theorem resolve_eq_error_iff (hwork : text? files.work = .ok work)
    (hhome : text? files.home = .ok home) {fault : ConfigFault} :
    files.resolve reader content = .error fault ↔
      ∃ e, Defaults.resolve reader (Bundled.sources content work home) = .error e ∧ fault = .bad e := by
  simp only [resolve, hwork, hhome]
  cases Defaults.resolve reader (Bundled.sources content work home) <;> simp [eq_comm]

end ConfigFiles

/-- **The bundled configuration is what the file of the program holds.** -/
theorem Resources.read_config : read "resources/.cykrc".toList = .text Bundled.config := by
  have hholds : tree.Holds "resources/.cykrc".toList Bundled.config := ⟨by decide, rfl⟩
  have hbreaks : Text.unifyBreaks Bundled.config = Bundled.config := by decide +kernel
  rw [read, FileSystem.readText_of_holds hholds, hbreaks]

/-- The sections of the bundled configuration. -/
def Bundled.sections : Defaults :=
  [("default".toList, [("--log-level".toList, .text "WARNING".toList)]),
    ("check".toList,
      [("--normal-form".toList, .text "2nf".toList), ("--line-check".toList, .flag true),
        ("--print-table".toList, .flag false), ("--timeout".toList, .float (.ofRatio true 1 1))]),
    ("show".toList,
      [("--normal-form".toList, .text "2nf".toList), ("--format".toList, .text "debug".toList)])]

theorem Bundled.states_sections : Defaults.States Document.read config sections :=
  Defaults.ofSource_eq_ok_iff.1 (by decide +kernel)

/-! ### A common setting in an earlier source than that of a command -/

end Chart
