import Chart.Config.Defaults

/-!
# Proofs/Config/Sources — what one source says

What a source says can be read off its document: it **states** sections (`States`), or it **fails** with
a fault (`Fails`).  One of the two is always so (`states_or_fails`), and the reading of a source returns
the sections exactly in the first case (`ofSource_eq_ok_iff`), and else the fault (`ofSource_of_fails`).

Sections are described by the data that write them, so that a bad entry is one that no section writes.
-/

namespace Chart

variable {reader : DocumentReader} {source : Text}

/-! ## How sections are written -/

/-- The datum that a setting is. -/
def Setting.toDatum : Setting → Datum
  | text t => .text t
  | integer n => .integer n
  | float x => .float x
  | flag b => .flag b

/-- The entries that write a section. -/
def Section.entries (s : Section) : List (Text × Datum) :=
  s.map fun (option, setting) => (option, setting.toDatum)

/-- The datum of a section: a list of one table. -/
def Section.toDatum (s : Section) : Datum := .list [.table s.entries]

/-- The entries that write sections. -/
def Defaults.entries (d : Defaults) : List (Text × Datum) :=
  d.map fun (command, s) => (command, s.toDatum)

theorem Setting.ofDatum?_eq_some_iff {v : Datum} {s : Setting} :
    ofDatum? v = some s ↔ v = s.toDatum := by
  cases v <;> cases s <;> simp [ofDatum?, toDatum]

namespace Section

theorem ofEntries?_entries (s : Section) : ofEntries? s.entries = some s := by
  induction s with
  | nil => rfl
  | cons head rest ih =>
    rw [entries, List.map_cons, ofEntries?, Setting.ofDatum?_eq_some_iff.2 rfl]
    exact congrArg (Option.map _) ih

theorem eq_entries_of_ofEntries? {entries : List (Text × Datum)} {s : Section}
    (h : ofEntries? entries = some s) : entries = s.entries := by
  fun_induction ofEntries? entries generalizing s with
  | case1 =>
    cases h
    rfl
  | case2 option v rest setting hv ih =>
    obtain ⟨s', hs', rfl⟩ := Option.map_eq_some_iff.1 h
    obtain rfl := Setting.ofDatum?_eq_some_iff.1 hv
    rw [ih hs']
    rfl
  | case3 => cases h

/-- **A datum is a section exactly if it is written like one.** -/
theorem ofDatum?_eq_some_iff {v : Datum} {s : Section} : ofDatum? v = some s ↔ v = s.toDatum := by
  constructor
  · intro h
    unfold ofDatum? at h
    split at h
    · rw [eq_entries_of_ofEntries? h, toDatum]
    · cases h
  · rintro rfl
    exact ofEntries?_entries s

theorem ofDatum?_eq_none {v : Datum} (h : ∀ s : Section, v ≠ s.toDatum) : ofDatum? v = none :=
  Option.eq_none_iff_forall_ne_some.2 fun s hs => h s (ofDatum?_eq_some_iff.1 hs)

end Section

namespace Defaults

theorem ofEntries_entries (d : Defaults) : ofEntries d.entries = .ok d := by
  induction d with
  | nil => rfl
  | cons head rest ih =>
    rw [entries, List.map_cons, ofEntries, Section.ofDatum?_eq_some_iff.2 rfl]
    exact congrArg (Except.map _) ih

/-- **The first entry that writes no section is reported.** -/
theorem ofEntries_append (before : Defaults) (command : Text) {v : Datum}
    (after : List (Text × Datum)) (hv : ∀ s : Section, v ≠ s.toDatum) :
    ofEntries (before.entries ++ (command, v) :: after) = .error (.badSection command) := by
  induction before with
  | nil => rw [entries, List.map_nil, List.nil_append, ofEntries, Section.ofDatum?_eq_none hv]
  | cons head rest ih =>
    rw [entries, List.map_cons, List.cons_append, ofEntries, Section.ofDatum?_eq_some_iff.2 rfl]
    exact congrArg (Except.map _) ih

/-- Entries write sections, or there is a first that writes none. -/
theorem eq_entries_or_append (entries : List (Text × Datum)) :
    (∃ d : Defaults, entries = d.entries) ∨
      ∃ (before : Defaults) (command : Text) (v : Datum) (after : List (Text × Datum)),
        entries = before.entries ++ (command, v) :: after ∧ ∀ s : Section, v ≠ s.toDatum := by
  induction entries with
  | nil => exact .inl ⟨[], rfl⟩
  | cons entry rest ih =>
    obtain ⟨command, v⟩ := entry
    -- the front decides first: a bad entry after it only counts if this one is good
    by_cases hv : ∃ s : Section, v = s.toDatum
    · obtain ⟨s, rfl⟩ := hv
      obtain ⟨d, rfl⟩ | ⟨before, c, w, after, rfl, hw⟩ := ih
      · exact .inl ⟨(command, s) :: d, rfl⟩
      · exact .inr ⟨(command, s) :: before, c, w, after, rfl, hw⟩
    · exact .inr ⟨[], command, v, rest, rfl, fun s h => hv ⟨s, h⟩⟩

/-! ## What one source says -/

/-- **A source states sections**: it is a document that has no `defaults`, or writes them there. -/
inductive States (reader : DocumentReader) (source : Text) : Defaults → Prop
  | nothing {entries : List (Text × Datum)} (hread : reader source = .ok entries)
      (hfind : Datum.find? "defaults".toList entries = none) : States reader source []
  | sections {entries : List (Text × Datum)} {d : Defaults} (hread : reader source = .ok entries)
      (hfind : Datum.find? "defaults".toList entries = some (.table d.entries)) :
      States reader source d

/-- **A source fails with a fault**: it is no document, for a reason that the reader gives, or it has no table
under `defaults`, or there is a first entry in that table that writes no section. -/
inductive Fails (reader : DocumentReader) (source : Text) : ConfigError → Prop
  | malformed {reason : Text} (hread : reader source = .error reason) :
      Fails reader source (.malformed reason)
  | notATable {entries : List (Text × Datum)} {v : Datum} (hread : reader source = .ok entries)
      (hfind : Datum.find? "defaults".toList entries = some v) (hv : ∀ table, v ≠ .table table) :
      Fails reader source .notATable
  | badSection {entries after : List (Text × Datum)} {before : Defaults} {command : Text} {v : Datum}
      (hread : reader source = .ok entries)
      (hfind : Datum.find? "defaults".toList entries =
        some (.table (before.entries ++ (command, v) :: after)))
      (hv : ∀ s : Section, v ≠ s.toDatum) : Fails reader source (.badSection command)

theorem ofSource_of_states {d : Defaults} (h : States reader source d) :
    ofSource reader source = .ok d := by
  cases h with
  | nothing hread hfind => simp only [ofSource, hread, hfind, Option.getD_none, ofDatum, ofEntries]
  | sections hread hfind =>
    simp only [ofSource, hread, hfind, Option.getD_some, ofDatum, ofEntries_entries]

theorem ofSource_of_fails {e : ConfigError} (h : Fails reader source e) :
    ofSource reader source = .error e := by
  cases h with
  | malformed hread => simp only [ofSource, hread]
  | notATable hread hfind hv =>
    simp only [ofSource, hread, hfind, Option.getD_some]
    unfold ofDatum
    split
    · exact absurd rfl (hv _)
    · rfl
  | badSection hread hfind hv =>
    simp only [ofSource, hread, hfind, Option.getD_some, ofDatum, ofEntries_append _ _ _ hv]

/-- **Every source states sections or fails.** -/
theorem states_or_fails (reader : DocumentReader) (source : Text) :
    (∃ d, States reader source d) ∨ ∃ e, Fails reader source e := by
  cases hread : reader source with
  | error reason => exact .inr ⟨_, .malformed hread⟩
  | ok entries =>
    cases hfind : Datum.find? "defaults".toList entries with
    | none => exact .inl ⟨_, .nothing hread hfind⟩
    | some v =>
      by_cases hv : ∃ table, v = .table table
      · obtain ⟨table, rfl⟩ := hv
        obtain ⟨d, rfl⟩ | ⟨before, command, w, after, rfl, hw⟩ := eq_entries_or_append table
        · exact .inl ⟨d, .sections hread hfind⟩
        · exact .inr ⟨_, .badSection hread hfind hw⟩
      · exact .inr ⟨_, .notATable hread hfind fun table h => hv ⟨table, h⟩⟩

theorem ofSource_eq_ok_iff {d : Defaults} : ofSource reader source = .ok d ↔ States reader source d := by
  refine ⟨fun h => ?_, ofSource_of_states⟩
  obtain ⟨d', hd⟩ | ⟨e, he⟩ := states_or_fails reader source
  · cases h.symm.trans (ofSource_of_states hd)
    exact hd
  · cases h.symm.trans (ofSource_of_fails he)

end Defaults

end Chart
