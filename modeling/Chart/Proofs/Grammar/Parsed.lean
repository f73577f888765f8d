import Mathlib.Data.List.Forall2
import Chart.Grammar.Format
import Chart.Proofs.Text.Lines
import Chart.Proofs.Text.Pieces

/-!
# Proofs/Grammar/Parsed — what parsing promises of the symbols

Parsing cuts a text at its line breaks and its lines at the separators, and drops the empty pieces and the
token for an absent symbol.  So every symbol of a grammar that was parsed is a **token**, a text that can
stand in a line: `hasTokens_of_parse`.
-/

namespace Chart

namespace Row

variable {lines : List Text} {line : Text} {row : Row} {rows : List Row}

/-- **A token** is a text that the parser keeps whole where it stands between separators. -/
structure IsToken (x : Symbol) : Prop where
  ne_nil : x ≠ []
  ne_absent : x ≠ absent
  no_colon : ':' ∉ x
  no_comma : ',' ∉ x
  no_break : ∀ c ∈ x, Text.isLineBreak c = false

instance (x : Symbol) : Decidable (IsToken x) :=
  decidable_of_iff
    (x ≠ [] ∧ x ≠ absent ∧ ':' ∉ x ∧ ',' ∉ x ∧ x.any Text.isLineBreak = false)
    ⟨fun ⟨hne, habsent, hcolon, hcomma, hbreak⟩ =>
      ⟨hne, habsent, hcolon, hcomma, by simpa using hbreak⟩,
      fun h => ⟨h.ne_nil, h.ne_absent, h.no_colon, h.no_comma, by simpa using h.no_break⟩⟩

theorem isSeparator_eq_false_iff {c : Char} : isSeparator c = false ↔ c ≠ ':' ∧ c ≠ ',' := by
  simp [isSeparator]

theorem IsToken.isSeparator_eq_false {x : Symbol} (hx : IsToken x) :
    ∀ c ∈ x, isSeparator c = false := by
  intro c hc
  refine isSeparator_eq_false_iff.2 ⟨?_, ?_⟩
  · rintro rfl
    exact hx.no_colon hc
  · rintro rfl
    exact hx.no_comma hc

/-- A piece of a line is kept unless it is empty or the token for an absent symbol. -/
def isKept (piece : Symbol) : Bool := piece != [] && piece != absent

theorem isKept_iff {piece : Symbol} : isKept piece = true ↔ piece ≠ [] ∧ piece ≠ absent := by
  simp [isKept]

theorem IsToken.isKept {x : Symbol} (hx : IsToken x) : isKept x = true :=
  isKept_iff.2 ⟨hx.ne_nil, hx.ne_absent⟩

theorem parse_eq_ok (h : parse line = .ok row) :
    row = (line.strip.pieces isSeparator).filter isKept := by
  rw [parse] at h
  split at h
  · exact nomatch h
  · exact (Except.ok.inj h).symm

/-- A line of which some pieces are left writes these. -/
theorem parse_eq_ok_iff (hne : row ≠ []) :
    parse line = .ok row ↔ (line.strip.pieces isSeparator).filter isKept = row := by
  refine ⟨fun h => (parse_eq_ok h).symm, ?_⟩
  rintro rfl
  obtain ⟨first, others, hfilter⟩ := List.exists_cons_of_ne_nil hne
  rw [hfilter]
  unfold isKept at hfilter
  rw [parse, hfilter]

/-- **Lines are parsed one by one.** -/
theorem parseEach_eq_ok_iff :
    parseEach lines = .ok rows ↔ List.Forall₂ (fun line row => parse line = .ok row) lines rows := by
  induction lines generalizing rows with
  | nil => simp [parseEach, eq_comm]
  | cons line lines ih =>
    rw [parseEach]
    cases rows with
    | nil => cases parse line <;> cases parseEach lines <;> simp [Except.map]
    | cons row rows =>
      rw [List.forall₂_cons, ← ih]
      cases parse line <;> cases parseEach lines <;> simp [Except.map]

/-- A text of lines that are not blank is parsed line by line. -/
theorem parseAll_eq_ok_iff {text : Text} (hlines : text.lines = lines)
    (hblank : ∀ line ∈ lines, line.strip ≠ []) :
    parseAll text = .ok rows ↔ List.Forall₂ (fun line row => parse line = .ok row) lines rows := by
  have hkept : lines.filter (fun line => line.strip != []) = lines :=
    List.filter_eq_self.2 fun line hline => bne_iff_ne.2 (hblank line hline)
  rw [parseAll, hlines, hkept, parseEach_eq_ok_iff]

theorem exists_parse_of_mem_parseEach (h : parseEach lines = .ok rows) (hrow : row ∈ rows) :
    ∃ line ∈ lines, parse line = .ok row := by
  have hall := parseEach_eq_ok_iff.1 h
  clear h
  induction hall with
  | nil => exact absurd hrow List.not_mem_nil
  | @cons line first lines rows hfirst _ ih =>
    rcases List.mem_cons.1 hrow with rfl | hrow
    · exact ⟨line, List.mem_cons_self, hfirst⟩
    · obtain ⟨line', hline', hparse⟩ := ih hrow
      exact ⟨line', List.mem_cons_of_mem _ hline', hparse⟩

/-- What is left of the pieces of a line without line breaks are tokens. -/
theorem isToken_of_parse_line (hline : ∀ c ∈ line, Text.isLineBreak c = false)
    (h : parse line = .ok row) : ∀ x ∈ row, IsToken x := by
  intro x hx
  rw [parse_eq_ok h] at hx
  obtain ⟨hpiece, hkept⟩ := List.mem_filter.1 hx
  rw [isKept_iff] at hkept
  have hseparator : ∀ c ∈ x, c ≠ ':' ∧ c ≠ ',' := fun c hc =>
    isSeparator_eq_false_iff.1 (Text.of_mem_pieces hpiece hc).1
  exact {
    ne_nil := hkept.1
    ne_absent := hkept.2
    no_colon := fun hc => (hseparator _ hc).1 rfl
    no_comma := fun hc => (hseparator _ hc).2 rfl
    no_break := fun c hc => hline c (Text.mem_of_mem_strip (Text.of_mem_pieces hpiece hc).2) }

end Row

namespace Grammar

/-- No symbol of a rule is the empty text. -/
def HasNoEmptySymbol (g : Grammar) : Prop := ∀ r ∈ g.rules, [] ∉ r.symbols

instance (g : Grammar) : Decidable g.HasNoEmptySymbol :=
  inferInstanceAs (Decidable (∀ r ∈ g.rules, [] ∉ r.symbols))

variable {g : Grammar} {a x y : Symbol} {text : Text} {form : NormalForm}

theorem HasNoEmptySymbol.unit (hg : g.HasNoEmptySymbol) (hr : Rule.unit a x ∈ g.rules) : x ≠ [] := by
  rintro rfl
  exact hg _ hr (List.mem_cons_of_mem a List.mem_cons_self)

theorem HasNoEmptySymbol.first (hg : g.HasNoEmptySymbol) (hr : Rule.binary a x y ∈ g.rules) :
    x ≠ [] := by
  rintro rfl
  exact hg _ hr (List.mem_cons_of_mem a List.mem_cons_self)

theorem HasNoEmptySymbol.second (hg : g.HasNoEmptySymbol) (hr : Rule.binary a x y ∈ g.rules) :
    y ≠ [] := by
  rintro rfl
  exact hg _ hr (List.mem_cons_of_mem a (List.mem_cons_of_mem x List.mem_cons_self))

theorem parseAll_of_parse (h : parse text form = .ok g) :
    Row.parseAll text = .ok g.rows ∧ g.normalForm = form := by
  rw [parse] at h
  split at h
  · exact nomatch h
  · rename_i rows hrows
    obtain ⟨rfl, hform⟩ := rows_ofRows h
    exact ⟨hrows, hform⟩

/-- A grammar that was parsed is the grammar of its rows. -/
theorem ofRows_rows_of_parse (h : parse text form = .ok g) : ofRows g.rows form = .ok g := by
  rw [parse, (parseAll_of_parse h).1] at h
  exact h

/-- Every symbol of a rule is a token. -/
def HasTokens (g : Grammar) : Prop := ∀ r ∈ g.rules, ∀ x ∈ r.symbols, Row.IsToken x

instance (g : Grammar) : Decidable g.HasTokens :=
  inferInstanceAs (Decidable (∀ r ∈ g.rules, ∀ x ∈ r.symbols, Row.IsToken x))

/-- **The symbols of a grammar that was parsed are tokens.** -/
theorem hasTokens_of_parse (h : parse text form = .ok g) : g.HasTokens := by
  intro r hr
  have hrow : r.symbols ∈ g.rows := List.mem_map_of_mem hr
  obtain ⟨line, hline, hparse⟩ := Row.exists_parse_of_mem_parseEach (parseAll_of_parse h).1 hrow
  have hmem : line ∈ text.lines := List.mem_of_mem_filter hline
  exact Row.isToken_of_parse_line (fun c hc => (Text.of_mem_lines hmem hc).1) hparse

theorem hasNoEmptySymbol_of_parse (h : parse text form = .ok g) : g.HasNoEmptySymbol :=
  fun _ hr hmem => (hasTokens_of_parse h _ hr [] hmem).ne_nil rfl

end Grammar

end Chart
