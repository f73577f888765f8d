import Chart.Proofs.Grammar.Construction
import Chart.Proofs.Grammar.Parsed

/-!
# Proofs/Grammar/RoundTrip — reading back what was written

A rule is written with a slot for its left-hand side and two for its right-hand side.  Where every symbol
is a token, the lines and the slots are found again as they were written, so **only stripping can lose
something**: the blanks at the start of the left-hand side and at the end of the last slot.

* `Row.parse_toLine_iff` — a line is read back exactly if its rule is unpadded.
* `Grammar.lines_toText`, `Grammar.parseAll_eq_rows_iff` — the lines that were written, and what they are
  read as.
* `Grammar.parse_toText_iff` — which grammars are read back from their texts.
-/

namespace Chart

namespace Rule

variable {r : Rule} {x : Symbol}

/-- The texts in the two slots on the right of the line of a rule. -/
def slots : Rule → Symbol × Symbol
  | epsilon _ => (absent, absent)
  | unit _ x => (x, absent)
  | binary _ x y => (x, y)

/-- **A rule is unpadded** if no blank of a symbol stands at an end of its line.  A rule with fewer than
two symbols on the right ends in the token for an absent symbol. -/
structure IsUnpadded (r : Rule) : Prop where
  head : ∀ c ∈ r.lhs.head?, Text.isBlank c = false
  last : ∀ y ∈ r.rhs[1]?, ∀ c ∈ y.getLast?, Text.isBlank c = false

theorem toLine_eq (r : Rule) : r.toLine = r.lhs ++ ':' :: (r.slots.1 ++ ',' :: r.slots.2) := by
  cases r <;> simp [toLine, lhs, rhs, slots]

/-- Stripping takes nothing from the slots of an unpadded rule. -/
theorem isUnpadded_iff : r.IsUnpadded ↔
    r.lhs.dropWhile Text.isBlank = r.lhs ∧ r.slots.2.rdropWhile Text.isBlank = r.slots.2 := by
  have hlast : (∀ y ∈ r.rhs[1]?, ∀ c ∈ y.getLast?, Text.isBlank c = false) ↔
      r.slots.2.rdropWhile Text.isBlank = r.slots.2 := by
    cases r with
    | epsilon a => exact ⟨fun _ => rfl, fun _ y hy => nomatch hy⟩
    | unit a x => exact ⟨fun _ => rfl, fun _ y hy => nomatch hy⟩
    | binary a x y =>
      rw [Text.rdropWhile_eq_self_iff]
      simp [rhs, slots]
  rw [Text.dropWhile_eq_self_iff, ← hlast]
  exact ⟨fun h => ⟨h.head, h.last⟩, fun h => ⟨h.1, h.2⟩⟩

instance (r : Rule) : Decidable r.IsUnpadded := decidable_of_iff _ isUnpadded_iff.symm

/-- What stands in a slot is a symbol of the rule, or the token for an absent one. -/
theorem mem_symbols_or_eq_absent (hx : x = r.slots.1 ∨ x = r.slots.2) : x ∈ r.symbols ∨ x = absent := by
  cases r <;> simp only [slots] at hx <;> simp [symbols, lhs, rhs] <;> tauto

end Rule

namespace Row

variable {r : Rule} {x : Symbol}

/-- The pieces of the line of a rule are what stripping leaves of its slots. -/
theorem pieces_strip_toLine (hr : ∀ x ∈ r.symbols, IsToken x) :
    r.toLine.strip.pieces isSeparator =
      [r.lhs.dropWhile Text.isBlank, r.slots.1, r.slots.2.rdropWhile Text.isBlank] := by
  have hslot : ∀ x, x = r.slots.1 ∨ x = r.slots.2 → ∀ c ∈ x, isSeparator c = false := by
    intro x hx
    rcases Rule.mem_symbols_or_eq_absent hx with hmem | rfl
    · exact (hr x hmem).isSeparator_eq_false
    · exact List.forall_mem_singleton.2 rfl
  have hlhs : ∀ c ∈ r.lhs.dropWhile Text.isBlank, isSeparator c = false := fun c hc =>
    (hr r.lhs List.mem_cons_self).isSeparator_eq_false c
      ((List.dropWhile_suffix Text.isBlank).subset hc)
  have hsecond : ∀ c ∈ r.slots.2.rdropWhile Text.isBlank, isSeparator c = false := fun c hc =>
    hslot _ (Or.inr rfl) c ((List.rdropWhile_prefix Text.isBlank _).subset hc)
  have hcolon : Text.isBlank ':' = false := by decide
  have hcomma : Text.isBlank ',' = false := by decide
  rw [Rule.toLine_eq, Text.strip_append_cons hcolon, Text.rdropWhile_append_cons hcomma,
    Text.pieces_append_cons hlhs rfl, Text.pieces_append_cons (hslot _ (Or.inl rfl)) rfl,
    Text.pieces_eq_singleton hsecond]

/-- **A line that was written is read back exactly if its rule is unpadded.** -/
theorem parse_toLine_iff (hr : ∀ x ∈ r.symbols, IsToken x) :
    parse r.toLine = .ok r.symbols ↔ r.IsUnpadded := by
  have hne : r.symbols ≠ [] := List.cons_ne_nil _ _
  have habsent : isKept absent = false := rfl
  have hstays : absent.rdropWhile Text.isBlank = absent := rfl
  rw [parse_eq_ok_iff hne, pieces_strip_toLine hr, Rule.isUnpadded_iff]
  -- a piece that is not kept would leave too few symbols
  cases r with
  | epsilon a =>
    have ha : isKept a = true := (hr a (by simp [Rule.symbols, Rule.lhs])).isKept
    simp only [Rule.symbols, Rule.lhs, Rule.rhs, Rule.slots, hstays]
    grind
  | unit a x =>
    have ha : isKept a = true := (hr a (by simp [Rule.symbols, Rule.lhs])).isKept
    have hx : isKept x = true := (hr x (by simp [Rule.symbols, Rule.rhs])).isKept
    simp only [Rule.symbols, Rule.lhs, Rule.rhs, Rule.slots, hstays]
    grind
  | binary a x y =>
    have ha : isKept a = true := (hr a (by simp [Rule.symbols, Rule.lhs])).isKept
    have hx : isKept x = true := (hr x (by simp [Rule.symbols, Rule.rhs])).isKept
    have hy : isKept y = true := (hr y (by simp [Rule.symbols, Rule.rhs])).isKept
    simp only [Rule.symbols, Rule.lhs, Rule.rhs, Rule.slots]
    grind

/-- The line of a rule of tokens is a line. -/
theorem isLineBreak_of_mem_toLine (hr : ∀ x ∈ r.symbols, IsToken x) :
    ∀ c ∈ r.toLine, Text.isLineBreak c = false := by
  have hslot : ∀ x, x = r.slots.1 ∨ x = r.slots.2 → ∀ c ∈ x, Text.isLineBreak c = false := by
    intro x hx
    rcases Rule.mem_symbols_or_eq_absent hx with hmem | rfl
    · exact (hr x hmem).no_break
    · exact List.forall_mem_singleton.2 rfl
  intro c hc
  rw [Rule.toLine_eq] at hc
  simp only [List.mem_append, List.mem_cons] at hc
  rcases hc with hc | rfl | hc | rfl | hc
  · exact (hr r.lhs List.mem_cons_self).no_break c hc
  · rfl
  · exact hslot _ (Or.inl rfl) c hc
  · rfl
  · exact hslot _ (Or.inr rfl) c hc

theorem toLine_ne_nil (r : Rule) : r.toLine ≠ [] := by
  rw [Rule.toLine_eq]
  exact List.append_ne_nil_of_right_ne_nil _ (List.cons_ne_nil _ _)

/-- The line of a rule is not blank. -/
theorem strip_toLine_ne_nil (r : Rule) : r.toLine.strip ≠ [] := by
  have hcolon : Text.isBlank ':' = false := by decide
  rw [Rule.toLine_eq, Text.strip_append_cons hcolon]
  exact List.append_ne_nil_of_right_ne_nil _ (List.cons_ne_nil _ _)

end Row

namespace Grammar

variable {g g' : Grammar} {text : Text} {rows : List Row} {form : NormalForm}

/-- No rule is padded. -/
def IsUnpadded (g : Grammar) : Prop := ∀ r ∈ g.rules, r.IsUnpadded

instance (g : Grammar) : Decidable g.IsUnpadded :=
  inferInstanceAs (Decidable (∀ r ∈ g.rules, r.IsUnpadded))

theorem HasTokens.isLineBreak_eq_false (hg : g.HasTokens) :
    ∀ line ∈ g.rules.map Rule.toLine, ∀ c ∈ line, Text.isLineBreak c = false := by
  intro line hline
  obtain ⟨r, hr, rfl⟩ := List.mem_map.1 hline
  exact Row.isLineBreak_of_mem_toLine (hg r hr)

/-- **The lines of a text that was written are the lines of its rules.** -/
theorem lines_toText (hg : g.HasTokens) : g.toText.lines = g.rules.map Rule.toLine := by
  refine Text.lines_intercalate ?_ hg.isLineBreak_eq_false
  intro line hline
  obtain ⟨r, -, rfl⟩ := List.mem_map.1 hline
  exact Row.toLine_ne_nil r

/-- The lines of rules are parsed to their rows exactly if each line is parsed to its row. -/
theorem parseAll_eq_rows_iff (hlines : text.lines = g.rules.map Rule.toLine) :
    Row.parseAll text = .ok g.rows ↔ ∀ r ∈ g.rules, Row.parse r.toLine = .ok r.symbols := by
  have hblank : ∀ line ∈ g.rules.map Rule.toLine, line.strip ≠ [] :=
    List.forall_mem_map.2 fun r _ => Row.strip_toLine_ne_nil r
  rw [Row.parseAll_eq_ok_iff hlines hblank, rows, List.forall₂_map_left_iff,
    List.forall₂_map_right_iff, List.forall₂_same]

/-- **Only padding is lost** between a grammar of tokens and the lines of its rules. -/
theorem parse_eq_ok_iff_of_lines (hg : g.HasTokens) (hrows : ofRows g.rows form = .ok g)
    (hlines : text.lines = g.rules.map Rule.toLine) : parse text form = .ok g ↔ g.IsUnpadded := by
  have hall : Row.parseAll text = .ok g.rows ↔ g.IsUnpadded := by
    rw [parseAll_eq_rows_iff hlines]
    exact forall₂_congr fun r hr => Row.parse_toLine_iff (hg r hr)
  rw [← hall]
  refine ⟨fun h => (parseAll_of_parse h).1, fun h => ?_⟩
  rw [parse, h]
  exact hrows

/-- A grammar that was parsed from lines without blanks inside them is unpadded. -/
theorem isUnpadded_of_forall_strip (h : parse text form = .ok g)
    (hblank : ∀ line ∈ text.lines, ∀ c ∈ line.strip, Text.isBlank c = false) : g.IsUnpadded := by
  intro r hr
  have hrow : r.symbols ∈ g.rows := List.mem_map_of_mem hr
  obtain ⟨line, hline, hparse⟩ := Row.exists_parse_of_mem_parseEach (parseAll_of_parse h).1 hrow
  have hsymbol : ∀ x ∈ r.symbols, ∀ c ∈ x, Text.isBlank c = false := by
    intro x hx c hc
    rw [Row.parse_eq_ok hparse] at hx
    exact hblank line (List.mem_of_mem_filter hline) c
      (Text.of_mem_pieces (List.mem_of_mem_filter hx) hc).2
  exact {
    head := fun c hc => hsymbol r.lhs List.mem_cons_self c (List.mem_of_head? hc)
    last := fun y hy c hc =>
      hsymbol y (List.mem_cons_of_mem _ (List.mem_of_getElem? hy)) c (List.mem_of_getLast? hc) }

/-- **Which grammars are read back from their texts**: those whose symbols are tokens and whose rules are
unpadded. -/
theorem parse_toText_iff (h : ofRows rows form = .ok g) :
    (∃ g', parse g.toText form = .ok g' ∧ g'.rules = g.rules) ↔ g.HasTokens ∧ g.IsUnpadded := by
  obtain ⟨rfl, hform⟩ := rows_ofRows h
  constructor
  · rintro ⟨g', hparse, hrules⟩
    have hsame : g'.rows = g.rows := congrArg (List.map Rule.symbols) hrules
    obtain rfl : g' = g := eq_of_rows_eq hsame ((parseAll_of_parse hparse).2.trans hform.symm)
    have hg : g'.HasTokens := hasTokens_of_parse hparse
    exact ⟨hg, (parse_eq_ok_iff_of_lines hg h (lines_toText hg)).1 hparse⟩
  · rintro ⟨hg, hunpadded⟩
    exact ⟨g, (parse_eq_ok_iff_of_lines hg h (lines_toText hg)).2 hunpadded, rfl⟩

/-- A grammar with blanks inside its lines: before the first symbol on the right, and behind a symbol that
the token for an absent symbol follows. -/
def spaced : Grammar where
  rules := [.binary ['S'] [' ', 'A'] ['B', ' ', 'B'], .unit ['B', ' ', 'B'] ['b', ' ']]
  normalForm := .second
  rules_ne_nil := List.cons_ne_nil _ _
  conforms := nofun

/-- Blanks inside a line are read back. -/
theorem parse_toText_spaced :
    ofRows [[['S'], [' ', 'A'], ['B', ' ', 'B']], [['B', ' ', 'B'], ['b', ' ']]] .second = .ok spaced ∧
    spaced.HasTokens ∧ spaced.IsUnpadded ∧
    ∃ g', parse spaced.toText .second = .ok g' ∧ g'.rules = spaced.rules := by
  have hrows : ofRows spaced.rows .second = .ok spaced := rfl
  have hg : spaced.HasTokens := by decide
  have hunpadded : spaced.IsUnpadded := by decide
  exact ⟨hrows, hg, hunpadded, (parse_toText_iff hrows).2 ⟨hg, hunpadded⟩⟩

end Grammar

end Chart
