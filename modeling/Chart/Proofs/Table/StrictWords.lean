import Chart.Proofs.Table.Agreement
import Chart.Proofs.Grammar.StrictLines

/-!
# Proofs/Table/StrictWords — words over the terminals of the strict format

The variables of the strict format are numerals and its terminals are `a` and `b`.  A numeral that is no
left-hand side is a terminal too, but its characters are in no word over `a` and `b`.  So in such a word
there is nothing to misread: `WritesAll.isPlainFor`.
-/

namespace Chart.LinePattern

variable {word x : Text} {lines : List Text} {g : Grammar}

/-- No numeral occurs in a word over `a` and `b`. -/
theorem IsNumeral.not_occurs (hx : IsNumeral x) (hword : ∀ c ∈ word, c = 'a' ∨ c = 'b') :
    ¬ x <:+: word := by
  intro hoccurs
  obtain ⟨c, hc⟩ := List.exists_mem_of_ne_nil x hx.1
  rcases hx.2 c hc with rfl | rfl
  · exact absurd (hword _ (hoccurs.subset hc)) (by decide)
  · exact absurd (hword _ (hoccurs.subset hc)) (by decide)

/-- **A grammar that strict lines write has no empty symbol.** -/
theorem WritesAll.hasNoEmptySymbol (h : WritesAll lines g.rules) : g.HasNoEmptySymbol := by
  intro r hr hmem
  obtain ⟨line, hline⟩ := h.exists_writes hr
  exact (hline.isToken_of_mem_symbols [] hmem).ne_nil rfl

theorem WritesAll.isNumeral_of_isVariable (h : WritesAll lines g.rules)
    (hx : g.isVariable x = true) : IsNumeral x := by
  obtain ⟨r, hr, rfl⟩ := List.mem_map.1 (of_decide_eq_true hx)
  obtain ⟨line, hline⟩ := h.exists_writes hr
  exact hline.isNumeral_lhs

/-- **A word over `a` and `b` leaves nothing to misread** to a grammar that strict lines write. -/
theorem WritesAll.isPlainFor (h : WritesAll lines g.rules)
    (hword : ∀ c ∈ word, c = 'a' ∨ c = 'b') : g.IsPlainFor word where
  epsilon a ha := by
    obtain ⟨line, hline⟩ := h.exists_writes ha
    exact nomatch hline
  longTerminal a x hr _ hlong := by
    obtain ⟨line, hline⟩ := h.exists_writes hr
    rcases hline.isStrict_of_mem_rhs (List.mem_singleton_self x) with hx | rfl | rfl
    · exact hx.not_occurs hword
    · exact absurd hlong (by decide)
    · exact absurd hlong (by decide)
  noVariable x _ hx := (h.isNumeral_of_isVariable hx).not_occurs hword

/-- A grammar that strict lines write accepts the words over `a` and `b` that it generates. -/
theorem WritesAll.verdict_iff_generates (h : WritesAll lines g.rules)
    (hword : ∀ c ∈ word, c = 'a' ∨ c = 'b') : g.verdict word = true ↔ g.Generates word :=
  Grammar.verdict_iff_generates h.hasNoEmptySymbol (h.isPlainFor hword)

end Chart.LinePattern
