import Chart.Proofs.Table.Reading

/-!
# Proofs/Table/Agreement — where the table and rewriting agree

Rewriting reaches more than the table in two ways: a variable may vanish by an empty rule, and a
terminal of several characters may be a whole right-hand side.  The table accepts more in one way: it
reads variables as text.  On a word where none of the three can happen the two agree.

* `IsPlainFor` — the word and the grammar for which this is so.
* `Spells.yields` — what a symbol spells within such a word, it yields.
* `accepts_iff_generates` — the verdict on such a word.
-/

namespace Chart.Grammar

variable {g : Grammar} {word w : Text} {a x y : Symbol}

/-- **A word that leaves nothing to misread.** -/
structure IsPlainFor (g : Grammar) (word : Text) : Prop where
  /-- Only the start variable may have an empty right-hand side, and then it is on none itself. -/
  epsilon : ∀ a, Rule.epsilon a ∈ g.rules → a = g.start ∧ ∀ r ∈ g.rules, a ∉ r.rhs
  /-- No terminal of two or more characters that is a whole right-hand side occurs in the word. -/
  longTerminal : ∀ a x, Rule.unit a x ∈ g.rules → g.isVariable x = false → 2 ≤ x.length →
    ¬ x <:+: word
  /-- No variable that stands on a right-hand side occurs in the word. -/
  noVariable : g.HasNoVariableIn word

/-- A symbol on a right-hand side has no empty rule, so it stands for nothing in no word. -/
theorem IsPlainFor.resolve_epsilon {P : Prop} (hword : g.IsPlainFor word) {r : Rule}
    (hr : r ∈ g.rules) (hx : x ∈ r.rhs) (h : (w = [] ∧ Rule.epsilon x ∈ g.rules) ∨ P) : P :=
  h.resolve_left fun hempty => (hword.epsilon x hempty.2).2 r hr hx

/-- A terminal of the word that is a whole right-hand side is a single character. -/
theorem IsPlainFor.exists_character (hword : g.IsPlainFor word) (hg : g.HasNoEmptySymbol)
    (hr : Rule.unit a x ∈ g.rules) (hx : g.isVariable x = false) (hoccurs : x <:+: word) :
    ∃ c, x = [c] := by
  have hpos : 0 < x.length := List.length_pos_iff.2 (hg.unit hr)
  have hshort : ¬ 2 ≤ x.length := fun hlong => hword.longTerminal a x hr hx hlong hoccurs
  exact List.length_eq_one_iff.1 (by omega)

/-- **What a symbol spells within a plain word, it yields**, unless it is a terminal or stands for
nothing. -/
theorem Spells.yields (hg : g.HasNoEmptySymbol) (hword : g.IsPlainFor word) (h : g.Spells a w)
    (hw : w <:+: word) :
    (w = [] ∧ Rule.epsilon a ∈ g.rules) ∨ (w = a ∧ g.isVariable a = false) ∨ g.Yields a w := by
  induction h with
  | terminal ha => exact Or.inr (Or.inl ⟨rfl, ha⟩)
  | epsilon hr => exact Or.inl ⟨rfl, hr⟩
  | @unit a x w hr _ ih =>
    refine Or.inr (Or.inr ?_)
    rcases hword.resolve_epsilon hr (List.mem_singleton_self x) (ih hw) with ⟨rfl, hx⟩ | hx
    · obtain ⟨c, rfl⟩ := hword.exists_character hg hr hx hw
      exact Yields.character hr
    · exact Yields.unit hr hx
  | @binary a x y u v hr _ _ ihx ihy =>
    refine Or.inr (Or.inr ?_)
    obtain ⟨hu, hv⟩ := Text.infix_of_append hw
    have hy : y ∈ (Rule.binary a x y).rhs := List.mem_cons_of_mem x List.mem_cons_self
    rcases hword.resolve_epsilon hr List.mem_cons_self (ihx hu) with ⟨rfl, -⟩ | hx
    · rcases hword.resolve_epsilon hr hy (ihy hv) with ⟨rfl, -⟩ | hy
      · exact Yields.literalBoth hr
      · exact Yields.literalFirst hr hy
    · rcases hword.resolve_epsilon hr hy (ihy hv) with ⟨rfl, -⟩ | hy
      · exact Yields.literalSecond hr hx
      · exact Yields.binary hr hx hy

/-- **On a plain word, the verdict is whether the word is generated.** -/
theorem verdict_iff_generates (hg : g.HasNoEmptySymbol) (hword : g.IsPlainFor word) :
    g.verdict word = true ↔ g.Generates word := by
  refine ⟨generates_of_verdict hword.noVariable, ?_⟩
  intro hgen
  have hstart := generates_iff_spells.1 hgen
  rcases hstart.yields hg hword (List.infix_refl word) with ⟨rfl, hepsilon⟩ | ⟨-, hstart⟩ | hyields
  · exact verdict_nil_iff.2 hepsilon
  · exact absurd (isVariable_start g) (Bool.eq_false_iff.1 hstart)
  · exact (verdict_iff_yields hg (hyields.ne_nil hg)).2 hyields

/-- **Recognition agrees with rewriting** on every plain word, the empty one included, for every grammar
without empty symbols: there is a verdict, and it is whether the word is generated. -/
theorem accepts_iff_generates (hg : g.HasNoEmptySymbol) (hword : g.IsPlainFor word)
    (clock : Clock) :
    ∃ isIn, g.accepts word none clock = .ok isIn ∧ (isIn = true ↔ g.Generates word) :=
  ⟨g.verdict word, accepts_none g word clock, verdict_iff_generates hg hword⟩

/-- A grammar with an empty rule, a unit rule, and terminals of two characters in a unit rule and beside
a variable. -/
def mixed : Grammar where
  rules := [.epsilon ['S'], .binary ['S'] ['a', 'b'] ['C'], .unit ['C'] ['D'], .unit ['D'] ['c'],
    .unit ['D'] ['d', 'd']]
  normalForm := .second
  rules_ne_nil := List.cons_ne_nil _ _
  conforms := nofun

theorem isPlainFor_mixed : mixed.IsPlainFor ['a', 'b', 'c'] where
  epsilon a ha := by
    obtain rfl : a = ['S'] := by simpa [mixed] using ha
    exact ⟨rfl, by decide⟩
  longTerminal a x hr hx hlong hoccurs := by
    have hrule : a = ['C'] ∧ x = ['D'] ∨ a = ['D'] ∧ x = ['c'] ∨ a = ['D'] ∧ x = ['d', 'd'] := by
      simpa [mixed] using hr
    rcases hrule with ⟨-, rfl⟩ | ⟨-, rfl⟩ | ⟨-, rfl⟩
    · exact absurd hx (by decide)
    · exact absurd hlong (by decide)
    · exact absurd (hoccurs.subset List.mem_cons_self) (by decide)
  noVariable x hx hvariable hoccurs := by
    have hright : x = ['a', 'b'] ∨ x = ['C'] ∨ x = ['D'] ∨ x = ['c'] ∨ x = ['d', 'd'] := by
      simpa [mixed, rightSymbols, Rule.rhs] using hx
    rcases hright with rfl | rfl | rfl | rfl | rfl
    · exact absurd hvariable (by decide)
    · exact absurd (hoccurs.subset List.mem_cons_self) (by decide)
    · exact absurd (hoccurs.subset List.mem_cons_self) (by decide)
    · exact absurd hvariable (by decide)
    · exact absurd hvariable (by decide)

/-- The word `abc` of the mixed grammar. -/
theorem accepts_iff_generates_mixed :
    mixed.HasNoEmptySymbol ∧ mixed.IsPlainFor ['a', 'b', 'c'] ∧
    ∃ isIn, mixed.accepts ['a', 'b', 'c'] none (fun _ => 0) = .ok isIn ∧
      (isIn = true ↔ mixed.Generates ['a', 'b', 'c']) :=
  have hempty : mixed.HasNoEmptySymbol := by decide
  ⟨hempty, isPlainFor_mixed, accepts_iff_generates hempty isPlainFor_mixed _⟩

end Chart.Grammar
