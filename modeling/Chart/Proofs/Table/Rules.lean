import Chart.Proofs.Table.Inclusion
import Chart.Proofs.Table.Exact

/-!
# Proofs/Table/Rules — how the membership table depends on the rules

* `table_grows_with_rules` — **more rules** give larger cells and more words, whatever texts the symbols
  are and whichever of them the added rules turn into variables.
* `table_ignores_rule_order` — **the same rules** in another order, or repeated, give the same cells and
  the same words, where no symbol is the empty text.

The first compares the two tables as they are filled.  The second does not: in another order the rounds
of a closure differ, so it goes through what the symbols yield, which no order enters.
-/

namespace Chart.Grammar

variable {g h : Grammar} {word w : Text} {a : Symbol}

/-! ## More rules -/

theorem get_filled_subset_of_sublist (hrules : g.rules.Sublist h.rules) (i j : Nat) :
    (g.filled word).get i j ⊆ (h.filled word).get i j := by
  by_cases hij : i ≤ j ∧ j < word.length
  · obtain ⟨len, rfl⟩ := Nat.exists_eq_add_of_le hij.1
    exact get_filled_subset hrules hij.2 hij.2 rfl
  · rw [get_filled_eq_nil hij]
    exact List.nil_subset _

theorem verdict_of_sublist (hstart : g.start = h.start) (hrules : g.rules.Sublist h.rules)
    (hword : g.verdict word = true) : h.verdict word = true := by
  by_cases hempty : word = []
  · subst hempty
    rw [verdict_nil_iff] at hword ⊢
    exact hstart ▸ hrules.subset hword
  · rw [verdict_iff_mem hempty] at hword ⊢
    exact hstart ▸ get_filled_subset_of_sublist hrules _ _ hword

/-- **More rules never take an entry away.**  If the rules of one grammar are among those of another, in
their order, every cell of the one table lies within that cell of the other; and if the start variable is
the same, every word that the one accepts the other accepts too, the empty word included. -/
theorem table_grows_with_rules (hstart : g.start = h.start) (hrules : g.rules.Sublist h.rules)
    (word : Text) (clock : Clock) :
    ∃ t t', g.table word none clock = .ok t ∧ h.table word none clock = .ok t' ∧
      (∀ i j, t.get i j ⊆ t'.get i j) ∧
      ∃ isIn isIn', g.accepts word none clock = .ok isIn ∧ h.accepts word none clock = .ok isIn' ∧
        (isIn = true → isIn' = true) := by
  refine ⟨g.filled word, h.filled word, table_none g word clock, table_none h word clock, ?_, ?_⟩
  · intro i j
    exact get_filled_subset_of_sublist hrules i j
  · exact ⟨g.verdict word, h.verdict word, accepts_none g word clock, accepts_none h word clock,
      verdict_of_sublist hstart hrules⟩

/-- A grammar with an empty symbol and a terminal `a`. -/
def narrow : Grammar where
  rules := [.unit ['S'] ['a'], .binary ['S'] [] ['S']]
  normalForm := .second
  rules_ne_nil := List.cons_ne_nil _ _
  conforms := nofun

/-- The same grammar with rules between its own and behind them, one of which makes `a` a variable. -/
def wide : Grammar where
  rules := [.unit ['S'] ['a'], .unit ['a'] ['b'], .binary ['S'] [] ['S'], .epsilon ['a']]
  normalForm := .second
  rules_ne_nil := List.cons_ne_nil _ _
  conforms := nofun

/-- The word `a` stays accepted when `a` becomes a variable. -/
theorem table_grows_with_rules_wide :
    narrow.start = wide.start ∧ narrow.rules.Sublist wide.rules ∧
    narrow.isVariable ['a'] = false ∧ wide.isVariable ['a'] = true ∧
    ∃ t t', narrow.table ['a'] none (fun _ => 0) = .ok t ∧
      wide.table ['a'] none (fun _ => 0) = .ok t' ∧ (∀ i j, t.get i j ⊆ t'.get i j) ∧
      wide.accepts ['a'] none (fun _ => 0) = .ok true := by
  have hstart : narrow.start = wide.start := rfl
  have hrules : narrow.rules.Sublist wide.rules := by decide
  have hentry : ['S'] ∈ (narrow.filled ['a']).get 0 0 :=
    mem_filled_of_character (c := 'a') (by decide) (Nat.le_refl 0) (by decide) rfl
  have hnarrow : narrow.accepts ['a'] none (fun _ => 0) = .ok true := by
    rw [accepts_none, (verdict_iff_mem (List.cons_ne_nil _ _)).2 hentry]
  obtain ⟨t, t', ht, ht', hcells, isIn, isIn', hin, hin', hle⟩ :=
    table_grows_with_rules hstart hrules ['a'] fun _ => 0
  obtain rfl : true = isIn := Except.ok.inj (hnarrow.symm.trans hin)
  exact ⟨hstart, hrules, rfl, rfl, t, t', ht, ht', hcells, hle rfl ▸ hin'⟩

/-! ## The same rules in another order -/

/-- What a symbol yields by some rules it yields by more. -/
theorem Yields.of_subset (hrules : g.rules ⊆ h.rules) (hyields : g.Yields a w) : h.Yields a w := by
  induction hyields with
  | character hr => exact Yields.character (hrules hr)
  | unit hr _ ih => exact Yields.unit (hrules hr) ih
  | binary hr _ _ ihx ihy => exact Yields.binary (hrules hr) ihx ihy
  | literalFirst hr _ ihy => exact Yields.literalFirst (hrules hr) ihy
  | literalSecond hr _ ihx => exact Yields.literalSecond (hrules hr) ihx
  | literalBoth hr => exact Yields.literalBoth (hrules hr)

theorem HasNoEmptySymbol.of_subset (hrules : h.rules ⊆ g.rules) (hg : g.HasNoEmptySymbol) :
    h.HasNoEmptySymbol :=
  fun r hr => hg r (hrules hr)

theorem mem_filled_iff_of_same_rules (hg : g.HasNoEmptySymbol) (hgh : g.rules ⊆ h.rules)
    (hhg : h.rules ⊆ g.rules) (i j : Nat) :
    a ∈ (g.filled word).get i j ↔ a ∈ (h.filled word).get i j := by
  by_cases hij : i ≤ j ∧ j < word.length
  · rw [mem_filled_iff_yields hg hij.1 hij.2, mem_filled_iff_yields (hg.of_subset hhg) hij.1 hij.2]
    exact ⟨Yields.of_subset hgh, Yields.of_subset hhg⟩
  · rw [get_filled_eq_nil hij, get_filled_eq_nil hij]

theorem verdict_eq_of_same_rules (hg : g.HasNoEmptySymbol) (hgh : g.rules ⊆ h.rules)
    (hhg : h.rules ⊆ g.rules) (hstart : g.start = h.start) : g.verdict word = h.verdict word := by
  rw [Bool.eq_iff_iff]
  by_cases hempty : word = []
  · subst hempty
    rw [verdict_nil_iff, verdict_nil_iff, ← hstart]
    exact ⟨fun hr => hgh hr, fun hr => hhg hr⟩
  · rw [verdict_iff_mem hempty, verdict_iff_mem hempty, ← hstart]
    exact mem_filled_iff_of_same_rules hg hgh hhg _ _

/-- **Neither the order of the rules nor repetitions matter** where no symbol is the empty text, as in
every grammar that was parsed.  If two grammars have the same rules, each cell of the one table has the
entries of that cell of the other; and if the start variable is the same, they accept the same words. -/
theorem table_ignores_rule_order (hsame : ∀ r, r ∈ g.rules ↔ r ∈ h.rules) (word : Text)
    (clock : Clock) :
    (∀ text form, parse text form = .ok g → g.HasNoEmptySymbol) ∧
    (g.HasNoEmptySymbol →
      (∃ t t', g.table word none clock = .ok t ∧ h.table word none clock = .ok t' ∧
        ∀ i j a, a ∈ t.get i j ↔ a ∈ t'.get i j) ∧
      (g.start = h.start →
        ∃ isIn, g.accepts word none clock = .ok isIn ∧ h.accepts word none clock = .ok isIn)) := by
  have hgh : g.rules ⊆ h.rules := fun r hr => (hsame r).1 hr
  have hhg : h.rules ⊆ g.rules := fun r hr => (hsame r).2 hr
  refine ⟨fun text form hparse => hasNoEmptySymbol_of_parse hparse, fun hg => ⟨?_, fun hstart => ?_⟩⟩
  · refine ⟨g.filled word, h.filled word, table_none g word clock, table_none h word clock, ?_⟩
    intro i j a
    exact mem_filled_iff_of_same_rules hg hgh hhg i j
  · refine ⟨g.verdict word, accepts_none g word clock, ?_⟩
    rw [accepts_none, verdict_eq_of_same_rules hg hgh hhg hstart]

/-- A chain of unit rules, each before the rule that it waits for. -/
def chain : Grammar where
  rules := [.unit ['S'] ['A'], .unit ['A'] ['B'], .unit ['B'] ['b']]
  normalForm := .second
  rules_ne_nil := List.cons_ne_nil _ _
  conforms := nofun

/-- The same chain in another order, one rule repeated. -/
def shuffled : Grammar where
  rules := [.unit ['S'] ['A'], .unit ['B'] ['b'], .unit ['A'] ['B'], .unit ['B'] ['b']]
  normalForm := .second
  rules_ne_nil := List.cons_ne_nil _ _
  conforms := nofun

/-- Both chains have the same cell for the word `b`, and accept it. -/
theorem table_ignores_rule_order_chain :
    (∀ r, r ∈ chain.rules ↔ r ∈ shuffled.rules) ∧ chain.HasNoEmptySymbol ∧
    chain.start = shuffled.start ∧
    (∃ t t', chain.table ['b'] none (fun _ => 0) = .ok t ∧
      shuffled.table ['b'] none (fun _ => 0) = .ok t' ∧ ∀ i j a, a ∈ t.get i j ↔ a ∈ t'.get i j) ∧
    shuffled.accepts ['b'] none (fun _ => 0) = .ok true := by
  have hsame : ∀ r, r ∈ chain.rules ↔ r ∈ shuffled.rules := by
    intro r
    have hsub : chain.rules ⊆ shuffled.rules := by decide
    have hsub' : shuffled.rules ⊆ chain.rules := by decide
    exact ⟨fun hr => hsub hr, fun hr => hsub' hr⟩
  have hempty : chain.HasNoEmptySymbol := by decide
  have hlast : chain.Yields ['B'] ['b'] := Yields.character (by decide)
  have hyields : chain.Yields ['S'] ['b'] :=
    Yields.unit (b := ['A']) (by decide) (Yields.unit (by decide) hlast)
  have hchain : chain.accepts ['b'] none (fun _ => 0) = .ok true := by
    rw [accepts_none, (verdict_iff_yields hempty (List.cons_ne_nil _ _)).2 hyields]
  obtain ⟨hcells, hverdict⟩ := (table_ignores_rule_order hsame ['b'] fun _ => 0).2 hempty
  obtain ⟨isIn, hin, hin'⟩ := hverdict rfl
  obtain rfl : true = isIn := Except.ok.inj (hchain.symm.trans hin)
  exact ⟨hsame, hempty, rfl, hcells, hin'⟩

end Chart.Grammar
