import Chart.Proofs.Table.Reading

/-!
# Proofs/Table/Chomsky — what a grammar in Chomsky normal form accepts

Chomsky normal form leaves two things open: the start variable may have an empty rule and stand on a
right-hand side, and the terminal of a rule may be of any length.  The table follows neither: it uses the
empty rule for the empty word alone, and of the unit rules it reads those of a single character.  So what
it follows are the derivations of the textbook form, in which every leaf is a character.

* `Composes` — the words with such a derivation; `IsComposed` adds the empty word.
* `IsStrictFor` — a grammar and a word for which every derivation is of this form.
* `Yields.composes`, `Spells.composes` — what is accepted, or generated, is composed.
* `chomsky_accepts_composed` — which words are accepted; `chomsky_rejects_generated` — not all that are
  generated.
-/

namespace Chart.Grammar

variable {g : Grammar} {word w : Text} {i j : Nat} {a x y : Symbol}

/-- **The words that a symbol composes** of single characters: a rule gives one, or joins what its two
symbols compose. -/
inductive Composes (g : Grammar) : Symbol → Text → Prop where
  | character {a : Symbol} {c : Char} : Rule.unit a [c] ∈ g.rules → Composes g a [c]
  | binary {a x y : Symbol} {u v : Text} : Rule.binary a x y ∈ g.rules →
    Composes g x u → Composes g y v → Composes g a (u ++ v)

/-- A word that the start variable composes, or the empty one if there is a rule for it. -/
def IsComposed (g : Grammar) (word : Text) : Prop :=
  (word = [] ∧ Rule.epsilon g.start ∈ g.rules) ∨ g.Composes g.start word

/-- **A grammar and a word that leave nothing open**, so that the word is derived character by character
if at all. -/
structure IsStrictFor (g : Grammar) (word : Text) : Prop where
  /-- A start variable with an empty rule stands on no right-hand side. -/
  start : Rule.epsilon g.start ∈ g.rules → g.start ∉ g.rightSymbols
  /-- A terminal that is a whole right-hand side and occurs in the word is a single character. -/
  terminal : ∀ a x, Rule.unit a x ∈ g.rules → x <:+: word → x.length = 1

/-! ## The shapes of rules -/

section Shapes

variable (hg : g.normalForm = .chomsky)
include hg

theorem eq_start_of_epsilon (hr : Rule.epsilon a ∈ g.rules) : a = g.start := g.conforms hg _ hr

theorem isVariable_eq_false_of_unit (hr : Rule.unit a x ∈ g.rules) : g.isVariable x = false :=
  decide_eq_false (g.conforms hg _ hr)

theorem isVariable_first (hr : Rule.binary a x y ∈ g.rules) : g.isVariable x = true :=
  decide_eq_true (g.conforms hg _ hr).1

theorem isVariable_second (hr : Rule.binary a x y ∈ g.rules) : g.isVariable y = true :=
  decide_eq_true (g.conforms hg _ hr).2

end Shapes

/-! ## Composed words are accepted -/

theorem Composes.ne_nil (h : g.Composes a w) : w ≠ [] := by
  induction h with
  | character => exact List.cons_ne_nil _ _
  | binary _ _ _ ih _ => exact List.append_ne_nil_of_left_ne_nil ih _

/-- What a symbol composes, it is an entry for, whatever texts the symbols are. -/
theorem mem_filled_of_composes (h : g.Composes a w) (hij : i ≤ j) (hj : j < word.length)
    (hw : word.slice i j = w) : a ∈ (g.filled word).get i j := by
  induction h generalizing i j with
  | character hr => exact mem_filled_of_character hr hij hj hw
  | binary hr hu hv ihu ihv => exact mem_filled_of_parts hr hu.ne_nil hv.ne_nil ihu ihv hij hj hw

theorem verdict_of_isComposed (h : g.IsComposed word) : g.verdict word = true := by
  rcases h with ⟨rfl, hepsilon⟩ | hstart
  · exact verdict_nil_iff.2 hepsilon
  · have hpos : 0 < word.length := List.length_pos_iff.2 hstart.ne_nil
    exact (verdict_iff_mem hstart.ne_nil).2
      (mem_filled_of_composes hstart (Nat.zero_le _) (by omega) (Text.slice_whole hstart.ne_nil))

/-! ## Composed words are generated -/

theorem Composes.spells (hg : g.normalForm = .chomsky) (h : g.Composes a w) : g.Spells a w := by
  induction h with
  | character hr => exact Spells.unit hr (Spells.terminal (isVariable_eq_false_of_unit hg hr))
  | binary hr _ _ ihu ihv => exact Spells.binary hr ihu ihv

theorem generates_of_isComposed (hg : g.normalForm = .chomsky) (h : g.IsComposed word) :
    g.Generates word := by
  rcases h with ⟨rfl, hepsilon⟩ | hstart
  · exact generates_iff_spells.2 (Spells.epsilon hepsilon)
  · exact generates_iff_spells.2 (hstart.spells hg)

/-! ## Accepted words are composed -/

/-- A symbol that yields a word has a rule. -/
theorem Yields.isVariable (h : g.Yields a w) : g.isVariable a = true := by
  cases h with
  | character hr | unit hr _ | binary hr _ _ | literalFirst hr _ | literalSecond hr _
  | literalBoth hr => exact isVariable_lhs hr

/-- **What a symbol yields within a word without the text of a variable, it composes.** -/
theorem Yields.composes (hg : g.normalForm = .chomsky) (hword : g.HasNoVariableIn word)
    (h : g.Yields a w) (hw : w <:+: word) : g.Composes a w := by
  induction h with
  | character hr => exact Composes.character hr
  | unit hr hx _ =>
    exact absurd hx.isVariable (Bool.eq_false_iff.1 (isVariable_eq_false_of_unit hg hr))
  | @binary a x y u v hr _ _ ihu ihv =>
    obtain ⟨hu, hv⟩ := Text.infix_of_append hw
    exact Composes.binary hr (ihu hu) (ihv hv)
  -- the symbols of a binary rule are variables, and the text of none is in the word
  | @literalFirst a x y v hr =>
    exact absurd (Text.infix_of_append hw).1
      (hword x (mem_rightSymbols_of_first hr) (isVariable_first hg hr))
  | @literalSecond a x y u hr =>
    exact absurd (Text.infix_of_append hw).2
      (hword y (mem_rightSymbols_of_second hr) (isVariable_second hg hr))
  | @literalBoth a x y hr =>
    exact absurd (Text.infix_of_append hw).1
      (hword x (mem_rightSymbols_of_first hr) (isVariable_first hg hr))

theorem isComposed_of_verdict (hg : g.normalForm = .chomsky) (hword : g.HasNoVariableIn word)
    (h : g.verdict word = true) : g.IsComposed word := by
  by_cases hempty : word = []
  · subst hempty
    exact Or.inl ⟨rfl, verdict_nil_iff.1 h⟩
  · exact Or.inr ((yields_of_verdict hempty h).composes hg hword (List.infix_refl word))

/-! ## Generated words that are composed -/

/-- A terminal spells its text alone. -/
theorem Spells.eq_of_terminal (ha : g.isVariable a = false) (h : g.Spells a w) : w = a := by
  cases h with
  | terminal => rfl
  | epsilon hr | unit hr _ | binary hr _ _ =>
    exact absurd (isVariable_lhs hr) (Bool.eq_false_iff.1 ha)

/-- **What a symbol spells within a word that leaves nothing open, it composes**, unless it is a terminal
or stands for nothing. -/
theorem Spells.composes (hg : g.normalForm = .chomsky) (hstrict : g.IsStrictFor word)
    (h : g.Spells a w) (hw : w <:+: word) :
    (w = [] ∧ Rule.epsilon a ∈ g.rules) ∨ g.isVariable a = false ∨ g.Composes a w := by
  -- a variable on a right-hand side has no empty rule: only the start variable may have one
  have hright : ∀ {x v}, x ∈ g.rightSymbols → g.isVariable x = true →
      (v = [] ∧ Rule.epsilon x ∈ g.rules) ∨ g.isVariable x = false ∨ g.Composes x v →
        g.Composes x v := by
    rintro x v hx hvariable (⟨-, hepsilon⟩ | hterminal | hcomposes)
    · obtain rfl := eq_start_of_epsilon hg hepsilon
      exact absurd hx (hstrict.start hepsilon)
    · exact absurd hvariable (Bool.eq_false_iff.1 hterminal)
    · exact hcomposes
  induction h with
  | terminal ha => exact Or.inr (Or.inl ha)
  | epsilon hr => exact Or.inl ⟨rfl, hr⟩
  | unit hr hx _ =>
    obtain rfl := hx.eq_of_terminal (isVariable_eq_false_of_unit hg hr)
    obtain ⟨c, rfl⟩ := List.length_eq_one_iff.1 (hstrict.terminal _ _ hr hw)
    exact Or.inr (Or.inr (Composes.character hr))
  | @binary a x y u v hr _ _ ihx ihy =>
    obtain ⟨hu, hv⟩ := Text.infix_of_append hw
    refine Or.inr (Or.inr (Composes.binary hr ?_ ?_))
    · exact hright (mem_rightSymbols_of_first hr) (isVariable_first hg hr) (ihx hu)
    · exact hright (mem_rightSymbols_of_second hr) (isVariable_second hg hr) (ihy hv)

theorem isComposed_of_generates (hg : g.normalForm = .chomsky) (hstrict : g.IsStrictFor word)
    (h : g.Generates word) : g.IsComposed word := by
  have hstart := (generates_iff_spells.1 h).composes hg hstrict (List.infix_refl word)
  rcases hstart with hempty | hterminal | hcomposes
  · exact Or.inl hempty
  · exact absurd (isVariable_start g) (Bool.eq_false_iff.1 hterminal)
  · exact Or.inr hcomposes

/-- **What a grammar in Chomsky normal form accepts.**  There is a verdict on every word.  A word that is
composed of characters is generated and accepted; unless a variable of a right-hand side occurs in it, no
other word is accepted.  So a generated word is accepted where the start variable, if it may stand for
nothing, is on no right-hand side, and the terminals of unit rules that occur in the word are single
characters. -/
theorem chomsky_accepts_composed (hg : g.normalForm = .chomsky) (word : Text) (clock : Clock) :
    ∃ isIn, g.accepts word none clock = .ok isIn ∧
      (g.IsComposed word → g.Generates word ∧ isIn = true) ∧
      (g.HasNoVariableIn word → (isIn = true ↔ g.IsComposed word)) ∧
      (g.IsStrictFor word → g.Generates word → isIn = true) := by
  refine ⟨g.verdict word, accepts_none g word clock, ?_, ?_, ?_⟩
  · intro h
    exact ⟨generates_of_isComposed hg h, verdict_of_isComposed h⟩
  · intro hword
    exact ⟨isComposed_of_verdict hg hword, verdict_of_isComposed⟩
  · intro hstrict h
    exact verdict_of_isComposed (isComposed_of_generates hg hstrict h)

/-! ## A strict grammar, and one that is not -/

/-- The grammar of the word `ab` and the empty word. -/
def optional : Grammar where
  rules := [.binary ['S'] ['A'] ['B'], .epsilon ['S'], .unit ['A'] ['a'], .unit ['B'] ['b']]
  normalForm := .chomsky
  rules_ne_nil := List.cons_ne_nil _ _
  conforms := fun _ => by decide

theorem isStrictFor_optional (word : Text) : optional.IsStrictFor word where
  start _ := by decide
  terminal a x hr _ := by
    have hrule : a = ['A'] ∧ x = ['a'] ∨ a = ['B'] ∧ x = ['b'] := by simpa [optional] using hr
    rcases hrule with ⟨-, rfl⟩ | ⟨-, rfl⟩ <;> rfl

/-- The word `ab` is generated, and accepted. -/
theorem chomsky_accepts_composed_ab :
    optional.normalForm = .chomsky ∧ optional.IsStrictFor ['a', 'b'] ∧
    optional.IsComposed ['a', 'b'] ∧ optional.HasNoVariableIn ['a', 'b'] ∧
    ∃ isIn, optional.accepts ['a', 'b'] none (fun _ => 0) = .ok isIn ∧
      optional.Generates ['a', 'b'] ∧ isIn = true ∧
      (isIn = true ↔ optional.IsComposed ['a', 'b']) := by
  have hfirst : optional.Composes ['A'] ['a'] := Composes.character (by decide)
  have hsecond : optional.Composes ['B'] ['b'] := Composes.character (by decide)
  have hcomposed : optional.IsComposed ['a', 'b'] :=
    Or.inr (Composes.binary (by decide) hfirst hsecond)
  have hword : ∀ x ∈ optional.rightSymbols, optional.isVariable x = true → ¬ x <:+: ['a', 'b'] := by
    decide
  obtain ⟨isIn, haccepts, hin, hexact, -⟩ :=
    chomsky_accepts_composed (g := optional) rfl ['a', 'b'] fun _ => 0
  exact ⟨rfl, isStrictFor_optional _, hcomposed, hword, isIn, haccepts, (hin hcomposed).1,
    (hin hcomposed).2, hexact hword⟩

/-- A grammar in Chomsky normal form whose start variable may stand for nothing in front of each `a`, and
for a terminal of two characters. -/
def trailing : Grammar where
  rules := [.binary ['S'] ['S'] ['A'], .epsilon ['S'], .unit ['A'] ['a'], .unit ['S'] ['b', 'b']]
  normalForm := .chomsky
  rules_ne_nil := List.cons_ne_nil _ _
  conforms := fun _ => by decide

/-- Every use of its start variable leads to another one, so it composes nothing. -/
theorem not_composes_trailing : ¬ trailing.Composes ['S'] w := by
  intro h
  generalize hstart : (['S'] : Symbol) = a at h
  induction h with
  | character hr =>
    subst hstart
    simp [trailing] at hr
  | @binary a x y _ _ hr _ _ ihx _ =>
    subst hstart
    have hrule : x = ['S'] ∧ y = ['A'] := by simpa [trailing] using hr
    exact ihx hrule.1.symm

theorem accepts_trailing_of_ne_nil (hne : word ≠ []) (hword : trailing.HasNoVariableIn word) :
    trailing.accepts word none (fun _ => 0) = .ok false := by
  rw [accepts_none]
  refine congrArg Except.ok (Bool.eq_false_iff.2 fun hverdict => ?_)
  rcases isComposed_of_verdict rfl hword hverdict with ⟨hempty, -⟩ | hcomposes
  · exact hne hempty
  · exact not_composes_trailing hcomposes

/-- **Generated words are rejected**: `a`, for which the start variable in front of it stands for nothing,
and `bb`, which is one terminal. -/
theorem chomsky_rejects_generated :
    parse ['S', ':', 'S', ',', 'A', '\n', 'S', ':', 'e', '\n', 'A', ':', 'a', '\n', 'S', ':', 'b', 'b']
      .chomsky = .ok trailing ∧
    (trailing.Generates ['a'] ∧ trailing.accepts ['a'] none (fun _ => 0) = .ok false) ∧
    (trailing.Generates ['b', 'b'] ∧
      trailing.accepts ['b', 'b'] none (fun _ => 0) = .ok false) := by
  have hstart : trailing.Spells ['S'] [] := Spells.epsilon (by decide)
  have hcharacter : trailing.Spells ['A'] ['a'] := Spells.unit (by decide) (Spells.terminal rfl)
  have hpair : trailing.Spells ['S'] ['b', 'b'] := Spells.unit (by decide) (Spells.terminal rfl)
  have ha : ∀ x ∈ trailing.rightSymbols, trailing.isVariable x = true → ¬ x <:+: ['a'] := by decide
  have hb : ∀ x ∈ trailing.rightSymbols, trailing.isVariable x = true → ¬ x <:+: ['b', 'b'] := by
    decide
  refine ⟨rfl, ⟨?_, ?_⟩, ?_, ?_⟩
  · exact generates_iff_spells.2 (Spells.binary (by decide) hstart hcharacter)
  · exact accepts_trailing_of_ne_nil (List.cons_ne_nil _ _) ha
  · exact generates_iff_spells.2 hpair
  · exact accepts_trailing_of_ne_nil (List.cons_ne_nil _ _) hb

end Chart.Grammar
