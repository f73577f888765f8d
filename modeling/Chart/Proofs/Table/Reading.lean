import Chart.Proofs.Table.Exact
import Chart.Proofs.Grammar.Spelling

/-!
# Proofs/Table/Reading — how an accepted word is read

The table compares the symbols on right-hand sides with the text of the word and does not ask which of
them are variables.  So an accepted word is the text of symbols that the start variable derives, and a
variable among them was **read as its own text**, which no derivation does.

* `Yields.exists_isReading` — what a symbol yields has a reading.
* `generates_of_verdict` — without the text of a variable in the word there is nothing to misread.
* `accepted_word_has_reading` — when acceptance and generation differ.
-/

namespace Chart.Grammar

variable {g : Grammar} {word w : Text} {a x y : Symbol} {form : List Symbol}

/-- The symbols on right-hand sides. -/
def rightSymbols (g : Grammar) : List Symbol := g.rules.flatMap Rule.rhs

/-- **A reading of a word**: symbols on right-hand sides that a symbol derives, whose texts make up the
word. -/
structure IsReading (g : Grammar) (a : Symbol) (form : List Symbol) (w : Text) : Prop where
  /-- The symbols are derived. -/
  derives : g.Derives [a] form
  /-- Each of them stands on a right-hand side. -/
  onRight : ∀ x ∈ form, x ∈ g.rightSymbols
  /-- Their texts make up the word. -/
  flatten : form.flatten = w

/-- No variable that stands on a right-hand side occurs in a word. -/
def HasNoVariableIn (g : Grammar) (word : Text) : Prop :=
  ∀ x ∈ g.rightSymbols, g.isVariable x = true → ¬ x <:+: word

/-- **The variables can be told from the terminals by their characters**: on the right-hand sides, each
variable has a character that no terminal has. -/
def HasMarkedVariables (g : Grammar) : Prop :=
  ∀ x ∈ g.rightSymbols, g.isVariable x = true →
    ∃ c ∈ x, ∀ y ∈ g.rightSymbols, g.isVariable y = false → c ∉ y

/-! ## Symbols on right-hand sides -/

theorem mem_rightSymbols {r : Rule} (hr : r ∈ g.rules) (hx : x ∈ r.rhs) : x ∈ g.rightSymbols :=
  List.mem_flatMap.2 ⟨r, hr, hx⟩

theorem mem_rightSymbols_of_unit (hr : Rule.unit a x ∈ g.rules) : x ∈ g.rightSymbols :=
  mem_rightSymbols hr (List.mem_singleton_self x)

theorem mem_rightSymbols_of_first (hr : Rule.binary a x y ∈ g.rules) : x ∈ g.rightSymbols :=
  mem_rightSymbols hr List.mem_cons_self

theorem mem_rightSymbols_of_second (hr : Rule.binary a x y ∈ g.rules) : y ∈ g.rightSymbols :=
  mem_rightSymbols hr (List.mem_cons_of_mem x List.mem_cons_self)

theorem isVariable_lhs {r : Rule} (hr : r ∈ g.rules) : g.isVariable r.lhs = true :=
  decide_eq_true (List.mem_map_of_mem hr)

theorem isVariable_start (g : Grammar) : g.isVariable g.start = true :=
  isVariable_lhs (List.head_mem g.rules_ne_nil)

/-- A derivation brings in symbols on right-hand sides only. -/
theorem Derives.mem_or_mem_rightSymbols {origin : List Symbol} (h : g.Derives origin form) :
    ∀ x ∈ form, x ∈ origin ∨ x ∈ g.rightSymbols := by
  induction h with
  | refl => exact fun x hx => Or.inl hx
  | step _ hstep ih =>
    obtain ⟨before, behind, hr⟩ := hstep
    intro x hx
    rcases List.mem_append.1 hx with hx | hx
    · rcases List.mem_append.1 hx with hx | hx
      · exact ih x (List.mem_append_left _ hx)
      · exact Or.inr (mem_rightSymbols hr hx)
    · exact ih x (List.mem_append_right _ (List.mem_cons_of_mem _ hx))

/-! ## Readings -/

theorem IsReading.unit (hr : Rule.unit a x ∈ g.rules) (h : g.IsReading x form w) :
    g.IsReading a form w :=
  ⟨(Derives.of_rule hr).trans h.derives, h.onRight, h.flatten⟩

/-- A symbol of a right-hand side, left as it is, reads its own text. -/
theorem IsReading.text (hx : x ∈ g.rightSymbols) : g.IsReading x [x] x := by
  refine ⟨Derives.refl, ?_, List.append_nil x⟩
  intro y hy
  rwa [List.mem_singleton.1 hy]

theorem IsReading.binary {left right : List Symbol} {u v : Text}
    (hr : Rule.binary a x y ∈ g.rules) (hu : g.IsReading x left u) (hv : g.IsReading y right v) :
    g.IsReading a (left ++ right) (u ++ v) := by
  refine ⟨(Derives.of_rule hr).trans (hu.derives.append hv.derives), ?_, ?_⟩
  · intro z hz
    exact (List.mem_append.1 hz).elim (hu.onRight z) (hv.onRight z)
  · rw [List.flatten_append, hu.flatten, hv.flatten]

/-- **What a symbol yields has a reading.** -/
theorem Yields.exists_isReading (h : g.Yields a w) : ∃ form, g.IsReading a form w := by
  induction h with
  | character hr => exact ⟨_, IsReading.unit hr (IsReading.text (mem_rightSymbols_of_unit hr))⟩
  | unit hr _ ih =>
    obtain ⟨form, hform⟩ := ih
    exact ⟨form, hform.unit hr⟩
  | binary hr _ _ ihx ihy =>
    obtain ⟨left, hleft⟩ := ihx
    obtain ⟨right, hright⟩ := ihy
    exact ⟨left ++ right, hleft.binary hr hright⟩
  | literalFirst hr _ ihy =>
    obtain ⟨right, hright⟩ := ihy
    exact ⟨_, (IsReading.text (mem_rightSymbols_of_first hr)).binary hr hright⟩
  | literalSecond hr _ ihx =>
    obtain ⟨left, hleft⟩ := ihx
    exact ⟨_, hleft.binary hr (IsReading.text (mem_rightSymbols_of_second hr))⟩
  | literalBoth hr =>
    exact ⟨_, (IsReading.text (mem_rightSymbols_of_first hr)).binary hr
      (IsReading.text (mem_rightSymbols_of_second hr))⟩

/-- **An accepted word has a reading**, the empty one if it is empty. -/
theorem exists_isReading_of_verdict (h : g.verdict word = true) :
    ∃ form, g.IsReading g.start form word := by
  by_cases hword : word = []
  · subst hword
    have hstart := Derives.of_rule (verdict_nil_iff.1 h)
    exact ⟨[], hstart, fun x hx => absurd hx List.not_mem_nil, rfl⟩
  · exact (yields_of_verdict hword h).exists_isReading

/-- **A word is generated exactly if one of its readings reads no variable as text.** -/
theorem generates_iff_exists_isReading :
    g.Generates word ↔
      ∃ form, g.IsReading g.start form word ∧ ∀ x ∈ form, g.isVariable x = false := by
  constructor
  · rintro ⟨form, hder, hterminal, hflatten⟩
    refine ⟨form, ⟨hder, ?_, hflatten⟩, hterminal⟩
    intro x hx
    refine (hder.mem_or_mem_rightSymbols x hx).resolve_left fun hmem => ?_
    have hvariable := hterminal x hx
    rw [List.mem_singleton.1 hmem] at hvariable
    exact absurd (isVariable_start g) (Bool.eq_false_iff.1 hvariable)
  · rintro ⟨form, ⟨hder, -, hflatten⟩, hterminal⟩
    exact ⟨form, hder, hterminal, hflatten⟩

/-! ## Words without the text of a variable -/

/-- A reading of a word without the text of a variable reads terminals only. -/
theorem IsReading.isVariable_eq_false (hreading : g.IsReading a form word)
    (hword : g.HasNoVariableIn word) : ∀ x ∈ form, g.isVariable x = false := by
  intro x hx
  refine Bool.eq_false_iff.2 fun hvariable => hword x (hreading.onRight x hx) hvariable ?_
  obtain ⟨before, behind, rfl⟩ := List.append_of_mem hx
  refine ⟨before.flatten, behind.flatten, ?_⟩
  rw [← hreading.flatten, List.flatten_append, List.flatten_cons, List.append_assoc]

theorem generates_of_verdict (hword : g.HasNoVariableIn word) (h : g.verdict word = true) :
    g.Generates word := by
  obtain ⟨form, hreading⟩ := exists_isReading_of_verdict h
  exact generates_iff_exists_isReading.2 ⟨form, hreading, hreading.isVariable_eq_false hword⟩

/-- A variable with a character of its own occurs in no word that is generated. -/
theorem hasNoVariableIn_of_generates (hg : g.HasMarkedVariables) (h : g.Generates word) :
    g.HasNoVariableIn word := by
  obtain ⟨form, ⟨-, honRight, rfl⟩, hterminal⟩ := generates_iff_exists_isReading.1 h
  intro x hx hvariable hoccurs
  obtain ⟨c, hc, hmark⟩ := hg x hx hvariable
  obtain ⟨y, hy, hcy⟩ := List.mem_flatten.1 (hoccurs.subset hc)
  exact hmark y (honRight y hy) (hterminal y hy) hcy

/-- **When an accepted word is generated.**  An accepted word has a reading; it is generated exactly if
some reading reads no variable as text.  So it is generated if no variable of a right-hand side occurs
in it, and where variables can be told from terminals by their characters, only then. -/
theorem accepted_word_has_reading {limit : Option Rat} {clock : Clock}
    (h : g.accepts word limit clock = .ok true) :
    (∃ form, g.IsReading g.start form word) ∧
    (g.Generates word ↔
      ∃ form, g.IsReading g.start form word ∧ ∀ x ∈ form, g.isVariable x = false) ∧
    (g.HasNoVariableIn word → g.Generates word) ∧
    (g.HasMarkedVariables → (g.Generates word ↔ g.HasNoVariableIn word)) := by
  have hverdict : g.verdict word = true := (eq_verdict_of_accepts h).symm
  have hfree : g.HasNoVariableIn word → g.Generates word := fun hword =>
    generates_of_verdict hword hverdict
  refine ⟨exists_isReading_of_verdict hverdict, generates_iff_exists_isReading, hfree, ?_⟩
  intro hg
  exact ⟨hasNoVariableIn_of_generates hg, hfree⟩

/-! ## The variables of a grammar, read as text -/

/-- The grammar of the word `ab`, in Chomsky normal form. -/
def capitals : Grammar where
  rules := [.binary ['S'] ['A'] ['B'], .unit ['A'] ['a'], .unit ['B'] ['b']]
  normalForm := .chomsky
  rules_ne_nil := List.cons_ne_nil _ _
  conforms := fun _ => by decide

theorem eq_of_isVariable_capitals (hx : x ∈ capitals.rightSymbols)
    (hvariable : capitals.isVariable x = true) : x = ['A'] ∨ x = ['B'] := by
  have hright : x = ['A'] ∨ x = ['B'] ∨ x = ['a'] ∨ x = ['b'] := by
    simpa [capitals, rightSymbols, Rule.rhs] using hx
  rcases hright with rfl | rfl | rfl | rfl
  · exact Or.inl rfl
  · exact Or.inr rfl
  · exact absurd hvariable (by decide)
  · exact absurd hvariable (by decide)

theorem hasMarkedVariables_capitals : capitals.HasMarkedVariables := by
  intro x hx hvariable
  rcases eq_of_isVariable_capitals hx hvariable with rfl | rfl
  · exact ⟨'A', List.mem_cons_self, by decide⟩
  · exact ⟨'B', List.mem_cons_self, by decide⟩

theorem parse_capitals :
    parse ['S', ':', 'A', ',', 'B', '\n', 'A', ':', 'a', '\n', 'B', ':', 'b'] .chomsky =
      .ok capitals := rfl

theorem verdict_capitals : capitals.verdict ['a', 'b'] = true := by
  have hfirst : capitals.Yields ['A'] ['a'] := Yields.character (by decide)
  have hsecond : capitals.Yields ['B'] ['b'] := Yields.character (by decide)
  have hyields : capitals.Yields ['S'] (['a'] ++ ['b']) := Yields.binary (by decide) hfirst hsecond
  exact (verdict_iff_yields (by decide) (List.cons_ne_nil _ _)).2 hyields

/-- The word `ab` is accepted and, since no variable occurs in it, generated. -/
theorem accepted_word_has_reading_of_small_letters :
    capitals.accepts ['a', 'b'] none (fun _ => 0) = .ok true ∧
    (∃ form, capitals.IsReading capitals.start form ['a', 'b']) ∧
    capitals.HasNoVariableIn ['a', 'b'] ∧ capitals.Generates ['a', 'b'] := by
  have haccepts : capitals.accepts ['a', 'b'] none (fun _ => 0) = .ok true := by
    rw [accepts_none, verdict_capitals]
  have hword : capitals.HasNoVariableIn ['a', 'b'] := by
    intro x hx hvariable hoccurs
    rcases eq_of_isVariable_capitals hx hvariable with rfl | rfl
    · exact absurd (hoccurs.subset List.mem_cons_self) (by decide)
    · exact absurd (hoccurs.subset List.mem_cons_self) (by decide)
  obtain ⟨hreading, -, hgenerates, -⟩ := accepted_word_has_reading haccepts
  exact ⟨haccepts, hreading, hword, hgenerates hword⟩

/-- **A word of variables is accepted** as soon as they stand side by side on a right-hand side, although
no derivation ends in a variable. -/
theorem accepts_text_of_variables :
    parse ['S', ':', 'A', ',', 'B', '\n', 'A', ':', 'a', '\n', 'B', ':', 'b'] .chomsky =
      .ok capitals ∧
    capitals.accepts ['A', 'B'] none (fun _ => 0) = .ok true ∧ ¬ capitals.Generates ['A', 'B'] := by
  have hrule : Rule.binary ['S'] ['A'] ['B'] ∈ capitals.rules := List.mem_cons_self
  have hempty : capitals.HasNoEmptySymbol := by decide
  have hverdict : capitals.verdict ['A', 'B'] = true :=
    (verdict_iff_yields hempty (List.cons_ne_nil _ _)).2 (Yields.literalBoth hrule)
  refine ⟨parse_capitals, ?_, fun hgen => ?_⟩
  · rw [accepts_none, hverdict]
  · have hfirst : ['A'] ∈ capitals.rightSymbols := mem_rightSymbols_of_first hrule
    exact hasNoVariableIn_of_generates hasMarkedVariables_capitals hgen _ hfirst rfl ⟨[], ['B'], rfl⟩

end Chart.Grammar
