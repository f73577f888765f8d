import Chart.Proofs.Grammar.RoundTrip
import Chart.Grammar.LinePattern

/-!
# Proofs/Grammar/StrictLines — what lines in the strict format write

The strict format is narrower than what the parser reads: on the lines of the format nothing is
stripped, no piece is dropped but the token for an absent symbol, and every line writes a rule.

* `Writes`, `WritesAll` — the rule that a line writes, and the rules of lines.
* `accepts_iff`, `acceptsAll_iff` — the line check asks whether there are such rules.
* `Writes.parse`, `WritesAll.exists_parse` — the parser finds them.
* `Writes.toLine_eq`, `WritesAll.map_toLine_eq` — and what is written from them are the lines again.
* `strict_text_round_trip` — so the line check, the parser and the writer agree on every text.
-/

namespace Chart.LinePattern

variable {line t l x y : Text} {lines : List Text} {r : Rule} {rules : List Rule} {c : Char}

/-- A non-empty text of `0` and `1`. -/
def IsNumeral (t : Text) : Prop := t ≠ [] ∧ ∀ c ∈ t, c = '0' ∨ c = '1'

/-- **A symbol of the strict format**: a numeral, or one of the terminals `a` and `b`. -/
def IsStrict (t : Text) : Prop := IsNumeral t ∨ t = ['a'] ∨ t = ['b']

/-- **The rule that a line of the strict format writes**: `e` in the second slot is no symbol. -/
inductive Writes : Text → Rule → Prop where
  | unit {l x : Text} : IsNumeral l → IsStrict x →
    Writes (l ++ ':' :: (x ++ ',' :: absent)) (.unit l x)
  | binary {l x y : Text} : IsNumeral l → IsStrict x → IsStrict y →
    Writes (l ++ ':' :: (x ++ ',' :: y)) (.binary l x y)

/-- **The rules that lines write**, in their order: an empty line writes none, every other line one. -/
inductive WritesAll : List Text → List Rule → Prop where
  | nil : WritesAll [] []
  | skip {lines : List Text} {rules : List Rule} : WritesAll lines rules →
    WritesAll ([] :: lines) rules
  | write {line : Text} {lines : List Text} {r : Rule} {rules : List Rule} : Writes line r →
    WritesAll lines rules → WritesAll (line :: lines) (r :: rules)

/-- **A line of the strict format**, `L:X,Y`. -/
def IsStrictLine (line : Text) : Prop :=
  ∃ l x y, line = l ++ ':' :: (x ++ ',' :: y) ∧ IsNumeral l ∧ IsStrict x ∧ (IsStrict y ∨ y = absent)

/-! ## The characters of strict lines -/

theorem IsStrict.mem (hx : IsStrict x) (hc : c ∈ x) : c = '0' ∨ c = '1' ∨ c = 'a' ∨ c = 'b' := by
  rcases hx with ⟨-, hnumeral⟩ | rfl | rfl
  · exact (hnumeral c hc).imp_right Or.inl
  · exact Or.inr (Or.inr (Or.inl (List.mem_singleton.1 hc)))
  · exact Or.inr (Or.inr (Or.inr (List.mem_singleton.1 hc)))

/-- **A symbol of the strict format is a token.** -/
theorem IsStrict.isToken (hx : IsStrict x) : Row.IsToken x where
  ne_nil := by
    rcases hx with ⟨hne, -⟩ | rfl | rfl
    · exact hne
    · exact List.cons_ne_nil _ _
    · exact List.cons_ne_nil _ _
  ne_absent := by
    rintro rfl
    exact absurd (hx.mem List.mem_cons_self) (by decide)
  no_colon := fun hc => absurd (hx.mem hc) (by decide)
  no_comma := fun hc => absurd (hx.mem hc) (by decide)
  no_break := fun c hc => by rcases hx.mem hc with rfl | rfl | rfl | rfl <;> rfl

theorem IsStrict.isBlank_eq_false (hx : IsStrict x) : ∀ c ∈ x, Text.isBlank c = false := by
  intro c hc
  rcases hx.mem hc with rfl | rfl | rfl | rfl <;> rfl

/-- Before its first separator a text of strict symbols is a symbol. -/
theorem span_append_cons (hx : IsStrict x) (hc : Row.isSeparator c = true) (rest : Text) :
    (x ++ c :: rest).span (· != c) = (x, c :: rest) := by
  refine Text.span_append_cons ?_ (bne_self_eq_false c)
  intro d hd
  refine bne_iff_ne.2 fun heq => ?_
  have hsep := hx.isToken.isSeparator_eq_false d hd
  rw [heq, hc] at hsep
  exact Bool.noConfusion hsep

/-- The lines that write rules are the lines of the strict format. -/
theorem exists_writes_iff : (∃ r, Writes line r) ↔ IsStrictLine line := by
  constructor
  · rintro ⟨r, h⟩
    cases h with
    | unit hl hx => exact ⟨_, _, _, rfl, hl, hx, Or.inr rfl⟩
    | binary hl hx hy => exact ⟨_, _, _, rfl, hl, hx, Or.inl hy⟩
  · rintro ⟨l, x, y, rfl, hl, hx, hy | rfl⟩
    · exact ⟨_, Writes.binary hl hx hy⟩
    · exact ⟨_, Writes.unit hl hx⟩

theorem Writes.isNumeral_lhs (h : Writes line r) : IsNumeral r.lhs := by
  cases h with
  | unit hl => exact hl
  | binary hl => exact hl

theorem Writes.rhs_ne_nil (h : Writes line r) : r.rhs ≠ [] := by
  cases h <;> exact List.cons_ne_nil _ _

theorem Writes.isStrict_of_mem_rhs (h : Writes line r) (hx : x ∈ r.rhs) : IsStrict x := by
  cases h with
  | unit _ hfirst =>
    rw [List.mem_singleton.1 hx]
    exact hfirst
  | binary _ hfirst hsecond =>
    rcases List.mem_cons.1 hx with rfl | hx
    · exact hfirst
    · rw [List.mem_singleton.1 hx]
      exact hsecond

/-- **A strict line is the line of the rule that it writes.** -/
theorem Writes.toLine_eq (h : Writes line r) : r.toLine = line := by
  cases h <;> exact Rule.toLine_eq _

theorem Writes.isToken_of_mem_symbols (h : Writes line r) : ∀ x ∈ r.symbols, Row.IsToken x := by
  intro x hx
  rcases List.mem_cons.1 hx with rfl | hx
  · exact IsStrict.isToken (Or.inl h.isNumeral_lhs)
  · exact (h.isStrict_of_mem_rhs hx).isToken

/-- There are no blanks in strict symbols, so there are none at the ends of a strict line. -/
theorem Writes.isUnpadded (h : Writes line r) : r.IsUnpadded where
  head := fun c hc =>
    IsStrict.isBlank_eq_false (Or.inl h.isNumeral_lhs) c (List.mem_of_head? hc)
  last := fun _ hy c hc =>
    (h.isStrict_of_mem_rhs (List.mem_of_getElem? hy)).isBlank_eq_false c (List.mem_of_getLast? hc)

/-! ## The line check -/

theorem isNumeral_iff : isNumeral t = true ↔ IsNumeral t := by
  simp [isNumeral, IsNumeral]

theorem isFirstSlot_iff : isFirstSlot t = true ↔ IsStrict t := by
  simp [isFirstSlot, IsStrict, isNumeral_iff, or_assoc]

theorem isSecondSlot_iff : isSecondSlot t = true ↔ IsStrict t ∨ t = absent := by
  simp [isSecondSlot, isFirstSlot_iff, absent]

/-- The line check, once the line is cut at its first `:` and the rest at its first `,`. -/
theorem accepts_append (hl : IsNumeral l) (hx : IsStrict x) :
    accepts (l ++ ':' :: (x ++ ',' :: y)) = isSecondSlot y := by
  rw [accepts, span_append_cons (Or.inl hl) rfl]
  simp only [span_append_cons hx (c := ',') rfl, isNumeral_iff.2 hl, isFirstSlot_iff.2 hx, Bool.true_and]

/-- **A line passes the line check exactly if it writes a rule.** -/
theorem accepts_iff : accepts line = true ↔ ∃ r, Writes line r := by
  rw [exists_writes_iff]
  constructor
  · intro h
    rw [accepts] at h
    split at h
    · rename_i left c right hleft
      split at h
      · rename_i first d second hright
        obtain ⟨rfl, -, hc⟩ := Text.eq_append_cons_of_span hleft
        obtain ⟨rfl, -, hd⟩ := Text.eq_append_cons_of_span hright
        obtain rfl : c = ':' := bne_eq_false_iff_eq.1 hc
        obtain rfl : d = ',' := bne_eq_false_iff_eq.1 hd
        rw [Bool.and_eq_true, Bool.and_eq_true, isNumeral_iff, isFirstSlot_iff, isSecondSlot_iff] at h
        obtain ⟨⟨hl, hx⟩, hy⟩ := h
        exact ⟨left, first, second, rfl, hl, hx, hy⟩
      · exact nomatch h
    · exact nomatch h
  · rintro ⟨l, x, y, rfl, hl, hx, hy⟩
    rw [accepts_append hl hx]
    exact isSecondSlot_iff.2 hy

theorem firstMalformedFrom_eq_none_iff (number : Nat) :
    firstMalformedFrom number lines = none ↔ ∃ rules, WritesAll lines rules := by
  induction lines generalizing number with
  | nil => exact ⟨fun _ => ⟨[], WritesAll.nil⟩, fun _ => rfl⟩
  | cons line lines ih =>
    rw [firstMalformedFrom]
    split
    · rename_i hline
      rw [ih]
      constructor
      · rintro ⟨rules, hrules⟩
        rcases Bool.or_eq_true_iff.1 hline with hempty | haccepts
        · rw [List.isEmpty_iff.1 hempty]
          exact ⟨rules, hrules.skip⟩
        · obtain ⟨r, hr⟩ := accepts_iff.1 haccepts
          exact ⟨r :: rules, hrules.write hr⟩
      · rintro ⟨rules, hrules⟩
        cases hrules with
        | skip hrules => exact ⟨_, hrules⟩
        | write _ hrules => exact ⟨_, hrules⟩
    · rename_i hline
      refine ⟨fun h => (Option.some_ne_none _ h).elim, ?_⟩
      rintro ⟨rules, hrules⟩
      refine absurd ?_ hline
      cases hrules with
      | skip => rfl
      | write hr => exact Bool.or_eq_true_iff.2 (Or.inr (accepts_iff.2 ⟨_, hr⟩))

/-- **A text passes the line check exactly if its lines write rules.** -/
theorem acceptsAll_iff {text : Text} :
    acceptsAll text = true ↔ ∃ rules, WritesAll text.lines rules := by
  rw [acceptsAll, Option.isNone_iff_eq_none]
  exact firstMalformedFrom_eq_none_iff 1

/-- Lines write rules exactly if each of them is empty or writes one. -/
theorem exists_writesAll_iff :
    (∃ rules, WritesAll lines rules) ↔ ∀ line ∈ lines, line = [] ∨ ∃ r, Writes line r := by
  induction lines with
  | nil => exact ⟨fun _ _ hline => absurd hline List.not_mem_nil, fun _ => ⟨[], WritesAll.nil⟩⟩
  | cons line lines ih =>
    rw [List.forall_mem_cons, ← ih]
    constructor
    · rintro ⟨rules, h⟩
      cases h with
      | skip h => exact ⟨Or.inl rfl, _, h⟩
      | write hr h => exact ⟨Or.inr ⟨_, hr⟩, _, h⟩
    · rintro ⟨rfl | ⟨r, hr⟩, rules, h⟩
      · exact ⟨rules, h.skip⟩
      · exact ⟨r :: rules, h.write hr⟩

/-! ## The parser -/

/-- **The parser reads the rule that a strict line writes.** -/
theorem Writes.parse (h : Writes line r) : Row.parse line = .ok r.symbols := by
  rw [← h.toLine_eq]
  exact (Row.parse_toLine_iff h.isToken_of_mem_symbols).2 h.isUnpadded

theorem WritesAll.parseEach (h : WritesAll lines rules) :
    Row.parseEach (lines.filter fun line => line.strip != []) = .ok (rules.map Rule.symbols) := by
  induction h with
  | nil => rfl
  | skip _ ih => exact ih
  | @write line lines r rules hr _ ih =>
    have hkept : (line.strip != []) = true := by
      rw [← hr.toLine_eq]
      exact bne_iff_ne.2 (Row.strip_toLine_ne_nil r)
    simp only [List.filter_cons, hkept, if_true, Row.parseEach, hr.parse, ih]
    rfl

/-- Lines write one list of rules. -/
theorem WritesAll.unique {rules' : List Rule} (h : WritesAll lines rules)
    (h' : WritesAll lines rules') : rules' = rules :=
  (List.map_inj_right fun _ _ => Rule.symbols_injective).1
    (Except.ok.inj (h'.parseEach.symm.trans h.parseEach))

/-- **The parser makes a grammar of the rules that a strict text writes**, unless there is none. -/
theorem WritesAll.exists_parse {text : Text} (h : WritesAll text.lines rules) (hne : rules ≠ []) :
    ∃ g, Grammar.parse text .second = .ok g ∧ g.rules = rules := by
  obtain ⟨g, hg, hrules⟩ := Grammar.exists_ofRows_map_symbols hne
  refine ⟨g, ?_, hrules⟩
  rw [Grammar.parse, Row.parseAll, h.parseEach]
  exact hg

/-- Empty lines make no grammar. -/
theorem parse_of_forall_eq_nil {text : Text} (form : NormalForm)
    (hempty : ∀ line ∈ text.lines, line = []) : Grammar.parse text form = .error .noRules := by
  have hkept : text.lines.filter (fun line => line.strip != []) = [] := by
    refine List.filter_eq_nil_iff.2 fun line hline => ?_
    rw [hempty line hline]
    decide
  rw [Grammar.parse, Row.parseAll, hkept]
  rfl

/-- Lines that are not all empty write some rule. -/
theorem WritesAll.ne_nil (h : WritesAll lines rules) (hline : line ∈ lines) (hne : line ≠ []) :
    rules ≠ [] := by
  induction h with
  | nil => exact absurd hline List.not_mem_nil
  | skip _ ih =>
    rcases List.mem_cons.1 hline with rfl | hline
    · exact absurd rfl hne
    · exact ih hline
  | write => exact List.cons_ne_nil _ _

theorem WritesAll.exists_writes (h : WritesAll lines rules) (hr : r ∈ rules) :
    ∃ line, Writes line r := by
  induction h with
  | nil => exact absurd hr List.not_mem_nil
  | skip _ ih => exact ih hr
  | write hwrites _ ih =>
    rcases List.mem_cons.1 hr with rfl | hr
    · exact ⟨_, hwrites⟩
    · exact ih hr

/-! ## The writer

The writer sees only the rules, so it cannot give the empty lines back; all other lines it gives back
character by character. -/

/-- Lines that are not empty write one rule each. -/
theorem WritesAll.forall₂ (h : WritesAll lines rules) :
    List.Forall₂ Writes (lines.filter (· ≠ [])) rules := by
  induction h with
  | nil => exact List.Forall₂.nil
  | skip _ ih => exact ih
  | @write line lines r rules hr _ ih =>
    have hne : line ≠ [] := hr.toLine_eq ▸ Row.toLine_ne_nil r
    simpa [hne] using List.Forall₂.cons hr ih

theorem WritesAll.of_forall₂ (h : List.Forall₂ Writes lines rules) : WritesAll lines rules := by
  induction h with
  | nil => exact WritesAll.nil
  | cons hr _ ih => exact ih.write hr

/-- **The lines of the rules that lines write are these lines**, without the empty ones. -/
theorem WritesAll.map_toLine_eq (h : WritesAll lines rules) :
    rules.map Rule.toLine = lines.filter (· ≠ []) := by
  have hlines := h.forall₂
  generalize lines.filter (· ≠ []) = written at hlines
  clear h
  induction hlines with
  | nil => rfl
  | cons hr _ ih => rw [List.map_cons, hr.toLine_eq, ih]

/-- **The line check, the parser and the writer agree.**  A text passes the line check exactly if each of
its lines is empty or of the strict format.  A text that passes makes no grammar if all its lines are empty,
for want of a rule; otherwise the parser reads the rules that the other lines write, none of them with an
empty right-hand side, and writing these rules gives the same lines, which pass again. -/
theorem strict_text_round_trip (text : Text) :
    (acceptsAll text = true ↔ ∀ line ∈ text.lines, line = [] ∨ IsStrictLine line) ∧
    (acceptsAll text = true →
      ((∀ line ∈ text.lines, line = []) ∧ Grammar.parse text .second = .error .noRules) ∨
      ((∃ line ∈ text.lines, line ≠ []) ∧ ∃ g, Grammar.parse text .second = .ok g ∧
        List.Forall₂ Writes (text.lines.filter (· ≠ [])) g.rules ∧ (∀ r ∈ g.rules, r.rhs ≠ []) ∧
        g.toText = ['\n'].intercalate (text.lines.filter (· ≠ [])) ∧ acceptsAll g.toText = true)) := by
  refine ⟨?_, fun h => ?_⟩
  · rw [acceptsAll_iff, exists_writesAll_iff]
    simp only [exists_writes_iff]
  · obtain ⟨rules, hrules⟩ := acceptsAll_iff.1 h
    by_cases hempty : ∀ line ∈ text.lines, line = []
    · exact Or.inl ⟨hempty, parse_of_forall_eq_nil .second hempty⟩
    · obtain ⟨line, hline, hne⟩ : ∃ line ∈ text.lines, line ≠ [] := by
        simpa only [not_forall, exists_prop] using hempty
      obtain ⟨g, hg, rfl⟩ := hrules.exists_parse (hrules.ne_nil hline hne)
      refine Or.inr ⟨⟨line, hline, hne⟩, g, hg, hrules.forall₂, ?_, ?_, ?_⟩
      · intro r hr
        obtain ⟨line, hwrites⟩ := hrules.exists_writes hr
        exact hwrites.rhs_ne_nil
      · rw [Grammar.toText, hrules.map_toLine_eq]
      · rw [acceptsAll_iff, Grammar.lines_toText (Grammar.hasTokens_of_parse hg), hrules.map_toLine_eq]
        exact ⟨g.rules, WritesAll.of_forall₂ hrules.forall₂⟩

/-- Two rules, with an empty line between them. -/
theorem strict_text_round_trip_two :
    acceptsAll ['0', ':', '1', ',', 'a', '\n', '\n', '1', ':', 'b', ',', 'e'] = true ∧
    ∃ g, Grammar.parse ['0', ':', '1', ',', 'a', '\n', '\n', '1', ':', 'b', ',', 'e'] .second = .ok g ∧
      g.toText = ['0', ':', '1', ',', 'a', '\n', '1', ':', 'b', ',', 'e'] ∧
      acceptsAll g.toText = true := by
  have haccepts :
      acceptsAll ['0', ':', '1', ',', 'a', '\n', '\n', '1', ':', 'b', ',', 'e'] = true := by decide
  refine ⟨haccepts, ?_⟩
  rcases (strict_text_round_trip _).2 haccepts with ⟨hempty, -⟩ | ⟨-, g, hg, -, -, htext, hagain⟩
  · exact absurd hempty (by decide)
  · exact ⟨g, hg, htext, hagain⟩

end Chart.LinePattern
