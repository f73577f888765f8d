import Chart.Grammar.Validation

/-!
# Grammar/Basic — grammars

A **grammar** is a non-empty list of rules that its normal form admits.  The left-hand side of the
first rule is the start variable, every left-hand side is a variable, and all other symbols are
terminals; nothing else tells the two apart.

* `Grammar.ofRows` — the grammar that a list of rows writes, or the first fault of the list.
* `rows_ofRows` — the rows of the grammar are the rows it was made from.
-/

namespace Chart

namespace Row

/-- The left-hand sides of a rule list. -/
def vars (rows : List Row) : List Symbol := rows.filterMap List.head?

/-- The left-hand side of the first rule of a list. -/
def start (rows : List Row) : Symbol := (vars rows).headD []

end Row

/-- **A grammar**: at least one rule, all of them admitted by the normal form. -/
structure Grammar where
  /-- The rules, in the order in which they are tried. -/
  rules : List Rule
  /-- The tier the rules are held to. -/
  normalForm : NormalForm
  /-- There is a first rule, so there is a start variable. -/
  rules_ne_nil : rules ≠ []
  /-- In Chomsky normal form, every rule has Chomsky shape. -/
  conforms : normalForm = .chomsky → ∀ r ∈ rules,
    Row.IsChomsky (rules.map Rule.lhs) (rules.head rules_ne_nil).lhs r.lhs r.rhs

namespace Rule

/-- Rows with one to three symbols are the rows of the rules they write. -/
theorem map_symbols_filterMap_ofRow? : ∀ {rows : List Row}, (∀ row ∈ rows, row ≠ []) →
    (∀ row ∈ rows, row.rhs.length ≤ 2) → (rows.filterMap ofRow?).map symbols = rows
  | [], _, _ => rfl
  | row :: rows, hne, hlen => by
    obtain ⟨r, hr⟩ := exists_ofRow? (hne row (by simp)) (hlen row (by simp))
    rw [List.filterMap_cons_some hr, List.map_cons, ← ofRow?_eq_some_iff.1 hr,
      map_symbols_filterMap_ofRow? (fun q hq => hne q (by simp [hq]))
        fun q hq => hlen q (by simp [hq])]

theorem filterMap_head?_map_symbols (rules : List Rule) :
    (rules.map symbols).filterMap List.head? = rules.map lhs := by
  induction rules with
  | nil => rfl
  | cons r rules ih => exact congrArg (r.lhs :: ·) ih

end Rule

namespace Row

theorem vars_map_symbols (rules : List Rule) :
    vars (rules.map Rule.symbols) = rules.map Rule.lhs :=
  Rule.filterMap_head?_map_symbols rules

theorem start_map_symbols {rules : List Rule} (hne : rules ≠ []) :
    start (rules.map Rule.symbols) = (rules.head hne).lhs := by
  match rules, hne with
  | _ :: _, _ => rfl

end Row

namespace NormalForm

/-- What every tier asks: at most two symbols on the right. -/
theorem length_rhs_le_of_validate {form : NormalForm} {rows : List Row}
    {vars : List Symbol} {start : Symbol} (h : form.validate rows vars start = .ok ()) :
    ∀ row ∈ rows, row.rhs.length ≤ 2 := by
  refine checkSecond_eq_ok.1 ?_
  cases form with
  | second => exact h
  | chomsky =>
    simp only [validate] at h
    cases hs : checkSecond rows with
    | error fault => simp [hs] at h
    | ok u => rfl

/-- What Chomsky normal form asks of the rules that the rows write. -/
theorem isChomsky_of_validate {rules : List Rule} {rows : List Row} (hne : rules ≠ [])
    (hrows : rules.map Rule.symbols = rows)
    (h : validate .chomsky rows (Row.vars rows) (Row.start rows) = .ok ()) :
    ∀ r ∈ rules, Row.IsChomsky (rules.map Rule.lhs) (rules.head hne).lhs r.lhs r.rhs := by
  subst hrows
  rw [Row.vars_map_symbols, Row.start_map_symbols hne] at h
  intro r hr
  simp only [validate] at h
  cases hs : checkSecond (rules.map Rule.symbols) with
  | error fault => simp [hs] at h
  | ok u =>
    simp only [hs] at h
    exact Row.checkShape_cons_eq_ok.1 (checkEach_eq_ok.1 h r.symbols (List.mem_map_of_mem hr))

end NormalForm

namespace Grammar

/-- The grammar of rows that passed the checks. -/
def ofChecked (rows : List Row) (form : NormalForm) (hne : rows ≠ []) (hrow : ∀ row ∈ rows, row ≠ [])
    (hvalid : form.validate rows (Row.vars rows) (Row.start rows) = .ok ()) : Grammar :=
  have hrows : (rows.filterMap Rule.ofRow?).map Rule.symbols = rows :=
    Rule.map_symbols_filterMap_ofRow? hrow (NormalForm.length_rhs_le_of_validate hvalid)
  have hrules : rows.filterMap Rule.ofRow? ≠ [] := fun h => hne (by rw [← hrows, h]; rfl)
  { rules := rows.filterMap Rule.ofRow?
    normalForm := form
    rules_ne_nil := hrules
    conforms := by
      rintro rfl
      exact NormalForm.isChomsky_of_validate hrules hrows hvalid }

/-- **The grammar that a list of rows writes.**  An empty list is reported first, then a row without
a left-hand side wherever it stands, then what the checks of the tier find. -/
def ofRows (rows : List Row) (form : NormalForm) : Except GrammarError Grammar :=
  if hne : rows = [] then .error .noRules
  else if hrow : [] ∈ rows then .error .emptyRule
  else
    match hvalid : form.validate rows (Row.vars rows) (Row.start rows) with
    | .error fault => .error fault
    | .ok () => .ok (ofChecked rows form hne (fun _ h e => hrow (e ▸ h)) hvalid)

/-- The left-hand side of the first rule. -/
def start (g : Grammar) : Symbol := (g.rules.head g.rules_ne_nil).lhs

/-- The left-hand sides, each once. -/
def vars (g : Grammar) : List Symbol := (g.rules.map Rule.lhs).eraseDups

/-- A variable is a symbol with a rule of its own. -/
def isVariable (g : Grammar) (a : Symbol) : Bool := decide (a ∈ g.rules.map Rule.lhs)

/-- The rules as they are written. -/
def rows (g : Grammar) : List Row := g.rules.map Rule.symbols

/-- The rules with the given number of symbols on their right-hand side; a negative number has none. -/
def withRhsLength (g : Grammar) (length : Int) : List Rule :=
  g.rules.filter fun r => (r.rhs.length : Int) == length

/-- The rules with one symbol on the right, as pairs of left-hand side and symbol. -/
def unitRules (g : Grammar) : List (Symbol × Symbol) := g.rules.filterMap Rule.unit?

/-- The rules with two symbols on the right, as triples. -/
def binaryRules (g : Grammar) : List (Symbol × Symbol × Symbol) := g.rules.filterMap Rule.binary?

/-- Whether the start variable may stand for nothing. -/
def hasEpsilonStartRule (g : Grammar) : Bool := decide (Rule.epsilon g.start ∈ g.rules)

/-- **A grammar keeps the rows it was made from**, in order. -/
theorem rows_ofRows {rows : List Row} {form : NormalForm} {g : Grammar}
    (h : ofRows rows form = .ok g) : g.rows = rows ∧ g.normalForm = form := by
  unfold ofRows at h
  split at h
  · cases h
  · split at h
    · cases h
    · rename_i hne hrow
      split at h
      · cases h
      · rename_i hvalid
        cases h
        exact ⟨Rule.map_symbols_filterMap_ofRow? (fun _ hmem e => hrow (e ▸ hmem))
          (NormalForm.length_rhs_le_of_validate hvalid), rfl⟩

end Grammar

end Chart
