import Chart.Grammar.Rule

/-!
# Grammar/Validation — normal forms and the faults of a rule list

Two tiers: in **second normal form** no right-hand side has more than two symbols; **Chomsky normal
form** asks moreover that each rule is the empty rule of the start variable, a single terminal or two
variables.  The checks run over rows, so that they apply to a rule list of any shape; each reports
the first row at fault.

* `NormalForm.validate` — the checks of a tier, the length check first.
* `GrammarError.message` — what is reported.
-/

namespace Chart

/-- The tiers that a grammar may be held to. -/
inductive NormalForm where
  | second
  | chomsky
  deriving DecidableEq

/-- Why a list of rows is no grammar. -/
inductive GrammarError where
  /-- There is no row. -/
  | noRules
  /-- A row has no left-hand side. -/
  | emptyRule
  /-- A right-hand side has more than two symbols. -/
  | tooLong (lhs : Symbol) (rhs : List Symbol)
  /-- A row is not of Chomsky shape. -/
  | notChomsky (lhs : Symbol) (rhs : List Symbol)
  deriving DecidableEq

/-- The report of a fault. -/
def GrammarError.message : GrammarError → Text
  | noRules => "Found empty grammar (expected at least one rule)".toList
  | emptyRule => "Found empty rule (expected at least a variable)".toList
  | tooLong lhs rhs =>
    "RHS too long in rule ".toList ++ Row.arrow lhs rhs ++ " (expected 2 or less)".toList
  | notChomsky lhs rhs =>
    "Rule ".toList ++ Row.arrow lhs rhs ++ " is not in Chomsky normal form".toList

namespace Row

/-- At most two symbols stand on the right; a row without a left-hand side passes. -/
def checkLength : Row → Except GrammarError Unit
  | [] => .ok ()
  | lhs :: rhs => if rhs.length ≤ 2 then .ok () else .error (.tooLong lhs rhs)

/-- **The shape Chomsky normal form asks for**, given the variables and the start variable. -/
def IsChomsky (vars : List Symbol) (start lhs : Symbol) : List Symbol → Prop
  | [] => lhs = start
  | [x] => x ∉ vars
  | [x, y] => x ∈ vars ∧ y ∈ vars
  | _ => False

instance (vars : List Symbol) (start lhs : Symbol) :
    (rhs : List Symbol) → Decidable (IsChomsky vars start lhs rhs)
  | [] => inferInstanceAs (Decidable (lhs = start))
  | [x] => inferInstanceAs (Decidable (x ∉ vars))
  | [x, y] => inferInstanceAs (Decidable (x ∈ vars ∧ y ∈ vars))
  | _ :: _ :: _ :: _ => inferInstanceAs (Decidable False)

/-- A row needs a left-hand side to have Chomsky shape. -/
def checkShape (vars : List Symbol) (start : Symbol) : Row → Except GrammarError Unit
  | [] => .error .emptyRule
  | lhs :: rhs =>
    if IsChomsky vars start lhs rhs then .ok () else .error (.notChomsky lhs rhs)

end Row

namespace NormalForm

/-- The name of a tier. -/
def name : NormalForm → Text
  | second => "2nf".toList
  | chomsky => "cnf".toList

/-- The tiers, in the order in which they are offered. -/
def all : List NormalForm := [second, chomsky]

/-- The tier of a name. -/
def ofName? (t : Text) : Option NormalForm := all.find? (·.name == t)

/-- Runs a check over rows, in order; the first fault ends it. -/
def checkEach (check : Row → Except GrammarError Unit) : List Row → Except GrammarError Unit
  | [] => .ok ()
  | row :: rows =>
    match check row with
    | .ok () => checkEach check rows
    | .error fault => .error fault

/-- Reports the first row with more than two symbols on its right. -/
def checkSecond (rows : List Row) : Except GrammarError Unit :=
  checkEach Row.checkLength rows

/-- Reports the first row without Chomsky shape. -/
def checkChomsky (rows : List Row) (vars : List Symbol) (start : Symbol) :
    Except GrammarError Unit :=
  checkEach (Row.checkShape vars start) rows

/-- **The checks of a tier**: a row that is too long anywhere is reported before one of bad shape. -/
def validate (form : NormalForm) (rows : List Row) (vars : List Symbol) (start : Symbol) :
    Except GrammarError Unit :=
  match form with
  | second => checkSecond rows
  | chomsky =>
    match checkSecond rows with
    | .ok () => checkChomsky rows vars start
    | .error fault => .error fault

end NormalForm

/-! ## What a passed check says -/

/-- **A list passes exactly if each of its rows does.** -/
theorem NormalForm.checkEach_eq_ok {check : Row → Except GrammarError Unit} :
    ∀ {rows : List Row}, checkEach check rows = .ok () ↔ ∀ row ∈ rows, check row = .ok ()
  | [] => by simp [checkEach]
  | row :: rows => by
    have ih : checkEach check rows = .ok () ↔ _ := checkEach_eq_ok
    rw [checkEach, List.forall_mem_cons, ← ih]
    cases h : check row <;> simp

theorem Row.checkLength_eq_ok {row : Row} : row.checkLength = .ok () ↔ row.rhs.length ≤ 2 := by
  cases row with
  | nil => simp [Row.checkLength, Row.rhs]
  | cons a rhs => by_cases h : rhs.length ≤ 2 <;> simp [Row.checkLength, Row.rhs, h]

theorem Row.checkShape_cons_eq_ok {vars : List Symbol} {start lhs : Symbol}
    {rhs : List Symbol} :
    Row.checkShape vars start (lhs :: rhs) = .ok () ↔ IsChomsky vars start lhs rhs := by
  by_cases h : IsChomsky vars start lhs rhs <;> simp [Row.checkShape, h]

/-- A rule list passes the length check exactly if no right-hand side is too long. -/
theorem NormalForm.checkSecond_eq_ok {rows : List Row} :
    NormalForm.checkSecond rows = .ok () ↔ ∀ row ∈ rows, row.rhs.length ≤ 2 := by
  simp only [checkSecond, checkEach_eq_ok, Row.checkLength_eq_ok]

end Chart
