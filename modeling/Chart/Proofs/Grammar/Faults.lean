import Mathlib.Data.List.Basic
import Chart.Proofs.Grammar.Construction

/-!
# Proofs/Grammar/Faults — which rows make a grammar, and what is reported of the others

Whether a row has a shape of Chomsky normal form depends on all other rows, since they decide which symbols
are variables.  So a list of rows is not judged row by row: one question after the other is asked of the
whole list, and **the first row at fault in the first question that fails is reported**.

* `NormalForm.checkEach_eq_error_iff` — a check over rows ends at the first row that fails it.
* `NormalForm.validate_eq_ok_iff`, `NormalForm.validate_eq_error_iff` — what the checks of a tier ask for,
  and the fault that they report (`Row.FirstFault`), whatever the variables are.
* `Grammar.exists_ofRows_iff`, `Grammar.ofRows_eq_error_iff` — which rows make a grammar, and the fault of
  the others (`Row.Refused`).
* `Grammar.perm_withRhsLength`, `Row.mem_groups_iff` — the rules by the length of their right-hand sides.
-/

namespace Chart

namespace Row

/-! ## What is asked of rows -/

/-- A symbol that is the left-hand side of some row. -/
def IsLhs (rows : List Row) (a : Symbol) : Prop := ∃ rhs, a :: rhs ∈ rows

/-- The symbol that is the left-hand side of the first row. -/
def IsFirstLhs (rows : List Row) (a : Symbol) : Prop := ∃ rhs others, rows = (a :: rhs) :: others

/-- **The shapes of Chomsky normal form**: the empty rule of the start variable, a rule for a single
terminal, and a rule for two variables. -/
inductive HasShape (IsVar IsStart : Symbol → Prop) : Row → Prop
  | epsilon {a : Symbol} (ha : IsStart a) : HasShape IsVar IsStart [a]
  | terminal {a x : Symbol} (hx : ¬ IsVar x) : HasShape IsVar IsStart [a, x]
  | pair {a x y : Symbol} (hx : IsVar x) (hy : IsVar y) : HasShape IsVar IsStart [a, x, y]

/-- **What a tier asks of rows**: at most two symbols on every right-hand side and, in Chomsky normal form,
one of the shapes. -/
structure Meets (form : NormalForm) (IsVar IsStart : Symbol → Prop) (rows : List Row) : Prop where
  short : ∀ row ∈ rows, row.rhs.length ≤ 2
  shaped : form = .chomsky → ∀ row ∈ rows, HasShape IsVar IsStart row

/-- **The fault of rows that do not meet a tier**: that of the first row that is too long, wherever it
stands, and else that of the first row without a shape. -/
inductive FirstFault (form : NormalForm) (IsVar IsStart : Symbol → Prop) (rows : List Row) :
    GrammarError → Prop
  | tooLong {before behind : List Row} {a : Symbol} {rhs : List Symbol}
      (hrows : rows = before ++ (a :: rhs) :: behind) (hbefore : ∀ row ∈ before, row.rhs.length ≤ 2)
      (hlong : 2 < rhs.length) : FirstFault form IsVar IsStart rows (.tooLong a rhs)
  | notChomsky {before behind : List Row} {a : Symbol} {rhs : List Symbol} (hform : form = .chomsky)
      (hshort : ∀ row ∈ rows, row.rhs.length ≤ 2) (hrows : rows = before ++ (a :: rhs) :: behind)
      (hbefore : ∀ row ∈ before, HasShape IsVar IsStart row)
      (hshape : ¬ HasShape IsVar IsStart (a :: rhs)) :
      FirstFault form IsVar IsStart rows (.notChomsky a rhs)

theorem FirstFault.ne_nil {form : NormalForm} {IsVar IsStart : Symbol → Prop} {rows : List Row}
    {e : GrammarError} (h : FirstFault form IsVar IsStart rows e) : rows ≠ [] := by
  cases h with
  | tooLong hrows => simp [hrows]
  | notChomsky _ _ hrows => simp [hrows]

/-- **The fault of rows that make no grammar**: there is none of them, one of them is empty, or else they do
not meet the tier, where the left-hand sides are the variables and the first of them is the start. -/
inductive Refused (form : NormalForm) (rows : List Row) : GrammarError → Prop
  | noRules (hrows : rows = []) : Refused form rows .noRules
  | emptyRule (hrow : [] ∈ rows) : Refused form rows .emptyRule
  | invalid {e : GrammarError} (hrow : [] ∉ rows)
      (h : FirstFault form (IsLhs rows) (IsFirstLhs rows) rows e) : Refused form rows e

variable {rows : List Row} {row : Row} {rhs : List Symbol} {a x : Symbol} {e : GrammarError}

/-! ## The variables of rows -/

theorem mem_vars_iff : x ∈ vars rows ↔ IsLhs rows x := by
  rw [vars, List.mem_filterMap]
  constructor
  · rintro ⟨_ | ⟨b, rhs⟩, hrow, hhead⟩
    · cases hhead
    · exact ⟨rhs, Option.some.inj hhead ▸ hrow⟩
  · rintro ⟨rhs, hrow⟩
    exact ⟨_, hrow, rfl⟩

theorem eq_start_iff (hne : rows ≠ []) (hrow : [] ∉ rows) : a = start rows ↔ IsFirstLhs rows a := by
  match rows, hne, hrow with
  | [] :: others, _, hrow => exact absurd List.mem_cons_self hrow
  | (b :: rhs) :: others, _, _ =>
    constructor
    · rintro rfl
      exact ⟨rhs, others, rfl⟩
    · rintro ⟨rhs', others', hrows⟩
      cases hrows
      rfl

/-- **The groups of rows** are the rows of each length that occurs, in their order. -/
theorem mem_groups_iff {length : Nat} {group : List Row} : (length, group) ∈ groups rows ↔
    group = rows.filter (·.rhs.length == length) ∧ group ≠ [] := by
  have hoccurs : rows.filter (·.rhs.length == length) ≠ [] ↔ ∃ row ∈ rows, row.rhs.length = length := by
    simp [List.filter_eq_nil_iff]
  simp only [groups, List.mem_map, List.mem_mergeSort, List.mem_eraseDups, Prod.mk.injEq]
  constructor
  · rintro ⟨_, hlength, rfl, rfl⟩
    exact ⟨rfl, hoccurs.2 hlength⟩
  · rintro ⟨rfl, hne⟩
    exact ⟨_, hoccurs.1 hne, rfl, rfl⟩

/-! ## The checks of a row -/

variable {vars : List Symbol} {start : Symbol}

theorem isChomsky_iff_hasShape :
    IsChomsky vars start a rhs ↔ HasShape (· ∈ vars) (· = start) (a :: rhs) := by
  constructor
  · intro h
    match rhs, h with
    | [], h => exact .epsilon h
    | [x], h => exact .terminal h
    | [x, y], h => exact .pair h.1 h.2
  · intro h
    cases h with
    | epsilon ha => exact ha
    | terminal hx => exact hx
    | pair hx hy => exact ⟨hx, hy⟩

theorem checkShape_eq_ok_iff :
    checkShape vars start row = .ok () ↔ HasShape (· ∈ vars) (· = start) row := by
  cases row with
  | nil => exact ⟨fun h => (by cases h), fun h => (by cases h)⟩
  | cons a rhs => rw [checkShape_cons_eq_ok, isChomsky_iff_hasShape]

theorem checkShape_cons_eq_error_iff : checkShape vars start (a :: rhs) = .error e ↔
    ¬ HasShape (· ∈ vars) (· = start) (a :: rhs) ∧ e = .notChomsky a rhs := by
  rw [← isChomsky_iff_hasShape, checkShape]
  by_cases h : IsChomsky vars start a rhs <;> simp [h, eq_comm]

/-- A row that is too long has a left-hand side. -/
theorem checkLength_eq_error_iff : row.checkLength = .error e ↔
    ∃ a rhs, row = a :: rhs ∧ 2 < rhs.length ∧ e = .tooLong a rhs := by
  cases row with
  | nil => simp [checkLength]
  | cons a rhs =>
    rw [checkLength]
    by_cases h : rhs.length ≤ 2
    · simp [h, Nat.not_lt_of_le h]
    · simp [h, Nat.lt_of_not_le h, eq_comm]

end Row

/-! ## The checks of a tier -/

namespace NormalForm

open Row

variable {form : NormalForm} {rows : List Row} {vars : List Symbol} {start : Symbol}
  {e : GrammarError}

/-- **A check over rows ends at the first row that fails it**, whatever stands behind that row. -/
theorem checkEach_eq_error_iff {check : Row → Except GrammarError Unit} :
    checkEach check rows = .error e ↔ ∃ before row behind, rows = before ++ row :: behind ∧
      (∀ r ∈ before, check r = .ok ()) ∧ check row = .error e := by
  induction rows with
  | nil => simp [checkEach]
  | cons first rows ih =>
    rw [checkEach]
    cases hfirst : check first with
    | error fault =>
      constructor
      · intro h
        exact ⟨[], first, rows, rfl, List.forall_mem_nil _, Except.error.inj h ▸ hfirst⟩
      · rintro ⟨before, row, behind, hrows, hbefore, hrow⟩
        obtain ⟨rfl, h⟩ | ⟨rest, rfl, -⟩ := List.cons_eq_append_iff.1 hrows
        · obtain rfl : row = first := (List.cons.inj h).1
          exact hfirst.symm.trans hrow
        · exact absurd (hfirst.symm.trans (hbefore first List.mem_cons_self)) (by simp)
    | ok u =>
      dsimp only
      rw [ih]
      constructor
      · rintro ⟨before, row, behind, rfl, hbefore, hrow⟩
        exact ⟨first :: before, row, behind, rfl, List.forall_mem_cons.2 ⟨hfirst, hbefore⟩, hrow⟩
      · rintro ⟨before, row, behind, hrows, hbefore, hrow⟩
        obtain ⟨rfl, h⟩ | ⟨rest, rfl, h⟩ := List.cons_eq_append_iff.1 hrows
        · obtain rfl : row = first := (List.cons.inj h).1
          exact absurd (hfirst.symm.trans hrow) (by simp)
        · exact ⟨rest, row, behind, h, (List.forall_mem_cons.1 hbefore).2, hrow⟩

theorem checkSecond_eq_error_iff : checkSecond rows = .error e ↔
    ∃ (before : List Row) (a : Symbol) (rhs : List Symbol) (behind : List Row),
      rows = before ++ (a :: rhs) :: behind ∧ (∀ row ∈ before, row.rhs.length ≤ 2) ∧
      2 < rhs.length ∧ e = .tooLong a rhs := by
  simp only [checkSecond, checkEach_eq_error_iff, checkLength_eq_ok, checkLength_eq_error_iff]
  constructor
  · rintro ⟨before, _, behind, rfl, hbefore, a, rhs, rfl, hlong, rfl⟩
    exact ⟨before, a, rhs, behind, rfl, hbefore, hlong, rfl⟩
  · rintro ⟨before, a, rhs, behind, rfl, hbefore, hlong, rfl⟩
    exact ⟨before, _, behind, rfl, hbefore, a, rhs, rfl, hlong, rfl⟩

theorem checkChomsky_eq_error_iff (hrow : [] ∉ rows) :
    checkChomsky rows vars start = .error e ↔
      ∃ (before : List Row) (a : Symbol) (rhs : List Symbol) (behind : List Row),
        rows = before ++ (a :: rhs) :: behind ∧
        (∀ row ∈ before, HasShape (· ∈ vars) (· = start) row) ∧
        ¬ HasShape (· ∈ vars) (· = start) (a :: rhs) ∧ e = .notChomsky a rhs := by
  simp only [checkChomsky, checkEach_eq_error_iff, checkShape_eq_ok_iff]
  constructor
  · rintro ⟨before, _ | ⟨a, rhs⟩, behind, rfl, hbefore, hfault⟩
    · exact absurd (by simp) hrow
    · exact ⟨before, a, rhs, behind, rfl, hbefore, checkShape_cons_eq_error_iff.1 hfault⟩
  · rintro ⟨before, a, rhs, behind, rfl, hbefore, hfault⟩
    exact ⟨before, a :: rhs, behind, rfl, hbefore, checkShape_cons_eq_error_iff.2 hfault⟩

/-- **The checks of a tier pass exactly the rows that meet it.** -/
theorem validate_eq_ok_iff : form.validate rows vars start = .ok () ↔
    Meets form (· ∈ vars) (· = start) rows := by
  have hshape : checkChomsky rows vars start = .ok () ↔
      ∀ row ∈ rows, HasShape (· ∈ vars) (· = start) row := by
    simp only [checkChomsky, checkEach_eq_ok, checkShape_eq_ok_iff]
  constructor
  · intro h
    refine ⟨length_rhs_le_of_validate h, ?_⟩
    rintro rfl
    have hsecond : checkSecond rows = .ok () := checkSecond_eq_ok.2 (length_rhs_le_of_validate h)
    rw [validate, hsecond] at h
    exact hshape.1 h
  · intro h
    have hsecond : checkSecond rows = .ok () := checkSecond_eq_ok.2 h.short
    cases form with
    | second => exact hsecond
    | chomsky =>
      rw [validate, hsecond]
      exact hshape.2 (h.shaped rfl)

/-- **The checks of a tier report the first fault.** -/
theorem validate_eq_error_iff (hrow : [] ∉ rows) : form.validate rows vars start = .error e ↔
    FirstFault form (· ∈ vars) (· = start) rows e := by
  constructor
  · intro h
    cases hsecond : checkSecond rows with
    | error fault =>
      have hfault : form.validate rows vars start = .error fault := by
        cases form <;> simp only [validate, hsecond]
      obtain rfl : fault = e := Except.error.inj (hfault.symm.trans h)
      obtain ⟨before, a, rhs, behind, hrows, hbefore, hlong, rfl⟩ := checkSecond_eq_error_iff.1 hsecond
      exact .tooLong hrows hbefore hlong
    | ok u =>
      cases form with
      | second => exact absurd (hsecond.symm.trans h) (by simp)
      | chomsky =>
        simp only [validate, hsecond] at h
        obtain ⟨before, a, rhs, behind, hrows, hbefore, hshape, rfl⟩ :=
          (checkChomsky_eq_error_iff hrow).1 h
        exact .notChomsky rfl (checkSecond_eq_ok.1 hsecond) hrows hbefore hshape
  · intro h
    cases h with
    | tooLong hrows hbefore hlong =>
      have hsecond : checkSecond rows = .error (.tooLong _ _) :=
        checkSecond_eq_error_iff.2 ⟨_, _, _, _, hrows, hbefore, hlong, rfl⟩
      cases form <;> simp only [validate, hsecond]
    | notChomsky hform hshort hrows hbefore hshape =>
      subst hform
      simp only [validate, checkSecond_eq_ok.2 hshort]
      exact (checkChomsky_eq_error_iff hrow).2 ⟨_, _, _, _, hrows, hbefore, hshape, rfl⟩

end NormalForm

/-! ## The grammar of rows -/

namespace Grammar

variable {rows : List Row} {form : NormalForm} {e : GrammarError}

/-- The variables and the start that rows are checked with. -/
theorem isLhs_and_isFirstLhs (hne : rows ≠ []) (hrow : [] ∉ rows) :
    (· ∈ Row.vars rows) = Row.IsLhs rows ∧ (· = Row.start rows) = Row.IsFirstLhs rows :=
  ⟨funext fun _ => propext Row.mem_vars_iff, funext fun _ => propext (Row.eq_start_iff hne hrow)⟩

/-- **Rows make a grammar exactly if they meet its tier**, there is one of them and none is empty. -/
theorem exists_ofRows_iff : (∃ g, ofRows rows form = .ok g) ↔
    rows ≠ [] ∧ [] ∉ rows ∧ Row.Meets form (Row.IsLhs rows) (Row.IsFirstLhs rows) rows := by
  constructor
  · rintro ⟨g, hg⟩
    obtain ⟨rfl, rfl⟩ := rows_ofRows hg
    obtain ⟨hlhs, hfirst⟩ := isLhs_and_isFirstLhs g.rows_ne_nil g.nil_not_mem_rows
    rw [← hlhs, ← hfirst]
    exact ⟨g.rows_ne_nil, g.nil_not_mem_rows, NormalForm.validate_eq_ok_iff.1 g.validate_rows⟩
  · rintro ⟨hne, hrow, hmeets⟩
    obtain ⟨hlhs, hfirst⟩ := isLhs_and_isFirstLhs hne hrow
    rw [← hlhs, ← hfirst] at hmeets
    exact exists_ofRows hne hrow (NormalForm.validate_eq_ok_iff.2 hmeets)

theorem ofRows_of_nil_mem (hrow : [] ∈ rows) : ofRows rows form = .error .emptyRule := by
  rw [ofRows, dif_neg (List.ne_nil_of_mem hrow), dif_pos hrow]

/-- Rows that are not empty are refused for what the checks of the tier report. -/
theorem ofRows_eq_error_iff_validate (hne : rows ≠ []) (hrow : [] ∉ rows) :
    ofRows rows form = .error e ↔
      form.validate rows (Row.vars rows) (Row.start rows) = .error e := by
  rw [ofRows, dif_neg hne, dif_neg hrow]
  split
  · next hfault => rw [hfault, Except.error.injEq, Except.error.injEq]
  · next hvalid => exact iff_of_false (by simp) (by simp [hvalid])

/-- **Rows that make no grammar are refused for their first fault.** -/
theorem ofRows_eq_error_iff : ofRows rows form = .error e ↔ Row.Refused form rows e := by
  have hchecked (hne : rows ≠ []) (hrow : [] ∉ rows) : ofRows rows form = .error e ↔
      Row.FirstFault form (Row.IsLhs rows) (Row.IsFirstLhs rows) rows e := by
    obtain ⟨hlhs, hfirst⟩ := isLhs_and_isFirstLhs hne hrow
    rw [ofRows_eq_error_iff_validate hne hrow, NormalForm.validate_eq_error_iff hrow, hlhs, hfirst]
  constructor
  · intro h
    by_cases hne : rows = []
    · subst hne
      cases h
      exact .noRules rfl
    by_cases hrow : [] ∈ rows
    · obtain rfl : GrammarError.emptyRule = e := Except.error.inj ((ofRows_of_nil_mem hrow).symm.trans h)
      exact .emptyRule hrow
    · exact .invalid hrow ((hchecked hne hrow).1 h)
  · intro h
    cases h with
    | noRules hrows => rw [hrows]; rfl
    | emptyRule hrow => exact ofRows_of_nil_mem hrow
    | invalid hrow h => exact (hchecked h.ne_nil hrow).2 h

/-- A row that is too long is reported before an earlier row without a shape. -/
example : ofRows [[['S'], ['S']], [['A'], ['a'], ['b'], ['c']]] .chomsky =
    .error (.tooLong ['A'] [['a'], ['b'], ['c']]) := rfl

/-! ## The rules of each length -/

/-- **The rules with nothing, one symbol and two symbols on the right are all the rules.** -/
theorem perm_withRhsLength (g : Grammar) :
    (g.withRhsLength 0 ++ g.withRhsLength 1 ++ g.withRhsLength 2).Perm g.rules := by
  simp only [withRhsLength]
  induction g.rules with
  | nil => exact .refl _
  | cons r rules ih =>
    cases r with
    | epsilon a => exact ih.cons _
    | unit a x => exact (List.perm_middle.append_right _).trans (ih.cons _)
    | binary a x y => exact List.perm_middle.trans (ih.cons _)

theorem map_symbols_withRhsLength (g : Grammar) (length : Nat) :
    (g.withRhsLength length).map Rule.symbols = g.rows.filter (·.rhs.length == length) := by
  rw [withRhsLength, rows, List.filter_map]
  refine congrArg (List.map Rule.symbols) (List.filter_congr fun r _ => ?_)
  rw [Function.comp_apply, Rule.rhs_symbols, Bool.eq_iff_iff, beq_iff_eq, beq_iff_eq, Int.natCast_inj]

/-- **Rows make a grammar or are refused for their first fault.**  They make one exactly if there is a row,
none is empty and they meet the tier.  The grammar keeps them in their order, and its rules with nothing, one
symbol and two symbols on the right are all its rules.  Other rows are refused because there is none, because
one is empty, wherever it stands, or for the first fault that the checks of the tier find: a row that is too
long comes before a row without a shape.  The checks themselves find that fault for any variables and any
start. -/
theorem construction_reports_first_fault (rows : List Row) (form : NormalForm) :
    ((∃ g, ofRows rows form = .ok g) ↔
      rows ≠ [] ∧ [] ∉ rows ∧ Row.Meets form (Row.IsLhs rows) (Row.IsFirstLhs rows) rows) ∧
    (∀ g, ofRows rows form = .ok g → g.rows = rows ∧ g.normalForm = form ∧
      (g.withRhsLength 0 ++ g.withRhsLength 1 ++ g.withRhsLength 2).Perm g.rules ∧
      ∀ (length : Nat) (group : List Row), (length, group) ∈ Row.groups rows ↔
        group = (g.withRhsLength length).map Rule.symbols ∧ group ≠ []) ∧
    (∀ e, ofRows rows form = .error e ↔ Row.Refused form rows e) ∧
    ([] ∉ rows → ∀ vars start,
      (form.validate rows vars start = .ok () ↔ Row.Meets form (· ∈ vars) (· = start) rows) ∧
      ∀ e, form.validate rows vars start = .error e ↔
        Row.FirstFault form (· ∈ vars) (· = start) rows e) := by
  refine ⟨exists_ofRows_iff, fun g hg => ?_, fun e => ofRows_eq_error_iff, fun hrow vars start => ?_⟩
  · obtain ⟨rfl, hform⟩ := rows_ofRows hg
    refine ⟨rfl, hform, g.perm_withRhsLength, fun length group => ?_⟩
    rw [Row.mem_groups_iff, map_symbols_withRhsLength]
  · exact ⟨NormalForm.validate_eq_ok_iff, fun e => NormalForm.validate_eq_error_iff hrow⟩

end Grammar

end Chart
