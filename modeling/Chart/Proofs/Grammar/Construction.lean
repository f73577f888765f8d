import Chart.Grammar.Basic

/-!
# Proofs/Grammar/Construction — which rows make a grammar

Rows that are not empty and pass the checks make a grammar (`exists_ofRows`), and a grammar is made of
the rules that its rows write (`rules_eq_of_rows`).  So every grammar is the one that its rows make:
`ofRows_rows`.  In second normal form, rules make a grammar whatever they are: `exists_ofRows_map_symbols`.
-/

namespace Chart

/-- Different rules are written as different rows. -/
theorem Rule.symbols_injective {r q : Rule} (h : r.symbols = q.symbols) : r = q := by
  have hof : ofRow? r.symbols = ofRow? q.symbols := congrArg ofRow? h
  rw [ofRow?_symbols, ofRow?_symbols] at hof
  exact Option.some.inj hof

namespace Grammar

variable {g : Grammar} {rows : List Row} {rules : List Rule} {form : NormalForm}

/-- **A grammar is made of the rules that its rows write.** -/
theorem rules_eq_of_rows (h : g.rows = rules.map Rule.symbols) : g.rules = rules :=
  (List.map_inj_right fun _ _ => Rule.symbols_injective).1 h

/-- A grammar is its rows and its normal form. -/
theorem eq_of_rows_eq {g' : Grammar} (hrows : g'.rows = g.rows)
    (hform : g'.normalForm = g.normalForm) : g' = g := by
  have hrules : g'.rules = g.rules := rules_eq_of_rows hrows
  cases g
  cases g'
  cases hrules
  cases hform
  rfl

/-- **Rows that pass the checks make a grammar.** -/
theorem exists_ofRows (hne : rows ≠ []) (hrow : [] ∉ rows)
    (hvalid : form.validate rows (Row.vars rows) (Row.start rows) = .ok ()) :
    ∃ g, ofRows rows form = .ok g := by
  rw [ofRows, dif_neg hne, dif_neg hrow]
  split
  · rename_i hfault
    exact nomatch hvalid.symm.trans hfault
  · exact ⟨_, rfl⟩

/-- Rules are written as rows that pass the length check. -/
theorem checkSecond_map_symbols (rules : List Rule) :
    NormalForm.checkSecond (rules.map Rule.symbols) = .ok () := by
  refine NormalForm.checkSecond_eq_ok.2 fun row hmem => ?_
  obtain ⟨r, -, rfl⟩ := List.mem_map.1 hmem
  exact r.length_rhs_le

theorem validate_rows (g : Grammar) :
    g.normalForm.validate g.rows (Row.vars g.rows) (Row.start g.rows) = .ok () := by
  have hsecond : NormalForm.checkSecond g.rows = .ok () := checkSecond_map_symbols g.rules
  cases hform : g.normalForm with
  | second => exact hsecond
  | chomsky =>
    simp only [NormalForm.validate, hsecond]
    refine NormalForm.checkEach_eq_ok.2 fun row hmem => ?_
    obtain ⟨r, hr, rfl⟩ := List.mem_map.1 hmem
    rw [rows, Row.vars_map_symbols, Row.start_map_symbols g.rules_ne_nil]
    exact Row.checkShape_cons_eq_ok.2 (g.conforms hform r hr)

theorem rows_ne_nil (g : Grammar) : g.rows ≠ [] := fun h => g.rules_ne_nil (List.map_eq_nil_iff.1 h)

/-- No row of a grammar is empty. -/
theorem nil_not_mem_rows (g : Grammar) : [] ∉ g.rows := by
  intro hmem
  obtain ⟨r, -, hr⟩ := List.mem_map.1 hmem
  exact List.cons_ne_nil _ _ hr

/-- **Every grammar is the one that its rows make.** -/
theorem ofRows_rows (g : Grammar) : ofRows g.rows g.normalForm = .ok g := by
  obtain ⟨h, hh⟩ := exists_ofRows g.rows_ne_nil g.nil_not_mem_rows g.validate_rows
  rw [hh, eq_of_rows_eq (rows_ofRows hh).1 (rows_ofRows hh).2]

/-- Rules make a grammar in second normal form, unless there is none. -/
theorem exists_ofRows_map_symbols (hne : rules ≠ []) :
    ∃ g, ofRows (rules.map Rule.symbols) .second = .ok g ∧ g.rules = rules := by
  let g : Grammar :=
    { rules := rules
      normalForm := .second
      rules_ne_nil := hne
      conforms := fun h => by cases h }
  exact ⟨g, ofRows_rows g, rfl⟩

end Grammar

end Chart
