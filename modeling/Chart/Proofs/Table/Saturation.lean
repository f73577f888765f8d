import Chart.Proofs.Grammar.Construction
import Chart.Proofs.Table.Chomsky

/-!
# Proofs/Table/Saturation — what the rules can still add to a table

A table is **saturated** if no rule adds anything to any of its cells: filling a cell again leaves the table
as it is.  Each cell is closed under the unit rules, and a rule with two symbols looks up shorter spans,
which are filled before.  Only if one of its symbols is the empty text it looks up the cell that is being
filled: it **copies** the other symbol, as a unit rule would.  But it has one turn, and what later rules and
the closure add to the cell comes too late for it.

* `Grammar.IsSaturated`; `isSaturated_iff_fillCell_eq` — filling again changes nothing.
* `Rule.Copies`; `lhs_mem_filled_or_copies` — a rule that can still add something copies.
* `Grammar.CopiesSettled`; `isSaturated_filled` — rules that copy do not miss anything if nothing adds what
  they copy after their turn.
-/

namespace Chart

variable {g : Grammar} {word : Text} {t : Table} {i j : Nat} {r : Rule} {z : Symbol}

/-! ## What a rule asks of a table -/

/-- **A rule applies to a span** if by the entries of a table it adds its left-hand side to the cell. -/
def Rule.Applies (t : Table) (word : Text) (i j : Nat) : Rule → Prop
  | epsilon _ => False
  | unit _ b => b ∈ t.get i j
  | binary _ x y => t.splits word x y i j = true

/-- **A rule copies a symbol** if its other symbol is the empty text. -/
inductive Rule.Copies : Rule → Symbol → Prop where
  | first (a x : Symbol) : Copies (binary a x []) x
  | second (a y : Symbol) : Copies (binary a [] y) y

/-- What a rule copies makes it apply. -/
theorem Rule.Copies.applies (h : r.Copies z) (hij : i ≤ j) (hj : j < word.length)
    (hz : z ∈ t.get i j) : r.Applies t word i j := by
  cases h with
  | first a x =>
    exact (Table.splits_iff hj).2 (Or.inr (Or.inr (Or.inl ⟨hij, (List.append_nil _).symm, hz⟩)))
  | second a y => exact (Table.splits_iff hj).2 (Or.inr (Or.inl ⟨hij, rfl, hz⟩))

namespace Grammar

/-- **A table is saturated** if no rule adds to a cell what is not there. -/
def IsSaturated (g : Grammar) (word : Text) (t : Table) : Prop :=
  ∀ i j, i ≤ j → j < word.length → ∀ r ∈ g.rules, r.Applies t word i j → r.lhs ∈ t.get i j

/-- Rules whose symbols cover a span only if their left-hand side is in the cell add nothing to it. -/
theorem foldl_addBinary_eq_self {rules : List (Symbol × Symbol × Symbol)}
    (h : ∀ r ∈ rules, t.splits word r.2.1 r.2.2 i j = true → r.1 ∈ t.get i j) :
    rules.foldl (addBinary word t i j) (t.get i j) = t.get i j := by
  induction rules with
  | nil => rfl
  | cons r rules ih =>
    obtain ⟨hr, hrest⟩ := List.forall_mem_cons.1 h
    have hstep : addBinary word t i j (t.get i j) r = t.get i j := by
      rw [addBinary, Table.put_get]
      split
      · rename_i hsplits
        exact List.insert_of_mem (hr hsplits)
      · rfl
    rw [List.foldl_cons, hstep, ih hrest]

theorem filling_eq_self (h : ∀ r ∈ g.rules, r.Applies t word i j → r.lhs ∈ t.get i j) :
    g.filling word t i j (t.get i j) = t.get i j := by
  rw [filling, foldl_addBinary_eq_self fun r hr hsplits => h _ (mem_binaryRules.1 hr) hsplits]
  exact Cell.close_eq_self fun r hr hright => h _ (mem_unitRules.1 hr) hright

/-- **A table is saturated exactly if filling its cells again changes nothing.** -/
theorem isSaturated_iff_fillCell_eq (ht : t.IsSquare word.length) :
    g.IsSaturated word t ↔ ∀ i j, i ≤ j → j < word.length → g.fillCell word t i j = t := by
  refine forall₂_congr fun i j => forall₂_congr fun hij hj => ?_
  constructor
  · intro h
    rw [fillCell_eq_put, filling_eq_self h, Table.put_get]
  · intro h r hr happlies
    have hfilling : g.filling word t i j (t.get i j) = t.get i j := by
      have hget := ht.get_put (Nat.lt_of_le_of_lt hij hj) hj (g.filling word t i j (t.get i j)) i j
      rwa [if_pos ⟨rfl, rfl⟩, ← fillCell_eq_put, h, eq_comm] at hget
    rw [← hfilling]
    cases r with
    | epsilon a => exact happlies.elim
    | unit a b => exact mem_filling_of_unit hr (hfilling.symm ▸ happlies)
    | binary a x y => exact mem_filling_of_binary ht hij hj hr ((Table.put_get t i j).symm ▸ happlies)

/-! ## The membership table -/

/-- **A rule that can still add something copies**: otherwise it looks up other cells alone, and these are
what they were when it was tried. -/
theorem lhs_mem_filled_or_copies (hr : r ∈ g.rules) (hij : i ≤ j) (hj : j < word.length)
    (h : r.Applies (g.filled word) word i j) :
    r.lhs ∈ (g.filled word).get i j ∨ ∃ z, r.Copies z ∧ z ∈ (g.filled word).get i j := by
  by_cases hcopies : ∃ z, r.Copies z ∧ z ∈ (g.filled word).get i j
  · exact Or.inr hcopies
  refine Or.inl ?_
  have hi : i < word.length := Nat.lt_of_le_of_lt hij hj
  have hsame : ∀ c k m, (k = i ∧ m = j → r.Copies c) →
      (c ∈ ((g.filled word).put i j ((g.seed word).get i j)).get k m ↔ c ∈ (g.filled word).get k m) := by
    intro c k m hown
    by_cases hspan : k = i ∧ m = j
    · have hnot : c ∉ (g.filled word).get i j := fun hc => hcopies ⟨c, hown hspan, hc⟩
      obtain ⟨rfl, rfl⟩ := hspan
      rw [get_put_filled_self hi hj]
      refine iff_of_false (fun hseed => hnot ?_) hnot
      rw [get_filled hij hj]
      exact mem_filling_of_mem hseed
    · rw [get_put_filled hi hj hspan]
  cases r with
  | epsilon a => exact h.elim
  | unit a b => exact mem_filled_of_unit hij hj hr h
  | binary a x y =>
    refine mem_filled_of_binary hij hj hr (Eq.trans (Table.splits_congr hj ?_ ?_) h)
    · refine fun k _ _ hown => hsame x i k fun hspan => ?_
      obtain rfl : y = [] := hown hspan.2
      exact Rule.Copies.first a x
    · refine fun k _ _ hown => hsame y k j fun hspan => ?_
      obtain rfl : x = [] := hown hspan.1
      exact Rule.Copies.second a y

/-- **What rules copy is settled in time** if it is no left-hand side of a unit rule for a variable, and of
no rule with two symbols that is tried later; a left-hand side that is copied onto itself does not matter. -/
structure CopiesSettled (g : Grammar) : Prop where
  /-- The closure adds nothing that is copied. -/
  unit : ∀ r ∈ g.rules, ∀ z, r.Copies z → z ≠ r.lhs → ∀ b, Rule.unit z b ∈ g.rules →
    g.isVariable b = false
  /-- Neither do later rules. -/
  binary : g.rules.Pairwise fun r q => ∀ z, r.Copies z → z ≠ r.lhs → ∀ x y, q ≠ Rule.binary z x y

theorem binaryRules_of_rules {earlier later : List Rule} {a x y : Symbol}
    (hrules : g.rules = earlier ++ Rule.binary a x y :: later) : g.binaryRules =
      earlier.filterMap Rule.binary? ++ (a, x, y) :: later.filterMap Rule.binary? := by
  rw [binaryRules, hrules, List.filterMap_append]
  rfl

/-- **A rule copies what is settled before its turn**: neither the closure nor a later rule added it. -/
theorem lhs_mem_filling_of_copies {earlier later : List Rule} {cell : Cell} (ht : t.IsSquare word.length)
    (hij : i ≤ j) (hj : j < word.length) (hrules : g.rules = earlier ++ r :: later)
    (hcopies : r.Copies z) (hself : z ≠ r.lhs)
    (hunit : ∀ b, (z, b) ∈ g.unitRules → b ∉ g.filling word t i j cell)
    (hlater : ∀ q ∈ later, ∀ x y, q ≠ Rule.binary z x y) (hz : z ∈ g.filling word t i j cell) :
    r.lhs ∈ g.filling word t i j cell := by
  obtain ⟨a, x, y, rfl⟩ : ∃ a x y, r = Rule.binary a x y := by
    cases hcopies with
    | first => exact ⟨_, _, _, rfl⟩
    | second => exact ⟨_, _, _, rfl⟩
  have hbinary := binaryRules_of_rules hrules
  have hfold : z ∈ g.binaryRules.foldl (addBinary word t i j) cell := Cell.mem_of_mem_close hz hunit
  rw [hbinary, List.foldl_append] at hfold
  rcases mem_or_of_mem_foldl_addBinary hfold with hearlier | ⟨q, hq, rfl⟩
  · refine mem_filling_of_turn hbinary (hcopies.applies hij hj ?_)
    rwa [ht.get_put (Nat.lt_of_le_of_lt hij hj) hj, if_pos ⟨rfl, rfl⟩]
  · rcases List.mem_cons.1 hq with rfl | hq
    · exact absurd rfl hself
    · obtain ⟨p, hp, hpq⟩ := List.mem_filterMap.1 hq
      cases p <;> cases hpq
      exact absurd rfl (hlater _ hp _ _)

theorem lhs_mem_filled_of_copies (hg : g.CopiesSettled) (hr : r ∈ g.rules) (hij : i ≤ j)
    (hj : j < word.length) (hcopies : r.Copies z) (hz : z ∈ (g.filled word).get i j) :
    r.lhs ∈ (g.filled word).get i j := by
  by_cases hself : z = r.lhs
  · exact hself ▸ hz
  have hunit : ∀ b, (z, b) ∈ g.unitRules → b ∉ (g.filled word).get i j := by
    intro b hb hmem
    have hterminal := hg.unit r hr z hcopies hself b (mem_unitRules.1 hb)
    exact Bool.eq_false_iff.1 hterminal (yields_of_mem_filled hij hj hmem).isVariable
  obtain ⟨earlier, later, hrules⟩ := List.append_of_mem hr
  have hpairs := (List.pairwise_append.1 (hrules ▸ hg.binary)).2.1
  have hlater : ∀ q ∈ later, ∀ x y, q ≠ Rule.binary z x y :=
    fun q hq => (List.pairwise_cons.1 hpairs).1 q hq z hcopies hself
  rw [get_filled hij hj] at hz hunit ⊢
  exact lhs_mem_filling_of_copies (isSquare_filled g word) hij hj hrules hcopies hself hunit hlater hz

theorem isSaturated_filled (hg : g.CopiesSettled) (word : Text) : g.IsSaturated word (g.filled word) := by
  intro i j hij hj r hr happlies
  rcases lhs_mem_filled_or_copies hr hij hj happlies with hmem | ⟨z, hcopies, hz⟩
  · exact hmem
  · exact lhs_mem_filled_of_copies hg hr hij hj hcopies hz

/-- Where no symbol is the empty text, no rule copies. -/
theorem HasNoEmptySymbol.copiesSettled (hg : g.HasNoEmptySymbol) : g.CopiesSettled := by
  have hnone : ∀ r ∈ g.rules, ∀ z, ¬ r.Copies z := by
    intro r hr z hcopies
    cases hcopies with
    | first => exact hg.second hr rfl
    | second => exact hg.first hr rfl
  exact
    { unit := fun r hr z hcopies => absurd hcopies (hnone r hr z)
      binary := List.pairwise_of_forall_mem_list fun r hr q _ z hcopies => absurd hcopies (hnone r hr z) }

/-- **What the rules can still add to the membership table is what some of them copy.**  A rule whose
left-hand side is missing from a cell, although it applies there, has the empty text as one of its symbols
and the other one as an entry of that very cell.  So the table is saturated if what rules copy is settled
in time, and in particular where no symbol is the empty text, as in every grammar that was parsed. -/
theorem table_saturated_but_for_copies (g : Grammar) (word : Text) (clock : Clock) :
    ∃ t, g.table word none clock = .ok t ∧
      (∀ i j, i ≤ j → j < word.length → ∀ r ∈ g.rules, r.Applies t word i j →
        r.lhs ∈ t.get i j ∨ ∃ z, r.Copies z ∧ z ∈ t.get i j) ∧
      (g.CopiesSettled → g.IsSaturated word t) ∧
      (g.IsSaturated word t ↔ ∀ i j, i ≤ j → j < word.length → g.fillCell word t i j = t) ∧
      (g.HasNoEmptySymbol → g.CopiesSettled) ∧
      ∀ text form, parse text form = .ok g → g.HasNoEmptySymbol := by
  refine ⟨g.filled word, table_none g word clock, ?_, ?_, ?_, ?_, ?_⟩
  · intro i j hij hj r hr happlies
    exact lhs_mem_filled_or_copies hr hij hj happlies
  · exact fun hg => isSaturated_filled hg word
  · exact isSaturated_iff_fillCell_eq (isSquare_filled g word)
  · exact HasNoEmptySymbol.copiesSettled
  · exact fun text form h => hasNoEmptySymbol_of_parse h

/-- A rule that copies a symbol with a rule for a character alone. -/
def earlyCopy : Grammar where
  rules := [.binary ['S'] ['A'] [], .unit ['A'] ['a']]
  normalForm := .second
  rules_ne_nil := List.cons_ne_nil _ _
  conforms := nofun

theorem copiesSettled_earlyCopy : earlyCopy.CopiesSettled where
  unit := by
    intro r hr z hcopies _ b hb
    have hunit : (z, b) ∈ earlyCopy.unitRules := mem_unitRules.2 hb
    obtain ⟨rfl, rfl⟩ : z = ['A'] ∧ b = ['a'] := Prod.mk.inj (List.mem_singleton.1 hunit)
    rfl
  binary := by
    refine List.pairwise_pair.2 fun z _ _ x y heq => ?_
    cases heq

/-- The character is there before the rule has its turn, so its table is saturated. -/
theorem table_saturated_of_earlyCopy : earlyCopy.CopiesSettled ∧
    ∃ t, earlyCopy.table ['a'] none (fun _ => 0) = .ok t ∧ earlyCopy.IsSaturated ['a'] t ∧
      ['S'] ∈ t.get 0 0 := by
  obtain ⟨t, ht, -, hsaturated, -⟩ := table_saturated_but_for_copies earlyCopy ['a'] fun _ => 0
  have hfilled := eq_filled_of_table ht
  have hcopied : ['A'] ∈ t.get 0 0 := by
    rw [hfilled]
    exact mem_filled_of_character (c := 'a') (by decide) (Nat.le_refl 0) (by decide) rfl
  have happlies : (Rule.binary ['S'] ['A'] []).Applies t ['a'] 0 0 :=
    (Rule.Copies.first ['S'] ['A']).applies (Nat.le_refl 0) (by decide) hcopied
  refine ⟨copiesSettled_earlyCopy, t, ht, hsaturated copiesSettled_earlyCopy, ?_⟩
  exact hsaturated copiesSettled_earlyCopy 0 0 (Nat.le_refl 0) (by decide) _ List.mem_cons_self happlies

/-- A rule that copies a symbol which only the closure adds. -/
def lateCopy : Grammar where
  rules := [.binary ['S'] ['A'] [], .unit ['A'] ['B'], .unit ['B'] ['a']]
  normalForm := .second
  rules_ne_nil := List.cons_ne_nil _ _
  conforms := nofun

theorem eq_of_mem_seed_lateCopy {a : Symbol} (ha : a ∈ (lateCopy.seed ['a']).get 0 0) : a = ['B'] := by
  obtain ⟨-, c, hc, hr⟩ := (mem_get_seed (by decide) (by decide)).1 ha
  obtain rfl : 'a' = c := Option.some.inj hc
  have hunit : (a, ['a']) ∈ [(['A'], ['B']), (['B'], ['a'])] := mem_unitRules.2 hr
  simpa using hunit

/-- In the turn of the rule for the start variable, what it copies is not in the cell. -/
theorem not_splits_lateCopy : ¬ ((lateCopy.filled ['a']).put 0 0
    ((lateCopy.seed ['a']).get 0 0)).splits ['a'] ['A'] [] 0 0 = true := by
  intro h
  rcases (Table.splits_iff (by decide)).1 h with ⟨k, -, hk, -⟩ | ⟨hle, -⟩ | ⟨-, -, hcopied⟩ | htext
  · exact absurd hk (Nat.not_lt_zero k)
  · exact absurd hle (by decide)
  · rw [List.length_nil, Nat.sub_zero, get_put_filled_self (by decide) (by decide)] at hcopied
    exact absurd (eq_of_mem_seed_lateCopy hcopied) (by decide)
  · exact absurd htext (by decide)

/-- So it adds nothing, and the closure adds other symbols. -/
theorem start_not_mem_filled_lateCopy : ['S'] ∉ (lateCopy.filled ['a']).get 0 0 := by
  have hfold : lateCopy.binaryRules.foldl (addBinary ['a'] (lateCopy.filled ['a']) 0 0)
      ((lateCopy.seed ['a']).get 0 0) = (lateCopy.seed ['a']).get 0 0 := by
    have hrules : lateCopy.binaryRules = [(['S'], ['A'], [])] := rfl
    rw [hrules, List.foldl_cons, List.foldl_nil, addBinary, if_neg not_splits_lateCopy]
  have hseed : ∀ a ∈ (lateCopy.seed ['a']).get 0 0, a ≠ ['S'] := by
    intro a ha
    rw [eq_of_mem_seed_lateCopy ha]
    decide
  have hunit : ∀ r ∈ lateCopy.unitRules, r.2 ≠ ['S'] → r.1 ≠ ['S'] := by decide
  rw [get_filled (Nat.le_refl 0) (by decide), filling, hfold]
  exact fun h => Cell.forall_mem_closeFrom hunit hseed hseed _ h rfl

/-- **A rule that copies can come too late.**  The rows are a grammar and its table is filled, but the start
variable is missing from a cell for which it has a rule that applies. -/
theorem table_not_saturated_of_lateCopy :
    ofRows [[['S'], ['A'], []], [['A'], ['B']], [['B'], ['a']]] .second = .ok lateCopy ∧
    ∃ t, lateCopy.table ['a'] none (fun _ => 0) = .ok t ∧
      Rule.binary ['S'] ['A'] [] ∈ lateCopy.rules ∧ t.splits ['a'] ['A'] [] 0 0 = true ∧
      ['S'] ∉ t.get 0 0 ∧ ¬ lateCopy.IsSaturated ['a'] t := by
  have hlast : ['B'] ∈ (lateCopy.filled ['a']).get 0 0 :=
    mem_filled_of_character (c := 'a') (by decide) (Nat.le_refl 0) (by decide) rfl
  have hcopied : ['A'] ∈ (lateCopy.filled ['a']).get 0 0 :=
    mem_filled_of_unit (b := ['B']) (Nat.le_refl 0) (by decide) (by decide) hlast
  have happlies : (Rule.binary ['S'] ['A'] []).Applies (lateCopy.filled ['a']) ['a'] 0 0 :=
    (Rule.Copies.first ['S'] ['A']).applies (Nat.le_refl 0) (by decide) hcopied
  refine ⟨lateCopy.ofRows_rows, lateCopy.filled ['a'], table_none lateCopy ['a'] _, List.mem_cons_self,
    happlies, start_not_mem_filled_lateCopy, fun hsaturated => start_not_mem_filled_lateCopy ?_⟩
  exact hsaturated 0 0 (Nat.le_refl 0) (by decide) _ List.mem_cons_self happlies

end Grammar

end Chart
