import Chart.Proofs.Grammar.Construction
import Chart.Proofs.Table.Image

/-!
# Proofs/Table/Reachable — rules that the start variable never leads to

A symbol is **reachable** if it is the start variable or stands on the right of a rule whose left-hand side
is reachable.  The other rules may fill cells, but with left-hand sides that no rule of a reachable one
looks up.  So without them the table is the same as far as reachable symbols go.

The reachable symbols are a closure, so they can be computed with what closes cells: a rule asks for the
symbols on its right once its left-hand side is there.

* `Grammar.IsReachable` — the reachable symbols; `mem_reachable_iff` — they are listed.
* `Grammar.trimmed` — the grammar of the rules of reachable symbols; `isImage_trimmed`.
* `isImage_filled_trimmed` — the cells; `table_of_trimmed` — the tables and verdicts.
-/

namespace Chart.Grammar

variable {g : Grammar} {word : Text} {i j : Nat} {a b : Symbol}

/-! ## Reachable symbols -/

/-- **The symbols that the start variable leads to**, itself included. -/
inductive IsReachable (g : Grammar) : Symbol → Prop where
  | start : IsReachable g g.start
  | rule {r : Rule} {x : Symbol} : r ∈ g.rules → IsReachable g r.lhs → x ∈ r.rhs → IsReachable g x

/-- What each rule leads to, with its left-hand side. -/
def leads (g : Grammar) : List (Symbol × Symbol) := g.rules.flatMap fun r => r.rhs.map (·, r.lhs)

/-- The reachable symbols. -/
def reachable (g : Grammar) : List Symbol := Cell.close g.leads [g.start]

theorem mem_leads {x : Symbol} : (x, a) ∈ g.leads ↔ ∃ r ∈ g.rules, r.lhs = a ∧ x ∈ r.rhs := by
  simp only [leads, List.mem_flatMap, List.mem_map, Prod.mk.injEq]
  constructor
  · rintro ⟨r, hr, x, hx, rfl, hlhs⟩
    exact ⟨r, hr, hlhs, hx⟩
  · rintro ⟨r, hr, hlhs, hx⟩
    exact ⟨r, hr, x, hx, rfl, hlhs⟩

/-- **The closure lists the reachable symbols.** -/
theorem mem_reachable_iff : a ∈ g.reachable ↔ g.IsReachable a := by
  constructor
  · have hstart : ∀ b ∈ [g.start], g.IsReachable b :=
      List.forall_mem_singleton.2 IsReachable.start
    refine fun h => Cell.forall_mem_closeFrom (fun r hr hright => ?_) hstart hstart a h
    obtain ⟨q, hq, hlhs, hx⟩ := mem_leads.1 hr
    exact IsReachable.rule hq (hlhs ▸ hright) hx
  · intro h
    induction h with
    | start => exact Cell.mem_close_of_mem List.mem_cons_self
    | @rule r x hr _ hx ih => exact Cell.mem_close_of_rule (mem_leads.2 ⟨r, hr, rfl, hx⟩) ih

instance (g : Grammar) : DecidablePred g.IsReachable := fun _ => decidable_of_iff _ mem_reachable_iff

theorem IsReachable.unit (h : g.IsReachable a) (hr : Rule.unit a b ∈ g.rules) : g.IsReachable b :=
  IsReachable.rule hr h List.mem_cons_self

theorem IsReachable.first {x y : Symbol} (h : g.IsReachable a) (hr : Rule.binary a x y ∈ g.rules) :
    g.IsReachable x :=
  IsReachable.rule hr h List.mem_cons_self

theorem IsReachable.second {x y : Symbol} (h : g.IsReachable a) (hr : Rule.binary a x y ∈ g.rules) :
    g.IsReachable y :=
  IsReachable.rule hr h (List.mem_cons_of_mem x List.mem_cons_self)

/-! ## The grammar without the other rules -/

/-- The rules of reachable symbols, in their order. -/
def reachableRules (g : Grammar) : List Rule := g.rules.filter fun r => decide (g.IsReachable r.lhs)

theorem mem_reachableRules {r : Rule} : r ∈ g.reachableRules ↔ r ∈ g.rules ∧ g.IsReachable r.lhs :=
  List.mem_filter.trans (and_congr_right fun _ => decide_eq_true_iff)

/-- A reachable symbol is a variable with or without the other rules. -/
theorem mem_lhs_reachableRules_iff (ha : g.IsReachable a) :
    a ∈ g.reachableRules.map Rule.lhs ↔ a ∈ g.rules.map Rule.lhs := by
  simp only [List.mem_map, mem_reachableRules]
  constructor
  · rintro ⟨r, ⟨hr, -⟩, hlhs⟩
    exact ⟨r, hr, hlhs⟩
  · rintro ⟨r, hr, rfl⟩
    exact ⟨r, ⟨hr, ha⟩, rfl⟩

/-- So a rule of Chomsky shape keeps it. -/
theorem isChomsky_reachableRules {r : Rule} (hr : r ∈ g.rules) (hlhs : g.IsReachable r.lhs)
    (h : Row.IsChomsky (g.rules.map Rule.lhs) g.start r.lhs r.rhs) :
    Row.IsChomsky (g.reachableRules.map Rule.lhs) g.start r.lhs r.rhs := by
  cases r with
  | epsilon a => exact h
  | unit a x => exact fun hx => h ((mem_lhs_reachableRules_iff (hlhs.unit hr)).1 hx)
  | binary a x y =>
    exact ⟨(mem_lhs_reachableRules_iff (hlhs.first hr)).2 h.1,
      (mem_lhs_reachableRules_iff (hlhs.second hr)).2 h.2⟩

theorem reachableRules_ne_nil (g : Grammar) : g.reachableRules ≠ [] :=
  List.ne_nil_of_mem (mem_reachableRules.2 ⟨List.head_mem g.rules_ne_nil, IsReachable.start⟩)

/-- The first rule stays the first one. -/
theorem head_reachableRules (g : Grammar) :
    g.reachableRules.head g.reachableRules_ne_nil = g.rules.head g.rules_ne_nil :=
  List.head_filter_of_pos g.rules_ne_nil (decide_eq_true IsReachable.start)

/-- **A grammar without the rules of symbols that are not reachable.** -/
def trimmed (g : Grammar) : Grammar where
  rules := g.reachableRules
  normalForm := g.normalForm
  rules_ne_nil := g.reachableRules_ne_nil
  conforms := by
    intro hform r hr
    obtain ⟨hmem, hlhs⟩ := mem_reachableRules.1 hr
    rw [head_reachableRules]
    exact isChomsky_reachableRules hmem hlhs (g.conforms hform r hmem)

theorem start_trimmed (g : Grammar) : g.trimmed.start = g.start :=
  congrArg Rule.lhs g.head_reachableRules

theorem mem_unitRules_trimmed {a b : Symbol} :
    (a, b) ∈ g.trimmed.unitRules ↔ (a, b) ∈ g.unitRules ∧ g.IsReachable a := by
  rw [mem_unitRules, mem_unitRules]
  exact mem_reachableRules

theorem binaryRules_trimmed (g : Grammar) :
    g.trimmed.binaryRules = g.binaryRules.filter fun r => decide (g.IsReachable r.1) := by
  have hrules : g.trimmed.rules = g.rules.filter fun r => decide (g.IsReachable r.lhs) := rfl
  rw [binaryRules, binaryRules, hrules, List.filterMap_filter, List.filter_filterMap]
  refine List.filterMap_congr fun r _ => ?_
  cases r with
  | epsilon a => exact ite_self none
  | unit a x => exact ite_self none
  | binary a x y => rfl

/-- **Without the other rules the symbols that count are the reachable ones**, under their own names. -/
theorem isImage_trimmed (g : Grammar) : IsImage g.IsReachable id id g g.trimmed where
  injective := Function.injective_id
  name_eq_character _ _ := Iff.rfl
  closed _ hr h := h.unit (mem_unitRules.1 hr)
  mem_unitRules_iff := by
    rintro ⟨a, b⟩
    rw [mem_unitRules_trimmed]
    constructor
    · exact fun ⟨hr, ha⟩ => ⟨(a, b), hr, ha, rfl⟩
    · rintro ⟨r, hr, ha, heq⟩
      obtain rfl : r = (a, b) := heq
      exact ⟨hr, ha⟩
  binaryRules_eq := by rw [binaryRules_trimmed, List.map_id]
  lhs_eq _ := rfl
  start := IsReachable.start
  start_eq := g.start_trimmed
  epsilon_iff := by
    rw [start_trimmed]
    exact mem_reachableRules.trans (and_iff_left IsReachable.start)

/-! ## The filled tables -/

/-- Every span corresponds to itself. -/
theorem spansCorrespond_self (word : Text) :
    SpansCorrespond (fun i j i' j' => i = i' ∧ j = j') word word where
  isSpan i j i' j' h hij hj := by
    obtain ⟨rfl, rfl⟩ := h
    exact ⟨hij, hj⟩
  place_iff i j i' j' h k m k' m' hk := by
    obtain ⟨⟨rfl, rfl⟩, rfl, rfl⟩ := And.intro h hk
    exact Iff.rfl
  diagonal_iff i j i' j' h := by
    obtain ⟨rfl, rfl⟩ := h
    exact Iff.rfl
  character_eq i j i' j' h _ _ := by rw [h.1]

/-- **Each cell loses the symbols that are not reachable, and nothing else.** -/
theorem isImage_filled_trimmed (hij : i ≤ j) (hj : j < word.length) :
    Cell.IsImage g.IsReachable id ((g.filled word).get i j) ((g.trimmed.filled word).get i j) := by
  refine g.isImage_trimmed.get_filled (spansCorrespond_self word) ?_ hij hj ⟨rfl, rfl⟩
  rintro i j _ _ ⟨rfl, rfl⟩ hij hj r hr hlhs t t' hwithin
  have hbinary : Rule.binary r.1 r.2.1 r.2.2 ∈ g.rules := mem_binaryRules.1 hr
  refine Table.splits_congr hj (fun k hik hkj _ => ?_) fun k hik hkj _ => ?_
  · have himage := hwithin i k i k (Nat.le_refl i) hik hkj ⟨rfl, rfl⟩
    exact himage.mem_iff Function.injective_id (hlhs.first hbinary)
  · have himage := hwithin k j k j hik hkj (Nat.le_refl j) ⟨rfl, rfl⟩
    exact himage.mem_iff Function.injective_id (hlhs.second hbinary)

theorem mem_filled_trimmed_iff (i j : Nat) :
    a ∈ (g.trimmed.filled word).get i j ↔ a ∈ (g.filled word).get i j ∧ g.IsReachable a := by
  by_cases hij : i ≤ j ∧ j < word.length
  · rw [isImage_filled_trimmed hij.1 hij.2 a]
    simp only [id, exists_eq_right_right]
  · rw [get_filled_eq_nil hij, get_filled_eq_nil hij]
    simp only [List.not_mem_nil, false_and]

theorem verdict_trimmed (g : Grammar) (word : Text) : g.trimmed.verdict word = g.verdict word := by
  refine g.isImage_trimmed.verdict_eq rfl fun hword => ?_
  have hpos : 0 < word.length := List.length_pos_iff.2 hword
  exact isImage_filled_trimmed (Nat.zero_le _) (by omega)

/-- **Rules that the start variable never leads to do not matter**, whatever texts the symbols are.  Without
them every cell of the table keeps its reachable symbols and loses all others, and the same words are
accepted, the empty word included. -/
theorem table_of_trimmed (g : Grammar) (word : Text) (clock : Clock) :
    ofRows ((g.rules.filter fun r => decide (g.IsReachable r.lhs)).map Rule.symbols) g.normalForm =
      .ok g.trimmed ∧
    ∃ t t' isIn, g.table word none clock = .ok t ∧ g.trimmed.table word none clock = .ok t' ∧
      (∀ i j a, a ∈ t'.get i j ↔ a ∈ t.get i j ∧ g.IsReachable a) ∧
      g.accepts word none clock = .ok isIn ∧ g.trimmed.accepts word none clock = .ok isIn := by
  refine ⟨g.trimmed.ofRows_rows, g.filled word, g.trimmed.filled word, g.verdict word,
    table_none g word clock, table_none g.trimmed word clock, fun i j a => ?_,
    accepts_none g word clock, ?_⟩
  · exact mem_filled_trimmed_iff i j
  · rw [accepts_none, verdict_trimmed]

end Chart.Grammar
