import Chart.Proofs.Grammar.Construction
import Chart.Proofs.Table.Image

/-!
# Proofs/Table/Mirror — a grammar read backwards

    a ∈ cell (i, j) of a word  ↔  a read backwards ∈ cell (n-1-j, n-1-i) of the word read backwards

Read backwards, a rule has its symbols read backwards and in the other order.  The mirror image of a span
lies where its places, counted from the other end, are; a symbol at the start of a span is found at the
end of the image (`Table.splits_mirror`).  Cells of one length are filled from left to right in both
tables, so in opposite orders; the equation of the filled table does not know of it.

* `Rule.mirror`, `Grammar.mirror` — reading backwards; `isImage_mirror` — it renames symbols.
* `IsMirrorSpan` — where spans are found in the word read backwards; `isImage_filled_mirror` — the cells.
* `table_of_mirror` — the tables and verdicts.
-/

namespace Chart

/-! ## Reading backwards -/

/-- A rule read backwards. -/
def Rule.mirror : Rule → Rule
  | epsilon a => epsilon a.reverse
  | unit a x => unit a.reverse x.reverse
  | binary a x y => binary a.reverse y.reverse x.reverse

/-- The left-hand side and symbols of a rule with two symbols, read backwards. -/
def Rule.mirrorTriple (r : Symbol × Symbol × Symbol) : Symbol × Symbol × Symbol :=
  (r.1.reverse, r.2.2.reverse, r.2.1.reverse)

namespace Rule

variable {r : Rule}

@[simp] theorem mirror_mirror (r : Rule) : r.mirror.mirror = r := by
  cases r <;> simp [mirror]

theorem mirror_injective : Function.Injective mirror :=
  Function.LeftInverse.injective mirror_mirror

@[simp] theorem lhs_mirror (r : Rule) : r.mirror.lhs = r.lhs.reverse := by
  cases r <;> rfl

theorem unit?_mirror (r : Rule) :
    r.mirror.unit? = r.unit?.map fun r => (r.1.reverse, r.2.reverse) := by
  cases r <;> rfl

theorem binary?_mirror (r : Rule) : r.mirror.binary? = r.binary?.map mirrorTriple := by
  cases r <;> rfl

/-- A rule of Chomsky shape keeps it. -/
theorem isChomsky_mirror {vars : List Symbol} {start : Symbol}
    (h : Row.IsChomsky vars start r.lhs r.rhs) :
    Row.IsChomsky (vars.map List.reverse) start.reverse r.mirror.lhs r.mirror.rhs := by
  have hmem : ∀ x : Symbol, x.reverse ∈ vars.map List.reverse ↔ x ∈ vars := fun x =>
    List.mem_map_of_injective List.reverse_injective
  cases r with
  | epsilon a => exact congrArg List.reverse h
  | unit a x => exact fun hx => h ((hmem x).1 hx)
  | binary a x y => exact ⟨(hmem y).2 h.2, (hmem x).2 h.1⟩

end Rule

namespace Grammar

variable {g : Grammar} {word : Text} {i i' j j' : Nat}

/-- **A grammar read backwards**: its rules, each read backwards, in their order. -/
def mirror (g : Grammar) : Grammar where
  rules := g.rules.map Rule.mirror
  normalForm := g.normalForm
  rules_ne_nil := fun h => g.rules_ne_nil (List.map_eq_nil_iff.1 h)
  conforms := by
    intro hform r' hr'
    obtain ⟨r, hr, rfl⟩ := List.mem_map.1 hr'
    have hlhs : (g.rules.map Rule.mirror).map Rule.lhs = (g.rules.map Rule.lhs).map List.reverse := by
      rw [List.map_map, List.map_map]
      exact List.map_congr_left fun r _ => r.lhs_mirror
    rw [hlhs, List.head_map, Rule.lhs_mirror]
    exact Rule.isChomsky_mirror (g.conforms hform r hr)

theorem start_mirror (g : Grammar) : g.mirror.start = g.start.reverse := by
  rw [start, start, mirror, List.head_map, Rule.lhs_mirror]

theorem mem_unitRules_mirror_iff {r' : Symbol × Symbol} : r' ∈ g.mirror.unitRules ↔
    ∃ r ∈ g.unitRules, (r.1.reverse, r.2.reverse) = r' := by
  have hunit : g.mirror.unitRules = g.unitRules.map fun r => (r.1.reverse, r.2.reverse) := by
    rw [unitRules, unitRules, mirror, List.filterMap_map, List.map_filterMap]
    exact List.filterMap_congr fun r _ => r.unit?_mirror
  rw [hunit, List.mem_map]

theorem binaryRules_mirror (g : Grammar) :
    g.mirror.binaryRules = g.binaryRules.map Rule.mirrorTriple := by
  rw [binaryRules, binaryRules, mirror, List.filterMap_map, List.map_filterMap]
  exact List.filterMap_congr fun r _ => r.binary?_mirror

/-- **Reading backwards renames the symbols**, every one of them. -/
theorem isImage_mirror (g : Grammar) :
    IsImage (fun _ => True) List.reverse Rule.mirrorTriple g g.mirror where
  injective := List.reverse_injective
  name_eq_character x c := List.reverse_eq_iff
  closed _ _ _ := trivial
  mem_unitRules_iff r' := by simp only [mem_unitRules_mirror_iff, true_and]
  binaryRules_eq := by
    rw [binaryRules_mirror, List.filter_eq_self.2 fun _ _ => decide_eq_true trivial]
  lhs_eq _ := rfl
  start := trivial
  start_eq := g.start_mirror
  epsilon_iff := by
    have hepsilon : Rule.epsilon g.mirror.start = (Rule.epsilon g.start).mirror :=
      congrArg Rule.epsilon g.start_mirror
    rw [hepsilon]
    exact List.mem_map_of_injective Rule.mirror_injective

end Grammar

/-! ## Two symbols and the mirror image of a span -/

namespace Table

variable {t t' : Table} {word : Text} {x y : Symbol} {i i' j j' : Nat}

/-- What two symbols cover, they cover read backwards in the mirror image of the span. -/
theorem splits_reverse (hij : i ≤ j) (hi : i + i' + 1 = word.length) (hj : j + j' + 1 = word.length)
    (hx : ∀ k k', i ≤ k → k ≤ j → k + k' + 1 = word.length →
      x ∈ t.get i k → x.reverse ∈ t'.get k' i')
    (hy : ∀ k k', i ≤ k → k ≤ j → k + k' + 1 = word.length →
      y ∈ t.get k j → y.reverse ∈ t'.get j' k')
    (h : t.splits word x y i j = true) :
    t'.splits word.reverse y.reverse x.reverse j' i' = true := by
  have hlength : word.reverse.length = word.length := List.length_reverse
  have hslice : Text.slice word.reverse j' i' = (word.slice i j).reverse := Text.slice_reverse hij hi hj
  rw [splits_iff (by omega)] at h
  rw [splits_iff (by omega), hslice, List.length_reverse, List.length_reverse]
  rcases h with ⟨k, hik, hkj, hxk, hyk⟩ | ⟨hle, htext, hyk⟩ | ⟨hle, htext, hxk⟩ | htext
  · have hxk' := hx k (i' - (k - i)) hik (by omega) (by omega) hxk
    have hyk' := hy (k + 1) (i' - (k - i) - 1) (by omega) hkj (by omega) hyk
    refine Or.inl ⟨i' - (k - i) - 1, by omega, by omega, hyk', ?_⟩
    rwa [Nat.sub_add_cancel (by omega)]
  -- a text at the start stands at the end of the image, and the other way round
  · have hrest : Text.slice word.reverse j' (i' - x.length) =
        (word.slice (i + x.length) j).reverse := Text.slice_reverse hle (by omega) hj
    refine Or.inr (Or.inr (Or.inl ⟨by omega, ?_, hy _ _ (by omega) hle (by omega) hyk⟩))
    rw [htext, List.reverse_append, hrest]
  · have hrest : Text.slice word.reverse (j' + y.length) i' =
        (word.slice i (j - y.length)).reverse := Text.slice_reverse (by omega) hi (by omega)
    refine Or.inr (Or.inl ⟨by omega, ?_, hx _ _ (by omega) (by omega) (by omega) hxk⟩)
    rw [htext, List.reverse_append, hrest]
  · rw [htext, List.reverse_append]
    exact Or.inr (Or.inr (Or.inr rfl))

/-- **Two symbols cover a span exactly if they cover its mirror image** read backwards. -/
theorem splits_mirror (hij : i ≤ j) (hi : i + i' + 1 = word.length) (hj : j + j' + 1 = word.length)
    (hx : ∀ k k', i ≤ k → k ≤ j → k + k' + 1 = word.length →
      (x.reverse ∈ t'.get k' i' ↔ x ∈ t.get i k))
    (hy : ∀ k k', i ≤ k → k ≤ j → k + k' + 1 = word.length →
      (y.reverse ∈ t'.get j' k' ↔ y ∈ t.get k j)) :
    t'.splits word.reverse y.reverse x.reverse j' i' = t.splits word x y i j := by
  have hlength : word.reverse.length = word.length := List.length_reverse
  rw [Bool.eq_iff_iff]
  constructor
  · intro h
    have hback : t.splits word.reverse.reverse x.reverse.reverse y.reverse.reverse i j = true := by
      refine splits_reverse (by omega) (by omega) (by omega) ?_ ?_ h
      · intro k k' hjk hki hk hmem
        rw [List.reverse_reverse]
        exact (hy k' k (by omega) (by omega) (by omega)).1 hmem
      · intro k k' hjk hki hk hmem
        rw [List.reverse_reverse]
        exact (hx k' k (by omega) (by omega) (by omega)).1 hmem
    rwa [List.reverse_reverse, List.reverse_reverse, List.reverse_reverse] at hback
  · exact splits_reverse hij hi hj (fun k k' hik hkj hk => (hx k k' hik hkj hk).2)
      fun k k' hik hkj hk => (hy k k' hik hkj hk).2

end Table

namespace Grammar

variable {g : Grammar} {word : Text} {i i' j j' : Nat}

/-! ## The filled tables -/

/-- The place of a span in the word read backwards. -/
def IsMirrorSpan (word : Text) (i j i' j' : Nat) : Prop :=
  i + j' + 1 = word.length ∧ j + i' + 1 = word.length

theorem spansCorrespond_mirror (word : Text) :
    SpansCorrespond (IsMirrorSpan word) word word.reverse where
  isSpan i j i' j' h hij hj := by
    obtain ⟨hi, hj'⟩ := h
    rw [List.length_reverse]
    omega
  place_iff i j i' j' h k m k' m' hk := by
    obtain ⟨⟨hi, hj⟩, hk, hm⟩ := And.intro h hk
    omega
  diagonal_iff i j i' j' h := by
    obtain ⟨hi, hj⟩ := h
    omega
  character_eq i j i' j' h hij hj := by
    obtain ⟨hi, hj'⟩ := h
    rw [List.getElem?_reverse (by omega)]
    exact congrArg (word[·]?) (by omega)

/-- **Each cell is the cell of the mirror image, read backwards.** -/
theorem isImage_filled_mirror (hij : i ≤ j) (hj : j < word.length) (h : IsMirrorSpan word i j i' j') :
    Cell.IsImage (fun _ => True) List.reverse ((g.filled word).get i j)
      ((g.mirror.filled word.reverse).get i' j') := by
  refine g.isImage_mirror.get_filled (spansCorrespond_mirror word) ?_ hij hj h
  intro i j i' j' hspan hij hj r _ _ t t' hwithin
  obtain ⟨hi, hj'⟩ := hspan
  refine Table.splits_mirror hij hi hj' (fun k k' hik hkj hk => ?_) fun k k' hik hkj hk => ?_
  · exact (hwithin i k k' j' (Nat.le_refl i) hik hkj ⟨hi, hk⟩).mem_iff List.reverse_injective trivial
  · exact (hwithin k j i' k' hik hkj (Nat.le_refl j) ⟨hk, hj'⟩).mem_iff List.reverse_injective trivial

theorem verdict_mirror (g : Grammar) (word : Text) : g.mirror.verdict word.reverse = g.verdict word := by
  refine g.isImage_mirror.verdict_eq List.length_reverse fun hword => ?_
  have hpos : 0 < word.length := List.length_pos_iff.2 hword
  exact isImage_filled_mirror (Nat.zero_le _) (by omega) ⟨by omega, by omega⟩

/-- **A grammar read backwards has the table of the word read backwards**, whatever texts the symbols are:
the cell that lies as the cell of a span does, counted from the other end, holds the symbols of that cell
read backwards.  So the one grammar accepts a word exactly if the other accepts the word read backwards. -/
theorem table_of_mirror (g : Grammar) (word : Text) (clock : Clock) :
    ofRows (g.rules.map fun r => r.mirror.symbols) g.normalForm = .ok g.mirror ∧
    ∃ t t' isIn, g.table word none clock = .ok t ∧ g.mirror.table word.reverse none clock = .ok t' ∧
      (∀ i j, i ≤ j → j < word.length → ∀ b,
        b ∈ t'.get (word.length - 1 - j) (word.length - 1 - i) ↔ ∃ a ∈ t.get i j, a.reverse = b) ∧
      g.accepts word none clock = .ok isIn ∧ g.mirror.accepts word.reverse none clock = .ok isIn := by
  have hrows : g.mirror.rows = g.rules.map fun r => r.mirror.symbols := by
    rw [rows, mirror, List.map_map]
    rfl
  refine ⟨hrows ▸ g.mirror.ofRows_rows, g.filled word, g.mirror.filled word.reverse, g.verdict word,
    table_none g word clock, table_none g.mirror word.reverse clock, fun i j hij hj b => ?_,
    accepts_none g word clock, ?_⟩
  · have hspan : IsMirrorSpan word i j (word.length - 1 - j) (word.length - 1 - i) :=
      ⟨by omega, by omega⟩
    rw [isImage_filled_mirror hij hj hspan b]
    simp only [true_and]
  · rw [accepts_none, verdict_mirror]

end Grammar

end Chart
