import Chart.Proofs.Table.Filled
import Chart.Proofs.Grammar.Parsed
import Chart.Grammar.Derivation

/-!
# Proofs/Table/Exact — the entries of the membership table are what a symbol yields

    a ∈ cell (i, j)  ↔  a yields the span from i to j

Left to right, by the length of the span: the filling of a cell adds a symbol only on account of shorter
spans, of the texts of symbols, or of the cell itself.  Right to left, along the derivation: where no
symbol is the empty text a yield is never empty, so the two parts of a rule with two symbols are spans
to which the equation of the filled table applies.
-/

namespace Chart.Grammar

variable {g : Grammar} {word : Text} {i j : Nat} {a : Symbol}

/-- Putting a cell into the filled table changes no other one. -/
theorem get_put_filled {k m : Nat} {cell : Cell} (hi : i < word.length) (hj : j < word.length)
    (hne : ¬(k = i ∧ m = j)) :
    ((g.filled word).put i j cell).get k m = (g.filled word).get k m := by
  rw [(isSquare_filled g word).get_put hi hj, if_neg hne]

theorem get_put_filled_self {cell : Cell} (hi : i < word.length) (hj : j < word.length) :
    ((g.filled word).put i j cell).get i j = cell := by
  rw [(isSquare_filled g word).get_put hi hj, if_pos ⟨rfl, rfl⟩]

/-! ## Entries are yields -/

/-- A rule yields the span that its symbols cover, by entries that yield their spans. -/
theorem yields_of_splits {t : Table} {x y : Symbol} (hj : j < word.length)
    (hentry : ∀ c k m, i ≤ k → k ≤ m → m ≤ j → c ∈ t.get k m → g.Yields c (word.slice k m))
    (hr : Rule.binary a x y ∈ g.rules) (h : t.splits word x y i j = true) :
    g.Yields a (word.slice i j) := by
  rcases (Table.splits_iff hj).1 h with
    ⟨k, hik, hkj, hx, hy⟩ | ⟨hle, hslice, hy⟩ | ⟨hle, hslice, hx⟩ | hslice
  · rw [← Text.slice_append hik (Nat.le_of_lt hkj)]
    exact Yields.binary hr (hentry x i k (Nat.le_refl _) hik (by omega) hx)
      (hentry y (k + 1) j (by omega) hkj (Nat.le_refl _) hy)
  · rw [hslice]
    exact Yields.literalFirst hr (hentry y _ j (by omega) hle (Nat.le_refl _) hy)
  · rw [hslice]
    exact Yields.literalSecond hr (hentry x i _ (Nat.le_refl _) (by omega) (by omega) hx)
  · rw [hslice]
    exact Yields.literalBoth hr

/-- **An entry yields its span**, whatever texts the symbols are. -/
theorem yields_of_mem_filled (hij : i ≤ j) (hj : j < word.length)
    (h : a ∈ (g.filled word).get i j) : g.Yields a (word.slice i j) := by
  induction hlen : j - i using Nat.strongRecOn generalizing i j a with
  | ind len ih =>
    have hi : i < word.length := by omega
    rw [get_filled hij hj] at h
    refine forall_mem_filling (P := fun b => g.Yields b (word.slice i j)) ?_ ?_ ?_ a h
    · intro b hb
      obtain ⟨rfl, c, hc, hr⟩ := (mem_get_seed hi hj).1 hb
      rw [Text.slice_self_eq_iff.2 hc]
      exact Yields.character hr
    · intro b x y hr cell hcell hsplits
      refine yields_of_splits hj ?_ hr hsplits
      intro c k m hik hkm hmj hc
      -- An empty symbol leaves the whole span to the other one, which then reads the cell itself.
      by_cases hspan : k = i ∧ m = j
      · obtain ⟨rfl, rfl⟩ := hspan
        rw [get_put_filled_self hi hj] at hc
        exact hcell c hc
      · rw [get_put_filled hi hj hspan] at hc
        exact ih (m - k) (by omega) hkm (by omega) hc rfl
    · intro b c hr hc
      exact Yields.unit hr hc

/-! ## Yields are entries -/

/-- **Where no symbol is the empty text, no yield is empty.** -/
theorem Yields.ne_nil (hg : g.HasNoEmptySymbol) {w : Text} (h : g.Yields a w) : w ≠ [] := by
  induction h with
  | character => exact List.cons_ne_nil _ _
  | unit _ _ ih => exact ih
  | binary _ _ _ ih _ => exact List.append_ne_nil_of_left_ne_nil ih _
  | literalFirst _ _ ih => exact List.append_ne_nil_of_right_ne_nil _ ih
  | literalSecond _ _ ih => exact List.append_ne_nil_of_left_ne_nil ih _
  | literalBoth hr => exact List.append_ne_nil_of_left_ne_nil (hg.first hr) _

/-- A rule whose symbols cover a span, by the entries of shorter spans and by texts, adds its left-hand
side to the cell. -/
theorem mem_filled_of_binary (hij : i ≤ j) (hj : j < word.length) {x y : Symbol}
    (hr : Rule.binary a x y ∈ g.rules)
    (h : ((g.filled word).put i j ((g.seed word).get i j)).splits word x y i j = true) :
    a ∈ (g.filled word).get i j := by
  rw [get_filled hij hj]
  exact mem_filling_of_binary (isSquare_filled g word) hij hj hr h

/-- The filled table is closed under the unit rules. -/
theorem mem_filled_of_unit {b : Symbol} (hij : i ≤ j) (hj : j < word.length)
    (hr : Rule.unit a b ∈ g.rules) (h : b ∈ (g.filled word).get i j) :
    a ∈ (g.filled word).get i j := by
  rw [get_filled hij hj] at h ⊢
  exact mem_filling_of_unit hr h

/-- What stands for a character is an entry where the character is. -/
theorem mem_filled_of_character {c : Char} (hr : Rule.unit a [c] ∈ g.rules) (hij : i ≤ j)
    (hj : j < word.length) (hw : word.slice i j = [c]) : a ∈ (g.filled word).get i j := by
  have hlen := Text.length_slice hj hij
  rw [hw, List.length_singleton] at hlen
  -- one character is a span of one position
  obtain rfl : i = j := by omega
  rw [get_filled hij hj]
  exact mem_filling_of_mem ((mem_get_seed hj hj).2 ⟨rfl, c, Text.slice_self_eq_iff.1 hw, hr⟩)

/-- Two symbols that are entries wherever their parts of a span are make their rule add to its cell. -/
theorem mem_filled_of_parts {x y : Symbol} {u v : Text} (hr : Rule.binary a x y ∈ g.rules)
    (hu : u ≠ []) (hv : v ≠ [])
    (hx : ∀ {i j}, i ≤ j → j < word.length → word.slice i j = u → x ∈ (g.filled word).get i j)
    (hy : ∀ {i j}, i ≤ j → j < word.length → word.slice i j = v → y ∈ (g.filled word).get i j)
    (hij : i ≤ j) (hj : j < word.length) (hw : word.slice i j = u ++ v) :
    a ∈ (g.filled word).get i j := by
  obtain ⟨hle, hfirst, hsecond⟩ := Text.eq_slice_of_append hj hij hw hu hv
  have hpos : 0 < u.length := List.length_pos_iff.2 hu
  have hxmem : x ∈ (g.filled word).get i (i + u.length - 1) := hx (by omega) (by omega) hfirst.symm
  have hymem : y ∈ (g.filled word).get (i + u.length) j := hy hle hj hsecond.symm
  refine mem_filled_of_binary hij hj hr ((Table.splits_iff hj).2 (Or.inl ?_))
  refine ⟨i + u.length - 1, by omega, by omega, ?_, ?_⟩
  · rwa [get_put_filled (by omega) hj (by omega)]
  · rwa [get_put_filled (by omega) hj (by omega), Nat.sub_add_cancel (by omega)]

/-- **What a symbol yields, it is an entry for**, where no symbol is the empty text. -/
theorem mem_filled_of_yields (hg : g.HasNoEmptySymbol) {w : Text} (h : g.Yields a w) (hij : i ≤ j)
    (hj : j < word.length) (hw : word.slice i j = w) : a ∈ (g.filled word).get i j := by
  induction h generalizing i j with
  | character hr => exact mem_filled_of_character hr hij hj hw
  | unit hr _ ih => exact mem_filled_of_unit hij hj hr (ih hij hj hw)
  | binary hr hu hv ihu ihv =>
    exact mem_filled_of_parts hr (hu.ne_nil hg) (hv.ne_nil hg) ihu ihv hij hj hw
  | @literalFirst a x y v hr hv ihv =>
    obtain ⟨hle, hfirst, hsecond⟩ := Text.eq_slice_of_append hj hij hw (hg.first hr) (hv.ne_nil hg)
    have hpos : 0 < x.length := List.length_pos_iff.2 (hg.first hr)
    have hy : y ∈ (g.filled word).get (i + x.length) j := ihv hle hj hsecond.symm
    refine mem_filled_of_binary hij hj hr ((Table.splits_iff hj).2 (Or.inr (Or.inl ⟨hle, ?_, ?_⟩)))
    · rw [hw, ← hsecond]
    · rwa [get_put_filled (by omega) hj (by omega)]
  | @literalSecond a x y u hr hu ihu =>
    obtain ⟨hle, hfirst, hsecond⟩ := Text.eq_slice_of_append hj hij hw (hu.ne_nil hg) (hg.second hr)
    have hpos : 0 < u.length := List.length_pos_iff.2 (hu.ne_nil hg)
    have hypos : 0 < y.length := List.length_pos_iff.2 (hg.second hr)
    have hlen := Text.length_slice hj hij
    rw [hw, List.length_append] at hlen
    have hend : j - y.length = i + u.length - 1 := by omega
    have hx : x ∈ (g.filled word).get i (j - y.length) := by
      rw [hend]
      exact ihu (by omega) (by omega) hfirst.symm
    refine mem_filled_of_binary hij hj hr
      ((Table.splits_iff hj).2 (Or.inr (Or.inr (Or.inl ⟨by omega, ?_, ?_⟩))))
    · rw [hw, hend, ← hfirst]
    · rwa [get_put_filled (by omega) hj (by omega)]
  | literalBoth hr =>
    exact mem_filled_of_binary hij hj hr ((Table.splits_iff hj).2 (Or.inr (Or.inr (Or.inr hw))))

/-- **The entries of the filled table are the yields of the spans.** -/
theorem mem_filled_iff_yields (hg : g.HasNoEmptySymbol) (hij : i ≤ j) (hj : j < word.length) :
    a ∈ (g.filled word).get i j ↔ g.Yields a (word.slice i j) :=
  ⟨yields_of_mem_filled hij hj, fun h => mem_filled_of_yields hg h hij hj rfl⟩

/-! ## Verdicts -/

/-- Whether a word is in the language of a grammar, by the filled table unless the word is empty. -/
def verdict (g : Grammar) (word : Text) : Bool :=
  match word with
  | [] => g.hasEpsilonStartRule
  | word => g.startsIn word (g.filled word)

theorem accepts_of_ne_nil {limit : Option Rat} {clock : Clock} (hword : word ≠ []) :
    g.accepts word limit clock = (g.table word limit clock).map (g.startsIn word) := by
  cases word with
  | nil => exact absurd rfl hword
  | cons => rfl

theorem accepts_none (g : Grammar) (word : Text) (clock : Clock) :
    g.accepts word none clock = .ok (g.verdict word) := by
  cases word with
  | nil => rfl
  | cons c word => exact congrArg (Except.map _) (table_none g (c :: word) clock)

/-- Where there is a verdict there is a table. -/
theorem exists_table_of_accepts {limit : Option Rat} {clock : Clock} {isIn : Bool}
    (h : g.accepts word limit clock = .ok isIn) : ∃ t, g.table word limit clock = .ok t := by
  cases word with
  | nil => exact ⟨_, rfl⟩
  | cons c word =>
    rw [accepts_of_ne_nil (List.cons_ne_nil c word)] at h
    cases htable : g.table (c :: word) limit clock with
    | error late => rw [htable] at h; exact nomatch h
    | ok t => exact ⟨t, rfl⟩

/-- A time limit decides whether there is a verdict, but not which. -/
theorem eq_verdict_of_accepts {limit : Option Rat} {clock : Clock} {isIn : Bool}
    (h : g.accepts word limit clock = .ok isIn) : isIn = g.verdict word := by
  cases word with
  | nil => exact (Except.ok.inj h).symm
  | cons c word =>
    have hmap : (g.table (c :: word) limit clock).map (g.startsIn (c :: word)) = .ok isIn := h
    cases htable : g.table (c :: word) limit clock with
    | error late => rw [htable] at hmap; exact nomatch hmap
    | ok t =>
      rw [htable, eq_filled_of_table htable] at hmap
      exact (Except.ok.inj hmap).symm

theorem verdict_nil_iff : g.verdict [] = true ↔ Rule.epsilon g.start ∈ g.rules := decide_eq_true_iff

theorem verdict_iff_mem (hword : word ≠ []) :
    g.verdict word = true ↔ g.start ∈ (g.filled word).get 0 (word.length - 1) := by
  cases word with
  | nil => exact absurd rfl hword
  | cons => exact decide_eq_true_iff

/-- What is accepted is yielded by the start variable, whatever texts the symbols are. -/
theorem yields_of_verdict (hword : word ≠ []) (h : g.verdict word = true) :
    g.Yields g.start word := by
  have hpos : 0 < word.length := List.length_pos_iff.2 hword
  have hyields := yields_of_mem_filled (Nat.zero_le _) (by omega) ((verdict_iff_mem hword).1 h)
  rwa [Text.slice_whole hword] at hyields

/-- **A word that is not empty is accepted exactly if the start variable yields it.** -/
theorem verdict_iff_yields (hg : g.HasNoEmptySymbol) (hword : word ≠ []) :
    g.verdict word = true ↔ g.Yields g.start word := by
  have hpos : 0 < word.length := List.length_pos_iff.2 hword
  rw [verdict_iff_mem hword, mem_filled_iff_yields hg (Nat.zero_le _) (by omega),
    Text.slice_whole hword]

/-- **The membership table is exact.**  Every grammar and every word have a table; an entry of it
yields its span, and where no symbol is the empty text, as in every grammar that was parsed, the cells
are the yields and a word that is not empty is accepted exactly if the start variable yields it. -/
theorem table_entries_iff_yields (g : Grammar) (word : Text) (clock : Clock) :
    ∃ t, g.table word none clock = .ok t ∧
      (∀ i j, i ≤ j → j < word.length → ∀ a ∈ t.get i j, g.Yields a (word.slice i j)) ∧
      (g.HasNoEmptySymbol →
        (∀ i j, i ≤ j → j < word.length → ∀ a, a ∈ t.get i j ↔ g.Yields a (word.slice i j)) ∧
        (word ≠ [] → ∃ isIn, g.accepts word none clock = .ok isIn ∧
          (isIn = true ↔ g.Yields g.start word))) ∧
      ∀ text form, parse text form = .ok g → g.HasNoEmptySymbol := by
  refine ⟨g.filled word, table_none g word clock, ?_, ?_, ?_⟩
  · intro i j hij hj a ha
    exact yields_of_mem_filled hij hj ha
  · intro hg
    refine ⟨?_, ?_⟩
    · intro i j hij hj a
      exact mem_filled_iff_yields hg hij hj
    · intro hword
      exact ⟨g.verdict word, accepts_none g word clock, verdict_iff_yields hg hword⟩
  · intro text form h
    exact hasNoEmptySymbol_of_parse h

end Chart.Grammar
