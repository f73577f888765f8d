import Chart.Proofs.Table.Exact

/-!
# Proofs/Table/Image — the same cells under other names

A grammar may have the rules of another one whose left-hand sides **count**, in their order but under other
names.  Then each of its cells holds the names of the entries that count and nothing else: what does not
count is in no rule that does.

A rule may read the cell that is being filled, where one of its symbols is the empty text.  So the cells
are compared **rule by rule**; whether two symbols cover a span is left to the grammars at hand.

* `Cell.IsImage` — one cell under other names; `Cell.IsImage.close` — closing keeps it.
* `SpansCorrespond` — where the cell of each span is found in the other table.
* `Grammar.IsImage` — one grammar under other names; `IsImage.filling` — what a cell becomes;
  `IsImage.get_filled` — the filled tables; `IsImage.verdict_eq` — the verdicts.
-/

namespace Chart

namespace Cell

variable {P : Symbol → Prop} {f : Symbol → Symbol} {cell cell' : Cell} {a : Symbol}

/-- **A cell is the image of another** if its entries are the names of the entries there that count. -/
def IsImage (P : Symbol → Prop) (f : Symbol → Symbol) (cell cell' : Cell) : Prop :=
  ∀ b, b ∈ cell' ↔ ∃ a ∈ cell, P a ∧ f a = b

namespace IsImage

theorem mem_iff (h : IsImage P f cell cell') (hf : Function.Injective f) (ha : P a) :
    f a ∈ cell' ↔ a ∈ cell := by
  rw [h]
  constructor
  · rintro ⟨c, hc, -, heq⟩
    exact hf heq ▸ hc
  · exact fun hmem => ⟨a, hmem, ha, rfl⟩

theorem insert (h : IsImage P f cell cell') (ha : P a) :
    IsImage P f (cell.insert a) (cell'.insert (f a)) := by
  intro b
  rw [List.mem_insert_iff, h]
  constructor
  · rintro (rfl | ⟨c, hc, hP, rfl⟩)
    · exact ⟨a, List.mem_insert_self, ha, rfl⟩
    · exact ⟨c, List.mem_insert_of_mem hc, hP, rfl⟩
  · rintro ⟨c, hc, hP, rfl⟩
    rcases List.mem_insert_iff.1 hc with rfl | hold
    · exact Or.inl rfl
    · exact Or.inr ⟨c, hold, hP, rfl⟩

/-- A symbol that does not count may be added. -/
theorem insert_of_not (h : IsImage P f cell cell') (ha : ¬ P a) : IsImage P f (cell.insert a) cell' := by
  intro b
  rw [h]
  constructor
  · rintro ⟨c, hc, hP, rfl⟩
    exact ⟨c, List.mem_insert_of_mem hc, hP, rfl⟩
  · rintro ⟨c, hc, hP, rfl⟩
    rcases List.mem_insert_iff.1 hc with rfl | hold
    · exact absurd hP ha
    · exact ⟨c, hold, hP, rfl⟩

/-- **Closing keeps images**, whatever rounds it takes: the names of what counts in the one closure are
closed under the rules of the other, and the other way round. -/
theorem close {rules rules' : List (Symbol × Symbol)} (h : IsImage P f cell cell')
    (hf : Function.Injective f)
    (hrules : ∀ r', r' ∈ rules' ↔ ∃ r ∈ rules, P r.1 ∧ (f r.1, f r.2) = r')
    (hclosed : ∀ r ∈ rules, P r.1 → P r.2) :
    IsImage P f (cell.close rules) (cell'.close rules') := by
  have hname : ∀ a ∈ cell.close rules, P a → f a ∈ cell'.close rules' := by
    have hcell : ∀ a ∈ cell, P a → f a ∈ cell'.close rules' := fun a ha hP =>
      mem_close_of_mem ((h _).2 ⟨a, ha, hP, rfl⟩)
    refine forall_mem_closeFrom (fun r hr hright hP => ?_) hcell hcell
    exact mem_close_of_rule ((hrules _).2 ⟨r, hr, hP, rfl⟩) (hright (hclosed r hr hP))
  have hnamed : ∀ b ∈ cell'.close rules', ∃ a ∈ cell.close rules, P a ∧ f a = b := by
    have hcell : ∀ b ∈ cell', ∃ a ∈ cell.close rules, P a ∧ f a = b := by
      intro b hb
      obtain ⟨a, ha, hP, heq⟩ := (h b).1 hb
      exact ⟨a, mem_close_of_mem ha, hP, heq⟩
    refine forall_mem_closeFrom ?_ hcell hcell
    rintro r' hr' ⟨a, ha, -, heq⟩
    obtain ⟨r, hr, hP, rfl⟩ := (hrules r').1 hr'
    obtain rfl : a = r.2 := hf heq
    exact ⟨r.1, mem_close_of_rule hr ha, hP, rfl⟩
  intro b
  constructor
  · exact hnamed b
  · rintro ⟨a, ha, hP, rfl⟩
    exact hname a ha hP

end IsImage

end Cell

namespace Table

variable {P : Symbol → Prop} {f : Symbol → Symbol} {t t' : Table} {cell cell' : Cell}
  {place : Nat → Nat → Nat → Nat → Prop} {i i' j j' : Nat}

/-- **A table is the image of another within a span**, if it has the images of the cells there, each where
its own span has its place. -/
def IsImageWithin (P : Symbol → Prop) (f : Symbol → Symbol) (place : Nat → Nat → Nat → Nat → Prop)
    (i j : Nat) (t t' : Table) : Prop :=
  ∀ k m k' m', i ≤ k → k ≤ m → m ≤ j → place k m k' m' → Cell.IsImage P f (t.get k m) (t'.get k' m')

/-- A cell that is put is the image of the other one that is, and no other cell changes. -/
theorem isImageWithin_put {n n' : Nat} (ht : t.IsSquare n) (ht' : t'.IsSquare n') (hi : i < n)
    (hj : j < n) (hi' : i' < n') (hj' : j' < n') (hcell : Cell.IsImage P f cell cell')
    (hplace : ∀ k m k' m', place k m k' m' → (k' = i' ∧ m' = j' ↔ k = i ∧ m = j))
    (hother : ∀ k m k' m', i ≤ k → k ≤ m → m ≤ j → m - k < j - i → place k m k' m' →
      Cell.IsImage P f (t.get k m) (t'.get k' m')) :
    IsImageWithin P f place i j (t.put i j cell) (t'.put i' j' cell') := by
  intro k m k' m' hik hkm hmj hkm'
  rw [ht.get_put hi hj, ht'.get_put hi' hj']
  by_cases hhere : k = i ∧ m = j
  · rw [if_pos hhere, if_pos ((hplace k m k' m' hkm').2 hhere)]
    exact hcell
  · rw [if_neg hhere, if_neg fun h => hhere ((hplace k m k' m' hkm').1 h)]
    exact hother k m k' m' hik hkm hmj (by omega) hkm'

end Table

/-- **Spans correspond**: each span of a word has a place of its own in another one, and single positions
hold the same character. -/
structure SpansCorrespond (place : Nat → Nat → Nat → Nat → Prop) (word word' : Text) : Prop where
  /-- The place is a span. -/
  isSpan : ∀ i j i' j', place i j i' j' → i ≤ j → j < word.length → i' ≤ j' ∧ j' < word'.length
  /-- No other span has it. -/
  place_iff : ∀ i j i' j', place i j i' j' → ∀ k m k' m', place k m k' m' →
    (k' = i' ∧ m' = j' ↔ k = i ∧ m = j)
  /-- Single positions have their places at single positions. -/
  diagonal_iff : ∀ i j i' j', place i j i' j' → (i' = j' ↔ i = j)
  /-- The character there is the same. -/
  character_eq : ∀ i j i' j', place i j i' j' → i = j → j < word.length → word'[i']? = word[i]?

namespace Grammar

variable {P : Symbol → Prop} [DecidablePred P] {f : Symbol → Symbol}
  {φ : Symbol × Symbol × Symbol → Symbol × Symbol × Symbol} {g h : Grammar} {word word' : Text}
  {t t' : Table} {i i' j j' : Nat} {cell cell' : Cell}

/-- **A grammar is the image of another**: its rules are those there whose left-hand side counts, in their
order, the unit rules under the names of their symbols and the binary rules as `φ` turns them. -/
structure IsImage (P : Symbol → Prop) [DecidablePred P] (f : Symbol → Symbol)
    (φ : Symbol × Symbol × Symbol → Symbol × Symbol × Symbol) (g h : Grammar) : Prop where
  /-- Different symbols have different names. -/
  injective : Function.Injective f
  /-- A single character, and nothing else, is called what it is. -/
  name_eq_character : ∀ x c, f x = [c] ↔ x = [c]
  /-- What stands alone on the right of a rule that counts, counts. -/
  closed : ∀ r ∈ g.unitRules, P r.1 → P r.2
  /-- The unit rules, whatever their order. -/
  mem_unitRules_iff : ∀ r', r' ∈ h.unitRules ↔ ∃ r ∈ g.unitRules, P r.1 ∧ (f r.1, f r.2) = r'
  /-- The binary rules. -/
  binaryRules_eq : h.binaryRules = (g.binaryRules.filter fun r => decide (P r.1)).map φ
  /-- A binary rule keeps its left-hand side, under its name. -/
  lhs_eq : ∀ r, (φ r).1 = f r.1
  /-- The start variable counts. -/
  start : P g.start
  /-- It keeps its part. -/
  start_eq : h.start = f g.start
  /-- It may stand for nothing in both grammars or in neither. -/
  epsilon_iff : Rule.epsilon h.start ∈ h.rules ↔ Rule.epsilon g.start ∈ g.rules

/-- **The binary rules keep images**, one after the other. -/
theorem isImage_foldl_addBinary {rules : List (Symbol × Symbol × Symbol)}
    (hlhs : ∀ r, (φ r).1 = f r.1)
    (hcovers : ∀ r ∈ rules, P r.1 → ∀ cell cell', Cell.IsImage P f cell cell' →
      (t'.put i' j' cell').splits word' (φ r).2.1 (φ r).2.2 i' j' =
        (t.put i j cell).splits word r.2.1 r.2.2 i j)
    (hcell : Cell.IsImage P f cell cell') :
    Cell.IsImage P f (rules.foldl (addBinary word t i j) cell)
      (((rules.filter fun r => decide (P r.1)).map φ).foldl (addBinary word' t' i' j') cell') := by
  induction rules generalizing cell cell' with
  | nil => exact hcell
  | cons r rules ih =>
    obtain ⟨hr, hrules⟩ := List.forall_mem_cons.1 hcovers
    rw [List.foldl_cons]
    by_cases hP : P r.1
    · have hcount : decide (P r.1) = true := decide_eq_true hP
      rw [List.filter_cons, if_pos hcount, List.map_cons, List.foldl_cons]
      refine ih hrules ?_
      rw [addBinary, addBinary, hr hP cell cell' hcell, hlhs]
      split
      · exact hcell.insert hP
      · exact hcell
    · have hcount : ¬ decide (P r.1) = true := fun h => hP (of_decide_eq_true h)
      rw [List.filter_cons, if_neg hcount]
      refine ih hrules ?_
      rw [addBinary]
      split
      · exact hcell.insert_of_not hP
      · exact hcell

namespace IsImage

/-- **Filling keeps images**, if a rule that counts covers the span exactly if its image does. -/
theorem filling (hgh : IsImage P f φ g h)
    (hcovers : ∀ r ∈ g.binaryRules, P r.1 → ∀ cell cell', Cell.IsImage P f cell cell' →
      (t'.put i' j' cell').splits word' (φ r).2.1 (φ r).2.2 i' j' =
        (t.put i j cell).splits word r.2.1 r.2.2 i j)
    (hcell : Cell.IsImage P f cell cell') :
    Cell.IsImage P f (g.filling word t i j cell) (h.filling word' t' i' j' cell') := by
  rw [Grammar.filling, Grammar.filling, hgh.binaryRules_eq]
  exact (isImage_foldl_addBinary hgh.lhs_eq hcovers hcell).close hgh.injective
    hgh.mem_unitRules_iff hgh.closed

/-- What stands for a single character has its name in the seed of the other grammar. -/
theorem seed (hgh : IsImage P f φ g h) (hi : i < word.length) (hj : j < word.length)
    (hi' : i' < word'.length) (hj' : j' < word'.length) (hdiagonal : i' = j' ↔ i = j)
    (hcharacter : i = j → word'[i']? = word[i]?) :
    Cell.IsImage P f ((g.seed word).get i j) ((h.seed word').get i' j') := by
  intro b
  rw [mem_get_seed hi' hj', hdiagonal]
  constructor
  · rintro ⟨hij, c, hc, hr⟩
    obtain ⟨⟨a, x⟩, hax, hP, heq⟩ := (hgh.mem_unitRules_iff _).1 (mem_unitRules.2 hr)
    obtain ⟨rfl, hx⟩ := Prod.mk.inj heq
    obtain rfl : x = [c] := (hgh.name_eq_character x c).1 hx
    have hword : word[i]? = some c := (hcharacter hij).symm.trans hc
    exact ⟨a, (mem_get_seed hi hj).2 ⟨hij, c, hword, mem_unitRules.1 hax⟩, hP, rfl⟩
  · rintro ⟨a, ha, hP, rfl⟩
    obtain ⟨hij, c, hc, hr⟩ := (mem_get_seed hi hj).1 ha
    have hname : f [c] = [c] := (hgh.name_eq_character [c] c).2 rfl
    refine ⟨hij, c, (hcharacter hij).trans hc, mem_unitRules.1 ?_⟩
    exact (hgh.mem_unitRules_iff _).2 ⟨(a, [c]), mem_unitRules.2 hr, hP, by rw [hname]⟩

/-- **The filled table is the image of the filled table**, if spans correspond and a rule that counts covers
a span exactly if its image covers the place of it: by the length of the span, since the cells of shorter
spans are compared before. -/
theorem get_filled {place : Nat → Nat → Nat → Nat → Prop} (hgh : IsImage P f φ g h)
    (hplace : SpansCorrespond place word word')
    (hcovers : ∀ i j i' j', place i j i' j' → i ≤ j → j < word.length →
      ∀ r ∈ g.binaryRules, P r.1 → ∀ t t', Table.IsImageWithin P f place i j t t' →
        t'.splits word' (φ r).2.1 (φ r).2.2 i' j' = t.splits word r.2.1 r.2.2 i j)
    (hij : i ≤ j) (hj : j < word.length) (hspan : place i j i' j') :
    Cell.IsImage P f ((g.filled word).get i j) ((h.filled word').get i' j') := by
  induction hlen : j - i using Nat.strongRecOn generalizing i i' j j' with
  | ind len ih =>
    have hi : i < word.length := Nat.lt_of_le_of_lt hij hj
    obtain ⟨hij', hj'⟩ := hplace.isSpan i j i' j' hspan hij hj
    have hi' : i' < word'.length := Nat.lt_of_le_of_lt hij' hj'
    rw [Grammar.get_filled hij hj, Grammar.get_filled hij' hj']
    refine hgh.filling (fun r hr hP cell cell' hcell => ?_) ?_
    · refine hcovers i j i' j' hspan hij hj r hr hP _ _ ?_
      refine Table.isImageWithin_put (isSquare_filled g word) (isSquare_filled h word') hi hj hi' hj'
        hcell (hplace.place_iff i j i' j' hspan) fun k m k' m' hik hkm hmj hlt hkm' => ?_
      exact ih (m - k) (by omega) hkm (by omega) hkm' rfl
    · exact hgh.seed hi hj hi' hj' (hplace.diagonal_iff i j i' j' hspan)
        fun hdiagonal => hplace.character_eq i j i' j' hspan hdiagonal hj

/-- **The verdicts agree** if the cells of the whole words do. -/
theorem verdict_eq (hgh : IsImage P f φ g h) (hlength : word'.length = word.length)
    (hcell : word ≠ [] → Cell.IsImage P f ((g.filled word).get 0 (word.length - 1))
      ((h.filled word').get 0 (word.length - 1))) : h.verdict word' = g.verdict word := by
  rw [Bool.eq_iff_iff]
  by_cases hword : word = []
  · obtain rfl : word' = [] := List.length_eq_zero_iff.1 (hlength.trans (by rw [hword]; rfl))
    rw [hword, verdict_nil_iff, verdict_nil_iff, hgh.epsilon_iff]
  · have hword' : word' ≠ [] := by
      rw [← List.length_pos_iff, hlength, List.length_pos_iff]
      exact hword
    rw [verdict_iff_mem hword, verdict_iff_mem hword', hlength, hgh.start_eq]
    exact (hcell hword).mem_iff hgh.injective hgh.start

end IsImage

end Grammar

end Chart
