import Chart.Proofs.Grammar.StrictLines
import Mathlib.Computability.RegularExpressions

/-!
# Proofs/Grammar/LineExpression — the strict format as a regular expression

The strict format is given as the regular expression `([01])+:(([01])+|a|b),(([01])+|a|b|e)`, which a line
has to match as a whole.  `expression` is that expression, part by part, and the line check is a matcher for
it: `accepts_iff_matches`.

The check cuts a line at its first `:` and the rest at its first `,`, where a match may cut it anywhere; since
no part of the expression matches a text with a separator, there is nowhere else to cut.
-/

namespace Chart.LinePattern

open RegularExpression

variable {line t : Text}

/-! ## The expression -/

/-- `[01]`. -/
def digit : RegularExpression Char := char '0' + char '1'

/-- `([01])+`: a digit, and more of them. -/
def numeral : RegularExpression Char := digit * star digit

/-- `(([01])+|a|b)`. -/
def firstSlot : RegularExpression Char := numeral + char 'a' + char 'b'

/-- `(([01])+|a|b|e)`. -/
def secondSlot : RegularExpression Char := numeral + char 'a' + char 'b' + char 'e'

/-- **The strict line format.** -/
def expression : RegularExpression Char := numeral * char ':' * firstSlot * char ',' * secondSlot

/-! ## What its parts match -/

theorem mem_digit : t ∈ digit.matches' ↔ ∃ c, t = [c] ∧ (c = '0' ∨ c = '1') := by
  rw [digit, matches'_add, Language.mem_add]
  constructor
  · rintro (rfl | rfl)
    · exact ⟨'0', rfl, .inl rfl⟩
    · exact ⟨'1', rfl, .inr rfl⟩
  · rintro ⟨c, rfl, rfl | rfl⟩
    · exact .inl rfl
    · exact .inr rfl

/-- A run of digits, however it is cut into digits. -/
theorem mem_star_digit : t ∈ (star digit).matches' ↔ ∀ c ∈ t, c = '0' ∨ c = '1' := by
  rw [matches'_star, Language.mem_kstar]
  constructor
  · rintro ⟨digits, rfl, hdigits⟩ c hc
    obtain ⟨d, hd, hc⟩ := List.mem_flatten.1 hc
    obtain ⟨c', rfl, hdigit⟩ := mem_digit.1 (hdigits d hd)
    rwa [List.mem_singleton.1 hc]
  · intro h
    refine ⟨t.map fun c => [c], by rw [← List.flatMap_def, List.flatMap_singleton'], ?_⟩
    intro d hd
    obtain ⟨c, hc, rfl⟩ := List.mem_map.1 hd
    exact mem_digit.2 ⟨c, rfl, h c hc⟩

theorem mem_numeral : t ∈ numeral.matches' ↔ IsNumeral t := by
  rw [numeral, matches'_mul, Language.mem_mul]
  constructor
  · rintro ⟨first, hfirst, rest, hrest, rfl⟩
    obtain ⟨c, rfl, hc⟩ := mem_digit.1 hfirst
    exact ⟨List.cons_ne_nil _ _, List.forall_mem_cons.2 ⟨hc, mem_star_digit.1 hrest⟩⟩
  · rintro ⟨hne, hall⟩
    obtain ⟨c, rest, rfl⟩ := List.exists_cons_of_ne_nil hne
    obtain ⟨hc, hrest⟩ := List.forall_mem_cons.1 hall
    exact ⟨[c], mem_digit.2 ⟨c, rfl, hc⟩, rest, mem_star_digit.2 hrest, rfl⟩

theorem mem_firstSlot : t ∈ firstSlot.matches' ↔ IsStrict t := by
  rw [firstSlot, matches'_add, matches'_add, Language.mem_add, Language.mem_add, mem_numeral, or_assoc]
  rfl

theorem mem_secondSlot : t ∈ secondSlot.matches' ↔ IsStrict t ∨ t = absent := by
  rw [secondSlot, matches'_add, Language.mem_add]
  exact or_congr mem_firstSlot Iff.rfl

/-! ## The line check -/

/-- **What the expression matches are the lines of the strict format.** -/
theorem mem_expression : line ∈ expression.matches' ↔ IsStrictLine line := by
  simp only [expression, matches'_mul, Language.mem_mul]
  constructor
  · rintro ⟨_, ⟨_, ⟨_, ⟨l, hl, _, rfl, rfl⟩, x, hx, rfl⟩, _, rfl, rfl⟩, y, hy, rfl⟩
    exact ⟨l, x, y, by simp, mem_numeral.1 hl, mem_firstSlot.1 hx, mem_secondSlot.1 hy⟩
  · rintro ⟨l, x, y, rfl, hl, hx, hy⟩
    exact ⟨_, ⟨_, ⟨_, ⟨l, mem_numeral.2 hl, _, rfl, rfl⟩, x, mem_firstSlot.2 hx, rfl⟩, _, rfl, rfl⟩,
      y, mem_secondSlot.2 hy, by simp⟩

/-- **The line check is a matcher for the expression**: a line passes exactly if all of it matches. -/
theorem accepts_iff_matches : accepts line = true ↔ line ∈ expression.matches' := by
  rw [accepts_iff, exists_writes_iff, mem_expression]

end Chart.LinePattern
