/-!
# Text/Basic — texts as lists of characters

A text is the list of its **code points**: lengths, indexes and spans count characters, and the order
of texts is the lexicographic order of code points.

* `Text.sorted` — the order in which symbols are listed.
* `Text.pieces` — cutting a text at every separator; the pieces between separators may be empty.
* `Text.ofNat`, `Text.ofInt` — decimal numerals.
-/

namespace Chart

/-- A text is the list of its code points. -/
abbrev Text := List Char

namespace Text

/-- Texts that compare equal are equal. -/
instance : LawfulBEq Text := inferInstance

/-- **Whether a text is at most another one**: the first characters that differ decide by their code
points, and a text comes before its extensions. -/
def isAtMost : Text → Text → Bool
  | [], _ => true
  | _ :: _, [] => false
  | a :: s, b :: t => decide (a.toNat < b.toNat) || (a == b && isAtMost s t)

/-- Lists texts by code point, a shorter text before its extensions. -/
def sorted (texts : List Text) : List Text := texts.mergeSort isAtMost

/-- **The pieces between separators**: `n` separators give `n + 1` pieces, some of them empty. -/
def pieces (isSeparator : Char → Bool) : Text → List Text
  | [] => [[]]
  | c :: rest =>
    if isSeparator c then [] :: pieces isSeparator rest
    else match pieces isSeparator rest with
      | [] => [[c]]
      | piece :: others => (c :: piece) :: others

/-- The decimal numeral of a natural number. -/
def ofNat (n : Nat) : Text := Nat.toDigits 10 n

/-- The decimal numeral of an integer, with a sign only when it is negative. -/
def ofInt : Int → Text
  | .ofNat n => ofNat n
  | .negSucc n => '-' :: ofNat (n + 1)

theorem mem_sorted {a : Text} {texts : List Text} : a ∈ sorted texts ↔ a ∈ texts :=
  List.mem_mergeSort

theorem length_sorted (texts : List Text) : (sorted texts).length = texts.length :=
  List.length_mergeSort texts

theorem pieces_ne_nil (isSeparator : Char → Bool) : ∀ t : Text, pieces isSeparator t ≠ []
  | [] => by simp [pieces]
  | c :: rest => by
    rw [pieces]
    split
    · simp
    · split <;> simp

end Text

end Chart
