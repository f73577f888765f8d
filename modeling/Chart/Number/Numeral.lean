import Chart.Number.Binary64
import Chart.Text.Digit
import Chart.Text.Lines

/-!
# Number/Numeral — reading numerals

A numeral is an optional sign and then digits with an optional point and exponent, or one of the names
`inf`, `infinity` and `nan` in any case.  Around it blanks are allowed, **digits may be those of any
script**, and single underscores may stand between digits.

* `Binary64.read?` — the double a text names.
* `Numeral.decimal?` — the digits and the exponent of an unsigned decimal.
-/

namespace Chart

namespace Numeral

/-- The value of digits read from the left, after a given value. -/
def valueFrom (value : Nat) (digits : Text) : Nat :=
  digits.foldl (fun value c => value * 10 + (c.toNat - '0'.toNat)) value

/-- An integer with an optional sign. -/
def exponent? (t : Text) : Option Int :=
  let unsigned? (digits : Text) : Option Nat :=
    if digits.isEmpty || !digits.all Char.isDigit then none else some (valueFrom 0 digits)
  match t with
  | '-' :: digits => (unsigned? digits).map fun n => -(n : Int)
  | '+' :: digits => (unsigned? digits).map fun n => (n : Int)
  | digits => (unsigned? digits).map fun n => (n : Int)

/-- **An unsigned decimal**, as `(digits, exponent)` for `digits · 10 ^ exponent`: digits on at least
one side of the point, then an optional exponent. -/
def decimal? (t : Text) : Option (Nat × Int) :=
  let (whole, rest) := t.span Char.isDigit
  let (fraction, rest) :=
    match rest with
    | '.' :: rest => rest.span Char.isDigit
    | _ => ([], rest)
  if whole.isEmpty && fraction.isEmpty then none
  else
    let digits := valueFrom (valueFrom 0 whole) fraction
    match rest with
    | [] => some (digits, -(fraction.length : Int))
    | c :: shift =>
      if c == 'e' || c == 'E' then
        (exponent? shift).map fun e => (digits, e - (fraction.length : Int))
      else none

/-- The text without underscores, if each of them stands between two digits. -/
def dropUnderscores? (previous : Char) : Text → Option Text
  | [] => if previous == '_' then none else some []
  | c :: rest =>
    if c == '_' then
      if previous.isDigit then dropUnderscores? c rest else none
    else if previous == '_' && !c.isDigit then none
    else (dropUnderscores? c rest).map (c :: ·)

/-- The blanks around a numeral: those of a text, without the record separators. -/
def isOuterBlank (c : Char) : Bool := Text.isBlank c && !(0x1C ≤ c.toNat && c.toNat ≤ 0x1F)

/-- A character with the digits of every script read as the common ones. -/
def commonDigit (c : Char) : Char :=
  match Text.digitValue? c with
  | some value => Char.ofNat ('0'.toNat + value)
  | none => c

/-- The text without the blanks around it. -/
def trim (t : Text) : Text :=
  ((t.dropWhile isOuterBlank).reverse.dropWhile isOuterBlank).reverse

end Numeral

namespace Binary64

/-- The double of an unsigned numeral with the given sign. -/
def readUnsigned? (negative : Bool) (t : Text) : Option Binary64 :=
  let lower := t.map Char.toLower
  if lower = "inf".toList || lower = "infinity".toList then some (.infinite negative)
  else if lower = "nan".toList then some .nan
  else (Numeral.decimal? t).map fun (digits, exponent) => ofDecimal negative digits exponent

/-- **The double that a text names**, if it is a numeral. -/
def read? (t : Text) : Option Binary64 :=
  match Numeral.dropUnderscores? ' ' ((Numeral.trim t).map Numeral.commonDigit) with
  | none => none
  | some ('-' :: rest) => readUnsigned? true rest
  | some ('+' :: rest) => readUnsigned? false rest
  | some rest => readUnsigned? false rest

end Binary64

end Chart
