import Chart.Number.Binary64
import Chart.Text.Basic

/-!
# Number/Shortest — the shortest decimal that reads back

The numeral of a double has **the fewest digits that still name it**: the decimals nearest to it,
on grids of one, two, … seventeen digits, are tried until one lies among the reals that round to the
double.

* `Binary64.shortest` — the digits and their exponent.
* `Binary64.toText` — the numeral, laid out as `Layout.settings` says.
-/

namespace Chart

namespace Binary64

/-- The number of decimal places of the integer part of `numerator / denominator`, both positive: the
`p` with `10 ^ (p - 1) ≤ numerator / denominator < 10 ^ p`. -/
def decimalPoint (numerator denominator : Nat) : Int :=
  if denominator ≤ numerator then (Nat.toDigits 10 (numerator / denominator)).length
  else 1 - ((Nat.toDigits 10 ((denominator - 1) / numerator)).length : Int)

/-- The value and the ends of the interval of reals that round to `mantissa · 2 ^ exponent`, over one
denominator.  The interval reaches half way to the next double on either side; below a power of two
the next double is nearer. -/
structure Neighbourhood where
  value : Nat
  lower : Nat
  upper : Nat
  denominator : Nat
  /-- An even mantissa wins ties, so the ends belong to the interval. -/
  closed : Bool

/-- The neighbourhood of a double. -/
def neighbourhood (mantissa : Nat) (exponent : Int) : Neighbourhood :=
  let up := Nat.pow 2 (exponent - 2).toNat
  let below := if mantissa = Nat.pow 2 52 && -1074 < exponent then 1 else 2
  { value := 4 * mantissa * up
    lower := (4 * mantissa - below) * up
    upper := (4 * mantissa + 2) * up
    denominator := Nat.pow 2 (2 - exponent).toNat
    closed := mantissa % 2 == 0 }

/-- Whether `digits · 10 ^ exponent` rounds to the double. -/
def Neighbourhood.holds (near : Neighbourhood) (digits : Nat) (exponent : Int) : Bool :=
  let candidate := digits * Nat.pow 10 exponent.toNat * near.denominator
  let scale := Nat.pow 10 (-exponent).toNat
  if near.closed then near.lower * scale ≤ candidate && candidate ≤ near.upper * scale
  else near.lower * scale < candidate && candidate < near.upper * scale

/-- Of the two decimals around the value on the grid of `10 ^ exponent`, the nearer one that rounds to
the double; an exact tie goes to the even digit. -/
def Neighbourhood.onGrid? (near : Neighbourhood) (exponent : Int) : Option Nat :=
  let numerator := near.value * Nat.pow 10 (-exponent).toNat
  let denominator := near.denominator * Nat.pow 10 exponent.toNat
  let down := numerator / denominator
  let nearest := roundHalfEven numerator denominator
  let other := if nearest = down then down + 1 else down
  if near.holds nearest exponent then some nearest
  else if near.holds other exponent then some other
  else none

/-- Digits without trailing zeros, and the exponent that makes up for them. -/
def dropZeros : Nat → Nat → Int → Nat × Int
  | 0, digits, exponent => (digits, exponent)
  | fuel + 1, digits, exponent =>
    if digits % 10 = 0 ∧ digits ≠ 0 then dropZeros fuel (digits / 10) (exponent + 1)
    else (digits, exponent)

/-- **The fewest digits that name a positive double**, as `(digits, exponent)` for
`digits · 10 ^ exponent`.  Seventeen digits always suffice. -/
def shortest (mantissa : Nat) (exponent : Int) : Nat × Int :=
  let near := neighbourhood mantissa exponent
  let point := decimalPoint near.value near.denominator
  let grids := (List.range 17).map fun n => point - (n + 1 : Nat)
  match grids.findSome? fun grid => (near.onGrid? grid).map fun digits => (digits, grid) with
  | some (digits, grid) => dropZeros 20 digits grid
  | none => (mantissa, 0)

end Binary64

/-! ## Layout -/

/-- How the digits of a numeral are laid out around the decimal point. -/
structure Layout where
  /-- The least and greatest number of places before the point that are written positionally. -/
  least : Int
  greatest : Int
  /-- What follows the digits of a whole number. -/
  wholeMark : Text
  /-- The mark of an exponent, and its least number of digits; its sign is always written. -/
  exponentMark : Char
  exponentDigits : Nat
  /-- The names of what is not finite. -/
  infinity : Text
  notANumber : Text

/-- **The layout of settings**: positional from `0.0001` to sixteen places, whole numbers end in `.0`,
an exponent has at least two digits. -/
def Layout.settings : Layout where
  least := -3
  greatest := 16
  wholeMark := ".0".toList
  exponentMark := 'e'
  exponentDigits := 2
  infinity := "inf".toList
  notANumber := "nan".toList

/-- The exponent of a numeral. -/
def Layout.exponent (layout : Layout) (exponent : Int) : Text :=
  let digits := Text.ofNat exponent.natAbs
  layout.exponentMark :: (if exponent < 0 then '-' else '+') ::
    (List.replicate (layout.exponentDigits - digits.length) '0' ++ digits)

/-- The numeral of `digits · 10 ^ exponent`. -/
def Layout.decimal (layout : Layout) (digits : Nat) (exponent : Int) : Text :=
  let figures := Text.ofNat digits
  let point : Int := exponent + figures.length
  if layout.least ≤ point && point ≤ layout.greatest then
    if 0 ≤ exponent then figures ++ List.replicate exponent.toNat '0' ++ layout.wholeMark
    else if 0 < point then figures.take point.toNat ++ '.' :: figures.drop point.toNat
    else '0' :: '.' :: (List.replicate (-point).toNat '0' ++ figures)
  else
    match figures with
    | [figure] => figure :: layout.exponent (point - 1)
    | figure :: more => figure :: '.' :: (more ++ layout.exponent (point - 1))
    | [] => []

/-- **The numeral of a double.** -/
def Binary64.toText (x : Binary64) : Text :=
  let layout := Layout.settings
  match x with
  | .nan => layout.notANumber
  | .infinite negative => (if negative then ['-'] else []) ++ layout.infinity
  | .finite negative mantissa exponent =>
    let (digits, exponent) :=
      if mantissa = 0 then (0, 0) else Binary64.shortest mantissa exponent
    (if negative then ['-'] else []) ++ layout.decimal digits exponent

end Chart
