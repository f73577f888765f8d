/-!
# Number/Binary64 — floating-point numbers of double precision

A double is a signed multiple `m · 2 ^ e` of a power of two with `m < 2 ^ 53` and `-1074 ≤ e ≤ 971`,
an infinity, or no number at all.  All arithmetic here is **exact**; a value is rounded once, when a
double is made from a ratio or a decimal.

* `Binary64.ofRatio` — the nearest double, of two equally near ones the even one.
* `Binary64.ofDecimal` — the same for `digits · 10 ^ exponent`.
* `Binary64.toRat?` — the exact value of a finite double.
-/

namespace Chart

/-- **A double**: finite, infinite or not a number. -/
inductive Binary64 where
  /-- `± mantissa · 2 ^ exponent` -/
  | finite (negative : Bool) (mantissa : Nat) (exponent : Int)
  | infinite (negative : Bool)
  | nan
  deriving DecidableEq

namespace Binary64

/-- The nearest integer to `numerator / denominator`; of two equally near ones the even one. -/
def roundHalfEven (numerator denominator : Nat) : Nat :=
  let quotient := numerator / denominator
  let remainder := numerator % denominator
  if 2 * remainder < denominator then quotient
  else if denominator < 2 * remainder then quotient + 1
  else quotient + quotient % 2

/-- The exponent of the leading binary digit of `numerator / denominator`, both positive. -/
def leadingExponent (numerator denominator : Nat) : Int :=
  let guess : Int := (numerator.log2 : Int) - denominator.log2
  let reaches :=
    if 0 ≤ guess then decide (denominator * Nat.pow 2 guess.toNat ≤ numerator)
    else decide (denominator ≤ numerator * Nat.pow 2 (-guess).toNat)
  if reaches then guess else guess - 1

/-- **The double nearest to `± numerator / denominator`**, for a positive denominator. -/
def ofRatio (negative : Bool) (numerator denominator : Nat) : Binary64 :=
  if numerator = 0 then finite negative 0 (-1074)
  else
    let normal := leadingExponent numerator denominator - 52
    let exponent := if normal < -1074 then -1074 else normal
    let mantissa :=
      if 0 ≤ exponent then roundHalfEven numerator (denominator * Nat.pow 2 exponent.toNat)
      else roundHalfEven (numerator * Nat.pow 2 (-exponent).toNat) denominator
    let (mantissa, exponent) :=
      if mantissa = Nat.pow 2 53 then (Nat.pow 2 52, exponent + 1) else (mantissa, exponent)
    if 971 < exponent then infinite negative else finite negative mantissa exponent

/-- **The double nearest to `± digits · 10 ^ exponent`.**  Values beyond all doubles are settled by the
position of their leading digit alone. -/
def ofDecimal (negative : Bool) (digits : Nat) (exponent : Int) : Binary64 :=
  let leading := exponent + (Nat.toDigits 10 digits).length
  if digits = 0 then finite negative 0 (-1074)
  else if 310 < leading then infinite negative
  else if leading < -330 then finite negative 0 (-1074)
  else if 0 ≤ exponent then ofRatio negative (digits * Nat.pow 10 exponent.toNat) 1
  else ofRatio negative digits (Nat.pow 10 (-exponent).toNat)

/-- The exact value of a finite double. -/
def toRat? : Binary64 → Option Rat
  | finite negative mantissa exponent =>
    let value : Rat := (mantissa : Rat) * (2 : Rat) ^ exponent
    some (if negative then -value else value)
  | _ => none

/-- Whether the value is zero, of either sign. -/
def isZero : Binary64 → Bool
  | finite _ mantissa _ => mantissa == 0
  | _ => false

end Binary64

end Chart
