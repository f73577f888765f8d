import Chart.Text.Basic
import Chart.Text.Printable

/-!
# Text/Quoted — a text between quotes

A quoted text shows every character of the text unambiguously: **the quote is single** unless the
text holds a single quote and no double one; the quote in use and the backslash are escaped, and so
is every character that is not printable.

* `Text.quoted` — the quoted text.
-/

namespace Chart.Text

/-- The lower case hexadecimal numeral of `n` with at least `width` digits. -/
def hexadecimal (width n : Nat) : Text :=
  let digits := Nat.toDigits 16 n
  List.replicate (width - digits.length) '0' ++ digits

/-- How a character stands between the quotes `quote`. -/
def escaped (quote c : Char) : Text :=
  if c = quote || c = '\\' then ['\\', c]
  else if c = '\n' then ['\\', 'n']
  else if c = '\r' then ['\\', 'r']
  else if c = '\t' then ['\\', 't']
  else if isPrintable c then [c]
  else if c.toNat < 0x100 then '\\' :: 'x' :: hexadecimal 2 c.toNat
  else if c.toNat < 0x10000 then '\\' :: 'u' :: hexadecimal 4 c.toNat
  else '\\' :: 'U' :: hexadecimal 8 c.toNat

/-- The quote that needs fewer escapes, the single one unless only single quotes occur. -/
def quoteFor (t : Text) : Char :=
  if '\x27' ∈ t ∧ '"' ∉ t then '"' else '\x27'

/-- **The text between quotes.** -/
def quoted (t : Text) : Text :=
  quoteFor t :: t.flatMap (escaped (quoteFor t)) ++ [quoteFor t]

end Chart.Text
