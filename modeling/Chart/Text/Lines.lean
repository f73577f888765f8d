import Chart.Text.Basic

/-!
# Text/Lines — blanks, line breaks and lines

Two character classes decide how a text is laid out: **blanks** are dropped at both ends of a line,
**line breaks** end it.  Every line break is a blank, but not the other way round.

* `Text.strip` — a text without the blanks at its ends.
* `Text.lines` — the lines of a text; a carriage return and a line feed together are one break, and
  nothing follows the last break.
* `Text.unifyBreaks` — every carriage return read as a line feed, as a text file is read.
* `Text.shortenBreaks` — only the carriage returns before a line feed dropped.
-/

namespace Chart.Text

/-- The characters that are blank: separators of Unicode, and the controls that move the carriage
or separate records. -/
def isBlank (c : Char) : Bool :=
  let n := c.toNat
  (0x09 ≤ n && n ≤ 0x0D) || (0x1C ≤ n && n ≤ 0x20) || n == 0x85 || n == 0xA0 || n == 0x1680 ||
    (0x2000 ≤ n && n ≤ 0x200A) || n == 0x2028 || n == 0x2029 || n == 0x202F || n == 0x205F ||
    n == 0x3000

/-- The characters that end a line. -/
def isLineBreak (c : Char) : Bool :=
  let n := c.toNat
  (0x0A ≤ n && n ≤ 0x0D) || (0x1C ≤ n && n ≤ 0x1E) || n == 0x85 || n == 0x2028 || n == 0x2029

/-- Drops the blanks at both ends. -/
def strip (t : Text) : Text :=
  ((t.dropWhile isBlank).reverse.dropWhile isBlank).reverse

/-- **The lines of a text.**  A break ends the line before it, so a final break opens no new line. -/
def lines : Text → List Text
  | [] => []
  | '\r' :: '\n' :: rest => [] :: lines rest
  | c :: rest =>
    if isLineBreak c then [] :: lines rest
    else match lines rest with
      | [] => [[c]]
      | line :: others => (c :: line) :: others

/-- Reads `\r\n` and a lone `\r` as `\n`. -/
def unifyBreaks : Text → Text
  | [] => []
  | '\r' :: '\n' :: rest => '\n' :: unifyBreaks rest
  | c :: rest => (if c = '\r' then '\n' else c) :: unifyBreaks rest

/-- Reads `\r\n` as `\n` and keeps a lone `\r`. -/
def shortenBreaks : Text → Text
  | [] => []
  | '\r' :: '\n' :: rest => '\n' :: shortenBreaks rest
  | c :: rest => c :: shortenBreaks rest

theorem isBlank_of_isLineBreak {c : Char} (h : isLineBreak c = true) : isBlank c = true := by
  simp only [isLineBreak, isBlank, Bool.or_eq_true, Bool.and_eq_true, decide_eq_true_eq,
    beq_iff_eq] at h ⊢
  omega

end Chart.Text
