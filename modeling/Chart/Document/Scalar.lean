import Chart.Document.Datum
import Chart.Number.Numeral

/-!
# Document/Scalar — strings, numbers and dates of a document

A **string** is quoted in one of four ways: once or three times, by double quotes, which know escapes,
or by single quotes, which do not.  All other scalars are **words** without blanks: truth values,
numbers and dates.

* `Scalar.string?` — the string at the start of a text, and what follows it.
* `Scalar.word?` — the value of a word.
-/

namespace Chart.Scalar

/-! ## Strings -/

/-- The controls that no string of one line may hold. -/
def isControl (c : Char) : Bool := (c.toNat < 0x20 && c != '\t') || c.toNat == 0x7F

/-- Whether a text may stand in a string, of several lines or of one. -/
def isPlain (manyLines : Bool) (body : Text) : Bool :=
  body.all fun c => !isControl c || (manyLines && c == '\n')

/-- The value of a hexadecimal digit. -/
def hexValue? (c : Char) : Option Nat :=
  if c.isDigit then some (c.toNat - '0'.toNat)
  else if 'a' ≤ c ∧ c ≤ 'f' then some (c.toNat - 'a'.toNat + 10)
  else if 'A' ≤ c ∧ c ≤ 'F' then some (c.toNat - 'A'.toNat + 10)
  else none

/-- The number that digits of a base write, after a given value. -/
def numberFrom? (base value : Nat) : Text → Option Nat
  | [] => some value
  | c :: rest =>
    match hexValue? c with
    | some digit => if digit < base then numberFrom? base (value * base + digit) rest else none
    | none => none

/-- The character of a code point written with exactly `width` hexadecimal digits. -/
def codePoint? (width : Nat) (digits : Text) : Option Char :=
  if digits.length = width then
    match numberFrom? 16 0 digits with
    | some n => if n.isValidChar then some (Char.ofNat n) else none
    | none => none
  else none

/-- The character of an escape of one letter. -/
def shortEscape? : Char → Option Char
  | 'b' => some '\x08'
  | 't' => some '\t'
  | 'n' => some '\n'
  | 'f' => some '\x0c'
  | 'r' => some '\r'
  | '"' => some '"'
  | '\\' => some '\\'
  | _ => none

/-- The text without its leading blanks and line breaks, if a line break is the first character that is
no blank. -/
def skipFoldedLines? (t : Text) : Option Text :=
  match t.dropWhile fun c => c == ' ' || c == '\t' with
  | '\n' :: rest => some (rest.dropWhile fun c => c == ' ' || c == '\t' || c == '\n')
  | _ => none

theorem length_skipFoldedLines?_le {t r : Text} (h : skipFoldedLines? t = some r) :
    r.length ≤ t.length := by
  unfold skipFoldedLines? at h
  have hle := (List.dropWhile_sublist (l := t) fun c => c == ' ' || c == '\t').length_le
  split at h
  · rename_i rest heq
    cases h
    rw [heq] at hle
    exact Nat.le_trans (List.dropWhile_sublist _).length_le (by simp at hle; omega)
  · cases h

/-- **The text that a body with escapes means**; in a string of several lines an escaped line break
also swallows the blanks and breaks after it. -/
def unescape? (manyLines : Bool) : Text → Option Text
  | [] => some []
  | '\\' :: 'u' :: rest =>
    match codePoint? 4 (rest.take 4) with
    | some c => (unescape? manyLines (rest.drop 4)).map (c :: ·)
    | none => none
  | '\\' :: 'U' :: rest =>
    match codePoint? 8 (rest.take 8) with
    | some c => (unescape? manyLines (rest.drop 8)).map (c :: ·)
    | none => none
  | '\\' :: c :: rest =>
    match shortEscape? c with
    | some c => (unescape? manyLines rest).map (c :: ·)
    | none =>
      if manyLines then
        match _h : skipFoldedLines? (c :: rest) with
        | some rest => unescape? manyLines rest
        | none => none
      else none
  | c :: rest => if c = '\\' then none else (unescape? manyLines rest).map (c :: ·)
termination_by t => t.length
decreasing_by
  all_goals simp_wf
  all_goals try (have hle := length_skipFoldedLines?_le ‹_›; simp at hle)
  all_goals omega

/-- The body up to the first closing quote, and what follows it; a backslash protects the next
character if there are escapes. -/
def untilQuote? (quote : Char) (escapes : Bool) : Text → Option (Text × Text)
  | [] => none
  | [c] => if c = quote then some ([], []) else none
  | c :: d :: rest =>
    if c = quote then some ([], d :: rest)
    else if c = '\\' && escapes then
      (untilQuote? quote escapes rest).map fun (body, after) => (c :: d :: body, after)
    else (untilQuote? quote escapes (d :: rest)).map fun (body, after) => (c :: body, after)

/-- The body up to three closing quotes, and what follows them; one or two quotes more belong to the
body. -/
def untilQuotes? (quote : Char) (escapes : Bool) : Text → Option (Text × Text)
  | [] | [_] | [_, _] => none
  | c :: d :: e :: rest =>
    if c = quote && d = quote && e = quote then
      let extra := (rest.take 2).takeWhile (· == quote)
      some (extra, rest.drop extra.length)
    else if c = '\\' && escapes then
      (untilQuotes? quote escapes (e :: rest)).map fun (body, after) => (c :: d :: body, after)
    else (untilQuotes? quote escapes (d :: e :: rest)).map fun (body, after) => (c :: body, after)

/-- The text without a line break at its start. -/
def dropBreak : Text → Text
  | '\n' :: rest => rest
  | t => t

/-- A string of several lines, after its opening quotes. -/
def longString? (quote : Char) (t : Text) : Option (Text × Text) :=
  match untilQuotes? quote (quote == '"') (dropBreak t) with
  | some (body, after) =>
    if !isPlain true body then none
    else if quote == '"' then (unescape? true body).map fun body => (body, after)
    else some (body, after)
  | none => none

/-- A string of one line, after its opening quote. -/
def shortString? (quote : Char) (t : Text) : Option (Text × Text) :=
  match untilQuote? quote (quote == '"') t with
  | some (body, after) =>
    if !isPlain false body then none
    else if quote == '"' then (unescape? false body).map fun body => (body, after)
    else some (body, after)
  | none => none

/-- **The string at the start of a text**, and what follows it. -/
def string? (t : Text) : Option (Text × Text) :=
  match t with
  | c :: rest =>
    if c == '"' || c == '\x27' then
      match rest with
      | d :: e :: more =>
        if d = c && e = c then longString? c more else shortString? c rest
      | _ => shortString? c rest
    else none
  | [] => none

/-! ## Numbers -/

/-- The text without underscores, if each of them stands between two alphanumeric characters. -/
def dropUnderscores? (inWord : Bool) : Text → Option Text
  | [] => some []
  | ['_'] => none
  | '_' :: c :: rest =>
    if inWord && c.isAlphanum then dropUnderscores? false (c :: rest) else none
  | c :: rest => (dropUnderscores? c.isAlphanum rest).map (c :: ·)

/-- Decimal digits without a superfluous leading zero. -/
def isWhole (digits : Text) : Bool :=
  !digits.isEmpty && digits.all Char.isDigit && (digits.length == 1 || digits.head? != some '0')

/-- A sign and what follows it; no sign counts as positive. -/
def sign : Text → Bool × Text
  | '-' :: rest => (true, rest)
  | '+' :: rest => (false, rest)
  | t => (false, t)

/-- The integer of a word: decimal, or unsigned after `0x`, `0o` or `0b`. -/
def integer? (word : Text) : Option Int :=
  match word with
  | '0' :: 'x' :: digits => based? 16 digits
  | '0' :: 'o' :: digits => based? 8 digits
  | '0' :: 'b' :: digits => based? 2 digits
  | _ =>
    let (negative, digits) := sign word
    match dropUnderscores? false digits with
    | some digits =>
      if isWhole digits then
        (numberFrom? 10 0 digits).map fun n => if negative then -(n : Int) else (n : Int)
      else none
    | none => none
where
  /-- An integer of another base than ten. -/
  based? (base : Nat) (digits : Text) : Option Int :=
    match dropUnderscores? false digits with
    | some [] | none => none
    | some digits => (numberFrom? base 0 digits).map Int.ofNat

/-- Whether a word without sign and underscores is a decimal with a point, an exponent or both. -/
def isDecimal (word : Text) : Bool :=
  let (whole, rest) := word.span Char.isDigit
  let isExponent (t : Text) : Bool :=
    match t with
    | c :: digits =>
      (c == 'e' || c == 'E') &&
        (let digits := (sign digits).2
        !digits.isEmpty && digits.all Char.isDigit)
    | [] => false
  isWhole whole &&
    match rest with
    | '.' :: rest =>
      let (fraction, rest) := rest.span Char.isDigit
      !fraction.isEmpty && (rest.isEmpty || isExponent rest)
    | rest => isExponent rest

/-- The float of a word. -/
def float? (word : Text) : Option Binary64 :=
  let (_, unsigned) := sign word
  if unsigned = "inf".toList || unsigned = "nan".toList then Binary64.read? word
  else
    match dropUnderscores? false unsigned with
    | some digits => if isDecimal digits then Binary64.read? word else none
    | none => none

/-! ## Dates -/

/-- The number that two digits write. -/
def twoDigits? (c d : Char) : Option Nat :=
  if c.isDigit && d.isDigit then numberFrom? 10 0 [c, d] else none

/-- The days of a month. -/
def daysIn (year month : Nat) : Nat :=
  if month = 2 then
    if year % 4 = 0 && (year % 100 ≠ 0 || year % 400 = 0) then 29 else 28
  else if month ∈ [4, 6, 9, 11] then 30
  else 31

/-- What follows the date `YYYY-MM-DD` at the start of a word. -/
def afterDate? : Text → Option Text
  | a :: b :: c :: d :: '-' :: e :: f :: '-' :: g :: h :: rest =>
    match twoDigits? a b, twoDigits? c d, twoDigits? e f, twoDigits? g h with
    | some century, some year, some month, some day =>
      let year := century * 100 + year
      if 1 ≤ year && 1 ≤ month && month ≤ 12 && 1 ≤ day && day ≤ daysIn year month then some rest
      else none
    | _, _, _, _ => none
  | _ => none

/-- What follows the time `HH:MM:SS`, with an optional fraction, at the start of a word. -/
def afterTime? : Text → Option Text
  | a :: b :: ':' :: c :: d :: ':' :: e :: f :: rest =>
    match twoDigits? a b, twoDigits? c d, twoDigits? e f with
    | some hour, some minute, some second =>
      if hour < 24 && minute < 60 && second < 60 then
        match rest with
        | '.' :: more =>
          let (fraction, rest) := more.span Char.isDigit
          if fraction.isEmpty then none else some rest
        | _ => some rest
      else none
    | _, _, _ => none
  | _ => none

/-- Whether a word is an offset from universal time, or nothing. -/
def isOffset : Text → Bool
  | [] | ['Z'] | ['z'] => true
  | [s, a, b, ':', c, d] =>
    (s == '+' || s == '-') &&
      match twoDigits? a b, twoDigits? c d with
      | some hour, some minute => hour < 24 && minute < 60
      | _, _ => false
  | _ => false

/-- Whether a word is a date, a time or both; a single space may stand between the two. -/
def isMoment (word : Text) : Bool :=
  match afterDate? word with
  | some [] => true
  | some (c :: time) =>
    (c == 'T' || c == 't' || c == ' ') &&
      match afterTime? time with
      | some rest => isOffset rest
      | none => false
  | none => afterTime? word == some []

/-! ## Words -/

/-- The characters of a word. -/
def isWordChar (c : Char) : Bool :=
  c.isAlphanum || c == '+' || c == '-' || c == '_' || c == '.' || c == ':'

/-- The word at the start of a text, and what follows it: a date and a time that a space separates are
one word. -/
def cutWord (t : Text) : Text × Text :=
  let (word, rest) := t.span isWordChar
  match rest with
  | ' ' :: more =>
    let (time, after) := more.span isWordChar
    if afterDate? word = some [] && (afterTime? time).isSome then (word ++ ' ' :: time, after)
    else (word, rest)
  | _ => (word, rest)

/-- **The value of a word.** -/
def word? (word : Text) : Option Datum :=
  if word = "true".toList then some (.flag true)
  else if word = "false".toList then some (.flag false)
  else
    match integer? word with
    | some n => some (.integer n)
    | none =>
      match float? word with
      | some x => some (.float x)
      | none => if isMoment word then some .other else none

end Chart.Scalar
