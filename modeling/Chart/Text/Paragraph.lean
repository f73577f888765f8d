import Chart.Text.Alphanumeric
import Chart.Text.Digit
import Chart.Text.Lines

/-!
# Text/Paragraph — filling lines with words

A paragraph is a text whose spaces may become line breaks.  It is cut into **chunks**, the runs of
spaces and the words between them; a word may also be cut after a hyphen between letters and around a
dash.  Lines are filled with as many chunks as fit, and spaces at the end of a line are dropped.

* `Paragraph.chunks` — the chunks of a text.
* `Paragraph.wrap` — the lines of a paragraph, none longer than the width.
-/

namespace Chart.Paragraph

/-! ## Chunks -/

/-- The characters of a word. -/
def isWordChar (c : Char) : Bool := Text.isAlphanumeric c || c == '_'

/-- The characters of a word that are no decimal digits. -/
def isLetter (c : Char) : Bool := isWordChar c && (Text.digitValue? c).isNone

/-- The characters that a dash may follow. -/
def isBeforeDash (c : Char) : Bool :=
  isWordChar c || ['!', '"', '\x27', '&', '.', ',', '?'].contains c

/-- Whether a text starts with a dash, two hyphens or more, and a word after it. -/
def startsWithDash (t : Text) : Bool :=
  let (dash, after) := t.span (· == '-')
  2 ≤ dash.length && (after.head?.map isWordChar).getD false

/-- Whether a word may be cut after the hyphen that the rest starts with: there are letters before and
after it.  The characters before come last one first. -/
def breaksAfterHyphen (before rest : Text) : Bool :=
  (match before with
    | a :: b :: more => isLetter a && (isLetter b ||
        (b == '-' && (more.head?.map isLetter).getD false))
    | _ => false) &&
  (match rest with
    | '-' :: a :: b :: more => isLetter a && (isLetter b ||
        (b == '-' && (more.head?.map isLetter).getD false))
    | _ => false)

/-- The shortest chunk of a word, and what follows it. -/
def cutWord (before : Text) : Text → Text × Text
  | [] => ([], [])
  | c :: rest =>
    if breaksAfterHyphen (c :: before) rest then ([c, '-'], rest.drop 1)
    else if rest.isEmpty || rest.head? == some ' ' || (isBeforeDash c && startsWithDash rest) then
      ([c], rest)
    else
      let (word, after) := cutWord (c :: before) rest
      (c :: word, after)

/-- The first chunk of a text, and what follows it. -/
def cut (before t : Text) : Text × Text :=
  if t.head? == some ' ' then t.span (· == ' ')
  else if (before.head?.map isBeforeDash).getD false && startsWithDash t then t.span (· == '-')
  else cutWord before t

/-- The chunks of a text of at most `fuel` characters. -/
def chunksFrom : Nat → Text → Text → List Text
  | 0, _, _ => []
  | fuel + 1, before, t =>
    if t.isEmpty then []
    else
      let (chunk, after) := cut before t
      chunk :: chunksFrom fuel (chunk.reverse ++ before) after

/-- **The chunks of a text.** -/
def chunks (t : Text) : List Text := chunksFrom t.length [] t

/-! ## Lines -/

/-- Whether a chunk holds nothing but blanks. -/
def isBlankChunk (chunk : Text) : Bool := chunk.all Text.isBlank

/-- The chunks that fit into the room left, and the others. -/
def fit (room : Nat) : List Text → List Text × List Text
  | [] => ([], [])
  | chunk :: rest =>
    if chunk.length ≤ room then
      let (line, others) := fit (room - chunk.length) rest
      (chunk :: line, others)
    else ([], chunk :: rest)

/-- Where a chunk that is longer than a line is cut: after its last hyphen in the room left, if there
is something else before it, or where the room ends. -/
def cutLength (room : Nat) (chunk : Text) : Nat :=
  let head := chunk.take room
  let tail := head.reverse.takeWhile (· != '-')
  let hyphen := room - tail.length - 1
  if room < chunk.length && tail.length < room && 0 < hyphen && (chunk.take hyphen).any (· != '-') then
    hyphen + 1
  else room

/-- The first line of chunks, and the chunks after it. -/
def firstLine (width : Nat) (chunks : List Text) : List Text × List Text :=
  let (line, rest) := fit width chunks
  let (line, rest) :=
    match rest with
    | chunk :: others =>
      if width < chunk.length then
        let n := cutLength (width - line.flatten.length) chunk
        (line ++ [chunk.take n], chunk.drop n :: others)
      else (line, rest)
    | [] => (line, [])
  match line.getLast? with
  | some last => (if isBlankChunk last then line.dropLast else line, rest)
  | none => (line, rest)

/-- The lines of chunks, of which each line uses up some characters; a line does not start with
blanks unless it is the first one. -/
def fill (width : Nat) : Nat → Bool → List Text → List Text
  | 0, _, _ => []
  | _, _, [] => []
  | fuel + 1, isFirst, chunk :: rest =>
    let chunks := if isBlankChunk chunk && !isFirst then rest else chunk :: rest
    match firstLine width chunks with
    | ([], others) => fill width fuel isFirst others
    | (line, others) => line.flatten :: fill width fuel false others

/-- A text with every run of the common blanks made one space, and without the blanks at its ends. -/
def normalise (t : Text) : Text :=
  let isCommon (c : Char) : Bool := c == ' ' || (0x09 ≤ c.toNat && c.toNat ≤ 0x0D)
  let words := (t.pieces isCommon).filter (· != [])
  Text.strip ([' '].intercalate words)

/-- **The lines of a paragraph.** -/
def wrap (width : Nat) (t : Text) : List Text :=
  let t := normalise t
  fill width (2 * t.length + 2) true (chunks t)

end Chart.Paragraph
