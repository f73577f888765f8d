import Chart.Document.Outline
import Chart.Document.Scalar

/-!
# Document/Reader — reading a document

A document is a sequence of statements, one a line: a key with its value, the header of a table, or the
header of one more table of a list.  Values may run over several lines inside brackets.  **A text is a
document or it is not**: the reader says the same of every text that is none.

* `Document.value?` — the value at the start of a text, and what follows it.
* `Document.read?` — the entries of a document; `Document.read` — the same, or a refusal.
-/

namespace Chart.Document

/-! ## Between the words -/

/-- The text without the blanks at its start. -/
def skipSpace (t : Text) : Text := t.dropWhile fun c => c == ' ' || c == '\t'

/-- The text without a comment at its start; a control ends it, as no comment may hold one. -/
def skipComment : Text → Text
  | '#' :: rest => rest.dropWhile fun c => !Scalar.isControl c
  | t => t

/-- The text without the blanks, line breaks and comments at its start, or from a control in a comment
on. -/
def skipLines (inComment : Bool) : Text → Text
  | [] => []
  | '\n' :: rest => skipLines false rest
  | c :: rest =>
    if inComment then if Scalar.isControl c then c :: rest else skipLines true rest
    else if c == ' ' || c == '\t' then skipLines false rest
    else if c == '#' then skipLines true rest
    else c :: rest

/-- What follows the end of the line, if nothing but blanks and a comment stands before it. -/
def endLine? (t : Text) : Option Text :=
  match skipComment (skipSpace t) with
  | [] => some []
  | '\n' :: rest => some rest
  | _ => none

/-! ## Keys -/

/-- The characters of a key without quotes. -/
def isBare (c : Char) : Bool := c.isAlphanum || c == '_' || c == '-'

/-- The simple key at the start of a text, and what follows it. -/
def simpleKey? (t : Text) : Option (Text × Text) :=
  match t with
  | c :: rest =>
    if c == '"' || c == '\x27' then Scalar.shortString? c rest
    else
      let (key, after) := t.span isBare
      if key.isEmpty then none else some (key, after)
  | [] => none

/-- **The dotted key at the start of a text**, and what follows it and its blanks. -/
def key? : Nat → Text → Option (List Text × Text)
  | 0, _ => none
  | fuel + 1, t =>
    match simpleKey? (skipSpace t) with
    | some (name, after) =>
      match skipSpace after with
      | '.' :: rest => (key? fuel rest).map fun (names, after) => (name :: names, after)
      | rest => some ([name], rest)
    | none => none

/-! ## Values -/

mutual

/-- The value at the start of a text, and what follows it.  The fuel bounds the number of values and
items, of which each has a character of its own. -/
def valueWith? : Nat → Text → Option (Datum × Text)
  | 0, _ => none
  | fuel + 1, t =>
    match t with
    | '[' :: rest => (itemsWith? fuel rest).map fun (items, after) => (.list items, after)
    | '\x7b' :: rest =>
      match skipSpace rest with
      | '\x7d' :: after => some (.table [], after)
      | rest =>
        (pairsWith? fuel [] rest).map fun (entries, after) => (.table (Outline.toData entries), after)
    | c :: _ =>
      if c == '"' || c == '\x27' then
        (Scalar.string? t).map fun (s, after) => (.text s, after)
      else
        let (word, after) := Scalar.cutWord t
        (Scalar.word? word).map fun v => (v, after)
    | [] => none

/-- The items of a list up to its closing bracket, and what follows it; a comma may stand after the last
item. -/
def itemsWith? : Nat → Text → Option (List Datum × Text)
  | 0, _ => none
  | fuel + 1, t =>
    match skipLines false t with
    | ']' :: after => some ([], after)
    | t =>
      match valueWith? fuel t with
      | some (v, after) =>
        match skipLines false after with
        | ',' :: rest => (itemsWith? fuel rest).map fun (items, after) => (v :: items, after)
        | ']' :: rest => some ([v], rest)
        | _ => none
      | none => none

/-- The entries of a table in braces up to the closing brace, added to those before, and what follows
it. -/
def pairsWith? : Nat → List (Text × Outline) → Text → Option (List (Text × Outline) × Text)
  | 0, _, _ => none
  | fuel + 1, entries, t =>
    match key? (t.length + 1) t with
    | some (key, '=' :: rest) =>
      match valueWith? fuel (skipSpace rest) with
      | some (v, after) =>
        match Outline.insert? v key entries with
        | some entries =>
          match skipSpace after with
          | ',' :: rest => pairsWith? fuel entries rest
          | '\x7d' :: rest => some (entries, rest)
          | _ => none
        | none => none
      | none => none
    | _ => none

end

/-- **The value at the start of a text**, and what follows it. -/
def value? (t : Text) : Option (Datum × Text) := valueWith? (2 * t.length + 2) t

/-! ## Statements -/

/-- A document while it is read: the open header and the entries so far. -/
structure Progress where
  path : List Text
  entries : List (Text × Outline)

/-- The document after the statement at the start of a text, and what follows its line. -/
def statement? (p : Progress) (t : Text) : Option (Progress × Text) :=
  match t with
  | '[' :: '[' :: rest =>
    match key? (rest.length + 1) rest with
    | some (path, ']' :: ']' :: after) =>
      match Outline.openElement? path p.entries, endLine? after with
      | some entries, some after => some (⟨path, entries⟩, after)
      | _, _ => none
    | _ => none
  | '[' :: rest =>
    match key? (rest.length + 1) rest with
    | some (path, ']' :: after) =>
      match Outline.openTable? path p.entries, endLine? after with
      | some entries, some after => some (⟨path, entries⟩, after)
      | _, _ => none
    | _ => none
  | t =>
    match key? (t.length + 1) t with
    | some (key, '=' :: rest) =>
      match value? (skipSpace rest) with
      | some (v, after) =>
        match Outline.insertAt? key v p.path p.entries, endLine? after with
        | some entries, some after => some (⟨p.path, entries⟩, after)
        | _, _ => none
      | none => none
    | _ => none

/-- The document after all statements of a text, of which each has a character of its own. -/
def statements? : Nat → Progress → Text → Option Progress
  | 0, _, _ => none
  | fuel + 1, p, t =>
    match skipLines false t with
    | [] => some p
    | t =>
      match statement? p t with
      | some (p, after) => statements? fuel p after
      | none => none

/-- The entries of a document whose line breaks are single line feeds. -/
def entries? (t : Text) : Option (List (Text × Datum)) :=
  (statements? (t.length + 1) ⟨[], []⟩ t).map fun p => Outline.toData p.entries

/-- **The entries of a document**, in the order in which they are first named.  A carriage return
before a line feed is no part of the document, not even in a string; any other one is refused. -/
def read? (t : Text) : Option (List (Text × Datum)) := entries? (Text.shortenBreaks t)

/-- What is said of a text that is no document. -/
def refusal : Text := "the text is no document".toList

/-- **The entries of a document, or its refusal.** -/
def read (t : Text) : Except Text (List (Text × Datum)) :=
  match read? t with
  | some entries => .ok entries
  | none => .error refusal

end Chart.Document
