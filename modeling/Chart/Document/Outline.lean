import Chart.Document.Datum

/-!
# Document/Outline — a document while it is read

A table may be named several times while a document is read, but **defined only once**.  An outline
remembers how each table came to be, which decides whether a later line may still add to it.

* `Outline.openTable?`, `Outline.openElement?` — the header of a table, and that of one more table of a
  list.
* `Outline.insertAt?` — a key and its value under a header.
* `Outline.toData` — the finished document.
-/

namespace Chart

/-- How a table came to be. -/
inductive Origin where
  /-- Only the header of a table below it was read, so its own header may follow, or a dotted key that
  names it. -/
  | implied
  /-- Its own header was read. -/
  | header
  /-- A dotted key named it; only dotted keys of the same section add to it. -/
  | dotted
  deriving DecidableEq

/-- **What stands under a key while a document is read.** -/
inductive Outline where
  /-- A finished value. -/
  | value (v : Datum)
  | table (origin : Origin) (entries : List (Text × Outline))
  /-- A list of tables, the last one first. -/
  | tables (latest : List (Text × Outline)) (earlier : List (List (Text × Outline)))

namespace Outline

/-- The entries with the one under a key changed by `f`, which sees whether there is one; a new entry
comes last. -/
def alter? (key : Text) (f : Option Outline → Option Outline) :
    List (Text × Outline) → Option (List (Text × Outline))
  | [] => (f none).map fun v => [(key, v)]
  | (k, v) :: rest =>
    if k = key then (f (some v)).map fun v => (k, v) :: rest
    else (alter? key f rest).map ((k, v) :: ·)

/-- The entries after the header of a table was read. -/
def openTable? : List Text → List (Text × Outline) → Option (List (Text × Outline))
  | [], _ => none
  | [key], entries => alter? key (fun
    | none => some (.table .header [])
    | some (.table .implied es) => some (.table .header es)
    | some _ => none) entries
  | key :: path, entries => alter? key (fun
    | none => (openTable? path []).map (.table .implied)
    | some (.table origin es) => (openTable? path es).map (.table origin)
    | some (.tables es earlier) => (openTable? path es).map (.tables · earlier)
    | some (.value _) => none) entries

/-- The entries after the header of one more table of a list was read. -/
def openElement? : List Text → List (Text × Outline) → Option (List (Text × Outline))
  | [], _ => none
  | [key], entries => alter? key (fun
    | none => some (.tables [] [])
    | some (.tables es earlier) => some (.tables [] (es :: earlier))
    | some _ => none) entries
  | key :: path, entries => alter? key (fun
    | none => (openElement? path []).map (.table .implied)
    | some (.table origin es) => (openElement? path es).map (.table origin)
    | some (.tables es earlier) => (openElement? path es).map (.tables · earlier)
    | some (.value _) => none) entries

/-- The entries with a value under a dotted key. -/
def insert? (v : Datum) : List Text → List (Text × Outline) → Option (List (Text × Outline))
  | [], _ => none
  | [key], entries => alter? key (fun
    | none => some (.value v)
    | some _ => none) entries
  | key :: path, entries => alter? key (fun
    | none => (insert? v path []).map (.table .dotted)
    | some (.table .header _) => none
    | some (.table _ es) => (insert? v path es).map (.table .dotted)
    | some _ => none) entries

/-- The entries with a value under a dotted key, below an open header. -/
def insertAt? (key : List Text) (v : Datum) :
    List Text → List (Text × Outline) → Option (List (Text × Outline))
  | [], entries => insert? v key entries
  | name :: path, entries => alter? name (fun
    | some (.table origin es) => (insertAt? key v path es).map (.table origin)
    | some (.tables es earlier) => (insertAt? key v path es).map (.tables · earlier)
    | _ => none) entries

mutual

/-- The finished value. -/
def toDatum : Outline → Datum
  | .value v => v
  | .table _ entries => .table (toData entries)
  | .tables latest earlier => .list (toTables earlier ++ [.table (toData latest)])

/-- The finished entries. -/
def toData : List (Text × Outline) → List (Text × Datum)
  | [] => []
  | (key, v) :: rest => (key, toDatum v) :: toData rest

/-- The finished tables of a list, first one first. -/
def toTables : List (List (Text × Outline)) → List Datum
  | [] => []
  | entries :: earlier => toTables earlier ++ [.table (toData entries)]

end

end Outline

end Chart
