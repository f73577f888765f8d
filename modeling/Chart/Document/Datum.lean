import Chart.Number.Binary64
import Chart.Text.Basic

/-!
# Document/Datum — the values of a settings document

A document is a table; a **datum** is what stands under one of its keys.  Tables list their entries in
the order of the document.
-/

namespace Chart

/-- A value of a settings document. -/
inductive Datum where
  | text (t : Text)
  | integer (n : Int)
  | float (x : Binary64)
  | flag (b : Bool)
  /-- A value that no setting can have, such as a date. -/
  | other
  | list (items : List Datum)
  | table (entries : List (Text × Datum))
  deriving Inhabited

namespace Datum

/-- The value under the first entry with a key. -/
def find? (key : Text) : List (Text × Datum) → Option Datum
  | [] => none
  | (k, v) :: rest => if k = key then some v else find? key rest

end Datum

end Chart
