import Chart.Document.Datum
import Chart.Number.Shortest
import Chart.Text.Quoted

/-!
# Config/Setting — the values that settings can have

A setting is a text, an integer, a float or a truth value; lists and tables are no settings.

* `Setting.toText` — how a setting is shown, and `Setting.quoted` — the same, but with a text between
  quotes.
* `Setting.isOn` — whether a setting switches something on.
-/

namespace Chart

/-- The value of a setting. -/
inductive Setting where
  | text (t : Text)
  | integer (n : Int)
  | float (x : Binary64)
  | flag (b : Bool)
  deriving DecidableEq

namespace Setting

/-- The setting that a datum is, if it is one. -/
def ofDatum? : Datum → Option Setting
  | .text t => some (text t)
  | .integer n => some (integer n)
  | .float x => some (float x)
  | .flag b => some (flag b)
  | .other | .list _ | .table _ => none

/-- **How a setting is shown.** -/
def toText : Setting → Text
  | text t => t
  | integer n => Text.ofInt n
  | float x => x.toText
  | flag b => if b then "True".toList else "False".toList

/-- How a setting is shown where texts stand between quotes. -/
def quoted : Setting → Text
  | text t => t.quoted
  | s => s.toText

/-- **Whether a setting switches something on**: the empty text, zero and the false value do not. -/
def isOn : Setting → Bool
  | text t => !t.isEmpty
  | integer n => n != 0
  | float x => !x.isZero
  | flag b => b

end Setting

end Chart
