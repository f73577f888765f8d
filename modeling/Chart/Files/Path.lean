import Chart.Text.Basic

/-!
# Files/Path — paths

A path is read from left to right, step by step: `.` stays where it is, `..` goes to the directory
above, and any other step is a name.

* `Path.steps` — the steps of a path.
* `Path.names` — the steps that go somewhere.
* `Path.normalised` — the shortest spelling that keeps every `..`.
-/

namespace Chart.Path

/-- The name of the directory itself. -/
def here : Text := ['.']

/-- The name of the directory above. -/
def above : Text := ['.', '.']

/-- **The steps of a path**; slashes one after the other count as one. -/
def steps (path : Text) : List Text := (path.pieces (· == '/')).filter (· != [])

/-- The steps of a path that go somewhere. -/
def names (path : Text) : List Text := (steps path).filter (· != here)

/-- Whether a path starts at the root. -/
def isAbsolute (path : Text) : Bool := path.head? == some '/'

/-- Whether a path ends like the path of a directory. -/
def endsAsDirectory (path : Text) : Bool := path.getLast? == some '/'

/-- What a path starts with; exactly two slashes at the start are kept apart from one. -/
def root : Text → Text
  | '/' :: '/' :: '/' :: _ => ['/']
  | '/' :: '/' :: _ => ['/', '/']
  | '/' :: _ => ['/']
  | _ => []

/-- **The path without what stands for nothing**; the empty path is the directory itself. -/
def normalised (path : Text) : Text :=
  match root path ++ ['/'].intercalate (names path) with
  | [] => here
  | spelling => spelling

end Chart.Path
