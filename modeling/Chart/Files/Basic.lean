import Chart.Files.Path
import Chart.Text.Quoted
import Chart.Text.Utf8

/-!
# Files/Basic — a file system

A file system maps **locations**, the names on the way down from the root, to files and directories,
and relative paths start at one of its directories.  The usual one has a working directory, where they
start, and a home directory beside it; both lie in a directory with an empty name, which no path from
the root can spell.

* `FileSystem.read`, `FileSystem.readText` — the bytes and the text of a file, or why there are none.
* `FileSystem.write`, `FileSystem.makeDirectory` — the file system after something was made at a path,
  or why it was not.
* `FileSystem.remove?` — the file system without a file.
* `FileFault.message` — the report of a fault.
-/

namespace Chart

/-- The names on the way down from the root. -/
abbrev Location := List Text

/-- What is at a location. -/
inductive Entry where
  | file (data : ByteArray)
  | directory
  /-- A device that is always empty and keeps nothing. -/
  | sink
  /-- A name that the system refuses to follow, such as one in a loop of links, and what it says then. -/
  | refused (reason : Text)

/-- **A file system**: the directory where relative paths start, and the entries below the root. -/
structure FileSystem where
  start : Location
  entries : List (Location × Entry)

/-- Why a path cannot be used. -/
inductive FileFault where
  | notFound
  | alreadyThere
  /-- Something before the last name of a path is a file. -/
  | notADirectory
  | isADirectory
  | nameTooLong
  /-- Whatever else the system has against it, in its words. -/
  | refused (reason : Text)
  deriving DecidableEq

/-- The number and the words of a fault. -/
def FileFault.reason : FileFault → Text
  | notFound => "[Errno 2] No such file or directory".toList
  | alreadyThere => "[Errno 17] File exists".toList
  | notADirectory => "[Errno 20] Not a directory".toList
  | isADirectory => "[Errno 21] Is a directory".toList
  | nameTooLong => "[Errno 36] File name too long".toList
  | refused reason => reason

/-- **The report of a fault** at a path. -/
def FileFault.message (fault : FileFault) (path : Text) : Text :=
  fault.reason ++ ": ".toList ++ path.quoted

/-- The greatest number of bytes of a name. -/
def longestName : Nat := 255

/-- The greatest number of bytes of a path. -/
def longestPath : Nat := 4095

namespace FileSystem

/-- The working directory of the user. -/
def work : Location := [[], "work".toList]

/-- The home directory of the user. -/
def home : Location := [[], "home".toList]

/-- The names of the directories that every root has. -/
def rootNames : List Text :=
  ["bin", "boot", "dev", "etc", "home", "lib", "media", "mnt", "opt", "proc", "root", "run", "sbin",
    "srv", "sys", "tmp", "usr", "var"].map String.toList

/-- What every file system has: a directory without a name, and the usual root. -/
def base : List (Location × Entry) :=
  ([[]], .directory) :: (["dev".toList, "null".toList], .sink) ::
    rootNames.map fun name => ([name], .directory)

/-- The file system with an empty working and an empty home directory. -/
def fresh : FileSystem := ⟨work, (work, .directory) :: (home, .directory) :: base⟩

/-- What is at a location. -/
def at? (fs : FileSystem) (location : Location) : Option Entry :=
  if location.isEmpty then some .directory else fs.entries.lookup location

/-- The file system with an entry put at a location. -/
def put (fs : FileSystem) (location : Location) (entry : Entry) : FileSystem :=
  { fs with entries := (location, entry) :: fs.entries.filter fun e => e.1 != location }

/-- The file system without the entry at a location. -/
def erase (fs : FileSystem) (location : Location) : FileSystem :=
  { fs with entries := fs.entries.filter fun e => e.1 != location }

/-- **The location that steps lead to** from another one.  Every step has to start at a directory. -/
def walk (fs : FileSystem) : Location → List Text → Except FileFault Location
  | location, [] => .ok location
  | location, name :: rest =>
    match fs.at? location with
    | some .directory =>
      if name = Path.here then walk fs location rest
      else if name = Path.above then walk fs location.dropLast rest
      else if longestName < (Text.toUtf8 name).size then .error .nameTooLong
      else walk fs (location ++ [name]) rest
    | some (.file _) | some .sink => .error .notADirectory
    | some (.refused reason) => .error (.refused reason)
    | none => .error .notFound

/-- The location that the given steps of a path lead to; the empty path leads nowhere. -/
def follow (fs : FileSystem) (path : Text) (steps : List Text) : Except FileFault Location :=
  if path.isEmpty then .error .notFound
  else if longestPath < (Text.toUtf8 path).size then .error .nameTooLong
  else walk fs (if Path.isAbsolute path then [] else fs.start) steps

/-- **The bytes of the file at a path.**  A path that ends like that of a directory has one more step,
which stays there. -/
def read (fs : FileSystem) (path : Text) : Except FileFault ByteArray :=
  let steps := Path.steps path ++ if Path.endsAsDirectory path then [Path.here] else []
  match fs.follow path steps with
  | .error fault => .error fault
  | .ok location =>
    match fs.at? location with
    | some (.file data) => .ok data
    | some .directory => .error .isADirectory
    | some .sink => .ok ByteArray.empty
    | some (.refused reason) => .error (.refused reason)
    | none => .error .notFound

/-- **The file system after bytes were written to a path**; no directory is made for them.  A path that
ends like that of a directory is followed as far as its last step, and then it is refused. -/
def write (fs : FileSystem) (path : Text) (data : ByteArray) : Except FileFault FileSystem :=
  if Path.endsAsDirectory path then
    match fs.follow path ((Path.steps path).dropLast ++ [Path.here]) with
    | .error fault => .error fault
    | .ok _ => .error .isADirectory
  else
    match fs.follow path (Path.steps path) with
    | .error fault => .error fault
    | .ok location =>
      match fs.at? location with
      | some .directory => .error .isADirectory
      | some .sink => .ok fs
      | some (.refused reason) => .error (.refused reason)
      | some (.file _) | none => .ok (fs.put location (.file data))

/-- Whether there is a regular file at a location. -/
def fileAt? (fs : FileSystem) (location : Location) : Option ByteArray :=
  match fs.at? location with
  | some (.file data) => some data
  | _ => none

/-- **The file system with a directory made at a path.**  There may be nothing there before; a path that
ends in a step that is no name leads to a directory that exists. -/
def makeDirectory (fs : FileSystem) (path : Text) : Except FileFault FileSystem :=
  match fs.follow path (Path.steps path) with
  | .error fault => .error fault
  | .ok location =>
    match fs.at? location with
    | some _ => .error .alreadyThere
    | none => .ok (fs.put location .directory)

/-- The file system without the regular file at a path, if there is one. -/
def remove? (fs : FileSystem) (path : Text) : Option FileSystem :=
  match fs.read path with
  | .error _ => none
  | .ok _ =>
    match fs.follow path (Path.steps path) with
    | .error _ => none
    | .ok location => (fs.fileAt? location).map fun _ => fs.erase location

end FileSystem

/-! ## Texts -/

/-- What is read from a path. -/
inductive ReadResult where
  | text (t : Text)
  | fault (f : FileFault)
  | notUtf8
  | nullCharacter
  deriving DecidableEq

/-- **The text at a path.**  The path is normalised before it is followed. -/
def FileSystem.readText (fs : FileSystem) (path : Text) : ReadResult :=
  if '\x00' ∈ path then .nullCharacter
  else
    match fs.read (Path.normalised path) with
    | .error f => .fault f
    | .ok data =>
      match Text.ofFile? data with
      | some t => .text t
      | none => .notUtf8

end Chart
