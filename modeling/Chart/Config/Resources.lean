import Chart.Config.Bundled
import Chart.Files.Basic

/-!
# Config/Resources — the files that come with the program

The program brings a small tree of files of its own.  Paths into it start where the tree does.
-/

namespace Chart.Resources

/-- Where the tree starts. -/
def top : Location := [[], "cyk".toList]

/-- Where the bundled configuration is kept. -/
def configPath : List Text := ["resources".toList, ".cykrc".toList]

/-- The tree of files, alone in its directory. -/
def tree : FileSystem :=
  ⟨top, (top ++ configPath, .file (Text.toUtf8 Bundled.config)) ::
    (top ++ configPath.dropLast, .directory) :: (top, .directory) :: FileSystem.base⟩

/-- **The text of a file of the tree.** -/
def read (path : Text) : ReadResult := tree.readText path

end Chart.Resources
