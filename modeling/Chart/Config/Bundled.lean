import Chart.Config.Defaults

/-!
# Config/Bundled — the configuration that comes with the program

The bundled configuration is the last source of every resolution, so an option that no other source
speaks about has the default given here.  It is also what a user starts from.
-/

namespace Chart.Bundled

/-- The lines of the bundled configuration; the last one is empty, as every line ends in a break. -/
def lines : List Text :=
  ["# Default settings for the cyk command line interface. Copy this file to",
    "# `./.cykrc` or `~/.cykrc` to override the defaults. Settings for a command",
    "# take precedence over those in `defaults.default`.",
    "",
    "[[defaults.default]]",
    "\"--log-level\" = \"WARNING\"",
    "",
    "[[defaults.check]]",
    "\"--normal-form\" = \"2nf\"",
    "\"--line-check\" = true",
    "\"--print-table\" = false",
    "\"--timeout\" = -1.0",
    "",
    "[[defaults.show]]",
    "\"--normal-form\" = \"2nf\"",
    "\"--format\" = \"debug\"",
    ""].map String.toList

/-- **The text of the bundled configuration.** -/
def config : Text := ['\n'].intercalate lines

/-- The sources of a configuration, the most important one first: a given text, the file of the working
directory, the file of the home directory, the bundled one. -/
def sources (content work home : Option Text) : List Text :=
  content.toList ++ work.toList ++ home.toList ++ [config]

end Chart.Bundled
