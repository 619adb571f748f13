import Reshape.Diff.Report
import Reshape.Text.Case

/-!
# Settings

Where the corpus is and how its cases are run, as far as the environment says so.

* **`Settings`** — the settings, with `Settings.standard`.
* **`Settings.ofEnvironment`** — the settings under some variables.
-/

namespace Reshape

/-- The settings of a run. -/
structure Settings where
  /-- The directory of the corpus. -/
  corpusDir : String
  /-- How outputs are compared. -/
  diff : DiffOptions
  /-- Whether results are printed in full. -/
  verbose : Bool
deriving Repr

namespace Settings

/-- The settings without any variable. -/
def standard : Settings := ⟨"../../golden-corpus", .standard, false⟩

/-- Whether the value of a variable switches something on. -/
def isOn (s : String) : Bool := s == "1" || Text.lower s == "true"

/-- The settings under the variables of an environment. -/
def ofEnvironment (lookup : String → Option String) : Settings :=
  { standard with
    corpusDir := (lookup "GOLDEN_CORPUS_DIR").getD standard.corpusDir
    verbose := ((lookup "GOLDEN_VERBOSE").map isOn).getD standard.verbose }

end Settings

end Reshape
