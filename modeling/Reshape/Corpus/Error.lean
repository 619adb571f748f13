import Reshape.Error

/-!
# Errors of a corpus

Why a case cannot be read, why it fails, and why a run of cases fails.

* **`IoFault`** — the faults of files and directories.
* **`CaseFault`** — why a case fails.
* **`CorpusError`** — an error; `CorpusError.message` is its wording.
-/

namespace Reshape

open Json

/-- A fault of a file or a directory. -/
inductive IoFault where
  | notFound
  | alreadyThere
  | notDirectory
  | isDirectory
  | nameTooLong
  | nulInPath
  | notText
deriving DecidableEq, Repr

/-- The wording of a fault of a file or a directory. -/
def IoFault.text : IoFault → String
  | .notFound => "No such file or directory (os error 2)"
  | .alreadyThere => "File exists (os error 17)"
  | .notDirectory => "Not a directory (os error 20)"
  | .isDirectory => "Is a directory (os error 21)"
  | .nameTooLong => "File name too long (os error 36)"
  | .nulInPath => "file name contained an unexpected NUL byte"
  | .notText => "stream did not contain valid UTF-8"

/-- Why a corpus does not do what is asked of it. -/
inductive CorpusFault where
  /-- A case expects neither an output nor an error. -/
  | noExpectation
  /-- No case is chosen by a pattern. -/
  | noMatch (pattern : String)
  | stated (text : String)
deriving DecidableEq, Repr

/-- The wording of a corpus fault. -/
def CorpusFault.text : CorpusFault → String
  | .noExpectation => "test case has neither an output nor an error_pattern"
  | .noMatch pattern => "No tests found matching pattern '" ++ pattern ++ "'"
  | .stated text => text

/-- The wording of a corpus fault as an error. -/
def corpusText (fault : CorpusFault) : String := "Corpus error: " ++ fault.text

/-- The wording of an error of a mapping in a corpus. -/
def mappingText (e : Error) : String := "Mapping error: " ++ e.message

/-- Why a case fails. -/
inductive CaseFault where
  /-- The case expects nothing. -/
  | noExpectation
  /-- The mapping fails although an output is expected. -/
  | unexpected (e : Error)
  /-- The mapping fails with another error than the one expected. -/
  | wrongError (pattern : String) (e : Error)
  /-- The mapping gives an output although an error is expected. -/
  | noError (pattern : String) (output : Value)
  /-- The output is not the one expected; the differences are shown. -/
  | mismatch (diff : String)
deriving Repr

/-- The wording of a case fault. -/
def CaseFault.text : CaseFault → String
  | .noExpectation => corpusText .noExpectation
  | .unexpected e => mappingText e
  | .wrongError pattern e =>
    "Expected error containing '" ++ pattern ++ "', got '" ++ mappingText e ++ "'"
  | .noError pattern output =>
    "Expected error containing '" ++ pattern ++ "', mapping produced " ++ output.compact
  | .mismatch _ => "Output mismatch"

/-- The differences that a case fault shows. -/
def CaseFault.diff? : CaseFault → Option String
  | .mismatch diff => some diff
  | _ => none

/-- Why a run of cases fails. -/
inductive RunFault where
  /-- The only case of the run fails. -/
  | single (name : String) (fault : CaseFault)
  /-- That many cases fail. -/
  | several (count : Nat)
  | stated (text : String)
deriving Repr

/-- The wording of a run fault. -/
def RunFault.text : RunFault → String
  | .single name fault => "Test '" ++ name ++ "' failed: " ++ fault.text
  | .several count => natText count ++ " test(s) failed"
  | .stated text => text

/-- An error of a corpus. -/
inductive CorpusError where
  | io (fault : IoFault)
  | json (fault : Json.Fault)
  | mapping (e : Error)
  | corpus (fault : CorpusFault)
  | testFailed (fault : RunFault)
deriving Repr

/-- The wording of an error of a corpus. -/
def CorpusError.message : CorpusError → String
  | .io fault => "IO error: " ++ fault.text
  | .json fault => "JSON error: " ++ fault.text
  | .mapping e => mappingText e
  | .corpus fault => corpusText fault
  | .testFailed fault => "Test failed: " ++ fault.text

end Reshape
