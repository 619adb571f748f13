import Reshape.Compile
import Reshape.Corpus.Catalog
import Reshape.Diff.Report
import Reshape.Mapping

/-!
# Running cases

A case is run by compiling its specification, mapping its input and comparing what comes out with
what is expected.  A run prints its results.

* **`Case.perform`**, **`Case.verdict`** — the mapping of a case, and what is wrong with it.
* **`CaseResult`** — the outcome of one case, with its printed form.
* **`Runner`**, **`Outcome`** — how cases are run, and what a run notes, prints and gives.
* **`Runner.runOne`**, **`Runner.runBatch`** — one case by its directory, or those of a pattern.
-/

namespace Reshape

open Json

/-- How cases are run. -/
structure Runner where
  /-- The names that specifications can use. -/
  registry : Registry
  /-- How outputs are compared. -/
  diff : DiffOptions
  /-- Whether results are printed in full. -/
  verbose : Bool
  /-- Whether the output goes to a terminal. -/
  ansi : Bool

/-! ### One case -/

/-- The output of a case. -/
def Case.perform (registry : Registry) (c : Case) : Traced Value :=
  (Mapper.ofJson registry c.spec).andThen fun m => m.run c.input c.options

/-- What is wrong with a case whose mapping went as given; nothing for a case that passes. -/
def Case.verdict (diff : DiffOptions) (ansi : Bool) (c : Case) (mapped : Except Error Value) :
    Option CaseFault :=
  match c.expectations.errorPattern, mapped with
  | some pattern, .error e =>
    if textContains (mappingText e) pattern then none else some (.wrongError pattern e)
  | some pattern, .ok output => some (.noError pattern output)
  | none, .error e => some (.unexpected e)
  | none, .ok actual =>
    let comparison := compareValues diff ansi (c.expectations.output.getD .null) actual
    if comparison.agrees then none else some (.mismatch comparison.output)

/-- Whether a case expects anything. -/
def Case.expectsNothing (c : Case) : Bool :=
  c.expectations.output.isNone && c.expectations.errorPattern.isNone

/-- What is wrong with a case, and the events of its mapping.  A case that is not enabled passes,
and one that expects nothing fails, without being mapped. -/
def Runner.check (r : Runner) (c : Case) : List Event × Option CaseFault :=
  if !c.metadata.enabled then ([], none)
  else if c.expectsNothing then ([], some .noExpectation)
  else
    let performed := c.perform r.registry
    (performed.events, c.verdict r.diff r.ansi performed.result)

/-- The outcome of one case. -/
structure CaseResult where
  /-- The name under which the case was run. -/
  name : String
  /-- What is wrong with the case. -/
  fault : Option CaseFault
deriving Repr

namespace CaseResult

/-- Whether the case passes. -/
def passed (r : CaseResult) : Bool := r.fault.isNone

/-- The differences that are shown. -/
def diff? (r : CaseResult) : Option String := r.fault.bind CaseFault.diff?

/-- What stands for the time that a case took, which is not measured. -/
def untimed : String := "_"

/-- The printed form of a result. -/
def text (ansi verbose : Bool) (r : CaseResult) : String :=
  let status :=
    if r.passed then painted ansi .boldGreen "PASS" else painted ansi .boldRed "FAIL"
  let error := match r.fault with
    | some fault => "  " ++ painted ansi .red "Error" ++ ": " ++ fault.text ++ "\n"
    | none => ""
  let diff := match r.diff? with
    | some diff => if verbose || !r.passed then diff ++ "\n" else ""
    | none => ""
  status ++ " " ++ r.name ++ " (" ++ untimed ++ "ms)\n" ++ error ++ diff

end CaseResult

/-! ### Runs -/

/-- What a run notes, prints and gives. -/
structure Outcome (α : Type) where
  /-- The events of the mappings. -/
  events : List Event
  /-- What is printed. -/
  printed : String
  /-- The result or the error. -/
  result : Except CorpusError α

namespace Runner

/-- Runs the case in a directory under the name of the directory. -/
def runOne (r : Runner) (corpus : Corpus) (name : String) : Outcome CaseResult :=
  match corpus.loadFolder name with
  | .error e => ⟨[], "", .error e⟩
  | .ok c =>
    let (events, fault) := r.check c
    let result : CaseResult := ⟨name, fault⟩
    let printed := if r.verbose then result.text r.ansi true else ""
    match fault with
    | none => ⟨events, printed, .ok result⟩
    | some fault => ⟨events, printed, .error (.testFailed (.single name fault))⟩

/-- The events and the results of cases, each under its label. -/
def runAll (r : Runner) (cases : List Case) : List Event × List CaseResult :=
  let checked := cases.map fun c => (c.label, r.check c)
  (checked.flatMap fun entry => entry.2.1, checked.map fun entry => ⟨entry.1, entry.2.2⟩)

/-- The number of results that do not pass. -/
def failures (results : List CaseResult) : Nat := results.countP fun result => !result.passed

/-- The lines below the results of a batch. -/
def summary (ansi : Bool) (results : List CaseResult) : String :=
  let failed := failures results
  "\n" ++ painted ansi .bold "=== Test Summary ===" ++ "\n" ++
  painted ansi .bold "Results" ++ ": " ++
  painted ansi .green (natText (results.length - failed)) ++ " passed, " ++
  painted ansi .red (natText failed) ++ " failed\n"

/-- Runs the cases that a pattern chooses, in their order. -/
def runBatch (r : Runner) (corpus : Corpus) (pattern : String) : Outcome (List CaseResult) :=
  let cases := chosenByPattern pattern corpus.discover
  if cases.isEmpty then ⟨[], "", .error (.corpus (.noMatch pattern))⟩
  else
    let (events, results) := r.runAll cases
    let printed :=
      "Running " ++ natText cases.length ++ " tests...\n\n" ++
      String.join (results.map (CaseResult.text r.ansi r.verbose)) ++ summary r.ansi results
    let failed := failures results
    if failed = 0 then ⟨events, printed, .ok results⟩
    else ⟨events, printed, .error (.testFailed (.several failed))⟩

end Runner

end Reshape
