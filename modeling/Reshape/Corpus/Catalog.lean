import Reshape.Corpus.Case
import Reshape.Corpus.Tree

/-!
# The cases of a corpus

A corpus is a directory in which every file of one name holds a case.  Files that hold none are
passed over.  The cases are ordered by priority, category and name; cases equal in all three stay in
the order in which they were found.

* **`Corpus`** — the directory, which may be missing.
* **`Corpus.load`** — the case of a file, with its specification read from a second file if it only
  names one.
* **`Corpus.discover`** — all cases, in order.
* **`chosenByCategory`**, **`chosenByTags`**, **`chosenByPattern`** — some of them.
* **`Statistics`** — their numbers.
* **`Corpus.init`** — a corpus with directories and a first case.
-/

namespace Reshape

open Json

/-- A directory of cases; there may be no such directory. -/
structure Corpus where
  /-- The directory. -/
  root : Option Node

/-- The name of the files that hold cases. -/
def caseFile : String := "test.json"

/-- The ending of the names of files that hold specifications. -/
def specEnding : String := ".json"

/-- Whether a path begins at the root of the file system. -/
def isAbsolute (path : String) : Bool := path.toList.head? == some '/'

/-- The steps of a path behind other steps.  A path from the root of the file system is not behind
them and leads out of the corpus. -/
def stepsBehind (steps : List String) (path : String) : List String :=
  if isAbsolute path then Node.upward :: Node.stepsOf path else steps ++ Node.stepsOf path

namespace Corpus

/-! ### Loading -/

/-- The text of the file behind some steps. -/
def readText (corpus : Corpus) (steps : List String) : Except IoFault String :=
  match Node.pathFault? steps, corpus.root with
  | some fault, _ => .error fault
  | none, none => .error .notFound
  | none, some root => root.readText steps

/-- The specification in a file, if the specification of a case is the name of one. -/
def resolveSpec (corpus : Corpus) (folder : List String) : Value → Except CorpusError Value
  | .string name =>
    if specEnding.toList.isSuffixOf name.toList then
      match corpus.readText (stepsBehind folder name) with
      | .error fault => .error (.io fault)
      | .ok text =>
        match Json.read text with
        | .error fault => .error (.json fault)
        | .ok spec => .ok spec
    else .ok (.string name)
  | spec => .ok spec

/-- The case in the file behind some steps. -/
def loadAt (corpus : Corpus) (steps : List String) : Except CorpusError Case :=
  match corpus.readText steps with
  | .error fault => .error (.io fault)
  | .ok text =>
    match Case.read text with
    | .error fault => .error (.json fault)
    | .ok c => (corpus.resolveSpec steps.dropLast c.spec).map fun spec => { c with spec := spec }

/-- The case in the file at a path. -/
def load (corpus : Corpus) (path : String) : Except CorpusError Case :=
  corpus.loadAt (stepsBehind [] path)

/-- The case in a directory. -/
def loadFolder (corpus : Corpus) (path : String) : Except CorpusError Case :=
  corpus.loadAt (stepsBehind [] path ++ [caseFile])

/-- The text of the file at a path. -/
def textOf (corpus : Corpus) (path : String) : Except CorpusError String :=
  match corpus.readText (stepsBehind [] path) with
  | .error fault => .error (.io fault)
  | .ok text => .ok text

end Corpus

/-! ### Discovery -/

mutual

/-- The steps to the files below a node that hold cases, in the order of the entries. -/
def caseFilesBelow (steps : List String) (node : Node) : List (List String) :=
  match node with
  | .file _ => []
  | .dir entries => caseFilesAmong steps entries
termination_by structural node

/-- The steps to the files among entries, and below them, that hold cases. -/
def caseFilesAmong (steps : List String) (entries : List (String × Node)) : List (List String) :=
  match entries with
  | [] => []
  | (name, node) :: rest =>
    let here := match node with
      | .file _ => if name = caseFile then [steps ++ [name]] else []
      | .dir _ => []
    here ++ caseFilesBelow (steps ++ [name]) node ++ caseFilesAmong steps rest
termination_by structural entries

end

/-- The order of cases: by priority, then by category, then by name. -/
def Case.isUpTo (a b : Case) : Bool :=
  if a.metadata.priority ≠ b.metadata.priority then
    decide (a.metadata.priority < b.metadata.priority)
  else if a.category ≠ b.category then decide (a.category < b.category)
  else decide (a.name ≤ b.name)

namespace Corpus

/-- The cases that can be loaded, in the order in which their files are found. -/
def loadable (corpus : Corpus) : List Case :=
  match corpus.root with
  | none => []
  | some root => (caseFilesBelow [] root).filterMap fun steps => (corpus.loadAt steps).toOption

/-- The cases in order. -/
def discover (corpus : Corpus) : List Case := corpus.loadable.mergeSort Case.isUpTo

/-- The labels of the cases, in order. -/
def labels (corpus : Corpus) : List String := corpus.discover.map Case.label

end Corpus

/-! ### Choosing cases -/

/-- The word that chooses all cases. -/
def everything : String := "*"

/-- The cases of a category. -/
def chosenByCategory (category : String) (cases : List Case) : List Case :=
  cases.filter fun c => c.category == category || category == everything

/-- The cases with at least one of some tags; all cases if there are no tags to choose by. -/
def chosenByTags (tags : List String) (cases : List Case) : List Case :=
  if tags.isEmpty then cases
  else cases.filter fun c => tags.any fun tag => c.metadata.tags.contains tag

/-- Whether a list occurs in another one without gaps. -/
def occursIn (part : List Char) : List Char → Bool
  | [] => part.isEmpty
  | c :: cs => part.isPrefixOf (c :: cs) || occursIn part cs

/-- Whether a text occurs in another one. -/
def textContains (whole part : String) : Bool := occursIn part.toList whole.toList

/-- The cases with a pattern in their name or category. -/
def chosenByPattern (pattern : String) (cases : List Case) : List Case :=
  if pattern = everything then cases
  else cases.filter fun c => textContains c.name pattern || textContains c.category pattern

/-! ### Statistics -/

/-- The numbers of cases. -/
structure Statistics where
  /-- All cases. -/
  total : Nat
  /-- Those that are run. -/
  enabled : Nat
  /-- Those that are not run. -/
  disabled : Nat
  /-- Those that expect an error. -/
  errors : Nat
  /-- The number of cases of each category. -/
  categories : Keyed Nat

namespace Statistics

/-- The numbers of some cases. -/
def ofCases (cases : List Case) : Statistics where
  total := cases.length
  enabled := cases.countP fun c => c.metadata.enabled
  disabled := cases.countP fun c => !c.metadata.enabled
  errors := cases.countP fun c => c.expectations.errorPattern.isSome
  categories := cases.foldl
    (fun counts c =>
      Keyed.set c.category ((Keyed.get? c.category counts).getD 0 + 1) counts) []

/-- The numbers as text. -/
def text (s : Statistics) : String :=
  "=== Corpus Statistics ===\n" ++
  "Total tests: " ++ natText s.total ++ "\n" ++
  "Enabled: " ++ natText s.enabled ++ "\n" ++
  "Disabled: " ++ natText s.disabled ++ "\n" ++
  "Expecting errors: " ++ natText s.errors ++ "\n" ++
  (if s.categories.isEmpty then ""
   else "\nTests by category:\n" ++ String.join (s.categories.map fun entry =>
     "  " ++ entry.1 ++ ": " ++ natText entry.2 ++ "\n"))

end Statistics

/-! ### A first corpus -/

/-- The directories of a first corpus. -/
def firstFolders : List String := ["basic", "nested", "edge-cases", "errors"]

/-- The case of a first corpus. -/
def firstCase : Case where
  name := "hello-world"
  category := "basic"
  spec := .array [.string "greeting", .object [("name", .string "who")]]
  input :=
    .object [("greeting", .string "hello"), ("ignored", .bool true), ("name", .string "world")]
  options := .empty
  expectations :=
    { output := some (.object [("greeting", .string "hello"), ("who", .string "world")]),
      errorPattern := none }
  metadata :=
    { description := "Copy one field and rename another", tags := ["basic", "smoke"],
      enabled := true, priority := 1 }

namespace Corpus

/-- Makes directories one after the other, up to the first fault; what has been made stays. -/
def makeFolders (node : Node) : List String → Node × Except IoFault Unit
  | [] => (node, .ok ())
  | folder :: rest =>
    match node.makeDirs (Node.stepsOf folder) with
    | (node, .ok _) => makeFolders node rest
    | (node, .error fault) => (node, .error fault)

/-- The corpus with the directories and the case of a first corpus.  A fault ends the work, and what
has been made before stays. -/
def init (corpus : Corpus) : Corpus × Except CorpusError Unit :=
  let root := corpus.root.getD Node.emptyDir
  match makeFolders root (firstFolders ++ [firstCase.label]) with
  | (root, .error fault) => (⟨some root⟩, .error (.io fault))
  | (root, .ok ()) =>
    match Node.changeAt (Node.withFile caseFile firstCase.text.toUTF8)
      (Node.stepsOf firstCase.label) root with
    | .ok root => (⟨some root⟩, .ok ())
    | .error fault => (⟨some root⟩, .error (.io fault))

/-- The corpus with a file at a path, and the directories above it.  A fault ends the work, and what
has been made before stays. -/
def write (corpus : Corpus) (path : String) (bytes : ByteArray) :
    Corpus × Except CorpusError Unit :=
  match (corpus.root.getD Node.emptyDir).write (stepsBehind [] path) bytes with
  | (root, .ok ()) => (⟨some root⟩, .ok ())
  | (root, .error fault) => (⟨some root⟩, .error (.io fault))

/-- All paths of the corpus. -/
def paths (corpus : Corpus) : List String :=
  match corpus.root with
  | none => []
  | some root => root.paths

end Corpus

end Reshape
