import Reshape.Corpus.Error
import Reshape.Keyed
import Reshape.Text.Pieces

/-!
# Trees of files

A directory with all that is in it, as a value.  Paths are written with slashes; an empty step and a
single dot stay where they are, and two dots go back to the directory above.  Above the root of the
tree are directories of which nothing else is known: no name is found in them, and what is written
there is not kept.

* **`Node`** — a file or a directory.
* **`Node.pathFault?`** — why no file system takes a path.
* **`Node.find`**, **`Node.readText`** — what is at a path, and the text of a file.
* **`Node.makeDirs`**, **`Node.write`** — a tree with directories or a file made in it.
* **`Node.paths`** — all paths of a tree.
-/

namespace Reshape

/-- A file with its bytes, or a directory with its entries in some order. -/
inductive Node where
  | file (bytes : ByteArray)
  | dir (entries : List (String × Node))

namespace Node

/-- An empty directory. -/
def emptyDir : Node := .dir []

/-- The steps of a path. -/
def stepsOf (path : String) : List String := (Text.pieces '/' path.toList).map String.ofList

/-- Whether a step stays where it is. -/
def staysPut (step : String) : Bool := step == "" || step == "."

/-- The step to the directory above. -/
def upward : String := ".."

/-! ### Limits of names and paths -/

/-- The most bytes that a name may have. -/
def longestName : Nat := 255

/-- The most bytes that a path in a tree may have; of all that a path may have, the rest is left for
the way to the tree. -/
def longestPath : Nat := 4040

/-- Whether a name has more bytes than a name may have. -/
def isTooLong (name : String) : Bool := longestName < name.utf8ByteSize

/-- Why no file system takes the path of some steps, whatever is in it: a NUL would end the path
early, and its length is limited. -/
def pathFault? (steps : List String) : Option IoFault :=
  if steps.any fun step => step.toList.contains '\x00' then some .nulInPath
  else if longestPath < (String.intercalate "/" steps).utf8ByteSize then some .nameTooLong
  else none

/-! ### Looking up -/

/-- What is behind some steps; `above` are the directories above the node, the nearest first. -/
def walk (above : List Node) (node : Node) : List String → Except IoFault Node
  | [] => .ok node
  | step :: rest =>
    match node with
    | .file _ => .error .notDirectory
    | .dir entries =>
      if staysPut step then walk above node rest
      else if step = upward then
        match above with
        | [] => walk [] emptyDir rest
        | parent :: above => walk above parent rest
      else
        match Keyed.get? step entries with
        | none => .error (if isTooLong step then .nameTooLong else .notFound)
        | some child => walk (node :: above) child rest

/-- What is behind some steps from the root. -/
def find (root : Node) (steps : List String) : Except IoFault Node := walk [] root steps

/-- The text of a node, which has to be a file. -/
def text : Node → Except IoFault String
  | .dir _ => .error .isDirectory
  | .file bytes =>
    match String.fromUTF8? bytes with
    | some s => .ok s
    | none => .error .notText

/-- The text of the file behind some steps. -/
def readText (root : Node) (steps : List String) : Except IoFault String :=
  (root.find steps).bind text

/-! ### Making files -/

/-- The tree with the entries of one directory changed, to which names lead. -/
def changeAt (change : List (String × Node) → Except IoFault (List (String × Node))) :
    List String → Node → Except IoFault Node
  | _, .file _ => .error .notDirectory
  | [], .dir entries => (change entries).map .dir
  | name :: rest, .dir entries =>
    match Keyed.get? name entries with
    | none => .error .notFound
    | some child => do
      let child ← changeAt change rest child
      .ok (.dir (Keyed.set name child entries))

/-- Entries with a new one; a name that is too long is refused. -/
def withNew (name : String) (node : Node) (entries : List (String × Node)) :
    Except IoFault (List (String × Node)) :=
  if isTooLong name then .error .nameTooLong else .ok (Keyed.set name node entries)

/-- Entries with a directory among them, which may be there already. -/
def withDir (name : String) (entries : List (String × Node)) :
    Except IoFault (List (String × Node)) :=
  match Keyed.get? name entries with
  | none => withNew name emptyDir entries
  | some (.dir _) => .ok entries
  | some (.file _) => .error .alreadyThere

/-- Entries with a file among them, in the place of a file that is there already. -/
def withFile (name : String) (bytes : ByteArray) (entries : List (String × Node)) :
    Except IoFault (List (String × Node)) :=
  match Keyed.get? name entries with
  | some (.dir _) => .error .isDirectory
  | _ => withNew name (.file bytes) entries

/-- The tree with all directories on the way of some steps, and the names that lead to the last of
them; none if the way leaves the tree.  The way begins at `here`.  A fault ends the work, and what
has been made before stays. -/
def makeWay (root : Node) (here : Option (List String)) :
    List String → Node × Except IoFault (Option (List String))
  | [] => (root, .ok here)
  | step :: rest =>
    match here with
    | none => (root, .ok none)
    | some names =>
      if staysPut step then makeWay root here rest
      else if step = upward then
        makeWay root (if names.isEmpty then none else some names.dropLast) rest
      else
        match changeAt (withDir step) names root with
        | .ok root => makeWay root (some (names ++ [step])) rest
        | .error fault =>
          (root, .error
            (if fault = .alreadyThere && !rest.all staysPut then .notDirectory else fault))

/-- The tree with all directories on the way of some steps from the root. -/
def makeDirs (root : Node) (steps : List String) : Node × Except IoFault (Option (List String)) :=
  match pathFault? steps with
  | some fault => (root, .error fault)
  | none => makeWay root (some []) steps

/-- The tree with a file behind some steps; `folder` are the names that lead to its directory, or
none if it is not in the tree.  Steps that do not end in a name can only lead to a directory. -/
def writeFile (root : Node) (folder : Option (List String)) (steps : List String)
    (bytes : ByteArray) : Except IoFault Node :=
  let name := steps.getLast?.getD ""
  match pathFault? steps with
  | some fault => .error fault
  | none =>
    if name = "" then .error .isDirectory
    else if staysPut name || name = upward then
      (root.find steps).bind fun _ => .error .isDirectory
    else
      match folder with
      | none => .ok root
      | some names => changeAt (withFile name bytes) names root

/-- The tree with a file behind some steps, and the directories above it.  A fault ends the work,
and what has been made before stays. -/
def write (root : Node) (steps : List String) (bytes : ByteArray) : Node × Except IoFault Unit :=
  match makeDirs root (steps.filter fun step => !staysPut step).dropLast with
  | (root, .error fault) => (root, .error fault)
  | (root, .ok folder) =>
    match root.writeFile folder steps bytes with
    | .error fault => (root, .error fault)
    | .ok root => (root, .ok ())

/-! ### Listing -/

mutual

/-- The paths of a node that is at a path itself, the directories with a slash behind them. -/
def pathsAt (path : String) (node : Node) : List String :=
  match node with
  | .file _ => [path]
  | .dir entries => (path ++ "/") :: entryPaths (path ++ "/") entries
termination_by structural node

/-- The paths of entries below a path. -/
def entryPaths (lead : String) (entries : List (String × Node)) : List String :=
  match entries with
  | [] => []
  | (name, node) :: rest => pathsAt (lead ++ name) node ++ entryPaths lead rest
termination_by structural entries

end

/-- All paths of a tree, in their order. -/
def paths : Node → List String
  | .file _ => []
  | .dir entries => (entryPaths "" entries).mergeSort fun a b => decide (a ≤ b)

end Node

end Reshape
