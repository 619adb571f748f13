import Reshape.Json.Value

/-!
# Agreement of documents

Two documents agree when they have the same structure, the same keys and lengths, equal texts and
booleans, and numbers that lie within a tolerance of each other.  Where they do not agree, the
places of disagreement are listed in the order of the documents.

* **`agree`** — whether two documents agree.
* **`Step`**, **`Disagreement`** — a place, and how the documents differ there.
* **`disagreements`** — all of them, keys in their order and items in theirs.
* **`Disagreement.text`** — the wording of a disagreement.
-/

namespace Reshape

open Json

/-! ### Agreement -/

mutual

/-- Whether two documents agree, numbers up to a tolerance. -/
def agree (tolerance : Double) (expected actual : Value) : Bool :=
  match expected, actual with
  | .object fs, .object gs => fs.length == gs.length && agreeFields tolerance fs gs
  | .array xs, .array ys => agreeItems tolerance xs ys
  | .number m, .number n => Double.within tolerance m.toDouble n.toDouble
  | e, a => e.same a
termination_by structural expected

/-- Whether two arrays have the same length and agree item by item. -/
def agreeItems (tolerance : Double) (xs ys : List Value) : Bool :=
  match xs, ys with
  | [], [] => true
  | x :: xs, y :: ys => agree tolerance x y && agreeItems tolerance xs ys
  | _, _ => false
termination_by structural xs

/-- Whether every field of the first object is in the second one and agrees with it. -/
def agreeFields (tolerance : Double) (fs : List (String × Value)) (gs : Fields) : Bool :=
  match fs with
  | [] => true
  | (key, v) :: rest =>
    (match Keyed.get? key gs with
      | some w => agree tolerance v w
      | none => false) && agreeFields tolerance rest gs
termination_by structural fs

end

/-! ### Places -/

/-- A step into a document. -/
inductive Step where
  | key (k : String)
  | item (i : Nat)
deriving DecidableEq, Repr

/-- How two documents differ at a place. -/
inductive Difference where
  /-- Both have a value there, and the values differ. -/
  | changed
  /-- Only the expected document has the key. -/
  | missing
  /-- Only the actual document has the key. -/
  | extra
deriving DecidableEq, Repr

/-- A place at which two documents differ, as the steps from the root. -/
structure Disagreement where
  /-- The steps from the root. -/
  place : List Step
  /-- How the documents differ there. -/
  difference : Difference
deriving DecidableEq, Repr

/-- The text of a place with one more step.  No dot stands before a key as long as the text is
empty. -/
def Step.extend (text : String) : Step → String
  | .key k => if text = "" then k else text ++ "." ++ k
  | .item i => text ++ "[" ++ String.ofList (Nat.toDigits 10 i) ++ "]"

/-- The text of a place. -/
def placeText (place : List Step) : String := place.foldl Step.extend ""

/-- The wording of a disagreement. -/
def Disagreement.text (d : Disagreement) : String :=
  let path := placeText d.place
  match d.difference with
  | .changed => if path = "" then "$" else path
  | .missing => path ++ " (missing in actual)"
  | .extra => path ++ " (extra in actual)"

/-! ### Disagreements -/

/-- The fields of `gs` whose keys are not among those of `fs`, as disagreements by key. -/
def extraFields (place : List Step) (fs gs : Fields) : List (String × List Disagreement) :=
  (gs.filter fun g => !Keyed.has g.1 fs).map fun g => (g.1, [⟨place ++ [.key g.1], .extra⟩])

/-- Disagreements by key, both lists in the order of their keys, in one list of that order. -/
def mergeKeys (xs ys : List (String × List Disagreement)) : List Disagreement :=
  (List.merge xs ys fun x y => decide (x.1 ≤ y.1)).flatMap Prod.snd

mutual

/-- The places at which two documents differ; `place` is where they are themselves. -/
def disagreements (tolerance : Double) (place : List Step) (expected actual : Value) :
    List Disagreement :=
  match expected, actual with
  | .object fs, .object gs =>
    mergeKeys (fieldDisagreements tolerance place fs gs) (extraFields place fs gs)
  | .array xs, .array ys =>
    if xs.length = ys.length then itemDisagreements tolerance place 0 xs ys
    else [⟨place, .changed⟩]
  | _, _ => [⟨place, .changed⟩]
termination_by structural expected

/-- The places at which the items of two arrays differ, from position `i` on. -/
def itemDisagreements (tolerance : Double) (place : List Step) (i : Nat) (xs ys : List Value) :
    List Disagreement :=
  match xs, ys with
  | x :: xs, y :: ys =>
    let here :=
      if agree tolerance x y then [] else disagreements tolerance (place ++ [.item i]) x y
    here ++ itemDisagreements tolerance place (i + 1) xs ys
  | _, _ => []
termination_by structural xs

/-- The places at which the fields of the first object differ from those of the second, by key. -/
def fieldDisagreements (tolerance : Double) (place : List Step) (fs : List (String × Value))
    (gs : Fields) : List (String × List Disagreement) :=
  match fs with
  | [] => []
  | (key, v) :: rest =>
    let here :=
      match Keyed.get? key gs with
      | some w =>
        if agree tolerance v w then []
        else disagreements tolerance (place ++ [.key key]) v w
      | none => [⟨place ++ [.key key], .missing⟩]
    (key, here) :: fieldDisagreements tolerance place rest gs
termination_by structural fs

end

theorem placeText_snoc (place : List Step) (step : Step) :
    placeText (place ++ [step]) = step.extend (placeText place) := by
  simp [placeText, List.foldl_append]

end Reshape
