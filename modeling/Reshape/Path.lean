import Reshape.Json.Value
import Reshape.Numeral
import Reshape.Text.Pieces

/-!
# Source paths

A path names a place in a document: segments with dots between them, none of them empty.  An object
is entered by a key and an array by a position; every other step leads nowhere, and so does a step
out of a scalar or out of `null`.

* **`SourcePath.parse`** — the path written as a text, or why there is none.
* **`SourcePath.terminal`** — the last segment.
* **`SourcePath.resolve`** — the value at the path, if it leads somewhere.

The main statement is **`resolveFrom_append`**: a path is walked segment by segment.
-/

namespace Reshape

open Json

/-- Why a text is not a source path. -/
inductive PathFault where
  | empty
  | emptySegment (path : String)
deriving DecidableEq, Repr

/-- The wording of a path fault. -/
def PathFault.text : PathFault → String
  | .empty => "source path must not be empty"
  | .emptySegment path => "source path '" ++ path ++ "' contains an empty segment"

/-- A path with its text. -/
structure SourcePath where
  /-- The path as it was written. -/
  raw : String
  /-- The segments between the dots. -/
  segments : List String
deriving DecidableEq, Repr

/-- The segments of a text. -/
def segmentsOf (raw : String) : List String := (Text.pieces '.' raw.toList).map String.ofList

namespace SourcePath

/-- The path written as a text: it has segments, and none of them is empty. -/
def parse (raw : String) : Except PathFault SourcePath :=
  if raw = "" then .error .empty
  else if (segmentsOf raw).any (· == "") then .error (.emptySegment raw)
  else .ok ⟨raw, segmentsOf raw⟩

/-- The last segment. -/
def terminal (p : SourcePath) : String := p.segments.getLastD p.raw

/-- Whether the path has several segments. -/
def isNested (p : SourcePath) : Bool := decide (1 < p.segments.length)

end SourcePath

/-! ### Walking a document -/

/-- The part of a value that a segment leads to. -/
def child? (segment : String) : Value → Option Value
  | .object fields => Keyed.get? segment fields
  | .array items => (Numeral.position? segment.toList).bind fun i => items[i]?
  | _ => none

/-- The value that segments lead to. -/
def resolveFrom : List String → Value → Option Value
  | [], v => some v
  | segment :: rest, v => (child? segment v).bind (resolveFrom rest)

/-- The value at a path. -/
def SourcePath.resolve (p : SourcePath) (v : Value) : Option Value := resolveFrom p.segments v

@[simp] theorem resolveFrom_nil (v : Value) : resolveFrom [] v = some v := rfl

/-- **Paths compose.**  Walking two lists of segments is walking one after the other. -/
theorem resolveFrom_append (first second : List String) (v : Value) :
    resolveFrom (first ++ second) v = (resolveFrom first v).bind (resolveFrom second) := by
  induction first generalizing v with
  | nil => rfl
  | cons segment rest ih =>
    simp only [List.cons_append, resolveFrom]
    cases child? segment v with
    | none => rfl
    | some w => simpa using ih w

end Reshape
