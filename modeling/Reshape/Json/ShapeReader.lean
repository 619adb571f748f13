import Reshape.Json.Reader
import Reshape.Json.Shape

/-!
# Reading a text of some shape

A document is read and compared with a shape in one pass, so that a mismatch has a place: behind a
scalar of the wrong kind, before the bracket of a container of the wrong kind, behind the closing
bracket for a field that is missing, and behind the key for one that is there twice.

* **`Json.Shape.read`** — the value of a document, with its defaults filled in and unknown keys
  passed over.
-/

namespace Reshape

namespace Json

open Scan

/-- Whether `null` stands for the absence of a value of the shape. -/
def Shape.isOptional : Shape → Bool
  | .optional _ => true
  | _ => false

/-- The shape of the values other than `null`. -/
def Shape.core : Shape → Shape
  | .optional shape => shape.core
  | s => s

/-- Reports a mismatch where the scan stands. -/
def mismatch {α : Type} (m : Mismatch) : Scan α := atCursor (.mismatch m)

/-- Refuses the value that begins with the character given.  A scalar is read first, and may have a
flaw of its own; a container is not entered. -/
def refuseNext {α : Type} (s : Shape) (c : Char) : Scan α :=
  match c with
  | '[' => mismatch (.kind .sequence s.expected)
  | '{' => mismatch (.kind .map s.expected)
  | c => do
    let v ← scalar c
    mismatch (.kind v.found s.expected)

/-- Ends a record given by positions, which has no room for a further item. -/
def endPositions : Scan Unit := do
  match ← token with
  | none => atCursor .unfinishedList
  | some ']' => skip 1
  | some ',' => do
    skip 1
    match ← token with
    | some ']' => behindNext .trailingComma
    | _ => behindNext .trailingText
  | some _ => behindNext .trailingText

/-- Reports a field that is there twice: behind its key, or behind the brace that follows. -/
def refuseTwice {α : Type} (name : String) : Scan α := do
  match ← token with
  | some '}' => do skip 1; mismatch (.duplicate name)
  | _ => mismatch (.duplicate name)

/-- Fills in the fields that are not there. -/
def fillMissing (members : List Member) (fields : Fields) : Scan Fields :=
  match fillAbsent members fields with
  | .ok all => pure all
  | .error m => mismatch m

/-- Fills in the fields behind the last item of a record given by positions. -/
def fillPositions (expected : String) : Nat → List Member → Fields → Scan Fields
  | _, [], fields => pure fields
  | index, (name, .filled value, _) :: rest, fields =>
    fillPositions expected (index + 1) rest (Keyed.set name value fields)
  | index, (_, .omitted, _) :: rest, fields => fillPositions expected (index + 1) rest fields
  | index, _, _ => mismatch (.length index expected)

/-- The shape of a field. -/
def memberShape? (members : List Member) (name : String) : Option Shape :=
  (members.lookup name).map Prod.snd

mutual

/-- Reads a value of a shape inside of which `depth` more containers may be open. -/
def shapeRounds (fuel : Nat) (depth : Nat) (s : Shape) : Scan Value := do
  match fuel with
  | 0 => atCursor .expectedValue
  | fuel + 1 =>
    match ← token with
    | none => atCursor .unfinishedValue
    | some c =>
      if s.isOptional && c = 'n' then scalar 'n'
      else
        match s.core, c, depth with
        | .any, _, _ => value depth
        | .text, '"', _ => do skip 1; pure (.string (← string))
        | .flag, 't', _ => scalar 't'
        | .flag, 'f', _ => scalar 'f'
        | .list _, '[', 0 => behindNext .tooDeep
        | .table _, '{', 0 => behindNext .tooDeep
        | .record _ _, '[', 0 => behindNext .tooDeep
        | .record _ _, '{', 0 => behindNext .tooDeep
        | .list shape, '[', depth + 1 => do
          skip 1
          pure (.array (← listRounds fuel depth shape true))
        | .table shape, '{', depth + 1 => do
          skip 1
          pure (.object (Keyed.ofList (← tableRounds fuel depth shape true)))
        | .record name members, '[', depth + 1 => do
          skip 1
          let expected := recordCountText name members.length
          pure (.object (← positionRounds fuel depth expected 0 members []))
        | .record _ members, '{', depth + 1 => do
          skip 1
          let known ← memberRounds fuel depth members [] true
          pure (.object (← fillMissing members known))
        | .integer name low high, c, _ =>
          if c = '-' || c.isDigit then do
            let n ← number
            match fitInteger name low high n with
            | .ok v => pure v
            | .error m => mismatch m
          else refuseNext (.integer name low high) c
        | s, c, _ => refuseNext s c
termination_by structural fuel

/-- Reads the items of a list. -/
def listRounds (fuel : Nat) (depth : Nat) (s : Shape) (first : Bool) : Scan (List Value) := do
  match fuel with
  | 0 => atCursor .expectedValue
  | fuel + 1 =>
    if ← nextItem first then
      let v ← shapeRounds fuel depth s
      let more ← listRounds fuel depth s false
      pure (v :: more)
    else pure []
termination_by structural fuel

/-- Reads the fields of a table. -/
def tableRounds (fuel : Nat) (depth : Nat) (s : Shape) (first : Bool) :
    Scan (List (String × Value)) := do
  match fuel with
  | 0 => atCursor .expectedValue
  | fuel + 1 =>
    if ← nextKey first then
      let key ← string
      colon
      let v ← shapeRounds fuel depth s
      let more ← tableRounds fuel depth s false
      pure ((key, v) :: more)
    else pure []
termination_by structural fuel

/-- Reads the fields of a record given as an object; `seen` are those before. -/
def memberRounds (fuel : Nat) (depth : Nat) (members : List (String × Absence × Shape))
    (seen : List (String × Value)) (first : Bool) : Scan (List (String × Value)) := do
  match fuel with
  | 0 => atCursor .expectedValue
  | fuel + 1 =>
    if ← nextKey first then
      let key ← string
      match memberShape? members key with
      | none => do
        colon
        passValue
        memberRounds fuel depth members seen false
      | some shape =>
        if Keyed.has key seen then refuseTwice key
        else do
          colon
          let v ← shapeRounds fuel depth shape
          memberRounds fuel depth members (Keyed.set key v seen) false
    else pure seen
termination_by structural fuel

/-- Reads the fields of a record given as an array, from the position `index` on. -/
def positionRounds (fuel : Nat) (depth : Nat) (expected : String) (index : Nat)
    (members : List (String × Absence × Shape)) (fields : List (String × Value)) :
    Scan (List (String × Value)) := do
  match fuel with
  | 0 => atCursor .expectedValue
  | fuel + 1 =>
    match members with
    | [] => do
      endPositions
      pure fields
    | (name, absence, shape) :: rest =>
      if ← nextItem (index == 0) then
        let v ← shapeRounds fuel depth shape
        positionRounds fuel depth expected (index + 1) rest (Keyed.set name v fields)
      else fillPositions expected index ((name, absence, shape) :: rest) fields
termination_by structural fuel

end

/-- The value of a document of the shape. -/
def Shape.read (s : Shape) (text : String) : Except Fault Value :=
  whole (do shapeRounds (← roundLimit) depthLimit s) text

end Json

end Reshape
