import Reshape.Json.Fault
import Reshape.Numeral

/-!
# Shapes of values

A shape says which values a reader of data accepts.  Records are given as objects, whose unknown
keys do not matter, or as arrays of their fields in the order of declaration.

* **`Json.Shape`** — the shapes; `Json.Absence` says what becomes of a field that is not there.
* **`Json.Shape.fit`** — the value with its defaults filled in and unknown keys left out, or the
  first mismatch.  The fields of an object are looked at in the order of their keys, then those that
  are missing in the order of declaration.
-/

namespace Reshape

namespace Json

/-- What becomes of a record field that is not there. -/
inductive Absence where
  /-- The field has to be there. -/
  | required
  /-- An object may leave the field out, which then has the value given; an array may not. -/
  | named (value : Value)
  /-- The field may be left out, and then has the value given. -/
  | filled (value : Value)
  /-- The field may be left out and then stays out. -/
  | omitted
deriving Repr

/-- The shapes of values. -/
inductive Shape where
  | any
  | text
  | flag
  /-- An integer between two bounds, with the name of its type. -/
  | integer (name : String) (low high : Int)
  /-- `null`, or a value of the shape. -/
  | optional (shape : Shape)
  | list (shape : Shape)
  /-- An object with any keys. -/
  | table (shape : Shape)
  /-- A record with its name and its fields in the order of declaration. -/
  | record (name : String) (fields : List (String × Absence × Shape))
deriving Repr, Inhabited

/-- A field of a record: its name, what its absence means, and its shape. -/
abbrev Member := String × Absence × Shape

/-- Natural numbers of 32 bits. -/
def Shape.natural32 : Shape := .integer "u32" 0 4294967295

/-- Integers of 64 signed bits. -/
def Shape.integer64 : Shape := .integer "i64" Numeral.minInteger Numeral.maxInteger

/-- The wording of what a record is expected to be. -/
def recordText (name : String) : String := "struct " ++ name

/-- The wording of a record with its number of fields. -/
def recordCountText (name : String) (count : Nat) : String :=
  recordText name ++ " with " ++ natText count ++ (if count = 1 then " element" else " elements")

/-- The wording of what a shape expects. -/
def Shape.expected : Shape → String
  | .any => "any value"
  | .text => "a string"
  | .flag => "a boolean"
  | .integer name _ _ => name
  | .optional shape => shape.expected
  | .list _ => "a sequence"
  | .table _ => "a map"
  | .record name _ => recordText name

/-- A value of another kind than the shape expects. -/
def Shape.refuse (s : Shape) (v : Value) : Except Mismatch Value :=
  .error (.kind v.found s.expected)

/-- A number as an integer between bounds. -/
def fitInteger (name : String) (low high : Int) : Number → Except Mismatch Value
  | .int i =>
    if low ≤ i ∧ i ≤ high then .ok (.int i) else .error (.range (.number (.int i)) name)
  | .float x => .error (.kind (.number (.float x)) name)

/-- The fields of an object together with those that are not there. -/
def fillAbsent : List Member → Fields → Except Mismatch Fields
  | [], fields => .ok fields
  | (name, absence, _) :: rest, fields =>
    if Keyed.has name fields then fillAbsent rest fields
    else match absence with
      | .required => .error (.missing name)
      | .named value => fillAbsent rest (Keyed.set name value fields)
      | .filled value => fillAbsent rest (Keyed.set name value fields)
      | .omitted => fillAbsent rest fields

mutual

/-- The value with its defaults filled in and unknown keys left out, or the first mismatch. -/
def Shape.fit (s : Shape) (v : Value) : Except Mismatch Value :=
  match s with
  | .any => .ok v
  | .text =>
    match v with
    | .string t => .ok (.string t)
    | v => Shape.refuse .text v
  | .flag =>
    match v with
    | .bool b => .ok (.bool b)
    | v => Shape.refuse .flag v
  | .integer name low high =>
    match v with
    | .number n => fitInteger name low high n
    | v => Shape.refuse (.integer name low high) v
  | .optional shape =>
    match v with
    | .null => .ok .null
    | v => shape.fit v
  | .list shape =>
    match v with
    | .array items => (items.mapM fun item => shape.fit item).map .array
    | v => Shape.refuse (.list shape) v
  | .table shape =>
    match v with
    | .object fields =>
      (fields.mapM fun field => (shape.fit field.2).map fun w => (field.1, w)).map .object
    | v => Shape.refuse (.table shape) v
  | .record name members =>
    match v with
    | .object fields => do
      let known ← fields.mapM fun field => fitMember members field.1 field.2
      let all ← fillAbsent members (Keyed.ofList (known.filterMap id))
      pure (.object all)
    | .array items => do
      let all ← fitPositions (recordCountText name members.length) items.length 0 members items []
      pure (.object all)
    | v => Shape.refuse (.record name members) v
termination_by structural s

/-- A field by its name: nothing if no field of the record has the name. -/
def fitMember (members : List (String × Absence × Shape)) (name : String) (v : Value) :
    Except Mismatch (Option (String × Value)) :=
  match members with
  | [] => .ok none
  | (known, _, shape) :: rest =>
    if known = name then (shape.fit v).map fun w => some (name, w) else fitMember rest name v
termination_by structural members

/-- Fields by their positions, from the position `index` on; `expected` and `total` are for the
wording of a mismatch. -/
def fitPositions (expected : String) (total index : Nat)
    (members : List (String × Absence × Shape)) (items : List Value) (fields : Fields) :
    Except Mismatch Fields :=
  match members with
  | [] =>
    if items.isEmpty then .ok fields
    else .error (.length total "fewer elements in array")
  | (name, absence, shape) :: rest =>
    match items with
    | v :: items => do
      let w ← shape.fit v
      fitPositions expected total (index + 1) rest items (Keyed.set name w fields)
    | [] =>
      match absence with
      | .filled value =>
        fitPositions expected total (index + 1) rest [] (Keyed.set name value fields)
      | .omitted => fitPositions expected total (index + 1) rest [] fields
      | .required => .error (.length index expected)
      | .named _ => .error (.length index expected)
termination_by structural members

end

theorem Shape.fit_any (v : Value) : Shape.any.fit v = .ok v := by simp [Shape.fit]

end Json

end Reshape
