import Reshape.Double
import Reshape.Keyed

/-!
# JSON values

The values of JSON documents.  A number is an integer or a double and never both; the fields of an
object are kept in the order of their keys, one field to a key.

* **`Json.Value`** — the six kinds of values, with `Json.Kind` for their names.
* **`Json.Fields`** — the fields of an object.
* **`Json.fieldsOf`**, **`Json.partOf`**, **`Json.stringOf`**, **`Json.naturalOf`** — parts of
  values of a known shape, with a default for any other value.
* **`Json.Value.same`** — equality, under which an integer differs from every double and the two
  zeros of doubles agree.
-/

namespace Reshape

namespace Json

/-- A number: an integer of at most 64 bits, signed or not, or a finite double. -/
inductive Number where
  | int (i : Int)
  | float (x : Double)
deriving DecidableEq, Repr

/-- The double next to a number. -/
def Number.toDouble : Number → Double
  | .int i => .ofInt i
  | .float x => x

/-- Equality of numbers of one sort. -/
def Number.same : Number → Number → Bool
  | .int i, .int j => i == j
  | .float x, .float y => x.same y
  | _, _ => false

theorem Number.same_self (n : Number) : n.same n = true := by
  cases n <;> simp [Number.same]

/-- A JSON value.  The fields of an object are meant to be in strict order of their keys. -/
inductive Value where
  | null
  | bool (b : Bool)
  | number (n : Number)
  | string (s : String)
  | array (items : List Value)
  | object (fields : List (String × Value))
deriving Repr, Inhabited

/-- The fields of an object. -/
abbrev Fields := Keyed Value

/-- The kinds of values. -/
inductive Kind where
  | null
  | boolean
  | number
  | string
  | array
  | object
deriving DecidableEq, Repr

/-- The name of a kind. -/
def Kind.name : Kind → String
  | .null => "null"
  | .boolean => "boolean"
  | .number => "number"
  | .string => "string"
  | .array => "array"
  | .object => "object"

namespace Value

/-- The kind of a value. -/
def kind : Value → Kind
  | null => .null
  | bool _ => .boolean
  | number _ => .number
  | string _ => .string
  | array _ => .array
  | object _ => .object

/-- An integer as a value. -/
def int (i : Int) : Value := number (.int i)

/-- A natural number as a value. -/
def nat (n : Nat) : Value := int n

/-- Whether the value is `null`. -/
def isNull : Value → Bool
  | null => true
  | _ => false

end Value

/-! ### Parts of values -/

/-- The fields of an object; none of any other value. -/
def fieldsOf : Value → Fields
  | .object fields => fields
  | _ => []

/-- The value of a field; `null` without the field. -/
def partOf (key : String) (fields : Fields) : Value := (Keyed.get? key fields).getD .null

/-- A string; empty for any other value. -/
def stringOf : Value → String
  | .string s => s
  | _ => ""

/-- A string, if the value is one. -/
def stringOf? : Value → Option String
  | .string s => some s
  | _ => none

/-- The strings of an array. -/
def stringsOf : Value → List String
  | .array items => items.filterMap stringOf?
  | _ => []

/-- A boolean; `false` for any other value. -/
def flagOf : Value → Bool
  | .bool b => b
  | _ => false

/-- A natural number; zero for any other value. -/
def naturalOf : Value → Nat
  | .number (.int i) => i.toNat
  | _ => 0

/-! ### Equality -/

mutual

/-- Equality of values: kinds, texts, numbers of one sort, and containers part by part. -/
def Value.same (v w : Value) : Bool :=
  match v, w with
  | .null, .null => true
  | .bool a, .bool b => a == b
  | .number m, .number n => m.same n
  | .string s, .string t => s == t
  | .array xs, .array ys => sameItems xs ys
  | .object fs, .object gs => sameFields fs gs
  | _, _ => false
termination_by structural v

/-- Equality of arrays. -/
def sameItems (xs ys : List Value) : Bool :=
  match xs, ys with
  | [], [] => true
  | x :: xs, y :: ys => x.same y && sameItems xs ys
  | _, _ => false
termination_by structural xs

/-- Equality of objects, whose fields are in the same order. -/
def sameFields (fs gs : List (String × Value)) : Bool :=
  match fs, gs with
  | [], [] => true
  | (k, v) :: fs, (l, w) :: gs => k == l && v.same w && sameFields fs gs
  | _, _ => false
termination_by structural fs

end

mutual

theorem Value.same_self (v : Value) : v.same v = true := by
  match v with
  | .null => rfl
  | .bool b => simp [Value.same]
  | .number n => simp [Value.same, Number.same_self]
  | .string s => simp [Value.same]
  | .array xs => simpa [Value.same] using sameItems_self xs
  | .object fs => simpa [Value.same] using sameFields_self fs

theorem sameItems_self (xs : List Value) : sameItems xs xs = true := by
  match xs with
  | [] => rfl
  | x :: xs => simp [sameItems, Value.same_self x, sameItems_self xs]

theorem sameFields_self (fs : List (String × Value)) : sameFields fs fs = true := by
  match fs with
  | [] => rfl
  | (k, v) :: fs => simp [sameFields, Value.same_self v, sameFields_self fs]

end

end Json

end Reshape
