import Reshape.Numeral
import Reshape.Rule
import Reshape.Text.Blank
import Reshape.Text.Case

/-!
# Built-in transforms

The transforms that every specification can name: letter case, trimming, and conversions between
scalars.  They look at the value only, and neither at the source nor at the options.

* **`BuiltIn`** — the transforms, with `BuiltIn.name` and `BuiltIn.ofName?`.
* **`BuiltIn.convert`** — what a transform makes of a value, or why it refuses it.
* **`BuiltIn.transform`** — the same as a callback, the refusal being an error of its name.
-/

namespace Reshape

open Json

/-- The built-in transforms. -/
inductive BuiltIn where
  | uppercase
  | lowercase
  | trim
  | toText
  | toNumber
  | toBoolean
deriving DecidableEq, Repr

namespace BuiltIn

/-- The name by which a specification calls a transform. -/
def name : BuiltIn → String
  | uppercase => "uppercase"
  | lowercase => "lowercase"
  | trim => "trim"
  | toText => "to_string"
  | toNumber => "to_number"
  | toBoolean => "to_boolean"

/-- All built-in transforms. -/
def all : List BuiltIn := [uppercase, lowercase, trim, toText, toNumber, toBoolean]

/-- The transform of a name. -/
def ofName? (s : String) : Option BuiltIn := all.find? (·.name == s)

theorem ofName?_name (b : BuiltIn) : ofName? b.name = some b := by
  cases b <;> decide

/-- A function of strings as a conversion of values. -/
def onString (f : String → String) : Value → Except TransformFault Value
  | .string s => .ok (.string (f s))
  | v => .error (.notString v.kind)

/-- A scalar as a string; a number or a boolean as its JSON text. -/
def textOf : Value → Except TransformFault Value
  | .string s => .ok (.string s)
  | .number n => .ok (.string n.text)
  | .bool b => .ok (.string (boolText b))
  | v => .error (.notConvertible v.kind .string)

/-- The number written by a text without blanks at its ends: an integer of 64 signed bits if it is
one, else the nearest double. -/
def numeralOf? (cs : List Char) : Option Number :=
  match Numeral.integer? cs with
  | some i => some (.int i)
  | none => (Numeral.fraction? cs).map .float

/-- A scalar as a number; a boolean counts as one or zero. -/
def numberOf : Value → Except TransformFault Value
  | .number n => .ok (.number n)
  | .bool b => .ok (.int (if b then 1 else 0))
  | .string s =>
    match numeralOf? (Text.trimList s.toList) with
    | some n => .ok (.number n)
    | none => .error (.notNumber s)
  | v => .error (.notConvertible v.kind .number)

/-- The words for `true`, in lower case. -/
def trueWords : List String := ["true", "yes", "1", "on"]

/-- The words for `false`, in lower case. -/
def falseWords : List String := ["false", "no", "0", "off", ""]

/-- A scalar as a boolean; a number is `true` unless it is zero. -/
def booleanOf : Value → Except TransformFault Value
  | .bool b => .ok (.bool b)
  | .number n => .ok (.bool (!n.toDouble.isZero))
  | .string s =>
    let folded := Text.lower s
    if trueWords.contains folded then .ok (.bool true)
    else if falseWords.contains folded then .ok (.bool false)
    else .error (.notBoolean s)
  | v => .error (.notConvertible v.kind .boolean)

/-- What a transform makes of a value, or why it refuses it. -/
def convert : BuiltIn → Value → Except TransformFault Value
  | uppercase => onString Text.upper
  | lowercase => onString Text.lower
  | trim => onString Text.trim
  | toText => textOf
  | toNumber => numberOf
  | toBoolean => booleanOf

/-- The callback of a transform. -/
def transform (b : BuiltIn) : Transform := fun _ v _ =>
  match b.convert v with
  | .ok w => .ok w
  | .error fault => .error (.transform b.name fault)

/-- A built-in transform depends on the value alone. -/
theorem transform_congr (b : BuiltIn) (s t v : Value) (o p : Options) :
    b.transform s v o = b.transform t v p := rfl

end BuiltIn

end Reshape
