import Reshape.Double.Shortest
import Reshape.Json.Value

/-!
# Printing JSON

The text of a value, on one line or indented.  A double is written with the fewest digits that read
back as it, always with a point or an exponent, so that it never reads as an integer.

* **`Json.Number.text`** — the text of a number.
* **`Json.quoted`** — a string between quotes, with the escapes of JSON.
* **`Json.Value.compact`**, **`Json.Value.pretty`** — the two layouts.
-/

namespace Reshape

namespace Json

/-! ### Numbers -/

/-- The least power of ten whose multiples are written without an exponent. -/
def plainFrom : Int := -5

/-- The least power of ten above those whose multiples are written without an exponent. -/
def plainUntil : Int := 16

/-- Decimal digits with the point behind the digit that counts ones; `order` is the power of ten
that the first digit counts. -/
def pointed (digits : List Char) (order : Int) : List Char :=
  if order < 0 then '0' :: '.' :: (List.replicate (-order - 1).toNat '0' ++ digits)
  else
    let ones := order.toNat + 1
    if digits.length ≤ ones then
      digits ++ List.replicate (ones - digits.length) '0' ++ ['.', '0']
    else digits.take ones ++ '.' :: digits.drop ones

/-- Decimal digits with the point behind the first of them, and the exponent. -/
def powered (digits : List Char) (order : Int) : List Char :=
  let places := if digits.length ≤ 1 then [] else '.' :: digits.drop 1
  let sign := if order < 0 then '-' else '+'
  digits.take 1 ++ places ++ 'e' :: sign :: Nat.toDigits 10 order.natAbs

/-- The text of a magnitude of `steps` steps. -/
def magnitudeText (steps : Nat) : List Char :=
  if steps = 0 then ['0', '.', '0']
  else
    let shortest := Double.shortest steps
    let digits := Nat.toDigits 10 shortest.digits
    let order := shortest.exponent + digits.length - 1
    if plainFrom ≤ order ∧ order < plainUntil then pointed digits order else powered digits order

/-- The text of a double. -/
def doubleText (x : Double) : String :=
  String.ofList (if x.negative then '-' :: magnitudeText x.steps else magnitudeText x.steps)

/-- The text of an integer. -/
def integerText (i : Int) : String :=
  String.ofList (if i < 0 then '-' :: Nat.toDigits 10 i.natAbs else Nat.toDigits 10 i.natAbs)

/-- The text of a number. -/
def Number.text : Number → String
  | .int i => integerText i
  | .float x => doubleText x

/-! ### Strings -/

/-- The four hexadecimal digits of a code point below `2 ^ 16`. -/
def fourHex (n : Nat) : List Char :=
  [Nat.digitChar (n / 4096 % 16), Nat.digitChar (n / 256 % 16), Nat.digitChar (n / 16 % 16),
    Nat.digitChar (n % 16)]

/-- The written form of a character: quotes, backslashes and controls are escaped. -/
def escaped (c : Char) : List Char :=
  if c = '"' then ['\\', '"']
  else if c = '\\' then ['\\', '\\']
  else if c = '\n' then ['\\', 'n']
  else if c = '\r' then ['\\', 'r']
  else if c = '\t' then ['\\', 't']
  else if c.toNat = 8 then ['\\', 'b']
  else if c.toNat = 12 then ['\\', 'f']
  else if c.toNat < 32 then '\\' :: 'u' :: fourHex c.toNat
  else [c]

/-- A string between quotes. -/
def quoted (s : String) : String := String.ofList ('"' :: s.toList.flatMap escaped ++ ['"'])

/-- The text of a boolean. -/
def boolText (b : Bool) : String := if b then "true" else "false"

/-! ### Values -/

mutual

/-- The text of a value on one line, without blanks. -/
def Value.compact (v : Value) : String :=
  match v with
  | .null => "null"
  | .bool b => boolText b
  | .number n => n.text
  | .string s => quoted s
  | .array items => "[" ++ ",".intercalate (compactItems items) ++ "]"
  | .object fields => "\x7b" ++ ",".intercalate (compactFields fields) ++ "\x7d"
termination_by structural v

/-- The texts of the items of an array. -/
def compactItems (items : List Value) : List String :=
  match items with
  | [] => []
  | v :: rest => v.compact :: compactItems rest
termination_by structural items

/-- The texts of the fields of an object. -/
def compactFields (fields : List (String × Value)) : List String :=
  match fields with
  | [] => []
  | (k, v) :: rest => (quoted k ++ ":" ++ v.compact) :: compactFields rest
termination_by structural fields

end

/-- The blanks before a line at some depth of nesting. -/
def indent (depth : Nat) : String := String.ofList (List.replicate (2 * depth) ' ')

/-- A container with one part to a line; `parts` are the parts with their indentation. -/
def block (opening closing : String) (depth : Nat) (parts : List String) : String :=
  if parts.isEmpty then opening ++ closing
  else opening ++ "\n" ++ ",\n".intercalate parts ++ "\n" ++ indent depth ++ closing

mutual

/-- The indented text of a value that begins at some depth of nesting. -/
def Value.prettyAt (v : Value) (depth : Nat) : String :=
  match v with
  | .null => "null"
  | .bool b => boolText b
  | .number n => n.text
  | .string s => quoted s
  | .array items => block "[" "]" depth (prettyItems items (depth + 1))
  | .object fields => block "\x7b" "\x7d" depth (prettyFields fields (depth + 1))
termination_by structural v

/-- The lines of the items of an array. -/
def prettyItems (items : List Value) (depth : Nat) : List String :=
  match items with
  | [] => []
  | v :: rest => (indent depth ++ v.prettyAt depth) :: prettyItems rest depth
termination_by structural items

/-- The lines of the fields of an object. -/
def prettyFields (fields : List (String × Value)) (depth : Nat) : List String :=
  match fields with
  | [] => []
  | (k, v) :: rest =>
    (indent depth ++ quoted k ++ ": " ++ v.prettyAt depth) :: prettyFields rest depth
termination_by structural fields

end

/-- The indented text of a value, without a newline at its end. -/
def Value.pretty (v : Value) : String := v.prettyAt 0

end Json

end Reshape
