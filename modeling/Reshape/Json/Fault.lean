import Reshape.Json.Printer
import Reshape.Text.Quoted

/-!
# Faults of JSON texts and values

Why a text is not a JSON document, why a value does not have an expected shape, and where.

* **`Json.Found`**, **`Json.Mismatch`** — a value that is not of the expected shape.
* **`Json.Flaw`** — all that can be wrong, the mismatches included.
* **`Json.Place`** — a line and a column; `Place.ofOffset` finds that of a byte offset.
* **`Json.Fault`** — a flaw with its place, if it was found in a text.
-/

namespace Reshape

namespace Json

/-! ### Mismatches -/

/-- What stands where another kind of value is expected. -/
inductive Found where
  | null
  | bool (b : Bool)
  | number (n : Number)
  | string (s : String)
  | sequence
  | map
deriving DecidableEq, Repr

/-- What a value is when another one is expected. -/
def Value.found : Value → Found
  | .null => .null
  | .bool b => .bool b
  | .number n => .number n
  | .string s => .string s
  | .array _ => .sequence
  | .object _ => .map

/-- The wording of what was found. -/
def Found.text : Found → String
  | .null => "null"
  | .bool b => "boolean `" ++ boolText b ++ "`"
  | .number (.int i) => "integer `" ++ integerText i ++ "`"
  | .number (.float x) => "floating point `" ++ doubleText x ++ "`"
  | .string s => "string " ++ Text.quote s
  | .sequence => "sequence"
  | .map => "map"

/-- How a value fails to have the expected shape. -/
inductive Mismatch where
  /-- Another kind of value is expected. -/
  | kind (found : Found) (expected : String)
  /-- The kind is right and the value out of range. -/
  | range (found : Found) (expected : String)
  /-- A field without a default is not there. -/
  | missing (field : String)
  /-- A field is there twice. -/
  | duplicate (field : String)
  /-- A sequence has the wrong number of items. -/
  | length (count : Nat) (expected : String)
  /-- A name that is none of the known ones. -/
  | unknown (name : String) (known : List String)
deriving DecidableEq, Repr

/-- A natural number in decimal digits. -/
def natText (n : Nat) : String := String.ofList (Nat.toDigits 10 n)

/-- A name between grave accents. -/
def graved (s : String) : String := "`" ++ s ++ "`"

/-- The wording of a mismatch. -/
def Mismatch.text : Mismatch → String
  | .kind found expected => "invalid type: " ++ found.text ++ ", expected " ++ expected
  | .range found expected => "invalid value: " ++ found.text ++ ", expected " ++ expected
  | .missing field => "missing field " ++ graved field
  | .duplicate field => "duplicate field " ++ graved field
  | .length count expected => "invalid length " ++ natText count ++ ", expected " ++ expected
  | .unknown name known =>
    "unknown variant " ++ graved name ++ ", expected one of " ++
      ", ".intercalate (known.map graved)

/-! ### Flaws -/

/-- All that can be wrong with a text or a value. -/
inductive Flaw where
  | unfinishedValue
  | unfinishedList
  | unfinishedObject
  | unfinishedString
  | expectedValue
  | expectedWord
  | expectedListEnd
  | expectedObjectEnd
  | expectedColon
  | keyNotString
  | trailingComma
  | trailingText
  | tooDeep
  | badNumber
  | numberRange
  | controlCharacter
  | badEscape
  | loneSurrogate
  | cutEscape
  | mismatch (m : Mismatch)
deriving DecidableEq, Repr

/-- The wording of a flaw. -/
def Flaw.text : Flaw → String
  | .unfinishedValue => "EOF while parsing a value"
  | .unfinishedList => "EOF while parsing a list"
  | .unfinishedObject => "EOF while parsing an object"
  | .unfinishedString => "EOF while parsing a string"
  | .expectedValue => "expected value"
  | .expectedWord => "expected ident"
  | .expectedListEnd => "expected `,` or `]`"
  | .expectedObjectEnd => "expected `,` or `\x7d`"
  | .expectedColon => "expected `:`"
  | .keyNotString => "key must be a string"
  | .trailingComma => "trailing comma"
  | .trailingText => "trailing characters"
  | .tooDeep => "recursion limit exceeded"
  | .badNumber => "invalid number"
  | .numberRange => "number out of range"
  | .controlCharacter => "control character (\\u0000-\\u001F) found while parsing a string"
  | .badEscape => "invalid escape"
  | .loneSurrogate => "lone leading surrogate in hex escape"
  | .cutEscape => "unexpected end of hex escape"
  | .mismatch m => m.text

/-! ### Places -/

/-- A place in a text.  Lines count from one; a column is a number of bytes behind the last line
break, so it is zero directly behind the break. -/
structure Place where
  /-- The line. -/
  line : Nat
  /-- The column. -/
  column : Nat
deriving DecidableEq, Repr

/-- The place before a text. -/
def Place.start : Place := ⟨1, 0⟩

/-- Goes on from a place over the first `bytes` bytes of a text. -/
def Place.advance (p : Place) (bytes : Nat) : List Char → Place
  | [] => p
  | c :: cs =>
    if bytes = 0 then p
    else if bytes < c.utf8Size then ⟨p.line, p.column + bytes⟩
    else if c = '\n' then Place.advance ⟨p.line + 1, 0⟩ (bytes - 1) cs
    else Place.advance ⟨p.line, p.column + c.utf8Size⟩ (bytes - c.utf8Size) cs

/-- The place behind the first `bytes` bytes of a text. -/
def Place.ofOffset (bytes : Nat) (text : List Char) : Place := Place.start.advance bytes text

/-! ### Faults -/

/-- A flaw and, if it was found in a text, its place there. -/
structure Fault where
  /-- What is wrong. -/
  flaw : Flaw
  /-- Where. -/
  place : Option Place
deriving DecidableEq, Repr

/-- The wording of a fault. -/
def Fault.text (f : Fault) : String :=
  match f.place with
  | none => f.flaw.text
  | some p => f.flaw.text ++ " at line " ++ natText p.line ++ " column " ++ natText p.column

/-- A mismatch outside of any text. -/
def Mismatch.fault (m : Mismatch) : Fault := ⟨.mismatch m, none⟩

end Json

end Reshape
