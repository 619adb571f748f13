import Reshape.Json.Scan
import Reshape.Numeral

/-!
# Number and string literals

The literals of JSON texts.  A number with a point or an exponent is a double, and so is an integer
beyond 64 bits; the digits of a significand beyond 64 bits are dropped.  A double is read in two
roundings, that of the significand and that of its product with, or quotient by, a power of ten.

* **`Json.scaled?`** — the double of a significand and a power of ten.
* **`Json.number`**, **`Json.passNumber`** — reads or passes over a number.
* **`Json.string`**, **`Json.passString`** — reads or passes over a string.
-/

namespace Reshape

namespace Json

open Scan

/-! ### Doubles of a significand and a power of ten -/

/-- The greatest natural of 64 bits. -/
def maxNatural : Nat := 18446744073709551615

/-- The greatest exponent that is written out, one of 31 bits. -/
def maxExponent : Nat := 2147483647

/-- The greatest power of ten that is finite as a double. -/
def maxTenPower : Nat := 308

/-- A power of ten as a double. -/
def tenDouble (k : Nat) : Double := ⟨false, Double.round (Nat.pow 10 k * Double.unit) 1⟩

/-- The quotient by a power of ten, in steps of the greatest finite power. -/
def scaledDown (x : Double) (k : Nat) : Double :=
  if k ≤ maxTenPower then x.div (tenDouble k)
  else if x.isZero then x
  else scaledDown (x.div (tenDouble maxTenPower)) (k - maxTenPower)
termination_by k
decreasing_by
  simp only [maxTenPower] at *
  omega

/-- The double of `significand · 10 ^ exponent`, rounding the significand and then the result;
`none` beyond the finite range. -/
def scaled? (significand : Nat) (exponent : Int) : Option Double :=
  let x := Double.ofInt significand
  if exponent < 0 then some (scaledDown x exponent.natAbs)
  else if exponent ≤ maxTenPower then x.mul? (tenDouble exponent.toNat)
  else if x.isZero then some x
  else none

/-! ### Numbers -/

/-- Takes further digits into a significand while it fits in 64 bits; gives the significand and the
number of digits it took. -/
def absorb (significand : Nat) : List Char → Nat × Nat
  | [] => (significand, 0)
  | d :: ds =>
    let next := significand * 10 + (d.toNat - 48)
    if maxNatural < next then (significand, 0)
    else
      let (all, count) := absorb next ds
      (all, count + 1)

/-- Takes the digits of an exponent.  One beyond 31 bits settles the number at once: it is zero, or
out of range at the digit that goes beyond. -/
def exponentDigits (significand : Nat) (negative : Bool) : Nat → List Char → Scan (Option Nat)
  | value, [] => pure (some value)
  | value, d :: ds => do
    skip 1
    let next := value * 10 + (d.toNat - 48)
    if maxExponent < next then
      if significand ≠ 0 ∧ negative = false then atCursor .numberRange
      else do
        skip ds.length
        pure none
    else exponentDigits significand negative next ds

/-- The exponent behind its `e`; `none` for one so small or a significand so zero that the number
is zero. -/
def exponentPart (significand : Nat) : Scan (Option Int) := do
  skip 1
  let negative ← do
    match ← peek with
    | some '+' => do skip 1; pure false
    | some '-' => do skip 1; pure true
    | _ => pure false
  match ← peek with
  | none => atCursor .unfinishedValue
  | some c =>
    if c.isDigit then do
      let digits := (← get).rest.takeWhile Char.isDigit
      let value ← exponentDigits significand negative 0 digits
      pure (value.map fun n => if negative then -(n : Int) else n)
    else behindNext .badNumber

/-- Finishes a double of which the significand and the power of ten before the exponent part have
been read. -/
def finishDouble (negative : Bool) (significand : Nat) (exponent : Int) : Scan Number := do
  let part ← do
    match ← peek with
    | some 'e' => exponentPart significand
    | some 'E' => exponentPart significand
    | _ => pure (some 0)
  match part with
  | none => pure (.float ⟨negative, 0⟩)
  | some shift =>
    match scaled? significand (exponent + shift) with
    | some x => pure (.float (x.withSign negative))
    | none => atCursor .numberRange

/-- The digits behind a point, at least one. -/
def places : Scan (List Char) := do
  skip 1
  let digits ← takeWhile Char.isDigit
  if digits.isEmpty then
    match ← peek with
    | none => atCursor .unfinishedValue
    | some _ => behindNext .badNumber
  else pure digits

/-- The digits before a point: one zero, or digits that do not begin with a zero. -/
def wholeDigits : Scan (List Char) := do
  match ← peek with
  | none => atCursor .unfinishedValue
  | some '0' => do
    skip 1
    match ← peek with
    | some c => if c.isDigit then behindNext .badNumber else pure ['0']
    | none => pure ['0']
  | some c => if c.isDigit then takeWhile Char.isDigit else behindNext .badNumber

/-- An integer literal as a number: a double if it does not fit, or is zero with a sign. -/
def integerNumber (negative : Bool) (n : Nat) : Number :=
  if negative then
    if n = 0 ∨ Numeral.minInteger.natAbs < n then .float ((Double.ofInt n).withSign true)
    else .int (-(n : Int))
  else .int n

/-- A number behind its sign. -/
def unsignedNumber (negative : Bool) : Scan Number := do
  let whole ← wholeDigits
  let (significand, count) := absorb 0 whole
  let dropped : Int := ((whole.length - count : Nat) : Int)
  match ← peek with
  | some '.' => do
    let digits ← places
    let (significand, count) := absorb significand digits
    finishDouble negative significand (dropped - count)
  | some c =>
    if c = 'e' ∨ c = 'E' ∨ dropped ≠ 0 then finishDouble negative significand dropped
    else pure (integerNumber negative significand)
  | none =>
    if dropped ≠ 0 then finishDouble negative significand dropped
    else pure (integerNumber negative significand)

/-- A number. -/
def number : Scan Number := do
  match ← peek with
  | some '-' => do skip 1; unsignedNumber true
  | _ => unsignedNumber false

/-- Passes over the exponent behind its `e`, whatever its size. -/
def passExponent : Scan Unit := do
  skip 1
  match ← peek with
  | some '+' => skip 1
  | some '-' => skip 1
  | _ => pure ()
  let digits ← takeWhile Char.isDigit
  if digits.isEmpty then behindNext .badNumber else pure ()

/-- Passes over a number behind its sign, whatever its size. -/
def passUnsigned : Scan Unit := do
  match ← peek with
  | some '0' => do
    skip 1
    match ← peek with
    | some c => if c.isDigit then behindNext .badNumber else pure ()
    | none => pure ()
  | _ => do
    let digits ← takeWhile Char.isDigit
    if digits.isEmpty then behindNext .badNumber else pure ()
  match ← peek with
  | some '.' => do
    skip 1
    let digits ← takeWhile Char.isDigit
    if digits.isEmpty then behindNext .badNumber
    else
      match ← peek with
      | some 'e' => passExponent
      | some 'E' => passExponent
      | _ => pure ()
  | some 'e' => passExponent
  | some 'E' => passExponent
  | _ => pure ()

/-- Passes over a number. -/
def passNumber : Scan Unit := do
  match ← peek with
  | some '-' => do skip 1; passUnsigned
  | _ => passUnsigned

/-! ### Strings -/

/-- The value of a hexadecimal digit. -/
def hexDigit? (c : Char) : Option Nat :=
  let n := c.toNat
  if 48 ≤ n ∧ n ≤ 57 then some (n - 48)
  else if 65 ≤ n ∧ n ≤ 70 then some (n - 55)
  else if 97 ≤ n ∧ n ≤ 102 then some (n - 87)
  else none

/-- Four hexadecimal digits.  They are taken as four bytes, so that a flaw in them is reported
behind the fourth byte. -/
def fourDigits : Scan Nat := fun c =>
  if byteCount c.rest < 4 then .error ⟨.unfinishedString, c.offset + byteCount c.rest⟩
  else match c.rest.take 4 |>.mapM hexDigit? with
    | some [a, b, d, e] => .ok (((a * 16 + b) * 16 + d) * 16 + e, c.drop 4)
    | _ => .error ⟨.badEscape, c.offset + 4⟩

/-- Passes over one character that has to come next. -/
def expectInEscape (expected : Char) : Scan Unit := do
  match ← peek with
  | none => atCursor .unfinishedString
  | some c => if c = expected then skip 1 else behindNext .cutEscape

/-- The character of an escape by number, behind the `u`.  A character beyond 16 bits takes two
escapes, the halves of a surrogate pair in their order. -/
def numberedChar : Scan Char := do
  let high ← fourDigits
  if 0xDC00 ≤ high ∧ high ≤ 0xDFFF then atCursor .loneSurrogate
  else if 0xD800 ≤ high ∧ high ≤ 0xDBFF then do
    expectInEscape '\\'
    expectInEscape 'u'
    let low ← fourDigits
    if 0xDC00 ≤ low ∧ low ≤ 0xDFFF then
      pure (Char.ofNat ((high - 0xD800) * 0x400 + (low - 0xDC00) + 0x10000))
    else atCursor .loneSurrogate
  else pure (Char.ofNat high)

/-- The character that a letter behind a backslash stands for. -/
def letterEscape? (c : Char) : Option Char :=
  match c with
  | '"' => some '"'
  | '\\' => some '\\'
  | '/' => some '/'
  | 'b' => some (Char.ofNat 8)
  | 'f' => some (Char.ofNat 12)
  | 'n' => some '\n'
  | 'r' => some '\r'
  | 't' => some '\t'
  | _ => none

/-- The character of an escape, behind the backslash. -/
def escape : Scan Char := do
  match ← peek with
  | none => atCursor .unfinishedString
  | some 'u' => do skip 1; numberedChar
  | some c =>
    match letterEscape? c with
    | some d => do skip 1; pure d
    | none => behindNext .badEscape

/-- Whether a character stands for itself in a string. -/
def isLiteral (c : Char) : Bool := c ≠ '"' && c ≠ '\\' && 32 ≤ c.toNat

/-- The characters of a string up to its closing quote.  Every round takes at least one character,
so the number of characters left bounds the rounds. -/
def stringRounds : Nat → Scan (List Char)
  | 0 => atCursor .unfinishedString
  | fuel + 1 => do
    let plain ← takeWhile isLiteral
    match ← peek with
    | none => atCursor .unfinishedString
    | some '"' => do skip 1; pure plain
    | some '\\' => do
      skip 1
      let c ← escape
      let more ← stringRounds fuel
      pure (plain ++ c :: more)
    | some _ => behindNext .controlCharacter

/-- A string behind its opening quote. -/
def string : Scan String := do
  let cs ← stringRounds ((← get).rest.length + 1)
  pure (String.ofList cs)

/-- Passes over an escape behind the backslash; surrogates may stand alone. -/
def passEscape : Scan Unit := do
  match ← peek with
  | none => atCursor .unfinishedString
  | some 'u' => do skip 1; let _ ← fourDigits; pure ()
  | some c => if (letterEscape? c).isSome then skip 1 else behindNext .badEscape

/-- Passes over a string up to and with its closing quote. -/
def passRounds : Nat → Scan Unit
  | 0 => atCursor .unfinishedString
  | fuel + 1 => do
    let _ ← takeWhile isLiteral
    match ← peek with
    | none => atCursor .unfinishedString
    | some '"' => skip 1
    | some '\\' => do
      skip 1
      passEscape
      passRounds fuel
    | some _ => atCursor .controlCharacter

/-- Passes over a string behind its opening quote. -/
def passString : Scan Unit := do passRounds ((← get).rest.length + 1)

end Json

end Reshape
