import Reshape.Double

/-!
# Decimal numerals

Readers for the numerals that occur as text: array positions, whole numbers and decimal fractions.
A numeral fills the whole text; there is no blank to skip and no digit separator.

* **`Numeral.natural?`** — one or more ASCII digits.
* **`Numeral.position?`** — an optional `+` and a natural below `2 ^ 64`.
* **`Numeral.integer?`** — an optional sign and a natural, within 64 signed bits.
* **`Numeral.fraction?`** — a decimal fraction with sign, point and exponent, as the nearest double.

The main statement is **`natural?_toDigits`**: the digits of a natural read back as that natural.
-/

namespace Reshape

namespace Numeral

/-- The natural written by ASCII digits, if there is at least one and nothing else. -/
def natural? (cs : List Char) : Option Nat :=
  if !cs.isEmpty && cs.all Char.isDigit then some (Nat.ofDigitChars 10 cs 0) else none

/-- Writing a natural and reading it gives it back. -/
theorem natural?_toDigits (n : Nat) : natural? (Nat.toDigits 10 n) = some n := by
  have hall : (Nat.toDigits 10 n).all Char.isDigit = true := by
    rw [List.all_eq_true]
    intro c hc
    exact Nat.isDigit_of_mem_toDigits (by decide) (by decide) hc
  have hne : (Nat.toDigits 10 n).isEmpty = false := by
    simp
  simp [natural?, hall, hne]

/-- A text without its leading `+`, if it has one. -/
def dropPlus : List Char → List Char
  | '+' :: cs => cs
  | cs => cs

/-- The greatest position that a word can hold. -/
def maxPosition : Nat := 18446744073709551615

/-- An array position: an optional `+`, then a natural that fits in a word. -/
def position? (cs : List Char) : Option Nat :=
  (natural? (dropPlus cs)).filter (· ≤ maxPosition)

/-- The least integer of 64 signed bits. -/
def minInteger : Int := -9223372036854775808

/-- The greatest integer of 64 signed bits. -/
def maxInteger : Int := 9223372036854775807

/-- An integer of 64 signed bits, with an optional sign. -/
def integer? (cs : List Char) : Option Int :=
  let read : Option Int := match cs with
    | '-' :: rest => (natural? rest).map fun n => -(n : Int)
    | rest => (natural? (dropPlus rest)).map Int.ofNat
  read.filter fun i => minInteger ≤ i && i ≤ maxInteger

/-! ### Decimal fractions -/

/-- A decimal fraction before rounding: `digits · 10 ^ exponent`. -/
structure Scientific where
  /-- All digits of the significand, read as one natural number. -/
  digits : Nat
  /-- The power of ten that the last of them counts. -/
  exponent : Int
deriving DecidableEq, Repr

/-- The double nearest to a decimal.  Decimals far outside the range are settled by the length of
their digits, so that no huge power of ten is ever formed. -/
def Scientific.round? (negative : Bool) (s : Scientific) : Option Double :=
  if s.digits = 0 then some ⟨negative, 0⟩
  else
    let top := (Nat.toDigits 10 s.digits).length + s.exponent
    if 310 < top then none
    else if top < -330 then some ⟨negative, 0⟩
    else Double.ofRatio? negative (s.digits * Nat.pow 10 s.exponent.toNat)
      (Nat.pow 10 (-s.exponent).toNat)

/-- The exponent part of a fraction: nothing, or `e` and a whole number with an optional sign. -/
def exponent? : List Char → Option Int
  | [] => some 0
  | c :: rest =>
    if c = 'e' ∨ c = 'E' then
      match rest with
      | '-' :: ds => (natural? ds).map fun n => -(n : Int)
      | ds => (natural? (dropPlus ds)).map Int.ofNat
    else none

/-- A fraction without its sign: digits with at most one point among them, of which at least one
digit is there, and an optional exponent. -/
def scientific? (cs : List Char) : Option Scientific :=
  let whole := cs.takeWhile Char.isDigit
  let tail := cs.dropWhile Char.isDigit
  let (places, tail) := match tail with
    | '.' :: rest => (rest.takeWhile Char.isDigit, rest.dropWhile Char.isDigit)
    | rest => ([], rest)
  if whole.isEmpty && places.isEmpty then none
  else (exponent? tail).map fun e => ⟨Nat.ofDigitChars 10 (whole ++ places) 0, e - places.length⟩

/-- A decimal fraction with an optional sign, rounded to the nearest double; `none` for any other
text and for a value beyond the finite range. -/
def fraction? : List Char → Option Double
  | '-' :: cs => (scientific? cs).bind (Scientific.round? true)
  | cs => (scientific? (dropPlus cs)).bind (Scientific.round? false)

end Numeral

end Reshape
