import Reshape.Double

/-!
# The shortest decimal of a double

The decimals that read back as a given double fill an interval around it.  The shortest of them is
a multiple of the greatest power of ten that has a multiple in the interval; of several such
multiples the one nearest to the double is taken.

* **`Double.Interval`** — the decimals that round to a magnitude, in quarters of a step.
* **`Double.shortest`** — the digits and the power of ten of the shortest decimal.
-/

namespace Reshape

namespace Double

/-- The numbers that round to one magnitude, as bounds counted in quarters of a step. -/
structure Interval where
  /-- The magnitude itself, in quarters of a step. -/
  centre : Nat
  /-- The lower bound. -/
  low : Nat
  /-- The upper bound. -/
  high : Nat
  /-- Whether the bounds themselves round to the magnitude. -/
  closed : Bool
deriving DecidableEq, Repr

/-- The interval of `n` steps.  Below a power of two the spacing is half of that above it, unless
the spacing is already one step; the bounds belong to an even significand. -/
def interval (n : Nat) : Interval :=
  let g := gap n
  let below := if g = 1 ∨ n ≠ Nat.pow 2 (Nat.log2 n) then 2 * g else g
  { centre := 4 * n, low := 4 * n - below, high := 4 * n + 2 * g, closed := n / g % 2 == 0 }

/-- Whether the fraction `num / den`, in quarters of a step, lies in the interval. -/
def Interval.holds (i : Interval) (num den : Nat) : Bool :=
  if i.closed then i.low * den ≤ num && num ≤ i.high * den
  else i.low * den < num && num < i.high * den

/-- The power of ten as a fraction of a quarter of a step: numerator and denominator. -/
def tenPower : Int → Nat × Nat
  | .ofNat p => (Nat.pow 10 p * (4 * unit), 1)
  | .negSucc p => (4 * unit, Nat.pow 10 (p + 1))

/-- How far apart two naturals are. -/
def apart (a b : Nat) : Nat := (a - b) + (b - a)

/-- The multiple of `10 ^ p` in the interval that is nearest to the centre, if there is one.  Only
the two neighbours of the centre are tried: when any multiple lies in the interval, one of them
does. -/
def Interval.multiple? (i : Interval) (p : Int) : Option Nat :=
  let (num, den) := tenPower p
  let centre := i.centre * den
  let below := centre / num
  let above := below + 1
  match i.holds (below * num) den, i.holds (above * num) den with
  | true, true =>
    let toBelow := apart centre (below * num)
    let toAbove := apart centre (above * num)
    if toBelow < toAbove || (toBelow == toAbove && below % 2 == 0) then some below else some above
  | true, false => some below
  | false, true => some above
  | false, false => none

/-- A decimal: `digits · 10 ^ exponent`. -/
structure Decimal where
  /-- The digits, read as a natural number. -/
  digits : Nat
  /-- The power of ten that the last digit counts. -/
  exponent : Int
deriving DecidableEq, Repr

/-- Goes down from the power `p` to the first one with a multiple in the interval. -/
def Interval.descend (i : Interval) : Nat → Int → Decimal
  | 0, p =>
    let (num, den) := tenPower p
    ⟨i.centre * den / num, p⟩
  | fuel + 1, p =>
    match i.multiple? p with
    | some m => ⟨m, p⟩
    | none => i.descend fuel (p - 1)

/-- A power of ten that is greater than the magnitude of `n` steps, and by a factor of at most one
thousand: `30103 / 100000` is the logarithm of two, rounded up. -/
def tenBound (n : Nat) : Int :=
  Int.fdiv (((Nat.log2 n : Int) - 1073) * 30103) 100000 + 1

/-- The shortest decimal that reads back as `n` steps.  Seventeen digits always suffice, so the
search stops within twenty powers of ten. -/
def shortest (n : Nat) : Decimal := (interval n).descend 24 (tenBound n)

end Double

end Reshape
