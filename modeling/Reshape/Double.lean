/-!
# Finite double-precision numbers

Every finite binary64 number is a whole multiple of `2 ^ (-1074)`, the least positive one.  A
`Double` is a sign together with that multiple, so comparing two of them compares integers and
every operation is the exact integer operation followed by one rounding.

* **`Double.value`** — the number as a signed count of steps.
* **`Double.round`** — the quotient of two naturals, rounded to 53 significant bits, ties to even.
* **`Double.ofRatio?`** — the double next to a quotient, unless it lies beyond the finite range.
* **`Double.distance`**, **`Double.within`** — the rounded distance of two numbers and its
  comparison with a tolerance.  The distance is symmetric and vanishes from a number to itself.
-/

namespace Reshape

/-- A finite binary64 number: a sign, and its magnitude counted in steps of `2 ^ (-1074)`. -/
structure Double where
  /-- The sign bit; zero has both signs. -/
  negative : Bool
  /-- The magnitude divided by `2 ^ (-1074)`. -/
  steps : Nat
deriving DecidableEq, Repr

namespace Double

/-- The number of steps in one. -/
def unit : Nat := Nat.pow 2 1074

/-- The least magnitude, in steps, that is no longer finite. -/
def ceiling : Nat := Nat.pow 2 2098

/-- Positive zero. -/
def zero : Double := ⟨false, 0⟩

/-- The number as a signed count of steps; both zeros have value `0`. -/
def value (x : Double) : Int := if x.negative then -(x.steps : Int) else x.steps

/-- The number with the sign bit turned over. -/
def neg (x : Double) : Double := ⟨!x.negative, x.steps⟩

/-- The number whose magnitude is that of `x`, with the sign bit given. -/
def withSign (negative : Bool) (x : Double) : Double := ⟨negative, x.steps⟩

/-- Equality of values, under which both zeros are equal. -/
def same (x y : Double) : Bool := x.value == y.value

/-- Whether the number is one of the two zeros. -/
def isZero (x : Double) : Bool := x.steps == 0

@[simp] theorem value_mk_false (n : Nat) : value ⟨false, n⟩ = n := rfl

@[simp] theorem value_mk_true (n : Nat) : value ⟨true, n⟩ = -(n : Int) := rfl

@[simp] theorem same_iff (x y : Double) : x.same y = true ↔ x.value = y.value := by
  simp [same]

theorem same_self (x : Double) : x.same x = true := by simp

/-! ### Rounding -/

/-- The spacing of doubles, in steps, at a magnitude of `n` steps. -/
def gap (n : Nat) : Nat := Nat.pow 2 (Nat.log2 n - 52)

/-- The multiple of `cell` nearest to `num / den`; of two equally near ones, the even multiple. -/
def nearest (num den cell : Nat) : Nat :=
  let width := den * cell
  let low := num / width
  let rest := num % width
  if 2 * rest < width then low * cell
  else if width < 2 * rest then (low + 1) * cell
  else (low + low % 2) * cell

/-- The quotient `num / den` of step counts, rounded to a multiple of the spacing there. -/
def round (num den : Nat) : Nat := nearest num den (gap (num / den))

/-- A multiple of the spacing is its own nearest multiple. -/
theorem nearest_mul (k cell : Nat) (h : 0 < cell) : nearest (k * cell) 1 cell = k * cell := by
  have hmod : k * cell % cell = 0 := Nat.mul_mod_left k cell
  have hdiv : k * cell / cell = k := Nat.mul_div_cancel k h
  simp [nearest, hmod, hdiv, h]

/-- Magnitudes below `2 ^ 53` steps are all representable. -/
theorem round_one_of_lt {n : Nat} (h : n < Nat.pow 2 53) : round n 1 = n := by
  have hlog : Nat.log2 n ≤ 52 := by
    by_cases hz : n = 0
    · simp [hz]
    · have := (Nat.log2_lt hz).2 (show n < 2 ^ 53 from h)
      omega
  have hgap : gap n = 1 := by
    simp [gap, Nat.sub_eq_zero_of_le hlog]
  have := nearest_mul n 1 Nat.one_pos
  simpa [round, hgap] using this

@[simp] theorem round_zero : round 0 1 = 0 := round_one_of_lt (by decide)

/-- The double nearest to `num / den`, unless it rounds beyond the finite range. -/
def ofRatio? (negative : Bool) (num den : Nat) : Option Double :=
  let steps := round (num * unit) den
  if steps < ceiling then some ⟨negative, steps⟩ else none

/-- The double nearest to an integer.  It is meant for integers of at most 64 bits, which all lie
far inside the finite range. -/
def ofInt (i : Int) : Double := ⟨decide (i < 0), round (i.natAbs * unit) 1⟩

/-! ### Arithmetic -/

/-- The product of magnitudes, rounded; `none` beyond the finite range. -/
def mul? (x y : Double) : Option Double :=
  let steps := round (x.steps * y.steps) unit
  if steps < ceiling then some ⟨x.negative != y.negative, steps⟩ else none

/-- The quotient, rounded.  The divisor is meant to be at least one, so the quotient is finite. -/
def div (x y : Double) : Double :=
  ⟨x.negative != y.negative, round (x.steps * unit) y.steps⟩

/-- The magnitude of the rounded difference, in steps; an overflow shows as a count beyond
`ceiling`. -/
def distance (x y : Double) : Nat := round (x.value - y.value).natAbs 1

/-- Whether the rounded distance is at most the tolerance; a negative tolerance admits nothing. -/
def within (tolerance x y : Double) : Bool := decide ((distance x y : Int) ≤ tolerance.value)

@[simp] theorem distance_self (x : Double) : distance x x = 0 := by simp [distance]

theorem distance_comm (x y : Double) : distance x y = distance y x := by
  have h : (x.value - y.value).natAbs = (y.value - x.value).natAbs := by omega
  simp [distance, h]

theorem within_comm (t x y : Double) : within t x y = within t y x := by
  simp [within, distance_comm x y]

theorem within_self {t : Double} (h : 0 ≤ t.value) (x : Double) : within t x x = true := by
  simpa [within] using h

end Double

end Reshape
