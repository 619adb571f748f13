import Reshape.Json.Literal

/-!
# Rounding integers to doubles

The double next to an integer is an integer again.  Integers of up to 53 bits are kept as they are,
and a longer one becomes a multiple of the spacing at its magnitude:

* **`Json.IsInteger`** — the integers that occur as numbers of documents;
* **`Double.roundedInteger`** — the integer that the double next to an integer is;
* **`Double.value_ofInt`** — the double next to an integer has this value;
* **`Double.roundedInteger_eq_self`** — an integer of up to 53 bits is its own double;
* **`Double.natAbs_sub_le_of_roundedInteger_eq`** — integers that have the same double are near.

The main statement is **`Double.within_ofInt_iff`**: within a tolerance below one lie just those
integers that have the same double.
-/

namespace Reshape

/-- The integers that occur as numbers of documents: those of 64 bits, signed or not. -/
def Json.IsInteger (i : Int) : Prop := Numeral.minInteger ≤ i ∧ i ≤ Json.maxNatural

namespace Double

/-! ### Powers of two

The definitions have `Nat.pow`, and so have these laws, since `^` is another term to `rw`. -/

theorem two_pow_add (m n : Nat) : Nat.pow 2 (m + n) = Nat.pow 2 m * Nat.pow 2 n :=
  Nat.pow_add 2 m n

theorem two_pow_pos (n : Nat) : 0 < Nat.pow 2 n := Nat.two_pow_pos n

theorem two_pow_le {m n : Nat} (h : m ≤ n) : Nat.pow 2 m ≤ Nat.pow 2 n :=
  Nat.pow_le_pow_right (by decide) h

theorem gap_pos (n : Nat) : 0 < gap n := two_pow_pos _

theorem log2_mul_two_pow {n : Nat} (h : n ≠ 0) (k : Nat) :
    Nat.log2 (n * Nat.pow 2 k) = Nat.log2 n + k := by
  induction k with
  | zero => exact congrArg Nat.log2 (Nat.mul_one n)
  | succ k ih =>
    have hdouble : n * Nat.pow 2 (k + 1) = 2 * (n * Nat.pow 2 k) := by
      show n * (Nat.pow 2 k * 2) = _
      rw [← Nat.mul_assoc, Nat.mul_comm]
    have hne : n * Nat.pow 2 k ≠ 0 := Nat.mul_ne_zero h (Nat.ne_of_gt (two_pow_pos k))
    rw [hdouble, Nat.log2_two_mul hne, ih, Nat.add_assoc]

/-! ### Nearest multiples -/

theorem nearest_one (num cell : Nat) :
    nearest num 1 cell =
      if 2 * (num % cell) < cell then num / cell * cell
      else if cell < 2 * (num % cell) then (num / cell + 1) * cell
      else (num / cell + num / cell % 2) * cell := by
  simp only [nearest, Nat.one_mul]

/-- The nearest multiple is half a cell away at most, and it is not below the last multiple that is
not above the number. -/
theorem exists_nearest_eq_mul (num : Nat) {cell : Nat} (h : 0 < cell) :
    ∃ k, nearest num 1 cell = k * cell ∧ num / cell ≤ k ∧
      2 * (k * cell) ≤ 2 * num + cell ∧ 2 * num ≤ 2 * (k * cell) + cell := by
  have hsplit : num / cell * cell + num % cell = num := Nat.div_add_mod' num cell
  have hrest : num % cell < cell := Nat.mod_lt num h
  have hnext : (num / cell + 1) * cell = num / cell * cell + cell := Nat.succ_mul _ _
  rw [nearest_one]
  split
  · exact ⟨num / cell, rfl, by omega, by omega, by omega⟩
  · split
    · exact ⟨num / cell + 1, rfl, by omega, by omega, by omega⟩
    · -- Both neighbours are half a cell away.
      rcases Nat.mod_two_eq_zero_or_one (num / cell) with heven | hodd
      · rw [heven]
        exact ⟨num / cell, rfl, by omega, by omega, by omega⟩
      · rw [hodd]
        exact ⟨num / cell + 1, rfl, by omega, by omega, by omega⟩

/-- Scaling a number and its cells scales the nearest multiple. -/
theorem nearest_mul_right (num cell : Nat) {scale : Nat} (h : 0 < scale) :
    nearest (num * scale) 1 (cell * scale) = nearest num 1 cell * scale := by
  have hbelow : 2 * (num % cell * scale) < cell * scale ↔ 2 * (num % cell) < cell := by
    rw [← Nat.mul_assoc, Nat.mul_lt_mul_right h]
  have habove : cell * scale < 2 * (num % cell * scale) ↔ cell < 2 * (num % cell) := by
    rw [← Nat.mul_assoc, Nat.mul_lt_mul_right h]
  rw [nearest_one, nearest_one, Nat.mul_div_mul_right _ _ h, Nat.mul_mod_mul_right]
  simp only [hbelow, habove]
  split
  · rw [Nat.mul_assoc]
  · split <;> rw [Nat.mul_assoc]

/-! ### Rounding -/

theorem round_one (n : Nat) : round n 1 = nearest n 1 (gap n) := by
  rw [round, Nat.div_one]

/-- Rounding moves a magnitude by half of the spacing at most. -/
theorem two_mul_round_le (n : Nat) : 2 * round n 1 ≤ 2 * n + gap n := by
  obtain ⟨k, hk, -, hle, -⟩ := exists_nearest_eq_mul n (gap_pos n)
  rw [round_one, hk]
  exact hle

theorem two_mul_le_round (n : Nat) : 2 * n ≤ 2 * round n 1 + gap n := by
  obtain ⟨k, hk, -, -, hle⟩ := exists_nearest_eq_mul n (gap_pos n)
  rw [round_one, hk]
  exact hle

/-- Rounding does not go below the leading power of two. -/
theorem two_pow_log2_le_round {n : Nat} (h : n ≠ 0) : Nat.pow 2 (Nat.log2 n) ≤ round n 1 := by
  obtain ⟨k, hk, hfloor, -, -⟩ := exists_nearest_eq_mul n (gap_pos n)
  have hpow : Nat.pow 2 (Nat.log2 n - (Nat.log2 n - 52)) * gap n = Nat.pow 2 (Nat.log2 n) := by
    rw [gap, ← two_pow_add]
    congr 1
    omega
  have hle : Nat.pow 2 (Nat.log2 n - (Nat.log2 n - 52)) ≤ n / gap n := by
    rw [Nat.le_div_iff_mul_le (gap_pos n), hpow]
    exact Nat.log2_self_le h
  rw [round_one, hk, ← hpow]
  exact Nat.mul_le_mul_right _ (Nat.le_trans hle hfloor)

/-- A magnitude that reaches a power of two does not round below it. -/
theorem two_pow_le_round {n k : Nat} (h : Nat.pow 2 k ≤ n) : Nat.pow 2 k ≤ round n 1 := by
  have hne : n ≠ 0 := Nat.ne_of_gt (Nat.lt_of_lt_of_le (two_pow_pos k) h)
  have hlog : k ≤ Nat.log2 n := (Nat.le_log2 hne).2 h
  exact Nat.le_trans (two_pow_le hlog) (two_pow_log2_le_round hne)

/-- **Rounding commutes with scaling** by a power of two. -/
theorem round_mul_two_pow (n k : Nat) :
    round (n * Nat.pow 2 k) 1 = round n 1 * Nat.pow 2 k := by
  by_cases hzero : n = 0
  · rw [hzero, Nat.zero_mul, round_zero, Nat.zero_mul]
  have hlog : Nat.log2 (n * Nat.pow 2 k) = Nat.log2 n + k := log2_mul_two_pow hzero k
  by_cases hshort : Nat.log2 n ≤ 52
  · -- The scaled number is a multiple of the spacing already.
    have hcell : Nat.pow 2 (k - (Nat.log2 n + k - 52)) * gap (n * Nat.pow 2 k) = Nat.pow 2 k := by
      rw [gap, hlog, ← two_pow_add]
      congr 1
      omega
    have hlt : n < Nat.pow 2 53 := (Nat.log2_lt hzero).1 (by omega)
    have hnearest := nearest_mul (n * Nat.pow 2 (k - (Nat.log2 n + k - 52))) _
      (gap_pos (n * Nat.pow 2 k))
    rw [Nat.mul_assoc, hcell] at hnearest
    rw [round_one, hnearest, round_one_of_lt hlt]
  · have hgap : gap (n * Nat.pow 2 k) = gap n * Nat.pow 2 k := by
      rw [gap, hlog, gap, ← two_pow_add]
      congr 1
      omega
    rw [round_one, hgap, nearest_mul_right n (gap n) (two_pow_pos k), round_one]

theorem exists_unit_eq : ∃ k, unit = Nat.pow 2 k := by
  unfold unit
  exact ⟨1074, Eq.refl _⟩

/-- **Whole numbers round to whole numbers**, in the same way as if they were counted in ones. -/
theorem round_mul_unit (n : Nat) : round (n * unit) 1 = round n 1 * unit := by
  obtain ⟨k, hunit⟩ := exists_unit_eq
  rw [hunit]
  exact round_mul_two_pow n k

/-- A magnitude of one or more does not round below one. -/
theorem unit_le_round {n : Nat} (h : unit ≤ n) : unit ≤ round n 1 := by
  obtain ⟨k, hunit⟩ := exists_unit_eq
  rw [hunit] at h ⊢
  exact two_pow_le_round h

/-! ### Integers -/

/-- The integer that the double next to an integer is. -/
def roundedInteger (i : Int) : Int :=
  if i < 0 then -(round i.natAbs 1 : Int) else round i.natAbs 1

/-- **The double next to an integer is an integer.** -/
theorem value_ofInt (i : Int) : (ofInt i).value = roundedInteger i * unit := by
  rw [ofInt, round_mul_unit, roundedInteger]
  by_cases h : i < 0
  · rw [if_pos h, decide_eq_true h, value_mk_true, Int.natCast_mul, Int.neg_mul]
  · rw [if_neg h, decide_eq_false h, value_mk_false, Int.natCast_mul]

/-- Integers of up to 53 bits are doubles, and so is the first one above them. -/
theorem roundedInteger_eq_self {i : Int} (h : i.natAbs ≤ Nat.pow 2 53) : roundedInteger i = i := by
  have hround : round i.natAbs 1 = i.natAbs := by
    rcases Nat.lt_or_eq_of_le h with hlt | heq
    · exact round_one_of_lt hlt
    · rw [heq]
      decide
  rw [roundedInteger, hround]
  split <;> omega

/-- The spacing of doubles below `2 ^ 64` is at most `2 ^ 11`. -/
theorem gap_le {n : Nat} (h : n ≤ Json.maxNatural) : gap n ≤ 2048 := by
  have hlog : Nat.log2 n < 64 := by
    by_cases hzero : n = 0
    · rw [hzero]
      decide
    · exact (Nat.log2_lt hzero).2 (Nat.lt_succ_of_le h)
  have hexponent : Nat.log2 n - 52 ≤ 11 := by omega
  exact two_pow_le hexponent

/-- Rounding an integer of a document moves it by `2 ^ 10` at most. -/
theorem natAbs_roundedInteger_sub_le {i : Int} (h : Json.IsInteger i) :
    (roundedInteger i - i).natAbs ≤ 1024 := by
  have hnatural : i.natAbs ≤ Json.maxNatural := by
    have hlow : -9223372036854775808 ≤ i := h.1
    have hhigh : i ≤ 18446744073709551615 := h.2
    show i.natAbs ≤ 18446744073709551615
    omega
  have hgap := gap_le hnatural
  have habove := two_mul_round_le i.natAbs
  have hbelow := two_mul_le_round i.natAbs
  rw [roundedInteger]
  split <;> omega

/-- Integers of documents that have the same double are near to each other. -/
theorem natAbs_sub_le_of_roundedInteger_eq {i j : Int} (hi : Json.IsInteger i)
    (hj : Json.IsInteger j) (h : roundedInteger i = roundedInteger j) :
    (i - j).natAbs ≤ 2048 := by
  have hi' := natAbs_roundedInteger_sub_le hi
  have hj' := natAbs_roundedInteger_sub_le hj
  omega

/-- **Within a tolerance below one lie the integers that have the same double.** -/
theorem within_ofInt_iff {t : Double} (hzero : 0 ≤ t.value) (hone : t.value < unit) (i j : Int) :
    within t (ofInt i) (ofInt j) = true ↔ roundedInteger i = roundedInteger j := by
  rw [within, decide_eq_true_eq, distance, value_ofInt, value_ofInt, ← Int.sub_mul]
  constructor
  · intro hnear
    refine Decidable.byContradiction fun hne => ?_
    have hapart : 1 ≤ (roundedInteger i - roundedInteger j).natAbs := by omega
    have hsteps : unit ≤ ((roundedInteger i - roundedInteger j) * unit).natAbs := by
      rw [Int.natAbs_mul, Int.natAbs_natCast]
      exact Nat.le_mul_of_pos_left unit hapart
    have hfar := unit_le_round hsteps
    omega
  · intro hsame
    rw [hsame, Int.sub_self, Int.zero_mul, Int.natAbs_zero, round_zero]
    exact hzero

end Double

end Reshape
