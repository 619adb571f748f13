import Reshape.BuiltIn
import Reshape.Proofs.Numeral
import Reshape.Proofs.Rounding
import Mathlib.Data.List.TakeWhile

/-!
# Integers as texts

An integer that becomes a text and a number again goes through two readers: of integers of 64 bits
with a sign, and of fractions for every other numeral.

* **`integer?_integerText`** — the first reader gives an integer in its range back;
* **`fraction?_toDigits`** — the second one gives the double next to a natural.

The main statement is **`toNumber_toText_integer`**: every integer of a document becomes a number
again, and it is the same number up to the greatest integer of 64 bits with a sign.
-/

namespace Reshape

open Json

/-! ### Blanks -/

theorem Text.isBlank_of_isDigit {c : Char} (h : c.isDigit = true) : Text.isBlank c = false := by
  have hbounds := Numeral.toNat_of_isDigit h
  simp only [Text.isBlank, Bool.or_eq_false_iff, Bool.and_eq_false_iff, decide_eq_false_iff_not,
    beq_eq_false_iff_ne]
  omega

/-- A text without blanks is left as it is by trimming. -/
theorem Text.trimList_of_forall {cs : List Char} (h : ∀ c ∈ cs, Text.isBlank c = false) :
    Text.trimList cs = cs :=
  Text.trimList_eq_self (fun c hc => h c (List.mem_of_mem_head? hc))
    fun c hc => h c (List.mem_of_mem_getLast? hc)

/-! ### Texts of integers -/

theorem toList_integerText (i : Int) :
    (integerText i).toList =
      if i < 0 then '-' :: Nat.toDigits 10 i.natAbs else Nat.toDigits 10 i.natAbs :=
  String.toList_ofList

theorem trimList_integerText (i : Int) :
    Text.trimList (integerText i).toList = (integerText i).toList := by
  refine Text.trimList_of_forall fun c hc => ?_
  rw [toList_integerText] at hc
  split at hc
  · rcases List.mem_cons.1 hc with rfl | hdigit
    · decide
    · exact Text.isBlank_of_isDigit (Numeral.isDigit_of_mem_toDigits hdigit)
  · exact Text.isBlank_of_isDigit (Numeral.isDigit_of_mem_toDigits hc)

namespace Numeral

theorem dropPlus_toDigits (n : Nat) : dropPlus (Nat.toDigits 10 n) = Nat.toDigits 10 n :=
  dropPlus_of_head?_ne (head?_toDigits_ne rfl)

/-! ### Integers -/

theorem integer?_minus (cs : List Char) :
    integer? ('-' :: cs) = (Option.map (fun n : Nat => -(n : Int)) (natural? cs)).filter
      fun i => minInteger ≤ i && i ≤ maxInteger := by
  show Option.filter _ (Option.map (fun i : Int => -i)
    ((natural? cs).bind fun n => some (n : Int))) = _
  cases natural? cs <;> rfl

theorem integer?_of_head?_ne {cs : List Char} (h : cs.head? ≠ some '-') :
    integer? cs = (Option.map Int.ofNat (natural? (dropPlus cs))).filter
      fun i => minInteger ≤ i && i ≤ maxInteger := by
  unfold integer?
  split
  · exact absurd rfl h
  · rfl

/-- **The reader of integers gives an integer in its range back**, and refuses any other. -/
theorem integer?_integerText (i : Int) :
    integer? (integerText i).toList =
      if minInteger ≤ i ∧ i ≤ maxInteger then some i else none := by
  have hread : integer? (integerText i).toList =
      (some i).filter fun i => minInteger ≤ i && i ≤ maxInteger := by
    rw [toList_integerText]
    by_cases hneg : i < 0
    · have hvalue : -(i.natAbs : Int) = i := by omega
      rw [if_pos hneg, integer?_minus, natural?_toDigits, Option.map_some, hvalue]
    · have hvalue : Int.ofNat i.natAbs = i := Int.natAbs_of_nonneg (Int.not_lt.1 hneg)
      rw [if_neg hneg, integer?_of_head?_ne (head?_toDigits_ne rfl), dropPlus_toDigits,
        natural?_toDigits, Option.map_some, hvalue]
  rw [hread, Option.filter_some]
  simp only [Bool.and_eq_true, decide_eq_true_eq]

/-! ### Naturals as fractions -/

theorem fraction?_of_head?_ne {cs : List Char} (h : cs.head? ≠ some '-') :
    fraction? cs = (scientific? (dropPlus cs)).bind (Scientific.round? false) := by
  unfold fraction?
  split
  · exact absurd rfl h
  · rfl

theorem scientific?_toDigits (n : Nat) : scientific? (Nat.toDigits 10 n) = some ⟨n, 0⟩ := by
  have hall : ∀ c ∈ Nat.toDigits 10 n, c.isDigit = true := fun c => isDigit_of_mem_toDigits
  have hwhole : (Nat.toDigits 10 n).takeWhile Char.isDigit = Nat.toDigits 10 n :=
    List.takeWhile_eq_self_iff.2 hall
  have htail : (Nat.toDigits 10 n).dropWhile Char.isDigit = [] :=
    List.dropWhile_eq_nil_iff.2 hall
  simp [scientific?, hwhole, htail, exponent?]

/-- A natural of a document is far inside the range of doubles. -/
theorem round_mul_unit_lt_ceiling {n : Nat} (h : n ≤ Json.maxNatural) :
    Double.round (n * Double.unit) 1 < Double.ceiling := by
  have hround : Double.round n 1 < Nat.pow 2 65 := by
    have habove := Double.two_mul_round_le n
    have hgap := Double.gap_le h
    have hn : n ≤ 18446744073709551615 := h
    show Double.round n 1 < 36893488147419103232
    omega
  have hceiling : Nat.pow 2 65 * Double.unit ≤ Double.ceiling := by decide +kernel
  rw [Double.round_mul_unit]
  exact Nat.lt_of_lt_of_le (Nat.mul_lt_mul_of_pos_right hround (by decide +kernel)) hceiling

theorem ofInt_natCast (n : Nat) :
    Double.ofInt n = ⟨false, Double.round (n * Double.unit) 1⟩ := by
  have hsign : decide ((n : Int) < 0) = false := decide_eq_false (by omega)
  rw [Double.ofInt, hsign, Int.natAbs_natCast]

/-- A natural is rounded to the double next to it. -/
theorem round?_natural {n : Nat} (h : n ≤ Json.maxNatural) :
    Scientific.round? false ⟨n, 0⟩ = some (Double.ofInt n) := by
  rw [Scientific.round?, ofInt_natCast]
  by_cases hzero : n = 0
  · rw [if_pos hzero, hzero, Nat.zero_mul, Double.round_zero]
  · have hdigits : (Nat.toDigits 10 n).length ≤ 20 := by
      rw [Nat.length_toDigits_le_iff (by decide) (by decide)]
      exact Nat.lt_of_le_of_lt h (by decide)
    have hlow : ¬ (310 : Int) < (Nat.toDigits 10 n).length + 0 := by omega
    have hhigh : ¬ ((Nat.toDigits 10 n).length + 0 : Int) < -330 := by omega
    rw [if_neg hzero]
    simp only [hlow, hhigh, if_false]
    show Double.ofRatio? false (n * 1) 1 = _
    rw [Double.ofRatio?, Nat.mul_one]
    exact if_pos (round_mul_unit_lt_ceiling h)

/-- **The reader of fractions gives the double next to a natural.** -/
theorem fraction?_toDigits {n : Nat} (h : n ≤ Json.maxNatural) :
    fraction? (Nat.toDigits 10 n) = some (Double.ofInt n) := by
  rw [fraction?_of_head?_ne (head?_toDigits_ne rfl), dropPlus_toDigits, scientific?_toDigits]
  exact round?_natural h

end Numeral

/-! ### There and back -/

namespace BuiltIn

/-- **The text of an integer becomes a number again**: the same integer up to the greatest one that
the reader of integers knows, and the double next to it beyond. -/
theorem convert_toNumber_integerText {i : Int} (h : IsInteger i) :
    toNumber.convert (.string (integerText i)) =
      .ok (.number (if i ≤ Numeral.maxInteger then .int i else .float (.ofInt i))) := by
  have hnumeral : numeralOf? (integerText i).toList =
      some (if i ≤ Numeral.maxInteger then .int i else .float (.ofInt i)) := by
    rw [numeralOf?, Numeral.integer?_integerText]
    by_cases hle : i ≤ Numeral.maxInteger
    · rw [if_pos ⟨h.1, hle⟩, if_pos hle]
    · have hbeyond : (9223372036854775807 : Int) < i := Int.not_le.1 hle
      have hnatural : ((i.natAbs : Nat) : Int) = i := by omega
      have hword : i.natAbs ≤ maxNatural := by
        have hhigh := h.2
        omega
      have htext : (integerText i).toList = Nat.toDigits 10 i.natAbs := by
        rw [toList_integerText, if_neg (by omega)]
      rw [if_neg fun hboth => hle hboth.2, if_neg hle, htext]
      show (Numeral.fraction? (Nat.toDigits 10 i.natAbs)).map Number.float = _
      rw [Numeral.fraction?_toDigits hword, hnatural]
      rfl
  rw [convert, numberOf, trimList_integerText, hnumeral]

/-- **Integers survive as texts** as far as the reader of integers goes.  Every integer of a
document is converted to a text, and this text to a number; the number is the integer again exactly
if the integer has 64 bits with a sign, and beyond that it is the double next to it. -/
theorem toNumber_toText_integer (source other : Value) (options more : Options) {i : Int}
    (h : IsInteger i) :
    ∃ text back, toText.transform source (.number (.int i)) options = .ok (.string text) ∧
      toNumber.transform other (.string text) more = .ok (.number back) ∧
      (back = .int i ↔ i ≤ Numeral.maxInteger) ∧
      (Numeral.maxInteger < i → back = .float (.ofInt i)) := by
  refine ⟨integerText i, if i ≤ Numeral.maxInteger then .int i else .float (.ofInt i), rfl, ?_, ?_,
    fun hbeyond => if_neg (Int.not_le.2 hbeyond)⟩
  · rw [transform, convert_toNumber_integerText h]
  · constructor
    · intro hback
      refine Decidable.byContradiction fun hle => ?_
      rw [if_neg hle] at hback
      cases hback
    · exact fun hle => if_pos hle

/-- The greatest integer of 64 bits with a sign comes back. -/
theorem toNumber_toText_integer_greatest :
    IsInteger 9223372036854775807 ∧
      ∃ text, toText.transform .null (.int 9223372036854775807) .empty = .ok (.string text) ∧
        toNumber.transform .null (.string text) .empty = .ok (.int 9223372036854775807) := by
  have hinteger : IsInteger 9223372036854775807 := ⟨by decide, by decide⟩
  obtain ⟨text, back, htext, hback, hsame, -⟩ :=
    toNumber_toText_integer .null .null .empty .empty hinteger
  rw [hsame.2 (Int.le_refl _)] at hback
  exact ⟨hinteger, text, htext, hback⟩

/-- An integer beyond it has a text that becomes a double. -/
theorem toNumber_integer_beyond :
    IsInteger 9223372036854775809 ∧
      toText.transform .null (.int 9223372036854775809) .empty =
        .ok (.string "9223372036854775809") ∧
      toNumber.transform .null (.string "9223372036854775809") .empty =
        .ok (.number (.float (.ofInt 9223372036854775809))) ∧
      Number.float (.ofInt 9223372036854775809) ≠ .int 9223372036854775809 := by
  have hinteger : IsInteger 9223372036854775809 := ⟨by decide, by decide⟩
  have htext : integerText 9223372036854775809 = "9223372036854775809" := by decide +kernel
  refine ⟨hinteger, ?_, ?_, nofun⟩
  · rw [transform]
    show Except.ok (Value.string (integerText 9223372036854775809)) = _
    rw [htext]
  · rw [transform, ← htext, convert_toNumber_integerText hinteger]
    rfl

end BuiltIn

end Reshape
