import Reshape.Numeral
import Mathlib.Data.List.Induction

/-!
# Spellings of naturals

The numeral of a natural is the list of its digits.  A text of digits is a numeral with zeros in
front of it, and a reader may let a plus stand before these:

* **`Numeral.Spells`** — the texts that stand for a natural;
* **`Numeral.Plain`** — a text with neither a plus nor a needless zero in front.

The main statements are **`natural?_eq_some_iff`** and **`position?_eq_some_iff`**, which say what
the readers accept, and **`spells_and_plain_iff`**: the numeral is the one spelling that is plain.
-/

namespace Reshape

namespace Numeral

/-- A text that stands for a natural: its digits, with zeros in front of them, and with a plus in
front of these or without. -/
inductive Spells (n : Nat) : List Char → Prop
  | bare (zeros : Nat) : Spells n (List.replicate zeros '0' ++ Nat.toDigits 10 n)
  | plus (zeros : Nat) : Spells n ('+' :: (List.replicate zeros '0' ++ Nat.toDigits 10 n))

/-- A text that begins neither with a plus nor with a zero that could be left out. -/
def Plain (cs : List Char) : Prop :=
  cs.head? ≠ some '+' ∧ (cs.head? = some '0' → cs = ['0'])

/-! ### Digits -/

theorem toNat_of_isDigit {c : Char} (h : c.isDigit = true) : 48 ≤ c.toNat ∧ c.toNat ≤ 57 := by
  simpa [Char.isDigit, UInt32.le_iff_toNat_le] using h

theorem value_of_isDigit {c : Char} (h : c.isDigit = true) :
    c.toNat - 48 < 10 ∧ Nat.digitChar (c.toNat - 48) = c := by
  have hbounds := toNat_of_isDigit h
  have hlt : c.toNat - 48 < 10 := by omega
  refine ⟨hlt, Char.toNat_inj.1 ?_⟩
  rw [Nat.toNat_digitChar_of_lt_ten hlt]
  omega

/-- **A text of digits is a numeral with zeros in front of it.** -/
theorem exists_zeros_append_toDigits {cs : List Char} (hne : cs ≠ [])
    (h : ∀ c ∈ cs, c.isDigit = true) :
    ∃ zeros, cs = List.replicate zeros '0' ++ Nat.toDigits 10 (Nat.ofDigitChars 10 cs 0) := by
  induction cs using List.reverseRecOn with
  | nil => exact absurd rfl hne
  | append_singleton cs c ih =>
    obtain ⟨hlt, hchar⟩ := value_of_isDigit (h c (by simp))
    have hlast : Nat.toDigits 10 (c.toNat - 48) = [c] := by
      rw [Nat.toDigits_of_lt_base hlt, hchar]
    have hvalue : Nat.ofDigitChars 10 (cs ++ [c]) 0 =
        10 * Nat.ofDigitChars 10 cs 0 + (c.toNat - 48) := by
      rw [Nat.ofDigitChars_append, Nat.ofDigitChars_cons, Nat.ofDigitChars_nil]
      rfl
    rw [hvalue]
    by_cases hcs : cs = []
    · subst hcs
      exact ⟨0, by simp [hlast]⟩
    · obtain ⟨zeros, hzeros⟩ := ih hcs fun d hd => h d (List.mem_append_left [c] hd)
      rcases Nat.eq_zero_or_pos (Nat.ofDigitChars 10 cs 0) with hzero | hpos
      · -- All digits before the last one are zeros.
        refine ⟨zeros + 1, ?_⟩
        rw [hzero, Nat.toDigits_zero] at hzeros
        rw [hzero, Nat.mul_zero, Nat.zero_add, hlast, List.replicate_succ']
        exact congrArg (· ++ [c]) hzeros
      · refine ⟨zeros, ?_⟩
        calc cs ++ [c]
            = List.replicate zeros '0' ++
                (Nat.toDigits 10 (Nat.ofDigitChars 10 cs 0) ++ Nat.toDigits 10 (c.toNat - 48)) := by
              rw [hlast, ← List.append_assoc, ← hzeros]
          _ = _ := by rw [Nat.toDigits_append_toDigits (by decide) hpos hlt]

theorem isDigit_of_mem_toDigits {n : Nat} {c : Char} (h : c ∈ Nat.toDigits 10 n) :
    c.isDigit = true := Nat.isDigit_of_mem_toDigits (by decide) (by decide) h

theorem isDigit_of_mem_spelling {n zeros : Nat} {c : Char}
    (h : c ∈ List.replicate zeros '0' ++ Nat.toDigits 10 n) : c.isDigit = true := by
  rcases List.mem_append.1 h with hzero | hdigit
  · rw [List.eq_of_mem_replicate hzero]
    rfl
  · exact isDigit_of_mem_toDigits hdigit

theorem spelling_ne_nil (n zeros : Nat) : List.replicate zeros '0' ++ Nat.toDigits 10 n ≠ [] :=
  List.append_ne_nil_of_right_ne_nil _ Nat.toDigits_ne_nil

/-- No spelling by digits alone begins with a sign. -/
theorem head?_spelling_ne {n : Nat} (zeros : Nat) {sign : Char} (h : sign.isDigit = false) :
    (List.replicate zeros '0' ++ Nat.toDigits 10 n).head? ≠ some sign := by
  intro hhead
  have hdigit := isDigit_of_mem_spelling (List.mem_of_mem_head? hhead)
  rw [h] at hdigit
  cases hdigit

theorem head?_toDigits_ne {n : Nat} {sign : Char} (h : sign.isDigit = false) :
    (Nat.toDigits 10 n).head? ≠ some sign := head?_spelling_ne 0 h

theorem ofDigitChars_spelling (n zeros : Nat) :
    Nat.ofDigitChars 10 (List.replicate zeros '0' ++ Nat.toDigits 10 n) 0 = n := by
  rw [Nat.ofDigitChars_append, Nat.ofDigitChars_replicate_zero, Nat.mul_zero,
    Nat.ofDigitChars_ten_toDigits]

/-! ### What the readers accept -/

/-- **Naturals are read from digits**, of which the first ones may be zeros. -/
theorem natural?_eq_some_iff {cs : List Char} {n : Nat} :
    natural? cs = some n ↔ ∃ zeros, cs = List.replicate zeros '0' ++ Nat.toDigits 10 n := by
  have hcondition : (!cs.isEmpty && cs.all Char.isDigit) = true ↔
      cs ≠ [] ∧ ∀ c ∈ cs, c.isDigit = true := by simp
  constructor
  · intro h
    unfold natural? at h
    split at h
    next hdigits =>
      obtain ⟨hne, hall⟩ := hcondition.1 hdigits
      cases h
      exact exists_zeros_append_toDigits hne hall
    next => cases h
  · rintro ⟨zeros, rfl⟩
    have hdigits := hcondition.2
      ⟨spelling_ne_nil n zeros, fun c hc => isDigit_of_mem_spelling (n := n) hc⟩
    rw [natural?, if_pos hdigits, ofDigitChars_spelling]

theorem dropPlus_of_head?_ne {cs : List Char} (h : cs.head? ≠ some '+') : dropPlus cs = cs := by
  unfold dropPlus
  split
  · exact absurd rfl h
  · rfl

/-- A natural is read behind an optional plus exactly from its spellings. -/
theorem natural?_dropPlus_eq_some_iff {cs : List Char} {n : Nat} :
    natural? (dropPlus cs) = some n ↔ Spells n cs := by
  constructor
  · intro h
    by_cases hplus : cs.head? = some '+'
    · obtain ⟨rest, rfl⟩ := List.head?_eq_some_iff.1 hplus
      obtain ⟨zeros, hrest⟩ := natural?_eq_some_iff.1 h
      have hshape : rest = List.replicate zeros '0' ++ Nat.toDigits 10 n := hrest
      rw [hshape]
      exact .plus zeros
    · rw [dropPlus_of_head?_ne hplus] at h
      obtain ⟨zeros, rfl⟩ := natural?_eq_some_iff.1 h
      exact .bare zeros
  · intro h
    cases h with
    | bare zeros =>
      rw [dropPlus_of_head?_ne (head?_spelling_ne _ rfl)]
      exact natural?_eq_some_iff.2 ⟨zeros, rfl⟩
    | plus zeros => exact natural?_eq_some_iff.2 ⟨zeros, rfl⟩

/-- **Positions are read from the spellings of naturals that fit in a word.** -/
theorem position?_eq_some_iff {cs : List Char} {i : Nat} :
    position? cs = some i ↔ Spells i cs ∧ i ≤ maxPosition := by
  rw [position?, Option.filter_eq_some_iff, natural?_dropPlus_eq_some_iff, decide_eq_true_eq]

/-- A text stands for one natural at most. -/
theorem Spells.unique {cs : List Char} {m n : Nat} (hm : Spells m cs) (hn : Spells n cs) :
    m = n := by
  rw [← natural?_dropPlus_eq_some_iff] at hm hn
  exact Option.some.inj (hm.symm.trans hn)

/-! ### The plain spelling -/

/-- The digits of a natural begin with zero only when there is no other digit. -/
theorem plain_toDigits (n : Nat) : Plain (Nat.toDigits 10 n) := by
  refine ⟨head?_toDigits_ne rfl, fun hhead => ?_⟩
  obtain ⟨rest, hrest⟩ := List.head?_eq_some_iff.1 hhead
  by_cases hempty : rest = []
  · rw [hrest, hempty]
  · -- Without the zero in front the digits would be a shorter spelling, and none is shorter.
    have hdigits : ∀ c ∈ rest, c.isDigit = true := fun c hc =>
      isDigit_of_mem_toDigits (n := n) (hrest ▸ List.mem_cons_of_mem '0' hc)
    have hvalue : Nat.ofDigitChars 10 rest 0 = n := by
      have hwhole := ofDigitChars_spelling n 0
      rw [List.replicate_zero, List.nil_append, hrest, Nat.ofDigitChars_cons] at hwhole
      exact hwhole
    obtain ⟨zeros, hzeros⟩ := exists_zeros_append_toDigits hempty hdigits
    rw [hvalue, hrest] at hzeros
    have hlength := congrArg List.length hzeros
    simp only [List.length_append, List.length_replicate, List.length_cons] at hlength
    omega

/-- **The numeral of a natural is its one spelling that is plain.** -/
theorem spells_and_plain_iff {cs : List Char} {n : Nat} :
    Spells n cs ∧ Plain cs ↔ cs = Nat.toDigits 10 n := by
  constructor
  · rintro ⟨h, hplain⟩
    cases h with
    | bare zeros =>
      cases zeros with
      | zero => rfl
      | succ zeros =>
        have hsingle := hplain.2 rfl
        exact absurd (List.cons.inj hsingle).2 (spelling_ne_nil n zeros)
    | plus zeros => exact absurd rfl hplain.1
  · rintro rfl
    exact ⟨.bare 0, plain_toDigits n⟩

end Numeral

end Reshape
