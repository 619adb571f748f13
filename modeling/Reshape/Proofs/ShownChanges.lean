import Reshape.Proofs.Context
import Reshape.Proofs.Lines

/-!
# Changes that are shown

An output shows as many marked lines as its limit leaves, and lines that are kept count like the
others.  Whether a change is among them depends on where the first one stands:

* **`Comparison.ShowsChange`** — some line behind the heading has a minus or a plus in front;
* **`leadingKept`** — how many items a script keeps before its first change;
* **`sharedLength`** — how many items two lists have in common before the first difference.

The main statements are **`compareWith_shows_change_iff`**, a comparison of documents that do not
agree shows a change exactly if there is no limit, or if the limit is greater than the number of
lines that are kept before the first change, and **`compareValues_shows_change_iff`**: these are the
lines that the two texts have in common at the beginning.
-/

namespace Reshape

open Json

/-! ### Before the first change -/

section

variable {α : Type}

/-- How many items a script keeps before its first change. -/
def leadingKept (script : List (Edit α)) : Nat := (script.takeWhile Edit.isKeep).length

/-- How many items two lists have in common before the first difference. -/
def sharedLength [DecidableEq α] : List α → List α → Nat
  | x :: xs, y :: ys => if x = y then sharedLength xs ys + 1 else 0
  | _, _ => 0

theorem leadingKept_scriptFrom [DecidableEq α] (table : List (List Nat)) (column : Nat)
    (xs ys : List α) : leadingKept (scriptFrom table column xs ys) = sharedLength xs ys := by
  fun_induction scriptFrom table column xs ys with
  | case1 table column ys => cases ys <;> simp [leadingKept, sharedLength, Edit.isKeep]
  | case2 table column xs => cases xs <;> simp [leadingKept, sharedLength, Edit.isKeep]
  | case3 table column xs x ys ih =>
    rw [sharedLength, if_pos rfl, ← ih]
    rfl
  | case4 table column x xs y ys hne hle ih =>
    rw [sharedLength, if_neg hne]
    rfl
  | case5 table column x xs y ys hne hle ih =>
    rw [sharedLength, if_neg hne]
    rfl

/-- **The script around a longest common subsequence** keeps what the two lists begin with. -/
theorem leadingKept_editScript [DecidableEq α] (xs ys : List α) :
    leadingKept (editScript xs ys) = sharedLength xs ys :=
  leadingKept_scriptFrom _ _ xs ys

/-- Something among the first items lacks a property exactly if fewer items have it before. -/
theorem exists_mem_take_iff {p : α → Bool} {items : List α} {n : Nat}
    (h : ∃ a ∈ items, p a = false) :
    (∃ a ∈ items.take n, p a = false) ↔ (items.takeWhile p).length < n := by
  induction items generalizing n with
  | nil => simp at h
  | cons a items ih =>
    cases n with
    | zero => simp
    | succ n =>
      cases ha : p a with
      | false => simp [ha]
      | true =>
        have hrest : ∃ a ∈ items, p a = false := by simpa [ha] using h
        simpa [ha] using ih hrest

/-- Less than all of a script comes before its first change. -/
theorem leadingKept_lt_length {script : List (Edit α)} (h : ∃ e ∈ script, e.isKeep = false) :
    leadingKept script < script.length :=
  (exists_mem_take_iff h).1 (by rwa [List.take_length])

end

/-! ### Lines that show a change -/

/-- A line that shows a change: a minus or a plus stands in front. -/
def ChangeLine (line : List Char) : Prop := line.head? = some '-' ∨ line.head? = some '+'

/-- The line of an edit shows a change exactly if the edit is one. -/
theorem changeLine_markedLine_iff {e : Edit (List Char)} :
    ChangeLine (markedLine false e).toList ↔ e.isKeep = false := by
  rw [toList_markedLine, Edit.isKeep_eq_false_iff, ChangeLine, List.head?_cons, Option.some_inj,
    Option.some_inj]

theorem not_changeLine_truncationLine : ¬ ChangeLine truncationLine.toList := by
  unfold ChangeLine
  decide

/-- **What the limit leaves of a script.**  A change is among it exactly if there is no limit, or if
fewer edits than the limit come before the first change. -/
theorem exists_changeLine_truncated_iff {script : List (Edit (List Char))} {limit : Nat}
    (h : ∃ e ∈ script, e.isKeep = false) :
    (∃ line ∈ truncated limit (script.map (markedLine false)), ChangeLine line.toList) ↔
      limit = 0 ∨ leadingKept script < limit := by
  have hmarked : ∀ edits : List (Edit (List Char)),
      (∃ line ∈ edits.map (markedLine false), ChangeLine line.toList) ↔
        ∃ e ∈ edits, e.isKeep = false := fun edits => by
    simp only [List.mem_map, exists_exists_and_eq_and, changeLine_markedLine_iff]
  rw [truncated, List.length_map]
  by_cases hall : limit = 0 ∨ script.length ≤ limit
  · rw [if_pos hall, hmarked]
    have hkept := leadingKept_lt_length h
    exact iff_of_true h (hall.imp_right fun hle => by omega)
  · obtain ⟨hlimit, -⟩ := not_or.1 hall
    rw [if_neg hall, ← List.map_take, or_iff_right hlimit, leadingKept, ← exists_mem_take_iff h,
      ← hmarked]
    constructor
    · rintro ⟨line, hline, hchange⟩
      rcases List.mem_append.1 hline with hmem | hmem
      · exact ⟨line, hmem, hchange⟩
      · rw [List.mem_singleton.1 hmem] at hchange
        exact absurd hchange not_changeLine_truncationLine
    · rintro ⟨line, hline, hchange⟩
      exact ⟨line, List.mem_append_left _ hline, hchange⟩

/-! ### Comparisons -/

/-- Some line behind the heading shows a change. -/
def Comparison.ShowsChange (c : Comparison) : Prop :=
  ∃ line ∈ (splitLines c.output.toList).tail, ChangeLine line

/-- Documents with different texts have different lines. -/
theorem LineDiffer.exists_change_edits (differ : LineDiffer) {expected actual : Value}
    (h : expected.pretty ≠ actual.pretty) :
    ∃ e ∈ differ.edits expected actual, e.isKeep = false := by
  refine differ.exists_change fun hlines => h (String.toList_inj.1 ?_)
  rw [← flatten_splitLines expected.pretty.toList, hlines, flatten_splitLines]

theorem shows_change_iff_of_pretty_ne (differ : LineDiffer) (options : DiffOptions) (ansi : Bool)
    {expected actual : Value} (hplain : (options.colored && ansi) = false)
    (hpretty : expected.pretty ≠ actual.pretty)
    (hmismatch : agree options.tolerance expected actual = false) :
    (compareWith differ options ansi expected actual).ShowsChange ↔
      options.maxLines = 0 ∨ leadingKept (differ.edits expected actual) < options.maxLines := by
  rw [Comparison.ShowsChange, compareWith_of_disagree differ hmismatch,
    differ.splitLines_output hplain, List.map_cons, List.tail_cons,
    ← exists_changeLine_truncated_iff (differ.exists_change_edits hpretty)]
  simp only [List.mem_map, exists_exists_and_eq_and]

theorem leadingKept_edits_longest (expected actual : Value) :
    leadingKept (LineDiffer.longest.edits expected actual) =
      sharedLength (splitLines expected.pretty.toList) (splitLines actual.pretty.toList) :=
  leadingKept_editScript _ _

/-- Around a longest common subsequence, the lines before the first change are those that the two
texts have in common at the beginning. -/
theorem compareValues_shows_change_iff (options : DiffOptions) (ansi : Bool)
    {expected actual : Value} (hplain : (options.colored && ansi) = false)
    (hpretty : expected.pretty ≠ actual.pretty)
    (hmismatch : agree options.tolerance expected actual = false) :
    (compareValues options ansi expected actual).ShowsChange ↔
      options.maxLines = 0 ∨
        sharedLength (splitLines expected.pretty.toList) (splitLines actual.pretty.toList) <
          options.maxLines := by
  rw [← compareWith_longest, shows_change_iff_of_pretty_ne .longest options ansi hplain hpretty
    hmismatch, leadingKept_edits_longest]

/-- **Which failing comparisons show a change.**  Let two documents not agree, and let different
documents have different texts.  The output without colours has a line with a minus or a plus behind
its heading exactly if the number of lines is not limited, or if fewer lines than the limit are kept
before the first change. -/
theorem compareWith_shows_change_iff (differ : LineDiffer) (options : DiffOptions) (ansi : Bool)
    {expected actual : Value} (hplain : (options.colored && ansi) = false)
    (htolerance : 0 ≤ options.tolerance.value) (hordered : expected.Ordered)
    (hpretty : expected ≠ actual → expected.pretty ≠ actual.pretty)
    (hmismatch : (compareWith differ options ansi expected actual).agrees = false) :
    (compareWith differ options ansi expected actual).ShowsChange ↔
      options.maxLines = 0 ∨ leadingKept (differ.edits expected actual) < options.maxLines := by
  rw [compareWith_agrees] at hmismatch
  have hne : expected ≠ actual := by
    rintro rfl
    rw [agree_self htolerance hordered] at hmismatch
    cases hmismatch
  exact shows_change_iff_of_pretty_ne differ options ansi hplain (hpretty hne) hmismatch

/-- Documents with one field, whose texts begin with the same line. -/
def oneField (i : Int) : Value := .object [("a", .int i)]

theorem sharedLength_oneField :
    sharedLength (splitLines (oneField 1).pretty.toList) (splitLines (oneField 2).pretty.toList) =
      1 := by decide +kernel

/-- A limit of two lines leaves the first change of the two documents. -/
theorem compareWith_shows_change_one_field :
    (compareWith .longest ⟨false, .zero, 2⟩ false (oneField 1) (oneField 2)).agrees = false ∧
      (compareWith .longest ⟨false, .zero, 2⟩ false (oneField 1) (oneField 2)).ShowsChange := by
  have hmismatch :
      (compareWith .longest ⟨false, .zero, 2⟩ false (oneField 1) (oneField 2)).agrees = false := by
    rw [compareWith_agrees]
    decide +kernel
  have hshown := compareWith_shows_change_iff .longest ⟨false, .zero, 2⟩ false rfl
    (by decide +kernel) (Value.ordered_of_isOrdered (oneField 1) (by decide))
    (fun _ => by decide +kernel) hmismatch
  rw [leadingKept_edits_longest, sharedLength_oneField] at hshown
  exact ⟨hmismatch, hshown.2 (.inr (by decide))⟩

/-- A limit of one line leaves just the line that is kept before it, although the documents do not
agree. -/
theorem change_not_shown_one_line :
    0 ≤ Double.zero.value ∧ (oneField 1).pretty ≠ (oneField 2).pretty ∧
      (compareValues ⟨false, .zero, 1⟩ false (oneField 1) (oneField 2)).agrees = false ∧
      ¬ (compareValues ⟨false, .zero, 1⟩ false (oneField 1) (oneField 2)).ShowsChange := by
  have hpretty : (oneField 1).pretty ≠ (oneField 2).pretty := by decide +kernel
  have hmismatch : agree .zero (oneField 1) (oneField 2) = false := by decide +kernel
  refine ⟨by decide +kernel, hpretty, ?_, fun hshown => ?_⟩
  · rw [compareValues_agrees]
    exact hmismatch
  · have hlimit :=
      (compareValues_shows_change_iff ⟨false, .zero, 1⟩ false rfl hpretty hmismatch).1 hshown
    rw [sharedLength_oneField] at hlimit
    exact absurd hlimit (by decide)

end Reshape
