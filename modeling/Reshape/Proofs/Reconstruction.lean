import Reshape.Proofs.Lines
import Reshape.Proofs.PrintedText

/-!
# Documents in their line differences

An output without a limit shows the lines of both documents, so either document can be read off it:

* **`DiffOptions.unlimited`** — options with which all lines are shown;
* **`Comparison.bodyLines`** — the lines of an output behind its heading;
* **`unmarked`** — the lines without a certain mark, put together without their marks;
* **`Comparison.ShowsBoth`** — an output from which both documents can be read;
* **`Comparison.IsBeginningOf`** — an output that is another one up to a limit.

The main statement is **`compareWith_reconstructs`**: a comparison of documents that do not agree
shows both of them if the lines are not limited, and the beginning of this if they are.
-/

namespace Reshape

open Json

/-! ### Lines with their breaks -/

theorem ne_nil_of_mem_splitLines {cs line : List Char} (h : line ∈ splitLines cs) : line ≠ [] := by
  induction cs generalizing line with
  | nil => cases h
  | cons c cs ih =>
    by_cases hc : c = '\n'
    · rw [splitLines, if_pos hc] at h
      rcases List.mem_cons.1 h with rfl | hmem
      · exact List.cons_ne_nil c []
      · exact ih hmem
    · rw [splitLines, if_neg hc] at h
      cases hlines : splitLines cs with
      | nil =>
        rw [hlines] at h
        exact List.mem_singleton.1 h ▸ List.cons_ne_nil c []
      | cons first rest =>
        rw [hlines] at h ih
        rcases List.mem_cons.1 h with rfl | hmem
        · exact List.cons_ne_nil c first
        · exact ih (List.mem_cons_of_mem first hmem)

theorem toList_withBreak_cons {c : Char} {line : List Char} (h : line ≠ []) :
    (withBreak (c :: line)).toList = c :: (withBreak line).toList := by
  have hlast : (c :: line).getLast? = line.getLast? := by
    rw [List.getLast?_cons, List.getLast?_eq_some_getLast h, Option.getD_some]
  rw [withBreak, withBreak, String.toList_ofList, String.toList_ofList, hlast]
  split <;> rfl

/-- **The break that a text lacks.**  The lines of a text that does not end in a line break, printed
with a break each, are the text and one break. -/
theorem flatMap_withBreak_splitLines (body : List Char) {c : Char} (hc : c ≠ '\n') :
    (splitLines (body ++ [c])).flatMap (fun line => (withBreak line).toList) =
      body ++ [c] ++ ['\n'] := by
  induction body with
  | nil => simp [splitLines, hc, withBreak]
  | cons d body ih =>
    by_cases hd : d = '\n'
    · have hbreak : (withBreak [d]).toList = [d] := by simp [withBreak, hd]
      rw [List.cons_append, splitLines, if_pos hd, List.flatMap_cons, ih, hbreak]
      rfl
    · rw [List.cons_append, splitLines, if_neg hd]
      cases hlines : splitLines (body ++ [c]) with
      | nil =>
        have hflatten := flatten_splitLines (body ++ [c])
        rw [hlines] at hflatten
        exact absurd hflatten.symm (List.append_ne_nil_of_right_ne_nil body (List.cons_ne_nil c []))
      | cons first rest =>
        have hfirst : first ≠ [] := ne_nil_of_mem_splitLines (hlines ▸ List.mem_cons_self)
        rw [hlines, List.flatMap_cons] at ih
        rw [List.flatMap_cons, toList_withBreak_cons hfirst, List.cons_append, ih]
        rfl

/-- The lines of a printed document, with a break each, are the document and one break. -/
theorem flatMap_withBreak_pretty (v : Value) :
    (splitLines v.pretty.toList).flatMap (fun line => (withBreak line).toList) =
      v.pretty.toList ++ ['\n'] := by
  obtain ⟨body, c, htext, hc⟩ := (breaksInside_pretty v).last
  rw [htext]
  refine flatMap_withBreak_splitLines body fun hbreak => ?_
  exact absurd (hbreak ▸ hc) (by decide)

/-! ### Lines without their marks -/

/-- The lines that do not have a certain mark in front, put together without their marks. -/
def unmarked (mark : Char) (lines : List (List Char)) : List Char :=
  (lines.filter fun line => line.head? != some mark).flatMap List.tail

/-- **Reading one side of a script.**  Let a mark be that of the edits which have nothing on a side.
The lines without this mark are those of the side. -/
theorem unmarked_markedLine {side : Edit (List Char) → Option (List Char)} {mark : Char}
    (hside : ∀ e, side e = if e.mark = mark then none else some e.item)
    (script : List (Edit (List Char))) :
    unmarked mark (script.map fun e => (markedLine false e).toList) =
      (script.filterMap side).flatMap fun line => (withBreak line).toList := by
  induction script with
  | nil => rfl
  | cons e script ih =>
    unfold unmarked at ih ⊢
    rw [List.map_cons, List.filter_cons, List.filterMap_cons, hside, toList_markedLine,
      List.head?_cons]
    by_cases hmark : e.mark = mark
    · simp [hmark, ih]
    · simp [hmark, ih]

theorem Edit.before?_eq (e : Edit (List Char)) :
    e.before? = if e.mark = '+' then none else some e.item := by
  cases e <;> rfl

theorem Edit.after?_eq (e : Edit (List Char)) :
    e.after? = if e.mark = '-' then none else some e.item := by
  cases e <;> rfl

/-! ### Outputs -/

/-- The options without a limit on the number of lines. -/
def DiffOptions.unlimited (options : DiffOptions) : DiffOptions := { options with maxLines := 0 }

/-- The lines of an output behind its heading. -/
def Comparison.bodyLines (c : Comparison) : List (List Char) := (splitLines c.output.toList).tail

/-- The output has a heading, and behind it the lines of both documents: the expected one is what
the lines without a plus make up, and the actual one is what those without a minus do.  A line break
is the only control character, so every line is one line however a reader takes other controls. -/
structure Comparison.ShowsBoth (expected actual : Value) (c : Comparison) : Prop where
  heading : (splitLines c.output.toList).head? = some "=== Diff Output ===\n".toList
  expected : unmarked '+' c.bodyLines = expected.pretty.toList ++ ['\n']
  actual : unmarked '-' c.bodyLines = actual.pretty.toList ++ ['\n']
  breakable : Breakable c.output.toList

/-- The output is a whole one up to a limit: all of it if it has no more lines than that behind its
heading, else its beginning with a line that stands for the others. -/
structure Comparison.IsBeginningOf (c : Comparison) (limit : Nat) (whole : Comparison) : Prop where
  all : whole.bodyLines.length ≤ limit → c.output = whole.output
  cut : limit < whole.bodyLines.length → c.output.toList =
    "=== Diff Output ===\n".toList ++ (whole.bodyLines.take limit).flatten ++
      "... (diff truncated) ...\n".toList

section

variable {options : DiffOptions} {ansi : Bool} {expected actual : Value}

/-- The line of an edit between two printed documents has no control characters in it. -/
theorem LineDiffer.breakable_markedLine (differ : LineDiffer) {e : Edit (List Char)}
    (h : e ∈ differ.edits expected actual) : Breakable (markedLine false e).toList := by
  have hlines : ∀ v : Value, ∀ line ∈ splitLines v.pretty.toList, Breakable line := by
    intro v line hline c hc
    refine (breaksInside_pretty v).breakable c ?_
    rw [← flatten_splitLines v.pretty.toList]
    exact List.mem_flatten_of_mem hline hc
  have hitem : Breakable e.item := by
    have hmem := Edit.item_mem h
    rw [edits, differ.before_script, differ.after_script] at hmem
    exact hmem.elim (hlines expected e.item) (hlines actual e.item)
  have hmark : Breakable [e.mark] := by
    cases e
    all_goals
      rw [Edit.mark]
      decide
  have hline : Breakable (withBreak e.item).toList := by
    rw [withBreak, String.toList_ofList]
    split
    · exact hitem
    · exact hitem.append (by decide)
  rw [toList_markedLine]
  exact hmark.append hline

/-- Without a limit, the lines of an output are the heading and the lines of the edits. -/
theorem splitLines_output_unlimited (differ : LineDiffer)
    (hplain : (options.colored && ansi) = false)
    (hmismatch : agree options.tolerance expected actual = false) :
    splitLines (compareWith differ options.unlimited ansi expected actual).output.toList =
      (diffHeading false).toList ::
        (differ.edits expected actual).map fun e => (markedLine false e).toList := by
  have hunlimited : agree options.unlimited.tolerance expected actual = false := hmismatch
  have hplain' : (options.unlimited.colored && ansi) = false := hplain
  have hlimit : options.unlimited.maxLines = 0 := rfl
  rw [compareWith_of_disagree differ hunlimited, differ.splitLines_output hplain', hlimit,
    truncated_zero, List.map_cons, List.map_map]
  rfl

theorem bodyLines_unlimited (differ : LineDiffer) (hplain : (options.colored && ansi) = false)
    (hmismatch : agree options.tolerance expected actual = false) :
    (compareWith differ options.unlimited ansi expected actual).bodyLines =
      (differ.edits expected actual).map fun e => (markedLine false e).toList := by
  rw [Comparison.bodyLines, splitLines_output_unlimited differ hplain hmismatch, List.tail_cons]

/-- **Without a limit, both documents are shown.** -/
theorem showsBoth_unlimited (differ : LineDiffer) (hplain : (options.colored && ansi) = false)
    (hmismatch : agree options.tolerance expected actual = false) :
    (compareWith differ options.unlimited ansi expected actual).ShowsBoth expected actual := by
  have hlines := splitLines_output_unlimited differ hplain hmismatch
  have hbody := bodyLines_unlimited differ hplain hmismatch
  refine ⟨?_, ?_, ?_, ?_⟩
  · rw [hlines, List.head?_cons]
    rfl
  · rw [hbody, unmarked_markedLine Edit.before?_eq, LineDiffer.edits, differ.before_script,
      flatMap_withBreak_pretty]
  · rw [hbody, unmarked_markedLine Edit.after?_eq, LineDiffer.edits, differ.after_script,
      flatMap_withBreak_pretty]
  · have hheading : Breakable (diffHeading false).toList := by decide
    rw [← flatten_splitLines (compareWith _ _ _ _ _).output.toList, hlines, List.flatten_cons]
    refine hheading.append fun c hc => ?_
    obtain ⟨line, hline, hc⟩ := List.mem_flatten.1 hc
    obtain ⟨e, he, rfl⟩ := List.mem_map.1 hline
    exact differ.breakable_markedLine he c hc

/-- **With a limit, the beginning is shown.** -/
theorem isBeginningOf_unlimited (differ : LineDiffer) (hplain : (options.colored && ansi) = false)
    (hmismatch : agree options.tolerance expected actual = false) (hlimit : 0 < options.maxLines) :
    (compareWith differ options ansi expected actual).IsBeginningOf options.maxLines
      (compareWith differ options.unlimited ansi expected actual) := by
  have hunlimited : agree options.unlimited.tolerance expected actual = false := hmismatch
  have hbody := bodyLines_unlimited differ hplain hmismatch
  constructor
  · intro hle
    rw [hbody, List.length_map] at hle
    rw [compareWith_of_disagree differ hmismatch, compareWith_of_disagree differ hunlimited,
      LineDiffer.output, LineDiffer.output, truncated_of_le (by rwa [List.length_map])]
    rfl
  · intro hlt
    rw [hbody, List.length_map] at hlt
    have hcut : truncated options.maxLines ((differ.edits expected actual).map (markedLine false)) =
        ((differ.edits expected actual).map (markedLine false)).take options.maxLines ++
          [truncationLine] := by
      rw [truncated, if_neg]
      rw [List.length_map]
      omega
    rw [compareWith_of_disagree differ hmismatch, hbody, LineDiffer.output, hplain, hcut,
      String.toList_append, String.toList_join, List.flatMap_append, List.flatMap_singleton,
      List.flatMap_def, List.map_take, List.map_map, List.append_assoc]
    rfl

end

/-- **A line difference holds both documents.**  Let two documents not agree, and let no colours be
shown.  Without a limit, dropping the heading and the lines with a plus from the output leaves the
expected document and a line break, once the marks are taken off, and dropping those with a minus
leaves the actual one.  With a limit, the output is the same if it has no more lines than that
behind its heading; else it is the heading, as many lines as the limit says, and a last line for the
others. -/
theorem compareWith_reconstructs (differ : LineDiffer) (options : DiffOptions) (ansi : Bool)
    {expected actual : Value} (hplain : (options.colored && ansi) = false)
    (hmismatch : (compareWith differ options ansi expected actual).agrees = false) :
    (compareWith differ options.unlimited ansi expected actual).ShowsBoth expected actual ∧
      (0 < options.maxLines →
        (compareWith differ options ansi expected actual).IsBeginningOf options.maxLines
          (compareWith differ options.unlimited ansi expected actual)) := by
  rw [compareWith_agrees] at hmismatch
  refine ⟨showsBoth_unlimited differ hplain hmismatch, fun hlimit => ?_⟩
  exact isBeginningOf_unlimited differ hplain hmismatch hlimit

/-- A document with a note of several lines, all of which are printed in one. -/
def noted (text : String) : Value := .object [("note", .string text)]

/-- Two notes that begin with marks themselves, and a limit of two lines. -/
theorem compareWith_reconstructs_noted :
    let whole :=
      compareWith .longest ⟨true, .zero, 0⟩ false (noted "+ one\n- two") (noted "- three")
    let limited :=
      compareWith .longest ⟨true, .zero, 2⟩ false (noted "+ one\n- two") (noted "- three")
    limited.agrees = false ∧ whole.ShowsBoth (noted "+ one\n- two") (noted "- three") ∧
      limited.IsBeginningOf 2 whole ∧
      limited.output =
      "=== Diff Output ===\n \x7b\n-  \"note\": \"+ one\\n- two\"\n... (diff truncated) ...\n" := by
  have hmismatch : (compareWith .longest ⟨true, .zero, 2⟩ false (noted "+ one\n- two")
      (noted "- three")).agrees = false := by decide +kernel
  obtain ⟨hboth, hbeginning⟩ :=
    compareWith_reconstructs .longest ⟨true, .zero, 2⟩ false rfl hmismatch
  exact ⟨hmismatch, hboth, hbeginning (by decide), by decide +kernel⟩

end Reshape
