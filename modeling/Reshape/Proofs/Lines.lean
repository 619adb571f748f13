import Mathlib.Data.List.Basic
import Reshape.Diff.Report

/-!
# Lines of texts and edits of lines

A full line has its line break at the end and nowhere else.  Full lines put together are split into
the same lines again, so what is shown line by line can be read line by line:

* **`FullLine`**, **`splitLines_flatten`** — full lines, and that splitting gives them back;
* **`Edit.item`**, **`Edit.mark`**, **`toList_markedLine`** — an edit as the line that shows it;
* **`LineDiffer`** — a way to find the changes from one list of lines to another;
* **`compareWith`** — the comparison of documents with any such way.

The main statements are **`LineDiffer.exists_change`**, a script between different lists changes
something, and **`LineDiffer.splitLines_output`**, the lines of an output are its heading and the
marked lines that the limit leaves.
-/

namespace Reshape

open Json

/-! ### Full lines -/

/-- A line with a line break at its end and nowhere else. -/
def FullLine (line : List Char) : Prop := ∃ body, '\n' ∉ body ∧ line = body ++ ['\n']

/-- The line up to the first line break is split off. -/
theorem splitLines_append_break {body : List Char} (h : '\n' ∉ body) (rest : List Char) :
    splitLines (body ++ '\n' :: rest) = (body ++ ['\n']) :: splitLines rest := by
  induction body with
  | nil => rw [List.nil_append, splitLines, if_pos rfl, List.nil_append]
  | cons c body ih =>
    have hc : c ≠ '\n' := fun heq => h (heq ▸ List.mem_cons_self)
    have hbody : '\n' ∉ body := fun hmem => h (List.mem_cons_of_mem c hmem)
    rw [List.cons_append, splitLines, if_neg hc, ih hbody]
    rfl

/-- **Full lines are split as they were put together.** -/
theorem splitLines_flatten {lines : List (List Char)} (h : ∀ line ∈ lines, FullLine line) :
    splitLines lines.flatten = lines := by
  induction lines with
  | nil => rfl
  | cons line rest ih =>
    obtain ⟨⟨body, hbody, rfl⟩, hrest⟩ := List.forall_mem_cons.1 h
    rw [List.flatten_cons, List.append_assoc, List.singleton_append,
      splitLines_append_break hbody, ih hrest]

/-- A line of a text is a full line, or it lacks the line break. -/
theorem fullLine_or_of_mem_splitLines {cs line : List Char} (h : line ∈ splitLines cs) :
    FullLine line ∨ '\n' ∉ line := by
  induction cs generalizing line with
  | nil => cases h
  | cons c cs ih =>
    by_cases hc : c = '\n'
    · rw [splitLines, if_pos hc, hc] at h
      rcases List.mem_cons.1 h with rfl | hmem
      · exact .inl ⟨[], List.not_mem_nil, rfl⟩
      · exact ih hmem
    · rw [splitLines, if_neg hc] at h
      cases hlines : splitLines cs with
      | nil =>
        rw [hlines] at h
        rw [List.mem_singleton.1 h]
        exact .inr fun hmem => hc (List.mem_singleton.1 hmem).symm
      | cons first rest =>
        rw [hlines] at h ih
        rcases List.mem_cons.1 h with rfl | hmem
        · -- The character goes in front of the first line and changes nothing at its end.
          have hfront : ∀ body : List Char, '\n' ∉ body → '\n' ∉ c :: body := fun body hbody hmem =>
            (List.mem_cons.1 hmem).elim (fun heq => hc heq.symm) hbody
          rcases ih List.mem_cons_self with ⟨body, hbody, rfl⟩ | hnone
          · exact .inl ⟨c :: body, hfront body hbody, rfl⟩
          · exact .inr (hfront first hnone)
        · exact ih (List.mem_cons_of_mem first hmem)

/-- **A line of a text becomes a full line** when the line break is added that it may lack. -/
theorem fullLine_withBreak {cs line : List Char} (h : line ∈ splitLines cs) :
    FullLine (withBreak line).toList := by
  rw [withBreak, String.toList_ofList]
  rcases fullLine_or_of_mem_splitLines h with ⟨body, hbody, rfl⟩ | hnone
  · rw [if_pos List.getLast?_concat]
    exact ⟨body, hbody, rfl⟩
  · rw [if_neg fun hlast => hnone (List.mem_of_getLast? hlast)]
    exact ⟨line, hnone, rfl⟩

/-! ### Edits -/

namespace Edit

variable {α : Type}

/-- The item that an edit is about. -/
def item : Edit α → α
  | keep a => a
  | remove a => a
  | add a => a

/-- Whether an edit changes nothing. -/
def isKeep : Edit α → Bool
  | keep _ => true
  | _ => false

/-- The sign in front of the line of an edit. -/
def mark : Edit α → Char
  | keep _ => ' '
  | remove _ => '-'
  | add _ => '+'

theorem isKeep_eq_false_iff {e : Edit α} :
    e.isKeep = false ↔ e.mark = '-' ∨ e.mark = '+' := by
  cases e <;> simp [isKeep, mark]

/-- What an edit is about is in the list before the changes or in the list after them. -/
theorem item_mem {script : List (Edit α)} {e : Edit α} (h : e ∈ script) :
    e.item ∈ script.filterMap before? ∨ e.item ∈ script.filterMap after? := by
  cases e with
  | keep a => exact .inl (List.mem_filterMap.2 ⟨_, h, rfl⟩)
  | remove a => exact .inl (List.mem_filterMap.2 ⟨_, h, rfl⟩)
  | add a => exact .inr (List.mem_filterMap.2 ⟨_, h, rfl⟩)

/-- A script without changes has the same items before and after. -/
theorem filterMap_eq_of_isKeep {script : List (Edit α)} (h : ∀ e ∈ script, e.isKeep = true) :
    script.filterMap before? = script.filterMap after? := by
  refine List.filterMap_congr fun e he => ?_
  have hkeep := h e he
  cases e with
  | keep a => rfl
  | remove a => cases hkeep
  | add a => cases hkeep

end Edit

/-- **The line of an edit** without colours: its sign, and the line with its line break. -/
theorem toList_markedLine (e : Edit (List Char)) :
    (markedLine false e).toList = e.mark :: (withBreak e.item).toList := by
  cases e <;> simp [markedLine, Edit.mark, Edit.item]

theorem fullLine_cons {c : Char} (hc : c ≠ '\n') {line : List Char} (h : FullLine line) :
    FullLine (c :: line) := by
  obtain ⟨body, hbody, rfl⟩ := h
  refine ⟨c :: body, fun hmem => ?_, rfl⟩
  exact (List.mem_cons.1 hmem).elim (fun heq => hc heq.symm) hbody

/-! ### Ways to find the changes -/

/-- A way to find the changes from one list of lines to another.  The edits of a script have the
lines of the first list before the changes, and those of the second one after them. -/
structure LineDiffer where
  /-- The script of the changes. -/
  script : List (List Char) → List (List Char) → List (Edit (List Char))
  before_script : ∀ xs ys, (script xs ys).filterMap Edit.before? = xs
  after_script : ∀ xs ys, (script xs ys).filterMap Edit.after? = ys

namespace LineDiffer

/-- The changes around a longest common subsequence. -/
def longest : LineDiffer where
  script := editScript
  before_script := before_editScript
  after_script := after_editScript

/-- **A script between different lists changes something.** -/
theorem exists_change (differ : LineDiffer) {xs ys : List (List Char)} (h : xs ≠ ys) :
    ∃ e ∈ differ.script xs ys, e.isKeep = false := by
  refine Classical.byContradiction fun hnone => h ?_
  have hkeep : ∀ e ∈ differ.script xs ys, e.isKeep = true := fun e he =>
    Bool.of_not_eq_false fun hchange => hnone ⟨e, he, hchange⟩
  calc xs = (differ.script xs ys).filterMap Edit.before? := (differ.before_script xs ys).symm
    _ = (differ.script xs ys).filterMap Edit.after? := Edit.filterMap_eq_of_isKeep hkeep
    _ = ys := differ.after_script xs ys

/-- **The line of an edit between two texts is a full line.** -/
theorem fullLine_markedLine (differ : LineDiffer) {cs ds : List Char} {e : Edit (List Char)}
    (h : e ∈ differ.script (splitLines cs) (splitLines ds)) :
    FullLine (markedLine false e).toList := by
  have hline : FullLine (withBreak e.item).toList := by
    have hmem := Edit.item_mem h
    rw [differ.before_script, differ.after_script] at hmem
    exact hmem.elim fullLine_withBreak fullLine_withBreak
  rw [toList_markedLine]
  refine fullLine_cons ?_ hline
  cases e <;> simp [Edit.mark]

end LineDiffer

/-! ### Outputs -/

namespace LineDiffer

/-- The changes of lines between the indented texts of two documents. -/
def edits (differ : LineDiffer) (expected actual : Value) : List (Edit (List Char)) :=
  differ.script (splitLines expected.pretty.toList) (splitLines actual.pretty.toList)

/-- What is shown of the differences of two documents. -/
def output (differ : LineDiffer) (options : DiffOptions) (ansi : Bool) (expected actual : Value) :
    String :=
  let shown := options.colored && ansi
  diffHeading shown ++
    String.join (truncated options.maxLines ((differ.edits expected actual).map (markedLine shown)))

end LineDiffer

/-- Compares a document with the expected one, with a way to find the changes of lines. -/
def compareWith (differ : LineDiffer) (options : DiffOptions) (ansi : Bool)
    (expected actual : Value) : Comparison :=
  if agree options.tolerance expected actual then ⟨true, [], ""⟩
  else ⟨false, disagreements options.tolerance [] expected actual,
    differ.output options ansi expected actual⟩

/-- Around a longest common subsequence, it is the comparison. -/
theorem compareWith_longest : compareWith .longest = compareValues := rfl

theorem compareWith_agrees (differ : LineDiffer) (options : DiffOptions) (ansi : Bool)
    (expected actual : Value) :
    (compareWith differ options ansi expected actual).agrees =
      agree options.tolerance expected actual := by
  unfold compareWith
  split <;> simp_all

theorem compareWith_of_disagree (differ : LineDiffer) {options : DiffOptions} {ansi : Bool}
    {expected actual : Value} (h : agree options.tolerance expected actual = false) :
    (compareWith differ options ansi expected actual).output =
      differ.output options ansi expected actual := by
  rw [compareWith, if_neg (Bool.eq_false_iff.1 h)]

theorem fullLine_diffHeading : FullLine (diffHeading false).toList :=
  ⟨"=== Diff Output ===".toList, by decide, rfl⟩

theorem fullLine_truncationLine : FullLine truncationLine.toList :=
  ⟨"... (diff truncated) ...".toList, by decide, rfl⟩

/-- Lines from which some are left out are full lines if all were. -/
theorem fullLine_of_mem_truncated {limit : Nat} {lines : List String}
    (h : ∀ line ∈ lines, FullLine line.toList) :
    ∀ line ∈ truncated limit lines, FullLine line.toList := by
  intro line hline
  rw [truncated] at hline
  split at hline
  · exact h line hline
  · rcases List.mem_append.1 hline with hmem | hmem
    · exact h line (List.mem_of_mem_take hmem)
    · rw [List.mem_singleton.1 hmem]
      exact fullLine_truncationLine

/-- **The lines of an output** without colours are the heading and the marked lines, as far as the
limit leaves them. -/
theorem LineDiffer.splitLines_output (differ : LineDiffer) {options : DiffOptions} {ansi : Bool}
    (hplain : (options.colored && ansi) = false) (expected actual : Value) :
    splitLines (differ.output options ansi expected actual).toList =
      (diffHeading false :: truncated options.maxLines
        ((differ.edits expected actual).map (markedLine false))).map String.toList := by
  have hfull : ∀ line ∈ truncated options.maxLines
      ((differ.edits expected actual).map (markedLine false)), FullLine line.toList := by
    refine fullLine_of_mem_truncated fun line hline => ?_
    obtain ⟨e, he, rfl⟩ := List.mem_map.1 hline
    exact differ.fullLine_markedLine he
  rw [output, hplain, String.toList_append, String.toList_join, List.flatMap_def,
    ← List.flatten_cons, List.map_cons]
  refine splitLines_flatten fun line hline => ?_
  rcases List.mem_cons.1 hline with rfl | hmem
  · exact fullLine_diffHeading
  · obtain ⟨shown, hshown, rfl⟩ := List.mem_map.1 hmem
    exact hfull shown hshown

end Reshape
