/-!
# Differences of lines

A text is compared with another one line by line.  The script of the changes keeps a longest common
subsequence of lines; between two lines that are kept, lines are removed before others are added.

* **`splitLines`** — the lines of a text, each with its line break.
* **`Edit`**, **`editScript`** — the changes from one list to another.
* **`Edit.before?`**, **`Edit.after?`** — what an edit has on either side.

The main statements are **`flatten_splitLines`** and **`before_editScript`**,
**`after_editScript`**: a script holds both lists in full.
-/

namespace Reshape

/-- The lines of a text.  A line ends with its line break, which the last one may lack. -/
def splitLines : List Char → List (List Char)
  | [] => []
  | c :: cs =>
    if c = '\n' then [c] :: splitLines cs
    else match splitLines cs with
      | [] => [[c]]
      | line :: lines => (c :: line) :: lines

/-- **Nothing is lost in splitting.**  The lines of a text make up the text. -/
theorem flatten_splitLines (cs : List Char) : (splitLines cs).flatten = cs := by
  induction cs with
  | nil => rfl
  | cons c cs ih =>
    by_cases h : c = '\n'
    · simp [splitLines, h, ih]
    · simp only [splitLines, h, if_false]
      split
      · rename_i hs
        rw [hs] at ih
        simp_all
      · rename_i line lines hs
        rw [hs] at ih
        simpa using ih

/-! ### Edits -/

/-- A change of a list at one item. -/
inductive Edit (α : Type) where
  | keep (a : α)
  | remove (a : α)
  | add (a : α)
deriving DecidableEq, Repr

namespace Edit

variable {α : Type}

/-- The item that an edit has in the list before the changes. -/
def before? : Edit α → Option α
  | keep a => some a
  | remove a => some a
  | add _ => none

/-- The item that an edit has in the list after the changes. -/
def after? : Edit α → Option α
  | keep a => some a
  | remove _ => none
  | add a => some a

end Edit

section Script

variable {α : Type} [DecidableEq α]

/-- The lengths of longest common subsequences of `x` with what follows it and each end of a list,
given those of what follows `x`. -/
def lengthsRow (x : α) : List α → List Nat → List Nat
  | y :: ys, under :: rest =>
    let row := lengthsRow x ys rest
    (if x = y then rest.headD 0 + 1 else max under (row.headD 0)) :: row
  | _, _ => [0]

/-- The lengths of longest common subsequences of each end of a list and each end of another. -/
def lengthsTable : List α → List α → List (List Nat)
  | [], ys => [List.replicate (ys.length + 1) 0]
  | x :: xs, ys =>
    let table := lengthsTable xs ys
    lengthsRow x ys (table.headD []) :: table

/-- The lengths at a row of a table and the row below it. -/
def lengthAt (table : List (List Nat)) (row column : Nat) : Nat := (table.getD row []).getD column 0

/-- The script of the changes from `xs` to `ys`, of which the first `column` items are done; `table`
holds the lengths for `xs`.  Of two ways that keep the same number of items, the one that removes
first is taken. -/
def scriptFrom (table : List (List Nat)) (column : Nat) : List α → List α → List (Edit α)
  | [], ys => ys.map .add
  | xs, [] => xs.map .remove
  | x :: xs, y :: ys =>
    if x = y then .keep x :: scriptFrom table.tail (column + 1) xs ys
    else if lengthAt table 0 (column + 1) ≤ lengthAt table 1 column then
      .remove x :: scriptFrom table.tail column xs (y :: ys)
    else .add y :: scriptFrom table (column + 1) (x :: xs) ys
termination_by xs ys => xs.length + ys.length

/-- The script of the changes from one list to another. -/
def editScript (xs ys : List α) : List (Edit α) := scriptFrom (lengthsTable xs ys) 0 xs ys

theorem before_scriptFrom (table : List (List Nat)) (column : Nat) (xs ys : List α) :
    (scriptFrom table column xs ys).filterMap Edit.before? = xs := by
  fun_induction scriptFrom table column xs ys with
  | case1 table column ys => simp [Edit.before?, Function.comp_def]
  | case2 table column xs => simp [Edit.before?, Function.comp_def]
  | case3 table column xs x ys ih => simp [Edit.before?, ih]
  | case4 table column x xs y ys hne hle ih => simp [Edit.before?, ih]
  | case5 table column x xs y ys hne hle ih =>
    simpa [List.filterMap_cons, Edit.before?] using ih

theorem after_scriptFrom (table : List (List Nat)) (column : Nat) (xs ys : List α) :
    (scriptFrom table column xs ys).filterMap Edit.after? = ys := by
  fun_induction scriptFrom table column xs ys with
  | case1 table column ys => simp [Edit.after?, Function.comp_def]
  | case2 table column xs => simp [Edit.after?, Function.comp_def]
  | case3 table column xs x ys ih => simp [Edit.after?, ih]
  | case4 table column x xs y ys hne hle ih =>
    simpa [List.filterMap_cons, Edit.after?] using ih
  | case5 table column x xs y ys hne hle ih => simp [Edit.after?, ih]

/-- **A script holds the first list.** -/
theorem before_editScript (xs ys : List α) : (editScript xs ys).filterMap Edit.before? = xs :=
  before_scriptFrom _ _ xs ys

/-- **A script holds the second list.** -/
theorem after_editScript (xs ys : List α) : (editScript xs ys).filterMap Edit.after? = ys :=
  after_scriptFrom _ _ xs ys

end Script

end Reshape
