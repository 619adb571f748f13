import Reshape.Diff.Agreement
import Reshape.Diff.Lines
import Reshape.Json.Printer

/-!
# Reports of differences

What is shown of two documents that do not agree: the places at which they differ, and the lines of
their indented texts with the changes marked.

* **`DiffOptions`** — the tolerance, the greatest number of lines, and whether colours are wanted.
* **`painted`** — a text in a colour of a terminal.
* **`diffLines`**, **`diffOutput`** — the marked lines, all of them and as far as they are shown.
* **`Comparison`**, **`compareValues`** — the outcome of a comparison.
-/

namespace Reshape

open Json

/-- How documents are compared and how their differences are shown. -/
structure DiffOptions where
  /-- Whether colours are wanted.  They are shown on a terminal only. -/
  colored : Bool
  /-- The greatest distance of numbers that agree.  One that admits nothing is negative, and an
  unlimited one has more steps than any distance. -/
  tolerance : Double
  /-- The greatest number of lines that are shown; zero sets no limit. -/
  maxLines : Nat
deriving Repr

/-- Colours, a tolerance of `10 ^ (-9)`, and at most one hundred lines. -/
def DiffOptions.standard : DiffOptions where
  colored := true
  tolerance := ⟨false, Double.round Double.unit 1000000000⟩
  maxLines := 100

/-! ### Colours -/

/-- The ways in which a terminal can show a text. -/
inductive Paint where
  | bold
  | red
  | green
  | boldRed
  | boldGreen
deriving DecidableEq, Repr

/-- The number by which a terminal knows a paint. -/
def Paint.code : Paint → String
  | .bold => "1"
  | .red => "31"
  | .green => "32"
  | .boldRed => "1;31"
  | .boldGreen => "1;32"

/-- A text in a paint, if paints are shown. -/
def painted (shown : Bool) (paint : Paint) (text : String) : String :=
  if shown then "\x1b[" ++ paint.code ++ "m" ++ text ++ "\x1b[0m" else text

@[simp] theorem painted_false (paint : Paint) (text : String) : painted false paint text = text :=
  rfl

/-! ### Marked lines -/

/-- A line with a line break at its end, added if there is none. -/
def withBreak (line : List Char) : String :=
  String.ofList (if line.getLast? = some '\n' then line else line ++ ['\n'])

/-- A line with its mark: a blank, a minus or a plus. -/
def markedLine (shown : Bool) : Edit (List Char) → String
  | .keep line => " " ++ withBreak line
  | .remove line => painted shown .red "-" ++ painted shown .red (withBreak line)
  | .add line => painted shown .green "+" ++ painted shown .green (withBreak line)

/-- The changes of lines between the indented texts of two documents. -/
def lineEdits (expected actual : Value) : List (Edit (List Char)) :=
  editScript (splitLines expected.pretty.toList) (splitLines actual.pretty.toList)

/-- All marked lines. -/
def diffLines (shown : Bool) (expected actual : Value) : List String :=
  (lineEdits expected actual).map (markedLine shown)

/-- The heading above the marked lines. -/
def diffHeading (shown : Bool) : String := painted shown .bold "=== Diff Output ===\n"

/-- The line that stands for those that are not shown. -/
def truncationLine : String := "... (diff truncated) ...\n"

/-- The first lines up to a limit, and the line that stands for the others; zero is no limit. -/
def truncated (limit : Nat) (lines : List String) : List String :=
  if limit = 0 ∨ lines.length ≤ limit then lines else lines.take limit ++ [truncationLine]

/-- What is shown of the differences of two documents; `ansi` says whether the output goes to a
terminal. -/
def diffOutput (options : DiffOptions) (ansi : Bool) (expected actual : Value) : String :=
  let shown := options.colored && ansi
  diffHeading shown ++ String.join (truncated options.maxLines (diffLines shown expected actual))

theorem truncated_zero (lines : List String) : truncated 0 lines = lines := by simp [truncated]

theorem truncated_of_le {limit : Nat} {lines : List String} (h : lines.length ≤ limit) :
    truncated limit lines = lines := by simp [truncated, h]

/-! ### Comparisons -/

/-- The outcome of a comparison. -/
structure Comparison where
  /-- Whether the documents agree. -/
  agrees : Bool
  /-- The places at which they differ. -/
  differences : List Disagreement
  /-- What is shown of their differences. -/
  output : String
deriving Repr

/-- Compares a document with the expected one. -/
def compareValues (options : DiffOptions) (ansi : Bool) (expected actual : Value) : Comparison :=
  if agree options.tolerance expected actual then ⟨true, [], ""⟩
  else ⟨false, disagreements options.tolerance [] expected actual,
    diffOutput options ansi expected actual⟩

theorem compareValues_agrees (options : DiffOptions) (ansi : Bool) (expected actual : Value) :
    (compareValues options ansi expected actual).agrees =
      agree options.tolerance expected actual := by
  unfold compareValues
  split <;> simp_all

end Reshape
