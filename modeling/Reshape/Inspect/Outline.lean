/-!
# Outlines

A listing of structured data for a reader, either on one line or with one part to a line.

* **`Outline`** — leaves, records with named parts, tuples, sequences and tables.
* **`Outline.inline`** — the listing on one line.
* **`Outline.expanded`** — the listing with one part to a line, indented by four blanks.
-/

namespace Reshape

/-- Structured data for a listing. -/
inductive Outline where
  /-- A text that is listed as it is. -/
  | leaf (text : String)
  /-- A name with named parts. -/
  | record (name : String) (parts : List (String × Outline))
  /-- A name with parts in a fixed order. -/
  | tuple (name : String) (parts : List Outline)
  /-- Parts between brackets, behind a text. -/
  | sequence (lead : String) (parts : List Outline)
  /-- Keys, as they are listed, with their parts between braces, behind a text. -/
  | table (lead : String) (parts : List (String × Outline))
deriving Repr, Inhabited

namespace Outline

/-! ### One line -/

mutual

/-- The listing on one line. -/
def inline (o : Outline) : String :=
  match o with
  | leaf text => text
  | record name parts => name ++ " \x7b " ++ ", ".intercalate (inlineNamed parts) ++ " \x7d"
  | tuple name parts => name ++ "(" ++ ", ".intercalate (inlineParts parts) ++ ")"
  | sequence lead parts => lead ++ "[" ++ ", ".intercalate (inlineParts parts) ++ "]"
  | table lead parts => lead ++ "\x7b" ++ ", ".intercalate (inlineNamed parts) ++ "\x7d"
termination_by structural o

/-- The listings of parts. -/
def inlineParts (parts : List Outline) : List String :=
  match parts with
  | [] => []
  | part :: rest => part.inline :: inlineParts rest
termination_by structural parts

/-- The listings of parts with their names. -/
def inlineNamed (parts : List (String × Outline)) : List String :=
  match parts with
  | [] => []
  | (name, part) :: rest => (name ++ ": " ++ part.inline) :: inlineNamed rest
termination_by structural parts

end

/-! ### One part to a line -/

/-- The blanks before a line at some depth. -/
def margin (depth : Nat) : String := String.ofList (List.replicate (4 * depth) ' ')

/-- Parts between two texts, each on a line of its own with a comma behind it. -/
def enclose (opening closing : String) (depth : Nat) (lines : List String) : String :=
  if lines.isEmpty then opening ++ closing
  else
    opening ++ "\n" ++
      String.join (lines.map fun line => margin (depth + 1) ++ line ++ ",\n") ++
      margin depth ++ closing

mutual

/-- The listing with one part to a line, at some depth. -/
def expandedAt (o : Outline) (depth : Nat) : String :=
  match o with
  | leaf text => text
  | record name parts => enclose (name ++ " \x7b") "\x7d" depth (expandedNamed parts (depth + 1))
  | tuple name parts => enclose (name ++ "(") ")" depth (expandedParts parts (depth + 1))
  | sequence lead parts => enclose (lead ++ "[") "]" depth (expandedParts parts (depth + 1))
  | table lead parts => enclose (lead ++ "\x7b") "\x7d" depth (expandedNamed parts (depth + 1))
termination_by structural o

/-- The listings of parts at some depth. -/
def expandedParts (parts : List Outline) (depth : Nat) : List String :=
  match parts with
  | [] => []
  | part :: rest => part.expandedAt depth :: expandedParts rest depth
termination_by structural parts

/-- The listings of parts with their names, at some depth. -/
def expandedNamed (parts : List (String × Outline)) (depth : Nat) : List String :=
  match parts with
  | [] => []
  | (name, part) :: rest => (name ++ ": " ++ part.expandedAt depth) :: expandedNamed rest depth
termination_by structural parts

end

/-- The listing with one part to a line. -/
def expanded (o : Outline) : String := o.expandedAt 0

end Outline

end Reshape
