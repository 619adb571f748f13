import Reshape.Json.Fault

/-!
# Scanning a text

A text is scanned from left to right by a `Cursor`, which holds the characters still to come and
counts the bytes already taken, so that a flaw can be placed.

* **`Json.Cursor`** — what is left of a text, and how far the scan has come.
* **`Json.Scan`** — a step of a scan: a result and a new cursor, or a flaw with its offset.
* **`Json.Scan.atCursor`**, **`Json.Scan.behindNext`** — the two ways a flaw is placed: where the
  scan stands, or behind the byte that comes next.
-/

namespace Reshape

namespace Json

/-- The number of bytes of a list of characters. -/
def byteCount : List Char → Nat
  | [] => 0
  | c :: cs => c.utf8Size + byteCount cs

/-- What is left of a text, and the number of bytes before it. -/
structure Cursor where
  /-- The characters still to come. -/
  rest : List Char
  /-- The bytes already taken. -/
  offset : Nat
deriving DecidableEq, Repr

/-- The cursor before a text. -/
def Cursor.start (text : List Char) : Cursor := ⟨text, 0⟩

/-- The cursor behind the next `n` characters. -/
def Cursor.drop (n : Nat) (c : Cursor) : Cursor :=
  ⟨c.rest.drop n, c.offset + byteCount (c.rest.take n)⟩

/-- A flaw and the offset, in bytes, at which it is reported. -/
structure Slip where
  /-- What is wrong. -/
  flaw : Flaw
  /-- The bytes before the place of the report. -/
  offset : Nat
deriving DecidableEq, Repr

/-- A step of a scan. -/
abbrev Scan (α : Type) := StateT Cursor (Except Slip) α

namespace Scan

/-- Reports a flaw where the scan stands. -/
def atCursor {α : Type} (flaw : Flaw) : Scan α := fun c => .error ⟨flaw, c.offset⟩

/-- Reports a flaw behind the next byte, or at the end of the text when there is none. -/
def behindNext {α : Type} (flaw : Flaw) : Scan α := fun c =>
  .error ⟨flaw, if c.rest.isEmpty then c.offset else c.offset + 1⟩

/-- The next character, left where it is. -/
def peek : Scan (Option Char) := fun c => .ok (c.rest.head?, c)

/-- Passes over the next `n` characters. -/
def skip (n : Nat) : Scan Unit := fun c => .ok ((), c.drop n)

/-- Takes the characters as long as they have a property. -/
def takeWhile (p : Char → Bool) : Scan (List Char) := fun c =>
  let taken := c.rest.takeWhile p
  .ok (taken, c.drop taken.length)

/-- The blanks between the parts of a document. -/
def isGap (c : Char) : Bool := c = ' ' || c = '\t' || c = '\n' || c = '\r'

/-- Passes over blanks and gives the character behind them, left where it is. -/
def token : Scan (Option Char) := do
  let _ ← takeWhile isGap
  peek

/-- Passes over the characters of a word, reporting the first one that differs. -/
def word : List Char → Scan Unit
  | [] => pure ()
  | w :: ws => do
    match ← peek with
    | none => atCursor .unfinishedValue
    | some c => if c = w then do skip 1; word ws else behindNext .expectedWord

end Scan

end Json

end Reshape
