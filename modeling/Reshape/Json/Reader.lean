import Reshape.Json.Literal

/-!
# Reading JSON

A document is one value with blanks around it.  Containers nest to a limited depth.  Of two fields
with one key the later one counts.

* **`Json.value`** — reads a value; `Json.passValue` passes over one without looking at the size of
  its numbers, the pairing of its surrogates or its depth.
* **`Json.whole`** — runs a scan over a whole text and places its flaw.
* **`Json.read`** — the value of a document.
-/

namespace Reshape

namespace Json

open Scan

/-- How many containers may be open at one place of a document. -/
def depthLimit : Nat := 127

/-- A bound for the rounds of a recursive scan: between two rounds that open a value at least one
character is taken, and every value takes two rounds. -/
def roundLimit : Scan Nat := do pure (2 * (← get).rest.length + 4)

/-- Moves on to the next item of a list; gives whether there is one, and takes the closing bracket
if there is none. -/
def nextItem (first : Bool) : Scan Bool := do
  match ← token with
  | none => atCursor .unfinishedList
  | some ']' => do skip 1; pure false
  | some c =>
    if first then pure true
    else if c = ',' then do
      skip 1
      match ← token with
      | none => atCursor .unfinishedValue
      | some ']' => behindNext .trailingComma
      | some _ => pure true
    else behindNext .expectedListEnd

/-- Moves on to the next key of an object and takes its opening quote; gives whether there is a
key, and takes the closing brace if there is none. -/
def nextKey (first : Bool) : Scan Bool := do
  match ← token with
  | none => atCursor .unfinishedObject
  | some '}' => do skip 1; pure false
  | some c =>
    if first then
      if c = '"' then do skip 1; pure true else behindNext .keyNotString
    else if c = ',' then do
      skip 1
      match ← token with
      | none => atCursor .unfinishedValue
      | some '"' => do skip 1; pure true
      | some '}' => behindNext .trailingComma
      | some _ => behindNext .keyNotString
    else behindNext .expectedObjectEnd

/-- Takes the colon behind a key. -/
def colon : Scan Unit := do
  match ← token with
  | none => atCursor .unfinishedObject
  | some ':' => skip 1
  | some _ => behindNext .expectedColon

/-- A value that is not a container and begins with the character given. -/
def scalar (c : Char) : Scan Value := do
  match c with
  | 'n' => do skip 1; word ['u', 'l', 'l']; pure .null
  | 't' => do skip 1; word ['r', 'u', 'e']; pure (.bool true)
  | 'f' => do skip 1; word ['a', 'l', 's', 'e']; pure (.bool false)
  | '"' => do skip 1; pure (.string (← string))
  | c =>
    if c = '-' || c.isDigit then do pure (.number (← number)) else behindNext .expectedValue

mutual

/-- Reads a value inside of which `depth` more containers may be open. -/
def valueRounds (fuel : Nat) (depth : Nat) : Scan Value := do
  match fuel with
  | 0 => atCursor .expectedValue
  | fuel + 1 =>
    match ← token with
    | none => atCursor .unfinishedValue
    | some '[' =>
      match depth with
      | 0 => behindNext .tooDeep
      | depth + 1 => do skip 1; pure (.array (← itemRounds fuel depth true))
    | some '{' =>
      match depth with
      | 0 => behindNext .tooDeep
      | depth + 1 => do skip 1; pure (.object (Keyed.ofList (← fieldRounds fuel depth true)))
    | some c => scalar c
termination_by structural fuel

/-- Reads the items of a list. -/
def itemRounds (fuel : Nat) (depth : Nat) (first : Bool) : Scan (List Value) := do
  match fuel with
  | 0 => atCursor .expectedValue
  | fuel + 1 =>
    if ← nextItem first then
      let v ← valueRounds fuel depth
      let more ← itemRounds fuel depth false
      pure (v :: more)
    else pure []
termination_by structural fuel

/-- Reads the fields of an object, in the order of the text. -/
def fieldRounds (fuel : Nat) (depth : Nat) (first : Bool) : Scan (List (String × Value)) := do
  match fuel with
  | 0 => atCursor .expectedValue
  | fuel + 1 =>
    if ← nextKey first then
      let key ← string
      colon
      let v ← valueRounds fuel depth
      let more ← fieldRounds fuel depth false
      pure ((key, v) :: more)
    else pure []
termination_by structural fuel

end

/-- Reads a value inside of which `depth` more containers may be open. -/
def value (depth : Nat) : Scan Value := do valueRounds (← roundLimit) depth

/-! ### Passing over values -/

/-- Moves on to the next item of a list that is passed over. -/
def passNextItem (first : Bool) : Scan Bool := do
  match ← token with
  | none => atCursor .unfinishedList
  | some ']' => do skip 1; pure false
  | some c =>
    if first then pure true
    else if c = ',' then do skip 1; pure true
    else behindNext .expectedListEnd

/-- Moves on to the next key of an object that is passed over, and takes its opening quote. -/
def passNextKey (first : Bool) : Scan Bool := do
  match ← token with
  | none => atCursor .unfinishedObject
  | some '}' => do skip 1; pure false
  | some c =>
    if first then opening
    else if c = ',' then do skip 1; opening
    else behindNext .expectedObjectEnd
where
  /-- Takes the quote that has to come next. -/
  opening : Scan Bool := do
    match ← token with
    | none => atCursor .unfinishedObject
    | some '"' => do skip 1; pure true
    | some _ => behindNext .keyNotString

/-- Passes over a value that is not a container and begins with the character given. -/
def passScalar (c : Char) : Scan Unit := do
  match c with
  | 'n' => do skip 1; word ['u', 'l', 'l']
  | 't' => do skip 1; word ['r', 'u', 'e']
  | 'f' => do skip 1; word ['a', 'l', 's', 'e']
  | '"' => do skip 1; passString
  | c => if c = '-' || c.isDigit then passNumber else behindNext .expectedValue

mutual

/-- Passes over a value. -/
def passValueRounds (fuel : Nat) : Scan Unit := do
  match fuel with
  | 0 => atCursor .expectedValue
  | fuel + 1 =>
    match ← token with
    | none => atCursor .unfinishedValue
    | some '[' => do skip 1; passItemRounds fuel true
    | some '{' => do skip 1; passFieldRounds fuel true
    | some c => passScalar c
termination_by structural fuel

/-- Passes over the items of a list. -/
def passItemRounds (fuel : Nat) (first : Bool) : Scan Unit := do
  match fuel with
  | 0 => atCursor .expectedValue
  | fuel + 1 =>
    if ← passNextItem first then
      passValueRounds fuel
      passItemRounds fuel false
    else pure ()
termination_by structural fuel

/-- Passes over the fields of an object. -/
def passFieldRounds (fuel : Nat) (first : Bool) : Scan Unit := do
  match fuel with
  | 0 => atCursor .expectedValue
  | fuel + 1 =>
    if ← passNextKey first then
      passString
      colon
      passValueRounds fuel
      passFieldRounds fuel false
    else pure ()
termination_by structural fuel

end

/-- Passes over a value. -/
def passValue : Scan Unit := do passValueRounds (← roundLimit)

/-! ### Documents -/

/-- Runs a scan over a whole text: nothing but blanks may be left. -/
def whole {α : Type} (scan : Scan α) (text : String) : Except Fault α :=
  let cs := text.toList
  let complete : Scan α := do
    let a ← scan
    match ← token with
    | none => pure a
    | some _ => behindNext .trailingText
  match complete (Cursor.start cs) with
  | .ok (a, _) => .ok a
  | .error slip => .error ⟨slip.flaw, some (Place.ofOffset slip.offset cs)⟩

/-- The value of a document. -/
def read (text : String) : Except Fault Value := whole (value depthLimit) text

end Json

end Reshape
