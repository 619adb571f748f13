import Reshape.Options

/-!
# Rules and mappers

A mapper is a list of rules.  Field rules each write one field of the destination from one place of
the source; hooks finish the destination.

* **`Transform`**, **`Hook`** — the callbacks of rules.
* **`Rule`** — a copy, a copy under another name, a call of a transform, a nested mapper, or a hook.
* **`Mapper`** — compiled rules in the order of the specification.
-/

namespace Reshape

open Json

/-- A transform: the whole source, the value at the path of the rule, and the options of the
mapping give the value to write. -/
abbrev Transform := Value → Value → Options → Except Error Value

/-- A hook: the whole source, the destination so far, and the options of the mapping give the new
destination. -/
abbrev Hook := Value → Fields → Options → Except Error Fields

/-- A compiled rule. -/
inductive Rule where
  /-- Copies the value at a path to the field named after the last segment. -/
  | copy (source : SourcePath)
  /-- Copies the value at a path to a field. -/
  | relabel (source : SourcePath) (dest : String)
  /-- Writes what a transform makes of the value at a path.  A transform that was looked up has a
  name. -/
  | call (source : SourcePath) (dest : String) (name : Option String) (transform : Transform)
  /-- Writes what nested rules make of the value at a path. -/
  | nest (source : SourcePath) (dest : String) (rules : List Rule)
  /-- Works on the destination when all fields are written. -/
  | hook (run : Hook)

/-- The kinds of rules. -/
inductive RuleKind where
  | copy
  | relabel
  | transform
  | postProcess
deriving DecidableEq, Repr

namespace RuleKind

/-- The name of a kind of rules. -/
def name : RuleKind → String
  | copy => "copy"
  | relabel => "alias"
  | transform => "transform"
  | postProcess => "postProcess"

/-- The kinds in their order. -/
def all : List RuleKind := [copy, relabel, transform, postProcess]

/-- The kind of a name. -/
def ofName? (s : String) : Option RuleKind := all.find? (·.name == s)

theorem ofName?_name (k : RuleKind) : ofName? k.name = some k := by
  cases k <;> decide

/-- A kind given as a value: its name, or an object whose only key is the name, with `null`. -/
def ofValue : Value → Except Mismatch RuleKind
  | .string s => named s
  | .object [(s, v)] => do
    let k ← named s
    match v with
    | .null => .ok k
    | v => .error (.kind v.found "unit")
  | .object _ => .error (.range .map "map with a single key")
  | v => .error (.kind v.found "string or map")
where
  /-- The kind of a name, or the mismatch. -/
  named (s : String) : Except Mismatch RuleKind :=
    match ofName? s with
    | some k => .ok k
    | none => .error (.unknown s (all.map name))

end RuleKind

namespace Rule

/-- The kind of a rule; calls and nested rules are both transforms. -/
def kind : Rule → RuleKind
  | copy _ => .copy
  | relabel _ _ => .relabel
  | call _ _ _ _ => .transform
  | nest _ _ _ => .transform
  | hook _ => .postProcess

/-- The path that a field rule reads. -/
def source? : Rule → Option SourcePath
  | copy p => some p
  | relabel p _ => some p
  | call p _ _ _ => some p
  | nest p _ _ => some p
  | hook _ => none

/-- The field that a field rule writes. -/
def dest? : Rule → Option String
  | copy p => some p.terminal
  | relabel _ d => some d
  | call _ d _ _ => some d
  | nest _ d _ => some d
  | hook _ => none

end Rule

/-- A compiled specification. -/
structure Mapper where
  /-- The rules, in the order of the specification. -/
  rules : List Rule

namespace Mapper

/-- The mapper without rules. -/
def empty : Mapper := ⟨[]⟩

/-- The number of rules. -/
def size (m : Mapper) : Nat := m.rules.length

end Mapper

end Reshape
