import Reshape.Error

/-!
# Mapping options

Extra values that are handed to every callback of a mapping.

* **`Options`** — the options, in the order of their names.
* **`Options.ofValue`** — options from a value: an object, or `null` for none.
-/

namespace Reshape

open Json

/-- The options of a mapping. -/
structure Options where
  /-- The options as fields. -/
  fields : Fields
deriving Repr

namespace Options

/-- No options. -/
def empty : Options := ⟨[]⟩

/-- The options with one more, in place of one of the same name. -/
def set (key : String) (value : Value) (o : Options) : Options := ⟨Keyed.set key value o.fields⟩

/-- The value of an option. -/
def get? (key : String) (o : Options) : Option Value := Keyed.get? key o.fields

/-- The value of an option that is a string. -/
def getString? (key : String) (o : Options) : Option String :=
  match o.get? key with
  | some (.string s) => some s
  | _ => none

/-- Whether there is an option of the name. -/
def has (key : String) (o : Options) : Bool := Keyed.has key o.fields

/-- The number of options. -/
def size (o : Options) : Nat := o.fields.length

/-- Equality of options, value by value. -/
def same (o p : Options) : Bool := sameFields o.fields p.fields

/-- Options given as a value. -/
def ofValue : Value → Except Error Options
  | .object fields => .ok ⟨fields⟩
  | .null => .ok empty
  | v => .error (.invalidOptions (.notObject v.kind))

@[simp] theorem get?_set_self (key : String) (value : Value) (o : Options) :
    (o.set key value).get? key = some value := by simp [get?, set]

theorem get?_set_of_ne {key other : String} (h : other ≠ key) (value : Value) (o : Options) :
    (o.set key value).get? other = o.get? other := by
  simp [get?, set, Keyed.get?_set_of_ne h]

@[simp] theorem get?_empty (key : String) : empty.get? key = none := rfl

end Options

end Reshape
