import Reshape.Json.Shape
import Reshape.Mapping

/-!
# Typed mappings

A mapping between data of the caller: the source is written as a document first, and the outcome of
the mapping has to have the shape of the data that the caller wants.

* **`Json.tableOfPairs`** — a table with scalar keys as an object.
* **`Mapper.runAs`** — a mapping whose outcome has a shape.
-/

namespace Reshape

namespace Json

/-- The key of an object that a scalar stands for: a string, or the text of an integer or a
boolean. -/
def keyText? : Value → Option String
  | .string s => some s
  | .number (.int i) => some (integerText i)
  | .bool b => some (boolText b)
  | _ => none

/-- A key and a value as a field. -/
def fieldOfPair (pair : Value × Value) : Except Fault (String × Value) :=
  match keyText? pair.1 with
  | some key => .ok (key, pair.2)
  | none => .error ⟨.keyNotString, none⟩

/-- The object of a table given as keys and values; a later key replaces an equal earlier one. -/
def tableOfPairs (pairs : List (Value × Value)) : Except Fault Value :=
  (pairs.mapM fieldOfPair).map fun fields => .object (Keyed.ofList fields)

end Json

open Json

/-- The outcome of a mapping as a value of a shape, with its defaults filled in. -/
def Mapper.runAs (m : Mapper) (shape : Shape) (input : Value) (options : Options) : Traced Value :=
  (m.run input options).andThen fun v =>
    match shape.fit v with
    | .ok w => .ok w
    | .error mismatch => .fail (.json mismatch.fault)

/-- Any shape leaves the outcome of a mapping as it is. -/
theorem runAs_any (m : Mapper) (input : Value) (options : Options) :
    m.runAs .any input options = m.run input options := by
  simp only [Mapper.runAs, Shape.fit_any]
  exact Traced.andThen_ok _

end Reshape
