import Reshape.BuiltIn

/-!
# Registries

The names that a specification can use: those of transforms and those of mappers.  Both are bound
separately, and a later binding of a name replaces an earlier one.

* **`Registry`** — the transforms and the mappers that have names.
* **`Registry.builtIns`** — the registry of the built-in transforms.
-/

namespace Reshape

/-- The transforms and the mappers that a specification can name. -/
structure Registry where
  /-- The named transforms. -/
  transforms : Keyed Transform
  /-- The named mappers. -/
  mappers : Keyed Mapper

namespace Registry

/-- The registry without any name. -/
def empty : Registry := ⟨[], []⟩

/-- The registry with a transform bound to a name. -/
def bindTransform (r : Registry) (name : String) (f : Transform) : Registry :=
  { r with transforms := Keyed.set name f r.transforms }

/-- The registry with a mapper bound to a name. -/
def bindMapper (r : Registry) (name : String) (m : Mapper) : Registry :=
  { r with mappers := Keyed.set name m r.mappers }

/-- The registry of the built-in transforms. -/
def builtIns : Registry :=
  BuiltIn.all.foldl (fun r b => r.bindTransform b.name b.transform) empty

/-- The transform of a name; an unbound name is an error. -/
def transform (r : Registry) (name : String) : Except Error Transform :=
  match Keyed.get? name r.transforms with
  | some f => .ok f
  | none => .error (.unknownTransform name)

/-- The mapper of a name; an unbound name is an error. -/
def mapper (r : Registry) (name : String) : Except Error Mapper :=
  match Keyed.get? name r.mappers with
  | some m => .ok m
  | none => .error (.unknownMapper name)

/-- Whether a transform has the name. -/
def hasTransform (r : Registry) (name : String) : Bool := (Keyed.get? name r.transforms).isSome

/-- Whether a mapper has the name. -/
def hasMapper (r : Registry) (name : String) : Bool := (Keyed.get? name r.mappers).isSome

end Registry

end Reshape
