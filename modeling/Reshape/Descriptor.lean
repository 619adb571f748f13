import Reshape.Registry

/-!
# Descriptors

The elements of a specification before they are compiled.  A specification is written as JSON, or
put together from descriptors, which can also carry callbacks and compiled mappers.

* **`RuleDescriptor`** — a rule with a source, a destination and whatever is to be done between.
* **`Descriptor`** — one element of a specification.
-/

namespace Reshape

open Json

/-- A rule before it is compiled.  A mapper goes before a transform; besides, only one of the two
ways to give a transform may be used. -/
structure RuleDescriptor where
  /-- The text of the source path. -/
  source : String
  /-- The name of the destination field. -/
  dest : String
  /-- A transform given as a callback. -/
  closure : Option Transform
  /-- A transform given by its name. -/
  transformName : Option String
  /-- A mapper for the value at the path. -/
  mapper : Option Mapper

/-- One element of a specification. -/
inductive Descriptor where
  /-- The text of a path that is copied under its last segment. -/
  | field (name : String)
  /-- The text of a path and the name of the field it is copied to. -/
  | relabel (source dest : String)
  | rule (r : RuleDescriptor)
  | postProcess (run : Hook)
  /-- An element written as JSON. -/
  | json (v : Value)

end Reshape
