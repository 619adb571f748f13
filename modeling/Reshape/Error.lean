import Reshape.Json.Fault
import Reshape.Path

/-!
# Errors

Why a specification is no mapping, or why a mapping fails.  Every error is kept as its cause, and
its wording is a function of the cause.  A callback may also state a cause in its own words.

* **`RuleKey`** — the keys of a rule object.
* **`RuleFault`**, **`SpecificationFault`**, **`OptionsFault`**, **`TransformFault`** — the causes.
* **`Error`** — an error; `Error.message` is its wording and `Error.isConfiguration` tells those of
  a specification from those of a mapping.
-/

namespace Reshape

open Json

/-- The keys of a rule object. -/
inductive RuleKey where
  | source
  | destination
  | transform
  | mapper
deriving DecidableEq, Repr

/-- The name of a key. -/
def RuleKey.name : RuleKey → String
  | .source => "srcName"
  | .destination => "dstName"
  | .transform => "customTransform"
  | .mapper => "mapper"

/-- The names of all keys of a rule object. -/
def ruleKeys : List String := ["srcName", "dstName", "customTransform", "mapper"]

/-- Why an element of a specification is not a rule. -/
inductive RuleFault where
  | path (fault : PathFault)
  | unrecognized (found : Kind)
  | aliasKeys (count : Nat)
  | aliasTarget (key : String) (found : Kind)
  | emptyTarget
  | unexpectedKey (key : String)
  | missingName (key : RuleKey)
  | nameKind (key : RuleKey) (found : Kind)
  | emptyDestination
  | mapperKind (found : Kind)
  | transformKind (found : Kind)
  | noAction (source : String)
  | twoActions (source : String)
  | stated (text : String)
deriving DecidableEq, Repr

/-- The wording of a rule fault. -/
def RuleFault.text : RuleFault → String
  | .path fault => fault.text
  | .unrecognized found => "unrecognized rule of type " ++ found.name
  | .aliasKeys count =>
    "alias object must have exactly one key, found " ++ natText count ++
      "; rule objects need srcName and dstName"
  | .aliasTarget key found =>
    "alias target for '" ++ key ++ "' must be a string, found " ++ found.name
  | .emptyTarget => "alias target must not be empty"
  | .unexpectedKey key => "rule object carries unexpected key '" ++ key ++ "'"
  | .missingName key => "rule object is missing " ++ key.name
  | .nameKind key found => key.name ++ " must be a string, found " ++ found.name
  | .emptyDestination => "dstName must not be empty"
  | .mapperKind found =>
    "mapper must be a nested specification or a mapper name, found " ++ found.name
  | .transformKind found => "customTransform must be a transform name, found " ++ found.name
  | .noAction source => "rule for '" ++ source ++ "' needs a customTransform or a mapper"
  | .twoActions source =>
    "rule for '" ++ source ++ "' has both a transform closure and a transform name"
  | .stated text => text

/-- Why a value is not a specification. -/
inductive SpecificationFault where
  | notList (found : Kind)
  | stated (text : String)
deriving DecidableEq, Repr

/-- The wording of a specification fault. -/
def SpecificationFault.text : SpecificationFault → String
  | .notList found => "expected an array of rules, found " ++ found.name
  | .stated text => text

/-- Why a value does not hold mapping options. -/
inductive OptionsFault where
  | notObject (found : Kind)
  | stated (text : String)
deriving DecidableEq, Repr

/-- The wording of an options fault. -/
def OptionsFault.text : OptionsFault → String
  | .notObject found => "expected a JSON object, found " ++ found.name
  | .stated text => text

/-- Why a named transform does not accept a value. -/
inductive TransformFault where
  | notString (found : Kind)
  | notConvertible (found target : Kind)
  | notNumber (text : String)
  | notBoolean (text : String)
  | stated (text : String)
deriving DecidableEq, Repr

/-- The wording of a transform fault. -/
def TransformFault.text : TransformFault → String
  | .notString found => "expected a string, found " ++ found.name
  | .notConvertible found target => "cannot convert " ++ found.name ++ " to " ++ target.name
  | .notNumber text => "'" ++ text ++ "' is not a number"
  | .notBoolean text => "'" ++ text ++ "' is not a boolean"
  | .stated text => text

/-- An error of a specification or of a mapping. -/
inductive Error where
  /-- The element at `index` of a specification is not a rule. -/
  | configuration (index : Nat) (fault : RuleFault)
  | invalidSpecification (fault : SpecificationFault)
  /-- No transform has the name. -/
  | unknownTransform (name : String)
  /-- No mapper has the name. -/
  | unknownMapper (name : String)
  | invalidOptions (fault : OptionsFault)
  /-- A transform refuses a value. -/
  | transform (name : String) (fault : TransformFault)
  /-- A callback fails in its own words. -/
  | callback (text : String)
  | json (fault : Json.Fault)
deriving DecidableEq, Repr

namespace Error

/-- The wording of an error. -/
def message : Error → String
  | configuration index fault =>
    "Configuration error at rule " ++ natText index ++ ": " ++ fault.text
  | invalidSpecification fault => "Invalid specification: " ++ fault.text
  | unknownTransform name => "Unknown transform '" ++ name ++ "'"
  | unknownMapper name => "Unknown mapper '" ++ name ++ "'"
  | invalidOptions fault => "Invalid mapping options: " ++ fault.text
  | transform name fault => "Transform '" ++ name ++ "' failed: " ++ fault.text
  | callback text => text
  | json fault => "JSON error: " ++ fault.text

/-- Whether the error comes from a specification and not from a mapping. -/
def isConfiguration : Error → Bool
  | configuration _ _ => true
  | invalidSpecification _ => true
  | unknownTransform _ => true
  | unknownMapper _ => true
  | _ => false

end Error

end Reshape
