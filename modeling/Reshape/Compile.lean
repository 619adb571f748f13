import Reshape.Descriptor
import Reshape.Json.Reader
import Reshape.Trace

/-!
# Compiling specifications

A specification becomes a list of rules, one rule to an element, in order.  The first element that
is no rule ends the compilation with an error that bears its index; inside of a nested
specification indices count from zero again.  Every list that is compiled completely is noted.

* **`compileElement`**, **`compileElements`** — elements written as JSON.
* **`compileDescriptor`**, **`compileDescriptors`** — elements of any sort.
* **`compileJson`** — a whole specification written as JSON.
* **`Mapper.ofDescriptors`**, **`Mapper.ofJson`**, **`Mapper.ofText`** — compiled mappers.

The main statement is **`compileDescriptors_json`**: elements written as JSON compile alike in both
ways.
-/

namespace Reshape

open Json

/-! ### Parts of a rule -/

/-- An error of the element at an index. -/
def refuse {α : Type} (index : Nat) (fault : RuleFault) : Except Error α :=
  .error (.configuration index fault)

/-- A source path in the element at an index. -/
def pathAt (index : Nat) (raw : String) : Except Error SourcePath :=
  match SourcePath.parse raw with
  | .ok p => .ok p
  | .error fault => refuse index (.path fault)

/-- A name that must not be empty. -/
def nonEmpty (index : Nat) (fault : RuleFault) (name : String) : Except Error String :=
  if name = "" then refuse index fault else .ok name

/-- A field of a rule object that has to be a string. -/
def nameAt (index : Nat) (key : RuleKey) (fields : Fields) : Except Error String :=
  match Keyed.get? key.name fields with
  | some (.string s) => .ok s
  | some v => refuse index (.nameKind key v.kind)
  | none => refuse index (.missingName key)

/-- A copy under another name. -/
def relabelAt (index : Nat) (source dest : String) : Except Error Rule := do
  let p ← pathAt index source
  let d ← nonEmpty index .emptyTarget dest
  .ok (.relabel p d)

/-- The rule of an object with one key, the path, whose value is the name of the destination. -/
def relabelObject (index : Nat) : Fields → Except Error Rule
  | [(source, .string dest)] => relabelAt index source dest
  | [(source, v)] => refuse index (.aliasTarget source v.kind)
  | fields => refuse index (.aliasKeys fields.length)

/-- The key of a rule object that is none of the known ones. -/
def unexpectedKey? (fields : Fields) : Option String :=
  (Keyed.keys fields).find? fun k => !ruleKeys.contains k

/-- Whether an object is meant as a rule object: it has at least one of the known keys. -/
def isRuleObject (fields : Fields) : Bool := (Keyed.keys fields).any ruleKeys.contains

/-- The source and the destination of a rule object. -/
def ruleHead (index : Nat) (fields : Fields) : Except Error (SourcePath × String) := do
  match unexpectedKey? fields with
  | some key => refuse index (.unexpectedKey key)
  | none =>
    let source ← nameAt index .source fields
    let p ← pathAt index source
    let dest ← nameAt index .destination fields
    let d ← nonEmpty index .emptyDestination dest
    .ok (p, d)

/-- A call of the transform that a name is bound to. -/
def callNamed (registry : Registry) (p : SourcePath) (dest name : String) : Except Error Rule := do
  let f ← registry.transform name
  .ok (.call p dest (some name) f)

/-- The rule of a rule object without a mapper. -/
def transformObject (registry : Registry) (index : Nat) (p : SourcePath) (dest : String)
    (fields : Fields) : Except Error Rule :=
  match Keyed.get? RuleKey.transform.name fields with
  | some (.string name) => callNamed registry p dest name
  | some v => refuse index (.transformKind v.kind)
  | none => refuse index (.noAction p.raw)

/-- Notes that a list has been compiled. -/
def noteCompiled (rules : List Rule) : Traced (List Rule) :=
  (Traced.note (.compiled rules.length)).andThen fun _ => .ok rules

/-- The rule of a rule object, given the rules of its mapper if it has one.  These are compiled only
when source and destination are in order. -/
def ruleObject (registry : Registry) (index : Nat) (fields : Fields)
    (nested : Option (Traced (List Rule))) : Traced Rule :=
  (Traced.lift (ruleHead index fields)).andThen fun head =>
    match nested with
    | some rules => rules.andThen fun rs => .ok (.nest head.1 head.2 rs)
    | none => Traced.lift (transformObject registry index head.1 head.2 fields)

/-! ### Elements written as JSON -/

mutual

/-- The rule of an element written as JSON. -/
def compileElement (registry : Registry) (index : Nat) (v : Value) : Traced Rule :=
  match v with
  | .string raw => Traced.lift ((pathAt index raw).map .copy)
  | .object fields =>
    if isRuleObject fields then
      ruleObject registry index fields (nestedRules registry index fields)
    else Traced.lift (relabelObject index fields)
  | v => .fail (.configuration index (.unrecognized v.kind))
termination_by structural v

/-- The rules of the elements of a list, the first of which has the index given. -/
def compileElements (registry : Registry) (index : Nat) (vs : List Value) : Traced (List Rule) :=
  match vs with
  | [] => .ok []
  | v :: rest =>
    (compileElement registry index v).andThen fun rule =>
      (compileElements registry (index + 1) rest).andThen fun rules => .ok (rule :: rules)
termination_by structural vs

/-- The rules of the mapper of a rule object, if it has one: a nested specification, or the name of
a mapper. -/
def nestedRules (registry : Registry) (index : Nat) (fields : List (String × Value)) :
    Option (Traced (List Rule)) :=
  match fields with
  | [] => none
  | (key, v) :: rest =>
    if key = RuleKey.mapper.name then
      some (match v with
        | .array items => (compileElements registry 0 items).andThen noteCompiled
        | .string name => Traced.lift ((registry.mapper name).map Mapper.rules)
        | v => .fail (.configuration index (.mapperKind v.kind)))
    else nestedRules registry index rest
termination_by structural fields

end

/-! ### Descriptors -/

/-- The rule of a rule descriptor. -/
def compileRule (registry : Registry) (index : Nat) (r : RuleDescriptor) : Except Error Rule := do
  let p ← pathAt index r.source
  let dest ← nonEmpty index .emptyDestination r.dest
  match r.mapper, r.closure, r.transformName with
  | some m, _, _ => .ok (.nest p dest m.rules)
  | none, some f, none => .ok (.call p dest none f)
  | none, none, some name => callNamed registry p dest name
  | none, none, none => refuse index (.noAction p.raw)
  | none, some _, some _ => refuse index (.twoActions p.raw)

/-- The rule of an element of any sort. -/
def compileDescriptor (registry : Registry) (index : Nat) : Descriptor → Traced Rule
  | .field name => Traced.lift ((pathAt index name).map .copy)
  | .relabel source dest => Traced.lift (relabelAt index source dest)
  | .rule r => Traced.lift (compileRule registry index r)
  | .postProcess run => .ok (.hook run)
  | .json v => compileElement registry index v

/-- The rules of elements of any sort, the first of which has the index given. -/
def compileDescriptors (registry : Registry) (index : Nat) : List Descriptor → Traced (List Rule)
  | [] => .ok []
  | d :: rest =>
    (compileDescriptor registry index d).andThen fun rule =>
      (compileDescriptors registry (index + 1) rest).andThen fun rules => .ok (rule :: rules)

/-- Elements written as JSON compile alike, as descriptors or as parts of a JSON document. -/
theorem compileDescriptors_json (registry : Registry) (index : Nat) (vs : List Value) :
    compileDescriptors registry index (vs.map .json) = compileElements registry index vs := by
  induction vs generalizing index with
  | nil => simp [compileDescriptors, compileElements]
  | cons v rest ih => simp [compileDescriptors, compileElements, compileDescriptor, ih]

/-! ### Specifications -/

/-- The rules of a list of elements. -/
def compile (registry : Registry) (ds : List Descriptor) : Traced (List Rule) :=
  (compileDescriptors registry 0 ds).andThen noteCompiled

/-- The rules of a specification written as JSON, which has to be an array. -/
def compileJson (registry : Registry) : Value → Traced (List Rule)
  | .array items => (compileElements registry 0 items).andThen noteCompiled
  | v => .fail (.invalidSpecification (.notList v.kind))

namespace Mapper

/-- The mapper of a list of elements. -/
def ofDescriptors (registry : Registry) (ds : List Descriptor) : Traced Mapper :=
  (compile registry ds).andThen fun rules => .ok ⟨rules⟩

/-- The mapper of a specification written as JSON; a complete one is noted as loaded. -/
def ofJson (registry : Registry) (spec : Value) : Traced Mapper :=
  (compileJson registry spec).andThen fun rules =>
    (Traced.note (.loaded rules.length)).andThen fun _ => .ok ⟨rules⟩

/-- The mapper of a specification given as a text. -/
def ofText (registry : Registry) (text : String) : Traced Mapper :=
  match Json.read text with
  | .ok spec => ofJson registry spec
  | .error fault => .fail (.json fault)

end Mapper

theorem compileJson_array (registry : Registry) (items : List Value) :
    compileJson registry (.array items) = compile registry (items.map .json) := by
  simp [compileJson, compile, compileDescriptors_json]

end Reshape
