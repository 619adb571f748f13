import Reshape.Descriptor
import Reshape.Inspect.Outline
import Reshape.Text.Quoted

/-!
# Inspection

Outlines of paths, rules, mappers, descriptors and registries, for someone who looks into a
specification.  Callbacks have no text and are listed as such.

* **`Json.Value.outline`**, **`SourcePath.outline`**, **`Rule.outline`**, **`Mapper.outline`**,
  **`Descriptor.outline`**, **`Registry.outline`** — the outlines.
-/

namespace Reshape

open Json

/-- A text between quotes, as a leaf. -/
def quotedLeaf (s : String) : Outline := .leaf (Text.quote s)

/-- The names of a list, quoted. -/
def quotedList (names : List String) : Outline := .sequence "" (names.map quotedLeaf)

namespace Json

mutual

/-- The outline of a value, each part with its kind. -/
def Value.outline (v : Value) : Outline :=
  match v with
  | .null => .leaf "Null"
  | .bool b => .leaf ("Bool(" ++ boolText b ++ ")")
  | .number n => .leaf ("Number(" ++ n.text ++ ")")
  | .string s => .leaf ("String(" ++ Text.quote s ++ ")")
  | .array items => .sequence "Array " (itemOutlines items)
  | .object fields => .table "Object " (fieldOutlines fields)
termination_by structural v

/-- The outlines of the items of an array. -/
def itemOutlines (items : List Value) : List Outline :=
  match items with
  | [] => []
  | v :: rest => v.outline :: itemOutlines rest
termination_by structural items

/-- The outlines of the fields of an object. -/
def fieldOutlines (fields : List (String × Value)) : List (String × Outline) :=
  match fields with
  | [] => []
  | (key, v) :: rest => (Text.quote key, v.outline) :: fieldOutlines rest
termination_by structural fields

end

end Json

/-- The outline of a path. -/
def SourcePath.outline (p : SourcePath) : Outline :=
  .record "SourcePath" [("raw", quotedLeaf p.raw), ("segments", quotedList p.segments)]

/-- What a callback is listed as. -/
def callbackText : String := "<fn>"

/-- What a transform without a name is listed as. -/
def closureText : String := "<closure>"

/-- The outline of a hook. -/
def hookOutline : Outline := .leaf ("PostProcess(" ++ callbackText ++ ")")

/-- The outline of a transform rule. -/
def transformOutline (p : SourcePath) (dest : String) (action : Outline) : Outline :=
  .record "Transform" [("source", p.outline), ("dest", quotedLeaf dest), ("action", action)]

/-- The outline of a rule.  Of nested rules only the number is listed. -/
def Rule.outline : Rule → Outline
  | .copy p => .record "Copy" [("source", p.outline)]
  | .relabel p dest => .record "Alias" [("source", p.outline), ("dest", quotedLeaf dest)]
  | .call p dest name _ =>
    transformOutline p dest (.record "Function" [("name", quotedLeaf (name.getD closureText))])
  | .nest p dest rules =>
    transformOutline p dest (.tuple "Mapper" [.leaf (natText rules.length ++ " rules")])
  | .hook _ => hookOutline

/-- The outline of a mapper. -/
def Mapper.outline (m : Mapper) : Outline :=
  .record "Mapper" [("rules", .sequence "" (m.rules.map Rule.outline))]

/-- The outline of something that may be absent. -/
def optionOutline : Option Outline → Outline
  | none => .leaf "None"
  | some o => .tuple "Some" [o]

/-- The outline of a rule descriptor. -/
def RuleDescriptor.outline (r : RuleDescriptor) : Outline :=
  .record "RuleDescriptor"
    [("src_name", quotedLeaf r.source),
     ("dst_name", quotedLeaf r.dest),
     ("custom_transform", optionOutline (r.closure.map fun _ => quotedLeaf callbackText)),
     ("transform_name", optionOutline (r.transformName.map quotedLeaf)),
     ("mapper", optionOutline (r.mapper.map Mapper.outline))]

/-- The outline of a descriptor. -/
def Descriptor.outline : Descriptor → Outline
  | .field name => .tuple "Field" [quotedLeaf name]
  | .relabel source dest =>
    .record "Alias" [("source", quotedLeaf source), ("dest", quotedLeaf dest)]
  | .rule r => .tuple "Rule" [r.outline]
  | .postProcess _ => hookOutline
  | .json v => .tuple "Json" [v.outline]

/-- The outline of a registry: its names. -/
def Registry.outline (r : Registry) : Outline :=
  .record "TransformRegistry"
    [("transforms", quotedList (Keyed.keys r.transforms)),
     ("mappers", quotedList (Keyed.keys r.mappers))]

end Reshape
