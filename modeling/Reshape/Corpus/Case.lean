import Reshape.Json.ShapeReader
import Reshape.Options

/-!
# Cases

A case of a corpus: a specification, an input with options, and what the mapping is expected to give
or how it is expected to fail.

* **`Case`**, **`Expectations`**, **`Metadata`** — a case and its parts.
* **`Case.shape`** — the shape of a case as a document.
* **`Case.ofValue`**, **`Case.read`** — the case of a document.
* **`Case.toValue`**, **`Case.text`** — the document of a case, and its text with the fields in the
  order of declaration.
-/

namespace Reshape

open Json

/-- What a mapping is expected to do. -/
structure Expectations where
  /-- The output; an expected `null` differs from no expectation. -/
  output : Option Value
  /-- A part of the error message. -/
  errorPattern : Option String
deriving Repr

/-- What is known about a case besides its mapping. -/
structure Metadata where
  /-- What the case is about. -/
  description : String
  /-- Words by which cases are chosen. -/
  tags : List String
  /-- Whether the case is run. -/
  enabled : Bool
  /-- The place in the order of the cases; lower ones come first. -/
  priority : UInt32
deriving DecidableEq, Repr

/-- A case of a corpus. -/
structure Case where
  /-- The name, unique in its category. -/
  name : String
  /-- The group of the case. -/
  category : String
  /-- The specification, or the name of a file that holds it. -/
  spec : Value
  /-- What is mapped. -/
  input : Value
  /-- The options of the mapping. -/
  options : Options
  /-- What the mapping is expected to do. -/
  expectations : Expectations
  /-- What is known about the case besides. -/
  metadata : Metadata
deriving Repr

/-! ### Documents of cases -/

/-- The priority of a case that states none. -/
def standardPriority : UInt32 := 100

/-- The shape of expectations. -/
def Expectations.shape : Shape :=
  .record "TestExpectations"
    [("output", .omitted, .any),
     ("error_pattern", .omitted, .optional .text)]

/-- The shape of metadata. -/
def Metadata.shape : Shape :=
  .record "TestMetadata"
    [("description", .required, .text),
     ("tags", .filled (.array []), .list .text),
     ("enabled", .filled (.bool true), .flag),
     ("priority", .filled (.nat standardPriority.toNat), .natural32)]

/-- The shape of a case. -/
def Case.shape : Shape :=
  .record "TestCase"
    [("name", .required, .text),
     ("category", .required, .text),
     ("spec", .required, .any),
     ("input", .required, .any),
     ("options", .filled (.object []), .table .any),
     ("expectations", .required, Expectations.shape),
     ("metadata", .required, Metadata.shape)]

/-- The expectations held by fields of their shape. -/
def Expectations.ofFields (fields : Fields) : Expectations where
  output := Keyed.get? "output" fields
  errorPattern := (Keyed.get? "error_pattern" fields).bind stringOf?

/-- The metadata held by fields of their shape. -/
def Metadata.ofFields (fields : Fields) : Metadata where
  description := stringOf (partOf "description" fields)
  tags := stringsOf (partOf "tags" fields)
  enabled := flagOf (partOf "enabled" fields)
  priority := UInt32.ofNat (naturalOf (partOf "priority" fields))

namespace Case

/-- The case held by fields of its shape. -/
def ofFields (fields : Fields) : Case where
  name := stringOf (partOf "name" fields)
  category := stringOf (partOf "category" fields)
  spec := partOf "spec" fields
  input := partOf "input" fields
  options := ⟨fieldsOf (partOf "options" fields)⟩
  expectations := .ofFields (fieldsOf (partOf "expectations" fields))
  metadata := .ofFields (fieldsOf (partOf "metadata" fields))

/-- The case of a document, or the first mismatch. -/
def ofValue (v : Value) : Except Mismatch Case :=
  (shape.fit v).map fun w => ofFields (fieldsOf w)

/-- The case of a document given as a text, or the first fault. -/
def read (text : String) : Except Fault Case :=
  (shape.read text).map fun w => ofFields (fieldsOf w)

end Case

/-! ### Cases as documents -/

/-- The fields of expectations; those that are not there have no field. -/
def Expectations.members (e : Expectations) : List (String × Value) :=
  (e.output.map fun v => ("output", v)).toList ++
    (e.errorPattern.map fun s => ("error_pattern", .string s)).toList

/-- The fields of metadata. -/
def Metadata.members (m : Metadata) : List (String × Value) :=
  [("description", .string m.description),
   ("tags", .array (m.tags.map .string)),
   ("enabled", .bool m.enabled),
   ("priority", .nat m.priority.toNat)]

namespace Case

/-- The fields of a case in the order of declaration; `object` makes a value of fields. -/
def members (object : List (String × Value) → Value) (c : Case) : List (String × Value) :=
  [("name", .string c.name),
   ("category", .string c.category),
   ("spec", c.spec),
   ("input", c.input),
   ("options", .object c.options.fields),
   ("expectations", object c.expectations.members),
   ("metadata", object c.metadata.members)]

/-- The document of a case. -/
def toValue (c : Case) : Value :=
  let object := fun fields => Value.object (Keyed.ofList fields)
  object (c.members object)

/-- The indented text of a case, with the fields in the order of declaration. -/
def text (c : Case) : String := (Value.object (c.members .object)).pretty

/-- The name of a case together with its category. -/
def label (c : Case) : String := c.category ++ "/" ++ c.name

end Case

end Reshape
