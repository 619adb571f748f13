import Reshape.Rule
import Reshape.Trace

/-!
# Mapping

What a mapper makes of a document.  An array is mapped item by item, and an item that is an array
itself counts as one source.  `null` stays `null`.  Any other source gives an object: the field
rules write it in their order, each reading the source only, and then the hooks change it in theirs.
A rule whose path leads nowhere is passed over and noted.  The first error ends the mapping.

* **`dispatch`** — arrays, `null` and other sources.
* **`Rule.contribution`**, **`writeFields`** — what one field rule, and what all of them, write.
* **`runHooks`** — the hooks, one after the other.
* **`Mapper.run`**, **`Mapper.map`** — the mapping of a document, with and without its trace.
-/

namespace Reshape

open Json

/-- The value made of one source: `null` of `null`, else the object that is built. -/
def dispatchOne (build : Value → Traced Fields) (source : Value) : Traced Value :=
  if source.isNull then .ok .null else (build source).andThen fun d => .ok (.object d)

/-- The value made of a document: an array item by item, anything else as one source. -/
def dispatch (build : Value → Traced Fields) : Value → Traced Value
  | .array items => (Traced.forItems (dispatchOne build) items).andThen fun vs => .ok (.array vs)
  | source => dispatchOne build source

/-- The hooks of a list of rules, each on the destination that the one before it left. -/
def runHooks (options : Options) (source : Value) : List Rule → Fields → Except Error Fields
  | [], d => .ok d
  | .hook run :: rest, d => (run source d options).bind (runHooks options source rest)
  | _ :: rest, d => runHooks options source rest d

/-- The destination with one more field, if there is one to write. -/
def writeField (d : Fields) : Option (String × Value) → Fields
  | none => d
  | some (key, v) => Keyed.set key v d

mutual

/-- The field that a rule writes; none for a hook, and none when the path leads nowhere. -/
def Rule.contribution (options : Options) (source : Value) (rule : Rule) :
    Traced (Option (String × Value)) :=
  match rule with
  | .copy p =>
    match p.resolve source with
    | some v => .ok (some (p.terminal, v))
    | none => (Traced.note (.skippedCopy p.raw)).andThen fun _ => .ok none
  | .relabel p dest =>
    match p.resolve source with
    | some v => .ok (some (dest, v))
    | none => (Traced.note (.skippedAlias p.raw dest)).andThen fun _ => .ok none
  | .call p dest _ transform =>
    match p.resolve source with
    | some v => (Traced.lift (transform source v options)).andThen fun w => .ok (some (dest, w))
    | none => (Traced.note (.skippedTransform p.raw dest)).andThen fun _ => .ok none
  | .nest p dest rules =>
    match p.resolve source with
    | some v =>
      (dispatch (fun s => (writeFields options s rules []).andThen fun d =>
        Traced.lift (runHooks options s rules d)) v).andThen fun w => .ok (some (dest, w))
    | none => (Traced.note (.skippedTransform p.raw dest)).andThen fun _ => .ok none
  | .hook _ => .ok none
termination_by structural rule

/-- The destination after the field rules of a list, from the destination `d` on. -/
def writeFields (options : Options) (source : Value) (rules : List Rule) (d : Fields) :
    Traced Fields :=
  match rules with
  | [] => .ok d
  | rule :: rest =>
    (rule.contribution options source).andThen fun c =>
      writeFields options source rest (writeField d c)
termination_by structural rules

end

/-- The object that rules make of one source that is not `null`. -/
def buildObject (options : Options) (rules : List Rule) (source : Value) : Traced Fields :=
  (writeFields options source rules []).andThen fun d =>
    Traced.lift (runHooks options source rules d)

namespace Mapper

/-- What the mapper makes of a document, with its trace. -/
def run (m : Mapper) (input : Value) (options : Options) : Traced Value :=
  dispatch (buildObject options m.rules) input

/-- What the mapper makes of a document. -/
def map (m : Mapper) (input : Value) (options : Options) : Except Error Value :=
  (m.run input options).result

/-- What the mapper makes of one source, which may be an array; nothing of `null`. -/
def runObject (m : Mapper) (source : Value) (options : Options) : Traced (Option Fields) :=
  if source.isNull then .ok none
  else (buildObject options m.rules source).andThen fun d => .ok (some d)

end Mapper

/-- Nested rules work on a value like a mapper of their own. -/
theorem contribution_nest (options : Options) (source : Value) (p : SourcePath) (dest : String)
    (rules : List Rule) {v : Value} (h : p.resolve source = some v) :
    (Rule.nest p dest rules).contribution options source =
      ((Mapper.mk rules).run v options).andThen fun w => .ok (some (dest, w)) := by
  simp only [Rule.contribution, h]
  rfl

@[simp] theorem dispatchOne_null (build : Value → Traced Fields) :
    dispatchOne build .null = .ok .null := rfl

@[simp] theorem runHooks_nil (options : Options) (source : Value) (d : Fields) :
    runHooks options source [] d = .ok d := rfl

@[simp] theorem writeFields_nil (options : Options) (source : Value) (d : Fields) :
    writeFields options source [] d = .ok d := by simp [writeFields]

theorem writeFields_cons (options : Options) (source : Value) (rule : Rule) (rest : List Rule)
    (d : Fields) :
    writeFields options source (rule :: rest) d =
      (rule.contribution options source).andThen fun c =>
        writeFields options source rest (writeField d c) := by
  simp [writeFields]

end Reshape
