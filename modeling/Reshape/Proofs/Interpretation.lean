import Reshape.Proofs.Mapping
import Reshape.Proofs.Translation

/-!
# Interpreting specifications

A specification says directly what is to become of a document: its elements can be carried out one
after the other, without compiling anything.  This file gives that reading of the JSON text of a
specification and shows that compiled mappers follow it:

* **`interpretElement`**, **`interpretElements`** — what an element writes, and what the elements of
  a list make of a destination;
* **`interpretMapper`** — what the mapper of a rule object makes of a value;
* **`interpret`** — what a specification makes of a document.

The main statement is **`ofJson_refines_interpret`**: a specification that compiles gives a mapper,
and the mapper maps every document to what interpreting the specification gives, value or error.
-/

namespace Reshape

open Json

/-- The value at a path that is given as a text. -/
def valueAt (raw : String) (source : Value) : Option Value := resolveFrom (segmentsOf raw) source

/-- The last segment of a path that is given as a text. -/
def lastSegment (raw : String) : String := (segmentsOf raw).getLastD raw

/-- The text under a key. -/
def textAt (key : String) (fields : Fields) : Option String :=
  (Keyed.get? key fields).bind stringOf?

/-- What an object with a single key writes: the value at its key, under the name that it has. -/
def interpretAlias (source : Value) : Fields → Option (String × Value)
  | [(raw, .string dest)] => (valueAt raw source).map fun v => (dest, v)
  | _ => none

/-- What the transform that a rule object names makes of a value. -/
def interpretTransform (registry : Registry) (options : Options) (source v : Value)
    (fields : Fields) : Except Error Value :=
  match textAt RuleKey.transform.name fields with
  | some name => (registry.transform name).bind fun transform => transform source v options
  | none => .ok .null

mutual

/-- The field that an element writes for a source; none when its path leads nowhere. -/
def interpretElement (registry : Registry) (options : Options) (source element : Value) :
    Except Error (Option (String × Value)) :=
  match element with
  | .string raw => .ok ((valueAt raw source).map fun v => (lastSegment raw, v))
  | .object fields =>
    match textAt RuleKey.source.name fields, textAt RuleKey.destination.name fields with
    | some raw, some dest =>
      match valueAt raw source with
      | some v =>
        (match interpretMapper registry options v fields with
          | some outcome => outcome
          | none => interpretTransform registry options source v fields).map fun w => some (dest, w)
      | none => .ok none
    | _, _ => .ok (interpretAlias source fields)
  | _ => .ok none
termination_by structural element

/-- The destination after the elements of a list, from the destination `d` on. -/
def interpretElements (registry : Registry) (options : Options) (source : Value)
    (elements : List Value) (d : Fields) : Except Error Fields :=
  match elements with
  | [] => .ok d
  | element :: rest =>
    (interpretElement registry options source element).bind fun field =>
      interpretElements registry options source rest
        (field.elim d fun entry => Keyed.set entry.1 entry.2 d)
termination_by structural elements

/-- What the mapper of a rule object makes of a value, if the object has one: a nested specification
is interpreted, and a name stands for the mapper of that name. -/
def interpretMapper (registry : Registry) (options : Options) (v : Value)
    (fields : List (String × Value)) : Option (Except Error Value) :=
  match fields with
  | [] => none
  | (key, spec) :: rest =>
    if key = RuleKey.mapper.name then
      some (match spec with
        | .array items =>
          elementwise (orNull fun s => interpretElements registry options s items []) v
        | .string name => (registry.mapper name).bind fun m => m.map v options
        | _ => .ok .null)
    else interpretMapper registry options v rest
termination_by structural fields

end

/-- What a specification makes of a document. -/
def interpret (registry : Registry) (spec input : Value) (options : Options) :
    Except Error Value :=
  match spec with
  | .array elements =>
    elementwise (orNull fun s => interpretElements registry options s elements []) input
  | _ => .error (.invalidSpecification (.notList spec.kind))

/-- What a specification or the name of a mapper, as they occur in rule objects, make of a value. -/
def interpretNested (registry : Registry) (options : Options) (v spec : Value) :
    Except Error Value :=
  match spec with
  | .array _ => interpret registry spec v options
  | .string name => (registry.mapper name).bind fun m => m.map v options
  | _ => .ok .null

section

variable {registry : Registry} {options : Options}

/-! ### Equations -/

/-- The mapper of a rule object is what is under its mapper key. -/
theorem interpretMapper_eq (v : Value) (fields : Fields) :
    interpretMapper registry options v fields =
      (Keyed.get? RuleKey.mapper.name fields).map (interpretNested registry options v) := by
  induction fields with
  | nil => simp [interpretMapper]
  | cons entry rest ih =>
    rcases entry with ⟨key, spec⟩
    rw [Keyed.get?_cons]
    by_cases hkey : key = RuleKey.mapper.name
    · rw [if_pos hkey]
      cases spec <;> simp [interpretMapper, interpretNested, interpret, hkey]
    · rw [if_neg hkey, ← ih]
      cases spec <;> simp [interpretMapper, hkey]

theorem interpretElements_cons (source element : Value) (rest : List Value) (d : Fields) :
    interpretElements registry options source (element :: rest) d =
      (interpretElement registry options source element).bind fun field =>
        interpretElements registry options source rest
          (field.elim d fun entry => Keyed.set entry.1 entry.2 d) := by
  rw [interpretElements]

theorem textAt_eq {key s : String} {fields : Fields}
    (h : Keyed.get? key fields = some (.string s)) : textAt key fields = some s := by
  rw [textAt, h]
  rfl

/-- A rule object writes what its mapper, or else its transform, makes of the value it finds. -/
theorem interpretElement_rule {fields : Fields} {raw dest : String}
    (h : RuleObject fields raw dest) (source : Value) :
    interpretElement registry options source (.object fields) =
      (valueAt raw source).elim (.ok none) fun v =>
        (((Keyed.get? RuleKey.mapper.name fields).map (interpretNested registry options v)).getD
          (interpretTransform registry options source v fields)).map fun w => some (dest, w) := by
  rw [interpretElement, textAt_eq h.source, textAt_eq h.destination]
  cases hv : valueAt raw source with
  | none => simp [hv]
  | some v =>
    simp only [hv, interpretMapper_eq, Option.elim_some]
    cases (Keyed.get? RuleKey.mapper.name fields).map (interpretNested registry options v) with
    | none => rfl
    | some outcome => rfl

/-- An object without the keys of a rule writes as an alias. -/
theorem interpretElement_alias {raw dest : String} (h : raw ∉ ruleKeys) (source : Value) :
    interpretElement registry options source (.object [(raw, .string dest)]) =
      .ok ((valueAt raw source).map fun v => (dest, v)) := by
  have hsource : textAt RuleKey.source.name [(raw, Value.string dest)] = none := by
    have hne : raw ≠ RuleKey.source.name := fun heq => h (by rw [heq]; decide)
    rw [textAt, Keyed.get?_cons, if_neg hne]
    rfl
  rw [interpretElement, hsource]
  rfl

/-! ### Compiled rules -/

/-- A field is written by setting its entry; where there is none, nothing is. -/
theorem writeField_eq_elim (d : Fields) (field : Option (String × Value)) :
    writeField d field = field.elim d fun entry => Keyed.set entry.1 entry.2 d := by
  cases field <;> rfl

/-- No element stands for a hook. -/
theorem ElementRule.hook?_eq_none {v : Value} {rule : Rule} (h : ElementRule registry v rule) :
    rule.hook? = none := by
  cases h <;> rfl

theorem runHooks_of_elementRules {items : List Value} {rules : List Rule}
    (h : List.Forall₂ (ElementRule registry) items rules) (source : Value) (d : Fields) :
    runHooks options source rules d = .ok d := by
  refine runHooks_of_hook?_eq_none (fun rule hrule => ?_) options source d
  obtain ⟨v, -, hv⟩ := exists_of_mem_right h hrule
  exact hv.hook?_eq_none

/-- Rules write as their elements say if each rule of them does. -/
theorem writeFields_of_elementRules {items : List Value} {rules : List Rule}
    (hrules : List.Forall₂ (ElementRule registry) items rules)
    (h : ∀ v ∈ items, ∀ rule source, ElementRule registry v rule →
      (rule.contribution options source).result = interpretElement registry options source v)
    (source : Value) (d : Fields) :
    (writeFields options source rules d).result =
      interpretElements registry options source items d := by
  induction hrules generalizing d with
  | nil => simp [interpretElements]
  | cons hrule hrest ih =>
    rw [writeFields_cons, Traced.result_andThen, interpretElements_cons,
      h _ List.mem_cons_self _ source hrule]
    congr 1
    funext field
    rw [writeField_eq_elim]
    exact ih (fun v hv => h v (List.mem_cons_of_mem _ hv)) _

theorem map_of_elementRules {items : List Value} {rules : List Rule}
    (hrules : List.Forall₂ (ElementRule registry) items rules)
    (h : ∀ v ∈ items, ∀ rule source, ElementRule registry v rule →
      (rule.contribution options source).result = interpretElement registry options source v)
    (input : Value) :
    (Mapper.mk rules).map input options = interpret registry (.array items) input options := by
  have hbuild : (fun s => (buildObject options rules s).result) =
      fun s => interpretElements registry options s items [] := by
    funext s
    rw [buildObject_result, writeFields_of_elementRules hrules h s []]
    cases interpretElements registry options s items [] with
    | error e => rfl
    | ok d => exact runHooks_of_elementRules hrules s d
  rw [map_eq, hbuild]
  rfl

/-- The rule of a rule object writes as the object says if it makes of the value at its source what
the mapper of the object, or else the transform, makes of it. -/
theorem contribution_of_ruleObject {fields : Fields} {raw dest : String} {rule : Rule}
    {source : Value} {make : Value → Except Error Value} (h : RuleObject fields raw dest)
    (hdest : rule.dest? = some dest)
    (houtcome : rule.outcome? options source = (valueAt raw source).map make)
    (hmake : ∀ w, make w =
      ((Keyed.get? RuleKey.mapper.name fields).map (interpretNested registry options w)).getD
        (interpretTransform registry options source w fields)) :
    (rule.contribution options source).result =
      interpretElement registry options source (.object fields) := by
  rw [contribution_result_of_found hdest houtcome, interpretElement_rule h]
  congr 1
  funext w
  rw [hmake w]

/-- **A compiled rule writes what interpreting its element says.** -/
theorem contribution_of_elementRule {v : Value} {rule : Rule} (h : ElementRule registry v rule)
    (source : Value) :
    (rule.contribution options source).result =
      interpretElement registry options source v := by
  -- On the element and not on the rule: the rules of a named mapper stand for no part of it.
  induction v using element_induction generalizing rule source with
  | step v ih =>
  cases h with
  | @copy raw hraw =>
    rw [contribution_result_of_copied rfl rfl, interpretElement]
    rfl
  | @relabel raw dest hkey hraw hdest =>
    rw [contribution_result_of_copied rfl rfl, interpretElement_alias hkey]
    rfl
  | @nested fields raw dest items rules hrule hmapper hitems =>
    have hmap : ∀ w, (Mapper.mk rules).map w options =
        interpretNested registry options w (.array items) :=
      map_of_elementRules hitems fun u hu rule source hr =>
        ih fields items rfl hmapper u hu hr source
    refine contribution_of_ruleObject hrule rfl rfl fun w => ?_
    rw [hmapper]
    exact hmap w
  | @named fields raw dest name m hrule hmapper hm =>
    refine contribution_of_ruleObject hrule rfl rfl fun w => ?_
    rw [hmapper]
    show m.map w options = (registry.mapper name).bind _
    rw [hm, ok_bind]
  | @call fields raw dest name f hrule hmapper hname hf =>
    refine contribution_of_ruleObject hrule rfl rfl fun w => ?_
    rw [hmapper]
    show f source w options = interpretTransform registry options source w fields
    rw [interpretTransform, textAt_eq hname]
    show _ = (registry.transform name).bind _
    rw [hf, ok_bind]

/-- **Compiled mappers do what their specification says.**  A specification that compiles loads as a
mapper, and the mapper makes of every document, under all options, the value or the error that
interpreting the specification gives. -/
theorem ofJson_refines_interpret {spec : Value}
    (h : ∃ rules, (compileJson registry spec).result = .ok rules) :
    ∃ m, (Mapper.ofJson registry spec).result = .ok m ∧
      ∀ input options, m.map input options = interpret registry spec input options := by
  obtain ⟨rules, hrules⟩ := h
  obtain ⟨items, rfl, hitems⟩ := compileJson_ok.1 hrules
  refine ⟨⟨rules⟩, ofJson_ok.2 ⟨items, rfl, hitems⟩, fun input options => ?_⟩
  exact map_of_elementRules hitems (fun v _ rule source hr => contribution_of_elementRule hr source)
    input

end

/-- A specification with elements of every form; the mapper of its last rule is a specification in
turn, and hides a transform that is no name. -/
def orderSpec : Value :=
  .array [.string "order.id", .object [("contact.mail", .string "mail")],
    .object [("customTransform", .string "uppercase"), ("dstName", .string "country"),
      ("srcName", .string "ship.to.country")],
    .object [("customTransform", .nat 3), ("dstName", .string "lines"),
      ("mapper", .array [.string "sku", .object [("customTransform", .string "to_number"),
        ("dstName", .string "quantity"), ("srcName", .string "count")]]),
      ("srcName", .string "items")]]

/-- A document for it; the second of its items has no count. -/
def orderDocument : Value :=
  .object [("contact", .object [("mail", .string "a@b.org")]),
    ("items", .array [.object [("count", .string "2"), ("sku", .string "k1")],
      .object [("sku", .string "k2")]]),
    ("order", .object [("id", .nat 7)]),
    ("ship", .object [("to", .object [("country", .string "de")])])]

/-- What the specification makes of the document: fields under their names, the country and the
count through their transforms, and the items through the mapper. -/
def orderOutput : Value :=
  .object [("country", .string "DE"), ("id", .nat 7),
    ("lines", .array [.object [("quantity", .nat 2), ("sku", .string "k1")],
      .object [("sku", .string "k2")]]),
    ("mail", .string "a@b.org")]

theorem ofJson_refines_interpret_order :
    (∃ rules, (compileJson Registry.builtIns orderSpec).result = .ok rules) ∧
      ∃ m, (Mapper.ofJson Registry.builtIns orderSpec).result = .ok m ∧
        (∀ input options,
          m.map input options = interpret Registry.builtIns orderSpec input options) ∧
        m.map orderDocument .empty = .ok orderOutput := by
  have hrules : ∃ rules, (compileJson Registry.builtIns orderSpec).result = .ok rules := ⟨_, rfl⟩
  obtain ⟨m, hm, hmap⟩ := ofJson_refines_interpret hrules
  refine ⟨hrules, m, hm, hmap, ?_⟩
  rw [hmap]
  rfl

end Reshape
