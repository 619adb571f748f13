import Reshape.Proofs.Phases

/-!
# Names of a specification

A specification depends on a registry through the names that it uses and through no others.  It uses
the names of the transforms that it calls (`CallsTransform`), which do not include the transform of
a rule object that has a mapper, and the names of the mappers that it calls:

* **`NamesMapper`**, **`CallsMapper`** — the names by which an element and a specification call
  mappers, at any depth;
* **`AgreeOn`** — registries with the same answer to every name that an element uses: the same
  binding, or none in both.

Elements compile alike over registries that agree on them (**`compileElement_of_agreeOn`**).  The
main statement is **`compile_by_used_names`**.
-/

namespace Reshape

open Json

/-! ### Names that are used -/

/-- The element calls a mapper by the name: it is an object with the name as its mapper, or there is
such an object in its nested specification. -/
inductive NamesMapper : Value → String → Prop
  | here {fields : Fields} {name : String} :
      Keyed.get? RuleKey.mapper.name fields = some (.string name) →
      NamesMapper (.object fields) name
  | nested {fields : Fields} {items : List Value} {v : Value} {name : String} :
      Keyed.get? RuleKey.mapper.name fields = some (.array items) → v ∈ items →
      NamesMapper v name → NamesMapper (.object fields) name

/-- Some element of the specification, at any depth, calls a mapper by the name. -/
def CallsMapper (spec : Value) (name : String) : Prop :=
  ∃ items, spec = .array items ∧ ∃ v ∈ items, NamesMapper v name

/-- The registries have the same answer to every name that the element uses. -/
structure AgreeOn (left right : Registry) (v : Value) : Prop where
  transforms : ∀ name, NamesTransform v name → left.transform name = right.transform name
  mappers : ∀ name, NamesMapper v name → left.mapper name = right.mapper name

/-- An object with a mapper calls the transforms of its nested specification only, whatever
transform it has itself. -/
theorem callsTransform_of_mapper {fields : Fields} {v : Value} {name : String}
    (hmapper : Keyed.get? RuleKey.mapper.name fields = some v)
    (h : NamesTransform (.object fields) name) : CallsTransform v name := by
  cases h with
  | here hnone =>
    rw [hmapper] at hnone
    cases hnone
  | @nested _ items w _ hitems hw hname =>
    rw [hmapper] at hitems
    cases hitems
    exact ⟨items, rfl, w, hw, hname⟩

section

variable {left right : Registry}

theorem AgreeOn.nested {fields : Fields} {items : List Value} {v : Value}
    (h : AgreeOn left right (.object fields))
    (hmapper : Keyed.get? RuleKey.mapper.name fields = some (.array items)) (hv : v ∈ items) :
    AgreeOn left right v where
  transforms name hname := h.transforms name (.nested hmapper hv hname)
  mappers name hname := h.mappers name (.nested hmapper hv hname)

/-! ### Compiling over registries that agree -/

/-- A list compiles alike over two registries if its elements do. -/
theorem compileElements_of_elements {items : List Value}
    (h : ∀ v ∈ items, ∀ index, compileElement left index v = compileElement right index v)
    (index : Nat) : compileElements left index items = compileElements right index items := by
  induction items generalizing index with
  | nil => rw [compileElements, compileElements]
  | cons v rest ih =>
    have hrest : ∀ w ∈ rest, ∀ index, compileElement left index w = compileElement right index w :=
      fun w hw => h w (List.mem_cons_of_mem v hw)
    rw [compileElements_cons, compileElements_cons, h v List.mem_cons_self index,
      ih hrest (index + 1)]

theorem mapperRules_of_agreeOn {fields : Fields} {spec : Value}
    (hmapper : Keyed.get? RuleKey.mapper.name fields = some spec)
    (h : AgreeOn left right (.object fields))
    (hitems : ∀ items, spec = .array items →
      compileElements left 0 items = compileElements right 0 items) (index : Nat) :
    mapperRules left index spec = mapperRules right index spec := by
  cases spec with
  | array items =>
    show (compileElements left 0 items).andThen noteCompiled =
      (compileElements right 0 items).andThen noteCompiled
    rw [hitems items rfl]
  | string name =>
    show Traced.lift ((left.mapper name).map Mapper.rules) =
      Traced.lift ((right.mapper name).map Mapper.rules)
    rw [h.mappers name (.here hmapper)]
  | _ => rfl

theorem transformObject_of_agreeOn {fields : Fields}
    (hmapper : Keyed.get? RuleKey.mapper.name fields = none)
    (h : AgreeOn left right (.object fields)) (index : Nat) (p : SourcePath) (dest : String) :
    transformObject left index p dest fields = transformObject right index p dest fields := by
  unfold transformObject
  cases htransform : Keyed.get? RuleKey.transform.name fields with
  | none => rfl
  | some v =>
    cases v with
    | string name =>
      show callNamed left p dest name = callNamed right p dest name
      rw [callNamed, callNamed, h.transforms name (.here hmapper htransform)]
    | _ => rfl

/-- **An element compiles alike over registries that agree on it,** to the same rule or the same
error and with the same notes. -/
theorem compileElement_of_agreeOn {v : Value} (h : AgreeOn left right v) (index : Nat) :
    compileElement left index v = compileElement right index v := by
  induction v using element_induction generalizing index with
  | step v ih =>
  cases v with
  | object fields =>
    rw [compileElement_object, compileElement_object]
    cases hmapper : Keyed.get? RuleKey.mapper.name fields with
    | none =>
      have hcall := transformObject_of_agreeOn hmapper h index
      simp only [Option.map_none, ruleObject, hcall]
    | some spec =>
      have hrules : mapperRules left index spec = mapperRules right index spec := by
        refine mapperRules_of_agreeOn hmapper h (fun items hspec => ?_) index
        subst hspec
        exact compileElements_of_elements
          (fun w hw => ih fields items rfl hmapper w hw (h.nested hmapper hw)) 0
      -- With a mapper the transform of the object is not looked at.
      simp only [Option.map_some, ruleObject, hrules]
  | _ => rfl

theorem agreeOn_of_bindTransform {registry : Registry} {v : Value} {name : String}
    (f : Transform) (h : ¬ NamesTransform v name) :
    AgreeOn (registry.bindTransform name f) registry v where
  transforms other hother := by
    have hne : other ≠ name := by
      rintro rfl
      exact h hother
    exact Registry.transform_bindTransform_of_ne hne f
  mappers _ _ := rfl

theorem agreeOn_of_bindMapper {registry : Registry} {v : Value} {name : String}
    (m : Mapper) (h : ¬ NamesMapper v name) :
    AgreeOn (registry.bindMapper name m) registry v where
  transforms _ _ := rfl
  mappers other hother := by
    have hne : other ≠ name := by
      rintro rfl
      exact h hother
    exact Registry.mapper_bindMapper_of_ne hne m

/-- A specification compiles alike over registries that agree on its elements. -/
theorem compileJson_of_agreeOn {spec : Value}
    (h : ∀ items, spec = .array items → ∀ v ∈ items, AgreeOn left right v) :
    compileJson left spec = compileJson right spec := by
  cases spec with
  | array items =>
    have hitems : compileElements left 0 items = compileElements right 0 items :=
      compileElements_of_elements (fun v hv => compileElement_of_agreeOn (h items rfl v hv)) 0
    rw [compileJson, compileJson, hitems]
  | _ => rfl

end

/-- **Only the names that are used matter.**  A specification compiles alike, to the same rules or
the same error and with the same notes, over registries that have the same answer to every name by
which it calls a transform or a mapper.  So it makes no difference to bind another name; and a rule
object with a mapper compiles alike whatever is bound to the name of its own transform, unless the
specification nested in it calls a transform by this name. -/
theorem compile_by_used_names :
    (∀ left right spec,
      (∀ name, CallsTransform spec name → left.transform name = right.transform name) →
      (∀ name, CallsMapper spec name → left.mapper name = right.mapper name) →
      compileJson left spec = compileJson right spec) ∧
    (∀ registry spec name f, ¬ CallsTransform spec name →
      compileJson (registry.bindTransform name f) spec = compileJson registry spec) ∧
    (∀ registry spec name m, ¬ CallsMapper spec name →
      compileJson (registry.bindMapper name m) spec = compileJson registry spec) ∧
    ∀ registry fields v name f, Keyed.get? RuleKey.mapper.name fields = some v →
      ¬ CallsTransform v name → ∀ index,
        compileElement (registry.bindTransform name f) index (.object fields) =
          compileElement registry index (.object fields) := by
  refine ⟨?_, ?_, ?_, ?_⟩
  · intro left right spec htransform hmapper
    refine compileJson_of_agreeOn fun items hspec v hv => ⟨?_, ?_⟩
    · intro name hname
      exact htransform name ⟨items, hspec, v, hv, hname⟩
    · intro name hname
      exact hmapper name ⟨items, hspec, v, hv, hname⟩
  · intro registry spec name f hname
    refine compileJson_of_agreeOn fun items hspec v hv => agreeOn_of_bindTransform f ?_
    intro hv'
    exact hname ⟨items, hspec, v, hv, hv'⟩
  · intro registry spec name m hname
    refine compileJson_of_agreeOn fun items hspec v hv => agreeOn_of_bindMapper m ?_
    intro hv'
    exact hname ⟨items, hspec, v, hv, hv'⟩
  · intro registry fields v name f hmapper hname index
    refine compileElement_of_agreeOn (agreeOn_of_bindTransform f ?_) index
    intro hobject
    exact hname (callsTransform_of_mapper hmapper hobject)

/-- The fields of a rule object with a mapper, and with the name of a transform beside it. -/
def shadowedFields : Fields :=
  [("customTransform", .string "total"), ("dstName", .string "lines"),
    ("mapper", .array [.object [("customTransform", .string "to_number"),
        ("dstName", .string "quantity"), ("srcName", .string "count")],
      .object [("dstName", .string "product"), ("mapper", .string "product"),
        ("srcName", .string "item")]]),
    ("srcName", .string "items")]

/-- The built-in transforms, and a mapper. -/
def productRegistry : Registry := Registry.builtIns.bindMapper "product" ⟨[.copy (pathOf "sku")]⟩

/-- One of the built-in transforms under its name, another one under a name of its own, and the
mapper. -/
def totalRegistry : Registry :=
  ((Registry.empty.bindTransform "to_number" BuiltIn.toNumber.transform).bindTransform "total"
    BuiltIn.trim.transform).bindMapper "product" ⟨[.copy (pathOf "sku")]⟩

theorem eq_of_callsTransform_shadowed {name : String}
    (h : CallsTransform (.array [.object shadowedFields]) name) : name = "to_number" := by
  obtain ⟨_, hitems, v, hv, hname⟩ := h
  cases hitems
  cases List.mem_singleton.1 hv
  obtain ⟨_, hinner, w, hw, hwname⟩ := callsTransform_of_mapper rfl hname
  cases hinner
  rcases List.mem_pair.1 hw with rfl | rfl
  · cases hwname with
    | here _ htransform =>
      cases htransform
      rfl
    | nested hmapper => cases hmapper
  · cases hwname with
    | here hmapper => cases hmapper
    | nested hmapper => cases hmapper

theorem eq_of_callsMapper_shadowed {name : String}
    (h : CallsMapper (.array [.object shadowedFields]) name) : name = "product" := by
  obtain ⟨_, hitems, v, hv, hname⟩ := h
  cases hitems
  cases List.mem_singleton.1 hv
  cases hname with
  | here hmapper => cases hmapper
  | nested hmapper hw hwname =>
    cases hmapper
    rcases List.mem_pair.1 hw with rfl | rfl
    · cases hwname with
      | here hinner => cases hinner
      | nested hinner => cases hinner
    · cases hwname with
      | here hinner =>
        cases hinner
        rfl
      | nested hinner => cases hinner

/-- The specification compiles, and alike over both registries, though the name of the outer
transform is bound in one of them only. -/
theorem compile_by_used_names_shadowed :
    (∃ rules, (compileJson productRegistry (.array [.object shadowedFields])).result = .ok rules) ∧
    compileJson productRegistry (.array [.object shadowedFields]) =
      compileJson totalRegistry (.array [.object shadowedFields]) ∧
    compileJson (productRegistry.bindTransform "total" BuiltIn.trim.transform)
        (.array [.object shadowedFields]) =
      compileJson productRegistry (.array [.object shadowedFields]) ∧
    compileJson (productRegistry.bindMapper "to_number" .empty)
        (.array [.object shadowedFields]) =
      compileJson productRegistry (.array [.object shadowedFields]) ∧
    compileElement (productRegistry.bindTransform "total" BuiltIn.trim.transform) 0
        (.object shadowedFields) =
      compileElement productRegistry 0 (.object shadowedFields) := by
  have htotal : ¬ CallsTransform (.array [.object shadowedFields]) "total" := by
    intro h
    exact absurd (eq_of_callsTransform_shadowed h) (by decide)
  obtain ⟨hagree, htransform, hmapper, hshadow⟩ := compile_by_used_names
  refine ⟨⟨_, rfl⟩, hagree _ _ _ ?_ ?_, htransform _ _ _ _ htotal, hmapper _ _ _ _ ?_,
    hshadow _ _ _ _ _ rfl ?_ 0⟩
  · intro name hname
    rw [eq_of_callsTransform_shadowed hname]
    rfl
  · intro name hname
    rw [eq_of_callsMapper_shadowed hname]
    rfl
  · intro h
    exact absurd (eq_of_callsMapper_shadowed h) (by decide)
  · rintro ⟨items, hitems, w, hw, hname⟩
    exact htotal ⟨_, rfl, _, List.mem_singleton_self _, .nested (congrArg some hitems) hw hname⟩

end Reshape
