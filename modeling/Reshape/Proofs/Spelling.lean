import Reshape.Proofs.Translation

/-!
# Ways to write a specification

An element can be put together as a descriptor or written as JSON, and the mapper of a rule object
can be nested or named.  All these ways compile to the same rules, or to the same error:

* **`ruleFields`** — the object that a rule descriptor is written as;
* **`WrittenAs`** — descriptors, and what they are written as;
* **`Respelled`** — elements that differ in how their mappers are given, at any depth;
* **`Restates`** — the ways in which an element of a list is replaced.

Lists compile alike if their elements do (**`compileDescriptors_congr`**), so there is one lemma for
each way to write an element: **`compileElement_writtenAs`** and **`compileElement_respelled`**.
The main statement is **`compile_restated`**.
-/

namespace Reshape

open Json

/-! ### What is written -/

/-- The fields of a rule descriptor without a closure, whose mapper is given by a value. -/
def ruleFields (r : RuleDescriptor) (mapper : Option Value) : Fields :=
  (r.transformName.map fun name => (RuleKey.transform.name, Value.string name)).toList ++
    (RuleKey.destination.name, .string r.dest) ::
    (mapper.map fun v => (RuleKey.mapper.name, v)).toList ++
    [(RuleKey.source.name, .string r.source)]

/-- The value stands for the mapper where one is expected: as a name that the registry binds to it,
or as a specification that is loaded as it. -/
inductive MapperWrittenAs (registry : Registry) (m : Mapper) : Value → Prop
  | name {name : String} : registry.mapper name = .ok m → MapperWrittenAs registry m (.string name)
  | spec {items : List Value} : (Mapper.ofJson registry (.array items)).result = .ok m →
      MapperWrittenAs registry m (.array items)

/-- The descriptor is written as the value. -/
inductive WrittenAs (registry : Registry) : Descriptor → Value → Prop
  | field {name : String} : WrittenAs registry (.field name) (.string name)
  | relabel {source dest : String} : source ∉ ruleKeys →
      WrittenAs registry (.relabel source dest) (.object [(source, .string dest)])
  | rule {r : RuleDescriptor} : r.closure = none → r.mapper = none →
      WrittenAs registry (.rule r) (.object (ruleFields r none))
  | nest {r : RuleDescriptor} {m : Mapper} {v : Value} : r.closure = none → r.mapper = some m →
      MapperWrittenAs registry m v →
      WrittenAs registry (.rule r) (.object (ruleFields r (some v)))

/-- The elements are the same but for the mappers of rule objects: one that is named may be nested
in the other element, and one that is nested may be named or respelled itself. -/
inductive Respelled (registry : Registry) : Value → Value → Prop
  | same {v : Value} : Respelled registry v v
  | mapper {fields : Fields} {m : Mapper} {v w : Value} :
      Keyed.get? RuleKey.mapper.name fields = some v → MapperWrittenAs registry m v →
      MapperWrittenAs registry m w →
      Respelled registry (.object fields) (.object (Keyed.set RuleKey.mapper.name w fields))
  | nested {fields : Fields} {items others : List Value} :
      Keyed.get? RuleKey.mapper.name fields = some (.array items) →
      List.Forall₂ (Respelled registry) items others →
      Respelled registry (.object fields)
        (.object (Keyed.set RuleKey.mapper.name (.array others) fields))

/-- The element is the other one, or the other one is what it is written as or respelled to. -/
inductive Restates (registry : Registry) : Descriptor → Descriptor → Prop
  | same {d : Descriptor} : Restates registry d d
  | written {d : Descriptor} {v : Value} : WrittenAs registry d v → Restates registry d (.json v)
  | respelled {v w : Value} : Respelled registry v w → Restates registry (.json v) (.json w)

/-! ### Lists -/

section

variable {registry : Registry}

/-- Lists of elements that compile alike compile alike. -/
theorem compileDescriptors_congr {ds es : List Descriptor}
    (h : List.Forall₂ (fun d e => ∀ index, (compileDescriptor registry index d).result =
      (compileDescriptor registry index e).result) ds es) (index : Nat) :
    (compileDescriptors registry index ds).result =
      (compileDescriptors registry index es).result := by
  induction h generalizing index with
  | nil => rfl
  | cons hde _ ih =>
    simp only [compileDescriptors, Traced.result_andThen, hde index, ih (index + 1)]

theorem compileElements_congr {items others : List Value}
    (h : List.Forall₂ (fun v w => ∀ index, (compileElement registry index v).result =
      (compileElement registry index w).result) items others) (index : Nat) :
    (compileElements registry index items).result =
      (compileElements registry index others).result := by
  rw [← compileDescriptors_json, ← compileDescriptors_json]
  refine compileDescriptors_congr ?_ index
  rw [List.forall₂_map_left_iff, List.forall₂_map_right_iff]
  exact h

/-! ### Mappers -/

/-- What stands for a mapper has its rules. -/
theorem MapperWrittenAs.rules {m : Mapper} {v : Value} (h : MapperWrittenAs registry m v)
    (index : Nat) : (mapperRules registry index v).result = .ok m.rules := by
  cases h with
  | name hname =>
    show (registry.mapper _).map Mapper.rules = _
    rw [hname]
    rfl
  | spec hspec =>
    rw [mapperRules_array_result, compileElements_ok]
    obtain ⟨items, heq, hrules⟩ := ofJson_ok.1 hspec
    cases heq
    exact hrules

/-! ### Rule descriptors -/

/-- What is written of a rule descriptor are its fields. -/
theorem get?_ruleFields (r : RuleDescriptor) (mapper : Option Value) :
    Keyed.get? RuleKey.source.name (ruleFields r mapper) = some (.string r.source) ∧
      Keyed.get? RuleKey.destination.name (ruleFields r mapper) = some (.string r.dest) ∧
      Keyed.get? RuleKey.transform.name (ruleFields r mapper) = r.transformName.map .string ∧
      Keyed.get? RuleKey.mapper.name (ruleFields r mapper) = mapper := by
  unfold ruleFields
  cases r.transformName with
  | none => cases mapper <;> exact ⟨rfl, rfl, rfl, rfl⟩
  | some name => cases mapper <;> exact ⟨rfl, rfl, rfl, rfl⟩

theorem keys_ruleFields (r : RuleDescriptor) (mapper : Option Value) :
    (Keyed.keys (ruleFields r mapper)).Sublist
      ["customTransform", "dstName", "mapper", "srcName"] := by
  unfold ruleFields
  cases r.transformName with
  | none => cases mapper <;> exact List.isSublist_iff_sublist.1 rfl
  | some name => cases mapper <;> exact List.isSublist_iff_sublist.1 rfl

theorem unexpectedKey?_ruleFields (r : RuleDescriptor) (mapper : Option Value) :
    unexpectedKey? (ruleFields r mapper) = none := by
  have hknown : ∀ key ∈ ["customTransform", "dstName", "mapper", "srcName"], key ∈ ruleKeys := by
    decide
  rw [unexpectedKey?_eq_none]
  exact fun key hkey => hknown key ((keys_ruleFields r mapper).subset hkey)

theorem isRuleObject_ruleFields (r : RuleDescriptor) (mapper : Option Value) :
    isRuleObject (ruleFields r mapper) = true := by
  obtain ⟨hsource, -⟩ := get?_ruleFields r mapper
  exact isRuleObject_iff.2 ⟨_, Keyed.mem_keys_of_get? hsource, by decide⟩

theorem ruleHead_ruleFields (r : RuleDescriptor) (mapper : Option Value) (index : Nat) :
    ruleHead index (ruleFields r mapper) =
      (pathAt index r.source).bind fun p =>
        (nonEmpty index .emptyDestination r.dest).bind fun dest => .ok (p, dest) := by
  obtain ⟨hsource, hdest, -⟩ := get?_ruleFields r mapper
  unfold ruleHead
  rw [unexpectedKey?_ruleFields, nameAt, nameAt, hsource, hdest]
  rfl

/-- **A written rule compiles as its descriptor** if what stands for the mapper has its rules. -/
theorem compileElement_ruleFields {r : RuleDescriptor} {mapper : Option Value} (index : Nat)
    (hclosure : r.closure = none)
    (hmapper : mapper.map (fun v => (mapperRules registry index v).result) =
      r.mapper.map fun m => .ok m.rules) :
    (compileElement registry index (.object (ruleFields r mapper))).result =
      compileRule registry index r := by
  obtain ⟨-, -, htransform, hget⟩ := get?_ruleFields r mapper
  rw [compileElement_of_isRuleObject (isRuleObject_ruleFields r mapper), ruleHead_ruleFields]
  show _ = (pathAt index r.source).bind fun p => _
  cases pathAt index r.source with
  | error e => rfl
  | ok p =>
    show _ = (nonEmpty index .emptyDestination r.dest).bind fun dest => _
    cases nonEmpty index .emptyDestination r.dest with
    | error e => rfl
    | ok dest =>
      simp only [ok_bind, hget, hclosure]
      cases hm : r.mapper with
      | none =>
        rw [hm] at hmapper
        cases Option.map_eq_none_iff.1 hmapper
        show transformObject registry index p dest (ruleFields r none) = _
        unfold transformObject
        rw [htransform]
        cases r.transformName with
        | none => rfl
        | some name => rfl
      | some m =>
        rw [hm] at hmapper
        obtain ⟨v, rfl, hv⟩ := Option.map_eq_some_iff.1 hmapper
        simp only [hv]
        rfl

/-- **A descriptor compiles as what it is written as.** -/
theorem compileElement_writtenAs {d : Descriptor} {v : Value} (h : WrittenAs registry d v)
    (index : Nat) :
    (compileElement registry index v).result = (compileDescriptor registry index d).result := by
  cases h with
  | field => rw [compileElement_string, compileDescriptor, Traced.lift_result]
  | @relabel source dest hsource =>
    have hobject : ¬ isRuleObject [(source, .string dest)] = true := by
      rw [isRuleObject_iff]
      rintro ⟨key, hkey, hknown⟩
      rw [List.mem_singleton.1 hkey] at hknown
      exact hsource hknown
    rw [compileElement_object, if_neg hobject, compileDescriptor]
    rfl
  | rule hclosure hmapper =>
    refine compileElement_ruleFields index hclosure ?_
    rw [hmapper]
    rfl
  | nest hclosure hmapper hv =>
    refine compileElement_ruleFields index hclosure ?_
    rw [hmapper, Option.map_some, Option.map_some, hv.rules]

/-! ### Other mappers -/

theorem unexpectedKey?_set {key : String} (hkey : key ∈ ruleKeys) (v : Value) (fields : Fields) :
    unexpectedKey? (Keyed.set key v fields) = unexpectedKey? fields := by
  have hskip : ∀ rest : List String, (key :: rest).find? (fun k => !ruleKeys.contains k) =
      rest.find? fun k => !ruleKeys.contains k := by
    intro rest
    exact List.find?_cons_of_neg (by simpa using hkey)
  induction fields with
  | nil => exact hskip []
  | cons entry rest ih =>
    rcases entry with ⟨k, w⟩
    unfold Keyed.set
    split
    next heq =>
      subst heq
      rfl
    next =>
      split
      next => exact hskip _
      next =>
        simp only [unexpectedKey?, Keyed.keys, List.map_cons, List.find?_cons] at ih ⊢
        rw [ih]

theorem ruleHead_set_mapper (index : Nat) (v : Value) (fields : Fields) :
    ruleHead index (Keyed.set RuleKey.mapper.name v fields) = ruleHead index fields := by
  have hsource : RuleKey.source.name ≠ RuleKey.mapper.name := by decide
  have hdest : RuleKey.destination.name ≠ RuleKey.mapper.name := by decide
  unfold ruleHead nameAt
  rw [unexpectedKey?_set (by decide), Keyed.get?_set_of_ne hsource, Keyed.get?_set_of_ne hdest]

/-- **A rule object compiles alike with another mapper of the same rules.** -/
theorem compileElement_set_mapper {fields : Fields} {v w : Value} {index : Nat}
    (hv : Keyed.get? RuleKey.mapper.name fields = some v)
    (hrules : (mapperRules registry index v).result = (mapperRules registry index w).result) :
    (compileElement registry index (.object fields)).result =
      (compileElement registry index
        (.object (Keyed.set RuleKey.mapper.name w fields))).result := by
  have hw := Keyed.get?_set_self RuleKey.mapper.name w fields
  have hmapper : RuleKey.mapper.name ∈ ruleKeys := by decide
  rw [compileElement_of_isRuleObject (isRuleObject_iff.2 ⟨_, Keyed.mem_keys_of_get? hv, hmapper⟩),
    compileElement_of_isRuleObject (isRuleObject_iff.2 ⟨_, Keyed.mem_keys_of_get? hw, hmapper⟩),
    ruleHead_set_mapper, hv, hw]
  simp only [hrules]

/-- **An element compiles as what it is respelled to.** -/
theorem compileElement_respelled {v w : Value} (h : Respelled registry v w) (index : Nat) :
    (compileElement registry index v).result = (compileElement registry index w).result := by
  induction v using element_induction generalizing w index with
  | step v ih =>
  cases h with
  | same => rfl
  | mapper hget hv hw =>
    refine compileElement_set_mapper hget ?_
    rw [hv.rules, hw.rules]
  | @nested fields items others hget hitems =>
    refine compileElement_set_mapper hget ?_
    rw [mapperRules_array_result, mapperRules_array_result]
    have hboth := (List.forall₂_and_left _ _).2 ⟨ih fields items rfl hget, hitems⟩
    exact compileElements_congr (hboth.imp fun _ _ hpair => hpair.1 hpair.2) 0

theorem compileDescriptor_restates {d e : Descriptor} (h : Restates registry d e) (index : Nat) :
    (compileDescriptor registry index d).result = (compileDescriptor registry index e).result := by
  cases h with
  | same => rfl
  | written hv => exact (compileElement_writtenAs hv index).symm
  | respelled hw => exact compileElement_respelled hw index

end

/-- **Ways to write a specification agree.**  The rules of a list, and its error if it has one, stay
the same when elements of it are written as JSON, and when mappers in it are named or nested. -/
theorem compile_restated (registry : Registry) :
    (∀ ds es, List.Forall₂ (Restates registry) ds es →
      (compile registry ds).result = (compile registry es).result) ∧
    ∀ items others, List.Forall₂ (Respelled registry) items others →
      (compileJson registry (.array items)).result =
        (compileJson registry (.array others)).result := by
  refine ⟨fun ds es h => ?_, fun items others h => ?_⟩
  · unfold compile
    rw [andThen_noteCompiled_result, andThen_noteCompiled_result]
    exact compileDescriptors_congr (h.imp fun _ _ hde => compileDescriptor_restates hde) 0
  · unfold compileJson
    rw [andThen_noteCompiled_result, andThen_noteCompiled_result]
    exact compileElements_congr (h.imp fun _ _ hvw => compileElement_respelled hvw) 0

/-- The mapper of one line of an order. -/
def lineMapper : Mapper := ⟨[.copy (pathOf "sku")]⟩

/-- The built-in transforms, and the mapper of a line. -/
def lineRegistry : Registry := Registry.builtIns.bindMapper "line" lineMapper

/-- A rule for the lines of an order, whose mapper is given by a value. -/
def linesRule (mapper : Value) : Value :=
  .object [("dstName", .string "lines"), ("mapper", mapper), ("srcName", .string "items")]

/-- A specification that is put together. -/
def orderDescriptors : List Descriptor :=
  [.field "id", .relabel "buyer.name" "buyer",
    .rule ⟨"count", "quantity", none, some "to_number", none⟩,
    .rule ⟨"items", "lines", none, none, some lineMapper⟩]

/-- The same specification, written as JSON but for its first element. -/
def orderElements : List Descriptor :=
  [.field "id", .json (.object [("buyer.name", .string "buyer")]),
    .json (.object [("customTransform", .string "to_number"), ("dstName", .string "quantity"),
      ("srcName", .string "count")]),
    .json (linesRule (.string "line"))]

/-- A list that is put together compiles as it is written, and a named mapper as it is nested. -/
theorem compile_restated_order :
    (List.Forall₂ (Restates lineRegistry) orderDescriptors orderElements ∧
      (compile lineRegistry orderDescriptors).result =
        (compile lineRegistry orderElements).result) ∧
    (Respelled lineRegistry (linesRule (.string "line")) (linesRule (.array [.string "sku"])) ∧
      (compileJson lineRegistry (.array [linesRule (.string "line")])).result =
        (compileJson lineRegistry (.array [linesRule (.array [.string "sku"])])).result) ∧
    ∃ rules, (compile lineRegistry orderElements).result = .ok rules := by
  have hname : MapperWrittenAs lineRegistry lineMapper (.string "line") := .name rfl
  have hspec : MapperWrittenAs lineRegistry lineMapper (.array [.string "sku"]) := .spec rfl
  have hbuyer : WrittenAs lineRegistry (.relabel "buyer.name" "buyer")
      (.object [("buyer.name", .string "buyer")]) := .relabel (by decide)
  have hquantity : WrittenAs lineRegistry
      (.rule ⟨"count", "quantity", none, some "to_number", none⟩)
      (.object [("customTransform", .string "to_number"), ("dstName", .string "quantity"),
        ("srcName", .string "count")]) := .rule rfl rfl
  have hlines : WrittenAs lineRegistry (.rule ⟨"items", "lines", none, none, some lineMapper⟩)
      (linesRule (.string "line")) := .nest rfl rfl hname
  have horder : List.Forall₂ (Restates lineRegistry) orderDescriptors orderElements :=
    .cons .same <| .cons (.written hbuyer) <| .cons (.written hquantity) <|
      .cons (.written hlines) .nil
  have hrespelled : Respelled lineRegistry (linesRule (.string "line"))
      (linesRule (.array [.string "sku"])) := .mapper rfl hname hspec
  refine ⟨⟨horder, ?_⟩, ⟨hrespelled, ?_⟩, _, rfl⟩
  · exact (compile_restated lineRegistry).1 _ _ horder
  · exact (compile_restated lineRegistry).2 _ _ (.cons hrespelled .nil)

end Reshape
