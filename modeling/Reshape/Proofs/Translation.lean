import Reshape.Compile
import Reshape.Proofs.Keyed
import Reshape.Proofs.Outcome
import Reshape.Proofs.Path
import Mathlib.Data.List.Forall2

/-!
# What compiles to what

Compiling relates the elements of a specification to rules.  The relation is given by the form of
the elements alone, without indices, notes and errors:

* **`RuleObject`** — objects with the fields of a rule;
* **`ElementRule`** — an element and the rule that it stands for;
* **`element_induction`** — induction on elements through the specifications nested in them.

The main statement is **`compileElement_ok`**: an element compiles to a rule, under whatever index,
exactly when it stands for the rule.  It is assembled from one equivalence for each part of the
compiler; later files use these and do not open the compiler again.  **`compileElements_append`**
says how a list compiles that is put together from two.
-/

namespace Reshape

open Json

/-! ### The relation -/

/-- An object with the fields of a rule: no key but the known ones, a source that is a path, and a
destination that is not empty. -/
structure RuleObject (fields : Fields) (raw dest : String) : Prop where
  known : ∀ key ∈ Keyed.keys fields, key ∈ ruleKeys
  source : Keyed.get? RuleKey.source.name fields = some (.string raw)
  path : IsPath raw
  destination : Keyed.get? RuleKey.destination.name fields = some (.string dest)
  dest_ne : dest ≠ ""

/-- The element stands for the rule. -/
inductive ElementRule (registry : Registry) : Value → Rule → Prop
  | copy {raw : String} :
      IsPath raw → ElementRule registry (.string raw) (.copy (pathOf raw))
  | relabel {raw dest : String} :
      raw ∉ ruleKeys → IsPath raw → dest ≠ "" →
      ElementRule registry (.object [(raw, .string dest)]) (.relabel (pathOf raw) dest)
  | nested {fields : Fields} {raw dest : String} {items : List Value} {rules : List Rule} :
      RuleObject fields raw dest →
      Keyed.get? RuleKey.mapper.name fields = some (.array items) →
      List.Forall₂ (ElementRule registry) items rules →
      ElementRule registry (.object fields) (.nest (pathOf raw) dest rules)
  | named {fields : Fields} {raw dest name : String} {m : Mapper} :
      RuleObject fields raw dest →
      Keyed.get? RuleKey.mapper.name fields = some (.string name) →
      registry.mapper name = .ok m →
      ElementRule registry (.object fields) (.nest (pathOf raw) dest m.rules)
  | call {fields : Fields} {raw dest name : String} {f : Transform} :
      RuleObject fields raw dest →
      Keyed.get? RuleKey.mapper.name fields = none →
      Keyed.get? RuleKey.transform.name fields = some (.string name) →
      registry.transform name = .ok f →
      ElementRule registry (.object fields) (.call (pathOf raw) dest (some name) f)

/-- **Induction on elements.**  What holds of an element whenever it holds of the elements of its
nested specification holds of every element. -/
theorem element_induction {motive : Value → Prop}
    (step : ∀ v, (∀ fields items, v = .object fields →
      Keyed.get? RuleKey.mapper.name fields = some (.array items) →
      ∀ w ∈ items, motive w) → motive v) (v : Value) : motive v := by
  refine step v ?_
  intro fields items hv hmapper w hw
  have hentry : (RuleKey.mapper.name, Value.array items) ∈ fields := Keyed.mem_of_get? hmapper
  have h₁ := List.sizeOf_lt_of_mem hw
  have h₂ := List.sizeOf_lt_of_mem hentry
  have hsize : sizeOf w < sizeOf v := by
    subst hv
    simp only [Value.object.sizeOf_spec, Prod.mk.sizeOf_spec, Value.array.sizeOf_spec] at h₂ ⊢
    omega
  exact element_induction step w
termination_by sizeOf v

/-! ### Lists that correspond -/

section

variable {α β : Type} {R : α → β → Prop}

/-- Items all have partners exactly when the list has a list of partners. -/
theorem exists_forall₂_iff {xs : List α} :
    (∃ ys, List.Forall₂ R xs ys) ↔ ∀ x ∈ xs, ∃ y, R x y := by
  induction xs with
  | nil => simp
  | cons x xs ih =>
    rw [List.forall_mem_cons, ← ih]
    constructor
    · rintro ⟨zs, h⟩
      obtain ⟨y, ys, hy, hys, -⟩ := List.forall₂_cons_left_iff.1 h
      exact ⟨⟨y, hy⟩, ys, hys⟩
    · rintro ⟨⟨y, hy⟩, ys, hys⟩
      exact ⟨y :: ys, .cons hy hys⟩

theorem exists_of_mem_right {xs : List α} {ys : List β} (h : List.Forall₂ R xs ys) {y : β}
    (hy : y ∈ ys) : ∃ x ∈ xs, R x y := by
  induction h with
  | nil => cases hy
  | cons hab _ ih =>
    rcases List.mem_cons.1 hy with rfl | hy
    · exact ⟨_, List.mem_cons_self, hab⟩
    · obtain ⟨x, hx, hxy⟩ := ih hy
      exact ⟨x, List.mem_cons_of_mem _ hx, hxy⟩

end

/-! ### Parts of a rule -/

theorem pathAt_ok {index : Nat} {raw : String} {p : SourcePath} :
    pathAt index raw = .ok p ↔ IsPath raw ∧ p = pathOf raw := by
  rw [← SourcePath.parse_ok, pathAt]
  cases SourcePath.parse raw with
  | ok q => simp
  | error fault => simp [refuse]

theorem nonEmpty_ok {index : Nat} {fault : RuleFault} {name dest : String} :
    nonEmpty index fault name = .ok dest ↔ name ≠ "" ∧ dest = name := by
  unfold nonEmpty
  by_cases h : name = ""
  · simp [h, refuse]
  · simp [h, eq_comm]

theorem nameAt_ok {index : Nat} {key : RuleKey} {fields : Fields} {s : String} :
    nameAt index key fields = .ok s ↔ Keyed.get? key.name fields = some (.string s) := by
  unfold nameAt
  cases Keyed.get? key.name fields with
  | none => simp [refuse]
  | some v => cases v <;> simp [refuse]

theorem relabelAt_ok {index : Nat} {raw name : String} {rule : Rule} :
    relabelAt index raw name = .ok rule ↔
      IsPath raw ∧ name ≠ "" ∧ rule = .relabel (pathOf raw) name := by
  show ((pathAt index raw).bind fun p => (nonEmpty index .emptyTarget name).bind fun d =>
    .ok (.relabel p d)) = .ok rule ↔ _
  simp only [bind_eq_ok, pathAt_ok, nonEmpty_ok]
  constructor
  · rintro ⟨p, ⟨hraw, rfl⟩, d, ⟨hname, rfl⟩, hrule⟩
    cases hrule
    exact ⟨hraw, hname, rfl⟩
  · rintro ⟨hraw, hname, rfl⟩
    exact ⟨_, ⟨hraw, rfl⟩, _, ⟨hname, rfl⟩, rfl⟩

theorem relabelObject_ok {index : Nat} {fields : Fields} {rule : Rule} :
    relabelObject index fields = .ok rule ↔
      ∃ raw dest, fields = [(raw, .string dest)] ∧ IsPath raw ∧ dest ≠ "" ∧
        rule = .relabel (pathOf raw) dest := by
  constructor
  · intro h
    match fields with
    | [] => cases h
    | [(raw, v)] =>
      cases v with
      | string dest => exact ⟨raw, dest, rfl, relabelAt_ok.1 h⟩
      | _ => cases h
    | _ :: _ :: _ => simp [relabelObject, refuse] at h
  · rintro ⟨raw, dest, rfl, h⟩
    exact relabelAt_ok.2 h

theorem unexpectedKey?_eq_none {fields : Fields} :
    unexpectedKey? fields = none ↔ ∀ key ∈ Keyed.keys fields, key ∈ ruleKeys := by
  unfold unexpectedKey?
  rw [List.find?_eq_none]
  simp

theorem ruleHead_ok {index : Nat} {fields : Fields} {head : SourcePath × String} :
    ruleHead index fields = .ok head ↔
      ∃ raw dest, RuleObject fields raw dest ∧ head = (pathOf raw, dest) := by
  unfold ruleHead
  cases hkey : unexpectedKey? fields with
  | some key =>
    constructor
    · intro h
      cases h
    · rintro ⟨raw, dest, hobject, -⟩
      rw [unexpectedKey?_eq_none.2 hobject.known] at hkey
      cases hkey
  | none =>
    show ((nameAt index .source fields).bind fun raw => (pathAt index raw).bind fun p =>
      (nameAt index .destination fields).bind fun dest =>
        (nonEmpty index .emptyDestination dest).bind fun d => .ok (p, d)) = .ok head ↔ _
    simp only [bind_eq_ok, nameAt_ok, pathAt_ok, nonEmpty_ok]
    constructor
    · rintro ⟨raw, hsource, p, ⟨hpath, rfl⟩, dest, hdest, d, ⟨hne, rfl⟩, hhead⟩
      cases hhead
      exact ⟨raw, d, ⟨unexpectedKey?_eq_none.1 hkey, hsource, hpath, hdest, hne⟩, rfl⟩
    · rintro ⟨raw, dest, hobject, rfl⟩
      exact ⟨raw, hobject.source, _, ⟨hobject.path, rfl⟩, dest, hobject.destination, _,
        ⟨hobject.dest_ne, rfl⟩, rfl⟩

theorem transformObject_ok {registry : Registry} {index : Nat} {p : SourcePath} {dest : String}
    {fields : Fields} {rule : Rule} :
    transformObject registry index p dest fields = .ok rule ↔
      ∃ name f, Keyed.get? RuleKey.transform.name fields = some (.string name) ∧
        registry.transform name = .ok f ∧ rule = .call p dest (some name) f := by
  unfold transformObject
  cases hget : Keyed.get? RuleKey.transform.name fields with
  | none => simp [refuse]
  | some v =>
    cases v with
    | string name =>
      show ((registry.transform name).bind fun f => .ok (.call p dest (some name) f)) = .ok rule ↔ _
      rw [bind_eq_ok]
      constructor
      · rintro ⟨f, hf, hrule⟩
        cases hrule
        exact ⟨name, f, rfl, hf, rfl⟩
      · rintro ⟨other, f, hname, hf, rfl⟩
        cases hname
        exact ⟨f, hf, rfl⟩
    | _ => simp [refuse]

/-! ### Nested specifications -/

/-- The rules that the mapper of a rule object stands for. -/
def mapperRules (registry : Registry) (index : Nat) : Value → Traced (List Rule)
  | .array items => (compileElements registry 0 items).andThen noteCompiled
  | .string name => Traced.lift ((registry.mapper name).map Mapper.rules)
  | v => .fail (.configuration index (.mapperKind v.kind))

/-- The nested rules of an object are those of what is under its mapper key. -/
theorem nestedRules_eq (registry : Registry) (index : Nat) (fields : Fields) :
    nestedRules registry index fields =
      (Keyed.get? RuleKey.mapper.name fields).map (mapperRules registry index) := by
  induction fields with
  | nil => simp [nestedRules]
  | cons entry rest ih =>
    rcases entry with ⟨key, v⟩
    rw [Keyed.get?_cons]
    by_cases hkey : key = RuleKey.mapper.name
    · rw [if_pos hkey]
      cases v <;> simp [nestedRules, mapperRules, hkey]
    · rw [if_neg hkey, ← ih]
      cases v <;> simp [nestedRules, hkey]

theorem noteCompiled_result (rules : List Rule) : (noteCompiled rules).result = .ok rules := by
  rw [noteCompiled, Traced.result_note_andThen]
  rfl

/-- Noting that a list is compiled changes nothing of its rules. -/
theorem andThen_noteCompiled_result (t : Traced (List Rule)) :
    (t.andThen noteCompiled).result = t.result := by
  rw [Traced.result_andThen]
  simp only [noteCompiled_result]
  cases t.result with
  | error e => rfl
  | ok rules => rfl

theorem mapperRules_array_result (registry : Registry) (index : Nat) (items : List Value) :
    (mapperRules registry index (.array items)).result =
      (compileElements registry 0 items).result :=
  andThen_noteCompiled_result _

theorem mapperRules_ok {registry : Registry} {index : Nat} {spec : Value} {rules : List Rule} :
    (mapperRules registry index spec).result = .ok rules ↔
      (∃ items, spec = .array items ∧ (compileElements registry 0 items).result = .ok rules) ∨
        ∃ name m, spec = .string name ∧ registry.mapper name = .ok m ∧ rules = m.rules := by
  cases spec with
  | array items => simp [mapperRules_array_result]
  | string name =>
    show (registry.mapper name).map Mapper.rules = .ok rules ↔ _
    rw [map_eq_ok]
    simp [eq_comm]
  | _ => simp [mapperRules]

theorem ruleObject_ok {registry : Registry} {index : Nat} {fields : Fields}
    {nested : Option (Traced (List Rule))} {rule : Rule} :
    (ruleObject registry index fields nested).result = .ok rule ↔
      ∃ raw dest, RuleObject fields raw dest ∧
        ((∃ t rules, nested = some t ∧ t.result = .ok rules ∧
            rule = .nest (pathOf raw) dest rules) ∨
          (nested = none ∧
            transformObject registry index (pathOf raw) dest fields = .ok rule)) := by
  unfold ruleObject
  rw [Traced.result_lift_andThen, bind_eq_ok]
  simp only [ruleHead_ok]
  constructor
  · rintro ⟨head, ⟨raw, dest, hobject, rfl⟩, h⟩
    refine ⟨raw, dest, hobject, ?_⟩
    cases nested with
    | none => exact .inr ⟨rfl, h⟩
    | some t =>
      rw [Traced.andThen_result_ok] at h
      obtain ⟨rules, ht, hrule⟩ := h
      cases hrule
      exact .inl ⟨t, rules, rfl, ht, rfl⟩
  · rintro ⟨raw, dest, hobject, ⟨t, rules, rfl, ht, rfl⟩ | ⟨rfl, h⟩⟩
    · exact ⟨_, ⟨raw, dest, hobject, rfl⟩, Traced.andThen_result_ok.2 ⟨rules, ht, rfl⟩⟩
    · exact ⟨_, ⟨raw, dest, hobject, rfl⟩, h⟩

/-! ### Elements -/

theorem isRuleObject_iff {fields : Fields} :
    isRuleObject fields = true ↔ ∃ key ∈ Keyed.keys fields, key ∈ ruleKeys := by
  simp [isRuleObject]

theorem RuleObject.isRuleObject {fields : Fields} {raw dest : String}
    (h : RuleObject fields raw dest) : isRuleObject fields = true := by
  refine isRuleObject_iff.2 ⟨RuleKey.source.name, Keyed.mem_keys_of_get? h.source, ?_⟩
  decide

theorem compileElement_string (registry : Registry) (index : Nat) (raw : String) :
    (compileElement registry index (.string raw)).result = (pathAt index raw).map .copy := by
  rw [compileElement, Traced.lift_result]

theorem compileElement_object (registry : Registry) (index : Nat) (fields : Fields) :
    compileElement registry index (.object fields) =
      if isRuleObject fields then
        ruleObject registry index fields
          ((Keyed.get? RuleKey.mapper.name fields).map (mapperRules registry index))
      else Traced.lift (relabelObject index fields) := by
  rw [compileElement, nestedRules_eq]

/-- The rule of a rule object has the rules of its mapper, or else it calls its transform; neither
is looked at before source and destination are in order. -/
theorem compileElement_of_isRuleObject {registry : Registry} {fields : Fields}
    (h : isRuleObject fields = true) (index : Nat) :
    (compileElement registry index (.object fields)).result =
      (ruleHead index fields).bind fun head =>
        match Keyed.get? RuleKey.mapper.name fields with
        | some v => (mapperRules registry index v).result.map fun rules => .nest head.1 head.2 rules
        | none => transformObject registry index head.1 head.2 fields := by
  rw [compileElement_object, if_pos h, ruleObject, Traced.result_lift_andThen]
  cases Keyed.get? RuleKey.mapper.name fields with
  | none => rfl
  | some v =>
    simp only [Option.map_some, Traced.result_andThen_ok]

theorem compileElements_cons (registry : Registry) (index : Nat) (v : Value) (rest : List Value) :
    compileElements registry index (v :: rest) =
      (compileElement registry index v).andThen fun rule =>
        (compileElements registry (index + 1) rest).andThen fun rules => .ok (rule :: rules) := by
  rw [compileElements]

/-- **Lists compile one part after the other,** with the indices of the second part going on from
those of the first. -/
theorem compileElements_append (registry : Registry) (index : Nat) (first second : List Value) :
    compileElements registry index (first ++ second) =
      (compileElements registry index first).andThen fun rules =>
        (compileElements registry (index + first.length) second).andThen fun more =>
          .ok (rules ++ more) := by
  induction first generalizing index with
  | nil =>
    have hnil : compileElements registry index [] = .ok [] := by rw [compileElements]
    rw [hnil, Traced.ok_andThen]
    exact (Traced.andThen_ok _).symm
  | cons v rest ih =>
    have hindex : index + (v :: rest).length = index + 1 + rest.length := by
      rw [List.length_cons]
      omega
    rw [List.cons_append, compileElements_cons, compileElements_cons, ih (index + 1), hindex,
      Traced.andThen_assoc]
    simp only [Traced.andThen_assoc, Traced.ok_andThen, List.cons_append]

/-- A list compiles element by element. -/
theorem compileElements_ok_of_elements {registry : Registry} {items : List Value}
    (h : ∀ v ∈ items, ∀ index rule, (compileElement registry index v).result = .ok rule ↔
      ElementRule registry v rule) {index : Nat} {rules : List Rule} :
    (compileElements registry index items).result = .ok rules ↔
      List.Forall₂ (ElementRule registry) items rules := by
  induction items generalizing index rules with
  | nil =>
    rw [compileElements, List.forall₂_nil_left_iff]
    constructor
    · intro h
      cases h
      rfl
    · rintro rfl
      rfl
  | cons v rest ih =>
    rw [compileElements_cons, Traced.andThen_result_ok, List.forall₂_cons_left_iff]
    have hv := h v List.mem_cons_self index
    have hrest : ∀ more, (compileElements registry (index + 1) rest).result = .ok more ↔
        List.Forall₂ (ElementRule registry) rest more :=
      fun more => ih fun w hw => h w (List.mem_cons_of_mem v hw)
    constructor
    · rintro ⟨rule, hrule, h⟩
      obtain ⟨more, hmore, heq⟩ := Traced.andThen_result_ok.1 h
      cases heq
      exact ⟨rule, more, (hv rule).1 hrule, (hrest more).1 hmore, rfl⟩
    · rintro ⟨rule, more, hrule, hmore, rfl⟩
      exact ⟨rule, (hv rule).2 hrule,
        Traced.andThen_result_ok.2 ⟨more, (hrest more).2 hmore, rfl⟩⟩

/-- An object without the keys of a rule stands for a copy under another name. -/
theorem relabelObject_elementRule {registry : Registry} {index : Nat} {fields : Fields}
    {rule : Rule} (hobject : ¬ isRuleObject fields = true) :
    relabelObject index fields = .ok rule ↔ ElementRule registry (.object fields) rule := by
  rw [relabelObject_ok]
  constructor
  · rintro ⟨raw, dest, rfl, hraw, hdest, rfl⟩
    refine .relabel (fun hmem => hobject ?_) hraw hdest
    exact isRuleObject_iff.2 ⟨raw, List.mem_cons_self, hmem⟩
  · intro h
    cases h with
    | relabel hkey hraw hdest => exact ⟨_, _, rfl, hraw, hdest, rfl⟩
    | nested h => exact absurd h.isRuleObject hobject
    | named h => exact absurd h.isRuleObject hobject
    | call h => exact absurd h.isRuleObject hobject

/-- A rule object compiles to the rule that it stands for if its nested specification does. -/
theorem ruleObject_elementRule {registry : Registry} {index : Nat} {fields : Fields} {rule : Rule}
    (hobject : isRuleObject fields = true)
    (hitems : ∀ items, Keyed.get? RuleKey.mapper.name fields = some (.array items) →
      ∀ rules, (compileElements registry 0 items).result = .ok rules ↔
        List.Forall₂ (ElementRule registry) items rules) :
    (ruleObject registry index fields
        ((Keyed.get? RuleKey.mapper.name fields).map (mapperRules registry index))).result =
      .ok rule ↔ ElementRule registry (.object fields) rule := by
  rw [ruleObject_ok]
  constructor
  · rintro ⟨raw, dest, hrule, ⟨t, rules, ht, hrules, rfl⟩ | ⟨hnone, hcall⟩⟩
    · obtain ⟨spec, hmapper, rfl⟩ := Option.map_eq_some_iff.1 ht
      rcases mapperRules_ok.1 hrules with ⟨items, rfl, h⟩ | ⟨name, m, rfl, hm, rfl⟩
      · exact .nested hrule hmapper ((hitems items hmapper rules).1 h)
      · exact .named hrule hmapper hm
    · obtain ⟨name, f, hname, hf, rfl⟩ := transformObject_ok.1 hcall
      exact .call hrule (Option.map_eq_none_iff.1 hnone) hname hf
  · intro h
    cases h with
    | relabel hkey =>
      obtain ⟨key, hmem, hknown⟩ := isRuleObject_iff.1 hobject
      rw [List.mem_singleton.1 hmem] at hknown
      exact absurd hknown hkey
    | nested hrule hmapper h =>
      refine ⟨_, _, hrule, .inl ⟨_, _, Option.map_eq_some_iff.2 ⟨_, hmapper, rfl⟩, ?_, rfl⟩⟩
      exact mapperRules_ok.2 (.inl ⟨_, rfl, (hitems _ hmapper _).2 h⟩)
    | named hrule hmapper hm =>
      refine ⟨_, _, hrule, .inl ⟨_, _, Option.map_eq_some_iff.2 ⟨_, hmapper, rfl⟩, ?_, rfl⟩⟩
      exact mapperRules_ok.2 (.inr ⟨_, _, rfl, hm, rfl⟩)
    | call hrule hmapper hname hf =>
      refine ⟨_, _, hrule, .inr ⟨Option.map_eq_none_iff.2 hmapper, ?_⟩⟩
      exact transformObject_ok.2 ⟨_, _, hname, hf, rfl⟩

/-- **An element compiles to the rule that it stands for, and to nothing else.** -/
theorem compileElement_ok {registry : Registry} {v : Value} {index : Nat} {rule : Rule} :
    (compileElement registry index v).result = .ok rule ↔ ElementRule registry v rule := by
  -- The index is general, since it starts anew in a nested specification.
  induction v using element_induction generalizing index rule with
  | step v ih =>
  cases v with
  | string raw =>
    rw [compileElement_string, map_eq_ok]
    simp only [pathAt_ok]
    constructor
    · rintro ⟨p, ⟨hraw, rfl⟩, rfl⟩
      exact .copy hraw
    · rintro ⟨hraw⟩
      exact ⟨_, ⟨hraw, rfl⟩, rfl⟩
  | object fields =>
    rw [compileElement_object]
    by_cases hobject : isRuleObject fields = true
    · rw [if_pos hobject]
      refine ruleObject_elementRule hobject fun items hmapper rules => ?_
      exact compileElements_ok_of_elements fun w hw _ _ => ih fields items rfl hmapper w hw
    · rw [if_neg hobject]
      exact relabelObject_elementRule hobject
  | _ =>
    constructor
    · intro h
      cases h
    · intro h
      cases h

/-! ### Specifications -/

theorem compileElements_ok {registry : Registry} {items : List Value} {index : Nat}
    {rules : List Rule} :
    (compileElements registry index items).result = .ok rules ↔
      List.Forall₂ (ElementRule registry) items rules :=
  compileElements_ok_of_elements fun _ _ _ _ => compileElement_ok

/-- **A specification compiles to one rule for each element, in order.** -/
theorem compileJson_ok {registry : Registry} {spec : Value} {rules : List Rule} :
    (compileJson registry spec).result = .ok rules ↔
      ∃ items, spec = .array items ∧ List.Forall₂ (ElementRule registry) items rules := by
  cases spec with
  | array items =>
    show ((compileElements registry 0 items).andThen noteCompiled).result = .ok rules ↔ _
    rw [andThen_noteCompiled_result, compileElements_ok]
    constructor
    · intro h
      exact ⟨items, rfl, h⟩
    · rintro ⟨other, hitems, h⟩
      cases hitems
      exact h
  | _ =>
    constructor
    · intro h
      cases h
    · rintro ⟨items, hitems, -⟩
      cases hitems

/-- A specification loads as the mapper of its rules. -/
theorem ofJson_result (registry : Registry) (spec : Value) :
    (Mapper.ofJson registry spec).result = (compileJson registry spec).result.map Mapper.mk := by
  rw [Mapper.ofJson, Traced.result_andThen, ← bind_ok_eq_map]
  simp only [Traced.result_note_andThen, Traced.ok_result]

theorem ofJson_ok {registry : Registry} {spec : Value} {m : Mapper} :
    (Mapper.ofJson registry spec).result = .ok m ↔
      ∃ items, spec = .array items ∧ List.Forall₂ (ElementRule registry) items m.rules := by
  rw [ofJson_result, map_eq_ok, ← compileJson_ok]
  constructor
  · rintro ⟨rules, h, rfl⟩
    exact h
  · intro h
    exact ⟨m.rules, h, rfl⟩

end Reshape
