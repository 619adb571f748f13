import Reshape.Proofs.Registry
import Reshape.Proofs.Translation

/-!
# The grammar of specifications

A specification is a list of elements of three forms: a path, an object that gives a path another
name, and a rule object, whose mapper may be a specification again.

* **`WellFormedElement`**, **`WellFormed`** — the grammar, over the names of a registry;
* **`wellFormedElement_iff`** — the elements of the grammar are those that stand for a rule.

The main statement is **`compileJson_accepts_grammar`**: compiling succeeds on the grammar and
nowhere else, and what it gives are the rules that the elements stand for, one by one.
-/

namespace Reshape

open Json

/-- The elements of specifications over a registry. -/
inductive WellFormedElement (registry : Registry) : Value → Prop
  /-- A text that is a path. -/
  | path {raw : String} :
      IsPath raw → WellFormedElement registry (.string raw)
  /-- An object with one key, a path that is not the key of a rule, over a name. -/
  | relabel {raw dest : String} :
      raw ∉ ruleKeys → IsPath raw → dest ≠ "" →
      WellFormedElement registry (.object [(raw, .string dest)])
  /-- A rule object with a specification of its own, whatever its transform. -/
  | nested {fields : Fields} {raw dest : String} {items : List Value} :
      RuleObject fields raw dest →
      Keyed.get? RuleKey.mapper.name fields = some (.array items) →
      (∀ v ∈ items, WellFormedElement registry v) →
      WellFormedElement registry (.object fields)
  /-- A rule object with the name of a mapper, whatever its transform. -/
  | named {fields : Fields} {raw dest name : String} :
      RuleObject fields raw dest →
      Keyed.get? RuleKey.mapper.name fields = some (.string name) →
      registry.hasMapper name = true →
      WellFormedElement registry (.object fields)
  /-- A rule object without a mapper and with the name of a transform. -/
  | call {fields : Fields} {raw dest name : String} :
      RuleObject fields raw dest →
      Keyed.get? RuleKey.mapper.name fields = none →
      Keyed.get? RuleKey.transform.name fields = some (.string name) →
      registry.hasTransform name = true →
      WellFormedElement registry (.object fields)

/-- A specification is an array of elements. -/
def WellFormed (registry : Registry) (spec : Value) : Prop :=
  ∃ items, spec = .array items ∧ ∀ v ∈ items, WellFormedElement registry v

/-- **The elements of the grammar are those that stand for a rule.** -/
theorem wellFormedElement_iff {registry : Registry} {v : Value} :
    WellFormedElement registry v ↔ ∃ rule, ElementRule registry v rule := by
  induction v using element_induction with
  | step v ih =>
  constructor
  · intro h
    cases h with
    | path hraw => exact ⟨_, .copy hraw⟩
    | relabel hkey hraw hdest => exact ⟨_, .relabel hkey hraw hdest⟩
    | nested hrule hmapper hitems =>
      obtain ⟨rules, hrules⟩ := exists_forall₂_iff.2 fun w hw =>
        (ih _ _ rfl hmapper w hw).1 (hitems w hw)
      exact ⟨_, .nested hrule hmapper hrules⟩
    | named hrule hmapper hname =>
      obtain ⟨m, hm⟩ := Registry.hasMapper_iff.1 hname
      exact ⟨_, .named hrule hmapper hm⟩
    | call hrule hmapper htransform hname =>
      obtain ⟨f, hf⟩ := Registry.hasTransform_iff.1 hname
      exact ⟨_, .call hrule hmapper htransform hf⟩
  · rintro ⟨rule, h⟩
    cases h with
    | copy hraw => exact .path hraw
    | relabel hkey hraw hdest => exact .relabel hkey hraw hdest
    | nested hrule hmapper hrules =>
      refine .nested hrule hmapper fun w hw => (ih _ _ rfl hmapper w hw).2 ?_
      exact exists_forall₂_iff.1 ⟨_, hrules⟩ w hw
    | named hrule hmapper hm => exact .named hrule hmapper (Registry.hasMapper_iff.2 ⟨_, hm⟩)
    | call hrule hmapper htransform hf =>
      exact .call hrule hmapper htransform (Registry.hasTransform_iff.2 ⟨_, hf⟩)

theorem exists_compileElements_ok_iff {registry : Registry} {index : Nat} {items : List Value} :
    (∃ rules, (compileElements registry index items).result = .ok rules) ↔
      ∀ v ∈ items, WellFormedElement registry v := by
  simp only [compileElements_ok, exists_forall₂_iff, wellFormedElement_iff]

/-- **The compiler accepts its grammar.**  A value compiles exactly when it is a well-formed
specification over the registry, and it compiles to the list of rules that its elements stand for,
one to an element and in their order. -/
theorem compileJson_accepts_grammar (registry : Registry) (spec : Value) :
    ((∃ rules, (compileJson registry spec).result = .ok rules) ↔ WellFormed registry spec) ∧
      ∀ rules, (compileJson registry spec).result = .ok rules ↔
        ∃ items, spec = .array items ∧ List.Forall₂ (ElementRule registry) items rules := by
  refine ⟨?_, fun rules => compileJson_ok⟩
  unfold WellFormed
  constructor
  · rintro ⟨rules, h⟩
    obtain ⟨items, hspec, hrules⟩ := compileJson_ok.1 h
    refine ⟨items, hspec, fun v hv => wellFormedElement_iff.2 ?_⟩
    exact exists_forall₂_iff.1 ⟨rules, hrules⟩ v hv
  · rintro ⟨items, hspec, hitems⟩
    obtain ⟨rules, hrules⟩ := exists_forall₂_iff.2 fun v hv => wellFormedElement_iff.1 (hitems v hv)
    exact ⟨rules, compileJson_ok.2 ⟨items, hspec, hrules⟩⟩

end Reshape
