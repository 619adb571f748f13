import Reshape.Proofs.Mapping
import Reshape.Proofs.Registry
import Reshape.Proofs.Translation

/-!
# Unmapped data do not interfere

A mapper looks at a document through the paths of its rules and in no other way.  Two documents are
alike for a mapper when its paths find the same in both:

* **`DocumentsAlike`**, **`SourcesAlike`** — documents and sources that are alike for a relation of
  sources that are not `null`;
* **`Rule.Alike`**, **`RulesAlike`**, **`Mapper.Alike`** — what a rule, the rules of a list, and a
  mapper cannot tell apart; nested rules are asked about the values at their path;
* **`Rule.Blind`** — rules whose callbacks do not see the source: there is no hook, and transforms
  depend on the value and the options alone.

Blind rules write the same for sources that are alike (**`contribution_eq_of_alike`**).  The main
statement is **`run_eq_of_alike`**: over the built-in registry, a mapper gives the same result and
the same notes for documents that are alike.
-/

namespace Reshape

open Json

/-! ### Documents that are alike -/

/-- Both sources are `null`, or neither is and they are related. -/
def SourcesAlike (related : Value → Value → Prop) (s t : Value) : Prop :=
  (s = .null ∧ t = .null) ∨ (s ≠ .null ∧ t ≠ .null ∧ related s t)

/-- Both documents are arrays whose items are alike one by one, or neither is an array and they are
alike as sources. -/
def DocumentsAlike (related : Value → Value → Prop) : Value → Value → Prop
  | .array xs, .array ys => List.Forall₂ (SourcesAlike related) xs ys
  | .array _, _ => False
  | _, .array _ => False
  | s, t => SourcesAlike related s t

mutual

/-- The path of the rule leads nowhere in both sources, or it leads to the same value in both; to
the rules of a nested mapper the two values need only be alike. -/
def Rule.Alike (rule : Rule) (s t : Value) : Prop :=
  match rule with
  | .copy p => Option.Rel Eq (p.resolve s) (p.resolve t)
  | .relabel p _ => Option.Rel Eq (p.resolve s) (p.resolve t)
  | .call p _ _ _ => Option.Rel Eq (p.resolve s) (p.resolve t)
  | .nest p _ rules =>
    Option.Rel (DocumentsAlike fun v w => RulesAlike rules v w) (p.resolve s) (p.resolve t)
  | .hook _ => True
termination_by structural rule

/-- The sources are alike for every rule of the list. -/
def RulesAlike (rules : List Rule) (s t : Value) : Prop :=
  match rules with
  | [] => True
  | rule :: rest => rule.Alike s t ∧ RulesAlike rest s t
termination_by structural rules

end

/-- The documents are alike for the mapper. -/
def Mapper.Alike (m : Mapper) (v w : Value) : Prop := DocumentsAlike (RulesAlike m.rules) v w

theorem rulesAlike_iff {rules : List Rule} {s t : Value} :
    RulesAlike rules s t ↔ ∀ rule ∈ rules, rule.Alike s t := by
  induction rules with
  | nil => simp [RulesAlike]
  | cons rule rest ih => rw [RulesAlike, ih, List.forall_mem_cons]

/-! ### Dispatching documents that are alike -/

section

variable {build : Value → Traced Fields} {related : Value → Value → Prop}

theorem dispatchOne_eq_of_alike (h : ∀ s t, related s t → build s = build t) {s t : Value}
    (hst : SourcesAlike related s t) : dispatchOne build s = dispatchOne build t := by
  rcases hst with ⟨rfl, rfl⟩ | ⟨hs, ht, hst⟩
  · rfl
  · rw [dispatchOne_of_ne hs, dispatchOne_of_ne ht, h s t hst]

theorem forItems_eq_of_forall₂ {α β : Type} {R : α → α → Prop} {f : α → Traced β}
    (h : ∀ a b, R a b → f a = f b) {xs ys : List α} (hxy : List.Forall₂ R xs ys) :
    Traced.forItems f xs = Traced.forItems f ys := by
  induction hxy with
  | nil => rfl
  | cons hab _ ih => rw [Traced.forItems_cons, Traced.forItems_cons, h _ _ hab, ih]

/-- Documents that are alike are dispatched alike. -/
theorem dispatch_eq_of_alike (h : ∀ s t, related s t → build s = build t) {v w : Value}
    (hvw : DocumentsAlike related v w) : dispatch build v = dispatch build w := by
  have hone : ∀ s t, SourcesAlike related s t → dispatchOne build s = dispatchOne build t :=
    fun s t => dispatchOne_eq_of_alike h
  cases v with
  | array xs =>
    cases w with
    | array ys =>
      show (Traced.forItems (dispatchOne build) xs).andThen _ =
        (Traced.forItems (dispatchOne build) ys).andThen _
      rw [forItems_eq_of_forall₂ hone hvw]
    | _ => exact False.elim hvw
  | _ =>
    cases w with
    | array ys => exact False.elim hvw
    | _ => exact hone _ _ hvw

end

/-! ### Blind rules -/

/-- A rule that sees its source through its path only. -/
inductive Rule.Blind : Rule → Prop
  | copy {p : SourcePath} : Blind (.copy p)
  | relabel {p : SourcePath} {dest : String} : Blind (.relabel p dest)
  | call {p : SourcePath} {dest : String} {name : Option String} {transform : Transform} :
      (∀ s t v options, transform s v options = transform t v options) →
      Blind (.call p dest name transform)
  | nest {p : SourcePath} {dest : String} {rules : List Rule} :
      (∀ rule ∈ rules, Blind rule) → Blind (.nest p dest rules)

theorem Rule.Blind.hook?_eq_none {rule : Rule} (h : rule.Blind) : rule.hook? = none := by
  cases h <;> rfl

theorem runHooks_of_blind {rules : List Rule} (h : ∀ rule ∈ rules, rule.Blind) (options : Options)
    (source : Value) (d : Fields) : runHooks options source rules d = .ok d :=
  runHooks_of_hook?_eq_none (fun rule hrule => (h rule hrule).hook?_eq_none) options source d

theorem buildObject_congr {options : Options} {s t : Value} {rules : List Rule}
    (hblind : ∀ rule ∈ rules, rule.Blind)
    (h : ∀ rule ∈ rules, rule.contribution options s = rule.contribution options t) :
    buildObject options rules s = buildObject options rules t := by
  unfold buildObject
  rw [writeFields_congr (List.forall₂_same.2 h)]
  congr 1
  funext d
  rw [runHooks_of_blind hblind, runHooks_of_blind hblind]

theorem eq_of_rel_eq {x y : Option Value} (h : Option.Rel Eq x y) : x = y := by
  cases h with
  | some heq => rw [heq]
  | none => rfl

theorem none_or_some_of_rel {related : Value → Value → Prop} {x y : Option Value}
    (h : Option.Rel related x y) :
    (x = none ∧ y = none) ∨ ∃ v w, x = some v ∧ y = some w ∧ related v w := by
  cases h with
  | some hvw => exact .inr ⟨_, _, rfl, rfl, hvw⟩
  | none => exact .inl ⟨rfl, rfl⟩

/-- **Blind rules write the same for sources that are alike.** -/
theorem contribution_eq_of_alike {rule : Rule} (hblind : rule.Blind) (options : Options)
    {s t : Value} (h : rule.Alike s t) :
    rule.contribution options s = rule.contribution options t := by
  -- Both sources are general: nested rules compare the items of the two values at their path.
  induction hblind generalizing s t with
  | copy =>
    rw [Rule.Alike] at h
    rw [Rule.contribution, Rule.contribution, eq_of_rel_eq h]
  | relabel =>
    rw [Rule.Alike] at h
    rw [Rule.contribution, Rule.contribution, eq_of_rel_eq h]
  | call htransform =>
    rw [Rule.Alike] at h
    rw [Rule.contribution, Rule.contribution, eq_of_rel_eq h]
    simp only [htransform s t]
  | @nest p dest rules hrules ih =>
    rw [Rule.Alike] at h
    have hbuild : ∀ v w, RulesAlike rules v w →
        buildObject options rules v = buildObject options rules w := by
      intro v w hvw
      refine buildObject_congr hrules fun rule hrule => ?_
      exact ih rule hrule (rulesAlike_iff.1 hvw rule hrule)
    rcases none_or_some_of_rel h with ⟨hs, ht⟩ | ⟨v, w, hs, ht, hvw⟩
    · rw [Rule.contribution, Rule.contribution, hs, ht]
    · rw [contribution_nest options s p dest rules hs, contribution_nest options t p dest rules ht,
        Mapper.run, Mapper.run, dispatch_eq_of_alike hbuild hvw]

/-! ### Compiled rules -/

/-- **Over the built-in registry, elements stand for blind rules.** -/
theorem ElementRule.blind {v : Value} {rule : Rule}
    (h : ElementRule Registry.builtIns v rule) : rule.Blind := by
  induction v using element_induction generalizing rule with
  | step v ih =>
  cases h with
  | copy => exact .copy
  | relabel => exact .relabel
  | nested _ hmapper hitems =>
    refine .nest fun rule hrule => ?_
    obtain ⟨w, hw, hwrule⟩ := exists_of_mem_right hitems hrule
    exact ih _ _ rfl hmapper w hw hwrule
  | named _ _ hm =>
    rw [Registry.builtIns_mapper] at hm
    cases hm
  | call _ _ _ hf =>
    obtain ⟨b, -, rfl⟩ := Registry.builtIns_transform hf
    exact .call fun s t v options => b.transform_congr s t v options options

/-- **Unmapped data do not interfere.**  A mapper loaded over the built-in registry gives the same
result and the same notes for any two documents that are alike for it. -/
theorem run_eq_of_alike {spec : Value} {m : Mapper}
    (h : (Mapper.ofJson Registry.builtIns spec).result = .ok m) {v w : Value} (hvw : m.Alike v w)
    (options : Options) : m.run v options = m.run w options := by
  obtain ⟨items, -, hitems⟩ := ofJson_ok.1 h
  have hblind : ∀ rule ∈ m.rules, rule.Blind := by
    intro rule hrule
    obtain ⟨u, -, hu⟩ := exists_of_mem_right hitems hrule
    exact hu.blind
  have hbuild : ∀ s t, RulesAlike m.rules s t →
      buildObject options m.rules s = buildObject options m.rules t := by
    intro s t hst
    exact buildObject_congr hblind fun rule hrule =>
      contribution_eq_of_alike (hblind rule hrule) options (rulesAlike_iff.1 hst rule hrule)
  exact dispatch_eq_of_alike hbuild hvw

/-- A specification that takes a name and the cities of some addresses. -/
def contactSpec : Value :=
  .array [.object [("customTransform", .string "uppercase"), ("dstName", .string "name"),
      ("srcName", .string "person.name")],
    .object [("dstName", .string "cities"), ("mapper", .array [.string "city"]),
      ("srcName", .string "addresses")]]

/-- A document for it: a name and two addresses beside a note that no path leads to, and a source
without any of them. -/
def contactDocument (note : Value) : Value :=
  .array [.object [("addresses", .array [.null, .object [("city", .string "Oslo"), ("zip", note)]]),
      ("note", note), ("person", .object [("age", note), ("name", .string "Ada")])],
    .string "nobody"]

/-- The rules that it stands for. -/
def contactRules : List Rule :=
  [.call (pathOf "person.name") "name" (some "uppercase") BuiltIn.uppercase.transform,
    .nest (pathOf "addresses") "cities" [.copy (pathOf "city")]]

theorem contactRules_alike (note other : Value) :
    (Mapper.mk contactRules).Alike (contactDocument note) (contactDocument other) := by
  have hcity : RulesAlike [.copy (pathOf "city")]
      (.object [("city", .string "Oslo"), ("zip", note)])
      (.object [("city", .string "Oslo"), ("zip", other)]) := by
    refine rulesAlike_iff.2 (List.forall_mem_singleton.2 ?_)
    rw [Rule.Alike]
    exact .some rfl
  refine .cons (.inr ⟨nofun, nofun, ?_⟩) (.cons (.inr ⟨nofun, nofun, ?_⟩) .nil)
  · refine rulesAlike_iff.2 (List.forall_mem_cons.2 ⟨?_, List.forall_mem_singleton.2 ?_⟩)
    · rw [Rule.Alike]
      exact .some rfl
    · rw [Rule.Alike]
      exact .some (.cons (.inl ⟨rfl, rfl⟩) (.cons (.inr ⟨nofun, nofun, hcity⟩) .nil))
  · refine rulesAlike_iff.2 (List.forall_mem_cons.2 ⟨?_, List.forall_mem_singleton.2 ?_⟩)
    · rw [Rule.Alike]
      exact .none
    · rw [Rule.Alike]
      exact .none

theorem run_eq_of_alike_contact :
    ∃ m, (Mapper.ofJson Registry.builtIns contactSpec).result = .ok m ∧
      m.Alike (contactDocument .null) (contactDocument (.bool true)) ∧
      m.run (contactDocument .null) .empty = m.run (contactDocument (.bool true)) .empty := by
  have hload : (Mapper.ofJson Registry.builtIns contactSpec).result = .ok ⟨contactRules⟩ := rfl
  have halike := contactRules_alike .null (.bool true)
  exact ⟨⟨contactRules⟩, hload, halike, run_eq_of_alike hload halike .empty⟩

end Reshape
