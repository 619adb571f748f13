import Reshape.Proofs.Mapping

/-!
# Options of a mapping

The options of a mapping go to every callback as they are, at any depth, and nothing but the
callbacks looks at them.  So it makes no difference whether a mapping is given its options or its
callbacks have them already:

* **`Transform.fixing`**, **`Hook.fixing`** — a callback that works under the same options always,
  whatever the options of the mapping are;
* **`Rule.fixing`**, **`Mapper.fixing`** — a rule and a mapper with all their callbacks replaced in
  this way, those of nested rules included.

The main statement is **`map_fixing`**: a mapper with its callbacks fixed maps under any options as
the mapper itself does under the options that are fixed.
-/

namespace Reshape

open Json

/-! ### Callbacks that have their options -/

/-- The transform that works under the same options always. -/
def Transform.fixing (options : Options) (transform : Transform) : Transform :=
  fun source v _ => transform source v options

/-- The hook that works under the same options always. -/
def Hook.fixing (options : Options) (run : Hook) : Hook :=
  fun source d _ => run source d options

mutual

/-- The rule with its callbacks under the same options always. -/
def Rule.fixing (options : Options) (rule : Rule) : Rule :=
  match rule with
  | .copy p => .copy p
  | .relabel p dest => .relabel p dest
  | .call p dest name transform => .call p dest name (Transform.fixing options transform)
  | .nest p dest rules => .nest p dest (rulesFixing options rules)
  | .hook run => .hook (Hook.fixing options run)
termination_by structural rule

/-- The rules of a list with their callbacks under the same options always. -/
def rulesFixing (options : Options) (rules : List Rule) : List Rule :=
  match rules with
  | [] => []
  | rule :: rest => rule.fixing options :: rulesFixing options rest
termination_by structural rules

end

/-- The mapper with its callbacks under the same options always. -/
def Mapper.fixing (options : Options) (m : Mapper) : Mapper := ⟨rulesFixing options m.rules⟩

section

variable {options other : Options}

/-! ### Lists of rules -/

theorem rulesFixing_cons (rule : Rule) (rest : List Rule) :
    rulesFixing options (rule :: rest) = rule.fixing options :: rulesFixing options rest := by
  rw [rulesFixing]

theorem rulesFixing_eq_map (rules : List Rule) :
    rulesFixing options rules = rules.map (Rule.fixing options) := by
  induction rules with
  | nil => rw [rulesFixing, List.map_nil]
  | cons rule rest ih => rw [rulesFixing_cons, List.map_cons, ih]

/-- The hooks of a list do the same under any options if these are fixed. -/
theorem runHooks_fixing (source : Value) (rules : List Rule) (d : Fields) :
    runHooks other source (rulesFixing options rules) d = runHooks options source rules d := by
  induction rules generalizing d with
  | nil =>
    rw [rulesFixing]
    rfl
  | cons rule rest ih =>
    rw [rulesFixing_cons]
    cases rule with
    | hook run =>
      rw [Rule.fixing]
      show (run source d options).bind (runHooks other source (rulesFixing options rest)) =
        (run source d options).bind (runHooks options source rest)
      congr 1
      funext e
      exact ih e
    | _ =>
      rw [Rule.fixing]
      exact ih d

/-- A list of rules builds the same objects if each rule writes the same for every source. -/
theorem buildObject_fixing {rules : List Rule}
    (h : ∀ rule ∈ rules, ∀ source,
      (rule.fixing options).contribution other source = rule.contribution options source) :
    buildObject other (rulesFixing options rules) = buildObject options rules := by
  funext source
  have hfields : List.Forall₂
      (fun fixed rule => fixed.contribution other source = rule.contribution options source)
      (rulesFixing options rules) rules := by
    rw [rulesFixing_eq_map, List.forall₂_map_left_iff, List.forall₂_same]
    exact fun rule hrule => h rule hrule source
  have hhooks : runHooks other source (rulesFixing options rules) = runHooks options source rules :=
    funext fun d => runHooks_fixing source rules d
  rw [buildObject, buildObject, writeFields_congr hfields, hhooks]

/-! ### Rules and mappers -/

/-- **A rule writes the same under any options if these are fixed.** -/
theorem contribution_fixing (rule : Rule) (source : Value) :
    (rule.fixing options).contribution other source = rule.contribution options source := by
  -- The source is general: nested rules are run on the sources in the value at their path.
  induction rule using rule_induction generalizing source with
  | step rule ih =>
  cases rule with
  | copy p => rw [Rule.fixing, Rule.contribution, Rule.contribution]
  | relabel p dest => rw [Rule.fixing, Rule.contribution, Rule.contribution]
  | call p dest name transform =>
    rw [Rule.fixing, Rule.contribution, Rule.contribution]
    rfl
  | nest p dest rules =>
    have hbuild : buildObject other (rulesFixing options rules) = buildObject options rules :=
      buildObject_fixing fun inner hinner => ih p dest rules rfl inner hinner
    rw [Rule.fixing]
    cases hv : p.resolve source with
    | none => simp only [Rule.contribution, hv]
    | some v =>
      rw [contribution_nest other source p dest (rulesFixing options rules) hv,
        contribution_nest options source p dest rules hv, Mapper.run, Mapper.run, hbuild]
  | hook run => rw [Rule.fixing, Rule.contribution, Rule.contribution]

end

/-- **Options reach every callback unchanged.**  Under any options, the mapper whose callbacks work
under the options `options` always gives for every document the value or the error that the mapper
itself gives under `options`; it makes the same notes; and it makes the same of every single
source. -/
theorem map_fixing (m : Mapper) (options other : Options) :
    (∀ input, (m.fixing options).map input other = m.map input options) ∧
    (∀ input, (m.fixing options).run input other = m.run input options) ∧
    ∀ source, (m.fixing options).runObject source other = m.runObject source options := by
  have hbuild : buildObject other (m.fixing options).rules = buildObject options m.rules :=
    buildObject_fixing fun rule _ source => contribution_fixing rule source
  have hrun : ∀ input, (m.fixing options).run input other = m.run input options := by
    intro input
    rw [Mapper.run, Mapper.run, hbuild]
  refine ⟨fun input => ?_, hrun, fun source => ?_⟩
  · rw [Mapper.map, Mapper.map, hrun]
  · rw [Mapper.runObject, Mapper.runObject, hbuild]

end Reshape
