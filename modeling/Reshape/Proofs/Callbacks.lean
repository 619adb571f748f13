import Reshape.Proofs.LastWriter

/-!
# Errors of callbacks

Nothing but a callback can make a mapping fail.  This file lists the calls of callbacks that a
mapping makes as long as none of them fails: the items of an array one after the other, for each of
them the transforms in the order of their rules, nested rules making their calls in place, and then
the hooks:

* **`Call`** — a callback with what it is called on;
* **`hookCalls`** — the calls of hooks, each on the destination that the one before it left;
* **`Rule.calls`**, **`fieldCalls`** — the calls that a field rule, and all of a list, make;
* **`Mapper.calls`** — the calls for a document;
* **`FirstFailure`** — the error of the first call that fails.

The main statement is **`map_error_iff_first_failure`**: a mapping fails exactly when one of these
calls does, and its error is the one that the first of them returns.
-/

namespace Reshape

open Json

/-- The error of a computation that fails. -/
def failure? {α : Type} : Except Error α → Option Error
  | .ok _ => none
  | .error e => some e

/-- A callback with what it is called on, the options apart. -/
inductive Call where
  | transform (run : Transform) (source value : Value)
  | hook (run : Hook) (source : Value) (d : Fields)

/-- The error that a callback returns, if it returns one. -/
def Call.failure? (options : Options) : Call → Option Error
  | .transform run source v => Reshape.failure? (run source v options)
  | .hook run source d => Reshape.failure? (run source d options)

/-- The error is returned by a call of the list, and no call before it fails. -/
def FirstFailure (options : Options) (calls : List Call) (e : Error) : Prop :=
  ∃ before call after, calls = before ++ call :: after ∧ call.failure? options = some e ∧
    ∀ earlier ∈ before, earlier.failure? options = none

/-! ### The calls of a mapping -/

/-- The calls for a source; `null` makes none. -/
def sourceCalls (calls : Value → List Call) (source : Value) : List Call :=
  if source.isNull then [] else calls source

/-- The calls for a document: an array item by item, anything else as one source. -/
def documentCalls (calls : Value → List Call) : Value → List Call
  | .array items => items.flatMap (sourceCalls calls)
  | source => sourceCalls calls source

/-- The calls of hooks, each on the destination that the one before it left. -/
def hookCalls (options : Options) (source : Value) : List Hook → Fields → List Call
  | [], _ => []
  | run :: rest, d =>
    .hook run source d ::
      match run source d options with
      | .ok e => hookCalls options source rest e
      | .error _ => []

/-- The calls of the hooks of a list of rules, on the destination that its field rules leave. -/
def finishingCalls (options : Options) (source : Value) (rules : List Rule) : List Call :=
  match (writeFields options source rules []).result with
  | .ok d => hookCalls options source (rules.filterMap Rule.hook?) d
  | .error _ => []

mutual

/-- The calls that a field rule makes; none when its path leads nowhere.  Nested rules make their
own, those of their hooks included. -/
def Rule.calls (options : Options) (source : Value) (rule : Rule) : List Call :=
  match rule with
  | .copy _ => []
  | .relabel _ _ => []
  | .call p _ _ transform =>
    match p.resolve source with
    | some v => [.transform transform source v]
    | none => []
  | .nest p _ rules =>
    match p.resolve source with
    | some v =>
      documentCalls (fun s => fieldCalls options s rules ++ finishingCalls options s rules) v
    | none => []
  | .hook _ => []
termination_by structural rule

/-- The calls that the field rules of a list make, in their order. -/
def fieldCalls (options : Options) (source : Value) (rules : List Rule) : List Call :=
  match rules with
  | [] => []
  | rule :: rest => rule.calls options source ++ fieldCalls options source rest
termination_by structural rules

end

/-- The calls that a mapping makes: for each source those of the field rules, then the hooks. -/
def Mapper.calls (m : Mapper) (options : Options) (input : Value) : List Call :=
  documentCalls (fun s => fieldCalls options s m.rules ++ finishingCalls options s m.rules) input

/-! ### Failures of computations -/

section

variable {α β : Type}

theorem failure?_eq_some {x : Except Error α} {e : Error} : failure? x = some e ↔ x = .error e := by
  cases x <;> simp [failure?]

theorem failure?_map (x : Except Error α) (f : α → β) : failure? (x.map f) = failure? x := by
  cases x <;> rfl

/-- A computation that goes on fails in its first part, or else in its second. -/
theorem failure?_bind {x : Except Error α} {f : α → Except Error β} {rest : Option Error}
    (h : ∀ a, x = .ok a → failure? (f a) = rest) : failure? (x.bind f) = (failure? x).or rest := by
  cases x with
  | error e => rfl
  | ok a => exact h a rfl

theorem failure?_mapM (f : α → Except Error β) (items : List α) :
    failure? (items.mapM f) = items.findSome? fun a => failure? (f a) := by
  induction items with
  | nil => rfl
  | cons a rest ih =>
    have hrest : ∀ b, failure? ((rest.mapM f).bind fun bs => .ok (b :: bs)) =
        rest.findSome? fun a => failure? (f a) := by
      intro b
      rw [bind_ok_eq_map, failure?_map, ih]
    rw [List.mapM_cons, List.findSome?_cons]
    show failure? ((f a).bind fun b => (rest.mapM f).bind fun bs => .ok (b :: bs)) = _
    rw [failure?_bind fun b _ => hrest b]
    cases failure? (f a) <;> rfl

theorem findSome?_flatMap {γ : Type} (g : α → List β) (f : β → Option γ) (items : List α) :
    (items.flatMap g).findSome? f = items.findSome? fun a => (g a).findSome? f := by
  induction items with
  | nil => rfl
  | cons a rest ih =>
    rw [List.flatMap_cons, List.findSome?_append, List.findSome?_cons, ih]
    cases (g a).findSome? f <;> rfl

end

theorem firstFailure_iff {options : Options} {calls : List Call} {e : Error} :
    FirstFailure options calls e ↔ calls.findSome? (Call.failure? options) = some e :=
  List.findSome?_eq_some_iff.symm

/-! ### Failures of mappings -/

section

variable {options : Options}

theorem failure?_hooks (source : Value) (hooks : List Hook) (d : Fields) :
    failure? (hooks.foldlM (fun e run => run source e options) d) =
      (hookCalls options source hooks d).findSome? (Call.failure? options) := by
  induction hooks generalizing d with
  | nil => rfl
  | cons run rest ih =>
    rw [List.foldlM_cons, hookCalls, List.findSome?_cons, Call.failure?]
    cases run source d options with
    | error e => rfl
    | ok e => exact ih e

theorem failure?_runHooks {source : Value} {rules : List Rule} {d : Fields}
    (h : (writeFields options source rules []).result = .ok d) :
    failure? (runHooks options source rules d) =
      (finishingCalls options source rules).findSome? (Call.failure? options) := by
  rw [runHooks_eq_foldlM, failure?_hooks, finishingCalls, h]

/-- A document fails as its calls do if its sources do. -/
theorem failure?_elementwise {build : Value → Except Error Fields} {calls : Value → List Call}
    (h : ∀ s, failure? (build s) = (calls s).findSome? (Call.failure? options)) (v : Value) :
    failure? (elementwise (orNull build) v) =
      (documentCalls calls v).findSome? (Call.failure? options) := by
  have hsource : ∀ s, failure? (orNull build s) =
      (sourceCalls calls s).findSome? (Call.failure? options) := by
    intro s
    by_cases hs : s = .null
    · subst hs
      rfl
    · rw [orNull_of_ne hs, failure?_map, h, sourceCalls,
        if_neg fun hnull => hs (isNull_iff.1 hnull)]
  have hv := hsource v
  cases v with
  | array items =>
    show failure? ((items.mapM (orNull build)).map Value.array) =
      (items.flatMap (sourceCalls calls)).findSome? _
    rw [failure?_map, failure?_mapM, findSome?_flatMap, funext hsource]
  | _ => exact hv

/-- The rules of a list fail as their calls do if each of them does. -/
theorem failure?_writeFields {rules : List Rule} {source : Value}
    (h : ∀ rule ∈ rules, failure? (rule.contribution options source).result =
      (rule.calls options source).findSome? (Call.failure? options)) (d : Fields) :
    failure? (writeFields options source rules d).result =
      (fieldCalls options source rules).findSome? (Call.failure? options) := by
  induction rules generalizing d with
  | nil =>
    rw [writeFields_nil, fieldCalls]
    rfl
  | cons rule rest ih =>
    -- What the first rule wrote is of no account: no field rule reads the destination.
    rw [writeFields_cons, Traced.result_andThen, fieldCalls, List.findSome?_append,
      failure?_bind fun c _ => ih (fun r hr => h r (List.mem_cons_of_mem rule hr)) (writeField d c),
      h rule List.mem_cons_self]

theorem failure?_map_of_rules {rules : List Rule}
    (h : ∀ rule ∈ rules, ∀ source, failure? (rule.contribution options source).result =
      (rule.calls options source).findSome? (Call.failure? options)) (v : Value) :
    failure? ((Mapper.mk rules).map v options) =
      ((Mapper.mk rules).calls options v).findSome? (Call.failure? options) := by
  rw [map_eq]
  refine failure?_elementwise (fun s => ?_) v
  rw [buildObject_result, List.findSome?_append, failure?_bind fun d hd => failure?_runHooks hd,
    failure?_writeFields fun rule hrule => h rule hrule s]

/-- **A field rule fails as its calls do.** -/
theorem failure?_contribution (rule : Rule) (source : Value) :
    failure? (rule.contribution options source).result =
      (rule.calls options source).findSome? (Call.failure? options) := by
  -- The source is general: nested rules are asked about the sources in the value at their path.
  induction rule using rule_induction generalizing source with
  | step rule ih =>
  cases rule with
  | copy p =>
    rw [contribution_result_of_copied rfl rfl, Rule.calls]
    rfl
  | relabel p dest =>
    rw [contribution_result_of_copied rfl rfl, Rule.calls]
    rfl
  | call p dest name transform =>
    rw [contribution_result_of_found rfl rfl, Rule.calls]
    cases p.resolve source with
    | none => rfl
    | some v =>
      show failure? ((transform source v options).map _) =
        [Call.transform transform source v].findSome? _
      rw [failure?_map, List.findSome?_singleton, Call.failure?]
  | nest p dest rules =>
    rw [contribution_result_of_found rfl rfl, Rule.calls]
    cases p.resolve source with
    | none => rfl
    | some v =>
      show failure? (((Mapper.mk rules).map v options).map _) = _
      rw [failure?_map, failure?_map_of_rules fun inner hinner => ih p dest rules rfl inner hinner]
      rfl
  | hook run =>
    rw [Rule.calls]
    rfl

/-- **A mapping fails as its calls do.** -/
theorem failure?_mapping (m : Mapper) (input : Value) :
    failure? (m.map input options) =
      (m.calls options input).findSome? (Call.failure? options) :=
  failure?_map_of_rules (fun rule _ => failure?_contribution rule) input

/-! ### The first failure -/

theorem runObject_error_of_fields {m : Mapper} {source : Value} {e : Error}
    (hsource : source ≠ .null)
    (h : (fieldCalls options source m.rules).findSome? (Call.failure? options) = some e) :
    (m.runObject source options).result = .error e := by
  have hfields : (writeFields options source m.rules []).result = .error e := by
    rw [← failure?_eq_some, failure?_writeFields fun rule _ => failure?_contribution rule source, h]
  rw [runObject_of_ne hsource, buildObject_result, hfields]
  rfl

theorem calls_of_null (m : Mapper) (before after : List Value) :
    m.calls options (.array (before ++ .null :: after)) =
      m.calls options (.array (before ++ after)) := by
  show (before ++ .null :: after).flatMap (sourceCalls _) =
    (before ++ after).flatMap (sourceCalls _)
  rw [List.flatMap_append, List.flatMap_append, List.flatMap_cons]
  rfl

end

/-- **A mapping fails with its first callback that fails.**  The error of a mapping is the one that
the first failing call returns, and without such a call the mapping does not fail.  So a field rule
that fails does so before every hook, wherever the hooks stand; a rule whose path leads nowhere has
no part in any error; and neither has `null`, alone or in an array. -/
theorem map_error_iff_first_failure (m : Mapper) (options : Options) :
    (∀ input e, m.map input options = .error e ↔
      FirstFailure options (m.calls options input) e) ∧
    (∀ source e, source ≠ .null → FirstFailure options (fieldCalls options source m.rules) e →
      (m.runObject source options).result = .error e) ∧
    (∀ source before rule after p e, m.rules = before ++ rule :: after → rule.source? = some p →
      p.resolve source = none → ((m.runObject source options).result = .error e ↔
        ((Mapper.mk (before ++ after)).runObject source options).result = .error e)) ∧
    m.map .null options = .ok .null ∧
    ∀ before after e, m.map (.array (before ++ .null :: after)) options = .error e ↔
      m.map (.array (before ++ after)) options = .error e := by
  have hfirst : ∀ input e, m.map input options = .error e ↔
      FirstFailure options (m.calls options input) e := by
    intro input e
    rw [firstFailure_iff, ← failure?_mapping, failure?_eq_some]
  refine ⟨hfirst, ?_, ?_, rfl, ?_⟩
  · intro source e hsource h
    exact runObject_error_of_fields hsource (firstFailure_iff.1 h)
  · intro source before rule after p e hrules hp habsent
    rw [← runObject_result_of_absent hp habsent, ← hrules]
  · intro before after e
    rw [hfirst, hfirst, calls_of_null]

/-- A transform that refuses texts in their own words. -/
def refuseText : Transform := fun _ v _ =>
  match v with
  | .string s => .error (.callback s)
  | v => .ok v

/-- A hook that always fails stands before rules that may fail, one of them within nested rules. -/
def refusingRules : List Rule :=
  [.hook fun _ _ _ => .error (.callback "hook"), .call (pathOf "note") "note" none refuseText,
    .nest (pathOf "lines") "lines" [.call (pathOf "count") "count" none refuseText],
    .call (pathOf "id") "id" none refuseText]

/-- A document whose second item has no note, and a text among the counts of its lines. -/
def refusedDocument : Value :=
  .array [.null, .object [("id", .string "last"), ("lines", .array [.object [("count", .nat 1)],
    .null, .object [("count", .string "few")], .object [("count", .string "many")]])]]

theorem map_error_iff_first_failure_lines :
    (Mapper.mk refusingRules).map refusedDocument .empty = .error (.callback "few") ∧
      FirstFailure .empty ((Mapper.mk refusingRules).calls .empty refusedDocument)
        (.callback "few") := by
  have hmap : (Mapper.mk refusingRules).map refusedDocument .empty = .error (.callback "few") := rfl
  exact ⟨hmap, ((map_error_iff_first_failure _ _).1 _ _).1 hmap⟩

end Reshape
