import Reshape.Mapping
import Reshape.Proofs.Outcome
import Mathlib.Data.List.Forall2

/-!
# Results of mappings

What a mapping comes to when its notes are left out, one equation for each function:

* **`elementwise`**, **`orNull`** — the two ways in which a document is taken apart, on results;
* **`Rule.outcome?`** — the value that a field rule has for a source, or why it has none;
* **`contribution_result`** — what a rule writes: its outcome, under its destination;
* **`rule_induction`** — induction on rules through the rules nested in them;
* **`buildObject_result`**, **`map_eq`** — the object made of one source, and a whole mapping;
* **`writeFields_append`**, **`runHooks_eq_foldlM`** — rules run one part of the list after another,
  and hooks one after the other;
* **`writeFields_congr`** — lists of rules that write the same one by one write the same.
-/

namespace Reshape

open Json

/-! ### Documents -/

/-- A document item by item if it is an array, and as a whole if not. -/
def elementwise (one : Value → Except Error Value) : Value → Except Error Value
  | .array items => (items.mapM one).map .array
  | v => one v

/-- `null` of `null`, and an object of any other source. -/
def orNull (build : Value → Except Error Fields) : Value → Except Error Value
  | .null => .ok .null
  | source => (build source).map .object

theorem orNull_of_ne {build : Value → Except Error Fields} {source : Value}
    (h : source ≠ .null) : orNull build source = (build source).map .object := by
  cases source with
  | null => exact absurd rfl h
  | _ => rfl

theorem elementwise_of_ne {one : Value → Except Error Value} {v : Value}
    (h : ∀ items, v ≠ .array items) : elementwise one v = one v := by
  cases v with
  | array items => exact absurd rfl (h items)
  | _ => rfl

theorem isNull_iff {v : Value} : v.isNull = true ↔ v = .null := by
  cases v <;> simp [Value.isNull]

theorem dispatchOne_of_ne {build : Value → Traced Fields} {source : Value} (h : source ≠ .null) :
    dispatchOne build source = (build source).andThen fun d => .ok (.object d) := by
  unfold dispatchOne
  rw [if_neg (fun hnull => h (isNull_iff.1 hnull))]

theorem dispatchOne_result (build : Value → Traced Fields) (source : Value) :
    (dispatchOne build source).result = orNull (fun s => (build s).result) source := by
  by_cases h : source = .null
  · subst h
    rfl
  · rw [dispatchOne_of_ne h, Traced.result_andThen_ok, orNull_of_ne h]

/-- **A document is dispatched on results as on traced results.** -/
theorem dispatch_result (build : Value → Traced Fields) (v : Value) :
    (dispatch build v).result = elementwise (orNull fun s => (build s).result) v := by
  cases v with
  | array items =>
    show ((Traced.forItems (dispatchOne build) items).andThen fun vs =>
      .ok (Value.array vs)).result = _
    rw [Traced.result_andThen_ok, Traced.result_forItems]
    simp only [dispatchOne_result]
    rfl
  | _ => exact dispatchOne_result build _

/-! ### Mappers -/

theorem buildObject_result (options : Options) (rules : List Rule) (source : Value) :
    (buildObject options rules source).result =
      (writeFields options source rules []).result.bind (runHooks options source rules) := by
  rw [buildObject, Traced.result_andThen]
  rfl

/-- **A mapping is a dispatch of the objects that the rules build.** -/
theorem map_eq (m : Mapper) (input : Value) (options : Options) :
    m.map input options =
      elementwise (orNull fun s => (buildObject options m.rules s).result) input := by
  rw [Mapper.map, Mapper.run, dispatch_result]

theorem runObject_result (m : Mapper) (source : Value) (options : Options) :
    (m.runObject source options).result =
      if source.isNull then .ok none
      else (buildObject options m.rules source).result.map some := by
  unfold Mapper.runObject
  by_cases h : source.isNull = true
  · rw [if_pos h, if_pos h]
    rfl
  · rw [if_neg h, if_neg h, Traced.result_andThen_ok]

theorem runObject_of_ne {m : Mapper} {source : Value} {options : Options} (h : source ≠ .null) :
    (m.runObject source options).result =
      (buildObject options m.rules source).result.map some := by
  rw [runObject_result, if_neg fun hnull => h (isNull_iff.1 hnull)]

/-! ### Field rules -/

/-- The value that a field rule has for a source, or its error; none for a hook, and none when the
path of the rule leads nowhere. -/
def Rule.outcome? (options : Options) (source : Value) : Rule → Option (Except Error Value)
  | .copy p => (p.resolve source).map .ok
  | .relabel p _ => (p.resolve source).map .ok
  | .call p _ _ transform => (p.resolve source).map fun v => transform source v options
  | .nest p _ rules => (p.resolve source).map fun v => (Mapper.mk rules).map v options
  | .hook _ => none

/-- **A rule writes its outcome under its destination,** and nothing when it has none. -/
theorem contribution_result (options : Options) (source : Value) (rule : Rule) :
    (rule.contribution options source).result =
      match rule.dest?, rule.outcome? options source with
      | some key, some outcome => outcome.map fun v => some (key, v)
      | _, _ => .ok none := by
  cases rule with
  | copy p =>
    simp only [Rule.contribution, Rule.dest?, Rule.outcome?]
    cases p.resolve source with
    | none => rfl
    | some v => rfl
  | relabel p dest =>
    simp only [Rule.contribution, Rule.dest?, Rule.outcome?]
    cases p.resolve source with
    | none => rfl
    | some v => rfl
  | call p dest name transform =>
    simp only [Rule.contribution, Rule.dest?, Rule.outcome?]
    cases p.resolve source with
    | none => rfl
    | some v =>
      show ((Traced.lift (transform source v options)).andThen fun w => .ok (some (dest, w))).result
        = (transform source v options).map fun w => some (dest, w)
      rw [Traced.result_andThen_ok, Traced.lift_result]
  | nest p dest rules =>
    cases hv : p.resolve source with
    | none =>
      simp only [Rule.contribution, Rule.dest?, Rule.outcome?, hv]
      rfl
    | some v =>
      rw [contribution_nest options source p dest rules hv, Traced.result_andThen_ok]
      simp only [Rule.dest?, Rule.outcome?, hv]
      rfl
  | hook run => rfl

/-- A rule that makes something of whatever value it finds writes that, if it finds one. -/
theorem contribution_result_of_found {options : Options} {source : Value} {rule : Rule}
    {key : String} {found : Option Value} {make : Value → Except Error Value}
    (hkey : rule.dest? = some key) (h : rule.outcome? options source = found.map make) :
    (rule.contribution options source).result =
      found.elim (.ok none) fun v => (make v).map fun w => some (key, w) := by
  rw [contribution_result, hkey, h]
  cases found with
  | none => rfl
  | some v => rfl

/-- A rule that takes whatever value it finds as it is writes that, if it finds one. -/
theorem contribution_result_of_copied {options : Options} {source : Value} {rule : Rule}
    {key : String} {found : Option Value} (hkey : rule.dest? = some key)
    (h : rule.outcome? options source = found.map .ok) :
    (rule.contribution options source).result = .ok (found.map fun v => (key, v)) := by
  rw [contribution_result_of_found hkey h]
  cases found with
  | none => rfl
  | some v => rfl

/-- A field that is written comes from a rule that has its value as outcome. -/
theorem dest?_and_outcome?_of_contribution {options : Options} {source : Value} {rule : Rule}
    {key : String} {v : Value}
    (h : (rule.contribution options source).result = .ok (some (key, v))) :
    rule.dest? = some key ∧ rule.outcome? options source = some (.ok v) := by
  rw [contribution_result] at h
  split at h
  next dest outcome hdest houtcome =>
    obtain ⟨w, rfl, heq⟩ := map_eq_ok.1 h
    cases heq
    exact ⟨hdest, houtcome⟩
  next => cases h

/-- A rule whose path leads nowhere writes nothing. -/
theorem outcome?_of_absent {options : Options} {source : Value} {rule : Rule} {p : SourcePath}
    (hp : rule.source? = some p) (h : p.resolve source = none) :
    rule.outcome? options source = none := by
  cases rule with
  | hook run => rfl
  | _ =>
    cases hp
    simp only [Rule.outcome?, h]
    rfl

/-- **Induction on rules.**  What holds of a rule whenever it holds of the rules nested in it holds
of every rule. -/
theorem rule_induction {motive : Rule → Prop}
    (step : ∀ rule, (∀ p dest rules, rule = .nest p dest rules → ∀ inner ∈ rules, motive inner) →
      motive rule) (rule : Rule) : motive rule := by
  refine step rule ?_
  intro p dest rules hrule inner hinner
  have hsize : sizeOf inner < sizeOf rule := by
    have hmem := List.sizeOf_lt_of_mem hinner
    rw [hrule, Rule.nest.sizeOf_spec]
    omega
  exact rule_induction step inner
termination_by sizeOf rule

/-! ### Lists of rules -/

theorem writeFields_append (options : Options) (source : Value) (first second : List Rule)
    (d : Fields) :
    writeFields options source (first ++ second) d =
      (writeFields options source first d).andThen fun e =>
        writeFields options source second e := by
  induction first generalizing d with
  | nil => rw [List.nil_append, writeFields_nil, Traced.ok_andThen]
  | cons rule rest ih =>
    rw [List.cons_append, writeFields_cons, writeFields_cons, Traced.andThen_assoc]
    congr 1
    funext c
    exact ih (writeField d c)

/-- **Rules that write the same one by one write the same together,** each list for its own source
and under its own options. -/
theorem writeFields_congr {options other : Options} {s t : Value} {rules others : List Rule}
    (h : List.Forall₂
      (fun rule r => rule.contribution options s = r.contribution other t) rules others)
    (d : Fields) : writeFields options s rules d = writeFields other t others d := by
  induction h generalizing d with
  | nil => rw [writeFields_nil, writeFields_nil]
  | cons hrule _ ih =>
    rw [writeFields_cons, writeFields_cons, hrule]
    congr 1
    funext c
    exact ih (writeField d c)

/-- The hook that a rule is, if it is one. -/
def Rule.hook? : Rule → Option Hook
  | .hook run => some run
  | _ => none

/-- **The hooks run one after the other,** each on what the one before it left. -/
theorem runHooks_eq_foldlM (options : Options) (source : Value) (rules : List Rule) (d : Fields) :
    runHooks options source rules d =
      (rules.filterMap Rule.hook?).foldlM (fun e run => run source e options) d := by
  induction rules generalizing d with
  | nil => rfl
  | cons rule rest ih =>
    cases rule with
    | hook run =>
      show (run source d options).bind (runHooks options source rest) = _
      rw [show (Rule.hook run :: rest).filterMap Rule.hook? = run :: rest.filterMap Rule.hook?
        from rfl, List.foldlM_cons]
      cases run source d options with
      | error e => rfl
      | ok e => exact ih e
    | _ => exact ih d

/-- Rules without a hook among them leave the destination as it is. -/
theorem runHooks_of_hook?_eq_none {rules : List Rule} (h : ∀ rule ∈ rules, rule.hook? = none)
    (options : Options) (source : Value) (d : Fields) :
    runHooks options source rules d = .ok d := by
  rw [runHooks_eq_foldlM, List.filterMap_eq_nil_iff.2 h]
  rfl

end Reshape
