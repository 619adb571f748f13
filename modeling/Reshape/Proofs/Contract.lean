import Reshape.Proofs.Mapping
import Reshape.Proofs.Ordered
import Reshape.Proofs.Registry
import Reshape.Proofs.Translation

/-!
# Contracts of callbacks

Everything that a mapping does besides calling its callbacks is the same for all mappers.  So what
is known of the callbacks is known of the mapping: a contract says which values go into callbacks
and come out of them, and with which errors they may fail.

* **`Ends`** — how a computation may end: with a good result, or with an error that is allowed;
* **`Contract`** — good values and allowed errors; the parts of good documents have to be good, and
  so do arrays and objects of good values;
* **`Transform.Keeps`**, **`Hook.Keeps`**, **`Rule.Keeps`** — callbacks that keep a contract, and
  rules whose callbacks do, at any depth;
* **`NamesTransform`** — the names by which an element calls transforms, at any depth;
* **`Contract.raising`**, **`Contract.ordered`** — the contracts of some errors, and of ordered
  documents.

The main statements are **`map_ends`** — mapping keeps the contract of its callbacks — and
**`ElementRule.keeps`**: a compiled rule keeps the contract that the transforms and the mappers it
names keep.
-/

namespace Reshape

open Json

/-! ### Endings -/

/-- The result is good, or the error is allowed. -/
def Ends {α : Type} (good : α → Prop) (allowed : Error → Prop) : Except Error α → Prop
  | .ok a => good a
  | .error e => allowed e

namespace Ends

variable {α β : Type} {known : α → Prop} {good : β → Prop} {allowed : Error → Prop}

theorem of_ok {x : Except Error α} {a : α} (h : Ends known allowed x) (hx : x = .ok a) :
    known a := by
  subst hx
  exact h

theorem of_error {x : Except Error α} {e : Error} (h : Ends known allowed x) (hx : x = .error e) :
    allowed e := by
  subst hx
  exact h

theorem bind {x : Except Error α} {f : α → Except Error β} (h : Ends known allowed x)
    (hf : ∀ a, known a → Ends good allowed (f a)) : Ends good allowed (x.bind f) := by
  cases x with
  | error e => exact h
  | ok a => exact hf a h

theorem map {x : Except Error α} {f : α → β} (h : Ends known allowed x)
    (hf : ∀ a, known a → good (f a)) : Ends good allowed (x.map f) := by
  cases x with
  | error e => exact h
  | ok a => exact hf a h

/-- A walk over items ends well if each of its steps does. -/
theorem mapM {f : α → Except Error β} {items : List α}
    (h : ∀ a ∈ items, Ends good allowed (f a)) :
    Ends (fun made => ∀ b ∈ made, good b) allowed (items.mapM f) := by
  induction items with
  | nil => exact nofun
  | cons a rest ih =>
    rw [List.mapM_cons]
    refine (h a List.mem_cons_self).bind fun b hb => ?_
    refine (ih fun c hc => h c (List.mem_cons_of_mem a hc)).bind fun bs hbs => ?_
    exact List.forall_mem_cons.2 ⟨hb, hbs⟩

end Ends

/-! ### Contracts -/

/-- What callbacks are held to: they get good values and give good values, and the errors that they
return are allowed. -/
structure Contract where
  /-- The values that go into callbacks and come out of them. -/
  good : Value → Prop
  /-- The errors of callbacks. -/
  allowed : Error → Prop
  null : good .null
  item : ∀ {items : List Value} {v : Value}, good (.array items) → v ∈ items → good v
  child : ∀ {v w : Value} {segment : String}, good v → child? segment v = some w → good w
  array : ∀ {items : List Value}, (∀ v ∈ items, good v) → good (.array items)
  empty : good (.object [])
  set : ∀ {fields : Fields} {v : Value}, good (.object fields) → good v →
    ∀ key, good (.object (Keyed.set key v fields))

/-- The transform keeps the contract. -/
def Transform.Keeps (c : Contract) (transform : Transform) : Prop :=
  ∀ source v (options : Options), c.good source → c.good v → c.good (.object options.fields) →
    Ends c.good c.allowed (transform source v options)

/-- The hook keeps the contract. -/
def Hook.Keeps (c : Contract) (run : Hook) : Prop :=
  ∀ source d (options : Options), c.good source → c.good (.object d) →
    c.good (.object options.fields) →
    Ends (fun e => c.good (.object e)) c.allowed (run source d options)

/-- The callbacks of the rule keep the contract, those of nested rules included. -/
inductive Rule.Keeps (c : Contract) : Rule → Prop
  | copy {p : SourcePath} : Keeps c (.copy p)
  | relabel {p : SourcePath} {dest : String} : Keeps c (.relabel p dest)
  | call {p : SourcePath} {dest : String} {name : Option String} {transform : Transform} :
      Transform.Keeps c transform → Keeps c (.call p dest name transform)
  | nest {p : SourcePath} {dest : String} {rules : List Rule} :
      (∀ rule ∈ rules, Keeps c rule) → Keeps c (.nest p dest rules)
  | hook {run : Hook} : Hook.Keeps c run → Keeps c (.hook run)

/-- The transforms and the mappers of the registry keep the contract. -/
structure Registry.Keeps (c : Contract) (registry : Registry) : Prop where
  transforms : ∀ name f, registry.transform name = .ok f → Transform.Keeps c f
  mappers : ∀ name m, registry.mapper name = .ok m → ∀ rule ∈ m.rules, rule.Keeps c

/-! ### Mappings -/

section

variable {c : Contract} {options : Options} {rules : List Rule}

/-- What is at a path of a good document is good. -/
theorem Contract.resolveFrom (c : Contract) {segments : List String} {v w : Value} (h : c.good v)
    (hw : resolveFrom segments v = some w) : c.good w := by
  induction segments generalizing v with
  | nil =>
    cases hw
    exact h
  | cons segment rest ih =>
    obtain ⟨u, hu, hrest⟩ := Option.bind_eq_some_iff.1 hw
    exact ih (c.child h hu) hrest

/-- The field that a rule writes holds a good value, if there is one to write. -/
def Contract.GoodField (c : Contract) (field : Option (String × Value)) : Prop :=
  ∀ key v, field = some (key, v) → c.good v

/-- A rule that makes good values of those it finds writes them. -/
theorem contribution_ends_of_found {source : Value} {rule : Rule} {p : SourcePath} {key : String}
    {make : Value → Except Error Value} (hsource : c.good source) (hdest : rule.dest? = some key)
    (houtcome : rule.outcome? options source = (p.resolve source).map make)
    (h : ∀ v, c.good v → Ends c.good c.allowed (make v)) :
    Ends c.GoodField c.allowed (rule.contribution options source).result := by
  rw [contribution_result_of_found hdest houtcome]
  cases hv : p.resolve source with
  | none => exact nofun
  | some v =>
    refine (h v (c.resolveFrom hsource hv)).map fun w hw => ?_
    rintro _ _ ⟨⟩
    exact hw

theorem writeFields_ends {source : Value} {d : Fields} (hd : c.good (.object d))
    (h : ∀ rule ∈ rules, Ends c.GoodField c.allowed (rule.contribution options source).result) :
    Ends (fun e => c.good (.object e)) c.allowed (writeFields options source rules d).result := by
  induction rules generalizing d with
  | nil =>
    rw [writeFields_nil]
    exact hd
  | cons rule rest ih =>
    rw [writeFields_cons, Traced.result_andThen]
    refine (h rule List.mem_cons_self).bind fun field hfield => ?_
    refine ih ?_ fun r hr => h r (List.mem_cons_of_mem rule hr)
    cases field with
    | none => exact hd
    | some pair => exact c.set hd (hfield pair.1 pair.2 rfl) pair.1

theorem runHooks_ends (hoptions : c.good (.object options.fields))
    (h : ∀ rule ∈ rules, rule.Keeps c) {source : Value} (hsource : c.good source) {d : Fields}
    (hd : c.good (.object d)) :
    Ends (fun e => c.good (.object e)) c.allowed (runHooks options source rules d) := by
  induction rules generalizing d with
  | nil => exact hd
  | cons rule rest ih =>
    have hrest : ∀ {e}, c.good (.object e) →
        Ends (fun e => c.good (.object e)) c.allowed (runHooks options source rest e) :=
      ih fun r hr => h r (List.mem_cons_of_mem rule hr)
    cases h rule List.mem_cons_self with
    | hook hrun => exact (hrun source d options hsource hd hoptions).bind fun e he => hrest he
    | _ => exact hrest hd

/-- A document that is taken apart ends well if its sources do. -/
theorem elementwise_ends {build : Value → Except Error Fields}
    (h : ∀ s, c.good s → Ends (fun d => c.good (.object d)) c.allowed (build s)) {v : Value}
    (hv : c.good v) : Ends c.good c.allowed (elementwise (orNull build) v) := by
  have hsource : ∀ s, c.good s → Ends c.good c.allowed (orNull build s) := by
    intro s hs
    by_cases hnull : s = .null
    · subst hnull
      exact c.null
    · rw [orNull_of_ne hnull]
      exact (h s hs).map fun d hd => hd
  cases v with
  | array items =>
    have hitems := Ends.mapM fun item hitem => hsource item (c.item hv hitem)
    exact hitems.map fun made hmade => c.array hmade
  | _ => exact hsource _ hv

theorem map_ends_of_rules (hoptions : c.good (.object options.fields))
    (hrules : ∀ rule ∈ rules, rule.Keeps c)
    (h : ∀ rule ∈ rules, ∀ {source}, c.good source →
      Ends c.GoodField c.allowed (rule.contribution options source).result)
    {input : Value} (hinput : c.good input) :
    Ends c.good c.allowed ((Mapper.mk rules).map input options) := by
  rw [map_eq]
  refine elementwise_ends (fun s hs => ?_) hinput
  rw [buildObject_result]
  exact (writeFields_ends c.empty fun rule hrule => h rule hrule hs).bind fun d hd =>
    runHooks_ends hoptions hrules hs hd

/-- A rule whose callbacks keep the contract writes a good value or fails with an allowed error. -/
theorem contribution_ends {rule : Rule} (hrule : rule.Keeps c)
    (hoptions : c.good (.object options.fields)) {source : Value} (hsource : c.good source) :
    Ends c.GoodField c.allowed (rule.contribution options source).result := by
  -- The source is general: nested rules get the sources in the value at their path.
  induction hrule generalizing source with
  | copy => exact contribution_ends_of_found hsource rfl rfl fun v hv => hv
  | relabel => exact contribution_ends_of_found hsource rfl rfl fun v hv => hv
  | call htransform =>
    exact contribution_ends_of_found hsource rfl rfl fun v hv =>
      htransform source v options hsource hv hoptions
  | nest hrules ih =>
    exact contribution_ends_of_found hsource rfl rfl fun v hv =>
      map_ends_of_rules hoptions hrules ih hv
  | hook => exact nofun

/-- **Mapping keeps the contract of its callbacks.** -/
theorem map_ends {m : Mapper} (h : ∀ rule ∈ m.rules, rule.Keeps c)
    (hoptions : c.good (.object options.fields)) {input : Value} (hinput : c.good input) :
    Ends c.good c.allowed (m.map input options) :=
  map_ends_of_rules hoptions h (fun rule hrule _ => contribution_ends (h rule hrule) hoptions)
    hinput

end

/-! ### Compiled rules -/

/-- The element calls a transform by the name: it is a rule object without a mapper and with the
name, or there is such an object in its nested specification. -/
inductive NamesTransform : Value → String → Prop
  | here {fields : Fields} {name : String} :
      Keyed.get? RuleKey.mapper.name fields = none →
      Keyed.get? RuleKey.transform.name fields = some (.string name) →
      NamesTransform (.object fields) name
  | nested {fields : Fields} {items : List Value} {v : Value} {name : String} :
      Keyed.get? RuleKey.mapper.name fields = some (.array items) → v ∈ items →
      NamesTransform v name → NamesTransform (.object fields) name

/-- **A compiled rule keeps the contract** of the transforms that its element names and of the
mappers of the registry. -/
theorem ElementRule.keeps {c : Contract} {registry : Registry} {v : Value} {rule : Rule}
    (h : ElementRule registry v rule)
    (htransforms : ∀ name f, NamesTransform v name → registry.transform name = .ok f →
      Transform.Keeps c f)
    (hmappers : ∀ name m, registry.mapper name = .ok m → ∀ rule ∈ m.rules, rule.Keeps c) :
    rule.Keeps c := by
  induction v using element_induction generalizing rule with
  | step v ih =>
  cases h with
  | copy => exact .copy
  | relabel => exact .relabel
  | nested _ hmapper hitems =>
    refine .nest fun rule hrule => ?_
    obtain ⟨w, hw, hwrule⟩ := exists_of_mem_right hitems hrule
    exact ih _ _ rfl hmapper w hw hwrule fun name f hname =>
      htransforms name f (.nested hmapper hw hname)
  | named _ _ hm => exact .nest (hmappers _ _ hm)
  | call _ hmapper hname hf => exact .call (htransforms _ _ (.here hmapper hname) hf)

theorem Registry.Keeps.rules {c : Contract} {registry : Registry} (h : registry.Keeps c)
    {items : List Value} {rules : List Rule}
    (hrules : List.Forall₂ (ElementRule registry) items rules) :
    ∀ rule ∈ rules, rule.Keeps c := by
  intro rule hrule
  obtain ⟨v, -, hv⟩ := exists_of_mem_right hrules hrule
  exact hv.keeps (fun name f _ => h.transforms name f) h.mappers

/-! ### Two contracts -/

/-- The contract that allows some errors and any value. -/
def Contract.raising (allowed : Error → Prop) : Contract where
  good := fun _ => True
  allowed := allowed
  null := trivial
  item := fun _ _ => trivial
  child := fun _ _ => trivial
  array := fun _ => trivial
  empty := trivial
  set := fun _ _ _ => trivial

/-- The contract of ordered documents, which allows any error. -/
def Contract.ordered : Contract where
  good := Value.Ordered
  allowed := fun _ => True
  null := .null
  item := fun h hv => h.item hv
  child := fun h hw => h.child hw
  array := Value.Ordered.array
  empty := Value.Ordered.empty
  set := fun h hv key => h.set hv key

/-- **Built-in transforms give scalars.** -/
theorem BuiltIn.convert_ordered {b : BuiltIn} {v w : Value} (h : b.convert v = .ok w) :
    w.Ordered := by
  cases b with
  | uppercase | lowercase | trim =>
    cases v with
    | string s =>
      cases h
      exact .string
    | _ => cases h
  | toText =>
    cases v with
    | string s | number n | bool b =>
      cases h
      exact .string
    | _ => cases h
  | toNumber =>
    cases v with
    | number n | bool b =>
      cases h
      exact .number
    | string s =>
      simp only [BuiltIn.convert, BuiltIn.numberOf] at h
      split at h
      next => cases h; exact .number
      next => cases h
    | _ => cases h
  | toBoolean =>
    cases v with
    | number n | bool b =>
      cases h
      exact .bool
    | string s =>
      simp only [BuiltIn.convert, BuiltIn.booleanOf] at h
      split at h
      next => cases h; exact .bool
      next =>
        split at h
        next => cases h; exact .bool
        next => cases h
    | _ => cases h

/-- A built-in transform gives what its conversion gives, or fails in its own name. -/
theorem BuiltIn.transform_ends {good : Value → Prop} {allowed : Error → Prop} {b : BuiltIn}
    {v : Value} (hgood : ∀ w, b.convert v = .ok w → good w)
    (hallowed : ∀ fault, allowed (.transform b.name fault)) (source : Value) (options : Options) :
    Ends good allowed (b.transform source v options) := by
  unfold BuiltIn.transform
  cases hw : b.convert v with
  | error fault => exact hallowed fault
  | ok w => exact hgood w hw

/-- **The built-in registry keeps documents ordered.** -/
theorem Registry.builtIns_ordered : Registry.builtIns.Keeps .ordered := by
  refine ⟨fun name f hf => ?_, fun name m hm => ?_⟩
  · obtain ⟨b, -, rfl⟩ := Registry.builtIns_transform hf
    intro source v options _ _ _
    show Ends Value.Ordered (fun _ => True) (b.transform source v options)
    exact BuiltIn.transform_ends (fun _ => BuiltIn.convert_ordered) (fun _ => trivial) source
      options
  · rw [Registry.builtIns_mapper] at hm
    cases hm

end Reshape
