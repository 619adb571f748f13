import Reshape.Proofs.Grammar

/-!
# Flaws of elements

An element that does not compile has a flaw, or the specification nested in it does not compile.
This file says what the flaws of elements are, without indices, notes and results:

* **`Flaw`** — what can be wrong with an element, and the error that reports it;
* **`NameFlaw`**, **`HeadFlaw`**, **`AliasFlaw`**, **`TransformFlaw`**, **`MapperFlaw`** — the flaws
  of the parts of an element;
* **`HasFlaw`** — an element and the flaw that it has itself.

There is one equivalence for each part of the compiler, beside those for its results.  The main
statement is **`compileElement_error`**: an element fails with its own flaw or with what its nested
specification fails with.
-/

namespace Reshape

open Json

/-! ### Flaws -/

/-- What can be wrong with an element: its form, or a name that nothing is bound to. -/
inductive Flaw where
  | form (fault : RuleFault)
  | unknownTransform (name : String)
  | unknownMapper (name : String)

/-- The error that reports a flaw of the element at a position of its list.  Only faults of form are
reported with the position. -/
def Flaw.error (position : Nat) : Flaw → Error
  | .form fault => .configuration position fault
  | .unknownTransform name => .unknownTransform name
  | .unknownMapper name => .unknownMapper name

/-- A field that has to be a string is missing or of another kind. -/
inductive NameFlaw (key : RuleKey) (fields : Fields) : RuleFault → Prop
  | missing : Keyed.get? key.name fields = none → NameFlaw key fields (.missingName key)
  | kind {v : Value} : Keyed.get? key.name fields = some v → v.kind ≠ .string →
      NameFlaw key fields (.nameKind key v.kind)

/-- The keys, the source or the destination of a rule object are not in order.  Of several flaws the
first one counts: keys, source, destination. -/
inductive HeadFlaw (fields : Fields) : RuleFault → Prop
  | key {before after : Fields} {key : String} {v : Value} :
      fields = before ++ (key, v) :: after → (∀ k ∈ Keyed.keys before, k ∈ ruleKeys) →
      key ∉ ruleKeys → HeadFlaw fields (.unexpectedKey key)
  | source {fault : RuleFault} :
      (∀ k ∈ Keyed.keys fields, k ∈ ruleKeys) → NameFlaw .source fields fault →
      HeadFlaw fields fault
  | path {raw : String} {fault : PathFault} :
      (∀ k ∈ Keyed.keys fields, k ∈ ruleKeys) →
      Keyed.get? RuleKey.source.name fields = some (.string raw) →
      SourcePath.parse raw = .error fault → HeadFlaw fields (.path fault)
  | destination {raw : String} {fault : RuleFault} :
      (∀ k ∈ Keyed.keys fields, k ∈ ruleKeys) →
      Keyed.get? RuleKey.source.name fields = some (.string raw) → IsPath raw →
      NameFlaw .destination fields fault → HeadFlaw fields fault
  | emptyDestination {raw : String} :
      (∀ k ∈ Keyed.keys fields, k ∈ ruleKeys) →
      Keyed.get? RuleKey.source.name fields = some (.string raw) → IsPath raw →
      Keyed.get? RuleKey.destination.name fields = some (.string "") →
      HeadFlaw fields .emptyDestination

/-- An object without the keys of a rule does not give a path another name. -/
inductive AliasFlaw : Fields → RuleFault → Prop
  | keys {fields : Fields} : fields.length ≠ 1 → AliasFlaw fields (.aliasKeys fields.length)
  | target {key : String} {v : Value} : v.kind ≠ .string →
      AliasFlaw [(key, v)] (.aliasTarget key v.kind)
  | path {raw dest : String} {fault : PathFault} : SourcePath.parse raw = .error fault →
      AliasFlaw [(raw, .string dest)] (.path fault)
  | emptyTarget {raw : String} : IsPath raw → AliasFlaw [(raw, .string "")] .emptyTarget

/-- What a rule object without a mapper has as its transform is not the name of one. -/
inductive TransformFlaw (registry : Registry) (raw : String) : Option Value → Flaw → Prop
  | missing : TransformFlaw registry raw none (.form (.noAction raw))
  | kind {v : Value} : v.kind ≠ .string →
      TransformFlaw registry raw (some v) (.form (.transformKind v.kind))
  | unknown {name : String} : registry.hasTransform name = false →
      TransformFlaw registry raw (some (.string name)) (.unknownTransform name)

/-- What a rule object has as its mapper is neither a specification nor the name of a mapper. -/
inductive MapperFlaw (registry : Registry) : Value → Flaw → Prop
  | kind {v : Value} : v.kind ≠ .string → v.kind ≠ .array →
      MapperFlaw registry v (.form (.mapperKind v.kind))
  | unknown {name : String} : registry.hasMapper name = false →
      MapperFlaw registry (.string name) (.unknownMapper name)

/-- The element has the flaw itself, whatever its nested specification is. -/
inductive HasFlaw (registry : Registry) : Value → Flaw → Prop
  | path {raw : String} {fault : PathFault} : SourcePath.parse raw = .error fault →
      HasFlaw registry (.string raw) (.form (.path fault))
  | unrecognized {v : Value} : v.kind ≠ .string → v.kind ≠ .object →
      HasFlaw registry v (.form (.unrecognized v.kind))
  | relabel {fields : Fields} {fault : RuleFault} :
      (∀ key ∈ Keyed.keys fields, key ∉ ruleKeys) → AliasFlaw fields fault →
      HasFlaw registry (.object fields) (.form fault)
  | head {fields : Fields} {key : String} {fault : RuleFault} :
      key ∈ Keyed.keys fields → key ∈ ruleKeys → HeadFlaw fields fault →
      HasFlaw registry (.object fields) (.form fault)
  | transform {fields : Fields} {raw dest : String} {flaw : Flaw} :
      RuleObject fields raw dest → Keyed.get? RuleKey.mapper.name fields = none →
      TransformFlaw registry raw (Keyed.get? RuleKey.transform.name fields) flaw →
      HasFlaw registry (.object fields) flaw
  | mapper {fields : Fields} {raw dest : String} {v : Value} {flaw : Flaw} :
      RuleObject fields raw dest → Keyed.get? RuleKey.mapper.name fields = some v →
      MapperFlaw registry v flaw → HasFlaw registry (.object fields) flaw

section

variable {registry : Registry} {index : Nat} {e : Error}

/-! ### Errors of the parts of a rule -/

theorem pathAt_error {raw : String} :
    pathAt index raw = .error e ↔
      ∃ fault, SourcePath.parse raw = .error fault ∧ e = .configuration index (.path fault) := by
  unfold pathAt
  cases SourcePath.parse raw with
  | ok p => simp
  | error fault => simp [refuse, eq_comm]

theorem nonEmpty_error {fault : RuleFault} {name : String} :
    nonEmpty index fault name = .error e ↔ name = "" ∧ e = .configuration index fault := by
  unfold nonEmpty
  by_cases h : name = ""
  · simp [h, refuse, eq_comm]
  · simp [h]

theorem nameAt_error {key : RuleKey} {fields : Fields} :
    nameAt index key fields = .error e ↔
      ∃ fault, NameFlaw key fields fault ∧ e = .configuration index fault := by
  unfold nameAt
  constructor
  · intro h
    cases hget : Keyed.get? key.name fields with
    | none =>
      rw [hget] at h
      cases h
      exact ⟨_, .missing hget, rfl⟩
    | some v =>
      rw [hget] at h
      cases v with
      | string s => cases h
      | _ =>
        cases h
        exact ⟨_, .kind hget nofun, rfl⟩
  · rintro ⟨fault, hfault, rfl⟩
    cases hfault with
    | missing hget =>
      rw [hget]
      rfl
    | @kind v hget hkind =>
      rw [hget]
      cases v with
      | string s => exact absurd rfl hkind
      | _ => rfl

/-- The unexpected key of an object is the first one that is not known. -/
theorem unexpectedKey?_eq_some {fields : Fields} {key : String} :
    unexpectedKey? fields = some key ↔
      ∃ before v after, fields = before ++ (key, v) :: after ∧
        (∀ k ∈ Keyed.keys before, k ∈ ruleKeys) ∧ key ∉ ruleKeys := by
  unfold unexpectedKey?
  rw [List.find?_eq_some_iff_append]
  constructor
  · rintro ⟨hkey, ks, ls, hkeys, hbefore⟩
    obtain ⟨before, rest, hfields, rfl, hrest⟩ := List.map_eq_append_iff.1 hkeys
    obtain ⟨⟨k, v⟩, after, rfl, hk, -⟩ := List.map_eq_cons_iff.1 hrest
    cases hk
    exact ⟨before, v, after, hfields, fun k hk => by simpa using hbefore k hk, by simpa using hkey⟩
  · rintro ⟨before, v, after, rfl, hbefore, hkey⟩
    refine ⟨by simpa using hkey, Keyed.keys before, Keyed.keys after, ?_, ?_⟩
    · simp [Keyed.keys]
    · intro k hk
      simpa using hbefore k hk

/-- An object with an unexpected key has the flaw of this key and no other one. -/
theorem headFlaw_iff_of_unexpectedKey {fields : Fields} {key : String} {fault : RuleFault}
    (hkey : unexpectedKey? fields = some key) :
    HeadFlaw fields fault ↔ fault = .unexpectedKey key := by
  have hno : ¬ ∀ k ∈ Keyed.keys fields, k ∈ ruleKeys := by
    intro hall
    rw [unexpectedKey?_eq_none.2 hall] at hkey
    cases hkey
  constructor
  · intro h
    cases h with
    | @key before after other v hfields hbefore hunknown =>
      have hother : unexpectedKey? fields = some other :=
        unexpectedKey?_eq_some.2 ⟨before, v, after, hfields, hbefore, hunknown⟩
      rw [hkey] at hother
      cases hother
      rfl
    | source hall => exact absurd hall hno
    | path hall => exact absurd hall hno
    | destination hall => exact absurd hall hno
    | emptyDestination hall => exact absurd hall hno
  · rintro rfl
    obtain ⟨before, v, after, hfields, hbefore, hunknown⟩ := unexpectedKey?_eq_some.1 hkey
    exact .key hfields hbefore hunknown

theorem ruleHead_error {fields : Fields} :
    ruleHead index fields = .error e ↔
      ∃ fault, HeadFlaw fields fault ∧ e = .configuration index fault := by
  unfold ruleHead
  cases hkey : unexpectedKey? fields with
  | some key =>
    simp only [headFlaw_iff_of_unexpectedKey hkey, exists_eq_left]
    show Except.error (Error.configuration index (.unexpectedKey key)) = .error e ↔ _
    rw [Except.error.injEq, eq_comm]
  | none =>
    have hknown : ∀ k ∈ Keyed.keys fields, k ∈ ruleKeys := unexpectedKey?_eq_none.1 hkey
    show ((nameAt index .source fields).bind fun raw => (pathAt index raw).bind fun p =>
      (nameAt index .destination fields).bind fun dest =>
        (nonEmpty index .emptyDestination dest).bind fun d => .ok (p, d)) = .error e ↔ _
    simp only [bind_eq_error, nameAt_ok, nameAt_error, pathAt_ok, pathAt_error, nonEmpty_error]
    constructor
    · rintro (⟨fault, hname, rfl⟩ | ⟨raw, hsource, ⟨fault, hpath, rfl⟩ | ⟨p, ⟨hraw, -⟩, h⟩⟩)
      · exact ⟨_, .source hknown hname, rfl⟩
      · exact ⟨_, .path hknown hsource hpath, rfl⟩
      · rcases h with ⟨fault, hname, rfl⟩ | ⟨dest, hdest, ⟨rfl, rfl⟩ | ⟨d, -, h⟩⟩
        · exact ⟨_, .destination hknown hsource hraw hname, rfl⟩
        · exact ⟨_, .emptyDestination hknown hsource hraw hdest, rfl⟩
        · cases h
    · rintro ⟨fault, hfault, rfl⟩
      cases hfault with
      | key hfields hbefore hunknown =>
        rw [unexpectedKey?_eq_some.2 ⟨_, _, _, hfields, hbefore, hunknown⟩] at hkey
        cases hkey
      | source _ hname => exact .inl ⟨_, hname, rfl⟩
      | path _ hsource hpath => exact .inr ⟨_, hsource, .inl ⟨_, hpath, rfl⟩⟩
      | destination _ hsource hraw hname =>
        exact .inr ⟨_, hsource, .inr ⟨_, ⟨hraw, rfl⟩, .inl ⟨_, hname, rfl⟩⟩⟩
      | emptyDestination _ hsource hraw hdest =>
        exact .inr ⟨_, hsource, .inr ⟨_, ⟨hraw, rfl⟩, .inr ⟨_, hdest, .inl ⟨rfl, rfl⟩⟩⟩⟩

theorem relabelAt_error {raw dest : String} :
    relabelAt index raw dest = .error e ↔
      ∃ fault, AliasFlaw [(raw, .string dest)] fault ∧ e = .configuration index fault := by
  show ((pathAt index raw).bind fun p => (nonEmpty index .emptyTarget dest).bind fun d =>
    Except.ok (Rule.relabel p d)) = .error e ↔ _
  simp only [bind_eq_error, pathAt_ok, pathAt_error, nonEmpty_error]
  constructor
  · rintro (⟨fault, hpath, rfl⟩ | ⟨p, ⟨hraw, -⟩, ⟨rfl, rfl⟩ | ⟨d, -, h⟩⟩)
    · exact ⟨_, .path hpath, rfl⟩
    · exact ⟨_, .emptyTarget hraw, rfl⟩
    · cases h
  · rintro ⟨fault, hfault, rfl⟩
    cases hfault with
    | keys hlength => exact absurd rfl hlength
    | target hkind => exact absurd rfl hkind
    | path hpath => exact .inl ⟨_, hpath, rfl⟩
    | emptyTarget hraw => exact .inr ⟨_, ⟨hraw, rfl⟩, .inl ⟨rfl, rfl⟩⟩

theorem relabelObject_error {fields : Fields} :
    relabelObject index fields = .error e ↔
      ∃ fault, AliasFlaw fields fault ∧ e = .configuration index fault := by
  cases fields with
  | nil =>
    constructor
    · intro h
      cases h
      exact ⟨_, .keys nofun, rfl⟩
    · rintro ⟨fault, hfault, rfl⟩
      cases hfault
      rfl
  | cons first rest =>
    cases rest with
    | nil =>
      rcases first with ⟨key, v⟩
      cases v with
      | string dest => exact relabelAt_error
      | _ =>
        constructor
        · intro h
          cases h
          exact ⟨_, .target nofun, rfl⟩
        · rintro ⟨fault, hfault, rfl⟩
          cases hfault with
          | keys hlength => exact absurd rfl hlength
          | target hkind => rfl
    | cons second more =>
      have hlength : (first :: second :: more).length ≠ 1 := by simp
      have hobject : relabelObject index (first :: second :: more) =
          refuse index (.aliasKeys (first :: second :: more).length) := by simp [relabelObject]
      rw [hobject]
      constructor
      · intro h
        cases h
        exact ⟨_, .keys hlength, rfl⟩
      · rintro ⟨fault, hfault, rfl⟩
        cases hfault
        rfl

/-! ### Errors of mappers and transforms -/

theorem transformObject_error {p : SourcePath} {dest : String} {fields : Fields} :
    transformObject registry index p dest fields = .error e ↔
      ∃ flaw, TransformFlaw registry p.raw (Keyed.get? RuleKey.transform.name fields) flaw ∧
        e = flaw.error index := by
  unfold transformObject
  cases Keyed.get? RuleKey.transform.name fields with
  | none =>
    constructor
    · intro h
      cases h
      exact ⟨_, .missing, rfl⟩
    · rintro ⟨flaw, hflaw, rfl⟩
      cases hflaw
      rfl
  | some v =>
    cases v with
    | string name =>
      show ((registry.transform name).bind fun f =>
        Except.ok (Rule.call p dest (some name) f)) = .error e ↔ _
      rw [bind_eq_error, Registry.transform_error]
      constructor
      · rintro (⟨hname, rfl⟩ | ⟨f, -, h⟩)
        · exact ⟨_, .unknown hname, rfl⟩
        · cases h
      · rintro ⟨flaw, hflaw, rfl⟩
        cases hflaw with
        | kind hkind => exact absurd rfl hkind
        | unknown hname => exact .inl ⟨hname, rfl⟩
    | _ =>
      constructor
      · intro h
        cases h
        exact ⟨_, .kind nofun, rfl⟩
      · rintro ⟨flaw, hflaw, rfl⟩
        cases hflaw
        rfl

/-- A mapper fails with its own flaw, or with what its specification fails with. -/
theorem mapperRules_error {spec : Value} :
    (mapperRules registry index spec).result = .error e ↔
      (∃ flaw, MapperFlaw registry spec flaw ∧ e = flaw.error index) ∨
        ∃ items, spec = .array items ∧ (compileElements registry 0 items).result = .error e := by
  cases spec with
  | array items =>
    rw [mapperRules_array_result]
    constructor
    · intro h
      exact .inr ⟨items, rfl, h⟩
    · rintro (⟨flaw, hflaw, -⟩ | ⟨other, hitems, h⟩)
      · cases hflaw with
        | kind _ hkind => exact absurd rfl hkind
      · cases hitems
        exact h
  | string name =>
    show (registry.mapper name).map Mapper.rules = .error e ↔ _
    rw [map_eq_error, Registry.mapper_error]
    constructor
    · rintro ⟨hname, rfl⟩
      exact .inl ⟨_, .unknown hname, rfl⟩
    · rintro (⟨flaw, hflaw, rfl⟩ | ⟨items, hitems, -⟩)
      · cases hflaw with
        | kind hkind => exact absurd rfl hkind
        | unknown hname => exact ⟨hname, rfl⟩
      · cases hitems
  | _ =>
    constructor
    · intro h
      cases h
      exact .inl ⟨_, .kind nofun nofun, rfl⟩
    · rintro (⟨flaw, hflaw, rfl⟩ | ⟨items, hitems, -⟩)
      · cases hflaw
        rfl
      · cases hitems

/-! ### Elements -/

/-- The rule of a rule object fails with a flaw of the object, or with what its nested specification
fails with. -/
theorem compileElement_error_of_ruleKey {fields : Fields} {key : String}
    (hmem : key ∈ Keyed.keys fields) (hkey : key ∈ ruleKeys) :
    (compileElement registry index (.object fields)).result = .error e ↔
      (∃ flaw, HasFlaw registry (.object fields) flaw ∧ e = flaw.error index) ∨
        ∃ raw dest items, RuleObject fields raw dest ∧
          Keyed.get? RuleKey.mapper.name fields = some (.array items) ∧
          (compileElements registry 0 items).result = .error e := by
  rw [compileElement_of_isRuleObject (isRuleObject_iff.2 ⟨key, hmem, hkey⟩), bind_eq_error,
    ruleHead_error]
  simp only [ruleHead_ok]
  constructor
  · rintro (⟨fault, hfault, rfl⟩ | ⟨head, ⟨raw, dest, hobject, rfl⟩, h⟩)
    · exact .inl ⟨_, .head hmem hkey hfault, rfl⟩
    · cases hmapper : Keyed.get? RuleKey.mapper.name fields with
      | none =>
        simp only [hmapper] at h
        obtain ⟨flaw, hflaw, rfl⟩ := transformObject_error.1 h
        exact .inl ⟨_, .transform hobject hmapper hflaw, rfl⟩
      | some spec =>
        simp only [hmapper, map_eq_error] at h
        rcases mapperRules_error.1 h with ⟨flaw, hflaw, rfl⟩ | ⟨items, rfl, hitems⟩
        · exact .inl ⟨_, .mapper hobject hmapper hflaw, rfl⟩
        · exact .inr ⟨raw, dest, items, hobject, rfl, hitems⟩
  · rintro (⟨flaw, hflaw, rfl⟩ | ⟨raw, dest, items, hobject, hmapper, hitems⟩)
    · cases hflaw with
      | unrecognized _ hkind => exact absurd rfl hkind
      | relabel hall => exact absurd hkey (hall key hmem)
      | head _ _ hfault => exact .inl ⟨_, hfault, rfl⟩
      | transform hobject hmapper hflaw =>
        refine .inr ⟨_, ⟨_, _, hobject, rfl⟩, ?_⟩
        simp only [hmapper]
        exact transformObject_error.2 ⟨_, hflaw, rfl⟩
      | mapper hobject hmapper hflaw =>
        refine .inr ⟨_, ⟨_, _, hobject, rfl⟩, ?_⟩
        simp only [hmapper]
        exact map_eq_error.2 (mapperRules_error.2 (.inl ⟨_, hflaw, rfl⟩))
    · refine .inr ⟨_, ⟨_, _, hobject, rfl⟩, ?_⟩
      simp only [hmapper]
      exact map_eq_error.2 (mapperRules_error.2 (.inr ⟨items, rfl, hitems⟩))

/-- An object that is no rule object fails with a flaw of its own. -/
theorem compileElement_error_of_alias {fields : Fields}
    (h : ∀ key ∈ Keyed.keys fields, key ∉ ruleKeys) :
    (compileElement registry index (.object fields)).result = .error e ↔
      ∃ flaw, HasFlaw registry (.object fields) flaw ∧ e = flaw.error index := by
  have hobject : ¬ isRuleObject fields = true := by
    rw [isRuleObject_iff]
    rintro ⟨key, hmem, hkey⟩
    exact h key hmem hkey
  rw [compileElement_object, if_neg hobject, Traced.lift_result, relabelObject_error]
  constructor
  · rintro ⟨fault, hfault, rfl⟩
    exact ⟨_, .relabel h hfault, rfl⟩
  · rintro ⟨flaw, hflaw, rfl⟩
    cases hflaw with
    | unrecognized _ hkind => exact absurd rfl hkind
    | relabel _ hfault => exact ⟨_, hfault, rfl⟩
    | head hmem hkey => exact absurd hkey (h _ hmem)
    | transform hrule => exact absurd hrule.isRuleObject hobject
    | mapper hrule => exact absurd hrule.isRuleObject hobject

/-- **An element fails with its own flaw, or with what its nested specification fails with.** -/
theorem compileElement_error {v : Value} :
    (compileElement registry index v).result = .error e ↔
      (∃ flaw, HasFlaw registry v flaw ∧ e = flaw.error index) ∨
        ∃ fields raw dest items, v = .object fields ∧ RuleObject fields raw dest ∧
          Keyed.get? RuleKey.mapper.name fields = some (.array items) ∧
          (compileElements registry 0 items).result = .error e := by
  cases v with
  | string raw =>
    rw [compileElement_string, map_eq_error, pathAt_error]
    constructor
    · rintro ⟨fault, hfault, rfl⟩
      exact .inl ⟨_, .path hfault, rfl⟩
    · rintro (⟨flaw, hflaw, rfl⟩ | ⟨fields, _, _, _, hv, -⟩)
      · cases hflaw with
        | path hfault => exact ⟨_, hfault, rfl⟩
        | unrecognized hkind => exact absurd rfl hkind
      · cases hv
  | object fields =>
    by_cases hall : ∀ key ∈ Keyed.keys fields, key ∉ ruleKeys
    · rw [compileElement_error_of_alias hall]
      constructor
      · exact .inl
      · rintro (h | ⟨_, raw, dest, items, hv, hrule, -⟩)
        · exact h
        · cases hv
          obtain ⟨key, hmem, hkey⟩ := isRuleObject_iff.1 hrule.isRuleObject
          exact absurd hkey (hall key hmem)
    · simp only [not_forall, not_not] at hall
      obtain ⟨key, hmem, hkey⟩ := hall
      rw [compileElement_error_of_ruleKey hmem hkey]
      constructor
      · rintro (h | ⟨raw, dest, items, h⟩)
        · exact .inl h
        · exact .inr ⟨fields, raw, dest, items, rfl, h⟩
      · rintro (h | ⟨_, raw, dest, items, hv, h⟩)
        · exact .inl h
        · cases hv
          exact .inr ⟨raw, dest, items, h⟩
  | _ =>
    constructor
    · intro h
      cases h
      exact .inl ⟨_, .unrecognized nofun nofun, rfl⟩
    · rintro (⟨flaw, hflaw, rfl⟩ | ⟨fields, _, _, _, hv, -⟩)
      · cases hflaw
        rfl
      · cases hv

end

end Reshape
