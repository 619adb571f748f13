import Reshape.Proofs.Contract
import Reshape.Proofs.FirstFlaw

/-!
# Errors of specifications and errors of mappings

A specification that is wrong is refused when it is compiled, and not later: compiling fails with
errors of the configuration only, and mapping over the built-in registry with none of them.

* **`Configures`** — computations that fail with errors of the configuration only;
* **`CallsTransform`** — the names by which a specification calls transforms.

Every flaw of an element is reported by an error of the configuration, so elements written as JSON
configure (**`compileElement_configures`**); and so do elements of any sort, part by part
(**`compileDescriptor_configures`**).  A mapper over the built-in registry keeps the contract to
fail in the name of a transform that its specification calls (**`ElementRule.raises`**).  The main
statement is **`errors_by_phase`**.
-/

namespace Reshape

open Json

/-- The computation fails with errors of the configuration only. -/
def Configures {α : Type} (x : Except Error α) : Prop :=
  Ends (fun _ => True) (fun e => e.isConfiguration = true) x

namespace Configures

variable {α β : Type}

theorem ok (a : α) : Configures (.ok a) := trivial

theorem refuse (index : Nat) (fault : RuleFault) :
    Configures (Reshape.refuse index fault : Except Error α) := rfl

theorem bind {x : Except Error α} {f : α → Except Error β} (hx : Configures x)
    (hf : ∀ a, Configures (f a)) : Configures (x.bind f) := Ends.bind hx fun a _ => hf a

theorem map {x : Except Error α} (hx : Configures x) (f : α → β) : Configures (x.map f) :=
  Ends.map hx fun _ _ => trivial

theorem andThen {t : Traced α} {f : α → Traced β} (ht : Configures t.result)
    (hf : ∀ a, Configures (f a).result) : Configures (t.andThen f).result := by
  rw [Traced.result_andThen]
  exact ht.bind hf

end Configures

/-! ### Parts of a descriptor -/

theorem pathAt_configures (index : Nat) (raw : String) : Configures (pathAt index raw) := by
  unfold pathAt
  cases SourcePath.parse raw with
  | ok p => exact .ok p
  | error fault => exact .refuse index _

theorem nonEmpty_configures (index : Nat) (fault : RuleFault) (name : String) :
    Configures (nonEmpty index fault name) := by
  unfold nonEmpty
  split
  · exact .refuse index fault
  · exact .ok name

theorem relabelAt_configures (index : Nat) (source dest : String) :
    Configures (relabelAt index source dest) :=
  (pathAt_configures index source).bind fun _ =>
    (nonEmpty_configures index _ dest).bind fun _ => .ok _

theorem transform_configures (registry : Registry) (name : String) :
    Configures (registry.transform name) := by
  unfold Registry.transform
  split
  · exact .ok _
  · rfl

theorem callNamed_configures (registry : Registry) (p : SourcePath) (dest name : String) :
    Configures (callNamed registry p dest name) :=
  (transform_configures registry name).bind fun _ => .ok _

theorem compileRule_configures (registry : Registry) (index : Nat) (r : RuleDescriptor) :
    Configures (compileRule registry index r) := by
  refine (pathAt_configures index r.source).bind fun p => ?_
  refine (nonEmpty_configures index _ r.dest).bind fun dest => ?_
  split
  · exact .ok _
  · exact .ok _
  · exact callNamed_configures registry p dest _
  · exact .refuse index _
  · exact .refuse index _

/-! ### Elements -/

section

variable {registry : Registry}

theorem Flaw.isConfiguration (flaw : Flaw) (position : Nat) :
    (flaw.error position).isConfiguration = true := by
  cases flaw <;> rfl

theorem FirstFlaw.isConfiguration {items : List Value} {e : Error}
    (h : FirstFlaw registry items e) : e.isConfiguration = true := by
  induction h with
  | own => exact Flaw.isConfiguration _ _
  | nested _ _ _ _ ih => exact ih

/-- **Elements written as JSON configure.** -/
theorem compileElement_configures (v : Value) (index : Nat) :
    Configures (compileElement registry index v).result := by
  cases h : (compileElement registry index v).result with
  | ok rule => exact .ok rule
  | error e =>
    rcases compileElement_error.1 h with ⟨flaw, -, rfl⟩ | ⟨_, _, _, items, -, -, -, hitems⟩
    · exact flaw.isConfiguration index
    · exact (compileElements_error_iff.1 hitems).isConfiguration

/-- **Elements of any sort configure.** -/
theorem compileDescriptor_configures (d : Descriptor) (index : Nat) :
    Configures (compileDescriptor registry index d).result := by
  cases d with
  | field name => exact (pathAt_configures index name).map _
  | relabel source dest => exact relabelAt_configures index source dest
  | rule r => exact compileRule_configures registry index r
  | postProcess run => exact .ok _
  | json v => exact compileElement_configures v index

theorem compileDescriptors_configures (ds : List Descriptor) (index : Nat) :
    Configures (compileDescriptors registry index ds).result := by
  induction ds generalizing index with
  | nil => exact .ok _
  | cons d rest ih =>
    refine (compileDescriptor_configures d index).andThen fun rule => ?_
    exact (ih (index + 1)).andThen fun _ => .ok _

theorem compile_configures (ds : List Descriptor) : Configures (compile registry ds).result := by
  rw [compile, andThen_noteCompiled_result]
  exact compileDescriptors_configures ds 0

theorem compileJson_configures (spec : Value) :
    Configures (compileJson registry spec).result := by
  cases spec with
  | array items =>
    rw [compileJson_array]
    exact compile_configures _
  | _ => rfl

end

/-! ### Mappings over the built-in registry -/

/-- Some element of the specification, at any depth, calls a transform by the name. -/
def CallsTransform (spec : Value) (name : String) : Prop :=
  ∃ items, spec = .array items ∧ ∃ v ∈ items, NamesTransform v name

/-- The error is the refusal of a transform that the specification calls. -/
def RefusedBy (spec : Value) (e : Error) : Prop :=
  ∃ name fault, e = .transform name fault ∧ CallsTransform spec name

/-- **Built-in transforms fail in the name by which the specification calls them.** -/
theorem ElementRule.raises {items : List Value} {v : Value} {rule : Rule} (hv : v ∈ items)
    (h : ElementRule Registry.builtIns v rule) :
    rule.Keeps (.raising (RefusedBy (.array items))) := by
  refine h.keeps (fun name f hname hf => ?_) fun name m hm => ?_
  · obtain ⟨b, rfl, rfl⟩ := Registry.builtIns_transform hf
    intro source value options _ _ _
    exact BuiltIn.transform_ends (fun _ _ => trivial)
      (fun fault => ⟨b.name, fault, rfl, items, rfl, v, hv, hname⟩) source options
  · rw [Registry.builtIns_mapper] at hm
    cases hm

theorem map_ends_of_builtIns {spec : Value} {m : Mapper}
    (h : (Mapper.ofJson Registry.builtIns spec).result = .ok m) (input : Value)
    (options : Options) :
    Ends (fun _ => True) (RefusedBy spec) (m.map input options) := by
  obtain ⟨items, rfl, hitems⟩ := ofJson_ok.1 h
  have hrules : ∀ rule ∈ m.rules, rule.Keeps (.raising (RefusedBy (.array items))) := by
    intro rule hrule
    obtain ⟨v, hv, hvrule⟩ := exists_of_mem_right hitems hrule
    exact hvrule.raises hv
  exact map_ends hrules trivial trivial

/-- **Errors belong to their phase.**  Compiling a specification, put together or written as JSON,
fails with errors of the configuration only.  A mapper loaded over the built-in registry maps every
document, or fails with the refusal of a transform whose name the specification calls. -/
theorem errors_by_phase :
    (∀ registry ds e, (compile registry ds).result = .error e → e.isConfiguration = true) ∧
    (∀ registry spec e, (compileJson registry spec).result = .error e →
      e.isConfiguration = true) ∧
    ∀ spec m, (Mapper.ofJson Registry.builtIns spec).result = .ok m → ∀ input options,
      (∃ v, m.map input options = .ok v) ∨
        ∃ name fault, m.map input options = .error (.transform name fault) ∧
          CallsTransform spec name := by
  refine ⟨fun registry ds e h => ?_, fun registry spec e h => ?_, fun spec m h input options => ?_⟩
  · exact (compile_configures ds).of_error h
  · exact (compileJson_configures spec).of_error h
  · cases hmap : m.map input options with
    | ok v => exact .inl ⟨v, rfl⟩
    | error e =>
      obtain ⟨name, fault, rfl, hname⟩ := (map_ends_of_builtIns h input options).of_error hmap
      exact .inr ⟨name, fault, rfl, hname⟩

/-- A specification that calls a transform within a nested mapper. -/
def quantitySpec : Value :=
  .array [.string "id", .object [("dstName", .string "lines"),
    ("mapper", .array [.string "sku", .object [("customTransform", .string "to_number"),
      ("dstName", .string "quantity"), ("srcName", .string "count")]]),
    ("srcName", .string "items")]]

/-- A document with a quantity that is no number. -/
def quantityDocument : Value :=
  .object [("id", .nat 7), ("items", .array [.null, .object [("count", .string "few")]])]

/-- A list without a name for its second element is refused, and so is a specification where its
transform has no name; over the built-in registry the transform refuses the document. -/
theorem errors_by_phase_quantity :
    ((compile .empty [.field "sku", .relabel "sku" ""]).result =
        .error (.configuration 1 .emptyTarget) ∧
      (Error.configuration 1 .emptyTarget).isConfiguration = true) ∧
    ((compileJson .empty quantitySpec).result = .error (.unknownTransform "to_number") ∧
      (Error.unknownTransform "to_number").isConfiguration = true) ∧
    ∃ m, (Mapper.ofJson Registry.builtIns quantitySpec).result = .ok m ∧
      m.map quantityDocument .empty = .error (.transform "to_number" (.notNumber "few")) ∧
      CallsTransform quantitySpec "to_number" := by
  have hlist : (compile .empty [.field "sku", .relabel "sku" ""]).result =
      .error (.configuration 1 .emptyTarget) := rfl
  have hspec : (compileJson .empty quantitySpec).result =
      .error (.unknownTransform "to_number") := rfl
  obtain ⟨m, hload, hmap⟩ : ∃ m, (Mapper.ofJson Registry.builtIns quantitySpec).result = .ok m ∧
      m.map quantityDocument .empty = .error (.transform "to_number" (.notNumber "few")) :=
    ⟨_, rfl, rfl⟩
  refine ⟨⟨hlist, errors_by_phase.1 _ _ _ hlist⟩, ⟨hspec, errors_by_phase.2.1 _ _ _ hspec⟩,
    m, hload, hmap, ?_⟩
  rcases errors_by_phase.2.2 _ m hload quantityDocument .empty with
    ⟨v, hv⟩ | ⟨name, fault, herror, hcalls⟩
  · rw [hmap] at hv
    cases hv
  · rw [hmap] at herror
    cases herror
    exact hcalls

end Reshape
