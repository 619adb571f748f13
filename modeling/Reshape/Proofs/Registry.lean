import Reshape.Proofs.Keyed
import Reshape.Registry

/-!
# Names of a registry

* **`Registry.hasMapper_iff`**, **`Registry.hasTransform_iff`** — a name is bound exactly when
  looking it up succeeds;
* **`Registry.transform_error`**, **`Registry.mapper_error`** — looking up a name fails with this
  name, when nothing is bound to it;
* **`Registry.transform_bindTransform_of_ne`**, **`Registry.mapper_bindMapper_of_ne`** — binding a
  name leaves the other names as they are;
* **`Registry.builtIns_transform`**, **`Registry.builtIns_mapper`** — the built-in registry binds
  the built-in transforms to their names, and it binds no mapper.
-/

namespace Reshape

namespace Registry

theorem hasMapper_iff {registry : Registry} {name : String} :
    registry.hasMapper name = true ↔ ∃ m, registry.mapper name = .ok m := by
  unfold hasMapper mapper
  cases Keyed.get? name registry.mappers with
  | none => simp
  | some m => simp

theorem hasTransform_iff {registry : Registry} {name : String} :
    registry.hasTransform name = true ↔ ∃ f, registry.transform name = .ok f := by
  unfold hasTransform transform
  cases Keyed.get? name registry.transforms with
  | none => simp
  | some f => simp

theorem get?_of_transform {registry : Registry} {name : String} {f : Transform}
    (h : registry.transform name = .ok f) : Keyed.get? name registry.transforms = some f := by
  unfold transform at h
  cases hget : Keyed.get? name registry.transforms with
  | none =>
    rw [hget] at h
    cases h
  | some g =>
    rw [hget] at h
    cases h
    rfl

theorem transform_error {registry : Registry} {name : String} {e : Error} :
    registry.transform name = .error e ↔
      registry.hasTransform name = false ∧ e = .unknownTransform name := by
  unfold hasTransform transform
  cases Keyed.get? name registry.transforms with
  | none => simp [eq_comm]
  | some f => simp

theorem mapper_error {registry : Registry} {name : String} {e : Error} :
    registry.mapper name = .error e ↔
      registry.hasMapper name = false ∧ e = .unknownMapper name := by
  unfold hasMapper mapper
  cases Keyed.get? name registry.mappers with
  | none => simp [eq_comm]
  | some m => simp

theorem transform_bindTransform_of_ne {registry : Registry} {name other : String}
    (h : other ≠ name) (f : Transform) :
    (registry.bindTransform name f).transform other = registry.transform other := by
  have hget : Keyed.get? other (registry.bindTransform name f).transforms =
      Keyed.get? other registry.transforms := Keyed.get?_set_of_ne h f registry.transforms
  rw [transform, transform, hget]

theorem mapper_bindMapper_of_ne {registry : Registry} {name other : String}
    (h : other ≠ name) (m : Mapper) :
    (registry.bindMapper name m).mapper other = registry.mapper other := by
  have hget : Keyed.get? other (registry.bindMapper name m).mappers =
      Keyed.get? other registry.mappers := Keyed.get?_set_of_ne h m registry.mappers
  rw [mapper, mapper, hget]

/-! ### The built-in registry -/

/-- Binding built-in transforms adds nothing but them. -/
theorem mem_transforms_of_foldl {bs : List BuiltIn} {r : Registry} {entry : String × Transform}
    (h : entry ∈ (bs.foldl (fun r b => r.bindTransform b.name b.transform) r).transforms) :
    entry ∈ r.transforms ∨ ∃ b ∈ bs, entry = (b.name, b.transform) := by
  induction bs generalizing r with
  | nil => exact .inl h
  | cons b rest ih =>
    rcases ih h with hmem | ⟨c, hc, heq⟩
    · rcases Keyed.mem_set hmem with heq | hmem
      · exact .inr ⟨b, List.mem_cons_self, heq⟩
      · exact .inl hmem
    · exact .inr ⟨c, List.mem_cons_of_mem b hc, heq⟩

/-- **The built-in registry binds built-in transforms only,** each to its own name. -/
theorem builtIns_transform {name : String} {f : Transform}
    (h : builtIns.transform name = .ok f) : ∃ b : BuiltIn, name = b.name ∧ f = b.transform := by
  rcases mem_transforms_of_foldl (Keyed.mem_of_get? (get?_of_transform h)) with hmem | ⟨b, -, heq⟩
  · cases hmem
  · cases heq
    exact ⟨b, rfl, rfl⟩

theorem builtIns_mapper (name : String) : builtIns.mapper name = .error (.unknownMapper name) :=
  rfl

end Registry

end Reshape
