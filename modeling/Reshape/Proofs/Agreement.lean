import Reshape.Diff.Agreement
import Reshape.Proofs.Ordered

/-!
# Agreement and disagreement

Two documents are walked together, through the keys that two objects share and through the items of
two arrays of one length.  They disagree where a key is in one object only, and where the walk comes
to values that are not taken apart and are not equal:

* **`TakenApart`**, **`SameLeaf`** — values that are compared part by part, and equality of others;
* **`DisagreesAt`** — the places at which two documents disagree, and how they differ there;
* **`ordered_pair_induction`** — induction on two documents along this walk;
* **`Matches`** — documents of the same structure with the same leaves.

A relation that is settled by the parts of ordered documents is their agreement
(**`SettledByParts.agree_iff`**).  The main statements are two cases of this: ordered documents
agree when they disagree nowhere (**`agree_iff_forall_not_disagreesAt`**), and when they match
(**`agree_iff_matches`**).
-/

namespace Reshape

open Json

/-! ### Places of disagreement -/

/-- Both values are objects, or both are arrays of one length. -/
def TakenApart : Value → Value → Prop
  | .object _, .object _ => True
  | .array xs, .array ys => xs.length = ys.length
  | _, _ => False

/-- Equality of values that are not taken apart: of numbers up to a tolerance, of others as they
are. -/
def SameLeaf (tolerance : Double) : Value → Value → Prop
  | .number m, .number n => Double.within tolerance m.toDouble n.toDouble = true
  | v, w => v = w

/-- The values differ at the place, given by the steps that lead there. -/
inductive DisagreesAt (tolerance : Double) : Value → Value → List Step → Difference → Prop
  | changed {v w : Value} :
      ¬ TakenApart v w → ¬ SameLeaf tolerance v w → DisagreesAt tolerance v w [] .changed
  | missing {fs gs : Fields} {key : String} :
      key ∈ Keyed.keys fs → key ∉ Keyed.keys gs →
      DisagreesAt tolerance (.object fs) (.object gs) [.key key] .missing
  | extra {fs gs : Fields} {key : String} :
      key ∉ Keyed.keys fs → key ∈ Keyed.keys gs →
      DisagreesAt tolerance (.object fs) (.object gs) [.key key] .extra
  | field {fs gs : Fields} {key : String} {v w : Value} {place : List Step}
      {difference : Difference} :
      Keyed.get? key fs = some v → Keyed.get? key gs = some w →
      DisagreesAt tolerance v w place difference →
      DisagreesAt tolerance (.object fs) (.object gs) (.key key :: place) difference
  | item {xs ys : List Value} {i : Nat} {v w : Value} {place : List Step}
      {difference : Difference} :
      xs.length = ys.length → xs[i]? = some v → ys[i]? = some w →
      DisagreesAt tolerance v w place difference →
      DisagreesAt tolerance (.array xs) (.array ys) (.item i :: place) difference

section

variable {tolerance : Double} {place : List Step} {difference : Difference}

theorem disagreesAt_object_iff {fs gs : Fields} :
    DisagreesAt tolerance (.object fs) (.object gs) place difference ↔
      (∃ key, key ∈ Keyed.keys fs ∧ key ∉ Keyed.keys gs ∧ place = [.key key] ∧
        difference = .missing) ∨
      (∃ key, key ∉ Keyed.keys fs ∧ key ∈ Keyed.keys gs ∧ place = [.key key] ∧
        difference = .extra) ∨
      ∃ key v w rest, Keyed.get? key fs = some v ∧ Keyed.get? key gs = some w ∧
        place = .key key :: rest ∧ DisagreesAt tolerance v w rest difference := by
  constructor
  · intro h
    cases h with
    | changed hparts => exact absurd trivial hparts
    | missing hf hg => exact .inl ⟨_, hf, hg, rfl, rfl⟩
    | extra hf hg => exact .inr (.inl ⟨_, hf, hg, rfl, rfl⟩)
    | field hf hg h => exact .inr (.inr ⟨_, _, _, _, hf, hg, rfl, h⟩)
  · rintro (⟨key, hf, hg, rfl, rfl⟩ | ⟨key, hf, hg, rfl, rfl⟩ | ⟨key, v, w, rest, hf, hg, rfl, h⟩)
    · exact .missing hf hg
    · exact .extra hf hg
    · exact .field hf hg h

theorem disagreesAt_array_iff {xs ys : List Value} (hlen : xs.length = ys.length) :
    DisagreesAt tolerance (.array xs) (.array ys) place difference ↔
      ∃ i v w rest, xs[i]? = some v ∧ ys[i]? = some w ∧ place = .item i :: rest ∧
        DisagreesAt tolerance v w rest difference := by
  constructor
  · intro h
    cases h with
    | changed hparts => exact absurd hlen hparts
    | item _ hx hy h => exact ⟨_, _, _, _, hx, hy, rfl, h⟩
  · rintro ⟨i, v, w, rest, hx, hy, rfl, h⟩
    exact .item hlen hx hy h

theorem disagreesAt_leaf_iff {v w : Value} (hparts : ¬ TakenApart v w) :
    DisagreesAt tolerance v w place difference ↔
      ¬ SameLeaf tolerance v w ∧ place = [] ∧ difference = .changed := by
  constructor
  · intro h
    cases h with
    | changed _ h => exact ⟨h, rfl, rfl⟩
    | missing => exact absurd trivial hparts
    | extra => exact absurd trivial hparts
    | field => exact absurd trivial hparts
    | item hlen => exact absurd hlen hparts
  · rintro ⟨h, rfl, rfl⟩
    exact .changed hparts h

/-! ### The walk -/

/-- **Induction on two ordered documents that are walked together.**  What holds of values that are
not taken apart, and of two arrays or objects whenever it holds of the parts in which both are
taken apart, holds of any two documents. -/
@[elab_as_elim]
theorem ordered_pair_induction {motive : Value → Value → Prop}
    (leaf : ∀ {v w : Value}, v.Ordered → w.Ordered → ¬ TakenApart v w → motive v w)
    (array : ∀ {xs ys : List Value}, (Value.array xs).Ordered → (Value.array ys).Ordered →
      xs.length = ys.length →
      (∀ (i : Nat) v w, xs[i]? = some v → ys[i]? = some w → motive v w) →
      motive (.array xs) (.array ys))
    (object : ∀ {fs gs : Fields}, (Value.object fs).Ordered → (Value.object gs).Ordered →
      (∀ key v w, Keyed.get? key fs = some v → Keyed.get? key gs = some w → motive v w) →
      motive (.object fs) (.object gs))
    {v w : Value} (hv : v.Ordered) (hw : w.Ordered) : motive v w := by
  induction hv generalizing w with
  | @array xs hxs ih =>
    by_cases hparts : TakenApart (.array xs) w
    · cases w with
      | array ys =>
        refine array (.array hxs) hw hparts fun i v w hx hy => ?_
        exact ih v (List.mem_of_getElem? hx) (hw.item (List.mem_of_getElem? hy))
      | _ => exact absurd hparts id
    · exact leaf (.array hxs) hw hparts
  | @object fs hsorted hfs ih =>
    by_cases hparts : TakenApart (.object fs) w
    · cases w with
      | object gs =>
        refine object (.object hsorted hfs) hw fun key v w hf hg => ?_
        exact ih (key, v) (Keyed.mem_of_get? hf) (hw.field hg)
      | _ => exact absurd hparts id
    · exact leaf (.object hsorted hfs) hw hparts
  | _ => exact leaf (by constructor) hw (by cases w <;> exact id)

/-! ### Agreement -/

theorem agreeItems_iff {xs ys : List Value} :
    agreeItems tolerance xs ys = true ↔ xs.length = ys.length ∧
      ∀ (i : Nat) v w, xs[i]? = some v → ys[i]? = some w → agree tolerance v w = true := by
  induction xs generalizing ys with
  | nil => cases ys <;> simp [agreeItems]
  | cons x xs ih =>
    cases ys with
    | nil => simp [agreeItems]
    | cons y ys =>
      rw [agreeItems, Bool.and_eq_true, ih]
      constructor
      · rintro ⟨hxy, hlen, hrest⟩
        refine ⟨congrArg Nat.succ hlen, fun i v w hv hw => ?_⟩
        cases i with
        | zero =>
          cases hv
          cases hw
          exact hxy
        | succ i => exact hrest i v w hv hw
      · rintro ⟨hlen, h⟩
        exact ⟨h 0 x y rfl rfl, Nat.succ.inj hlen, fun i v w hv hw => h (i + 1) v w hv hw⟩

theorem agreeFields_iff {fs gs : Fields} :
    agreeFields tolerance fs gs = true ↔
      ∀ entry ∈ fs, ∃ w, Keyed.get? entry.1 gs = some w ∧ agree tolerance entry.2 w = true := by
  induction fs with
  | nil => simp [agreeFields]
  | cons entry rest ih =>
    rcases entry with ⟨key, v⟩
    rw [agreeFields, Bool.and_eq_true, ih, List.forall_mem_cons]
    cases Keyed.get? key gs <;> simp

/-- **Values that are not taken apart agree** when they are equal. -/
theorem agree_leaf_iff {v w : Value} (hparts : ¬ TakenApart v w) :
    agree tolerance v w = true ↔ SameLeaf tolerance v w := by
  cases v with
  | array xs =>
    cases w with
    | array ys =>
      constructor
      · intro h
        rw [agree] at h
        exact absurd (agreeItems_iff.1 h).1 hparts
      · intro h
        cases h
        exact absurd rfl hparts
    | _ => simp [agree, Value.same, SameLeaf]
  | _ => cases w <;> simp_all [agree, Value.same, SameLeaf, TakenApart]

/-- **Arrays of one length agree** when their items do, one by one. -/
theorem agree_array_iff {xs ys : List Value} (hlen : xs.length = ys.length) :
    agree tolerance (.array xs) (.array ys) = true ↔
      ∀ (i : Nat) v w, xs[i]? = some v → ys[i]? = some w → agree tolerance v w = true := by
  rw [agree, agreeItems_iff]
  exact and_iff_right hlen

/-- **Ordered objects agree** when they have the same keys and agree under each of them. -/
theorem agree_object_iff {fs gs : Fields} (hf : Keyed.Sorted fs) (hg : Keyed.Sorted gs) :
    agree tolerance (.object fs) (.object gs) = true ↔
      (∀ key, key ∈ Keyed.keys fs ↔ key ∈ Keyed.keys gs) ∧
        ∀ key v w, Keyed.get? key fs = some v → Keyed.get? key gs = some w →
          agree tolerance v w = true := by
  rw [agree, Bool.and_eq_true, beq_iff_eq, agreeFields_iff, hf.sameKeys_iff hg]
  constructor
  · rintro ⟨hlen, h⟩
    refine ⟨⟨hlen, fun key hkey => ?_⟩, fun key v w hv hw => ?_⟩
    · obtain ⟨entry, hentry, rfl⟩ := List.mem_map.1 hkey
      obtain ⟨w, hw, -⟩ := h entry hentry
      exact Keyed.mem_keys_of_get? hw
    · obtain ⟨u, hu, hagree⟩ := h (key, v) (Keyed.mem_of_get? hv)
      cases hu.symm.trans hw
      exact hagree
  · rintro ⟨⟨hlen, hkeys⟩, h⟩
    refine ⟨hlen, fun entry hentry => ?_⟩
    obtain ⟨w, hw⟩ := Keyed.exists_get?_iff.2 (hkeys entry.1 (List.mem_map_of_mem hentry))
    exact ⟨w, hw, h entry.1 entry.2 w (hf.get?_of_mem hentry) hw⟩

/-- A relation of documents that is settled by their parts: by the leaves of values that are not
taken apart, by the items of arrays, and by the keys and the fields of objects. -/
structure SettledByParts (tolerance : Double) (R : Value → Value → Prop) : Prop where
  leaf : ∀ {v w : Value}, ¬ TakenApart v w → (R v w ↔ SameLeaf tolerance v w)
  array : ∀ {xs ys : List Value}, xs.length = ys.length → (R (.array xs) (.array ys) ↔
    ∀ (i : Nat) v w, xs[i]? = some v → ys[i]? = some w → R v w)
  object : ∀ {fs gs : Fields}, R (.object fs) (.object gs) ↔
    (∀ key, key ∈ Keyed.keys fs ↔ key ∈ Keyed.keys gs) ∧
      ∀ key v w, Keyed.get? key fs = some v → Keyed.get? key gs = some w → R v w

/-- **Agreement of ordered documents is the relation that is settled by parts.** -/
theorem SettledByParts.agree_iff {R : Value → Value → Prop} (h : SettledByParts tolerance R)
    {v w : Value} (hv : v.Ordered) (hw : w.Ordered) : agree tolerance v w = true ↔ R v w := by
  refine ordered_pair_induction (fun _ _ hparts => ?_) (fun _ _ hlen hitem => ?_)
    (fun hfs hgs hfield => ?_) hv hw
  · rw [agree_leaf_iff hparts, h.leaf hparts]
  · rw [agree_array_iff hlen, h.array hlen]
    constructor
    · exact fun hall i v w hx hy => (hitem i v w hx hy).1 (hall i v w hx hy)
    · exact fun hall i v w hx hy => (hitem i v w hx hy).2 (hall i v w hx hy)
  · rw [agree_object_iff hfs.sorted hgs.sorted, h.object]
    refine and_congr_right fun _ => ?_
    constructor
    · exact fun hall key v w hf hg => (hfield key v w hf hg).1 (hall key v w hf hg)
    · exact fun hall key v w hf hg => (hfield key v w hf hg).2 (hall key v w hf hg)

/-- Whether two documents disagree nowhere is settled by their parts. -/
theorem settledByParts_disagreesAt : SettledByParts tolerance fun v w =>
    ∀ place difference, ¬ DisagreesAt tolerance v w place difference := by
  refine ⟨fun hparts => ?_, fun hlen => ?_, ?_⟩
  · constructor
    · intro h
      exact Classical.byContradiction fun hne => h [] .changed (.changed hparts hne)
    · intro h place difference hd
      exact ((disagreesAt_leaf_iff hparts).1 hd).1 h
  · constructor
    · exact fun h i v w hx hy place difference hd => h _ _ (.item hlen hx hy hd)
    · intro h place difference hd
      obtain ⟨i, v, w, rest, hx, hy, -, hd⟩ := (disagreesAt_array_iff hlen).1 hd
      exact h i v w hx hy rest difference hd
  · intro fs gs
    constructor
    · intro h
      refine ⟨fun key => ⟨fun hf => ?_, fun hg => ?_⟩, fun key v w hf hg place difference hd => ?_⟩
      · exact Decidable.byContradiction fun hg => h _ _ (.missing hf hg)
      · exact Decidable.byContradiction fun hf => h _ _ (.extra hf hg)
      · exact h _ _ (.field hf hg hd)
    · rintro ⟨hkeys, h⟩ place difference hd
      rcases disagreesAt_object_iff.1 hd with ⟨key, hf, hg, -⟩ | ⟨key, hf, hg, -⟩ |
        ⟨key, v, w, rest, hf, hg, -, hd⟩
      · exact hg ((hkeys key).1 hf)
      · exact hf ((hkeys key).2 hg)
      · exact h key v w hf hg rest difference hd

/-- **Ordered documents agree when they disagree nowhere.** -/
theorem agree_iff_forall_not_disagreesAt {v w : Value} (hv : v.Ordered) (hw : w.Ordered) :
    agree tolerance v w = true ↔
      ∀ place difference, ¬ DisagreesAt tolerance v w place difference :=
  settledByParts_disagreesAt.agree_iff hv hw

end

/-! ### Documents that match -/

/-- Documents of the same structure: of the same kinds, with the same keys in every object and the
same length of every array, with equal texts and booleans, and with numbers that lie within the
tolerance of each other. -/
inductive Matches (tolerance : Double) : Value → Value → Prop
  | null : Matches tolerance .null .null
  | bool {b : Bool} : Matches tolerance (.bool b) (.bool b)
  | number {m n : Number} :
      Double.within tolerance m.toDouble n.toDouble = true →
      Matches tolerance (.number m) (.number n)
  | string {s : String} : Matches tolerance (.string s) (.string s)
  | array {xs ys : List Value} :
      xs.length = ys.length →
      (∀ (i : Nat) v w, xs[i]? = some v → ys[i]? = some w → Matches tolerance v w) →
      Matches tolerance (.array xs) (.array ys)
  | object {fs gs : Fields} :
      (∀ key, key ∈ Keyed.keys fs ↔ key ∈ Keyed.keys gs) →
      (∀ key v w, Keyed.get? key fs = some v → Keyed.get? key gs = some w →
        Matches tolerance v w) →
      Matches tolerance (.object fs) (.object gs)

section

variable {tolerance : Double}

/-- Whether two documents match is settled by their parts. -/
theorem settledByParts_matches : SettledByParts tolerance (Matches tolerance) := by
  refine ⟨fun {v w} hparts => ⟨fun h => ?_, fun h => ?_⟩, fun hlen => ⟨fun h => ?_, .array hlen⟩,
    fun {fs gs} => ⟨fun h => ?_, fun h => .object h.1 h.2⟩⟩
  · cases h with
    | number hnear => exact hnear
    | array hlen => exact absurd hlen hparts
    | object => exact absurd trivial hparts
    | _ => rfl
  · cases v with
    | null => cases h; exact .null
    | bool b => cases h; exact .bool
    | string s => cases h; exact .string
    | number m =>
      cases w with
      | number n => exact .number h
      | _ => cases h
    | array xs =>
      cases h
      exact absurd rfl hparts
    | object fs =>
      cases h
      exact absurd trivial hparts
  · cases h with
    | array _ h => exact h
  · cases h with
    | object hkeys h => exact ⟨hkeys, h⟩

/-- **Ordered documents agree when they match.** -/
theorem agree_iff_matches {v w : Value} (hv : v.Ordered) (hw : w.Ordered) :
    agree tolerance v w = true ↔ Matches tolerance v w :=
  settledByParts_matches.agree_iff hv hw

end

end Reshape
