import Reshape.Diff.Report
import Reshape.Proofs.Agreement
import Mathlib.Data.List.Induction
import Mathlib.Data.List.Lex

/-!
# Lists of disagreements

A comparison lists what two documents disagree in:

* **`below`** — the disagreements of two values at a place, none of values that agree;
* **`Found`** — a disagreement of two values that are themselves at a place;
* **`Step.Before`**, **`Disagreement.Before`** — the order in which documents are walked;
* **`PlaceReads`**, **`Reads`** — the wording of places and of disagreements.

The list holds the disagreements and nothing else (**`mem_below`**), in the order of the documents
(**`pairwise_below`**).  The main statement is **`compareValues_reports`**, on ordered documents.
-/

namespace Reshape

open Json

/-! ### Lists of disagreements -/

/-- The disagreements of two values at a place, none of values that agree. -/
def below (tolerance : Double) (place : List Step) (v w : Value) : List Disagreement :=
  if agree tolerance v w then [] else disagreements tolerance place v w

/-- The disagreements under the key of a field of the first object. -/
def belowField (tolerance : Double) (place : List Step) (gs : Fields) (field : String × Value) :
    List Disagreement :=
  match Keyed.get? field.1 gs with
  | some w => below tolerance (place ++ [.key field.1]) field.2 w
  | none => [⟨place ++ [.key field.1], .missing⟩]

/-- The disagreements of two objects by key. -/
def belowKeys (tolerance : Double) (place : List Step) (fs gs : Fields) :
    Keyed (List Disagreement) :=
  List.merge (fs.map fun field => (field.1, belowField tolerance place gs field))
    (extraFields place fs gs) fun x y => decide (x.1 ≤ y.1)

/-- The disagreement is one of the two values when these are at the place. -/
def Found (tolerance : Double) (place : List Step) (v w : Value) (d : Disagreement) : Prop :=
  ∃ rest, d.place = place ++ rest ∧ DisagreesAt tolerance v w rest d.difference

section

variable {tolerance : Double} {place : List Step} {d : Disagreement}

theorem below_of_agree {v w : Value} (h : agree tolerance v w = true) :
    below tolerance place v w = [] := if_pos h

theorem below_of_not_agree {v w : Value} (h : ¬ agree tolerance v w = true) :
    below tolerance place v w = disagreements tolerance place v w := if_neg h

theorem fieldDisagreements_eq (fs gs : Fields) :
    fieldDisagreements tolerance place fs gs =
      fs.map fun field => (field.1, belowField tolerance place gs field) := by
  induction fs with
  | nil => rw [fieldDisagreements, List.map_nil]
  | cons field rest ih =>
    rcases field with ⟨key, v⟩
    rw [fieldDisagreements, ih]
    rfl

theorem disagreements_object (fs gs : Fields) :
    disagreements tolerance place (.object fs) (.object gs) =
      (belowKeys tolerance place fs gs).flatMap Prod.snd := by
  rw [disagreements, fieldDisagreements_eq]
  rfl

theorem disagreements_array {xs ys : List Value} (hlen : xs.length = ys.length) :
    disagreements tolerance place (.array xs) (.array ys) =
      itemDisagreements tolerance place 0 xs ys := by
  rw [disagreements, if_pos hlen]

theorem disagreements_leaf {v w : Value} (hparts : ¬ TakenApart v w) :
    disagreements tolerance place v w = [⟨place, .changed⟩] := by
  cases v with
  | array xs =>
    cases w with
    | array ys =>
      rw [disagreements]
      exact if_neg hparts
    | _ => rw [disagreements] <;> exact nofun
  | object fs =>
    cases w with
    | object gs => exact absurd trivial hparts
    | _ => rw [disagreements] <;> exact nofun
  | _ => rw [disagreements] <;> exact nofun

/-! ### What is listed -/

theorem mem_extraFields {fs gs : Fields} {entry : String × List Disagreement} :
    entry ∈ extraFields place fs gs ↔
      ∃ key, key ∉ Keyed.keys fs ∧ key ∈ Keyed.keys gs ∧
        entry = (key, [⟨place ++ [.key key], .extra⟩]) := by
  have hnot : ∀ key : String, (!Keyed.has key fs) = true ↔ key ∉ Keyed.keys fs := by
    intro key
    rw [← Keyed.has_iff, Bool.not_eq_true', Bool.not_eq_true]
  unfold extraFields
  constructor
  · intro h
    obtain ⟨g, hg, rfl⟩ := List.mem_map.1 h
    obtain ⟨hmem, hextra⟩ := List.mem_filter.1 hg
    exact ⟨g.1, (hnot g.1).1 hextra, List.mem_map_of_mem hmem, rfl⟩
  · rintro ⟨key, hf, hg, rfl⟩
    obtain ⟨g, hmem, rfl⟩ := List.mem_map.1 hg
    exact List.mem_map_of_mem (List.mem_filter.2 ⟨hmem, (hnot g.1).2 hf⟩)

theorem mem_belowKeys {fs gs : Fields} {entry : String × List Disagreement} :
    entry ∈ belowKeys tolerance place fs gs ↔
      (∃ field ∈ fs, entry = (field.1, belowField tolerance place gs field)) ∨
        ∃ key, key ∉ Keyed.keys fs ∧ key ∈ Keyed.keys gs ∧
          entry = (key, [⟨place ++ [.key key], .extra⟩]) := by
  rw [belowKeys, List.mem_merge, mem_extraFields, List.mem_map]
  simp only [eq_comm]

theorem mem_itemDisagreements {xs ys : List Value} {i : Nat} :
    d ∈ itemDisagreements tolerance place i xs ys ↔
      ∃ (j : Nat) (v w : Value), xs[j]? = some v ∧ ys[j]? = some w ∧
        d ∈ below tolerance (place ++ [.item (i + j)]) v w := by
  induction xs generalizing ys i with
  | nil => simp [itemDisagreements]
  | cons x xs ih =>
    cases ys with
    | nil => simp [itemDisagreements]
    | cons y ys =>
      show d ∈ below tolerance (place ++ [.item i]) x y ++ itemDisagreements _ _ _ xs ys ↔ _
      rw [List.mem_append, ih]
      constructor
      · rintro (h | ⟨j, v, w, hv, hw, h⟩)
        · exact ⟨0, x, y, rfl, rfl, h⟩
        · refine ⟨j + 1, v, w, hv, hw, ?_⟩
          rwa [show i + (j + 1) = i + 1 + j by omega]
      · rintro ⟨j, v, w, hv, hw, h⟩
        cases j with
        | zero =>
          cases hv
          cases hw
          exact .inl h
        | succ j =>
          refine .inr ⟨j, v, w, hv, hw, ?_⟩
          rwa [show i + 1 + j = i + (j + 1) by omega]

/-- Behind a step, a disagreement is one of the values there. -/
theorem found_step {step : Step} {v w : Value} :
    Found tolerance (place ++ [step]) v w d ↔
      ∃ rest, d.place = place ++ step :: rest ∧ DisagreesAt tolerance v w rest d.difference := by
  simp only [Found, List.append_assoc, List.singleton_append]

theorem found_leaf {v w : Value} (hparts : ¬ TakenApart v w) :
    Found tolerance place v w d ↔ ¬ SameLeaf tolerance v w ∧ d = ⟨place, .changed⟩ := by
  rcases d with ⟨steps, difference⟩
  simp only [Found, disagreesAt_leaf_iff hparts]
  constructor
  · rintro ⟨rest, hplace, hleaf, rfl, hdifference⟩
    rw [List.append_nil] at hplace
    cases hplace
    cases hdifference
    exact ⟨hleaf, rfl⟩
  · rintro ⟨hleaf, h⟩
    cases h
    exact ⟨[], (List.append_nil _).symm, hleaf, rfl, rfl⟩

theorem found_object {fs gs : Fields} :
    Found tolerance place (.object fs) (.object gs) d ↔
      (∃ key, key ∈ Keyed.keys fs ∧ key ∉ Keyed.keys gs ∧
        d = ⟨place ++ [.key key], .missing⟩) ∨
      (∃ key, key ∉ Keyed.keys fs ∧ key ∈ Keyed.keys gs ∧
        d = ⟨place ++ [.key key], .extra⟩) ∨
      ∃ key v w, Keyed.get? key fs = some v ∧ Keyed.get? key gs = some w ∧
        Found tolerance (place ++ [.key key]) v w d := by
  simp only [found_step]
  rcases d with ⟨steps, difference⟩
  constructor
  · rintro ⟨rest, hplace, hd⟩
    rcases disagreesAt_object_iff.1 hd with ⟨key, hf, hg, rfl, hdiff⟩ |
      ⟨key, hf, hg, rfl, hdiff⟩ | ⟨key, v, w, rest, hf, hg, rfl, hvalues⟩
    · cases hplace
      cases hdiff
      exact .inl ⟨key, hf, hg, rfl⟩
    · cases hplace
      cases hdiff
      exact .inr (.inl ⟨key, hf, hg, rfl⟩)
    · exact .inr (.inr ⟨key, v, w, hf, hg, rest, hplace, hvalues⟩)
  · rintro (⟨key, hf, hg, h⟩ | ⟨key, hf, hg, h⟩ | ⟨key, v, w, hf, hg, rest, hplace, hd⟩)
    · cases h
      exact ⟨_, rfl, .missing hf hg⟩
    · cases h
      exact ⟨_, rfl, .extra hf hg⟩
    · exact ⟨_, hplace, .field hf hg hd⟩

theorem found_array {xs ys : List Value} (hlen : xs.length = ys.length) :
    Found tolerance place (.array xs) (.array ys) d ↔
      ∃ (i : Nat) (v w : Value), xs[i]? = some v ∧ ys[i]? = some w ∧
        Found tolerance (place ++ [.item i]) v w d := by
  simp only [found_step]
  constructor
  · rintro ⟨rest, hplace, hd⟩
    obtain ⟨i, v, w, rest, hx, hy, rfl, hvalues⟩ := (disagreesAt_array_iff hlen).1 hd
    exact ⟨i, v, w, hx, hy, rest, hplace, hvalues⟩
  · rintro ⟨i, v, w, hx, hy, rest, hplace, hd⟩
    exact ⟨_, hplace, .item hlen hx hy hd⟩

/-- What is listed of values that do not agree is what is listed, whether they agree or not. -/
theorem mem_below_of_disagreements {v w : Value} (hv : v.Ordered) (hw : w.Ordered)
    (h : ¬ agree tolerance v w = true →
      (d ∈ disagreements tolerance place v w ↔ Found tolerance place v w d)) :
    d ∈ below tolerance place v w ↔ Found tolerance place v w d := by
  by_cases hagree : agree tolerance v w = true
  · rw [below_of_agree hagree]
    constructor
    · exact nofun
    · rintro ⟨rest, -, hd⟩
      exact absurd hd ((agree_iff_forall_not_disagreesAt hv hw).1 hagree rest d.difference)
  · rw [below_of_not_agree hagree]
    exact h hagree

theorem mem_disagreements_of_leaf {v w : Value} (hparts : ¬ TakenApart v w)
    (hagree : ¬ agree tolerance v w = true) :
    d ∈ disagreements tolerance place v w ↔ Found tolerance place v w d := by
  rw [disagreements_leaf hparts, List.mem_singleton, found_leaf hparts, ← agree_leaf_iff hparts]
  exact (and_iff_right hagree).symm

theorem mem_disagreements_of_array {xs ys : List Value} (hlen : xs.length = ys.length)
    (h : ∀ (i : Nat) v w, xs[i]? = some v → ys[i]? = some w →
      (d ∈ below tolerance (place ++ [.item i]) v w ↔ Found tolerance (place ++ [.item i]) v w d)) :
    d ∈ disagreements tolerance place (.array xs) (.array ys) ↔
      Found tolerance place (.array xs) (.array ys) d := by
  rw [disagreements_array hlen, mem_itemDisagreements, found_array hlen]
  simp only [Nat.zero_add]
  constructor
  · rintro ⟨i, v, w, hx, hy, hd⟩
    exact ⟨i, v, w, hx, hy, (h i v w hx hy).1 hd⟩
  · rintro ⟨i, v, w, hx, hy, hd⟩
    exact ⟨i, v, w, hx, hy, (h i v w hx hy).2 hd⟩

theorem mem_disagreements_of_object {fs gs : Fields} (hsorted : Keyed.Sorted fs)
    (h : ∀ key v w, Keyed.get? key fs = some v → Keyed.get? key gs = some w →
      (d ∈ below tolerance (place ++ [.key key]) v w ↔
        Found tolerance (place ++ [.key key]) v w d)) :
    d ∈ disagreements tolerance place (.object fs) (.object gs) ↔
      Found tolerance place (.object fs) (.object gs) d := by
  have hfield : ∀ field ∈ fs, (d ∈ belowField tolerance place gs field ↔
      (field.1 ∉ Keyed.keys gs ∧ d = ⟨place ++ [.key field.1], .missing⟩) ∨
        ∃ w, Keyed.get? field.1 gs = some w ∧
          Found tolerance (place ++ [.key field.1]) field.2 w d) := by
    intro field hmem
    rw [belowField, ← Keyed.exists_get?_iff]
    cases hw : Keyed.get? field.1 gs with
    | none => simp
    | some w => simpa using h field.1 field.2 w (hsorted.get?_of_mem hmem) hw
  rw [disagreements_object, List.mem_flatMap, found_object]
  constructor
  · rintro ⟨entry, hentry, hd⟩
    rcases mem_belowKeys.1 hentry with ⟨field, hmem, rfl⟩ | ⟨key, hf, hg, rfl⟩
    · rcases (hfield field hmem).1 hd with ⟨hg, hmissing⟩ | ⟨w, hw, hfound⟩
      · exact .inl ⟨field.1, List.mem_map_of_mem hmem, hg, hmissing⟩
      · exact .inr (.inr ⟨field.1, field.2, w, hsorted.get?_of_mem hmem, hw, hfound⟩)
    · exact .inr (.inl ⟨key, hf, hg, List.mem_singleton.1 hd⟩)
  · rintro (⟨key, hf, hg, hmissing⟩ | ⟨key, hf, hg, hextra⟩ | ⟨key, v, w, hv, hw, hfound⟩)
    · obtain ⟨field, hmem, rfl⟩ := List.mem_map.1 hf
      exact ⟨_, mem_belowKeys.2 (.inl ⟨field, hmem, rfl⟩),
        (hfield field hmem).2 (.inl ⟨hg, hmissing⟩)⟩
    · exact ⟨_, mem_belowKeys.2 (.inr ⟨key, hf, hg, rfl⟩), List.mem_singleton.2 hextra⟩
    · have hmem := Keyed.mem_of_get? hv
      exact ⟨_, mem_belowKeys.2 (.inl ⟨_, hmem, rfl⟩), (hfield _ hmem).2 (.inr ⟨w, hw, hfound⟩)⟩

/-- **What is listed are the disagreements.** -/
theorem mem_below {v w : Value} (hv : v.Ordered) (hw : w.Ordered) :
    d ∈ below tolerance place v w ↔ Found tolerance place v w d := by
  -- The place is general: below a step, the list is the one of the values there.
  suffices h : ∀ place, d ∈ below tolerance place v w ↔ Found tolerance place v w d from h place
  refine ordered_pair_induction (fun hv hw hparts place => ?_) (fun hxs hys hlen hitem place => ?_)
    (fun hfs hgs hfield place => ?_) hv hw
  · refine mem_below_of_disagreements hv hw fun hagree => ?_
    exact mem_disagreements_of_leaf hparts hagree
  · refine mem_below_of_disagreements hxs hys fun _ => ?_
    exact mem_disagreements_of_array hlen fun i v w hx hy => hitem i v w hx hy _
  · refine mem_below_of_disagreements hfs hgs fun _ => ?_
    exact mem_disagreements_of_object hfs.sorted fun key v w hf hg => hfield key v w hf hg _

end

/-! ### The order of the list -/

/-- Of two steps into one value, the one is taken first: keys in their order, and items in
theirs. -/
inductive Step.Before : Step → Step → Prop
  | key {k l : String} : k < l → Before (.key k) (.key l)
  | item {i j : Nat} : i < j → Before (.item i) (.item j)

/-- The one disagreement comes before the other when the documents are walked depth first. -/
def Disagreement.Before (d e : Disagreement) : Prop := List.Lex Step.Before d.place e.place

/-- The disagreement lies behind a step from the place. -/
def Behind (place : List Step) (step : Step) (d : Disagreement) : Prop :=
  ∃ rest, d.place = place ++ step :: rest

theorem Disagreement.Before.irrefl (d : Disagreement) : ¬ d.Before d := by
  refine List.lex_irrefl (fun step hstep => ?_) d.place
  cases hstep with
  | key hlt => exact String.lt_irrefl _ hlt
  | item hlt => exact Nat.lt_irrefl _ hlt

theorem before_of_behind {place : List Step} {s t : Step} {d e : Disagreement}
    (hst : Step.Before s t) (hd : Behind place s d) (he : Behind place t e) : d.Before e := by
  obtain ⟨rest, hd⟩ := hd
  obtain ⟨more, he⟩ := he
  unfold Disagreement.Before
  rw [hd, he]
  exact List.Lex.append_left _ (.rel hst) place

section

variable {tolerance : Double} {place : List Step}

theorem behind_of_mem_below {v w : Value} (hv : v.Ordered) (hw : w.Ordered) {step : Step}
    {d : Disagreement} (h : d ∈ below tolerance (place ++ [step]) v w) : Behind place step d := by
  obtain ⟨rest, hplace, -⟩ := found_step.1 ((mem_below hv hw).1 h)
  exact ⟨rest, hplace⟩

theorem pairwise_itemDisagreements {xs ys : List Value} (hx : ∀ x ∈ xs, x.Ordered)
    (hy : ∀ y ∈ ys, y.Ordered)
    (h : ∀ (i : Nat) v w, xs[i]? = some v → ys[i]? = some w → ∀ place,
      (below tolerance place v w).Pairwise Disagreement.Before) (i : Nat) :
    (itemDisagreements tolerance place i xs ys).Pairwise Disagreement.Before := by
  induction xs generalizing ys i with
  | nil => simp [itemDisagreements]
  | cons x xs ih =>
    cases ys with
    | nil => simp [itemDisagreements]
    | cons y ys =>
      obtain ⟨hx, hxs⟩ := List.forall_mem_cons.1 hx
      obtain ⟨hy, hys⟩ := List.forall_mem_cons.1 hy
      show (below tolerance (place ++ [.item i]) x y ++
        itemDisagreements tolerance place (i + 1) xs ys).Pairwise Disagreement.Before
      refine List.pairwise_append.2 ⟨h 0 x y rfl rfl _, ?_, fun d hd e he => ?_⟩
      · exact ih hxs hys (fun j v w hv hw => h (j + 1) v w hv hw) (i + 1)
      · obtain ⟨j, v, w, hv, hw, he⟩ := mem_itemDisagreements.1 he
        have hlt : i < i + 1 + j := by omega
        have hv := hxs v (List.mem_of_getElem? hv)
        have hw := hys w (List.mem_of_getElem? hw)
        exact before_of_behind (.item hlt) (behind_of_mem_below hx hy hd)
          (behind_of_mem_below hv hw he)

theorem sorted_belowKeys {fs gs : Fields} (hf : Keyed.Sorted fs) (hg : Keyed.Sorted gs) :
    Keyed.Sorted (belowKeys tolerance place fs gs) := by
  refine Keyed.Sorted.merge (List.pairwise_map.2 hf) (List.pairwise_map.2 (hg.filter _)) ?_
  intro x hx y hy heq
  obtain ⟨field, hfield, rfl⟩ := List.mem_map.1 hx
  obtain ⟨key, hkey, -, rfl⟩ := mem_extraFields.1 hy
  have hsame : field.1 = key := heq
  exact hkey (hsame ▸ List.mem_map_of_mem hfield)

theorem behind_of_mem_belowKeys {fs gs : Fields} (hfs : ∀ field ∈ fs, field.2.Ordered)
    (hgs : (Value.object gs).Ordered) {entry : String × List Disagreement}
    (hentry : entry ∈ belowKeys tolerance place fs gs) {d : Disagreement} (hd : d ∈ entry.2) :
    Behind place (.key entry.1) d := by
  rcases mem_belowKeys.1 hentry with ⟨field, hfield, rfl⟩ | ⟨key, -, -, rfl⟩
  · have hmem : d ∈ belowField tolerance place gs field := hd
    rw [belowField] at hmem
    cases hw : Keyed.get? field.1 gs with
    | none =>
      rw [hw] at hmem
      cases List.mem_singleton.1 hmem
      exact ⟨[], rfl⟩
    | some w =>
      rw [hw] at hmem
      exact behind_of_mem_below (hfs field hfield) (hgs.field hw) hmem
  · cases List.mem_singleton.1 hd
    exact ⟨[], rfl⟩

theorem pairwise_disagreements_of_object {fs gs : Fields} (hfs : (Value.object fs).Ordered)
    (hgs : (Value.object gs).Ordered)
    (h : ∀ key v w, Keyed.get? key fs = some v → Keyed.get? key gs = some w → ∀ place,
      (below tolerance place v w).Pairwise Disagreement.Before) :
    (disagreements tolerance place (.object fs) (.object gs)).Pairwise Disagreement.Before := by
  rw [disagreements_object, List.pairwise_flatMap]
  constructor
  · intro entry hentry
    rcases mem_belowKeys.1 hentry with ⟨field, hfield, rfl⟩ | ⟨key, -, -, rfl⟩
    · show (belowField tolerance place gs field).Pairwise Disagreement.Before
      rw [belowField]
      cases hw : Keyed.get? field.1 gs with
      | none => exact List.pairwise_singleton _ _
      | some w => exact h field.1 field.2 w (hfs.sorted.get?_of_mem hfield) hw _
    · exact List.pairwise_singleton _ _
  · refine (sorted_belowKeys hfs.sorted hgs.sorted).imp_of_mem ?_
    intro a b ha hb hlt d hd e he
    have hfields : ∀ field ∈ fs, field.2.Ordered := fun field => hfs.entry
    exact before_of_behind (.key hlt) (behind_of_mem_belowKeys hfields hgs ha hd)
      (behind_of_mem_belowKeys hfields hgs hb he)

theorem pairwise_below_of_disagreements {v w : Value}
    (h : (disagreements tolerance place v w).Pairwise Disagreement.Before) :
    (below tolerance place v w).Pairwise Disagreement.Before := by
  unfold below
  split
  · exact .nil
  · exact h

theorem pairwise_below_of_leaf {v w : Value} (hparts : ¬ TakenApart v w) :
    (below tolerance place v w).Pairwise Disagreement.Before := by
  refine pairwise_below_of_disagreements ?_
  rw [disagreements_leaf hparts]
  exact List.pairwise_singleton _ _

/-- **Disagreements are listed in the order of the documents.** -/
theorem pairwise_below {v w : Value} (hv : v.Ordered) (hw : w.Ordered) :
    (below tolerance place v w).Pairwise Disagreement.Before := by
  suffices h : ∀ place, (below tolerance place v w).Pairwise Disagreement.Before from h place
  refine ordered_pair_induction (fun _ _ hparts place => ?_) (fun hxs hys hlen hitem place => ?_)
    (fun hfs hgs hfield place => ?_) hv hw
  · exact pairwise_below_of_leaf hparts
  · refine pairwise_below_of_disagreements ?_
    rw [disagreements_array hlen]
    exact pairwise_itemDisagreements (fun _ => hxs.item) (fun _ => hys.item) hitem 0
  · exact pairwise_below_of_disagreements (pairwise_disagreements_of_object hfs hgs hfield)

end

/-! ### Wordings -/

/-- The text of a place: keys behind dots, except as long as the text is empty, and positions in
brackets. -/
inductive PlaceReads : List Step → String → Prop
  | root : PlaceReads [] ""
  | first {place : List Step} {key : String} :
      PlaceReads place "" → PlaceReads (place ++ [.key key]) key
  | key {place : List Step} {text key : String} :
      PlaceReads place text → text ≠ "" → PlaceReads (place ++ [.key key]) (text ++ "." ++ key)
  | item {place : List Step} {text : String} {i : Nat} :
      PlaceReads place text → PlaceReads (place ++ [.item i]) (text ++ "[" ++ toString i ++ "]")

/-- The text of a disagreement: that of its place, with a mark for a key that is in one document
only, and a sign for a place without text. -/
inductive Reads : Disagreement → String → Prop
  | changed {place : List Step} {text : String} :
      PlaceReads place text → text ≠ "" → Reads ⟨place, .changed⟩ text
  | root {place : List Step} : PlaceReads place "" → Reads ⟨place, .changed⟩ "$"
  | missing {place : List Step} {text : String} :
      PlaceReads place text → Reads ⟨place, .missing⟩ (text ++ " (missing in actual)")
  | extra {place : List Step} {text : String} :
      PlaceReads place text → Reads ⟨place, .extra⟩ (text ++ " (extra in actual)")

theorem placeText_reads (place : List Step) : PlaceReads place (placeText place) := by
  induction place using List.reverseRecOn with
  | nil => exact .root
  | append_singleton place step ih =>
    rw [placeText_snoc]
    cases step with
    | key key =>
      show PlaceReads _ (if placeText place = "" then key else placeText place ++ "." ++ key)
      by_cases hempty : placeText place = ""
      · rw [hempty] at ih
        rw [if_pos hempty]
        exact .first ih
      · rw [if_neg hempty]
        exact .key ih hempty
    | item i => exact .item ih

/-- **A disagreement is worded by its place.** -/
theorem text_reads (d : Disagreement) : Reads d d.text := by
  rcases d with ⟨place, difference⟩
  have hplace := placeText_reads place
  cases difference with
  | changed =>
    show Reads _ (if placeText place = "" then "$" else placeText place)
    by_cases hempty : placeText place = ""
    · rw [hempty] at hplace
      rw [if_pos hempty]
      exact .root hplace
    · rw [if_neg hempty]
      exact .changed hplace hempty
  | missing => exact .missing hplace
  | extra => exact .extra hplace

/-! ### Comparisons -/

theorem compareValues_differences (options : DiffOptions) (ansi : Bool) (expected actual : Value) :
    (compareValues options ansi expected actual).differences =
      below options.tolerance [] expected actual := by
  unfold compareValues below
  split <;> rfl

theorem mem_differences_iff {options : DiffOptions} {ansi : Bool} {expected actual : Value}
    (hexpected : expected.Ordered) (hactual : actual.Ordered) {d : Disagreement} :
    d ∈ (compareValues options ansi expected actual).differences ↔
      DisagreesAt options.tolerance expected actual d.place d.difference := by
  rw [compareValues_differences, mem_below hexpected hactual]
  simp [Found]

/-- The comparison reports the disagreements of two documents. -/
structure Comparison.Reports (tolerance : Double) (expected actual : Value) (c : Comparison) :
    Prop where
  /-- The documents agree when they disagree nowhere. -/
  agrees : c.agrees = true ↔
    ∀ place difference, ¬ DisagreesAt tolerance expected actual place difference
  /-- Something is listed when they do not agree. -/
  silent : c.agrees = true ↔ c.differences = []
  /-- All disagreements are listed, and nothing else. -/
  listed : ∀ d, d ∈ c.differences ↔ DisagreesAt tolerance expected actual d.place d.difference
  /-- They are listed in the order of the documents. -/
  ordered : c.differences.Pairwise Disagreement.Before
  /-- No place is listed twice. -/
  once : (c.differences.map Disagreement.place).Nodup
  /-- They are worded by their places. -/
  worded : List.Forall₂ Reads c.differences (c.differences.map Disagreement.text)

/-- **A comparison reports exactly the disagreements** of ordered documents: all of them, each once,
in the order in which the documents are walked. -/
theorem compareValues_reports (options : DiffOptions) (ansi : Bool) {expected actual : Value}
    (hexpected : expected.Ordered) (hactual : actual.Ordered) :
    (compareValues options ansi expected actual).Reports options.tolerance expected actual := by
  have hagree : (compareValues options ansi expected actual).agrees = true ↔
      ∀ place difference, ¬ DisagreesAt options.tolerance expected actual place difference := by
    rw [compareValues_agrees, agree_iff_forall_not_disagreesAt hexpected hactual]
  have hlisted : ∀ d, d ∈ (compareValues options ansi expected actual).differences ↔
      DisagreesAt options.tolerance expected actual d.place d.difference := by
    intro d
    rw [compareValues_differences, mem_below hexpected hactual]
    simp [Found]
  have hordered : (compareValues options ansi expected actual).differences.Pairwise
      Disagreement.Before := by
    rw [compareValues_differences]
    exact pairwise_below hexpected hactual
  refine ⟨hagree, ?_, hlisted, hordered, ?_, ?_⟩
  · rw [hagree, List.eq_nil_iff_forall_not_mem]
    constructor
    · intro h d hd
      exact h d.place d.difference ((hlisted d).1 hd)
    · intro h place difference hd
      exact h ⟨place, difference⟩ ((hlisted _).2 hd)
  · refine List.pairwise_map.2 (hordered.imp fun {d e} hbefore hsame => ?_)
    refine Disagreement.Before.irrefl d ?_
    unfold Disagreement.Before at hbefore ⊢
    rwa [← hsame] at hbefore
  · exact List.forall₂_map_right_iff.2 (List.forall₂_same.2 fun d _ => text_reads d)

/-- A document with a key without text and a list with an object in it. -/
def expectedShelf : Value :=
  .object [("", .nat 1), ("gone", .null),
    ("list", .array [.nat 1, .object [("title", .string "Emma")]])]

/-- A document that differs from it at every key. -/
def actualShelf : Value :=
  .object [("", .nat 2), ("list", .array [.nat 1, .object [("title", .string "Emil")]]),
    ("more", .array [])]

theorem compareValues_reports_shelf :
    expectedShelf.Ordered ∧ actualShelf.Ordered ∧
      (compareValues .standard false expectedShelf actualShelf).agrees = false ∧
      (compareValues .standard false expectedShelf actualShelf).Reports
        DiffOptions.standard.tolerance expectedShelf actualShelf ∧
      "list[1].title" ∈ (compareValues .standard false expectedShelf actualShelf).differences.map
        Disagreement.text := by
  have hexpected : expectedShelf.Ordered := Value.ordered_of_isOrdered _ (by decide)
  have hactual : actualShelf.Ordered := Value.ordered_of_isOrdered _ (by decide)
  have hreports := compareValues_reports .standard false hexpected hactual
  have htitle : DisagreesAt DiffOptions.standard.tolerance (.string "Emma") (.string "Emil") []
      .changed := by
    refine .changed id fun hsame => ?_
    exact absurd (Value.string.inj hsame) (by decide)
  have hplace : DisagreesAt DiffOptions.standard.tolerance expectedShelf actualShelf
      [.key "list", .item 1, .key "title"] .changed :=
    .field rfl rfl (.item rfl rfl rfl (.field rfl rfl htitle))
  refine ⟨hexpected, hactual, ?_, hreports, ?_⟩
  · rw [compareValues_agrees]
    decide +kernel
  · exact List.mem_map.2 ⟨_, (hreports.listed ⟨_, .changed⟩).2 hplace, by decide⟩

end Reshape
