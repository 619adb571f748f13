import Reshape.Json.Reader
import Reshape.Path
import Reshape.Proofs.Keyed

/-!
# Ordered documents

The fields of an object are meant to be in strict order of their keys.  A document is ordered when
this is so at every depth, and what the library makes of ordered documents is ordered again:

* **`Json.Value.Ordered`** — a document with ordered objects only;
* **`Json.Value.Ordered.child`** — a step into an ordered document;
* **`Json.Value.Ordered.set`** — an ordered object with one more field;
* **`Json.Value.isOrdered`** — a check of given documents;
* **`Json.read_ordered`** — every document that is read from a text is ordered.
-/

namespace Reshape

namespace Json

/-- A document all of whose objects have their fields in strict order of the keys. -/
inductive Value.Ordered : Value → Prop
  | null : Ordered .null
  | bool {b : Bool} : Ordered (.bool b)
  | number {n : Number} : Ordered (.number n)
  | string {s : String} : Ordered (.string s)
  | array {items : List Value} : (∀ item ∈ items, item.Ordered) → Ordered (.array items)
  | object {fields : Fields} :
      Keyed.Sorted fields → (∀ entry ∈ fields, entry.2.Ordered) → Ordered (.object fields)

namespace Value.Ordered

theorem item {items : List Value} (h : (Value.array items).Ordered) {v : Value} (hv : v ∈ items) :
    v.Ordered := by
  cases h with
  | array hitems => exact hitems v hv

theorem sorted {fields : Fields} (h : (Value.object fields).Ordered) : Keyed.Sorted fields := by
  cases h with
  | object hsorted _ => exact hsorted

theorem entry {fields : Fields} (h : (Value.object fields).Ordered) {e : String × Value}
    (he : e ∈ fields) : e.2.Ordered := by
  cases h with
  | object _ hfields => exact hfields e he

theorem field {fields : Fields} (h : (Value.object fields).Ordered) {key : String} {v : Value}
    (hv : Keyed.get? key fields = some v) : v.Ordered := h.entry (Keyed.mem_of_get? hv)

theorem empty : (Value.object []).Ordered := .object List.Pairwise.nil nofun

/-- **An ordered object stays ordered** when an ordered document is put under a key. -/
theorem set {fields : Fields} (h : (Value.object fields).Ordered) {v : Value} (hv : v.Ordered)
    (key : String) : (Value.object (Keyed.set key v fields)).Ordered := by
  refine .object (Keyed.sorted_set h.sorted) fun e he => ?_
  rcases Keyed.mem_set he with rfl | hmem
  · exact hv
  · exact h.entry hmem

theorem ofList {pairs : List (String × Value)} (h : ∀ pair ∈ pairs, pair.2.Ordered) :
    (Value.object (Keyed.ofList pairs)).Ordered := by
  have hfold : ∀ fields : Fields, (Value.object fields).Ordered →
      (Value.object
        (pairs.foldl (fun entries pair => Keyed.set pair.1 pair.2 entries) fields)).Ordered := by
    induction pairs with
    | nil => exact fun _ hfields => hfields
    | cons pair rest ih =>
      intro fields hfields
      exact ih (fun p hp => h p (List.mem_cons_of_mem pair hp)) _
        (hfields.set (h pair List.mem_cons_self) pair.1)
  exact hfold [] empty

/-- **What a step of a path leads to is ordered.** -/
theorem child {v w : Value} (h : v.Ordered) {segment : String} (hw : child? segment v = some w) :
    w.Ordered := by
  cases v with
  | object fields => exact h.field hw
  | array items =>
    obtain ⟨i, -, hi⟩ := Option.bind_eq_some_iff.1 hw
    exact h.item (List.mem_of_getElem? hi)
  | _ => cases hw

end Value.Ordered

/-! ### Checking order -/

mutual

/-- Whether a document is ordered. -/
def Value.isOrdered (v : Value) : Bool :=
  match v with
  | .array items => itemsAreOrdered items
  | .object fields => decide (Keyed.Sorted fields) && fieldsAreOrdered fields
  | _ => true
termination_by structural v

/-- Whether all items are ordered. -/
def itemsAreOrdered (items : List Value) : Bool :=
  match items with
  | [] => true
  | v :: rest => v.isOrdered && itemsAreOrdered rest
termination_by structural items

/-- Whether the values of all fields are ordered. -/
def fieldsAreOrdered (fields : List (String × Value)) : Bool :=
  match fields with
  | [] => true
  | (_, v) :: rest => v.isOrdered && fieldsAreOrdered rest
termination_by structural fields

end

mutual

theorem Value.ordered_of_isOrdered (v : Value) (h : v.isOrdered = true) : v.Ordered := by
  match v with
  | .null => exact .null
  | .bool b => exact .bool
  | .number n => exact .number
  | .string s => exact .string
  | .array items =>
    rw [Value.isOrdered] at h
    exact .array (ordered_of_itemsAreOrdered items h)
  | .object fields =>
    rw [Value.isOrdered, Bool.and_eq_true] at h
    exact .object (of_decide_eq_true h.1) (ordered_of_fieldsAreOrdered fields h.2)

theorem ordered_of_itemsAreOrdered (items : List Value) (h : itemsAreOrdered items = true) :
    ∀ v ∈ items, v.Ordered := by
  match items with
  | [] => exact nofun
  | v :: rest =>
    rw [itemsAreOrdered, Bool.and_eq_true] at h
    exact List.forall_mem_cons.2
      ⟨Value.ordered_of_isOrdered v h.1, ordered_of_itemsAreOrdered rest h.2⟩

theorem ordered_of_fieldsAreOrdered (fields : List (String × Value))
    (h : fieldsAreOrdered fields = true) : ∀ e ∈ fields, e.2.Ordered := by
  match fields with
  | [] => exact nofun
  | (key, v) :: rest =>
    rw [fieldsAreOrdered, Bool.and_eq_true] at h
    exact List.forall_mem_cons.2
      ⟨Value.ordered_of_isOrdered v h.1, ordered_of_fieldsAreOrdered rest h.2⟩

end

/-! ### Documents that are read -/

/-- Whatever the scan gives has the property. -/
def Scan.Gives {α : Type} (good : α → Prop) (scan : Scan α) : Prop :=
  ∀ c a rest, scan c = .ok (a, rest) → good a

namespace Scan

variable {α β : Type} {good : β → Prop}

theorem gives_pure {b : β} (h : good b) : Gives good (pure b) := by
  intro c a rest hrun
  cases hrun
  exact h

theorem gives_atCursor (flaw : Flaw) : Gives good (atCursor flaw) := nofun

theorem gives_behindNext (flaw : Flaw) : Gives good (behindNext flaw) := nofun

/-- What goes on with anything gives what the second part gives. -/
theorem gives_bind {known : α → Prop} {scan : Scan α} {f : α → Scan β} (hscan : Gives known scan)
    (h : ∀ a, known a → Gives good (f a)) : Gives good (scan >>= f) := by
  intro c b rest hrun
  cases hfirst : scan c with
  | error slip =>
    have hfail : (scan >>= f) c = .error slip := by
      show (scan c).bind _ = _
      rw [hfirst]
      rfl
    rw [hfail] at hrun
    cases hrun
  | ok found =>
    have hgo : (scan >>= f) c = f found.1 found.2 := by
      show (scan c).bind _ = _
      rw [hfirst]
      rfl
    rw [hgo] at hrun
    exact h found.1 (hscan c found.1 found.2 hfirst) found.2 b rest hrun

theorem gives_anything (scan : Scan α) : Gives (fun _ => True) scan := fun _ _ _ _ => trivial

theorem gives_behind {scan : Scan α} {f : α → Scan β} (h : ∀ a, Gives good (f a)) :
    Gives good (scan >>= f) := gives_bind (gives_anything scan) fun a _ => h a

end Scan

open Scan

theorem scalar_gives (c : Char) : Gives Value.Ordered (scalar c) := by
  unfold scalar
  split
  · exact gives_behind fun _ => gives_behind fun _ => gives_pure .null
  · exact gives_behind fun _ => gives_behind fun _ => gives_pure .bool
  · exact gives_behind fun _ => gives_behind fun _ => gives_pure .bool
  · exact gives_behind fun _ => gives_behind fun _ => gives_pure .string
  · split
    · exact gives_behind fun _ => gives_pure .number
    · exact gives_behindNext _

/-- The rounds of the reader give ordered documents, whatever their fuel and their depth. -/
theorem rounds_give (fuel : Nat) :
    (∀ depth, Gives Value.Ordered (valueRounds fuel depth)) ∧
    (∀ depth first, Gives (fun items => ∀ v ∈ items, Value.Ordered v)
      (itemRounds fuel depth first)) ∧
    ∀ depth first, Gives (fun fields => ∀ e ∈ fields, Value.Ordered e.2)
      (fieldRounds fuel depth first) := by
  induction fuel with
  | zero =>
    refine ⟨fun depth => ?_, fun depth first => ?_, fun depth first => ?_⟩
    · rw [valueRounds]
      exact gives_atCursor _
    · rw [itemRounds]
      exact gives_atCursor _
    · rw [fieldRounds]
      exact gives_atCursor _
  | succ fuel ih =>
    obtain ⟨hvalue, hitems, hfields⟩ := ih
    refine ⟨fun depth => ?_, fun depth first => ?_, fun depth first => ?_⟩
    · unfold valueRounds
      refine gives_behind fun next => ?_
      split
      · exact gives_atCursor _
      · split
        · exact gives_behindNext _
        · exact gives_behind fun _ => gives_bind (hitems _ _) fun items h => gives_pure (.array h)
      · split
        · exact gives_behindNext _
        · exact gives_behind fun _ => gives_bind (hfields _ _) fun fields h =>
            gives_pure (.ofList h)
      · exact scalar_gives _
    · rw [itemRounds]
      refine gives_behind fun more => ?_
      split
      · refine gives_bind (hvalue _) fun v hv => gives_bind (hitems _ _) fun vs hvs => ?_
        exact gives_pure (List.forall_mem_cons.2 ⟨hv, hvs⟩)
      · exact gives_pure nofun
    · rw [fieldRounds]
      refine gives_behind fun more => ?_
      split
      · refine gives_behind fun key => gives_behind fun _ => ?_
        refine gives_bind (hvalue _) fun v hv => gives_bind (hfields _ _) fun fs hfs => ?_
        exact gives_pure (List.forall_mem_cons.2 ⟨hv, hfs⟩)
      · exact gives_pure nofun

/-- What a scan of a whole text gives is what the scan gives. -/
theorem Scan.Gives.whole {α : Type} {good : α → Prop} {scan : Scan α} (h : Gives good scan)
    {text : String} {a : α} (ha : whole scan text = .ok a) : good a := by
  simp only [Json.whole] at ha
  split at ha
  next b rest hrun =>
    cases ha
    -- What is behind the scanned part ends the scan or changes nothing of it.
    refine gives_bind h (fun a ha => gives_behind fun next => ?_) _ _ _ hrun
    split
    · exact gives_pure ha
    · exact gives_behindNext _
  next => cases ha

/-- **Documents that are read are ordered.** -/
theorem read_ordered {text : String} {v : Value} (h : read text = .ok v) : v.Ordered := by
  have hvalue : Gives Value.Ordered (value depthLimit) :=
    gives_behind fun rounds => (rounds_give rounds).1 depthLimit
  exact hvalue.whole h

end Json

end Reshape
