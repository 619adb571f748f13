import Reshape.Diff.Report
import Reshape.Proofs.Agreement
import Reshape.Proofs.Rounding

/-!
# Documents that differ at one place

A document with one place left open is filled with a value.  Two documents that differ in what they
are filled with agree when the two values agree:

* **`Json.Context`**, **`Json.Context.fill`** — a document around an open place, and its filling;
* **`agree_self`** — a document agrees with itself;
* **`agree_fill_iff`** — two fillings agree when the values do.

The main statement is **`compareValues_integers`**: a comparison tells two integers apart, wherever
they stand in a document, exactly when the doubles next to them are different.
-/

namespace Reshape

open Json

/-! ### Open places -/

/-- A document around one open place. -/
inductive Json.Context where
  /-- The place is the whole document. -/
  | whole
  /-- The place is in an item of an array. -/
  | item (before : List Value) (inner : Context) (behind : List Value)
  /-- The place is in a field of an object. -/
  | field (before : Fields) (key : String) (inner : Context) (behind : Fields)

/-- The document with a value at the open place. -/
def Json.Context.fill : Context → Value → Value
  | .whole, v => v
  | .item before inner behind, v => .array (before ++ inner.fill v :: behind)
  | .field before key inner behind, v => .object (before ++ (key, inner.fill v) :: behind)

section

variable {tolerance : Double}

/-- **A document agrees with itself**, if the tolerance is not negative. -/
theorem agree_self (htolerance : 0 ≤ tolerance.value) {v : Value} (hv : v.Ordered) :
    agree tolerance v v = true := by
  induction hv with
  | null => rfl
  | bool => simp [agree, Value.same]
  | @number n =>
    rw [agree]
    exact Double.within_self htolerance n.toDouble
  | string => simp [agree, Value.same]
  | @array items hitems ih =>
    refine (agree_array_iff rfl).2 fun i v w hv hw => ?_
    obtain rfl := Option.some.inj (hv.symm.trans hw)
    exact ih v (List.mem_of_getElem? hv)
  | @object fields hsorted hfields ih =>
    refine (agree_object_iff hsorted hsorted).2 ⟨fun key => Iff.rfl, fun key v w hv hw => ?_⟩
    obtain rfl := Option.some.inj (hv.symm.trans hw)
    exact ih (key, v) (Keyed.mem_of_get? hv)

theorem agreeItems_append {xs ys : List Value} (hlen : xs.length = ys.length)
    (vs ws : List Value) :
    agreeItems tolerance (xs ++ vs) (ys ++ ws) =
      (agreeItems tolerance xs ys && agreeItems tolerance vs ws) := by
  induction xs generalizing ys with
  | nil =>
    cases ys with
    | nil => simp [agreeItems]
    | cons y ys => cases hlen
  | cons x xs ih =>
    cases ys with
    | nil => cases hlen
    | cons y ys =>
      simp only [List.cons_append, agreeItems, ih (Nat.succ.inj hlen), Bool.and_assoc]

theorem agreeItems_self (htolerance : 0 ≤ tolerance.value) {items : List Value}
    (h : ∀ item ∈ items, item.Ordered) : agreeItems tolerance items items = true := by
  have hself := agree_self htolerance (.array h)
  rwa [agree] at hself

/-- Arrays that differ in one item agree when the two items do. -/
theorem agree_item_iff (htolerance : 0 ≤ tolerance.value) {before behind : List Value}
    {v w : Value} (h : (Value.array (before ++ v :: behind)).Ordered) :
    agree tolerance (.array (before ++ v :: behind)) (.array (before ++ w :: behind)) = true ↔
      agree tolerance v w = true := by
  have hbefore : agreeItems tolerance before before = true :=
    agreeItems_self htolerance fun item hitem => h.item (List.mem_append_left _ hitem)
  have hbehind : agreeItems tolerance behind behind = true :=
    agreeItems_self htolerance fun item hitem =>
      h.item (List.mem_append_right _ (List.mem_cons_of_mem v hitem))
  rw [agree, agreeItems_append rfl, agreeItems, hbefore, hbehind, Bool.true_and, Bool.and_true]

/-- Objects that differ in the value of one field agree when the two values do. -/
theorem agree_field_iff (htolerance : 0 ≤ tolerance.value) {before behind : Fields} {key : String}
    {v w : Value} (h : (Value.object (before ++ (key, v) :: behind)).Ordered) :
    agree tolerance (.object (before ++ (key, v) :: behind))
      (.object (before ++ (key, w) :: behind)) = true ↔ agree tolerance v w = true := by
  have hkeys : Keyed.keys (before ++ (key, v) :: behind) =
      Keyed.keys (before ++ (key, w) :: behind) := by simp [Keyed.keys]
  have hv := h.sorted
  have hw : Keyed.Sorted (before ++ (key, w) :: behind) := by
    refine List.pairwise_map.1 ?_
    show (Keyed.keys (before ++ (key, w) :: behind)).Pairwise (· < ·)
    rw [← hkeys]
    exact List.pairwise_map.2 hv
  have hfirst : Keyed.get? key (before ++ (key, v) :: behind) = some v :=
    hv.get?_of_mem (List.mem_append_right before List.mem_cons_self)
  have hsecond : Keyed.get? key (before ++ (key, w) :: behind) = some w :=
    hw.get?_of_mem (List.mem_append_right before List.mem_cons_self)
  rw [agree_object_iff hv hw, hkeys]
  constructor
  · rintro ⟨-, hall⟩
    exact hall key v w hfirst hsecond
  · intro hvalues
    refine ⟨fun _ => Iff.rfl, fun other x y hx hy => ?_⟩
    by_cases hother : other = key
    · subst hother
      obtain rfl := Option.some.inj (hfirst.symm.trans hx)
      obtain rfl := Option.some.inj (hsecond.symm.trans hy)
      exact hvalues
    · -- Any other field is in both objects.
      have hmem : (other, x) ∈ before ++ (key, w) :: behind := by
        have hleft := Keyed.mem_of_get? hx
        simpa [hother] using hleft
      obtain rfl := Option.some.inj ((hw.get?_of_mem hmem).symm.trans hy)
      exact agree_self htolerance (h.field hx)

/-- **Two fillings of a document agree when the values do.** -/
theorem agree_fill_iff (htolerance : 0 ≤ tolerance.value) {c : Context} {v w : Value}
    (h : (c.fill v).Ordered) :
    agree tolerance (c.fill v) (c.fill w) = true ↔ agree tolerance v w = true := by
  induction c with
  | whole => exact Iff.rfl
  | item before inner behind ih =>
    have hinner : (inner.fill v).Ordered :=
      h.item (List.mem_append_right before List.mem_cons_self)
    exact (agree_item_iff htolerance h).trans (ih hinner)
  | field before key inner behind ih =>
    have hinner : (inner.fill v).Ordered :=
      h.entry (e := (key, inner.fill v)) (List.mem_append_right before List.mem_cons_self)
    exact (agree_field_iff htolerance h).trans (ih hinner)

end

/-! ### Integers -/

/-- Integers agree within a tolerance below one exactly when they have the same double. -/
theorem agree_integers_iff {tolerance : Double} (hzero : 0 ≤ tolerance.value)
    (hone : tolerance.value < Double.unit) (a b : Int) :
    agree tolerance (.int a) (.int b) = true ↔
      Double.roundedInteger a = Double.roundedInteger b := by
  show agree tolerance (.number (.int a)) (.number (.int b)) = true ↔ _
  rw [agree]
  exact Double.within_ofInt_iff hzero hone a b

/-- **Integers are compared by their doubles.**  Let two documents differ in an integer at one
place, and let the tolerance be less than one.  They match exactly if the doubles next to the two
integers are the same.  So they do not match if both integers have up to 53 bits and are different,
and neither do they if the integers are more than `2 ^ 11` apart. -/
theorem compareValues_integers {options : DiffOptions} (ansi : Bool)
    (hzero : 0 ≤ options.tolerance.value) (hone : options.tolerance.value < Double.unit)
    {c : Context} {a b : Int} (hordered : (c.fill (.int a)).Ordered) (ha : IsInteger a)
    (hb : IsInteger b) :
    ((compareValues options ansi (c.fill (.int a)) (c.fill (.int b))).agrees = true ↔
      Double.roundedInteger a = Double.roundedInteger b) ∧
    (a ≠ b → a.natAbs ≤ Nat.pow 2 53 → b.natAbs ≤ Nat.pow 2 53 →
      (compareValues options ansi (c.fill (.int a)) (c.fill (.int b))).agrees = false) ∧
    (2048 < (a - b).natAbs →
      (compareValues options ansi (c.fill (.int a)) (c.fill (.int b))).agrees = false) := by
  have hagree : (compareValues options ansi (c.fill (.int a)) (c.fill (.int b))).agrees = true ↔
      Double.roundedInteger a = Double.roundedInteger b := by
    rw [compareValues_agrees, agree_fill_iff hzero hordered, agree_integers_iff hzero hone]
  refine ⟨hagree, fun hne hsmall hsmall' => ?_, fun hfar => ?_⟩
  · rw [Bool.eq_false_iff, Ne, hagree, Double.roundedInteger_eq_self hsmall,
      Double.roundedInteger_eq_self hsmall']
    exact hne
  · rw [Bool.eq_false_iff, Ne, hagree]
    intro hsame
    have hnear := Double.natAbs_sub_le_of_roundedInteger_eq ha hb hsame
    omega

/-- A list of orders, of which the second one has its number left open. -/
def orders : Context :=
  .field [] "orders" (.item [.object [("number", .int 1)]] (.field [] "number" .whole []) []) []

/-- The greatest integer of 53 bits and the one above it do not match by the standard options. -/
theorem compareValues_integers_orders :
    0 ≤ DiffOptions.standard.tolerance.value ∧
      DiffOptions.standard.tolerance.value < Double.unit ∧
      (orders.fill (.int 9007199254740991)).Ordered ∧
      (compareValues .standard false (orders.fill (.int 9007199254740991))
        (orders.fill (.int 9007199254740992))).agrees = false := by
  have hzero : 0 ≤ DiffOptions.standard.tolerance.value := by decide +kernel
  have hone : DiffOptions.standard.tolerance.value < Double.unit := by decide +kernel
  have hordered : (orders.fill (.int 9007199254740991)).Ordered :=
    Value.ordered_of_isOrdered _ (by decide)
  have hcompare := compareValues_integers false hzero hone hordered
    (b := 9007199254740992) ⟨by decide, by decide⟩ ⟨by decide, by decide⟩
  exact ⟨hzero, hone, hordered, hcompare.2.1 (by decide) (by decide) (by decide)⟩

/-- The next two integers match even without any tolerance. -/
theorem compareValues_next_integers :
    IsInteger 9007199254740992 ∧ IsInteger 9007199254740993 ∧
      (compareValues ⟨false, .zero, 0⟩ false (orders.fill (.int 9007199254740992))
        (orders.fill (.int 9007199254740993))).agrees = true := by
  refine ⟨⟨by decide, by decide⟩, ⟨by decide, by decide⟩, ?_⟩
  rw [compareValues_agrees]
  decide +kernel

end Reshape
