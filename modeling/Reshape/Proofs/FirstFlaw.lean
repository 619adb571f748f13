import Reshape.Proofs.Flaws

/-!
# The first flaw of a specification

A specification that does not compile is refused for one flaw: that of its first element that has
one, depth first and from left to right.

* **`OwnFlaw`** — the first flaw of a list is that of the element at a position of the list;
* **`FirstFlaw`** — the error reports the first flaw of a list, at whatever depth;
* **`NestedFlaw`** — it does, and the element with the flaw is below the list.

A list fails with what the first of its elements that fail does (**`compileElements_error`**), so it
fails with its first flaw (**`compileElements_error_iff`**).  The main statement is
**`compileJson_first_flaw`**, which says also what becomes of errors when lists are put together.
-/

namespace Reshape

open Json

/-! ### First flaws -/

/-- The element at the position has the flaw, and those before it stand for rules. -/
def OwnFlaw (registry : Registry) (items : List Value) (position : Nat) (flaw : Flaw) : Prop :=
  ∃ before v after, items = before ++ v :: after ∧ before.length = position ∧
    (∀ w ∈ before, WellFormedElement registry w) ∧ HasFlaw registry v flaw

/-- The error reports the first flaw of a list, depth first and from left to right: that of an
element of the list, or the first flaw of the specification that is nested in an element of the
list.  The elements before this element stand for rules, and it has no flaw itself if its nested
specification counts. -/
inductive FirstFlaw (registry : Registry) : List Value → Error → Prop
  | own {items : List Value} {position : Nat} {flaw : Flaw} :
      OwnFlaw registry items position flaw → FirstFlaw registry items (flaw.error position)
  | nested {before after items : List Value} {fields : Fields} {raw dest : String} {e : Error} :
      (∀ w ∈ before, WellFormedElement registry w) → RuleObject fields raw dest →
      Keyed.get? RuleKey.mapper.name fields = some (.array items) → FirstFlaw registry items e →
      FirstFlaw registry (before ++ .object fields :: after) e

/-- The error reports the first flaw of a list, and the element that has it is below the list. -/
def NestedFlaw (registry : Registry) (items : List Value) (e : Error) : Prop :=
  ∃ before fields raw dest inner after, items = before ++ .object fields :: after ∧
    (∀ w ∈ before, WellFormedElement registry w) ∧ RuleObject fields raw dest ∧
    Keyed.get? RuleKey.mapper.name fields = some (.array inner) ∧ FirstFlaw registry inner e

section

variable {registry : Registry} {index : Nat} {e : Error}

/-! ### Lists -/

/-- **A list fails with the first of its elements that fail,** at the index that this element has;
the elements before it stand for rules. -/
theorem compileElements_error {items : List Value} :
    (compileElements registry index items).result = .error e ↔
      ∃ before v after, items = before ++ v :: after ∧
        (∀ w ∈ before, WellFormedElement registry w) ∧
        (compileElement registry (index + before.length) v).result = .error e := by
  constructor
  · intro h
    induction items generalizing index with
    | nil => cases h
    | cons v rest ih =>
      rw [compileElements_cons, Traced.andThen_result_error] at h
      rcases h with hv | ⟨rule, hrule, h⟩
      · exact ⟨[], v, rest, rfl, List.forall_mem_nil _, hv⟩
      · rw [Traced.result_andThen_ok, map_eq_error] at h
        obtain ⟨before, w, after, rfl, hbefore, hw⟩ := ih h
        have hv : WellFormedElement registry v :=
          wellFormedElement_iff.2 ⟨rule, compileElement_ok.1 hrule⟩
        refine ⟨v :: before, w, after, rfl, List.forall_mem_cons.2 ⟨hv, hbefore⟩, ?_⟩
        have hindex : index + (v :: before).length = index + 1 + before.length := by
          rw [List.length_cons]
          omega
        rw [hindex]
        exact hw
  · rintro ⟨before, v, after, rfl, hbefore, hv⟩
    obtain ⟨rules, hrules⟩ : ∃ rules, (compileElements registry index before).result = .ok rules :=
      exists_compileElements_ok_iff.2 hbefore
    rw [compileElements_append, Traced.andThen_result_error]
    refine .inr ⟨rules, hrules, ?_⟩
    rw [Traced.result_andThen_ok, map_eq_error, compileElements_cons, Traced.andThen_result_error]
    exact .inl hv

/-- A list that fails has a first flaw if the specifications nested in its elements have one
whenever they fail. -/
theorem firstFlaw_of_elements {items : List Value}
    (h : ∀ v ∈ items, ∀ fields inner, v = .object fields →
      Keyed.get? RuleKey.mapper.name fields = some (.array inner) →
      (compileElements registry 0 inner).result = .error e → FirstFlaw registry inner e)
    (he : (compileElements registry 0 items).result = .error e) : FirstFlaw registry items e := by
  obtain ⟨before, v, after, rfl, hbefore, hv⟩ := compileElements_error.1 he
  rw [Nat.zero_add] at hv
  rcases compileElement_error.1 hv with ⟨flaw, hflaw, rfl⟩ | ⟨fields, raw, dest, inner, hnested⟩
  · exact .own ⟨before, v, after, rfl, rfl, hbefore, hflaw⟩
  · obtain ⟨rfl, hrule, hmapper, hinner⟩ := hnested
    have hmem : Value.object fields ∈ before ++ .object fields :: after := by simp
    exact .nested hbefore hrule hmapper (h _ hmem fields inner rfl hmapper hinner)

/-- A nested specification that fails has a first flaw. -/
theorem firstFlaw_of_nested (v : Value) : ∀ fields inner, v = .object fields →
    Keyed.get? RuleKey.mapper.name fields = some (.array inner) →
    (compileElements registry 0 inner).result = .error e → FirstFlaw registry inner e := by
  induction v using element_induction with
  | step v ih =>
  intro fields inner hv hmapper hinner
  exact firstFlaw_of_elements (fun w hw => ih fields inner hv hmapper w hw) hinner

/-- **A list fails with its first flaw.** -/
theorem compileElements_error_iff {items : List Value} :
    (compileElements registry 0 items).result = .error e ↔ FirstFlaw registry items e := by
  constructor
  · exact firstFlaw_of_elements fun v _ => firstFlaw_of_nested v
  · intro h
    induction h with
    | own h =>
      obtain ⟨before, v, after, rfl, rfl, hbefore, hflaw⟩ := h
      refine compileElements_error.2 ⟨before, v, after, rfl, hbefore, ?_⟩
      rw [Nat.zero_add]
      exact compileElement_error.2 (.inl ⟨_, hflaw, rfl⟩)
    | nested hbefore hrule hmapper _ ih =>
      refine compileElements_error.2 ⟨_, _, _, rfl, hbefore, ?_⟩
      exact compileElement_error.2 (.inr ⟨_, _, _, _, rfl, hrule, hmapper, ih⟩)

/-! ### Specifications -/

theorem compileJson_array_result (items : List Value) :
    (compileJson registry (.array items)).result = (compileElements registry 0 items).result :=
  andThen_noteCompiled_result _

theorem compileJson_error_iff {items : List Value} :
    (compileJson registry (.array items)).result = .error e ↔ FirstFlaw registry items e := by
  rw [compileJson_array_result, compileElements_error_iff]

theorem exists_compileJson_ok_iff {items : List Value} :
    (∃ rules, (compileJson registry (.array items)).result = .ok rules) ↔
      ∀ v ∈ items, WellFormedElement registry v := by
  simp only [compileJson_array_result]
  exact exists_compileElements_ok_iff

/-- In front of a list that has a flaw there can be elements that stand for rules: the position of
an element of the list moves on by their number. -/
theorem OwnFlaw.append_left {xs ys : List Value} {position : Nat} {flaw : Flaw}
    (hxs : ∀ w ∈ xs, WellFormedElement registry w) (h : OwnFlaw registry ys position flaw) :
    OwnFlaw registry (xs ++ ys) (position + xs.length) flaw := by
  obtain ⟨before, v, after, rfl, rfl, hbefore, hflaw⟩ := h
  refine ⟨xs ++ before, v, after, ?_, ?_, List.forall_mem_append.2 ⟨hxs, hbefore⟩, hflaw⟩
  · rw [List.append_assoc]
  · rw [List.length_append, Nat.add_comm]

theorem NestedFlaw.append_left {xs ys : List Value}
    (hxs : ∀ w ∈ xs, WellFormedElement registry w) (h : NestedFlaw registry ys e) :
    NestedFlaw registry (xs ++ ys) e := by
  obtain ⟨before, fields, raw, dest, inner, after, rfl, hbefore, h⟩ := h
  refine ⟨xs ++ before, fields, raw, dest, inner, after, ?_, ?_, h⟩
  · rw [List.append_assoc]
  · exact List.forall_mem_append.2 ⟨hxs, hbefore⟩

/-- The first flaw of a list is that of an element of the list or of one below it. -/
theorem firstFlaw_iff {items : List Value} :
    FirstFlaw registry items e ↔
      (∃ position flaw, OwnFlaw registry items position flaw ∧ e = flaw.error position) ∨
        NestedFlaw registry items e := by
  constructor
  · intro h
    cases h with
    | own h => exact .inl ⟨_, _, h, rfl⟩
    | nested hbefore hrule hmapper h =>
      exact .inr ⟨_, _, _, _, _, _, rfl, hbefore, hrule, hmapper, h⟩
  · rintro (⟨position, flaw, h, rfl⟩ | ⟨before, fields, raw, dest, inner, after, rfl, hbefore, h⟩)
    · exact .own h
    · exact .nested hbefore h.1 h.2.1 h.2.2

end

/-- **The first flaw is reported.**  A specification fails with the error of its first flaw, depth
first and from left to right, and with no other: a fault of form is reported with the position of
its element in the list that this element is in, and a name without a binding with the name.  So
what follows a list that fails makes no difference; lists that compile make up a list that compiles,
to the rules of the one and then those of the other; and behind a list that compiles a flaw of an
element of the list is reported at a position moved on by the length of the former, while a flaw
below the list is reported as before. -/
theorem compileJson_first_flaw (registry : Registry) :
    (∀ items e, (compileJson registry (.array items)).result = .error e ↔
      FirstFlaw registry items e) ∧
    (∀ xs ys e, (compileJson registry (.array xs)).result = .error e →
      (compileJson registry (.array (xs ++ ys))).result = .error e) ∧
    (∀ xs ys rules more, (compileJson registry (.array xs)).result = .ok rules →
      (compileJson registry (.array ys)).result = .ok more →
      (compileJson registry (.array (xs ++ ys))).result = .ok (rules ++ more)) ∧
    (∀ xs ys rules position flaw, (compileJson registry (.array xs)).result = .ok rules →
      OwnFlaw registry ys position flaw →
      (compileJson registry (.array ys)).result = .error (flaw.error position) ∧
        (compileJson registry (.array (xs ++ ys))).result =
          .error (flaw.error (position + xs.length))) ∧
    ∀ xs ys rules e, (compileJson registry (.array xs)).result = .ok rules →
      NestedFlaw registry ys e →
      (compileJson registry (.array ys)).result = .error e ∧
        (compileJson registry (.array (xs ++ ys))).result = .error e := by
  refine ⟨fun items e => compileJson_error_iff, ?_, ?_, ?_, ?_⟩
  · intro xs ys e hxs
    rw [compileJson_array_result] at hxs ⊢
    rw [compileElements_append, Traced.result_andThen, hxs]
    rfl
  · intro xs ys rules more hxs hys
    rw [compileJson_array_result, compileElements_ok] at hxs hys ⊢
    exact List.rel_append hxs hys
  · intro xs ys rules position flaw hxs h
    have hwell := exists_compileJson_ok_iff.1 ⟨rules, hxs⟩
    exact ⟨compileJson_error_iff.2 (.own h), compileJson_error_iff.2 (.own (h.append_left hwell))⟩
  · intro xs ys rules e hxs h
    have hwell := exists_compileJson_ok_iff.1 ⟨rules, hxs⟩
    have hmore : NestedFlaw registry (xs ++ ys) e := h.append_left hwell
    exact ⟨compileJson_error_iff.2 (firstFlaw_iff.2 (.inr h)),
      compileJson_error_iff.2 (firstFlaw_iff.2 (.inr hmore))⟩

/-- Elements that stand for rules. -/
def soundElements : List Value := [.string "id", .object [("buyer.name", .string "buyer")]]

/-- Elements of which the second one has a flaw itself. -/
def flawedElements : List Value := [.string "note", .bool true, .string ""]

/-- The fields of a rule object whose nested specification has a flaw in its third element. -/
def flawedFields : Fields :=
  [("dstName", .string "lines"),
    ("mapper", .array [.string "sku", .string "count", .string "unit..price"]),
    ("srcName", .string "items")]

/-- Elements of which the second one is that object. -/
def flawedLines : List Value := [.string "note", .object flawedFields, .string ""]

theorem ownFlaw_flawedElements :
    OwnFlaw Registry.builtIns flawedElements 1 (.form (.unrecognized .boolean)) := by
  refine ⟨[.string "note"], .bool true, [.string ""], rfl, rfl, ?_, .unrecognized nofun nofun⟩
  exact List.forall_mem_singleton.2 (.path (isPath_of_dot_not_mem (by decide) (by decide)))

theorem nestedFlaw_flawedLines :
    NestedFlaw Registry.builtIns flawedLines
      (.configuration 2 (.path (.emptySegment "unit..price"))) := by
  have hpath : ∀ raw, raw ≠ "" → '.' ∉ raw.toList →
      WellFormedElement Registry.builtIns (.string raw) :=
    fun raw hne hdot => .path (isPath_of_dot_not_mem hne hdot)
  have hrule : RuleObject flawedFields "items" "lines" :=
    ⟨by decide, rfl, isPath_of_dot_not_mem (by decide) (by decide), rfl, by decide⟩
  have hfirst : FirstFlaw Registry.builtIns
      [.string "sku", .string "count", .string "unit..price"]
      (.configuration 2 (.path (.emptySegment "unit..price"))) := by
    have hown : OwnFlaw Registry.builtIns [.string "sku", .string "count", .string "unit..price"] 2
        (.form (.path (.emptySegment "unit..price"))) := by
      refine ⟨[.string "sku", .string "count"], _, [], rfl, rfl, ?_, .path rfl⟩
      exact List.forall_mem_cons.2 ⟨hpath "sku" (by decide) (by decide),
        List.forall_mem_singleton.2 (hpath "count" (by decide) (by decide))⟩
    exact .own hown
  refine ⟨[.string "note"], flawedFields, "items", "lines", _, [.string ""], rfl, ?_, hrule, rfl,
    hfirst⟩
  exact List.forall_mem_singleton.2 (hpath "note" (by decide) (by decide))

/-- Behind two sound elements the flaw of a second element is reported at position 3, and that of
the third element of a nested specification at position 2 as before; sound elements compile
together. -/
theorem compileJson_first_flaw_lines :
    (compileJson Registry.builtIns (.array (soundElements ++ flawedElements))).result =
      .error (.configuration 3 (.unrecognized .boolean)) ∧
    (compileJson Registry.builtIns (.array (soundElements ++ flawedLines))).result =
      .error (.configuration 2 (.path (.emptySegment "unit..price"))) ∧
    (compileJson Registry.builtIns
        (.array (soundElements ++ flawedLines ++ flawedElements))).result =
      .error (.configuration 2 (.path (.emptySegment "unit..price"))) ∧
    ∃ rules, (compileJson Registry.builtIns (.array soundElements)).result = .ok rules ∧
      (compileJson Registry.builtIns (.array (soundElements ++ soundElements))).result =
        .ok (rules ++ rules) := by
  obtain ⟨-, hfail, hok, hown, hnested⟩ := compileJson_first_flaw Registry.builtIns
  obtain ⟨rules, hrules⟩ : ∃ rules,
      (compileJson Registry.builtIns (.array soundElements)).result = .ok rules := ⟨_, rfl⟩
  have hlines := (hnested _ _ _ _ hrules nestedFlaw_flawedLines).2
  refine ⟨?_, hlines, ?_, rules, hrules, hok _ _ _ _ hrules hrules⟩
  · exact (hown _ _ _ _ _ hrules ownFlaw_flawedElements).2
  · exact hfail _ _ _ hlines

end Reshape
