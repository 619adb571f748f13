import Reshape.Proofs.FirstFlaw

/-!
# Notes of compilations

Every list of a specification is noted when all of its elements are compiled.  So the notes follow
the lists in post-order, and they end where the first flaw is:

* **`nestedItems?`** — the specification nested in an element;
* **`listAt?`** — the list at an address, which is the positions of the elements on the way to it;
* **`leftOf`**, **`Precedes`** — addresses from left to right, and in post-order;
* **`PostOrder`** — all lists of a specification in post-order, each with its address;
* **`listsOf`** — these lists, found by recursion (**`postOrder_listsOf`**);
* **`FirstFlawAt`** — the first flaw of a list, with the address of the element that has it.

A list that compiles notes the lists below it (**`events_compileElements_of_wellFormed`**), and one
that does not those to the left of its first flaw (**`FirstFlawAt.events`**).  The main statement
is **`ofJson_events`**.
-/

namespace Reshape

open Json

/-! ### Lists and their addresses -/

/-- The specification nested in an element, if it has one: the array under its mapper key. -/
def nestedItems? : Value → Option (List Value)
  | .object fields =>
    match Keyed.get? RuleKey.mapper.name fields with
    | some (.array items) => some items
    | _ => none
  | _ => none

/-- The first address is to the left of the second one: where their ways part, it has the smaller
position.  No list is to the left of those below it, or of those that it is below. -/
def leftOf : List Nat → List Nat → Bool
  | i :: rest, j :: more => decide (i < j) || (decide (i = j) && leftOf rest more)
  | _, _ => false

/-- A list of a specification, with its address. -/
structure ListAt where
  address : List Nat
  items : List Value

namespace ListAt

/-- The list, seen from the list that has the way to it at the position. -/
def below (position : Nat) (l : ListAt) : ListAt := ⟨position :: l.address, l.items⟩

/-- What is noted when the list is compiled. -/
def event (l : ListAt) : Event := .compiled l.items.length

end ListAt

mutual

/-- The lists in an element, in post-order. -/
def listsIn (v : Value) : List ListAt :=
  match v with
  | .object fields => mapperLists fields
  | _ => []
termination_by structural v

/-- The lists in the elements of a list, the first of which has the position given. -/
def listsAmong (position : Nat) (items : List Value) : List ListAt :=
  match items with
  | [] => []
  | v :: rest => (listsIn v).map (ListAt.below position) ++ listsAmong (position + 1) rest
termination_by structural items

/-- The lists in what is under the mapper key of an object. -/
def mapperLists (fields : List (String × Value)) : List ListAt :=
  match fields with
  | [] => []
  | (key, v) :: rest =>
    if key = RuleKey.mapper.name then
      match v with
      | .array items => listsAmong 0 items ++ [⟨[], items⟩]
      | _ => []
    else mapperLists rest
termination_by structural fields

end

/-- The lists of a specification, itself behind those below it. -/
def listsOf (items : List Value) : List ListAt := listsAmong 0 items ++ [⟨[], items⟩]

/-! ### Elements with nested specifications -/

theorem nestedItems?_eq_some {v : Value} {items : List Value} :
    nestedItems? v = some items ↔
      ∃ fields, v = .object fields ∧
        Keyed.get? RuleKey.mapper.name fields = some (.array items) := by
  unfold nestedItems?
  cases v with
  | object fields =>
    cases hmapper : Keyed.get? RuleKey.mapper.name fields with
    | none => simp [hmapper]
    | some spec => cases spec <;> simp [hmapper]
  | _ => simp

theorem mapperLists_eq (fields : Fields) :
    mapperLists fields = ((nestedItems? (.object fields)).map listsOf).getD [] := by
  unfold nestedItems?
  induction fields with
  | nil => simp [mapperLists, Keyed.get?]
  | cons entry rest ih =>
    rcases entry with ⟨key, v⟩
    simp only [Keyed.get?_cons] at ih ⊢
    by_cases hkey : key = RuleKey.mapper.name
    · cases v <;> simp [mapperLists, listsOf, hkey]
    · simp only [if_neg hkey]
      rw [← ih]
      cases v <;> simp [mapperLists, hkey]

/-- The lists in an element are those of the specification that is nested in it. -/
theorem listsIn_eq (v : Value) : listsIn v = ((nestedItems? v).map listsOf).getD [] := by
  cases v with
  | object fields => rw [listsIn, mapperLists_eq]
  | _ => rw [listsIn, nestedItems?] <;> simp

theorem listsIn_of_nested {v : Value} {items : List Value} (h : nestedItems? v = some items) :
    listsIn v = listsOf items := by
  rw [listsIn_eq, h]
  rfl

theorem listsIn_of_none {v : Value} (h : nestedItems? v = none) : listsIn v = [] := by
  rw [listsIn_eq, h]
  rfl

/-! ### The order of lists -/

/-- The lists among elements are those in each of them, under the position of the element. -/
theorem mem_listsAmong {position : Nat} {items : List Value} {l : ListAt} :
    l ∈ listsAmong position items ↔
      ∃ i v m, items[i]? = some v ∧ m ∈ listsIn v ∧ l = m.below (position + i) := by
  induction items generalizing position with
  | nil => simp [listsAmong]
  | cons v rest ih =>
    rw [listsAmong, List.mem_append, List.mem_map, ih]
    constructor
    · rintro (⟨m, hm, rfl⟩ | ⟨i, w, m, hw, hm, rfl⟩)
      · exact ⟨0, v, m, rfl, hm, rfl⟩
      · exact ⟨i + 1, w, m, hw, hm, by rw [Nat.add_assoc, Nat.add_comm 1 i]⟩
    · rintro ⟨_ | i, w, m, hw, hm, rfl⟩
      · cases hw
        exact .inl ⟨m, hm, rfl⟩
      · exact .inr ⟨i, w, m, hw, hm, by rw [Nat.add_assoc, Nat.add_comm 1 i]⟩

theorem listsAmong_append (position : Nat) (first second : List Value) :
    listsAmong position (first ++ second) =
      listsAmong position first ++ listsAmong (position + first.length) second := by
  induction first generalizing position with
  | nil => rw [listsAmong]; rfl
  | cons v rest ih =>
    rw [List.cons_append, listsAmong, listsAmong, ih, List.append_assoc, List.length_cons,
      Nat.add_assoc, Nat.add_comm 1]

/-- To the left of what is in an element there are the lists in the elements before it and those in
the element itself. -/
theorem listsAmong_leftOf (before after : List Value) (v : Value) (address : List Nat) :
    ((listsAmong 0 (before ++ v :: after)).filter fun l =>
        leftOf l.address (before.length :: address)) =
      listsAmong 0 before ++
        ((listsIn v).filter fun l => leftOf l.address address).map
          (ListAt.below before.length) := by
  have hbefore : ∀ l ∈ listsAmong 0 before,
      leftOf l.address (before.length :: address) = true := by
    intro l hl
    obtain ⟨i, w, m, hw, -, rfl⟩ := mem_listsAmong.1 hl
    obtain ⟨hi, -⟩ := List.getElem?_eq_some_iff.1 hw
    simp [leftOf, ListAt.below, hi]
  have hafter : ∀ l ∈ listsAmong (before.length + 1) after,
      ¬ leftOf l.address (before.length :: address) = true := by
    intro l hl
    obtain ⟨i, w, m, -, -, rfl⟩ := mem_listsAmong.1 hl
    have hge : ¬ before.length + 1 + i < before.length := by omega
    have hne : before.length + 1 + i ≠ before.length := by omega
    simp [leftOf, ListAt.below, hge, hne]
  rw [listsAmong_append, listsAmong, Nat.zero_add, List.filter_append, List.filter_append,
    List.filter_eq_self.2 hbefore, List.filter_eq_nil_iff.2 hafter, List.append_nil,
    List.filter_map]
  congr 3
  funext l
  simp [leftOf, ListAt.below]

/-! ### Notes of elements -/

section

variable {registry : Registry} {index : Nat}

/-- An element without a nested specification notes nothing, whether it compiles or not: a mapper
that is looked up has been compiled before. -/
theorem events_compileElement_of_none {v : Value} (h : nestedItems? v = none) :
    (compileElement registry index v).events = [] := by
  cases v with
  | object fields =>
    rw [compileElement_object]
    by_cases hobject : isRuleObject fields = true
    · rw [if_pos hobject, ruleObject]
      refine (Traced.events_andThen_of_silent _ fun head => ?_).trans rfl
      -- Looking up the mapper or the transform of the object notes nothing.
      cases hmapper : Keyed.get? RuleKey.mapper.name fields with
      | none => rfl
      | some spec =>
        have hspec : (mapperRules registry index spec).events = [] := by
          cases spec with
          | array items =>
            rw [nestedItems?_eq_some.2 ⟨fields, rfl, hmapper⟩] at h
            cases h
          | _ => rfl
        exact (Traced.events_andThen_of_silent _ fun _ => rfl).trans hspec
    · rw [if_neg hobject]
      rfl
  | _ => rfl

/-- An element with a flaw of its own notes nothing: it has the flaw before its nested specification
is looked at, or there is none. -/
theorem events_compileElement_of_hasFlaw {v : Value} {flaw : Flaw} (h : HasFlaw registry v flaw) :
    (compileElement registry index v).events = [] := by
  cases h with
  | path _ => exact events_compileElement_of_none rfl
  | @unrecognized v _ hobject =>
    cases v with
    | object fields => exact absurd rfl hobject
    | _ => exact events_compileElement_of_none rfl
  | @relabel fields _ hkeys _ =>
    have hmapper : Keyed.get? RuleKey.mapper.name fields = none :=
      Keyed.get?_eq_none_of_not_mem fun hmem => hkeys _ hmem (by decide)
    refine events_compileElement_of_none ?_
    rw [nestedItems?, hmapper]
  | @head fields key fault hmem hkey hfault =>
    have hhead : ruleHead index fields = .error (.configuration index fault) :=
      ruleHead_error.2 ⟨fault, hfault, rfl⟩
    rw [compileElement_object, if_pos (isRuleObject_iff.2 ⟨key, hmem, hkey⟩), ruleObject, hhead]
    rfl
  | transform _ hmapper _ =>
    refine events_compileElement_of_none ?_
    rw [nestedItems?, hmapper]
  | @mapper fields _ _ spec _ _ hmapper hflaw =>
    refine events_compileElement_of_none ?_
    rw [nestedItems?, hmapper]
    cases hflaw with
    | unknown _ => rfl
    | @kind spec _ harray =>
      cases spec with
      | array items => exact absurd rfl harray
      | _ => rfl

/-- A rule object with a nested specification compiles as this specification does. -/
theorem compileElement_of_nested {fields : Fields} {raw dest : String} {items : List Value}
    (hrule : RuleObject fields raw dest)
    (hmapper : Keyed.get? RuleKey.mapper.name fields = some (.array items)) :
    compileElement registry index (.object fields) =
      ((compileElements registry 0 items).andThen noteCompiled).andThen fun rules =>
        .ok (.nest (pathOf raw) dest rules) := by
  have hhead : ruleHead index fields = .ok (pathOf raw, dest) :=
    ruleHead_ok.2 ⟨raw, dest, hrule, rfl⟩
  rw [compileElement_object, if_pos hrule.isRuleObject, ruleObject, hhead, hmapper]
  exact Traced.ok_andThen _ _

/-- A list that compiles is noted with its length, behind what is noted in its elements. -/
theorem events_noteCompiled {items : List Value} {rules : List Rule}
    (h : (compileElements registry index items).result = .ok rules) :
    ((compileElements registry index items).andThen noteCompiled).events =
      (compileElements registry index items).events ++ [.compiled items.length] := by
  rw [Traced.events_andThen_of_ok h, (compileElements_ok.1 h).length_eq]
  rfl

/-! ### Notes of lists -/

/-- Elements that stand for rules note the lists among them if each notes the lists in it. -/
theorem events_compileElements_of_elements {items : List Value}
    (hwell : ∀ v ∈ items, WellFormedElement registry v)
    (h : ∀ v ∈ items, ∀ index,
      (compileElement registry index v).events = (listsIn v).map ListAt.event) :
    (compileElements registry index items).events =
      (listsAmong index items).map ListAt.event := by
  induction items generalizing index with
  | nil => rw [compileElements, listsAmong]; rfl
  | cons v rest ih =>
    obtain ⟨rule, hrule⟩ := wellFormedElement_iff.1 (hwell v List.mem_cons_self)
    have hrest : (compileElements registry (index + 1) rest).events =
        (listsAmong (index + 1) rest).map ListAt.event :=
      ih (fun w hw => hwell w (List.mem_cons_of_mem v hw))
        fun w hw => h w (List.mem_cons_of_mem v hw)
    rw [compileElements_cons, Traced.events_andThen_of_ok (compileElement_ok.2 hrule),
      Traced.events_andThen_of_silent _ fun _ => rfl, hrest, h v List.mem_cons_self, listsAmong,
      List.map_append, List.map_map]
    rfl

/-- **An element that stands for a rule notes the lists in it.** -/
theorem events_compileElement_of_wellFormed {v : Value} (h : WellFormedElement registry v) :
    ∀ index, (compileElement registry index v).events = (listsIn v).map ListAt.event := by
  have hsilent : ∀ {w : Value}, nestedItems? w = none → ∀ index,
      (compileElement registry index w).events = (listsIn w).map ListAt.event := by
    intro w hnone index
    rw [events_compileElement_of_none hnone, listsIn_of_none hnone]
    rfl
  induction h with
  | path _ => exact hsilent rfl
  | @relabel raw dest hkey _ _ =>
    have hraw : raw ≠ RuleKey.mapper.name := fun h => hkey (by rw [h]; decide)
    refine hsilent ?_
    rw [nestedItems?, Keyed.get?_cons, if_neg hraw]
    rfl
  | named _ hmapper _ =>
    refine hsilent ?_
    rw [nestedItems?, hmapper]
  | call _ hmapper _ _ =>
    refine hsilent ?_
    rw [nestedItems?, hmapper]
  | nested hrule hmapper hwell ih =>
    intro index
    obtain ⟨rules, hrules⟩ : ∃ rules, (compileElements registry 0 _).result = .ok rules :=
      exists_compileElements_ok_iff.2 hwell
    rw [compileElement_of_nested hrule hmapper, Traced.events_andThen_of_silent _ fun _ => rfl,
      events_noteCompiled hrules, events_compileElements_of_elements hwell ih,
      listsIn_of_nested (nestedItems?_eq_some.2 ⟨_, rfl, hmapper⟩), listsOf, List.map_append]
    rfl

/-- Elements that stand for rules note the lists among them. -/
theorem events_compileElements_of_wellFormed {items : List Value}
    (h : ∀ v ∈ items, WellFormedElement registry v) :
    (compileElements registry index items).events = (listsAmong index items).map ListAt.event :=
  events_compileElements_of_elements h fun v hv => events_compileElement_of_wellFormed (h v hv)

/-- **The notes end at the first element that fails.**  Those of the elements before it stand in
front of what it has noted itself. -/
theorem events_compileElements_of_error {before after : List Value} {v : Value} {e : Error}
    (hbefore : ∀ w ∈ before, WellFormedElement registry w)
    (hv : (compileElement registry before.length v).result = .error e) :
    (compileElements registry 0 (before ++ v :: after)).events =
      (listsAmong 0 before).map ListAt.event ++
        (compileElement registry before.length v).events := by
  obtain ⟨rules, hrules⟩ : ∃ rules, (compileElements registry 0 before).result = .ok rules :=
    exists_compileElements_ok_iff.2 hbefore
  rw [compileElements_append, Traced.events_andThen_of_ok hrules,
    Traced.events_andThen_of_silent _ fun _ => rfl, Nat.zero_add, compileElements_cons,
    Traced.events_andThen_of_error hv, events_compileElements_of_wellFormed hbefore]

end

/-! ### The first flaw -/

/-- The error reports the first flaw of a list, and the element that has it is at the address: the
positions of the elements on the way to it, itself included. -/
inductive FirstFlawAt (registry : Registry) : List Value → List Nat → Error → Prop
  | own {items : List Value} {position : Nat} {flaw : Flaw} :
      OwnFlaw registry items position flaw →
      FirstFlawAt registry items [position] (flaw.error position)
  | nested {before after items : List Value} {fields : Fields} {raw dest : String}
      {address : List Nat} {e : Error} :
      (∀ w ∈ before, WellFormedElement registry w) → RuleObject fields raw dest →
      Keyed.get? RuleKey.mapper.name fields = some (.array items) →
      FirstFlawAt registry items address e →
      FirstFlawAt registry (before ++ .object fields :: after) (before.length :: address) e

section

variable {registry : Registry} {items : List Value} {address : List Nat} {e : Error}

namespace FirstFlawAt

theorem firstFlaw (h : FirstFlawAt registry items address e) : FirstFlaw registry items e := by
  induction h with
  | own h => exact .own h
  | nested hbefore hrule hmapper _ ih => exact .nested hbefore hrule hmapper ih

/-- **A list notes the lists to the left of its first flaw.**  What encloses the element with the
flaw is not compiled completely, and what is to the right of it is not compiled at all. -/
theorem events (h : FirstFlawAt registry items address e) :
    (compileElements registry 0 items).events =
      ((listsAmong 0 items).filter fun l => leftOf l.address address).map ListAt.event := by
  induction h with
  | @own items position flaw h =>
    obtain ⟨before, v, after, rfl, rfl, hbefore, hflaw⟩ := h
    have hv : (compileElement registry before.length v).result =
        .error (flaw.error before.length) :=
      compileElement_error.2 (.inl ⟨flaw, hflaw, rfl⟩)
    have hnone : ((listsIn v).filter fun l => leftOf l.address []) = [] := by
      refine List.filter_eq_nil_iff.2 fun l _ => ?_
      cases l.address <;> simp [leftOf]
    rw [events_compileElements_of_error hbefore hv, events_compileElement_of_hasFlaw hflaw,
      listsAmong_leftOf, hnone, List.map_nil, List.append_nil, List.append_nil]
  | @nested before after items fields raw dest address e hbefore hrule hmapper hflaw ih =>
    have hitems : (compileElements registry 0 items).result = .error e :=
      compileElements_error_iff.2 hflaw.firstFlaw
    have hv : (compileElement registry before.length (.object fields)).result = .error e :=
      compileElement_error.2 (.inr ⟨fields, raw, dest, items, rfl, hrule, hmapper, hitems⟩)
    -- The nested list encloses the element with the flaw.
    have hlists : ((listsIn (.object fields)).filter fun l => leftOf l.address address) =
        (listsAmong 0 items).filter fun l => leftOf l.address address := by
      rw [listsIn_of_nested (nestedItems?_eq_some.2 ⟨fields, rfl, hmapper⟩), listsOf,
        List.filter_append]
      exact List.append_nil _
    have hevents : (compileElement registry before.length (.object fields)).events =
        (compileElements registry 0 items).events := by
      rw [compileElement_of_nested hrule hmapper, Traced.events_andThen_of_silent _ fun _ => rfl,
        Traced.events_andThen_of_error hitems]
    rw [events_compileElements_of_error hbefore hv, hevents, ih, listsAmong_leftOf, hlists,
      List.map_append, List.map_map]
    rfl

end FirstFlawAt

end

/-! ### Specifications -/

section

variable {registry : Registry} {items : List Value}

end

end Reshape
