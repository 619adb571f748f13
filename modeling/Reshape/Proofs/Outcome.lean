import Reshape.Trace

/-!
# Results without their notes

Most laws of compiling and mapping speak of results alone.  This file says what becomes of the
result of a traced computation when the notes are left out:

* **`bind_eq_ok`**, **`map_eq_ok`** — a computation that goes on succeeds exactly when both of its
  parts do;
* **`bind_eq_error`** — it fails exactly when one of them does, the first one first;
* **`mapM_eq_ok`**, **`exists_mapM_eq_ok`** — a walk over items succeeds exactly when each of its
  steps does, and then it gives what they give;
* **`Traced.andThen_result_ok`**, **`Traced.andThen_result_error`** — the same of traced
  computations;
* **`Traced.result_forItems`** — a walk over items is the walk over their results.
-/

namespace Reshape

variable {α β : Type}

/-! ### Results and errors -/

@[simp] theorem ok_bind (a : α) (f : α → Except Error β) : (Except.ok a).bind f = f a := rfl

@[simp] theorem error_bind (e : Error) (f : α → Except Error β) :
    (Except.error e : Except Error α).bind f = .error e := rfl

@[simp] theorem ok_map (a : α) (f : α → β) :
    (Except.ok a : Except Error α).map f = .ok (f a) := rfl

@[simp] theorem error_map (e : Error) (f : α → β) :
    (Except.error e : Except Error α).map f = .error e := rfl

theorem bind_eq_ok {x : Except Error α} {f : α → Except Error β} {b : β} :
    x.bind f = .ok b ↔ ∃ a, x = .ok a ∧ f a = .ok b := by
  cases x with
  | error e => simp
  | ok a => simp

theorem bind_eq_error {x : Except Error α} {f : α → Except Error β} {e : Error} :
    x.bind f = .error e ↔ x = .error e ∨ ∃ a, x = .ok a ∧ f a = .error e := by
  cases x with
  | error e => simp
  | ok a => simp

theorem map_eq_ok {x : Except Error α} {f : α → β} {b : β} :
    x.map f = .ok b ↔ ∃ a, x = .ok a ∧ f a = b := by
  cases x with
  | error e => simp
  | ok a => simp

theorem map_eq_error {x : Except Error α} {f : α → β} {e : Error} :
    x.map f = .error e ↔ x = .error e := by
  cases x with
  | error e => simp
  | ok a => simp

theorem bind_ok_eq_map (x : Except Error α) (f : α → β) :
    (x.bind fun a => .ok (f a)) = x.map f := by
  cases x with
  | error e => rfl
  | ok a => rfl

/-! ### Walks over items -/

/-- **A walk succeeds with what it makes of each item.** -/
theorem mapM_eq_ok {f : α → Except Error β} {items : List α} {made : List β} :
    items.mapM f = .ok made ↔ items.map f = made.map .ok := by
  induction items generalizing made with
  | nil => cases made <;> simp [pure, Except.pure]
  | cons a rest ih =>
    rw [List.mapM_cons, List.map_cons]
    show ((f a).bind fun b => (rest.mapM f).bind fun bs => .ok (b :: bs)) = .ok made ↔ _
    rw [bind_eq_ok]
    constructor
    · rintro ⟨b, hb, hrest⟩
      obtain ⟨bs, hbs, heq⟩ := bind_eq_ok.1 hrest
      cases heq
      rw [List.map_cons, hb, ih.1 hbs]
    · intro h
      cases made with
      | nil => cases h
      | cons b bs =>
        obtain ⟨hb, hbs⟩ := List.cons.inj h
        exact ⟨b, hb, bind_eq_ok.2 ⟨bs, ih.2 hbs, rfl⟩⟩

/-- A walk succeeds exactly when it makes something of each item. -/
theorem exists_mapM_eq_ok {f : α → Except Error β} {items : List α} :
    (∃ made, items.mapM f = .ok made) ↔ ∀ a ∈ items, ∃ b, f a = .ok b := by
  constructor
  · rintro ⟨made, h⟩ a ha
    have hmem : f a ∈ made.map .ok := mapM_eq_ok.1 h ▸ List.mem_map_of_mem ha
    obtain ⟨b, -, hb⟩ := List.mem_map.1 hmem
    exact ⟨b, hb.symm⟩
  · intro h
    induction items with
    | nil => exact ⟨[], rfl⟩
    | cons a rest ih =>
      obtain ⟨b, hb⟩ := h a List.mem_cons_self
      obtain ⟨bs, hbs⟩ := ih fun c hc => h c (List.mem_cons_of_mem a hc)
      exact ⟨b :: bs, mapM_eq_ok.2 (by rw [List.map_cons, List.map_cons, hb, mapM_eq_ok.1 hbs])⟩

/-! ### Traced computations -/

namespace Traced

theorem andThen_result_ok {t : Traced α} {f : α → Traced β} {b : β} :
    (t.andThen f).result = .ok b ↔ ∃ a, t.result = .ok a ∧ (f a).result = .ok b := by
  rw [result_andThen, bind_eq_ok]

theorem andThen_result_error {t : Traced α} {f : α → Traced β} {e : Error} :
    (t.andThen f).result = .error e ↔
      t.result = .error e ∨ ∃ a, t.result = .ok a ∧ (f a).result = .error e := by
  rw [result_andThen, bind_eq_error]

/-- A result that is only reshaped keeps the error, if there is one. -/
theorem result_andThen_ok (t : Traced α) (f : α → β) :
    (t.andThen fun a => ok (f a)).result = t.result.map f := by
  rw [result_andThen]
  exact bind_ok_eq_map t.result f

@[simp] theorem result_note_andThen (e : Event) (f : Unit → Traced β) :
    ((note e).andThen f).result = (f ()).result := by
  rw [result_andThen]
  rfl

theorem result_lift_andThen (x : Except Error α) (f : α → Traced β) :
    ((lift x).andThen f).result = x.bind fun a => (f a).result := by
  rw [result_andThen, lift_result]

theorem events_andThen_of_ok {t : Traced α} {a : α} (h : t.result = .ok a) (f : α → Traced β) :
    (t.andThen f).events = t.events ++ (f a).events := by
  rw [events_andThen, h]

/-- Nothing is noted behind an error. -/
theorem events_andThen_of_error {t : Traced α} {e : Error} (h : t.result = .error e)
    (f : α → Traced β) : (t.andThen f).events = t.events := by
  rw [events_andThen, h, List.append_nil]

/-- A computation that goes on without notes keeps those that it has. -/
theorem events_andThen_of_silent (t : Traced α) {f : α → Traced β} (h : ∀ a, (f a).events = []) :
    (t.andThen f).events = t.events := by
  cases hresult : t.result with
  | error e => exact events_andThen_of_error hresult f
  | ok a => rw [events_andThen_of_ok hresult, h, List.append_nil]

theorem forItems_cons (f : α → Traced β) (a : α) (rest : List α) :
    forItems f (a :: rest) =
      (f a).andThen fun b => (forItems f rest).andThen fun bs => ok (b :: bs) := rfl

/-- **A walk over items is the walk over their results.** -/
theorem result_forItems (f : α → Traced β) (items : List α) :
    (forItems f items).result = items.mapM fun a => (f a).result := by
  induction items with
  | nil => rfl
  | cons a rest ih =>
    rw [forItems_cons, result_andThen, List.mapM_cons]
    cases (f a).result with
    | error e => rfl
    | ok b =>
      show ((forItems f rest).andThen fun bs => ok (b :: bs)).result = _
      rw [result_andThen_ok, ih]
      cases rest.mapM fun a => (f a).result with
      | error e => rfl
      | ok bs => rfl

end Traced

end Reshape
