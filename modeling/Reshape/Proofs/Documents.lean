import Reshape.Corpus.Case
import Reshape.Proofs.Keyed

/-!
# Cases as documents

A case is written as a document and read from it by the shape of cases.  Some fields are left out
when they are absent, some have defaults, and an expected `null` differs from no expectation.  What
the reader does to a document is settled by the shape:

* **`Json.Shape.Full`** — values of a shape that have nothing to be filled in or left out;
* **`Json.Shape.Full.fit`** — the reader leaves them as they are;
* **`Json.Shape.Full.ofList`** — a record made up of fields of its own is such a value if only
  fields are missing that may stay out.

The document of a case is such a value (**`Case.full_toValue`**).  The main statement is
**`Case.ofValue_toValue`**: reading gives the case back.
-/

namespace Reshape

namespace Json

/-! ### Values that stay as they are -/

/-- The value is of the shape as it stands: nothing has to be filled in, and nothing is left out. -/
inductive Shape.Full : Shape → Value → Prop
  | any {v : Value} : Full .any v
  | text {s : String} : Full .text (.string s)
  | flag {b : Bool} : Full .flag (.bool b)
  | integer {name : String} {low high i : Int} : low ≤ i → i ≤ high →
      Full (.integer name low high) (.int i)
  | absent {shape : Shape} : Full (.optional shape) .null
  | present {shape : Shape} {v : Value} : v ≠ .null → Full shape v → Full (.optional shape) v
  | list {shape : Shape} {items : List Value} : (∀ item ∈ items, Full shape item) →
      Full (.list shape) (.array items)
  | table {shape : Shape} {fields : Fields} : (∀ entry ∈ fields, Full shape entry.2) →
      Full (.table shape) (.object fields)
  | record {name : String} {members : List Member} {fields : Fields} :
      Keyed.Sorted fields →
      (∀ entry ∈ fields, (memberShape? members entry.1).isSome) →
      (∀ entry ∈ fields, ∀ shape, memberShape? members entry.1 = some shape → Full shape entry.2) →
      (∀ m ∈ members, m.1 ∈ Keyed.keys fields ∨ m.2.1 = .omitted) →
      Full (.record name members) (.object fields)

/-- A walk gives what it makes of each item, if it makes something of each. -/
theorem mapM_eq_map {ε α β : Type} {f : α → Except ε β} {g : α → β} {items : List α}
    (h : ∀ a ∈ items, f a = .ok (g a)) : items.mapM f = .ok (items.map g) := by
  induction items with
  | nil => rfl
  | cons a rest ih =>
    rw [List.mapM_cons, h a List.mem_cons_self, ih fun b hb => h b (List.mem_cons_of_mem a hb)]
    rfl

/-- A field of a record is compared with the shape that the record has for it. -/
theorem fitMember_of_memberShape? {members : List Member} {name : String} {shape : Shape}
    (h : memberShape? members name = some shape) (v : Value) :
    fitMember members name v = (shape.fit v).map fun w => some (name, w) := by
  induction members with
  | nil => cases h
  | cons m rest ih =>
    obtain ⟨known, absence, other⟩ := m
    rw [fitMember]
    by_cases hname : known = name
    · obtain rfl : other = shape := by simpa [memberShape?, hname] using h
      rw [if_pos hname]
    · have hne : (name == known) = false := beq_false_of_ne (Ne.symm hname)
      rw [if_neg hname]
      exact ih (by simpa [memberShape?, List.lookup_cons, hne] using h)

theorem fillAbsent_eq_self {members : List Member} {fields : Fields}
    (h : ∀ m ∈ members, m.1 ∈ Keyed.keys fields ∨ m.2.1 = .omitted) :
    fillAbsent members fields = .ok fields := by
  induction members with
  | nil => rfl
  | cons m rest ih =>
    obtain ⟨name, absence, shape⟩ := m
    have hrest := ih fun m hm => h m (List.mem_cons_of_mem _ hm)
    by_cases hhas : Keyed.has name fields = true
    · simp only [fillAbsent, hhas, if_true, hrest]
    · obtain rfl : absence = .omitted :=
        (h _ List.mem_cons_self).resolve_left fun hmem => hhas (Keyed.has_iff.2 hmem)
      simp only [fillAbsent, hhas, if_false, hrest, Bool.false_eq_true]

/-- **A value that is of a shape as it stands is left as it is.** -/
theorem Shape.Full.fit {s : Shape} {v : Value} (h : s.Full v) : s.fit v = .ok v := by
  induction h with
  | any => rw [Shape.fit]
  | text => rw [Shape.fit]
  | flag => rw [Shape.fit]
  | integer hlow hhigh =>
    rw [Value.int, Shape.fit, fitInteger, if_pos ⟨hlow, hhigh⟩]
    rfl
  | absent => rw [Shape.fit]
  | @present shape v hne _ ih =>
    rw [Shape.fit]
    · exact ih
    · exact hne
  | @list shape items _ ih =>
    have hitems : items.mapM shape.fit = .ok (items.map id) := mapM_eq_map ih
    rw [Shape.fit]
    simp only [hitems, List.map_id]
    rfl
  | @table shape fields _ ih =>
    have hfields : (fields.mapM fun field => (shape.fit field.2).map fun w => (field.1, w)) =
        .ok (fields.map id) := mapM_eq_map fun entry hentry => by
      rw [ih entry hentry]
      rfl
    rw [Shape.fit]
    simp only [hfields, List.map_id]
    rfl
  | @record name members fields hsorted hknown _ hall ih =>
    have hfields : (fields.mapM fun field => fitMember members field.1 field.2) =
        .ok (fields.map some) := mapM_eq_map fun entry hentry => by
      obtain ⟨shape, hshape⟩ := Option.isSome_iff_exists.1 (hknown entry hentry)
      rw [fitMember_of_memberShape? hshape, ih entry hentry shape hshape]
      rfl
    rw [Shape.fit]
    simp only [hfields]
    show ((fillAbsent members (Keyed.ofList ((fields.map some).filterMap id))).bind fun all =>
      .ok (Value.object all)) = _
    rw [List.filterMap_map, Function.id_comp, List.filterMap_some, hsorted.ofList_eq,
      fillAbsent_eq_self hall]
    rfl

/-- A record made up of fields of its own, of which only those are missing that may stay out, is of
its shape as it stands. -/
theorem Shape.Full.ofList {name : String} {members : List Member} {pairs : List (String × Value)}
    (hnodup : (Keyed.keys pairs).Nodup)
    (hpairs : ∀ pair ∈ pairs, ∃ shape, memberShape? members pair.1 = some shape ∧
      shape.Full pair.2)
    (hall : ∀ m ∈ members, m.1 ∈ Keyed.keys pairs ∨ m.2.1 = .omitted) :
    (Shape.record name members).Full (.object (Keyed.ofList pairs)) := by
  refine .record (Keyed.sorted_ofList pairs) (fun entry hentry => ?_)
    (fun entry hentry shape hshape => ?_) fun m hm => (hall m hm).imp_left fun hkey => ?_
  · obtain ⟨shape, hshape, -⟩ := hpairs entry (Keyed.mem_of_mem_ofList hentry)
    rw [hshape]
    rfl
  · obtain ⟨other, hother, hfull⟩ := hpairs entry (Keyed.mem_of_mem_ofList hentry)
    rw [hother] at hshape
    cases hshape
    exact hfull
  · obtain ⟨v, hv⟩ := Keyed.exists_get?_iff.2 hkey
    exact Keyed.mem_keys_of_get? ((Keyed.get?_ofList hnodup m.1).trans hv)

end Json

open Json

/-! ### Cases -/

/-- The fields of expectations have different names. -/
theorem Expectations.nodup_members (e : Expectations) : (Keyed.keys e.members).Nodup := by
  rcases e with ⟨_ | output, _ | pattern⟩ <;> simp [members, Keyed.keys]

theorem Expectations.full (e : Expectations) :
    shape.Full (.object (Keyed.ofList e.members)) := by
  refine .ofList e.nodup_members (fun pair hpair => ?_) (by simp)
  rcases List.mem_append.1 hpair with h | h
  · obtain ⟨v, -, rfl⟩ := Option.map_eq_some_iff.1 (Option.mem_toList.1 h)
    exact ⟨.any, rfl, .any⟩
  · obtain ⟨s, -, rfl⟩ := Option.map_eq_some_iff.1 (Option.mem_toList.1 h)
    exact ⟨.optional .text, rfl, .present nofun .text⟩

/-- **Expectations are read back,** and those that are not there stay out. -/
theorem Expectations.ofFields_members (e : Expectations) :
    ofFields (Keyed.ofList e.members) = e := by
  rw [ofFields, Keyed.get?_ofList e.nodup_members, Keyed.get?_ofList e.nodup_members]
  rcases e with ⟨_ | output, _ | pattern⟩ <;> rfl

theorem Metadata.nodup_members (m : Metadata) : (Keyed.keys m.members).Nodup := by
  simp [members, Keyed.keys]

theorem Metadata.full (m : Metadata) : shape.Full (.object (Keyed.ofList m.members)) := by
  refine .ofList m.nodup_members ?_ (by simp [members, Keyed.keys])
  have hpriority : (m.priority.toNat : Int) ≤ 4294967295 := by
    have := m.priority.toNat_lt
    omega
  simp only [members, List.forall_mem_cons]
  refine ⟨⟨.text, rfl, .text⟩, ⟨.list .text, rfl, .list fun v hv => ?_⟩, ⟨.flag, rfl, .flag⟩,
    ⟨.natural32, rfl, .integer (Int.natCast_nonneg _) hpriority⟩, List.forall_mem_nil _⟩
  obtain ⟨s, -, rfl⟩ := List.mem_map.1 hv
  exact .text

theorem Metadata.ofFields_members (m : Metadata) : ofFields (Keyed.ofList m.members) = m := by
  simp only [ofFields, partOf, Keyed.get?_ofList m.nodup_members]
  have htags : (m.tags.map Value.string).filterMap stringOf? = m.tags := by
    rw [List.filterMap_map]
    exact List.filterMap_some
  show (⟨m.description, (m.tags.map Value.string).filterMap stringOf?, m.enabled,
    UInt32.ofNat ((m.priority.toNat : Int).toNat)⟩ : Metadata) = m
  rw [htags, Int.toNat_natCast, UInt32.ofNat_toNat]

namespace Case

/-- The fields of the document of a case. -/
def documentFields (c : Case) : List (String × Value) :=
  c.members fun fields => .object (Keyed.ofList fields)

theorem toValue_eq (c : Case) : c.toValue = .object (Keyed.ofList c.documentFields) := rfl

theorem nodup_documentFields (c : Case) : (Keyed.keys c.documentFields).Nodup := by
  simp [documentFields, members, Keyed.keys]

/-- **The document of a case has all fields, and no other ones.** -/
theorem full_toValue (c : Case) : shape.Full c.toValue := by
  refine .ofList c.nodup_documentFields ?_ (by simp [members, Keyed.keys])
  simp only [members, List.forall_mem_cons]
  exact ⟨⟨.text, rfl, .text⟩, ⟨.text, rfl, .text⟩, ⟨.any, rfl, .any⟩, ⟨.any, rfl, .any⟩,
    ⟨.table .any, rfl, .table fun _ _ => .any⟩,
    ⟨Expectations.shape, rfl, c.expectations.full⟩, ⟨Metadata.shape, rfl, c.metadata.full⟩,
    List.forall_mem_nil _⟩

theorem ofFields_documentFields (c : Case) : ofFields (Keyed.ofList c.documentFields) = c := by
  simp only [ofFields, partOf, Keyed.get?_ofList c.nodup_documentFields]
  show (⟨c.name, c.category, c.spec, c.input, ⟨c.options.fields⟩,
    .ofFields (Keyed.ofList c.expectations.members),
    .ofFields (Keyed.ofList c.metadata.members)⟩ : Case) = c
  rw [Expectations.ofFields_members, Metadata.ofFields_members]

/-- **Cases are read back.**  The document of a case is the document of this case, in every field:
an expected output that is not there has no field in it, and one that is there, `null` included, is
under its field.  So a document that holds a case can be replaced by the document of this case. -/
theorem ofValue_toValue :
    (∀ c : Case, ofValue c.toValue = .ok c) ∧
    (∀ c : Case, Keyed.get? "output" (fieldsOf (partOf "expectations" (fieldsOf c.toValue))) =
      c.expectations.output) ∧
    ∀ v, ((ofValue v).bind fun c => ofValue c.toValue) = ofValue v := by
  have hback : ∀ c : Case, ofValue c.toValue = .ok c := by
    intro c
    rw [ofValue, c.full_toValue.fit]
    exact congrArg Except.ok c.ofFields_documentFields
  refine ⟨hback, fun c => ?_, fun v => ?_⟩
  · have hpart : partOf "expectations" (fieldsOf c.toValue) =
        .object (Keyed.ofList c.expectations.members) := by
      rw [toValue_eq, fieldsOf, partOf, Keyed.get?_ofList c.nodup_documentFields]
      rfl
    rw [hpart, fieldsOf, Keyed.get?_ofList c.expectations.nodup_members]
    rcases c.expectations with ⟨_ | output, _ | pattern⟩ <;> rfl
  · cases ofValue v with
    | error m => rfl
    | ok c => exact hback c

end Case

end Reshape
