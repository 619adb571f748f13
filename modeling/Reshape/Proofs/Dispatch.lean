import Reshape.Proofs.Mapping
import Reshape.Proofs.Path

/-!
# Arrays item by item

A mapper makes an array of an array and one value of anything else, and what it makes of an item
has nothing to do with the other items.  An item that is an array in turn is one source, so it
becomes an object:

* **`valueOf`** — the value that stands for the object made of a source;
* **`map_array`**, **`map_single`** — mappings in terms of the objects made of single sources;
* **`Entry`** — what stands for an item in the array that is made;
* **`MappedItemwise`** — what is made of a document is made of its items one by one.

The main statement is **`map_itemwise`**: every mapper maps every document in this way, and so do
nested rules with the value at their path.
-/

namespace Reshape

open Json

/-- The value that stands for the object made of a source; `null` where none is made. -/
def valueOf : Option Fields → Value
  | none => .null
  | some d => .object d

/-! ### Single sources -/

section

variable {m : Mapper} {options : Options}

theorem runObject_null : (m.runObject .null options).result = .ok none := rfl

/-- A source that is not `null` becomes an object, if it becomes anything. -/
theorem runObject_ok_of_ne {source : Value} {made : Option Fields} (h : source ≠ .null)
    (hmade : (m.runObject source options).result = .ok made) : ∃ d, made = some d := by
  rw [runObject_of_ne h] at hmade
  obtain ⟨d, -, hd⟩ := map_eq_ok.1 hmade
  exact ⟨d, hd.symm⟩

theorem orNull_buildObject (source : Value) :
    orNull (fun s => (buildObject options m.rules s).result) source =
      (m.runObject source options).result.map valueOf := by
  by_cases h : source = .null
  · subst h
    rfl
  · rw [orNull_of_ne h, runObject_of_ne h]
    cases (buildObject options m.rules source).result with
    | error e => rfl
    | ok d => rfl

/-- **An array is mapped by a walk over its items,** each of them one source. -/
theorem map_array (items : List Value) :
    m.map (.array items) options =
      (items.mapM fun item => (m.runObject item options).result.map valueOf).map .array := by
  rw [map_eq]
  show (items.mapM (orNull _)).map Value.array = _
  rw [funext orNull_buildObject]

/-- Anything but an array is mapped as one source. -/
theorem map_single {v : Value} (h : ∀ items, v ≠ .array items) :
    m.map v options = (m.runObject v options).result.map valueOf := by
  rw [map_eq, elementwise_of_ne h, orNull_buildObject]

end

/-! ### The law of arrays -/

/-- What stands for an item in the array that is made: `null` for `null`, and the object made of
the item for any other.  An item that is no array is mapped to the same value alone. -/
structure Entry (m : Mapper) (options : Options) (item entry : Value) : Prop where
  null : item = .null → entry = .null
  object : item ≠ .null →
    ∃ d, (m.runObject item options).result = .ok (some d) ∧ entry = .object d
  alone : (∀ items, item ≠ .array items) → m.map item options = .ok entry

/-- What is made of a document is made of its items one by one: something is made of an array
exactly when an object is made of every item, `null` apart; it is an array with an entry for each
item, and another item in one place leaves the entries in all other places as they are.  Nothing but
`null` is made of `null`, and nothing but an object of any other value. -/
structure MappedItemwise (m : Mapper) (options : Options) (v : Value) (made : Except Error Value) :
    Prop where
  succeeds : ∀ items, v = .array items →
    ((∃ w, made = .ok w) ↔ ∀ item ∈ items, ∃ d, (m.runObject item options).result = .ok d)
  entries : ∀ items w, v = .array items → made = .ok w →
    ∃ entries, w = .array entries ∧ entries.length = items.length ∧
      ∀ (i : Nat) item, items[i]? = some item →
        ∃ entry, entries[i]? = some entry ∧ Entry m options item entry
  others : ∀ items entries changed i item, v = .array items → made = .ok (.array entries) →
    m.map (.array (items.set i item)) options = .ok (.array changed) →
    ∀ j : Nat, j ≠ i → changed[j]? = entries[j]?
  null : v = .null → made = .ok .null
  object : v ≠ .null → (∀ items, v ≠ .array items) → ∀ w, made = .ok w →
    ∃ d, (m.runObject v options).result = .ok (some d) ∧ w = .object d

section

variable {m : Mapper} {options : Options}

/-- The value made of a source is its entry. -/
theorem entry_of_runObject {item entry : Value}
    (h : (m.runObject item options).result.map valueOf = .ok entry) :
    Entry m options item entry := by
  refine ⟨?_, ?_, fun hitem => (map_single hitem).trans h⟩
  · rintro rfl
    rw [runObject_null] at h
    cases h
    rfl
  · intro hne
    obtain ⟨made, hmade, rfl⟩ := map_eq_ok.1 h
    obtain ⟨d, rfl⟩ := runObject_ok_of_ne hne hmade
    exact ⟨d, hmade, rfl⟩

/-- An array that is made of an array holds what is made of its items. -/
theorem map_array_eq_ok {items : List Value} {w : Value} :
    m.map (.array items) options = .ok w ↔ ∃ entries, w = .array entries ∧
      (items.map fun item => (m.runObject item options).result.map valueOf) = entries.map .ok := by
  rw [map_array, map_eq_ok]
  constructor
  · rintro ⟨entries, hwalk, rfl⟩
    exact ⟨entries, rfl, mapM_eq_ok.1 hwalk⟩
  · rintro ⟨entries, rfl, hmade⟩
    exact ⟨entries, mapM_eq_ok.2 hmade, rfl⟩

theorem exists_map_array_eq_ok {items : List Value} :
    (∃ w, m.map (.array items) options = .ok w) ↔
      ∀ item ∈ items, ∃ d, (m.runObject item options).result = .ok d := by
  have hwalk : (∃ w, m.map (.array items) options = .ok w) ↔
      ∃ entries, (items.mapM fun item => (m.runObject item options).result.map valueOf) =
        .ok entries := by
    rw [map_array]
    constructor
    · rintro ⟨w, h⟩
      obtain ⟨entries, hentries, -⟩ := map_eq_ok.1 h
      exact ⟨entries, hentries⟩
    · rintro ⟨entries, h⟩
      exact ⟨.array entries, map_eq_ok.2 ⟨entries, h, rfl⟩⟩
  rw [hwalk, exists_mapM_eq_ok]
  refine forall₂_congr fun item _ => ?_
  cases (m.runObject item options).result with
  | error e => simp
  | ok d => simp

/-- Every place of the array that is made holds the entry of the item in this place. -/
theorem exists_entry {items entries : List Value}
    (h : (items.map fun item => (m.runObject item options).result.map valueOf) = entries.map .ok)
    {i : Nat} {item : Value} (hitem : items[i]? = some item) :
    ∃ entry, entries[i]? = some entry ∧ Entry m options item entry := by
  have hi := congrArg (·[i]?) h
  simp only [List.getElem?_map, hitem, Option.map_some] at hi
  obtain ⟨entry, hentry, heq⟩ := Option.map_eq_some_iff.1 hi.symm
  exact ⟨entry, hentry, entry_of_runObject heq.symm⟩

/-- Items that are in the same place of two arrays have the same entry. -/
theorem getElem?_entries_congr {items others entries entries' : List Value}
    (h : m.map (.array items) options = .ok (.array entries))
    (h' : m.map (.array others) options = .ok (.array entries')) {j : Nat}
    (hj : others[j]? = items[j]?) : entries'[j]? = entries[j]? := by
  obtain ⟨_, heq, hmade⟩ := map_array_eq_ok.1 h
  obtain ⟨_, heq', hmade'⟩ := map_array_eq_ok.1 h'
  cases heq
  cases heq'
  have hmap : (entries'.map (Except.ok : Value → Except Error Value))[j]? =
      (entries.map .ok)[j]? := by
    rw [← hmade, ← hmade', List.getElem?_map, List.getElem?_map, hj]
  rw [List.getElem?_map, List.getElem?_map] at hmap
  exact Option.map_injective (fun _ _ heq => Except.ok.inj heq) hmap

theorem mappedItemwise_map (v : Value) : MappedItemwise m options v (m.map v options) where
  succeeds := by
    rintro items rfl
    exact exists_map_array_eq_ok
  entries := by
    rintro items w rfl hmap
    obtain ⟨entries, rfl, hmade⟩ := map_array_eq_ok.1 hmap
    have hlength := congrArg List.length hmade
    rw [List.length_map, List.length_map] at hlength
    exact ⟨entries, rfl, hlength.symm, fun i item hitem => exists_entry hmade hitem⟩
  others := by
    rintro items entries changed i item rfl h hchanged j hj
    exact getElem?_entries_congr h hchanged (List.getElem?_set_ne hj.symm)
  null := by
    rintro rfl
    rfl
  object := by
    intro hne hsingle w hmap
    rw [map_single hsingle] at hmap
    exact (entry_of_runObject hmap).object hne

end

/-- **Arrays are mapped item by item.**  Every mapper makes of every document what it makes of its
items one by one.  A nested rule writes what is made, in the same way and with its rules as the
mapper, of the value at its path, at whatever depth it stands. -/
theorem map_itemwise (m : Mapper) (options : Options) :
    (∀ v, MappedItemwise m options v (m.map v options)) ∧
      ∀ source p dest rules v, p.resolve source = some v →
        ∃ made, ((Rule.nest p dest rules).contribution options source).result =
            made.map (fun w => some (dest, w)) ∧
          MappedItemwise ⟨rules⟩ options v made := by
  refine ⟨mappedItemwise_map, ?_⟩
  intro source p dest rules v hv
  refine ⟨(Mapper.mk rules).map v options, ?_, mappedItemwise_map v⟩
  rw [contribution_result_of_found rfl rfl, hv]
  rfl

/-- A mapper that looks into arrays: by position, and with rules for the items of a field. -/
def tableMapper : Mapper :=
  ⟨[.relabel (pathOf "0") "first", .nest (pathOf "rows") "rows" [.copy (pathOf "id")]]⟩

/-- A document with items of every kind, one of them an array and one with an array in it. -/
def tableDocument : Value :=
  .array [.null, .object [("rows", .array [.null, .object [("id", .nat 1)], .array [.nat 2]])],
    .array [.nat 5, .nat 6], .string "nothing"]

/-- What becomes of it. -/
def tableResult : Value :=
  .array [.null, .object [("rows", .array [.null, .object [("id", .nat 1)], .object []])],
    .object [("first", .nat 5)], .object []]

theorem map_itemwise_table :
    tableMapper.map tableDocument .empty = .ok tableResult ∧
      MappedItemwise tableMapper .empty tableDocument (.ok tableResult) := by
  have hmap : tableMapper.map tableDocument .empty = .ok tableResult := rfl
  exact ⟨hmap, hmap ▸ (map_itemwise tableMapper .empty).1 tableDocument⟩

end Reshape
