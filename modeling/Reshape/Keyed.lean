/-!
# Lists by key

Entries under string keys, one entry to a key, in strict order of the keys.  Objects, registries and
directories are such lists.

* **`Keyed`** — the lists, with `get?`, `has`, `set`, `erase`, `ofList` and `keys`.
* **`Keyed.Sorted`** — strict order of the keys.

The main statements are the equations of `get?` after `set` and `erase`, and **`sorted_set`**:
setting an entry keeps the order.
-/

namespace Reshape

/-- Entries under string keys, meant to be in strict order of the keys. -/
abbrev Keyed (α : Type) := List (String × α)

namespace Keyed

variable {α : Type}

/-- What is under a key. -/
def get? (key : String) : Keyed α → Option α
  | [] => none
  | (k, v) :: rest => if k = key then some v else get? key rest

/-- Whether there is an entry under a key. -/
def has (key : String) (entries : Keyed α) : Bool := (get? key entries).isSome

/-- The list with a value under a key, in place of what was there before. -/
def set (key : String) (value : α) : Keyed α → Keyed α
  | [] => [(key, value)]
  | (k, v) :: rest =>
    if key = k then (key, value) :: rest
    else if key < k then (key, value) :: (k, v) :: rest
    else (k, v) :: set key value rest

/-- The list without what is under a key. -/
def erase (key : String) (entries : Keyed α) : Keyed α := entries.filter fun entry => entry.1 ≠ key

/-- The entries of some pairs; a later pair wins over an earlier one of the same key. -/
def ofList (pairs : List (String × α)) : Keyed α :=
  pairs.foldl (fun entries pair => set pair.1 pair.2 entries) []

/-- The keys, in order. -/
def keys (entries : Keyed α) : List String := entries.map Prod.fst

/-- Strict order of the keys. -/
def Sorted (entries : Keyed α) : Prop := entries.Pairwise fun a b => a.1 < b.1

@[simp] theorem get?_nil (key : String) : get? key ([] : Keyed α) = none := rfl

@[simp] theorem get?_set_self (key : String) (value : α) (entries : Keyed α) :
    get? key (set key value entries) = some value := by
  induction entries with
  | nil => simp [set, get?]
  | cons entry rest ih =>
    rcases entry with ⟨k, v⟩
    by_cases heq : key = k
    · simp [set, heq, get?]
    · have hne : k ≠ key := fun h => heq h.symm
      by_cases hlt : key < k <;> simp [set, heq, hlt, get?, hne, ih]

theorem get?_set_of_ne {key other : String} (h : other ≠ key) (value : α) (entries : Keyed α) :
    get? other (set key value entries) = get? other entries := by
  have hko : ¬ key = other := fun e => h e.symm
  induction entries with
  | nil => simp [set, get?, hko]
  | cons entry rest ih =>
    rcases entry with ⟨k, v⟩
    by_cases heq : key = k
    · subst heq
      simp [set, get?, hko]
    · by_cases hlt : key < k
      · simp [set, heq, hlt, get?, hko]
      · simp [set, heq, hlt, get?, ih]

@[simp] theorem get?_erase_self (key : String) (entries : Keyed α) :
    get? key (erase key entries) = none := by
  induction entries with
  | nil => rfl
  | cons entry rest ih =>
    by_cases h : entry.1 = key
    · simpa [erase, h] using ih
    · simpa [erase, h, get?] using ih

theorem get?_erase_of_ne {key other : String} (h : other ≠ key) (entries : Keyed α) :
    get? other (erase key entries) = get? other entries := by
  induction entries with
  | nil => rfl
  | cons entry rest ih =>
    have ih' : get? other (List.filter (fun entry => entry.1 ≠ key) rest) = get? other rest := ih
    by_cases hk : entry.1 = key
    · have hne : ¬ key = other := fun e => h e.symm
      simp [erase, hk, get?, hne]
      simpa using ih'
    · simp only [erase, ne_eq, hk, not_false_eq_true, decide_true, List.filter_cons_of_pos, get?]
      by_cases ho : entry.1 = other
      · simp [ho]
      · simpa [ho] using ih'

theorem mem_set {key : String} {value : α} {entries : Keyed α} {entry : String × α}
    (h : entry ∈ set key value entries) : entry = (key, value) ∨ entry ∈ entries := by
  induction entries with
  | nil => simpa [set] using h
  | cons head rest ih =>
    rcases head with ⟨k, v⟩
    by_cases heq : key = k
    · simp only [set, heq, if_true, List.mem_cons] at h ⊢
      rcases h with h | h
      · exact .inl h
      · exact .inr (.inr h)
    · by_cases hlt : key < k
      · simpa [set, heq, hlt] using h
      · simp only [set, heq, hlt, if_false, List.mem_cons] at h ⊢
        rcases h with h | h
        · exact .inr (.inl h)
        · rcases ih h with h | h
          · exact .inl h
          · exact .inr (.inr h)

/-- **Order is kept.**  Setting an entry leaves an ordered list in order. -/
theorem sorted_set {key : String} {value : α} {entries : Keyed α} (h : Sorted entries) :
    Sorted (set key value entries) := by
  induction entries with
  | nil => simp [set, Sorted]
  | cons head rest ih =>
    rcases head with ⟨k, v⟩
    obtain ⟨hhead, hrest⟩ := List.pairwise_cons.1 h
    by_cases heq : key = k
    · subst heq
      simpa [set, Sorted] using And.intro hhead hrest
    · by_cases hlt : key < k
      · have hall : ∀ entry ∈ (k, v) :: rest, key < entry.1 := by
          intro entry hmem
          rcases List.mem_cons.1 hmem with rfl | hmem
          · exact hlt
          · exact String.lt_trans hlt (hhead entry hmem)
        simp only [set, heq, hlt, if_false, if_true]
        exact List.pairwise_cons.2 ⟨hall, h⟩
      · have hgt : k < key := by
          refine Decidable.byContradiction fun hn => heq ?_
          exact String.le_antisymm (String.not_lt.1 hn) (String.not_lt.1 hlt)
        simp only [set, heq, hlt, if_false]
        refine List.pairwise_cons.2 ⟨?_, ih hrest⟩
        intro entry hmem
        rcases mem_set hmem with rfl | hmem
        · exact hgt
        · exact hhead entry hmem

end Keyed

end Reshape
