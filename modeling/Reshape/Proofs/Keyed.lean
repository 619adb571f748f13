import Reshape.Keyed
import Mathlib.Data.List.Perm.Subperm

/-!
# Laws of lists by key

What a list by key holds is settled by what is under each key:

* **`Keyed.mem_of_get?`**, **`Keyed.exists_get?_iff`** — a key leads to an entry of the list;
* **`Keyed.Sorted.sameKeys_iff`** — equally long lists, of which one has all keys of the other;
* **`Keyed.Sorted.ext`** — ordered lists with the same under every key are the same list;
* **`Keyed.set_comm`** — entries under two keys can be set in either order;
* **`Keyed.get?_ofList`** — pairs with different keys make up a list with the same under every key.
-/

namespace Reshape

namespace Keyed

variable {α : Type}

theorem get?_cons (key k : String) (v : α) (rest : Keyed α) :
    get? key ((k, v) :: rest) = if k = key then some v else get? key rest := rfl

theorem mem_of_get? {key : String} {v : α} {entries : Keyed α}
    (h : get? key entries = some v) : (key, v) ∈ entries := by
  induction entries with
  | nil => cases h
  | cons entry rest ih =>
    rcases entry with ⟨k, w⟩
    rw [get?_cons] at h
    by_cases hk : k = key
    · rw [if_pos hk] at h
      cases h
      rw [hk]
      exact List.mem_cons_self
    · rw [if_neg hk] at h
      exact List.mem_cons_of_mem _ (ih h)

theorem mem_keys_of_get? {key : String} {v : α} {entries : Keyed α}
    (h : get? key entries = some v) : key ∈ keys entries :=
  List.mem_map_of_mem (mem_of_get? h)

/-- There is something under a key exactly when the key is among the keys. -/
theorem exists_get?_iff {key : String} {entries : Keyed α} :
    (∃ v, get? key entries = some v) ↔ key ∈ keys entries := by
  constructor
  · rintro ⟨v, h⟩
    exact mem_keys_of_get? h
  · intro h
    induction entries with
    | nil => cases h
    | cons entry rest ih =>
      rcases entry with ⟨k, w⟩
      rw [get?_cons]
      by_cases hk : k = key
      · exact ⟨w, if_pos hk⟩
      · have hrest : key ∈ keys rest := by
          rcases List.mem_cons.1 h with heq | hmem
          · exact absurd heq.symm hk
          · exact hmem
        rw [if_neg hk]
        exact ih hrest

theorem has_iff {key : String} {entries : Keyed α} :
    has key entries = true ↔ key ∈ keys entries := by
  rw [has, Option.isSome_iff_exists, exists_get?_iff]

theorem get?_eq_none_of_not_mem {key : String} {entries : Keyed α} (h : key ∉ keys entries) :
    get? key entries = none := by
  cases hg : get? key entries with
  | none => rfl
  | some v => exact absurd (mem_keys_of_get? hg) h

/-! ### Ordered lists -/

instance decidableSorted (entries : Keyed α) : Decidable (Sorted entries) :=
  inferInstanceAs (Decidable (entries.Pairwise fun a b => a.1 < b.1))

theorem Sorted.tail {entry : String × α} {rest : Keyed α} (h : Sorted (entry :: rest)) :
    Sorted rest := (List.pairwise_cons.1 h).2

theorem Sorted.head_lt {entry : String × α} {rest : Keyed α} (h : Sorted (entry :: rest))
    {key : String} (hkey : key ∈ keys rest) : entry.1 < key := by
  obtain ⟨other, hmem, rfl⟩ := List.mem_map.1 hkey
  exact (List.pairwise_cons.1 h).1 other hmem

/-- The first key of an ordered list does not occur again. -/
theorem Sorted.get?_tail {k : String} {v : α} {rest : Keyed α} (h : Sorted ((k, v) :: rest)) :
    get? k rest = none :=
  get?_eq_none_of_not_mem fun hmem => String.lt_irrefl k (h.head_lt hmem)

/-- No key of an ordered list comes before the first one. -/
theorem Sorted.not_lt_head {k l : String} {v : α} {rest : Keyed α}
    (h : Sorted ((k, v) :: rest)) (hl : l ∈ keys ((k, v) :: rest)) : ¬ l < k := by
  intro hlt
  rcases List.mem_cons.1 hl with heq | hmem
  · have hlk : l = k := heq
    rw [hlk] at hlt
    exact String.lt_irrefl k hlt
  · exact String.lt_irrefl l (String.lt_trans hlt (h.head_lt hmem))

/-- An ordered list has under each of its keys the entry of this key. -/
theorem Sorted.get?_of_mem {entries : Keyed α} (h : Sorted entries) {entry : String × α}
    (hmem : entry ∈ entries) : get? entry.1 entries = some entry.2 := by
  induction entries with
  | nil => cases hmem
  | cons head rest ih =>
    rcases List.mem_cons.1 hmem with rfl | hrest
    · rw [get?_cons, if_pos rfl]
    · have hlt : head.1 < entry.1 := h.head_lt (List.mem_map_of_mem hrest)
      rw [get?_cons, if_neg fun heq => String.lt_irrefl _ (heq ▸ hlt)]
      exact ih h.tail hrest

theorem Sorted.nodup_keys {entries : Keyed α} (h : Sorted entries) : (keys entries).Nodup := by
  refine List.pairwise_map.2 (h.imp ?_)
  intro a b hlt heq
  exact String.lt_irrefl b.1 (heq ▸ hlt)

/-- **Equal numbers of keys leave none over.**  Ordered lists have the same keys exactly when they
are equally long and the one has all keys of the other. -/
theorem Sorted.sameKeys_iff {xs ys : Keyed α} (hx : Sorted xs) (hy : Sorted ys) :
    (∀ key, key ∈ keys xs ↔ key ∈ keys ys) ↔
      xs.length = ys.length ∧ ∀ key ∈ keys xs, key ∈ keys ys := by
  have hlength : ∀ entries : Keyed α, (keys entries).length = entries.length :=
    fun entries => List.length_map Prod.fst
  constructor
  · intro h
    have hperm : (keys xs).Perm (keys ys) :=
      (List.perm_ext_iff_of_nodup hx.nodup_keys hy.nodup_keys).2 h
    refine ⟨?_, fun key => (h key).1⟩
    rw [← hlength xs, ← hlength ys, hperm.length_eq]
  · rintro ⟨hlen, hsub⟩
    have hle : (keys ys).length ≤ (keys xs).length :=
      Nat.le_of_eq (by rw [hlength xs, hlength ys, hlen])
    have hperm : (keys xs).Perm (keys ys) :=
      (List.subperm_of_subset hx.nodup_keys hsub).perm_of_length_le hle
    exact fun key => hperm.mem_iff

/-- **Ordered lists without a common key merge into an ordered list.** -/
theorem Sorted.merge {xs ys : Keyed α} (hx : Sorted xs) (hy : Sorted ys)
    (hdisjoint : ∀ x ∈ xs, ∀ y ∈ ys, x.1 ≠ y.1) :
    Sorted (List.merge xs ys fun x y => decide (x.1 ≤ y.1)) := by
  have hweak : ∀ {entries : Keyed α}, Sorted entries →
      entries.Pairwise fun a b => decide (a.1 ≤ b.1) = true := by
    intro entries h
    exact h.imp fun hlt => decide_eq_true (String.not_lt.1 (String.lt_asymm hlt))
  have hdistinct : ∀ {entries : Keyed α}, Sorted entries →
      entries.Pairwise fun a b => a.1 ≠ b.1 :=
    fun h => List.pairwise_map.1 h.nodup_keys
  -- Merging keeps the weak order; the keys of the merged list are those of both, so they differ.
  have hle : (List.merge xs ys fun x y => decide (x.1 ≤ y.1)).Pairwise
      fun a b => decide (a.1 ≤ b.1) = true := by
    refine List.pairwise_merge (fun a b c hab hbc => ?_) (fun a b => ?_) xs ys (hweak hx) (hweak hy)
    · exact decide_eq_true (String.le_trans (of_decide_eq_true hab) (of_decide_eq_true hbc))
    · rcases String.le_total a.1 b.1 with hab | hba
      · rw [decide_eq_true hab, Bool.true_or]
      · rw [decide_eq_true hba, Bool.or_true]
  have hne : (List.merge xs ys fun x y => decide (x.1 ≤ y.1)).Pairwise fun a b => a.1 ≠ b.1 := by
    refine ((List.merge_perm_append _).pairwise_iff fun hab => hab.symm).2 ?_
    exact List.pairwise_append.2 ⟨hdistinct hx, hdistinct hy, hdisjoint⟩
  refine hle.imp₂ (fun a b hab hdiff => ?_) hne
  refine Decidable.byContradiction fun hlt => hdiff ?_
  exact String.le_antisymm (of_decide_eq_true hab) (String.not_lt.1 hlt)

/-- **What is under the keys settles the list.**  Ordered lists with the same under every key are
equal. -/
theorem Sorted.ext {xs ys : Keyed α} (hx : Sorted xs) (hy : Sorted ys)
    (h : ∀ key, get? key xs = get? key ys) : xs = ys := by
  induction xs generalizing ys with
  | nil =>
    cases ys with
    | nil => rfl
    | cons entry rest =>
      have := h entry.1
      simp [get?] at this
  | cons entry xs ih =>
    rcases entry with ⟨k, v⟩
    cases ys with
    | nil =>
      have := h k
      simp [get?] at this
    | cons other ys =>
      rcases other with ⟨l, w⟩
      have hkeys : ∀ key, key ∈ keys ((k, v) :: xs) ↔ key ∈ keys ((l, w) :: ys) := by
        intro key
        rw [← exists_get?_iff, ← exists_get?_iff, h key]
      have hkl : k = l := by
        have hl : ¬ l < k := hx.not_lt_head ((hkeys l).2 List.mem_cons_self)
        have hk : ¬ k < l := hy.not_lt_head ((hkeys k).1 List.mem_cons_self)
        exact String.le_antisymm (String.not_lt.1 hl) (String.not_lt.1 hk)
      subst hkl
      have hvw : v = w := by
        have := h k
        simpa [get?] using this
      subst hvw
      have hrest : xs = ys := by
        refine ih hx.tail hy.tail fun key => ?_
        by_cases hkey : k = key
        · rw [← hkey, hx.get?_tail, hy.get?_tail]
        · have := h key
          simpa [get?, hkey] using this
      rw [hrest]

/-- Entries under two keys can be set in either order. -/
theorem set_comm {k l : String} (h : k ≠ l) (v w : α) {entries : Keyed α}
    (hsorted : Sorted entries) : set k v (set l w entries) = set l w (set k v entries) := by
  have hset : ∀ key value other value', Sorted (set key value (set other value' entries)) :=
    fun _ _ _ _ => sorted_set (sorted_set hsorted)
  refine Sorted.ext (hset _ _ _ _) (hset _ _ _ _) fun key => ?_
  by_cases hk : key = k
  · rw [hk, get?_set_self, get?_set_of_ne h, get?_set_self]
  · by_cases hl : key = l
    · rw [hl, get?_set_of_ne h.symm, get?_set_self, get?_set_self]
    · rw [get?_set_of_ne hk, get?_set_of_ne hl, get?_set_of_ne hl, get?_set_of_ne hk]

/-! ### Lists made up of pairs -/

theorem sorted_ofList (pairs : List (String × α)) : Sorted (ofList pairs) := by
  have hfold : ∀ entries : Keyed α, Sorted entries →
      Sorted (pairs.foldl (fun entries pair => set pair.1 pair.2 entries) entries) := by
    induction pairs with
    | nil => exact fun _ h => h
    | cons pair rest ih => exact fun _ h => ih _ (sorted_set h)
  exact hfold [] List.Pairwise.nil

theorem mem_of_mem_ofList {pairs : List (String × α)} {entry : String × α}
    (h : entry ∈ ofList pairs) : entry ∈ pairs := by
  have hfold : ∀ (more : List (String × α)) (entries : Keyed α),
      entry ∈ more.foldl (fun entries pair => set pair.1 pair.2 entries) entries →
        entry ∈ more ∨ entry ∈ entries := by
    intro more
    induction more with
    | nil => exact fun _ => .inr
    | cons pair rest ih =>
      intro entries hmem
      rcases ih _ hmem with hrest | hset
      · exact .inl (List.mem_cons_of_mem pair hrest)
      · rcases mem_set hset with rfl | hentry
        · exact .inl List.mem_cons_self
        · exact .inr hentry
  exact (hfold pairs [] h).resolve_right List.not_mem_nil

/-- Pairs with different keys make up the list that has their values under the keys. -/
theorem get?_ofList {pairs : List (String × α)} (h : (keys pairs).Nodup) (key : String) :
    get? key (ofList pairs) = get? key pairs := by
  have hfold : ∀ entries : Keyed α,
      get? key (pairs.foldl (fun entries pair => set pair.1 pair.2 entries) entries) =
        (get? key pairs).or (get? key entries) := by
    induction pairs with
    | nil => exact fun _ => rfl
    | cons pair rest ih =>
      obtain ⟨k, v⟩ := pair
      obtain ⟨hk, hrest⟩ := List.nodup_cons.1 h
      intro entries
      rw [List.foldl_cons, ih hrest, get?_cons]
      by_cases hkey : k = key
      · rw [← hkey, get?_eq_none_of_not_mem hk, get?_set_self, if_pos rfl]
        rfl
      · rw [get?_set_of_ne (Ne.symm hkey), if_neg hkey]
  rw [ofList, hfold]
  cases get? key pairs <;> rfl

/-- An ordered list is made up of its own entries. -/
theorem Sorted.ofList_eq {entries : Keyed α} (h : Sorted entries) : ofList entries = entries :=
  (sorted_ofList entries).ext h (get?_ofList h.nodup_keys)

end Keyed

end Reshape
