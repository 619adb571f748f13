import Mathlib.Data.List.Nodup
import Reshape.Proofs.Disagreements
import Reshape.Proofs.Numeral

/-!
# Texts of places

The text of a place puts keys and positions one behind the other and escapes nothing, so keys can
make the texts of two places equal.  What can be told apart are plain keys:

* **`PlainKey`** — a key that holds no dot and no position in brackets, and has no mark at its end;
* **`PlainPlace`** — a place with plain keys only, the first of which has a text;
* **`Tail`** — what can stand behind a key in the text of a disagreement.

A key and a tail behind it are told apart in one way only (**`append_tail_inj`**), so plain places
are settled by their texts (**`text_inj`**).  The main statement is
**`compareValues_texts_distinct`**; **`compareValues_texts_collide`** has documents for each way in
which keys that are not plain make texts equal.
-/

namespace Reshape

open Json

/-! ### Plain keys -/

/-- The characters of a step behind others. -/
def Step.chars : Step → List Char
  | .key k => '.' :: k.toList
  | .item i => '[' :: (Nat.toDigits 10 i ++ [']'])

/-- The characters behind the path of a disagreement. -/
def Difference.mark : Difference → List Char
  | .changed => []
  | .missing => " (missing in actual)".toList
  | .extra => " (extra in actual)".toList

/-- A key that cannot be taken for more or less than a key: there is no dot in it and no position in
brackets, and it does not end in a mark. -/
structure PlainKey (key : List Char) : Prop where
  dot : '.' ∉ key
  position : ∀ i, ¬ (Step.item i).chars <:+: key
  mark : ∀ difference : Difference, difference ≠ .changed → ¬ difference.mark <:+ key

/-- A place whose keys are plain, and which does not begin with the empty key. -/
structure PlainPlace (place : List Step) : Prop where
  keys : ∀ key, .key key ∈ place → PlainKey key.toList
  first : place.head? ≠ some (.key "")

/-- A key without dots, brackets and blanks is plain. -/
theorem plainKey_of_not_mem {key : List Char} (hdot : '.' ∉ key) (hbracket : '[' ∉ key)
    (hblank : ' ' ∉ key) : PlainKey key := by
  refine ⟨hdot, fun i h => hbracket (h.subset List.mem_cons_self), fun difference hne h => ?_⟩
  cases difference with
  | changed => exact hne rfl
  | missing => exact hblank (h.mem List.mem_cons_self)
  | extra => exact hblank (h.mem List.mem_cons_self)

theorem plainKey_nil : PlainKey [] :=
  plainKey_of_not_mem List.not_mem_nil List.not_mem_nil List.not_mem_nil

/-! ### Behind a key -/

/-- What can stand behind a key: a mark or nothing, with any steps in front. -/
inductive Tail : List Char → Prop
  | mark (difference : Difference) : Tail difference.mark
  | step (step : Step) {rest : List Char} : Tail rest → Tail (step.chars ++ rest)

theorem tail_flatMap (place : List Step) (difference : Difference) :
    Tail (place.flatMap Step.chars ++ difference.mark) := by
  induction place with
  | nil => exact .mark difference
  | cons step place ih =>
    rw [List.flatMap_cons, List.append_assoc]
    exact .step step ih

/-- A tail that is not empty begins with a dot, a bracket or a blank. -/
theorem Tail.head {cs : List Char} (h : Tail cs) {c : Char} (hc : cs.head? = some c) :
    c = '.' ∨ c = '[' ∨ c = ' ' := by
  cases h with
  | mark difference =>
    cases difference with
    | changed => cases hc
    | missing => exact .inr (.inr (Option.some.inj hc).symm)
    | extra => exact .inr (.inr (Option.some.inj hc).symm)
  | step step _ =>
    cases step with
    | key k => exact .inl (Option.some.inj hc).symm
    | item i => exact .inr (.inl (Option.some.inj hc).symm)

theorem not_mem_mark (difference : Difference) : '.' ∉ difference.mark ∧ '[' ∉ difference.mark := by
  cases difference <;> decide

/-- A mark ends in no other tail than nothing and itself. -/
theorem Tail.eq_of_suffix_mark {cs : List Char} (h : Tail cs) {difference : Difference}
    (hsuffix : cs <:+ difference.mark) : cs = [] ∨ cs = difference.mark := by
  cases h with
  | mark other =>
    cases other <;> cases difference <;> revert hsuffix <;> decide
  | step step _ =>
    obtain ⟨hdot, hbracket⟩ := not_mem_mark difference
    cases step with
    | key k => exact absurd (hsuffix.mem List.mem_cons_self) hdot
    | item i => exact absurd (hsuffix.mem List.mem_cons_self) hbracket

/-- Behind the beginning of a position in brackets, no tail begins before the position ends. -/
theorem Tail.not_in_position {i : Nat} {xs ys rest : List Char} (hx : xs ≠ []) (hy : ys ≠ [])
    (hposition : (Step.item i).chars = xs ++ ys) : ¬ Tail (ys ++ rest) := by
  intro htail
  obtain ⟨x, xs, rfl⟩ := List.exists_cons_of_ne_nil hx
  obtain ⟨y, ys, rfl⟩ := List.exists_cons_of_ne_nil hy
  have hy : y ∈ Nat.toDigits 10 i ++ [']'] := by
    have hbehind : Nat.toDigits 10 i ++ [']'] = xs ++ y :: ys := (List.cons.inj hposition).2
    rw [hbehind]
    exact List.mem_append_right xs List.mem_cons_self
  have hhead := htail.head rfl
  rcases List.mem_append.1 hy with hdigit | hbracket
  · have hvalue := Numeral.isDigit_of_mem_toDigits hdigit
    rcases hhead with rfl | rfl | rfl
    all_goals exact absurd hvalue (by decide)
  · rw [List.mem_singleton.1 hbracket] at hhead
    exact absurd hhead (by decide)

/-- **A plain key reaches into no tail.**  What a plain key has in common with a tail behind its
beginning is nothing, if the rest is a tail as well. -/
theorem eq_nil_of_tail_append {key xs rest : List Char} (hkey : PlainKey (key ++ xs))
    (htail : Tail (xs ++ rest)) (hrest : Tail rest) : xs = [] := by
  refine Decidable.byContradiction fun hne => ?_
  generalize hcs : xs ++ rest = cs at htail
  cases htail with
  | mark difference =>
    rcases hrest.eq_of_suffix_mark ⟨xs, hcs⟩ with rfl | rfl
    · rw [List.append_nil] at hcs
      have hchanged : difference ≠ .changed := by
        rintro rfl
        exact hne hcs
      exact hkey.mark difference hchanged (hcs ▸ List.suffix_append key xs)
    · exact hne (List.append_left_eq_self.1 hcs)
  | @step step more _ =>
    cases step with
    | key k =>
      obtain ⟨x, xs, rfl⟩ := List.exists_cons_of_ne_nil hne
      obtain rfl : x = '.' := (List.cons.inj hcs).1
      exact hkey.dot (List.mem_append_right key List.mem_cons_self)
    | item i =>
      -- The key holds all of the position, or the rest begins within it.
      rcases List.append_eq_append_iff.1 hcs with ⟨ys, hposition, hys⟩ | ⟨ys, hxs, -⟩
      · by_cases hempty : ys = []
        · rw [hempty, List.append_nil] at hposition
          exact hkey.position i (hposition ▸ (List.suffix_append key xs).isInfix)
        · exact Tail.not_in_position hne hempty hposition (hys ▸ hrest)
      · refine hkey.position i (hxs ▸ ?_)
        exact (List.prefix_append _ ys).isInfix.trans (List.suffix_append key _).isInfix

/-- **A plain key ends where a tail begins.** -/
theorem append_tail_inj {k l t u : List Char} (hk : PlainKey k) (hl : PlainKey l) (ht : Tail t)
    (hu : Tail u) (h : k ++ t = l ++ u) : k = l ∧ t = u := by
  rcases List.append_eq_append_iff.1 h with ⟨xs, rfl, rfl⟩ | ⟨xs, rfl, rfl⟩
  · obtain rfl := eq_nil_of_tail_append hl ht hu
    simp
  · obtain rfl := eq_nil_of_tail_append hk hu ht
    simp

/-! ### Places -/

theorem chars_item_inj {i j : Nat} {t u : List Char}
    (h : (Step.item i).chars ++ t = (Step.item j).chars ++ u) : i = j ∧ t = u := by
  have hall : ∀ n, ∀ c ∈ Nat.toDigits 10 n, c.isDigit = true := fun _ _ =>
    Numeral.isDigit_of_mem_toDigits
  have hdigits : ∀ (n : Nat) (rest : List Char),
      (Nat.toDigits 10 n ++ ']' :: rest).takeWhile Char.isDigit = Nat.toDigits 10 n := by
    intro n rest
    rw [List.takeWhile_append_of_pos (hall n), List.takeWhile_cons_of_neg (by decide),
      List.append_nil]
  have hbehind : Nat.toDigits 10 i ++ ']' :: t = Nat.toDigits 10 j ++ ']' :: u := by
    simpa [Step.chars] using h
  have hsame : Nat.toDigits 10 i = Nat.toDigits 10 j := by
    rw [← hdigits i t, hbehind, hdigits j u]
  have hij : i = j := by
    have hread := Numeral.natural?_toDigits i
    rw [hsame, Numeral.natural?_toDigits] at hread
    exact (Option.some.inj hread).symm
  rw [hsame] at hbehind
  exact ⟨hij, (List.cons.inj (List.append_cancel_left hbehind)).2⟩

theorem mark_inj {d e : Difference} (h : d.mark = e.mark) : d = e := by
  cases d <;> cases e <;> revert h <;> decide

/-- Behind the beginning of a text, plain steps and a mark are settled by their characters. -/
theorem flatMap_chars_inj {p q : List Step} {d e : Difference}
    (hp : ∀ key, .key key ∈ p → PlainKey key.toList)
    (hq : ∀ key, .key key ∈ q → PlainKey key.toList)
    (h : p.flatMap Step.chars ++ d.mark = q.flatMap Step.chars ++ e.mark) : p = q ∧ d = e := by
  -- A mark has neither the dot nor the bracket with which a step begins.
  have hends : ∀ (d : Difference) (step : Step) (cs : List Char), d.mark ≠ step.chars ++ cs := by
    intro d step cs heq
    obtain ⟨hdot, hbracket⟩ := not_mem_mark d
    cases step with
    | key k => exact hdot (heq ▸ List.mem_cons_self)
    | item i => exact hbracket (heq ▸ List.mem_cons_self)
  induction p generalizing q with
  | nil =>
    cases q with
    | nil => exact ⟨rfl, mark_inj h⟩
    | cons t q =>
      rw [List.flatMap_cons, List.append_assoc] at h
      exact absurd h (hends d t _)
  | cons s p ih =>
    cases q with
    | nil =>
      rw [List.flatMap_cons, List.append_assoc] at h
      exact absurd h.symm (hends e s _)
    | cons t q =>
      rw [List.flatMap_cons, List.flatMap_cons, List.append_assoc, List.append_assoc] at h
      have hp' : ∀ key, .key key ∈ p → PlainKey key.toList := fun key hkey =>
        hp key (List.mem_cons_of_mem s hkey)
      have hq' : ∀ key, .key key ∈ q → PlainKey key.toList := fun key hkey =>
        hq key (List.mem_cons_of_mem t hkey)
      cases s with
      | key k =>
        cases t with
        | key l =>
          have hkey := hp k List.mem_cons_self
          have hkey' := hq l List.mem_cons_self
          obtain ⟨hkl, htail⟩ := append_tail_inj hkey hkey' (tail_flatMap p d) (tail_flatMap q e)
            (List.cons.inj h).2
          obtain rfl := String.toList_inj.1 hkl
          obtain ⟨rfl, hmark⟩ := ih hp' hq' htail
          exact ⟨rfl, hmark⟩
        | item j => exact absurd (List.cons.inj h).1 (by decide)
      | item i =>
        cases t with
        | key l => exact absurd (List.cons.inj h).1 (by decide)
        | item j =>
          obtain ⟨rfl, htail⟩ := chars_item_inj h
          obtain ⟨rfl, hmark⟩ := ih hp' hq' htail
          exact ⟨rfl, hmark⟩

/-- Steps are put behind a text that is not empty. -/
theorem toList_foldl_extend {text : String} (h : text ≠ "") (place : List Step) :
    (place.foldl Step.extend text).toList = text.toList ++ place.flatMap Step.chars := by
  induction place generalizing text with
  | nil => simp
  | cons step place ih =>
    have hstep : (step.extend text).toList = text.toList ++ step.chars := by
      cases step with
      | key k => simp [Step.extend, Step.chars, h]
      | item i => simp [Step.extend, Step.chars]
    have hne : step.extend text ≠ "" := by
      intro hempty
      rw [hempty] at hstep
      exact h (String.toList_inj.1 (List.append_eq_nil_iff.1 hstep.symm).1)
    rw [List.foldl_cons, ih hne, hstep, List.flatMap_cons, List.append_assoc]

theorem toList_placeText_key {k : String} (h : k ≠ "") (place : List Step) :
    (placeText (.key k :: place)).toList = k.toList ++ place.flatMap Step.chars :=
  toList_foldl_extend h place

theorem toList_placeText_item (i : Nat) (place : List Step) :
    (placeText (.item i :: place)).toList = (Step.item i :: place).flatMap Step.chars := by
  have hitem : (Step.extend "" (.item i)).toList = (Step.item i).chars := by
    simp [Step.extend, Step.chars]
  have hne : Step.extend "" (.item i) ≠ "" := by
    intro hempty
    rw [hempty] at hitem
    exact absurd hitem.symm (List.cons_ne_nil _ _)
  rw [placeText, List.foldl_cons, toList_foldl_extend hne, hitem, List.flatMap_cons]

/-- The place of a key and the steps behind it; without the empty key. -/
def placeFrom (key : String) (rest : List Step) : List Step :=
  if key = "" then rest else .key key :: rest

/-- A plain place behind the root has a text, which is that of a key and of the steps behind it.
The key is empty if the place begins with a position. -/
theorem PlainPlace.exists_lead {place : List Step} (h : PlainPlace place) (hne : place ≠ []) :
    ∃ (key : String) (rest : List Step), place = placeFrom key rest ∧ PlainKey key.toList ∧
      (∀ k, .key k ∈ rest → PlainKey k.toList) ∧
      (placeText place).toList = key.toList ++ rest.flatMap Step.chars ∧ placeText place ≠ "" := by
  obtain ⟨step, rest, rfl⟩ := List.exists_cons_of_ne_nil hne
  cases step with
  | key k =>
    have hk : k ≠ "" := fun hempty => h.first (by rw [hempty, List.head?_cons])
    have htext := toList_placeText_key hk rest
    refine ⟨k, rest, (if_neg hk).symm, h.keys k List.mem_cons_self, fun l hl => ?_, htext, ?_⟩
    · exact h.keys l (List.mem_cons_of_mem _ hl)
    · intro hempty
      rw [hempty] at htext
      exact hk (String.toList_inj.1 (List.append_eq_nil_iff.1 htext.symm).1)
  | item i =>
    have htext := toList_placeText_item i rest
    refine ⟨"", .item i :: rest, rfl, plainKey_nil, h.keys, htext, fun hempty => ?_⟩
    rw [hempty] at htext
    exact absurd htext.symm (List.cons_ne_nil _ _)

/-- The wording of a disagreement at a place with a text. -/
theorem toList_text {d : Disagreement} (h : placeText d.place ≠ "") :
    d.text.toList = (placeText d.place).toList ++ d.difference.mark := by
  rcases d with ⟨place, difference⟩
  cases difference with
  | changed =>
    have htext : (Disagreement.mk place .changed).text = placeText place := if_neg h
    rw [htext]
    exact (List.append_nil _).symm
  | missing => exact String.toList_append
  | extra => exact String.toList_append

/-- **Plain places are settled by their texts.** -/
theorem text_inj {d e : Disagreement} (hd : PlainPlace d.place) (he : PlainPlace e.place)
    (hdne : d.place ≠ []) (hene : e.place ≠ []) (h : d.text = e.text) : d = e := by
  obtain ⟨k, p, hplace, hk, hp, htext, hnonempty⟩ := hd.exists_lead hdne
  obtain ⟨l, q, hplace', hl, hq, htext', hnonempty'⟩ := he.exists_lead hene
  have hchars : k.toList ++ (p.flatMap Step.chars ++ d.difference.mark) =
      l.toList ++ (q.flatMap Step.chars ++ e.difference.mark) := by
    rw [← List.append_assoc, ← List.append_assoc, ← htext, ← htext', ← toList_text hnonempty,
      ← toList_text hnonempty', h]
  obtain ⟨hkey, hrest⟩ := append_tail_inj hk hl (tail_flatMap p _) (tail_flatMap q _) hchars
  obtain ⟨rfl, hdifference⟩ := flatMap_chars_inj hp hq hrest
  obtain rfl := String.toList_inj.1 hkey
  have hsame : d.place = e.place := hplace.trans hplace'.symm
  cases d
  cases e
  cases hsame
  cases hdifference
  rfl

/-! ### Documents -/

mutual

/-- The keys of a document, at every depth. -/
def Json.Value.allKeys (v : Value) : List String :=
  match v with
  | .array items => keysOfItems items
  | .object fields => keysOfFields fields
  | _ => []
termination_by structural v

/-- The keys in the items of an array. -/
def Json.keysOfItems (items : List Value) : List String :=
  match items with
  | [] => []
  | v :: rest => v.allKeys ++ keysOfItems rest
termination_by structural items

/-- The keys of fields and in their values. -/
def Json.keysOfFields (fields : List (String × Value)) : List String :=
  match fields with
  | [] => []
  | (key, v) :: rest => key :: (v.allKeys ++ keysOfFields rest)
termination_by structural fields

end

theorem mem_keysOfItems {items : List Value} {v : Value} (hv : v ∈ items) {key : String}
    (h : key ∈ v.allKeys) : key ∈ keysOfItems items := by
  induction items with
  | nil => cases hv
  | cons w rest ih =>
    rw [keysOfItems, List.mem_append]
    rcases List.mem_cons.1 hv with rfl | hrest
    · exact .inl h
    · exact .inr (ih hrest)

theorem mem_keysOfFields {fields : Fields} {entry : String × Value} (he : entry ∈ fields)
    {key : String} (h : key = entry.1 ∨ key ∈ entry.2.allKeys) : key ∈ keysOfFields fields := by
  induction fields with
  | nil => cases he
  | cons other rest ih =>
    rcases other with ⟨k, w⟩
    rw [keysOfFields, List.mem_cons, List.mem_append]
    rcases List.mem_cons.1 he with rfl | hrest
    · exact h.imp_right .inl
    · exact .inr (.inr (ih hrest))

theorem mem_keysOfFields_of_mem_keys {fields : Fields} {key : String}
    (h : key ∈ Keyed.keys fields) : key ∈ keysOfFields fields := by
  obtain ⟨entry, hentry, rfl⟩ := List.mem_map.1 h
  exact mem_keysOfFields hentry (.inl rfl)

/-- **The keys of a place of disagreement** are keys of the documents. -/
theorem mem_allKeys_of_disagreesAt {tolerance : Double} {v w : Value} {place : List Step}
    {difference : Difference} (h : DisagreesAt tolerance v w place difference) {key : String}
    (hkey : .key key ∈ place) : key ∈ v.allKeys ∨ key ∈ w.allKeys := by
  induction h with
  | changed => cases hkey
  | missing hf _ =>
    obtain rfl := Step.key.inj (List.mem_singleton.1 hkey)
    exact .inl (mem_keysOfFields_of_mem_keys hf)
  | extra _ hg =>
    obtain rfl := Step.key.inj (List.mem_singleton.1 hkey)
    exact .inr (mem_keysOfFields_of_mem_keys hg)
  | field hf hg _ ih =>
    rcases List.mem_cons.1 hkey with heq | hmem
    · exact .inl (mem_keysOfFields (Keyed.mem_of_get? hf) (.inl (Step.key.inj heq)))
    · exact (ih hmem).imp (fun hv => mem_keysOfFields (Keyed.mem_of_get? hf) (.inr hv))
        fun hw => mem_keysOfFields (Keyed.mem_of_get? hg) (.inr hw)
  | item _ hx hy _ ih =>
    have hmem := (List.mem_cons.1 hkey).resolve_left nofun
    exact (ih hmem).imp (mem_keysOfItems (List.mem_of_getElem? hx))
      (mem_keysOfItems (List.mem_of_getElem? hy))

/-- A place of disagreement begins with the empty key only if an object has it at the root. -/
theorem mem_keys_of_disagreesAt {tolerance : Double} {v w : Value} {place : List Step}
    {difference : Difference} (h : DisagreesAt tolerance v w place difference) {key : String}
    (hkey : place.head? = some (.key key)) :
    key ∈ Keyed.keys (fieldsOf v) ∨ key ∈ Keyed.keys (fieldsOf w) := by
  cases h with
  | changed => cases hkey
  | missing hf _ =>
    obtain rfl := Step.key.inj (Option.some.inj hkey)
    exact .inl hf
  | extra _ hg =>
    obtain rfl := Step.key.inj (Option.some.inj hkey)
    exact .inr hg
  | field hf _ _ =>
    obtain rfl := Step.key.inj (Option.some.inj hkey)
    exact .inl (Keyed.mem_keys_of_get? hf)
  | item => cases hkey

/-- A document with plain keys only, and without the empty key at its root. -/
structure PlainDocument (v : Value) : Prop where
  keys : ∀ key ∈ v.allKeys, PlainKey key.toList
  root : "" ∉ Keyed.keys (fieldsOf v)

theorem plainPlace_of_disagreesAt {tolerance : Double} {v w : Value} (hv : PlainDocument v)
    (hw : PlainDocument w) {place : List Step} {difference : Difference}
    (h : DisagreesAt tolerance v w place difference) : PlainPlace place := by
  refine ⟨fun key hkey => ?_, fun hfirst => ?_⟩
  · exact (mem_allKeys_of_disagreesAt h hkey).elim (hv.keys key) (hw.keys key)
  · exact (mem_keys_of_disagreesAt h hfirst).elim hv.root hw.root

/-! ### Comparisons -/

/-- Values that disagree as a whole disagree in nothing else. -/
theorem eq_of_place_nil {tolerance : Double} {v w : Value} {d e : Disagreement}
    (hd : DisagreesAt tolerance v w d.place d.difference)
    (he : DisagreesAt tolerance v w e.place e.difference) (hroot : d.place = []) : d = e := by
  rcases d with ⟨place, difference⟩
  rcases e with ⟨place', difference'⟩
  obtain rfl : place = [] := hroot
  cases hd with
  | changed hparts _ =>
    obtain ⟨-, rfl, rfl⟩ := (disagreesAt_leaf_iff hparts).1 he
    rfl

/-- **Reported texts.**  The places that a comparison of ordered documents reports are different
from each other.  So are the texts of any two of them that are plain; and if the documents have
plain keys only, without the empty key at the root, then no text is reported twice.  A key is plain
if there is no dot in it and no position in brackets, and no mark at its end. -/
theorem compareValues_texts_distinct (options : DiffOptions) (ansi : Bool) {expected actual : Value}
    (hexpected : expected.Ordered) (hactual : actual.Ordered) :
    ((compareValues options ansi expected actual).differences.map Disagreement.place).Nodup ∧
      (∀ d ∈ (compareValues options ansi expected actual).differences,
        ∀ e ∈ (compareValues options ansi expected actual).differences,
          PlainPlace d.place → PlainPlace e.place → d.text = e.text → d = e) ∧
      (PlainDocument expected → PlainDocument actual →
        ((compareValues options ansi expected actual).differences.map
          Disagreement.text).Nodup) := by
  have hplaces : ((compareValues options ansi expected actual).differences.map
      Disagreement.place).Nodup := by
    rw [compareValues_differences]
    refine List.pairwise_map.2 ((pairwise_below hexpected hactual).imp ?_)
    intro d e hbefore hsame
    unfold Disagreement.Before at hbefore
    rw [hsame] at hbefore
    exact Disagreement.Before.irrefl e hbefore
  have htexts : ∀ d ∈ (compareValues options ansi expected actual).differences,
      ∀ e ∈ (compareValues options ansi expected actual).differences,
        PlainPlace d.place → PlainPlace e.place → d.text = e.text → d = e := by
    intro d hd e he hplain hplain' htext
    rw [mem_differences_iff hexpected hactual] at hd he
    by_cases hroot : d.place = []
    · exact eq_of_place_nil hd he hroot
    · by_cases hroot' : e.place = []
      · exact (eq_of_place_nil he hd hroot').symm
      · exact text_inj hplain hplain' hroot hroot' htext
  refine ⟨hplaces, htexts, fun hplain hplain' => ?_⟩
  have hall : ∀ d ∈ (compareValues options ansi expected actual).differences,
      PlainPlace d.place := fun d hd =>
    plainPlace_of_disagreesAt hplain hplain' ((mem_differences_iff hexpected hactual).1 hd)
  refine List.Nodup.map_on (fun d hd e he => htexts d hd e he (hall d hd) (hall e he)) ?_
  exact List.Nodup.of_map _ hplaces

/-- A document with a list of one value, and with other fields behind it. -/
def listed (v : Value) (others : Fields) : Value := .object (("list", .array [v]) :: others)

/-- A position and a missing key, in documents with plain keys. -/
theorem compareValues_texts_distinct_listed :
    let expected := listed .null [("old", .null)]
    let actual := listed (.bool true) []
    let c := compareValues .standard false expected actual
    let item : Disagreement := ⟨[.key "list", .item 0], .changed⟩
    let old : Disagreement := ⟨[.key "old"], .missing⟩
    expected.Ordered ∧ actual.Ordered ∧ PlainDocument expected ∧ PlainDocument actual ∧
      (c.differences.map Disagreement.text).Nodup ∧ item ∈ c.differences ∧ old ∈ c.differences ∧
      PlainPlace item.place ∧ PlainPlace old.place ∧ item.text ≠ old.text := by
  intro expected actual c item old
  have hexpected : expected.Ordered := Value.ordered_of_isOrdered _ (by decide)
  have hactual : actual.Ordered := Value.ordered_of_isOrdered _ (by decide)
  have hkeys : ∀ key ∈ ["list", "old"], PlainKey key.toList := by
    intro key hkey
    have hchars : ∀ key ∈ ["list", "old"], '.' ∉ key.toList ∧ '[' ∉ key.toList ∧
        ' ' ∉ key.toList := by decide
    obtain ⟨hdot, hbracket, hblank⟩ := hchars key hkey
    exact plainKey_of_not_mem hdot hbracket hblank
  have hplain : PlainDocument expected := ⟨hkeys, by decide⟩
  have hplain' : PlainDocument actual :=
    ⟨fun key hkey => hkeys key (List.mem_of_mem_take (i := 1) hkey), by decide⟩
  have hitem : DisagreesAt DiffOptions.standard.tolerance expected actual item.place .changed :=
    .field rfl rfl (.item rfl rfl rfl (.changed id nofun))
  have hold : DisagreesAt DiffOptions.standard.tolerance expected actual old.place .missing :=
    .missing (by decide) (by decide)
  have hitemPlain := plainPlace_of_disagreesAt hplain hplain' hitem
  have holdPlain := plainPlace_of_disagreesAt hplain hplain' hold
  have hitemMem : item ∈ c.differences := (mem_differences_iff hexpected hactual).2 hitem
  have holdMem : old ∈ c.differences := (mem_differences_iff hexpected hactual).2 hold
  obtain ⟨-, htexts, hnodup⟩ := compareValues_texts_distinct .standard false hexpected hactual
  refine ⟨hexpected, hactual, hplain, hplain', hnodup hplain hplain', hitemMem, holdMem, hitemPlain,
    holdPlain, fun hsame => ?_⟩
  exact absurd (htexts item hitemMem old holdMem hitemPlain holdPlain hsame) (by decide)

/-! ### Keys that are not plain -/

/-- The documents are ordered, and two of the places in which they disagree have one text. -/
def Collide (expected actual : Value) : Prop :=
  expected.Ordered ∧ actual.Ordered ∧
    ¬ ((compareValues .standard false expected actual).differences.map Disagreement.text).Nodup

theorem collide_of_text_eq {expected actual : Value} (hexpected : expected.isOrdered = true)
    (hactual : actual.isOrdered = true) {d e : Disagreement}
    (hd : DisagreesAt DiffOptions.standard.tolerance expected actual d.place d.difference)
    (he : DisagreesAt DiffOptions.standard.tolerance expected actual e.place e.difference)
    (hne : d ≠ e) (htext : d.text = e.text) : Collide expected actual := by
  have hordered := Value.ordered_of_isOrdered expected hexpected
  have hordered' := Value.ordered_of_isOrdered actual hactual
  refine ⟨hordered, hordered', fun hnodup => hne ?_⟩
  exact List.inj_on_of_nodup_map hnodup ((mem_differences_iff hordered hordered').2 hd)
    ((mem_differences_iff hordered hordered').2 he) htext

/-- A value in a field of a field, and under one key with a dot. -/
def dottedKey (v : Value) : Value := .object [("a", .object [("b", v)]), ("a.b", v)]

/-- A value in a list, and under one key with a position in brackets. -/
def bracketedKey (v : Value) : Value := .object [("a", .array [v]), ("a[0]", v)]

/-- A value in a field of a field under the empty key, and in a field. -/
def unnamedKey (v : Value) : Value := .object [("", .object [("a", v)]), ("a", v)]

/-- A value under a key with a mark at its end, and further fields in front. -/
def markedKey (others : Fields) (v : Value) : Value :=
  .object (others ++ [("a (missing in actual)", v)])

/-- **Texts that are reported twice.**  A dot in a key, a position in brackets, a mark at the end
and the empty key at the beginning each make the texts of two places equal. -/
theorem compareValues_texts_collide :
    Collide (dottedKey .null) (dottedKey (.bool true)) ∧
      Collide (bracketedKey .null) (bracketedKey (.bool true)) ∧
      Collide (markedKey [("a", .null)] .null) (markedKey [] (.bool true)) ∧
      Collide (unnamedKey .null) (unnamedKey (.bool true)) := by
  have hleaf : DisagreesAt DiffOptions.standard.tolerance .null (.bool true) [] .changed :=
    .changed id nofun
  refine ⟨?_, ?_, ?_, ?_⟩
  · exact collide_of_text_eq (d := ⟨[.key "a", .key "b"], .changed⟩)
      (e := ⟨[.key "a.b"], .changed⟩) (by decide) (by decide)
      (.field rfl rfl (.field rfl rfl hleaf)) (.field rfl rfl hleaf) (by decide) (by decide)
  · exact collide_of_text_eq (d := ⟨[.key "a", .item 0], .changed⟩)
      (e := ⟨[.key "a[0]"], .changed⟩) (by decide) (by decide)
      (.field rfl rfl (.item rfl rfl rfl hleaf)) (.field rfl rfl hleaf) (by decide) (by decide)
  · exact collide_of_text_eq (d := ⟨[.key "a"], .missing⟩)
      (e := ⟨[.key "a (missing in actual)"], .changed⟩) (by decide) (by decide)
      (.missing (by decide) (by decide)) (.field rfl rfl hleaf) (by decide) (by decide)
  · exact collide_of_text_eq (d := ⟨[.key "", .key "a"], .changed⟩)
      (e := ⟨[.key "a"], .changed⟩) (by decide) (by decide)
      (.field rfl rfl (.field rfl rfl hleaf)) (.field rfl rfl hleaf) (by decide) (by decide)

end Reshape
