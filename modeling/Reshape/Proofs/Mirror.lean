import Mathlib.Data.List.Perm.Basic
import Reshape.Proofs.Context
import Reshape.Proofs.Disagreements

/-!
# Comparisons the other way round

Exchanging the two documents of a comparison exchanges what is missing with what is extra and
changes nothing else:

* **`Difference.mirror`**, **`Disagreement.mirror`** — a disagreement seen from the other side;
* **`MirroredText`** — how the wordings of one path from both sides belong together;
* **`Comparison.Mirrors`** — comparisons that report the same from both sides.

Documents agree or not whichever of them is the expected one (**`agree_comm`**), and the lists of
their disagreements are mirrored item by item (**`below_comm`**).  The main statement is
**`compareValues_mirrors`**.
-/

namespace Reshape

open Json

/-! ### Disagreements from the other side -/

/-- The difference of two documents, seen from the other side. -/
def Difference.mirror : Difference → Difference
  | .changed => .changed
  | .missing => .extra
  | .extra => .missing

/-- The disagreement at the same place, seen from the other side. -/
def Disagreement.mirror (d : Disagreement) : Disagreement := ⟨d.place, d.difference.mirror⟩

@[simp] theorem Difference.mirror_mirror (difference : Difference) :
    difference.mirror.mirror = difference := by
  cases difference <;> rfl

@[simp] theorem Disagreement.mirror_place (d : Disagreement) : d.mirror.place = d.place := rfl

@[simp] theorem Disagreement.mirror_mirror (d : Disagreement) : d.mirror.mirror = d := by
  simp [Disagreement.mirror]

/-- The texts that stand for one path in the reports of both sides: the path itself where both
documents have it, and the path with one mark or the other where only one document has it. -/
inductive MirroredText : String → String → Prop
  | changed (path : String) : MirroredText path path
  | missing (path : String) :
      MirroredText (path ++ " (missing in actual)") (path ++ " (extra in actual)")
  | extra (path : String) :
      MirroredText (path ++ " (extra in actual)") (path ++ " (missing in actual)")

theorem mirroredText_mirror (d : Disagreement) : MirroredText d.text d.mirror.text := by
  rcases d with ⟨place, difference⟩
  cases difference with
  | changed => exact .changed _
  | missing => exact .missing (placeText place)
  | extra => exact .extra (placeText place)

/-! ### Agreement -/

theorem TakenApart.symm {v w : Value} (h : TakenApart v w) : TakenApart w v := by
  cases v with
  | array xs =>
    cases w with
    | array ys => exact Eq.symm h
    | _ => exact absurd h id
  | object fs =>
    cases w with
    | object gs => exact trivial
    | _ => exact absurd h id
  | _ => exact absurd h id

section

variable {tolerance : Double}

theorem SameLeaf.symm {v w : Value} (h : SameLeaf tolerance v w) : SameLeaf tolerance w v := by
  cases v with
  | number m =>
    cases w with
    | number n =>
      show Double.within tolerance n.toDouble m.toDouble = true
      rw [Double.within_comm]
      exact h
    | _ => exact Eq.symm h
  | _ =>
    cases w with
    | number n => cases h
    | _ => exact Eq.symm h

/-- **What disagrees from the one side disagrees from the other.** -/
theorem DisagreesAt.mirror {v w : Value} {place : List Step} {difference : Difference}
    (h : DisagreesAt tolerance v w place difference) :
    DisagreesAt tolerance w v place difference.mirror := by
  induction h with
  | changed hparts hleaf =>
    exact .changed (fun hother => hparts hother.symm) fun hother => hleaf hother.symm
  | missing hf hg => exact .extra hg hf
  | extra hf hg => exact .missing hg hf
  | field hf hg _ ih => exact .field hg hf ih
  | item hlen hx hy _ ih => exact .item hlen.symm hy hx ih

theorem Found.mirror {place : List Step} {v w : Value} {d : Disagreement}
    (h : Found tolerance place v w d) : Found tolerance place w v d.mirror := by
  obtain ⟨rest, hplace, hd⟩ := h
  exact ⟨rest, hplace, hd.mirror⟩

/-- **Agreement is symmetric.** -/
theorem agree_comm {v w : Value} (hv : v.Ordered) (hw : w.Ordered) :
    agree tolerance v w = agree tolerance w v := by
  rw [Bool.eq_iff_iff, agree_iff_forall_not_disagreesAt hv hw,
    agree_iff_forall_not_disagreesAt hw hv]
  constructor
  · exact fun h place difference hd => h place _ hd.mirror
  · exact fun h place difference hd => h place _ hd.mirror

/-! ### Lists of disagreements -/

theorem Disagreement.Before.asymm {d e : Disagreement} (h : d.Before e) : ¬ e.Before d := by
  refine List.lex_asymm (fun {s t} hst hts => ?_) h
  cases hst with
  | key hlt =>
    cases hts with
    | key hgt => exact String.lt_asymm hlt hgt
  | item hlt =>
    cases hts with
    | item hgt => exact Nat.lt_asymm hlt hgt

/-- In the order of the documents, a list of disagreements is settled by what is in it. -/
theorem eq_of_pairwise_before {ds es : List Disagreement} (hds : ds.Pairwise Disagreement.Before)
    (hes : es.Pairwise Disagreement.Before) (h : ∀ d, d ∈ ds ↔ d ∈ es) : ds = es := by
  have hnodup : ∀ {l : List Disagreement}, l.Pairwise Disagreement.Before → l.Nodup := by
    intro l hl
    refine hl.imp ?_
    rintro d e hbefore rfl
    exact Disagreement.Before.irrefl d hbefore
  have hperm : ds.Perm es := (List.perm_ext_iff_of_nodup (hnodup hds) (hnodup hes)).2 h
  exact hperm.eq_of_pairwise (fun d e _ _ hde hed => absurd hed hde.asymm) hds hes

/-- **The list from the other side** is the same list, mirrored. -/
theorem below_comm {place : List Step} {v w : Value} (hv : v.Ordered) (hw : w.Ordered) :
    below tolerance place w v = (below tolerance place v w).map Disagreement.mirror := by
  -- Mirroring moves nothing, and what is in the two lists is known.
  refine eq_of_pairwise_before (pairwise_below hw hv) (List.pairwise_map.2 (pairwise_below hv hw))
    fun d => ?_
  rw [mem_below hw hv, List.mem_map]
  constructor
  · intro hd
    exact ⟨d.mirror, (mem_below hv hw).2 hd.mirror, d.mirror_mirror⟩
  · rintro ⟨e, he, rfl⟩
    exact ((mem_below hv hw).1 he).mirror

end

/-! ### Comparisons -/

/-- The comparisons report the same from both sides: they agree on the match, their disagreements
are mirrored item by item, and so are the texts of these. -/
structure Comparison.Mirrors (c d : Comparison) : Prop where
  agrees : d.agrees = c.agrees
  differences : d.differences = c.differences.map Disagreement.mirror
  worded : List.Forall₂ MirroredText (c.differences.map Disagreement.text)
    (d.differences.map Disagreement.text)

/-- **Comparisons are symmetric.**  If the tolerance is not negative, then every document agrees
with itself; and for any two documents, comparing them the other way round gives the same match and
the mirrored list of disagreements. -/
theorem compareValues_mirrors (options : DiffOptions) (ansi : Bool) :
    (0 ≤ options.tolerance.value →
      ∀ v : Value, v.Ordered → (compareValues options ansi v v).agrees = true) ∧
      ∀ expected actual : Value, expected.Ordered → actual.Ordered →
        (compareValues options ansi expected actual).Mirrors
          (compareValues options ansi actual expected) := by
  refine ⟨fun htolerance v hv => ?_, fun expected actual hexpected hactual => ?_⟩
  · rw [compareValues_agrees]
    exact agree_self htolerance hv
  · have hdifferences : (compareValues options ansi actual expected).differences =
        (compareValues options ansi expected actual).differences.map Disagreement.mirror := by
      rw [compareValues_differences, compareValues_differences, below_comm hexpected hactual]
    refine ⟨?_, hdifferences, ?_⟩
    · rw [compareValues_agrees, compareValues_agrees, agree_comm hactual hexpected]
    · rw [hdifferences, List.map_map]
      exact List.forall₂_map_left_iff.2 (List.forall₂_map_right_iff.2
        (List.forall₂_same.2 fun d _ => mirroredText_mirror d))

/-- What is missing from one side is extra from the other. -/
theorem compareValues_mirrors_shelf :
    0 ≤ DiffOptions.standard.tolerance.value ∧ expectedShelf.Ordered ∧ actualShelf.Ordered ∧
      (compareValues .standard false expectedShelf expectedShelf).agrees = true ∧
      (compareValues .standard false expectedShelf actualShelf).Mirrors
        (compareValues .standard false actualShelf expectedShelf) ∧
      ⟨[.key "gone"], .missing⟩ ∈
        (compareValues .standard false expectedShelf actualShelf).differences ∧
      ⟨[.key "gone"], .extra⟩ ∈
        (compareValues .standard false actualShelf expectedShelf).differences := by
  have htolerance : 0 ≤ DiffOptions.standard.tolerance.value := by decide +kernel
  have hexpected : expectedShelf.Ordered := Value.ordered_of_isOrdered _ (by decide)
  have hactual : actualShelf.Ordered := Value.ordered_of_isOrdered _ (by decide)
  obtain ⟨hself, hpair⟩ := compareValues_mirrors .standard false
  have hmirrors := hpair expectedShelf actualShelf hexpected hactual
  have hgone : ⟨[.key "gone"], .missing⟩ ∈
      (compareValues .standard false expectedShelf actualShelf).differences :=
    (mem_differences_iff hexpected hactual).2 (.missing (by decide) (by decide))
  refine ⟨htolerance, hexpected, hactual, hself htolerance expectedShelf hexpected, hmirrors,
    hgone, ?_⟩
  rw [hmirrors.differences]
  exact List.mem_map.2 ⟨_, hgone, rfl⟩

end Reshape
