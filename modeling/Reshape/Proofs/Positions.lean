import Reshape.Proofs.Numeral
import Reshape.Proofs.Path

/-!
# Positions in arrays

A path goes on from an array into one of its items, the one at the position that its next segment
stands for.  The segment need not be the numeral of the position:

* **`positionText`** — the numeral of a position;
* **`child?_array_eq_some_iff`** — the item that a segment leads to.

The main statement is **`resolve_through_array`**: a path goes on into the item whose position its
segment spells, with zeros and a plus in front of the digits or without, and of all spellings just
the plain one is the numeral.  A segment that spells no position of the array leads nowhere.
-/

namespace Reshape

open Json

/-- The numeral of a position: its decimal digits. -/
def positionText (i : Nat) : String := String.ofList (Nat.toDigits 10 i)

/-- A segment is the numeral of a position when it spells the position and is plain. -/
theorem eq_positionText_iff {segment : String} {i : Nat} :
    segment = positionText i ↔
      Numeral.Spells i segment.toList ∧ Numeral.Plain segment.toList := by
  rw [Numeral.spells_and_plain_iff]
  constructor
  · rintro rfl
    exact String.toList_ofList
  · intro h
    rw [positionText, ← h, String.ofList_toList]

/-- **The item that a segment leads to** is the one at the position that it spells. -/
theorem child?_array_eq_some_iff {segment : String} {items : List Value} {item : Value} :
    child? segment (.array items) = some item ↔
      ∃ i, Numeral.Spells i segment.toList ∧ i ≤ Numeral.maxPosition ∧ items[i]? = some item := by
  show (Numeral.position? segment.toList).bind (fun i => items[i]?) = some item ↔ _
  rw [Option.bind_eq_some_iff]
  simp only [Numeral.position?_eq_some_iff, and_assoc]

/-- A path that comes to a value goes on from there with its next segment. -/
theorem resolve_of_segments {path : SourcePath} {before behind : List String} {segment : String}
    {document v : Value} (hsegments : path.segments = before ++ segment :: behind)
    (hv : resolveFrom before document = some v) :
    path.resolve document = (child? segment v).bind (resolveFrom behind) := by
  rw [SourcePath.resolve, hsegments, resolveFrom_append, hv]
  rfl

/-- **A path goes through an array by position.**  It finds what it finds from the item at the
position that its segment spells, and nothing if the array has no such item.  The numeral of a
position is the spelling without a plus and without needless zeros, and no segment spells two
positions. -/
theorem resolve_through_array {path : SourcePath} {before behind : List String} {segment : String}
    {document : Value} {items : List Value}
    (hsegments : path.segments = before ++ segment :: behind)
    (harray : resolveFrom before document = some (.array items)) :
    (∀ found, path.resolve document = some found ↔
      ∃ i item, Numeral.Spells i segment.toList ∧ i ≤ Numeral.maxPosition ∧
        items[i]? = some item ∧ resolveFrom behind item = some found) ∧
    (∀ i, segment = positionText i ↔
      Numeral.Spells i segment.toList ∧ Numeral.Plain segment.toList) ∧
    ∀ i j, Numeral.Spells i segment.toList → Numeral.Spells j segment.toList → i = j := by
  refine ⟨fun found => ?_, fun i => eq_positionText_iff, fun i j => Numeral.Spells.unique⟩
  rw [resolve_of_segments hsegments harray, Option.bind_eq_some_iff]
  constructor
  · rintro ⟨item, hitem, hfound⟩
    obtain ⟨i, hspells, hword, hi⟩ := child?_array_eq_some_iff.1 hitem
    exact ⟨i, item, hspells, hword, hi, hfound⟩
  · rintro ⟨i, item, hspells, hword, hi, hfound⟩
    exact ⟨item, child?_array_eq_some_iff.2 ⟨i, hspells, hword, hi⟩, hfound⟩

/-- A document with a list of two named items. -/
def namedItems : Value :=
  .object [("items", .array [.object [("name", .string "first")],
    .object [("name", .string "second")]])]

/-- The second item is entered by its numeral, and by a longer spelling of its position. -/
theorem resolve_through_array_named :
    (pathOf "items.1.name").resolve namedItems = some (.string "second") ∧
      (pathOf "items.+01.name").resolve namedItems = some (.string "second") := by
  have harray : resolveFrom ["items"] namedItems = some (.array _) := rfl
  constructor
  · have hsegments : (pathOf "items.1.name").segments = ["items"] ++ "1" :: ["name"] := rfl
    have hspells : Numeral.Spells 1 "1".toList := .bare 0
    exact ((resolve_through_array hsegments harray).1 _).2 ⟨1, _, hspells, by decide, rfl, rfl⟩
  · have hsegments : (pathOf "items.+01.name").segments = ["items"] ++ "+01" :: ["name"] := rfl
    have hspells : Numeral.Spells 1 "+01".toList := .plus 1
    exact ((resolve_through_array hsegments harray).1 _).2 ⟨1, _, hspells, by decide, rfl, rfl⟩

/-- A path goes on into an item although its segment is the numeral of no position. -/
theorem item_found_behind_zero :
    ∃ path, SourcePath.parse "items.01" = .ok path ∧ path.segments = ["items", "01"] ∧
      path.resolve (.object [("items", .array [.string "first", .string "second"])]) =
        some (.string "second") ∧
      ∀ i, "01" ≠ positionText i := by
  refine ⟨pathOf "items.01", rfl, rfl, rfl, fun i heq => ?_⟩
  have hplain : Numeral.Plain ['0', '1'] := (eq_positionText_iff.1 heq).2
  exact absurd (hplain.2 rfl) (by decide)

end Reshape
