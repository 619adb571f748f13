/-!
# Blank space

The characters with the property `White_Space`, and texts without blanks at their ends.

* **`Text.isBlank`** — the property, a superset of the blanks of ASCII.
* **`Text.trim`** — a text without its leading and trailing blanks.
-/

namespace Reshape

namespace Text

/-- The property `White_Space` of the Unicode character database. -/
def isBlank (c : Char) : Bool :=
  let n := c.toNat
  (9 ≤ n && n ≤ 13) || n == 0x20 || n == 0x85 || n == 0xA0 || n == 0x1680 ||
  (0x2000 ≤ n && n ≤ 0x200A) || n == 0x2028 || n == 0x2029 || n == 0x202F || n == 0x205F ||
  n == 0x3000

/-- A list without its leading and trailing blanks. -/
def trimList (cs : List Char) : List Char :=
  ((cs.dropWhile isBlank).reverse.dropWhile isBlank).reverse

/-- A text without its leading and trailing blanks. -/
def trim (s : String) : String := String.ofList (trimList s.toList)

/-- A list whose ends are no blanks is left as it is. -/
theorem trimList_eq_self {cs : List Char} (hfirst : ∀ c, cs.head? = some c → isBlank c = false)
    (hlast : ∀ c, cs.getLast? = some c → isBlank c = false) : trimList cs = cs := by
  have hdrop : ∀ ds : List Char, (∀ c, ds.head? = some c → isBlank c = false) →
      ds.dropWhile isBlank = ds := by
    intro ds h
    cases ds with
    | nil => rfl
    | cons d ds => simp [h d rfl]
  have hrev : ∀ c, cs.reverse.head? = some c → isBlank c = false := by
    intro c hc
    exact hlast c (by simpa using hc)
  simp [trimList, hdrop cs hfirst, hdrop cs.reverse hrev]

end Text

end Reshape
