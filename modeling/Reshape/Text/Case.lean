import Reshape.Text.CaseTable

/-!
# Upper and lower case

The full case mappings, independent of any locale.  One character may become several, and a
capital sigma at the end of a word becomes a final sigma.

* **`Text.upper`**, **`Text.lower`** — the mappings of a text.
* **`Text.endsWord`** — the context in which a sigma is final: a cased letter stands before it and
  none after it, characters without case being passed over.
-/

namespace Reshape

namespace Text

/-- The image of a code point under the first run that holds it; other code points stay. -/
def mapRuns (runs : List CaseRun) (n : Nat) : Nat := (runs.findSome? (·.map? n)).getD n

/-- The upper case of a character. -/
def upperChar (c : Char) : List Char :=
  if c.toNat < 128 then [c.toUpper]
  else match upperWords.lookup c.toNat with
    | some word => word.map Char.ofNat
    | none => [Char.ofNat (mapRuns upperRuns c.toNat)]

/-- The lower case of a character outside of any context.  A capital I with a dot keeps its dot. -/
def lowerChar (c : Char) : List Char :=
  if c.toNat < 128 then [c.toLower]
  else if c.toNat = 0x130 then ['i', Char.ofNat 0x307]
  else [Char.ofNat (mapRuns lowerRuns c.toNat)]

/-- Whether the first character that does not pass for a mark is a cased letter. -/
def meetsCased (cs : List Char) : Bool :=
  match cs.dropWhile (fun c => inSpans ignorableSpans c.toNat) with
  | [] => false
  | c :: _ => inSpans casedSpans c.toNat

/-- Whether a letter between `seen`, read backwards, and `rest` is the last one of a word. -/
def endsWord (seen rest : List Char) : Bool := meetsCased seen && !meetsCased rest

/-- The lower case of a list of which `seen` has already been passed. -/
def lowerFrom (seen : List Char) : List Char → List Char
  | [] => []
  | c :: rest =>
    let image :=
      if c.toNat = 0x3A3 then [Char.ofNat (if endsWord seen rest then 0x3C2 else 0x3C3)]
      else lowerChar c
    image ++ lowerFrom (c :: seen) rest

/-- A text in upper case. -/
def upper (s : String) : String := String.ofList (s.toList.flatMap upperChar)

/-- A text in lower case. -/
def lower (s : String) : String := String.ofList (lowerFrom [] s.toList)

theorem upperChar_ascii {c : Char} (h : c.toNat < 128) : upperChar c = [c.toUpper] := by
  simp [upperChar, h]

theorem lowerChar_ascii {c : Char} (h : c.toNat < 128) : lowerChar c = [c.toLower] := by
  simp [lowerChar, h]

/-- On ASCII the context does not matter. -/
theorem lowerFrom_ascii (seen cs : List Char) (h : ∀ c ∈ cs, c.toNat < 128) :
    lowerFrom seen cs = cs.map Char.toLower := by
  induction cs generalizing seen with
  | nil => rfl
  | cons c cs ih =>
    have hc : c.toNat < 128 := h c (by simp)
    have hs : c.toNat ≠ 0x3A3 := by omega
    simp [lowerFrom, hs, lowerChar_ascii hc, ih (c :: seen) fun d hd => h d (by simp [hd])]

end Text

end Reshape
