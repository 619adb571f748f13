/-!
# Pieces of a text

A text is cut at every occurrence of a separator, and pieces are put together with the separator
between any two.

* **`Text.pieces`** — the pieces of a text.
* **`Text.joined`** — pieces put together.

The main statements are **`joined_pieces`** and **`pieces_joined`**: the two undo each other, the
latter on pieces without a separator of their own.
-/

namespace Reshape

namespace Text

/-- The pieces of a text between its separators. -/
def pieces (sep : Char) : List Char → List (List Char)
  | [] => [[]]
  | c :: cs =>
    if c = sep then [] :: pieces sep cs
    else match pieces sep cs with
      | [] => [[c]]
      | piece :: rest => (c :: piece) :: rest

/-- Pieces put together with a separator between any two. -/
def joined (sep : Char) : List (List Char) → List Char
  | [] => []
  | [piece] => piece
  | piece :: rest => piece ++ sep :: joined sep rest

theorem pieces_ne_nil (sep : Char) (cs : List Char) : pieces sep cs ≠ [] := by
  cases cs with
  | nil => simp [pieces]
  | cons c cs =>
    by_cases h : c = sep
    · simp [pieces, h]
    · simp only [pieces, h, if_false]
      split <;> simp

/-- A character in front goes to the first piece. -/
theorem joined_cons (sep c : Char) {ps : List (List Char)} (h : ps ≠ []) :
    joined sep ((c :: ps.headD []) :: ps.tail) = c :: joined sep ps := by
  match ps, h with
  | [piece], _ => rfl
  | piece :: next :: rest, _ => rfl

/-- **Nothing is lost in cutting.**  The pieces of a text make up the text. -/
theorem joined_pieces (sep : Char) (cs : List Char) : joined sep (pieces sep cs) = cs := by
  induction cs with
  | nil => rfl
  | cons c cs ih =>
    have hne := pieces_ne_nil sep cs
    by_cases h : c = sep
    · subst h
      match hs : pieces c cs, hne with
      | piece :: rest, _ =>
        rw [hs] at ih
        simp [pieces, hs, joined, ih]
    · match hs : pieces sep cs, hne with
      | piece :: rest, _ =>
        rw [hs] at ih
        have := joined_cons sep c (show piece :: rest ≠ [] by simp)
        simpa [pieces, h, hs, ih] using this

/-- A piece without a separator of its own is cut off whole. -/
theorem pieces_append {sep : Char} {piece : List Char} (h : sep ∉ piece) (cs : List Char) :
    pieces sep (piece ++ sep :: cs) = piece :: pieces sep cs := by
  induction piece with
  | nil => simp [pieces]
  | cons c rest ih =>
    have hc : c ≠ sep := fun e => h (by simp [e])
    have hrest : sep ∉ rest := fun e => h (by simp [e])
    simp [pieces, hc, ih hrest]

theorem pieces_of_not_mem {sep : Char} {cs : List Char} (h : sep ∉ cs) : pieces sep cs = [cs] := by
  induction cs with
  | nil => rfl
  | cons c rest ih =>
    have hc : c ≠ sep := fun e => h (by simp [e])
    have hrest : sep ∉ rest := fun e => h (by simp [e])
    simp [pieces, hc, ih hrest]

/-- **Pieces survive.**  Pieces without separators are what their text is cut into. -/
theorem pieces_joined {sep : Char} {ps : List (List Char)} (hne : ps ≠ [])
    (h : ∀ piece ∈ ps, sep ∉ piece) : pieces sep (joined sep ps) = ps := by
  induction ps with
  | nil => exact absurd rfl hne
  | cons piece rest ih =>
    have hp : sep ∉ piece := h piece (by simp)
    match rest, ih, h with
    | [], _, _ => simpa [joined] using pieces_of_not_mem hp
    | next :: more, ih, h =>
      have := ih (by simp) fun q hq => h q (by simp [List.mem_cons.1 hq])
      simp [joined, pieces_append hp, this]

end Text

end Reshape
