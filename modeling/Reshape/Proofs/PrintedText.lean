import Mathlib.Data.List.Basic
import Reshape.Json.Printer
import Reshape.Proofs.Numeral

/-!
# Characters of printed documents

Strings are printed with their control characters escaped, so the only control character of an
indented text is the line break, and this is never the last character:

* **`Json.Printable`** — a character that is not a control character;
* **`Json.Breakable`** — a text whose only control characters are line breaks;
* **`Json.BreaksInside`** — one of these that ends in a printable character.

The main statement is **`Json.breaksInside_pretty`**.
-/

namespace Reshape

namespace Json

/-- A character that is not a control character. -/
def Printable (c : Char) : Prop := 32 ≤ c.toNat

/-- A text whose only control characters are line breaks. -/
def Breakable (cs : List Char) : Prop := ∀ c ∈ cs, c = '\n' ∨ Printable c

/-- A text with line breaks for its only control characters and a printable character at its end. -/
structure BreaksInside (cs : List Char) : Prop where
  breakable : Breakable cs
  last : ∃ body c, cs = body ++ [c] ∧ Printable c

instance (c : Char) : Decidable (Printable c) := inferInstanceAs (Decidable (32 ≤ c.toNat))

instance (cs : List Char) : Decidable (Breakable cs) :=
  List.decidableBAll (fun c => c = '\n' ∨ Printable c) cs

/-- A check for texts without control characters. -/
theorem printable_of_all {cs : List Char} (h : (cs.all fun c => decide (Printable c)) = true) :
    ∀ c ∈ cs, Printable c :=
  fun c hc => of_decide_eq_true (List.all_eq_true.1 h c hc)

/-! ### Texts put together -/

theorem Breakable.of_printable {cs : List Char} (h : ∀ c ∈ cs, Printable c) : Breakable cs :=
  fun c hc => .inr (h c hc)

theorem Breakable.append {cs ds : List Char} (hcs : Breakable cs) (hds : Breakable ds) :
    Breakable (cs ++ ds) := fun c hc => (List.mem_append.1 hc).elim (hcs c) (hds c)

theorem Breakable.intercalate {sep : List Char} {parts : List (List Char)} (hsep : Breakable sep)
    (h : ∀ part ∈ parts, Breakable part) : Breakable (sep.intercalate parts) := by
  induction parts with
  | nil => exact List.forall_mem_nil _
  | cons part rest ih =>
    obtain ⟨hpart, hrest⟩ := List.forall_mem_cons.1 h
    cases rest with
    | nil => rwa [List.intercalate_singleton]
    | cons next more =>
      rw [List.intercalate_cons_cons]
      exact (hpart.append hsep).append (ih hrest)

/-- What stands behind a text decides how it ends. -/
theorem BreaksInside.append {cs ds : List Char} (hcs : Breakable cs) (hds : BreaksInside ds) :
    BreaksInside (cs ++ ds) := by
  obtain ⟨body, c, rfl, hc⟩ := hds.last
  exact ⟨hcs.append hds.breakable, cs ++ body, c, (List.append_assoc cs body [c]).symm, hc⟩

/-- Printable characters, of which there is at least one. -/
theorem BreaksInside.of_printable {cs : List Char} (hne : cs ≠ []) (h : ∀ c ∈ cs, Printable c) :
    BreaksInside cs := by
  refine ⟨.of_printable h, cs.dropLast, cs.getLast hne, ?_, h _ (List.getLast_mem hne)⟩
  exact (List.dropLast_concat_getLast hne).symm

/-- A check for printed texts without line breaks. -/
theorem BreaksInside.of_all {cs : List Char} (hne : cs ≠ [])
    (h : (cs.all fun c => decide (Printable c)) = true) : BreaksInside cs :=
  .of_printable hne (printable_of_all h)

/-! ### Numbers -/

theorem printable_of_isDigit {c : Char} (h : c.isDigit = true) : Printable c := by
  have hbounds := Numeral.toNat_of_isDigit h
  unfold Printable
  omega

theorem printable_toDigits {n : Nat} {c : Char} (h : c ∈ Nat.toDigits 10 n) : Printable c :=
  printable_of_isDigit (Numeral.isDigit_of_mem_toDigits h)

theorem printable_pointed {digits : List Char} (h : ∀ c ∈ digits, Printable c) (order : Int) :
    ∀ c ∈ pointed digits order, Printable c := by
  have hzeros : ∀ count, ∀ c ∈ List.replicate count '0', Printable c := fun count c hc =>
    List.eq_of_mem_replicate hc ▸ by decide
  unfold pointed
  by_cases hsmall : order < 0
  · rw [if_pos hsmall]
    refine List.forall_mem_cons.2 ⟨by decide, List.forall_mem_cons.2 ⟨by decide, ?_⟩⟩
    exact List.forall_mem_append.2 ⟨hzeros _, h⟩
  · rw [if_neg hsmall]
    dsimp only
    split
    · refine List.forall_mem_append.2 ⟨List.forall_mem_append.2 ⟨h, hzeros _⟩, ?_⟩
      exact printable_of_all (by decide)
    · refine List.forall_mem_append.2 ⟨fun c hc => h c (List.mem_of_mem_take hc), ?_⟩
      exact List.forall_mem_cons.2 ⟨by decide, fun c hc => h c (List.mem_of_mem_drop hc)⟩

theorem printable_powered {digits : List Char} (h : ∀ c ∈ digits, Printable c) (order : Int) :
    ∀ c ∈ powered digits order, Printable c := by
  have hplaces : ∀ c ∈ if digits.length ≤ 1 then [] else '.' :: digits.drop 1, Printable c := by
    split
    · exact List.forall_mem_nil _
    · exact List.forall_mem_cons.2 ⟨by decide, fun c hc => h c (List.mem_of_mem_drop hc)⟩
  have hsign : Printable (if order < 0 then '-' else '+') := by
    split <;> decide
  unfold powered
  refine List.forall_mem_append.2 ⟨List.forall_mem_append.2 ⟨?_, hplaces⟩, ?_⟩
  · exact fun c hc => h c (List.mem_of_mem_take hc)
  · refine List.forall_mem_cons.2 ⟨by decide, List.forall_mem_cons.2 ⟨hsign, ?_⟩⟩
    exact fun c => printable_toDigits

theorem pointed_ne_nil (digits : List Char) (order : Int) : pointed digits order ≠ [] := by
  unfold pointed
  split
  · exact List.cons_ne_nil _ _
  · dsimp only
    split <;> simp

theorem powered_ne_nil (digits : List Char) (order : Int) : powered digits order ≠ [] := by
  simp [powered]

theorem breaksInside_magnitudeText (steps : Nat) : BreaksInside (magnitudeText steps) := by
  unfold magnitudeText
  split
  · exact .of_all (by decide) (by decide)
  · dsimp only
    split
    · exact .of_printable (pointed_ne_nil _ _) (printable_pointed (fun c => printable_toDigits) _)
    · exact .of_printable (powered_ne_nil _ _) (printable_powered (fun c => printable_toDigits) _)

/-- **The text of a number** has no control characters. -/
theorem breaksInside_number (n : Number) : BreaksInside n.text.toList := by
  have hminus : Breakable ['-'] := by decide
  cases n with
  | int i =>
    have hdigits : BreaksInside (Nat.toDigits 10 i.natAbs) :=
      .of_printable Nat.toDigits_ne_nil fun c => printable_toDigits
    rw [Number.text, integerText, String.toList_ofList]
    split
    · exact hdigits.append hminus
    · exact hdigits
  | float x =>
    rw [Number.text, doubleText, String.toList_ofList]
    split
    · exact (breaksInside_magnitudeText x.steps).append hminus
    · exact breaksInside_magnitudeText x.steps

/-! ### Strings -/

theorem printable_digitChar (n : Nat) : Printable (Nat.digitChar (n % 16)) := by
  have hlt : n % 16 < 16 := Nat.mod_lt n (by decide)
  have hall : ∀ k < 16, Printable (Nat.digitChar k) := by decide
  exact hall _ hlt

/-- **Control characters are escaped.** -/
theorem printable_escaped (c : Char) : ∀ d ∈ escaped c, Printable d := by
  unfold escaped
  -- The seven characters that have an escape of their own.
  iterate 7 (split; · exact printable_of_all (by decide))
  split
  · refine List.forall_mem_cons.2 ⟨by decide, List.forall_mem_cons.2 ⟨by decide, ?_⟩⟩
    unfold fourHex
    simp only [List.forall_mem_cons]
    exact ⟨printable_digitChar _, printable_digitChar _, printable_digitChar _,
      printable_digitChar _, List.forall_mem_nil _⟩
  · rename_i hcontrol
    exact List.forall_mem_singleton.2 (Nat.le_of_not_lt hcontrol)

theorem breaksInside_quoted (s : String) : BreaksInside (quoted s).toList := by
  rw [quoted, String.toList_ofList]
  refine .of_printable (List.cons_ne_nil _ _) ?_
  have hend : ∀ c ∈ ['"'], Printable c := printable_of_all (by decide)
  refine List.forall_mem_append.2 ⟨List.forall_mem_cons.2 ⟨by decide, ?_⟩, hend⟩
  intro d hd
  obtain ⟨c, -, hd⟩ := List.mem_flatMap.1 hd
  exact printable_escaped c d hd

/-! ### Values -/

theorem breakable_indent (depth : Nat) : Breakable (indent depth).toList := by
  rw [indent, String.toList_ofList]
  exact fun c hc => List.eq_of_mem_replicate hc ▸ by decide

/-- A container ends with its closing bracket. -/
theorem breaksInside_block {opening closing : String} (hopening : Breakable opening.toList)
    (hclosing : BreaksInside closing.toList) (depth : Nat) {parts : List String}
    (h : ∀ part ∈ parts, BreaksInside part.toList) :
    BreaksInside (block opening closing depth parts).toList := by
  have hbreak : Breakable "\n".toList := by decide
  have hcomma : Breakable ",\n".toList := by decide
  have hparts : Breakable (",\n".intercalate parts).toList := by
    rw [String.toList_intercalate]
    refine .intercalate hcomma fun part hpart => ?_
    obtain ⟨text, htext, rfl⟩ := List.mem_map.1 hpart
    exact (h text htext).breakable
  unfold block
  split
  · rw [String.toList_append]
    exact hclosing.append hopening
  · simp only [String.toList_append]
    exact hclosing.append ((((hopening.append hbreak).append hparts).append hbreak).append
      (breakable_indent depth))

theorem breaksInside_null : BreaksInside "null".toList := .of_all (by decide) (by decide)

theorem breaksInside_boolText (b : Bool) : BreaksInside (boolText b).toList := by
  cases b
  · exact .of_all (by decide) (by decide)
  · exact .of_all (by decide) (by decide)

mutual

theorem breaksInside_prettyAt (v : Value) (depth : Nat) :
    BreaksInside (v.prettyAt depth).toList := by
  match v with
  | .null => exact breaksInside_null
  | .bool b => exact breaksInside_boolText b
  | .number n => exact breaksInside_number n
  | .string s => exact breaksInside_quoted s
  | .array items =>
    rw [Value.prettyAt]
    exact breaksInside_block (by decide) (.of_all (by decide) (by decide)) depth
      (breaksInside_prettyItems items (depth + 1))
  | .object fields =>
    rw [Value.prettyAt]
    exact breaksInside_block (by decide) (.of_all (by decide) (by decide)) depth
      (breaksInside_prettyFields fields (depth + 1))

theorem breaksInside_prettyItems (items : List Value) (depth : Nat) :
    ∀ part ∈ prettyItems items depth, BreaksInside part.toList := by
  match items with
  | [] => exact List.forall_mem_nil _
  | v :: rest =>
    refine List.forall_mem_cons.2 ⟨?_, breaksInside_prettyItems rest depth⟩
    rw [String.toList_append]
    exact (breaksInside_prettyAt v depth).append (breakable_indent depth)

theorem breaksInside_prettyFields (fields : List (String × Value)) (depth : Nat) :
    ∀ part ∈ prettyFields fields depth, BreaksInside part.toList := by
  match fields with
  | [] => exact List.forall_mem_nil _
  | (key, v) :: rest =>
    refine List.forall_mem_cons.2 ⟨?_, breaksInside_prettyFields rest depth⟩
    have hcolon : Breakable ": ".toList := by decide
    simp only [String.toList_append]
    exact (breaksInside_prettyAt v depth).append
      (((breakable_indent depth).append (breaksInside_quoted key).breakable).append hcolon)

end

/-- **Indented texts** have no control characters besides line breaks, and they end in a printable
character. -/
theorem breaksInside_pretty (v : Value) : BreaksInside v.pretty.toList :=
  breaksInside_prettyAt v 0

end Json

end Reshape
