import Reshape.Path

/-!
# Texts that are paths

* **`IsPath`** — a text that names a place: it is not empty, and none of its segments is;
* **`pathOf`** — the path that a text stands for;
* **`dotted`** — the text of some segments;
* **`SourcePath.extend`** — the path that goes on along further segments.

The main statements are **`SourcePath.parse_ok`** — parsing succeeds on the texts that are paths,
and gives the path that they stand for — and **`parse_dot_resolve`**: two texts with a dot between
them are a path exactly when both are paths, and it leads where the second one leads from the place
of the first one.  **`resolve_extend`** is the same for further segments.
-/

namespace Reshape

/-- A text is a path when it is not empty and none of its segments is. -/
def IsPath (raw : String) : Prop := raw ≠ "" ∧ ∀ segment ∈ segmentsOf raw, segment ≠ ""

/-- The path that a text stands for. -/
def pathOf (raw : String) : SourcePath := ⟨raw, segmentsOf raw⟩

/-- **Parsing succeeds on paths alone.** -/
theorem SourcePath.parse_ok {raw : String} {p : SourcePath} :
    SourcePath.parse raw = .ok p ↔ IsPath raw ∧ p = pathOf raw := by
  unfold SourcePath.parse IsPath
  by_cases hraw : raw = ""
  · simp [hraw]
  · rw [if_neg hraw]
    by_cases hany : (segmentsOf raw).any (· == "") = true
    · rw [if_pos hany]
      obtain ⟨segment, hmem, hsegment⟩ := List.any_eq_true.1 hany
      constructor
      · intro h
        cases h
      · rintro ⟨⟨-, hall⟩, -⟩
        exact absurd (by simpa using hsegment) (hall segment hmem)
    · rw [if_neg hany]
      have hall : ∀ segment ∈ segmentsOf raw, segment ≠ "" := by
        intro segment hmem heq
        exact hany (List.any_eq_true.2 ⟨segment, hmem, by simp [heq]⟩)
      constructor
      · intro h
        cases h
        exact ⟨⟨hraw, hall⟩, rfl⟩
      · rintro ⟨-, rfl⟩
        rfl

/-! ### Segments -/

/-- No piece of a text has a separator. -/
theorem Text.not_mem_of_mem_pieces {sep : Char} {cs piece : List Char}
    (h : piece ∈ Text.pieces sep cs) : sep ∉ piece := by
  induction cs generalizing piece with
  | nil =>
    rw [List.mem_singleton.1 h]
    exact List.not_mem_nil
  | cons c cs ih =>
    by_cases hc : c = sep
    · rw [Text.pieces, if_pos hc] at h
      rcases List.mem_cons.1 h with rfl | hmem
      · exact List.not_mem_nil
      · exact ih hmem
    · rw [Text.pieces, if_neg hc] at h
      cases hs : Text.pieces sep cs with
      | nil => exact absurd hs (Text.pieces_ne_nil sep cs)
      | cons first rest =>
        rw [hs] at h ih
        rcases List.mem_cons.1 h with rfl | hmem
        · intro hsep
          rcases List.mem_cons.1 hsep with heq | hfirst
          · exact hc heq.symm
          · exact ih List.mem_cons_self hfirst
        · exact ih (List.mem_cons_of_mem first hmem)

/-- Texts with a separator between them have the pieces of the one and then those of the other. -/
theorem Text.pieces_append_sep (sep : Char) (cs ds : List Char) :
    Text.pieces sep (cs ++ sep :: ds) = Text.pieces sep cs ++ Text.pieces sep ds := by
  induction cs with
  | nil => simp [Text.pieces]
  | cons c cs ih =>
    by_cases hc : c = sep
    · rw [List.cons_append, Text.pieces, if_pos hc, ih, Text.pieces, if_pos hc]
      rfl
    · rw [List.cons_append, Text.pieces, if_neg hc, ih, Text.pieces, if_neg hc]
      cases hs : Text.pieces sep cs with
      | nil => exact absurd hs (Text.pieces_ne_nil sep cs)
      | cons first rest => rfl

/-- Pieces of two lists are put together with a separator between the two texts. -/
theorem Text.joined_append (sep : Char) {ps qs : List (List Char)} (hps : ps ≠ [])
    (hqs : qs ≠ []) :
    Text.joined sep (ps ++ qs) = Text.joined sep ps ++ sep :: Text.joined sep qs := by
  induction ps with
  | nil => exact absurd rfl hps
  | cons first rest ih =>
    cases rest with
    | nil =>
      cases qs with
      | nil => exact absurd rfl hqs
      | cons next more => rfl
    | cons second rest =>
      have hrest := ih (List.cons_ne_nil second rest)
      simp only [List.cons_append, Text.joined, List.append_assoc] at hrest ⊢
      rw [hrest]

theorem dot_not_mem_segment {raw segment : String} (h : segment ∈ segmentsOf raw) :
    '.' ∉ segment.toList := by
  obtain ⟨piece, hpiece, rfl⟩ := List.mem_map.1 h
  rw [String.toList_ofList]
  exact Text.not_mem_of_mem_pieces hpiece

theorem segmentsOf_ne_nil (raw : String) : segmentsOf raw ≠ [] :=
  fun h => Text.pieces_ne_nil '.' raw.toList (List.map_eq_nil_iff.1 h)

/-- A text without dots is its only segment. -/
theorem segmentsOf_of_dot_not_mem {raw : String} (h : '.' ∉ raw.toList) :
    segmentsOf raw = [raw] := by
  rw [segmentsOf, Text.pieces_of_not_mem h, List.map_singleton, String.ofList_toList]

theorem isPath_of_dot_not_mem {raw : String} (hne : raw ≠ "") (h : '.' ∉ raw.toList) :
    IsPath raw := by
  refine ⟨hne, fun segment hsegment => ?_⟩
  rw [segmentsOf_of_dot_not_mem h] at hsegment
  rw [List.mem_singleton.1 hsegment]
  exact hne

/-- Texts with a dot between them have the segments of both. -/
theorem segmentsOf_append (raw other : String) :
    segmentsOf (raw ++ "." ++ other) = segmentsOf raw ++ segmentsOf other := by
  have hchars : (raw ++ "." ++ other).toList = raw.toList ++ '.' :: other.toList := by
    rw [String.toList_append, String.toList_append, List.append_assoc]
    rfl
  rw [segmentsOf, hchars, Text.pieces_append_sep, List.map_append]
  rfl

/-- The text of some segments, with dots between them. -/
def dotted (segments : List String) : String :=
  String.ofList (Text.joined '.' (segments.map String.toList))

/-- Segments without dots are the segments of their text. -/
theorem segmentsOf_dotted {segments : List String} (hne : segments ≠ [])
    (h : ∀ segment ∈ segments, '.' ∉ segment.toList) : segmentsOf (dotted segments) = segments := by
  have hpieces : Text.pieces '.' (Text.joined '.' (segments.map String.toList)) =
      segments.map String.toList := by
    refine Text.pieces_joined (fun hnil => hne (List.map_eq_nil_iff.1 hnil)) ?_
    rintro piece hpiece
    obtain ⟨segment, hsegment, rfl⟩ := List.mem_map.1 hpiece
    exact h segment hsegment
  rw [segmentsOf, dotted, String.toList_ofList, hpieces, List.map_map]
  simp

/-- **The segments make up the text.** -/
theorem dotted_segmentsOf (raw : String) : dotted (segmentsOf raw) = raw := by
  have hpieces : (segmentsOf raw).map String.toList = Text.pieces '.' raw.toList := by
    rw [segmentsOf, List.map_map]
    simp
  rw [dotted, hpieces, Text.joined_pieces, String.ofList_toList]

/-- A last segment stands behind a dot. -/
theorem dotted_concat {segments : List String} (hne : segments ≠ []) (last : String) :
    dotted (segments ++ [last]) = dotted segments ++ "." ++ last := by
  have hpieces : segments.map String.toList ≠ [] := fun h => hne (List.map_eq_nil_iff.1 h)
  refine String.ext ?_
  rw [dotted, String.toList_ofList, List.map_append, List.map_singleton,
    Text.joined_append '.' hpieces (List.cons_ne_nil _ _)]
  simp [dotted, Text.joined]

/-- **A text ends in the last segment of its path.**  If anything stands before it, a dot does. -/
theorem eq_terminal_or_append (raw : String) :
    raw = (pathOf raw).terminal ∨ ∃ lead, raw = lead ++ "." ++ (pathOf raw).terminal := by
  have hsegments := List.dropLast_concat_getLast (segmentsOf_ne_nil raw)
  generalize (segmentsOf raw).dropLast = init, (segmentsOf raw).getLast _ = last at hsegments
  have hterminal : (pathOf raw).terminal = last := by
    show (segmentsOf raw).getLastD raw = last
    rw [← hsegments, List.getLastD_concat]
  have hraw := dotted_segmentsOf raw
  rw [← hsegments] at hraw
  rw [hterminal]
  by_cases hinit : init = []
  · subst hinit
    exact .inl (hraw.symm.trans String.ofList_toList)
  · rw [dotted_concat hinit] at hraw
    exact .inr ⟨dotted init, hraw.symm⟩

/-! ### Paths with a dot between them -/

/-- A text is a path when none of its segments is empty: the empty text has an empty segment. -/
theorem isPath_iff {raw : String} : IsPath raw ↔ ∀ segment ∈ segmentsOf raw, segment ≠ "" := by
  constructor
  · intro h
    exact h.2
  · intro h
    have hraw : raw ≠ "" := by
      rintro rfl
      have hmem : "" ∈ segmentsOf "" := by
        rw [segmentsOf_of_dot_not_mem (by decide)]
        exact List.mem_cons_self
      exact h "" hmem rfl
    exact ⟨hraw, h⟩

theorem isPath_append_iff {raw other : String} :
    IsPath (raw ++ "." ++ other) ↔ IsPath raw ∧ IsPath other := by
  rw [isPath_iff, isPath_iff, isPath_iff, segmentsOf_append, List.forall_mem_append]

/-- A text can be parsed exactly when it is a path. -/
theorem SourcePath.exists_parse_iff {raw : String} :
    (∃ p, SourcePath.parse raw = .ok p) ↔ IsPath raw := by
  simp only [SourcePath.parse_ok]
  constructor
  · rintro ⟨p, h, -⟩
    exact h
  · intro h
    exact ⟨pathOf raw, h, rfl⟩

/-- **Texts with a dot between them lead on.**  The path of the second text starts at the place of
the first one. -/
theorem resolve_dot (raw other : String) (v : Json.Value) :
    (pathOf (raw ++ "." ++ other)).resolve v =
      ((pathOf raw).resolve v).bind (pathOf other).resolve := by
  show resolveFrom (segmentsOf (raw ++ "." ++ other)) v = _
  rw [segmentsOf_append, resolveFrom_append]
  rfl

/-- No path leads on from `null`, since every path has a segment. -/
theorem resolve_null (raw : String) : (pathOf raw).resolve .null = none := by
  show resolveFrom (segmentsOf raw) .null = none
  cases hsegments : segmentsOf raw with
  | nil => exact absurd hsegments (segmentsOf_ne_nil raw)
  | cons segment rest => rfl

/-- **Paths compose.**  Two texts with a dot between them can be parsed exactly when both can.  The
path that they make finds in every document what the second path finds in the value that the first
one finds, and nothing when one of the two finds nothing.  A `null` that the second path finds is
found; a `null` that the first one finds ends the way. -/
theorem parse_dot_resolve (first second : String) :
    ((∃ path, SourcePath.parse (first ++ "." ++ second) = .ok path) ↔
      (∃ p, SourcePath.parse first = .ok p) ∧ ∃ q, SourcePath.parse second = .ok q) ∧
    ∀ p q, SourcePath.parse first = .ok p → SourcePath.parse second = .ok q →
      ∃ path, SourcePath.parse (first ++ "." ++ second) = .ok path ∧
        (∀ v, path.resolve v = (p.resolve v).bind q.resolve) ∧
        (∀ v w, p.resolve v = some w → q.resolve w = some .null → path.resolve v = some .null) ∧
        ∀ v, p.resolve v = some .null → path.resolve v = none := by
  constructor
  · rw [SourcePath.exists_parse_iff, SourcePath.exists_parse_iff, SourcePath.exists_parse_iff]
    exact isPath_append_iff
  · intro p q hp hq
    obtain ⟨hfirst, rfl⟩ := SourcePath.parse_ok.1 hp
    obtain ⟨hsecond, rfl⟩ := SourcePath.parse_ok.1 hq
    have hpath : IsPath (first ++ "." ++ second) := isPath_append_iff.2 ⟨hfirst, hsecond⟩
    have hresolve := resolve_dot first second
    refine ⟨pathOf (first ++ "." ++ second), SourcePath.parse_ok.2 ⟨hpath, rfl⟩, hresolve, ?_, ?_⟩
    · intro v w hv hw
      rw [hresolve, hv]
      exact hw
    · intro v hv
      rw [hresolve, hv]
      exact resolve_null second

/-- A document with a buyer who has no name, and with an item whose price is `null`. -/
def buyerDocument : Json.Value :=
  .object [("buyer", .object [("name", .null)]),
    ("items", .array [.object [("price", .object [("net", .null)])]])]

/-- The price of the first item goes on to its net amount, which is `null`; the name of the buyer is
`null` and does not go on. -/
theorem parse_dot_resolve_buyer :
    (∃ path, SourcePath.parse ("items.0" ++ "." ++ "price.net") = .ok path ∧
      path.resolve buyerDocument = some .null) ∧
    ∃ path, SourcePath.parse ("buyer.name" ++ "." ++ "price.net") = .ok path ∧
      path.resolve buyerDocument = none := by
  have hitem : SourcePath.parse "items.0" = .ok (pathOf "items.0") := rfl
  have hbuyer : SourcePath.parse "buyer.name" = .ok (pathOf "buyer.name") := rfl
  have hprice : SourcePath.parse "price.net" = .ok (pathOf "price.net") := rfl
  obtain ⟨net, hnet, -, hfound, -⟩ := (parse_dot_resolve _ _).2 _ _ hitem hprice
  obtain ⟨name, hname, -, -, hended⟩ := (parse_dot_resolve _ _).2 _ _ hbuyer hprice
  exact ⟨⟨net, hnet, hfound buyerDocument _ rfl rfl⟩, name, hname, hended buyerDocument rfl⟩

/-! ### Paths that go on -/

/-- The path that goes on along further segments. -/
def SourcePath.extend (p : SourcePath) : List String → SourcePath
  | [] => p
  | segment :: rest => pathOf (p.raw ++ "." ++ dotted (segment :: rest))

section

variable {raw : String} {rest : List String}

theorem extend_segments (h : ∀ segment ∈ rest, '.' ∉ segment.toList) :
    ((pathOf raw).extend rest).segments = segmentsOf raw ++ rest := by
  cases rest with
  | nil => exact (List.append_nil _).symm
  | cons segment rest =>
    show segmentsOf (raw ++ "." ++ dotted (segment :: rest)) = _
    rw [segmentsOf_append, segmentsOf_dotted (List.cons_ne_nil segment rest) h]

/-- A path that goes on is the path of a text again. -/
theorem exists_extend_eq (hraw : IsPath raw)
    (h : ∀ segment ∈ rest, segment ≠ "" ∧ '.' ∉ segment.toList) :
    ∃ other, IsPath other ∧ (pathOf raw).extend rest = pathOf other := by
  cases rest with
  | nil => exact ⟨raw, hraw, rfl⟩
  | cons segment rest =>
    have hrest : IsPath (dotted (segment :: rest)) := by
      rw [isPath_iff, segmentsOf_dotted (List.cons_ne_nil segment rest) fun s hs => (h s hs).2]
      intro other hother
      exact (h other hother).1
    exact ⟨raw ++ "." ++ dotted (segment :: rest), isPath_append_iff.2 ⟨hraw, hrest⟩, rfl⟩

/-- **A path that goes on leads on from the place of the path.** -/
theorem resolve_extend (h : ∀ segment ∈ rest, '.' ∉ segment.toList) (v : Json.Value) :
    ((pathOf raw).extend rest).resolve v = ((pathOf raw).resolve v).bind (resolveFrom rest) := by
  rw [SourcePath.resolve, extend_segments h, resolveFrom_append]
  rfl

end

end Reshape
