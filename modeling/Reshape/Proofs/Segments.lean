import Reshape.Proofs.Translation

/-!
# Paths and their segments

A path is as good as the list of its segments: its text can be cut at the dots, segments can be put
together with dots between them, and the two undo each other.  The texts that are no paths are told
without cutting them:

* **`IsSegment`** — a text that is not empty and has no dot;
* **`HasGap`** — a text with a dot at one of its ends, or with two dots in a row;
* **`BehindLastDot`** — the part of a text behind its last dot;
* **`SourcePath.Reads`** — what a text is read as;
* **`Rule.CopiesToSegment`** — a rule that writes to a segment if it is a copy.

**`Text.mem_pieces_iff`** says where in a text its pieces stand, and **`isPath_iff_not_hasGap`** is
that law for empty pieces.  The main statement is **`parse_segments`**: the texts without a gap are
the paths, the paths are the lists of segments, and copies write to segments.
-/

namespace Reshape

open Json

/-- A segment is not empty and has no dot. -/
def IsSegment (segment : String) : Prop := segment ≠ "" ∧ '.' ∉ segment.toList

/-- The text begins with a dot or ends with one, or has two dots in a row. -/
def HasGap (raw : String) : Prop :=
  ['.'] <+: raw.toList ∨ ['.'] <:+ raw.toList ∨ ['.', '.'] <:+: raw.toList

/-- The part of a text behind its last dot: the whole text if it has no dot. -/
def BehindLastDot (raw last : String) : Prop :=
  '.' ∉ last.toList ∧ (raw = last ∨ ∃ lead, raw = lead ++ "." ++ last)

/-- The path is what a text is read as: it keeps the text, has segments that make up the text when
they are put together, and its last one is what stands behind the last dot. -/
structure SourcePath.Reads (p : SourcePath) (raw : String) : Prop where
  text : p.raw = raw
  segments_ne : p.segments ≠ []
  isSegment : ∀ segment ∈ p.segments, IsSegment segment
  joined : ".".intercalate p.segments = raw
  terminal : ∀ last, p.terminal = last ↔ BehindLastDot raw last

instance (segment : String) : Decidable (IsSegment segment) :=
  inferInstanceAs (Decidable (_ ∧ _))

instance (raw : String) : Decidable (HasGap raw) :=
  inferInstanceAs (Decidable (_ ∨ _ ∨ _))

/-! ### Where pieces stand -/

/-- **The pieces of a text** are the parts of it without separators that have, on either side, a
separator or the end of the text. -/
theorem Text.mem_pieces_iff {sep : Char} {cs piece : List Char} :
    piece ∈ Text.pieces sep cs ↔ sep ∉ piece ∧
      (cs = piece ∨ (∃ behind, cs = piece ++ sep :: behind) ∨
        (∃ before, cs = before ++ sep :: piece) ∨
        ∃ before behind, cs = before ++ sep :: (piece ++ sep :: behind)) := by
  constructor
  · intro h
    refine ⟨Text.not_mem_of_mem_pieces h, ?_⟩
    obtain ⟨ps, qs, hsplit⟩ := List.append_of_mem h
    have htext := Text.joined_pieces sep cs
    rw [hsplit] at htext
    -- What is before the piece and what is behind it may be missing, and a separator with it.
    cases ps with
    | nil =>
      cases qs with
      | nil => exact .inl htext.symm
      | cons q qs => exact .inr (.inl ⟨Text.joined sep (q :: qs), htext.symm⟩)
    | cons p ps =>
      rw [Text.joined_append sep (List.cons_ne_nil p ps) (List.cons_ne_nil piece qs)] at htext
      cases qs with
      | nil => exact .inr (.inr (.inl ⟨Text.joined sep (p :: ps), htext.symm⟩))
      | cons q qs =>
        exact .inr (.inr (.inr ⟨Text.joined sep (p :: ps), Text.joined sep (q :: qs), htext.symm⟩))
  · rintro ⟨hsep, rfl | ⟨behind, rfl⟩ | ⟨before, rfl⟩ | ⟨before, behind, rfl⟩⟩
    · rw [Text.pieces_of_not_mem hsep]
      exact List.mem_cons_self
    · rw [Text.pieces_append hsep]
      exact List.mem_cons_self
    · rw [Text.pieces_append_sep, Text.pieces_of_not_mem hsep]
      exact List.mem_append_right _ List.mem_cons_self
    · rw [Text.pieces_append_sep, Text.pieces_append hsep]
      exact List.mem_append_right _ List.mem_cons_self

/-! ### Texts that are no paths -/

section

variable {raw : String}

/-- A text has an empty segment when it is empty or has a gap. -/
theorem empty_mem_segmentsOf_iff : "" ∈ segmentsOf raw ↔ raw = "" ∨ HasGap raw := by
  have hpiece : "" ∈ segmentsOf raw ↔ [] ∈ Text.pieces '.' raw.toList := by
    unfold segmentsOf
    rw [List.mem_map]
    constructor
    · rintro ⟨piece, hpiece, hempty⟩
      rwa [String.ofList_eq_empty_iff.1 hempty] at hpiece
    · intro h
      exact ⟨[], h, rfl⟩
  have hstart : (∃ behind, raw.toList = [] ++ '.' :: behind) ↔ ['.'] <+: raw.toList :=
    exists_congr fun _ => eq_comm
  have hend : (∃ before, raw.toList = before ++ '.' :: []) ↔ ['.'] <:+ raw.toList :=
    exists_congr fun _ => eq_comm
  have hmiddle : (∃ before behind, raw.toList = before ++ '.' :: ([] ++ '.' :: behind)) ↔
      ['.', '.'] <:+: raw.toList := by
    refine exists_congr fun before => exists_congr fun behind => ?_
    rw [List.append_assoc]
    exact eq_comm
  rw [hpiece, Text.mem_pieces_iff, hstart, hend, hmiddle, String.toList_eq_nil_iff]
  exact and_iff_right List.not_mem_nil

/-- **The paths** are the texts that are not empty and have no gap. -/
theorem isPath_iff_not_hasGap : IsPath raw ↔ raw ≠ "" ∧ ¬ HasGap raw := by
  have hsegments : IsPath raw ↔ "" ∉ segmentsOf raw := by
    rw [isPath_iff]
    constructor
    · intro h hempty
      exact h "" hempty rfl
    · rintro h segment hsegment rfl
      exact h hsegment
  rw [hsegments, empty_mem_segmentsOf_iff, not_or]

example : HasGap ".sku" ∧ HasGap "sku." ∧ HasGap "unit..price" ∧ ¬ HasGap "unit.price" := by
  decide +kernel

/-- What parsing gives, by the text alone. -/
theorem SourcePath.parse_eq (raw : String) :
    SourcePath.parse raw =
      if raw = "" then .error .empty
      else if HasGap raw then .error (.emptySegment raw)
      else .ok (pathOf raw) := by
  by_cases hraw : raw = ""
  · rw [SourcePath.parse, if_pos hraw, if_pos hraw]
  · rw [if_neg hraw]
    by_cases hgap : HasGap raw
    · have hany : (segmentsOf raw).any (· == "") = true :=
        List.any_eq_true.2 ⟨"", empty_mem_segmentsOf_iff.2 (.inr hgap), rfl⟩
      rw [SourcePath.parse, if_neg hraw, if_pos hany, if_pos hgap]
    · rw [if_neg hgap]
      exact SourcePath.parse_ok.2 ⟨isPath_iff_not_hasGap.2 ⟨hraw, hgap⟩, rfl⟩

theorem SourcePath.parse_empty_iff : SourcePath.parse raw = .error .empty ↔ raw = "" := by
  rw [SourcePath.parse_eq]
  by_cases hraw : raw = ""
  · simp [hraw]
  · by_cases hgap : HasGap raw <;> simp [hraw, hgap]

theorem SourcePath.parse_emptySegment_iff {path : String} :
    SourcePath.parse raw = .error (.emptySegment path) ↔
      path = raw ∧ raw ≠ "" ∧ HasGap raw := by
  rw [SourcePath.parse_eq]
  by_cases hraw : raw = ""
  · simp [hraw]
  · by_cases hgap : HasGap raw
    · simp [hraw, hgap, eq_comm]
    · simp [hraw, hgap]

/-! ### The last segment -/

theorem terminal_mem_segmentsOf (raw : String) : (pathOf raw).terminal ∈ segmentsOf raw := by
  have hne := segmentsOf_ne_nil raw
  show (segmentsOf raw).getLastD raw ∈ segmentsOf raw
  rw [List.getLastD_eq_getLast?, List.getLast?_eq_some_getLast hne]
  exact List.getLast_mem hne

/-- **The last segment** of a text is what stands behind its last dot. -/
theorem terminal_pathOf_iff {last : String} :
    (pathOf raw).terminal = last ↔ BehindLastDot raw last := by
  constructor
  · intro h
    subst h
    exact ⟨dot_not_mem_segment (terminal_mem_segmentsOf raw), eq_terminal_or_append raw⟩
  · rintro ⟨hdot, rfl | ⟨lead, rfl⟩⟩
    · show (segmentsOf raw).getLastD raw = raw
      rw [segmentsOf_of_dot_not_mem hdot]
      rfl
    · show (segmentsOf (lead ++ "." ++ last)).getLastD _ = last
      rw [segmentsOf_append, segmentsOf_of_dot_not_mem hdot, List.getLastD_concat]

/-! ### Reading and putting together -/

/-- The text of some segments is the segments with dots between them. -/
theorem dotted_eq_intercalate (segments : List String) :
    dotted segments = ".".intercalate segments := by
  induction segments with
  | nil => rfl
  | cons first rest ih =>
    cases rest with
    | nil =>
      rw [String.intercalate_singleton]
      exact String.ofList_toList
    | cons second rest =>
      rw [String.intercalate_cons_cons, ← ih]
      refine String.ext ?_
      simp [dotted, Text.joined]

/-- A text that is a path is read as the path that it stands for. -/
theorem reads_pathOf (h : IsPath raw) : (pathOf raw).Reads raw where
  text := rfl
  segments_ne := segmentsOf_ne_nil raw
  isSegment := fun segment hsegment => ⟨h.2 segment hsegment, dot_not_mem_segment hsegment⟩
  joined := (dotted_eq_intercalate (segmentsOf raw)).symm.trans (dotted_segmentsOf raw)
  terminal := fun _ => terminal_pathOf_iff

/-- **Segments that are put together are read back.** -/
theorem parse_intercalate {segments : List String} (hne : segments ≠ [])
    (h : ∀ segment ∈ segments, IsSegment segment) :
    SourcePath.parse (".".intercalate segments) = .ok ⟨".".intercalate segments, segments⟩ := by
  rw [← dotted_eq_intercalate]
  have hsegments : segmentsOf (dotted segments) = segments :=
    segmentsOf_dotted hne fun segment hsegment => (h segment hsegment).2
  have hpath : IsPath (dotted segments) := by
    rw [isPath_iff, hsegments]
    exact fun segment hsegment => (h segment hsegment).1
  rw [SourcePath.parse_ok, pathOf, hsegments]
  exact ⟨hpath, rfl⟩

/-- **Parsing is reading.** -/
theorem SourcePath.parse_ok_iff_reads {p : SourcePath} :
    SourcePath.parse raw = .ok p ↔ p.Reads raw := by
  constructor
  · intro h
    obtain ⟨hraw, rfl⟩ := SourcePath.parse_ok.1 h
    exact reads_pathOf hraw
  · intro h
    have hparse := parse_intercalate h.segments_ne h.isSegment
    rw [h.joined] at hparse
    rw [hparse, ← h.text]

/-- The last segment is a segment like the others. -/
theorem SourcePath.Reads.isSegment_terminal {p : SourcePath} (h : p.Reads raw) :
    IsSegment p.terminal := by
  obtain ⟨hraw, rfl⟩ := SourcePath.parse_ok.1 (SourcePath.parse_ok_iff_reads.2 h)
  exact h.isSegment _ (terminal_mem_segmentsOf raw)

end

/-! ### Copies -/

/-- The rule writes to a segment if it is a copy. -/
def Rule.CopiesToSegment (rule : Rule) : Prop :=
  rule.kind = .copy → ∃ dest, rule.dest? = some dest ∧ IsSegment dest

/-- A copy writes to the last segment of its path. -/
theorem SourcePath.Reads.copiesToSegment {raw : String} {p : SourcePath} (h : p.Reads raw) :
    (Rule.copy p).CopiesToSegment :=
  fun _ => ⟨p.terminal, rfl, h.isSegment_terminal⟩

section

variable {registry : Registry}

theorem ElementRule.copiesToSegment {v : Value} {rule : Rule} (h : ElementRule registry v rule) :
    rule.CopiesToSegment := by
  cases h with
  | copy hraw => exact (reads_pathOf hraw).copiesToSegment
  | _ => exact nofun

theorem compileRule_copiesToSegment {index : Nat} {r : RuleDescriptor} {rule : Rule}
    (h : compileRule registry index r = .ok rule) : rule.CopiesToSegment := by
  -- Whatever a rule descriptor does with the value, it does not copy it.
  obtain ⟨p, -, h⟩ := bind_eq_ok.1 h
  obtain ⟨dest, -, h⟩ := bind_eq_ok.1 h
  split at h
  next =>
    cases h
    exact nofun
  next =>
    cases h
    exact nofun
  next =>
    obtain ⟨f, -, h⟩ := bind_eq_ok.1 h
    cases h
    exact nofun
  next => cases h
  next => cases h

/-- **Elements of any sort compile to rules that write to a segment if they are copies.** -/
theorem compileDescriptor_copiesToSegment {index : Nat} {d : Descriptor} {rule : Rule}
    (h : (compileDescriptor registry index d).result = .ok rule) : rule.CopiesToSegment := by
  cases d with
  | field name =>
    obtain ⟨p, hp, rfl⟩ := map_eq_ok.1 h
    obtain ⟨hname, rfl⟩ := pathAt_ok.1 hp
    exact (reads_pathOf hname).copiesToSegment
  | relabel source dest =>
    obtain ⟨-, -, rfl⟩ := relabelAt_ok.1 h
    exact nofun
  | rule r => exact compileRule_copiesToSegment h
  | postProcess run =>
    cases h
    exact nofun
  | json v => exact (compileElement_ok.1 h).copiesToSegment

/-- Every rule of a compiled list is the rule of one of its elements. -/
theorem exists_descriptor_of_mem {index : Nat} {ds : List Descriptor} {rules : List Rule}
    (h : (compileDescriptors registry index ds).result = .ok rules) {rule : Rule}
    (hrule : rule ∈ rules) :
    ∃ d ∈ ds, ∃ position, (compileDescriptor registry position d).result = .ok rule := by
  induction ds generalizing index rules with
  | nil =>
    cases h
    cases hrule
  | cons d rest ih =>
    obtain ⟨first, hfirst, h⟩ := Traced.andThen_result_ok.1 h
    obtain ⟨more, hmore, h⟩ := Traced.andThen_result_ok.1 h
    cases h
    rcases List.mem_cons.1 hrule with rfl | hmem
    · exact ⟨d, List.mem_cons_self, index, hfirst⟩
    · obtain ⟨e, he, position, hposition⟩ := ih hmore hmem
      exact ⟨e, List.mem_cons_of_mem d he, position, hposition⟩

theorem compile_copiesToSegment {ds : List Descriptor} {rules : List Rule}
    (h : (compile registry ds).result = .ok rules) : ∀ rule ∈ rules, rule.CopiesToSegment := by
  intro rule hrule
  rw [compile, andThen_noteCompiled_result] at h
  obtain ⟨d, -, position, hd⟩ := exists_descriptor_of_mem h hrule
  exact compileDescriptor_copiesToSegment hd

end

/-- **Paths are lists of segments.**  Parsing fails on the empty text as empty, and on every other
text with a gap for its empty segment.  Any text besides is read as the segments that make it up,
and the last one is what stands behind its last dot.  The other way round, segments that are put
together with dots are read back just as they were.  So a copy writes to a field whose name is not
empty and has no dot, whatever path it is made of; copies among compiled rules are made in no other
way. -/
theorem parse_segments :
    (∀ raw,
      (SourcePath.parse raw = .error .empty ↔ raw = "") ∧
      (∀ path, SourcePath.parse raw = .error (.emptySegment path) ↔
        path = raw ∧ raw ≠ "" ∧ HasGap raw) ∧
      (raw ≠ "" → ¬ HasGap raw →
        ∃ p, SourcePath.parse raw = .ok p ∧ p.Reads raw ∧ (Rule.copy p).CopiesToSegment)) ∧
    (∀ segments, segments ≠ [] → (∀ segment ∈ segments, IsSegment segment) →
      SourcePath.parse (".".intercalate segments) =
        .ok ⟨".".intercalate segments, segments⟩) ∧
    ∀ registry ds rules, (compile registry ds).result = .ok rules →
      ∀ rule ∈ rules, rule.CopiesToSegment := by
  refine ⟨fun raw => ⟨SourcePath.parse_empty_iff, fun path => SourcePath.parse_emptySegment_iff,
    fun hraw hgap => ?_⟩, fun segments => parse_intercalate, fun registry ds rules =>
    compile_copiesToSegment⟩
  have hreads : (pathOf raw).Reads raw := reads_pathOf (isPath_iff_not_hasGap.2 ⟨hraw, hgap⟩)
  exact ⟨pathOf raw, SourcePath.parse_ok_iff_reads.2 hreads, hreads, hreads.copiesToSegment⟩

/-- The name of a buyer is read as two segments, which are read back from the text that they make,
and a copy goes to the last one; with two dots the text has a gap. -/
theorem parse_segments_buyer :
    (¬ HasGap "buyer.name" ∧ ∃ p, SourcePath.parse "buyer.name" = .ok p ∧
      ".".intercalate p.segments = "buyer.name" ∧ p.terminal = "name") ∧
    SourcePath.parse "buyer..name" = .error (.emptySegment "buyer..name") ∧
    SourcePath.parse (".".intercalate ["buyer", "name"]) =
      .ok ⟨".".intercalate ["buyer", "name"], ["buyer", "name"]⟩ ∧
    (compile Registry.builtIns [.field "buyer.name"]).result =
      .ok [.copy (pathOf "buyer.name")] ∧
    ∃ dest, (Rule.copy (pathOf "buyer.name")).dest? = some dest ∧ IsSegment dest := by
  obtain ⟨hraw, hsegments, hrules⟩ := parse_segments
  have hgap : ¬ HasGap "buyer.name" := by decide +kernel
  obtain ⟨p, hp, hreads, -⟩ := (hraw "buyer.name").2.2 (by decide) hgap
  have hname : BehindLastDot "buyer.name" "name" := ⟨by decide, .inr ⟨"buyer", rfl⟩⟩
  have hcompile : (compile Registry.builtIns [.field "buyer.name"]).result =
      .ok [.copy (pathOf "buyer.name")] := rfl
  refine ⟨⟨hgap, p, hp, hreads.joined, (hreads.terminal "name").2 hname⟩, ?_, ?_, hcompile, ?_⟩
  · exact ((hraw "buyer..name").2.1 "buyer..name").2 ⟨rfl, by decide, by decide +kernel⟩
  · exact hsegments ["buyer", "name"] (by decide) (by decide)
  · exact hrules _ _ _ hcompile _ List.mem_cons_self rfl

end Reshape
