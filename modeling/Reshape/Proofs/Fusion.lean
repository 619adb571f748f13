import Reshape.Proofs.LastWriter
import Mathlib.Data.List.Nodup

/-!
# Fused mappers

A mapper that only copies reads each field of its object from one place of the source.  So a second
such mapper, behind it, reads from the source as well: where its path starts with a field of the
first mapper, it goes on from the path of this field, and where it does not, it finds nothing.

* **`Rule.Plain`** — rules that copy;
* **`copied`** — what plain rules make of a document: they never fail;
* **`originOf?`**, **`OneOrigin`** — the path from which a list of rules writes a field, and lists
  that write every field from one;
* **`Mapper.fuse`** — the mapper that does the work of two.

The value of a field is found at its origin (**`get?_copiedFields`**), and the fused rules copy what
the second mapper would (**`copiedFields_fuse`**).  The main statement is **`map_fuse`**: mapping by
two plain mappers, one after the other, is mapping by the fused one.
-/

namespace Reshape

open Json

/-- A rule that copies the value at a path. -/
inductive Rule.Plain : Rule → Prop
  | copy {raw : String} : IsPath raw → Plain (.copy (pathOf raw))
  | relabel {raw dest : String} : IsPath raw → Plain (.relabel (pathOf raw) dest)

/-! ### What plain rules make of a document -/

/-- The field that a rule copies, if its path leads somewhere. -/
def Rule.copied? (source : Value) (rule : Rule) : Option (String × Value) :=
  match rule.source?, rule.dest? with
  | some p, some dest => (p.resolve source).map fun v => (dest, v)
  | _, _ => none

/-- The fields that rules copy, a later one in place of an earlier one of the same name. -/
def copiedFields (rules : List Rule) (source : Value) : Fields :=
  rules.foldl (fun d rule => writeField d (rule.copied? source)) []

/-- What rules copy of one source. -/
def copiedSource (rules : List Rule) : Value → Value
  | .null => .null
  | source => .object (copiedFields rules source)

/-- What rules copy of a document. -/
def copied (rules : List Rule) : Value → Value
  | .array items => .array (items.map (copiedSource rules))
  | source => copiedSource rules source

section

variable {options : Options} {source : Value} {rules : List Rule}

theorem Rule.Plain.contribution {rule : Rule} (h : rule.Plain) :
    (rule.contribution options source).result = .ok (rule.copied? source) := by
  cases h with
  | copy => exact contribution_result_of_copied rfl rfl
  | relabel => exact contribution_result_of_copied rfl rfl

theorem Rule.Plain.hook?_eq_none {rule : Rule} (h : rule.Plain) : rule.hook? = none := by
  cases h <;> rfl

theorem Rule.Plain.outcome? {rule : Rule} (h : rule.Plain) :
    rule.outcome? options source = rule.source?.bind fun p => (p.resolve source).map .ok := by
  cases h <;> rfl

theorem writeFields_of_plain (h : ∀ rule ∈ rules, rule.Plain) (d : Fields) :
    (writeFields options source rules d).result =
      .ok (rules.foldl (fun e rule => writeField e (rule.copied? source)) d) := by
  induction rules generalizing d with
  | nil => rw [writeFields_nil]; rfl
  | cons rule rest ih =>
    rw [writeFields_cons, Traced.result_andThen, (h rule List.mem_cons_self).contribution, ok_bind,
      List.foldl_cons]
    exact ih (fun r hr => h r (List.mem_cons_of_mem rule hr)) _

theorem buildObject_of_plain (h : ∀ rule ∈ rules, rule.Plain) :
    (buildObject options rules source).result = .ok (copiedFields rules source) := by
  rw [buildObject_result, writeFields_of_plain h, ok_bind,
    runHooks_of_hook?_eq_none fun rule hrule => (h rule hrule).hook?_eq_none]
  rfl

/-- **Plain rules never fail.**  They map every document to what they copy. -/
theorem map_of_plain (h : ∀ rule ∈ rules, rule.Plain) (input : Value) (options : Options) :
    (Mapper.mk rules).map input options = .ok (copied rules input) := by
  have hsource : orNull (fun s => (buildObject options rules s).result) =
      fun s => .ok (copiedSource rules s) := by
    funext s
    by_cases hs : s = .null
    · subst hs
      rfl
    · rw [orNull_of_ne hs, buildObject_of_plain h, ok_map]
      cases s with
      | null => exact absurd rfl hs
      | _ => rfl
  rw [map_eq, hsource]
  cases input with
  | array items =>
    show (items.mapM fun s => (pure (copiedSource rules s) : Except Error Value)).map Value.array =
      .ok (.array (items.map (copiedSource rules)))
    rw [List.mapM_pure]
    rfl
  | _ => rfl

end

/-! ### Where a field comes from -/

/-- The path from which the first rule for a field writes it. -/
def originOf? (rules : List Rule) (key : String) : Option SourcePath :=
  (rules.find? fun rule => rule.dest? = some key).bind Rule.source?

/-- Rules that write the same field read the same place. -/
def OneOrigin (rules : List Rule) : Prop :=
  ∀ a ∈ rules, ∀ b ∈ rules, a.dest? = b.dest? → a.source? = b.source?

theorem oneOrigin_of_nodup {rules : List Rule} (h : (rules.map Rule.dest?).Nodup) :
    OneOrigin rules := by
  intro a ha b hb hab
  rw [List.inj_on_of_nodup_map h ha hb hab]

theorem Rule.Plain.exists_eq {rule : Rule} (h : rule.Plain) :
    ∃ raw dest, IsPath raw ∧ rule.source? = some (pathOf raw) ∧ rule.dest? = some dest := by
  cases h with
  | copy hraw => exact ⟨_, _, hraw, rfl, rfl⟩
  | relabel hraw => exact ⟨_, _, hraw, rfl, rfl⟩

section

variable {source : Value} {rules : List Rule} {key : String}

theorem exists_rule_of_origin {p : SourcePath} (h : originOf? rules key = some p) :
    ∃ rule ∈ rules, rule.dest? = some key ∧ rule.source? = some p := by
  obtain ⟨rule, hfind, hp⟩ := Option.bind_eq_some_iff.1 h
  exact ⟨rule, List.mem_of_find?_eq_some hfind, by simpa using List.find?_some hfind, hp⟩

/-- The origin of a field among plain rules is the path of a text. -/
theorem exists_origin_eq {p : SourcePath} (hplain : ∀ rule ∈ rules, rule.Plain)
    (h : originOf? rules key = some p) : ∃ raw, IsPath raw ∧ p = pathOf raw := by
  obtain ⟨rule, hrule, -, hp⟩ := exists_rule_of_origin h
  obtain ⟨raw, -, hraw, hsource, -⟩ := (hplain rule hrule).exists_eq
  exact ⟨raw, hraw, Option.some.inj (hp.symm.trans hsource)⟩

theorem originOf?_of_mem {rule : Rule} (hsame : OneOrigin rules) (hrule : rule ∈ rules)
    (hdest : rule.dest? = some key) :
    originOf? rules key = rule.source? := by
  unfold originOf?
  cases hfind : rules.find? fun rule => rule.dest? = some key with
  | none => exact absurd hdest (by simpa using List.find?_eq_none.1 hfind rule hrule)
  | some first =>
    have hfirst : first.dest? = some key := by simpa using List.find?_some hfind
    exact hsame first (List.mem_of_find?_eq_some hfind) rule hrule (hfirst.trans hdest.symm)

/-- The fields that plain rules copy are those of the last writers. -/
theorem writtenLast_copiedFields (hplain : ∀ rule ∈ rules, rule.Plain) :
    WrittenLast .empty source rules (copiedFields rules source) :=
  writtenLast_of_writeFields (writeFields_of_plain hplain [])

/-- **A field holds what is at its origin,** if the rules that write it read the same place. -/
theorem get?_copiedFields (hplain : ∀ rule ∈ rules, rule.Plain) (hsame : OneOrigin rules) :
    Keyed.get? key (copiedFields rules source) =
      (originOf? rules key).bind fun p => p.resolve source := by
  have hlast : WrittenLast .empty source rules (copiedFields rules source) :=
    writtenLast_copiedFields hplain
  by_cases hwrites : ∃ rule ∈ rules, rule.Writes source key
  · -- The last writer need not be the first rule for the field, but it reads the same place.
    obtain ⟨rule, hrule⟩ := exists_lastWriter hwrites
    obtain ⟨v, hv, hget⟩ := hlast.value key rule hrule
    obtain ⟨before, after, hrules, ⟨hdest, -⟩, -⟩ := hrule
    have hmem : rule ∈ rules := hrules ▸ List.mem_append_cons_self
    rw [hget, originOf?_of_mem hsame hmem hdest]
    rw [(hplain rule hmem).outcome?] at hv
    obtain ⟨p, hp, hresolve⟩ := Option.bind_eq_some_iff.1 hv
    rw [hp, Option.bind_some]
    obtain ⟨w, hw, heq⟩ := Option.map_eq_some_iff.1 hresolve
    cases heq
    exact hw.symm
  · rw [Keyed.get?_eq_none_of_not_mem fun hkey => hwrites ((hlast.present key).1 hkey)]
    cases horigin : originOf? rules key with
    | none => rfl
    | some p =>
      obtain ⟨rule, hmem, hdest, hp⟩ := exists_rule_of_origin horigin
      cases hresolve : p.resolve source with
      | none => exact hresolve.symm
      | some v => exact absurd ⟨rule, hmem, hdest, p, v, hp, hresolve⟩ hwrites

end

/-! ### Fused rules -/

/-- The rule that copies from the source what a rule copies behind the rules of a list: it goes on
from the origin of the field where the path starts, if there is one. -/
def Rule.behind? (first : List Rule) (rule : Rule) : Option Rule :=
  match rule.source?, rule.dest? with
  | some q, some dest =>
    match q.segments with
    | segment :: rest => (originOf? first segment).map fun p => .relabel (p.extend rest) dest
    | [] => none
  | _, _ => none

/-- The mapper that does the work of two, of which the second gets what the first one made. -/
def Mapper.fuse (first second : Mapper) : Mapper :=
  ⟨second.rules.filterMap (Rule.behind? first.rules)⟩

section

variable {first second : List Rule} {rule : Rule}

/-- A fused rule writes the field of the rule that it stands for, and this one starts at a field of
the first rules. -/
theorem behind?_eq_some {fused : Rule} (h : rule.behind? first = some fused) :
    ∃ q dest segment rest p, rule.source? = some q ∧ rule.dest? = some dest ∧
      q.segments = segment :: rest ∧ originOf? first segment = some p ∧
      fused = .relabel (p.extend rest) dest := by
  unfold Rule.behind? at h
  split at h
  next q dest hq hdest =>
    split at h
    next segment rest hsegments =>
      obtain ⟨p, hp, rfl⟩ := Option.map_eq_some_iff.1 h
      exact ⟨q, dest, segment, rest, p, hq, hdest, hsegments, hp, rfl⟩
    next => cases h
  next => cases h

/-- Fused rules are plain again. -/
theorem Rule.Plain.behind? {fused : Rule} (hplain : ∀ rule ∈ first, rule.Plain) (hrule : rule.Plain)
    (h : rule.behind? first = some fused) : fused.Plain := by
  obtain ⟨q, dest, segment, rest, p, hq, -, hsegments, hp, rfl⟩ := behind?_eq_some h
  obtain ⟨raw, -, hraw, hsource, -⟩ := hrule.exists_eq
  cases hq.symm.trans hsource
  obtain ⟨other, hother, rfl⟩ := exists_origin_eq hplain hp
  have hrest : ∀ s ∈ rest, s ≠ "" ∧ '.' ∉ s.toList := by
    intro s hs
    have hmem : s ∈ (pathOf raw).segments := hsegments ▸ List.mem_cons_of_mem segment hs
    exact ⟨hraw.2 s hmem, dot_not_mem_segment hmem⟩
  obtain ⟨text, htext, heq⟩ := exists_extend_eq hother hrest
  rw [heq]
  exact .relabel htext

/-- **A fused rule copies from the source what its rule copies behind the first rules.** -/
theorem copied?_behind (hplain : ∀ rule ∈ first, rule.Plain) (hsame : OneOrigin first)
    (hrule : rule.Plain) (source : Value) :
    rule.copied? (.object (copiedFields first source)) =
      (rule.behind? first).bind (Rule.copied? source) := by
  obtain ⟨raw, dest, -, hsource, hdest⟩ := hrule.exists_eq
  cases hsegments : segmentsOf raw with
  | nil => exact absurd hsegments (segmentsOf_ne_nil raw)
  | cons segment rest =>
    have hdots : ∀ s ∈ rest, '.' ∉ s.toList := fun s hs =>
      dot_not_mem_segment (hsegments ▸ List.mem_cons_of_mem segment hs)
    have hwalk : (pathOf raw).resolve (.object (copiedFields first source)) =
        (Keyed.get? segment (copiedFields first source)).bind (resolveFrom rest) := by
      show resolveFrom (segmentsOf raw) _ = _
      rw [hsegments]
      rfl
    have hbehind : rule.behind? first =
        (originOf? first segment).map fun p => .relabel (p.extend rest) dest := by
      simp only [Rule.behind?, hsource, hdest, pathOf, hsegments]
    rw [hbehind, Rule.copied?, hsource, hdest]
    show ((pathOf raw).resolve _).map _ = _
    rw [hwalk, get?_copiedFields hplain hsame]
    cases horigin : originOf? first segment with
    | none => rfl
    | some p =>
      obtain ⟨other, -, rfl⟩ := exists_origin_eq hplain horigin
      show _ = (((pathOf other).extend rest).resolve source).map _
      rw [resolve_extend hdots]
      rfl

/-- Rules that copy the same one by one copy the same fields. -/
theorem copiedFields_filterMap {rules : List Rule} {f : Rule → Option Rule} {s t : Value}
    (h : ∀ rule ∈ rules, rule.copied? t = (f rule).bind (Rule.copied? s)) :
    copiedFields rules t = copiedFields (rules.filterMap f) s := by
  unfold copiedFields
  rw [List.foldl_filterMap]
  refine List.foldl_ext _ _ _ fun d rule hrule => ?_
  rw [h rule hrule]
  cases f rule <;> rfl

end

/-! ### Documents behind one another -/

section

variable {first second third : List Rule}

theorem copied_copiedSource (rules : List Rule) (source : Value) :
    copied second (copiedSource rules source) =
      copiedSource second (copiedSource rules source) := by
  cases source <;> rfl

/-- Rules that copy the same fields of every source copy the same of every document. -/
theorem copied_copied (h : ∀ source, copiedFields second (.object (copiedFields first source)) =
      copiedFields third source) (v : Value) :
    copied second (copied first v) = copied third v := by
  have hsource : ∀ s, copiedSource second (copiedSource first s) = copiedSource third s := by
    intro s
    have hs := congrArg Value.object (h s)
    cases s with
    | null => rfl
    | _ => exact hs
  have hv := (copied_copiedSource first v).trans (hsource v)
  cases v with
  | array items =>
    show Value.array ((items.map (copiedSource first)).map (copiedSource second)) = _
    rw [List.map_map, show copiedSource second ∘ copiedSource first = copiedSource third from
      funext hsource]
    rfl
  | _ => exact hv

/-- No object of the document has the field. -/
def Lacks (key : String) : Value → Prop
  | .array items => ∀ item ∈ items, Keyed.get? key (fieldsOf item) = none
  | v => Keyed.get? key (fieldsOf v) = none

/-- A field that no rule writes is in no object that is made. -/
theorem lacks_copied {rules : List Rule} {key : String} (hplain : ∀ rule ∈ rules, rule.Plain)
    (h : ∀ rule ∈ rules, rule.dest? ≠ some key) (v : Value) : Lacks key (copied rules v) := by
  have hsource : ∀ s, Keyed.get? key (fieldsOf (copiedSource rules s)) = none := by
    intro s
    have hfields : Keyed.get? key (copiedFields rules s) = none := by
      refine Keyed.get?_eq_none_of_not_mem fun hkey => ?_
      obtain ⟨rule, hrule, hdest, -⟩ := ((writtenLast_copiedFields hplain).present key).1 hkey
      exact h rule hrule hdest
    cases s with
    | null => rfl
    | _ => exact hfields
  have hv := hsource v
  cases v with
  | array items =>
    intro item hitem
    obtain ⟨s, -, rfl⟩ := List.mem_map.1 hitem
    exact hsource s
  | _ => exact hv

end

/-! ### The fused mapper -/

/-- **The fused rules copy what the second rules copy behind the first.** -/
theorem copiedFields_fuse {first second : Mapper} (hfirst : ∀ rule ∈ first.rules, rule.Plain)
    (hsecond : ∀ rule ∈ second.rules, rule.Plain) (hdistinct : (first.rules.map Rule.dest?).Nodup)
    (source : Value) :
    copiedFields second.rules (.object (copiedFields first.rules source)) =
      copiedFields (first.fuse second).rules source :=
  copiedFields_filterMap fun rule hrule =>
    copied?_behind hfirst (oneOrigin_of_nodup hdistinct) (hsecond rule hrule) source

theorem plain_fuse {first second : Mapper} (hfirst : ∀ rule ∈ first.rules, rule.Plain)
    (hsecond : ∀ rule ∈ second.rules, rule.Plain) :
    ∀ rule ∈ (first.fuse second).rules, rule.Plain := by
  intro fused hfused
  obtain ⟨rule, hrule, hbehind⟩ := List.mem_filterMap.1 hfused
  exact (hsecond rule hrule).behind? hfirst hbehind

/-- The rules that copy the fields of some names. -/
def copyRules (names : List String) : List Rule := names.map fun name => .copy (pathOf name)

section

variable {names : List String} (hnames : ∀ name ∈ names, name ≠ "" ∧ '.' ∉ name.toList)

include hnames

theorem plain_copyRules : ∀ rule ∈ copyRules names, rule.Plain := by
  intro rule hrule
  obtain ⟨name, hname, rfl⟩ := List.mem_map.1 hrule
  exact .copy (isPath_of_dot_not_mem (hnames name hname).1 (hnames name hname).2)

theorem dest?_copy {name : String} (hname : name ∈ names) :
    (Rule.copy (pathOf name)).dest? = some name := by
  show some ((segmentsOf name).getLastD name) = some name
  rw [segmentsOf_of_dot_not_mem (hnames name hname).2]
  rfl

theorem oneOrigin_copyRules : OneOrigin (copyRules names) := by
  intro a ha b hb hab
  obtain ⟨name, hname, rfl⟩ := List.mem_map.1 ha
  obtain ⟨other, hother, rfl⟩ := List.mem_map.1 hb
  rw [dest?_copy hnames hname, dest?_copy hnames hother] at hab
  cases hab
  rfl

/-- Behind the rules themselves, each of them starts at its own field and goes no further. -/
theorem behind?_copy {name : String} (hname : name ∈ names) :
    (Rule.copy (pathOf name)).behind? (copyRules names) = some (.relabel (pathOf name) name) := by
  have hdest := dest?_copy hnames hname
  have hsegments : (pathOf name).segments = [name] :=
    segmentsOf_of_dot_not_mem (hnames name hname).2
  have horigin : originOf? (copyRules names) name = some (pathOf name) :=
    originOf?_of_mem (oneOrigin_copyRules hnames) (List.mem_map_of_mem hname) hdest
  simp only [Rule.behind?, Rule.source?, hdest, hsegments, horigin, Option.map_some,
    SourcePath.extend]

theorem copiedFields_copyRules (source : Value) :
    copiedFields (copyRules names) (.object (copiedFields (copyRules names) source)) =
      copiedFields (copyRules names) source := by
  have hplain := plain_copyRules hnames
  have hrule : ∀ rule ∈ copyRules names,
      rule.copied? (.object (copiedFields (copyRules names) source)) =
        (some rule).bind (Rule.copied? source) := by
    intro rule hmem
    rw [copied?_behind hplain (oneOrigin_copyRules hnames) (hplain rule hmem)]
    obtain ⟨name, hname, rfl⟩ := List.mem_map.1 hmem
    rw [behind?_copy hnames hname, Option.bind_some, Option.bind_some, Rule.copied?, Rule.copied?,
      dest?_copy hnames hname]
    rfl
  rw [copiedFields_filterMap hrule, List.filterMap_some]

end

/-- **Two plain mappers are one.**  Mapping a document by a plain mapper whose rules all write
fields of their own, and what comes of it by another plain mapper, succeeds and is mapping it by the
fused mapper, which is plain again.  So a field that the second mapper reads only from fields which
the first one drops stays away; and mapping by the names of fields a second time changes nothing. -/
theorem map_fuse {first second : Mapper} (hfirst : ∀ rule ∈ first.rules, rule.Plain)
    (hsecond : ∀ rule ∈ second.rules, rule.Plain)
    (hdistinct : (first.rules.map Rule.dest?).Nodup) :
    (∀ rule ∈ (first.fuse second).rules, rule.Plain) ∧
    (∀ input options, ∃ mid out, first.map input options = .ok mid ∧
      second.map mid options = .ok out ∧ (first.fuse second).map input options = .ok out) ∧
    (∀ key, (∀ rule ∈ second.rules, rule.dest? = some key → ∀ q, rule.source? = some q →
        ∀ other ∈ first.rules, other.dest? ≠ q.segments.head?) →
      ∀ input options mid out, first.map input options = .ok mid →
        second.map mid options = .ok out → Lacks key out) ∧
    ∀ names : List String, (∀ name ∈ names, name ≠ "" ∧ '.' ∉ name.toList) →
      ∀ input options, ∃ out, (Mapper.mk (copyRules names)).map input options = .ok out ∧
        (Mapper.mk (copyRules names)).map out options = .ok out := by
  have hplain := plain_fuse hfirst hsecond
  have hcopied := copied_copied (copiedFields_fuse hfirst hsecond hdistinct)
  refine ⟨hplain, ?_, ?_, ?_⟩
  · intro input options
    refine ⟨_, _, map_of_plain hfirst input options, map_of_plain hsecond _ options, ?_⟩
    rw [hcopied]
    exact map_of_plain hplain input options
  · intro key hkey input options mid out hmid hout
    cases (map_of_plain hfirst input options).symm.trans hmid
    cases (map_of_plain hsecond _ options).symm.trans hout
    rw [hcopied]
    refine lacks_copied hplain (fun fused hfused hdest => ?_) input
    obtain ⟨rule, hrule, hbehind⟩ := List.mem_filterMap.1 hfused
    obtain ⟨q, dest, segment, rest, p, hq, hdest', hsegments, hp, rfl⟩ := behind?_eq_some hbehind
    obtain ⟨other, hother, hsegment, -⟩ := exists_rule_of_origin hp
    refine hkey rule hrule (hdest'.trans hdest) q hq other hother ?_
    rw [hsegments]
    exact hsegment
  · intro names hnames input options
    have hnamed := plain_copyRules hnames
    refine ⟨_, map_of_plain hnamed input options, ?_⟩
    rw [map_of_plain hnamed, copied_copied (copiedFields_copyRules hnames)]

/-- A mapper that flattens a profile; no path leads to its last field, whose name has a dot. -/
def profileMapper : Mapper :=
  ⟨[.relabel (pathOf "user.tags") "tags", .copy (pathOf "user.name"),
    .relabel (pathOf "user.age") "in.years"]⟩

/-- A mapper behind it, with rules that collide and rules that find nothing. -/
def badgeMapper : Mapper :=
  ⟨[.relabel (pathOf "name") "label", .relabel (pathOf "tags.1") "label",
    .relabel (pathOf "in.years") "age", .copy (pathOf "user"), .copy (pathOf "tags")]⟩

/-- The rules of the two in one. -/
def profileBadgeRules : List Rule :=
  [.relabel (pathOf "user.name") "label", .relabel (pathOf "user.tags.1") "label",
    .relabel (pathOf "user.tags") "tags"]

/-- A document with a user who has a single tag, and an array without any user. -/
def profileDocument : Value :=
  .array [.null, .object [("user", .object [("age", .nat 36), ("name", .string "Ada"),
    ("tags", .array [.string "x"])])], .array [.nat 1]]

theorem map_fuse_profile :
    (profileMapper.fuse badgeMapper).rules = profileBadgeRules ∧
      ∃ mid, profileMapper.map profileDocument .empty = .ok mid ∧
        badgeMapper.map mid .empty = .ok (.array [.null,
          .object [("label", .string "Ada"), ("tags", .array [.string "x"])], .object []]) := by
  have hpath : ∀ raw ∈ ["user.tags", "user.name", "user.age", "name", "tags.1", "in.years", "user",
      "tags"], IsPath raw := by
    unfold IsPath segmentsOf
    decide
  have hfirst : ∀ rule ∈ profileMapper.rules, rule.Plain := by
    simp only [profileMapper, List.forall_mem_cons]
    exact ⟨.relabel (hpath _ (by simp)), .copy (hpath _ (by simp)), .relabel (hpath _ (by simp)),
      nofun⟩
  have hsecond : ∀ rule ∈ badgeMapper.rules, rule.Plain := by
    simp only [badgeMapper, List.forall_mem_cons]
    exact ⟨.relabel (hpath _ (by simp)), .relabel (hpath _ (by simp)), .relabel (hpath _ (by simp)),
      .copy (hpath _ (by simp)), .copy (hpath _ (by simp)), nofun⟩
  have hdistinct : (profileMapper.rules.map Rule.dest?).Nodup := by
    show [some "tags", some "name", some "in.years"].Nodup
    decide
  have hfused : (profileMapper.fuse badgeMapper).map profileDocument .empty = .ok (.array [.null,
      .object [("label", .string "Ada"), ("tags", .array [.string "x"])], .object []]) := rfl
  obtain ⟨mid, out, hmid, hout, hboth⟩ :=
    (map_fuse hfirst hsecond hdistinct).2.1 profileDocument .empty
  cases hboth.symm.trans hfused
  exact ⟨rfl, mid, hmid, hout⟩

end Reshape
