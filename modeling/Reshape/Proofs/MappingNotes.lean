import Reshape.Proofs.Callbacks
import Reshape.Proofs.Verdict

/-!
# Notes of mappings

A mapping notes the field rules that it passes over because their paths lead nowhere.  Field rules
read the source alone, so what is to be noted depends neither on the callbacks nor on the options;
a failure only ends the mapping before all of it is noted:

* **`Rule.skips`**, **`fieldSkips`**, **`Mapper.skips`** — what is noted for a source and for a
  document if nothing fails;
* **`Act`** — a note or a call of a callback;
* **`Rule.acts`**, **`fieldActs`**, **`Mapper.acts`** — notes and calls in the order in which they
  are made;
* **`Traced.Follows`** — a computation that notes what comes before the first call that fails, and
  fails with this call;
* **`Interleaved`** — acts that are given notes and given calls, each of the two in its order;
* **`Event.Names`** — a note that names a kind of rules, a path and a destination.

A mapping follows its acts (**`run_follows`**), and these are what is to be noted and the calls that
are made (**`acts_interleaved`**).  The main statement is **`run_notes`**.
-/

namespace Reshape

open Json

/-! ### What is to be noted -/

/-- The sources in a document: the items of an array, and any other value by itself, without
`null`. -/
def sourcesOf : Value → List Value
  | .array items => items.filter fun item => !item.isNull
  | .null => []
  | v => [v]

mutual

/-- What is noted for a field rule: that it is passed over if its path leads nowhere, and what its
nested rules note on the value at its path if it has any. -/
def Rule.skips (source : Value) (rule : Rule) : List Event :=
  match rule with
  | .copy p => if (p.resolve source).isSome then [] else [.skippedCopy p.raw]
  | .relabel p dest => if (p.resolve source).isSome then [] else [.skippedAlias p.raw dest]
  | .call p dest _ _ => if (p.resolve source).isSome then [] else [.skippedTransform p.raw dest]
  | .nest p dest rules =>
    match p.resolve source with
    | some v => (sourcesOf v).flatMap fun s => fieldSkips s rules
    | none => [.skippedTransform p.raw dest]
  | .hook _ => []
termination_by structural rule

/-- What is noted for the field rules of a list, in their order. -/
def fieldSkips (source : Value) (rules : List Rule) : List Event :=
  match rules with
  | [] => []
  | rule :: rest => rule.skips source ++ fieldSkips source rest
termination_by structural rules

end

/-- What a mapper notes on a document, source by source, if nothing fails. -/
def Mapper.skips (m : Mapper) (input : Value) : List Event :=
  (sourcesOf input).flatMap fun s => fieldSkips s m.rules

theorem sourcesOf_of_null (rest : List Value) :
    sourcesOf (.array (.null :: rest)) = sourcesOf (.array rest) := rfl

theorem sourcesOf_of_ne {item : Value} (h : item ≠ .null) (rest : List Value) :
    sourcesOf (.array (item :: rest)) = item :: sourcesOf (.array rest) := by
  have hkeep : (!item.isNull) = true := by
    rw [Bool.not_eq_true', Bool.eq_false_iff]
    exact fun hnull => h (isNull_iff.1 hnull)
  simp only [sourcesOf, List.filter_cons, if_pos hkeep]

/-! ### Acts -/

/-- What a mapping does: it makes a note, or calls a callback. -/
inductive Act where
  | note (e : Event)
  | call (c : Call)

namespace Act

/-- The note that is made. -/
def event? : Act → Option Event
  | note e => some e
  | call _ => none

/-- The call that is made. -/
def call? : Act → Option Call
  | note _ => none
  | call c => some c

/-- The error of a call that fails. -/
def failure? (options : Options) : Act → Option Error
  | note _ => none
  | call c => c.failure? options

end Act

mutual

/-- What is done for a field rule.  Nested rules call their hooks behind their own field rules. -/
def Rule.acts (options : Options) (source : Value) (rule : Rule) : List Act :=
  match rule with
  | .copy p => if (p.resolve source).isSome then [] else [.note (.skippedCopy p.raw)]
  | .relabel p dest =>
    if (p.resolve source).isSome then [] else [.note (.skippedAlias p.raw dest)]
  | .call p dest _ transform =>
    match p.resolve source with
    | some v => [.call (.transform transform source v)]
    | none => [.note (.skippedTransform p.raw dest)]
  | .nest p dest rules =>
    match p.resolve source with
    | some v => (sourcesOf v).flatMap fun s =>
        fieldActs options s rules ++ (finishingCalls options s rules).map .call
    | none => [.note (.skippedTransform p.raw dest)]
  | .hook _ => []
termination_by structural rule

/-- What is done for the field rules of a list, in their order. -/
def fieldActs (options : Options) (source : Value) (rules : List Rule) : List Act :=
  match rules with
  | [] => []
  | rule :: rest => rule.acts options source ++ fieldActs options source rest
termination_by structural rules

end

/-- What is done for one source: first for the field rules, then for the hooks. -/
def sourceActs (options : Options) (rules : List Rule) (source : Value) : List Act :=
  fieldActs options source rules ++ (finishingCalls options source rules).map .call

/-- What is done for a document, source by source. -/
def Mapper.acts (m : Mapper) (options : Options) (input : Value) : List Act :=
  (sourcesOf input).flatMap (sourceActs options m.rules)

/-! ### Computations that follow acts -/

/-- The acts before the first one that fails. -/
def actsTaken (options : Options) (acts : List Act) : List Act :=
  acts.takeWhile fun act => (act.failure? options).isNone

/-- The computation fails with the first act that fails, and notes what is noted before it. -/
structure Traced.Follows {α : Type} (t : Traced α) (options : Options) (acts : List Act) : Prop
    where
  failure : failure? t.result = acts.findSome? (Act.failure? options)
  events : t.events = (actsTaken options acts).filterMap Act.event?

section

variable {options : Options}

/-- Acts of which none fails are all taken, and then those behind them. -/
theorem actsTaken_append_of_none {acts : List Act}
    (h : acts.findSome? (Act.failure? options) = none) (more : List Act) :
    actsTaken options (acts ++ more) = acts ++ actsTaken options more := by
  refine List.takeWhile_append_of_pos fun act hact => ?_
  rw [List.findSome?_eq_none_iff.1 h act hact]
  rfl

theorem actsTaken_of_none {acts : List Act}
    (h : acts.findSome? (Act.failure? options) = none) : actsTaken options acts = acts := by
  have htaken := actsTaken_append_of_none h []
  have hnil : actsTaken options [] = [] := rfl
  rwa [hnil, List.append_nil] at htaken

theorem actsTaken_of_some {before after : List Act} {act : Act} {e : Error}
    (h : act.failure? options = some e) (hbefore : ∀ a ∈ before, a.failure? options = none) :
    actsTaken options (before ++ act :: after) = before := by
  rw [actsTaken_append_of_none (List.findSome?_eq_none_iff.2 hbefore), actsTaken,
    List.takeWhile_cons_of_neg (by simp [h]), List.append_nil]

/-- Behind an act that fails nothing is done. -/
theorem actsTaken_append_of_some {acts : List Act} {e : Error}
    (h : acts.findSome? (Act.failure? options) = some e) (more : List Act) :
    actsTaken options (acts ++ more) = actsTaken options acts := by
  obtain ⟨before, act, after, rfl, hact, hbefore⟩ := List.findSome?_eq_some_iff.1 h
  rw [List.append_assoc, List.cons_append, actsTaken_of_some hact hbefore,
    actsTaken_of_some hact hbefore]

namespace Traced.Follows

variable {α β : Type}

theorem ok (a : α) : (Traced.ok a).Follows options [] := ⟨rfl, rfl⟩

theorem note (e : Event) : (Traced.note e).Follows options [.note e] := ⟨rfl, rfl⟩

/-- A result without notes follows calls that fail as it does. -/
theorem lift {x : Except Error α} {calls : List Call}
    (h : failure? x = calls.findSome? (Call.failure? options)) :
    (Traced.lift x).Follows options (calls.map .call) where
  failure := by
    rw [List.findSome?_map]
    exact h
  events := by
    refine (List.filterMap_eq_nil_iff.2 fun act hact => ?_).symm
    obtain ⟨call, -, rfl⟩ := List.mem_map.1 ((List.takeWhile_sublist _).subset hact)
    rfl

/-- **A computation that goes on follows the acts of both parts.** -/
theorem andThen {t : Traced α} {f : α → Traced β} {acts more : List Act}
    (ht : t.Follows options acts) (hf : ∀ a, t.result = .ok a → (f a).Follows options more) :
    (t.andThen f).Follows options (acts ++ more) := by
  cases hresult : t.result with
  | error e =>
    -- The acts of the second part are behind the one that fails.
    have hfails : acts.findSome? (Act.failure? options) = some e := by
      rw [← ht.failure, hresult]
      rfl
    constructor
    · rw [List.findSome?_append, hfails, Traced.result_andThen, hresult]
      rfl
    · rw [actsTaken_append_of_some hfails, ← ht.events, Traced.events_andThen_of_error hresult]
  | ok a =>
    have hnone : acts.findSome? (Act.failure? options) = none := by
      rw [← ht.failure, hresult]
      rfl
    constructor
    · rw [List.findSome?_append, hnone, Traced.result_andThen, hresult]
      exact (hf a hresult).failure
    · rw [actsTaken_append_of_none hnone, List.filterMap_append, ← (hf a hresult).events,
        Traced.events_andThen_of_ok hresult, ht.events, actsTaken_of_none hnone]

/-- What is only reshaped follows the same acts. -/
theorem andThen_ok {t : Traced α} {acts : List Act} (ht : t.Follows options acts)
    (f : α → β) : (t.andThen fun a => .ok (f a)).Follows options acts := by
  rw [← List.append_nil acts]
  exact ht.andThen fun a _ => ok (f a)

/-- The items of a document are followed source by source: `null` takes no act. -/
theorem forItems {build : Value → Traced Fields} {acts : Value → List Act}
    (h : ∀ s, (build s).Follows options (acts s)) (items : List Value) :
    (Traced.forItems (dispatchOne build) items).Follows options
      ((sourcesOf (.array items)).flatMap acts) := by
  induction items with
  | nil => exact ok []
  | cons item rest ih =>
    rw [Traced.forItems_cons]
    by_cases hitem : item = .null
    · subst hitem
      rw [dispatchOne_null, Traced.ok_andThen, sourcesOf_of_null]
      exact ih.andThen_ok _
    · rw [dispatchOne_of_ne hitem, sourcesOf_of_ne hitem, List.flatMap_cons]
      exact ((h item).andThen_ok _).andThen fun b _ => ih.andThen_ok _

/-- **A document is followed source by source.** -/
theorem dispatch {build : Value → Traced Fields} {acts : Value → List Act}
    (h : ∀ s, (build s).Follows options (acts s)) (v : Value) :
    (Reshape.dispatch build v).Follows options ((sourcesOf v).flatMap acts) := by
  -- A value that is neither an array nor `null` is the only source.
  have hsource := (h v).andThen_ok Value.object
  rw [← List.flatMap_singleton acts v] at hsource
  cases v with
  | array items => exact (forItems h items).andThen_ok _
  | null => exact ok _
  | _ => exact hsource

end Traced.Follows

/-! ### Mappings -/

/-- The rules of a list are followed if each of them is. -/
theorem writeFields_follows {rules : List Rule} {source : Value}
    (h : ∀ rule ∈ rules, (rule.contribution options source).Follows options
      (rule.acts options source)) (d : Fields) :
    (writeFields options source rules d).Follows options (fieldActs options source rules) := by
  induction rules generalizing d with
  | nil =>
    rw [writeFields_nil, fieldActs]
    exact .ok d
  | cons rule rest ih =>
    rw [writeFields_cons, fieldActs]
    refine (h rule List.mem_cons_self).andThen fun c _ => ?_
    exact ih (fun r hr => h r (List.mem_cons_of_mem rule hr)) (writeField d c)

theorem run_follows_of_rules {rules : List Rule}
    (h : ∀ rule ∈ rules, ∀ source, (rule.contribution options source).Follows options
      (rule.acts options source)) (v : Value) :
    ((Mapper.mk rules).run v options).Follows options ((Mapper.mk rules).acts options v) := by
  refine Traced.Follows.dispatch (fun s => ?_) v
  refine (writeFields_follows (fun rule hrule => h rule hrule s) []).andThen fun d hd => ?_
  exact .lift (failure?_runHooks hd)

/-- **A field rule is followed.** -/
theorem contribution_follows (rule : Rule) (source : Value) :
    (rule.contribution options source).Follows options (rule.acts options source) := by
  -- The source is general: nested rules are asked about the sources in the value at their path.
  induction rule using rule_induction generalizing source with
  | step rule ih =>
  cases rule with
  | copy p =>
    rw [Rule.contribution, Rule.acts]
    cases p.resolve source with
    | none => exact (Traced.Follows.note _).andThen_ok _
    | some v => exact .ok _
  | relabel p dest =>
    rw [Rule.contribution, Rule.acts]
    cases p.resolve source with
    | none => exact (Traced.Follows.note _).andThen_ok _
    | some v => exact .ok _
  | call p dest name transform =>
    rw [Rule.contribution, Rule.acts]
    cases p.resolve source with
    | none => exact (Traced.Follows.note _).andThen_ok _
    | some v =>
      have hcall : (Traced.lift (transform source v options)).Follows options
          ([Call.transform transform source v].map .call) := by
        refine .lift ?_
        rw [List.findSome?_singleton, Call.failure?]
      exact hcall.andThen_ok _
  | nest p dest rules =>
    cases hv : p.resolve source with
    | none =>
      simp only [Rule.contribution, Rule.acts, hv]
      exact (Traced.Follows.note _).andThen_ok _
    | some v =>
      rw [contribution_nest options source p dest rules hv]
      simp only [Rule.acts, hv]
      have hrules := run_follows_of_rules (fun inner hinner => ih p dest rules rfl inner hinner) v
      exact hrules.andThen_ok _
  | hook run =>
    rw [Rule.contribution, Rule.acts]
    exact .ok _

/-- **A mapping follows its acts.** -/
theorem run_follows (m : Mapper) (options : Options) (input : Value) :
    (m.run input options).Follows options (m.acts options input) :=
  run_follows_of_rules (fun rule _ => contribution_follows rule) input

end

/-! ### Notes and calls put together -/

/-- The acts are these notes and these calls, each of the two in its order. -/
structure Interleaved (acts : List Act) (events : List Event) (calls : List Call) : Prop where
  events : acts.filterMap Act.event? = events
  calls : acts.filterMap Act.call? = calls

namespace Interleaved

theorem nil : Interleaved [] [] [] := ⟨rfl, rfl⟩

theorem note (e : Event) : Interleaved [.note e] [e] [] := ⟨rfl, rfl⟩

theorem call (c : Call) : Interleaved [.call c] [] [c] := ⟨rfl, rfl⟩

theorem append {acts more : List Act} {events laterEvents : List Event}
    {calls laterCalls : List Call} (h : Interleaved acts events calls)
    (hmore : Interleaved more laterEvents laterCalls) :
    Interleaved (acts ++ more) (events ++ laterEvents) (calls ++ laterCalls) where
  events := by rw [List.filterMap_append, h.events, hmore.events]
  calls := by rw [List.filterMap_append, h.calls, hmore.calls]

theorem ofCalls (calls : List Call) : Interleaved (calls.map .call) [] calls := by
  induction calls with
  | nil => exact nil
  | cons c rest ih => exact (call c).append ih

theorem flatMap {acts : Value → List Act} {events : Value → List Event}
    {calls : Value → List Call} (h : ∀ s, Interleaved (acts s) (events s) (calls s))
    (sources : List Value) :
    Interleaved (sources.flatMap acts) (sources.flatMap events) (sources.flatMap calls) := by
  induction sources with
  | nil => exact nil
  | cons s rest ih => exact (h s).append ih

end Interleaved

/-- The calls for a document are those for its sources. -/
theorem documentCalls_eq (calls : Value → List Call) (v : Value) :
    documentCalls calls v = (sourcesOf v).flatMap calls := by
  have hsource : ∀ s, s ≠ .null → sourceCalls calls s = calls s :=
    fun s hs => if_neg fun hnull => hs (isNull_iff.1 hnull)
  cases v with
  | array items =>
    show items.flatMap (sourceCalls calls) = _
    induction items with
    | nil => rfl
    | cons item rest ih =>
      rw [List.flatMap_cons, ih]
      by_cases hitem : item = .null
      · subst hitem
        rfl
      · rw [hsource item hitem, sourcesOf_of_ne hitem, List.flatMap_cons]
  | null => rfl
  | _ => exact (List.flatMap_singleton _ _).symm

theorem fieldActs_interleaved {options : Options} {rules : List Rule} {source : Value}
    (h : ∀ rule ∈ rules,
      Interleaved (rule.acts options source) (rule.skips source) (rule.calls options source)) :
    Interleaved (fieldActs options source rules) (fieldSkips source rules)
      (fieldCalls options source rules) := by
  induction rules with
  | nil =>
    rw [fieldActs, fieldSkips, fieldCalls]
    exact .nil
  | cons rule rest ih =>
    rw [fieldActs, fieldSkips, fieldCalls]
    exact (h rule List.mem_cons_self).append (ih fun r hr => h r (List.mem_cons_of_mem rule hr))

theorem acts_interleaved_of_rules {options : Options} {rules : List Rule}
    (h : ∀ rule ∈ rules, ∀ source,
      Interleaved (rule.acts options source) (rule.skips source) (rule.calls options source))
    (v : Value) :
    Interleaved ((Mapper.mk rules).acts options v) ((Mapper.mk rules).skips v)
      ((Mapper.mk rules).calls options v) := by
  rw [Mapper.calls, documentCalls_eq]
  refine Interleaved.flatMap (fun s => ?_) (sourcesOf v)
  -- Hooks only add calls behind what the field rules do.
  have hsource := (fieldActs_interleaved fun rule hrule => h rule hrule s).append
    (.ofCalls (finishingCalls options s rules))
  rwa [List.append_nil] at hsource

theorem rule_acts_interleaved (options : Options) (rule : Rule) (source : Value) :
    Interleaved (rule.acts options source) (rule.skips source) (rule.calls options source) := by
  induction rule using rule_induction generalizing source with
  | step rule ih =>
  cases rule with
  | copy p =>
    rw [Rule.acts, Rule.skips, Rule.calls]
    cases p.resolve source with
    | none => exact .note _
    | some v => exact .nil
  | relabel p dest =>
    rw [Rule.acts, Rule.skips, Rule.calls]
    cases p.resolve source with
    | none => exact .note _
    | some v => exact .nil
  | call p dest name transform =>
    rw [Rule.acts, Rule.skips, Rule.calls]
    cases p.resolve source with
    | none => exact .note _
    | some v => exact .call _
  | nest p dest rules =>
    rw [Rule.acts, Rule.skips, Rule.calls]
    cases p.resolve source with
    | none => exact .note _
    | some v =>
      exact acts_interleaved_of_rules (fun inner hinner => ih p dest rules rfl inner hinner) v
  | hook run =>
    rw [Rule.acts, Rule.skips, Rule.calls]
    exact .nil

/-- **The acts of a mapping are its notes and its calls.** -/
theorem acts_interleaved (m : Mapper) (options : Options) (input : Value) :
    Interleaved (m.acts options input) (m.skips input) (m.calls options input) :=
  acts_interleaved_of_rules (fun rule _ => rule_acts_interleaved options rule) input

/-! ### The wording of notes -/

/-- The note names a kind of rules, a path and a destination. -/
structure Event.Names (e : Event) (kind : RuleKind) (path dest : String) : Prop where
  level : e.level = .trace
  kind : OccursIn kind.name e.text
  path : OccursIn path e.text
  dest : OccursIn dest e.text

/-- The last segment of a text stands in the text. -/
theorem occursIn_terminal (raw : String) : OccursIn (pathOf raw).terminal raw := by
  obtain h | ⟨lead, h⟩ := eq_terminal_or_append raw
  · exact ⟨"", "", by rw [String.empty_append, String.append_empty, ← h]⟩
  · exact ⟨lead ++ ".", "", by rw [String.append_empty, ← h]⟩

theorem names_skippedCopy (raw : String) :
    (Event.skippedCopy raw).Names .copy raw (pathOf raw).terminal := by
  refine ⟨rfl, ?_, ((OccursIn.self raw).append_left _).append_right _, ?_⟩
  · have hkind : OccursIn "copy" "Skipping copy of '" := ⟨"Skipping ", " of '", rfl⟩
    exact (hkind.append_right _).append_right _
  · -- The destination of a copy stands at the end of its path.
    exact ((occursIn_terminal raw).append_left _).append_right _

/-- The wording of a note with a path and a destination behind its beginning. -/
theorem occursIn_skipText {part lead : String} (h : OccursIn part lead) (path dest : String) :
    OccursIn part (lead ++ path ++ "' -> '" ++ dest ++ "': absent in source") ∧
    OccursIn path (lead ++ path ++ "' -> '" ++ dest ++ "': absent in source") ∧
    OccursIn dest (lead ++ path ++ "' -> '" ++ dest ++ "': absent in source") := by
  refine ⟨?_, ?_, ((OccursIn.self dest).append_left _).append_right _⟩
  · exact (((h.append_right _).append_right _).append_right _).append_right _
  · exact ((((OccursIn.self path).append_left _).append_right _).append_right _).append_right _

theorem names_skippedAlias (raw dest : String) :
    (Event.skippedAlias raw dest).Names .relabel raw dest := by
  have hkind : OccursIn "alias" "Skipping alias '" := ⟨"Skipping ", " '", rfl⟩
  obtain ⟨htext, hraw, hdest⟩ := occursIn_skipText hkind raw dest
  exact ⟨rfl, htext, hraw, hdest⟩

theorem names_skippedTransform (raw dest : String) :
    (Event.skippedTransform raw dest).Names .transform raw dest := by
  have hkind : OccursIn "transform" "Skipping transform '" := ⟨"Skipping ", " '", rfl⟩
  obtain ⟨htext, hraw, hdest⟩ := occursIn_skipText hkind raw dest
  exact ⟨rfl, htext, hraw, hdest⟩

/-- **A rule whose path leads nowhere is noted once,** with its kind, its path and its
destination. -/
theorem skips_of_absent {rule : Rule} {p : SourcePath} {source : Value}
    (hp : rule.source? = some p) (hparse : SourcePath.parse p.raw = .ok p)
    (habsent : p.resolve source = none) :
    ∃ e dest, rule.skips source = [e] ∧ rule.dest? = some dest ∧
      e.Names rule.kind p.raw dest := by
  cases rule with
  | copy q =>
    cases hp
    have hcopy := names_skippedCopy p.raw
    rw [← (SourcePath.parse_ok.1 hparse).2] at hcopy
    exact ⟨_, _, by simp [Rule.skips, habsent], rfl, hcopy⟩
  | relabel q dest =>
    cases hp
    exact ⟨_, _, by simp [Rule.skips, habsent], rfl, names_skippedAlias p.raw dest⟩
  | call q dest name transform =>
    cases hp
    exact ⟨_, _, by simp [Rule.skips, habsent], rfl, names_skippedTransform p.raw dest⟩
  | nest q dest rules =>
    cases hp
    exact ⟨_, _, by simp [Rule.skips, habsent], rfl, names_skippedTransform p.raw dest⟩
  | hook run => cases hp

/-- Nested rules note what a mapper of their own does. -/
theorem skips_nest {p : SourcePath} {source v : Value} (hv : p.resolve source = some v)
    (dest : String) (rules : List Rule) :
    (Rule.nest p dest rules).skips source = (Mapper.mk rules).skips v := by
  simp only [Rule.skips, hv, Mapper.skips]

/-- **A mapping notes every rule that it passes over, once and in order.**  If it succeeds, its
notes are all those to be made for the document.  If it fails, then with the first call that fails
among its notes and calls, and of the notes to be made it has those before this call.  What is to be
noted of a rule whose path leads nowhere is one note, with the kind, the path and the destination of
the rule; of nested rules at a value, it is what a mapper of these rules notes on the value. -/
theorem run_notes (m : Mapper) (options : Options) (input : Value) :
    (∀ v, (m.run input options).result = .ok v →
      (m.run input options).events = m.skips input) ∧
    (∀ e, (m.run input options).result = .error e → ∃ before call after,
      m.acts options input = before ++ .call call :: after ∧
        call.failure? options = some e ∧ (∀ act ∈ before, act.failure? options = none) ∧
        (m.run input options).events = before.filterMap Act.event? ∧
        (m.run input options).events <+: m.skips input) ∧
    (m.acts options input).filterMap Act.event? = m.skips input ∧
    (m.acts options input).filterMap Act.call? = m.calls options input ∧
    (∀ (rule : Rule) source p, rule.source? = some p → SourcePath.parse p.raw = .ok p →
      p.resolve source = none → ∃ e dest, rule.skips source = [e] ∧ rule.dest? = some dest ∧
        e.Names rule.kind p.raw dest) ∧
    ∀ p dest rules source v, p.resolve source = some v →
      (Rule.nest p dest rules).skips source = (Mapper.mk rules).skips v := by
  have hfollows := run_follows m options input
  have hacts := acts_interleaved m options input
  refine ⟨fun v hv => ?_, fun e he => ?_, hacts.events, hacts.calls,
    fun rule source p hp hparse => skips_of_absent hp hparse,
    fun p dest rules source v hv => skips_nest hv dest rules⟩
  · have hnone : (m.acts options input).findSome? (Act.failure? options) = none := by
      rw [← hfollows.failure, hv]
      rfl
    rw [hfollows.events, actsTaken_of_none hnone, hacts.events]
  · have hsome : (m.acts options input).findSome? (Act.failure? options) = some e := by
      rw [← hfollows.failure, he]
      rfl
    obtain ⟨before, act, after, hsplit, hact, hbefore⟩ := List.findSome?_eq_some_iff.1 hsome
    cases act with
    | note noted => cases hact
    | call call =>
      have hevents : (m.run input options).events = before.filterMap Act.event? := by
        rw [hfollows.events, hsplit, actsTaken_of_some hact hbefore]
      refine ⟨before, call, after, hsplit, hact, hbefore, hevents, ?_⟩
      rw [hevents, ← hacts.events, hsplit, List.filterMap_append]
      exact List.prefix_append _ _

/-- A copy, lines with rules of their own of which one may fail, and an alias that stands behind a
hook. -/
def notingMapper : Mapper :=
  ⟨[.copy (pathOf "buyer.id"),
    .nest (pathOf "lines") "lines"
      [.relabel (pathOf "sku") "code", .call (pathOf "count") "count" none refuseText],
    .hook fun _ d _ => .ok d, .relabel (pathOf "note") "remark"]⟩

/-- A document without a buyer, some of whose lines have no item or no count. -/
def notedDocument : Value :=
  .object [("lines", .array [.object [("count", .nat 1)], .null, .object [("sku", .nat 2)]])]

/-- The same with a text among the counts. -/
def stoppedDocument : Value :=
  .object [("lines", .array [.object [("count", .nat 1)], .null,
    .object [("count", .string "few")], .object []])]

theorem run_notes_lines :
    (notingMapper.run notedDocument .empty).events =
      [.skippedCopy "buyer.id", .skippedAlias "sku" "code", .skippedTransform "count" "count",
        .skippedAlias "note" "remark"] ∧
    (notingMapper.run stoppedDocument .empty).events =
      [.skippedCopy "buyer.id", .skippedAlias "sku" "code", .skippedAlias "sku" "code"] ∧
    (∃ before call after,
      notingMapper.acts .empty stoppedDocument = before ++ .call call :: after ∧
        call.failure? .empty = some (.callback "few")) ∧
    ∃ e dest, (Rule.copy (pathOf "buyer.id")).skips notedDocument = [e] ∧ some "id" = some dest ∧
      e.Names .copy "buyer.id" dest := by
  have hnoted := (run_notes notingMapper .empty notedDocument).1 _ rfl
  obtain ⟨before, call, after, hacts, hcall, -⟩ :=
    (run_notes notingMapper .empty stoppedDocument).2.1 (.callback "few") rfl
  have hcopy := (run_notes notingMapper .empty notedDocument).2.2.2.2.1
    (.copy (pathOf "buyer.id")) notedDocument (pathOf "buyer.id") rfl rfl rfl
  exact ⟨hnoted, rfl, ⟨before, call, after, hacts, hcall⟩, hcopy⟩

end Reshape
