import Reshape.Proofs.Keyed
import Reshape.Proofs.Mapping
import Reshape.Proofs.Path

/-!
# The last writer wins

The field rules of a mapper write one destination in turn, and a rule whose path leads nowhere
writes nothing.  So each key ends up with what the last of the rules that write it has for the
source, whatever stands before, between and behind:

* **`Rule.Writes`**, **`LastWriter`** — a rule that writes a key, and the last one of a list;
* **`WrittenLast`** — the destination that holds, under each key that is written at all, what its
  last writer has for the source;
* **`writtenLast_of_writeFields`** — the destination of the field rules is that one.

The main statement is **`runObject_last_writer`**: the object made of a source is this destination
as the hooks, one after the other, leave it.
-/

namespace Reshape

open Json

/-- The rule writes the key: it is a field rule for it, and its path leads somewhere. -/
def Rule.Writes (source : Value) (key : String) (rule : Rule) : Prop :=
  rule.dest? = some key ∧ ∃ p v, rule.source? = some p ∧ p.resolve source = some v

/-- The rule is the last one of the list that writes the key. -/
def LastWriter (source : Value) (rules : List Rule) (key : String) (rule : Rule) : Prop :=
  ∃ before after, rules = before ++ rule :: after ∧ rule.Writes source key ∧
    ∀ later ∈ after, ¬ later.Writes source key

/-- The destination has exactly the keys that some rule writes, each with the value that its last
writer has for the source. -/
structure WrittenLast (options : Options) (source : Value) (rules : List Rule) (d : Fields) :
    Prop where
  sorted : Keyed.Sorted d
  present : ∀ key, key ∈ Keyed.keys d ↔ ∃ rule ∈ rules, rule.Writes source key
  value : ∀ key rule, LastWriter source rules key rule →
    ∃ v, rule.outcome? options source = some (.ok v) ∧ Keyed.get? key d = some v

/-! ### Last writers -/

theorem exists_lastWriter {source : Value} {rules : List Rule} {key : String}
    (h : ∃ rule ∈ rules, rule.Writes source key) : ∃ rule, LastWriter source rules key rule := by
  induction rules with
  | nil =>
    obtain ⟨rule, hrule, -⟩ := h
    cases hrule
  | cons first rest ih =>
    by_cases hrest : ∃ rule ∈ rest, rule.Writes source key
    · obtain ⟨rule, before, after, rfl, hwrites, hlast⟩ := ih hrest
      exact ⟨rule, first :: before, after, rfl, hwrites, hlast⟩
    · obtain ⟨rule, hrule, hwrites⟩ := h
      rcases List.mem_cons.1 hrule with rfl | hmem
      · exact ⟨rule, [], rest, rfl, hwrites, fun later hlater hw => hrest ⟨later, hlater, hw⟩⟩
      · exact absurd ⟨rule, hmem, hwrites⟩ hrest

/-- A rule writes a key exactly when it has an outcome for it. -/
theorem writes_iff (options : Options) {source : Value} {key : String} {rule : Rule} :
    rule.Writes source key ↔
      rule.dest? = some key ∧ ∃ outcome, rule.outcome? options source = some outcome := by
  unfold Rule.Writes
  refine and_congr_right fun _ => ?_
  cases rule with
  | hook run => simp [Rule.source?, Rule.outcome?]
  | copy p => cases h : p.resolve source <;> simp [Rule.source?, Rule.outcome?, h]
  | relabel p _ => cases h : p.resolve source <;> simp [Rule.source?, Rule.outcome?, h]
  | call p _ _ _ => cases h : p.resolve source <;> simp [Rule.source?, Rule.outcome?, h]
  | nest p _ _ => cases h : p.resolve source <;> simp [Rule.source?, Rule.outcome?, h]

/-- **The destination of the last writers is the only one.** -/
theorem WrittenLast.unique {options : Options} {source : Value} {rules : List Rule}
    {d e : Fields} (hd : WrittenLast options source rules d)
    (he : WrittenLast options source rules e) : e = d := by
  refine he.sorted.ext hd.sorted fun key => ?_
  by_cases hwrites : ∃ rule ∈ rules, rule.Writes source key
  · obtain ⟨rule, hlast⟩ := exists_lastWriter hwrites
    obtain ⟨v, hv, hdv⟩ := hd.value key rule hlast
    obtain ⟨w, hw, hew⟩ := he.value key rule hlast
    rw [hv] at hw
    cases hw
    rw [hdv, hew]
  · rw [Keyed.get?_eq_none_of_not_mem fun hmem => hwrites ((hd.present key).1 hmem),
      Keyed.get?_eq_none_of_not_mem fun hmem => hwrites ((he.present key).1 hmem)]

/-! ### One rule -/

section

variable {options : Options} {source : Value}

/-- A rule that writes a key adds its value under it. -/
theorem contribution_of_writes {key : String} {rule : Rule} {c : Option (String × Value)}
    (hwrites : rule.Writes source key) (h : (rule.contribution options source).result = .ok c) :
    ∃ v, rule.outcome? options source = some (.ok v) ∧ c = some (key, v) := by
  obtain ⟨hkey, outcome, houtcome⟩ := (writes_iff options).1 hwrites
  rw [contribution_result, hkey, houtcome] at h
  obtain ⟨v, rfl, rfl⟩ := map_eq_ok.1 h
  exact ⟨v, houtcome, rfl⟩

/-- A rule that does not write a key leaves it as it is. -/
theorem get?_writeField_of_not_writes {key : String} {rule : Rule} {c : Option (String × Value)}
    (hwrites : ¬ rule.Writes source key)
    (h : (rule.contribution options source).result = .ok c) (d : Fields) :
    Keyed.get? key (writeField d c) = Keyed.get? key d := by
  cases c with
  | none => rfl
  | some entry =>
    rcases entry with ⟨other, v⟩
    obtain ⟨hdest, houtcome⟩ := dest?_and_outcome?_of_contribution h
    have hne : key ≠ other := by
      rintro rfl
      exact hwrites ((writes_iff options).2 ⟨hdest, _, houtcome⟩)
    exact Keyed.get?_set_of_ne hne v d

theorem sorted_writeField {d : Fields} (h : Keyed.Sorted d) (c : Option (String × Value)) :
    Keyed.Sorted (writeField d c) := by
  cases c with
  | none => exact h
  | some entry => exact Keyed.sorted_set h

/-! ### Lists of rules -/

theorem writeFields_cons_ok {rule : Rule} {rest : List Rule} {d e : Fields} :
    (writeFields options source (rule :: rest) d).result = .ok e ↔
      ∃ c, (rule.contribution options source).result = .ok c ∧
        (writeFields options source rest (writeField d c)).result = .ok e := by
  rw [writeFields_cons, Traced.andThen_result_ok]

theorem sorted_writeFields {rules : List Rule} {d e : Fields}
    (h : (writeFields options source rules d).result = .ok e) (hd : Keyed.Sorted d) :
    Keyed.Sorted e := by
  induction rules generalizing d with
  | nil =>
    cases h
    exact hd
  | cons rule rest ih =>
    obtain ⟨c, -, hrest⟩ := writeFields_cons_ok.1 h
    exact ih hrest (sorted_writeField hd c)

/-- Rules that do not write a key leave it as it is. -/
theorem get?_writeFields_of_not_writes {key : String} {rules : List Rule} {d e : Fields}
    (hwrites : ∀ rule ∈ rules, ¬ rule.Writes source key)
    (h : (writeFields options source rules d).result = .ok e) :
    Keyed.get? key e = Keyed.get? key d := by
  induction rules generalizing d with
  | nil =>
    cases h
    rfl
  | cons rule rest ih =>
    obtain ⟨c, hc, hrest⟩ := writeFields_cons_ok.1 h
    rw [ih (fun r hr => hwrites r (List.mem_cons_of_mem rule hr)) hrest]
    exact get?_writeField_of_not_writes (hwrites rule List.mem_cons_self) hc d

/-- **The last writer of a key settles its value.** -/
theorem get?_writeFields_of_lastWriter {key : String} {rules : List Rule} {rule : Rule}
    {d e : Fields} (hlast : LastWriter source rules key rule)
    (h : (writeFields options source rules d).result = .ok e) :
    ∃ v, rule.outcome? options source = some (.ok v) ∧ Keyed.get? key e = some v := by
  obtain ⟨before, after, rfl, hwrites, hafter⟩ := hlast
  -- What the rules before it leave does not matter: it writes over that.
  rw [writeFields_append, Traced.andThen_result_ok] at h
  obtain ⟨f, -, hf⟩ := h
  obtain ⟨c, hc, hrest⟩ := writeFields_cons_ok.1 hf
  obtain ⟨v, hv, rfl⟩ := contribution_of_writes hwrites hc
  refine ⟨v, hv, ?_⟩
  rw [get?_writeFields_of_not_writes hafter hrest]
  exact Keyed.get?_set_self key v f

/-- **The field rules write the destination of the last writers.** -/
theorem writtenLast_of_writeFields {rules : List Rule} {d : Fields}
    (h : (writeFields options source rules []).result = .ok d) :
    WrittenLast options source rules d where
  sorted := sorted_writeFields h List.Pairwise.nil
  present := by
    intro key
    rw [← Keyed.exists_get?_iff]
    constructor
    · rintro ⟨v, hv⟩
      by_cases hwrites : ∃ rule ∈ rules, rule.Writes source key
      · exact hwrites
      · rw [get?_writeFields_of_not_writes (fun rule hrule hw => hwrites ⟨rule, hrule, hw⟩) h] at hv
        cases hv
    · intro hwrites
      obtain ⟨rule, hlast⟩ := exists_lastWriter hwrites
      obtain ⟨v, -, hv⟩ := get?_writeFields_of_lastWriter hlast h
      exact ⟨v, hv⟩
  value := fun _ _ hlast => get?_writeFields_of_lastWriter hlast h

/-- A field rule whose path leads nowhere makes no difference to what is written. -/
theorem writeFields_result_of_absent {rule : Rule} {p : SourcePath} (hp : rule.source? = some p)
    (h : p.resolve source = none) (before after : List Rule) (d : Fields) :
    (writeFields options source (before ++ rule :: after) d).result =
      (writeFields options source (before ++ after) d).result := by
  have hnone : (rule.contribution options source).result = .ok none := by
    rw [contribution_result, outcome?_of_absent hp h]
    cases rule.dest? <;> rfl
  rw [writeFields_append, writeFields_append, Traced.result_andThen, Traced.result_andThen]
  congr 1
  funext e
  rw [writeFields_cons, Traced.result_andThen, hnone, ok_bind]
  rfl

theorem runObject_result_of_absent {rule : Rule} {p : SourcePath} (hp : rule.source? = some p)
    (h : p.resolve source = none) (before after : List Rule) :
    ((Mapper.mk (before ++ rule :: after)).runObject source options).result =
      ((Mapper.mk (before ++ after)).runObject source options).result := by
  have hhook : rule.hook? = none := by
    cases rule with
    | hook run => cases hp
    | _ => rfl
  have hhooks : (before ++ rule :: after).filterMap Rule.hook? =
      (before ++ after).filterMap Rule.hook? := by
    rw [List.filterMap_append, List.filterMap_append, List.filterMap_cons_none hhook]
  have hrun : runHooks options source (before ++ rule :: after) =
      runHooks options source (before ++ after) := by
    funext d
    rw [runHooks_eq_foldlM, runHooks_eq_foldlM, hhooks]
  rw [runObject_result, runObject_result, buildObject_result, buildObject_result,
    writeFields_result_of_absent hp h, hrun]

end

/-- **The last writer wins.**  Whenever a mapper makes an object of a source, there is one
destination that holds exactly the keys written by some field rule, each with what its last writer
has for the source, and the object is what the hooks in their order make of this destination.  A
rule whose path leads nowhere can be left out without any difference. -/
theorem runObject_last_writer {m : Mapper} {source : Value} {options : Options} {result : Fields}
    (h : (m.runObject source options).result = .ok (some result)) :
    ∃ d, WrittenLast options source m.rules d ∧
      (∀ e, WrittenLast options source m.rules e → e = d) ∧
      (m.rules.filterMap Rule.hook?).foldlM (fun e run => run source e options) d = .ok result ∧
      ∀ before rule after p, m.rules = before ++ rule :: after → rule.source? = some p →
        p.resolve source = none →
        ((Mapper.mk (before ++ after)).runObject source options).result = .ok (some result) := by
  have hbuild : (buildObject options m.rules source).result = .ok result := by
    rw [runObject_result] at h
    split at h
    · cases h
    · obtain ⟨d, hd, heq⟩ := map_eq_ok.1 h
      cases heq
      exact hd
  rw [buildObject_result, bind_eq_ok] at hbuild
  obtain ⟨d, hfields, hhooks⟩ := hbuild
  have hd := writtenLast_of_writeFields hfields
  refine ⟨d, hd, fun e he => hd.unique he, ?_, ?_⟩
  · rw [← runHooks_eq_foldlM]
    exact hhooks
  · intro before rule after p hrules hp habsent
    rw [← runObject_result_of_absent hp habsent, ← hrules]
    exact h

/-- Rules that write one key three times, the last time in vain, with a hook and a nested mapper. -/
def collidingRules : List Rule :=
  [.copy (pathOf "id"),
    .hook fun _ d _ => .ok (Keyed.set "size" (.nat d.length) d),
    .call (pathOf "name") "id" none fun _ v _ => .ok (.array [v]),
    .nest (pathOf "address") "home" [.copy (pathOf "city")],
    .relabel (pathOf "nick.short") "id"]

/-- A source for them, with a nick name that has no parts. -/
def collidingSource : Value :=
  .object [("address", .array [.null, .object [("city", .string "Oslo")]]), ("id", .nat 7),
    ("name", .string "Ada"), ("nick", .null)]

/-- What becomes of it. -/
def collidingResult : Fields :=
  [("home", .array [.null, .object [("city", .string "Oslo")]]), ("id", .array [.string "Ada"]),
    ("size", .nat 2)]

theorem runObject_last_writer_colliding :
    ((Mapper.mk collidingRules).runObject collidingSource .empty).result =
        .ok (some collidingResult) ∧
      ∃ d, WrittenLast .empty collidingSource collidingRules d ∧
        (collidingRules.filterMap Rule.hook?).foldlM
          (fun e run => run collidingSource e .empty) d = .ok collidingResult := by
  have hrun : ((Mapper.mk collidingRules).runObject collidingSource .empty).result =
      .ok (some collidingResult) := rfl
  obtain ⟨d, hd, -, hhooks, -⟩ := runObject_last_writer hrun
  exact ⟨hrun, d, hd, hhooks⟩

end Reshape
