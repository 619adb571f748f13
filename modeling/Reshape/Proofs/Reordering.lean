import Reshape.Proofs.LastWriter
import Mathlib.Logic.Relation

/-!
# Rules in another order

Field rules read the source and never the destination, so the order of two of them matters only if
they write the same field; and the hooks of a list wait for all of its field rules, wherever they
stand among them.  Rules may change places accordingly:

* **`Rule.Independent`** — two rules that are not both hooks and do not write the same field;
* **`Rule.HookMove`** — two such rules of which one is a hook;
* **`Swapped`** — two lists that differ by an exchange of neighbours;
* **`SameSuccess`** — two computations that succeed with the same, or both fail.

An exchange of independent neighbours keeps the object that is made of a source
(**`sameSuccess_buildObject`**), and one with a hook keeps the error as well
(**`buildObject_of_hookMove`**).  The main statement is **`map_reordered`**, for any number of
exchanges.
-/

namespace Reshape

open Json

/-- The rules are not both hooks, and they do not both write the same field. -/
def Rule.Independent (a b : Rule) : Prop :=
  ¬ (a.kind = .postProcess ∧ b.kind = .postProcess) ∧
    ¬ ∃ dest, a.dest? = some dest ∧ b.dest? = some dest

/-- The rules are independent and one of them is a hook. -/
def Rule.HookMove (a b : Rule) : Prop :=
  a.Independent b ∧ (a.kind = .postProcess ∨ b.kind = .postProcess)

/-- The second list is the first one with two neighbours exchanged that may be. -/
inductive Swapped (allowed : Rule → Rule → Prop) : List Rule → List Rule → Prop
  | mk (before after : List Rule) {a b : Rule} : allowed a b →
      Swapped allowed (before ++ a :: b :: after) (before ++ b :: a :: after)

/-! ### Computations that succeed alike -/

/-- The computations succeed with the same, or both of them fail. -/
def SameSuccess {α : Type} (x y : Except Error α) : Prop := ∀ a, x = .ok a ↔ y = .ok a

section

variable {α β : Type}

theorem SameSuccess.bind {x y : Except Error α} {f g : α → Except Error β}
    (hxy : SameSuccess x y) (hfg : ∀ a, x = .ok a → SameSuccess (f a) (g a)) :
    SameSuccess (x.bind f) (y.bind g) := by
  intro b
  rw [bind_eq_ok, bind_eq_ok]
  constructor
  · rintro ⟨a, hx, hf⟩
    exact ⟨a, (hxy a).1 hx, (hfg a hx b).1 hf⟩
  · rintro ⟨a, hy, hg⟩
    have hx := (hxy a).2 hy
    exact ⟨a, hx, (hfg a hx b).2 hg⟩

theorem SameSuccess.map {x y : Except Error α} (h : SameSuccess x y) (f : α → β) :
    SameSuccess (x.map f) (y.map f) := by
  intro b
  simp only [map_eq_ok, h _]

theorem SameSuccess.mapM {f g : α → Except Error β} (h : ∀ a, SameSuccess (f a) (g a))
    (items : List α) : SameSuccess (items.mapM f) (items.mapM g) := by
  intro made
  rw [mapM_eq_ok, mapM_eq_ok]
  induction items generalizing made with
  | nil => rfl
  | cons a rest ih =>
    cases made with
    | nil => simp
    | cons b bs => rw [List.map_cons, List.map_cons, List.map_cons, List.cons.injEq,
        List.cons.injEq, h a b, ih]

end

theorem SameSuccess.orNull {f g : Value → Except Error Fields} (h : ∀ s, SameSuccess (f s) (g s))
    (source : Value) : SameSuccess (orNull f source) (orNull g source) := by
  by_cases hs : source = .null
  · subst hs
    exact fun _ => Iff.rfl
  · rw [orNull_of_ne hs, orNull_of_ne hs]
    exact (h source).map Value.object

/-- Documents are dispatched alike if their sources are. -/
theorem SameSuccess.elementwise {f g : Value → Except Error Value}
    (h : ∀ s, SameSuccess (f s) (g s)) (v : Value) :
    SameSuccess (elementwise f v) (elementwise g v) := by
  have hv := h v
  cases v with
  | array items => exact (SameSuccess.mapM h items).map Value.array
  | _ => exact hv

/-! ### One exchange -/

theorem kind_eq_postProcess_iff {rule : Rule} :
    rule.kind = .postProcess ↔ ∃ run, rule = .hook run := by
  cases rule <;> simp [Rule.kind]

theorem hook?_eq_none_iff {rule : Rule} : rule.hook? = none ↔ rule.kind ≠ .postProcess := by
  cases rule <;> simp [Rule.hook?, Rule.kind]

section

variable {options : Options} {source : Value} {a b : Rule} {before after : List Rule}

/-- Independent rules write in either order. -/
theorem writeField_comm (h : a.Independent b) {c e : Option (String × Value)} {d : Fields}
    (ha : (a.contribution options source).result = .ok c)
    (hb : (b.contribution options source).result = .ok e) (hd : Keyed.Sorted d) :
    writeField (writeField d c) e = writeField (writeField d e) c := by
  cases c with
  | none => rfl
  | some entry =>
    cases e with
    | none => rfl
    | some other =>
      obtain ⟨hdest, -⟩ := dest?_and_outcome?_of_contribution ha
      obtain ⟨hdest', -⟩ := dest?_and_outcome?_of_contribution hb
      have hne : other.1 ≠ entry.1 := fun heq => h.2 ⟨entry.1, hdest, heq ▸ hdest'⟩
      exact Keyed.set_comm hne other.2 entry.2 hd

theorem writeFields_swap_ok (h : a.Independent b) {d e : Fields} (hd : Keyed.Sorted d)
    (hok : (writeFields options source (a :: b :: after) d).result = .ok e) :
    (writeFields options source (b :: a :: after) d).result = .ok e := by
  obtain ⟨c, hc, hrest⟩ := writeFields_cons_ok.1 hok
  obtain ⟨c', hc', hafter⟩ := writeFields_cons_ok.1 hrest
  rw [writeField_comm h hc hc' hd] at hafter
  exact writeFields_cons_ok.2 ⟨c', hc', writeFields_cons_ok.2 ⟨c, hc, hafter⟩⟩

theorem Rule.Independent.symm (h : a.Independent b) : b.Independent a :=
  ⟨fun hkind => h.1 hkind.symm, fun ⟨dest, hb, ha⟩ => h.2 ⟨dest, ha, hb⟩⟩

theorem sameSuccess_writeFields (h : a.Independent b) (options : Options) (source : Value)
    (before after : List Rule) :
    SameSuccess (writeFields options source (before ++ a :: b :: after) []).result
      (writeFields options source (before ++ b :: a :: after) []).result := by
  rw [writeFields_append, writeFields_append, Traced.result_andThen, Traced.result_andThen]
  refine SameSuccess.bind (fun _ => Iff.rfl) fun d hd e => ?_
  -- Fields can be written in either order because they are kept in the order of their keys.
  have hsorted : Keyed.Sorted d := sorted_writeFields hd List.Pairwise.nil
  exact ⟨writeFields_swap_ok h hsorted, writeFields_swap_ok h.symm hsorted⟩

/-- Rules that are not both hooks leave the hooks in their order. -/
theorem runHooks_swap (h : ¬ (a.kind = .postProcess ∧ b.kind = .postProcess)) (options : Options)
    (source : Value) (before after : List Rule) :
    runHooks options source (before ++ a :: b :: after) =
      runHooks options source (before ++ b :: a :: after) := by
  have hhooks : (before ++ a :: b :: after).filterMap Rule.hook? =
      (before ++ b :: a :: after).filterMap Rule.hook? := by
    by_cases ha : a.hook? = none
    · simp [List.filterMap_append, List.filterMap_cons, ha]
    · have hb : b.hook? = none := by
        rw [hook?_eq_none_iff] at ha ⊢
        exact fun hkind => h ⟨Decidable.not_not.1 ha, hkind⟩
      simp [List.filterMap_append, List.filterMap_cons, hb]
  funext d
  rw [runHooks_eq_foldlM, runHooks_eq_foldlM, hhooks]

/-- A hook makes no difference to the field rules. -/
theorem writeFields_of_hook {rule : Rule} (h : rule.kind = .postProcess) (before after : List Rule)
    (d : Fields) :
    writeFields options source (before ++ rule :: after) d =
      writeFields options source (before ++ after) d := by
  obtain ⟨run, rfl⟩ := kind_eq_postProcess_iff.1 h
  have hcons : ∀ e, writeFields options source (.hook run :: after) e =
      writeFields options source after e := by
    intro e
    rw [writeFields_cons, Rule.contribution, Traced.ok_andThen, writeField]
  rw [writeFields_append, writeFields_append, funext hcons]

theorem writeFields_hook_swap (h : a.kind = .postProcess) (d : Fields) :
    writeFields options source (before ++ a :: b :: after) d =
      writeFields options source (before ++ b :: a :: after) d := by
  rw [writeFields_of_hook h, List.append_cons before b (a :: after), writeFields_of_hook h,
    ← List.append_cons]

end

/-- **Independent neighbours can be exchanged:** the object that is made of a source is the same. -/
theorem sameSuccess_buildObject {rules rules' : List Rule}
    (h : Swapped Rule.Independent rules rules') (options : Options) (source : Value) :
    SameSuccess (buildObject options rules source).result
      (buildObject options rules' source).result := by
  obtain ⟨before, after, hab⟩ := h
  rw [buildObject_result, buildObject_result, runHooks_swap hab.1]
  exact (sameSuccess_writeFields hab options source before after).bind fun _ _ _ => Iff.rfl

/-- **A hook can be moved past a field rule:** the object or the error is the same. -/
theorem buildObject_of_hookMove {rules rules' : List Rule} (h : Swapped Rule.HookMove rules rules')
    (options : Options) (source : Value) :
    (buildObject options rules source).result = (buildObject options rules' source).result := by
  obtain ⟨before, after, ⟨hab, hhook⟩⟩ := h
  rw [buildObject_result, buildObject_result, runHooks_swap hab.1]
  rcases hhook with ha | hb
  · rw [writeFields_hook_swap ha]
  · rw [writeFields_hook_swap hb]

/-! ### Any number of exchanges -/

section

variable {rules rules' : List Rule}

theorem sameSuccess_map (h : Relation.ReflTransGen (Swapped Rule.Independent) rules rules')
    (input : Value) (options : Options) :
    SameSuccess ((Mapper.mk rules).map input options) ((Mapper.mk rules').map input options) := by
  induction h with
  | refl => exact fun _ => Iff.rfl
  | tail _ hswap ih =>
    intro v
    rw [ih v, map_eq, map_eq]
    have hbuild := fun source => sameSuccess_buildObject hswap options source
    exact SameSuccess.elementwise (fun s => SameSuccess.orNull hbuild s) input v

theorem map_of_hookMoves (h : Relation.ReflTransGen (Swapped Rule.HookMove) rules rules')
    (input : Value) (options : Options) :
    (Mapper.mk rules).map input options = (Mapper.mk rules').map input options := by
  induction h with
  | refl => rfl
  | tail _ hswap ih =>
    rw [ih, map_eq, map_eq]
    have hbuild := funext fun source => buildObject_of_hookMove hswap options source
    rw [hbuild]

end

/-- **Rules can be put in another order.**  Lists of rules that differ by exchanges of independent
neighbours map every document to the same value, or neither maps it to any; and if only hooks have
been moved, they map it to the same value or fail with the same error. -/
theorem map_reordered {rules rules' : List Rule}
    (h : Relation.ReflTransGen (Swapped Rule.Independent) rules rules') (input : Value)
    (options : Options) :
    (∀ v, (Mapper.mk rules).map input options = .ok v ↔
      (Mapper.mk rules').map input options = .ok v) ∧
    (Relation.ReflTransGen (Swapped Rule.HookMove) rules rules' →
      (Mapper.mk rules).map input options = (Mapper.mk rules').map input options) :=
  ⟨sameSuccess_map h input options, fun hmoves => map_of_hookMoves hmoves input options⟩

/-- A hook that notes how many fields it finds. -/
def countRule : Rule := .hook fun _ d _ => .ok (Keyed.set "count" (.nat d.length) d)

/-- A rule that puts a value into an array. -/
def wrapRule : Rule := .call (pathOf "a") "a" none fun _ v _ => .ok (.array [v])

/-- A rule that renames a field. -/
def renameRule : Rule := .relabel (pathOf "b") "c"

theorem countRule_independent {rule : Rule} (h : rule.kind ≠ .postProcess) :
    countRule.Independent rule :=
  ⟨fun hkind => h hkind.2, fun ⟨_, hdest, _⟩ => absurd hdest nofun⟩

theorem wrapRule_independent : wrapRule.Independent renameRule :=
  ⟨fun hkind => absurd hkind.1 (by decide),
    fun ⟨_, ha, hc⟩ => absurd (ha.trans hc.symm) (by decide)⟩

theorem map_reordered_wrap :
    (Mapper.mk [countRule, wrapRule, renameRule]).map
        (.object [("a", .nat 1), ("b", .nat 2)]) .empty =
      .ok (.object [("a", .array [.nat 1]), ("c", .nat 2), ("count", .nat 2)]) ∧
    (Mapper.mk [renameRule, countRule, wrapRule]).map
        (.object [("a", .nat 1), ("b", .nat 2)]) .empty =
      .ok (.object [("a", .array [.nat 1]), ("c", .nat 2), ("count", .nat 2)]) ∧
    (Mapper.mk [countRule, wrapRule, renameRule]).map
        (.object [("a", .nat 1), ("b", .nat 2)]) .empty =
      (Mapper.mk [wrapRule, countRule, renameRule]).map
        (.object [("a", .nat 1), ("b", .nat 2)]) .empty := by
  have hmap : (Mapper.mk [countRule, wrapRule, renameRule]).map
        (.object [("a", .nat 1), ("b", .nat 2)]) .empty =
      .ok (.object [("a", .array [.nat 1]), ("c", .nat 2), ("count", .nat 2)]) := rfl
  have hfields : Swapped Rule.Independent [countRule, wrapRule, renameRule]
      [countRule, renameRule, wrapRule] := .mk [countRule] [] wrapRule_independent
  have hhook : Swapped Rule.Independent [countRule, renameRule, wrapRule]
      [renameRule, countRule, wrapRule] := .mk [] [wrapRule] (countRule_independent nofun)
  have hmove : Rule.HookMove countRule wrapRule := ⟨countRule_independent nofun, .inl rfl⟩
  refine ⟨hmap, ?_, ?_⟩
  · exact ((map_reordered (.tail (.single hfields) hhook) _ _).1 _).1 hmap
  · exact (map_reordered (.single (.mk [] [renameRule] hmove.1)) _ _).2
      (.single (.mk [] [renameRule] hmove))

/-- A rule that finds a field and refuses it. -/
def refuseRule (key : String) : Rule :=
  .call (pathOf key) key none fun _ _ _ => .error (.callback key)

/-- Where two field rules refuse, the first one of them is heard. -/
example : ((Mapper.mk [refuseRule "a", refuseRule "b"]).map
      (.object [("a", .null), ("b", .null)]) .empty = .error (.callback "a")) ∧
    ((Mapper.mk [refuseRule "b", refuseRule "a"]).map
      (.object [("a", .null), ("b", .null)]) .empty = .error (.callback "b")) := ⟨rfl, rfl⟩

end Reshape
