import Reshape.Corpus.Runner
import Reshape.Proofs.Agreement
import Reshape.Proofs.Contract

/-!
# Verdicts on cases

A case passes when its mapping does what the case expects of it:

* **`OccursIn`** — a text that stands somewhere in another one;
* **`Case.Gives`**, **`Case.Fails`** — what the mapping of a case comes to, through the mapper of
  its specification;
* **`Case.Passes`**, **`Case.Differs`** — cases that do as expected, and cases that give another
  output than the one expected;
* **`Case.Ordered`** — cases all of whose documents are ordered.

A verdict is settled by the result of the mapping (**`verdict_eq_none_iff`**,
**`verdict_diff_iff`**).  Objects are lists of fields that are meant to be in the order of their
keys; when the documents of a case are so, and the callbacks of the registry keep them so, then the
outputs are as well (**`Case.Gives.ordered`**).  The main statement is **`check_sound_complete`**.
-/

namespace Reshape

open Json

/-! ### Occurrences -/

/-- The one text stands somewhere in the other. -/
def OccursIn (part whole : String) : Prop :=
  ∃ before after, whole = before ++ part ++ after

namespace OccursIn

variable {part whole : String}

theorem self (s : String) : OccursIn s s := ⟨"", "", by simp⟩

theorem append_left (h : OccursIn part whole) (more : String) : OccursIn part (more ++ whole) := by
  obtain ⟨before, after, rfl⟩ := h
  exact ⟨more ++ before, after, by simp [String.append_assoc]⟩

theorem append_right (h : OccursIn part whole) (more : String) : OccursIn part (whole ++ more) := by
  obtain ⟨before, after, rfl⟩ := h
  exact ⟨before, after ++ more, by simp [String.append_assoc]⟩

end OccursIn

theorem occursIn_iff_infix {part cs : List Char} : occursIn part cs = true ↔ part <:+: cs := by
  induction cs with
  | nil => rw [occursIn, List.isEmpty_iff, List.infix_nil]
  | cons c cs ih =>
    rw [occursIn, Bool.or_eq_true, List.isPrefixOf_iff_prefix, ih, List.infix_cons_iff]

theorem textContains_iff {whole part : String} :
    textContains whole part = true ↔ OccursIn part whole := by
  rw [textContains, occursIn_iff_infix]
  constructor
  · rintro ⟨before, after, h⟩
    refine ⟨.ofList before, .ofList after, String.ext ?_⟩
    simpa using h.symm
  · rintro ⟨before, after, rfl⟩
    exact ⟨before.toList, after.toList, by simp⟩

/-! ### What a case comes to -/

/-- All documents of the case are ordered. -/
structure Case.Ordered (c : Case) : Prop where
  input : c.input.Ordered
  options : (Value.object c.options.fields).Ordered
  output : ∀ v, c.expectations.output = some v → v.Ordered

/-- A check for cases that are ordered. -/
def Case.isOrdered (c : Case) : Bool :=
  c.input.isOrdered && (Value.object c.options.fields).isOrdered &&
    c.expectations.output.all Value.isOrdered

theorem Case.ordered_of_isOrdered {c : Case} (h : c.isOrdered = true) : c.Ordered := by
  obtain ⟨⟨hinput, hoptions⟩, houtput⟩ : (c.input.isOrdered = true ∧
      (Value.object c.options.fields).isOrdered = true) ∧
      c.expectations.output.all Value.isOrdered = true := by
    simpa only [Case.isOrdered, Bool.and_eq_true] using h
  refine ⟨Value.ordered_of_isOrdered _ hinput, Value.ordered_of_isOrdered _ hoptions, ?_⟩
  intro v hv
  rw [hv] at houtput
  exact Value.ordered_of_isOrdered v houtput

/-- The specification of the case is loaded, and its mapper gives the output. -/
def Case.Gives (registry : Registry) (c : Case) (output : Value) : Prop :=
  ∃ m, (Mapper.ofJson registry c.spec).result = .ok m ∧ m.map c.input c.options = .ok output

/-- The specification of the case is not loaded, or its mapper fails. -/
def Case.Fails (registry : Registry) (c : Case) (e : Error) : Prop :=
  (Mapper.ofJson registry c.spec).result = .error e ∨
    ∃ m, (Mapper.ofJson registry c.spec).result = .ok m ∧ m.map c.input c.options = .error e

/-- The case does as expected. -/
inductive Case.Passes (registry : Registry) (tolerance : Double) (c : Case) : Prop
  /-- Nothing is asked of a case that is not enabled. -/
  | disabled : c.metadata.enabled = false → Passes registry tolerance c
  /-- An error is expected, and its wording has the pattern in it; an expected output does not
  count. -/
  | refused {pattern : String} {e : Error} :
      c.expectations.errorPattern = some pattern → c.Fails registry e →
      OccursIn pattern ("Mapping error: " ++ e.message) → Passes registry tolerance c
  /-- An output is expected and no error, and the outputs match. -/
  | matched {expected actual : Value} :
      c.expectations.errorPattern = none → c.expectations.output = some expected →
      c.Gives registry actual → Matches tolerance expected actual → Passes registry tolerance c

/-- The case is enabled and expects an output and no error, and it gives another output. -/
def Case.Differs (registry : Registry) (tolerance : Double) (c : Case) : Prop :=
  c.metadata.enabled = true ∧ c.expectations.errorPattern = none ∧
    ∃ expected actual, c.expectations.output = some expected ∧ c.Gives registry actual ∧
      ¬ Matches tolerance expected actual

section

variable {registry : Registry} {c : Case}

theorem perform_ok_iff {v : Value} : (c.perform registry).result = .ok v ↔ c.Gives registry v :=
  Traced.andThen_result_ok

theorem perform_error_iff {e : Error} :
    (c.perform registry).result = .error e ↔ c.Fails registry e :=
  Traced.andThen_result_error

/-- **An ordered case gives ordered outputs.** -/
theorem Case.Gives.ordered {v : Value} (h : c.Gives registry v)
    (hregistry : registry.Keeps .ordered) (hc : c.Ordered) : v.Ordered := by
  obtain ⟨m, hload, hmap⟩ := h
  obtain ⟨items, -, hitems⟩ := ofJson_ok.1 hload
  exact (map_ends (hregistry.rules hitems) hc.options hc.input).of_ok hmap

end

/-! ### Verdicts -/

section

variable {c : Case}

theorem verdict_eq_none_iff {diff : DiffOptions} {ansi : Bool} {mapped : Except Error Value} :
    c.verdict diff ansi mapped = none ↔
      (∃ pattern e, c.expectations.errorPattern = some pattern ∧ mapped = .error e ∧
        OccursIn pattern (mappingText e)) ∨
      (c.expectations.errorPattern = none ∧ ∃ actual, mapped = .ok actual ∧
        agree diff.tolerance (c.expectations.output.getD .null) actual = true) := by
  unfold Case.verdict
  cases c.expectations.errorPattern with
  | some pattern =>
    cases mapped with
    | error e => simp [textContains_iff]
    | ok v => simp
  | none =>
    cases mapped with
    | error e => simp
    | ok v => simp [compareValues_agrees]

theorem verdict_diff_iff {diff : DiffOptions} {ansi : Bool} {mapped : Except Error Value} :
    ((c.verdict diff ansi mapped).bind CaseFault.diff?).isSome = true ↔
      c.expectations.errorPattern = none ∧ ∃ actual, mapped = .ok actual ∧
        ¬ agree diff.tolerance (c.expectations.output.getD .null) actual = true := by
  unfold Case.verdict
  cases c.expectations.errorPattern with
  | some pattern =>
    cases mapped with
    | error e =>
      split
      all_goals simp_all [CaseFault.diff?]
    | ok v => simp [CaseFault.diff?]
  | none =>
    cases mapped with
    | error e => simp [CaseFault.diff?]
    | ok v =>
      simp only [compareValues_agrees]
      split
      all_goals simp_all [CaseFault.diff?]

/-! ### Checks -/

theorem expectsNothing_iff :
    c.expectsNothing = true ↔
      c.expectations.output = none ∧ c.expectations.errorPattern = none := by
  rw [Case.expectsNothing, Bool.and_eq_true, Option.isNone_iff_eq_none, Option.isNone_iff_eq_none]

theorem check_of_disabled (r : Runner) (h : c.metadata.enabled = false) :
    (r.check c).2 = none := by
  simp [Runner.check, h]

theorem check_of_expectsNothing (r : Runner) (henabled : c.metadata.enabled = true)
    (h : c.expectsNothing = true) : (r.check c).2 = some .noExpectation := by
  simp [Runner.check, henabled, h]

theorem check_of_expects (r : Runner) (henabled : c.metadata.enabled = true)
    (h : ¬ c.expectsNothing = true) :
    (r.check c).2 = c.verdict r.diff r.ansi (c.perform r.registry).result := by
  simp [Runner.check, henabled, h]

/-- A case that expects something and no error expects an output. -/
theorem exists_output (h : ¬ c.expectsNothing = true)
    (hpattern : c.expectations.errorPattern = none) :
    ∃ expected, c.expectations.output = some expected := by
  refine Option.ne_none_iff_exists'.1 fun houtput => ?_
  exact h (expectsNothing_iff.2 ⟨houtput, hpattern⟩)

/-- The output that is compared is the one expected, and it agrees when it matches. -/
theorem agree_output_iff {registry : Registry} {tolerance : Double} {expected actual : Value}
    (hregistry : registry.Keeps .ordered) (hc : c.Ordered)
    (hexpected : c.expectations.output = some expected) (hactual : c.Gives registry actual) :
    agree tolerance (c.expectations.output.getD .null) actual = true ↔
      Matches tolerance expected actual := by
  rw [hexpected, Option.getD_some]
  exact agree_iff_matches (hc.output expected hexpected) (hactual.ordered hregistry hc)

/-- An enabled case that expects nothing does not pass. -/
theorem not_passes_of_expectsNothing {registry : Registry} {tolerance : Double}
    (henabled : c.metadata.enabled = true) (h : c.expectsNothing = true) :
    ¬ c.Passes registry tolerance := by
  obtain ⟨houtput, hpattern⟩ := expectsNothing_iff.1 h
  intro hpasses
  cases hpasses with
  | disabled hdisabled => exact absurd (hdisabled.symm.trans henabled) nofun
  | refused hsome => exact absurd (hsome.symm.trans hpattern) nofun
  | matched _ hsome => exact absurd (hsome.symm.trans houtput) nofun

/-- The verdict on an enabled case that expects something finds nothing wrong if it passes. -/
theorem verdict_perform_iff {registry : Registry} {diff : DiffOptions} {ansi : Bool}
    (hregistry : registry.Keeps .ordered) (hc : c.Ordered)
    (henabled : c.metadata.enabled = true) (h : ¬ c.expectsNothing = true) :
    c.verdict diff ansi (c.perform registry).result = none ↔
      c.Passes registry diff.tolerance := by
  rw [verdict_eq_none_iff]
  constructor
  · rintro (⟨pattern, e, hpattern, he, hoccurs⟩ | ⟨hpattern, actual, hactual, hagree⟩)
    · exact .refused hpattern (perform_error_iff.1 he) hoccurs
    · obtain ⟨expected, hexpected⟩ := exists_output h hpattern
      have hgives := perform_ok_iff.1 hactual
      have hmatches := (agree_output_iff hregistry hc hexpected hgives).1 hagree
      exact .matched hpattern hexpected hgives hmatches
  · intro hpasses
    cases hpasses with
    | disabled hdisabled => exact absurd (hdisabled.symm.trans henabled) nofun
    | refused hpattern hfails hoccurs =>
      exact .inl ⟨_, _, hpattern, perform_error_iff.2 hfails, hoccurs⟩
    | matched hpattern hexpected hgives hmatches =>
      have hagree := (agree_output_iff hregistry hc hexpected hgives).2 hmatches
      exact .inr ⟨hpattern, _, perform_ok_iff.2 hgives, hagree⟩

/-- The verdict on an enabled case that expects something shows differences if it differs. -/
theorem verdict_perform_diff_iff {registry : Registry} {diff : DiffOptions} {ansi : Bool}
    (hregistry : registry.Keeps .ordered) (hc : c.Ordered)
    (henabled : c.metadata.enabled = true) (h : ¬ c.expectsNothing = true) :
    ((c.verdict diff ansi (c.perform registry).result).bind CaseFault.diff?).isSome = true ↔
      c.Differs registry diff.tolerance := by
  rw [verdict_diff_iff]
  constructor
  · rintro ⟨hpattern, actual, hactual, hagree⟩
    obtain ⟨expected, hexpected⟩ := exists_output h hpattern
    have hgives := perform_ok_iff.1 hactual
    rw [agree_output_iff hregistry hc hexpected hgives] at hagree
    exact ⟨henabled, hpattern, expected, actual, hexpected, hgives, hagree⟩
  · rintro ⟨-, hpattern, expected, actual, hexpected, hgives, hdiffers⟩
    rw [← agree_output_iff hregistry hc hexpected hgives] at hdiffers
    exact ⟨hpattern, actual, perform_ok_iff.2 hgives, hdiffers⟩

/-- **A check finds nothing wrong with the cases that pass.** -/
theorem check_eq_none_iff {r : Runner} (hregistry : r.registry.Keeps .ordered) (hc : c.Ordered) :
    (r.check c).2 = none ↔ c.Passes r.registry r.diff.tolerance := by
  cases henabled : c.metadata.enabled with
  | false => exact ⟨fun _ => .disabled henabled, fun _ => check_of_disabled r henabled⟩
  | true =>
    by_cases hnothing : c.expectsNothing = true
    · rw [check_of_expectsNothing r henabled hnothing]
      exact ⟨nofun, fun h => absurd h (not_passes_of_expectsNothing henabled hnothing)⟩
    · rw [check_of_expects r henabled hnothing]
      exact verdict_perform_iff hregistry hc henabled hnothing

/-- **A check shows the differences of the cases that differ.** -/
theorem check_diff_iff {r : Runner} (hregistry : r.registry.Keeps .ordered) (hc : c.Ordered) :
    ((r.check c).2.bind CaseFault.diff?).isSome = true ↔
      c.Differs r.registry r.diff.tolerance := by
  cases henabled : c.metadata.enabled with
  | false =>
    rw [check_of_disabled r henabled]
    exact ⟨nofun, fun hdiffers => absurd (hdiffers.1.symm.trans henabled) nofun⟩
  | true =>
    by_cases hnothing : c.expectsNothing = true
    · rw [check_of_expectsNothing r henabled hnothing]
      refine ⟨nofun, fun ⟨_, _, expected, _, hsome, _⟩ => ?_⟩
      exact absurd (hsome.symm.trans (expectsNothing_iff.1 hnothing).1) nofun
    · rw [check_of_expects r henabled hnothing]
      exact verdict_perform_diff_iff hregistry hc henabled hnothing

end

/-- **Verdicts are sound and complete.**  A result is marked as passed exactly when the case does as
expected, never when an enabled case expects nothing, and it shows differences exactly when the case
gives another output than the one expected. -/
theorem check_sound_complete {r : Runner} {c : Case} (hregistry : r.registry.Keeps .ordered)
    (hc : c.Ordered) (name : String) :
    ((CaseResult.mk name (r.check c).2).passed = true ↔
      c.Passes r.registry r.diff.tolerance) ∧
    (c.metadata.enabled = true → c.expectations.output = none →
      c.expectations.errorPattern = none →
      (CaseResult.mk name (r.check c).2).passed = false) ∧
    ((CaseResult.mk name (r.check c).2).diff?.isSome = true ↔
      c.Differs r.registry r.diff.tolerance) := by
  refine ⟨?_, fun henabled houtput hpattern => ?_, check_diff_iff hregistry hc⟩
  · rw [CaseResult.passed, Option.isNone_iff_eq_none]
    exact check_eq_none_iff hregistry hc
  · have hnothing := expectsNothing_iff.2 ⟨houtput, hpattern⟩
    have hfault := check_of_expectsNothing r henabled hnothing
    simp only [CaseResult.passed, hfault, Option.isNone_some]

/-- A runner over the built-in registry. -/
def plainRunner : Runner := ⟨.builtIns, .standard, false, false⟩

/-- A case that reads a quantity from a text, with what it expects. -/
def quantityCase (count : String) (expectations : Expectations) : Case where
  name := "quantity"
  category := "transforms"
  spec := .array [.string "id", .object [("customTransform", .string "to_number"),
    ("dstName", .string "quantity"), ("srcName", .string "count")]]
  input := .object [("count", .string count), ("id", .nat 7)]
  options := .empty
  expectations := expectations
  metadata := ⟨"Reads a quantity.", [], true, standardPriority⟩

/-- The output of the case for a quantity. -/
def quantityOutput (quantity : Nat) : Value :=
  .object [("id", .nat 7), ("quantity", .nat quantity)]

/-- The right quantity, a wrong one, a refusal that is expected, and a case that expects nothing. -/
theorem check_sound_complete_quantity :
    plainRunner.registry.Keeps .ordered ∧
    ((quantityCase "12" ⟨some (quantityOutput 12), none⟩).Ordered ∧
      (quantityCase "12" ⟨some (quantityOutput 12), none⟩).Passes
        .builtIns DiffOptions.standard.tolerance) ∧
    ((quantityCase "12" ⟨some (quantityOutput 21), none⟩).Ordered ∧
      (quantityCase "12" ⟨some (quantityOutput 21), none⟩).Differs
        .builtIns DiffOptions.standard.tolerance) ∧
    ((quantityCase "few" ⟨some .null, some "Mapping error: Transform"⟩).Ordered ∧
      (quantityCase "few" ⟨some .null, some "Mapping error: Transform"⟩).Passes
        .builtIns DiffOptions.standard.tolerance) ∧
    (quantityCase "12" ⟨none, none⟩).Ordered ∧
      (CaseResult.mk "quantity" (plainRunner.check (quantityCase "12" ⟨none, none⟩)).2).passed =
        false := by
  have hregistry : plainRunner.registry.Keeps .ordered := Registry.builtIns_ordered
  have hright : (quantityCase "12" ⟨some (quantityOutput 12), none⟩).Ordered :=
    Case.ordered_of_isOrdered (by decide)
  have hwrong : (quantityCase "12" ⟨some (quantityOutput 21), none⟩).Ordered :=
    Case.ordered_of_isOrdered (by decide)
  have hrefused : (quantityCase "few" ⟨some .null, some "Mapping error: Transform"⟩).Ordered :=
    Case.ordered_of_isOrdered (by decide)
  have hnothing : (quantityCase "12" ⟨none, none⟩).Ordered :=
    Case.ordered_of_isOrdered (by decide)
  refine ⟨hregistry, ⟨hright, ?_⟩, ⟨hwrong, ?_⟩, ⟨hrefused, ?_⟩, hnothing, ?_⟩
  · exact (check_sound_complete hregistry hright "quantity").1.1 (by decide +kernel)
  · exact (check_sound_complete hregistry hwrong "quantity").2.2.1 (by decide +kernel)
  · exact (check_sound_complete hregistry hrefused "quantity").1.1 (by decide +kernel)
  · exact (check_sound_complete hregistry hnothing "quantity").2.1 rfl rfl rfl

end Reshape
