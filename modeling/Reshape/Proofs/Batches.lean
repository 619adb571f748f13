import Reshape.Proofs.Discovery
import Reshape.Proofs.Path
import Reshape.Proofs.Verdict

/-!
# Single cases and batches

A case is run on its own by the path of its directory, and in a batch by a pattern that chooses it.
The two ways meet in corpora that are laid out by the labels of their cases:

* **`Corpus.LiesByLabel`** — every case is in the file that its category and its name lead to;
* **`Case.ChosenBy`** — the cases that a pattern chooses;
* **`Corpus.Chosen`** — all cases of a corpus that a pattern chooses, each once and in order;
* **`Outcome.fails`** — runs that end in an error.

In such a corpus the label of a case loads the case (**`Corpus.CaseAt.loadFolder_label`**), so
running it on its own settles what becomes of it in a batch (**`fails_runOne_label`**).  The main
statement is **`runBatch_agrees`**.
-/

namespace Reshape

/-! ### Steps of a path -/

namespace Node

theorem stepsOf_of_slash_not_mem {name : String} (h : '/' ∉ name.toList) :
    stepsOf name = [name] := by
  rw [stepsOf, Text.pieces_of_not_mem h, List.map_singleton, String.ofList_toList]

/-- Paths with a slash between them have the steps of both. -/
theorem stepsOf_append (path other : String) :
    stepsOf (path ++ "/" ++ other) = stepsOf path ++ stepsOf other := by
  have hchars : (path ++ "/" ++ other).toList = path.toList ++ '/' :: other.toList := by
    rw [String.toList_append, String.toList_append, List.append_assoc]
    rfl
  rw [stepsOf, hchars, Text.pieces_append_sep, List.map_append]
  rfl

/-- Names are the steps of the path that they make. -/
theorem stepsOf_intercalate {steps : List String} (hne : steps ≠ [])
    (h : ∀ step ∈ steps, IsName step) : stepsOf ("/".intercalate steps) = steps := by
  induction steps with
  | nil => exact absurd rfl hne
  | cons step rest ih =>
    have hstep := stepsOf_of_slash_not_mem (h step List.mem_cons_self).2
    cases rest with
    | nil => rw [String.intercalate_singleton, hstep]
    | cons next more =>
      have hrest := ih (List.cons_ne_nil next more)
        fun other hother => h other (List.mem_cons_of_mem step hother)
      rw [String.intercalate_cons_cons, stepsOf_append, hstep, hrest]
      rfl

end Node

/-- A path from the root of the file system begins with an empty step. -/
theorem empty_mem_stepsOf_of_isAbsolute {path : String} (h : isAbsolute path = true) :
    "" ∈ Node.stepsOf path := by
  rw [isAbsolute, beq_iff_eq] at h
  obtain ⟨rest, hpath⟩ := List.head?_eq_some_iff.1 h
  rw [Node.stepsOf, hpath, Text.pieces, if_pos rfl, List.map_cons]
  exact List.mem_cons_self

/-! ### Corpora laid out by labels -/

/-- The path to every case is its label, with the name of the files that hold cases behind it. -/
def Corpus.LiesByLabel (corpus : Corpus) : Prop :=
  ∀ steps c, corpus.CaseAt steps c → "/".intercalate steps = c.label ++ "/" ++ caseFile

instance (corpus : Corpus) : Decidable corpus.LiesByLabel :=
  decidable_of_iff
    (∀ steps ∈ corpus.caseFiles, ∀ c ∈ (corpus.loadAt steps).toOption,
      "/".intercalate steps = c.label ++ "/" ++ caseFile) <| by
    simp only [Corpus.LiesByLabel, Corpus.caseAt_iff, Option.mem_def, and_imp]
    exact forall_congr' fun _ => forall_comm

section

variable {corpus : Corpus} (hnames : corpus.WellNamed) (hplaces : corpus.LiesByLabel)
include hnames hplaces

/-- The label of a case leads to the directory of its file. -/
theorem Corpus.CaseAt.steps_eq {steps : List String} {c : Case} (h : corpus.CaseAt steps c) :
    Node.stepsOf c.label ++ [caseFile] = steps := by
  obtain ⟨root, hroot, hfile⟩ := h.file
  have hsteps : ∀ step ∈ steps, Node.IsName step := hfile.isName (hnames root hroot)
  have hne : steps ≠ [] := fun hnil => by simpa [hnil] using h.name
  have hlast : Node.stepsOf caseFile = [caseFile] := Node.stepsOf_of_slash_not_mem (by decide)
  rw [← hlast, ← Node.stepsOf_append, ← hplaces steps c h, Node.stepsOf_intercalate hne hsteps]

/-- **The label of a case loads the case.** -/
theorem Corpus.CaseAt.loadFolder_label {steps : List String} {c : Case}
    (h : corpus.CaseAt steps c) : corpus.loadFolder c.label = .ok c := by
  have hsteps := h.steps_eq hnames hplaces
  have hrelative : ¬ isAbsolute c.label = true := by
    intro habsolute
    obtain ⟨root, hroot, hfile⟩ := h.file
    have hmem : "" ∈ steps := by
      rw [← hsteps]
      exact List.mem_append_left _ (empty_mem_stepsOf_of_isAbsolute habsolute)
    exact (hfile.isName (hnames root hroot) "" hmem).1 rfl
  rw [loadFolder, stepsBehind, if_neg hrelative, List.nil_append, hsteps]
  exact Corpus.loadAt_ok_iff.2 h.holds

/-- Cases with one label are the same case. -/
theorem Corpus.CaseAt.eq_of_label_eq {steps others : List String} {c d : Case}
    (hc : corpus.CaseAt steps c) (hd : corpus.CaseAt others d) (h : c.label = d.label) :
    c = d := by
  have hload := hc.loadFolder_label hnames hplaces
  rw [h, hd.loadFolder_label hnames hplaces] at hload
  exact (Except.ok.inj hload).symm

/-- No case is found twice. -/
theorem nodup_loadable : corpus.loadable.Nodup := by
  rw [Corpus.loadable_eq, List.Nodup, List.pairwise_filterMap]
  refine (Corpus.nodup_caseFiles hnames).imp_of_mem ?_
  rintro steps others hsteps hothers hne c hc d hd rfl
  have hfirst := (Corpus.caseAt_iff.2 ⟨hsteps, hc⟩).steps_eq hnames hplaces
  have hsecond := (Corpus.caseAt_iff.2 ⟨hothers, hd⟩).steps_eq hnames hplaces
  exact hne (hfirst.symm.trans hsecond)

end

/-! ### The cases of a pattern -/

/-- The pattern chooses the case: it is the word that chooses all cases, or it occurs in the name or
in the category. -/
def Case.ChosenBy (c : Case) (pattern : String) : Prop :=
  pattern = everything ∨ OccursIn pattern c.name ∨ OccursIn pattern c.category

/-- The list has all cases of the corpus that the pattern chooses, each of them once, by priority,
category and name. -/
structure Corpus.Chosen (corpus : Corpus) (pattern : String) (cases : List Case) : Prop where
  mem : ∀ c, c ∈ cases ↔ (∃ steps, corpus.CaseAt steps c) ∧ c.ChosenBy pattern
  once : cases.Nodup
  inOrder : cases.Pairwise fun a b => a.rank ≤ b.rank

theorem mem_chosenByPattern_iff {pattern : String} {cases : List Case} {c : Case} :
    c ∈ chosenByPattern pattern cases ↔ c ∈ cases ∧ c.ChosenBy pattern := by
  by_cases hall : pattern = everything
  · simp [chosenByPattern, Case.ChosenBy, hall]
  · simp [chosenByPattern, Case.ChosenBy, hall, textContains_iff]

theorem chosenByPattern_sublist (pattern : String) (cases : List Case) :
    (chosenByPattern pattern cases).Sublist cases := by
  rw [chosenByPattern]
  split
  · exact List.Sublist.refl cases
  · exact List.filter_sublist

section

variable {corpus : Corpus} (hnames : corpus.WellNamed) (hplaces : corpus.LiesByLabel)
include hnames hplaces

/-- The cases that a batch runs are the chosen ones. -/
theorem chosen_discover (pattern : String) :
    corpus.Chosen pattern (chosenByPattern pattern corpus.discover) where
  mem c := by rw [mem_chosenByPattern_iff, Corpus.mem_discover_iff]
  once := by
    have hdiscover := Corpus.discover_perm.nodup_iff.2 (nodup_loadable hnames hplaces)
    exact hdiscover.sublist (chosenByPattern_sublist pattern corpus.discover)
  inOrder := Corpus.discover_inOrder.sublist (chosenByPattern_sublist pattern corpus.discover)

/-- There is one list of the chosen cases only: their order leaves nothing open. -/
theorem Corpus.Chosen.eq {pattern : String} {cases others : List Case}
    (h : corpus.Chosen pattern cases) (hothers : corpus.Chosen pattern others) :
    cases = others := by
  have hmem : ∀ c, c ∈ cases ↔ c ∈ others := fun c => (h.mem c).trans (hothers.mem c).symm
  have hperm : cases.Perm others := (List.perm_ext_iff_of_nodup h.once hothers.once).2 hmem
  refine Case.eq_of_perm_of_inOrder hperm h.inOrder hothers.inOrder fun a ha b hb hrank => ?_
  obtain ⟨-, hcategory, hname⟩ := Case.rank_eq_iff.1 hrank
  obtain ⟨⟨steps, hcase⟩, -⟩ := (hothers.mem a).1 ha
  obtain ⟨⟨more, hother⟩, -⟩ := (hothers.mem b).1 hb
  refine hcase.eq_of_label_eq hnames hplaces hother ?_
  rw [Case.label, Case.label, hcategory, hname]

end

/-! ### Runs -/

/-- The run ends in an error. -/
def Outcome.fails {α : Type} (outcome : Outcome α) : Bool := !outcome.result.isOk

section

variable {r : Runner} {corpus : Corpus}

/-- A case that a path loads fails on its own when something is wrong with it. -/
theorem fails_runOne {path : String} {c : Case} (h : corpus.loadFolder path = .ok c) :
    (r.runOne corpus path).fails = (r.check c).2.isSome := by
  rcases hcheck : r.check c with ⟨events, _ | fault⟩
  · have hresult : (r.runOne corpus path).result = .ok ⟨path, none⟩ := by
      simp [Runner.runOne, h, hcheck]
    rw [Outcome.fails, hresult]
    rfl
  · have hresult : (r.runOne corpus path).result = .error (.testFailed (.single path fault)) := by
      simp [Runner.runOne, h, hcheck]
    rw [Outcome.fails, hresult]
    rfl

/-- **A case fails on its own when something is wrong with it.** -/
theorem fails_runOne_label (hnames : corpus.WellNamed) (hplaces : corpus.LiesByLabel)
    {steps : List String} {c : Case} (h : corpus.CaseAt steps c) :
    (r.runOne corpus c.label).fails = (r.check c).2.isSome :=
  fails_runOne (h.loadFolder_label hnames hplaces)

/-- Of the chosen cases, as many fail on their own as there are with something wrong. -/
theorem Corpus.Chosen.countP_fails (hnames : corpus.WellNamed) (hplaces : corpus.LiesByLabel)
    {pattern : String} {cases : List Case} (h : corpus.Chosen pattern cases) :
    (cases.countP fun c => (r.runOne corpus (c.category ++ "/" ++ c.name)).fails) =
      cases.countP fun c => (r.check c).2.isSome := by
  refine List.countP_congr fun c hc => ?_
  obtain ⟨⟨steps, hcase⟩, -⟩ := (h.mem c).1 hc
  have hfails := fails_runOne_label (r := r) hnames hplaces hcase
  rw [Case.label] at hfails
  rw [hfails]

theorem runAll_results (cases : List Case) :
    (r.runAll cases).2 = cases.map fun c => ⟨c.label, (r.check c).2⟩ := by
  rw [Runner.runAll, List.map_map]
  rfl

/-- The results of a batch that do not pass are those of the cases with something wrong. -/
theorem failures_runAll (cases : List Case) :
    Runner.failures (r.runAll cases).2 = cases.countP fun c => (r.check c).2.isSome := by
  rw [Runner.failures, runAll_results, List.countP_map]
  congr 1
  funext c
  cases h : (r.check c).2 <;> simp [CaseResult.passed, h]

/-- What a batch comes to, by the number of the cases with something wrong. -/
theorem runBatch_result (r : Runner) (corpus : Corpus) (pattern : String) :
    (r.runBatch corpus pattern).result =
      let cases := chosenByPattern pattern corpus.discover
      let wrong := cases.countP fun c => (r.check c).2.isSome
      if cases = [] then .error (.corpus (.noMatch pattern))
      else if wrong = 0 then .ok (cases.map fun c => ⟨c.label, none⟩)
      else .error (.testFailed (.several wrong)) := by
  simp only [Runner.runBatch, List.isEmpty_iff]
  split
  · rfl
  · simp only [failures_runAll]
    split
    next hwrong =>
      have hnone : ∀ c ∈ chosenByPattern pattern corpus.discover, (r.check c).2 = none := by
        intro c hc
        have hc := List.countP_eq_zero.1 hwrong c hc
        rwa [Bool.not_eq_true, Option.isSome_eq_false_iff, Option.isNone_iff_eq_none] at hc
      rw [runAll_results]
      exact congrArg Except.ok (List.map_congr_left fun c hc => by rw [hnone c hc])
    next => rfl

end

/-! ### Batches against single cases -/

/-- The batch of a pattern comes to what the cases come to one by one. -/
structure Runner.Agrees (r : Runner) (corpus : Corpus) (pattern : String) (cases : List Case) :
    Prop where
  /-- There is nothing to run exactly when no case is chosen. -/
  nothing : (∃ fault, (r.runBatch corpus pattern).result = .error (.corpus fault)) ↔ cases = []
  /-- A number of failures is reported exactly when so many cases fail on their own. -/
  failures : ∀ k, 0 < k →
    ((r.runBatch corpus pattern).result = .error (.testFailed (.several k)) ↔
      (cases.countP fun c => (r.runOne corpus (c.category ++ "/" ++ c.name)).fails) = k)
  /-- Otherwise all cases pass, and there is one result for each of them. -/
  otherwise : (¬ ∃ fault, (r.runBatch corpus pattern).result = .error (.corpus fault)) →
    (¬ ∃ k, 0 < k ∧ (r.runBatch corpus pattern).result = .error (.testFailed (.several k))) →
    (r.runBatch corpus pattern).result =
      .ok (cases.map fun c => ⟨c.category ++ "/" ++ c.name, none⟩)

/-- **Single cases and batches agree.**  In a corpus laid out by labels, a batch of any pattern
comes to what the chosen cases come to when each is run on its own: it has nothing to run exactly
when none is chosen, it fails with the number of those that fail, if there are any, and otherwise it
gives a result without a fault for each of them, in order and under its label. -/
theorem runBatch_agrees (r : Runner) {corpus : Corpus} (hnames : corpus.WellNamed)
    (hplaces : corpus.LiesByLabel) (pattern : String) :
    (∃ cases, corpus.Chosen pattern cases) ∧
      ∀ cases, corpus.Chosen pattern cases → r.Agrees corpus pattern cases := by
  have hdiscover := chosen_discover hnames hplaces pattern
  refine ⟨⟨_, hdiscover⟩, fun cases hchosen => ?_⟩
  have hresult := runBatch_result r corpus pattern
  rw [hdiscover.eq hnames hplaces hchosen] at hresult
  have hsingle := hchosen.countP_fails (r := r) hnames hplaces
  simp only at hresult
  by_cases hnil : cases = []
  · -- Nothing is chosen, and so nothing fails.
    rw [if_pos hnil] at hresult
    constructor
    · exact ⟨fun _ => hnil, fun _ => ⟨_, hresult⟩⟩
    · intro k hk
      simp [hresult, hnil, hk.ne]
    · intro hsome _
      exact absurd ⟨_, hresult⟩ hsome
  rw [if_neg hnil] at hresult
  by_cases hwrong : (cases.countP fun c => (r.check c).2.isSome) = 0
  · rw [if_pos hwrong] at hresult
    constructor
    · simp [hresult, hnil]
    · intro k hk
      rw [hsingle, hwrong]
      simp [hresult, hk.ne]
    · intro _ _
      exact hresult
  · rw [if_neg hwrong] at hresult
    constructor
    · simp [hresult, hnil]
    · intro k hk
      rw [hsingle]
      simp [hresult]
    · intro _ hnone
      exact absurd ⟨_, Nat.pos_of_ne_zero hwrong, hresult⟩ hnone

/-- The text of a case with a name, a specification and expectations, and not much else. -/
def sketchText (name spec expectations : String) : String :=
  "\x7b\"name\":\"" ++ name ++ "\",\"category\":\"unit\",\"spec\":" ++ spec ++
    ",\"input\":0,\"expectations\":" ++ expectations ++
    ",\"metadata\":\x7b\"description\":\"\"\x7d\x7d"

/-- A directory with one file that should hold a case. -/
def caseFolder (text : String) : Node := .dir [(caseFile, .file text.toUTF8)]

/-- A corpus with some directories, all in a directory with the name of their category. -/
def corpusOf (folders : List (String × Node)) : Corpus where
  root := some (.dir [("unit", .dir folders)])

/-- A corpus with a file that holds no case, a case that expects nothing and so fails, and a case
that expects an error and passes. -/
def unitCorpus : Corpus :=
  corpusOf
    [("torn", caseFolder "["),
      ("wrong", caseFolder (sketchText "wrong" "0" "\x7b\x7d")),
      ("right", caseFolder (sketchText "right" "0" "\x7b\"error_pattern\":\"array\"\x7d"))]

theorem wellNamed_caseFolder (text : String) : (caseFolder text).WellNamed := by
  refine .dir (List.nodup_singleton caseFile) ?_ fun entry hentry => ?_
  · show ∀ name ∈ [caseFile], Node.IsName name
    decide
  · rw [List.mem_singleton.1 hentry]
    exact .file

theorem wellNamed_corpusOf {folders : List (String × Node)}
    (h : (Node.dir folders).WellNamed) : (corpusOf folders).WellNamed := by
  rintro root ⟨⟩
  refine .dir (List.nodup_singleton "unit") ?_ fun entry hentry => ?_
  · show ∀ name ∈ ["unit"], Node.IsName name
    decide
  · rwa [List.mem_singleton.1 hentry]

theorem wellNamed_unitCorpus : unitCorpus.WellNamed := by
  refine wellNamed_corpusOf (.dir (by decide) (by decide) fun folder hfolder => ?_)
  simp only [List.mem_cons, List.not_mem_nil, or_false] at hfolder
  rcases hfolder with rfl | rfl | rfl <;> exact wellNamed_caseFolder _

/-- A batch of all cases reports the case that fails on its own, and a batch of the other case gives
its result. -/
theorem runBatch_agrees_unit :
    (plainRunner.runBatch unitCorpus "*").result = .error (.testFailed (.several 1)) ∧
      (plainRunner.runBatch unitCorpus "right").result = .ok [⟨"unit/right", none⟩] := by
  have hplaces : unitCorpus.LiesByLabel := by decide +kernel
  have hcases : (unitCorpus.loadable.map fun c =>
      (c.category, c.name, (plainRunner.check c).2.isSome)) =
        [("unit", "wrong", true), ("unit", "right", false)] := by decide +kernel
  obtain ⟨wrong, rest, hload, hwrong, hrest⟩ := List.map_eq_cons_iff.1 hcases
  obtain ⟨right, rfl, hright⟩ := List.map_eq_singleton_iff.1 hrest
  simp only [Prod.mk.injEq] at hwrong hright
  have hfound : unitCorpus.discover.Perm [wrong, right] := hload ▸ Corpus.discover_perm
  have hchosen := chosen_discover wellNamed_unitCorpus hplaces
  have hagrees := fun pattern =>
    (runBatch_agrees plainRunner wellNamed_unitCorpus hplaces pattern).2 _ (hchosen pattern)
  have hcount := fun pattern =>
    (hchosen pattern).countP_fails (r := plainRunner) wellNamed_unitCorpus hplaces
  constructor
  · have hall : chosenByPattern "*" unitCorpus.discover = unitCorpus.discover := if_pos rfl
    refine ((hagrees "*").failures 1 one_pos).2 ?_
    rw [hcount, hall, hfound.countP_eq]
    simp [hwrong, hright]
  · have hpicked : chosenByPattern "right" [wrong, right] = [right] := by
      rw [chosenByPattern, if_neg (by decide), List.filter_cons_of_neg, List.filter_cons_of_pos,
        List.filter_nil]
      · rw [hright.1, hright.2.1]
        decide
      · rw [hwrong.1, hwrong.2.1]
        decide
    have hone : chosenByPattern "right" unitCorpus.discover = [right] :=
      List.perm_singleton.1 (hpicked ▸ hfound.filter _)
    have hbatch := hagrees "right"
    have hnone := hcount "right"
    rw [hone] at hbatch hnone
    have hpass : ¬ ∃ k, 0 < k ∧
        (plainRunner.runBatch unitCorpus "right").result = .error (.testFailed (.several k)) := by
      rintro ⟨k, hk, hfailed⟩
      have hzero := hnone.symm.trans ((hbatch.failures k hk).1 hfailed)
      simp only [List.countP_singleton, hright.2.2, Bool.false_eq_true, if_false] at hzero
      exact hk.ne hzero
    have hsome : ¬ ∃ fault, (plainRunner.runBatch unitCorpus "right").result =
        .error (.corpus fault) :=
      fun hfault => List.cons_ne_nil right [] (hbatch.nothing.1 hfault)
    rw [hbatch.otherwise hsome hpass, List.map_singleton, hright.1, hright.2.1]
    rfl

end Reshape
