import Reshape.Proofs.Batches

/-!
# Cases and the order of entries

A file system lists the entries of a directory in an order of its own.  This file says what the
search for cases owes to that order:

* **`Node.Before`** — the order in which the files of a tree are come upon;
* **`Corpus.Enumerates`** — all files that should hold cases, each once and in that order;
* **`Corpus.CasesIn`** — the cases that files hold, one after the other; a file that holds none is
  passed over;
* **`SortsCases`** — cases by priority, category and name, and those equal in all three in the order
  in which they were;
* **`Node.Rearranged`**, **`Corpus.Rearranged`** — the same files in another order.

A case is what its file holds, together with the file that it names for its specification.  Loading
does not see the order of entries (**`loadAt_of_rearranged`**), so rearranging a corpus leaves the
cases as they are and moves at most those that the sorting leaves where they stand.  The main
statement is **`discover_settled`**.
-/

namespace Reshape

/-! ### The order of files -/

/-- The files behind the first steps are come upon before those behind the second ones: where the
ways part, the first entry stands before the second one in its directory. -/
inductive Node.Before : Node → List String → List String → Prop
  | apart {entries : List (String × Node)} {first second : String × Node}
      {steps more : List String} :
      [first, second].Sublist entries →
      Before (.dir entries) (first.1 :: steps) (second.1 :: more)
  | inside {entries : List (String × Node)} {entry : String × Node} {steps more : List String} :
      entry ∈ entries → Before entry.2 steps more →
      Before (.dir entries) (entry.1 :: steps) (entry.1 :: more)

/-- Entries that are put in front change nothing of the order of the files behind them. -/
theorem Node.Before.cons {entry : String × Node} {rest : List (String × Node)}
    {steps more : List String} (h : (Node.dir rest).Before steps more) :
    (Node.dir (entry :: rest)).Before steps more := by
  cases h with
  | apart hsub => exact .apart (hsub.cons entry)
  | inside hmem hbefore => exact .inside (List.mem_cons_of_mem entry hmem) hbefore

/-- The paths have some steps in common, and go on in the order of the files of the node. -/
def BeforeBehind (lead : List String) (node : Node) (path other : List String) : Prop :=
  ∃ steps more, path = lead ++ steps ∧ other = lead ++ more ∧ node.Before steps more

mutual

/-- **The search comes upon the files in their order.** -/
theorem inOrder_caseFilesBelow (lead : List String) (node : Node) :
    (caseFilesBelow lead node).Pairwise (BeforeBehind lead node) := by
  match node with
  | .file bytes => exact List.Pairwise.nil
  | .dir entries =>
    rw [caseFilesBelow]
    exact inOrder_caseFilesAmong lead entries
termination_by structural node

theorem inOrder_caseFilesAmong (lead : List String) (entries : List (String × Node)) :
    (caseFilesAmong lead entries).Pairwise (BeforeBehind lead (.dir entries)) := by
  match entries with
  | [] => exact List.Pairwise.nil
  | (name, node) :: rest =>
    have hbelow := inOrder_caseFilesBelow (lead ++ [name]) node
    have hrest := inOrder_caseFilesAmong lead rest
    have hentry : (caseFilesAmong lead [(name, node)]).Pairwise
        (BeforeBehind lead (.dir ((name, node) :: rest))) := by
      cases node with
      | file bytes =>
        by_cases hname : name = caseFile <;> simp [caseFilesAmong, caseFilesBelow, hname]
      | dir inner =>
        rw [caseFilesAmong, caseFilesAmong, List.nil_append, List.append_nil]
        refine hbelow.imp ?_
        rintro path other ⟨steps, more, rfl, rfl, hbefore⟩
        exact ⟨name :: steps, name :: more, by simp, by simp,
          @Node.Before.inside _ (name, .dir inner) _ _ List.mem_cons_self hbefore⟩
    rw [caseFilesAmong_cons, List.pairwise_append]
    refine ⟨hentry, hrest.imp ?_, fun path hpath other hother => ?_⟩
    · rintro path other ⟨steps, more, rfl, rfl, hbefore⟩
      exact ⟨steps, more, rfl, rfl, hbefore.cons⟩
    · -- A file of the first entry and one of another entry part in this directory.
      obtain ⟨steps, hfile, -, rfl⟩ := (mem_caseFilesAmong lead [(name, node)]).1 hpath
      obtain ⟨more, hnext, -, rfl⟩ := (mem_caseFilesAmong lead rest).1 hother
      obtain ⟨first, hfirst, tail, rfl⟩ := hfile.exists_entry
      obtain ⟨second, hsecond, behind, rfl⟩ := hnext.exists_entry
      obtain rfl : first = name := List.mem_singleton.1 hfirst
      obtain ⟨next, hmem, rfl⟩ := List.mem_map.1 hsecond
      have hsub : [(first, node), next].Sublist ((first, node) :: rest) :=
        (List.singleton_sublist.2 hmem).cons_cons (first, node)
      exact ⟨_, _, rfl, rfl, @Node.Before.apart _ (first, node) next _ _ hsub⟩
termination_by structural entries

end

/-! ### The cases in files -/

/-- The list has the steps to all files that should hold cases, each once, in the order in which
they are come upon. -/
structure Corpus.Enumerates (corpus : Corpus) (files : List (List String)) : Prop where
  mem : ∀ steps, steps ∈ files ↔ corpus.FileAt steps ∧ steps.getLast? = some caseFile
  once : files.Nodup
  inOrder : ∀ root, corpus.root = some root → files.Pairwise root.Before

/-- The cases that some files hold, in the order of the files.  A file that holds no case is passed
over, and nothing else comes of it. -/
inductive Corpus.CasesIn (corpus : Corpus) : List (List String) → List Case → Prop
  | nil : CasesIn corpus [] []
  | held {steps : List String} {files : List (List String)} {c : Case} {cases : List Case} :
      corpus.Holds steps c → CasesIn corpus files cases →
      CasesIn corpus (steps :: files) (c :: cases)
  | passedOver {steps : List String} {files : List (List String)} {cases : List Case} :
      (∀ c, ¬ corpus.Holds steps c) → CasesIn corpus files cases →
      CasesIn corpus (steps :: files) cases

/-- The list has the cases found by priority, category and name; cases equal in all three are in the
order in which they were found. -/
structure SortsCases (found cases : List Case) : Prop where
  perm : cases.Perm found
  inOrder : cases.Pairwise fun a b => a.rank ≤ b.rank
  stable : ∀ rank, (cases.filter fun c => c.rank = rank) = found.filter fun c => c.rank = rank

section

variable {corpus : Corpus}

theorem enumerates_caseFiles (hnames : corpus.WellNamed) : corpus.Enumerates corpus.caseFiles where
  mem steps := Corpus.mem_caseFiles_iff
  once := Corpus.nodup_caseFiles hnames
  inOrder root hroot := by
    rw [Corpus.caseFiles, hroot]
    refine (inOrder_caseFilesBelow [] root).imp ?_
    rintro path other ⟨steps, more, rfl, rfl, hbefore⟩
    exact hbefore

/-- A file is loaded by the path that the names on the way to it make up. -/
theorem load_intercalate (hnames : corpus.WellNamed) {steps : List String}
    (hfile : corpus.FileAt steps) (hne : steps ≠ []) :
    corpus.load ("/".intercalate steps) = corpus.loadAt steps := by
  obtain ⟨root, hroot, hfile⟩ := hfile
  have hsteps : ∀ step ∈ steps, Node.IsName step := hfile.isName (hnames root hroot)
  have hpath := Node.stepsOf_intercalate hne hsteps
  have hrelative : ¬ isAbsolute ("/".intercalate steps) = true := by
    intro habsolute
    have hmem := empty_mem_stepsOf_of_isAbsolute habsolute
    rw [hpath] at hmem
    exact (hsteps "" hmem).1 rfl
  rw [Corpus.load, stepsBehind, if_neg hrelative, List.nil_append, hpath]

/-- A file that should hold a case is loaded by its path, to the case that it holds. -/
theorem load_ok_iff_holds (hnames : corpus.WellNamed) (steps : List String)
    (hsteps : steps ∈ corpus.caseFiles) (c : Case) :
    corpus.load ("/".intercalate steps) = .ok c ↔ corpus.Holds steps c := by
  obtain ⟨hfile, hname⟩ := Corpus.mem_caseFiles_iff.1 hsteps
  have hne : steps ≠ [] := fun hnil => by simp [hnil] at hname
  rw [load_intercalate hnames hfile hne, Corpus.loadAt_ok_iff]

/-- What can be loaded of some files are the cases that they hold. -/
theorem casesIn_filterMap (files : List (List String)) :
    corpus.CasesIn files (files.filterMap fun steps => (corpus.loadAt steps).toOption) := by
  induction files with
  | nil => exact .nil
  | cons steps files ih =>
    rw [List.filterMap_cons]
    cases hload : corpus.loadAt steps with
    | ok c => exact .held (Corpus.loadAt_ok_iff.1 hload) ih
    | error fault =>
      refine .passedOver (fun c hcase => ?_) ih
      rw [Corpus.loadAt_ok_iff.2 hcase] at hload
      cases hload

theorem casesIn_caseFiles : corpus.CasesIn corpus.caseFiles corpus.loadable := by
  rw [Corpus.loadable_eq]
  exact casesIn_filterMap corpus.caseFiles

end

/-- Sorting leaves items in their order that the comparison does not tell apart. -/
theorem filter_mergeSort {α : Type} {le : α → α → Bool}
    (htrans : ∀ a b c, le a b = true → le b c = true → le a c = true)
    (htotal : ∀ a b, (le a b || le b a) = true) {p : α → Bool}
    (h : ∀ a b, p a = true → p b = true → le a b = true) (items : List α) :
    (items.mergeSort le).filter p = items.filter p := by
  have hpairwise : (items.filter p).Pairwise fun a b => le a b = true := by
    refine List.pairwise_of_forall_mem_list fun a ha b hb => ?_
    exact h a b (List.mem_filter.1 ha).2 (List.mem_filter.1 hb).2
  have hsub : (items.filter p).Sublist (items.mergeSort le) :=
    List.sublist_mergeSort htrans htotal hpairwise List.filter_sublist
  have hfiltered := hsub.filter p
  rw [List.filter_filter] at hfiltered
  simp only [Bool.and_self] at hfiltered
  refine (hfiltered.eq_of_length ?_).symm
  exact ((List.mergeSort_perm items le).filter p).length_eq.symm

/-- **Discovery sorts the cases that can be loaded.** -/
theorem sortsCases_discover (corpus : Corpus) : SortsCases corpus.loadable corpus.discover where
  perm := Corpus.discover_perm
  inOrder := Corpus.discover_inOrder
  stable rank := by
    refine filter_mergeSort Case.isUpTo_trans Case.isUpTo_total (fun a b ha hb => ?_) _
    rw [Case.isUpTo_iff, of_decide_eq_true ha, of_decide_eq_true hb]

/-! ### Another order of entries -/

/-- The trees have the same files and directories under the same names, in whatever order they list
them. -/
inductive Node.Rearranged : Node → Node → Prop
  | file {bytes : ByteArray} : Rearranged (.file bytes) (.file bytes)
  | dir {entries others : List (String × Node)} :
      (Keyed.keys entries).Perm (Keyed.keys others) →
      (∀ name node other, (name, node) ∈ entries → (name, other) ∈ others →
        Rearranged node other) →
      Rearranged (.dir entries) (.dir others)

/-- The corpora are both missing, or have the same files in whatever order. -/
def Corpus.Rearranged (corpus other : Corpus) : Prop :=
  Option.Rel Node.Rearranged corpus.root other.root

namespace Node

theorem Rearranged.wellNamed {node other : Node} (h : node.Rearranged other)
    (hnames : node.WellNamed) : other.WellNamed := by
  induction h with
  | file => exact .file
  | @dir entries others hkeys _ ih =>
    obtain _ | ⟨hnodup, hentries, hinner⟩ := hnames
    refine .dir (hkeys.nodup_iff.1 hnodup) (fun name hname => ?_) fun entry hentry => ?_
    · exact hentries name (hkeys.mem_iff.2 hname)
    · have hkey : entry.1 ∈ Keyed.keys entries := hkeys.mem_iff.2 (List.mem_map_of_mem hentry)
      obtain ⟨⟨name, node⟩, hmem, hname⟩ := List.mem_map.1 hkey
      obtain rfl : name = entry.1 := hname
      exact ih entry.1 node entry.2 hmem hentry (hinner _ hmem)

theorem Rearranged.refl {node : Node} (hnames : node.WellNamed) : node.Rearranged node := by
  induction hnames with
  | file => exact .file
  | dir hnodup _ _ ih =>
    refine .dir (List.Perm.refl _) fun name node other hnode hother => ?_
    obtain rfl : node = other :=
      (Prod.mk.inj (List.inj_on_of_nodup_map hnodup hnode hother rfl)).2
    exact ih _ hnode

/-- **The entries of a directory can be listed in any order.** -/
theorem Rearranged.of_perm {entries others : List (String × Node)}
    (hnames : (Node.dir entries).WellNamed) (h : entries.Perm others) :
    (Node.dir entries).Rearranged (.dir others) := by
  obtain _ | ⟨hkeys, hinner⟩ := Rearranged.refl hnames
  refine .dir (h.map Prod.fst) fun name node other hnode hother => ?_
  exact hinner name node other hnode (h.mem_iff.2 hother)

/-- What one order has under a name, the other one has under the same name. -/
theorem get?_of_rearranged {entries others : List (String × Node)}
    (h : (Node.dir entries).Rearranged (.dir others)) (name : String) :
    Option.Rel Rearranged (Keyed.get? name entries) (Keyed.get? name others) := by
  obtain _ | ⟨hkeys, hinner⟩ := h
  cases hnode : Keyed.get? name entries with
  | none =>
    cases hother : Keyed.get? name others with
    | none => exact .none
    | some other =>
      obtain ⟨node, h⟩ := Keyed.exists_get?_iff.2 (hkeys.mem_iff.2 (Keyed.mem_keys_of_get? hother))
      rw [hnode] at h
      cases h
  | some node =>
    obtain ⟨other, hother⟩ :=
      Keyed.exists_get?_iff.2 (hkeys.mem_iff.1 (Keyed.mem_keys_of_get? hnode))
    rw [hother]
    exact .some (hinner name node other (Keyed.mem_of_get? hnode) (Keyed.mem_of_get? hother))

/-- **Looking up does not see the order of entries.**  A path leads to the same text, or fails for
the same reason. -/
theorem walk_text_of_rearranged {node other : Node} (h : node.Rearranged other)
    {above others : List Node} (habove : List.Forall₂ Rearranged above others)
    (steps : List String) :
    (walk above node steps).bind text = (walk others other steps).bind text := by
  induction steps generalizing node other above others with
  | nil =>
    cases h with
    | file => rfl
    | dir => rfl
  | cons step rest ih =>
    cases h with
    | file => rfl
    | @dir entries moved hkeys hinner =>
      have hdir : (Node.dir entries).Rearranged (.dir moved) := .dir hkeys hinner
      simp only [walk]
      split
      · exact ih hdir habove
      · split
        · cases habove with
          | nil => rfl
          | cons hparent habove => exact ih hparent habove
        · have hget := get?_of_rearranged hdir step
          cases hnode : Keyed.get? step entries with
          | none =>
            rw [hnode] at hget
            generalize Keyed.get? step moved = found at hget
            cases hget
            rfl
          | some child =>
            rw [hnode] at hget
            generalize Keyed.get? step moved = found at hget
            cases hget with
            | some hchild => exact ih hchild (.cons hdir habove)

theorem fileAt_of_rearranged {node other : Node} (h : node.Rearranged other)
    {steps : List String} : node.FileAt steps ↔ other.FileAt steps := by
  induction h generalizing steps with
  | file => exact Iff.rfl
  | @dir entries others hkeys _ ih =>
    constructor
    · rintro (_ | @⟨_, name, node, tail, hmem, hfile⟩)
      have hkey : name ∈ Keyed.keys others := hkeys.mem_iff.1 (List.mem_map_of_mem hmem)
      obtain ⟨⟨key, other⟩, hother, hname⟩ := List.mem_map.1 hkey
      obtain rfl : key = name := hname
      exact .inside hother ((ih key node other hmem hother).1 hfile)
    · rintro (_ | @⟨_, name, other, tail, hmem, hfile⟩)
      have hkey : name ∈ Keyed.keys entries := hkeys.mem_iff.2 (List.mem_map_of_mem hmem)
      obtain ⟨⟨key, node⟩, hnode, hname⟩ := List.mem_map.1 hkey
      obtain rfl : key = name := hname
      exact .inside hnode ((ih key node other hnode hmem).2 hfile)

end Node

/-! ### Rearranged corpora -/

section

variable {corpus other : Corpus}

/-- Loading goes by the texts of files alone. -/
theorem loadAt_congr (h : ∀ steps, corpus.readText steps = other.readText steps)
    (steps : List String) : corpus.loadAt steps = other.loadAt steps := by
  have hread : corpus.readText = other.readText := funext h
  have hspec : corpus.resolveSpec = other.resolveSpec := by
    funext folder spec
    cases spec with
    | string name => simp only [Corpus.resolveSpec, hread]
    | _ => rfl
  simp only [Corpus.loadAt, hread, hspec]

/-- **Loading does not see the order of entries.** -/
theorem loadAt_of_rearranged (h : corpus.Rearranged other) (steps : List String) :
    corpus.loadAt steps = other.loadAt steps := by
  refine loadAt_congr (fun steps => ?_) steps
  rw [Corpus.Rearranged] at h
  rw [Corpus.readText, Corpus.readText]
  generalize corpus.root = root at h
  generalize other.root = moved at h
  cases h with
  | none => rfl
  | some hroot =>
    cases Node.pathFault? steps with
    | some fault => rfl
    | none => exact Node.walk_text_of_rearranged hroot .nil steps

theorem wellNamed_of_rearranged (h : corpus.Rearranged other) (hnames : corpus.WellNamed) :
    other.WellNamed := by
  intro moved hmoved
  rw [Corpus.Rearranged, hmoved] at h
  cases hroot : corpus.root with
  | none =>
    rw [hroot] at h
    cases h
  | some root =>
    rw [hroot] at h
    cases h with
    | some hnode => exact hnode.wellNamed (hnames root hroot)

theorem caseFiles_perm_of_rearranged (h : corpus.Rearranged other) (hnames : corpus.WellNamed) :
    other.caseFiles.Perm corpus.caseFiles := by
  refine (List.perm_ext_iff_of_nodup (Corpus.nodup_caseFiles (wellNamed_of_rearranged h hnames))
    (Corpus.nodup_caseFiles hnames)).2 fun steps => ?_
  rw [Corpus.mem_caseFiles_iff, Corpus.mem_caseFiles_iff]
  refine and_congr_left fun _ => ?_
  rw [Corpus.FileAt, Corpus.FileAt]
  rw [Corpus.Rearranged] at h
  generalize corpus.root = root at h
  generalize other.root = moved at h
  cases h with
  | none => simp
  | some hroot => simp [Node.fileAt_of_rearranged hroot]

/-- Rearranging a corpus leaves the cases that can be loaded. -/
theorem loadable_perm_of_rearranged (h : corpus.Rearranged other) (hnames : corpus.WellNamed) :
    other.loadable.Perm corpus.loadable := by
  rw [Corpus.loadable_eq, Corpus.loadable_eq]
  simp only [← loadAt_of_rearranged h]
  exact (caseFiles_perm_of_rearranged h hnames).filterMap _

end

/-- **Discovery loses nothing, invents nothing and is in order.**  Every file of the right name, at
any depth, is loaded by its path to the case that it holds.  A file is passed over when its text is
that of no case, or when it names a file for its specification and that one has none; the others are
found all the same.  They are given by priority, category and name, and cases equal in all three
stay in the order of their files.  So in a corpus with its entries in another order discovery gives
the same cases, and the same list if cases equal in all three are the same case. -/
theorem discover_settled {corpus : Corpus} (hnames : corpus.WellNamed) :
    (∃ files found, corpus.Enumerates files ∧
      (∀ steps ∈ files, ∀ c,
        corpus.load ("/".intercalate steps) = .ok c ↔ corpus.Holds steps c) ∧
      corpus.CasesIn files found ∧ SortsCases found corpus.discover) ∧
    ∀ other, corpus.Rearranged other →
      other.discover.Perm corpus.discover ∧
      ((∀ steps more c d, corpus.CaseAt steps c → corpus.CaseAt more d → c.rank = d.rank → c = d) →
        other.discover = corpus.discover) := by
  refine ⟨⟨corpus.caseFiles, corpus.loadable, enumerates_caseFiles hnames,
    load_ok_iff_holds hnames, casesIn_caseFiles, sortsCases_discover corpus⟩, fun other h => ?_⟩
  have hloadable := loadable_perm_of_rearranged h hnames
  have hperm : other.discover.Perm corpus.discover :=
    Corpus.discover_perm.trans (hloadable.trans Corpus.discover_perm.symm)
  refine ⟨hperm, fun hapart => ?_⟩
  refine Case.eq_of_perm_of_inOrder hperm Corpus.discover_inOrder Corpus.discover_inOrder
    fun a ha b hb hrank => ?_
  obtain ⟨steps, hcase⟩ := Corpus.mem_discover_iff.1 ha
  obtain ⟨more, hother⟩ := Corpus.mem_discover_iff.1 hb
  exact hapart steps more a b hcase hother hrank

/-- The text of a case that names a file for its specification. -/
def filedText : String := sketchText "filed" "\"spec.json\"" "\x7b\x7d"

/-- A directory with that case, and with the file that it names. -/
def filedFolder (spec : String) : Node :=
  .dir [(caseFile, .file filedText.toUTF8), ("spec.json", .file spec.toUTF8)]

/-- A file that holds no case, a case with a specification of its own, and three files of one text,
whose file with the specification is torn, missing and sound. -/
def filedFolders : List (String × Node) :=
  [("stray", caseFolder "["),
    ("plain", caseFolder (sketchText "plain" "0" "\x7b\x7d")),
    ("torn", filedFolder "["),
    ("lost", caseFolder filedText),
    ("filed", filedFolder "[]")]

theorem wellNamed_filedFolder (spec : String) : (filedFolder spec).WellNamed := by
  refine .dir ?_ ?_ fun entry hentry => ?_
  · show [caseFile, "spec.json"].Nodup
    decide
  · show ∀ name ∈ [caseFile, "spec.json"], Node.IsName name
    decide
  · simp only [List.mem_cons, List.not_mem_nil, or_false] at hentry
    rcases hentry with rfl | rfl <;> exact .file

theorem wellNamed_filedFolders : (Node.dir filedFolders).WellNamed := by
  refine .dir (by decide) (by decide) fun folder hfolder => ?_
  simp only [filedFolders, List.mem_cons, List.not_mem_nil, or_false] at hfolder
  rcases hfolder with rfl | rfl | rfl | rfl | rfl
  · exact wellNamed_caseFolder _
  · exact wellNamed_caseFolder _
  · exact wellNamed_filedFolder _
  · exact wellNamed_caseFolder _
  · exact wellNamed_filedFolder _

theorem rearranged_corpusOf {folders others : List (String × Node)}
    (hnames : (Node.dir folders).WellNamed) (h : folders.Perm others) :
    (corpusOf folders).Rearranged (corpusOf others) := by
  refine .some (.dir (List.Perm.refl _) fun name node other hnode hother => ?_)
  cases List.mem_singleton.1 hnode
  cases List.mem_singleton.1 hother
  exact .of_perm hnames h

/-- However the entries are listed, the two cases that have a specification are found, the one that
is named "filed" first and with what is in its file. -/
theorem discover_settled_filed :
    (corpusOf filedFolders.reverse).discover = (corpusOf filedFolders).discover ∧
      ((corpusOf filedFolders).discover.map fun c => (c.label, c.spec.compact)) =
        [("unit/filed", "[]"), ("unit/plain", "0")] := by
  have hcases : ((corpusOf filedFolders).loadable.map fun c =>
      (c.metadata.priority, c.category, c.name, c.spec.compact)) =
        [(100, "unit", "plain", "0"), (100, "unit", "filed", "[]")] := by decide +kernel
  obtain ⟨plain, rest, hload, hplain, hrest⟩ := List.map_eq_cons_iff.1 hcases
  obtain ⟨filed, rfl, hfiled⟩ := List.map_eq_singleton_iff.1 hrest
  simp only [Prod.mk.injEq] at hplain hfiled
  have hrank : filed.rank < plain.rank := by
    rw [Case.rank, Case.rank, hplain.1, hplain.2.1, hplain.2.2.1, hfiled.1, hfiled.2.1,
      hfiled.2.2.1]
    decide
  have hsorted : [filed, plain].Pairwise fun a b => a.rank < b.rank := List.pairwise_pair.2 hrank
  have hdiscover : (corpusOf filedFolders).discover = [filed, plain] :=
    Corpus.discover_eq (hload ▸ List.Perm.swap filed plain []) hsorted
  have hmoved := (discover_settled (wellNamed_corpusOf wellNamed_filedFolders)).2 _
    (rearranged_corpusOf wellNamed_filedFolders (List.reverse_perm filedFolders).symm)
  constructor
  · refine hmoved.2 fun steps more c d hc hd hrank => ?_
    have hfirst := Corpus.mem_discover_iff.2 ⟨steps, hc⟩
    have hsecond := Corpus.mem_discover_iff.2 ⟨more, hd⟩
    rw [hdiscover] at hfirst hsecond
    exact Case.eq_of_rank_eq hsorted hfirst hsecond hrank
  · rw [hdiscover, List.map_cons, List.map_singleton, Case.label, Case.label, hplain.2.1,
      hplain.2.2.1, hplain.2.2.2, hfiled.2.1, hfiled.2.2.1, hfiled.2.2.2]
    rfl

end Reshape
