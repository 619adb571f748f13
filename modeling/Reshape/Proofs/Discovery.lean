import Reshape.Corpus.Catalog
import Mathlib.Data.List.Nodup
import Mathlib.Data.Prod.Lex
import Mathlib.Data.String.Basic

/-!
# Finding cases

What the search for cases finds, said without the search:

* **`Node.FileAt`** — a file of a tree, behind the names that lead to it;
* **`Node.WellNamed`** — trees in which every entry has a name that leads to it alone;
* **`Corpus.Specifies`**, **`Corpus.Holds`** — what the specification of a case stands for, its own
  value or what another file has, and the case that a file holds;
* **`Corpus.CaseAt`** — a case of a corpus, behind the steps to its file;
* **`Case.rank`** — the place of a case in the order of the cases.

Loading a file gives exactly the case that the file holds (**`Corpus.loadAt_ok_iff`**).  The search
goes through every directory.  In every tree it finds exactly the files of the right name
(**`mem_caseFilesBelow`**), and each of them once when the tree is well named
(**`nodup_caseFilesBelow`**).  So the cases found are exactly those at some place
(**`mem_discover_iff`**), in the order of their ranks (**`discover_inOrder`**).
-/

namespace Reshape

open Json

/-! ### Files of a tree -/

/-- The steps are the names that lead to a file. -/
inductive Node.FileAt : Node → List String → Prop
  | here {bytes : ByteArray} : FileAt (.file bytes) []
  | inside {entries : List (String × Node)} {name : String} {node : Node} {steps : List String} :
      (name, node) ∈ entries → FileAt node steps → FileAt (.dir entries) (name :: steps)

/-- A text can be the name of an entry: it is a single step of a path, and not an empty one. -/
def Node.IsName (name : String) : Prop := name ≠ "" ∧ '/' ∉ name.toList

instance (name : String) : Decidable (Node.IsName name) :=
  inferInstanceAs (Decidable (name ≠ "" ∧ '/' ∉ name.toList))

/-- The entries of every directory have names, and no two of them the same. -/
inductive Node.WellNamed : Node → Prop
  | file {bytes : ByteArray} : WellNamed (.file bytes)
  | dir {entries : List (String × Node)} :
      (Keyed.keys entries).Nodup → (∀ name ∈ Keyed.keys entries, Node.IsName name) →
      (∀ entry ∈ entries, WellNamed entry.2) → WellNamed (.dir entries)

namespace Node

theorem fileAt_file_iff {bytes : ByteArray} {steps : List String} :
    (Node.file bytes).FileAt steps ↔ steps = [] := by
  constructor
  · rintro ⟨⟩
    rfl
  · rintro rfl
    exact .here

theorem not_fileAt_empty {steps : List String} : ¬ (Node.dir []).FileAt steps := by
  rintro (_ | ⟨hmem, -⟩)
  exact List.not_mem_nil hmem

theorem fileAt_cons_iff {name : String} {node : Node} {rest : List (String × Node)}
    {steps : List String} :
    (Node.dir ((name, node) :: rest)).FileAt steps ↔
      (∃ tail, steps = name :: tail ∧ node.FileAt tail) ∨ (Node.dir rest).FileAt steps := by
  constructor
  · rintro (_ | ⟨hmem, hfile⟩)
    rcases List.mem_cons.1 hmem with heq | hrest
    · cases heq
      exact .inl ⟨_, rfl, hfile⟩
    · exact .inr (.inside hrest hfile)
  · rintro (⟨tail, rfl, hfile⟩ | hfile)
    · exact .inside List.mem_cons_self hfile
    · obtain _ | ⟨hmem, hinside⟩ := hfile
      exact .inside (List.mem_cons_of_mem _ hmem) hinside

/-- The files of a directory are those of its first entry, and those of the others. -/
theorem exists_fileAt_cons_iff {name : String} {node : Node} {rest : List (String × Node)}
    {P : List String → Prop} :
    (∃ steps, (Node.dir ((name, node) :: rest)).FileAt steps ∧ P steps) ↔
      (∃ tail, node.FileAt tail ∧ P (name :: tail)) ∨
        ∃ steps, (Node.dir rest).FileAt steps ∧ P steps := by
  constructor
  · rintro ⟨steps, hfile, hP⟩
    rcases fileAt_cons_iff.1 hfile with ⟨tail, rfl, htail⟩ | hrest
    · exact .inl ⟨tail, htail, hP⟩
    · exact .inr ⟨steps, hrest, hP⟩
  · rintro (⟨tail, htail, hP⟩ | ⟨steps, hrest, hP⟩)
    · exact ⟨name :: tail, fileAt_cons_iff.2 (.inl ⟨tail, rfl, htail⟩), hP⟩
    · exact ⟨steps, fileAt_cons_iff.2 (.inr hrest), hP⟩

/-- A file in a directory is behind the name of one of its entries. -/
theorem FileAt.exists_entry {entries : List (String × Node)} {steps : List String}
    (h : (Node.dir entries).FileAt steps) :
    ∃ name ∈ Keyed.keys entries, ∃ tail, steps = name :: tail := by
  obtain _ | ⟨hmem, -⟩ := h
  exact ⟨_, List.mem_map.2 ⟨_, hmem, rfl⟩, _, rfl⟩

theorem FileAt.isName {node : Node} {steps : List String} (h : node.FileAt steps)
    (hnames : node.WellNamed) : ∀ step ∈ steps, IsName step := by
  induction h with
  | here => exact List.forall_mem_nil _
  | @inside entries name node steps hmem _ ih =>
    obtain _ | ⟨-, hentries, hinner⟩ := hnames
    refine List.forall_mem_cons.2 ⟨hentries name ?_, ih (hinner _ hmem)⟩
    exact List.mem_map.2 ⟨_, hmem, rfl⟩

end Node

/-! ### The search -/

section

variable {found : List String}

mutual

/-- **The search finds the files of the right name, and nothing else.** -/
theorem mem_caseFilesBelow (lead : List String) (node : Node) :
    found ∈ caseFilesBelow lead node ↔
      ∃ steps, node.FileAt steps ∧ steps.getLast? = some caseFile ∧ found = lead ++ steps := by
  match node with
  | .file bytes =>
    -- No step leads to a file that is searched itself, so there is no name to go by.
    simp [caseFilesBelow, Node.fileAt_file_iff]
  | .dir entries =>
    rw [caseFilesBelow]
    exact mem_caseFilesAmong lead entries
termination_by structural node

theorem mem_caseFilesAmong (lead : List String) (entries : List (String × Node)) :
    found ∈ caseFilesAmong lead entries ↔
      ∃ steps, (Node.dir entries).FileAt steps ∧ steps.getLast? = some caseFile ∧
        found = lead ++ steps := by
  match entries with
  | [] => simp [caseFilesAmong, Node.not_fileAt_empty]
  | (name, .file bytes) :: rest =>
    have hrest := mem_caseFilesAmong lead rest
    rw [caseFilesAmong, List.mem_append, hrest, Node.exists_fileAt_cons_iff]
    refine or_congr ?_ Iff.rfl
    simp only [caseFilesBelow, Node.fileAt_file_iff, exists_eq_left]
    by_cases hname : name = caseFile <;> simp [hname]
  | (name, .dir inner) :: rest =>
    have hrest := mem_caseFilesAmong lead rest
    have hinner := mem_caseFilesBelow (lead ++ [name]) (.dir inner)
    rw [caseFilesAmong, List.mem_append, hrest, Node.exists_fileAt_cons_iff]
    refine or_congr (hinner.trans ?_) Iff.rfl
    refine exists_congr fun tail => and_congr_right fun hfile => ?_
    -- The name at the end is found below the entry, since the entry is no file itself.
    obtain ⟨first, -, more, rfl⟩ := hfile.exists_entry
    rw [List.getLast?_cons_cons, List.append_assoc]
    rfl
termination_by structural entries

end

theorem caseFilesAmong_cons (lead : List String) (entry : String × Node)
    (rest : List (String × Node)) :
    caseFilesAmong lead (entry :: rest) =
      caseFilesAmong lead [entry] ++ caseFilesAmong lead rest := by
  obtain ⟨name, node⟩ := entry
  simp only [caseFilesAmong, List.append_nil]

/-- Files of different entries are behind different steps. -/
theorem disjoint_caseFilesAmong {lead : List String} {entry : String × Node}
    {rest : List (String × Node)} (h : entry.1 ∉ Keyed.keys rest) :
    (caseFilesAmong lead [entry]).Disjoint (caseFilesAmong lead rest) := by
  intro found hentry hrest
  obtain ⟨steps, hfile, -, rfl⟩ := (mem_caseFilesAmong lead [entry]).1 hentry
  obtain ⟨others, hother, -, hsame⟩ := (mem_caseFilesAmong lead rest).1 hrest
  obtain ⟨name, hname, tail, rfl⟩ := hfile.exists_entry
  obtain ⟨other, hmem, more, rfl⟩ := hother.exists_entry
  obtain rfl : name = other := (List.cons.inj (List.append_cancel_left hsame)).1
  rw [List.mem_singleton.1 hname] at hmem
  exact h hmem

mutual

/-- **The search finds no file of a well-named tree twice.** -/
theorem nodup_caseFilesBelow (lead : List String) (node : Node) (h : node.WellNamed) :
    (caseFilesBelow lead node).Nodup := by
  match node with
  | .file bytes => exact List.nodup_nil
  | .dir entries =>
    rw [caseFilesBelow]
    obtain _ | ⟨hnodup, -, hinner⟩ := h
    exact nodup_caseFilesAmong lead entries hnodup hinner
termination_by structural node

theorem nodup_caseFilesAmong (lead : List String) (entries : List (String × Node))
    (hnodup : (Keyed.keys entries).Nodup) (hinner : ∀ entry ∈ entries, entry.2.WellNamed) :
    (caseFilesAmong lead entries).Nodup := by
  match entries with
  | [] => exact List.nodup_nil
  | (name, node) :: rest =>
    have hbelow := nodup_caseFilesBelow (lead ++ [name]) node (hinner _ List.mem_cons_self)
    have hrest := nodup_caseFilesAmong lead rest (List.nodup_cons.1 hnodup).2
      fun entry hentry => hinner entry (List.mem_cons_of_mem _ hentry)
    have hentry : (caseFilesAmong lead [(name, node)]).Nodup := by
      cases node with
      | file bytes =>
        by_cases hname : name = caseFile <;>
          simp [caseFilesAmong, caseFilesBelow, hname]
      | dir inner => simpa [caseFilesAmong] using hbelow
    rw [caseFilesAmong_cons]
    exact hentry.append hrest (disjoint_caseFilesAmong (List.nodup_cons.1 hnodup).1)
termination_by structural entries

end

end

/-! ### The cases of a corpus -/

/-- The steps lead to a file of the corpus. -/
def Corpus.FileAt (corpus : Corpus) (steps : List String) : Prop :=
  ∃ root, corpus.root = some root ∧ root.FileAt steps

/-- The corpus is missing, or its tree is well named. -/
def Corpus.WellNamed (corpus : Corpus) : Prop :=
  ∀ root, corpus.root = some root → root.WellNamed

/-- The name is that of a file with a specification. -/
def NamesSpecification (name : String) : Prop := ∃ stem, name = stem ++ specEnding

/-- For a case in the directory, the specification that it states is the other one: a name of a file
with a specification stands for the document in that file, and anything else for itself. -/
inductive Corpus.Specifies (corpus : Corpus) (folder : List String) : Value → Value → Prop
  | own {spec : Value} :
      (∀ name, spec = .string name → ¬ NamesSpecification name) → Specifies corpus folder spec spec
  | other {name text : String} {spec : Value} :
      NamesSpecification name → corpus.readText (stepsBehind folder name) = .ok text →
      Json.read text = .ok spec → Specifies corpus folder (.string name) spec

/-- The file behind the steps holds the case: its text is that of a case, and the specification is
what the one in the text is for a case in the directory of the file. -/
inductive Corpus.Holds (corpus : Corpus) (steps : List String) : Case → Prop
  | intro {text : String} {c : Case} {spec : Value} :
      corpus.readText steps = .ok text → Case.read text = .ok c →
      corpus.Specifies steps.dropLast c.spec spec → Holds corpus steps { c with spec := spec }

/-- The steps lead to a file of the right name, and it holds the case. -/
structure Corpus.CaseAt (corpus : Corpus) (steps : List String) (c : Case) : Prop where
  file : corpus.FileAt steps
  name : steps.getLast? = some caseFile
  holds : corpus.Holds steps c

theorem namesSpecification_iff {name : String} :
    NamesSpecification name ↔ specEnding.toList.isSuffixOf name.toList = true := by
  rw [List.isSuffixOf_iff_suffix]
  constructor
  · rintro ⟨stem, rfl⟩
    exact ⟨stem.toList, String.toList_append.symm⟩
  · rintro ⟨stem, hname⟩
    refine ⟨String.ofList stem, String.ext ?_⟩
    rw [String.toList_append, String.toList_ofList, hname]

namespace Corpus

/-- The steps to the files that hold cases, in the order in which they are found. -/
def caseFiles (corpus : Corpus) : List (List String) :=
  match corpus.root with
  | none => []
  | some root => caseFilesBelow [] root

variable {corpus : Corpus}

theorem loadable_eq :
    corpus.loadable = corpus.caseFiles.filterMap fun steps => (corpus.loadAt steps).toOption := by
  rw [loadable, caseFiles]
  cases corpus.root <;> rfl

theorem mem_caseFiles_iff {steps : List String} :
    steps ∈ corpus.caseFiles ↔ corpus.FileAt steps ∧ steps.getLast? = some caseFile := by
  rw [caseFiles, FileAt]
  cases corpus.root with
  | none => simp
  | some root => simp [mem_caseFilesBelow]

theorem nodup_caseFiles (h : corpus.WellNamed) : corpus.caseFiles.Nodup := by
  rw [caseFiles]
  cases hroot : corpus.root with
  | none => exact List.nodup_nil
  | some root => exact nodup_caseFilesBelow [] root (h root hroot)

/-- A text that ends as the names of files with specifications do stands for what is in the file. -/
theorem resolveSpec_of_names {folder : List String} {name : String}
    (h : NamesSpecification name) {spec : Value} :
    corpus.resolveSpec folder (.string name) = .ok spec ↔
      ∃ text, corpus.readText (stepsBehind folder name) = .ok text ∧ Json.read text = .ok spec := by
  rw [resolveSpec, if_pos (namesSpecification_iff.1 h)]
  cases corpus.readText (stepsBehind folder name) with
  | error fault => simp
  | ok text => cases hread : Json.read text <;> simp [hread]

/-- **A specification is resolved to what it stands for,** and to nothing if it stands for
nothing. -/
theorem resolveSpec_ok_iff {folder : List String} {stated spec : Value} :
    corpus.resolveSpec folder stated = .ok spec ↔ corpus.Specifies folder stated spec := by
  by_cases hname : ∃ name, stated = .string name ∧ NamesSpecification name
  · obtain ⟨name, rfl, hname⟩ := hname
    rw [resolveSpec_of_names hname]
    constructor
    · rintro ⟨text, htext, hspec⟩
      exact .other hname htext hspec
    · rintro (hown | ⟨-, htext, hspec⟩)
      · exact absurd hname (hown name rfl)
      · exact ⟨_, htext, hspec⟩
  · have hown : ∀ name, stated = .string name → ¬ NamesSpecification name :=
      fun name hstated hspec => hname ⟨name, hstated, hspec⟩
    have hresolve : corpus.resolveSpec folder stated = .ok stated := by
      cases stated with
      | string name => rw [resolveSpec, if_neg (namesSpecification_iff.not.1 (hown name rfl))]
      | _ => rfl
    rw [hresolve, Except.ok.injEq]
    constructor
    · rintro rfl
      exact .own hown
    · rintro (_ | ⟨hspec, -, -⟩)
      · rfl
      · exact absurd hspec (hown _ rfl)

/-- **Loading a file gives the case that it holds,** and fails if it holds none. -/
theorem loadAt_ok_iff {steps : List String} {c : Case} :
    corpus.loadAt steps = .ok c ↔ corpus.Holds steps c := by
  constructor
  · intro h
    rw [loadAt] at h
    cases htext : corpus.readText steps with
    | error fault => simp [htext] at h
    | ok text =>
      cases hcase : Case.read text with
      | error fault => simp [htext, hcase] at h
      | ok d =>
        cases hspec : corpus.resolveSpec steps.dropLast d.spec with
        | error fault => simp [htext, hcase, hspec, Except.map] at h
        | ok spec =>
          simp only [htext, hcase, hspec, Except.map, Except.ok.injEq] at h
          exact h ▸ .intro htext hcase (resolveSpec_ok_iff.1 hspec)
  · rintro ⟨htext, hcase, hspec⟩
    rw [loadAt, htext]
    simp only [hcase, resolveSpec_ok_iff.2 hspec]
    rfl

theorem caseAt_iff {steps : List String} {c : Case} :
    corpus.CaseAt steps c ↔
      steps ∈ corpus.caseFiles ∧ (corpus.loadAt steps).toOption = some c := by
  have hholds : (corpus.loadAt steps).toOption = some c ↔ corpus.Holds steps c := by
    rw [← loadAt_ok_iff]
    cases corpus.loadAt steps <;> simp [Except.toOption]
  rw [mem_caseFiles_iff, hholds]
  constructor
  · intro h
    exact ⟨⟨h.file, h.name⟩, h.holds⟩
  · rintro ⟨⟨hfile, hname⟩, hcase⟩
    exact ⟨hfile, hname, hcase⟩

theorem mem_loadable_iff {c : Case} : c ∈ corpus.loadable ↔ ∃ steps, corpus.CaseAt steps c := by
  simp only [loadable_eq, List.mem_filterMap, caseAt_iff]

end Corpus

/-! ### The order of the cases -/

/-- The place of a case in the order: its priority first, then its category, then its name. -/
def Case.rank (c : Case) : ℕ ×ₗ String ×ₗ String :=
  toLex (c.metadata.priority.toNat, toLex (c.category, c.name))

/-- The comparison of two cases is that of their ranks. -/
theorem Case.isUpTo_iff {a b : Case} : a.isUpTo b = true ↔ a.rank ≤ b.rank := by
  rw [rank, rank, Prod.Lex.toLex_le_toLex, Prod.Lex.toLex_le_toLex, isUpTo]
  by_cases hpriority : a.metadata.priority = b.metadata.priority
  · by_cases hcategory : a.category = b.category
    · simp [hpriority, hcategory]
    · simp [hpriority, hcategory]
  · have hnat : a.metadata.priority.toNat ≠ b.metadata.priority.toNat :=
      fun h => hpriority (UInt32.toNat_inj.1 h)
    simp [hpriority, hnat, UInt32.lt_iff_toNat_lt]

/-- Cases of one rank agree in all that the order looks at. -/
theorem Case.rank_eq_iff {a b : Case} :
    a.rank = b.rank ↔
      a.metadata.priority = b.metadata.priority ∧ a.category = b.category ∧ a.name = b.name := by
  rw [rank, rank, toLex_inj, Prod.mk.injEq, toLex_inj, Prod.mk.injEq, UInt32.toNat_inj]

theorem Case.isUpTo_trans (a b c : Case) (hab : a.isUpTo b = true) (hbc : b.isUpTo c = true) :
    a.isUpTo c = true :=
  isUpTo_iff.2 ((isUpTo_iff.1 hab).trans (isUpTo_iff.1 hbc))

theorem Case.isUpTo_total (a b : Case) : (a.isUpTo b || b.isUpTo a) = true := by
  rw [Bool.or_eq_true, isUpTo_iff, isUpTo_iff]
  exact le_total a.rank b.rank

/-- Cases of one rank are the same case in a list whose ranks increase. -/
theorem Case.eq_of_rank_eq {cases : List Case} (h : cases.Pairwise fun a b => a.rank < b.rank)
    {a b : Case} (ha : a ∈ cases) (hb : b ∈ cases) (hrank : a.rank = b.rank) : a = b := by
  have hnodup : (cases.map Case.rank).Nodup := List.pairwise_map.2 (h.imp ne_of_lt)
  exact List.inj_on_of_nodup_map hnodup ha hb hrank

/-- **Order settles the list.**  Where ranks tell cases apart, cases can be put in order in one way
only. -/
theorem Case.eq_of_perm_of_inOrder {cases others : List Case} (hperm : cases.Perm others)
    (h : cases.Pairwise fun a b => a.rank ≤ b.rank)
    (hothers : others.Pairwise fun a b => a.rank ≤ b.rank)
    (hapart : ∀ a ∈ others, ∀ b ∈ others, a.rank = b.rank → a = b) : cases = others := by
  refine hperm.eq_of_pairwise ?_ h hothers
  intro a b ha hb hab hba
  exact hapart a (hperm.mem_iff.1 ha) b hb (le_antisymm hab hba)

namespace Corpus

variable {corpus : Corpus}

theorem discover_perm : corpus.discover.Perm corpus.loadable := List.mergeSort_perm _ _

/-- **The cases found are those at some place.** -/
theorem mem_discover_iff {c : Case} : c ∈ corpus.discover ↔ ∃ steps, corpus.CaseAt steps c := by
  rw [discover_perm.mem_iff, mem_loadable_iff]

/-- **The cases found are in order.** -/
theorem discover_inOrder : corpus.discover.Pairwise fun a b => a.rank ≤ b.rank := by
  have hsorted := List.pairwise_mergeSort Case.isUpTo_trans Case.isUpTo_total corpus.loadable
  exact hsorted.imp Case.isUpTo_iff.1

/-- The cases found are any list of the loadable ones whose ranks increase. -/
theorem discover_eq {cases : List Case} (hperm : corpus.loadable.Perm cases)
    (h : cases.Pairwise fun a b => a.rank < b.rank) : corpus.discover = cases := by
  refine Case.eq_of_perm_of_inOrder (discover_perm.trans hperm) discover_inOrder
    (h.imp le_of_lt) fun a ha b hb hrank => ?_
  exact Case.eq_of_rank_eq h ha hb hrank

end Corpus

end Reshape
