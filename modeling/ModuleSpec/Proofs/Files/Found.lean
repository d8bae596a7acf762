import Mathlib.Data.List.Nodup
import Mathlib.Data.List.TakeWhile
import ModuleSpec.Proofs.Files.StableSort
import ModuleSpec.Proofs.Result

/-!
# The files that are found

In a file system no two files lie at the same place and none beneath another.

The search of a root goes through three tests, each of which can end in an error:
the rules of the ignore file, the dialect of the file and the name of a spec.  The
errors belong to the root and not to the files, so that the search is one filter,
and sorting.

**Results.**  `candidates_of_directory`: what is collected under a directory, with its
errors.  `candidates_of_unruled`: what is collected where there is no ignore file.
-/

namespace ModuleSpec
namespace FileTree

/-- The files lie as those of a file system do. -/
structure Sound
    (tree : FileTree) : Prop where
  distinct : (tree.files.map File.path).Nodup
  apart : ∀ f, f ∈ tree.files → ∀ g, g ∈ tree.files → f.path <+: g.path → f.path = g.path

section Lookup

variable {tree : FileTree}

theorem of_file?
    {path : List String}
    {f : File}
    (h : tree.file? path = some f) :
    f ∈ tree.files ∧ f.path = path := by
  have hpath := List.find?_some h
  exact ⟨List.mem_of_find?_eq_some h, eq_of_beq hpath⟩

theorem Sound.file?_path
    (h : tree.Sound)
    {f : File}
    (hf : f ∈ tree.files) :
    tree.file? f.path = some f := by
  cases hfind : tree.file? f.path with
  | none =>
      have hno := List.find?_eq_none.1 hfind f hf
      simp at hno
  | some g =>
      obtain ⟨hg, hpath⟩ := of_file? hfind
      rw [List.inj_on_of_nodup_map h.distinct hg hf hpath]

theorem Sound.file?_eq_some_iff
    (h : tree.Sound)
    {path : List String}
    {f : File} :
    tree.file? path = some f ↔ f ∈ tree.files ∧ f.path = path := by
  constructor
  · exact of_file?
  · rintro ⟨hf, rfl⟩
    exact h.file?_path hf

/-- A source file that is a text and not empty is read. -/
theorem source?_of_file?
    {place : List String}
    {f : File}
    {content : String}
    {d : Dialect}
    (hfile : tree.file? place = some f)
    (hcontent : Text.decode? f.content = some content)
    (hdialect : (Path.absolute place).dialect? = some d)
    (hne : content.isEmpty = false)
    (relative : Path) :
    tree.source? relative place =
      some ⟨relative.toString, content, (Path.absolute place).moduleName, d.name⟩ := by
  simp only [source?, read?, hfile, Option.bind_eq_bind, Option.bind_some, hcontent, hdialect, hne,
    Bool.false_eq_true, if_false]

end Lookup

/-! ## Tests that may end in an error -/

section Keep

variable {α ε : Type}

/-- Whether a test has the result that something is kept. -/
def accepts : Except ε Bool → Bool
  | .ok kept => kept
  | .error _ => false

theorem keep_eq_filter
    (test : α → Except ε Bool)
    {as : List α}
    (h : ∀ a, a ∈ as → ∃ kept, test a = .ok kept) :
    keep test as = .ok (as.filter fun a => accepts (test a)) := by
  induction as with
  | nil =>
      rfl
  | cons a as ih =>
      obtain ⟨kept, hkept⟩ := h a List.mem_cons_self
      rw [keep, hkept, ih fun b hb => h b (List.mem_cons_of_mem a hb)]
      cases kept with
      | true => rw [List.filter_cons_of_pos (by simp [hkept, accepts])]; rfl
      | false => rw [List.filter_cons_of_neg (by simp [hkept, accepts])]; rfl

/-- Where every error is the same, one failing entry is enough. -/
theorem keep_eq_error
    {test : α → Except ε Bool}
    {as : List α}
    {e : ε}
    (honly : ∀ a e', test a = .error e' → e' = e)
    (h : ∃ a, a ∈ as ∧ test a = .error e) :
    keep test as = .error e := by
  induction as with
  | nil =>
      obtain ⟨a, ha, -⟩ := h
      cases ha
  | cons a as ih =>
      rw [keep]
      cases hkept : test a with
      | error e' =>
          rw [honly a e' hkept]
          rfl
      | ok kept =>
          obtain ⟨b, hb, herror⟩ := h
          rcases List.mem_cons.1 hb with rfl | hb
          · rw [hkept] at herror
            cases herror
          · rw [ih ⟨b, hb, herror⟩]
            rfl

end Keep

end FileTree

/-! ## The search beneath a directory -/

namespace Path

theorem dialect?_eq_of_name
    {path path' : Path}
    (h : path.name = path'.name) :
    path.dialect? = path'.dialect? := by
  rw [dialect?, dialect?, isDeclarationFile, isDeclarationFile, suffix, suffix, h]

/-- The name of a source file has a dot. -/
theorem dot_mem_name
    {path : Path}
    (h : path.dialect?.isSome = true) :
    '.' ∈ path.name.toList := by
  have hsuffix : suffixOf path.name.toList ≠ [] := by
    intro hnil
    have hempty : path.suffix = "" := by rw [suffix, hnil]
    rw [dialect?, hempty] at h
    split at h <;> simp at h
  by_contra hdot
  have htail : path.name.toList.reverse.takeWhile (· != '.') = path.name.toList.reverse := by
    refine List.takeWhile_eq_self_iff.2 fun c hc => ?_
    have hne : c ≠ '.' := by
      rintro rfl
      exact hdot (List.mem_reverse.1 hc)
    simpa using hne
  refine hsuffix ?_
  rw [suffixOf, htail]
  simp

theorem isSpecFile_eq_ok
    {path : Path}
    (h : path.dialect?.isSome = true)
    (selection : Selection) :
    ∃ wanted, path.isSpecFile selection = .ok wanted := by
  obtain ⟨before, after, hname⟩ := List.append_of_mem (dot_mem_name h)
  have hlength : ∀ cs : List Char, 2 ≤ (Text.split '.' (cs ++ '.' :: after)).length := by
    intro cs
    induction cs with
    | nil =>
        have hpos := List.length_pos_of_ne_nil (Text.split_ne_nil '.' after)
        simp only [List.nil_append, Text.split, if_true, List.length_cons]
        omega
    | cons c cs ih =>
        rw [List.cons_append, Text.split]
        split
        · rw [List.length_cons]
          omega
        · cases hsplit : Text.split '.' (cs ++ '.' :: after) with
          | nil => exact absurd hsplit (Text.split_ne_nil _ _)
          | cons piece pieces => simpa [hsplit] using ih
  have hparts : 2 ≤ path.nameParts.length := by
    rw [nameParts, List.length_map, hname]
    exact hlength before
  rw [isSpecFile]
  split
  · exact ⟨_, rfl⟩
  split
  · exact ⟨_, rfl⟩
  cases hname : path.nameParts with
  | nil => simp [hname] at hparts
  | cons stem rest =>
      cases rest with
      | nil => simp [hname] at hparts
      | cons part rest =>
          cases rest <;> cases selection.platform <;> exact ⟨_, rfl⟩

end Path

namespace FileTree

/-- Whether a path is that of a source file beneath a root, by the rules of its ignore file. -/
def isSource
    (rules : List Pattern.IgnoreRule)
    (root path : List String) :
    Bool :=
  let relative := Path.relative (path.drop root.length)
  (root.isPrefixOf path && root != path)
    && (!(relative.isNeverScanned || Pattern.decides rules (Pattern.ruleText relative))
      && relative.dialect?.isSome)

/-- Whether a path is that of a file beneath a root that is collected. -/
def isWanted
    (rules : List Pattern.IgnoreRule)
    (selection : Selection)
    (root path : List String) :
    Bool :=
  isSource rules root path
    && accepts ((Path.relative (path.drop root.length)).isSpecFile selection)

section Directory

variable {tree : FileTree} {selection : Selection} {root : Path}

/-- An ignore file with lines lies beneath its directory. -/
theorem exists_ignoreFile
    {place lines : List String}
    (h : tree.ignoreLines place = .ok lines)
    (hlines : lines ≠ []) :
    ∃ f, f ∈ tree.beneath place ∧ f.path = place ++ [".gitignore"] := by
  rw [ignoreLines] at h
  split at h
  case h_1 =>
      cases h
      exact absurd rfl hlines
  case h_2 f hf =>
      obtain ⟨hmem, hpath⟩ := of_file? hf
      exact ⟨f, List.mem_filter.2 ⟨hmem, by simp [hpath]⟩, hpath⟩

theorem isFound_of_rules
    {rules : List Pattern.IgnoreRule}
    {place lines : List String}
    (hrules : Pattern.rules (lines.map String.toList) = .ok rules)
    (f : File) :
    isFound place lines f =
      .ok (!((Path.relative (f.path.drop place.length)).isNeverScanned
          || Pattern.decides rules (Pattern.ruleText (.relative (f.path.drop place.length))))
        && (Path.relative (f.path.drop place.length)).dialect?.isSome) := by
  rw [isFound, Path.isIgnored, hrules]
  cases (Path.relative (f.path.drop place.length)).isNeverScanned with
  | true => rfl
  | false => rfl

/-- Rules that are none are an error of the root: the ignore file itself is never passed over. -/
theorem keep_isFound_eq_error
    {e : Pattern.IgnoreError}
    {place lines : List String}
    (hlines : tree.ignoreLines place = .ok lines)
    (hrules : Pattern.rules (lines.map String.toList) = .error e) :
    keep (isFound place lines) (tree.beneath place) = .error e := by
  have hsome : lines ≠ [] := by
    rintro rfl
    cases hrules
  obtain ⟨f, hf, hpath⟩ := exists_ignoreFile hlines hsome
  refine keep_eq_error ?_ ⟨f, hf, ?_⟩
  · intro g e' hg
    rw [isFound, Path.isIgnored, hrules] at hg
    split at hg
    · cases hg
    · cases hg
      rfl
  · have hscanned : (Path.relative [".gitignore"]).isNeverScanned = false := by
      decide +kernel
    rw [isFound, hpath, List.drop_left, Path.isIgnored, hscanned, hrules]
    rfl

/-- The source files beneath a directory; the lines of the ignore file must be rules. -/
theorem discover_of_directory
    (hfile : tree.isFile (tree.resolve root) = false)
    {lines : List String}
    (hlines : tree.ignoreLines (tree.resolve root) = .ok lines) :
    tree.discover root lines =
      (Pattern.rules (lines.map String.toList)).map fun rules =>
        ((tree.files.map File.path).filter
          (isSource rules (tree.resolve root))).mergeSort partsLe := by
  have hkeep : tree.discover root lines =
      (keep (isFound (tree.resolve root) lines) (tree.beneath (tree.resolve root))).map
        fun found => (found.map File.path).mergeSort partsLe := by
    simp only [discover, hfile, Bool.false_eq_true, if_false]
    rfl
  cases hrules : Pattern.rules (lines.map String.toList) with
  | error e =>
      rw [hkeep, keep_isFound_eq_error hlines hrules]
      rfl
  | ok rules =>
      have hfilter : (tree.beneath (tree.resolve root)).filter
            (fun f => accepts (isFound (tree.resolve root) lines f)) =
          tree.files.filter (isSource rules (tree.resolve root) ∘ File.path) := by
        rw [beneath, List.filter_filter]
        refine List.filter_congr fun f _ => ?_
        rw [isFound_of_rules hrules f, Bool.and_comm]
        rfl
      rw [hkeep, keep_eq_filter _ fun f _ => ⟨_, isFound_of_rules hrules f⟩, hfilter]
      simp only [Except.map, List.filter_map]

/--
Under a directory the wanted files are collected, in the order of their components; the
ignore file must be a text, and its lines must be rules.
-/
theorem candidates_of_directory
    (hfile : tree.isFile (tree.resolve root) = false) :
    tree.candidates selection root =
      (do
        let lines ← tree.ignoreLines (tree.resolve root)
        let rules ← (Pattern.rules (lines.map String.toList)).mapError .ignorePattern
        .ok (((tree.files.map File.path).filter
          (isWanted rules selection (tree.resolve root))).mergeSort partsLe)) := by
  rw [candidates]
  simp only [hfile, Bool.false_eq_true, if_false]
  refine bind_congr_of_ok fun lines hlines => ?_
  rw [discover_of_directory hfile hlines]
  cases Pattern.rules (lines.map String.toList) with
  | error e =>
      rfl
  | ok rules =>
      -- What is found beneath the root is named relative to it, and has a dialect.
      have hspec : ∀ path, path ∈ ((tree.files.map File.path).filter
            (isSource rules (tree.resolve root))).mergeSort partsLe →
          (relativeTo (tree.resolve root) path).isSpecFile selection =
              (Path.relative (path.drop (tree.resolve root).length)).isSpecFile selection ∧
            ∃ wanted, (relativeTo (tree.resolve root) path).isSpecFile selection = .ok wanted := by
        intro path hpath
        have hsource := (List.mem_filter.1 (List.mem_mergeSort.1 hpath)).2
        simp only [isSource, Bool.and_eq_true, bne_iff_ne, ne_eq] at hsource
        have hrelative : relativeTo (tree.resolve root) path =
            .relative (path.drop (tree.resolve root).length) :=
          if_neg fun heq => hsource.1.2 heq.symm
        rw [hrelative]
        exact ⟨rfl, Path.isSpecFile_eq_ok hsource.2.2 selection⟩
      have hkeep := keep_eq_filter
        (fun path => (relativeTo (tree.resolve root) path).isSpecFile selection)
        fun path hpath => (hspec path hpath).2
      have hfilter := List.filter_congr fun path hpath =>
        congrArg accepts (hspec path hpath).1
      rw [hfilter, Compares.parts.filter_mergeSort, List.filter_filter] at hkeep
      refine (congrArg (Except.mapError CollectError.name) hkeep).trans ?_
      refine congrArg Except.ok (congrArg (List.mergeSort · partsLe) ?_)
      exact List.filter_congr fun path _ => Bool.and_comm _ _

/-- Without an ignore file the wanted files are collected, here where they are in order. -/
theorem candidates_of_unruled
    (hfile : tree.isFile (tree.resolve root) = false)
    (hrules : tree.file? (tree.resolve root ++ [".gitignore"]) = none)
    {paths : List (List String)}
    (hpaths : (tree.files.map File.path).filter (isWanted [] selection (tree.resolve root)) = paths)
    (hordered : paths.Pairwise fun a b => partsLe a b = true) :
    tree.candidates selection root = .ok paths := by
  rw [candidates_of_directory hfile, ignoreLines, hrules]
  refine bind_eq_ok_iff.2 ⟨[], rfl, bind_eq_ok_iff.2 ⟨[], rfl, ?_⟩⟩
  rw [hpaths, List.mergeSort_of_pairwise hordered]

theorem filterMap_of_forall₂
    {α β : Type}
    {f : α → Option β}
    {as : List α}
    {bs : List β}
    (h : List.Forall₂ (fun a b => f a = some b) as bs) :
    as.filterMap f = bs := by
  induction h with
  | nil => rfl
  | cons hb _ ih => rw [List.filterMap_cons_some hb, ih]

/-- The files at the places that are found are collected in their order. -/
theorem collectRoot_of_candidates
    {paths : List (List String)}
    {sources : List SourceFile}
    (hfound : tree.candidates selection root = .ok paths)
    (hread : List.Forall₂ (fun path source =>
      tree.source? (relativeTo (tree.resolve root) path) path = some source) paths sources) :
    tree.collectRoot selection root = .ok sources := by
  exact bind_eq_ok_iff.2 ⟨paths, hfound, congrArg Except.ok (filterMap_of_forall₂ hread)⟩

end Directory

end FileTree
end ModuleSpec
