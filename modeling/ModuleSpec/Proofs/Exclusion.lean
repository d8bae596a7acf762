import ModuleSpec.Proofs.Files.Reached
import ModuleSpec.Proofs.Merging

/-!
# Paths that are left out

A pattern leaves out files by their paths.  Of what lies beneath a directory, the
files are collected that would be collected without the pattern, less those whose
paths match.  A file that is given by itself is taken as it is: no pattern is held
against it.

**Idea.**  The pattern is one more test of a filter, and sorting does not mind what
is filtered out.  It is held against the path beneath the root, and under that path
the file is collected.

**Results.**  `collect_excludes`, and that a pattern does not leave out every file
that it matches (`not_forall_collect_unmatched`).
-/

namespace ModuleSpec

namespace Selection

/-- The selection without its pattern. -/
def withoutPattern (selection : Selection) : Selection :=
  { selection with exclude := none }

/-- Whether there is a pattern, and it occurs in the path as it is written. -/
def matchesText (selection : Selection) (path : String) : Bool :=
  selection.exclude.any fun occurs => occurs path

theorem leavesOut_eq
    (selection : Selection)
    (path : Path) :
    selection.leavesOut path = selection.matchesText path.toString := by
  rw [leavesOut, matchesText]
  cases selection.exclude <;> rfl

end Selection

/-! ## One root -/

namespace FileTree

/-- Whether the root is a file, which is then given by itself. -/
def isGiven (tree : FileTree) (root : Path) : Bool :=
  tree.isFile (tree.resolve root)

/-- What the pattern of a selection leaves of the files of a root. -/
def sieve
    (tree : FileTree)
    (selection : Selection)
    (root : Path)
    (files : List SourceFile) :
    List SourceFile :=
  if tree.isGiven root then files else files.filter fun f => !selection.matchesText f.path

section Root

variable {tree : FileTree} {selection : Selection} {root : Path}

/-- A pattern is one more test that a name has to pass. -/
theorem accepts_isSpecFile
    (selection : Selection)
    (path : Path) :
    accepts (path.isSpecFile selection) =
      (accepts (path.isSpecFile selection.withoutPattern) && !selection.leavesOut path) := by
  have hopen : selection.withoutPattern.leavesOut path = false := rfl
  simp only [Path.isSpecFile, hopen, Bool.false_eq_true, if_false]
  split
  · rfl
  · cases hout : selection.leavesOut path with
    | true => simp [accepts]
    | false =>
        simp only [Bool.false_eq_true, if_false, Bool.not_false, Bool.and_true]
        rfl

theorem isWanted_eq
    (rules : List Pattern.IgnoreRule)
    (selection : Selection)
    (root path : List String) :
    isWanted rules selection root path =
      (isWanted rules selection.withoutPattern root path &&
        !selection.leavesOut (.relative (path.drop root.length))) := by
  rw [isWanted, isWanted, accepts_isSpecFile, Bool.and_assoc]

/-- A file is collected under the path that it has beneath its root. -/
theorem path_of_source?
    {relative : Path}
    {place : List String}
    {f : SourceFile}
    (h : tree.source? relative place = some f) :
    f.path = relative.toString := by
  simp only [source?, read?, bind, Option.bind_eq_some_iff] at h
  obtain ⟨_, -, _, -, _, -, hsome⟩ := h
  split at hsome
  · cases hsome
  · cases hsome
    rfl

/-- A wanted file beneath a root is left out by the path under which it would be collected. -/
theorem matchesText_of_wanted
    {rules : List Pattern.IgnoreRule}
    {place path : List String}
    {f : SourceFile}
    (hwanted : isWanted rules selection.withoutPattern place path = true)
    (hf : tree.source? (relativeTo place path) path = some f) :
    selection.matchesText f.path =
      selection.leavesOut (.relative (path.drop place.length)) := by
  simp only [isWanted, isSource, Bool.and_eq_true, bne_iff_ne] at hwanted
  have hne : path ≠ place := fun heq => hwanted.1.1.2 heq.symm
  rw [relativeTo, if_neg hne] at hf
  rw [path_of_source? hf, Selection.leavesOut_eq]

/-- The files beneath a directory are those without the pattern, less the ones it matches. -/
theorem filterMap_source?_wanted
    (rules : List Pattern.IgnoreRule)
    (paths : List (List String))
    (place : List String) :
    ((paths.filter (isWanted rules selection place)).mergeSort partsLe).filterMap
        (fun path => tree.source? (relativeTo place path) path) =
      (((paths.filter (isWanted rules selection.withoutPattern place)).mergeSort
          partsLe).filterMap fun path =>
            tree.source? (relativeTo place path) path).filter
        fun f => !selection.matchesText f.path := by
  have hsorted : (paths.filter (isWanted rules selection place)).mergeSort partsLe =
      ((paths.filter (isWanted rules selection.withoutPattern place)).mergeSort partsLe).filter
        fun path => !selection.leavesOut (.relative (path.drop place.length)) := by
    rw [Compares.parts.filter_mergeSort, List.filter_filter]
    refine congrArg (List.mergeSort · partsLe) (List.filter_congr fun path _ => ?_)
    rw [isWanted_eq, Bool.and_comm]
  rw [hsorted, List.filterMap_filter, List.filter_filterMap]
  refine List.filterMap_congr fun path hpath => ?_
  have hwanted := (List.mem_filter.1 (List.mem_mergeSort.1 hpath)).2
  cases hf : tree.source? (relativeTo place path) path with
  | none => simp
  | some f =>
      rw [← matchesText_of_wanted hwanted hf]
      cases hmatches : selection.matchesText f.path <;> simp [Option.filter, hmatches]

/-- What is collected from a root with a pattern is what the pattern leaves. -/
theorem collectRoot_eq_sieve
    (tree : FileTree)
    (selection : Selection)
    (root : Path) :
    tree.collectRoot selection root =
      (tree.collectRoot selection.withoutPattern root).map (tree.sieve selection root) := by
  cases hfile : tree.isFile (tree.resolve root) with
  | true =>
      rw [collectRoot, collectRoot, candidates_of_file hfile, candidates_of_file hfile]
      simp only [bind, Except.bind, Except.map, sieve, isGiven, hfile, if_true]
  | false =>
      have hsieve : tree.sieve selection root =
          List.filter fun f => !selection.matchesText f.path := by
        funext files
        rw [sieve, isGiven, hfile]
        rfl
      rw [collectRoot, collectRoot, candidates_of_directory hfile, candidates_of_directory hfile,
        hsieve]
      cases tree.ignoreLines (tree.resolve root) with
      | error e => rfl
      | ok lines =>
          cases hrules : Pattern.rules (lines.map String.toList) with
          | error e => simp only [bind, Except.bind, hrules]; rfl
          | ok rules =>
              simp only [bind, Except.bind, hrules]
              exact congrArg Except.ok (filterMap_source?_wanted rules _ _)

/-- What is collected from a file that is given by itself has its name as path. -/
theorem path_of_mem_collectRoot
    {files : List SourceFile}
    (hgiven : tree.isGiven root = true)
    (h : tree.collectRoot selection root = .ok files)
    {f : SourceFile}
    (hf : f ∈ files) :
    f.path = (Path.absolute (tree.resolve root)).name := by
  rw [collectRoot, candidates_of_file hgiven] at h
  cases h
  obtain ⟨path, hpath, hsource⟩ := List.mem_filterMap.1 hf
  split at hpath
  · rw [List.mem_singleton.1 hpath, relativeTo, if_pos rfl] at hsource
    rw [path_of_source? hsource]
    exact String.ofList_toList
  · cases hpath

end Root

/-! ## All roots -/

/-- One of the roots is a file of the given name. -/
def Gives
    (tree : FileTree)
    (roots : List Path)
    (path : String) : Prop :=
  ∃ root, root ∈ roots ∧ tree.isGiven root = true ∧
    path = (Path.absolute (tree.resolve root)).name

section Roots

variable {tree : FileTree} {roots : List Path} {selection : Selection}

/-- A collected file whose path the pattern matches was given by itself. -/
theorem gives_of_matchesText
    {files : List SourceFile}
    (h : tree.collect roots selection = .ok files)
    {f : SourceFile}
    (hf : f ∈ files)
    (hmatches : selection.matchesText f.path = true) :
    tree.Gives roots f.path := by
  obtain ⟨groups, hgroups, rfl⟩ := collect_eq_ok_iff.1 h
  obtain ⟨group, hgroup, hf⟩ := List.mem_flatten.1 (List.mem_mergeSort.1 hf)
  obtain ⟨root, hroot, hcollected⟩ := exists_of_mem_mapM hgroups hgroup
  cases hgiven : tree.isGiven root with
  | true => exact ⟨root, hroot, hgiven, path_of_mem_collectRoot hgiven hcollected hf⟩
  | false =>
      rw [collectRoot_eq_sieve] at hcollected
      obtain ⟨all, -, rfl⟩ := map_eq_ok_iff.1 hcollected
      rw [sieve, hgiven] at hf
      have hleft := (List.mem_filter.1 hf).2
      rw [hmatches] at hleft
      cases hleft

/-- Where no root is a file, all that the pattern matches is left out, and nothing else. -/
theorem collect_of_directories
    (hroots : ∀ root, root ∈ roots → tree.isGiven root = false) :
    tree.collect roots selection =
      (tree.collect roots selection.withoutPattern).map
        (List.filter fun f => !selection.matchesText f.path) := by
  have hgroups : roots.mapM (tree.collectRoot selection) =
      (roots.mapM (tree.collectRoot selection.withoutPattern)).map
        (List.map (List.filter fun f => !selection.matchesText f.path)) := by
    rw [← mapM_map]
    refine mapM_congr fun root hroot => ?_
    rw [collectRoot_eq_sieve]
    refine congrArg (Except.map · _) (funext fun files => ?_)
    rw [sieve, hroots root hroot]
    rfl
  rw [collect, collect, hgroups]
  cases roots.mapM (tree.collectRoot selection.withoutPattern) with
  | error e => rfl
  | ok groups =>
      refine congrArg Except.ok ?_
      rw [(Compares.text SourceFile.path).filter_mergeSort, List.filter_flatten]

end Roots

end FileTree

/-! ## Combined modules -/

/-- Every module comes from a result that has its name and its schema. -/
theorem Merged.exists_result_of_mem
    {platform : Option Platform}
    {results : List FileResult}
    {n : NamedSchema}
    (h : n ∈ (ofResults platform results).modules) :
    ∃ r, r ∈ results ∧ r.moduleName = n.name ∧ r.schema? = some n.schema := by
  induction results using List.reverseRecOn with
  | nil =>
      cases h
  | append_singleton results r ih =>
      rw [ofResults_concat, modules_add] at h
      rcases List.mem_append.1 h with h | h
      · obtain ⟨s, hs, hn⟩ := ih h
        exact ⟨s, List.mem_append_left _ hs, hn⟩
      · split at h
        · obtain ⟨schema, hschema, rfl⟩ := List.mem_map.1 h
          exact ⟨r, List.mem_append_right _ List.mem_cons_self, rfl, Option.mem_toList.1 hschema⟩
        · cases h

/--
What a pattern leaves out.  Of the files beneath a directory it leaves out those
whose paths it matches, and it leaves a file alone that is given by itself.  So a
file, a result or a module whose path it matches comes from a root that is a file.
-/
structure Excludes
    (grammar : Grammar)
    (tree : FileTree)
    (roots : List Path)
    (limits : Limits) : Prop where
  root : ∀ root, tree.collectRoot limits.selection root =
    (tree.collectRoot limits.selection.withoutPattern root).map
      (tree.sieve limits.selection root)
  directories : (∀ root, root ∈ roots → tree.isGiven root = false) →
    tree.collect roots limits.selection =
      (tree.collect roots limits.selection.withoutPattern).map
        (List.filter fun f => !limits.selection.matchesText f.path)
  files : ∀ files, tree.collect roots limits.selection = .ok files →
    ∀ f, f ∈ files → limits.selection.matchesText f.path = true → tree.Gives roots f.path
  results : ∀ c, combine grammar tree roots limits = .ok c →
    ∀ r, r ∈ c.results → limits.selection.matchesText r.path = true → tree.Gives roots r.path
  modules : ∀ c, combine grammar tree roots limits = .ok c →
    ∀ n, n ∈ c.modules → ∃ r, r ∈ c.results ∧ r.moduleName = n.name ∧
      r.schema? = some n.schema ∧
      (limits.selection.matchesText r.path = true → tree.Gives roots r.path)

/-- A pattern leaves out what it matches, but for the files that are given by themselves. -/
theorem collect_excludes
    (grammar : Grammar)
    (tree : FileTree)
    (roots : List Path)
    (limits : Limits) :
    Excludes grammar tree roots limits := by
  have hresults : ∀ c, combine grammar tree roots limits = .ok c → ∀ r, r ∈ c.results →
      limits.selection.matchesText r.path = true → tree.Gives roots r.path := by
    intro c hc r hr hmatches
    obtain ⟨files, hfiles, rfl⟩ := map_eq_ok_iff.1 hc
    obtain ⟨f, hf, rfl⟩ := List.mem_map.1 hr
    exact FileTree.gives_of_matchesText hfiles (List.mem_filter.1 hf).1 hmatches
  refine ⟨tree.collectRoot_eq_sieve limits.selection, FileTree.collect_of_directories,
    fun files hfiles f => FileTree.gives_of_matchesText hfiles, hresults, ?_⟩
  intro c hc n hn
  have hmodules : c.modules = (Merged.ofResults limits.platform c.results).modules := by
    obtain ⟨files, -, rfl⟩ := map_eq_ok_iff.1 hc
    rfl
  rw [hmodules] at hn
  obtain ⟨r, hr, hname, hschema⟩ := Merged.exists_result_of_mem hn
  exact ⟨r, hr, hname, hschema, hresults c hc r hr⟩

/-! ## A file beneath one root that is the other root -/

namespace GivenFile

open FooFiles (grammar here place text otherText specs source)

def path : Path := .relative ["specs", "NativeFoo.ts"]

def otherPlace : List String := here ++ ["specs", "NativeBar.ts"]

def tree : FileTree :=
  ⟨[⟨otherPlace, otherText.toUTF8⟩, ⟨place, text.toUTF8⟩], [], here⟩

/-- A pattern that occurs in one of the two paths. -/
def limits : Limits :=
  ⟨none, (Pattern.written "Foo").toOption⟩

def otherSource : SourceFile :=
  ⟨"NativeBar.ts", otherText, "NativeBar", Dialect.typescript.name⟩

theorem matchesText_source :
    limits.selection.matchesText source.path = true := by
  decide +kernel

theorem filter_matchesText :
    [otherSource, source].filter (fun f => !limits.selection.matchesText f.path) =
      [otherSource] := by
  decide +kernel

theorem filter_wanted :
    [otherPlace, place].filter (FileTree.isWanted [] limits.selection.withoutPattern
      (specs.resolveIn here)) = [otherPlace, place] := by
  unfold FileTree.isWanted FileTree.isSource Path.isNeverScanned
  simp only [Pattern.isGenerated_eq]
  decide +kernel

/-- Without the pattern both files are collected from the directory. -/
theorem collectRoot_specs :
    tree.collectRoot limits.selection.withoutPattern specs = .ok [otherSource, source] := by
  have hfound : tree.candidates limits.selection.withoutPattern specs = .ok [otherPlace, place] :=
    FileTree.candidates_of_unruled rfl rfl filter_wanted (by decide +kernel)
  refine FileTree.collectRoot_of_candidates hfound (.cons ?_ (.cons ?_ .nil))
  · rw [FileTree.source?_of_file? rfl FooFiles.decode_otherText (d := .typescript) (by decide)
      (by decide)]
    rfl
  · rw [FileTree.source?_of_file? rfl FooFiles.decode_text (d := .typescript) (by decide)
      (by decide)]
    rfl

theorem collect_specs :
    tree.collect [specs] limits.selection.withoutPattern = .ok [otherSource, source] :=
  FileTree.collect_singleton collectRoot_specs (by decide)

/-- The file is collected where it is given by itself. -/
theorem collectRoot_path :
    tree.collectRoot limits.selection.withoutPattern path = .ok [source] := by
  have hfound : tree.candidates limits.selection.withoutPattern path = .ok [place] := by
    decide +kernel
  refine FileTree.collectRoot_of_candidates hfound (.cons ?_ .nil)
  rw [FileTree.source?_of_file? rfl FooFiles.decode_text (d := .typescript) (by decide) (by decide)]
  rfl

theorem mapM_collectRoot
    (hexcludes : ∀ root, tree.collectRoot limits.selection root =
      (tree.collectRoot limits.selection.withoutPattern root).map
        (tree.sieve limits.selection root)) :
    [specs, path].mapM (tree.collectRoot limits.selection) = .ok [[otherSource], [source]] := by
  have hspecs : tree.collectRoot limits.selection specs = .ok [otherSource] := by
    rw [hexcludes, collectRoot_specs]
    exact congrArg Except.ok filter_matchesText
  have hpath : tree.collectRoot limits.selection path = .ok [source] := by
    rw [hexcludes, collectRoot_path]
    rfl
  exact mapM_pair hspecs hpath

end GivenFile

/--
A pattern leaves out a file beneath a directory.  Where the same file is given by itself
too, it is collected, and its module is there.
-/
theorem givenFile_excludes :
    ∃ c c',
      combineWith FooFiles.grammar Pattern.written GivenFile.tree [FooFiles.specs] none
        (some "Foo") = .ok c ∧
      combineWith FooFiles.grammar Pattern.written GivenFile.tree [FooFiles.specs, GivenFile.path]
        none (some "Foo") = .ok c' ∧
      c.results.map FileResult.path = ["NativeBar.ts"] ∧
      c.schemaOf? "NativeFoo" = none ∧
      c'.results.map FileResult.path = ["NativeBar.ts", "NativeFoo.ts"] ∧
      (c'.schemaOf? "NativeFoo").map Schema.moduleNames = some ["Foo"] ∧
      GivenFile.tree.Gives [FooFiles.specs, GivenFile.path] "NativeFoo.ts" := by
  have hexcludes := collect_excludes FooFiles.grammar GivenFile.tree [FooFiles.specs]
    GivenFile.limits
  have hexcludes' := collect_excludes FooFiles.grammar GivenFile.tree
    [FooFiles.specs, GivenFile.path] GivenFile.limits
  have hfiles : GivenFile.tree.collect [FooFiles.specs] GivenFile.limits.selection =
      .ok [GivenFile.otherSource] := by
    rw [hexcludes.directories (by decide), GivenFile.collect_specs]
    exact congrArg Except.ok GivenFile.filter_matchesText
  have hfiles' : GivenFile.tree.collect [FooFiles.specs, GivenFile.path]
      GivenFile.limits.selection = .ok [GivenFile.otherSource, FooFiles.source] :=
    FileTree.collect_eq_ok_iff.2 ⟨_, GivenFile.mapM_collectRoot hexcludes'.root,
      (List.mergeSort_of_pairwise (by decide)).symm⟩
  have hlimits : Limits.read Pattern.written none (some "Foo") = .ok GivenFile.limits := rfl
  obtain ⟨c, -, hc, hmerges⟩ := exists_merges_of_collect hlimits hfiles FooFiles.grammar
  obtain ⟨c', hcombine', hc', hmerges'⟩ :=
    exists_merges_of_collect hlimits hfiles' FooFiles.grammar
  have hresults := FooFiles.results_of_merges hmerges (by simp [GivenFile.otherSource])
  have hresults' := FooFiles.results_of_merges hmerges' (by
    simp [FooFiles.source, GivenFile.otherSource])
  refine ⟨c, c', hc, hc', by rw [hresults]; rfl, ?_, by rw [hresults']; rfl, ?_, ?_⟩
  · exact hmerges.schemaOf?_eq_none (by simp [GivenFile.otherSource])
  · rw [hmerges'.modules, hresults']
    decide +kernel
  · have hr : buildFile FooFiles.grammar FooFiles.source ∈ c'.results := by
      rw [hresults']
      simp
    exact hexcludes'.results c' hcombine' _ hr GivenFile.matchesText_source

/-- A file that is given by itself is collected, though a pattern matches its path. -/
theorem not_forall_collect_unmatched :
    ¬ ∀ (tree : FileTree) (roots : List Path) (selection : Selection) (files : List SourceFile),
      tree.collect roots selection = .ok files →
      ∀ f, f ∈ files → selection.matchesText f.path = false := by
  intro hunmatched
  let path : Path := .relative ["NativeFoo.ts"]
  let file : File := ⟨["NativeFoo.ts"], "x".toUTF8⟩
  let selection : Selection := ⟨none, (Pattern.written "Foo").toOption⟩
  have hfiles : FileTree.collect ⟨[file], [], []⟩ [path] selection =
      .ok [⟨path.name, "x", path.moduleName, Dialect.typescript.name⟩] :=
    FileTree.collect_of_fileAt? (f := file) rfl (by decide) (by decide +kernel) (by decide)
  have hmatches : selection.matchesText path.name = true := by
    decide +kernel
  have hfalse := hunmatched _ _ _ _ hfiles _ List.mem_cons_self
  rw [hmatches] at hfalse
  cases hfalse

end ModuleSpec
