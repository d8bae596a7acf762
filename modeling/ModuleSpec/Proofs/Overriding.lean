import Mathlib.Data.String.Basic
import ModuleSpec.Proofs.Exclusion
import ModuleSpec.Proofs.GeneratedPlaces

/-!
# Files for one platform

Beside the file of a module there can be files of the same module for one platform.  Where
such a file gives the module a schema on the platform that is asked for, the file beside it
that is good for every platform does not.

**Idea.**  Merging knows of no platforms.  The first file of a name that gives a schema
gives the module, files come in the order of their paths, and in a path the name of a
platform comes before the ending of a source file.

**Results.**  `path_lt_of_beside`: which of two files of one directory comes first.
`platform_overrides`: which file a module comes from.
-/

namespace ModuleSpec

/-- The endings of source files. -/
def sourceEndings : List String := [".ts", ".tsx"]

/-- A source file that has been read, where it lies, and the root that led to it. -/
structure Traced extends Placed where
  root : Path

namespace Traced

/-- Whether the file gives its module a schema on the platform. -/
def gives
    (grammar : Grammar)
    (platform : Option Platform)
    (x : Traced) :
    Bool :=
  isCandidate x.source.content && (buildFile grammar x.source).counts platform

/-- The file that a module comes from: the first one of its name that gives it a schema. -/
def origin?
    (grammar : Grammar)
    (platform : Option Platform)
    (files : List Traced)
    (name : String) :
    Option Traced :=
  files.find? fun x => x.source.moduleName == name && x.gives grammar platform

/-- The file lies in the directory and is named for every platform. -/
def IsCommon
    (x : Traced)
    (directory : List String)
    (name : String) : Prop :=
  ∃ ending, ending ∈ sourceEndings ∧ x.place = directory ++ [name ++ ending]

/-- The file lies in the directory and is named for the platform. -/
def IsFor
    (x : Traced)
    (platform : Platform)
    (directory : List String)
    (name : String) : Prop :=
  ∃ ending, ending ∈ sourceEndings ∧
    x.place = directory ++ [name ++ ("." ++ platform.option ++ ending)]

end Traced

/-! ## Files and their roots -/

namespace FileTree

/-- What is collected from all roots, with the places and the roots. -/
def traced
    (tree : FileTree)
    (roots : List Path)
    (selection : Selection) :
    Except CollectError (List Traced) :=
  (roots.mapM fun root =>
    (tree.placedRoot selection root).map (List.map fun x => Traced.mk x root)).map fun groups =>
      groups.flatten.mergeSort fun a b => decide (a.source.path ≤ b.source.path)

section Traced

variable {tree : FileTree} {roots : List Path} {selection : Selection} {files : List Traced}

/-- The roots are written beside what is collected, and change nothing. -/
theorem placed_eq_map_traced
    (tree : FileTree)
    (roots : List Path)
    (selection : Selection) :
    tree.placed roots selection =
      (tree.traced roots selection).map (List.map Traced.toPlaced) := by
  have hleft (root : Path) (group : Except CollectError (List Placed)) :
      (group.map (List.map fun x => Traced.mk x root)).map (List.map Traced.toPlaced) = group := by
    cases group with
    | error e => rfl
    | ok files => exact congrArg Except.ok (List.map_map.trans (List.map_id files))
  rw [traced, ← gathered_map _ Traced.toPlaced fun x => x.source.path, placed]
  simp only [hleft]

theorem collect_of_traced
    (h : tree.traced roots selection = .ok files) :
    tree.collect roots selection = .ok (files.map fun x => x.source) := by
  rw [collect_eq_map_placed, placed_eq_map_traced, h]
  exact congrArg Except.ok List.map_map

theorem pairwise_traced
    (h : tree.traced roots selection = .ok files) :
    files.Pairwise fun a b => a.source.path ≤ b.source.path := by
  have hcollected := pairwise_collect (collect_of_traced h)
  rwa [List.pairwise_map] at hcollected

theorem moduleName_of_mem_traced
    (h : tree.traced roots selection = .ok files)
    {x : Traced}
    (hx : x ∈ files) :
    x.source.moduleName = (Path.absolute x.place).moduleName := by
  have hplaced : tree.placed roots selection = .ok (files.map Traced.toPlaced) := by
    rw [placed_eq_map_traced, h]
    rfl
  exact moduleName_of_mem_placed hplaced (List.mem_map_of_mem hx)

/-- The files are those that are read at the places that the roots lead to. -/
theorem mem_traced_iff
    (h : tree.traced roots selection = .ok files)
    {x : Traced} :
    x ∈ files ↔
      x.root ∈ roots ∧ ∃ found, tree.candidates selection x.root = .ok found ∧ x.place ∈ found ∧
        tree.source? (relativeTo (tree.resolve x.root) x.place) x.place = some x.source := by
  obtain ⟨groups, hgroups, rfl⟩ := map_eq_ok_iff.1 h
  rw [List.mem_mergeSort, List.mem_flatten]
  constructor
  · rintro ⟨group, hgroup, hx⟩
    obtain ⟨root, hmem, hroot⟩ := exists_of_mem_mapM hgroups hgroup
    obtain ⟨placed, hplaced, rfl⟩ := map_eq_ok_iff.1 hroot
    obtain ⟨found, hfound, rfl⟩ := map_eq_ok_iff.1 hplaced
    obtain ⟨y, hy, rfl⟩ := List.mem_map.1 hx
    obtain ⟨path, hpath, hread⟩ := List.mem_filterMap.1 hy
    obtain ⟨source, hsource, rfl⟩ := Option.map_eq_some_iff.1 hread
    exact ⟨hmem, found, hfound, hpath, hsource⟩
  · rintro ⟨hmem, found, hfound, hpath, hsource⟩
    obtain ⟨group, hgroup, hroot⟩ := exists_mem_of_mapM hgroups hmem
    obtain ⟨placed, hplaced, rfl⟩ := map_eq_ok_iff.1 hroot
    rw [placedRoot, hfound] at hplaced
    cases hplaced
    refine ⟨_, hgroup, List.mem_map.2 ⟨x.toPlaced, List.mem_filterMap.2 ⟨x.place, hpath, ?_⟩, rfl⟩⟩
    rw [placed?, hsource]
    rfl

/-- What is found under a directory lies beneath it. -/
theorem beneath_of_mem_candidates
    {root : Path}
    (hgiven : tree.isGiven root = false)
    {found : List (List String)}
    (h : tree.candidates selection root = .ok found)
    {path : List String}
    (hpath : path ∈ found) :
    tree.resolve root <+: path ∧ path ≠ tree.resolve root := by
  rw [candidates_of_directory hgiven] at h
  obtain ⟨lines, -, h⟩ := bind_eq_ok_iff.1 h
  obtain ⟨rules, -, h⟩ := bind_eq_ok_iff.1 h
  cases h
  have hwanted := (List.mem_filter.1 (List.mem_mergeSort.1 hpath)).2
  simp only [isWanted, isSource, Bool.and_eq_true, bne_iff_ne] at hwanted
  exact ⟨List.isPrefixOf_iff_prefix.1 hwanted.1.1.1, Ne.symm hwanted.1.1.2⟩

/-- The path of a file under a directory ends with its name, after what its directory makes. -/
theorem path_of_mem_traced
    (h : tree.traced roots selection = .ok files)
    {x : Traced}
    (hx : x ∈ files)
    (hgiven : tree.isGiven x.root = false)
    {directory : List String}
    {name : String}
    (hplace : x.place = directory ++ [name]) :
    x.source.path.toList =
      Path.placeText (directory.drop (tree.resolve x.root).length) ++ name.toList := by
  obtain ⟨-, found, hfound, hmem, hsource⟩ := (mem_traced_iff h).1 hx
  obtain ⟨hbeneath, hne⟩ := beneath_of_mem_candidates hgiven hfound hmem
  have hdirectory : tree.resolve x.root <+: directory := by
    rw [hplace] at hbeneath hne
    exact (List.prefix_concat_iff.1 hbeneath).resolve_left (Ne.symm hne)
  rw [path_of_source? hsource, relativeTo, if_neg hne, hplace,
    List.drop_append_of_le_length hdirectory.length_le, Path.toString, String.toList_ofList,
    Path.chars_relative (by simp), Path.joinWith_place (by simp)]
  rfl

end Traced

end FileTree

/-! ## The order of names -/

namespace Path

theorem exists_split_name
    (path : Path) :
    ∃ pieces, Text.split '.' path.name.toList = path.moduleName.toList :: pieces := by
  obtain ⟨piece, pieces, hsplit⟩ :=
    List.exists_cons_of_ne_nil (Text.split_ne_nil '.' path.name.toList)
  exact ⟨pieces, by simp [moduleName, nameParts, hsplit]⟩

theorem dot_not_mem_moduleName
    (path : Path) :
    '.' ∉ path.moduleName.toList := by
  obtain ⟨pieces, hsplit⟩ := path.exists_split_name
  exact Text.not_mem_of_mem_split (hsplit ▸ List.mem_cons_self)

/-- A file stands for the module that its name has before the first dot. -/
theorem moduleName_of_name
    {path : Path}
    {name : String}
    (hname : '.' ∉ name.toList)
    {rest : List Char}
    (h : path.name.toList = name.toList ++ '.' :: rest) :
    path.moduleName = name := by
  obtain ⟨pieces, hsplit⟩ := path.exists_split_name
  rw [h, Text.split_append, Text.split_of_not_mem hname] at hsplit
  exact String.toList_inj.1 (List.cons.inj hsplit).1.symm

end Path

/-- The name of a platform comes before the endings of source files. -/
theorem option_lt_ending
    (platform : Platform)
    {ending ending' : String}
    (h : ending ∈ sourceEndings)
    (h' : ending' ∈ sourceEndings) :
    ("." ++ platform.option ++ ending).toList < ending'.toList := by
  have hall : ∀ e, e ∈ sourceEndings → ∀ e', e' ∈ sourceEndings →
      ("." ++ platform.option ++ e).toList < e'.toList := by
    cases platform <;> decide
  exact hall ending h ending' h'

section Beside

variable {tree : FileTree} {roots : List Path} {selection : Selection} {files : List Traced}
variable {x y : Traced} {platform : Platform} {directory : List String} {name : String}

/-- Of two files of a directory, the one for a platform comes before the common one. -/
theorem path_lt_of_beside
    (h : tree.traced roots selection = .ok files)
    (hx : x ∈ files)
    (hy : y ∈ files)
    (hgiven : tree.isGiven x.root = false)
    (hroot : tree.resolve y.root = tree.resolve x.root)
    (hcommon : x.IsCommon directory name)
    (hfor : y.IsFor platform directory name) :
    y.source.path < x.source.path := by
  obtain ⟨ending', hending', hplace⟩ := hcommon
  obtain ⟨ending, hending, hplace'⟩ := hfor
  have hgiven' : tree.isGiven y.root = false := by
    rw [FileTree.isGiven, hroot]
    exact hgiven
  rw [String.lt_iff_toList_lt, FileTree.path_of_mem_traced h hx hgiven hplace,
    FileTree.path_of_mem_traced h hy hgiven' hplace', hroot, String.toList_append,
    String.toList_append (s := name)]
  exact List.append_left_lt (List.append_left_lt (option_lt_ending platform hending hending'))

/-- Files of a directory with the same name before the first dot stand for the same module. -/
theorem moduleName_of_isFor
    (h : tree.traced roots selection = .ok files)
    (hy : y ∈ files)
    (hname : '.' ∉ name.toList)
    (hfor : y.IsFor platform directory name) :
    y.source.moduleName = name := by
  obtain ⟨ending, -, hplace⟩ := hfor
  rw [FileTree.moduleName_of_mem_traced h hy]
  have hlast : (Path.absolute y.place).name.toList =
      name.toList ++ '.' :: (platform.option ++ ending).toList := by
    rw [hplace, Path.name, Path.absolute, List.getLast?_concat, Option.getD_some]
    simp
  exact Path.moduleName_of_name hname hlast

/-- A file for the platform gives no schema where the common file beside it gives the module. -/
theorem not_gives_of_origin?
    {grammar : Grammar}
    (h : tree.traced roots selection = .ok files)
    (horigin : Traced.origin? grammar (some platform) files name = some x)
    (hgiven : tree.isGiven x.root = false)
    (hcommon : x.IsCommon directory name)
    (hy : y ∈ files)
    (hroot : tree.resolve y.root = tree.resolve x.root)
    (hfor : y.IsFor platform directory name) :
    y.gives grammar (some platform) = false := by
  have hx := List.mem_of_find?_eq_some horigin
  have hlt := path_lt_of_beside h hx hy hgiven hroot hcommon hfor
  obtain ⟨hfound, before, after, rfl, hbefore⟩ := List.find?_eq_some_iff_append.1 horigin
  have hname : x.source.moduleName = name := eq_of_beq (Bool.and_eq_true_iff.1 hfound).1
  have hdot : '.' ∉ name.toList := by
    rw [← hname, FileTree.moduleName_of_mem_traced h hx]
    exact Path.dot_not_mem_moduleName _
  have hsorted := FileTree.pairwise_traced h
  rw [List.pairwise_append, List.pairwise_cons] at hsorted
  have hmodule := moduleName_of_isFor h hy hdot hfor
  rcases List.mem_append.1 hy with hy | hy
  · simpa [hmodule] using hbefore y hy
  · -- The common file and those after it do not come before it.
    have hle : x.source.path ≤ y.source.path := by
      rcases List.mem_cons.1 hy with rfl | hy
      · exact le_refl _
      · exact hsorted.2.1.1 y hy
    exact absurd hlt (not_lt_of_ge hle)

end Beside

/-! ## Modules and the files they come from -/

/-- Where names are distinct, the name of a module stands for its schema. -/
theorem Combined.schemaOf?_of_mem
    {c : Combined}
    (hdistinct : (c.modules.map NamedSchema.name).Nodup)
    {n : NamedSchema}
    (hn : n ∈ c.modules) :
    c.schemaOf? n.name = some n.schema := by
  rw [schemaOf?]
  cases hfound : c.modules.find? fun m => m.name == n.name with
  | none =>
      have hself := List.find?_eq_none.1 hfound n hn
      exact absurd (beq_self_eq_true n.name) hself
  | some m =>
      have hname := List.find?_some (p := fun m : NamedSchema => m.name == n.name) hfound
      have hmem := List.mem_of_find?_eq_some hfound
      rw [List.inj_on_of_nodup_map hdistinct hmem hn (eq_of_beq hname), Option.map_some]

namespace Traced

variable {grammar : Grammar} {platform : Option Platform} {files : List Traced}

/-- The first result of a name that counts is that of the file that the module comes from. -/
theorem find?_results
    (name : String) :
    ((((files.map fun x => x.source).filter fun f => isCandidate f.content).map
        (buildFile grammar)).find? fun r => r.moduleName == name && r.counts platform) =
      (origin? grammar platform files name).map fun x => buildFile grammar x.source := by
  rw [List.find?_map, List.find?_filter, List.find?_map, Option.map_map, origin?]
  refine congrArg (Option.map _) (congrArg (List.find? · files) (funext fun x => ?_))
  rw [Bool.eq_iff_iff]
  simp only [Function.comp_apply, gives, buildFile, decide_eq_true_eq, Bool.and_eq_true]
  exact and_left_comm

/-- Every module comes from a file. -/
theorem exists_origin?
    {c : Combined}
    (hc : c.Merges grammar platform (files.map fun x => x.source))
    {n : NamedSchema}
    (hn : n ∈ c.modules) :
    ∃ x, origin? grammar platform files n.name = some x ∧
      (buildFile grammar x.source).schema? = some n.schema := by
  have hschema := Combined.schemaOf?_of_mem hc.distinct hn
  rw [hc.modules, hc.results, find?_results] at hschema
  obtain ⟨r, hr, hschema⟩ := Option.bind_eq_some_iff.1 hschema
  obtain ⟨x, hx, rfl⟩ := Option.map_eq_some_iff.1 hr
  exact ⟨x, hx, hschema⟩

end Traced

/--
The file that a module comes from is the first one of its name that gives it a schema on
the platform.  If it is the common file of a directory that was searched, no file for the
platform beside it, found from the same root, gives a schema.
-/
structure Overrides
    (grammar : Grammar)
    (tree : FileTree)
    (platform : Platform)
    (files : List Traced)
    (c : Combined) : Prop where
  origin : ∀ n, n ∈ c.modules →
    ∃ x, Traced.origin? grammar (some platform) files n.name = some x ∧
      (buildFile grammar x.source).schema? = some n.schema
  beside : ∀ name x, Traced.origin? grammar (some platform) files name = some x →
    tree.isGiven x.root = false → ∀ directory, x.IsCommon directory name →
      ∀ y, y ∈ files → tree.resolve y.root = tree.resolve x.root → y.IsFor platform directory name →
        y.gives grammar (some platform) = false

/-- A file for the platform that is asked for comes before the common file beside it. -/
theorem platform_overrides
    {grammar : Grammar}
    {patterns : PatternSyntax}
    {tree : FileTree}
    {roots : List Path}
    {platform : Platform}
    {exclude : Option String}
    {c : Combined}
    (h : combineWith grammar patterns tree roots (some platform.option) exclude = .ok c) :
    ∃ limits files, Limits.read patterns (some platform.option) exclude = .ok limits ∧
      tree.traced roots limits.selection = .ok files ∧
      c.results = (files.filter fun x => isCandidate x.source.content).map
        (fun x => buildFile grammar x.source) ∧
      Overrides grammar tree platform files c := by
  obtain ⟨limits, hlimits, hcombine⟩ := bind_eq_ok_iff.1 h
  have hlimits := mapError_eq_ok_iff.1 hlimits
  have hplatform : limits.platform = some platform := by
    obtain ⟨p, hp, hlimits⟩ := bind_eq_ok_iff.1 hlimits
    obtain ⟨occurs, -, hlimits⟩ := bind_eq_ok_iff.1 hlimits
    cases hlimits
    cases platform <;> cases hp <;> rfl
  obtain ⟨sources, hsources, rfl⟩ := map_eq_ok_iff.1 (mapError_eq_ok_iff.1 hcombine)
  rw [FileTree.collect_eq_map_placed, FileTree.placed_eq_map_traced] at hsources
  obtain ⟨placed, hplaced, rfl⟩ := map_eq_ok_iff.1 hsources
  obtain ⟨files, hfiles, rfl⟩ := map_eq_ok_iff.1 hplaced
  rw [List.map_map, hplatform]
  have hmerges : (combineFiles grammar (some platform) (files.map fun x => x.source)).Merges
      grammar (some platform) (files.map fun x => x.source) :=
    merges_combineFiles (FileTree.collect_of_traced hfiles) (some platform)
  refine ⟨limits, files, hlimits, hfiles, ?_, ?_⟩
  · rw [combineFiles, List.filter_map, List.map_map]
    rfl
  · exact ⟨fun n => Traced.exists_origin? hmerges,
      fun name x hx hgiven directory hcommon y hy hroot hfor =>
        not_gives_of_origin? hfiles hx hgiven hcommon hy hroot hfor⟩

/-! ## Two files of one module -/

namespace VariantFiles

open FooFiles (grammar here)

def tree : FileTree :=
  ⟨[⟨here ++ ["specs", "NativeFoo.ios.ts"], FooFiles.text.toUTF8⟩,
    ⟨here ++ ["specs", "NativeFoo.ts"], FooFiles.otherText.toUTF8⟩], [], here⟩

def root : Path := .relative ["specs"]

def limits : Limits := ⟨some .ios, none⟩

/-- The file for the platform. -/
def file : Traced where
  root := root
  place := here ++ ["specs", "NativeFoo.ios.ts"]
  source := ⟨"NativeFoo.ios.ts", FooFiles.text, "NativeFoo", Dialect.typescript.name⟩

theorem candidates_eq :
    tree.candidates limits.selection root =
      .ok [file.place, here ++ ["specs", "NativeFoo.ts"]] := by
  have hwanted : (tree.files.map File.path).filter
      (FileTree.isWanted [] limits.selection (tree.resolve root)) =
        [file.place, here ++ ["specs", "NativeFoo.ts"]] := by
    unfold FileTree.isWanted FileTree.isSource Path.isNeverScanned
    simp only [Pattern.isGenerated_eq]
    decide +kernel
  exact FileTree.candidates_of_unruled rfl rfl hwanted (by decide +kernel)

theorem exists_combined :
    ∃ c, combineWith grammar Pattern.written tree [root] (some Platform.ios.option) none =
      .ok c := by
  have hlimits : Limits.read Pattern.written (some Platform.ios.option) none = .ok limits := rfl
  have hread : tree.collectRoot limits.selection root = _ :=
    bind_eq_ok_iff.2 ⟨_, candidates_eq, rfl⟩
  have hcollect : tree.collect [root] limits.selection = _ :=
    FileTree.collect_eq_ok_iff.2 ⟨_, mapM_cons_eq_ok_iff.2 ⟨_, [], hread, rfl, rfl⟩, rfl⟩
  obtain ⟨c, -, hc, -⟩ := exists_merges_of_collect hlimits hcollect grammar
  exact ⟨c, hc⟩

theorem gives_file :
    file.gives grammar (some .ios) = true := by
  have hcounts : (buildFile grammar file.source).counts (some .ios) = true := by
    decide
  rw [Traced.gives, hcounts, Bool.and_true]
  exact FooFiles.isCandidate_text

theorem mem_traced
    {files : List Traced}
    (h : tree.traced [root] limits.selection = .ok files) :
    file ∈ files := by
  refine (FileTree.mem_traced_iff h).2
    ⟨List.mem_cons_self, _, candidates_eq, List.mem_cons_self, ?_⟩
  rw [FileTree.source?_of_file? rfl FooFiles.decode_text (d := .typescript) (by decide) (by decide)]
  rfl

end VariantFiles

/-- The file for the platform gives a schema, so the module does not come from the other file. -/
theorem variantFiles_override :
    ∃ c files, combineWith FooFiles.grammar Pattern.written VariantFiles.tree [VariantFiles.root]
        (some Platform.ios.option) none = .ok c ∧
      Overrides FooFiles.grammar VariantFiles.tree .ios files c ∧
      ∀ x, Traced.origin? FooFiles.grammar (some .ios) files "NativeFoo" = some x →
        ¬ x.IsCommon (FooFiles.here ++ ["specs"]) "NativeFoo" := by
  obtain ⟨c, hc⟩ := VariantFiles.exists_combined
  obtain ⟨limits, files, hlimits, hfiles, -, hoverrides⟩ := platform_overrides hc
  cases hlimits
  refine ⟨c, files, hc, hoverrides, fun x hx hcommon => ?_⟩
  have hroot : x.root = VariantFiles.root := List.mem_singleton.1
    ((FileTree.mem_traced_iff hfiles).1 (List.mem_of_find?_eq_some hx)).1
  have hgiven : VariantFiles.tree.isGiven x.root = false := by
    rw [hroot]
    decide
  have hfor : VariantFiles.file.IsFor .ios (FooFiles.here ++ ["specs"]) "NativeFoo" :=
    ⟨".ts", by decide, by decide⟩
  have hnot := hoverrides.beside _ x hx hgiven _ hcommon _ (VariantFiles.mem_traced hfiles)
    (by rw [hroot]; rfl) hfor
  rw [VariantFiles.gives_file] at hnot
  cases hnot

end ModuleSpec
