import ModuleSpec.Proofs.Merging

/-!
# The order of files and roots

What is collected is put in order twice, so that neither the order in which files
are come upon nor the order of the roots shows in it.  Only where files of several
roots have the same path does the order of the roots decide: the file of the first
root comes first, and gives the module if it can.

**Idea.**  Both sorts are stable.  The first compares places, which are distinct; the
second compares the texts of paths and keeps files of one path as the roots had them.

**Results.**  `combine_ordered`.
-/

namespace ModuleSpec

section Enumeration

variable {tree tree' : FileTree}

/-- The same files in another order are those of a file system too. -/
theorem FileTree.Sound.of_perm
    (h : tree.Sound)
    (hperm : tree'.files.Perm tree.files) :
    tree'.Sound where
  distinct := (hperm.map File.path).nodup_iff.2 h.distinct
  apart := fun f hf g hg => h.apart f (hperm.mem_iff.1 hf) g (hperm.mem_iff.1 hg)

theorem FileTree.Sound.agree_of_perm
    (h : tree.Sound)
    (hperm : tree'.files.Perm tree.files)
    (hhere : tree'.here = tree.here) :
    FileTree.Agree (fun _ => true) tree tree' where
  sound := h
  sound' := h.of_perm hperm
  here := hhere
  file? := by
    intro path _
    refine Option.ext fun f => ?_
    rw [(h.of_perm hperm).file?_eq_some_iff, h.file?_eq_some_iff, hperm.mem_iff]
  source := nofun
  bare := nofun

/-- The order in which the files are come upon does not matter. -/
theorem collect_of_perm
    (h : tree.Sound)
    (hperm : tree'.files.Perm tree.files)
    (hhere : tree'.here = tree.here)
    (roots : List Path)
    (selection : Selection) :
    tree'.collect roots selection = tree.collect roots selection := by
  have hplaced := (h.agree_of_perm hperm hhere).placed_filter roots selection
  have hall : (List.filter ((fun _ => true) ∘ Placed.place) : List Placed → List Placed) = id :=
    funext fun files => List.filter_eq_self.2 fun _ _ => rfl
  have hid : ∀ x : Except CollectError (List Placed), x.map id = x := by
    intro x
    cases x <;> rfl
  rw [hall, hid, hid] at hplaced
  rw [FileTree.collect_eq_map_placed, FileTree.collect_eq_map_placed, hplaced]

end Enumeration

section Roots

variable {tree : FileTree} {roots roots' : List Path} {selection : Selection}
variable {files : List SourceFile}

/-- Where the paths are distinct the order of the roots does not matter. -/
theorem collect_of_roots_perm
    (hroots : roots'.Perm roots)
    (hfiles : tree.collect roots selection = .ok files)
    (hdistinct : (files.map SourceFile.path).Nodup) :
    tree.collect roots' selection = .ok files := by
  obtain ⟨groups, hgroups, rfl⟩ := FileTree.collect_eq_ok_iff.1 hfiles
  obtain ⟨groups', hgroups', hperm⟩ := exists_mapM_of_perm hroots.symm hgroups
  refine FileTree.collect_eq_ok_iff.2 ⟨groups', hgroups', ?_⟩
  refine (Compares.text SourceFile.path).mergeSort_eq_of_perm hperm.flatten ?_
  intro a b ha hb hab hba
  refine List.inj_on_of_nodup_map hdistinct (List.mem_mergeSort.2 ha) (List.mem_mergeSort.2 hb) ?_
  exact String.le_antisymm (of_decide_eq_true hab) (of_decide_eq_true hba)

/-- Files of one path come in the order of the roots. -/
theorem filter_collect
    {groups : List (List SourceFile)}
    (hgroups : roots.mapM (tree.collectRoot selection) = .ok groups)
    (hfiles : tree.collect roots selection = .ok files)
    (path : String) :
    files.filter (fun f => f.path == path) = groups.flatten.filter fun f => f.path == path := by
  obtain ⟨groups', hgroups', rfl⟩ := FileTree.collect_eq_ok_iff.1 hfiles
  rw [Except.ok.inj (hgroups'.symm.trans hgroups)]
  refine (Compares.text SourceFile.path).filter_mergeSort_of_alike ?_ groups.flatten
  intro a b ha hb
  rw [eq_of_beq ha, eq_of_beq hb]
  exact decide_eq_true (String.le_refl path)

end Roots

/-! ## The first root -/

section First

variable {grammar : Grammar} {tree : FileTree} {roots : List Path} {limits : Limits}

/-- The results of the candidates, in the order of the roots. -/
def resultsInOrder
    (grammar : Grammar)
    (groups : List (List SourceFile)) :
    List FileResult :=
  (groups.flatten.filter fun f => isCandidate f.content).map (buildFile grammar)

/-- Results of one path come in the order of the roots. -/
theorem filter_results
    {groups : List (List SourceFile)}
    (hgroups : roots.mapM (tree.collectRoot limits.selection) = .ok groups)
    {c : Combined}
    (hc : combine grammar tree roots limits = .ok c)
    (path : String) :
    c.results.filter (fun r => r.path == path) =
      (resultsInOrder grammar groups).filter fun r => r.path == path := by
  obtain ⟨files, hfiles, rfl⟩ := map_eq_ok_iff.1 hc
  have hfilter : ∀ l : List SourceFile,
      ((l.filter fun f => isCandidate f.content).map (buildFile grammar)).filter
          (fun r => r.path == path) =
        ((l.filter fun f => f.path == path).filter fun f => isCandidate f.content).map
          (buildFile grammar) := by
    intro l
    rw [List.filter_map, List.filter_comm]
    rfl
  exact (hfilter files).trans
    ((congrArg (fun l => (l.filter fun f => isCandidate f.content).map (buildFile grammar))
      (filter_collect hgroups hfiles path)).trans (hfilter groups.flatten).symm)

/-- What comes first comes first among those that share something with it. -/
theorem find?_filter_of_find?
    {α : Type}
    {l : List α}
    {p q : α → Bool}
    {a : α}
    (h : l.find? p = some a)
    (ha : q a = true) :
    (l.filter q).find? p = some a := by
  obtain ⟨hp, before, after, rfl, hbefore⟩ := List.find?_eq_some_iff_append.1 h
  rw [List.find?_eq_some_iff_append, List.filter_append, List.filter_cons_of_pos ha]
  exact ⟨hp, _, _, rfl, fun b hb => hbefore b (List.mem_filter.1 hb).1⟩

/-- A module comes from the first root that has a file of its path with a schema that counts. -/
theorem first_of_schemaOf?
    {groups : List (List SourceFile)}
    (hgroups : roots.mapM (tree.collectRoot limits.selection) = .ok groups)
    {c : Combined}
    (hc : combine grammar tree roots limits = .ok c)
    {name : String}
    {schema : Schema}
    (hschema : c.schemaOf? name = some schema) :
    ∃ r, r.schema? = some schema ∧
      ((resultsInOrder grammar groups).filter fun s => s.path == r.path).find?
        (fun s => s.moduleName == name && s.counts limits.platform) = some r := by
  have hresults := filter_results hgroups hc
  obtain ⟨files, hfiles, rfl⟩ := map_eq_ok_iff.1 hc
  rw [(merges_combineFiles hfiles limits.platform).modules name] at hschema
  obtain ⟨r, hr, hschema⟩ := Option.bind_eq_some_iff.1 hschema
  refine ⟨r, hschema, ?_⟩
  rw [← hresults]
  exact find?_filter_of_find? hr (beq_self_eq_true r.path)

end First

/-! ## Order -/

/-- Where an order has no say in what is combined, and where it decides. -/
structure Ordered
    (grammar : Grammar)
    (patterns : PatternSyntax)
    (tree : FileTree)
    (roots : List Path) : Prop where
  /-- The order in which the files are come upon does not matter. -/
  enumeration : ∀ tree' : FileTree, tree.Sound → tree'.files.Perm tree.files →
    tree'.here = tree.here →
    (∀ selection, tree'.collect roots selection = tree.collect roots selection) ∧
      ∀ platform exclude, combineWith grammar patterns tree' roots platform exclude =
        combineWith grammar patterns tree roots platform exclude
  /-- Where the paths are distinct the order of the roots does not matter. -/
  rearranged : ∀ roots' selection files, roots'.Perm roots →
    tree.collect roots selection = .ok files → (files.map SourceFile.path).Nodup →
    tree.collect roots' selection = .ok files ∧
      ∀ platform exclude limits, Limits.read patterns platform exclude = .ok limits →
        limits.selection = selection →
        combineWith grammar patterns tree roots' platform exclude =
          combineWith grammar patterns tree roots platform exclude
  /-- Files of one path come in the order of the roots. -/
  stable : ∀ selection files, tree.collect roots selection = .ok files →
    ∃ groups, roots.mapM (tree.collectRoot selection) = .ok groups ∧
      ∀ path, files.filter (fun f => f.path == path) =
        groups.flatten.filter fun f => f.path == path
  /-- A module comes from the first root that has a file of its path with a schema that counts. -/
  first : ∀ limits c, combine grammar tree roots limits = .ok c →
    ∃ groups, roots.mapM (tree.collectRoot limits.selection) = .ok groups ∧
      ∀ name schema, c.schemaOf? name = some schema →
        ∃ r, r.schema? = some schema ∧
          ((resultsInOrder grammar groups).filter fun s => s.path == r.path).find?
            (fun s => s.moduleName == name && s.counts limits.platform) = some r

theorem combineWith_eq_of_collect
    {grammar : Grammar}
    {patterns : PatternSyntax}
    {tree tree' : FileTree}
    {roots roots' : List Path}
    {platform exclude : Option String}
    (h : ∀ limits, Limits.read patterns platform exclude = .ok limits →
      tree'.collect roots' limits.selection = tree.collect roots limits.selection) :
    combineWith grammar patterns tree' roots' platform exclude =
      combineWith grammar patterns tree roots platform exclude := by
  rw [combineWith, combineWith]
  cases hlimits : Limits.read patterns platform exclude with
  | error e =>
      rfl
  | ok limits =>
      refine congrArg (Except.mapError CombineError.collect) ?_
      rw [combine, combine, h limits hlimits]

/--
Neither the order in which the files are come upon nor, where the paths are distinct, the
order of the roots matters.  Where they are not, the first root wins.
-/
theorem combine_ordered
    (grammar : Grammar)
    (patterns : PatternSyntax)
    (tree : FileTree)
    (roots : List Path) :
    Ordered grammar patterns tree roots where
  enumeration := by
    intro tree' hsound hperm hhere
    have hcollect := collect_of_perm hsound hperm hhere roots
    exact ⟨hcollect, fun platform exclude =>
      combineWith_eq_of_collect fun limits _ => hcollect limits.selection⟩
  rearranged := by
    intro roots' selection files hroots hfiles hdistinct
    have hfiles' := collect_of_roots_perm hroots hfiles hdistinct
    refine ⟨hfiles', fun platform exclude limits hlimits hselection => ?_⟩
    refine combineWith_eq_of_collect fun limits' hlimits' => ?_
    rw [← Except.ok.inj (hlimits.symm.trans hlimits'), hselection, hfiles', hfiles]
  stable := by
    intro selection files hfiles
    obtain ⟨groups, hgroups, -⟩ := FileTree.collect_eq_ok_iff.1 hfiles
    exact ⟨groups, hgroups, filter_collect hgroups hfiles⟩
  first := by
    intro limits c hc
    obtain ⟨files, hfiles, -⟩ := map_eq_ok_iff.1 hc
    obtain ⟨groups, hgroups, -⟩ := FileTree.collect_eq_ok_iff.1 hfiles
    exact ⟨groups, hgroups, fun name schema => first_of_schemaOf? hgroups hc⟩

/-! ## Roots with files of one path -/

namespace TwoRoots

open FooFiles (grammar here text otherText)

def near : Path := .relative ["specs"]

def far : Path := .absolute ["lib"]

def other : Path := .relative ["more"]

def file : File := ⟨here ++ ["specs", "NativeFoo.ts"], text.toUTF8⟩

def farFile : File := ⟨["lib", "NativeFoo.ts"], otherText.toUTF8⟩

def otherFile : File := ⟨here ++ ["more", "NativeBar.ts"], otherText.toUTF8⟩

/-- Two of the roots have a file of one path; one of these does not lie where the others do. -/
def tree : FileTree := ⟨[file, farFile, otherFile], [], here⟩

/-- The files are come upon in another order. -/
def reversed : FileTree := { tree with files := [otherFile, farFile, file] }

def limits : Limits := ⟨none, none⟩

def source : SourceFile :=
  ⟨"NativeFoo.ts", text, "NativeFoo", Dialect.typescript.name⟩

def farSource : SourceFile :=
  ⟨"NativeFoo.ts", otherText, "NativeFoo", Dialect.typescript.name⟩

def otherSource : SourceFile :=
  ⟨"NativeBar.ts", otherText, "NativeBar", Dialect.typescript.name⟩

theorem sound :
    tree.Sound :=
  ⟨by decide, by decide⟩

/-- Of the files one lies under each root. -/
theorem filter_wanted :
    ∀ x, x ∈ [(near, file), (far, farFile), (other, otherFile)] →
      (tree.files.map File.path).filter
        (FileTree.isWanted [] limits.selection (tree.resolve x.1)) = [x.2.path] := by
  unfold FileTree.isWanted FileTree.isSource Path.isNeverScanned
  simp only [Pattern.isGenerated_eq]
  decide +kernel

theorem collectRoot_of_source
    {root : Path}
    {f : File}
    {s : SourceFile}
    (h : (root, f) ∈ [(near, file), (far, farFile), (other, otherFile)])
    (hsource : tree.source? (FileTree.relativeTo (tree.resolve root) f.path) f.path = some s) :
    tree.collectRoot limits.selection root = .ok [s] := by
  have hunruled : tree.isFile (tree.resolve root) = false ∧
      tree.file? (tree.resolve root ++ [".gitignore"]) = none := by
    simp only [List.mem_cons, Prod.mk.injEq, List.not_mem_nil, or_false] at h
    rcases h with ⟨rfl, -⟩ | ⟨rfl, -⟩ | ⟨rfl, -⟩ <;> exact ⟨rfl, rfl⟩
  have hfound : tree.candidates limits.selection root = .ok [f.path] :=
    FileTree.candidates_of_unruled hunruled.1 hunruled.2 (filter_wanted (root, f) h)
      (List.pairwise_singleton _ _)
  exact FileTree.collectRoot_of_candidates hfound (.cons hsource .nil)

theorem collectRoot_near :
    tree.collectRoot limits.selection near = .ok [source] := by
  refine collectRoot_of_source (f := file) (by simp) ?_
  rw [FileTree.source?_of_file? rfl FooFiles.decode_text (d := .typescript) (by decide) (by decide)]
  rfl

theorem collectRoot_far :
    tree.collectRoot limits.selection far = .ok [farSource] := by
  refine collectRoot_of_source (f := farFile) (by simp) ?_
  rw [FileTree.source?_of_file? rfl FooFiles.decode_otherText (d := .typescript) (by decide)
    (by decide)]
  rfl

theorem collectRoot_other :
    tree.collectRoot limits.selection other = .ok [otherSource] := by
  refine collectRoot_of_source (f := otherFile) (by simp) ?_
  rw [FileTree.source?_of_file? rfl FooFiles.decode_otherText (d := .typescript) (by decide)
    (by decide)]
  rfl

/-- Files of one path are combined as they come from the roots. -/
theorem exists_combined
    {roots : List Path}
    {f f' : SourceFile}
    (hroots : roots.mapM (tree.collectRoot limits.selection) = .ok [[f], [f']])
    (hpath : f.path = f'.path) :
    ∃ c, combine grammar tree roots limits = .ok c ∧
      combineWith grammar Pattern.written tree roots none none = .ok c ∧
      c.Merges grammar none [f, f'] := by
  have hfiles : tree.collect roots limits.selection = .ok [f, f'] := by
    refine FileTree.collect_eq_ok_iff.2 ⟨_, hroots, (List.mergeSort_of_pairwise ?_).symm⟩
    simp [hpath]
  exact exists_merges_of_collect rfl hfiles grammar

/-- The two results of one path are those of `NativeFoo`, in the order of the roots. -/
theorem resultsInOrder_filter
    {f f' : SourceFile}
    {r : FileResult}
    (hsources : ∀ g, g ∈ [f, f'] → g ∈ [source, farSource])
    (hr : r ∈ resultsInOrder grammar [[f], [f']]) :
    (resultsInOrder grammar [[f], [f']]).filter (fun s => s.path == r.path) =
      [f, f'].map (buildFile grammar) := by
  have hpath : ∀ g, g ∈ [f, f'] → isCandidate g.content = true ∧ g.path = "NativeFoo.ts" := by
    intro g hg
    rcases List.mem_pair.1 (hsources g hg) with rfl | rfl
    · exact ⟨FooFiles.isCandidate_text, rfl⟩
    · exact ⟨FooFiles.isCandidate_otherText, rfl⟩
  have hresults : resultsInOrder grammar [[f], [f']] = [f, f'].map (buildFile grammar) :=
    congrArg (List.map (buildFile grammar)) (List.filter_eq_self.2 fun g hg => (hpath g hg).1)
  have hall : ∀ s, s ∈ [f, f'].map (buildFile grammar) → s.path = "NativeFoo.ts" := by
    intro s hs
    obtain ⟨g, hg, rfl⟩ := List.mem_map.1 hs
    exact (hpath g hg).2
  rw [hresults] at hr ⊢
  exact List.filter_eq_self.2 fun s hs => beq_iff_eq.2 ((hall s hs).trans (hall r hr).symm)

/-- The module that is registered where its first file is. -/
theorem moduleNames_of_first
    {f f' : SourceFile}
    {names : List String}
    (hsources : ∀ g, g ∈ [f, f'] → g ∈ [source, farSource])
    (hnames : (([buildFile grammar f, buildFile grammar f'].find?
      fun s => s.moduleName == "NativeFoo" && s.counts none).bind FileResult.schema?).map
        Schema.moduleNames = some names)
    {schema : Schema}
    {r : FileResult}
    (hschema : r.schema? = some schema)
    (hr : ((resultsInOrder grammar [[f], [f']]).filter fun s => s.path == r.path).find?
      (fun s => s.moduleName == "NativeFoo" && s.counts none) = some r) :
    schema.moduleNames = names := by
  have hmem := (List.mem_filter.1 (List.mem_of_find?_eq_some hr)).1
  rw [resultsInOrder_filter hsources hmem] at hr
  rw [← List.map_singleton, ← List.map_cons, hr, Option.bind_some, hschema] at hnames
  exact Option.some.inj hnames

end TwoRoots

/--
Of two roots with a file of one path the first one gives the module.  Where the paths are
distinct the roots can change places, and the files can be come upon in any order.
-/
theorem twoRoots_ordered :
    ∃ c c' schema schema',
      combineWith FooFiles.grammar Pattern.written TwoRoots.tree [TwoRoots.near, TwoRoots.far]
        none none = .ok c ∧
      combineWith FooFiles.grammar Pattern.written TwoRoots.tree [TwoRoots.far, TwoRoots.near]
        none none = .ok c' ∧
      c.schemaOf? "NativeFoo" = some schema ∧ schema.moduleNames = ["Foo"] ∧
      c'.schemaOf? "NativeFoo" = some schema' ∧ schema'.moduleNames = ["Bar"] ∧
      combineWith FooFiles.grammar Pattern.written TwoRoots.reversed [TwoRoots.near, TwoRoots.far]
        none none = .ok c ∧
      combineWith FooFiles.grammar Pattern.written TwoRoots.tree [TwoRoots.other, TwoRoots.near]
          none none =
        combineWith FooFiles.grammar Pattern.written TwoRoots.tree [TwoRoots.near, TwoRoots.other]
          none none := by
  have hgroups := mapM_pair TwoRoots.collectRoot_near TwoRoots.collectRoot_far
  have hgroups' := mapM_pair TwoRoots.collectRoot_far TwoRoots.collectRoot_near
  obtain ⟨c, hcombine, hwith, hmerges⟩ := TwoRoots.exists_combined hgroups rfl
  obtain ⟨c', hcombine', hwith', hmerges'⟩ := TwoRoots.exists_combined hgroups' rfl
  have hordered := combine_ordered FooFiles.grammar Pattern.written TwoRoots.tree
    [TwoRoots.near, TwoRoots.far]
  have hordered' := combine_ordered FooFiles.grammar Pattern.written TwoRoots.tree
    [TwoRoots.far, TwoRoots.near]
  obtain ⟨schema, hschema⟩ : ∃ schema, c.schemaOf? "NativeFoo" = some schema := by
    rw [← Option.isSome_iff_exists, hmerges.modules, hmerges.results]
    decide +kernel
  obtain ⟨schema', hschema'⟩ : ∃ schema, c'.schemaOf? "NativeFoo" = some schema := by
    rw [← Option.isSome_iff_exists, hmerges'.modules, hmerges'.results]
    decide +kernel
  refine ⟨c, c', schema, schema', hwith, hwith', hschema, ?_, hschema', ?_, ?_, ?_⟩
  · obtain ⟨groups, hfound, hfirst⟩ := hordered.first _ _ hcombine
    cases hgroups.symm.trans hfound
    obtain ⟨r, hr, hfirst⟩ := hfirst _ _ hschema
    exact TwoRoots.moduleNames_of_first (fun _ hg => hg) (by decide +kernel) hr hfirst
  · obtain ⟨groups, hfound, hfirst⟩ := hordered'.first _ _ hcombine'
    cases hgroups'.symm.trans hfound
    obtain ⟨r, hr, hfirst⟩ := hfirst _ _ hschema'
    exact TwoRoots.moduleNames_of_first (fun _ hg => List.mem_pair.2 (List.mem_pair.1 hg).symm)
      (by decide +kernel) hr hfirst
  · have hperm : TwoRoots.reversed.files.Perm TwoRoots.tree.files :=
      List.reverse_perm TwoRoots.tree.files
    rw [(hordered.enumeration _ TwoRoots.sound hperm rfl).2, hwith]
  · have hgroups := mapM_pair TwoRoots.collectRoot_near TwoRoots.collectRoot_other
    have hfiles := FileTree.collect_eq_ok_iff.2 ⟨_, hgroups, rfl⟩
    have hrearranged := (combine_ordered FooFiles.grammar Pattern.written TwoRoots.tree
      [TwoRoots.near, TwoRoots.other]).rearranged _ _ _ (List.Perm.swap _ _ []) hfiles
    refine (hrearranged ?_).2 none none TwoRoots.limits rfl rfl
    have hperm := (List.mergeSort_perm [TwoRoots.source, TwoRoots.otherSource]
      fun a b => decide (a.path ≤ b.path)).map SourceFile.path
    exact hperm.nodup_iff.2 (by decide)

end ModuleSpec
